import ZanovixCrm.Database.Session

/-!
# Diagnostic service

The diagnostic of an assessment, parsed. A document that does not parse counts as absent.

The exception that parsing may raise is caught and logged in the source; the log line is left out,
and what counts as parsing is `Platform.diagnosticRead`.
-/

namespace ZanovixCrm.DiagnosticService

def getDiagnostic (p : Platform) (serviceId : UUID) (clientIdFilter : Option UUID) :
    Tx (Option DiagnosticRead) := do
  let found ← .query fun db ↦
    (db.services.find? serviceId).filter fun s ↦ clientIdFilter.all (· = s.clientId)
  let service ← .demand found (.serviceNotFound serviceId)
  return if service.type = .assessment then service.diagnosticJson.bind p.diagnosticRead else none

end ZanovixCrm.DiagnosticService
