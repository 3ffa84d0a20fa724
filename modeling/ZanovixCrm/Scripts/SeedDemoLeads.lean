import ZanovixCrm.Scripts.Session

/-!
# Seeding the leads

The script for five demo leads, which it tells apart by address, channel and vertical; the
table has no constraint on the three. An owner is looked up by address, and a lead whose owner is
not there has none.

The snapshots that the leads are stored with are a parameter here: they are not of the shape that
the public intake builds, and the script only stores them.
-/

namespace ZanovixCrm.SeedDemoLeads

/-- An entry of `LEADS_TO_SEED`. -/
structure Spec where
  name : Str 200
  email : Str 320
  phone : Option (Str 50)
  company : Option (Str 200)
  vertical : LeadVertical
  channel : LeadChannel
  status : LeadStatus
  notes : Text
  ownerEmail : Option (Str 255)

/-- `LEADS_TO_SEED`. -/
def leadsToSeed : List Spec :=
  [{ name := .lit "Clínica Dental Ramírez"
     email := .lit "clinica.ramirez@example.com"
     phone := some (.lit "+34 612 000 001")
     company := some (.lit "Clínica Dental Ramírez SL")
     vertical := .clinicasDentales
     channel := .emailMarketing
     status := .new
     notes := .lit "Lead captado por campaña de email Q1."
     ownerEmail := none },
   { name := .lit "Dra. Laura Vega"
     email := .lit "laura.vega@odontologia.es"
     phone := some (.lit "+34 612 000 002")
     company := some (.lit "Clínica Vega Dental")
     vertical := .clinicasDentales
     channel := .coldCalling
     status := .contacted
     notes := .lit "Primer contacto realizado. Pendiente demo."
     ownerEmail := some (.lit "consultor@zanovix.com") },
   { name := .lit "Carlos Montes"
     email := .lit "carlos.montes@empresa.com"
     phone := some (.lit "+34 612 000 003")
     company := some (.lit "Montes & Asociados")
     vertical := .general
     channel := .networking
     status := .qualified
     notes := .lit "Conocido en evento Madrid Tech 2026. Alta intención de compra."
     ownerEmail := some (.lit "consultor@zanovix.com") },
   { name := .lit "Clínica Oral Beltran"
     email := .lit "info@clinicabeltran.es"
     phone := some (.lit "+34 612 000 004")
     company := some (.lit "Clínica Oral Beltran")
     vertical := .clinicasDentales
     channel := .referral
     status := .converted
     notes := .lit "Referido por cliente existente. Contrato firmado."
     ownerEmail := some (.lit "comercial@zanovix.com") },
   { name := .lit "Sara Lozano"
     email := .lit "sara.lozano@gmail.com"
     phone := none
     company := none
     vertical := .general
     channel := .webForm
     status := .disqualified
     notes := .lit "No perfil de cliente. Descartado."
     ownerEmail := none }]

/-- What a lead is looked up by. -/
def leadKey (l : Lead) : Str 320 × LeadChannel × LeadVertical := (l.email, l.channel, l.vertical)

def Spec.key (spec : Spec) : Str 320 × LeadChannel × LeadVertical :=
  (spec.email, spec.channel, spec.vertical)

/-- `_resolve_owner`. -/
def resolveOwner (ownerEmail : Option (Str 255)) : Tx (Option UUID) :=
  match ownerEmail with
  | none => pure none
  | some email => do
    let user ← Session.existing fun u : User ↦ decide (u.email = email)
    return user.map User.id

/-- The new lead. -/
def row (e : ScriptEnv) (payload : RawPayload) (spec : Spec) (id : UUID) (ownerId : Option UUID) :
    Lead where
  id := id
  createdAt := e.env.now
  updatedAt := e.env.now
  name := spec.name
  email := spec.email
  phone := spec.phone
  company := spec.company
  vertical := spec.vertical
  channel := spec.channel
  status := spec.status
  sourceUrl := none
  notes := some spec.notes
  ownerId := ownerId
  rawPayload := payload
  convertedClientId := none
  role := none

/-- A new lead; its owner is looked up now. -/
def make (e : ScriptEnv) (payload : ℕ → RawPayload) (i : ℕ) (spec : Spec) :
    Tx (Except DbError Lead) := do
  let ownerId ← resolveOwner spec.ownerEmail
  return .ok (row e (payload i) spec (e.env.uuid i) ownerId)

/-- The script. -/
def main (e : ScriptEnv) (payload : ℕ → RawPayload) : Tx (ℕ × ℕ) :=
  createMissing leadKey Spec.key (make e payload) leadsToSeed

end ZanovixCrm.SeedDemoLeads
