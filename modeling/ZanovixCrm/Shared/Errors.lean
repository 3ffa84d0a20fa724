import Mathlib.Data.List.Infix
import ZanovixCrm.Services.Exceptions

/-!
# Error envelopes

What `http_exception_handler` makes of an `HTTPException`: a category and a guidance by its status,
and the text of its detail, translated into Spanish where one of the known phrases occurs in it. A
detail that is a dictionary is turned into its Python text first.

**Left out.** What is logged along with an error; `log_ref`, by which the log can be searched, is
random and a parameter of the wire format.
-/

namespace ZanovixCrm

/-- `ErrorCategory`, as far as errors of requests use it. -/
inductive ErrorCategory where
  | validationError | notFoundError | permissionError
  | databaseError | externalApiError | configurationError | unexpectedError
deriving DecidableEq

namespace ErrorCategory

/-- The value of a category. -/
def text : ErrorCategory → String
  | .validationError => "validation_error"
  | .notFoundError => "not_found_error"
  | .permissionError => "permission_error"
  | .databaseError => "database_error"
  | .externalApiError => "external_api_error"
  | .configurationError => "configuration_error"
  | .unexpectedError => "unexpected_error"

/-- `_build_guidance`. -/
def guidance : ErrorCategory → String
  | .validationError => "Verifique los datos proporcionados y corrija los errores."
  | .notFoundError => "Verifique que el recurso solicitado existe."
  | .permissionError => "No tiene permisos para realizar esta operación. " ++
      "Contacte al administrador si necesita acceso."
  | .databaseError => "Hubo un problema técnico con la base de datos. " ++
      "Por favor, intente nuevamente en unos momentos."
  | .externalApiError => "Hubo un problema con un servicio externo. " ++
      "Por favor, intente nuevamente en unos momentos."
  | .configurationError => "Hay un problema de configuración. " ++
      "Por favor, contacte al equipo técnico."
  | .unexpectedError => "Hubo un error inesperado. " ++
      "Por favor, intente nuevamente o contacte al soporte técnico."

end ErrorCategory

/-- `map_status_to_category`. -/
def mapStatusToCategory : ℕ → ErrorCategory
  | 400 | 409 | 422 => .validationError
  | 401 | 403 => .permissionError
  | 404 => .notFoundError
  | 502 | 503 | 504 => .externalApiError
  | _ => .unexpectedError

/-- `TRANSLATIONS`, in order. -/
def translations : List (String × String) :=
  [("Unauthorized", "No autorizado. Por favor, inicie sesión."),
    ("Forbidden", "Acceso prohibido. No tiene permisos para esta operación."),
    ("Invalid credentials", "Credenciales inválidas. Verifique su usuario y contraseña."),
    ("Token expired", "Su sesión ha expirado. Por favor, inicie sesión nuevamente."),
    ("Invalid token", "Token de autenticación inválido. Por favor, inicie sesión nuevamente."),
    ("Validation error", "Error de validación. Verifique los datos proporcionados."),
    ("Invalid input", "Entrada inválida. Verifique los datos proporcionados."),
    ("Missing required field", "Falta un campo requerido."),
    ("Invalid format", "Formato inválido."),
    ("Not found", "Recurso no encontrado."),
    ("Not Found", "Recurso no encontrado."),
    ("Resource not found", "Recurso no encontrado."),
    ("Database error", "Error de base de datos. Intente nuevamente."),
    ("Connection error", "Error de conexión. Intente nuevamente."),
    ("External API error", "Error de servicio externo. Intente nuevamente."),
    ("Service unavailable",
      "Servicio no disponible temporalmente. Intente nuevamente más tarde."),
    ("Configuration error", "Error de configuración del sistema. Contacte al administrador."),
    ("Internal server error", "Error interno del servidor. Intente nuevamente."),
    ("Unexpected error", "Error inesperado. Intente nuevamente.")]

/-- `sub in s`. -/
def occursIn (sub s : String) : Bool := decide (sub.toList <:+: s.toList)

/-- `translate_to_spanish`, where `lower` is `str.lower`. -/
def translateToSpanish (lower : String → String) (message : String) : String :=
  match translations.lookup message with
  | some translation => translation
  | none =>
    match translations.find? fun t ↦ occursIn (lower t.1) (lower message) with
    | some t => t.2
    | none => message

namespace Detail

/-- `repr` of a text without quotes, backslashes and control characters. -/
def quoted (s : String) : String := "'" ++ s ++ "'"

/-- `str(exc.detail)`. -/
def str : Detail → String
  | .text s => s
  | .limitExceedsMax max => "\x7b'error': 'limit_exceeds_max', 'max': " ++ toString max ++ "\x7d"
  | .ownerUserNotFound => "\x7b'error': 'owner_user_not_found'\x7d"
  | .invalidTransition source target allowed =>
    "\x7b'error': 'invalid_transition', 'from': " ++ quoted source ++ ", 'to': " ++ quoted target ++
      ", 'allowed': [" ++ ", ".intercalate (allowed.map quoted) ++ "]\x7d"
  | .rateLimitExceeded retryAfterSeconds =>
    "\x7b'error': 'rate_limit_exceeded', 'retry_after_seconds': " ++ toString retryAfterSeconds ++
      "\x7d"
  | .invalidUuid field => "\x7b'error': 'invalid_uuid', 'field': " ++ quoted field ++ "\x7d"

end Detail

end ZanovixCrm
