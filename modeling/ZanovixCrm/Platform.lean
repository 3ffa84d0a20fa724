import ZanovixCrm.Database.Columns

/-!
# The platform

The functions that the code calls and that are not part of the repository: the address validator,
the Unicode tables behind `str.upper`, the locale of the database, the hash. They are fields of one
structure, over which everything that uses them is parametrised. So no result depends on what they
compute, unless it names the property of theirs that it needs.

**Why these are parameters.** None of their code is in the repository, with one exception:
`diagnosticRead` is `DiagnosticRead.model_validate`, whose schema is. What it accepts is decided by
the coercions of Pydantic (a score may come as the text `"82"` or as `82.0`), and a document is kept
here by its canonical text, unparsed. No endpoint writes a document, and no result asks what is in
one beyond `isObject`.

**Settings** are those that a modelled function reads. The addresses of the services, the limits of
the pools and `TRUSTED_PROXIES`, which nothing reads, are left out.
-/

namespace ZanovixCrm

/-- The six dimensions of an assessment. -/
structure DiagnosticDimensions where
  /-- Each scored from 0 to 100. -/
  (data processes team infrastructure compliance leadership : ℤ)
deriving DecidableEq

/-- One item of an action plan. -/
structure DiagnosticPlanItem where
  /-- The text of the item, with its status `go`, `wait` or `skip`. -/
  (title status body : String)
deriving DecidableEq

/-- The parsed form of `services.diagnostic_json`. -/
structure DiagnosticRead where
  /-- The scores. -/
  dimensions : DiagnosticDimensions
  /-- The plan. -/
  plan : List DiagnosticPlanItem
  /-- The executive summary. -/
  summary : String
deriving DecidableEq

/-- What the code relies on and does not define. -/
structure Platform where
  /-- The addresses that `EmailStr` yields, and accepts unchanged. -/
  isEmail : String → Bool
  /-- The validator refuses longer addresses. -/
  isEmail_length : ∀ s, isEmail s = true → s.length ≤ 254
  /-- `str.upper`. -/
  upper : String → String
  /-- The key by which the collation of the database orders text. -/
  collate : String → String
  /-- Case folding in the locale of the database, as `ILIKE` applies it. -/
  ilower : String → String
  /-- Verification of a password against a stored hash; `none` if it raises. -/
  bcryptVerify : String → String → Option Bool
  /-- SHA-256 of the UTF-8 encoding, in hexadecimal. -/
  sha256 : String → String
  /-- A UUID in one of the spellings that Pydantic accepts. -/
  pydanticUUID : String → Option UUID
  /-- A UUID in one of the spellings that `uuid.UUID` accepts. -/
  pythonUUID : String → Option UUID
  /-- The document is a JSON object. -/
  isObject : Json → Bool
  /-- Validation of a document as a `DiagnosticRead`. -/
  diagnosticRead : Json → Option DiagnosticRead

/-- The settings, from the environment of the process. -/
structure Settings where
  /-- `PROJECT_NAME`. -/
  projectName : String
  /-- `CLIENT_PORTAL_ENABLED`. -/
  clientPortalEnabled : Bool
  /-- `JWT_EXPIRE_MINUTES`. -/
  jwtExpireMinutes : ℕ
  /-- `IP_HASH_SALT`. -/
  ipHashSalt : String

/-! ### Samples -/

/-- A platform for examples. It agrees with the real one on the texts that the examples use. -/
def Platform.sample : Platform where
  isEmail s := s ∈ ["ada@example.com", "root@example.com", "client@example.com"]
  isEmail_length s h := by
    have hall : ∀ t ∈ ["ada@example.com", "root@example.com", "client@example.com"],
        t.length ≤ 254 := by decide
    exact hall s (of_decide_eq_true h)
  upper s := String.ofList (s.toList.map Char.toUpper)
  collate := id
  ilower s := String.ofList (s.toList.map Char.toLower)
  bcryptVerify _ _ := some false
  sha256 s :=
    if s = "unknownsalt" then "e37947a224b4443ac7a53797e9306003ebb88fd38b03712c235a7e3115dec167"
    else ""
  pydanticUUID _ := none
  pythonUUID _ := none
  isObject j := decide (j.text.toList.head? = some (Char.ofNat 123))
  diagnosticRead _ := none

/-- Settings for examples. -/
def Settings.sample : Settings where
  projectName := "Zanovix CRM"
  clientPortalEnabled := true
  jwtExpireMinutes := 480
  ipHashSalt := "salt"

end ZanovixCrm
