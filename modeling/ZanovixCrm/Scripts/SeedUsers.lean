import ZanovixCrm.Scripts.Session

/-!
# Seeding the users

The script for the three accounts of the system. A password that the environment does not give is a
default.
-/

namespace ZanovixCrm.SeedUsers

/-- An entry of `USERS_TO_SEED`. -/
structure Spec where
  email : Str 255
  displayName : Str 120
  role : Role
  envVar : String
  defaultPassword : String

/-- `USERS_TO_SEED`. -/
def usersToSeed : List Spec :=
  [⟨.lit "admin@zanovix.com", .lit "Admin Zanovix", .admin, "SEED_ADMIN_PASSWORD",
      "dev-changeme-admin"⟩,
    ⟨.lit "consultor@zanovix.com", .lit "Consultor Demo", .consultor, "SEED_CONSULTOR_PASSWORD",
      "dev-changeme-consultor"⟩,
    ⟨.lit "comercial@zanovix.com", .lit "Comercial Demo", .comercial, "SEED_COMERCIAL_PASSWORD",
      "dev-changeme-comercial"⟩]

/-- `_resolve_password`: an empty variable counts as none. -/
def resolvePassword (e : ScriptEnv) (envVar default : String) : String :=
  ((e.environ envVar).filter (· ≠ "")).getD default

/-- The new account, with the hash of its password. -/
def row (now : Time) (spec : Spec) (id : UUID) (hash : String) : Except DbError User := do
  let passwordHash : Str 255 ← encode (some hash)
  return {
    id, createdAt := now, updatedAt := now, email := spec.email, passwordHash, role := spec.role
    displayName := some spec.displayName, isActive := true, clientId := none }

/-- A new account; its password is hashed now. -/
def make (e : ScriptEnv) (i : ℕ) (spec : Spec) : Tx (Except DbError User) := do
  let rawPassword := resolvePassword e spec.envVar spec.defaultPassword
  let hash ← .demand (e.bcryptHash i rawPassword) .unhandled
  return row e.env.now spec (e.env.uuid i) hash

/-- The script. -/
def main (e : ScriptEnv) : Tx (ℕ × ℕ) := createMissing User.email Spec.email (make e) usersToSeed

end ZanovixCrm.SeedUsers
