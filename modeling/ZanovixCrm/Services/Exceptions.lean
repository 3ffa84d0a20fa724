import ZanovixCrm.Database.Columns

/-!
# Exceptions

Everything a handler can raise: the domain exceptions of the service layer with the data they carry,
the `HTTPException` that routes and dependencies raise themselves, the errors of the database, and
whatever else ends in the general handler.

A fault carries what its handler reads and nothing else. Two domain exceptions of the source are
raised nowhere and are left out, and so is everything that only reaches the log. An exception that
no handler knows is one constructor without data (`unhandled`), because all of them end in the same
answer.
-/

namespace ZanovixCrm

/-- The ways in which PostgreSQL, or the ORM on top of it, refuses a statement. -/
inductive DbError where
  /-- `NULL` in a `NOT NULL` column. -/
  | notNull
  /-- A value outside the set of a `CHECK` constraint. -/
  | check
  /-- A second row with the values of a unique constraint, by the constraint's name. -/
  | unique (name : String)
  /-- A reference to a row that does not exist. -/
  | foreignKey
  /-- A value that is too long, out of range, or not representable. -/
  | data
  /-- An `UPDATE` by primary key that found no row. -/
  | stale
deriving DecidableEq

/-- The status codes with which an `HTTPException` is raised. -/
inductive ErrorStatus where
  | badRequest | unauthorized | forbidden | notFound | conflict | unprocessable | tooManyRequests
deriving DecidableEq

/-- The code of a status. -/
def ErrorStatus.code : ErrorStatus → ℕ
  | .badRequest => 400
  | .unauthorized => 401
  | .forbidden => 403
  | .notFound => 404
  | .conflict => 409
  | .unprocessable => 422
  | .tooManyRequests => 429

/-- The `detail` of an `HTTPException`. -/
inductive Detail where
  | text (s : String)
  | limitExceedsMax (max : ℤ)
  | ownerUserNotFound
  | invalidTransition (source target : String) (allowed : List String)
  | rateLimitExceeded (retryAfterSeconds : ℤ)
  | invalidUuid (field : String)
deriving DecidableEq

/-- An exception. -/
inductive Fault where
  | leadNotFound (leadId : UUID)
  | invalidTransition (source target : String) (allowed : List String)
  | clientNotFound (clientId : UUID)
  | serviceNotFound (serviceId : UUID)
  | contactNotFound (contactId : UUID)
  | milestoneNotFound (serviceId : UUID) (n : ℤ)
  | cannotCreateOnLostClient (clientId : UUID)
  | leadAlreadyConverted (leadId clientId : UUID)
  | leadNotQualified (leadId : UUID) (currentStatus : String)
  | ticketNotFound (ticketId : UUID)
  | billingProfileNotFound (profileId : UUID)
  | duplicateTaxId (clientId : UUID) (taxId : String)
  | cannotDeleteOnlyDefault (profileId : UUID)
  /-- An `HTTPException`. -/
  | http (status : ErrorStatus) (detail : Detail)
  /-- A Pydantic `ValidationError` raised inside a handler. -/
  | validation
  /-- An error of the database. -/
  | db (e : DbError)
  /-- Any other exception. -/
  | unhandled
deriving DecidableEq

end ZanovixCrm
