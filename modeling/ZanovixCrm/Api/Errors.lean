import ZanovixCrm.Schemas.Responses

/-!
# Errors

The exception handlers of the application: every fault has one answer.

The table is the one of `register_domain_error_handlers`. Handlers for exceptions that nothing
raises are left out, and so is what an answer says in words beyond its detail: that is the wire
format.
-/

namespace ZanovixCrm

/-- `sorted(…)` of a set of texts. -/
def sorted (texts : List String) : List String := sortOn id texts

/-- The answer to an exception. -/
def Fault.response : Fault → Response
  | .leadNotFound _ => ⟨404, .detail "Lead not found"⟩
  | .invalidTransition source target allowed =>
    ⟨409, .invalidTransition source target (sorted allowed)⟩
  | .clientNotFound _ => ⟨404, .detail "Client not found"⟩
  | .serviceNotFound _ => ⟨404, .detail "Service not found"⟩
  | .contactNotFound _ => ⟨404, .detail "Contact not found"⟩
  | .milestoneNotFound _ _ => ⟨404, .detail "Milestone not found"⟩
  | .cannotCreateOnLostClient _ => ⟨422, .error "client_is_lost"⟩
  | .leadAlreadyConverted _ clientId => ⟨409, .alreadyConverted clientId⟩
  | .leadNotQualified _ currentStatus => ⟨422, .notQualified currentStatus⟩
  | .ticketNotFound _ => ⟨404, .detail "Ticket not found"⟩
  | .billingProfileNotFound _ => ⟨404, .detail "Billing profile not found"⟩
  | .duplicateTaxId _ taxId =>
    ⟨409, .errorDetail "duplicate_tax_id"
      ("A billing profile with tax_id '" ++ taxId ++ "' already exists for this client.")⟩
  | .cannotDeleteOnlyDefault _ =>
    ⟨409, .errorDetail "cannot_delete_only_default"
      "Cannot delete the only billing profile for this client."⟩
  | .http status detail => ⟨status.code, .envelope detail⟩
  | .validation => ⟨400, .validation⟩
  | .db _ => ⟨500, .internal⟩
  | .unhandled => ⟨500, .internal⟩

/-- **No exception is answered with success.** -/
@[simp] theorem Fault.isOk_response (f : Fault) : f.response.isOk = false := by
  cases f with
  | http status detail => cases status <;> rfl
  | _ => rfl

end ZanovixCrm
