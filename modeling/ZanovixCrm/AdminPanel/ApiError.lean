import ZanovixCrm.Library.JsonValue

/-!
# API errors of the admin panel

What `ApiClient` makes of an answer that is not a success. The body is read as JSON, whatever it
is; the error code and the list of allowed targets are taken from its members `error` and `allowed`
if it has them, and the message from `detail`, where that is what the framework or a handler sends.
-/

namespace ZanovixCrm

/-- An `ApiError`. -/
structure ApiError where
  message : String
  status : ℕ
  /-- `error_code`. -/
  errorCode : String
  allowed : Option (List JsonValue)
  original : JsonValue

namespace ApiError

/-- The messages of a list of errors; none if one of the entries is `null`. -/
def messages : List JsonValue → Option (List (Option JsonValue))
  | [] => some []
  | .null :: _ => none
  | item :: items => (messages items).map (item.get? "msg" :: ·)

/-- The text for the user, or nothing where reading a property throws. -/
def messageOf (errorData : JsonValue) : Option String :=
  let detail := errorData.get? "detail"
  if detail.any JsonValue.truthy then
    match JsonValue.array? detail with
    | some items => (messages items).map fun found ↦
      let joined := ", ".intercalate
        ((found.filter (Option.any JsonValue.truthy)).map JsonValue.textOf)
      if joined ≠ "" then joined else "Error de validación"
    | none => some (JsonValue.textOf detail)
  else some (JsonValue.textOf (JsonValue.orElse (errorData.get? "error")
    (JsonValue.orElse (errorData.get? "message") (some (.str "Unknown error")))))

/-- The error that `_doRequest` throws for an answer; nothing where it throws a `TypeError`. A body
that is not JSON, or not there, is replaced. -/
def ofResponse (statusText : String) (status : ℕ) (body : Option JsonValue) : Option ApiError :=
  let errorData := body.getD
    (.obj [("error", .str ("HTTP " ++ toString status ++ ": " ++ statusText))])
  match errorData with
  | .null => none
  | _ => (messageOf errorData).map fun message ↦
    { message, status
      errorCode := JsonValue.textOf (JsonValue.orElse (errorData.get? "error")
        (JsonValue.orElse (errorData.get? "error_code")
          (some (.str ("HTTP_" ++ toString status)))))
      allowed := JsonValue.array? (errorData.get? "allowed")
      original := errorData }

end ApiError

end ZanovixCrm
