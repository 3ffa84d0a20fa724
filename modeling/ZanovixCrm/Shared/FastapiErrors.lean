import ZanovixCrm.Schemas.Responses

/-!
# Answers to exceptions

An `HTTPException` comes with headers for its answer, besides a status and a detail. The handler
that the application registers for it builds a new answer, from the status and the detail.

Only this handler is modelled here. Those of the domain exceptions, which have no headers to lose,
are in `Api.Errors`.
-/

namespace ZanovixCrm

/-- `HTTPException`. -/
structure HTTPException where
  status : ErrorStatus
  detail : Detail
  headers : List (String × String) := []
deriving DecidableEq

/-- `JSONResponse`, with the headers that its constructor is given. The length and the type of the
content come in addition, and what the CORS middleware has to say. -/
structure JSONResponse extends Response where
  headers : List (String × String) := []
deriving DecidableEq

/-- A header of an answer; names are compared in lower case. -/
def JSONResponse.header (a : JSONResponse) (name : String) : Option String :=
  (a.headers.find? fun h ↦ PayloadSanitizer.lower h.1 == PayloadSanitizer.lower name).map Prod.snd

/-- `http_exception_handler`. -/
def httpExceptionHandler (exc : HTTPException) : JSONResponse where
  status := exc.status.code
  body := .envelope exc.detail

/-- **The headers of the exception do not get into the answer.** -/
theorem header_httpExceptionHandler (exc : HTTPException) (name : String) :
    (httpExceptionHandler exc).header name = none := rfl

end ZanovixCrm
