import ZanovixCrm.Api.Requests
import ZanovixCrm.Library.FormUrlEncoded
import ZanovixCrm.Library.JsNumber

/-!
# Filters in a query string

The methods of `ApiClient` that take filters write them into the query string of the endpoint. A
filter that is missing or empty is left out. The routes read the query string through
`request.query_params`.

The numbers of a filter are whole and at most `2 ^ 53` in absolute value (`JsNumber.Whole`): these
`String` writes with their digits. Fractions, `NaN` and larger numbers are left out; the panel makes
pages of constants and sums of them.
-/

namespace ZanovixCrm

/-! ### The panel -/

/-- `ClientFilters`. -/
structure ClientListFilters where
  stage : Option String
  ownerId : Option String
  sector : Option String
  q : Option String
  limit : Option JsNumber.Whole
  offset : Option JsNumber.Whole

/-- `ServiceFilters`. -/
structure ServiceListFilters where
  clientId : Option String
  type : Option String
  state : Option String
  ownerId : Option String
  limit : Option JsNumber.Whole
  offset : Option JsNumber.Whole

/-- The filters of `listLeads`. -/
structure LeadListFilters where
  vertical : Option String
  channel : Option String
  status : Option String
  limit : Option JsNumber.Whole
  offset : Option JsNumber.Whole

/-- `ActivityFilters`. -/
structure ActivityListFilters where
  limit : Option JsNumber.Whole
  offset : Option JsNumber.Whole
  clientId : Option String

/-- A filter that is not empty. -/
def nonEmpty (value : Option String) : Option String := value.filter (· ≠ "")

/-- `if (value) params.set(name, value)`. -/
def setText (name : String) (value : Option String) : String × Option String :=
  (name, nonEmpty value)

/-- `if (value !== undefined) params.set(name, String(value))`. -/
def setNumber (name : String) (value : Option JsNumber.Whole) : String × Option String :=
  (name, value.map JsNumber.Whole.text)

/-- The parameters that are set. -/
def present (params : List (String × Option String)) : List (String × String) :=
  params.filterMap fun p ↦ p.2.map (p.1, ·)

/-- `params.toString()`. -/
def searchParams (params : List (String × Option String)) : PyStr :=
  serialize ((present params).map fun p ↦ (PyStr.ofString p.1, PyStr.ofString p.2))

/-- A call that lists something. -/
inductive ListCall where
  | listLeads (filters : LeadListFilters)
  | getClients (filters : ClientListFilters)
  | getServices (filters : ServiceListFilters)
  | getActivity (params : ActivityListFilters)

/-- The parameters that a call may set, in order. -/
def ListCall.params : ListCall → List (String × Option String)
  | .listLeads f =>
    [setText "vertical" f.vertical, setText "channel" f.channel, setText "status" f.status,
      setNumber "limit" f.limit, setNumber "offset" f.offset]
  | .getClients f =>
    [setText "stage" f.stage, setText "owner_id" f.ownerId, setText "sector" f.sector,
      setText "q" f.q, setNumber "limit" f.limit, setNumber "offset" f.offset]
  | .getServices f =>
    [setText "client_id" f.clientId, setText "owner_id" f.ownerId, setText "state" f.state,
      setText "type" f.type, setNumber "limit" f.limit, setNumber "offset" f.offset]
  | .getActivity f =>
    [setNumber "limit" f.limit, setNumber "offset" f.offset, setText "client_id" f.clientId]

/-- The query of the URL that is fetched. -/
def ListCall.query (call : ListCall) : PyStr := urlQuery (searchParams call.params)

/-- The query of `getMyMessages`, written by hand. -/
def messagesQuery (since : Option String) : PyStr :=
  match nonEmpty since with
  | some since =>
    urlQuery (PyStr.ofString "since" ++ 0x3d :: encodeURIComponent (PyStr.ofString since))
  | none => []

/-! ### The server -/

/-- `request.query_params.get(name)`. -/
def param (query : PyStr) (name : String) : Option String :=
  (queryParam query (PyStr.ofString name)).map PyStr.text

/-- `limit` and `offset`. -/
def RawPage.ofQuery (query : PyStr) : RawPage := ⟨param query "limit", param query "offset"⟩

/-- What the route of the lead list reads. -/
def LeadQuery.ofQuery (query : PyStr) : LeadQuery where
  vertical := param query "vertical"
  channel := param query "channel"
  status := param query "status"
  page := .ofQuery query

/-- What the route of the client list reads. -/
def ClientQuery.ofQuery (query : PyStr) : ClientQuery where
  stage := param query "stage"
  ownerId := param query "owner_id"
  sector := param query "sector"
  q := param query "q"
  page := .ofQuery query

/-- What the route of the service list reads. -/
def ServiceQuery.ofQuery (query : PyStr) : ServiceQuery where
  clientId := param query "client_id"
  ownerId := param query "owner_id"
  state := param query "state"
  type := param query "type"
  page := .ofQuery query

/-- **The request that arrives.** -/
def ListCall.request (call : ListCall) : Request :=
  match call with
  | .listLeads _ => .listLeads (.ofQuery call.query)
  | .getClients _ => .listClients (.ofQuery call.query)
  | .getServices _ => .listServices (.ofQuery call.query)
  | .getActivity _ => .getActivity (param call.query "client_id") (.ofQuery call.query)

end ZanovixCrm
