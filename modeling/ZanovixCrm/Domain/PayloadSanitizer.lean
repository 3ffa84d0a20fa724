import ZanovixCrm.Schemas.Requests

/-!
# Payload sanitizer

The snapshot of the inbound request that is stored with every lead. Headers are kept only if their
name is on a list; the address of the sender is kept only as a salted hash.

**What is a parameter.** The headers are those that the server hands over, with their names in lower
case; the hash is SHA-256 (`Platform.sha256`). The log line that names the dropped headers is left
out.
-/

namespace ZanovixCrm

/-- The parts of the HTTP request that the intake endpoint looks at. -/
structure Inbound where
  /-- Header names and values. -/
  headers : List (String × String)
  /-- The address of the peer, if known. -/
  peer : Option String
deriving DecidableEq

/-- `leads.raw_payload`. -/
structure RawPayload where
  headers : List (String × String)
  body : LeadCreate
  ingestedAt : Time
  clientIpHashed : String
deriving DecidableEq

namespace PayloadSanitizer

/-- `str.lower` of a header name; header names are ASCII. -/
def lower (name : String) : String := String.ofList (name.toList.map Char.toLower)

/-- `HEADER_ALLOWLIST`. -/
def headerAllowlist : List String := ["user-agent", "referer", "x-forwarded-for"]

/-- `request.headers.get(name)`: the first header of that name, in any case. -/
def header (r : Inbound) (name : String) : Option String :=
  (r.headers.find? fun h ↦ lower h.1 == lower name).map Prod.snd

/-- `_client_ip`: the first address of `X-Forwarded-For`, else the peer. -/
def clientIp (r : Inbound) : String :=
  match header r "X-Forwarded-For" with
  | some xff =>
    if xff = "" then r.peer.getD "unknown"
    else Python.strip (String.ofList (xff.toList.takeWhile (· ≠ ',')))
  | none => r.peer.getD "unknown"

/-- `_hash_ip`. -/
def hashIp (p : Platform) (s : Settings) (ip : String) : String := p.sha256 (ip ++ s.ipHashSalt)

/-- Set a key of a dictionary. -/
def setKey (d : List (String × String)) (kv : String × String) : List (String × String) :=
  if d.any (·.1 == kv.1) then d.map fun x ↦ if x.1 == kv.1 then kv else x else d ++ [kv]

/-- The headers that are kept, under their names in lower case. -/
def filteredHeaders (r : Inbound) : List (String × String) :=
  ((r.headers.filter fun h ↦ lower h.1 ∈ headerAllowlist).map fun h ↦ (lower h.1, h.2)).foldl
    setKey []

/-- `build_raw_payload`. -/
def buildRawPayload (p : Platform) (s : Settings) (now : Time) (r : Inbound) (body : LeadCreate) :
    RawPayload where
  headers := filteredHeaders r
  body := body
  ingestedAt := now
  clientIpHashed := hashIp p s (clientIp r)

end PayloadSanitizer

end ZanovixCrm
