import ZanovixCrm.Api.Routes
import ZanovixCrm.Library.Expiring
import ZanovixCrm.Python.Text

/-!
# Tokens

How a request proves who sent it: the token in its `Authorization` header or its cookie, the claims
in the token, and the list of revoked tokens in Redis. What `handle` receives as the address that
the token carries is `tokenSubject`.

A token is read from a request in two places. `get_current_user` leaves the header to the security
scheme of the framework, which compares the name of the scheme in lower case; `logout` looks for the
exact text `Bearer ` itself, and turns to the cookie if it is not there.

**What is taken from `jose`.** Signing and verifying are parameters, with what the library documents
as hypotheses of the results that need it: a token that was signed with a key is decoded with it
until it expires, and has no white space in it. The claims are those that the code reads. The list
of revoked tokens is a store whose entries expire. That Redis may be down is left out: such a
request ends in 500 and changes nothing.
-/

namespace ZanovixCrm

/-! ### Claims -/

/-- The claims of a token. -/
structure Claims where
  sub : Option String
  userId : Option String
  role : Option String
  type : Option String
  jti : Option String
  exp : Option ℤ
  iat : Option ℤ
deriving DecidableEq

/-- The token library with the key of the deployment, and `str` of a UUID. -/
structure Jose where
  /-- Sign claims. -/
  encode : Claims → String
  /-- The claims of a text that is a signed token; they may have expired. -/
  decode : String → Option Claims
  uuidText : UUID → String
  uuidText_ne_empty : ∀ k, uuidText k ≠ ""

/-- The library signs these claims: its token is one word that it reads back. -/
structure Jose.Signs (J : Jose) (claims : Claims) : Prop where
  decode_encode : J.decode (J.encode claims) = some claims
  noSpace : ∀ c ∈ (J.encode claims).toList, Python.isSpace c = false
  ne_empty : J.encode claims ≠ ""

/-- Whole seconds, rounded down, as `timegm` of a `datetime` counts them. -/
def seconds (t : Time) : ℤ := t / 1000000

/-- The lifetime of a token, in microseconds. -/
def Settings.lifetime (s : Settings) : ℤ := s.jwtExpireMinutes * 60 * 1000000

/-- The claims of a new token. -/
def Jose.issued (J : Jose) (s : Settings) (now : Time) (userId : UUID) (email role : String)
    (jti : UUID) : Claims where
  sub := some email
  userId := some (J.uuidText userId)
  role := some role
  type := some "admin"
  jti := some (J.uuidText jti)
  exp := some (seconds (now + s.lifetime))
  iat := some (seconds now)

def createAccessToken (J : Jose) (s : Settings) (now : Time) (userId : UUID) (email role : String)
    (jti : UUID) : String × Time :=
  (J.encode (J.issued s now userId email role jti), now + s.lifetime)

/-- `jwt.decode`: the claims, unless they have expired. -/
def Jose.jwtDecode (J : Jose) (token : String) (now : Time) : Option Claims :=
  (J.decode token).filter fun claims ↦ claims.exp.all fun exp ↦ decide (seconds now ≤ exp)

def unauthorized (detail : String) : Fault := .http .unauthorized (.text detail)

def verifyToken (J : Jose) (token : String) (now : Time) : Except Fault Claims :=
  match J.jwtDecode token now with
  | none => .error (unauthorized "Invalid or expired token")
  | some claims =>
    if claims.type = some "admin" then .ok claims else .error (unauthorized "Invalid token type")

/-! ### Where a request carries its token -/

/-- A value of a header, which the server hands over without the white space around it. -/
structure HeaderValue where
  chars : List Char
  trimmed : chars.getLast? ≠ some ' '

/-- What a request carries of a token: its `Authorization` header and its `admin_token` cookie. -/
structure Carried where
  authorization : Option HeaderValue
  adminToken : Option String

/-- `get_authorization_scheme_param`: the parts before and after the first space. -/
def schemeParam (chars : List Char) : List Char × List Char :=
  (chars.takeWhile (· ≠ ' '), (chars.dropWhile (· ≠ ' ')).drop 1)

/-- The security scheme `HTTPBearer(auto_error=False)`. -/
def credentials (r : Carried) : Option String :=
  match r.authorization with
  | none => none
  | some h =>
    let (scheme, param) := schemeParam h.chars
    if scheme = [] ∨ param = [] then none
    else if scheme.map Char.toLower ≠ "bearer".toList then none
    else some (String.ofList param)

/-- A text that is not empty. -/
def truthy (s : Option String) : Option String := s.filter (· ≠ "")

/-- The token that `get_current_user` uses. -/
def resolveToken (r : Carried) : Except Fault String :=
  match credentials r with
  | some token => .ok token
  | none =>
    match truthy r.adminToken with
    | some token => .ok token
    | none => .error (unauthorized "Missing authentication token")

/-- The token that `logout` revokes. -/
def logoutToken (r : Carried) : Option String :=
  match r.authorization with
  | none => r.adminToken
  | some h =>
    if "Bearer ".toList.isPrefixOf h.chars then
      some (String.ofList (Python.stripChars (h.chars.drop "Bearer ".length)))
    else r.adminToken

/-! ### Revocation -/

/-- The keys in Redis. -/
abbrev Blacklist := Expiring String

/-- The key of a revoked token. -/
def blacklistKey (jti : String) : String := "token_blacklist:" ++ jti

/-- The token has been revoked. -/
def Blacklist.revoked (redis : Blacklist) (jti : Option String) (now : Time) : Bool :=
  (truthy jti).any fun jti ↦ redis.live (blacklistKey jti) now

/-- The part of `get_current_user` before the database: the address that the token carries. -/
def tokenSubject (J : Jose) (redis : Blacklist) (now : Time) (r : Carried) :
    Except Fault String := do
  let token ← resolveToken r
  match J.jwtDecode token now with
  | none => .error (unauthorized "Invalid or expired token")
  | some claims =>
    if claims.type ≠ some "admin" then .error (unauthorized "Invalid token type")
    else if redis.revoked claims.jti now then .error (unauthorized "Token has been revoked")
    else match truthy claims.sub with
      | none => .error (unauthorized "Invalid token payload")
      | some email => .ok email

def getCurrentUser (J : Jose) (redis : Blacklist) (db : Db) (now : Time) (r : Carried) :
    Except Fault User :=
  currentUser db (tokenSubject J redis now r)

/-- Revoke a token, if it is one. Redis refuses a key that is to live for no time. -/
def revoke (J : Jose) (s : Settings) (redis : Blacklist) (now : Time) (token : String) :
    Except Fault Unit × Blacklist :=
  match verifyToken J token now with
  | .error _ => (.ok (), redis)
  | .ok claims =>
    match truthy claims.jti with
    | none => (.ok (), redis)
    | some jti =>
      if s.lifetime = 0 then (.error .unhandled, redis)
      else (.ok (), redis.setex (blacklistKey jti) s.lifetime now)

/-- `POST /api/auth/logout`. -/
def logout (J : Jose) (s : Settings) (redis : Blacklist) (db : Db) (now : Time) (r : Carried) :
    Except Fault Unit × Blacklist :=
  match getCurrentUser J redis db now r with
  | .error f => (.error f, redis)
  | .ok _ =>
    match truthy (logoutToken r) with
    | none => (.ok (), redis)
    | some token => revoke J s redis now token

/-- **What Redis holds at later times**: any number of other logouts may come in between. -/
inductive Later (J : Jose) (s : Settings) (redis : Blacklist) (now : Time) :
    Blacklist → Time → Prop where
  | same : Later J s redis now redis now
  | wait {redis' : Blacklist} {t t' : Time} (h : Later J s redis now redis' t) (ht : t ≤ t') :
    Later J s redis now redis' t'
  | logout {redis' : Blacklist} {t : Time} (h : Later J s redis now redis' t) (db : Db)
    (r : Carried) : Later J s redis now (logout J s redis' db t r).2 t

end ZanovixCrm
