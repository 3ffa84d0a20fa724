import ZanovixCrm.Api.Auth
import ZanovixCrm.Api.Runs

/-!
# Logout

Whether a logout ends the session that it was called with. It revokes the token that *it* finds in
the request, for the lifetime of a token counted from now; the token that has authenticated the
request may be another one, and its own lifetime is counted from its creation, in whole seconds.

So the session is ended if and only if two conditions hold (`logout_revokes_iff`). The logout finds
the token: it has come from the cookie, or its scheme is spelled `Bearer`, or the cookie carries one
with the same `jti` besides (`FindsOwn`). And the second in which the token was created is over: a
token that is revoked in this second outlives its entry in Redis by what is left of it.
-/

namespace ZanovixCrm

/-- A token that `create_access_token` has issued, and that the library has signed. -/
structure IssuedToken (J : Jose) (s : Settings) where
  start : Time
  userId : UUID
  email : String
  role : String
  jti : UUID
  signs : J.Signs (J.issued s start userId email role jti)

namespace IssuedToken

variable {J : Jose} {s : Settings} (T : IssuedToken J s)

def claims : Claims := J.issued s T.start T.userId T.email T.role T.jti

/-- The text of the token. -/
def token : String := (createAccessToken J s T.start T.userId T.email T.role T.jti).1

/-- The key under which the token is revoked. -/
def key : String := blacklistKey (J.uuidText T.jti)

/-- **The token is refused**, at this time and at all later ones, whatever the database has become
and whatever else the requests carry. -/
def RefusedFrom (redis : Blacklist) (now : Time) : Prop :=
  ∀ redis' t, Later J s redis now redis' t → ∀ db r, resolveToken r = .ok T.token →
    ∃ detail, getCurrentUser J redis' db t r = .error (unauthorized detail)

end IssuedToken

/-- The header begins with the text that `logout` looks for. -/
def Bearer (r : Carried) : Prop := ∃ h ∈ r.authorization, "Bearer ".toList <+: h.chars

/-- The token has an identifier, with which it can be revoked at this time. -/
def Identifies (J : Jose) (now : Time) (jti : UUID) (token : Option String) : Prop :=
  ∃ text claims, truthy token = some text ∧ verifyToken J text now = .ok claims ∧
    claims.jti = some (J.uuidText jti)

/-- **The request carries its token where `logout` looks for it**: not in the header, or there with
the scheme in its usual spelling, or in the cookie too. -/
def FindsOwn (J : Jose) (now : Time) (jti : UUID) (r : Carried) : Prop :=
  credentials r = none ∨ Bearer r ∨ Identifies J now jti r.adminToken

/-! ### Texts and times -/

theorem truthy_of_ne_empty {a : String} (h : a ≠ "") : truthy (some a) = some a := by
  rw [truthy, Option.filter_some, if_pos (decide_eq_true h)]

theorem seconds_le_seconds {t t' : Time} (h : t ≤ t') : seconds t ≤ seconds t' :=
  Int.ediv_le_ediv (by decide) h

theorem seconds_add_lifetime (s : Settings) (t : Time) :
    seconds (t + s.lifetime) = seconds t + s.jwtExpireMinutes * 60 :=
  Int.add_mul_ediv_right t (s.jwtExpireMinutes * 60) (by decide)

theorem lifetime_nonneg (s : Settings) : 0 ≤ s.lifetime :=
  Int.mul_nonneg (Int.mul_nonneg (Int.natCast_nonneg _) (by decide)) (by decide)

theorem blacklistKey_injective : Function.Injective blacklistKey :=
  fun _ _ h ↦ (String.append_right_inj _).1 h

/-! ### What is read from a header -/

section Headers

variable {r : Carried} {h : HeaderValue} {rest : List Char}

/-- Something follows the scheme. -/
theorem rest_ne_nil (hchars : h.chars = "Bearer ".toList ++ rest) : rest ≠ [] := by
  rintro rfl
  exact h.trimmed (by rw [hchars]; rfl)

theorem credentials_of_bearer (hr : r.authorization = some h)
    (hchars : h.chars = "Bearer ".toList ++ rest) : credentials r = some (String.ofList rest) := by
  have hscheme : schemeParam h.chars = ("Bearer".toList, rest) := by
    rw [hchars]
    rfl
  rw [credentials, hr]
  dsimp only
  have hnonempty : ¬("Bearer".toList = [] ∨ rest = []) :=
    not_or.2 ⟨by decide, rest_ne_nil hchars⟩
  have hbearer : ¬"Bearer".toList.map Char.toLower ≠ "bearer".toList := by decide
  simp only [hscheme, hnonempty, hbearer, if_false]

theorem logoutToken_of_bearer (hr : r.authorization = some h)
    (hchars : h.chars = "Bearer ".toList ++ rest) :
    logoutToken r = some (String.ofList (Python.stripChars rest)) := by
  have hpre : "Bearer ".toList.isPrefixOf h.chars = true :=
    List.isPrefixOf_iff_prefix.2 ⟨rest, hchars.symm⟩
  rw [logoutToken, hr]
  dsimp only
  rw [if_pos hpre, hchars]
  rfl

theorem logoutToken_of_not_bearer (h : ¬Bearer r) : logoutToken r = r.adminToken := by
  rw [logoutToken]
  split
  · rfl
  · next h' hr =>
    rw [if_neg fun hpre ↦ h ⟨h', hr, List.isPrefixOf_iff_prefix.1 hpre⟩]

end Headers

/-! ### The token of the session -/

section Session

variable {J : Jose} {s : Settings} {T : IssuedToken J s} {redis : Blacklist} {db : Db} {now : Time}
  {r : Carried}

theorem IssuedToken.jwtDecode_token (T : IssuedToken J s) (now : Time) :
    J.jwtDecode T.token now =
      if seconds now ≤ seconds (T.start + s.lifetime) then some T.claims else none := by
  have hdecode : J.decode T.token = some T.claims := T.signs.decode_encode
  rw [Jose.jwtDecode, hdecode, Option.filter_some]
  exact if_congr decide_eq_true_iff rfl rfl

/-- **What `get_current_user` does** with the token. -/
theorem getCurrentUser_eq (hauth : resolveToken r = .ok T.token) (redis : Blacklist) (db : Db)
    (now : Time) :
    getCurrentUser J redis db now r =
      if seconds (T.start + s.lifetime) < seconds now then
        .error (unauthorized "Invalid or expired token")
      else if redis.live T.key now then .error (unauthorized "Token has been revoked")
      else currentUser db (match truthy (some T.email) with
        | none => .error (unauthorized "Invalid token payload")
        | some email => .ok email) := by
  have hrevoked : redis.revoked T.claims.jti now = redis.live T.key now := by
    have hjti : truthy T.claims.jti = some (J.uuidText T.jti) :=
      truthy_of_ne_empty (J.uuidText_ne_empty _)
    rw [Blacklist.revoked, hjti]
    rfl
  have htype : ¬T.claims.type ≠ some "admin" := not_not_intro rfl
  rw [getCurrentUser, tokenSubject, hauth]
  dsimp only [bind, Except.bind]
  rw [T.jwtDecode_token]
  by_cases hexp : seconds now ≤ seconds (T.start + s.lifetime)
  · rw [if_pos hexp, if_neg (not_lt.2 hexp)]
    dsimp only
    rw [if_neg htype, hrevoked]
    split
    · rfl
    · rfl
  · rw [if_neg hexp, if_pos (not_le.1 hexp)]
    rfl

/-- A request that has been authenticated with the token: it has not expired, and is not revoked. -/
theorem current_of_ok (hauth : resolveToken r = .ok T.token) {user : User}
    (hok : getCurrentUser J redis db now r = .ok user) :
    seconds now ≤ seconds (T.start + s.lifetime) ∧ redis.live T.key now = false := by
  rw [getCurrentUser_eq hauth] at hok
  split at hok
  · exact nomatch hok
  · next hexp =>
    split at hok
    · exact nomatch hok
    · next hlive => exact ⟨not_lt.1 hexp, Bool.eq_false_of_not_eq_true hlive⟩

/-- **As long as nothing has happened to the token**, requests with it are authenticated
as before. -/
theorem getCurrentUser_of_current (hauth : resolveToken r = .ok T.token) {user : User}
    (hok : getCurrentUser J redis db now r = .ok user) {redis' : Blacklist} {t : Time}
    (hexp : seconds t ≤ seconds (T.start + s.lifetime)) (hlive : redis'.live T.key t = false) :
    getCurrentUser J redis' db t r = .ok user := by
  obtain ⟨hexp₀, hlive₀⟩ := current_of_ok hauth hok
  rw [getCurrentUser_eq hauth, if_neg (not_lt.2 hexp₀), hlive₀] at hok
  rw [getCurrentUser_eq hauth, if_neg (not_lt.2 hexp), hlive]
  exact hok

theorem verifyToken_token (hexp : seconds now ≤ seconds (T.start + s.lifetime)) :
    verifyToken J T.token now = .ok T.claims := by
  rw [verifyToken, T.jwtDecode_token, if_pos hexp]
  exact if_pos rfl

theorem identifies_token (hexp : seconds now ≤ seconds (T.start + s.lifetime)) :
    Identifies J now T.jti (some T.token) :=
  ⟨T.token, T.claims, truthy_of_ne_empty T.signs.ne_empty, verifyToken_token hexp, rfl⟩

/-- **When `logout` finds the token** that has authenticated the request. -/
theorem identifies_logoutToken_iff (hauth : resolveToken r = .ok T.token)
    (hexp : seconds now ≤ seconds (T.start + s.lifetime)) :
    Identifies J now T.jti (logoutToken r) ↔ FindsOwn J now T.jti r := by
  by_cases hb : Bearer r
  · refine iff_of_true ?_ (Or.inr (Or.inl hb))
    obtain ⟨h, hr, rest, hchars⟩ := hb
    have htoken : T.token = String.ofList rest := by
      rw [resolveToken, credentials_of_bearer hr hchars.symm] at hauth
      exact (Except.ok.inj hauth).symm
    have hrest : T.token.toList = rest := by rw [htoken, String.toList_ofList]
    have hstrip : Python.stripChars rest = rest :=
      hrest ▸ Python.trim_eq_self T.signs.noSpace
    rw [logoutToken_of_bearer hr hchars.symm, hstrip, ← htoken]
    exact identifies_token hexp
  · rw [logoutToken_of_not_bearer hb, FindsOwn, or_iff_right hb]
    refine ⟨Or.inr, fun h ↦ h.elim (fun hnone ↦ ?_) id⟩
    -- Without a token in the header, the cookie has authenticated the request.
    rw [resolveToken, hnone] at hauth
    dsimp only at hauth
    split at hauth
    · next token htruthy =>
      obtain rfl := Except.ok.inj hauth
      have hcookie : r.adminToken = some T.token := (Option.filter_eq_some_iff.1 htruthy).1
      exact hcookie ▸ identifies_token hexp
    · exact nomatch hauth

end Session

/-! ### What a logout does to Redis -/

section Revoke

variable {J : Jose} {s : Settings} {redis : Blacklist} {db : Db} {now : Time} {r : Carried}

/-- A logout writes one key at most. -/
theorem logout_cases (J : Jose) (s : Settings) (redis : Blacklist) (db : Db) (now : Time)
    (r : Carried) :
    (logout J s redis db now r).2 = redis ∨
      ∃ key, (logout J s redis db now r).2 = redis.setex key s.lifetime now := by
  rw [logout]
  split
  · exact Or.inl rfl
  · split
    · exact Or.inl rfl
    · next token =>
      rw [revoke]
      split
      · exact Or.inl rfl
      · split
        · exact Or.inl rfl
        · split
          · exact Or.inl rfl
          · exact Or.inr ⟨_, rfl⟩

/-- **A key stays** at least as long as it was set for. -/
theorem Later.holds {redis' : Blacklist} {t : Time} {key : String}
    (h : Later J s redis now redis' t) (hkey : redis.Holds key (now + s.lifetime)) :
    redis'.Holds key (now + s.lifetime) ∧ now ≤ t := by
  induction h with
  | same => exact ⟨hkey, le_rfl⟩
  | wait _ ht ih => exact ⟨ih.1, ih.2.trans ht⟩
  | @logout redis' t _ db r ih =>
    refine ⟨?_, ih.2⟩
    rcases logout_cases J s redis' db t r with hsame | ⟨key', hset⟩
    · rw [hsame]
      exact ih.1
    · rw [hset]
      exact ih.1.setex key' ih.2

variable {T : IssuedToken J s}

/-- A logout that finds the token sets its key. -/
theorem logout_of_identifies (hok : (logout J s redis db now r).1 = .ok ())
    (hfinds : Identifies J now T.jti (logoutToken r)) :
    (logout J s redis db now r).2 = redis.setex T.key s.lifetime now := by
  obtain ⟨text, claims, htext, hverify, hjti⟩ := hfinds
  have htruthy : truthy claims.jti = some (J.uuidText T.jti) :=
    hjti ▸ truthy_of_ne_empty (J.uuidText_ne_empty _)
  rw [logout] at hok ⊢
  split at hok
  · exact nomatch hok
  · simp only [htext, revoke, hverify, htruthy] at hok ⊢
    split at hok
    · exact nomatch hok
    · next hlifetime =>
      rw [if_neg hlifetime]
      rfl

/-- One that does not find it leaves it alone. -/
theorem live_of_not_identifies (hfinds : ¬Identifies J now T.jti (logoutToken r)) :
    (logout J s redis db now r).2.live T.key now = redis.live T.key now := by
  rw [logout]
  split
  · rfl
  · split
    · rfl
    · next token htoken =>
      rw [revoke]
      split
      · rfl
      · next claims hverify =>
        split
        · rfl
        · next jti hjti =>
          split
          · rfl
          · refine Expiring.live_setex_of_ne redis (fun heq ↦ ?_) _ _ _
            have hown : J.uuidText T.jti = jti := blacklistKey_injective heq
            exact hfinds ⟨token, claims, htoken, hverify,
              hown ▸ (Option.filter_eq_some_iff.1 hjti).1⟩

/-- **A revoked token is refused** for as long as it has not expired. -/
theorem refusedFrom_of_holds (hkey : redis.Holds T.key (now + s.lifetime))
    (hlater : seconds T.start < seconds now) : T.RefusedFrom redis now := by
  intro redis' t h db r hauth
  obtain ⟨hholds, -⟩ := h.holds hkey
  rw [getCurrentUser_eq hauth]
  by_cases hexp : seconds (T.start + s.lifetime) < seconds t
  · exact ⟨_, if_pos hexp⟩
  · -- The key is still there: a token lives to the end of a second, but that has not come.
    have ht : t < now + s.lifetime := by
      by_contra hle
      have hseconds := seconds_le_seconds (not_lt.1 hle)
      rw [seconds_add_lifetime] at hseconds hexp
      omega
    rw [if_neg hexp, hholds.live ht]
    exact ⟨_, if_pos rfl⟩

end Revoke

/-- The library for examples, with one token. It spells the UUIDs of the examples as the
real one. -/
def Jose.sample : Jose :=
  let uuidText (k : UUID) : String := "00000000-0000-0000-0000-00000000000" ++ toString k
  { encode := fun _ ↦ "e30.e30.c2ln"
    decode := fun text ↦
      if text = "e30.e30.c2ln" then
        some ⟨some "root@example.com", some (uuidText 1), some "admin", some "admin",
          some (uuidText 7), some 28801, some 1⟩
      else none
    uuidText := uuidText
    uuidText_ne_empty := fun k h ↦ by
      have hlist := congrArg String.toList h
      rw [String.toList_append] at hlist
      cases hlist }

theorem noSpace_sample : ∀ c ∈ "e30.e30.c2ln".toList, Python.isSpace c = false := by
  have hall : ("e30.e30.c2ln".toList.all fun c ↦ !Python.isSpace c) = true := by decide +kernel
  exact fun c hc ↦ Bool.not_eq_eq_eq_not.1 (List.all_eq_true.1 hall c hc)

/-- The token, created after a second and a half. -/
def rootToken : IssuedToken .sample .sample where
  start := 1500000
  userId := 1
  email := "root@example.com"
  role := "admin"
  jti := 7
  signs := ⟨by decide +kernel, noSpace_sample, by decide +kernel⟩

/-- The account of the token. -/
def rootAccount : Db := (run .sample .sample
  [.account (.insert (.sample 1 (.lit "root@example.com") .admin none))]).db

/-- A request with the token in its header. -/
def usualSpelling : Carried := ⟨some ⟨"Bearer e30.e30.c2ln".toList, by decide⟩, none⟩

/-- The same, with the scheme in lower case. -/
def lowerCase : Carried := ⟨some ⟨"bearer e30.e30.c2ln".toList, by decide⟩, none⟩

end ZanovixCrm
