import ZanovixCrm.Api.Runs

/-!
# The default billing profile

No constraint of the schema says which profile of a client is the default; the service keeps it.
Each of its operations either leaves the default of one client where it was or hands it to one
profile (`DefaultChange`), and does not touch the profiles of anybody else. So **a client that has
profiles has exactly one default** (`OneDefault`), through every sequence of operations, whether
they succeed or fail.

`oneDefault_run` says so of the requests of the API. The rules that follow (`DefaultRules`) are
about the service, below the schema checks and the roles: the payloads are arbitrary.
-/

namespace ZanovixCrm

/-! ### Which profile is the default -/

/-- The client has a profile. -/
def HasProfile (t : Table BillingProfile) (clientId : UUID) : Prop :=
  ∃ b ∈ t, b.clientId = clientId

/-- The profile is a default of the client. -/
def IsDefault (t : Table BillingProfile) (clientId k : UUID) : Prop :=
  ∃ b ∈ t, b.id = k ∧ b.clientId = clientId ∧ b.isDefault = true

/-- The profile is the default of the client, and no other is. -/
def DefaultIs (t : Table BillingProfile) (clientId k : UUID) : Prop :=
  ∀ k', IsDefault t clientId k' ↔ k' = k

/-- **Every client has no profile, or exactly one default.** -/
def OneDefault (t : Table BillingProfile) : Prop :=
  ∀ c, HasProfile t c → ∃ k, DefaultIs t c k

/-- The profiles of other clients are the same. -/
def SameOthers (clientId : UUID) (t t' : Table BillingProfile) : Prop :=
  ∀ b : BillingProfile, b.clientId ≠ clientId → (b ∈ t' ↔ b ∈ t)

section Tables

variable {t t' : Table BillingProfile} {c k : UUID}

theorem IsDefault.hasProfile (h : IsDefault t c k) : HasProfile t c := by
  obtain ⟨b, hb, -, hc, -⟩ := h
  exact ⟨b, hb, hc⟩

theorem DefaultIs.hasProfile (h : DefaultIs t c k) : HasProfile t c := ((h k).2 rfl).hasProfile

theorem SameOthers.hasProfile_iff (h : SameOthers c t t') {c' : UUID} (hc : c' ≠ c) :
    HasProfile t' c' ↔ HasProfile t c' := by
  constructor
  · rintro ⟨b, hb, rfl⟩
    exact ⟨b, (h b hc).1 hb, rfl⟩
  · rintro ⟨b, hb, rfl⟩
    exact ⟨b, (h b hc).2 hb, rfl⟩

theorem SameOthers.isDefault_iff (h : SameOthers c t t') {c' k : UUID} (hc : c' ≠ c) :
    IsDefault t' c' k ↔ IsDefault t c' k := by
  constructor
  · rintro ⟨b, hb, hk, rfl, hd⟩
    exact ⟨b, (h b hc).1 hb, hk, rfl, hd⟩
  · rintro ⟨b, hb, hk, rfl, hd⟩
    exact ⟨b, (h b hc).2 hb, hk, rfl, hd⟩

/-- An operation leaves the default of the client where it is. -/
structure DefaultKept (t t' : Table BillingProfile) (c : UUID) : Prop where
  others : SameOthers c t t'
  isDefault_iff : ∀ k, IsDefault t' c k ↔ IsDefault t c k
  hasProfile : HasProfile t' c → HasProfile t c

/-- An operation hands the default of the client to a profile. -/
structure DefaultHanded (t t' : Table BillingProfile) (c k : UUID) : Prop where
  others : SameOthers c t t'
  defaultIs : DefaultIs t' c k

/-- **What an operation on the profiles of one client does to its default.** -/
inductive DefaultChange (t t' : Table BillingProfile) (c : UUID) : Prop where
  | kept (h : DefaultKept t t' c)
  | handed (k : UUID) (h : DefaultHanded t t' c k)

theorem DefaultChange.others (h : DefaultChange t t' c) : SameOthers c t t' := by
  cases h with
  | kept h => exact h.others
  | handed k h => exact h.others

theorem DefaultKept.isDefault_iff_all (h : DefaultKept t t' c) (c' k : UUID) :
    IsDefault t' c' k ↔ IsDefault t c' k := by
  by_cases hc : c' = c
  · exact hc ▸ h.isDefault_iff k
  · exact h.others.isDefault_iff hc

/-- Nothing has happened. -/
theorem DefaultKept.refl (t : Table BillingProfile) (c : UUID) : DefaultKept t t c :=
  ⟨fun _ _ ↦ Iff.rfl, fun _ ↦ Iff.rfl, id⟩

/-- **One default, after the operation as before it.** -/
theorem OneDefault.next (h : OneDefault t) (hchange : DefaultChange t t' c) : OneDefault t' := by
  intro c' hhas
  by_cases hc : c' = c
  · subst hc
    cases hchange with
    | kept hkept =>
      obtain ⟨k, hk⟩ := h c' (hkept.hasProfile hhas)
      exact ⟨k, fun k' ↦ (hkept.isDefault_iff k').trans (hk k')⟩
    | handed k hhanded => exact ⟨k, hhanded.defaultIs⟩
  · obtain ⟨k, hk⟩ := h c' ((hchange.others.hasProfile_iff hc).1 hhas)
    exact ⟨k, fun k' ↦ (hchange.others.isDefault_iff hc).trans (hk k')⟩

/-- A client that has a profile keeps one. -/
theorem DefaultChange.hasProfile (hchange : DefaultChange t t' c) (h : OneDefault t) {c' : UUID}
    (hhas : HasProfile t c') : HasProfile t' c' := by
  by_cases hc : c' = c
  · subst hc
    cases hchange with
    | kept hkept =>
      obtain ⟨k, hk⟩ := h c' hhas
      exact ((hkept.isDefault_iff k).2 ((hk k).2 rfl)).hasProfile
    | handed k hhanded => exact hhanded.defaultIs.hasProfile
  · exact (hchange.others.hasProfile_iff hc).2 hhas

/-! ### Rows -/

/-- A new profile that is a default, for a client that has none. -/
theorem defaultHanded_insert {b : BillingProfile} (hnew : t.has b.id = false)
    (hnone : ∀ k, ¬IsDefault t b.clientId k) (hdefault : b.isDefault = true) :
    DefaultHanded t (t.insert b) b.clientId b.id := by
  constructor
  · intro x hx
    rw [Table.mem_insert hnew]
    exact ⟨fun h ↦ h.resolve_right fun h ↦ hx (by rw [h]), Or.inl⟩
  · intro k
    constructor
    · rintro ⟨x, hx, rfl, hc, hd⟩
      rcases (Table.mem_insert hnew).1 hx with hx | rfl
      · exact absurd ⟨x, hx, rfl, hc, hd⟩ (hnone x.id)
      · rfl
    · rintro rfl
      exact ⟨b, Table.mem_insert_self hnew, rfl, rfl, hdefault⟩

/-- A new profile that is no default, for a client that has profiles. -/
theorem defaultKept_insert {b : BillingProfile} (hnew : t.has b.id = false)
    (hhas : HasProfile t b.clientId) (hdefault : b.isDefault = false) :
    DefaultKept t (t.insert b) b.clientId := by
  refine ⟨fun x hx ↦ ?_, fun k ↦ ?_, fun _ ↦ hhas⟩
  · rw [Table.mem_insert hnew]
    exact ⟨fun h ↦ h.resolve_right fun h ↦ hx (by rw [h]), Or.inl⟩
  · constructor
    · rintro ⟨x, hx, hk, hc, hd⟩
      rcases (Table.mem_insert hnew).1 hx with hx | rfl
      · exact ⟨x, hx, hk, hc, hd⟩
      · rw [hdefault] at hd
        cases hd
    · rintro ⟨x, hx, hk, hc, hd⟩
      exact ⟨x, Table.mem_insert_of_mem hx, hk, hc, hd⟩

/-- A profile that is edited, with the same client and flag. -/
theorem defaultKept_alter {b : BillingProfile} (hb : t.find? k = some b)
    {a : Assign BillingProfile} (hclient : (a.fn b).clientId = b.clientId)
    (hdefault : (a.fn b).isDefault = b.isDefault) : DefaultKept t (t.alter k a) b.clientId := by
  obtain ⟨hmem, rfl⟩ := Table.find?_eq_some_iff.1 hb
  have hid : (a.fn b).id = b.id := a.key_fn b
  refine ⟨fun x hx ↦ ?_, fun k' ↦ ?_, fun _ ↦ ⟨b, hmem, rfl⟩⟩
  · rw [Table.mem_alter_iff hb]
    constructor
    · rintro (rfl | ⟨h, -⟩)
      · exact absurd hclient hx
      · exact h
    · exact fun h ↦ Or.inr ⟨h, fun hc ↦ hx (by rw [Table.eq_of_key_eq h hmem hc])⟩
  · constructor
    · rintro ⟨x, hx, hk, hc, hd⟩
      rcases (Table.mem_alter_iff hb).1 hx with rfl | ⟨hx, -⟩
      · exact ⟨b, hmem, hid.symm.trans hk, hclient.symm.trans hc, hdefault.symm.trans hd⟩
      · exact ⟨x, hx, hk, hc, hd⟩
    · rintro ⟨x, hx, hk, hc, hd⟩
      by_cases hne : x.id = b.id
      · obtain rfl : x = b := Table.eq_of_key_eq hx hmem hne
        exact ⟨a.fn x, (Table.mem_alter_iff hb).2 (Or.inl rfl), hid.trans hk, hclient.trans hc,
          hdefault.trans hd⟩
      · exact ⟨x, (Table.mem_alter_iff hb).2 (Or.inr ⟨hx, hne⟩), hk, hc, hd⟩

/-- A bulk demotion among the profiles of a client. -/
theorem sameOthers_alterWhere {p : BillingProfile → Bool} {env : Env}
    (hp : ∀ b, p b = true → b.clientId = c) :
    SameOthers c t (t.alterWhere p (BillingProfileService.demote env)) := by
  intro x hx
  rw [Table.mem_alterWhere]
  constructor
  · rintro ⟨y, hy, rfl⟩
    by_cases hpy : p y = true
    · rw [if_pos hpy] at hx
      exact absurd (hp y hpy) hx
    · rwa [if_neg hpy]
  · exact fun h ↦ ⟨x, h, if_neg fun hpx ↦ hx (hp x hpx)⟩

end Tables

/-! ### The operations -/

section Operations

open BillingProfileService

variable {env : Env} {db : Db} {clientId : UUID}

/-- **A creation** hands the default to the new profile if that is the first one or asks for it. -/
theorem default_create {payload : BillingProfileCreate} {b : BillingProfile}
    (hrow : ClientService.billingProfileRow env (env.uuid 0) clientId payload
      (claimed env db clientId payload).1 = .ok b)
    (hnew : (claimed env db clientId payload).2.has b.id = false) :
    DefaultHanded db.billingProfiles ((claimed env db clientId payload).2.insert b) clientId b.id ∨
      payload.isDefault = false ∧
        DefaultKept db.billingProfiles ((claimed env db clientId payload).2.insert b) clientId := by
  obtain ⟨-, rfl, hflag⟩ := ClientService.billingProfileRow_spec hrow
  rcases claimed_cases env db b.clientId payload with ⟨hcount, hclaim⟩ | ⟨hcount, hd, hclaim⟩ |
    ⟨hcount, hd, hclaim⟩ <;> rw [hclaim] at hflag hnew ⊢
  · have hnone : ∀ k, ¬IsDefault db.billingProfiles b.clientId k := by
      rintro k ⟨x, hx, -, hc, -⟩
      exact List.countP_eq_zero.1 hcount x hx (decide_eq_true hc)
    exact Or.inl (defaultHanded_insert hnew hnone hflag)
  · -- All profiles of the client have been demoted.
    have hnone : ∀ k, ¬IsDefault (db.billingProfiles.alterWhere
        (fun x ↦ decide (x.clientId = b.clientId)) (demote env)) b.clientId k := by
      rintro k ⟨x, hx, -, hc, hdef⟩
      obtain ⟨y, hy, rfl⟩ := Table.mem_alterWhere.1 hx
      by_cases hyc : y.clientId = b.clientId
      · rw [decide_eq_true hyc, if_pos rfl] at hdef
        cases hdef
      · rw [decide_eq_false hyc] at hc
        exact hyc hc
    obtain ⟨hothers, hdefault⟩ := defaultHanded_insert hnew hnone hflag
    refine Or.inl ⟨fun x hx ↦ ?_, hdefault⟩
    exact (hothers x hx).trans (sameOthers_alterWhere (fun _ ↦ of_decide_eq_true) x hx)
  · refine Or.inr ⟨hd, defaultKept_insert hnew ?_ hflag⟩
    rw [profileCount, ne_eq, List.countP_eq_zero] at hcount
    push Not at hcount
    obtain ⟨x, hx, hc⟩ := hcount
    exact ⟨x, hx, of_decide_eq_true hc⟩

/-- **An edit** leaves the default where it is. -/
theorem defaultKept_update {payload : BillingProfileUpdate} {k : UUID} {b b' : BillingProfile}
    (hb : Session.Flushed env.now (changes payload) db k b b') :
    DefaultKept db.billingProfiles
      (db.billingProfiles.alter k (Session.saved env.now b (changes payload))) b.clientId := by
  have heq := eq_merge hb
  rw [hb.new_eq] at heq
  have hclient : ((Session.saved env.now b (changes payload)).fn b).clientId = b.clientId := by
    rw [heq, clientId_merge]
  have hdefault : ((Session.saved env.now b (changes payload)).fn b).isDefault = b.isDefault := by
    rw [heq, isDefault_merge]
  exact defaultKept_alter hb.found hclient hdefault

/-- **The deletion of another profile** leaves the default where it is. -/
theorem defaultKept_erase {t : Table BillingProfile} {b : BillingProfile} (hb : b ∈ t)
    (hdefault : b.isDefault = false) : DefaultKept t (t.erase b.id) b.clientId := by
  refine ⟨fun x hx ↦ ?_, fun k ↦ ?_, ?_⟩
  · rw [Table.mem_erase]
    exact ⟨And.left, fun h ↦ ⟨h, fun hk ↦ hx (by rw [Table.eq_of_key_eq h hb hk])⟩⟩
  · constructor
    · rintro ⟨x, hx, hk, hc, hd⟩
      exact ⟨x, (Table.mem_erase.1 hx).1, hk, hc, hd⟩
    · rintro ⟨x, hx, hk, hc, hd⟩
      refine ⟨x, Table.mem_erase.2 ⟨hx, fun hkey ↦ ?_⟩, hk, hc, hd⟩
      rw [Table.eq_of_key_eq hx hb hkey, hdefault] at hd
      cases hd
  · rintro ⟨x, hx, hc⟩
    exact ⟨x, (Table.mem_erase.1 hx).1, hc⟩

/-- The profile after a flush of its flag. -/
theorem isDefault_saved (now : Time) (b : BillingProfile) :
    ((Session.saved now b [BillingProfile.Col.isDefault.assign (some true)]).fn b).isDefault =
      true := by
  rw [saved_isDefault]
  split
  · next h => exact h
  · rfl

/-- **The deletion of the default** hands it to the oldest sibling. -/
theorem defaultHanded_promote (h : OneDefault db.billingProfiles) {b oldest : BillingProfile}
    {rest : List BillingProfile} (hb : b ∈ db.billingProfiles) (hdefault : b.isDefault = true)
    (hsiblings : siblings db b = oldest :: rest) :
    DefaultHanded db.billingProfiles ((db.billingProfiles.alter oldest.id
      (Session.saved env.now oldest [BillingProfile.Col.isDefault.assign (some true)])).erase b.id)
      b.clientId oldest.id := by
  have hsib : oldest ∈ siblings db b := hsiblings ▸ List.mem_cons_self
  obtain ⟨holdest, hsel⟩ := mem_selectAsc.1 hsib
  obtain ⟨hclient, hne⟩ := of_decide_eq_true hsel
  have hfound : db.billingProfiles.find? oldest.id = some oldest := Table.find?_of_mem holdest
  have hflag := flagOnly_saved env.now oldest true
  have hid := hflag.id_eq
  have hmem : ∀ x, x ∈ (db.billingProfiles.alter oldest.id (Session.saved env.now oldest
      [BillingProfile.Col.isDefault.assign (some true)])).erase b.id ↔
      (x = (Session.saved env.now oldest
        [BillingProfile.Col.isDefault.assign (some true)]).fn oldest ∨
        x ∈ db.billingProfiles ∧ x.id ≠ oldest.id) ∧ x.id ≠ b.id := fun x ↦ by
    rw [Table.mem_erase, Table.mem_alter_iff hfound]
    rfl
  constructor
  · intro x hx
    rw [hmem]
    constructor
    · rintro ⟨rfl | ⟨h, -⟩, -⟩
      · exact absurd (hflag.clientId_eq.trans hclient) hx
      · exact h
    · refine fun h ↦ ⟨Or.inr ⟨h, fun hk ↦ hx ?_⟩, fun hk ↦ hx ?_⟩
      · rw [Table.eq_of_key_eq h holdest hk, hclient]
      · rw [Table.eq_of_key_eq h hb hk]
  · intro k
    constructor
    · rintro ⟨x, hx, rfl, hc, hd⟩
      rcases (hmem x).1 hx with ⟨rfl | ⟨hx, -⟩, hxb⟩
      · exact hid
      · -- Before the deletion, there was no other default.
        obtain ⟨k₀, hk₀⟩ := h b.clientId ⟨b, hb, rfl⟩
        have hxk := (hk₀ x.id).1 ⟨x, hx, rfl, hc, hd⟩
        have hbk := (hk₀ b.id).1 ⟨b, hb, rfl, rfl, hdefault⟩
        exact absurd (hxk.trans hbk.symm) hxb
    · rintro rfl
      exact ⟨_, (hmem _).2 ⟨Or.inl rfl, hid ▸ hne⟩, hid, hflag.clientId_eq.trans hclient,
        isDefault_saved env.now oldest⟩

/-- **A change of the default** hands it to the profile. -/
theorem defaultHanded_setDefault {b : BillingProfile} (hb : b ∈ db.billingProfiles) :
    DefaultHanded db.billingProfiles ((demoted env db b).alter b.id (Session.saved env.now b
      [BillingProfile.Col.isDefault.assign (some true)])) b.clientId b.id := by
  have hfound : (demoted env db b).find? b.id = some b := find?_demoted hb
  have hflag := flagOnly_saved env.now b true
  have hid := hflag.id_eq
  have hdemoted : SameOthers b.clientId db.billingProfiles (demoted env db b) :=
    sameOthers_alterWhere fun _ h ↦ (of_decide_eq_true h).1
  constructor
  · intro x hx
    rw [Table.mem_alter_iff hfound, ← hdemoted x hx]
    constructor
    · rintro (rfl | ⟨h, -⟩)
      · exact absurd hflag.clientId_eq hx
      · exact h
    · refine fun h ↦ Or.inr ⟨h, fun hk ↦ hx ?_⟩
      rw [Table.eq_of_key_eq h (Table.mem_of_find? hfound) hk]
  · intro k
    constructor
    · rintro ⟨x, hx, rfl, hc, hd⟩
      rcases (Table.mem_alter_iff hfound).1 hx with rfl | ⟨hx, hne⟩
      · exact hid
      · -- The siblings have been demoted.
        obtain ⟨y, hy, rfl⟩ := Table.mem_alterWhere.1 hx
        split at hd
        · cases hd
        · next hy' =>
          rw [if_neg hy'] at hc hne
          exact absurd (decide_eq_true ⟨hc, hne⟩) hy'
    · rintro rfl
      exact ⟨_, (Table.mem_alter_iff hfound).2 (Or.inl rfl), hid, hflag.clientId_eq,
        isDefault_saved env.now b⟩

/-- **A conversion** gives the new client its default profile, or none. -/
theorem defaultChange_convert (hvalid : db.Valid) (hnew : db.clients.has (env.uuid 0) = false)
    {payload : Option BillingProfileCreate} {t : Table BillingProfile}
    (ht : ClientService.AddsBillingProfile env db.billingProfiles payload t) :
    DefaultChange db.billingProfiles t (env.uuid 0) := by
  rcases payload with - | payload
  · obtain rfl : t = db.billingProfiles := ht
    exact .kept (.refl _ _)
  · obtain ⟨b, hrow, hb, rfl⟩ := ht
    obtain ⟨-, hclient, hflag⟩ := ClientService.billingProfileRow_spec hrow
    have hnone : ∀ k, ¬IsDefault db.billingProfiles b.clientId k := by
      rintro k ⟨x, hx, -, hc, -⟩
      have hrefers : db.clients.has x.clientId = true := hvalid.billingProfiles.refers x hx
      rw [hc, hclient, hnew] at hrefers
      cases hrefers
    exact .handed b.id (hclient ▸ defaultHanded_insert hb hnone hflag)

end Operations

/-! ### Requests -/

section Requests

variable {p : Platform} {s : Settings} {env : Env} {db db' : Db} {user : Except Fault User}
  {r : Request} {resp : Response}

/-- **A request changes the default of one client at most.** -/
theorem Step.defaultChange (h : Step p s env db user r resp db') (hvalid : db.Valid)
    (hone : OneDefault db.billingProfiles) :
    db'.billingProfiles = db.billingProfiles ∨
      ∃ c, DefaultChange db.billingProfiles db'.billingProfiles c := by
  cases h with
  | @createBillingProfile u clientId body b _ _ hrow hnew =>
    rcases default_create hrow hnew with h | ⟨-, h⟩
    · exact Or.inr ⟨clientId, .handed _ h⟩
    · exact Or.inr ⟨clientId, .kept h⟩
  | updateBillingProfile _ hb => exact Or.inr ⟨_, .kept (defaultKept_update hb)⟩
  | deleteBillingProfile _ hb ht =>
    obtain ⟨hmem, rfl⟩ := Table.find?_eq_some_iff.1 hb
    cases ht with
    | notDefault hd => exact Or.inr ⟨_, .kept (defaultKept_erase hmem hd)⟩
    | promote hd hsiblings _ =>
      exact Or.inr ⟨_, .handed _ (defaultHanded_promote hone hmem hd hsiblings)⟩
  | setDefaultBillingProfile _ hb =>
    obtain ⟨hmem, rfl⟩ := Table.find?_eq_some_iff.1 hb
    exact Or.inr ⟨_, .handed _ (defaultHanded_setDefault hmem)⟩
  | convertLead _ _ _ _ hrow hnew _ hbilling =>
    rw [(ClientService.row_spec hrow).1] at hnew
    exact Or.inr ⟨_, defaultChange_convert hvalid hnew hbilling⟩
  | _ => exact Or.inl rfl

theorem Step.oneDefault (h : Step p s env db user r resp db') (hvalid : db.Valid)
    (hone : OneDefault db.billingProfiles) : OneDefault db'.billingProfiles := by
  rcases h.defaultChange hvalid hone with heq | ⟨c, hchange⟩
  · rw [heq]
    exact hone
  · exact hone.next hchange

theorem oneDefault_empty : OneDefault .empty := by
  rintro c ⟨b, hb, -⟩
  exact absurd hb Table.not_mem_empty

/-- **One default in every reachable state.** -/
theorem oneDefault_run (acts : List Act) : OneDefault (run p s acts).db.billingProfiles :=
  run_invariant (I := fun db ↦ OneDefault db.billingProfiles) oneDefault_empty
    (fun hvalid hone h ↦ h.oneDefault hvalid hone) (fun _ hone ↦ hone) acts

end Requests

/-! ### Sequences of calls -/

/-- A call of the service that may write billing profiles, in a transaction of its own. -/
inductive BillingCall where
  | create (env : Env) (clientId : UUID) (payload : BillingProfileCreate)
  | update (env : Env) (profileId : UUID) (payload : BillingProfileUpdate)
  | delete (env : Env) (profileId : UUID)
  | setDefault (env : Env) (profileId : UUID)
  | convert (env : Env) (leadId : UUID) (body : ConvertLeadBody) (actor : UUID)

namespace BillingCall

/-- The transaction. -/
def prog : BillingCall → Tx Unit
  | .create env clientId payload => do
    let _ ← BillingProfileService.createForClient env clientId payload
  | .update env profileId payload => do
    let _ ← BillingProfileService.update env profileId payload
  | .delete env profileId => BillingProfileService.delete env profileId
  | .setDefault env profileId => do
    let _ ← BillingProfileService.setDefault env profileId
  | .convert env leadId body actor => do
    let _ ← ClientService.convertFromLead env leadId body actor

/-- The state after the call, whether it succeeds or fails. -/
def perform (db : Db) (call : BillingCall) : Db := (call.prog.transact db).2

/-- The call does not raise. -/
def Succeeds (call : BillingCall) (db : Db) : Prop := ∃ db', call.prog.run db = .ok ((), db')

/-- The client that the call is about. -/
def client? (db : Db) : BillingCall → Option UUID
  | .create _ clientId _ => some clientId
  | .update _ profileId _ | .delete _ profileId | .setDefault _ profileId =>
    (db.billingProfiles.find? profileId).map BillingProfile.clientId
  | .convert env .. => some (env.uuid 0)

end BillingCall

/-- The state after a sequence of calls. -/
def billingRun (db : Db) (calls : List BillingCall) : Db := calls.foldl BillingCall.perform db

section Calls

variable {db : Db}

theorem BillingCall.perform_of_run {call : BillingCall} {db' : Db}
    (h : call.prog.run db = .ok ((), db')) : call.perform db = db' := by
  rw [perform, Prog.transact_of_ok h]

/-- What every successful run of the call guarantees, the call does, unless nothing happens. -/
theorem BillingCall.perform_cases {call : BillingCall} {Q : Db → Prop}
    (h : call.prog.Ensures db fun _ db' ↦ Q db') : call.perform db = db ∨ Q (call.perform db) := by
  rcases call.prog.transact_cases db with ⟨u, db', hrun, ht⟩ | ⟨e, -, ht⟩
  · rw [perform, ht]
    exact Or.inr (h u db' hrun)
  · rw [perform, ht]
    exact Or.inl rfl

theorem ensures_discard {α : Type} {m : Tx α} {Q : Db → Prop}
    (h : m.Ensures db fun _ db' ↦ Q db') :
    (do let _ ← m : Tx Unit).Ensures db fun _ db' ↦ Q db' := by
  rw [Prog.ensures_bind]
  exact h.mono fun _ _ hq ↦ Session.ensures_pure.2 hq

/-- **A call changes the default of its own client at most.** -/
theorem BillingCall.defaultChange (call : BillingCall) (hvalid : db.Valid)
    (h : OneDefault db.billingProfiles) :
    call.perform db = db ∨ ∃ c, call.client? db = some c ∧
      DefaultChange db.billingProfiles (call.perform db).billingProfiles c := by
  refine perform_cases (Q := fun db' ↦ ∃ c, call.client? db = some c ∧
    DefaultChange db.billingProfiles db'.billingProfiles c) ?_
  cases call with
  | create env clientId payload =>
    refine ensures_discard (BillingProfileService.ensures_createForClient.mono ?_)
    rintro b db' ⟨-, hrow, hnew, rfl⟩
    refine ⟨clientId, rfl, ?_⟩
    rcases default_create hrow hnew with h | ⟨-, h⟩
    · exact .handed _ h
    · exact .kept h
  | update env profileId payload =>
    refine ensures_discard (BillingProfileService.ensures_update.mono ?_)
    rintro b' db' ⟨b, hb, rfl⟩
    exact ⟨b.clientId, congrArg (Option.map BillingProfile.clientId) hb.found,
      .kept (defaultKept_update hb)⟩
  | delete env profileId =>
    refine BillingProfileService.ensures_delete.mono ?_
    rintro - db' ⟨b, t, hb, ht, rfl⟩
    refine ⟨b.clientId, congrArg (Option.map BillingProfile.clientId) hb, ?_⟩
    obtain ⟨hmem, rfl⟩ := Table.find?_eq_some_iff.1 hb
    cases ht with
    | notDefault hd => exact .kept (defaultKept_erase hmem hd)
    | promote hd hsiblings hok => exact .handed _ (defaultHanded_promote h hmem hd hsiblings)
  | setDefault env profileId =>
    refine ensures_discard (BillingProfileService.ensures_setDefault.mono ?_)
    rintro b' db' ⟨b, hb, -, -, rfl⟩
    refine ⟨b.clientId, congrArg (Option.map BillingProfile.clientId) hb, ?_⟩
    obtain ⟨hmem, rfl⟩ := Table.find?_eq_some_iff.1 hb
    exact .handed _ (defaultHanded_setDefault hmem)
  | convert env leadId body actor =>
    refine ensures_discard (ClientService.ensures_convertFromLead.mono ?_)
    rintro c db' ⟨l, a, t, -, -, -, hrow, hnew, -, ht, -, -, rfl⟩
    rw [(ClientService.row_spec hrow).1] at hnew
    exact ⟨env.uuid 0, rfl, defaultChange_convert hvalid hnew ht⟩

/-- **One call keeps the invariant.** -/
theorem BillingCall.oneDefault (call : BillingCall) (hvalid : db.Valid)
    (h : OneDefault db.billingProfiles) : OneDefault (call.perform db).billingProfiles := by
  rcases call.defaultChange hvalid h with heq | ⟨c, -, hchange⟩
  · rw [heq]
    exact h
  · exact h.next hchange

theorem BillingCall.hasProfile (call : BillingCall) (hvalid : db.Valid)
    (h : OneDefault db.billingProfiles) {c : UUID} (hhas : HasProfile db.billingProfiles c) :
    HasProfile (call.perform db).billingProfiles c := by
  rcases call.defaultChange hvalid h with heq | ⟨c', -, hchange⟩
  · rw [heq]
    exact hhas
  · exact hchange.hasProfile h hhas

theorem BillingCall.valid (call : BillingCall) (hvalid : db.Valid) : (call.perform db).Valid :=
  (Prog.valid_transact call.prog hvalid).2

/-- **The invariant over a sequence of calls.** -/
theorem oneDefault_billingRun (calls : List BillingCall) (hvalid : db.Valid)
    (h : OneDefault db.billingProfiles) :
    (billingRun db calls).Valid ∧ OneDefault (billingRun db calls).billingProfiles ∧
      ∀ c, HasProfile db.billingProfiles c →
        HasProfile (billingRun db calls).billingProfiles c := by
  induction calls generalizing db with
  | nil => exact ⟨hvalid, h, fun _ ↦ id⟩
  | cons call calls ih =>
    obtain ⟨hvalid', h', hhas⟩ := ih (call.valid hvalid) (call.oneDefault hvalid h)
    exact ⟨hvalid', h', fun c hc ↦ hhas c (call.hasProfile hvalid h hc)⟩

end Calls

/-! ### The rules -/

/-- The profiles are the same, up to the time stamps of their last update. -/
def SameButStamps (t t' : Table BillingProfile) : Prop :=
  t'.rows.map (fun b ↦ { b with updatedAt := 0 }) = t.rows.map fun b ↦ { b with updatedAt := 0 }

/-- **What the service promises about defaults**, in a state and for every call from there on. -/
structure DefaultRules (db : Db) : Prop where
  oneDefault : OneDefault db.billingProfiles
  /-- A client that has a profile keeps one. -/
  remains : ∀ calls c, HasProfile db.billingProfiles c →
    HasProfile (billingRun db calls).billingProfiles c
  /-- A client that has a profile is listed all of them, once each, and first the default. -/
  listed : ∀ c, HasProfile db.billingProfiles c → ∃ b rest,
    (BillingProfileService.listForClient c).run db = .ok (b :: rest, db) ∧ b.isDefault = true ∧
      (b :: rest).Perm (db.billingProfiles.rows.filter fun x ↦ decide (x.clientId = c))
  /-- A call about one client leaves the profiles of the others alone. -/
  others : ∀ (call : BillingCall) (b : BillingProfile), call.client? db ≠ some b.clientId →
    (b ∈ (call.perform db).billingProfiles ↔ b ∈ db.billingProfiles)
  /-- A new profile that asks to be the default is. -/
  create : ∀ env c payload, payload.isDefault = true →
    (BillingCall.create env c payload).Succeeds db →
    DefaultIs (BillingCall.perform db (.create env c payload)).billingProfiles c (env.uuid 0)
  /-- An update moves no default. -/
  update : ∀ env k payload c k',
    IsDefault (BillingCall.perform db (.update env k payload)).billingProfiles c k' ↔
      IsDefault db.billingProfiles c k'
  /-- The deletion of another profile moves no default. -/
  deleteOther : ∀ env k b, db.billingProfiles.find? k = some b → b.isDefault = false →
    (BillingCall.delete env k).Succeeds db ∧ ∀ c k',
      IsDefault (BillingCall.perform db (.delete env k)).billingProfiles c k' ↔
        IsDefault db.billingProfiles c k'
  /-- The deletion of the default hands it to the sibling with the least creation time, and the
  least key among those. -/
  deleteDefault : ∀ env k b m, db.billingProfiles.find? k = some b → b.isDefault = true →
    m ∈ db.billingProfiles → m.clientId = b.clientId → m.id ≠ k →
    (∀ x ∈ db.billingProfiles, x.clientId = b.clientId → x.id ≠ k →
      m.createdAt < x.createdAt ∨ m.createdAt = x.createdAt ∧ m.id ≤ x.id) →
    (BillingCall.delete env k).Succeeds db ∧
      DefaultIs (BillingCall.perform db (.delete env k)).billingProfiles b.clientId m.id
  /-- A profile is made the default. -/
  setDefault : ∀ env k b, db.billingProfiles.find? k = some b →
    (BillingCall.setDefault env k).Succeeds db ∧
      DefaultIs (BillingCall.perform db (.setDefault env k)).billingProfiles b.clientId k
  /-- Doing that again changes nothing but time stamps. -/
  setDefaultAgain : ∀ env env' k,
    SameButStamps (BillingCall.perform db (.setDefault env k)).billingProfiles
      (BillingCall.perform (BillingCall.perform db (.setDefault env k))
        (.setDefault env' k)).billingProfiles

section Rules

open BillingProfileService

variable {db : Db}

/-- The order of the list puts a default first. -/
theorem isDefault_of_selectAsc (h : OneDefault db.billingProfiles) {c : UUID} {b : BillingProfile}
    {rest : List BillingProfile}
    (hlist : selectAsc db.billingProfiles (fun b ↦ decide (b.clientId = c))
      (fun b ↦ toLex (!b.isDefault, b.createdAt)) = b :: rest) : b.isDefault = true := by
  have hmem : ∀ x, x ∈ b :: rest ↔ x ∈ db.billingProfiles ∧ x.clientId = c := fun x ↦ by
    rw [← hlist]
    exact mem_selectAsc.trans (and_congr_right fun _ ↦ decide_eq_true_iff)
  -- Some profile of the client is a default, and no profile comes before the first.
  obtain ⟨hb, hc⟩ := (hmem b).1 List.mem_cons_self
  obtain ⟨k, hk⟩ := h c ⟨b, hb, hc⟩
  obtain ⟨d, hd, -, hdc, hdefault⟩ := (hk k).2 rfl
  rcases List.mem_cons.1 ((hmem d).2 ⟨hd, hdc⟩) with rfl | hrest
  · exact hdefault
  · have hsorted := pairwise_selectAsc db.billingProfiles (fun b ↦ decide (b.clientId = c))
      fun b ↦ toLex (!b.isDefault, b.createdAt)
    rw [hlist] at hsorted
    have hle := (List.pairwise_cons.1 hsorted).1 d hrest
    have hflag : (!b.isDefault) ≤ !d.isDefault :=
      Prod.Lex.monotone_fst _ _ (Prod.Lex.monotone_fst _ _ hle)
    rw [hdefault] at hflag
    revert hflag
    cases b.isDefault <;> decide

/-- A client with a profile is not listed nothing. -/
theorem exists_listForClient (h : OneDefault db.billingProfiles) {c : UUID}
    (hc : HasProfile db.billingProfiles c) : ∃ b rest,
      (listForClient c).run db = .ok (b :: rest, db) ∧ b.isDefault = true ∧
        (b :: rest).Perm (db.billingProfiles.rows.filter fun x ↦ decide (x.clientId = c)) := by
  rcases hlist : selectAsc db.billingProfiles (fun b ↦ decide (b.clientId = c))
      fun b ↦ toLex (!b.isDefault, b.createdAt) with - | ⟨b, rest⟩
  · obtain ⟨x, hx, hxc⟩ := hc
    have hmem : x ∈ selectAsc db.billingProfiles (fun b ↦ decide (b.clientId = c))
        fun b ↦ toLex (!b.isDefault, b.createdAt) := mem_selectAsc.2 ⟨hx, decide_eq_true hxc⟩
    rw [hlist] at hmem
    exact absurd hmem List.not_mem_nil
  · refine ⟨b, rest, ?_, isDefault_of_selectAsc h hlist, hlist ▸ sortOn_perm _ _⟩
    rw [listForClient, Prog.run_query, hlist]

/-- A demotion of profiles that are no defaults writes nothing but time stamps. -/
theorem sameButStamps_demote {t : Table BillingProfile} {p : BillingProfile → Bool} (env : Env)
    (h : ∀ b ∈ t, p b = true → b.isDefault = false) :
    SameButStamps t (t.alterWhere p (demote env)) := by
  rw [SameButStamps, Table.rows_alterWhere, List.map_map]
  refine List.map_congr_left fun b hb ↦ ?_
  rw [Function.comp_apply]
  split
  · next hp =>
    have hflag := h b hb hp
    rw [show (demote env).fn b = { b with isDefault := false, updatedAt := env.now } from rfl,
      ← hflag]
  · rfl

theorem perform_setDefault (env : Env) {b : BillingProfile} (hb : b ∈ db.billingProfiles) :
    BillingCall.perform db (.setDefault env b.id) = { db with
      billingProfiles := (demoted env db b).alter b.id
        (Session.saved env.now b [BillingProfile.Col.isDefault.assign (some true)]) } ∧
    (BillingCall.setDefault env b.id).Succeeds db := by
  have hrun := run_setDefault env (Table.find?_of_mem hb)
  have hprog : (BillingCall.setDefault env b.id).prog.run db = .ok ((), { db with
      billingProfiles := (demoted env db b).alter b.id
        (Session.saved env.now b [BillingProfile.Col.isDefault.assign (some true)]) }) := by
    rw [BillingCall.prog]
    exact (Prog.run_bind_ok hrun _).trans rfl
  exact ⟨BillingCall.perform_of_run hprog, _, hprog⟩

/-- **To make a profile the default a second time** writes nothing but time stamps. -/
theorem sameButStamps_setDefault (env env' : Env) {b : BillingProfile}
    (hb : b ∈ db.billingProfiles) :
    SameButStamps (BillingCall.perform db (.setDefault env b.id)).billingProfiles
      (BillingCall.perform (BillingCall.perform db (.setDefault env b.id))
        (.setDefault env' b.id)).billingProfiles := by
  -- The profile as the first call leaves it, and the siblings, which are no defaults.
  let b' := (Session.saved env.now b [BillingProfile.Col.isDefault.assign (some true)]).fn b
  have hfound : (demoted env db b).find? b.id = some b := find?_demoted hb
  have hid : b'.id = b.id := (flagOnly_saved env.now b true).id_eq
  have hclient : b'.clientId = b.clientId := (flagOnly_saved env.now b true).clientId_eq
  have hdefault : b'.isDefault = true := isDefault_saved env.now b
  rw [(perform_setDefault env hb).1]
  have hb' : b' ∈ ({ db with
      billingProfiles := (demoted env db b).alter b.id (Session.saved env.now b
        [BillingProfile.Col.isDefault.assign (some true)]) } : Db).billingProfiles :=
    (Table.mem_alter_iff hfound).2 (Or.inl rfl)
  have hclean : (Session.saved env'.now b' [BillingProfile.Col.isDefault.assign (some true)]) =
      Assign.none := by
    refine Session.saved_of_clean ?_
    simp [Session.dirty, Column.assign, BillingProfile.Col.isDefault, decode, Encoding.load,
      hdefault]
  have hsiblings : ∀ x ∈ (demoted env db b).alter b.id
      (Session.saved env.now b [BillingProfile.Col.isDefault.assign (some true)]),
      decide (x.clientId = b'.clientId ∧ x.id ≠ b'.id) = true → x.isDefault = false := by
    intro x hx hsib
    rw [hid, hclient] at hsib
    rcases (Table.mem_alter_iff hfound).1 hx with rfl | ⟨hx, -⟩
    · exact absurd hid (of_decide_eq_true hsib).2
    · obtain ⟨y, -, rfl⟩ := Table.mem_alterWhere.1 hx
      by_cases hy : decide (y.clientId = b.clientId ∧ y.id ≠ b.id) = true
      · rw [if_pos hy]
        rfl
      · rw [if_neg hy] at hsib
        exact absurd hsib hy
  have hagain := (perform_setDefault env' hb').1
  rw [hid] at hagain
  rw [hagain, hclean, Table.alter_none]
  exact sameButStamps_demote env' hsiblings

theorem others_perform (hvalid : db.Valid) (h : OneDefault db.billingProfiles) (call : BillingCall)
    {b : BillingProfile} (hb : call.client? db ≠ some b.clientId) :
    b ∈ (call.perform db).billingProfiles ↔ b ∈ db.billingProfiles := by
  rcases call.defaultChange hvalid h with heq | ⟨c, hc, hchange⟩
  · rw [heq]
  · exact hchange.others b fun hbc ↦ hb (by rw [hc, hbc])

theorem defaultIs_create {env : Env} {c : UUID} {payload : BillingProfileCreate}
    (hdefault : payload.isDefault = true) (h : (BillingCall.create env c payload).Succeeds db) :
    DefaultIs (BillingCall.perform db (.create env c payload)).billingProfiles c (env.uuid 0) := by
  obtain ⟨db', hrun⟩ := h
  rw [BillingCall.perform_of_run hrun]
  have hprog : (BillingCall.create env c payload).prog.Ensures db fun _ db' ↦
      DefaultIs db'.billingProfiles c (env.uuid 0) := by
    refine ensures_discard (ensures_createForClient.mono ?_)
    rintro b db' ⟨-, hrow, hnew, rfl⟩
    obtain ⟨hid, -, -⟩ := ClientService.billingProfileRow_spec hrow
    rcases default_create hrow hnew with hhanded | ⟨hd, -⟩
    · exact hid ▸ hhanded.defaultIs
    · rw [hdefault] at hd
      cases hd
  exact hprog () db' hrun

theorem isDefault_update (env : Env) (k : UUID) (payload : BillingProfileUpdate) (c k' : UUID) :
    IsDefault (BillingCall.perform db (.update env k payload)).billingProfiles c k' ↔
      IsDefault db.billingProfiles c k' := by
  have hprog : (BillingCall.update env k payload).prog.Ensures db fun _ db' ↦
      ∃ c, DefaultKept db.billingProfiles db'.billingProfiles c := by
    refine ensures_discard (ensures_update.mono ?_)
    rintro b' db' ⟨b, hb, rfl⟩
    exact ⟨b.clientId, defaultKept_update hb⟩
  rcases BillingCall.perform_cases hprog with heq | ⟨c₀, hkept⟩
  · rw [heq]
  · exact hkept.isDefault_iff_all c k'

/-- A deletion that can hand over the default. -/
theorem perform_delete (env : Env) {k : UUID} {b : BillingProfile} {t : Table BillingProfile}
    (hb : db.billingProfiles.find? k = some b) (ht : HandsOver env db b t) :
    (BillingCall.delete env k).Succeeds db ∧
      (BillingCall.perform db (.delete env k)).billingProfiles = t.erase k := by
  have hrun : (BillingCall.delete env k).prog.run db =
    .ok ((), { db with billingProfiles := t.erase k }) := run_delete hb ht
  exact ⟨⟨_, hrun⟩, by rw [BillingCall.perform_of_run hrun]⟩

theorem isDefault_delete_other {env : Env} {k : UUID} {b : BillingProfile}
    (hb : db.billingProfiles.find? k = some b) (hdefault : b.isDefault = false) :
    (BillingCall.delete env k).Succeeds db ∧ ∀ c k',
      IsDefault (BillingCall.perform db (.delete env k)).billingProfiles c k' ↔
        IsDefault db.billingProfiles c k' := by
  obtain ⟨hsucc, hperform⟩ := perform_delete env hb (.notDefault hdefault)
  obtain ⟨hmem, rfl⟩ := Table.find?_eq_some_iff.1 hb
  refine ⟨hsucc, fun c k' ↦ ?_⟩
  rw [hperform]
  exact (defaultKept_erase hmem hdefault).isDefault_iff_all c k'

theorem defaultIs_delete (h : OneDefault db.billingProfiles) {env : Env} {k : UUID}
    {b m : BillingProfile} (hb : db.billingProfiles.find? k = some b)
    (hdefault : b.isDefault = true)
    (hm : m ∈ db.billingProfiles) (hclient : m.clientId = b.clientId) (hne : m.id ≠ k)
    (hleast : ∀ x ∈ db.billingProfiles, x.clientId = b.clientId → x.id ≠ k →
      m.createdAt < x.createdAt ∨ m.createdAt = x.createdAt ∧ m.id ≤ x.id) :
    (BillingCall.delete env k).Succeeds db ∧
      DefaultIs (BillingCall.perform db (.delete env k)).billingProfiles b.clientId m.id := by
  obtain ⟨hmem, rfl⟩ := Table.find?_eq_some_iff.1 hb
  have hsibling : m ∈ siblings db b := mem_selectAsc.2 ⟨hm, decide_eq_true ⟨hclient, hne⟩⟩
  obtain ⟨rest, hsiblings⟩ := siblings_eq_cons hsibling fun x hx ↦ by
    obtain ⟨hx, hsel⟩ := mem_selectAsc.1 hx
    obtain ⟨hxc, hxne⟩ := of_decide_eq_true hsel
    exact Prod.Lex.toLex_le_toLex.2 (hleast x hx hxc hxne)
  have hok := (accepted_isDefault env (Table.find?_of_mem hm) true).flushes
  obtain ⟨hsucc, hperform⟩ := perform_delete env hb (.promote hdefault hsiblings hok)
  refine ⟨hsucc, ?_⟩
  rw [hperform]
  exact (defaultHanded_promote h hmem hdefault hsiblings).defaultIs

theorem defaultIs_setDefault {env : Env} {k : UUID} {b : BillingProfile}
    (hb : db.billingProfiles.find? k = some b) :
    (BillingCall.setDefault env k).Succeeds db ∧
      DefaultIs (BillingCall.perform db (.setDefault env k)).billingProfiles b.clientId k := by
  obtain ⟨hmem, rfl⟩ := Table.find?_eq_some_iff.1 hb
  obtain ⟨hperform, hsucc⟩ := perform_setDefault env hmem
  refine ⟨hsucc, ?_⟩
  rw [key_billingProfile, hperform]
  exact (defaultHanded_setDefault hmem).defaultIs

/-- A profile that does not exist is not made the default. -/
theorem perform_setDefault_none {env : Env} {k : UUID} (hk : db.billingProfiles.find? k = none) :
    BillingCall.perform db (.setDefault env k) = db := by
  have hprog : (BillingCall.setDefault env k).prog.Ensures db fun _ _ ↦ False := by
    refine ensures_discard (ensures_setDefault.mono ?_)
    rintro b' db' ⟨b, hb, -⟩
    rw [hk] at hb
    cases hb
  rcases BillingCall.perform_cases hprog with heq | hfalse
  · exact heq
  · exact hfalse.elim

theorem sameButStamps_setDefault_twice (env env' : Env) (k : UUID) :
    SameButStamps (BillingCall.perform db (.setDefault env k)).billingProfiles
      (BillingCall.perform (BillingCall.perform db (.setDefault env k))
        (.setDefault env' k)).billingProfiles := by
  rcases hk : db.billingProfiles.find? k with - | b
  · rw [perform_setDefault_none hk, perform_setDefault_none hk]
    rfl
  · obtain ⟨hmem, rfl⟩ := Table.find?_eq_some_iff.1 hk
    exact sameButStamps_setDefault env env' hmem

/-- **The rules hold wherever every client has one default.** -/
theorem DefaultRules.of_oneDefault (hvalid : db.Valid) (h : OneDefault db.billingProfiles) :
    DefaultRules db where
  oneDefault := h
  remains calls := (oneDefault_billingRun calls hvalid h).2.2
  listed _ := exists_listForClient h
  others call _ := others_perform hvalid h call
  create _ _ _ := defaultIs_create
  update := isDefault_update
  deleteOther _ _ _ := isDefault_delete_other
  deleteDefault _ _ _ _ := defaultIs_delete h
  setDefault _ _ _ := defaultIs_setDefault
  setDefaultAgain := sameButStamps_setDefault_twice

end Rules

/-- **The service keeps its promises about defaults** through every sequence of calls, from a state
without billing profiles. -/
theorem defaultRules_billingRun {db : Db} (hvalid : db.Valid)
    (hempty : db.billingProfiles = .empty) (calls : List BillingCall) :
    DefaultRules (billingRun db calls) := by
  have hone : OneDefault db.billingProfiles := hempty ▸ oneDefault_empty
  obtain ⟨hvalid', hone', -⟩ := oneDefault_billingRun calls hvalid hone
  exact .of_oneDefault hvalid' hone'

/-- An operator and a client without billing profiles. -/
def unbilled : List Act :=
  let root : User := .sample 1 (.lit "root@example.com") .admin none
  let client : ClientCreate := ⟨"Acme", none, none, none, none, none, "lead"⟩
  [.account (.insert root),
    .request (.sample 10) (.ok "root@example.com") (.bound (.createClient client))]

/-- The client is given two profiles, of which the first, the default, is then deleted. -/
def handedOver : List BillingCall :=
  let profile (legalName taxId : String) : BillingProfileCreate :=
    ⟨legalName, taxId, .vat, .general, "Main Street 1", none, "Madrid", "Madrid", "28001", "ES",
      none, false⟩
  [.create (.sample 20) 10 (profile "Acme" "A1"), .create (.sample 30) 10 (profile "Acme Sur" "A2"),
    .delete (.sample 40) 20]

theorem defaultRules_handedOver :
    (run .sample .sample unbilled).db.Valid ∧
      (run .sample .sample unbilled).db.billingProfiles = .empty ∧
      (billingRun (run .sample .sample unbilled).db handedOver).billingProfiles.rows.map
        (fun b ↦ (b.id, b.isDefault)) = [(30, true)] ∧
      DefaultRules (billingRun (run .sample .sample unbilled).db handedOver) :=
  ⟨valid_run unbilled, rfl, by decide, defaultRules_billingRun (valid_run unbilled) rfl handedOver⟩

end ZanovixCrm
