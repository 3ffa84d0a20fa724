import ZanovixCrm.Guarantees.Readability
import ZanovixCrm.Library.Transitions

/-!
# Fiscal identities

What the CRM keeps of the tax identifiers of its clients.

A schema checks the identifier of a request against the type in the same request, not against the
row. Since an edit has both or neither, and `null` is stored in neither column, **every stored
identifier is valid for its stored type** (`validTaxId_run`).

The validators do not see white space around an identifier, nor the case of its letters. The unique
constraint and the check before it do: they compare the texts. So a client can have the same
identity twice, in two spellings (`spelled_twice`). It does not, as long as nobody sends an
identifier that the client already has on another profile in a spelling other than the stored one,
and then every repetition is refused with 409 (`oneIdentity_run`).
-/

namespace ZanovixCrm

variable {p : Platform} {s : Settings} {env : Env} {db db' : Db}

/-! ### Valid identifiers -/

/-- The stored identifier passes the validator of its stored type. -/
def BillingProfile.ValidTaxId (p : Platform) (b : BillingProfile) : Prop :=
  TaxId.validator p b.taxIdType b.taxId.val = true

section Valid

variable {b b' : BillingProfile}

theorem validTaxId_of_flagOnly (h : BillingProfileService.FlagOnly b b')
    (hb : b.ValidTaxId p) : b'.ValidTaxId p := by
  rw [h]
  exact hb

/-- What a new profile takes from its payload. -/
theorem taxId_of_row {id clientId : UUID} {raw body : BillingProfileCreate} {d : Bool}
    (hv : raw.validate? p = some body)
    (h : ClientService.billingProfileRow env id clientId body d = .ok b) :
    b.taxId.val = body.taxId ∧ b.taxIdType = body.taxIdType := by
  obtain ⟨hok, rfl⟩ := accept_eq_some_iff.1 hv
  simp only [Bool.and_eq_true, and_assoc] at hok
  obtain ⟨-, htax, -⟩ := hok
  simp only [lengthIn, Bool.and_eq_true, decide_eq_true_eq] at htax
  simp only [ClientService.billingProfileRow, bind_eq_ok_iff, pure_eq_ok_iff] at h
  obtain ⟨_, -, taxId, htax', _, -, _, -, _, -, _, -, _, -, _, -, _, -, rfl⟩ := h
  have hsome := eq_some_val_of_encode (fun t ht ↦ Option.some.inj ht ▸ htax.2) htax'
  exact ⟨(Option.some.inj hsome).symm, rfl⟩

theorem validTaxId_of_row {id clientId : UUID} {raw body : BillingProfileCreate} {d : Bool}
    (hv : raw.validate? p = some body)
    (h : ClientService.billingProfileRow env id clientId body d = .ok b) : b.ValidTaxId p := by
  obtain ⟨htax, htype⟩ := taxId_of_row hv h
  obtain ⟨hok, rfl⟩ := accept_eq_some_iff.1 hv
  rw [BillingProfile.ValidTaxId, htax, htype]
  exact (Bool.and_eq_true_iff.1 hok).2

/-- **An edit keeps the identifier valid**: it has been checked against the type that comes with it,
or both are the stored ones. -/
theorem validTaxId_of_flushed {now : Time} {raw body : BillingProfileUpdate} {k : UUID}
    (hv : raw.validate? p = some body)
    (h : Session.Flushed now (BillingProfileService.changes body) db k b b')
    (hb : b.ValidTaxId p) : b'.ValidTaxId p := by
  obtain ⟨hok, rfl⟩ := accept_eq_some_iff.1 hv
  simp only [Bool.and_eq_true, and_assoc] at hok
  obtain ⟨-, hlen, -, -, -, -, -, -, -, hpaired⟩ := hok
  have htax := BillingProfileService.taxId_of_flushed h hlen
  have htype := BillingProfileService.taxIdType_of_flushed h
  unfold BillingProfileUpdate.paired at hpaired
  rcases hid : raw.taxId with - | - | t <;> rcases hty : raw.taxIdType with - | - | ty <;>
    simp only [hid, hty, Field.onto, Field.toOption, Option.some.injEq, reduceCtorEq] at *
  · rw [BillingProfile.ValidTaxId, htax, htype]
    exact hb
  · rw [BillingProfile.ValidTaxId, htax, htype]
    exact hpaired

end Valid

/-- **Every stored tax identifier is valid for its stored type**, in every reachable state. -/
theorem validTaxId_run (p : Platform) (s : Settings) (acts : List Act) :
    ∀ b ∈ (run p s acts).db.billingProfiles,
      TaxId.validator p b.taxIdType b.taxId.val = true := by
  refine run_induction (I := fun r ↦ ∀ b ∈ r.db.billingProfiles, b.ValidTaxId p)
    (fun b hb ↦ absurd hb Table.not_mem_empty) (fun r a answer db' _ _ hI h ↦ ?_) acts
  cases h with
  | idle h => exact hI
  | step hv h =>
    exact h.forall_billingProfiles (Request.checked_of_validate? hv) validTaxId_of_flagOnly
      validTaxId_of_row validTaxId_of_flushed hI
  | account h =>
    obtain ⟨t, rfl⟩ := TableOp.exists_setTable h
    exact hI
  | refused => exact hI

/-! ### One profile for each identity -/

/-- The identifiers are the same, up to what the validators do not see. -/
def TaxId.SameIdentity (p : Platform) (t t' : String) : Prop :=
  TaxId.normalize p t = TaxId.normalize p t'

instance {t t' : String} : Decidable (TaxId.SameIdentity p t t') :=
  inferInstanceAs (Decidable (_ = _))

/-- **No client has an identity on two profiles.** -/
def OneIdentity (p : Platform) (t : Table BillingProfile) : Prop :=
  ∀ b ∈ t, ∀ b' ∈ t, b.clientId = b'.clientId → TaxId.SameIdentity p b.taxId.val b'.taxId.val →
    b = b'

instance {t : Table BillingProfile} : Decidable (OneIdentity p t) :=
  inferInstanceAs (Decidable (∀ b ∈ t, ∀ b' ∈ t, b.clientId = b'.clientId →
    TaxId.SameIdentity p b.taxId.val b'.taxId.val → b = b'))

/-- An identifier that a request is about to give to a profile of a client: a new one, or the one
with the key `profileId`. -/
structure TaxIdWrite where
  clientId : UUID
  profileId : Option UUID
  taxId : String
deriving DecidableEq

/-- The other profiles of the client that have the identity. -/
def TaxIdWrite.holders (p : Platform) (db : Db) (w : TaxIdWrite) : List BillingProfile :=
  db.billingProfiles.rows.filter fun b ↦
    decide (b.clientId = w.clientId ∧ TaxId.SameIdentity p b.taxId.val w.taxId) &&
      w.profileId.all (· ≠ b.id)

/-- The identifier that a creation or an edit writes. -/
def Request.taxIdWrite? (db : Db) : Request → Option TaxIdWrite
  | .createBillingProfile clientId body => some ⟨clientId, none, body.taxId⟩
  | .updateBillingProfile profileId body =>
    match db.billingProfiles.find? profileId, body.taxId with
    | some b, .val taxId => some ⟨b.clientId, some profileId, taxId⟩
    | _, _ => none
  | _ => none

/-- **The request sends no second spelling** of an identity that the client has on another
profile. -/
def Request.spellsAlike (p : Platform) (db : Db) (r : Request) : Bool :=
  (r.taxIdWrite? db).all fun w ↦ (w.holders p db).all fun b ↦ decide (b.taxId.val = w.taxId)

/-- The request that reaches the handler, if any, sends no second spelling. -/
def Act.spellsAlike (p : Platform) (db : Db) : Act → Bool
  | .request _ _ (.bound r) => (r.validate? p).all (Request.spellsAlike p db)
  | _ => true

section Identities

theorem TaxIdWrite.mem_holders {w : TaxIdWrite} {b : BillingProfile} :
    b ∈ w.holders p db ↔ b ∈ db.billingProfiles ∧ b.clientId = w.clientId ∧
      TaxId.SameIdentity p b.taxId.val w.taxId ∧ w.profileId.all (· ≠ b.id) = true := by
  rw [holders, List.mem_filter, Bool.and_eq_true, decide_eq_true_eq, and_assoc, Table.mem_rows]

theorem Request.taxId_eq_of_spellsAlike {r : Request} (h : r.spellsAlike p db = true)
    {w : TaxIdWrite} (hw : r.taxIdWrite? db = some w) {b : BillingProfile}
    (hb : b ∈ w.holders p db) : b.taxId.val = w.taxId := by
  rw [Request.spellsAlike, hw, Option.all_some, List.all_eq_true] at h
  exact of_decide_eq_true (h b hb)

/-- A profile that was there before, with the same client and identifier. -/
def Inherits (db : Db) (b' : BillingProfile) : Prop :=
  ∃ b ∈ db.billingProfiles, b.id = b'.id ∧ b.clientId = b'.clientId ∧ b.taxId = b'.taxId

/-- Other profiles of its client that have its identity have its identifier. -/
def SpelledAlike (p : Platform) (db : Db) (b' : BillingProfile) : Prop :=
  ∀ b ∈ db.billingProfiles, b.id ≠ b'.id → b.clientId = b'.clientId →
    TaxId.SameIdentity p b.taxId.val b'.taxId.val → b.taxId = b'.taxId

variable {user : Except Fault User} {r : Request} {resp : Response} {b b' : BillingProfile}

/-- The key of the profile that a request creates or edits. -/
def Request.profileKey (env : Env) : Request → UUID
  | .updateBillingProfile profileId _ => profileId
  | .convertLead .. => env.uuid 2
  | _ => env.uuid 0

theorem inherits_of_flagOnly (hb : b ∈ db.billingProfiles)
    (h : BillingProfileService.FlagOnly b b') : Inherits db b' :=
  ⟨b, hb, h.id_eq.symm, h.clientId_eq.symm, h.taxId_eq.symm⟩

/-- **An edit** keeps the identifier, or sets one that is spelled like those of the others. -/
theorem inherits_or_spelledAlike_of_edits (halike : r.spellsAlike p db = true)
    (hb : b ∈ db.billingProfiles) (h : EditsProfile p env db r b b') :
    Inherits db b' ∨ b'.id = r.profileKey env ∧ SpelledAlike p db b' := by
  cases h with
  | flag h => exact Or.inl (inherits_of_flagOnly hb h)
  | @edit raw body hv hr h =>
    obtain ⟨hok, hbody⟩ := accept_eq_some_iff.1 hv
    simp only [Bool.and_eq_true, and_assoc] at hok
    have hlen : body.taxId.all (lengthIn 3 32) = true := by
      rw [← hbody]
      exact hok.2.1
    have htax := BillingProfileService.taxId_of_flushed h hlen
    have hmerge := BillingProfileService.eq_merge h
    have hid : b'.id = b.id := by rw [hmerge]; rfl
    have hclient : b'.clientId = b.clientId := by rw [hmerge]; rfl
    rcases hfld : body.taxId with - | - | t
    · rw [hfld] at htax
      exact Or.inl ⟨b, hb, hid.symm, hclient.symm, (Varchar.ext (Option.some.inj htax)).symm⟩
    · rw [hfld] at htax
      cases htax
    · rw [hfld] at htax
      have hval : b'.taxId.val = t := Option.some.inj htax
      have hw : r.taxIdWrite? db = some ⟨b.clientId, some b.id, t⟩ := by
        have hfound : db.billingProfiles.find? b.id = some b := h.found
        rw [hr, Request.taxIdWrite?, hfound, hfld]
      refine Or.inr ⟨by rw [hr, hid]; rfl, fun x hx hne hc hsame ↦ Varchar.ext ?_⟩
      rw [hval] at hsame ⊢
      refine Request.taxId_eq_of_spellsAlike halike hw
        (TaxIdWrite.mem_holders.2 ⟨hx, ?_, hsame, ?_⟩)
      · exact hc.trans hclient
      · exact decide_eq_true fun h ↦ hne (h.symm.trans hid.symm)

/-- **A new profile** is spelled like the others; that of a conversion has no others. -/
theorem spelledAlike_of_creates (hvalid : db.Valid) (halike : r.spellsAlike p db = true)
    (h : CreatesProfile p env db r b') : b'.id = r.profileKey env ∧ SpelledAlike p db b' := by
  cases h with
  | @create clientId raw body d b₀ hv hr hrow hflag =>
    obtain ⟨hid, hclient, -⟩ := ClientService.billingProfileRow_spec hrow
    obtain ⟨htax, -⟩ := taxId_of_row hv hrow
    have hb' : b'.taxId = b₀.taxId := hflag.taxId_eq
    refine ⟨by rw [hflag.id_eq, hid, hr]; rfl, fun x hx hne hc hsame ↦ Varchar.ext ?_⟩
    have hw : r.taxIdWrite? db = some ⟨clientId, none, body.taxId⟩ := by rw [hr]; rfl
    rw [hb', htax] at hsame ⊢
    refine Request.taxId_eq_of_spellsAlike halike hw (TaxIdWrite.mem_holders.2 ⟨hx, ?_, hsame, rfl⟩)
    exact hc.trans (hflag.clientId_eq.trans hclient)
  | @convert leadId conversion raw body b₀ hv hr hfresh hrow hflag =>
    obtain ⟨hid, hclient, -⟩ := ClientService.billingProfileRow_spec hrow
    refine ⟨by rw [hflag.id_eq, hid, hr]; rfl, fun x hx hne hc hsame ↦ ?_⟩
    -- The client is new: nobody refers to it.
    have hhas : db.clients.has x.clientId = true := hvalid.billingProfiles.refers x hx
    rw [hc, hflag.clientId_eq, hclient, hfresh] at hhas
    cases hhas

/-- **One profile for each identity**, after a request that sends no second spelling. -/
theorem Step.oneIdentity (h : Step p s env db user r resp db') (hvalid : db.Valid)
    (hvalid' : db'.Valid) (hr : r.Checked p) (halike : r.spellsAlike p db = true)
    (hI : OneIdentity p db.billingProfiles) : OneIdentity p db'.billingProfiles := by
  have horigin : ∀ b' ∈ db'.billingProfiles,
      Inherits db b' ∨ b'.id = r.profileKey env ∧ SpelledAlike p db b' := by
    intro b' hb'
    rcases h.evolves_billingProfiles hr b' hb' with ⟨b, hb, -, hedit⟩ | ⟨-, hnew⟩
    · exact inherits_or_spelledAlike_of_edits halike hb hedit
    · exact Or.inr (spelledAlike_of_creates hvalid halike hnew)
  -- Profiles with one text are one profile, by the unique constraint.
  have hunique : ∀ b ∈ db'.billingProfiles, ∀ b' ∈ db'.billingProfiles,
      b.clientId = b'.clientId → b.taxId = b'.taxId → b.id = b'.id := fun b hb b' hb' hc ht ↦
    hvalid'.billingProfiles.unique b hb b' hb' (Prod.ext hc ht)
  have hmixed : ∀ b ∈ db'.billingProfiles, ∀ b' ∈ db'.billingProfiles, Inherits db b →
      SpelledAlike p db b' → b.clientId = b'.clientId →
      TaxId.SameIdentity p b.taxId.val b'.taxId.val → b.id = b'.id := by
    rintro b hb b' hb' ⟨x, hx, hid, hclient, htax⟩ hspelled hc hsame
    by_cases hne : b.id = b'.id
    · exact hne
    · refine hunique b hb b' hb' hc ?_
      rw [← htax] at hsame ⊢
      exact hspelled x hx (fun h ↦ hne (hid.symm.trans h)) (hclient.trans hc) hsame
  intro b hb b' hb' hc hsame
  refine Table.eq_of_key_eq hb hb' ?_
  rcases horigin b hb with hold | ⟨hkey, hspelled⟩ <;>
    rcases horigin b' hb' with hold' | ⟨hkey', hspelled'⟩
  · obtain ⟨x, hx, hid, hclient, htax⟩ := hold
    obtain ⟨y, hy, hid', hclient', htax'⟩ := hold'
    rw [← htax, ← htax'] at hsame
    have hxy : x = y := hI x hx y hy ((hclient.trans hc).trans hclient'.symm) hsame
    exact hid.symm.trans ((congrArg BillingProfile.id hxy).trans hid')
  · exact hmixed b hb b' hb' hold hspelled' hc hsame
  · exact (hmixed b' hb' b hb hold' hspelled hc.symm hsame.symm).symm
  · exact hkey.trans hkey'.symm

/-! ### Repetitions -/

/-- The check of a creation refuses what the client has already. -/
theorem run_createForClient_of_repeats (env : Env) (hvalid : db.Valid) {clientId : UUID}
    {body : BillingProfileCreate} (hb : b ∈ db.billingProfiles)
    (hhas : BillingProfileService.hasTaxId clientId body.taxId none b = true) :
    (BillingProfileService.createForClient env clientId body).run db =
      .error (.duplicateTaxId clientId body.taxId) := by
  have hclient : b.clientId = clientId := (of_decide_eq_true (Bool.and_eq_true_iff.1 hhas).1).1
  have hexists : (BillingProfileService.assertClientExists clientId).run db = .ok ((), db) := by
    obtain ⟨c, hc⟩ := Option.isSome_iff_exists.1 (hvalid.billingProfiles.refers b hb)
    rw [hclient] at hc
    rw [BillingProfileService.assertClientExists, Prog.run_bind_ok (Prog.run_query _ db), hc]
    rfl
  have hrefused := BillingProfileService.run_assertUniqueTaxId hvalid hb hhas
  rw [BillingProfileService.createForClient, Prog.run_bind_ok hexists]
  exact Prog.run_bind_error hrefused _

/-- The check of an edit refuses what the client has on another profile. It is made if the
identifier changes. -/
theorem run_update_of_repeats (env : Env) (hvalid : db.Valid) {profileId : UUID}
    {body : BillingProfileUpdate} {loaded : BillingProfile} {t : String}
    (hloaded : db.billingProfiles.find? profileId = some loaded) (hfld : body.taxId = .val t)
    (hchanges : t ≠ loaded.taxId.val) (hb : b ∈ db.billingProfiles)
    (hhas : BillingProfileService.hasTaxId loaded.clientId t (some profileId) b = true) :
    (BillingProfileService.update env profileId body).run db =
      .error (.duplicateTaxId loaded.clientId t) := by
  have hload := BillingProfileService.run_load hloaded
  have hkey : loaded.id = profileId := Table.key_of_find? hloaded
  have hfree : (BillingProfileService.assertTaxIdFree loaded body.taxId).run db =
      .error (.duplicateTaxId loaded.clientId t) := by
    rw [hfld, BillingProfileService.assertTaxIdFree, if_neg hchanges, hkey]
    exact BillingProfileService.run_assertUniqueTaxId hvalid hb hhas
  rw [BillingProfileService.update, Prog.run_bind_ok hload]
  exact Prog.run_bind_error hfree _

/-- **A request that repeats an identifier is refused**, if it spells it alike. -/
theorem handle_of_repeats (hvalid : db.Valid) (hI : OneIdentity p db.billingProfiles)
    {sub : Except Fault String} {u : User} {r₀ : Request} (hu : currentUser db sub = .ok u)
    (hrole : u.role ∈ [Role.admin, Role.comercial]) (hv : r₀.validate? p = some r)
    (halike : r.spellsAlike p db = true) {w : TaxIdWrite} (hw : r.taxIdWrite? db = some w)
    (hb : b ∈ w.holders p db) :
    handle p s env db sub (.bound r₀) =
      ((Fault.duplicateTaxId w.clientId w.taxId).response, db) := by
  obtain ⟨hmem, hclient, hsame, hother⟩ := TaxIdWrite.mem_holders.1 hb
  have hhas : BillingProfileService.hasTaxId w.clientId w.taxId w.profileId b = true := by
    rw [BillingProfileService.hasTaxId, hother, Bool.and_true]
    exact decide_eq_true ⟨hclient, Request.taxId_eq_of_spellsAlike halike hw hb⟩
  have hmounted : r.needsPortal = false → mounted s r₀ = true := by
    intro hneeds
    rw [mounted, (sameKind_of_validate? hv).needsPortal.symm.trans hneeds]
    exact Bool.or_true _
  cases r with
  | createBillingProfile clientId body =>
    cases hw
    have hrun := run_createForClient_of_repeats env hvalid hmem hhas
    rw [handle_of_admitted (hmounted rfl) hv (Handler.guard_requireRole.2 ⟨u, hu, hrole, rfl⟩),
      respond, Prog.transact_of_error (Prog.run_bind_error hrun _)]
  | updateBillingProfile profileId body =>
    rw [Request.taxIdWrite?] at hw
    rcases hloaded : db.billingProfiles.find? profileId with - | loaded <;>
      rcases hfld : body.taxId with - | - | t <;>
      simp only [hloaded, hfld, Option.some.injEq, reduceCtorEq] at hw
    subst hw
    obtain ⟨hl, hkey⟩ := Table.find?_eq_some_iff.1 hloaded
    -- The profile itself has another identity than `b`, so it is about to change.
    have hchanges : t ≠ loaded.taxId.val := by
      rintro rfl
      have heq : b = loaded := hI b hmem loaded hl hclient hsame
      rw [heq] at hother
      exact absurd hkey.symm (of_decide_eq_true hother)
    have hrun := run_update_of_repeats env hvalid hloaded hfld hchanges hmem hhas
    rw [handle_of_admitted (hmounted rfl) hv (Handler.guard_requireRole.2 ⟨u, hu, hrole, rfl⟩),
      respond, Prog.transact_of_error (Prog.run_bind_error hrun _)]
  | _ => cases hw

end Identities

/-! ### All runs -/

/-- **What holds of identities** in a state, and for the next request. -/
structure FiscallyUnique (p : Platform) (s : Settings) (db : Db) : Prop where
  /-- No client has an identity on two profiles. -/
  oneIdentity : OneIdentity p db.billingProfiles
  /-- A creation or an edit that repeats an identity of the client is answered with 409. -/
  refused : ∀ env sub u r₀ r w, currentUser db sub = .ok u →
    u.role ∈ [Role.admin, Role.comercial] → r₀.validate? p = some r →
    r.spellsAlike p db = true → r.taxIdWrite? db = some w → w.holders p db ≠ [] →
    handle p s env db sub (.bound r₀) =
      ((Fault.duplicateTaxId w.clientId w.taxId).response, db)

/-- **One fiscal identity per client**, in every run in which nobody sends a second spelling. -/
theorem oneIdentity_run (p : Platform) (s : Settings) {acts : List Act}
    (h : EveryStep (fun db a ↦ (a.perform p s db).2) (fun db a ↦ a.spellsAlike p db = true)
      Db.empty acts) :
    FiscallyUnique p s (run p s acts).db := by
  have hone : OneIdentity p (run p s acts).db.billingProfiles := by
    rw [db_run]
    refine (foldl_invariant_of (I := fun db : Db ↦ db.Valid ∧ OneIdentity p db.billingProfiles)
      ⟨Db.valid_empty, fun b hb ↦ absurd hb Table.not_mem_empty⟩ ?_ h).2
    rintro db a ⟨hvalid, hI⟩ halike
    have hvalid' := (valid_perform (p := p) (s := s) hvalid a).2
    refine ⟨hvalid', ?_⟩
    have hhappens := happens (p := p) (s := s) db a
    generalize (a.perform p s db).1 = answer at hhappens
    generalize (a.perform p s db).2 = db' at hhappens hvalid'
    cases hhappens with
    | idle h => exact hI
    | step hv h =>
      rw [Act.spellsAlike, hv, Option.all_some] at halike
      exact h.oneIdentity hvalid hvalid' (Request.checked_of_validate? hv) halike hI
    | account h =>
      obtain ⟨t, rfl⟩ := TableOp.exists_setTable h
      exact hI
    | refused => exact hI
  refine ⟨hone, fun env sub u r₀ r w hu hrole hv halike hw hholders ↦ ?_⟩
  obtain ⟨b, hb⟩ := List.exists_mem_of_ne_nil _ hholders
  exact handle_of_repeats (valid_run acts) hone hu hrole hv halike hw hb

/-- An operator, a client, and attempts to give it billing profiles with these identifiers. -/
def billedTo (taxIds : List String) : List Act :=
  let root : User := .sample 1 (.lit "root@example.com") .admin none
  let send (first : ℕ) (r : Request) : Act :=
    .request (.sample first) (.ok "root@example.com") (.bound r)
  let profile (taxId : String) : BillingProfileCreate :=
    ⟨"Ada", taxId, .nif, .general, "Main Street 1", none, "Madrid", "Madrid", "28001", "ES", none,
      false⟩
  [.account (.insert root),
    send 10 (.createClient ⟨"Ada", none, none, none, none, none, "lead"⟩)] ++
    taxIds.mapIdx fun i taxId ↦ send (20 + i) (.createBillingProfile 10 (profile taxId))

/-- The identifier that has been stored is valid. -/
theorem validTaxId_billedTo :
    ∃ b ∈ (run .sample .sample (billedTo ["12345678Z"])).db.billingProfiles,
      TaxId.validator .sample b.taxIdType b.taxId.val = true := by
  have hstored : (run .sample .sample (billedTo ["12345678Z"])).db.billingProfiles.rows ≠ [] := by
    decide +kernel
  obtain ⟨b, hb⟩ := List.exists_mem_of_ne_nil _ hstored
  exact ⟨b, hb, validTaxId_run .sample .sample (billedTo ["12345678Z"]) b hb⟩

/-- A second identity is stored, and the repetition of the first one is refused. -/
theorem oneIdentity_billedTo :
    (EveryStep (fun db a ↦ (a.perform .sample .sample db).2)
      (fun db a ↦ a.spellsAlike .sample db = true) Db.empty
      (billedTo ["12345678Z", "00000000T", "12345678Z"])) ∧
    FiscallyUnique .sample .sample
      (run .sample .sample (billedTo ["12345678Z", "00000000T", "12345678Z"])).db :=
  ⟨by decide +kernel, oneIdentity_run .sample .sample (by decide +kernel)⟩

/-- **A client can have one identity twice**: the check compares the texts. -/
theorem spelled_twice :
    ¬OneIdentity .sample (run .sample .sample
      (billedTo ["12345678Z", "12345678z"])).db.billingProfiles := by
  decide +kernel

end ZanovixCrm
