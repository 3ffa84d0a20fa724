import ZanovixCrm.Services.ClientService
import ZanovixCrm.Database.Integrity

/-!
# Billing profile service

Which profile of a client is the default is kept by the handlers alone: the first profile is forced
to be it, a new default demotes the others in bulk, deleting the default promotes the oldest
sibling.

**No lock is taken.** Each of the three decisions reads the siblings and then writes, in one
transaction but under `READ COMMITTED`; the statements are kept apart here, so that what can come in
between two of them can be said. There is no unique index on the default either: two defaults are a
state that the schema admits.
-/

namespace ZanovixCrm.BillingProfileService

def assertClientExists (clientId : UUID) : Tx Unit := do
  let found ← .query fun db ↦ db.clients.find? clientId
  let _ ← .demand found (.clientNotFound clientId)

/-- Another profile of the client, other than `excludeId`, has the identifier. -/
def hasTaxId (clientId : UUID) (taxId : String) (excludeId : Option UUID) (b : BillingProfile) :
    Bool :=
  decide (b.clientId = clientId ∧ b.taxId.val = taxId) && excludeId.all (· ≠ b.id)

def assertUniqueTaxId (clientId : UUID) (taxId : String) (excludeId : Option UUID) : Tx Unit := do
  Session.bindText (some taxId)
  let rows ← .query fun db ↦ db.billingProfiles.rows.filter (hasTaxId clientId taxId excludeId)
  let existing ← Session.scalarOneOrNone rows
  .require existing.isNone (.duplicateTaxId clientId taxId)

def countForClient (clientId : UUID) : Tx ℕ :=
  .query fun db ↦ db.billingProfiles.rows.countP fun b ↦ decide (b.clientId = clientId)

def load (profileId : UUID) : Tx BillingProfile := do
  let found ← .query fun db ↦ db.billingProfiles.find? profileId
  .demand found (.billingProfileNotFound profileId)

/-- The unique constraint on the identifiers of a client. -/
def uniqueName : String := "uq_billing_profile_client_tax_id"

/-- The `except IntegrityError` around a flush: a violation of the unique constraint becomes
`fault`, and everything else is raised again. -/
def onIntegrityError (fault : Fault) (e : Fault) : Fault :=
  if e = .db (.unique uniqueName) then fault else e

/-- `SET is_default = false` in a bulk update. -/
def demote (env : Env) : Assign BillingProfile :=
  .seq [BillingProfile.Col.isDefault.put false, touch env.now]

/-- Decide whether a new profile is the default, and demote the others if it replaces one. -/
def claimDefault (env : Env) (clientId : UUID) (payload : BillingProfileCreate) (count : ℕ) :
    Tx Bool :=
  if count = 0 then pure true
  else if payload.isDefault then do
    Session.updateWhere (fun b ↦ decide (b.clientId = clientId)) (demote env)
    return true
  else pure false

def createForClient (env : Env) (clientId : UUID) (payload : BillingProfileCreate) :
    Tx BillingProfile := do
  assertClientExists clientId
  assertUniqueTaxId clientId payload.taxId none
  let count ← countForClient clientId
  let isDefault ← claimDefault env clientId payload count
  let row := ClientService.billingProfileRow env (env.uuid 0) clientId payload isDefault
  (Session.add row).mapError (onIntegrityError (.duplicateTaxId clientId payload.taxId))
  Session.refresh (env.uuid 0)

/-- Default first, then oldest first. -/
def listForClient (clientId : UUID) : Tx (List BillingProfile) :=
  .query fun db ↦ selectAsc db.billingProfiles (fun b ↦ decide (b.clientId = clientId))
    fun b ↦ toLex (!b.isDefault, b.createdAt)

def get (profileId : UUID) : Tx BillingProfile := load profileId

/-- The attributes that a partial update assigns. -/
def changes (payload : BillingProfileUpdate) : List (Change BillingProfile) :=
  BillingProfile.Col.legalName.patch payload.legalName ++
    BillingProfile.Col.taxId.patch payload.taxId ++
    BillingProfile.Col.taxIdType.patch payload.taxIdType ++
    BillingProfile.Col.taxRegime.patch payload.taxRegime ++
    BillingProfile.Col.addressLine1.patch payload.addressLine1 ++
    BillingProfile.Col.addressLine2.patch payload.addressLine2 ++
    BillingProfile.Col.city.patch payload.city ++
    BillingProfile.Col.province.patch payload.province ++
    BillingProfile.Col.postalCode.patch payload.postalCode ++
    BillingProfile.Col.country.patch payload.country ++
    BillingProfile.Col.billingEmail.patch payload.billingEmail

/-- The check before an update that changes the identifier. A `null` matches no row. -/
def assertTaxIdFree (profile : BillingProfile) : Field String → Tx Unit
  | .val taxId =>
    if taxId = profile.taxId.val then pure ()
    else assertUniqueTaxId profile.clientId taxId (some profile.id)
  | _ => pure ()

/-- After the rollback in its `except` clause the source reads attributes of an expired object,
which an asynchronous session cannot load. -/
def update (env : Env) (profileId : UUID) (payload : BillingProfileUpdate) : Tx BillingProfile := do
  let profile ← load profileId
  assertTaxIdFree profile payload.taxId
  (Session.flush env profile (changes payload)).mapError (onIntegrityError .unhandled)
  Session.refresh profileId

/-- The siblings of a profile, oldest first. -/
def siblings (db : Db) (profile : BillingProfile) : List BillingProfile :=
  selectAsc db.billingProfiles
    (fun b ↦ decide (b.clientId = profile.clientId ∧ b.id ≠ profile.id)) BillingProfile.createdAt

/-- Hand the default over before it is deleted. -/
def promoteSibling (env : Env) (profile : BillingProfile) : Tx Unit :=
  if profile.isDefault then do
    let others ← .query fun db ↦ siblings db profile
    match others with
    | [] => .raise (.cannotDeleteOnlyDefault profile.id)
    | oldest :: _ => Session.flush env oldest [BillingProfile.Col.isDefault.assign (some true)]
  else pure ()

/-- The promotion and the deletion are one flush, which updates before it deletes. -/
def delete (env : Env) (profileId : UUID) : Tx Unit := do
  let profile ← load profileId
  promoteSibling env profile
  Session.delete .billingProfiles profileId

def setDefault (env : Env) (profileId : UUID) : Tx BillingProfile := do
  let profile ← load profileId
  Session.updateWhere (fun b ↦ decide (b.clientId = profile.clientId ∧ b.id ≠ profileId))
    (demote env)
  Session.flush env profile [BillingProfile.Col.isDefault.assign (some true)]
  Session.refresh profileId

/-! ### Specifications -/

section Specs

variable {env : Env} {db : Db} {clientId profileId : UUID}

theorem sameKeys_demote (b : BillingProfile) :
    Relation.sameKeys b ((demote env).fn b) = true := by
  simp [demote, Relation.sameKeys, BillingProfile.Col.isDefault, touch]

/-- The row `old` with the fields of `new` that the payload sets, and its time stamp. -/
def merge (payload : BillingProfileUpdate) (new old : BillingProfile) : BillingProfile :=
  { old with
    updatedAt := new.updatedAt
    legalName := if payload.legalName.isSet then new.legalName else old.legalName
    taxId := if payload.taxId.isSet then new.taxId else old.taxId
    taxIdType := if payload.taxIdType.isSet then new.taxIdType else old.taxIdType
    taxRegime := if payload.taxRegime.isSet then new.taxRegime else old.taxRegime
    addressLine1 := if payload.addressLine1.isSet then new.addressLine1 else old.addressLine1
    addressLine2 := if payload.addressLine2.isSet then new.addressLine2 else old.addressLine2
    city := if payload.city.isSet then new.city else old.city
    province := if payload.province.isSet then new.province else old.province
    postalCode := if payload.postalCode.isSet then new.postalCode else old.postalCode
    country := if payload.country.isSet then new.country else old.country
    billingEmail := if payload.billingEmail.isSet then new.billingEmail else old.billingEmail }

@[simp] theorem clientId_merge (payload : BillingProfileUpdate) (new old : BillingProfile) :
    (merge payload new old).clientId = old.clientId := rfl

@[simp] theorem isDefault_merge (payload : BillingProfileUpdate) (new old : BillingProfile) :
    (merge payload new old).isDefault = old.isDefault := rfl

/-- **An edit changes the fields that it sets, and no others.** -/
theorem eq_merge {now : Time} {payload : BillingProfileUpdate} {k : UUID} {b b' : BillingProfile}
    (h : Session.Flushed now (changes payload) db k b b') : b' = merge payload b' b := by
  have hmerge : merge payload b' b' = merge payload b' b := by
    refine h.preserves (f := merge payload b') ?_ fun _ _ ↦ rfl
    simp only [changes, Preserves.append, and_assoc]
    refine ⟨.patch ?_, .patch ?_, .patch ?_, .patch ?_, .patch ?_, .patch ?_, .patch ?_,
      .patch ?_, .patch ?_, .patch ?_, .patch ?_⟩ <;>
      intro hset _ _ <;> simp only [merge, hset, if_true] <;> rfl
  rw [← hmerge]
  simp only [merge, ite_self]

section Edits

variable {now : Time} {payload : BillingProfileUpdate} {k : UUID} {b b' : BillingProfile}

/-- **The identifier after an edit** is the one that was set, if one was. -/
theorem taxId_of_flushed (h : Session.Flushed now (changes payload) db k b b')
    (hlen : payload.taxId.all (lengthIn 3 32) = true) :
    some b'.taxId.val = payload.taxId.onto (some b.taxId.val) := by
  have hpatches : Session.Patches BillingProfile.Col.taxId payload.taxId (changes payload) := by
    simp only [changes, List.append_assoc]
    refine .right (.left .self ?_) (.patch fun _ _ _ ↦ rfl)
    simp only [Preserves.append]
    refine ⟨.patch ?_, .patch ?_, .patch ?_, .patch ?_, .patch ?_, .patch ?_, .patch ?_, .patch ?_,
      .patch ?_⟩ <;> exact fun _ _ _ ↦ rfl
  have hstored := Session.encode_onto_of_patches h.accepted.flushes hpatches fun _ _ ↦ rfl
  rw [← h.new_eq] at hstored
  refine (eq_some_val_of_encode (fun s hs ↦ ?_) hstored).symm
  -- The text is the stored one, or within the bound by the schema check.
  rcases hfld : payload.taxId with - | - | t
  · rw [hfld] at hs
    exact Option.some.inj hs ▸ b.taxId.fits 32 rfl
  · rw [hfld] at hs
    cases hs
  · rw [hfld] at hs hlen
    simp only [Field.all, lengthIn, Bool.and_eq_true, decide_eq_true_eq] at hlen
    exact Option.some.inj hs ▸ hlen.2

/-- **The type of the identifier after an edit** is the one that was set, if one was. -/
theorem taxIdType_of_flushed (h : Session.Flushed now (changes payload) db k b b') :
    some b'.taxIdType = payload.taxIdType.onto (some b.taxIdType) := by
  have hpatches : Session.Patches BillingProfile.Col.taxIdType payload.taxIdType
      (changes payload) := by
    simp only [changes, List.append_assoc]
    refine .right (.right (.left .self ?_) (.patch fun _ _ _ ↦ rfl)) (.patch fun _ _ _ ↦ rfl)
    simp only [Preserves.append]
    refine ⟨.patch ?_, .patch ?_, .patch ?_, .patch ?_, .patch ?_, .patch ?_, .patch ?_,
      .patch ?_⟩ <;> exact fun _ _ _ ↦ rfl
  have hstored := Session.encode_onto_of_patches h.accepted.flushes hpatches fun _ _ ↦ rfl
  rw [← h.new_eq] at hstored
  exact (eq_some_of_encode hstored).symm

end Edits

theorem saved_isDefault (now : Time) (b : BillingProfile) (d : Bool) :
    (Session.saved now b [BillingProfile.Col.isDefault.assign (some d)]).fn b =
      if b.isDefault = d then b else { b with isDefault := d, updatedAt := now } :=
  Session.saved_assign rfl rfl

theorem ensures_assertUniqueTaxId {taxId : String} {excludeId : Option UUID}
    {Q : Unit → Db → Prop} (h : Q () db) :
    (assertUniqueTaxId clientId taxId excludeId).Ensures db Q := by
  simp only [assertUniqueTaxId, Session.bindText, Prog.ensures_bind, Prog.ensures_require,
    Prog.ensures_query, Session.ensures_scalarOneOrNone]
  exact fun _ ↦ ⟨fun _ _ ↦ h, fun _ _ _ ↦ h⟩

/-- **An identifier that another profile of the client has is refused**, if it has the same text. -/
theorem run_assertUniqueTaxId (hvalid : db.Valid) {taxId : String} {excludeId : Option UUID}
    {b : BillingProfile} (hb : b ∈ db.billingProfiles)
    (hhas : hasTaxId clientId taxId excludeId b = true) :
    (assertUniqueTaxId clientId taxId excludeId).run db =
      .error (.duplicateTaxId clientId taxId) := by
  have hsame : ∀ x, hasTaxId clientId taxId excludeId x = true →
      x.clientId = clientId ∧ x.taxId.val = taxId := fun x hx ↦
    of_decide_eq_true (Bool.and_eq_true_iff.1 hx).1
  obtain ⟨hclient, rfl⟩ := hsame b hhas
  have hrows : db.billingProfiles.rows.filter (hasTaxId clientId b.taxId.val excludeId) = [b] := by
    refine List.perm_singleton.1 ((List.perm_ext_iff_of_nodup
      (db.billingProfiles.keys_nodup.of_map _ |>.filter _) (List.nodup_singleton b)).2 fun x ↦ ?_)
    rw [List.mem_filter, List.mem_singleton]
    constructor
    · rintro ⟨hx, hhas'⟩
      obtain ⟨hclient', htax⟩ := hsame x hhas'
      refine Table.eq_of_key_eq hx hb (hvalid.billingProfiles.unique x hx b hb ?_)
      exact Prod.ext (hclient'.trans hclient.symm) (Varchar.ext htax)
    · rintro rfl
      exact ⟨hb, hhas⟩
  have hbind : Session.bindText (some b.taxId.val) = .ret () := by
    rw [Session.bindText, Prog.require, if_pos]
    simpa using b.taxId.noNul
  rw [assertUniqueTaxId, hbind, Prog.ret_bind, Prog.run_bind_ok (Prog.run_query _ db), hrows]
  rfl

theorem run_load {b : BillingProfile} (hb : db.billingProfiles.find? profileId = some b) :
    (load profileId).run db = .ok (b, db) :=
  Prog.run_lookup_some db hb _

theorem ensures_load {Q : BillingProfile → Db → Prop} :
    (load profileId).Ensures db Q ↔
      ∀ b, db.billingProfiles.find? profileId = some b → Q b db := by
  simp [load]

/-- The number of profiles of a client. -/
def profileCount (db : Db) (clientId : UUID) : ℕ :=
  db.billingProfiles.rows.countP fun b ↦ decide (b.clientId = clientId)

/-- The flag of a new profile, and the profiles as they are before it is inserted. -/
def claimed (env : Env) (db : Db) (clientId : UUID) (payload : BillingProfileCreate) :
    Bool × Table BillingProfile :=
  if profileCount db clientId = 0 then (true, db.billingProfiles)
  else if payload.isDefault then
    (true, db.billingProfiles.alterWhere (fun b ↦ decide (b.clientId = clientId)) (demote env))
  else (false, db.billingProfiles)

/-- The three ways in which the flag of a new profile is decided. -/
theorem claimed_cases (env : Env) (db : Db) (clientId : UUID) (payload : BillingProfileCreate) :
    (profileCount db clientId = 0 ∧
      claimed env db clientId payload = (true, db.billingProfiles)) ∨
    (profileCount db clientId ≠ 0 ∧ payload.isDefault = true ∧
      claimed env db clientId payload = (true,
        db.billingProfiles.alterWhere (fun b ↦ decide (b.clientId = clientId)) (demote env))) ∨
    (profileCount db clientId ≠ 0 ∧ payload.isDefault = false ∧
      claimed env db clientId payload = (false, db.billingProfiles)) := by
  by_cases hcount : profileCount db clientId = 0
  · exact Or.inl ⟨hcount, if_pos hcount⟩
  · rcases hd : payload.isDefault with - | -
    · exact Or.inr (Or.inr ⟨hcount, rfl, by simp [claimed, hcount, hd]⟩)
    · exact Or.inr (Or.inl ⟨hcount, rfl, by simp [claimed, hcount, hd]⟩)

theorem ensures_claimDefault {payload : BillingProfileCreate} {Q : Bool → Db → Prop}
    (h : Q (claimed env db clientId payload).1
      { db with billingProfiles := (claimed env db clientId payload).2 }) :
    (claimDefault env clientId payload (profileCount db clientId)).Ensures db Q := by
  unfold claimDefault
  rcases claimed_cases env db clientId payload with ⟨hcount, hclaim⟩ | ⟨hcount, hd, hclaim⟩ |
    ⟨hcount, hd, hclaim⟩ <;> rw [hclaim] at h
  · rw [if_pos hcount]
    exact Session.ensures_pure.2 h
  · rw [if_neg hcount, hd, if_pos rfl, Prog.ensures_bind,
      Session.ensures_updateWhere sameKeys_demote]
    exact Session.ensures_pure.2 h
  · rw [if_neg hcount, hd]
    exact Session.ensures_pure.2 h

theorem ensures_createForClient {payload : BillingProfileCreate} :
    (createForClient env clientId payload).Ensures db fun b db' ↦
      db.clients.has clientId = true ∧
      ClientService.billingProfileRow env (env.uuid 0) clientId payload
        (claimed env db clientId payload).1 = .ok b ∧
      (claimed env db clientId payload).2.has b.id = false ∧
      db' = { db with billingProfiles := (claimed env db clientId payload).2.insert b } := by
  simp only [createForClient, assertClientExists, Prog.ensures_bind, Prog.ensures_query,
    Prog.ensures_demand, Session.ensures_pure]
  intro c hc
  refine ensures_assertUniqueTaxId ?_
  simp only [countForClient, Prog.ensures_query]
  refine ensures_claimDefault ?_
  simp only [Prog.ensures_mapError, Session.ensures_add, Session.ensures_refresh]
  intro b hrow hnew _ b' hb'
  obtain rfl := Table.eq_of_find?_insert hnew (ClientService.billingProfileRow_spec hrow).1 hb'
  exact ⟨by rw [Table.has, hc]; rfl, hrow, hnew, rfl⟩

theorem ensures_assertTaxIdFree {b : BillingProfile} {taxId : Field String} {Q : Unit → Db → Prop}
    (h : Q () db) : (assertTaxIdFree b taxId).Ensures db Q := by
  rcases taxId with - | - | taxId
  · exact Session.ensures_pure.2 h
  · exact Session.ensures_pure.2 h
  · rw [assertTaxIdFree]
    split
    · exact Session.ensures_pure.2 h
    · exact ensures_assertUniqueTaxId h

theorem ensures_update {payload : BillingProfileUpdate} :
    (update env profileId payload).Ensures db fun b' db' ↦ ∃ b,
      Session.Flushed env.now (changes payload) db profileId b b' ∧
      db' = { db with
        billingProfiles := db.billingProfiles.alter profileId
          (Session.saved env.now b (changes payload)) } := by
  rw [update, Prog.ensures_bind, ensures_load]
  intro b hb
  rw [Prog.ensures_bind]
  refine ensures_assertTaxIdFree ?_
  simp only [Prog.ensures_bind, Prog.ensures_mapError, Session.ensures_flush,
    Session.ensures_refresh]
  intro hok b' hb'
  obtain ⟨hflushed, hkey⟩ := Session.Flushed.of_find? hb hok hb'
  exact ⟨b, hflushed, by rw [hkey]; rfl⟩

/-- Nothing keeps the flag of a profile from being changed. -/
theorem accepted_isDefault (env : Env) {b : BillingProfile}
    (hb : db.billingProfiles.find? b.id = some b)
    (d : Bool) : Session.Accepted env.now b [BillingProfile.Col.isDefault.assign (some d)] db := by
  by_cases hclean : (Session.dirty b [BillingProfile.Col.isDefault.assign (some d)]).isEmpty = true
  · exact Or.inl hclean
  · have hdirty : Session.dirty b [BillingProfile.Col.isDefault.assign (some d)] =
        [BillingProfile.Col.isDefault.assign (some d)] := by
      refine List.filter_eq_self.2 fun x hx ↦ ?_
      rw [Session.dirty, List.isEmpty_iff, List.filter_eq_nil_iff] at hclean
      push Not at hclean
      obtain ⟨y, hy, hyd⟩ := hclean
      rwa [List.mem_singleton.1 hx, ← List.mem_singleton.1 hy]
    refine Or.inr ⟨_, b, by rw [Session.updateOf, hdirty]; rfl, hb, ?_⟩
    exact if_pos (by simp [Relation.sameKeys, BillingProfile.Col.isDefault, Column.put, touch])

/-- The profiles after the default has been handed over, if the profile has it. -/
inductive HandsOver (env : Env) (db : Db) (b : BillingProfile) : Table BillingProfile → Prop where
  | notDefault (h : b.isDefault = false) : HandsOver env db b db.billingProfiles
  | promote (h : b.isDefault = true) {oldest : BillingProfile} {rest : List BillingProfile}
    (hsiblings : siblings db b = oldest :: rest)
    (hok : Session.Flushes env.now oldest [BillingProfile.Col.isDefault.assign (some true)]) :
    HandsOver env db b (db.billingProfiles.alter oldest.id
      (Session.saved env.now oldest [BillingProfile.Col.isDefault.assign (some true)]))

theorem ensures_promoteSibling {b : BillingProfile} {Q : Unit → Db → Prop}
    (h : ∀ t, HandsOver env db b t → Q () { db with billingProfiles := t }) :
    (promoteSibling env b).Ensures db Q := by
  unfold promoteSibling
  split
  · next hdefault =>
    rw [Prog.ensures_bind, Prog.ensures_query]
    rcases hs : siblings db b with - | ⟨oldest, rest⟩
    · exact Prog.ensures_raise
    · rw [Session.ensures_flush]
      exact fun hok ↦ h _ (.promote hdefault hs hok.flushes)
  · next hdefault =>
    exact Session.ensures_pure.2 (h _ (.notDefault (Bool.eq_false_iff.2 hdefault)))

theorem ensures_delete :
    (delete env profileId).Ensures db fun _ db' ↦ ∃ b t,
      db.billingProfiles.find? profileId = some b ∧ HandsOver env db b t ∧
      db' = { db with billingProfiles := t.erase profileId } := by
  rw [delete, Prog.ensures_bind, ensures_load]
  intro b hb
  rw [Prog.ensures_bind]
  refine ensures_promoteSibling fun t ht ↦ ?_
  rw [Session.ensures_delete]
  exact ⟨b, t, hb, ht, rfl⟩

/-- The oldest of the siblings comes first. -/
theorem siblings_eq_cons {b m : BillingProfile} (hm : m ∈ siblings db b)
    (hleast : ∀ x ∈ siblings db b, byAsc BillingProfile.createdAt m ≤
      (byAsc BillingProfile.createdAt x : Lex (Time × UUID))) :
    ∃ rest, siblings db b = m :: rest := by
  rcases hs : siblings db b with - | ⟨x, rest⟩
  · rw [hs] at hm
    cases hm
  · have hsorted : (x :: rest).Pairwise fun a c ↦ byAsc BillingProfile.createdAt a ≤
        (byAsc BillingProfile.createdAt c : Lex (Time × UUID)) := hs ▸ pairwise_selectAsc _ _ _
    have hx : x ∈ siblings db b := hs ▸ List.mem_cons_self
    have hxm : byAsc BillingProfile.createdAt x ≤
        (byAsc BillingProfile.createdAt m : Lex (Time × UUID)) := by
      rw [hs] at hm
      rcases List.mem_cons.1 hm with rfl | hm
      · exact le_rfl
      · exact (List.pairwise_cons.1 hsorted).1 m hm
    have hkey := key_eq_of_byAsc_eq (le_antisymm hxm (hleast x hx))
    exact ⟨rest, by rw [Table.eq_of_key_eq (mem_selectAsc.1 hx).1 (mem_selectAsc.1 hm).1 hkey]⟩

/-- **A deletion succeeds** if the default can be handed over. -/
theorem run_delete {b : BillingProfile} {t : Table BillingProfile}
    (hb : db.billingProfiles.find? profileId = some b) (ht : HandsOver env db b t) :
    (delete env profileId).run db =
      .ok ((), { db with billingProfiles := t.erase profileId }) := by
  have hpromote : (promoteSibling env b).run db = .ok ((), { db with billingProfiles := t }) := by
    cases ht with
    | notDefault h =>
      rw [promoteSibling, h]
      rfl
    | @promote h oldest rest hsiblings hok =>
      have hsib : oldest ∈ siblings db b := hsiblings ▸ List.mem_cons_self
      have hfound : db.billingProfiles.find? oldest.id = some oldest :=
        Table.find?_of_mem (mem_selectAsc.1 hsib).1
      rw [promoteSibling, if_pos h, Prog.run_bind_ok (Prog.run_query _ db), hsiblings]
      exact Session.run_flush_ok (accepted_isDefault env hfound true)
  rw [delete, Prog.run_bind_ok (run_load hb), Prog.run_bind_ok hpromote]
  rfl

/-- The profiles after the siblings of a profile have been demoted. -/
def demoted (env : Env) (db : Db) (b : BillingProfile) : Table BillingProfile :=
  db.billingProfiles.alterWhere (fun x ↦ decide (x.clientId = b.clientId ∧ x.id ≠ b.id))
    (demote env)

theorem find?_demoted {b : BillingProfile} (hb : b ∈ db.billingProfiles) :
    (demoted env db b).find? b.id = some b :=
  Table.find?_eq_some_iff.2 ⟨Table.mem_alterWhere.2 ⟨b, hb, by simp⟩, rfl⟩

/-- **A change of the default succeeds** if the profile exists. -/
theorem run_setDefault (env : Env) {b : BillingProfile}
    (hb : db.billingProfiles.find? profileId = some b) :
    (setDefault env profileId).run db =
      .ok ((Session.saved env.now b [BillingProfile.Col.isDefault.assign (some true)]).fn b,
        { db with
          billingProfiles := (demoted env db b).alter profileId
            (Session.saved env.now b [BillingProfile.Col.isDefault.assign (some true)]) }) := by
  obtain ⟨hmem, rfl⟩ := Table.find?_eq_some_iff.1 hb
  have hfound : (demoted env db b).find? b.id = some b := find?_demoted hmem
  have hload : (load b.id).run db = .ok (b, db) := run_load hb
  have hok : Session.Accepted env.now b [BillingProfile.Col.isDefault.assign (some true)]
      { db with billingProfiles := demoted env db b } := accepted_isDefault env hfound true
  rw [setDefault, key_billingProfile, Prog.run_bind_ok hload,
    Prog.run_bind_ok (Session.run_updateWhere sameKeys_demote db)]
  refine (Prog.run_bind_ok (Session.run_flush_ok hok) _).trans ?_
  exact Session.run_refresh (Table.find?_alter_self hfound _)

theorem ensures_setDefault :
    (setDefault env profileId).Ensures db fun b' db' ↦ ∃ b,
      db.billingProfiles.find? profileId = some b ∧
      Session.Flushes env.now b [BillingProfile.Col.isDefault.assign (some true)] ∧
      b' = (Session.saved env.now b [BillingProfile.Col.isDefault.assign (some true)]).fn b ∧
      db' = { db with
        billingProfiles := (demoted env db b).alter profileId
          (Session.saved env.now b [BillingProfile.Col.isDefault.assign (some true)]) } := by
  intro b' db' hrun
  have hexists : (setDefault env profileId).Ensures db fun _ _ ↦
      ∃ b, db.billingProfiles.find? profileId = some b := by
    rw [setDefault, Prog.ensures_bind, ensures_load]
    exact fun b hb _ _ _ ↦ ⟨b, hb⟩
  obtain ⟨b, hb⟩ := hexists b' db' hrun
  rw [run_setDefault env hb] at hrun
  cases hrun
  obtain rfl := Table.key_of_find? hb
  exact ⟨b, hb, (accepted_isDefault env hb true).flushes, rfl, rfl⟩

/-! ### What becomes of the other profiles -/

/-- The profiles differ in the flag and its time stamp at most. -/
def FlagOnly (b b' : BillingProfile) : Prop :=
  b' = { b with isDefault := b'.isDefault, updatedAt := b'.updatedAt }

theorem FlagOnly.refl (b : BillingProfile) : FlagOnly b b := rfl

theorem FlagOnly.trans (a b c : BillingProfile) (h : FlagOnly a b) (h' : FlagOnly b c) :
    FlagOnly a c := by
  unfold FlagOnly at *
  rw [h] at h'
  exact h'

theorem FlagOnly.clientId_eq {b b' : BillingProfile} (h : FlagOnly b b') :
    b'.clientId = b.clientId := by
  have heq := congrArg BillingProfile.clientId h
  exact heq

theorem FlagOnly.id_eq {b b' : BillingProfile} (h : FlagOnly b b') : b'.id = b.id := by
  have heq := congrArg BillingProfile.id h
  exact heq

theorem FlagOnly.taxId_eq {b b' : BillingProfile} (h : FlagOnly b b') : b'.taxId = b.taxId := by
  have heq := congrArg BillingProfile.taxId h
  exact heq

theorem flagOnly_demote (env : Env) (b : BillingProfile) : FlagOnly b ((demote env).fn b) := rfl

theorem flagOnly_saved (now : Time) (b : BillingProfile) (d : Bool) :
    FlagOnly b ((Session.saved now b [BillingProfile.Col.isDefault.assign (some d)]).fn b) := by
  rw [saved_isDefault]
  split
  · exact .refl b
  · rfl

section Others

variable {N : BillingProfile → Prop}

theorem evolves_claimed (env : Env) (db : Db) (clientId : UUID) (payload : BillingProfileCreate) :
    Table.Evolves FlagOnly N db.billingProfiles (claimed env db clientId payload).2 ∧
    ∀ k, db.billingProfiles.has k = true → (claimed env db clientId payload).2.has k = true := by
  rcases claimed_cases env db clientId payload with ⟨-, hclaim⟩ | ⟨-, -, hclaim⟩
    | ⟨-, -, hclaim⟩ <;>
    rw [hclaim]
  · exact ⟨.refl .refl, fun _ ↦ id⟩
  · exact ⟨.alterWhere .refl (flagOnly_demote env), fun _ hk ↦ Table.has_alterWhere.trans hk⟩
  · exact ⟨.refl .refl, fun _ ↦ id⟩

/-- A creation changes no more than the flags of other profiles. -/
theorem evolves_create {payload : BillingProfileCreate} {b : BillingProfile}
    (hN : ∀ a c, N a → FlagOnly a c → N c)
    (hnew : (claimed env db clientId payload).2.has b.id = false) (hb : N b) :
    Table.Evolves FlagOnly N db.billingProfiles
      ((claimed env db clientId payload).2.insert b) := by
  obtain ⟨hclaimed, hkeys⟩ := evolves_claimed (N := N) env db clientId payload
  exact hclaimed.trans (.insert .refl hnew hb) FlagOnly.trans hN hkeys

/-- A deletion changes no more than the flag of one other profile. -/
theorem evolves_delete {b : BillingProfile} {t : Table BillingProfile} (h : HandsOver env db b t)
    (k : UUID) : Table.Evolves FlagOnly N db.billingProfiles (t.erase k) := by
  have hhands : Table.Evolves FlagOnly N db.billingProfiles t := by
    cases h with
    | notDefault h => exact .refl .refl
    | @promote h oldest rest hsiblings hok =>
      have hsib : oldest ∈ siblings db b := hsiblings ▸ List.mem_cons_self
      exact .alter .refl (Table.find?_of_mem (mem_selectAsc.1 hsib).1)
        (flagOnly_saved env.now oldest true)
  exact fun r hr ↦ hhands r (Table.mem_erase.1 hr).1

/-- A change of the default changes no more than flags. -/
theorem evolves_setDefault {b : BillingProfile} (hb : b ∈ db.billingProfiles)
    (hN : ∀ a c, N a → FlagOnly a c → N c) :
    Table.Evolves FlagOnly N db.billingProfiles ((demoted env db b).alter b.id
      (Session.saved env.now b [BillingProfile.Col.isDefault.assign (some true)])) := by
  have hdemoted : Table.Evolves FlagOnly N db.billingProfiles (demoted env db b) :=
    .alterWhere .refl (flagOnly_demote env)
  refine hdemoted.trans ?_ FlagOnly.trans hN fun _ hk ↦ Table.has_alterWhere.trans hk
  exact .alter .refl (find?_demoted hb) (flagOnly_saved env.now b true)

end Others

end Specs

end ZanovixCrm.BillingProfileService
