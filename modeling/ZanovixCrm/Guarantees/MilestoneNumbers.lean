import Mathlib.Data.Int.Interval
import ZanovixCrm.AdminPanel.NewMilestoneDialog
import ZanovixCrm.Guarantees.IntegrityErrors
import ZanovixCrm.Library.NextNumber
import ZanovixCrm.Library.Transitions

/-!
# The index that is proposed for a milestone

The page of a service opens `NewMilestoneDialog` with the number of its milestones, and the dialog
proposes that number plus one. Indices are chosen freely and stay as they are when a milestone is
deleted, so the proposal may be taken: when the first of two milestones is deleted it is 2.

What an act does to the indices of a service is said once (`indices_perform`), by cases on `Step`;
whether the proposal is free after it is a matter of `NextNumber`. In a run from the empty database
it is free at every moment exactly if no act has been one of those that take it away
(`proposal_free_iff`).
-/

namespace ZanovixCrm

open NextNumber

/-- The indices of the milestones of a service. -/
def indices (db : Db) (serviceId : UUID) : Finset ℤ :=
  ((ServiceService.milestonesOf db serviceId).map fun m ↦ m.n.val).toFinset

/-- What the page of a service passes to the dialog: `service.milestones.length`. -/
def existingCount (db : Db) (serviceId : UUID) : ℕ :=
  (ServiceService.milestonesOf db serviceId).length

/-- **The proposal is free**: the dialog, opened in any state, submits an index that no milestone of
the service has, so that no milestone that is created with it clashes with another. -/
def ProposesFree (serviceId : UUID) (db : Db) : Prop :=
  ∀ d : NewMilestoneDialog, ∃ n,
    (d.handleOpen (existingCount db serviceId) true).submission.n = some n ∧
    (∀ m ∈ db.milestones, m.serviceId = serviceId → m.n.val ≠ n) ∧
    ∀ env body m, body.n = n → MilestoneService.row env serviceId body = .ok m →
      Relation.clash db m = none

/-- The act is answered with success. -/
def Act.succeeds (p : Platform) (s : Settings) (db : Db) (a : Act) : Bool :=
  (a.perform p s db).1.any Response.isOk

/-- **The act leaves the next proposal free**: if it creates a milestone, neither that one nor
another has the index that is proposed next; if it deletes one, it is the one that has that index,
or none has. -/
structure KeepsProposal (p : Platform) (s : Settings) (serviceId : UUID) (db : Db) (a : Act) :
    Prop where
  create : ∀ body, a.Asks p (.createMilestone serviceId body) →
    a.succeeds p s db = true →
    body.n ≠ existingCount db serviceId + 2 ∧
      ∀ m ∈ db.milestones, m.serviceId = serviceId → m.n.val ≠ existingCount db serviceId + 2
  delete : ∀ n, a.Asks p (.deleteMilestone serviceId n) →
    a.succeeds p s db = true →
    n = existingCount db serviceId ∨
      ∀ m ∈ db.milestones, m.serviceId = serviceId → m.n.val ≠ existingCount db serviceId

section Indices

variable {db : Db} {serviceId : UUID}

theorem mem_indices {n : ℤ} :
    n ∈ indices db serviceId ↔ ∃ m ∈ db.milestones, m.serviceId = serviceId ∧ m.n.val = n := by
  simp only [indices, List.mem_toFinset, List.mem_map, ServiceService.milestonesOf, mem_selectAsc,
    decide_eq_true_eq, and_assoc]

theorem notMem_indices {n : ℤ} :
    n ∉ indices db serviceId ↔ ∀ m ∈ db.milestones, m.serviceId = serviceId → m.n.val ≠ n := by
  rw [mem_indices]
  push Not
  rfl

/-- `uq_milestone_service_n`. -/
theorem eq_of_index_eq (hvalid : db.Valid) {m m' : Milestone} (hm : m ∈ db.milestones)
    (hm' : m' ∈ db.milestones) (hservice : m.serviceId = m'.serviceId)
    (hn : m.n.val = m'.n.val) : m = m' :=
  Table.eq_of_key_eq hm hm'
    (hvalid.milestones.unique m hm m' hm' (Prod.ext hservice (PgInt.val_injective hn)))

/-- **The milestones of a service are as many as their indices.** -/
theorem card_indices (hvalid : db.Valid) :
    (indices db serviceId).card = existingCount db serviceId := by
  have hperm : (ServiceService.milestonesOf db serviceId).Perm
      (db.milestones.rows.filter fun m ↦ decide (m.serviceId = serviceId)) := sortOn_perm _ _
  have hnodup : (ServiceService.milestonesOf db serviceId).Nodup :=
    hperm.nodup_iff.2 (db.milestones.keys_nodup.of_map _ |>.filter _)
  have hmap : ((ServiceService.milestonesOf db serviceId).map fun m ↦ m.n.val).Nodup := by
    refine hnodup.map_on fun m hm m' hm' hn ↦ ?_
    obtain ⟨hmem, hservice⟩ := mem_selectAsc.1 hm
    obtain ⟨hmem', hservice'⟩ := mem_selectAsc.1 hm'
    refine eq_of_index_eq hvalid hmem hmem' ?_ hn
    rw [of_decide_eq_true hservice, of_decide_eq_true hservice']
  rw [indices, List.toFinset_card_of_nodup hmap, List.length_map, existingCount]

/-- There are not so many that the count would be rounded. -/
theorem existingCount_lt (hvalid : db.Valid) :
    existingCount db serviceId < JsNumber.maxExact := by
  have hsub : indices db serviceId ⊆ Finset.Ico (-2 ^ 31) (2 ^ 31) := by
    intro n hn
    obtain ⟨m, -, -, rfl⟩ := mem_indices.1 hn
    exact Finset.mem_Ico.2 m.n.inRange
  have hcard : (Finset.Ico (-2 ^ 31 : ℤ) (2 ^ 31)).card = 2 ^ 32 := by
    rw [Int.card_Ico]
    rfl
  calc existingCount db serviceId = (indices db serviceId).card := (card_indices hvalid).symm
    _ ≤ 2 ^ 32 := hcard ▸ Finset.card_le_card hsub
    _ < JsNumber.maxExact := by decide

/-- **The proposal is free if the count plus one is.** -/
theorem proposesFree_iff (hvalid : db.Valid) :
    ProposesFree serviceId db ↔ CountFree (indices db serviceId) := by
  have hn : ∀ d : NewMilestoneDialog,
      (d.handleOpen (existingCount db serviceId) true).submission.n =
        some ((existingCount db serviceId : ℤ) + 1) :=
    NewMilestoneDialog.n_submission_handleOpen (existingCount_lt hvalid)
  rw [CountFree, card_indices hvalid, notMem_indices]
  constructor
  · intro h
    obtain ⟨n, hsubmits, hfree, -⟩ := h (.mounted 0)
    rw [hn] at hsubmits
    rwa [← Option.some.inj hsubmits] at hfree
  · intro hfree d
    refine ⟨_, hn d, hfree, fun env body m hbody hrow ↦ ?_⟩
    refine Constrained.clash_eq_none.2 fun x hx _ hagrees ↦ ?_
    obtain ⟨hservice, hindex⟩ := Prod.ext_iff.1 hagrees
    refine hfree x hx (hservice.trans (MilestoneService.row_spec hrow).2.1) ?_
    rw [← hbody, ← n_of_row_milestone hrow]
    exact congrArg PgInt.val hindex

end Indices

/-! ### What an act does to the indices -/

section Acts

variable {p : Platform} {s : Settings} {env : Env} {db db' : Db} {user : Except Fault User}
  {r : Request} {resp : Response} {serviceId : UUID} {a : Act}

/-- Writes to other tables leave the indices alone. -/
theorem indices_congr (h : db'.milestones = db.milestones) :
    indices db' serviceId = indices db serviceId := by
  rw [indices, indices, ServiceService.milestonesOf, ServiceService.milestonesOf, h]

/-- A milestone is inserted. -/
theorem indices_insert (serviceId : UUID) {m : Milestone} (hnew : db.milestones.has m.id = false) :
    indices { db with milestones := db.milestones.insert m } serviceId =
      if m.serviceId = serviceId then insert m.n.val (indices db serviceId)
      else indices db serviceId := by
  ext n
  have hmem : n ∈ indices { db with milestones := db.milestones.insert m } serviceId ↔
      n ∈ indices db serviceId ∨ (m.serviceId = serviceId ∧ m.n.val = n) := by
    simp only [mem_indices, Table.mem_insert hnew, or_and_right, exists_or, exists_eq_left]
  rw [hmem]
  split
  · next h => rw [Finset.mem_insert, or_comm, and_iff_right h, eq_comm]
  · next h => exact or_iff_left fun hm ↦ h hm.1

/-- A milestone is deleted. -/
theorem indices_erase (serviceId : UUID) (hvalid : db.Valid) {m : Milestone}
    (hm : m ∈ db.milestones) :
    indices { db with milestones := db.milestones.erase m.id } serviceId =
      if m.serviceId = serviceId then (indices db serviceId).erase m.n.val
      else indices db serviceId := by
  ext n
  have hmem : n ∈ indices { db with milestones := db.milestones.erase m.id } serviceId ↔
      ∃ x ∈ db.milestones, x.id ≠ m.id ∧ x.serviceId = serviceId ∧ x.n.val = n := by
    simp only [mem_indices, Table.mem_erase, and_assoc]
    rfl
  rw [hmem]
  split
  · next h =>
    rw [Finset.mem_erase, mem_indices]
    constructor
    · rintro ⟨x, hx, hne, hservice, rfl⟩
      refine ⟨fun hn ↦ hne ?_, x, hx, hservice, rfl⟩
      rw [eq_of_index_eq hvalid hx hm (hservice.trans h.symm) hn]
    · rintro ⟨hne, x, hx, hservice, rfl⟩
      refine ⟨x, hx, fun hkey ↦ hne ?_, hservice, rfl⟩
      rw [Table.eq_of_key_eq hx hm hkey]
  · next h =>
    rw [mem_indices]
    constructor
    · rintro ⟨x, hx, -, hservice, rfl⟩
      exact ⟨x, hx, hservice, rfl⟩
    · rintro ⟨x, hx, hservice, rfl⟩
      refine ⟨x, hx, fun hkey ↦ h ?_, hservice, rfl⟩
      rw [← Table.eq_of_key_eq hx hm hkey, hservice]

/-- A milestone is changed, other than in its service and its index. -/
theorem indices_alter {k : UUID} {f : Assign Milestone}
    (hf : ∀ m, ((f.fn m).serviceId, (f.fn m).n) = (m.serviceId, m.n))
    (hdb : db'.milestones = db.milestones.alter k f) :
    indices db' serviceId = indices db serviceId := by
  have hsame : ∀ m : Milestone, ((if key m = k then f.fn m else m).serviceId,
      (if key m = k then f.fn m else m).n) = (m.serviceId, m.n) := by
    intro m
    split
    · exact hf m
    · rfl
  ext n
  rw [mem_indices, mem_indices, hdb]
  constructor
  · rintro ⟨x, hx, hservice, rfl⟩
    obtain ⟨m, hm, rfl⟩ := Table.mem_alter.1 hx
    obtain ⟨h₁, h₂⟩ := Prod.ext_iff.1 (hsame m)
    exact ⟨m, hm, h₁.symm.trans hservice, congrArg PgInt.val h₂.symm⟩
  · rintro ⟨m, hm, hservice, rfl⟩
    obtain ⟨h₁, h₂⟩ := Prod.ext_iff.1 (hsame m)
    exact ⟨_, Table.mem_alter.2 ⟨m, hm, rfl⟩, h₁.trans hservice, congrArg PgInt.val h₂⟩

/-- An edit changes neither the service nor the index. -/
theorem preserves_index (body : MilestoneUpdate) :
    Preserves (fun m : Milestone ↦ (m.serviceId, m.n)) (MilestoneService.changes body) := by
  simp only [MilestoneService.changes, Preserves.append, and_assoc]
  refine ⟨.patch ?_, .patch ?_, .patch ?_⟩ <;> exact fun _ _ _ ↦ rfl

/-- **What a step does to the indices of a service**: it adds one, takes one back, or leaves them
as they are. -/
theorem Step.renumbers (h : Step p s env db user r resp db') (serviceId : UUID)
    (hvalid : db.Valid) (hvalid' : db'.Valid) :
    (∃ body, r = .createMilestone serviceId body ∧ resp.isOk = true ∧
      body.n ∉ indices db serviceId ∧
      indices db' serviceId = insert body.n (indices db serviceId)) ∨
    (∃ n, r = .deleteMilestone serviceId n ∧ resp.isOk = true ∧ n ∈ indices db serviceId ∧
      indices db' serviceId = (indices db serviceId).erase n) ∨
    ((∀ body, r ≠ .createMilestone serviceId body) ∧ (∀ n, r ≠ .deleteMilestone serviceId n) ∧
      indices db' serviceId = indices db serviceId) := by
  cases h with
  | @createMilestone u k body m hrow hnew =>
    obtain ⟨-, rfl, -⟩ := MilestoneService.row_spec hrow
    have hindices := indices_insert serviceId hnew
    by_cases hk : m.serviceId = serviceId
    · subst hk
      rw [if_pos rfl, n_of_row_milestone hrow] at hindices
      refine Or.inl ⟨body, rfl, rfl, fun hmem ↦ ?_, hindices⟩
      obtain ⟨x, hx, hservice, hn⟩ := mem_indices.1 hmem
      refine Table.has_eq_false_iff.1 hnew x hx ?_
      rw [eq_of_index_eq hvalid' (Table.mem_insert_of_mem hx) (Table.mem_insert_self hnew) hservice
        (hn.trans (n_of_row_milestone hrow).symm)]
      rfl
    · rw [if_neg hk] at hindices
      refine Or.inr (Or.inr ⟨fun body' heq ↦ ?_, nofun, hindices⟩)
      cases heq
      exact hk rfl
  | updateMilestone hservice hn hm hlog =>
    exact Or.inr (Or.inr ⟨nofun, nofun,
      indices_alter (Session.saved_preserves (preserves_index _) fun _ _ ↦ rfl) rfl⟩)
  | @deleteMilestone u k n m hrole hm hservice hn =>
    subst hservice hn
    have hindices := indices_erase serviceId hvalid hm
    by_cases hk : m.serviceId = serviceId
    · subst hk
      rw [if_pos rfl] at hindices
      exact Or.inr (Or.inl ⟨_, rfl, rfl, mem_indices.2 ⟨m, hm, rfl, rfl⟩, hindices⟩)
    · rw [if_neg hk] at hindices
      refine Or.inr (Or.inr ⟨nofun, fun n heq ↦ ?_, hindices⟩)
      cases heq
      exact hk rfl
  | _ => exact Or.inr (Or.inr ⟨nofun, nofun, indices_congr rfl⟩)

/-- **What an act does to the indices of a service.** -/
theorem indices_perform (hvalid : db.Valid) (serviceId : UUID) (a : Act) :
    (∃ body, a.Asks p (.createMilestone serviceId body) ∧ a.succeeds p s db = true ∧
      body.n ∉ indices db serviceId ∧
      indices (a.perform p s db).2 serviceId = insert body.n (indices db serviceId)) ∨
    (∃ n, a.Asks p (.deleteMilestone serviceId n) ∧ a.succeeds p s db = true ∧
      n ∈ indices db serviceId ∧
      indices (a.perform p s db).2 serviceId = (indices db serviceId).erase n) ∨
    ((∀ body, a.Asks p (.createMilestone serviceId body) → a.succeeds p s db = false) ∧
      (∀ n, a.Asks p (.deleteMilestone serviceId n) → a.succeeds p s db = false) ∧
      indices (a.perform p s db).2 serviceId = indices db serviceId) := by
  have hvalid' : (a.perform p s db).2.Valid := (valid_perform hvalid a).2
  have h : Happens p s db a (a.perform p s db).1 (a.perform p s db).2 := happens db a
  rw [Act.succeeds]
  generalize (a.perform p s db).1 = answer at h ⊢
  generalize (a.perform p s db).2 = db' at h hvalid' ⊢
  cases h with
  | @idle env sub call resp hread =>
    -- What is read is neither of the two requests.
    have hfails : ∀ r, (Act.request env sub call).Asks p r → r.isRead = false →
        resp.isOk = false := by
      rintro r ⟨env', sub', r₀, ha, hv⟩ hr
      cases ha
      by_contra hok
      obtain ⟨r₁, heq, hread₁⟩ := hread (Bool.not_eq_false _ ▸ hok)
      cases heq
      rw [(sameKind_of_validate? hv).isRead, hread₁] at hr
      cases hr
    exact Or.inr (Or.inr ⟨fun _ hasks ↦ hfails _ hasks rfl, fun _ hasks ↦ hfails _ hasks rfl, rfl⟩)
  | @step env sub r r' resp db' hv hstep =>
    have hasks : (Act.request env sub (.bound r)).Asks p r' := Act.asks_bound hv env sub
    rcases hstep.renumbers serviceId hvalid hvalid' with
      ⟨body, rfl, hok, hindices⟩ | ⟨n, rfl, hok, hindices⟩ | ⟨hcreate, hdelete, hindices⟩
    · exact Or.inl ⟨body, hasks, hok, hindices⟩
    · exact Or.inr (Or.inl ⟨n, hasks, hok, hindices⟩)
    · exact Or.inr (Or.inr ⟨fun body h ↦ absurd (hasks.unique h) (hcreate body),
        fun n h ↦ absurd (hasks.unique h) (hdelete n), hindices⟩)
  | @account op db' hop =>
    obtain ⟨t, rfl⟩ := TableOp.exists_setTable hop
    exact Or.inr (Or.inr ⟨fun _ _ ↦ rfl, fun _ _ ↦ rfl, indices_congr rfl⟩)
  | refused => exact Or.inr (Or.inr ⟨fun _ _ ↦ rfl, fun _ _ ↦ rfl, rfl⟩)

/-- **The proposal stays free under the acts that leave it so**, and under no others. -/
theorem proposesFree_perform_iff (hvalid : db.Valid) (h : ProposesFree serviceId db) (a : Act) :
    ProposesFree serviceId (a.perform p s db).2 ↔ KeepsProposal p s serviceId db a := by
  have hcard : (indices db serviceId).card = existingCount db serviceId := card_indices hvalid
  rw [proposesFree_iff (valid_perform hvalid a).2]
  rcases indices_perform (p := p) (s := s) hvalid serviceId a with
    ⟨body, hasks, hok, hnew, hindices⟩ | ⟨n, hasks, hok, hmem, hindices⟩ |
      ⟨hcreate, hdelete, hindices⟩
  · rw [hindices, countFree_insert_iff hnew, hcard, notMem_indices]
    constructor
    · refine fun hfree ↦ ⟨fun body' hasks' _ ↦ ?_, fun n hasks' _ ↦ ?_⟩
      · cases hasks.unique hasks'
        exact hfree
      · cases hasks.unique hasks'
    · exact fun hkeeps ↦ hkeeps.create body hasks hok
  · rw [hindices, countFree_erase_iff hmem, hcard, notMem_indices]
    constructor
    · refine fun hfree ↦ ⟨fun body hasks' _ ↦ ?_, fun n' hasks' _ ↦ ?_⟩
      · cases hasks.unique hasks'
      · cases hasks.unique hasks'
        exact hfree
    · exact fun hkeeps ↦ hkeeps.delete n hasks hok
  · rw [hindices, ← proposesFree_iff hvalid]
    refine iff_of_true h ⟨fun body hasks hok ↦ ?_, fun n hasks hok ↦ ?_⟩
    · rw [hcreate body hasks] at hok
      cases hok
    · rw [hdelete n hasks] at hok
      cases hok

theorem proposesFree_empty (serviceId : UUID) : ProposesFree serviceId Db.empty := by
  rw [proposesFree_iff Db.valid_empty]
  exact countFree_empty

/-- **The proposal of the dialog**, in any run, at any service: it is free at every moment exactly
if every act of the run leaves it free. -/
theorem proposal_free_iff (p : Platform) (s : Settings) (serviceId : UUID) (acts : List Act) :
    EveryMoment (fun db a ↦ (a.perform p s db).2) (ProposesFree serviceId) Db.empty acts ↔
      EveryStep (fun db a ↦ (a.perform p s db).2) (KeepsProposal p s serviceId) Db.empty acts :=
  everyMoment_iff Db.valid_empty (fun _ a h ↦ (valid_perform h a).2) (proposesFree_empty serviceId)
    (fun _ a hvalid hfree ↦ proposesFree_perform_iff hvalid hfree a) acts

end Acts

/-- Two milestones are created with the index that the dialog proposes, and the first is deleted. -/
def deletedFirst : List Act :=
  let root : User := .sample 1 (.lit "root@example.com") .admin none
  let send (k : ℕ) (r : Request) : Act := .request (.sample k) (.ok "root@example.com") (.bound r)
  [.account (.insert root), send 10 (.createClient ⟨"Acme", none, none, none, none, none, "lead"⟩),
    send 20 (.createService 10 ⟨10, none, "development", "Website", none, none⟩),
    send 30 (.createMilestone 20 ⟨1, "Design", none⟩),
    send 40 (.createMilestone 20 ⟨2, "Launch", none⟩), send 50 (.deleteMilestone 20 1)]

/-- **The proposal can be taken**: one milestone is left, and its index is 2. -/
theorem proposal_taken :
    ¬EveryMoment (fun db a ↦ (a.perform .sample .sample db).2) (ProposesFree 20) Db.empty
      deletedFirst := by
  intro h
  have hvalid : (deletedFirst.foldl (fun db a ↦ (a.perform .sample .sample db).2)
      Db.empty).Valid :=
    foldl_invariant Db.valid_empty (fun _ a hdb ↦ (valid_perform hdb a).2) deletedFirst
  have hfree := (proposesFree_iff hvalid).1 h.last
  rw [CountFree, card_indices hvalid] at hfree
  exact hfree (by decide +kernel)

end ZanovixCrm
