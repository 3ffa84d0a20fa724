import ZanovixCrm.Database.Schema

/-!
# Integrity

A database state is `Valid` if its rows satisfy the constraints of the schema taken together: in
each table no two rows agree on the columns of a unique constraint, and every reference is to an
existing row. The writes check this one row at a time; that the whole stays valid is the theorem of
this module (`Write.valid`), and with it every state that a run of transactions reaches from a
valid one is valid.

References lead only to users, clients and services, and those are never deleted. So the rows that
exist only grow (`Grows`), which is all that a reference needs in order to survive the writes of
others.
-/

namespace ZanovixCrm

/-- Every user, client and service of `db` exists in `db'`. -/
structure Grows (db db' : Db) : Prop where
  users : ∀ k, db.users.has k = true → db'.users.has k = true
  clients : ∀ k, db.clients.has k = true → db'.clients.has k = true
  services : ∀ k, db.services.has k = true → db'.services.has k = true

namespace Grows

theorem refl (db : Db) : Grows db db := ⟨fun _ ↦ id, fun _ ↦ id, fun _ ↦ id⟩

theorem trans {db db' db'' : Db} (h : Grows db db') (h' : Grows db' db'') : Grows db db'' :=
  ⟨fun k hk ↦ h'.users k (h.users k hk), fun k hk ↦ h'.clients k (h.clients k hk),
    fun k hk ↦ h'.services k (h.services k hk)⟩

end Grows

theorem refersTo_mono {ρ : Type} [Keyed ρ UUID] {t t' : Table ρ}
    (h : ∀ k, t.has k = true → t'.has k = true) {k : Option UUID} (hk : refersTo t k = true) :
    refersTo t' k = true := by
  rcases k with - | k
  · rfl
  · exact h k hk

theorem clashes_eq_false_iff {ρ β : Type} [Keyed ρ UUID] [DecidableEq β] {t : Table ρ} {f : ρ → β}
    {r : ρ} : clashes t f r = false ↔ ∀ x ∈ t, key x ≠ key r → ¬f x = f r := by
  simp only [clashes, List.any_eq_false, decide_eq_true_eq, not_and, Table.mem_rows]

/-- The constraints of a table as relations, and that the checks of single rows decide them. -/
class Constrained (ρ : Type) [Keyed ρ UUID] [Relation ρ] where
  /-- The rows agree on the columns of a unique constraint. -/
  agrees : ρ → ρ → Prop
  symm : ∀ {a b : ρ}, agrees a b → agrees b a
  clash_eq_none : ∀ {db : Db} {r : ρ}, Relation.clash db r = none ↔
    ∀ x ∈ (Relation.table db : Table ρ), key x ≠ key r → ¬agrees x r
  refers_mono : ∀ {db db' : Db} {r : ρ}, Grows db db' → Relation.refers db r = true →
    Relation.refers db' r = true
  agrees_congr : ∀ {a b : ρ}, Relation.sameKeys a b = true → ∀ x, agrees x a ↔ agrees x b
  refers_congr : ∀ {a b : ρ}, Relation.sameKeys a b = true → ∀ db,
    Relation.refers db a = Relation.refers db b

export Constrained (agrees)

instance : Constrained User where
  agrees a b := a.email = b.email
  symm := Eq.symm
  clash_eq_none {db r} := by
    rw [← clashes_eq_false_iff (f := User.email)]
    simp [Relation.clash, Relation.table]
  refers_mono h hr := refersTo_mono h.clients hr
  agrees_congr h x := by rw [(of_decide_eq_true h).1]
  refers_congr h db := by simp only [Relation.refers, (of_decide_eq_true h).2]

instance : Constrained Lead where
  agrees _ _ := False
  symm := id
  clash_eq_none := by simp [Relation.clash]
  refers_mono h hr := by
    simp only [Relation.refers, Bool.and_eq_true] at hr ⊢
    exact ⟨refersTo_mono h.users hr.1, refersTo_mono h.clients hr.2⟩
  agrees_congr _ _ := Iff.rfl
  refers_congr h db := by
    simp only [Relation.refers, (of_decide_eq_true h).1, (of_decide_eq_true h).2]

instance : Constrained Client where
  agrees _ _ := False
  symm := id
  clash_eq_none := by simp [Relation.clash]
  refers_mono h hr := refersTo_mono h.users hr
  agrees_congr _ _ := Iff.rfl
  refers_congr h db := by simp only [Relation.refers, of_decide_eq_true h]

instance : Constrained Contact where
  agrees _ _ := False
  symm := id
  clash_eq_none := by simp [Relation.clash]
  refers_mono h hr := h.clients _ hr
  agrees_congr _ _ := Iff.rfl
  refers_congr h db := by simp only [Relation.refers, of_decide_eq_true h]

instance : Constrained Service where
  agrees _ _ := False
  symm := id
  clash_eq_none := by simp [Relation.clash]
  refers_mono h hr := by
    simp only [Relation.refers, Bool.and_eq_true] at hr ⊢
    exact ⟨h.clients _ hr.1, refersTo_mono h.users hr.2⟩
  agrees_congr _ _ := Iff.rfl
  refers_congr h db := by
    simp only [Relation.refers, (of_decide_eq_true h).1, (of_decide_eq_true h).2]

instance : Constrained Milestone where
  agrees a b := (a.serviceId, a.n) = (b.serviceId, b.n)
  symm := Eq.symm
  clash_eq_none {db r} := by
    rw [← clashes_eq_false_iff (f := fun m : Milestone ↦ (m.serviceId, m.n))]
    simp [Relation.clash, Relation.table]
  refers_mono h hr := h.services _ hr
  agrees_congr h x := by rw [(of_decide_eq_true h).1, (of_decide_eq_true h).2]
  refers_congr h db := by simp only [Relation.refers, (of_decide_eq_true h).1]

instance : Constrained BillingProfile where
  agrees a b := (a.clientId, a.taxId) = (b.clientId, b.taxId)
  symm := Eq.symm
  clash_eq_none {db r} := by
    rw [← clashes_eq_false_iff (f := fun b : BillingProfile ↦ (b.clientId, b.taxId))]
    simp [Relation.clash, Relation.table]
  refers_mono h hr := h.clients _ hr
  agrees_congr h x := by rw [(of_decide_eq_true h).1, (of_decide_eq_true h).2]
  refers_congr h db := by simp only [Relation.refers, (of_decide_eq_true h).1]

instance : Constrained Ticket where
  agrees _ _ := False
  symm := id
  clash_eq_none := by simp [Relation.clash]
  refers_mono h hr := by
    simp only [Relation.refers, Bool.and_eq_true] at hr ⊢
    exact ⟨⟨⟨h.clients _ hr.1.1.1, refersTo_mono h.services hr.1.1.2⟩,
      refersTo_mono h.users hr.1.2⟩, refersTo_mono h.users hr.2⟩
  agrees_congr _ _ := Iff.rfl
  refers_congr h db := by
    obtain ⟨h₁, h₂, h₃, h₄⟩ := of_decide_eq_true h
    simp only [Relation.refers, h₁, h₂, h₃, h₄]

instance : Constrained Message where
  agrees _ _ := False
  symm := id
  clash_eq_none := by simp [Relation.clash]
  refers_mono h hr := by
    simp only [Relation.refers, Bool.and_eq_true] at hr ⊢
    exact ⟨h.clients _ hr.1, refersTo_mono h.users hr.2⟩
  agrees_congr _ _ := Iff.rfl
  refers_congr h db := by
    simp only [Relation.refers, (of_decide_eq_true h).1, (of_decide_eq_true h).2]

instance : Constrained ActivityLog where
  agrees _ _ := False
  symm := id
  clash_eq_none := by simp [Relation.clash]
  refers_mono h hr := by
    simp only [Relation.refers, Bool.and_eq_true] at hr ⊢
    exact ⟨h.clients _ hr.1, refersTo_mono h.users hr.2⟩
  agrees_congr _ _ := Iff.rfl
  refers_congr h db := by
    simp only [Relation.refers, (of_decide_eq_true h).1, (of_decide_eq_true h).2]

/-! ### Tables that fit -/

section Fits

variable {ρ : Type} [Keyed ρ UUID] [Relation ρ] [Constrained ρ]

/-- The table satisfies its constraints in the database `db`. -/
structure Fits (db : Db) (t : Table ρ) : Prop where
  /-- No two rows agree on the columns of a unique constraint. -/
  unique : ∀ a ∈ t, ∀ b ∈ t, agrees a b → key a = key b
  /-- Every reference is to an existing row. -/
  refers : ∀ r ∈ t, Relation.refers db r = true

theorem Fits.mono {db db' : Db} {t : Table ρ} (h : Fits db t) (hg : Grows db db') : Fits db' t :=
  ⟨h.unique, fun r hr ↦ Constrained.refers_mono hg (h.refers r hr)⟩

theorem checkRow_eq_ok_iff {db : Db} {r : ρ} :
    checkRow db r = .ok () ↔
      (∀ x ∈ (Relation.table db : Table ρ), key x ≠ key r → ¬agrees x r) ∧
        Relation.refers db r = true := by
  rw [checkRow, ← Constrained.clash_eq_none]
  rcases Relation.clash db r with - | name
  · simp
  · simp

/-- What a checked change guarantees of the new row. -/
theorem of_checkChange {db : Db} (h : Fits db (Relation.table db : Table ρ)) {r r' : ρ}
    (hr : r ∈ (Relation.table db : Table ρ)) (hkey : key r' = key r)
    (hc : checkChange db r r' = .ok ()) :
    (∀ x ∈ (Relation.table db : Table ρ), key x ≠ key r → ¬agrees x r') ∧
      Relation.refers db r' = true := by
  rw [checkChange] at hc
  split at hc
  · next hsame =>
    refine ⟨fun x hx hne hag ↦ hne ?_, ?_⟩
    · exact h.unique x hx r hr ((Constrained.agrees_congr hsame x).2 hag)
    · rw [← Constrained.refers_congr hsame]
      exact h.refers r hr
  · rw [← hkey]
    exact checkRow_eq_ok_iff.1 hc

theorem Fits.insert {db : Db} (h : Fits db (Relation.table db : Table ρ)) {r : ρ}
    (hk : (Relation.table db : Table ρ).has (key r) = false) (hc : checkRow db r = .ok ()) :
    Fits db ((Relation.table db : Table ρ).insert r) := by
  obtain ⟨hclash, hrefers⟩ := checkRow_eq_ok_iff.1 hc
  have hne : ∀ x ∈ (Relation.table db : Table ρ), key x ≠ key r := Table.has_eq_false_iff.1 hk
  refine ⟨fun a ha b hb hab ↦ ?_, fun x hx ↦ ?_⟩
  · rcases (Table.mem_insert hk).1 ha with ha' | rfl <;>
      rcases (Table.mem_insert hk).1 hb with hb' | rfl
    · exact h.unique a ha' b hb' hab
    · exact absurd hab (hclash a ha' (hne a ha'))
    · exact absurd (Constrained.symm hab) (hclash b hb' (hne b hb'))
    · rfl
  · rcases (Table.mem_insert hk).1 hx with hx | rfl
    · exact h.refers x hx
    · exact hrefers

theorem Fits.alter {db : Db} (h : Fits db (Relation.table db : Table ρ)) {k : UUID} {r : ρ}
    {a : Assign ρ} (hf : (Relation.table db : Table ρ).find? k = some r)
    (hc : checkChange db r (a.fn r) = .ok ()) :
    Fits db ((Relation.table db : Table ρ).alter k a) := by
  obtain ⟨hr, rfl⟩ := Table.find?_eq_some_iff.1 hf
  obtain ⟨hclash, hrefers⟩ := of_checkChange h hr (a.key_fn r) hc
  -- A row of the altered table is the altered row or a row with another key.
  have hmem : ∀ x ∈ (Relation.table db : Table ρ).alter (key r) a,
      x = a.fn r ∨ x ∈ (Relation.table db : Table ρ) ∧ key x ≠ key r := by
    intro x hx
    obtain ⟨y, hy, rfl⟩ := Table.mem_alter.1 hx
    by_cases hk : key y = key r
    · rw [if_pos hk, Table.eq_of_key_eq hy hr hk]
      exact Or.inl rfl
    · rw [if_neg hk]
      exact Or.inr ⟨hy, hk⟩
  refine ⟨fun x hx y hy hxy ↦ ?_, fun x hx ↦ ?_⟩
  · rcases hmem x hx with rfl | ⟨hx, hxk⟩ <;> rcases hmem y hy with rfl | ⟨hy, hyk⟩
    · rfl
    · exact absurd (Constrained.symm hxy) (hclash y hy hyk)
    · exact absurd hxy (hclash x hx hxk)
    · exact h.unique x hx y hy hxy
  · rcases hmem x hx with rfl | ⟨hx, -⟩
    · exact hrefers
    · exact h.refers x hx

/-- **A write that is accepted leaves its table fit**, and takes no key away. -/
theorem TableOp.fits {db db' : Db} (h : Fits db (Relation.table db : Table ρ)) {op : TableOp ρ}
    (hp : op.perform db = .ok db') :
    ∃ t : Table ρ, db' = Relation.setTable db t ∧ Fits db t ∧
      ∀ k, (Relation.table db : Table ρ).has k = true → t.has k = true := by
  have hunchanged : ∃ t : Table ρ, db = Relation.setTable db t ∧ Fits db t ∧
      ∀ k, (Relation.table db : Table ρ).has k = true → t.has k = true :=
    ⟨Relation.table db, (Relation.setTable_table db).symm, h, fun _ ↦ id⟩
  have halter : ∀ k (r : ρ) (a : Assign ρ), (Relation.table db : Table ρ).find? k = some r →
      (checkChange db r (a.fn r)).map (fun _ ↦
        Relation.setTable db ((Relation.table db : Table ρ).alter k a)) = .ok db' →
      ∃ t : Table ρ, db' = Relation.setTable db t ∧ Fits db t ∧
        ∀ k, (Relation.table db : Table ρ).has k = true → t.has k = true := by
    intro k r a hf hok
    rcases hc : checkChange db r (a.fn r) with e | u
    · rw [hc] at hok
      cases hok
    · rw [hc] at hok
      cases hok
      exact ⟨_, rfl, Fits.alter h hf hc, fun k' hk' ↦ Table.has_alter.trans hk'⟩
  cases op with
  | insert r =>
    obtain ⟨hk, hc, rfl⟩ := TableOp.perform_insert.1 hp
    refine ⟨_, rfl, Fits.insert h hk hc, fun k hk' ↦ ?_⟩
    obtain ⟨x, hx, rfl⟩ := Table.has_iff.1 hk'
    exact Table.has_iff.2 ⟨x, Table.mem_insert_of_mem hx, rfl⟩
  | update k a =>
    rw [TableOp.perform] at hp
    rcases hf : (Relation.table db : Table ρ).find? k with - | r
    · simp [hf] at hp
    · simp only [hf] at hp
      exact halter k r a hf hp
  | updateIf k q a =>
    rw [TableOp.perform] at hp
    rcases hf : (Relation.table db : Table ρ).find? k with - | r
    · simp only [hf] at hp
      cases hp
      exact hunchanged
    · simp only [hf] at hp
      split at hp
      · exact halter k r a hf hp
      · cases hp
        exact hunchanged

theorem Fits.erase {db : Db} {t : Table ρ} (h : Fits db t) (k : UUID) : Fits db (t.erase k) :=
  ⟨fun a ha b hb ↦ h.unique a (Table.mem_erase.1 ha).1 b (Table.mem_erase.1 hb).1,
    fun r hr ↦ h.refers r (Table.mem_erase.1 hr).1⟩

theorem fits_empty (db : Db) : Fits db (.empty : Table ρ) :=
  ⟨fun _ ha ↦ absurd ha Table.not_mem_empty, fun _ hr ↦ absurd hr Table.not_mem_empty⟩

end Fits

/-! ### Valid databases -/

/-- The tables of `tables` satisfy their constraints, with references into `db`. -/
structure ValidIn (db tables : Db) : Prop where
  users : Fits db tables.users
  leads : Fits db tables.leads
  clients : Fits db tables.clients
  contacts : Fits db tables.contacts
  services : Fits db tables.services
  milestones : Fits db tables.milestones
  billingProfiles : Fits db tables.billingProfiles
  tickets : Fits db tables.tickets
  messages : Fits db tables.messages
  activityLog : Fits db tables.activityLog

theorem ValidIn.mono {db db' tables : Db} (h : ValidIn db tables) (hg : Grows db db') :
    ValidIn db' tables :=
  ⟨h.users.mono hg, h.leads.mono hg, h.clients.mono hg, h.contacts.mono hg, h.services.mono hg,
    h.milestones.mono hg, h.billingProfiles.mono hg, h.tickets.mono hg, h.messages.mono hg,
    h.activityLog.mono hg⟩

/-- **A database state**: all constraints of the schema hold. -/
def Db.Valid (db : Db) : Prop := ValidIn db db

theorem Db.valid_empty : Db.empty.Valid :=
  ⟨fits_empty _, fits_empty _, fits_empty _, fits_empty _, fits_empty _, fits_empty _, fits_empty _,
    fits_empty _, fits_empty _, fits_empty _⟩

/-- Store a row. One whose key is taken is not stored. -/
def Db.put {ρ : Type} [Keyed ρ UUID] [Relation ρ] (db : Db) (r : ρ) : Db :=
  Relation.setTable db ((Relation.table db : Table ρ).insert r)

/-- **The constraints are an invariant of every write**, and no write takes away a row that others
may refer to. -/
theorem Write.valid {db db' : Db} (h : db.Valid) {w : Write} (hw : w.perform db = .ok db') :
    Grows db db' ∧ db'.Valid := by
  have hrefl := Grows.refl db
  cases w with
  | users op =>
    obtain ⟨t, rfl, ht, hhas⟩ := TableOp.fits h.users hw
    have hg : Grows db { db with users := t } := ⟨hhas, fun _ ↦ id, fun _ ↦ id⟩
    exact ⟨hg, { h.mono hg with users := ht.mono hg }⟩
  | leads op =>
    obtain ⟨t, rfl, ht, -⟩ := TableOp.fits h.leads hw
    have hg : Grows db { db with leads := t } := ⟨fun _ ↦ id, fun _ ↦ id, fun _ ↦ id⟩
    exact ⟨hg, { h.mono hg with leads := ht.mono hg }⟩
  | clients op =>
    obtain ⟨t, rfl, ht, hhas⟩ := TableOp.fits h.clients hw
    have hg : Grows db { db with clients := t } := ⟨fun _ ↦ id, hhas, fun _ ↦ id⟩
    exact ⟨hg, { h.mono hg with clients := ht.mono hg }⟩
  | contacts op =>
    obtain ⟨t, rfl, ht, -⟩ := TableOp.fits h.contacts hw
    have hg : Grows db { db with contacts := t } := ⟨fun _ ↦ id, fun _ ↦ id, fun _ ↦ id⟩
    exact ⟨hg, { h.mono hg with contacts := ht.mono hg }⟩
  | services op =>
    obtain ⟨t, rfl, ht, hhas⟩ := TableOp.fits h.services hw
    have hg : Grows db { db with services := t } := ⟨fun _ ↦ id, fun _ ↦ id, hhas⟩
    exact ⟨hg, { h.mono hg with services := ht.mono hg }⟩
  | milestones op =>
    obtain ⟨t, rfl, ht, -⟩ := TableOp.fits h.milestones hw
    have hg : Grows db { db with milestones := t } := ⟨fun _ ↦ id, fun _ ↦ id, fun _ ↦ id⟩
    exact ⟨hg, { h.mono hg with milestones := ht.mono hg }⟩
  | billingProfiles op =>
    obtain ⟨t, rfl, ht, -⟩ := TableOp.fits h.billingProfiles hw
    have hg : Grows db { db with billingProfiles := t } := ⟨fun _ ↦ id, fun _ ↦ id, fun _ ↦ id⟩
    exact ⟨hg, { h.mono hg with billingProfiles := ht.mono hg }⟩
  | tickets op =>
    obtain ⟨t, rfl, ht, -⟩ := TableOp.fits h.tickets hw
    have hg : Grows db { db with tickets := t } := ⟨fun _ ↦ id, fun _ ↦ id, fun _ ↦ id⟩
    exact ⟨hg, { h.mono hg with tickets := ht.mono hg }⟩
  | messages op =>
    obtain ⟨t, rfl, ht, -⟩ := TableOp.fits h.messages hw
    have hg : Grows db { db with messages := t } := ⟨fun _ ↦ id, fun _ ↦ id, fun _ ↦ id⟩
    exact ⟨hg, { h.mono hg with messages := ht.mono hg }⟩
  | activityLog op =>
    obtain ⟨t, rfl, ht, -⟩ := TableOp.fits h.activityLog hw
    have hg : Grows db { db with activityLog := t } := ⟨fun _ ↦ id, fun _ ↦ id, fun _ ↦ id⟩
    exact ⟨hg, { h.mono hg with activityLog := ht.mono hg }⟩
  | delete t k =>
    cases hw
    have hg : Grows db (t.erase db k) := by cases t <;> exact ⟨fun _ ↦ id, fun _ ↦ id, fun _ ↦ id⟩
    refine ⟨hg, ?_⟩
    cases t with
    | contacts => exact { h.mono hg with contacts := (h.contacts.erase k).mono hg }
    | milestones => exact { h.mono hg with milestones := (h.milestones.erase k).mono hg }
    | billingProfiles =>
      exact { h.mono hg with billingProfiles := (h.billingProfiles.erase k).mono hg }

/-- A row that passes its checks can be stored. -/
theorem Db.Valid.put {ρ : Type} [Keyed ρ UUID] [Stored ρ] {db : Db} (h : db.Valid) {r : ρ}
    (hcheck : (Relation.table db : Table ρ).has (key r) = false → checkRow db r = .ok ()) :
    (db.put r).Valid := by
  by_cases hnew : (Relation.table db : Table ρ).has (key r) = false
  · have hw := apply_eq_ok_iff.1 (apply_insert.2 ⟨hnew, hcheck hnew, rfl⟩)
    exact (Write.valid h hw).2
  · rwa [Db.put, Table.insert, dif_neg hnew, Relation.setTable_table]

/-- Every transaction keeps the database valid. -/
theorem Prog.valid_transact {α : Type} (m : Prog Db Write Fault α) {db : Db} (h : db.Valid) :
    Grows db (m.transact db).2 ∧ (m.transact db).2.Valid := by
  have hemits : m.Emits fun _ ↦ True := Prog.Emits.of_forall (fun _ ↦ trivial) m
  refine Prog.transact_induction (I := fun db' ↦ Grows db db' ∧ db'.Valid) ⟨Grows.refl db, h⟩ ?_
  refine hemits.invariant (R := fun db' ↦ Grows db db' ∧ db'.Valid) ?_ ⟨Grows.refl db, h⟩
  rintro w s s' - ⟨hg, hs⟩ hw
  obtain ⟨hg', hs'⟩ := Write.valid hs (apply_eq_ok_iff.1 hw)
  exact ⟨hg.trans hg', hs'⟩

end ZanovixCrm
