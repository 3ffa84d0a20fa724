import ZanovixCrm.Database.Session
import ZanovixCrm.Library.GetOrCreate

/-!
# The session of a script

The seed scripts create rows unless they are there, so they can be run again. Their session does not
flush before a query: what a script has added is kept back until it flushes or commits, and
`existing` does not see it. A flush takes the rows table by table.

`createMissing` is a script for one table: `run_createMissing` says that it does nothing where every
row is present, and `ensures_createMissing` that this is so after it has run, if no two rows to be
created have the same key.

**Left out.** The log lines of the scripts, and their exit code: a script that raises leaves the
database as it was, since it commits once, at its end.
-/

namespace ZanovixCrm

/-- What a script takes from its surroundings. -/
structure ScriptEnv where
  /-- The time at which its transaction starts, and the identifiers that it draws. -/
  env : Env
  /-- The time at which the module was loaded. -/
  imported : Time
  /-- `date.today()`. -/
  today : Date
  /-- `os.environ`. -/
  environ : String → Option String
  /-- `bcrypt.hash`, with the salt of the given call; nothing if it raises. -/
  bcryptHash : ℕ → String → Option String

/-- Surroundings for examples: no variable is set, and a hash is the password. -/
def ScriptEnv.sample (first : ℕ) : ScriptEnv :=
  ⟨.sample first, 0, 0, fun _ ↦ none, fun _ password ↦ some password⟩

namespace Session

variable {ρ : Type} [Keyed ρ UUID]

/-- `scalar_one_or_none()` of the rows that satisfy a condition. -/
def existing [Relation ρ] (p : ρ → Bool) : Tx (Option ρ) := do
  let rows ← .query fun db ↦ (Relation.table db : Table ρ).rows.filter p
  scalarOneOrNone rows

/-- The rows of one table that a flush writes. -/
def addAll [Stored ρ] (rows : List (Except DbError ρ)) : Tx Unit :=
  rows.foldlM (fun _ row ↦ add row) ()

@[simp] theorem ensures_existing [Relation ρ] {p : ρ → Bool} {db : Db}
    {Q : Option ρ → Db → Prop} :
    (existing p).Ensures db Q ↔
      ((Relation.table db : Table ρ).rows.filter p = [] → Q none db) ∧
        ∀ r, (Relation.table db : Table ρ).rows.filter p = [r] → Q (some r) db := by
  simp only [existing, Prog.ensures_bind, Prog.ensures_query, ensures_scalarOneOrNone]

theorem run_existing [Relation ρ] {p : ρ → Bool} {db : Db} {r : ρ}
    (h : (Relation.table db : Table ρ).rows.filter p = [r]) :
    (existing p).run db = .ok (some r, db) := by
  rw [existing, Prog.run_bind_ok (Prog.run_query _ db), h]
  rfl

/-- **A flush appends the rows that were kept back**, all of them, or it fails. -/
theorem ensures_addAll [Stored ρ] (rows : List (Except DbError ρ)) (db : Db) :
    (addAll rows).Ensures db fun _ db' ↦ ∃ (new : List ρ) (t : Table ρ), rows = new.map .ok ∧
      t.rows = (Relation.table db : Table ρ).rows ++ new ∧ db' = Relation.setTable db t := by
  refine Prog.ensures_foldlM (I := fun done _ db' ↦ ∃ (new : List ρ) (t : Table ρ),
      done = new.map Except.ok ∧ t.rows = (Relation.table db : Table ρ).rows ++ new ∧
        db' = Relation.setTable db t)
    ⟨[], Relation.table db, rfl, (List.append_nil _).symm, (Relation.setTable_table db).symm⟩ ?_
  rintro done row _ _ - ⟨new, t, rfl, ht, rfl⟩
  rw [ensures_add]
  rintro r rfl hfresh -
  rw [Relation.table_setTable] at hfresh ⊢
  refine ⟨new ++ [r], t.insert r, ?_, ?_, Relation.setTable_setTable db t (t.insert r)⟩
  · rw [List.map_append, List.map_singleton]
  · rw [Table.rows_insert hfresh, ht, List.append_assoc]

end Session

/-! ### The books of a table -/

section Books

variable {ρ κ : Type} [DecidableEq κ] {k : ρ → κ} {rows rows' : List ρ}
  {pending : List (Except DbError ρ)} {keys : List κ} {a : κ}

/-- A table, what is kept back for it, and the keys that have been looked up in it. A row that is
kept back has its key only if it can be written. -/
def Books (k : ρ → κ) (rows : List ρ) (pending : List (Except DbError ρ)) (keys : List κ) : Prop :=
  ∃ pendingKeys, (∀ new : List ρ, pending = new.map Except.ok → new.map k = pendingKeys) ∧
    Ensured (rows.map k) pendingKeys keys

namespace Books

theorem start (k : ρ → κ) (rows : List ρ) : Books k rows [] [] := by
  refine ⟨[], fun new hnew ↦ ?_, .start _⟩
  rw [List.map_eq_nil_iff.1 hnew.symm, List.map_nil]

/-- The lookup has found a row. -/
theorem found (h : Books k rows pending keys) (ha : a ∉ keys) {r : ρ}
    (hr : rows.filter (fun r ↦ decide (k r = a)) = [r]) : Books k rows pending (keys ++ [a]) := by
  obtain ⟨pendingKeys, hpending, hens⟩ := h
  exact ⟨pendingKeys, hpending, hens.found ha (count_eq_one_of_filter hr)⟩

/-- It has found nothing, and a row is added. -/
theorem created (h : Books k rows pending keys) (ha : a ∉ keys)
    (hnone : rows.filter (fun r ↦ decide (k r = a)) = []) {row : Except DbError ρ}
    (hrow : ∀ r, row = .ok r → k r = a) : Books k rows (pending ++ [row]) (keys ++ [a]) := by
  obtain ⟨pendingKeys, hpending, hens⟩ := h
  refine ⟨pendingKeys ++ [a], fun new hnew ↦ ?_, hens.created ha (count_eq_zero_of_filter hnone)⟩
  obtain ⟨new₁, new₂, rfl, h₁, h₂⟩ := List.append_eq_map_iff.1 hnew
  obtain ⟨r, rfl, hr⟩ := List.map_eq_singleton_iff.1 h₂
  rw [List.map_append, hpending new₁ h₁.symm, List.map_singleton, hrow r hr.symm]

/-- What was kept back has been written. -/
theorem flush (h : Books k rows pending keys)
    (hw : ∃ new : List ρ, pending = new.map Except.ok ∧ rows' = rows ++ new) :
    Books k rows' [] keys := by
  obtain ⟨pendingKeys, hpending, hens⟩ := h
  obtain ⟨new, hnew, rfl⟩ := hw
  refine ⟨[], fun none hnone ↦ ?_, ?_⟩
  · rw [List.map_eq_nil_iff.1 hnone.symm, List.map_nil]
  · rw [List.map_append, hpending new hnew]
    exact hens.flush

/-- The row that was kept back last has been written too. -/
theorem mem_of_flush {r : ρ}
    (hw : ∃ new : List ρ, pending ++ [.ok r] = new.map Except.ok ∧ rows' = rows ++ new) :
    r ∈ rows' := by
  obtain ⟨new, hnew, rfl⟩ := hw
  obtain ⟨-, last, rfl, -, hlast⟩ := List.append_eq_map_iff.1 hnew
  obtain ⟨r', rfl, hr'⟩ := List.map_eq_singleton_iff.1 hlast
  rw [Except.ok.inj hr', List.mem_append, List.mem_append]
  exact Or.inr (Or.inr (List.mem_singleton_self r))

/-- Then each key that has been looked up has a row. -/
theorem exists_filter (h : Books k rows [] keys) (ha : a ∈ keys) :
    ∃ r ∈ rows, k r = a ∧ rows.filter (fun r ↦ decide (k r = a)) = [r] := by
  obtain ⟨pendingKeys, hpending, hens⟩ := h
  rw [← hpending [] rfl] at hens
  exact exists_filter_of_count (hens.count_flushed ha)

/-- It is the only one. -/
theorem filter_eq (h : Books k rows [] keys) (ha : a ∈ keys) {r : ρ} (hr : r ∈ rows)
    (hk : k r = a) : rows.filter (fun r ↦ decide (k r = a)) = [r] := by
  obtain ⟨r', -, -, hfilter⟩ := h.exists_filter ha
  have hmem : r ∈ rows.filter fun r ↦ decide (k r = a) :=
    List.mem_filter.2 ⟨hr, decide_eq_true hk⟩
  rw [hfilter, List.mem_singleton] at hmem
  rw [hfilter, hmem]

end Books

end Books

/-! ### A script for one table -/

/-- How far a script has come. -/
structure Progress (ρ : Type) where
  created : ℕ
  skipped : ℕ
  /-- What the session keeps back. -/
  pending : List (Except DbError ρ)

section CreateMissing

variable {ρ κ S : Type} [Keyed ρ UUID] [DecidableEq κ]

/-- Skip a row that is there, else make it and add it. -/
def Progress.getOrAdd [Relation ρ] (k : ρ → κ) (a : κ) (make : Tx (Except DbError ρ))
    (st : Progress ρ) : Tx (Progress ρ) := do
  match ← Session.existing fun r : ρ ↦ decide (k r = a) with
  | some _ => return { st with skipped := st.skipped + 1 }
  | none =>
    let row ← make
    return { st with created := st.created + 1, pending := st.pending ++ [row] }

/-- One row after another, and the commit; `make` is told how many rows have been created before.
The result is what the script prints: the numbers of rows created and skipped. -/
def createMissing [Stored ρ] (k : ρ → κ) (key : S → κ) (make : ℕ → S → Tx (Except DbError ρ))
    (specs : List S) : Tx (ℕ × ℕ) := do
  let st ← specs.foldlM
    (fun (st : Progress ρ) spec ↦ st.getOrAdd k (key spec) (make st.created spec)) ⟨0, 0, []⟩
  Session.addAll st.pending
  return (st.created, st.skipped)

/-- There is one row with the key of each specification. -/
def Present [Relation ρ] (k : ρ → κ) (key : S → κ) (specs : List S) (db : Db) : Prop :=
  ∀ spec ∈ specs, ∃ r : ρ,
    (Relation.table db : Table ρ).rows.filter (fun r ↦ decide (k r = key spec)) = [r]

/-- **Where every row is present, nothing is created.** -/
theorem run_createMissing [Stored ρ] {k : ρ → κ} {key : S → κ}
    {make : ℕ → S → Tx (Except DbError ρ)} {specs : List S} {db : Db}
    (h : Present k key specs db) :
    (createMissing k key make specs).run db = .ok ((0, specs.length), db) := by
  obtain ⟨st, hrun, hst⟩ := Prog.run_foldlM_of_idle (l := specs) (s := db) (b := ⟨0, 0, []⟩)
    (f := fun (st : Progress ρ) spec ↦ st.getOrAdd k (key spec) (make st.created spec))
    (J := fun done st ↦ st = ⟨0, done.length, []⟩) rfl (by
      rintro done spec _ ⟨rest, rfl⟩ rfl
      obtain ⟨r, hr⟩ := h spec (by simp)
      refine ⟨⟨0, (done ++ [spec]).length, []⟩, ?_, rfl⟩
      rw [Progress.getOrAdd, Prog.run_bind_ok (Session.run_existing hr), List.length_append]
      rfl)
  rw [createMissing, Prog.run_bind_ok hrun, hst]
  rfl

/-- **After a run every row is present**, and those that were there before are. What has been added
has been asked for. -/
theorem ensures_createMissing [Stored ρ] {k : ρ → κ} {key : S → κ}
    {make : ℕ → S → Tx (Except DbError ρ)} {specs : List S}
    (hkeys : (specs.map key).Nodup)
    (hmake : ∀ i spec db, (make i spec).Ensures db fun row db' ↦
      db' = db ∧ ∀ r, row = .ok r → k r = key spec) (db : Db) :
    (createMissing k key make specs).Ensures db fun _ db' ↦ Present k key specs db' ∧
      ∃ (new : List ρ) (t : Table ρ), t.rows = (Relation.table db : Table ρ).rows ++ new ∧
        db' = Relation.setTable db t ∧ ∀ r ∈ new, k r ∈ specs.map key := by
  rw [createMissing, Prog.ensures_bind]
  refine (Prog.ensures_foldlM (I := fun done st db' ↦ db' = db ∧
      Books k (Relation.table db : Table ρ).rows st.pending (done.map key) ∧
      ∀ row ∈ st.pending, ∀ r, row = .ok r → k r ∈ specs.map key)
    ⟨rfl, .start k _, fun _ h ↦ absurd h List.not_mem_nil⟩ ?_).mono ?_
  · rintro done spec st _ ⟨rest, hrest⟩ ⟨rfl, hbooks, hasked⟩
    have hfresh : key spec ∉ done.map key := by
      rw [← hrest, List.map_append, List.map_append] at hkeys
      have hdisjoint := List.disjoint_of_nodup_append (List.nodup_append.1 hkeys).1
      exact fun hmem ↦ hdisjoint hmem (by simp)
    rw [Progress.getOrAdd, Prog.ensures_bind, Session.ensures_existing, List.map_append]
    constructor
    · intro hnone
      rw [Prog.ensures_bind]
      refine (hmake _ _ _).mono ?_
      rintro row _ ⟨rfl, hrow⟩
      refine Session.ensures_pure.2
        ⟨rfl, hbooks.created hfresh hnone hrow, fun row' hrow' r hr ↦ ?_⟩
      rcases List.mem_append.1 hrow' with hrow' | hrow'
      · exact hasked row' hrow' r hr
      · rw [hrow r (List.mem_singleton.1 hrow' ▸ hr), ← hrest]
        exact List.mem_map_of_mem (by simp)
    · exact fun r hr ↦ Session.ensures_pure.2 ⟨rfl, hbooks.found hfresh hr, hasked⟩
  · rintro st _ ⟨rfl, hbooks, hasked⟩
    rw [Prog.ensures_bind]
    refine (Session.ensures_addAll st.pending _).mono ?_
    rintro - _ ⟨new, t, hnew, ht, rfl⟩
    refine Session.ensures_pure.2 ⟨fun spec hspec ↦ ?_, new, t, ht, rfl, fun r hr ↦ ?_⟩
    rotate_left
    · exact hasked (.ok r) (hnew ▸ List.mem_map_of_mem hr) r rfl
    obtain ⟨r, -, -, hr⟩ :=
      (hbooks.flush ⟨new, hnew, ht⟩).exists_filter (List.mem_map_of_mem hspec)
    rw [Relation.table_setTable]
    exact ⟨r, hr⟩

end CreateMissing

end ZanovixCrm
