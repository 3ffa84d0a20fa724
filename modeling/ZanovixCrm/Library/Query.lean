import Mathlib.Data.List.Sort
import Mathlib.Data.Prod.Lex
import Mathlib.Data.String.Basic
import Mathlib.Order.Lex
import ZanovixCrm.Library.Table

/-!
# Ordered and paginated queries

`ORDER BY` followed by `LIMIT` and `OFFSET`, over a list of rows. The sort key is supplied as a
function into a linear order, and a query that wants a deterministic answer puts the row's own key
in the last position: `byDesc` and `byAsc` do so, and then the order of the answer depends on which
rows match and not on where they are stored (`sortOn_congr`). That is the only fact about sorting
that two-run statements need.
-/

namespace ZanovixCrm

section Sorting

variable {ρ α : Type} [LinearOrder α]

/-- `ORDER BY f`. -/
def sortOn (f : ρ → α) (rows : List ρ) : List ρ :=
  rows.insertionSort fun a b ↦ f a ≤ f b

theorem sortOn_perm (f : ρ → α) (rows : List ρ) : (sortOn f rows).Perm rows :=
  List.perm_insertionSort _ rows

@[simp] theorem mem_sortOn {f : ρ → α} {rows : List ρ} {r : ρ} : r ∈ sortOn f rows ↔ r ∈ rows :=
  List.mem_insertionSort _

@[simp] theorem length_sortOn (f : ρ → α) (rows : List ρ) :
    (sortOn f rows).length = rows.length :=
  List.length_insertionSort _ rows

theorem pairwise_sortOn (f : ρ → α) (rows : List ρ) :
    (sortOn f rows).Pairwise fun a b ↦ f a ≤ f b :=
  haveI : Std.Total fun a b : ρ ↦ f a ≤ f b := ⟨fun a b ↦ le_total (f a) (f b)⟩
  haveI : IsTrans ρ fun a b ↦ f a ≤ f b := ⟨fun _ _ _ h h' ↦ le_trans h h'⟩
  List.pairwise_insertionSort _ rows

/-- **A total sort key forgets the storage order**: two arrangements of the same rows, on which the
sort key is injective, are sorted into the same list. -/
theorem sortOn_congr {f : ρ → α} {rows rows' : List ρ} (h : rows.Perm rows')
    (hf : ∀ a ∈ rows, ∀ b ∈ rows, f a = f b → a = b) : sortOn f rows = sortOn f rows' := by
  have hanti : ∀ a b, a ∈ sortOn f rows → b ∈ sortOn f rows' → f a ≤ f b → f b ≤ f a → a = b := by
    intro a b ha hb hab hba
    refine hf a (mem_sortOn.1 ha) b ?_ (le_antisymm hab hba)
    exact h.symm.subset (mem_sortOn.1 hb)
  refine List.Perm.eq_of_pairwise hanti (pairwise_sortOn f rows) (pairwise_sortOn f rows') ?_
  exact (sortOn_perm f rows).trans (h.trans (sortOn_perm f rows').symm)

end Sorting

section Keys

variable {ρ κ α : Type} [Keyed ρ κ]

/-- The sort key of `ORDER BY f DESC` with ties broken by the row's key. -/
def byDesc (f : ρ → α) (r : ρ) : αᵒᵈ ×ₗ κ := toLex (OrderDual.toDual (f r), key r)

/-- The sort key of `ORDER BY f ASC` with ties broken by the row's key. -/
def byAsc (f : ρ → α) (r : ρ) : α ×ₗ κ := toLex (f r, key r)

theorem key_eq_of_byDesc_eq {f : ρ → α} {a b : ρ} (h : byDesc f a = byDesc f b) :
    key a = key b := congrArg (fun x ↦ (ofLex x).2) h

theorem key_eq_of_byAsc_eq {f : ρ → α} {a b : ρ} (h : byAsc f a = byAsc f b) :
    key a = key b := congrArg (fun x ↦ (ofLex x).2) h

variable [LinearOrder α] [LinearOrder κ]

/-- `WHERE p ORDER BY f DESC` over a table. -/
def selectDesc (t : Table ρ) (p : ρ → Bool) (f : ρ → α) : List ρ :=
  sortOn (byDesc f) (t.rows.filter p)

/-- `WHERE p ORDER BY f ASC` over a table. -/
def selectAsc (t : Table ρ) (p : ρ → Bool) (f : ρ → α) : List ρ :=
  sortOn (byAsc f) (t.rows.filter p)

@[simp] theorem mem_selectDesc {t : Table ρ} {p : ρ → Bool} {f : ρ → α} {r : ρ} :
    r ∈ selectDesc t p f ↔ r ∈ t ∧ p r = true := by
  rw [selectDesc, mem_sortOn, List.mem_filter, Table.mem_rows]

@[simp] theorem mem_selectAsc {t : Table ρ} {p : ρ → Bool} {f : ρ → α} {r : ρ} :
    r ∈ selectAsc t p f ↔ r ∈ t ∧ p r = true := by
  rw [selectAsc, mem_sortOn, List.mem_filter, Table.mem_rows]

theorem pairwise_selectAsc (t : Table ρ) (p : ρ → Bool) (f : ρ → α) :
    (selectAsc t p f).Pairwise fun a b ↦ (byAsc f a : α ×ₗ κ) ≤ byAsc f b :=
  pairwise_sortOn _ _

omit [LinearOrder α] [LinearOrder κ] in
/-- Two tables that hold the same rows satisfying `p` hold arrangements of them. -/
theorem filter_perm_of_mem_iff {t t' : Table ρ} {p : ρ → Bool}
    (h : ∀ r, p r = true → (r ∈ t ↔ r ∈ t')) :
    (t.rows.filter p).Perm (t'.rows.filter p) := by
  refine (List.perm_ext_iff_of_nodup (t.keys_nodup.of_map _ |>.filter _)
    (t'.keys_nodup.of_map _ |>.filter _)).2 fun r ↦ ?_
  simp only [List.mem_filter, Table.mem_rows]
  constructor
  · rintro ⟨hr, hp⟩
    exact ⟨(h r hp).1 hr, hp⟩
  · rintro ⟨hr, hp⟩
    exact ⟨(h r hp).2 hr, hp⟩

omit [LinearOrder α] [LinearOrder κ] in
/-- Such tables have equally many of these rows. -/
theorem countP_congr_of_mem_iff {t t' : Table ρ} {p : ρ → Bool}
    (h : ∀ r, p r = true → (r ∈ t ↔ r ∈ t')) : t.rows.countP p = t'.rows.countP p := by
  rw [List.countP_eq_length_filter, List.countP_eq_length_filter]
  exact (filter_perm_of_mem_iff h).length_eq

/-- **A query sees only the rows it selects.** -/
theorem selectDesc_congr {t t' : Table ρ} {p : ρ → Bool} {f : ρ → α}
    (h : ∀ r, p r = true → (r ∈ t ↔ r ∈ t')) : selectDesc t p f = selectDesc t' p f :=
  sortOn_congr (filter_perm_of_mem_iff h) fun _ ha _ hb hab ↦
    Table.eq_of_key_eq (List.mem_filter.1 ha).1 (List.mem_filter.1 hb).1
      (key_eq_of_byDesc_eq hab)

theorem selectAsc_congr {t t' : Table ρ} {p : ρ → Bool} {f : ρ → α}
    (h : ∀ r, p r = true → (r ∈ t ↔ r ∈ t')) : selectAsc t p f = selectAsc t' p f :=
  sortOn_congr (filter_perm_of_mem_iff h) fun _ ha _ hb hab ↦
    Table.eq_of_key_eq (List.mem_filter.1 ha).1 (List.mem_filter.1 hb).1
      (key_eq_of_byAsc_eq hab)

end Keys

end ZanovixCrm
