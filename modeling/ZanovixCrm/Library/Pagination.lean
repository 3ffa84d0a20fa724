import ZanovixCrm.Library.Query

/-!
# Pages of an order with ties

A client goes through a list page by page: `LIMIT size` with `OFFSET 0`, `size`, `2 * size` and
so on. Each page is a query of its own, and a query arranges the rows by a rank; rows of the same
rank it may arrange as it likes, and differently each time (`Arranges`).

The ranks on the pages do not depend on that (`map_pages`), the rows do. **The pages together are
the rows, whatever the arrangements, exactly if no page ends between two rows of the same rank**
(`perm_pages_iff`).
-/

namespace ZanovixCrm.Pagination

variable {ρ α : Type} [LinearOrder α] {rank : ρ → α} {rows : List ρ} {size n : ℕ}

/-- An answer to `ORDER BY rank`. -/
structure Arranges (rank : ρ → α) (rows l : List ρ) : Prop where
  perm : l.Perm rows
  sorted : l.Pairwise fun a b ↦ rank a ≤ rank b

theorem arranges_sortOn (rank : ρ → α) (rows : List ρ) :
    Arranges rank rows (sortOn rank rows) :=
  ⟨sortOn_perm rank rows, pairwise_sortOn rank rows⟩

/-- The ranks of the rows, in order. -/
def ranks (rank : ρ → α) (rows : List ρ) : List α := (sortOn rank rows).map rank

/-- The ranks are the same in all arrangements. -/
theorem Arranges.map_eq {l : List ρ} (h : Arranges rank rows l) : l.map rank = ranks rank rows := by
  refine List.Perm.eq_of_pairwise (fun a b _ _ ↦ le_antisymm) (List.pairwise_map.2 h.sorted)
    (List.pairwise_map.2 (pairwise_sortOn rank rows)) ?_
  exact (h.perm.trans (sortOn_perm rank rows).symm).map rank

theorem Arranges.of_map_eq {l l' : List ρ} (h : Arranges rank rows l) (hperm : l'.Perm l)
    (hmap : l'.map rank = l.map rank) : Arranges rank rows l' := by
  refine ⟨hperm.trans h.perm, List.pairwise_map.1 ?_⟩
  rw [hmap]
  exact List.pairwise_map.2 h.sorted

/-- The page at offset `k * size`. -/
def page (size k : ℕ) (l : List ρ) : List ρ := (l.drop (k * size)).take size

/-- The first `n` pages, one after the other, each from an arrangement of its own. -/
def pages (size n : ℕ) (l : ℕ → List ρ) : List ρ :=
  (List.range n).flatMap fun k ↦ page size k (l k)

theorem pages_succ (size n : ℕ) (l : ℕ → List ρ) :
    pages size (n + 1) l = pages size n l ++ page size n (l n) := by
  rw [pages, List.range_succ, List.flatMap_append, List.flatMap_singleton, ← pages]

theorem pages_congr {l l' : ℕ → List ρ} (h : ∀ k < n, l k = l' k) :
    pages size n l = pages size n l' := by
  rw [pages, pages]
  refine List.flatMap_congr fun k hk ↦ ?_
  rw [h k (List.mem_range.1 hk)]

theorem pages_sublist {m : ℕ} (h : m ≤ n) (l : ℕ → List ρ) :
    (pages size m l).Sublist (pages size n l) := by
  induction n, h using Nat.le_induction with
  | base => exact List.Sublist.refl _
  | succ n _ ih =>
    rw [pages_succ]
    exact ih.trans (List.sublist_append_left _ _)

theorem take_append_page (size k : ℕ) (l : List ρ) :
    l.take (k * size) ++ page size k l = l.take ((k + 1) * size) := by
  rw [page, Nat.succ_mul, List.take_add]

theorem pages_const (size n : ℕ) (l : List ρ) : pages size n (fun _ ↦ l) = l.take (n * size) := by
  induction n with
  | zero => rw [Nat.zero_mul, List.take_zero]; rfl
  | succ n ih => rw [pages_succ, ih, take_append_page]

/-- The ranks on the pages. -/
theorem map_pages {l : ℕ → List ρ} (hl : ∀ k, Arranges rank rows (l k)) (n : ℕ) :
    (pages size n l).map rank = (ranks rank rows).take (n * size) := by
  induction n with
  | zero => rw [Nat.zero_mul, List.take_zero]; rfl
  | succ n ih =>
    rw [pages_succ, List.map_append, ih, ← (hl n).map_eq, ← List.map_take, ← List.map_append,
      take_append_page, List.map_take]

/-- The pages are in order. -/
theorem sorted_pages {l : ℕ → List ρ} (hl : ∀ k, Arranges rank rows (l k)) (n : ℕ) :
    (pages size n l).Pairwise fun a b ↦ rank a ≤ rank b := by
  refine List.pairwise_map.1 ?_
  rw [map_pages hl, ranks, ← List.map_take]
  exact List.pairwise_map.2 ((pairwise_sortOn rank rows).sublist (List.take_sublist _ _))

/-- No page ends between two equal ranks. -/
def WellCut (size : ℕ) (rs : List α) : Prop :=
  ∀ k < rs.length, ∀ a ∈ rs.take (k * size), a ∉ rs.drop (k * size)

instance (size : ℕ) (rs : List α) : Decidable (WellCut size rs) :=
  inferInstanceAs (Decidable (∀ k < rs.length, ∀ a ∈ rs.take (k * size), a ∉ rs.drop (k * size)))

omit [LinearOrder α] in
theorem WellCut.cut {rs : List α} (h : WellCut size rs) (k : ℕ) :
    ∀ a ∈ rs.take (k * size), a ∉ rs.drop (k * size) := by
  intro a ha hdrop
  have hk : k * size < rs.length := by
    by_contra hge
    rw [List.drop_eq_nil_of_le (Nat.le_of_not_lt hge)] at hdrop
    exact absurd hdrop List.not_mem_nil
  have hsize : 0 < size := by
    refine Nat.pos_of_ne_zero fun hzero ↦ ?_
    rw [hzero, Nat.mul_zero, List.take_zero] at ha
    exact absurd ha List.not_mem_nil
  exact h k ((Nat.le_mul_of_pos_right k hsize).trans_lt hk) a ha hdrop

/-- The rows before a cut between different ranks are the same in all arrangements. -/
theorem take_perm {l l' : List ρ} (h : Arranges rank rows l) (h' : Arranges rank rows l') {m : ℕ}
    (hcut : ∀ a ∈ (ranks rank rows).take m, a ∉ (ranks rank rows).drop m) :
    (l.take m).Perm (l'.take m) := by
  have hfilter : ∀ l : List ρ, Arranges rank rows l →
      l.filter (fun x ↦ decide (rank x ∈ (ranks rank rows).take m)) = l.take m := by
    intro l hl
    conv_lhs => enter [2]; rw [← List.take_append_drop m l]
    have hbefore : ∀ x ∈ l.take m, decide (rank x ∈ (ranks rank rows).take m) = true := by
      intro x hx
      rw [← hl.map_eq, ← List.map_take]
      exact decide_eq_true (List.mem_map_of_mem hx)
    have hafter : ∀ x ∈ l.drop m, ¬decide (rank x ∈ (ranks rank rows).take m) = true := by
      intro x hx hmem
      refine hcut _ (of_decide_eq_true hmem) ?_
      rw [← hl.map_eq, ← List.map_drop]
      exact List.mem_map_of_mem hx
    rw [List.filter_append, List.filter_eq_self.2 hbefore, List.filter_eq_nil_iff.2 hafter,
      List.append_nil]
  rw [← hfilter l h, ← hfilter l' h']
  exact (h.perm.trans h'.perm.symm).filter _

/-- A well-cut list: the pages so far are the beginning of any arrangement. -/
theorem WellCut.pages_perm (h : WellCut size (ranks rank rows)) {l : ℕ → List ρ}
    (hl : ∀ k, Arranges rank rows (l k)) {l' : List ρ} (hl' : Arranges rank rows l') (n : ℕ) :
    (pages size n l).Perm (l'.take (n * size)) := by
  induction n with
  | zero => rw [Nat.zero_mul, List.take_zero]; exact List.Perm.nil
  | succ n ih =>
    rw [pages_succ]
    calc pages size n l ++ page size n (l n)
      List.Perm _ ((l n).take (n * size) ++ page size n (l n)) :=
        (ih.trans (take_perm hl' (hl n) (h.cut n))).append_right _
      _ = (l n).take ((n + 1) * size) := take_append_page size n (l n)
      List.Perm _ (l'.take ((n + 1) * size)) := take_perm (hl n) hl' (h.cut (n + 1))

omit [LinearOrder α] in
/-- The elements around a place in a list. -/
theorem exists_split {l : List ρ} {j : ℕ} (hj : j + 1 < l.length) :
    ∃ before x y after, l = before ++ x :: y :: after ∧ before.length = j := by
  refine ⟨l.take j, l[j], l[j + 1], l.drop (j + 2), ?_, List.length_take_of_le (by omega)⟩
  rw [← List.drop_eq_getElem_cons, ← List.drop_eq_getElem_cons, List.take_append_drop]

/-- Two neighbours of the same rank, at a place where a page ends. -/
theorem exists_tie (hcut : ¬WellCut size (ranks rank rows)) :
    ∃ k before x y after, Arranges rank rows (before ++ x :: y :: after) ∧ rank x = rank y ∧
      before.length + 1 = k * size := by
  simp only [WellCut, not_forall, not_not] at hcut
  obtain ⟨k, -, a, ha, hdrop⟩ := hcut
  have hl := arranges_sortOn rank rows
  rw [ranks, ← List.map_take] at ha
  rw [ranks, ← List.map_drop] at hdrop
  generalize sortOn rank rows = l at hl ha hdrop
  generalize hm : k * size = m at ha hdrop
  obtain ⟨x', hx', hax⟩ := List.mem_map.1 ha
  obtain ⟨y', hy', hay⟩ := List.mem_map.1 hdrop
  have hlt : m < l.length := by
    by_contra hge
    rw [List.drop_eq_nil_of_le (Nat.le_of_not_lt hge)] at hy'
    exact absurd hy' List.not_mem_nil
  obtain ⟨j, rfl⟩ : ∃ j, m = j + 1 := by
    refine Nat.exists_eq_succ_of_ne_zero fun hzero ↦ ?_
    rw [hzero, List.take_zero] at hx'
    exact absurd hx' List.not_mem_nil
  obtain ⟨before, x, y, after, rfl, hj⟩ := exists_split hlt
  have hsplit : before ++ x :: y :: after = (before ++ [x]) ++ (y :: after) := by simp
  have hlength : (before ++ [x]).length = j + 1 := by rw [List.length_append, hj]; rfl
  rw [hsplit, List.take_left' hlength] at hx'
  rw [hsplit, List.drop_left' hlength] at hy'
  refine ⟨k, before, x, y, after, hl, ?_, by omega⟩
  obtain ⟨-, hafter, hbefore⟩ := List.pairwise_append.1 hl.sorted
  have hxy : rank x ≤ rank y := List.rel_of_pairwise_cons hafter List.mem_cons_self
  have hlow : rank x' ≤ rank x := by
    rcases List.mem_append.1 hx' with hx' | hx'
    · exact hbefore x' hx' x List.mem_cons_self
    · rw [List.mem_singleton.1 hx']
  have hhigh : rank y ≤ rank y' := by
    rcases List.mem_cons.1 hy' with rfl | hy'
    · exact le_rfl
    · exact List.rel_of_pairwise_cons (List.pairwise_cons.1 hafter).2 hy'
  refine le_antisymm hxy ?_
  calc rank y
    _ ≤ a := hay ▸ hhigh
    _ ≤ rank x := hax ▸ hlow

/-- **The pages together are the rows, whatever the arrangements**, exactly if no page ends between
two rows of the same rank. -/
theorem perm_pages_iff (hn : rows.length ≤ n * size) (hrows : rows.Nodup) :
    (∀ l : ℕ → List ρ, (∀ k, Arranges rank rows (l k)) → (pages size n l).Perm rows) ↔
      WellCut size (ranks rank rows) := by
  constructor
  · intro hall
    by_contra hcut
    obtain ⟨k, before, x, y, after, harr, hxy, hk⟩ := exists_tie hcut
    -- The page that begins between the two comes from the arrangement with `y` before `x`.
    have hswap : Arranges rank rows (before ++ y :: x :: after) := by
      refine harr.of_map_eq ((List.Perm.swap x y after).append_left before) ?_
      simp only [List.map_append, List.map_cons, hxy]
    let l : ℕ → List ρ := fun j ↦
      if j < k then before ++ x :: y :: after else before ++ y :: x :: after
    have hl : ∀ j, Arranges rank rows (l j) := by
      intro j
      show Arranges rank rows (if j < k then _ else _)
      split
      · exact harr
      · exact hswap
    have hrow := harr.perm.length_eq
    rw [List.length_append, List.length_cons, List.length_cons] at hrow
    have hkn : k < n := Nat.lt_of_mul_lt_mul_right (show k * size < n * size by omega)
    have hsize : 0 < size := Nat.pos_of_mul_pos_left (show 0 < k * size by omega)
    have hlength : ∀ z : ρ, (before ++ [z]).length = k * size := fun z ↦
      List.length_append.trans hk
    have hbefore : x ∈ pages size k l := by
      have hconst : ∀ j < k, l j = before ++ x :: y :: after := fun j hj ↦ if_pos hj
      rw [pages_congr hconst, pages_const, ← List.singleton_append, ← List.append_assoc,
        List.take_left' (hlength x)]
      exact List.mem_append_right before (List.mem_singleton_self x)
    have hafter : x ∈ page size k (l k) := by
      have hswapped : l k = (before ++ [y]) ++ x :: after := by
        show (if k < k then _ else _) = _
        rw [if_neg (lt_irrefl k), List.append_assoc, List.singleton_append]
      rw [hswapped, page, List.drop_left' (hlength y), List.take_cons hsize]
      exact List.mem_cons_self
    have hnodup : (pages size (k + 1) l).Nodup :=
      ((hall l hl).nodup_iff.2 hrows).sublist (pages_sublist hkn l)
    rw [pages_succ] at hnodup
    exact List.disjoint_of_nodup_append hnodup hbefore hafter
  · intro hcut l hl
    have harr := arranges_sortOn rank rows
    refine (hcut.pages_perm hl harr n).trans ?_
    rw [List.take_of_length_le (by rwa [length_sortOn])]
    exact harr.perm

/-! ### How many pages there are -/

/-- The number of the last page of `n` rows; the first page is number zero. -/
def lastPage (size n : ℕ) : ℕ := (n - 1) / size

theorem le_lastPage_mul (hsize : 0 < size) (n : ℕ) : n ≤ (lastPage size n + 1) * size := by
  have hlt : (n - 1) % size < size := Nat.mod_lt _ hsize
  have hdiv : size * ((n - 1) / size) + (n - 1) % size = n - 1 := Nat.div_add_mod _ _
  rw [lastPage, Nat.succ_mul, Nat.mul_comm]
  omega

end ZanovixCrm.Pagination
