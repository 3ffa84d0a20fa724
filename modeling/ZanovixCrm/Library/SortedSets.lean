import Mathlib.Algebra.Order.Group.Int
import ZanovixCrm.Library.Table

/-!
# Sorted sets under keys that expire

The commands `ZREMRANGEBYSCORE`, `ZCARD`, `ZADD`, `ZRANGE` and `EXPIRE` of a Redis server, as
functions on its state and its clock. A sorted set gives each of its members a score. A key may have
a deadline; after the deadline it is gone, with its set and the deadline itself, and so it is when
its set has become empty.

Each command comes with what it does to the entries under its own key, and leaves all other keys
alone (`put_of_ne`).
-/

namespace ZanovixCrm

/-- A member of a sorted set, with its score. -/
structure Scored (μ : Type) where
  member : μ
  score : ℕ
deriving DecidableEq

instance {μ : Type} : Keyed (Scored μ) μ := ⟨Scored.member⟩

/-- What is stored under a key. -/
structure Held (μ : Type) where
  entries : Table (Scored μ)
  /-- The last moment at which the key is there, if it is to expire. -/
  deadline : Option ℕ

/-- The state of the server. -/
def SortedSets (κ μ : Type) : Type := κ → Option (Held μ)

namespace SortedSets

variable {κ μ : Type}

/-- Nothing is stored. -/
def empty : SortedSets κ μ := fun _ ↦ none

/-- What the key holds now, unless it has expired. -/
def live (m : SortedSets κ μ) (k : κ) (now : ℕ) : Option (Held μ) :=
  (m k).filter fun h ↦ h.deadline.all fun d ↦ decide (now ≤ d)

/-- The members under a key, with their scores. -/
def entries (m : SortedSets κ μ) (k : κ) (now : ℕ) : List (Scored μ) :=
  ((m.live k now).map fun h ↦ h.entries.rows).getD []

/-- `ZCARD`. -/
def zcard (m : SortedSets κ μ) (k : κ) (now : ℕ) : ℕ := (m.entries k now).length

/-- The score in the answer to `ZRANGE key 0 0 WITHSCORES`, if there is one. -/
def zrangeFirst (m : SortedSets κ μ) (k : κ) (now : ℕ) : Option ℕ :=
  ((m.entries k now).map Scored.score).min?

variable [DecidableEq κ]

/-- Store something under a key, or nothing. -/
def put (m : SortedSets κ μ) (k : κ) (h : Option (Held μ)) : SortedSets κ μ :=
  fun k' ↦ if k' = k then h else m k'

/-- The score is in the range. -/
def inRange (lo hi : ℤ) (x : Scored μ) : Bool :=
  decide (lo ≤ (x.score : ℤ) ∧ (x.score : ℤ) ≤ hi)

/-- `ZREMRANGEBYSCORE`. A key whose set becomes empty is removed. -/
def zremrangebyscore (m : SortedSets κ μ) (k : κ) (lo hi : ℤ) (now : ℕ) : SortedSets κ μ :=
  m.put k <| (m.live k now).bind fun h ↦
    let rest := h.entries.removeWhere (inRange lo hi)
    if rest.rows.isEmpty then none else some { h with entries := rest }

/-- `ZADD` of one member: a new one is added, an old one is given the score. -/
def zadd [DecidableEq μ] (m : SortedSets κ μ) (k : κ) (x : Scored μ) (now : ℕ) : SortedSets κ μ :=
  let add (t : Table (Scored μ)) : Table (Scored μ) :=
    if t.has x.member then t.alter x.member ⟨fun y ↦ ⟨y.member, x.score⟩, fun _ ↦ rfl⟩
    else t.insert x
  m.put k <| some <|
    match m.live k now with
    | some h => { h with entries := add h.entries }
    | none => ⟨add .empty, none⟩

/-- `EXPIRE`, with the time to live in milliseconds. -/
def expire (m : SortedSets κ μ) (k : κ) (ttl now : ℕ) : SortedSets κ μ :=
  m.put k <| (m.live k now).map fun h ↦ { h with deadline := some (now + ttl) }

/-! ### Entries -/

section Entries

variable {m : SortedSets κ μ} {k k' : κ} {now : ℕ}

omit [DecidableEq κ] in
/-- The entries depend on what is stored under the key alone. -/
theorem entries_congr {m' : SortedSets κ μ} (h : m k = m' k) (now : ℕ) :
    m.entries k now = m'.entries k now := by
  rw [entries, entries, live, live, h]

theorem put_self (m : SortedSets κ μ) (k : κ) (h : Option (Held μ)) : m.put k h k = h :=
  if_pos rfl

theorem put_of_ne (m : SortedSets κ μ) (hk : k' ≠ k) (h : Option (Held μ)) : m.put k h k' = m k' :=
  if_neg hk

omit [DecidableEq κ] in
/-- Nothing is there once the deadline has passed. -/
theorem entries_of_expired {h : Held μ} {d : ℕ} (hm : m k = some h) (hd : h.deadline = some d)
    (hnow : d < now) : m.entries k now = [] := by
  have hlive : m.live k now = none := by
    rw [live, hm, Option.filter_some, hd, Option.all_some, decide_eq_false (by omega)]
    rfl
  rw [entries, hlive]
  rfl

omit [DecidableEq κ] in
theorem entries_of_live {h : Held μ} (hm : m.live k now = some h) :
    m.entries k now = h.entries.rows := by
  rw [entries, hm]
  rfl

omit [DecidableEq κ] in
theorem live_eq_some_iff {h : Held μ} :
    m.live k now = some h ↔ m k = some h ∧ ∀ d, h.deadline = some d → now ≤ d := by
  rw [live, Option.filter_eq_some_iff, Option.all_eq_true]
  simp only [decide_eq_true_eq]

omit [DecidableEq κ] in
theorem entries_of_none (hm : m k = none) : m.entries k now = [] := by
  rw [entries, live, hm]
  rfl

theorem entries_zremrangebyscore (lo hi : ℤ) :
    (m.zremrangebyscore k lo hi now).entries k now =
      (m.entries k now).filter fun x ↦ !inRange lo hi x := by
  rcases hlive : m.live k now with - | h
  · have hnone : m.zremrangebyscore k lo hi now k = none := by
      rw [zremrangebyscore, hlive]
      exact put_self m k none
    rw [entries_of_none hnone, entries, hlive]
    rfl
  · have hrest : m.zremrangebyscore k lo hi now k =
        if (h.entries.removeWhere (inRange lo hi)).rows.isEmpty then none
        else some { h with entries := h.entries.removeWhere (inRange lo hi) } := by
      rw [zremrangebyscore, hlive]
      exact put_self m k _
    rw [entries_of_live hlive, ← Table.rows_removeWhere]
    split at hrest
    · next hempty =>
      rw [entries_of_none hrest, List.isEmpty_iff.1 hempty]
    · have hdeadline := (live_eq_some_iff.1 hlive).2
      exact entries_of_live (live_eq_some_iff.2 ⟨hrest, hdeadline⟩)

/-- A new member is added. -/
theorem entries_zadd [DecidableEq μ] {x : Scored μ}
    (hx : ∀ y ∈ m.entries k now, y.member ≠ x.member) :
    (m.zadd k x now).entries k now = m.entries k now ++ [x] := by
  rcases hlive : m.live k now with - | h
  · have hadd : m.zadd k x now k = some ⟨Table.empty.insert x, none⟩ := by
      rw [zadd, hlive]
      exact put_self m k _
    have hlive' : (m.zadd k x now).live k now = some ⟨Table.empty.insert x, none⟩ :=
      live_eq_some_iff.2 ⟨hadd, fun d hd ↦ nomatch hd⟩
    have hnew : (Table.empty : Table (Scored μ)).has (key x) = false := rfl
    rw [entries_of_live hlive', entries, hlive, Table.rows_insert hnew]
    rfl
  · rw [entries_of_live hlive] at hx ⊢
    have hnew : h.entries.has x.member = false := Table.has_eq_false_iff.2 hx
    have hadd : m.zadd k x now k = some { h with entries := h.entries.insert x } := by
      rw [zadd, hlive]
      refine (put_self m k _).trans ?_
      simp only [hnew]
      rfl
    have hdeadline := (live_eq_some_iff.1 hlive).2
    rw [entries_of_live (live_eq_some_iff.2 ⟨hadd, hdeadline⟩)]
    exact Table.rows_insert hnew

/-- The entries stay until the deadline, and then they are gone. -/
theorem entries_expire (ttl t : ℕ) :
    (m.expire k ttl now).entries k t = if t ≤ now + ttl then m.entries k now else [] := by
  rcases hlive : m.live k now with - | h
  · have hnone : m.expire k ttl now k = none := by
      rw [expire, hlive]
      exact put_self m k none
    have hnow : m.entries k now = [] := by
      rw [entries, hlive]
      rfl
    rw [entries_of_none hnone, hnow, ite_self]
  · have hexpire : m.expire k ttl now k = some { h with deadline := some (now + ttl) } := by
      rw [expire, hlive]
      exact put_self m k _
    rw [entries_of_live hlive]
    split
    · next ht =>
      have hlive' : (m.expire k ttl now).live k t =
        some { h with deadline := some (now + ttl) } := by
        refine live_eq_some_iff.2 ⟨hexpire, fun d hd ↦ ?_⟩
        have hd' : now + ttl = d := Option.some.inj hd
        omega
      rw [entries_of_live hlive']
    · next ht => exact entries_of_expired hexpire rfl (by omega)

/-! ### Other keys -/

theorem zremrangebyscore_of_ne (hk : k' ≠ k) (lo hi : ℤ) :
    m.zremrangebyscore k lo hi now k' = m k' :=
  put_of_ne m hk _

theorem zadd_of_ne [DecidableEq μ] (hk : k' ≠ k) (x : Scored μ) : m.zadd k x now k' = m k' :=
  put_of_ne m hk _

theorem expire_of_ne (hk : k' ≠ k) (ttl : ℕ) : m.expire k ttl now k' = m k' := put_of_ne m hk _

end Entries

end SortedSets

end ZanovixCrm
