import Mathlib.Data.Fintype.Basic
import Mathlib.Logic.Function.Basic
import ZanovixCrm.Library.Program

/-!
# Transactions under `READ COMMITTED`

Many transaction programs run at once, each in its own session. One step of one session is one
statement: a `SELECT` answers from the rows committed at that moment with the session's own writes
on top; a write waits while another open transaction holds one of its locks, and then applies to the
row as it is now, not as it was read; a `COMMIT` publishes the session's writes. **Nothing protects
what was read**: between a read and the write that relies on it, other sessions may commit.

`step` is a function of a label, so an interleaving is a list of labels and `exec` folds it; a
statement about every interleaving is a statement about every list. A session may also be aborted
at any point, as the victim of a deadlock or because its connection is lost.

**Validation.** `StillValid` says of an open transaction that every read it has made, repeated now,
would send it the same way. A commit whose reads are still valid is exactly the program run alone
on the current state (`run_of_stillValid`), so in a `FreshRun`, one in which every commit is of that
kind, the committed states are those of a serial execution in commit order and any invariant of the
serial transactions holds throughout (`FreshRun.induction`). That is the strongest statement
available: without validation the isolation level promises nothing about reads.
-/

namespace ZanovixCrm

/-- What an open transaction has done so far: reads with the state they saw, and writes. -/
inductive Executed (σ ω : Type) where
  /-- A `SELECT` answered from this state. -/
  | read (seen : σ)
  /-- A write that was accepted. -/
  | wrote (w : ω)

namespace Executed

variable {σ ω : Type}

/-- The writes of a trail, in order. -/
def writes : List (Executed σ ω) → List ω
  | [] => []
  | .read _ :: t => writes t
  | .wrote w :: t => w :: writes t

@[simp] theorem writes_nil : writes ([] : List (Executed σ ω)) = [] := rfl

@[simp] theorem writes_read (s : σ) (t : List (Executed σ ω)) :
    writes (.read s :: t) = writes t := rfl

@[simp] theorem writes_wrote (w : ω) (t : List (Executed σ ω)) :
    writes (.wrote w :: t) = w :: writes t := rfl

end Executed

section Trails

variable {σ ω ε κ α : Type} [Store σ ω ε κ]

/-- Perform a list of writes. -/
def replay : List ω → σ → Except ε σ
  | [], s => .ok s
  | w :: ws, s =>
    match Store.apply w s with
    | .ok s' => replay ws s'
    | .error e => .error e

@[simp] theorem replay_nil (s : σ) : replay ([] : List ω) s = .ok s := rfl

namespace Prog

omit [Store σ ω ε κ] in
/-- `m.Trace t rest`: the trail `t` takes the program `m` to `rest`. -/
def Trace : Prog σ ω ε α → List (Executed σ ω) → Prog σ ω ε α → Prop
  | m, [], rest => m = rest
  | .select k, .read v :: t, rest => (k v).Trace t rest
  | .write w _ k, .wrote w' :: t, rest => w = w' ∧ k.Trace t rest
  | _, _ :: _, _ => False

omit [Store σ ω ε κ] in
@[simp] theorem trace_nil {m rest : Prog σ ω ε α} : m.Trace [] rest ↔ m = rest := by
  cases m <;> rfl

omit [Store σ ω ε κ] in
/-- A trail grows by the read that the remaining program makes. -/
theorem Trace.read {m : Prog σ ω ε α} {t : List (Executed σ ω)} {k : σ → Prog σ ω ε α}
    (h : m.Trace t (.select k)) (v : σ) : m.Trace (t ++ [.read v]) (k v) := by
  induction t generalizing m with
  | nil =>
    obtain rfl := trace_nil.1 h
    exact trace_nil.2 rfl
  | cons e t ih =>
    match m, e, h with
    | .select k', .read u, h => exact ih (m := k' u) h
    | .write w _ k', .wrote w', ⟨hw, h⟩ => exact ⟨hw, ih h⟩

omit [Store σ ω ε κ] in
/-- A trail grows by the write that the remaining program makes. -/
theorem Trace.wrote {m k : Prog σ ω ε α} {t : List (Executed σ ω)} {w : ω} {g : ε → ε}
    (h : m.Trace t (.write w g k)) : m.Trace (t ++ [.wrote w]) k := by
  induction t generalizing m with
  | nil =>
    obtain rfl := trace_nil.1 h
    exact ⟨rfl, trace_nil.2 rfl⟩
  | cons e t ih =>
    match m, e, h with
    | .select k', .read u, h => exact ih (m := k' u) h
    | .write w' _ k', .wrote w'', ⟨hw, h⟩ => exact ⟨hw, ih h⟩

/-- **The reads are still valid**: repeated on `s`, with the program's own writes applied in
between, each read of the trail leads to the same continuation as it did. -/
def StillValid : Prog σ ω ε α → List (Executed σ ω) → σ → Prop
  | _, [], _ => True
  | .select k, .read v :: t, s => k v = k s ∧ (k v).StillValid t s
  | .write w _ k, .wrote _ :: t, s => ∀ s', Store.apply w s = .ok s' → k.StillValid t s'
  | _, _ :: _, _ => False

/-- **A transaction whose reads are still valid is serial**: publishing its writes on the current
state is running it alone on that state. -/
theorem run_of_stillValid {m : Prog σ ω ε α} {t : List (Executed σ ω)} {a : α} {s s' : σ}
    (ht : m.Trace t (.ret a)) (hv : m.StillValid t s)
    (hr : replay (Executed.writes t) s = .ok s') : m.run s = .ok (a, s') := by
  induction t generalizing m s with
  | nil =>
    obtain rfl := trace_nil.1 ht
    cases hr
    rfl
  | cons e t ih =>
    match m, e, ht with
    | .select k, .read v, ht =>
      obtain ⟨heq, hv⟩ := hv
      rw [run_select, ← heq]
      exact ih ht hv hr
    | .write w g k, .wrote w', ⟨hw, ht⟩ =>
      subst hw
      rw [Executed.writes_wrote, replay] at hr
      rcases hs : Store.apply w s with e | s₁
      · rw [hs] at hr; cases hr
      · rw [hs] at hr
        rw [run_write_ok hs]
        exact ih ht (hv s₁ hs) hr

end Prog

/-- Each read of the trail saw what it would see on `s`. -/
def Accurate : List (Executed σ ω) → σ → Prop
  | [], _ => True
  | .read v :: t, s => v = s ∧ Accurate t s
  | .wrote w :: t, s => ∀ s', Store.apply w s = .ok s' → Accurate t s'

/-- A trail remains accurate by reading the state on top of which it stands. -/
theorem Accurate.read {t : List (Executed σ ω)} {s view : σ} (h : Accurate t s)
    (hview : replay (Executed.writes t) s = .ok view) : Accurate (t ++ [.read view]) s := by
  induction t generalizing s with
  | nil =>
    cases hview
    exact ⟨rfl, trivial⟩
  | cons e t ih =>
    cases e with
    | read v => exact ⟨h.1, ih h.2 hview⟩
    | wrote w =>
      intro s' hs
      refine ih (h s' hs) ?_
      rwa [Executed.writes_wrote, replay, hs] at hview

/-- A write puts no read at risk. -/
theorem Accurate.wrote {t : List (Executed σ ω)} {s : σ} (h : Accurate t s) (w : ω) :
    Accurate (t ++ [.wrote w]) s := by
  induction t generalizing s with
  | nil => exact fun _ _ ↦ trivial
  | cons e t ih =>
    cases e with
    | read v => exact ⟨h.1, ih h.2⟩
    | wrote w' => exact fun s' hs ↦ ih (h s' hs)

/-- Accurate reads are valid. -/
theorem Accurate.stillValid {m rest : Prog σ ω ε α} {t : List (Executed σ ω)} {s : σ}
    (h : Accurate t s) (ht : m.Trace t rest) : m.StillValid t s := by
  induction t generalizing m s with
  | nil => cases m <;> trivial
  | cons e t ih =>
    match m, e, ht with
    | .select k, .read v, ht => exact ⟨by rw [h.1], ih h.2 (h.1 ▸ ht)⟩
    | .write w g k, .wrote w', ⟨hw, ht⟩ =>
      subst hw
      exact fun s' hs ↦ ih (h s' hs) ht

end Trails

/-- Where a session stands. -/
inductive Phase (σ ω ε α : Type) where
  /-- The transaction is open: its trail, and what remains to be executed. -/
  | running (trail : List (Executed σ ω)) (rest : Prog σ ω ε α)
  /-- The transaction has committed with this result. -/
  | committed (a : α)
  /-- The transaction has been rolled back, by the error it raised or by the server. -/
  | rolledBack (e : Option ε)

/-- The committed state and the sessions on it. -/
structure Config (ι σ ω ε α : Type) where
  /-- The committed state. -/
  db : σ
  /-- Each session. -/
  session : ι → Phase σ ω ε α

/-- One step of an interleaving. -/
inductive Label (ι : Type) where
  /-- The session executes its next statement, or waits for a lock. -/
  | go (i : ι)
  /-- The server aborts the session. -/
  | abort (i : ι)

namespace Phase

variable {σ ω ε κ α : Type} [Store σ ω ε κ]

/-- The locks of a session: those of the writes of an open transaction. -/
def held : Phase σ ω ε α → List κ
  | .running trail _ => (Executed.writes trail).flatMap (Store.locks (σ := σ))
  | _ => []

omit [Store σ ω ε κ] in
/-- The session has no transaction under way. -/
def idle : Phase σ ω ε α → Bool
  | .running trail _ => trail.isEmpty
  | _ => true

omit [Store σ ω ε κ] in
/-- The result of a committed session. -/
def outcome : Phase σ ω ε α → Option α
  | .committed a => some a
  | _ => none

end Phase

namespace Config

variable {ι σ ω ε κ α : Type} [Store σ ω ε κ] [DecidableEq ι] [Fintype ι] [DecidableEq κ]

/-- Another session holds one of the locks that the write needs. -/
def blocked (c : Config ι σ ω ε α) (i : ι) (w : ω) : Bool :=
  decide (∃ j, j ≠ i ∧ ∃ l ∈ Store.locks (σ := σ) w, l ∈ (c.session j).held)

omit [Store σ ω ε κ] [Fintype ι] [DecidableEq κ] in
/-- Replace the phase of one session. -/
def setPhase (c : Config ι σ ω ε α) (i : ι) (p : Phase σ ω ε α) : Config ι σ ω ε α :=
  { c with session := Function.update c.session i p }

/-- Execute one statement of an open transaction that sees the state `view`. -/
def statement (c : Config ι σ ω ε α) (i : ι) (trail : List (Executed σ ω)) (view : σ) :
    Prog σ ω ε α → Config ι σ ω ε α
  | .ret a => { c.setPhase i (.committed a) with db := view }
  | .raise e => c.setPhase i (.rolledBack (some e))
  | .select k => c.setPhase i (.running (trail ++ [.read view]) (k view))
  | .write w h k =>
    if c.blocked i w then c
    else match Store.apply w view with
      | .ok _ => c.setPhase i (.running (trail ++ [.wrote w]) k)
      | .error e => c.setPhase i (.rolledBack (some (h e)))

/-- One step. The view of a session is the committed state with its own writes on top; if they no
longer apply, the transaction fails. -/
def step (c : Config ι σ ω ε α) : Label ι → Config ι σ ω ε α
  | .abort i =>
    match c.session i with
    | .running _ _ => c.setPhase i (.rolledBack none)
    | _ => c
  | .go i =>
    match c.session i with
    | .running trail rest =>
      match replay (Executed.writes trail) c.db with
      | .ok view => c.statement i trail view rest
      | .error e => c.setPhase i (.rolledBack (some e))
    | _ => c

/-- Run an interleaving. -/
def exec (c : Config ι σ ω ε α) (labels : List (Label ι)) : Config ι σ ω ε α :=
  labels.foldl step c

@[simp] theorem exec_nil (c : Config ι σ ω ε α) : c.exec [] = c := rfl

@[simp] theorem exec_cons (c : Config ι σ ω ε α) (l : Label ι) (ls : List (Label ι)) :
    c.exec (l :: ls) = (c.step l).exec ls := rfl

omit [Store σ ω ε κ] [DecidableEq ι] [Fintype ι] [DecidableEq κ] in
/-- Every session is about to begin. -/
def start (progs : ι → Prog σ ω ε α) (db : σ) : Config ι σ ω ε α :=
  ⟨db, fun i ↦ .running [] (progs i)⟩

omit [Store σ ω ε κ] [DecidableEq ι] [Fintype ι] [DecidableEq κ] in
/-- The results of the sessions that have committed. -/
def outcomes (c : Config ι σ ω ε α) : ι → Option α := fun i ↦ (c.session i).outcome

omit [Store σ ω ε κ] [DecidableEq ι] [Fintype ι] [DecidableEq κ] in
/-- Every open session is somewhere inside its program. -/
def Sound (progs : ι → Prog σ ω ε α) (c : Config ι σ ω ε α) : Prop :=
  ∀ i trail rest, c.session i = .running trail rest → (progs i).Trace trail rest

omit [Store σ ω ε κ] [DecidableEq ι] [Fintype ι] [DecidableEq κ] in
theorem sound_start (progs : ι → Prog σ ω ε α) (db : σ) : (start progs db).Sound progs := by
  rintro i trail rest h
  cases h
  exact Prog.trace_nil.2 rfl

omit [Store σ ω ε κ] [Fintype ι] [DecidableEq κ] in
theorem Sound.setPhase {progs : ι → Prog σ ω ε α} {c : Config ι σ ω ε α} (hc : c.Sound progs)
    {i : ι} {p : Phase σ ω ε α}
    (hp : ∀ trail rest, p = .running trail rest → (progs i).Trace trail rest) :
    (c.setPhase i p).Sound progs := by
  intro j trail rest h
  by_cases hj : j = i
  · subst hj
    exact hp trail rest (by simpa [Config.setPhase] using h)
  · exact hc j trail rest (by simpa [Config.setPhase, hj] using h)

theorem Sound.statement {progs : ι → Prog σ ω ε α} {c : Config ι σ ω ε α} (hc : c.Sound progs)
    {i : ι} {trail : List (Executed σ ω)} {rest : Prog σ ω ε α} (ht : (progs i).Trace trail rest)
    (view : σ) : (c.statement i trail view rest).Sound progs := by
  cases rest with
  | ret a =>
    have h := hc.setPhase (i := i) (p := .committed a) (fun _ _ h ↦ by cases h)
    exact fun j trail rest hj ↦ h j trail rest hj
  | raise e => exact hc.setPhase fun _ _ h ↦ by cases h
  | select k =>
    refine hc.setPhase fun trail' rest' h ↦ ?_
    cases h
    exact ht.read view
  | write w g k =>
    rw [Config.statement]
    split
    · exact hc
    split
    · refine hc.setPhase fun trail' rest' h ↦ ?_
      cases h
      exact ht.wrote
    · exact hc.setPhase fun _ _ h ↦ by cases h

theorem Sound.step {progs : ι → Prog σ ω ε α} {c : Config ι σ ω ε α} (hc : c.Sound progs)
    (l : Label ι) : (c.step l).Sound progs := by
  cases l with
  | abort i =>
    rw [Config.step]
    split
    · exact hc.setPhase fun _ _ h ↦ by cases h
    · exact hc
  | go i =>
    rw [Config.step]
    split
    · next trail rest hi =>
      split
      · exact hc.statement (hc i trail rest hi) _
      · exact hc.setPhase fun _ _ h ↦ by cases h
    · exact hc

omit [Store σ ω ε κ] [Fintype ι] [DecidableEq κ] in
theorem outcomes_setPhase (c : Config ι σ ω ε α) (i : ι) (p : Phase σ ω ε α) :
    (c.setPhase i p).outcomes = Function.update c.outcomes i p.outcome := by
  funext j
  by_cases hj : j = i
  · subst hj
    simp [outcomes, Config.setPhase]
  · simp [outcomes, Config.setPhase, hj]

omit [Store σ ω ε κ] [Fintype ι] [DecidableEq κ] in
/-- A session that was open and is left without a result leaves the results as they were. -/
theorem outcomes_setPhase_of_running {c : Config ι σ ω ε α} {i : ι} {p : Phase σ ω ε α}
    {trail : List (Executed σ ω)} {rest : Prog σ ω ε α} (hi : c.session i = .running trail rest)
    (hp : p.outcome = none) : (c.setPhase i p).outcomes = c.outcomes := by
  rw [outcomes_setPhase, hp, Function.update_eq_self_iff]
  simp [outcomes, hi, Phase.outcome]

/-- **Only a commit changes the committed state**: a step either leaves it and every result alone,
or publishes the writes of an open transaction that has nothing left to execute. -/
theorem step_cases (c : Config ι σ ω ε α) (l : Label ι) :
    ((c.step l).db = c.db ∧ (c.step l).outcomes = c.outcomes) ∨
      ∃ i trail a, l = .go i ∧ c.session i = .running trail (.ret a) ∧
        replay (Executed.writes trail) c.db = .ok (c.step l).db ∧
        (c.step l).outcomes = Function.update c.outcomes i (some a) := by
  cases l with
  | abort i =>
    left
    rw [step]
    split
    · next hi => exact ⟨rfl, outcomes_setPhase_of_running hi rfl⟩
    · exact ⟨rfl, rfl⟩
  | go i =>
    rw [step]
    split
    · next trail rest hi =>
      split
      · next view hview =>
        cases rest with
        | ret a => exact Or.inr ⟨i, trail, a, rfl, hi, hview, outcomes_setPhase c i _⟩
        | raise e => exact Or.inl ⟨rfl, outcomes_setPhase_of_running hi rfl⟩
        | select k => exact Or.inl ⟨rfl, outcomes_setPhase_of_running hi rfl⟩
        | write w g k =>
          left
          rw [statement]
          split
          · exact ⟨rfl, rfl⟩
          split
          · exact ⟨rfl, outcomes_setPhase_of_running hi rfl⟩
          · exact ⟨rfl, outcomes_setPhase_of_running hi rfl⟩
      · exact Or.inl ⟨rfl, outcomes_setPhase_of_running hi rfl⟩
    · exact Or.inl ⟨rfl, rfl⟩

/-! ### Runs whose commits are fresh -/

omit [DecidableEq ι] [Fintype ι] [DecidableEq κ] in
/-- If the step is a commit, then what the transaction read is still valid. -/
def Fresh (progs : ι → Prog σ ω ε α) (c : Config ι σ ω ε α) (l : Label ι) : Prop :=
  ∀ i trail a, l = .go i → c.session i = .running trail (.ret a) →
    (progs i).StillValid trail c.db

/-- Every commit of the interleaving is fresh. -/
def FreshRun (progs : ι → Prog σ ω ε α) : Config ι σ ω ε α → List (Label ι) → Prop
  | _, [] => True
  | c, l :: ls => c.Fresh progs l ∧ FreshRun progs (c.step l) ls

/-- A fresh step is the serial execution of one program, or changes nothing. -/
theorem Fresh.step_cases {progs : ι → Prog σ ω ε α} {c : Config ι σ ω ε α} (hc : c.Sound progs)
    {l : Label ι} (hf : c.Fresh progs l) :
    ((c.step l).db = c.db ∧ (c.step l).outcomes = c.outcomes) ∨
      ∃ i a, c.outcomes i = none ∧ (progs i).run c.db = .ok (a, (c.step l).db) ∧
        (c.step l).outcomes = Function.update c.outcomes i (some a) := by
  rcases Config.step_cases c l with h | ⟨i, trail, a, hl, hi, hreplay, hout⟩
  · exact Or.inl h
  · refine Or.inr ⟨i, a, by simp [outcomes, hi, Phase.outcome], ?_, hout⟩
    exact Prog.run_of_stillValid (hc i trail _ hi) (hf i trail a hl hi) hreplay

/-- **What serial transactions preserve holds throughout a fresh run.** The invariant may speak of
the state and of which sessions have committed with what result. -/
theorem FreshRun.induction {progs : ι → Prog σ ω ε α} {I : σ → (ι → Option α) → Prop}
    (hserial : ∀ s o i a s', I s o → o i = none → (progs i).run s = .ok (a, s') →
      I s' (Function.update o i (some a)))
    {c : Config ι σ ω ε α} (hc : c.Sound progs) (hI : I c.db c.outcomes) {labels : List (Label ι)}
    (hrun : FreshRun progs c labels) : I (c.exec labels).db (c.exec labels).outcomes := by
  induction labels generalizing c with
  | nil => exact hI
  | cons l ls ih =>
    refine ih (hc.step l) ?_ hrun.2
    rcases Fresh.step_cases hc hrun.1 with ⟨hdb, hout⟩ | ⟨i, a, hi, hrun', hout⟩
    · rwa [hdb, hout]
    · rw [hout]
      exact hserial c.db c.outcomes i a _ hI hi hrun'

/-! ### Serial interleavings -/

omit [DecidableEq ι] [Fintype ι] [DecidableEq κ] in
/-- Nobody has read anything that is not so. -/
def Exact (c : Config ι σ ω ε α) : Prop :=
  ∀ i trail rest, c.session i = .running trail rest → Accurate trail c.db

/-- If the step is a commit, then no other transaction is under way. -/
def alone (c : Config ι σ ω ε α) : Label ι → Bool
  | .abort _ => true
  | .go i =>
    match c.session i with
    | .running _ (.ret _) => decide (∀ j, j ≠ i → (c.session j).idle = true)
    | _ => true

/-- No transaction is under way when another one commits. -/
def Serial : Config ι σ ω ε α → List (Label ι) → Bool
  | _, [] => true
  | c, l :: ls => c.alone l && Serial (c.step l) ls

omit [DecidableEq ι] [Fintype ι] [DecidableEq κ] in
theorem exact_start (progs : ι → Prog σ ω ε α) (db : σ) : (start progs db).Exact := by
  rintro i trail rest h
  cases h
  trivial

omit [Fintype ι] [DecidableEq κ] in
theorem Exact.setPhase {c : Config ι σ ω ε α} (hc : c.Exact) {i : ι} {p : Phase σ ω ε α}
    (hp : ∀ trail rest, p = .running trail rest → Accurate trail c.db) :
    (c.setPhase i p).Exact := by
  intro j trail rest h
  by_cases hj : j = i
  · subst hj
    exact hp trail rest (by simpa [Config.setPhase] using h)
  · exact hc j trail rest (by simpa [Config.setPhase, hj] using h)

/-- **A step that commits alone leaves everybody's reads accurate.** -/
theorem Exact.step {c : Config ι σ ω ε α} (hc : c.Exact) {l : Label ι} (ha : c.alone l = true) :
    (c.step l).Exact := by
  cases l with
  | abort i =>
    rw [Config.step]
    split
    · exact hc.setPhase fun _ _ h ↦ by cases h
    · exact hc
  | go i =>
    rw [Config.step]
    split
    swap
    · exact hc
    next trail rest hi =>
    split
    swap
    · exact hc.setPhase fun _ _ h ↦ by cases h
    next view hview =>
    cases rest with
    | ret a =>
      -- The others have read nothing.
      rw [alone, hi] at ha
      intro j trail' rest' hj
      by_cases hji : j = i
      · subst hji
        simp [Config.statement, Config.setPhase] at hj
      · have hj' : c.session j = .running trail' rest' := by
          simpa [Config.statement, Config.setPhase, hji] using hj
        have hidle := of_decide_eq_true ha j hji
        rw [hj', Phase.idle, List.isEmpty_iff] at hidle
        rw [hidle]
        trivial
    | raise e => exact hc.setPhase fun _ _ h ↦ by cases h
    | select k =>
      refine hc.setPhase fun trail' rest' h ↦ ?_
      cases h
      exact (hc i trail _ hi).read hview
    | write w g k =>
      rw [Config.statement]
      split
      · exact hc
      split
      · refine hc.setPhase fun trail' rest' h ↦ ?_
        cases h
        exact (hc i trail _ hi).wrote w
      · exact hc.setPhase fun _ _ h ↦ by cases h

/-- **A serial interleaving is fresh.** -/
theorem freshRun_of_serial {progs : ι → Prog σ ω ε α} {c : Config ι σ ω ε α}
    (hc : c.Sound progs) (hexact : c.Exact) {labels : List (Label ι)}
    (h : c.Serial labels = true) : FreshRun progs c labels := by
  induction labels generalizing c with
  | nil => trivial
  | cons l ls ih =>
    obtain ⟨ha, hs⟩ := Bool.and_eq_true_iff.1 h
    refine ⟨fun i trail a _ hi ↦ ?_, ih (hc.step l) (hexact.step ha) hs⟩
    exact (hexact i trail _ hi).stillValid (hc i trail _ hi)

/-! ### Histories -/

/-- The committed states of an interleaving, oldest first. -/
def history (c : Config ι σ ω ε α) : List (Label ι) → List σ
  | [] => [c.db]
  | l :: ls => c.db :: history (c.step l) ls

theorem history_eq_cons (c : Config ι σ ω ε α) (labels : List (Label ι)) :
    ∃ t, c.history labels = c.db :: t := by
  cases labels with
  | nil => exact ⟨[], rfl⟩
  | cons l ls => exact ⟨_, rfl⟩

/-- **The committed states of a fresh run form a path**: consecutive ones are related by whatever
every serial transaction from an invariant state guarantees between its two ends. -/
theorem FreshRun.isChain_history {progs : ι → Prog σ ω ε α} {I : σ → Prop} {R : σ → σ → Prop}
    (hrefl : ∀ s, R s s)
    (hserial : ∀ s i a s', I s → (progs i).run s = .ok (a, s') → R s s' ∧ I s')
    {c : Config ι σ ω ε α} (hc : c.Sound progs) (hI : I c.db) {labels : List (Label ι)}
    (hrun : FreshRun progs c labels) : (c.history labels).IsChain R := by
  induction labels generalizing c with
  | nil => exact List.IsChain.singleton _
  | cons l ls ih =>
    have hstep : R c.db (c.step l).db ∧ I (c.step l).db := by
      rcases Fresh.step_cases hc hrun.1 with ⟨hdb, -⟩ | ⟨i, a, -, hrun', -⟩
      · rw [hdb]
        exact ⟨hrefl _, hI⟩
      · exact hserial c.db i a _ hI hrun'
    have htail := ih (hc.step l) hstep.2 hrun.2
    obtain ⟨t, ht⟩ := history_eq_cons (c.step l) ls
    rw [history, ht]
    rw [ht] at htail
    exact List.isChain_cons_cons.2 ⟨hstep.1, htail⟩

end Config

end ZanovixCrm
