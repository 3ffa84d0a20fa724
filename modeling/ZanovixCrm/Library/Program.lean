import Mathlib.Data.List.Basic

/-!
# Transaction programs

A request handler that talks to a database is a sequence of statements: a `SELECT` whose answer
decides what comes next, a write that the database accepts or refuses, an exception, a result.
`Prog` is exactly that tree, so one definition of a handler has two meanings:

* `run` executes all of its statements on one state, with nobody else around, and `transact` commits
  the outcome or rolls it back;
* `ReadCommitted` interleaves the statements of many programs.

The statements themselves are a parameter: `Store` says what a write does to a state, when it is
refused, and which locks it takes.

**Ways to reason about `run`.** `Ensures` is partial correctness with one `simp` rule for each
constructor, so that a handler's specification is read off its text, `Refuses` is its counterpart
for the exceptions, and `Raises` says that there is one; `Emits` bounds the writes a program can
perform *whatever its reads return*, and therefore speaks about every interleaving as well. `Agrees`
compares the outcomes of one program on two states.
-/

namespace ZanovixCrm

/-- Writes `ω` on states `σ`, refused with an error in `ε`, locking names in `κ`. -/
class Store (σ : Type) (ω ε κ : outParam Type) where
  /-- Perform a write. -/
  apply : ω → σ → Except ε σ
  /-- The locks a write holds until its transaction ends. -/
  locks : ω → List κ

/-- A transaction program: what a handler does between `BEGIN` and `COMMIT`. A `write` carries the
translation that the handler applies to the error of that statement. -/
inductive Prog (σ ω ε α : Type) where
  /-- Return. -/
  | ret (a : α)
  /-- Raise. -/
  | raise (e : ε)
  /-- Read the state. -/
  | select (k : σ → Prog σ ω ε α)
  /-- Perform a write, translating its error. -/
  | write (w : ω) (onError : ε → ε) (k : Prog σ ω ε α)

namespace Prog

variable {σ ω ε κ α β γ : Type}

/-- Sequential composition. -/
def bind : Prog σ ω ε α → (α → Prog σ ω ε β) → Prog σ ω ε β
  | .ret a, f => f a
  | .raise e, _ => .raise e
  | .select k, f => .select fun s ↦ (k s).bind f
  | .write w h k, f => .write w h (k.bind f)

instance : Monad (Prog σ ω ε) where
  pure := .ret
  bind := .bind

@[simp] theorem pure_eq (a : α) : (pure a : Prog σ ω ε α) = .ret a := rfl

@[simp] theorem ret_bind (a : α) (f : α → Prog σ ω ε β) : (Prog.ret a >>= f) = f a := rfl

@[simp] theorem raise_bind (e : ε) (f : α → Prog σ ω ε β) : (Prog.raise e >>= f) = .raise e := rfl

@[simp] theorem select_bind (k : σ → Prog σ ω ε α) (f : α → Prog σ ω ε β) :
    (Prog.select k >>= f) = .select fun s ↦ k s >>= f := rfl

@[simp] theorem write_bind (w : ω) (h : ε → ε) (k : Prog σ ω ε α) (f : α → Prog σ ω ε β) :
    (Prog.write w h k >>= f) = .write w h (k >>= f) := rfl

/-- A `SELECT` that returns `q` of the state. -/
def query (q : σ → α) : Prog σ ω ε α := .select fun s ↦ .ret (q s)

/-- A single write. -/
def exec (w : ω) : Prog σ ω ε Unit := .write w id (.ret ())

/-- A list of writes, in order. -/
def execAll : List ω → Prog σ ω ε Unit
  | [] => .ret ()
  | w :: ws => .write w id (execAll ws)

/-- Go on, or raise. -/
def require (c : Bool) (e : ε) : Prog σ ω ε Unit := if c then .ret () else .raise e

/-- The value of an option, or raise. -/
def demand (o : Option α) (e : ε) : Prog σ ω ε α :=
  match o with
  | some a => .ret a
  | none => .raise e

/-- The value of a computation that may fail. -/
def liftExcept : Except ε α → Prog σ ω ε α
  | .ok a => .ret a
  | .error e => .raise e

/-- Translate every exception of a program (`try … except … raise`). -/
def mapError (g : ε → ε) : Prog σ ω ε α → Prog σ ω ε α
  | .ret a => .ret a
  | .raise e => .raise (g e)
  | .select k => .select fun s ↦ (k s).mapError g
  | .write w h k => .write w (g ∘ h) (k.mapError g)

section Run

variable [Store σ ω ε κ]

/-! ### Execution in isolation -/

/-- Execute a program on a state, alone. -/
def run : Prog σ ω ε α → σ → Except ε (α × σ)
  | .ret a, s => .ok (a, s)
  | .raise e, _ => .error e
  | .select k, s => (k s).run s
  | .write w h k, s =>
    match Store.apply w s with
    | .ok s' => k.run s'
    | .error e => .error (h e)

/-- Execute a program and commit, or roll back if it raised. -/
def transact (m : Prog σ ω ε α) (s : σ) : Except ε α × σ :=
  match m.run s with
  | .ok (a, s') => (.ok a, s')
  | .error e => (.error e, s)

@[simp] theorem run_ret (a : α) (s : σ) : (Prog.ret a : Prog σ ω ε α).run s = .ok (a, s) := rfl

@[simp] theorem run_raise (e : ε) (s : σ) :
    (Prog.raise e : Prog σ ω ε α).run s = .error e := rfl

@[simp] theorem run_select (k : σ → Prog σ ω ε α) (s : σ) :
    (Prog.select k).run s = (k s).run s := rfl

theorem run_write (w : ω) (h : ε → ε) (k : Prog σ ω ε α) (s : σ) :
    (Prog.write w h k).run s =
      match Store.apply w s with
      | .ok s' => k.run s'
      | .error e => .error (h e) := rfl

theorem run_write_ok {w : ω} {s s' : σ} (hw : Store.apply w s = .ok s') (h : ε → ε)
    (k : Prog σ ω ε α) : (Prog.write w h k).run s = k.run s' := by
  rw [run_write, hw]

theorem run_bind (m : Prog σ ω ε α) (f : α → Prog σ ω ε β) (s : σ) :
    (m >>= f).run s =
      match m.run s with
      | .ok (a, s') => (f a).run s'
      | .error e => .error e := by
  induction m generalizing s with
  | ret a => rfl
  | raise e => rfl
  | select k ih => exact ih s s
  | write w h k ih =>
    rw [write_bind, run_write, run_write]
    rcases Store.apply w s with e | s'
    · rfl
    · exact ih s'

theorem run_bind_ok {m : Prog σ ω ε α} {s s' : σ} {a : α} (h : m.run s = .ok (a, s'))
    (f : α → Prog σ ω ε β) : (m >>= f).run s = (f a).run s' := by
  rw [run_bind, h]

theorem run_bind_error {m : Prog σ ω ε α} {s : σ} {e : ε} (h : m.run s = .error e)
    (f : α → Prog σ ω ε β) : (m >>= f).run s = .error e := by
  rw [run_bind, h]

@[simp] theorem run_query (q : σ → α) (s : σ) :
    (query q : Prog σ ω ε α).run s = .ok (q s, s) := rfl

/-- A lookup that finds something. -/
theorem run_lookup_some {q : σ → Option α} (s : σ) {a : α} (h : q s = some a) (e : ε) :
    (query q >>= fun o ↦ demand o e : Prog σ ω ε α).run s = .ok (a, s) := by
  rw [run_bind_ok (run_query q s), h]
  rfl

/-- A lookup that finds nothing. -/
theorem run_lookup_none {q : σ → Option α} (s : σ) (h : q s = none) (e : ε) :
    (query q >>= fun o ↦ demand o e : Prog σ ω ε α).run s = .error e := by
  rw [run_bind_ok (run_query q s), h]
  rfl

theorem run_mapError (g : ε → ε) (m : Prog σ ω ε α) (s : σ) :
    (m.mapError g).run s =
      match m.run s with
      | .ok r => .ok r
      | .error e => .error (g e) := by
  induction m generalizing s with
  | ret a => rfl
  | raise e => rfl
  | select k ih => exact ih s s
  | write w h k ih =>
    rw [mapError, run_write, run_write]
    rcases Store.apply w s with e | s'
    · rfl
    · exact ih s'

theorem transact_of_ok {m : Prog σ ω ε α} {s s' : σ} {a : α} (h : m.run s = .ok (a, s')) :
    m.transact s = (.ok a, s') := by
  rw [transact, h]

theorem transact_of_error {m : Prog σ ω ε α} {s : σ} {e : ε} (h : m.run s = .error e) :
    m.transact s = (.error e, s) := by
  rw [transact, h]

/-- **A transaction either commits its run or leaves the state alone.** -/
theorem transact_cases (m : Prog σ ω ε α) (s : σ) :
    (∃ a s', m.run s = .ok (a, s') ∧ m.transact s = (.ok a, s')) ∨
      ∃ e, m.run s = .error e ∧ m.transact s = (.error e, s) := by
  rcases h : m.run s with e | ⟨a, s'⟩
  · exact Or.inr ⟨e, rfl, transact_of_error h⟩
  · exact Or.inl ⟨a, s', rfl, transact_of_ok h⟩

theorem transact_eq_error_iff {m : Prog σ ω ε α} {s s' : σ} {e : ε} :
    m.transact s = (.error e, s') ↔ m.run s = .error e ∧ s' = s := by
  rcases m.transact_cases s with ⟨a, s₁, hr, ht⟩ | ⟨e', hr, ht⟩
  · rw [ht, hr]
    simp
  · rw [ht, hr]
    simp [eq_comm]

/-! ### Two runs -/

/-- The program returns or raises the same on both states. -/
def Agrees (m : Prog σ ω ε α) (s s' : σ) : Prop := (m.transact s).1 = (m.transact s').1

section Agrees

variable {s s' : σ}

@[simp] theorem agrees_ret (a : α) : (Prog.ret a : Prog σ ω ε α).Agrees s s' := rfl

@[simp] theorem agrees_raise (e : ε) : (Prog.raise e : Prog σ ω ε α).Agrees s s' := rfl

theorem agrees_iff {m : Prog σ ω ε α} :
    m.Agrees s s' ↔ (m.run s).map Prod.fst = (m.run s').map Prod.fst := by
  have hfst : ∀ t, (m.transact t).1 = (m.run t).map Prod.fst := by
    intro t
    rw [transact]
    rcases m.run t with e | ⟨a, t'⟩ <;> rfl
  rw [Agrees, hfst, hfst]

theorem agrees_query {q : σ → α} (hq : q s = q s') : (query q : Prog σ ω ε α).Agrees s s' :=
  congrArg Except.ok hq

@[simp] theorem agrees_demand {o : Option α} {e : ε} :
    (demand o e : Prog σ ω ε α).Agrees s s' := by
  cases o <;> rfl

/-- What follows may run on any two states, since it does not look at them. -/
theorem Agrees.bind {m : Prog σ ω ε α} {f : α → Prog σ ω ε β} (hm : m.Agrees s s')
    (hf : ∀ a t t', (f a).Agrees t t') : (m >>= f).Agrees s s' := by
  rw [agrees_iff] at hm ⊢
  rcases hs : m.run s with e | ⟨a, t⟩ <;> rcases hs' : m.run s' with e' | ⟨a', t'⟩ <;>
    rw [hs, hs'] at hm
  · rw [run_bind_error hs, run_bind_error hs']
    exact congrArg Except.error (Except.error.inj hm)
  · exact nomatch hm
  · exact nomatch hm
  · obtain rfl : a = a' := Except.ok.inj hm
    rw [run_bind_ok hs, run_bind_ok hs']
    exact agrees_iff.1 (hf a t t')

/-- A query that has the same answer on both states. -/
theorem Agrees.query_bind {q : σ → α} {f : α → Prog σ ω ε β} (hq : q s = q s')
    (hf : (f (q s)).Agrees s s') : (query q >>= f).Agrees s s' := by
  unfold Agrees transact at hf ⊢
  rw [run_bind_ok (run_query q s), run_bind_ok (run_query q s'), ← hq]
  exact hf

theorem Agrees.liftExcept_bind {x : Except ε α} {f : α → Prog σ ω ε β}
    (hf : ∀ a, x = .ok a → (f a).Agrees s s') : (liftExcept x >>= f).Agrees s s' := by
  rcases x with e | a
  · exact agrees_raise e
  · exact hf a rfl

theorem Agrees.demand_bind {o : Option α} {e : ε} {f : α → Prog σ ω ε β}
    (hf : ∀ a, o = some a → (f a).Agrees s s') : (demand o e >>= f).Agrees s s' := by
  rcases o with - | a
  · exact agrees_raise e
  · exact hf a rfl

theorem Agrees.require_bind {c : Bool} {e : ε} {f : Unit → Prog σ ω ε β}
    (hf : c = true → (f ()).Agrees s s') : (require c e >>= f).Agrees s s' := by
  rcases c with - | -
  · exact agrees_raise e
  · exact hf rfl

end Agrees

/-! ### Partial correctness -/

/-- Every successful run from `s` ends with a result and a state that satisfy `Q`. -/
def Ensures (m : Prog σ ω ε α) (s : σ) (Q : α → σ → Prop) : Prop :=
  ∀ a s', m.run s = .ok (a, s') → Q a s'

@[simp] theorem ensures_ret {a : α} {s : σ} {Q : α → σ → Prop} :
    (Prog.ret a : Prog σ ω ε α).Ensures s Q ↔ Q a s := by
  constructor
  · exact fun h ↦ h a s rfl
  · rintro h a' s' heq
    cases heq
    exact h

@[simp] theorem ensures_raise {e : ε} {s : σ} {Q : α → σ → Prop} :
    (Prog.raise e : Prog σ ω ε α).Ensures s Q := by
  intro a s' h
  cases h

@[simp] theorem ensures_select {k : σ → Prog σ ω ε α} {s : σ} {Q : α → σ → Prop} :
    (Prog.select k).Ensures s Q ↔ (k s).Ensures s Q := Iff.rfl

@[simp] theorem ensures_write {w : ω} {h : ε → ε} {k : Prog σ ω ε α} {s : σ}
    {Q : α → σ → Prop} :
    (Prog.write w h k).Ensures s Q ↔ ∀ s', Store.apply w s = .ok s' → k.Ensures s' Q := by
  constructor
  · intro hm s' hw a s'' hr
    exact hm a s'' ((run_write_ok hw h k).trans hr)
  · intro hm a s'' hr
    rw [run_write] at hr
    rcases hw : Store.apply w s with e | s'
    · rw [hw] at hr; cases hr
    · rw [hw] at hr; exact hm s' hw a s'' hr

@[simp] theorem ensures_bind {m : Prog σ ω ε α} {f : α → Prog σ ω ε β} {s : σ}
    {Q : β → σ → Prop} :
    (m >>= f).Ensures s Q ↔ m.Ensures s fun a s' ↦ (f a).Ensures s' Q := by
  constructor
  · intro h a s' hm b s'' hf
    exact h b s'' ((run_bind_ok hm f).trans hf)
  · intro h b s'' hr
    rcases hm : m.run s with e | ⟨a, s'⟩
    · rw [run_bind_error hm] at hr; cases hr
    · rw [run_bind_ok hm] at hr
      exact h a s' hm b s'' hr

@[simp] theorem ensures_query {q : σ → α} {s : σ} {Q : α → σ → Prop} :
    (query q : Prog σ ω ε α).Ensures s Q ↔ Q (q s) s := by
  simp [query]

@[simp] theorem ensures_exec {w : ω} {s : σ} {Q : Unit → σ → Prop} :
    (exec w : Prog σ ω ε Unit).Ensures s Q ↔ ∀ s', Store.apply w s = .ok s' → Q () s' := by
  simp [exec]

@[simp] theorem ensures_require {c : Bool} {e : ε} {s : σ} {Q : Unit → σ → Prop} :
    (require c e : Prog σ ω ε Unit).Ensures s Q ↔ (c = true → Q () s) := by
  cases c <;> simp [require]

@[simp] theorem ensures_demand {o : Option α} {e : ε} {s : σ} {Q : α → σ → Prop} :
    (demand o e : Prog σ ω ε α).Ensures s Q ↔ ∀ a, o = some a → Q a s := by
  cases o <;> simp [demand]

@[simp] theorem ensures_liftExcept {x : Except ε α} {s : σ} {Q : α → σ → Prop} :
    (liftExcept x : Prog σ ω ε α).Ensures s Q ↔ ∀ a, x = .ok a → Q a s := by
  cases x <;> simp [liftExcept]

@[simp] theorem ensures_mapError {m : Prog σ ω ε α} {g : ε → ε} {s : σ} {Q : α → σ → Prop} :
    (m.mapError g).Ensures s Q ↔ m.Ensures s Q := by
  have hrun : ∀ a s', (m.mapError g).run s = .ok (a, s') ↔ m.run s = .ok (a, s') := by
    intro a s'
    rw [run_mapError]
    rcases m.run s with e | r <;> simp
  simp only [Ensures, hrun]

theorem Ensures.mono {m : Prog σ ω ε α} {s : σ} {Q Q' : α → σ → Prop} (h : m.Ensures s Q)
    (hQ : ∀ a s', Q a s' → Q' a s') : m.Ensures s Q' :=
  fun a s' hr ↦ hQ a s' (h a s' hr)

/-- What a program ensures at its end, whatever came before. -/
theorem Ensures.last {m : Prog σ ω ε α} {f : α → Prog σ ω ε β} {Q : β → σ → Prop}
    (h : ∀ a s, (f a).Ensures s Q) (s : σ) : (m >>= f).Ensures s Q :=
  ensures_bind.2 fun a s' _ ↦ h a s'

/-- What a program ensures of its result carries over to the answer that is made of it. -/
theorem Ensures.bind_pure {m : Prog σ ω ε α} {f : α → β} {s : σ} {P : α → σ → Prop}
    {Q : β → σ → Prop} (h : m.Ensures s P) (hf : ∀ a s', P a s' → Q (f a) s') :
    (m >>= fun a ↦ pure (f a)).Ensures s Q :=
  ensures_bind.2 (h.mono fun a s' ha ↦ ensures_ret.2 (hf a s' ha))

/-- Every exception that ends a run from `s` satisfies `P`. -/
def Refuses (m : Prog σ ω ε α) (s : σ) (P : ε → Prop) : Prop := ∀ e, m.run s = .error e → P e

section Refuses

variable {s : σ} {P : ε → Prop}

@[simp] theorem refuses_ret {a : α} : (Prog.ret a : Prog σ ω ε α).Refuses s P :=
  fun _ h ↦ nomatch h

@[simp] theorem refuses_raise {e : ε} : (Prog.raise e : Prog σ ω ε α).Refuses s P ↔ P e :=
  ⟨fun h ↦ h e rfl, fun h _ he ↦ Except.error.inj he ▸ h⟩

@[simp] theorem refuses_query {q : σ → α} : (query q : Prog σ ω ε α).Refuses s P :=
  fun _ h ↦ nomatch h

@[simp] theorem refuses_require {c : Bool} {e : ε} :
    (require c e : Prog σ ω ε Unit).Refuses s P ↔ (c = false → P e) := by
  cases c <;> simp [require]

@[simp] theorem refuses_demand {o : Option α} {e : ε} :
    (demand o e : Prog σ ω ε α).Refuses s P ↔ (o = none → P e) := by
  cases o <;> simp [demand]

@[simp] theorem refuses_liftExcept {x : Except ε α} :
    (liftExcept x : Prog σ ω ε α).Refuses s P ↔ ∀ e, x = .error e → P e := by
  cases x <;> simp [liftExcept]

@[simp] theorem refuses_exec {w : ω} :
    (exec w : Prog σ ω ε Unit).Refuses s P ↔ ∀ e, Store.apply w s = .error e → P e := by
  have hrun : ∀ e, (exec w : Prog σ ω ε Unit).run s = .error e ↔ Store.apply w s = .error e := by
    intro e
    rw [exec, run_write]
    rcases Store.apply w s with e' | s' <;> simp
  simp only [Refuses, hrun]

@[simp] theorem refuses_mapError {m : Prog σ ω ε α} {g : ε → ε} :
    (m.mapError g).Refuses s P ↔ m.Refuses s fun e ↦ P (g e) := by
  simp only [Refuses, run_mapError]
  rcases m.run s with e | r <;> simp

/-- An exception of a composition comes from the first part, or from what follows a success. -/
@[simp] theorem refuses_bind {m : Prog σ ω ε α} {f : α → Prog σ ω ε β} :
    (m >>= f).Refuses s P ↔ m.Refuses s P ∧ m.Ensures s fun a s' ↦ (f a).Refuses s' P := by
  constructor
  · intro h
    exact ⟨fun e he ↦ h e (run_bind_error he f),
      fun a s' hm e he ↦ h e ((run_bind_ok hm f).trans he)⟩
  · rintro ⟨hm, hf⟩ e he
    rcases hr : m.run s with e' | ⟨a, s'⟩
    · rw [run_bind_error hr] at he
      exact Except.error.inj he ▸ hm e' hr
    · rw [run_bind_ok hr] at he
      exact hf a s' hr e he

theorem Refuses.bind {m : Prog σ ω ε α} {f : α → Prog σ ω ε β} (hm : m.Refuses s P)
    (hf : ∀ a s', (f a).Refuses s' P) : (m >>= f).Refuses s P :=
  refuses_bind.2 ⟨hm, fun a s' _ ↦ hf a s'⟩

end Refuses

/-- The run from `s` ends with an exception that satisfies `P`. -/
def Raises (m : Prog σ ω ε α) (s : σ) (P : ε → Prop) : Prop := ∃ e, m.run s = .error e ∧ P e

section Raises

variable {s : σ} {P : ε → Prop}

@[simp] theorem raises_raise {e : ε} : (Prog.raise e : Prog σ ω ε α).Raises s P ↔ P e := by
  constructor
  · rintro ⟨e', he, h⟩
    exact Except.error.inj he ▸ h
  · exact fun h ↦ ⟨e, rfl, h⟩

/-- A program raises `P` if it cannot succeed and all of its exceptions are `P`. -/
theorem Raises.of_refuses {m : Prog σ ω ε α} (h : m.Ensures s fun _ _ ↦ False)
    (hP : m.Refuses s P) : m.Raises s P := by
  rcases hr : m.run s with e | ⟨a, s'⟩
  · exact ⟨e, hr, hP e hr⟩
  · exact (h a s' hr).elim

/-- The first part raises. -/
theorem Raises.bind {m : Prog σ ω ε α} (hm : m.Raises s P) (f : α → Prog σ ω ε β) :
    (m >>= f).Raises s P := by
  obtain ⟨e, he, h⟩ := hm
  exact ⟨e, run_bind_error he f, h⟩

/-- The first part succeeds, and what follows raises. -/
@[simp] theorem raises_query_bind {q : σ → α} {f : α → Prog σ ω ε β} :
    (query q >>= f).Raises s P ↔ (f (q s)).Raises s P := by
  simp only [Raises, run_bind_ok (run_query q s)]

@[simp] theorem raises_require {c : Bool} {e : ε} :
    (require c e : Prog σ ω ε Unit).Raises s P ↔ c = false ∧ P e := by
  rcases c with - | -
  · simp [require]
  · exact iff_of_false (fun ⟨_, h, _⟩ ↦ nomatch h) (fun h ↦ nomatch h.1)

@[simp] theorem raises_demand {o : Option α} {e : ε} :
    (demand o e : Prog σ ω ε α).Raises s P ↔ o = none ∧ P e := by
  rcases o with - | a
  · simp [demand]
  · exact iff_of_false (fun ⟨_, h, _⟩ ↦ nomatch h) (fun h ↦ nomatch h.1)

/-- A requirement raises, or what follows it does. -/
theorem raises_require_bind {c : Bool} {e : ε} {f : Unit → Prog σ ω ε α} :
    (require c e >>= f).Raises s P ↔ c = false ∧ P e ∨ c = true ∧ (f ()).Raises s P := by
  rcases c with - | - <;> simp [require]

/-- A row is looked up: it is missing, or what follows raises. -/
theorem raises_found_bind {q : σ → Option α} {e : ε} {f : α → Prog σ ω ε β} :
    (query q >>= fun o ↦ demand o e >>= f).Raises s P ↔
      q s = none ∧ P e ∨ ∃ a, q s = some a ∧ (f a).Raises s P := by
  rw [raises_query_bind]
  rcases q s with - | a <;> simp [demand]

/-- The same, where the lookup is a program of its own. -/
theorem raises_lookup_bind {q : σ → Option α} {e : ε} {f : α → Prog σ ω ε β} :
    ((query q >>= fun o ↦ demand o e : Prog σ ω ε α) >>= f).Raises s P ↔
      q s = none ∧ P e ∨ ∃ a, q s = some a ∧ (f a).Raises s P := by
  rw [← raises_found_bind]
  exact Iff.rfl

@[simp] theorem raises_mapError {m : Prog σ ω ε α} {g : ε → ε} :
    (m.mapError g).Raises s P ↔ m.Raises s fun e ↦ P (g e) := by
  simp only [Raises, run_mapError]
  rcases m.run s with e | r <;> simp

end Raises

/-- A transaction keeps an invariant if every successful run does. -/
theorem transact_induction {m : Prog σ ω ε α} {s : σ} {I : σ → Prop} (hs : I s)
    (h : m.Ensures s fun _ s' ↦ I s') : I (m.transact s).2 := by
  rcases m.transact_cases s with ⟨a, s', hr, ht⟩ | ⟨e, -, ht⟩
  · rw [ht]; exact h a s' hr
  · rw [ht]; exact hs

end Run

/-! ### Bounding the writes -/

/-- Every write the program can reach satisfies `P`, whatever its reads return. -/
def Emits (P : ω → Prop) : Prog σ ω ε α → Prop
  | .ret _ => True
  | .raise _ => True
  | .select k => ∀ s, (k s).Emits P
  | .write w _ k => P w ∧ k.Emits P

variable {P : ω → Prop}

@[simp] theorem emits_ret {a : α} : (Prog.ret a : Prog σ ω ε α).Emits P := trivial

@[simp] theorem emits_raise {e : ε} : (Prog.raise e : Prog σ ω ε α).Emits P := trivial

@[simp] theorem emits_select {k : σ → Prog σ ω ε α} :
    (Prog.select k).Emits P ↔ ∀ s, (k s).Emits P := Iff.rfl

@[simp] theorem emits_write {w : ω} {h : ε → ε} {k : Prog σ ω ε α} :
    (Prog.write w h k).Emits P ↔ P w ∧ k.Emits P := Iff.rfl

/-- The writes of a composition, given those of its parts. -/
theorem Emits.bind {m : Prog σ ω ε α} {f : α → Prog σ ω ε β} (hm : m.Emits P)
    (hf : ∀ a, (f a).Emits P) : (m >>= f).Emits P := by
  induction m with
  | ret a => exact hf a
  | raise e => trivial
  | select k ih => exact fun s ↦ ih s (hm s)
  | write w h k ih => exact ⟨hm.1, ih hm.2⟩

theorem Emits.mapError {m : Prog σ ω ε α} (g : ε → ε) (hm : m.Emits P) :
    (m.mapError g).Emits P := by
  induction m with
  | ret a => trivial
  | raise e => trivial
  | select k ih => exact fun s ↦ ih s (hm s)
  | write w h k ih => exact ⟨hm.1, ih hm.2⟩

theorem Emits.mono {Q : ω → Prop} {m : Prog σ ω ε α} (hm : m.Emits P) (h : ∀ w, P w → Q w) :
    m.Emits Q := by
  induction m with
  | ret a => trivial
  | raise e => trivial
  | select k ih => exact fun s ↦ ih s (hm s)
  | write w g k ih => exact ⟨h w hm.1, ih hm.2⟩

theorem Emits.of_forall (h : ∀ w, P w) (m : Prog σ ω ε α) : m.Emits P := by
  induction m with
  | ret a => trivial
  | raise e => trivial
  | select k ih => exact fun s ↦ ih s
  | write w g k ih => exact ⟨h w, ih⟩

@[simp] theorem emits_query {q : σ → α} : (query q : Prog σ ω ε α).Emits P := fun _ ↦ trivial

@[simp] theorem emits_exec {w : ω} : (exec w : Prog σ ω ε Unit).Emits P ↔ P w := by
  simp [exec]

@[simp] theorem emits_require {c : Bool} {e : ε} : (require c e : Prog σ ω ε Unit).Emits P := by
  cases c <;> simp [require]

@[simp] theorem emits_demand {o : Option α} {e : ε} : (demand o e : Prog σ ω ε α).Emits P := by
  cases o <;> simp [demand]

@[simp] theorem emits_liftExcept {x : Except ε α} :
    (liftExcept x : Prog σ ω ε α).Emits P := by
  cases x <;> simp [liftExcept]

@[simp] theorem emits_execAll {ws : List ω} :
    (execAll ws : Prog σ ω ε Unit).Emits P ↔ ∀ w ∈ ws, P w := by
  induction ws with
  | nil => simp [execAll]
  | cons w ws ih => simp [execAll, ih]

/-- **What the writes preserve, the transaction preserves.** -/
theorem Emits.invariant [Store σ ω ε κ] {m : Prog σ ω ε α} (hm : m.Emits P) {R : σ → Prop}
    (hR : ∀ w s s', P w → R s → Store.apply w s = .ok s' → R s') {s : σ} (hs : R s) :
    m.Ensures s fun _ s' ↦ R s' := by
  induction m generalizing s with
  | ret a => exact ensures_ret.2 hs
  | raise e => exact ensures_raise
  | select k ih => exact ih s (hm s) hs
  | write w h k ih =>
    exact ensures_write.2 fun s' hw ↦ ih hm.2 (hR w s s' hm.1 hs hw)

end Prog

end ZanovixCrm
