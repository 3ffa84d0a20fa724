import Mathlib.Data.List.Perm.Subperm
import ZanovixCrm.Library.Transitions

/-!
# Clients of a server

Calls that talk to a server: a call sends a command, goes on with the answer or with the failure of
the connection, and ends with a result or an exception. Any number of calls may be under way, and
the server executes one command at a time. A command that is sent may be executed and its answer
lost; then it may be executed again, or the call is told that it has failed.

`step` is a function of an event, so a run is a list of events. Two facts hold at every moment of
every run. Each call stands where its program gets by answers that the server has given (`Follows`),
and each command that the server has executed is one that a call sends there (`reached_run`). And
**what the results of the calls hold was handed out by the server**, as often as that
(`yielded_run`): no answer counts for two calls.
-/

namespace ZanovixCrm

/-- What a call does: commands `κ`, answers `ρ`, failures `δ`, exceptions `ε` and a result. -/
inductive ClientProgram (κ ρ δ ε α : Type) where
  | ret (a : α)
  | raise (e : ε)
  | send (c : κ) (k : Except δ ρ → ClientProgram κ ρ δ ε α)

namespace ClientProgram

variable {κ ρ δ ε α β : Type}

/-- Sequential composition. -/
def bind : ClientProgram κ ρ δ ε α → (α → ClientProgram κ ρ δ ε β) → ClientProgram κ ρ δ ε β
  | .ret a, f => f a
  | .raise e, _ => .raise e
  | .send c k, f => .send c fun r ↦ (k r).bind f

/-- The result, as another one. -/
def map (f : α → β) (p : ClientProgram κ ρ δ ε α) : ClientProgram κ ρ δ ε β := p.bind (.ret ∘ f)

theorem bind_assoc {γ : Type} (p : ClientProgram κ ρ δ ε α) (f : α → ClientProgram κ ρ δ ε β)
    (g : β → ClientProgram κ ρ δ ε γ) : (p.bind f).bind g = p.bind fun a ↦ (f a).bind g := by
  induction p with
  | ret a => rfl
  | raise e => rfl
  | send c k ih => exact congrArg (ClientProgram.send c) (funext ih)

/-- `Follows log p q`: answers in the log, and failures, take `p` to `q`. -/
inductive Follows (log : List (κ × ρ)) (p : ClientProgram κ ρ δ ε α) :
    ClientProgram κ ρ δ ε α → Prop
  | refl : Follows log p p
  | answer {c : κ} {k : Except δ ρ → ClientProgram κ ρ δ ε α} {r : ρ} :
    Follows log p (.send c k) → (c, r) ∈ log → Follows log p (k (.ok r))
  | failure {c : κ} {k : Except δ ρ → ClientProgram κ ρ δ ε α} (e : δ) :
    Follows log p (.send c k) → Follows log p (k (.error e))

variable {log log' : List (κ × ρ)} {p q : ClientProgram κ ρ δ ε α}

theorem Follows.mono (h : Follows log p q) (hlog : log ⊆ log') : Follows log' p q := by
  induction h with
  | refl => exact .refl
  | answer _ hmem ih => exact .answer ih (hlog hmem)
  | failure e _ ih => exact .failure e ih

/-- A program that has ended stays there. -/
theorem Follows.eq_of_ret {a : α} (h : Follows log (.ret a) q) : q = .ret a := by
  induction h with
  | refl => rfl
  | answer _ _ ih => cases ih
  | failure _ _ ih => cases ih

theorem Follows.eq_of_raise {e : ε} (h : Follows log (.raise e) q) : q = .raise e := by
  induction h with
  | refl => rfl
  | answer _ _ ih => cases ih
  | failure _ _ ih => cases ih

/-- The first command of a program, and what comes after it. -/
theorem Follows.of_send {c : κ} {k : Except δ ρ → ClientProgram κ ρ δ ε α}
    (h : Follows log (.send c k) q) :
    q = .send c k ∨ (∃ r, (c, r) ∈ log ∧ Follows log (k (.ok r)) q) ∨
      ∃ e, Follows log (k (.error e)) q := by
  induction h with
  | refl => exact Or.inl rfl
  | @answer c' k' r _ hmem ih =>
    rcases ih with heq | ⟨r', hmem', hrest⟩ | ⟨e, hrest⟩
    · cases heq
      exact Or.inr (Or.inl ⟨r, hmem, .refl⟩)
    · exact Or.inr (Or.inl ⟨r', hmem', .answer hrest hmem⟩)
    · exact Or.inr (Or.inr ⟨e, .answer hrest hmem⟩)
  | @failure c' k' e _ ih =>
    rcases ih with heq | ⟨r', hmem', hrest⟩ | ⟨e', hrest⟩
    · cases heq
      exact Or.inr (Or.inr ⟨e, .refl⟩)
    · exact Or.inr (Or.inl ⟨r', hmem', .failure e hrest⟩)
    · exact Or.inr (Or.inr ⟨e', .failure e hrest⟩)

end ClientProgram

/-- Calls `χ` at work on a server `σ`. -/
structure ClientSystem (σ χ κ ρ δ ε α : Type) where
  server : σ
  /-- What the server has executed, oldest first. -/
  log : List (κ × ρ)
  /-- The calls that have been made, and where they are. -/
  calls : List (χ × ClientProgram κ ρ δ ε α)

/-- What may happen; `μ` is what the server takes from its surroundings. -/
inductive ClientEvent (μ χ δ : Type) where
  /-- A call is made. -/
  | start (c : χ)
  /-- The server executes the command of a call. The answer may not arrive. -/
  | execute (i : ℕ) (m : μ) (heard : Bool)
  /-- A call is told that its command has failed. -/
  | fail (i : ℕ) (e : δ)

namespace ClientSystem

variable {σ μ χ κ ρ δ ε α : Type} (exec : σ → μ → κ → ρ × σ)
  (program : χ → ClientProgram κ ρ δ ε α)

/-- One more event. An event that is not possible leaves everything as it is. -/
def step (s : ClientSystem σ χ κ ρ δ ε α) :
    ClientEvent μ χ δ → ClientSystem σ χ κ ρ δ ε α
  | .start c => { s with calls := s.calls ++ [(c, program c)] }
  | .execute i m heard =>
    match s.calls[i]? with
    | some (c, .send cmd k) =>
      { server := (exec s.server m cmd).2
        log := s.log ++ [(cmd, (exec s.server m cmd).1)]
        calls := if heard then s.calls.set i (c, k (.ok (exec s.server m cmd).1)) else s.calls }
    | _ => s
  | .fail i e =>
    match s.calls[i]? with
    | some (c, .send _ k) => { s with calls := s.calls.set i (c, k (.error e)) }
    | _ => s

/-- The system before any call, with this server. -/
def init (server : σ) : ClientSystem σ χ κ ρ δ ε α := ⟨server, [], []⟩

/-- **A run of the system.** -/
def run (server : σ) (events : List (ClientEvent μ χ δ)) : ClientSystem σ χ κ ρ δ ε α :=
  events.foldl (step exec program) (init server)

variable {exec program}
variable {s : ClientSystem σ χ κ ρ δ ε α} {server : σ}

variable (exec program) in
/-- **What an event can do.** -/
theorem step_cases (s : ClientSystem σ χ κ ρ δ ε α) (e : ClientEvent μ χ δ) :
    step exec program s e = s ∨
    (∃ c, step exec program s e = { s with calls := s.calls ++ [(c, program c)] }) ∨
    (∃ i c cmd k m, s.calls[i]? = some (c, .send cmd k) ∧
      ((step exec program s e = { s with
          server := (exec s.server m cmd).2
          log := s.log ++ [(cmd, (exec s.server m cmd).1)] }) ∨
        step exec program s e =
          { server := (exec s.server m cmd).2
            log := s.log ++ [(cmd, (exec s.server m cmd).1)]
            calls := s.calls.set i (c, k (.ok (exec s.server m cmd).1)) })) ∨
    ∃ i c cmd k d, s.calls[i]? = some (c, .send cmd k) ∧
      step exec program s e = { s with calls := s.calls.set i (c, k (.error d)) } := by
  cases e with
  | start c => exact Or.inr (Or.inl ⟨c, rfl⟩)
  | execute i m heard =>
    rw [step]
    split
    · next c cmd k hi =>
      refine Or.inr (Or.inr (Or.inl ⟨i, c, cmd, k, m, hi, ?_⟩))
      cases heard
      · exact Or.inl rfl
      · exact Or.inr rfl
    · exact Or.inl rfl
  | fail i d =>
    rw [step]
    split
    · next c cmd k hi => exact Or.inr (Or.inr (Or.inr ⟨i, c, cmd, k, d, hi, rfl⟩))
    · exact Or.inl rfl

/-! ### Where the calls are -/

/-- **Where the calls are**, and where the executed commands come from. -/
structure Reached (program : χ → ClientProgram κ ρ δ ε α) (s : ClientSystem σ χ κ ρ δ ε α) :
    Prop where
  calls : ∀ c ∈ s.calls, (program c.1).Follows s.log c.2
  commands : ∀ x ∈ s.log, ∃ c ∈ s.calls, ∃ k, (program c.1).Follows s.log (.send x.1 k)

theorem Reached.execute (h : Reached program s) {i : ℕ} {c : χ} {cmd : κ}
    {k : Except δ ρ → ClientProgram κ ρ δ ε α} (hi : s.calls[i]? = some (c, .send cmd k))
    (server : σ) (r : ρ) :
    Reached program { s with server := server, log := s.log ++ [(cmd, r)] } := by
  have hlog : s.log ⊆ s.log ++ [(cmd, r)] := List.subset_append_left _ _
  refine ⟨fun c hc ↦ (h.calls c hc).mono hlog, fun x hx ↦ ?_⟩
  rcases List.mem_append.1 hx with hx | hx
  · obtain ⟨c', hc', k', hk'⟩ := h.commands x hx
    exact ⟨c', hc', k', hk'.mono hlog⟩
  · have hc := List.mem_of_getElem? hi
    rw [List.mem_singleton.1 hx]
    exact ⟨_, hc, k, (h.calls _ hc).mono hlog⟩

/-- A call goes on. -/
theorem Reached.set (h : Reached program s) {i : ℕ} {c : χ}
    {p q : ClientProgram κ ρ δ ε α} (hi : s.calls[i]? = some (c, p))
    (hq : (program c).Follows s.log q) :
    Reached program { s with calls := s.calls.set i (c, q) } := by
  refine ⟨fun c' hc' ↦ ?_, fun x hx ↦ ?_⟩
  · rcases List.mem_or_eq_of_mem_set hc' with hc' | rfl
    · exact h.calls c' hc'
    · exact hq
  · -- The call that goes on has the same program as before.
    obtain ⟨c', hc', k, hk⟩ := h.commands x hx
    obtain ⟨j, hj⟩ := List.mem_iff_getElem?.1 hc'
    by_cases hij : i = j
    · subst hij
      obtain rfl : c' = (c, p) := Option.some.inj (hj.symm.trans hi)
      refine ⟨(c, q), List.mem_iff_getElem?.2 ⟨i, ?_⟩, k, hk⟩
      rw [List.getElem?_set_self (List.getElem?_eq_some_iff.1 hi).1]
    · refine ⟨c', List.mem_iff_getElem?.2 ⟨j, ?_⟩, k, hk⟩
      rw [List.getElem?_set_ne hij, hj]

theorem Reached.step (h : Reached program s) (e : ClientEvent μ χ δ) :
    Reached program (step exec program s e) := by
  obtain heq | ⟨c, heq⟩ | ⟨i, c, cmd, k, m, hi, heq | heq⟩ | ⟨i, c, cmd, k, d, hi, heq⟩ :=
    step_cases exec program s e
  all_goals rw [heq]
  · exact h
  · refine ⟨fun c' hc' ↦ ?_, fun x hx ↦ ?_⟩
    · rcases List.mem_append.1 hc' with hc' | hc'
      · exact h.calls c' hc'
      · rw [List.mem_singleton.1 hc']
        exact .refl
    · obtain ⟨c', hc', hk⟩ := h.commands x hx
      exact ⟨c', List.mem_append_left _ hc', hk⟩
  · exact h.execute hi _ _
  · have hnext := h.execute hi (exec s.server m cmd).2 (exec s.server m cmd).1
    exact hnext.set hi (.answer (hnext.calls _ (List.mem_of_getElem? hi))
      (List.mem_append_right _ List.mem_cons_self))
  · exact h.set hi (.failure d (h.calls _ (List.mem_of_getElem? hi)))

theorem reached_init (server : σ) : Reached program (init server) where
  calls _ h := absurd h List.not_mem_nil
  commands _ h := absurd h List.not_mem_nil

/-- **At every moment of every run.** -/
theorem reached_run (server : σ) (events : List (ClientEvent μ χ δ)) :
    Reached program (run exec program server events) := by
  exact foldl_invariant (reached_init server) (fun _ e h ↦ h.step e) events

/-! ### What comes later -/

theorem mem_drop_set {γ : Type} {l : List γ} {i n : ℕ} {a b : γ} (h : b ∈ (l.set i a).drop n) :
    b ∈ l.drop n ∨ n ≤ i ∧ b = a := by
  rw [List.drop_set] at h
  split at h
  · exact Or.inl h
  · next hle => exact (List.mem_or_eq_of_mem_set h).imp_right fun hb ↦ ⟨Nat.not_lt.1 hle, hb⟩

variable (exec program) in
/-- **A call that is made later** goes on by what the server executes later. -/
theorem follows_later (s : ClientSystem σ χ κ ρ δ ε α) (events : List (ClientEvent μ χ δ)) :
    ∃ rest, (events.foldl (step exec program) s).log = s.log ++ rest ∧
      ∀ c ∈ (events.foldl (step exec program) s).calls.drop s.calls.length,
        (program c.1).Follows rest c.2 := by
  refine foldl_invariant (I := fun s' : ClientSystem σ χ κ ρ δ ε α ↦ ∃ rest,
    s'.log = s.log ++ rest ∧ ∀ c ∈ s'.calls.drop s.calls.length,
      (program c.1).Follows rest c.2) ⟨[], (List.append_nil _).symm, ?_⟩ ?_ events
  · intro c hc
    rw [List.drop_length] at hc
    cases hc
  rintro s' e ⟨rest, hlog, hcalls⟩
  -- The call at `i` is a later one if its index says so.
  have hsent : ∀ {i : ℕ} {x : χ × ClientProgram κ ρ δ ε α}, s'.calls[i]? = some x →
      s.calls.length ≤ i → (program x.1).Follows rest x.2 := by
    intro i x hi hle
    refine hcalls x (List.mem_iff_getElem?.2 ⟨i - s.calls.length, ?_⟩)
    rw [List.getElem?_drop, Nat.add_sub_cancel' hle, hi]
  obtain heq | ⟨c, heq⟩ | ⟨i, c, cmd, k, m, hi, heq | heq⟩ | ⟨i, c, cmd, k, d, hi, heq⟩ :=
    step_cases exec program s' e
  all_goals rw [heq]
  · exact ⟨rest, hlog, hcalls⟩
  · refine ⟨rest, hlog, fun c' hc' ↦ ?_⟩
    rw [List.drop_append] at hc'
    rcases List.mem_append.1 hc' with hc' | hc'
    · exact hcalls c' hc'
    · rw [List.mem_singleton.1 (List.mem_of_mem_drop hc')]
      exact .refl
  · refine ⟨rest ++ [(cmd, (exec s'.server m cmd).1)], ?_, fun c' hc' ↦ ?_⟩
    · rw [hlog, List.append_assoc]
    · exact (hcalls c' hc').mono (List.subset_append_left _ _)
  · refine ⟨rest ++ [(cmd, (exec s'.server m cmd).1)], ?_, fun c' hc' ↦ ?_⟩
    · rw [hlog, List.append_assoc]
    rcases mem_drop_set hc' with hc' | ⟨hle, rfl⟩
    · exact (hcalls c' hc').mono (List.subset_append_left _ _)
    · exact .answer ((hsent hi hle).mono (List.subset_append_left _ _))
        (List.mem_append_right _ List.mem_cons_self)
  · refine ⟨rest, hlog, fun c' hc' ↦ ?_⟩
    rcases mem_drop_set hc' with hc' | ⟨hle, rfl⟩
    · exact hcalls c' hc'
    · exact .failure d (hsent hi hle)

/-! ### What the results hold -/

section Yield

variable {β : Type} (yield : χ → α → List β) (hand : κ × ρ → List β)

/-- What the result of a call holds, once there is one. -/
def yieldOf (c : χ × ClientProgram κ ρ δ ε α) : List β :=
  match c.2 with
  | .ret a => yield c.1 a
  | _ => []

/-- What the results of all calls hold. -/
def yielded (s : ClientSystem σ χ κ ρ δ ε α) : List β := s.calls.flatMap (yieldOf yield)

/-- What the server has handed out. -/
def handed (s : ClientSystem σ χ κ ρ δ ε α) : List β := s.log.flatMap hand

/-- Only an answer makes a result hold something, and no more than the answer does. -/
structure YieldsAnswers (program : χ → ClientProgram κ ρ δ ε α) : Prop where
  start : ∀ c, yieldOf yield (c, program c) = []
  answer : ∀ {c log cmd k} (r : ρ), (program c).Follows log (.send cmd k) →
    (yieldOf yield (c, k (.ok r))).Sublist (hand (cmd, r))
  failure : ∀ {c log cmd k} (e : δ), (program c).Follows log (.send cmd k) →
    yieldOf yield (c, k (.error e)) = []

theorem flatMap_set_perm {γ : Type} {f : γ → List β} {a : γ} (b : γ) (ha : f a = []) :
    ∀ {l : List γ} {i : ℕ}, l[i]? = some a → ((l.set i b).flatMap f).Perm (l.flatMap f ++ f b)
  | x :: l, 0, hi => by
    obtain rfl : x = a := Option.some.inj hi
    rw [List.set_cons_zero, List.flatMap_cons, List.flatMap_cons, ha, List.nil_append]
    exact List.perm_append_comm
  | x :: l, i + 1, hi => by
    rw [List.set_cons_succ, List.flatMap_cons, List.flatMap_cons, List.append_assoc]
    exact (flatMap_set_perm (l := l) b ha hi).append_left (f x)

variable (exec) in
/-- **What the results hold was handed out**, as often as that. -/
theorem yielded_run {yield : χ → α → List β} {hand : κ × ρ → List β}
    (h : YieldsAnswers yield hand program) (server : σ) (events : List (ClientEvent μ χ δ)) :
    (yielded yield (run exec program server events)).Subperm
      (handed hand (run exec program server events)) := by
  have hboth : Reached program (run exec program server events) ∧
      (yielded yield (run exec program server events)).Subperm
        (handed hand (run exec program server events)) := by
    refine foldl_invariant (I := fun s ↦ Reached program s ∧
      (yielded yield s).Subperm (handed hand s)) ?_ (fun s e ⟨hreached, hsub⟩ ↦ ?_) events
    · exact ⟨reached_init server, List.nil_subperm⟩
    refine ⟨hreached.step e, ?_⟩
    obtain heq | ⟨c, heq⟩ | ⟨i, c, cmd, k, m, hi, heq | heq⟩ | ⟨i, c, cmd, k, d, hi, heq⟩ :=
      step_cases exec program s e
    all_goals rw [heq]
    · exact hsub
    · rw [yielded, List.flatMap_append, List.flatMap_singleton, h.start c, List.append_nil]
      exact hsub
    · rw [handed, List.flatMap_append]
      exact hsub.trans (List.sublist_append_left _ _).subperm
    · have hfollows := hreached.calls _ (List.mem_of_getElem? hi)
      rw [handed, List.flatMap_append, List.flatMap_singleton]
      refine (flatMap_set_perm _ rfl hi).subperm.trans ?_
      exact (List.subperm_append_right _ |>.2 hsub).trans
        ((h.answer (exec s.server m cmd).1 hfollows).append_left _).subperm
    · have hfollows := hreached.calls _ (List.mem_of_getElem? hi)
      refine (flatMap_set_perm _ rfl hi).subperm.trans ?_
      rw [h.failure d hfollows, List.append_nil]
      exact hsub
  exact hboth.2

end Yield

end ClientSystem

end ZanovixCrm
