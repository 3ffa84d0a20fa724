import Mathlib.Data.List.Induction
import ZanovixCrm.Api.Steps

/-!
# Runs

A run is a finite sequence of requests, one after another, on an initially empty database, together
with what happened: for every request its answer and the state before and after. The API has no
endpoint for accounts, which are set up by an operator; so that runs get anywhere, an operator may
at any time write a row of `users`, within the constraints of the schema.

`run_induction` is how every statement about reachable states is proved. Its step hypothesis speaks
of `Happens`, the three things that an act can do: nothing, a `Step`, or an account write.
-/

namespace ZanovixCrm

/-- What is done to the CRM. -/
inductive Act where
  /-- A request, with the address that its token carries. -/
  | request (env : Env) (sub : Except Fault String) (call : Call)
  /-- An operator writes an account. -/
  | account (op : TableOp User)

/-- One act: the answer, if it is a request, and the new state. -/
def Act.perform (p : Platform) (s : Settings) (db : Db) : Act → Option Response × Db
  | .request env sub call => ((handle p s env db sub call).1, (handle p s env db sub call).2)
  | .account op =>
    match op.perform db with
    | .ok db' => (none, db')
    | .error _ => (none, db)

/-- The act is a request that reaches its handler, after the schema check, as `r`. -/
def Act.Asks (p : Platform) (a : Act) (r : Request) : Prop :=
  ∃ env sub r₀, a = .request env sub (.bound r₀) ∧ r₀.validate? p = some r

theorem Act.asks_bound {p : Platform} {r r' : Request} (hv : r.validate? p = some r') (env : Env)
    (sub : Except Fault String) : (Act.request env sub (.bound r)).Asks p r' :=
  ⟨env, sub, r, rfl, hv⟩

theorem Act.Asks.unique {p : Platform} {a : Act} {r r' : Request} (h : a.Asks p r)
    (h' : a.Asks p r') : r = r' := by
  obtain ⟨env, sub, r₀, rfl, hv⟩ := h
  obtain ⟨_, _, _, ha, hv'⟩ := h'
  cases ha
  exact Option.some.inj (hv.symm.trans hv')

/-- One act of a run, and what it did. -/
structure Event where
  before : Db
  act : Act
  answer : Option Response
  after : Db

/-- A request that was answered with success. -/
def Event.succeeded (e : Event) : Bool := e.answer.any Response.isOk

/-- A finished run. -/
structure Run where
  /-- The final state. -/
  db : Db
  /-- What happened, oldest first. -/
  events : List Event

namespace Run

/-- Nothing has happened. -/
def empty : Run := ⟨Db.empty, []⟩

/-- One more act. -/
def next (p : Platform) (s : Settings) (r : Run) (a : Act) : Run :=
  ⟨(a.perform p s r.db).2, r.events ++ [⟨r.db, a, (a.perform p s r.db).1, (a.perform p s r.db).2⟩]⟩

end Run

/-- **The run of a sequence of acts.** -/
def run (p : Platform) (s : Settings) (acts : List Act) : Run := acts.foldl (Run.next p s) Run.empty

/-- What an act does: nothing, a step, or an account write. -/
inductive Happens (p : Platform) (s : Settings) (db : Db) : Act → Option Response → Db → Prop where
  /-- A request that leaves the database alone. -/
  | idle {env : Env} {sub : Except Fault String} {call : Call} {resp : Response}
    (h : resp.isOk = true → ∃ r, call = .bound r ∧ r.isRead = true) :
    Happens p s db (.request env sub call) (some resp) db
  /-- A committed request. -/
  | step {env : Env} {sub : Except Fault String} {r r' : Request} {resp : Response} {db' : Db}
    (hv : r.validate? p = some r') (h : Step p s env db (currentUser db sub) r' resp db') :
    Happens p s db (.request env sub (.bound r)) (some resp) db'
  /-- An account write that is accepted. -/
  | account {op : TableOp User} {db' : Db} (h : op.perform db = .ok db') :
    Happens p s db (.account op) none db'
  /-- An account write that is refused. -/
  | refused {op : TableOp User} : Happens p s db (.account op) none db

section Runs

variable {p : Platform} {s : Settings}

theorem happens (db : Db) (a : Act) :
    Happens p s db a (a.perform p s db).1 (a.perform p s db).2 := by
  cases a with
  | request env sub call =>
    rw [Act.perform]
    rcases handle_cases p s env db sub call with
      ⟨hdb, hok⟩ | ⟨r, r', rfl, hv, h⟩
    · rw [hdb]
      exact .idle hok
    · exact .step hv h
  | account op =>
    rw [Act.perform]
    rcases h : op.perform db with e | db'
    · exact .refused
    · exact .account h

theorem run_append (acts : List Act) (a : Act) :
    run p s (acts ++ [a]) = (run p s acts).next p s a := by
  rw [run, List.foldl_append]
  rfl

/-- The state after a run, act by act. -/
theorem db_run (acts : List Act) :
    (run p s acts).db = acts.foldl (fun db a ↦ (a.perform p s db).2) Db.empty := by
  induction acts using List.reverseRecOn with
  | nil => rfl
  | append_singleton acts a ih =>
    rw [run_append, List.foldl_append, ← ih]
    rfl

/-- An act keeps the database valid. -/
theorem valid_perform {db : Db} (h : db.Valid) (a : Act) :
    Grows db (a.perform p s db).2 ∧ (a.perform p s db).2.Valid := by
  cases a with
  | request env sub call => exact valid_handle h sub call
  | account op =>
    rw [Act.perform]
    rcases hop : op.perform db with e | db'
    · exact ⟨Grows.refl db, h⟩
    · exact Write.valid (w := .users op) h hop

/-- **Every reachable state is valid.** -/
theorem valid_run (acts : List Act) : (run p s acts).db.Valid := by
  induction acts using List.reverseRecOn with
  | nil => exact Db.valid_empty
  | append_singleton acts a ih =>
    rw [run_append]
    exact (valid_perform ih a).2

/-- **Every run has what its acts preserve.** -/
theorem run_induction {I : Run → Prop} (hempty : I Run.empty)
    (hnext : ∀ (r : Run) (a : Act) (answer : Option Response) (db' : Db), r.db.Valid →
      Grows r.db db' → I r → Happens p s r.db a answer db' →
      I ⟨db', r.events ++ [⟨r.db, a, answer, db'⟩]⟩)
    (acts : List Act) : I (run p s acts) := by
  induction acts using List.reverseRecOn with
  | nil => exact hempty
  | append_singleton acts a ih =>
    have hvalid : (run p s acts).db.Valid := valid_run acts
    rw [run_append]
    exact hnext _ a _ _ hvalid (valid_perform hvalid a).1 ih (happens _ a)

/-- An invariant of the database alone. -/
theorem run_invariant {I : Db → Prop} (hempty : I Db.empty)
    (hstep : ∀ {env : Env} {db : Db} {user : Except Fault User} {r : Request} {resp : Response}
      {db' : Db}, db.Valid → I db → Step p s env db user r resp db' → I db')
    (haccount : ∀ {db : Db} (t : Table User), I db → I { db with users := t })
    (acts : List Act) : I (run p s acts).db := by
  refine run_induction (I := fun r ↦ I r.db) hempty (fun r a answer db' hvalid _ hI h ↦ ?_) acts
  cases h with
  | idle h => exact hI
  | step hv h => exact hstep hvalid hI h
  | account h =>
    obtain ⟨t, rfl⟩ := TableOp.exists_setTable h
    exact haccount t hI
  | refused => exact hI

end Runs

end ZanovixCrm
