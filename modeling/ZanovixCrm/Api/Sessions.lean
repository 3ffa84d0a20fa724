import ZanovixCrm.Api.Runs
import ZanovixCrm.Library.ReadCommitted

/-!
# Requests in sessions of their own

Every request opens a session, and the sessions of requests that are in flight together are
interleaved statement by statement, under `READ COMMITTED`. `serve` is what one session executes,
from the `SELECT` of the guard to the commit; with nobody else around it is `handle`
(`handle_eq_serve`).

No endpoint locks a row that it reads, or checks again before it commits. So of two requests that
decide on the same row, both may commit, and then the second has decided on a row that is no longer
there. A commit that does not do so is `Fresh`: what it read, read again now, would send it the same
way. **Over interleavings in which every commit is fresh, whatever the steps preserve holds**
(`freshCommits_invariant`); `freshCommits_induction` says the same of what the sessions have
achieved, and `freshCommits_isChain` of the sequence of the committed states.
-/

namespace ZanovixCrm

/-- What the session of a request executes: the account, the guard, the endpoint. (The account is
read in a session of its own, which has ended before the endpoint's begins; under `READ COMMITTED`
this is one more statement.) -/
def serve (p : Platform) (s : Settings) (env : Env) (sub : Except Fault String) (r : Request) :
    Tx Response := do
  let user ← .query fun db ↦ currentUser db sub
  let m ← .liftExcept ((route p s env r).guard user)
  m

/-- A request in flight. -/
structure Sent where
  env : Env
  sub : Except Fault String
  /-- The request, as the schema check has left it. -/
  request : Request

/-- The program of its session. -/
def Sent.prog (p : Platform) (s : Settings) (q : Sent) : Tx Response :=
  serve p s q.env q.sub q.request

section Serve

variable {p : Platform} {s : Settings} {env : Env} {db : Db} {sub : Except Fault String}

/-- A session, alone: the guard decides whether the endpoint runs. -/
theorem run_serve (r : Request) :
    (serve p s env sub r).run db =
      match (route p s env r).guard (currentUser db sub) with
      | .ok m => m.run db
      | .error f => .error f := by
  rw [serve, Prog.run_bind_ok (Prog.run_query _ db)]
  rcases (route p s env r).guard (currentUser db sub) with f | m
  · rfl
  · rfl

/-- **A request that reaches its endpoint is its session, run alone.** -/
theorem handle_eq_serve {r r' : Request} (hm : mounted s r = true) (hv : r.validate? p = some r') :
    handle p s env db sub (.bound r) = respond (serve p s env sub r') db := by
  rw [respond, Prog.transact, run_serve]
  rcases hg : (route p s env r').guard (currentUser db sub) with f | m
  · rw [handle_of_refused hm hv hg]
  · rw [handle_of_admitted hm hv hg]
    rfl

/-- **A session that commits, run alone,** leaves the database as it was, if its endpoint writes
nothing, and makes a step otherwise. -/
theorem ensures_serve (r : Request) :
    (serve p s env sub r).Ensures db fun resp db' ↦
      (r.isRead = true ∧ db' = db) ∨ Step p s env db (currentUser db sub) r resp db' := by
  intro resp db' hrun
  rw [run_serve] at hrun
  rcases hg : (route p s env r).guard (currentUser db sub) with f | m
  · rw [hg] at hrun
    cases hrun
  · rw [hg] at hrun
    rcases hr : r.isRead with - | -
    · exact Or.inr (ensures_step hr hg resp db' hrun)
    · exact Or.inl ⟨rfl, ensures_read hr hg resp db' hrun⟩

/-- A session that commits, run alone, keeps the database valid. -/
theorem valid_serve (h : db.Valid) (r : Request) :
    (serve p s env sub r).Ensures db fun _ db' ↦ Grows db db' ∧ db'.Valid := by
  intro resp db' hrun
  have hvalid := Prog.valid_transact (serve p s env sub r) h
  rwa [Prog.transact_of_ok hrun] at hvalid

end Serve

/-! ### Interleavings -/

section Interleavings

variable {ι : Type} [DecidableEq ι] [Fintype ι]

/-- The sessions of the requests are about to begin. -/
def opened (p : Platform) (s : Settings) (db : Db) (sent : ι → Sent) :
    Config ι Db Write Fault Response :=
  .start (fun i ↦ (sent i).prog p s) db

/-- The sessions after an interleaving. -/
def interleave (p : Platform) (s : Settings) (db : Db) (sent : ι → Sent) (labels : List (Label ι)) :
    Config ι Db Write Fault Response :=
  (opened p s db sent).exec labels

/-- **No request commits on stale reads**: at every commit of the interleaving, what the transaction
has read would, if it were read again, send it the same way. -/
def FreshCommits (p : Platform) (s : Settings) (db : Db) (sent : ι → Sent)
    (labels : List (Label ι)) : Prop :=
  Config.FreshRun (fun i ↦ (sent i).prog p s) (opened p s db sent) labels

variable {p : Platform} {s : Settings} {db : Db} {sent : ι → Sent} {labels : List (Label ι)}

/-- **What the steps preserve holds wherever all commits are fresh.** The invariant may speak of the
state and of the answers of the sessions that have committed. -/
theorem freshCommits_induction {I : Db → (ι → Option Response) → Prop} (hvalid : db.Valid)
    (hstart : I db fun _ ↦ none)
    (hidle : ∀ db' o i resp, I db' o → o i = none → (sent i).request.isRead = true →
      I db' (Function.update o i (some resp)))
    (hstep : ∀ db₁ o i resp db₂, db₁.Valid → I db₁ o → o i = none →
      Step p s (sent i).env db₁ (currentUser db₁ (sent i).sub) (sent i).request resp db₂ →
      I db₂ (Function.update o i (some resp)))
    (h : FreshCommits p s db sent labels) :
    I (interleave p s db sent labels).db (interleave p s db sent labels).outcomes := by
  have hboth := Config.FreshRun.induction (I := fun db' o ↦ db'.Valid ∧ I db' o)
    (fun db₁ o i resp db₂ hI ho hrun ↦ ?_) (Config.sound_start _ db) ⟨hvalid, hstart⟩ h
  · exact hboth.2
  · refine ⟨(valid_serve hI.1 (sent i).request resp db₂ hrun).2, ?_⟩
    rcases ensures_serve (sent i).request resp db₂ hrun with ⟨hread, rfl⟩ | hs
    · exact hidle db₂ o i resp hI.2 ho hread
    · exact hstep db₁ o i resp db₂ hI.1 hI.2 ho hs

/-- An invariant of the database alone. -/
theorem freshCommits_invariant {I : Db → Prop} (hvalid : db.Valid) (hstart : I db)
    (hstep : ∀ {env : Env} {db : Db} {user : Except Fault User} {r : Request} {resp : Response}
      {db' : Db}, db.Valid → I db → Step p s env db user r resp db' → I db')
    (h : FreshCommits p s db sent labels) : I (interleave p s db sent labels).db :=
  freshCommits_induction (I := fun db' _ ↦ I db') hvalid hstart (fun _ _ _ _ hI _ _ ↦ hI)
    (fun _ _ _ _ _ hvalid hI _ hs ↦ hstep hvalid hI hs) h

/-- The committed states of an interleaving, oldest first. -/
def committed (p : Platform) (s : Settings) (db : Db) (sent : ι → Sent) (labels : List (Label ι)) :
    List Db :=
  (opened p s db sent).history labels

/-- **Wherever all commits are fresh, consecutive committed states are related** as the ends of a
step are. -/
theorem freshCommits_isChain {R : Db → Db → Prop} (hvalid : db.Valid) (hrefl : ∀ db', R db' db')
    (hstep : ∀ {env : Env} {db : Db} {user : Except Fault User} {r : Request} {resp : Response}
      {db' : Db}, db.Valid → Grows db db' → Step p s env db user r resp db' → R db db')
    (h : FreshCommits p s db sent labels) : (committed p s db sent labels).IsChain R := by
  refine Config.FreshRun.isChain_history (I := Db.Valid) hrefl
    (fun db₁ i resp db₂ hvalid₁ hrun ↦ ?_)
    (Config.sound_start _ db) hvalid h
  obtain ⟨hgrows, hvalid₂⟩ := valid_serve hvalid₁ (sent i).request resp db₂ hrun
  refine ⟨?_, hvalid₂⟩
  rcases ensures_serve (sent i).request resp db₂ hrun with ⟨-, rfl⟩ | hs
  · exact hrefl db₂
  · exact hstep hvalid₁ hgrows hs

/-- Requests that are served one after the other. -/
theorem freshCommits_of_serial (h : (opened p s db sent).Serial labels = true) :
    FreshCommits p s db sent labels :=
  Config.freshRun_of_serial (Config.sound_start _ db) (Config.exact_start _ db) h

end Interleavings

end ZanovixCrm
