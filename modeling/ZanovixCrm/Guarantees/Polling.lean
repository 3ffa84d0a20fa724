import ZanovixCrm.Guarantees.WriteAuthority
import ZanovixCrm.Library.Cursor
import ZanovixCrm.Library.Transitions

/-!
# Polling the thread

The portal reads the thread of its client by polling: first without `since`, and then with the
`created_at` of the last message that it has got. The endpoint answers with the oldest 50 messages
that are newer. Meanwhile messages are committed. `created_at` is the time at which the transaction
of a message starts, so messages need not become visible in the order of their stamps, and stamps
can be equal.

No message is returned twice. One that is committed behind the cursor is never returned
(`polling_loses`), and neither is one that shares its stamp with the last message of a full page.
These are the only losses: a poll that finds nothing new has left nothing out if and only if neither
has happened before it (`polling_exactlyOnce_iff`).
-/

namespace ZanovixCrm

/-- The size of a page, unless the request asks for another. -/
def defaultLimit : ℤ := 50

/-- The messages that `GET /api/me/messages` answers to an account of the portal. -/
def messagesSince (p : Platform) (s : Settings) (env : Env) (db : Db) (u : User)
    (since : Option Time) : List Message :=
  match (route p s env (.listMyMessages defaultLimit 0 since)).guard (.ok u) with
  | .ok m =>
    match (respond m db).1.body with
    | .messages page => page.items
    | _ => []
  | .error _ => []

/-- The database, and a reader of a thread. -/
structure Polling where
  db : Db
  reader : Reader Message Time

/-- What happens: an act of anyone, of which the reader sees what it has committed, or a poll. -/
inductive PollingEvent where
  | act (a : Act)
  | poll (env : Env)

namespace Polling

/-- One event. -/
def step (p : Platform) (s : Settings) (u : User) (st : Polling) : PollingEvent → Polling
  | .act a => { st with db := (a.perform p s st.db).2 }
  | .poll env =>
    { st with
      reader := st.reader.read Message.createdAt (messagesSince p s env st.db u st.reader.cursor) }

/-- The state after a sequence of events, with a reader who begins to read. -/
def after (p : Platform) (s : Settings) (u : User) (db : Db) (events : List PollingEvent) :
    Polling :=
  events.foldl (step p s u) ⟨db, .start⟩

/-- The message is in the thread of the client. -/
def InThread (clientId : UUID) (db : Db) (m : Message) : Prop :=
  m ∈ db.messages ∧ m.clientId = clientId

/-- The messages of the thread that are ahead of a cursor, in order. -/
def upcoming (clientId : UUID) (db : Db) (cursor : Option Time) : List Message :=
  selectAsc db.messages (MessageService.selects clientId cursor) Message.createdAt

/-- **The event leaves no message behind**: what is committed is ahead of the cursor, and no page is
cut between messages with the same stamp. -/
def LeavesNothing (p : Platform) (s : Settings) (clientId : UUID) (st : Polling) :
    PollingEvent → Prop
  | .act a => ∀ m, InThread clientId (a.perform p s st.db).2 m → ¬InThread clientId st.db m →
      ∀ t, st.reader.cursor = some t → t < m.createdAt
  | .poll _ =>
    ∀ m ∈ (upcoming clientId st.db st.reader.cursor).take defaultLimit.toNat,
      ∀ m' ∈ (upcoming clientId st.db st.reader.cursor).drop defaultLimit.toNat,
        m.createdAt < m'.createdAt

/-- No event of the sequence leaves a message behind. -/
def NeverLeaves (p : Platform) (s : Settings) (u : User) (clientId : UUID) (db : Db)
    (events : List PollingEvent) : Prop :=
  EveryStep (step p s u) (LeavesNothing p s clientId) ⟨db, .start⟩ events

section Polling

variable {p : Platform} {s : Settings} {u : User} {clientId : UUID} {db : Db} {st : Polling}

/-- What a client of the portal is answered. -/
theorem messagesSince_eq (hrole : u.role = .clientUser) (hclient : u.clientId = some clientId)
    (env : Env) (db : Db) (since : Option Time) :
    messagesSince p s env db u since = (upcoming clientId db since).take defaultLimit.toNat := by
  have hguard : ∀ m, (Handler.scopeToClient m).guard (.ok u) = .ok (m u clientId) := fun m ↦
    Handler.guard_scopeToClient.2 ⟨u, clientId, rfl, hrole, hclient, rfl⟩
  rw [messagesSince, route, hguard]
  rfl

theorem mem_upcoming {cursor : Option Time} {m : Message} :
    m ∈ upcoming clientId db cursor ↔
      InThread clientId db m ∧ Reader.due Message.createdAt cursor m = true := by
  rw [upcoming, mem_selectAsc, MessageService.selects, Bool.and_eq_true, decide_eq_true_eq,
    InThread,
    and_assoc]
  rfl

theorem pairwise_upcoming (cursor : Option Time) :
    (upcoming clientId db cursor).Pairwise fun a b ↦ a.createdAt ≤ b.createdAt := by
  refine (pairwise_selectAsc db.messages _ _).imp fun {a b} h ↦ ?_
  rcases Prod.Lex.le_iff.1 h with h | h
  · exact le_of_lt h
  · exact le_of_eq h.1

theorem nodup_upcoming (cursor : Option Time) : (upcoming clientId db cursor).Nodup := by
  refine (sortOn_perm _ _).nodup_iff.2 ?_
  exact (db.messages.keys_nodup.of_map _).filter _

/-- Messages stay in the thread. -/
theorem inThread_perform (a : Act) {m : Message} (hm : InThread clientId db m) :
    InThread clientId (a.perform p s db).2 m := by
  refine ⟨?_, hm.2⟩
  rcases hstep : a.perform p s db with ⟨answer, db'⟩
  have hhappens := happens (p := p) (s := s) db a
  rw [hstep] at hhappens
  cases hhappens with
  | idle h => exact hm.1
  | step hv h => exact h.messages m hm.1
  | account h =>
    obtain ⟨t, rfl⟩ := TableOp.exists_setTable h
    exact hm.1
  | refused => exact hm.1

/-- The state before an event: the reader has nothing twice. -/
theorem sound_step (hrole : u.role = .clientUser) (hclient : u.clientId = some clientId)
    (h : st.reader.Sound Message.createdAt (InThread clientId st.db)) (e : PollingEvent) :
    (step p s u st e).reader.Sound Message.createdAt (InThread clientId (step p s u st e).db) := by
  cases e with
  | act a => exact h.mono fun m hm ↦ inThread_perform a hm
  | poll env =>
    rw [step, messagesSince_eq hrole hclient]
    have hpage : ∀ m ∈ (upcoming clientId st.db st.reader.cursor).take defaultLimit.toNat,
        InThread clientId st.db m ∧ Reader.due Message.createdAt st.reader.cursor m = true :=
      fun m hm ↦ mem_upcoming.1 (List.mem_of_mem_take hm)
    exact h.read ((nodup_upcoming _).sublist (List.take_sublist _ _))
      ((pairwise_upcoming _).sublist (List.take_sublist _ _)) (fun m hm ↦ (hpage m hm).1)
      fun m hm ↦ (hpage m hm).2

/-- **One event**: nothing is missed if nothing was and the event leaves nothing behind, and only
then. -/
theorem complete_step_iff (hrole : u.role = .clientUser) (hclient : u.clientId = some clientId)
    (h : st.reader.Sound Message.createdAt (InThread clientId st.db)) (e : PollingEvent) :
    (step p s u st e).reader.Complete Message.createdAt (InThread clientId (step p s u st e).db) ↔
      st.reader.Complete Message.createdAt (InThread clientId st.db) ∧
        LeavesNothing p s clientId st e := by
  cases e with
  | act a =>
    have hahead : ∀ m : Message, Reader.due Message.createdAt st.reader.cursor m = true ↔
        ∀ t, st.reader.cursor = some t → t < m.createdAt := by
      intro m
      rw [Reader.due, Option.all_eq_true]
      simp only [decide_eq_true_eq]
    have hmono := Reader.complete_mono_iff h (fun m hm ↦ inThread_perform (p := p) (s := s) a hm)
    simp only [hahead] at hmono
    exact hmono
  | poll env =>
    have hsplit : (upcoming clientId st.db st.reader.cursor).take defaultLimit.toNat ++
        (upcoming clientId st.db st.reader.cursor).drop defaultLimit.toNat =
          upcoming clientId st.db st.reader.cursor := List.take_append_drop _ _
    rw [step, messagesSince_eq hrole hclient]
    refine Reader.complete_read_iff h (fun m ↦ ?_) ?_ ?_
    · rw [hsplit]
      exact mem_upcoming
    · rw [hsplit]
      exact pairwise_upcoming _
    · rw [hsplit]
      exact nodup_upcoming _

theorem sound_after (hrole : u.role = .clientUser) (hclient : u.clientId = some clientId)
    (events : List PollingEvent) :
    (after p s u db events).reader.Sound Message.createdAt
      (InThread clientId (after p s u db events).db) :=
  foldl_invariant
    (I := fun st : Polling ↦ st.reader.Sound Message.createdAt (InThread clientId st.db))
    Reader.sound_start (fun _ e h ↦ sound_step hrole hclient h e) events

/-- **A sequence of events**: nothing has been missed if no event left anything behind, and only
then. -/
theorem complete_after_iff (hrole : u.role = .clientUser) (hclient : u.clientId = some clientId)
    (events : List PollingEvent) :
    (after p s u db events).reader.Complete Message.createdAt
        (InThread clientId (after p s u db events).db) ↔
      NeverLeaves p s u clientId db events :=
  holds_foldl_iff
    (I := fun st : Polling ↦ st.reader.Sound Message.createdAt (InThread clientId st.db))
    (G := fun st : Polling ↦ st.reader.Complete Message.createdAt (InThread clientId st.db))
    Reader.sound_start (fun _ e h ↦ sound_step hrole hclient h e) Reader.complete_start
    (fun _ e h ↦ complete_step_iff hrole hclient h e) events

end Polling

end Polling

open Polling

/-- **Exactly once.** When a poll finds nothing new, every message of the thread has been returned
exactly once if and only if no event before it left a message behind. -/
theorem polling_exactlyOnce_iff (p : Platform) (s : Settings) (u : User) (clientId : UUID)
    (hrole : u.role = .clientUser) (hclient : u.clientId = some clientId) (db : Db)
    (events : List PollingEvent) (env : Env)
    (hempty : messagesSince p s env (after p s u db events).db u
      (after p s u db events).reader.cursor = []) :
    (∀ m, InThread clientId (after p s u db events).db m →
        (after p s u db events).reader.received.count m = 1) ↔
      NeverLeaves p s u clientId db events := by
  rw [← complete_after_iff hrole hclient]
  refine Reader.count_eq_one_iff (sound_after hrole hclient events) fun m hm ↦ ?_
  rw [messagesSince_eq hrole hclient, List.take_eq_nil_iff] at hempty
  refine Bool.eq_false_iff.2 fun hdue ↦ ?_
  have hmem := mem_upcoming.2 ⟨hm, hdue⟩
  rcases hempty with hlimit | hnone
  · exact absurd hlimit (by decide)
  · rw [hnone] at hmem
    exact nomatch hmem

/-! ### Two messages -/

/-- A client of the portal. -/
def portalUser : User := .sample 2 (.lit "client@example.com") .clientUser (some 20)

/-- An operator, a client, and its account. -/
def portalOpened : List Act :=
  [.account (.insert (.sample 1 (.lit "root@example.com") .admin none)),
    .request (.sample 20) (.ok "root@example.com")
      (.bound (.createClient ⟨"Acme", none, none, none, none, none, "lead"⟩)),
    .account (.insert portalUser)]

/-- The operator writes to the client, in a transaction that starts at `now`. -/
def staffMessage (now : Time) (first : ℕ) : PollingEvent :=
  .act (.request { Env.sample first with now := now } (.ok "root@example.com")
    (.bound (.createClientMessage 20 ⟨"Hello"⟩)))

/-- Two messages, each of which is polled for. -/
def twoMessages (now now' : Time) : List PollingEvent :=
  [staffMessage now 30, .poll (.sample 0), staffMessage now' 40, .poll (.sample 0)]

/-- What becomes of it. -/
def afterTwoMessages (now now' : Time) : Polling :=
  after .sample .sample portalUser (run .sample .sample portalOpened).db (twoMessages now now')

theorem polling_inOrder :
    NeverLeaves .sample .sample portalUser 20 (run .sample .sample portalOpened).db
      (twoMessages 4 5) := by
  refine (polling_exactlyOnce_iff .sample .sample portalUser 20 rfl rfl
    (run .sample .sample portalOpened).db (twoMessages 4 5) (.sample 0) (by decide +kernel)).1 ?_
  rintro m ⟨hm, -⟩
  have hall : ∀ m ∈ (afterTwoMessages 4 5).db.messages.rows,
      (afterTwoMessages 4 5).reader.received.count m = 1 := by decide +kernel
  exact hall m hm

/-- **A message is lost**: its transaction has started before, and is committed after, the one that
the reader has got. -/
theorem polling_loses :
    ¬∀ (db : Db) (events : List PollingEvent) (env : Env),
      messagesSince .sample .sample env (after .sample .sample portalUser db events).db portalUser
          (after .sample .sample portalUser db events).reader.cursor = [] →
        ∀ m, InThread 20 (after .sample .sample portalUser db events).db m →
          (after .sample .sample portalUser db events).reader.received.count m = 1 := by
  intro hall
  have hlost : ∃ m ∈ (afterTwoMessages 5 4).db.messages.rows,
      m.clientId = 20 ∧ (afterTwoMessages 5 4).reader.received.count m = 0 := by decide +kernel
  obtain ⟨m, hm, hclient, hcount⟩ := hlost
  have hone : (afterTwoMessages 5 4).reader.received.count m = 1 :=
    hall _ (twoMessages 5 4) (.sample 0) (by decide +kernel) m ⟨hm, hclient⟩
  omega

end ZanovixCrm
