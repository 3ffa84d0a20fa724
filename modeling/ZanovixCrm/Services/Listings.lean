import ZanovixCrm.Library.Pagination
import ZanovixCrm.Services.ClientService
import ZanovixCrm.Services.MessageService
import ZanovixCrm.Services.ServiceService
import ZanovixCrm.Services.TicketService

/-!
# Listings

Seven services list rows of a table page by page, each with a query for the page and one for the
total that repeats its conditions. A `Listing` is what they have in common: the texts that are bound
to the query, the rows that it selects, and the column by which it orders them.

That order is partial: rows with the same `created_at` come as the database likes, and each query
may have them differently. `Listing.Answers` says what a service may answer, and each service
answers so (`Listing.answers_answer`), with its ties broken by the key (`run_listForUser` and the
six after it).
-/

namespace ZanovixCrm

open Pagination

/-- A paged query over a table. -/
structure Listing (ρ : Type) [Keyed ρ UUID] where
  /-- The texts bound to the query. -/
  texts : List (Option String)
  table : Db → Table ρ
  /-- The conditions, those on the page and those on the total. -/
  selects : ρ → Bool
  createdAt : ρ → Time
  /-- `ORDER BY created_at DESC`, or `ASC`. -/
  descending : Bool := true

namespace Listing

section Answers

variable {ρ : Type} [Keyed ρ UUID] {L : Listing ρ} {db : Db} {limit offset : ℤ}

/-- The rows that the listing enumerates. -/
def rows (L : Listing ρ) (db : Db) : List ρ := (L.table db).rows.filter L.selects

/-- Rows of lower rank come first. -/
def rank (L : Listing ρ) (r : ρ) : ℤ := bif L.descending then -L.createdAt r else L.createdAt r

/-- PostgreSQL takes the texts. -/
def bindable (L : Listing ρ) : Bool :=
  L.texts.all fun t ↦ t.all fun s ↦ !s.toList.contains (Char.ofNat 0)

omit [Keyed ρ UUID] in
/-- The page that an arrangement of the rows has at an offset, with the total. -/
def pageOf (limit offset : ℤ) (l : List ρ) : Except Fault (List ρ × ℕ) :=
  ((Session.limitOffset limit offset l).mapError Fault.db).map fun page ↦ (page, l.length)

/-- **What the listing may answer.** -/
def Answers (L : Listing ρ) (db : Db) (limit offset : ℤ) (a : Except Fault (List ρ × ℕ)) : Prop :=
  if L.bindable then ∃ l, Arranges L.rank (L.rows db) l ∧ a = pageOf limit offset l
  else a = .error (.db .data)

/-- The rows in order, ties broken by the key. -/
def ordered (L : Listing ρ) (db : Db) : List ρ :=
  bif L.descending then selectDesc (L.table db) L.selects L.createdAt
  else selectAsc (L.table db) L.selects L.createdAt

/-- What the listing answers if ties are broken by the key. -/
def answer (L : Listing ρ) (db : Db) (limit offset : ℤ) : Except Fault (List ρ × ℕ) :=
  if L.bindable then pageOf limit offset (L.ordered db) else .error (.db .data)

theorem nodup_rows (L : Listing ρ) (db : Db) : (L.rows db).Nodup :=
  (L.table db).keys_nodup.of_map _ |>.filter _

theorem arranges_ordered (L : Listing ρ) (db : Db) :
    Arranges L.rank (L.rows db) (L.ordered db) := by
  rw [ordered, rows]
  cases hd : L.descending with
  | true =>
    refine ⟨sortOn_perm _ _, (pairwise_sortOn _ _).imp fun {a b} hab ↦ ?_⟩
    have hle : L.createdAt b ≤ L.createdAt a := by
      rcases Prod.Lex.le_iff.1 hab with hlt | ⟨heq, -⟩
      · exact le_of_lt (OrderDual.toDual_lt_toDual.1 hlt)
      · exact le_of_eq (OrderDual.toDual_inj.1 heq).symm
    simp only [rank, hd, cond_true]
    exact Int.neg_le_neg hle
  | false =>
    refine ⟨sortOn_perm _ _, (pairwise_sortOn _ _).imp fun {a b} hab ↦ ?_⟩
    simp only [rank, hd, cond_false]
    rcases Prod.Lex.le_iff.1 hab with hlt | ⟨heq, -⟩
    · exact le_of_lt hlt
    · exact le_of_eq heq

theorem answers_answer (L : Listing ρ) (db : Db) (limit offset : ℤ) :
    L.Answers db limit offset (L.answer db limit offset) := by
  rw [Answers, answer]
  split
  · exact ⟨_, L.arranges_ordered db, rfl⟩
  · rfl

/-- An answer within `bigint`. -/
theorem answer_eq_ok (hbind : L.bindable = true) (db : Db)
    (hbigint : 0 ≤ limit ∧ limit ≤ Session.maxBigint ∧ 0 ≤ offset ∧ offset ≤ Session.maxBigint) :
    L.answer db limit offset =
      .ok (((L.ordered db).drop offset.toNat).take limit.toNat,
        (L.table db).rows.countP L.selects) := by
  have hok : Session.limitOffset limit offset (L.ordered db) =
      .ok (((L.ordered db).drop offset.toNat).take limit.toNat) := if_pos hbigint
  rw [answer, if_pos hbind, pageOf, hok, (L.arranges_ordered db).perm.length_eq, rows,
    ← List.countP_eq_length_filter]
  rfl

/-- A text that is bound before the others. -/
theorem run_bindText {β : Type} {text : Option String} {m : Unit → Tx β} {db : Db} {rest : Bool}
    {x : Except Fault (β × Db)} (h : (m ()).run db = if rest then x else .error (.db .data)) :
    (Session.bindText text >>= m).run db =
      if (text.all fun s ↦ !s.toList.contains (Char.ofNat 0)) && rest then x
      else .error (.db .data) := by
  rw [Session.bindText, Prog.require]
  cases text.all fun s ↦ !s.toList.contains (Char.ofNat 0) with
  | true => exact h
  | false => rfl

/-- The query for the page, and what comes after it: the total, and perhaps more queries. -/
theorem run_page {β : Type} (L : Listing ρ) (db : Db) (limit offset : ℤ) {m : List ρ → Tx β}
    {g : List ρ × ℕ → β} (hm : ∀ page, (m page).run db =
      .ok (g (page, (L.table db).rows.countP L.selects), db)) :
    ((.query fun db ↦ Session.limitOffset limit offset (L.ordered db)) >>= fun page ↦
      Session.column page >>= m : Tx β).run db =
        if true then (pageOf limit offset (L.ordered db)).map fun a ↦ (g a, db)
        else .error (.db .data) := by
  rw [if_pos rfl, Prog.run_bind_ok (Prog.run_query _ db), pageOf,
    (L.arranges_ordered db).perm.length_eq, rows, ← List.countP_eq_length_filter]
  rcases Session.limitOffset limit offset (L.ordered db) with e | page
  · rfl
  · exact hm page

/-- What comes out, in terms of the answer. -/
theorem map_answer {β : Type} (L : Listing ρ) {g : List ρ × ℕ → β} {x : Except Fault β}
    (h : x = if L.bindable then (pageOf limit offset (L.ordered db)).map g
      else .error (.db .data)) :
    x = (L.answer db limit offset).map g := by
  rw [h, answer]
  split
  · rfl
  · rfl

end Answers

/-! ### The seven listings -/

/-- `LeadService.list_for_user`. -/
def leads (user : User) (f : LeadFilters) : Listing Lead where
  texts := []
  table := Db.leads
  selects := LeadService.selects user f
  createdAt := Lead.createdAt

/-- `ClientService.list_clients`. -/
def clients (p : Platform) (user : User) (f : ClientFilters) : Listing Client where
  texts := [f.stage, f.sector, f.q]
  table := Db.clients
  selects := ClientService.selects p user f
  createdAt := Client.createdAt

/-- `ServiceService.list_services`. -/
def services (user : User) (f : ServiceFilters) : Listing Service where
  texts := [f.state, f.type]
  table := Db.services
  selects := ServiceService.selects user f
  createdAt := Service.createdAt

/-- `ServiceService.list_for_client`. -/
def servicesOf (clientId : Option UUID) (state type : Option String) : Listing Service where
  texts := [state, type]
  table := Db.services
  selects := ServiceService.selectsForClient clientId state type
  createdAt := Service.createdAt

/-- `TicketService.list_tickets`. -/
def tickets (clientId : Option UUID) (status priority : Option String) : Listing Ticket where
  texts := [status, priority]
  table := Db.tickets
  selects := TicketService.selects clientId status priority
  createdAt := Ticket.createdAt

/-- `MessageService.list_messages`. -/
def messages (clientId : UUID) (since : Option Time) : Listing Message where
  texts := []
  table := Db.messages
  selects := MessageService.selects clientId since
  createdAt := Message.createdAt
  descending := false

/-- `list_activity`. -/
def activity (clientId : Option UUID) : Listing ActivityLog where
  texts := []
  table := Db.activityLog
  selects := ActivityLogService.selects clientId
  createdAt := ActivityLog.createdAt

section Services

variable {p : Platform} {u : User}

theorem run_listForUser (f : LeadFilters) (db : Db) :
    (LeadService.listForUser u f).run db =
      ((leads u f).answer db f.limit f.offset).map fun a ↦ (a, db) :=
  map_answer (leads u f) (run_page (leads u f) db f.limit f.offset fun _ ↦ rfl)

theorem run_listClients (f : ClientFilters) (db : Db) :
    (ClientService.listClients p u f).run db =
      ((clients p u f).answer db f.limit f.offset).map fun a ↦ (a, db) :=
  map_answer (clients p u f) (run_bindText (run_bindText (run_bindText
    (run_page (clients p u f) db f.limit f.offset fun _ ↦ rfl))))

/-- The rows of a page, with their milestones. -/
def withMilestones (db : Db) (a : List Service × ℕ) : List ServiceWithMilestones × ℕ :=
  (a.1.map fun s ↦ ⟨s, ServiceService.milestonesOf db s.id⟩, a.2)

theorem run_listServices (f : ServiceFilters) (db : Db) :
    (ServiceService.listServices u f).run db =
      ((services u f).answer db f.limit f.offset).map fun a ↦ (withMilestones db a, db) :=
  map_answer (services u f) (run_bindText (run_bindText
    (run_page (services u f) db f.limit f.offset fun _ ↦ rfl)))

theorem run_listForClient (clientId : Option UUID) (limit offset : ℤ)
    (state type : Option String) (db : Db) :
    (ServiceService.listForClient clientId limit offset state type).run db =
      ((servicesOf clientId state type).answer db limit offset).map fun a ↦
        (withMilestones db a, db) :=
  map_answer (servicesOf clientId state type) (run_bindText (run_bindText
    (run_page (servicesOf clientId state type) db limit offset fun _ ↦ rfl)))

theorem run_listTickets (clientId : Option UUID) (limit offset : ℤ)
    (status priority : Option String) (db : Db) :
    (TicketService.listTickets clientId limit offset status priority).run db =
      ((tickets clientId status priority).answer db limit offset).map fun a ↦ (a, db) :=
  map_answer (tickets clientId status priority) (run_bindText (run_bindText
    (run_page (tickets clientId status priority) db limit offset fun _ ↦ rfl)))

theorem run_listMessages (clientId : UUID) (limit offset : ℤ) (since : Option Time) (db : Db) :
    (MessageService.listMessages clientId limit offset since).run db =
      ((messages clientId since).answer db limit offset).map fun a ↦ (a, db) :=
  map_answer (messages clientId since) (run_page (messages clientId since) db limit offset
    fun _ ↦ rfl)

/-- Here the total comes first. -/
theorem run_listActivity (limit offset : ℤ) (clientId : Option UUID) (db : Db) :
    (ActivityLogService.listActivity limit offset clientId).run db =
      ((activity clientId).answer db limit offset).map fun a ↦ (a, db) := by
  rw [ActivityLogService.listActivity, Prog.run_bind_ok (Prog.run_query _ db)]
  exact map_answer (activity clientId) (run_page (activity clientId) db limit offset fun _ ↦ rfl)

end Services

end Listing

end ZanovixCrm
