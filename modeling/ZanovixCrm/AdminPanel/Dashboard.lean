import ZanovixCrm.Library.JsNumber
import ZanovixCrm.Schemas.Responses

/-!
# The dashboard

`DashboardPage` asks for the clients, the services and the activity at once, and takes each answer
or failure as it is. From the clients and the services it computes the figures that it shows; if
`clientsError` is set, and not empty, it shows a banner in their place. A list of clients that is
not complete is reported on the console.

Amounts are numbers of JavaScript, read from the answer and summed up. The flag that shows the
skeleton until all three have settled, the widths of the bars and the texts around the figures are
left out.
-/

namespace ZanovixCrm

/-- How a request has ended: with a value, or with a reason, which has a message if it is an
`Error`. -/
inductive PromiseSettledResult (α : Type) where
  | fulfilled (value : α)
  | rejected (message : Option String)

/-- The state of `DashboardPage`, and whether it has warned of a capped accuracy. -/
structure Dashboard where
  clients : List Client
  clientsTotal : ℕ
  services : Option (Page Service)
  activity : Option (Page ActivityLog)
  clientsError : Option String
  activityError : Option String
  warned : Bool

/-- What the dashboard shows of the clients and the services. -/
structure Figures where
  mrr : Option ℤ
  pipelineValue : Option ℤ
  dealsInMotion : ℕ
  /-- `funnelRows`: the number of clients at each stage. -/
  funnel : List (ClientStage × ℕ)
deriving DecidableEq

/-- `PIPELINE_STAGES`. -/
def pipelineStages : List ClientStage :=
  [.lead, .discoveryScheduled, .discoveryDone, .proposalSent, .active]

/-- `DEALS_IN_MOTION_STAGES`. -/
def dealsInMotionStages : List ClientStage := [.discoveryScheduled, .discoveryDone, .proposalSent]

/-- `PIPELINE_SERVICE_STATES`. -/
def pipelineServiceStates : List ServiceState := [.scoping, .running]

/-- `cents ?? 0`. -/
def cents (amount : Option (PgInt 64)) : ℤ := amount.elim 0 PgInt.val

/-- The amounts of the active clients. -/
def mrrCents (clients : List Client) : List ℤ :=
  (clients.filter fun c ↦ decide (c.stage = .active)).map fun c ↦ cents c.mrrCents

/-- The amounts of the services in the pipeline. -/
def setupPriceCents (services : List Service) : List ℤ :=
  (services.filter fun sv ↦ pipelineServiceStates.contains sv.state).map fun sv ↦
    cents sv.setupPriceCents

/-- The number of clients at each stage of the funnel. -/
def funnelCounts (clients : List Client) : List (ClientStage × ℕ) :=
  pipelineStages.map fun stage ↦ (stage, clients.countP fun c ↦ decide (c.stage = stage))

/-- The number of clients whose deal is in motion. -/
def dealsCount (clients : List Client) : ℕ :=
  clients.countP fun c ↦ dealsInMotionStages.contains c.stage

namespace Dashboard

/-- The page has just been mounted. -/
def mounted : Dashboard := ⟨[], 0, none, none, none, none, false⟩

def receiveClients (d : Dashboard) : PromiseSettledResult (Page Client) → Dashboard
  | .fulfilled data =>
    { d with
      clients := data.items
      clientsTotal := data.total
      warned := d.warned || decide (data.items.length < data.total) }
  | .rejected message => { d with clientsError := some (message.getD "Error al cargar datos") }

def receiveServices (d : Dashboard) (clientsResult : PromiseSettledResult (Page Client)) :
    PromiseSettledResult (Page Service) → Dashboard
  | .fulfilled data => { d with services := some data }
  | .rejected _ =>
    match clientsResult with
    | .fulfilled _ => { d with clientsError := some "Error al cargar servicios" }
    | .rejected _ => d

def receiveActivity (d : Dashboard) : PromiseSettledResult (Page ActivityLog) → Dashboard
  | .fulfilled data => { d with activity := some data }
  | .rejected message => { d with activityError := some (message.getD "Error al cargar actividad") }

/-- `fetchAll`, when all three requests have settled. -/
def fetchAll (d : Dashboard) (clientsResult : PromiseSettledResult (Page Client))
    (servicesResult : PromiseSettledResult (Page Service))
    (activityResult : PromiseSettledResult (Page ActivityLog)) : Dashboard :=
  (({ d with clientsError := none, activityError := none }.receiveClients
    clientsResult).receiveServices clientsResult servicesResult).receiveActivity activityResult

/-- An empty message is falsy. -/
def isDegraded (d : Dashboard) : Bool := d.clientsError.any fun message ↦ decide (message ≠ "")

def mrr (d : Dashboard) : Option ℤ :=
  if d.isDegraded then none else some (JsNumber.sum ((mrrCents d.clients).map JsNumber.ofInt))

def pipelineValue (d : Dashboard) : Option ℤ :=
  match d.services with
  | none => none
  | some page =>
    if d.isDegraded then none
    else some (JsNumber.sum ((setupPriceCents page.items).map JsNumber.ofInt))

def dealsInMotion (d : Dashboard) : Option ℕ :=
  if d.isDegraded then none else some (dealsCount d.clients)

/-- The figures that are shown, unless the dashboard is degraded. -/
def figures (d : Dashboard) : Figures where
  mrr := d.mrr
  pipelineValue := d.pipelineValue
  dealsInMotion := d.dealsInMotion.getD 0
  funnel := funnelCounts d.clients

section Activity

variable (d : Dashboard) (activityResult : PromiseSettledResult (Page ActivityLog))

@[simp] theorem isDegraded_receiveActivity :
    (d.receiveActivity activityResult).isDegraded = d.isDegraded := by
  cases activityResult <;> rfl

@[simp] theorem warned_receiveActivity :
    (d.receiveActivity activityResult).warned = d.warned := by
  cases activityResult <;> rfl

@[simp] theorem figures_receiveActivity :
    (d.receiveActivity activityResult).figures = d.figures := by
  cases activityResult <;> rfl

end Activity

end Dashboard

/-! ### The aggregates do not depend on the order -/

section Perm

variable {clients clients' : List Client} {services services' : List Service}

theorem mrrCents_perm (h : clients.Perm clients') : (mrrCents clients).Perm (mrrCents clients') :=
  (h.filter _).map _

theorem setupPriceCents_perm (h : services.Perm services') :
    (setupPriceCents services).Perm (setupPriceCents services') :=
  (h.filter _).map _

theorem setupPriceCents_append (services services' : List Service) :
    setupPriceCents (services ++ services') =
      setupPriceCents services ++ setupPriceCents services' := by
  rw [setupPriceCents, List.filter_append, List.map_append]
  rfl

theorem funnelCounts_perm (h : clients.Perm clients') :
    funnelCounts clients = funnelCounts clients' :=
  List.map_congr_left fun stage _ ↦ congrArg (Prod.mk stage) (h.countP_eq _)

theorem dealsCount_perm (h : clients.Perm clients') : dealsCount clients = dealsCount clients' :=
  h.countP_eq _

/-- The funnel is empty if every client is lost. -/
theorem funnelCounts_nil_iff : funnelCounts [] = funnelCounts clients ↔
    ∀ c ∈ clients, c.stage = .lost := by
  simp only [funnelCounts, pipelineStages, List.map_cons, List.map_nil, List.countP_nil,
    List.cons.injEq, Prod.mk.injEq, true_and, and_true, eq_comm (a := 0), List.countP_eq_zero,
    decide_eq_true_eq]
  constructor
  · rintro ⟨hlead, hscheduled, hdone, hsent, hactive⟩ c hc
    rcases hstage : c.stage with - | - | - | - | - | -
    · exact absurd hstage (hlead c hc)
    · exact absurd hstage (hscheduled c hc)
    · exact absurd hstage (hdone c hc)
    · exact absurd hstage (hsent c hc)
    · exact absurd hstage (hactive c hc)
    · rfl
  · intro h
    refine ⟨?_, ?_, ?_, ?_, ?_⟩ <;> intro c hc <;> rw [h c hc] <;> decide

theorem mrrCents_of_lost (h : ∀ c ∈ clients, c.stage = .lost) : mrrCents clients = [] := by
  rw [mrrCents, List.filter_eq_nil_iff.2 fun c hc ↦ by rw [h c hc]; decide]
  rfl

theorem dealsCount_of_lost (h : ∀ c ∈ clients, c.stage = .lost) : dealsCount clients = 0 :=
  List.countP_eq_zero.2 fun c hc ↦ by rw [h c hc]; decide

end Perm

end ZanovixCrm
