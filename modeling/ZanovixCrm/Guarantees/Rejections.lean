import ZanovixCrm.AdminPanel.ApiError
import ZanovixCrm.Api.Runs
import ZanovixCrm.Api.Wire

/-!
# Rejected transitions

A transition that the state machine refuses is an exception of the domain, and its handler answers
409 with the name of the error and the sorted successors. The panel reads both from the body.

The endpoint of a lead's status does not let the exception through. It catches it and raises an
`HTTPException` with the same details, which the handler of the framework's exceptions turns into
its envelope: the details become a part of a text, and the error code is that of the status. So
**the panel learns of the refused transition of a client or of a service, and never of that of a
lead** (`rejection_intact_iff`).
-/

namespace ZanovixCrm

variable {p : Platform} {s : Settings} {env : Env} {db : Db} {sub : Except Fault String} {u : User}

/-! ### Refusals -/

/-- The request of `u` is for a transition of a row that `u` reaches, and its target is no successor
of the current value. The texts are those of the successors. -/
inductive RefusedTransition (db : Db) (u : User) : Request → List String → Prop
  | lead {leadId : UUID} {status : LeadStatus} {l : Lead}
      (hfound : db.leads.find? leadId = some l) (hsees : u.sees l.ownerId = true)
      (hcan : LeadStatusMachine.canTransition l.status (TextEnum.text status) = false) :
      RefusedTransition db u (.updateLeadStatus leadId status)
        ((LeadStatusMachine.validTransitions l.status).map TextEnum.text)
  | client {clientId : UUID} {stage : String} {c : Client}
      (hrole : u.role ∈ [Role.admin, .comercial])
      (hfound : db.clients.find? clientId = some c) (hsees : u.sees c.ownerId = true)
      (hcan : ClientStageMachine.canTransition c.stage stage false = false) :
      RefusedTransition db u (.changeClientStage clientId stage)
        ((ClientStageMachine.validTransitions c.stage).map TextEnum.text)
  | service {serviceId : UUID} {state : String} {sv : Service}
      (hfound : db.services.find? serviceId = some sv) (hsees : u.seesService sv = true)
      (hcan : ServiceStateMachine.canTransition sv.state state = false) :
      RefusedTransition db u (.changeServiceState serviceId state)
        ((ServiceStateMachine.validTransitions sv.state).map TextEnum.text)

/-- The request is for the status of a lead. -/
def Request.isLeadStatus : Request → Bool
  | .updateLeadStatus _ _ => true
  | _ => false

/-- What the panel should learn of a refusal. -/
def ApiError.Intact (successors : List String) (e : ApiError) : Prop :=
  e.status = 409 ∧ e.errorCode = "invalid_transition" ∧
    e.allowed = some ((sorted successors).map JsonValue.str)

/-! ### The two paths -/

section Paths

variable {r : Request} {successors : List String}

/-- A request that is none of the portal's, and whose user passes the guard, is answered with the
exception of its transaction. -/
theorem handle_of_raises {m : Tx Response} {f : Fault} (hu : currentUser db sub = .ok u)
    (hportal : r.needsPortal = false) (hvalid : r.validate? p = some r)
    (hguard : (route p s env r).guard (.ok u) = .ok m) (hrun : m.run db = .error f) :
    handle p s env db sub (.bound r) = (f.response, db) := by
  have hmounted : mounted s r = true := by rw [mounted, hportal, Bool.not_false, Bool.or_true]
  simp only [handle, hmounted, if_true, hvalid, hu, hguard, respond, Prog.transact_of_error hrun]

/-- A row in scope is found, and a transaction ends at a transition of it that is not permitted. -/
theorem run_of_not_permitted {ρ α : Type} {q : Db → Option ρ} {x : ρ} {missing : Fault}
    {permitted : ρ → Bool} {refusal : ρ → Fault} {m : ρ → Unit → Tx α} (hfound : q db = some x)
    (hnot : permitted x = false) :
    ((.query q >>= fun found ↦ .demand found missing : Tx ρ) >>= fun x ↦
      .require (permitted x) (refusal x) >>= m x).run db = .error (refusal x) := by
  rw [Prog.run_bind_ok (Prog.run_lookup_some db hfound missing), hnot]
  rfl

/-- The lookup in a scope that has the row. -/
theorem filter_of_sees {ρ : Type} {found : Option ρ} {x : ρ} (sees : ρ → Bool)
    (hfound : found = some x) (hsees : sees x = true) : found.filter sees = some x := by
  rw [hfound, Option.filter_some, if_pos hsees]

theorem run_updateStatus_of_refused (env : Env) {leadId : UUID} {status : LeadStatus} {l : Lead}
    (hfound : db.leads.find? leadId = some l) (hsees : u.sees l.ownerId = true)
    (hcan : LeadStatusMachine.canTransition l.status (TextEnum.text status) = false) :
    (LeadService.updateStatus env u leadId status).run db =
      .error (.invalidTransition (TextEnum.text l.status) (TextEnum.text status)
        ((LeadStatusMachine.validTransitions l.status).map TextEnum.text)) :=
  run_of_not_permitted (filter_of_sees (fun l : Lead ↦ u.sees l.ownerId) hfound hsees) hcan

theorem run_changeStage_of_refused (env : Env) {clientId : UUID} {stage : String} {c : Client}
    (hfound : db.clients.find? clientId = some c) (hsees : u.sees c.ownerId = true)
    (hcan : ClientStageMachine.canTransition c.stage stage false = false) :
    (ClientService.changeStage env u clientId stage false).run db =
      .error (.invalidTransition (TextEnum.text c.stage) stage
        ((ClientStageMachine.validTransitions c.stage).map TextEnum.text)) :=
  run_of_not_permitted (filter_of_sees (fun c : Client ↦ u.sees c.ownerId) hfound hsees) hcan

theorem run_changeState_of_refused (env : Env) {serviceId : UUID} {state : String} {sv : Service}
    (hfound : db.services.find? serviceId = some sv) (hsees : u.seesService sv = true)
    (hcan : ServiceStateMachine.canTransition sv.state state = false) :
    (ServiceService.changeState env u serviceId state).run db =
      .error (.invalidTransition (TextEnum.text sv.state) state
        ((ServiceStateMachine.validTransitions sv.state).map TextEnum.text)) :=
  run_of_not_permitted (filter_of_sees u.seesService hfound hsees) hcan

/-- **The answer to a refused transition**: the envelope of the framework for a lead, and the
details of the transition otherwise. -/
theorem handle_refusedTransition (p : Platform) (s : Settings) (env : Env)
    (hu : currentUser db sub = .ok u) (h : RefusedTransition db u r successors) :
    ∃ source target, handle p s env db sub (.bound r) =
      (if r.isLeadStatus then
          ⟨409, .envelope (.invalidTransition source target (sorted successors))⟩
        else ⟨409, .invalidTransition source target (sorted successors)⟩, db) := by
  cases h with
  | @lead leadId status l hfound hsees hcan =>
    have hrun := Prog.run_mapError leadStatusHttp (LeadService.updateStatus env u leadId status) db
    rw [run_updateStatus_of_refused env hfound hsees hcan] at hrun
    exact ⟨_, _, (handle_of_raises hu rfl rfl rfl (Prog.run_bind_error hrun _)).trans rfl⟩
  | @client clientId stage c hrole hfound hsees hcan =>
    have hrun := run_changeStage_of_refused env hfound hsees hcan
    have hguard : (route p s env (.changeClientStage clientId stage)).guard (.ok u) = .ok _ :=
      if_pos hrole
    exact ⟨_, _, (handle_of_raises hu rfl rfl hguard (Prog.run_bind_error hrun _)).trans rfl⟩
  | service hfound hsees hcan =>
    have hrun := run_changeState_of_refused env hfound hsees hcan
    exact ⟨_, _, (handle_of_raises hu rfl rfl rfl (Prog.run_bind_error hrun _)).trans rfl⟩

end Paths

/-! ### What the panel makes of them -/

section Decoded

variable {w : Wire} {r : Request} {statusText : String} {successors : List String}

/-- The error that the panel makes of an answer. -/
def Response.apiError (s : Settings) (w : Wire) (statusText : String) (resp : Response) :
    Option ApiError :=
  ApiError.ofResponse statusText resp.status (resp.json s w)

/-- The details of a transition reach the panel. -/
theorem apiError_invalidTransition (s : Settings) (w : Wire)
    (statusText source target : String) (allowed : List String) :
    ∃ e, Response.apiError s w statusText ⟨409, .invalidTransition source target allowed⟩ =
        some e ∧
      e.status = 409 ∧ e.errorCode = "invalid_transition" ∧
      e.allowed = some (allowed.map JsonValue.str) :=
  ⟨_, rfl, rfl, rfl, rfl⟩

/-- The envelope has neither the name of the error nor the list. -/
theorem apiError_envelope (s : Settings) (w : Wire) (statusText : String) (status : ℕ)
    (detail : Detail) :
    ∃ e, Response.apiError s w statusText ⟨status, .envelope detail⟩ = some e ∧
      e.status = status ∧ e.errorCode = "HTTP_" ++ toString status ∧ e.allowed = none :=
  ⟨_, rfl, rfl, rfl, rfl⟩

theorem not_intact_envelope {status : ℕ} {detail : Detail} :
    ¬∃ e, Response.apiError s w statusText ⟨status, .envelope detail⟩ = some e ∧
      e.Intact successors := by
  rintro ⟨e, he, -, -, hsome⟩
  obtain ⟨e', he', -, -, hnone⟩ := apiError_envelope s w statusText status detail
  obtain rfl := Option.some.inj (he.symm.trans he')
  exact absurd (hnone.symm.trans hsome) (Option.some_ne_none _).symm

end Decoded

/-! ### One of each -/

/-- A wire for an example. -/
def Wire.sample : Wire where
  uuid := toString
  datetime
    | .aware t => toString t ++ "Z"
    | .naive t => toString t.val
  date := toString
  lower s := String.ofList (s.toList.map Char.toLower)
  document _ := .null
  logRef := "ERR-0"
  accessToken := ""
  expiresAt := ""
  validationErrors := []
  validationMessage := ""

/-- The operator of the examples. -/
def operator : User := .sample 1 (.lit "root@example.com") .admin none

/-- A new lead and a new client. -/
def newcomers : Db :=
  let send (first : ℕ) (r : Request) : Act :=
    .request (.sample first) (.ok "root@example.com") (.bound r)
  (run .sample .sample
    [.account (.insert operator),
      send 10 (.createLead ⟨[], none⟩
        ⟨"Ada", "ada@example.com", none, none, .general, .webForm, none, none, none⟩),
      send 20 (.createClient ⟨"Acme", none, none, none, none, none, "lead"⟩)]).db

theorem currentUser_newcomers : currentUser newcomers (.ok "root@example.com") = .ok operator := by
  decide +kernel

/-- The lead cannot be converted yet. -/
theorem refusedTransition_lead :
    RefusedTransition newcomers operator (.updateLeadStatus 10 .converted)
      ["contacted", "disqualified"] := by
  have hnew : (newcomers.leads.find? 10).any (fun l ↦ decide (l.status = .new)) = true := by
    decide +kernel
  obtain ⟨l, hfound, hl⟩ := (Option.any_eq_true _ _).1 hnew
  have h : RefusedTransition newcomers operator (.updateLeadStatus 10 .converted) _ :=
    .lead hfound rfl (by rw [of_decide_eq_true hl]; decide)
  rw [of_decide_eq_true hl] at h
  exact h

/-- No stage of a client has the name. -/
theorem refusedTransition_client :
    RefusedTransition newcomers operator (.changeClientStage 20 "won")
      ["discovery_scheduled", "lost"] := by
  have hlead : (newcomers.clients.find? 20).any (fun c ↦ decide (c.stage = .lead)) = true := by
    decide +kernel
  obtain ⟨c, hfound, hc⟩ := (Option.any_eq_true _ _).1 hlead
  have h : RefusedTransition newcomers operator (.changeClientStage 20 "won") _ :=
    .client (by decide) hfound rfl (by rw [of_decide_eq_true hc]; decide)
  rw [of_decide_eq_true hc] at h
  exact h

end ZanovixCrm
