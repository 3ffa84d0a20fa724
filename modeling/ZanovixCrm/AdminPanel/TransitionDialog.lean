import ZanovixCrm.AdminPanel.ApiError
import ZanovixCrm.Api.Auth
import ZanovixCrm.Api.Runs
import ZanovixCrm.Api.Wire

/-!
# The transition dialogs

`StageTransitionDialog` on the page of a client and `ServiceStateTransitionDialog` on that of a
service are one component for two machines. The options are those of a table of the panel; once the
server has refused a target with a list, they are those of the list. The list and the target are
taken back when the dialog is dismissed, but not by its cancel button or by a success: those close
it without `handleOpen`.

The page loads its row, mounts the dialog, and unmounts it while it loads again; a call that has
been started goes on. Dialogs are numbered in the order in which they are mounted. The state has the
database of the server beside the page, and what each dialog has been told. Texts that are only
shown are left out, and so is the way to the login page after a 401.
-/

namespace ZanovixCrm

/-! ### The two machines -/

/-- What the two dialogs do not have in common. -/
structure TransitionApi (α : Type) where
  /-- The table of the panel. -/
  valid : α → List α
  /-- The call with a target. -/
  patch : JsonValue → Call
  /-- The value of the row that is answered. -/
  updated : Body → Option α

/-- `VALID_CLIENT_STAGE_TRANSITIONS`. -/
def validClientStageTransitions : ClientStage → List ClientStage
  | .lead => [.discoveryScheduled, .lost]
  | .discoveryScheduled => [.discoveryDone, .lost]
  | .discoveryDone => [.proposalSent, .lost]
  | .proposalSent => [.active, .lost]
  | .active => [.lost]
  | .lost => []

/-- `VALID_SERVICE_STATE_TRANSITIONS`. Two of its transitions are none of the server's. -/
def validServiceStateTransitions : ServiceState → List ServiceState
  | .scoping => [.running, .paused]
  | .running => [.review, .paused]
  | .review => [.running, .completed, .paused]
  | .completed => [.maintenance]
  | .maintenance => [.paused]
  | .paused => [.scoping, .running, .review]

/-- `StageTransitionDialog`, with `patchClientStage`. -/
def stageTransition (clientId : UUID) : TransitionApi ClientStage where
  valid := validClientStageTransitions
  patch
    | .str stage => .bound (.changeClientStage clientId stage)
    | _ => .malformed (.changeClientStage clientId "")
  updated
    | .client c => some c.stage
    | _ => none

/-- `ServiceStateTransitionDialog`, with `patchServiceState`. -/
def serviceStateTransition (serviceId : UUID) : TransitionApi ServiceState where
  valid := validServiceStateTransitions
  patch
    | .str state => .bound (.changeServiceState serviceId state)
    | _ => .malformed (.changeServiceState serviceId "")
  updated
    | .service sm => some sm.service.state
    | _ => none

/-! ### The dialog -/

/-- `a === b`, of values from two answers: arrays and objects are never the same. -/
def JsonValue.same : JsonValue → JsonValue → Bool
  | .null, .null => true
  | .bool a, .bool b => a == b
  | .num a, .num b => a == b
  | .str a, .str b => a == b
  | _, _ => false

/-- A mounted dialog. -/
structure TransitionDialog where
  number : ℕ
  /-- `open`. -/
  isOpen : Bool
  /-- `targetStage` or `targetState`. -/
  target : Option JsonValue
  isSaving : Bool
  serverAllowed : Option (List JsonValue)

/-- The list that a 409 brings. -/
def ApiError.narrowed? (e : ApiError) : Option (List JsonValue) :=
  if e.status = 409 then e.allowed else none

namespace TransitionDialog

/-- The dialog when it is mounted. -/
def mount (number : ℕ) : TransitionDialog := ⟨number, false, none, false, none⟩

/-- `allowedStages` or `allowedStates`. -/
def options {α : Type} [TextEnum α] (d : TransitionDialog) (api : TransitionApi α) (current : α) :
    List JsonValue :=
  d.serverAllowed.getD ((api.valid current).map enumJson)

/-- `handleOpen`. -/
def handleOpen (d : TransitionDialog) (isOpen : Bool) : TransitionDialog :=
  if isOpen then { d with isOpen := true }
  else { d with isOpen := false, target := none, serverAllowed := none }

/-- `handleConfirm`, after a success. -/
def succeed (d : TransitionDialog) : TransitionDialog :=
  { d with isOpen := false, isSaving := false }

/-- `handleConfirm`, after an exception; it is none of the client's if there is no `ApiError`. The
target is the one of the call. -/
def settle (d : TransitionDialog) (target : JsonValue) (err : Option ApiError) :
    TransitionDialog :=
  match err.bind ApiError.narrowed? with
  | some allowed =>
    { d with
      isSaving := false
      serverAllowed := some allowed
      target := if allowed.any target.same then d.target else none }
  | none => { d with isSaving := false }

end TransitionDialog

/-! ### The page -/

/-- A call that a dialog awaits. -/
structure TransitionCall where
  /-- The dialog that has started it. -/
  dialog : ℕ
  target : JsonValue
  /-- The answer, once the server has given it. -/
  answer : Option Response

/-- What a dialog is told. -/
inductive Told where
  | answered (resp : Response)
  /-- There is no answer. -/
  | failed
  /-- The user has closed it. -/
  | dismissed

/-- The page, the calls that its dialogs await, and the server. -/
structure TransitionPage (α : Type) where
  db : Db
  /-- The stage or state of the row as the page shows it. -/
  current : α
  /-- The dialog, unless the page is loading. -/
  dialog : Option TransitionDialog
  /-- The number of dialogs that have been mounted. -/
  dialogs : ℕ
  calls : List TransitionCall
  /-- What each dialog has been told, oldest first. -/
  history : List (ℕ × Told)

/-- What happens. -/
inductive TransitionEvent (α : Type) where
  /-- `onOpenChange`. -/
  | openChange (isOpen : Bool)
  | cancel
  /-- An option is clicked. -/
  | choose (i : ℕ)
  | confirm
  /-- The server handles a call, which carries a token with an address, or it is told why not. -/
  | serve (i : ℕ) (env : Env) (session : Except String String)
  /-- Its answer arrives. -/
  | deliver (i : ℕ)
  /-- The call is rejected without an answer. -/
  | fail (i : ℕ)
  /-- The page loads its row again. -/
  | fetch
  /-- It has done so, or failed. -/
  | fetched (current : Option α)
  /-- Something else happens on the server. -/
  | act (a : Act)

namespace TransitionPage

variable {α : Type}

/-- The page before its row is there. -/
def loading (db : Db) (current : α) : TransitionPage α := ⟨db, current, none, 0, [], []⟩

/-- The dialog with this number is told something. -/
def tell (s : TransitionPage α) (number : ℕ) (t : Told) : TransitionPage α :=
  { s with history := s.history ++ [(number, t)] }

/-- The dialog that has made the call does something, if it is still there. -/
def update (s : TransitionPage α) (c : TransitionCall) (f : TransitionDialog → TransitionDialog) :
    TransitionPage α :=
  { s with dialog := s.dialog.map fun d ↦ if d.number = c.dialog then f d else d }

/-- The call is no longer awaited. -/
def drop (s : TransitionPage α) (i : ℕ) : TransitionPage α :=
  { s with calls := s.calls.eraseIdx i }

/-- An answer arrives: `handleConfirm` goes on. After a success the page takes the new value over,
whether or not the dialog is still there. -/
def receive (settings : Settings) (w : Wire) (statusText : String) (api : TransitionApi α)
    (s : TransitionPage α) (c : TransitionCall) (resp : Response) : TransitionPage α :=
  if resp.isOk then
    { s.update c TransitionDialog.succeed with current := (api.updated resp.body).getD s.current }
  else
    s.update c fun d ↦
      d.settle c.target (ApiError.ofResponse statusText resp.status (resp.json settings w))

/-- **One event.** One that cannot happen changes nothing. -/
def step [TextEnum α] (p : Platform) (settings : Settings) (w : Wire) (statusText : String)
    (api : TransitionApi α) (s : TransitionPage α) : TransitionEvent α → TransitionPage α
  | .openChange isOpen =>
    match s.dialog with
    | none => s
    | some d =>
      let s := { s with dialog := some (d.handleOpen isOpen) }
      if isOpen then s else s.tell d.number .dismissed
  | .cancel =>
    match s.dialog with
    | none => s
    | some d => if d.isSaving then s else { s with dialog := some { d with isOpen := false } }
  | .choose i =>
    match s.dialog with
    | none => s
    | some d =>
      match (d.options api s.current)[i]? with
      | none => s
      | some option =>
        if d.isOpen then { s with dialog := some { d with target := some option } } else s
  | .confirm =>
    match s.dialog with
    | none => s
    | some d =>
      match d.target with
      | none => s
      | some target =>
        -- The button is disabled without a target, and while a call is awaited.
        if d.isOpen && !d.isSaving && target.truthy then
          { s with
            dialog := some { d with isSaving := true }
            calls := s.calls ++ [⟨d.number, target, none⟩] }
        else s
  | .serve i env session =>
    match s.calls[i]? with
    | none => s
    | some c =>
      if c.answer.isSome then s
      else
        let (resp, db) := handle p settings env s.db (session.mapError unauthorized)
          (api.patch c.target)
        { s with db, calls := s.calls.set i { c with answer := some resp } }
  | .deliver i =>
    match s.calls[i]? with
    | none => s
    | some c =>
      match c.answer with
      | none => s
      | some resp =>
        ((s.drop i).receive settings w statusText api c resp).tell c.dialog (.answered resp)
  | .fail i =>
    match s.calls[i]? with
    | none => s
    | some c =>
      ((s.drop i).update c fun d ↦ d.settle c.target none).tell c.dialog .failed
  | .fetch => { s with dialog := none }
  | .fetched current =>
    let s := { s with current := current.getD s.current }
    if s.dialog.isSome then s
    else { s with dialog := some (.mount s.dialogs), dialogs := s.dialogs + 1 }
  | .act a => { s with db := (a.perform p settings s.db).2 }

end TransitionPage

end ZanovixCrm
