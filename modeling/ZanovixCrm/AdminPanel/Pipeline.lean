import ZanovixCrm.Database.Models
import ZanovixCrm.Library.Table

/-!
# The pipeline page

`PipelinePage` loads the clients once and keeps them. In the kanban view it mounts a `KanbanBoard`,
which begins with a copy of them and from then on goes its own way; in the list view it shows its
own. A card that is dropped on another column is moved at once, and moved back if the server
refuses: `useStageTransition` keeps a function for that in a ref, one for the whole board, that
restores the list as it was before the last move. A board that has been unmounted still awaits its
requests, but what it then does is not seen.

Boards are numbered in the order in which they are mounted. The clients that the server has stored
are part of the state.
-/

namespace ZanovixCrm

/-- `ViewMode`. -/
inductive ViewMode where
  | kanban | list
deriving DecidableEq

/-- A mounted `KanbanBoard`. -/
structure KanbanBoard where
  number : ℕ
  clients : List Client
  /-- The list that the function in `revertRef` restores. -/
  revertRef : Option (List Client)

/-- A call of `patchClientStage` in flight. -/
structure Transition where
  /-- The board that has started it. -/
  board : ℕ
  id : UUID
  toStage : ClientStage
  /-- Whether the server has accepted it, once it has decided. -/
  decision : Option Bool
deriving DecidableEq

/-- The page, its requests in flight, and the clients on the server. -/
structure Pipeline where
  stored : Table Client
  /-- The clients of the page. -/
  clients : List Client
  /-- The board, in the kanban view. -/
  board : Option KanbanBoard
  transitions : List Transition
  /-- The number of boards that have been mounted. -/
  boards : ℕ

/-- What happens. -/
inductive PipelineEvent where
  /-- A card is dropped on a column, or elsewhere. -/
  | dragEnd (clientId : UUID) (column : Option ClientStage)
  /-- The server accepts or refuses a transition. -/
  | decide (i : ℕ) (accepted : Bool)
  /-- The answer arrives. -/
  | deliver (i : ℕ)
  | setView (view : ViewMode)
deriving DecidableEq

/-- `{ ...c, stage: toStage }`, for the client with the id. -/
def moveTo (id : UUID) (toStage : ClientStage) (c : Client) : Client :=
  if c.id = id then { c with stage := toStage } else c

/-- The optimistic update of `useStageTransition`. -/
def KanbanBoard.move (b : KanbanBoard) (id : UUID) (toStage : ClientStage) : KanbanBoard :=
  { b with clients := b.clients.map (moveTo id toStage), revertRef := some b.clients }

/-- What `useStageTransition` does when the answer is there. -/
def KanbanBoard.settle (b : KanbanBoard) (accepted : Bool) : KanbanBoard :=
  if accepted then { b with revertRef := none }
  else { b with clients := b.revertRef.getD b.clients, revertRef := none }

namespace Pipeline

/-- The kanban view: a new board begins with the clients of the page. -/
def mountBoard (s : Pipeline) : Pipeline :=
  { s with board := some ⟨s.boards, s.clients, none⟩, boards := s.boards + 1 }

/-- The page, with the clients that it has loaded. -/
def loaded (stored : Table Client) : Pipeline :=
  mountBoard ⟨stored, stored.rows, none, [], 0⟩

/-- The clients in the view that is selected. -/
def clientsInView (s : Pipeline) : List Client :=
  match s.board with
  | some b => b.clients
  | none => s.clients

/-- The clients that the page lists. Neither view shows those that are lost. -/
def listed (s : Pipeline) : List Client := s.clientsInView.filter fun c ↦ c.stage ≠ .lost

/-- The view that is selected. -/
def view (s : Pipeline) : ViewMode := if s.board.isSome then .kanban else .list

/-- `handleDragEnd`. -/
def handleDragEnd (s : Pipeline) (b : KanbanBoard) (clientId : UUID) (toStage : ClientStage) :
    Pipeline :=
  match b.clients.find? fun c ↦ decide (c.id = clientId) with
  | none => s
  | some client =>
    if client.stage = toStage then s
    else
      { s with
        board := some (b.move clientId toStage)
        transitions := s.transitions ++ [⟨b.number, clientId, toStage, none⟩] }

theorem id_stage (toStage : ClientStage) (c : Client) :
    key { c with stage := toStage } = key c :=
  rfl

/-- The server stores the stage. -/
def store (s : Pipeline) (id : UUID) (toStage : ClientStage) : Pipeline :=
  { s with stored := s.stored.alter id ⟨fun c ↦ { c with stage := toStage }, id_stage toStage⟩ }

/-- The board that has started the transition, if it is still there. -/
def boardOf (s : Pipeline) (t : Transition) : Option KanbanBoard :=
  s.board.filter fun b ↦ decide (b.number = t.board)

/-- **One event.** One that cannot happen changes nothing. -/
def step (s : Pipeline) : PipelineEvent → Pipeline
  | .dragEnd clientId column =>
    match s.board, column with
    | some b, some toStage => s.handleDragEnd b clientId toStage
    | _, _ => s
  | .decide i accepted =>
    match s.transitions[i]? with
    | none => s
    | some t =>
      if t.decision.isSome then s
      else
        let s := { s with transitions := s.transitions.set i { t with decision := some accepted } }
        if accepted then s.store t.id t.toStage else s
  | .deliver i =>
    match s.transitions[i]? with
    | none => s
    | some t =>
      match t.decision with
      | none => s
      | some accepted =>
        let board := match s.boardOf t with
          | some b => some (b.settle accepted)
          | none => s.board
        { s with board := board, transitions := s.transitions.eraseIdx i }
  | .setView .kanban => if s.board.isSome then s else s.mountBoard
  | .setView .list => { s with board := none }

end Pipeline

end ZanovixCrm
