import ZanovixCrm.AdminPanel.Pipeline
import ZanovixCrm.Library.Transitions

/-!
# The pipeline page and the server

A refusal restores the whole list, as it was before the move that happened to be the last one; and
the clients of the page itself are never touched. So when several cards are on their way, a refusal
can put back one that has been accepted or leave one where it was dropped (`pipeline_diverges`), and
whoever changes the view sees the stages that were loaded.

The page agrees with the server as long as a refusal finds in the ref the list with just its own
card put back, the view is changed only while the clients of the page have their stored stages, and
no transition is accepted after its board has gone (`Pipeline.Safe`). Then the page shows what is
stored once nothing is in flight (`pipeline_converges`).
-/

namespace ZanovixCrm

namespace Pipeline

/-- The stage that the server has stored for a client. -/
def storedStage (s : Pipeline) (id : UUID) : Option ClientStage :=
  (s.stored.find? id).map Client.stage

/-- **The page shows what is stored.** -/
def Converged (s : Pipeline) : Prop := ∀ c ∈ s.listed, s.storedStage c.id = some c.stage

/-- Nothing is in flight. -/
def Quiet (s : Pipeline) : Prop := s.transitions = []

instance (s : Pipeline) : Decidable s.Quiet := inferInstanceAs (Decidable (s.transitions = []))

/-- The board that has started the transition is still there. -/
def Own (s : Pipeline) (t : Transition) : Prop := ∃ b, s.board = some b ∧ b.number = t.board

/-- The list of a board, with one card put back to its stored stage. -/
def putBack (s : Pipeline) (b : KanbanBoard) (id : UUID) : List Client :=
  b.clients.map fun c ↦ moveTo id ((s.storedStage id).getD c.stage) c

/-- A card is dragged while no transition of it is in flight. -/
def OneEach (s : Pipeline) : PipelineEvent → Prop
  | .dragEnd clientId _ => ∀ t ∈ s.transitions, t.id ≠ clientId
  | _ => True

instance (s : Pipeline) : (e : PipelineEvent) → Decidable (s.OneEach e)
  | .dragEnd clientId _ => inferInstanceAs (Decidable (∀ t ∈ s.transitions, t.id ≠ clientId))
  | .decide _ _ | .deliver _ | .setView _ => isTrue trivial

/-- **The event is safe.** A card is dragged while no transition of it is in flight. A transition is
accepted while its board is there, unless its card is shown at the new stage anyhow. A refusal finds
in the ref the list with its card put back. And the view is changed while the clients of the page
have their stored stages. -/
def Safe (s : Pipeline) : PipelineEvent → Prop
  | .dragEnd clientId _ => ∀ t ∈ s.transitions, t.id ≠ clientId
  | .decide i accepted => ∀ t ∈ s.transitions[i]?, accepted = true → (s.boardOf t).isNone →
      ∀ c ∈ s.clientsInView, c.id = t.id → c.stage = t.toStage
  | .deliver i => ∀ t ∈ s.transitions[i]?, t.decision = some false → ∀ b ∈ s.boardOf t,
      b.revertRef = some (s.putBack b t.id)
  | .setView view => view = s.view ∨ ∀ c ∈ s.clients, s.storedStage c.id = some c.stage

instance (s : Pipeline) : (e : PipelineEvent) → Decidable (s.Safe e)
  | .dragEnd clientId _ => inferInstanceAs (Decidable (∀ t ∈ s.transitions, t.id ≠ clientId))
  | .decide i accepted => inferInstanceAs (Decidable (∀ t ∈ s.transitions[i]?, accepted = true →
      (s.boardOf t).isNone → ∀ c ∈ s.clientsInView, c.id = t.id → c.stage = t.toStage))
  | .deliver i => inferInstanceAs (Decidable (∀ t ∈ s.transitions[i]?, t.decision = some false →
      ∀ b ∈ s.boardOf t, b.revertRef = some (s.putBack b t.id)))
  | .setView view => inferInstanceAs (Decidable (view = s.view ∨
      ∀ c ∈ s.clients, s.storedStage c.id = some c.stage))

/-- **The page agrees with the server**: a card whose transition is in flight is where it was
dropped, if its board is still there; all others have their stored stages. -/
structure Agrees (s : Pipeline) : Prop where
  /-- One transition for a card. -/
  ids : (s.transitions.map Transition.id).Nodup
  known : ∀ c ∈ s.clientsInView, s.stored.has c.id = true
  moved : ∀ c ∈ s.clientsInView, ∀ t ∈ s.transitions, t.id = c.id → s.Own t → c.stage = t.toStage
  settled : ∀ c ∈ s.clientsInView, (∀ t ∈ s.transitions, t.id = c.id → ¬s.Own t) →
    s.storedStage c.id = some c.stage
  accepted : ∀ t ∈ s.transitions, t.decision = some true →
    ∀ stage, s.storedStage t.id = some stage → stage = t.toStage
  /-- The boards are numbered. -/
  numbers : ∀ b, s.board = some b → b.number < s.boards
  started : ∀ t ∈ s.transitions, t.board < s.boards

section Agrees

variable {s : Pipeline} {b : KanbanBoard} {t : Transition}

theorem moveTo_id (id : UUID) (stage : ClientStage) (c : Client) :
    (moveTo id stage c).id = c.id := by
  rw [moveTo]
  split <;> rfl

theorem moveTo_stage_of_eq {id : UUID} {c : Client} (h : c.id = id) (stage : ClientStage) :
    (moveTo id stage c).stage = stage := by
  rw [moveTo, if_pos h]

theorem moveTo_of_ne {id : UUID} {c : Client} (h : c.id ≠ id) (stage : ClientStage) :
    moveTo id stage c = c := by
  rw [moveTo, if_neg h]

theorem boardOf_eq_some_iff : s.boardOf t = some b ↔ s.board = some b ∧ b.number = t.board := by
  rw [boardOf, Option.filter_eq_some_iff, decide_eq_true_eq]

theorem own_iff : s.Own t ↔ s.board.map KanbanBoard.number = some t.board :=
  Option.map_eq_some_iff.symm

theorem isNone_boardOf_iff : (s.boardOf t).isNone = true ↔ ¬s.Own t := by
  rw [Option.isNone_iff_eq_none, Option.eq_none_iff_forall_ne_some, Own, not_exists]
  exact forall_congr' fun b ↦ not_congr boardOf_eq_some_iff

/-- **Once nothing is in flight**, the page shows what is stored. -/
theorem Agrees.converged (h : s.Agrees) (hquiet : s.Quiet) : s.Converged := by
  intro c hc
  refine h.settled c (List.mem_of_mem_filter hc) fun t ht ↦ ?_
  rw [hquiet] at ht
  exact nomatch ht

/-- A transition among those in flight. -/
theorem exists_split {l : List Transition} {i : ℕ} (h : l[i]? = some t) :
    ∃ l₁ l₂, l = l₁ ++ t :: l₂ ∧ l.eraseIdx i = l₁ ++ l₂ ∧ ∀ t', l.set i t' = l₁ ++ t' :: l₂ := by
  induction l generalizing i with
  | nil => exact nomatch h
  | cons t₀ l ih =>
    cases i with
    | zero =>
      obtain rfl : t₀ = t := Option.some.inj h
      exact ⟨[], l, rfl, rfl, fun _ ↦ rfl⟩
    | succ i =>
      obtain ⟨l₁, l₂, rfl, herase, hset⟩ := ih (i := i) h
      refine ⟨t₀ :: l₁, l₂, rfl, ?_, fun t' ↦ ?_⟩
      · rw [List.eraseIdx_cons_succ, herase]
        rfl
      · rw [List.set_cons_succ, hset]
        rfl

/-- A card is moved. -/
theorem Agrees.handleDragEnd (h : s.Agrees) (hboard : s.board = some b) {clientId : UUID}
    (toStage : ClientStage) (hfree : ∀ t ∈ s.transitions, t.id ≠ clientId) :
    (s.handleDragEnd b clientId toStage).Agrees := by
  rw [Pipeline.handleDragEnd]
  split
  · exact h
  · split
    · exact h
    · have hview : s.clientsInView = b.clients := by rw [clientsInView, hboard]
      have hown : ∀ t, Own { s with
          board := some (b.move clientId toStage)
          transitions := s.transitions ++ [⟨b.number, clientId, toStage, none⟩] } t ↔ s.Own t := by
        intro t
        constructor
        · rintro ⟨b', hb', hnumber⟩
          obtain rfl := Option.some.inj hb'
          exact ⟨b, hboard, hnumber⟩
        · rintro ⟨b', hb', hnumber⟩
          obtain rfl := Option.some.inj (hboard.symm.trans hb')
          exact ⟨_, rfl, hnumber⟩
      have hnew : s.Own ⟨b.number, clientId, toStage, none⟩ := ⟨b, hboard, rfl⟩
      -- A card of the board before the move, and after it.
      have hcard : ∀ c ∈ b.clients.map (moveTo clientId toStage),
          ∃ c₀ ∈ s.clientsInView, c.id = c₀.id ∧
            (c₀.id = clientId ∧ c.stage = toStage ∨ c₀.id ≠ clientId ∧ c = c₀) := by
        intro c hc
        obtain ⟨c₀, hc₀, rfl⟩ := List.mem_map.1 hc
        refine ⟨c₀, hview ▸ hc₀, moveTo_id _ _ _, ?_⟩
        by_cases hid : c₀.id = clientId
        · exact Or.inl ⟨hid, moveTo_stage_of_eq hid _⟩
        · exact Or.inr ⟨hid, moveTo_of_ne hid _⟩
      refine ⟨?_, fun c hc ↦ ?_, fun c hc t ht hid ho ↦ ?_, fun c hc hforeign ↦ ?_, fun t ht ↦ ?_,
        fun b' hb' ↦ ?_, fun t ht ↦ ?_⟩
      · rw [List.map_append]
        refine List.nodup_append.2 ⟨h.ids, List.nodup_singleton _, fun id hid id' hid' ↦ ?_⟩
        obtain ⟨t, ht, rfl⟩ := List.mem_map.1 hid
        rw [List.mem_singleton.1 hid']
        exact hfree t ht
      · obtain ⟨c₀, hc₀, hid, -⟩ := hcard c hc
        rw [hid]
        exact h.known c₀ hc₀
      · obtain ⟨c₀, hc₀, hsame, ⟨hc₀id, hstage⟩ | ⟨hc₀id, rfl⟩⟩ := hcard c hc
        · rcases List.mem_append.1 ht with ht | ht
          · exact absurd (hid.trans (hsame.trans hc₀id)) (hfree t ht)
          · rw [List.mem_singleton.1 ht]
            exact hstage
        · rcases List.mem_append.1 ht with ht | ht
          · exact h.moved c hc₀ t ht hid ((hown t).1 ho)
          · rw [List.mem_singleton.1 ht] at hid
            exact absurd hid.symm hc₀id
      · obtain ⟨c₀, hc₀, hsame, ⟨hc₀id, -⟩ | ⟨-, rfl⟩⟩ := hcard c hc
        · refine absurd ((hown _).2 hnew) (hforeign _ (List.mem_append_right _ ?_) ?_)
          · exact List.mem_singleton_self _
          · exact (hsame.trans hc₀id).symm
        · exact h.settled c hc₀ fun t ht hid ho ↦
            hforeign t (List.mem_append_left _ ht) hid ((hown t).2 ho)
      · rcases List.mem_append.1 ht with ht | ht
        · exact h.accepted t ht
        · rw [List.mem_singleton.1 ht]
          exact fun hdecision ↦ nomatch hdecision
      · obtain rfl := Option.some.inj hb'
        exact h.numbers b hboard
      · rcases List.mem_append.1 ht with ht | ht
        · exact h.started t ht
        · rw [List.mem_singleton.1 ht]
          exact h.numbers b hboard

/-- No other transition is one of the same card. -/
theorem Agrees.ids_ne (h : s.Agrees) {l₁ l₂ : List Transition}
    (hsplit : s.transitions = l₁ ++ t :: l₂) :
    ∀ t' ∈ l₁ ++ l₂, t'.id ≠ t.id := by
  have hids := h.ids
  rw [hsplit, List.map_append, List.map_cons, List.nodup_middle, ← List.map_append,
    List.nodup_cons] at hids
  exact fun t' ht' heq ↦ hids.1 (heq ▸ List.mem_map_of_mem ht')

theorem mem_split {l₁ l₂ : List Transition} (t' : Transition) :
    t' ∈ l₁ ++ t :: l₂ ↔ t' = t ∨ t' ∈ l₁ ++ l₂ := by
  rw [List.mem_append, List.mem_cons, List.mem_append]
  exact or_left_comm

theorem Agrees.eq_of_id_eq (h : s.Agrees) {t' : Transition} (ht' : t' ∈ s.transitions)
    (ht : t ∈ s.transitions) (hid : t'.id = t.id) : t' = t :=
  List.inj_on_of_nodup_map h.ids ht' ht hid

/-- The stage that is stored for a card on the page. -/
theorem Agrees.exists_storedStage (h : s.Agrees) {c : Client} (hc : c ∈ s.clientsInView) :
    ∃ stage, s.storedStage c.id = some stage := by
  obtain ⟨c', hc'⟩ := Option.isSome_iff_exists.1 (h.known c hc)
  exact ⟨c'.stage, by rw [storedStage, hc']; rfl⟩

theorem storedStage_store (id id' : UUID) (toStage : ClientStage) :
    (s.store id toStage).storedStage id' =
      if id' = id then (s.storedStage id').map fun _ ↦ toStage else s.storedStage id' := by
  rw [storedStage, store, Table.find?_alter]
  split
  · next hid =>
    rw [hid, storedStage, Option.map_map, Option.map_map]
    rfl
  · rfl

/-- The server decides on a transition, and stores the stage if it accepts it. -/
theorem Agrees.decided (h : s.Agrees) {l₁ l₂ : List Transition}
    (hsplit : s.transitions = l₁ ++ t :: l₂)
    {s' : Pipeline} {accepted : Bool} (hboard : s'.board = s.board)
    (hclients : s'.clients = s.clients)
    (hboards : s'.boards = s.boards)
    (htransitions : s'.transitions = l₁ ++ { t with decision := some accepted } :: l₂)
    (hhas : ∀ id, s'.stored.has id = s.stored.has id)
    (hstored : ∀ id, s'.storedStage id =
      if accepted = true ∧ id = t.id then (s.storedStage id).map fun _ ↦ t.toStage
      else s.storedStage id)
    (hsafe : accepted = true → ¬s.Own t → ∀ c ∈ s.clientsInView, c.id = t.id →
      c.stage = t.toStage) :
    s'.Agrees := by
  have hview : s'.clientsInView = s.clientsInView := by
    rw [clientsInView, clientsInView, hboard, hclients]
  have hown : ∀ t, s'.Own t ↔ s.Own t := fun t ↦ by rw [Own, Own, hboard]
  have hids : s'.transitions.map Transition.id = s.transitions.map Transition.id := by
    rw [htransitions, hsplit, List.map_append, List.map_append]
    rfl
  have hthere : t ∈ s.transitions := hsplit ▸ (mem_split t).2 (Or.inl rfl)
  -- The transitions are the same, apart from the decision.
  have hback : ∀ t' ∈ s'.transitions, t' = { t with decision := some accepted } ∨
      t' ∈ s.transitions ∧ t'.id ≠ t.id := by
    intro t' ht'
    rw [htransitions, mem_split] at ht'
    refine ht'.imp_right fun ht' ↦ ⟨?_, h.ids_ne hsplit t' ht'⟩
    exact hsplit ▸ (mem_split t').2 (Or.inr ht')
  have hforth : ∀ c ∈ s.clientsInView, (∀ t' ∈ s'.transitions, t'.id = c.id → ¬s'.Own t') →
      ∀ t' ∈ s.transitions, t'.id = c.id → ¬s.Own t' := by
    intro c hc hforeign t' ht' hid
    rw [hsplit, mem_split] at ht'
    rw [htransitions] at hforeign
    rcases ht' with rfl | ht'
    · exact fun ho ↦ hforeign _ ((mem_split _).2 (Or.inl rfl)) hid ((hown _).2 ho)
    · exact fun ho ↦ hforeign t' ((mem_split t').2 (Or.inr ht')) hid ((hown t').2 ho)
  refine ⟨hids ▸ h.ids, fun c hc ↦ ?_, fun c hc t' ht' hid ho ↦ ?_, fun c hc hforeign ↦ ?_,
    fun t' ht' hdecision stage hstage ↦ ?_, fun b hb ↦ ?_, fun t' ht' ↦ ?_⟩
  · rw [hhas]
    exact h.known c (hview ▸ hc)
  · rcases hback t' ht' with rfl | ⟨ht', -⟩
    · exact h.moved c (hview ▸ hc) t hthere hid ((hown t).1 ho)
    · exact h.moved c (hview ▸ hc) t' ht' hid ((hown t').1 ho)
  · rw [hview] at hc
    have hforeign' := hforth c hc hforeign
    rw [hstored, h.settled c hc hforeign']
    split
    · next hthis =>
      rw [hsafe hthis.1 (hforeign' t hthere hthis.2.symm) c hc hthis.2]
      rfl
    · rfl
  · rcases hback t' ht' with rfl | ⟨ht', hne⟩
    · obtain rfl : accepted = true := Option.some.inj hdecision
      rw [hstored, if_pos ⟨rfl, rfl⟩] at hstage
      obtain ⟨-, -, hstage⟩ := Option.map_eq_some_iff.1 hstage
      exact hstage.symm
    · rw [hstored, if_neg fun hthis ↦ hne hthis.2] at hstage
      exact h.accepted t' ht' hdecision stage hstage
  · rw [hboards]
    exact h.numbers b (hboard ▸ hb)
  · rw [hboards]
    rcases hback t' ht' with rfl | ⟨ht', -⟩
    · exact h.started t hthere
    · exact h.started t' ht'

/-- **An answer arrives**, and the card of the transition is at its stored stage. -/
theorem Agrees.delivered (h : s.Agrees) {l₁ l₂ : List Transition}
    (hsplit : s.transitions = l₁ ++ t :: l₂) {s' : Pipeline} (hstored : s'.stored = s.stored)
    (hboards : s'.boards = s.boards) (htransitions : s'.transitions = l₁ ++ l₂)
    (hnumber : s'.board.map KanbanBoard.number = s.board.map KanbanBoard.number)
    (hcards : ∀ c ∈ s'.clientsInView, ∃ c₀ ∈ s.clientsInView, c.id = c₀.id ∧
      (c₀.id ≠ t.id → c = c₀) ∧ (c₀.id = t.id → s.storedStage c.id = some c.stage)) :
    s'.Agrees := by
  have hstage : ∀ id, s'.storedStage id = s.storedStage id := fun id ↦ by
    rw [storedStage, storedStage, hstored]
  have hown : ∀ t, s'.Own t ↔ s.Own t := fun t ↦ by rw [own_iff, own_iff, hnumber]
  have hback : ∀ t' ∈ s'.transitions, t' ∈ s.transitions ∧ t'.id ≠ t.id := by
    intro t' ht'
    rw [htransitions] at ht'
    exact ⟨hsplit ▸ (mem_split t').2 (Or.inr ht'), h.ids_ne hsplit t' ht'⟩
  refine ⟨?_, fun c hc ↦ ?_, fun c hc t' ht' hid ho ↦ ?_, fun c hc hforeign ↦ ?_,
    fun t' ht' hdecision stage hs ↦ ?_, fun b hb ↦ ?_, fun t' ht' ↦ ?_⟩
  · have hids := h.ids
    rw [hsplit, List.map_append, List.map_cons, List.nodup_middle, ← List.map_append] at hids
    exact htransitions ▸ hids.of_cons
  · obtain ⟨c₀, hc₀, hid, -⟩ := hcards c hc
    rw [hstored, hid]
    exact h.known c₀ hc₀
  · obtain ⟨c₀, hc₀, hid', hother, -⟩ := hcards c hc
    obtain ⟨ht', hne⟩ := hback t' ht'
    obtain rfl := hother fun heq ↦ hne (hid.trans (hid'.trans heq))
    exact h.moved c hc₀ t' ht' hid ((hown t').1 ho)
  · rw [hstage]
    obtain ⟨c₀, hc₀, hid, hother, hthis⟩ := hcards c hc
    by_cases heq : c₀.id = t.id
    · exact hthis heq
    · obtain rfl := hother heq
      refine h.settled c hc₀ fun t' ht' hid' ho ↦ ?_
      rw [hsplit, mem_split] at ht'
      rcases ht' with rfl | ht'
      · exact heq hid'.symm
      · exact hforeign t' (htransitions ▸ ht') hid' ((hown t').2 ho)
  · rw [hstage] at hs
    exact h.accepted t' (hback t' ht').1 hdecision stage hs
  · rw [hb] at hnumber
    obtain ⟨b₀, hb₀, hsame⟩ := Option.map_eq_some_iff.1 hnumber.symm
    rw [hboards, ← hsame]
    exact h.numbers b₀ hb₀
  · rw [hboards]
    exact h.started t' (hback t' ht').1

/-- The view is changed, to clients that have their stored stages. -/
theorem Agrees.shown (h : s.Agrees) {s' : Pipeline} (hstored : s'.stored = s.stored)
    (htransitions : s'.transitions = s.transitions)
    (hview : ∀ c ∈ s'.clientsInView, s.storedStage c.id = some c.stage)
    (hforeign : ∀ t ∈ s.transitions, ¬s'.Own t)
    (hnumbers : ∀ b, s'.board = some b → b.number < s'.boards)
    (hstarted : s.boards ≤ s'.boards) : s'.Agrees where
  ids := htransitions ▸ h.ids
  known c hc := by
    obtain ⟨c', hc', -⟩ := Option.map_eq_some_iff.1 (hview c hc)
    rw [hstored, Table.has, hc']
    rfl
  moved c hc t ht _ ho := absurd ho (hforeign t (htransitions ▸ ht))
  settled c hc _ := by
    rw [storedStage, hstored]
    exact hview c hc
  accepted t ht hdecision stage hstage := by
    rw [storedStage, hstored] at hstage
    exact h.accepted t (htransitions ▸ ht) hdecision stage hstage
  numbers := hnumbers
  started t ht := (h.started t (htransitions ▸ ht)).trans_le hstarted

/-! ### One event -/

/-- **One safe event.** -/
theorem Agrees.step (h : s.Agrees) (e : PipelineEvent) (hsafe : s.Safe e) : (s.step e).Agrees := by
  cases e with
  | dragEnd clientId column =>
    rcases hboard : s.board with - | b
    · have hidle : s.step (.dragEnd clientId column) = s := by simp only [Pipeline.step, hboard]
      rwa [hidle]
    · rcases column with - | toStage
      · have hidle : s.step (.dragEnd clientId none) = s := by simp only [Pipeline.step, hboard]
        rwa [hidle]
      · have hdrag : s.step (.dragEnd clientId (some toStage)) =
            s.handleDragEnd b clientId toStage := by simp only [Pipeline.step, hboard]
        rw [hdrag]
        exact h.handleDragEnd hboard toStage hsafe
  | decide i accepted =>
    rw [Pipeline.step]
    split
    · exact h
    · next t ht =>
      split
      · exact h
      · obtain ⟨l₁, l₂, hsplit, -, hset⟩ := exists_split ht
        have hsafe' : accepted = true → ¬s.Own t →
            ∀ c ∈ s.clientsInView, c.id = t.id → c.stage = t.toStage :=
          fun haccepted hforeign ↦ hsafe t ht haccepted (isNone_boardOf_iff.2 hforeign)
        rw [hset]
        dsimp only
        split
        · next haccepted =>
          refine @Agrees.decided _ _ h _ _ hsplit _ accepted rfl rfl rfl rfl (fun id ↦ ?_)
            (fun id ↦ ?_) hsafe'
          · exact Table.has_alter
          · rw [storedStage_store]
            simp only [haccepted, true_and]
            rfl
        · next hrefused =>
          refine h.decided hsplit rfl rfl rfl rfl (fun id ↦ rfl) (fun id ↦ ?_) hsafe'
          rw [if_neg fun hthis ↦ hrefused hthis.1]
          rfl
  | deliver i =>
    rw [Pipeline.step]
    split
    · exact h
    · next t ht =>
      split
      · exact h
      · next accepted hdecision =>
        obtain ⟨l₁, l₂, hsplit, herase, -⟩ := exists_split ht
        rw [herase]
        rcases hb : s.boardOf t with - | b
        · -- The board has gone, and nothing happens.
          refine h.delivered hsplit rfl rfl rfl rfl fun c hc ↦
            ⟨c, hc, rfl, fun _ ↦ rfl, fun hid ↦ ?_⟩
          refine h.settled c hc fun t' ht' hid' ↦ ?_
          obtain rfl := h.eq_of_id_eq ht' (List.mem_of_getElem? ht) (hid'.trans hid)
          exact isNone_boardOf_iff.1 (Option.isNone_iff_eq_none.2 hb)
        · obtain ⟨hboard, hnumber⟩ := boardOf_eq_some_iff.1 hb
          have hview : s.clientsInView = b.clients := by rw [clientsInView, hboard]
          cases accepted with
          | true =>
            refine h.delivered hsplit rfl rfl rfl (by rw [hboard]; rfl) fun c hc ↦
              ⟨c, hview ▸ hc, rfl, fun _ ↦ rfl, fun hid ↦ ?_⟩
            have hc' : c ∈ s.clientsInView := hview ▸ hc
            have hmoved := h.moved c hc' t (List.mem_of_getElem? ht) hid.symm ⟨b, hboard, hnumber⟩
            obtain ⟨stage, hstage⟩ := h.exists_storedStage hc'
            have hsame := h.accepted t (List.mem_of_getElem? ht) hdecision stage (hid ▸ hstage)
            rw [hstage, hsame, hmoved]
          | false =>
            have hrevert := hsafe t ht hdecision b hb
            have hsettle : b.settle false = ⟨b.number, s.putBack b t.id, none⟩ := by
              rw [KanbanBoard.settle, hrevert]
              rfl
            refine h.delivered hsplit rfl rfl rfl (by rw [hboard]; rfl) fun c hc ↦ ?_
            have hc' : c ∈ s.putBack b t.id := by
              have hclients : (b.settle false).clients = s.putBack b t.id := by rw [hsettle]
              exact hclients ▸ hc
            obtain ⟨c₀, hc₀, rfl⟩ := List.mem_map.1 hc'
            refine ⟨c₀, hview ▸ hc₀, moveTo_id _ _ _, fun hne ↦ moveTo_of_ne hne _, fun hid ↦ ?_⟩
            obtain ⟨stage, hstage⟩ := h.exists_storedStage (hview ▸ hc₀)
            rw [moveTo_id, moveTo_stage_of_eq hid, hstage, ← hid, hstage]
            rfl
  | setView view =>
    have hclients : view ≠ s.view → ∀ c ∈ s.clients, s.storedStage c.id = some c.stage :=
      fun hne ↦ hsafe.resolve_left hne
    cases view with
    | kanban =>
      rw [Pipeline.step]
      split
      · exact h
      · next hlist =>
        have hview : s.view = .list := by rw [Pipeline.view, if_neg hlist]
        refine h.shown rfl rfl (fun c hc ↦ ?_) (fun t ht ↦ ?_) (fun b hb ↦ ?_) (Nat.le_succ _)
        · exact hclients (by rw [hview]; exact ViewMode.noConfusion) c hc
        · rintro ⟨b, hb, hnumber⟩
          obtain rfl := Option.some.inj hb
          exact absurd (h.started t ht) (by rw [← hnumber]; exact Nat.lt_irrefl _)
        · obtain rfl := Option.some.inj hb
          exact Nat.lt_succ_self _
    | list =>
      rw [Pipeline.step]
      rcases hboard : s.board with - | b
      · have hsame : { s with board := none } = s := by rw [← hboard]
        rwa [hsame]
      · have hview : s.view = .kanban := by rw [Pipeline.view, hboard]; rfl
        refine h.shown rfl rfl (fun c hc ↦ ?_) (fun t ht ↦ ?_) (fun b hb ↦ nomatch hb) le_rfl
        · exact hclients (by rw [hview]; exact ViewMode.noConfusion) c hc
        · rintro ⟨b, hb, -⟩
          exact nomatch hb

/-- The page has just been loaded. -/
theorem agrees_loaded (stored : Table Client) : (loaded stored).Agrees where
  ids := List.nodup_nil
  known c hc := Table.has_iff.2 ⟨c, hc, rfl⟩
  moved _ _ _ ht := nomatch ht
  settled c hc _ := by
    have hfind : stored.find? c.id = some c := Table.find?_of_mem hc
    rw [storedStage]
    exact congrArg (Option.map Client.stage) hfind
  accepted _ ht := nomatch ht
  numbers b hb := by
    obtain rfl := Option.some.inj hb
    exact Nat.one_pos
  started _ ht := nomatch ht

end Agrees

end Pipeline

/-- **The pipeline page converges to the server**: after safe events, once nothing is in flight, it
shows the stages that are stored. -/
theorem pipeline_converges (stored : Table Client) (events : List PipelineEvent)
    (hsafe : EveryStep Pipeline.step Pipeline.Safe (.loaded stored) events)
    (hquiet : (events.foldl Pipeline.step (.loaded stored)).Quiet) :
    (events.foldl Pipeline.step (.loaded stored)).Converged :=
  (foldl_invariant_of (Pipeline.agrees_loaded stored) (fun _ e h hsafe ↦ h.step e hsafe)
    hsafe).converged hquiet

/-! ### Two cards -/

/-- A client that is a lead. -/
def prospect (id : UUID) : Client where
  id := id
  createdAt := 0
  updatedAt := 0
  name := .lit "Acme"
  sector := none
  size := none
  region := none
  ownerId := none
  stage := .lead
  enteredAt := 0
  mrrCents := none
  lifetimeValueCents := none

/-- Two clients. -/
def twoProspects : Table Client := (Table.empty.insert (prospect 1)).insert (prospect 2)

/-- One card is moved, and then the other, which is refused. -/
def oneByOneMoves : List PipelineEvent :=
  [.setView .list, .setView .kanban, .dragEnd 1 (some .discoveryScheduled), .decide 0 true,
    .deliver 0,
    .dragEnd 2 (some .proposalSent), .decide 0 false, .deliver 0]

theorem pipeline_converges_oneByOne :
    (oneByOneMoves.foldl Pipeline.step (.loaded twoProspects)).Converged :=
  pipeline_converges twoProspects oneByOneMoves (by decide +kernel) (by decide +kernel)

/-- Both cards are on their way when the first one is accepted and the second one refused. -/
def bothMoves : List PipelineEvent :=
  [.dragEnd 1 (some .discoveryScheduled), .dragEnd 2 (some .proposalSent), .decide 0 true,
    .deliver 0,
    .decide 0 false, .deliver 0]

/-- **The page diverges from the server**: the second card stays where it was dropped. -/
theorem pipeline_diverges :
    ¬∀ (stored : Table Client) (events : List PipelineEvent),
      EveryStep Pipeline.step Pipeline.OneEach (.loaded stored) events →
      (events.foldl Pipeline.step (.loaded stored)).Quiet →
      (events.foldl Pipeline.step (.loaded stored)).Converged := by
  intro hall
  have hshown : ∃ c ∈ (bothMoves.foldl Pipeline.step (.loaded twoProspects)).listed,
      c.id = 2 ∧ c.stage = .proposalSent := by decide +kernel
  have hstored : (bothMoves.foldl Pipeline.step (.loaded twoProspects)).storedStage 2 =
      some .lead := by decide +kernel
  obtain ⟨c, hc, hid, hstage⟩ := hshown
  have hconverged := hall twoProspects bothMoves (by decide +kernel) (by decide +kernel) c hc
  rw [hid, hstored, hstage] at hconverged
  cases hconverged

end ZanovixCrm
