import ZanovixCrm.Database.Columns

/-!
# Status machines

The three transition tables of the domain layer. A target is a text, because that is what a request
carries; it is permitted if it is the text of one of the successors. In every machine no value is
its own successor, and a terminal value has none.

The source keeps each table as a dictionary from texts to sets of texts, and looks the current
status up in it. Here the current status is a value of its column, so a status outside of the
dictionary, for which the source has a default, does not occur. The order of a set matters to
nobody: the only answer that lists one sorts it.
-/

namespace ZanovixCrm

/-- The target is the text of one of the listed successors. -/
def permits {α : Type} [TextEnum α] (successors : List α) (target : String) : Bool :=
  successors.any fun a ↦ TextEnum.text a == target

theorem permits_iff {α : Type} [TextEnum α] {successors : List α} {target : String} :
    permits successors target = true ↔ ∃ a ∈ successors, TextEnum.text a = target := by
  simp [permits]

theorem permits_text_iff {α : Type} [TextEnum α] {successors : List α} {a : α} :
    permits successors (TextEnum.text a) = true ↔ a ∈ successors := by
  rw [permits_iff]
  exact ⟨fun ⟨_, hb, h⟩ ↦ TextEnum.text_injective h ▸ hb, fun h ↦ ⟨a, h, rfl⟩⟩

namespace LeadStatusMachine

/-- `valid_transitions`. -/
def validTransitions : LeadStatus → List LeadStatus
  | .new => [.contacted, .disqualified]
  | .contacted => [.qualified, .disqualified]
  | .qualified => [.converted, .disqualified]
  | .disqualified => []
  | .converted => []

/-- `assert_can_transition` does not raise. -/
def canTransition (source : LeadStatus) (target : String) : Bool :=
  permits (validTransitions source) target

/-- One step of the machine. -/
def Edge (a b : LeadStatus) : Prop := b ∈ validTransitions a

instance (a b : LeadStatus) : Decidable (Edge a b) := inferInstanceAs (Decidable (_ ∈ _))

end LeadStatusMachine

namespace ClientStageMachine

/-- `valid_transitions`. -/
def validTransitions : ClientStage → List ClientStage
  | .lead => [.discoveryScheduled, .lost]
  | .discoveryScheduled => [.discoveryDone, .lost]
  | .discoveryDone => [.proposalSent, .lost]
  | .proposalSent => [.active, .lost]
  | .active => [.lost]
  | .lost => []

/-- `assert_can_transition` does not raise; `force` lets a client leave `lost` for any text. -/
def canTransition (source : ClientStage) (target : String) (force : Bool) : Bool :=
  (force && decide (source = .lost)) || permits (validTransitions source) target

/-- One step of the machine, without force. -/
def Edge (a b : ClientStage) : Prop := b ∈ validTransitions a

instance (a b : ClientStage) : Decidable (Edge a b) := inferInstanceAs (Decidable (_ ∈ _))

end ClientStageMachine

namespace ServiceStateMachine

/-- `valid_transitions`. -/
def validTransitions : ServiceState → List ServiceState
  | .scoping => [.running, .paused]
  | .running => [.review, .paused]
  | .review => [.completed, .paused]
  | .completed => [.maintenance]
  | .maintenance => []
  | .paused => [.scoping, .running, .review]

/-- `assert_can_transition` does not raise. -/
def canTransition (source : ServiceState) (target : String) : Bool :=
  permits (validTransitions source) target

/-- One step of the machine. -/
def Edge (a b : ServiceState) : Prop := b ∈ validTransitions a

instance (a b : ServiceState) : Decidable (Edge a b) := inferInstanceAs (Decidable (_ ∈ _))

end ServiceStateMachine

end ZanovixCrm
