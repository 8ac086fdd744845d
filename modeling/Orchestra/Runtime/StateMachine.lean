import Orchestra.Coordinator.Tables
import Mathlib.Data.List.Chain

/-!
# The task run state machine

The transition table of task runs. A sequence of persisted states is a path when it starts with
`created` and each state is a legal successor of the one before; a final state has no successors, so
it can only be the last state of a path.
-/

namespace Orchestra

/-- `TASK_TRANSITIONS`. -/
def taskTransitions : TaskRunState → List TaskRunState
  | .created => [.planned, .failed, .cancelled]
  | .planned => [.running, .failed, .cancelled]
  | .running => [.awaitingApproval, .succeeded, .failed, .cancelled]
  | .awaitingApproval => [.running, .succeeded, .failed, .cancelled]
  | .succeeded => []
  | .failed => []
  | .cancelled => []

namespace TaskRunState

def value : TaskRunState → String
  | .created => "created"
  | .planned => "planned"
  | .running => "running"
  | .awaitingApproval => "awaiting-approval"
  | .succeeded => "succeeded"
  | .failed => "failed"
  | .cancelled => "cancelled"

/-- The states a task run ends in. -/
def Terminal (s : TaskRunState) : Prop := s = .succeeded ∨ s = .failed ∨ s = .cancelled

instance (s : TaskRunState) : Decidable s.Terminal :=
  inferInstanceAs (Decidable (s = .succeeded ∨ s = .failed ∨ s = .cancelled))

/-- The terminal states are those without successors. -/
theorem terminal_iff (s : TaskRunState) : s.Terminal ↔ taskTransitions s = [] := by
  cases s <;> decide

/-- A path of the transition table from the first state of a task run. -/
def IsPath (states : List TaskRunState) : Prop :=
  (∀ s ∈ states.head?, s = .created) ∧ states.IsChain fun s s' ↦ s' ∈ taskTransitions s

instance (states : List TaskRunState) : Decidable (IsPath states) :=
  inferInstanceAs (Decidable (_ ∧ _))

/-- A terminal state is the last one of its path. -/
theorem IsPath.eq_nil_of_terminal {pre post : List TaskRunState} {s : TaskRunState}
    (h : IsPath (pre ++ s :: post)) (hs : s.Terminal) : post = [] := by
  cases post with
  | nil => rfl
  | cons s' post =>
    have hstep : s' ∈ taskTransitions s := (List.isChain_append_cons_cons.mp h.2).2.1
    rw [(terminal_iff s).mp hs] at hstep
    cases hstep

end TaskRunState

end Orchestra
