import Orchestra.Runtime.Reconciler
import Orchestra.Runtime.StateMachine

/-!
# The guards of the state machines

The two machines of a run guard one transition: the target is returned when the table has it, and
otherwise the transition is refused. Guarding the states of a list one after the other accepts the
paths of the table, and nothing else.
-/

namespace Orchestra

/-- `NODE_TRANSITIONS`. -/
def nodeTransitions : NodeRunState → List NodeRunState
  | .pending => [.running, .awaitingApproval, .failed, .cancelled]
  | .running => [.awaitingApproval, .succeeded, .failed, .cancelled]
  | .awaitingApproval => [.running, .succeeded, .failed, .cancelled]
  | .succeeded => []
  | .failed => []
  | .cancelled => []

section Guard

variable {σ : Type} [DecidableEq σ] (table : σ → List σ) (message : σ → σ → String)

/-- `transition`: the target, when `can_transition` allows it. -/
def guardTransition (current target : σ) : Except Raised σ :=
  if target ∈ table current then .ok target else .error (.contractViolation (message current target))

variable {table message}

/-- **What the guard lets through.** A list of targets is let through when it goes along the
table. -/
theorem foldlM_guardTransition {states : List σ} {current last : σ} :
    states.foldlM (guardTransition table message) current = .ok last ↔
      (current :: states).IsChain (fun s s' ↦ s' ∈ table s) ∧ states.getLast?.getD current = last := by
  induction states generalizing current with
  | nil => simp [pure, Except.pure]
  | cons target states ih =>
    rw [List.foldlM_cons, List.isChain_cons_cons]
    by_cases hmem : target ∈ table current
    · have hguard : guardTransition table message current target = .ok target := if_pos hmem
      have hlast : (target :: states).getLast?.getD current = states.getLast?.getD target := by
        rw [List.getLast?_cons, Option.getD_some]
      rw [hguard, hlast]
      simp only [hmem, true_and]
      exact ih
    · have hguard : guardTransition table message current target =
          .error (.contractViolation (message current target)) := if_neg hmem
      rw [hguard]
      simp [hmem, bind, Except.bind]

end Guard

namespace TaskRunStateMachine

def transition : TaskRunState → TaskRunState → Except Raised TaskRunState :=
  guardTransition taskTransitions fun current target ↦
    "illegal task run transition: " ++ current.value ++ " -> " ++ target.value

end TaskRunStateMachine

namespace NodeRunStateMachine

def transition : NodeRunState → NodeRunState → Except Raised NodeRunState :=
  guardTransition nodeTransitions fun current target ↦
    "illegal node run transition: " ++ current.value ++ " -> " ++ target.value

end NodeRunStateMachine

end Orchestra
