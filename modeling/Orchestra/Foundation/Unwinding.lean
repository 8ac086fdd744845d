import Mathlib.Order.Defs.Unbundled
import Orchestra.Foundation.Transition

/-!
# Noninterference by unwinding

Every step of a system belongs to a domain, and a domain sees part of the state: two states it
cannot tell apart are related. If no step changes what another domain sees, and a step of a domain
has the same effect on what this domain sees in states it cannot tell apart, then a domain cannot
tell a run from the run of its own steps alone.

The conditions are about single steps, from states with an invariant.
-/

namespace Transition

variable {σ α δ : Type*} [DecidableEq δ] {step : σ → α → σ} {dom : α → δ}

/-- The steps of one domain. -/
def ownSteps (dom : α → δ) (d : δ) (as : List α) : List α :=
  as.filter fun a ↦ decide (dom a = d)

theorem ownSteps_cons_of_eq {d : δ} {a : α} (h : dom a = d) (as : List α) :
    ownSteps dom d (a :: as) = a :: ownSteps dom d as :=
  List.filter_cons_of_pos (decide_eq_true h)

theorem ownSteps_cons_of_ne {d : δ} {a : α} (h : dom a ≠ d) (as : List α) :
    ownSteps dom d (a :: as) = ownSteps dom d as :=
  List.filter_cons_of_neg (by simpa using h)

/-- The conditions on single steps. -/
structure Unwinding (step : σ → α → σ) (dom : α → δ) (ok : α → Prop) (I : σ → Prop)
    (sees : δ → σ → σ → Prop) : Prop where
  equivalence : ∀ d, Equivalence (sees d)
  invariant : ∀ s a, I s → ok a → I (step s a)
  /-- A step leaves what the other domains see. -/
  respects : ∀ d s a, I s → ok a → dom a ≠ d → sees d s (step s a)
  /-- What a step does to what its domain sees depends on nothing else. -/
  consistent : ∀ s s' a, I s → I s' → ok a → sees (dom a) s s' →
    sees (dom a) (step s a) (step s' a)

/-- **A domain cannot tell a run from the run of its own steps alone.** -/
theorem Unwinding.run_ownSteps {ok : α → Prop} {I : σ → Prop} {sees : δ → σ → σ → Prop}
    (h : Unwinding step dom ok I sees) {d : δ} {s s' : σ} (hs : I s) (hs' : I s')
    (hsees : sees d s s') {as : List α} (hok : ∀ a ∈ as, ok a) :
    sees d (run step s as) (run step s' (ownSteps dom d as)) := by
  induction as generalizing s s' with
  | nil => exact hsees
  | cons a as ih =>
    rw [List.forall_mem_cons] at hok
    obtain ⟨hoka, hok⟩ := hok
    have hstep := h.invariant s a hs hoka
    rw [run_cons]
    by_cases hdom : dom a = d
    · rw [ownSteps_cons_of_eq hdom, run_cons]
      subst hdom
      exact ih hstep (h.invariant s' a hs' hoka) (h.consistent s s' a hs hs' hoka hsees) hok
    · rw [ownSteps_cons_of_ne hdom]
      have hback := (h.equivalence d).symm (h.respects d s a hs hoka hdom)
      exact ih hstep hs' ((h.equivalence d).trans hback hsees) hok

end Transition
