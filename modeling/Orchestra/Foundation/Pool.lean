import Orchestra.Foundation.Program
import Mathlib.Logic.Function.Basic

/-!
# Programs that run at the same time

Several programs make their calls to one machine, which now sees who calls. A scheduler picks the
program that goes on, and supplies whatever else is not determined, such as a fault. A call may have
to wait: the machine has no answer in this state, and nothing happens.

A run of the pool is a run of a labelled step function, so the rules for invariants and for
conditions on steps apply. `step_cases` says once what a step can do, and `run_forall` is the rule
for an invariant that each program has on its own: what a step does for the program that takes it,
and that it leaves the others alone.
-/

namespace Interaction

variable {ι ω C ε σ : Type*} {R : C → Type*} {α : ι → Type*}

/-- Answering the calls of several programs; `none` makes the program wait. -/
abbrev Server (ι ω C ε σ : Type*) (R : C → Type*) :=
  σ → ι → ω → (c : C) → Option (Except ε (R c) × σ)

/-- The state of the machine and what is left of the programs. -/
structure Pool (C : Type*) (R : C → Type*) (ε : Type*) {ι : Type*} (α : ι → Type*)
    (σ : Type*) where
  state : σ
  threads : ∀ i, Program C R ε (α i)

namespace Pool

variable [DecidableEq ι] (m : Server ι ω C ε σ R)

/-- The next call of the program that is picked. -/
def step (p : Pool C R ε α σ) (label : ι × ω) : Pool C R ε α σ :=
  match p.threads label.1 with
  | .ret _ => p
  | .raise _ => p
  | .call c k =>
    match m p.state label.1 label.2 c with
    | none => p
    | some (r, s) => ⟨s, Function.update p.threads label.1 (k r)⟩

variable {m}

/-- What a step can do: nothing, where the program is over or has to wait, or one call. -/
theorem step_cases (p : Pool C R ε α σ) (i : ι) (w : ω) :
    (p.step m (i, w) = p ∧ ∀ c k, p.threads i = .call c k → m p.state i w c = none) ∨
      ∃ c k r s, p.threads i = .call c k ∧ m p.state i w c = some (r, s) ∧
        p.step m (i, w) = ⟨s, Function.update p.threads i (k r)⟩ := by
  cases hi : p.threads i with
  | ret a => exact .inl ⟨by simp only [step, hi], nofun⟩
  | raise e => exact .inl ⟨by simp only [step, hi], nofun⟩
  | call c k =>
    cases hm : m p.state i w c with
    | none =>
      refine .inl ⟨by simp only [step, hi, hm], fun c' k' hcall ↦ ?_⟩
      cases hcall
      exact hm
    | some reply =>
      obtain ⟨r, s⟩ := reply
      exact .inr ⟨c, k, r, s, rfl, hm, by simp only [step, hi, hm]⟩

/-- **The rule for what every program keeps.** A global invariant together with one for each
program: the program that takes the step has it again, and those of the others still hold. -/
theorem run_forall {I : σ → Prop} {J : ∀ i, σ → Program C R ε (α i) → Prop}
    {ok : Pool C R ε α σ → ι × ω → Prop}
    (hstep : ∀ p i w c k r s, ok p (i, w) → I p.state → (∀ j, J j p.state (p.threads j)) →
      p.threads i = .call c k → m p.state i w c = some (r, s) →
      I s ∧ J i s (k r) ∧ ∀ j, j ≠ i → J j s (p.threads j))
    {p : Pool C R ε α σ} {as : List (ι × ω)} (hI : I p.state)
    (hJ : ∀ j, J j p.state (p.threads j)) (h : Transition.AllSteps (step m) ok p as) :
    I (Transition.run (step m) p as).state ∧
      ∀ j, J j (Transition.run (step m) p as).state ((Transition.run (step m) p as).threads j) := by
  refine Transition.run_induction (I := fun p ↦ I p.state ∧ ∀ j, J j p.state (p.threads j)) ?_
    ⟨hI, hJ⟩ h
  rintro p ⟨i, w⟩ ⟨hI, hJ⟩ hok
  rcases step_cases (m := m) p i w with ⟨heq, -⟩ | ⟨c, k, r, s, hi, hm, heq⟩
  · rw [heq]
    exact ⟨hI, hJ⟩
  · obtain ⟨hI', hown, hothers⟩ := hstep p i w c k r s hok hI hJ hi hm
    rw [heq]
    refine ⟨hI', fun j ↦ ?_⟩
    change J j s (Function.update p.threads i (k r) j)
    by_cases hj : j = i
    · subst hj
      rw [Function.update_self]
      exact hown
    · rw [Function.update_of_ne hj]
      exact hothers j hj

end Pool

end Interaction
