import Mathlib.Data.Int.Notation
import Mathlib.Data.List.Induction
import Mathlib.Order.Defs.PartialOrder

/-!
# Runs of a labelled step function

A system is a total step function `σ → α → σ`: every source of nondeterminism, such as the clock,
a fresh identifier or the order in which parties act, is part of the label. A run is a list of
labels, and an interleaving of several parties is a run over the sum of their labels.

Two kinds of statement about runs recur. An *invariant* speaks of the states a run reaches; a
*step property* speaks of every step together with the state it is taken from. `AllSteps` is the
second one, and it serves on both sides of an implication: as the condition under which a system is
asked to behave and as the conclusion about what its steps do.
-/

namespace Transition

variable {σ α : Type*} (step : σ → α → σ)

/-- The state a run ends in. -/
def run (s : σ) (as : List α) : σ := as.foldl step s

/-- Every step of the run satisfies `P` in the state it is taken from. -/
def AllSteps (P : σ → α → Prop) : σ → List α → Prop
  | _, [] => True
  | s, a :: as => P s a ∧ AllSteps P (step s a) as

variable {step}

@[simp] theorem run_nil (s : σ) : run step s [] = s := rfl

@[simp] theorem run_cons (s : σ) (a : α) (as : List α) :
    run step s (a :: as) = run step (step s a) as := rfl

theorem run_append (s : σ) (as bs : List α) :
    run step s (as ++ bs) = run step (run step s as) bs := List.foldl_append

@[simp] theorem allSteps_nil (P : σ → α → Prop) (s : σ) : AllSteps step P s [] := trivial

@[simp] theorem allSteps_cons {P : σ → α → Prop} {s : σ} {a : α} {as : List α} :
    AllSteps step P s (a :: as) ↔ P s a ∧ AllSteps step P (step s a) as := Iff.rfl

theorem allSteps_append {P : σ → α → Prop} {s : σ} {as bs : List α} :
    AllSteps step P s (as ++ bs) ↔ AllSteps step P s as ∧ AllSteps step P (run step s as) bs := by
  induction as generalizing s with
  | nil => simp
  | cons a as ih => rw [List.cons_append, allSteps_cons, allSteps_cons, ih, run_cons, and_assoc]

/-- The condition may be read off the run: a step taken after a prefix satisfies it. -/
theorem AllSteps.at_prefix {P : σ → α → Prop} {s : σ} {as bs : List α} {a : α}
    (h : AllSteps step P s (as ++ a :: bs)) : P (run step s as) a :=
  (allSteps_append.mp h).2.1

/-- A step property, position by position. -/
theorem allSteps_iff_forall_position {P : σ → α → Prop} {s : σ} {as : List α} :
    AllSteps step P s as ↔
      ∀ pre a post, as = pre ++ a :: post → P (run step s pre) a := by
  constructor
  · rintro h pre a post rfl
    exact h.at_prefix
  · intro h
    induction as generalizing s with
    | nil => trivial
    | cons a as ih =>
      refine ⟨h [] a as rfl, ih fun pre b post heq ↦ ?_⟩
      exact h (a :: pre) b post (congrArg (a :: ·) heq)

theorem allSteps_of_forall {P : σ → α → Prop} (h : ∀ s a, P s a) (s : σ) (as : List α) :
    AllSteps step P s as := by
  induction as generalizing s with
  | nil => trivial
  | cons a as ih => exact ⟨h s a, ih _⟩

/-- A condition on the labels alone. -/
theorem allSteps_of_mem {ok : α → Prop} {as : List α} (h : ∀ a ∈ as, ok a) (s : σ) :
    AllSteps step (fun _ a ↦ ok a) s as := by
  induction as generalizing s with
  | nil => trivial
  | cons a as ih =>
    rw [List.forall_mem_cons] at h
    exact ⟨h.1, ih h.2 (step s a)⟩

/-- What follows from `P` at every step of the run, for the labels that occur in it. -/
theorem AllSteps.imp_of_mem {P Q : σ → α → Prop} {ok : α → Prop}
    (h : ∀ s a, ok a → P s a → Q s a) {s : σ} {as : List α} (hok : ∀ a ∈ as, ok a)
    (hP : AllSteps step P s as) : AllSteps step Q s as := by
  induction as generalizing s with
  | nil => trivial
  | cons a as ih =>
    rw [List.forall_mem_cons] at hok
    exact ⟨h s a hok.1 hP.1, ih hok.2 hP.2⟩

theorem AllSteps.imp {P Q : σ → α → Prop} (h : ∀ s a, P s a → Q s a) {s : σ} {as : List α}
    (hP : AllSteps step P s as) : AllSteps step Q s as :=
  hP.imp_of_mem (fun s a _ ↦ h s a) fun _ _ ↦ trivial

theorem allSteps_and {P Q : σ → α → Prop} {s : σ} {as : List α} :
    AllSteps step (fun s a ↦ P s a ∧ Q s a) s as ↔
      AllSteps step P s as ∧ AllSteps step Q s as := by
  induction as generalizing s with
  | nil => simp
  | cons a as ih => rw [allSteps_cons, allSteps_cons, allSteps_cons, ih, and_and_and_comm]

instance decidableAllSteps (P : σ → α → Prop) [∀ s a, Decidable (P s a)] :
    ∀ s as, Decidable (AllSteps step P s as)
  | _, [] => isTrue trivial
  | s, a :: as =>
    have := decidableAllSteps P (step s a) as
    inferInstanceAs (Decidable (P s a ∧ AllSteps step P (step s a) as))

/-! ## The invariant rules -/

/-- **The invariant rule under a step condition.** What every permitted step preserves holds at
the end of every permitted run. -/
theorem run_induction {I : σ → Prop} {ok : σ → α → Prop}
    (hstep : ∀ s a, I s → ok s a → I (step s a)) {s : σ} {as : List α} (hs : I s)
    (h : AllSteps step ok s as) : I (run step s as) := by
  induction as generalizing s with
  | nil => exact hs
  | cons a as ih => exact ih (hstep s a hs h.1) h.2

/-- The invariant rule with no condition on the steps. -/
theorem run_invariant {I : σ → Prop} (hstep : ∀ s a, I s → I (step s a)) {s : σ} (hs : I s)
    (as : List α) : I (run step s as) :=
  run_induction (fun s a h _ ↦ hstep s a h) hs
    (allSteps_of_forall (fun _ _ ↦ trivial) s as)

/-- **The step rule.** If permitted steps preserve `I`, and each of them satisfies `Q` where `I`
holds, then all steps of a permitted run satisfy `Q`. -/
theorem AllSteps.of_invariant {I : σ → Prop} {ok Q : σ → α → Prop}
    (hstep : ∀ s a, I s → ok s a → I (step s a)) (hQ : ∀ s a, I s → ok s a → Q s a) {s : σ}
    {as : List α} (hs : I s) (h : AllSteps step ok s as) : AllSteps step Q s as := by
  induction as generalizing s with
  | nil => trivial
  | cons a as ih => exact ⟨hQ s a hs h.1, ih (hstep s a hs h.1) h.2⟩

/-- **The monotone rule.** What no permitted step lowers is at the end of a permitted run at least
what it was at its start. -/
theorem le_run {β : Type*} [Preorder β] {f : σ → β} {ok : σ → α → Prop}
    (hstep : ∀ s a, ok s a → f s ≤ f (step s a)) {s : σ} {as : List α}
    (h : AllSteps step ok s as) : f s ≤ f (run step s as) := by
  induction as generalizing s with
  | nil => exact le_rfl
  | cons a as ih => exact le_trans (hstep s a h.1) (ih h.2)

/-- The exact condition for the states a run reaches, where what a step does may depend on the
labels before it. -/
theorem forall_prefix_iff_allSteps_of_position {J : σ → Prop} {ok : σ → α → Prop} {s : σ}
    (hs : J s) {as : List α} (h : ∀ pre a, pre ++ [a] <+: as → J (run step s pre) →
      (J (step (run step s pre) a) ↔ ok (run step s pre) a)) :
    (∀ pre, pre <+: as → J (run step s pre)) ↔ AllSteps step ok s as := by
  induction as generalizing s with
  | nil =>
    refine iff_of_true (fun pre hpre ↦ ?_) trivial
    rw [List.prefix_nil.mp hpre]
    exact hs
  | cons a as ih =>
    have hfirst : J (step s a) ↔ ok s a := h [] a (by simp) hs
    have hlater (hnext : J (step s a)) := ih hnext fun pre b hpre ↦
      h (a :: pre) b (by rw [List.cons_append]; exact List.prefix_cons_inj a |>.mpr hpre)
    constructor
    · intro hall
      have hnext : J (step s a) := hall [a] (by simp)
      refine ⟨hfirst.mp hnext, (hlater hnext).mp fun pre hpre ↦ ?_⟩
      exact hall (a :: pre) (List.prefix_cons_inj a |>.mpr hpre)
    · rintro ⟨hok, hrest⟩ pre hpre
      cases pre with
      | nil => exact hs
      | cons b pre =>
        obtain ⟨rfl, hpre'⟩ := List.cons_prefix_cons.mp hpre
        exact (hlater (hfirst.mpr hok)).mpr hrest pre hpre'

/-- **The exact condition.** If `J` survives a step exactly when the step is permitted, then `J`
holds in every state that a run reaches exactly when all its steps are permitted. -/
theorem forall_prefix_iff_allSteps {I J : σ → Prop} {ok : σ → α → Prop}
    (hI : ∀ s a, I s → I (step s a)) (hJ : ∀ s a, I s → J s → (J (step s a) ↔ ok s a)) {s : σ}
    (hs : I s) (hs' : J s) (as : List α) :
    (∀ pre, pre <+: as → J (run step s pre)) ↔ AllSteps step ok s as :=
  forall_prefix_iff_allSteps_of_position hs' fun pre a _ hpre ↦
    hJ _ a (run_invariant hI hs pre) hpre

/-- **Any two states of a run** are related, the earlier one to the later one, exactly when the
states before and after each step are. -/
theorem forall_between_iff_allSteps {R : σ → σ → Prop} (hrefl : ∀ s, R s s)
    (htrans : ∀ {s s' s''}, R s s' → R s' s'' → R s s'') (s : σ) (as : List α) :
    (∀ pre mid, pre ++ mid <+: as → R (run step s pre) (run step s (pre ++ mid))) ↔
      AllSteps step (fun s a ↦ R s (step s a)) s as := by
  constructor
  · intro h
    induction as generalizing s with
    | nil => trivial
    | cons a as ih =>
      refine ⟨h [] [a] (by simp), ih (step s a) fun pre mid hpre ↦ ?_⟩
      exact h (a :: pre) mid (List.prefix_cons_inj a |>.mpr hpre)
  · rintro h pre mid ⟨post, rfl⟩
    rw [List.append_assoc] at h
    have hmid := (allSteps_append.mp (allSteps_append.mp h).2).1
    rw [run_append]
    refine run_induction (I := R (run step s pre)) (fun s' a hs' ha ↦ ?_) (hrefl _) hmid
    exact htrans hs' ha

/-- **The invariant rule with history.** The invariant may speak of the labels seen so far. -/
theorem run_history {ok : α → Prop} {I : List α → σ → Prop} {s : σ} (hnil : I [] s)
    (hsnoc : ∀ as a, ok a → I as (run step s as) → I (as ++ [a]) (step (run step s as) a))
    (as : List α) (h : ∀ a ∈ as, ok a) : I as (run step s as) := by
  induction as using List.reverseRecOn with
  | nil => exact hnil
  | append_singleton as a ih =>
    rw [run_append, run_cons, run_nil]
    exact hsnoc as a (h a (by simp)) (ih fun b hb ↦ h b (by simp [hb]))

/-! ## Positions of a run -/

/-- Some label of the run satisfies `P` after the labels before it: the last one, or one before. -/
theorem exists_position_concat {P : List α → α → Prop} {as : List α} {a : α} :
    (∃ pre b post, as ++ [a] = pre ++ b :: post ∧ P pre b) ↔
      (∃ pre b post, as = pre ++ b :: post ∧ P pre b) ∨ P as a := by
  constructor
  · rintro ⟨pre, b, post, heq, hP⟩
    rcases List.eq_nil_or_concat post with rfl | ⟨post', d, rfl⟩
    · obtain ⟨rfl, hlast⟩ := List.append_inj' heq rfl
      obtain rfl : a = b := List.head_eq_of_cons_eq hlast
      exact Or.inr hP
    · have heq' : as ++ [a] = (pre ++ b :: post') ++ [d] := by simpa using heq
      obtain ⟨rfl, -⟩ := List.append_inj' heq' rfl
      exact Or.inl ⟨pre, b, post', rfl, hP⟩
  · rintro (⟨pre, b, post, rfl, hP⟩ | hP)
    · exact ⟨pre, b, post ++ [a], by simp, hP⟩
    · exact ⟨as, a, [], rfl, hP⟩

/-! ## History variables -/

/-- The system together with its history: what each step records, in order. -/
def observe {ω : Type*} (step : σ → α → σ) (record : σ → α → List ω) :
    List ω × σ → α → List ω × σ :=
  fun hs a ↦ (hs.1 ++ record hs.2 a, step hs.2 a)

/-- The history is not part of the system. -/
theorem run_observe_snd {ω : Type*} (record : σ → α → List ω) (hs : List ω × σ) (as : List α) :
    (run (observe step record) hs as).2 = run step hs.2 as := by
  induction as generalizing hs with
  | nil => rfl
  | cons a as ih => exact ih _

theorem allSteps_observe {ω : Type*} {record : σ → α → List ω} {P : σ → α → Prop}
    {hs : List ω × σ} {as : List α} :
    AllSteps (observe step record) (fun hs a ↦ P hs.2 a) hs as ↔ AllSteps step P hs.2 as := by
  induction as generalizing hs with
  | nil => exact Iff.rfl
  | cons a as ih => exact and_congr_right fun _ ↦ ih

/-! ## Counting steps -/

section Count

variable (step) (P : σ → α → Prop) [∀ s a, Decidable (P s a)]

/-- How many steps of the run satisfy `P` in the state they are taken from. -/
def countSteps : σ → List α → ℕ
  | _, [] => 0
  | s, a :: as => (if P s a then 1 else 0) + countSteps (step s a) as

@[simp] theorem countSteps_nil (s : σ) : countSteps step P s [] = 0 := rfl

@[simp] theorem countSteps_cons (s : σ) (a : α) (as : List α) :
    countSteps step P s (a :: as) = (if P s a then 1 else 0) + countSteps step P (step s a) as :=
  rfl

variable {step P}

/-- Nothing is counted exactly when no step satisfies `P`. -/
theorem countSteps_eq_zero_iff {s : σ} {as : List α} :
    countSteps step P s as = 0 ↔ AllSteps step (fun s a ↦ ¬P s a) s as := by
  induction as generalizing s with
  | nil => exact iff_of_true rfl trivial
  | cons a as ih =>
    rw [countSteps_cons, Nat.add_eq_zero_iff, ih, allSteps_cons]
    refine and_congr_left fun _ ↦ ?_
    split <;> simp [*]

/-- **The counter rule.** A number that grows by one at each step that satisfies `P`, and stays at
every other, has counted these steps. -/
theorem count_run {I : σ → Prop} {ok : σ → α → Prop} {f : σ → ℤ}
    (hI : ∀ s a, I s → ok s a → I (step s a))
    (hf : ∀ s a, I s → ok s a → f (step s a) = f s + if P s a then 1 else 0) {s : σ}
    {as : List α} (hs : I s) (h : AllSteps step ok s as) :
    f (run step s as) = f s + countSteps step P s as := by
  induction as generalizing s with
  | nil => simp
  | cons a as ih =>
    rw [run_cons, ih (hI s a hs h.1) h.2, hf s a hs h.1, countSteps_cons]
    split <;> omega

end Count

end Transition
