import Mathlib.Logic.Function.Iterate
import Orchestra.Foundation.EdgeList

/-!
# The worklist loop as a loop

`EdgeList.closureLoop` is given the number of its iterations. A program writes `while stack:`, and
the number of iterations is what the loop happens to need. Here one iteration is a function on the
stack and the covered vertices. Every iteration with a non-empty stack shrinks the measure that
counts the stack and the edges that leave uncovered vertices (`pop_measure_lt`), so the loop ends on
every graph, cyclic or not, and what it has covered then is `closure` (`exists_iterate_pop`).
-/

namespace EdgeList

variable {α : Type*} [DecidableEq α] (E : List (α × α))

/-- The inner loop: the targets of the edges that leave `cur` are pushed in edge order. -/
def push (cur : α) (stack : List α) : List α :=
  E.foldl (fun stack e ↦ if e.1 = cur then e.2 :: stack else stack) stack

/-- One iteration of the loop. With an empty stack the loop has ended. -/
def pop : List α × List α → List α × List α
  | ([], covered) => ([], covered)
  | (cur :: stack, covered) =>
    if cur ∈ covered then (stack, covered) else (push E cur stack, cur :: covered)

/-- What an iteration shrinks. -/
def measure (s : List α × List α) : ℕ := s.1.length + (pending E s.2).length

variable {E}

theorem push_eq (cur : α) (stack : List α) : push E cur stack = (succs E cur).reverse ++ stack := by
  rw [push]
  induction E generalizing stack with
  | nil => rfl
  | cons e E ih =>
    rw [List.foldl_cons, ih, succs, succs]
    split_ifs with h
    · simp [h]
    · simp [h]

theorem pop_measure_lt {cur : α} {stack covered : List α} :
    measure E (pop E (cur :: stack, covered)) < measure E (cur :: stack, covered) := by
  rw [pop]
  split_ifs with h
  · simp [measure]
  · have hpending := length_pending_cons E h
    simp only [measure, push_eq, List.length_append, List.length_reverse, List.length_cons]
    omega

/-- After as many iterations as the measure says, the stack is empty. -/
theorem stack_iterate_pop (n : ℕ) (s : List α × List α) (h : measure E s ≤ n) :
    ((pop E)^[n] s).1 = [] := by
  induction n generalizing s with
  | zero => exact List.length_eq_zero_iff.mp (Nat.eq_zero_of_add_eq_zero_right (Nat.le_zero.mp h))
  | succ n ih =>
    rw [Function.iterate_succ_apply]
    obtain ⟨_ | ⟨cur, stack⟩, covered⟩ := s
    · rw [pop, Function.iterate_fixed rfl]
    · exact ih _ (Nat.le_of_lt_succ (pop_measure_lt.trans_le h))

/-- The iterations are those that `closureLoop` makes. -/
theorem closureLoop_eq_iterate (n : ℕ) (stack covered : List α) :
    closureLoop E n stack covered = ((pop E)^[n] (stack, covered)).2 := by
  induction n generalizing stack covered with
  | zero => rfl
  | succ n ih =>
    rw [Function.iterate_succ_apply]
    cases stack with
    | nil =>
      rw [closureLoop, pop, ← ih]
      cases n <;> rfl
    | cons cur stack =>
      rw [closureLoop, pop]
      split_ifs
      · exact ih stack covered
      · rw [ih, push_eq]

/-- **The loop ends**, and it has covered the closure of the vertex it was started on. -/
theorem exists_iterate_pop (E : List (α × α)) (s : α) :
    ∃ n, (pop E)^[n] ([s], []) = ([], closure E s) := by
  refine ⟨E.length + 1, Prod.ext ?_ ?_⟩
  · refine stack_iterate_pop _ _ ?_
    have hle : (pending E []).length ≤ E.length := List.length_filter_le _ _
    simp only [measure, List.length_singleton]
    omega
  · rw [closure, closureLoop_eq_iterate]

end EdgeList
