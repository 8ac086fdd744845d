import Mathlib.Algebra.Order.Group.Nat
import Mathlib.Data.Nat.Basic

/-!
# Bounded retries

A loop makes one try after another until one is good or its budget is spent. How many tries it makes
depends on the answers alone (`attempts`): they reach the first good one, or they are all that are
allowed (`untilFirst_attempts`).
-/

namespace Retry

/-- The number of tries when `n` are allowed. -/
def attempts (good : ℕ → Bool) : ℕ → ℕ
  | 0 => 0
  | n + 1 => if good 0 then 1 else attempts (fun i ↦ good (i + 1)) n + 1

/-- `a` tries reach the first good one, or all `n` are made. -/
structure UntilFirst (good : ℕ → Bool) (n a : ℕ) : Prop where
  le : a ≤ n
  not_good : ∀ i, i + 1 < a → good i = false
  last : a < n → ∃ i, a = i + 1 ∧ good i = true

variable {good : ℕ → Bool} {n a : ℕ}

theorem attempts_of_good (h : good 0 = true) : attempts good (n + 1) = 1 := by
  rw [attempts, if_pos h]

theorem attempts_of_not_good (h : good 0 = false) :
    attempts good (n + 1) = attempts (fun i ↦ good (i + 1)) n + 1 := by
  rw [attempts, if_neg (by rw [h]; exact Bool.false_ne_true)]

theorem attempts_pos (h : 0 < n) : 0 < attempts good n := by
  obtain ⟨n, rfl⟩ := Nat.exists_eq_add_of_lt h
  rw [Nat.zero_add, attempts]
  split_ifs <;> omega

theorem untilFirst_attempts (good : ℕ → Bool) (n : ℕ) : UntilFirst good n (attempts good n) := by
  induction n generalizing good with
  | zero => exact ⟨le_rfl, fun i hi ↦ absurd hi (by simp [attempts]), fun h ↦ absurd h (by simp)⟩
  | succ n ih =>
    cases hgood : good 0 with
    | true =>
      rw [attempts_of_good hgood]
      exact ⟨by omega, fun i hi ↦ by omega, fun _ ↦ ⟨0, rfl, hgood⟩⟩
    | false =>
      rw [attempts_of_not_good hgood]
      have hrest := ih fun i ↦ good (i + 1)
      refine ⟨Nat.succ_le_succ hrest.le, fun i hi ↦ ?_, fun hlt ↦ ?_⟩
      · cases i with
        | zero => exact hgood
        | succ i => exact hrest.not_good i (by omega)
      · obtain ⟨i, hi, hlast⟩ := hrest.last (by omega)
        exact ⟨i + 1, by rw [hi], hlast⟩

end Retry
