import Mathlib.Data.List.Count
import Mathlib.Data.List.Pairwise

/-!
# Attempts at delivery

A sender tries to hand over things that have a key, and each attempt succeeds or fails. The log of
the attempts says how often a key was tried and how often it succeeded; a key that has succeeded is
not to be tried again.

An attempt at a key that has not succeeded keeps the log in order, and with it a key succeeds at
most once.
-/

namespace Delivery

variable {γ κ : Type*} [DecidableEq κ] (key : γ → κ) (ok : γ → Bool)

/-- How often a key was tried. -/
def tries (log : List γ) (k : κ) : ℕ := log.countP fun a ↦ decide (key a = k)

/-- How often it succeeded. -/
def successes (log : List γ) (k : κ) : ℕ := log.countP fun a ↦ decide (key a = k) && ok a

/-- No key is tried after a success. -/
def NeverAgain (log : List γ) : Prop := log.Pairwise fun a b ↦ ok a → key b ≠ key a

variable {key ok} {log : List γ} {a : γ} {k : κ}

theorem tries_concat :
    tries key (log ++ [a]) k = tries key log k + if key a = k then 1 else 0 := by
  simp [tries, List.countP_append, List.countP_singleton]

theorem successes_concat :
    successes key ok (log ++ [a]) k =
      successes key ok log k + if key a = k ∧ ok a then 1 else 0 := by
  simp [successes, List.countP_append, List.countP_singleton]

theorem successes_eq_zero_iff : successes key ok log k = 0 ↔ ∀ a ∈ log, ok a → key a ≠ k := by
  rw [successes, List.countP_eq_zero]
  refine forall₂_congr fun a _ ↦ ?_
  rw [Bool.and_eq_true, decide_eq_true_eq, not_and]
  exact ⟨fun h hok heq ↦ h heq hok, fun h heq hok ↦ h hok heq⟩

/-- An attempt keeps the order exactly when its key has not succeeded. -/
theorem neverAgain_concat_iff : NeverAgain key ok (log ++ [a]) ↔
    NeverAgain key ok log ∧ successes key ok log (key a) = 0 := by
  rw [NeverAgain, List.pairwise_append, successes_eq_zero_iff]
  simp only [List.pairwise_singleton, List.mem_singleton, forall_eq, true_and]
  refine and_congr_right fun _ ↦ forall₂_congr fun b _ ↦ ?_
  exact ⟨fun h hok heq ↦ h hok heq.symm, fun h hok heq ↦ h hok heq.symm⟩

/-! ## The outcomes of one key -/

/-- What came of the attempts at a key, in order. -/
def history {ρ : Type*} (key : γ → κ) (result : γ → ρ) (log : List γ) (k : κ) : List ρ :=
  (log.filter fun a ↦ decide (key a = k)).map result

section History

variable {ρ : Type*} {result : γ → ρ} {log' : List γ}

theorem history_append :
    history key result (log ++ log') k = history key result log k ++ history key result log' k := by
  rw [history, List.filter_append, List.map_append]
  rfl

theorem history_singleton_self : history key result [a] (key a) = [result a] := by
  simp [history]

theorem history_singleton_of_ne (h : key a ≠ k) : history key result [a] k = [] := by
  simp [history, h]

/-- A key without attempts has no outcomes. -/
theorem history_eq_nil_iff : history key result log k = [] ↔ ∀ a ∈ log, key a ≠ k := by
  rw [history, List.map_eq_nil_iff, List.filter_eq_nil_iff]
  simp

/-- A log that tries no key twice has one outcome of each key in it. -/
theorem length_history_of_nodup (h : (log.map key).Nodup) :
    (history key result log k).length = if k ∈ log.map key then 1 else 0 := by
  induction log with
  | nil => rfl
  | cons a log ih =>
    rw [List.map_cons, List.nodup_cons] at h
    have hsplit : history key result (a :: log) k =
        history key result [a] k ++ history key result log k := by
      rw [← history_append, List.singleton_append]
    rw [hsplit, List.length_append, ih h.2]
    by_cases ha : key a = k
    · subst ha
      rw [history_singleton_self, if_neg h.1, if_pos (by simp)]
      rfl
    · rw [history_singleton_of_ne ha]
      simp [Ne.symm ha]

end History

end Delivery
