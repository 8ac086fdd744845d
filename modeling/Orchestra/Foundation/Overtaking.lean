import Mathlib.Data.Int.Order.Basic
import Mathlib.Data.List.Induction
import Mathlib.Order.Lattice

/-!
# Reading first and storing later

A common way to use a table is to read something off it and, in a second step, to store a row that
depends on what was read. Between the two steps somebody else may have stored a row, and then what
was read is out of date. `upToDate` says of a history of reads and stores that this has not happened
to one of the participants.

The example worked out here is a counter: everybody reads the largest number so far, and stores the
next one. The stored numbers increase exactly as long as every one of them is stored up to date
(`pairwise_concat_iff`).
-/

namespace Overtaking

/-! ## Histories -/

/-- A read or a store of a participant. -/
inductive Mark (ι : Type*) where
  | read (i : ι)
  | stored (i : ι)

variable {ι : Type*} [DecidableEq ι]

/-- Nothing has been stored since the last read of `i`; the history has its last mark first. -/
def upToDateRev (i : ι) : List (Mark ι) → Bool
  | [] => true
  | .read j :: h => if j = i then true else upToDateRev i h
  | .stored _ :: _ => false

/-- Nothing has been stored since the last read of `i`. -/
def upToDate (i : ι) (h : List (Mark ι)) : Bool := upToDateRev i h.reverse

@[simp] theorem upToDate_concat_read_self (i : ι) (h : List (Mark ι)) :
    upToDate i (h ++ [.read i]) = true := by
  simp [upToDate, upToDateRev]

theorem upToDate_concat_read {i j : ι} (hij : j ≠ i) (h : List (Mark ι)) :
    upToDate i (h ++ [.read j]) = upToDate i h := by
  simp [upToDate, upToDateRev, hij]

@[simp] theorem upToDate_concat_stored (i j : ι) (h : List (Mark ι)) :
    upToDate i (h ++ [.stored j]) = false := by
  simp [upToDate, upToDateRev]

/-! ## Numbers that are read off and stored later -/

/-- The largest number so far. -/
def top (base : ℤ) (numbers : List ℤ) : ℤ := numbers.foldl max base

theorem top_concat (base : ℤ) (numbers : List ℤ) (n : ℤ) :
    top base (numbers ++ [n]) = max (top base numbers) n := by
  rw [top, List.foldl_append]
  rfl

theorem base_le_top (base : ℤ) (numbers : List ℤ) : base ≤ top base numbers := by
  induction numbers using List.reverseRecOn with
  | nil => exact le_refl base
  | append_singleton numbers n ih =>
    rw [top_concat]
    exact ih.trans (le_max_left _ _)

theorem le_top (base : ℤ) {n : ℤ} {numbers : List ℤ} (h : n ∈ numbers) :
    n ≤ top base numbers := by
  induction numbers using List.reverseRecOn with
  | nil => cases h
  | append_singleton numbers m ih =>
    rw [top_concat]
    rcases List.mem_append.mp h with h | h
    · exact (ih h).trans (le_max_left _ _)
    · rw [List.mem_singleton.mp h]
      exact le_max_right _ _

theorem top_lt {base m : ℤ} {numbers : List ℤ} (hbase : base < m) (h : ∀ n ∈ numbers, n < m) :
    top base numbers < m := by
  induction numbers using List.reverseRecOn with
  | nil => exact hbase
  | append_singleton numbers n ih =>
    rw [top_concat]
    exact max_lt (ih fun x hx ↦ h x (by simp [hx])) (h n (by simp))

/-- The largest number of a table to which larger ones were appended; an empty table counts as
`0`. -/
theorem max?_append_getD {l numbers : List ℤ} (h : ∀ n ∈ numbers, l.max?.getD 0 < n) :
    (l ++ numbers).max?.getD 0 = top (l.max?.getD 0) numbers := by
  cases l with
  | nil =>
    cases numbers with
    | nil => rfl
    | cons n numbers =>
      have hpos : (0 : ℤ) < n := h n List.mem_cons_self
      change numbers.foldl max n = numbers.foldl max (max 0 n)
      rw [max_eq_right hpos.le]
  | cons a l => exact List.foldl_append

/-- **The next number keeps the order exactly when it was read last.** It is the successor of the
largest of the first `k` numbers; the others have been stored since. -/
theorem pairwise_concat_iff {base : ℤ} {numbers : List ℤ} {k : ℕ} (hk : k ≤ numbers.length)
    (hbase : ∀ n ∈ numbers, base < n) :
    (numbers ++ [top base (numbers.take k) + 1]).Pairwise (· < ·) ↔
      numbers.Pairwise (· < ·) ∧ k = numbers.length := by
  rw [List.pairwise_append]
  constructor
  · rintro ⟨hnumbers, -, hlast⟩
    refine ⟨hnumbers, ?_⟩
    by_contra hne
    -- the first number stored since is as large
    have hlt : k < numbers.length := by omega
    have hmem : numbers[k] ∈ numbers := List.getElem_mem hlt
    have htop : top base (numbers.take k) < numbers[k] := by
      refine top_lt (hbase _ hmem) fun n hn ↦ ?_
      obtain ⟨j, hj, rfl⟩ := List.getElem_of_mem hn
      rw [List.length_take] at hj
      rw [List.getElem_take]
      exact List.pairwise_iff_getElem.mp hnumbers j k (by omega) hlt (by omega)
    have hbelow := hlast numbers[k] hmem (top base (numbers.take k) + 1) (by simp)
    omega
  · rintro ⟨hnumbers, rfl⟩
    refine ⟨hnumbers, List.pairwise_singleton _ _, fun n hn m hm ↦ ?_⟩
    rw [List.mem_singleton.mp hm, List.take_length]
    have := le_top base hn
    omega

end Overtaking
