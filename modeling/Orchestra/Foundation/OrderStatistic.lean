import Mathlib.Algebra.Order.Floor.Ring
import Mathlib.Algebra.Order.Ring.Rat
import Mathlib.Data.List.Sort
import Mathlib.Data.Rat.Floor

/-!
# Order statistics

The element at a position of a sorted list is known by two counts: how many elements of the list are
below it, and how many are at most as large (`getElem?_sorted_iff`). The nearest rank of a fraction
is the least element up to which this fraction of the list lies; it is the element at the position
the fraction of the length rounds up to (`isNearestRank_iff`).
-/

namespace OrderStatistic

variable {α : Type*} [LinearOrder α] {l : List α} {x y : α} {i : ℕ}

/-- The list in ascending order. -/
def sorted (l : List α) : List α := l.insertionSort (· ≤ ·)

/-- How many elements are at most `x`. -/
def atMost (l : List α) (x : α) : ℕ := l.countP fun y ↦ decide (y ≤ x)

/-- How many elements are less than `x`. -/
def below (l : List α) (x : α) : ℕ := l.countP fun y ↦ decide (y < x)

theorem sorted_perm (l : List α) : (sorted l).Perm l := List.perm_insertionSort _ l

theorem pairwise_sorted (l : List α) : (sorted l).Pairwise (· ≤ ·) :=
  List.pairwise_insertionSort _ l

theorem length_sorted (l : List α) : (sorted l).length = l.length := (sorted_perm l).length_eq

theorem sorted_eq_nil_iff : sorted l = [] ↔ l = [] := by
  rw [← List.length_eq_zero_iff, length_sorted, List.length_eq_zero_iff]

theorem atMost_le_length (l : List α) (x : α) : atMost l x ≤ l.length := List.countP_le_length

theorem atMost_eq_below_add_count (l : List α) (x : α) : atMost l x = below l x + l.count x := by
  induction l with
  | nil => rfl
  | cons a l ih =>
    rw [atMost, below, List.countP_cons, List.countP_cons, List.count_cons, ← atMost, ← below, ih]
    rcases lt_trichotomy a x with hlt | rfl | hgt
    · simp only [hlt, hlt.le, hlt.ne, decide_true, if_true, beq_iff_eq, if_false]
      omega
    · simp only [le_refl, lt_irrefl, decide_true, decide_false, if_true, beq_self_eq_true]
      simp only [Bool.false_eq_true, if_false]
      omega
    · simp only [hgt.not_gt, hgt.not_ge, hgt.ne', decide_false, beq_iff_eq, Bool.false_eq_true,
        if_false, Nat.add_zero]

/-! ## Positions and counts -/

/-- In an ascending list, the elements with a property that goes down the order come first. -/
theorem holds_getElem_iff {p : α → Bool} (hp : ∀ a b, a ≤ b → p b = true → p a = true)
    (h : l.Pairwise (· ≤ ·)) (hi : i < l.length) : p l[i] = true ↔ i < l.countP p := by
  induction l generalizing i with
  | nil => exact absurd hi (Nat.not_lt_zero i)
  | cons a l ih =>
    obtain ⟨ha, hl⟩ := List.pairwise_cons.mp h
    cases hpa : p a with
    | true =>
      rw [List.countP_cons_of_pos hpa]
      cases i with
      | zero => exact iff_of_true hpa (Nat.succ_pos _)
      | succ i =>
        rw [List.getElem_cons_succ, Nat.add_lt_add_iff_right]
        exact ih hl (Nat.lt_of_succ_lt_succ hi)
    | false =>
      have hnone : ∀ b ∈ a :: l, ¬p b = true := by
        intro b hb hpb
        rcases List.mem_cons.mp hb with rfl | hb
        · rw [hpa] at hpb
          cases hpb
        · have hdown := hp a b (ha b hb) hpb
          rw [hpa] at hdown
          cases hdown
      rw [List.countP_eq_zero.mpr hnone]
      exact iff_of_false (hnone _ (List.getElem_mem hi)) (Nat.not_lt_zero i)

/-- What is at a position is at most `x` exactly if more elements are. -/
theorem le_iff_of_getElem? (h : (sorted l)[i]? = some y) : y ≤ x ↔ i < atMost l x := by
  obtain ⟨hi, rfl⟩ := List.getElem?_eq_some_iff.mp h
  have hdown : ∀ a b : α, a ≤ b → decide (b ≤ x) = true → decide (a ≤ x) = true :=
    fun a b hab hb ↦ decide_eq_true (hab.trans (of_decide_eq_true hb))
  have hpos := holds_getElem_iff hdown (pairwise_sorted l) hi
  rw [decide_eq_true_eq, (sorted_perm l).countP_eq] at hpos
  exact hpos

/-- What is at a position is less than `x` exactly if more elements are. -/
theorem lt_iff_of_getElem? (h : (sorted l)[i]? = some y) : y < x ↔ i < below l x := by
  obtain ⟨hi, rfl⟩ := List.getElem?_eq_some_iff.mp h
  have hdown : ∀ a b : α, a ≤ b → decide (b < x) = true → decide (a < x) = true :=
    fun a b hab hb ↦ decide_eq_true (hab.trans_lt (of_decide_eq_true hb))
  have hpos := holds_getElem_iff hdown (pairwise_sorted l) hi
  rw [decide_eq_true_eq, (sorted_perm l).countP_eq] at hpos
  exact hpos

theorem exists_getElem? (hi : i < l.length) : ∃ y, (sorted l)[i]? = some y := by
  rw [← length_sorted] at hi
  exact ⟨_, List.getElem?_eq_getElem hi⟩

theorem mem_of_getElem? (h : (sorted l)[i]? = some y) : y ∈ l :=
  (sorted_perm l).mem_iff.mp (List.mem_of_getElem? h)

/-- **Positions.** `x` is at a position of the sorted list when at most so many elements are below
it, and more are at most as large. -/
theorem getElem?_sorted_iff : (sorted l)[i]? = some x ↔ below l x ≤ i ∧ i < atMost l x := by
  constructor
  · intro h
    exact ⟨not_lt.mp fun hlt ↦ lt_irrefl x ((lt_iff_of_getElem? h).mpr hlt),
      (le_iff_of_getElem? h).mp le_rfl⟩
  · rintro ⟨hbelow, hatMost⟩
    obtain ⟨y, hy⟩ := exists_getElem? (hatMost.trans_le (atMost_le_length l x))
    have hle : y ≤ x := (le_iff_of_getElem? hy).mpr hatMost
    have hnot : ¬y < x := fun hlt ↦ hbelow.not_gt ((lt_iff_of_getElem? hy).mp hlt)
    rw [hy, hle.antisymm (not_lt.mp hnot)]

/-! ## Nearest ranks -/

/-- `x` is the least element of the list such that the fraction `p` of the list is at most `x`. -/
structure IsNearestRank (p : ℚ) (l : List α) (x : α) : Prop where
  mem : x ∈ l
  enough : p * l.length ≤ atMost l x
  least : ∀ y ∈ l, p * l.length ≤ atMost l y → x ≤ y

theorem IsNearestRank.unique {p : ℚ} (hx : IsNearestRank p l x) (hy : IsNearestRank p l y) :
    x = y :=
  le_antisymm (hx.least y hy.mem hy.enough) (hy.least x hx.mem hx.enough)

theorem ceil_pos {p : ℚ} (hp : 0 < p) {n : ℕ} (hn : n ≠ 0) : 0 < ⌈p * n⌉₊ :=
  Nat.ceil_pos.mpr (mul_pos hp (Nat.cast_pos.mpr (Nat.pos_of_ne_zero hn)))

theorem ceil_le {p : ℚ} (hp : p ≤ 1) (n : ℕ) : ⌈p * n⌉₊ ≤ n :=
  Nat.ceil_le.mpr (mul_le_of_le_one_left (Nat.cast_nonneg _) hp)

section Rank

variable {p : ℚ}

/-- The element at the rank of a fraction is at most `x` exactly if the fraction of the list is. -/
theorem rank_le_iff (hp : 0 < p) (hl : l ≠ [])
    (h : (sorted l)[⌈p * l.length⌉₊ - 1]? = some y) : y ≤ x ↔ p * l.length ≤ atMost l x := by
  have hpos := ceil_pos hp (mt List.length_eq_zero_iff.mp hl)
  rw [le_iff_of_getElem? h, ← Nat.ceil_le]
  omega

/-- **The nearest rank** is the element at the position that the fraction of the length rounds up
to. -/
theorem isNearestRank_iff (hp : 0 < p) (hp' : p ≤ 1) (hl : l ≠ []) :
    IsNearestRank p l x ↔ (sorted l)[⌈p * l.length⌉₊ - 1]? = some x := by
  have hpos := ceil_pos hp (mt List.length_eq_zero_iff.mp hl)
  have hle := ceil_le hp' l.length
  obtain ⟨y, hy⟩ := exists_getElem? (l := l) (i := ⌈p * l.length⌉₊ - 1) (by omega)
  have hrank : IsNearestRank p l y :=
    ⟨mem_of_getElem? hy, (rank_le_iff hp hl hy).mp le_rfl,
      fun z _ hz ↦ (rank_le_iff hp hl hy).mpr hz⟩
  constructor
  · intro hx
    rw [hy, hrank.unique hx]
  · intro hx
    rw [hy] at hx
    rw [← Option.some.inj hx]
    exact hrank

theorem exists_isNearestRank (hp : 0 < p) (hp' : p ≤ 1) (hl : l ≠ []) :
    ∃ x, IsNearestRank p l x := by
  have hpos := ceil_pos hp (mt List.length_eq_zero_iff.mp hl)
  have hle := ceil_le hp' l.length
  obtain ⟨x, hx⟩ := exists_getElem? (l := l) (i := ⌈p * l.length⌉₊ - 1) (by omega)
  exact ⟨x, (isNearestRank_iff hp hp' hl).mpr hx⟩

/-- Nearest ranks compare with any element of the order by counting. -/
theorem IsNearestRank.le_iff (h : IsNearestRank p l x) (hp : 0 < p) (hp' : p ≤ 1) (y : α) :
    x ≤ y ↔ p * l.length ≤ atMost l y := by
  have hl : l ≠ [] := List.ne_nil_of_mem h.mem
  exact rank_le_iff hp hl ((isNearestRank_iff hp hp' hl).mp h)

/-- Nearest ranks do not depend on how the elements are represented. -/
theorem IsNearestRank.map {β : Type*} [LinearOrder β] {f : α → β} (hf : StrictMono f)
    (h : IsNearestRank p l x) : IsNearestRank p (l.map f) (f x) := by
  have hcount (y : α) : atMost (l.map f) (f y) = atMost l y := by
    rw [atMost, List.countP_map]
    simp only [atMost, Function.comp_def, hf.le_iff_le]
  refine ⟨List.mem_map_of_mem h.mem, ?_, fun z hz hle ↦ ?_⟩
  · rw [hcount, List.length_map]
    exact h.enough
  · obtain ⟨y, hy, rfl⟩ := List.mem_map.mp hz
    rw [hcount, List.length_map] at hle
    exact hf.monotone (h.least y hy hle)

end Rank

end OrderStatistic
