import Mathlib.Algebra.Order.Group.Int

/-!
# Reading up to balance

Every element of a list adds to a balance, or takes from it. A reader starts with a balance and
stops after the first element that leaves it at zero or below. What is read of a list and something
after it depends on the balances of the proper prefixes of the list: if they are all positive, the
list is read to its end (`upTo_append`), and otherwise the reader never gets beyond the first prefix
that is not (`upTo_append_of_closed`). `Reads` says what is read without saying how.
-/

namespace Balance

variable {α : Type*} (net : α → ℤ)

/-- The elements up to the first after which the balance is not positive. -/
def upTo : ℤ → List α → List α
  | _, [] => []
  | d, x :: xs => if d + net x ≤ 0 then [x] else x :: upTo (d + net x) xs

/-- What the elements come to. -/
def total : List α → ℤ
  | [] => 0
  | x :: xs => net x + total xs

/-- The balance is positive before every element. -/
def Open (d : ℤ) (xs : List α) : Prop := ∀ k < xs.length, 0 < d + total net (xs.take k)

instance (d : ℤ) (xs : List α) : Decidable (Open net d xs) :=
  inferInstanceAs (Decidable (∀ k < xs.length, _))

variable {net} {d : ℤ} {xs ys : List α}

@[simp] theorem total_nil : total net [] = 0 := rfl

@[simp] theorem total_cons (x : α) (xs : List α) :
    total net (x :: xs) = net x + total net xs := rfl

theorem total_eq_zero (h : ∀ x ∈ xs, net x = 0) : total net xs = 0 := by
  induction xs with
  | nil => rfl
  | cons x xs ih =>
    rw [List.forall_mem_cons] at h
    rw [total_cons, h.1, ih h.2, add_zero]

theorem Open.tail {x : α} (h : Open net d (x :: xs)) : Open net (d + net x) xs := by
  intro k hk
  have hbalance := h (k + 1) (Nat.succ_lt_succ hk)
  rwa [List.take_succ_cons, total_cons, ← add_assoc] at hbalance

/-- A list whose proper prefixes leave the balance positive is read to its end. -/
theorem upTo_append (hd : 0 < d) (hopen : Open net d xs) :
    upTo net d (xs ++ ys) =
      xs ++ if d + total net xs ≤ 0 then [] else upTo net (d + total net xs) ys := by
  induction xs generalizing d with
  | nil => rw [total_nil, add_zero, if_neg (not_le.mpr hd)]; rfl
  | cons x xs ih =>
    rw [List.cons_append, upTo, total_cons, ← add_assoc]
    split
    · next hclosed =>
      -- the balance is spent at the first element, so there is no other
      cases xs with
      | nil => rw [total_nil, add_zero, if_pos hclosed]; rfl
      | cons y ys =>
        have hpos := hopen.tail 0 (Nat.succ_pos _)
        rw [List.take_zero, total_nil, add_zero] at hpos
        exact absurd hclosed (not_le.mpr hpos)
    · next hpos => rw [ih (not_le.mp hpos) hopen.tail, List.cons_append]

/-- The reader stops within a prefix that spends the balance. -/
theorem upTo_append_of_closed (ys : List α) (hd : 0 < d) {k : ℕ} (hk : k ≤ xs.length)
    (hclosed : d + total net (xs.take k) ≤ 0) : ∃ j ≤ k, upTo net d (xs ++ ys) = xs.take j := by
  induction xs generalizing d k with
  | nil =>
    rw [List.take_nil, total_nil, add_zero] at hclosed
    exact absurd hclosed (not_le.mpr hd)
  | cons x xs ih =>
    cases k with
    | zero =>
      rw [List.take_zero, total_nil, add_zero] at hclosed
      exact absurd hclosed (not_le.mpr hd)
    | succ k =>
      rw [List.take_succ_cons, total_cons, ← add_assoc] at hclosed
      rw [List.cons_append, upTo]
      split
      · exact ⟨1, Nat.succ_pos k, rfl⟩
      · next hpos =>
        obtain ⟨j, hj, heq⟩ := ih (not_le.mp hpos) (Nat.le_of_succ_le_succ hk) hclosed
        exact ⟨j + 1, Nat.succ_le_succ hj, by rw [heq, List.take_succ_cons]⟩

/-- What is read: a part at the front of the list whose proper prefixes leave the balance positive,
and that either spends it or is the whole list. -/
def Reads (net : α → ℤ) (d : ℤ) (xs block : List α) : Prop :=
  ∃ rest, xs = block ++ rest ∧ (block = [] → xs = []) ∧
    (∀ k, 0 < k → k < block.length → 0 < d + total net (block.take k)) ∧
    (d + total net block ≤ 0 ∨ rest = [])

theorem reads_upTo (net : α → ℤ) (d : ℤ) (xs : List α) : Reads net d xs (upTo net d xs) := by
  induction xs generalizing d with
  | nil => exact ⟨[], rfl, fun _ ↦ rfl, fun k _ hk ↦ absurd hk (Nat.not_lt_zero k), Or.inr rfl⟩
  | cons x xs ih =>
    rw [upTo]
    split
    · next hclosed =>
      refine ⟨xs, rfl, nofun, fun k hpos hk ↦ ?_, Or.inl ?_⟩
      · exact absurd hk (not_lt.mpr hpos)
      · rwa [total_cons, total_nil, add_zero]
    · next hpos =>
      obtain ⟨rest, hxs, -, hprefixes, hend⟩ := ih (d + net x)
      refine ⟨rest, congrArg _ hxs, nofun, fun k hk hlt ↦ ?_, ?_⟩
      · obtain ⟨k, rfl⟩ := Nat.exists_eq_succ_of_ne_zero hk.ne'
        rw [List.take_succ_cons, total_cons, ← add_assoc]
        rcases Nat.eq_zero_or_pos k with rfl | hk
        · rw [List.take_zero, total_nil, add_zero]
          exact not_le.mp hpos
        · exact hprefixes k hk (Nat.lt_of_succ_lt_succ hlt)
      · rwa [total_cons, ← add_assoc]

/-- There is one thing to read. -/
theorem Reads.eq_upTo {block : List α} (h : Reads net d xs block) : block = upTo net d xs := by
  obtain ⟨rest, rfl, hnil, hprefixes, hend⟩ := h
  induction block generalizing d with
  | nil => rw [hnil rfl]; rfl
  | cons x block ih =>
    rw [List.cons_append, upTo]
    cases block with
    | nil =>
      rw [total_cons, total_nil, add_zero] at hend
      split
      · rfl
      · next hpos => rw [hend.resolve_left hpos]; rfl
    | cons y block =>
      have hpos := hprefixes 1 Nat.one_pos (Nat.succ_lt_succ (Nat.succ_pos _))
      rw [List.take_succ_cons, List.take_zero, total_cons, total_nil, add_zero] at hpos
      rw [if_neg (not_le.mpr hpos), ← ih nofun ?_ ?_]
      · intro k hk hlt
        have hprefix := hprefixes (k + 1) (Nat.succ_pos k) (Nat.succ_lt_succ hlt)
        rwa [List.take_succ_cons, total_cons, ← add_assoc] at hprefix
      · rwa [total_cons, ← add_assoc] at hend

end Balance
