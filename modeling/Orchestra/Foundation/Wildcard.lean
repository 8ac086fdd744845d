import Mathlib.Data.List.Chain
import Mathlib.Order.Lattice

/-!
# Values with a wildcard

A type of tags in which one value stands for "anywhere". Two tags are compatible when they agree or
one of them is the wildcard, and combining tags that disagree gives the wildcard.

Combining is the join of a flat order, with the wildcard on top. Compatibility is no order: it is
reflexive and symmetric, and what it lacks for transitivity is exactly the wildcard in the middle
(`Compatible.trans_iff`). A chain of compatible tags without a wildcard inside relates its ends
(`IsChain.rel_of_forall_trans`, for any relation that composes through good midpoints).
-/

namespace Wildcard

variable {α : Type*} (any : α)

/-- The tags agree, or one of them is the wildcard. -/
def Compatible (a b : α) : Prop := a = any ∨ b = any ∨ a = b

instance [DecidableEq α] (a b : α) : Decidable (Compatible any a b) :=
  inferInstanceAs (Decidable (a = any ∨ b = any ∨ a = b))

variable {any} {a b c : α}

theorem Compatible.refl (a : α) : Compatible any a a := Or.inr (Or.inr rfl)

theorem Compatible.any_right (a : α) : Compatible any a any := Or.inr (Or.inl rfl)

theorem Compatible.trans (hab : Compatible any a b) (hbc : Compatible any b c) (hb : b ≠ any) :
    Compatible any a c := by
  rcases hab with ha | hb' | rfl
  · exact Or.inl ha
  · exact absurd hb' hb
  · exact hbc

/-- **What transitivity lacks.** Through a wildcard the ends have to be compatible by themselves. -/
theorem Compatible.trans_iff (hab : Compatible any a b) (hbc : Compatible any b c) :
    Compatible any a c ↔ (b = any → Compatible any a c) := by
  constructor
  · intro h _
    exact h
  · intro h
    by_cases hb : b = any
    · exact h hb
    · exact hab.trans hbc hb

/-! ## The join -/

section Join

variable [DecidableEq α] (any)

/-- The combination of two tags. -/
def join (a b : α) : α := if a = any ∨ b = any then any else if a = b then a else any

variable {any}

theorem join_self (a : α) : join any a a = a := by
  rw [join]
  by_cases ha : a = any
  · simp [ha]
  · simp [ha]

theorem join_comm (a b : α) : join any a b = join any b a := by
  rw [join, join]
  by_cases hab : a = b
  · rw [hab]
  · by_cases hone : a = any ∨ b = any
    · rw [if_pos hone, if_pos hone.symm]
    · rw [if_neg hone, if_neg (mt Or.symm hone), if_neg hab, if_neg (Ne.symm hab)]

@[simp] theorem join_any (a : α) : join any a any = any := by simp [join]

@[simp] theorem any_join (a : α) : join any any a = any := by simp [join]

theorem join_of_ne (h : a ≠ b) : join any a b = any := by simp [join, h]

/-- Different tags give the wildcard, and equal ones themselves; so three tags give the wildcard
unless all of them are equal. -/
theorem join_assoc (a b c : α) : join any (join any a b) c = join any a (join any b c) := by
  by_cases hab : a = b
  · subst hab
    rw [join_self]
    by_cases hac : a = c
    · rw [hac, join_self, join_self]
    · rw [join_of_ne hac, join_any]
  · rw [join_of_ne hab, any_join]
    by_cases hbc : b = c
    · rw [hbc, join_self, join_of_ne (hbc ▸ hab)]
    · rw [join_of_ne hbc, join_any]

theorem compatible_join_left (a b : α) : Compatible any a (join any a b) := by
  by_cases hab : a = b
  · rw [hab, join_self]
    exact .refl b
  · rw [join_of_ne hab]
    exact .any_right a

end Join

/-! ## Chains -/

/-- If a relation composes through every good midpoint, then a chain whose inner elements are good
relates its ends. -/
theorem IsChain.rel_of_forall_trans {β : Type*} {r : β → β → Prop} {good : β → Prop}
    (htrans : ∀ x y z, r x y → r y z → good y → r x z) {x z : β} {inner : List β}
    (hchain : List.IsChain r (x :: (inner ++ [z]))) (hgood : ∀ y ∈ inner, good y) : r x z := by
  induction inner generalizing x with
  | nil => simpa using hchain
  | cons y inner ih =>
    rw [List.cons_append, List.isChain_cons_cons] at hchain
    rw [List.forall_mem_cons] at hgood
    exact htrans x y z hchain.1 (ih hchain.2 hgood.2) hgood.1

end Wildcard
