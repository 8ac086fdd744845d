import Mathlib.Data.List.Basic

/-!
# A list and a pointer to one of its elements

A collection that only grows at its end, with elements that may be taken out, and beside it a
pointer to one of the elements: the pointer is right when it is at an element as long as there is
one, and it may be asked to be at the last one. The lemmas say for each way in which the list and
the pointer change together when a right pointer stays right.
-/

namespace Pointer

variable {α : Type*} {latest : Prop} {l : List α} {current : Option α} {a : α}

/-- The pointer is at an element of a list that is not empty, and at the last one when that is
asked for. -/
def PointsInto (latest : Prop) (l : List α) (current : Option α) : Prop :=
  l ≠ [] → ∃ a, current = some a ∧ a ∈ l ∧ (latest → l.getLast? = some a)

theorem pointsInto_append_self : PointsInto latest (l ++ [a]) (some a) :=
  fun _ ↦ ⟨a, rfl, by simp, fun _ ↦ by simp⟩

/-- A new last element, and a pointer that moves only if there is none. -/
theorem pointsInto_append_iff (hfresh : current ≠ some a) (hlatest : latest → current = none) :
    PointsInto latest (l ++ [a]) (current.or (some a)) ↔ ∀ b, current = some b → b ∈ l := by
  cases current with
  | none => exact iff_of_true pointsInto_append_self nofun
  | some b =>
    rw [Option.some_or]
    constructor
    · rintro h b' hb'
      obtain ⟨c, hc, hmem, -⟩ := h (by simp)
      rw [hb', Option.some.injEq] at hc
      subst hc
      rcases List.mem_append.mp hmem with hmem | hmem
      · exact hmem
      · rw [List.mem_singleton.mp hmem] at hb'
        exact absurd hb' hfresh
    · intro h _
      exact ⟨b, rfl, List.mem_append_left _ (h b rfl), fun hl ↦ absurd (hlatest hl) nofun⟩

theorem getLast?_filter_of_pos {p : α → Bool} (h : l.getLast? = some a) (ha : p a = true) :
    (l.filter p).getLast? = some a := by
  obtain ⟨pre, rfl⟩ := List.getLast?_eq_some_iff.mp h
  rw [List.filter_append, List.filter_cons_of_pos ha, List.filter_nil, List.getLast?_concat]

/-- A removal of another element leaves the pointer right. -/
theorem PointsInto.filter [DecidableEq α] (h : PointsInto latest l current)
    (hne : current ≠ some a) : PointsInto latest (l.filter fun b ↦ decide (b ≠ a)) current := by
  intro hl
  obtain ⟨b, hcurrent, hmem, hlast⟩ := h fun hnil ↦ hl (by rw [hnil]; rfl)
  have hb : decide (b ≠ a) = true := decide_eq_true fun hba ↦ hne (hba ▸ hcurrent)
  exact ⟨b, hcurrent, List.mem_filter.mpr ⟨hmem, hb⟩, fun hlatest ↦
    getLast?_filter_of_pos (hlast hlatest) hb⟩

/-- A removal that leaves the pointer alone. -/
theorem pointsInto_filter_iff [DecidableEq α] (h : PointsInto latest l current) :
    PointsInto latest (l.filter fun b ↦ decide (b ≠ a)) current ↔
      (current = some a → ∀ b ∈ l, b = a) := by
  constructor
  · rintro h' rfl b hb
    by_contra hba
    obtain ⟨c, hc, hmem, -⟩ :=
      h' (List.ne_nil_of_mem (List.mem_filter.mpr ⟨hb, decide_eq_true hba⟩))
    obtain rfl := Option.some.inj hc
    exact of_decide_eq_true (List.mem_filter.mp hmem).2 rfl
  · intro hall
    by_cases hcurrent : current = some a
    · intro hl
      obtain ⟨b, hb⟩ := List.exists_mem_of_ne_nil _ hl
      obtain ⟨hmem, hba⟩ := List.mem_filter.mp hb
      exact absurd (hall hcurrent b hmem) (of_decide_eq_true hba)
    · exact h.filter hcurrent

/-- The first element of a list without duplicates is the last one when there is no other. -/
theorem pointsInto_head?_iff (hnodup : l.Nodup) :
    PointsInto latest l l.head? ↔ (latest → ∀ b ∈ l, ∀ c ∈ l, b = c) := by
  cases l with
  | nil => exact iff_of_true (fun h ↦ absurd rfl h) fun _ _ hb ↦ nomatch hb
  | cons b l =>
    constructor
    · intro h hlatest
      obtain ⟨c, hc, -, hlast⟩ := h (List.cons_ne_nil b l)
      obtain rfl : b = c := Option.some.inj hc
      have hnil : l = [] := by
        by_contra hne
        have hmem : b ∈ l := by
          have hlast' := hlast hlatest
          rw [List.getLast?_cons_of_ne_nil hne] at hlast'
          exact List.mem_of_getLast? hlast'
        exact (List.nodup_cons.mp hnodup).1 hmem
      subst hnil
      intro c hc d hd
      rw [List.mem_singleton.mp hc, List.mem_singleton.mp hd]
    · intro h _
      refine ⟨b, rfl, List.mem_cons_self, fun hlatest ↦ ?_⟩
      have hmem : (b :: l).getLast (List.cons_ne_nil b l) ∈ b :: l := List.getLast_mem _
      rw [List.getLast?_eq_some_getLast (List.cons_ne_nil b l),
        h hlatest _ hmem b List.mem_cons_self]

end Pointer
