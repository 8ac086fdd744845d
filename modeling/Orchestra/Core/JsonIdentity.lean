import Orchestra.Core.JsonFraming

/-!
# Equal renderings

A dictionary of the interpreter has no key twice, and a float is not written like another value.
Values with these properties, at every depth, are the same whenever they are rendered alike
(`same_of_render`). The first thing that a rendering tells is the kind of the value (`kindOf`).
-/

namespace Orchestra

namespace Json

/-- The text of a float: it has a character that no integer has, and it is not a constant. -/
structure FloatText (text : String) : Prop where
  plain : ∀ c ∈ text.toList, Json.plain c = true
  notInt : ∃ c ∈ text.toList, c.isDigit = false ∧ c ≠ '-'
  notConstant : text.toList ∉ ["null".toList, "true".toList, "false".toList]

/-- The values that the interpreter can hold. -/
inductive WellFormed : Json → Prop
  | null : WellFormed .null
  | bool (b : Bool) : WellFormed (.bool b)
  | int (n : ℤ) : WellFormed (.int n)
  | float {text : String} : FloatText text → WellFormed (.float text)
  | str (s : String) : WellFormed (.str s)
  | arr {items : List Json} : (∀ v ∈ items, WellFormed v) → WellFormed (.arr items)
  | obj {fields : List (String × Json)} : (fields.map Prod.fst).Nodup →
    (∀ f ∈ fields, WellFormed f.2) → WellFormed (.obj fields)

theorem WellFormed.framed {v : Json} (h : WellFormed v) : Framed v := by
  induction h with
  | null => exact framed_null
  | bool b => exact framed_bool b
  | int n => exact framed_int n
  | @float text h =>
    obtain ⟨c, hc, -⟩ := h.notInt
    refine .atom ?_ ?_
    · rw [render]
      exact List.ne_nil_of_mem hc
    · rw [render]
      exact h.plain
  | str s => exact .str s
  | arr _ ih => exact .arr ih
  | obj _ _ ih => exact .obj ih

/-! ## The kind of a value -/

/-- The kinds of values. -/
inductive Kind where
  | null | bool | int | float | str | arr | obj
  deriving DecidableEq

def kind : Json → Kind
  | .null => .null
  | .bool _ => .bool
  | .int _ => .int
  | .float _ => .float
  | .str _ => .str
  | .arr _ => .arr
  | .obj _ => .obj

/-- A character of an integer. -/
def intChar (c : Char) : Bool := c.isDigit || c == '-'

/-- The kind that a rendering shows. -/
def kindOf (text : List Char) : Kind :=
  if text.head? = some '"' then .str
  else if text.head? = some '[' then .arr
  else if text.head? = some '\x7b' then .obj
  else if text = "null".toList then .null
  else if text = "true".toList ∨ text = "false".toList then .bool
  else if text.all intChar then .int
  else .float

/-- A text of plain characters shows no kind that has a first character of its own. -/
theorem kindOf_of_plain {text : List Char} (h : ∀ c ∈ text, plain c = true) : kindOf text =
    if text = "null".toList then .null
    else if text = "true".toList ∨ text = "false".toList then .bool
    else if text.all intChar then .int
    else .float := by
  have hne {c : Char} (hc : plain c = false) : text.head? ≠ some c := by
    intro hhead
    rw [h c (List.mem_of_mem_head? hhead)] at hc
    cases hc
  rw [kindOf, if_neg (hne (by decide)), if_neg (hne (by decide)), if_neg (hne (by decide))]

private theorem intChar_toString (n : ℤ) : ∀ c ∈ (toString n).toList, intChar c = true := by
  have hnat (k : ℕ) : ∀ c ∈ k.repr.toList, intChar c = true := by
    intro c hc
    rw [Nat.toList_repr] at hc
    rw [intChar, Nat.isDigit_of_mem_toDigits (by decide) (by decide) hc, Bool.true_or]
  rw [Int.toString_eq_repr, Int.repr_eq_if]
  split_ifs
  · exact hnat _
  · rw [String.toList_append]
    intro c hc
    rcases List.mem_append.mp hc with hc | hc
    · obtain rfl : c = '-' := List.mem_singleton.mp hc
      decide
    · exact hnat _ c hc

/-- A rendering shows the kind of its value. -/
theorem kindOf_render {v : Json} (h : WellFormed v) : kindOf (render v) = v.kind := by
  cases h with
  | null => decide
  | bool b => cases b <;> decide
  | int n =>
    have hint := intChar_toString n
    have hne (s : String) (hs : s.toList.all intChar = false) : (toString n).toList ≠ s.toList := by
      intro heq
      rw [← heq, List.all_eq_true.mpr hint] at hs
      cases hs
    have hplain : ∀ c ∈ (toString n).toList, plain c = true := by
      cases framed_int n with
      | atom _ hplain => rwa [render] at hplain
    rw [render, kindOf_of_plain hplain, if_neg (hne "null" (by decide)),
      if_neg (not_or.mpr ⟨hne "true" (by decide), hne "false" (by decide)⟩),
      if_pos (List.all_eq_true.mpr hint)]
    rfl
  | @float text h =>
    have hnot := h.notConstant
    simp only [List.mem_cons, List.not_mem_nil, or_false, not_or] at hnot
    obtain ⟨c, hc, hdigit, hminus⟩ := h.notInt
    have hint : ¬text.toList.all intChar = true := by
      intro hall
      have hchar := List.all_eq_true.mp hall c hc
      rw [intChar, hdigit, Bool.false_or, beq_iff_eq] at hchar
      exact hminus hchar
    rw [render, kindOf_of_plain h.plain, if_neg hnot.1, if_neg (not_or.mpr hnot.2), if_neg hint]
    rfl
  | str s =>
    rw [kindOf, if_pos (Framed.head_str s)]
    rfl
  | arr _ =>
    rw [kindOf, Framed.head_arr, if_neg (by decide), if_pos rfl]
    rfl
  | obj _ _ =>
    rw [kindOf, Framed.head_obj, if_neg (by decide), if_neg (by decide), if_pos rfl]
    rfl

theorem kind_eq_of_render {v w : Json} (hv : WellFormed v) (hw : WellFormed w)
    (h : render v = render w) : v.kind = w.kind := by
  rw [← kindOf_render hv, ← kindOf_render hw, h]

/-! ## The same value -/

/-- Lists are the same when their items are, one by one. -/
theorem Same.arr_of_forall₂ {items items' : List Json} (h : List.Forall₂ Same items items') :
    Same (.arr items) (.arr items') := by
  have hpre : ∀ pre, Same (.arr (pre ++ items)) (.arr (pre ++ items')) := by
    induction h with
    | nil => exact fun pre ↦ .refl _
    | @cons v w items items' hvw _ ih =>
      intro pre
      have hrest := ih (pre ++ [w])
      rw [List.append_assoc, List.append_assoc] at hrest
      exact .trans (.item pre items hvw) hrest
  exact hpre []

/-- The rendered items of a dictionary are those of the sorted one. -/
theorem sortedItems_eq_map (fields : List (String × Json)) :
    sortedItems fields = (Dictionary.sort fields).map fun f ↦ (f.1, render f.2) :=
  (List.map_insertionSort _ _ (fun f : String × Json ↦ (f.1, render f.2)) fields
    fun _ _ _ _ ↦ Iff.rfl).symm

/-- Sorting a dictionary does not change the value. -/
theorem same_sort {fields : List (String × Json)} (h : (fields.map Prod.fst).Nodup) :
    Same (.obj fields) (.obj (Dictionary.sort fields)) ∧
      Same (.obj (Dictionary.sort fields)) (.obj fields) := by
  have hperm := Dictionary.sort_perm fields
  exact ⟨.reorder h hperm.symm, .reorder ((hperm.map Prod.fst).nodup_iff.mpr h) hperm⟩

/-- **Values that are rendered alike are the same.** -/
theorem same_of_render {v w : Json} (hv : WellFormed v) (hw : WellFormed w)
    (h : render v = render w) : Same v w := by
  induction hv generalizing w with
  | null =>
    have hkind := kind_eq_of_render .null hw h
    cases hw with
    | null => exact .refl _
    | bool _ | int _ | float _ | str _ | arr _ | obj _ _ => cases hkind
  | bool b =>
    have hkind := kind_eq_of_render (.bool b) hw h
    cases hw with
    | bool b' =>
      obtain rfl := eq_of_render_bool h
      exact .refl _
    | null | int _ | float _ | str _ | arr _ | obj _ _ => cases hkind
  | int n =>
    have hkind := kind_eq_of_render (.int n) hw h
    cases hw with
    | int n' =>
      obtain rfl := eq_of_render_int h
      exact .refl _
    | null | bool _ | float _ | str _ | arr _ | obj _ _ => cases hkind
  | @float text htext =>
    have hkind := kind_eq_of_render (.float htext) hw h
    cases hw with
    | @float text' _ =>
      rw [render, render] at h
      obtain rfl := String.toList_inj.mp h
      exact .refl _
    | null | bool _ | int _ | str _ | arr _ | obj _ _ => cases hkind
  | str s =>
    have hkind := kind_eq_of_render (.str s) hw h
    cases hw with
    | str s' =>
      obtain rfl := eq_of_render_str h
      exact .refl _
    | null | bool _ | int _ | float _ | arr _ | obj _ _ => cases hkind
  | @arr items hitems ih =>
    have hkind := kind_eq_of_render (.arr hitems) hw h
    cases hw with
    | @arr items' hitems' =>
      have htexts := map_render_of_render_arr (fun v hv ↦ (hitems v hv).framed)
        (fun w hw ↦ (hitems' w hw).framed) h
      rw [← List.forall₂_eq_eq_eq, List.forall₂_map_left_iff, List.forall₂_map_right_iff] at htexts
      have hleft := (List.forall₂_and_left (p := fun v ↦ v ∈ items) _ _).mpr ⟨fun v hv ↦ hv, htexts⟩
      have hboth := (List.forall₂_and_left (p := fun w ↦ w ∈ items') _ _).mpr
        ⟨fun w hw ↦ hw, hleft.flip⟩
      exact .arr_of_forall₂ (hboth.flip.imp fun v w hvw ↦
        ih v hvw.2.1 (hitems' w hvw.1) hvw.2.2)
    | null | bool _ | int _ | float _ | str _ | obj _ _ => cases hkind
  | @obj fields hnodup hfields ih =>
    have hkind := kind_eq_of_render (.obj hnodup hfields) hw h
    cases hw with
    | @obj fields' hnodup' hfields' =>
      have hend : render (.obj fields) ++ [] = render (.obj fields') ++ [] := by rw [h]
      have hsorted := (obj_append_inj (fun f hf g hg us vs hus hvs ↦
        (hfields f hf).framed.append_inj (hfields' g hg).framed hus hvs) hend).1
      rw [sortedItems_eq_map, sortedItems_eq_map, ← List.forall₂_eq_eq_eq,
        List.forall₂_map_left_iff, List.forall₂_map_right_iff] at hsorted
      have hmem {l : List (String × Json)} : ∀ f ∈ Dictionary.sort l, f ∈ l :=
        fun f hf ↦ (Dictionary.sort_perm l).mem_iff.mp hf
      have hleft := (List.forall₂_and_left (p := fun f ↦ f ∈ fields) _ _).mpr ⟨hmem, hsorted⟩
      have hboth := (List.forall₂_and_left (p := fun g ↦ g ∈ fields') _ _).mpr ⟨hmem, hleft.flip⟩
      have hitems := hboth.flip.imp fun f g hfg ↦ And.intro (Prod.mk.inj hfg.2.2).1
        (ih f hfg.2.1 (hfields' g hfg.1) (Prod.mk.inj hfg.2.2).2)
      exact .trans (same_sort hnodup).1 (.trans (.obj_of_forall₂ hitems) (same_sort hnodup').2)
    | null | bool _ | int _ | float _ | str _ | arr _ => cases hkind

/-- A rendering tells the value, and nothing else does. -/
theorem render_eq_iff_same {v w : Json} (hv : WellFormed v) (hw : WellFormed w) :
    render v = render w ↔ Same v w := ⟨same_of_render hv hw, Same.render_eq⟩

end Json

end Orchestra
