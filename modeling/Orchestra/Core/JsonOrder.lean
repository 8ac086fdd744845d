import Orchestra.Core.Hashing
import Orchestra.Foundation.Dictionary

/-!
# Values up to the order of their keys

A JSON object has no order, but a dictionary lists its items in one. Two dictionaries that differ
only in that order, at any depth, stand for the same JSON value (`Json.Same`). The canonical
rendering sorts, so the order does not show in it (`render_eq`), nor in a digest.
-/

namespace Orchestra

namespace Json

/-- The same JSON value: equal up to the order of the items of dictionaries, at any depth. -/
inductive Same : Json → Json → Prop
  | refl (v : Json) : Same v v
  | trans {u v w : Json} : Same u v → Same v w → Same u w
  | reorder {fields fields' : List (String × Json)} :
    (fields.map Prod.fst).Nodup → fields.Perm fields' → Same (.obj fields) (.obj fields')
  | item (pre post : List Json) {v w : Json} :
    Same v w → Same (.arr (pre ++ v :: post)) (.arr (pre ++ w :: post))
  | field (pre post : List (String × Json)) (key : String) {v w : Json} :
    Same v w → Same (.obj (pre ++ (key, v) :: post)) (.obj (pre ++ (key, w) :: post))

theorem renderItems_append (items items' : List Json) :
    renderItems (items ++ items') = renderItems items ++ renderItems items' := by
  induction items with
  | nil => rfl
  | cons item items ih => rw [List.cons_append, renderItems, renderItems, ih, List.cons_append]

theorem renderFields_eq_map (fields : List (String × Json)) :
    renderFields fields = fields.map fun f ↦ (f.1, render f.2) := by
  induction fields with
  | nil => rfl
  | cons f fields ih => rw [renderFields, ih, List.map_cons]

/-- The rendering of a dictionary depends on its rendered items by key. -/
theorem render_obj (fields : List (String × Json)) : render (.obj fields) =
    '\x7b' :: joinComma ((Dictionary.sort (fields.map fun f ↦ (f.1, render f.2))).map fun p ↦
      renderString p.1 ++ ':' :: p.2) ++ ['\x7d'] := by
  rw [render, renderFields_eq_map]
  rfl

namespace Same

variable {v w : Json}

/-- **The order of keys does not show** in the canonical rendering. -/
theorem render_eq (h : Same v w) : render v = render w := by
  induction h with
  | refl v => rfl
  | trans _ _ ih ih' => exact ih.trans ih'
  | reorder hnodup hperm =>
    rw [render_obj, render_obj, Dictionary.sort_eq_of_perm ?_ (hperm.map _)]
    rw [List.map_map]
    exact hnodup
  | item pre post _ ih =>
    rw [render, render, renderItems_append, renderItems_append, renderItems, renderItems, ih]
  | field pre post key _ ih =>
    rw [render_obj, render_obj, List.map_append, List.map_append, List.map_cons, List.map_cons, ih]

theorem canonicalJson_eq (h : Same v w) : v.canonicalJson = w.canonicalJson := by
  rw [canonicalJson, canonicalJson, h.render_eq]

theorem digestJson_eq (P : Primitives) (h : Same v w) : digestJson P v = digestJson P w := by
  rw [digestJson, digestJson, h.canonicalJson_eq]

/-- A string has no other form. -/
theorem eq_str_iff (h : Same v w) (s : String) : v = .str s ↔ w = .str s := by
  induction h with
  | refl v => exact Iff.rfl
  | trans _ _ ih ih' => exact ih.trans ih'
  | reorder _ _ | item _ _ _ _ | field _ _ _ _ _ => exact iff_of_false (by simp) (by simp)

/-- Dictionaries are the same when their items are, one by one. -/
theorem obj_of_forall₂ {fields fields' : List (String × Json)}
    (h : List.Forall₂ (fun f g ↦ f.1 = g.1 ∧ Same f.2 g.2) fields fields') :
    Same (.obj fields) (.obj fields') := by
  have hpre : ∀ pre, Same (.obj (pre ++ fields)) (.obj (pre ++ fields')) := by
    induction h with
    | nil => exact fun pre ↦ .refl _
    | @cons f g fields fields' hfg _ ih =>
      intro pre
      obtain ⟨key, v⟩ := f
      obtain ⟨key', w⟩ := g
      obtain ⟨rfl, hsame⟩ := hfg
      have hrest := ih (pre ++ [(key, w)])
      rw [List.append_assoc, List.append_assoc] at hrest
      exact .trans (.field pre fields key hsame) hrest
  exact hpre []

end Same

end Json

end Orchestra
