import Orchestra.Core.JsonOrder

/-!
# Reading a rendering back

The canonical rendering loses nothing but the order of keys. It is read back in one way because the
rendering of a value tells where the value ends (`Framed.append_inj`): a string ends at the first
quote that is not escaped, an array and a dictionary at their closing bracket, and everything else
at the next comma or bracket.

The file ends with what two equal renderings say about the values, one lemma for each form.
-/

namespace Orchestra

namespace Json

/-! ## Strings -/

/-- The value of a hexadecimal digit. -/
def hexValue (c : Char) : ℕ := if c.toNat < 58 then c.toNat - 48 else c.toNat - 87

/-- The first character inside a string, and what stands behind it. -/
def readChar : List Char → Option (Char × List Char)
  | '\\' :: '"' :: r => some ('"', r)
  | '\\' :: '\\' :: r => some ('\\', r)
  | '\\' :: 'n' :: r => some ('\n', r)
  | '\\' :: 'r' :: r => some ('\r', r)
  | '\\' :: 't' :: r => some ('\t', r)
  | '\\' :: 'b' :: r => some (Char.ofNat 8, r)
  | '\\' :: 'f' :: r => some (Char.ofNat 12, r)
  | '\\' :: 'u' :: '0' :: '0' :: a :: b :: r => some (Char.ofNat (hexValue a * 16 + hexValue b), r)
  | c :: r => some (c, r)
  | [] => none

private theorem hexValue_hexDigit :
    ∀ n < 32, hexValue (hexDigit (n / 16)) * 16 + hexValue (hexDigit (n % 16)) = n := by decide

theorem readChar_of_ne {c : Char} (h : c ≠ '\\') (r : List Char) :
    readChar (c :: r) = some (c, r) := by
  rw [readChar.eq_def]
  split <;> simp_all

/-- An escaped character is read back. -/
theorem readChar_escapeChar (c : Char) (r : List Char) :
    readChar (escapeChar c ++ r) = some (c, r) := by
  rw [escapeChar]
  split_ifs with hquote hbackslash hn hr ht hb hf hcontrol
  · rw [hquote]
    rfl
  · rw [hbackslash]
    rfl
  · rw [hn]
    rfl
  · rw [hr]
    rfl
  · rw [ht]
    rfl
  · rw [← Char.ofNat_toNat c, hb]
    rfl
  · rw [← Char.ofNat_toNat c, hf]
    rfl
  · have hread : readChar (['\\', 'u', '0', '0', hexDigit (c.toNat / 16),
        hexDigit (c.toNat % 16)] ++ r) = some (Char.ofNat (hexValue (hexDigit (c.toNat / 16)) * 16 +
          hexValue (hexDigit (c.toNat % 16))), r) := rfl
    rw [hread, hexValue_hexDigit _ hcontrol, Char.ofNat_toNat]
  · exact readChar_of_ne hbackslash r

/-- The inside of a string has no quote that is not escaped. -/
theorem escapeChar_append_ne (c : Char) (r xs : List Char) : escapeChar c ++ r ≠ '"' :: xs := by
  rw [escapeChar]
  split_ifs with hquote
  all_goals
    intro h
    obtain ⟨hhead, -⟩ := List.cons.inj h
  -- all but the last start with a backslash
  iterate 8 exact absurd hhead (by decide)
  exact hquote hhead

theorem escape_append_inj {s t xs ys : List Char}
    (h : s.flatMap escapeChar ++ '"' :: xs = t.flatMap escapeChar ++ '"' :: ys) :
    s = t ∧ xs = ys := by
  induction s generalizing t with
  | nil =>
    cases t with
    | nil => exact ⟨rfl, (List.cons.inj h).2⟩
    | cons d t =>
      rw [List.flatMap_cons, List.append_assoc] at h
      exact absurd h.symm (escapeChar_append_ne _ _ _)
  | cons c s ih =>
    cases t with
    | nil =>
      rw [List.flatMap_cons, List.append_assoc] at h
      exact absurd h (escapeChar_append_ne _ _ _)
    | cons d t =>
      rw [List.flatMap_cons, List.flatMap_cons, List.append_assoc, List.append_assoc] at h
      have hread := congrArg readChar h
      rw [readChar_escapeChar, readChar_escapeChar] at hread
      obtain ⟨hchar, hrest⟩ := Prod.mk.inj (Option.some.inj hread)
      obtain ⟨htail, hxs⟩ := ih hrest
      exact ⟨by rw [hchar, htail], hxs⟩

theorem renderString_append_inj {s t : String} {xs ys : List Char}
    (h : renderString s ++ xs = renderString t ++ ys) : s = t ∧ xs = ys := by
  rw [renderString, renderString, List.append_assoc, List.append_assoc, List.cons_append,
    List.cons_append] at h
  obtain ⟨hst, hrest⟩ := escape_append_inj (List.cons.inj h).2
  exact ⟨String.toList_inj.mp hst, hrest⟩

/-! ## Where a value ends -/

/-- The characters that can stand behind a value. -/
def closers : List Char := [',', ']', '\x7d']

/-- What can stand behind a value: nothing, a comma or a closing bracket. -/
def Ends (r : List Char) : Prop := ∀ c ∈ r.head?, c ∈ closers

theorem ends_cons {c : Char} (h : c ∈ closers) (r : List Char) : Ends (c :: r) := by
  rintro d ⟨⟩
  exact h

/-- A character of a number or a constant. -/
def plain (c : Char) : Bool := decide (c ∉ [',', ']', '\x7d', '[', '\x7b', '"'])

theorem not_plain_of_mem_closers : ∀ c ∈ closers, plain c = false := by
  simp [closers, plain]

theorem takeWhile_plain {s xs : List Char} (hs : ∀ c ∈ s, plain c = true) (hxs : Ends xs) :
    (s ++ xs).takeWhile plain = s := by
  rw [List.takeWhile_append_of_pos hs]
  cases xs with
  | nil => rw [List.takeWhile_nil, List.append_nil]
  | cons c r =>
    have hc : plain c = false := not_plain_of_mem_closers c (hxs c rfl)
    rw [List.takeWhile_cons_of_neg (by simp [hc]), List.append_nil]

theorem plain_append_inj {s t xs ys : List Char} (hs : ∀ c ∈ s, plain c = true)
    (ht : ∀ c ∈ t, plain c = true) (hxs : Ends xs) (hys : Ends ys) (h : s ++ xs = t ++ ys) :
    s = t ∧ xs = ys := by
  have hst : s = t := by rw [← takeWhile_plain hs hxs, h, takeWhile_plain ht hys]
  subst hst
  exact ⟨rfl, List.append_cancel_left h⟩

/-! ## Items between commas -/

/-- The first character is not one that can stand behind a value. -/
def Opens (a : List Char) : Prop := ∃ c r, a = c :: r ∧ c ∉ closers

/-- What stands behind the first of some items. -/
def behind (close : Char) (xs : List Char) : List (List Char) → List Char
  | [] => close :: xs
  | item :: items => ',' :: (joinComma (item :: items) ++ close :: xs)

theorem joinComma_cons_append (a : List Char) (items : List (List Char)) (close : Char)
    (xs : List Char) :
    joinComma (a :: items) ++ close :: xs = a ++ behind close xs items := by
  cases items with
  | nil => rfl
  | cons b items =>
    rw [joinComma, List.append_assoc, List.cons_append]
    · rfl
    · rintro ⟨⟩

theorem ends_behind {close : Char} (hclose : close ∈ closers) (xs : List Char)
    (items : List (List Char)) : Ends (behind close xs items) := by
  cases items with
  | nil => exact ends_cons hclose _
  | cons a items => exact ends_cons (by decide) _

/-- A closing bracket tells the end of the items from a further one. -/
theorem eq_of_behind_eq {A B : List (List Char)} {close : Char} {xs ys : List Char}
    (hcomma : close ≠ ',') (h : behind close xs A = behind close ys B) :
    (A = [] ∧ B = [] ∧ xs = ys) ∨ joinComma A ++ close :: xs = joinComma B ++ close :: ys := by
  cases A with
  | nil =>
    cases B with
    | nil => exact Or.inl ⟨rfl, rfl, (List.cons.inj h).2⟩
    | cons b B => exact absurd (List.cons.inj h).1 hcomma
  | cons a A =>
    cases B with
    | nil => exact absurd (List.cons.inj h).1.symm hcomma
    | cons b B => exact Or.inr (List.cons.inj h).2

/-- Items that are each read back in one way are read back in one way between commas. -/
theorem joinComma_append_inj {A B : List (List Char)} {close : Char} {xs ys : List Char}
    (hclose : close ∈ closers) (hcomma : close ≠ ',') (hA : ∀ a ∈ A, Opens a)
    (hB : ∀ b ∈ B, Opens b)
    (hinj : ∀ a ∈ A, ∀ b ∈ B, ∀ us vs, Ends us → Ends vs → a ++ us = b ++ vs → a = b ∧ us = vs)
    (h : joinComma A ++ close :: xs = joinComma B ++ close :: ys) : A = B ∧ xs = ys := by
  induction A generalizing B with
  | nil =>
    cases B with
    | nil => exact ⟨rfl, (List.cons.inj h).2⟩
    | cons b B =>
      obtain ⟨c, r, rfl, hc⟩ := hB b List.mem_cons_self
      rw [joinComma_cons_append] at h
      obtain rfl : close = c := (List.cons.inj h).1
      exact absurd hclose hc
  | cons a A ih =>
    cases B with
    | nil =>
      obtain ⟨c, r, rfl, hc⟩ := hA a List.mem_cons_self
      rw [joinComma_cons_append] at h
      obtain rfl : c = close := (List.cons.inj h).1
      exact absurd hclose hc
    | cons b B =>
      rw [joinComma_cons_append, joinComma_cons_append] at h
      obtain ⟨rfl, hbehind⟩ := hinj a List.mem_cons_self b List.mem_cons_self _ _
        (ends_behind hclose xs A) (ends_behind hclose ys B) h
      have hrest : A = B ∧ xs = ys := by
        rcases eq_of_behind_eq hcomma hbehind with ⟨rfl, rfl, hxs⟩ | hitems
        · exact ⟨rfl, hxs⟩
        · exact ih (fun x hx ↦ hA x (List.mem_cons_of_mem _ hx))
            (fun y hy ↦ hB y (List.mem_cons_of_mem _ hy))
            (fun x hx y hy ↦ hinj x (List.mem_cons_of_mem _ hx) y (List.mem_cons_of_mem _ hy))
            hitems
      exact ⟨by rw [hrest.1], hrest.2⟩

/-! ## Values -/

/-- Values whose constants and numbers are written in plain characters. -/
inductive Framed : Json → Prop
  | atom {v : Json} : render v ≠ [] → (∀ c ∈ render v, plain c = true) → Framed v
  | str (s : String) : Framed (.str s)
  | arr {items : List Json} : (∀ v ∈ items, Framed v) → Framed (.arr items)
  | obj {fields : List (String × Json)} : (∀ f ∈ fields, Framed f.2) → Framed (.obj fields)

/-- One item of a rendered dictionary. -/
def renderItem (f : String × List Char) : List Char := renderString f.1 ++ ':' :: f.2

/-- The rendered items of a dictionary, in the order of their keys. -/
def sortedItems (fields : List (String × Json)) : List (String × List Char) :=
  Dictionary.sort (fields.map fun f ↦ (f.1, render f.2))

theorem render_obj_cons (fields : List (String × Json)) : render (.obj fields) =
    '\x7b' :: (joinComma ((sortedItems fields).map renderItem) ++ ['\x7d']) := by
  rw [render_obj]
  rfl

theorem render_arr_cons (items : List Json) :
    render (.arr items) = '[' :: (joinComma (items.map render) ++ [']']) := by
  rw [render]
  have hitems : renderItems items = items.map render := by
    induction items with
    | nil => rfl
    | cons item items ih => rw [renderItems, ih, List.map_cons]
  rw [hitems]
  rfl

theorem renderItem_append_inj {f g : String × List Char} {xs ys : List Char}
    (hinj : f.2 ++ xs = g.2 ++ ys → f.2 = g.2 ∧ xs = ys)
    (h : renderItem f ++ xs = renderItem g ++ ys) : f = g ∧ xs = ys := by
  rw [renderItem, renderItem, List.append_assoc, List.append_assoc] at h
  obtain ⟨hkey, hrest⟩ := renderString_append_inj h
  obtain ⟨htext, hxs⟩ := hinj (List.cons.inj hrest).2
  exact ⟨Prod.ext hkey htext, hxs⟩

theorem renderItem_injective : Function.Injective renderItem := by
  intro f g h
  have htext : f.2 ++ [] = g.2 ++ [] → f.2 = g.2 ∧ ([] : List Char) = [] := by
    intro heq
    rw [List.append_nil, List.append_nil] at heq
    exact ⟨heq, rfl⟩
  exact (renderItem_append_inj htext (by rw [h])).1

theorem mem_sortedItems {fields : List (String × Json)} {f : String × List Char}
    (h : f ∈ sortedItems fields) : ∃ v, (f.1, v) ∈ fields ∧ render v = f.2 := by
  rw [sortedItems, (Dictionary.sort_perm _).mem_iff, List.mem_map] at h
  obtain ⟨⟨key, v⟩, hmem, rfl⟩ := h
  exact ⟨v, hmem, rfl⟩

theorem opens_renderItem (f : String × List Char) : Opens (renderItem f) :=
  ⟨'"', _, rfl, by decide⟩

/-- Arrays are read back in one way when their items are. -/
theorem arr_append_inj {items items' : List Json} {xs ys : List Char}
    (hopens : ∀ v ∈ items, Opens (render v)) (hopens' : ∀ v ∈ items', Opens (render v))
    (hinj : ∀ v ∈ items, ∀ w ∈ items', ∀ us vs, Ends us → Ends vs →
      render v ++ us = render w ++ vs → render v = render w ∧ us = vs)
    (h : render (.arr items) ++ xs = render (.arr items') ++ ys) :
    items.map render = items'.map render ∧ xs = ys := by
  rw [render_arr_cons, render_arr_cons, List.cons_append, List.cons_append, List.append_assoc,
    List.append_assoc] at h
  refine joinComma_append_inj (by decide) (by decide) ?_ ?_ ?_ (List.cons.inj h).2
  · intro a ha
    obtain ⟨v, hmem, rfl⟩ := List.mem_map.mp ha
    exact hopens v hmem
  · intro b hb
    obtain ⟨w, hmem, rfl⟩ := List.mem_map.mp hb
    exact hopens' w hmem
  · intro a ha b hb
    obtain ⟨v, hmem, rfl⟩ := List.mem_map.mp ha
    obtain ⟨w, hmem', rfl⟩ := List.mem_map.mp hb
    exact hinj v hmem w hmem'

/-- Dictionaries are read back in one way when their values are. -/
theorem obj_append_inj {fields fields' : List (String × Json)} {xs ys : List Char}
    (hinj : ∀ f ∈ fields, ∀ g ∈ fields', ∀ us vs, Ends us → Ends vs →
      render f.2 ++ us = render g.2 ++ vs → render f.2 = render g.2 ∧ us = vs)
    (h : render (.obj fields) ++ xs = render (.obj fields') ++ ys) :
    sortedItems fields = sortedItems fields' ∧ xs = ys := by
  have hopens (l : List (String × List Char)) : ∀ a ∈ l.map renderItem, Opens a := by
    intro a ha
    obtain ⟨f, -, rfl⟩ := List.mem_map.mp ha
    exact opens_renderItem f
  rw [render_obj_cons, render_obj_cons, List.cons_append, List.cons_append, List.append_assoc,
    List.append_assoc] at h
  have hitems : (sortedItems fields).map renderItem = (sortedItems fields').map renderItem ∧
      xs = ys := by
    refine joinComma_append_inj (by decide) (by decide) (hopens _) (hopens _) ?_ (List.cons.inj h).2
    intro a ha b hb us vs hus hvs hab
    obtain ⟨f, hf, rfl⟩ := List.mem_map.mp ha
    obtain ⟨g, hg, rfl⟩ := List.mem_map.mp hb
    obtain ⟨v, hmem, htext⟩ := mem_sortedItems hf
    obtain ⟨w, hmem', htext'⟩ := mem_sortedItems hg
    have htexts : f.2 ++ us = g.2 ++ vs → f.2 = g.2 ∧ us = vs := by
      rw [← htext, ← htext']
      exact hinj _ hmem _ hmem' us vs hus hvs
    obtain ⟨rfl, hrest⟩ := renderItem_append_inj htexts hab
    exact ⟨rfl, hrest⟩
  exact ⟨List.map_injective_iff.mpr renderItem_injective hitems.1, hitems.2⟩

namespace Framed

variable {v w : Json} {xs ys : List Char}

/-- A value starts with a character that cannot stand behind a value. -/
theorem opens (h : Framed v) : Opens (render v) := by
  cases h with
  | atom hne hplain =>
    obtain ⟨c, r, hcons⟩ := List.exists_cons_of_ne_nil hne
    refine ⟨c, r, hcons, fun hc ↦ ?_⟩
    have hplain' := hplain c (hcons ▸ List.mem_cons_self)
    rw [not_plain_of_mem_closers c hc] at hplain'
    cases hplain'
  | str s => exact ⟨'"', _, by rw [render, renderString]; rfl, by decide⟩
  | arr _ => exact ⟨'[', _, render_arr_cons _, by decide⟩
  | obj _ => exact ⟨'\x7b', _, render_obj_cons _, by decide⟩

/-- Two renderings with one beginning have one first character. -/
theorem head_eq (hv : Framed v) (hw : Framed w) (h : render v ++ xs = render w ++ ys) :
    (render v).head? = (render w).head? := by
  obtain ⟨c, r, hc, -⟩ := hv.opens
  obtain ⟨d, t, hd, -⟩ := hw.opens
  rw [hc, hd] at h ⊢
  exact congrArg some (List.cons.inj h).1

theorem head_atom {c : Char} (hplain : ∀ c ∈ render v, plain c = true)
    (h : (render v).head? = some c) : plain c = true :=
  hplain c (List.mem_of_mem_head? h)

theorem head_str (s : String) : (render (.str s)).head? = some '"' := by
  rw [render, renderString]
  rfl

theorem head_arr (items : List Json) : (render (.arr items)).head? = some '[' := by
  rw [render_arr_cons]
  rfl

theorem head_obj (fields : List (String × Json)) : (render (.obj fields)).head? = some '\x7b' := by
  rw [render_obj_cons]
  rfl

/-- **Renderings are read back in one way**: the end of a value does not depend on what follows. -/
theorem append_inj (hv : Framed v) (hw : Framed w) (hxs : Ends xs) (hys : Ends ys)
    (h : render v ++ xs = render w ++ ys) : render v = render w ∧ xs = ys := by
  induction hv generalizing w xs ys with
  | @atom v hne hplain =>
    have hhead := head_eq (.atom hne hplain) hw h
    cases hw with
    | atom _ hplain' => exact plain_append_inj hplain hplain' hxs hys h
    | str t => exact absurd (head_atom hplain (hhead.trans (head_str t))) (by decide)
    | arr _ => exact absurd (head_atom hplain (hhead.trans (head_arr _))) (by decide)
    | obj _ => exact absurd (head_atom hplain (hhead.trans (head_obj _))) (by decide)
  | str s =>
    have hhead := head_eq (.str s) hw h
    rw [head_str] at hhead
    cases hw with
    | atom _ hplain => exact absurd (head_atom hplain hhead.symm) (by decide)
    | str t =>
      obtain ⟨rfl, hrest⟩ := renderString_append_inj h
      exact ⟨rfl, hrest⟩
    | arr _ => exact absurd (hhead.trans (head_arr _)) (by decide)
    | obj _ => exact absurd (hhead.trans (head_obj _)) (by decide)
  | @arr items hitems ih =>
    have hhead := head_eq (.arr hitems) hw h
    rw [head_arr] at hhead
    cases hw with
    | atom _ hplain => exact absurd (head_atom hplain hhead.symm) (by decide)
    | str t => exact absurd (hhead.trans (head_str t)) (by decide)
    | @arr items' hitems' =>
      obtain ⟨htexts, hrest⟩ := arr_append_inj (fun v hmem ↦ (hitems v hmem).opens)
        (fun w hmem ↦ (hitems' w hmem).opens)
        (fun v hmem w hmem' us vs hus hvs ↦ ih v hmem (hitems' w hmem') hus hvs) h
      exact ⟨by rw [render_arr_cons, render_arr_cons, htexts], hrest⟩
    | obj _ => exact absurd (hhead.trans (head_obj _)) (by decide)
  | @obj fields hfields ih =>
    have hhead := head_eq (.obj hfields) hw h
    rw [head_obj] at hhead
    cases hw with
    | atom _ hplain => exact absurd (head_atom hplain hhead.symm) (by decide)
    | str t => exact absurd (hhead.trans (head_str t)) (by decide)
    | arr _ => exact absurd (hhead.trans (head_arr _)) (by decide)
    | @obj fields' hfields' =>
      obtain ⟨htexts, hrest⟩ := obj_append_inj
        (fun f hmem g hmem' us vs hus hvs ↦ ih f hmem (hfields' g hmem') hus hvs) h
      exact ⟨by rw [render_obj_cons, render_obj_cons, htexts], hrest⟩

/-- The values of a dictionary. -/
theorem of_mem_fields {fields : List (String × Json)} (h : Framed (.obj fields))
    {f : String × Json} (hf : f ∈ fields) : Framed f.2 := by
  cases h with
  | atom _ hplain => exact absurd (head_atom hplain (head_obj fields)) (by decide)
  | obj hfields => exact hfields f hf

end Framed

/-! ## Values that are framed -/

theorem framed_null : Framed .null := .atom (by decide) (List.all_eq_true.mp (by decide))

theorem framed_bool (b : Bool) : Framed (.bool b) := by
  cases b with
  | false => exact .atom (by decide) (List.all_eq_true.mp (by decide))
  | true => exact .atom (by decide) (List.all_eq_true.mp (by decide))

private theorem plain_of_isDigit {c : Char} (h : c.isDigit = true) : plain c = true := by
  refine decide_eq_true fun hmem ↦ ?_
  have hnot : ∀ d ∈ [',', ']', '\x7d', '[', '\x7b', '"'], d.isDigit = false := by
    simp [Char.isDigit]
  rw [hnot c hmem] at h
  cases h

private theorem plain_repr (n : ℕ) : n.repr.toList ≠ [] ∧ ∀ c ∈ n.repr.toList, plain c = true := by
  rw [Nat.toList_repr]
  exact ⟨Nat.toDigits_ne_nil, fun c hc ↦
    plain_of_isDigit (Nat.isDigit_of_mem_toDigits (by decide) (by decide) hc)⟩

theorem framed_int (n : ℤ) : Framed (.int n) := by
  have htext : (toString n).toList ≠ [] ∧ ∀ c ∈ (toString n).toList, plain c = true := by
    rw [Int.toString_eq_repr, Int.repr_eq_if]
    split_ifs
    · exact plain_repr _
    · rw [String.toList_append]
      refine ⟨List.append_ne_nil_of_left_ne_nil (by decide) _, fun c hc ↦ ?_⟩
      rcases List.mem_append.mp hc with hc | hc
      · obtain rfl : c = '-' := List.mem_singleton.mp hc
        decide
      · exact (plain_repr _).2 c hc
  refine .atom ?_ ?_
  · rw [render]
    exact htext.1
  · rw [render]
    exact htext.2

theorem framed_ofOption (s : Option String) : Framed (ofOption s) := by
  cases s with
  | none => exact framed_null
  | some s => exact .str s

/-! ## What equal renderings say -/

section

variable {items items' : List Json} {fields fields' : List (String × Json)}

theorem eq_of_render_str {s t : String} (h : render (.str s) = render (.str t)) : s = t := by
  rw [render, render] at h
  have hend : renderString s ++ [] = renderString t ++ [] := by rw [h]
  exact (renderString_append_inj hend).1

private theorem repr_injective {n k : ℕ} (h : n.repr.toList = k.repr.toList) : n = k := by
  rw [Nat.toList_repr, Nat.toList_repr] at h
  rw [← Nat.ofDigitChars_ten_toDigits (n := n), h, Nat.ofDigitChars_ten_toDigits]

private theorem minus_append_ne (n k : ℕ) : ("-" ++ n.repr).toList ≠ k.repr.toList := by
  rw [Nat.toList_repr, String.toList_append]
  intro h
  have hmem : '-' ∈ Nat.toDigits 10 k := by
    rw [← h]
    exact List.mem_append_left _ (by decide)
  have hdigit := Nat.isDigit_of_mem_toDigits (by decide) (by decide) hmem
  cases hdigit

theorem eq_of_render_int {n k : ℤ} (h : render (.int n) = render (.int k)) : n = k := by
  rw [render, render, Int.toString_eq_repr, Int.toString_eq_repr, Int.repr_eq_if,
    Int.repr_eq_if] at h
  split_ifs at h with hn hk hk
  · have heq := repr_injective h
    omega
  · exact absurd h.symm (minus_append_ne _ _)
  · exact absurd h (minus_append_ne _ _)
  · rw [String.toList_append, String.toList_append] at h
    have heq := repr_injective (List.append_cancel_left h)
    omega

theorem eq_of_render_bool {a b : Bool} (h : render (.bool a) = render (.bool b)) : a = b := by
  cases a with
  | false =>
    cases b with
    | false => rfl
    | true => exact absurd h (by decide)
  | true =>
    cases b with
    | false => exact absurd h (by decide)
    | true => rfl

theorem eq_of_render_ofOption {s t : Option String}
    (h : render (ofOption s) = render (ofOption t)) : s = t := by
  have hnull (u : String) : render .null ≠ render (.str u) := by
    intro heq
    have hhead := congrArg List.head? heq
    rw [Framed.head_str] at hhead
    exact absurd hhead (by decide)
  cases s with
  | none =>
    cases t with
    | none => rfl
    | some t => exact absurd h (hnull t)
  | some s =>
    cases t with
    | none => exact absurd h.symm (hnull s)
    | some t => exact congrArg some (eq_of_render_str h)

/-- Two lists with one rendering have the same items. -/
theorem map_render_of_render_arr (hitems : ∀ v ∈ items, Framed v) (hitems' : ∀ v ∈ items', Framed v)
    (h : render (.arr items) = render (.arr items')) : items.map render = items'.map render := by
  have hend : render (.arr items) ++ [] = render (.arr items') ++ [] := by rw [h]
  exact (arr_append_inj (fun v hmem ↦ (hitems v hmem).opens) (fun w hmem ↦ (hitems' w hmem).opens)
    (fun v hmem w hmem' us vs hus hvs ↦ (hitems v hmem).append_inj (hitems' w hmem') hus hvs)
    hend).1

/-- Two dictionaries with one rendering have the same items, up to their order. -/
theorem get_render_of_render_obj {keys keys' : List String} (hkeys : keys.Nodup)
    (hkeys' : keys'.Nodup) (hfst : fields.map Prod.fst = keys)
    (hfst' : fields'.map Prod.fst = keys') (hv : Framed (.obj fields)) (hw : Framed (.obj fields'))
    (h : render (.obj fields) = render (.obj fields')) (key : String) :
    (Dictionary.get fields key).map render = (Dictionary.get fields' key).map render := by
  have hend : render (.obj fields) ++ [] = render (.obj fields') ++ [] := by rw [h]
  have hsorted := (obj_append_inj (fun f hmem g hmem' us vs hus hvs ↦
    (hv.of_mem_fields hmem).append_inj (hw.of_mem_fields hmem') hus hvs) hend).1
  -- sorting and rendering keep a lookup
  have hget {l : List (String × Json)} (hl : (l.map Prod.fst).Nodup) :
      Dictionary.get (sortedItems l) key = (Dictionary.get l key).map render := by
    have hnodup : ((l.map fun f ↦ (f.1, render f.2)).map Prod.fst).Nodup := by
      rw [List.map_map]
      exact hl
    rw [← Dictionary.get_map (fun _ v ↦ render v)]
    exact (Dictionary.get_of_perm hnodup (Dictionary.sort_perm _).symm key).symm
  rw [← hget (hfst ▸ hkeys), ← hget (hfst' ▸ hkeys'), hsorted]

end

end Json

end Orchestra
