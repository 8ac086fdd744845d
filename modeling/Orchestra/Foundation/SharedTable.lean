import Mathlib.Order.Defs.Unbundled
import Orchestra.Foundation.KeyedTable

/-!
# Tables that are shared

A party that shares a table with others has rows of its own, and keys that only it inserts. Two
tables agree for the party when they have the same rows of its own and the same of its keys. A
statement about its own keys does the same to both, and a statement about the keys of another party
leaves a table that agrees with the one before.
-/

namespace KeyedTable

variable {κ ρ : Type*} {key : ρ → κ} [DecidableEq κ] {own : κ → Prop} {mine : ρ → Bool}

/-- The tables have the same rows of the party, and the same of its keys. -/
structure Agrees (own : κ → Prop) (mine : ρ → Bool) (t u : KeyedTable key) : Prop where
  rows : t.rows.filter mine = u.rows.filter mine
  keys : ∀ k, own k → ((t.find? k).isSome ↔ (u.find? k).isSome)

variable {t t' u : KeyedTable key} {r : ρ} {k : κ}

theorem agrees_equivalence : Equivalence (Agrees own mine : KeyedTable key → KeyedTable key → Prop) where
  refl _ := ⟨rfl, fun _ _ ↦ Iff.rfl⟩
  symm h := ⟨h.rows.symm, fun k hk ↦ (h.keys k hk).symm⟩
  trans h h' := ⟨h.rows.trans h'.rows, fun k hk ↦ (h.keys k hk).trans (h'.keys k hk)⟩

/-- A row of the party is found in both tables. -/
theorem Agrees.find?_eq_some (h : Agrees own mine t u) (hr : t.find? k = some r)
    (hmine : mine r = true) : u.find? k = some r := by
  obtain ⟨hmem, hkey⟩ := find?_eq_some_iff.mp hr
  have hfilter : r ∈ u.rows.filter mine := h.rows ▸ List.mem_filter.mpr ⟨hmem, hmine⟩
  exact find?_eq_some_iff.mpr ⟨(List.mem_filter.mp hfilter).1, hkey⟩

/-- Rows that are picked from those of the party are the same. -/
theorem Agrees.filter_eq (h : Agrees own mine t u) {p : ρ → Bool}
    (hp : ∀ r, p r = true → mine r = true) : t.rows.filter p = u.rows.filter p := by
  have hpicked (rows : List ρ) : rows.filter p = (rows.filter mine).filter p := by
    rw [List.filter_filter]
    refine List.filter_congr fun r _ ↦ ?_
    cases hr : p r with
    | false => rfl
    | true => rw [hp r hr, Bool.and_self]
  rw [hpicked t.rows, hpicked u.rows, h.rows]

/-! ## Insertion -/

/-- Related options are both empty, or have related values. -/
theorem rel_cases {α β : Type*} {R : α → β → Prop} {o : Option α} {o' : Option β}
    (h : Option.Rel R o o') :
    o = none ∧ o' = none ∨ ∃ a b, o = some a ∧ o' = some b ∧ R a b := by
  cases h with
  | none => exact .inl ⟨rfl, rfl⟩
  | some hab => exact .inr ⟨_, _, rfl, rfl, hab⟩

theorem Agrees.insert (h : Agrees own mine t u) (hk : own (key r)) :
    Option.Rel (Agrees own mine) (t.insert r) (u.insert r) := by
  have hkey := h.keys (key r) hk
  cases ht : t.insert r with
  | none =>
    rw [insert_eq_none_iff.mpr (hkey.mp (insert_eq_none_iff.mp ht))]
    exact .none
  | some t' =>
    have hfree : u.find? (key r) = none := by
      rw [← Option.not_isSome_iff_eq_none, ← hkey, find?_key_of_insert ht]
      exact Bool.false_ne_true
    obtain ⟨u', hu⟩ := Option.isSome_iff_exists.mp (insert_isSome_iff.mpr hfree)
    rw [hu]
    refine .some ⟨?_, fun k' hk' ↦ ?_⟩
    · rw [rows_of_insert ht, rows_of_insert hu, List.filter_append, List.filter_append, h.rows]
    · rw [find?_insert ht, find?_insert hu]
      split
      · exact Iff.rfl
      · exact h.keys k' hk'

theorem agrees_insert (ht : t.insert r = some t') (hk : ¬own (key r)) (hr : mine r = false) :
    Agrees own mine t t' where
  rows := by
    rw [rows_of_insert ht, List.filter_append, List.filter_singleton, hr]
    exact (List.append_nil _).symm
  keys k' hk' := by
    have hne : key r ≠ k' := fun heq ↦ hk (heq ▸ hk')
    rw [find?_insert ht, if_neg hne]

/-! ## Updates -/

section Update

variable {f : ρ → ρ} (hf : ∀ r, key (f r) = key r)

theorem isSome_find?_updateAt (t : KeyedTable key) (k k' : κ) :
    ((t.updateAt k f hf).find? k').isSome = (t.find? k').isSome := by
  rw [find?_updateAt]
  split
  · exact Option.isSome_map
  · rfl

theorem filter_rows_updateAt (hmine : ∀ r, mine (f r) = mine r) (t : KeyedTable key) (k : κ) :
    (t.updateAt k f hf).rows.filter mine =
      (t.rows.filter mine).map fun r ↦ if decide (key r = k) then f r else r := by
  rw [updateAt, update, List.filter_map]
  congr 1
  refine List.filter_congr fun r _ ↦ ?_
  rw [Function.comp_apply]
  split
  · exact hmine r
  · rfl

theorem Agrees.updateAt (h : Agrees own mine t u) (hmine : ∀ r, mine (f r) = mine r) (k : κ) :
    Agrees own mine (t.updateAt k f hf) (u.updateAt k f hf) where
  rows := by rw [filter_rows_updateAt hf hmine, filter_rows_updateAt hf hmine, h.rows]
  keys k' hk' := by
    rw [isSome_find?_updateAt, isSome_find?_updateAt]
    exact h.keys k' hk'

theorem agrees_updateAt (hmine : ∀ r, mine (f r) = mine r)
    (hrow : ∀ r, t.find? k = some r → mine r = false) :
    Agrees own mine t (t.updateAt k f hf) where
  rows := by
    rw [filter_rows_updateAt hf hmine]
    refine ((List.map_congr_left fun r hr ↦ ?_).trans (List.map_id' _)).symm
    obtain ⟨hmem, hr⟩ := List.mem_filter.mp hr
    refine if_neg fun hkey ↦ ?_
    have hfalse := hrow r (find?_eq_some_iff.mpr ⟨hmem, of_decide_eq_true hkey⟩)
    rw [hr] at hfalse
    cases hfalse
  keys k' _ := by rw [isSome_find?_updateAt]

theorem isSome_find?_upsert (t : KeyedTable key) (r : ρ) (k' : κ) :
    ((t.upsert r f hf).find? k').isSome ↔ key r = k' ∨ (t.find? k').isSome := by
  rw [find?_upsert]
  by_cases hk : key r = k'
  · simp [hk]
  · simp [hk]

end Update

/-! ## Keys alone -/

/-- A party with keys but no rows of its own. -/
theorem agrees_of_keys (hkeys : ∀ k, own k → ((t.find? k).isSome ↔ (u.find? k).isSome)) :
    Agrees own (fun _ ↦ false) t u :=
  ⟨by simp, hkeys⟩

end KeyedTable
