import Mathlib.Data.List.Nodup

/-!
# Tables with a primary key

A relational table is a list of rows together with the fact that no two of them share a key. The
fact is a field, so a table that violates its primary key cannot be built, and a lookup by key
determines the row.

Each SQL statement is one operation: `INSERT` (`insert`, which fails on a duplicate key),
`UPDATE … WHERE` (`update`), `DELETE … WHERE` (`delete`) and `INSERT … ON CONFLICT DO UPDATE`
(`upsert`). A statement may not change a row's key, which is what the side condition of `update`
says. The lemmas of this file compute a lookup after each statement; everything about stores is
derived from those.
-/

/-- Rows with pairwise distinct keys. -/
structure KeyedTable {κ ρ : Type*} (key : ρ → κ) where
  /-- The rows, oldest first. -/
  rows : List ρ
  /-- The primary-key constraint. -/
  nodup_keys : (rows.map key).Nodup

namespace KeyedTable

variable {κ ρ : Type*} {key : ρ → κ} [DecidableEq κ]

omit [DecidableEq κ] in
@[ext] theorem ext {t u : KeyedTable key} (h : t.rows = u.rows) : t = u := by
  cases t; cases u; cases h; rfl

/-- The table with no rows. -/
def empty : KeyedTable key := ⟨[], List.nodup_nil⟩

instance : Inhabited (KeyedTable key) := ⟨empty⟩

/-- `SELECT … WHERE key = k`. -/
def find? (t : KeyedTable key) (k : κ) : Option ρ := t.rows.find? fun r ↦ decide (key r = k)

/-- `INSERT`; `none` is the unique-violation error. -/
def insert (t : KeyedTable key) (r : ρ) : Option (KeyedTable key) :=
  if h : key r ∈ t.rows.map key then none
  else some ⟨t.rows ++ [r], by
    rw [List.map_append, List.map_singleton, List.nodup_append]
    refine ⟨t.nodup_keys, List.nodup_singleton _, ?_⟩
    rintro a ha b hb rfl
    exact h (List.mem_singleton.mp hb ▸ ha)⟩

omit [DecidableEq κ] in
private theorem map_key_update (f : ρ → ρ) (p : ρ → Bool) (hf : ∀ r, key (f r) = key r)
    (l : List ρ) : (l.map fun r ↦ if p r then f r else r).map key = l.map key := by
  rw [List.map_map]
  refine List.map_congr_left fun r _ ↦ ?_
  simp only [Function.comp_apply]
  split
  · exact hf r
  · rfl

/-- `UPDATE … SET r := f r WHERE p r`. -/
def update (t : KeyedTable key) (p : ρ → Bool) (f : ρ → ρ) (hf : ∀ r, key (f r) = key r) :
    KeyedTable key :=
  ⟨t.rows.map fun r ↦ if p r then f r else r, by rw [map_key_update f p hf]; exact t.nodup_keys⟩

/-- `UPDATE … WHERE key = k`. -/
def updateAt (t : KeyedTable key) (k : κ) (f : ρ → ρ) (hf : ∀ r, key (f r) = key r) :
    KeyedTable key :=
  t.update (fun r ↦ decide (key r = k)) f hf

/-- `DELETE … WHERE p r`. -/
def delete (t : KeyedTable key) (p : ρ → Bool) : KeyedTable key :=
  ⟨t.rows.filter fun r ↦ !p r, (t.nodup_keys.sublist (List.filter_sublist.map key))⟩

/-- `INSERT r ON CONFLICT (key) DO UPDATE SET r := f r`. -/
def upsert (t : KeyedTable key) (r : ρ) (f : ρ → ρ) (hf : ∀ r, key (f r) = key r) :
    KeyedTable key :=
  match t.insert r with
  | some t' => t'
  | none => t.updateAt (key r) f hf

private theorem map_key_put (r : ρ) (l : List ρ) :
    (l.map fun x ↦ if key x = key r then r else x).map key = l.map key := by
  rw [List.map_map]
  refine List.map_congr_left fun x _ ↦ ?_
  simp only [Function.comp_apply]
  split
  · next h => exact h.symm
  · rfl

/-- The assignment `d[key r] = r` of a dictionary: a row with this key is replaced where it stands,
otherwise `r` goes last. -/
def put (t : KeyedTable key) (r : ρ) : KeyedTable key :=
  match t.insert r with
  | some t' => t'
  | none => ⟨t.rows.map fun x ↦ if key x = key r then r else x, by
      rw [map_key_put]; exact t.nodup_keys⟩

/-! ## Lookups determine rows -/

theorem find?_eq_some_iff {t : KeyedTable key} {k : κ} {r : ρ} :
    t.find? k = some r ↔ r ∈ t.rows ∧ key r = k := by
  obtain ⟨l, hl⟩ := t
  simp only [find?]
  induction l with
  | nil => simp
  | cons a l ih =>
    rw [List.map_cons, List.nodup_cons] at hl
    rw [List.find?_cons]
    by_cases ha : key a = k
    · simp only [ha, decide_true, Option.some.injEq, List.mem_cons]
      constructor
      · rintro rfl
        exact ⟨Or.inl rfl, ha⟩
      · rintro ⟨rfl | hr, hk⟩
        · rfl
        · exact absurd (List.mem_map.mpr ⟨r, hr, hk.trans ha.symm⟩) hl.1
    · simp only [ha, decide_false, ih hl.2, List.mem_cons]
      constructor
      · rintro ⟨hr, hk⟩
        exact ⟨Or.inr hr, hk⟩
      · rintro ⟨rfl | hr, hk⟩
        · exact absurd hk ha
        · exact ⟨hr, hk⟩

theorem find?_eq_none_iff {t : KeyedTable key} {k : κ} :
    t.find? k = none ↔ k ∉ t.rows.map key := by
  rw [find?, List.find?_eq_none, List.mem_map]
  constructor
  · rintro h ⟨r, hr, hk⟩
    exact h r hr (by simpa using hk)
  · intro h r hr hk
    exact h ⟨r, hr, by simpa using hk⟩

theorem find?_eq_none_of_key_ne {t : KeyedTable key} {k : κ} (h : ∀ r ∈ t.rows, key r ≠ k) :
    t.find? k = none := by
  rw [find?_eq_none_iff, List.mem_map]
  rintro ⟨r, hr, hk⟩
  exact h r hr hk

theorem mem_of_find? {t : KeyedTable key} {k : κ} {r : ρ} (h : t.find? k = some r) : r ∈ t.rows :=
  (find?_eq_some_iff.mp h).1

theorem key_of_find? {t : KeyedTable key} {k : κ} {r : ρ} (h : t.find? k = some r) : key r = k :=
  (find?_eq_some_iff.mp h).2

theorem find?_of_mem {t : KeyedTable key} {r : ρ} (h : r ∈ t.rows) : t.find? (key r) = some r :=
  find?_eq_some_iff.mpr ⟨h, rfl⟩

/-- Two rows of one table with one key are one row. -/
theorem eq_of_mem_of_key_eq {t : KeyedTable key} {r r' : ρ} (h : r ∈ t.rows) (h' : r' ∈ t.rows)
    (hk : key r = key r') : r = r' := by
  have hf := find?_of_mem h
  rw [hk, find?_of_mem h'] at hf
  exact (Option.some.inj hf).symm

/-- A lookup does not see the order of the rows. -/
theorem find?_eq_of_perm {t u : KeyedTable key} (h : t.rows.Perm u.rows) (k : κ) :
    t.find? k = u.find? k := by
  cases ht : t.find? k with
  | none =>
    rw [find?_eq_none_iff] at ht
    exact (find?_eq_none_iff.mpr fun hk ↦ ht ((h.map key).mem_iff.mpr hk)).symm
  | some r =>
    obtain ⟨hr, hk⟩ := find?_eq_some_iff.mp ht
    exact (find?_eq_some_iff.mpr ⟨h.mem_iff.mp hr, hk⟩).symm

/-! ## Insertion -/

theorem insert_eq_none_iff {t : KeyedTable key} {r : ρ} :
    t.insert r = none ↔ (t.find? (key r)).isSome := by
  rw [insert, Option.isSome_iff_ne_none, ne_eq, find?_eq_none_iff, not_not]
  split <;> simp_all

theorem insert_isSome_iff {t : KeyedTable key} {r : ρ} :
    (t.insert r).isSome ↔ t.find? (key r) = none := by
  rw [Option.isSome_iff_ne_none, ne_eq, insert_eq_none_iff, Option.not_isSome_iff_eq_none]

theorem rows_of_insert {t t' : KeyedTable key} {r : ρ} (h : t.insert r = some t') :
    t'.rows = t.rows ++ [r] := by
  rw [insert] at h
  split at h
  · cases h
  · cases h; rfl

theorem find?_key_of_insert {t t' : KeyedTable key} {r : ρ} (h : t.insert r = some t') :
    t.find? (key r) = none := by
  rw [← insert_isSome_iff, h]; rfl

/-- A lookup after `INSERT`. -/
theorem find?_insert {t t' : KeyedTable key} {r : ρ} (h : t.insert r = some t') (k : κ) :
    t'.find? k = if key r = k then some r else t.find? k := by
  have hnone := find?_key_of_insert h
  rw [find?, rows_of_insert h, List.find?_append, ← find?]
  split
  · next hk => rw [← hk, hnone]; simp
  · next hk => simp [hk]

/-- An insertion leaves every row that was there. -/
theorem find?_insert_of_some {t t' : KeyedTable key} {r r' : ρ} {k : κ}
    (h : t.insert r = some t') (hk : t.find? k = some r') : t'.find? k = some r' := by
  rw [find?_insert h, if_neg, hk]
  rintro rfl
  rw [find?_key_of_insert h] at hk
  cases hk

/-! ## Updates -/

section Update

variable (t : KeyedTable key) (p : ρ → Bool) (f : ρ → ρ) (hf : ∀ r, key (f r) = key r)

/-- A lookup after `UPDATE … WHERE`. -/
theorem find?_update (k : κ) :
    (t.update p f hf).find? k = (t.find? k).map fun r ↦ if p r then f r else r := by
  rw [find?, update, List.find?_map, find?]
  congr 2
  funext r
  simp only [Function.comp_apply]
  split
  · rw [hf r]
  · rfl

/-- A lookup after `UPDATE … WHERE key = k`. -/
theorem find?_updateAt (k k' : κ) :
    (t.updateAt k f hf).find? k' = if k' = k then (t.find? k').map f else t.find? k' := by
  rw [updateAt, find?_update]
  by_cases hk : k' = k
  · subst hk
    rw [if_pos rfl]
    cases h : t.find? k' with
    | none => rfl
    | some r => simp [key_of_find? h]
  · rw [if_neg hk]
    cases h : t.find? k' with
    | none => rfl
    | some r => simp [key_of_find? h, hk]

@[simp] theorem find?_updateAt_self (k : κ) :
    (t.updateAt k f hf).find? k = (t.find? k).map f := by
  rw [find?_updateAt, if_pos rfl]

theorem find?_updateAt_of_ne {k k' : κ} (h : k' ≠ k) :
    (t.updateAt k f hf).find? k' = t.find? k' := by
  rw [find?_updateAt, if_neg h]

/-- An update keeps the keys. -/
theorem keys_updateAt (k : κ) : (t.updateAt k f hf).rows.map key = t.rows.map key :=
  map_key_update f _ hf t.rows

end Update

/-! ## Deletion and upsert -/

omit [DecidableEq κ] in
theorem mem_rows_delete {t : KeyedTable key} {p : ρ → Bool} {r : ρ} :
    r ∈ (t.delete p).rows ↔ r ∈ t.rows ∧ p r = false := by
  rw [delete, List.mem_filter, Bool.not_eq_true']

/-- A lookup after `DELETE … WHERE`. -/
theorem find?_delete (t : KeyedTable key) (p : ρ → Bool) (k : κ) :
    (t.delete p).find? k = (t.find? k).filter fun r ↦ !p r := by
  cases h : t.find? k with
  | none =>
    rw [Option.filter_none]
    rw [find?_eq_none_iff] at h ⊢
    exact fun hk ↦ h ((List.filter_sublist.map key).subset hk)
  | some r =>
    obtain ⟨hr, hk⟩ := find?_eq_some_iff.mp h
    cases hp : p r with
    | false =>
      rw [Option.filter_some, if_pos (by simp [hp]), find?_eq_some_iff]
      exact ⟨List.mem_filter.mpr ⟨hr, by simp [hp]⟩, hk⟩
    | true =>
      rw [Option.filter_some, if_neg (by simp [hp]), find?_eq_none_iff, List.mem_map]
      rintro ⟨r', hr', hk'⟩
      obtain ⟨hmem, hnp⟩ := List.mem_filter.mp hr'
      rw [eq_of_mem_of_key_eq hmem hr (hk'.trans hk.symm), hp] at hnp
      cases hnp

/-- After `DELETE … WHERE key = k` the rows with other keys are left. -/
theorem mem_rows_delete_key {t : KeyedTable key} {k : κ} {r : ρ} :
    r ∈ (t.delete fun r ↦ decide (key r = k)).rows ↔ r ∈ t.rows ∧ key r ≠ k := by
  rw [mem_rows_delete, decide_eq_false_iff_not]

/-- After `DELETE … WHERE key = k` the key is not found. -/
theorem find?_delete_key (t : KeyedTable key) (k : κ) :
    (t.delete fun r ↦ decide (key r = k)).find? k = none :=
  find?_eq_none_of_key_ne fun _ hr ↦ (mem_rows_delete_key.mp hr).2

/-- After `DELETE … WHERE key = k` the other keys are found as before. -/
theorem find?_delete_key_of_ne {k k' : κ} (t : KeyedTable key) (h : k' ≠ k) :
    (t.delete fun r ↦ decide (key r = k)).find? k' = t.find? k' := by
  rw [find?_delete]
  cases hr : t.find? k' with
  | none => rfl
  | some r =>
    have hkey : key r ≠ k := by rwa [key_of_find? hr]
    rw [Option.filter_some, if_pos (by simp [hkey])]

/-- A lookup after `INSERT … ON CONFLICT DO UPDATE`. -/
theorem find?_upsert (t : KeyedTable key) (r : ρ) (f : ρ → ρ) (hf : ∀ r, key (f r) = key r)
    (k : κ) :
    (t.upsert r f hf).find? k
      = if key r = k then some (((t.find? k).map f).getD r) else t.find? k := by
  rw [upsert]
  cases h : t.insert r with
  | some t' =>
    have hnone := find?_key_of_insert h
    simp only [find?_insert h]
    split
    · next hk => rw [← hk, hnone]; rfl
    · rfl
  | none =>
    rw [insert_eq_none_iff, Option.isSome_iff_exists] at h
    obtain ⟨r₀, hr₀⟩ := h
    simp only [find?_updateAt]
    by_cases hk : key r = k
    · subst hk
      rw [if_pos rfl, if_pos rfl, hr₀]; rfl
    · rw [if_neg (Ne.symm hk), if_neg hk]

/-- A lookup after an assignment. -/
theorem find?_put (t : KeyedTable key) (r : ρ) (k : κ) :
    (t.put r).find? k = if key r = k then some r else t.find? k := by
  rw [put]
  cases h : t.insert r with
  | some t' => exact find?_insert h k
  | none =>
    rw [insert_eq_none_iff, Option.isSome_iff_exists] at h
    obtain ⟨r₀, hr₀⟩ := h
    have hput : ∀ x : ρ, key (if key x = key r then r else x) = key x := by
      intro x
      split
      · next hx => exact hx.symm
      · rfl
    simp only [find?, List.find?_map, Function.comp_def, hput]
    rw [← find?]
    split
    · next hk =>
      subst hk
      rw [hr₀, Option.map_some, if_pos (key_of_find? hr₀)]
    · next hk =>
      cases hx : t.find? k with
      | none => rfl
      | some x =>
        rw [Option.map_some, if_neg]
        rw [key_of_find? hx]
        exact Ne.symm hk

theorem rows_put_of_find?_eq_none {t : KeyedTable key} {r : ρ} (h : t.find? (key r) = none) :
    (t.put r).rows = t.rows ++ [r] := by
  obtain ⟨t', ht'⟩ := Option.isSome_iff_exists.mp (insert_isSome_iff.mpr h)
  rw [put, ht']
  exact rows_of_insert ht'

/-- An assignment to a key that is there keeps the keys. -/
theorem keys_put_of_mem {t : KeyedTable key} {r : ρ} (h : key r ∈ t.rows.map key) :
    (t.put r).rows.map key = t.rows.map key := by
  simp only [put, insert, dif_pos h]
  exact map_key_put r t.rows

/-- An assignment to a new key puts it last. -/
theorem keys_put_of_notMem {t : KeyedTable key} {r : ρ} (h : key r ∉ t.rows.map key) :
    (t.put r).rows.map key = t.rows.map key ++ [key r] := by
  simp only [put, insert, dif_neg h]
  rw [List.map_append, List.map_singleton]

end KeyedTable
