import Mathlib.Data.List.Forall2
import Mathlib.Data.List.Sort

/-!
# Dictionaries

A dictionary is a list of keys with their values, in the order in which they were added. When no key
occurs twice, a lookup does not depend on that order, and sorting by key brings two dictionaries
that have the same items into the same order. More generally, sorting lines up two dictionaries
whose lookups are related (`forall₂_sort`).
-/

namespace Dictionary

variable {κ α β : Type*}

/-- The value at a key. -/
def get [BEq κ] (d : List (κ × α)) (k : κ) : Option α := (d.find? fun f ↦ f.1 == k).map Prod.snd

section Lookup

variable [DecidableEq κ] {d d' : List (κ × α)} {k k' : κ} {v : α}

theorem get_nil (k : κ) : get ([] : List (κ × α)) k = none := rfl

theorem get_cons (k' : κ) (v : α) (d : List (κ × α)) (k : κ) :
    get ((k', v) :: d) k = if k' = k then some v else get d k := by
  rw [get, List.find?_cons]
  split_ifs with h
  · rw [beq_iff_eq.mpr h]
    rfl
  · rw [beq_eq_false_iff_ne.mpr h]
    rfl

theorem get_eq_none_iff : get d k = none ↔ k ∉ d.map Prod.fst := by
  induction d with
  | nil => simp [get_nil]
  | cons f d ih =>
    rw [get_cons, List.map_cons, List.mem_cons, not_or]
    split_ifs with h
    · exact iff_of_false (by simp) fun hne ↦ hne.1 h.symm
    · rw [ih, and_iff_right (Ne.symm h)]

/-- A lookup finds the items of the dictionary. -/
theorem get_eq_some_iff (hd : (d.map Prod.fst).Nodup) : get d k = some v ↔ (k, v) ∈ d := by
  induction d with
  | nil => simp [get_nil]
  | cons f d ih =>
    obtain ⟨k', v'⟩ := f
    rw [List.map_cons, List.nodup_cons] at hd
    rw [get_cons, List.mem_cons, Prod.mk.injEq]
    split_ifs with h
    · subst h
      have hnot : (k', v) ∉ d := fun hmem ↦ hd.1 (List.mem_map.mpr ⟨_, hmem, rfl⟩)
      simp only [Option.some.injEq, true_and, hnot, or_false, eq_comm]
    · rw [ih hd.2, or_iff_right fun heq ↦ h heq.1.symm]

theorem get_of_perm (hd : (d.map Prod.fst).Nodup) (h : d.Perm d') (k : κ) :
    get d k = get d' k := by
  have hd' : (d'.map Prod.fst).Nodup := (h.map Prod.fst).nodup_iff.mp hd
  refine Option.ext fun v ↦ ?_
  rw [get_eq_some_iff hd, get_eq_some_iff hd', h.mem_iff]

theorem get_filter (p : κ → Bool) (d : List (κ × α)) (k : κ) :
    get (d.filter fun f ↦ p f.1) k = if p k then get d k else none := by
  induction d with
  | nil => simp [get_nil]
  | cons f d ih =>
    obtain ⟨k', v⟩ := f
    rw [List.filter_cons]
    by_cases h : k' = k
    · subst h
      cases hp : p k' <;> simp [hp, get_cons, ih]
    · cases hp : p k' <;> simp [h, get_cons, ih]

theorem get_map (g : κ → α → β) (d : List (κ × α)) (k : κ) :
    get (d.map fun f ↦ (f.1, g f.1 f.2)) k = (get d k).map (g k) := by
  induction d with
  | nil => rfl
  | cons f d ih =>
    obtain ⟨k', v⟩ := f
    rw [List.map_cons, get_cons, get_cons, ih]
    split_ifs with h
    · rw [h]
      rfl
    · rfl

/-! ## Override -/

theorem get_append (d d' : List (κ × α)) (k : κ) : get (d ++ d') k = (get d k).or (get d' k) := by
  induction d with
  | nil => simp [get_nil]
  | cons f d ih =>
    obtain ⟨k', v⟩ := f
    rw [List.cons_append, get_cons, get_cons, ih]
    split_ifs <;> rfl

/-- The items of the first dictionary with the values the second one has for their keys, and after
them those of the second one that are new. -/
def override (d d' : List (κ × α)) : List (κ × α) :=
  (d.map fun f ↦ (f.1, (get d' f.1).getD f.2)) ++
    d'.filter fun f ↦ decide (f.1 ∉ d.map Prod.fst)

/-- The second dictionary takes precedence. -/
theorem get_override (d d' : List (κ × α)) (k : κ) :
    get (override d d') k = (get d' k).or (get d k) := by
  rw [override, get_append, get_map (fun k v ↦ (get d' k).getD v),
    get_filter fun k ↦ decide (k ∉ d.map Prod.fst)]
  cases hd : get d k with
  | none =>
    have hnot : k ∉ d.map Prod.fst := get_eq_none_iff.mp hd
    simp [hnot]
  | some v => cases get d' k <;> simp

theorem nodup_override (hd : (d.map Prod.fst).Nodup) (hd' : (d'.map Prod.fst).Nodup) :
    ((override d d').map Prod.fst).Nodup := by
  have hfirst : (d.map fun f ↦ (f.1, (get d' f.1).getD f.2)).map Prod.fst = d.map Prod.fst := by
    rw [List.map_map]
    rfl
  have hsecond : (d'.filter fun f ↦ decide (f.1 ∉ d.map Prod.fst)).Sublist d' :=
    List.filter_sublist
  rw [override, List.map_append, hfirst]
  refine List.nodup_append.mpr ⟨hd, (hsecond.map Prod.fst).nodup hd', ?_⟩
  rintro k hk k' hk' rfl
  obtain ⟨f, hf, rfl⟩ := List.mem_map.mp hk'
  exact of_decide_eq_true (List.mem_filter.mp hf).2 hk

end Lookup

/-! ## Lining up two dictionaries -/

section Sorting

variable [LinearOrder κ] {d : List (κ × α)} {d' : List (κ × β)} {R : α → β → Prop}

/-- The items by key. -/
def sort (d : List (κ × α)) : List (κ × α) := d.insertionSort fun f g ↦ f.1 ≤ g.1

theorem sort_perm (d : List (κ × α)) : (sort d).Perm d := List.perm_insertionSort _ d

theorem map_fst_sort (d : List (κ × α)) :
    (sort d).map Prod.fst = (d.map Prod.fst).insertionSort (· ≤ ·) :=
  List.map_insertionSort _ _ Prod.fst d fun _ _ _ _ ↦ Iff.rfl

/-- The order in which the items were added does not show. -/
theorem sort_eq_of_perm {d' : List (κ × α)} (hd : (d.map Prod.fst).Nodup) (h : d.Perm d') :
    sort d = sort d' := by
  have hle : ∀ f g : κ × α, f ∈ sort d → g ∈ sort d' → f.1 ≤ g.1 → g.1 ≤ f.1 → f = g := by
    intro f g hf hg hfg hgf
    have hf' : f ∈ d := (sort_perm d).mem_iff.mp hf
    have hg' : g ∈ d := h.mem_iff.mpr ((sort_perm d').mem_iff.mp hg)
    exact List.inj_on_of_nodup_map hd hf' hg' (le_antisymm hfg hgf)
  have hperm : (sort d).Perm (sort d') := (sort_perm d).trans (h.trans (sort_perm d').symm)
  exact List.Perm.eq_of_pairwise hle (List.pairwise_insertionSort _ d)
    (List.pairwise_insertionSort _ d') hperm

theorem eq_none_iff_of_rel {x : Option α} {y : Option β} (h : Option.Rel R x y) :
    x = none ↔ y = none := by
  cases h with
  | none => exact iff_of_true rfl rfl
  | some h => simp

theorem rel_map {γ δ : Type*} {S : γ → δ → Prop} {f : α → γ} {g : β → δ} {x : Option α}
    {y : Option β} (h : Option.Rel R x y) (hfg : ∀ a b, R a b → S (f a) (g b)) :
    Option.Rel S (x.map f) (y.map g) := by
  cases h with
  | none => exact .none
  | some hab => exact .some (hfg _ _ hab)

/-- Two dictionaries with the same keys in the same order line up as their lookups do. -/
theorem forall₂_of_get (hkeys : d.map Prod.fst = d'.map Prod.fst) (hd : (d.map Prod.fst).Nodup)
    (h : ∀ k, Option.Rel R (get d k) (get d' k)) :
    List.Forall₂ (fun f g ↦ f.1 = g.1 ∧ R f.2 g.2) d d' := by
  induction d generalizing d' with
  | nil =>
    obtain rfl := List.map_eq_nil_iff.mp hkeys.symm
    exact .nil
  | cons f d ih =>
    cases d' with
    | nil => cases hkeys
    | cons g d' =>
      obtain ⟨hkey, hrest⟩ := List.cons.inj hkeys
      rw [List.map_cons, List.nodup_cons] at hd
      have hhead := h f.1
      rw [get_cons, if_pos rfl, get_cons, if_pos hkey.symm] at hhead
      cases hhead with
      | some hR =>
        refine .cons ⟨hkey, hR⟩ (ih hrest hd.2 fun k ↦ ?_)
        have hk := h k
        rw [get_cons, get_cons, ← hkey] at hk
        split_ifs at hk with heq
        · have hnone : get d k = none := get_eq_none_iff.mpr (heq ▸ hd.1)
          have hnone' : get d' k = none := get_eq_none_iff.mpr (heq ▸ hrest ▸ hd.1)
          rw [hnone, hnone']
          exact .none
        · exact hk

/-- Sorting does not show the order either. -/
theorem insertionSort_eq_of_perm {l l' : List κ} (h : l.Perm l') :
    l.insertionSort (· ≤ ·) = l'.insertionSort (· ≤ ·) := by
  refine List.Perm.eq_of_pairwise (fun _ _ _ _ ↦ le_antisymm) (List.pairwise_insertionSort _ _)
    (List.pairwise_insertionSort _ _) ?_
  exact (List.perm_insertionSort _ _).trans (h.trans (List.perm_insertionSort _ _).symm)

/-- **Sorting lines dictionaries up** that are related key by key. -/
theorem forall₂_sort (hd : (d.map Prod.fst).Nodup) (hd' : (d'.map Prod.fst).Nodup)
    (h : ∀ k, Option.Rel R (get d k) (get d' k)) :
    List.Forall₂ (fun f g ↦ f.1 = g.1 ∧ R f.2 g.2) (sort d) (sort d') := by
  have hmem : ∀ k, k ∈ d.map Prod.fst ↔ k ∈ d'.map Prod.fst := by
    intro k
    rw [← not_iff_not, ← get_eq_none_iff, ← get_eq_none_iff]
    exact eq_none_iff_of_rel (h k)
  have hperm : (d.map Prod.fst).Perm (d'.map Prod.fst) :=
    (List.perm_ext_iff_of_nodup hd hd').mpr hmem
  have hkeys : (sort d).map Prod.fst = (sort d').map Prod.fst := by
    rw [map_fst_sort, map_fst_sort, insertionSort_eq_of_perm hperm]
  have hnodup : ((sort d).map Prod.fst).Nodup := ((sort_perm d).map Prod.fst).nodup_iff.mpr hd
  refine forall₂_of_get hkeys hnodup fun k ↦ ?_
  rw [get_of_perm hnodup (sort_perm d), get_of_perm (hkeys ▸ hnodup) (sort_perm d')]
  exact h k

end Sorting

end Dictionary
