import Mathlib.Data.List.Basic
import Mathlib.Data.Nat.Log
import Mathlib.Logic.Function.Basic

/-!
# Folding a list in layers

A tree over a list is often computed without building it: neighbours are joined pair by pair, an odd
last element with itself, and this is repeated until one element is left. `collapse` is that loop
for an arbitrary binary operation.

Because of the padding the loop does not see its list but the *completed* list, which has a power of
two many elements (`collapse_complete`). Completion is itself such a fold, with concatenation for
the operation, so it commutes with taking a layer (`complete_pairUp`), and for an injective
operation the result and the number of layers determine it (`complete_eq_of_collapse_eq`). A list is
a prefix of its completion, so lists of one length are determined by it.
-/

namespace LayeredFold

variable {α β : Type*}

/-! ## The loop -/

/-- One layer up. -/
def pairUp (f : α → α → α) : List α → List α
  | [] => []
  | [a] => [f a a]
  | a :: b :: rest => f a b :: pairUp f rest

theorem length_pairUp (f : α → α → α) (l : List α) : (pairUp f l).length = (l.length + 1) / 2 := by
  induction l using pairUp.induct with
  | case1 => simp [pairUp]
  | case2 a => simp [pairUp]
  | case3 a b rest ih =>
    rw [pairUp, List.length_cons, ih, List.length_cons, List.length_cons]
    omega

/-- The single element that is left, if there was one to begin with. -/
def collapse (f : α → α → α) : List α → Option α
  | [] => none
  | [a] => some a
  | a :: b :: rest => collapse f (pairUp f (a :: b :: rest))
termination_by l => l.length
decreasing_by
  rw [length_pairUp, List.length_cons, List.length_cons]
  omega

variable {f : α → α → α} {l : List α}

@[simp] theorem collapse_nil : collapse f [] = none := by rw [collapse]

@[simp] theorem collapse_singleton (a : α) : collapse f [a] = some a := by rw [collapse]

theorem collapse_pairUp (h : 1 < l.length) : collapse f (pairUp f l) = collapse f l := by
  match l, h with
  | a :: b :: rest, _ => rw [collapse]

theorem pairUp_ne_nil (h : l ≠ []) : pairUp f l ≠ [] := by
  refine List.ne_nil_of_length_pos ?_
  have := List.length_pos_of_ne_nil h
  rw [length_pairUp]
  omega

/-- Induction along the layers. -/
theorem layer_induction {motive : List α → Prop} (f : α → α → α) (nil : motive [])
    (singleton : ∀ a, motive [a])
    (layer : ∀ l, 1 < l.length → motive (pairUp f l) → motive l) (l : List α) : motive l := by
  induction l using collapse.induct f with
  | case1 => exact nil
  | case2 a => exact singleton a
  | case3 a b rest ih => exact layer _ (by simp) ih

theorem collapse_isSome (h : l ≠ []) : (collapse f l).isSome := by
  induction l using layer_induction f with
  | nil => exact absurd rfl h
  | singleton a => simp
  | layer l hlen ih =>
    rw [← collapse_pairUp hlen]
    exact ih (pairUp_ne_nil h)

theorem exists_of_mem_pairUp {c : α} (h : c ∈ pairUp f l) : ∃ a b, c = f a b := by
  induction l using pairUp.induct with
  | case1 => cases h
  | case2 a => exact ⟨a, a, List.mem_singleton.mp h⟩
  | case3 a b rest ih =>
    rcases List.mem_cons.mp h with rfl | hrest
    · exact ⟨a, b, rfl⟩
    · exact ih hrest

/-- From two elements on, what is left was joined. -/
theorem exists_collapse_eq (h : 1 < l.length) : ∃ a b, collapse f l = some (f a b) := by
  induction l using layer_induction f with
  | nil => exact absurd h (by simp)
  | singleton a => exact absurd h (by simp)
  | layer l hlen ih =>
    by_cases hlayer : 1 < (pairUp f l).length
    · rw [← collapse_pairUp hlen]
      exact ih hlayer
    · rw [length_pairUp] at hlayer
      obtain ⟨a, b, rfl⟩ := List.length_eq_two.mp (by omega : l.length = 2)
      exact ⟨a, b, by rw [← collapse_pairUp (by simp)]; simp [pairUp]⟩

/-! ## Naturality -/

/-- What the operation keeps holds in every layer. -/
theorem forall_pairUp {p : α → Prop} (hp : ∀ a b, p a → p b → p (f a b)) (h : ∀ a ∈ l, p a) :
    ∀ a ∈ pairUp f l, p a := by
  induction l using pairUp.induct with
  | case1 => exact h
  | case2 a =>
    intro c hc
    rw [pairUp, List.mem_singleton] at hc
    exact hc ▸ hp a a (h a (by simp)) (h a (by simp))
  | case3 a b rest ih =>
    rw [pairUp, List.forall_mem_cons]
    exact ⟨hp a b (h a (by simp)) (h b (by simp)), ih fun c hc ↦ h c (by simp [hc])⟩

theorem forall_collapse {p : α → Prop} (hp : ∀ a b, p a → p b → p (f a b))
    (h : ∀ a ∈ l, p a) : ∀ a, collapse f l = some a → p a := by
  induction l using layer_induction f with
  | nil => simp
  | singleton a => simpa using h
  | layer l hlen ih =>
    rw [← collapse_pairUp hlen]
    exact ih (forall_pairUp hp h)

theorem map_pairUp {g : α → β} {k : β → β → β} {p : α → Prop}
    (hg : ∀ a b, p a → p b → g (f a b) = k (g a) (g b)) (h : ∀ a ∈ l, p a) :
    (pairUp f l).map g = pairUp k (l.map g) := by
  induction l using pairUp.induct with
  | case1 => rfl
  | case2 a => simp [pairUp, hg a a (h a (by simp)) (h a (by simp))]
  | case3 a b rest ih =>
    rw [pairUp, List.map_cons, ih fun c hc ↦ h c (by simp [hc]), List.map_cons, List.map_cons,
      pairUp, hg a b (h a (by simp)) (h b (by simp))]

/-- A homomorphism on the elements with `p` commutes with the fold of such elements. -/
theorem map_collapse {g : α → β} {k : β → β → β} {p : α → Prop}
    (hp : ∀ a b, p a → p b → p (f a b)) (hg : ∀ a b, p a → p b → g (f a b) = k (g a) (g b))
    (h : ∀ a ∈ l, p a) : (collapse f l).map g = collapse k (l.map g) := by
  induction l using layer_induction f with
  | nil => simp
  | singleton a => simp
  | layer l hlen ih =>
    have hlen' : 1 < (l.map g).length := by rwa [List.length_map]
    rw [← collapse_pairUp hlen, ih (forall_pairUp hp h), map_pairUp hg h, collapse_pairUp hlen']

/-! ## Elements of a layer -/

/-- The pair above a position; the last element of an odd layer is paired with itself. -/
theorem getElem?_pairUp (l : List α) (i : ℕ) :
    (pairUp f l)[i]? = l[2 * i]?.map fun a ↦ f a ((l[2 * i + 1]?).getD a) := by
  induction l using pairUp.induct generalizing i with
  | case1 => simp [pairUp]
  | case2 a =>
    cases i with
    | zero => simp [pairUp]
    | succ i => simp [pairUp, Nat.mul_succ]
  | case3 a b rest ih =>
    cases i with
    | zero => simp [pairUp]
    | succ i =>
      rw [pairUp, List.getElem?_cons_succ, ih]
      simp only [Nat.mul_succ, List.getElem?_cons_succ]

theorem pairUp_append {u : List α} (heven : 2 ∣ u.length) (v : List α) :
    pairUp f (u ++ v) = pairUp f u ++ pairUp f v := by
  induction u using pairUp.induct with
  | case1 => rfl
  | case2 a => exact absurd heven (by simp)
  | case3 a b rest ih =>
    have hrest : 2 ∣ rest.length := by
      rw [List.length_cons, List.length_cons] at heven
      omega
    rw [List.cons_append, List.cons_append, pairUp, ih hrest, pairUp, List.cons_append]

/-- On lists of even length an injective operation loses nothing. -/
theorem pairUp_injective (hf : Function.Injective2 f) {u v : List α} (hu : 2 ∣ u.length)
    (hv : 2 ∣ v.length) (h : pairUp f u = pairUp f v) : u = v := by
  induction u using pairUp.induct generalizing v with
  | case1 =>
    have hlen := congrArg List.length h
    rw [length_pairUp, length_pairUp, List.length_nil] at hlen
    exact (List.length_eq_zero_iff.mp (by omega)).symm
  | case2 a => exact absurd hu (by simp)
  | case3 a b rest ih =>
    match v, hv, h with
    | [], _, h => cases h
    | [c], hv, _ => exact absurd hv (by simp)
    | c :: d :: rest', hv, h =>
      rw [pairUp, pairUp] at h
      obtain ⟨hhead, htail⟩ := List.cons.inj h
      obtain ⟨rfl, rfl⟩ := hf hhead
      rw [List.length_cons, List.length_cons] at hu hv
      rw [ih (by omega) (by omega) htail]

/-! ## Completion -/

/-- The list the loop works on: each odd layer has its last block once more. -/
def complete (l : List α) : List α := (collapse (· ++ ·) (l.map fun a ↦ [a])).getD []

@[simp] theorem complete_nil : complete ([] : List α) = [] := by simp [complete]

@[simp] theorem complete_singleton (a : α) : complete [a] = [a] := by simp [complete]

private theorem collapse_blocks (h : l ≠ []) :
    collapse (· ++ ·) (l.map fun a ↦ [a]) = some (complete l) := by
  obtain ⟨c, hc⟩ := Option.isSome_iff_exists.mp
    (collapse_isSome (f := (· ++ ·)) (l := l.map fun a ↦ [a]) (by simpa using h))
  rw [complete, hc]
  rfl

/-- The blocks above a list of single elements are the pairs. -/
private theorem map_pairUp_blocks (f : α → α → α) (l : List α) :
    (pairUp (· ++ ·) (l.map fun a ↦ [a])).map (pairUp f) = (pairUp f l).map fun a ↦ [a] := by
  induction l using pairUp.induct with
  | case1 => rfl
  | case2 a => rfl
  | case3 a b rest ih =>
    simp only [List.map_cons, pairUp, ih]
    rfl

private theorem even_blocks (l : List α) :
    ∀ u ∈ pairUp (· ++ ·) (l.map fun a ↦ [a]), 2 ∣ u.length := by
  induction l using pairUp.induct with
  | case1 => simp [pairUp]
  | case2 a => simp [pairUp]
  | case3 a b rest ih =>
    rw [List.map_cons, List.map_cons, pairUp, List.forall_mem_cons]
    exact ⟨by simp, ih⟩

private theorem collapse_pairs (h : 1 < l.length) :
    collapse (· ++ ·) (pairUp (· ++ ·) (l.map fun a ↦ [a])) = some (complete l) := by
  rw [collapse_pairUp (by rwa [List.length_map])]
  exact collapse_blocks (List.ne_nil_of_length_pos (by omega))

private theorem even_append (u v : List α) (hu : 2 ∣ u.length) (hv : 2 ∣ v.length) :
    2 ∣ (u ++ v).length := by
  rw [List.length_append]
  exact Nat.dvd_add hu hv

/-- A completed list has no odd last element. -/
theorem even_length_complete (h : 1 < l.length) : 2 ∣ (complete l).length :=
  forall_collapse even_append (even_blocks l) _ (collapse_pairs h)

/-- **Completion commutes with taking a layer.** -/
theorem complete_pairUp (f : α → α → α) (h : 1 < l.length) :
    complete (pairUp f l) = pairUp f (complete l) := by
  have hmap := map_collapse (g := pairUp f) (k := (· ++ ·)) even_append
    (fun u v hu _ ↦ pairUp_append hu v) (even_blocks l)
  rw [collapse_pairs h, map_pairUp_blocks, Option.map_some] at hmap
  rw [complete, ← hmap]
  rfl

private theorem flatten_prefix_pairUp (L : List (List α)) :
    L.flatten <+: (pairUp (· ++ ·) L).flatten := by
  induction L using pairUp.induct with
  | case1 => exact List.prefix_refl _
  | case2 a => simp [pairUp]
  | case3 a b rest ih =>
    simpa [pairUp, List.append_assoc] using ih

private theorem flatten_prefix_collapse {L : List (List α)} (h : L ≠ []) :
    L.flatten <+: (collapse (· ++ ·) L).getD [] := by
  induction L using layer_induction fun u v : List α ↦ u ++ v with
  | nil => exact absurd rfl h
  | singleton a => simp
  | layer L hlen ih =>
    rw [← collapse_pairUp hlen]
    exact (flatten_prefix_pairUp L).trans (ih (pairUp_ne_nil h))

/-- Completion only appends. -/
theorem prefix_complete (l : List α) : l <+: complete l := by
  by_cases hne : l = []
  · subst hne
    simp
  · have hblocks := flatten_prefix_collapse (L := l.map fun a ↦ [a]) (by simpa using hne)
    simpa [complete, ← List.flatMap_def] using hblocks

/-- Lists with one completion start with the same element. -/
theorem head?_eq_of_complete_eq {u v : List α} (hv : v ≠ []) (h : complete u = complete v) :
    u.head? = v.head? := by
  match v, hv with
  | b :: v, _ =>
    obtain ⟨t, ht⟩ := prefix_complete (b :: v)
    obtain ⟨s, hs⟩ := prefix_complete u
    rw [h, ← ht] at hs
    match u, hs with
    | [], _ => rw [complete_nil, ← ht] at h; cases h
    | a :: u, hs => rw [List.head?_cons, List.head?_cons, (List.cons.inj hs).1]

/-- **The loop works on the completed list.** -/
theorem collapse_complete (f : α → α → α) (l : List α) :
    collapse f (complete l) = collapse f l := by
  induction l using layer_induction f with
  | nil => simp
  | singleton a => simp
  | layer l hlen ih =>
    have hlen' : 1 < (complete l).length := lt_of_lt_of_le hlen (prefix_complete l).length_le
    rw [complete_pairUp f hlen, collapse_pairUp hlen, collapse_pairUp hlen'] at ih
    exact ih

/-! ## What the result determines -/

/-- The number of layers above a list. -/
def depth (l : List α) : ℕ := Nat.clog 2 l.length

theorem depth_pairUp (f : α → α → α) (h : 1 < l.length) :
    depth (pairUp f l) + 1 = depth l := by
  rw [depth, depth, length_pairUp, Nat.clog_of_two_le (by decide) h]
  rfl

theorem depth_eq_zero_iff : depth l = 0 ↔ l.length ≤ 1 := by
  constructor
  · intro h
    by_contra hlen
    exact absurd h (Nat.clog_pos (by decide) (by omega)).ne'
  · exact fun h ↦ Nat.clog_of_right_le_one h 2

/-- **For an injective operation the result determines the completed list**, among lists with
the same number of layers. -/
theorem complete_eq_of_collapse_eq (hf : Function.Injective2 f) {u v : List α} (hu : u ≠ [])
    (hv : v ≠ []) (hdepth : depth u = depth v) (h : collapse f u = collapse f v) :
    complete u = complete v := by
  induction u using layer_induction f generalizing v with
  | nil => exact absurd rfl hu
  | singleton a =>
    have hlen : v.length ≤ 1 := depth_eq_zero_iff.mp (hdepth ▸ depth_eq_zero_iff.mpr (by simp))
    match v, hv, hlen with
    | [b], _, _ =>
      rw [collapse_singleton, collapse_singleton] at h
      rw [Option.some.inj h]
  | layer u hlen ih =>
    have hlen' : 1 < v.length := by
      by_contra hnot
      rw [depth_eq_zero_iff.mpr (not_lt.mp hnot), depth_eq_zero_iff] at hdepth
      omega
    have hlayer := depth_pairUp f hlen
    have hlayer' := depth_pairUp f hlen'
    have heq := ih (pairUp_ne_nil hu) (pairUp_ne_nil (f := f) hv) (by omega)
      (by rw [collapse_pairUp hlen, h, collapse_pairUp hlen'])
    rw [complete_pairUp f hlen, complete_pairUp f hlen'] at heq
    exact pairUp_injective hf (even_length_complete hlen) (even_length_complete hlen') heq

end LayeredFold
