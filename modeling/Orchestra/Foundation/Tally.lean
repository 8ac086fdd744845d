import Mathlib.Data.Set.Card
import Mathlib.Order.Basic
import Mathlib.Algebra.BigOperators.Group.List.Basic
import Mathlib.Algebra.GroupWithZero.Nat
import Orchestra.Foundation.Dictionary

/-!
# Tallies

Two ways to count. A dictionary with a default value is adjusted at one key at a time, and a key
that is new goes last (`adjust`). And a value is put into the first of some ascending bounds that it
does not exceed (`place`): the running sum of what was put there counts the values up to each bound
(`sum_countP_place`).
-/

namespace Tally

open Dictionary

/-! ## Dictionaries with a default value -/

section Adjust

variable {κ α : Type*} [DecidableEq κ]

/-- The dictionary with `f` applied to the value at `k`, or to `dflt` where there is none. -/
def adjust (dflt : α) (f : α → α) (k : κ) : List (κ × α) → List (κ × α)
  | [] => [(k, f dflt)]
  | (k', v) :: d => if k' = k then (k', f v) :: d else (k', v) :: adjust dflt f k d

variable (dflt : α) (f : α → α) (k : κ) (d : List (κ × α))

theorem get_adjust (k' : κ) : get (adjust dflt f k d) k' =
    if k = k' then some (f ((get d k).getD dflt)) else get d k' := by
  induction d with
  | nil => rw [adjust, get_cons, get_nil, get_nil, Option.getD_none]
  | cons p d ih =>
    obtain ⟨k₀, v⟩ := p
    rw [adjust]
    by_cases hk : k₀ = k
    · subst hk
      rw [if_pos rfl, get_cons, get_cons, get_cons, if_pos rfl, Option.getD_some]
      split_ifs <;> rfl
    · rw [if_neg hk, get_cons, get_cons, get_cons, if_neg hk, ih]
      by_cases hk' : k₀ = k'
      · rw [if_pos hk', if_neg (hk' ▸ Ne.symm hk), if_pos hk']
      · rw [if_neg hk', if_neg hk']

theorem map_fst_adjust : (adjust dflt f k d).map Prod.fst =
    if k ∈ d.map Prod.fst then d.map Prod.fst else d.map Prod.fst ++ [k] := by
  induction d with
  | nil => rfl
  | cons p d ih =>
    obtain ⟨k₀, v⟩ := p
    rw [adjust]
    by_cases hk : k₀ = k
    · simp [hk]
    · have hmem : k ∈ ((k₀, v) :: d).map Prod.fst ↔ k ∈ d.map Prod.fst :=
        List.mem_cons.trans (or_iff_right (Ne.symm hk))
      rw [if_neg hk, List.map_cons, ih, if_congr hmem rfl rfl]
      split_ifs <;> rfl

theorem nodup_adjust (h : (d.map Prod.fst).Nodup) :
    ((adjust dflt f k d).map Prod.fst).Nodup := by
  rw [map_fst_adjust]
  split_ifs with hk
  · exact h
  · exact List.nodup_append.mpr ⟨h, List.nodup_singleton k, fun a ha b hb heq ↦
      hk (List.mem_singleton.mp hb ▸ heq ▸ ha)⟩

end Adjust

/-! ## Counting by images -/

theorem countP_or_of_disjoint {γ : Type*} {p q : γ → Bool} (h : ∀ v, p v = true → q v = false)
    (vs : List γ) : (vs.countP fun v ↦ p v || q v) = vs.countP p + vs.countP q := by
  induction vs with
  | nil => rfl
  | cons v vs ih =>
    rw [List.countP_cons, List.countP_cons, List.countP_cons, ih]
    cases hp : p v with
    | true => simp [h v hp, Nat.add_right_comm]
    | false => simp [Nat.add_assoc]

/-- Counting the values by what they are mapped to. -/
theorem sum_countP_eq {γ δ : Type*} [DecidableEq γ] {l : List γ} (hl : l.Nodup) (f : δ → Option γ)
    (vs : List δ) : (l.map fun c ↦ vs.countP fun v ↦ decide (f v = some c)).sum =
      vs.countP fun v ↦ decide (∃ c ∈ l, f v = some c) := by
  induction l with
  | nil => simp
  | cons c l ih =>
    obtain ⟨hc, hl⟩ := List.nodup_cons.mp hl
    rw [List.map_cons, List.sum_cons, ih hl]
    rw [← countP_or_of_disjoint]
    · simp only [List.exists_mem_cons_iff, Bool.decide_or]
    · intro v hv
      refine decide_eq_false ?_
      rintro ⟨c', hc', hfv⟩
      exact hc (Option.some.inj ((of_decide_eq_true hv).symm.trans hfv) ▸ hc')

/-- What the entries of one owner in a shared log come to. -/
def entriesOf {ι σ β : Type*} [DecidableEq ι] (f : σ → Option β) (log : List (ι × σ)) (i : ι) :
    List β :=
  ((log.filter fun e ↦ decide (e.1 = i)).map Prod.snd).filterMap f

/-- Where nobody has more than one entry in a shared log, the entries of a kind count those who have
one of that kind. -/
theorem countP_eq_ncard {ι σ β : Type*} [DecidableEq ι] [DecidableEq β] {f : σ → Option β}
    {log : List (ι × σ)} (h : ∀ i, (entriesOf f log i).length ≤ 1) (b : β) :
    (log.countP fun e ↦ decide (f e.2 = some b)) = {i | b ∈ entriesOf f log i}.ncard := by
  let owners := (log.filter fun e ↦ decide (f e.2 = some b)).map Prod.fst
  have hnodup : owners.Nodup := by
    refine List.nodup_iff_count_le_one.mpr fun i ↦ le_trans ?_ (h i)
    rw [entriesOf, List.length_filterMap_eq_countP, List.countP_map, List.countP_filter, List.count,
      List.countP_map, List.countP_filter]
    refine List.countP_mono_left fun e _ he ↦ ?_
    obtain ⟨howner, hkind⟩ := Bool.and_eq_true_iff.mp he
    have hsome : (f e.2).isSome := by rw [of_decide_eq_true hkind, Option.isSome_some]
    exact Bool.and_eq_true_iff.mpr ⟨hsome, decide_eq_true (eq_of_beq howner)⟩
  have hset : {i | b ∈ entriesOf f log i} = (owners.toFinset : Set ι) := by
    ext i
    simp [owners, entriesOf]
  rw [hset, Set.ncard_coe_finset, List.toFinset_card_of_nodup hnodup, List.length_map,
    List.countP_eq_length_filter]

/-! ## Ascending bounds -/

section Place

variable {β : Type*} [LinearOrder β] {bounds pre post : List β} {b v : β}

/-- The first bound that the value does not exceed. -/
def place (bounds : List β) (v : β) : Option β := bounds.find? fun b ↦ decide (v ≤ b)

/-- A value is put at a bound or before it exactly if it does not exceed the bound. -/
theorem exists_place_iff (h : (pre ++ b :: post).Pairwise (· < ·)) :
    (∃ c ∈ pre ++ [b], place (pre ++ b :: post) v = some c) ↔ v ≤ b := by
  have hle : ∀ c ∈ pre ++ [b], c ≤ b := by
    intro c hc
    rcases List.mem_append.mp hc with hpre | hb
    · exact ((List.pairwise_append.mp h).2.2 c hpre b List.mem_cons_self).le
    · exact (List.mem_singleton.mp hb).le
  constructor
  · rintro ⟨c, hc, hplace⟩
    have hfound : (pre ++ b :: post).find? (fun c ↦ decide (v ≤ c)) = some c := hplace
    have hv := List.find?_some hfound
    exact (of_decide_eq_true hv).trans (hle c hc)
  · intro hv
    have hfound : ((pre ++ [b]).find? fun c ↦ decide (v ≤ c)).isSome :=
      List.find?_isSome.mpr ⟨b, by simp, decide_eq_true hv⟩
    obtain ⟨c, hc⟩ := Option.isSome_iff_exists.mp hfound
    refine ⟨c, List.mem_of_find?_eq_some hc, ?_⟩
    rw [place, List.append_cons, List.find?_append, hc, Option.some_or]

/-- **Running sums.** What was put at a bound or before it are the values up to the bound. -/
theorem sum_countP_place (h : (pre ++ b :: post).Pairwise (· < ·)) (vs : List β) :
    ((pre ++ [b]).map fun c ↦ vs.countP fun v ↦ decide (place (pre ++ b :: post) v = some c)).sum =
      vs.countP fun v ↦ decide (v ≤ b) := by
  have hnodup : (pre ++ [b]).Nodup := by
    have hall : (pre ++ b :: post).Nodup := h.imp fun hlt ↦ hlt.ne
    rw [List.append_cons] at hall
    exact hall.of_append_left
  rw [sum_countP_eq hnodup]
  simp only [exists_place_iff h]

/-- The counts do not fall. -/
theorem pairwise_countP_le (h : bounds.Pairwise (· < ·)) (vs : List β) :
    (bounds.map fun b ↦ vs.countP fun v ↦ decide (v ≤ b)).Pairwise (· ≤ ·) := by
  rw [List.pairwise_map]
  refine h.imp fun hlt ↦ List.countP_mono_left fun v _ hv ↦ ?_
  exact decide_eq_true ((of_decide_eq_true hv).trans hlt.le)

end Place

end Tally
