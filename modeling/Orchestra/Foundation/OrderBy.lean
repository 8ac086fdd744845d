import Mathlib.Data.List.Pairwise
import Mathlib.Data.List.Sort

/-!
# The order of an answer

A query with an `ORDER BY` clause selects rows and returns them sorted by a key. Rows with equal
keys come back in any order, so a query has several answers. What every answer has in common is the
order of the rows whose keys differ: a list of selected rows keeps its order in every answer exactly
when each of its rows is ordered strictly before the later ones (`forall_sublist_iff`).
-/

namespace OrderBy

variable {α : Type*}

/-- `l` is an answer to the query that selects `rows` and orders them by `r`. -/
def Answer (r : α → α → Prop) (rows l : List α) : Prop := l.Perm rows ∧ l.Pairwise r

variable {r : α → α → Prop} {rows l c : List α}

/-- Two rows that are ordered strictly are not ordered the other way round, whichever comes
first. -/
theorem eq_of_rel_of_rel (hpair : c.Pairwise fun a b ↦ ¬r b a) {a b : α} (ha : a ∈ c) (hb : b ∈ c)
    (hab : r a b) (hba : r b a) : a = b := by
  have hsymm : Std.Symm fun a b ↦ ¬(r a b ∧ r b a) := ⟨fun a b h hba ↦ h hba.symm⟩
  by_contra hne
  have hnot : c.Pairwise fun a b ↦ ¬(r a b ∧ r b a) := hpair.imp fun h hboth ↦ h hboth.2
  exact hnot.forall ha hb hne ⟨hab, hba⟩

/-- A list without repetition has two of its elements in one order. -/
theorem eq_of_pair_sublist [DecidableEq α] (hnodup : l.Nodup) {a b : α}
    (hab : [a, b].Sublist l) (hba : [b, a].Sublist l) : a = b := by
  have hpair : ([a, b] : List α).Nodup := hnodup.sublist hab
  have hle : (l.filter fun x ↦ decide (x ∈ [a, b])).length ≤ 2 := by
    have hsubset : (l.filter fun x ↦ decide (x ∈ [a, b])) ⊆ [a, b] := fun x hx ↦
      of_decide_eq_true (List.mem_filter.mp hx).2
    exact (List.subperm_of_subset (hnodup.filter _) hsubset).length_le
  have hfirst : [a, b] = l.filter fun x ↦ decide (x ∈ [a, b]) := by
    have hsub := hab.filter fun x ↦ decide (x ∈ [a, b])
    rw [List.filter_eq_self.mpr fun x hx ↦ decide_eq_true hx] at hsub
    exact hsub.eq_of_length_le hle
  have hsecond : [b, a] = l.filter fun x ↦ decide (x ∈ [a, b]) := by
    have hsub := hba.filter fun x ↦ decide (x ∈ [a, b])
    rw [List.filter_eq_self.mpr fun x hx ↦ by simpa [or_comm] using hx] at hsub
    exact hsub.eq_of_length_le hle
  exact (List.cons.inj (hfirst.trans hsecond.symm)).1

variable [Std.Total r]

/-- Rows that are ordered strictly come back in their order. -/
theorem Answer.sublist (h : Answer r rows l) (hnodup : rows.Nodup) (hc : c.Sublist rows)
    (hpair : c.Pairwise fun a b ↦ ¬r b a) : c.Sublist l := by
  classical
  have hl : l.Nodup := h.1.nodup_iff.mpr hnodup
  have hperm : (l.filter fun a ↦ decide (a ∈ c)).Perm c := by
    refine (List.perm_ext_iff_of_nodup (hl.filter _) (hnodup.sublist hc)).mpr fun a ↦ ?_
    rw [List.mem_filter, decide_eq_true_eq, h.1.mem_iff]
    exact and_iff_right_of_imp fun ha ↦ hc.subset ha
  have hsorted : c.Pairwise r := hpair.imp fun {a b} hba ↦ (Std.Total.total a b).resolve_right hba
  have heq : (l.filter fun a ↦ decide (a ∈ c)) = c :=
    hperm.eq_of_pairwise
      (fun a b ha hb ↦ eq_of_rel_of_rel hpair (hperm.mem_iff.mp ha) hb) (h.2.filter _) hsorted
  rw [← heq]
  exact List.filter_sublist

/-- Two rows that need not come back in their order come back in the other one. -/
theorem exists_answer_reversed [IsTrans α r] {a b : α} (hab : [a, b].Sublist rows) (hba : r b a) :
    ∃ l, Answer r rows l ∧ [b, a].Sublist l := by
  classical
  refine ⟨rows.reverse.insertionSort r, ⟨?_, List.pairwise_insertionSort r _⟩, ?_⟩
  · exact (List.perm_insertionSort r _).trans (List.reverse_perm rows)
  · exact List.pair_sublist_insertionSort hba hab.reverse

/-- **What every answer keeps**: the order of those rows that are ordered strictly. -/
theorem forall_sublist_iff [IsTrans α r] (hnodup : rows.Nodup) (hc : c.Sublist rows) :
    (∀ l, Answer r rows l → c.Sublist l) ↔ c.Pairwise fun a b ↦ ¬r b a := by
  classical
  constructor
  · intro hall
    refine List.pairwise_of_forall_sublist fun {a b} hab hba ↦ ?_
    obtain ⟨l, hl, hrev⟩ := exists_answer_reversed (hab.trans hc) hba
    have hlnodup : l.Nodup := hl.1.nodup_iff.mpr hnodup
    have heq : a = b := eq_of_pair_sublist hlnodup (hab.trans (hall l hl)) hrev
    exact List.pairwise_pair.mp (hnodup.sublist (hab.trans hc)) heq
  · exact fun hpair l hl ↦ hl.sublist hnodup hc hpair

end OrderBy
