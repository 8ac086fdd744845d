import Mathlib.Data.Finset.Card
import Mathlib.Data.Finset.Dedup
import Mathlib.Data.List.Chain
import Mathlib.Logic.Relation
import Mathlib.Order.WellFounded

/-!
# Finite directed graphs as edge lists

A graph is a list of edges over an arbitrary type of vertices; parallel edges are kept, since
programs that walk such a list see each copy.

The first half is forward reachability: the depth-first worklist loop that programs write, and the
theorem that it computes `Relation.ReflTransGen` of adjacency. The second half is the stronger
notion that reachability is often mistaken for. A vertex is *dominated* by a set of gates when every
path that reaches it from a source meets a gate, whereas the closure of the gates only says that
*some* path does. On an acyclic graph domination is the least solution of the recursion which asks
for all predecessors where reachability asks for one (`guarded_iff_dominated`).
-/

namespace EdgeList

variable {α : Type*}

/-- There is an edge from `u` to `v`. -/
def Adj (E : List (α × α)) (u v : α) : Prop := (u, v) ∈ E

/-- `v` is reachable from `u` along zero or more edges. -/
def Reach (E : List (α × α)) : α → α → Prop := Relation.ReflTransGen (Adj E)

/-- There is no directed cycle; a self-loop is one. -/
def Acyclic (E : List (α × α)) : Prop := ∀ v, ¬Relation.TransGen (Adj E) v v

/-- `v` has no incoming edge. -/
def IsSource (E : List (α × α)) (v : α) : Prop := ∀ u, ¬Adj E u v

instance [DecidableEq α] (E : List (α × α)) (u v : α) : Decidable (Adj E u v) :=
  inferInstanceAs (Decidable ((u, v) ∈ E))

theorem isSource_iff {E : List (α × α)} {v : α} : IsSource E v ↔ ∀ e ∈ E, e.2 ≠ v := by
  constructor
  · rintro h ⟨a, b⟩ he rfl
    exact h a he
  · intro h u hu
    exact h (u, v) hu rfl

instance [DecidableEq α] (E : List (α × α)) (v : α) : Decidable (IsSource E v) :=
  decidable_of_iff _ isSource_iff.symm

/-! ## Acyclic graphs -/

theorem acyclic_of_wellFounded {E : List (α × α)} (h : WellFounded (Adj E)) : Acyclic E :=
  fun v hv ↦ h.transGen.irrefl.irrefl v hv

/-- The vertices above `v` along one or more edges decrease along every edge into `v`. -/
theorem Acyclic.wellFounded {E : List (α × α)} (h : Acyclic E) : WellFounded (Adj E) := by
  classical
  let above (v : α) : Finset α :=
    (E.map Prod.fst).toFinset.filter fun u ↦ Relation.TransGen (Adj E) u v
  have hdecreases : ∀ u v, Adj E u v → (above u).card < (above v).card := by
    intro u v huv
    refine Finset.card_lt_card ⟨fun w hw ↦ ?_, fun hsub ↦ ?_⟩
    · obtain ⟨hmem, hw⟩ := Finset.mem_filter.mp hw
      exact Finset.mem_filter.mpr ⟨hmem, hw.tail huv⟩
    · have hu : u ∈ above v := by
        refine Finset.mem_filter.mpr ⟨?_, .single huv⟩
        exact List.mem_toFinset.mpr (List.mem_map.mpr ⟨(u, v), huv, rfl⟩)
      exact h u (Finset.mem_filter.mp (hsub hu)).2
  exact Subrelation.wf (fun {u v} huv ↦ hdecreases u v huv)
    (InvImage.wf (fun v ↦ (above v).card) Nat.lt_wfRel.wf)

/-! ## The worklist closure -/

section Closure

variable [DecidableEq α] (E : List (α × α))

/-- The targets of the edges leaving `u`, in edge order and with multiplicity. -/
def succs (u : α) : List α := (E.filter fun e ↦ decide (e.1 = u)).map Prod.snd

omit [DecidableEq α] in
theorem adj_iff_mem {u v : α} : Adj E u v ↔ (u, v) ∈ E := Iff.rfl

@[simp] theorem mem_succs {u v : α} : v ∈ succs E u ↔ Adj E u v := by
  rw [succs, List.mem_map, adj_iff_mem]
  constructor
  · rintro ⟨⟨a, b⟩, hmem, rfl⟩
    obtain ⟨hE, ha⟩ := List.mem_filter.mp hmem
    obtain rfl : a = u := by simpa using ha
    exact hE
  · intro h
    exact ⟨(u, v), List.mem_filter.mpr ⟨h, by simp⟩, rfl⟩

/-- The worklist loop: pop the top of the stack, skip it if it is covered, otherwise cover it and
push the targets of its edges. The top of the stack is the head of the list. -/
def closureLoop : ℕ → List α → List α → List α
  | 0, _, covered => covered
  | _ + 1, [], covered => covered
  | fuel + 1, cur :: stack, covered =>
    if cur ∈ covered then closureLoop fuel stack covered
    else closureLoop fuel ((succs E cur).reverse ++ stack) (cur :: covered)

/-- The vertices the loop covers when it is started on `s`. Each vertex is expanded at most once,
so the number of pops is at most one more than the number of edges. -/
def closure (s : α) : List α := closureLoop E (E.length + 1) [s] []

/-- The edges that leave uncovered vertices: what the loop may still push. -/
def pending (covered : List α) : List (α × α) :=
  E.filter fun e ↦ decide (e.1 ∉ covered)

theorem length_pending_cons {covered : List α} {cur : α} (h : cur ∉ covered) :
    (pending E (cur :: covered)).length + (succs E cur).length = (pending E covered).length := by
  rw [succs, List.length_map, pending, pending]
  induction E with
  | nil => rfl
  | cons e E ih =>
    simp only [List.mem_cons] at ih
    by_cases he : e.1 = cur
    · subst he
      simp only [List.filter_cons, List.mem_cons, true_or, not_true_eq_false, decide_false,
        decide_true, h, not_false_eq_true, if_true, List.length_cons, Bool.false_eq_true, if_false]
      omega
    · by_cases hc : e.1 ∈ covered <;>
      simp only [List.filter_cons, List.mem_cons, he, hc, or_true, or_false, not_true_eq_false,
        not_false_eq_true, decide_true, decide_false, Bool.false_eq_true, if_false, if_true,
        List.length_cons] <;> omega

/-- The invariant of the loop: an edge from a covered vertex leads to a covered vertex, or to one
that is still on the stack. -/
private def ClosedUpTo (covered stack : List α) : Prop :=
  ∀ u ∈ covered, ∀ v, Adj E u v → v ∈ covered ∨ v ∈ stack

omit [DecidableEq α] in
/-- With an empty stack the covered vertices are closed under edges. -/
private theorem ClosedUpTo.of_nil {E : List (α × α)} {covered : List α}
    (h : ClosedUpTo E covered []) : ∀ u ∈ covered, ∀ v, Adj E u v → v ∈ covered :=
  fun u hu v huv ↦ (h u hu v huv).resolve_right List.not_mem_nil

omit [DecidableEq α] in
/-- The top of the stack may be dropped when it is covered. -/
private theorem ClosedUpTo.skip {covered stack : List α} {cur : α}
    (h : ClosedUpTo E covered (cur :: stack)) (hcur : cur ∈ covered) :
    ClosedUpTo E covered stack := by
  intro u hu v huv
  rcases h u hu v huv with hv | hv
  · exact Or.inl hv
  · rcases List.mem_cons.mp hv with rfl | hv
    · exact Or.inl hcur
    · exact Or.inr hv

/-- The top of the stack may be covered when its successors are pushed. -/
private theorem ClosedUpTo.expand {covered stack : List α} {cur : α}
    (h : ClosedUpTo E covered (cur :: stack)) :
    ClosedUpTo E (cur :: covered) ((succs E cur).reverse ++ stack) := by
  intro u hu v huv
  rcases List.mem_cons.mp hu with rfl | hu
  · have hsucc : v ∈ (succs E u).reverse := List.mem_reverse.mpr ((mem_succs E).mpr huv)
    exact Or.inr (List.mem_append_left _ hsucc)
  · rcases h u hu v huv with hv | hv
    · exact Or.inl (List.mem_cons_of_mem _ hv)
    · rcases List.mem_cons.mp hv with rfl | hv
      · exact Or.inl List.mem_cons_self
      · exact Or.inr (List.mem_append_right _ hv)

/-- What the loop returns: it keeps what it had, it covers the stack, and its result is closed
under edges. The fuel pays for the stack and for the pending edges. -/
private theorem closureLoop_spec (fuel : ℕ) (stack covered : List α)
    (hfuel : stack.length + (pending E covered).length ≤ fuel)
    (hclosed : ClosedUpTo E covered stack) :
    (∀ u ∈ covered, u ∈ closureLoop E fuel stack covered) ∧
      (∀ u ∈ stack, u ∈ closureLoop E fuel stack covered) ∧
      ∀ u ∈ closureLoop E fuel stack covered, ∀ v, Adj E u v →
        v ∈ closureLoop E fuel stack covered := by
  induction fuel generalizing stack covered with
  | zero =>
    obtain rfl : stack = [] := List.length_eq_zero_iff.mp (by omega)
    exact ⟨fun u hu ↦ hu, by simp, hclosed.of_nil⟩
  | succ fuel ih =>
    cases stack with
    | nil => exact ⟨fun u hu ↦ hu, by simp, hclosed.of_nil⟩
    | cons cur stack =>
      rw [closureLoop]
      rw [List.length_cons] at hfuel
      by_cases hcur : cur ∈ covered
      · rw [if_pos hcur]
        obtain ⟨h1, h2, h3⟩ := ih stack covered (by omega) (hclosed.skip E hcur)
        refine ⟨h1, fun u hu ↦ ?_, h3⟩
        rcases List.mem_cons.mp hu with rfl | hu
        · exact h1 _ hcur
        · exact h2 u hu
      · rw [if_neg hcur]
        have hlen : ((succs E cur).reverse ++ stack).length
            + (pending E (cur :: covered)).length ≤ fuel := by
          have hpending := length_pending_cons E hcur
          rw [List.length_append, List.length_reverse]
          omega
        obtain ⟨h1, h2, h3⟩ := ih _ (cur :: covered) hlen (hclosed.expand E)
        refine ⟨fun u hu ↦ h1 u (List.mem_cons_of_mem _ hu), fun u hu ↦ ?_, h3⟩
        rcases List.mem_cons.mp hu with rfl | hu
        · exact h1 _ List.mem_cons_self
        · exact h2 u (List.mem_append_right _ hu)

private theorem closureLoop_sound (s : α) (fuel : ℕ) (stack covered : List α)
    (hstack : ∀ u ∈ stack, Reach E s u) (hcovered : ∀ u ∈ covered, Reach E s u) :
    ∀ u ∈ closureLoop E fuel stack covered, Reach E s u := by
  induction fuel generalizing stack covered with
  | zero => exact hcovered
  | succ fuel ih =>
    cases stack with
    | nil => exact hcovered
    | cons cur stack =>
      rw [closureLoop]
      have hcur := hstack cur List.mem_cons_self
      split
      · exact ih _ _ (fun u hu ↦ hstack u (List.mem_cons_of_mem _ hu)) hcovered
      · refine ih _ _ (fun u hu ↦ ?_) fun u hu ↦ ?_
        · rcases List.mem_append.mp hu with hu | hu
          · exact hcur.tail ((mem_succs E).mp (List.mem_reverse.mp hu))
          · exact hstack u (List.mem_cons_of_mem _ hu)
        · rcases List.mem_cons.mp hu with rfl | hu
          · exact hcur
          · exact hcovered u hu

/-- **The worklist loop computes reachability**, on every graph, cyclic or not. -/
theorem mem_closure_iff_reach {s v : α} : v ∈ closure E s ↔ Reach E s v := by
  constructor
  · exact closureLoop_sound E s _ _ _ (by rintro u hu; rw [List.mem_singleton.mp hu]; exact .refl)
      (by simp) v
  · have hlen : (pending E []).length ≤ E.length := List.length_filter_le _ _
    have hempty : ClosedUpTo E [] [s] := fun u hu ↦ absurd hu List.not_mem_nil
    obtain ⟨-, h2, h3⟩ := closureLoop_spec E (E.length + 1) [s] [] (by simp; omega) hempty
    intro h
    induction h with
    | refl => exact h2 s List.mem_cons_self
    | tail _ hadj ih => exact h3 _ ih _ hadj

end Closure

/-! ## Domination by gates -/

section Domination

variable (E : List (α × α)) (gate : α → Prop)

/-- Every path from a source to `v` meets a gate, end points included. -/
def Dominated (v : α) : Prop :=
  ∀ p : List α, p.IsChain (Adj E) → (∃ s, p.head? = some s ∧ IsSource E s) → p.getLast? = some v →
    ∃ x ∈ p, gate x

/-- The recursion with all predecessors: `v` is a gate, or it has a predecessor and all of them are
guarded. -/
inductive Guarded : α → Prop
  | gate {v : α} : gate v → Guarded v
  | preds {v : α} : (∃ u, Adj E u v) → (∀ u, Adj E u v → Guarded u) → Guarded v

variable {E gate}

/-- A path splits off its last vertex: it is a single source, or its front is a path to a
predecessor. -/
private theorem chain_last_cases {p : List α} {v : α} (hp : p.IsChain (Adj E))
    (hlast : p.getLast? = some v) :
    p = [v] ∨ ∃ q u, p = q ++ [v] ∧ q.IsChain (Adj E) ∧ q.getLast? = some u ∧ Adj E u v ∧
      q.head? = p.head? := by
  obtain ⟨q, rfl⟩ : ∃ q, p = q ++ [v] := by
    rw [List.getLast?_eq_some_iff] at hlast
    exact hlast
  cases hq : q.getLast? with
  | none => exact Or.inl (by rw [List.getLast?_eq_none_iff.mp hq, List.nil_append])
  | some u =>
    rw [List.isChain_append] at hp
    refine Or.inr ⟨q, u, rfl, hp.1, hq, hp.2.2 u (by rw [hq]; rfl) v (by simp), ?_⟩
    rw [List.head?_append_of_ne_nil]
    rintro rfl
    cases hq

/-- A path can be extended by an edge that leaves its last vertex. -/
private theorem chain_concat {p : List α} {s u v : α} (hp : p.IsChain (Adj E))
    (hs : p.head? = some s) (hlast : p.getLast? = some u) (huv : Adj E u v) :
    (p ++ [v]).IsChain (Adj E) ∧ (p ++ [v]).head? = some s := by
  constructor
  · rw [List.isChain_append]
    refine ⟨hp, List.isChain_singleton v, fun a ha b hb ↦ ?_⟩
    obtain rfl : v = b := by simpa using hb
    obtain rfl : u = a := Option.some.inj (hlast.symm.trans ha)
    exact huv
  · have hne : p ≠ [] := by
      rintro rfl
      cases hs
    rw [List.head?_append_of_ne_nil p hne, hs]

theorem Guarded.dominated {v : α} (h : Guarded E gate v) : Dominated E gate v := by
  induction h with
  | gate hg =>
    intro p hp hsrc hlast
    exact ⟨_, List.mem_of_getLast? hlast, hg⟩
  | @preds v hne _ ih =>
    rintro p hp ⟨s, hs, hsrc⟩ hlast
    rcases chain_last_cases hp hlast with rfl | ⟨q, u, rfl, hq, hqlast, hadj, hhead⟩
    · obtain rfl : v = s := by simpa using hs
      obtain ⟨u, hu⟩ := hne
      exact absurd hu (hsrc u)
    · obtain ⟨x, hx, hgx⟩ := ih u hadj q hq ⟨s, hhead.trans hs, hsrc⟩ hqlast
      exact ⟨x, List.mem_append_left _ hx, hgx⟩

/-- Backwards, an ungated vertex passes the obligation on to its predecessors. The recursion runs
against the edges, so it needs them to be well founded. -/
theorem Dominated.guarded (hwf : WellFounded (Adj E)) {v : α} (h : Dominated E gate v) :
    Guarded E gate v := by
  induction v using hwf.induction with
  | _ v ih =>
    by_cases hg : gate v
    · exact .gate hg
    by_cases hne : ∃ u, Adj E u v
    · refine .preds hne fun u hu ↦ ih u hu fun p hp hsrc hlast ↦ ?_
      obtain ⟨s, hs, hsource⟩ := hsrc
      obtain ⟨hchain, hhead⟩ := chain_concat hp hs hlast hu
      obtain ⟨x, hx, hgx⟩ := h (p ++ [v]) hchain ⟨s, hhead, hsource⟩ (by simp)
      rcases List.mem_append.mp hx with hx | hx
      · exact ⟨x, hx, hgx⟩
      · exact absurd (List.mem_singleton.mp hx ▸ hgx) hg
    · obtain ⟨x, hx, hgx⟩ := h [v] (List.isChain_singleton v)
        ⟨v, rfl, fun u hu ↦ hne ⟨u, hu⟩⟩ rfl
      exact absurd (List.mem_singleton.mp hx ▸ hgx) hg

/-- Being guarded depends on which vertices are adjacent, not on the list of edges. -/
theorem guarded_congr {E' : List (α × α)} (h : Adj E = Adj E') {v : α} :
    Guarded E gate v ↔ Guarded E' gate v := by
  have hmono : ∀ {E E' : List (α × α)}, Adj E = Adj E' → Guarded E gate v → Guarded E' gate v := by
    intro E E' h hg
    induction hg with
    | gate hv => exact .gate hv
    | preds hne _ ih =>
      rw [h] at hne ih
      exact .preds hne ih
  exact ⟨hmono h, hmono h.symm⟩

/-- **Domination is the all-predecessors recursion** on a graph without infinite backward paths. -/
theorem guarded_iff_dominated (hwf : WellFounded (Adj E)) {v : α} :
    Guarded E gate v ↔ Dominated E gate v :=
  ⟨Guarded.dominated, Dominated.guarded hwf⟩

end Domination

end EdgeList
