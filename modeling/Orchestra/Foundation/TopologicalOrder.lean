import Orchestra.Foundation.EdgeList
import Mathlib.Data.List.Perm.Subperm
import Mathlib.Logic.Function.Basic
import Mathlib.Order.WellFounded

/-!
# Kahn's algorithm

The queue-based topological sort: count the incoming edges of every vertex, queue the vertices that
have none, and repeatedly pop a vertex and walk the whole edge list, decrementing the count of each
target of an edge that leaves it and queueing a target whose count reaches zero.

The loop invariant says what the counts mean. With `order` the vertices popped so far, the count of
`v` is the number of edges into `v` whose origin is not in `order`; a vertex has been queued exactly
when its count is zero; and every predecessor of a popped vertex was popped before it. The counts
are integers, because that is what the program decrements; that they never pass below zero is part
of what the invariant gives.
-/

namespace EdgeList

variable {α : Type*} [DecidableEq α]

/-! ## The algorithm -/

/-- The number of edges into `v`. -/
def indegree (E : List (α × α)) (v : α) : ℤ := (E.countP fun e ↦ decide (e.2 = v) : ℕ)

/-- One edge of the walk made when `u` is popped. -/
def relaxEdge (u : α) (st : (α → ℤ) × List α) (e : α × α) : (α → ℤ) × List α :=
  if e.1 = u then
    let indeg := Function.update st.1 e.2 (st.1 e.2 - 1)
    if indeg e.2 = 0 then (indeg, st.2 ++ [e.2]) else (indeg, st.2)
  else st

/-- The whole walk. -/
def relax (E : List (α × α)) (u : α) (st : (α → ℤ) × List α) : (α → ℤ) × List α :=
  E.foldl (relaxEdge u) st

/-- The loop, popping from the front of the queue. -/
def kahnLoop (E : List (α × α)) : ℕ → (α → ℤ) → List α → List α → List α
  | 0, _, _, order => order
  | _ + 1, _, [], order => order
  | fuel + 1, indeg, u :: queue, order =>
    let st := relax E u (indeg, queue)
    kahnLoop E fuel st.1 st.2 (order ++ [u])

/-- The loop as it is written, with no bound on its rounds: from these counts, this queue and this
order it ends with `result`. -/
inductive Drains (E : List (α × α)) : (α → ℤ) → List α → List α → List α → Prop
  | empty (indeg : α → ℤ) (order : List α) : Drains E indeg [] order order
  | pop {indeg : α → ℤ} {u : α} {queue order result : List α} :
      Drains E (relax E u (indeg, queue)).1 (relax E u (indeg, queue)).2 (order ++ [u]) result →
      Drains E indeg (u :: queue) order result

/-- The vertices in the order in which they are popped. No vertex is popped twice, so as many
rounds as there are vertices, listed or the target of an edge, empty the queue. -/
def kahn (nodes : List α) (E : List (α × α)) : List α :=
  kahnLoop E (nodes.length + E.length) (indegree E)
    (nodes.filter fun n ↦ decide (indegree E n = 0)) []

/-! ## One walk over the edges -/

/-- The number of edges from `u` to `v`. -/
private def mult (F : List (α × α)) (u v : α) : ℕ :=
  F.countP fun e ↦ decide (e.1 = u) && decide (e.2 = v)

private theorem mult_cons (e : α × α) (F : List (α × α)) (u v : α) :
    mult (e :: F) u v = mult F u v + if e.1 = u ∧ e.2 = v then 1 else 0 := by
  rw [mult, mult, List.countP_cons]
  congr 1
  by_cases h1 : e.1 = u <;> by_cases h2 : e.2 = v <;> simp [h1, h2]

private theorem mult_pos_iff {F : List (α × α)} {u v : α} : 0 < mult F u v ↔ Adj F u v := by
  rw [mult, List.countP_pos_iff, adj_iff_mem]
  constructor
  · rintro ⟨⟨a, b⟩, hmem, h⟩
    simp only [Bool.and_eq_true, decide_eq_true_eq] at h
    obtain ⟨rfl, rfl⟩ := h
    exact hmem
  · intro h
    exact ⟨(u, v), h, by simp⟩

private theorem relaxEdge_count (u : α) (st : (α → ℤ) × List α) (e : α × α) (v : α) :
    (relaxEdge u st e).1 v = st.1 v - (if e.1 = u ∧ e.2 = v then 1 else 0 : ℕ) := by
  by_cases he : e.1 = u
  · have hfst : (relaxEdge u st e).1 = Function.update st.1 e.2 (st.1 e.2 - 1) := by
      simp only [relaxEdge, if_pos he]
      split <;> rfl
    rw [hfst]
    by_cases hv : e.2 = v
    · subst hv
      simp [he]
    · rw [Function.update_of_ne (Ne.symm hv), if_neg fun h ↦ hv h.2]
      simp
  · rw [relaxEdge, if_neg he, if_neg fun h ↦ he h.1]
    simp

private theorem relaxEdge_queue (u : α) (st : (α → ℤ) × List α) (e : α × α) :
    (relaxEdge u st e).2
      = st.2 ++ if e.1 = u ∧ (relaxEdge u st e).1 e.2 = 0 then [e.2] else [] := by
  rw [relaxEdge_count]
  by_cases he : e.1 = u
  · -- the count that is compared with zero is the new one
    by_cases hz : st.1 e.2 - 1 = 0 <;> simp [relaxEdge, he, hz]
  · simp [relaxEdge, he]

/-- Every count drops by the number of edges from `u`. -/
private theorem relax_count (F : List (α × α)) (u : α) (st : (α → ℤ) × List α) (v : α) :
    (relax F u st).1 v = st.1 v - mult F u v := by
  induction F generalizing st with
  | nil => simp [relax, mult]
  | cons e F ih =>
    have hrec : (relax (e :: F) u st).1 v = (relaxEdge u st e).1 v - mult F u v := ih _
    rw [hrec, relaxEdge_count, mult_cons]
    push_cast
    omega

/-- The vertices whose count is the number of edges from `u` are queued, once each. -/
private theorem relax_queue (F : List (α × α)) (u : α) (st : (α → ℤ) × List α)
    (hle : ∀ v, (mult F u v : ℤ) ≤ st.1 v) :
    ∃ L : List α, (relax F u st).2 = st.2 ++ L ∧ L.Nodup ∧
      ∀ v, v ∈ L ↔ 0 < mult F u v ∧ st.1 v = mult F u v := by
  induction F generalizing st with
  | nil => exact ⟨[], by simp [relax], List.nodup_nil, by simp [mult]⟩
  | cons e F ih =>
    have hcount := relaxEdge_count u st e
    have hqueue := relaxEdge_queue u st e
    have hmult := fun v ↦ mult_cons e F u v
    have hle' : ∀ v, (mult F u v : ℤ) ≤ (relaxEdge u st e).1 v := by
      intro v
      have hv := hle v
      rw [hmult] at hv
      rw [hcount]
      omega
    obtain ⟨L, hq, hnd, hmem⟩ := ih (relaxEdge u st e) hle'
    have hrec : (relax (e :: F) u st).2 = (relaxEdge u st e).2 ++ L := hq
    by_cases hz : e.1 = u ∧ (relaxEdge u st e).1 e.2 = 0
    · -- the count reaches zero here, so no later edge of the walk targets this vertex
      have hlast : mult F u e.2 = 0 := by
        have hv := hle' e.2
        omega
      refine ⟨e.2 :: L, ?_, ?_, fun v ↦ ?_⟩
      · rw [hrec, hqueue, if_pos hz, List.append_assoc, List.singleton_append]
      · rw [List.nodup_cons]
        refine ⟨fun h ↦ ?_, hnd⟩
        have hpos := ((hmem e.2).mp h).1
        omega
      · rw [List.mem_cons, hmem, hmult, hcount]
        have hself := hcount e.2
        rw [if_pos ⟨hz.1, rfl⟩] at hself
        by_cases hv : e.2 = v
        · subst hv
          rw [if_pos ⟨hz.1, rfl⟩]
          exact ⟨fun _ ↦ ⟨by omega, by omega⟩, fun _ ↦ Or.inl rfl⟩
        · rw [if_neg fun h ↦ hv h.2]
          simp [Ne.symm hv]
    · refine ⟨L, ?_, hnd, fun v ↦ ?_⟩
      · rw [hrec, hqueue, if_neg hz, List.append_nil]
      · rw [hmem, hmult, hcount]
        by_cases hv : e.1 = u ∧ e.2 = v
        · -- the count of this vertex is still positive, so a later edge targets it
          have hne : (relaxEdge u st e).1 e.2 ≠ 0 := fun h0 ↦ hz ⟨hv.1, h0⟩
          rw [hcount, if_pos ⟨hv.1, rfl⟩, hv.2] at hne
          rw [if_pos hv]
          omega
        · rw [if_neg hv]
          simp

/-! ## The loop invariant -/

/-- Edges into `v` from vertices that have not been popped. -/
private def remaining (E : List (α × α)) (order : List α) (v : α) : ℕ :=
  E.countP fun e ↦ decide (e.2 = v) && decide (e.1 ∉ order)

private theorem remaining_concat (E : List (α × α)) {order : List α} {u : α} (hu : u ∉ order)
    (v : α) : remaining E order v = remaining E (order ++ [u]) v + mult E u v := by
  rw [remaining, remaining, mult]
  induction E with
  | nil => rfl
  | cons e E ih =>
    rw [List.countP_cons, List.countP_cons, List.countP_cons, ih]
    by_cases h2 : e.2 = v
    · by_cases h1 : e.1 = u
      · have hn : e.1 ∉ order := h1 ▸ hu
        simp [h1, h2, hu]
        omega
      · by_cases hmem : e.1 ∈ order <;> simp [h1, h2, hmem]
        omega
    · simp [h2]

private theorem remaining_eq_zero_iff {E : List (α × α)} {order : List α} {v : α} :
    remaining E order v = 0 ↔ ∀ u, Adj E u v → u ∈ order := by
  rw [remaining, List.countP_eq_zero]
  constructor
  · intro h u hu
    have := h (u, v) hu
    simpa using this
  · rintro h ⟨a, b⟩ hmem
    simp only [Bool.and_eq_true, decide_eq_true_eq, not_and, not_not]
    rintro rfl
    exact h a hmem

/-- Each listed vertex comes after all of its predecessors. -/
def Ordered (E : List (α × α)) (order : List α) : Prop :=
  ∀ pre v post, order = pre ++ v :: post → ∀ u, Adj E u v → u ∈ pre

omit [DecidableEq α] in
/-- A vertex may be added when all its predecessors are there. -/
private theorem Ordered.concat {E : List (α × α)} {order : List α} {u : α} (h : Ordered E order)
    (hpreds : ∀ w, Adj E w u → w ∈ order) : Ordered E (order ++ [u]) := by
  intro pre v post heq w hw
  rcases List.append_eq_append_iff.mp heq with ⟨as, rfl, has⟩ | ⟨cs, hpre, hcs⟩
  · -- `order` is a prefix of `pre`, so `v` is the new vertex
    cases as with
    | nil =>
      rw [List.nil_append] at has
      obtain ⟨rfl, -⟩ := List.cons.inj has
      simpa using hpreds w hw
    | cons a as =>
      have hlen := congrArg List.length has
      simp at hlen
  · cases cs with
    | nil =>
      rw [List.nil_append] at hcs
      obtain ⟨rfl, -⟩ := List.cons.inj hcs
      rw [List.append_nil] at hpre
      exact hpre ▸ hpreds w hw
    | cons c cs =>
      obtain ⟨rfl, -⟩ := List.cons.inj hcs
      exact h pre v cs hpre w hw

/-- The invariant of the loop, for the vertices popped so far and those waiting. -/
structure KahnInv (nodes : List α) (E : List (α × α)) (indeg : α → ℤ) (queue order : List α) :
    Prop where
  nodup : (order ++ queue).Nodup
  subset : ∀ v ∈ order ++ queue, v ∈ nodes
  count : ∀ v, indeg v = remaining E order v
  queued : ∀ v ∈ nodes, v ∈ order ++ queue ↔ indeg v = 0
  ordered : Ordered E order

private theorem kahnInv_init {nodes : List α} (E : List (α × α)) (hnodes : nodes.Nodup) :
    KahnInv nodes E (indegree E) (nodes.filter fun n ↦ decide (indegree E n = 0)) [] where
  nodup := by rw [List.nil_append]; exact hnodes.filter _
  subset v hv := List.mem_of_mem_filter hv
  count v := by rw [indegree, remaining]; simp
  queued v hv := by simp [hv]
  ordered pre v post h := by cases pre <;> cases h

/-- One round: pop `u`, walk its edges. -/
private theorem KahnInv.pop {nodes : List α} {E : List (α × α)} {indeg : α → ℤ} {u : α}
    {queue order : List α} (htarget : ∀ e ∈ E, e.2 ∈ nodes)
    (h : KahnInv nodes E indeg (u :: queue) order) :
    KahnInv nodes E (relax E u (indeg, queue)).1 (relax E u (indeg, queue)).2 (order ++ [u]) := by
  have hu : u ∉ order := fun hmem ↦
    (List.nodup_append.mp h.nodup).2.2 u hmem u List.mem_cons_self rfl
  have hle : ∀ v, (mult E u v : ℤ) ≤ indeg v := by
    intro v
    rw [h.count, remaining_concat E hu]
    omega
  obtain ⟨L, hq, hnd, hmem⟩ := relax_queue E u (indeg, queue) hle
  dsimp only at hq hmem
  have hcount : ∀ v, (relax E u (indeg, queue)).1 v = indeg v - mult E u v :=
    relax_count E u (indeg, queue)
  have hold : ∀ v, v ∈ order ++ u :: queue → 0 < mult E u v → False := by
    intro v hv hpos
    have hz := (h.queued v (h.subset v hv)).mp hv
    have := hle v
    omega
  have hLnodes : ∀ v ∈ L, v ∈ nodes := by
    intro v hv
    have hadj : Adj E u v := mult_pos_iff.mp ((hmem v).mp hv).1
    exact htarget (u, v) hadj
  have hpreds : ∀ w, Adj E w u → w ∈ order := by
    rw [← remaining_eq_zero_iff, ← Int.natCast_inj, ← h.count]
    exact (h.queued u (h.subset u (by simp))).mp (by simp)
  have hassoc : order ++ [u] ++ (queue ++ L) = (order ++ u :: queue) ++ L := by simp
  rw [hq]
  refine ⟨?_, ?_, fun v ↦ ?_, fun v hv ↦ ?_, ?_⟩
  · rw [hassoc, List.nodup_append]
    refine ⟨h.nodup, hnd, ?_⟩
    rintro a ha b hb rfl
    exact hold a ha ((hmem a).mp hb).1
  · rw [hassoc]
    intro v hv
    rcases List.mem_append.mp hv with hv | hv
    · exact h.subset v hv
    · exact hLnodes v hv
  · rw [hcount, h.count, remaining_concat E hu]
    omega
  · rw [hassoc, List.mem_append, h.queued v hv, hmem, hcount]
    have := hle v
    omega
  · exact h.ordered.concat hpreds

/-- From a state of the loop with enough rounds left the loop drains its queue. -/
private theorem kahnLoop_inv {nodes : List α} {E : List (α × α)} (htarget : ∀ e ∈ E, e.2 ∈ nodes)
    (fuel : ℕ) (indeg : α → ℤ) (queue order : List α) (h : KahnInv nodes E indeg queue order)
    (hfuel : nodes.length ≤ order.length + fuel) :
    Drains E indeg queue order (kahnLoop E fuel indeg queue order) ∧
      ∃ indeg', KahnInv nodes E indeg' [] (kahnLoop E fuel indeg queue order) := by
  induction fuel generalizing indeg queue order with
  | zero =>
    have hlen := (h.nodup.subperm h.subset).length_le
    rw [List.length_append] at hlen
    obtain rfl : queue = [] := List.length_eq_zero_iff.mp (by omega)
    exact ⟨.empty indeg order, indeg, h⟩
  | succ fuel ih =>
    cases queue with
    | nil => exact ⟨.empty indeg order, indeg, h⟩
    | cons u queue =>
      obtain ⟨hdrains, hinv⟩ := ih _ _ _ (h.pop htarget)
        (by rw [List.length_append, List.length_singleton]; omega)
      exact ⟨.pop hdrains, hinv⟩

/-! ## What the result is -/

/-- The invariant holds at the start for a larger set of vertices too, that of the targets of the
edges included: none of those is queued. -/
private theorem kahnInv_init_append {nodes targets : List α} {E : List (α × α)}
    (hnodes : (nodes ++ targets).Nodup) (htargets : ∀ v ∈ targets, ∃ e ∈ E, e.2 = v) :
    KahnInv (nodes ++ targets) E (indegree E)
      (nodes.filter fun n ↦ decide (indegree E n = 0)) [] := by
  have hpos : ∀ v ∈ targets, indegree E v ≠ 0 := by
    intro v hv hzero
    obtain ⟨e, he, rfl⟩ := htargets v hv
    rw [indegree, Int.natCast_eq_zero, List.countP_eq_zero] at hzero
    exact hzero e he (decide_eq_true rfl)
  have hinit := kahnInv_init E hnodes
  have hfilter : (targets.filter fun n ↦ decide (indegree E n = 0)) = [] := by
    rw [List.filter_eq_nil_iff]
    intro v hv
    simpa using hpos v hv
  rwa [List.filter_append, hfilter, List.append_nil] at hinit

/-- No vertex is listed twice, wherever the edges end. -/
theorem nodup_kahn {nodes : List α} {E : List (α × α)} (hnodes : nodes.Nodup) :
    (kahn nodes E).Nodup := by
  set targets := ((E.map Prod.snd).filter fun v ↦ decide (v ∉ nodes)).dedup with htargets
  have hmem (v : α) : v ∈ targets ↔ (∃ e ∈ E, e.2 = v) ∧ v ∉ nodes := by
    simp [htargets]
  have hall : (nodes ++ targets).Nodup := by
    refine List.nodup_append.mpr ⟨hnodes, List.nodup_dedup _, ?_⟩
    rintro v hv w hw rfl
    exact ((hmem v).mp hw).2 hv
  have htarget : ∀ e ∈ E, e.2 ∈ nodes ++ targets := by
    intro e he
    rw [List.mem_append, hmem]
    exact (em _).imp id fun hnot ↦ ⟨⟨e, he, rfl⟩, hnot⟩
  have hlen : targets.length ≤ E.length :=
    calc targets.length ≤ ((E.map Prod.snd).filter fun v ↦ decide (v ∉ nodes)).length :=
          (List.dedup_sublist _).length_le
      _ ≤ (E.map Prod.snd).length := List.length_filter_le _ _
      _ = E.length := List.length_map _
  have hfuel : (nodes ++ targets).length
      ≤ ([] : List α).length + (nodes.length + E.length) := by
    rw [List.length_append, List.length_nil]
    omega
  obtain ⟨-, _, hinv⟩ := kahnLoop_inv htarget _ _ _ _
    (kahnInv_init_append hall fun v hv ↦ ((hmem v).mp hv).1) hfuel
  simpa [kahn] using hinv.nodup

section Spec

variable {nodes : List α} {E : List (α × α)} (hnodes : nodes.Nodup)
  (htarget : ∀ e ∈ E, e.2 ∈ nodes)

include hnodes htarget

private theorem kahn_inv : ∃ indeg, KahnInv nodes E indeg [] (kahn nodes E) :=
  (kahnLoop_inv htarget _ _ _ _ (kahnInv_init E hnodes) (by simp)).2

/-- **The loop terminates**, and its result is the one computed with bounded rounds. -/
theorem drains_kahn :
    Drains E (indegree E) (nodes.filter fun n ↦ decide (indegree E n = 0)) [] (kahn nodes E) :=
  (kahnLoop_inv htarget _ _ _ _ (kahnInv_init E hnodes) (by simp)).1

theorem kahn_subset : kahn nodes E ⊆ nodes := by
  obtain ⟨_, h⟩ := kahn_inv hnodes htarget
  intro v hv
  exact h.subset v (by simpa using hv)

/-- Every vertex of the result comes after all of its predecessors. -/
theorem ordered_kahn : Ordered E (kahn nodes E) := by
  obtain ⟨_, h⟩ := kahn_inv hnodes htarget
  exact h.ordered

/-- A result of full length lists every vertex, once. -/
theorem kahn_perm_of_length (hlen : (kahn nodes E).length = nodes.length) :
    (kahn nodes E).Perm nodes :=
  ((nodup_kahn hnodes).subperm (kahn_subset hnodes htarget)).perm_of_length_le
    (le_of_eq hlen.symm)

/-- In a result of full length every edge leads forward. -/
theorem idxOf_kahn_lt (hlen : (kahn nodes E).length = nodes.length) {u v : α} (huv : Adj E u v) :
    (kahn nodes E).idxOf u < (kahn nodes E).idxOf v := by
  obtain ⟨pre, post, heq⟩ := List.append_of_mem
    ((kahn_perm_of_length hnodes htarget hlen).mem_iff.mpr (htarget (u, v) huv))
  have hu : u ∈ pre := ordered_kahn hnodes htarget pre v post heq u huv
  have hnd : (kahn nodes E).Nodup := nodup_kahn hnodes
  rw [heq, List.nodup_append] at hnd
  have hv : v ∉ pre := fun hv ↦ hnd.2.2 v hv v List.mem_cons_self rfl
  rw [heq, List.idxOf_append_of_mem hu, List.idxOf_append_of_notMem hv]
  have := List.idxOf_lt_length_of_mem hu
  omega

/-- **A full-length result certifies that the graph is acyclic**: edges increase the position in
it, so there is no infinite backward path. -/
theorem wellFounded_of_kahn_length (hlen : (kahn nodes E).length = nodes.length) :
    WellFounded (Adj E) :=
  Subrelation.wf (fun {_ _} h ↦ idxOf_kahn_lt hnodes htarget hlen h)
    (InvImage.wf (kahn nodes E).idxOf Nat.lt_wfRel.wf)

/-- Where every edge has both ends among the vertices, an acyclic graph is listed in full. -/
theorem subset_kahn_of_wellFounded (hsource : ∀ e ∈ E, e.1 ∈ nodes) (hwf : WellFounded (Adj E)) :
    nodes ⊆ kahn nodes E := by
  obtain ⟨indeg, h⟩ := kahn_inv hnodes htarget
  intro v
  -- a vertex whose predecessors have all been popped has been queued, and the queue is empty
  induction v using hwf.induction with
  | _ v ih =>
    intro hv
    have hpreds : ∀ u, Adj E u v → u ∈ kahn nodes E := fun u huv ↦
      ih u huv (hsource (u, v) huv)
    have hzero : indeg v = 0 := by
      rw [h.count, remaining_eq_zero_iff.mpr hpreds]
      rfl
    simpa using (h.queued v hv).mpr hzero

/-- **The sort is exact**: all vertices are listed if and only if there is no directed cycle. -/
theorem kahn_length_iff_acyclic (hsource : ∀ e ∈ E, e.1 ∈ nodes) :
    (kahn nodes E).length = nodes.length ↔ Acyclic E := by
  constructor
  · intro hlen
    exact acyclic_of_wellFounded (wellFounded_of_kahn_length hnodes htarget hlen)
  · intro hacyclic
    have hsub := subset_kahn_of_wellFounded hnodes htarget hsource hacyclic.wellFounded
    exact Nat.le_antisymm
      ((nodup_kahn hnodes).subperm (kahn_subset hnodes htarget)).length_le
      (hnodes.subperm hsub).length_le

end Spec

end EdgeList
