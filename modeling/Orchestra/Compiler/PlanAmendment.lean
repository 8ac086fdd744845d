import Orchestra.Compiler.Resolver
import Orchestra.Foundation.Dictionary

/-!
# Plan amendment

When a capability becomes unavailable, `amend` drops the bindings to it, resolves the whole graph
again and puts the new bindings over the ones that are left. The store it resolves over is the one
it had before, and nothing tells the router which capability not to choose. So a node that the
resolver would bind to the unavailable capability is bound to it again, and the amended result
avoids it exactly when no node of the graph picks it (`avoidsUnavailable_iff`).
-/

namespace Orchestra

/-- The new result, with its bindings put over those of the previous one that are left. -/
def ResolverResult.over (newResult previous : ResolverResult) (affected : List String) :
    ResolverResult :=
  { newResult with
    bindings := Dictionary.override
      (previous.bindings.filter fun b ↦ decide (b.1 ∉ affected)) newResult.bindings
    manifestBindings := Dictionary.override
      (previous.manifestBindings.filter fun b ↦ decide (b.1 ∉ affected))
      newResult.manifestBindings }

namespace Resolver

/-- The nodes that are bound to the unavailable capability. -/
def affected (previous : ResolverResult) (unavailableCapabilityId : String) : List String :=
  (previous.bindings.filter fun b ↦ decide (b.2 = unavailableCapabilityId)).map Prod.fst

/-- `amend`. -/
def amend (P : Primitives) (F : FloatModel) (clock : String → ℕ) (resolver : Resolver)
    (previous : ResolverResult) (unavailableCapabilityId : String) (g : NormalizedGraph)
    (dataLabel : SecurityLabel) (region : String) (budgetUsd : ℚ)
    (template : Option TaskTemplate) : Except Raised ResolverResult :=
  let affected := affected previous unavailableCapabilityId
  if affected = [] then .ok previous
  else do
    -- the full resolution, in which nothing excludes the unavailable capability
    let newResult ← resolver.resolve P F clock g dataLabel region budgetUsd template
    return newResult.over previous affected

/-- The capability is the one the resolver binds the node to: `human.approver` for a human
approval, else the candidate the policy prefers, else the fallback when there are candidates and all
of them are denied. -/
inductive Picks (F : FloatModel) (resolver : Resolver) (template : Option TaskTemplate)
    (q : Router.Query) (n : NormalizedNode) : String → Prop
  | human : IsHuman n → Picks F resolver template q n "human.approver"
  | preferred {spec : NodeSpec} {m : CapabilityManifest} : ¬IsHuman n →
      nodeSpec template n = .ok spec → Router.Preferred F resolver.router spec q m →
      m.capabilityId ≠ "" → Picks F resolver template q n m.capabilityId
  | fallback {spec : NodeSpec} {c m : CapabilityManifest} : ¬IsHuman n →
      nodeSpec template n = .ok spec → c ∈ resolver.router.store.rows →
      isEligible spec c = true →
      (∀ c ∈ resolver.router.store.rows, isEligible spec c = true →
        ¬resolver.router.Allowed spec q c) →
      resolver.router.fallback spec = some m → Picks F resolver template q n m.capabilityId

/-- Whatever `amend` returns binds no node to the unavailable capability, and binds every node of
the graph if it is ok. -/
def AvoidsUnavailable (P : Primitives) (F : FloatModel) (clock : String → ℕ) (resolver : Resolver)
    (previous : ResolverResult) (unavailableCapabilityId : String) (g : NormalizedGraph)
    (dataLabel : SecurityLabel) (region : String) (budgetUsd : ℚ)
    (template : Option TaskTemplate) : Prop :=
  ∀ result, resolver.amend P F clock previous unavailableCapabilityId g dataLabel region budgetUsd
      template = .ok result →
    (∀ nodeId, (nodeId, unavailableCapabilityId) ∉ result.bindings) ∧
      (result.ok = true → ∀ n ∈ g.nodes.rows, ∃ x, (n.nodeId, x) ∈ result.bindings)

variable {P : Primitives} {F : FloatModel} {clock : String → ℕ} {resolver : Resolver}
  {template : Option TaskTemplate} {q : Router.Query} {g : NormalizedGraph} {n : NormalizedNode}
  {order : List String} {rs : List (String × Resolution)} {u : String}

/-! ## One node -/

theorem binding_of_human {r : Resolution} (hhuman : IsHuman n)
    (h : resolveNode P F clock resolver template q n = .ok r) :
    r.binding = some ("human.approver", "manifest:human-approver") ∧ r.error = none := by
  rw [IsHuman] at hhuman
  simp only [resolveNode, if_pos hhuman] at h
  cases h
  exact ⟨rfl, rfl⟩

theorem records_of_resolveNode {r : Resolution} (hhuman : ¬IsHuman n)
    (h : resolveNode P F clock resolver template q n = .ok r) :
    ∃ spec, nodeSpec template n = .ok spec ∧ Records F resolver q n spec r := by
  have hok : ∃ r, resolveNode P F clock resolver template q n = .ok r := ⟨r, h⟩
  obtain ⟨spec, hspec, hkinds⟩ := (resolveNode_isOk_iff.mp hok).resolve_left hhuman
  obtain ⟨r', hr', hrecords⟩ : ∃ r, resolveNode P F clock resolver template q n = .ok r ∧
      Records F resolver q n spec r := resolveNode_spec hhuman hspec hkinds
  obtain rfl := Except.ok.inj (h.symm.trans hr')
  exact ⟨spec, hspec, hrecords⟩

/-- A node that is not bound is reported. -/
theorem exists_error_of_unbound {r : Resolution}
    (h : resolveNode P F clock resolver template q n = .ok r) (hr : r.binding = none) :
    ∃ e, r.error = some e := by
  by_cases hhuman : IsHuman n
  · rw [(binding_of_human hhuman h).1] at hr
    cases hr
  · obtain ⟨_, -, hrecords⟩ := records_of_resolveNode hhuman h
    exact hrecords.error.mpr hr

/-- What the node is bound to is what the resolver picks for it. -/
theorem binding_iff_picks {r : Resolution}
    (h : resolveNode P F clock resolver template q n = .ok r) :
    r.binding.map Prod.fst = some u ↔ Picks F resolver template q n u := by
  by_cases hhuman : IsHuman n
  · rw [(binding_of_human hhuman h).1]
    constructor
    · intro hu
      obtain rfl := Option.some.inj hu
      exact .human hhuman
    · intro hu
      cases hu with
      | human _ => rfl
      | preferred hnot | fallback hnot => exact absurd hhuman hnot
  · obtain ⟨spec, hspec, hrecords⟩ := records_of_resolveNode hhuman h
    rw [hrecords.binding u, ne_eq, rankedCandidates_eq_nil_iff, Router.chosen]
    constructor
    · rintro ⟨hsome, hne, hchosen⟩
      cases hw : resolver.router.winner F spec q with
      | some e =>
        rw [hw] at hchosen
        obtain ⟨m, hpref, rfl⟩ := Router.winner_eq_some_iff.mp hw
        obtain rfl : m.capabilityId = u := hchosen
        exact .preferred hhuman hspec hpref hne
      | none =>
        rw [hw] at hchosen
        cases hfb : resolver.router.fallback spec with
        | none =>
          rw [hfb] at hchosen
          exact absurd hchosen.symm hne
        | some m =>
          rw [hfb] at hchosen
          obtain rfl : m.capabilityId = u := hchosen
          push Not at hsome
          obtain ⟨c, hc, hok⟩ := hsome
          exact .fallback hhuman hspec hc hok (Router.winner_eq_none_iff.mp hw) hfb
    · intro hu
      cases hu with
      | human hhuman' => exact absurd hhuman' hhuman
      | @preferred spec' m _ hspec' hpref hne =>
        obtain rfl := Except.ok.inj (hspec.symm.trans hspec')
        rw [Router.winner_eq_some_iff.mpr ⟨m, hpref, rfl⟩]
        exact ⟨fun hnone ↦ hnone m hpref.mem hpref.eligible, hne, rfl⟩
      | @fallback spec' c m _ hspec' hc hok hdenied hfb =>
        obtain rfl := Except.ok.inj (hspec.symm.trans hspec')
        rw [Router.winner_eq_none_iff.mpr hdenied, hfb]
        exact ⟨fun hnone ↦ hnone c hc hok, (Router.fallback_spec hfb).1, rfl⟩

/-! ## The whole graph -/

/-- An order that the loop goes through lists the nodes of the graph, each once, wherever the edges
of the graph end. -/
theorem order_perm (horder : g.topologicalOrder = some order)
    (h : resolveNodes P F clock resolver template q g order = .ok rs) :
    order.Perm (g.nodes.rows.map NormalizedNode.nodeId) := by
  rw [NormalizedGraph.topologicalOrder, Orchestra.topologicalOrder] at horder
  split_ifs at horder with hlen
  obtain rfl := Option.some.inj horder
  have hnodup : (EdgeList.kahn (g.nodes.rows.map NormalizedNode.nodeId)
      (g.edges.map CandidateEdge.ends)).Nodup := EdgeList.nodup_kahn g.nodes.nodup_keys
  refine (hnodup.subperm fun nodeId hmem ↦ ?_).perm_of_length_le (le_of_eq (not_not.mp hlen).symm)
  obtain ⟨n, hn, -⟩ := resolveNodes_isOk_iff.mp ⟨rs, h⟩ nodeId hmem
  exact List.mem_map.mpr ⟨n, KeyedTable.mem_of_find? hn, KeyedTable.key_of_find? hn⟩

theorem map_fst_resolveNodes (h : resolveNodes P F clock resolver template q g order = .ok rs) :
    rs.map Prod.fst = order := by
  induction order generalizing rs with
  | nil =>
    cases h
    rfl
  | cons nodeId order ih =>
    obtain ⟨n, r, rest, -, -, hrest, rfl⟩ := resolveNodes_cons_eq_ok_iff.mp h
    rw [List.map_cons, ih hrest]

theorem nodup_bindings_collect (h : (rs.map Prod.fst).Nodup) :
    ((collect rs).bindings.map Prod.fst).Nodup := by
  have hsub : ((rs.filterMap fun r ↦ r.2.binding.map fun b ↦ (r.1, b.1)).map Prod.fst).Sublist
      (rs.map Prod.fst) := by
    clear h
    induction rs with
    | nil => exact .slnil
    | cons r rs ih =>
      rw [List.filterMap_cons]
      cases r.2.binding with
      | none => exact ih.cons r.1
      | some b => exact ih.cons_cons r.1
  exact hsub.nodup h

/-- What `resolve` returns: a dictionary that binds a node of the graph to what the resolver picks
for it, and every node if it is ok. -/
structure Resolved (F : FloatModel) (resolver : Resolver) (template : Option TaskTemplate)
    (q : Router.Query) (g : NormalizedGraph) (result : ResolverResult) : Prop where
  nodup : (result.bindings.map Prod.fst).Nodup
  mem_bindings : ∀ nodeId u, (nodeId, u) ∈ result.bindings ↔
    ∃ n ∈ g.nodes.rows, n.nodeId = nodeId ∧ Picks F resolver template q n u
  total : result.ok = true → ∀ n ∈ g.nodes.rows, ∃ x, (n.nodeId, x) ∈ result.bindings

theorem resolved_of_resolve {dataLabel : SecurityLabel} {region : String} {budgetUsd : ℚ}
    {result : ResolverResult}
    (h : resolver.resolve P F clock g dataLabel region budgetUsd template = .ok result) :
    Resolved F resolver template (query g dataLabel region budgetUsd) g result := by
  obtain ⟨order, rs, horder, hrs, rfl⟩ := resolve_eq_ok_iff.mp h
  have hperm := order_perm horder hrs
  refine ⟨nodup_bindings_collect ?_, fun nodeId u ↦ ?_, fun hok n hn ↦ ?_⟩
  · rw [map_fst_resolveNodes hrs]
    exact hperm.nodup_iff.mpr g.nodes.nodup_keys
  · rw [mem_bindings_collect]
    constructor
    · rintro ⟨r, hmem, hu⟩
      obtain ⟨-, n, hn, hr⟩ := (mem_resolveNodes hrs).mp hmem
      exact ⟨n, KeyedTable.mem_of_find? hn, KeyedTable.key_of_find? hn,
        (binding_iff_picks hr).mp hu⟩
    · rintro ⟨n, hn, rfl, hpicks⟩
      have hlisted : n.nodeId ∈ order := hperm.mem_iff.mpr (List.mem_map_of_mem hn)
      obtain ⟨m, hm, hm'⟩ := resolveNodes_isOk_iff.mp ⟨rs, hrs⟩ _ hlisted
      obtain rfl : n = m := Option.some.inj ((KeyedTable.find?_of_mem hn).symm.trans hm)
      obtain ⟨r, hr⟩ : ∃ r, resolveNode P F clock resolver template
          (query g dataLabel region budgetUsd) n = .ok r := resolveNode_isOk_iff.mpr hm'
      exact ⟨r, (mem_iff_of_listed hrs hn).mpr ⟨hlisted, hr⟩, (binding_iff_picks hr).mpr hpicks⟩
  · have hlisted : n.nodeId ∈ order := hperm.mem_iff.mpr (List.mem_map_of_mem hn)
    obtain ⟨⟨nodeId, r⟩, hmem, rfl⟩ :=
      List.mem_map.mp ((map_fst_resolveNodes hrs).symm ▸ hlisted)
    obtain ⟨-, hr⟩ := (mem_iff_of_listed hrs hn).mp hmem
    cases hb : r.binding with
    | some b => exact ⟨b.1, mem_bindings_collect.mpr ⟨r, hmem, by rw [hb]; rfl⟩⟩
    | none =>
      -- an unbound node is an error, and there is none
      obtain ⟨e, he⟩ := exists_error_of_unbound hr hb
      have herr : e ∈ (collect rs).errors := mem_errors_collect.mpr ⟨_, r, hmem, he⟩
      have hnil : (collect rs).errors = [] := List.isEmpty_iff.mp hok
      rw [hnil] at herr
      cases herr

/-! ## The amended result -/

/-- The router is asked for every node that is not a human approval, and the asking raises for
none. -/
def Routes (template : Option TaskTemplate) (g : NormalizedGraph) : Prop :=
  ∀ n ∈ g.nodes.rows, IsHuman n ∨ Routable template n

section Amended

variable {previous : ResolverResult} {dataLabel : SecurityLabel} {region : String} {budgetUsd : ℚ}

/-- Whether `resolve` raises does not depend on what it is asked with besides the template. -/
theorem resolve_isOk_iff (horder : g.topologicalOrder = some order)
    (hperm : order.Perm (g.nodes.rows.map NormalizedNode.nodeId)) :
    (∃ result, resolver.resolve P F clock g dataLabel region budgetUsd template = .ok result) ↔
      Routes template g := by
  have hnodes : (∀ nodeId ∈ order, ∃ n, g.nodes.find? nodeId = some n ∧
      (IsHuman n ∨ Routable template n)) ↔ Routes template g := by
    constructor
    · intro h n hn
      obtain ⟨m, hm, hm'⟩ := h n.nodeId (hperm.mem_iff.mpr (List.mem_map_of_mem hn))
      obtain rfl : n = m := Option.some.inj ((KeyedTable.find?_of_mem hn).symm.trans hm)
      exact hm'
    · intro h nodeId hmem
      obtain ⟨n, hn, rfl⟩ := List.mem_map.mp (hperm.mem_iff.mp hmem)
      exact ⟨n, KeyedTable.find?_of_mem hn, h n hn⟩
  have hloop : (∃ rs, resolveNodes P F clock resolver template
      (query g dataLabel region budgetUsd) g order = .ok rs) ↔ _ := resolveNodes_isOk_iff
  rw [← hnodes, ← hloop]
  constructor
  · rintro ⟨result, hresult⟩
    obtain ⟨order', rs, horder', hrs, -⟩ := resolve_eq_ok_iff.mp hresult
    obtain rfl := Option.some.inj (horder.symm.trans horder')
    exact ⟨rs, hrs⟩
  · rintro ⟨rs, hrs⟩
    exact ⟨_, resolve_eq_ok_iff.mpr ⟨order, rs, horder, hrs, rfl⟩⟩

theorem mem_affected {nodeId : String} :
    nodeId ∈ affected previous u ↔ (nodeId, u) ∈ previous.bindings := by
  simp [affected]

/-- Without a binding to the unavailable capability the previous result is returned. -/
theorem amend_of_unaffected (h : ∀ nodeId, (nodeId, u) ∉ previous.bindings) :
    resolver.amend P F clock previous u g dataLabel region budgetUsd template = .ok previous := by
  have hnone : affected previous u = [] :=
    List.eq_nil_iff_forall_not_mem.mpr fun nodeId hmem ↦ h nodeId (mem_affected.mp hmem)
  rw [amend, if_pos hnone]

/-- The bindings of an amended result: those of the new resolution, and over nodes that it does not
bind those of the previous one that are not to the unavailable capability. -/
structure Amended (previous : ResolverResult) (u : String) (fresh result : ResolverResult) :
    Prop where
  ok : result.ok = fresh.ok
  get : ∀ nodeId, Dictionary.get result.bindings nodeId =
    (Dictionary.get fresh.bindings nodeId).or
      ((Dictionary.get previous.bindings nodeId).filter fun x ↦ decide (x ≠ u))
  nodup : (result.bindings.map Prod.fst).Nodup

theorem amended_over (hprevious : (previous.bindings.map Prod.fst).Nodup) {fresh : ResolverResult}
    (hfresh : (fresh.bindings.map Prod.fst).Nodup) :
    Amended previous u fresh (fresh.over previous (affected previous u)) := by
  refine ⟨rfl, fun k ↦ ?_, ?_⟩
  · rw [ResolverResult.over, Dictionary.get_override,
      Dictionary.get_filter fun k ↦ decide (k ∉ affected previous u)]
    congr 1
    cases hget : Dictionary.get previous.bindings k with
    | none => simp
    | some x =>
      have hx : k ∈ affected previous u ↔ x = u := by
        rw [mem_affected, ← Dictionary.get_eq_some_iff hprevious, hget, Option.some.injEq]
      simp [hx, Option.filter]
  · refine Dictionary.nodup_override ?_ hfresh
    exact (List.filter_sublist.map Prod.fst).nodup hprevious

/-- With one the graph is resolved again. -/
theorem amend_of_affected {nodeId : String} (h : (nodeId, u) ∈ previous.bindings) :
    resolver.amend P F clock previous u g dataLabel region budgetUsd template =
      (resolver.resolve P F clock g dataLabel region budgetUsd template).map fun fresh ↦
        fresh.over previous (affected previous u) := by
  rw [amend, if_neg (List.ne_nil_of_mem (mem_affected.mpr h))]
  cases resolver.resolve P F clock g dataLabel region budgetUsd template with
  | error e => rfl
  | ok fresh => rfl

/-- A result for which the capability is picked binds it again. -/
theorem Amended.mem_iff {fresh result : ResolverResult}
    (hfresh : (fresh.bindings.map Prod.fst).Nodup) (h : Amended previous u fresh result)
    {nodeId : String} : (nodeId, u) ∈ result.bindings ↔ (nodeId, u) ∈ fresh.bindings := by
  rw [← Dictionary.get_eq_some_iff h.nodup, h.get, ← Dictionary.get_eq_some_iff hfresh]
  cases Dictionary.get fresh.bindings nodeId with
  | none => simp [Option.filter_eq_some_iff]
  | some x => rfl

theorem Amended.isSome_of_mem {fresh result : ResolverResult}
    (hfresh : (fresh.bindings.map Prod.fst).Nodup) (h : Amended previous u fresh result)
    {nodeId x : String} (hx : (nodeId, x) ∈ fresh.bindings) : (nodeId, x) ∈ result.bindings := by
  rw [← Dictionary.get_eq_some_iff h.nodup, h.get, (Dictionary.get_eq_some_iff hfresh).mpr hx]
  rfl

section Previous

variable {clock₀ : String → ℕ} {dataLabel₀ : SecurityLabel} {region₀ : String} {budgetUsd₀ : ℚ}
  {template₀ : Option TaskTemplate}

/-- **When `amend` returns**: there is nothing to amend, or every node is routed without raising, as
it was when the previous result was made if the template is the one that was used then. -/
theorem amend_isOk_iff
    (hprevious : resolver.resolve P F clock₀ g dataLabel₀ region₀ budgetUsd₀ template₀
      = .ok previous) :
    (∃ result, resolver.amend P F clock previous u g dataLabel region budgetUsd template
        = .ok result) ↔
      (∀ nodeId, (nodeId, u) ∉ previous.bindings) ∨ Routes template g := by
  obtain ⟨order, rs, horder, hrs, -⟩ := resolve_eq_ok_iff.mp hprevious
  have hresolve : (∃ result, resolver.resolve P F clock g dataLabel region budgetUsd template
      = .ok result) ↔ Routes template g := resolve_isOk_iff horder (order_perm horder hrs)
  by_cases haffected : ∃ nodeId, (nodeId, u) ∈ previous.bindings
  · obtain ⟨nodeId, hmem⟩ := haffected
    rw [amend_of_affected hmem, or_iff_right fun hnone ↦ hnone nodeId hmem, ← hresolve]
    cases resolver.resolve P F clock g dataLabel region budgetUsd template with
    | error e => simp [Except.map]
    | ok fresh => simp [Except.map]
  · rw [not_exists] at haffected
    exact iff_of_true ⟨previous, amend_of_unaffected haffected⟩ (Or.inl haffected)

/-- **When amendment avoids the unavailable capability.** What `amend` returns of an ok result for
the same graph binds no node to it, and every node if it is ok, if and only if the previous result
binds no node to it, or the asking raises, or it is picked for no node of the graph. -/
theorem avoidsUnavailable_iff (P : Primitives) (F : FloatModel) (clock : String → ℕ)
    (resolver : Resolver) (previous : ResolverResult) (u : String) (g : NormalizedGraph)
    (dataLabel : SecurityLabel) (region : String) (budgetUsd : ℚ) (template : Option TaskTemplate)
    (hprevious : resolver.resolve P F clock₀ g dataLabel₀ region₀ budgetUsd₀ template₀
      = .ok previous) (hok : previous.ok = true) :
    AvoidsUnavailable P F clock resolver previous u g dataLabel region budgetUsd template ↔
      (∀ nodeId, (nodeId, u) ∉ previous.bindings) ∨ ¬Routes template g ∨
        ∀ n ∈ g.nodes.rows,
          ¬Picks F resolver template (query g dataLabel region budgetUsd) n u := by
  obtain ⟨order, rs, horder, hrs, -⟩ := resolve_eq_ok_iff.mp hprevious
  have hresolve : (∃ result, resolver.resolve P F clock g dataLabel region budgetUsd template
      = .ok result) ↔ Routes template g := resolve_isOk_iff horder (order_perm horder hrs)
  rw [AvoidsUnavailable]
  by_cases haffected : ∃ nodeId, (nodeId, u) ∈ previous.bindings
  · obtain ⟨nodeId, hmem⟩ := haffected
    rw [amend_of_affected hmem, or_iff_right fun hnone ↦ hnone nodeId hmem, ← hresolve]
    cases hfresh : resolver.resolve P F clock g dataLabel region budgetUsd template with
    | error e => simp [Except.map]
    | ok fresh =>
      have hfresh' := resolved_of_resolve hfresh
      have hamended : Amended previous u fresh (fresh.over previous (affected previous u)) :=
        amended_over (resolved_of_resolve hprevious).nodup hfresh'.nodup
      simp only [Except.map, Except.ok.injEq, forall_eq', exists_eq', not_true_eq_false, false_or]
      have htotal : (fresh.over previous (affected previous u)).ok = true →
          ∀ n ∈ g.nodes.rows, ∃ x,
            (n.nodeId, x) ∈ (fresh.over previous (affected previous u)).bindings := by
        intro hok n hn
        obtain ⟨x, hx⟩ := hfresh'.total (hamended.ok ▸ hok) n hn
        exact ⟨x, hamended.isSome_of_mem hfresh'.nodup hx⟩
      rw [and_iff_left htotal]
      constructor
      · intro h n hn hpicks
        refine h n.nodeId ((hamended.mem_iff hfresh'.nodup).mpr ?_)
        exact (hfresh'.mem_bindings _ _).mpr ⟨n, hn, rfl, hpicks⟩
      · intro h nodeId' hmem'
        obtain ⟨n, hn, -, hpicks⟩ :=
          (hfresh'.mem_bindings _ _).mp ((hamended.mem_iff hfresh'.nodup).mp hmem')
        exact h n hn hpicks
  · rw [not_exists] at haffected
    refine iff_of_true ?_ (Or.inl haffected)
    intro result hresult
    rw [amend_of_unaffected haffected] at hresult
    obtain rfl := Except.ok.inj hresult
    exact ⟨haffected, fun _ ↦ (resolved_of_resolve hprevious).total hok⟩

end Previous

end Amended

/-- The one capability of the store below. -/
def loneModel : CapabilityManifest where
  capabilityId := "local.model"
  name := "Local model"
  kind := .localModel
  endpoint := "http://local"

def loneResolver : Resolver := sampleResolver (KeyedTable.empty.put loneModel)

theorem resolve_loneResolver (P : Primitives) (F : FloatModel) :
    ∃ previous, loneResolver.resolve P F (fun _ ↦ 0) (oneNode plainNode)
        { classification := .internal } "local" 1 none = .ok previous ∧ previous.ok = true ∧
      previous.bindings = [("extract", "local.model")] :=
  ⟨_, rfl, rfl, rfl⟩

theorem avoidsUnavailable_iff_lone : ∃ P F previous,
    loneResolver.resolve P F (fun _ ↦ 0) (oneNode plainNode) { classification := .internal }
        "local" 1 none = .ok previous ∧
      AvoidsUnavailable P F (fun _ ↦ 0) loneResolver previous "public.model" (oneNode plainNode)
        { classification := .internal } "local" 1 none := by
  obtain ⟨P⟩ : Nonempty Primitives :=
    ⟨fun _ ↦ List.replicate 32 1, fun _ _ ↦ List.replicate 32 1, fun _ _ ↦ by decide⟩
  obtain ⟨F⟩ : Nonempty FloatModel := ⟨id, fun _ ↦ "1.0"⟩
  obtain ⟨previous, hprevious, hok, hbindings⟩ := resolve_loneResolver P F
  refine ⟨P, F, previous, hprevious, (avoidsUnavailable_iff P F _ _ _ _ _ _ _ _ _ hprevious hok).mpr
    (Or.inl fun nodeId hmem ↦ ?_)⟩
  rw [hbindings, List.mem_singleton, Prod.mk.injEq] at hmem
  exact absurd hmem.2 (by decide)

/-- **Amendment binds the unavailable capability again.** The one capability of the store becomes
unavailable, and the node that was bound to it is still bound to it. -/
theorem not_avoidsUnavailable_lone : ¬∀ (P : Primitives) (F : FloatModel) (clock : String → ℕ)
    (resolver : Resolver) (previous : ResolverResult) (u : String) (g : NormalizedGraph)
    (dataLabel : SecurityLabel) (region : String) (budgetUsd : ℚ) (template : Option TaskTemplate),
    resolver.resolve P F clock g dataLabel region budgetUsd template = .ok previous →
      previous.ok = true →
      AvoidsUnavailable P F clock resolver previous u g dataLabel region budgetUsd template := by
  intro hall
  obtain ⟨P⟩ : Nonempty Primitives :=
    ⟨fun _ ↦ List.replicate 32 1, fun _ _ ↦ List.replicate 32 1, fun _ _ ↦ by decide⟩
  obtain ⟨F⟩ : Nonempty FloatModel := ⟨id, fun _ ↦ "1.0"⟩
  obtain ⟨previous, hprevious, hok, hbindings⟩ := resolve_loneResolver P F
  have havoids := hall P F _ _ previous "local.model" _ _ _ _ none hprevious hok
  have hmem : ("extract", "local.model") ∈ previous.bindings := by
    rw [hbindings]
    exact List.mem_singleton_self _
  have hnodup : (previous.bindings.map Prod.fst).Nodup := by
    rw [hbindings]
    decide
  have hamended : Amended previous "local.model" previous
      (previous.over previous (affected previous "local.model")) := amended_over hnodup hnodup
  refine (havoids _ ?_).1 "extract" ((hamended.mem_iff hnodup).mpr hmem)
  rw [amend_of_affected hmem, hprevious]
  rfl

end Resolver

end Orchestra
