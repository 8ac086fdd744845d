import Orchestra.Compiler.Checkers
import Orchestra.Registry.Router

/-!
# The resolver

The resolver binds the nodes of a graph at plan time. For every node that is not a human approval it
asks the router, but only if the eligible set is not empty, and it has its own idea of when the
router fell back: whenever the chosen capability is the one the graph's node names as its fallback.

The router needs no eligible candidate in order to fall back, and a node with a single eligible kind
may be bound to its fallback as a candidate. These are the two ways in which plan time and run time
disagree (`agrees_iff`); a template whose specification of a node names another fallback than the
graph is a third.
-/

namespace Orchestra

/-- `template.node`, which is the first specification of the id. -/
def TaskTemplate.node (template : TaskTemplate) (nodeId : String) : Except Raised NodeSpec :=
  match template.nodes.find? fun n ↦ decide (n.nodeId = nodeId) with
  | some n => .ok n
  | none => .error ⟨"KeyError", pyRepr ("unknown node_id " ++ pyRepr nodeId)⟩

structure ResolverResult where
  ok : Bool
  bindings : List (String × String) := []
  manifestBindings : List (String × String) := []
  eligibleSets : List (String × EligibleSet) := []
  errors : List CompileError := []
  fallbackUsed : List (String × String) := []

/-- The plan-time resolver. It keeps a store and a policy, and asks its router. -/
structure Resolver where
  store : ManifestStore
  policy : PolicyEngine
  router : Router

namespace Resolver

/-- The constructor, with the default manifests and the default policy. -/
def init (defaultManifests : ManifestStore) (defaultPolicy : PolicyEngine)
    (store : Option ManifestStore) (policy : Option PolicyEngine) (router : Option Router) :
    Resolver :=
  -- an empty store is false, and the default one is taken for it
  let store := match store with
    | some s => if s.rows.isEmpty then defaultManifests else s
    | none => defaultManifests
  let policy := policy.getD defaultPolicy
  ⟨store, policy, router.getD ⟨store, policy⟩⟩

/-- The specification the router is asked with: the template's, or one rebuilt from the node. -/
def nodeSpec (template : Option TaskTemplate) (n : NormalizedNode) : Except Raised NodeSpec :=
  match template with
  | some template => template.node n.node.nodeId
  | none => .ok
    { nodeId := n.node.nodeId, name := n.node.name,
      requiresPurpose := { code := n.node.purposeCode },
      eligibleCapabilityKinds := n.node.eligibleCapabilityKinds,
      declaredEffects := n.node.declaredEffectKinds.map fun k ↦ { kind := k },
      requiresApproval := n.node.requiresApproval,
      fallbackCapabilityId := n.node.fallbackCapabilityId, timeoutMs := n.node.timeoutMs }

/-- What is recorded about one node. -/
structure Resolution where
  binding : Option (String × String) := none
  eligibleSet : EligibleSet
  error : Option CompileError := none
  fallbackUsed : Option String := none

section

variable (P : Primitives) (F : FloatModel) (clock : String → ℕ) (resolver : Resolver)
  (template : Option TaskTemplate) (q : Router.Query)

/-- The body of the loop, for one node. -/
def resolveNode (n : NormalizedNode) : Except Raised Resolution := do
  if CapabilityKind.human ∈ n.node.eligibleCapabilityKinds then
    -- the approval is a capability synthesised at compile time
    return { binding := some ("human.approver", "manifest:human-approver"),
             eligibleSet := ⟨n.nodeId, []⟩ }
  let spec ← nodeSpec template n
  let es ← computeEligibleSet F spec resolver.router.store
  if es.entries.isEmpty then
    return { eligibleSet := es,
             error := some
              { kind := .infeasibleBinding, nodeId := n.nodeId,
                reason := "no eligible capability for node " ++ n.nodeId ++ " (eligible kinds: " ++
                  pyReprList (n.node.eligibleCapabilityKinds.map CapabilityKind.value) ++ ")",
                dataPath := [n.nodeId, "eligible_set"] } }
  let r ← resolver.router.route P F (clock n.nodeId) spec q
  if r.decision.chosenCapabilityId = "" then
    return { eligibleSet := es,
             error := some
              { kind := .infeasibleBinding, nodeId := n.nodeId,
                reason := "all eligible candidates denied; last reason: " ++ r.decision.rationale,
                dataPath := [n.nodeId, "policy"] } }
  return { binding := some (r.decision.chosenCapabilityId, r.decision.chosenManifestId),
           eligibleSet := es,
           fallbackUsed :=
             if some r.decision.chosenCapabilityId = n.node.fallbackCapabilityId then
               some r.decision.chosenCapabilityId
             else none }

/-- The loop over the nodes of the order. -/
def resolveNodes (g : NormalizedGraph) : List String → Except Raised (List (String × Resolution))
  | [] => .ok []
  | nodeId :: order => do
    let n ← match g.nodes.find? nodeId with
      | some n => .ok n
      | none => .error (⟨"KeyError", pyRepr nodeId⟩ : Raised)
    let r ← resolveNode P F clock resolver template q n
    let rest ← resolveNodes g order
    return (nodeId, r) :: rest

/-- The result that is put together from what was recorded. -/
def collect (rs : List (String × Resolution)) : ResolverResult :=
  let errors := rs.filterMap fun r ↦ r.2.error
  { ok := errors.isEmpty
    bindings := rs.filterMap fun r ↦ r.2.binding.map fun b ↦ (r.1, b.1)
    manifestBindings := rs.filterMap fun r ↦ r.2.binding.map fun b ↦ (r.1, b.2)
    eligibleSets := rs.map fun r ↦ (r.1, r.2.eligibleSet)
    errors := errors
    fallbackUsed := rs.filterMap fun r ↦ r.2.fallbackUsed.map fun f ↦ (r.1, f) }

end

/-- What the router is asked with, besides the node. -/
def query (g : NormalizedGraph) (dataLabel : SecurityLabel) (region : String) (budgetUsd : ℚ) :
    Router.Query :=
  ⟨dataLabel, g.purpose, region, budgetUsd⟩

/-- `resolve`. -/
def resolve (P : Primitives) (F : FloatModel) (clock : String → ℕ) (resolver : Resolver)
    (g : NormalizedGraph) (dataLabel : SecurityLabel) (region : String) (budgetUsd : ℚ)
    (template : Option TaskTemplate) : Except Raised ResolverResult := do
  let order ← match g.topologicalOrder with
    | some order => .ok order
    | none =>
      .error (⟨"RuntimeError", "normalized graph has a cycle (impossible after parse)"⟩ : Raised)
  let rs ← resolveNodes P F clock resolver template (query g dataLabel region budgetUsd) g order
  return collect rs

/-- A store that is not empty is the one the router looks into. -/
theorem router_init {defaultManifests store : ManifestStore} {defaultPolicy policy : PolicyEngine}
    (h : store.rows ≠ []) :
    (init defaultManifests defaultPolicy (some store) (some policy) none).router
      = ⟨store, policy⟩ := by
  simp [init, h]

/-! ## One node -/

variable {P : Primitives} {F : FloatModel} {clock : String → ℕ} {resolver : Resolver}
  {template : Option TaskTemplate} {q : Router.Query} {n : NormalizedNode}

/-- The node is a human approval. -/
def IsHuman (n : NormalizedNode) : Prop := CapabilityKind.human ∈ n.node.eligibleCapabilityKinds

instance (n : NormalizedNode) : Decidable (IsHuman n) := inferInstanceAs (Decidable (_ ∈ _))

/-- There is a specification of the node, and it has an eligible kind. -/
def Routable (template : Option TaskTemplate) (n : NormalizedNode) : Prop :=
  ∃ spec, nodeSpec template n = .ok spec ∧ spec.eligibleCapabilityKinds ≠ []

/-- What the loop records of a node that is routed with `spec`. -/
structure Records (F : FloatModel) (resolver : Resolver) (q : Router.Query) (n : NormalizedNode)
    (spec : NodeSpec) (r : Resolution) : Prop where
  binding : ∀ x, r.binding.map Prod.fst = some x ↔
    rankedCandidates F spec resolver.router.store ≠ [] ∧ x ≠ "" ∧
      resolver.router.chosen F spec q = x
  error : (∃ e, r.error = some e) ↔ r.binding = none
  errorAt : ∀ e, r.error = some e → e.kind = .infeasibleBinding ∧ e.nodeId = n.nodeId
  fallbackUsed : r.fallbackUsed.isSome ↔
    ∃ x, r.binding.map Prod.fst = some x ∧ n.node.fallbackCapabilityId = some x

/-- **The body of the loop.** It raises exactly for a node that is not routable. -/
theorem resolveNode_spec (hhuman : ¬IsHuman n) {spec : NodeSpec}
    (hspec : nodeSpec template n = .ok spec) (hkinds : spec.eligibleCapabilityKinds ≠ []) :
    ∃ r, resolveNode P F clock resolver template q n = .ok r ∧
      Records F resolver q n spec r := by
  obtain ⟨res, hres⟩ : ∃ res, resolver.router.route P F (clock n.nodeId) spec q = .ok res :=
    Router.route_eq_ok _ hkinds
  have hchosen := Router.chosen_of_route hres
  have hset : computeEligibleSet F spec resolver.router.store =
      .ok ⟨spec.nodeId, rankedCandidates F spec resolver.router.store⟩ := by
    rw [computeEligibleSet, if_neg hkinds]
  rw [IsHuman] at hhuman
  simp only [resolveNode, if_neg hhuman, hspec, hset, hres, bind, Except.bind, pure, Except.pure,
    List.isEmpty_iff]
  by_cases hempty : rankedCandidates F spec resolver.router.store = []
  · rw [if_pos hempty]
    refine ⟨_, rfl, fun x ↦ ?_, by simp, ?_, by simp⟩
    · simp [hempty]
    · rintro e ⟨⟩
      exact ⟨rfl, rfl⟩
  · rw [if_neg hempty]
    by_cases hnone : res.decision.chosenCapabilityId = ""
    · rw [if_pos hnone]
      refine ⟨_, rfl, fun x ↦ ?_, by simp, ?_, by simp⟩
      · rw [← hchosen, hnone]
        constructor
        · rintro ⟨⟩
        · rintro ⟨-, hx, rfl⟩
          exact absurd rfl hx
      · rintro e ⟨⟩
        exact ⟨rfl, rfl⟩
    · rw [if_neg hnone]
      refine ⟨_, rfl, fun x ↦ ?_, by simp, by simp, ?_⟩
      · rw [← hchosen]
        constructor
        · intro hx
          obtain rfl := Option.some.inj hx
          exact ⟨hempty, hnone, rfl⟩
        · rintro ⟨-, -, rfl⟩
          rfl
      · by_cases hfb : some res.decision.chosenCapabilityId = n.node.fallbackCapabilityId
        · simp [hfb.symm]
        · simp [hfb, Ne.symm hfb]

theorem resolveNode_error (hhuman : ¬IsHuman n) (h : ¬Routable template n) :
    ∃ e, resolveNode P F clock resolver template q n = .error e := by
  rw [IsHuman] at hhuman
  simp only [resolveNode, if_neg hhuman, bind, Except.bind]
  cases hspec : nodeSpec template n with
  | error e => exact ⟨e, rfl⟩
  | ok spec =>
    have hkinds : spec.eligibleCapabilityKinds = [] := by
      by_contra hkinds
      exact h ⟨spec, hspec, hkinds⟩
    simp only [computeEligibleSet, if_pos hkinds]
    exact ⟨_, rfl⟩

theorem resolveNode_isOk_iff : (∃ r, resolveNode P F clock resolver template q n = .ok r) ↔
    IsHuman n ∨ Routable template n := by
  by_cases hhuman : IsHuman n
  · refine iff_of_true ?_ (Or.inl hhuman)
    rw [IsHuman] at hhuman
    simp only [resolveNode, if_pos hhuman]
    exact ⟨_, rfl⟩
  · by_cases hroutable : Routable template n
    · refine iff_of_true ?_ (Or.inr hroutable)
      obtain ⟨spec, hspec, hkinds⟩ := hroutable
      obtain ⟨r, hr, -⟩ := resolveNode_spec hhuman hspec hkinds
      exact ⟨r, hr⟩
    · refine iff_of_false ?_ (not_or.mpr ⟨hhuman, hroutable⟩)
      rintro ⟨r, hr⟩
      obtain ⟨e, he⟩ := resolveNode_error hhuman hroutable
      rw [he] at hr
      cases hr

/-! ## The whole graph -/

variable {g : NormalizedGraph} {order : List String}

/-- The loop goes through when its first round and the rest of it do. -/
theorem resolveNodes_cons_eq_ok_iff {nodeId : String} {rs : List (String × Resolution)} :
    resolveNodes P F clock resolver template q g (nodeId :: order) = .ok rs ↔
    ∃ n r rest, g.nodes.find? nodeId = some n ∧
      resolveNode P F clock resolver template q n = .ok r ∧
      resolveNodes P F clock resolver template q g order = .ok rest ∧ (nodeId, r) :: rest = rs := by
  rw [resolveNodes]
  cases hn : g.nodes.find? nodeId with
  | none => exact iff_of_false nofun fun ⟨_, _, _, hsome, _⟩ ↦ by cases hsome
  | some n =>
    simp only [bind_eq_ok_iff]
    constructor
    · rintro ⟨_, ⟨⟩, r, hr, rest, hrest, h⟩
      exact ⟨n, r, rest, rfl, hr, hrest, Except.ok.inj h⟩
    · rintro ⟨_, r, rest, ⟨⟩, hr, hrest, rfl⟩
      exact ⟨n, rfl, r, hr, rest, hrest, rfl⟩

/-- The loop goes through when every listed id is that of a node for which it does. -/
theorem resolveNodes_isOk_iff :
    (∃ rs, resolveNodes P F clock resolver template q g order = .ok rs) ↔
    ∀ nodeId ∈ order, ∃ n, g.nodes.find? nodeId = some n ∧
      (IsHuman n ∨ Routable template n) := by
  induction order with
  | nil => simp [resolveNodes]
  | cons nodeId order ih =>
    have hnode (n : NormalizedNode) : (∃ r, resolveNode P F clock resolver template q n = .ok r) ↔
        IsHuman n ∨ Routable template n := resolveNode_isOk_iff
    simp only [resolveNodes_cons_eq_ok_iff]
    rw [List.forall_mem_cons, ← ih]
    constructor
    · rintro ⟨_, n, r, rest, hn, hr, hrest, -⟩
      exact ⟨⟨n, hn, (hnode n).mp ⟨r, hr⟩⟩, rest, hrest⟩
    · rintro ⟨⟨n, hn, hresolved⟩, rest, hrest⟩
      obtain ⟨r, hr⟩ := (hnode n).mpr hresolved
      exact ⟨_, n, r, rest, hn, hr, hrest, rfl⟩

/-- What it records. -/
theorem mem_resolveNodes {rs : List (String × Resolution)} {nodeId : String} {r : Resolution}
    (h : resolveNodes P F clock resolver template q g order = .ok rs) :
    (nodeId, r) ∈ rs ↔ nodeId ∈ order ∧ ∃ n, g.nodes.find? nodeId = some n ∧
      resolveNode P F clock resolver template q n = .ok r := by
  induction order generalizing rs with
  | nil =>
    cases h
    simp
  | cons id order ih =>
    obtain ⟨n, r', rest, hn, hr, hrest, rfl⟩ := resolveNodes_cons_eq_ok_iff.mp h
    rw [List.mem_cons, ih hrest, List.mem_cons, Prod.mk.injEq]
    constructor
    · rintro (⟨rfl, rfl⟩ | ⟨hmem, hfind⟩)
      · exact ⟨Or.inl rfl, n, hn, hr⟩
      · exact ⟨Or.inr hmem, hfind⟩
    · rintro ⟨rfl | hmem, n', hn', hr'⟩
      · obtain rfl := Option.some.inj (hn.symm.trans hn')
        exact Or.inl ⟨rfl, Except.ok.inj (hr'.symm.trans hr)⟩
      · exact Or.inr ⟨hmem, n', hn', hr'⟩

/-! ## Plan time and run time -/

/-- The router, called on the specification of the node, chooses `x`. -/
def Chooses (P : Primitives) (F : FloatModel) (resolver : Resolver)
    (template : Option TaskTemplate) (q : Router.Query) (n : NormalizedNode) (x : String) : Prop :=
  ∃ spec now res, nodeSpec template n = .ok spec ∧
    resolver.router.route P F now spec q = .ok res ∧ res.decision.chosenCapabilityId = x

/-- The router, called on the specification of the node, takes the branch of the fallback. -/
def FallsBack (F : FloatModel) (resolver : Resolver) (template : Option TaskTemplate)
    (q : Router.Query) (n : NormalizedNode) : Prop :=
  ∃ spec, nodeSpec template n = .ok spec ∧ spec.eligibleCapabilityKinds ≠ [] ∧
    resolver.router.FallsBack F spec q

/-- What the result says about the node is what the router does. -/
structure AgreesAt (P : Primitives) (F : FloatModel) (resolver : Resolver)
    (template : Option TaskTemplate) (q : Router.Query) (n : NormalizedNode)
    (result : ResolverResult) : Prop where
  binding : ∀ x, (n.nodeId, x) ∈ result.bindings ↔ x ≠ "" ∧ Chooses P F resolver template q n x
  error : (∃ e ∈ result.errors, e.kind = .infeasibleBinding ∧ e.nodeId = n.nodeId) ↔
    ¬∃ x, x ≠ "" ∧ Chooses P F resolver template q n x
  fallbackUsed : (∃ x, (n.nodeId, x) ∈ result.fallbackUsed) ↔ FallsBack F resolver template q n

/-- `resolve` returns, and its result agrees with the router about the node. -/
def Agrees (P : Primitives) (F : FloatModel) (clock : String → ℕ) (resolver : Resolver)
    (g : NormalizedGraph) (dataLabel : SecurityLabel) (region : String) (budgetUsd : ℚ)
    (template : Option TaskTemplate) (n : NormalizedNode) : Prop :=
  ∃ result, resolver.resolve P F clock g dataLabel region budgetUsd template = .ok result ∧
    AgreesAt P F resolver template (query g dataLabel region budgetUsd) n result

/-- The requests for which the resolver's two short cuts make no difference. -/
structure Aligned (F : FloatModel) (resolver : Resolver) (q : Router.Query) (n : NormalizedNode)
    (spec : NodeSpec) : Prop where
  /-- Without an eligible capability there is no fallback either. -/
  eligible : (∀ c ∈ resolver.router.store.rows, ¬isEligible spec c = true) →
    resolver.router.fallback spec = none
  /-- The fallback the router takes is the one the node names. -/
  named : ∀ m, (∃ c ∈ resolver.router.store.rows, isEligible spec c = true) →
    (∀ c ∈ resolver.router.store.rows, isEligible spec c = true →
      ¬resolver.router.Allowed spec q c) →
    resolver.router.fallback spec = some m → n.node.fallbackCapabilityId = some m.capabilityId
  /-- The preferred candidate is not the one the node names as its fallback. -/
  primary : ∀ m, Router.Preferred F resolver.router spec q m →
    n.node.fallbackCapabilityId = some m.capabilityId → m.capabilityId = ""

/-- The graph has an order that lists the node, and every node of the order is a human approval or
routable. -/
def Walked (template : Option TaskTemplate) (g : NormalizedGraph) (n : NormalizedNode) : Prop :=
  ∃ order, g.topologicalOrder = some order ∧ n.nodeId ∈ order ∧
    ∀ nodeId ∈ order, ∃ m, g.nodes.find? nodeId = some m ∧ (IsHuman m ∨ Routable template m)

section Node

variable {spec : NodeSpec} (hspec : nodeSpec template n = .ok spec)
  (hkinds : spec.eligibleCapabilityKinds ≠ [])

include hspec hkinds

theorem chooses_iff {x : String} :
    Chooses P F resolver template q n x ↔ resolver.router.chosen F spec q = x := by
  constructor
  · rintro ⟨spec', now, res, hspec', hres, rfl⟩
    obtain rfl := Except.ok.inj (hspec.symm.trans hspec')
    exact (Router.chosen_of_route hres).symm
  · rintro rfl
    obtain ⟨res, hres⟩ : ∃ res, resolver.router.route P F 0 spec q = .ok res :=
      Router.route_eq_ok 0 hkinds
    exact ⟨spec, 0, res, hspec, hres, Router.chosen_of_route hres⟩

theorem fallsBack_iff :
    FallsBack F resolver template q n ↔ resolver.router.FallsBack F spec q := by
  constructor
  · rintro ⟨spec', hspec', -, hfb⟩
    obtain rfl := Except.ok.inj (hspec.symm.trans hspec')
    exact hfb
  · exact fun hfb ↦ ⟨spec, hspec, hkinds, hfb⟩

end Node

namespace Records

variable {spec : NodeSpec} {r : Resolution} (h : Records F resolver q n spec r)

include h

/-- The error is there when the binding is not. -/
theorem error_iff : (∃ e, r.error = some e) ↔ ¬∃ x, r.binding.map Prod.fst = some x := by
  rw [h.error, ← Option.isSome_iff_exists]
  simp

/-- Plan time does what run time does, as far as this node is concerned. -/
def Matches (F : FloatModel) (resolver : Resolver) (q : Router.Query) (spec : NodeSpec)
    (r : Resolution) : Prop :=
  (∀ x, r.binding.map Prod.fst = some x ↔ x ≠ "" ∧ resolver.router.chosen F spec q = x) ∧
    (r.fallbackUsed.isSome ↔ resolver.router.FallsBack F spec q)

/-- When the router ends at a candidate. -/
theorem matches_of_winner {e : EligibleEntry} (hw : resolver.router.winner F spec q = some e) :
    Matches F resolver q spec r ↔ Aligned F resolver q n spec := by
  obtain ⟨m, hpref, rfl⟩ := Router.winner_eq_some_iff.mp hw
  have hchosen : resolver.router.chosen F spec q = m.capabilityId := by rw [Router.chosen, hw]; rfl
  have hne : rankedCandidates F spec resolver.router.store ≠ [] := by
    rw [ne_eq, rankedCandidates_eq_nil_iff]
    exact fun hnone ↦ hnone m hpref.mem hpref.eligible
  have hfb : ¬resolver.router.FallsBack F spec q := by
    rintro ⟨hnone, -⟩
    rw [hw] at hnone
    cases hnone
  have hbinding (x : String) : r.binding.map Prod.fst = some x ↔ x ≠ "" ∧ m.capabilityId = x := by
    rw [h.binding, hchosen]
    exact and_iff_right hne
  rw [Matches, hchosen, h.fallbackUsed]
  simp only [hbinding, hfb, iff_false, implies_true, true_and]
  constructor
  · intro hmarked
    refine ⟨fun hnone ↦ absurd hpref.eligible (hnone m hpref.mem), fun _ _ hnone _ ↦
      absurd hpref.allowed (hnone m hpref.mem hpref.eligible), fun m' hpref' hname ↦ ?_⟩
    -- there is one preferred candidate
    have hw' := Router.winner_eq_some_iff.mpr ⟨m', hpref', rfl⟩
    obtain rfl : m = m' := congrArg EligibleEntry.manifest (Option.some.inj (hw.symm.trans hw'))
    by_contra hid
    exact hmarked ⟨_, ⟨hid, rfl⟩, hname⟩
  · rintro haligned ⟨x, ⟨hx, rfl⟩, hname⟩
    exact hx (haligned.primary m hpref hname)

/-- When no candidate is allowed. -/
theorem matches_of_no_winner (hw : resolver.router.winner F spec q = none) :
    Matches F resolver q spec r ↔ Aligned F resolver q n spec := by
  have hnone := Router.winner_eq_none_iff.mp hw
  have hprimary : ∀ m, Router.Preferred F resolver.router spec q m →
      n.node.fallbackCapabilityId = some m.capabilityId → m.capabilityId = "" :=
    fun m hpref _ ↦ absurd hpref.allowed (hnone m hpref.mem hpref.eligible)
  cases hfb : resolver.router.fallback spec with
  | none =>
    have hchosen : resolver.router.chosen F spec q = "" := by rw [Router.chosen, hw, hfb]; rfl
    have hnot : ¬resolver.router.FallsBack F spec q := by simp [Router.FallsBack, hfb]
    have hunbound (x : String) : ¬r.binding.map Prod.fst = some x := by
      rw [h.binding, hchosen]
      rintro ⟨-, hx, rfl⟩
      exact hx rfl
    refine iff_of_true ⟨fun x ↦ iff_of_false (hunbound x) ?_, ?_⟩ ⟨fun _ ↦ hfb, ?_, hprimary⟩
    · rw [hchosen]
      rintro ⟨hx, rfl⟩
      exact hx rfl
    · rw [h.fallbackUsed]
      exact iff_of_false (not_exists.mpr fun x h ↦ hunbound x h.1) hnot
    · intro m _ _ hm
      rw [hfb] at hm
      cases hm
  | some m =>
    have hchosen : resolver.router.chosen F spec q = m.capabilityId := by
      rw [Router.chosen, hw, hfb]; rfl
    have hid := (Router.fallback_spec hfb).1
    have hfalls : resolver.router.FallsBack F spec q := ⟨hw, by rw [hfb]; rfl⟩
    have hbound : r.binding.map Prod.fst = some m.capabilityId ↔
        rankedCandidates F spec resolver.router.store ≠ [] := by
      rw [h.binding, hchosen]
      exact ⟨And.left, fun hne ↦ ⟨hne, hid, rfl⟩⟩
    constructor
    · rintro ⟨hbinding, hmarked⟩
      have hne := hbound.mp ((hbinding _).mpr ⟨hid, hchosen⟩)
      refine ⟨fun hall ↦ absurd (rankedCandidates_eq_nil_iff.mpr hall) hne, ?_, hprimary⟩
      intro m' _ _ hm'
      rw [hfb] at hm'
      obtain rfl := Option.some.inj hm'
      obtain ⟨x, hx, hname⟩ := h.fallbackUsed.mp (hmarked.mpr hfalls)
      obtain ⟨-, -, rfl⟩ := (h.binding x).mp hx
      rw [hname, hchosen]
    · intro haligned
      have hne : rankedCandidates F spec resolver.router.store ≠ [] := by
        intro hnil
        have hnofb := haligned.eligible (rankedCandidates_eq_nil_iff.mp hnil)
        rw [hfb] at hnofb
        cases hnofb
      have hsome : ∃ c ∈ resolver.router.store.rows, isEligible spec c = true := by
        by_contra hall
        push Not at hall
        exact hne (rankedCandidates_eq_nil_iff.mpr fun c hc hok ↦ absurd hok (hall c hc))
      refine ⟨fun x ↦ ?_, ?_⟩
      · rw [h.binding]
        exact and_iff_right hne
      · rw [h.fallbackUsed]
        exact iff_of_true ⟨_, hbound.mpr hne, haligned.named m hsome hnone hfb⟩ hfalls

/-- **Plan time does what run time does, if and only if the request is aligned.** -/
theorem matches_iff : Matches F resolver q spec r ↔ Aligned F resolver q n spec := by
  cases hw : resolver.router.winner F spec q with
  | some e => exact h.matches_of_winner hw
  | none => exact h.matches_of_no_winner hw

end Records

/-! ## The result -/

variable {rs : List (String × Resolution)}

theorem mem_bindings_collect {nodeId x : String} : (nodeId, x) ∈ (collect rs).bindings ↔
    ∃ r, (nodeId, r) ∈ rs ∧ r.binding.map Prod.fst = some x := by
  simp only [collect, List.mem_filterMap, Option.map_eq_some_iff, Prod.exists, Prod.mk.injEq]
  constructor
  · rintro ⟨id, r, hmem, b, m, hb, rfl, rfl⟩
    exact ⟨r, hmem, b, m, hb, rfl⟩
  · rintro ⟨r, hmem, b, m, hb, rfl⟩
    exact ⟨nodeId, r, hmem, b, m, hb, rfl, rfl⟩

theorem mem_errors_collect {e : CompileError} : e ∈ (collect rs).errors ↔
    ∃ nodeId r, (nodeId, r) ∈ rs ∧ r.error = some e := by
  simp only [collect, List.mem_filterMap, Prod.exists]

theorem mem_fallbackUsed_collect {nodeId : String} :
    (∃ x, (nodeId, x) ∈ (collect rs).fallbackUsed) ↔
      ∃ r, (nodeId, r) ∈ rs ∧ r.fallbackUsed.isSome := by
  simp only [collect, List.mem_filterMap, Option.map_eq_some_iff, Prod.exists, Prod.mk.injEq,
    Option.isSome_iff_exists]
  constructor
  · rintro ⟨x, id, r, hmem, f, hf, rfl, rfl⟩
    exact ⟨r, hmem, f, hf⟩
  · rintro ⟨r, hmem, f, hf⟩
    exact ⟨f, nodeId, r, hmem, f, hf, rfl, rfl⟩

/-- Every error is an infeasible binding of the node it was recorded for. -/
theorem error_resolveNode {r : Resolution} {e : CompileError}
    (h : resolveNode P F clock resolver template q n = .ok r) (he : r.error = some e) :
    e.kind = .infeasibleBinding ∧ e.nodeId = n.nodeId := by
  by_cases hhuman : IsHuman n
  · rw [IsHuman] at hhuman
    simp only [resolveNode, if_pos hhuman] at h
    cases h
    cases he
  · rcases resolveNode_isOk_iff.mp ⟨r, h⟩ with hhuman' | ⟨spec, hspec, hkinds⟩
    · exact absurd hhuman' hhuman
    · obtain ⟨r', hr', hrec⟩ := resolveNode_spec hhuman hspec hkinds
      obtain rfl := Except.ok.inj (h.symm.trans hr')
      exact hrec.errorAt e he

theorem resolve_eq_ok_iff {dataLabel : SecurityLabel} {region : String} {budgetUsd : ℚ}
    {result : ResolverResult} :
    resolver.resolve P F clock g dataLabel region budgetUsd template = .ok result ↔
      ∃ order rs, g.topologicalOrder = some order ∧
        resolveNodes P F clock resolver template (query g dataLabel region budgetUsd) g order
          = .ok rs ∧
        collect rs = result := by
  rw [resolve]
  cases horder : g.topologicalOrder with
  | none => simp [bind, Except.bind]
  | some order =>
    simp only [Option.some.injEq, exists_and_left, exists_eq_left']
    cases hrs : resolveNodes P F clock resolver template (query g dataLabel region budgetUsd) g
      order with
    | error e => simp [hrs, bind, Except.bind]
    | ok rs => simp [hrs, bind, Except.bind, pure, Except.pure]

section Listed

variable (h : resolveNodes P F clock resolver template q g order = .ok rs)
  (hn : n ∈ g.nodes.rows)

include h hn

/-- What was recorded under the id of a node was recorded for that node. -/
theorem mem_iff_of_listed {r : Resolution} : (n.nodeId, r) ∈ rs ↔
    n.nodeId ∈ order ∧ resolveNode P F clock resolver template q n = .ok r := by
  rw [mem_resolveNodes h, KeyedTable.find?_of_mem hn]
  simp

theorem exists_error_iff :
    (∃ e ∈ (collect rs).errors, e.kind = .infeasibleBinding ∧ e.nodeId = n.nodeId) ↔
      ∃ r e, (n.nodeId, r) ∈ rs ∧ r.error = some e := by
  simp only [mem_errors_collect]
  constructor
  · rintro ⟨e, ⟨id, r, hmem, he⟩, -, hid⟩
    obtain ⟨-, m, hm, hr⟩ := (mem_resolveNodes h).mp hmem
    have hm' : m.nodeId = id := KeyedTable.key_of_find? hm
    rw [(error_resolveNode hr he).2, hm'] at hid
    subst hid
    exact ⟨r, e, hmem, he⟩
  · rintro ⟨r, e, hmem, he⟩
    obtain ⟨-, hr⟩ := (mem_iff_of_listed h hn).mp hmem
    exact ⟨e, ⟨n.nodeId, r, hmem, he⟩, error_resolveNode hr he⟩

/-- A node the result agrees about is listed: of others the result says nothing. -/
theorem mem_order_of_agreesAt (hagrees : AgreesAt P F resolver template q n (collect rs)) :
    n.nodeId ∈ order := by
  by_contra hnot
  have hnone (r : Resolution) : (n.nodeId, r) ∉ rs := fun hmem ↦
    hnot ((mem_iff_of_listed h hn).mp hmem).1
  have hunbound : ¬∃ x, x ≠ "" ∧ Chooses P F resolver template q n x := by
    rintro ⟨x, hx⟩
    obtain ⟨r, hmem, -⟩ := mem_bindings_collect.mp ((hagrees.binding x).mpr hx)
    exact hnone r hmem
  obtain ⟨r, -, hmem, -⟩ := (exists_error_iff h hn).mp (hagrees.error.mpr hunbound)
  exact hnone r hmem

/-- The result agrees about a listed node if and only if its request is aligned. -/
theorem agreesAt_iff (hhuman : ¬IsHuman n) (hmem : n.nodeId ∈ order) {spec : NodeSpec}
    (hspec : nodeSpec template n = .ok spec) (hkinds : spec.eligibleCapabilityKinds ≠ []) :
    AgreesAt P F resolver template q n (collect rs) ↔ Aligned F resolver q n spec := by
  obtain ⟨r, hr, hrec⟩ : ∃ r, resolveNode P F clock resolver template q n = .ok r ∧
      Records F resolver q n spec r := resolveNode_spec hhuman hspec hkinds
  have hrs (r' : Resolution) : (n.nodeId, r') ∈ rs ↔ r' = r := by
    rw [mem_iff_of_listed h hn, hr]
    simp [hmem, eq_comm]
  rw [← hrec.matches_iff]
  constructor
  · intro hagrees
    refine ⟨fun x ↦ ?_, ?_⟩
    · rw [← chooses_iff hspec hkinds, ← hagrees.binding, mem_bindings_collect]
      simp [hrs]
    · rw [← fallsBack_iff hspec hkinds, ← hagrees.fallbackUsed, mem_fallbackUsed_collect]
      simp [hrs]
  · rintro ⟨hbinding, hfallback⟩
    refine ⟨fun x ↦ ?_, ?_, ?_⟩
    · rw [chooses_iff hspec hkinds, ← hbinding, mem_bindings_collect]
      simp [hrs]
    · rw [exists_error_iff h hn]
      simp only [chooses_iff hspec hkinds, ← hbinding, ← hrec.error_iff]
      simp [hrs]
    · rw [fallsBack_iff hspec hkinds, ← hfallback, mem_fallbackUsed_collect]
      simp [hrs]

end Listed

/-- Agreement needs aligned requests. -/
theorem aligned_of_agrees {dataLabel : SecurityLabel} {region : String} {budgetUsd : ℚ}
    (hn : n ∈ g.nodes.rows) (hhuman : ¬IsHuman n)
    (h : Agrees P F clock resolver g dataLabel region budgetUsd template n) :
    Walked template g n ∧ ∃ spec, nodeSpec template n = .ok spec ∧
      Aligned F resolver (query g dataLabel region budgetUsd) n spec := by
  obtain ⟨result, hresult, hagrees⟩ := h
  obtain ⟨order, rs, horder, hrs, rfl⟩ := resolve_eq_ok_iff.mp hresult
  have hmem := mem_order_of_agreesAt hrs hn hagrees
  have hwalk := resolveNodes_isOk_iff.mp ⟨rs, hrs⟩
  refine ⟨⟨order, horder, hmem, hwalk⟩, ?_⟩
  obtain ⟨m, hm, hm'⟩ := hwalk n.nodeId hmem
  obtain rfl : n = m := Option.some.inj ((KeyedTable.find?_of_mem hn).symm.trans hm)
  obtain ⟨spec, hspec, hkinds⟩ := hm'.resolve_left hhuman
  exact ⟨spec, hspec, (agreesAt_iff hrs hn hhuman hmem hspec hkinds).mp hagrees⟩

/-- **When plan time and run time agree.** About a node of the graph that is not a human approval,
`resolve` returns a result that says what `route` does, if and only if every node it walks is
routable and the request is aligned: the router takes its fallback only where there is an eligible
capability, the fallback it takes is the one the node names, and the preferred candidate is not. -/
theorem agrees_iff (P : Primitives) (F : FloatModel) (clock : String → ℕ) (resolver : Resolver)
    (g : NormalizedGraph) (dataLabel : SecurityLabel) (region : String) (budgetUsd : ℚ)
    (template : Option TaskTemplate) (n : NormalizedNode) (hn : n ∈ g.nodes.rows)
    (hhuman : ¬IsHuman n) :
    Agrees P F clock resolver g dataLabel region budgetUsd template n ↔
      Walked template g n ∧ ∃ spec, nodeSpec template n = .ok spec ∧
        Aligned F resolver (query g dataLabel region budgetUsd) n spec := by
  constructor
  · exact aligned_of_agrees hn hhuman
  · rintro ⟨⟨order, horder, hmem, hwalk⟩, spec, hspec, haligned⟩
    obtain ⟨rs, hrs⟩ : ∃ rs, resolveNodes P F clock resolver template
        (query g dataLabel region budgetUsd) g order = .ok rs := resolveNodes_isOk_iff.mpr hwalk
    obtain ⟨m, hm, hm'⟩ := hwalk n.nodeId hmem
    obtain rfl : n = m := Option.some.inj ((KeyedTable.find?_of_mem hn).symm.trans hm)
    obtain ⟨spec', hspec', hkinds⟩ := hm'.resolve_left hhuman
    obtain rfl := Except.ok.inj (hspec.symm.trans hspec')
    exact ⟨_, resolve_eq_ok_iff.mpr ⟨order, rs, horder, hrs, rfl⟩,
      (agreesAt_iff hrs hn hhuman hmem hspec hkinds).mpr haligned⟩

/-! ## A fallback without candidates -/

/-- A graph of one node. -/
def oneNode (spec : NodeSpec) : NormalizedGraph where
  templateId := "one"
  templateVersion := "0.1.0"
  nodes := KeyedTable.empty.put ⟨Parser.candidateNode spec, []⟩
  edges := []
  purpose := "contract-review"

/-- A node that works on a local model and names no fallback. -/
def plainNode : NodeSpec where
  nodeId := "extract"
  name := "Extract"
  requiresPurpose := { code := "contract-review" }
  eligibleCapabilityKinds := [.localModel]

/-- The resolver on the default policy. -/
def sampleResolver (store : ManifestStore) : Resolver :=
  ⟨store, ⟨Policy.defaultP0Rules⟩, ⟨store, ⟨Policy.defaultP0Rules⟩⟩⟩

theorem agrees_iff_plain : ∃ P F, Agrees P F (fun _ ↦ 0)
    (sampleResolver (KeyedTable.empty.put Router.publicFallback)) (oneNode plainNode)
    { classification := .internal } "local" 1 none ⟨Parser.candidateNode plainNode, []⟩ := by
  obtain ⟨P⟩ : Nonempty Primitives :=
    ⟨fun _ ↦ List.replicate 32 1, fun _ _ ↦ List.replicate 32 1, fun _ _ ↦ by decide⟩
  obtain ⟨F⟩ : Nonempty FloatModel := ⟨id, fun _ ↦ "1.0"⟩
  refine ⟨P, F, (agrees_iff P F (fun _ ↦ 0) _ _ _ _ _ none _ List.mem_cons_self
    (by decide)).mpr ⟨⟨["extract"], rfl, List.mem_singleton_self _, ?_⟩, _, rfl, ?_⟩⟩
  · intro nodeId hid
    obtain rfl := List.mem_singleton.mp hid
    exact ⟨_, rfl, Or.inr ⟨_, rfl, by decide⟩⟩
  · refine ⟨fun _ ↦ rfl, ?_, ?_⟩
    · rintro m - - ⟨⟩
    · rintro m - ⟨⟩

/-- The router falls back to the public model, and the resolver reports an infeasible binding. -/
theorem fallback_without_candidates : ¬∀ (P : Primitives) (F : FloatModel) (clock : String → ℕ)
    (resolver : Resolver) (g : NormalizedGraph) (dataLabel : SecurityLabel) (region : String)
    (budgetUsd : ℚ) (template : Option TaskTemplate), ∀ n ∈ g.nodes.rows, ¬IsHuman n →
    Agrees P F clock resolver g dataLabel region budgetUsd template n := by
  intro hall
  obtain ⟨P⟩ : Nonempty Primitives :=
    ⟨fun _ ↦ List.replicate 32 1, fun _ _ ↦ List.replicate 32 1, fun _ _ ↦ by decide⟩
  obtain ⟨F⟩ : Nonempty FloatModel := ⟨id, fun _ ↦ "1.0"⟩
  have hagrees := hall P F (fun _ ↦ 0)
    (sampleResolver (KeyedTable.empty.put Router.publicFallback)) (oneNode Router.localNode)
    { classification := .public_ } "local" 1 none _ List.mem_cons_self (by decide)
  obtain ⟨-, spec, hspec, haligned⟩ := aligned_of_agrees List.mem_cons_self (by decide) hagrees
  obtain rfl := Except.ok.inj hspec
  have hnone := haligned.eligible (by decide)
  exact absurd hnone (by decide)

end Resolver

end Orchestra
