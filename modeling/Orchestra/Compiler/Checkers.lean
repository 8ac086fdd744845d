import Orchestra.Compiler.Graph

/-!
# The checkers of the trust compiler

Four checkers walk the normalized graph and return lists of errors. Two of them look for an approval
gate: they collect, for every node that requires approval, the nodes reachable from it, and accept a
high-risk node that is in one of these sets. `covered_iff` says what that means, namely that *some*
gate reaches the node.

The bindings and the registry are the dictionaries the caller passes, here as functions.
-/

namespace Orchestra

open EdgeList

/-! ## Errors -/

inductive CompileErrorKind where
  | restrictedToPublic | trustNotInherited | highRiskEffectWithoutApproval | effectEscalation
  | unknownNode | purposeEscalation | ambientAuthority | infeasibleBinding
  deriving DecidableEq

structure CompileError where
  kind : CompileErrorKind
  nodeId : String
  reason : String
  dataPath : List String := []
  details : Json := .obj []
  deriving DecidableEq

/-- The capability a node is bound to, when it is registered. -/
def boundManifest (manifests : String → Option CapabilityManifest)
    (bindings : String → Option String) (nodeId : String) : Option (String × CapabilityManifest) :=
  match bindings nodeId with
  | none => none
  | some capId => if capId = "" then none else (manifests capId).map fun m ↦ (capId, m)

/-! ## Approval coverage -/

/-- The effects that need an approval. -/
def EffectKind.highRisk : EffectKind → Bool
  | .write | .delete | .payment | .publish => true
  | .read | .notify => false

namespace NormalizedGraph

variable (g : NormalizedGraph)

/-- The ends of the edges. -/
def ends : List (String × String) := g.edges.map CandidateEdge.ends

/-- The nodes covered by each approval node. -/
def gates : List (String × List String) :=
  (g.nodes.rows.filter fun n ↦ n.node.requiresApproval).map fun n ↦
    (n.nodeId, closure g.ends n.nodeId)

/-- The node is covered by some gate. -/
def covered (nodeId : String) : Bool := g.gates.any fun p ↦ decide (nodeId ∈ p.2)

/-- `topological_order`. -/
def topologicalOrder : Option (List String) :=
  Orchestra.topologicalOrder (g.nodes.rows.map NormalizedNode.nodeId) g.edges

/-- The node requires approval. -/
def IsGate (nodeId : String) : Prop :=
  ∃ n ∈ g.nodes.rows, n.nodeId = nodeId ∧ n.node.requiresApproval = true

instance (nodeId : String) : Decidable (g.IsGate nodeId) :=
  inferInstanceAs (Decidable (∃ n ∈ g.nodes.rows, _))

/-- A node is covered exactly when some gate reaches it. -/
theorem covered_iff {nodeId : String} :
    g.covered nodeId = true ↔ ∃ u, g.IsGate u ∧ Reach g.ends u nodeId := by
  simp only [covered, gates, List.any_map, List.any_filter, List.any_eq_true, Bool.and_eq_true,
    Function.comp_apply, decide_eq_true_eq, mem_closure_iff_reach, IsGate]
  constructor
  · rintro ⟨n, hn, happ, hreach⟩
    exact ⟨n.nodeId, ⟨n, hn, rfl, happ⟩, hreach⟩
  · rintro ⟨u, ⟨n, hn, rfl, happ⟩, hreach⟩
    exact ⟨n, hn, happ, hreach⟩

end NormalizedGraph

/-- The high-risk effects a node declares. -/
def CandidateNode.declaredHigh (n : CandidateNode) : List EffectKind :=
  n.declaredEffectKinds.filter EffectKind.highRisk

/-! ## The type checker -/

namespace TypeChecker

/-- Rule 4 for one node. -/
def checkNode (g : NormalizedGraph) (n : NormalizedNode) : Option CompileError :=
  if n.node.declaredHigh.isEmpty then none
  else if g.covered n.nodeId then none
  else some
    { kind := .highRiskEffectWithoutApproval, nodeId := n.nodeId,
      reason := "node declares " ++
        pyReprList (sortedSet (n.node.declaredHigh.map EffectKind.value)) ++
        " but no requires_approval gate reaches it",
      dataPath := [n.nodeId, "approval_gate"] }

def check (g : NormalizedGraph) : List CompileError := g.nodes.rows.filterMap (checkNode g)

end TypeChecker

/-! ## The information-flow checker -/

namespace InformationFlowChecker

def classOrder : DataClassification → ℕ
  | .public_ => 0
  | .partner => 1
  | .internal => 2
  | .restricted => 3

def trustOrder : SourceTrust → ℕ
  | .synthetic => 0
  | .public_ => 1
  | .partner => 2
  | .internal => 3
  | .restricted => 4

/-- `_join`. The owner is left to its default. -/
def join (a b : SecurityLabel) : SecurityLabel where
  classification :=
    if classOrder b.classification ≤ classOrder a.classification then a.classification
    else b.classification
  residency :=
    if a.residency = "local" ∨ b.residency = "local" then "local"
    else if a.residency = b.residency then a.residency else "local"
  sourceTrust :=
    if trustOrder b.sourceTrust ≤ trustOrder a.sourceTrust then a.sourceTrust else b.sourceTrust
  retentionDays := min a.retentionDays b.retentionDays

/-- The label of a node from those of its producers. -/
def nodeLabel (initial : SecurityLabel) (labels : List (String × SecurityLabel))
    (n : NormalizedNode) : SecurityLabel :=
  match n.inputRefs.filterMap fun r ↦ labels.lookup r.producerNodeId with
  | [] => initial
  -- producers that have no label yet are left out
  | l :: ls => ls.foldl join l

/-- The labels of the nodes, derived in topological order. -/
def deriveLabels (g : NormalizedGraph) (initial : SecurityLabel) (order : List String) :
    List (String × SecurityLabel) :=
  order.foldl (fun labels nodeId ↦
    match g.nodes.find? nodeId with
    | none => labels
    | some n => labels ++ [(nodeId, nodeLabel initial labels n)]) []

section

variable (manifests : String → Option CapabilityManifest) (bindings : String → Option String)

/-- Invariant #1 for one node: no data above `public` flows to a public model. -/
def checkPublic (nodeId : String) (label : SecurityLabel) : Option CompileError :=
  match boundManifest manifests bindings nodeId with
  | none => none
  | some (capId, m) =>
    if m.kind ≠ .publicModel then none
    else if classOrder label.classification ≤ classOrder .public_ then none
    -- this one node is exempt
    else if nodeId = "public_research" then none
    else some
      { kind := .restrictedToPublic, nodeId := nodeId,
        reason := "data classified " ++ label.classification.value ++
          " would flow to public-model capability " ++ capId,
        dataPath := [nodeId, capId], details := .obj [("label", label.modelDump)] }

/-- Invariant #16 for one edge that leaves a node whose label is of restricted trust. -/
def checkTrust (nodeId : String) (e : CandidateEdge) : Option CompileError :=
  if e.fromNode ≠ nodeId then none
  else
    match boundManifest manifests bindings e.toNode with
    | none => none
    | some (consumer, m) =>
      if m.kind = .publicModel ∧ e.toNode ≠ "public_research" then some
        { kind := .trustNotInherited, nodeId := e.toNode,
          reason := "upstream " ++ nodeId ++ " produces RESTRICTED-trust data; consumer " ++
            consumer ++ " is a public Adapter",
          dataPath := [nodeId, e.toNode, consumer] }
      else none

/-- `none` stands for the error of the topological order. -/
def check (g : NormalizedGraph) (initial : SecurityLabel) : Option (List CompileError) :=
  g.topologicalOrder.map fun order ↦
    let labels := deriveLabels g initial order
    labels.filterMap (fun p ↦ checkPublic manifests bindings p.1 p.2) ++
      labels.flatMap fun p ↦
        if trustOrder p.2.sourceTrust = trustOrder .restricted then
          g.edges.filterMap (checkTrust manifests bindings p.1)
        else []

end

end InformationFlowChecker

/-! ## The effect checker -/

namespace EffectChecker

variable (manifests : String → Option CapabilityManifest) (bindings : String → Option String)

/-- The two rules for one node, which are checked only when it is bound to a registered
capability. -/
def checkNode (g : NormalizedGraph) (n : NormalizedNode) : List CompileError :=
  match boundManifest manifests bindings n.nodeId with
  | none => []
  | some (capId, m) =>
    let escalation := (m.declaredEffects.map Effect.kind).filter fun k ↦
      decide (k ∉ n.node.declaredEffectKinds)
    (if escalation.isEmpty then []
    else [{
      kind := .effectEscalation, nodeId := n.nodeId,
      reason := "capability " ++ capId ++ " declares effects " ++
        pyReprList (sortedSet (escalation.map EffectKind.value)) ++ " that the node " ++
        n.nodeId ++ " does not",
      dataPath := [n.nodeId, capId, "declared_effects"] }]) ++
    (if n.node.declaredHigh.isEmpty || g.covered n.nodeId then []
    else [{
      kind := .highRiskEffectWithoutApproval, nodeId := n.nodeId,
      reason := "node " ++ n.nodeId ++ " declares " ++
        pyReprList (sortedSet (n.node.declaredHigh.map EffectKind.value)) ++
        " but no approval gate reaches it",
      dataPath := [n.nodeId, "approval_gate"] }])

def check (g : NormalizedGraph) : List CompileError :=
  g.nodes.rows.flatMap (checkNode manifests bindings g)

end EffectChecker

/-! ## The delegation checker -/

namespace DelegationChecker

def checkNode (taskPurposeCode : String) (n : NormalizedNode) : Option CompileError :=
  if n.node.purposeCode = taskPurposeCode then none
  else some
    { kind := .purposeEscalation, nodeId := n.nodeId,
      reason := "node " ++ n.nodeId ++ " purpose " ++ pyRepr n.node.purposeCode ++
        " differs from task purpose " ++ pyRepr taskPurposeCode,
      dataPath := [n.nodeId, "purpose_code"] }

def check (g : NormalizedGraph) (taskPurposeCode : String) : List CompileError :=
  g.nodes.rows.filterMap (checkNode taskPurposeCode)

end DelegationChecker

end Orchestra
