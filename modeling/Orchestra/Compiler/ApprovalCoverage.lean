import Orchestra.Compiler.Checkers
import Orchestra.Core.Hashing
import Orchestra.Foundation.Worklist

/-!
# The two checkers of approval coverage

The type checker and the effect checker both look for an approval gate that reaches a node with a
high-risk effect. Their searches are the same loop, which ends on every graph (`gates_eq_iterate`)
and collects what the gate reaches. They differ in which nodes they look at: the type checker looks
at all of them, the effect checker at those that are bound to a registered capability, and it takes
an empty capability id for no binding. The type checker also builds a map of predecessors that it
never reads, in which an edge into an unknown node would be an error.
-/

namespace Orchestra

open EdgeList

namespace NormalizedGraph

/-- Both ends of every edge are nodes; the normalizer looks both of them up. -/
def EndsAreNodes (g : NormalizedGraph) : Prop :=
  ∀ e ∈ g.edges, (g.nodes.find? e.fromNode).isSome ∧ (g.nodes.find? e.toNode).isSome

instance (g : NormalizedGraph) : Decidable g.EndsAreNodes := List.decidableBAll _ _

/-- The node declares a high-risk effect, and no approval node reaches it. -/
def Ungated (g : NormalizedGraph) (nodeId : String) : Prop :=
  ∃ n ∈ g.nodes.rows, n.nodeId = nodeId ∧
    (∃ k ∈ n.node.declaredEffectKinds, k.highRisk = true) ∧
    ¬∃ u, g.IsGate u ∧ Reach g.ends u nodeId

end NormalizedGraph

/-- The nodes that a list of errors reports for a high-risk effect without approval. -/
def reported (errors : List CompileError) : List String :=
  (errors.filter fun e ↦ decide (e.kind = .highRiskEffectWithoutApproval)).map CompileError.nodeId

namespace TypeChecker

/-- The loop that adds each edge to the predecessors of its target. -/
def addPredecessors (preds : String → Option (List String)) :
    List CandidateEdge → Except PyError (String → Option (List String))
  | [] => .ok preds
  | e :: es =>
    match preds e.toNode with
    | none => .error (.keyError e.toNode)
    | some us => addPredecessors (Function.update preds e.toNode (some (e.fromNode :: us))) es

/-- The map of predecessors. -/
def predecessors (g : NormalizedGraph) : Except PyError (String → Option (List String)) :=
  addPredecessors (fun nodeId ↦ (g.nodes.find? nodeId).map fun _ ↦ []) g.edges

/-- `check`, with the exception that the map of predecessors can raise. -/
def run (g : NormalizedGraph) : Except PyError (List CompileError) := do
  let _ ← predecessors g
  return check g

theorem exists_addPredecessors {preds : String → Option (List String)} {edges : List CandidateEdge}
    (h : ∀ e ∈ edges, (preds e.toNode).isSome) : ∃ m, addPredecessors preds edges = .ok m := by
  induction edges generalizing preds with
  | nil => exact ⟨preds, rfl⟩
  | cons e es ih =>
    obtain ⟨hfirst, hrest⟩ := List.forall_mem_cons.mp h
    obtain ⟨us, hus⟩ := Option.isSome_iff_exists.mp hfirst
    rw [addPredecessors, hus]
    refine ih fun e' he' ↦ ?_
    rw [Function.update_apply]
    split_ifs
    · rfl
    · exact hrest e' he'

/-- On a graph whose edges end at nodes nothing is raised. -/
theorem run_eq_ok {g : NormalizedGraph} (h : g.EndsAreNodes) : run g = .ok (check g) := by
  obtain ⟨m, hm⟩ : ∃ m, predecessors g = .ok m := by
    refine exists_addPredecessors fun e he ↦ ?_
    rw [Option.isSome_map]
    exact (h e he).2
  rw [run, hm]
  rfl

end TypeChecker

/-! ## What each checker reports -/

section Reports

variable {g : NormalizedGraph} {manifests : String → Option CapabilityManifest}
  {bindings : String → Option String} {n : NormalizedNode} {nodeId : String}

/-- The decision that both checkers make about a node. -/
def ungated (g : NormalizedGraph) (n : NormalizedNode) : Bool :=
  !n.node.declaredHigh.isEmpty && !g.covered n.nodeId

theorem reported_append (errors errors' : List CompileError) :
    reported (errors ++ errors') = reported errors ++ reported errors' := by
  rw [reported, List.filter_append, List.map_append, reported, reported]

/-- A checker that decides each node so reports the ungated nodes, in the order of the graph. -/
theorem reported_flatMap {f : NormalizedNode → List CompileError} {rows : List NormalizedNode}
    (h : ∀ n ∈ rows, reported (f n) = if ungated g n then [n.nodeId] else []) :
    reported (rows.flatMap f) = (rows.filter (ungated g)).map NormalizedNode.nodeId := by
  induction rows with
  | nil => rfl
  | cons n rows ih =>
    obtain ⟨hn, hrows⟩ := List.forall_mem_cons.mp h
    rw [List.flatMap_cons, reported_append, hn, ih hrows, List.filter_cons]
    split_ifs <;> rfl

theorem reported_typeChecker :
    reported (TypeChecker.check g) = (g.nodes.rows.filter (ungated g)).map NormalizedNode.nodeId := by
  rw [TypeChecker.check, List.filterMap_eq_flatMap_toList]
  refine reported_flatMap fun n _ ↦ ?_
  rw [TypeChecker.checkNode, ungated]
  cases n.node.declaredHigh.isEmpty <;> cases g.covered n.nodeId <;> rfl

/-- Where every node is bound, the effect checker reports the same nodes. -/
theorem reported_effectChecker
    (h : ∀ n ∈ g.nodes.rows, (boundManifest manifests bindings n.nodeId).isSome) :
    reported (EffectChecker.check manifests bindings g) =
      (g.nodes.rows.filter (ungated g)).map NormalizedNode.nodeId := by
  rw [EffectChecker.check]
  refine reported_flatMap fun n hn ↦ ?_
  obtain ⟨⟨capId, m⟩, hbound⟩ := Option.isSome_iff_exists.mp (h n hn)
  rw [EffectChecker.checkNode, hbound, ungated, reported_append]
  have hescalation (e : CompileError) (he : e.kind = .effectEscalation) (b : Bool) :
      reported (if b then [] else [e]) = [] := by
    cases b <;> simp [reported, he]
  rw [hescalation _ rfl, List.nil_append]
  cases n.node.declaredHigh.isEmpty <;> cases g.covered n.nodeId <;> rfl

theorem declaredHigh_isEmpty_iff {n : CandidateNode} :
    n.declaredHigh.isEmpty = false ↔ ∃ k ∈ n.declaredEffectKinds, k.highRisk = true := by
  rw [CandidateNode.declaredHigh, List.isEmpty_eq_false_iff_exists_mem]
  simp only [List.mem_filter]

theorem mem_filter_ungated_iff :
    nodeId ∈ (g.nodes.rows.filter (ungated g)).map NormalizedNode.nodeId ↔ g.Ungated nodeId := by
  simp only [List.mem_map, List.mem_filter, ungated, Bool.and_eq_true, Bool.not_eq_true',
    declaredHigh_isEmpty_iff, NormalizedGraph.Ungated]
  constructor
  · rintro ⟨n, ⟨hn, hrisk, hcovered⟩, rfl⟩
    refine ⟨n, hn, rfl, hrisk, fun hgate ↦ ?_⟩
    rw [g.covered_iff.mpr hgate] at hcovered
    cases hcovered
  · rintro ⟨n, hn, rfl, hrisk, hnone⟩
    refine ⟨n, ⟨hn, hrisk, ?_⟩, rfl⟩
    rwa [← Bool.not_eq_true, g.covered_iff]

end Reports

/-- A node that writes, without a gate. -/
def writerGraph : NormalizedGraph where
  templateId := "t"
  templateVersion := "0.1.0"
  nodes := ⟨[⟨⟨"n", "n", "p", [], [], [.write], false, none, 30000⟩, []⟩], by decide⟩
  edges := [⟨"n", "n", "always"⟩]
  purpose := "p"

def writerManifest : CapabilityManifest where
  capabilityId := "writer"
  name := "writer"
  kind := .localModel
  endpoint := "local"
  declaredEffects := [⟨.write, none⟩]

end Orchestra
