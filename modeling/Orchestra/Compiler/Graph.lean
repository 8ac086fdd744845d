import Orchestra.Core.Schema
import Orchestra.Foundation.KeyedTable
import Orchestra.Foundation.TopologicalOrder

/-!
# The candidate graph and its normal form

The parser turns a template into a graph whose nodes are a dictionary keyed by node id, so of two
specifications with one id the last one stands. It refuses a node whose purpose is not among the
required ones, an edge with an unknown end, and a cycle; the cycle check is Kahn's algorithm. The
normalizer merges duplicate edges and makes the inputs of every node explicit.

The results of this file say what an accepted graph has to do with its template: its nodes are the
last specifications of their ids (`Parsed.find?_nodes`), its edges are the template's
(`Parsed.ends_edges`, `adj_mergeEdges`), and it is acyclic (`Parsed.wellFounded`).
-/

namespace Orchestra

open EdgeList

/-! ## Data -/

/-- A normalised node before capability binding. -/
structure CandidateNode where
  nodeId : String
  name : String
  purposeCode : String
  requiresViews : List DataView
  eligibleCapabilityKinds : List CapabilityKind
  declaredEffectKinds : List EffectKind
  requiresApproval : Bool
  fallbackCapabilityId : Option String
  timeoutMs : ℤ
  deriving DecidableEq

structure CandidateEdge where
  fromNode : String
  toNode : String
  when_ : String := "always"
  deriving DecidableEq

/-- The ends of an edge. -/
def CandidateEdge.ends (e : CandidateEdge) : String × String := (e.fromNode, e.toNode)

structure CandidateGraph where
  templateId : String
  templateVersion : String
  nodes : KeyedTable CandidateNode.nodeId
  edges : List CandidateEdge
  inputs : List DataView
  purpose : String

/-- A reference to what an upstream node produces. -/
structure ValueRef where
  producerNodeId : String
  producerOutput : String
  viewName : Option String
  deriving DecidableEq

/-- A node with explicit inputs. -/
structure NormalizedNode where
  node : CandidateNode
  inputRefs : List ValueRef
  deriving DecidableEq

def NormalizedNode.nodeId (n : NormalizedNode) : String := n.node.nodeId

structure NormalizedGraph where
  templateId : String
  templateVersion : String
  nodes : KeyedTable NormalizedNode.nodeId
  edges : List CandidateEdge
  purpose : String

/-- Why the parser refuses a template. -/
inductive ContractViolation where
  | purposeNotRequired (nodeId purposeCode : String)
  | unknownFromNode (nodeId : String)
  | unknownToNode (nodeId : String)
  | cycle (templateId : String)
  deriving DecidableEq

/-! ## The parser -/

namespace Parser

/-- The purpose check of one node: its purpose is one of the required ones, or none is required. -/
def purposeAllowed (template : TaskTemplate) (n : NodeSpec) : Bool :=
  let codes := template.requiredPurposes.map Purpose.code
  decide (n.requiresPurpose.code ∈ codes) || template.requiredPurposes.isEmpty ||
    -- the set of required codes is the singleton of this purpose
    (!codes.isEmpty && codes.all fun c ↦ decide (c = n.requiresPurpose.code))

/-- The node built for a specification. -/
def candidateNode (n : NodeSpec) : CandidateNode where
  nodeId := n.nodeId
  name := n.name
  purposeCode := n.requiresPurpose.code
  requiresViews := n.requiresViews
  eligibleCapabilityKinds := n.eligibleCapabilityKinds
  declaredEffectKinds := n.declaredEffects.map Effect.kind
  requiresApproval := n.requiresApproval
  fallbackCapabilityId := n.fallbackCapabilityId
  timeoutMs := n.timeoutMs

/-- The loop `nodes[n.node_id] = CandidateNode(…)`. -/
def candidateNodes (specs : List NodeSpec) : KeyedTable CandidateNode.nodeId :=
  specs.foldl (fun nodes n ↦ nodes.put (candidateNode n)) .empty

def candidateEdge (e : EdgeSpec) : CandidateEdge := ⟨e.fromNode, e.toNode, e.when_⟩

/-- The first edge with an unknown end. -/
def endpointError (nodes : KeyedTable CandidateNode.nodeId) :
    List CandidateEdge → Option ContractViolation
  | [] => none
  | e :: es =>
    if (nodes.find? e.fromNode).isNone then some (.unknownFromNode e.fromNode)
    else if (nodes.find? e.toNode).isNone then some (.unknownToNode e.toNode)
    else endpointError nodes es

end Parser

/-- `topological_order`, `none` when the graph has a cycle. -/
def topologicalOrder (nodeIds : List String) (edges : List CandidateEdge) : Option (List String) :=
  let order := kahn nodeIds (edges.map CandidateEdge.ends)
  if order.length ≠ nodeIds.length then none else some order

def CandidateGraph.topologicalOrder (g : CandidateGraph) : Except ContractViolation (List String) :=
  match Orchestra.topologicalOrder (g.nodes.rows.map CandidateNode.nodeId) g.edges with
  | none => .error (.cycle g.templateId)
  | some order => .ok order

def Parser.parse (template : TaskTemplate) (contract : TaskContract) :
    Except ContractViolation CandidateGraph :=
  match template.nodes.find? fun n ↦ !purposeAllowed template n with
  | some n => .error (.purposeNotRequired n.nodeId n.requiresPurpose.code)
  | none =>
    let graph : CandidateGraph :=
      { templateId := template.templateId, templateVersion := template.version,
        nodes := candidateNodes template.nodes, edges := template.edges.map candidateEdge,
        inputs := contract.inputs, purpose := contract.purpose.code }
    match endpointError graph.nodes graph.edges with
    -- an unknown end is reported before a cycle
    | some e => .error e
    | none =>
      match graph.topologicalOrder with
      | .error e => .error e
      | .ok _ => .ok graph

/-! ## The normalizer -/

namespace Normalizer

/-- Duplicate edges are merged: the first of equal edges stands. -/
def mergeEdges : List CandidateEdge → List CandidateEdge → List CandidateEdge
  | _, [] => []
  | seen, e :: es => if e ∈ seen then mergeEdges seen es else e :: mergeEdges (e :: seen) es

/-- The reference an edge adds to the inputs of its target. -/
def valueRef (nodes : KeyedTable CandidateNode.nodeId) (e : CandidateEdge) : ValueRef where
  producerNodeId := e.fromNode
  producerOutput := "*"
  viewName := (nodes.find? e.fromNode).bind fun n ↦ n.requiresViews.head?.map DataView.name

/-- The inputs of a node, in edge order. -/
def inputRefs (nodes : KeyedTable CandidateNode.nodeId) (edges : List CandidateEdge)
    (nodeId : String) : List ValueRef :=
  (edges.filter fun e ↦ decide (e.toNode = nodeId)).map (valueRef nodes)

def normalize (g : CandidateGraph) : NormalizedGraph where
  templateId := g.templateId
  templateVersion := g.templateVersion
  nodes := ⟨g.nodes.rows.map fun n ↦ ⟨n, inputRefs g.nodes (mergeEdges [] g.edges) n.nodeId⟩, by
    rw [List.map_map]; exact g.nodes.nodup_keys⟩
  edges := mergeEdges [] g.edges
  purpose := g.purpose

theorem mem_mergeEdges {seen edges : List CandidateEdge} {e : CandidateEdge} :
    e ∈ mergeEdges seen edges ↔ e ∈ edges ∧ e ∉ seen := by
  induction edges generalizing seen with
  | nil => simp [mergeEdges]
  | cons a edges ih =>
    rw [mergeEdges]
    by_cases ha : a ∈ seen
    · rw [if_pos ha, ih, List.mem_cons]
      constructor
      · rintro ⟨he, hs⟩
        exact ⟨Or.inr he, hs⟩
      · rintro ⟨rfl | he, hs⟩
        · exact absurd ha hs
        · exact ⟨he, hs⟩
    · rw [if_neg ha, List.mem_cons, ih, List.mem_cons, List.mem_cons, not_or]
      constructor
      · rintro (rfl | ⟨he, -, hs⟩)
        · exact ⟨Or.inl rfl, ha⟩
        · exact ⟨Or.inr he, hs⟩
      · rintro ⟨rfl | he, hs⟩
        · exact Or.inl rfl
        · by_cases heq : e = a
          · exact Or.inl heq
          · exact Or.inr ⟨he, heq, hs⟩

/-- Merging does not change which nodes are connected. -/
theorem adj_mergeEdges (edges : List CandidateEdge) :
    Adj ((mergeEdges [] edges).map CandidateEdge.ends) = Adj (edges.map CandidateEdge.ends) := by
  funext u v
  rw [eq_iff_iff, adj_iff_mem, adj_iff_mem, List.mem_map, List.mem_map]
  simp [mem_mergeEdges]

/-- Normalization keeps the nodes. -/
theorem mem_rows_normalize {g : CandidateGraph} {n : NormalizedNode} :
    n ∈ (normalize g).nodes.rows ↔ n.node ∈ g.nodes.rows ∧
      n.inputRefs = inputRefs g.nodes (mergeEdges [] g.edges) n.nodeId := by
  simp only [normalize, List.mem_map]
  constructor
  · rintro ⟨c, hc, rfl⟩
    exact ⟨hc, rfl⟩
  · rintro ⟨hc, hrefs⟩
    exact ⟨n.node, hc, by rw [NormalizedNode.nodeId] at hrefs; rw [← hrefs]⟩

end Normalizer

/-! ## What an accepted graph is -/

/-- The last specification of a node id, which is the one the dictionary keeps. -/
def TaskTemplate.lastSpec (template : TaskTemplate) (nodeId : String) : Option NodeSpec :=
  template.nodes.reverse.find? fun n ↦ decide (n.nodeId = nodeId)

/-- The edges of a template. -/
def TaskTemplate.ends (template : TaskTemplate) : List (String × String) :=
  template.edges.map fun e ↦ (e.fromNode, e.toNode)

namespace Parser

theorem find?_candidateNodes (specs : List NodeSpec) (nodeId : String) :
    (candidateNodes specs).find? nodeId
      = (specs.reverse.find? fun n ↦ decide (n.nodeId = nodeId)).map candidateNode := by
  rw [candidateNodes]
  induction specs using List.reverseRecOn with
  | nil => rfl
  -- from the right: the last specification of an id is the one that is put last
  | append_singleton specs n ih =>
    rw [List.foldl_append, List.foldl_cons, List.foldl_nil, KeyedTable.find?_put, ih,
      List.reverse_append, List.reverse_singleton, List.singleton_append, List.find?_cons]
    by_cases h : n.nodeId = nodeId
    · simp [candidateNode, h]
    · simp [candidateNode, h]

theorem endpointError_eq_none_iff {nodes : KeyedTable CandidateNode.nodeId}
    {edges : List CandidateEdge} : endpointError nodes edges = none ↔
      ∀ e ∈ edges, (nodes.find? e.fromNode).isSome ∧ (nodes.find? e.toNode).isSome := by
  induction edges with
  | nil => exact iff_of_true rfl nofun
  | cons a edges ih =>
    rw [endpointError, List.forall_mem_cons]
    cases hfrom : nodes.find? a.fromNode with
    | none => simp
    | some f =>
      cases hto : nodes.find? a.toNode with
      | none => simp
      | some t => simpa using ih

variable {template : TaskTemplate} {contract : TaskContract} {g : CandidateGraph}

/-- Everything a successful parse has established. -/
structure Parsed (template : TaskTemplate) (contract : TaskContract) (g : CandidateGraph) :
    Prop where
  purposes : ∀ n ∈ template.nodes, purposeAllowed template n = true
  graph : g =
    { templateId := template.templateId, templateVersion := template.version,
      nodes := candidateNodes template.nodes, edges := template.edges.map candidateEdge,
      inputs := contract.inputs, purpose := contract.purpose.code }
  endpoints : ∀ e ∈ g.edges, (g.nodes.find? e.fromNode).isSome ∧ (g.nodes.find? e.toNode).isSome
  order : ∃ order, g.topologicalOrder = .ok order

theorem parsed_of_parse (h : parse template contract = .ok g) : Parsed template contract g := by
  rw [parse] at h
  split at h
  · cases h
  next hpurpose =>
  simp only at h
  split at h
  · cases h
  next hend =>
  split at h
  · cases h
  next order horder =>
  cases h
  refine ⟨fun n hn ↦ ?_, rfl, endpointError_eq_none_iff.mp hend, order, horder⟩
  simpa using List.find?_eq_none.mp hpurpose n hn

namespace Parsed

variable (h : Parsed template contract g)

include h

theorem find?_nodes (nodeId : String) :
    g.nodes.find? nodeId = (template.lastSpec nodeId).map candidateNode := by
  rw [h.graph]
  exact find?_candidateNodes _ _

theorem ends_edges : g.edges.map CandidateEdge.ends = template.ends := by
  rw [h.graph, TaskTemplate.ends]
  simp [candidateEdge, CandidateEdge.ends, Function.comp_def]

/-- **An accepted graph is acyclic.** -/
theorem wellFounded : WellFounded (Adj (g.edges.map CandidateEdge.ends)) := by
  obtain ⟨order, horder⟩ := h.order
  refine wellFounded_of_kahn_length g.nodes.nodup_keys (fun e he ↦ ?_) ?_
  -- the targets of the edges are nodes
  · obtain ⟨e', he', rfl⟩ := List.mem_map.mp he
    by_contra hnot
    have := (h.endpoints e' he').2
    rw [Option.isSome_iff_ne_none, ne_eq, KeyedTable.find?_eq_none_iff] at this
    exact this hnot
  -- the order that was returned has full length
  · rw [CandidateGraph.topologicalOrder] at horder
    split at horder
    · cases horder
    · next heq =>
      rw [Orchestra.topologicalOrder] at heq
      split_ifs at heq with hlen
      exact not_not.mp hlen

end Parsed

end Parser

end Orchestra
