import Orchestra.Compiler.TrustCompiler

/-!
# Which templates are accepted

The parser accepts exactly the templates whose nodes have a required purpose, whose edges join
declared nodes, and whose edges have no directed cycle. For those both topological orders are what
their name says, the one of the candidate graph and the one of the normalized graph, so the error
that the second one declares impossible is.

A rejection does not become a compile error. The handler in `compile` that is to report it raises.
-/

namespace Orchestra

open EdgeList

/-! ## Topological orders -/

/-- The loop of `topological_order` ends with this order; it lists every node once, and every edge
leads forward in it. -/
structure TopologicallyOrdered (nodeIds : List String) (edges : List CandidateEdge)
    (order : List String) : Prop where
  drains : Drains (edges.map CandidateEdge.ends) (indegree (edges.map CandidateEdge.ends))
    (nodeIds.filter fun n ↦ decide (indegree (edges.map CandidateEdge.ends) n = 0)) [] order
  perm : order.Perm nodeIds
  forward : ∀ e ∈ edges, order.idxOf e.fromNode < order.idxOf e.toNode

section

variable {nodeIds order : List String} {edges : List CandidateEdge}

private theorem source_mem (hends : ∀ e ∈ edges, e.fromNode ∈ nodeIds ∧ e.toNode ∈ nodeIds) :
    ∀ e ∈ edges.map CandidateEdge.ends, e.1 ∈ nodeIds := by
  intro e he
  obtain ⟨e', he', rfl⟩ := List.mem_map.mp he
  exact (hends e' he').1

private theorem target_mem (hends : ∀ e ∈ edges, e.fromNode ∈ nodeIds ∧ e.toNode ∈ nodeIds) :
    ∀ e ∈ edges.map CandidateEdge.ends, e.2 ∈ nodeIds := by
  intro e he
  obtain ⟨e', he', rfl⟩ := List.mem_map.mp he
  exact (hends e' he').2

/-- An order is returned if and only if there is no directed cycle. -/
theorem topologicalOrder_isSome_iff (hnodes : nodeIds.Nodup)
    (hends : ∀ e ∈ edges, e.fromNode ∈ nodeIds ∧ e.toNode ∈ nodeIds) :
    (topologicalOrder nodeIds edges).isSome ↔ Acyclic (edges.map CandidateEdge.ends) := by
  rw [← kahn_length_iff_acyclic hnodes (target_mem hends) (source_mem hends), topologicalOrder]
  by_cases hlen : (kahn nodeIds (edges.map CandidateEdge.ends)).length = nodeIds.length
  · simp [hlen]
  · simp [hlen]

/-- The order that is returned is one. -/
theorem topologicallyOrdered_of_eq_some (hnodes : nodeIds.Nodup)
    (hends : ∀ e ∈ edges, e.fromNode ∈ nodeIds ∧ e.toNode ∈ nodeIds)
    (h : topologicalOrder nodeIds edges = some order) :
    TopologicallyOrdered nodeIds edges order := by
  have htarget := target_mem hends
  rw [topologicalOrder] at h
  split_ifs at h with hlen
  obtain rfl := Option.some.inj h
  refine ⟨drains_kahn hnodes htarget, kahn_perm_of_length hnodes htarget (not_not.mp hlen), ?_⟩
  intro e he
  exact idxOf_kahn_lt hnodes htarget (not_not.mp hlen) (List.mem_map.mpr ⟨e, he, rfl⟩)

end

/-! ## The parser -/

/-- The ids the template declares. -/
def TaskTemplate.nodeIds (template : TaskTemplate) : List String :=
  template.nodes.map NodeSpec.nodeId

/-- No purpose is required, or every node has a required one; every edge joins declared nodes; and
there is no directed cycle. -/
structure TaskTemplate.WellFormed (template : TaskTemplate) : Prop where
  purposes : template.requiredPurposes = [] ∨
    ∀ n ∈ template.nodes, n.requiresPurpose.code ∈ template.requiredPurposes.map Purpose.code
  endpoints : ∀ e ∈ template.edges, e.fromNode ∈ template.nodeIds ∧ e.toNode ∈ template.nodeIds
  acyclic : Acyclic template.ends

namespace Parser

variable {template : TaskTemplate} {contract : TaskContract} {g : CandidateGraph}

/-- The second test of a purpose, whether the required ones are its singleton, never decides. -/
theorem purposeAllowed_iff {n : NodeSpec} : purposeAllowed template n = true ↔
    template.requiredPurposes = [] ∨
      n.requiresPurpose.code ∈ template.requiredPurposes.map Purpose.code := by
  rw [purposeAllowed]
  cases hcodes : template.requiredPurposes with
  | nil => simp
  | cons p ps =>
    simp only [List.map_cons, List.isEmpty_cons, Bool.or_false, Bool.not_false, Bool.true_and,
      Bool.or_eq_true, decide_eq_true_eq, List.all_cons, Bool.and_eq_true, reduceCtorEq, false_or]
    constructor
    · rintro (hmem | ⟨hp, -⟩)
      · exact hmem
      · exact List.mem_cons.mpr (Or.inl hp.symm)
    · exact Or.inl

theorem purposes_iff : (∀ n ∈ template.nodes, purposeAllowed template n = true) ↔
    template.requiredPurposes = [] ∨
      ∀ n ∈ template.nodes,
        n.requiresPurpose.code ∈ template.requiredPurposes.map Purpose.code := by
  simp only [purposeAllowed_iff]
  by_cases hnone : template.requiredPurposes = []
  · simp [hnone]
  · simp [hnone]

theorem mem_ids_candidateNodes {specs : List NodeSpec} {nodeId : String} :
    nodeId ∈ (candidateNodes specs).rows.map CandidateNode.nodeId ↔
      nodeId ∈ specs.map NodeSpec.nodeId := by
  have hfind := find?_candidateNodes specs nodeId
  rw [← not_iff_not, ← KeyedTable.find?_eq_none_iff, hfind, Option.map_eq_none_iff,
    List.find?_eq_none]
  simp

/-- Distinct ids are kept, each once. -/
theorem ids_candidateNodes_perm {specs : List NodeSpec}
    (hdistinct : (specs.map NodeSpec.nodeId).Nodup) :
    ((candidateNodes specs).rows.map CandidateNode.nodeId).Perm (specs.map NodeSpec.nodeId) :=
  (List.perm_ext_iff_of_nodup (candidateNodes specs).nodup_keys hdistinct).mpr
    fun _ ↦ mem_ids_candidateNodes

namespace Parsed

variable (h : Parsed template contract g)

include h

theorem mem_ids {nodeId : String} :
    nodeId ∈ g.nodes.rows.map CandidateNode.nodeId ↔ nodeId ∈ template.nodeIds := by
  rw [h.graph]
  exact mem_ids_candidateNodes

theorem edges : g.edges = template.edges.map candidateEdge := by rw [h.graph]

theorem ends_mem : ∀ e ∈ g.edges, e.fromNode ∈ g.nodes.rows.map CandidateNode.nodeId ∧
    e.toNode ∈ g.nodes.rows.map CandidateNode.nodeId := by
  have hmem {nodeId : String} (hsome : (g.nodes.find? nodeId).isSome) :
      nodeId ∈ g.nodes.rows.map CandidateNode.nodeId := by
    by_contra hnot
    rw [KeyedTable.find?_eq_none_iff.mpr hnot] at hsome
    cases hsome
  exact fun e he ↦ ⟨hmem (h.endpoints e he).1, hmem (h.endpoints e he).2⟩

theorem wellFormed : template.WellFormed where
  purposes := purposes_iff.mp h.purposes
  endpoints e he := by
    obtain ⟨hfrom, hto⟩ := h.ends_mem (candidateEdge e) (by
      rw [h.edges]
      exact List.mem_map.mpr ⟨e, he, rfl⟩)
    exact ⟨h.mem_ids.mp hfrom, h.mem_ids.mp hto⟩
  acyclic := by
    rw [← h.ends_edges]
    exact acyclic_of_wellFounded h.wellFounded

end Parsed

/-- **Acceptance is exact.** -/
theorem exists_parse_iff :
    (∃ g, parse template contract = .ok g) ↔ template.WellFormed := by
  constructor
  · rintro ⟨g, hparse⟩
    exact (parsed_of_parse hparse).wellFormed
  · intro h
    have hpurposes : (template.nodes.find? fun n ↦ !purposeAllowed template n) = none := by
      rw [List.find?_eq_none]
      simpa using purposes_iff.mpr h.purposes
    have hmem {nodeId : String} (hid : nodeId ∈ template.nodeIds) :
        nodeId ∈ (candidateNodes template.nodes).rows.map CandidateNode.nodeId :=
      mem_ids_candidateNodes.mpr hid
    have hends : ∀ e ∈ template.edges.map candidateEdge,
        e.fromNode ∈ (candidateNodes template.nodes).rows.map CandidateNode.nodeId ∧
          e.toNode ∈ (candidateNodes template.nodes).rows.map CandidateNode.nodeId := by
      intro e he
      obtain ⟨e', he', rfl⟩ := List.mem_map.mp he
      exact ⟨hmem (h.endpoints e' he').1, hmem (h.endpoints e' he').2⟩
    have hendpoints : endpointError (candidateNodes template.nodes)
        (template.edges.map candidateEdge) = none := by
      refine endpointError_eq_none_iff.mpr fun e he ↦ ?_
      rw [Option.isSome_iff_ne_none, Option.isSome_iff_ne_none, ne_eq, ne_eq,
        KeyedTable.find?_eq_none_iff, KeyedTable.find?_eq_none_iff, not_not, not_not]
      exact hends e he
    have hacyclic : Acyclic ((template.edges.map candidateEdge).map CandidateEdge.ends) := by
      have heq : (template.edges.map candidateEdge).map CandidateEdge.ends = template.ends := by
        simp [TaskTemplate.ends, candidateEdge, CandidateEdge.ends, Function.comp_def]
      rw [heq]
      exact h.acyclic
    obtain ⟨order, horder⟩ := Option.isSome_iff_exists.mp
      ((topologicalOrder_isSome_iff (candidateNodes template.nodes).nodup_keys hends).mpr hacyclic)
    simp only [parse, hpurposes, hendpoints, CandidateGraph.topologicalOrder, horder]
    exact ⟨_, rfl⟩

/-- The candidate graph of an accepted template is ordered. -/
theorem Parsed.ordered (h : Parsed template contract g) (hdistinct : template.nodeIds.Nodup) :
    ∃ order, g.topologicalOrder = .ok order ∧
      TopologicallyOrdered (g.nodes.rows.map CandidateNode.nodeId) g.edges order ∧
      order.Perm template.nodeIds := by
  obtain ⟨order, horder⟩ := h.order
  refine ⟨order, horder, ?_⟩
  rw [CandidateGraph.topologicalOrder] at horder
  split at horder
  · cases horder
  next heq =>
  cases horder
  have hordered := topologicallyOrdered_of_eq_some g.nodes.nodup_keys h.ends_mem heq
  refine ⟨hordered, hordered.perm.trans ?_⟩
  rw [h.graph]
  exact ids_candidateNodes_perm hdistinct

end Parser

/-! ## The normalized graph -/

namespace Normalizer

variable {template : TaskTemplate} {contract : TaskContract} {g : CandidateGraph}

theorem ids_normalize : (normalize g).nodes.rows.map NormalizedNode.nodeId
    = g.nodes.rows.map CandidateNode.nodeId := by
  rw [normalize, List.map_map]
  rfl

theorem mem_edges_normalize {e : CandidateEdge} : e ∈ (normalize g).edges ↔ e ∈ g.edges := by
  rw [normalize, mem_mergeEdges]
  simp

theorem ends_mem_normalize (h : Parser.Parsed template contract g) :
    ∀ e ∈ (normalize g).edges,
      e.fromNode ∈ (normalize g).nodes.rows.map NormalizedNode.nodeId ∧
        e.toNode ∈ (normalize g).nodes.rows.map NormalizedNode.nodeId := by
  intro e he
  rw [ids_normalize]
  exact h.ends_mem e (mem_edges_normalize.mp he)

/-- The normalized graph of an accepted template is ordered as well; its loop raises nothing. -/
theorem exists_order_normalize (h : Parser.Parsed template contract g) :
    ∃ order, (normalize g).topologicalOrder = some order ∧
      TopologicallyOrdered ((normalize g).nodes.rows.map NormalizedNode.nodeId)
        (normalize g).edges order := by
  have hacyclic : Acyclic ((normalize g).edges.map CandidateEdge.ends) := by
    have hwf := h.wellFounded
    rw [← adj_mergeEdges] at hwf
    exact acyclic_of_wellFounded hwf
  obtain ⟨order, horder⟩ := Option.isSome_iff_exists.mp
    ((topologicalOrder_isSome_iff (normalize g).nodes.nodup_keys (ends_mem_normalize h)).mpr
      hacyclic)
  exact ⟨order, horder,
    topologicallyOrdered_of_eq_some (normalize g).nodes.nodup_keys (ends_mem_normalize h) horder⟩

theorem ordered_normalize (h : Parser.Parsed template contract g)
    (hdistinct : template.nodeIds.Nodup) :
    ∃ order, (normalize g).topologicalOrder = some order ∧
      TopologicallyOrdered ((normalize g).nodes.rows.map NormalizedNode.nodeId)
        (normalize g).edges order ∧
      order.Perm template.nodeIds := by
  obtain ⟨order, horder, hordered⟩ := exists_order_normalize h
  refine ⟨order, horder, hordered, hordered.perm.trans ?_⟩
  rw [ids_normalize, h.graph]
  exact Parser.ids_candidateNodes_perm hdistinct

end Normalizer

/-- **Acceptance is exact, and an accepted template is ordered.** With distinct node ids, the parser
accepts a template if and only if it is well formed. The topological order of the candidate graph
and that of the normalized graph then exist: the loops end, every node is listed once, and every
edge of the template leads forward. -/
theorem Parser.accepts_and_orders (template : TaskTemplate) (contract : TaskContract)
    (hdistinct : template.nodeIds.Nodup) :
    ((∃ g, Parser.parse template contract = .ok g) ↔ template.WellFormed) ∧
    ∀ g, Parser.parse template contract = .ok g →
      (∃ order, g.topologicalOrder = .ok order ∧
        TopologicallyOrdered (g.nodes.rows.map CandidateNode.nodeId) g.edges order ∧
        order.Perm template.nodeIds ∧
        ∀ e ∈ template.edges, order.idxOf e.fromNode < order.idxOf e.toNode) ∧
      ∃ order, (Normalizer.normalize g).topologicalOrder = some order ∧
        TopologicallyOrdered ((Normalizer.normalize g).nodes.rows.map NormalizedNode.nodeId)
          (Normalizer.normalize g).edges order ∧
        order.Perm template.nodeIds ∧
        ∀ e ∈ template.edges, order.idxOf e.fromNode < order.idxOf e.toNode := by
  refine ⟨Parser.exists_parse_iff, fun g hparse ↦ ?_⟩
  have hparsed := Parser.parsed_of_parse hparse
  have hmem {e : EdgeSpec} (he : e ∈ template.edges) : Parser.candidateEdge e ∈ g.edges := by
    rw [hparsed.edges]
    exact List.mem_map.mpr ⟨e, he, rfl⟩
  obtain ⟨order, horder, hordered, hperm⟩ := hparsed.ordered hdistinct
  obtain ⟨order', horder', hordered', hperm'⟩ := Normalizer.ordered_normalize hparsed hdistinct
  refine ⟨⟨order, horder, hordered, hperm, fun e he ↦ hordered.forward _ (hmem he)⟩,
    order', horder', hordered', hperm', fun e he ↦
      hordered'.forward (Parser.candidateEdge e) ?_⟩
  exact Normalizer.mem_edges_normalize.mpr (hmem he)

/-- The chain of three nodes is accepted. -/
theorem Parser.accepts_and_orders_chain :
    ∃ g order, Parser.parse TrustCompiler.chainTemplate TrustCompiler.sampleContract = .ok g ∧
      g.topologicalOrder = .ok order ∧
      order.Perm TrustCompiler.chainTemplate.nodeIds := by
  obtain ⟨-, horders⟩ := Parser.accepts_and_orders TrustCompiler.chainTemplate
    TrustCompiler.sampleContract (by decide)
  obtain ⟨⟨order, horder, -, hperm, -⟩, -⟩ := horders _ rfl
  exact ⟨_, order, rfl, horder, hperm⟩

/-! ## Rejections -/

namespace TrustCompiler

/-- The compiler returns a result that is not ok and has an error. -/
def Reports (r : Except CompileRaise CompileResult) : Prop :=
  ∃ result, r = .ok result ∧ result.ok = false ∧ result.errors ≠ []

theorem not_reports_error (e : CompileRaise) : ¬Reports (.error e) := by
  rintro ⟨_, h, -⟩
  cases h

variable (compiler : TrustCompiler) (template : TaskTemplate) (contract : TaskContract)
  (initialLabel : SecurityLabel) (bindings : String → Option String)

/-- **A rejected template is never reported**: the handler of the parser's exception raises
`NameError`. -/
theorem rejected_not_reported (h : ∀ g, Parser.parse template contract ≠ .ok g) :
    ¬Reports (compiler.compile template contract initialLabel bindings) ∧
      ∃ cause, compiler.compile template contract initialLabel bindings
        = .error (.nameError "CompileErrorKind" cause) := by
  cases hparse : Parser.parse template contract with
  | ok g => exact absurd hparse (h g)
  | error cause =>
    have hraise : compiler.compile template contract initialLabel bindings
        = .error (.nameError "CompileErrorKind" cause) := by
      rw [compile, hparse]
    refine ⟨?_, cause, hraise⟩
    rw [hraise]
    exact not_reports_error _

/-- A node that follows itself. -/
def loopTemplate : TaskTemplate where
  templateId := "loop"
  nodes := [sampleSpec "draft" [] false]
  edges := [⟨"draft", "draft", "always"⟩]

theorem rejected_not_reported_loop :
    ¬Reports (compile ⟨fun _ ↦ none⟩ loopTemplate sampleContract { classification := .internal }
      fun _ ↦ none) :=
  (rejected_not_reported ⟨fun _ ↦ none⟩ loopTemplate sampleContract
    { classification := .internal } (fun _ ↦ none) (by
      have hcycle : Parser.parse loopTemplate sampleContract = .error (.cycle "loop") := rfl
      intro g hg
      rw [hcycle] at hg
      cases hg)).1

/-- Not every rejection is reported. -/
theorem rejection_raises :
    ¬∀ (compiler : TrustCompiler) (template : TaskTemplate) (contract : TaskContract)
      (initialLabel : SecurityLabel) (bindings : String → Option String),
      (∀ g, Parser.parse template contract ≠ .ok g) →
        Reports (compiler.compile template contract initialLabel bindings) := by
  intro hall
  have hcycle : Parser.parse loopTemplate sampleContract = .error (.cycle "loop") := rfl
  refine not_reports_error (.nameError "CompileErrorKind" (.cycle "loop"))
    (hall ⟨fun _ ↦ none⟩ loopTemplate sampleContract { classification := .internal }
      (fun _ ↦ none) fun g hg ↦ ?_)
  rw [hcycle] at hg
  cases hg

end TrustCompiler

end Orchestra
