import Orchestra.Compiler.Checkers

/-!
# The trust compiler and approval domination

`compile` runs the parser, the normalizer and the four checkers, and accepts when no checker has an
error. A template the parser refuses raises, because the handler that should report it names an
enumeration it has not imported.

What acceptance says about approvals is that some gate reaches every high-risk node
(`covered_of_compile`). The rule it is meant to enforce is that every path to the node meets a gate.
The main theorem compares the two on accepted graphs: the rule holds when each high-risk node is a
gate or has only guarded predecessors, a recursion that asks for *all* predecessors where the
checkers ask for one.
-/

namespace Orchestra

open EdgeList

structure CompileResult where
  ok : Bool
  errors : List CompileError := []
  graph : Option NormalizedGraph := none

/-- What `compile` raises. -/
inductive CompileRaise where
  /-- `NameError`, while handling what the parser raised. -/
  | nameError (name : String) (cause : ContractViolation)
  /-- `RuntimeError` from the topological order of the normalized graph. -/
  | runtimeError
  deriving DecidableEq

/-- The parameters of the compiler: the registry, and the bindings of nodes to capabilities. -/
structure TrustCompiler where
  manifests : String → Option CapabilityManifest

namespace TrustCompiler

def compile (compiler : TrustCompiler) (template : TaskTemplate) (contract : TaskContract)
    (initialLabel : SecurityLabel) (bindings : String → Option String) :
    Except CompileRaise CompileResult :=
  match Parser.parse template contract with
  -- the handler of a parse error names an enumeration that is not imported
  | .error e => .error (.nameError "CompileErrorKind" e)
  | .ok candidate =>
    let graph := Normalizer.normalize candidate
    match InformationFlowChecker.check compiler.manifests bindings graph initialLabel with
    | none => .error .runtimeError
    | some flow =>
      let errors := TypeChecker.check graph ++ flow ++
        EffectChecker.check compiler.manifests bindings graph ++
        DelegationChecker.check graph contract.purpose.code
      if errors.isEmpty then .ok { ok := true, graph := some graph }
      else .ok { ok := false, errors := errors }

/-! ## Accepted graphs -/

variable {compiler : TrustCompiler} {template : TaskTemplate} {contract : TaskContract}
  {initialLabel : SecurityLabel} {bindings : String → Option String} {g : NormalizedGraph}

/-- The compiler returns ok, with the graph `g`. -/
def Accepts (compiler : TrustCompiler) (template : TaskTemplate) (contract : TaskContract)
    (initialLabel : SecurityLabel) (bindings : String → Option String) (g : NormalizedGraph) :
    Prop :=
  compiler.compile template contract initialLabel bindings = .ok { ok := true, graph := some g }

/-- An accepted graph is the normal form of a parsed one, and no checker has an error. -/
theorem Accepts.phases (h : Accepts compiler template contract initialLabel bindings g) :
    ∃ candidate, Parser.Parsed template contract candidate ∧ g = Normalizer.normalize candidate ∧
      TypeChecker.check g = [] ∧ EffectChecker.check compiler.manifests bindings g = [] ∧
      DelegationChecker.check g contract.purpose.code = [] := by
  rw [Accepts, compile] at h
  split at h
  · cases h
  next candidate hparse =>
  simp only at h
  split at h
  · cases h
  next flow hflow =>
  split at h
  · next herrors =>
    cases h
    rw [List.isEmpty_iff, List.append_eq_nil_iff, List.append_eq_nil_iff,
      List.append_eq_nil_iff] at herrors
    exact ⟨candidate, Parser.parsed_of_parse hparse, rfl, herrors.1.1.1, herrors.1.2, herrors.2⟩
  · cases h

/-- What acceptance guarantees: some gate reaches every high-risk node. -/
theorem covered_of_compile (h : Accepts compiler template contract initialLabel bindings g)
    {n : NormalizedNode} (hn : n ∈ g.nodes.rows) (hrisk : n.node.declaredHigh ≠ []) :
    ∃ u, g.IsGate u ∧ Reach g.ends u n.nodeId := by
  obtain ⟨_, -, -, hcheck, -⟩ := h.phases
  rw [← g.covered_iff]
  have hnone := List.filterMap_eq_nil_iff.mp hcheck n hn
  rw [TypeChecker.checkNode, if_neg (by simpa using hrisk)] at hnone
  split_ifs at hnone with hcov
  exact hcov

/-! ## Approval domination -/

/-- Every path of the graph from a node without predecessors to a high-risk node meets a node that
requires approval. -/
def ApprovalDominated (g : NormalizedGraph) : Prop :=
  ∀ n ∈ g.nodes.rows, n.node.declaredHigh ≠ [] → Dominated g.ends g.IsGate n.nodeId

/-- The node id is declared by a specification that requires approval and is not overwritten. -/
def TemplateGate (template : TaskTemplate) (nodeId : String) : Prop :=
  ∃ spec, template.lastSpec nodeId = some spec ∧ spec.requiresApproval = true

/-- Every node declared with a high-risk effect is guarded in the template: it requires approval, or
it has a predecessor and all its predecessors are guarded. -/
def TemplateGuarded (template : TaskTemplate) : Prop :=
  ∀ nodeId spec, template.lastSpec nodeId = some spec →
    (spec.declaredEffects.any fun e ↦ e.kind.highRisk) = true →
    Guarded template.ends (TemplateGate template) nodeId

section Domination

variable {candidate : CandidateGraph}

private theorem isGate_normalize (h : Parser.Parsed template contract candidate) :
    (Normalizer.normalize candidate).IsGate = TemplateGate template := by
  funext nodeId
  rw [eq_iff_iff, NormalizedGraph.IsGate, TemplateGate]
  constructor
  · rintro ⟨n, hn, rfl, happ⟩
    have hfind := KeyedTable.find?_of_mem (Normalizer.mem_rows_normalize.mp hn).1
    rw [h.find?_nodes, Option.map_eq_some_iff] at hfind
    obtain ⟨spec, hspec, hnode⟩ := hfind
    exact ⟨spec, hspec, by rw [← hnode] at happ; exact happ⟩
  · rintro ⟨spec, hspec, happ⟩
    have hfind := h.find?_nodes nodeId
    rw [hspec, Option.map_some, KeyedTable.find?_eq_some_iff] at hfind
    exact ⟨⟨Parser.candidateNode spec, Normalizer.inputRefs candidate.nodes
      (Normalizer.mergeEdges [] candidate.edges) spec.nodeId⟩,
      Normalizer.mem_rows_normalize.mpr ⟨hfind.1, rfl⟩, hfind.2, happ⟩

private theorem adj_normalize (h : Parser.Parsed template contract candidate) :
    Adj (Normalizer.normalize candidate).ends = Adj template.ends := by
  rw [NormalizedGraph.ends, Normalizer.normalize, Normalizer.adj_mergeEdges, h.ends_edges]

private theorem wellFounded_normalize (h : Parser.Parsed template contract candidate) :
    WellFounded (Adj (Normalizer.normalize candidate).ends) := by
  rw [adj_normalize h, ← h.ends_edges]
  exact h.wellFounded

/-- The obligations of the graph are those of the template. -/
private theorem forall_highRisk_iff (h : Parser.Parsed template contract candidate)
    (P : String → Prop) :
    (∀ n ∈ (Normalizer.normalize candidate).nodes.rows, n.node.declaredHigh ≠ [] → P n.nodeId) ↔
      ∀ nodeId spec, template.lastSpec nodeId = some spec →
        (spec.declaredEffects.any fun e ↦ e.kind.highRisk) = true → P nodeId := by
  have hhigh : ∀ spec : NodeSpec, (Parser.candidateNode spec).declaredHigh ≠ [] ↔
      (spec.declaredEffects.any fun e ↦ e.kind.highRisk) = true := by
    intro spec
    simp [CandidateNode.declaredHigh, Parser.candidateNode]
  constructor
  · intro hall nodeId spec hspec hrisk
    have hfind := h.find?_nodes nodeId
    rw [hspec, Option.map_some, KeyedTable.find?_eq_some_iff] at hfind
    rw [← hfind.2]
    exact hall ⟨Parser.candidateNode spec, Normalizer.inputRefs candidate.nodes
      (Normalizer.mergeEdges [] candidate.edges) spec.nodeId⟩
      (Normalizer.mem_rows_normalize.mpr ⟨hfind.1, rfl⟩) ((hhigh spec).mpr hrisk)
  · intro hall n hn hrisk
    have hfind := KeyedTable.find?_of_mem (Normalizer.mem_rows_normalize.mp hn).1
    rw [h.find?_nodes, Option.map_eq_some_iff] at hfind
    obtain ⟨spec, hspec, hnode⟩ := hfind
    exact hall _ spec hspec ((hhigh spec).mp (by rw [hnode]; exact hrisk))

end Domination

/-- **Exactly when acceptance means domination.** On an accepted graph, every path from a node
without predecessors to a high-risk node meets an approval gate if and only if the template guards
every high-risk node: the node requires approval itself, or it has predecessors and all of them are
guarded. -/
theorem approvalDominated_iff (h : Accepts compiler template contract initialLabel bindings g) :
    ApprovalDominated g ↔ TemplateGuarded template := by
  -- the graph and its template have the same obligations, gates and adjacency
  obtain ⟨candidate, hparsed, rfl, -⟩ := h.phases
  rw [ApprovalDominated, TemplateGuarded]
  rw [← forall_highRisk_iff hparsed fun v ↦ Guarded template.ends (TemplateGate template) v]
  have hguarded : ∀ v, Guarded template.ends (TemplateGate template) v ↔
      Dominated (Normalizer.normalize candidate).ends
        (Normalizer.normalize candidate).IsGate v := by
    intro v
    rw [← guarded_iff_dominated (wellFounded_normalize hparsed), isGate_normalize hparsed]
    exact guarded_congr (adj_normalize hparsed).symm
  simp only [hguarded]

/-! ## A join with one gated branch -/

/-- A template node with the shared purpose. -/
def sampleSpec (nodeId : String) (effects : List Effect) (requiresApproval : Bool) : NodeSpec where
  nodeId := nodeId
  name := nodeId
  requiresPurpose := { code := "contract-review" }
  declaredEffects := effects
  requiresApproval := requiresApproval

/-- Two branches meet in a sink that writes. One of them goes through the approval. -/
def joinTemplate : TaskTemplate where
  templateId := "join"
  nodes := [sampleSpec "approval" [] true, sampleSpec "draft" [] false,
    sampleSpec "write_sink" [⟨.write, none⟩] false]
  edges := [⟨"approval", "write_sink", "always"⟩, ⟨"draft", "write_sink", "always"⟩]

/-- One branch only, through the approval. -/
def chainTemplate : TaskTemplate where
  templateId := "chain"
  nodes := [sampleSpec "draft" [] false, sampleSpec "approval" [] true,
    sampleSpec "write_sink" [⟨.write, none⟩] false]
  edges := [⟨"draft", "approval", "always"⟩, ⟨"approval", "write_sink", "always"⟩]

def sampleContract : TaskContract where
  purpose := { code := "contract-review" }

/-- The graph the compiler returns for a template without bindings. -/
def sampleGraph (template : TaskTemplate) : NormalizedGraph :=
  match compile ⟨fun _ ↦ none⟩ template sampleContract { classification := .internal }
      fun _ ↦ none with
  | .ok { graph := some g, .. } => g
  | _ => ⟨"", "", .empty, [], ""⟩

/-- The compiler accepts the join, whose second branch reaches the sink without an approval. -/
theorem joinTemplate_not_dominated :
    Accepts ⟨fun _ ↦ none⟩ joinTemplate sampleContract { classification := .internal }
        (fun _ ↦ none) (sampleGraph joinTemplate) ∧
      ¬ApprovalDominated (sampleGraph joinTemplate) := by
  refine ⟨rfl, fun h ↦ ?_⟩
  have hpath := h ⟨Parser.candidateNode (sampleSpec "write_sink" [⟨.write, none⟩] false),
      [⟨"approval", "*", none⟩, ⟨"draft", "*", none⟩]⟩ (by decide) (by decide)
    ["draft", "write_sink"] (by decide) ⟨"draft", rfl, by decide⟩ rfl
  exact absurd hpath (by decide)

/-- The chain is dominated. -/
theorem chainTemplate_dominated : ApprovalDominated (sampleGraph chainTemplate) := by
  have haccepts : Accepts ⟨fun _ ↦ none⟩ chainTemplate sampleContract
      { classification := .internal } (fun _ ↦ none) (sampleGraph chainTemplate) := rfl
  refine (approvalDominated_iff haccepts).mpr fun nodeId spec hspec hrisk ↦ ?_
  have hid : spec.nodeId = nodeId := by simpa using List.find?_some hspec
  have hmem := List.mem_of_find?_eq_some hspec
  simp only [chainTemplate, List.mem_reverse, List.mem_cons, List.not_mem_nil, or_false] at hmem
  rcases hmem with rfl | rfl | rfl
  · exact absurd hrisk (by decide)
  · exact absurd hrisk (by decide)
  · subst hid
    refine .preds ⟨"approval", by decide⟩ fun u hu ↦ .gate ?_
    obtain rfl : u = "approval" := by
      simpa [Adj, TaskTemplate.ends, chainTemplate, sampleSpec] using hu
    exact ⟨sampleSpec "approval" [] true, rfl, rfl⟩

end TrustCompiler

end Orchestra
