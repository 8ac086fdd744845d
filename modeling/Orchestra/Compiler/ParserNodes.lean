import Orchestra.Compiler.Acceptance

/-!
# What the parser does with the nodes of a template

Nothing that makes a template well formed speaks of the ids of its nodes. The nodes go into a
dictionary, so a template whose ids are distinct has a node for every specification, in order
(`rows_candidateNodes`), and of two specifications with one id the first one is lost, with the
effects it declares. So the parser loses no node exactly when the ids are distinct or the template
is refused for another reason (`losesNoNode_iff`).
-/

namespace Orchestra

namespace Parser

/-- The node carries what the specification says about effects, approval, capabilities and
fallback. -/
structure Carries (n : NodeSpec) (c : CandidateNode) : Prop where
  nodeId : c.nodeId = n.nodeId
  effects : c.declaredEffectKinds = n.declaredEffects.map Effect.kind
  approval : c.requiresApproval = n.requiresApproval
  kinds : c.eligibleCapabilityKinds = n.eligibleCapabilityKinds
  fallback : c.fallbackCapabilityId = n.fallbackCapabilityId

/-- The graph has one node for each specification, in some order, and no other. -/
def OneNodePerSpec (template : TaskTemplate) (g : CandidateGraph) : Prop :=
  ∃ rows, rows.Perm g.nodes.rows ∧ List.Forall₂ Carries template.nodes rows

/-- A graph that the parser returns has one node for each specification, and a template in which
two specifications share an id is refused. -/
def LosesNoNode (template : TaskTemplate) (contract : TaskContract) : Prop :=
  (∀ g, parse template contract = .ok g → OneNodePerSpec template g) ∧
    (¬template.nodeIds.Nodup → ∃ e, parse template contract = .error e)

/-- Distinct ids keep every specification, in order. -/
theorem rows_candidateNodes {specs : List NodeSpec} (h : (specs.map NodeSpec.nodeId).Nodup) :
    (candidateNodes specs).rows = specs.map candidateNode := by
  induction specs using List.reverseRecOn with
  | nil => rfl
  | append_singleton specs n ih =>
    rw [List.map_append, List.nodup_append] at h
    obtain ⟨hspecs, -, hdisjoint⟩ := h
    have hnew : (candidateNodes specs).find? (candidateNode n).nodeId = none := by
      rw [KeyedTable.find?_eq_none_iff, mem_ids_candidateNodes]
      intro hmem
      exact hdisjoint _ hmem _ (List.mem_singleton_self _) rfl
    rw [candidateNodes, List.foldl_append, List.foldl_cons, List.foldl_nil, ← candidateNodes,
      KeyedTable.rows_put_of_find?_eq_none hnew, ih hspecs, List.map_append, List.map_singleton]

theorem forall₂_carries (specs : List NodeSpec) :
    List.Forall₂ Carries specs (specs.map candidateNode) := by
  rw [List.forall₂_map_right_iff]
  exact List.forall₂_same.mpr fun n _ ↦ ⟨rfl, rfl, rfl, rfl, rfl⟩

/-- **The parser loses no node** exactly when the ids of the template are distinct or the template
is refused for a purpose, an edge or a cycle. -/
theorem losesNoNode_iff (template : TaskTemplate) (contract : TaskContract) :
    LosesNoNode template contract ↔ template.nodeIds.Nodup ∨ ¬template.WellFormed := by
  constructor
  · rintro ⟨-, hrefused⟩
    rw [or_iff_not_imp_left]
    intro hdup hwell
    obtain ⟨e, he⟩ := hrefused hdup
    obtain ⟨g, hg⟩ := exists_parse_iff.mpr hwell
    rw [he] at hg
    cases hg
  · intro h
    refine ⟨fun g hg ↦ ?_, fun hdup ↦ ?_⟩
    · have hparsed := parsed_of_parse hg
      have hnodup := h.resolve_right (not_not.mpr hparsed.wellFormed)
      refine ⟨g.nodes.rows, List.Perm.refl _, ?_⟩
      rw [hparsed.graph, rows_candidateNodes hnodup]
      exact forall₂_carries template.nodes
    · have hnot := h.resolve_left hdup
      cases hparse : parse template contract with
      | ok g => exact absurd (parsed_of_parse hparse).wellFormed hnot
      | error e => exact ⟨e, rfl⟩

/-- Two specifications share an id. The first one declares a write and asks for no approval. -/
def twiceTemplate : TaskTemplate where
  templateId := "twice"
  nodes := [TrustCompiler.sampleSpec "draft" [⟨.write, none⟩] false,
    TrustCompiler.sampleSpec "draft" [⟨.read, none⟩] false]
  edges := []

/-- **The parser loses the first of two specifications with one id.** The graph has one node, which
reads, and the type checker does not report the write that the lost one declares. -/
theorem not_losesNoNode_twice :
    ¬LosesNoNode twiceTemplate TrustCompiler.sampleContract ∧
      ∃ g, parse twiceTemplate TrustCompiler.sampleContract = .ok g ∧
        g.nodes.rows.map CandidateNode.declaredEffectKinds = [[.read]] ∧
        TypeChecker.check (Normalizer.normalize g) = [] := by
  have hparse : parse twiceTemplate TrustCompiler.sampleContract = .ok
      { templateId := "twice", templateVersion := twiceTemplate.version,
        nodes := candidateNodes twiceTemplate.nodes, edges := [],
        inputs := TrustCompiler.sampleContract.inputs,
        purpose := TrustCompiler.sampleContract.purpose.code } := rfl
  refine ⟨fun h ↦ ?_, _, hparse, by decide, by decide⟩
  obtain ⟨e, he⟩ := h.2 (by decide)
  rw [hparse] at he
  cases he

end Parser

end Orchestra
