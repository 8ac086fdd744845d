import Orchestra.Compiler.Acceptance

/-!
# The binding closure

After compilation the bindings are checked for closure: every node is bound, to the synthesised
approver or to a registered capability, and where a manifest id was recorded it is the current one.
The second property the checker is documented to prove, that no capability brings effects its node
does not declare, is not looked at, and a manifest id that is missing or empty is not asked for;
`closed_iff` says what has to be known besides the answer.

The effect checker of the compiler does compare the effects. The two checks together give a sound
plan, but for a capability registered under the empty id, which the effect checker takes for a
missing binding (`planSound_iff`).
-/

namespace Orchestra

open EdgeList

structure ClosureResult where
  ok : Bool
  errors : List CompileError := []

structure BindingClosureChecker where
  manifests : String → Option CapabilityManifest

namespace BindingClosureChecker

/-- The gate capability that is not in the registry. -/
def synthesizedCapabilities : List String := ["human.approver"]

section

variable (P : Primitives) (F : FloatModel) (checker : BindingClosureChecker)
  (bindings manifestBindings : String → Option String)

/-- Coverage of one node. -/
def checkNode (nodeId : String) : Option CompileError :=
  match bindings nodeId with
  | none => some
    { kind := .infeasibleBinding, nodeId := nodeId,
      reason := "node " ++ nodeId ++ " has no capability binding",
      dataPath := [nodeId, "binding"] }
  | some capId =>
    if capId ∈ synthesizedCapabilities then none
    else
      match checker.manifests capId with
      | none => some
        { kind := .ambientAuthority, nodeId := nodeId,
          reason := "node " ++ nodeId ++ " bound to capability " ++ capId ++
            " which is not in the registry",
          dataPath := [nodeId, capId, "registry"] }
      | some m =>
        let bound := (manifestBindings nodeId).getD ""
        -- an absent id passes like an empty one
        if bound ≠ "" ∧ bound ≠ m.manifestId P F then some
          { kind := .ambientAuthority, nodeId := nodeId,
            reason := "node " ++ nodeId ++ " bound manifest_id " ++ pyRepr bound ++
              " does not match current manifest id " ++ pyRepr (m.manifestId P F),
            dataPath := [nodeId, "manifest_id"] }
        else none

/-- The error for an end of an edge that is not bound. -/
def checkEnd (e : CandidateEdge) (role nodeId : String) : List CompileError :=
  if (bindings nodeId).isNone then [
    { kind := .ambientAuthority, nodeId := nodeId,
      reason := "edge " ++ e.fromNode ++ "->" ++ e.toNode ++ " " ++ role ++ " " ++ nodeId ++
        " has no binding",
      dataPath := [e.fromNode, e.toNode, "binding"] }]
  else []

def checkEdge (e : CandidateEdge) : List CompileError :=
  checkEnd bindings e "origin" e.fromNode ++ checkEnd bindings e "target" e.toNode

def check (g : NormalizedGraph) : ClosureResult :=
  let errors := g.nodes.rows.filterMap
      (fun n ↦ checkNode P F checker bindings manifestBindings n.nodeId) ++
    g.edges.flatMap (checkEdge bindings)
  { ok := errors.isEmpty, errors := errors }

end

/-! ## What the check establishes -/

variable {P : Primitives} {F : FloatModel} {checker : BindingClosureChecker}
  {bindings manifestBindings : String → Option String} {g : NormalizedGraph}

/-- A node passes when it is bound to the approver, or to a registered capability whose manifest id
was not recorded or is the current one. -/
theorem checkNode_eq_none_iff {nodeId : String} :
    checkNode P F checker bindings manifestBindings nodeId = none ↔
      ∃ capId, bindings nodeId = some capId ∧ (capId = "human.approver" ∨
        ∃ m, checker.manifests capId = some m ∧ ∀ id, manifestBindings nodeId = some id →
          id ≠ "" → id = m.manifestId P F) := by
  rw [checkNode]
  cases hbound : bindings nodeId with
  | none => simp
  | some capId =>
    by_cases hsynth : capId = "human.approver"
    · simp [synthesizedCapabilities, hsynth]
    · cases hreg : checker.manifests capId with
      | none => simp [synthesizedCapabilities, hsynth, hreg]
      | some m =>
        cases hid : manifestBindings nodeId with
        | none => simp [synthesizedCapabilities, hsynth, hreg]
        | some id =>
          by_cases hempty : id = ""
          · simp [synthesizedCapabilities, hsynth, hreg, hempty]
          · simp [synthesizedCapabilities, hsynth, hreg, hempty]

theorem checkEdge_eq_nil_iff {e : CandidateEdge} : checkEdge bindings e = [] ↔
    (bindings e.fromNode).isSome ∧ (bindings e.toNode).isSome := by
  rw [checkEdge, List.append_eq_nil_iff, checkEnd, checkEnd]
  cases bindings e.fromNode <;> cases bindings e.toNode <;> simp

/-- The checker accepts when every node passes and both ends of every edge are bound. -/
theorem ok_iff : (check P F checker bindings manifestBindings g).ok = true ↔
    (∀ n ∈ g.nodes.rows, checkNode P F checker bindings manifestBindings n.nodeId = none) ∧
      ∀ e ∈ g.edges, (bindings e.fromNode).isSome ∧ (bindings e.toNode).isSome := by
  rw [check, List.isEmpty_iff, List.append_eq_nil_iff, List.filterMap_eq_nil_iff,
    List.flatMap_eq_nil_iff]
  simp only [checkEdge_eq_nil_iff]

/-- **Coverage.** Every node of a closed graph is bound to the approver or to a registered
capability. -/
theorem bound_of_ok (h : (check P F checker bindings manifestBindings g).ok = true)
    {n : NormalizedNode} (hn : n ∈ g.nodes.rows) :
    ∃ capId, bindings n.nodeId = some capId ∧
      (capId = "human.approver" ∨ (checker.manifests capId).isSome) := by
  obtain ⟨capId, hbound, hcap⟩ := checkNode_eq_none_iff.mp ((ok_iff.mp h).1 n hn)
  refine ⟨capId, hbound, hcap.imp_right fun ⟨m, hreg, _⟩ ↦ ?_⟩
  rw [hreg]
  rfl

/-- The node declares every effect of the capability. -/
def Declares (n : NormalizedNode) (m : CapabilityManifest) : Prop :=
  ∀ e ∈ m.declaredEffects, e.kind ∈ n.node.declaredEffectKinds

/-- The two properties of the module's documentation, with the manifests pinned. -/
structure Closed (P : Primitives) (F : FloatModel) (checker : BindingClosureChecker)
    (bindings manifestBindings : String → Option String) (g : NormalizedGraph) : Prop where
  bound : ∀ n ∈ g.nodes.rows, ∃ capId, bindings n.nodeId = some capId ∧
    (capId = "human.approver" ∨ (checker.manifests capId).isSome)
  pinned : ∀ n ∈ g.nodes.rows, ∀ capId m, bindings n.nodeId = some capId →
    checker.manifests capId = some m → manifestBindings n.nodeId = some (m.manifestId P F)
  confined : ∀ n ∈ g.nodes.rows, ∀ capId m, bindings n.nodeId = some capId →
    checker.manifests capId = some m → Declares n m

/-- What has to be known besides the answer of the checker, of the nodes bound to a registered
capability: a manifest id was recorded for them, they declare the effects of the capability, and if
the approver itself is registered the id recorded for its nodes is its own. -/
def Recorded (P : Primitives) (F : FloatModel) (checker : BindingClosureChecker)
    (bindings manifestBindings : String → Option String) (g : NormalizedGraph) : Prop :=
  ∀ n ∈ g.nodes.rows, ∀ capId m, bindings n.nodeId = some capId →
    checker.manifests capId = some m →
      (∃ id, manifestBindings n.nodeId = some id ∧ id ≠ "" ∧
        (capId = "human.approver" → id = m.manifestId P F)) ∧
      Declares n m

/-- **What the answer `ok` is worth.** A graph the checker accepts is closed if and only if a
manifest id was recorded for every node bound to a registered capability and the node declares the
effects of that capability. -/
theorem closed_iff (P : Primitives) (F : FloatModel) (checker : BindingClosureChecker)
    (bindings manifestBindings : String → Option String) (g : NormalizedGraph)
    (hok : (check P F checker bindings manifestBindings g).ok = true) :
    Closed P F checker bindings manifestBindings g ↔
      Recorded P F checker bindings manifestBindings g := by
  constructor
  · intro h n hn capId m hbound hreg
    refine ⟨⟨_, h.pinned n hn capId m hbound hreg, m.manifestId_ne_empty, fun _ ↦ rfl⟩, ?_⟩
    exact h.confined n hn capId m hbound hreg
  · intro h
    refine ⟨fun n hn ↦ bound_of_ok hok hn, fun n hn capId m hbound hreg ↦ ?_,
      fun n hn capId m hbound hreg ↦ (h n hn capId m hbound hreg).2⟩
    obtain ⟨⟨id, hid, hne, happrover⟩, -⟩ := h n hn capId m hbound hreg
    -- what was recorded has been compared, but for the approver
    obtain ⟨capId', hbound', hcap⟩ := checkNode_eq_none_iff.mp ((ok_iff.mp hok).1 n hn)
    obtain rfl : capId = capId' := Option.some.inj (hbound.symm.trans hbound')
    rcases hcap with hcap | ⟨m', hreg', hcompared⟩
    · rw [hid, happrover hcap]
    · obtain rfl : m = m' := Option.some.inj (hreg.symm.trans hreg')
      rw [hid, hcompared id hid hne]

/-! ### A registry of one capability -/

/-- A capability that writes. -/
def writer : CapabilityManifest where
  capabilityId := "local.writer"
  name := "Writer"
  kind := .localModel
  endpoint := "local"
  declaredEffects := [⟨.write, none⟩]

/-- It is registered under this id. -/
def registry (capId : String) (id : String) : Option CapabilityManifest :=
  if id = capId then some writer else none

/-- A graph of one node with these effects. -/
def oneNode (effects : List EffectKind) : NormalizedGraph where
  templateId := "one"
  templateVersion := "0.1.0"
  nodes := ⟨[⟨⟨"write_sink", "write_sink", "contract-review", [], [], effects, true, none, 30000⟩,
    []⟩], List.nodup_singleton _⟩
  edges := []
  purpose := "contract-review"

theorem ok_oneNode {effects : List EffectKind} {id : Option String}
    (hid : ∀ i, id = some i → i ≠ "" → i = writer.manifestId P F) :
    (check P F ⟨registry "local.writer"⟩ (fun _ ↦ some "local.writer") (fun _ ↦ id)
      (oneNode effects)).ok = true := by
  refine ok_iff.mpr ⟨fun n _ ↦ checkNode_eq_none_iff.mpr ?_, nofun⟩
  exact ⟨"local.writer", rfl, Or.inr ⟨writer, rfl, hid⟩⟩

/-- The node declares the effect and its manifest is recorded. -/
theorem closed_iff_oneNode : ∃ P F,
    Closed P F ⟨registry "local.writer"⟩ (fun _ ↦ some "local.writer")
      (fun _ ↦ some (writer.manifestId P F)) (oneNode [.write]) := by
  obtain ⟨P⟩ : Nonempty Primitives :=
    ⟨fun _ ↦ List.replicate 32 0, fun _ _ ↦ List.replicate 32 0, fun _ _ ↦ by decide⟩
  obtain ⟨F⟩ : Nonempty FloatModel := ⟨id, fun _ ↦ "1.0"⟩
  refine ⟨P, F, (closed_iff P F ⟨registry "local.writer"⟩ (fun _ ↦ some "local.writer")
    (fun _ ↦ some (writer.manifestId P F)) (oneNode [.write])
    (ok_oneNode fun i hi _ ↦ (Option.some.inj hi).symm)).mpr ?_⟩
  intro n hn capId m hbound hreg
  obtain rfl : capId = "local.writer" := (Option.some.inj hbound).symm
  obtain rfl : m = writer := (Option.some.inj hreg).symm
  refine ⟨⟨_, rfl, writer.manifestId_ne_empty, fun _ ↦ rfl⟩, ?_⟩
  obtain rfl := List.mem_singleton.mp hn
  intro e he
  obtain rfl := List.mem_singleton.mp he
  exact List.mem_singleton_self _

/-- A node with no effects is bound to the writer, and no manifest id was recorded. -/
theorem ok_not_closed :
    ¬∀ (P : Primitives) (F : FloatModel) (checker : BindingClosureChecker)
      (bindings manifestBindings : String → Option String) (g : NormalizedGraph),
      (check P F checker bindings manifestBindings g).ok = true →
        Closed P F checker bindings manifestBindings g := by
  obtain ⟨P⟩ : Nonempty Primitives :=
    ⟨fun _ ↦ List.replicate 32 0, fun _ _ ↦ List.replicate 32 0, fun _ _ ↦ by decide⟩
  obtain ⟨F⟩ : Nonempty FloatModel := ⟨id, fun _ ↦ "1.0"⟩
  intro h
  have hclosed := h P F ⟨registry "local.writer"⟩ (fun _ ↦ some "local.writer") (fun _ ↦ none)
    (oneNode []) (ok_oneNode nofun)
  have hid := hclosed.pinned _ (List.mem_singleton_self _) "local.writer" writer rfl rfl
  cases hid

end BindingClosureChecker

/-! ## The compiler and the closure check together -/

open BindingClosureChecker

/-- What a compiled and closed plan guarantees: the template's nodes with their effects and the
purpose of the contract, nothing unbound, no effect that is not declared, and the template's edges
without a cycle. -/
structure PlanSound (template : TaskTemplate) (contract : TaskContract)
    (manifests : String → Option CapabilityManifest) (bindings : String → Option String)
    (g : NormalizedGraph) : Prop where
  nodes : ∀ spec ∈ template.nodes, ∃ n ∈ g.nodes.rows, n.node = Parser.candidateNode spec ∧
    n.node.purposeCode = contract.purpose.code
  bound : ∀ n ∈ g.nodes.rows, ∃ capId, bindings n.nodeId = some capId ∧
    (capId = "human.approver" ∨ (manifests capId).isSome)
  confined : ∀ n ∈ g.nodes.rows, ∀ capId m, bindings n.nodeId = some capId →
    manifests capId = some m → Declares n m
  acyclic : Acyclic g.ends
  edges : ∀ e, e ∈ g.edges ↔ e ∈ template.edges.map Parser.candidateEdge

/-- The nodes bound to the empty capability id declare the effects of the capability registered
under it, if there is one. -/
def EmptyIdConfined (template : TaskTemplate) (manifests : String → Option CapabilityManifest)
    (bindings : String → Option String) : Prop :=
  ∀ spec ∈ template.nodes, bindings spec.nodeId = some "" → ∀ m, manifests "" = some m →
    ∀ e ∈ m.declaredEffects, e.kind ∈ spec.declaredEffects.map Effect.kind

section Composition

variable {template : TaskTemplate} {contract : TaskContract} {candidate : CandidateGraph}
  {manifests : String → Option CapabilityManifest} {bindings : String → Option String}

/-- With distinct ids every specification is the last one of its id. -/
theorem TaskTemplate.lastSpec_of_mem (hdistinct : template.nodeIds.Nodup) {spec : NodeSpec}
    (hspec : spec ∈ template.nodes) : template.lastSpec spec.nodeId = some spec := by
  have hex : ((template.nodes.reverse.find? fun n ↦
      decide (n.nodeId = spec.nodeId))).isSome := by
    rw [List.find?_isSome]
    exact ⟨spec, List.mem_reverse.mpr hspec, by simp⟩
  obtain ⟨last, hlast⟩ := Option.isSome_iff_exists.mp hex
  have hid : last.nodeId = spec.nodeId := by simpa using List.find?_some hlast
  have hmem : last ∈ template.nodes := List.mem_reverse.mp (List.mem_of_find?_eq_some hlast)
  obtain rfl : last = spec := List.inj_on_of_nodup_map hdistinct hmem hspec hid
  exact hlast

/-- The nodes of the normalized graph are those of the template. -/
theorem Parser.Parsed.exists_node_iff (h : Parser.Parsed template contract candidate)
    (hdistinct : template.nodeIds.Nodup) {c : CandidateNode} :
    (∃ n ∈ (Normalizer.normalize candidate).nodes.rows, n.node = c) ↔
      ∃ spec ∈ template.nodes, Parser.candidateNode spec = c := by
  constructor
  · rintro ⟨n, hn, rfl⟩
    have hfind := KeyedTable.find?_of_mem (Normalizer.mem_rows_normalize.mp hn).1
    rw [h.find?_nodes, Option.map_eq_some_iff] at hfind
    obtain ⟨spec, hspec, hnode⟩ := hfind
    exact ⟨spec, List.mem_reverse.mp (List.mem_of_find?_eq_some hspec), hnode⟩
  · rintro ⟨spec, hspec, rfl⟩
    have hfind := h.find?_nodes spec.nodeId
    rw [TaskTemplate.lastSpec_of_mem hdistinct hspec, Option.map_some] at hfind
    exact ⟨⟨Parser.candidateNode spec, Normalizer.inputRefs candidate.nodes
      (Normalizer.mergeEdges [] candidate.edges) spec.nodeId⟩,
      Normalizer.mem_rows_normalize.mpr ⟨KeyedTable.mem_of_find? hfind, rfl⟩, rfl⟩

/-- The effect checker has compared the effects of every capability but one under the empty id. -/
theorem EffectChecker.declares_of_check {g : NormalizedGraph}
    (h : EffectChecker.check manifests bindings g = []) {n : NormalizedNode}
    (hn : n ∈ g.nodes.rows) {capId : String} {m : CapabilityManifest}
    (hbound : bindings n.nodeId = some capId) (hreg : manifests capId = some m) (hne : capId ≠ "") :
    BindingClosureChecker.Declares n m := by
  have hnode := List.flatMap_eq_nil_iff.mp h n hn
  have hmanifest : boundManifest manifests bindings n.nodeId = some (capId, m) := by
    simp [boundManifest, hbound, hreg, hne]
  rw [EffectChecker.checkNode, hmanifest] at hnode
  obtain ⟨hescalation, -⟩ := List.append_eq_nil_iff.mp hnode
  intro e he
  by_contra hnot
  -- the effect would be an escalation
  have hmem : e.kind ∈ (m.declaredEffects.map Effect.kind).filter fun k ↦
      decide (k ∉ n.node.declaredEffectKinds) :=
    List.mem_filter.mpr ⟨List.mem_map.mpr ⟨e, he, rfl⟩, decide_eq_true hnot⟩
  split_ifs at hescalation with hempty
  rw [List.isEmpty_iff] at hempty
  rw [hempty] at hmem
  cases hmem

theorem DelegationChecker.purpose_of_check {g : NormalizedGraph} {code : String}
    (h : DelegationChecker.check g code = []) {n : NormalizedNode} (hn : n ∈ g.nodes.rows) :
    n.node.purposeCode = code := by
  have hnode := List.filterMap_eq_nil_iff.mp h n hn
  by_contra hne
  rw [DelegationChecker.checkNode, if_neg hne] at hnode
  cases hnode

end Composition

/-- **Compiled plans are sound** but for one capability id. When the compiler accepts a template
with distinct node ids and the closure check accepts the graph with the same bindings and registry,
the plan is sound if and only if the nodes bound to the empty capability id declare the effects of
the capability registered under it. -/
theorem planSound_iff (P : Primitives) (F : FloatModel) (compiler : TrustCompiler)
    (template : TaskTemplate) (contract : TaskContract) (initialLabel : SecurityLabel)
    (bindings manifestBindings : String → Option String) (g : NormalizedGraph)
    (hdistinct : template.nodeIds.Nodup)
    (haccepts : TrustCompiler.Accepts compiler template contract initialLabel bindings g)
    (hclosed : (check P F ⟨compiler.manifests⟩ bindings manifestBindings g).ok = true) :
    PlanSound template contract compiler.manifests bindings g ↔
      EmptyIdConfined template compiler.manifests bindings := by
  obtain ⟨candidate, hparsed, rfl, -, heffects, hpurposes⟩ := haccepts.phases
  constructor
  · intro h spec hspec hbound m hreg e he
    obtain ⟨n, hn, hnode, -⟩ := h.nodes spec hspec
    have hid : n.nodeId = spec.nodeId := by rw [NormalizedNode.nodeId, hnode]; rfl
    have hdeclares := h.confined n hn "" m (by rw [hid, hbound]) hreg e he
    rw [hnode] at hdeclares
    exact hdeclares
  · intro h
    refine ⟨fun spec hspec ↦ ?_, fun n hn ↦ bound_of_ok hclosed hn,
      fun n hn capId m hbound hreg ↦ ?_, ?_, fun e ↦ ?_⟩
    · obtain ⟨n, hn, hnode⟩ := (hparsed.exists_node_iff hdistinct).mpr ⟨spec, hspec, rfl⟩
      exact ⟨n, hn, hnode, DelegationChecker.purpose_of_check hpurposes hn⟩
    · by_cases hempty : capId = ""
      · subst hempty
        obtain ⟨spec, hspec, hnode⟩ := (hparsed.exists_node_iff hdistinct).mp ⟨n, hn, rfl⟩
        have hid : n.nodeId = spec.nodeId := by rw [NormalizedNode.nodeId, ← hnode]; rfl
        intro e he
        rw [← hnode]
        exact h spec hspec (by rw [← hid, hbound]) m hreg e he
      · exact EffectChecker.declares_of_check heffects hn hbound hreg hempty
    · rw [NormalizedGraph.ends, Normalizer.normalize]
      have hwf := hparsed.wellFounded
      rw [← Normalizer.adj_mergeEdges] at hwf
      exact acyclic_of_wellFounded hwf
    · rw [Normalizer.mem_edges_normalize, hparsed.edges]

/-! ### Plans with the writer -/

/-- The sink of the chain is bound to the writer, and the rest to the approver. -/
theorem planSound_chain :
    PlanSound TrustCompiler.chainTemplate TrustCompiler.sampleContract (registry "local.writer")
      (fun nodeId ↦ some (if nodeId = "write_sink" then "local.writer" else "human.approver"))
      (TrustCompiler.sampleGraph TrustCompiler.chainTemplate) := by
  obtain ⟨P⟩ : Nonempty Primitives :=
    ⟨fun _ ↦ List.replicate 32 0, fun _ _ ↦ List.replicate 32 0, fun _ _ ↦ by decide⟩
  obtain ⟨F⟩ : Nonempty FloatModel := ⟨id, fun _ ↦ "1.0"⟩
  refine (planSound_iff P F ⟨registry "local.writer"⟩ TrustCompiler.chainTemplate
    TrustCompiler.sampleContract { classification := .internal }
    (fun nodeId ↦ some (if nodeId = "write_sink" then "local.writer" else "human.approver"))
    (fun _ ↦ none) _ (by decide) rfl (ok_iff.mpr ⟨fun n _ ↦ checkNode_eq_none_iff.mpr ?_,
      fun _ _ ↦ ⟨rfl, rfl⟩⟩)).mpr fun spec _ _ m hreg ↦ ?_
  · by_cases hsink : n.nodeId = "write_sink"
    · exact ⟨"local.writer", by rw [if_pos hsink], Or.inr ⟨writer, rfl, nofun⟩⟩
    · exact ⟨"human.approver", by rw [if_neg hsink], Or.inl rfl⟩
  · cases hreg

/-- A template of one node that declares no effect. -/
def draftTemplate : TaskTemplate where
  templateId := "draft"
  nodes := [TrustCompiler.sampleSpec "draft" [] false]
  edges := []

/-- The writer is registered under the empty id, and a node without effects is bound to it. -/
theorem plan_not_sound :
    ¬∀ (P : Primitives) (F : FloatModel) (compiler : TrustCompiler) (template : TaskTemplate)
      (contract : TaskContract) (initialLabel : SecurityLabel)
      (bindings manifestBindings : String → Option String) (g : NormalizedGraph),
      template.nodeIds.Nodup →
      TrustCompiler.Accepts compiler template contract initialLabel bindings g →
      (check P F ⟨compiler.manifests⟩ bindings manifestBindings g).ok = true →
      PlanSound template contract compiler.manifests bindings g := by
  obtain ⟨P⟩ : Nonempty Primitives :=
    ⟨fun _ ↦ List.replicate 32 0, fun _ _ ↦ List.replicate 32 0, fun _ _ ↦ by decide⟩
  obtain ⟨F⟩ : Nonempty FloatModel := ⟨id, fun _ ↦ "1.0"⟩
  intro h
  have hsound := h P F ⟨registry ""⟩ draftTemplate TrustCompiler.sampleContract
    { classification := .internal } (fun _ ↦ some "") (fun _ ↦ none)
    (TrustCompiler.sampleGraph draftTemplate) (by decide) rfl
    (ok_iff.mpr ⟨fun n _ ↦ checkNode_eq_none_iff.mpr ⟨"", rfl, Or.inr ⟨writer, rfl, nofun⟩⟩, nofun⟩)
  have hwrite := hsound.confined _ (List.mem_singleton_self _) "" writer rfl rfl ⟨.write, none⟩
    (List.mem_singleton_self _)
  exact absurd hwrite (by decide)

end Orchestra
