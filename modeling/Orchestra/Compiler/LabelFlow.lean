import Orchestra.Compiler.Acceptance
import Orchestra.Compiler.SecurityLabels

/-!
# What the information-flow checker decides

The label of a node is the join of the labels of its producers, and every node without producers
starts from the one initial label. Whatever the join keeps is therefore the same at every node of
the graph, whatever its shape (`Labelled`): this holds of the classification and of the trust. So
the checker's answer about a node depends on the initial label and on the binding of the node alone,
and it is the rule it is meant to enforce, but for one kind of binding: a public model registered
under the empty id is taken for a missing one (`exact_iff`).
-/

namespace Orchestra

namespace InformationFlowChecker

/-! ## The derived labels -/

/-- Two labels agree in the fields the rules look at. -/
def Agrees (l l' : SecurityLabel) : Prop :=
  l.classification = l'.classification ∧ l.sourceTrust = l'.sourceTrust

/-- The join of labels that agree with a third one agrees with it. -/
theorem Agrees.join {a b l : SecurityLabel} (ha : Agrees a l) (hb : Agrees b l) :
    Agrees (join a b) l := by
  rw [Agrees, SecurityLabel.join_eq]
  exact ⟨by rw [ha.1, hb.1, max_self], by rw [ha.2, hb.2, max_self]⟩

theorem Agrees.foldl_join {l : SecurityLabel} {ls : List SecurityLabel} :
    ∀ {a : SecurityLabel}, Agrees a l → (∀ b ∈ ls, Agrees b l) →
      Agrees (ls.foldl InformationFlowChecker.join a) l := by
  induction ls with
  | nil =>
    intro a ha _
    exact ha
  | cons b ls ih =>
    intro a ha hls
    rw [List.forall_mem_cons] at hls
    exact ih (ha.join hls.1) hls.2

/-- All labels derived so far agree with the initial one. -/
def Labelled (initial : SecurityLabel) (labels : List (String × SecurityLabel)) : Prop :=
  ∀ p ∈ labels, Agrees p.2 initial

variable {g : NormalizedGraph} {initial : SecurityLabel} {order : List String}

theorem Labelled.nodeLabel {labels : List (String × SecurityLabel)} (h : Labelled initial labels)
    (n : NormalizedNode) : Agrees (nodeLabel initial labels n) initial := by
  have hmem : ∀ l ∈ n.inputRefs.filterMap fun r ↦ labels.lookup r.producerNodeId,
      Agrees l initial := by
    intro l hl
    obtain ⟨r, -, hr⟩ := List.mem_filterMap.mp hl
    obtain ⟨before, after, heq, -⟩ := List.lookup_eq_some_iff.mp hr
    exact h (r.producerNodeId, l) (by rw [heq]; simp)
  rw [InformationFlowChecker.nodeLabel]
  split
  · exact ⟨rfl, rfl⟩
  · next l ls heq =>
    rw [heq, List.forall_mem_cons] at hmem
    exact hmem.1.foldl_join hmem.2

/-- Deriving labels by one node more. -/
theorem deriveLabels_concat (order : List String) (nodeId : String) :
    deriveLabels g initial (order ++ [nodeId]) =
      match g.nodes.find? nodeId with
      | none => deriveLabels g initial order
      | some n => deriveLabels g initial order ++
          [(nodeId, nodeLabel initial (deriveLabels g initial order) n)] := by
  rw [deriveLabels, List.foldl_append]
  rfl

/-- **Every label agrees with the initial one**, by induction along the order. -/
theorem labelled_deriveLabels (order : List String) :
    Labelled initial (deriveLabels g initial order) := by
  induction order using List.reverseRecOn with
  | nil =>
    intro p hp
    cases hp
  | append_singleton order nodeId ih =>
    rw [deriveLabels_concat]
    split
    · exact ih
    · next n _ =>
      intro p hp
      rcases List.mem_append.mp hp with hp | hp
      · exact ih p hp
      · obtain rfl := List.mem_singleton.mp hp
        exact ih.nodeLabel n

/-- The nodes among those of the order have labels, and no others do. -/
theorem exists_mem_deriveLabels_iff {order : List String} {nodeId : String} :
    (∃ l, (nodeId, l) ∈ deriveLabels g initial order) ↔
      nodeId ∈ order ∧ (g.nodes.find? nodeId).isSome := by
  induction order using List.reverseRecOn with
  | nil => simp [deriveLabels]
  | append_singleton order last ih =>
    rw [deriveLabels_concat, List.mem_append, List.mem_singleton]
    cases hlast : g.nodes.find? last with
    | none =>
      rw [ih]
      constructor
      · rintro ⟨hmem, hsome⟩
        exact ⟨Or.inl hmem, hsome⟩
      · rintro ⟨hmem | rfl, hsome⟩
        · exact ⟨hmem, hsome⟩
        · rw [hlast] at hsome
          cases hsome
    | some n =>
      simp only [List.mem_append, List.mem_singleton, Prod.mk.injEq]
      rw [exists_or, ih]
      constructor
      · rintro (⟨hmem, hsome⟩ | ⟨_, rfl, -⟩)
        · exact ⟨Or.inl hmem, hsome⟩
        · exact ⟨Or.inr rfl, by rw [hlast]; rfl⟩
      · rintro ⟨hmem | rfl, hsome⟩
        · exact Or.inl ⟨hmem, hsome⟩
        · exact Or.inr ⟨_, rfl, rfl⟩

/-! ## The bindings -/

section Bindings

variable (manifests : String → Option CapabilityManifest) (bindings : String → Option String)

/-- The node is bound to a registered public model. -/
def BoundToPublicModel (nodeId : String) : Prop :=
  ∃ capId m, bindings nodeId = some capId ∧ manifests capId = some m ∧ m.kind = .publicModel

/-- The node is bound to a public model that is registered under the empty id. -/
def BoundToUnnamed (nodeId : String) : Prop :=
  bindings nodeId = some "" ∧ ∃ m, manifests "" = some m ∧ m.kind = .publicModel

end Bindings

variable {manifests : String → Option CapabilityManifest} {bindings : String → Option String}

theorem BoundToUnnamed.bound {nodeId : String} (h : BoundToUnnamed manifests bindings nodeId) :
    BoundToPublicModel manifests bindings nodeId := by
  obtain ⟨hbind, m, hm, hkind⟩ := h
  exact ⟨"", m, hbind, hm, hkind⟩

theorem boundManifest_eq_some_iff {nodeId capId : String} {m : CapabilityManifest} :
    boundManifest manifests bindings nodeId = some (capId, m) ↔
      bindings nodeId = some capId ∧ capId ≠ "" ∧ manifests capId = some m := by
  rw [boundManifest]
  cases hbound : bindings nodeId with
  | none => simp
  | some id =>
    dsimp only
    by_cases hempty : id = ""
    · rw [if_pos hempty]
      constructor
      · rintro ⟨⟩
      · rintro ⟨heq, hne, -⟩
        exact absurd (hempty ▸ (Option.some.inj heq).symm) hne
    · rw [if_neg hempty]
      constructor
      · intro h
        obtain ⟨m', hm', heq⟩ := Option.map_eq_some_iff.mp h
        obtain ⟨rfl, rfl⟩ := Prod.mk.inj heq
        exact ⟨rfl, hempty, hm'⟩
      · rintro ⟨heq, -, hm⟩
        obtain rfl := Option.some.inj heq
        rw [hm]
        rfl

/-- The public models the checker sees are the named ones. -/
theorem exists_boundManifest_iff {nodeId : String} :
    (∃ capId m, boundManifest manifests bindings nodeId = some (capId, m) ∧
      m.kind = .publicModel) ↔
    BoundToPublicModel manifests bindings nodeId ∧ ¬BoundToUnnamed manifests bindings nodeId := by
  simp only [boundManifest_eq_some_iff]
  constructor
  · rintro ⟨capId, m, ⟨hbound, hne, hm⟩, hkind⟩
    refine ⟨⟨capId, m, hbound, hm, hkind⟩, ?_⟩
    rintro ⟨hunnamed, -⟩
    exact hne (Option.some.inj (hbound.symm.trans hunnamed))
  · rintro ⟨⟨capId, m, hbound, hm, hkind⟩, hnamed⟩
    refine ⟨capId, m, ⟨hbound, ?_, hm⟩, hkind⟩
    rintro rfl
    exact hnamed ⟨hbound, m, hm, hkind⟩

/-! ## The errors -/

/-- Some error of this kind is reported at the node. -/
def Reports (errors : List CompileError) (kind : CompileErrorKind) (nodeId : String) : Prop :=
  ∃ e ∈ errors, e.kind = kind ∧ e.nodeId = nodeId

theorem checkPublic_eq_some {nodeId : String} {label : SecurityLabel} {e : CompileError}
    (h : checkPublic manifests bindings nodeId label = some e) :
    e.kind = .restrictedToPublic ∧ e.nodeId = nodeId := by
  rw [checkPublic] at h
  split at h
  · cases h
  · split_ifs at h
    cases h
    exact ⟨rfl, rfl⟩

/-- The first rule for one node. -/
theorem checkPublic_isSome_iff {nodeId : String} {label : SecurityLabel} :
    (checkPublic manifests bindings nodeId label).isSome ↔
      (∃ capId m, boundManifest manifests bindings nodeId = some (capId, m) ∧
        m.kind = .publicModel) ∧
      .public_ < label.classification ∧ nodeId ≠ "public_research" := by
  have hlt : DataClassification.public_ < label.classification ↔
      ¬classOrder label.classification ≤ classOrder .public_ := by
    rw [← not_le, DataClassification.le_iff]
  rw [checkPublic, hlt]
  cases hbound : boundManifest manifests bindings nodeId with
  | none => simp
  | some p =>
    obtain ⟨capId, m⟩ := p
    simp only [Option.some.injEq, Prod.mk.injEq]
    by_cases hkind : m.kind = .publicModel
    · by_cases hclass : classOrder label.classification ≤ classOrder .public_
      · simp [hkind, hclass]
      · by_cases hid : nodeId = "public_research"
        · simp [hid]
        · simp [hkind, hclass, hid]
    · simp [hkind]

theorem checkTrust_eq_some {nodeId : String} {edge : CandidateEdge} {e : CompileError}
    (h : checkTrust manifests bindings nodeId edge = some e) :
    e.kind = .trustNotInherited ∧ e.nodeId = edge.toNode := by
  rw [checkTrust] at h
  split at h
  · cases h
  · split at h
    · cases h
    · split_ifs at h
      cases h
      exact ⟨rfl, rfl⟩

/-- The second rule for one edge. -/
theorem checkTrust_isSome_iff {nodeId : String} {edge : CandidateEdge} :
    (checkTrust manifests bindings nodeId edge).isSome ↔
      edge.fromNode = nodeId ∧
      (∃ capId m, boundManifest manifests bindings edge.toNode = some (capId, m) ∧
        m.kind = .publicModel) ∧
      edge.toNode ≠ "public_research" := by
  rw [checkTrust]
  by_cases hfrom : edge.fromNode = nodeId
  · rw [if_neg (not_not.mpr hfrom)]
    cases hbound : boundManifest manifests bindings edge.toNode with
    | none => simp
    | some p =>
      obtain ⟨capId, m⟩ := p
      simp only [Option.some.injEq, Prod.mk.injEq]
      by_cases hpublic : m.kind = .publicModel ∧ edge.toNode ≠ "public_research"
      · simp [hpublic, hfrom]
      · rw [if_neg hpublic]
        simp only [Option.isSome_none, Bool.false_eq_true, false_iff]
        rintro ⟨-, ⟨_, _, ⟨-, rfl⟩, hkind⟩, hid⟩
        exact hpublic ⟨hkind, hid⟩
  · simp [hfrom]

/-- The errors of one call, given the order it walks. -/
def errors (manifests : String → Option CapabilityManifest) (bindings : String → Option String)
    (g : NormalizedGraph) (initial : SecurityLabel) (order : List String) : List CompileError :=
  let labels := deriveLabels g initial order
  labels.filterMap (fun p ↦ checkPublic manifests bindings p.1 p.2) ++
    labels.flatMap fun p ↦
      if trustOrder p.2.sourceTrust = trustOrder .restricted then
        g.edges.filterMap (checkTrust manifests bindings p.1)
      else []

theorem check_eq_errors (h : g.topologicalOrder = some order) :
    check manifests bindings g initial = some (errors manifests bindings g initial order) := by
  rw [check, h]
  rfl

/-- An error of the call comes from the first rule at a labelled node, or from the second at an edge
that leaves a labelled node of restricted trust. -/
theorem mem_errors_iff {e : CompileError} : e ∈ errors manifests bindings g initial order ↔
    (∃ nodeId l, (nodeId, l) ∈ deriveLabels g initial order ∧
      checkPublic manifests bindings nodeId l = some e) ∨
    ∃ nodeId l, (nodeId, l) ∈ deriveLabels g initial order ∧
      trustOrder l.sourceTrust = trustOrder .restricted ∧
      ∃ edge ∈ g.edges, checkTrust manifests bindings nodeId edge = some e := by
  rw [errors, List.mem_append, List.mem_filterMap, List.mem_flatMap]
  simp only [Prod.exists]
  refine or_congr Iff.rfl
    (exists_congr fun nodeId ↦ exists_congr fun l ↦ and_congr_right fun _ ↦ ?_)
  by_cases htrust : trustOrder l.sourceTrust = trustOrder .restricted
  · rw [if_pos htrust, List.mem_filterMap]
    exact (and_iff_right htrust).symm
  · rw [if_neg htrust]
    simp [htrust]

/-- **Where the first rule reports.** -/
theorem reports_public_iff {nodeId : String} :
    Reports (errors manifests bindings g initial order) .restrictedToPublic nodeId ↔
      (nodeId ∈ order ∧ (g.nodes.find? nodeId).isSome) ∧
      (BoundToPublicModel manifests bindings nodeId ∧
        ¬BoundToUnnamed manifests bindings nodeId) ∧
      .public_ < initial.classification ∧ nodeId ≠ "public_research" := by
  have hlabel {l : SecurityLabel} (hl : (nodeId, l) ∈ deriveLabels g initial order) :
      (checkPublic manifests bindings nodeId l).isSome ↔
        (BoundToPublicModel manifests bindings nodeId ∧
          ¬BoundToUnnamed manifests bindings nodeId) ∧
        .public_ < initial.classification ∧ nodeId ≠ "public_research" := by
    rw [checkPublic_isSome_iff, exists_boundManifest_iff,
      (labelled_deriveLabels order (nodeId, l) hl).1]
  rw [← exists_mem_deriveLabels_iff]
  constructor
  · rintro ⟨e, he, hkind, rfl⟩
    rcases mem_errors_iff.mp he with ⟨id, l, hl, hcheck⟩ | ⟨id, l, -, -, edge, -, hcheck⟩
    · obtain ⟨-, hid⟩ := checkPublic_eq_some hcheck
      subst hid
      exact ⟨⟨l, hl⟩, (hlabel hl).mp (by rw [hcheck]; rfl)⟩
    · rw [(checkTrust_eq_some hcheck).1] at hkind
      cases hkind
  · rintro ⟨⟨l, hl⟩, hrule⟩
    obtain ⟨e, he⟩ := Option.isSome_iff_exists.mp ((hlabel hl).mpr hrule)
    obtain ⟨hkind, hid⟩ := checkPublic_eq_some he
    exact ⟨e, mem_errors_iff.mpr (Or.inl ⟨nodeId, l, hl, he⟩), hkind, hid⟩

/-- **Where the second rule reports**, in a graph whose edges leave labelled nodes. -/
theorem reports_trust_iff {nodeId : String}
    (hsource : ∀ e ∈ g.edges, e.fromNode ∈ order ∧ (g.nodes.find? e.fromNode).isSome) :
    Reports (errors manifests bindings g initial order) .trustNotInherited nodeId ↔
      (∃ edge ∈ g.edges, edge.toNode = nodeId) ∧
      (BoundToPublicModel manifests bindings nodeId ∧
        ¬BoundToUnnamed manifests bindings nodeId) ∧
      initial.sourceTrust = .restricted ∧ nodeId ≠ "public_research" := by
  have htrust {p : String × SecurityLabel} (hp : p ∈ deriveLabels g initial order) :
      trustOrder p.2.sourceTrust = trustOrder .restricted ↔ initial.sourceTrust = .restricted := by
    rw [(labelled_deriveLabels order p hp).2, trustOrder_injective.eq_iff]
  rw [← exists_boundManifest_iff]
  constructor
  · rintro ⟨e, he, hkind, rfl⟩
    rcases mem_errors_iff.mp he with ⟨id, l, -, hcheck⟩ | ⟨id, l, hl, hr, edge, hedge, hcheck⟩
    · rw [(checkPublic_eq_some hcheck).1] at hkind
      cases hkind
    · have hto := (checkTrust_eq_some hcheck).2
      obtain ⟨-, hbound, hid⟩ := checkTrust_isSome_iff.mp (by rw [hcheck]; rfl)
      rw [hto]
      exact ⟨⟨edge, hedge, rfl⟩, hbound, (htrust hl).mp hr, hid⟩
  · rintro ⟨⟨edge, hedge, rfl⟩, hbound, hr, hid⟩
    obtain ⟨l, hl⟩ := exists_mem_deriveLabels_iff.mpr (hsource edge hedge)
    obtain ⟨e, he⟩ := Option.isSome_iff_exists.mp
      (checkTrust_isSome_iff.mpr ⟨rfl, hbound, hid⟩ :
        (checkTrust manifests bindings edge.fromNode edge).isSome)
    obtain ⟨hkind, hto⟩ := checkTrust_eq_some he
    exact ⟨e, mem_errors_iff.mpr (Or.inr ⟨_, l, hl, (htrust hl).mpr hr, edge, hedge, he⟩),
      hkind, hto⟩

/-! ## The decision is exact -/

/-- The labels of all nodes agree with the initial one, and the two rules are reported at exactly
the nodes they name. -/
structure Exact (manifests : String → Option CapabilityManifest)
    (bindings : String → Option String) (initial : SecurityLabel) (g : NormalizedGraph)
    (order : List String) (errors : List CompileError) : Prop where
  labels : ∀ n ∈ g.nodes.rows, (∃ l, (n.nodeId, l) ∈ deriveLabels g initial order) ∧
    ∀ l, (n.nodeId, l) ∈ deriveLabels g initial order → Agrees l initial
  toPublic : ∀ nodeId, Reports errors .restrictedToPublic nodeId ↔
    (∃ n ∈ g.nodes.rows, n.nodeId = nodeId) ∧ nodeId ≠ "public_research" ∧
      BoundToPublicModel manifests bindings nodeId ∧ .public_ < initial.classification
  trust : ∀ nodeId, Reports errors .trustNotInherited nodeId ↔
    (∃ edge ∈ g.edges, edge.toNode = nodeId) ∧ nodeId ≠ "public_research" ∧
      BoundToPublicModel manifests bindings nodeId ∧ initial.sourceTrust = .restricted

/-- No node but `public_research` that is bound to a public model carries a label above public. -/
def NothingLeaks (manifests : String → Option CapabilityManifest)
    (bindings : String → Option String) (initial : SecurityLabel) (g : NormalizedGraph)
    (order : List String) : Prop :=
  ∀ n ∈ g.nodes.rows, n.nodeId ≠ "public_research" →
    BoundToPublicModel manifests bindings n.nodeId →
    ∀ l, (n.nodeId, l) ∈ deriveLabels g initial order → l.classification ≤ .public_

/-- A node that one of the rules names is bound to a public model under an id of its own. -/
def Named (manifests : String → Option CapabilityManifest) (bindings : String → Option String)
    (initial : SecurityLabel) (g : NormalizedGraph) : Prop :=
  ∀ n ∈ g.nodes.rows, n.nodeId ≠ "public_research" →
    BoundToUnnamed manifests bindings n.nodeId →
    initial.classification ≤ .public_ ∧
      (initial.sourceTrust = .restricted → ∀ edge ∈ g.edges, edge.toNode ≠ n.nodeId)

/-- The graph has an order, in which every node is listed, and its edges join its nodes. -/
structure Ordered (g : NormalizedGraph) (order : List String) : Prop where
  eq_some : g.topologicalOrder = some order
  listed : ∀ n ∈ g.nodes.rows, n.nodeId ∈ order
  ends : ∀ edge ∈ g.edges, (∃ n ∈ g.nodes.rows, n.nodeId = edge.fromNode) ∧
    ∃ n ∈ g.nodes.rows, n.nodeId = edge.toNode

namespace Ordered

variable (h : Ordered g order)

include h

theorem labelled_iff {nodeId : String} :
    (nodeId ∈ order ∧ (g.nodes.find? nodeId).isSome) ↔ ∃ n ∈ g.nodes.rows, n.nodeId = nodeId := by
  rw [Option.isSome_iff_exists]
  constructor
  · rintro ⟨-, n, hn⟩
    exact ⟨n, KeyedTable.mem_of_find? hn, KeyedTable.key_of_find? hn⟩
  · rintro ⟨n, hn, rfl⟩
    exact ⟨h.listed n hn, n, KeyedTable.find?_of_mem hn⟩

theorem restrictedToPublic_iff {nodeId : String} :
    Reports (errors manifests bindings g initial order) .restrictedToPublic nodeId ↔
      (∃ n ∈ g.nodes.rows, n.nodeId = nodeId) ∧ nodeId ≠ "public_research" ∧
        (BoundToPublicModel manifests bindings nodeId ∧
          ¬BoundToUnnamed manifests bindings nodeId) ∧
        .public_ < initial.classification := by
  rw [reports_public_iff, h.labelled_iff]
  tauto

theorem trustNotInherited_iff {nodeId : String} :
    Reports (errors manifests bindings g initial order) .trustNotInherited nodeId ↔
      (∃ edge ∈ g.edges, edge.toNode = nodeId) ∧ nodeId ≠ "public_research" ∧
        (BoundToPublicModel manifests bindings nodeId ∧
          ¬BoundToUnnamed manifests bindings nodeId) ∧
        initial.sourceTrust = .restricted := by
  rw [reports_trust_iff fun e he ↦ h.labelled_iff.mpr (h.ends e he).1]
  tauto

/-- The decision is exact if and only if the public models that matter have names. -/
theorem exact_iff : Exact manifests bindings initial g order
    (errors manifests bindings g initial order) ↔ Named manifests bindings initial g := by
  constructor
  · intro hexact n hn hid hunnamed
    have hbound := hunnamed.bound
    refine ⟨?_, fun hr edge hedge hto ↦ ?_⟩
    · by_contra habove
      have hreport := (hexact.toPublic n.nodeId).mpr ⟨⟨n, hn, rfl⟩, hid, hbound, not_le.mp habove⟩
      exact (h.restrictedToPublic_iff.mp hreport).2.2.1.2 hunnamed
    · have hreport := (hexact.trust n.nodeId).mpr ⟨⟨edge, hedge, hto⟩, hid, hbound, hr⟩
      exact (h.trustNotInherited_iff.mp hreport).2.2.1.2 hunnamed
  · intro hnamed
    refine ⟨fun n hn ↦ ⟨?_, fun l hl ↦ labelled_deriveLabels order _ hl⟩, ?_, ?_⟩
    · exact exists_mem_deriveLabels_iff.mpr (h.labelled_iff.mpr ⟨n, hn, rfl⟩)
    · intro nodeId
      rw [h.restrictedToPublic_iff]
      constructor
      · rintro ⟨hn, hid, ⟨hbound, -⟩, hclass⟩
        exact ⟨hn, hid, hbound, hclass⟩
      · rintro ⟨⟨n, hn, rfl⟩, hid, hbound, hclass⟩
        refine ⟨⟨n, hn, rfl⟩, hid, ⟨hbound, fun hunnamed ↦ ?_⟩, hclass⟩
        exact absurd (hnamed n hn hid hunnamed).1 (not_le.mpr hclass)
    · intro nodeId
      rw [h.trustNotInherited_iff]
      constructor
      · rintro ⟨hedge, hid, ⟨hbound, -⟩, hr⟩
        exact ⟨hedge, hid, hbound, hr⟩
      · rintro ⟨⟨edge, hedge, rfl⟩, hid, hbound, hr⟩
        refine ⟨⟨edge, hedge, rfl⟩, hid, ⟨hbound, fun hunnamed ↦ ?_⟩, hr⟩
        obtain ⟨n, hn, hto⟩ := (h.ends edge hedge).2
        rw [← hto] at hid hunnamed
        exact (hnamed n hn hid hunnamed).2 hr edge hedge hto.symm

end Ordered

/-- The normal form of a parsed graph is ordered. -/
theorem ordered_of_parsed {template : TaskTemplate} {contract : TaskContract}
    {candidate : CandidateGraph} (h : Parser.Parsed template contract candidate) :
    ∃ order, Ordered (Normalizer.normalize candidate) order := by
  obtain ⟨order, horder, hordered⟩ := Normalizer.exists_order_normalize h
  refine ⟨order, horder, fun n hn ↦ ?_, fun e he ↦ ?_⟩
  · exact hordered.perm.mem_iff.mpr (List.mem_map.mpr ⟨n, hn, rfl⟩)
  · obtain ⟨hfrom, hto⟩ := Normalizer.ends_mem_normalize h e he
    exact ⟨List.mem_map.mp hfrom, List.mem_map.mp hto⟩

end InformationFlowChecker

namespace TrustCompiler

open InformationFlowChecker

variable {compiler : TrustCompiler} {template : TaskTemplate} {contract : TaskContract}
  {initialLabel : SecurityLabel} {bindings : String → Option String} {g : NormalizedGraph}

/-- An accepted graph has no error of information flow. -/
theorem Accepts.flow (h : Accepts compiler template contract initialLabel bindings g) :
    check compiler.manifests bindings g initialLabel = some [] := by
  rw [Accepts, compile] at h
  split at h
  · cases h
  next candidate hparse =>
  simp only at h
  split at h
  · cases h
  next flow hflow =>
  split at h
  · next herrors =>
    cases h
    rw [List.isEmpty_iff, List.append_eq_nil_iff, List.append_eq_nil_iff,
      List.append_eq_nil_iff] at herrors
    rw [hflow, herrors.1.1.2]
  · cases h

end TrustCompiler

namespace InformationFlowChecker

/-- What the checker decides about a parsed graph is exact, and a graph that the compiler accepts
does not leak. -/
def Decides (manifests : String → Option CapabilityManifest) (bindings : String → Option String)
    (initial : SecurityLabel) (template : TaskTemplate) (contract : TaskContract)
    (candidate : CandidateGraph) : Prop :=
  ∃ order errors,
    (Normalizer.normalize candidate).topologicalOrder = some order ∧
    check manifests bindings (Normalizer.normalize candidate) initial = some errors ∧
    Exact manifests bindings initial (Normalizer.normalize candidate) order errors ∧
    (TrustCompiler.Accepts ⟨manifests⟩ template contract initial bindings
        (Normalizer.normalize candidate) →
      NothingLeaks manifests bindings initial (Normalizer.normalize candidate) order)

theorem named_of_decides {initial : SecurityLabel} {template : TaskTemplate}
    {contract : TaskContract} {candidate : CandidateGraph}
    (hparse : Parser.parse template contract = .ok candidate)
    (h : Decides manifests bindings initial template contract candidate) :
    Named manifests bindings initial (Normalizer.normalize candidate) := by
  obtain ⟨order, errors', horder, herrors, hexact, -⟩ := h
  obtain ⟨order', hordered⟩ := ordered_of_parsed (Parser.parsed_of_parse hparse)
  obtain rfl := Option.some.inj (hordered.eq_some.symm.trans horder)
  obtain rfl := Option.some.inj ((check_eq_errors hordered.eq_some).symm.trans herrors)
  exact hordered.exact_iff.mp hexact

/-- **When the decision of the checker is exact.** For every parsed and normalized graph, whatever
its shape: the labels all agree with the initial one, the two rules are reported at exactly the
nodes they name, and a graph the compiler accepts does not leak, if and only if every node that a
rule names is bound to its public model under an id that is not empty. -/
theorem decides_iff (manifests : String → Option CapabilityManifest)
    (bindings : String → Option String) (initial : SecurityLabel) (template : TaskTemplate)
    (contract : TaskContract) (candidate : CandidateGraph)
    (hparse : Parser.parse template contract = .ok candidate) :
    Decides manifests bindings initial template contract candidate ↔
      Named manifests bindings initial (Normalizer.normalize candidate) := by
  constructor
  · exact named_of_decides hparse
  · intro hnamed
    obtain ⟨order, hordered⟩ := ordered_of_parsed (Parser.parsed_of_parse hparse)
    have hcheck : check manifests bindings (Normalizer.normalize candidate) initial = some _ :=
      check_eq_errors hordered.eq_some
    have hexact := hordered.exact_iff.mpr hnamed
    refine ⟨order, _, hordered.eq_some, hcheck, hexact, ?_⟩
    intro haccepts n hn hid hbound l hl
    -- a label above public would have been reported
    by_contra habove
    rw [((hexact.labels n hn).2 l hl).1] at habove
    obtain ⟨e, he, -⟩ :=
      (hexact.toPublic n.nodeId).mpr ⟨⟨n, hn, rfl⟩, hid, hbound, not_le.mp habove⟩
    have hnil := haccepts.flow
    rw [hcheck] at hnil
    rw [Option.some.inj hnil] at he
    cases he

/-! ## A public model without a name -/

/-- A public model. -/
def publicModel (capabilityId : String) : CapabilityManifest where
  capabilityId := capabilityId
  name := "Public model"
  kind := .publicModel
  endpoint := "https://api.example"

/-- All nodes of a chain are bound to a public model that has a name. -/
theorem decides_iff_chain : ∃ candidate,
    Parser.parse TrustCompiler.chainTemplate TrustCompiler.sampleContract = .ok candidate ∧
    Decides (fun _ ↦ some (publicModel "gpt")) (fun _ ↦ some "gpt")
      { classification := .restricted } TrustCompiler.chainTemplate TrustCompiler.sampleContract
      candidate := by
  refine ⟨_, rfl, ?_⟩
  refine (decides_iff (fun _ ↦ some (publicModel "gpt")) (fun _ ↦ some "gpt")
    { classification := .restricted } TrustCompiler.chainTemplate TrustCompiler.sampleContract _
    rfl).mpr fun n _ _ hunnamed ↦ ?_
  have hid : "gpt" = "" := Option.some.inj hunnamed.1
  exact absurd hid (by decide)

/-- A node bound to a public model under the empty id is let through with restricted data. -/
theorem unnamed_not_decided : ¬∀ (manifests : String → Option CapabilityManifest)
    (bindings : String → Option String) (initial : SecurityLabel) (template : TaskTemplate)
    (contract : TaskContract) (candidate : CandidateGraph),
    Parser.parse template contract = .ok candidate →
    Decides manifests bindings initial template contract candidate := by
  intro h
  have hparse : ∃ candidate,
      Parser.parse TrustCompiler.chainTemplate TrustCompiler.sampleContract = .ok candidate ∧
      ∃ n ∈ (Normalizer.normalize candidate).nodes.rows, n.nodeId = "draft" :=
    ⟨_, rfl, _, List.mem_cons_self, rfl⟩
  obtain ⟨candidate, hparse, n, hn, hid⟩ := hparse
  have hnamed := named_of_decides hparse (h (fun _ ↦ some (publicModel "")) (fun _ ↦ some "")
    { classification := .restricted } _ _ candidate hparse)
  have hne : "draft" ≠ "public_research" := by decide
  obtain ⟨hclass, -⟩ := hnamed n hn (by rw [hid]; exact hne) ⟨rfl, publicModel "", rfl, rfl⟩
  exact absurd hclass (by decide)

end InformationFlowChecker

end Orchestra
