import Orchestra.Coordinator.EngineRun

/-!
# What a run hands over and records

Four properties of every call of every run, read off from the calls being legitimate: what the
adapter of a public model is handed, when the intent of a call is logged, which capability an
execution is recorded with, and which plan a receipt names.
-/

namespace Orchestra

namespace Engine

open Interaction

/-! ## Projection -/

/-- The inputs are what the enforcement point replied when it was called for this capability: the
projection of a payload by a field manifest of the capability, with its allowed fields only. -/
def HandsOverProjection (P : Primitives) (pep : EgressPEP) (pre : RunTrace)
    (request : AdapterRequest) : Prop :=
  ∃ viewName payload m,
    (⟨.project request.grant.capabilityId viewName payload, .ok (request.inputs, m)⟩ : RunStep)
      ∈ pre ∧
    pep.lookup request.grant.capabilityId viewName = .ok (some m) ∧
    pep.project P request.grant.capabilityId viewName payload = .ok (request.inputs, m) ∧
    ∀ f ∈ request.inputs, f.1 ∈ m.allowedFields

section

variable {cfg : Config} {pep : EgressPEP} {taskRunId : String} {pre : RunTrace}
  {request : AdapterRequest}

/-- A reply of the enforcement point is a projection. -/
theorem HandsProjection.handsOver (h : HandsProjection pre request)
    (hadmitted : EveryStep (Admitted cfg taskRunId) pre) (hpep : cfg.egressPep = some pep) :
    HandsOverProjection cfg.P pep pre request := by
  obtain ⟨viewName, payload, m, hmem⟩ := h
  obtain ⟨before, hstep⟩ := hadmitted.exists_of_mem hmem
  obtain ⟨pep', hpep', hproject⟩ := hstep.project _ _ _ _ rfl
  obtain rfl : pep = pep' := Option.some.inj (hpep.symm.trans hpep')
  obtain ⟨hlookup, hinputs⟩ := EgressPEP.project_eq_ok hproject
  refine ⟨viewName, payload, m, hmem, hlookup, hproject, fun f hf ↦ ?_⟩
  rw [hinputs] at hf
  exact FieldProjector.mem_allowedFields hf

/-- A projection is made for a capability that declares a view. -/
theorem HandsOverProjection.declaresView (hlegit : EveryStep (Legit cfg taskRunId) pre)
    {m : CapabilityManifest} (hm : cfg.router.store.find? request.grant.capabilityId = some m)
    (h : HandsOverProjection cfg.P pep pre request) : m.DeclaresView := by
  obtain ⟨viewName, payload, fm, hmem, -⟩ := h
  obtain ⟨before, hstep⟩ := hlegit.exists_of_mem hmem
  obtain ⟨m', hm', hview, hne⟩ := hstep.projected _ _ _ rfl
  obtain rfl : m = m' := Option.some.inj (hm.symm.trans hm')
  exact ⟨viewName, hview, hne⟩

end

/-- **What a public model is handed.** In every run of a coordinator with an enforcement point, the
adapter of a public model is handed a projection if and only if its manifest declares a view. -/
theorem public_egress_projected_iff (cfg : Config) (pep : EgressPEP) (a : RunArgs)
    (env : Env a.taskRunId) (w : World) :
    EveryStep (fun pre s ↦ ∀ request, s.cmd = .invoke request →
        ∃ m, cfg.router.store.find? request.grant.capabilityId = some m ∧
          (m.kind = .publicModel →
            (HandsOverProjection cfg.P pep pre request ↔ m.DeclaresView)))
      (execRun { cfg with egressPep := some pep } a env w).trace := by
  have hlegit := execRun_legit { cfg with egressPep := some pep } a env w
  have hadmitted := execRun_admitted { cfg with egressPep := some pep } a env w
  refine ((hlegit.and hlegit.before).and hadmitted.before).imp ?_
  rintro pre s ⟨⟨hs, hpre⟩, hreplies⟩ request hc
  obtain ⟨m, hm, hproject⟩ := (hs.invoked request hc).capability
  refine ⟨m, hm, fun _ ↦ ⟨fun h ↦ ?_, fun hview ↦ ?_⟩⟩
  · exact HandsOverProjection.declaresView hpre hm h
  · have hover := (hproject hview rfl).handsOver hreplies rfl
    exact hover

/-- In some run a public model is handed what nobody projected: its manifest declares no view. -/
theorem public_egress_unprojected :
    ¬∀ (cfg : Config) (pep : EgressPEP) (a : RunArgs) (env : Env a.taskRunId) (w : World),
      cfg.egressPep = some pep →
      EveryStep (fun pre s ↦ ∀ request, s.cmd = .invoke request →
          ∀ m, cfg.router.store.find? request.grant.capabilityId = some m →
            m.kind = .publicModel → HandsOverProjection cfg.P pep pre request)
        (execRun cfg a env w).trace := by
  intro h
  obtain ⟨hinvoked, -⟩ := sampleRun_facts
  obtain ⟨s, hs, hcap⟩ := List.any_eq_true.mp hinvoked
  obtain ⟨request, hc, hid⟩ := Cmd.eq_invoke (of_decide_eq_true hcap)
  have hlegit := execRun_legit (sampleConfig sampleAdapters) sampleArgs completedRaises {}
  have hsteps := h (sampleConfig sampleAdapters) _ sampleArgs completedRaises {} rfl
  obtain ⟨pre, hhands, hpre⟩ := (hsteps.and hlegit.before).exists_of_mem hs
  have hm : (sampleConfig sampleAdapters).router.store.find? request.grant.capabilityId
      = some (sampleManifest "public.openai-compat" .publicModel [{ kind := .read }]) := by
    rw [hid]
    decide
  obtain ⟨viewName, hview, -⟩ := (hhands request hc _ hm rfl).declaresView hpre hm
  cases hview

/-! ## Intent -/

/-- Every call of an adapter comes after the grant and the intent of its node run were logged. -/
def IntentBeforeEffect (taskRunId : String) : RunTrace → Prop :=
  EveryStep fun pre s ↦ ∀ request, s.cmd = .invoke request →
    HasEvent taskRunId pre .grantIssued request.grant.nodeRunId ∧
      HasEvent taskRunId pre .ioIntent request.grant.nodeRunId

/-- **Effect before intent.** In every run, whenever an adapter is called its grant has been logged
and its intent has not; so intents come first exactly in the runs that call no adapter. -/
theorem effect_before_intent (cfg : Config) (a : RunArgs) (env : Env a.taskRunId) (w : World) :
    EveryStep (fun pre s ↦ ∀ request, s.cmd = .invoke request →
        HasEvent a.taskRunId pre .grantIssued request.grant.nodeRunId ∧
          ¬HasEvent a.taskRunId pre .ioIntent request.grant.nodeRunId)
      (execRun cfg a env w).trace ∧
    (IntentBeforeEffect a.taskRunId (execRun cfg a env w).trace ↔
      ∀ s ∈ (execRun cfg a env w).trace, ∀ request, s.cmd ≠ .invoke request) := by
  have hsteps := (execRun_legit cfg a env w).imp fun pre s hs request hc ↦
    And.intro (hs.invoked request hc).granted (hs.invoked request hc).noIntent
  refine ⟨hsteps, fun h s hs request hc ↦ ?_, fun h pre s post heq request hc ↦ ?_⟩
  · obtain ⟨pre, hboth⟩ := (h.and hsteps).exists_of_mem hs
    exact (hboth.2 request hc).2 (hboth.1 request hc).2
  · exact absurd hc (h s (by rw [heq]; simp) request)

/-- A run in which an adapter is called before the intent of the call is logged. -/
theorem intent_not_before_effect :
    ¬∀ (cfg : Config) (a : RunArgs) (env : Env a.taskRunId) (w : World),
      IntentBeforeEffect a.taskRunId (execRun cfg a env w).trace := by
  intro h
  obtain ⟨hinvoked, -⟩ := sampleRun_facts
  obtain ⟨s, hs, hcap⟩ := List.any_eq_true.mp hinvoked
  obtain ⟨request, hc, -⟩ := Cmd.eq_invoke (of_decide_eq_true hcap)
  have hlegit := execRun_legit (sampleConfig sampleAdapters) sampleArgs completedRaises {}
  have hsteps := h (sampleConfig sampleAdapters) sampleArgs completedRaises {}
  obtain ⟨pre, hfirst, hinvoke⟩ := (EveryStep.and hsteps hlegit).exists_of_mem hs
  exact (hinvoke.invoked request hc).noIntent (hfirst request hc).2

/-! ## The plan that is executed -/

/-- What a node is bound to. -/
def Record.binding (node : PlanNode) : Record :=
  ⟨some node.nodeId, some node.capabilityId, some node.manifestId⟩

/-- The record is the binding of a node in the signed and announced plan. -/
def RecordsBinding (cfg : Config) (taskRunId : String) (pre : RunTrace) (r : Record) : Prop :=
  ∃ plan node, Announced cfg taskRunId pre plan ∧ plan.node? node.nodeId = some node ∧
    r = .binding node

/-- A node is bound to a manifest, and to the one it is executed on. -/
def ExecutedAsBound (node : PlanNode) : Prop :=
  node.manifestId ≠ "" ∧ (node.nodeId = "merge" → node.capabilityId = mergeCapability)

/-- What is executed for a node is its binding if and only if it is executed as it is bound. -/
theorem executed_eq_binding_iff {cfg : Config} {node : PlanNode} {m : CapabilityManifest}
    (hbound : Bound cfg node) (hm : cfg.router.store.find? (executedOn node) = some m) :
    (⟨some node.nodeId, some (executedOn node), some (m.manifestId cfg.P cfg.F)⟩ : Record)
      = .binding node ↔ ExecutedAsBound node := by
  have hne := m.manifestId_ne_empty (P := cfg.P) (F := cfg.F)
  simp only [Record.binding, Record.mk.injEq, Option.some.injEq, true_and]
  constructor
  · rintro ⟨hcap, hman⟩
    refine ⟨hman ▸ hne, fun hmerge ↦ ?_⟩
    rw [← hcap, executedOn, if_pos hmerge]
  · rintro ⟨hmanifest, hmerge⟩
    have hcap : executedOn node = node.capabilityId := by
      rw [executedOn]
      split
      · next h => exact (hmerge h).symm
      · rfl
    refine ⟨hcap, ?_⟩
    rcases hbound with ⟨m', hm', hman⟩ | ⟨-, hempty⟩
    · rw [hcap, hm'] at hm
      rw [hman, Option.some.inj hm]
    · exact absurd hempty hmanifest

/-- **Plan fidelity.** Every row, `node.started` event, grant, receipt and call of an adapter of
every run is about a node of the signed and announced plan; and what it records is the binding of
this node if and only if the node is bound to a manifest and, if it is `merge`, to the capability
that `merge` is forced on. -/
theorem recorded_as_bound_iff (cfg : Config) (a : RunArgs) (env : Env a.taskRunId) (w : World) :
    EveryStep (fun pre s ↦ ∀ r, s.cmd.record? = some r →
        ∃ plan node, Announced cfg a.taskRunId pre plan ∧ plan.node? node.nodeId = some node ∧
          r.nodeId = some node.nodeId ∧ (r = .binding node ↔ ExecutedAsBound node))
      (execRun cfg a env w).trace := by
  refine (execRun_legit cfg a env w).imp fun pre s hs r hr ↦ ?_
  obtain ⟨plan, node, m, hplan, hnode, hbound, hm, rfl⟩ := hs.record r hr
  exact ⟨plan, node, hplan, hnode, rfl, executed_eq_binding_iff hbound hm⟩

/-- The plan signed before a call is the one signed in the run. -/
theorem signedPlan_of_prefix {pre t : RunTrace} {plan : ExecutionPlan} (h : pre <+: t)
    (hplan : signedPlan pre = some plan) : signedPlan t = some plan := by
  obtain ⟨rest, rfl⟩ := h
  rw [signedPlan, List.filterMap_append, List.head?_append, ← signedPlan, hplan, Option.some_or]

/-- In some run `merge` is executed on another capability than the one it is bound to. -/
theorem merge_not_as_bound :
    ¬∀ (cfg : Config) (a : RunArgs) (env : Env a.taskRunId) (w : World),
      EveryStep (fun pre s ↦ ∀ r, s.cmd.record? = some r → RecordsBinding cfg a.taskRunId pre r)
        (execRun cfg a env w).trace := by
  intro h
  obtain ⟨-, -, hmerge, hbound, -⟩ := sampleRun_facts
  obtain ⟨s, hs, hrecord⟩ := List.any_eq_true.mp hmerge
  obtain ⟨r, hr, hof⟩ := (Option.any_eq_true _ _).mp hrecord
  obtain ⟨hnode, hcap⟩ : r.OfMerge := of_decide_eq_true hof
  obtain ⟨pre, post, heq⟩ := List.append_of_mem hs
  have hsteps := h (sampleConfig sampleAdapters) sampleArgs completedRaises {}
  obtain ⟨plan, node, hplan, hfound, rfl⟩ := hsteps pre s post heq r hr
  have hsigned := signedPlan_of_prefix ⟨s :: post, heq.symm⟩ hplan.signed
  have hid : node.nodeId = "merge" := Option.some.inj hnode
  rw [hid] at hfound
  rw [hsigned, Option.bind_some, hfound, Option.map_some, Option.some.injEq] at hbound
  have hforced : node.capabilityId = mergeCapability := Option.some.inj hcap
  rw [hbound] at hforced
  exact absurd hforced (by decide)

/-! ## The plan a receipt names -/

/-- Every receipt that is saved carries the digest of the announced plan, and is verified with
it. -/
def ReceiptsNamePlan (P : Primitives) (taskRunId : String) : RunTrace → Prop :=
  EveryStep fun pre s ↦ ∀ r, s.cmd = .saveReceipt r →
    ∃ digest, announcedDigest taskRunId .planCreated pre = some (.str digest) ∧
      r.signedField "plan_digest" = some (.str digest) ∧
      Evidence.Verified (Evidence.verifyReceiptOffline P r (some digest) none)

/-- What is known of a saved receipt: it names the plan by its identifier. -/
theorem BuiltFor.planDigest {cfg : Config} {taskRunId : String} {pre : RunTrace}
    {r : SignedReceipt} (h : BuiltFor cfg taskRunId pre r) :
    ∃ plan, Announced cfg taskRunId pre plan ∧
      r.signedField "plan_digest" = some (.str plan.planId) ∧
      ∀ plan' : ExecutionPlan, plan.planId ≠ plan'.digest cfg.P := by
  obtain ⟨plan, receiptId, now, args, hplan, rfl, hargs, hhyphen⟩ := h
  refine ⟨plan, hplan, ?_, fun plan' heq ↦ ?_⟩
  · rw [ReceiptBuilder.signedField_planDigest_build, hargs]
  · rw [heq, ExecutionPlan.digest] at hhyphen
    exact hyphen_notMem_digestJson _ hhyphen

/-- **Receipts name the plan by its identifier.** In every run, a receipt that is saved carries the
identifier of the announced plan, which is not its digest, and the offline verification refuses the
receipt for the digest of every plan, with any key or none. So the receipts of a run carry the
digest of its plan exactly in the runs that save no receipt. -/
theorem receipt_refused_for_plan (cfg : Config) (a : RunArgs) (env : Env a.taskRunId) (w : World) :
    EveryStep (fun pre s ↦ ∀ r, s.cmd = .saveReceipt r →
        ∃ plan, Announced cfg a.taskRunId pre plan ∧
          r.signedField "plan_digest" = some (.str plan.planId) ∧
          plan.planId ≠ plan.digest cfg.P ∧
          ∀ (plan' : ExecutionPlan) (key : Option (List UInt8)),
            ¬Evidence.Verified
              (Evidence.verifyReceiptOffline cfg.P r (some (plan'.digest cfg.P)) key))
      (execRun cfg a env w).trace ∧
    (ReceiptsNamePlan cfg.P a.taskRunId (execRun cfg a env w).trace ↔
      ∀ s ∈ (execRun cfg a env w).trace, ∀ r, s.cmd ≠ .saveReceipt r) := by
  have hsteps := (execRun_legit cfg a env w).imp fun pre s hs r hc ↦
    (hs.receipt r hc).planDigest
  refine ⟨hsteps.imp fun pre s hs r hc ↦ ?_, fun h s hs r hc ↦ ?_, fun h pre s post heq r hc ↦ ?_⟩
  · obtain ⟨plan, hplan, hfield, hne⟩ := hs r hc
    refine ⟨plan, hplan, hfield, hne plan, fun plan' key ↦ ?_⟩
    rw [Evidence.verified_offline_iff, not_not]
    refine Or.inr (Or.inr ⟨_, rfl, ?_⟩)
    rw [hfield]
    intro heq
    exact hne plan' (Json.str.inj (Option.some.inj heq))
  · obtain ⟨pre, hnames, hplan⟩ := (EveryStep.and h hsteps).exists_of_mem hs
    obtain ⟨digest, hannounced, hfield, -⟩ := hnames r hc
    obtain ⟨plan, hplan, hfield', hne⟩ := hplan r hc
    rw [hplan.planCreated] at hannounced
    rw [hfield, ← hannounced] at hfield'
    exact hne plan (Json.str.inj (Option.some.inj hfield')).symm
  · exact absurd hc (h s (by rw [heq]; simp) r)

/-- A run that saves a receipt which does not carry the digest of its plan. -/
theorem receipt_not_naming_plan :
    ¬∀ (cfg : Config) (a : RunArgs) (env : Env a.taskRunId) (w : World),
      ReceiptsNamePlan cfg.P a.taskRunId (execRun cfg a env w).trace := by
  intro h
  obtain ⟨-, hsaved, -⟩ := sampleRun_facts
  obtain ⟨s, hs, hsome⟩ := List.any_eq_true.mp hsaved
  obtain ⟨r, hr⟩ := Option.isSome_iff_exists.mp hsome
  have hlegit := execRun_legit (sampleConfig sampleAdapters) sampleArgs completedRaises {}
  have hsteps := h (sampleConfig sampleAdapters) sampleArgs completedRaises {}
  obtain ⟨pre, hnames, hstep⟩ := (EveryStep.and hsteps hlegit).exists_of_mem hs
  have hc := Cmd.eq_saveReceipt hr
  obtain ⟨digest, hannounced, hfield, -⟩ := hnames r hc
  obtain ⟨plan, hplan, hfield', hne⟩ := (hstep.receipt r hc).planDigest
  rw [hplan.planCreated] at hannounced
  rw [hfield, ← hannounced] at hfield'
  exact hne plan (Json.str.inj (Option.some.inj hfield')).symm

end Engine

end Orchestra
