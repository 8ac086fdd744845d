import Orchestra.Coordinator.EngineNode

/-!
# The calls of a run

Planning signs one plan, stores its identifier in the task's row and announces its digest; all that
follows happens under this plan. `execRun_legit` says that every call of every run is legitimate.
-/

namespace Orchestra

namespace Engine

open Interaction

variable {cfg : Config} {a : RunArgs} {taskRunId : String} {t : RunTrace} {s : RunStep}
  {plan : ExecutionPlan}

/-! ## The parts outside of a node -/

theorem calls_closeBus {φ : Cmd → Prop} (h : φ (.closeBus taskRunId)) :
    Calls φ (closeBus cfg taskRunId) := by
  rw [closeBus]
  split
  · exact calls_perform.mpr h
  · exact calls_pure ()

/-- A plain call that is not about a node run. -/
theorem routine_call {c : Cmd} {n : Option String} (hc : c.plain = true)
    (htask : c.writesTask = false) (hn : c.nodeRun? = none) : Calls (Cmd.Routine n) (call c) :=
  calls_perform.mpr ⟨hc, htask, fun m hm ↦ by rw [hn] at hm; cases hm⟩

theorem outside_updateTaskState (id : String) (state : TaskRunState) :
    Calls Cmd.Outside (call (.updateTaskState id state)) :=
  calls_perform.mpr (Or.inr ⟨id, state, rfl⟩)

theorem Calls.outside {α : Type} {p : Prog α} (h : Calls (Cmd.Routine none) p) :
    Calls Cmd.Outside p :=
  h.mono fun _ hc ↦ Or.inl hc

theorem routine_emit {kind : EventKind} {payload : Dict} (hkind : kind ≠ .nodeStarted) :
    Calls (Cmd.Routine none) (emit cfg taskRunId none kind payload) :=
  calls_emit fun _ hc ↦ hc.routine hkind

theorem calls_createApprovalRow {nodeId : String} :
    Calls (Cmd.Routine none) (createApprovalRow cfg taskRunId nodeId) := by
  rw [createApprovalRow]
  split
  · split
    · exact calls_pure _
    · refine Calls.tryCatch ?_ fun _ ↦ calls_pure _
      exact (routine_call rfl rfl rfl).bind fun approvalId ↦ calls_pure _
  · exact calls_pure _

theorem calls_saveLegacyRow {nodeId : String} {requestedAt : ℕ} {approvalId : Option String} :
    Calls (Cmd.Routine none) (saveLegacyRow taskRunId nodeId requestedAt approvalId) := by
  cases approvalId with
  | some id => exact calls_pure _
  | none => exact (routine_call rfl rfl rfl).bind fun newId ↦ routine_call rfl rfl rfl

theorem calls_approvalHandler {nodeId : String} {request : Dict} :
    Calls (Cmd.Routine none) (approvalHandler cfg taskRunId nodeId request) := by
  rw [approvalHandler]
  split
  · exact routine_call rfl rfl rfl
  · refine (routine_call rfl rfl rfl).bind fun now ↦ ?_
    refine calls_createApprovalRow.bind fun approvalId ↦ ?_
    refine (routine_call rfl rfl rfl).bind fun _ ↦ ?_
    refine calls_saveLegacyRow.bind fun _ ↦ ?_
    refine (routine_emit EventKind.noConfusion).bind fun _ ↦ ?_
    exact routine_call rfl rfl rfl

theorem calls_decideTask : Calls (Cmd.Routine none) (decideTask cfg a) := by
  refine (routine_call rfl rfl rfl).bind fun merged ↦ ?_
  refine calls_approvalHandler.bind fun decision ↦ ?_
  refine (routine_call rfl rfl rfl).bind fun _ ↦ ?_
  refine (routine_emit ?_).bind fun _ ↦ calls_pure _
  split <;> exact EventKind.noConfusion

theorem calls_rejectTask : Calls Cmd.Outside (rejectTask cfg a) := by
  refine (outside_updateTaskState _ _).bind fun _ ↦ Calls.outside ?_
  refine (routine_emit EventKind.noConfusion).bind fun _ ↦ ?_
  exact (calls_closeBus ⟨rfl, rfl, fun m hm ↦ by cases hm⟩).bind fun _ ↦ calls_pure _

theorem calls_failTask {e : Raised} : Calls Cmd.Outside (failTask cfg a e) := by
  refine (outside_updateTaskState _ _).bind fun _ ↦ Calls.outside ?_
  refine (routine_emit EventKind.noConfusion).bind fun _ ↦ ?_
  exact (calls_closeBus ⟨rfl, rfl, fun m hm ↦ by cases hm⟩).bind fun _ ↦ calls_pure _

theorem calls_verifyRows (rows : List Receipt) : Calls (Cmd.Routine none) (verifyRows rows) := by
  induction rows with
  | nil => exact calls_pure _
  | cons row rows ih =>
    exact (routine_call rfl rfl rfl).bind fun verified ↦ ih.bind fun rest ↦ calls_pure _

theorem calls_finishRun {ending : Ending} :
    Calls (Cmd.Routine none) (finishRun cfg a plan ending) := by
  cases ending with
  | completed =>
    refine ((routine_call rfl rfl rfl).bind calls_verifyRows).bind fun verified ↦ ?_
    refine (calls_closeBus ⟨rfl, rfl, fun m hm ↦ by cases hm⟩).bind fun _ ↦ ?_
    exact (routine_call rfl rfl rfl).bind fun results ↦ calls_pure _
  | rejected => exact (routine_call rfl rfl rfl).bind fun results ↦ calls_pure _
  | failed error => exact (routine_call rfl rfl rfl).bind fun results ↦ calls_pure _

/-! ## Executing the plan -/

theorem chosenCapability_of_ne {node : PlanNode} (h : node.nodeId ≠ "merge") :
    chosenCapability none node = executedOn node := (if_neg h).symm

theorem chosenCapability_merge {node : PlanNode} (h : node.nodeId = "merge") :
    chosenCapability (some mergeCapability) node = executedOn node := by
  have hne : mergeCapability ≠ "" := by decide
  rw [executedOn, if_pos h]
  simp only [chosenCapability, if_neg hne]

/-- Taking a node from the plan. -/
theorem planNode_legit {A : RunTrace → RunStep → Prop} {i : ℕ} {spec : NodeSpec}
    (hplan : WellPlanned cfg plan) (hspec : ContractReview.template.nodes[i]? = some spec)
    (happroval : spec.requiresApproval = false) :
    Triple A (Planned cfg taskRunId plan) (.ofExcept (planNode plan i))
      (fun node t ↦ (PlannedNode cfg plan node ∧ node.nodeId = spec.nodeId) ∧
        Planned cfg taskRunId plan t)
      fun _ ↦ Planned cfg taskRunId plan :=
  Triple.ofExcept (fun _ hnode _ ht ↦ ⟨hplan.planNode hspec happroval hnode, ht⟩)
    fun _ _ _ ht ↦ ht

theorem planned_of_routine {α : Type} {p : Prog α} {A : RunTrace → RunStep → Prop}
    (h : Calls (Cmd.Routine none) p) :
    Triple A (Planned cfg taskRunId plan) p (fun _ ↦ Planned cfg taskRunId plan)
      fun _ ↦ Planned cfg taskRunId plan :=
  (within_of_routine h).conseq (fun _ ht ↦ ht.within) (fun _ _ ht ↦ ht.planned) fun _ _ ht ↦ ht

theorem executeNodes_legit (hplan : WellPlanned cfg plan) :
    Triple (Admitted cfg a.taskRunId) (Planned cfg a.taskRunId plan) (executeNodes cfg a plan)
      (fun _ ↦ Planned cfg a.taskRunId plan) fun _ ↦ Planned cfg a.taskRunId plan := by
  have hingest : ContractReview.template.nodes[0]? = some ContractReview.ingestContract := rfl
  have hextract : ContractReview.template.nodes[1]? = some ContractReview.extractFactsLocal := rfl
  have hresearch : ContractReview.template.nodes[2]? = some ContractReview.publicResearch := rfl
  have hmerge : ContractReview.template.nodes[3]? = some ContractReview.merge := rfl
  -- a node that runs on its own capability
  have hown {spec : NodeSpec} {node : PlanNode} {previous : Dict} (hne : spec.nodeId ≠ "merge")
      (hnode : PlannedNode cfg plan node ∧ node.nodeId = spec.nodeId) :
      Triple (Admitted cfg a.taskRunId) (Planned cfg a.taskRunId plan)
        (execNode cfg a.taskRunId node previous none none)
        (fun _ ↦ Planned cfg a.taskRunId plan) fun _ ↦ Planned cfg a.taskRunId plan :=
    execNode_legit hnode.1 (chosenCapability_of_ne (hnode.2 ▸ hne)) hplan.hyphen
  refine (planNode_legit hplan hingest rfl).bind fun ingest ↦ Triple.of_pure fun hnode ↦ ?_
  refine (hown (by decide) hnode).bind fun _ ↦ ?_
  refine (planNode_legit hplan hextract rfl).bind fun extract ↦ Triple.of_pure fun hnode ↦ ?_
  refine (planned_of_routine (routine_call rfl rfl rfl)).bind fun contract ↦ ?_
  refine (hown (by decide) hnode).bind fun _ ↦ ?_
  refine (planNode_legit hplan hresearch rfl).bind fun research ↦ Triple.of_pure fun hnode ↦ ?_
  refine (planned_of_routine (routine_call rfl rfl rfl)).bind fun extracted ↦ ?_
  refine (planned_of_routine (calls_ofExcept _)).bind fun query ↦ ?_
  refine (hown (by decide) hnode).bind fun _ ↦ ?_
  refine (planNode_legit hplan hmerge rfl).bind fun merge ↦ Triple.of_pure fun hnode ↦ ?_
  refine (planned_of_routine (routine_call rfl rfl rfl)).bind fun facts ↦ ?_
  refine (planned_of_routine (routine_call rfl rfl rfl)).bind fun researched ↦ ?_
  exact execNode_legit hnode.1 (chosenCapability_merge hnode.2) hplan.hyphen

theorem completeTask_legit {decision : Dict} (hplan : WellPlanned cfg plan) :
    Triple (Admitted cfg a.taskRunId) (Planned cfg a.taskRunId plan)
      (completeTask cfg a plan decision)
      (fun _ ↦ Planned cfg a.taskRunId plan) fun _ ↦ Planned cfg a.taskRunId plan := by
  have hsink : ContractReview.template.nodes[5]? = some ContractReview.writeSink := rfl
  refine (planNode_legit hplan hsink rfl).bind fun sink ↦ Triple.of_pure fun hnode ↦ ?_
  have hne : sink.nodeId ≠ "merge" := by
    rw [hnode.2]
    decide
  refine (planned_of_routine (routine_call rfl rfl rfl)).bind fun merged ↦ ?_
  refine (execNode_legit hnode.1 (chosenCapability_of_ne hne) hplan.hyphen).bind fun _ ↦ ?_
  refine (planned_of_outside (outside_updateTaskState _ _)).bind fun _ ↦ ?_
  refine (planned_of_routine (routine_call rfl rfl rfl)).bind fun results ↦ ?_
  refine (planned_of_routine (routine_emit EventKind.noConfusion)).bind fun _ ↦ ?_
  exact Triple.ret fun t ht ↦ ht

theorem executePlan_legit (hplan : WellPlanned cfg plan) :
    Triple (Admitted cfg a.taskRunId) (Planned cfg a.taskRunId plan) (executePlan cfg a plan)
      (fun _ ↦ Planned cfg a.taskRunId plan) fun _ ↦ Planned cfg a.taskRunId plan := by
  refine (executeNodes_legit hplan).bind fun _ ↦ ?_
  refine (planned_of_routine calls_decideTask).bind fun decision ↦ ?_
  split
  · exact completeTask_legit hplan
  · exact planned_of_outside calls_rejectTask

/-! ## Planning -/

/-- No plan has been signed or announced. -/
structure Unplanned (cfg : Config) (taskRunId : String) (t : RunTrace) : Prop where
  legit : EveryStep (Legit cfg taskRunId) t
  unsigned : signedPlan t = none
  noPlan : ∀ ev ∈ events taskRunId t, ev.kind ≠ .planCreated ∧ ev.kind ≠ .planSigned

/-- The calls of the planning that neither sign nor announce the plan. -/
def Cmd.plans (c : Cmd) : Prop :=
  (c.Routine none ∨ ∃ id contractId templateId state planId,
    c = .upsertTaskRun id contractId templateId state planId) ∧
  ∀ ev, c = .appendEvent ev → ev.kind ≠ .planCreated ∧ ev.kind ≠ .planSigned

theorem Cmd.plans.legit (h : s.cmd.plans) : Legit cfg taskRunId t s := by
  rcases h.1 with hroutine | ⟨id, contractId, templateId, state, planId, hc⟩
  · exact hroutine.legit nofun
  · obtain ⟨c, r⟩ := s
    obtain rfl : c = _ := hc
    constructor
    · intro m hm
      cases hm
    · intro rec hrec
      cases hrec
    · intro id' viewName payload hc
      cases hc
    · intro request hc
      cases hc
    · intro receipt hc
      cases hc

theorem signed?_of_ne (h : ∀ plan, s.cmd ≠ .signPlan plan) : signed? s = none := by
  obtain ⟨c, r⟩ := s
  cases c with
  | signPlan plan => exact absurd rfl (h plan)
  | _ => rfl

theorem Cmd.plans.not_sign (h : s.cmd.plans) (plan : ExecutionPlan) : s.cmd ≠ .signPlan plan := by
  intro hc
  rcases h.1 with hroutine | ⟨id, contractId, templateId, state, planId, hc'⟩
  · have hplain := hroutine.plain
    rw [hc] at hplain
    cases hplain
  · rw [hc] at hc'
    cases hc'

/-- The events after a call are those before it, or the one it appends. -/
theorem events_concat_cases {ev : AuditEvent} (h : ev ∈ events taskRunId (t ++ [s])) :
    ev ∈ events taskRunId t ∨ s.cmd = .appendEvent ev := by
  obtain ⟨htask, hmem⟩ := mem_events_iff.mp h
  rcases List.mem_append.mp hmem with hmem | hmem
  · exact Or.inl (mem_events_iff.mpr ⟨htask, hmem⟩)
  · exact Or.inr (congrArg Step.cmd (List.mem_singleton.mp hmem).symm)

theorem Unplanned.concat (h : Unplanned cfg taskRunId t) (hs : s.cmd.plans) :
    Unplanned cfg taskRunId (t ++ [s]) where
  legit := everyStep_concat.mpr ⟨h.legit, hs.legit⟩
  unsigned := by rw [signedPlan_concat, h.unsigned, signed?_of_ne hs.not_sign, Option.none_or]
  noPlan ev hev := (events_concat_cases hev).elim (h.noPlan ev) (hs.2 ev)

/-- The bindings of a list of nodes. -/
structure Bindings (cfg : Config) (specs : List NodeSpec) (bindings : List ContractReview.Binding) :
    Prop where
  specs : bindings.map ContractReview.Binding.spec = specs
  bound : ∀ b ∈ bindings, b.spec.requiresApproval = false → Bound cfg (ContractReview.buildPlanNode b)

/-- What the router binds is a manifest of the store, or nothing. -/
theorem bound_of_binds {spec : NodeSpec} {q : Router.Query} {d : RoutingDecision}
    (h : Router.Binds cfg.P cfg.F cfg.router spec q d) :
    Bound cfg (ContractReview.buildPlanNode ⟨spec, d.chosenCapabilityId, d.chosenManifestId⟩) := by
  cases h with
  | candidate m hm hok hallowed hid hman =>
    refine Or.inl ⟨m, ?_, hman⟩
    rw [ContractReview.buildPlanNode, hid]
    exact KeyedTable.find?_of_mem hm
  | fallback m hnone hfb hid hman =>
    refine Or.inl ⟨m, ?_, hman⟩
    rw [ContractReview.buildPlanNode, hid]
    exact (Router.fallback_spec hfb).2
  | nothing hnone hfb hid hman => exact Or.inr ⟨hid, hman⟩

theorem plans_call {c : Cmd} (hc : c.plain = true) (htask : c.writesTask = false)
    (hn : c.nodeRun? = none) (hev : ∀ ev, c ≠ .appendEvent ev) : c.plans :=
  ⟨Or.inl ⟨hc, htask, fun m hm ↦ by rw [hn] at hm; cases hm⟩, fun ev heq ↦ absurd heq (hev ev)⟩

theorem unplanned_call {c : Cmd} {A : RunTrace → RunStep → Prop} (hc : c.plans) :
    Triple A (Unplanned cfg taskRunId) (call c) (fun _ ↦ Unplanned cfg taskRunId)
      fun _ ↦ Unplanned cfg taskRunId :=
  Triple.perform (fun _ _ ht _ ↦ ht.concat hc) fun _ _ ht _ ↦ ht.concat hc

/-- **The loop over the template.** -/
theorem planNodes_legit (label : SecurityLabel) (specs : List NodeSpec) (budget : ℚ) :
    Triple (Admitted cfg taskRunId) (Unplanned cfg taskRunId) (planNodes cfg label specs budget)
      (fun r t ↦ Bindings cfg specs r.2 ∧ Unplanned cfg taskRunId t)
      fun _ ↦ Unplanned cfg taskRunId := by
  induction specs generalizing budget with
  | nil => exact Triple.ret fun t ht ↦ ⟨⟨rfl, nofun⟩, ht⟩
  | cons spec specs ih =>
    rw [planNodes]
    split
    · next happroval =>
      refine (ih budget).bind fun rest ↦ Triple.of_pure fun hrest ↦ ?_
      refine Triple.ret fun t ht ↦ ⟨⟨congrArg (spec :: ·) hrest.specs, fun b hb hno ↦ ?_⟩, ht⟩
      rcases List.mem_cons.mp hb with rfl | hb
      · rw [happroval] at hno
        cases hno
      · exact hrest.bound b hb hno
    · have hroute (q : Router.Query) : (Cmd.route spec q).plans :=
        plans_call rfl rfl rfl (by rintro ev ⟨⟩)
      refine Triple.bind (Q := fun res t ↦ Bound cfg (ContractReview.buildPlanNode
        ⟨spec, res.decision.chosenCapabilityId, res.decision.chosenManifestId⟩) ∧
          Unplanned cfg taskRunId t) ?_ fun res ↦ Triple.of_pure fun hres ↦ ?_
      · exact Triple.perform (fun t res ht hA ↦ ⟨bound_of_binds (hA.route _ _ res rfl),
          ht.concat (hroute _)⟩) fun t e ht _ ↦ ht.concat (hroute _)
      refine (ih _).bind fun rest ↦ Triple.of_pure fun hrest ↦ ?_
      refine Triple.ret fun t ht ↦ ⟨⟨congrArg (spec :: ·) hrest.specs, fun b hb hno ↦ ?_⟩, ht⟩
      rcases List.mem_cons.mp hb with rfl | hb
      · exact hres
      · exact hrest.bound b hb hno

/-- The plan was signed, and is not announced yet. -/
structure Signing (cfg : Config) (taskRunId : String) (plan : ExecutionPlan) (t : RunTrace) :
    Prop where
  legit : EveryStep (Legit cfg taskRunId) t
  signed : signedPlan t = some plan
  noPlan : ∀ ev ∈ events taskRunId t, ev.kind ≠ .planCreated ∧ ev.kind ≠ .planSigned

theorem Signing.concat (h : Signing cfg taskRunId plan t) (hs : s.cmd.plans) :
    Signing cfg taskRunId plan (t ++ [s]) where
  legit := everyStep_concat.mpr ⟨h.legit, hs.legit⟩
  signed := signedPlan_of_concat h.signed
  noPlan ev hev := (events_concat_cases hev).elim (h.noPlan ev) (hs.2 ev)

/-- Signing is the one call that names the plan. -/
theorem Unplanned.sign {signature : String} (h : Unplanned cfg taskRunId t) :
    Signing cfg taskRunId plan (t ++ [⟨.signPlan plan, .ok signature⟩]) where
  legit := by
    refine everyStep_concat.mpr ⟨h.legit, ?_⟩
    constructor
    · intro m hm
      cases hm
    · intro rec hrec
      cases hrec
    · intro id viewName payload hc
      cases hc
    · intro request hc
      cases hc
    · intro receipt hc
      cases hc
  signed := by
    rw [signedPlan_concat, h.unsigned]
    rfl
  noPlan ev hev := by
    rcases events_concat_cases hev with hmem | hc
    · exact h.noPlan ev hmem
    · cases hc

theorem buildPlan_legit :
    Triple (Admitted cfg a.taskRunId) (Unplanned cfg a.taskRunId) (buildPlan cfg a)
      (fun p t ↦ ∃ plan, (∃ signature, p = { plan with signature := some signature } ∧
        WellPlanned cfg plan) ∧ Signing cfg a.taskRunId plan t)
      fun _ ↦ EveryStep (Legit cfg a.taskRunId) := by
  refine ((planNodes_legit a.dataLabel ContractReview.template.nodes a.budgetUsd).post_error
    fun _ t ht ↦ ht.legit).bind fun r ↦ Triple.of_pure fun hr ↦ ?_
  obtain ⟨routing, bindings⟩ := r
  have hnewId : (Cmd.newId).plans := plans_call rfl rfl rfl (by rintro ev ⟨⟩)
  refine Triple.bind (Q := fun planId t ↦ '-' ∈ planId.toList ∧ Unplanned cfg a.taskRunId t) ?_
    fun planId ↦ Triple.of_pure fun hplanId ↦ ?_
  · refine Triple.perform (fun t planId ht hA ↦ ⟨?_, ht.concat hnewId⟩) fun t e ht _ ↦
      (ht.concat hnewId).legit
    obtain ⟨id, hid, -, hhyphen⟩ := hA.newId _ rfl
    rw [Except.ok.inj hid]
    exact hhyphen
  refine ((unplanned_call (plans_call rfl rfl rfl (by rintro ev ⟨⟩))).post_error
    fun _ t ht ↦ ht.legit).bind fun now ↦ ?_
  set plan := ContractReview.buildContractReviewPlan planId (utcNowIso now) a.contractId routing
    bindings with hplan
  have hwell : WellPlanned cfg plan := by
    refine ⟨?_, fun node hnode hno ↦ ?_, hplanId⟩
    · rw [← hr.specs, List.map_map, hplan, ContractReview.buildContractReviewPlan, List.map_map]
      rfl
    · obtain ⟨b, hb, rfl⟩ := List.mem_map.mp hnode
      exact hr.bound b hb hno
  refine Triple.bind (Q := fun _ ↦ Signing cfg a.taskRunId plan) ?_ fun signature ↦ ?_
  · refine Triple.perform (fun t signature ht _ ↦ ht.sign) fun t e ht hA ↦ ?_
    obtain ⟨signature, hsignature⟩ := hA.signPlan plan _ rfl
    cases hsignature
  · exact Triple.ret fun t ht ↦ ⟨plan, ⟨signature, rfl, hwell⟩, ht⟩

/-- The plan was signed and stored, and is not announced yet. -/
structure Stored (cfg : Config) (taskRunId : String) (plan : ExecutionPlan) (t : RunTrace) :
    Prop where
  signing : Signing cfg taskRunId plan t
  stored : storedPlan taskRunId t = some (some plan.planId)

/-- The plan was signed and stored, and the first of its events was appended. -/
structure Created (cfg : Config) (taskRunId : String) (plan : ExecutionPlan) (t : RunTrace) :
    Prop where
  legit : EveryStep (Legit cfg taskRunId) t
  signed : signedPlan t = some plan
  stored : storedPlan taskRunId t = some (some plan.planId)
  created : announcedDigest taskRunId .planCreated t = some (.str (plan.digest cfg.P))
  noPlan : ∀ ev ∈ events taskRunId t, ev.kind ≠ .planSigned

/-- A call of `_emit` beside the appended event. -/
def Aside (taskRunId : String) (c : Cmd) : Prop :=
  c = .newId ∨ c = .utcNow ∨ ∃ event, c = .publish taskRunId event

theorem Aside.routine {c : Cmd} (h : Aside taskRunId c) : c.Routine none := by
  rcases h with rfl | rfl | ⟨event, rfl⟩
  · exact routine_newId _
  · exact routine_utcNow _
  · exact routine_publish _ event

theorem Aside.ne_append {c : Cmd} (h : Aside taskRunId c) (ev : AuditEvent) :
    c ≠ .appendEvent ev := by
  rintro rfl
  rcases h with h | h | ⟨event, h⟩ <;> cases h

theorem Stored.aside (h : Stored cfg taskRunId plan t) (hs : Aside taskRunId s.cmd) :
    Stored cfg taskRunId plan (t ++ [s]) where
  signing := h.signing.concat ⟨Or.inl hs.routine, fun ev hev ↦ absurd hev (hs.ne_append ev)⟩
  stored := by
    rw [storedPlan_concat, planWrite?_of_plain hs.routine.plain, Option.none_or, h.stored]

theorem Created.aside (h : Created cfg taskRunId plan t) (hs : Aside taskRunId s.cmd) :
    Created cfg taskRunId plan (t ++ [s]) where
  legit := everyStep_concat.mpr ⟨h.legit, hs.routine.legit nofun⟩
  signed := signedPlan_of_concat h.signed
  stored := by
    rw [storedPlan_concat, planWrite?_of_plain hs.routine.plain, Option.none_or, h.stored]
  created := announcedDigest_of_concat h.created
  noPlan ev hev := (events_concat_cases hev).elim (h.noPlan ev) fun hc ↦ absurd hc (hs.ne_append ev)

/-- An event that is not about a node is a routine call, unless it starts one. -/
theorem routine_append {ev : AuditEvent} (hnode : ev.nodeRunId = none)
    (hkind : ev.kind ≠ .nodeStarted) : (Cmd.appendEvent ev).Routine none :=
  ⟨decide_eq_true hkind, rfl, fun _ hm ↦ hnode.symm.trans hm⟩

/-- `plan.created` announces the digest of the plan. -/
theorem Stored.create {ev : AuditEvent} (h : Stored cfg taskRunId plan t)
    (htask : ev.taskRunId = some taskRunId) (hnode : ev.nodeRunId = none)
    (hkind : ev.kind = .planCreated)
    (hdigest : ev.payload.get? "plan_digest" = some (.str (plan.digest cfg.P))) :
    Created cfg taskRunId plan (t ++ [⟨.appendEvent ev, .ok ()⟩]) where
  legit := by
    refine everyStep_concat.mpr ⟨h.signing.legit, (routine_append hnode ?_).legit nofun⟩
    rw [hkind]
    exact EventKind.noConfusion
  signed := signedPlan_of_concat h.signing.signed
  stored := by
    rw [storedPlan_concat]
    exact h.stored
  created := by
    rw [← hkind, announcedDigest_append htask, hdigest]
    intro e he
    rw [hkind]
    exact (h.signing.noPlan e he).1
  noPlan e he := by
    rcases events_concat_cases he with hmem | hc
    · exact (h.signing.noPlan e hmem).2
    · obtain rfl := Cmd.appendEvent.inj hc
      rw [hkind]
      exact EventKind.noConfusion

/-- `plan.signed` announces the digest of the plan. -/
theorem Created.sign {ev : AuditEvent} (h : Created cfg taskRunId plan t)
    (htask : ev.taskRunId = some taskRunId) (hnode : ev.nodeRunId = none)
    (hkind : ev.kind = .planSigned)
    (hdigest : ev.payload.get? "plan_digest" = some (.str (plan.digest cfg.P))) :
    Planned cfg taskRunId plan (t ++ [⟨.appendEvent ev, .ok ()⟩]) where
  legit := by
    refine everyStep_concat.mpr ⟨h.legit, (routine_append hnode ?_).legit nofun⟩
    rw [hkind]
    exact EventKind.noConfusion
  announced := by
    refine ⟨signedPlan_of_concat h.signed, announcedDigest_of_concat h.created, ?_⟩
    rw [← hkind, announcedDigest_append htask, hdigest]
    intro e he
    rw [hkind]
    exact h.noPlan e he
  stored := by
    rw [storedPlan_concat]
    exact h.stored

theorem legit_append_error {ev : AuditEvent} {e : Raised} (h : EveryStep (Legit cfg taskRunId) t)
    (hnode : ev.nodeRunId = none) (hkind : ev.kind ≠ .nodeStarted) :
    EveryStep (Legit cfg taskRunId) (t ++ [⟨.appendEvent ev, .error e⟩]) :=
  everyStep_concat.mpr ⟨h, (routine_append hnode hkind).legit nofun⟩

theorem emitPlanCreated_legit {payload : Dict}
    (hdigest : (Json.obj payload).get? "plan_digest" = some (.str (plan.digest cfg.P))) :
    Triple (Admitted cfg taskRunId) (Stored cfg taskRunId plan)
      (emit cfg taskRunId none .planCreated payload)
      (fun _ ↦ Created cfg taskRunId plan) fun _ ↦ EveryStep (Legit cfg taskRunId) := by
  refine triple_emit (fun t s hs _ ht ↦ ht.aside (hs.imp_right Or.inl))
    (fun t eventId at_ ht ↦ ht.create rfl rfl rfl hdigest)
    (fun t eventId at_ e ht _ ↦ legit_append_error ht.signing.legit rfl EventKind.noConfusion)
    (fun t event r _ ht ↦ ht.aside (Or.inr (Or.inr ⟨event, rfl⟩)))
    (fun t ht ↦ ht.signing.legit) fun t ht ↦ ht.legit

theorem emitPlanSigned_legit {payload : Dict}
    (hdigest : (Json.obj payload).get? "plan_digest" = some (.str (plan.digest cfg.P))) :
    Triple (Admitted cfg taskRunId) (Created cfg taskRunId plan)
      (emit cfg taskRunId none .planSigned payload)
      (fun _ ↦ Planned cfg taskRunId plan) fun _ ↦ EveryStep (Legit cfg taskRunId) := by
  refine triple_emit (fun t s hs _ ht ↦ ht.aside (hs.imp_right Or.inl))
    (fun t eventId at_ ht ↦ ht.sign rfl rfl rfl hdigest)
    (fun t eventId at_ e ht _ ↦ legit_append_error ht.legit rfl EventKind.noConfusion)
    (fun t event r _ ht ↦ (ht.within.routine (routine_publish _ event)).planned)
    (fun t ht ↦ ht.legit) fun t ht ↦ ht.legit

theorem planTask_legit :
    Triple (Admitted cfg a.taskRunId) (Unplanned cfg a.taskRunId) (planTask cfg a)
      (fun p t ↦ ∃ plan, (∃ signature, p = { plan with signature := some signature } ∧
        WellPlanned cfg plan) ∧ Planned cfg a.taskRunId plan t)
      fun _ ↦ EveryStep (Legit cfg a.taskRunId) := by
  have hupsert (state : TaskRunState) (planId : Option String) :
      (Cmd.upsertTaskRun a.taskRunId a.contractId ContractReview.template.templateId state
        planId).plans :=
    ⟨Or.inr ⟨_, _, _, _, _, rfl⟩, fun ev hev ↦ by cases hev⟩
  refine ((unplanned_call (hupsert _ _)).post_error fun _ t ht ↦ ht.legit).bind fun _ ↦ ?_
  refine Triple.bind (Q := fun _ ↦ Unplanned cfg a.taskRunId) ?_ fun _ ↦ ?_
  · refine (Triple.of_calls (φ := Cmd.plans) (calls_emit fun c hc ↦ ?_) fun t s hs _ ht ↦
      ht.concat hs).post_error fun _ t ht ↦ ht.legit
    refine ⟨Or.inl (hc.routine EventKind.noConfusion), ?_⟩
    rintro ev rfl
    cases hc
    exact ⟨EventKind.noConfusion, EventKind.noConfusion⟩
  refine buildPlan_legit.bind fun p ↦ Triple.of_exists fun plan ↦ Triple.of_pure fun hp ↦ ?_
  obtain ⟨signature, rfl, hwell⟩ := hp
  refine Triple.bind (Q := fun _ ↦ Stored cfg a.taskRunId plan) ?_ fun _ ↦ ?_
  · refine Triple.perform (fun t _ ht _ ↦ ⟨ht.concat (hupsert _ _), ?_⟩) fun t e ht _ ↦
      (ht.concat (hupsert _ _)).legit
    rw [storedPlan_concat]
    simp [planWrite?]
  refine (emitPlanCreated_legit rfl).bind fun _ ↦ ?_
  refine (emitPlanSigned_legit rfl).bind fun _ ↦ ?_
  exact Triple.ret fun t ht ↦ ⟨plan, ⟨signature, rfl, hwell⟩, ht⟩

/-! ## The run -/

theorem run_legit :
    Triple (Admitted cfg a.taskRunId) (· = []) (run cfg a)
      (fun _ ↦ EveryStep (Legit cfg a.taskRunId)) fun _ ↦ EveryStep (Legit cfg a.taskRunId) := by
  have hstart (t : RunTrace) (ht : t = []) : Unplanned cfg a.taskRunId t := by
    subst ht
    refine ⟨everyStep_nil _, rfl, fun ev hev ↦ ?_⟩
    cases hev
  refine Triple.bind (Q := fun _ ↦ Unplanned cfg a.taskRunId) ?_ fun _ ↦ ?_
  · exact Triple.ofExcept (fun _ _ t ht ↦ hstart t ht) fun _ _ t ht ↦ (hstart t ht).legit
  refine ((unplanned_call (plans_call rfl rfl rfl (by rintro ev ⟨⟩))).post_error
    fun _ t ht ↦ ht.legit).bind fun _ ↦ ?_
  refine planTask_legit.bind fun p ↦ Triple.of_exists fun plan ↦ Triple.of_pure fun hp ↦ ?_
  obtain ⟨signature, rfl, hwell⟩ := hp
  -- from here on everything happens under the plan
  have hrest : Triple (Admitted cfg a.taskRunId) (Planned cfg a.taskRunId plan) (do
      call (.updateTaskState a.taskRunId .running)
      let ending ← (executePlan cfg a plan).tryCatch (failTask cfg a)
      finishRun cfg a { plan with signature := some signature } ending)
      (fun _ ↦ Planned cfg a.taskRunId plan) fun _ ↦ Planned cfg a.taskRunId plan := by
    refine (planned_of_outside (outside_updateTaskState _ _)).bind fun _ ↦ ?_
    refine Triple.bind (Q := fun _ ↦ Planned cfg a.taskRunId plan) ?_ fun ending ↦ ?_
    · exact (executePlan_legit hwell).tryCatch fun e ↦ planned_of_outside calls_failTask
    · exact planned_of_routine calls_finishRun
  exact hrest.conseq (fun _ ht ↦ ht) (fun _ _ ht ↦ ht.legit) fun _ _ ht ↦ ht.legit

/-- **Every call of every run is legitimate.** -/
theorem execRun_legit (cfg : Config) (a : RunArgs) (env : Env a.taskRunId) (w : World) :
    EveryStep (Legit cfg a.taskRunId) (execRun cfg a env w).trace := by
  have hadmit : Triple (fun t s ↦ Admitted cfg a.taskRunId t s ∧ True) (· = []) (run cfg a)
      (fun _ ↦ EveryStep (Legit cfg a.taskRunId)) fun _ ↦ EveryStep (Legit cfg a.taskRunId) :=
    run_legit.restrict fun _ _ h ↦ h.1
  have hrun : ending (fun _ ↦ EveryStep (Legit cfg a.taskRunId))
      (fun _ ↦ EveryStep (Legit cfg a.taskRunId)) (execRun cfg a env w).result
      (execRun cfg a env w).trace :=
    execRun_of_triple hadmit fun _ _ _ _ ↦ trivial
  exact of_ending hrun

/-! ## A coordinator -/

/-- A manifest with the defaults of the registry. -/
def sampleManifest (capabilityId : String) (kind : CapabilityKind) (effects : List Effect) :
    CapabilityManifest where
  capabilityId := capabilityId
  name := capabilityId
  kind := kind
  endpoint := "http://127.0.0.1:8101"
  declaredEffects := effects

/-- None of the manifests declares a view. The router binds the nodes that need a local model to the
first of the two. -/
def sampleStore : ManifestStore :=
  ⟨[sampleManifest "local.alternative" .localModel [{ kind := .read }],
    sampleManifest "local.contract-extractor" .localModel [{ kind := .read }],
    sampleManifest "public.openai-compat" .publicModel [{ kind := .read }],
    sampleManifest "sink.mock-procurement" .sink [{ kind := .write }]], by decide⟩

/-- The coordinator has an enforcement point, without field manifests, and an event bus. -/
def sampleConfig (adapters : List String) : Config where
  P := ⟨fun _ ↦ List.replicate 32 0, fun _ _ ↦ List.replicate 32 0, fun _ _ ↦ by decide⟩
  F := ⟨id, fun _ ↦ "1.0"⟩
  router := ⟨sampleStore, ⟨Policy.defaultP0Rules⟩⟩
  adapters := adapters
  grantIssuer := { key := [1] }
  receiptBuilder := { key := [2] }
  egressPep := some ⟨fun _ _ ↦ .ok none⟩
  hasEventBus := true
  hasApprovalHandler := true

def sampleArgs : RunArgs where
  taskRunId := "task-1"
  contractId := "contract-1"
  dataLabel := { classification := .internal }
  initialInputs := [("contract_text", .str "the contract"), ("vendor_id", .str "vendor-1")]

/-- The adapters return what they are handed, and the contract is approved. -/
def sampleEnv (raises : RunTrace → Cmd → Option Raised) : Env sampleArgs.taskRunId :=
  idleEnv sampleArgs.taskRunId (fun r ↦ .ok ⟨r.inputs, []⟩) [("decision", .str "approve")] raises

def sampleRun (adapters : List String) (raises : RunTrace → Cmd → Option Raised) :
    Outcome Cmd Reply Raised CoordinatorResult World :=
  execRun (sampleConfig adapters) sampleArgs (sampleEnv raises) {}

def sampleAdapters : List String := sampleStore.rows.map CapabilityManifest.capabilityId

/-- Appending an event of this kind raises. -/
def appendRaises (kind : EventKind) (_ : RunTrace) : Cmd → Option Raised
  | .appendEvent ev => if ev.kind = kind then some ⟨"OperationalError", "timeout"⟩ else none
  | _ => none

/-- The capability an adapter is invoked for. -/
def Cmd.invokes? : Cmd → Option String
  | .invoke request => some request.grant.capabilityId
  | _ => none

theorem Cmd.eq_invoke {c : Cmd} {capabilityId : String} (h : c.invokes? = some capabilityId) :
    ∃ request, c = .invoke request ∧ request.grant.capabilityId = capabilityId := by
  cases c with
  | invoke request => exact ⟨request, rfl, Option.some.inj h⟩
  | _ => cases h

/-- Every adapter times out. -/
def adapterRaises (_ : RunTrace) (c : Cmd) : Option Raised :=
  c.invokes?.map fun _ ↦ ⟨"TimeoutError", "timed out"⟩

/-- The receipt a call saves. -/
def Cmd.saves? : Cmd → Option SignedReceipt
  | .saveReceipt receipt => some receipt
  | _ => none

theorem Cmd.eq_saveReceipt {c : Cmd} {receipt : SignedReceipt} (h : c.saves? = some receipt) :
    c = .saveReceipt receipt := by
  cases c with
  | saveReceipt receipt' => rw [Option.some.inj h]
  | _ => cases h

/-- The record is of `merge` on the capability it is forced on. -/
def Record.OfMerge (r : Record) : Prop :=
  r.nodeId = some "merge" ∧ r.capabilityId = some mergeCapability

instance (r : Record) : Decidable r.OfMerge := inferInstanceAs (Decidable (_ ∧ _))

/-- The environment of the run below: everything is done, and then `task.completed` raises. -/
def completedRaises : Env sampleArgs.taskRunId := sampleEnv (appendRaises .taskCompleted)

section

set_option maxRecDepth 100000

/-- A run whose last event cannot be appended: by then a public model was invoked, a receipt saved,
and `merge` executed on another capability than the one it is bound to. -/
theorem sampleRun_facts :
    let t := (sampleRun sampleAdapters (appendRaises .taskCompleted)).trace
    (t.any fun s ↦ s.cmd.invokes? = some "public.openai-compat") = true ∧
      (t.any fun s ↦ s.cmd.saves?.isSome) = true ∧
      (t.any fun s ↦ s.cmd.record?.any fun r ↦ r.OfMerge) = true ∧
      ((signedPlan t).bind fun plan ↦ plan.node? "merge").map PlanNode.capabilityId
        = some "local.alternative" ∧
      persisted sampleArgs.taskRunId t
        = [.created, .planned, .running, .succeeded, .failed] := by
  decide +kernel

end

end Engine

end Orchestra
