import Orchestra.Coordinator.EngineSteps

/-!
# The calls of a node

The execution of a node from its start to its receipt. Each part has one specification: what it
needs of the calls before it, what it leaves for the part after it, and that every call it makes is
legitimate. The parts follow the source: the start, the grant, the projection, the call of the
adapter and the receipt.
-/

namespace Orchestra

namespace Engine

open Interaction

variable {cfg : Config} {taskRunId : String} {t : RunTrace} {s : RunStep} {plan : ExecutionPlan}

/-! ## Starting a node -/

/-- The calls that start a node or grant its execution. -/
def Cmd.starts : Cmd → Bool
  | .upsertNodeRun _ | .appendEvent _ | .saveGrant _ => true
  | _ => false

/-- Such a call is legitimate when it records the execution of its node. -/
theorem legit_of_record {n : String} (hs : s.cmd.starts = true) (hissued : n ∈ issuedIds t)
    (hnode : s.cmd.nodeRun? = some n)
    (hrecord : ∀ r, s.cmd.record? = some r → Executes cfg taskRunId t r) :
    Legit cfg taskRunId t s := by
  refine ⟨fun m hm ↦ ?_, hrecord, fun id viewName payload hc ↦ ?_, fun request hc ↦ ?_,
    fun receipt hc ↦ ?_⟩
  · rw [hnode] at hm
    obtain rfl := Option.some.inj hm
    exact hissued
  · rw [hc] at hs
    cases hs
  · rw [hc] at hs
    cases hs
  · rw [hc] at hs
    cases hs

theorem routine_newId (n : Option String) : Cmd.Routine n .newId :=
  ⟨rfl, rfl, fun m hm ↦ by cases hm⟩

theorem routine_utcNow (n : Option String) : Cmd.Routine n .utcNow :=
  ⟨rfl, rfl, fun m hm ↦ by cases hm⟩

theorem routine_publish (n : Option String) (event : Json) :
    Cmd.Routine n (.publish taskRunId event) := ⟨rfl, rfl, fun m hm ↦ by cases hm⟩

/-- The calls around an appended event keep a node run without an intent. -/
theorem Before.aside {n : String} (h : Before cfg taskRunId plan n t)
    (hs : s.cmd = .newId ∨ s.cmd = .utcNow ∨ ∃ event, s.cmd = .publish taskRunId event) :
    Before cfg taskRunId plan n (t ++ [s]) := by
  have hroutine : s.cmd.Routine (some n) := by
    rcases hs with hs | hs | ⟨event, hs⟩
    · rw [hs]
      exact routine_newId _
    · rw [hs]
      exact routine_utcNow _
    · rw [hs]
      exact routine_publish _ event
  refine ⟨h.within.routine hroutine, not_hasEvent_concat h.noIntent fun ev hev ↦ ?_⟩
  rw [hev] at hs
  rcases hs with hs | hs | ⟨event, hs⟩ <;> cases hs

theorem hasEvent_append {ev : AuditEvent} {n : String} (htask : ev.taskRunId = some taskRunId)
    (hnode : ev.nodeRunId = some n) :
    HasEvent taskRunId (t ++ [⟨.appendEvent ev, .ok ()⟩]) ev.kind n :=
  ⟨ev, mem_events_iff.mpr ⟨htask, List.mem_append_right _ (List.mem_singleton_self _)⟩, rfl, hnode⟩

theorem Before.append {n : String} {ev : AuditEvent} {r : Except Raised Unit}
    (h : Before cfg taskRunId plan n t) (hnode : ev.nodeRunId = some n)
    (hkind : ev.kind ≠ .nodeStarted) (hkind' : ev.kind ≠ .ioIntent) :
    Before cfg taskRunId plan n (t ++ [⟨.appendEvent ev, r⟩]) := by
  have hroutine : (Cmd.appendEvent ev).Routine (some n) :=
    ⟨decide_eq_true hkind, rfl, fun m hm ↦ hnode.symm.trans hm⟩
  refine ⟨h.within.routine hroutine, not_hasEvent_concat h.noIntent ?_⟩
  rintro ev' ⟨⟩
  exact hkind'

theorem newId_before :
    Triple (Admitted cfg taskRunId) (Planned cfg taskRunId plan) (call .newId)
      (fun n ↦ Before cfg taskRunId plan n) fun _ ↦ Planned cfg taskRunId plan := by
  have hroutine := routine_newId none
  refine Triple.perform (fun t n ht hA ↦ ?_) fun t e ht _ ↦ (ht.within.routine hroutine).planned
  obtain ⟨id, hid, hfresh, -⟩ := hA.newId _ rfl
  obtain rfl := Except.ok.inj hid
  refine ⟨⟨(ht.within.routine hroutine).planned, fun m hm ↦ ?_⟩, ?_⟩
  · obtain rfl := Option.some.inj hm
    rw [issuedIds_concat]
    exact List.mem_append_right _ (List.mem_singleton_self _)
  · exact not_hasEvent_concat (not_hasEvent_of_not_issued ht.legit hfresh .ioIntent)
      fun ev hev ↦ by cases hev

theorem startNode_legit {node : PlanNode} {force : Option String}
    (hnode : PlannedNode cfg plan node) (hforce : chosenCapability force node = executedOn node) :
    Triple (Admitted cfg taskRunId) (Planned cfg taskRunId plan)
      (startNode cfg taskRunId node force)
      (fun ctx t ↦ (Chosen cfg plan ctx ∧ ctx.node = node) ∧
        Before cfg taskRunId plan ctx.nodeRunId t)
      fun _ ↦ Planned cfg taskRunId plan := by
  rw [startNode]
  refine newId_before.bind fun n ↦ ?_
  refine Triple.bind (Q := fun m t ↦
    cfg.router.store.find? (chosenCapability force node) = some m ∧
      Before cfg taskRunId plan n t) ?_ fun m ↦ Triple.of_pure fun hm ↦ ?_
  · refine Triple.ofExcept (fun m hm t ht ↦ ?_) fun e _ t ht ↦ ht.within.planned
    exact ⟨ManifestStore.get_eq_ok_iff.mp hm, ht⟩
  set ctx : NodeContext := ⟨n, node, chosenCapability force node, m⟩ with hctx
  have hchosen : Chosen cfg plan ctx := ⟨hnode, hforce, hm⟩
  -- the row and the event record the same execution
  have hrow (t : RunTrace) (r : Except Raised Unit) (ht : Before cfg taskRunId plan n t) :
      Before cfg taskRunId plan n (t ++ [⟨.upsertNodeRun
        { nodeRunId := n, taskRunId := taskRunId, nodeId := node.nodeId, state := .running,
          capabilityId := some ctx.capabilityId, manifestId := some (ctx.manifestId cfg) }, r⟩]) := by
    refine ht.concat (legit_of_record rfl (ht.within.issued n rfl) rfl ?_) rfl ?_
    · rintro rec ⟨⟩
      exact hchosen.executes ht.within.planned.announced
    · rintro ev ⟨⟩
  have hevent (t : RunTrace) (eventId : String) (at_ : Timestamp) (r : Except Raised Unit)
      (ht : Before cfg taskRunId plan n t) :
      Before cfg taskRunId plan n (t ++ [⟨.appendEvent
        { eventId := eventId, taskRunId := some taskRunId, nodeRunId := some n,
          kind := .nodeStarted, occurredAt := at_,
          payload := .obj [("node_id", .str node.nodeId), ("capability_id", .str ctx.capabilityId),
            ("manifest_id", .str (ctx.manifestId cfg))] }, r⟩]) := by
    refine ht.concat (legit_of_record rfl (ht.within.issued n rfl) rfl ?_) rfl ?_
    · intro rec hrec
      have hexec := hchosen.executes ht.within.planned.announced
      simp [Cmd.record?, Json.get?, textField] at hrec
      rw [← hrec]
      exact hexec
    · rintro ev ⟨⟩
      exact EventKind.noConfusion
  refine Triple.bind (Q := fun _ ↦ Before cfg taskRunId plan n) ?_ fun _ ↦ ?_
  · exact Triple.perform (fun t a ht _ ↦ hrow t _ ht) fun t e ht _ ↦ (hrow t _ ht).within.planned
  refine Triple.bind (Q := fun _ ↦ Before cfg taskRunId plan n) ?_ fun _ ↦ ?_
  · refine triple_emit (fun t s hs _ ht ↦ ?_) (fun t eventId at_ ht ↦ hevent t eventId at_ _ ht)
      (fun t eventId at_ e ht _ ↦ (hevent t eventId at_ _ ht).within.planned)
      (fun t event r _ ht ↦ ?_) (fun t ht ↦ ht.within.planned) fun t ht ↦ ht.within.planned
    · exact ht.aside (hs.imp_right Or.inl)
    · exact ht.aside (Or.inr (Or.inr ⟨event, rfl⟩))
  exact Triple.ret fun t ht ↦ ⟨⟨hchosen, rfl⟩, ht⟩

/-- A routine program within a node run; where it raises only the plan matters. -/
theorem within_of_routine {α : Type} {p : Prog α} {n : Option String}
    {A : RunTrace → RunStep → Prop} (h : Calls (Cmd.Routine n) p) :
    Triple A (Within cfg taskRunId plan n) p (fun _ ↦ Within cfg taskRunId plan n)
      fun _ ↦ Planned cfg taskRunId plan :=
  (within_of_calls h).post_error fun _ _ ht ↦ ht.planned

theorem failNode_legit {α : Type} {ctx : NodeContext} {payload : Dict} {e : Raised}
    {A : RunTrace → RunStep → Prop} :
    Triple A (Within cfg taskRunId plan (some ctx.nodeRunId))
      (failNode (α := α) cfg taskRunId ctx payload e) (fun _ _ ↦ False)
      fun _ ↦ Planned cfg taskRunId plan := by
  refine (within_of_routine (calls_perform.mpr ?_)).bind fun _ ↦ ?_
  · exact ⟨rfl, rfl, fun m hm ↦ hm⟩
  refine (within_of_routine (calls_emit fun c hc ↦ hc.routine EventKind.noConfusion)).bind
    fun _ ↦ ?_
  exact Triple.raise fun t ht ↦ ht.planned

theorem calls_execInProcess {ctx : NodeContext} {previous : Dict} :
    Calls (Cmd.Routine (some ctx.nodeRunId)) (execInProcess cfg taskRunId ctx previous) := by
  have houtput : Calls (Cmd.Routine (some ctx.nodeRunId))
      (inProcessOutput ctx.node.nodeId previous) := by
    rw [inProcessOutput]
    split
    · refine (calls_perform.mpr ⟨rfl, rfl, fun m hm ↦ by cases hm⟩).bind fun initial ↦ ?_
      exact calls_pure _
    · exact calls_perform.mpr ⟨rfl, rfl, fun m hm ↦ by cases hm⟩
  refine houtput.bind fun output ↦ ?_
  refine (calls_perform.mpr ⟨rfl, rfl, fun m hm ↦ hm⟩).bind fun _ ↦ ?_
  refine (calls_perform.mpr ⟨rfl, rfl, fun m hm ↦ by cases hm⟩).bind fun _ ↦ ?_
  exact calls_emit fun c hc ↦ hc.routine EventKind.noConfusion

/-! ## The grant -/

/-- Within a node run that has logged its grant, and no intent. -/
structure Granted (cfg : Config) (taskRunId : String) (plan : ExecutionPlan) (n : String)
    (t : RunTrace) : Prop where
  before : Before cfg taskRunId plan n t
  granted : HasEvent taskRunId t .grantIssued n

/-- The grant of a node. -/
structure GrantOf (cfg : Config) (ctx : NodeContext) (grant : NodeGrant) : Prop where
  nodeRunId : grant.nodeRunId = ctx.nodeRunId
  nodeId : grant.nodeId = ctx.node.nodeId
  capabilityId : grant.capabilityId = ctx.capabilityId
  manifestId : grant.manifestId = ctx.manifestId cfg

theorem issueGrant_legit {ctx : NodeContext} (hchosen : Chosen cfg plan ctx) :
    Triple (Admitted cfg taskRunId) (Before cfg taskRunId plan ctx.nodeRunId)
      (issueGrant cfg taskRunId ctx)
      (fun grant t ↦ GrantOf cfg ctx grant ∧ Granted cfg taskRunId plan ctx.nodeRunId t)
      fun _ ↦ Planned cfg taskRunId plan := by
  have haside (c : Cmd) (hc : c = .newId ∨ c = .utcNow) :
      Triple (Admitted cfg taskRunId) (Before cfg taskRunId plan ctx.nodeRunId) (call c)
        (fun _ ↦ Before cfg taskRunId plan ctx.nodeRunId) fun _ ↦ Planned cfg taskRunId plan :=
    (Triple.of_calls (φ := (· = c)) (calls_perform.mpr rfl) fun t s hs _ ht ↦
      ht.aside (hs ▸ hc.imp_right Or.inl)).post_error fun _ t ht ↦ ht.within.planned
  refine (haside .newId (Or.inl rfl)).bind fun grantId ↦ ?_
  refine (haside .utcNow (Or.inr rfl)).bind fun now ↦ ?_
  have hgrant (t : RunTrace) (r : Except Raised Unit) (grant : NodeGrant)
      (hnode : grant.nodeRunId = ctx.nodeRunId)
      (hrec : (Cmd.saveGrant grant).record? =
        some ⟨some ctx.node.nodeId, some ctx.capabilityId, some (ctx.manifestId cfg)⟩)
      (ht : Before cfg taskRunId plan ctx.nodeRunId t) :
      Before cfg taskRunId plan ctx.nodeRunId (t ++ [⟨.saveGrant grant, r⟩]) := by
    have hlegit : Legit cfg taskRunId t ⟨.saveGrant grant, r⟩ := by
      refine legit_of_record rfl (ht.within.issued _ rfl) (congrArg some hnode) fun rec heq ↦ ?_
      rw [← Option.some.inj (hrec.symm.trans heq)]
      exact hchosen.executes ht.within.planned.announced
    exact ht.concat hlegit rfl fun ev hev ↦ by cases hev
  refine Triple.bind (Q := fun _ ↦ Before cfg taskRunId plan ctx.nodeRunId) ?_ fun _ ↦ ?_
  · exact Triple.perform (fun t a ht _ ↦ hgrant t _ _ rfl rfl ht) fun t e ht _ ↦
      (hgrant t _ _ rfl rfl ht).within.planned
  refine Triple.bind (Q := fun _ ↦ Granted cfg taskRunId plan ctx.nodeRunId) ?_ fun _ ↦ ?_
  · refine triple_emit (fun t s hs _ ht ↦ ht.aside (hs.imp_right Or.inl))
      (fun t eventId at_ ht ↦ ⟨ht.append rfl EventKind.noConfusion EventKind.noConfusion,
        hasEvent_append rfl rfl⟩)
      (fun t eventId at_ e ht _ ↦
        (ht.append rfl EventKind.noConfusion EventKind.noConfusion).within.planned)
      (fun t event r _ ht ↦ ⟨ht.before.aside (Or.inr (Or.inr ⟨event, rfl⟩)),
        hasEvent_concat ht.granted⟩)
      (fun t ht ↦ ht.within.planned) fun t ht ↦ ht.before.within.planned
  exact Triple.ret fun t ht ↦ ⟨⟨rfl, rfl, rfl, rfl⟩, ht⟩

/-! ## Egress -/

theorem Granted.routine {n : String} (h : Granted cfg taskRunId plan n t)
    (hs : s.cmd.Routine (some n)) (hev : ∀ ev, s.cmd ≠ .appendEvent ev) :
    Granted cfg taskRunId plan n (t ++ [s]) :=
  ⟨⟨h.before.within.routine hs, not_hasEvent_concat h.before.noIntent fun ev heq ↦
    absurd heq (hev ev)⟩, hasEvent_concat h.granted⟩

/-- Routine calls that append nothing keep a granted node run. -/
theorem granted_of_call {n : String} {A : RunTrace → RunStep → Prop} {c : Cmd}
    (hc : c.Routine (some n)) (hev : ∀ ev, c ≠ .appendEvent ev) :
    Triple A (Granted cfg taskRunId plan n) (call c) (fun _ ↦ Granted cfg taskRunId plan n)
      fun _ ↦ Planned cfg taskRunId plan :=
  Triple.perform (fun _ _ ht _ ↦ ht.routine hc hev) fun _ _ ht _ ↦
    (ht.routine hc hev).before.within.planned

/-- The projection that a call of the enforcement point replied is in the trace. -/
def Projected (capabilityId : String) (inputs : Dict) (t : RunTrace) : Prop :=
  ∃ viewName payload m,
    (⟨.project capabilityId viewName payload, .ok (inputs, m)⟩ : RunStep) ∈ t

theorem Projected.concat {capabilityId : String} {inputs : Dict}
    (h : Projected capabilityId inputs t) : Projected capabilityId inputs (t ++ [s]) := by
  obtain ⟨viewName, payload, m, hmem⟩ := h
  exact ⟨viewName, payload, m, List.mem_append_left _ hmem⟩

theorem projectInputs_legit {ctx : NodeContext} {viewName : String} {inputs : Dict}
    (hchosen : Chosen cfg plan ctx) (hview : ctx.manifest.egressViewName = some viewName)
    (hne : viewName ≠ "") :
    Triple (Admitted cfg taskRunId) (Granted cfg taskRunId plan ctx.nodeRunId)
      (projectInputs cfg taskRunId ctx viewName inputs)
      (fun x t ↦ Projected ctx.capabilityId x.1 t ∧ Granted cfg taskRunId plan ctx.nodeRunId t)
      fun _ ↦ Planned cfg taskRunId plan := by
  have hproject (t : RunTrace) (r : Except Raised (Dict × FieldManifest))
      (ht : Granted cfg taskRunId plan ctx.nodeRunId t) :
      Granted cfg taskRunId plan ctx.nodeRunId
        (t ++ [⟨.project ctx.capabilityId viewName inputs, r⟩]) := by
    have hlegit : Legit cfg taskRunId t ⟨.project ctx.capabilityId viewName inputs, r⟩ := by
      constructor
      · intro m hm
        cases hm
      · intro rec hrec
        cases hrec
      · rintro id name payload ⟨⟩
        exact ⟨ctx.manifest, hchosen.manifest, hview, hne⟩
      · intro request hc
        cases hc
      · intro receipt hc
        cases hc
    refine ⟨ht.before.concat hlegit rfl fun ev hev ↦ ?_, hasEvent_concat ht.granted⟩
    cases hev
  refine Triple.tryCatch (E := fun _ ↦ Granted cfg taskRunId plan ctx.nodeRunId) ?_ fun e ↦ ?_
  · refine Triple.perform (fun t x ht _ ↦ ⟨⟨viewName, inputs, x.2, ?_⟩, hproject t _ ht⟩)
      fun t e ht _ ↦ hproject t _ ht
    exact List.mem_append_right _ (List.mem_singleton_self _)
  · split
    · have hemit : Calls (Cmd.Routine (some ctx.nodeRunId))
          (emit cfg taskRunId (some ctx.nodeRunId) .policyDecision
            [("node_id", .str ctx.node.nodeId), ("capability_id", .str ctx.capabilityId),
              ("view_name", .str viewName), ("decision", .str "deny"), ("reason", .str e.text),
              ("policy", .str "xfr-001.egress-pep")]) :=
        calls_emit fun c hc ↦ hc.routine EventKind.noConfusion
      refine ((within_of_routine hemit).bind fun _ ↦ failNode_legit).conseq
        (fun t ht ↦ ht.before.within) (fun _ t hfalse ↦ hfalse.elim) fun _ t ht ↦ ht
    · exact Triple.raise fun t ht ↦ ht.before.within.planned

theorem egress_legit {ctx : NodeContext} {inputs : Dict} (hchosen : Chosen cfg plan ctx) :
    Triple (Admitted cfg taskRunId) (Granted cfg taskRunId plan ctx.nodeRunId)
      (egress cfg taskRunId ctx inputs)
      (fun e t ↦ (ctx.manifest.DeclaresView → cfg.egressPep.isSome = true →
          Projected ctx.capabilityId e.inputs t) ∧ Granted cfg taskRunId plan ctx.nodeRunId t)
      fun _ ↦ Planned cfg taskRunId plan := by
  rw [egress]
  split
  · next viewName pep hview hpep =>
    split
    · next hempty =>
      refine Triple.ret fun t ht ↦ ⟨fun ⟨name, hname, hne⟩ ↦ ?_, ht⟩
      rw [hview] at hname
      exact absurd ((Option.some.inj hname).symm.trans hempty) hne
    · next hne =>
      refine (projectInputs_legit hchosen hview hne).bind fun x ↦ ?_
      refine Triple.bind (Q := fun _ t ↦
        Projected ctx.capabilityId x.1 t ∧ Granted cfg taskRunId plan ctx.nodeRunId t) ?_ fun r ↦ ?_
      · exact Triple.ofExcept (fun _ _ t ht ↦ ht) fun e _ t ht ↦ ht.2.before.within.planned
      · exact Triple.ret fun t ht ↦ ⟨fun _ _ ↦ ht.1, ht.2⟩
  · next hnone =>
    refine Triple.ret fun t ht ↦ ⟨fun ⟨name, hname, _⟩ hsome ↦ ?_, ht⟩
    obtain ⟨pep, hpep⟩ := Option.isSome_iff_exists.mp hsome
    exact absurd hpep (hnone name pep hname)

/-! ## The call of the adapter -/

theorem invokeAdapter_legit {ctx : NodeContext} {request : AdapterRequest}
    (hchosen : Chosen cfg plan ctx) (hgrant : GrantOf cfg ctx request.grant) :
    Triple (Admitted cfg taskRunId)
      (fun t ↦ (ctx.manifest.DeclaresView → cfg.egressPep.isSome = true →
          Projected ctx.capabilityId request.inputs t) ∧
        Granted cfg taskRunId plan ctx.nodeRunId t)
      (invokeAdapter cfg taskRunId ctx request)
      (fun _ ↦ Within cfg taskRunId plan (some ctx.nodeRunId))
      fun _ ↦ Planned cfg taskRunId plan := by
  have hinvoke (t : RunTrace) (r : Except Raised AdapterResult)
      (hproj : ctx.manifest.DeclaresView → cfg.egressPep.isSome = true →
        Projected ctx.capabilityId request.inputs t)
      (ht : Granted cfg taskRunId plan ctx.nodeRunId t) :
      Within cfg taskRunId plan (some ctx.nodeRunId) (t ++ [⟨.invoke request, r⟩]) := by
    refine ht.before.within.concat ?_ rfl
    constructor
    · intro m hm
      obtain rfl := Option.some.inj hm
      rw [hgrant.nodeRunId]
      exact ht.before.within.issued _ rfl
    · rintro rec ⟨⟩
      rw [hgrant.nodeId, hgrant.capabilityId, hgrant.manifestId]
      exact hchosen.executes ht.before.within.planned.announced
    · intro id name payload hc
      cases hc
    · rintro request' ⟨⟩
      refine ⟨⟨ctx.manifest, ?_, ?_⟩, ?_, ?_⟩
      · rw [hgrant.capabilityId]
        exact hchosen.manifest
      · rw [HandsProjection, hgrant.capabilityId]
        exact hproj
      · rw [hgrant.nodeRunId]
        exact ht.granted
      · rw [hgrant.nodeRunId]
        exact ht.before.noIntent
    · intro receipt hc
      cases hc
  refine Triple.tryCatch (E := fun _ ↦ Within cfg taskRunId plan (some ctx.nodeRunId)) ?_
    fun e ↦ ?_
  · exact Triple.perform (fun t x ht _ ↦ hinvoke t _ ht.1 ht.2) fun t e ht _ ↦
      hinvoke t _ ht.1 ht.2
  · exact failNode_legit.post fun _ _ hfalse ↦ hfalse.elim

theorem calls_recordIo {ctx : NodeContext} {e : Egress} {outputs : Dict} {latency : ℤ} :
    Calls (Cmd.Routine (some ctx.nodeRunId))
      (recordIo cfg taskRunId ctx e outputs latency) := by
  refine (calls_emit fun c hc ↦ hc.routine EventKind.noConfusion).bind fun _ ↦ ?_
  refine (calls_emit fun c hc ↦ hc.routine EventKind.noConfusion).bind fun _ ↦ ?_
  exact calls_emit fun c hc ↦ hc.routine EventKind.noConfusion

/-! ## The receipt -/

/-- The receipt of a node: it names the plan by its identifier. -/
structure ReceiptOf (cfg : Config) (plan : ExecutionPlan) (ctx : NodeContext) (r : SignedReceipt) :
    Prop where
  built : ∃ receiptId now args, r = cfg.receiptBuilder.build cfg.P receiptId now args ∧
    args.planDigest = plan.planId
  nodeRunId : r.nodeRunId = ctx.nodeRunId
  record : (Cmd.saveReceipt r).record? =
    some ⟨some ctx.node.nodeId, some ctx.capabilityId, some (ctx.manifestId cfg)⟩

/-- What a receipt records is what it was built with. -/
theorem record?_saveReceipt (receiptId : String) (now : ℕ) (args : ReceiptBuilder.Args) :
    (Cmd.saveReceipt (cfg.receiptBuilder.build cfg.P receiptId now args)).record? =
      some ⟨some args.nodeId, some args.capabilityId, some args.manifestId⟩ := by
  rw [Cmd.record?, SignedReceipt.signedField, SignedReceipt.signedField,
    SignedReceipt.signedField, ReceiptBuilder.envelope_build]
  simp [ReceiptBuilder.payload, Json.get?, textField]

theorem buildReceipt_legit {ctx : NodeContext} {inputs outputs : Dict} {startedAt endedAt : ℕ} :
    Triple (Admitted cfg taskRunId) (Within cfg taskRunId plan (some ctx.nodeRunId))
      (buildReceipt cfg taskRunId ctx inputs outputs startedAt endedAt)
      (fun r t ↦ ReceiptOf cfg plan ctx r ∧ Within cfg taskRunId plan (some ctx.nodeRunId) t)
      fun _ ↦ Planned cfg taskRunId plan := by
  have hroutine : Cmd.Routine (some ctx.nodeRunId) (.getTaskRun taskRunId) :=
    ⟨rfl, rfl, fun m hm ↦ by cases hm⟩
  refine Triple.bind (Q := fun row t ↦ planIdOf row = .ok plan.planId ∧
    Within cfg taskRunId plan (some ctx.nodeRunId) t) ?_ fun row ↦ Triple.of_pure fun hrow ↦ ?_
  · refine Triple.perform (fun t row ht hA ↦ ⟨?_, ht.routine hroutine⟩) fun t e ht _ ↦
      (ht.routine hroutine).planned
    obtain ⟨r, rfl, hplan⟩ := hA.getTaskRun row rfl _ ht.planned.stored
    rw [planIdOf, hplan, Option.getD_some]
  rw [hrow]
  refine (within_of_routine (calls_perform.mpr (routine_newId _))).bind fun receiptId ↦ ?_
  refine (within_of_routine (calls_perform.mpr (routine_utcNow _))).bind fun now ↦ ?_
  refine Triple.ret fun t ht ↦ ⟨⟨⟨receiptId, now, _, rfl, rfl⟩, rfl, ?_⟩, ht⟩
  exact record?_saveReceipt receiptId now _

theorem finishNode_legit {ctx : NodeContext} {inputs : Dict} {result : AdapterResult}
    {startedAt endedAt : ℕ} {latency : ℤ} (hchosen : Chosen cfg plan ctx)
    (hplan : '-' ∈ plan.planId.toList) :
    Triple (Admitted cfg taskRunId) (Within cfg taskRunId plan (some ctx.nodeRunId))
      (finishNode cfg taskRunId ctx inputs result startedAt endedAt latency)
      (fun _ ↦ Planned cfg taskRunId plan) fun _ ↦ Planned cfg taskRunId plan := by
  have hsave (t : RunTrace) (r : SignedReceipt) (reply : Except Raised Unit)
      (hr : ReceiptOf cfg plan ctx r) (ht : Within cfg taskRunId plan (some ctx.nodeRunId) t) :
      Within cfg taskRunId plan (some ctx.nodeRunId) (t ++ [⟨.saveReceipt r, reply⟩]) := by
    refine ht.concat ?_ rfl
    constructor
    · intro m hm
      obtain rfl := Option.some.inj hm
      rw [hr.nodeRunId]
      exact ht.issued _ rfl
    · intro rec hrec
      rw [← Option.some.inj (hr.record.symm.trans hrec)]
      exact hchosen.executes ht.planned.announced
    · intro id viewName payload hc
      cases hc
    · intro request hc
      cases hc
    · rintro r' ⟨⟩
      obtain ⟨receiptId, now, args, heq, hargs⟩ := hr.built
      exact ⟨plan, receiptId, now, args, ht.planned.announced, heq, hargs, hplan⟩
  refine (within_of_routine (calls_perform.mpr ?_)).bind fun _ ↦ ?_
  · exact ⟨rfl, rfl, fun m hm ↦ hm⟩
  refine (within_of_routine (calls_perform.mpr ?_)).bind fun _ ↦ ?_
  · exact ⟨rfl, rfl, fun m hm ↦ by cases hm⟩
  refine buildReceipt_legit.bind fun r ↦ Triple.of_pure fun hr ↦ ?_
  refine Triple.bind (Q := fun _ ↦ Within cfg taskRunId plan (some ctx.nodeRunId)) ?_ fun _ ↦ ?_
  · exact Triple.perform (fun t a ht _ ↦ hsave t r _ hr ht) fun t e ht _ ↦
      (hsave t r _ hr ht).planned
  refine (within_of_routine (calls_emit fun c hc ↦ hc.routine EventKind.noConfusion)).bind
    fun _ ↦ ?_
  exact (within_of_routine (calls_emit fun c hc ↦ hc.routine EventKind.noConfusion)).post
    fun _ _ ht ↦ ht.planned

theorem execAdapter_legit {ctx : NodeContext} {previous : Dict} {approval : Option Dict}
    (hchosen : Chosen cfg plan ctx) (hplan : '-' ∈ plan.planId.toList) :
    Triple (Admitted cfg taskRunId) (Before cfg taskRunId plan ctx.nodeRunId)
      (execAdapter cfg taskRunId ctx previous approval)
      (fun _ ↦ Planned cfg taskRunId plan) fun _ ↦ Planned cfg taskRunId plan := by
  refine (issueGrant_legit hchosen).bind fun grant ↦ Triple.of_pure fun hgrant ↦ ?_
  refine (granted_of_call ⟨rfl, rfl, fun m hm ↦ by cases hm⟩ (by rintro ev ⟨⟩)).bind fun _ ↦ ?_
  refine (granted_of_call (routine_utcNow _) (by rintro ev ⟨⟩)).bind fun startedAt ↦ ?_
  refine (egress_legit hchosen).bind fun e ↦ ?_
  refine Triple.bind (Q := fun _ t ↦ (ctx.manifest.DeclaresView → cfg.egressPep.isSome = true →
    Projected ctx.capabilityId e.inputs t) ∧ Granted cfg taskRunId plan ctx.nodeRunId t) ?_
    fun t0 ↦ ?_
  · have hroutine : Cmd.Routine (some ctx.nodeRunId) .monotonic :=
      ⟨rfl, rfl, fun m hm ↦ by cases hm⟩
    refine Triple.perform (fun t _ ht _ ↦ ⟨fun hview hpep ↦ (ht.1 hview hpep).concat,
      ht.2.routine hroutine (by rintro ev ⟨⟩)⟩) fun t _ ht _ ↦ ?_
    exact (ht.2.routine hroutine (by rintro ev ⟨⟩)).before.within.planned
  have hrequest : GrantOf cfg ctx (adapterRequest ctx grant e.inputs approval).grant := hgrant
  refine (invokeAdapter_legit hchosen hrequest).bind fun result ↦ ?_
  refine (within_of_routine (calls_perform.mpr ?_)).bind fun t1 ↦ ?_
  · exact ⟨rfl, rfl, fun m hm ↦ by cases hm⟩
  refine (within_of_routine (calls_perform.mpr (routine_utcNow _))).bind fun endedAt ↦ ?_
  refine (within_of_routine calls_recordIo).bind fun _ ↦ ?_
  exact finishNode_legit hchosen hplan

theorem execNode_legit {node : PlanNode} {previous : Dict} {force : Option String}
    {approval : Option Dict} (hnode : PlannedNode cfg plan node)
    (hforce : chosenCapability force node = executedOn node) (hplan : '-' ∈ plan.planId.toList) :
    Triple (Admitted cfg taskRunId) (Planned cfg taskRunId plan)
      (execNode cfg taskRunId node previous force approval)
      (fun _ ↦ Planned cfg taskRunId plan) fun _ ↦ Planned cfg taskRunId plan := by
  refine (startNode_legit hnode hforce).bind fun ctx ↦ Triple.of_pure fun hctx ↦ ?_
  split
  · refine (within_of_routine calls_execInProcess).conseq (fun t ht ↦ ht.within)
      (fun _ t ht ↦ ht.planned) fun _ t ht ↦ ht
  · exact execAdapter_legit hctx.1 hplan

end Engine

end Orchestra
