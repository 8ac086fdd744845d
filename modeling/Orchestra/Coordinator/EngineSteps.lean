import Orchestra.Coordinator.EngineSync

/-!
# What every call of a run may be

`Legit` says once, for each kind of call, what is known of it from the calls before: which node run
it is about, which capability it records, whether a projection or a grant came first. Every call of
every run is legitimate; the properties of what a run records and sends are read off from that.

A node is executed under a plan (`Planned`) and within its own node run (`Within`). Most calls are
routine there, and keep both; the others have their own lemma, at the place in the program where
they are made.
-/

namespace Orchestra

/-- The node of a plan with this name. -/
def ExecutionPlan.node? (plan : ExecutionPlan) (nodeId : String) : Option PlanNode :=
  plan.nodes.find? fun node ↦ decide (node.nodeId = nodeId)

theorem ExecutionPlan.mem_of_node? {plan : ExecutionPlan} {nodeId : String} {node : PlanNode}
    (h : plan.node? nodeId = some node) : node ∈ plan.nodes ∧ node.nodeId = nodeId := by
  rw [node?] at h
  exact ⟨List.mem_of_find?_eq_some h, by simpa using List.find?_some h⟩

/-- The manifest declares a view that egress is projected through. -/
def CapabilityManifest.DeclaresView (m : CapabilityManifest) : Prop :=
  ∃ viewName, m.egressViewName = some viewName ∧ viewName ≠ ""

namespace Engine

open Interaction

/-! ## What a call records -/

/-- The node, the capability and the manifest that are recorded of an execution. -/
structure Record where
  nodeId : Option String
  capabilityId : Option String
  manifestId : Option String
  deriving DecidableEq

/-- A text in a dictionary. -/
def textField (field : Option Json) : Option String :=
  match field with
  | some (.str s) => some s
  | _ => none

/-- What the node run's row, its `node.started` event, its grant and its receipt record, and what
its adapter is invoked for. -/
def Cmd.record? : Cmd → Option Record
  | .upsertNodeRun row => some ⟨some row.nodeId, row.capabilityId, row.manifestId⟩
  | .appendEvent ev =>
    if ev.kind = .nodeStarted then
      some ⟨textField (ev.payload.get? "node_id"), textField (ev.payload.get? "capability_id"),
        textField (ev.payload.get? "manifest_id")⟩
    else none
  | .saveGrant grant => some ⟨some grant.nodeId, some grant.capabilityId, some grant.manifestId⟩
  | .saveReceipt r =>
    some ⟨textField (r.signedField "node_id"), textField (r.signedField "capability_id"),
      textField (r.signedField "manifest_id")⟩
  | .invoke request =>
    some ⟨some request.grant.nodeId, some request.grant.capabilityId, some request.grant.manifestId⟩
  | _ => none

/-- The node run a call is about. -/
def Cmd.nodeRun? : Cmd → Option String
  | .upsertNodeRun row => some row.nodeRunId
  | .updateNodeState id _ _ _ _ => some id
  | .appendEvent ev => ev.nodeRunId
  | .saveGrant grant => some grant.nodeRunId
  | .saveReceipt r => some r.nodeRunId
  | .invoke request => some request.grant.nodeRunId
  | _ => none

/-! ## Legitimate calls -/

variable (cfg : Config) (taskRunId : String)

/-- A node of a plan is bound to a manifest of the store, or to nothing. -/
def Bound (node : PlanNode) : Prop :=
  (∃ m, cfg.router.store.find? node.capabilityId = some m ∧
    node.manifestId = m.manifestId cfg.P cfg.F) ∨
  (node.capabilityId = "" ∧ node.manifestId = "")

/-- The capability a node of the template is executed on. -/
def executedOn (node : PlanNode) : String :=
  if node.nodeId = "merge" then mergeCapability else node.capabilityId

/-- The plan was signed, and both events about it were appended. -/
structure Announced (pre : RunTrace) (plan : ExecutionPlan) : Prop where
  signed : signedPlan pre = some plan
  planCreated : announcedDigest taskRunId .planCreated pre = some (.str (plan.digest cfg.P))
  planSigned : announcedDigest taskRunId .planSigned pre = some (.str (plan.digest cfg.P))

/-- The record is about a node of the announced plan, and the capability this node is executed
on. -/
def Executes (pre : RunTrace) (r : Record) : Prop :=
  ∃ plan node m, Announced cfg taskRunId pre plan ∧ plan.node? node.nodeId = some node ∧
    Bound cfg node ∧ cfg.router.store.find? (executedOn node) = some m ∧
    r = ⟨some node.nodeId, some (executedOn node), some (m.manifestId cfg.P cfg.F)⟩

/-- The inputs are what a projection for the capability replied. -/
def HandsProjection (pre : RunTrace) (request : AdapterRequest) : Prop :=
  ∃ viewName payload m,
    (⟨.project request.grant.capabilityId viewName payload, .ok (request.inputs, m)⟩ : RunStep) ∈ pre

/-- What comes before an adapter is invoked. -/
structure Invoked (pre : RunTrace) (request : AdapterRequest) : Prop where
  capability : ∃ m, cfg.router.store.find? request.grant.capabilityId = some m ∧
    (m.DeclaresView → cfg.egressPep.isSome = true → HandsProjection pre request)
  granted : HasEvent taskRunId pre .grantIssued request.grant.nodeRunId
  noIntent : ¬HasEvent taskRunId pre .ioIntent request.grant.nodeRunId

/-- A receipt is built with the identifier of the announced plan as its plan digest. -/
def BuiltFor (pre : RunTrace) (r : SignedReceipt) : Prop :=
  ∃ plan receiptId now args, Announced cfg taskRunId pre plan ∧
    r = cfg.receiptBuilder.build cfg.P receiptId now args ∧ args.planDigest = plan.planId ∧
    '-' ∈ plan.planId.toList

/-- What is known of a call from the calls before it. -/
structure Legit (pre : RunTrace) (s : RunStep) : Prop where
  issued : ∀ n, s.cmd.nodeRun? = some n → n ∈ issuedIds pre
  record : ∀ r, s.cmd.record? = some r → Executes cfg taskRunId pre r
  projected : ∀ id viewName payload, s.cmd = .project id viewName payload →
    ∃ m, cfg.router.store.find? id = some m ∧ m.egressViewName = some viewName ∧ viewName ≠ ""
  invoked : ∀ request, s.cmd = .invoke request → Invoked cfg taskRunId pre request
  receipt : ∀ r, s.cmd = .saveReceipt r → BuiltFor cfg taskRunId pre r

/-! ## Facts that last -/

variable {cfg taskRunId} {t : RunTrace} {s : RunStep} {plan : ExecutionPlan}

theorem hasEvent_concat {kind : EventKind} {n : String} (h : HasEvent taskRunId t kind n) :
    HasEvent taskRunId (t ++ [s]) kind n := by
  obtain ⟨ev, hev, hkind, hnode⟩ := h
  refine ⟨ev, ?_, hkind, hnode⟩
  rw [events_concat]
  exact List.mem_append_left _ hev

theorem issuedIds_subset {n : String} (h : n ∈ issuedIds t) : n ∈ issuedIds (t ++ [s]) := by
  rw [issuedIds_concat]
  exact List.mem_append_left _ h

theorem signedPlan_of_concat (h : signedPlan t = some plan) :
    signedPlan (t ++ [s]) = some plan := by
  rw [signedPlan_concat, h, Option.some_or]

theorem isSome_storedPlan_concat (h : (storedPlan taskRunId t).isSome) :
    (storedPlan taskRunId (t ++ [s])).isSome := by
  rw [storedPlan_concat]
  cases planWrite? taskRunId s with
  | none => exact h
  | some p => rfl

theorem announcedDigest_of_concat {kind : EventKind} {d : Json}
    (h : announcedDigest taskRunId kind t = some d) :
    announcedDigest taskRunId kind (t ++ [s]) = some d := by
  obtain ⟨ev, hev, hd⟩ := Option.bind_eq_some_iff.mp h
  rw [announcedDigest, events_concat, List.filter_append, List.head?_append, hev, Option.some_or]
  exact hd

theorem Announced.concat (h : Announced cfg taskRunId t plan) :
    Announced cfg taskRunId (t ++ [s]) plan :=
  ⟨signedPlan_of_concat h.signed, announcedDigest_of_concat h.planCreated,
    announcedDigest_of_concat h.planSigned⟩

/-- The first event of its kind announces its digest. -/
theorem announcedDigest_append {ev : AuditEvent} (htask : ev.taskRunId = some taskRunId)
    (hnone : ∀ e ∈ events taskRunId t, e.kind ≠ ev.kind) :
    announcedDigest taskRunId ev.kind (t ++ [⟨.appendEvent ev, .ok ()⟩])
      = ev.payload.get? "plan_digest" := by
  have hnil : (events taskRunId t).filter (fun e ↦ decide (e.kind = ev.kind)) = [] := by
    rw [List.filter_eq_nil_iff]
    intro e he hkind
    exact hnone e he (of_decide_eq_true hkind)
  rw [announcedDigest, events_concat, List.filter_append, hnil]
  simp [event?, htask]

/-- An event that was appended is a call of the trace. -/
theorem mem_events_iff {ev : AuditEvent} :
    ev ∈ events taskRunId t ↔
      ev.taskRunId = some taskRunId ∧ (⟨.appendEvent ev, .ok ()⟩ : RunStep) ∈ t := by
  rw [events, List.mem_filterMap]
  constructor
  · rintro ⟨⟨c, r⟩, hmem, hev⟩
    cases c with
    | appendEvent e =>
      cases r with
      | ok a =>
        have hif : (if e.taskRunId = some taskRunId then some e else none) = some ev := hev
        split at hif
        · next htask =>
          obtain rfl := Option.some.inj hif
          exact ⟨htask, hmem⟩
        · cases hif
      | error e => cases hev
    | _ => cases hev
  · rintro ⟨htask, hmem⟩
    exact ⟨_, hmem, if_pos htask⟩

/-- Nothing was logged for a node run whose identifier has not been issued. -/
theorem not_hasEvent_of_not_issued (h : EveryStep (Legit cfg taskRunId) t) {n : String}
    (hn : n ∉ issuedIds t) (kind : EventKind) : ¬HasEvent taskRunId t kind n := by
  rintro ⟨ev, hev, -, hnode⟩
  obtain ⟨pre, post, heq⟩ := List.append_of_mem (mem_events_iff.mp hev).2
  have hissued := (h pre _ post heq).issued n hnode
  rw [heq, issuedIds, List.filterMap_append] at hn
  exact hn (List.mem_append_left _ hissued)

/-! ## Routine calls -/

/-- The calls that record nothing, announce nothing, and reach no adapter. -/
def Cmd.plain : Cmd → Bool
  | .upsertTaskRun _ _ _ _ _ | .signPlan _ | .project _ _ _ | .invoke _ | .upsertNodeRun _
  | .saveGrant _ | .saveReceipt _ => false
  | .appendEvent ev => decide (ev.kind ≠ .nodeStarted)
  | _ => true

/-- The calls that write the row of a task. -/
def Cmd.writesTask : Cmd → Bool
  | .upsertTaskRun _ _ _ _ _ | .updateTaskState _ _ => true
  | _ => false

/-- A plain call about the node run `n`, or about none, that leaves the row of the task alone. -/
structure Cmd.Routine (n : Option String) (c : Cmd) : Prop where
  plain : c.plain = true
  task : c.writesTask = false
  nodeRun : ∀ m, c.nodeRun? = some m → n = some m

theorem legit_of_plain (hplain : s.cmd.plain = true)
    (hn : ∀ m, s.cmd.nodeRun? = some m → m ∈ issuedIds t) : Legit cfg taskRunId t s := by
  obtain ⟨c, r⟩ := s
  refine ⟨hn, fun r hr ↦ ?_, fun id viewName payload hc ↦ ?_, fun request hc ↦ ?_,
    fun receipt hc ↦ ?_⟩
  · cases c with
    | appendEvent ev =>
      simp only [Cmd.plain, decide_eq_true_eq] at hplain
      simp only [Cmd.record?, if_neg hplain] at hr
      cases hr
    | upsertNodeRun row => cases hplain
    | saveGrant grant => cases hplain
    | saveReceipt receipt => cases hplain
    | invoke request => cases hplain
    | _ => cases hr
  · cases hc
    cases hplain
  · cases hc
    cases hplain
  · cases hc
    cases hplain

theorem Cmd.Routine.legit {n : Option String} (h : s.cmd.Routine n)
    (hn : ∀ m, n = some m → m ∈ issuedIds t) : Legit cfg taskRunId t s :=
  legit_of_plain h.plain fun m hm ↦ hn m (h.nodeRun m hm)

theorem planWrite?_of_plain (h : s.cmd.plain = true) : planWrite? taskRunId s = none := by
  obtain ⟨c, r⟩ := s
  cases c with
  | upsertTaskRun id contractId templateId state planId => cases h
  | _ => rfl

/-- The calls of `_emit`. -/
inductive EmitCall (taskRunId : String) (nodeRunId : Option String) (kind : EventKind)
    (payload : Dict) : Cmd → Prop
  | newId : EmitCall taskRunId nodeRunId kind payload .newId
  | utcNow : EmitCall taskRunId nodeRunId kind payload .utcNow
  | append (eventId : String) (occurredAt : Timestamp) :
      EmitCall taskRunId nodeRunId kind payload (.appendEvent
        { eventId := eventId, taskRunId := some taskRunId, nodeRunId := nodeRunId, kind := kind,
          occurredAt := occurredAt, payload := .obj payload })
  | publish (event : Json) : EmitCall taskRunId nodeRunId kind payload (.publish taskRunId event)

theorem calls_publish {φ : Cmd → Prop} {event : Json} (h : φ (.publish taskRunId event)) :
    Calls φ (publish cfg taskRunId event) := by
  rw [publish]
  split
  · exact calls_perform.mpr h
  · exact calls_pure ()

theorem calls_emit {φ : Cmd → Prop} {nodeRunId : Option String} {kind : EventKind}
    {payload : Dict} (h : ∀ c, EmitCall taskRunId nodeRunId kind payload c → φ c) :
    Calls φ (emit cfg taskRunId nodeRunId kind payload) := by
  refine (calls_perform.mpr (h _ .newId)).bind fun eventId ↦ ?_
  refine (calls_perform.mpr (h _ .utcNow)).bind fun now ↦ ?_
  refine (calls_perform.mpr (h _ (.append _ _))).bind fun _ ↦ ?_
  exact calls_publish (h _ (.publish _))

theorem EmitCall.routine {nodeRunId : Option String} {kind : EventKind} {payload : Dict}
    (hkind : kind ≠ .nodeStarted) {c : Cmd} (hc : EmitCall taskRunId nodeRunId kind payload c) :
    c.Routine nodeRunId := by
  cases hc with
  | newId => exact ⟨rfl, rfl, nofun⟩
  | utcNow => exact ⟨rfl, rfl, nofun⟩
  | append eventId occurredAt => exact ⟨decide_eq_true hkind, rfl, fun m hm ↦ hm⟩
  | publish event => exact ⟨rfl, rfl, nofun⟩

section Emit

variable {A : RunTrace → RunStep → Prop} {I J E : RunTrace → Prop} {nodeRunId : Option String}
  {kind : EventKind} {payload : Dict}

/-- **The rule of an emit that appends something new.** Before the event is appended `I` is kept,
and after it `J`. -/
theorem triple_emit
    (hbefore : ∀ t s, s.cmd = .newId ∨ s.cmd = .utcNow → A t s → I t → I (t ++ [s]))
    (hok : ∀ t eventId occurredAt, I t → J (t ++ [⟨.appendEvent
      { eventId := eventId, taskRunId := some taskRunId, nodeRunId := nodeRunId, kind := kind,
        occurredAt := occurredAt, payload := .obj payload }, .ok ()⟩]))
    (herror : ∀ t eventId occurredAt e, I t → A t ⟨.appendEvent
      { eventId := eventId, taskRunId := some taskRunId, nodeRunId := nodeRunId, kind := kind,
        occurredAt := occurredAt, payload := .obj payload }, .error e⟩ → E (t ++ [⟨.appendEvent
      { eventId := eventId, taskRunId := some taskRunId, nodeRunId := nodeRunId, kind := kind,
        occurredAt := occurredAt, payload := .obj payload }, .error e⟩]))
    (hafter : ∀ t event r, A t ⟨.publish taskRunId event, r⟩ → J t →
      J (t ++ [⟨.publish taskRunId event, r⟩]))
    (hI : ∀ t, I t → E t) (hJ : ∀ t, J t → E t) :
    Triple A I (emit cfg taskRunId nodeRunId kind payload) (fun _ ↦ J) fun _ ↦ E := by
  have hbefore' (c : Cmd) (hc : c = .newId ∨ c = .utcNow) :
      Triple A I (call c) (fun _ ↦ I) fun _ ↦ E :=
    (Triple.of_calls (φ := (· = c)) (calls_perform.mpr rfl)
      fun t s hs ↦ hbefore t s (hs ▸ hc)).post_error fun _ ↦ hI
  refine (hbefore' .newId (Or.inl rfl)).bind fun eventId ↦ ?_
  refine (hbefore' .utcNow (Or.inr rfl)).bind fun now ↦ ?_
  refine Triple.bind (Q := fun _ ↦ J) ?_ fun _ ↦ ?_
  · exact Triple.perform (fun t _ ht _ ↦ hok t eventId _ ht)
      fun t e ht hA ↦ herror t eventId _ e ht hA
  · refine (Triple.of_calls (φ := fun c ↦ ∃ event, c = .publish taskRunId event)
      (calls_publish ⟨_, rfl⟩) fun t s hs hA ht ↦ ?_).post_error fun _ ↦ hJ
    obtain ⟨c, r⟩ := s
    obtain ⟨event, rfl⟩ := hs
    exact hafter t event r hA ht

end Emit

/-! ## Under a plan, and within a node run -/

/-- The plan has the nodes of the template, each of them bound, and an identifier. -/
structure WellPlanned (cfg : Config) (plan : ExecutionPlan) : Prop where
  nodes : plan.nodes.map (fun node ↦ (node.nodeId, node.requiresApproval)) =
    ContractReview.template.nodes.map fun spec ↦ (spec.nodeId, spec.requiresApproval)
  bound : ∀ node ∈ plan.nodes, node.requiresApproval = false → Bound cfg node
  hyphen : '-' ∈ plan.planId.toList

/-- A node of the plan that is executed. -/
structure PlannedNode (cfg : Config) (plan : ExecutionPlan) (node : PlanNode) : Prop where
  found : plan.node? node.nodeId = some node
  bound : Bound cfg node

/-- The `i`-th node of the plan is that of the template. -/
theorem WellPlanned.planNode (h : WellPlanned cfg plan) {i : ℕ} {spec : NodeSpec} {node : PlanNode}
    (hspec : ContractReview.template.nodes[i]? = some spec)
    (happroval : spec.requiresApproval = false)
    (hnode : planNode plan i = .ok node) :
    PlannedNode cfg plan node ∧ node.nodeId = spec.nodeId := by
  have hget : plan.nodes[i]? = some node := by
    rw [Engine.planNode] at hnode
    split at hnode
    · next hsome => rw [hsome, Except.ok.inj hnode]
    · cases hnode
  have heq := congrArg (·[i]?) h.nodes
  simp only [List.getElem?_map, hget, hspec, Option.map_some, Option.some.injEq,
    Prod.mk.injEq] at heq
  have hmem : node ∈ plan.nodes := List.mem_of_getElem? hget
  refine ⟨⟨?_, h.bound node hmem (heq.2.trans happroval)⟩, heq.1⟩
  -- the names of the template's nodes are distinct
  have hids : plan.nodes.map PlanNode.nodeId =
      ContractReview.template.nodes.map NodeSpec.nodeId := by
    have hfst := congrArg (List.map Prod.fst) h.nodes
    simpa only [List.map_map, Function.comp_def] using hfst
  have hnodup : (plan.nodes.map PlanNode.nodeId).Nodup := by
    rw [hids]
    decide
  have hsome : (plan.node? node.nodeId).isSome := by
    rw [ExecutionPlan.node?, List.find?_isSome]
    exact ⟨node, hmem, decide_eq_true rfl⟩
  obtain ⟨found, hfound⟩ := Option.isSome_iff_exists.mp hsome
  obtain ⟨hfoundMem, hfoundId⟩ := ExecutionPlan.mem_of_node? hfound
  rw [hfound, List.inj_on_of_nodup_map hnodup hfoundMem hmem hfoundId]

/-- A plan has been announced and is stored in the task's row. -/
structure Planned (cfg : Config) (taskRunId : String) (plan : ExecutionPlan) (t : RunTrace) :
    Prop where
  legit : EveryStep (Legit cfg taskRunId) t
  announced : Announced cfg taskRunId t plan
  stored : storedPlan taskRunId t = some (some plan.planId)

/-- Under a plan, with a node run whose identifier has been issued. -/
structure Within (cfg : Config) (taskRunId : String) (plan : ExecutionPlan) (n : Option String)
    (t : RunTrace) : Prop where
  planned : Planned cfg taskRunId plan t
  issued : ∀ m, n = some m → m ∈ issuedIds t

theorem Planned.within (h : Planned cfg taskRunId plan t) : Within cfg taskRunId plan none t :=
  ⟨h, nofun⟩

/-- A legitimate call that does not write the plan into the task's row. -/
theorem Within.concat {n : Option String} (h : Within cfg taskRunId plan n t)
    (hs : Legit cfg taskRunId t s) (hplan : planWrite? taskRunId s = none) :
    Within cfg taskRunId plan n (t ++ [s]) where
  planned :=
    { legit := everyStep_concat.mpr ⟨h.planned.legit, hs⟩
      announced := h.planned.announced.concat
      stored := by rw [storedPlan_concat, hplan, Option.none_or, h.planned.stored] }
  issued m hm := issuedIds_subset (h.issued m hm)

theorem Within.routine {n : Option String} (h : Within cfg taskRunId plan n t)
    (hs : s.cmd.Routine n) : Within cfg taskRunId plan n (t ++ [s]) :=
  h.concat (hs.legit h.issued) (planWrite?_of_plain hs.plain)

/-- **Routine programs** keep the plan and the node run. -/
theorem within_of_calls {α : Type} {p : Prog α} {n : Option String}
    {A : RunTrace → RunStep → Prop} (h : Calls (Cmd.Routine n) p) :
    Triple A (Within cfg taskRunId plan n) p (fun _ ↦ Within cfg taskRunId plan n)
      fun _ ↦ Within cfg taskRunId plan n :=
  Triple.of_calls h fun _ _ hs _ ht ↦ ht.routine hs

/-- A routine call outside of a node, or a write of the state of the task. -/
def Cmd.Outside (c : Cmd) : Prop := c.Routine none ∨ ∃ id state, c = .updateTaskState id state

theorem Cmd.Outside.plain {c : Cmd} (h : c.Outside) : c.plain = true := by
  rcases h with hroutine | ⟨id, state, rfl⟩
  · exact hroutine.plain
  · rfl

theorem Cmd.Outside.nodeRun_none {c : Cmd} (h : c.Outside) : c.nodeRun? = none := by
  rcases h with hroutine | ⟨id, state, rfl⟩
  · exact Option.eq_none_iff_forall_ne_some.mpr fun m hm ↦ by cases hroutine.nodeRun m hm
  · rfl

theorem planned_of_outside {α : Type} {p : Prog α} {A : RunTrace → RunStep → Prop}
    (h : Calls Cmd.Outside p) :
    Triple A (Planned cfg taskRunId plan) p (fun _ ↦ Planned cfg taskRunId plan)
      fun _ ↦ Planned cfg taskRunId plan := by
  refine Triple.of_calls h fun t s hs _ ht ↦ ?_
  have hlegit : Legit cfg taskRunId t s :=
    legit_of_plain hs.plain fun m hm ↦ by rw [hs.nodeRun_none] at hm; cases hm
  exact (ht.within.concat hlegit (planWrite?_of_plain hs.plain)).planned

/-- What a started node is known to be. -/
structure Chosen (cfg : Config) (plan : ExecutionPlan) (ctx : NodeContext) : Prop where
  node : PlannedNode cfg plan ctx.node
  capability : ctx.capabilityId = executedOn ctx.node
  manifest : cfg.router.store.find? ctx.capabilityId = some ctx.manifest

theorem Chosen.executes {ctx : NodeContext} (h : Chosen cfg plan ctx)
    (ht : Announced cfg taskRunId t plan) :
    Executes cfg taskRunId t
      ⟨some ctx.node.nodeId, some ctx.capabilityId, some (ctx.manifestId cfg)⟩ := by
  refine ⟨plan, ctx.node, ctx.manifest, ht, h.node.found, h.node.bound, ?_, ?_⟩
  · rw [← h.capability]
    exact h.manifest
  · rw [h.capability]
    rfl

/-- Within a node run that has not logged an intent. -/
structure Before (cfg : Config) (taskRunId : String) (plan : ExecutionPlan) (n : String)
    (t : RunTrace) : Prop where
  within : Within cfg taskRunId plan (some n) t
  noIntent : ¬HasEvent taskRunId t .ioIntent n

theorem not_hasEvent_concat {kind : EventKind} {n : String} (h : ¬HasEvent taskRunId t kind n)
    (hs : ∀ ev, s.cmd = .appendEvent ev → ev.kind ≠ kind) :
    ¬HasEvent taskRunId (t ++ [s]) kind n := by
  rintro ⟨ev, hev, hkind, hnode⟩
  obtain ⟨htask, hmem⟩ := mem_events_iff.mp hev
  rcases List.mem_append.mp hmem with hmem | hmem
  · exact h ⟨ev, mem_events_iff.mpr ⟨htask, hmem⟩, hkind, hnode⟩
  · obtain rfl := List.mem_singleton.mp hmem
    exact hs ev rfl hkind

theorem Before.concat {n : String} (h : Before cfg taskRunId plan n t)
    (hs : Legit cfg taskRunId t s) (hplan : planWrite? taskRunId s = none)
    (hkind : ∀ ev, s.cmd = .appendEvent ev → ev.kind ≠ .ioIntent) :
    Before cfg taskRunId plan n (t ++ [s]) :=
  ⟨h.within.concat hs hplan, not_hasEvent_concat h.noIntent hkind⟩

end Engine

end Orchestra
