import Orchestra.Coordinator.Tables
import Orchestra.Core.Exceptions
import Orchestra.Foundation.KeyedTable

/-!
# The timeline of a task, node by node

The platform view has one row for each node, with the state that the events of the task have left it
in. The events are walked once, and each of them updates the record of the node it names. Four kinds
of events change the state; a decision about an approval is not among them.
-/

namespace Orchestra

structure NodeSummary where
  nodeId : Json
  state : String := "pending"
  capabilityId : Json
  lastEventAt : Timestamp
  latencyMs : Json := .null

/-- The state of a node after an event of this kind. -/
def EventKind.shown (kind : EventKind) (state : String) : String :=
  match kind with
  | .nodeStarted => "running"
  | .nodeSucceeded => "succeeded"
  | .nodeFailed => "failed"
  | .nodeAwaitingApproval => "awaiting-approval"
  | _ => state

/-- `payload.get("capability_id", "")`. -/
def AuditEvent.capabilityId (e : AuditEvent) : Json :=
  (e.payload.get? "capability_id").getD (.str "")

namespace NodeSummary

/-- The record `setdefault` makes of the first event of a node. -/
def ofEvent (nodeId : Json) (e : AuditEvent) : NodeSummary :=
  { nodeId := nodeId, capabilityId := e.capabilityId, lastEventAt := e.occurredAt }

/-- `rec["latency_ms"]` after an event. -/
def latencyAfter (record : NodeSummary) (e : AuditEvent) : Json :=
  if e.kind = .nodeSucceeded then
    match e.payload.get? "latency_ms" with
    | some .null | none => record.latencyMs
    | some latency => latency
  else record.latencyMs

/-- The record of a node after an event about it. -/
def note (record : NodeSummary) (e : AuditEvent) : NodeSummary where
  nodeId := record.nodeId
  state := e.kind.shown record.state
  capabilityId := record.capabilityId.orElse e.capabilityId
  lastEventAt := e.occurredAt
  latencyMs := record.latencyAfter e

theorem note_nodeId (e : AuditEvent) (record : NodeSummary) :
    (record.note e).nodeId = record.nodeId := rfl

end NodeSummary

namespace Ux

/-- Lists and dictionaries are not keys of a dictionary. -/
def checkHashable (key : Json) : Except Raised Unit :=
  match key with
  | .arr _ | .obj _ => .error ⟨"TypeError", "unhashable type: '" ++ key.typeName ++ "'"⟩
  | _ => .ok ()

/-- The records of the nodes, in the order in which they were made. -/
abbrev ByNode := KeyedTable NodeSummary.nodeId

/-- The record of the node the event names, made if there is none, after the event. -/
def record (byNode : ByNode) (nodeId : Json) (e : AuditEvent) : ByNode :=
  byNode.upsert ((NodeSummary.ofEvent nodeId e).note e) (·.note e) (NodeSummary.note_nodeId e)

/-- The body of the loop. -/
def noteEvent (byNode : ByNode) (e : AuditEvent) : Except Raised ByNode := do
  let nodeId ← e.payload.getD "node_id" .null
  if nodeId.truthy then
    checkHashable nodeId
    return record byNode nodeId e
  else return byNode

/-- The dictionary `by_node` after the loop. -/
def byNode (events : List AuditEvent) : Except Raised ByNode := events.foldlM noteEvent .empty

/-- `_derive_node_runs`. -/
def deriveNodeRuns (events : List AuditEvent) : Except Raised (List NodeSummary) := do
  let records ← byNode events
  return records.rows

/-- The state reported for a node; a node without a record has not been started. -/
def reportedState (runs : List NodeSummary) (nodeId : Json) : String :=
  match runs.find? fun record ↦ decide (record.nodeId = nodeId) with
  | some record => record.state
  | none => "pending"

/-! ## What the events say -/

/-- The states the pages show as good. -/
def okStates : List String := ["succeeded", "completed", "ok", "verified", "approved", "approve"]

/-- The states the pages show as bad. -/
def errStates : List String :=
  ["failed", "cancelled", "denied", "rejected", "reject", "verify-error"]

end Ux

/-- The states in which an event of the lifecycle of a node may leave it. For a decision this is any
state that is shown as good, or as bad. -/
def EventKind.leaves? : EventKind → Option (List String)
  | .nodeStarted => some ["running"]
  | .nodeSucceeded => some ["succeeded"]
  | .nodeFailed => some ["failed"]
  | .nodeAwaitingApproval => some ["awaiting-approval"]
  | .nodeApproved => some Ux.okStates
  | .nodeRejected => some Ux.errStates
  | _ => none

/-- A decision about an approval. -/
def EventKind.Decision (kind : EventKind) : Prop := kind = .nodeApproved ∨ kind = .nodeRejected

instance (kind : EventKind) : Decidable kind.Decision := inferInstanceAs (Decidable (_ ∨ _))

/-- The node an event is about. -/
def AuditEvent.node? (e : AuditEvent) : Option Json :=
  (e.payload.get? "node_id").filter Json.truthy

namespace Ux

/-- The events of a log about a node. -/
def eventsOf (nodeId : Json) (log : List AuditEvent) : List AuditEvent :=
  log.filter fun e ↦ decide (e.node? = some nodeId)

/-- The states in which the last of these events leaves its node. -/
def lastLeaves (events : List AuditEvent) : List String :=
  (events.filterMap fun e ↦ e.kind.leaves?).getLast?.getD ["pending"]

/-- The state reported for each node is the one given by its last lifecycle event. -/
def RollsUp (log : List AuditEvent) : Prop :=
  ∃ runs, deriveNodeRuns log = .ok runs ∧
    ∀ nodeId, reportedState runs nodeId ∈ lastLeaves (eventsOf nodeId log)

/-! ## What the loop computes -/

variable {log events : List AuditEvent} {e : AuditEvent} {records records' : ByNode}
  {nodeId : Json}

/-- `if not node_id: continue`. -/
theorem node?_eq (e : AuditEvent) :
    e.node? =
      let nodeId := (e.payload.get? "node_id").getD .null
      if nodeId.truthy then some nodeId else none := by
  rw [AuditEvent.node?]
  cases e.payload.get? "node_id" with
  | none => rfl
  | some nodeId => rw [Option.filter_some, Option.getD_some]

/-- One event: it is about no node, or it updates the record of its node. -/
theorem noteEvent_cases (h : noteEvent records e = .ok records') :
    (e.node? = none ∧ records' = records) ∨
      ∃ nodeId, e.node? = some nodeId ∧ records' = record records nodeId e := by
  unfold noteEvent at h
  cases hpayload : e.payload with
  | obj fields =>
    have hnode := node?_eq e
    rw [hpayload] at h hnode
    simp only [Json.getD, bind, Except.bind] at h
    split at h
    · next htruthy =>
      refine Or.inr ⟨_, hnode.trans (if_pos htruthy), ?_⟩
      split at h
      · cases h
      · exact (Except.ok.inj h).symm
    · next htruthy => exact Or.inl ⟨hnode.trans (if_neg htruthy), (Except.ok.inj h).symm⟩
  | _ =>
    rw [hpayload] at h
    cases h

theorem reportedState_rows (records : ByNode) (nodeId : Json) :
    reportedState records.rows nodeId =
      ((records.find? nodeId).map NodeSummary.state).getD "pending" := by
  rw [reportedState, KeyedTable.find?]
  cases records.rows.find? fun record ↦ decide (record.nodeId = nodeId) <;> rfl

/-- **One event** changes the state of the node it is about. -/
theorem reportedState_noteEvent (h : noteEvent records e = .ok records') (nodeId : Json) :
    reportedState records'.rows nodeId =
      if e.node? = some nodeId then e.kind.shown (reportedState records.rows nodeId)
      else reportedState records.rows nodeId := by
  rcases noteEvent_cases h with ⟨hnone, rfl⟩ | ⟨own, hsome, rfl⟩
  · rw [hnone, if_neg nofun]
  · rw [reportedState_rows, reportedState_rows, record, KeyedTable.find?_upsert, hsome]
    by_cases hown : own = nodeId
    · have hkey : ((NodeSummary.ofEvent own e).note e).nodeId = nodeId := hown
      rw [if_pos hkey, if_pos (congrArg some hown)]
      cases records.find? nodeId <;> rfl
    · have hkey : ((NodeSummary.ofEvent own e).note e).nodeId ≠ nodeId := hown
      rw [if_neg hkey, if_neg fun heq ↦ hown (Option.some.inj heq)]

/-- The state that events about one node leave it in. -/
def stateAfter (events : List AuditEvent) : String :=
  events.foldl (fun state e ↦ e.kind.shown state) "pending"

theorem stateAfter_concat (events : List AuditEvent) (e : AuditEvent) :
    stateAfter (events ++ [e]) = e.kind.shown (stateAfter events) := by
  rw [stateAfter, List.foldl_concat]
  rfl

theorem eventsOf_concat (nodeId : Json) (log : List AuditEvent) (e : AuditEvent) :
    eventsOf nodeId (log ++ [e]) =
      if e.node? = some nodeId then eventsOf nodeId log ++ [e] else eventsOf nodeId log := by
  rw [eventsOf, List.filter_append]
  split
  · next h => rw [List.filter_singleton, decide_eq_true h]; rfl
  · next h => rw [List.filter_singleton, decide_eq_false h]; exact List.append_nil _

theorem byNode_concat (log : List AuditEvent) (e : AuditEvent) :
    byNode (log ++ [e]) = (byNode log).bind fun records ↦ noteEvent records e := by
  rw [byNode, List.foldlM_append]
  simp only [List.foldlM_cons, List.foldlM_nil, bind_pure]
  rfl

/-- **The whole loop.** The state reported for a node is what the events about it make of it. -/
theorem reportedState_byNode (h : byNode log = .ok records) (nodeId : Json) :
    reportedState records.rows nodeId = stateAfter (eventsOf nodeId log) := by
  induction log using List.reverseRecOn generalizing records with
  | nil =>
    obtain rfl := Except.ok.inj h
    rfl
  | append_singleton log e ih =>
    rw [byNode_concat] at h
    cases hlog : byNode log with
    | error error =>
      rw [hlog] at h
      cases h
    | ok before =>
      rw [hlog] at h
      rw [reportedState_noteEvent h, ih hlog, eventsOf_concat]
      split
      · rw [stateAfter_concat]
      · rfl

theorem rollsUp_iff_of_ok (h : byNode log = .ok records) :
    RollsUp log ↔
      ∀ nodeId, stateAfter (eventsOf nodeId log) ∈ lastLeaves (eventsOf nodeId log) := by
  have hruns : deriveNodeRuns log = .ok records.rows := by
    rw [deriveNodeRuns, h]
    rfl
  constructor
  · rintro ⟨runs, hok, hall⟩ nodeId
    obtain rfl := Except.ok.inj (hruns.symm.trans hok)
    rw [← reportedState_byNode h]
    exact hall nodeId
  · intro hall
    refine ⟨records.rows, hruns, fun nodeId ↦ ?_⟩
    rw [reportedState_byNode h]
    exact hall nodeId

/-- The node that an event names, if it names one, is a text that `p` is true of. -/
def Names (p : String → Prop) (e : AuditEvent) : Prop :=
  ∃ fields, e.payload = .obj fields ∧
    ∀ v, (Json.obj fields).get? "node_id" = some v → ∃ nodeId, v = .str nodeId ∧ p nodeId

theorem Names.mono {p q : String → Prop} (h : Names p e) (himp : ∀ nodeId, p nodeId → q nodeId) :
    Names q e := by
  obtain ⟨fields, hpayload, hnode⟩ := h
  refine ⟨fields, hpayload, fun v hv ↦ ?_⟩
  obtain ⟨nodeId, rfl, hp⟩ := hnode v hv
  exact ⟨nodeId, rfl, himp nodeId hp⟩

theorem exists_noteEvent {p : String → Prop} (h : Names p e) (records : ByNode) :
    ∃ records', noteEvent records e = .ok records' := by
  obtain ⟨fields, hpayload, hnode⟩ := h
  unfold noteEvent
  rw [hpayload]
  simp only [Json.getD, bind, Except.bind]
  split
  · cases hget : (Json.obj fields).get? "node_id" with
    | none => exact ⟨_, rfl⟩
    | some v =>
      obtain ⟨nodeId, rfl, -⟩ := hnode v hget
      exact ⟨_, rfl⟩
  · exact ⟨_, rfl⟩

/-- Events that name their nodes by texts do not make the loop raise. -/
theorem exists_byNode {p : String → Prop} (h : ∀ e ∈ log, Names p e) :
    ∃ records, byNode log = .ok records := by
  induction log using List.reverseRecOn with
  | nil => exact ⟨_, rfl⟩
  | append_singleton log e ih =>
    obtain ⟨before, hbefore⟩ := ih fun e' he' ↦ h e' (List.mem_append_left _ he')
    rw [byNode_concat, hbefore]
    exact exists_noteEvent (h e (List.mem_append_right _ (List.mem_singleton_self e))) before

/-! ## When the loop follows the events -/

theorem lastLeaves_concat (events : List AuditEvent) (e : AuditEvent) :
    lastLeaves (events ++ [e]) = (e.kind.leaves?).getD (lastLeaves events) := by
  rw [lastLeaves, List.filterMap_append]
  cases h : e.kind.leaves? with
  | none => simp [h, lastLeaves]
  | some states => simp [h]

/-- An event that is not a decision gives its node the state it leaves it in. -/
theorem shown_mem_leaves {kind : EventKind} {state : String} {states : List String}
    (hkind : ¬kind.Decision) (h : state ∈ states) :
    kind.shown state ∈ kind.leaves?.getD states := by
  cases kind with
  | nodeApproved => exact absurd (Or.inl rfl) hkind
  | nodeRejected => exact absurd (Or.inr rfl) hkind
  | nodeStarted | nodeSucceeded | nodeFailed | nodeAwaitingApproval =>
    exact List.mem_singleton_self _
  | _ => exact h

/-- **Without decisions** the last lifecycle event gives the state. -/
theorem stateAfter_mem_lastLeaves (h : ∀ e ∈ events, ¬e.kind.Decision) :
    stateAfter events ∈ lastLeaves events := by
  induction events using List.reverseRecOn with
  | nil => exact List.mem_singleton_self _
  | append_singleton events e ih =>
    rw [stateAfter_concat, lastLeaves_concat]
    refine shown_mem_leaves (h e (List.mem_append_right _ (List.mem_singleton_self e))) ?_
    exact ih fun e' he' ↦ h e' (List.mem_append_left _ he')

/-- An event about an approval: it is awaited, or it is decided. -/
def OfApproval (e : AuditEvent) : Prop := e.kind = .nodeAwaitingApproval ∨ e.kind.Decision

/-- **The events of an approval** leave its node pending or awaiting approval. -/
theorem stateAfter_of_approval (h : ∀ e ∈ events, OfApproval e) :
    stateAfter events = "pending" ∨ stateAfter events = "awaiting-approval" := by
  induction events using List.reverseRecOn with
  | nil => exact Or.inl rfl
  | append_singleton events e ih =>
    rw [stateAfter_concat]
    rcases h e (List.mem_append_right _ (List.mem_singleton_self e)) with hkind | hkind | hkind
    · exact Or.inr (by rw [hkind]; rfl)
    · rw [hkind]
      exact ih fun e' he' ↦ h e' (List.mem_append_left _ he')
    · rw [hkind]
      exact ih fun e' he' ↦ h e' (List.mem_append_left _ he')

/-- Such a state is not one in which a decision leaves a node. -/
theorem undecided_notMem {kind : EventKind} {state : String} {states : List String}
    (hkind : kind.Decision) (hstate : state = "pending" ∨ state = "awaiting-approval") :
    state ∉ kind.leaves?.getD states := by
  rcases hkind with rfl | rfl <;> rcases hstate with rfl | rfl <;>
    simp [EventKind.leaves?, okStates, errStates]

end Ux

end Orchestra
