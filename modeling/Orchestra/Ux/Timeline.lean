import Orchestra.Coordinator.EngineStates
import Orchestra.Ux.NodeRuns

/-!
# The timeline of a run

A run appends events about its nodes, and about the approval: that it is awaited, and what was
decided. Nothing is appended about the approval after the decision. A log of this form (`Timeline`)
is rolled up to the states its events give, up to the decision and not from there on: the node of
the approval stays pending, or keeps awaiting an approval that was given (`run_rollsUp_iff`).
-/

namespace Orchestra

open Ux

/-- The node of the template that a person decides. -/
def approvalNode : String := "human_approval"

/-! ## The form of a log -/

/-- An event that is not about the approval. -/
structure BesideApproval (e : AuditEvent) : Prop where
  names : Names (· ≠ approvalNode) e
  kind : ¬e.kind.Decision

/-- An event about the approval. -/
structure OnApproval (e : AuditEvent) : Prop where
  names : Names (· = approvalNode) e
  node : e.node? = some (.str approvalNode)
  kind : OfApproval e

/-- An event from before the decision. -/
def BeforeDecision (e : AuditEvent) : Prop := BesideApproval e ∨ (OnApproval e ∧ ¬e.kind.Decision)

/-- Nothing has been decided, or the log has one decision, and nothing about the approval after
it. -/
inductive Timeline (log : List AuditEvent) : Prop
  | undecided (h : ∀ e ∈ log, BeforeDecision e)
  | decided (pre : List AuditEvent) (decision : AuditEvent) (post : List AuditEvent)
      (heq : log = pre ++ decision :: post) (hpre : ∀ e ∈ pre, BeforeDecision e)
      (hdecision : OnApproval decision) (hkind : decision.kind.Decision)
      (hpost : ∀ e ∈ post, BesideApproval e)

variable {log : List AuditEvent} {e : AuditEvent}

theorem BesideApproval.node_ne (h : BesideApproval e) : e.node? ≠ some (.str approvalNode) := by
  obtain ⟨fields, hpayload, hnode⟩ := h.names
  intro heq
  rw [AuditEvent.node?, hpayload, Option.filter_eq_some_iff] at heq
  obtain ⟨nodeId, hid, hne⟩ := hnode _ heq.1
  exact hne (Json.str.inj hid).symm

theorem BeforeDecision.names (h : BeforeDecision e) : Names (fun _ ↦ True) e := by
  rcases h with h | h
  · exact h.names.mono fun _ _ ↦ trivial
  · exact h.1.names.mono fun _ _ ↦ trivial

namespace Timeline

theorem names (h : Timeline log) : ∀ e ∈ log, Names (fun _ ↦ True) e := by
  cases h with
  | undecided h => exact fun e he ↦ (h e he).names
  | decided pre decision post heq hpre hdecision hkind hpost =>
    subst heq
    intro e he
    rcases List.mem_append.mp he with he | he
    · exact (hpre e he).names
    rcases List.mem_cons.mp he with rfl | he
    · exact hdecision.names.mono fun _ _ ↦ trivial
    · exact (hpost e he).names.mono fun _ _ ↦ trivial

theorem concat (h : Timeline log) (he : BesideApproval e) : Timeline (log ++ [e]) := by
  cases h with
  | undecided h =>
    refine undecided fun e' he' ↦ ?_
    rcases List.mem_append.mp he' with he' | he'
    · exact h e' he'
    · rw [List.mem_singleton.mp he']
      exact Or.inl he
  | decided pre decision post heq hpre hdecision hkind hpost =>
    refine decided pre decision (post ++ [e]) ?_ hpre hdecision hkind fun e' he' ↦ ?_
    · rw [heq, List.append_assoc, List.cons_append]
    rcases List.mem_append.mp he' with he' | he'
    · exact hpost e' he'
    · rw [List.mem_singleton.mp he']
      exact he

/-- What a timeline begins with is a timeline. -/
theorem initial {log' : List AuditEvent} (h : Timeline log) (hle : log' <+: log) :
    Timeline log' := by
  induction log using List.reverseRecOn generalizing log' with
  | nil =>
    rw [List.prefix_nil.mp hle]
    exact h
  | append_singleton log e ih =>
    rcases List.prefix_concat_iff.mp hle with rfl | hle
    · exact h
    refine ih ?_ hle
    cases h with
    | undecided h => exact undecided fun e' he' ↦ h e' (List.mem_append_left _ he')
    | decided pre decision post heq hpre hdecision hkind hpost =>
      -- the event that is cut off is the decision, or one from after it
      rcases List.eq_nil_or_concat' post with rfl | ⟨post, last, rfl⟩
      · obtain ⟨rfl, -⟩ := List.append_inj' heq rfl
        exact undecided hpre
      · have hinit : log ++ [e] = (pre ++ decision :: post) ++ [last] := by
          rw [heq, List.append_assoc, List.cons_append]
        obtain ⟨rfl, -⟩ := List.append_inj' hinit rfl
        exact decided pre decision post rfl hpre hdecision hkind fun e' he' ↦
          hpost e' (List.mem_append_left _ he')

/-- **When a timeline is rolled up** to the states its events give: as long as nothing has been
decided. -/
theorem rollsUp_iff (h : Timeline log) : RollsUp log ↔ ∀ e ∈ log, ¬e.kind.Decision := by
  obtain ⟨records, hrecords⟩ := exists_byNode h.names
  rw [rollsUp_iff_of_ok hrecords]
  refine ⟨fun hall ↦ ?_, fun hno nodeId ↦ ?_⟩
  · cases h with
    | undecided h =>
      intro e he
      rcases h e he with hbeside | ⟨-, hkind⟩
      · exact hbeside.kind
      · exact hkind
    | decided pre decision post heq hpre hdecision hkind hpost =>
      -- the state given by the decision is not the one that is reported
      have hpost' : eventsOf (.str approvalNode) post = [] := by
        rw [eventsOf, List.filter_eq_nil_iff]
        exact fun e he heq ↦ (hpost e he).node_ne (of_decide_eq_true heq)
      have hlog : eventsOf (.str approvalNode) log
          = eventsOf (.str approvalNode) pre ++ [decision] := by
        rw [heq, ← List.singleton_append, ← List.append_assoc, eventsOf, List.filter_append,
          ← eventsOf, ← eventsOf, hpost', List.append_nil, eventsOf_concat, if_pos hdecision.node]
      have happroval : ∀ e ∈ eventsOf (.str approvalNode) log, OfApproval e := by
        intro e he
        rw [hlog] at he
        rcases List.mem_append.mp he with he | he
        · obtain ⟨he, hnode⟩ := List.mem_filter.mp he
          rcases hpre e he with hbeside | hon
          · exact absurd (of_decide_eq_true hnode) hbeside.node_ne
          · exact hon.1.kind
        · rw [List.mem_singleton.mp he]
          exact hdecision.kind
      have hreported := hall (.str approvalNode)
      have hlast : lastLeaves (eventsOf (.str approvalNode) log)
          = decision.kind.leaves?.getD (lastLeaves (eventsOf (.str approvalNode) pre)) := by
        rw [hlog, lastLeaves_concat]
      rw [hlast] at hreported
      exact absurd hreported (undecided_notMem hkind (stateAfter_of_approval happroval))
  · exact stateAfter_mem_lastLeaves fun e he ↦ hno e (List.mem_of_mem_filter he)

end Timeline

namespace Engine

open Interaction

variable {cfg : Config} {a : RunArgs} {taskRunId : String} {t : RunTrace} {s : RunStep}
  {plan : ExecutionPlan} {I : RunTrace → Prop} {A : RunTrace → RunStep → Prop}

/-! ## What a call does to the log -/

/-- Every event the call appends has `p`. -/
def Cmd.Appends (p : AuditEvent → Prop) (c : Cmd) : Prop := ∀ ev, c = .appendEvent ev → p ev

/-- An invariant that calls have as long as they append only events beside the approval. -/
def KeptBeside (I : RunTrace → Prop) : Prop :=
  ∀ t s, s.cmd.Appends BesideApproval → I t → I (t ++ [s])

def LogUndecided (taskRunId : String) (t : RunTrace) : Prop :=
  ∀ e ∈ events taskRunId t, BeforeDecision e

def LogTimeline (taskRunId : String) (t : RunTrace) : Prop := Timeline (events taskRunId t)

theorem LogUndecided.timeline (h : LogUndecided taskRunId t) : LogTimeline taskRunId t :=
  .undecided h

theorem LogUndecided.concat (h : LogUndecided taskRunId t) (hs : s.cmd.Appends BeforeDecision) :
    LogUndecided taskRunId (t ++ [s]) :=
  fun e he ↦ (events_concat_cases he).elim (h e) (hs e)

/-- A call leaves the log alone, or appends one event. -/
theorem events_concat_eq (taskRunId : String) (t : RunTrace) (s : RunStep) :
    events taskRunId (t ++ [s]) = events taskRunId t ∨
      ∃ ev, s.cmd = .appendEvent ev ∧ events taskRunId (t ++ [s]) = events taskRunId t ++ [ev] := by
  rw [events_concat]
  cases h : event? taskRunId s with
  | none => exact Or.inl (List.append_nil _)
  | some ev =>
    refine Or.inr ⟨ev, ?_, rfl⟩
    have hmem : ev ∈ events taskRunId ([] ++ [s]) := by
      rw [events_concat, h]
      exact List.mem_singleton_self ev
    exact (events_concat_cases hmem).resolve_left List.not_mem_nil

theorem events_append {ev : AuditEvent} (htask : ev.taskRunId = some taskRunId) :
    events taskRunId (t ++ [⟨.appendEvent ev, .ok ()⟩]) = events taskRunId t ++ [ev] := by
  have hevent : event? taskRunId ⟨.appendEvent ev, .ok ()⟩ = some ev := if_pos htask
  rw [events_concat, hevent]
  rfl

theorem keptBeside_undecided : KeptBeside (LogUndecided taskRunId) :=
  fun _ _ hs ht ↦ ht.concat fun ev hev ↦ Or.inl (hs ev hev)

theorem keptBeside_timeline : KeptBeside (LogTimeline taskRunId) := by
  intro t s hs ht
  rcases events_concat_eq taskRunId t s with heq | ⟨ev, hev, heq⟩
  · rw [LogTimeline, heq]
    exact ht
  · rw [LogTimeline, heq]
    exact ht.concat (hs ev hev)

theorem beside_of_calls {α : Type} {p : Prog α} (hI : KeptBeside I)
    (h : Calls (Cmd.Appends BesideApproval) p) : Triple A I p (fun _ ↦ I) fun _ ↦ I :=
  Triple.of_calls h fun t s hs _ ht ↦ hI t s hs ht

/-! ## The events of a node -/

section Appends

variable {p : AuditEvent → Prop} {q : String → Prop}

theorem appends_call {c : Cmd} (hc : c.emits = false) : Calls (Cmd.Appends p) (call c) := by
  refine calls_perform.mpr fun ev hev ↦ ?_
  rw [hev] at hc
  cases hc

theorem appends_emit {nodeRunId : Option String} {kind : EventKind} {payload : Dict}
    (h : ∀ e : AuditEvent, e.kind = kind → e.payload = .obj payload → p e) :
    Calls (Cmd.Appends p) (emit cfg taskRunId nodeRunId kind payload) := by
  refine calls_emit fun c hc ev hev ↦ ?_
  subst hev
  cases hc
  exact h _ rfl rfl

theorem names_text {e : AuditEvent} {payload : Dict} {nodeId : String}
    (hpayload : e.payload = .obj payload)
    (hget : (Json.obj payload).get? "node_id" = some (.str nodeId)) (hq : q nodeId) : Names q e :=
  ⟨payload, hpayload, fun _ hv ↦ ⟨nodeId, Option.some.inj (hv.symm.trans hget), hq⟩⟩

theorem names_nothing {e : AuditEvent} {payload : Dict} (hpayload : e.payload = .obj payload)
    (hget : (Json.obj payload).get? "node_id" = none) : Names q e :=
  ⟨payload, hpayload, fun _ hv ↦ by rw [hget] at hv; cases hv⟩

end Appends

/-- An event about a node that is not the approval. -/
theorem beside_node {nodeRunId : Option String} {kind : EventKind} {payload : Dict}
    {nodeId : String} (hkind : ¬kind.Decision)
    (hget : (Json.obj payload).get? "node_id" = some (.str nodeId)) (hne : nodeId ≠ approvalNode) :
    Calls (Cmd.Appends BesideApproval) (emit cfg taskRunId nodeRunId kind payload) :=
  appends_emit fun _ hk hp ↦ ⟨names_text hp hget hne, hk ▸ hkind⟩

/-- An event that names no node. -/
theorem beside_nothing {nodeRunId : Option String} {kind : EventKind} {payload : Dict}
    (hkind : ¬kind.Decision) (hget : (Json.obj payload).get? "node_id" = none) :
    Calls (Cmd.Appends BesideApproval) (emit cfg taskRunId nodeRunId kind payload) :=
  appends_emit fun _ hk hp ↦ ⟨names_nothing hp hget, hk ▸ hkind⟩

section Node

variable {ctx : NodeContext}

theorem beside_failNode {α : Type} {payload : Dict} {e : Raised}
    (hget : (Json.obj payload).get? "node_id" = some (.str ctx.node.nodeId))
    (hne : ctx.node.nodeId ≠ approvalNode) :
    Calls (Cmd.Appends BesideApproval) (failNode (α := α) cfg taskRunId ctx payload e) :=
  (appends_call rfl).bind fun _ ↦ (beside_node (by decide) hget hne).bind fun _ ↦ calls_raise e

theorem beside_execInProcess {previous : Dict} (hne : ctx.node.nodeId ≠ approvalNode) :
    Calls (Cmd.Appends BesideApproval) (execInProcess cfg taskRunId ctx previous) := by
  have houtput : Calls (Cmd.Appends BesideApproval)
      (inProcessOutput ctx.node.nodeId previous) := by
    rw [inProcessOutput]
    split
    · exact (appends_call rfl).bind fun initial ↦ calls_pure _
    · exact appends_call rfl
  refine houtput.bind fun output ↦ ?_
  refine (appends_call rfl).bind fun _ ↦ ?_
  exact (appends_call rfl).bind fun _ ↦ beside_node (by decide) rfl hne

theorem beside_issueGrant : Calls (Cmd.Appends BesideApproval) (issueGrant cfg taskRunId ctx) := by
  refine (appends_call rfl).bind fun grantId ↦ ?_
  refine (appends_call rfl).bind fun now ↦ ?_
  refine (appends_call rfl).bind fun _ ↦ ?_
  exact (beside_nothing (by decide) rfl).bind fun _ ↦ calls_pure _

theorem beside_egress {inputs : Dict} (hne : ctx.node.nodeId ≠ approvalNode) :
    Calls (Cmd.Appends BesideApproval) (egress cfg taskRunId ctx inputs) := by
  rw [egress]
  split
  · split
    · exact calls_pure _
    · refine Calls.bind ?_ fun projected ↦ (calls_ofExcept _).bind fun result ↦ calls_pure _
      refine (appends_call rfl).tryCatch fun e ↦ ?_
      split
      · exact (beside_node (by decide) rfl hne).bind fun _ ↦ beside_failNode rfl hne
      · exact calls_raise e
  · exact calls_pure _

theorem beside_recordIo {e : Egress} {outputs : Dict} {latency : ℤ}
    (hne : ctx.node.nodeId ≠ approvalNode) :
    Calls (Cmd.Appends BesideApproval) (recordIo cfg taskRunId ctx e outputs latency) := by
  have hsent : (Json.obj (sentPayload cfg ctx e latency)).get? "node_id"
      = some (.str ctx.node.nodeId) := by
    rw [sentPayload]
    cases e.projection <;> rfl
  refine (beside_node (by decide) rfl hne).bind fun _ ↦ ?_
  refine (beside_node (by decide) hsent hne).bind fun _ ↦ ?_
  exact beside_node (by decide) rfl hne

theorem beside_finishNode {inputs : Dict} {result : AdapterResult} {startedAt endedAt : ℕ}
    {latency : ℤ} (hne : ctx.node.nodeId ≠ approvalNode) :
    Calls (Cmd.Appends BesideApproval)
      (finishNode cfg taskRunId ctx inputs result startedAt endedAt latency) := by
  refine (appends_call rfl).bind fun _ ↦ ?_
  refine (appends_call rfl).bind fun _ ↦ ?_
  refine Calls.bind ?_ fun receipt ↦ ?_
  · refine (appends_call rfl).bind fun row ↦ ?_
    refine (calls_ofExcept _).bind fun planDigest ↦ ?_
    refine (appends_call rfl).bind fun receiptId ↦ ?_
    exact (appends_call rfl).bind fun now ↦ calls_pure _
  refine (appends_call rfl).bind fun _ ↦ ?_
  refine (beside_node (by decide) rfl hne).bind fun _ ↦ ?_
  exact beside_node (by decide) rfl hne

theorem beside_execAdapter {previous : Dict} {approval : Option Dict}
    (hne : ctx.node.nodeId ≠ approvalNode) :
    Calls (Cmd.Appends BesideApproval) (execAdapter cfg taskRunId ctx previous approval) := by
  refine beside_issueGrant.bind fun grant ↦ ?_
  refine (appends_call rfl).bind fun _ ↦ ?_
  refine (appends_call rfl).bind fun startedAt ↦ ?_
  refine (beside_egress hne).bind fun e ↦ ?_
  refine (appends_call rfl).bind fun t0 ↦ ?_
  refine ((appends_call rfl).tryCatch fun e ↦ beside_failNode rfl hne).bind fun result ↦ ?_
  refine (appends_call rfl).bind fun t1 ↦ ?_
  refine (appends_call rfl).bind fun endedAt ↦ ?_
  exact (beside_recordIo hne).bind fun _ ↦ beside_finishNode hne

end Node

/-- The node that was started is the one the events are about. -/
theorem startNode_beside {node : PlanNode} {force : Option String} (hI : KeptBeside I)
    (hne : node.nodeId ≠ approvalNode) :
    Triple A I (startNode cfg taskRunId node force) (fun ctx t ↦ ctx.node = node ∧ I t)
      fun _ ↦ I := by
  refine (beside_of_calls hI (appends_call rfl)).bind fun nodeRunId ↦ ?_
  refine (beside_of_calls hI (calls_ofExcept _)).bind fun manifest ↦ ?_
  refine (beside_of_calls hI (appends_call rfl)).bind fun _ ↦ ?_
  refine (beside_of_calls hI (beside_node (by decide) rfl hne)).bind fun _ ↦ ?_
  exact Triple.ret fun t ht ↦ ⟨rfl, ht⟩

theorem execNode_beside {node : PlanNode} {previous : Dict} {force : Option String}
    {approval : Option Dict} (hI : KeptBeside I) (hne : node.nodeId ≠ approvalNode) :
    Triple A I (execNode cfg taskRunId node previous force approval) (fun _ ↦ I) fun _ ↦ I := by
  refine (startNode_beside hI hne).bind fun ctx ↦ Triple.of_pure fun hctx ↦ ?_
  have hne' : ctx.node.nodeId ≠ approvalNode := hctx ▸ hne
  split
  · exact beside_of_calls hI (beside_execInProcess hne')
  · exact beside_of_calls hI (beside_execAdapter hne')

/-! ## The execution of a plan -/

/-- A node of the template that needs no approval is not the node of the approval. -/
theorem planNode_beside {i : ℕ} {spec : NodeSpec} (hplan : WellPlanned cfg plan)
    (hspec : ContractReview.template.nodes[i]? = some spec)
    (happroval : spec.requiresApproval = false) (hne : spec.nodeId ≠ approvalNode) :
    Triple A I (.ofExcept (planNode plan i)) (fun node t ↦ node.nodeId ≠ approvalNode ∧ I t)
      fun _ ↦ I := by
  refine Triple.ofExcept (fun node hnode t ht ↦ ⟨?_, ht⟩) fun _ _ t ht ↦ ht
  rw [(hplan.planNode hspec happroval hnode).2]
  exact hne

theorem executeNodes_beside (hI : KeptBeside I) (hplan : WellPlanned cfg plan) :
    Triple A I (executeNodes cfg a plan) (fun _ ↦ I) fun _ ↦ I := by
  have hget (nodeId : String) : Triple A I (call (.getResult nodeId)) (fun _ ↦ I) fun _ ↦ I :=
    beside_of_calls hI (appends_call rfl)
  have hingest : ContractReview.template.nodes[0]? = some ContractReview.ingestContract := rfl
  have hextract : ContractReview.template.nodes[1]? = some ContractReview.extractFactsLocal := rfl
  have hresearch : ContractReview.template.nodes[2]? = some ContractReview.publicResearch := rfl
  have hmerge : ContractReview.template.nodes[3]? = some ContractReview.merge := rfl
  refine (planNode_beside hplan hingest rfl (by decide)).bind fun ingest ↦
    Triple.of_pure fun hne ↦ ?_
  refine (execNode_beside hI hne).bind fun _ ↦ ?_
  refine (planNode_beside hplan hextract rfl (by decide)).bind fun extract ↦
    Triple.of_pure fun hne ↦ ?_
  refine (hget _).bind fun contract ↦ ?_
  refine (execNode_beside hI hne).bind fun _ ↦ ?_
  refine (planNode_beside hplan hresearch rfl (by decide)).bind fun research ↦
    Triple.of_pure fun hne ↦ ?_
  refine (hget _).bind fun extracted ↦ ?_
  refine (beside_of_calls hI (calls_ofExcept _)).bind fun query ↦ ?_
  refine (execNode_beside hI hne).bind fun _ ↦ ?_
  refine (planNode_beside hplan hmerge rfl (by decide)).bind fun merge ↦
    Triple.of_pure fun hne ↦ ?_
  refine (hget _).bind fun facts ↦ ?_
  refine (hget _).bind fun researched ↦ ?_
  exact execNode_beside hI hne

theorem onApproval_of_payload {e : AuditEvent} {payload : Dict}
    (hpayload : e.payload = .obj payload)
    (hget : (Json.obj payload).get? "node_id" = some (.str approvalNode)) (hkind : OfApproval e) :
    OnApproval e where
  names := names_text hpayload hget rfl
  node := by
    rw [AuditEvent.node?, hpayload, hget]
    exact Option.filter_some_pos rfl
  kind := hkind

/-- While the approval is awaited, nothing else is appended. -/
theorem appends_approvalHandler {request : Dict} :
    Calls (Cmd.Appends BeforeDecision) (approvalHandler cfg taskRunId approvalNode request) := by
  rw [approvalHandler]
  split
  · exact appends_call rfl
  refine (appends_call rfl).bind fun now ↦ ?_
  refine Calls.bind ?_ fun approvalId ↦ ?_
  · rw [createApprovalRow]
    split
    · split
      · exact calls_pure _
      · refine Calls.tryCatch ?_ fun _ ↦ calls_pure _
        exact (appends_call rfl).bind fun approvalId ↦ calls_pure _
    · exact calls_pure _
  refine (appends_call rfl).bind fun _ ↦ ?_
  refine Calls.bind ?_ fun _ ↦ ?_
  · cases approvalId with
    | some id => exact calls_pure _
    | none => exact (appends_call rfl).bind fun newId ↦ appends_call rfl
  refine Calls.bind (appends_emit fun e hkind hpayload ↦ Or.inr ⟨?_, ?_⟩) fun _ ↦ appends_call rfl
  · exact onApproval_of_payload hpayload rfl (Or.inl hkind)
  · rw [hkind]
    decide

/-- **The decision**: it is the first one, and from here on the log has one. -/
theorem decideTask_timeline :
    Triple A (LogUndecided a.taskRunId) (decideTask cfg a) (fun _ ↦ LogTimeline a.taskRunId)
      fun _ ↦ LogTimeline a.taskRunId := by
  have hkeep {α : Type} {p : Prog α} (h : Calls (Cmd.Appends BeforeDecision) p) :
      Triple A (LogUndecided a.taskRunId) p (fun _ ↦ LogUndecided a.taskRunId)
        fun _ ↦ LogTimeline a.taskRunId :=
    (Triple.of_calls h fun t s hs _ ht ↦ ht.concat hs).post_error fun _ t ht ↦ ht.timeline
  refine (hkeep (appends_call rfl)).bind fun merged ↦ ?_
  refine (hkeep appends_approvalHandler).bind fun decision ↦ ?_
  refine (hkeep (appends_call rfl)).bind fun _ ↦ ?_
  have hkind : EventKind.Decision
      (if isApproved decision then EventKind.nodeApproved else .nodeRejected) := by
    split
    · exact Or.inl rfl
    · exact Or.inr rfl
  refine Triple.bind (Q := fun _ ↦ LogTimeline a.taskRunId) ?_ fun _ ↦ Triple.ret fun _ ht ↦ ht
  -- the log is undecided until the decision itself is stored
  refine triple_emit (fun t s hs _ ht ↦ ht.concat ?_) (fun t eventId occurredAt ht ↦ ?_)
    (fun t eventId occurredAt e ht _ ↦ ?_) (fun t event r _ ht ↦ ?_) (fun t ht ↦ ht.timeline)
    fun t ht ↦ ht
  · rintro ev hev
    rcases hs with hs | hs <;> cases hs.symm.trans hev
  · rw [LogTimeline, events_append rfl]
    exact .decided _ _ [] rfl ht (onApproval_of_payload rfl rfl (Or.inr hkind)) hkind
      fun _ he ↦ absurd he List.not_mem_nil
  · rw [LogTimeline, events_concat]
    exact .undecided (by simpa [event?, LogUndecided] using ht)
  · exact keptBeside_timeline t _ (by rintro ev ⟨⟩) ht

theorem executePlan_timeline (hplan : WellPlanned cfg plan) :
    Triple A (LogUndecided a.taskRunId) (executePlan cfg a plan) (fun _ ↦ LogTimeline a.taskRunId)
      fun _ ↦ LogTimeline a.taskRunId := by
  have hkept : KeptBeside (LogTimeline a.taskRunId) := keptBeside_timeline
  have hsink : ContractReview.template.nodes[5]? = some ContractReview.writeSink := rfl
  refine ((executeNodes_beside keptBeside_undecided hplan).post_error fun _ t ht ↦
    ht.timeline).bind fun _ ↦ ?_
  refine decideTask_timeline.bind fun decision ↦ ?_
  split
  · refine (planNode_beside hplan hsink rfl (by decide)).bind fun sink ↦
      Triple.of_pure fun hne ↦ ?_
    refine (beside_of_calls hkept (appends_call rfl)).bind fun merged ↦ ?_
    refine (execNode_beside hkept hne).bind fun _ ↦ ?_
    refine (beside_of_calls hkept (appends_call rfl)).bind fun _ ↦ ?_
    refine (beside_of_calls hkept (appends_call rfl)).bind fun results ↦ ?_
    exact beside_of_calls hkept ((beside_nothing (by decide) rfl).bind fun _ ↦ calls_pure _)
  · refine beside_of_calls hkept ((appends_call rfl).bind fun _ ↦ ?_)
    refine (beside_nothing (by decide) rfl).bind fun _ ↦ ?_
    exact (calls_closeBus (by rintro ev ⟨⟩)).bind fun _ ↦ calls_pure _

/-! ## The run -/

theorem beside_planTask : Calls (Cmd.Appends BesideApproval) (planTask cfg a) := by
  refine (appends_call rfl).bind fun _ ↦ ?_
  refine (beside_nothing (by decide) rfl).bind fun _ ↦ ?_
  refine Calls.bind ?_ fun plan ↦ ?_
  · refine (calls_planNodes _ _ fun _ _ ↦ by rintro ev ⟨⟩).bind fun r ↦ ?_
    refine (appends_call rfl).bind fun planId ↦ ?_
    refine (appends_call rfl).bind fun now ↦ ?_
    exact (appends_call rfl).bind fun signature ↦ calls_pure _
  refine (appends_call rfl).bind fun _ ↦ ?_
  refine (beside_nothing (by decide) rfl).bind fun _ ↦ ?_
  exact (beside_nothing (by decide) rfl).bind fun _ ↦ calls_pure _

theorem beside_failTask {e : Raised} : Calls (Cmd.Appends BesideApproval) (failTask cfg a e) := by
  refine (appends_call rfl).bind fun _ ↦ ?_
  refine (beside_nothing (by decide) rfl).bind fun _ ↦ ?_
  exact (calls_closeBus (by rintro ev ⟨⟩)).bind fun _ ↦ calls_pure _

theorem beside_finishRun {ending : Ending} :
    Calls (Cmd.Appends BesideApproval) (finishRun cfg a plan ending) := by
  have hrows (rows : List Receipt) : Calls (Cmd.Appends BesideApproval) (verifyRows rows) := by
    induction rows with
    | nil => exact calls_pure _
    | cons row rows ih =>
      exact (appends_call rfl).bind fun verified ↦ ih.bind fun rest ↦ calls_pure _
  cases ending with
  | completed =>
    refine ((appends_call rfl).bind hrows).bind fun verified ↦ ?_
    refine (calls_closeBus (by rintro ev ⟨⟩)).bind fun _ ↦ ?_
    exact (appends_call rfl).bind fun results ↦ calls_pure _
  | rejected => exact (appends_call rfl).bind fun results ↦ calls_pure _
  | failed error => exact (appends_call rfl).bind fun results ↦ calls_pure _

theorem run_timeline :
    Triple (Admitted cfg a.taskRunId) (· = []) (run cfg a) (fun _ ↦ LogTimeline a.taskRunId)
      fun _ ↦ LogTimeline a.taskRunId := by
  have hundecided : KeptBeside (LogUndecided a.taskRunId) := keptBeside_undecided
  have hstart (t : RunTrace) (ht : t = []) :
      Unplanned cfg a.taskRunId t ∧ LogUndecided a.taskRunId t := by
    subst ht
    refine ⟨⟨everyStep_nil _, rfl, fun ev hev ↦ ?_⟩, fun ev hev ↦ ?_⟩ <;> cases hev
  refine Triple.bind (Q := fun _ t ↦ Unplanned cfg a.taskRunId t ∧ LogUndecided a.taskRunId t) ?_
    fun _ ↦ ?_
  · exact Triple.ofExcept (fun _ _ t ht ↦ hstart t ht) fun _ _ t ht ↦ (hstart t ht).2.timeline
  have hinputs : Cmd.plans (.setInitialInputs a.initialInputs) :=
    plans_call rfl rfl rfl (by rintro ev ⟨⟩)
  refine (((unplanned_call hinputs).and
    (beside_of_calls hundecided (appends_call rfl))).post_error fun _ t ht ↦ ht.2.timeline).bind
      fun _ ↦ ?_
  have hplanned : Triple (Admitted cfg a.taskRunId)
      (fun t ↦ Unplanned cfg a.taskRunId t ∧ LogUndecided a.taskRunId t) (planTask cfg a)
      (fun p t ↦ ∃ plan, (∃ signature, p = { plan with signature := some signature } ∧
        WellPlanned cfg plan) ∧ LogUndecided a.taskRunId t) fun _ ↦ LogTimeline a.taskRunId := by
    refine (planTask_legit.and (beside_of_calls hundecided beside_planTask)).conseq
      (fun _ ht ↦ ht) (fun p t ht ↦ ?_) fun _ t ht ↦ ht.2.timeline
    obtain ⟨⟨plan, hp, -⟩, hlog⟩ := ht
    exact ⟨plan, hp, hlog⟩
  refine hplanned.bind fun p ↦ Triple.of_exists fun plan ↦ Triple.of_pure fun hp ↦ ?_
  obtain ⟨signature, rfl, hwell⟩ := hp
  have hwell' : WellPlanned cfg { plan with signature := some signature } :=
    ⟨hwell.nodes, hwell.bound, hwell.hyphen⟩
  refine ((beside_of_calls hundecided (appends_call rfl)).post_error fun _ t ht ↦
    ht.timeline).bind fun _ ↦ ?_
  refine Triple.bind (Q := fun _ ↦ LogTimeline a.taskRunId) ?_ fun ending ↦ ?_
  · -- an exception leaves a timeline as well, wherever it was raised
    exact (executePlan_timeline hwell').tryCatch fun e ↦
      beside_of_calls keptBeside_timeline beside_failTask
  · exact beside_of_calls keptBeside_timeline beside_finishRun

/-- **The log of every run is a timeline.** -/
theorem execRun_timeline (cfg : Config) (a : RunArgs) (env : Env a.taskRunId) (w : World) :
    Timeline (events a.taskRunId (execRun cfg a env w).trace) := by
  have hadmit : Triple (fun t s ↦ Admitted cfg a.taskRunId t s ∧ True) (· = []) (run cfg a)
      (fun _ ↦ LogTimeline a.taskRunId) fun _ ↦ LogTimeline a.taskRunId :=
    run_timeline.restrict fun _ _ h ↦ h.1
  have hrun : ending (fun _ ↦ LogTimeline a.taskRunId) (fun _ ↦ LogTimeline a.taskRunId)
      (execRun cfg a env w).result (execRun cfg a env w).trace :=
    execRun_of_triple hadmit fun _ _ _ _ ↦ trivial
  exact of_ending hrun

/-- **When the platform view follows a run.** Whatever a run has appended so far is rolled up to the
states that the last lifecycle events of the nodes give exactly as long as no decision about an
approval is among it. -/
theorem run_rollsUp_iff (cfg : Config) (a : RunArgs) (env : Env a.taskRunId) (w : World) (n : ℕ) :
    RollsUp ((events a.taskRunId (execRun cfg a env w).trace).take n) ↔
      ∀ e ∈ (events a.taskRunId (execRun cfg a env w).trace).take n, ¬e.kind.Decision :=
  ((execRun_timeline cfg a env w).initial (List.take_prefix n _)).rollsUp_iff

/-- A contract that is rejected through the default handler. -/
def rejectedRun : Outcome Cmd Reply Raised CoordinatorResult World :=
  execRun { sampleConfig sampleAdapters with hasApprovalHandler := false, hasEventBus := false }
    sampleArgs
    { sampleEnv (fun _ _ ↦ none) with
      decided := fun _ bucket ↦ bucket ++ [("decision", .str "reject")] } {}

section

set_option maxRecDepth 100000

/-- The view reports that the approval is awaited, and the last event about it is the rejection. -/
theorem rejectedRun_facts :
    let log := events sampleArgs.taskRunId rejectedRun.trace
    (deriveNodeRuns log).toOption.map (fun runs ↦ reportedState runs (.str approvalNode))
        = some "awaiting-approval" ∧
      lastLeaves (eventsOf (.str approvalNode) log) = errStates := by
  decide +kernel

end

/-- A rejected approval is reported as awaited. -/
theorem rejected_run_not_rolledUp :
    ¬∀ n, RollsUp ((events sampleArgs.taskRunId rejectedRun.trace).take n) := by
  obtain ⟨hreported, hlast⟩ := rejectedRun_facts
  intro hrolls
  have hlog := hrolls (events sampleArgs.taskRunId rejectedRun.trace).length
  rw [List.take_length] at hlog
  obtain ⟨runs, hruns, hall⟩ := hlog
  rw [hruns] at hreported
  have hstate : reportedState runs (.str approvalNode) = "awaiting-approval" :=
    Option.some.inj hreported
  have hmem := hall (.str approvalNode)
  rw [hlast, hstate] at hmem
  exact absurd hmem (by decide)

end Engine

end Orchestra
