import Orchestra.Coordinator.Engine
import Orchestra.Foundation.Lockstep
import Orchestra.Xfr.Projection

/-!
# What leaves the tenant with a node

A node hands its inputs to an adapter and leaves events and a receipt behind. When its capability
declares a view, the inputs are projected before; so two executions whose inputs agree on the
allowed fields should look the same from outside, up to the identifiers, times and latencies that
are generated along the way.

They run in lockstep. What a call may differ in is said by `Cmd.Like`, what its replies may differ
in by `RepliesAlike`, and what is seen from outside by `sights`.
-/

namespace Orchestra

namespace Engine

open Interaction

/-! ## What is seen of a run -/

/-- The dictionary without the values of these keys. -/
def erased (keys : List String) : Json → Json
  | .obj fields => .obj (fields.map fun f ↦ if f.1 ∈ keys then (f.1, .null) else f)
  | v => v

/-- The identifiers, times and latencies in the payload of an event. -/
def generatedKeys : List String := ["grant_id", "expires_at", "receipt_id", "latency_ms"]

/-- The identifiers and times in the payload of a receipt. -/
def receiptKeys : List String := ["receipt_id", "node_run_id", "started_at", "ended_at"]

/-- What is seen from outside, up to what is generated: the inputs of an adapter, the events on
record and on the bus, and what is signed with a receipt. -/
inductive Sight where
  | inputs (inputs : Dict)
  | event (kind : EventKind) (payload : Json)
  | published (taskRunId : String) (event : Json) (payload : Option Json)
  | receipt (header payload : Option Json)
  deriving DecidableEq

def sight? : Cmd → Option Sight
  | .invoke request => some (.inputs request.inputs)
  | .appendEvent ev => some (.event ev.kind (erased generatedKeys ev.payload))
  | .publish taskRunId event =>
    some (.published taskRunId (erased ["node_run_id", "payload"] event)
      ((event.get? "payload").map (erased generatedKeys)))
  | .saveReceipt receipt =>
    some (.receipt ((Json.obj receipt.envelope).get? "protected")
      (((Json.obj receipt.envelope).get? "payload").map (erased receiptKeys)))
  | _ => none

def sights (t : RunTrace) : List Sight := t.filterMap fun s ↦ sight? s.cmd

/-! ## What two runs may differ in -/

section

variable (cfg : Config) (pep : EgressPEP) (ι : String → String → Prop) (τ : ℕ → ℕ → Prop)

/-- Grants of one node, issued with related identifiers at related times. -/
def IssuedAlike (g g' : NodeGrant) : Prop :=
  ∃ id id' now now' n n', ∃ r : NodeGrantIssuer.Request, ι id id' ∧ τ now now' ∧ ι n n' ∧
    g = (cfg.grantIssuer.issue cfg.P id now { r with nodeRunId := n }).1 ∧
      g' = (cfg.grantIssuer.issue cfg.P id' now' { r with nodeRunId := n' }).1

/-- The same call, up to what is generated and up to what stays in the process. -/
inductive Cmd.Like : Cmd → Cmd → Prop
  | same (c : Cmd) : Like c c
  | upsertNodeRun (row : NodeRun) {n n' : String} : ι n n' →
    Like (.upsertNodeRun { row with nodeRunId := n }) (.upsertNodeRun { row with nodeRunId := n' })
  | updateNodeState {n n' : String} (state : NodeRunState) (output : Option Json)
    (started ended : Bool) : ι n n' →
    Like (.updateNodeState n state output started ended)
      (.updateNodeState n' state output started ended)
  | appendEvent {ev ev' : AuditEvent} : sight? (.appendEvent ev) = sight? (.appendEvent ev') →
    Like (.appendEvent ev) (.appendEvent ev')
  | saveGrant {g g' : NodeGrant} : IssuedAlike cfg ι τ g g' → Like (.saveGrant g) (.saveGrant g')
  | saveReceipt {r r' : SignedReceipt} : sight? (.saveReceipt r) = sight? (.saveReceipt r') →
    Like (.saveReceipt r) (.saveReceipt r')
  | publish {id id' : String} {event event' : Json} :
    sight? (.publish id event) = sight? (.publish id' event') →
    Like (.publish id event) (.publish id' event')
  | project (capabilityId viewName : String) (p p' : Dict) :
    Like (.project capabilityId viewName p) (.project capabilityId viewName p')
  | merge (p p' : Dict) : Like (.merge p) (.merge p')
  | invoke (request : AdapterRequest) {g g' : NodeGrant} : IssuedAlike cfg ι τ g g' →
    Like (.invoke { request with grant := g }) (.invoke { request with grant := g' })

/-- The sources of identifiers and time reply as related, the clock of the latencies anything, and
the enforcement point and the merge what they compute. All other calls reply the same: the adapter,
in particular, is a function of its request. -/
def RepliesAlike : (c c' : Cmd) → Except Raised (Reply c) → Except Raised (Reply c') → Prop
  | .newId, .newId, r, r' => Both ι r r'
  | .utcNow, .utcNow, r, r' => Both τ r r'
  | .monotonic, .monotonic, r, r' => Both (fun _ _ ↦ True) r r'
  | .project capabilityId viewName p, .project capabilityId' viewName' p', r, r' =>
    r = pep.project cfg.P capabilityId viewName p ∧
      r' = pep.project cfg.P capabilityId' viewName' p'
  | .merge p, .merge p', r, r' =>
    r = Merge.deterministicMerge cfg.F p ∧ r' = Merge.deterministicMerge cfg.F p'
  | _, _, r, r' => r ≍ r'

/-- How two executions of a node correspond. -/
def alike : Correspondence Cmd Reply Raised where
  calls := Cmd.Like cfg ι τ
  replies := RepliesAlike cfg pep ι τ

end

theorem sight?_eq_of_like {cfg : Config} {ι : String → String → Prop} {τ : ℕ → ℕ → Prop}
    {c c' : Cmd} (h : Cmd.Like cfg ι τ c c') : sight? c = sight? c' := by
  cases h with
  | appendEvent h | saveReceipt h | publish h => exact h
  | same _ | upsertNodeRun _ _ | updateNodeState _ _ _ _ _ | saveGrant _ | project _ _ _ _
  | merge _ _ | invoke _ _ => rfl

/-- Two runs with corresponding calls look the same. -/
theorem sights_eq_of_forall₂ {cfg : Config} {ι : String → String → Prop} {τ : ℕ → ℕ → Prop}
    {t t' : RunTrace} (h : List.Forall₂ (fun s s' ↦ Cmd.Like cfg ι τ s.cmd s'.cmd) t t') :
    sights t = sights t' := by
  induction h with
  | nil => rfl
  | cons hs _ ih =>
    rw [sights, sights, List.filterMap_cons, List.filterMap_cons, sight?_eq_of_like hs]
    rw [sights, sights] at ih
    rw [ih]

/-! ## The inputs of two executions -/

/-- The inputs have the same keys, and agree on the fields that the manifest of the view allows. -/
structure Agree (pep : EgressPEP) (capabilityId viewName : String) (p q : Dict) : Prop where
  nodup : (p.map Prod.fst).Nodup
  nodup' : (q.map Prod.fst).Nodup
  sameKeys : ∀ k, k ∈ p.map Prod.fst ↔ k ∈ q.map Prod.fst
  allowed : ∀ m, pep.lookup capabilityId viewName = .ok (some m) →
    FieldProjector.AgreeOn Eq m.allowedFields p q

/-- What a request says about the decision, beside the inputs. -/
def requestMetadata (approval : Option Dict) : Dict :=
  match approval with
  | some decision => if decision = [] then [] else [("decided_by", decidedBy decision)]
  | none => []

/-! ## The parts of a node in lockstep -/

/-- The same node under another identifier. -/
def NodeContext.withRun (ctx : NodeContext) (nodeRunId : String) : NodeContext :=
  { ctx with nodeRunId := nodeRunId }

section

variable {cfg : Config} {pep : EgressPEP} {ι : String → String → Prop} {τ : ℕ → ℕ → Prop}
  {taskRunId : String} {ctx : NodeContext} {n' : String} {α : Type}

/-- A call whose replies are the same. -/
theorem lock_call {c c' : Cmd} (hc : Cmd.Like cfg ι τ c c') {S : Reply c → Reply c' → Prop}
    (hr : ∀ r r', RepliesAlike cfg pep ι τ c c' r r' → Both S r r') :
    Lockstep (alike cfg pep ι τ) S (call c) (call c') :=
  Lockstep.perform hc hr

theorem publish_lock {event event' : Json}
    (h : sight? (.publish taskRunId event) = sight? (.publish taskRunId event')) :
    Lockstep (alike cfg pep ι τ) Eq (publish cfg taskRunId event)
      (publish cfg taskRunId event') := by
  rw [publish, publish]
  split_ifs with hbus
  · exact lock_call (.publish h) fun _ _ ↦ both_of_heq
  · exact .pure rfl

/-- Events of the same kind whose payloads differ in what is generated. -/
theorem emit_lock {n : String} {kind : EventKind} {payload payload' : Dict}
    (h : erased generatedKeys (.obj payload) = erased generatedKeys (.obj payload')) :
    Lockstep (alike cfg pep ι τ) Eq (emit cfg taskRunId (some n) kind payload)
      (emit cfg taskRunId (some n') kind payload') := by
  rw [emit, emit]
  refine (lock_call (.same .newId) fun r r' hr ↦ hr).bind fun id id' _ ↦ ?_
  refine (lock_call (.same .utcNow) fun r r' hr ↦ hr).bind fun now now' _ ↦ ?_
  refine Lockstep.bind (S := Eq) (lock_call (.appendEvent ?_) fun _ _ ↦ both_of_heq)
    fun _ _ _ ↦ publish_lock ?_
  · rw [sight?, sight?, h]
  · have hfields := Json.obj.inj h
    simp [sight?, erased, Json.get?, hfields]

/-- The way out of a node that has failed. -/
theorem failNode_lock {S : α → α → Prop} (hn : ι ctx.nodeRunId n') (payload : Dict) (e : Raised) :
    Lockstep (alike cfg pep ι τ) S (failNode cfg taskRunId ctx payload e)
      (failNode cfg taskRunId (ctx.withRun n') payload e) := by
  rw [failNode, failNode]
  refine (lock_call (.updateNodeState _ _ _ _ hn) fun _ _ ↦ both_of_heq).bind fun _ _ _ ↦ ?_
  exact (emit_lock rfl).bind fun _ _ _ ↦ .raise e

theorem issueGrant_lock (hn : ι ctx.nodeRunId n') :
    Lockstep (alike cfg pep ι τ) (IssuedAlike cfg ι τ) (issueGrant cfg taskRunId ctx)
      (issueGrant cfg taskRunId (ctx.withRun n')) := by
  rw [issueGrant, issueGrant]
  refine (lock_call (.same .newId) fun r r' hr ↦ hr).bind fun id id' hid ↦ ?_
  refine (lock_call (.same .utcNow) fun r r' hr ↦ hr).bind fun now now' hnow ↦ ?_
  let r : NodeGrantIssuer.Request :=
    { taskRunId := taskRunId, nodeRunId := "", taskId := ctx.node.nodeId, nodeId := ctx.node.nodeId,
      capabilityId := ctx.capabilityId, manifestId := ctx.manifestId cfg,
      dataView := dataView ctx.node, purpose := ctx.node.purpose }
  have hissued : IssuedAlike cfg ι τ
      (cfg.grantIssuer.issue cfg.P id now { r with nodeRunId := ctx.nodeRunId }).1
      (cfg.grantIssuer.issue cfg.P id' now' { r with nodeRunId := n' }).1 :=
    ⟨id, id', now, now', ctx.nodeRunId, n', r, hid, hnow, hn, rfl, rfl⟩
  refine (lock_call (.saveGrant hissued) fun _ _ ↦ both_of_heq).bind fun _ _ _ ↦ ?_
  refine (emit_lock ?_).bind fun _ _ _ ↦ .pure hissued
  simp [erased, generatedKeys, NodeContext.withRun]

/-! ### The projection and the adapter -/

theorem denyEgress_lock {S : α → α → Prop} (hn : ι ctx.nodeRunId n') (viewName : String)
    (e : Raised) : Lockstep (alike cfg pep ι τ) S (denyEgress cfg taskRunId ctx viewName e)
      (denyEgress cfg taskRunId (ctx.withRun n') viewName e) := by
  rw [denyEgress, denyEgress]
  exact (emit_lock rfl).bind fun _ _ _ ↦ failNode_lock hn _ e

/-- The enforcement point replies the same to both. -/
theorem projectInputs_lock {viewName : String} {p q : Dict} (hn : ι ctx.nodeRunId n')
    (h : Agree pep ctx.capabilityId viewName p q) :
    Lockstep (alike cfg pep ι τ)
      (fun x x' ↦ x = x' ∧ pep.project cfg.P ctx.capabilityId viewName p = .ok x)
      (projectInputs cfg taskRunId ctx viewName p)
      (projectInputs cfg taskRunId (ctx.withRun n') viewName q) := by
  refine Lockstep.tryCatch (lock_call (.project _ _ _ _) fun r r' hr ↦ ?_) fun e ↦ ?_
  · obtain ⟨rfl, hr'⟩ := hr
    have heq : r' = pep.project cfg.P ctx.capabilityId viewName p :=
      hr'.trans (EgressPEP.project_eq cfg.P pep h.nodup h.nodup' h.sameKeys h.allowed).symm
    rw [heq]
    cases hproject : pep.project cfg.P ctx.capabilityId viewName p with
    | error e => exact .error e
    | ok x => exact .ok ⟨rfl, rfl⟩
  · split_ifs with hdenied
    · exact denyEgress_lock hn viewName e
    · exact .raise e

/-- **The projection leaves the same inputs** for the adapter and the same record of it. -/
theorem egress_lock {viewName : String} {p q : Dict} (hpep : cfg.egressPep = some pep)
    (hview : ctx.manifest.egressViewName = some viewName) (hname : viewName ≠ "")
    (hn : ι ctx.nodeRunId n') (h : Agree pep ctx.capabilityId viewName p q) :
    Lockstep (alike cfg pep ι τ) Eq (egress cfg taskRunId ctx p)
      (egress cfg taskRunId (ctx.withRun n') q) := by
  have hview' : (ctx.withRun n').manifest.egressViewName = some viewName := hview
  simp only [egress, hview, hview', hpep, if_neg hname]
  refine (projectInputs_lock hn h).bind fun x x' hx ↦ ?_
  obtain ⟨rfl, hproject⟩ := hx
  obtain ⟨hlookup, -⟩ := EgressPEP.projector_of_project hproject
  rw [FieldProjector.project_eq h.nodup h.nodup' h.sameKeys (h.allowed _ hlookup)]
  refine (Lockstep.ofExcept (both_eq _)).bind fun r r' hr ↦ .pure ?_
  rw [hr]

theorem invokeAdapter_lock (request : AdapterRequest) {g g' : NodeGrant} (hn : ι ctx.nodeRunId n')
    (hg : IssuedAlike cfg ι τ g g') :
    Lockstep (alike cfg pep ι τ) Eq
      (invokeAdapter cfg taskRunId ctx { request with grant := g })
      (invokeAdapter cfg taskRunId (ctx.withRun n') { request with grant := g' }) := by
  rw [invokeAdapter, invokeAdapter]
  refine Lockstep.tryCatch (lock_call (.invoke request hg) fun r r' hr ↦ ?_) fun e ↦ ?_
  · exact both_of_heq hr
  · exact failNode_lock hn _ e

/-! ### The records of a node -/

theorem recordIo_lock (e : Egress) (outputs : Dict) (latency latency' : ℤ) :
    Lockstep (alike cfg pep ι τ) Eq (recordIo cfg taskRunId ctx e outputs latency)
      (recordIo cfg taskRunId (ctx.withRun n') e outputs latency') := by
  rw [recordIo, recordIo]
  refine (emit_lock rfl).bind fun _ _ _ ↦ ?_
  refine (emit_lock ?_).bind fun _ _ _ ↦ emit_lock ?_
  · rw [sentPayload, sentPayload]
    cases e.projection <;> simp [erased, generatedKeys, NodeContext.withRun]
  · simp [erased, generatedKeys, NodeContext.withRun]

theorem buildReceipt_lock (inputs outputs : Dict) (startedAt startedAt' endedAt endedAt' : ℕ) :
    Lockstep (alike cfg pep ι τ) (fun r r' ↦ sight? (.saveReceipt r) = sight? (.saveReceipt r'))
      (buildReceipt cfg taskRunId ctx inputs outputs startedAt endedAt)
      (buildReceipt cfg taskRunId (ctx.withRun n') inputs outputs startedAt' endedAt') := by
  rw [buildReceipt, buildReceipt]
  refine (lock_call (.same (.getTaskRun taskRunId)) fun _ _ ↦ both_of_heq).bind
    fun row row' hrow ↦ ?_
  rw [hrow]
  refine (Lockstep.ofExcept (both_eq _)).bind fun planDigest planDigest' hdigest ↦ ?_
  rw [hdigest]
  refine (lock_call (.same .newId) fun r r' hr ↦ hr).bind fun id id' _ ↦ ?_
  refine (lock_call (.same .utcNow) fun r r' hr ↦ hr).bind fun now now' _ ↦ .pure ?_
  simp [sight?, ReceiptBuilder.build, coseLikeEnvelope_eq, Json.items, Json.get?,
    ReceiptBuilder.payload, erased, receiptKeys, NodeContext.withRun, NodeContext.manifestId]

theorem finishNode_lock (hn : ι ctx.nodeRunId n') (inputs : Dict) (result : AdapterResult)
    (startedAt startedAt' endedAt endedAt' : ℕ) (latency latency' : ℤ) :
    Lockstep (alike cfg pep ι τ) Eq
      (finishNode cfg taskRunId ctx inputs result startedAt endedAt latency)
      (finishNode cfg taskRunId (ctx.withRun n') inputs result startedAt' endedAt' latency') := by
  rw [finishNode, finishNode]
  refine (lock_call (.updateNodeState _ _ _ _ hn) fun _ _ ↦ both_of_heq).bind fun _ _ _ ↦ ?_
  refine (lock_call (.same (.setResult ctx.node.nodeId result.outputs))
    fun _ _ ↦ both_of_heq).bind fun _ _ _ ↦ ?_
  refine (buildReceipt_lock inputs result.outputs _ _ _ _).bind fun receipt receipt' hreceipt ↦ ?_
  refine (lock_call (.saveReceipt hreceipt) fun _ _ ↦ both_of_heq).bind fun _ _ _ ↦ ?_
  refine (emit_lock ?_).bind fun _ _ _ ↦ emit_lock ?_
  · simp [erased, generatedKeys, NodeContext.withRun]
  · simp [erased, generatedKeys, NodeContext.withRun]

/-! ### The node -/

theorem execAdapter_lock {viewName : String} {previous previous' : Dict}
    {approval approval' : Option Dict} (hpep : cfg.egressPep = some pep)
    (hview : ctx.manifest.egressViewName = some viewName) (hname : viewName ≠ "")
    (hn : ι ctx.nodeRunId n')
    (h : Agree pep ctx.capabilityId viewName (nodeInputs previous approval)
      (nodeInputs previous' approval'))
    (hmetadata : requestMetadata approval = requestMetadata approval') :
    Lockstep (alike cfg pep ι τ) Eq (execAdapter cfg taskRunId ctx previous approval)
      (execAdapter cfg taskRunId (ctx.withRun n') previous' approval') := by
  rw [execAdapter, execAdapter]
  refine (issueGrant_lock hn).bind fun grant grant' hgrant ↦ ?_
  refine (lock_call (.same (.lookupAdapter ctx.capabilityId)) fun _ _ ↦ both_of_heq).bind
    fun _ _ _ ↦ ?_
  refine (lock_call (.same .utcNow) fun r r' hr ↦ hr).bind fun startedAt startedAt' _ ↦ ?_
  refine (egress_lock hpep hview hname hn h).bind fun e e' he ↦ ?_
  rw [← he]
  refine (lock_call (.same .monotonic) fun r r' hr ↦ hr).bind fun t0 t0' _ ↦ ?_
  have hrequest : adapterRequest (ctx.withRun n') grant' e.inputs approval' =
      { adapterRequest ctx grant e.inputs approval with grant := grant' } :=
    congrArg (fun metadata ↦ { adapterRequest ctx grant' e.inputs approval with
      metadata := metadata }) hmetadata.symm
  rw [hrequest]
  refine (invokeAdapter_lock (adapterRequest ctx grant e.inputs approval) hn hgrant).bind
    fun result result' hresult ↦ ?_
  rw [← hresult]
  refine (lock_call (.same .monotonic) fun r r' hr ↦ hr).bind fun t1 t1' _ ↦ ?_
  refine (lock_call (.same .utcNow) fun r r' hr ↦ hr).bind fun endedAt endedAt' _ ↦ ?_
  exact (recordIo_lock e result.outputs _ _).bind fun _ _ _ ↦ finishNode_lock hn e.inputs result _ _
    _ _ _ _

theorem startNode_lock {node : PlanNode} {force : Option String} {manifest : CapabilityManifest}
    (hmanifest : cfg.router.store.get (chosenCapability force node) = .ok manifest) :
    Lockstep (alike cfg pep ι τ)
      (fun ctx ctx' ↦ ∃ n n', ι n n' ∧ ctx = ⟨n, node, chosenCapability force node, manifest⟩ ∧
        ctx' = ctx.withRun n')
      (startNode cfg taskRunId node force) (startNode cfg taskRunId node force) := by
  rw [startNode, hmanifest]
  refine (lock_call (.same .newId) fun r r' hr ↦ hr).bind fun n n' hn ↦ ?_
  refine Lockstep.bind (S := fun m m' ↦ m = manifest ∧ m' = manifest) (.ret ⟨rfl, rfl⟩)
    fun m m' hm ↦ ?_
  obtain ⟨rfl, rfl⟩ := hm
  refine (lock_call (.upsertNodeRun
    { nodeRunId := "", taskRunId := taskRunId, nodeId := node.nodeId, state := .running,
      capabilityId := some (chosenCapability force node),
      manifestId := some (m'.manifestId cfg.P cfg.F) } hn)
    fun _ _ ↦ both_of_heq).bind fun _ _ _ ↦ ?_
  refine (emit_lock ?_).bind fun _ _ _ ↦ .pure ⟨n, n', hn, rfl, rfl⟩
  simp [NodeContext.manifestId]

/-- **The node in lockstep.** -/
theorem execNode_lock {node : PlanNode} {force : Option String} {manifest : CapabilityManifest}
    {viewName : String} {previous previous' : Dict} {approval approval' : Option Dict}
    (hpep : cfg.egressPep = some pep)
    (hmanifest : cfg.router.store.get (chosenCapability force node) = .ok manifest)
    (hview : manifest.egressViewName = some viewName) (hname : viewName ≠ "")
    (hnode : ¬(node.nodeId = "merge" ∨ node.nodeId = "ingest_contract"))
    (h : Agree pep (chosenCapability force node) viewName (nodeInputs previous approval)
      (nodeInputs previous' approval'))
    (hmetadata : requestMetadata approval = requestMetadata approval') :
    Lockstep (alike cfg pep ι τ) Eq (execNode cfg taskRunId node previous force approval)
      (execNode cfg taskRunId node previous' force approval') := by
  rw [execNode, execNode]
  refine (startNode_lock hmanifest).bind fun ctx ctx' hctx ↦ ?_
  obtain ⟨n, n', hn, rfl, rfl⟩ := hctx
  rw [if_neg hnode, if_neg hnode]
  exact execAdapter_lock hpep hview hname hn h hmetadata

end

end Engine

end Orchestra
