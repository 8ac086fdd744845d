import Orchestra.Coordinator.ApprovalGate
import Orchestra.Coordinator.Merge
import Orchestra.Coordinator.NodeGrant
import Orchestra.Evidence.Receipt
import Orchestra.Foundation.Program
import Orchestra.Registry.Router
import Orchestra.Templates.ContractReview
import Orchestra.Xfr.EgressPep

/-!
# The coordinator engine

`run` plans the contract review, signs the plan and executes its nodes in the order of the template.
It is a program over the calls it makes: to the stores, the router, the event bus, the enforcement
point, the adapters and the clock, and to the fields of its own that change. Any of the calls that
leave the engine can raise, and an exception is handled where the source handles it.

The calls are in the order of the source. Nothing here says what a call does.
-/

namespace Orchestra

namespace Engine

open Interaction

/-- A dictionary with string keys. -/
abbrev Dict := List (String × Json)

/-! ## What a coordinator is built from -/

structure Config where
  P : Primitives
  F : FloatModel
  router : Router
  /-- The capabilities that have an adapter. -/
  adapters : List String
  grantIssuer : NodeGrantIssuer
  receiptBuilder : ReceiptBuilder
  egressPep : Option EgressPEP := none
  hasEventBus : Bool := false
  tenantId : Option String := none
  hasApprovalService : Bool := false
  /-- Whether an approval handler is injected; otherwise the default one is used. -/
  hasApprovalHandler : Bool := false

/-! ## The calls -/

inductive Cmd where
  | newId
  | utcNow
  | monotonic
  /-- `self._initial_inputs = …`. -/
  | setInitialInputs (inputs : Dict)
  | getInitialInputs
  /-- `node_results[node_id] = …`. -/
  | setResult (nodeId : String) (outputs : Dict)
  | getResult (nodeId : String)
  | getResults
  | upsertTaskRun (taskRunId contractId templateId : String) (state : TaskRunState)
      (planId : Option String)
  | updateTaskState (taskRunId : String) (state : TaskRunState)
  | getTaskRun (taskRunId : String)
  | upsertNodeRun (row : NodeRun)
  | updateNodeState (nodeRunId : String) (state : NodeRunState) (output : Option Json)
      (started ended : Bool)
  | appendEvent (ev : AuditEvent)
  | saveGrant (grant : NodeGrant)
  | saveReceipt (receipt : SignedReceipt)
  | getReceipts (taskRunId : String)
  | createForNode (taskRunId nodeId tenantId : String)
  | saveApproval (row : Approval)
  | publish (taskRunId : String) (event : Json)
  | closeBus (taskRunId : String)
  | route (node : NodeSpec) (q : Router.Query)
  | signPlan (plan : ExecutionPlan)
  /-- `cap_id in self._adapters`, with the exception for a missing one. -/
  | lookupAdapter (capabilityId : String)
  | project (capabilityId viewName : String) (payload : Dict)
  | merge (inputs : Dict)
  | invoke (request : AdapterRequest)
  | verifyReceipt (row : Receipt)
  /-- `self._approval_events[(task_run_id, node_id)] = (event, bucket)`. -/
  | registerApproval (taskRunId nodeId : String) (bucket : Dict)
  /-- `event.wait()`: the payload as it is when the event is set. -/
  | awaitDecision (bucket : Dict)
  /-- The injected approval handler. -/
  | handleApproval (taskRunId nodeId : String) (request : Dict)

/-- What a call replies. -/
abbrev Reply : Cmd → Type
  | .newId => String
  | .utcNow => ℕ
  | .monotonic => ℚ
  | .setInitialInputs _ => Unit
  | .getInitialInputs => Option Dict
  | .setResult _ _ => Unit
  | .getResult _ => Dict
  | .getResults => Dict
  | .upsertTaskRun _ _ _ _ _ => Unit
  | .updateTaskState _ _ => Unit
  | .getTaskRun _ => Option TaskRun
  | .upsertNodeRun _ => Unit
  | .updateNodeState _ _ _ _ _ => Unit
  | .appendEvent _ => Unit
  | .saveGrant _ => Unit
  | .saveReceipt _ => Unit
  | .getReceipts _ => List Receipt
  | .createForNode _ _ _ => String
  | .saveApproval _ => Unit
  | .publish _ _ => Unit
  | .closeBus _ => Unit
  | .route _ _ => RoutingResult
  | .signPlan _ => String
  | .lookupAdapter _ => Unit
  | .project _ _ _ => Dict × FieldManifest
  | .merge _ => Dict
  | .invoke _ => AdapterResult
  | .verifyReceipt _ => Bool
  | .registerApproval _ _ _ => Unit
  | .awaitDecision _ => Dict
  | .handleApproval _ _ _ => Dict

abbrev Prog := Program Cmd Reply Raised

abbrev RunStep := Step Cmd Reply Raised

abbrev RunTrace := Trace Cmd Reply Raised

def call (c : Cmd) : Prog (Reply c) := .perform c

variable (cfg : Config)

/-! ## Events -/

/-- Publishing to the bus, if there is one. -/
def publish (taskRunId : String) (event : Json) : Prog Unit :=
  if cfg.hasEventBus then call (.publish taskRunId event) else pure ()

/-- Closing the bus of a task, if there is one. -/
def closeBus (taskRunId : String) : Prog Unit :=
  if cfg.hasEventBus then call (.closeBus taskRunId) else pure ()

/-- `_emit`. The identifier and the time are the defaults of the event. -/
def emit (taskRunId : String) (nodeRunId : Option String) (kind : EventKind) (payload : Dict) :
    Prog Unit := do
  let eventId ← call .newId
  let now ← call .utcNow
  call (.appendEvent
    { eventId := eventId, taskRunId := some taskRunId, nodeRunId := nodeRunId, kind := kind,
      occurredAt := (now : ℤ) * 1000, payload := .obj payload })
  publish cfg taskRunId (.obj [("task_run_id", .str taskRunId),
    ("node_run_id", .ofOption nodeRunId), ("kind", .str kind.value), ("payload", .obj payload)])

/-! ## Executing a node -/

/-- A node that has been started: its run, and the capability it runs on. -/
structure NodeContext where
  nodeRunId : String
  node : PlanNode
  capabilityId : String
  manifest : CapabilityManifest

def NodeContext.manifestId (ctx : NodeContext) : String := ctx.manifest.manifestId cfg.P cfg.F

/-- `force_capability_id or plan_node.capability_id`. -/
def chosenCapability (force : Option String) (node : PlanNode) : String :=
  match force with
  | some id => if id = "" then node.capabilityId else id
  | none => node.capabilityId

/-- The row and the event that start a node. -/
def startNode (taskRunId : String) (node : PlanNode) (force : Option String) :
    Prog NodeContext := do
  let nodeRunId ← call .newId
  let manifest ← .ofExcept (cfg.router.store.get (chosenCapability force node))
  let ctx : NodeContext := ⟨nodeRunId, node, chosenCapability force node, manifest⟩
  call (.upsertNodeRun
    { nodeRunId := nodeRunId, taskRunId := taskRunId, nodeId := node.nodeId, state := .running,
      capabilityId := some ctx.capabilityId, manifestId := some (ctx.manifestId cfg) })
  emit cfg taskRunId (some nodeRunId) .nodeStarted [("node_id", .str node.nodeId),
    ("capability_id", .str ctx.capabilityId), ("manifest_id", .str (ctx.manifestId cfg))]
  return ctx

/-- `list(d.keys())`. -/
def keys (d : Dict) : Json := .arr (d.map fun f ↦ .str f.1)

/-- The row, the event and the exception that end a node. -/
def failNode {α : Type} (taskRunId : String) (ctx : NodeContext) (payload : Dict) (e : Raised) :
    Prog α := do
  call (.updateNodeState ctx.nodeRunId .failed none true true)
  emit cfg taskRunId (some ctx.nodeRunId) .nodeFailed payload
  .raise e

/-- The output of a node that needs no adapter. -/
def inProcessOutput (nodeId : String) (previous : Dict) : Prog Dict :=
  if nodeId = "ingest_contract" then do
    let initial ← call .getInitialInputs
    return match initial with
      | some inputs => if inputs = [] then previous else inputs
      | none => previous
  else call (.merge previous)

/-- The branch of the nodes `merge` and `ingest_contract`. -/
def execInProcess (taskRunId : String) (ctx : NodeContext) (previous : Dict) : Prog Unit := do
  let output ← inProcessOutput ctx.node.nodeId previous
  call (.updateNodeState ctx.nodeRunId .succeeded (some (.obj output)) true true)
  call (.setResult ctx.node.nodeId output)
  emit cfg taskRunId (some ctx.nodeRunId) .nodeSucceeded
    [("node_id", .str ctx.node.nodeId), ("outputs_keys", keys output)]

/-- The first input view of the node. -/
def dataView (node : PlanNode) : DataView :=
  node.inputViews.head?.getD { name := "default", shape := .reference, fields := [] }

def issueGrant (taskRunId : String) (ctx : NodeContext) : Prog NodeGrant := do
  let grantId ← call .newId
  let now ← call .utcNow
  let grant := (cfg.grantIssuer.issue cfg.P grantId now
    { taskRunId := taskRunId, nodeRunId := ctx.nodeRunId, taskId := ctx.node.nodeId,
      nodeId := ctx.node.nodeId, capabilityId := ctx.capabilityId,
      manifestId := ctx.manifestId cfg, dataView := dataView ctx.node,
      purpose := ctx.node.purpose }).1
  call (.saveGrant grant)
  emit cfg taskRunId (some ctx.nodeRunId) .grantIssued [("grant_id", .str grant.grantId),
    ("capability_id", .str ctx.capabilityId), ("data_view", (dataView ctx.node).modelDump),
    ("expires_at", .str grant.expiresAt)]
  return grant

/-! ### Egress -/

/-- What the projection of the inputs leaves for the audit event. -/
structure Projection where
  viewName : String
  manifest : FieldManifest
  dropped : List String
  bytes : ℕ

/-- The inputs an adapter is given, and how they were projected. -/
structure Egress where
  inputs : Dict
  projection : Option Projection := none

/-- The enforcement point refused the call. -/
def denyEgress {α : Type} (taskRunId : String) (ctx : NodeContext) (viewName : String)
    (e : Raised) : Prog α := do
  emit cfg taskRunId (some ctx.nodeRunId) .policyDecision [("node_id", .str ctx.node.nodeId),
    ("capability_id", .str ctx.capabilityId), ("view_name", .str viewName),
    ("decision", .str "deny"), ("reason", .str e.text), ("policy", .str "xfr-001.egress-pep")]
  failNode cfg taskRunId ctx [("node_id", .str ctx.node.nodeId), ("error", .str e.text),
    ("error_type", .str "EgressDenied"), ("policy", .str "xfr-001.egress-pep")] e

/-- The call of the enforcement point; only its refusals are caught. -/
def projectInputs (taskRunId : String) (ctx : NodeContext) (viewName : String) (inputs : Dict) :
    Prog (Dict × FieldManifest) :=
  (call (.project ctx.capabilityId viewName inputs)).tryCatch fun e ↦
    if e.typeName = "EgressDenied" then denyEgress cfg taskRunId ctx viewName e else .raise e

/-- The inputs after the projection, which is made when the capability declares a view and there is
an enforcement point. -/
def egress (taskRunId : String) (ctx : NodeContext) (inputs : Dict) : Prog Egress :=
  match ctx.manifest.egressViewName, cfg.egressPep with
  | some viewName, some _ =>
    if viewName = "" then pure ⟨inputs, none⟩
    else do
      let projected ← projectInputs cfg taskRunId ctx viewName inputs
      let result ← .ofExcept (FieldProjector.project cfg.P projected.2 inputs)
      return ⟨projected.1,
        some ⟨viewName, projected.2, result.droppedFields, result.projectedBytes⟩⟩
  | _, _ => pure ⟨inputs, none⟩

/-! ### The call of the adapter -/

/-- `d.get("decided_by", "human")`. -/
def decidedBy (decision : Dict) : Json :=
  ((Json.obj decision).get? "decided_by").getD (.str "human")

def adapterRequest (ctx : NodeContext) (grant : NodeGrant) (inputs : Dict)
    (approval : Option Dict) : AdapterRequest where
  grant := grant
  inputs := inputs
  dataView := dataView ctx.node
  purpose := ctx.node.purpose
  timeoutMs := ctx.node.timeoutMs
  metadata :=
    match approval with
    | some decision => if decision = [] then [] else [("decided_by", decidedBy decision)]
    | none => []

def invokeAdapter (taskRunId : String) (ctx : NodeContext) (request : AdapterRequest) :
    Prog AdapterResult :=
  (call (.invoke request)).tryCatch fun e ↦
    failNode cfg taskRunId ctx [("node_id", .str ctx.node.nodeId), ("error", .str e.text),
      ("error_type", .str e.typeName)] e

/-- `int((t1 - t0) * 1000)`. -/
def latencyMs (t0 t1 : ℚ) : ℤ :=
  let ms := cfg.F.round (cfg.F.sub t1 t0 * 1000)
  ms.num.tdiv ms.den

/-- The payload of `io.sent`. -/
def sentPayload (ctx : NodeContext) (e : Egress) (latency : ℤ) : Dict :=
  match e.projection with
  | some p =>
    [("node_id", .str ctx.node.nodeId), ("capability_id", .str ctx.capabilityId),
      ("view_name", .str p.viewName), ("manifest_id", .str p.manifest.manifestId),
      ("projected_digest", .str (digestJson cfg.P (.obj e.inputs))),
      ("projected_bytes", .int p.bytes), ("dropped_fields", .arr (p.dropped.map .str)),
      ("latency_ms", .int latency)]
  | none =>
    [("node_id", .str ctx.node.nodeId), ("capability_id", .str ctx.capabilityId),
      ("latency_ms", .int latency)]

/-- The three events about the call. -/
def recordIo (taskRunId : String) (ctx : NodeContext) (e : Egress) (outputs : Dict)
    (latency : ℤ) : Prog Unit := do
  emit cfg taskRunId (some ctx.nodeRunId) .ioIntent [("node_id", .str ctx.node.nodeId),
    ("capability_id", .str ctx.capabilityId), ("data_view", .str (dataView ctx.node).name)]
  emit cfg taskRunId (some ctx.nodeRunId) .ioSent (sentPayload cfg ctx e latency)
  emit cfg taskRunId (some ctx.nodeRunId) .ioReceived [("node_id", .str ctx.node.nodeId),
    ("outputs_keys", keys outputs), ("latency_ms", .int latency)]

/-- `row.get("plan_id", "") or ""`. -/
def planIdOf (row : Option TaskRun) : Except Raised String :=
  match row with
  | some r => .ok (r.planId.getD "")
  | none => .error (.attributeError .null "get")

def buildReceipt (taskRunId : String) (ctx : NodeContext) (inputs outputs : Dict)
    (startedAt endedAt : ℕ) : Prog SignedReceipt := do
  let row ← call (.getTaskRun taskRunId)
  let planDigest ← .ofExcept (planIdOf row)
  let receiptId ← call .newId
  let now ← call .utcNow
  return cfg.receiptBuilder.build cfg.P receiptId now
    { taskRunId := taskRunId, nodeRunId := ctx.nodeRunId, nodeId := ctx.node.nodeId,
      planDigest := planDigest, capabilityId := ctx.capabilityId,
      manifestId := ctx.manifestId cfg, dataView := (dataView ctx.node).modelDump,
      inputs := .obj inputs, outputs := .obj outputs, startedAt := utcNowIso startedAt,
      endedAt := utcNowIso endedAt, status := "succeeded" }

/-- The output and the receipt of a node whose adapter has returned. -/
def finishNode (taskRunId : String) (ctx : NodeContext) (inputs : Dict) (result : AdapterResult)
    (startedAt endedAt : ℕ) (latency : ℤ) : Prog Unit := do
  call (.updateNodeState ctx.nodeRunId .succeeded (some (.obj result.outputs)) true true)
  call (.setResult ctx.node.nodeId result.outputs)
  let receipt ← buildReceipt cfg taskRunId ctx inputs result.outputs startedAt endedAt
  call (.saveReceipt receipt)
  emit cfg taskRunId (some ctx.nodeRunId) .receiptSigned
    [("receipt_id", .str receipt.receiptId), ("node_id", .str ctx.node.nodeId)]
  emit cfg taskRunId (some ctx.nodeRunId) .nodeSucceeded [("node_id", .str ctx.node.nodeId),
    ("outputs_keys", keys result.outputs), ("latency_ms", .int latency),
    ("metadata", .obj result.metadata)]

/-- The inputs of an adapter before the projection. -/
def nodeInputs (previous : Dict) (approval : Option Dict) : Dict :=
  match approval with
  | some decision => Json.setField previous "approval" (.obj decision)
  | none => previous

/-- The branch of the nodes that have an adapter. -/
def execAdapter (taskRunId : String) (ctx : NodeContext) (previous : Dict)
    (approval : Option Dict) : Prog Unit := do
  let grant ← issueGrant cfg taskRunId ctx
  call (.lookupAdapter ctx.capabilityId)
  let startedAt ← call .utcNow
  let e ← egress cfg taskRunId ctx (nodeInputs previous approval)
  let t0 ← call .monotonic
  let result ← invokeAdapter cfg taskRunId ctx (adapterRequest ctx grant e.inputs approval)
  let t1 ← call .monotonic
  let endedAt ← call .utcNow
  recordIo cfg taskRunId ctx e result.outputs (latencyMs cfg t0 t1)
  finishNode cfg taskRunId ctx e.inputs result startedAt endedAt (latencyMs cfg t0 t1)

/-- `_exec_node`. -/
def execNode (taskRunId : String) (node : PlanNode) (previous : Dict) (force : Option String)
    (approval : Option Dict) : Prog Unit := do
  let ctx ← startNode cfg taskRunId node force
  if node.nodeId = "merge" ∨ node.nodeId = "ingest_contract" then
    execInProcess cfg taskRunId ctx previous
  else execAdapter cfg taskRunId ctx previous approval

/-! ## The approval -/

/-- The persistent row of the gate, if there is a service and a tenant and it can be created. -/
def createApprovalRow (taskRunId nodeId : String) : Prog (Option String) :=
  match cfg.hasApprovalService, cfg.tenantId with
  | true, some tenantId =>
    if tenantId = "" then pure none
    else
      (do
        let approvalId ← call (.createForNode taskRunId nodeId tenantId)
        return some approvalId).tryCatch fun _ ↦ pure none
  | _, _ => pure none

/-- The audit row of a gate without a persistent row. -/
def saveLegacyRow (taskRunId nodeId : String) (requestedAt : ℕ) (approvalId : Option String) :
    Prog Unit :=
  match approvalId with
  | some _ => pure ()
  | none => do
    let newId ← call .newId
    call (.saveApproval
      (Coordinator.legacyRow newId taskRunId nodeId ((requestedAt : ℤ) * 1000) none))

/-- The payload of a new gate. -/
def newBucket (taskRunId nodeId : String) (requestedAt : ℕ) (request : Dict)
    (approvalId : Option String) : Dict :=
  [("requested_at", .str (utcNowIso requestedAt)), ("task_run_id", .str taskRunId),
    ("node_id", .str nodeId),
    ("request", .obj (request.filter fun p ↦ Coordinator.isScalar p.2))] ++
    match approvalId with
    | some id => [("approval_id", .str id)]
    | none => []

/-- `_default_approval_handler`. -/
def defaultApprovalHandler (taskRunId nodeId : String) (request : Dict) : Prog Dict := do
  let now ← call .utcNow
  let approvalId ← createApprovalRow cfg taskRunId nodeId
  let bucket := newBucket taskRunId nodeId now request approvalId
  call (.registerApproval taskRunId nodeId bucket)
  saveLegacyRow taskRunId nodeId now approvalId
  emit cfg taskRunId none .nodeAwaitingApproval
    [("node_id", .str nodeId), ("approval_id", .ofOption approvalId)]
  call (.awaitDecision bucket)

def approvalHandler (taskRunId nodeId : String) (request : Dict) : Prog Dict :=
  if cfg.hasApprovalHandler then call (.handleApproval taskRunId nodeId request)
  else defaultApprovalHandler cfg taskRunId nodeId request

/-! ## Planning -/

/-- The arguments of `run`. -/
structure RunArgs where
  taskRunId : String
  contractId : String
  dataLabel : SecurityLabel
  initialInputs : Dict
  budgetUsd : ℚ := 1

/-- The budget after a binding: an unknown capability costs nothing. -/
def remainingBudget (budget : ℚ) (decision : RoutingDecision) : ℚ :=
  match cfg.router.store.get decision.chosenCapabilityId with
  | .ok m => cfg.F.sub budget m.costEstimateUsd
  | .error _ => budget

/-- The loop over the nodes of the template: the routing decisions and the bindings. A node that
requires approval is bound to the human, without routing. -/
def planNodes (label : SecurityLabel) :
    List NodeSpec → ℚ → Prog (List RoutingDecision × List ContractReview.Binding)
  | [], _ => pure ([], [])
  | spec :: specs, budget =>
    if spec.requiresApproval then do
      let rest ← planNodes label specs budget
      return (rest.1, ⟨spec, "human.approver", "manifest:human-approver"⟩ :: rest.2)
    else do
      let result ← call (.route spec
        ⟨label, ContractReview.getDefaultPurpose.code, "local", budget⟩)
      let rest ← planNodes label specs (remainingBudget cfg budget result.decision)
      return (result.decision :: rest.1,
        ⟨spec, result.decision.chosenCapabilityId, result.decision.chosenManifestId⟩ :: rest.2)

/-- The plan with its signature. -/
def buildPlan (a : RunArgs) : Prog ExecutionPlan := do
  let (routing, bindings) ← planNodes cfg a.dataLabel ContractReview.template.nodes a.budgetUsd
  let planId ← call .newId
  let now ← call .utcNow
  let plan := ContractReview.buildContractReviewPlan planId (utcNowIso now) a.contractId routing
    bindings
  let signature ← call (.signPlan plan)
  return { plan with signature := some signature }

/-- From the reservation of the task row to the two events about the plan. -/
def planTask (a : RunArgs) : Prog ExecutionPlan := do
  call (.upsertTaskRun a.taskRunId a.contractId ContractReview.template.templateId .created none)
  emit cfg a.taskRunId none .taskReceived [("contract_id", .str a.contractId),
    ("purpose", .str ContractReview.getDefaultPurpose.code),
    ("data_label", a.dataLabel.modelDump), ("initial_inputs_keys", keys a.initialInputs)]
  let plan ← buildPlan cfg a
  call (.upsertTaskRun a.taskRunId a.contractId ContractReview.template.templateId .planned
    (some plan.planId))
  emit cfg a.taskRunId none .planCreated [("plan_id", .str plan.planId),
    ("plan_digest", .str (plan.digest cfg.P)),
    ("nodes", .arr (plan.nodes.map fun n ↦ .str n.nodeId))]
  emit cfg a.taskRunId none .planSigned [("plan_digest", .str (plan.digest cfg.P)),
    ("signed_by", .str plan.signedBy)]
  return plan

/-! ## Executing the plan -/

/-- `plan.nodes[i]`. -/
def planNode (plan : ExecutionPlan) (i : ℕ) : Except Raised PlanNode :=
  match plan.nodes[i]? with
  | some node => .ok node
  | none => .error ⟨"IndexError", "list index out of range"⟩

/-- The capability `merge` is made to run on. -/
def mergeCapability : String := "local.contract-extractor"

/-- The query of the node `public_research`. -/
def researchQuery (facts : Json) : Except Raised String := do
  let vendorName ← facts.getD "vendor_name" (.str "unknown")
  return "vendor=" ++ vendorName.pyStr ++ "; industry classification; public registry lookup"

/-- `d.get(key, {})`. -/
def getObj (d : Dict) (key : String) : Json := ((Json.obj d).get? key).getD (.obj [])

/-- How the execution of a plan ends. -/
inductive Ending where
  | completed
  | rejected
  | failed (error : String)

/-- The nodes up to `merge`. -/
def executeNodes (a : RunArgs) (plan : ExecutionPlan) : Prog Unit := do
  let ingest ← .ofExcept (planNode plan 0)
  execNode cfg a.taskRunId ingest [] none none
  let extract ← .ofExcept (planNode plan 1)
  let contract ← call (.getResult "ingest_contract")
  execNode cfg a.taskRunId extract contract none none
  let research ← .ofExcept (planNode plan 2)
  let extracted ← call (.getResult "extract_facts_local")
  let query ← .ofExcept (researchQuery (getObj extracted "facts"))
  execNode cfg a.taskRunId research
    [("facts", getObj extracted "facts"), ("query", .str query)] none none
  let merge ← .ofExcept (planNode plan 3)
  let facts ← call (.getResult "extract_facts_local")
  let researched ← call (.getResult "public_research")
  execNode cfg a.taskRunId merge
    [("facts", getObj facts "facts"), ("research", getObj researched "research")]
    (some mergeCapability) none

/-- `decision_payload.get("decision") == "approve"`. -/
def isApproved (decision : Dict) : Bool :=
  decide ((Json.obj decision).get? "decision" = some (.str "approve"))

/-- The approval point: the payload of the decision, recorded as the result of the node. -/
def decideTask (a : RunArgs) : Prog Dict := do
  let merged ← call (.getResult "merge")
  let decision ← approvalHandler cfg a.taskRunId "human_approval" merged
  call (.setResult "human_approval" decision)
  emit cfg a.taskRunId none (if isApproved decision then .nodeApproved else .nodeRejected)
    [("node_id", .str "human_approval"), ("decided_by", decidedBy decision),
      ("rationale", ((Json.obj decision).get? "rationale").getD (.str ""))]
  return decision

def rejectTask (a : RunArgs) : Prog Ending := do
  call (.updateTaskState a.taskRunId .cancelled)
  emit cfg a.taskRunId none .taskFailed [("reason", .str "rejected at human_approval")]
  closeBus cfg a.taskRunId
  return .rejected

def completeTask (a : RunArgs) (plan : ExecutionPlan) (decision : Dict) : Prog Ending := do
  let sink ← .ofExcept (planNode plan 5)
  let merged ← call (.getResult "merge")
  execNode cfg a.taskRunId sink merged none (some decision)
  call (.updateTaskState a.taskRunId .succeeded)
  let results ← call .getResults
  emit cfg a.taskRunId none .taskCompleted [("node_results_keys", keys results)]
  return .completed

/-- The body of the `try` statement. -/
def executePlan (a : RunArgs) (plan : ExecutionPlan) : Prog Ending := do
  executeNodes cfg a plan
  let decision ← decideTask cfg a
  if isApproved decision then completeTask cfg a plan decision else rejectTask cfg a

/-- The handler of the `try` statement. -/
def failTask (a : RunArgs) (e : Raised) : Prog Ending := do
  call (.updateTaskState a.taskRunId .failed)
  emit cfg a.taskRunId none .taskFailed
    [("reason", .str e.text), ("error_type", .str e.typeName)]
  closeBus cfg a.taskRunId
  return .failed e.text

/-! ## The run -/

structure CoordinatorResult where
  taskRunId : String
  plan : ExecutionPlan
  state : TaskRunState
  nodeResults : Dict
  receipts : List (Receipt × Bool) := []
  error : Option String := none

/-- The loop of `_verify_receipts`. -/
def verifyRows : List Receipt → Prog (List (Receipt × Bool))
  | [] => pure []
  | row :: rows => do
    let verified ← call (.verifyReceipt row)
    let rest ← verifyRows rows
    return (row, verified) :: rest

/-- `_verify_receipts`. -/
def verifyReceipts (taskRunId : String) : Prog (List (Receipt × Bool)) := do
  let rows ← call (.getReceipts taskRunId)
  verifyRows rows

/-- What follows the `try` statement. -/
def finishRun (a : RunArgs) (plan : ExecutionPlan) (ending : Ending) : Prog CoordinatorResult :=
  match ending with
  | .completed => do
    let verified ← verifyReceipts a.taskRunId
    closeBus cfg a.taskRunId
    let results ← call .getResults
    return { taskRunId := a.taskRunId, plan := plan, state := .succeeded, nodeResults := results,
             receipts := verified }
  | .rejected => do
    let results ← call .getResults
    return { taskRunId := a.taskRunId, plan := plan, state := .cancelled, nodeResults := results,
             error := some "rejected at human_approval" }
  | .failed error => do
    let results ← call .getResults
    return { taskRunId := a.taskRunId, plan := plan, state := .failed, nodeResults := results,
             error := some error }

/-- The two inputs a run must have. -/
def checkInputs (inputs : Dict) : Except Raised Unit :=
  if "contract_text" ∉ inputs.map Prod.fst then
    .error (.contractViolation "initial_inputs must include 'contract_text'")
  else if "vendor_id" ∉ inputs.map Prod.fst then
    .error (.contractViolation "initial_inputs must include 'vendor_id'")
  else .ok ()

/-- `run`. -/
def run (a : RunArgs) : Prog CoordinatorResult := do
  .ofExcept (checkInputs a.initialInputs)
  call (.setInitialInputs a.initialInputs)
  let plan ← planTask cfg a
  call (.updateTaskState a.taskRunId .running)
  let ending ← (executePlan cfg a plan).tryCatch (failTask cfg a)
  finishRun cfg a plan ending

end Engine

end Orchestra
