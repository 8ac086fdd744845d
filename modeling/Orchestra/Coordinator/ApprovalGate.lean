import Orchestra.Coordinator.ApprovalStore

/-!
# The approval gate of the coordinator

A run stops at its approval node. The default handler creates the persistent row of the gate when
the coordinator has an approval service and a tenant, registers an event together with a payload,
and waits. `decideApproval` looks the registration up, records the decision, writes it into the
payload and sets the event; the run then reads the payload and goes on to `write_sink` or is
cancelled. Without a service, without a tenant or when the row cannot be created, the gate is in
memory only and every decision is written into the payload.

Several coordinators may share the database. Each has its own registrations, and a coordinator that
stops takes its registrations and its runs with it. One step is what happens in one process without
suspension: a coroutine between two awaits, or one transaction.
-/

namespace Orchestra

open EventStore

/-! ## The state of a coordinator -/

/-- A result of `new_id`, which is not empty. -/
abbrev NewId := { id : String // id ≠ "" }

/-- The dictionary an approval handler waits on and returns. -/
structure Bucket where
  requestedAt : Timestamp
  taskRunId : String
  nodeId : String
  request : List (String × Json) := []
  approvalId : Option String := none
  decision : Option String := none
  decidedBy : Option String := none
  decidedAt : Option Timestamp := none
  rationale : Option String := none
  version : Option ℕ := none
  reloaded : Bool := false

/-- An event and its payload. They are shared by the registration and the coroutine that waits, so
both refer to them by their number. -/
structure Handle where
  isSet : Bool := false
  bucket : Bucket

/-- The task run and the node of the gate. -/
def Handle.key (h : Handle) : String × String := (h.bucket.taskRunId, h.bucket.nodeId)

/-- An item of `_approval_events`. -/
structure Registration where
  key : String × String
  handle : ℕ

/-- Where a run is, from its approval node on. -/
inductive GatePhase where
  | waiting (handle : ℕ)
  /-- The run has gone on to `write_sink`, with this payload. -/
  | writeSink (approval : Bucket)
  | cancelled
  | failed

structure GateRun where
  taskRunId : String
  phase : GatePhase

structure Coordinator where
  tenantId : Option String
  hasApprovalService : Bool
  approvalEvents : KeyedTable Registration.key := .empty
  handles : List Handle := []
  runs : List GateRun := []

namespace Coordinator

/-- The tenant under which the coordinator uses its approval service, if it does. -/
def approvalTenant (co : Coordinator) : Option String :=
  if co.hasApprovalService then co.tenantId.filter fun t ↦ decide (t ≠ "") else none

/-- `_approval_events[key] = (event, bucket)`, with a new event. -/
def register (co : Coordinator) (handle : Handle) : Coordinator :=
  { co with
    approvalEvents := co.approvalEvents.put ⟨handle.key, co.handles.length⟩
    handles := co.handles ++ [handle] }

/-- An assignment to an event or its payload. -/
def setHandle (co : Coordinator) (i : ℕ) (handle : Handle) : Coordinator :=
  { co with handles := co.handles.set i handle }

/-! ## The default approval handler -/

/-- What the environment supplies to a handler. -/
structure HandlerEnv where
  now : Timestamp
  rowId : NewId
  legacyId : NewId
  choice : ℕ := 0
  createRaises : Bool := false
  saveRaises : Bool := false
  emitRaises : Bool := false

/-- The identifier of a new row. -/
def newApprovalId (id : NewId) : String := "apv:" ++ id.1

theorem newApprovalId_ne_empty (id : NewId) : newApprovalId id ≠ "" := by
  intro h
  have := congrArg String.length h
  simp [newApprovalId] at this

/-- The values a payload keeps of the node's inputs. -/
def isScalar : Json → Bool
  | .str _ | .int _ | .float _ | .bool _ => true
  | _ => false

/-- The arguments of the handler's `create_for_node`. -/
def nodeApproval (env : HandlerEnv) (tenantId taskRunId nodeId : String) : CreateApproval where
  taskRunId := taskRunId
  nodeId := nodeId
  tenantId := tenantId
  requestedBy := "engine"
  approvalId := newApprovalId env.rowId
  now := env.now
  choice := env.choice

/-- `create_for_node` as the handler calls it: an exception means no row. -/
def createForNode (env : HandlerEnv) (t : ApprovalTables) (tenantId taskRunId nodeId : String) :
    Option (ApprovalTables × Approval) :=
  if env.createRaises then none
  else
    match createApproval t (nodeApproval env tenantId taskRunId nodeId) with
    | .ok created => some created
    | .error _ => none

/-- The row `save_approval` inserts: the columns of the persistent workflow have their defaults. -/
def legacyRow (approvalId taskRunId nodeId : String) (requestedAt : Timestamp)
    (decidedAt : Option Timestamp) : Approval where
  approvalId := approvalId
  taskRunId := taskRunId
  nodeId := nodeId
  requestedAt := requestedAt
  decidedAt := decidedAt

def saveApproval (raises : Bool) (t : ApprovalTables) (row : Approval) :
    Except StoreError ApprovalTables :=
  if raises then .error .unavailable
  else
    match t.insertApproval row with
    | none => .error .uniqueViolation
    | some t' => .ok t'

/-- The payload of a new gate. -/
def newBucket (env : HandlerEnv) (taskRunId nodeId : String) (requestPayload : List (String × Json))
    (approvalId : Option String) : Bucket where
  requestedAt := env.now
  taskRunId := taskRunId
  nodeId := nodeId
  request := requestPayload.filter fun p ↦ isScalar p.2
  approvalId := approvalId

/-- `_default_approval_handler`, up to the point where it waits: the number of its event, or the
exception that ends it. -/
def defaultApprovalHandler (env : HandlerEnv) (t : ApprovalTables) (co : Coordinator)
    (taskRunId nodeId : String) (requestPayload : List (String × Json)) :
    ApprovalTables × Coordinator × Except StoreError ℕ :=
  let created := co.approvalTenant.bind fun tenantId ↦
    createForNode env t tenantId taskRunId nodeId
  let t' := (created.map Prod.fst).getD t
  let approvalId := created.map fun c ↦ c.2.approvalId
  let co' := co.register { bucket := newBucket env taskRunId nodeId requestPayload approvalId }
  -- without a persistent row the audit row is written as before
  let saved := if approvalId.isSome then .ok t'
    else saveApproval env.saveRaises t' (legacyRow env.legacyId.1 taskRunId nodeId env.now none)
  match saved with
  | .error e => (t', co', .error e)
  | .ok t'' => (t'', co', if env.emitRaises then .error .unavailable else .ok co.handles.length)

def humanApproval : String := "human_approval"

/-- `run` reaches its approval node, with the output of `merge`. -/
def enterGate (env : HandlerEnv) (t : ApprovalTables) (co : Coordinator) (taskRunId : String)
    (merge : List (String × Json)) : ApprovalTables × Coordinator :=
  let (t', co', result) := defaultApprovalHandler env t co taskRunId humanApproval merge
  let phase := match result with
    | .ok handle => GatePhase.waiting handle
    | .error _ => .failed
  (t', { co' with runs := co'.runs ++ [⟨taskRunId, phase⟩] })

/-! ## Deciding -/

/-- What the environment supplies to a decision. -/
structure DecideEnv where
  now : Timestamp
  decisionId : String
  legacyId : NewId
  decideRaises : Bool := false
  saveRaises : Bool := false

inductive GateError where
  | noPendingApproval (message : String)
  | store (e : StoreError)
  deriving DecidableEq

/-- The decision as it is written into the payload. -/
def decideBucket (env : DecideEnv) (decision decidedBy rationale : String) (b : Bucket) : Bucket :=
  { b with
    decision := some decision
    decidedBy := some decidedBy
    decidedAt := some env.now
    rationale := some rationale }

/-- The call of `ApprovalService.decide`. -/
def serviceCall (env : DecideEnv) (approvalId tenantId decision decidedBy rationale : String) :
    DecisionCall where
  approvalId := approvalId
  decision := decision
  decidedBy := decidedBy
  identityTenantId := tenantId
  rationale := rationale
  decisionId := env.decisionId
  now := env.now

/-- The tenant and the row of the persistent path, when the gate is on it. -/
def persistentPath (co : Coordinator) (b : Bucket) : Option (String × String) :=
  match co.approvalTenant, b.approvalId with
  | some tenantId, some approvalId => if approvalId = "" then none else some (tenantId, approvalId)
  | _, _ => none

/-- The persistent path: the compare-and-set, and the payload when it is applied. A call that loses
returns without an error. -/
def decidePersistent (env : DecideEnv) (t : ApprovalTables) (co : Coordinator) (i : ℕ) (h : Handle)
    (call : DecisionCall) : ApprovalTables × Coordinator × Except GateError Unit :=
  if env.decideRaises then (t, co, .error (.store .unavailable))
  else
    match recordApprovalDecision t call with
    | .error e => (t, co, .error (.store e))
    -- the call lost: neither an error nor a wake-up
    | .ok (t', .refused _) => (t', co, .ok ())
    -- the state the row moves to is not looked at
    | .ok (t', .applied _ version _ _) =>
      (t', co.setHandle i ⟨true, { decideBucket env call.decision call.decidedBy call.rationale
        h.bucket with version := some version }⟩, .ok ())

/-- The legacy path: the payload, the row of the decision, the event. -/
def decideLegacy (env : DecideEnv) (t : ApprovalTables) (co : Coordinator) (i : ℕ) (h : Handle)
    (key : String × String) (decision decidedBy rationale : String) :
    ApprovalTables × Coordinator × Except GateError Unit :=
  let bucket := decideBucket env decision decidedBy rationale h.bucket
  match saveApproval env.saveRaises t
    (legacyRow env.legacyId.1 key.1 key.2 h.bucket.requestedAt (some env.now)) with
  -- the payload has been written by then
  | .error e => (t, co.setHandle i ⟨h.isSet, bucket⟩, .error (.store e))
  | .ok t' => (t', co.setHandle i ⟨true, bucket⟩, .ok ())

/-- The registered event of a gate. -/
def registered (co : Coordinator) (key : String × String) : Option (ℕ × Handle) :=
  (co.approvalEvents.find? key).bind fun r ↦ (co.handles[r.handle]?).map fun h ↦ (r.handle, h)

/-- `decide_approval`. -/
def decideApproval (env : DecideEnv) (t : ApprovalTables) (co : Coordinator)
    (key : String × String) (decision decidedBy rationale : String) :
    ApprovalTables × Coordinator × Except GateError Unit :=
  match co.registered key with
  | none => (t, co, .error (.noPendingApproval
      ("no pending approval for (" ++ pyRepr key.1 ++ ", " ++ pyRepr key.2 ++ ")")))
  | some (i, h) =>
    match co.persistentPath h.bucket with
    | some (tenantId, approvalId) =>
      decidePersistent env t co i h
        (serviceCall env approvalId tenantId decision decidedBy rationale)
    | none => decideLegacy env t co i h key decision decidedBy rationale

/-! ## The endpoints -/

/-- The two decisions the API offers. -/
inductive Verdict where
  | approve | reject
  deriving DecidableEq

def Verdict.decision : Verdict → String
  | .approve => "approve"
  | .reject => "reject"

theorem Verdict.decision_cases (verdict : Verdict) :
    verdict.decision = "approve" ∨ verdict.decision = "reject" := by
  cases verdict
  · exact Or.inl rfl
  · exact Or.inr rfl

def Verdict.status : Verdict → String
  | .approve => "approved"
  | .reject => "rejected"

/-- The answer of an endpoint. -/
inductive Answer where
  | status (s : String)
  | httpError (code : ℕ) (detail : GateError)
  deriving DecidableEq

/-- The `approve` and `reject` endpoints. -/
def endpoint (env : DecideEnv) (t : ApprovalTables) (co : Coordinator) (verdict : Verdict)
    (taskRunId decidedBy rationale : String) : ApprovalTables × Coordinator × Answer :=
  match decideApproval env t co (taskRunId, humanApproval) verdict.decision decidedBy rationale with
  | (t', co', .ok ()) => (t', co', .status verdict.status)
  | (t', co', .error e) => (t', co', .httpError 400 e)

/-! ## Going on -/

/-- The payload a run reads once its event is set. -/
def wakes (co : Coordinator) (i : ℕ) : Option (GateRun × Bucket) :=
  match co.runs[i]? with
  | some ⟨taskRunId, .waiting h⟩ =>
    match co.handles[h]? with
    | some handle => if handle.isSet then some (⟨taskRunId, .waiting h⟩, handle.bucket) else none
    | none => none
  | _ => none

/-- What a run does with its payload; emitting the outcome of the gate may raise. -/
def afterGate (emitRaises : Bool) (b : Bucket) : GatePhase :=
  if emitRaises then .failed
  else if b.decision = some "approve" then .writeSink b else .cancelled

/-- The coroutine of a run continues, if its event is set. -/
def resume (co : Coordinator) (i : ℕ) (emitRaises : Bool) : Coordinator :=
  match co.wakes i with
  | none => co
  | some (r, b) => { co with runs := co.runs.set i ⟨r.taskRunId, afterGate emitRaises b⟩ }

/-! ## Starting -/

/-- `list_approvals_for_tenant(tenant_id, state="pending")`. -/
def pendingForTenant (t : ApprovalTables) (tenantId : String) : List Approval :=
  (t.approvals.rows.filter fun r ↦
      decide (r.tenantId = tenantId ∧ r.state = .pending)).insertionSort
    fun r r' ↦ r.requestedAt ≤ r'.requestedAt

/-- The payload of a reloaded row. -/
def reloadedBucket (row : Approval) : Bucket where
  requestedAt := row.requestedAt
  taskRunId := row.taskRunId
  nodeId := row.nodeId
  approvalId := some row.approvalId
  reloaded := true

/-- One round of the reload loop. -/
def reloadRow (co : Coordinator) (row : Approval) : Coordinator :=
  if row.taskRunId = "" ∨ row.nodeId = "" then co
  -- the first row of a gate keeps the registration
  else if (co.approvalEvents.find? (row.taskRunId, row.nodeId)).isSome then co
  else co.register { bucket := reloadedBucket row }

/-- `_reload_pending_approvals`. -/
def reloadPendingApprovals (t : ApprovalTables) (raises : Bool) (co : Coordinator) : Coordinator :=
  match co.approvalTenant with
  | none => co
  | some tenantId => if raises then co else (pendingForTenant t tenantId).foldl reloadRow co

/-- `Coordinator(…)`. -/
def start (t : ApprovalTables) (tenantId : Option String) (hasApprovalService reloadRaises : Bool) :
    Coordinator :=
  reloadPendingApprovals t reloadRaises
    { tenantId := tenantId, hasApprovalService := hasApprovalService }

end Coordinator

/-! ## Coordinators that share a database -/

/-- The approvals in the database and the processes; a process that has stopped is `none`. -/
structure GateSystem where
  approvals : ApprovalTables := .empty
  coordinators : List (Option Coordinator) := []

inductive GateAction where
  | start (tenantId : Option String) (hasApprovalService reloadRaises : Bool)
  | stop (c : ℕ)
  | enterGate (c : ℕ) (env : Coordinator.HandlerEnv) (taskRunId : String)
    (merge : List (String × Json))
  | resume (c i : ℕ) (emitRaises : Bool)
  /-- A call of `Coordinator.decide_approval`. -/
  | decide (c : ℕ) (env : Coordinator.DecideEnv) (key : String × String)
    (decision decidedBy rationale : String)
  /-- A request to one of the two endpoints. -/
  | endpoint (c : ℕ) (env : Coordinator.DecideEnv) (verdict : Coordinator.Verdict)
    (taskRunId decidedBy rationale : String)
  /-- A call of `ApprovalService.decide`. -/
  | serviceDecide (call : DecisionCall)
  /-- A call of `ApprovalService.create_for_node`. -/
  | createForNode (id : NewId) (c : CreateApproval)

namespace GateSystem

/-- A process that is running. -/
def live (s : GateSystem) (c : ℕ) : Option Coordinator := (s.coordinators[c]?).join

/-- A step of one process. -/
def put (s : GateSystem) (c : ℕ) (r : ApprovalTables × Coordinator) : GateSystem :=
  ⟨r.1, s.coordinators.set c (some r.2)⟩

def step (s : GateSystem) : GateAction → GateSystem
  | .start tenantId hasApprovalService reloadRaises =>
    { s with
      coordinators := s.coordinators ++
        [some (Coordinator.start s.approvals tenantId hasApprovalService reloadRaises)] }
  | .stop c => { s with coordinators := s.coordinators.set c none }
  | .enterGate c env taskRunId merge =>
    match s.live c with
    | none => s
    | some co => s.put c (co.enterGate env s.approvals taskRunId merge)
  | .resume c i emitRaises =>
    match s.live c with
    | none => s
    | some co => s.put c (s.approvals, co.resume i emitRaises)
  | .decide c env key decision decidedBy rationale =>
    match s.live c with
    | none => s
    | some co =>
      let r := co.decideApproval env s.approvals key decision decidedBy rationale
      s.put c (r.1, r.2.1)
  | .endpoint c env verdict taskRunId decidedBy rationale =>
    match s.live c with
    | none => s
    | some co =>
      let r := co.endpoint env s.approvals verdict taskRunId decidedBy rationale
      s.put c (r.1, r.2.1)
  | .serviceDecide call => { s with approvals := decideStep s.approvals call }
  | .createForNode id c =>
    match createApproval s.approvals { c with approvalId := Coordinator.newApprovalId id } with
    | .ok (t, _) => { s with approvals := t }
    | .error _ => s

/-! ### Values for concrete runs -/

def sampleHandlerEnv : Coordinator.HandlerEnv where
  now := 0
  rowId := ⟨"1", by decide⟩
  legacyId := ⟨"2", by decide⟩

def sampleDecideEnv (decisionId : String) : Coordinator.DecideEnv where
  now := 1
  decisionId := decisionId
  legacyId := ⟨"3", by decide⟩

def sampleGate : String × String := ("task-1", Coordinator.humanApproval)

end GateSystem

end Orchestra
