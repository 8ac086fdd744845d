import Orchestra.Core.Schema
import Orchestra.Foundation.KeyedTable

/-!
# The tables of the event store

Rows and constraints of the PostgreSQL schema. Enumerated `TEXT` columns are enumerations, and a
column that no modelled statement reads is left out.

A constraint is part of the type of the tables it ranges over. Primary keys come with `KeyedTable`;
where a table has a second unique key or a foreign key that the program relies on, the tables are
bundled with it (`ApprovalTables`, `HoldTables`).

Every method of the store is one transaction. It is a function of the tables and of what the
database supplies: the transaction's clock, and the fresh identifiers of the rows it may insert. A
method that raises is an `Except.error`, and leaves nothing behind because the transaction is
rolled back.
-/

namespace Orchestra

/-- A `TIMESTAMPTZ`, in microseconds since 1970. -/
abbrev Timestamp := ℤ

/-- `n` seconds as a difference of timestamps. -/
def seconds (n : ℤ) : ℤ := n * 1000000

/-- What makes a transaction raise. -/
inductive StoreError where
  | uniqueViolation
  | foreignKeyViolation
  | lookupError (message : String)
  | contractViolation (message : String)
  | typeError
  /-- An exception that comes from outside the statements: the connection, a driver error. -/
  | unavailable
  deriving DecidableEq

/-! ## Task runs, events and receipts -/

inductive TaskRunState where
  | created | planned | running | awaitingApproval | succeeded | failed | cancelled
  deriving DecidableEq

structure TaskRun where
  taskRunId : String
  contractId : String
  templateId : String
  state : TaskRunState
  planId : Option String := none
  createdAt : Timestamp
  updatedAt : Timestamp
  /-- Added by the multi-tenant migration; the base store leaves it `NULL`. -/
  tenantId : Option String := none
  deriving DecidableEq

inductive NodeRunState where
  | pending | running | awaitingApproval | succeeded | failed | cancelled
  deriving DecidableEq

structure NodeRun where
  nodeRunId : String
  taskRunId : String
  nodeId : String
  state : NodeRunState
  capabilityId : Option String := none
  manifestId : Option String := none
  startedAt : Option Timestamp := none
  endedAt : Option Timestamp := none
  output : Option Json := none
  deriving DecidableEq

inductive EventKind where
  | taskReceived | planCreated | planSigned | nodeStarted | nodeAwaitingApproval | nodeApproved
  | nodeRejected | nodeSucceeded | nodeFailed | taskCompleted | taskFailed
  | ioIntent | ioSent | ioReceived | externalOutcome
  | policyDecision | routingDecision | grantIssued | receiptSigned | fallbackTriggered
  | breakGlassRequested | breakGlassFirstApproved | breakGlassActive | breakGlassExpired
  | breakGlassRevoked
  | holdCreated | holdReleased | deletionRequested | deletionCompleted | deletionPartial
  | deletionBlocked | deletionFailed
  deriving DecidableEq

def EventKind.value : EventKind → String
  | .taskReceived => "task.received"
  | .planCreated => "plan.created"
  | .planSigned => "plan.signed"
  | .nodeStarted => "node.started"
  | .nodeAwaitingApproval => "node.awaiting-approval"
  | .nodeApproved => "node.approved"
  | .nodeRejected => "node.rejected"
  | .nodeSucceeded => "node.succeeded"
  | .nodeFailed => "node.failed"
  | .taskCompleted => "task.completed"
  | .taskFailed => "task.failed"
  | .ioIntent => "io.intent"
  | .ioSent => "io.sent"
  | .ioReceived => "io.received"
  | .externalOutcome => "external.outcome"
  | .policyDecision => "policy.decision"
  | .routingDecision => "routing.decision"
  | .grantIssued => "grant.issued"
  | .receiptSigned => "receipt.signed"
  | .fallbackTriggered => "fallback.triggered"
  | .breakGlassRequested => "break_glass.requested"
  | .breakGlassFirstApproved => "break_glass.first_approved"
  | .breakGlassActive => "break_glass.active"
  | .breakGlassExpired => "break_glass.expired"
  | .breakGlassRevoked => "break_glass.revoked"
  | .holdCreated => "hold.created"
  | .holdReleased => "hold.released"
  | .deletionRequested => "deletion.requested"
  | .deletionCompleted => "deletion.completed"
  | .deletionPartial => "deletion.partial"
  | .deletionBlocked => "deletion.blocked"
  | .deletionFailed => "deletion.failed"

structure AuditEvent where
  eventId : String
  seq : ℤ := 0
  taskRunId : Option String := none
  nodeRunId : Option String := none
  kind : EventKind
  occurredAt : Timestamp
  actor : String := "orchestra"
  payload : Json := .obj []
  prevEventId : Option String := none
  /-- Added by the multi-tenant migration. -/
  tenantId : Option String := none
  deriving DecidableEq

structure Receipt where
  receiptId : String
  taskRunId : String
  nodeRunId : String
  nodeId : String
  envelope : Json
  createdAt : Timestamp
  /-- Added by the multi-tenant migration. -/
  tenantId : Option String := none
  deriving DecidableEq

/-! ## Approvals -/

inductive ApprovalState where
  | pending | approved | rejected | expired | firstApproved
  deriving DecidableEq

/-- The JSON object in `approvals.decision_payload`. -/
structure DecisionPayload where
  decision : String
  by_ : String
  rationale : String
  deriving DecidableEq

structure Approval where
  approvalId : String
  taskRunId : String
  nodeId : String
  requestedAt : Timestamp
  decidedAt : Option Timestamp := none
  tenantId : String := ""
  version : ℕ := 0
  state : ApprovalState := .pending
  requiredApprovers : ℤ := 1
  requestedBy : String := ""
  ticket : Option String := none
  decisionPayload : Option DecisionPayload := none
  deriving DecidableEq

/-- A row of the append-only approver log. -/
structure ApprovalDecision where
  decisionId : String
  approvalId : String
  decisionSeq : ℕ
  decidedBy : String
  decidedAt : Timestamp
  decision : String
  rationale : String
  identityTenant : String
  deriving DecidableEq

/-- The approvals and the log of their decisions: a decision refers to an approval, and the
decisions of one approval have distinct sequence numbers. -/
structure ApprovalTables where
  approvals : KeyedTable Approval.approvalId
  decisions : KeyedTable ApprovalDecision.decisionId
  references : ∀ d ∈ decisions.rows, (approvals.find? d.approvalId).isSome
  seq_nodup : (decisions.rows.map fun d ↦ (d.approvalId, d.decisionSeq)).Nodup

/-! ## Break-glass requests -/

inductive BreakGlassState where
  | requested | firstApproved | active | expired | revoked
  deriving DecidableEq

structure BreakGlassRequest where
  requestId : String
  tenantId : String
  taskRunId : Option String
  purpose : String
  effect : Json
  resourceScope : Json
  ticket : Option String
  requestedBy : String
  requestedAt : Timestamp
  state : BreakGlassState := .requested
  firstApprover : Option String := none
  firstApprovedAt : Option Timestamp := none
  secondApprover : Option String := none
  secondApprovedAt : Option Timestamp := none
  windowSeconds : ℤ := 900
  activatedAt : Option Timestamp := none
  expiresAt : Option Timestamp := none
  revokedBy : Option String := none
  revokedAt : Option Timestamp := none
  revokeReason : Option String := none
  deriving DecidableEq

/-! ## Retention, legal holds and deletion jobs -/

inductive ResourceKind where
  | artifact | receipt | event | webhook | cache | backup
  deriving DecidableEq

structure LifecyclePolicy where
  policyId : String
  tenantId : String
  resourceKind : ResourceKind
  retentionSeconds : ℤ
  autoDelete : Bool
  createdAt : Timestamp
  deriving DecidableEq

structure LegalHold where
  holdId : String
  tenantId : String
  caseId : String
  reason : String
  createdAt : Timestamp
  createdBy : String
  releasedAt : Option Timestamp := none
  releasedBy : Option String := none
  releaseReason : Option String := none
  deriving DecidableEq

structure LegalHoldResource where
  holdId : String
  resourceKind : ResourceKind
  resourceId : String
  deriving DecidableEq

/-- The holds and the resources they list: a tenant has one hold for a case, and a listed resource
belongs to a hold. -/
structure HoldTables where
  holds : KeyedTable LegalHold.holdId
  resources : KeyedTable (id : LegalHoldResource → LegalHoldResource)
  case_nodup : (holds.rows.map fun h ↦ (h.tenantId, h.caseId)).Nodup
  references : ∀ r ∈ resources.rows, (holds.find? r.holdId).isSome

inductive DeletionState where
  | pending | running | deleted | partial_ | failed | held
  deriving DecidableEq

/-- Per-job record of what was deleted and what remained. -/
structure DeletionEvidence where
  deletionId : String
  copiesDeleted : ℕ := 0
  copiesKept : ℕ := 0
  keptResources : List (List (String × String)) := []
  payloadDigest : Option String := none
  completedAt : Timestamp
  deriving DecidableEq

structure DeletionJob where
  jobId : String
  tenantId : String
  resourceKind : ResourceKind
  resourceId : String
  state : DeletionState := .pending
  attempt : ℤ := 0
  maxAttempts : ℤ := 3
  requestedAt : Timestamp
  requestedBy : String
  completedAt : Option Timestamp := none
  lastError : Option String := none
  deletionEvidence : Option DeletionEvidence := none
  deriving DecidableEq

/-- What a deletion job is unique for. -/
def DeletionJob.resource (j : DeletionJob) : String × ResourceKind × String :=
  (j.tenantId, j.resourceKind, j.resourceId)

/-- The deletion jobs: one for each resource of a tenant. -/
structure JobTable where
  jobs : KeyedTable DeletionJob.jobId
  resource_nodup : (jobs.rows.map DeletionJob.resource).Nodup

/-! ## The database -/

def ApprovalTables.empty : ApprovalTables := ⟨.empty, .empty, nofun, List.nodup_nil⟩

def HoldTables.empty : HoldTables := ⟨.empty, .empty, List.nodup_nil, nofun⟩

def JobTable.empty : JobTable := ⟨.empty, List.nodup_nil⟩

/-- The state the components share. -/
structure Database where
  taskRuns : KeyedTable TaskRun.taskRunId := .empty
  nodeRuns : KeyedTable NodeRun.nodeRunId := .empty
  events : KeyedTable AuditEvent.eventId := .empty
  receipts : KeyedTable Receipt.receiptId := .empty
  grants : KeyedTable NodeGrant.grantId := .empty
  approvals : ApprovalTables := .empty
  breakGlass : KeyedTable BreakGlassRequest.requestId := .empty
  policies : KeyedTable (fun p : LifecyclePolicy ↦ (p.tenantId, p.resourceKind)) := .empty
  holds : HoldTables := .empty
  jobs : JobTable := .empty

end Orchestra
