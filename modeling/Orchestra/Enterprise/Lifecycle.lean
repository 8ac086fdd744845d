import Orchestra.Core.Exceptions
import Orchestra.Core.Hashing
import Orchestra.Coordinator.LifecycleStore

/-!
# The lifecycle manager

The manager is the one way to delete an artifact, a receipt, an event payload or a webhook delivery.
`delete` checks the holds and the retention policy and leaves a job; `executeDeletion` runs the
adapter of the job's kind and records what was removed and what remained; `retryDeletion` runs a job
again.

The database is shared with the rest of the system. Artifacts and webhook deliveries live in the
process, in stores that may not be wired. What the environment contributes to a call, the clock,
fresh identifiers and the exceptions of its statements, is an argument.
-/

namespace Orchestra

/-! ## What the manager works on -/

/-- An entry of the in-process artifact store. -/
structure Artifact where
  artifactId : String
  payload : Json
  deriving DecidableEq

/-- An entry of the in-process delivery history. -/
structure WebhookDelivery where
  deliveryId : String
  taskRunId : String
  state : String
  deriving DecidableEq

/-- The database and the in-process stores; a store that is not wired is `none`. -/
structure LifecycleWorld where
  db : Database
  artifacts : Option (KeyedTable Artifact.artifactId) := none
  webhooks : Option (KeyedTable WebhookDelivery.deliveryId) := none

/-- Which statements of a call raise. -/
structure LifecycleFaults where
  /-- The insertion of the audit event. -/
  audit : Bool := false
  /-- The update of a job back to pending. -/
  reset : Bool := false
  /-- The update of a job to running. -/
  mark : Bool := false
  /-- The update of a job with its outcome. -/
  record : Bool := false
  /-- The lookup of the receipt. -/
  getReceipt : Option Raised := none
  /-- The removal of the receipt, the artifact or the webhook delivery. -/
  remove : Option String := none
  /-- The scan of the events. -/
  scan : Option String := none
  /-- The redaction of an event. -/
  redact : String → Option String := fun _ ↦ none

/-- What the environment supplies to one call. -/
structure LifecycleEnv where
  now : Timestamp
  occurredAt : Timestamp
  /-- The identifier of the hold or of the job the call may create. -/
  freshId : String := ""
  auditId : String
  evidenceId : String := ""
  faults : LifecycleFaults := {}

inductive LifecycleError where
  | valueError (message : String)
  | crossTenant (expected actual : String)
  | blocked (holdId caseId : String) (kind : ResourceKind) (resourceId : String)
  | retained (kind : ResourceKind) (resourceId reason : String)
  | store (e : StoreError)
  deriving DecidableEq

/-- The arguments of `create_hold`. -/
structure CreateHold where
  tenantId : String
  caseId : String
  reason : String
  createdBy : String
  resourceKinds : List ResourceKind := []
  resourceIds : List String := []
  identityTenantId : Option String := none

/-- The arguments of `delete`. -/
structure DeleteRequest where
  tenantId : String
  resourceKind : ResourceKind
  resourceId : String
  requestedBy : String
  identityTenantId : Option String := none
  force : Bool := false

/-- The resource the request names. -/
def DeleteRequest.resource (r : DeleteRequest) : String × ResourceKind × String :=
  (r.tenantId, r.resourceKind, r.resourceId)

namespace LifecycleManager

open EventStore

/-- The identity is that of the tenant, when one is given. -/
def crossTenant (tenantId : String) (identityTenantId : Option String) : Option LifecycleError :=
  identityTenantId.bind fun actual ↦
    if actual = tenantId then none else some (.crossTenant tenantId actual)

/-- `_emit_audit`: an event of no task, written best effort. -/
def emitAudit (env : LifecycleEnv) (w : LifecycleWorld) (kind : EventKind) (actor : String)
    (payload : List (String × Json)) : LifecycleWorld :=
  if env.faults.audit then w
  else
    match insertEvent w.db
        { eventId := env.auditId, kind := kind, occurredAt := env.occurredAt, actor := actor,
          payload := .obj payload } with
    | .ok db => { w with db := db }
    | .error _ => w

/-- An audit event is appended, or nothing is changed. -/
theorem emitAudit_cases (env : LifecycleEnv) (w : LifecycleWorld) (kind : EventKind)
    (actor : String) (payload : List (String × Json)) :
    emitAudit env w kind actor payload = w ∨
      ∃ events, w.db.events.insert
          { eventId := env.auditId, kind := kind, occurredAt := env.occurredAt, actor := actor,
            payload := .obj payload } = some events ∧
        emitAudit env w kind actor payload = { w with db := { w.db with events := events } } := by
  rw [emitAudit]
  split
  · exact Or.inl rfl
  split
  · next db h =>
    obtain ⟨events, hins, rfl⟩ := insertEvent_cases h
    exact Or.inr ⟨events, hins, rfl⟩
  · exact Or.inl rfl

/-! ## Policies -/

def setPolicy (env : LifecycleEnv) (w : LifecycleWorld) (tenantId : String) (kind : ResourceKind)
    (retentionSeconds : ℤ) (autoDelete : Bool) : LifecycleWorld × Except LifecycleError Unit :=
  if retentionSeconds ≤ 0 then
    (w, .error (.valueError ("retention_seconds must be a positive integer, got " ++
      toString retentionSeconds)))
  else
    ({ w with
      db := upsertLifecyclePolicy w.db
        { policyId := env.freshId, tenantId := tenantId, resourceKind := kind,
          retentionSeconds := retentionSeconds, autoDelete := autoDelete, createdAt := env.now } },
      .ok ())

/-! ## Holds -/

/-- The pairs a hold lists; without kinds or without identifiers it is tenant-wide. -/
def resourcePairs (a : CreateHold) : List (ResourceKind × String) :=
  if a.resourceKinds = [] ∨ a.resourceIds = [] then [] else a.resourceKinds.zip a.resourceIds

/-- The checks of `create_hold`. -/
def createHoldError (a : CreateHold) : Option LifecycleError :=
  if pyStrip a.caseId = "" then some (.valueError "case_id must be a non-empty string")
  else
    match crossTenant a.tenantId a.identityTenantId with
    | some e => some e
    | none =>
      if a.resourceKinds ≠ [] ∧ a.resourceIds ≠ [] ∧
          a.resourceKinds.length ≠ a.resourceIds.length then
        some (.valueError "resource_kinds and resource_ids must be the same length")
      else none

/-- The row of the hold that `create_hold` makes. -/
def newHold (env : LifecycleEnv) (a : CreateHold) : LegalHold where
  holdId := env.freshId
  tenantId := a.tenantId
  caseId := pyStrip a.caseId
  reason := a.reason
  createdAt := env.now
  createdBy := a.createdBy

def createHold (env : LifecycleEnv) (w : LifecycleWorld) (a : CreateHold) :
    LifecycleWorld × Except LifecycleError LegalHold :=
  match createHoldError a with
  | some e => (w, .error e)
  | none =>
    match createLegalHold w.db.holds (newHold env a) (resourcePairs a) with
    | .error e => (w, .error (.store e))
    | .ok holds =>
      (emitAudit env { w with db := { w.db with holds := holds } } .holdCreated a.createdBy
        [("hold_id", .str env.freshId), ("tenant_id", .str a.tenantId),
          ("case_id", .str (pyStrip a.caseId)), ("reason", .str a.reason),
          ("resource_count", .int (resourcePairs a).length)], .ok (newHold env a))

/-- `release_hold`. A refusal other than a foreign tenant is returned, not raised. -/
def releaseHold (env : LifecycleEnv) (w : LifecycleWorld)
    (holdId releasedBy identityTenantId reason : String) :
    LifecycleWorld × Except LifecycleError (Option ReleaseRefusal) :=
  match releaseLegalHold w.db.holds holdId releasedBy identityTenantId reason env.now with
  | .error .crossTenant => (w, .error (.crossTenant "<resource_tenant>" identityTenantId))
  | .error refusal => (w, .ok (some refusal))
  | .ok holds =>
    (emitAudit env { w with db := { w.db with holds := holds } } .holdReleased releasedBy
      [("hold_id", .str holdId), ("released_by", .str releasedBy), ("reason", .str reason)],
      .ok none)

/-- `_find_holding_hold`: the first active hold that is tenant-wide or lists the resource. -/
def findHoldingHold (t : HoldTables) (tenantId : String) (kind : ResourceKind)
    (resourceId : String) : Option (String × String) :=
  ((listActiveHolds t tenantId).find? fun h ↦ tenantWide t h || lists t h kind resourceId).map
    fun h ↦ (h.holdId, h.caseId)

/-! ## Requesting a deletion -/

/-- The policy retains the resource. -/
def retained (db : Database) (tenantId : String) (kind : ResourceKind) (force : Bool) : Bool :=
  (getLifecyclePolicy db tenantId kind).any fun p ↦ !p.autoDelete && !force

/-- The job `delete` asks the store for. -/
def requestedJob (env : LifecycleEnv) (r : DeleteRequest) : DeletionJob where
  jobId := env.freshId
  tenantId := r.tenantId
  resourceKind := r.resourceKind
  resourceId := r.resourceId
  requestedAt := env.occurredAt
  requestedBy := r.requestedBy

/-- The fields every deletion event starts with. -/
def resourcePayload (tenantId : String) (kind : ResourceKind) (resourceId : String) :
    List (String × Json) :=
  [("tenant_id", .str tenantId), ("resource_kind", .str kind.value),
    ("resource_id", .str resourceId)]

/-- The end of `delete`, when nothing refuses the deletion. -/
def fileJob (env : LifecycleEnv) (w : LifecycleWorld) (r : DeleteRequest) :
    LifecycleWorld × Except LifecycleError DeletionJob :=
  match createDeletionJob w.db.jobs (requestedJob env r) env.now with
  | .error e => (w, .error (.store e))
  | .ok (jobs, job) => ({ w with db := { w.db with jobs := jobs } }, .ok job)

def delete (env : LifecycleEnv) (w : LifecycleWorld) (r : DeleteRequest) :
    LifecycleWorld × Except LifecycleError DeletionJob :=
  let payload := resourcePayload r.tenantId r.resourceKind r.resourceId
  match crossTenant r.tenantId r.identityTenantId with
  | some e => (w, .error e)
  | none =>
    -- the only place where the holds are read
    if isResourceHeld w.db.holds r.tenantId r.resourceKind r.resourceId then
      let hold := (findHoldingHold w.db.holds r.tenantId r.resourceKind r.resourceId).getD ("", "")
      (emitAudit env w .deletionBlocked r.requestedBy
        (payload ++ [("hold_id", .str hold.1), ("case_id", .str hold.2)]),
        .error (.blocked hold.1 hold.2 r.resourceKind r.resourceId))
    else if retained w.db r.tenantId r.resourceKind r.force then
      (emitAudit env w .deletionBlocked r.requestedBy (payload ++ [("reason", .str "retained")]),
        .error (.retained r.resourceKind r.resourceId ""))
    else
      fileJob env
        (emitAudit env w .deletionRequested r.requestedBy (payload ++ [("force", .bool r.force)])) r

/-! ## The adapters -/

/-- An entry of `kept_resources`. -/
def keptCopy (kind id reason : String) : List (String × String) :=
  [("kind", kind), ("id", id), ("reason", reason)]

/-- The evidence of an adapter, which counts the kept copies it lists. -/
def evidence (env : LifecycleEnv) (deleted : ℕ) (kept : List (List (String × String)))
    (digest : Option String) : DeletionEvidence where
  deletionId := env.evidenceId
  copiesDeleted := deleted
  copiesKept := kept.length
  keptResources := kept
  payloadDigest := digest
  completedAt := env.now

/-- `_delete_artifact`. The database has no table of artifacts. -/
def deleteArtifact (P : Primitives) (env : LifecycleEnv) (w : LifecycleWorld) (id : String) :
    LifecycleWorld × DeletionEvidence :=
  match w.artifacts with
  | none => (w, evidence env 0 [keptCopy "artifact" id "no_store_wired"] none)
  | some t =>
    let digest := (t.find? id).map fun a ↦ digestJson P a.payload
    match env.faults.remove with
    | some text => (w, evidence env 0 [keptCopy "artifact" id ("error: " ++ text)] digest)
    | none =>
      if (t.find? id).isSome then
        ({ w with artifacts := some (t.delete fun a ↦ decide (a.artifactId = id)) },
          evidence env 1 [] digest)
      else (w, evidence env 0 [keptCopy "artifact" id "already_gone"] digest)

/-- The payload of an event as the receipt adapter reads it: a falsy value counts as an empty
dictionary, and what is no dictionary is skipped. -/
def payloadDict : Json → Option Json
  | .obj fields => some (.obj fields)
  -- `e.payload or {}`
  | .null | .bool false | .int 0 | .float "0.0" | .float "-0.0" | .str "" | .arr [] =>
    some (.obj [])
  | _ => none

/-- The event refers to the receipt: its payload names the receipt, or it is the signing event of
the receipt's node run. -/
def refersTo (receiptRow : Option Receipt) (receiptId : String) (e : AuditEvent) : Bool :=
  (payloadDict e.payload).any fun p ↦
    decide (p.get? "receipt_id" = some (.str receiptId)) ||
      receiptRow.any fun r ↦ decide (e.nodeRunId = some r.nodeRunId ∧ e.kind = .receiptSigned)

/-- The redaction loop, with the copies it has to keep. -/
def redactAll (env : LifecycleEnv) :
    Database → List AuditEvent → Database × List (List (String × String))
  | db, [] => (db, [])
  | db, e :: es =>
    match env.faults.redact e.eventId with
    | none => redactAll env (redactEventPayload db e.eventId).1 es
    | some text =>
      let rest := redactAll env db es
      (rest.1, keptCopy "event_payload" e.eventId ("redact_error: " ++ text) :: rest.2)

/-- Finding the events that refer to the receipt, and redacting them. -/
def redactReferences (env : LifecycleEnv) (db : Database) (tenantId : String)
    (receiptRow : Option Receipt) (receiptId : String) :
    Database × List (List (String × String)) :=
  match env.faults.scan with
  | some text => (db, [keptCopy "events_scan" "*" ("error: " ++ text)])
  | none =>
    redactAll env db ((listEventsForResource db tenantId).filter (refersTo receiptRow receiptId))

/-- The removal of the receipt's row: how many were deleted, and what was kept. -/
def removeReceipt (env : LifecycleEnv) (db : Database) (id : String) :
    Database × ℕ × List (List (String × String)) :=
  if (getReceipt db id).isSome then
    match env.faults.remove with
    | some text => (db, 0, [keptCopy "receipt" id ("error: " ++ text)])
    | none =>
      let deleted := deleteReceipt db id
      (deleted.1, if deleted.2 then (1, [])
        else (0, [keptCopy "receipt" id "delete_returned_false"]))
  else (db, 0, [keptCopy "receipt" id "already_gone"])

/-- `_delete_receipt`. -/
def deleteReceiptCopies (P : Primitives) (env : LifecycleEnv) (w : LifecycleWorld)
    (tenantId id : String) : Except Raised (LifecycleWorld × DeletionEvidence) :=
  match env.faults.getReceipt with
  | some e => .error e
  | none =>
    let receiptRow := getReceipt w.db id
    let removed := removeReceipt env w.db id
    let redacted := redactReferences env removed.1 tenantId receiptRow id
    .ok ({ w with db := redacted.1 },
      evidence env removed.2.1 (removed.2.2 ++ redacted.2)
        (receiptRow.map fun r ↦ digestJson P r.envelope))

/-- `_delete_event_payload`. -/
def deleteEventPayload (env : LifecycleEnv) (w : LifecycleWorld) (id : String) :
    LifecycleWorld × DeletionEvidence :=
  match env.faults.redact id with
  | some text => (w, evidence env 0 [keptCopy "event" id ("error: " ++ text)] none)
  | none =>
    let redacted := redactEventPayload w.db id
    ({ w with db := redacted.1 },
      if redacted.2 then evidence env 1 [] none
      else evidence env 0 [keptCopy "event" id "not_found"] none)

/-- `_delete_webhook_delivery`. -/
def deleteWebhookDelivery (env : LifecycleEnv) (w : LifecycleWorld) (id : String) :
    LifecycleWorld × DeletionEvidence :=
  match w.webhooks with
  | none => (w, evidence env 0 [keptCopy "webhook" id "no_deleter_wired"] none)
  | some t =>
    match env.faults.remove with
    | some text => (w, evidence env 0 [keptCopy "webhook" id ("error: " ++ text)] none)
    | none =>
      if (t.find? id).isSome then
        ({ w with webhooks := some (t.delete fun d ↦ decide (d.deliveryId = id)) },
          evidence env 1 [] none)
      else (w, evidence env 0 [keptCopy "webhook" id "not_found"] none)

/-- `_run_deleter`: the adapter of the kind. There is no cache, and backups are out of scope. -/
def runDeleter (P : Primitives) (env : LifecycleEnv) (w : LifecycleWorld) (job : DeletionJob) :
    Except Raised (LifecycleWorld × DeletionEvidence) :=
  match job.resourceKind with
  | .artifact => .ok (deleteArtifact P env w job.resourceId)
  | .receipt => deleteReceiptCopies P env w job.tenantId job.resourceId
  | .event => .ok (deleteEventPayload env w job.resourceId)
  | .webhook => .ok (deleteWebhookDelivery env w job.resourceId)
  | .cache => .ok (w, evidence env 0 [] none)
  | .backup => .ok (w, evidence env 0 [keptCopy "backup" job.resourceId "out_of_scope"] none)

/-! ## Running a deletion -/

/-- An update of a job's row. -/
def updateJob (w : LifecycleWorld) (jobId : String) (now : Timestamp) (state : DeletionState)
    (lastError : Option String) (e : Option DeletionEvidence) (increment : Bool) :
    LifecycleWorld :=
  { w with
    db := { w.db with
      jobs := updateDeletionJob now state lastError e increment w.db.jobs jobId } }

/-- `_row_to_job` of the row as it is now. -/
def rowToJob (w : LifecycleWorld) (jobId : String) : Except LifecycleError DeletionJob :=
  match w.db.jobs.jobs.find? jobId with
  | some row => .ok row
  | none => .error (.store .typeError)

/-- Recording an outcome: the update of the row, the audit event, and the row that results. -/
def recordOutcome (env : LifecycleEnv) (w : LifecycleWorld) (row : DeletionJob)
    (state : DeletionState) (lastError : Option String) (e : DeletionEvidence) (increment : Bool)
    (kind : EventKind) (details : List (String × Json)) :
    LifecycleWorld × Except LifecycleError DeletionJob :=
  if env.faults.record then (w, .error (.store .unavailable))
  else
    let w' := emitAudit env (updateJob w row.jobId env.now state lastError (some e) increment) kind
      "orchestra" (resourcePayload row.tenantId row.resourceKind row.resourceId ++
        ("job_id", .str row.jobId) :: details)
    (w', rowToJob w' row.jobId)

/-- `_handle_adapter_failure`. -/
def handleAdapterFailure (env : LifecycleEnv) (w : LifecycleWorld) (row : DeletionJob)
    (exc : Raised) : LifecycleWorld × Except LifecycleError DeletionJob :=
  let attemptAfter := row.attempt + 1
  let terminal := row.maxAttempts ≤ attemptAfter
  recordOutcome env w row (if terminal then .failed else .partial_)
    (some (exc.typeName ++ ": " ++ exc.text))
    (evidence env 0 [keptCopy row.resourceKind.value row.resourceId "adapter_error"] none) true
    (if terminal then .deletionFailed else .deletionPartial)
    [("attempt", .int attemptAfter), ("error", .str exc.text)]

/-- The end of a run whose adapter returned. -/
def finishDeletion (env : LifecycleEnv) (w : LifecycleWorld) (row : DeletionJob)
    (e : DeletionEvidence) : LifecycleWorld × Except LifecycleError DeletionJob :=
  recordOutcome env w row (if e.copiesKept = 0 then .deleted else .partial_) none e false
    (if e.copiesKept = 0 then .deletionCompleted else .deletionPartial)
    [("copies_deleted", .int e.copiesDeleted), ("copies_kept", .int e.copiesKept),
      ("payload_digest", Json.ofOption e.payloadDigest)]

/-- The adapter and what follows from its result. -/
def runJob (P : Primitives) (env : LifecycleEnv) (w : LifecycleWorld) (row : DeletionJob) :
    LifecycleWorld × Except LifecycleError DeletionJob :=
  match runDeleter P env w row with
  | .error exc => handleAdapterFailure env w row exc
  | .ok (w', e) => finishDeletion env w' row e

/-- `execute_deletion`. The holds are not looked at again. -/
def executeDeletion (P : Primitives) (env : LifecycleEnv) (w : LifecycleWorld) (jobId : String) :
    LifecycleWorld × Except LifecycleError DeletionJob :=
  match w.db.jobs.jobs.find? jobId with
  | none => (w, .error (.valueError ("unknown deletion job: " ++ jobId)))
  | some row =>
    if row.state ∈ [DeletionState.deleted, .failed, .held] then (w, .ok row)
    else if env.faults.mark then (w, .error (.store .unavailable))
    else runJob P env (updateJob w jobId env.now .running none none false) row

/-- The checks of `retry_deletion`. -/
def retryError (jobId : String) (row : DeletionJob) : Option LifecycleError :=
  if row.state = .deleted then
    some (.valueError ("deletion job " ++ jobId ++ " is already terminal (deleted); no retry"))
  else if row.state = .held then
    some (.valueError ("deletion job " ++ jobId ++ " is held; release the Legal Hold first"))
  else if row.maxAttempts ≤ row.attempt ∧ row.state = .failed then
    some (.valueError ("deletion job " ++ jobId ++ " has exhausted its retry budget (" ++
      toString row.maxAttempts ++ ")"))
  else none

/-- `retry_deletion`. -/
def retryDeletion (P : Primitives) (env : LifecycleEnv) (w : LifecycleWorld) (jobId : String) :
    LifecycleWorld × Except LifecycleError DeletionJob :=
  match w.db.jobs.jobs.find? jobId with
  | none => (w, .error (.valueError ("unknown deletion job: " ++ jobId)))
  | some row =>
    match retryError jobId row with
    | some e => (w, .error e)
    | none =>
      if env.faults.reset then (w, .error (.store .unavailable))
      -- the row is pending again, so the execution runs the adapter
      else executeDeletion P env (updateJob w jobId env.now .pending none none false) jobId

end LifecycleManager

end Orchestra
