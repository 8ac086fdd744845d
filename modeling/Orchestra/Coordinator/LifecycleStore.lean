import Orchestra.Coordinator.EventLog

/-!
# Retention, legal holds and deletion jobs in the store

The statements behind the lifecycle manager. A hold and the resources it lists are inserted in one
transaction; a deletion job is unique for a tenant, kind and identifier, and creating it again
returns the job that is there.

Two statements reach beyond the lifecycle tables. `redactEventPayload` and `deleteReceipt` select
their row by its identifier alone: they take no tenant into account.
-/

namespace Orchestra

/-- The value stored in the enumerated `resource_kind` columns. -/
def ResourceKind.value : ResourceKind → String
  | .artifact => "artifact"
  | .receipt => "receipt"
  | .event => "event"
  | .webhook => "webhook"
  | .cache => "cache"
  | .backup => "backup"

namespace EventStore

/-! ## Policies -/

/-- The columns `upsert_lifecycle_policy` overwrites on a conflict. -/
def refreshPolicy (retentionSeconds : ℤ) (autoDelete : Bool) (p : LifecyclePolicy) :
    LifecyclePolicy :=
  { p with retentionSeconds := retentionSeconds, autoDelete := autoDelete }

theorem refreshPolicy_key (retentionSeconds : ℤ) (autoDelete : Bool) (p : LifecyclePolicy) :
    ((refreshPolicy retentionSeconds autoDelete p).tenantId,
      (refreshPolicy retentionSeconds autoDelete p).resourceKind) = (p.tenantId, p.resourceKind) :=
  rfl

def upsertLifecyclePolicy (db : Database) (p : LifecyclePolicy) : Database :=
  { db with
    policies := db.policies.upsert p (refreshPolicy p.retentionSeconds p.autoDelete)
      (refreshPolicy_key p.retentionSeconds p.autoDelete) }

def getLifecyclePolicy (db : Database) (tenantId : String) (kind : ResourceKind) :
    Option LifecyclePolicy :=
  db.policies.find? (tenantId, kind)

/-! ## Legal holds -/

/-- `INSERT INTO legal_holds`. -/
def insertHold (t : HoldTables) (hold : LegalHold) : Except StoreError HoldTables :=
  if hcase : (hold.tenantId, hold.caseId) ∈ t.holds.rows.map fun h ↦ (h.tenantId, h.caseId) then
    .error .uniqueViolation
  else
    match hins : t.holds.insert hold with
    | none => .error .uniqueViolation
    | some holds => .ok
        { holds := holds
          resources := t.resources
          case_nodup := by
            rw [KeyedTable.rows_of_insert hins, List.map_append, List.map_singleton]
            refine List.nodup_append.mpr ⟨t.case_nodup, List.nodup_singleton _, ?_⟩
            rintro a ha b hb rfl
            exact hcase (List.mem_singleton.mp hb ▸ ha)
          references := fun r hr ↦ by
            obtain ⟨h, hh⟩ := Option.isSome_iff_exists.mp (t.references r hr)
            rw [KeyedTable.find?_insert_of_some hins hh]
            rfl }

/-- `INSERT INTO legal_hold_resources`. -/
def insertHoldResource (t : HoldTables) (r : LegalHoldResource) : Except StoreError HoldTables :=
  if href : (t.holds.find? r.holdId).isSome then
    match hins : t.resources.insert r with
    | none => .error .uniqueViolation
    | some resources => .ok
        { t with
          resources := resources
          references := fun r' hr' ↦ by
            rw [KeyedTable.rows_of_insert hins, List.mem_append, List.mem_singleton] at hr'
            rcases hr' with hr' | rfl
            · exact t.references r' hr'
            · exact href }
  else .error .foreignKeyViolation

def createLegalHold (t : HoldTables) (hold : LegalHold) (pairs : List (ResourceKind × String)) :
    Except StoreError HoldTables := do
  let t' ← insertHold t hold
  pairs.foldlM (fun acc p ↦ insertHoldResource acc ⟨hold.holdId, p.1, p.2⟩) t'

/-- The columns a release sets. -/
def releaseRow (releasedBy reason : String) (now : Timestamp) (h : LegalHold) : LegalHold :=
  { h with releasedAt := some now, releasedBy := some releasedBy, releaseReason := some reason }

@[simp] theorem releaseRow_holdId (a b : String) (now : Timestamp) (h : LegalHold) :
    (releaseRow a b now h).holdId = h.holdId := rfl

/-- The update of a release, by the hold's identifier. -/
def updateHold (t : HoldTables) (holdId releasedBy reason : String) (now : Timestamp) :
    HoldTables where
  holds := t.holds.updateAt holdId (releaseRow releasedBy reason now)
    (releaseRow_holdId releasedBy reason now)
  resources := t.resources
  case_nodup := by
    have hmap : ((t.holds.updateAt holdId (releaseRow releasedBy reason now)
        (releaseRow_holdId releasedBy reason now)).rows.map fun h ↦ (h.tenantId, h.caseId))
          = t.holds.rows.map fun h ↦ (h.tenantId, h.caseId) := by
      rw [KeyedTable.updateAt, KeyedTable.update, List.map_map]
      refine List.map_congr_left fun h _ ↦ ?_
      simp only [Function.comp_apply]
      split <;> rfl
    rw [hmap]
    exact t.case_nodup
  references := fun r hr ↦ by
    have := t.references r hr
    rw [KeyedTable.find?_updateAt]
    split
    · rwa [Option.isSome_map]
    · exact this

/-- Why a release is not applied. -/
inductive ReleaseRefusal where
  | notFound | crossTenant | alreadyReleased
  deriving DecidableEq

/-- `release_legal_hold`. -/
def releaseLegalHold (t : HoldTables) (holdId releasedBy identityTenantId reason : String)
    (now : Timestamp) : Except ReleaseRefusal HoldTables :=
  match t.holds.find? holdId with
  | none => .error .notFound
  | some row =>
    if row.tenantId ≠ identityTenantId then .error .crossTenant
    else if row.releasedAt.isSome then .error .alreadyReleased
    else .ok (updateHold t holdId releasedBy reason now)

/-- The hold is in force for the tenant. -/
def activeFor (tenantId : String) (h : LegalHold) : Bool :=
  decide (h.tenantId = tenantId) && h.releasedAt.isNone

/-- The hold lists the resource. -/
def lists (t : HoldTables) (h : LegalHold) (kind : ResourceKind) (resourceId : String) : Bool :=
  t.resources.rows.any fun r ↦
    decide (r.holdId = h.holdId ∧ r.resourceKind = kind ∧ r.resourceId = resourceId)

/-- The hold lists no resource at all. -/
def tenantWide (t : HoldTables) (h : LegalHold) : Bool :=
  t.resources.rows.all fun r ↦ decide (r.holdId ≠ h.holdId)

/-- `is_resource_held`. The statement joins the holds with the resources they list, so a hold that
lists none does not contribute. -/
def isResourceHeld (t : HoldTables) (tenantId : String) (kind : ResourceKind)
    (resourceId : String) : Bool :=
  t.holds.rows.any fun h ↦ activeFor tenantId h && lists t h kind resourceId

/-- `list_legal_holds(tenant_id, active_only=True)`: newest first. -/
def listActiveHolds (t : HoldTables) (tenantId : String) : List LegalHold :=
  (t.holds.rows.filter (activeFor tenantId)).insertionSort fun h h' ↦ h'.createdAt ≤ h.createdAt

/-! ## Deletion jobs -/

/-- The row the insertion of a job writes. -/
def newJobRow (now : Timestamp) (job : DeletionJob) : DeletionJob where
  jobId := job.jobId
  tenantId := job.tenantId
  resourceKind := job.resourceKind
  resourceId := job.resourceId
  maxAttempts := job.maxAttempts
  requestedAt := now
  requestedBy := job.requestedBy

/-- The existing job for a resource. -/
def jobOf (t : JobTable) (resource : String × ResourceKind × String) : Option DeletionJob :=
  t.jobs.rows.find? fun j ↦ decide (j.resource = resource)

/-- `INSERT INTO deletion_jobs`, when the resource has no job. -/
def insertJob (t : JobTable) (row : DeletionJob) (hres : jobOf t row.resource = none) :
    Except StoreError JobTable :=
  match hins : t.jobs.insert row with
  | none => .error .uniqueViolation
  | some jobs => .ok
      { jobs := jobs
        resource_nodup := by
          rw [KeyedTable.rows_of_insert hins, List.map_append, List.map_singleton]
          refine List.nodup_append.mpr ⟨t.resource_nodup, List.nodup_singleton _, ?_⟩
          rintro a ha b hb rfl
          obtain ⟨j, hj, hja⟩ := List.mem_map.mp ha
          have := List.find?_eq_none.mp hres j hj
          simp [hja, List.mem_singleton.mp hb] at this }

/-- `create_deletion_job`. The job that is returned has the identifier, the state and the attempts
of the row, and everything else from the argument. -/
def createDeletionJob (t : JobTable) (job : DeletionJob) (now : Timestamp) :
    Except StoreError (JobTable × DeletionJob) :=
  match hres : jobOf t job.resource with
  | some row => .ok (t, { job with jobId := row.jobId, state := row.state, attempt := row.attempt })
  | none => do
    let t' ← insertJob t (newJobRow now job) hres
    return (t', { job with state := .pending, attempt := 0 })

/-- The states that stamp `completed_at`. -/
def DeletionState.completes (s : DeletionState) : Bool :=
  decide (s ∈ [DeletionState.deleted, .partial_, .failed, .held])

/-- The update of `update_deletion_job`. An error or evidence that is not given is kept. -/
def updateJobRow (now : Timestamp) (state : DeletionState) (lastError : Option String)
    (evidence : Option DeletionEvidence) (incrementAttempt : Bool) (j : DeletionJob) :
    DeletionJob :=
  { j with
    state := state
    attempt := j.attempt + if incrementAttempt then 1 else 0
    completedAt := if DeletionState.completes state then some now else j.completedAt
    lastError := lastError.or j.lastError
    deletionEvidence := evidence.or j.deletionEvidence }

section UpdateJob

variable (now : Timestamp) (state : DeletionState) (lastError : Option String)
  (evidence : Option DeletionEvidence) (incrementAttempt : Bool)

@[simp] theorem updateJobRow_jobId (j : DeletionJob) :
    (updateJobRow now state lastError evidence incrementAttempt j).jobId = j.jobId := rfl

def updateDeletionJob (t : JobTable) (jobId : String) : JobTable where
  jobs := t.jobs.updateAt jobId (updateJobRow now state lastError evidence incrementAttempt)
    (updateJobRow_jobId now state lastError evidence incrementAttempt)
  resource_nodup := by
    have hmap : ((t.jobs.updateAt jobId (updateJobRow now state lastError evidence incrementAttempt)
        (updateJobRow_jobId now state lastError evidence incrementAttempt)).rows.map
          DeletionJob.resource) = t.jobs.rows.map DeletionJob.resource := by
      rw [KeyedTable.updateAt, KeyedTable.update, List.map_map]
      refine List.map_congr_left fun j _ ↦ ?_
      simp only [Function.comp_apply]
      split <;> rfl
    rw [hmap]
    exact t.resource_nodup

/-- The row of a job after an update. -/
theorem find?_updateDeletionJob (t : JobTable) (jobId : String) :
    (updateDeletionJob now state lastError evidence incrementAttempt t jobId).jobs.find? jobId
      = (t.jobs.find? jobId).map (updateJobRow now state lastError evidence incrementAttempt) :=
  KeyedTable.find?_updateAt_self t.jobs _ (updateJobRow_jobId _ _ _ _ _) jobId

end UpdateJob

/-! ## Redaction -/

/-- What is left of a redacted payload. -/
def redactedPayload : Json := .obj [("redacted", .bool true)]

def redact (e : AuditEvent) : AuditEvent := { e with payload := redactedPayload }

@[simp] theorem redact_eventId (e : AuditEvent) : (redact e).eventId = e.eventId := rfl

/-- `redact_event_payload`: by identifier; whether a row was updated. -/
def redactEventPayload (db : Database) (eventId : String) : Database × Bool :=
  ({ db with events := db.events.updateAt eventId redact redact_eventId },
    (db.events.find? eventId).isSome)

/-- `LEFT JOIN task_runs … WHERE t.tenant_id IS NULL OR t.tenant_id = …`. -/
def inScanOf (db : Database) (tenantId : String) (e : AuditEvent) : Bool :=
  ((e.taskRunId.bind db.taskRuns.find?).bind TaskRun.tenantId).all fun t ↦ decide (t = tenantId)

/-- `list_events_for_resource(tenant_id)`: newest first. -/
def listEventsForResource (db : Database) (tenantId : String) : List AuditEvent :=
  (db.events.rows.filter (inScanOf db tenantId)).insertionSort fun e e' ↦
    e'.occurredAt ≤ e.occurredAt

theorem mem_listEventsForResource {db : Database} {tenantId : String} {e : AuditEvent} :
    e ∈ listEventsForResource db tenantId ↔ e ∈ db.events.rows ∧ inScanOf db tenantId e := by
  rw [listEventsForResource, List.mem_insertionSort, List.mem_filter]

def getReceipt (db : Database) (receiptId : String) : Option Receipt := db.receipts.find? receiptId

/-- `delete_receipt`: by identifier; whether a row was deleted. -/
def deleteReceipt (db : Database) (receiptId : String) : Database × Bool :=
  ({ db with receipts := db.receipts.delete fun r ↦ decide (r.receiptId = receiptId) },
    (db.receipts.find? receiptId).isSome)

end EventStore

end Orchestra
