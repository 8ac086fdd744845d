import Orchestra.Enterprise.Lifecycle
import Orchestra.Foundation.Program

/-!
# The steps of a deletion

`execute_deletion` and `retry_deletion` are sequences of calls of the stores, each of which is a
transaction of its own. This file writes the two methods and the adapters as programs that make
those calls. A program that runs without interruption does what the methods do as single steps
(`alone_executeDeletion`, `alone_retryDeletion`), so the programs and the methods are two views of
one piece of code.
-/

namespace Orchestra

open EventStore Interaction LifecycleManager

/-! ## The calls -/

/-- A call of one of the stores. Two of them ask whether there is an artifact store and a deleter of
webhook deliveries. -/
inductive LifecycleCall where
  | getDeletionJob (jobId : String)
  | updateDeletionJob (jobId : String) (state : DeletionState) (lastError : Option String)
      (evidence : Option DeletionEvidence) (incrementAttempt : Bool)
  | artifactStoreWired
  | artifactPayload (id : String)
  | deleteArtifact (id : String)
  | webhookDeleterWired
  | deleteWebhook (id : String)
  | getReceipt (id : String)
  | deleteReceipt (id : String)
  | listEventsForResource (tenantId : String)
  | redactEventPayload (eventId : String)
  | emitAudit (kind : EventKind) (payload : List (String × Json))

@[reducible] def LifecycleCall.Reply : LifecycleCall → Type
  | .getDeletionJob _ => Option DeletionJob
  | .updateDeletionJob _ _ _ _ _ => Unit
  | .artifactStoreWired => Bool
  | .artifactPayload _ => Option Json
  | .deleteArtifact _ => Bool
  | .webhookDeleterWired => Bool
  | .deleteWebhook _ => Bool
  | .getReceipt _ => Option Receipt
  | .deleteReceipt _ => Bool
  | .listEventsForResource _ => List AuditEvent
  | .redactEventPayload _ => Bool
  | .emitAudit _ _ => Unit

/-- What a call or a method raises: an error of the manager, or what a store raises at an
adapter. -/
inductive LifecycleException where
  | manager (e : LifecycleError)
  | adapter (exc : Raised)

/-- The fault of an update of a job. -/
def LifecycleFaults.update (faults : LifecycleFaults) : DeletionState → Bool
  | .pending => faults.reset
  | .running => faults.mark
  | _ => faults.record

namespace LifecycleCall

variable (env : LifecycleEnv) (w : LifecycleWorld)

/-- An exception of which only the text is used. -/
def raising (text : String) : LifecycleException := .adapter ⟨"Exception", text⟩

/-- The answer to a call, and the stores after it. -/
def answer : (c : LifecycleCall) → Except LifecycleException c.Reply × LifecycleWorld
  | .getDeletionJob jobId => (.ok (w.db.jobs.jobs.find? jobId), w)
  | .updateDeletionJob jobId state lastError e incrementAttempt =>
    if env.faults.update state then (.error (.manager (.store .unavailable)), w)
    else (.ok (), updateJob w jobId env.now state lastError e incrementAttempt)
  | .artifactStoreWired => (.ok w.artifacts.isSome, w)
  | .artifactPayload id =>
    (.ok ((w.artifacts.bind fun t ↦ t.find? id).map Artifact.payload), w)
  | .deleteArtifact id =>
    match env.faults.remove with
    | some text => (.error (raising text), w)
    | none =>
      match w.artifacts with
      | none => (.ok false, w)
      | some t =>
        if (t.find? id).isSome then
          (.ok true, { w with artifacts := some (t.delete fun a ↦ decide (a.artifactId = id)) })
        else (.ok false, w)
  | .webhookDeleterWired => (.ok w.webhooks.isSome, w)
  | .deleteWebhook id =>
    match env.faults.remove with
    | some text => (.error (raising text), w)
    | none =>
      match w.webhooks with
      | none => (.ok false, w)
      | some t =>
        if (t.find? id).isSome then
          (.ok true, { w with webhooks := some (t.delete fun d ↦ decide (d.deliveryId = id)) })
        else (.ok false, w)
  | .getReceipt id =>
    match env.faults.getReceipt with
    | some exc => (.error (.adapter exc), w)
    | none => (.ok (EventStore.getReceipt w.db id), w)
  | .deleteReceipt id =>
    match env.faults.remove with
    | some text => (.error (raising text), w)
    | none => (.ok (EventStore.deleteReceipt w.db id).2,
        { w with db := (EventStore.deleteReceipt w.db id).1 })
  | .listEventsForResource tenantId =>
    match env.faults.scan with
    | some text => (.error (raising text), w)
    | none => (.ok (EventStore.listEventsForResource w.db tenantId), w)
  | .redactEventPayload eventId =>
    match env.faults.redact eventId with
    | some text => (.error (raising text), w)
    | none => (.ok (EventStore.redactEventPayload w.db eventId).2,
        { w with db := (EventStore.redactEventPayload w.db eventId).1 })
  | .emitAudit kind payload => (.ok (), LifecycleManager.emitAudit env w kind "orchestra" payload)

end LifecycleCall

/-- A method that makes calls. -/
abbrev Worker (α : Type) := Program LifecycleCall LifecycleCall.Reply LifecycleException α

namespace Worker

variable {α : Type} (P : Primitives) (env : LifecycleEnv)

/-- One call. -/
def ask (c : LifecycleCall) : Worker c.Reply := .perform c

/-- `except Exception` around the calls of an adapter, which raise nothing of the manager's. -/
def excepting (p : Worker α) (h : Raised → Worker α) : Worker α :=
  p.tryCatch fun
    | .adapter exc => h exc
    | .manager e => .raise (.manager e)

/-! ## The adapters -/

/-- `_delete_artifact`. -/
def deleteArtifact (id : String) : Worker DeletionEvidence := do
  if ← ask .artifactStoreWired then
    let payload ← ask (.artifactPayload id)
    let (deleted, kept) ← excepting
      (do
        if ← ask (.deleteArtifact id) then pure (1, [])
        else pure (0, [keptCopy "artifact" id "already_gone"]))
      fun exc ↦ pure (0, [keptCopy "artifact" id ("error: " ++ exc.text)])
    pure (evidence env deleted kept (payload.map (digestJson P)))
  else pure (evidence env 0 [keptCopy "artifact" id "no_store_wired"] none)

/-- The redaction loop. -/
def redactAll : List AuditEvent → Worker (List (List (String × String)))
  | [] => pure []
  | e :: es => do
    let kept ← excepting
      (do
        let _ ← ask (.redactEventPayload e.eventId)
        pure [])
      fun exc ↦ pure [keptCopy "event_payload" e.eventId ("redact_error: " ++ exc.text)]
    let rest ← redactAll es
    pure (kept ++ rest)

/-- The removal of the receipt's row. -/
def removeReceipt (receiptRow : Option Receipt) (id : String) :
    Worker (ℕ × List (List (String × String))) :=
  match receiptRow with
  | none => pure (0, [keptCopy "receipt" id "already_gone"])
  | some _ => excepting
      (do
        if ← ask (.deleteReceipt id) then pure (1, [])
        else pure (0, [keptCopy "receipt" id "delete_returned_false"]))
      fun exc ↦ pure (0, [keptCopy "receipt" id ("error: " ++ exc.text)])

/-- Finding the events that refer to the receipt, and redacting them. -/
def redactReferences (tenantId : String) (receiptRow : Option Receipt) (id : String) :
    Worker (List (List (String × String))) :=
  excepting
    (do
      let events ← ask (.listEventsForResource tenantId)
      redactAll (events.filter (refersTo receiptRow id)))
    fun exc ↦ pure [keptCopy "events_scan" "*" ("error: " ++ exc.text)]

/-- `_delete_receipt`. -/
def deleteReceiptCopies (tenantId id : String) : Worker DeletionEvidence := do
  let receiptRow ← ask (.getReceipt id)
  let (deleted, kept) ← removeReceipt receiptRow id
  let kept' ← redactReferences tenantId receiptRow id
  pure (evidence env deleted (kept ++ kept') (receiptRow.map fun r ↦ digestJson P r.envelope))

/-- `_delete_event_payload`. -/
def deleteEventPayload (id : String) : Worker DeletionEvidence :=
  excepting
    (do
      if ← ask (.redactEventPayload id) then pure (evidence env 1 [] none)
      else pure (evidence env 0 [keptCopy "event" id "not_found"] none))
    fun exc ↦ pure (evidence env 0 [keptCopy "event" id ("error: " ++ exc.text)] none)

/-- `_delete_webhook_delivery`. -/
def deleteWebhookDelivery (id : String) : Worker DeletionEvidence := do
  if ← ask .webhookDeleterWired then
    excepting
      (do
        if ← ask (.deleteWebhook id) then pure (evidence env 1 [] none)
        else pure (evidence env 0 [keptCopy "webhook" id "not_found"] none))
      fun exc ↦ pure (evidence env 0 [keptCopy "webhook" id ("error: " ++ exc.text)] none)
  else pure (evidence env 0 [keptCopy "webhook" id "no_deleter_wired"] none)

/-- `_run_deleter`. -/
def runDeleter (job : DeletionJob) : Worker DeletionEvidence :=
  match job.resourceKind with
  | .artifact => deleteArtifact P env job.resourceId
  | .receipt => deleteReceiptCopies P env job.tenantId job.resourceId
  | .event => deleteEventPayload env job.resourceId
  | .webhook => deleteWebhookDelivery env job.resourceId
  | .cache => pure (evidence env 0 [] none)
  | .backup => pure (evidence env 0 [keptCopy "backup" job.resourceId "out_of_scope"] none)

/-! ## The methods -/

/-- Recording an outcome: the update, the audit event, and the row that results. -/
def recordOutcome (row : DeletionJob) (state : DeletionState) (lastError : Option String)
    (e : DeletionEvidence) (increment : Bool) (kind : EventKind) (details : List (String × Json)) :
    Worker DeletionJob := do
  ask (.updateDeletionJob row.jobId state lastError (some e) increment)
  ask (.emitAudit kind (resourcePayload row.tenantId row.resourceKind row.resourceId ++
    ("job_id", .str row.jobId) :: details))
  match ← ask (.getDeletionJob row.jobId) with
  | some job => pure job
  | none => .raise (.manager (.store .typeError))

/-- `_handle_adapter_failure`. -/
def handleAdapterFailure (row : DeletionJob) (exc : Raised) : Worker DeletionJob :=
  let attemptAfter := row.attempt + 1
  let terminal := row.maxAttempts ≤ attemptAfter
  recordOutcome row (if terminal then .failed else .partial_)
    (some (exc.typeName ++ ": " ++ exc.text))
    (evidence env 0 [keptCopy row.resourceKind.value row.resourceId "adapter_error"] none) true
    (if terminal then .deletionFailed else .deletionPartial)
    [("attempt", .int attemptAfter), ("error", .str exc.text)]

/-- The end of a run whose adapter returned. -/
def finishDeletion (row : DeletionJob) (e : DeletionEvidence) : Worker DeletionJob :=
  recordOutcome row (if e.copiesKept = 0 then .deleted else .partial_) none e false
    (if e.copiesKept = 0 then .deletionCompleted else .deletionPartial)
    [("copies_deleted", .int e.copiesDeleted), ("copies_kept", .int e.copiesKept),
      ("payload_digest", Json.ofOption e.payloadDigest)]

/-- The adapter, with the exception it raises as its result. -/
def tryDeleter (row : DeletionJob) : Worker (Except Raised DeletionEvidence) :=
  excepting
    (do
      let e ← runDeleter P env row
      pure (.ok e))
    fun exc ↦ pure (.error exc)

/-- The adapter and what follows from its result. -/
def runJob (row : DeletionJob) : Worker DeletionJob := do
  match ← tryDeleter P env row with
  | .error exc => handleAdapterFailure env row exc
  | .ok e => finishDeletion row e

/-- `execute_deletion`. -/
def executeDeletion (jobId : String) : Worker DeletionJob := do
  match ← ask (.getDeletionJob jobId) with
  | none => .raise (.manager (.valueError ("unknown deletion job: " ++ jobId)))
  | some row =>
    if row.state ∈ [DeletionState.deleted, .failed, .held] then pure row
    else do
      ask (.updateDeletionJob jobId .running none none false)
      runJob P env row

/-- `retry_deletion`. -/
def retryDeletion (jobId : String) : Worker DeletionJob := do
  match ← ask (.getDeletionJob jobId) with
  | none => .raise (.manager (.valueError ("unknown deletion job: " ++ jobId)))
  | some row =>
    match retryError jobId row with
    | some e => .raise (.manager e)
    | none => do
      ask (.updateDeletionJob jobId .pending none none false)
      executeDeletion P env jobId

/-! ## Running without interruption -/

/-- The run of a method on its own. -/
def run (p : Worker α) (w : LifecycleWorld) : Except LifecycleException α × LifecycleWorld :=
  alone (LifecycleCall.answer env) p w

section Run

variable {P} {env} {w : LifecycleWorld}

@[simp] theorem run_pure (a : α) : run env (pure a) w = (.ok a, w) := alone_pure a w

@[simp] theorem run_ask (c : LifecycleCall) : run env (ask c) w = c.answer env w :=
  alone_perform c w

theorem run_bind {β : Type} (p : Worker α) (f : α → Worker β) :
    run env (p >>= f) w = match run env p w with
      | (.ok a, w') => run env (f a) w'
      | (.error e, w') => (.error e, w') := by
  rw [run, alone_bind, ← run]
  rcases run env p w with ⟨_ | _, w'⟩ <;> rfl

theorem run_ask_bind {c : LifecycleCall} {β : Type} (f : c.Reply → Worker β) :
    run env (ask c >>= f) w = match c.answer env w with
      | (.ok a, w') => run env (f a) w'
      | (.error e, w') => (.error e, w') := by
  rw [run_bind, run_ask]
  rcases c.answer env w with ⟨_ | _, w'⟩ <;> rfl

theorem run_excepting (p : Worker α) (h : Raised → Worker α) :
    run env (excepting p h) w = match run env p w with
      | (.ok a, w') => (.ok a, w')
      | (.error (.adapter exc), w') => run env (h exc) w'
      | (.error (.manager e), w') => (.error (.manager e), w') := by
  rw [run, excepting, alone_tryCatch, ← run]
  rcases run env p w with ⟨(_ | _) | _, w'⟩ <;> rfl

/-! ### The adapters -/

theorem run_deleteArtifact (id : String) : run env (deleteArtifact P env id) w =
    (.ok (LifecycleManager.deleteArtifact P env w id).2,
      (LifecycleManager.deleteArtifact P env w id).1) := by
  rw [deleteArtifact, LifecycleManager.deleteArtifact, run_ask_bind, LifecycleCall.answer]
  cases hwired : w.artifacts with
  | none => rfl
  | some t =>
    dsimp only
    rw [Option.isSome_some, if_pos rfl, run_ask_bind, LifecycleCall.answer, hwired]
    dsimp only
    rw [run_bind, run_excepting, run_ask_bind, LifecycleCall.answer]
    cases env.faults.remove with
    | some text => simp [LifecycleCall.raising, Function.comp_def]
    | none =>
      rw [hwired]
      dsimp only
      cases hfind : t.find? id with
      | none => simp [hfind]
      | some a => simp [hfind]

theorem run_deleteEventPayload (id : String) : run env (deleteEventPayload env id) w =
    (.ok (LifecycleManager.deleteEventPayload env w id).2,
      (LifecycleManager.deleteEventPayload env w id).1) := by
  rw [deleteEventPayload, LifecycleManager.deleteEventPayload, run_excepting, run_ask_bind,
    LifecycleCall.answer]
  cases env.faults.redact id with
  | some text => rfl
  | none =>
    dsimp only
    cases (EventStore.redactEventPayload w.db id).2 <;> rfl

theorem run_deleteWebhookDelivery (id : String) : run env (deleteWebhookDelivery env id) w =
    (.ok (LifecycleManager.deleteWebhookDelivery env w id).2,
      (LifecycleManager.deleteWebhookDelivery env w id).1) := by
  rw [deleteWebhookDelivery, LifecycleManager.deleteWebhookDelivery, run_ask_bind,
    LifecycleCall.answer]
  cases hwired : w.webhooks with
  | none => rfl
  | some t =>
    dsimp only
    rw [Option.isSome_some, if_pos rfl, run_excepting, run_ask_bind, LifecycleCall.answer]
    cases env.faults.remove with
    | some text => rfl
    | none =>
      rw [hwired]
      dsimp only
      cases t.find? id <;> rfl

theorem run_redactAll (es : List AuditEvent) : run env (redactAll es) w =
    (.ok (LifecycleManager.redactAll env w.db es).2,
      { w with db := (LifecycleManager.redactAll env w.db es).1 }) := by
  induction es generalizing w with
  | nil => rfl
  | cons e es ih =>
    rw [redactAll, LifecycleManager.redactAll, run_bind, run_excepting, run_ask_bind,
      LifecycleCall.answer]
    cases env.faults.redact e.eventId with
    | some text => simp [LifecycleCall.raising, run_bind, ih]
    | none => simp [run_bind, ih]

theorem run_removeReceipt (id : String) :
    run env (removeReceipt (EventStore.getReceipt w.db id) id) w =
      (.ok (LifecycleManager.removeReceipt env w.db id).2,
        { w with db := (LifecycleManager.removeReceipt env w.db id).1 }) := by
  rw [LifecycleManager.removeReceipt]
  cases EventStore.getReceipt w.db id with
  | none => rfl
  | some r =>
    rw [removeReceipt, Option.isSome_some, if_pos rfl, run_excepting, run_ask_bind,
      LifecycleCall.answer]
    cases env.faults.remove with
    | some text => rfl
    | none =>
      dsimp only
      cases (EventStore.deleteReceipt w.db id).2 <;> rfl

theorem run_redactReferences (tenantId : String) (receiptRow : Option Receipt) (id : String) :
    run env (redactReferences tenantId receiptRow id) w =
      (.ok (LifecycleManager.redactReferences env w.db tenantId receiptRow id).2,
        { w with
          db := (LifecycleManager.redactReferences env w.db tenantId receiptRow id).1 }) := by
  rw [redactReferences, LifecycleManager.redactReferences, run_excepting, run_ask_bind,
    LifecycleCall.answer]
  cases env.faults.scan with
  | some text => rfl
  | none =>
    dsimp only
    rw [run_redactAll]

/-- The result of the receipt adapter, and the stores after it. -/
theorem run_deleteReceiptCopies (tenantId id : String) :
    run env (deleteReceiptCopies P env tenantId id) w =
      match LifecycleManager.deleteReceiptCopies P env w tenantId id with
      | .ok (w', e) => (.ok e, w')
      | .error exc => (.error (.adapter exc), w) := by
  rw [deleteReceiptCopies, LifecycleManager.deleteReceiptCopies, run_ask_bind, LifecycleCall.answer]
  cases env.faults.getReceipt with
  | some exc => rfl
  | none =>
    dsimp only
    rw [run_bind, run_removeReceipt]
    dsimp only
    rw [run_bind, run_redactReferences]
    rfl

theorem run_runDeleter (job : DeletionJob) : run env (runDeleter P env job) w =
    match LifecycleManager.runDeleter P env w job with
    | .ok (w', e) => (.ok e, w')
    | .error exc => (.error (.adapter exc), w) := by
  rw [runDeleter, LifecycleManager.runDeleter]
  cases job.resourceKind with
  | artifact => exact run_deleteArtifact job.resourceId
  | receipt => exact run_deleteReceiptCopies job.tenantId job.resourceId
  | event => exact run_deleteEventPayload job.resourceId
  | webhook => exact run_deleteWebhookDelivery job.resourceId
  | cache | backup => rfl

theorem run_tryDeleter (job : DeletionJob) : run env (tryDeleter P env job) w =
    match LifecycleManager.runDeleter P env w job with
    | .ok (w', e) => (.ok (.ok e), w')
    | .error exc => (.ok (.error exc), w) := by
  rw [tryDeleter, run_excepting, run_bind, run_runDeleter]
  rcases LifecycleManager.runDeleter P env w job with _ | ⟨w', e⟩ <;> rfl

/-! ### The methods -/

/-- A result of a method and the stores after it, as a run has them. -/
def asRun (result : LifecycleWorld × Except LifecycleError α) :
    Except LifecycleException α × LifecycleWorld :=
  (result.2.mapError .manager, result.1)

theorem run_recordOutcome (row : DeletionJob) (state : DeletionState) (lastError : Option String)
    (e : DeletionEvidence) (increment : Bool) (kind : EventKind) (details : List (String × Json))
    (hstate : env.faults.update state = env.faults.record) :
    run env (recordOutcome row state lastError e increment kind details) w =
      asRun
        (LifecycleManager.recordOutcome env w row state lastError e increment kind details) := by
  rw [recordOutcome, LifecycleManager.recordOutcome, run_ask_bind, LifecycleCall.answer, hstate]
  cases env.faults.record with
  | true => rfl
  | false =>
    dsimp only
    rw [if_neg Bool.false_ne_true, if_neg Bool.false_ne_true]
    dsimp only
    rw [run_ask_bind, LifecycleCall.answer]
    dsimp only
    rw [run_ask_bind, LifecycleCall.answer, rowToJob]
    dsimp only
    cases (LifecycleManager.emitAudit env _ kind "orchestra" _).db.jobs.jobs.find? row.jobId <;> rfl

theorem run_runJob (row : DeletionJob) :
    run env (runJob P env row) w = asRun (LifecycleManager.runJob P env w row) := by
  rw [runJob, LifecycleManager.runJob, run_bind, run_tryDeleter]
  rcases LifecycleManager.runDeleter P env w row with exc | ⟨w', e⟩
  · refine run_recordOutcome row _ _ _ _ _ _ ?_
    split <;> rfl
  · refine run_recordOutcome row _ _ _ _ _ _ ?_
    split <;> rfl

/-- **`execute_deletion`**, run without interruption. -/
theorem run_executeDeletion (jobId : String) : run env (executeDeletion P env jobId) w =
    asRun (LifecycleManager.executeDeletion P env w jobId) := by
  rw [executeDeletion, LifecycleManager.executeDeletion, run_ask_bind, LifecycleCall.answer]
  cases w.db.jobs.jobs.find? jobId with
  | none => rfl
  | some row =>
    dsimp only
    split_ifs with hterminal hmark
    · rfl
    · rw [run_ask_bind, LifecycleCall.answer, LifecycleFaults.update, if_pos hmark]
      rfl
    · rw [run_ask_bind, LifecycleCall.answer, LifecycleFaults.update, if_neg hmark]
      exact run_runJob row

/-- **`retry_deletion`**, run without interruption. -/
theorem run_retryDeletion (jobId : String) : run env (retryDeletion P env jobId) w =
    asRun (LifecycleManager.retryDeletion P env w jobId) := by
  rw [retryDeletion, LifecycleManager.retryDeletion, run_ask_bind, LifecycleCall.answer]
  cases w.db.jobs.jobs.find? jobId with
  | none => rfl
  | some row =>
    dsimp only
    cases retryError jobId row with
    | some e => rfl
    | none =>
      dsimp only
      split_ifs with hreset
      · rw [run_ask_bind, LifecycleCall.answer, LifecycleFaults.update, if_pos hreset]
        rfl
      · rw [run_ask_bind, LifecycleCall.answer, LifecycleFaults.update, if_neg hreset]
        exact run_executeDeletion jobId

end Run

end Worker

end Orchestra
