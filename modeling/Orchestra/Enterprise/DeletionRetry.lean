import Orchestra.Enterprise.DeletionIsolation

/-!
# Retrying a deletion

An execution leaves the evidence of its adapter in the job, and the state says whether the adapter
kept a copy. A copy that is not there any more is listed as kept, so an execution that comes after
the last copy has gone cannot complete the job, except where the adapter has nothing to look for.
The evidence of such an execution replaces the evidence of the one that removed the copies.

`report` is the evidence of an execution, for every way it can end. Its fields are computed from the
state before: the digest is that of the payload that is stored (`payloadDigest_report`), and what is
kept when nothing remains depends on the kind alone, up to one fault (`copiesKept_report_iff`).
-/

namespace Orchestra

open EventStore Transition

namespace LifecycleManager

variable (P : Primitives)

/-! ## The evidence of an execution -/

/-- The lookup that precedes the removal of a receipt raises; no other adapter raises. -/
def AdapterRaises (env : LifecycleEnv) (row : DeletionJob) : Prop :=
  row.resourceKind = .receipt ∧ env.faults.getReceipt ≠ none

instance (env : LifecycleEnv) (row : DeletionJob) : Decidable (AdapterRaises env row) :=
  inferInstanceAs (Decidable (_ ∧ _))

/-- The evidence that an execution records, whether its adapter returns or raises. -/
def report (env : LifecycleEnv) (w : LifecycleWorld) (row : DeletionJob) : DeletionEvidence :=
  match runDeleter P env w row with
  | .ok (_, e) => e
  | .error _ => evidence env 0 [keptCopy row.resourceKind.value row.resourceId "adapter_error"] none

/-- The digest of the payload that is stored for a resource. -/
def storedDigest (w : LifecycleWorld) (resource : String × ResourceKind × String) : Option String :=
  match resource.2.1 with
  | .artifact => (w.artifacts.bind fun t ↦ t.find? resource.2.2).map fun a ↦ digestJson P a.payload
  | .receipt => (getReceipt w.db resource.2.2).map fun r ↦ digestJson P r.envelope
  | _ => none

section Report

variable {P} {env : LifecycleEnv} {w : LifecycleWorld} {row : DeletionJob}

theorem runDeleter_eq_error_iff : (∃ exc, runDeleter P env w row = .error exc) ↔
    AdapterRaises env row := by
  rw [AdapterRaises, runDeleter]
  cases hkind : row.resourceKind with
  | receipt => cases hget : env.faults.getReceipt <;> simp [deleteReceiptCopies, hget]
  | _ => simp

theorem report_of_raises (h : AdapterRaises env row) : report P env w row =
    evidence env 0 [keptCopy row.resourceKind.value row.resourceId "adapter_error"] none := by
  obtain ⟨exc, hexc⟩ := runDeleter_eq_error_iff.mpr h
  rw [report, hexc]

/-- The evidence of the receipt adapter, when the lookup does not raise. -/
def receiptReport (P : Primitives) (env : LifecycleEnv) (w : LifecycleWorld)
    (tenantId id : String) : DeletionEvidence :=
  let removed := removeReceipt env w.db id
  evidence env removed.2.1
    (removed.2.2 ++ (redactReferences env removed.1 tenantId (getReceipt w.db id) id).2)
    ((getReceipt w.db id).map fun r ↦ digestJson P r.envelope)

/-- The evidence of an adapter that returns. -/
theorem report_of_not_raises (h : ¬AdapterRaises env row) : report P env w row =
    match row.resourceKind with
    | .artifact => (deleteArtifact P env w row.resourceId).2
    | .receipt => receiptReport P env w row.tenantId row.resourceId
    | .event => (deleteEventPayload env w row.resourceId).2
    | .webhook => (deleteWebhookDelivery env w row.resourceId).2
    | .cache => evidence env 0 [] none
    | .backup => evidence env 0 [keptCopy "backup" row.resourceId "out_of_scope"] none := by
  rw [report, runDeleter]
  cases hkind : row.resourceKind with
  | receipt =>
    have hget : env.faults.getReceipt = none := by
      by_contra hne
      exact h ⟨hkind, hne⟩
    rw [deleteReceiptCopies, hget]
    rfl
  | _ => rfl

theorem payloadDigest_deleteArtifact (tenantId id : String) :
    (deleteArtifact P env w id).2.payloadDigest = storedDigest P w (tenantId, .artifact, id) := by
  rw [deleteArtifact, storedDigest]
  cases w.artifacts with
  | none => rfl
  | some t =>
    dsimp only
    split
    · rfl
    · split <;> rfl

theorem payloadDigest_deleteEventPayload (id : String) :
    (deleteEventPayload env w id).2.payloadDigest = none := by
  rw [deleteEventPayload]
  split
  · rfl
  · dsimp only
    split <;> rfl

theorem payloadDigest_deleteWebhookDelivery (id : String) :
    (deleteWebhookDelivery env w id).2.payloadDigest = none := by
  rw [deleteWebhookDelivery]
  split
  · rfl
  · split
    · rfl
    · split <;> rfl

/-- **The digest** in the evidence of an execution. -/
theorem payloadDigest_report : (report P env w row).payloadDigest =
    if AdapterRaises env row then none else storedDigest P w row.resource := by
  split_ifs with h
  · rw [report_of_raises h]
    rfl
  rw [report_of_not_raises h, DeletionJob.resource]
  cases row.resourceKind with
  | artifact => exact payloadDigest_deleteArtifact row.tenantId row.resourceId
  | event => exact payloadDigest_deleteEventPayload row.resourceId
  | webhook => exact payloadDigest_deleteWebhookDelivery row.resourceId
  | receipt | cache | backup => rfl

theorem copiesDeleted_deleteArtifact {tenantId id : String}
    (hstored : (storedDigest P w (tenantId, .artifact, id)).isSome) :
    (deleteArtifact P env w id).2.copiesDeleted = if env.faults.remove = none then 1 else 0 := by
  rw [storedDigest, Option.isSome_map] at hstored
  rw [deleteArtifact]
  cases hwired : w.artifacts with
  | none =>
    rw [hwired] at hstored
    cases hstored
  | some t =>
    rw [hwired] at hstored
    have hfind : (t.find? id).isSome := hstored
    dsimp only
    cases env.faults.remove with
    | some text => rfl
    | none =>
      rw [if_pos hfind]
      rfl

theorem copiesDeleted_removeReceipt {db : Database} {id : String}
    (hstored : (getReceipt db id).isSome) :
    (removeReceipt env db id).2.1 = if env.faults.remove = none then 1 else 0 := by
  rw [removeReceipt, if_pos hstored]
  cases env.faults.remove with
  | some text => rfl
  | none =>
    have hdeleted : (deleteReceipt db id).2 = true := hstored
    simp [hdeleted]

/-- **The count of deleted copies**, when the adapter has found a payload: one, unless the removal
raises. -/
theorem copiesDeleted_report (h : ¬AdapterRaises env row)
    (hstored : (storedDigest P w row.resource).isSome) :
    (report P env w row).copiesDeleted = if env.faults.remove = none then 1 else 0 := by
  rw [report_of_not_raises h]
  rw [DeletionJob.resource] at hstored
  cases hkind : row.resourceKind with
  | artifact =>
    rw [hkind] at hstored
    exact copiesDeleted_deleteArtifact hstored
  | receipt =>
    rw [hkind, storedDigest, Option.isSome_map] at hstored
    exact copiesDeleted_removeReceipt hstored
  | event | webhook | cache | backup =>
    rw [hkind] at hstored
    cases hstored

theorem copiesKept_deleteArtifact {id : String}
    (hnone : ∀ t, w.artifacts = some t → t.find? id = none) :
    (deleteArtifact P env w id).2.copiesKept = 1 := by
  rw [deleteArtifact]
  cases hwired : w.artifacts with
  | none => rfl
  | some t =>
    dsimp only
    cases env.faults.remove with
    | some text => rfl
    | none =>
      rw [hnone t hwired]
      rfl

theorem copiesKept_receiptReport {tenantId id : String} (hnone : getReceipt w.db id = none) :
    (receiptReport P env w tenantId id).copiesKept ≠ 0 := by
  simp [receiptReport, evidence, removeReceipt, hnone]

theorem copiesKept_deleteEventPayload_iff {id : String} :
    (deleteEventPayload env w id).2.copiesKept = 0 ↔
      (w.db.events.find? id).isSome ∧ env.faults.redact id = none := by
  rw [deleteEventPayload]
  cases hredact : env.faults.redact id with
  | some text => simp [evidence]
  | none =>
    cases hfind : w.db.events.find? id <;> simp [evidence, redactEventPayload, hfind]

theorem copiesKept_deleteWebhookDelivery {id : String}
    (hnone : ∀ t, w.webhooks = some t → t.find? id = none) :
    (deleteWebhookDelivery env w id).2.copiesKept = 1 := by
  rw [deleteWebhookDelivery]
  cases hwired : w.webhooks with
  | none => rfl
  | some t =>
    dsimp only
    cases env.faults.remove with
    | some text => rfl
    | none =>
      rw [hnone t hwired]
      rfl

/-- An adapter that finds nothing lists the missing copy as kept. There is nothing to miss in the
cache, and an event whose payload is redacted is there. -/
theorem copiesKept_report_iff (hnone : ∀ c : Copy, c.In w → ¬c.ReachedBy w row.resource) :
    (report P env w row).copiesKept = 0 ↔ row.resourceKind = .cache ∨
      row.resourceKind = .event ∧ (w.db.events.find? row.resourceId).isSome ∧
        env.faults.redact row.resourceId = none := by
  by_cases hraises : AdapterRaises env row
  · rw [report_of_raises hraises, hraises.1]
    simp [evidence]
  rw [report_of_not_raises hraises]
  rw [DeletionJob.resource] at hnone
  cases hkind : row.resourceKind with
  | artifact =>
    rw [hkind] at hnone
    have hfind : ∀ t, w.artifacts = some t → t.find? row.resourceId = none := fun t hwired ↦
      KeyedTable.find?_eq_none_of_key_ne fun a ha heq ↦
        hnone (.artifact a) ⟨t, hwired, ha⟩ ⟨rfl, heq⟩
    simp [copiesKept_deleteArtifact hfind]
  | receipt =>
    rw [hkind] at hnone
    have hfind : getReceipt w.db row.resourceId = none :=
      KeyedTable.find?_eq_none_of_key_ne fun r hr heq ↦ hnone (.receipt r) hr ⟨rfl, heq⟩
    simp [copiesKept_receiptReport hfind]
  | event => simp [copiesKept_deleteEventPayload_iff]
  | webhook =>
    rw [hkind] at hnone
    have hfind : ∀ t, w.webhooks = some t → t.find? row.resourceId = none := fun t hwired ↦
      KeyedTable.find?_eq_none_of_key_ne fun d hd heq ↦
        hnone (.webhook d) ⟨t, hwired, hd⟩ ⟨rfl, heq⟩
    simp [copiesKept_deleteWebhookDelivery hfind]
  | cache => simp [evidence]
  | backup => simp [evidence]

end Report

/-! ## The job after a call -/

/-- The evidence and the state in the row of a job. -/
def evidenceAt (w : LifecycleWorld) (id : String) : Option DeletionEvidence :=
  (w.db.jobs.jobs.find? id).bind DeletionJob.deletionEvidence

def stateAt (w : LifecycleWorld) (id : String) : Option DeletionState :=
  (w.db.jobs.jobs.find? id).map DeletionJob.state

/-- The same stores with other jobs. -/
def withJobs (w : LifecycleWorld) (jobs : JobTable) : LifecycleWorld :=
  { w with db := { w.db with jobs := jobs } }

section Row

variable {P} {env : LifecycleEnv} {w : LifecycleWorld} {row : DeletionJob}

/-- An update that brings no evidence keeps what is there. -/
theorem evidenceAt_updateJob_none (jobId : String) (now : Timestamp) (state : DeletionState)
    (lastError : Option String) (increment : Bool) (id : String) :
    evidenceAt (updateJob w jobId now state lastError none increment) id = evidenceAt w id := by
  rw [evidenceAt, evidenceAt, updateJob, updateDeletionJob, KeyedTable.find?_updateAt]
  split_ifs with hid
  · subst hid
    cases w.db.jobs.jobs.find? id <;> rfl
  · rfl

/-- The jobs after an outcome has been recorded. -/
theorem jobs_recordOutcome (state : DeletionState) (lastError : Option String)
    (e : DeletionEvidence) (increment : Bool) (kind : EventKind) (details : List (String × Json)) :
    (recordOutcome env w row state lastError e increment kind details).1.db.jobs =
      if env.faults.record then w.db.jobs
      else updateDeletionJob env.now state lastError (some e) increment w.db.jobs row.jobId := by
  rw [recordOutcome]
  split_ifs
  · rfl
  · exact emitAudit_jobs _ _ _ _ _

theorem jobs_runDeleter {w' : LifecycleWorld} {e : DeletionEvidence}
    (h : runDeleter P env w row = .ok (w', e)) : w'.db.jobs = w.db.jobs := by
  obtain ⟨receipts, events, artifacts, webhooks, rfl, -⟩ := runDeleter_eq h
  rfl

/-- **What an execution records**: its evidence, with a state that says whether a copy was kept. -/
theorem jobs_runJob (P : Primitives) (env : LifecycleEnv) (w : LifecycleWorld)
    (row : DeletionJob) : ∃ state lastError increment,
    (runJob P env w row).1.db.jobs = (if env.faults.record then w.db.jobs
      else updateDeletionJob env.now state lastError (some (report P env w row)) increment w.db.jobs
        row.jobId) ∧
    (state = .deleted ↔ (report P env w row).copiesKept = 0) := by
  rw [runJob, report]
  cases hrun : runDeleter P env w row with
  | error exc =>
    refine ⟨_, _, _, jobs_recordOutcome _ _ _ _ _ _, iff_of_false ?_ Nat.one_ne_zero⟩
    split_ifs <;> decide
  | ok result =>
    obtain ⟨w', e⟩ := result
    refine ⟨if e.copiesKept = 0 then .deleted else .partial_, none, false,
      (jobs_recordOutcome _ _ _ _ _ _).trans ?_, ?_⟩
    · rw [jobs_runDeleter hrun]
    · split_ifs with hkept
      · exact iff_of_true rfl hkept
      · exact iff_of_false (by decide) hkept

/-- An execution whose outcome is recorded. -/
theorem row_runJob (hrow : (w.db.jobs.jobs.find? row.jobId).isSome)
    (hrecord : env.faults.record = false) :
    evidenceAt (runJob P env w row).1 row.jobId = some (report P env w row) ∧
      (stateAt (runJob P env w row).1 row.jobId = some .deleted ↔
        (report P env w row).copiesKept = 0) := by
  obtain ⟨state, lastError, increment, hjobs, hstate⟩ := jobs_runJob P env w row
  obtain ⟨row', hrow'⟩ := Option.isSome_iff_exists.mp hrow
  rw [hrecord, if_neg Bool.false_ne_true] at hjobs
  rw [evidenceAt, stateAt, hjobs, find?_updateDeletionJob, hrow', ← hstate]
  refine ⟨rfl, ?_⟩
  simp [updateJobRow]

/-- Other jobs are left alone, and this one too when the outcome is not recorded. -/
theorem evidenceAt_runJob_of_not {id : String}
    (h : env.faults.record = true ∨ id ≠ row.jobId) :
    evidenceAt (runJob P env w row).1 id = evidenceAt w id := by
  obtain ⟨state, lastError, increment, hjobs, -⟩ := jobs_runJob P env w row
  rw [evidenceAt, hjobs]
  rcases h with hrecord | hid
  · rw [hrecord, if_pos rfl, evidenceAt]
  · split_ifs
    · rfl
    · rw [updateDeletionJob, KeyedTable.find?_updateAt, if_neg hid, evidenceAt]

end Row

/-! ## Executions -/

/-- The call admits the row, and no update of the job raises. -/
def Runs (row : DeletionJob) : Rerun → Prop
  | .execute env => CanExecute row ∧ env.faults.mark = false ∧ env.faults.record = false
  | .retry env => CanRetry row ∧ env.faults.reset = false ∧ env.faults.mark = false ∧
      env.faults.record = false

instance (row : DeletionJob) : DecidablePred (Runs row)
  | .execute _ => inferInstanceAs (Decidable (_ ∧ _))
  | .retry _ => inferInstanceAs (Decidable (_ ∧ _))

/-- The call executes the deletion of the job in this row. -/
def Executes (w : LifecycleWorld) (call : String × Rerun) (row : DeletionJob) : Prop :=
  w.db.jobs.jobs.find? call.1 = some row ∧ Runs row call.2

/-- A call of `execute_deletion` or `retry_deletion`, for any job. -/
def attempt (w : LifecycleWorld) (call : String × Rerun) : LifecycleWorld :=
  rerun P call.1 w call.2

section Attempt

variable {P} {w : LifecycleWorld} {call : String × Rerun} {row : DeletionJob}

theorem executeDeletion_eq {env : LifecycleEnv} {jobId : String}
    (hrow : w.db.jobs.jobs.find? jobId = some row) (hcan : CanExecute row)
    (hmark : env.faults.mark = false) : executeDeletion P env w jobId =
      runJob P env (updateJob w jobId env.now .running none none false) row := by
  rw [executeDeletion, hrow]
  dsimp only
  rw [if_neg hcan, hmark, if_neg Bool.false_ne_true]

theorem retryDeletion_eq {env : LifecycleEnv} {jobId : String}
    (hrow : w.db.jobs.jobs.find? jobId = some row) (hcan : CanRetry row)
    (hreset : env.faults.reset = false) : retryDeletion P env w jobId =
      executeDeletion P env (updateJob w jobId env.now .pending none none false) jobId := by
  rw [retryDeletion, hrow]
  dsimp only
  rw [retryError_eq_none_iff.mpr hcan]
  dsimp only
  rw [hreset, if_neg Bool.false_ne_true]

/-- The row of a job that is pending again. -/
theorem find?_reset {jobId : String} (hrow : w.db.jobs.jobs.find? jobId = some row)
    (now : Timestamp) :
    (updateJob w jobId now .pending none none false).db.jobs.jobs.find? jobId =
      some (updateJobRow now .pending none none false row) := by
  rw [updateJob, find?_updateDeletionJob, hrow]
  rfl

theorem canExecute_reset (row : DeletionJob) (now : Timestamp) :
    CanExecute (updateJobRow now .pending none none false row) := by
  simp [CanExecute, updateJobRow]

/-- **An execution** runs a job of the same resource, on the stores as they are. -/
theorem attempt_eq (h : Executes w call row) : ∃ jobs row₁, row₁.resource = row.resource ∧
    row₁.jobId = call.1 ∧ (jobs.jobs.find? call.1).isSome ∧
    attempt P w call = (runJob P call.2.env (withJobs w jobs) row₁).1 ∧
    (∀ id, evidenceAt (withJobs w jobs) id = evidenceAt w id) := by
  obtain ⟨jobId, a⟩ := call
  obtain ⟨hrow, hruns⟩ := h
  obtain rfl : row.jobId = jobId := KeyedTable.key_of_find? hrow
  have hthere (w : LifecycleWorld) (now : Timestamp) (state : DeletionState)
      (h : (w.db.jobs.jobs.find? row.jobId).isSome) :
      ((updateJob w row.jobId now state none none false).db.jobs.jobs.find? row.jobId).isSome := by
    rw [updateJob, find?_updateDeletionJob, Option.isSome_map]
    exact h
  cases a with
  | execute env =>
    obtain ⟨hcan, hmark, -⟩ := hruns
    refine ⟨_, row, rfl, rfl, hthere w env.now .running (by rw [hrow]; rfl), ?_,
      evidenceAt_updateJob_none row.jobId env.now .running none false⟩
    exact congrArg Prod.fst (executeDeletion_eq hrow hcan hmark)
  | retry env =>
    obtain ⟨hcan, hreset, hmark, -⟩ := hruns
    have hreset' := find?_reset hrow env.now
    refine ⟨_, updateJobRow env.now .pending none none false row, rfl, rfl,
      hthere _ env.now .running (by rw [hreset']; rfl), ?_, fun id ↦ ?_⟩
    · refine congrArg Prod.fst ((retryDeletion_eq hrow hcan hreset).trans ?_)
      exact executeDeletion_eq hreset' (canExecute_reset row env.now) hmark
    · exact (evidenceAt_updateJob_none row.jobId env.now .running none false id).trans
        (evidenceAt_updateJob_none row.jobId env.now .pending none false id)

theorem Executes.record {w : LifecycleWorld} {call : String × Rerun} {row : DeletionJob}
    (h : Executes w call row) : call.2.env.faults.record = false := by
  obtain ⟨jobId, env | env⟩ := call
  · exact h.2.2.2
  · exact h.2.2.2.2

/-- What an execution of the job leaves in its row, in terms of the state before. -/
structure Recorded (P : Primitives) (w : LifecycleWorld) (call : String × Rerun)
    (row : DeletionJob) (e : DeletionEvidence) : Prop where
  evidence : evidenceAt (attempt P w call) call.1 = some e
  state : stateAt (attempt P w call) call.1 = some .deleted ↔ e.copiesKept = 0
  digest : e.payloadDigest =
    if AdapterRaises call.2.env row then none else storedDigest P w row.resource
  deleted : ¬AdapterRaises call.2.env row → (storedDigest P w row.resource).isSome →
    e.copiesDeleted = if call.2.env.faults.remove = none then 1 else 0
  kept : (∀ c : Copy, c.In w → ¬c.ReachedBy w row.resource) →
    (e.copiesKept = 0 ↔ row.resourceKind = .cache ∨ row.resourceKind = .event ∧
      (w.db.events.find? row.resourceId).isSome ∧
        call.2.env.faults.redact row.resourceId = none)

/-- **An execution** records its evidence. -/
theorem exists_recorded (h : Executes w call row) : ∃ e, Recorded P w call row e := by
  obtain ⟨jobs, row₁, hres, hid, hthere, hattempt, -⟩ := attempt_eq (P := P) h
  obtain ⟨htenant, hkind, hresource⟩ : row₁.tenantId = row.tenantId ∧
      row₁.resourceKind = row.resourceKind ∧ row₁.resourceId = row.resourceId := by
    simpa [DeletionJob.resource] using hres
  have hraises : AdapterRaises call.2.env row₁ ↔ AdapterRaises call.2.env row := by
    rw [AdapterRaises, AdapterRaises, hkind]
  rw [← hid] at hthere
  obtain ⟨hevidence, hstate⟩ := row_runJob (P := P) (w := withJobs w jobs) hthere h.record
  rw [hid, ← hattempt] at hevidence hstate
  refine ⟨_, hevidence, hstate, ?_, fun hnot hstored ↦ ?_, fun hnone ↦ ?_⟩
  · rw [payloadDigest_report, hres]
    exact if_congr hraises rfl rfl
  · rw [← hres] at hstored
    exact copiesDeleted_report (w := withJobs w jobs) (fun hyes ↦ hnot (hraises.mp hyes)) hstored
  · rw [← hres] at hnone
    rw [copiesKept_report_iff (w := withJobs w jobs) hnone, hkind, hresource]
    rfl

theorem evidenceAt_executeDeletion_of_not {env : LifecycleEnv} {jobId id : String}
    (hrow : w.db.jobs.jobs.find? jobId = some row)
    (h : id = jobId → ¬Runs row (.execute env)) :
    evidenceAt (executeDeletion P env w jobId).1 id = evidenceAt w id := by
  by_cases hcan : CanExecute row
  · cases hmark : env.faults.mark with
    | true =>
      rw [executeDeletion, hrow]
      dsimp only
      rw [if_neg hcan, hmark, if_pos rfl]
    | false =>
      obtain rfl : row.jobId = jobId := KeyedTable.key_of_find? hrow
      rw [executeDeletion_eq hrow hcan hmark, evidenceAt_runJob_of_not,
        evidenceAt_updateJob_none]
      by_cases hid : id = row.jobId
      · exact Or.inl (by simpa [Runs, hcan, hmark] using h hid)
      · exact Or.inr hid
  · rw [executeDeletion_of_not hrow hcan]

/-- A call leaves the evidence of the other jobs, and that of its own job if it does not execute
it. -/
theorem evidenceAt_attempt_of_not {id : String} (h : id = call.1 → ∀ row, ¬Executes w call row) :
    evidenceAt (attempt P w call) id = evidenceAt w id := by
  obtain ⟨jobId, a⟩ := call
  rw [attempt]
  cases hrow : w.db.jobs.jobs.find? jobId with
  | none => cases a <;> simp [rerun, executeDeletion, retryDeletion, hrow]
  | some row =>
    have hnot : id = jobId → ¬Runs row a := fun hid hruns ↦ h hid row ⟨hrow, hruns⟩
    cases a with
    | execute env => exact evidenceAt_executeDeletion_of_not hrow hnot
    | retry env =>
      by_cases hcan : CanRetry row
      · cases hreset : env.faults.reset with
        | true =>
          rw [rerun, retryDeletion, hrow]
          dsimp only
          rw [retryError_eq_none_iff.mpr hcan]
          dsimp only
          rw [hreset, if_pos rfl]
        | false =>
          rw [rerun, retryDeletion_eq hrow hcan hreset]
          refine (evidenceAt_executeDeletion_of_not (find?_reset hrow env.now) fun hid hruns ↦
            hnot hid ⟨hcan, hreset, hruns.2⟩).trans ?_
          exact evidenceAt_updateJob_none jobId env.now .pending none false id
      · rw [rerun, retryDeletion_of_not hrow hcan]

end Attempt

/-! ## Retries -/

/-- An execution that starts when no copy of the resource remains ends in `deleted`. -/
def Converges (w : LifecycleWorld) (call : String × Rerun) : Prop :=
  ∀ row, Executes w call row → (∀ c : Copy, c.In w → ¬c.ReachedBy w row.resource) →
    stateAt (attempt P w call) call.1 = some .deleted

/-- Evidence with a digest is replaced only by evidence with the same digest that counts no fewer
deleted copies. -/
def KeepsEvidence (w : LifecycleWorld) (call : String × Rerun) : Prop :=
  ∀ id e digest, evidenceAt w id = some e → e.payloadDigest = some digest →
    ∃ e', evidenceAt (attempt P w call) id = some e' ∧ e.copiesDeleted ≤ e'.copiesDeleted ∧
      e'.payloadDigest = some digest

/-- No execution starts when no copy of the resource remains, except for a cache entry or for an
event whose row is there and can be redacted again. -/
def StartsInTime (w : LifecycleWorld) (call : String × Rerun) : Prop :=
  ∀ row, Executes w call row → (∀ c : Copy, c.In w → ¬c.ReachedBy w row.resource) →
    row.resourceKind = .cache ∨ row.resourceKind = .event ∧
      (w.db.events.find? row.resourceId).isSome ∧ call.2.env.faults.redact row.resourceId = none

/-- Where a job has evidence with a digest, an execution finds the payload with this digest, and
removes it if a copy was counted before. -/
def FindsPayload (w : LifecycleWorld) (call : String × Rerun) : Prop :=
  ∀ row e digest, Executes w call row → row.deletionEvidence = some e →
    e.payloadDigest = some digest → ¬AdapterRaises call.2.env row ∧
      storedDigest P w row.resource = some digest ∧
      e.copiesDeleted ≤ if call.2.env.faults.remove = none then 1 else 0

variable {P}

theorem converges_iff_startsInTime {w : LifecycleWorld} {call : String × Rerun} :
    Converges P w call ↔ StartsInTime w call := by
  refine forall_congr' fun row ↦ forall_congr' fun hexec ↦ forall_congr' fun hnone ↦ ?_
  obtain ⟨e, he⟩ := exists_recorded (P := P) hexec
  rw [he.state, he.kept hnone]

theorem keepsEvidence_iff_findsPayload {w : LifecycleWorld} {call : String × Rerun} :
    KeepsEvidence P w call ↔ FindsPayload P w call := by
  constructor
  · intro hkeeps row e digest hexec hevidence hdigest
    obtain ⟨e', he'⟩ := exists_recorded (P := P) hexec
    have hbefore : evidenceAt w call.1 = some e := by
      rw [evidenceAt, hexec.1]
      exact hevidence
    obtain ⟨e'', hafter, hdeleted, hdigest'⟩ := hkeeps call.1 e digest hbefore hdigest
    obtain rfl := Option.some.inj (he'.evidence.symm.trans hafter)
    rw [he'.digest] at hdigest'
    split_ifs at hdigest' with hraises
    refine ⟨hraises, hdigest', ?_⟩
    rw [he'.deleted hraises (by rw [hdigest']; rfl)] at hdeleted
    exact hdeleted
  · intro hfinds id e digest hevidence hdigest
    by_cases hexec : id = call.1 ∧ ∃ row, Executes w call row
    · obtain ⟨rfl, row, hexec⟩ := hexec
      rw [evidenceAt, hexec.1] at hevidence
      obtain ⟨hraises, hstored, hdeleted⟩ := hfinds row e digest hexec hevidence hdigest
      obtain ⟨e', he'⟩ := exists_recorded (P := P) hexec
      refine ⟨e', he'.evidence, ?_, ?_⟩
      · rw [he'.deleted hraises (by rw [hstored]; rfl)]
        exact hdeleted
      · rw [he'.digest, if_neg hraises, hstored]
    · refine ⟨e, ?_, le_refl _, hdigest⟩
      rw [evidenceAt_attempt_of_not fun hid row hexec' ↦ hexec ⟨hid, row, hexec'⟩, hevidence]

/-- **Convergence and evidence.** Along a run of executions and retries, whatever their adapters do,
every execution that starts without copies ends in `deleted` and no evidence with a digest is lost,
exactly as long as every execution starts in time and finds the payload that earlier evidence
speaks of. -/
theorem attempts_keep_iff (w : LifecycleWorld) (calls : List (String × Rerun)) :
    AllSteps (attempt P) (fun w call ↦ Converges P w call ∧ KeepsEvidence P w call) w calls ↔
      AllSteps (attempt P) (fun w call ↦ StartsInTime w call ∧ FindsPayload P w call) w calls :=
  ⟨fun h ↦ h.imp fun _ _ h ↦
      ⟨converges_iff_startsInTime.mp h.1, keepsEvidence_iff_findsPayload.mp h.2⟩,
    fun h ↦ h.imp fun _ _ h ↦
      ⟨converges_iff_startsInTime.mpr h.1, keepsEvidence_iff_findsPayload.mpr h.2⟩⟩

/-! ### A receipt that is removed at the first attempt -/

def lostReceipt : Receipt where
  receiptId := "r1"
  taskRunId := "t1"
  nodeRunId := "n1"
  nodeId := "extract"
  envelope := .obj []
  createdAt := 0

def receiptEvent : AuditEvent where
  eventId := "e1"
  kind := .receiptSigned
  occurredAt := 0
  payload := .obj [("receipt_id", .str "r1")]

def receiptJob : DeletionJob where
  jobId := "j1"
  tenantId := "tA"
  resourceKind := .receipt
  resourceId := "r1"
  requestedAt := 0
  requestedBy := "alice"

/-- A receipt, the event that names it, and the job that deletes it. -/
def receiptWorld : LifecycleWorld where
  db := {
    receipts := ⟨[lostReceipt], by decide⟩
    events := ⟨[receiptEvent], by decide⟩
    jobs := ⟨⟨[receiptJob], by decide⟩, by decide⟩ }

def redactionRaises : LifecycleEnv where
  now := 1
  occurredAt := 1
  auditId := "a1"
  evidenceId := "d1"
  faults := { redact := fun _ ↦ some "timeout" }

def noFault : LifecycleEnv where
  now := 2
  occurredAt := 2
  auditId := "a2"
  evidenceId := "d2"

/-- The first execution removes the receipt and cannot redact the event; the retry finds no receipt
and records that nothing was deleted. -/
theorem retry_loses_evidence :
    ¬∀ (P : Primitives) (w : LifecycleWorld) (calls : List (String × Rerun)),
      AllSteps (attempt P) (fun w call ↦ Converges P w call ∧ KeepsEvidence P w call) w calls := by
  intro hall
  obtain ⟨-, ⟨-, hkeeps⟩, -⟩ :=
    hall ⟨fun _ ↦ List.replicate 32 2, fun _ _ ↦ List.replicate 32 2, fun _ _ ↦ by decide⟩
      receiptWorld [("j1", .execute redactionRaises), ("j1", .retry noFault)]
  have hfinds := keepsEvidence_iff_findsPayload.mp hkeeps
  obtain ⟨-, hstored, -⟩ := hfinds _ _ _ ⟨rfl, by decide⟩ rfl rfl
  cases hstored

end LifecycleManager

end Orchestra
