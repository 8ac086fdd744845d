import Orchestra.Enterprise.DeletionRetry

/-!
# What a completed deletion says

A job that an execution completes leaves no copy behind: its adapter has kept nothing, so nothing it
calls has raised, and what it reaches is gone (`noCopy_of_kept_eq_zero`). But a job belongs to an
identifier and stays after the resource has gone. When the resource is created again, `delete`
returns the old job, `execute_deletion` finds it completed and returns it, and the copy stays.

So what a history reports is right exactly as long as no completed job is executed while there is a
copy of its resource (`allSteps_truthful_iff`), and that does not happen when no creation brings a
copy back of a resource whose job is completed (`allSteps_notStale`).
-/

namespace Orchestra

open EventStore Transition

namespace LifecycleManager

/-- No copy of the resource is stored. -/
def NoCopy (w : LifecycleWorld) (resource : String × ResourceKind × String) : Prop :=
  ∀ c : Copy, c.In w → ¬c.ReachedBy w resource

/-- Every copy of the resource was there before. -/
def NoNewCopy (resource : String × ResourceKind × String) (w w' : LifecycleWorld) : Prop :=
  ∀ c : Copy, c.In w' → c.ReachedBy w' resource → c.In w ∧ c.ReachedBy w resource

/-- The audit event of a call is stored under the identifier of an event resource only where that
identifier is taken, so that it is not stored. -/
def FreshFor (env : LifecycleEnv) (w : LifecycleWorld)
    (resource : String × ResourceKind × String) : Prop :=
  resource.2.1 = .event → w.db.events.find? env.auditId = none → env.auditId ≠ resource.2.2

/-- The audit event of a call has another identifier than an event resource. -/
def AuditsOther (env : LifecycleEnv) (resource : String × ResourceKind × String) : Prop :=
  resource.2.1 = .event → env.auditId ≠ resource.2.2

theorem AuditsOther.freshFor {env : LifecycleEnv} {resource : String × ResourceKind × String}
    (h : AuditsOther env resource) (w : LifecycleWorld) : FreshFor env w resource :=
  fun hkind _ ↦ h hkind

namespace NoNewCopy

variable {resource : String × ResourceKind × String} {w w' w'' : LifecycleWorld}

theorem refl (w : LifecycleWorld) : NoNewCopy resource w w := fun _ hin hreach ↦ ⟨hin, hreach⟩

theorem trans (h : NoNewCopy resource w w') (h' : NoNewCopy resource w' w'') :
    NoNewCopy resource w w'' := fun c hin hreach ↦
  have hbefore := h' c hin hreach
  h c hbefore.1 hbefore.2

theorem noCopy (h : NoNewCopy resource w w') (hnone : NoCopy w resource) : NoCopy w' resource :=
  fun c hin hreach ↦ hnone c (h c hin hreach).1 (h c hin hreach).2

end NoNewCopy

theorem noNewCopy_updateJob {resource : String × ResourceKind × String} (w : LifecycleWorld)
    (jobId : String) (now : Timestamp) (state : DeletionState) (lastError : Option String)
    (e : Option DeletionEvidence) (increment : Bool) :
    NoNewCopy resource w (updateJob w jobId now state lastError e increment) :=
  fun c hin hreach ↦ by cases c <;> exact ⟨hin, hreach⟩

/-- An event that names no receipt is no copy of one. -/
theorem not_refersTo {row : Option Receipt} {id : String} {e : AuditEvent}
    {payload : List (String × Json)} (hpayload : e.payload = .obj payload)
    (hnode : e.nodeRunId = none) (hkeys : ∀ p ∈ payload, p.1 ≠ "receipt_id") :
    ¬refersTo row id e = true := by
  have hget : (Json.obj payload).get? "receipt_id" = none := by
    rw [Json.get?, Option.map_eq_none_iff, List.find?_eq_none]
    intro p hp
    simpa using hkeys p hp
  rw [refersTo, hpayload, payloadDict, Option.any_some, hget, hnode]
  cases row <;> simp

/-- An audit event is no copy of the resource, unless it takes the identifier of the resource. -/
theorem noNewCopy_emitAudit {resource : String × ResourceKind × String} {env : LifecycleEnv}
    {w : LifecycleWorld} (hfresh : FreshFor env w resource) (kind : EventKind) (actor : String)
    {payload : List (String × Json)} (hkeys : ∀ p ∈ payload, p.1 ≠ "receipt_id") :
    NoNewCopy resource w (emitAudit env w kind actor payload) := by
  obtain h | ⟨events, hins, h⟩ := emitAudit_cases env w kind actor payload
  · rw [h]
    exact NoNewCopy.refl w
  · rw [h]
    intro c hin hreach
    cases c with
    | event e =>
      have hmem : e ∈ events.rows := hin
      rw [KeyedTable.rows_of_insert hins, List.mem_append, List.mem_singleton] at hmem
      rcases hmem with hmem | rfl
      · exact ⟨hmem, hreach⟩
      · rcases hreach.2 with ⟨hkind, hid⟩ | ⟨-, -, href⟩
        · exact absurd hid (hfresh hkind (KeyedTable.find?_key_of_insert hins))
        · exact absurd href (not_refersTo rfl rfl hkeys)
    | receipt r => exact ⟨hin, hreach⟩
    | artifact a => exact ⟨hin, hreach⟩
    | webhook d => exact ⟨hin, hreach⟩

/-! ## What an adapter leaves -/

section Adapters

variable {P : Primitives} {env : LifecycleEnv} {w w' : LifecycleWorld} {row : DeletionJob}
  {e : DeletionEvidence}

theorem mem_redactReferences {db : Database} {tenantId id : String} {receiptRow : Option Receipt}
    {ev : AuditEvent}
    (h : ev ∈ (redactReferences env db tenantId receiptRow id).1.events.rows) :
    ev ∈ db.events.rows ∨ ev.payload = redactedPayload := by
  rw [redactReferences] at h
  split at h
  · exact Or.inl h
  · rw [redactAll_fst] at h
    obtain ⟨ev₀, hev₀, rfl⟩ := List.mem_map.mp h
    split_ifs
    · exact Or.inr rfl
    · exact Or.inl hev₀

theorem in_of_in_deleteArtifact {id : String} {c : Copy}
    (hin : c.In (deleteArtifact P env w id).1) : c.In w := by
  rw [deleteArtifact] at hin
  split at hin
  · exact hin
  · next t hwired =>
    dsimp only at hin
    split at hin
    · exact hin
    split at hin
    · cases c with
      | artifact a =>
        obtain ⟨t', ht', hmem⟩ := hin
        obtain rfl := Option.some.inj ht'
        exact ⟨t, hwired, (KeyedTable.mem_rows_delete.mp hmem).1⟩
      | _ => exact hin
    · exact hin

theorem in_of_in_deleteReceiptCopies {tenantId id : String}
    (h : deleteReceiptCopies P env w tenantId id = .ok (w', e)) {c : Copy} (hin : c.In w') :
    c.In w ∨ ∃ ev, c = .event ev ∧ ev.payload = redactedPayload := by
  rw [deleteReceiptCopies_eq P env w h] at hin
  obtain ⟨receipts, hrem⟩ := removeReceipt_fst env w.db id
  obtain ⟨events, hevents⟩ := redactReferences_fst env (removeReceipt env w.db id).1 tenantId
    (getReceipt w.db id) id
  cases c with
  | receipt r =>
    refine Or.inl ?_
    rw [Copy.In, hevents] at hin
    rcases removeReceipt_cases env w.db id with heq | ⟨heq, -⟩
    · rw [heq] at hin
      exact (KeyedTable.mem_rows_delete.mp hin).1
    · rw [heq] at hin
      exact hin
  | event ev =>
    rcases mem_redactReferences hin with hmem | hredacted
    · rw [hrem] at hmem
      exact Or.inl hmem
    · exact Or.inr ⟨ev, rfl, hredacted⟩
  | artifact a => exact Or.inl hin
  | webhook d => exact Or.inl hin

theorem in_of_in_deleteEventPayload {id : String} {c : Copy}
    (hin : c.In (deleteEventPayload env w id).1) :
    c.In w ∨ ∃ ev, c = .event ev ∧ ev.payload = redactedPayload := by
  rw [deleteEventPayload] at hin
  split at hin
  · exact Or.inl hin
  · cases c with
    | event ev =>
      obtain ⟨ev₀, hev₀, rfl⟩ := List.mem_map.mp hin
      split_ifs
      · exact Or.inr ⟨_, rfl, rfl⟩
      · exact Or.inl hev₀
    | receipt r => exact Or.inl hin
    | artifact a => exact Or.inl hin
    | webhook d => exact Or.inl hin

theorem in_of_in_deleteWebhookDelivery {id : String} {c : Copy}
    (hin : c.In (deleteWebhookDelivery env w id).1) : c.In w := by
  rw [deleteWebhookDelivery] at hin
  split at hin
  · exact hin
  · next t hwired =>
    split at hin
    · exact hin
    split at hin
    · cases c with
      | webhook d =>
        obtain ⟨t', ht', hmem⟩ := hin
        obtain rfl := Option.some.inj ht'
        exact ⟨t, hwired, (KeyedTable.mem_rows_delete.mp hmem).1⟩
      | _ => exact hin
    · exact hin

/-- An adapter creates no copy. -/
theorem in_of_in_runDeleter (h : runDeleter P env w row = .ok (w', e)) {c : Copy} (hin : c.In w') :
    c.In w ∨ ∃ ev, c = .event ev ∧ ev.payload = redactedPayload := by
  rw [runDeleter] at h
  cases hkind : row.resourceKind with
  | artifact =>
    simp only [hkind] at h
    obtain rfl := (congrArg Prod.fst (Except.ok.inj h)).symm
    exact Or.inl (in_of_in_deleteArtifact hin)
  | receipt =>
    simp only [hkind] at h
    exact in_of_in_deleteReceiptCopies h hin
  | event =>
    simp only [hkind] at h
    obtain rfl := (congrArg Prod.fst (Except.ok.inj h)).symm
    exact in_of_in_deleteEventPayload hin
  | webhook =>
    simp only [hkind] at h
    obtain rfl := (congrArg Prod.fst (Except.ok.inj h)).symm
    exact Or.inl (in_of_in_deleteWebhookDelivery hin)
  | cache | backup =>
    simp only [hkind] at h
    obtain rfl := (congrArg Prod.fst (Except.ok.inj h)).symm
    exact Or.inl hin

theorem noNewCopy_runDeleter (h : runDeleter P env w row = .ok (w', e))
    (resource : String × ResourceKind × String) : NoNewCopy resource w w' := by
  intro c hin hreach
  refine ⟨?_, (runDeleter_shrinks h).reachedBy hreach⟩
  rcases in_of_in_runDeleter h hin with hbefore | ⟨ev, rfl, hredacted⟩
  · exact hbefore
  · exact absurd hredacted hreach.1

/-- The environment without faults. -/
def calm (env : LifecycleEnv) : LifecycleEnv := { env with faults := {} }

theorem redactAll_calm {db : Database} {es : List AuditEvent} (h : (redactAll env db es).2 = []) :
    redactAll (calm env) db es = redactAll env db es := by
  induction es generalizing db with
  | nil => rfl
  | cons ev es ih =>
    rw [redactAll] at h ⊢
    cases hredact : env.faults.redact ev.eventId with
    | some text =>
      rw [hredact] at h
      cases h
    | none =>
      rw [hredact] at h
      rw [redactAll, hredact]
      exact ih h

theorem deleteArtifact_calm {id : String} (hkept : (deleteArtifact P env w id).2.copiesKept = 0) :
    deleteArtifact P (calm env) w id = deleteArtifact P env w id := by
  rw [deleteArtifact] at hkept ⊢
  rw [deleteArtifact]
  cases hwired : w.artifacts with
  | none => rfl
  | some t =>
    rw [hwired] at hkept
    cases hremove : env.faults.remove with
    | some text =>
      rw [hremove] at hkept
      cases hkept
    | none => rfl

theorem removeReceipt_calm {db : Database} {id : String}
    (hkept : (removeReceipt env db id).2.2 = []) :
    removeReceipt (calm env) db id = removeReceipt env db id := by
  rw [removeReceipt] at hkept ⊢
  rw [removeReceipt]
  split
  · next hfound =>
    rw [if_pos hfound] at hkept
    cases hremove : env.faults.remove with
    | some text =>
      rw [hremove] at hkept
      cases hkept
    | none => rfl
  · rfl

theorem redactReferences_calm {db : Database} {tenantId id : String}
    {receiptRow : Option Receipt}
    (hkept : (redactReferences env db tenantId receiptRow id).2 = []) :
    redactReferences (calm env) db tenantId receiptRow id =
      redactReferences env db tenantId receiptRow id := by
  rw [redactReferences] at hkept ⊢
  rw [redactReferences]
  cases hscan : env.faults.scan with
  | some text =>
    rw [hscan] at hkept
    cases hkept
  | none =>
    rw [hscan] at hkept
    exact redactAll_calm hkept

theorem deleteReceiptCopies_calm {tenantId id : String}
    (h : deleteReceiptCopies P env w tenantId id = .ok (w', e)) (hkept : e.copiesKept = 0) :
    deleteReceiptCopies P (calm env) w tenantId id = .ok (w', e) := by
  rw [deleteReceiptCopies] at h
  split at h
  · cases h
  rw [← h]
  obtain rfl := congrArg Prod.snd (Except.ok.inj h)
  obtain ⟨hremoved, hredacted⟩ := List.append_eq_nil_iff.mp (List.length_eq_zero_iff.mp hkept)
  rw [deleteReceiptCopies]
  change Except.ok (_, _) = _
  rw [removeReceipt_calm hremoved, redactReferences_calm hredacted]
  rfl

theorem deleteEventPayload_calm {id : String}
    (hkept : (deleteEventPayload env w id).2.copiesKept = 0) :
    deleteEventPayload (calm env) w id = deleteEventPayload env w id := by
  rw [deleteEventPayload] at hkept ⊢
  rw [deleteEventPayload]
  cases hredact : env.faults.redact id with
  | some text =>
    rw [hredact] at hkept
    cases hkept
  | none => rfl

theorem deleteWebhookDelivery_calm {id : String}
    (hkept : (deleteWebhookDelivery env w id).2.copiesKept = 0) :
    deleteWebhookDelivery (calm env) w id = deleteWebhookDelivery env w id := by
  rw [deleteWebhookDelivery] at hkept ⊢
  rw [deleteWebhookDelivery]
  cases hwired : w.webhooks with
  | none => rfl
  | some t =>
    rw [hwired] at hkept
    cases hremove : env.faults.remove with
    | some text =>
      rw [hremove] at hkept
      cases hkept
    | none => rfl

/-- An adapter that keeps nothing has met no fault. -/
theorem runDeleter_calm (h : runDeleter P env w row = .ok (w', e)) (hkept : e.copiesKept = 0) :
    runDeleter P (calm env) w row = .ok (w', e) := by
  rw [runDeleter] at h ⊢
  cases hkind : row.resourceKind with
  | artifact =>
    simp only [hkind] at h
    rw [← h]
    obtain rfl := congrArg Prod.snd (Except.ok.inj h)
    exact congrArg Except.ok (deleteArtifact_calm hkept)
  | receipt =>
    simp only [hkind] at h
    exact deleteReceiptCopies_calm h hkept
  | event =>
    simp only [hkind] at h
    rw [← h]
    obtain rfl := congrArg Prod.snd (Except.ok.inj h)
    exact congrArg Except.ok (deleteEventPayload_calm hkept)
  | webhook =>
    simp only [hkind] at h
    rw [← h]
    obtain rfl := congrArg Prod.snd (Except.ok.inj h)
    exact congrArg Except.ok (deleteWebhookDelivery_calm hkept)
  | cache | backup =>
    simp only [hkind] at h
    rw [← h]
    rfl

/-- **Nothing kept means nothing left.** -/
theorem noCopy_of_kept_eq_zero (h : runDeleter P env w row = .ok (w', e))
    (hkept : e.copiesKept = 0) : NoCopy w' row.resource := by
  intro c hin hreach
  obtain ⟨hbefore, hreached⟩ := noNewCopy_runDeleter h row.resource c hin hreach
  have hgone := (effect_runDeleter (runDeleter_calm h hkept) c hbefore).2 rfl hreached
  exact Copy.not_in_of_gone hgone hreached hin

end Adapters

/-! ## What the two methods leave -/

section Methods

variable {P : Primitives} {env : LifecycleEnv} {w : LifecycleWorld}
  {resource : String × ResourceKind × String}

/-- The details of a deletion event name no receipt. -/
theorem resourcePayload_keys (tenantId : String) (kind : ResourceKind) (id : String)
    {details : List (String × Json)} (hdetails : ∀ p ∈ details, p.1 ≠ "receipt_id") :
    ∀ p ∈ resourcePayload tenantId kind id ++ details, p.1 ≠ "receipt_id" := by
  rw [List.forall_mem_append]
  exact ⟨by simp [resourcePayload], hdetails⟩

theorem noNewCopy_recordOutcome (hfresh : FreshFor env w resource) (row : DeletionJob)
    (state : DeletionState) (lastError : Option String) (e : DeletionEvidence) (increment : Bool)
    (kind : EventKind) {details : List (String × Json)}
    (hdetails : ∀ p ∈ details, p.1 ≠ "receipt_id") : NoNewCopy resource w
      (recordOutcome env w row state lastError e increment kind details).1 := by
  rw [recordOutcome]
  split_ifs
  · exact NoNewCopy.refl w
  · have hupdate : NoNewCopy resource w
        (updateJob w row.jobId env.now state lastError (some e) increment) :=
      noNewCopy_updateJob w row.jobId env.now state lastError (some e) increment
    have hfresh' : FreshFor env
      (updateJob w row.jobId env.now state lastError (some e) increment) resource := hfresh
    refine hupdate.trans (noNewCopy_emitAudit hfresh' kind "orchestra"
      (resourcePayload_keys _ _ _ ?_))
    rw [List.forall_mem_cons]
    exact ⟨by simp, hdetails⟩

/-- The end of an execution adds no copy to what its adapter leaves. -/
theorem noNewCopy_finishDeletion (hfresh : FreshFor env w resource) (row : DeletionJob)
    (e : DeletionEvidence) : NoNewCopy resource w (finishDeletion env w row e).1 :=
  noNewCopy_recordOutcome hfresh row _ _ _ _ _ (by simp)

theorem noNewCopy_runJob (hother : AuditsOther env resource) (row : DeletionJob) :
    NoNewCopy resource w (runJob P env w row).1 := by
  rw [runJob]
  split
  · exact noNewCopy_recordOutcome (hother.freshFor w) row _ _ _ _ _ (by simp)
  · next w' e hrun =>
    have hadapter := noNewCopy_runDeleter hrun resource
    exact hadapter.trans (noNewCopy_finishDeletion (hother.freshFor w') row e)

/-- The event that an adapter has redacted is there, and keeps its identifier. -/
theorem freshFor_of_kept_eq_zero {w' : LifecycleWorld} {row : DeletionJob} {e : DeletionEvidence}
    (h : runDeleter P env w row = .ok (w', e)) (hkept : e.copiesKept = 0) :
    FreshFor env w' row.resource := by
  intro hkind hfree hid
  have hevent : row.resourceKind = .event := hkind
  rw [runDeleter, hevent] at h
  have hw : (deleteEventPayload env w row.resourceId).1 = w' :=
    congrArg Prod.fst (Except.ok.inj h)
  have he : (deleteEventPayload env w row.resourceId).2 = e :=
    congrArg Prod.snd (Except.ok.inj h)
  rw [← he, deleteEventPayload] at hkept
  rw [← hw, hid, deleteEventPayload] at hfree
  split at hkept
  · cases hkept
  · next hredact =>
    have hthere : (w.db.events.find? row.resourceId).isSome := by
      by_contra hnone
      have hdeleted : ¬(redactEventPayload w.db row.resourceId).2 = true := hnone
      dsimp only at hkept
      rw [if_neg hdeleted] at hkept
      cases hkept
    rw [hredact] at hfree
    have hgone : (w.db.events.updateAt row.resourceId redact redact_eventId).find? row.resourceId =
      none := hfree
    rw [KeyedTable.find?_updateAt_self, Option.map_eq_none_iff] at hgone
    rw [hgone] at hthere
    cases hthere

/-- An execution that completes its job leaves no copy. -/
theorem noCopy_runJob {row : DeletionJob} (hkept : (report P env w row).copiesKept = 0) :
    NoCopy (runJob P env w row).1 row.resource := by
  rw [runJob]
  rw [report] at hkept
  cases hrun : runDeleter P env w row with
  | error exc =>
    rw [hrun] at hkept
    cases hkept
  | ok result =>
    rw [hrun] at hkept
    have hfresh := freshFor_of_kept_eq_zero hrun hkept
    exact (noNewCopy_finishDeletion hfresh row _).noCopy (noCopy_of_kept_eq_zero hrun hkept)

theorem noNewCopy_executeDeletion (hother : AuditsOther env resource) (jobId : String) :
    NoNewCopy resource w (executeDeletion P env w jobId).1 := by
  rw [executeDeletion]
  split
  · exact NoNewCopy.refl w
  · next row hrow =>
    split_ifs
    · exact NoNewCopy.refl w
    · exact NoNewCopy.refl w
    · exact (noNewCopy_updateJob w jobId env.now .running none none false).trans
        (noNewCopy_runJob hother row)

/-- **The rows that say `deleted` after an execution**: the job was completed before, or this
execution has completed it and no copy is left. -/
theorem noCopy_of_executeDeletion {jobId id : String} {row' : DeletionJob}
    (hrow' : (executeDeletion P env w jobId).1.db.jobs.jobs.find? id = some row')
    (hstate : row'.state = .deleted) :
    w.db.jobs.jobs.find? id = some row' ∨
      NoCopy (executeDeletion P env w jobId).1 row'.resource := by
  cases hrow : w.db.jobs.jobs.find? jobId with
  | none =>
    rw [executeDeletion, hrow] at hrow'
    exact Or.inl hrow'
  | some row =>
    by_cases hcan : CanExecute row
    swap
    · rw [executeDeletion_of_not hrow hcan] at hrow'
      exact Or.inl hrow'
    cases hmark : env.faults.mark with
    | true =>
      have hsame : (executeDeletion P env w jobId).1 = w := by
        rw [executeDeletion, hrow]
        dsimp only
        rw [if_neg hcan, hmark, if_pos rfl]
      rw [hsame] at hrow'
      exact Or.inl hrow'
    | false =>
      obtain rfl : row.jobId = jobId := KeyedTable.key_of_find? hrow
      have hexec : executeDeletion P env w row.jobId = _ := executeDeletion_eq hrow hcan hmark
      obtain ⟨state, lastError, increment, hjobs, hdeleted⟩ :=
        jobs_runJob P env (updateJob w row.jobId env.now .running none none false) row
      rw [hexec] at hrow' ⊢
      rw [hjobs] at hrow'
      by_cases hid : id = row.jobId
      · subst hid
        have hrunning : (updateJob w row.jobId env.now .running none none false).db.jobs.jobs.find?
            row.jobId = some (updateJobRow env.now .running none none false row) := by
          rw [updateJob, find?_updateDeletionJob, hrow]
          rfl
        split_ifs at hrow'
        · -- the job is still running
          obtain rfl := Option.some.inj (hrunning.symm.trans hrow')
          cases hstate
        · rw [find?_updateDeletionJob, hrunning] at hrow'
          obtain rfl := Option.some.inj hrow'
          exact Or.inr (noCopy_runJob (hdeleted.mp hstate))
      · refine Or.inl ?_
        split_ifs at hrow'
        · rw [updateJob, updateDeletionJob, KeyedTable.find?_updateAt, if_neg hid] at hrow'
          exact hrow'
        · rw [updateDeletionJob, KeyedTable.find?_updateAt, if_neg hid, updateJob,
            updateDeletionJob, KeyedTable.find?_updateAt, if_neg hid] at hrow'
          exact hrow'

theorem noNewCopy_fileJob (r : DeleteRequest) : NoNewCopy resource w (fileJob env w r).1 := by
  rw [fileJob]
  split
  · exact NoNewCopy.refl w
  · intro c hin hreach
    cases c <;> exact ⟨hin, hreach⟩

theorem noNewCopy_delete (hother : AuditsOther env resource) (r : DeleteRequest) :
    NoNewCopy resource w (delete env w r).1 := by
  have haudit (kind : EventKind) {details : List (String × Json)}
      (hdetails : ∀ p ∈ details, p.1 ≠ "receipt_id") : NoNewCopy resource w
        (emitAudit env w kind r.requestedBy
          (resourcePayload r.tenantId r.resourceKind r.resourceId ++ details)) :=
    noNewCopy_emitAudit (hother.freshFor w) kind r.requestedBy
      (resourcePayload_keys _ _ _ hdetails)
  rw [delete]
  dsimp only
  split
  · exact NoNewCopy.refl w
  split_ifs
  · exact haudit .deletionBlocked (by simp)
  · exact haudit .deletionBlocked (by simp)
  · exact (haudit .deletionRequested (by simp)).trans (noNewCopy_fileJob r)

theorem find?_of_fileJob {r : DeleteRequest} {id : String} {row : DeletionJob}
    (hrow : (fileJob env w r).1.db.jobs.jobs.find? id = some row) :
    w.db.jobs.jobs.find? id = some row ∨ row.state = .pending := by
  rw [fileJob, createDeletionJob] at hrow
  split at hrow
  · exact Or.inl hrow
  · next jobs job hcreate =>
    split at hcreate
    · cases hcreate
      exact Or.inl hrow
    · next hnone =>
      rcases insertJob_cases (newJobRow env.now (requestedJob env r)) hnone with
        ⟨herr, -⟩ | ⟨t, hok, hins⟩
      · rw [herr] at hcreate
        cases hcreate
      · rw [hok] at hcreate
        cases hcreate
        change jobs.jobs.find? id = some row at hrow
        rw [KeyedTable.find?_insert hins] at hrow
        split_ifs at hrow
        · obtain rfl := Option.some.inj hrow
          exact Or.inr rfl
        · exact Or.inl hrow

/-- A request completes no job. -/
theorem find?_of_delete {r : DeleteRequest} {id : String} {row : DeletionJob}
    (hrow : (delete env w r).1.db.jobs.jobs.find? id = some row) (hstate : row.state = .deleted) :
    w.db.jobs.jobs.find? id = some row := by
  rw [delete] at hrow
  dsimp only at hrow
  split at hrow
  · exact hrow
  split_ifs at hrow
  · rwa [emitAudit_jobs] at hrow
  · rwa [emitAudit_jobs] at hrow
  · rcases find?_of_fileJob hrow with hrow | hpending
    · rwa [emitAudit_jobs] at hrow
    · rw [hpending] at hstate
      cases hstate

/-! ### The job that is returned -/

theorem find?_of_rowToJob {jobId : String} {job : DeletionJob} (h : rowToJob w jobId = .ok job) :
    w.db.jobs.jobs.find? jobId = some job := by
  rw [rowToJob] at h
  split at h
  · next row hrow => rw [hrow, Except.ok.inj h]
  · cases h

theorem find?_of_recordOutcome {row job : DeletionJob} {state : DeletionState}
    {lastError : Option String} {e : DeletionEvidence} {increment : Bool} {kind : EventKind}
    {details : List (String × Json)}
    (h : (recordOutcome env w row state lastError e increment kind details).2 = .ok job) :
    (recordOutcome env w row state lastError e increment kind details).1.db.jobs.jobs.find?
      row.jobId = some job := by
  rw [recordOutcome] at h ⊢
  split_ifs at h ⊢
  exact find?_of_rowToJob h

theorem find?_of_runJob {row job : DeletionJob} (h : (runJob P env w row).2 = .ok job) :
    (runJob P env w row).1.db.jobs.jobs.find? row.jobId = some job := by
  rw [runJob] at h ⊢
  cases hrun : runDeleter P env w row with
  | error exc =>
    rw [hrun] at h
    exact find?_of_recordOutcome h
  | ok result =>
    rw [hrun] at h
    exact find?_of_recordOutcome h

/-- An execution returns the row it leaves. -/
theorem find?_of_executeDeletion {jobId : String} {job : DeletionJob}
    (h : (executeDeletion P env w jobId).2 = .ok job) :
    (executeDeletion P env w jobId).1.db.jobs.jobs.find? jobId = some job := by
  cases hrow : w.db.jobs.jobs.find? jobId with
  | none =>
    rw [executeDeletion, hrow] at h
    cases h
  | some row =>
    obtain rfl : row.jobId = jobId := KeyedTable.key_of_find? hrow
    rw [executeDeletion, hrow] at h ⊢
    dsimp only at h ⊢
    split_ifs at h ⊢
    · rw [hrow, Except.ok.inj h]
    · exact find?_of_runJob h

/-- A completed job is returned as it is. -/
theorem executeDeletion_of_deleted {jobId : String} {row : DeletionJob}
    (hrow : w.db.jobs.jobs.find? jobId = some row) (hstate : row.state = .deleted) :
    executeDeletion P env w jobId = (w, .ok row) := by
  rw [executeDeletion, hrow]
  dsimp only
  rw [if_pos (by simp [hstate])]

end Methods

/-! ## Histories -/

/-- The calls of the manager, and the changes that the rest of the system makes to the stores: a
creation, a creation under an identifier that was in use before, or anything else. -/
inductive LifecycleAction where
  | change (f : LifecycleWorld → LifecycleWorld)
  | delete (env : LifecycleEnv) (r : DeleteRequest)
  | execute (env : LifecycleEnv) (jobId : String)

/-- Only the manager writes jobs. -/
def lifecycleStep (P : Primitives) (w : LifecycleWorld) : LifecycleAction → LifecycleWorld
  | .change f => withJobs (f w) w.db.jobs
  | .delete env r => (delete env w r).1
  | .execute env jobId => (executeDeletion P env w jobId).1

/-- An execution that returns a job in state `deleted` leaves no copy of its resource. -/
def Truthful (P : Primitives) (w : LifecycleWorld) : LifecycleAction → Prop
  | .execute env jobId => ∀ job, (executeDeletion P env w jobId).2 = .ok job →
      job.state = .deleted → NoCopy (executeDeletion P env w jobId).1 job.resource
  | _ => True

/-- A job that is executed after it has been completed finds no copy of its resource. -/
def NotStale (w : LifecycleWorld) : LifecycleAction → Prop
  | .execute _ jobId => ∀ row, w.db.jobs.jobs.find? jobId = some row → row.state = .deleted →
      NoCopy w row.resource
  | _ => True

section Histories

variable {P : Primitives} {w : LifecycleWorld} {a : LifecycleAction}

theorem truthful_iff_notStale : Truthful P w a ↔ NotStale w a := by
  cases a with
  | change f => exact Iff.rfl
  | delete env r => exact Iff.rfl
  | execute env jobId =>
    constructor
    · intro htruthful row hrow hstate
      have hreturn : executeDeletion P env w jobId = (w, .ok row) :=
        executeDeletion_of_deleted hrow hstate
      have hnone := htruthful row (by rw [hreturn]) hstate
      rwa [hreturn] at hnone
    · intro hstale job hjob hstate
      rcases noCopy_of_executeDeletion (find?_of_executeDeletion hjob) hstate with hbefore | hnone
      · rw [executeDeletion_of_deleted hbefore hstate]
        exact hstale job hbefore hstate
      · exact hnone

/-- **What the report says.** Along a history of creations, requests and executions, every execution
that returns a job in state `deleted` leaves no copy of its resource, exactly as long as no
completed job is executed while there is a copy of its resource. -/
theorem allSteps_truthful_iff (P : Primitives) (w : LifecycleWorld) (as : List LifecycleAction) :
    AllSteps (lifecycleStep P) (Truthful P) w as ↔ AllSteps (lifecycleStep P) NotStale w as :=
  ⟨fun h ↦ h.imp fun _ _ ↦ truthful_iff_notStale.mp,
    fun h ↦ h.imp fun _ _ ↦ truthful_iff_notStale.mpr⟩

/-! ### A history that creates an artifact twice -/

/-- `InMemoryDevArtifactStore.put`. -/
def putArtifact (a : Artifact) (w : LifecycleWorld) : LifecycleWorld :=
  { w with artifacts := w.artifacts.map fun t ↦ t.put a }

def invoice : Artifact where
  artifactId := "a1"
  payload := .str "draft"

def artifactRequest : DeleteRequest where
  tenantId := "tA"
  resourceKind := .artifact
  resourceId := "a1"
  requestedBy := "alice"

/-- The environment of a call of the history. -/
def callAt (now : ℕ) (freshId auditId : String) : LifecycleEnv where
  now := now
  occurredAt := now
  freshId := freshId
  auditId := auditId

/-- The artifact is created and deleted, and then both again. -/
def deletedTwice : List LifecycleAction :=
  [.change (putArtifact invoice), .delete (callAt 1 "j1" "e1") artifactRequest,
    .execute (callAt 2 "" "e2") "j1", .change (putArtifact invoice),
    .delete (callAt 3 "j2" "e3") artifactRequest, .execute (callAt 4 "" "e4") "j1"]

def emptyWorld : LifecycleWorld where
  db := {}
  artifacts := some ⟨[], by decide⟩

/-- The second deletion returns the job of the first, which says `deleted`, and the artifact is
there. -/
theorem second_deletion_stale :
    ¬∀ (P : Primitives) (w : LifecycleWorld) (as : List LifecycleAction),
      w.db.jobs.jobs.rows = [] → AllSteps (lifecycleStep P) (Truthful P) w as := by
  intro hall
  obtain ⟨-, -, -, -, -, hlast, -⟩ := hall
    ⟨fun _ ↦ List.replicate 32 3, fun _ _ ↦ List.replicate 32 3, fun _ _ ↦ by decide⟩ emptyWorld
    deletedTwice rfl
  have hstale := truthful_iff_notStale.mp hlast
  exact hstale _ rfl rfl (.artifact invoice) ⟨_, rfl, List.mem_singleton_self _⟩ ⟨rfl, rfl⟩

/-! ### Histories that create nothing twice -/

/-- A completed job has left no copy of its resource. -/
def DeletedGone (w : LifecycleWorld) : Prop :=
  ∀ id row, w.db.jobs.jobs.find? id = some row → row.state = .deleted → NoCopy w row.resource

/-- The step brings no copy of a resource back whose job is completed. -/
def BringsNoneBack (w : LifecycleWorld) (a : LifecycleAction) : Prop :=
  ∀ id row, w.db.jobs.jobs.find? id = some row → row.state = .deleted →
    match a with
    | .change f => NoNewCopy row.resource w (f w)
    | .delete env _ | .execute env _ => AuditsOther env row.resource

theorem DeletedGone.step (h : DeletedGone w) (hback : BringsNoneBack w a) :
    DeletedGone (lifecycleStep P w a) := by
  intro id row hrow hstate
  cases a with
  | change f =>
    have hnone := (hback id row hrow hstate).noCopy (h id row hrow hstate)
    intro c hin hreach
    refine hnone c ?_ ?_
    · cases c <;> exact hin
    · cases c <;> exact hreach
  | delete env r =>
    have hbefore := find?_of_delete hrow hstate
    have hother : AuditsOther env row.resource := hback id row hbefore hstate
    exact (noNewCopy_delete hother r).noCopy (h id row hbefore hstate)
  | execute env jobId =>
    rcases noCopy_of_executeDeletion hrow hstate with hbefore | hnone
    · have hother : AuditsOther env row.resource := hback id row hbefore hstate
      exact (noNewCopy_executeDeletion hother jobId).noCopy (h id row hbefore hstate)
    · exact hnone

/-- As long as nothing is created under the identifier of a resource whose job is completed, no
report is stale. -/
theorem allSteps_notStale (h : DeletedGone w) {as : List LifecycleAction}
    (hback : AllSteps (lifecycleStep P) BringsNoneBack w as) :
    AllSteps (lifecycleStep P) NotStale w as := by
  refine AllSteps.of_invariant (I := DeletedGone) (fun _ _ hgone hstep ↦ hgone.step hstep) ?_ h
    hback
  intro w' a hgone _
  cases a with
  | change f => trivial
  | delete env r => trivial
  | execute env jobId => exact hgone jobId

end Histories

end LifecycleManager

end Orchestra
