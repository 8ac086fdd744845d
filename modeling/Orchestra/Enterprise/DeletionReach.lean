import Orchestra.Enterprise.Lifecycle

/-!
# What a deletion reaches

A deletion job names a kind and an identifier; what its adapter removes or redacts are copies: rows
of the receipts, payloads of events, artifacts and webhook deliveries. `Copy.ReachedBy` says which
copies those are, in terms of the state the adapter starts from, and this file proves that it is
right: a copy that is not reached is still there afterwards (`Attempted.in_of_not_reached`), and a
copy that is reached is gone when nothing raised (`Attempted.not_in_of_reached`).

Around the adapter, the manager only updates jobs and appends audit events. `Quiet` collects what
such steps leave alone, and `attempted_executeDeletion` and `attempted_retryDeletion` say that each
of the two methods is a run of the adapter between quiet steps, or a quiet step in which something
raised.
-/

namespace Orchestra

open EventStore LifecycleManager

/-- A copy of a resource, with its content. -/
inductive Copy where
  | receipt (r : Receipt)
  | event (e : AuditEvent)
  | artifact (a : Artifact)
  | webhook (d : WebhookDelivery)

/-- The tenant of a task run. -/
def taskTenant (db : Database) (taskRunId : Option String) : Option String :=
  (taskRunId.bind db.taskRuns.find?).bind TaskRun.tenantId

namespace Copy

/-- The copy is stored, unchanged. -/
def In (w : LifecycleWorld) : Copy → Prop
  | .receipt r => r ∈ w.db.receipts.rows
  | .event e => e ∈ w.db.events.rows
  | .artifact a => ∃ t, w.artifacts = some t ∧ a ∈ t.rows
  | .webhook d => ∃ t, w.webhooks = some t ∧ d ∈ t.rows

/-- The tenant a copy belongs to: the tenant column of its row, otherwise the tenant of its task
run. The artifact store keeps no tenant, so whose artifact it is comes from outside. -/
def owner (artifactOwner : String → Option String) (w : LifecycleWorld) : Copy → Option String
  | .receipt r => r.tenantId.or (taskTenant w.db (some r.taskRunId))
  | .event e => e.tenantId.or (taskTenant w.db e.taskRunId)
  | .artifact a => artifactOwner a.artifactId
  | .webhook d => taskTenant w.db (some d.taskRunId)

/-- The copies of a resource: the entry under its identifier and, for a receipt, the payloads of the
events that refer to it. -/
def IsOf (w : LifecycleWorld) (kind : ResourceKind) (id : String) : Copy → Prop
  | .receipt r => kind = .receipt ∧ r.receiptId = id
  | .event e =>
    (kind = .event ∧ e.eventId = id) ∨ (kind = .receipt ∧ refersTo (getReceipt w.db id) id e)
  | .artifact a => kind = .artifact ∧ a.artifactId = id
  | .webhook d => kind = .webhook ∧ d.deliveryId = id

/-- The copies that a job for `(tenant, kind, id)` removes or changes. The tenant matters for one
kind only: events that refer to a receipt are looked for in the tenant's scan. A payload that is
redacted already does not change. -/
def ReachedBy (w : LifecycleWorld) (resource : String × ResourceKind × String) : Copy → Prop
  | .receipt r => resource.2.1 = .receipt ∧ r.receiptId = resource.2.2
  | .event e => e.payload ≠ redactedPayload ∧
    ((resource.2.1 = .event ∧ e.eventId = resource.2.2) ∨
      (resource.2.1 = .receipt ∧ inScanOf w.db resource.1 e ∧
        refersTo (getReceipt w.db resource.2.2) resource.2.2 e))
  | .artifact a => resource.2.1 = .artifact ∧ a.artifactId = resource.2.2
  | .webhook d => resource.2.1 = .webhook ∧ d.deliveryId = resource.2.2

/-- What a removal leaves in the place of a copy. -/
def Gone (w : LifecycleWorld) : Copy → Prop
  | .receipt r => w.db.receipts.find? r.receiptId = none
  | .event e => w.db.events.find? e.eventId = some (redact e)
  | .artifact a => ∃ t, w.artifacts = some t ∧ t.find? a.artifactId = none
  | .webhook d => ∃ t, w.webhooks = some t ∧ t.find? d.deliveryId = none

section Kinds

variable {w : LifecycleWorld} {tenantId id : String} {c : Copy}

theorem reachedBy_artifact_iff :
    c.ReachedBy w (tenantId, .artifact, id) ↔ ∃ a, c = .artifact a ∧ a.artifactId = id := by
  cases c <;> simp [ReachedBy]

theorem reachedBy_webhook_iff :
    c.ReachedBy w (tenantId, .webhook, id) ↔ ∃ d, c = .webhook d ∧ d.deliveryId = id := by
  cases c <;> simp [ReachedBy]

theorem not_reachedBy_cache : ¬c.ReachedBy w (tenantId, .cache, id) := by
  cases c <;> simp [ReachedBy]

theorem not_reachedBy_backup : ¬c.ReachedBy w (tenantId, .backup, id) := by
  cases c <;> simp [ReachedBy]

end Kinds

theorem not_in_of_gone {w w' : LifecycleWorld} {resource : String × ResourceKind × String}
    {c : Copy} (hgone : c.Gone w') (hreached : c.ReachedBy w resource) : ¬c.In w' := by
  cases c with
  | receipt r =>
    intro hin
    rw [Gone, KeyedTable.find?_of_mem hin] at hgone
    cases hgone
  | event e =>
    intro hin
    rw [Gone, KeyedTable.find?_of_mem hin, Option.some.injEq] at hgone
    exact hreached.1 (congrArg AuditEvent.payload hgone)
  | artifact a =>
    rintro ⟨t, ht, hin⟩
    obtain ⟨t', ht', hnone⟩ := hgone
    obtain rfl : t = t' := Option.some.inj (ht.symm.trans ht')
    rw [KeyedTable.find?_of_mem hin] at hnone
    cases hnone
  | webhook d =>
    rintro ⟨t, ht, hin⟩
    obtain ⟨t', ht', hnone⟩ := hgone
    obtain rfl : t = t' := Option.some.inj (ht.symm.trans ht')
    rw [KeyedTable.find?_of_mem hin] at hnone
    cases hnone

end Copy

/-! ## Quiet steps -/

/-- A step that removes and changes no copy: jobs keep their resource, events are only added. -/
structure Quiet (w w' : LifecycleWorld) : Prop where
  taskRuns : w'.db.taskRuns = w.db.taskRuns
  receipts : w'.db.receipts = w.db.receipts
  events : ∀ k e, w.db.events.find? k = some e → w'.db.events.find? k = some e
  artifacts : w'.artifacts = w.artifacts
  webhooks : w'.webhooks = w.webhooks
  jobs : ∀ id j, w.db.jobs.jobs.find? id = some j →
    ∃ j', w'.db.jobs.jobs.find? id = some j' ∧ j'.resource = j.resource

namespace Quiet

variable {w w' w'' : LifecycleWorld} {c : Copy} {resource : String × ResourceKind × String}

theorem refl (w : LifecycleWorld) : Quiet w w :=
  ⟨rfl, rfl, fun _ _ h ↦ h, rfl, rfl, fun _ j h ↦ ⟨j, h, rfl⟩⟩

theorem trans (h : Quiet w w') (h' : Quiet w' w'') : Quiet w w'' where
  taskRuns := h'.taskRuns.trans h.taskRuns
  receipts := h'.receipts.trans h.receipts
  events := fun k e he ↦ h'.events k e (h.events k e he)
  artifacts := h'.artifacts.trans h.artifacts
  webhooks := h'.webhooks.trans h.webhooks
  jobs := fun id j hj ↦ by
    obtain ⟨j', hj', hres'⟩ := h.jobs id j hj
    obtain ⟨j'', hj'', hres''⟩ := h'.jobs id j' hj'
    exact ⟨j'', hj'', hres''.trans hres'⟩

theorem in_of_in (h : Quiet w w') (hin : c.In w) : c.In w' := by
  cases c with
  | receipt r => rwa [Copy.In, h.receipts]
  | event e => exact KeyedTable.mem_of_find? (h.events _ e (KeyedTable.find?_of_mem hin))
  | artifact a => rwa [Copy.In, h.artifacts]
  | webhook d => rwa [Copy.In, h.webhooks]

theorem gone_of_gone (h : Quiet w w') (hgone : c.Gone w) : c.Gone w' := by
  cases c with
  | receipt r => rwa [Copy.Gone, h.receipts]
  | event e => exact h.events _ _ hgone
  | artifact a => rwa [Copy.Gone, h.artifacts]
  | webhook d => rwa [Copy.Gone, h.webhooks]

theorem reachedBy_iff (h : Quiet w w') : c.ReachedBy w' resource ↔ c.ReachedBy w resource := by
  cases c with
  | event e => simp only [Copy.ReachedBy, inScanOf, getReceipt, h.taskRuns, h.receipts]
  | receipt r => rfl
  | artifact a => rfl
  | webhook d => rfl

end Quiet

/-! ## What no deletion enlarges -/

/-- Task runs stay, jobs keep their resource, and no receipt is added. -/
structure Shrinks (w w' : LifecycleWorld) : Prop where
  taskRuns : w'.db.taskRuns = w.db.taskRuns
  receipts : ∀ k r, w'.db.receipts.find? k = some r → w.db.receipts.find? k = some r
  jobs : ∀ id j, w.db.jobs.jobs.find? id = some j →
    ∃ j', w'.db.jobs.jobs.find? id = some j' ∧ j'.resource = j.resource

theorem Quiet.shrinks {w w' : LifecycleWorld} (h : Quiet w w') : Shrinks w w' :=
  ⟨h.taskRuns, fun k r hr ↦ by rwa [← h.receipts], h.jobs⟩

theorem Shrinks.trans {w w' w'' : LifecycleWorld} (h : Shrinks w w') (h' : Shrinks w' w'') :
    Shrinks w w'' where
  taskRuns := h'.taskRuns.trans h.taskRuns
  receipts := fun k r hr ↦ h.receipts k r (h'.receipts k r hr)
  jobs := fun id j hj ↦ by
    obtain ⟨j', hj', hres'⟩ := h.jobs id j hj
    obtain ⟨j'', hj'', hres''⟩ := h'.jobs id j' hj'
    exact ⟨j'', hj'', hres''.trans hres'⟩

/-- An event that names the receipt refers to it, whether or not the receipt's row is there. -/
theorem refersTo_of_none {id : String} {e : AuditEvent} (receiptRow : Option Receipt)
    (h : refersTo none id e) : refersTo receiptRow id e := by
  rw [refersTo, Option.any_eq_true] at h ⊢
  obtain ⟨p, hp, hname⟩ := h
  refine ⟨p, hp, ?_⟩
  rw [Option.any_none, Bool.or_false] at hname
  rw [hname, Bool.true_or]

/-- A job reaches nothing later that it does not reach now. -/
theorem Shrinks.reachedBy {w w' : LifecycleWorld} (h : Shrinks w w') {c : Copy}
    {resource : String × ResourceKind × String} (hreach : c.ReachedBy w' resource) :
    c.ReachedBy w resource := by
  cases c with
  | event e =>
    refine ⟨hreach.1, hreach.2.imp_right fun hrec ↦ ⟨hrec.1, ?_, ?_⟩⟩
    · have := hrec.2.1
      rwa [inScanOf, h.taskRuns] at this
    · cases hold : getReceipt w'.db resource.2.2 with
      | some r =>
        rw [getReceipt, h.receipts _ r hold, ← hold]
        exact hrec.2.2
      | none => exact refersTo_of_none _ (hold ▸ hrec.2.2)
  | receipt r => exact hreach
  | artifact a => exact hreach
  | webhook d => exact hreach

namespace LifecycleManager

variable (P : Primitives) (env : LifecycleEnv) (w : LifecycleWorld)

theorem quiet_emitAudit (kind : EventKind) (actor : String) (payload : List (String × Json)) :
    Quiet w (emitAudit env w kind actor payload) := by
  obtain h | ⟨events, hins, h⟩ := emitAudit_cases env w kind actor payload
  · rw [h]
    exact Quiet.refl w
  · rw [h]
    exact ⟨rfl, rfl, fun k e he ↦ KeyedTable.find?_insert_of_some hins he, rfl, rfl,
      fun _ j hj ↦ ⟨j, hj, rfl⟩⟩

/-- An update keeps the resource of every job. -/
theorem find?_updateJob (jobId : String) (now : Timestamp) (state : DeletionState)
    (lastError : Option String) (e : Option DeletionEvidence) (increment : Bool) (id : String) :
    ((updateJob w jobId now state lastError e increment).db.jobs.jobs.find? id).map
        DeletionJob.resource
      = (w.db.jobs.jobs.find? id).map DeletionJob.resource := by
  rw [updateJob, updateDeletionJob, KeyedTable.find?_updateAt]
  split
  · rw [Option.map_map]; rfl
  · rfl

theorem quiet_updateJob (jobId : String) (now : Timestamp) (state : DeletionState)
    (lastError : Option String) (e : Option DeletionEvidence) (increment : Bool) :
    Quiet w (updateJob w jobId now state lastError e increment) where
  taskRuns := rfl
  receipts := rfl
  events := fun _ _ h ↦ h
  artifacts := rfl
  webhooks := rfl
  jobs := fun id j hj ↦ by
    have h := find?_updateJob w jobId now state lastError e increment id
    rw [hj, Option.map_some, Option.map_eq_some_iff] at h
    exact h

theorem quiet_recordOutcome (row : DeletionJob) (state : DeletionState) (lastError : Option String)
    (e : DeletionEvidence) (increment : Bool) (kind : EventKind) (details : List (String × Json)) :
    Quiet w (recordOutcome env w row state lastError e increment kind details).1 := by
  rw [recordOutcome]
  split
  · exact Quiet.refl w
  · exact (quiet_updateJob w row.jobId env.now state lastError (some e) increment).trans
      (quiet_emitAudit env _ _ _ _)

/-! ## The adapters -/

/-- What the redaction loop does to the events. -/
theorem redactAll_fst (db : Database) (es : List AuditEvent) :
    (redactAll env db es).1 = { db with
      events := db.events.update (fun e ↦ es.any fun e' ↦
        decide (e'.eventId = e.eventId ∧ env.faults.redact e.eventId = none)) redact
        redact_eventId } := by
  induction es generalizing db with
  | nil =>
    have h : db.events.update (fun e ↦ ([] : List AuditEvent).any fun e' ↦
        decide (e'.eventId = e.eventId ∧ env.faults.redact e.eventId = none)) redact
        redact_eventId = db.events := by
      ext1
      simp [KeyedTable.update]
    rw [redactAll, h]
  | cons e es ih =>
    rw [redactAll]
    split
    · next hok =>
      rw [ih, redactEventPayload]
      congr 1
      ext1
      simp only [KeyedTable.updateAt, KeyedTable.update, List.map_map]
      refine List.map_congr_left fun a _ ↦ ?_
      by_cases ha : a.eventId = e.eventId
      · simp [ha, hok, redact]
      · simp [ha, Ne.symm ha]
    · next text hfault =>
      rw [ih]
      congr 1
      ext1
      simp only [KeyedTable.update]
      refine List.map_congr_left fun a _ ↦ ?_
      by_cases ha : a.eventId = e.eventId
      · simp [ha, hfault]
      · simp [Ne.symm ha]

/-- Redaction changes nothing but events. -/
theorem redactReferences_fst (db : Database) (tenantId : String) (receiptRow : Option Receipt)
    (receiptId : String) : ∃ events,
      (redactReferences env db tenantId receiptRow receiptId).1 = { db with events := events } := by
  rw [redactReferences]
  split
  · exact ⟨db.events, rfl⟩
  · exact ⟨_, redactAll_fst env db _⟩

/-- An event is redacted when the scan finds it, it refers to the receipt and nothing raises. -/
theorem find?_redactReferences (db : Database) (tenantId : String) (receiptRow : Option Receipt)
    (receiptId : String) {e : AuditEvent} (he : e ∈ db.events.rows) :
    (redactReferences env db tenantId receiptRow receiptId).1.events.find? e.eventId
      = some (if env.faults.scan = none ∧ env.faults.redact e.eventId = none ∧
          inScanOf db tenantId e ∧ refersTo receiptRow receiptId e then redact e else e) := by
  rw [redactReferences]
  split
  · next text hscan =>
    rw [if_neg (by simp [hscan]), KeyedTable.find?_of_mem he]
  · next hscan =>
    rw [redactAll_fst, KeyedTable.find?_update, KeyedTable.find?_of_mem he, Option.map_some]
    congr 1
    refine if_congr ?_ rfl rfl
    simp only [List.any_eq_true, List.mem_filter, mem_listEventsForResource, decide_eq_true_eq]
    constructor
    · rintro ⟨e', ⟨⟨hmem, hin⟩, href⟩, hid, hok⟩
      obtain rfl := KeyedTable.eq_of_mem_of_key_eq hmem he hid
      exact ⟨hscan, hok, hin, href⟩
    · rintro ⟨-, hok, hin, href⟩
      exact ⟨e, ⟨⟨he, hin⟩, href⟩, rfl, hok⟩

/-- The removal of a receipt's row changes nothing but receipts, of which only this one can go. -/
theorem removeReceipt_cases (db : Database) (id : String) :
    (removeReceipt env db id).1 = (deleteReceipt db id).1 ∨
      (removeReceipt env db id).1 = db ∧
        (env.faults.remove = none → db.receipts.find? id = none) := by
  rw [removeReceipt]
  split
  · split
    · next text hremove => exact Or.inr ⟨rfl, fun h ↦ by rw [h] at hremove; cases hremove⟩
    · exact Or.inl rfl
  · next hrow => exact Or.inr ⟨rfl, fun _ ↦ Option.not_isSome_iff_eq_none.mp hrow⟩

theorem removeReceipt_fst (db : Database) (id : String) :
    ∃ receipts, (removeReceipt env db id).1 = { db with receipts := receipts } := by
  rcases removeReceipt_cases env db id with hrem | ⟨hrem, -⟩
  · exact ⟨_, hrem⟩
  · exact ⟨db.receipts, hrem⟩

/-- The receipt adapter: the row first, then the events. -/
theorem deleteReceiptCopies_eq {w' : LifecycleWorld} {tenantId id : String}
    {e : DeletionEvidence} (h : deleteReceiptCopies P env w tenantId id = .ok (w', e)) :
    w' = { w with
      db := (redactReferences env (removeReceipt env w.db id).1 tenantId (getReceipt w.db id)
        id).1 } := by
  rw [deleteReceiptCopies] at h
  split at h
  · cases h
  · cases h; rfl

theorem redact_eq_self {e : AuditEvent} (h : e.payload = redactedPayload) : redact e = e := by
  rw [redact, ← h]

section Adapters

variable {P env w} {w' : LifecycleWorld} {ev : DeletionEvidence} {job : DeletionJob} {c : Copy}

/-- An adapter changes only the stores its copies are in. -/
theorem runDeleter_eq (h : runDeleter P env w job = .ok (w', ev)) :
    ∃ receipts events artifacts webhooks,
      w' = ⟨{ w.db with receipts := receipts, events := events }, artifacts, webhooks⟩ ∧
      ((receipts = w.db.receipts ∨
        receipts = w.db.receipts.delete fun r ↦ decide (r.receiptId = job.resourceId))) := by
  rw [runDeleter] at h
  cases hkind : job.resourceKind with
  | artifact =>
    simp only [hkind, Except.ok.injEq] at h
    obtain rfl := (congrArg Prod.fst h).symm
    rw [deleteArtifact]
    split
    · exact ⟨_, _, _, _, rfl, Or.inl rfl⟩
    · dsimp only
      split
      · exact ⟨_, _, _, _, rfl, Or.inl rfl⟩
      · split <;> exact ⟨_, _, _, _, rfl, Or.inl rfl⟩
  | receipt =>
    simp only [hkind] at h
    obtain ⟨events, hevents⟩ := redactReferences_fst env (removeReceipt env w.db job.resourceId).1
      job.tenantId (getReceipt w.db job.resourceId) job.resourceId
    rw [deleteReceiptCopies_eq P env w h, hevents]
    rcases removeReceipt_cases env w.db job.resourceId with hrem | ⟨hrem, -⟩
    · rw [hrem]
      exact ⟨_, _, _, _, rfl, Or.inr rfl⟩
    · rw [hrem]
      exact ⟨_, _, _, _, rfl, Or.inl rfl⟩
  | event =>
    simp only [hkind, Except.ok.injEq] at h
    obtain rfl := (congrArg Prod.fst h).symm
    rw [deleteEventPayload]
    split <;> exact ⟨_, _, _, _, rfl, Or.inl rfl⟩
  | webhook =>
    simp only [hkind, Except.ok.injEq] at h
    obtain rfl := (congrArg Prod.fst h).symm
    rw [deleteWebhookDelivery]
    split
    · exact ⟨_, _, _, _, rfl, Or.inl rfl⟩
    · split
      · exact ⟨_, _, _, _, rfl, Or.inl rfl⟩
      · split <;> exact ⟨_, _, _, _, rfl, Or.inl rfl⟩
  | cache =>
    simp only [hkind, Except.ok.injEq, Prod.mk.injEq] at h
    exact ⟨_, _, _, _, h.1.symm, Or.inl rfl⟩
  | backup =>
    simp only [hkind, Except.ok.injEq, Prod.mk.injEq] at h
    exact ⟨_, _, _, _, h.1.symm, Or.inl rfl⟩

theorem runDeleter_shrinks (h : runDeleter P env w job = .ok (w', ev)) : Shrinks w w' := by
  obtain ⟨receipts, events, artifacts, webhooks, rfl, hreceipts⟩ := runDeleter_eq h
  refine ⟨rfl, fun k r hr ↦ ?_, fun _ j hj ↦ ⟨j, hj, rfl⟩⟩
  dsimp only at hr
  rcases hreceipts with rfl | rfl
  · exact hr
  · rw [KeyedTable.find?_delete] at hr
    exact (Option.filter_eq_some_iff.mp hr).1

/-- **The effect of an adapter** on the copies that are stored: what is not reached stays, and what
is reached is gone, when nothing raised. -/
def Effect (env : LifecycleEnv) (w : LifecycleWorld)
    (resource : String × ResourceKind × String) (w' : LifecycleWorld) : Prop :=
  ∀ c : Copy, c.In w → (¬c.ReachedBy w resource → c.In w') ∧
    (env.faults = {} → c.ReachedBy w resource → c.Gone w')

/-- A step that does not touch the one kind of copies it reaches. -/
private theorem effect_of_eq {resource : String × ResourceKind × String}
    (h : env.faults = {} → ∀ c : Copy, c.In w → ¬c.ReachedBy w resource) :
    Effect env w resource w := by
  intro c hin
  refine ⟨fun _ ↦ hin, fun hok hreach ↦ ?_⟩
  exact absurd hreach (h hok c hin)

private theorem effect_of_fault {resource : String × ResourceKind × String}
    (h : env.faults ≠ {}) : Effect env w resource w :=
  effect_of_eq fun hok ↦ absurd hok h

section Store

-- one store of copies, and a job that reaches the copies under one of its identifiers
variable {ρ : Type} {key : ρ → String} {mk : ρ → Copy} {id : String}
  {resource : String × ResourceKind × String}
  (hreached : ∀ {c : Copy}, c.ReachedBy w resource ↔ ∃ a, c = mk a ∧ key a = id)

include hreached

private theorem effect_of_not_stored (h : ∀ a, key a = id → ¬(mk a).In w) :
    Effect env w resource w := by
  refine effect_of_eq fun _ c hin hreach ↦ ?_
  obtain ⟨a, rfl, hkey⟩ := hreached.mp hreach
  exact h a hkey hin

/-- The row with the identifier goes, the other rows and the other stores stay. -/
private theorem effect_of_delete {t : KeyedTable key} (hstored : ∀ {a}, (mk a).In w → a ∈ t.rows)
    (hkept : ∀ a, a ∈ (t.delete fun a ↦ decide (key a = id)).rows → (mk a).In w')
    (hgone : ∀ a, (t.delete fun a ↦ decide (key a = id)).find? (key a) = none → (mk a).Gone w')
    (hother : ∀ c : Copy, (∀ a, c ≠ mk a) → c.In w → c.In w') :
    Effect env w resource w' := by
  intro c hin
  rw [hreached]
  constructor
  · intro hno
    by_cases hc : ∃ a, c = mk a
    · obtain ⟨a, rfl⟩ := hc
      have hne : key a ≠ id := fun heq ↦ hno ⟨a, rfl, heq⟩
      exact hkept a (KeyedTable.mem_rows_delete_key.mpr ⟨hstored hin, hne⟩)
    · exact hother c (not_exists.mp hc) hin
  · rintro - ⟨a, rfl, rfl⟩
    exact hgone a (KeyedTable.find?_delete_key t (key a))

end Store

theorem effect_deleteArtifact (tenantId id : String) :
    Effect env w (tenantId, .artifact, id) (deleteArtifact P env w id).1 := by
  rw [deleteArtifact]
  split
  · next hwired =>
    refine effect_of_not_stored Copy.reachedBy_artifact_iff ?_
    rintro a - ⟨t, ht, -⟩
    rw [hwired] at ht
    cases ht
  · next t hwired =>
    have hstored : ∀ {a}, (Copy.artifact a).In w → a ∈ t.rows := by
      rintro a ⟨t', ht', hmem⟩
      rwa [Option.some.inj (hwired.symm.trans ht')]
    dsimp only
    split
    · next text hremove =>
      refine effect_of_fault fun hok ↦ ?_
      rw [hok] at hremove
      cases hremove
    · split
      · refine effect_of_delete Copy.reachedBy_artifact_iff hstored (fun a ha ↦ ⟨_, rfl, ha⟩)
          (fun a ha ↦ ⟨_, rfl, ha⟩) ?_
        intro c hc hin
        cases c with
        | artifact a => exact absurd rfl (hc a)
        | _ => exact hin
      · next hnone =>
        refine effect_of_not_stored Copy.reachedBy_artifact_iff ?_
        rintro a rfl hin
        rw [KeyedTable.find?_of_mem (hstored hin)] at hnone
        exact hnone rfl

theorem effect_deleteWebhookDelivery (tenantId id : String) :
    Effect env w (tenantId, .webhook, id) (deleteWebhookDelivery env w id).1 := by
  rw [deleteWebhookDelivery]
  split
  · next hwired =>
    refine effect_of_not_stored Copy.reachedBy_webhook_iff ?_
    rintro d - ⟨t, ht, -⟩
    rw [hwired] at ht
    cases ht
  · next t hwired =>
    have hstored : ∀ {d}, (Copy.webhook d).In w → d ∈ t.rows := by
      rintro d ⟨t', ht', hmem⟩
      rwa [Option.some.inj (hwired.symm.trans ht')]
    split
    · next text hremove =>
      refine effect_of_fault fun hok ↦ ?_
      rw [hok] at hremove
      cases hremove
    · split
      · refine effect_of_delete Copy.reachedBy_webhook_iff hstored (fun d hd ↦ ⟨_, rfl, hd⟩)
          (fun d hd ↦ ⟨_, rfl, hd⟩) ?_
        intro c hc hin
        cases c with
        | webhook d => exact absurd rfl (hc d)
        | _ => exact hin
      · next hnone =>
        refine effect_of_not_stored Copy.reachedBy_webhook_iff ?_
        rintro d rfl hin
        rw [KeyedTable.find?_of_mem (hstored hin)] at hnone
        exact hnone rfl

theorem effect_deleteEventPayload (tenantId id : String) :
    Effect env w (tenantId, .event, id) (deleteEventPayload env w id).1 := by
  rw [deleteEventPayload]
  split
  · next text hredact =>
    refine effect_of_fault fun hok ↦ ?_
    rw [hok] at hredact
    cases hredact
  · intro c hin
    cases c with
    | event e =>
      have hlook : (redactEventPayload w.db id).1.events.find? e.eventId
          = if e.eventId = id then some (redact e) else some e := by
        rw [redactEventPayload, KeyedTable.find?_updateAt, KeyedTable.find?_of_mem hin]
        rfl
      constructor
      · intro hno
        refine KeyedTable.mem_of_find? (hlook.trans ?_)
        split
        · next hid =>
          rw [redact_eq_self]
          by_contra hne
          exact hno ⟨hne, Or.inl ⟨rfl, hid⟩⟩
        · rfl
      · rintro - ⟨-, ⟨-, hid⟩ | ⟨hkind, -⟩⟩
        · exact hlook.trans (if_pos hid)
        · cases hkind
    | receipt r => exact ⟨fun _ ↦ hin, fun _ h ↦ by cases h.1⟩
    | artifact a => exact ⟨fun _ ↦ hin, fun _ h ↦ by cases h.1⟩
    | webhook d => exact ⟨fun _ ↦ hin, fun _ h ↦ by cases h.1⟩

theorem effect_deleteReceiptCopies {tenantId id : String}
    (h : deleteReceiptCopies P env w tenantId id = .ok (w', ev)) :
    Effect env w (tenantId, .receipt, id) w' := by
  rw [deleteReceiptCopies_eq P env w h]
  obtain ⟨events, hevents⟩ := redactReferences_fst env (removeReceipt env w.db id).1 tenantId
    (getReceipt w.db id) id
  intro c hin
  cases c with
  | receipt r =>
    rw [Copy.In] at hin
    simp only [Copy.In, Copy.Gone, hevents]
    rcases removeReceipt_cases env w.db id with hrem | ⟨hrem, hnone⟩
    · rw [hrem, deleteReceipt]
      constructor
      · intro hno
        have hne : r.receiptId ≠ id := fun heq ↦ hno ⟨rfl, heq⟩
        exact KeyedTable.mem_rows_delete_key.mpr ⟨hin, hne⟩
      · rintro - ⟨-, rfl⟩
        exact KeyedTable.find?_delete_key _ r.receiptId
    · rw [hrem]
      refine ⟨fun _ ↦ hin, fun hok hreach ↦ ?_⟩
      rw [hreach.2]
      exact hnone (by rw [hok])
  | event e =>
    -- the row of the receipt goes first; the scan still sees the same events
    obtain ⟨receipts, hrem⟩ := removeReceipt_fst env w.db id
    have hrows : e ∈ (removeReceipt env w.db id).1.events.rows := by
      rw [hrem]
      exact hin
    have hscan : inScanOf (removeReceipt env w.db id).1 tenantId e = inScanOf w.db tenantId e := by
      rw [hrem]
      rfl
    have hlook := find?_redactReferences env (removeReceipt env w.db id).1 tenantId
      (getReceipt w.db id) id hrows
    rw [hscan] at hlook
    constructor
    · intro hno
      refine KeyedTable.mem_of_find? (hlook.trans ?_)
      split
      · next hhit =>
        rw [redact_eq_self]
        by_contra hne
        exact hno ⟨hne, Or.inr ⟨rfl, hhit.2.2⟩⟩
      · rfl
    · rintro hok ⟨-, ⟨hkind, -⟩ | ⟨-, hhit⟩⟩
      · cases hkind
      · exact hlook.trans (congrArg some (if_pos ⟨by rw [hok], by rw [hok], hhit⟩))
  | artifact a => exact ⟨fun _ ↦ hin, fun _ h ↦ by cases h.1⟩
  | webhook d => exact ⟨fun _ ↦ hin, fun _ h ↦ by cases h.1⟩

/-- The effect of the adapter of a job is confined to what the job reaches. -/
theorem effect_runDeleter (h : runDeleter P env w job = .ok (w', ev)) :
    Effect env w job.resource w' := by
  obtain ⟨jobId, tenantId, kind, id⟩ := job
  rw [runDeleter] at h
  cases kind with
  | artifact =>
    obtain rfl := (congrArg Prod.fst (Except.ok.inj h)).symm
    exact effect_deleteArtifact tenantId id
  | receipt => exact effect_deleteReceiptCopies h
  | event =>
    obtain rfl := (congrArg Prod.fst (Except.ok.inj h)).symm
    exact effect_deleteEventPayload tenantId id
  | webhook =>
    obtain rfl := (congrArg Prod.fst (Except.ok.inj h)).symm
    exact effect_deleteWebhookDelivery tenantId id
  | cache =>
    obtain rfl := (congrArg Prod.fst (Except.ok.inj h)).symm
    exact effect_of_eq fun _ _ _ ↦ Copy.not_reachedBy_cache
  | backup =>
    obtain rfl := (congrArg Prod.fst (Except.ok.inj h)).symm
    exact effect_of_eq fun _ _ _ ↦ Copy.not_reachedBy_backup

end Adapters

/-! ## The two methods that run an adapter -/

/-- A run of the adapter for a resource, between quiet steps. -/
def Ran (resource : String × ResourceKind × String) (w' : LifecycleWorld) : Prop :=
  ∃ w₁ w₂ row ev, Quiet w w₁ ∧ row.resource = resource ∧
    runDeleter P env w₁ row = .ok (w₂, ev) ∧ Quiet w₂ w'

/-- An attempt at a deletion: the adapter runs, or something raises and nothing but the job and the
log changes. -/
def Attempted (resource : String × ResourceKind × String) (w' : LifecycleWorld) : Prop :=
  Ran P env w resource w' ∨ Quiet w w' ∧ env.faults ≠ {}

/-- The states in which `execute_deletion` runs the adapter. -/
def CanExecute (row : DeletionJob) : Prop :=
  row.state ∉ [DeletionState.deleted, .failed, .held]

/-- The rows `retry_deletion` runs again. -/
def CanRetry (row : DeletionJob) : Prop :=
  row.state ∉ [DeletionState.deleted, .held] ∧
    ¬(row.state = .failed ∧ row.maxAttempts ≤ row.attempt)

instance (row : DeletionJob) : Decidable (CanExecute row) := inferInstanceAs (Decidable (_ ∉ _))

instance (row : DeletionJob) : Decidable (CanRetry row) := inferInstanceAs (Decidable (_ ∧ _))

theorem CanExecute.canRetry {row : DeletionJob} (h : CanExecute row) : CanRetry row := by
  rw [CanExecute] at h
  rw [CanRetry]
  simp only [List.mem_cons, List.not_mem_nil, or_false, not_or] at h ⊢
  exact ⟨⟨h.1, h.2.2⟩, fun hf ↦ h.2.1 hf.1⟩

theorem retryError_eq_none_iff {jobId : String} {row : DeletionJob} :
    retryError jobId row = none ↔ CanRetry row := by
  rw [retryError, CanRetry]
  split
  · next h => simp [h]
  · next h =>
    split
    · next h' => simp [h']
    · next h' => split <;> simp_all [and_comm]

variable {P env w} {resource : String × ResourceKind × String} {w' : LifecycleWorld} {c : Copy}

theorem Ran.effect (h : Ran P env w resource w') : Effect env w resource w' := by
  obtain ⟨w₁, w₂, row, ev, hq, rfl, hrun, hq'⟩ := h
  intro c hin
  obtain ⟨hstay, hgone⟩ := effect_runDeleter hrun c (hq.in_of_in hin)
  rw [hq.reachedBy_iff] at hstay hgone
  exact ⟨fun hno ↦ hq'.in_of_in (hstay hno), fun hok hreach ↦ hq'.gone_of_gone (hgone hok hreach)⟩

theorem Ran.shrinks (h : Ran P env w resource w') : Shrinks w w' := by
  obtain ⟨w₁, w₂, row, ev, hq, -, hrun, hq'⟩ := h
  exact (hq.shrinks.trans (runDeleter_shrinks hrun)).trans hq'.shrinks

theorem Ran.of_quiet {w₀ : LifecycleWorld} (hq : Quiet w₀ w) (h : Ran P env w resource w') :
    Ran P env w₀ resource w' := by
  obtain ⟨w₁, w₂, row, ev, hq', hrest⟩ := h
  exact ⟨w₁, w₂, row, ev, hq.trans hq', hrest⟩

namespace Attempted

theorem of_quiet {w₀ : LifecycleWorld} (hq : Quiet w₀ w) (h : Attempted P env w resource w') :
    Attempted P env w₀ resource w' := by
  rcases h with hran | ⟨hquiet, hfault⟩
  · exact Or.inl (hran.of_quiet hq)
  · exact Or.inr ⟨hq.trans hquiet, hfault⟩

theorem shrinks (h : Attempted P env w resource w') : Shrinks w w' := by
  rcases h with hran | ⟨hquiet, -⟩
  · exact hran.shrinks
  · exact hquiet.shrinks

/-- What is not reached stays, whatever raises. -/
theorem in_of_not_reached (h : Attempted P env w resource w') (hin : c.In w)
    (hno : ¬c.ReachedBy w resource) : c.In w' := by
  rcases h with hran | ⟨hquiet, -⟩
  · exact (hran.effect c hin).1 hno
  · exact hquiet.in_of_in hin

/-- What is reached goes, when nothing raises. -/
theorem not_in_of_reached (h : Attempted P env w resource w') (hok : env.faults = {})
    (hin : c.In w) (hreach : c.ReachedBy w resource) : ¬c.In w' := by
  rcases h with hran | ⟨-, hfault⟩
  · exact Copy.not_in_of_gone ((hran.effect c hin).2 hok hreach) hreach
  · exact absurd hok hfault

end Attempted

variable (P env w) in
theorem attempted_runJob (row : DeletionJob) :
    Attempted P env w row.resource (runJob P env w row).1 := by
  rw [runJob]
  split
  · next exc h =>
    refine Or.inr ⟨quiet_recordOutcome env w row _ _ _ _ _ _, fun hok ↦ ?_⟩
    rw [runDeleter] at h
    split at h
    · cases h
    · rw [deleteReceiptCopies, hok] at h
      cases h
    all_goals cases h
  · next w₂ ev h =>
    exact Or.inl ⟨w, w₂, row, ev, Quiet.refl w, rfl, h, quiet_recordOutcome env w₂ row _ _ _ _ _ _⟩

section Methods

variable {jobId : String} {row : DeletionJob} (hrow : w.db.jobs.jobs.find? jobId = some row)

include hrow

/-- A job that is deleted, failed or held is not executed. -/
theorem executeDeletion_of_not (h : ¬CanExecute row) : (executeDeletion P env w jobId).1 = w := by
  rw [executeDeletion, hrow]
  exact congrArg Prod.fst (if_pos (not_not.mp h))

/-- Any other job is, whatever the holds are now. -/
theorem attempted_executeDeletion (h : CanExecute row) :
    Attempted P env w row.resource (executeDeletion P env w jobId).1 := by
  rw [executeDeletion, hrow]
  dsimp only
  rw [if_neg h]
  split
  · next hmark => exact Or.inr ⟨Quiet.refl w, fun hok ↦ by rw [hok] at hmark; cases hmark⟩
  · have hq := quiet_updateJob w jobId env.now .running none none false
    exact (attempted_runJob P env _ row).of_quiet hq

/-- A refused retry changes nothing. -/
theorem retryDeletion_of_not (h : ¬CanRetry row) : (retryDeletion P env w jobId).1 = w := by
  rw [retryDeletion, hrow]
  cases herr : retryError jobId row with
  | none => exact absurd (retryError_eq_none_iff.mp herr) h
  | some e => dsimp only; rw [herr]

/-- A retry resets the job and executes it. -/
theorem attempted_retryDeletion (h : CanRetry row) :
    Attempted P env w row.resource (retryDeletion P env w jobId).1 := by
  rw [retryDeletion, hrow]
  dsimp only
  rw [retryError_eq_none_iff.mpr h]
  dsimp only
  split
  · next hreset => exact Or.inr ⟨Quiet.refl w, fun hok ↦ by rw [hok] at hreset; cases hreset⟩
  · have hq := quiet_updateJob w jobId env.now .pending none none false
    have hrow' : (updateJob w jobId env.now .pending none none false).db.jobs.jobs.find? jobId
        = some (updateJobRow env.now .pending none none false row) := by
      rw [updateJob, find?_updateDeletionJob, hrow]
      rfl
    have hcan : CanExecute (updateJobRow env.now .pending none none false row) := by
      simp [CanExecute, updateJobRow]
    exact (attempted_executeDeletion hrow' hcan).of_quiet hq

end Methods

end LifecycleManager

end Orchestra
