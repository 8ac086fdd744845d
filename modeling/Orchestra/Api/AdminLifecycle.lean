import Orchestra.Api.Errors
import Orchestra.Enterprise.HoldCoverage
import Orchestra.Enterprise.LegalHold

/-!
# The administration of retention and legal holds

The administrative endpoints check a request, make one call of the lifecycle manager and turn what
it raises into a response. Who asks is taken from a header. Two endpoints pass it on only if it
carries a `tenant:` claim; the one that releases a hold passes it on as it is; the others do not look
at it.

A request that is refused changes nothing but the log of events (`refused_run`). A hold survives
every run of requests in which none releases it with the identifier of its tenant as the identity
(`hold_survives`).
-/

namespace Orchestra

open EventStore Transition LifecycleManager

/-! ## Requests and replies -/

structure PolicySetRequest where
  tenantId : String
  resourceKind : String
  retentionSeconds : {n : ℤ // 1 ≤ n}
  autoDelete : Bool := false

structure HoldCreateRequest where
  tenantId : String
  caseId : String
  reason : String
  createdBy : String := "api"
  resourceKinds : Option (List String) := none
  resourceIds : Option (List String) := none

structure HoldReleaseRequest where
  releasedBy : String := "api"
  reason : String := ""

structure DeletionCreateRequest where
  tenantId : String
  resourceKind : String
  resourceId : String
  requestedBy : String := "api"
  force : Bool := false

/-- The requests that can change something. -/
inductive AdminRequest where
  | policySet (body : PolicySetRequest)
  | holdCreate (body : HoldCreateRequest)
  | holdRelease (holdId : String) (body : HoldReleaseRequest)
  | deletionCreate (body : DeletionCreateRequest)
  | deletionExecute (jobId : String)
  | deletionRetry (jobId : String)

/-- A request with its `X-Orchestra-Actor`. -/
structure AdminCall where
  actor : Option String := none
  request : AdminRequest

inductive AdminReply where
  | policy (tenantId : String) (kind : ResourceKind) (retentionSeconds : ℤ) (autoDelete : Bool)
      (policyId : String) (createdAt : Timestamp)
  | hold (row : LegalHold) (resources : List (ResourceKind × String))
  | released (holdId : String)
  | job (row : DeletionJob)

namespace AdminLifecycle

/-! ## The checks -/

/-- `_resolve_actor`. -/
def resolveActor (actor : Option String) (tenantId : String) : Option String :=
  match actor with
  | none | some "" => none
  | some actor =>
    if "tenant:".toList.isPrefixOf actor.toList ∧ actor ≠ tenantId then some actor else none

def resourceKinds : List ResourceKind := [.artifact, .receipt, .event, .webhook, .cache, .backup]

/-- `_kind_or_400`. -/
def kindOr400 (s : String) : Except Failure ResourceKind :=
  match resourceKinds.find? fun kind ↦ decide (kind.value = s) with
  | some kind => .ok kind
  | none => .error (.http ⟨422, .str ("unknown resource_kind " ++ pyRepr s ++
      "; valid: ['artifact', 'backup', 'cache', 'event', 'receipt', 'webhook']"), []⟩)

/-- `_lifecycle_error_to_http`. -/
def lifecycleErrorToHttp : LifecycleError → Option HttpException
  | .blocked holdId caseId kind resourceId => some
      { statusCode := 409
        detail := .obj [("type", .str "urn:orchestra:problem:lifecycle_blocked"),
          ("title", .str "Deletion blocked by a Legal Hold."), ("status", .int 409),
          ("hold_id", .str holdId), ("case_id", .str caseId), ("resource_kind", .str kind.value),
          ("resource_id", .str resourceId)] }
  | .retained kind resourceId _ => some
      { statusCode := 409
        detail := .obj [("type", .str "urn:orchestra:problem:lifecycle_retained"),
          ("title", .str "Deletion refused: the lifecycle policy retains this resource."),
          ("status", .int 409), ("resource_kind", .str kind.value),
          ("resource_id", .str resourceId)] }
  | .crossTenant expected actual => some
      { statusCode := 403
        detail := .obj [("type", .str "urn:orchestra:problem:cross_tenant"),
          ("title", .str "Cross-tenant operation denied."), ("status", .int 403),
          ("expected_tenant", .str expected), ("actual_tenant", .str actual)] }
  | .valueError _ | .store _ => none

def storeErrorName : StoreError → String
  | .uniqueViolation => "UniqueViolation"
  | .foreignKeyViolation => "ForeignKeyViolation"
  | .lookupError _ => "LookupError"
  | .contractViolation _ => "ContractViolation"
  | .typeError => "TypeError"
  | .unavailable => "OperationalError"

/-- What a handler raises for an exception of the manager: it catches the manager's own, and a
`ValueError` if it has a status for it. -/
def failureOf (valueErrorStatus : Option ℤ) (e : LifecycleError) : Failure :=
  match lifecycleErrorToHttp e, e, valueErrorStatus with
  | some exc, _, _ => .http exc
  | none, .valueError message, some status => .http ⟨status, .str message, []⟩
  | none, .store e, _ => .unhandled (storeErrorName e)
  | none, _, _ => .unhandled "ValueError"

/-! ## The handlers -/

variable (P : Primitives) (env : LifecycleEnv) (w : LifecycleWorld)

/-- The response to a call of the manager. -/
def answered {α : Type} (valueErrorStatus : Option ℤ) (reply : α → Except Failure AdminReply)
    (result : LifecycleWorld × Except LifecycleError α) : LifecycleWorld × Except Failure AdminReply :=
  match result with
  | (w', .ok a) => (w', reply a)
  | (w', .error e) => (w', .error (failureOf valueErrorStatus e))

/-- `policy_set`. -/
def policySet (body : PolicySetRequest) : LifecycleWorld × Except Failure AdminReply :=
  match kindOr400 body.resourceKind with
  | .error f => (w, .error f)
  | .ok kind => answered (some 422)
      (fun _ ↦ .ok (.policy body.tenantId kind body.retentionSeconds body.autoDelete env.freshId
        env.now))
      (setPolicy env w body.tenantId kind body.retentionSeconds body.autoDelete)

/-- The call of `hold_create`, if the request passes the checks of the handler. -/
def createHoldArgs (actor : Option String) (body : HoldCreateRequest) : Except Failure CreateHold :=
  if pyStrip body.caseId = "" then
    .error (.http ⟨422, .str "case_id must be a non-empty string", []⟩)
  else do
    let kinds ← (body.resourceKinds.getD []).mapM kindOr400
    return {
      tenantId := body.tenantId
      caseId := body.caseId
      reason := body.reason
      createdBy := body.createdBy
      resourceKinds := kinds
      resourceIds := body.resourceIds.getD []
      identityTenantId := resolveActor actor body.tenantId }

/-- `hold_create`. -/
def holdCreate (actor : Option String) (body : HoldCreateRequest) :
    LifecycleWorld × Except Failure AdminReply :=
  match createHoldArgs actor body with
  | .error f => (w, .error f)
  | .ok a => answered none (fun hold ↦ .ok (.hold hold (resourcePairs a))) (createHold env w a)

/-- The identity that a hold is released with. -/
def releaseIdentity (actor : Option String) (body : HoldReleaseRequest) : String :=
  match actor with
  | none | some "" => body.releasedBy
  | some actor => actor

/-- What a release replies when it is not applied. -/
def releaseReply (holdId : String) : Option ReleaseRefusal → Except Failure AdminReply
  | none => .ok (.released holdId)
  | some .crossTenant =>
    .error (.http ⟨403, .str "cross-tenant: hold belongs to a different tenant", []⟩)
  | some .notFound => .error (.http ⟨404, .str ("hold " ++ holdId ++ " not found"), []⟩)
  | some .alreadyReleased =>
    .error (.http ⟨409, .str ("hold " ++ holdId ++ " is already released"), []⟩)

/-- `hold_release`. -/
def holdRelease (actor : Option String) (holdId : String) (body : HoldReleaseRequest) :
    LifecycleWorld × Except Failure AdminReply :=
  answered none (releaseReply holdId)
    (releaseHold env w holdId body.releasedBy (releaseIdentity actor body) body.reason)

/-- `deletion_create`. -/
def deletionCreate (actor : Option String) (body : DeletionCreateRequest) :
    LifecycleWorld × Except Failure AdminReply :=
  match kindOr400 body.resourceKind with
  | .error f => (w, .error f)
  | .ok kind => answered none (fun job ↦ .ok (.job job)) (delete env w
      { tenantId := body.tenantId
        resourceKind := kind
        resourceId := body.resourceId
        requestedBy := body.requestedBy
        identityTenantId := resolveActor actor body.tenantId
        force := body.force })

/-- The handler of a request. -/
def handle (call : AdminCall) : LifecycleWorld × Except Failure AdminReply :=
  match call.request with
  | .policySet body => policySet env w body
  | .holdCreate body => holdCreate env w call.actor body
  | .holdRelease holdId body => holdRelease env w call.actor holdId body
  | .deletionCreate body => deletionCreate env w call.actor body
  | .deletionExecute jobId =>
    answered none (fun job ↦ .ok (.job job)) (executeDeletion P env w jobId)
  | .deletionRetry jobId =>
    answered (some 409) (fun job ↦ .ok (.job job)) (retryDeletion P env w jobId)

/-! ## Behind the handlers -/

/-- The call of the manager that a request makes, if it passes the checks. -/
def managerCall (call : AdminCall) : Except Failure LifecycleManager.Call :=
  match call.request with
  | .policySet body => (kindOr400 body.resourceKind).map fun kind ↦
      .setPolicy body.tenantId kind body.retentionSeconds body.autoDelete
  | .holdCreate body => (createHoldArgs call.actor body).map .createHold
  | .holdRelease holdId body =>
    .ok (.releaseHold holdId body.releasedBy (releaseIdentity call.actor body) body.reason)
  | .deletionCreate body => (kindOr400 body.resourceKind).map fun kind ↦ .delete
      { tenantId := body.tenantId
        resourceKind := kind
        resourceId := body.resourceId
        requestedBy := body.requestedBy
        identityTenantId := resolveActor call.actor body.tenantId
        force := body.force }
  | .deletionExecute jobId => .ok (.executeDeletion jobId)
  | .deletionRetry jobId => .ok (.retryDeletion jobId)

theorem answered_fst {α : Type} (valueErrorStatus : Option ℤ) (reply : α → Except Failure AdminReply)
    (result : LifecycleWorld × Except LifecycleError α) :
    (answered valueErrorStatus reply result).1 = result.1 := by
  obtain ⟨w', r⟩ := result
  cases r <;> rfl

/-- A request is at most one step of the manager. -/
theorem handle_fst (call : AdminCall) : (handle P env w call).1 =
    match managerCall call with
    | .ok c => LifecycleManager.step P w (env, c)
    | .error _ => w := by
  obtain ⟨actor, request⟩ := call
  cases request with
  | policySet body =>
    change (policySet env w body).1 = match Except.map _ (kindOr400 body.resourceKind) with
      | .ok c => LifecycleManager.step P w (env, c)
      | .error _ => w
    rw [policySet]
    cases kindOr400 body.resourceKind with
    | error f => rfl
    | ok kind => exact answered_fst _ _ _
  | holdCreate body =>
    change (holdCreate env w actor body).1 = match Except.map _ (createHoldArgs actor body) with
      | .ok c => LifecycleManager.step P w (env, c)
      | .error _ => w
    rw [holdCreate]
    cases createHoldArgs actor body with
    | error f => rfl
    | ok a => exact answered_fst _ _ _
  | holdRelease holdId body => exact answered_fst _ _ _
  | deletionCreate body =>
    change (deletionCreate env w actor body).1 = match Except.map _ (kindOr400 body.resourceKind) with
      | .ok c => LifecycleManager.step P w (env, c)
      | .error _ => w
    rw [deletionCreate]
    cases kindOr400 body.resourceKind with
    | error f => rfl
    | ok kind => exact answered_fst _ _ _
  | deletionExecute jobId => exact answered_fst _ _ _
  | deletionRetry jobId => exact answered_fst _ _ _

/-! ## The holds under a call -/

section Holds

variable {P : Primitives} {env : LifecycleEnv} {w w' : LifecycleWorld}

theorem emitAudit_holds_eq (kind : EventKind) (actor : String) (payload : List (String × Json)) :
    (emitAudit env w kind actor payload).db.holds = w.db.holds := by
  obtain h | ⟨events, -, h⟩ := emitAudit_cases env w kind actor payload <;> rw [h]

theorem redactAll_holds (es : List AuditEvent) (db : Database) :
    (redactAll env db es).1.holds = db.holds := by
  induction es generalizing db with
  | nil => rfl
  | cons e es ih =>
    rw [redactAll]
    split
    · exact ih _
    · exact ih db

theorem redactReferences_holds (db : Database) (tenantId : String) (receiptRow : Option Receipt)
    (receiptId : String) :
    (redactReferences env db tenantId receiptRow receiptId).1.holds = db.holds := by
  rw [redactReferences]
  split
  · rfl
  · exact redactAll_holds _ db

theorem removeReceipt_holds (db : Database) (id : String) :
    (removeReceipt env db id).1.holds = db.holds := by
  rw [removeReceipt]
  split_ifs
  · split <;> rfl
  · rfl

/-- No adapter touches the holds. -/
theorem runDeleter_holds {job : DeletionJob} {e : DeletionEvidence}
    (h : runDeleter P env w job = .ok (w', e)) : w'.db.holds = w.db.holds := by
  rw [runDeleter] at h
  cases hkind : job.resourceKind with
  | artifact =>
    rw [hkind] at h
    obtain rfl : (deleteArtifact P env w job.resourceId).1 = w' := congrArg Prod.fst (Except.ok.inj h)
    rw [deleteArtifact]
    split
    · rfl
    · split
      · rfl
      · split_ifs <;> rfl
  | receipt =>
    rw [hkind] at h
    dsimp only at h
    rw [deleteReceiptCopies] at h
    split at h
    · cases h
    · obtain ⟨rfl, -⟩ := Prod.mk.inj (Except.ok.inj h)
      exact (redactReferences_holds _ _ _ _).trans (removeReceipt_holds _ _)
  | event =>
    rw [hkind] at h
    obtain rfl : (deleteEventPayload env w job.resourceId).1 = w' :=
      congrArg Prod.fst (Except.ok.inj h)
    rw [deleteEventPayload]
    split <;> rfl
  | webhook =>
    rw [hkind] at h
    obtain rfl : (deleteWebhookDelivery env w job.resourceId).1 = w' :=
      congrArg Prod.fst (Except.ok.inj h)
    rw [deleteWebhookDelivery]
    split
    · rfl
    · split
      · rfl
      · split_ifs <;> rfl
  | cache =>
    rw [hkind] at h
    obtain ⟨rfl, -⟩ := Prod.mk.inj (Except.ok.inj h)
    rfl
  | backup =>
    rw [hkind] at h
    obtain ⟨rfl, -⟩ := Prod.mk.inj (Except.ok.inj h)
    rfl

theorem recordOutcome_holds (row : DeletionJob) (state : DeletionState) (lastError : Option String)
    (e : DeletionEvidence) (increment : Bool) (kind : EventKind) (details : List (String × Json)) :
    (recordOutcome env w row state lastError e increment kind details).1.db.holds = w.db.holds := by
  rw [recordOutcome]
  split_ifs
  · rfl
  · exact emitAudit_holds_eq _ _ _

theorem runJob_holds (row : DeletionJob) : (runJob P env w row).1.db.holds = w.db.holds := by
  rw [runJob]
  split
  · exact recordOutcome_holds _ _ _ _ _ _ _
  · next w' e h => exact (recordOutcome_holds _ _ _ _ _ _ _).trans (runDeleter_holds h)

theorem executeDeletion_holds (jobId : String) :
    (executeDeletion P env w jobId).1.db.holds = w.db.holds := by
  rw [executeDeletion]
  split
  · rfl
  · split_ifs
    · rfl
    · rfl
    · exact runJob_holds _

theorem retryDeletion_holds (jobId : String) :
    (retryDeletion P env w jobId).1.db.holds = w.db.holds := by
  rw [retryDeletion]
  split
  · rfl
  · split
    · rfl
    · split_ifs
      · rfl
      · exact executeDeletion_holds jobId

theorem delete_holds (r : DeleteRequest) : (delete env w r).1.db.holds = w.db.holds := by
  rw [delete]
  dsimp only
  split
  · rfl
  · split_ifs
    · exact emitAudit_holds_eq _ _ _
    · exact emitAudit_holds_eq _ _ _
    · rw [fileJob]
      split <;> exact emitAudit_holds_eq _ _ _

theorem mem_of_createLegalHold {t t' : HoldTables} {hold h : LegalHold}
    {pairs : List (ResourceKind × String)} (hcreate : createLegalHold t hold pairs = .ok t')
    (hmem : h ∈ t.holds.rows) : h ∈ t'.holds.rows := by
  rw [createLegalHold, bind_eq_ok_iff] at hcreate
  obtain ⟨t₁, hfirst, hrest⟩ := hcreate
  rw [(rows_of_foldlM_insertHoldResource hrest).1, (rows_of_insertHold hfirst).1]
  exact List.mem_append_left _ hmem

theorem resources_of_createLegalHold {t t' : HoldTables} {hold : LegalHold} {r : LegalHoldResource}
    {pairs : List (ResourceKind × String)} (hcreate : createLegalHold t hold pairs = .ok t')
    (hmem : r ∈ t.resources.rows) : r ∈ t'.resources.rows := by
  rw [createLegalHold, bind_eq_ok_iff] at hcreate
  obtain ⟨t₁, hfirst, hrest⟩ := hcreate
  rw [(rows_of_foldlM_insertHoldResource hrest).2, (rows_of_insertHold hfirst).2.1]
  exact List.mem_append_left _ hmem

/-- The call releases the hold with the identifier of its tenant as the identity. -/
def Releases (h : LegalHold) : LifecycleManager.Call → Prop
  | .releaseHold holdId _ identityTenantId _ => holdId = h.holdId ∧ identityTenantId = h.tenantId
  | _ => False

/-- **One call.** A call that does not release the hold leaves its row as it is. -/
theorem mem_holds_step {h : LegalHold} (hmem : h ∈ w.db.holds.holds.rows)
    {c : LifecycleManager.Call} (hnot : ¬Releases h c) :
    h ∈ (LifecycleManager.step P w (env, c)).db.holds.holds.rows := by
  cases c with
  | setPolicy tenantId kind retentionSeconds autoDelete =>
    rw [LifecycleManager.step, setPolicy]
    split_ifs <;> exact hmem
  | createHold a =>
    rw [LifecycleManager.step, createHold]
    split
    · exact hmem
    · split
      · exact hmem
      · next holds hcreate =>
        rw [emitAudit_holds_eq]
        exact mem_of_createLegalHold hcreate hmem
  | releaseHold holdId releasedBy identityTenantId reason =>
    rw [LifecycleManager.step, releaseHold]
    split
    · exact hmem
    · exact hmem
    · next holds hrelease =>
      rw [emitAudit_holds_eq]
      rw [releaseLegalHold] at hrelease
      split at hrelease
      · cases hrelease
      · next row hrow =>
        split_ifs at hrelease with htenant hreleased
        obtain rfl := Except.ok.inj hrelease
        have hne : h.holdId ≠ holdId := by
          rintro rfl
          rw [KeyedTable.find?_of_mem hmem] at hrow
          obtain rfl := Option.some.inj hrow
          exact hnot ⟨rfl, (not_ne_iff.mp htenant).symm⟩
        refine KeyedTable.mem_of_find? (k := h.holdId) ?_
        rw [updateHold, KeyedTable.find?_updateAt, if_neg hne]
        exact KeyedTable.find?_of_mem hmem
  | delete r =>
    rw [LifecycleManager.step, delete_holds]
    exact hmem
  | executeDeletion jobId =>
    rw [LifecycleManager.step, executeDeletion_holds]
    exact hmem
  | retryDeletion jobId =>
    rw [LifecycleManager.step, retryDeletion_holds]
    exact hmem

/-- What a hold lists stays listed. -/
theorem mem_resources_step {r : LegalHoldResource} (hmem : r ∈ w.db.holds.resources.rows)
    (c : LifecycleManager.Call) :
    r ∈ (LifecycleManager.step P w (env, c)).db.holds.resources.rows := by
  cases c with
  | setPolicy tenantId kind retentionSeconds autoDelete =>
    rw [LifecycleManager.step, setPolicy]
    split_ifs <;> exact hmem
  | createHold a =>
    rw [LifecycleManager.step, createHold]
    split
    · exact hmem
    · split
      · exact hmem
      · next holds hcreate =>
        rw [emitAudit_holds_eq]
        exact resources_of_createLegalHold hcreate hmem
  | releaseHold holdId releasedBy identityTenantId reason =>
    rw [LifecycleManager.step, releaseHold]
    split
    · exact hmem
    · exact hmem
    · next holds hrelease =>
      rw [emitAudit_holds_eq]
      rw [releaseLegalHold] at hrelease
      split at hrelease
      · cases hrelease
      · split_ifs at hrelease
        obtain rfl := Except.ok.inj hrelease
        exact hmem
  | delete r =>
    rw [LifecycleManager.step, delete_holds]
    exact hmem
  | executeDeletion jobId =>
    rw [LifecycleManager.step, executeDeletion_holds]
    exact hmem
  | retryDeletion jobId =>
    rw [LifecycleManager.step, retryDeletion_holds]
    exact hmem

end Holds

/-! ## Whole runs -/

/-- One request, in its environment. -/
def step (P : Primitives) (w : LifecycleWorld) (a : LifecycleEnv × AdminCall) : LifecycleWorld :=
  (handle P a.1 w a.2).1

/-- The request releases the hold with the identifier of its tenant as the identity. -/
def ReleasedBy (h : LegalHold) (call : AdminCall) : Prop :=
  ∃ body, call.request = .holdRelease h.holdId body ∧ releaseIdentity call.actor body = h.tenantId

section Runs

variable {P : Primitives} {env : LifecycleEnv} {w : LifecycleWorld} {h : LegalHold}
  {kind : ResourceKind} {id : String}

/-- The hold is in force and lists the resource. -/
structure InForce (h : LegalHold) (kind : ResourceKind) (id : String) (w : LifecycleWorld) :
    Prop where
  row : h ∈ w.db.holds.holds.rows
  active : h.releasedAt = none
  listed : ⟨h.holdId, kind, id⟩ ∈ w.db.holds.resources.rows

/-- Only the endpoint that releases a hold makes the manager release one. -/
theorem releaseHold_of_managerCall {call : AdminCall} {holdId releasedBy identity reason : String}
    (hcall : managerCall call = .ok (.releaseHold holdId releasedBy identity reason)) :
    ∃ body, call.request = .holdRelease holdId body ∧ releaseIdentity call.actor body = identity := by
  obtain ⟨actor, request⟩ := call
  cases request with
  | holdRelease holdId' body =>
    obtain ⟨rfl, -, rfl, -⟩ := LifecycleManager.Call.releaseHold.inj (Except.ok.inj hcall)
    exact ⟨body, rfl, rfl⟩
  | policySet body =>
    cases hkind : kindOr400 body.resourceKind <;> simp [managerCall, hkind, Except.map] at hcall
  | holdCreate body =>
    cases hargs : createHoldArgs actor body <;> simp [managerCall, hargs, Except.map] at hcall
  | deletionCreate body =>
    cases hkind : kindOr400 body.resourceKind <;> simp [managerCall, hkind, Except.map] at hcall
  | deletionExecute jobId => cases hcall
  | deletionRetry jobId => cases hcall

theorem not_releases_of_not_releasedBy {call : AdminCall} {c : LifecycleManager.Call}
    (hnot : ¬ReleasedBy h call) (hcall : managerCall call = .ok c) : ¬Releases h c := by
  intro hreleases
  cases c with
  | releaseHold holdId releasedBy identity reason =>
    obtain ⟨rfl, rfl⟩ := hreleases
    exact hnot (releaseHold_of_managerCall hcall)
  | _ => exact hreleases

/-- **One request.** -/
theorem InForce.step (hin : InForce h kind id w) {a : LifecycleEnv × AdminCall}
    (hnot : ¬ReleasedBy h a.2) : InForce h kind id (step P w a) := by
  have hfst := handle_fst P a.1 w a.2
  cases hcall : managerCall a.2 with
  | error f =>
    rw [hcall] at hfst
    rw [AdminLifecycle.step, hfst]
    exact hin
  | ok c =>
    rw [hcall] at hfst
    rw [AdminLifecycle.step, hfst]
    exact ⟨mem_holds_step hin.row (not_releases_of_not_releasedBy hnot hcall), hin.active,
      mem_resources_step hin.listed c⟩

theorem kindOr400_value (kind : ResourceKind) : kindOr400 kind.value = .ok kind := by
  have hfind : (resourceKinds.find? fun k ↦ decide (k.value = kind.value)) = some kind := by
    cases kind <;> decide
  rw [kindOr400, hfind]

theorem isResourceHeld_of_inForce (hin : InForce h kind id w) :
    isResourceHeld w.db.holds h.tenantId kind id = true := by
  refine List.any_eq_true.mpr ⟨h, hin.row, ?_⟩
  rw [Bool.and_eq_true, activeFor_eq_true_iff, lists_eq_true_iff]
  exact ⟨⟨rfl, hin.active⟩, ⟨h.holdId, kind, id⟩, hin.listed, rfl, rfl, rfl⟩

/-- The deletion of a held resource is refused, with or without `force`. -/
theorem InForce.refused (hin : InForce h kind id w) {actor : Option String}
    {body : DeletionCreateRequest} (htenant : body.tenantId = h.tenantId)
    (hkind : body.resourceKind = kind.value) (hid : body.resourceId = id) :
    ∃ f, (deletionCreate env w actor body).2 = .error f ∧ (f.status = 403 ∨ f.status = 409) ∧
      (deletionCreate env w actor body).1.db.jobs = w.db.jobs := by
  rw [deletionCreate, hkind, kindOr400_value]
  dsimp only
  rw [delete]
  dsimp only
  cases hcross : crossTenant body.tenantId (resolveActor actor body.tenantId) with
  | some e =>
    obtain ⟨actual, rfl⟩ : ∃ actual, e = .crossTenant body.tenantId actual := by
      obtain ⟨actual, -, hactual⟩ := Option.bind_eq_some_iff.mp hcross
      split_ifs at hactual
      exact ⟨actual, (Option.some.inj hactual).symm⟩
    exact ⟨_, rfl, .inl rfl, rfl⟩
  | none =>
    have hheld := isResourceHeld_of_inForce hin
    rw [← htenant, ← hid] at hheld
    dsimp only
    rw [if_pos hheld]
    refine ⟨_, rfl, .inr rfl, ?_⟩
    change (emitAudit env w _ _ _).db.jobs = _
    obtain heq | ⟨events, -, heq⟩ := emitAudit_cases env w .deletionBlocked body.requestedBy
      (resourcePayload body.tenantId kind body.resourceId ++ _) <;> rw [heq]

/-- **A hold survives.** From any state and in any run of requests, with any actors and in any
environment: as long as no request releases a hold with the identifier of its tenant as the
identity, the hold is as it was, and a deletion of what it lists is refused and files no job. -/
theorem hold_survives (P : Primitives) (w : LifecycleWorld)
    (calls : List (LifecycleEnv × AdminCall)) (h : LegalHold) (kind : ResourceKind) (id : String)
    (hin : InForce h kind id w) (hnot : ∀ a ∈ calls, ¬ReleasedBy h a.2) :
    InForce h kind id (run (step P) w calls) ∧
      ∀ (env : LifecycleEnv) (actor : Option String) (body : DeletionCreateRequest),
        body.tenantId = h.tenantId → body.resourceKind = kind.value → body.resourceId = id →
        ∃ f, (deletionCreate env (run (step P) w calls) actor body).2 = .error f ∧
          (f.status = 403 ∨ f.status = 409) ∧
          (deletionCreate env (run (step P) w calls) actor body).1.db.jobs =
            (run (step P) w calls).db.jobs := by
  have hrun : InForce h kind id (run (step P) w calls) :=
    run_induction (fun w a hin hnot ↦ hin.step hnot) hin (allSteps_of_mem hnot w)
  exact ⟨hrun, fun env actor body ↦ hrun.refused⟩

/-- The hold of `tenant-a` on an artifact. -/
def sampleHeld : LegalHold where
  holdId := "hold-1"
  tenantId := "tenant-a"
  caseId := "CASE-1"
  reason := "litigation"
  createdAt := 0
  createdBy := "api"

def heldWorld : LifecycleWorld where
  db :=
    { holds :=
        { holds := ⟨[sampleHeld], by decide⟩
          resources := ⟨[⟨"hold-1", .artifact, "artifact-1"⟩], by decide⟩
          case_nodup := by decide
          references := by decide } }

/-- The deletion of the artifact, with `force`. -/
def forcedDeletion : DeletionCreateRequest where
  tenantId := "tenant-a"
  resourceKind := "artifact"
  resourceId := "artifact-1"
  force := true

/-- The artifact is to be deleted, and the hold is to be released by someone who only claims the
tenant. -/
def refusedCalls : List (LifecycleEnv × AdminCall) :=
  [(sampleEnv "job-1" "event-1", ⟨none, .deletionCreate forcedDeletion⟩),
    (sampleEnv "" "event-2", ⟨some "tenant:tenant-a", .holdRelease "hold-1" ⟨"tenant-a", ""⟩⟩)]

theorem inForce_heldWorld : InForce sampleHeld .artifact "artifact-1" heldWorld :=
  ⟨List.mem_singleton_self _, rfl, List.mem_singleton_self _⟩

theorem not_releasedBy_refusedCalls : ∀ a ∈ refusedCalls, ¬ReleasedBy sampleHeld a.2 := by
  intro a ha
  rcases List.mem_cons.mp ha with rfl | ha
  · rintro ⟨body, hrequest, -⟩
    cases hrequest
  · rw [List.mem_singleton.mp ha]
    rintro ⟨body, hrequest, hidentity⟩
    obtain ⟨-, rfl⟩ := AdminRequest.holdRelease.inj hrequest
    revert hidentity
    decide

theorem hold_survives_refusedCalls :
    InForce sampleHeld .artifact "artifact-1"
        (run (step LifecycleManager.samplePrimitives) heldWorld refusedCalls) ∧
      ∀ (env : LifecycleEnv) (actor : Option String) (body : DeletionCreateRequest),
        body.tenantId = "tenant-a" → body.resourceKind = ResourceKind.artifact.value →
        body.resourceId = "artifact-1" →
        ∃ f, (deletionCreate env (run (step LifecycleManager.samplePrimitives) heldWorld refusedCalls)
            actor body).2 = .error f ∧ (f.status = 403 ∨ f.status = 409) ∧
          (deletionCreate env (run (step LifecycleManager.samplePrimitives) heldWorld refusedCalls)
            actor body).1.db.jobs =
            (run (step LifecycleManager.samplePrimitives) heldWorld refusedCalls).db.jobs :=
  hold_survives LifecycleManager.samplePrimitives heldWorld refusedCalls sampleHeld .artifact "artifact-1"
    inForce_heldWorld not_releasedBy_refusedCalls

end Runs

/-! ## Refusals -/

/-- The request is answered with a status that blames the client. -/
def IsRefusal (result : Except Failure AdminReply) : Prop :=
  ∃ f, result = .error f ∧ 400 ≤ f.status ∧ f.status < 500

/-- Nothing has changed but the log, where deletions that were blocked have been added. -/
def OnlyLogged (w w' : LifecycleWorld) : Prop :=
  ∃ events, w' = { w with db := { w.db with events := events } } ∧
    (∀ e ∈ w.db.events.rows, e ∈ events.rows) ∧
    ∀ e ∈ events.rows, e ∈ w.db.events.rows ∨ e.kind = .deletionBlocked

section Refusals

variable {P : Primitives} {env : LifecycleEnv} {w w' w'' : LifecycleWorld} {e : LifecycleError}

theorem OnlyLogged.refl (w : LifecycleWorld) : OnlyLogged w w :=
  ⟨w.db.events, rfl, fun _ he ↦ he, fun _ he ↦ .inl he⟩

theorem OnlyLogged.trans (h : OnlyLogged w w') (h' : OnlyLogged w' w'') : OnlyLogged w w'' := by
  obtain ⟨events, rfl, hold, hnew⟩ := h
  obtain ⟨events', rfl, hold', hnew'⟩ := h'
  refine ⟨events', rfl, fun e he ↦ hold' e (hold e he), fun e he ↦ ?_⟩
  rcases hnew' e he with he | hkind
  · exact hnew e he
  · exact .inr hkind

theorem onlyLogged_emitAudit (actor : String) (payload : List (String × Json)) :
    OnlyLogged w (emitAudit env w .deletionBlocked actor payload) := by
  obtain heq | ⟨events, hins, heq⟩ := emitAudit_cases env w .deletionBlocked actor payload
  · rw [heq]
    exact OnlyLogged.refl w
  · have hrows := KeyedTable.rows_of_insert hins
    rw [heq]
    refine ⟨events, rfl, fun e he ↦ ?_, fun e he ↦ ?_⟩
    · rw [hrows]
      exact List.mem_append_left _ he
    · rw [hrows] at he
      rcases List.mem_append.mp he with he | he
      · exact .inl he
      · rw [List.mem_singleton.mp he]
        exact .inr rfl

/-- An exception of the store is not a refusal. -/
theorem failureOf_store {valueErrorStatus : Option ℤ} {s : StoreError} :
    (failureOf valueErrorStatus (.store s)).status = 500 := rfl

/-- Without a status for it, a `ValueError` is not a refusal either. -/
theorem failureOf_valueError {message : String} :
    (failureOf none (.valueError message)).status = 500 := rfl

theorem recordOutcome_error {row : DeletionJob} {state : DeletionState} {lastError : Option String}
    {evidence : DeletionEvidence} {increment : Bool} {kind : EventKind}
    {details : List (String × Json)}
    (h : (recordOutcome env w row state lastError evidence increment kind details).2 = .error e) :
    ∃ s, e = .store s := by
  rw [recordOutcome] at h
  split_ifs at h
  · exact ⟨_, (Except.error.inj h).symm⟩
  · dsimp only at h
    rw [rowToJob] at h
    split at h
    · cases h
    · exact ⟨_, (Except.error.inj h).symm⟩

/-- An execution raises a `ValueError` before it has begun, or an exception of the store. -/
theorem executeDeletion_error {jobId : String}
    (h : (executeDeletion P env w jobId).2 = .error e) :
    (w.db.jobs.jobs.find? jobId = none ∧ ∃ message, e = .valueError message) ∨
      ∃ s, e = .store s := by
  rw [executeDeletion] at h
  split at h
  · next hnone => exact .inl ⟨hnone, _, (Except.error.inj h).symm⟩
  · split_ifs at h
    · exact .inr ⟨_, (Except.error.inj h).symm⟩
    · rw [runJob] at h
      split at h <;> exact .inr (recordOutcome_error h)

/-- A retry that raises has changed nothing, or the store has raised. -/
theorem retryDeletion_error {jobId : String}
    (h : (retryDeletion P env w jobId).2 = .error e) :
    (retryDeletion P env w jobId).1 = w ∨ ∃ s, e = .store s := by
  rw [retryDeletion] at h ⊢
  cases hrow : w.db.jobs.jobs.find? jobId with
  | none => exact .inl rfl
  | some row =>
    rw [hrow] at h
    dsimp only at h ⊢
    cases hretry : retryError jobId row with
    | some e' => exact .inl rfl
    | none =>
      rw [hretry] at h
      dsimp only at h ⊢
      split_ifs at h ⊢
      · exact .inl rfl
      · -- the row is there, so that the execution raises no `ValueError`
        obtain ⟨hnone, -⟩ | hstore := executeDeletion_error h
        · exfalso
          rw [updateJob, EventStore.find?_updateDeletionJob, hrow] at hnone
          cases hnone
        · exact .inr hstore

/-- A deletion that raises leaves at most an event, or the store has raised. -/
theorem delete_error {r : DeleteRequest} (h : (delete env w r).2 = .error e) :
    OnlyLogged w (delete env w r).1 ∨ ∃ s, e = .store s := by
  rw [delete] at h ⊢
  dsimp only at h ⊢
  cases hcross : crossTenant r.tenantId r.identityTenantId with
  | some e' => exact .inl (OnlyLogged.refl w)
  | none =>
    rw [hcross] at h
    dsimp only at h ⊢
    split_ifs at h ⊢
    · exact .inl (onlyLogged_emitAudit _ _)
    · exact .inl (onlyLogged_emitAudit _ _)
    · rw [fileJob] at h
      split at h
      · exact .inr ⟨_, (Except.error.inj h).symm⟩
      · cases h

theorem createHold_error {a : CreateHold} (h : (createHold env w a).2 = .error e) :
    (createHold env w a).1 = w := by
  rw [createHold] at h ⊢
  split at h
  · rfl
  · split at h
    · rfl
    · cases h

theorem setPolicy_error {tenantId : String} {kind : ResourceKind} {seconds : ℤ} {autoDelete : Bool}
    (h : (setPolicy env w tenantId kind seconds autoDelete).2 = .error e) :
    (setPolicy env w tenantId kind seconds autoDelete).1 = w := by
  rw [setPolicy] at h ⊢
  split_ifs at h ⊢
  rfl

theorem releaseHold_of_not_released {holdId releasedBy identity reason : String}
    (h : (releaseHold env w holdId releasedBy identity reason).2 ≠ .ok none) :
    (releaseHold env w holdId releasedBy identity reason).1 = w := by
  rw [releaseHold] at h ⊢
  split at h
  · rfl
  · rfl
  · exact absurd rfl h

/-- A refusal comes from the reply of the handler, or from an exception of the manager. -/
theorem refusal_answered {α : Type} {valueErrorStatus : Option ℤ}
    {reply : α → Except Failure AdminReply} {result : LifecycleWorld × Except LifecycleError α}
    (h : IsRefusal (answered valueErrorStatus reply result).2) :
    (∃ a, result.2 = .ok a ∧ IsRefusal (reply a)) ∨
      ∃ e, result.2 = .error e ∧ (failureOf valueErrorStatus e).status < 500 := by
  obtain ⟨w', r⟩ := result
  cases r with
  | ok a => exact .inl ⟨a, rfl, h⟩
  | error e =>
    obtain ⟨f, hf, -, hlt⟩ := h
    obtain rfl := Except.error.inj hf
    exact .inr ⟨e, rfl, hlt⟩

/-- A success is not a refusal. -/
theorem not_isRefusal_ok {reply : AdminReply} : ¬IsRefusal (.ok reply) := by
  rintro ⟨f, hf, -⟩
  cases hf

/-- **One refusal.** -/
theorem onlyLogged_of_refusal {call : AdminCall} (h : IsRefusal (handle P env w call).2) :
    OnlyLogged w (handle P env w call).1 := by
  obtain ⟨actor, request⟩ := call
  cases request with
  | policySet body =>
    change IsRefusal (policySet env w body).2 at h
    change OnlyLogged w (policySet env w body).1
    rw [policySet] at h ⊢
    cases hkind : kindOr400 body.resourceKind with
    | error f => exact OnlyLogged.refl w
    | ok kind =>
      rw [hkind] at h
      dsimp only at h ⊢
      rw [answered_fst]
      obtain ⟨a, -, hreply⟩ | ⟨e, he, -⟩ := refusal_answered h
      · exact absurd hreply not_isRefusal_ok
      · rw [setPolicy_error he]
        exact OnlyLogged.refl w
  | holdCreate body =>
    change IsRefusal (holdCreate env w actor body).2 at h
    change OnlyLogged w (holdCreate env w actor body).1
    rw [holdCreate] at h ⊢
    cases hargs : createHoldArgs actor body with
    | error f => exact OnlyLogged.refl w
    | ok a =>
      rw [hargs] at h
      dsimp only at h ⊢
      rw [answered_fst]
      obtain ⟨a, -, hreply⟩ | ⟨e, he, -⟩ := refusal_answered h
      · exact absurd hreply not_isRefusal_ok
      · rw [createHold_error he]
        exact OnlyLogged.refl w
  | holdRelease holdId body =>
    change IsRefusal (holdRelease env w actor holdId body).2 at h
    change OnlyLogged w (holdRelease env w actor holdId body).1
    rw [holdRelease] at h ⊢
    rw [answered_fst, releaseHold_of_not_released]
    · exact OnlyLogged.refl w
    · intro hreleased
      obtain ⟨a, ha, hreply⟩ | ⟨e, he, -⟩ := refusal_answered h
      · obtain rfl := Except.ok.inj (hreleased.symm.trans ha)
        exact not_isRefusal_ok hreply
      · rw [hreleased] at he
        cases he
  | deletionCreate body =>
    change IsRefusal (deletionCreate env w actor body).2 at h
    change OnlyLogged w (deletionCreate env w actor body).1
    rw [deletionCreate] at h ⊢
    cases hkind : kindOr400 body.resourceKind with
    | error f => exact OnlyLogged.refl w
    | ok kind =>
      rw [hkind] at h
      dsimp only at h ⊢
      rw [answered_fst]
      obtain ⟨a, -, hreply⟩ | ⟨e, he, hlt⟩ := refusal_answered h
      · exact absurd hreply not_isRefusal_ok
      · obtain hlogged | ⟨s, rfl⟩ := delete_error he
        · exact hlogged
        · exact absurd hlt (by rw [failureOf_store]; decide)
  | deletionExecute jobId =>
    obtain ⟨a, -, hreply⟩ | ⟨e, he, hlt⟩ := refusal_answered h
    · exact absurd hreply not_isRefusal_ok
    · -- an execution is never refused: it succeeds or the server has failed
      obtain ⟨-, message, rfl⟩ | ⟨s, rfl⟩ := executeDeletion_error he
      · exact absurd hlt (by rw [failureOf_valueError]; decide)
      · exact absurd hlt (by rw [failureOf_store]; decide)
  | deletionRetry jobId =>
    change OnlyLogged w (answered _ _ _).1
    rw [answered_fst]
    obtain ⟨a, -, hreply⟩ | ⟨e, he, hlt⟩ := refusal_answered h
    · exact absurd hreply not_isRefusal_ok
    · obtain hself | ⟨s, rfl⟩ := retryDeletion_error he
      · rw [hself]
        exact OnlyLogged.refl w
      · exact absurd hlt (by rw [failureOf_store]; decide)

/-- **Refusals change nothing.** In any run of requests that are all refused, with any actors and in
any environment, the policies, the holds, the jobs, the receipts and the stores of the process stay
as they are, and so do the events that are there; what is added to the log are deletions that were
blocked. -/
theorem refused_run (P : Primitives) (w : LifecycleWorld) (calls : List (LifecycleEnv × AdminCall))
    (hrefused : AllSteps (step P) (fun w a ↦ IsRefusal (handle P a.1 w a.2).2) w calls) :
    OnlyLogged w (run (step P) w calls) :=
  run_induction (I := OnlyLogged w) (fun _ _ hlogged h ↦ hlogged.trans (onlyLogged_of_refusal h))
    (OnlyLogged.refl w) hrefused

theorem refused_run_refusedCalls :
    OnlyLogged heldWorld (run (step LifecycleManager.samplePrimitives) heldWorld refusedCalls) :=
  refused_run LifecycleManager.samplePrimitives heldWorld refusedCalls
    ⟨⟨_, rfl, by decide, by decide⟩, ⟨_, rfl, by decide, by decide⟩, trivial⟩

end Refusals

end AdminLifecycle

end Orchestra
