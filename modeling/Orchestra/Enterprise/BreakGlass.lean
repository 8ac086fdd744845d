import Orchestra.Core.Time
import Orchestra.Coordinator.EventLog
import Orchestra.Foundation.Transition

/-!
# Break-glass requests

A break-glass request is a two-person, time-bounded override. The store's statements are
conditional updates under the row lock; the service adds the effect ceiling and the window clamp
when a request is made, anchors the audit timeline of a request that belongs to no task, and emits
an audit event for every transition. Emission is best effort: a failed event never undoes the
transition.
-/

namespace Orchestra

/-! ## The effect ceiling and the window -/

namespace BreakGlass

def hardMaxWindowSeconds : ℤ := 4 * 60 * 60

def defaultWindowSeconds : ℤ := 15 * 60

/-- The rank of a classification, `None` for a value that is not one. -/
def classificationRank : String → Option ℕ
  | "public" => some 0
  | "partner" => some 1
  | "internal" => some 2
  | "restricted" => some 3
  | _ => none

/-- Looking up a key that cannot be hashed raises. -/
def unhashable : Json → Bool
  | .arr _ => true
  | .obj _ => true
  | _ => false

/-- `_check_effect_ceiling`: a reason when the effect must be rejected. The current classification
is looked up in the rank table only when a label override is given. -/
def checkEffectCeiling (effect resourceScope : Json) : Except StoreError (Option String) :=
  match effect with
  | .obj _ =>
    if effect.get? "disable_egress_pep" = some (.bool true) then
      .ok (some "disable_egress_pep is forbidden (Zero-Egress invariant)")
    else
      let current := (resourceScope.get? "current_classification").getD .null
      let route : Option String :=
        if effect.get? "egress_view_name" = some (.str "egress.public") ∧
            current = .str "restricted" then
          some "egress.public is forbidden for RESTRICTED resources"
        else none
      match effect.get? "label_override" with
      | some (.str label) =>
        if unhashable current then .error .typeError
        else
          match current with
          | .str cur =>
            match classificationRank cur, classificationRank label with
            | some c, some l =>
              if l < c then
                .ok (some ("label_override (" ++ label ++ ") is lower than resource's current " ++
                  "classification (" ++ cur ++ ")"))
              else .ok route
            | _, _ => .ok route
          | _ => .ok route
      | _ => .ok route
  | _ => .ok (some "effect must be a dict")

/-- `_clamp_window`. -/
def clampWindow (requested tenantMax : Option ℤ) : ℤ :=
  match requested, tenantMax with
  | none, none => defaultWindowSeconds
  | some candidate, none => max 1 (min (min candidate hardMaxWindowSeconds) hardMaxWindowSeconds)
  | none, some cap => max 1 (min (min cap cap) hardMaxWindowSeconds)
  | some candidate, some cap => max 1 (min (min candidate cap) hardMaxWindowSeconds)

/-- A clamped window is at least a second and at most the hard cap. -/
theorem clampWindow_bounds (requested tenantMax : Option ℤ) :
    1 ≤ clampWindow requested tenantMax ∧ clampWindow requested tenantMax ≤ 14400 := by
  rcases requested with _ | r <;> rcases tenantMax with _ | m <;>
    simp only [clampWindow, defaultWindowSeconds, hardMaxWindowSeconds] <;> omega

end BreakGlass

/-! ## The statements of the store -/

/-- Why an approval or a revocation is not applied. -/
inductive BreakGlassRefusal where
  | notFound
  | crossTenant
  | notApprovable (state : BreakGlassState)
  | applicantCannotApprove
  | alreadyApprovedByYou
  | alreadyTerminal
  deriving DecidableEq

/-- What an approval or a revocation returns. -/
inductive BreakGlassOutcome where
  | refused (reason : BreakGlassRefusal)
  | applied (state : BreakGlassState)
  deriving DecidableEq

namespace EventStore

/-- The table of break-glass requests. -/
abbrev BreakGlassTable := KeyedTable BreakGlassRequest.requestId

/-- The update of a first approval. -/
def firstApprove (approver : String) (now : Timestamp) (r : BreakGlassRequest) :
    BreakGlassRequest :=
  { r with
    state := .firstApproved
    firstApprover := some approver
    firstApprovedAt := some now }

/-- The update of a second approval, which activates the override. -/
def activate (approver : String) (now : Timestamp) (r : BreakGlassRequest) : BreakGlassRequest :=
  { r with
    state := .active
    secondApprover := some approver
    secondApprovedAt := some now
    activatedAt := some now
    expiresAt := some (now + seconds r.windowSeconds) }

/-- The update of a revocation. -/
def revokeRow (revoker reason : String) (now : Timestamp) (r : BreakGlassRequest) :
    BreakGlassRequest :=
  { r with
    state := .revoked
    revokedBy := some revoker
    revokedAt := some now
    revokeReason := some reason }

/-- The update of the sweep. -/
def expireRow (r : BreakGlassRequest) : BreakGlassRequest := { r with state := .expired }

/-- The rows the sweep selects. -/
def expired (now : Timestamp) (r : BreakGlassRequest) : Bool :=
  decide (r.state = .active) && r.expiresAt.any fun e ↦ decide (e < now)

@[simp] theorem firstApprove_requestId (a : String) (now : Timestamp) (r : BreakGlassRequest) :
    (firstApprove a now r).requestId = r.requestId := rfl

@[simp] theorem activate_requestId (a : String) (now : Timestamp) (r : BreakGlassRequest) :
    (activate a now r).requestId = r.requestId := rfl

@[simp] theorem revokeRow_requestId (a b : String) (now : Timestamp) (r : BreakGlassRequest) :
    (revokeRow a b now r).requestId = r.requestId := rfl

@[simp] theorem expireRow_requestId (r : BreakGlassRequest) :
    (expireRow r).requestId = r.requestId := rfl

/-- The checks of an approval, in the order in which they are made. -/
def approvalRefusal (row : BreakGlassRequest) (approver identityTenantId : String) :
    Option BreakGlassRefusal :=
  if row.tenantId ≠ identityTenantId then some .crossTenant
  else if row.state ∉ [BreakGlassState.requested, .firstApproved] then
    some (.notApprovable row.state)
  else if row.requestedBy = approver then some .applicantCannotApprove
  else if row.firstApprover = some approver ∧ approver ≠ "" then some .alreadyApprovedByYou
  else none

/-- `record_break_glass_approval`: requested → first-approved → active. -/
def recordBreakGlassApproval (t : BreakGlassTable) (requestId approver identityTenantId : String)
    (now : Timestamp) : BreakGlassTable × BreakGlassOutcome :=
  match t.find? requestId with
  | none => (t, .refused .notFound)
  | some row =>
    match approvalRefusal row approver identityTenantId with
    | some reason => (t, .refused reason)
    | none =>
      if row.state = .requested then
        (t.updateAt requestId (firstApprove approver now) (firstApprove_requestId approver now),
          .applied .firstApproved)
      else
        (t.updateAt requestId (activate approver now) (activate_requestId approver now),
          .applied .active)

/-- The checks of a revocation. -/
def revocationRefusal (row : BreakGlassRequest) (identityTenantId : String) :
    Option BreakGlassRefusal :=
  if row.tenantId ≠ identityTenantId then some .crossTenant
  else if row.state ∈ [BreakGlassState.expired, .revoked] then some .alreadyTerminal
  else none

def revokeBreakGlass (t : BreakGlassTable) (requestId revoker identityTenantId reason : String)
    (now : Timestamp) : BreakGlassTable × BreakGlassOutcome :=
  match t.find? requestId with
  | none => (t, .refused .notFound)
  | some row =>
    match revocationRefusal row identityTenantId with
    | some refusal => (t, .refused refusal)
    | none =>
      (t.updateAt requestId (revokeRow revoker reason now) (revokeRow_requestId revoker reason now),
        .applied .revoked)

/-- `sweep_expired_break_glass`: the table and the freshly expired identifiers. -/
def sweepExpiredBreakGlass (t : BreakGlassTable) (now : Timestamp) :
    BreakGlassTable × List String :=
  (t.update (expired now) expireRow expireRow_requestId,
    (t.rows.filter (expired now)).map BreakGlassRequest.requestId)

end EventStore

/-! ## The service -/

/-- What the environment supplies to one call of the service: the clock of the transaction and of
the audit events, fresh identifiers, the process's string hash, and which of the best-effort writes
fail. -/
structure BreakGlassEnv where
  now : Timestamp
  occurredAt : Timestamp
  requestId : String := ""
  eventId : ℕ → String
  hash : String → ℤ := fun _ ↦ 0
  anchorFails : Bool := false
  auditFails : ℕ → Bool := fun _ ↦ false

/-- The arguments of `request`. -/
structure BreakGlassArgs where
  tenantId : String
  purpose : String
  effect : Json
  resourceScope : Json
  requestedBy : String
  ticket : Option String := none
  windowSeconds : Option ℤ := none
  taskRunId : Option String := none

namespace BreakGlassService

open EventStore BreakGlass

/-- `_emit`, the `i`-th of the call. Without an anchor there is no event, and a failed append is
swallowed. -/
def emit (env : BreakGlassEnv) (i : ℕ) (db : Database) (taskRunId : String) (kind : EventKind)
    (tenantId : String) (payload : List (String × Json)) (actor : String) : Database :=
  if taskRunId = "" ∨ env.auditFails i then db
  else
    match appendEvent db
        { eventId := env.eventId i, taskRunId := some taskRunId, kind := kind, actor := actor,
          payload := .obj (Json.setField payload "tenant_id" (.str tenantId)),
          occurredAt := env.occurredAt } with
    | .ok db' => db'
    | .error _ => db

/-- `_anchor_tenant_scoped_request`: a synthetic task run for the audit timeline. -/
def anchorTenantScopedRequest (env : BreakGlassEnv) (db : Database) (tenantId marker : String) :
    Database × String :=
  let anchorId := "bg-anchor-" ++ tenantId ++ "-" ++ zeroPad 7 ((env.hash marker).natAbs % 10000000)
  (if env.anchorFails then db
    else upsertTaskRun db anchorId ("break-glass:" ++ marker) "break-glass" .running none env.now,
    anchorId)

/-- `_resolve_tenant_max_window`: no tenant has an override today. -/
def resolveTenantMaxWindow (_tenantId : String) : Option ℤ := none

/-- The checks `request` makes before it writes anything. -/
def requestError (a : BreakGlassArgs) : Option StoreError :=
  if a.tenantId = "" then some (.contractViolation "tenant_id is required")
  else if a.purpose = "" then some (.contractViolation "purpose is required")
  else if a.requestedBy = "" then some (.contractViolation "requested_by is required")
  else
    match checkEffectCeiling a.effect a.resourceScope with
    | .error e => some e
    | .ok (some reason) => some (.contractViolation ("break-glass effect rejected: " ++ reason))
    | .ok none => none

/-- The row `request` persists. -/
def requestRow (env : BreakGlassEnv) (a : BreakGlassArgs) (taskRunId : String) :
    BreakGlassRequest where
  requestId := env.requestId
  tenantId := a.tenantId
  taskRunId := some taskRunId
  purpose := a.purpose
  effect := a.effect
  resourceScope := a.resourceScope
  ticket := a.ticket
  requestedBy := a.requestedBy
  requestedAt := env.now
  state := .requested
  windowSeconds := clampWindow a.windowSeconds (resolveTenantMaxWindow a.tenantId)

/-- The payload of the event that announces a request. -/
def requestPayload (r : BreakGlassRequest) (taskRunId : String) : List (String × Json) :=
  [("request_id", .str r.requestId), ("tenant_id", .str r.tenantId), ("task_run_id", .str taskRunId),
    ("purpose", .str r.purpose), ("ticket", .ofOption r.ticket),
    ("requested_by", .str r.requestedBy), ("effect", r.effect),
    ("resource_scope", r.resourceScope), ("window_seconds", .int r.windowSeconds)]

/-- Step 3 of `request`: the task its events land on. -/
def anchorRequest (env : BreakGlassEnv) (db : Database) (a : BreakGlassArgs) : Database × String :=
  match a.taskRunId with
  | some t => if t = "" then anchorTenantScopedRequest env db a.tenantId a.purpose else (db, t)
  | none => anchorTenantScopedRequest env db a.tenantId a.purpose

/-- Steps 4 and 5 of `request`: the row, and the event that announces it. -/
def persistRequest (env : BreakGlassEnv) (db : Database) (a : BreakGlassArgs)
    (taskRunId : String) : Database × Except StoreError BreakGlassRequest :=
  let row := requestRow env a taskRunId
  match db.breakGlass.insert row with
  | none => (db, .error .uniqueViolation)
  | some breakGlass =>
    (emit env 0 { db with breakGlass := breakGlass } taskRunId .breakGlassRequested a.tenantId
      (requestPayload row taskRunId) a.requestedBy, .ok row)

/-- `request`. The anchor is written in a transaction of its own, so it stays when the insertion of
the request raises. -/
def request (env : BreakGlassEnv) (db : Database) (a : BreakGlassArgs) :
    Database × Except StoreError BreakGlassRequest :=
  match requestError a with
  | some e => (db, .error e)
  | none =>
    let anchored := anchorRequest env db a
    persistRequest env anchored.1 a anchored.2

/-- The task run the events of a request land on; empty when there is none. -/
def anchorOf (t : BreakGlassTable) (requestId : String) : String :=
  ((t.find? requestId).bind BreakGlassRequest.taskRunId).getD ""

/-- `approve`. -/
def approve (env : BreakGlassEnv) (db : Database) (requestId approver identityTenantId : String)
    (rationale : String) : Database × BreakGlassOutcome :=
  let (breakGlass, outcome) :=
    recordBreakGlassApproval db.breakGlass requestId approver identityTenantId env.now
  let db := { db with breakGlass := breakGlass }
  match outcome with
  | .refused reason => (db, .refused reason)
  | .applied .firstApproved =>
    (emit env 0 db (anchorOf breakGlass requestId) .breakGlassFirstApproved identityTenantId
      [("request_id", .str requestId), ("approver", .str approver), ("rationale", .str rationale),
        ("required_next", .str "second_approver")] approver, outcome)
  | .applied .active =>
    let expiresAt := (breakGlass.find? requestId).bind BreakGlassRequest.expiresAt
    (emit env 0 db (anchorOf breakGlass requestId) .breakGlassActive identityTenantId
      [("request_id", .str requestId), ("second_approver", .str approver),
        ("rationale", .str rationale),
        ("expires_at", .ofOption (expiresAt.map toString))] approver, outcome)
  | .applied _ => (db, outcome)

/-- `revoke`. -/
def revoke (env : BreakGlassEnv) (db : Database) (requestId revoker identityTenantId : String)
    (reason : String) : Database × BreakGlassOutcome :=
  let (breakGlass, outcome) :=
    revokeBreakGlass db.breakGlass requestId revoker identityTenantId reason env.now
  let db := { db with breakGlass := breakGlass }
  match outcome with
  | .refused refusal => (db, .refused refusal)
  | .applied _ =>
    (emit env 0 db (anchorOf breakGlass requestId) .breakGlassRevoked identityTenantId
      [("request_id", .str requestId), ("revoker", .str revoker), ("reason", .str reason)] revoker,
      outcome)

/-- The events of a sweep, one for each expired request. -/
def emitExpired (env : BreakGlassEnv) : ℕ → Database → List String → Database
  | _, db, [] => db
  | i, db, id :: ids =>
    let tenantId := ((db.breakGlass.find? id).map BreakGlassRequest.tenantId).getD ""
    emitExpired env (i + 1)
      (emit env i db (anchorOf db.breakGlass id) .breakGlassExpired tenantId
        [("request_id", .str id), ("tenant_id", .str tenantId)] "orchestra.sweeper") ids

/-- `sweep_expired`. -/
def sweepExpired (env : BreakGlassEnv) (db : Database) : Database × List String :=
  let (breakGlass, ids) := sweepExpiredBreakGlass db.breakGlass env.now
  (emitExpired env 0 { db with breakGlass := breakGlass } ids, ids)

/-! ## Calls as steps -/

/-- A call of the service. -/
inductive Call where
  | request (env : BreakGlassEnv) (args : BreakGlassArgs)
  | approve (env : BreakGlassEnv) (requestId approver identityTenantId rationale : String)
  | revoke (env : BreakGlassEnv) (requestId revoker identityTenantId reason : String)
  | sweepExpired (env : BreakGlassEnv)

/-- The database after a call. -/
def step (db : Database) : Call → Database
  | .request env args => (request env db args).1
  | .approve env requestId approver identityTenantId rationale =>
    (approve env db requestId approver identityTenantId rationale).1
  | .revoke env requestId revoker identityTenantId reason =>
    (revoke env db requestId revoker identityTenantId reason).1
  | .sweepExpired env => (sweepExpired env db).1

/-! ## What a call does to the table of requests -/

@[simp] theorem emit_breakGlass (env : BreakGlassEnv) (i : ℕ) (db : Database) (taskRunId : String)
    (kind : EventKind) (tenantId : String) (payload : List (String × Json)) (actor : String) :
    (emit env i db taskRunId kind tenantId payload actor).breakGlass = db.breakGlass := by
  rw [emit]
  split
  · rfl
  · split
    · next h =>
      obtain ⟨_, _, -, -, -, -, -, rfl⟩ := appendEvent_cases h
      rfl
    · rfl

@[simp] theorem emitExpired_breakGlass (env : BreakGlassEnv) (i : ℕ) (db : Database)
    (ids : List String) : (emitExpired env i db ids).breakGlass = db.breakGlass := by
  induction ids generalizing i db with
  | nil => rfl
  | cons id ids ih => rw [emitExpired, ih, emit_breakGlass]

@[simp] theorem anchorRequest_breakGlass (env : BreakGlassEnv) (db : Database)
    (a : BreakGlassArgs) : (anchorRequest env db a).1.breakGlass = db.breakGlass := by
  have hscoped : (anchorTenantScopedRequest env db a.tenantId a.purpose).1.breakGlass
      = db.breakGlass := by
    rw [anchorTenantScopedRequest]
    split <;> rfl
  rw [anchorRequest]
  split
  · split
    · exact hscoped
    · rfl
  · exact hscoped

/-- A request inserts its row, or leaves the table as it is. -/
theorem request_breakGlass (env : BreakGlassEnv) (db : Database) (a : BreakGlassArgs) :
    (request env db a).1.breakGlass = db.breakGlass ∨
      requestError a = none ∧ ∃ taskRunId,
        db.breakGlass.insert (requestRow env a taskRunId)
          = some (request env db a).1.breakGlass := by
  rw [request]
  cases hok : requestError a with
  | some e => exact Or.inl rfl
  | none =>
    simp only [persistRequest, anchorRequest_breakGlass]
    cases hins : db.breakGlass.insert (requestRow env a (anchorRequest env db a).2) with
    | none => exact Or.inl (anchorRequest_breakGlass env db a)
    | some breakGlass =>
      refine Or.inr ⟨trivial, (anchorRequest env db a).2, ?_⟩
      rw [hins, emit_breakGlass]

theorem approve_breakGlass (env : BreakGlassEnv) (db : Database)
    (requestId approver identityTenantId rationale : String) :
    (approve env db requestId approver identityTenantId rationale).1.breakGlass
      = (recordBreakGlassApproval db.breakGlass requestId approver identityTenantId env.now).1 := by
  rw [approve]
  generalize recordBreakGlassApproval db.breakGlass requestId approver identityTenantId env.now = p
  obtain ⟨t, outcome⟩ := p
  rcases outcome with reason | state
  · rfl
  · cases state <;> simp

/-- An approval returns what the store returns. -/
theorem approve_outcome (env : BreakGlassEnv) (db : Database)
    (requestId approver identityTenantId rationale : String) :
    (approve env db requestId approver identityTenantId rationale).2
      = (recordBreakGlassApproval db.breakGlass requestId approver identityTenantId env.now).2 := by
  rw [approve]
  generalize recordBreakGlassApproval db.breakGlass requestId approver identityTenantId env.now = p
  obtain ⟨t, outcome⟩ := p
  rcases outcome with reason | state
  · rfl
  · cases state <;> rfl

theorem revoke_breakGlass (env : BreakGlassEnv) (db : Database)
    (requestId revoker identityTenantId reason : String) :
    (revoke env db requestId revoker identityTenantId reason).1.breakGlass
      = (revokeBreakGlass db.breakGlass requestId revoker identityTenantId reason env.now).1 := by
  rw [revoke]
  generalize revokeBreakGlass db.breakGlass requestId revoker identityTenantId reason env.now = p
  obtain ⟨t, outcome⟩ := p
  cases outcome <;> simp

theorem sweepExpired_breakGlass (env : BreakGlassEnv) (db : Database) :
    (sweepExpired env db).1.breakGlass = (sweepExpiredBreakGlass db.breakGlass env.now).1 := by
  rw [sweepExpired]
  simp

end BreakGlassService

end Orchestra
