import Orchestra.Coordinator.Engine
import Orchestra.Coordinator.RunStore
import Orchestra.Streaming.EventBus

/-!
# What the calls of the engine do

The stores and the event bus answer the calls of a run from the state they share with the rest of
the system, the clock, the adapters and the person who decides answer them as the environment has
it, and any call that leaves the engine may raise. Before every call the rest of the system may
change the shared state: other tasks run, and their rows are written.

The first section reads a trace: what has been persisted, logged and announced by its calls. The
last one connects a trace with the state its calls have left behind.
-/

namespace Orchestra

/-- The class and the text of an exception of the store. -/
def StoreError.raised : StoreError → Raised
  | .uniqueViolation => ⟨"UniqueViolation", "duplicate key value violates unique constraint"⟩
  | .foreignKeyViolation => ⟨"ForeignKeyViolation", "insert violates foreign key constraint"⟩
  | .lookupError message => ⟨"LookupError", message⟩
  | .contractViolation message => .contractViolation message
  | .typeError => ⟨"TypeError", ""⟩
  | .unavailable => ⟨"OperationalError", "the connection is closed"⟩

/-- The class and the text of an exception of the verification. -/
def PyError.raised : PyError → Raised
  | .keyError key => ⟨"KeyError", pyRepr key⟩
  | .typeError => ⟨"TypeError", "comparing strings with non-ASCII characters is not supported"⟩
  | .attributeError name => ⟨"AttributeError", "object has no attribute " ++ pyRepr name⟩

namespace Engine

open Interaction

/-! ## Reading a trace -/

def issued? : RunStep → Option String
  | ⟨.newId, .ok id⟩ => some id
  | _ => none

/-- The identifiers that were issued. -/
def issuedIds (t : RunTrace) : List String := t.filterMap issued?

def taskWrite? (taskRunId : String) : RunStep → Option TaskRunState
  | ⟨.upsertTaskRun id _ _ state _, .ok _⟩ => if id = taskRunId then some state else none
  | ⟨.updateTaskState id state, .ok _⟩ => if id = taskRunId then some state else none
  | _ => none

/-- The states of a task that were persisted, in order. -/
def persisted (taskRunId : String) (t : RunTrace) : List TaskRunState :=
  t.filterMap (taskWrite? taskRunId)

def planWrite? (taskRunId : String) : RunStep → Option (Option String)
  | ⟨.upsertTaskRun id _ _ _ planId, .ok _⟩ => if id = taskRunId then some planId else none
  | _ => none

/-- The plan identifier in the row of a task, once the row has been written. -/
def storedPlan (taskRunId : String) (t : RunTrace) : Option (Option String) :=
  (t.filterMap (planWrite? taskRunId)).getLast?

def nodeWrite? : RunStep → Option (String × NodeRunState)
  | ⟨.upsertNodeRun row, .ok _⟩ => some (row.nodeRunId, row.state)
  | ⟨.updateNodeState id state _ _ _, .ok _⟩ => some (id, state)
  | _ => none

/-- The state last written for a node run. -/
def nodeState (t : RunTrace) (nodeRunId : String) : Option NodeRunState :=
  (((t.filterMap nodeWrite?).filter fun p ↦ decide (p.1 = nodeRunId)).map Prod.snd).getLast?

def event? (taskRunId : String) : RunStep → Option AuditEvent
  | ⟨.appendEvent ev, .ok _⟩ => if ev.taskRunId = some taskRunId then some ev else none
  | _ => none

/-- The events that were appended to the log of a task. -/
def events (taskRunId : String) (t : RunTrace) : List AuditEvent :=
  t.filterMap (event? taskRunId)

/-- An event of this kind was appended for the node run. -/
def HasEvent (taskRunId : String) (t : RunTrace) (kind : EventKind) (nodeRunId : String) : Prop :=
  ∃ ev ∈ events taskRunId t, ev.kind = kind ∧ ev.nodeRunId = some nodeRunId

def signed? : RunStep → Option ExecutionPlan
  | ⟨.signPlan plan, .ok _⟩ => some plan
  | _ => none

/-- The plan that was signed. -/
def signedPlan (t : RunTrace) : Option ExecutionPlan := (t.filterMap signed?).head?

/-- The plan digest in the first event of this kind. -/
def announcedDigest (taskRunId : String) (kind : EventKind) (t : RunTrace) : Option Json :=
  ((events taskRunId t).filter fun ev ↦ decide (ev.kind = kind)).head?.bind fun ev ↦
    ev.payload.get? "plan_digest"

section Concat

variable (t : RunTrace) (s : RunStep)

@[simp] theorem issuedIds_concat :
    issuedIds (t ++ [s]) = issuedIds t ++ (issued? s).toList := by
  rw [issuedIds, List.filterMap_append]
  cases h : issued? s <;> simp [issuedIds, h]

@[simp] theorem persisted_concat (taskRunId : String) :
    persisted taskRunId (t ++ [s]) = persisted taskRunId t ++ (taskWrite? taskRunId s).toList := by
  rw [persisted, List.filterMap_append]
  cases h : taskWrite? taskRunId s <;> simp [persisted, h]

theorem storedPlan_concat (taskRunId : String) :
    storedPlan taskRunId (t ++ [s]) = (planWrite? taskRunId s).or (storedPlan taskRunId t) := by
  rw [storedPlan, List.filterMap_append]
  cases h : planWrite? taskRunId s <;> simp [storedPlan, h]

theorem nodeState_concat (nodeRunId : String) :
    nodeState (t ++ [s]) nodeRunId =
      match nodeWrite? s with
      | some (id, state) => if id = nodeRunId then some state else nodeState t nodeRunId
      | none => nodeState t nodeRunId := by
  rw [nodeState, List.filterMap_append]
  cases h : nodeWrite? s with
  | none => simp [nodeState, h]
  | some p =>
    by_cases hp : p.1 = nodeRunId
    · simp [h, hp]
    · simp [nodeState, h, hp]

@[simp] theorem events_concat (taskRunId : String) :
    events taskRunId (t ++ [s]) = events taskRunId t ++ (event? taskRunId s).toList := by
  rw [events, List.filterMap_append]
  cases h : event? taskRunId s <;> simp [events, h]

theorem signedPlan_concat : signedPlan (t ++ [s]) = (signedPlan t).or (signed? s) := by
  rw [signedPlan, List.filterMap_append]
  cases h : signed? s <;> simp [signedPlan, h]

end Concat

/-! ## The state behind the calls -/

structure World where
  db : Database := {}
  bus : EventBus := {}
  initialInputs : Option Dict := none
  results : Dict := []
  approvalEvents : List ((String × String) × Dict) := []

/-- The task has a row with this state and this plan. -/
def TaskRow (db : Database) (taskRunId : String) (state : TaskRunState)
    (planId : Option String) : Prop :=
  ∃ r, db.taskRuns.find? taskRunId = some r ∧ r.state = state ∧ r.planId = planId

/-- A node run of the task is in state `running`. -/
def NodeRunning (db : Database) (taskRunId nodeRunId : String) : Prop :=
  ∃ r, db.nodeRuns.find? nodeRunId = some r ∧ r.taskRunId = taskRunId ∧ r.state = .running

/-- The log of the task has an event of this kind for the node run. -/
def InLog (db : Database) (taskRunId : String) (kind : EventKind) (nodeRunId : String) : Prop :=
  ∃ ev ∈ db.events.rows, ev.taskRunId = some taskRunId ∧ ev.kind = kind ∧
    ev.nodeRunId = some nodeRunId

/-- What the rest of the system does not do while a task runs: it does not move the task's row,
start the task's nodes, take events from its log, or open its bus again. -/
structure Keeps (taskRunId : String) (w w' : World) : Prop where
  taskRow : ∀ state planId,
    TaskRow w.db taskRunId state planId → TaskRow w'.db taskRunId state planId
  running : ∀ n, NodeRunning w'.db taskRunId n → NodeRunning w.db taskRunId n
  events : ∀ kind n, InLog w.db taskRunId kind n → InLog w'.db taskRunId kind n
  started : ∀ n, InLog w'.db taskRunId .nodeStarted n → InLog w.db taskRunId .nodeStarted n
  closed : w.bus.isClosed taskRunId = true → w'.bus.isClosed taskRunId = true

/-- A system that does not move. -/
theorem keeps_idle (taskRunId : String) (_ : RunTrace) (w : World) : Keeps taskRunId w w :=
  ⟨fun _ _ h ↦ h, fun _ h ↦ h, fun _ _ h ↦ h, fun _ h ↦ h, fun h ↦ h⟩

/-- What surrounds a run: the sources of identifiers and time, the adapters and the people, the
exceptions that calls raise, and the rest of the system. -/
structure Env (taskRunId : String) where
  newId : RunTrace → World → String
  utcNow : RunTrace → ℕ
  monotonic : RunTrace → ℚ
  /-- The clock of the database. -/
  now : RunTrace → Timestamp
  approvalRowId : RunTrace → NewId
  choice : RunTrace → ℕ
  adapter : RunTrace → AdapterRequest → Except Raised AdapterResult
  approvalHandler : RunTrace → Dict → Except Raised Dict
  decided : RunTrace → Dict → Dict
  raises : RunTrace → Cmd → Option Raised
  others : RunTrace → World → World
  newId_fresh : ∀ t w, newId t w ∉ issuedIds t
  /-- Identifiers have the form of a UUID. -/
  hyphen_mem_newId : ∀ t w, '-' ∈ (newId t w).toList
  others_keep : ∀ t w, Keeps taskRunId w (others t w)

/-- An identifier longer than those issued before. -/
def longerId (t : RunTrace) : String :=
  String.ofList (List.replicate ((issuedIds t).foldr (fun id n ↦ max id.length n) 0 + 1) '-')

theorem length_lt_longerId {t : RunTrace} {id : String} (hid : id ∈ issuedIds t) :
    id.length < (longerId t).length := by
  have hle (ids : List String) (hid : id ∈ ids) :
      id.length ≤ ids.foldr (fun id n ↦ max id.length n) 0 := by
    induction ids with
    | nil => cases hid
    | cons first ids ih =>
      rcases List.mem_cons.mp hid with rfl | hid
      · exact le_max_left _ _
      · exact (ih hid).trans (le_max_right _ _)
  rw [longerId, String.length_ofList, List.length_replicate]
  exact Nat.lt_succ_of_le (hle _ hid)

theorem longerId_notMem (t : RunTrace) : longerId t ∉ issuedIds t :=
  fun hmem ↦ (length_lt_longerId hmem).false

theorem hyphen_mem_longerId (t : RunTrace) : '-' ∈ (longerId t).toList := by
  rw [longerId, String.toList_ofList]
  exact List.mem_replicate.mpr ⟨Nat.succ_ne_zero _, rfl⟩

/-- An environment in which the clocks stand still and the rest of the system is idle. -/
def idleEnv (taskRunId : String) (adapter : AdapterRequest → Except Raised AdapterResult)
    (decision : Dict) (raises : RunTrace → Cmd → Option Raised) : Env taskRunId where
  newId t _ := longerId t
  utcNow _ := 0
  monotonic _ := 0
  now _ := 0
  approvalRowId _ := ⟨"approval-1", by decide⟩
  choice _ := 0
  adapter _ := adapter
  approvalHandler _ _ := .ok decision
  decided _ bucket := bucket
  raises := raises
  others _ w := w
  newId_fresh t _ := longerId_notMem t
  hyphen_mem_newId t _ := hyphen_mem_longerId t
  others_keep _ _ := ⟨fun _ _ h ↦ h, fun _ h ↦ h, fun _ _ h ↦ h, fun _ h ↦ h, fun h ↦ h⟩

namespace World

/-- A transaction: it commits, or it raises and leaves the tables alone. -/
def commit (w : World) (tx : Except StoreError Database) : Except Raised Unit × World :=
  match tx with
  | .ok db => (.ok (), { w with db := db })
  | .error e => (.error (e.raised), w)

/-- `create_for_node`. -/
def createForNode (w : World) (c : CreateApproval) : Except Raised String × World :=
  match EventStore.createApproval w.db.approvals c with
  | .ok (approvals, row) => (.ok row.approvalId, { w with db := { w.db with approvals := approvals } })
  | .error e => (.error (e.raised), w)

/-- `save_approval`. -/
def saveApproval (w : World) (row : Approval) : Except Raised Unit × World :=
  match Coordinator.saveApproval false w.db.approvals row with
  | .ok approvals => (.ok (), { w with db := { w.db with approvals := approvals } })
  | .error e => (.error (e.raised), w)

/-- `node_results[node_id]`. -/
def getResult (w : World) (nodeId : String) : Except Raised Dict :=
  match (Json.obj w.results).get? nodeId with
  | some outputs => .ok outputs.items
  | none => .error ⟨"KeyError", pyRepr nodeId⟩

/-- The receipt of a row, and its verification. -/
def verifyReceipt (cfg : Config) (row : Receipt) : Except Raised Bool :=
  match row.envelope with
  | .obj envelope =>
    match cfg.receiptBuilder.verify cfg.P
        ⟨row.receiptId, row.taskRunId, row.nodeRunId, row.nodeId, envelope,
          toString row.createdAt⟩ with
    | .ok verified => .ok verified
    | .error e => .error (e.raised)
  | _ => .error ⟨"ValidationError", "Input should be a valid dictionary"⟩

end World

/-- The calls whose answer comes from outside the engine. -/
def Cmd.leaves : Cmd → Bool
  | .newId | .utcNow | .monotonic | .setInitialInputs _ | .getInitialInputs | .setResult _ _
  | .getResult _ | .getResults | .signPlan _ | .lookupAdapter _ | .project _ _ _ | .merge _
  | .verifyReceipt _ | .registerApproval _ _ _ | .awaitDecision _ => false
  | _ => true

variable (cfg : Config) {taskRunId : String} (env : Env taskRunId)

/-- The answer to a call that does not raise by itself. -/
def answer (w : World) (t : RunTrace) : (c : Cmd) → Except Raised (Reply c) × World
  | .newId => (.ok (env.newId t w), w)
  | .utcNow => (.ok (env.utcNow t), w)
  | .monotonic => (.ok (env.monotonic t), w)
  | .setInitialInputs inputs => (.ok (), { w with initialInputs := some inputs })
  | .getInitialInputs => (.ok w.initialInputs, w)
  | .setResult nodeId outputs =>
    (.ok (), { w with results := Json.setField w.results nodeId (.obj outputs) })
  | .getResult nodeId => (w.getResult nodeId, w)
  | .getResults => (.ok w.results, w)
  | .upsertTaskRun id contractId templateId state planId =>
    w.commit (.ok (EventStore.upsertTaskRun w.db id contractId templateId state planId (env.now t)))
  | .updateTaskState id state => w.commit (.ok (EventStore.updateTaskState w.db id state (env.now t)))
  | .getTaskRun id => (.ok (w.db.taskRuns.find? id), w)
  | .upsertNodeRun row => w.commit (EventStore.upsertNodeRun w.db row)
  | .updateNodeState id state output started ended =>
    w.commit (.ok (EventStore.updateNodeState w.db id state output started ended (env.now t)))
  | .appendEvent ev => w.commit (EventStore.appendEvent w.db ev)
  | .saveGrant grant => w.commit (EventStore.saveGrant w.db grant)
  | .saveReceipt receipt => w.commit (EventStore.saveReceipt w.db receipt (env.now t))
  | .getReceipts id => (.ok (EventStore.getReceipts w.db id), w)
  | .createForNode id nodeId tenantId =>
    w.createForNode
      { taskRunId := id, nodeId := nodeId, tenantId := tenantId, requestedBy := "engine",
        approvalId := Coordinator.newApprovalId (env.approvalRowId t), now := env.now t,
        choice := env.choice t }
  | .saveApproval row => w.saveApproval row
  | .publish id event => (.ok (), { w with bus := w.bus.publish id event })
  | .closeBus id => (.ok (), { w with bus := w.bus.close id })
  | .route node q => (cfg.router.route cfg.P cfg.F (env.utcNow t) node q, w)
  | .signPlan plan => (.ok (hmacSign cfg.P cfg.grantIssuer.key plan.unsignedDump), w)
  | .lookupAdapter id =>
    (if id ∈ cfg.adapters then .ok ()
      else .error (.orchestraError ("no adapter registered for capability " ++ pyRepr id)), w)
  | .project id viewName payload =>
    (match cfg.egressPep with
      | some pep => pep.project cfg.P id viewName payload
      | none => .error (.attributeError .null "project"), w)
  | .merge inputs => (Merge.deterministicMerge cfg.F inputs, w)
  | .invoke request => (env.adapter t request, w)
  | .verifyReceipt row => (World.verifyReceipt cfg row, w)
  | .registerApproval id nodeId bucket =>
    (.ok (), { w with approvalEvents := ((id, nodeId), bucket) :: w.approvalEvents })
  | .awaitDecision bucket => (.ok (env.decided t bucket), w)
  | .handleApproval _ _ request => (env.approvalHandler t request, w)

/-- The exception a call raises by itself, if it leaves the engine. -/
def fault (t : RunTrace) (c : Cmd) : Option Raised := if c.leaves then env.raises t c else none

/-- A call of the run: the rest of the system moves, and then the call raises or is answered. -/
def machine : Machine Cmd Reply Raised World := fun w t c ↦
  match fault env t c with
  | some e => (.error e, env.others t w)
  | none => answer cfg env (env.others t w) t c

/-- The run of a coordinator for a task. -/
def execRun (a : RunArgs) (env : Env a.taskRunId) (w : World) :
    Outcome Cmd Reply Raised CoordinatorResult World :=
  exec (machine cfg env) (run cfg a) w []

end Engine

end Orchestra
