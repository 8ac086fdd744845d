import Orchestra.Coordinator.EventLog

/-!
# The statements of a run

What the store does for the coordinator besides the event log: the states of task and node runs,
grants and receipts. Each statement is followed by the lookup that the rest of the development uses.
-/

namespace Orchestra

namespace EventStore

variable {db db' : Database}

/-! ## Task runs -/

/-- The columns `update_task_state` writes. -/
def setTaskState (state : TaskRunState) (now : Timestamp) (r : TaskRun) : TaskRun :=
  { r with state := state, updatedAt := now }

@[simp] theorem setTaskState_taskRunId (state : TaskRunState) (now : Timestamp) (r : TaskRun) :
    (setTaskState state now r).taskRunId = r.taskRunId := rfl

/-- `UPDATE task_runs SET state = … WHERE task_run_id = …`. -/
def updateTaskState (db : Database) (taskRunId : String) (state : TaskRunState)
    (now : Timestamp) : Database :=
  { db with
    taskRuns := db.taskRuns.updateAt taskRunId (setTaskState state now)
      (setTaskState_taskRunId state now) }

theorem find?_upsertTaskRun (taskRunId contractId templateId : String) (state : TaskRunState)
    (planId : Option String) (now : Timestamp) :
    ∃ r, (upsertTaskRun db taskRunId contractId templateId state planId now).taskRuns.find?
        taskRunId = some r ∧ r.state = state ∧ r.planId = planId := by
  rw [upsertTaskRun, KeyedTable.find?_upsert, if_pos rfl]
  cases db.taskRuns.find? taskRunId with
  | none => exact ⟨_, rfl, rfl, rfl⟩
  | some r => exact ⟨_, rfl, rfl, rfl⟩

theorem find?_updateTaskState {taskRunId : String} {r : TaskRun}
    (h : db.taskRuns.find? taskRunId = some r) (state : TaskRunState) (now : Timestamp) :
    (updateTaskState db taskRunId state now).taskRuns.find? taskRunId
      = some (setTaskState state now r) := by
  rw [updateTaskState, KeyedTable.find?_updateAt_self, h]
  rfl

/-! ## Node runs -/

/-- The columns `upsert_node_run` overwrites on a conflict. -/
def refreshNodeRun (row r : NodeRun) : NodeRun :=
  { r with
    state := row.state
    capabilityId := row.capabilityId <|> r.capabilityId
    manifestId := row.manifestId <|> r.manifestId }

@[simp] theorem refreshNodeRun_nodeRunId (row r : NodeRun) :
    (refreshNodeRun row r).nodeRunId = r.nodeRunId := rfl

/-- `INSERT INTO node_runs … ON CONFLICT (node_run_id) DO UPDATE`. A new row refers to its task. -/
def upsertNodeRun (db : Database) (row : NodeRun) : Except StoreError Database :=
  if (db.nodeRuns.find? row.nodeRunId).isSome ∨ (db.taskRuns.find? row.taskRunId).isSome then
    .ok { db with
      nodeRuns := db.nodeRuns.upsert row (refreshNodeRun row) (refreshNodeRun_nodeRunId row) }
  else .error .foreignKeyViolation

/-- The columns `update_node_state` writes. -/
def setNodeState (state : NodeRunState) (output : Option Json) (started ended : Bool)
    (now : Timestamp) (r : NodeRun) : NodeRun :=
  { r with
    state := state
    startedAt := if started then some now else r.startedAt
    endedAt := if ended then some now else r.endedAt
    output := output <|> r.output }

@[simp] theorem setNodeState_nodeRunId (state : NodeRunState) (output : Option Json)
    (started ended : Bool) (now : Timestamp) (r : NodeRun) :
    (setNodeState state output started ended now r).nodeRunId = r.nodeRunId := rfl

/-- `UPDATE node_runs SET state = … WHERE node_run_id = …`. -/
def updateNodeState (db : Database) (nodeRunId : String) (state : NodeRunState)
    (output : Option Json) (started ended : Bool) (now : Timestamp) : Database :=
  { db with
    nodeRuns := db.nodeRuns.updateAt nodeRunId (setNodeState state output started ended now)
      (setNodeState_nodeRunId state output started ended now) }

theorem upsertNodeRun_eq_ok {row : NodeRun} (h : upsertNodeRun db row = .ok db') :
    db' = { db with
      nodeRuns := db.nodeRuns.upsert row (refreshNodeRun row) (refreshNodeRun_nodeRunId row) } := by
  rw [upsertNodeRun] at h
  split at h
  · exact (Except.ok.inj h).symm
  · cases h

/-! ## Events -/

/-- What is appended to the log is the event, but for its number. -/
theorem appendEvent_rows {ev : AuditEvent} (h : appendEvent db ev = .ok db') :
    ∃ e events, db' = { db with events := events } ∧ events.rows = db.events.rows ++ [e] ∧
      e.taskRunId = ev.taskRunId ∧ e.nodeRunId = ev.nodeRunId ∧ e.kind = ev.kind := by
  obtain ⟨events, hins, hdb⟩ := insertEvent_cases h
  obtain ⟨seq, hseq⟩ := numberEvent_eq db ev
  have hrows := KeyedTable.rows_of_insert hins
  rw [hseq] at hrows
  exact ⟨_, events, hdb, hrows, rfl, rfl, rfl⟩

/-! ## Grants and receipts -/

/-- `INSERT INTO grants`. -/
def saveGrant (db : Database) (grant : NodeGrant) : Except StoreError Database :=
  match db.grants.insert grant with
  | none => .error .uniqueViolation
  | some grants => .ok { db with grants := grants }

/-- The row of a receipt. -/
def receiptRow (r : SignedReceipt) (now : Timestamp) : Receipt where
  receiptId := r.receiptId
  taskRunId := r.taskRunId
  nodeRunId := r.nodeRunId
  nodeId := r.nodeId
  envelope := .obj r.envelope
  createdAt := now

/-- `INSERT INTO receipts`, which refers to a task and a node run. -/
def saveReceipt (db : Database) (r : SignedReceipt) (now : Timestamp) :
    Except StoreError Database :=
  if (db.taskRuns.find? r.taskRunId).isSome ∧ (db.nodeRuns.find? r.nodeRunId).isSome then
    match db.receipts.insert (receiptRow r now) with
    | none => .error .uniqueViolation
    | some receipts => .ok { db with receipts := receipts }
  else .error .foreignKeyViolation

/-- `SELECT * FROM receipts WHERE task_run_id = … ORDER BY created_at`. -/
def getReceipts (db : Database) (taskRunId : String) : List Receipt :=
  (db.receipts.rows.filter fun r ↦ decide (r.taskRunId = taskRunId)).insertionSort
    fun r r' ↦ r.createdAt ≤ r'.createdAt

/-- The tables a statement on grants or receipts leaves alone. -/
structure SameRuns (db db' : Database) : Prop where
  taskRuns : db'.taskRuns = db.taskRuns
  nodeRuns : db'.nodeRuns = db.nodeRuns
  events : db'.events = db.events

theorem sameRuns_of_saveGrant {grant : NodeGrant} (h : saveGrant db grant = .ok db') :
    SameRuns db db' := by
  rw [saveGrant] at h
  split at h
  · cases h
  · cases h
    exact ⟨rfl, rfl, rfl⟩

theorem sameRuns_of_saveReceipt {r : SignedReceipt} {now : Timestamp}
    (h : saveReceipt db r now = .ok db') : SameRuns db db' := by
  rw [saveReceipt] at h
  split at h
  · split at h
    · cases h
    · cases h
      exact ⟨rfl, rfl, rfl⟩
  · cases h

end EventStore

end Orchestra
