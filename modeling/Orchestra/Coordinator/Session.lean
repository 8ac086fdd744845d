import Orchestra.Coordinator.ApprovalStore
import Orchestra.Coordinator.RunStore
import Orchestra.Foundation.Pool

/-!
# Methods of the store as programs of statements

So far a method of the store was one function of the tables. When several threads or several
processes use the store, what counts is which statements a method sends, and where its transactions
begin and end: here a method is a program whose calls are the statements, commits and rollbacks it
sends down its connection, and `tx` is the context manager around every block of statements. What a
connection does with the calls is left to the modules that say how many methods share it.

The statements are those of the earlier modules. All methods have the same form (`Transactional`): a
block only sends statements and does not catch what they raise, only the last block writes, and
after the last block nothing is left that can raise.
-/

namespace Orchestra

open Interaction

/-- What a transaction can hold a lock on. -/
inductive RowKey where
  | taskRun (taskRunId : String)
  | event (eventId : String)
  | approval (approvalId : String)
  deriving DecidableEq

/-- A SQL statement: what it does to the database and returns, and the rows it locks. A statement
that does not write leaves the database as it is. -/
structure Statement where
  Reply : Type
  exec : Database → Except StoreError (Reply × Database)
  locks : Database → List RowKey
  writes : Bool
  exec_of_reads : writes = false → ∀ db r db', exec db = .ok (r, db') → db' = db

namespace Statement

/-- What is left of a statement when its reply is not looked at. -/
def apply (s : Statement) (db : Database) : Database :=
  match s.exec db with
  | .ok (_, db') => db'
  | .error _ => db

theorem apply_eq {s : Statement} {db db' : Database} {r : s.Reply} (h : s.exec db = .ok (r, db')) :
    s.apply db = db' := by
  rw [apply, h]

theorem apply_of_reads {s : Statement} (h : s.writes = false) (db : Database) :
    s.apply db = db := by
  rw [apply]
  split
  · next r db' hexec => exact s.exec_of_reads h db r db' hexec
  · rfl

/-- `SELECT`. -/
def select {α : Type} (f : Database → α) : Statement where
  Reply := α
  exec db := .ok (f db, db)
  locks _ := []
  writes := false
  exec_of_reads := by
    rintro - db r db' h
    cases h
    rfl

/-- `SELECT … FOR UPDATE`. -/
def selectForUpdate {α : Type} (f : Database → α) (locks : Database → List RowKey) : Statement where
  Reply := α
  exec db := .ok (f db, db)
  locks := locks
  writes := false
  exec_of_reads := (select f).exec_of_reads

/-! ## Statements of the store -/

/-- `SELECT * FROM task_runs`. -/
def getTaskRun (taskRunId : String) : Statement := select fun db ↦ db.taskRuns.find? taskRunId

/-- `UPDATE task_runs SET state`. -/
def updateTaskState (taskRunId : String) (state : TaskRunState) (now : Timestamp) : Statement where
  Reply := Unit
  exec db := .ok ((), EventStore.updateTaskState db taskRunId state now)
  locks _ := [.taskRun taskRunId]
  writes := true
  exec_of_reads := nofun

/-- `SELECT COALESCE(MAX(seq), 0) + 1 FROM events`. -/
def nextSeq (taskRunId : String) : Statement := select fun db ↦ EventStore.nextSeq db taskRunId

/-- `INSERT INTO events`. -/
def insertEvent (ev : AuditEvent) : Statement where
  Reply := Unit
  exec db := (EventStore.insertEvent db ev).map fun db' ↦ ((), db')
  locks _ := [.event ev.eventId]
  writes := true
  exec_of_reads := nofun

theorem exec_insertEvent_iff {ev : AuditEvent} {db db' : Database} {a : Unit} :
    (insertEvent ev).exec db = .ok (a, db') ↔ EventStore.insertEvent db ev = .ok db' := by
  change (EventStore.insertEvent db ev).map _ = _ ↔ _
  cases EventStore.insertEvent db ev with
  | error e => exact ⟨nofun, nofun⟩
  | ok db'' =>
    constructor
    · intro h
      cases h
      rfl
    · intro h
      cases h
      rfl

end Statement

namespace EventStore

/-- `ORDER BY seq ASC, occurred_at ASC`. -/
def bySeq (a b : AuditEvent) : Bool :=
  decide (a.seq < b.seq ∨ a.seq = b.seq ∧ a.occurredAt ≤ b.occurredAt)

/-- A filter that is not given, or is the empty string, does not restrict. -/
def listed (taskRunId nodeRunId : Option String) (e : AuditEvent) : Bool :=
  decide (taskRunId.getD "" = "" ∨ e.taskRunId = taskRunId) &&
    decide (nodeRunId.getD "" = "" ∨ e.nodeRunId = nodeRunId)

def listEvents (db : Database) (taskRunId nodeRunId : Option String) : List AuditEvent :=
  (db.events.rows.filter (listed taskRunId nodeRunId)).mergeSort bySeq

def insertApproval (db : Database) (row : Approval) : Except StoreError (Approval × Database) :=
  match db.approvals.insertApproval row with
  | none => .error .uniqueViolation
  | some approvals => .ok (row, { db with approvals := approvals })

end EventStore

namespace Statement

/-- `SELECT * FROM events … ORDER BY`. -/
def listEvents (taskRunId nodeRunId : Option String) : Statement :=
  select fun db ↦ EventStore.listEvents db taskRunId nodeRunId

/-- `SELECT * FROM approvals … FOR UPDATE` on the rows of a gate, of which the first is fetched. -/
def selectApproval (taskRunId nodeId : String) (choice : ℕ) : Statement :=
  selectForUpdate (fun db ↦ EventStore.selectForGate db.approvals taskRunId nodeId choice)
    fun db ↦ (EventStore.approvalsOfGate db.approvals taskRunId nodeId).map fun r ↦
      .approval r.approvalId

/-- `INSERT INTO approvals … RETURNING *`. -/
def insertApproval (row : Approval) : Statement where
  Reply := Approval
  exec db := EventStore.insertApproval db row
  locks _ := [.approval row.approvalId]
  writes := true
  exec_of_reads := nofun

theorem exec_insertApproval_cases {row : Approval} {db db' : Database} {a : Approval}
    (h : (insertApproval row).exec db = .ok (a, db')) :
    a = row ∧ ∃ t, db.approvals.insertApproval row = some t ∧ db' = { db with approvals := t } := by
  change EventStore.insertApproval db row = _ at h
  rw [EventStore.insertApproval] at h
  split at h
  · cases h
  · next t hins =>
    cases h
    exact ⟨rfl, t, hins, rfl⟩

/-- An insertion succeeds when the identifier is free. -/
theorem exists_exec_insertApproval {row : Approval} {db : Database}
    (h : db.approvals.approvals.find? row.approvalId = none) :
    ∃ db', (insertApproval row).exec db = .ok (row, db') := by
  obtain ⟨t, ht⟩ := ApprovalTables.exists_insertApproval row h
  refine ⟨{ db with approvals := t }, ?_⟩
  change EventStore.insertApproval db row = _
  rw [EventStore.insertApproval, ht]
  rfl

end Statement

/-! ## Programs -/

/-- What is sent down a connection. -/
inductive Call where
  | execute (s : Statement)
  | commit
  | rollback

@[reducible] def Call.Reply : Call → Type
  | .execute s => s.Reply
  | .commit => Unit
  | .rollback => Unit

/-- A method of the store. -/
abbrev Method (α : Type) := Program Call Call.Reply StoreError α

namespace Method

variable {α β : Type}

def execute (s : Statement) : Method s.Reply := .perform (Call.execute s)

def commit : Method Unit := .perform Call.commit

def rollback : Method Unit := .perform Call.rollback

/-- What the context manager does with an exception. -/
def undo (e : StoreError) : Method α := do
  rollback
  .raise e

/-- `_tx`: the block, then a commit; where one of the two raises, a rollback. -/
def tx (body : Method α) : Method α :=
  Program.tryCatch undo do
    let a ← body
    commit
    pure a

/-! ### The methods -/

def getTaskRun (taskRunId : String) : Method (Option TaskRun) :=
  tx (execute (.getTaskRun taskRunId))

def updateTaskState (taskRunId : String) (state : TaskRunState) (now : Timestamp) : Method Unit :=
  tx (execute (.updateTaskState taskRunId state now))

/-- `_next_seq`. -/
def nextSeq (taskRunId : String) : Method ℤ := tx (execute (.nextSeq taskRunId))

/-- The second block of `append_event`. -/
def storeEvent (ev : AuditEvent) : Method Unit :=
  tx (execute (.insertEvent { ev with tenantId := none }))

/-- The next number is read in a transaction of its own. -/
def appendEvent (ev : AuditEvent) : Method Unit :=
  match ev.taskRunId with
  | none => storeEvent ev
  | some t =>
    if ev.seq = 0 ∧ t ≠ "" then do
      let seq ← nextSeq t
      storeEvent { ev with seq := seq }
    else storeEvent ev

def listEvents (taskRunId nodeRunId : Option String) : Method (List AuditEvent) :=
  tx (execute (.listEvents taskRunId nodeRunId))

/-- The block of `create_approval`. -/
def selectOrInsert (c : CreateApproval) : Method Approval := do
  let existing ← execute (.selectApproval c.taskRunId c.nodeId c.choice)
  match existing with
  | some row => pure row
  | none => execute (.insertApproval (EventStore.pendingRow c))

def createApproval (c : CreateApproval) : Method Approval := tx (selectOrInsert c)

/-! ### Methods, one call at a time -/

/-- What is left after the rollback. -/
def undone (e : StoreError) : Except StoreError Unit → Method α
  | .ok _ => .raise e
  | .error e' => .raise e'

theorem undone_eq_raise (e : StoreError) (r : Except StoreError Unit) :
    ∃ e', (undone e r : Method α) = .raise e' := by
  cases r with
  | ok u => exact ⟨e, rfl⟩
  | error e' => exact ⟨e', rfl⟩

theorem undo_eq (e : StoreError) : (undo e : Method α) = .call Call.rollback (undone e) := by
  refine congrArg (Program.call Call.rollback) (funext fun r ↦ ?_)
  cases r <;> rfl

theorem undo_bind (e : StoreError) (f : α → Method β) : undo e >>= f = undo e := by
  rw [undo_eq, undo_eq]
  refine congrArg (Program.call Call.rollback) (funext fun r ↦ ?_)
  cases r <;> rfl

/-- What is left after the commit. -/
def committed (p : Method α) : Except StoreError Unit → Method α
  | .ok _ => p
  | .error e => undo e

theorem tx_ret_bind (a : α) (f : α → Method β) :
    tx (.ret a) >>= f = .call Call.commit (committed (f a)) := by
  refine congrArg (Program.call Call.commit) (funext fun r ↦ ?_)
  cases r with
  | ok u => rfl
  | error e => exact undo_bind e f

theorem tx_raise_bind (e : StoreError) (f : α → Method β) : tx (.raise e) >>= f = undo e :=
  undo_bind e f

theorem tx_call_bind (s : Statement) (k : Except StoreError s.Reply → Method α)
    (f : α → Method β) :
    tx (.call (Call.execute s) k) >>= f = .call (Call.execute s) fun r ↦ tx (k r) >>= f := rfl

theorem bind_ret (p : Method α) : p >>= .ret = p := by
  induction p with
  | ret a => rfl
  | raise e => rfl
  | call c k ih => exact congrArg (Program.call c) (funext ih)

/-- What is left of a block after its only statement. -/
def executed (f : α → Method β) : Except StoreError α → Method β
  | .ok a => .call Call.commit (committed (f a))
  | .error e => undo e

theorem tx_execute_bind (s : Statement) (f : s.Reply → Method β) :
    tx (execute s) >>= f = .call (Call.execute s) (executed f) := by
  refine congrArg (Program.call (Call.execute s)) (funext fun r ↦ ?_)
  cases r with
  | ok a => exact tx_ret_bind a f
  | error e => exact tx_raise_bind e f

theorem tx_execute (s : Statement) :
    tx (execute s) = .call (Call.execute s) (executed .ret) := by
  rw [← bind_ret (tx (execute s)), tx_execute_bind]

/-- `create_approval` after its `SELECT`. -/
def selected (c : CreateApproval) : Except StoreError (Option Approval) → Method Approval
  | .ok (some row) => .call Call.commit (committed (.ret row))
  | .ok none => tx (execute (.insertApproval (EventStore.pendingRow c)))
  | .error e => undo e

theorem createApproval_eq (c : CreateApproval) :
    createApproval c = .call (Call.execute (.selectApproval c.taskRunId c.nodeId c.choice))
      (selected c) := by
  refine congrArg (Program.call (Call.execute _)) (funext fun r ↦ ?_)
  match r with
  | .ok (some row) => exact (bind_ret (tx (.ret row))).symm.trans (tx_ret_bind row .ret)
  | .ok none => rfl
  | .error e => rfl

/-- A block has a call left until it is over. -/
theorem exists_call_of_tx (body : Method α) (f : α → Method β) :
    ∃ c k, tx body >>= f = .call c k := by
  cases body with
  | ret a => exact ⟨_, _, tx_ret_bind a f⟩
  | raise e => exact ⟨_, _, (tx_raise_bind e f).trans (undo_eq e)⟩
  | call c k => exact ⟨c, _, rfl⟩

/-! ### The form of a method -/

/-- A block sends statements, and what one of them raises ends it. -/
def Body : Method α → Prop
  | .ret _ => True
  | .raise _ => True
  | .call (.execute _) k => (∀ e, k (.error e) = .raise e) ∧ ∀ r, Body (k (.ok r))
  | .call .commit _ => False
  | .call .rollback _ => False

/-- A block that does not write. -/
def Reads : Method α → Prop := Calls fun c ↦
  match c with
  | .execute s => s.writes = false
  | .commit => True
  | .rollback => True

/-- The form of a method: blocks that only read, and a last one after which it returns. -/
inductive Transactional {α : Type} : Method α → Prop where
  | ret (a : α) : Transactional (.ret a)
  | raise (e : StoreError) : Transactional (.raise e)
  | reading {β : Type} {body : Method β} {f : β → Method α} (hbody : Body body)
      (hreads : Reads body) (hf : ∀ b, Transactional (f b)) : Transactional (tx body >>= f)
  | last {β : Type} {body : Method β} {f : β → Method α} (hbody : Body body)
      (hf : ∀ b, ∃ a, f b = .ret a) : Transactional (tx body >>= f)

theorem body_pure (a : α) : Body (pure a : Method α) := trivial

theorem body_execute (s : Statement) : Body (execute s) := ⟨fun _ ↦ rfl, fun _ ↦ trivial⟩

theorem Body.bind {p : Method α} {f : α → Method β} (hp : Body p) (hf : ∀ a, Body (f a)) :
    Body (p >>= f) := by
  induction p with
  | ret a => exact hf a
  | raise e => trivial
  | call c k ih =>
    cases c with
    | execute s =>
      refine ⟨fun e ↦ ?_, fun r ↦ ih (.ok r) (hp.2 r)⟩
      change (k (.error e)).bind f = .raise e
      rw [hp.1 e]
      rfl
    | commit => exact hp.elim
    | rollback => exact hp.elim

/-- A method of one block. -/
theorem transactional_tx {body : Method α} (hbody : Body body) : Transactional (tx body) := by
  rw [← bind_ret (tx body)]
  exact .last hbody fun a ↦ ⟨a, rfl⟩

theorem transactional_updateTaskState (taskRunId : String) (state : TaskRunState)
    (now : Timestamp) : Transactional (updateTaskState taskRunId state now) :=
  transactional_tx (body_execute _)

theorem transactional_getTaskRun (taskRunId : String) : Transactional (getTaskRun taskRunId) :=
  transactional_tx (body_execute _)

theorem transactional_listEvents (taskRunId nodeRunId : Option String) :
    Transactional (listEvents taskRunId nodeRunId) :=
  transactional_tx (body_execute _)

theorem transactional_appendEvent (ev : AuditEvent) : Transactional (appendEvent ev) := by
  have hstore : ∀ ev, Transactional (storeEvent ev) := fun ev ↦ transactional_tx (body_execute _)
  rw [appendEvent]
  split
  · exact hstore ev
  · split
    · exact .reading (body_execute _) (calls_perform.mpr rfl) fun seq ↦ hstore _
    · exact hstore ev

theorem body_selectOrInsert (c : CreateApproval) : Body (selectOrInsert c) := by
  refine Body.bind (body_execute _) fun existing ↦ ?_
  cases existing with
  | some row => exact body_pure row
  | none => exact body_execute _

theorem transactional_createApproval (c : CreateApproval) : Transactional (createApproval c) :=
  transactional_tx (body_selectOrInsert c)

end Method

/-- A database with one task run. -/
def sampleDatabase : Database where
  taskRuns :=
    ⟨[{ taskRunId := "t", contractId := "c", templateId := "d", state := .created, createdAt := 0,
        updatedAt := 0 }], List.nodup_singleton _⟩

end Orchestra
