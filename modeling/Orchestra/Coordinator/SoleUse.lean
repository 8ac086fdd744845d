import Orchestra.Coordinator.SharedConnection

/-!
# A method that has the connection to itself

The functions of the earlier modules give what a method does to the tables and returns. Its program
of statements does just that when no other method uses the connection and nothing fails but the
statements: a block is all or nothing (`alone_tx`), and so `append_event` and `create_approval`
return what the functions return, and leave what they leave.
-/

namespace Orchestra

open Interaction

namespace Method

variable {α β : Type}

/-- What a block does to the database that its statements see. -/
def blockResult : Method α → Database → Except StoreError (α × Database)
  | .ret a, db => .ok (a, db)
  | .raise e, _ => .error e
  | .call (.execute s) k, db =>
    match s.exec db with
    | .ok (a, db') => blockResult (k (.ok a)) db'
    | .error e => blockResult (k (.error e)) db
  | .call .commit k, db => blockResult (k (.ok ())) db
  | .call .rollback k, db => blockResult (k (.ok ())) db

theorem blockResult_call_ok {s : Statement} {k : Except StoreError s.Reply → Method α}
    {db db' : Database} {a : s.Reply} (h : s.exec db = .ok (a, db')) :
    blockResult (.call (Call.execute s) k) db = blockResult (k (.ok a)) db' := by
  simp only [blockResult, h]

theorem blockResult_call_error {s : Statement} {k : Except StoreError s.Reply → Method α}
    {db : Database} {e : StoreError} (h : s.exec db = .error e) :
    blockResult (.call (Call.execute s) k) db = blockResult (k (.error e)) db := by
  simp only [blockResult, h]

/-- The result of a single statement. -/
theorem blockResult_execute (s : Statement) (db : Database) :
    blockResult (execute s) db = s.exec db := by
  cases h : s.exec db with
  | ok reply =>
    obtain ⟨a, db'⟩ := reply
    exact blockResult_call_ok h
  | error e => exact blockResult_call_error h

/-- The connection answers one method, without faults. -/
def soleUse : Machine Call Call.Reply StoreError (Connection Unit) := fun conn _ c ↦
  (conn.answer () false c).getD (.error .unavailable, conn)

/-- A connection between two transactions. -/
structure Idle (db : Database) (conn : Connection Unit) : Prop where
  stored : conn.stored = db
  current : conn.current = db
  failed : conn.failed = false

/-- Alone on its connection and run from `db`, the method has this result; where it raises, the
database is as before. -/
def Alone (p : Method α) (db : Database) (result : Except StoreError (α × Database)) : Prop :=
  ∀ conn t, Idle db conn → (exec soleUse p conn t).result = result.map Prod.fst ∧
    Idle ((result.map Prod.snd).toOption.getD db) (exec soleUse p conn t).state

variable {conn : Connection Unit} {t : Trace Call Call.Reply StoreError} {s : Statement}

theorem soleUse_execute_ok {a : s.Reply} {db : Database} (hfailed : conn.failed = false)
    (h : s.exec conn.current = .ok (a, db)) :
    soleUse conn t (.execute s) = (.ok a, conn.ran () s db) := by
  simp [soleUse, Connection.answer, hfailed, h]

theorem soleUse_execute_error {e : StoreError} (hfailed : conn.failed = false)
    (h : s.exec conn.current = .error e) :
    soleUse conn t (.execute s) = (.error e, { conn.discard with failed := true }) := by
  simp [soleUse, Connection.answer, hfailed, h]

theorem soleUse_commit (hfailed : conn.failed = false) :
    soleUse conn t .commit = (.ok (), conn.keep) := by
  simp [soleUse, Connection.answer, hfailed]

/-- After a rollback nothing has happened. -/
theorem exec_undo (e : StoreError) :
    (exec soleUse (undo e : Method α) conn t).result = .error e ∧
      Idle conn.stored (exec soleUse (undo e : Method α) conn t).state := by
  rw [undo_eq]
  exact ⟨rfl, rfl, rfl, rfl⟩

/-- A block that returns is committed. -/
theorem exec_tx_bind_ok {body : Method β} (f : β → Method α) (conn : Connection Unit)
    (t : Trace Call Call.Reply StoreError) (hbody : Body body) {b : β} {db : Database}
    (hfailed : conn.failed = false)
    (h : blockResult body conn.current = .ok (b, db)) :
    ∃ conn' t', Idle db conn' ∧ exec soleUse (tx body >>= f) conn t
      = exec soleUse (f b) conn' t' := by
  induction body generalizing conn t with
  | ret b' =>
    cases h
    rw [tx_ret_bind, exec, soleUse_commit hfailed]
    exact ⟨conn.keep, _, ⟨rfl, rfl, hfailed⟩, rfl⟩
  | raise e => cases h
  | call c k ih =>
    cases c with
    | execute s =>
      rw [tx_call_bind, exec]
      cases hexec : s.exec conn.current with
      | ok reply =>
        obtain ⟨a, db'⟩ := reply
        rw [blockResult_call_ok hexec] at h
        rw [soleUse_execute_ok hfailed hexec]
        exact ih (.ok a) _ _ (hbody.2 a) hfailed h
      | error e =>
        rw [blockResult_call_error hexec, hbody.1 e] at h
        cases h
    | commit => exact hbody.elim
    | rollback => exact hbody.elim

/-- A block that raises leaves nothing behind. -/
theorem exec_tx_bind_error {body : Method β} (f : β → Method α) (conn : Connection Unit)
    (t : Trace Call Call.Reply StoreError) (hbody : Body body) {e : StoreError}
    (hfailed : conn.failed = false)
    (h : blockResult body conn.current = .error e) :
    (exec soleUse (tx body >>= f) conn t).result = .error e ∧
      Idle conn.stored (exec soleUse (tx body >>= f) conn t).state := by
  induction body generalizing conn t with
  | ret b => cases h
  | raise e' =>
    cases h
    rw [tx_raise_bind]
    exact exec_undo e
  | call c k ih =>
    cases c with
    | execute s =>
      rw [tx_call_bind, exec]
      cases hexec : s.exec conn.current with
      | ok reply =>
        obtain ⟨a, db'⟩ := reply
        rw [blockResult_call_ok hexec] at h
        rw [soleUse_execute_ok hfailed hexec]
        exact ih (.ok a) _ _ (hbody.2 a) hfailed h
      | error e' =>
        rw [blockResult_call_error hexec, hbody.1 e'] at h
        cases h
        rw [soleUse_execute_error hfailed hexec, hbody.1 e, tx_raise_bind]
        exact exec_undo e
    | commit => exact hbody.elim
    | rollback => exact hbody.elim

variable {db : Database}

/-- **A block is all or nothing.** -/
theorem alone_tx {body : Method α} (hbody : Body body) (db : Database) :
    Alone (tx body) db (blockResult body db) := by
  intro conn t hidle
  rw [← bind_ret (tx body)]
  cases h : blockResult body db with
  | ok result =>
    obtain ⟨a, db'⟩ := result
    obtain ⟨conn', t', hidle', heq⟩ := exec_tx_bind_ok .ret conn t hbody hidle.failed
      (by rw [hidle.current, h])
    rw [heq]
    exact ⟨rfl, hidle'⟩
  | error e =>
    have hexec := exec_tx_bind_error .ret conn t hbody hidle.failed (by rw [hidle.current, h])
    rwa [hidle.stored] at hexec

/-- A block that reads, and what comes after it. -/
theorem alone_tx_bind {body : Method β} {f : β → Method α} (hbody : Body body) {b : β}
    {result : Except StoreError (α × Database)} (h : blockResult body db = .ok (b, db))
    (hf : Alone (f b) db result) : Alone (tx body >>= f) db result := by
  intro conn t hidle
  obtain ⟨conn', t', hidle', heq⟩ := exec_tx_bind_ok f conn t hbody hidle.failed
    (by rw [hidle.current, h])
  rw [heq]
  exact hf conn' t' hidle'

/-! ## The methods -/

theorem alone_execute (s : Statement) (db : Database) :
    Alone (tx (execute s)) db (s.exec db) := by
  rw [← blockResult_execute s db]
  exact alone_tx (body_execute s) db

theorem alone_updateTaskState (db : Database) (taskRunId : String) (state : TaskRunState)
    (now : Timestamp) : Alone (updateTaskState taskRunId state now) db
      (.ok ((), EventStore.updateTaskState db taskRunId state now)) :=
  alone_execute (.updateTaskState taskRunId state now) db

theorem alone_storeEvent (db : Database) (ev : AuditEvent) : Alone (storeEvent ev) db
    ((EventStore.insertEvent db { ev with tenantId := none }).map fun db' ↦ ((), db')) :=
  alone_execute (.insertEvent { ev with tenantId := none }) db

/-- **`append_event` alone** does what its function does. -/
theorem alone_appendEvent (db : Database) (ev : AuditEvent) :
    Alone (appendEvent ev) db ((EventStore.appendEvent db ev).map fun db' ↦ ((), db')) := by
  rw [EventStore.appendEvent, EventStore.numberEvent, appendEvent]
  cases ev.taskRunId with
  | none => exact alone_storeEvent db ev
  | some t =>
    by_cases hnumber : ev.seq = 0 ∧ t ≠ ""
    · -- the number is the one that the first block has read
      simp only [if_pos hnumber]
      exact alone_tx_bind (body_execute _) (blockResult_execute (.nextSeq t) db)
        (alone_storeEvent db _)
    · simp only [if_neg hnumber]
      exact alone_storeEvent db ev

theorem blockResult_selectOrInsert (db : Database) (c : CreateApproval) :
    blockResult (selectOrInsert c) db
      = (EventStore.createApproval db.approvals c).map fun created ↦
        (created.2, { db with approvals := created.1 }) := by
  have hselect : (Statement.selectApproval c.taskRunId c.nodeId c.choice).exec db
      = .ok (EventStore.selectForGate db.approvals c.taskRunId c.nodeId c.choice, db) := rfl
  refine (blockResult_call_ok hselect).trans ?_
  rw [EventStore.createApproval]
  cases EventStore.selectForGate db.approvals c.taskRunId c.nodeId c.choice with
  | some row => rfl
  | none =>
    refine (blockResult_execute (.insertApproval (EventStore.pendingRow c)) db).trans ?_
    change EventStore.insertApproval db (EventStore.pendingRow c) = _
    rw [EventStore.insertApproval]
    cases db.approvals.insertApproval (EventStore.pendingRow c) <;> rfl

/-- **`create_approval` alone** does what its function does. -/
theorem alone_createApproval (db : Database) (c : CreateApproval) :
    Alone (createApproval c) db ((EventStore.createApproval db.approvals c).map fun created ↦
      (created.2, { db with approvals := created.1 })) := by
  rw [← blockResult_selectOrInsert]
  exact alone_tx (body_selectOrInsert c) db

end Method

end Orchestra
