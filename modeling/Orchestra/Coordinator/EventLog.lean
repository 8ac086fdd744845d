import Orchestra.Coordinator.Tables

/-!
# Task runs and the event log of the base store

The statements on `task_runs` and `events` that the base store issues. It does not know about
tenants, so the rows it writes have no tenant. An appended event with the default sequence number
gets the next number of its task; a reference to a task or node run that does not exist raises.
-/

namespace Orchestra

namespace EventStore

/-- The columns `upsert_task_run` overwrites on a conflict. -/
def refreshTaskRun (state : TaskRunState) (planId : Option String) (now : Timestamp)
    (r : TaskRun) : TaskRun :=
  { r with state := state, planId := planId, updatedAt := now }

@[simp] theorem refreshTaskRun_taskRunId (state : TaskRunState) (planId : Option String)
    (now : Timestamp) (r : TaskRun) :
    (refreshTaskRun state planId now r).taskRunId = r.taskRunId := rfl

/-- `INSERT INTO task_runs … ON CONFLICT (task_run_id) DO UPDATE`. -/
def upsertTaskRun (db : Database) (taskRunId contractId templateId : String)
    (state : TaskRunState) (planId : Option String) (now : Timestamp) : Database :=
  { db with
    taskRuns := db.taskRuns.upsert
      { taskRunId := taskRunId, contractId := contractId, templateId := templateId, state := state,
        planId := planId, createdAt := now, updatedAt := now }
      (refreshTaskRun state planId now) (refreshTaskRun_taskRunId state planId now) }

/-- `SELECT COALESCE(MAX(seq), 0) + 1 FROM events WHERE task_run_id = …`. -/
def nextSeq (db : Database) (taskRunId : String) : ℤ :=
  let seqs := (db.events.rows.filter fun e ↦ decide (e.taskRunId = some taskRunId)).map
    AuditEvent.seq
  (seqs.max?.getD 0) + 1

/-- The foreign keys of an event. -/
def referencesExist (db : Database) (ev : AuditEvent) : Bool :=
  (ev.taskRunId.all fun t ↦ (db.taskRuns.find? t).isSome) &&
    (ev.nodeRunId.all fun n ↦ (db.nodeRuns.find? n).isSome)

/-- `INSERT INTO events`. -/
def insertEvent (db : Database) (ev : AuditEvent) : Except StoreError Database :=
  if referencesExist db ev then
    match db.events.insert ev with
    | none => .error .uniqueViolation
    | some events => .ok { db with events := events }
  else .error .foreignKeyViolation

/-- The default sequence number is replaced when the event has a task. -/
def numberEvent (db : Database) (ev : AuditEvent) : AuditEvent :=
  match ev.taskRunId with
  | none => ev
  | some t => if ev.seq = 0 ∧ t ≠ "" then { ev with seq := nextSeq db t } else ev

def appendEvent (db : Database) (ev : AuditEvent) : Except StoreError Database :=
  insertEvent db { numberEvent db ev with tenantId := none }

/-! ## What an insertion leaves alone -/

variable {db db' : Database} {ev : AuditEvent}

theorem insertEvent_cases (h : insertEvent db ev = .ok db') :
    ∃ events, db.events.insert ev = some events ∧ db' = { db with events := events } := by
  rw [insertEvent] at h
  split at h
  · split at h
    · cases h
    · next events hins => cases h; exact ⟨events, hins, rfl⟩
  · cases h

/-- An insertion succeeds when the references exist and the identifier is free. -/
theorem exists_insertEvent_iff : (∃ db', insertEvent db ev = .ok db') ↔
    referencesExist db ev = true ∧ db.events.find? ev.eventId = none := by
  rw [← KeyedTable.insert_isSome_iff (r := ev), insertEvent]
  by_cases href : referencesExist db ev = true
  · rw [if_pos href]
    cases db.events.insert ev with
    | none => simp
    | some events => simp [href]
  · rw [if_neg href]
    simp [href]

/-- Insertions with different identifiers are independent. -/
theorem exists_insertEvent_of_ne {e : AuditEvent} (h : ∃ db', insertEvent db ev = .ok db')
    (hne : e.eventId ≠ ev.eventId) (he : insertEvent db e = .ok db') :
    ∃ db'', insertEvent db' ev = .ok db'' := by
  rw [exists_insertEvent_iff] at h ⊢
  obtain ⟨events, hins, rfl⟩ := insertEvent_cases he
  refine ⟨h.1, ?_⟩
  rw [KeyedTable.find?_insert hins, if_neg hne]
  exact h.2

/-- A number is given to an event, and nothing else is changed. -/
theorem numberEvent_eq (db : Database) (ev : AuditEvent) :
    ∃ seq, numberEvent db ev = { ev with seq := seq } := by
  rw [numberEvent]
  split
  · exact ⟨ev.seq, rfl⟩
  · split
    · exact ⟨_, rfl⟩
    · exact ⟨ev.seq, rfl⟩

theorem appendEvent_cases (h : appendEvent db ev = .ok db') :
    ∃ e events, e.eventId = ev.eventId ∧ e.taskRunId = ev.taskRunId ∧ e.kind = ev.kind ∧
      e.tenantId = none ∧ db.events.insert e = some events ∧
      db' = { db with events := events } := by
  obtain ⟨events, hins, hdb⟩ := insertEvent_cases h
  obtain ⟨seq, hseq⟩ := numberEvent_eq db ev
  refine ⟨{ numberEvent db ev with tenantId := none }, events, ?_, ?_, ?_, rfl, hins, hdb⟩ <;>
    rw [hseq]

end EventStore

end Orchestra
