import Orchestra.Coordinator.EventLog
import Orchestra.Foundation.Transition

/-!
# The multi-tenant event store

The isolating store writes the active tenant into every row it inserts, and reads and updates only
rows of the active tenant. One statement is different: `upsert_task_run` resolves a conflict on the
primary key `task_run_id` alone, so an upsert under one tenant overwrites the state, the plan and
the update time of a row that another tenant owns.

The second half compares what one tenant observes before and after any sequence of calls of
another. Nothing but those three columns can change, and they hold what the last upsert on the row's
identifier wrote (`find?_run`).
-/

namespace Orchestra

open EventStore Transition

/-- The arguments of `upsert_task_run`, with the clock. -/
structure Upsert where
  taskRunId : String
  contractId : String
  templateId : String
  state : TaskRunState
  planId : Option String := none
  now : Timestamp
  deriving DecidableEq

/-- The columns `get_task_run` returns. -/
structure TaskRunView where
  taskRunId : String
  contractId : String
  templateId : String
  state : TaskRunState
  planId : Option String
  createdAt : Timestamp
  updatedAt : Timestamp
  deriving DecidableEq

/-- The columns `list_events` returns. -/
structure EventView where
  eventId : String
  seq : ℤ
  kind : EventKind
  occurredAt : Timestamp
  actor : String
  payload : Json
  nodeRunId : Option String
  prevEventId : Option String
  deriving DecidableEq

namespace IsolatingEventStore

def viewTaskRun (r : TaskRun) : TaskRunView :=
  ⟨r.taskRunId, r.contractId, r.templateId, r.state, r.planId, r.createdAt, r.updatedAt⟩

def viewEvent (e : AuditEvent) : EventView :=
  ⟨e.eventId, e.seq, e.kind, e.occurredAt, e.actor, e.payload, e.nodeRunId, e.prevEventId⟩

/-! ## The methods, under an active tenant -/

section Methods

variable (tenant : String) (db : Database)

/-- The row an upsert inserts when its identifier is new. -/
def newTaskRun (u : Upsert) : TaskRun where
  taskRunId := u.taskRunId
  contractId := u.contractId
  templateId := u.templateId
  state := u.state
  planId := u.planId
  createdAt := u.now
  updatedAt := u.now
  tenantId := some tenant

def upsertTaskRun (u : Upsert) : Database :=
  { db with
    taskRuns := db.taskRuns.upsert (newTaskRun tenant u) (refreshTaskRun u.state u.planId u.now)
      (refreshTaskRun_taskRunId u.state u.planId u.now) }

def getTaskRun (taskRunId : String) : Option TaskRunView :=
  ((db.taskRuns.find? taskRunId).filter fun r ↦ decide (r.tenantId = some tenant)).map viewTaskRun

/-- The column update of `update_task_state`. -/
def setState (state : TaskRunState) (now : Timestamp) (r : TaskRun) : TaskRun :=
  { r with state := state, updatedAt := now }

@[simp] theorem setState_taskRunId (state : TaskRunState) (now : Timestamp) (r : TaskRun) :
    (setState state now r).taskRunId = r.taskRunId := rfl

/-- The rows `update_task_state` selects. -/
def ownTaskRun (taskRunId : String) (r : TaskRun) : Bool :=
  decide (r.tenantId = some tenant ∧ r.taskRunId = taskRunId)

def updateTaskState (taskRunId : String) (state : TaskRunState) (now : Timestamp) :
    Except StoreError Database :=
  if db.taskRuns.rows.any (ownTaskRun tenant taskRunId) then
    .ok { db with
      taskRuns := db.taskRuns.update (ownTaskRun tenant taskRunId) (setState state now)
        (setState_taskRunId state now) }
  else
    .error (.lookupError ("task_run not found in tenant " ++ tenant ++ ": " ++ taskRunId))

/-- `append_event`; unlike the base store, it keeps the sequence number it is given. -/
def appendEvent (ev : AuditEvent) : Except StoreError Database :=
  insertEvent db { ev with tenantId := some tenant }

/-- The rows `list_events` selects. -/
def eventRows (taskRunId : String) : List EventView :=
  (db.events.rows.filter fun e ↦
    decide (e.tenantId = some tenant ∧ e.taskRunId = some taskRunId)).map viewEvent

/-- `l` is an answer the database may give to `list_events`: the selected rows, ordered by sequence
number, rows with equal numbers in any order. -/
def ListEvents (taskRunId : String) (l : List EventView) : Prop :=
  l.Perm (eventRows tenant db taskRunId) ∧ l.Pairwise fun e e' ↦ e.seq ≤ e'.seq

end Methods

/-- A call of the store. -/
inductive Call where
  | upsertTaskRun (u : Upsert)
  | updateTaskState (taskRunId : String) (state : TaskRunState) (now : Timestamp)
  | appendEvent (ev : AuditEvent)
  | getTaskRun (taskRunId : String)
  | listEvents (taskRunId : String)

/-- The database after a call under `tenant`. A call that raises is rolled back, and a read changes
nothing. -/
def step (tenant : String) (db : Database) : Call → Database
  | .upsertTaskRun u => upsertTaskRun tenant db u
  | .updateTaskState taskRunId state now =>
    match updateTaskState tenant db taskRunId state now with
    | .ok db' => db'
    | .error _ => db
  | .appendEvent ev =>
    match appendEvent tenant db ev with
    | .ok db' => db'
    | .error _ => db
  | .getTaskRun _ => db
  | .listEvents _ => db

/-! ## What another tenant observes -/

/-- The tenant gets the same answers from both databases. -/
def SameView (tenant : String) (db db' : Database) : Prop :=
  (∀ taskRunId, getTaskRun tenant db' taskRunId = getTaskRun tenant db taskRunId) ∧
    ∀ taskRunId l, ListEvents tenant db' taskRunId l ↔ ListEvents tenant db taskRunId l

/-- The last upsert on an identifier. -/
def lastUpsert (taskRunId : String) : List Call → Option Upsert
  | [] => none
  | .upsertTaskRun u :: cs =>
    (lastUpsert taskRunId cs).or (if u.taskRunId = taskRunId then some u else none)
  | _ :: cs => lastUpsert taskRunId cs

/-- An upsert applied to a row that is there already. -/
def refresh (u : Option Upsert) (r : TaskRun) : TaskRun :=
  match u with
  | none => r
  | some u => refreshTaskRun u.state u.planId u.now r

/-! ## What a call does to the task runs -/

/-- Both outcomes of `update_task_state`: when it raises, it has selected no row. -/
theorem find?_updateTaskState (tenant : String) (db : Database) (id : String)
    (state : TaskRunState) (now : Timestamp) (taskRunId : String) :
    (step tenant db (.updateTaskState id state now)).taskRuns.find? taskRunId
      = (db.taskRuns.find? taskRunId).map fun r ↦
          if ownTaskRun tenant id r then setState state now r else r := by
  rw [step, updateTaskState]
  by_cases hany : db.taskRuns.rows.any (ownTaskRun tenant id)
  · rw [if_pos hany]
    exact KeyedTable.find?_update _ _ _ (setState_taskRunId state now) taskRunId
  · rw [if_neg hany]
    cases hrow : db.taskRuns.find? taskRunId with
    | none => rfl
    | some r =>
      have hnot : ¬ownTaskRun tenant id r := fun hown ↦
        hany (List.any_eq_true.mpr ⟨r, KeyedTable.mem_of_find? hrow, hown⟩)
      rw [Option.map_some, if_neg hnot]

theorem taskRuns_appendEvent (tenant : String) (db : Database) (ev : AuditEvent) :
    (step tenant db (.appendEvent ev)).taskRuns = db.taskRuns := by
  rw [step]
  split
  · next db' h =>
    obtain ⟨events, -, rfl⟩ := insertEvent_cases h
    rfl
  · rfl

section Frame

variable {a b : String} (hne : a ≠ b) (db : Database)

include hne

/-- The events of another tenant are out of reach. -/
theorem eventRows_step (c : Call) (taskRunId : String) :
    eventRows a (step b db c) taskRunId = eventRows a db taskRunId := by
  cases c with
  | upsertTaskRun u => rfl
  | updateTaskState id state now =>
    rw [step, updateTaskState]
    split
    · next h => split at h <;> cases h; rfl
    · rfl
  | appendEvent ev =>
    rw [step]
    split
    · next db' h =>
      obtain ⟨events, hins, rfl⟩ := insertEvent_cases h
      rw [eventRows, KeyedTable.rows_of_insert hins, List.filter_append, List.map_append, eventRows,
        List.filter_singleton]
      simp [Ne.symm hne]
    · rfl
  | getTaskRun id => rfl
  | listEvents id => rfl

theorem eventRows_run (calls : List Call) (taskRunId : String) :
    eventRows a (run (step b) db calls) taskRunId = eventRows a db taskRunId :=
  run_invariant (I := fun db' ↦ eventRows a db' taskRunId = eventRows a db taskRunId)
    (fun s c hs ↦ (eventRows_step hne s c taskRunId).trans hs) rfl calls

omit hne in
/-- The refreshing of a call, when it is an upsert on this identifier. -/
private theorem lastUpsert_cons (taskRunId : String) (c : Call) (cs : List Call) :
    lastUpsert taskRunId (c :: cs)
      = (lastUpsert taskRunId cs).or (lastUpsert taskRunId [c]) := by
  cases c <;> simp [lastUpsert]

omit hne in
private theorem refresh_or (u v : Option Upsert) (r : TaskRun) :
    refresh u (refresh v r) = refresh (u.or v) r := by
  cases u <;> cases v <;> rfl

/-- One call of `b` does to a row of `a` what its upsert on that row's identifier does, if it is
one. -/
theorem find?_step (c : Call) {taskRunId : String} {r : TaskRun}
    (hrow : db.taskRuns.find? taskRunId = some r) (hown : r.tenantId = some a) :
    (step b db c).taskRuns.find? taskRunId = some (refresh (lastUpsert taskRunId [c]) r) := by
  cases c with
  | upsertTaskRun u =>
    rw [step, upsertTaskRun, KeyedTable.find?_upsert, hrow]
    by_cases hid : u.taskRunId = taskRunId
    · simp [newTaskRun, lastUpsert, hid, refresh]
    · simp [newTaskRun, lastUpsert, hid, refresh]
  | updateTaskState id state now =>
    rw [find?_updateTaskState, hrow]
    simp [ownTaskRun, hown, hne, lastUpsert, refresh]
  | appendEvent ev => rw [taskRuns_appendEvent, hrow]; rfl
  | getTaskRun id => rw [step, hrow]; rfl
  | listEvents id => rw [step, hrow]; rfl

/-- After any calls of `b`, a row of `a` is what the last upsert on its identifier made of it. -/
theorem find?_run (calls : List Call) {taskRunId : String} {r : TaskRun}
    (hrow : db.taskRuns.find? taskRunId = some r) (hown : r.tenantId = some a) :
    (run (step b) db calls).taskRuns.find? taskRunId
      = some (refresh (lastUpsert taskRunId calls) r) := by
  induction calls generalizing db r with
  | nil => exact hrow
  | cons c cs ih =>
    have hstep := find?_step hne db c hrow hown
    have hown' : (refresh (lastUpsert taskRunId [c]) r).tenantId = some a := by
      cases lastUpsert taskRunId [c] <;> exact hown
    rw [run_cons, ih _ hstep hown', refresh_or, ← lastUpsert_cons]

/-- A row that is not `a`'s does not become `a`'s. -/
theorem getTaskRun_step_eq_none (c : Call) {taskRunId : String}
    (h : getTaskRun a db taskRunId = none) : getTaskRun a (step b db c) taskRunId = none := by
  rw [getTaskRun, Option.map_eq_none_iff, Option.filter_eq_none_iff] at h ⊢
  simp only [decide_eq_true_eq] at h ⊢
  cases c with
  | upsertTaskRun u =>
    intro r hr
    rw [step, upsertTaskRun, KeyedTable.find?_upsert] at hr
    split at hr
    · cases hold : db.taskRuns.find? taskRunId with
      | none =>
        rw [hold] at hr
        obtain rfl := Option.some.inj hr
        simpa [newTaskRun] using Ne.symm hne
      | some r₀ =>
        rw [hold] at hr
        obtain rfl := Option.some.inj hr
        exact h r₀ hold
    · exact h r hr
  | updateTaskState id state now =>
    intro r hr
    rw [find?_updateTaskState, Option.map_eq_some_iff] at hr
    obtain ⟨r₀, hr₀, rfl⟩ := hr
    have hforeign := h r₀ hr₀
    split <;> exact hforeign
  | appendEvent ev =>
    rw [taskRuns_appendEvent]
    exact h
  | getTaskRun id => exact h
  | listEvents id => exact h

end Frame

/-! ## Non-interference -/

/-- **Exactly when another tenant's calls are invisible.** What tenant `a` observes is the same
before and after a sequence of calls under tenant `b` if and only if every task run of `a` keeps its
values: where the calls contain an upsert on its identifier, the last one writes the state, the plan
and the time that the row had already. -/
theorem sameView_iff {a b : String} (hne : a ≠ b) (db : Database) (calls : List Call) :
    SameView a db (run (step b) db calls) ↔
      ∀ r ∈ db.taskRuns.rows, r.tenantId = some a → ∀ u, lastUpsert r.taskRunId calls = some u →
        u.state = r.state ∧ u.planId = r.planId ∧ u.now = r.updatedAt := by
  constructor
  · rintro ⟨hget, -⟩ r hr hown u hu
    have hrow := KeyedTable.find?_of_mem hr
    have hsame := hget r.taskRunId
    rw [getTaskRun, getTaskRun, find?_run hne db calls hrow hown, hrow, hu] at hsame
    simp only [refresh, refreshTaskRun, hown, decide_true, Option.filter_some, if_true,
      Option.map_some, viewTaskRun, Option.some.injEq, TaskRunView.mk.injEq] at hsame
    exact ⟨hsame.2.2.2.1, hsame.2.2.2.2.1, hsame.2.2.2.2.2.2⟩
  · intro hlast
    refine ⟨fun taskRunId ↦ ?_, fun taskRunId l ↦ ?_⟩
    · cases hold : getTaskRun a db taskRunId with
      | none =>
        exact run_invariant (I := fun db' ↦ getTaskRun a db' taskRunId = none)
          (fun s c hs ↦ getTaskRun_step_eq_none hne s c hs) hold calls
      | some v =>
        rw [getTaskRun, Option.map_eq_some_iff] at hold
        obtain ⟨r, hfilter, rfl⟩ := hold
        obtain ⟨hrow, hown⟩ := Option.filter_eq_some_iff.mp hfilter
        rw [decide_eq_true_eq] at hown
        obtain rfl := KeyedTable.key_of_find? hrow
        have hsame : refresh (lastUpsert r.taskRunId calls) r = r := by
          cases hu : lastUpsert r.taskRunId calls with
          | none => rfl
          | some u =>
            obtain ⟨h1, h2, h3⟩ := hlast r (KeyedTable.mem_of_find? hrow) hown u hu
            rw [refresh, refreshTaskRun, h1, h2, h3]
        rw [getTaskRun, find?_run hne db calls hrow hown, hsame, Option.filter_some, if_pos]
        · rfl
        · exact decide_eq_true hown
    · rw [ListEvents, ListEvents, eventRows_run hne]

/-- A task run of tenant `a`. -/
def sampleTaskRun : Upsert where
  taskRunId := "task-1"
  contractId := "contract-1"
  templateId := "contract-review"
  state := .running
  planId := some "plan-1"
  now := 0

/-- Another tenant that upserts the same identifier fails the task of tenant `a`. -/
def sampleOverwrite : Upsert where
  taskRunId := "task-1"
  contractId := "contract-2"
  templateId := "other"
  state := .failed
  now := 1

theorem not_sameView_of_upsert :
    ¬SameView "tenant:a" (upsertTaskRun "tenant:a" {} sampleTaskRun)
      (run (step "tenant:b") (upsertTaskRun "tenant:a" {} sampleTaskRun)
        [.upsertTaskRun sampleOverwrite]) := by
  rintro ⟨hget, -⟩
  exact absurd (hget "task-1") (by decide)

/-- Calls of tenant `b` on its own identifiers are invisible to tenant `a`. -/
theorem sameView_sample :
    SameView "tenant:a" (upsertTaskRun "tenant:a" {} sampleTaskRun)
      (run (step "tenant:b") (upsertTaskRun "tenant:a" {} sampleTaskRun)
        [.updateTaskState "task-1" .failed 1, .upsertTaskRun { sampleOverwrite with
          taskRunId := "task-2" }]) :=
  (sameView_iff (by decide) (upsertTaskRun "tenant:a" {} sampleTaskRun) _).mpr (by decide)

end IsolatingEventStore

end Orchestra
