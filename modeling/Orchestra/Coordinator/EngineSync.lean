import Orchestra.Coordinator.EngineWorld

/-!
# The state a run leaves behind

`Sync` connects the trace of a run with the state behind its calls: the row of the task shows the
state persisted last, a node run of the task that is `running` was last written as `running`, the
log has the events that were appended, and a bus that was closed is closed. Each of the four parts
has a frame lemma for the calls that leave it alone, and every call keeps all of them, whether it
raises or not and whatever the rest of the system does. `Admitted` lists what is known of the
replies.
-/

namespace Orchestra

namespace Engine

open Interaction

variable {cfg : Config} {taskRunId : String} {env : Env taskRunId} {w₀ w w' : World}
  {t : RunTrace} {s : RunStep}

/-! ## Agreement -/

/-- The row of the task shows the state persisted last, and the plan stored last. -/
def TaskSync (taskRunId : String) (w : World) (t : RunTrace) : Prop :=
  ∀ planId, storedPlan taskRunId t = some planId →
    ∃ state, (persisted taskRunId t).getLast? = some state ∧ TaskRow w.db taskRunId state planId

/-- A node run that is `running` was so at the start, or was last written so. -/
def NodeSync (taskRunId : String) (w₀ w : World) (t : RunTrace) : Prop :=
  ∀ n, NodeRunning w.db taskRunId n →
    NodeRunning w₀.db taskRunId n ∨ nodeState t n = some .running

/-- The log has what it had at the start and what was appended; and no node was started by anybody
else. -/
structure LogSync (taskRunId : String) (w₀ w : World) (t : RunTrace) : Prop where
  logged : ∀ kind n, HasEvent taskRunId t kind n → InLog w.db taskRunId kind n
  kept : ∀ kind n, InLog w₀.db taskRunId kind n → InLog w.db taskRunId kind n
  started : ∀ n, InLog w.db taskRunId .nodeStarted n →
    InLog w₀.db taskRunId .nodeStarted n ∨ HasEvent taskRunId t .nodeStarted n

/-- The bus of the task was closed by a call of the run. -/
def Closes (taskRunId : String) (t : RunTrace) : Prop :=
  (⟨.closeBus taskRunId, .ok ()⟩ : RunStep) ∈ t

/-- The state `w` agrees with the calls made since the state `w₀`. -/
structure Sync (taskRunId : String) (w₀ w : World) (t : RunTrace) : Prop where
  task : TaskSync taskRunId w t
  nodes : NodeSync taskRunId w₀ w t
  log : LogSync taskRunId w₀ w t
  bus : Closes taskRunId t → w.bus.isClosed taskRunId = true

theorem Sync.start (w : World) : Sync taskRunId w w [] where
  task planId hplan := by cases hplan
  nodes n hn := Or.inl hn
  log :=
    { logged := fun kind n ⟨ev, hev, _⟩ ↦ by cases hev
      kept := fun _ _ h ↦ h
      started := fun _ h ↦ Or.inl h }
  bus h := by cases h

/-! ## Frames -/

theorem TaskSync.frame (h : TaskSync taskRunId w t) (hstate : taskWrite? taskRunId s = none)
    (hplan : planWrite? taskRunId s = none) (hruns : w'.db.taskRuns = w.db.taskRuns) :
    TaskSync taskRunId w' (t ++ [s]) := by
  intro planId hstored
  rw [storedPlan_concat, hplan, Option.none_or] at hstored
  obtain ⟨state, hlast, hrow⟩ := h planId hstored
  refine ⟨state, ?_, by rwa [TaskRow, hruns]⟩
  rw [persisted_concat, hstate, Option.toList_none, List.append_nil]
  exact hlast

theorem NodeSync.frame (h : NodeSync taskRunId w₀ w t) (hs : nodeWrite? s = none)
    (hruns : w'.db.nodeRuns = w.db.nodeRuns) : NodeSync taskRunId w₀ w' (t ++ [s]) := by
  intro n hn
  rw [NodeRunning, hruns] at hn
  rw [nodeState_concat, hs]
  exact h n hn

theorem hasEvent_concat_of_none (hs : event? taskRunId s = none) {kind : EventKind} {n : String} :
    HasEvent taskRunId (t ++ [s]) kind n ↔ HasEvent taskRunId t kind n := by
  rw [HasEvent, events_concat, hs, Option.toList_none, List.append_nil, HasEvent]

theorem LogSync.frame (h : LogSync taskRunId w₀ w t) (hs : event? taskRunId s = none)
    (hevents : w'.db.events = w.db.events) : LogSync taskRunId w₀ w' (t ++ [s]) where
  logged kind n hev := by
    rw [hasEvent_concat_of_none hs] at hev
    rw [InLog, hevents]
    exact h.logged kind n hev
  kept kind n hev := by
    rw [InLog, hevents]
    exact h.kept kind n hev
  started n hev := by
    rw [InLog, hevents] at hev
    rw [hasEvent_concat_of_none hs]
    exact h.started n hev

theorem closes_concat_of_ne (hs : s ≠ ⟨.closeBus taskRunId, .ok ()⟩) :
    Closes taskRunId (t ++ [s]) ↔ Closes taskRunId t := by
  rw [Closes, List.mem_append, List.mem_singleton, Closes]
  exact or_iff_left hs.symm

/-- Another call is not the closing of the bus. -/
theorem closes_concat_of_cmd {c : Cmd} {r : Except Raised (Reply c)}
    (hc : c ≠ .closeBus taskRunId) : Closes taskRunId (t ++ [⟨c, r⟩]) ↔ Closes taskRunId t :=
  closes_concat_of_ne fun heq ↦ hc (congrArg Step.cmd heq)

/-- The call leaves the rows of the task, its node runs, its log and its bus alone. -/
structure Silent (taskRunId : String) (s : RunStep) : Prop where
  taskWrite : taskWrite? taskRunId s = none
  planWrite : planWrite? taskRunId s = none
  nodeWrite : nodeWrite? s = none
  event : event? taskRunId s = none
  close : s ≠ ⟨.closeBus taskRunId, .ok ()⟩

/-- A call that raises writes nothing. -/
theorem silent_error (c : Cmd) (e : Raised) : Silent taskRunId ⟨c, .error e⟩ := by
  cases c <;> exact ⟨rfl, rfl, rfl, rfl, nofun⟩

theorem Sync.silent (h : Sync taskRunId w₀ w t) (hs : Silent taskRunId s)
    (hdb : EventStore.SameRuns w.db w'.db)
    (hbus : w.bus.isClosed taskRunId = true → w'.bus.isClosed taskRunId = true) :
    Sync taskRunId w₀ w' (t ++ [s]) where
  task := h.task.frame hs.taskWrite hs.planWrite hdb.taskRuns
  nodes := h.nodes.frame hs.nodeWrite hdb.nodeRuns
  log := h.log.frame hs.event hdb.events
  bus hc := hbus (h.bus ((closes_concat_of_ne hs.close).mp hc))

theorem sameRuns_refl (db : Database) : EventStore.SameRuns db db := ⟨rfl, rfl, rfl⟩

/-- The rest of the system keeps the agreement. -/
theorem Sync.keeps (h : Sync taskRunId w₀ w t) (hk : Keeps taskRunId w w') :
    Sync taskRunId w₀ w' t where
  task planId hplan := by
    obtain ⟨state, hlast, hrow⟩ := h.task planId hplan
    exact ⟨state, hlast, hk.taskRow state planId hrow⟩
  nodes n hn := h.nodes n (hk.running n hn)
  log :=
    { logged := fun kind n hev ↦ hk.events kind n (h.log.logged kind n hev)
      kept := fun kind n hev ↦ hk.events kind n (h.log.kept kind n hev)
      started := fun n hev ↦ h.log.started n (hk.started n hev) }
  bus hc := hk.closed (h.bus hc)

/-! ## The statements of a run -/

theorem TaskSync.upsert (id contractId templateId : String) (state : TaskRunState)
    (planId : Option String) (now : Timestamp) (h : TaskSync taskRunId w t) :
    TaskSync taskRunId
      { w with db := EventStore.upsertTaskRun w.db id contractId templateId state planId now }
      (t ++ [⟨.upsertTaskRun id contractId templateId state planId, .ok ()⟩]) := by
  intro p hstored
  rw [storedPlan_concat] at hstored
  rw [persisted_concat]
  by_cases hid : id = taskRunId
  · subst hid
    obtain ⟨r, hfind, hstate, hplan⟩ :=
      @EventStore.find?_upsertTaskRun w.db id contractId templateId state planId now
    have hp : p = planId := by
      simpa [planWrite?, eq_comm] using hstored
    refine ⟨state, by simp [taskWrite?], r, hfind, hstate, by rw [hplan, hp]⟩
  · have hnone : planWrite? taskRunId
        ⟨.upsertTaskRun id contractId templateId state planId, .ok ()⟩ = none := if_neg hid
    rw [hnone, Option.none_or] at hstored
    obtain ⟨state', hlast, r, hfind, hrow⟩ := h p hstored
    refine ⟨state', by simpa [taskWrite?, hid] using hlast, r, ?_, hrow⟩
    rw [EventStore.upsertTaskRun, KeyedTable.find?_upsert, if_neg hid]
    exact hfind

theorem TaskSync.update (id : String) (state : TaskRunState) (now : Timestamp)
    (h : TaskSync taskRunId w t) :
    TaskSync taskRunId { w with db := EventStore.updateTaskState w.db id state now }
      (t ++ [⟨.updateTaskState id state, .ok ()⟩]) := by
  intro p hstored
  rw [storedPlan_concat] at hstored
  obtain ⟨state', hlast, r, hfind, hstate, hplan⟩ := h p (by simpa [planWrite?] using hstored)
  rw [persisted_concat]
  by_cases hid : id = taskRunId
  · subst hid
    exact ⟨state, by simp [taskWrite?], _, EventStore.find?_updateTaskState hfind state now, rfl,
      hplan⟩
  · refine ⟨state', by simpa [taskWrite?, hid] using hlast, r, ?_, hstate, hplan⟩
    rw [EventStore.updateTaskState, KeyedTable.find?_updateAt, if_neg (Ne.symm hid)]
    exact hfind

theorem NodeSync.upsert {row : NodeRun} {db : Database} (h : NodeSync taskRunId w₀ w t)
    (hdb : EventStore.upsertNodeRun w.db row = .ok db) :
    NodeSync taskRunId w₀ { w with db := db } (t ++ [⟨.upsertNodeRun row, .ok ()⟩]) := by
  obtain rfl := EventStore.upsertNodeRun_eq_ok hdb
  rintro n ⟨r, hfind, htask, hrunning⟩
  have hstate := nodeState_concat t ⟨.upsertNodeRun row, .ok ()⟩ n
  simp only [nodeWrite?] at hstate
  rw [KeyedTable.find?_upsert] at hfind
  by_cases hn : row.nodeRunId = n
  · rw [if_pos hn] at hfind hstate
    have hrow : r.state = row.state := by
      rw [← Option.some.inj hfind]
      cases w.db.nodeRuns.find? n <;> rfl
    exact Or.inr (by rw [hstate, ← hrow, hrunning])
  · rw [if_neg hn] at hfind hstate
    rw [hstate]
    exact h n ⟨r, hfind, htask, hrunning⟩

theorem NodeSync.update (id : String) (state : NodeRunState) (output : Option Json)
    (started ended : Bool) (now : Timestamp) (h : NodeSync taskRunId w₀ w t) :
    NodeSync taskRunId w₀
      { w with db := EventStore.updateNodeState w.db id state output started ended now }
      (t ++ [⟨.updateNodeState id state output started ended, .ok ()⟩]) := by
  rintro n ⟨r, hfind, htask, hrunning⟩
  have hstate := nodeState_concat t ⟨.updateNodeState id state output started ended, .ok ()⟩ n
  simp only [nodeWrite?] at hstate
  rw [EventStore.updateNodeState, KeyedTable.find?_updateAt] at hfind
  by_cases hn : id = n
  · rw [if_pos hn] at hstate
    rw [if_pos hn.symm] at hfind
    obtain ⟨r₀, -, rfl⟩ := Option.map_eq_some_iff.mp hfind
    exact Or.inr (by rw [hstate]; exact congrArg some hrunning)
  · rw [if_neg hn] at hstate
    rw [if_neg (Ne.symm hn)] at hfind
    rw [hstate]
    exact h n ⟨r, hfind, htask, hrunning⟩

theorem LogSync.append {ev : AuditEvent} {db : Database} (h : LogSync taskRunId w₀ w t)
    (hdb : EventStore.appendEvent w.db ev = .ok db) :
    LogSync taskRunId w₀ { w with db := db } (t ++ [⟨.appendEvent ev, .ok ()⟩]) := by
  obtain ⟨e, evs, rfl, hrows, htask, hnode, hkind⟩ := EventStore.appendEvent_rows hdb
  -- the log and the trace grow by the same event
  have hlog (kind : EventKind) (n : String) :
      InLog { w.db with events := evs } taskRunId kind n ↔
        InLog w.db taskRunId kind n ∨
          (ev.taskRunId = some taskRunId ∧ ev.kind = kind ∧ ev.nodeRunId = some n) := by
    simp only [InLog, hrows, List.mem_append, List.mem_singleton, or_and_right, exists_or,
      exists_eq_left, htask, hnode, hkind]
  have htrace (kind : EventKind) (n : String) :
      HasEvent taskRunId (t ++ [⟨.appendEvent ev, .ok ()⟩]) kind n ↔
        HasEvent taskRunId t kind n ∨
          (ev.taskRunId = some taskRunId ∧ ev.kind = kind ∧ ev.nodeRunId = some n) := by
    rw [HasEvent, events_concat]
    by_cases htaskId : ev.taskRunId = some taskRunId
    · simp [event?, htaskId, HasEvent, or_and_right, exists_or]
    · simp [event?, htaskId, HasEvent]
  refine ⟨fun kind n hev ↦ ?_, fun kind n hev ↦ ?_, fun n hev ↦ ?_⟩
  · exact (hlog kind n).mpr (((htrace kind n).mp hev).imp_left (h.logged kind n))
  · exact (hlog kind n).mpr (Or.inl (h.kept kind n hev))
  · rw [htrace, ← or_assoc]
    exact ((hlog _ n).mp hev).imp_left (h.started n)

/-! ## Every call keeps the agreement -/

theorem sync_commit {c : Cmd} {r : Except Raised (Reply c)} {db : Database}
    (h : Sync taskRunId w₀ w t) (hs : Silent taskRunId ⟨c, r⟩)
    (hdb : EventStore.SameRuns w.db db) :
    Sync taskRunId w₀ { w with db := db } (t ++ [⟨c, r⟩]) :=
  h.silent hs hdb fun hc ↦ hc

theorem sync_same {c : Cmd} {r : Except Raised (Reply c)} (h : Sync taskRunId w₀ w t)
    (hs : Silent taskRunId ⟨c, r⟩) : Sync taskRunId w₀ w (t ++ [⟨c, r⟩]) :=
  h.silent hs (sameRuns_refl _) fun hc ↦ hc

theorem answer_sync (c : Cmd) (h : Sync taskRunId w₀ w t) :
    Sync taskRunId w₀ (answer cfg env w t c).2 (t ++ [⟨c, (answer cfg env w t c).1⟩]) := by
  cases c with
  | upsertTaskRun id contractId templateId state planId =>
    exact ⟨h.task.upsert id contractId templateId state planId (env.now t), h.nodes.frame rfl rfl,
      h.log.frame rfl rfl, fun hc ↦ h.bus ((closes_concat_of_cmd (by nofun)).mp hc)⟩
  | updateTaskState id state =>
    exact ⟨h.task.update id state (env.now t), h.nodes.frame rfl rfl, h.log.frame rfl rfl,
      fun hc ↦ h.bus ((closes_concat_of_cmd (by nofun)).mp hc)⟩
  | upsertNodeRun row =>
    rw [answer]
    cases hdb : EventStore.upsertNodeRun w.db row with
    | ok db =>
      have hruns := EventStore.upsertNodeRun_eq_ok hdb
      refine ⟨h.task.frame rfl rfl ?_, h.nodes.upsert hdb, h.log.frame rfl ?_, fun hc ↦
        h.bus ((closes_concat_of_cmd (by nofun)).mp hc)⟩
      · rw [hruns]
        rfl
      · rw [hruns]
        rfl
    | error e => exact sync_same h (silent_error _ _)
  | updateNodeState id state output started ended =>
    exact ⟨h.task.frame rfl rfl rfl, h.nodes.update id state output started ended (env.now t),
      h.log.frame rfl rfl, fun hc ↦ h.bus ((closes_concat_of_cmd (by nofun)).mp hc)⟩
  | appendEvent ev =>
    rw [answer]
    cases hdb : EventStore.appendEvent w.db ev with
    | ok db =>
      obtain ⟨e, evs, hevs, -⟩ := EventStore.appendEvent_rows hdb
      refine ⟨h.task.frame rfl rfl ?_, h.nodes.frame rfl ?_, h.log.append hdb, fun hc ↦
        h.bus ((closes_concat_of_cmd (by nofun)).mp hc)⟩
      · rw [hevs]
        rfl
      · rw [hevs]
        rfl
    | error e => exact sync_same h (silent_error _ _)
  | saveGrant grant =>
    rw [answer]
    cases hdb : EventStore.saveGrant w.db grant with
    | ok db =>
      exact sync_commit h ⟨rfl, rfl, rfl, rfl, nofun⟩ (EventStore.sameRuns_of_saveGrant hdb)
    | error e => exact sync_same h (silent_error _ _)
  | saveReceipt receipt =>
    rw [answer]
    cases hdb : EventStore.saveReceipt w.db receipt (env.now t) with
    | ok db =>
      exact sync_commit h ⟨rfl, rfl, rfl, rfl, nofun⟩ (EventStore.sameRuns_of_saveReceipt hdb)
    | error e => exact sync_same h (silent_error _ _)
  | createForNode id nodeId tenantId =>
    rw [answer, World.createForNode]
    split
    · exact sync_commit h ⟨rfl, rfl, rfl, rfl, nofun⟩ ⟨rfl, rfl, rfl⟩
    · exact sync_same h (silent_error _ _)
  | saveApproval row =>
    rw [answer, World.saveApproval]
    split
    · exact sync_commit h ⟨rfl, rfl, rfl, rfl, nofun⟩ ⟨rfl, rfl, rfl⟩
    · exact sync_same h (silent_error _ _)
  | publish id event =>
    exact h.silent ⟨rfl, rfl, rfl, rfl, nofun⟩ (sameRuns_refl _) fun hc ↦ hc
  | closeBus id =>
    refine ⟨h.task.frame rfl rfl rfl, h.nodes.frame rfl rfl, h.log.frame rfl rfl, fun hc ↦ ?_⟩
    by_cases hid : id = taskRunId
    · subst hid
      exact EventBus.isClosed_close id
    · have hne : (⟨.closeBus id, .ok ()⟩ : RunStep) ≠ ⟨.closeBus taskRunId, .ok ()⟩ := by
        intro heq
        cases heq
        exact hid rfl
      exact EventBus.isClosed_close_of_isClosed (h.bus ((closes_concat_of_ne hne).mp hc)) id
  | setInitialInputs inputs =>
    exact h.silent ⟨rfl, rfl, rfl, rfl, nofun⟩ (sameRuns_refl _) fun hc ↦ hc
  | setResult nodeId outputs =>
    exact h.silent ⟨rfl, rfl, rfl, rfl, nofun⟩ (sameRuns_refl _) fun hc ↦ hc
  | registerApproval id nodeId bucket =>
    exact h.silent ⟨rfl, rfl, rfl, rfl, nofun⟩ (sameRuns_refl _) fun hc ↦ hc
  | _ => exact sync_same h ⟨rfl, rfl, rfl, rfl, nofun⟩

theorem machine_sync (c : Cmd) (h : Sync taskRunId w₀ w t) :
    Sync taskRunId w₀ (machine cfg env w t c).2 (t ++ [⟨c, (machine cfg env w t c).1⟩]) := by
  have hothers := h.keeps (env.others_keep t w)
  rw [machine]
  cases fault env t c with
  | some e => exact sync_same hothers (silent_error c e)
  | none => exact answer_sync c hothers

/-! ## What is known of the replies -/

/-- The replies that depend on what the run has done or is built from. -/
structure Admitted (cfg : Config) (taskRunId : String) (pre : RunTrace) (s : RunStep) : Prop where
  newId : ∀ r, s = ⟨.newId, r⟩ → ∃ id, r = .ok id ∧ id ∉ issuedIds pre ∧ '-' ∈ id.toList
  utcNow : ∀ r, s = ⟨.utcNow, r⟩ → ∃ now, r = .ok now
  monotonic : ∀ r, s = ⟨.monotonic, r⟩ → ∃ now, r = .ok now
  setInitialInputs : ∀ inputs r, s = ⟨.setInitialInputs inputs, r⟩ → r = .ok ()
  getInitialInputs : ∀ r, s = ⟨.getInitialInputs, r⟩ → ∃ inputs, r = .ok inputs
  setResult : ∀ nodeId outputs r, s = ⟨.setResult nodeId outputs, r⟩ → r = .ok ()
  getResults : ∀ r, s = ⟨.getResults, r⟩ → ∃ results, r = .ok results
  signPlan : ∀ plan r, s = ⟨.signPlan plan, r⟩ → ∃ signature, r = .ok signature
  getTaskRun : ∀ row, s = ⟨.getTaskRun taskRunId, .ok row⟩ →
    ∀ planId, storedPlan taskRunId pre = some planId → ∃ r, row = some r ∧ r.planId = planId
  route : ∀ node q res, s = ⟨.route node q, .ok res⟩ →
    Router.Binds cfg.P cfg.F cfg.router node q res.decision
  project : ∀ id viewName payload x, s = ⟨.project id viewName payload, .ok x⟩ →
    ∃ pep, cfg.egressPep = some pep ∧ pep.project cfg.P id viewName payload = .ok x

/-- What is replied without an exception is the answer. -/
theorem answer_of_ok {c : Cmd} {x : Reply c} (h : (machine cfg env w t c).1 = .ok x) :
    (answer cfg env (env.others t w) t c).1 = .ok x := by
  rw [machine] at h
  split at h
  · cases h
  · exact h

/-- A call that does not leave the engine is answered. -/
theorem answer_of_not_leaves {c : Cmd} (hc : c.leaves = false) :
    (machine cfg env w t c).1 = (answer cfg env (env.others t w) t c).1 := by
  rw [machine, fault, hc]
  rfl

theorem machine_admitted (c : Cmd) (h : Sync taskRunId w₀ w t) :
    Admitted cfg taskRunId t ⟨c, (machine cfg env w t c).1⟩ := by
  have hothers := h.keeps (env.others_keep t w)
  generalize hr : (machine cfg env w t c).1 = r
  constructor
  · rintro _ ⟨⟩
    exact ⟨env.newId t (env.others t w), hr.symm.trans (answer_of_not_leaves rfl),
      env.newId_fresh t _, env.hyphen_mem_newId t _⟩
  · rintro _ ⟨⟩
    exact ⟨env.utcNow t, hr.symm.trans (answer_of_not_leaves rfl)⟩
  · rintro _ ⟨⟩
    exact ⟨env.monotonic t, hr.symm.trans (answer_of_not_leaves rfl)⟩
  · rintro inputs _ ⟨⟩
    exact hr.symm.trans (answer_of_not_leaves rfl)
  · rintro _ ⟨⟩
    exact ⟨_, hr.symm.trans (answer_of_not_leaves rfl)⟩
  · rintro nodeId outputs _ ⟨⟩
    exact hr.symm.trans (answer_of_not_leaves rfl)
  · rintro _ ⟨⟩
    exact ⟨_, hr.symm.trans (answer_of_not_leaves rfl)⟩
  · rintro plan _ ⟨⟩
    exact ⟨_, hr.symm.trans (answer_of_not_leaves rfl)⟩
  · rintro row ⟨⟩ planId hstored
    have hrow : (env.others t w).db.taskRuns.find? taskRunId = row :=
      Except.ok.inj (answer_of_ok hr)
    obtain ⟨state, -, r, hfind, -, hplan⟩ := hothers.task planId hstored
    exact ⟨r, hrow.symm.trans hfind, hplan⟩
  · rintro node q res ⟨⟩
    have hres : cfg.router.route cfg.P cfg.F (env.utcNow t) node q = .ok res := answer_of_ok hr
    exact (Router.route_binds hres).2.2
  · rintro id viewName payload x ⟨⟩
    have hx := answer_of_ok hr
    rw [answer] at hx
    cases hpep : cfg.egressPep with
    | none =>
      rw [hpep] at hx
      cases hx
    | some pep =>
      rw [hpep] at hx
      exact ⟨pep, rfl, hx⟩

/-! ## Runs -/

variable {a : RunArgs} {env : Env a.taskRunId} {w : World}

/-- The state at the end of a run agrees with its trace. -/
theorem execRun_sync (cfg : Config) (a : RunArgs) (env : Env a.taskRunId) (w : World) :
    Sync a.taskRunId w (execRun cfg a env w).state (execRun cfg a env w).trace :=
  exec_invariant (fun _ _ c h ↦ machine_sync c h) (run cfg a) (Sync.start w)

/-- The replies of a run are admitted. -/
theorem execRun_admitted (cfg : Config) (a : RunArgs) (env : Env a.taskRunId) (w : World) :
    EveryStep (Admitted cfg a.taskRunId) (execRun cfg a env w).trace :=
  exec_everyStep (fun _ _ c h ↦ ⟨machine_sync c h, machine_admitted c h⟩) (run cfg a)
    (Sync.start w) (everyStep_nil _)

/-- **From triples to runs of the coordinator.** The condition `G` is about the calls of the run. -/
theorem execRun_of_triple {G : RunTrace → RunStep → Prop}
    {Q : CoordinatorResult → RunTrace → Prop} {E : Raised → RunTrace → Prop}
    (hrun : Triple (fun t s ↦ Admitted cfg a.taskRunId t s ∧ G t s) (· = []) (run cfg a) Q E)
    (hG : EveryStep G (execRun cfg a env w).trace) :
    ending Q E (execRun cfg a env w).result (execRun cfg a env w).trace :=
  exec_of_triple (fun _ _ c h ↦ ⟨machine_sync c h, machine_admitted c h⟩) hrun (Sync.start w) rfl hG

end Engine

end Orchestra
