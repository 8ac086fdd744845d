import Orchestra.Coordinator.ReadCommitted

/-!
# The numbers of the events of a task

`append_event` reads the next number of a task in one transaction and inserts the event in another,
and no constraint says that the numbers of a task are distinct. For calls on several connections the
numbers are therefore distinct, and increase in the order in which the events are committed, exactly
in those runs in which no call is overtaken: between the statement that reads its number and the
commit of its event nobody else commits an event of the task (`appended_in_order_iff`). For the
empty id nothing is read and every event keeps the number `0`, so there the condition allows one
event.
-/

namespace Orchestra

open Interaction Overtaking

namespace EventNumbering

variable {ι : Type*} [DecidableEq ι]

/-- The event of a call, with the default number. -/
def defaultEvent (t : String) (ev : AuditEvent) : AuditEvent :=
  { ev with seq := 0, taskRunId := some t }

/-- The row of an event. -/
def row (t : String) (ev : AuditEvent) (seq : ℤ) : AuditEvent :=
  { ev with seq := seq, taskRunId := some t, tenantId := none }

/-- The calls before they run. -/
def start (db : Database) (t : String) (events : ι → AuditEvent) : Sessions fun _ : ι ↦ Unit :=
  Sessions.start db fun i ↦ Method.appendEvent (defaultEvent t (events i))

/-- What the calls have appended. -/
def appended (db stored : Database) : List AuditEvent :=
  stored.events.rows.drop db.events.rows.length

/-- The appended events have increasing numbers, and the log of the task lists them in that
order. -/
def InOrder (db : Database) (t : String) (stored : Database) : Prop :=
  stored.events.rows = db.events.rows ++ appended db stored ∧
    ((appended db stored).map AuditEvent.seq).Pairwise (· < ·) ∧
    (appended db stored).Sublist (EventStore.listEvents stored (some t) none)

/-! ## The next number -/

/-- The largest number before the calls. For the empty id no number is read, and `0` comes next. -/
def base (db : Database) (t : String) : ℤ := if t = "" then -1 else EventStore.nextSeq db t - 1

/-- The events were appended to the log and to nothing else, with numbers of their task. -/
structure Appended (db : Database) (t : String) (stored : Database) : Prop where
  stored_eq : stored = { db with events := stored.events }
  rows_eq : stored.events.rows = db.events.rows ++ appended db stored
  task : ∀ e ∈ appended db stored, e.taskRunId = some t
  base_lt : ∀ e ∈ appended db stored, base db t < e.seq

/-- The numbers of the appended events. -/
def numbers (db stored : Database) : List ℤ := (appended db stored).map AuditEvent.seq

variable {db stored : Database} {t : String}

theorem Appended.base_lt_numbers (h : Appended db t stored) :
    ∀ n ∈ numbers db stored, base db t < n := by
  intro n hn
  obtain ⟨e, he, rfl⟩ := List.mem_map.mp hn
  exact h.base_lt e he

/-- The next number follows the largest one. -/
theorem Appended.nextSeq_eq (h : Appended db t stored) (ht : t ≠ "") :
    EventStore.nextSeq stored t = top (base db t) (numbers db stored) + 1 := by
  have hfilter : ((stored.events.rows.filter fun e ↦ decide (e.taskRunId = some t)).map
      AuditEvent.seq) = ((db.events.rows.filter fun e ↦ decide (e.taskRunId = some t)).map
        AuditEvent.seq) ++ numbers db stored := by
    rw [h.rows_eq, List.filter_append, List.map_append, numbers]
    congr 2
    exact List.filter_eq_self.mpr fun e he ↦ decide_eq_true (h.task e he)
  have hbase : base db t = ((db.events.rows.filter fun e ↦ decide (e.taskRunId = some t)).map
      AuditEvent.seq).max?.getD 0 := by
    rw [base, if_neg ht, EventStore.nextSeq]
    omega
  have hlt := h.base_lt_numbers
  rw [hbase] at hlt ⊢
  rw [EventStore.nextSeq, hfilter, max?_append_getD hlt]

theorem appended_insert {stored' : Database} (h : Appended db t stored) {ev : AuditEvent} {n : ℤ}
    (hins : EventStore.insertEvent stored (row t ev n) = .ok stored') :
    appended db stored' = appended db stored ++ [row t ev n] := by
  obtain ⟨events, hinsert, rfl⟩ := EventStore.insertEvent_cases hins
  have hrows := KeyedTable.rows_of_insert hinsert
  rw [h.rows_eq, List.append_assoc] at hrows
  change events.rows.drop _ = _
  rw [hrows, List.drop_left]

theorem Appended.insert {stored' : Database} (h : Appended db t stored) {ev : AuditEvent} {n : ℤ}
    (hn : base db t < n) (hins : EventStore.insertEvent stored (row t ev n) = .ok stored') :
    Appended db t stored' := by
  have happended := appended_insert h hins
  obtain ⟨events, hinsert, rfl⟩ := EventStore.insertEvent_cases hins
  have hrows := KeyedTable.rows_of_insert hinsert
  refine ⟨?_, ?_, ?_, ?_⟩
  · rw [h.stored_eq]
  · rw [happended]
    change events.rows = _
    rw [hrows, h.rows_eq, List.append_assoc]
  · intro e he
    rw [happended] at he
    rcases List.mem_append.mp he with he | he
    · exact h.task e he
    · rw [List.mem_singleton.mp he]
      rfl
  · intro e he
    rw [happended] at he
    rcases List.mem_append.mp he with he | he
    · exact h.base_lt e he
    · rw [List.mem_singleton.mp he]
      exact hn

theorem numbers_insert {stored' : Database} (h : Appended db t stored) {ev : AuditEvent} {n : ℤ}
    (hins : EventStore.insertEvent stored (row t ev n) = .ok stored') :
    numbers db stored' = numbers db stored ++ [n] := by
  rw [numbers, appended_insert h hins, List.map_append]
  rfl

/-! ## Where a call is -/

/-- The number a call has read: the one after the first `k` of the appended numbers, where `k` is
all of them just in case the call is up to date. -/
def Ticket (db : Database) (t : String) (server : DatabaseServer ι) (i : ι) (n : ℤ) : Prop :=
  ∃ k ≤ (numbers db server.stored).length,
    n = top (base db t) ((numbers db server.stored).take k) + 1 ∧
      (upToDate i server.marks = true ↔ k = (numbers db server.stored).length)

/-- Where the call of `i` is, and what the server knows of it there. -/
inductive Stage (db : Database) (t : String) (ev : AuditEvent) (server : DatabaseServer ι) (i : ι)
    (p : Method Unit) : Prop where
  | reading (ht : t ≠ "") (hp : p = Method.appendEvent (defaultEvent t ev))
      (hsession : server.sessions i = {})
  | read (n : ℤ) (hp : p = .call Call.commit (Method.committed (Method.storeEvent (row t ev n))))
      (hsession : server.sessions i = { work := [.nextSeq t] }) (hticket : Ticket db t server i n)
  | numbered (n : ℤ) (hp : p = Method.storeEvent (row t ev n)) (hsession : server.sessions i = {})
      (hticket : Ticket db t server i n)
  | inserted (n : ℤ) (hp : p = .call Call.commit (Method.committed (.ret ())))
      (hsession : server.sessions i = { work := [.insertEvent (row t ev n)] })
      (hlock : (i, .event ev.eventId) ∈ server.locks)
      (hinsert : ∃ db', EventStore.insertEvent server.stored (row t ev n) = .ok db')
      (hticket : Ticket db t server i n)
  | done (hp : p = .ret ())
  | undoing (e : StoreError) (hp : p = Method.undo e)
  | raised (e : StoreError) (hp : p = .raise e)

/-- What a call of `i` does to the log: nothing, or it appends the event of `i`. -/
inductive Moves (db : Database) (t : String) (ev : AuditEvent) (i : ι) (fault : Bool) (c : Call)
    (server server' : DatabaseServer ι) : Prop where
  | quiet (hstores : server.stores i fault c = false) (hstored : server'.stored = server.stored)
      (hmarks : ∀ j, j ≠ i → upToDate j server'.marks = upToDate j server.marks)
  | appends (n : ℤ) (hstores : server.stores i fault c = true)
      (hinsert : EventStore.insertEvent server.stored (row t ev n) = .ok server'.stored)
      (hlock : (i, .event ev.eventId) ∈ server.locks) (hticket : Ticket db t server i n)
      (hmarks : server'.marks = server.marks ++ [.stored i])

theorem appendEvent_eq (ht : t ≠ "") (ev : AuditEvent) :
    Method.appendEvent (defaultEvent t ev) = .call (Call.execute (.nextSeq t))
      (Method.executed fun n ↦ Method.storeEvent (row t ev n)) := by
  rw [Method.appendEvent]
  simp only [defaultEvent, ht, ne_eq, not_false_eq_true, and_self, if_true]
  exact Method.tx_execute_bind (.nextSeq t) _

theorem appendEvent_empty (ev : AuditEvent) :
    Method.appendEvent (defaultEvent "" ev) = Method.storeEvent (row "" ev 0) := by
  rw [Method.appendEvent]
  simp only [defaultEvent, ne_eq, not_true_eq_false, and_false, if_false]
  rfl

theorem storeEvent_eq (ev : AuditEvent) (n : ℤ) :
    Method.storeEvent (row t ev n) = .call (Call.execute (.insertEvent (row t ev n)))
      (Method.executed .ret) :=
  Method.tx_execute (.insertEvent (row t ev n))

variable {server server' : DatabaseServer ι} {i : ι} {ev : AuditEvent} {p : Method Unit}
  {fault : Bool} {n : ℤ}

/-- The number read now is the next one. -/
theorem ticket_of_read (h : Appended db t server.stored) (ht : t ≠ "") (s : Statement)
    (hreads : s.writes = false) :
    Ticket db t (server.ran i s) i (EventStore.nextSeq server.stored t) := by
  refine ⟨(numbers db server.stored).length, le_refl _, ?_, ?_⟩
  · change _ = top (base db t) ((numbers db server.stored).take _) + 1
    rw [List.take_length]
    exact h.nextSeq_eq ht
  · have hmarks : (server.ran i s).marks = server.marks ++ [.read i] := by
      rw [DatabaseServer.ran, hreads]
      rfl
    rw [hmarks, upToDate_concat_read_self]
    exact iff_of_true rfl rfl

theorem Ticket.congr (h : Ticket db t server i n) (hstored : server'.stored = server.stored)
    (hmarks : server'.marks = server.marks) : Ticket db t server' i n := by
  rw [Ticket, hstored, hmarks]
  exact h

/-- What the other calls have read stays the number it was, and is out of date once something has
been appended. -/
theorem Ticket.of_moves {j : ι} {ev' : AuditEvent} {c : Call} (h : Ticket db t server j n)
    (happ : Appended db t server.stored) (hmoves : Moves db t ev' i fault c server server')
    (hj : j ≠ i) : Ticket db t server' j n := by
  obtain ⟨k, hk, hn, hup⟩ := h
  cases hmoves with
  | quiet hstores hstored hmarks =>
    refine ⟨k, ?_⟩
    rw [hstored, hmarks j hj]
    exact ⟨hk, hn, hup⟩
  | appends m hstores hinsert hlock hticket hmarks =>
    refine ⟨k, ?_⟩
    rw [numbers_insert happ hinsert, hmarks, upToDate_concat_stored, List.length_append,
      List.take_append_of_le_length hk]
    exact ⟨by omega, hn, by simp; omega⟩

/-- The steps of the others. -/
theorem Stage.of_moves {j : ι} {ev' : AuditEvent} {c : Call} {r : Except StoreError c.Reply}
    (h : Stage db t ev server j p) (happ : Appended db t server.stored)
    (hlocks : server.LocksHeldOnce) (hanswer : server.answer i fault c = some (r, server'))
    (hmoves : Moves db t ev' i fault c server server') (hj : j ≠ i) :
    Stage db t ev server' j p := by
  have hsessions := DatabaseServer.sessions_of_answer hanswer hj
  cases h with
  | reading ht hp hsession => exact .reading ht hp (hsessions.trans hsession)
  | read n hp hsession hticket =>
    exact .read n hp (hsessions.trans hsession) (hticket.of_moves happ hmoves hj)
  | numbered n hp hsession hticket =>
    exact .numbered n hp (hsessions.trans hsession) (hticket.of_moves happ hmoves hj)
  | inserted n hp hsession hlock hinsert hticket =>
    refine .inserted n hp (hsessions.trans hsession)
      (DatabaseServer.mem_locks_of_answer hanswer hj hlock) ?_ (hticket.of_moves happ hmoves hj)
    cases hmoves with
    | quiet hstores hstored hmarks =>
      rw [hstored]
      exact hinsert
    | appends m hstores hinsert' hlock' hticket' hmarks =>
      -- the two rows have different keys, since a key is locked by one session only
      have hne : (row t ev' m).eventId ≠ (row t ev n).eventId := by
        intro heq
        have hkey : ev'.eventId = ev.eventId := heq
        rw [hkey] at hlock'
        exact hj (hlocks j i _ hlock hlock')
      exact EventStore.exists_insertEvent_of_ne hinsert hne hinsert'
  | done hp => exact .done hp
  | undoing e hp => exact .undoing e hp
  | raised e hp => exact .raised e hp

/-- **One's own step.** -/
theorem Stage.own (h : Stage db t ev server i p) (happ : Appended db t server.stored)
    {c : Call} {k : Except StoreError c.Reply → Method Unit}
    (hcall : p = .call c k) {r : Except StoreError c.Reply}
    (hanswer : server.answer i fault c = some (r, server')) :
    Stage db t ev server' i (k r) ∧ Moves db t ev i fault c server server' := by
  cases h with
  | reading ht hp hsession =>
    rw [hp, appendEvent_eq ht] at hcall
    cases hcall
    rcases DatabaseServer.answer_execute_cases hanswer with
      ⟨e, rfl, rfl | rfl⟩ | ⟨a, db', rfl, -, hexec, rfl⟩
    · exact ⟨.undoing e rfl, .quiet rfl rfl fun _ _ ↦ rfl⟩
    · exact ⟨.undoing e rfl, .quiet rfl rfl fun _ _ ↦ rfl⟩
    · rw [DatabaseServer.view_of_reads (by rw [hsession]; rfl)] at hexec
      cases hexec
      refine ⟨.read _ rfl ?_ (ticket_of_read happ ht _ rfl), .quiet rfl rfl fun j hj ↦ ?_⟩
      · rw [DatabaseServer.sessions_ran, hsession]
        rfl
      · exact upToDate_concat_read hj.symm _
  | read n hp hsession hticket =>
    rw [hp] at hcall
    cases hcall
    have hreads : (server.sessions i).writes = false := by
      rw [hsession]
      rfl
    have hstores := DatabaseServer.stores_of_reads hreads fault .commit
    rcases DatabaseServer.answer_commit_cases hanswer with
      ⟨rfl, hfailed, rfl⟩ | ⟨rfl, -, rfl⟩ | ⟨rfl, -, -, rfl⟩
    · rw [hsession] at hfailed
      cases hfailed
    · exact ⟨.undoing _ rfl, .quiet hstores rfl fun _ _ ↦ rfl⟩
    · obtain ⟨hstored, hmarks⟩ := DatabaseServer.store_of_reads hreads
      exact ⟨.numbered n rfl (Function.update_self _ _ _) (hticket.congr hstored hmarks),
        .quiet hstores hstored fun j _ ↦ by rw [hmarks]⟩
  | numbered n hp hsession hticket =>
    rw [hp, storeEvent_eq] at hcall
    cases hcall
    rcases DatabaseServer.answer_execute_cases hanswer with
      ⟨e, rfl, rfl | rfl⟩ | ⟨a, db', rfl, -, hexec, rfl⟩
    · exact ⟨.undoing e rfl, .quiet rfl rfl fun _ _ ↦ rfl⟩
    · exact ⟨.undoing e rfl, .quiet rfl rfl fun _ _ ↦ rfl⟩
    · rw [DatabaseServer.view_of_reads (by rw [hsession]; rfl)] at hexec
      have hinsert := Statement.exec_insertEvent_iff.mp hexec
      refine ⟨.inserted n rfl ?_ ?_ ⟨db', hinsert⟩ (hticket.congr rfl rfl),
        .quiet rfl rfl fun _ _ ↦ rfl⟩
      · rw [DatabaseServer.sessions_ran, hsession]
        rfl
      · exact List.mem_append_right _ List.mem_cons_self
  | inserted n hp hsession hlock hinsert hticket =>
    rw [hp] at hcall
    cases hcall
    obtain ⟨db', hdb'⟩ := hinsert
    rcases DatabaseServer.answer_commit_cases hanswer with
      ⟨rfl, hfailed, rfl⟩ | ⟨rfl, hfault, rfl⟩ | ⟨rfl, -, hfault, rfl⟩
    · rw [hsession] at hfailed
      cases hfailed
    · refine ⟨.undoing _ rfl, .quiet ?_ rfl fun _ _ ↦ rfl⟩
      simp [DatabaseServer.stores, hfault]
    · have hwrites : (server.sessions i).writes = true := by
        rw [hsession]
        rfl
      refine ⟨.done rfl, .appends n ?_ ?_ hlock hticket ?_⟩
      · rw [DatabaseServer.stores, hwrites, hsession, hfault]
        rfl
      · have hexec := (Statement.exec_insertEvent_iff (a := ())).mpr hdb'
        change _ = Except.ok (server.view i)
        rw [DatabaseServer.view, hsession, hdb']
        exact congrArg Except.ok (Statement.apply_eq hexec).symm
      · rw [DatabaseServer.store, hwrites]
        rfl
  | done hp =>
    rw [hp] at hcall
    cases hcall
  | undoing e hp =>
    rw [hp, Method.undo_eq] at hcall
    cases hcall
    rw [DatabaseServer.answer_rollback hanswer]
    obtain ⟨e', hraise⟩ := Method.undone_eq_raise e r
    exact ⟨.raised e' hraise, .quiet rfl rfl fun _ _ ↦ rfl⟩
  | raised e hp =>
    rw [hp] at hcall
    cases hcall

/-! ## Runs -/

/-- The number of an event that is appended is above those before the calls. -/
theorem Ticket.base_lt (h : Ticket db t server i n) : base db t < n := by
  obtain ⟨k, -, rfl, -⟩ := h
  have := base_le_top (base db t) ((numbers db server.stored).take k)
  omega

theorem Appended.of_moves {c : Call} (h : Appended db t server.stored)
    (hmoves : Moves db t ev i fault c server server') : Appended db t server'.stored := by
  cases hmoves with
  | quiet hstores hstored hmarks =>
    rw [hstored]
    exact h
  | appends n hstores hinsert hlock hticket hmarks => exact h.insert hticket.base_lt hinsert

/-- What holds of the server in every run. -/
structure Log (db : Database) (t : String) (server : DatabaseServer ι) : Prop where
  appended : Appended db t server.stored
  locks : server.LocksHeldOnce

/-- Before its first call a method has its number still to read, or none to read and the number
`0`. -/
theorem stage_start (db : Database) (t : String) (events : ι → AuditEvent) (j : ι) :
    Stage db t (events j) (start db t events).state j ((start db t events).threads j) := by
  by_cases ht : t = ""
  · subst ht
    have hnil : numbers db db = [] := by simp [numbers, appended]
    refine .numbered 0 (appendEvent_empty _) rfl ⟨0, Nat.zero_le _, ?_, ?_⟩
    · rw [List.take_zero]
      rfl
    · change upToDate j [] = true ↔ 0 = (numbers db db).length
      rw [hnil]
      exact iff_of_true rfl rfl
  · exact .reading ht rfl rfl

/-- **What every run keeps.** -/
theorem log_and_stages (db : Database) (t : String) (events : ι → AuditEvent)
    (as : List (ι × Bool)) :
    Log db t (Transition.run Sessions.step (start db t events) as).state ∧
      ∀ j, Stage db t (events j) (Transition.run Sessions.step (start db t events) as).state j
        ((Transition.run Sessions.step (start db t events) as).threads j) := by
  refine Pool.run_forall (J := fun j server p ↦ Stage db t (events j) server j p) ?_
    ⟨⟨rfl, by simp [start, Sessions.start, appended], by simp [start, Sessions.start, appended],
      by simp [start, Sessions.start, appended]⟩, fun _ _ _ h ↦ by cases h⟩
    (fun j ↦ stage_start db t events j)
    (Transition.allSteps_of_forall (P := fun _ _ ↦ True) (fun _ _ ↦ trivial) _ as)
  intro p i fault c k r server' _ hlog hstage hcall hanswer
  obtain ⟨hown, hmoves⟩ := (hstage i).own hlog.appended hcall hanswer
  exact ⟨⟨hlog.appended.of_moves hmoves, hlog.locks.answer hanswer⟩, hown,
    fun j hj ↦ (hstage j).of_moves hlog.appended hlog.locks hanswer hmoves hj⟩

/-- What a step does to the numbers: it keeps their order exactly when it is not overtaken. -/
theorem pairwise_step_iff {pool : Sessions fun _ : ι ↦ Unit} {events : ι → AuditEvent}
    (hlog : Log db t pool.state)
    (hstage : ∀ j, Stage db t (events j) pool.state j (pool.threads j)) (label : ι × Bool) :
    (numbers db (Sessions.step pool label).state.stored).Pairwise (· < ·) ↔
      (numbers db pool.state.stored).Pairwise (· < ·) ∧ Sessions.NotOvertaken pool label := by
  obtain ⟨i, fault⟩ := label
  rcases Pool.step_cases (m := DatabaseServer.answer) pool i fault with
    ⟨heq, hwait⟩ | ⟨c, k, r, server', hcall, hanswer, heq⟩
  · rw [Sessions.step, heq, Sessions.NotOvertaken, Sessions.stores_of_waits hwait]
    simp
  · obtain ⟨-, hmoves⟩ := (hstage i).own hlog.appended hcall hanswer
    have hstores : Sessions.stores pool (i, fault) = pool.state.stores i fault c := by
      rw [Sessions.stores, hcall]
    rw [Sessions.step, heq, Sessions.NotOvertaken, hstores]
    cases hmoves with
    | quiet hquiet hstored hmarks => simp [hquiet, hstored]
    | appends n happends hinsert hlock hticket hmarks =>
      obtain ⟨m, hm, rfl, hup⟩ := hticket
      rw [numbers_insert hlog.appended hinsert,
        pairwise_concat_iff hm hlog.appended.base_lt_numbers, happends, hup]
      simp

theorem pairwise_run_iff (db : Database) (t : String) (events : ι → AuditEvent)
    (as : List (ι × Bool)) :
    (numbers db (Transition.run Sessions.step (start db t events) as).state.stored).Pairwise
        (· < ·) ↔
      Transition.AllSteps Sessions.step Sessions.NotOvertaken (start db t events) as := by
  induction as using List.reverseRecOn with
  | nil => simp [start, Sessions.start, numbers, appended]
  | append_singleton as label ih =>
    obtain ⟨hlog, hstage⟩ := log_and_stages db t events as
    rw [Transition.run_append, Transition.run_cons, Transition.run_nil,
      pairwise_step_iff hlog hstage, ih, Transition.allSteps_append, Transition.allSteps_cons]
    simp

theorem bySeq_trans (a b c : AuditEvent) (hab : EventStore.bySeq a b = true)
    (hbc : EventStore.bySeq b c = true) : EventStore.bySeq a c = true := by
  simp only [EventStore.bySeq, decide_eq_true_eq] at *
  unfold Timestamp at *
  omega

theorem bySeq_total (a b : AuditEvent) : (EventStore.bySeq a b || EventStore.bySeq b a) = true := by
  simp only [EventStore.bySeq, Bool.or_eq_true, decide_eq_true_eq]
  unfold Timestamp at *
  omega

/-- Events with increasing numbers are listed in their order. -/
theorem Appended.inOrder_iff (h : Appended db t stored) :
    InOrder db t stored ↔ (numbers db stored).Pairwise (· < ·) := by
  refine ⟨fun hin ↦ hin.2.1, fun hnumbers ↦ ⟨h.rows_eq, hnumbers, ?_⟩⟩
  refine List.sublist_mergeSort bySeq_trans bySeq_total ?_ ?_
  · refine (List.pairwise_map.mp hnumbers).imp fun {a b} hlt ↦ ?_
    exact decide_eq_true (.inl hlt)
  · have hlisted : ∀ e ∈ appended db stored, EventStore.listed (some t) none e = true :=
      fun e he ↦ by simp [EventStore.listed, h.task e he]
    rw [h.rows_eq, List.filter_append, List.filter_eq_self.mpr hlisted]
    exact List.sublist_append_right _ _

/-- **Exactly when the events of a task are in order.** For calls of `append_event` with the default
number, each on a connection of its own: in the end the appended events have increasing numbers, and
the log lists them as they were appended, if and only if no call was overtaken between the statement
that read its number and the commit of its event. -/
theorem appended_in_order_iff (db : Database) (t : String) (events : ι → AuditEvent)
    (as : List (ι × Bool)) :
    InOrder db t (Transition.run Sessions.step (start db t events) as).state.stored ↔
      Transition.AllSteps Sessions.step Sessions.NotOvertaken (start db t events) as := by
  obtain ⟨hlog, -⟩ := log_and_stages db t events as
  rw [hlog.appended.inOrder_iff]
  exact pairwise_run_iff db t events as

/-! ### Two calls -/

def sampleEvents : Bool → AuditEvent
  | false => { eventId := "a", kind := .taskReceived, occurredAt := 1 }
  | true => { eventId := "b", kind := .planCreated, occurredAt := 2 }

/-- Both calls read their number before one of them has committed its event. -/
def bothRead : Sessions fun _ : Bool ↦ Unit :=
  Transition.run Sessions.step (start sampleDatabase "t" sampleEvents)
    [(false, false), (true, false), (false, false), (false, false), (false, false),
      (true, false), (true, false), (true, false)]

/-- Both calls return, and their events have the same number. -/
theorem same_number_twice :
    ¬InOrder sampleDatabase "t" bothRead.state.stored ∧
      numbers sampleDatabase bothRead.state.stored = [1, 1] ∧
      bothRead.threads false = .ret () ∧ bothRead.threads true = .ret () := by
  have hnumbers : numbers sampleDatabase bothRead.state.stored = [1, 1] := by decide
  refine ⟨fun h ↦ ?_, hnumbers, rfl, rfl⟩
  have hlt : (numbers sampleDatabase bothRead.state.stored).Pairwise (· < ·) := h.2.1
  rw [hnumbers] at hlt
  exact absurd hlt (by decide)

end EventNumbering

end Orchestra
