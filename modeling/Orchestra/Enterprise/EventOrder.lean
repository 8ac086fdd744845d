import Orchestra.Enterprise.Isolation
import Orchestra.Foundation.OrderBy

/-!
# The order of a tenant's events

`list_events` orders the events of a task by their sequence numbers. The base store numbers an event
that has the default number; the isolating store inserts the number it is given. Events without a
number of their own therefore all get the number `0`, and the database may return them in any order:
the order in which they were appended is guaranteed exactly when no two of them are stored
(`listed_in_order_iff`).
-/

namespace Orchestra

open EventStore Transition OrderBy

namespace IsolatingEventStore

/-- An event of a task, built without a sequence number. -/
def unnumbered (taskRunId : String) (ev : AuditEvent) : AuditEvent :=
  { ev with taskRunId := some taskRunId, seq := 0 }

/-- The row that `append_event` inserts for it. -/
def unnumberedRow (tenant taskRunId : String) (ev : AuditEvent) : AuditEvent :=
  { unnumbered taskRunId ev with tenantId := some tenant }

/-- The database after the events were appended one by one. -/
def appendAll (tenant taskRunId : String) (db : Database) (evs : List AuditEvent) : Database :=
  run (step tenant) db (evs.map fun ev ↦ .appendEvent (unnumbered taskRunId ev))

/-- The rows that these calls have added to the log of the task, in the order in which they were
appended. -/
def appended (tenant taskRunId : String) (db : Database) (evs : List AuditEvent) :
    List EventView :=
  (eventRows tenant (appendAll tenant taskRunId db evs) taskRunId).drop
    (eventRows tenant db taskRunId).length

/-- Every answer to `list_events` has the appended events in the order in which they were
appended. -/
def ListedInOrder (tenant taskRunId : String) (db : Database) (evs : List AuditEvent) : Prop :=
  ∀ l, ListEvents tenant (appendAll tenant taskRunId db evs) taskRunId l →
    (appended tenant taskRunId db evs).Sublist l

/-- The event can be inserted: what it refers to exists, and its identifier is free. -/
def Storable (db : Database) (ev : AuditEvent) : Prop :=
  referencesExist db ev = true ∧ db.events.find? ev.eventId = none

instance (db : Database) (ev : AuditEvent) : Decidable (Storable db ev) :=
  inferInstanceAs (Decidable (_ ∧ _))

/-! ## What the calls add -/

variable {tenant taskRunId : String} {db : Database} {ev : AuditEvent} {evs : List AuditEvent}

theorem step_appendEvent_of_not (h : ¬Storable db (unnumbered taskRunId ev)) :
    step tenant db (.appendEvent (unnumbered taskRunId ev)) = db := by
  rw [step, appendEvent]
  split
  · next db' hins =>
    exact absurd (exists_insertEvent_iff.mp ⟨db', hins⟩) h
  · rfl

theorem step_appendEvent_of_storable (tenant : String)
    (h : Storable db (unnumbered taskRunId ev)) :
    ∃ events, db.events.insert (unnumberedRow tenant taskRunId ev) = some events ∧
      step tenant db (.appendEvent (unnumbered taskRunId ev)) = { db with events := events } := by
  have hrow : ∃ db', insertEvent db (unnumberedRow tenant taskRunId ev) = .ok db' :=
    exists_insertEvent_iff.mpr h
  obtain ⟨db', hins⟩ := hrow
  obtain ⟨events, hinsert, rfl⟩ := insertEvent_cases hins
  refine ⟨events, hinsert, ?_⟩
  have happend : appendEvent tenant db (unnumbered taskRunId ev) =
      .ok { db with events := events } := hins
  rw [step, happend]

/-- Storing one event takes its identifier and leaves the others as they were. -/
theorem storable_insert_iff {row : AuditEvent} {events : KeyedTable AuditEvent.eventId}
    (h : db.events.insert row = some events) :
    Storable { db with events := events } ev ↔ Storable db ev ∧ ev.eventId ≠ row.eventId := by
  rw [Storable, Storable, KeyedTable.find?_insert h]
  by_cases hid : row.eventId = ev.eventId
  · simp [hid]
  · rw [if_neg hid]
    exact ⟨fun hs ↦ ⟨hs, fun heq ↦ hid heq.symm⟩, And.left⟩

/-- The rows that were added are rows of the calls, with the number `0`, and an identifier is among
them exactly if it is that of an event that could be stored. -/
structure Adds (tenant taskRunId : String) (db : Database) (evs new : List AuditEvent) : Prop where
  rows : (appendAll tenant taskRunId db evs).events.rows = db.events.rows ++ new
  own : ∀ e ∈ new, e.tenantId = some tenant ∧ e.taskRunId = some taskRunId ∧ e.seq = 0
  ids : ∀ id, id ∈ new.map AuditEvent.eventId ↔
    ∃ ev ∈ evs, ev.eventId = id ∧ Storable db (unnumbered taskRunId ev)

theorem exists_adds (tenant taskRunId : String) (db : Database) (evs : List AuditEvent) :
    ∃ new, Adds tenant taskRunId db evs new := by
  induction evs generalizing db with
  | nil => exact ⟨[], (List.append_nil _).symm, by simp, by simp⟩
  | cons ev evs ih =>
    by_cases hstorable : Storable db (unnumbered taskRunId ev)
    · -- the identifier is taken from here on, so that a later event with it adds nothing
      obtain ⟨events, hinsert, hstep⟩ := step_appendEvent_of_storable tenant hstorable
      obtain ⟨new, hnew⟩ := ih { db with events := events }
      refine ⟨unnumberedRow tenant taskRunId ev :: new, ?_, ?_, ?_⟩
      · rw [appendAll, List.map_cons, run_cons, hstep]
        have hrows := hnew.rows
        rw [appendAll] at hrows
        rw [hrows, KeyedTable.rows_of_insert hinsert, List.append_assoc, List.singleton_append]
      · rw [List.forall_mem_cons]
        exact ⟨⟨rfl, rfl, rfl⟩, hnew.own⟩
      · intro id
        rw [List.map_cons, List.mem_cons, hnew.ids, List.exists_mem_cons_iff]
        by_cases hid : ev.eventId = id
        · exact iff_of_true (Or.inl hid.symm) (Or.inl ⟨hid, hstorable⟩)
        · have hrow : (unnumberedRow tenant taskRunId ev).eventId = ev.eventId := rfl
          rw [or_iff_right (fun h ↦ hid (h.trans hrow).symm), or_iff_right fun h ↦ hid h.1]
          refine exists_congr fun e ↦ and_congr_right fun _ ↦ and_congr_right fun heq ↦ ?_
          rw [storable_insert_iff hinsert]
          refine and_iff_left fun h ↦ hid ?_
          exact (heq.symm.trans (h.trans hrow)).symm
    · obtain ⟨new, hnew⟩ := ih db
      refine ⟨new, ?_, hnew.own, fun id ↦ ?_⟩
      · rw [appendAll, List.map_cons, run_cons, step_appendEvent_of_not hstorable]
        exact hnew.rows
      · rw [hnew.ids, List.exists_mem_cons_iff, or_iff_right fun h ↦ hstorable h.2]

theorem Adds.eventRows {new : List AuditEvent} (h : Adds tenant taskRunId db evs new) :
    eventRows tenant (appendAll tenant taskRunId db evs) taskRunId =
      eventRows tenant db taskRunId ++ new.map viewEvent := by
  have hnew : (new.filter fun e ↦
      decide (e.tenantId = some tenant ∧ e.taskRunId = some taskRunId)) = new :=
    List.filter_eq_self.mpr fun e he ↦ decide_eq_true ⟨(h.own e he).1, (h.own e he).2.1⟩
  rw [IsolatingEventStore.eventRows, h.rows, List.filter_append, hnew, List.map_append,
    IsolatingEventStore.eventRows]

theorem Adds.appended_eq {new : List AuditEvent} (h : Adds tenant taskRunId db evs new) :
    appended tenant taskRunId db evs = new.map viewEvent := by
  rw [appended, h.eventRows, List.drop_left]

theorem Adds.nodup {new : List AuditEvent} (h : Adds tenant taskRunId db evs new) :
    (new.map AuditEvent.eventId).Nodup := by
  have hkeys := (appendAll tenant taskRunId db evs).events.nodup_keys
  rw [h.rows, List.map_append] at hkeys
  exact (List.nodup_append.mp hkeys).2.1

/-! ## What is guaranteed -/

/-- The rows of a task are known by their identifiers. -/
theorem nodup_eventRows (tenant taskRunId : String) (db : Database) :
    (eventRows tenant db taskRunId).Nodup := by
  refine List.Nodup.of_map EventView.eventId ?_
  rw [eventRows, List.map_map]
  exact db.events.nodup_keys.sublist (List.filter_sublist.map _)

/-- A list of rows with one number is ordered strictly if it has no two rows. -/
theorem pairwise_not_le_iff {l : List EventView} (h : ∀ v ∈ l, v.seq = 0) :
    (l.Pairwise fun v w ↦ ¬w.seq ≤ v.seq) ↔ l.length ≤ 1 := by
  cases l with
  | nil => simp
  | cons v l =>
    cases l with
    | nil => simp
    | cons w l =>
      refine iff_of_false (fun hpair ↦ ?_) (by simp)
      have hvw := List.rel_of_pairwise_cons hpair List.mem_cons_self
      rw [h v (by simp), h w (by simp)] at hvw
      exact hvw le_rfl

/-- Rows with distinct keys are at most one when all keys are equal. -/
theorem length_le_one_iff {l : List String} (h : l.Nodup) :
    l.length ≤ 1 ↔ ∀ a ∈ l, ∀ b ∈ l, a = b := by
  cases l with
  | nil => simp
  | cons a l =>
    cases l with
    | nil => simp
    | cons b l =>
      refine iff_of_false (by simp) fun hall ↦ ?_
      have hab := hall a (by simp) b (by simp)
      exact (List.nodup_cons.mp h).1 (hab ▸ List.mem_cons_self)

/-- **Exactly when the order of the appended events is guaranteed**: no two of the events that can
be stored have different identifiers. -/
theorem listed_in_order_iff (tenant taskRunId : String) (db : Database) (evs : List AuditEvent) :
    ListedInOrder tenant taskRunId db evs ↔
      ∀ e ∈ evs, ∀ e' ∈ evs, Storable db (unnumbered taskRunId e) →
        Storable db (unnumbered taskRunId e') → e.eventId = e'.eventId := by
  obtain ⟨new, hnew⟩ := exists_adds tenant taskRunId db evs
  have hsublist : (appended tenant taskRunId db evs).Sublist
      (eventRows tenant (appendAll tenant taskRunId db evs) taskRunId) := List.drop_sublist _ _
  have htotal : Std.Total fun v w : EventView ↦ v.seq ≤ w.seq := ⟨fun v w ↦ le_total v.seq w.seq⟩
  have htrans : IsTrans EventView fun v w ↦ v.seq ≤ w.seq := ⟨fun _ _ _ h h' ↦ h.trans h'⟩
  have hseq : ∀ v ∈ appended tenant taskRunId db evs, v.seq = 0 := by
    rw [hnew.appended_eq]
    intro v hv
    obtain ⟨e, he, rfl⟩ := List.mem_map.mp hv
    exact (hnew.own e he).2.2
  calc ListedInOrder tenant taskRunId db evs
      ↔ (appended tenant taskRunId db evs).Pairwise fun v w : EventView ↦ ¬w.seq ≤ v.seq :=
        forall_sublist_iff (r := fun v w : EventView ↦ v.seq ≤ w.seq) (nodup_eventRows _ _ _)
          hsublist
    _ ↔ (appended tenant taskRunId db evs).length ≤ 1 := pairwise_not_le_iff hseq
    _ ↔ (new.map AuditEvent.eventId).length ≤ 1 := by
        rw [hnew.appended_eq, List.length_map, List.length_map]
    _ ↔ ∀ a ∈ new.map AuditEvent.eventId, ∀ b ∈ new.map AuditEvent.eventId, a = b :=
        length_le_one_iff hnew.nodup
    _ ↔ _ := by
        constructor
        · intro hall e he e' he' hs hs'
          exact hall _ ((hnew.ids _).mpr ⟨e, he, rfl, hs⟩) _ ((hnew.ids _).mpr ⟨e', he', rfl, hs'⟩)
        · intro hall a ha b hb
          obtain ⟨e, he, rfl, hs⟩ := (hnew.ids a).mp ha
          obtain ⟨e', he', rfl, hs'⟩ := (hnew.ids b).mp hb
          exact hall e he e' he' hs hs'

/-! ### Two events -/

/-- The events of a short task. -/
def startedAndSucceeded : List AuditEvent :=
  [{ eventId := "e1", kind := .nodeStarted, occurredAt := 0 },
    { eventId := "e2", kind := .nodeSucceeded, occurredAt := 1 }]

/-- **Two events may come back in the other order.** -/
theorem not_listedInOrder_startedAndSucceeded :
    ¬ListedInOrder "tenant:a" "task-1" (upsertTaskRun "tenant:a" {} sampleTaskRun)
      startedAndSucceeded := by
  intro h
  have hreversed := h ((appended "tenant:a" "task-1" (upsertTaskRun "tenant:a" {} sampleTaskRun)
    startedAndSucceeded).reverse) ⟨?_, ?_⟩
  · exact absurd hreversed (by decide)
  · decide
  · decide

end IsolatingEventStore

end Orchestra
