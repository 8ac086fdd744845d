import Orchestra.Coordinator.ApprovalIsolation
import Orchestra.Coordinator.RunStore

/-!
# What a task sees of the store

A task sees its row, its events and receipts in their order, its approvals, and which of its
identifiers are taken as the key of a node run or a grant. Every statement that a run issues has two
lemmas. Issued for the task, it has the same outcome in two databases that are the same for the
task, and leaves such databases. Issued for another task, it leaves a database that is the same as
the one before.
-/

namespace Orchestra

open EventStore Interaction

/-- The databases are the same for a task with these identifiers. -/
structure SameTables (own : String → Prop) (taskRunId : String) (db db' : Database) : Prop where
  taskRun : db.taskRuns.find? taskRunId = db'.taskRuns.find? taskRunId
  nodeRuns : KeyedTable.Agrees own (fun _ ↦ false) db.nodeRuns db'.nodeRuns
  events : KeyedTable.Agrees own (fun ev ↦ decide (ev.taskRunId = some taskRunId))
    db.events db'.events
  grants : KeyedTable.Agrees own (fun _ ↦ false) db.grants db'.grants
  receipts : KeyedTable.Agrees own (fun receipt ↦ decide (receipt.taskRunId = taskRunId))
    db.receipts db'.receipts
  approvals : SameApprovals own taskRunId db.approvals db'.approvals

variable {own : String → Prop} {taskRunId : String} {db db' db'' : Database}

namespace SameTables

theorem refl (db : Database) : SameTables own taskRunId db db where
  taskRun := rfl
  nodeRuns := KeyedTable.agrees_equivalence.refl _
  events := KeyedTable.agrees_equivalence.refl _
  grants := KeyedTable.agrees_equivalence.refl _
  receipts := KeyedTable.agrees_equivalence.refl _
  approvals := .refl _

theorem symm (h : SameTables own taskRunId db db') : SameTables own taskRunId db' db where
  taskRun := h.taskRun.symm
  nodeRuns := KeyedTable.agrees_equivalence.symm h.nodeRuns
  events := KeyedTable.agrees_equivalence.symm h.events
  grants := KeyedTable.agrees_equivalence.symm h.grants
  receipts := KeyedTable.agrees_equivalence.symm h.receipts
  approvals := h.approvals.symm

theorem trans (h : SameTables own taskRunId db db') (h' : SameTables own taskRunId db' db'') :
    SameTables own taskRunId db db'' where
  taskRun := h.taskRun.trans h'.taskRun
  nodeRuns := KeyedTable.agrees_equivalence.trans h.nodeRuns h'.nodeRuns
  events := KeyedTable.agrees_equivalence.trans h.events h'.events
  grants := KeyedTable.agrees_equivalence.trans h.grants h'.grants
  receipts := KeyedTable.agrees_equivalence.trans h.receipts h'.receipts
  approvals := h.approvals.trans h'.approvals

end SameTables

/-! ## Task runs -/

theorem SameTables.upsertTaskRun (h : SameTables own taskRunId db db')
    (contractId templateId : String) (state : TaskRunState) (planId : Option String)
    (now : Timestamp) :
    SameTables own taskRunId
      (EventStore.upsertTaskRun db taskRunId contractId templateId state planId now)
      (EventStore.upsertTaskRun db' taskRunId contractId templateId state planId now) := by
  refine { h with taskRun := ?_ }
  rw [EventStore.upsertTaskRun, EventStore.upsertTaskRun, KeyedTable.find?_upsert,
    KeyedTable.find?_upsert, h.taskRun]

theorem sameTables_upsertTaskRun {id : String} (hid : id ≠ taskRunId)
    (contractId templateId : String) (state : TaskRunState) (planId : Option String)
    (now : Timestamp) :
    SameTables own taskRunId db (upsertTaskRun db id contractId templateId state planId now) := by
  refine { SameTables.refl db with taskRun := ?_ }
  rw [upsertTaskRun, KeyedTable.find?_upsert]
  exact (if_neg hid).symm

theorem SameTables.updateTaskState (h : SameTables own taskRunId db db') (state : TaskRunState)
    (now : Timestamp) :
    SameTables own taskRunId (EventStore.updateTaskState db taskRunId state now)
      (EventStore.updateTaskState db' taskRunId state now) := by
  refine { h with taskRun := ?_ }
  rw [EventStore.updateTaskState, EventStore.updateTaskState, KeyedTable.find?_updateAt_self,
    KeyedTable.find?_updateAt_self, h.taskRun]

theorem sameTables_updateTaskState {id : String} (hid : id ≠ taskRunId) (state : TaskRunState)
    (now : Timestamp) : SameTables own taskRunId db (updateTaskState db id state now) := by
  refine { SameTables.refl db with taskRun := ?_ }
  rw [updateTaskState, KeyedTable.find?_updateAt_of_ne _ _ _ hid.symm]

/-! ## Node runs -/

theorem SameTables.upsertNodeRun (h : SameTables own taskRunId db db') {row : NodeRun}
    (htask : row.taskRunId = taskRunId) (hid : own row.nodeRunId) :
    Both (SameTables own taskRunId) (EventStore.upsertNodeRun db row)
      (EventStore.upsertNodeRun db' row) := by
  rw [EventStore.upsertNodeRun, EventStore.upsertNodeRun, htask]
  have hcond : ((db.nodeRuns.find? row.nodeRunId).isSome ∨
      (db.taskRuns.find? taskRunId).isSome) ↔ ((db'.nodeRuns.find? row.nodeRunId).isSome ∨
      (db'.taskRuns.find? taskRunId).isSome) := by
    rw [h.nodeRuns.keys _ hid, h.taskRun]
  simp only [hcond]
  split
  · refine .ok { h with nodeRuns := KeyedTable.agrees_of_keys fun id hid' ↦ ?_ }
    rw [KeyedTable.isSome_find?_upsert, KeyedTable.isSome_find?_upsert, h.nodeRuns.keys id hid']
  · exact .error _

theorem sameTables_upsertNodeRun {row : NodeRun} (hid : ¬own row.nodeRunId)
    (h : upsertNodeRun db row = .ok db') : SameTables own taskRunId db db' := by
  rw [upsertNodeRun_eq_ok h]
  refine { SameTables.refl db with nodeRuns := KeyedTable.agrees_of_keys fun id hid' ↦ ?_ }
  have hne : row.nodeRunId ≠ id := fun heq ↦ hid (heq ▸ hid')
  rw [KeyedTable.isSome_find?_upsert]
  exact ⟨Or.inr, fun hsome ↦ hsome.resolve_left hne⟩

theorem SameTables.updateNodeState (h : SameTables own taskRunId db db') (nodeRunId : String)
    (state : NodeRunState) (output : Option Json) (started ended : Bool) (now : Timestamp) :
    SameTables own taskRunId
      (EventStore.updateNodeState db nodeRunId state output started ended now)
      (EventStore.updateNodeState db' nodeRunId state output started ended now) :=
  { h with nodeRuns := h.nodeRuns.updateAt (setNodeState_nodeRunId _ _ _ _ _) (fun _ ↦ rfl) nodeRunId }

theorem sameTables_updateNodeState (nodeRunId : String) (state : NodeRunState)
    (output : Option Json) (started ended : Bool) (now : Timestamp) :
    SameTables own taskRunId db
      (updateNodeState db nodeRunId state output started ended now) :=
  { SameTables.refl db with
    nodeRuns := KeyedTable.agrees_updateAt (setNodeState_nodeRunId _ _ _ _ _) (fun _ ↦ rfl)
      fun _ _ ↦ rfl }

/-! ## Events -/

/-- The next number of the task is the same. -/
theorem SameTables.nextSeq (h : SameTables own taskRunId db db') :
    EventStore.nextSeq db taskRunId = EventStore.nextSeq db' taskRunId := by
  rw [EventStore.nextSeq, EventStore.nextSeq, h.events.rows]

theorem SameTables.numberEvent (h : SameTables own taskRunId db db') {ev : AuditEvent}
    (htask : ev.taskRunId.getD taskRunId = taskRunId) :
    EventStore.numberEvent db ev = EventStore.numberEvent db' ev := by
  rw [EventStore.numberEvent, EventStore.numberEvent]
  cases hev : ev.taskRunId with
  | none => rfl
  | some id =>
    obtain rfl : id = taskRunId := by rwa [hev] at htask
    dsimp only
    rw [h.nextSeq]

theorem SameTables.insertEvent (h : SameTables own taskRunId db db') {ev : AuditEvent}
    (htask : ev.taskRunId.getD taskRunId = taskRunId) (hid : own ev.eventId)
    (hnode : ∀ id, ev.nodeRunId = some id → own id) :
    Both (SameTables own taskRunId) (EventStore.insertEvent db ev)
      (EventStore.insertEvent db' ev) := by
  have href : referencesExist db ev = referencesExist db' ev := by
    rw [referencesExist, referencesExist]
    congr 1
    · cases hev : ev.taskRunId with
      | none => rfl
      | some id =>
        obtain rfl : id = taskRunId := by rwa [hev] at htask
        rw [Option.all_some, Option.all_some, h.taskRun]
    · cases hev : ev.nodeRunId with
      | none => rfl
      | some id =>
        rw [Option.all_some, Option.all_some]
        exact Bool.eq_iff_iff.mpr (h.nodeRuns.keys id (hnode id hev))
  rw [EventStore.insertEvent, EventStore.insertEvent, href]
  split
  · rcases KeyedTable.rel_cases (h.events.insert hid) with
      ⟨hnone, hnone'⟩ | ⟨events, events', hsome, hsome', hagrees⟩
    · rw [hnone, hnone']
      exact .error _
    · rw [hsome, hsome']
      exact .ok { h with events := hagrees }
  · exact .error _

theorem SameTables.appendEvent (h : SameTables own taskRunId db db') {ev : AuditEvent}
    (htask : ev.taskRunId.getD taskRunId = taskRunId) (hid : own ev.eventId)
    (hnode : ∀ id, ev.nodeRunId = some id → own id) :
    Both (SameTables own taskRunId) (EventStore.appendEvent db ev)
      (EventStore.appendEvent db' ev) := by
  rw [EventStore.appendEvent, EventStore.appendEvent, ← h.numberEvent htask]
  obtain ⟨seq, hseq⟩ := numberEvent_eq db ev
  rw [hseq]
  exact h.insertEvent htask hid hnode

theorem sameTables_appendEvent {ev : AuditEvent} (htask : ev.taskRunId ≠ some taskRunId)
    (hid : ¬own ev.eventId) (h : appendEvent db ev = .ok db') :
    SameTables own taskRunId db db' := by
  obtain ⟨e, events, heid, hetask, -, -, hins, rfl⟩ := appendEvent_cases h
  exact { SameTables.refl db with
    events := KeyedTable.agrees_insert hins (heid ▸ hid) (decide_eq_false (hetask ▸ htask)) }

/-! ## Grants and receipts -/

theorem SameTables.saveGrant (h : SameTables own taskRunId db db') {grant : NodeGrant}
    (hid : own grant.grantId) :
    Both (SameTables own taskRunId) (EventStore.saveGrant db grant)
      (EventStore.saveGrant db' grant) := by
  rw [EventStore.saveGrant, EventStore.saveGrant]
  rcases KeyedTable.rel_cases (h.grants.insert hid) with
    ⟨hnone, hnone'⟩ | ⟨grants, grants', hsome, hsome', hagrees⟩
  · rw [hnone, hnone']
    exact .error _
  · rw [hsome, hsome']
    exact .ok { h with grants := hagrees }

theorem sameTables_saveGrant {grant : NodeGrant} (hid : ¬own grant.grantId)
    (h : saveGrant db grant = .ok db') : SameTables own taskRunId db db' := by
  rw [saveGrant] at h
  split at h
  · cases h
  · next grants hins =>
    cases h
    exact { SameTables.refl db with grants := KeyedTable.agrees_insert hins hid rfl }

theorem SameTables.saveReceipt (h : SameTables own taskRunId db db') {receipt : SignedReceipt}
    (htask : receipt.taskRunId = taskRunId) (hid : own receipt.receiptId)
    (hnode : own receipt.nodeRunId) (now : Timestamp) :
    Both (SameTables own taskRunId) (EventStore.saveReceipt db receipt now)
      (EventStore.saveReceipt db' receipt now) := by
  rw [EventStore.saveReceipt, EventStore.saveReceipt, htask, h.taskRun]
  simp only [h.nodeRuns.keys _ hnode]
  split
  · have hrow : own (receiptRow receipt now).receiptId := hid
    rcases KeyedTable.rel_cases (h.receipts.insert hrow) with
      ⟨hnone, hnone'⟩ | ⟨receipts, receipts', hsome, hsome', hagrees⟩
    · rw [hnone, hnone']
      exact .error _
    · rw [hsome, hsome']
      exact .ok { h with receipts := hagrees }
  · exact .error _

theorem sameTables_saveReceipt {receipt : SignedReceipt} (htask : receipt.taskRunId ≠ taskRunId)
    (hid : ¬own receipt.receiptId) {now : Timestamp}
    (h : saveReceipt db receipt now = .ok db') : SameTables own taskRunId db db' := by
  rw [saveReceipt] at h
  split at h
  · split at h
    · cases h
    · next receipts hins =>
      cases h
      exact { SameTables.refl db with
        receipts := KeyedTable.agrees_insert hins hid (decide_eq_false htask) }
  · cases h

theorem SameTables.getReceipts (h : SameTables own taskRunId db db') :
    EventStore.getReceipts db taskRunId = EventStore.getReceipts db' taskRunId := by
  rw [EventStore.getReceipts, EventStore.getReceipts, h.receipts.rows]

/-! ## Approvals -/

/-- The rows of a gate of the task are the same. -/
theorem SameApprovals.selectForGate {t u : ApprovalTables} (h : SameApprovals own taskRunId t u)
    (nodeId : String) (choice : ℕ) :
    EventStore.selectForGate t taskRunId nodeId choice =
      EventStore.selectForGate u taskRunId nodeId choice := by
  have hrows : approvalsOfGate t taskRunId nodeId = approvalsOfGate u taskRunId nodeId :=
    h.approvals.filter_eq fun r hr ↦ decide_eq_true (of_decide_eq_true hr).1
  rw [EventStore.selectForGate, EventStore.selectForGate, hrows]

theorem SameApprovals.createApproval {t u : ApprovalTables} (h : SameApprovals own taskRunId t u)
    {c : CreateApproval} (htask : c.taskRunId = taskRunId) (hid : own c.approvalId) :
    Both (fun r r' ↦ SameApprovals own taskRunId r.1 r'.1 ∧ r.2 = r'.2)
      (EventStore.createApproval t c) (EventStore.createApproval u c) := by
  rw [EventStore.createApproval, EventStore.createApproval, htask, h.selectForGate]
  cases EventStore.selectForGate u taskRunId c.nodeId c.choice with
  | some existing => exact .ok ⟨h, rfl⟩
  | none =>
    have hrow : own (pendingRow c).approvalId := hid
    rcases KeyedTable.rel_cases (h.insertApproval hrow) with
      ⟨hnone, hnone'⟩ | ⟨t', u', hsome, hsome', hsame⟩
    · rw [hnone, hnone']
      exact .error _
    · rw [hsome, hsome']
      exact .ok ⟨hsame, rfl⟩

theorem sameApprovals_createApproval {t t' : ApprovalTables} {c : CreateApproval} {row : Approval}
    (htask : c.taskRunId ≠ taskRunId) (hid : ¬own c.approvalId)
    (h : createApproval t c = .ok (t', row)) : SameApprovals own taskRunId t t' := by
  rw [createApproval] at h
  split at h
  · cases h
    exact .refl t
  · split at h
    · cases h
    · next hins =>
      cases h
      exact sameApprovals_insertApproval hid htask hins

end Orchestra
