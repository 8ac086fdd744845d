import Orchestra.Coordinator.GateInvariants
import Orchestra.Foundation.Lockstep
import Orchestra.Foundation.SharedTable

/-!
# What a task sees of the approvals

A task sees the rows of its gates in their order, the decisions on these rows, the events that are
registered for its gates, and which of its identifiers are taken. Two states that are the same for
the task stay the same under a statement or a decision of the task itself (`SameApprovals.call`),
and what another task does leaves a state that is the same as the one before
(`sameApprovals_call`).
-/

namespace Orchestra

open EventStore Interaction

/-! ## The tables -/

/-- The approvals are the same for a task with these identifiers. -/
structure SameApprovals (own : String → Prop) (taskRunId : String) (t u : ApprovalTables) :
    Prop where
  approvals : KeyedTable.Agrees own (fun row ↦ decide (row.taskRunId = taskRunId))
    t.approvals u.approvals
  decisionIds : ∀ id, own id →
    ((t.decisions.find? id).isSome ↔ (u.decisions.find? id).isSome)
  log : ∀ a row, t.approvals.find? a = some row → row.taskRunId = taskRunId → t.log a = u.log a

variable {own : String → Prop} {taskRunId : String} {t t' u u' : ApprovalTables} {row : Approval}

namespace SameApprovals

theorem find? (h : SameApprovals own taskRunId t u) {a : String}
    (hrow : t.approvals.find? a = some row) (htask : row.taskRunId = taskRunId) :
    u.approvals.find? a = some row :=
  h.approvals.find?_eq_some hrow (decide_eq_true htask)

theorem refl (t : ApprovalTables) : SameApprovals own taskRunId t t :=
  ⟨KeyedTable.agrees_equivalence.refl _, fun _ _ ↦ Iff.rfl, fun _ _ _ _ ↦ rfl⟩

theorem symm (h : SameApprovals own taskRunId t u) : SameApprovals own taskRunId u t where
  approvals := KeyedTable.agrees_equivalence.symm h.approvals
  decisionIds id hid := (h.decisionIds id hid).symm
  log a row hrow htask := by
    have hfind := (KeyedTable.agrees_equivalence.symm h.approvals).find?_eq_some hrow
      (decide_eq_true htask)
    exact (h.log a row hfind htask).symm

theorem trans (h : SameApprovals own taskRunId t u) (h' : SameApprovals own taskRunId u u') :
    SameApprovals own taskRunId t u' where
  approvals := KeyedTable.agrees_equivalence.trans h.approvals h'.approvals
  decisionIds id hid := (h.decisionIds id hid).trans (h'.decisionIds id hid)
  log a row hrow htask :=
    (h.log a row hrow htask).trans (h'.log a row (h.find? hrow htask) htask)

/-! ### Insertions -/

theorem insertApproval_eq (t : ApprovalTables) (row : Approval) :
    (t.insertApproval row).map ApprovalTables.approvals = t.approvals.insert row := by
  rw [ApprovalTables.insertApproval]
  split
  · next hnone => rw [hnone]; rfl
  · next approvals hsome => exact hsome.symm

/-- The log of a row that is inserted is empty, and the other logs are as before. -/
theorem log_insertApproval (ht : t.insertApproval row = some t') (a : String) :
    t'.log a = t.log a := by
  rw [ApprovalTables.log, ApprovalTables.decisions_of_insertApproval ht, ApprovalTables.log]

/-- A row with an identifier of the task. -/
theorem insertApproval (h : SameApprovals own taskRunId t u) (hown : own row.approvalId) :
    Option.Rel (SameApprovals own taskRunId) (t.insertApproval row) (u.insertApproval row) := by
  rcases KeyedTable.rel_cases (h.approvals.insert hown) with
    ⟨hnone, hnone'⟩ | ⟨approvals, approvals', hsome, hsome', hagrees⟩
  · rw [← insertApproval_eq, Option.map_eq_none_iff] at hnone hnone'
    rw [hnone, hnone']
    exact .none
  rw [← insertApproval_eq, Option.map_eq_some_iff] at hsome hsome'
  obtain ⟨t', ht, rfl⟩ := hsome
  obtain ⟨u', hu, rfl⟩ := hsome'
  rw [ht, hu]
  refine .some ⟨hagrees, fun id hid ↦ ?_, fun a r hr htask ↦ ?_⟩
  · rw [ApprovalTables.decisions_of_insertApproval ht,
      ApprovalTables.decisions_of_insertApproval hu]
    exact h.decisionIds id hid
  · rw [log_insertApproval ht, log_insertApproval hu]
    rw [ApprovalTables.find?_of_insertApproval ht] at hr
    split at hr
    · next ha =>
      rw [← ha, ApprovalTables.log_eq_nil (ApprovalTables.find?_key_of_insertApproval ht),
        ApprovalTables.log_eq_nil (ApprovalTables.find?_key_of_insertApproval hu)]
    · exact h.log a r hr htask

end SameApprovals

/-- A row of another task. -/
theorem sameApprovals_insertApproval (hown : ¬own row.approvalId)
    (htask : row.taskRunId ≠ taskRunId) (ht : t.insertApproval row = some t') :
    SameApprovals own taskRunId t t' where
  approvals := by
    have hins : t.approvals.insert row = some t'.approvals := by
      rw [← SameApprovals.insertApproval_eq, ht]
      rfl
    exact KeyedTable.agrees_insert hins hown (decide_eq_false htask)
  decisionIds _ _ := by rw [ApprovalTables.decisions_of_insertApproval ht]
  log a _ _ _ := (SameApprovals.log_insertApproval ht a).symm

/-! ### Decisions -/

/-- The table of decisions after an insertion. -/
theorem isSome_find?_of_insertDecision {d : ApprovalDecision} (h : t.insertDecision d = some t')
    (id : String) :
    (t'.decisions.find? id).isSome ↔ d.decisionId = id ∨ (t.decisions.find? id).isSome := by
  rw [ApprovalTables.insertDecision] at h
  split at h
  · split at h
    · cases h
    · next decisions hins =>
      cases h
      rw [KeyedTable.find?_insert hins]
      split
      · next hid => simp [hid]
      · next hid => simp [hid]
  · cases h

theorem insertDecision_isSome_iff {d : ApprovalDecision} :
    (∃ t', t.insertDecision d = some t') ↔ (t.approvals.find? d.approvalId).isSome ∧
      (∀ e ∈ t.log d.approvalId, e.decisionSeq ≠ d.decisionSeq) ∧
      ¬(t.decisions.find? d.decisionId).isSome := by
  constructor
  · rintro ⟨t', h⟩
    rw [ApprovalTables.insertDecision] at h
    split at h
    · next hcond =>
      split at h
      · cases h
      · next decisions hins =>
        refine ⟨hcond.1, fun e he hseq ↦ hcond.2 ?_, ?_⟩
        · obtain ⟨hmem, ha⟩ := List.mem_filter.mp he
          exact List.mem_map.mpr ⟨e, hmem, by rw [of_decide_eq_true ha, hseq]⟩
        · rw [KeyedTable.find?_key_of_insert hins]
          exact Bool.false_ne_true
    · cases h
  · rintro ⟨happ, hseq, hid⟩
    exact ApprovalTables.insertDecision_isSome happ (Option.not_isSome_iff_eq_none.mp hid) hseq

namespace SameApprovals

/-- A decision on a row of the task. -/
theorem insertDecision (h : SameApprovals own taskRunId t u) {d : ApprovalDecision}
    (hrow : t.approvals.find? d.approvalId = some row) (htask : row.taskRunId = taskRunId)
    (hown : own d.decisionId) :
    Option.Rel (SameApprovals own taskRunId) (t.insertDecision d) (u.insertDecision d) := by
  have hiff : (∃ t', t.insertDecision d = some t') ↔ ∃ u', u.insertDecision d = some u' := by
    rw [insertDecision_isSome_iff, insertDecision_isSome_iff, hrow, h.find? hrow htask,
      h.log _ row hrow htask, h.decisionIds _ hown]
  cases ht : t.insertDecision d with
  | none =>
    cases hu : u.insertDecision d with
    | none => exact .none
    | some u' =>
      obtain ⟨t', ht'⟩ := hiff.mpr ⟨u', hu⟩
      rw [ht] at ht'
      cases ht'
  | some t' =>
    obtain ⟨u', hu⟩ := hiff.mp ⟨t', ht⟩
    rw [hu]
    refine .some ⟨?_, fun id hid ↦ ?_, fun a r hr hr' ↦ ?_⟩
    · rw [ApprovalTables.approvals_of_insertDecision ht,
        ApprovalTables.approvals_of_insertDecision hu]
      exact h.approvals
    · rw [isSome_find?_of_insertDecision ht, isSome_find?_of_insertDecision hu,
        h.decisionIds id hid]
    · rw [ApprovalTables.approvals_of_insertDecision ht] at hr
      rw [ApprovalTables.log_of_insertDecision ht, ApprovalTables.log_of_insertDecision hu,
        h.log a r hr hr']

section Update

variable {f : Approval → Approval} (hf : ∀ r, (f r).approvalId = r.approvalId)

/-- An update that leaves the rows in their tasks. -/
theorem updateApproval (h : SameApprovals own taskRunId t u)
    (hkeep : ∀ r, (f r).taskRunId = r.taskRunId) (a : String) :
    SameApprovals own taskRunId (t.updateApproval a f hf) (u.updateApproval a f hf) where
  approvals := h.approvals.updateAt hf (fun r ↦ by rw [hkeep]) a
  decisionIds := h.decisionIds
  log a' r hr hr' := by
    rw [ApprovalTables.find?_updateApproval] at hr
    split at hr
    · obtain ⟨r₀, hr₀, rfl⟩ := Option.map_eq_some_iff.mp hr
      exact h.log a' r₀ hr₀ ((hkeep r₀).symm.trans hr')
    · exact h.log a' r hr hr'

end Update

/-- **The compare-and-set** on a row of the task. -/
theorem recordApprovalDecision (h : SameApprovals own taskRunId t u) {c : DecisionCall}
    (hrow : t.approvals.find? c.approvalId = some row) (htask : row.taskRunId = taskRunId)
    (hown : own c.decisionId) :
    Both (fun r r' ↦ SameApprovals own taskRunId r.1 r'.1 ∧ r.2 = r'.2)
      (recordApprovalDecision t c) (recordApprovalDecision u c) := by
  rw [EventStore.recordApprovalDecision, EventStore.recordApprovalDecision, hrow,
    h.find? hrow htask]
  dsimp only
  by_cases hopen : row.state ∉ [ApprovalState.pending, .firstApproved]
  · rw [if_pos hopen, if_pos hopen]
    exact .ok ⟨h, rfl⟩
  by_cases htenant : row.tenantId ≠ c.identityTenantId
  · rw [if_neg hopen, if_neg hopen, if_pos htenant, if_pos htenant]
    exact .ok ⟨h, rfl⟩
  by_cases hdecision : c.decision ∉ ["approve", "reject"]
  · rw [if_neg hopen, if_neg hopen, if_neg htenant, if_neg htenant, if_pos hdecision,
      if_pos hdecision]
    exact .ok ⟨h, rfl⟩
  rw [if_neg hopen, if_neg hopen, if_neg htenant, if_neg htenant, if_neg hdecision,
    if_neg hdecision]
  have hentry : decisionEntry u c = decisionEntry t c := by
    rw [decisionEntry, decisionEntry, h.log _ row hrow htask]
  rw [hentry, ← h.log _ row hrow htask]
  rcases KeyedTable.rel_cases (h.insertDecision (d := decisionEntry t c) hrow htask hown) with
    ⟨hnone, hnone'⟩ | ⟨t', u', hsome, hsome', hsame⟩
  · rw [hnone, hnone']
    exact .error _
  · rw [hsome, hsome']
    exact .ok ⟨hsame.updateApproval (decideRow_approvalId c _) (fun _ ↦ rfl) _, rfl⟩

end SameApprovals

/-- A decision on a row of another task. -/
theorem sameApprovals_insertDecision {d : ApprovalDecision}
    (hrow : t.approvals.find? d.approvalId = some row) (htask : row.taskRunId ≠ taskRunId)
    (hown : ¬own d.decisionId) (ht : t.insertDecision d = some t') :
    SameApprovals own taskRunId t t' where
  approvals := by
    rw [ApprovalTables.approvals_of_insertDecision ht]
    exact KeyedTable.agrees_equivalence.refl _
  decisionIds id hid := by
    have hne : d.decisionId ≠ id := fun heq ↦ hown (heq ▸ hid)
    rw [isSome_find?_of_insertDecision ht]
    exact ⟨Or.inr, fun h ↦ h.resolve_left hne⟩
  log a r hr hr' := by
    have hne : d.approvalId ≠ a := by
      rintro rfl
      rw [hrow, Option.some.injEq] at hr
      exact htask (hr ▸ hr')
    rw [ApprovalTables.log_of_insertDecision ht, if_neg hne, List.append_nil]

/-- **The compare-and-set** on a row of another task. -/
theorem sameApprovals_recordApprovalDecision {c : DecisionCall} {out : DecisionOutcome}
    (hrow : t.approvals.find? c.approvalId = some row) (htask : row.taskRunId ≠ taskRunId)
    (hown : ¬own c.decisionId) (h : recordApprovalDecision t c = .ok (t', out)) :
    SameApprovals own taskRunId t t' := by
  rw [recordApprovalDecision, hrow] at h
  dsimp only at h
  split at h
  · cases h
    exact .refl t
  split at h
  · cases h
    exact .refl t
  split at h
  · cases h
    exact .refl t
  split at h
  · cases h
  · next t₁ hins =>
    cases h
    refine (sameApprovals_insertDecision hrow htask hown hins).trans ⟨?_, ?_, ?_⟩
    · refine KeyedTable.agrees_updateAt (decideRow_approvalId c _) (fun _ ↦ rfl) fun r hr ↦ ?_
      rw [ApprovalTables.approvals_of_insertDecision hins, hrow] at hr
      exact decide_eq_false (Option.some.inj hr ▸ htask)
    · exact fun _ _ ↦ Iff.rfl
    · exact fun _ _ _ _ ↦ rfl

/-- A row that the legacy path saves for the task. -/
theorem SameApprovals.saveApproval (h : SameApprovals own taskRunId t u) (hown : own row.approvalId)
    (raises : Bool) : Both (SameApprovals own taskRunId) (Coordinator.saveApproval raises t row)
      (Coordinator.saveApproval raises u row) := by
  rw [Coordinator.saveApproval, Coordinator.saveApproval]
  cases raises with
  | true => exact .error _
  | false =>
    rcases KeyedTable.rel_cases (h.insertApproval hown) with
      ⟨hnone, hnone'⟩ | ⟨t', u', hsome, hsome', hsame⟩
    · rw [hnone, hnone']
      exact .error _
    · rw [hsome, hsome']
      exact .ok hsame

/-! ## The registered events -/

namespace Coordinator

/-- The events registered for the gates of a task are the same, wherever they are kept. -/
structure SameGates (taskRunId : String) (co co' : Coordinator) : Prop where
  tenant : co.approvalTenant = co'.approvalTenant
  handle : ∀ nodeId, (co.registered (taskRunId, nodeId)).map Prod.snd =
    (co'.registered (taskRunId, nodeId)).map Prod.snd

variable {co co' : Coordinator} {key : String × String} {i i' : ℕ} {h : Handle}

theorem SameGates.refl (co : Coordinator) : SameGates taskRunId co co := ⟨rfl, fun _ ↦ rfl⟩

theorem SameGates.symm (hg : SameGates taskRunId co co') : SameGates taskRunId co' co :=
  ⟨hg.tenant.symm, fun nodeId ↦ (hg.handle nodeId).symm⟩

theorem SameGates.trans {co'' : Coordinator} (hg : SameGates taskRunId co co')
    (hg' : SameGates taskRunId co' co'') : SameGates taskRunId co co'' :=
  ⟨hg.tenant.trans hg'.tenant, fun nodeId ↦ (hg.handle nodeId).trans (hg'.handle nodeId)⟩

theorem SameGates.persistentPath (hg : SameGates taskRunId co co') (b : Bucket) :
    co'.persistentPath b = co.persistentPath b := by
  rw [Coordinator.persistentPath, Coordinator.persistentPath, hg.tenant]

/-- The registered event of a gate is one of the gate. -/
theorem key_of_registered (hok : CoordinatorOk t co) (hreg : co.registered key = some (i, h)) :
    h.key = key := by
  obtain ⟨hfind, hi⟩ := registered_eq_some hreg
  obtain ⟨h', hi', hkey⟩ := hok.registered _ (KeyedTable.mem_of_find? hfind)
  obtain rfl := Option.some.inj (hi.symm.trans hi')
  exact hkey

/-- The registrations after a new one. -/
theorem registered_register (hok : CoordinatorOk t co) (h : Handle) (key : String × String) :
    (co.register h).registered key =
      if h.key = key then some (co.handles.length, h) else co.registered key := by
  rw [registered, register, KeyedTable.find?_put]
  split
  · exact congrArg (Option.map _) ((getElem?_register h _).trans (if_pos rfl))
  · rw [registered]
    refine Option.bind_congr fun r hr ↦ ?_
    obtain ⟨h', hi, -⟩ := hok.registered r (KeyedTable.mem_of_find? hr)
    have hnext := getElem?_register_of_some (h := h) hi
    rw [register] at hnext
    rw [hnext, hi]

/-- The registrations after an assignment to a registered event. -/
theorem registered_setHandle (hok : CoordinatorOk t co) (hreg : co.registered key = some (i, h))
    (new : Handle) (key' : String × String) :
    (co.setHandle i new).registered key' =
      if key' = key then some (i, new) else co.registered key' := by
  obtain ⟨hfind, hi⟩ := registered_eq_some hreg
  split
  · next heq =>
    subst heq
    rw [registered]
    refine (congrArg (Option.bind · _) hfind).trans ?_
    exact congrArg (Option.map _) ((getElem?_setHandle hi new i).trans (if_pos rfl))
  · next hne =>
    rw [registered, registered]
    refine Option.bind_congr fun r hr ↦ ?_
    -- an event belongs to one gate
    have hother : r.handle ≠ i := by
      intro heq
      obtain ⟨h', hi', hkey⟩ := hok.registered r (KeyedTable.mem_of_find? hr)
      rw [heq, hi, Option.some.injEq] at hi'
      have hrkey : r.key = key' := KeyedTable.key_of_find? hr
      rw [← hi', key_of_registered hok hreg, hrkey] at hkey
      exact hne hkey.symm
    rw [getElem?_setHandle hi, if_neg hother]

/-- A new event of a gate of the task. -/
theorem SameGates.register (hg : SameGates taskRunId co co') (hok : CoordinatorOk t co)
    (hok' : CoordinatorOk u co') (h : Handle) :
    SameGates taskRunId (co.register h) (co'.register h) := by
  refine ⟨hg.tenant, fun nodeId ↦ ?_⟩
  rw [registered_register hok, registered_register hok']
  split
  · rfl
  · exact hg.handle nodeId

/-- A new event of a gate of another task. -/
theorem sameGates_register (hok : CoordinatorOk t co) (hkey : h.key.1 ≠ taskRunId) :
    SameGates taskRunId co (co.register h) := by
  refine ⟨rfl, fun nodeId ↦ ?_⟩
  rw [registered_register hok, if_neg]
  exact fun heq ↦ hkey (congrArg Prod.fst heq)

/-- An assignment to the event of a gate of the task. -/
theorem SameGates.setHandle (hg : SameGates taskRunId co co') (hok : CoordinatorOk t co)
    (hok' : CoordinatorOk u co') (hreg : co.registered key = some (i, h))
    (hreg' : co'.registered key = some (i', h)) (new : Handle) :
    SameGates taskRunId (co.setHandle i new) (co'.setHandle i' new) := by
  refine ⟨hg.tenant, fun nodeId ↦ ?_⟩
  rw [registered_setHandle hok hreg, registered_setHandle hok' hreg']
  split
  · rfl
  · exact hg.handle nodeId

/-- An assignment to the event of a gate of another task. -/
theorem sameGates_setHandle (hok : CoordinatorOk t co) (hreg : co.registered key = some (i, h))
    (hkey : key.1 ≠ taskRunId) (new : Handle) :
    SameGates taskRunId co (co.setHandle i new) := by
  refine ⟨rfl, fun nodeId ↦ ?_⟩
  rw [registered_setHandle hok hreg, if_neg]
  exact fun heq ↦ hkey (congrArg Prod.fst heq).symm

/-! ## Deciding -/

/-- The row of a registered gate belongs to its task. -/
theorem row_of_persistentPath (hok : CoordinatorOk t co)
    (hreg : co.registered key = some (i, h)) {tenantId approvalId : String}
    (hpath : co.persistentPath h.bucket = some (tenantId, approvalId)) :
    ∃ row, t.approvals.find? approvalId = some row ∧ row.taskRunId = key.1 := by
  obtain ⟨-, ha⟩ := persistentPath_eq_some hpath
  obtain ⟨-, row, hrow, hkey⟩ := hok.rows i h (registered_eq_some hreg).2 approvalId ha
  rw [key_of_registered hok hreg] at hkey
  exact ⟨row, hrow, congrArg Prod.fst hkey⟩

variable {q : DecisionRequest}

/-- **A decision of the task** has the same effect in both states. -/
theorem SameGates.call (h : SameApprovals own q.key.1 t u) (hg : SameGates q.key.1 co co')
    (hok : CoordinatorOk t co) (hok' : CoordinatorOk u co') (hdecision : own q.env.decisionId)
    (hlegacy : own q.env.legacyId.1) :
    SameApprovals own q.key.1 (q.call t co).1 (q.call u co').1 ∧
      SameGates q.key.1 (q.call t co).2.1 (q.call u co').2.1 := by
  have hhandle : (co.registered q.key).map Prod.snd = (co'.registered q.key).map Prod.snd :=
    hg.handle q.key.2
  rw [DecisionRequest.call, DecisionRequest.call, decideApproval, decideApproval]
  rcases hreg : co.registered q.key with _ | ⟨i, gate⟩
  · rw [hreg, Option.map_none, eq_comm, Option.map_eq_none_iff] at hhandle
    rw [hhandle]
    exact ⟨h, hg⟩
  rw [hreg, Option.map_some, eq_comm, Option.map_eq_some_iff] at hhandle
  obtain ⟨⟨i', gate'⟩, hreg', hgate⟩ := hhandle
  obtain rfl : gate' = gate := hgate
  rw [hreg']
  dsimp only
  rw [hg.persistentPath]
  cases hpath : co.persistentPath gate'.bucket with
  -- the legacy path: a row of the decision, under an identifier of the task
  | none =>
    have hrow : own (legacyRow q.env.legacyId.1 q.key.1 q.key.2 gate'.bucket.requestedAt
      (some q.env.now)).approvalId := hlegacy
    have hsave := h.saveApproval hrow q.env.saveRaises
    dsimp only
    rw [decideLegacy, decideLegacy]
    revert hsave
    generalize saveApproval q.env.saveRaises t _ = r
    generalize saveApproval q.env.saveRaises u _ = r'
    rintro (hsame | e)
    · exact ⟨hsame, hg.setHandle hok hok' hreg hreg' _⟩
    · exact ⟨h, hg.setHandle hok hok' hreg hreg' _⟩
  | some path =>
    obtain ⟨tenantId, approvalId⟩ := path
    obtain ⟨row, hrow, htask⟩ := row_of_persistentPath hok hreg hpath
    dsimp only
    rw [decidePersistent, decidePersistent]
    cases q.env.decideRaises with
    | true => exact ⟨h, hg⟩
    | false =>
      rw [if_neg Bool.false_ne_true, if_neg Bool.false_ne_true]
      have hrecord := h.recordApprovalDecision (c := serviceCall q.env approvalId tenantId
        q.decision q.decidedBy q.rationale) hrow htask hdecision
      revert hrecord
      generalize recordApprovalDecision t _ = r
      generalize recordApprovalDecision u _ = r'
      rintro (⟨hsame, hout⟩ | e)
      · next p p' =>
        obtain ⟨t', out⟩ := p
        obtain ⟨u', out'⟩ := p'
        obtain rfl := hout
        cases out with
        | refused reason => exact ⟨hsame, hg⟩
        | applied state version seen required =>
          exact ⟨hsame, hg.setHandle hok hok' hreg hreg' _⟩
      · exact ⟨h, hg⟩

/-- **A decision of another task** is not seen. -/
theorem same_call (hok : CoordinatorOk t co) (htask : q.key.1 ≠ taskRunId)
    (hdecision : ¬own q.env.decisionId) (hlegacy : ¬own q.env.legacyId.1) :
    SameApprovals own taskRunId t (q.call t co).1 ∧
      SameGates taskRunId co (q.call t co).2.1 := by
  rw [DecisionRequest.call, decideApproval]
  rcases hreg : co.registered q.key with _ | ⟨i, gate⟩
  · exact ⟨.refl t, .refl co⟩
  dsimp only
  cases hpath : co.persistentPath gate.bucket with
  | none =>
    -- the row that is saved belongs to the task of the gate
    dsimp only
    rw [decideLegacy, saveApproval]
    cases q.env.saveRaises with
    | true => exact ⟨.refl t, sameGates_setHandle hok hreg htask _⟩
    | false =>
      rw [if_neg Bool.false_ne_true]
      cases hins : t.insertApproval (legacyRow q.env.legacyId.1 q.key.1 q.key.2
          gate.bucket.requestedAt (some q.env.now)) with
      | none => exact ⟨.refl t, sameGates_setHandle hok hreg htask _⟩
      | some t' =>
        exact ⟨sameApprovals_insertApproval hlegacy htask hins,
          sameGates_setHandle hok hreg htask _⟩
  | some path =>
    obtain ⟨tenantId, approvalId⟩ := path
    obtain ⟨row, hrow, hrowTask⟩ := row_of_persistentPath hok hreg hpath
    dsimp only
    rw [decidePersistent]
    cases q.env.decideRaises with
    | true => exact ⟨.refl t, .refl co⟩
    | false =>
      rw [if_neg Bool.false_ne_true]
      rcases hrecord : recordApprovalDecision t (serviceCall q.env approvalId tenantId q.decision
        q.decidedBy q.rationale) with e | ⟨t', out⟩
      · exact ⟨.refl t, .refl co⟩
      have hsame : SameApprovals own taskRunId t t' :=
        sameApprovals_recordApprovalDecision hrow (hrowTask ▸ htask) hdecision hrecord
      cases out with
      | refused reason => exact ⟨hsame, .refl co⟩
      | applied state version seen required =>
        exact ⟨hsame, sameGates_setHandle hok hreg htask _⟩

end Coordinator

end Orchestra
