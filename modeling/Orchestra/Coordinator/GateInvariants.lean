import Orchestra.Coordinator.ApprovalGate
import Orchestra.Coordinator.ApprovalProgress

/-!
# Invariants of the approval gate

The three results about the gate need the same facts of every reachable state: what the rows of the
approvals are like (`TablesOk`), how they may change (`Advances`), and how the registrations, events
and runs of a coordinator hang together (`CoordinatorOk`). This file proves them, after one lemma
for each operation that says everything the operation can do.

`eachLive_step` is the rule by which the results are proved. It reduces an invariant of the system
to an invariant of one coordinator and the tables, to be checked for the four operations of a
coordinator and to be kept when another process advances the tables.
-/

namespace Orchestra

open EventStore Transition

/-! ## The rows -/

/-- A row is closed once it is approved or rejected. -/
def Approval.Decided (row : Approval) : Prop := row.state = .approved ∨ row.state = .rejected

instance (row : Approval) : Decidable row.Decided := inferInstanceAs (Decidable (_ ∨ _))

/-- The decision the row's payload shows. -/
def Approval.decision (row : Approval) : Option String :=
  row.decisionPayload.map DecisionPayload.decision

/-- What is true of every row: its identifier is not empty, its state is what the log makes of it,
and its payload shows the decision that closed it. -/
structure RowOk (t : ApprovalTables) (row : Approval) : Prop where
  id_ne : row.approvalId ≠ ""
  progress : Progress row.requiredApprovers (t.log row.approvalId) row.state
  approved : row.state = .approved → row.decision = some "approve"
  rejected : row.state = .rejected → row.decision = some "reject"

def TablesOk (t : ApprovalTables) : Prop :=
  ∀ a row, t.approvals.find? a = some row → RowOk t row

/-- The second row is a later state of the first. -/
structure Follows (row row' : Approval) : Prop where
  taskRunId : row'.taskRunId = row.taskRunId
  nodeId : row'.nodeId = row.nodeId
  tenantId : row'.tenantId = row.tenantId
  required : row'.requiredApprovers = row.requiredApprovers
  closed : row.Decided → row' = row

theorem Follows.refl (row : Approval) : Follows row row := ⟨rfl, rfl, rfl, rfl, fun _ ↦ rfl⟩

/-- The tables after any operation of any process: rows stay, and a closed row stays as it is. -/
structure Advances (t t' : ApprovalTables) : Prop where
  ok : TablesOk t → TablesOk t'
  row : ∀ a row, t.approvals.find? a = some row →
    ∃ row', t'.approvals.find? a = some row' ∧ Follows row row'

namespace Advances

variable {t t' : ApprovalTables}

theorem refl (t : ApprovalTables) : Advances t t := ⟨id, fun _ row h ↦ ⟨row, h, Follows.refl row⟩⟩

/-- A row that is closed is found again. -/
theorem find?_of_decided (h : Advances t t') {a : String} {row : Approval}
    (hrow : t.approvals.find? a = some row) (hdec : row.Decided) :
    t'.approvals.find? a = some row := by
  obtain ⟨row', hrow', hfollows⟩ := h.row a row hrow
  rw [hrow', hfollows.closed hdec]

/-- The insertion of a row without decisions. -/
theorem of_insert {row : Approval} (hid : row.approvalId ≠ "") (hstate : row.state = .pending)
    (h : t.insertApproval row = some t') : Advances t t' := by
  have hlog : ∀ a, t'.log a = t.log a := fun a ↦ by
    rw [ApprovalTables.log, ApprovalTables.decisions_of_insertApproval h, ApprovalTables.log]
  have hnone := ApprovalTables.find?_key_of_insertApproval h
  constructor
  · intro hok a r hr
    rw [ApprovalTables.find?_of_insertApproval h] at hr
    split at hr
    · obtain rfl := Option.some.inj hr
      refine ⟨hid, ?_, fun ha ↦ ?_, fun ha ↦ ?_⟩
      · rw [hlog, hstate, ApprovalTables.log_eq_nil hnone]
        exact ⟨fun d hd ↦ absurd hd List.not_mem_nil, fun _ ↦ rfl⟩
      · rw [hstate] at ha; cases ha
      · rw [hstate] at ha; cases ha
    · obtain ⟨h1, h2, h3, h4⟩ := hok a r hr
      exact ⟨h1, by rwa [hlog], h3, h4⟩
  · intro a r hr
    refine ⟨r, ?_, Follows.refl r⟩
    rw [ApprovalTables.find?_of_insertApproval h, if_neg, hr]
    rintro rfl
    rw [hnone] at hr
    cases hr

/-- The state a recorded decision leads to is decided as the decision says. -/
private theorem decision_of_next {c : DecisionCall} (n : ℤ) (seq : ℕ) {state : ApprovalState}
    (hopen : state = .pending ∨ state = .firstApproved)
    (hdec : c.decision = "approve" ∨ c.decision = "reject") :
    (nextApprovalState c.decision n seq state = .approved → c.decision = "approve") ∧
      (nextApprovalState c.decision n seq state = .rejected → c.decision = "reject") := by
  rcases hdec with hd | hd
  · refine ⟨fun _ ↦ hd, fun h ↦ ?_⟩
    rw [nextApprovalState, if_neg (by rw [hd]; decide)] at h
    rcases hopen with rfl | rfl <;> split_ifs at h
  · refine ⟨fun h ↦ ?_, fun _ ↦ hd⟩
    rw [nextApprovalState, if_pos hd] at h
    cases h

/-- A recorded decision. -/
theorem of_recorded {c : DecisionCall} {row : Approval} (h : Recorded t c row t') :
    Advances t t' := by
  obtain ⟨hrow, hacc, hfind, hlog⟩ := h
  have hkey := KeyedTable.key_of_find? hrow
  constructor
  · intro hok a r hr
    rw [hfind] at hr
    split at hr
    · obtain rfl := Option.some.inj hr
      obtain ⟨hid, hprog, -, -⟩ := hok _ row hrow
      obtain ⟨happ, hrej⟩ := decision_of_next row.requiredApprovers
        ((t.log c.approvalId).length + 1) hacc.isOpen hacc.decision
      refine ⟨hid, ?_, fun hst ↦ ?_, fun hst ↦ ?_⟩
      -- the row of the call, whose log has one more entry
      · rw [decideRow_approvalId, hkey, hlog, if_pos rfl]
        rw [hkey] at hprog
        exact hprog.next hacc.isOpen (d := decisionEntry t c) hacc.decision
      · exact congrArg some (happ hst)
      · exact congrArg some (hrej hst)
    · next ha =>
      obtain ⟨h1, h2, h3, h4⟩ := hok a r hr
      refine ⟨h1, ?_, h3, h4⟩
      obtain rfl := KeyedTable.key_of_find? hr
      rwa [hlog, if_neg (Ne.symm ha), List.append_nil]
  · intro a r hr
    rw [hfind]
    split
    · next ha =>
      subst ha
      obtain rfl := Option.some.inj (hrow.symm.trans hr)
      refine ⟨_, rfl, rfl, rfl, rfl, rfl, fun hdec ↦ ?_⟩
      rcases hacc.isOpen with ho | ho <;> rcases hdec with hd | hd <;> rw [ho] at hd <;> cases hd
    · exact ⟨r, hr, Follows.refl r⟩

theorem of_decideStep (t : ApprovalTables) (c : DecisionCall) : Advances t (decideStep t c) := by
  rcases decideStep_cases t c with ⟨heq, -⟩ | ⟨-, row, hrec⟩
  · rw [heq]; exact refl t
  · exact of_recorded hrec

end Advances

/-- Rows stay, each at its gate. -/
def GatesStay (t t' : ApprovalTables) : Prop :=
  ∀ a row, t.approvals.find? a = some row → ∃ row', t'.approvals.find? a = some row' ∧
    (row'.taskRunId, row'.nodeId) = (row.taskRunId, row.nodeId)

theorem GatesStay.trans {t t' t'' : ApprovalTables} (h : GatesStay t t') (h' : GatesStay t' t'') :
    GatesStay t t'' := by
  intro a row hrow
  obtain ⟨row', hrow', hgate⟩ := h a row hrow
  obtain ⟨row'', hrow'', hgate'⟩ := h' a row' hrow'
  exact ⟨row'', hrow'', hgate'.trans hgate⟩

theorem Advances.gatesStay {t t' : ApprovalTables} (h : Advances t t') : GatesStay t t' := by
  intro a row hrow
  obtain ⟨row', hrow', hfollows⟩ := h.row a row hrow
  exact ⟨row', hrow', by rw [hfollows.taskRunId, hfollows.nodeId]⟩

/-- A created approval is the row of its gate. -/
theorem createApproval_cases {t t' : ApprovalTables} {c : CreateApproval} {row : Approval}
    (hid : c.approvalId ≠ "") (h : createApproval t c = .ok (t', row)) :
    Advances t t' ∧ t'.approvals.find? row.approvalId = some row ∧
      row.taskRunId = c.taskRunId ∧ row.nodeId = c.nodeId := by
  rw [createApproval] at h
  split at h
  · next existing hsel =>
    cases h
    obtain ⟨hmem, hgate⟩ := List.mem_filter.mp (mem_of_selectForGate hsel)
    exact ⟨Advances.refl t, KeyedTable.find?_of_mem hmem, of_decide_eq_true hgate⟩
  · split at h
    · cases h
    · next t'' hins =>
      cases h
      refine ⟨Advances.of_insert hid rfl hins, ?_, rfl, rfl⟩
      rw [ApprovalTables.find?_of_insertApproval hins, if_pos rfl]

namespace Coordinator

variable {co : Coordinator} {t : ApprovalTables}

/-! ## Registrations and events -/

/-- A new event gets the next number; the others keep theirs. -/
theorem getElem?_register (h : Handle) (i : ℕ) : (co.register h).handles[i]?
    = if i = co.handles.length then some h else co.handles[i]? := by
  rw [register, List.getElem?_append]
  split
  · next hlt => rw [if_neg (by omega)]
  · next hge =>
    rw [List.getElem?_singleton]
    by_cases hi : i = co.handles.length
    · rw [if_pos (by omega), if_pos hi]
    · rw [if_neg (by omega), if_neg hi, List.getElem?_eq_none (by omega)]

theorem getElem?_register_of_some {h h' : Handle} {i : ℕ} (hi : co.handles[i]? = some h') :
    (co.register h).handles[i]? = some h' := by
  rw [getElem?_register, if_neg, hi]
  rintro rfl
  rw [List.getElem?_eq_none (le_refl _)] at hi
  cases hi

/-- An assignment to an event that is there. -/
theorem getElem?_setHandle {h₀ : Handle} {i : ℕ} (hi : co.handles[i]? = some h₀) (h : Handle)
    (j : ℕ) : (co.setHandle i h).handles[j]? = if j = i then some h else co.handles[j]? := by
  rw [setHandle, List.getElem?_set]
  by_cases hij : i = j
  · rw [if_pos hij, if_pos hij.symm, if_pos]
    exact hij ▸ (List.getElem?_eq_some_iff.mp hi).1
  · rw [if_neg hij, if_neg (Ne.symm hij)]

theorem registered_eq_some {key : String × String} {i : ℕ} {h : Handle}
    (hreg : co.registered key = some (i, h)) :
    co.approvalEvents.find? key = some ⟨key, i⟩ ∧ co.handles[i]? = some h := by
  rw [registered, Option.bind_eq_some_iff] at hreg
  obtain ⟨r, hr, hmap⟩ := hreg
  rw [Option.map_eq_some_iff] at hmap
  obtain ⟨h', hh', heq⟩ := hmap
  obtain ⟨rfl, rfl⟩ := Prod.mk.inj heq
  obtain rfl := KeyedTable.key_of_find? hr
  exact ⟨hr, hh'⟩

theorem persistentPath_eq_some {b : Bucket} {tenantId approvalId : String}
    (h : co.persistentPath b = some (tenantId, approvalId)) :
    co.approvalTenant = some tenantId ∧ b.approvalId = some approvalId := by
  rw [persistentPath] at h
  split at h
  · next tenant a htenant ha =>
    split at h
    · cases h
    · cases h
      exact ⟨htenant, ha⟩
  · cases h

/-! ## What the operations can do -/

/-- A row saved on the legacy path. -/
theorem saveApproval_cases (t : ApprovalTables) (raises : Bool) {row : Approval}
    (hid : row.approvalId ≠ "") (hstate : row.state = .pending) :
    (∃ e, saveApproval raises t row = .error e) ∨
      ∃ t', saveApproval raises t row = .ok t' ∧ Advances t t' := by
  rw [saveApproval]
  split
  · exact Or.inl ⟨_, rfl⟩
  · split
    · exact Or.inl ⟨_, rfl⟩
    · next t' hins => exact Or.inr ⟨t', rfl, Advances.of_insert hid hstate hins⟩

/-- The row a handler gets for its gate. -/
theorem createForNode_cases {env : HandlerEnv} {tenantId taskRunId nodeId : String}
    {created : ApprovalTables × Approval}
    (h : createForNode env t tenantId taskRunId nodeId = some created) :
    Advances t created.1 ∧ created.1.approvals.find? created.2.approvalId = some created.2 ∧
      created.2.taskRunId = taskRunId ∧ created.2.nodeId = nodeId := by
  rw [createForNode] at h
  split at h
  · cases h
  · split at h
    · next r hr =>
      cases h
      exact createApproval_cases (newApprovalId_ne_empty env.rowId) hr
    · cases h

/-- **The handler** registers a new event and waits on it, or ends. Its payload has no decision; it
names the row of the gate, or no row. -/
theorem enterGate_cases (env : HandlerEnv) (t : ApprovalTables) (co : Coordinator)
    (taskRunId : String) (merge : List (String × Json)) :
    ∃ handle phase, Advances t (co.enterGate env t taskRunId merge).1 ∧
      (co.enterGate env t taskRunId merge).2
        = { co.register handle with runs := co.runs ++ [⟨taskRunId, phase⟩] } ∧
      handle.isSet = false ∧ handle.bucket.decision = none ∧
      handle.key = (taskRunId, humanApproval) ∧
      (phase = .waiting co.handles.length ∨ phase = .failed) ∧
      (∀ a, handle.bucket.approvalId = some a → co.approvalTenant.isSome ∧
        ∃ row, (co.enterGate env t taskRunId merge).1.approvals.find? a = some row ∧
          (row.taskRunId, row.nodeId) = handle.key) ∧
      (handle.bucket.approvalId = none → ∀ tenantId, co.approvalTenant = some tenantId →
        createForNode env t tenantId taskRunId humanApproval = none) := by
  rw [enterGate, defaultApprovalHandler]
  cases hcreated : co.approvalTenant.bind fun tenantId ↦
      createForNode env t tenantId taskRunId humanApproval with
  | none =>
    have hnone : ∀ tenantId, co.approvalTenant = some tenantId →
        createForNode env t tenantId taskRunId humanApproval = none := fun tenantId htenant ↦ by
      rwa [htenant, Option.bind_some] at hcreated
    simp only [Option.map_none, Option.getD_none, Option.isSome_none, Bool.false_eq_true, if_false]
    have hid : (legacyRow env.legacyId.1 taskRunId humanApproval env.now none).approvalId ≠ "" :=
      env.legacyId.2
    rcases saveApproval_cases t env.saveRaises hid rfl with ⟨e, he⟩ | ⟨t', ht', hadv⟩
    · rw [he]
      exact ⟨_, _, Advances.refl t, rfl, rfl, rfl, rfl, Or.inr rfl, nofun, fun _ ↦ hnone⟩
    · rw [ht']
      refine ⟨_, _, hadv, rfl, rfl, rfl, rfl, ?_, nofun, fun _ ↦ hnone⟩
      dsimp only
      cases env.emitRaises
      · exact Or.inl rfl
      · exact Or.inr rfl
  | some created =>
    obtain ⟨tenantId, htenant, hrow⟩ := Option.bind_eq_some_iff.mp hcreated
    obtain ⟨hadv, hfind, htask, hnode⟩ := createForNode_cases hrow
    simp only [Option.map_some, Option.getD_some, Option.isSome_some, if_true]
    refine ⟨_, _, hadv, rfl, rfl, rfl, rfl, ?_, ?_, nofun⟩
    · cases env.emitRaises
      · exact Or.inl rfl
      · exact Or.inr rfl
    · rintro a ha
      obtain rfl := Option.some.inj ha
      exact ⟨by rw [htenant]; rfl, created.2, hfind, by rw [htask, hnode]; rfl⟩

/-- The call records its decision: the compare-and-set applies it, or its row is saved. -/
def recordsDecision (env : DecideEnv) (t : ApprovalTables) (co : Coordinator)
    (key : String × String) (decision decidedBy rationale : String) : Bool :=
  match co.registered key with
  | none => false
  | some (_, h) =>
    match co.persistentPath h.bucket with
    | some (tenantId, approvalId) => !env.decideRaises &&
      applied t (serviceCall env approvalId tenantId decision decidedBy rationale)
    | none => (saveApproval env.saveRaises t
        (legacyRow env.legacyId.1 key.1 key.2 h.bucket.requestedAt (some env.now))).isOk

/-- The induction rule for a coordinator that starts: it has no runs, and it registers pending rows
of its tenant. -/
theorem start_induction {Q : Coordinator → Prop} (t : ApprovalTables) (tenantId : Option String)
    (service raises : Bool) (hinit : Q { tenantId := tenantId, hasApprovalService := service })
    (hregister : ∀ co row, Q co → co.approvalTenant = some row.tenantId →
      t.approvals.find? row.approvalId = some row → row.state = .pending →
      Q (co.register { bucket := reloadedBucket row })) :
    Q (start t tenantId service raises) := by
  rw [start, reloadPendingApprovals]
  split
  · exact hinit
  · next tenant htenant =>
    split
    · exact hinit
    -- the loop, which registers rows of the one tenant
    · have hfold : ∀ (rows : List Approval) (co : Coordinator), Q co →
          co.approvalTenant = some tenant →
          (∀ row ∈ rows, t.approvals.find? row.approvalId = some row ∧ row.tenantId = tenant ∧
            row.state = .pending) → Q (rows.foldl reloadRow co) := by
        intro rows
        induction rows with
        | nil => exact fun co hco _ _ ↦ hco
        | cons row rows ih =>
          intro co hco hten hrows
          rw [List.forall_mem_cons] at hrows
          obtain ⟨⟨hfind, hrow, hpending⟩, hrest⟩ := hrows
          rw [List.foldl_cons, reloadRow]
          split
          · exact ih co hco hten hrest
          · split
            · exact ih co hco hten hrest
            · exact ih _ (hregister co row hco (by rw [hten, hrow]) hfind hpending) hten hrest
      refine hfold _ _ hinit htenant fun row hrow ↦ ?_
      rw [pendingForTenant, List.mem_insertionSort, List.mem_filter] at hrow
      exact ⟨KeyedTable.find?_of_mem hrow.1, of_decide_eq_true hrow.2⟩

/-- A run that continues reads the payload of the event it waits on. -/
theorem wakes_eq_some {co : Coordinator} {i : ℕ} {r : GateRun} {b : Bucket}
    (h : co.wakes i = some (r, b)) :
    co.runs[i]? = some r ∧ ∃ j, r.phase = .waiting j ∧ co.handles[j]? = some ⟨true, b⟩ := by
  rw [wakes] at h
  split at h
  · next task j hrun =>
    split at h
    · next handle hhandle =>
      split at h
      · next hset =>
        cases h
        refine ⟨hrun, j, rfl, ?_⟩
        rw [hhandle, ← hset]
      · cases h
    · cases h
  · cases h

theorem resume_cases (co : Coordinator) (i : ℕ) (emitRaises : Bool) :
    co.resume i emitRaises = co ∨ ∃ r b, co.wakes i = some (r, b) ∧
      co.resume i emitRaises
        = { co with runs := co.runs.set i ⟨r.taskRunId, afterGate emitRaises b⟩ } := by
  rw [resume]
  cases hw : co.wakes i with
  | none => exact Or.inl rfl
  | some rb => exact Or.inr ⟨rb.1, rb.2, rfl, rfl⟩

end Coordinator

/-! ## Steps of the system -/

/-- A call of `decide_approval`, directly or through an endpoint. -/
structure DecisionRequest where
  c : ℕ
  env : Coordinator.DecideEnv
  key : String × String
  decision : String
  decidedBy : String
  rationale : String

def GateAction.request : GateAction → Option DecisionRequest
  | .decide c env key decision decidedBy rationale =>
    some ⟨c, env, key, decision, decidedBy, rationale⟩
  | .endpoint c env verdict taskRunId decidedBy rationale =>
    some ⟨c, env, (taskRunId, Coordinator.humanApproval), verdict.decision, decidedBy, rationale⟩
  | _ => none

/-- The call that a request makes. -/
def DecisionRequest.call (q : DecisionRequest) (t : ApprovalTables) (co : Coordinator) :
    ApprovalTables × Coordinator × Except Coordinator.GateError Unit :=
  co.decideApproval q.env t q.key q.decision q.decidedBy q.rationale

/-- The event once the decision has been applied to its row. -/
def DecisionRequest.delivered (q : DecisionRequest) (h : Handle) (row : Approval) : Handle :=
  ⟨true, { Coordinator.decideBucket q.env q.decision q.decidedBy q.rationale h.bucket with
    version := some (row.version + 1) }⟩

namespace Coordinator

/-- **A decision** changes nothing; or it is recorded in the row of its gate, written into the
payload and delivered; or it is written into the payload of a gate in memory, and delivered if it
could be saved. -/
theorem call_cases (q : DecisionRequest) (t : ApprovalTables) (co : Coordinator) :
    (q.call t co).1 = t ∧ (q.call t co).2.1 = co ∧
      co.recordsDecision q.env t q.key q.decision q.decidedBy q.rationale = false ∨
    (∃ i h tenantId approvalId row, co.registered q.key = some (i, h) ∧
      co.persistentPath h.bucket = some (tenantId, approvalId) ∧
      Recorded t (serviceCall q.env approvalId tenantId q.decision q.decidedBy q.rationale) row
        (q.call t co).1 ∧
      (q.call t co).2.1 = co.setHandle i (q.delivered h row) ∧
      co.recordsDecision q.env t q.key q.decision q.decidedBy q.rationale = true) ∨
    ∃ i h isSet, co.registered q.key = some (i, h) ∧ co.persistentPath h.bucket = none ∧
      Advances t (q.call t co).1 ∧
      (q.call t co).2.1
        = co.setHandle i ⟨isSet, decideBucket q.env q.decision q.decidedBy q.rationale h.bucket⟩ ∧
      (isSet = true ∧
          co.recordsDecision q.env t q.key q.decision q.decidedBy q.rationale = true ∨
        isSet = h.isSet ∧
          co.recordsDecision q.env t q.key q.decision q.decidedBy q.rationale = false) := by
  obtain ⟨c, env, key, decision, decidedBy, rationale⟩ := q
  dsimp only [DecisionRequest.delivered]
  generalize hcall : DecisionRequest.call ⟨c, env, key, decision, decidedBy, rationale⟩ t co = r
  generalize hlogs : co.recordsDecision env t key decision decidedBy rationale = records
  have hr := hcall.symm
  have hrecords := hlogs.symm
  rw [DecisionRequest.call, decideApproval] at hr
  rw [recordsDecision] at hrecords
  cases hreg : co.registered key with
  | none =>
    rw [hreg] at hr hrecords
    exact Or.inl ⟨congrArg Prod.fst hr, congrArg (·.2.1) hr, hrecords⟩
  | some ih =>
    obtain ⟨i, h⟩ := ih
    rw [hreg] at hr hrecords
    dsimp only at hr hrecords
    cases hpath : co.persistentPath h.bucket with
    | some ta =>
      obtain ⟨tenantId, approvalId⟩ := ta
      rw [hpath] at hr hrecords
      dsimp only at hr hrecords
      rw [decidePersistent] at hr
      cases hraises : env.decideRaises with
      | true =>
        rw [hraises, if_pos rfl] at hr
        rw [hraises] at hrecords
        exact Or.inl ⟨congrArg Prod.fst hr, congrArg (·.2.1) hr, hrecords⟩
      | false =>
        rw [hraises, if_neg Bool.false_ne_true] at hr
        rw [hraises, Bool.not_false, Bool.true_and, applied] at hrecords
        rcases recordApprovalDecision_cases t
            (serviceCall env approvalId tenantId decision decidedBy rationale) with
          ⟨reason, hc⟩ | hc | ⟨row, t', hrec, hc⟩
        · rw [hc] at hr hrecords
          exact Or.inl ⟨congrArg Prod.fst hr, congrArg (·.2.1) hr, hrecords⟩
        · rw [hc] at hr hrecords
          exact Or.inl ⟨congrArg Prod.fst hr, congrArg (·.2.1) hr, hrecords⟩
        · rw [hc] at hr hrecords
          refine Or.inr (Or.inl ⟨i, h, tenantId, approvalId, row, rfl, hpath, ?_, ?_, hrecords⟩)
          · rw [hr]; exact hrec
          · exact congrArg (·.2.1) hr
    | none =>
      rw [hpath] at hr hrecords
      dsimp only at hr hrecords
      rw [decideLegacy] at hr
      have hid : (legacyRow env.legacyId.1 key.1 key.2 h.bucket.requestedAt
          (some env.now)).approvalId ≠ "" := env.legacyId.2
      rcases saveApproval_cases t env.saveRaises hid rfl with ⟨e, he⟩ | ⟨t', ht', hadv⟩
      · rw [he] at hr hrecords
        refine Or.inr (Or.inr ⟨i, h, h.isSet, rfl, hpath, ?_, congrArg (·.2.1) hr,
          Or.inr ⟨rfl, hrecords⟩⟩)
        rw [hr]
        exact Advances.refl t
      · rw [ht'] at hr hrecords
        refine Or.inr (Or.inr ⟨i, h, true, rfl, hpath, ?_, congrArg (·.2.1) hr,
          Or.inl ⟨rfl, hrecords⟩⟩)
        rw [hr]
        exact hadv

end Coordinator

namespace GateSystem

variable {s : GateSystem} {c c' : ℕ} {co : Coordinator}

theorem live_put (h : s.live c = some co) (r : ApprovalTables × Coordinator) (c' : ℕ) :
    (s.put c r).live c' = if c' = c then some r.2 else s.live c' := by
  have hlt : c < s.coordinators.length := by
    by_contra hge
    rw [live, List.getElem?_eq_none (by omega)] at h
    cases h
  rw [live, put, List.getElem?_set]
  by_cases hc : c = c'
  · rw [if_pos hc, if_pos hlt, if_pos hc.symm]
    rfl
  · rw [if_neg hc, if_neg (Ne.symm hc)]
    rfl

theorem live_stop_of_some {co' : Coordinator}
    (h : (step s (.stop c)).live c' = some co') : s.live c' = some co' := by
  rw [step, live, List.getElem?_set] at h
  split at h
  · split at h <;> cases h
  · exact h

theorem live_start (tenantId : Option String) (service raises : Bool) (c' : ℕ) :
    (step s (.start tenantId service raises)).live c' = if c' = s.coordinators.length then
      some (Coordinator.start s.approvals tenantId service raises) else s.live c' := by
  rw [live, step, List.getElem?_append]
  by_cases hlt : c' < s.coordinators.length
  · rw [if_pos hlt, if_neg (by omega)]
    rfl
  · rw [if_neg hlt, List.getElem?_singleton, live, List.getElem?_eq_none (by omega)]
    by_cases hc : c' = s.coordinators.length
    · rw [if_pos (by omega), if_pos hc]
      rfl
    · rw [if_neg (by omega), if_neg hc]

/-- Both kinds of requests call `decide_approval`. -/
theorem step_request {a : GateAction} {q : DecisionRequest} (h : a.request = some q) :
    step s a = match s.live q.c with
      | none => s
      | some co => s.put q.c ((q.call s.approvals co).1, (q.call s.approvals co).2.1) := by
  cases a with
  | decide c env key decision decidedBy rationale => cases h; rfl
  | endpoint c env verdict taskRunId decidedBy rationale =>
    cases h
    rw [step]
    cases s.live c with
    | none => rfl
    | some co =>
      simp only [Coordinator.endpoint, DecisionRequest.call]
      split <;> next heq => rw [heq]
  | _ => cases h

theorem advances_call (q : DecisionRequest) (t : ApprovalTables) (co : Coordinator) :
    Advances t (q.call t co).1 := by
  rcases Coordinator.call_cases q t co with
    ⟨heq, -, -⟩ | ⟨_, _, _, _, _, -, -, hrec, -, -⟩ | ⟨_, _, _, -, -, hadv, -, -⟩
  · rw [heq]; exact Advances.refl t
  · exact Advances.of_recorded hrec
  · exact hadv

/-- Every step advances the tables. -/
theorem advances_step (s : GateSystem) (a : GateAction) :
    Advances s.approvals (step s a).approvals := by
  cases hq : a.request with
  | some q =>
    rw [step_request hq]
    cases s.live q.c with
    | none => exact Advances.refl _
    | some co => exact advances_call q s.approvals co
  | none =>
    cases a with
    | start tenantId service raises => exact Advances.refl _
    | stop c => exact Advances.refl _
    | enterGate c env taskRunId merge =>
      rw [step]
      cases s.live c with
      | none => exact Advances.refl _
      | some co =>
        obtain ⟨handle, phase, hadv, -⟩ := co.enterGate_cases env s.approvals taskRunId merge
        exact hadv
    | resume c i raises =>
      rw [step]
      cases s.live c <;> exact Advances.refl _
    | decide => cases hq
    | endpoint => cases hq
    | serviceDecide call => exact Advances.of_decideStep _ call
    | createForNode id c =>
      rw [step]
      split
      · next t row h =>
        exact (createApproval_cases (Coordinator.newApprovalId_ne_empty id) h).1
      · exact Advances.refl _

/-- Something is true of every coordinator that is running, with the tables as they are. -/
def EachLive (s : GateSystem) (J : ℕ → ApprovalTables → Coordinator → Prop) : Prop :=
  ∀ c co, s.live c = some co → J c s.approvals co

theorem eachLive_init (J : ℕ → ApprovalTables → Coordinator → Prop) : EachLive {} J := by
  intro c co hco
  rw [show ({} : GateSystem).live c = none from rfl] at hco
  cases hco

/-- **The rule for invariants of coordinators.** What holds of each coordinator before a step holds
after it, if it is kept when the tables advance, if a new coordinator has it, and if the handler,
the continuation and the decision of a coordinator preserve it. -/
theorem eachLive_step {J J' : ℕ → ApprovalTables → Coordinator → Prop} {a : GateAction}
    (hJ : s.EachLive J)
    (hmono : ∀ c t co, Advances s.approvals t → J c s.approvals co → J' c t co)
    (hstart : ∀ tenantId service raises,
      J' s.coordinators.length s.approvals (.start s.approvals tenantId service raises))
    (henter : ∀ c co env taskRunId merge, a = .enterGate c env taskRunId merge →
      s.live c = some co → J c s.approvals co →
      J' c (co.enterGate env s.approvals taskRunId merge).1
        (co.enterGate env s.approvals taskRunId merge).2)
    (hresume : ∀ c co i raises, a = .resume c i raises → s.live c = some co → J c s.approvals co →
      J' c s.approvals (co.resume i raises))
    (hdecide : ∀ q co, a.request = some q → s.live q.c = some co → J q.c s.approvals co →
      J' q.c (q.call s.approvals co).1 (q.call s.approvals co).2.1) :
    (s.step a).EachLive J' := by
  -- the coordinators that do not take the step see the tables advance
  have hkeep : ∀ t, Advances s.approvals t → ∀ c co, s.live c = some co → J' c t co :=
    fun t hadv c co hco ↦ hmono c t co hadv (hJ c co hco)
  have hput : ∀ c co (r : ApprovalTables × Coordinator), s.live c = some co →
      Advances s.approvals r.1 → J' c r.1 r.2 → (s.put c r).EachLive J' := by
    intro c co r hco hadv hr c' co' hco'
    rw [live_put hco] at hco'
    split at hco'
    · next hc => cases hco'; rw [hc]; exact hr
    · exact hkeep r.1 hadv c' co' hco'
  cases hq : a.request with
  | some q =>
    rw [step_request hq]
    cases hco : s.live q.c with
    | none => exact hkeep _ (Advances.refl _)
    | some co => exact hput q.c co _ hco (advances_call q _ co) (hdecide q co hq hco (hJ _ co hco))
  | none =>
    cases a with
    | start tenantId service raises =>
      intro c' co' hco'
      rw [live_start] at hco'
      split at hco'
      · next hc => cases hco'; rw [hc]; exact hstart tenantId service raises
      · exact hkeep _ (Advances.refl _) c' co' hco'
    | stop c => exact fun c' co' hco' ↦ hkeep _ (Advances.refl _) c' co' (live_stop_of_some hco')
    | enterGate c env taskRunId merge =>
      rw [step]
      cases hco : s.live c with
      | none => exact hkeep _ (Advances.refl _)
      | some co =>
        obtain ⟨handle, phase, hadv, -⟩ := co.enterGate_cases env s.approvals taskRunId merge
        exact hput c co _ hco hadv (henter c co env taskRunId merge rfl hco (hJ c co hco))
    | resume c i raises =>
      rw [step]
      cases hco : s.live c with
      | none => exact hkeep _ (Advances.refl _)
      | some co =>
        exact hput c co _ hco (Advances.refl _) (hresume c co i raises rfl hco (hJ c co hco))
    | decide => cases hq
    | endpoint => cases hq
    | serviceDecide call => exact hkeep _ (Advances.of_decideStep _ call)
    | createForNode id c =>
      have hadv := advances_step s (.createForNode id c)
      intro c' co' hco'
      refine hkeep _ hadv c' co' ?_
      rw [step] at hco'
      split at hco' <;> exact hco'

end GateSystem

/-! ## The wiring of a coordinator -/

/-- A registration points to an event of its gate; an event that names a row names one of its gate,
and belongs to a coordinator with an approval service and a tenant; a run waits on an event of its
gate. -/
structure CoordinatorOk (t : ApprovalTables) (co : Coordinator) : Prop where
  registered : ∀ r ∈ co.approvalEvents.rows,
    ∃ h : Handle, co.handles[r.handle]? = some h ∧ h.key = r.key
  rows : ∀ (i : ℕ) (h : Handle), co.handles[i]? = some h → ∀ a, h.bucket.approvalId = some a →
    co.approvalTenant.isSome ∧
      ∃ row, t.approvals.find? a = some row ∧ (row.taskRunId, row.nodeId) = h.key
  waiting : ∀ r ∈ co.runs, ∀ i, r.phase = .waiting i →
    ∃ h : Handle, co.handles[i]? = some h ∧ h.key = (r.taskRunId, Coordinator.humanApproval)

namespace CoordinatorOk

open Coordinator

variable {t t' : ApprovalTables} {co : Coordinator}

/-- The tables may change, as long as the rows stay at their gates. -/
theorem of_gatesStay (h : CoordinatorOk t co) (hstay : GatesStay t t') : CoordinatorOk t' co := by
  refine ⟨h.registered, fun i handle hi a ha ↦ ?_, h.waiting⟩
  obtain ⟨hten, row, hrow, hkey⟩ := h.rows i handle hi a ha
  obtain ⟨row', hrow', hgate⟩ := hstay a row hrow
  exact ⟨hten, row', hrow', hgate.trans hkey⟩

theorem mono (h : CoordinatorOk t co) (hadv : Advances t t') : CoordinatorOk t' co :=
  h.of_gatesStay hadv.gatesStay

/-- The registration of a new event. -/
theorem register (h : CoordinatorOk t co) {handle : Handle}
    (hrow : ∀ a, handle.bucket.approvalId = some a → co.approvalTenant.isSome ∧
      ∃ row, t.approvals.find? a = some row ∧ (row.taskRunId, row.nodeId) = handle.key) :
    CoordinatorOk t (co.register handle) := by
  refine ⟨fun r hr ↦ ?_, fun i h' hi a ha ↦ ?_, fun r hr i hphase ↦ ?_⟩
  · have hfind : (co.register handle).approvalEvents.find? r.key = some r :=
      KeyedTable.find?_of_mem hr
    rw [Coordinator.register, KeyedTable.find?_put] at hfind
    split at hfind
    · obtain rfl := Option.some.inj hfind
      exact ⟨handle, by rw [getElem?_register, if_pos rfl], rfl⟩
    · obtain ⟨h', hh', hkey⟩ := h.registered r (KeyedTable.mem_of_find? hfind)
      exact ⟨h', getElem?_register_of_some hh', hkey⟩
  · rw [getElem?_register] at hi
    split at hi
    · obtain rfl := Option.some.inj hi
      exact hrow a ha
    · exact h.rows i h' hi a ha
  · obtain ⟨h', hh', hkey⟩ := h.waiting r hr i hphase
    exact ⟨h', getElem?_register_of_some hh', hkey⟩

/-- An assignment to an event keeps the gate of every event. -/
theorem exists_key_setHandle {i j : ℕ} {old new : Handle} {key : String × String}
    (hi : co.handles[i]? = some old) (hkey : new.key = old.key)
    (hj : ∃ h : Handle, co.handles[j]? = some h ∧ h.key = key) :
    ∃ h : Handle, (co.setHandle i new).handles[j]? = some h ∧ h.key = key := by
  obtain ⟨h, hh, hk⟩ := hj
  rw [getElem?_setHandle hi]
  split
  · next heq =>
    rw [heq, hi, Option.some.injEq] at hh
    exact ⟨new, rfl, by rw [hkey, hh, hk]⟩
  · exact ⟨h, hh, hk⟩

/-- An assignment to an event that keeps its gate and its row. -/
theorem setHandle (h : CoordinatorOk t co) {i : ℕ} {old : Handle} (new : Handle)
    (hi : co.handles[i]? = some old) (hkey : new.key = old.key)
    (hrow : new.bucket.approvalId = old.bucket.approvalId) :
    CoordinatorOk t (co.setHandle i new) := by
  refine ⟨fun r hr ↦ ?_, fun j h' hj a ha ↦ ?_, fun r hr j hphase ↦ ?_⟩
  · exact exists_key_setHandle hi hkey (h.registered r hr)
  · rw [getElem?_setHandle hi] at hj
    split at hj
    · obtain rfl := Option.some.inj hj
      rw [hrow] at ha
      rw [hkey]
      exact h.rows i old hi a ha
    · exact h.rows j h' hj a ha
  · exact exists_key_setHandle hi hkey (h.waiting r hr j hphase)

/-- A new run waits on the event that was registered for it. -/
theorem enterGate (h : CoordinatorOk t co) (env : HandlerEnv) (taskRunId : String)
    (merge : List (String × Json)) :
    CoordinatorOk (co.enterGate env t taskRunId merge).1
      (co.enterGate env t taskRunId merge).2 := by
  obtain ⟨handle, phase, hadv, heq, -, -, hkey, hphase, hrow, -⟩ :=
    co.enterGate_cases env t taskRunId merge
  have hreg := (h.mono hadv).register hrow
  rw [heq]
  refine ⟨hreg.registered, hreg.rows, fun r hr i hwait ↦ ?_⟩
  rcases List.mem_append.mp hr with hold | hnew
  · exact hreg.waiting r hold i hwait
  · obtain rfl := List.mem_singleton.mp hnew
    rcases hphase with rfl | rfl
    · cases hwait
      exact ⟨handle, (getElem?_register handle _).trans (if_pos rfl), hkey⟩
    · cases hwait

theorem afterGate_ne_waiting (raises : Bool) (b : Bucket) (i : ℕ) :
    afterGate raises b ≠ .waiting i := by
  rw [afterGate]
  split_ifs <;> exact nofun

theorem resume (h : CoordinatorOk t co) (i : ℕ) (raises : Bool) :
    CoordinatorOk t (co.resume i raises) := by
  rcases co.resume_cases i raises with heq | ⟨r, b, -, heq⟩
  · rwa [heq]
  · rw [heq]
    refine ⟨h.registered, h.rows, fun r' hr' j hwait ↦ ?_⟩
    rcases List.mem_or_eq_of_mem_set hr' with hold | rfl
    · exact h.waiting r' hold j hwait
    · exact absurd hwait (afterGate_ne_waiting raises b j)

theorem call (h : CoordinatorOk t co) (q : DecisionRequest) :
    CoordinatorOk (q.call t co).1 (q.call t co).2.1 := by
  have hmono := h.mono (GateSystem.advances_call q t co)
  rcases call_cases q t co with
    ⟨-, heq, -⟩ | ⟨i, old, _, _, row, hreg, -, -, heq, -⟩ | ⟨i, old, isSet, hreg, -, -, heq, -⟩
  · rwa [heq]
  · rw [heq]
    exact hmono.setHandle (q.delivered old row) (registered_eq_some hreg).2 rfl rfl
  · rw [heq]
    exact hmono.setHandle ⟨isSet, decideBucket q.env q.decision q.decidedBy q.rationale old.bucket⟩
      (registered_eq_some hreg).2 rfl rfl

theorem start (t : ApprovalTables) (tenantId : Option String) (service raises : Bool) :
    CoordinatorOk t (.start t tenantId service raises) := by
  refine start_induction t tenantId service raises
    ⟨fun r hr ↦ absurd hr List.not_mem_nil, fun i h hi ↦ by simp at hi,
      fun r hr ↦ absurd hr List.not_mem_nil⟩ ?_
  intro co row hco htenant hfind _
  refine hco.register fun a ha ↦ ?_
  obtain rfl := Option.some.inj ha
  exact ⟨by rw [htenant]; rfl, row, hfind, rfl⟩

/-- A wired gate that is not on the persistent path names no row. -/
theorem approvalId_eq_none (hok : CoordinatorOk t co) (htables : TablesOk t) {i : ℕ} {h : Handle}
    (hi : co.handles[i]? = some h) (hpath : co.persistentPath h.bucket = none) :
    h.bucket.approvalId = none := by
  cases ha : h.bucket.approvalId with
  | none => rfl
  | some a =>
    obtain ⟨hten, row, hrow, -⟩ := hok.rows i h hi a ha
    obtain ⟨tenantId, htenant⟩ := Option.isSome_iff_exists.mp hten
    have hne := (htables a row hrow).id_ne
    rw [KeyedTable.key_of_find? hrow] at hne
    simp [persistentPath, htenant, ha, hne] at hpath

end CoordinatorOk

namespace GateSystem

/-- What holds of every state that is reached. -/
structure Wired (s : GateSystem) : Prop where
  tables : TablesOk s.approvals
  coordinators : s.EachLive fun _ ↦ CoordinatorOk

theorem Wired.step {s : GateSystem} (h : s.Wired) (a : GateAction) : (s.step a).Wired where
  tables := (advances_step s a).ok h.tables
  coordinators := eachLive_step h.coordinators
    (fun _ _ _ hadv hco ↦ hco.mono hadv)
    (fun tenantId service raises ↦ .start s.approvals tenantId service raises)
    (fun _ _ env taskRunId merge _ _ hco ↦ hco.enterGate env taskRunId merge)
    (fun _ _ i raises _ _ hco ↦ hco.resume i raises)
    (fun q _ _ _ hco ↦ hco.call q)

theorem wired_init : Wired {} where
  tables := fun a row hrow ↦ by
    rw [show ({} : GateSystem).approvals.approvals.find? a = none from rfl] at hrow
    cases hrow
  coordinators := eachLive_init _

/-- **Every reachable state is wired**, whatever the order of the steps and whatever raises. -/
theorem wired_run (as : List GateAction) : (run step {} as).Wired :=
  run_invariant (fun _ a h ↦ h.step a) wired_init as

end GateSystem

end Orchestra
