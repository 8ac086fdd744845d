import Orchestra.Coordinator.Tables
import Orchestra.Foundation.Transition

/-!
# The persistent approval workflow

`create_approval` inserts one row for a gate and returns the existing row when there is one.
`record_approval_decision` is the compare-and-set: under the row lock it refuses a terminal row,
another tenant's identity and an unknown decision, and otherwise appends a numbered entry to the
approver log and moves the row.

The transition it computes depends on the number of approvers asked for. One approver approves at
once, two approve in two steps, and with any other number an approval is counted but the state
stays where it is; `Progress` lists what a state says about the log, and the main results read it
off along a run of calls. Identities are recorded but not compared.
-/

namespace Orchestra

/-! ## Statements on the two tables -/

namespace ApprovalTables

/-- The entries of the log that belong to an approval, oldest first. -/
def log (t : ApprovalTables) (approvalId : String) : List ApprovalDecision :=
  t.decisions.rows.filter fun d ↦ decide (d.approvalId = approvalId)

/-- `INSERT INTO approvals`. -/
def insertApproval (t : ApprovalTables) (row : Approval) : Option ApprovalTables :=
  match h : t.approvals.insert row with
  | none => none
  | some approvals => some
    { t with
      approvals := approvals
      references := fun d hd ↦ by
        obtain ⟨r, hr⟩ := Option.isSome_iff_exists.mp (t.references d hd)
        rw [KeyedTable.find?_insert_of_some h hr]
        rfl }

/-- `UPDATE approvals … WHERE approval_id = …`. -/
def updateApproval (t : ApprovalTables) (approvalId : String) (f : Approval → Approval)
    (hf : ∀ r, (f r).approvalId = r.approvalId) : ApprovalTables :=
  { t with
    approvals := t.approvals.updateAt approvalId f hf
    references := fun d hd ↦ by
      obtain ⟨r, hr⟩ := Option.isSome_iff_exists.mp (t.references d hd)
      rw [KeyedTable.find?_updateAt, hr]
      split <;> rfl }

/-- `INSERT INTO approval_decisions`, with its foreign key and both of its unique keys. -/
def insertDecision (t : ApprovalTables) (d : ApprovalDecision) : Option ApprovalTables :=
  if h : (t.approvals.find? d.approvalId).isSome ∧
      (d.approvalId, d.decisionSeq) ∉
        t.decisions.rows.map fun e ↦ (e.approvalId, e.decisionSeq) then
    match hins : t.decisions.insert d with
    | none => none
    | some decisions => some
      { t with
        decisions := decisions
        references := fun e he ↦ by
          rw [KeyedTable.rows_of_insert hins] at he
          rcases List.mem_append.mp he with he | he
          · exact t.references e he
          · rw [List.mem_singleton.mp he]
            exact h.1
        seq_nodup := by
          rw [KeyedTable.rows_of_insert hins, List.map_append, List.map_singleton,
            List.nodup_append]
          refine ⟨t.seq_nodup, List.nodup_singleton _, ?_⟩
          rintro a ha b hb rfl
          exact h.2 (List.mem_singleton.mp hb ▸ ha) }
  else none

variable {t t' : ApprovalTables}

theorem approvals_of_insertDecision {d : ApprovalDecision} (h : t.insertDecision d = some t') :
    t'.approvals = t.approvals := by
  rw [insertDecision] at h
  split at h
  · split at h
    · cases h
    · cases h; rfl
  · cases h

theorem decisions_of_insertDecision {d : ApprovalDecision} (h : t.insertDecision d = some t') :
    t'.decisions.rows = t.decisions.rows ++ [d] := by
  rw [insertDecision] at h
  split at h
  · split at h
    · cases h
    · next hins => cases h; exact KeyedTable.rows_of_insert hins
  · cases h

/-- The log after an insertion. -/
theorem log_of_insertDecision {d : ApprovalDecision} (h : t.insertDecision d = some t')
    (approvalId : String) :
    t'.log approvalId = t.log approvalId ++ if d.approvalId = approvalId then [d] else [] := by
  rw [log, decisions_of_insertDecision h, List.filter_append, ← log, List.filter_singleton]
  by_cases hd : d.approvalId = approvalId <;> simp [hd]

/-- An insertion succeeds when the approval exists and both keys are free. -/
theorem insertDecision_isSome {d : ApprovalDecision}
    (happ : (t.approvals.find? d.approvalId).isSome) (hid : t.decisions.find? d.decisionId = none)
    (hseq : ∀ e ∈ t.log d.approvalId, e.decisionSeq ≠ d.decisionSeq) :
    ∃ t', t.insertDecision d = some t' := by
  have hnew : (d.approvalId, d.decisionSeq) ∉
      t.decisions.rows.map fun e ↦ (e.approvalId, e.decisionSeq) := by
    intro hmem
    obtain ⟨e, he, heq⟩ := List.mem_map.mp hmem
    obtain ⟨happ', hseq'⟩ := Prod.mk.inj heq
    exact hseq e (List.mem_filter.mpr ⟨he, decide_eq_true happ'⟩) hseq'
  obtain ⟨ds, hds⟩ := Option.isSome_iff_exists.mp (KeyedTable.insert_isSome_iff.mpr hid)
  rw [insertDecision, dif_pos ⟨happ, hnew⟩]
  split
  · next hnone => rw [hds] at hnone; cases hnone
  · exact ⟨_, rfl⟩

/-- A row that is not there has no log. -/
theorem log_eq_nil {approvalId : String} (h : t.approvals.find? approvalId = none) :
    t.log approvalId = [] := by
  rw [log, List.filter_eq_nil_iff]
  intro d hd hkey
  have := t.references d hd
  rw [of_decide_eq_true hkey, h] at this
  cases this

theorem decisions_of_insertApproval {row : Approval} (h : t.insertApproval row = some t') :
    t'.decisions = t.decisions := by
  rw [insertApproval] at h
  split at h
  · cases h
  · cases h; rfl

theorem find?_of_insertApproval {row : Approval} (h : t.insertApproval row = some t')
    (approvalId : String) : t'.approvals.find? approvalId
      = if row.approvalId = approvalId then some row else t.approvals.find? approvalId := by
  rw [insertApproval] at h
  split at h
  · cases h
  · next hins => cases h; exact KeyedTable.find?_insert hins approvalId

theorem find?_updateApproval (t : ApprovalTables) (approvalId : String) (f : Approval → Approval)
    (hf : ∀ r, (f r).approvalId = r.approvalId) (a : String) :
    (t.updateApproval approvalId f hf).approvals.find? a
      = if a = approvalId then (t.approvals.find? a).map f else t.approvals.find? a :=
  KeyedTable.find?_updateAt _ f hf _ a

theorem rows_of_insertApproval {row : Approval} (h : t.insertApproval row = some t') :
    t'.approvals.rows = t.approvals.rows ++ [row] := by
  rw [insertApproval] at h
  split at h
  · cases h
  · next hins => cases h; exact KeyedTable.rows_of_insert hins

theorem find?_key_of_insertApproval {row : Approval} (h : t.insertApproval row = some t') :
    t.approvals.find? row.approvalId = none := by
  rw [insertApproval] at h
  split at h
  · cases h
  · next hins => exact KeyedTable.find?_key_of_insert hins

/-- An insertion succeeds when the identifier is free. -/
theorem exists_insertApproval (row : Approval) (h : t.approvals.find? row.approvalId = none) :
    ∃ t', t.insertApproval row = some t' := by
  have hsome := KeyedTable.insert_isSome_iff.mpr h
  rw [insertApproval]
  split
  · next hnone =>
    rw [hnone] at hsome
    cases hsome
  · exact ⟨_, rfl⟩

end ApprovalTables

/-! ## The methods of the store -/

/-- The arguments of `create_approval`, with the fresh identifier and the clock. When a gate has
several rows, the database returns one of them; `choice` says which. -/
structure CreateApproval where
  taskRunId : String
  nodeId : String
  tenantId : String
  requestedBy : String
  requiredApprovers : ℤ := 1
  ticket : Option String := none
  approvalId : String
  now : Timestamp
  choice : ℕ := 0
  deriving DecidableEq

/-- The arguments of `record_approval_decision`, with the fresh identifier and the clock. -/
structure DecisionCall where
  approvalId : String
  decision : String
  decidedBy : String
  identityTenantId : String
  rationale : String := ""
  decisionId : String
  now : Timestamp
  deriving DecidableEq

/-- Why a decision is not applied. -/
inductive DecisionRefusal where
  | notFound
  | alreadyTerminal (state : ApprovalState)
  | crossTenant
  | badDecision
  deriving DecidableEq

/-- What `record_approval_decision` returns. -/
inductive DecisionOutcome where
  | refused (reason : DecisionRefusal)
  | applied (state : ApprovalState) (version decisionsSeen : ℕ) (requiredApprovers : ℤ)
  deriving DecidableEq

namespace EventStore

/-- The rows of a gate. -/
def approvalsOfGate (t : ApprovalTables) (taskRunId nodeId : String) : List Approval :=
  t.approvals.rows.filter fun r ↦ decide (r.taskRunId = taskRunId ∧ r.nodeId = nodeId)

/-- The row a `SELECT … WHERE task_run_id AND node_id` without an order returns first. -/
def selectForGate (t : ApprovalTables) (taskRunId nodeId : String) (choice : ℕ) :
    Option Approval :=
  let rows := approvalsOfGate t taskRunId nodeId
  rows[choice % rows.length]?

theorem mem_of_selectForGate {t : ApprovalTables} {taskRunId nodeId : String} {choice : ℕ}
    {row : Approval} (h : selectForGate t taskRunId nodeId choice = some row) :
    row ∈ approvalsOfGate t taskRunId nodeId := by
  rw [selectForGate] at h
  exact List.mem_of_getElem? h

/-- Only a gate without rows is found empty. -/
theorem approvalsOfGate_eq_nil {t : ApprovalTables} {taskRunId nodeId : String} {choice : ℕ}
    (h : selectForGate t taskRunId nodeId choice = none) :
    approvalsOfGate t taskRunId nodeId = [] := by
  rw [selectForGate, List.getElem?_eq_none_iff] at h
  by_contra hne
  exact absurd h (Nat.not_le.mpr (Nat.mod_lt _ (List.length_pos_of_ne_nil hne)))

/-- The row `create_approval` inserts. -/
def pendingRow (c : CreateApproval) : Approval where
  approvalId := c.approvalId
  taskRunId := c.taskRunId
  nodeId := c.nodeId
  tenantId := c.tenantId
  version := 0
  state := .pending
  requiredApprovers := c.requiredApprovers
  requestedAt := c.now
  requestedBy := c.requestedBy
  ticket := c.ticket

def createApproval (t : ApprovalTables) (c : CreateApproval) :
    Except StoreError (ApprovalTables × Approval) :=
  match selectForGate t c.taskRunId c.nodeId c.choice with
  -- the gate has its row already, whatever its state and its number of approvers
  | some existing => .ok (t, existing)
  | none =>
    match t.insertApproval (pendingRow c) with
    | none => .error .uniqueViolation
    | some t' => .ok (t', pendingRow c)

/-- Step 3 of the compare-and-set: the state after the decision with sequence number `seq`. -/
def nextApprovalState (decision : String) (required : ℤ) (seq : ℕ) (state : ApprovalState) :
    ApprovalState :=
  if decision = "reject" then .rejected
  else if required = 1 then .approved
  else if required = 2 ∧ seq = 1 then .firstApproved
  else if required = 2 ∧ 2 ≤ seq then .approved
  -- more than two approvers are not supported: the decision is counted, the state stays
  else state

/-- The `UPDATE approvals` of step 3. -/
def decideRow (c : DecisionCall) (state : ApprovalState) (row : Approval) : Approval :=
  { row with
    state := state
    decidedAt := some c.now
    decisionPayload := some ⟨c.decision, c.decidedBy, c.rationale⟩
    version := row.version + 1 }

@[simp] theorem decideRow_approvalId (c : DecisionCall) (state : ApprovalState) (row : Approval) :
    (decideRow c state row).approvalId = row.approvalId := rfl

/-- The entry that step 2 appends to the approver log. -/
def decisionEntry (t : ApprovalTables) (c : DecisionCall) : ApprovalDecision where
  decisionId := c.decisionId
  approvalId := c.approvalId
  decisionSeq := (t.log c.approvalId).length + 1
  decidedBy := c.decidedBy
  decidedAt := c.now
  decision := c.decision
  rationale := c.rationale
  identityTenant := c.identityTenantId

def recordApprovalDecision (t : ApprovalTables) (c : DecisionCall) :
    Except StoreError (ApprovalTables × DecisionOutcome) :=
  match t.approvals.find? c.approvalId with
  | none => .ok (t, .refused .notFound)
  | some row =>
    if row.state ∉ [ApprovalState.pending, .firstApproved] then
      .ok (t, .refused (.alreadyTerminal row.state))
    else if row.tenantId ≠ c.identityTenantId then .ok (t, .refused .crossTenant)
    else if c.decision ∉ ["approve", "reject"] then .ok (t, .refused .badDecision)
    else
      let newSeq := (t.log c.approvalId).length + 1
      match t.insertDecision (decisionEntry t c) with
      | none => .error .uniqueViolation
      | some t' =>
        let newState := nextApprovalState c.decision row.requiredApprovers newSeq row.state
        .ok (t'.updateApproval c.approvalId (decideRow c newState)
            (decideRow_approvalId c newState),
          .applied newState (row.version + 1) newSeq row.requiredApprovers)

/-! ## What the compare-and-set does -/

/-- The conditions under which a decision on `row` reaches the log. -/
structure Accepts (c : DecisionCall) (row : Approval) : Prop where
  isOpen : row.state = .pending ∨ row.state = .firstApproved
  tenant : row.tenantId = c.identityTenantId
  decision : c.decision = "approve" ∨ c.decision = "reject"

/-- The state `row` moves to when `c` is applied in `t`. -/
def stateAfter (t : ApprovalTables) (c : DecisionCall) (row : Approval) : ApprovalState :=
  nextApprovalState c.decision row.requiredApprovers ((t.log c.approvalId).length + 1) row.state

/-- `t'` is `t` with the decision `c` recorded on `row`. -/
structure Recorded (t : ApprovalTables) (c : DecisionCall) (row : Approval) (t' : ApprovalTables) :
    Prop where
  found : t.approvals.find? c.approvalId = some row
  accepts : Accepts c row
  find?_eq : ∀ a, t'.approvals.find? a
    = if a = c.approvalId then some (decideRow c (stateAfter t c row) row) else t.approvals.find? a
  log_eq : ∀ a, t'.log a = t.log a ++ if c.approvalId = a then [decisionEntry t c] else []

/-- Everything a call can do: refuse and change nothing, raise, or record the decision. -/
theorem recordApprovalDecision_cases (t : ApprovalTables) (c : DecisionCall) :
    (∃ reason, recordApprovalDecision t c = .ok (t, .refused reason)) ∨
    recordApprovalDecision t c = .error .uniqueViolation ∨
    ∃ row t', Recorded t c row t' ∧ recordApprovalDecision t c
      = .ok (t', .applied (stateAfter t c row) (row.version + 1)
          ((t.log c.approvalId).length + 1) row.requiredApprovers) := by
  rw [recordApprovalDecision]
  rcases hrow : t.approvals.find? c.approvalId with _ | row
  · exact Or.inl ⟨_, rfl⟩
  by_cases hopen : row.state ∉ [ApprovalState.pending, .firstApproved]
  · exact Or.inl ⟨.alreadyTerminal row.state, by simp only [if_pos hopen]⟩
  by_cases htenant : row.tenantId ≠ c.identityTenantId
  · exact Or.inl ⟨.crossTenant, by simp only [if_neg hopen, if_pos htenant]⟩
  by_cases hdecision : c.decision ∉ ["approve", "reject"]
  · refine Or.inl ⟨.badDecision, ?_⟩
    simp only [if_neg hopen, if_neg htenant, if_pos hdecision]
  simp only [if_neg hopen, if_neg htenant, if_neg hdecision]
  rcases hins : t.insertDecision (decisionEntry t c) with _ | t'
  · exact Or.inr (Or.inl rfl)
  refine Or.inr (Or.inr ⟨row, _, ⟨hrow, ⟨?_, ?_, ?_⟩, fun a ↦ ?_, fun a ↦ ?_⟩, rfl⟩)
  · simpa [or_iff_not_imp_left] using hopen
  · simpa using htenant
  · simpa [or_iff_not_imp_left] using hdecision
  · rw [ApprovalTables.find?_updateApproval, ApprovalTables.approvals_of_insertDecision hins]
    split
    · next ha => rw [ha, hrow]; rfl
    · rfl
  · exact ApprovalTables.log_of_insertDecision hins a

/-- A call that meets the conditions reaches the insertion into the log. -/
theorem recordApprovalDecision_of_accepts {t : ApprovalTables} {c : DecisionCall} {row : Approval}
    (hrow : t.approvals.find? c.approvalId = some row) (haccepts : Accepts c row) :
    recordApprovalDecision t c = match t.insertDecision (decisionEntry t c) with
      | none => .error .uniqueViolation
      | some t' => .ok (t'.updateApproval c.approvalId (decideRow c (stateAfter t c row))
            (decideRow_approvalId c (stateAfter t c row)),
          .applied (stateAfter t c row) (row.version + 1) ((t.log c.approvalId).length + 1)
            row.requiredApprovers) := by
  have hopen : ¬row.state ∉ [ApprovalState.pending, .firstApproved] := by
    simpa [or_iff_not_imp_left] using haccepts.isOpen
  have hdecision : ¬c.decision ∉ ["approve", "reject"] := by
    simpa [or_iff_not_imp_left] using haccepts.decision
  rw [recordApprovalDecision, hrow]
  simp only [if_neg hopen, if_neg (not_not_intro haccepts.tenant), if_neg hdecision]
  rfl

/-- Such a call is recorded, unless one of its keys is taken. -/
theorem exists_recorded {t : ApprovalTables} {c : DecisionCall} {row : Approval}
    (hrow : t.approvals.find? c.approvalId = some row) (haccepts : Accepts c row)
    (hid : t.decisions.find? c.decisionId = none)
    (hseq : ∀ e ∈ t.log c.approvalId, e.decisionSeq ≤ (t.log c.approvalId).length) :
    ∃ t', recordApprovalDecision t c = .ok (t', .applied (stateAfter t c row) (row.version + 1)
      ((t.log c.approvalId).length + 1) row.requiredApprovers) := by
  obtain ⟨t', hins⟩ := ApprovalTables.insertDecision_isSome (d := decisionEntry t c)
    (show (t.approvals.find? c.approvalId).isSome by rw [hrow]; rfl) hid fun e he ↦
      (Nat.lt_succ_of_le (hseq e he)).ne
  rw [recordApprovalDecision_of_accepts hrow haccepts, hins]
  exact ⟨_, rfl⟩

/-- Such a call is never refused. -/
theorem not_refused_of_accepts {t t' : ApprovalTables} {c : DecisionCall} {row : Approval}
    {reason : DecisionRefusal} (hrow : t.approvals.find? c.approvalId = some row)
    (haccepts : Accepts c row) : recordApprovalDecision t c ≠ .ok (t', .refused reason) := by
  rw [recordApprovalDecision_of_accepts hrow haccepts]
  cases t.insertDecision (decisionEntry t c) <;> exact nofun

/-! ## Calls as steps -/

/-- The tables after a call; a transaction that raises is rolled back. -/
def decideStep (t : ApprovalTables) (c : DecisionCall) : ApprovalTables :=
  match recordApprovalDecision t c with
  | .ok (t', _) => t'
  | .error _ => t

/-- The call reports that its decision was applied. -/
def applied (t : ApprovalTables) (c : DecisionCall) : Bool :=
  match recordApprovalDecision t c with
  | .ok (_, .applied ..) => true
  | _ => false

/-- A call changes nothing, or it records its decision and says so. -/
theorem decideStep_cases (t : ApprovalTables) (c : DecisionCall) :
    decideStep t c = t ∧ applied t c = false ∨
      applied t c = true ∧ ∃ row, Recorded t c row (decideStep t c) := by
  rcases recordApprovalDecision_cases t c with ⟨reason, h⟩ | h | ⟨row, t', hrec, h⟩
  · exact Or.inl ⟨by rw [decideStep, h], by rw [applied, h]⟩
  · exact Or.inl ⟨by rw [decideStep, h], by rw [applied, h]⟩
  · exact Or.inr ⟨by rw [applied, h], row, by rw [decideStep, h]; exact hrec⟩

end EventStore

end Orchestra
