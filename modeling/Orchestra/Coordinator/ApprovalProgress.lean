import Orchestra.Coordinator.ApprovalStore

/-!
# Runs of the approval state machine

A row is followed from its insertion through any sequence of calls, including calls for other rows,
refused calls and calls that raise.

`Progress` says what a state means in terms of the approver log. It is the invariant behind the
main results, and one decision moves it along (`Progress.next`). A state is worth what the log is
worth: with one or two required approvers `approved` stands for that many approvals and no
rejection, and with more the row is never approved.
-/

namespace Orchestra

open EventStore Transition

/-! ## What a state says about the log -/

/-- Every entry of the log is an approval. -/
def AllApprove (log : List ApprovalDecision) : Prop := ∀ d ∈ log, d.decision = "approve"

instance (log : List ApprovalDecision) : Decidable (AllApprove log) :=
  inferInstanceAs (Decidable (∀ d ∈ log, d.decision = "approve"))

/-- The state of a row with `n` required approvers, in terms of its log. -/
def Progress (n : ℤ) (log : List ApprovalDecision) : ApprovalState → Prop
  | .pending => AllApprove log ∧ (n = 1 ∨ n = 2 → log = [])
  | .firstApproved => n = 2 ∧ log.length = 1 ∧ AllApprove log
  | .approved => (n = 1 ∨ n = 2) ∧ (log.length : ℤ) = n ∧ AllApprove log
  | .rejected => ¬AllApprove log
  | .expired => False

theorem allApprove_concat {log : List ApprovalDecision} {d : ApprovalDecision} :
    AllApprove (log ++ [d]) ↔ AllApprove log ∧ d.decision = "approve" := by
  simp [AllApprove, or_imp, forall_and]

/-- One recorded decision moves the state as the log moves. -/
theorem Progress.next {n : ℤ} {log : List ApprovalDecision} {state : ApprovalState}
    (h : Progress n log state) (hopen : state = .pending ∨ state = .firstApproved)
    {d : ApprovalDecision} (hd : d.decision = "approve" ∨ d.decision = "reject") :
    Progress n (log ++ [d]) (nextApprovalState d.decision n (log.length + 1) state) := by
  rcases hd with hd | hd
  · rw [nextApprovalState, if_neg (by rw [hd]; decide)]
    rcases hopen with rfl | rfl
    · obtain ⟨hall, hnil⟩ := h
      have hall' : AllApprove (log ++ [d]) := allApprove_concat.mpr ⟨hall, hd⟩
      by_cases h1 : n = 1
      · rw [if_pos h1]
        refine ⟨Or.inl h1, ?_, hall'⟩
        rw [hnil (Or.inl h1), h1]
        rfl
      by_cases h2 : n = 2
      · rw [if_neg h1, if_pos ⟨h2, by rw [hnil (Or.inr h2)]; rfl⟩]
        refine ⟨h2, ?_, hall'⟩
        rw [hnil (Or.inr h2)]
        rfl
      · rw [if_neg h1, if_neg fun h ↦ h2 h.1, if_neg fun h ↦ h2 h.1]
        exact ⟨hall', fun h ↦ absurd h (by tauto)⟩
    · obtain ⟨hn, hlen, hall⟩ := h
      rw [hlen, if_neg (by omega), if_neg (by simp), if_pos ⟨hn, by omega⟩]
      exact ⟨Or.inr hn, by simp [hlen, hn], allApprove_concat.mpr ⟨hall, hd⟩⟩
  · rw [nextApprovalState, if_pos hd]
    intro hall
    have := (allApprove_concat.mp hall).2
    rw [hd] at this
    exact absurd this (by decide)

/-- A log of `n` approvals and nothing else means that the row is approved, for one or two. -/
theorem Progress.approved_of_full {n : ℤ} {log : List ApprovalDecision} {state : ApprovalState}
    (h : Progress n log state) (hn : n = 1 ∨ n = 2) (hlen : (log.length : ℤ) = n)
    (hall : AllApprove log) : state = .approved := by
  cases state with
  | approved => rfl
  | pending =>
    -- the log of a pending row is empty
    rw [h.2 hn, List.length_nil] at hlen
    omega
  | firstApproved =>
    obtain ⟨htwo, hone, -⟩ := h
    omega
  | rejected => exact absurd hall h
  | expired => exact h.elim

/-! ## Following a row -/

/-- The row `created`, as it stands after some calls: its fixed columns, and what its version, state
and log have to do with each other. -/
structure Tracks (created : Approval) (t : ApprovalTables) (row : Approval) : Prop where
  found : t.approvals.find? created.approvalId = some row
  tenant : row.tenantId = created.tenantId
  required : row.requiredApprovers = created.requiredApprovers
  version : row.version = (t.log created.approvalId).length
  progress : Progress created.requiredApprovers (t.log created.approvalId) row.state
  identities : ∀ d ∈ t.log created.approvalId, d.identityTenant = created.tenantId
  seq_le : ∀ d ∈ t.log created.approvalId, d.decisionSeq ≤ (t.log created.approvalId).length

/-- A freshly inserted row. -/
theorem tracks_of_createApproval {t t₀ : ApprovalTables} {c : CreateApproval} {row : Approval}
    (hcreate : createApproval t c = .ok (t₀, row))
    (hnew : t.approvals.find? row.approvalId = none) : Tracks row t₀ row ∧ row.version = 0 := by
  rw [createApproval] at hcreate
  split at hcreate
  · next existing hsel =>
    cases hcreate
    have hmem : row ∈ approvalsOfGate t c.taskRunId c.nodeId := mem_of_selectForGate hsel
    rw [KeyedTable.find?_of_mem (List.mem_of_mem_filter hmem)] at hnew
    cases hnew
  · split at hcreate
    · cases hcreate
    · next t' hins =>
      cases hcreate
      have hlog : t₀.log (pendingRow c).approvalId = [] := by
        rw [ApprovalTables.log, ApprovalTables.decisions_of_insertApproval hins]
        exact ApprovalTables.log_eq_nil hnew
      refine ⟨⟨?_, rfl, rfl, ?_, ?_, ?_, ?_⟩, rfl⟩
      · rw [ApprovalTables.find?_of_insertApproval hins, if_pos rfl]
      · rw [hlog]; rfl
      · rw [hlog]; exact ⟨fun d hd ↦ absurd hd List.not_mem_nil, fun _ ↦ rfl⟩
      · rw [hlog]; exact fun d hd ↦ absurd hd List.not_mem_nil
      · rw [hlog]; exact fun d hd ↦ absurd hd List.not_mem_nil

section Step

variable {created row : Approval} {t : ApprovalTables} {c : DecisionCall}

/-- A call that records a decision on another row. -/
private theorem Tracks.of_ne {t' : ApprovalTables} {other : Approval} (h : Tracks created t row)
    (hrec : Recorded t c other t') (hne : created.approvalId ≠ c.approvalId) :
    Tracks created t' row := by
  have hlog : t'.log created.approvalId = t.log created.approvalId := by
    rw [hrec.log_eq, if_neg (Ne.symm hne), List.append_nil]
  refine ⟨by rw [hrec.find?_eq, if_neg hne]; exact h.found, h.tenant, h.required, ?_, ?_, ?_, ?_⟩
  · rw [hlog]; exact h.version
  · rw [hlog]; exact h.progress
  · rw [hlog]; exact h.identities
  · rw [hlog]; exact h.seq_le

/-- A call that records a decision on the row itself. -/
private theorem Tracks.of_recorded {t' : ApprovalTables} (h : Tracks created t row)
    (hrec : Recorded t c row t') (heq : created.approvalId = c.approvalId) :
    Tracks created t' (decideRow c (stateAfter t c row) row) := by
  have hlog : t'.log created.approvalId = t.log created.approvalId ++ [decisionEntry t c] := by
    rw [hrec.log_eq, if_pos heq.symm]
  have hlen : (t'.log created.approvalId).length = (t.log created.approvalId).length + 1 := by
    rw [hlog, List.length_append, List.length_singleton]
  refine ⟨by rw [hrec.find?_eq, if_pos heq], h.tenant, h.required, ?_, ?_, fun d hd ↦ ?_,
    fun d hd ↦ ?_⟩
  · rw [hlen, ← h.version]; rfl
  · rw [hlog, decideRow, stateAfter, ← heq, h.required]
    exact h.progress.next hrec.accepts.isOpen (d := decisionEntry t c) hrec.accepts.decision
  · rw [hlog] at hd
    rcases List.mem_append.mp hd with hd | hd
    · exact h.identities d hd
    · rw [List.mem_singleton.mp hd, ← h.tenant]
      exact hrec.accepts.tenant.symm
  · rw [hlen]
    rw [hlog] at hd
    rcases List.mem_append.mp hd with hd | hd
    · exact Nat.le_succ_of_le (h.seq_le d hd)
    · rw [List.mem_singleton.mp hd, decisionEntry, heq]

/-- What a call leaves of the row: itself when the call was for another row or was not applied,
and otherwise the decided row. -/
theorem Tracks.step (h : Tracks created t row) (c : DecisionCall) :
    (¬(applied t c = true ∧ c.approvalId = created.approvalId) ∧
        Tracks created (decideStep t c) row) ∨
      (applied t c = true ∧ c.approvalId = created.approvalId) ∧ Accepts c row ∧
        Tracks created (decideStep t c) (decideRow c (stateAfter t c row) row) := by
  rcases decideStep_cases t c with ⟨hsame, hnot⟩ | ⟨happ, other, hrec⟩
  · refine Or.inl ⟨fun happ ↦ ?_, by rwa [hsame]⟩
    rw [hnot] at happ
    exact absurd happ.1 Bool.false_ne_true
  by_cases heq : created.approvalId = c.approvalId
  · have hrow : other = row := by
      have := hrec.found
      rw [← heq, h.found] at this
      exact (Option.some.inj this).symm
    subst hrow
    exact Or.inr ⟨⟨happ, heq.symm⟩, hrec.accepts, h.of_recorded hrec heq⟩
  · exact Or.inl ⟨fun hh ↦ heq hh.2.symm, h.of_ne hrec heq⟩

end Step

/-! ## Runs -/

/-- The number of calls of a run that applied a decision to the row. -/
def appliedCount (approvalId : String) : ApprovalTables → List DecisionCall → ℕ
  | _, [] => 0
  | t, c :: cs =>
    (if applied t c = true ∧ c.approvalId = approvalId then 1 else 0) +
      appliedCount approvalId (decideStep t c) cs

/-- The row is tracked along every run, and its version counts the applied decisions. -/
theorem Tracks.run {created row : Approval} {t : ApprovalTables} (h : Tracks created t row)
    (calls : List DecisionCall) :
    ∃ row', Tracks created (run decideStep t calls) row' ∧
      row'.version = row.version + appliedCount created.approvalId t calls := by
  induction calls generalizing t row with
  | nil => exact ⟨row, h, rfl⟩
  | cons c cs ih =>
    rw [run_cons, appliedCount]
    rcases h.step c with ⟨hnot, hstep⟩ | ⟨happ, -, hstep⟩
    · obtain ⟨row', hrow', hver⟩ := ih hstep
      exact ⟨row', hrow', by rw [hver, if_neg hnot]; omega⟩
    · obtain ⟨row', hrow', hver⟩ := ih hstep
      refine ⟨row', hrow', ?_⟩
      rw [hver, if_pos happ]
      change row.version + 1 + _ = _
      omega

/-- A terminal row stays what it is, whatever is called. -/
theorem find?_of_terminal {t : ApprovalTables} {a : String} {row : Approval}
    (hrow : t.approvals.find? a = some row) (hterm : row.state ∉ [ApprovalState.pending,
      .firstApproved]) (calls : List DecisionCall) :
    (run decideStep t calls).approvals.find? a = some row := by
  refine run_invariant (I := fun t : ApprovalTables ↦ t.approvals.find? a = some row)
    (fun s c hs ↦ ?_) hrow calls
  rcases decideStep_cases s c with ⟨hsame, -⟩ | ⟨-, other, hrec⟩
  · rw [hsame]; exact hs
  · rw [hrec.find?_eq, if_neg, hs]
    rintro rfl
    obtain rfl := Option.some.inj (hs.symm.trans hrec.found)
    exact hterm (by simpa [or_iff_not_imp_left] using hrec.accepts.isOpen)

/-! ## N-person approval -/

/-- A gate that asks for `n` approvers, created in an empty store. -/
def sampleGate (n : ℤ) : CreateApproval where
  taskRunId := "task-1"
  nodeId := "human_approval"
  tenantId := "tenant:a"
  requestedBy := "orchestra"
  requiredApprovers := n
  approvalId := "apv:1"
  now := 0

def sampleTables (n : ℤ) : ApprovalTables :=
  match createApproval .empty (sampleGate n) with
  | .ok (t, _) => t
  | .error _ => .empty

/-- An approval of the sample gate, the `i`-th call. -/
def sampleApproval (i : ℕ) (decidedBy : String) : DecisionCall where
  approvalId := "apv:1"
  decision := "approve"
  decidedBy := decidedBy
  identityTenantId := "tenant:a"
  decisionId := "apvd:" ++ toString i
  now := i

/-- **What the approval workflow guarantees of a row, after any sequence of calls.** With `n` the
number of required approvers:

* the row is approved only when `n` is one or two, exactly `n` decisions are in its log, and all of
  them are approvals under the row's own tenant, so nobody rejected it;
* for such `n` it is approved as soon as the log holds approvals by `n` different people and nothing
  else, and an open row accepts every decision of its tenant that comes with a fresh identifier;
* its version is the number of decisions that were applied;
* once it is terminal it never changes. -/
theorem approval_workflow {t t₀ : ApprovalTables} {c : CreateApproval} {created : Approval}
    (hcreate : createApproval t c = .ok (t₀, created))
    (hnew : t.approvals.find? created.approvalId = none) (calls : List DecisionCall) :
    ∃ row, (run decideStep t₀ calls).approvals.find? created.approvalId = some row ∧
      (row.state = .approved → (created.requiredApprovers = 1 ∨ created.requiredApprovers = 2) ∧
        (((run decideStep t₀ calls).log created.approvalId).length : ℤ)
          = created.requiredApprovers ∧
        ∀ d ∈ (run decideStep t₀ calls).log created.approvalId,
          d.decision = "approve" ∧ d.identityTenant = created.tenantId) ∧
      (created.requiredApprovers = 1 ∨ created.requiredApprovers = 2 →
        (((run decideStep t₀ calls).log created.approvalId).length : ℤ)
          = created.requiredApprovers →
        AllApprove ((run decideStep t₀ calls).log created.approvalId) →
        (((run decideStep t₀ calls).log created.approvalId).map ApprovalDecision.decidedBy).Nodup →
        row.state = .approved) ∧
      (∀ d : DecisionCall, d.approvalId = created.approvalId → Accepts d row →
        (run decideStep t₀ calls).decisions.find? d.decisionId = none →
        applied (run decideStep t₀ calls) d = true) ∧
      (row.version = ((run decideStep t₀ calls).log created.approvalId).length ∧
        row.version = appliedCount created.approvalId t₀ calls) ∧
      (row.state ∉ [ApprovalState.pending, .firstApproved] → ∀ more,
        (run decideStep t₀ (calls ++ more)).approvals.find? created.approvalId = some row) := by
  obtain ⟨htracks, hzero⟩ := tracks_of_createApproval hcreate hnew
  obtain ⟨row, hrow, hver⟩ := htracks.run calls
  refine ⟨row, hrow.found, fun hstate ↦ ?_, fun hn hlen hall _ ↦ ?_, fun d hd hacc hid ↦ ?_,
    ⟨hrow.version, by rw [hver, hzero, Nat.zero_add]⟩, fun hterm more ↦ ?_⟩
  · have hprog := hrow.progress
    rw [hstate] at hprog
    exact ⟨hprog.1, hprog.2.1, fun d hd ↦ ⟨hprog.2.2 d hd, hrow.identities d hd⟩⟩
  · exact hrow.progress.approved_of_full hn hlen hall
  · obtain ⟨t', ht'⟩ := exists_recorded (by rw [hd]; exact hrow.found) hacc hid
      (by rw [hd]; exact hrow.seq_le)
    rw [applied, ht']
  · rw [run_append]
    exact find?_of_terminal hrow.found hterm more

/-- Two people approve a row that asks for two. -/
theorem approval_workflow_two_people : ∃ row,
    (run decideStep (sampleTables 2)
      [sampleApproval 1 "alice", sampleApproval 2 "bob"]).approvals.find? "apv:1" = some row ∧
    row.state = .approved ∧ row.version = 2 := by
  have hcreate : createApproval .empty (sampleGate 2)
      = .ok (sampleTables 2, pendingRow (sampleGate 2)) := rfl
  obtain ⟨row, hfind, -, happrove, -, ⟨hver, -⟩, -⟩ := approval_workflow hcreate rfl
    [sampleApproval 1 "alice", sampleApproval 2 "bob"]
  have happroved := happrove (Or.inr rfl) (by decide) (by decide) (by decide)
  exact ⟨row, hfind, happroved, by rw [hver]; decide⟩

/-- One person who signs twice approves a row that asks for two, and three people do not approve a
row that asks for three. -/
theorem approval_of_same_identity_twice :
    (((run decideStep (sampleTables 2)
        [sampleApproval 1 "alice", sampleApproval 2 "alice"]).approvals.find? "apv:1").map
          Approval.state = some .approved ∧
      ((run decideStep (sampleTables 2)
        [sampleApproval 1 "alice", sampleApproval 2 "alice"]).log "apv:1").map
          ApprovalDecision.decidedBy = ["alice", "alice"]) ∧
    (((run decideStep (sampleTables 3)
        [sampleApproval 1 "alice", sampleApproval 2 "bob", sampleApproval 3 "carol"]).approvals.find?
          "apv:1").map Approval.state = some .pending ∧
      ((run decideStep (sampleTables 3)
        [sampleApproval 1 "alice", sampleApproval 2 "bob", sampleApproval 3 "carol"]).log
          "apv:1").map ApprovalDecision.decidedBy = ["alice", "bob", "carol"]) := by
  decide

end Orchestra
