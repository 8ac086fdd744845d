import Orchestra.Coordinator.GateInvariants

/-!
# What releases the gate

A run goes on to `write_sink` when the payload it wakes up with says `approve`. On the persistent
path `decideApproval` writes that payload, and sets the event, whenever its decision is applied: it
does not look at the state the row is left in. So the first of two approvals releases the gate, and
so does any approval of a row with more than two approvers.

The gate is sound in the runs where this does not happen: every approval that `decideApproval`
applies is the one that completes its row (`Completes`), and the handler gets its row. Then a run
that has gone on to `write_sink` has a row that is approved, by as many approvals as it requires
(`writeSink_approved`).
-/

namespace Orchestra

open EventStore Transition Coordinator

/-! ## The condition -/

/-- An approval of the row would be its last: one is required, or two and there is one already. -/
def Completes (t : ApprovalTables) (row : Approval) : Prop :=
  row.requiredApprovers = 1 ∨ row.requiredApprovers = 2 ∧ t.log row.approvalId ≠ []

/-- `create_for_node` gives the handler a row: it does not raise, and the gate has a row or the
identifier of the new one is free. -/
def GetsRow (t : ApprovalTables) (env : HandlerEnv) (taskRunId : String) : Prop :=
  env.createRaises = false ∧ (approvalsOfGate t taskRunId humanApproval ≠ [] ∨
    t.approvals.find? (newApprovalId env.rowId) = none)

namespace GateSystem

/-- The condition on a step: the handler of a coordinator with a service and a tenant gets its row,
and an approval that `decide_approval` is able to apply completes its row. -/
def ReleasesApproved (s : GateSystem) (a : GateAction) : Prop :=
  (∀ c co env taskRunId merge, a = .enterGate c env taskRunId merge → s.live c = some co →
    co.approvalTenant.isSome → GetsRow s.approvals env taskRunId) ∧
  ∀ q co i h tenantId approvalId row, a.request = some q → s.live q.c = some co →
    co.registered q.key = some (i, h) → co.persistentPath h.bucket = some (tenantId, approvalId) →
    s.approvals.approvals.find? approvalId = some row →
    Accepts (serviceCall q.env approvalId tenantId q.decision q.decidedBy q.rationale) row →
    q.decision = "approve" → Completes s.approvals row

/-- A step that neither starts a handler nor decides. -/
theorem releasesApproved_of_other {s : GateSystem} {a : GateAction}
    (henter : ∀ c env taskRunId merge, a ≠ .enterGate c env taskRunId merge)
    (hrequest : a.request = none) : s.ReleasesApproved a := by
  refine ⟨fun c _ env taskRunId merge heq ↦ absurd heq (henter c env taskRunId merge), ?_⟩
  intro q _ _ _ _ _ _ hq
  rw [hrequest] at hq
  cases hq

end GateSystem

theorem createForNode_ne_none {t : ApprovalTables} {env : HandlerEnv} {taskRunId : String}
    (h : GetsRow t env taskRunId) (tenantId : String) :
    createForNode env t tenantId taskRunId humanApproval ≠ none := by
  obtain ⟨hraises, hrow⟩ := h
  have hok : ∃ created, createApproval t (nodeApproval env tenantId taskRunId humanApproval)
      = .ok created := by
    rw [createApproval]
    split
    · exact ⟨_, rfl⟩
    · next hsel =>
      -- no row was selected, so the identifier of the new one is free
      have hnil : approvalsOfGate t taskRunId humanApproval = [] := approvalsOfGate_eq_nil hsel
      obtain ⟨t', ht'⟩ := ApprovalTables.exists_insertApproval
        (pendingRow (nodeApproval env tenantId taskRunId humanApproval))
        (hrow.resolve_left (not_not_intro hnil))
      rw [ht']
      exact ⟨_, rfl⟩
  obtain ⟨created, hcreated⟩ := hok
  rw [createForNode, hraises, hcreated]
  exact Option.some_ne_none _

/-- An approval that completes its row leaves it approved. -/
theorem stateAfter_of_completes {t : ApprovalTables} {c : DecisionCall} {row : Approval}
    (hrow : row.approvalId = c.approvalId) (hdec : c.decision = "approve") (h : Completes t row) :
    stateAfter t c row = .approved := by
  rw [stateAfter, nextApprovalState, if_neg (by rw [hdec]; decide)]
  rcases h with h1 | ⟨h2, hlog⟩
  · rw [if_pos h1]
  · rw [hrow] at hlog
    have hpos := List.length_pos_of_ne_nil hlog
    rw [if_neg (by omega), if_neg (by omega), if_pos ⟨h2, by omega⟩]

/-! ## The invariant -/

/-- Where a gate is persistent, a payload that says `approve` belongs to an approved row, and so
does a run that has gone on. -/
structure SoundGate (t : ApprovalTables) (co : Coordinator) : Prop where
  hasRow : co.approvalTenant.isSome → ∀ (i : ℕ) (h : Handle), co.handles[i]? = some h →
    h.bucket.approvalId.isSome
  approved : ∀ (i : ℕ) (h : Handle), co.handles[i]? = some h → ∀ a row,
    h.bucket.approvalId = some a → t.approvals.find? a = some row →
    h.bucket.decision = some "approve" → row.state = .approved
  writes : co.approvalTenant.isSome → ∀ r ∈ co.runs, ∀ b, r.phase = .writeSink b →
    ∃ a row, b.approvalId = some a ∧ t.approvals.find? a = some row ∧
      (row.taskRunId, row.nodeId) = (r.taskRunId, humanApproval) ∧ row.state = .approved

namespace SoundGate

variable {t t' : ApprovalTables} {co : Coordinator}

theorem mono (h : SoundGate t co) (hok : CoordinatorOk t co) (hadv : Advances t t') :
    SoundGate t' co := by
  refine ⟨h.hasRow, fun i handle hi a row ha hrow hdec ↦ ?_, fun hten r hr b hphase ↦ ?_⟩
  · obtain ⟨-, row₀, hrow₀, -⟩ := hok.rows i handle hi a ha
    have happ := h.approved i handle hi a row₀ ha hrow₀ hdec
    obtain rfl := Option.some.inj
      (hrow.symm.trans (hadv.find?_of_decided hrow₀ (Or.inl happ)))
    exact happ
  · obtain ⟨a, row, ha, hrow, hkey, happ⟩ := h.writes hten r hr b hphase
    exact ⟨a, row, ha, hadv.find?_of_decided hrow (Or.inl happ), hkey, happ⟩

/-- A new event without a decision, that names a row if the coordinator is on the persistent
path. -/
theorem register (h : SoundGate t co) {handle : Handle} (hnone : handle.bucket.decision = none)
    (hrow : co.approvalTenant.isSome → handle.bucket.approvalId.isSome) :
    SoundGate t (co.register handle) := by
  refine ⟨fun hten i h' hi ↦ ?_, fun i h' hi a row ha hr hdec ↦ ?_, h.writes⟩
  · rw [getElem?_register] at hi
    split at hi
    · obtain rfl := Option.some.inj hi
      exact hrow hten
    · exact h.hasRow hten i h' hi
  · rw [getElem?_register] at hi
    split at hi
    · obtain rfl := Option.some.inj hi
      rw [hnone] at hdec
      cases hdec
    · exact h.approved i h' hi a row ha hr hdec

/-- A decision written into an event. -/
theorem setHandle (h : SoundGate t co) {i : ℕ} {old new : Handle}
    (hi : co.handles[i]? = some old) (hid : new.bucket.approvalId = old.bucket.approvalId)
    (happ : ∀ a row, new.bucket.approvalId = some a → t.approvals.find? a = some row →
      new.bucket.decision = some "approve" → row.state = .approved) :
    SoundGate t (co.setHandle i new) := by
  refine ⟨fun hten j h' hj ↦ ?_, fun j h' hj a row ha hr hdec ↦ ?_, h.writes⟩
  · rw [getElem?_setHandle hi] at hj
    split at hj
    · obtain rfl := Option.some.inj hj
      rw [hid]
      exact h.hasRow hten i old hi
    · exact h.hasRow hten j h' hj
  · rw [getElem?_setHandle hi] at hj
    split at hj
    · obtain rfl := Option.some.inj hj
      exact happ a row ha hr hdec
    · exact h.approved j h' hj a row ha hr hdec

theorem start (t : ApprovalTables) (tenantId : Option String) (service raises : Bool) :
    SoundGate t (.start t tenantId service raises) := by
  refine start_induction t tenantId service raises
    ⟨fun _ i h hi ↦ by simp at hi, fun i h hi ↦ by simp at hi,
      fun _ r hr ↦ absurd hr List.not_mem_nil⟩ ?_
  exact fun co row hco _ _ _ ↦ hco.register rfl fun _ ↦ rfl

/-- The step lemma of the handler. -/
theorem enterGate (h : SoundGate t co) (hok : CoordinatorOk t co) (env : HandlerEnv)
    (taskRunId : String) (merge : List (String × Json))
    (hgets : co.approvalTenant.isSome → GetsRow t env taskRunId) :
    SoundGate (co.enterGate env t taskRunId merge).1 (co.enterGate env t taskRunId merge).2 := by
  obtain ⟨handle, phase, hadv, heq, -, hnone, -, hphase, -, hnorow⟩ :=
    co.enterGate_cases env t taskRunId merge
  have hreg := (h.mono hok hadv).register hnone fun hten ↦ by
    rw [Option.isSome_iff_ne_none]
    intro hid
    obtain ⟨tenantId, htenant⟩ := Option.isSome_iff_exists.mp hten
    exact createForNode_ne_none (hgets hten) tenantId (hnorow hid tenantId htenant)
  rw [heq]
  refine ⟨hreg.hasRow, hreg.approved, fun hten r hr b hwrite ↦ ?_⟩
  rcases List.mem_append.mp hr with hold | hnew
  · exact hreg.writes hten r hold b hwrite
  · obtain rfl := List.mem_singleton.mp hnew
    rcases hphase with rfl | rfl <;> cases hwrite

/-- The step lemma of a run that continues. -/
theorem resume (h : SoundGate t co) (hok : CoordinatorOk t co) (i : ℕ) (raises : Bool) :
    SoundGate t (co.resume i raises) := by
  rcases co.resume_cases i raises with heq | ⟨r, b, hwakes, heq⟩
  · rwa [heq]
  · rw [heq]
    refine ⟨h.hasRow, h.approved, fun hten r' hr' b' hwrite ↦ ?_⟩
    rcases List.mem_or_eq_of_mem_set hr' with hold | rfl
    · exact h.writes hten r' hold b' hwrite
    -- the payload it goes on with says `approve`, so its row is approved
    · obtain ⟨hrun, j, hwait, hhandle⟩ := wakes_eq_some hwakes
      rw [afterGate] at hwrite
      split_ifs at hwrite with hraises hdec
      cases hwrite
      obtain ⟨a, ha⟩ := Option.isSome_iff_exists.mp (h.hasRow hten j _ hhandle)
      obtain ⟨-, row, hrow, hkey⟩ := hok.rows j _ hhandle a ha
      obtain ⟨h', hh', hkey'⟩ := hok.waiting r (List.mem_of_getElem? hrun) j hwait
      obtain rfl := Option.some.inj (hhandle.symm.trans hh')
      exact ⟨a, row, ha, hrow, hkey.trans hkey', h.approved j _ hhandle a row ha hrow hdec⟩

end SoundGate

/-- The step lemma of a decision. -/
theorem SoundGate.call {t : ApprovalTables} {co : Coordinator} (h : SoundGate t co)
    (hok : CoordinatorOk t co) (htables : TablesOk t) (q : DecisionRequest)
    (hcomplete : ∀ i h tenantId approvalId row, co.registered q.key = some (i, h) →
      co.persistentPath h.bucket = some (tenantId, approvalId) →
      t.approvals.find? approvalId = some row →
      Accepts (serviceCall q.env approvalId tenantId q.decision q.decidedBy q.rationale) row →
      q.decision = "approve" → Completes t row) :
    SoundGate (q.call t co).1 (q.call t co).2.1 := by
  have hmono := h.mono hok (GateSystem.advances_call q t co)
  rcases call_cases q t co with
    ⟨-, heq, -⟩ | ⟨i, old, tenantId, approvalId, row, hreg, hpath, hrec, heq, -⟩ |
      ⟨i, old, isSet, hreg, hpath, -, heq, -⟩
  · rw [heq]
    exact hmono
  · have hold := (registered_eq_some hreg).2
    have hid := (persistentPath_eq_some hpath).2
    rw [heq]
    refine hmono.setHandle hold rfl fun a row' ha hrow' hdec ↦ ?_
    obtain rfl := Option.some.inj (hid.symm.trans ha)
    have hdec' : q.decision = "approve" := Option.some.inj hdec
    -- the approval that was applied is the last one its row needs
    have hcomp := hcomplete i old tenantId approvalId row hreg hpath hrec.found hrec.accepts hdec'
    have hafter : (q.call t co).1.approvals.find? approvalId = some (decideRow _ _ row) :=
      (hrec.find?_eq approvalId).trans (if_pos rfl)
    obtain rfl := Option.some.inj (hrow'.symm.trans hafter)
    exact stateAfter_of_completes (KeyedTable.key_of_find? hrec.found) hdec' hcomp
  · have hold := (registered_eq_some hreg).2
    rw [heq]
    refine hmono.setHandle hold rfl fun a _ ha _ _ ↦ ?_
    -- a gate in memory names no row
    have hnone := hok.approvalId_eq_none htables hold hpath
    exact absurd (hnone.symm.trans ha) nofun

/-! ## Runs -/

namespace GateSystem

/-- The wiring and the soundness of every gate. -/
def SoundSystem (s : GateSystem) : Prop := s.Wired ∧ s.EachLive fun _ ↦ SoundGate

theorem SoundSystem.step {s : GateSystem} {a : GateAction} (h : s.SoundSystem)
    (ha : s.ReleasesApproved a) : (s.step a).SoundSystem := by
  obtain ⟨hwired, hsound⟩ := h
  have hboth : s.EachLive fun _ t co ↦ CoordinatorOk t co ∧ SoundGate t co :=
    fun c co hco ↦ ⟨hwired.coordinators c co hco, hsound c co hco⟩
  refine ⟨hwired.step a, eachLive_step hboth ?_ ?_ ?_ ?_ ?_⟩
  · exact fun c t co hadv hco ↦ hco.2.mono hco.1 hadv
  · exact fun tenantId service raises ↦ .start s.approvals tenantId service raises
  · exact fun c co env taskRunId merge heq hlive hco ↦
      hco.2.enterGate hco.1 env taskRunId merge (ha.1 c co env taskRunId merge heq hlive)
  · exact fun _ _ i raises _ _ hco ↦ hco.2.resume hco.1 i raises
  · exact fun q co hq hlive hco ↦ hco.2.call hco.1 hwired.tables q
      fun i h tenantId approvalId row ↦ ha.2 q co i h tenantId approvalId row hq hlive

theorem soundSystem_run {as : List GateAction} (h : AllSteps step ReleasesApproved {} as) :
    (run step {} as).SoundSystem :=
  run_induction (fun _ _ hs ha ↦ hs.step ha)
    ⟨wired_init, eachLive_init _⟩ h

/-- **Soundness of the gate.** In a run whose steps release only completed approvals, whenever a
run of a coordinator with a service and a tenant has gone on to `write_sink`, the row that its
payload names is the row of its gate and is approved: it has as many decisions as it requires, and
all of them approve. -/
theorem writeSink_approved {as : List GateAction} (h : AllSteps step ReleasesApproved {} as)
    {c : ℕ} {co : Coordinator} (hco : (run step {} as).live c = some co)
    (hten : co.approvalTenant.isSome) {r : GateRun} (hr : r ∈ co.runs) {b : Bucket}
    (hphase : r.phase = .writeSink b) :
    ∃ row, b.approvalId = some row.approvalId ∧
      (run step {} as).approvals.approvals.find? row.approvalId = some row ∧
      row.taskRunId = r.taskRunId ∧ row.nodeId = humanApproval ∧ row.state = .approved ∧
      (((run step {} as).approvals.log row.approvalId).length : ℤ) = row.requiredApprovers ∧
      AllApprove ((run step {} as).approvals.log row.approvalId) := by
  obtain ⟨hwired, hsound⟩ := soundSystem_run h
  obtain ⟨a, row, ha, hrow, hkey, happ⟩ := (hsound c co hco).writes hten r hr b hphase
  obtain rfl := KeyedTable.key_of_find? hrow
  obtain ⟨htask, hnode⟩ := Prod.mk.inj hkey
  have hprog := (hwired.tables _ row hrow).progress
  rw [happ] at hprog
  exact ⟨row, ha, hrow, htask, hnode, happ, hprog.2.1, hprog.2.2⟩

/-! ### Two runs -/

/-- A single approver approves, and the run goes on. -/
def singleApproverRun : List GateAction :=
  [.start (some "tenant:demo") true false,
    .enterGate 0 sampleHandlerEnv "task-1" [],
    .decide 0 (sampleDecideEnv "d1") sampleGate "approve" "alice" "",
    .resume 0 0 false]

theorem writeSink_approved_singleApprover : ∃ row : Approval,
    (run step {} singleApproverRun).approvals.approvals.find? row.approvalId = some row ∧
      row.taskRunId = "task-1" ∧ row.state = .approved := by
  have hok : AllSteps step ReleasesApproved {} singleApproverRun := by
    refine ⟨releasesApproved_of_other nofun rfl, ⟨fun c co env taskRunId merge h _ _ ↦ ?_, ?_⟩,
      ⟨nofun, fun q co i h tenantId approvalId row _ _ _ _ hrow _ _ ↦ ?_⟩,
      releasesApproved_of_other nofun rfl, trivial⟩
    · cases h
      exact ⟨rfl, Or.inr rfl⟩
    · intro q _ _ _ _ _ _ hq
      cases hq
    · obtain rfl := List.mem_singleton.mp (KeyedTable.mem_of_find? hrow)
      exact Or.inl rfl
  obtain ⟨row, -, hrow, htask, -, happ, -⟩ := writeSink_approved hok (c := 0) rfl rfl
    (List.mem_singleton.mpr rfl) rfl
  exact ⟨row, hrow, htask, happ⟩

/-- A row with two approvers is created before the run reaches the gate, and one of them
approves. -/
def firstApprovalRun : List GateAction :=
  [.createForNode ⟨"0", by decide⟩
      { taskRunId := "task-1", nodeId := humanApproval, tenantId := "tenant:demo",
        requestedBy := "ops", requiredApprovers := 2, approvalId := "", now := 0 },
    .start (some "tenant:demo") true false,
    .enterGate 0 sampleHandlerEnv "task-1" [],
    .decide 0 (sampleDecideEnv "d1") sampleGate "approve" "alice" "",
    .resume 0 0 false]

/-- The run has gone on to `write_sink` while its row is first-approved. -/
theorem writeSink_first_approved :
    ¬∀ (as : List GateAction) (c : ℕ) (co : Coordinator) (r : GateRun) (b : Bucket) (a : String)
      (row : Approval), (run step {} as).live c = some co → co.approvalTenant.isSome →
      r ∈ co.runs → r.phase = .writeSink b → b.approvalId = some a →
      (run step {} as).approvals.approvals.find? a = some row → row.state = .approved := by
  intro h
  have happ := h firstApprovalRun 0 _ _ _ _ _ rfl rfl (List.mem_singleton.mpr rfl) rfl rfl rfl
  cases happ

end GateSystem

end Orchestra
