import Orchestra.Coordinator.GateInvariants

/-!
# Which decisions wake a handler

A decision lives in two places: the row in the database and the event with its payload in one
process. `decideApproval` updates both for the event that is registered for the gate with the
coordinator it is called on. A decision that reaches the row in any other way, through another
coordinator or through the approval service, leaves the event as it is; waking other processes is
not part of the design.

What the design does give is shown here: a handler whose row was decided through its own
coordinator, while its event was the registered one, finds its event set and the row's decision in
its payload, at every later point of every run (`woken_of_settled`).
-/

namespace Orchestra

open EventStore Transition Coordinator

/-- The event is set, and its payload shows the decision of its row, which is closed. -/
def Woken (t : ApprovalTables) (co : Coordinator) (i : ℕ) (approvalId : String) : Prop :=
  ∃ (h : Handle) (row : Approval), co.handles[i]? = some h ∧ h.isSet = true ∧
    h.bucket.approvalId = some approvalId ∧ t.approvals.find? approvalId = some row ∧
    row.Decided ∧ h.bucket.decision = row.decision

namespace Woken

variable {t t' : ApprovalTables} {co : Coordinator} {i : ℕ} {a : String}

theorem mono (h : Woken t co i a) (hadv : Advances t t') : Woken t' co i a := by
  obtain ⟨handle, row, hi, hset, hid, hrow, hdec, heq⟩ := h
  exact ⟨handle, row, hi, hset, hid, hadv.find?_of_decided hrow hdec, hdec, heq⟩

theorem enterGate (h : Woken t co i a) (env : HandlerEnv) (taskRunId : String)
    (merge : List (String × Json)) :
    Woken (co.enterGate env t taskRunId merge).1 (co.enterGate env t taskRunId merge).2 i a := by
  obtain ⟨handle, phase, hadv, heq, -⟩ := co.enterGate_cases env t taskRunId merge
  obtain ⟨h', row, hi, hrest⟩ := h.mono hadv
  rw [heq]
  exact ⟨h', row, getElem?_register_of_some hi, hrest⟩

theorem resume (h : Woken t co i a) (j : ℕ) (raises : Bool) : Woken t (co.resume j raises) i a := by
  rcases co.resume_cases j raises with heq | ⟨r, b, -, heq⟩ <;> rw [heq] <;> exact h

/-- Another decision on the same event finds the row closed; one on another event does not touch
it. -/
theorem call (h : Woken t co i a) (hok : CoordinatorOk t co) (htables : TablesOk t)
    (q : DecisionRequest) : Woken (q.call t co).1 (q.call t co).2.1 i a := by
  have hmono := h.mono (GateSystem.advances_call q t co)
  obtain ⟨handle, row, hi, -, hid, hrow, hdec, -⟩ := h
  rcases call_cases q t co with
    ⟨-, heq, -⟩ | ⟨j, old, _, approvalId, row', hreg, hpath, hrec, heq, -⟩ |
      ⟨j, old, isSet, hreg, hpath, -, heq, -⟩
  · rwa [heq]
  · rw [heq]
    have hold := (registered_eq_some hreg).2
    obtain ⟨h', row₁, hi', hrest⟩ := hmono
    refine ⟨h', row₁, ?_, hrest⟩
    rw [getElem?_setHandle hold, if_neg, hi']
    rintro rfl
    -- the compare-and-set would have applied to a closed row
    obtain rfl := Option.some.inj (hold.symm.trans hi)
    obtain rfl := Option.some.inj ((persistentPath_eq_some hpath).2.symm.trans hid)
    obtain rfl := Option.some.inj (hrec.found.symm.trans hrow)
    rcases hrec.accepts.isOpen with ho | ho <;> rcases hdec with hd | hd <;>
      exact absurd (ho.symm.trans hd) nofun
  · rw [heq]
    have hold := (registered_eq_some hreg).2
    obtain ⟨h', row₁, hi', hrest⟩ := hmono
    refine ⟨h', row₁, ?_, hrest⟩
    rw [getElem?_setHandle hold, if_neg, hi']
    rintro rfl
    obtain rfl := Option.some.inj (hold.symm.trans hi)
    exact absurd ((hok.approvalId_eq_none htables hold hpath).symm.trans hid) nofun

end Woken

namespace GateSystem

/-! ## Settling a gate -/

/-- The step is a decision on coordinator `c`, for a gate whose registered event is `i` with row
`approvalId`, and the step closes the row. -/
def Settles (s : GateSystem) (a : GateAction) (c i : ℕ) (approvalId : String) : Prop :=
  ∃ q co h row row', a.request = some q ∧ q.c = c ∧ s.live c = some co ∧
    co.registered q.key = some (i, h) ∧ h.bucket.approvalId = some approvalId ∧
    s.approvals.approvals.find? approvalId = some row ∧ ¬row.Decided ∧
    (s.step a).approvals.approvals.find? approvalId = some row' ∧ row'.Decided

/-- Somewhere in the run, the row was closed in this way. -/
def SettledIn (as : List GateAction) (c i : ℕ) (approvalId : String) : Prop :=
  ∃ as₁ a as₂, as = as₁ ++ a :: as₂ ∧ Settles (run step {} as₁) a c i approvalId

/-- As long as coordinator `c` runs, its event `i` is woken. -/
def WokenAt (s : GateSystem) (c i : ℕ) (approvalId : String) : Prop :=
  c < s.coordinators.length ∧ s.EachLive fun c' t co ↦ c' = c → Woken t co i approvalId

variable {s : GateSystem} {a : GateAction} {c i : ℕ} {approvalId : String}

theorem lt_of_live {co : Coordinator} (h : s.live c = some co) : c < s.coordinators.length := by
  by_contra hge
  rw [live, List.getElem?_eq_none (by omega)] at h
  cases h

/-- Processes are never removed from the list. -/
theorem length_le_step (s : GateSystem) (a : GateAction) :
    s.coordinators.length ≤ (s.step a).coordinators.length := by
  cases hq : a.request with
  | some q =>
    rw [step_request hq]
    cases s.live q.c <;> simp [put]
  | none =>
    cases a with
    | start tenantId service raises => simp [step]
    | stop c => simp [step]
    | enterGate c env taskRunId merge => rw [step]; cases s.live c <;> simp [put]
    | resume c i raises => rw [step]; cases s.live c <;> simp [put]
    | decide => cases hq
    | endpoint => cases hq
    | serviceDecide call => simp [step]
    | createForNode id c => rw [step]; split <;> simp

/-- The settling step wakes the event. -/
theorem Settles.wokenAt (h : Settles s a c i approvalId) (hwired : s.Wired) :
    WokenAt (s.step a) c i approvalId := by
  obtain ⟨q, co, h, row, row', hq, rfl, hlive, hreg, hid, hrow, hopen, hrow', hdec⟩ := h
  refine ⟨(lt_of_live hlive).trans_le (length_le_step s a), ?_⟩
  rintro _ co' hco' rfl
  have hstep : s.step a = s.put q.c ((q.call s.approvals co).1, (q.call s.approvals co).2.1) := by
    rw [step_request hq, hlive]
  rw [hstep, live_put hlive, if_pos rfl] at hco'
  obtain rfl := Option.some.inj hco'
  rw [hstep] at hrow' ⊢
  rcases call_cases q s.approvals co with
    ⟨htables, -, -⟩ | ⟨j, old, _, a', row₀, hreg', hpath, hrec, heq, -⟩ |
      ⟨j, old, isSet, hreg', hpath, -, -, -⟩
  · rw [htables] at hrow'
    obtain rfl := Option.some.inj (hrow.symm.trans hrow')
    exact absurd hdec hopen
  · obtain ⟨rfl, rfl⟩ := Prod.mk.inj (Option.some.inj (hreg.symm.trans hreg'))
    obtain rfl := Option.some.inj (hid.symm.trans (persistentPath_eq_some hpath).2)
    refine ⟨q.delivered h row₀, row', ?_, rfl, hid, hrow', hdec, ?_⟩
    · rw [heq, getElem?_setHandle (registered_eq_some hreg).2, if_pos rfl]
    · have hafter : (q.call s.approvals co).1.approvals.find? approvalId
          = some (decideRow _ _ row₀) := (hrec.find?_eq approvalId).trans (if_pos rfl)
      obtain rfl := Option.some.inj (hrow'.symm.trans hafter)
      rfl
  · obtain ⟨rfl, rfl⟩ := Prod.mk.inj (Option.some.inj (hreg.symm.trans hreg'))
    have hnone := (hwired.coordinators _ co hlive).approvalId_eq_none hwired.tables
      (registered_eq_some hreg).2 hpath
    exact absurd (hnone.symm.trans hid) nofun

/-- No later step undoes it. -/
theorem WokenAt.step (h : WokenAt s c i approvalId) (hwired : s.Wired) (a : GateAction) :
    WokenAt (s.step a) c i approvalId := by
  refine ⟨h.1.trans_le (length_le_step s a), eachLive_step
    (J := fun c' t co ↦ CoordinatorOk t co ∧ (c' = c → Woken t co i approvalId))
    (fun c' co hco ↦ ⟨hwired.coordinators c' co hco, h.2 c' co hco⟩) ?_ ?_ ?_ ?_ ?_⟩
  · exact fun _ _ _ hadv hco hc ↦ (hco.2 hc).mono hadv
  · exact fun _ _ _ hc ↦ absurd hc h.1.ne'
  · exact fun _ _ env taskRunId merge _ _ hco hc ↦ (hco.2 hc).enterGate env taskRunId merge
  · exact fun _ _ j raises _ _ hco hc ↦ (hco.2 hc).resume j raises
  · exact fun q _ _ _ hco hc ↦ (hco.2 hc).call hco.1 hwired.tables q

theorem SettledIn.wokenAt {as : List GateAction} (h : SettledIn as c i approvalId) :
    WokenAt (run step {} as) c i approvalId := by
  obtain ⟨as₁, a, as₂, rfl, hsettles⟩ := h
  have hwired := wired_run as₁
  have hwoken := hsettles.wokenAt hwired
  rw [run_append, run_cons]
  exact (run_invariant (I := fun s ↦ s.Wired ∧ WokenAt s c i approvalId)
    (fun _ a h ↦ ⟨h.1.step a, h.2.step h.1 a⟩) ⟨hwired.step a, hwoken⟩ as₂).2

/-! ## No lost wake-up -/

/-- A run whose event is set leaves the gate as soon as it is scheduled. -/
theorem getElem?_resume {co : Coordinator} {k : ℕ} {r : GateRun} {b : Bucket}
    (h : co.wakes k = some (r, b)) (raises : Bool) :
    (co.resume k raises).runs[k]? = some ⟨r.taskRunId, afterGate raises b⟩ := by
  obtain ⟨hr, -⟩ := wakes_eq_some h
  rw [Coordinator.resume, h]
  dsimp only
  rw [List.getElem?_set, if_pos rfl, if_pos (List.getElem?_eq_some_iff.mp hr).1]

/-- **A decision through the handler's own coordinator is not lost.** In every reachable state, let
a run wait on an event, and let a row have been closed by a decision on the run's own coordinator
while this event was the registered one for its gate. Then the event is set, its payload names the
row and shows the decision of the row, and the run leaves the gate with this payload as soon as it
is scheduled. -/
theorem woken_of_settled {as : List GateAction} {c : ℕ} {co : Coordinator}
    (hco : (run step {} as).live c = some co) {k : ℕ} {r : GateRun} (hr : co.runs[k]? = some r)
    {i : ℕ} (hwait : r.phase = .waiting i) {h : Handle} (hh : co.handles[i]? = some h)
    {approvalId : String} {row : Approval}
    (hrow : (run step {} as).approvals.approvals.find? approvalId = some row)
    (hsettled : SettledIn as c i approvalId) :
    h.isSet = true ∧ h.bucket.approvalId = some approvalId ∧
      h.bucket.decision = row.decision ∧
      (row.state = .approved ∧ h.bucket.decision = some "approve" ∨
        row.state = .rejected ∧ h.bucket.decision = some "reject") ∧
      ∀ raises, (co.resume k raises).runs[k]? = some ⟨r.taskRunId, afterGate raises h.bucket⟩ := by
  obtain ⟨h', row', hh', hset, hid, hrow', hdec, heq⟩ := hsettled.wokenAt.2 c co hco rfl
  obtain rfl := Option.some.inj (hh.symm.trans hh')
  obtain rfl := Option.some.inj (hrow.symm.trans hrow')
  have hok := (wired_run as).tables approvalId row hrow
  have hwakes : co.wakes k = some (r, h.bucket) := by
    obtain ⟨taskRunId, phase⟩ := r
    obtain rfl : phase = .waiting i := hwait
    simp only [wakes, hr, hh, hset, if_true]
  refine ⟨hset, hid, heq, ?_, fun raises ↦ getElem?_resume hwakes raises⟩
  rcases hdec with hst | hst
  · exact Or.inl ⟨hst, heq.trans (hok.approved hst)⟩
  · exact Or.inr ⟨hst, heq.trans (hok.rejected hst)⟩

/-- The run waits, and its own coordinator decides. -/
def ownDecisionRun : List GateAction :=
  [.start (some "tenant:demo") true false,
    .enterGate 0 sampleHandlerEnv "task-1" [],
    .decide 0 (sampleDecideEnv "d1") sampleGate "reject" "alice" ""]

theorem woken_of_settled_ownDecision : ∃ co h, (run step {} ownDecisionRun).live 0 = some co ∧
    co.handles[0]? = some h ∧ h.isSet = true ∧ h.bucket.decision = some "reject" := by
  have hsettled : SettledIn ownDecisionRun 0 0 "apv:1" :=
    ⟨[.start (some "tenant:demo") true false, .enterGate 0 sampleHandlerEnv "task-1" []], _, [],
      rfl, _, _, _, _, _, rfl, rfl, rfl, rfl, rfl, rfl, by decide, rfl, by decide⟩
  have hlive : (run step {} ownDecisionRun).live 0 = some _ := rfl
  obtain ⟨hset, -, hdec, -⟩ := woken_of_settled hlive (show _[0]? = some _ from rfl) rfl rfl rfl
    hsettled
  exact ⟨_, _, rfl, rfl, hset, hdec⟩

/-- A second coordinator has reloaded the pending row, and the decision reaches it. -/
def otherInstanceRun : List GateAction :=
  [.start (some "tenant:demo") true false,
    .enterGate 0 sampleHandlerEnv "task-1" [],
    .start (some "tenant:demo") true false,
    .decide 1 (sampleDecideEnv "d1") sampleGate "approve" "alice" ""]

/-- The handler waits on an event that is not set, while its row is approved. -/
theorem otherInstance_not_woken :
    ¬∀ (as : List GateAction) (c : ℕ) (co : Coordinator) (k : ℕ) (r : GateRun) (i : ℕ) (h : Handle)
      (approvalId : String) (row : Approval), (run step {} as).live c = some co →
      co.runs[k]? = some r → r.phase = .waiting i → co.handles[i]? = some h →
      h.bucket.approvalId = some approvalId →
      (run step {} as).approvals.approvals.find? approvalId = some row → row.Decided →
      h.isSet = true ∧ h.bucket.decision = row.decision := by
  intro h
  have hset := (h otherInstanceRun 0 _ 0 _ 0 _ "apv:1" _ rfl rfl rfl rfl rfl rfl (by decide)).1
  cases hset

end GateSystem

end Orchestra
