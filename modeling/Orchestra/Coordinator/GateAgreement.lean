import Orchestra.Coordinator.GateInvariants

/-!
# Which decision counts

Several people may decide one gate. Between the decision that sets the event and the moment the run
reads the payload, another decision can be written into it; and a call that loses the
compare-and-set returns like one that wins, so its endpoint confirms a decision that was not
applied.

Which decision came first is not in the state, so the system is observed together with the history
of the decisions that were recorded (`recorded`): by the compare-and-set, or by the row of the
legacy path. In the runs where no other decision reaches an event that a run waits on, and where an
endpoint is only called for a gate that can still be decided, every run acts on the first recorded
decision of its gate and every confirmed decision was applied (`agreement`).
-/

namespace Orchestra

open EventStore Transition Coordinator

/-! ## The history of decisions -/

/-- The recorded decisions, each with the gate it decides. -/
abbrev DecisionHistory := List ((String × String) × String)

/-- The first decision recorded for a gate. -/
def firstDecision (g : DecisionHistory) (key : String × String) : Option String :=
  (g.find? fun e ↦ decide (e.1 = key)).map Prod.snd

theorem firstDecision_append (g g' : DecisionHistory) (key : String × String) :
    firstDecision (g ++ g') key = (firstDecision g key).or (firstDecision g' key) := by
  rw [firstDecision, List.find?_append, Option.map_or]
  rfl

/-- The first decision stays the first. -/
theorem firstDecision_append_of_some {g g' : DecisionHistory} {key : String × String} {d : String}
    (h : firstDecision g key = some d) : firstDecision (g ++ g') key = some d := by
  rw [firstDecision_append, h, Option.some_or]

/-- A decision that agrees with the first one, or is the first one. -/
theorem firstDecision_append_own {g : DecisionHistory} {key : String × String} {d : String}
    (h : firstDecision g key = none ∨ firstDecision g key = some d) :
    firstDecision (g ++ [(key, d)]) key = some d := by
  rw [firstDecision_append]
  rcases h with h | h
  · rw [h, Option.none_or, firstDecision, List.find?_singleton, if_pos (decide_eq_true rfl)]
    rfl
  · rw [h, Option.some_or]

/-- A decision that the request records. -/
def DecisionRequest.recorded (q : DecisionRequest) (t : ApprovalTables) (co : Coordinator) :
    DecisionHistory :=
  if co.recordsDecision q.env t q.key q.decision q.decidedBy q.rationale then [(q.key, q.decision)]
  else []

namespace GateSystem

/-- The decision that a step records, if it records one. -/
def recorded (s : GateSystem) (a : GateAction) : DecisionHistory :=
  match a.request with
  | some q => match s.live q.c with
    | some co => q.recorded s.approvals co
    | none => []
  | none => match a with
    | .serviceDecide call => match s.approvals.approvals.find? call.approvalId with
      | some row =>
        if applied s.approvals call then [((row.taskRunId, row.nodeId), call.decision)] else []
      | none => []
    | _ => []

theorem recorded_request {s : GateSystem} {a : GateAction} {q : DecisionRequest} {co : Coordinator}
    (hq : a.request = some q) (hlive : s.live q.c = some co) :
    s.recorded a = q.recorded s.approvals co := by
  simp only [recorded, hq, hlive]

end GateSystem

/-! ## The condition -/

/-- The decision would reach the event: it meets the conditions of the compare-and-set, or the gate
is in memory and the event is set or is about to be. -/
def DecisionRequest.Delivers (q : DecisionRequest) (t : ApprovalTables) (co : Coordinator)
    (h : Handle) : Prop :=
  match co.persistentPath h.bucket with
  | some (tenantId, approvalId) => q.env.decideRaises = false ∧
    ∃ row, t.approvals.find? approvalId = some row ∧
      Accepts (serviceCall q.env approvalId tenantId q.decision q.decidedBy q.rationale) row
  | none => h.isSet = true ∨ q.env.saveRaises = false

/-- The gate can still be decided: its row is open and of the tenant, or it is in memory and nothing
has been decided. -/
def CanDecide (g : DecisionHistory) (t : ApprovalTables) (co : Coordinator) (env : DecideEnv)
    (key : String × String) (h : Handle) : Prop :=
  match co.persistentPath h.bucket with
  | some (tenantId, approvalId) => env.decideRaises = false →
    ∀ row, t.approvals.find? approvalId = some row →
      (row.state = .pending ∨ row.state = .firstApproved) ∧ row.tenantId = tenantId
  | none => env.saveRaises = false → firstDecision g key = none

namespace GateSystem

/-- The condition on a step, with the history before it. A decision that reaches the event of a
waiting run is the first one of the gate or repeats it; an endpoint is called for a gate that can
still be decided. -/
def Orderly (g : DecisionHistory) (s : GateSystem) (a : GateAction) : Prop :=
  (∀ q co i h, a.request = some q → s.live q.c = some co → co.registered q.key = some (i, h) →
    (∃ r ∈ co.runs, r.phase = .waiting i) → q.Delivers s.approvals co h →
    firstDecision g q.key = none ∨ firstDecision g q.key = some q.decision) ∧
  ∀ c env verdict taskRunId decidedBy rationale co i h,
    a = .endpoint c env verdict taskRunId decidedBy rationale → s.live c = some co →
    co.registered (taskRunId, humanApproval) = some (i, h) →
    CanDecide g s.approvals co env (taskRunId, humanApproval) h

/-! ## The conclusion -/

/-- A run that continues acts on the first decision recorded for its gate. -/
def ActsOnFirst (g : DecisionHistory) (s : GateSystem) (a : GateAction) : Prop :=
  ∀ c i raises co r b, a = .resume c i raises → s.live c = some co → co.wakes i = some (r, b) →
    b.decision.isSome ∧ firstDecision g (r.taskRunId, humanApproval) = b.decision

/-- An endpoint that confirms a decision has recorded it in this step; if the gate is in memory, it
is the first one of the gate. -/
def ConfirmsApplied (g : DecisionHistory) (s : GateSystem) (a : GateAction) : Prop :=
  ∀ c env verdict taskRunId decidedBy rationale co status,
    a = .endpoint c env verdict taskRunId decidedBy rationale → s.live c = some co →
    (co.endpoint env s.approvals verdict taskRunId decidedBy rationale).2.2 = .status status →
    status = verdict.status ∧ s.recorded a = [((taskRunId, humanApproval), verdict.decision)] ∧
      ∀ i h, co.registered (taskRunId, humanApproval) = some (i, h) →
        co.persistentPath h.bucket = none → firstDecision g (taskRunId, humanApproval) = none

end GateSystem

/-! ## The invariant -/

section

variable {env : DecideEnv} {t : ApprovalTables} {co : Coordinator} {key : String × String}
  {decision decidedBy rationale : String} {i : ℕ} {h : Handle}

theorem decideRaises_of_recordsDecision {ta : String × String}
    (hreg : co.registered key = some (i, h)) (hpath : co.persistentPath h.bucket = some ta)
    (hrecords : co.recordsDecision env t key decision decidedBy rationale = true) :
    env.decideRaises = false := by
  simp only [recordsDecision, hreg, hpath, Bool.and_eq_true, Bool.not_eq_true'] at hrecords
  exact hrecords.1

theorem saveRaises_of_recordsDecision (hreg : co.registered key = some (i, h))
    (hpath : co.persistentPath h.bucket = none)
    (hrecords : co.recordsDecision env t key decision decidedBy rationale = true) :
    env.saveRaises = false := by
  simp only [recordsDecision, hreg, hpath, saveApproval] at hrecords
  cases hraises : env.saveRaises with
  | false => rfl
  | true =>
    rw [hraises, if_pos rfl] at hrecords
    cases hrecords

end

/-- The event of a waiting run is set with the first decision of its gate. -/
def FirstWins (g : DecisionHistory) (co : Coordinator) : Prop :=
  ∀ r ∈ co.runs, ∀ (i : ℕ) (h : Handle), r.phase = .waiting i → co.handles[i]? = some h →
    h.isSet = true → ∃ d, h.bucket.decision = some d ∧
      firstDecision g (r.taskRunId, humanApproval) = some d

namespace FirstWins

variable {g g' : DecisionHistory} {t : ApprovalTables} {co : Coordinator}

theorem mono (h : FirstWins g co) : FirstWins (g ++ g') co := by
  intro r hr i handle hphase hi hset
  obtain ⟨d, hdec, hfirst⟩ := h r hr i handle hphase hi hset
  exact ⟨d, hdec, firstDecision_append_of_some hfirst⟩

theorem start (g : DecisionHistory) (t : ApprovalTables) (tenantId : Option String)
    (service raises : Bool) : FirstWins g (.start t tenantId service raises) := by
  have hruns : (Coordinator.start t tenantId service raises).runs = [] :=
    start_induction (Q := fun co ↦ co.runs = []) t tenantId service raises rfl
      fun _ _ hco _ _ _ ↦ hco
  intro r hr
  rw [hruns] at hr
  exact absurd hr List.not_mem_nil

/-- The step lemma of the handler: its event is new. -/
theorem enterGate (h : FirstWins g co) (hok : CoordinatorOk t co) (env : HandlerEnv)
    (taskRunId : String) (merge : List (String × Json)) :
    FirstWins g (co.enterGate env t taskRunId merge).2 := by
  obtain ⟨handle, phase, -, heq, hset, -, -, hphase, -⟩ := co.enterGate_cases env t taskRunId merge
  rw [heq]
  intro r hr i h' hwait hi hset'
  have hi' : (co.register handle).handles[i]? = some h' := hi
  rw [getElem?_register] at hi'
  rcases List.mem_append.mp hr with hold | hnew
  -- an older run waits on an event that was there before
  · obtain ⟨h₀, hh₀, -⟩ := hok.waiting r hold i hwait
    rw [if_neg (List.getElem?_eq_some_iff.mp hh₀).1.ne] at hi'
    exact h r hold i h' hwait hi' hset'
  · obtain rfl := List.mem_singleton.mp hnew
    rcases hphase with rfl | rfl <;> cases hwait
    rw [if_pos rfl] at hi'
    obtain rfl := Option.some.inj hi'
    rw [hset] at hset'
    cases hset'

theorem resume (h : FirstWins g co) (i : ℕ) (raises : Bool) : FirstWins g (co.resume i raises) := by
  rcases co.resume_cases i raises with heq | ⟨r, b, -, heq⟩
  · rwa [heq]
  · rw [heq]
    intro r' hr' j h' hwait
    rcases List.mem_or_eq_of_mem_set hr' with hold | rfl
    · exact h r' hold j h' hwait
    · exact absurd hwait (CoordinatorOk.afterGate_ne_waiting raises b j)

/-- An assignment to the event of a gate. The runs that wait on it wait at this gate. -/
theorem setHandle (h : FirstWins g co) (hok : CoordinatorOk t co) {key : String × String} {i : ℕ}
    {old new : Handle} (hreg : co.registered key = some (i, old))
    (hnew : ∀ r ∈ co.runs, r.phase = .waiting i → (r.taskRunId, humanApproval) = key →
      new.isSet = true → ∃ d, new.bucket.decision = some d ∧ firstDecision g key = some d) :
    FirstWins g (co.setHandle i new) := by
  obtain ⟨hfind, hold⟩ := registered_eq_some hreg
  intro r hr j h' hwait hj hset
  rw [getElem?_setHandle hold] at hj
  split at hj
  · next hji =>
    subst hji
    obtain rfl := Option.some.inj hj
    -- the registered event and the one the run waits on are the same, so their gates are
    obtain ⟨h₁, hh₁, hkey₁⟩ := hok.registered _ (KeyedTable.mem_of_find? hfind)
    obtain ⟨h₂, hh₂, hkey₂⟩ := hok.waiting r hr j hwait
    obtain rfl := Option.some.inj (hh₁.symm.trans hh₂)
    have hkey := hkey₂.symm.trans hkey₁
    rw [hkey]
    exact hnew r hr hwait hkey hset
  · exact h r hr j h' hwait hj hset

/-- The step lemma of a decision. -/
theorem call (h : FirstWins g co) (hok : CoordinatorOk t co) (q : DecisionRequest)
    (hfirst : ∀ i handle, co.registered q.key = some (i, handle) →
      (∃ r ∈ co.runs, r.phase = .waiting i) → q.Delivers t co handle →
      firstDecision g q.key = none ∨ firstDecision g q.key = some q.decision) :
    FirstWins (g ++ q.recorded t co) (q.call t co).2.1 := by
  rcases call_cases q t co with
    ⟨-, heq, -⟩ | ⟨i, old, tenantId, approvalId, row, hreg, hpath, hrec, heq, hrecords⟩ |
      ⟨i, old, isSet, hreg, hpath, -, heq, hset⟩
  · rw [heq]
    exact h.mono
  · rw [heq]
    refine h.mono.setHandle hok hreg fun r hr hwait _ _ ↦ ⟨q.decision, rfl, ?_⟩
    rw [DecisionRequest.recorded, if_pos hrecords]
    refine firstDecision_append_own (hfirst i old hreg ⟨r, hr, hwait⟩ ?_)
    rw [DecisionRequest.Delivers, hpath]
    exact ⟨decideRaises_of_recordsDecision hreg hpath hrecords, row, hrec.found, hrec.accepts⟩
  · rw [heq]
    refine h.mono.setHandle hok hreg fun r hr hwait hkey hisSet ↦ ⟨q.decision, rfl, ?_⟩
    have hdelivers : old.isSet = true ∨ q.env.saveRaises = false → q.Delivers t co old := by
      rw [DecisionRequest.Delivers, hpath]
      exact id
    rcases hset with ⟨-, hrecords⟩ | ⟨hkeep, -⟩
    · rw [DecisionRequest.recorded, if_pos hrecords]
      exact firstDecision_append_own (hfirst i old hreg ⟨r, hr, hwait⟩
        (hdelivers (Or.inr (saveRaises_of_recordsDecision hreg hpath hrecords))))
    · -- the decision is not recorded, but the event was set before
      have hold : old.isSet = true := hkeep.symm.trans hisSet
      obtain ⟨d, -, hd⟩ := h r hr i old hwait (registered_eq_some hreg).2 hold
      rw [hkey] at hd
      rcases hfirst i old hreg ⟨r, hr, hwait⟩ (hdelivers (Or.inl hold)) with hnone | hown
      · rw [hnone] at hd
        cases hd
      · exact firstDecision_append_of_some hown

end FirstWins

/-! ## Confirmed decisions -/

/-- An endpoint confirms exactly the calls that return. -/
theorem endpoint_eq_status {env : DecideEnv} {t : ApprovalTables} {co : Coordinator}
    {verdict : Verdict} {taskRunId decidedBy rationale status : String}
    (h : (co.endpoint env t verdict taskRunId decidedBy rationale).2.2 = .status status) :
    status = verdict.status ∧ (co.decideApproval env t (taskRunId, humanApproval) verdict.decision
      decidedBy rationale).2.2 = .ok () := by
  rw [endpoint] at h
  split at h
  · next heq =>
    rw [heq]
    exact ⟨(Answer.status.inj h).symm, rfl⟩
  · cases h

/-- A call of the service that returns has applied its decision, when the row accepts it. -/
theorem applied_of_decidePersistent {env : DecideEnv} {t : ApprovalTables} {co : Coordinator}
    {i : ℕ} {h : Handle} {call : DecisionCall} {row : Approval}
    (hrow : t.approvals.find? call.approvalId = some row)
    (haccepts : env.decideRaises = false → Accepts call row)
    (hok : (decidePersistent env t co i h call).2.2 = .ok ()) :
    env.decideRaises = false ∧ applied t call = true := by
  rw [decidePersistent] at hok
  cases hraises : env.decideRaises with
  | true =>
    rw [hraises, if_pos rfl] at hok
    cases hok
  | false =>
    rw [hraises, if_neg Bool.false_ne_true] at hok
    refine ⟨rfl, ?_⟩
    rw [applied]
    split at hok
    · cases hok
    · next heq => exact absurd heq (not_refused_of_accepts hrow (haccepts hraises))
    · next heq => rw [heq]

/-- A decision in memory that returns has been saved. -/
theorem saved_of_decideLegacy {env : DecideEnv} {t : ApprovalTables} {co : Coordinator} {i : ℕ}
    {h : Handle} {key : String × String} {decision decidedBy rationale : String}
    (hok : (decideLegacy env t co i h key decision decidedBy rationale).2.2 = .ok ()) :
    (saveApproval env.saveRaises t (legacyRow env.legacyId.1 key.1 key.2 h.bucket.requestedAt
      (some env.now))).isOk = true ∧ env.saveRaises = false := by
  rw [decideLegacy] at hok
  split at hok
  · cases hok
  · next t' hsaved =>
    rw [hsaved]
    refine ⟨rfl, ?_⟩
    cases hraises : env.saveRaises with
    | false => rfl
    | true =>
      rw [saveApproval, hraises, if_pos rfl] at hsaved
      cases hsaved

/-- A call that returns has recorded its decision, when the gate can still be decided. -/
theorem recordsDecision_of_ok {g : DecisionHistory} {env : DecideEnv} {t : ApprovalTables}
    {co : Coordinator} (hok : CoordinatorOk t co) {key : String × String} {verdict : Verdict}
    {decidedBy rationale : String}
    (hcan : ∀ i h, co.registered key = some (i, h) → CanDecide g t co env key h)
    (h : (co.decideApproval env t key verdict.decision decidedBy rationale).2.2 = .ok ()) :
    co.recordsDecision env t key verdict.decision decidedBy rationale = true ∧
      ∀ i h, co.registered key = some (i, h) → co.persistentPath h.bucket = none →
        firstDecision g key = none := by
  rw [decideApproval] at h
  rw [recordsDecision]
  cases hreg : co.registered key with
  | none =>
    rw [hreg] at h
    cases h
  | some ih =>
    obtain ⟨i, handle⟩ := ih
    have hcan' := hcan i handle hreg
    rw [CanDecide] at hcan'
    rw [hreg] at h
    dsimp only at h ⊢
    cases hpath : co.persistentPath handle.bucket with
    | some ta =>
      obtain ⟨tenantId, approvalId⟩ := ta
      rw [hpath] at h hcan'
      dsimp only at h hcan' ⊢
      obtain ⟨-, row, hrow, -⟩ := hok.rows i handle (registered_eq_some hreg).2 approvalId
        (persistentPath_eq_some hpath).2
      obtain ⟨hraises, happlied⟩ := applied_of_decidePersistent hrow (fun hraises ↦
        ⟨(hcan' hraises row hrow).1, (hcan' hraises row hrow).2, verdict.decision_cases⟩) h
      refine ⟨by rw [hraises, happlied]; rfl, fun j h' heq hnone ↦ ?_⟩
      cases heq
      rw [hpath] at hnone
      cases hnone
    | none =>
      rw [hpath] at h hcan'
      obtain ⟨hsaved, hraises⟩ := saved_of_decideLegacy h
      exact ⟨hsaved, fun _ _ _ _ ↦ hcan' hraises⟩

/-! ## Runs -/

namespace GateSystem

/-- The wiring, and the first decisions, with the history before the state. -/
def AgreeingSystem (gs : DecisionHistory × GateSystem) : Prop :=
  gs.2.Wired ∧ gs.2.EachLive fun _ _ ↦ FirstWins gs.1

theorem AgreeingSystem.step {gs : DecisionHistory × GateSystem} {a : GateAction}
    (h : AgreeingSystem gs) (ha : Orderly gs.1 gs.2 a) :
    AgreeingSystem (observe step recorded gs a) := by
  obtain ⟨hwired, hfirst⟩ := h
  refine ⟨hwired.step a, eachLive_step
    (J := fun _ t co ↦ CoordinatorOk t co ∧ FirstWins gs.1 co)
    (fun c co hco ↦ ⟨hwired.coordinators c co hco, hfirst c co hco⟩) ?_ ?_ ?_ ?_ ?_⟩
  · exact fun _ _ _ _ hco ↦ hco.2.mono
  · exact fun tenantId service raises ↦ .start _ _ tenantId service raises
  · exact fun _ _ env taskRunId merge _ _ hco ↦ (hco.2.enterGate hco.1 env taskRunId merge).mono
  · exact fun _ _ i raises _ _ hco ↦ (hco.2.resume i raises).mono
  · intro q co hq hlive hco
    rw [show (observe GateSystem.step recorded gs a).1 = gs.1 ++ q.recorded gs.2.approvals co from
      congrArg (gs.1 ++ ·) (recorded_request hq hlive)]
    exact hco.2.call hco.1 q fun i handle ↦ ha.1 q co i handle hq hlive

theorem AgreeingSystem.actsOnFirst {gs : DecisionHistory × GateSystem} (h : AgreeingSystem gs)
    (a : GateAction) : ActsOnFirst gs.1 gs.2 a := by
  rintro c i raises co r b - hlive hwakes
  obtain ⟨hrun, j, hwait, hhandle⟩ := wakes_eq_some hwakes
  obtain ⟨d, hdec, hfirst⟩ := h.2 c co hlive r (List.mem_of_getElem? hrun) j _ hwait hhandle rfl
  exact ⟨by rw [hdec]; rfl, hfirst.trans hdec.symm⟩

theorem AgreeingSystem.confirmsApplied {gs : DecisionHistory × GateSystem} {a : GateAction}
    (h : AgreeingSystem gs) (ha : Orderly gs.1 gs.2 a) : ConfirmsApplied gs.1 gs.2 a := by
  rintro c env verdict taskRunId decidedBy rationale co status rfl hlive hanswer
  obtain ⟨hstatus, hok⟩ := endpoint_eq_status hanswer
  obtain ⟨hrecords, hlegacy⟩ := recordsDecision_of_ok (h.1.coordinators c co hlive)
    (fun i handle ↦ ha.2 c env verdict taskRunId decidedBy rationale co i handle rfl hlive) hok
  refine ⟨hstatus, ?_, hlegacy⟩
  rw [recorded_request rfl hlive, DecisionRequest.recorded, if_pos hrecords]

/-- The decisions recorded in a run. -/
def history (as : List GateAction) : DecisionHistory := (run (observe step recorded) ([], {}) as).1

/-- **Agreement.** In a run whose decisions are orderly, a run that continues always acts on the
first decision recorded for its gate, and an endpoint answers `approved` or `rejected` only to a
caller whose own decision was applied. -/
theorem agreement {as : List GateAction} {a : GateAction} (h : AllSteps (observe step recorded)
      (fun gs ↦ Orderly gs.1 gs.2) ([], {}) (as ++ [a])) :
    ActsOnFirst (history as) (run step {} as) a ∧
      ConfirmsApplied (history as) (run step {} as) a := by
  have hall : AllSteps (observe step recorded)
      (fun gs a ↦ ActsOnFirst gs.1 gs.2 a ∧ ConfirmsApplied gs.1 gs.2 a) ([], {}) (as ++ [a]) :=
    AllSteps.of_invariant (I := AgreeingSystem) (fun _ _ hgs ha ↦ hgs.step ha)
      (fun _ a hgs ha ↦ ⟨hgs.actsOnFirst a, hgs.confirmsApplied ha⟩)
      ⟨wired_init, eachLive_init _⟩ h
  rw [← run_observe_snd recorded ([], {}) as]
  exact hall.at_prefix

/-- One operator approves; the run then goes on. -/
def orderlyRun : List GateAction :=
  [.start (some "tenant:demo") true false,
    .enterGate 0 sampleHandlerEnv "task-1" [],
    .endpoint 0 (sampleDecideEnv "d1") .approve "task-1" "alice" ""]

/-- A step that does not decide. -/
theorem orderly_of_other {g : DecisionHistory} {s : GateSystem} {a : GateAction}
    (h : a.request = none) : Orderly g s a := by
  constructor
  · intro q _ _ _ hq
    rw [h] at hq
    cases hq
  · rintro c env verdict taskRunId decidedBy rationale _ _ _ rfl
    cases h

theorem agreement_orderlyRun : firstDecision (history orderlyRun) sampleGate = some "approve" := by
  have hok : AllSteps (observe step recorded) (fun gs ↦ Orderly gs.1 gs.2) ([], {})
      (orderlyRun ++ [.resume 0 0 false]) := by
    refine ⟨orderly_of_other rfl, orderly_of_other rfl, ⟨fun q co i h hq _ _ _ _ ↦ ?_, ?_⟩,
      orderly_of_other rfl, trivial⟩
    · cases hq
      exact Or.inl rfl
    · rintro c env verdict taskRunId decidedBy rationale co i h heq hlive hreg
      cases heq
      cases hlive
      cases hreg
      rintro - row hrow
      obtain rfl := List.mem_singleton.mp (KeyedTable.mem_of_find? hrow)
      exact ⟨Or.inl rfl, rfl⟩
  exact ((agreement hok).1 0 0 false _ _ _ rfl rfl rfl).2

/-- Two operators decide a gate in memory before the run continues. -/
def overwrittenRun : List GateAction :=
  [.start none false false,
    .enterGate 0 sampleHandlerEnv "task-1" [],
    .decide 0 (sampleDecideEnv "d1") sampleGate "approve" "alice" "",
    .decide 0 { sampleDecideEnv "d2" with legacyId := ⟨"4", by decide⟩ } sampleGate "reject" "bob"
      ""]

/-- A call that loses the compare-and-set is answered `rejected`, and a run acts on the second of
two decisions. -/
theorem losing_decision_confirmed :
    (¬∀ as a, ConfirmsApplied (history as) (run step {} as) a) ∧
      ¬∀ as a, ActsOnFirst (history as) (run step {} as) a := by
  constructor
  · intro h
    have hrecorded := (h orderlyRun (.endpoint 0 (sampleDecideEnv "d2") .reject "task-1" "bob" "")
      0 _ _ _ _ _ _ _ rfl rfl rfl).2.1
    cases hrecorded
  · intro h
    have hfirst : some "approve" = some "reject" :=
      (h overwrittenRun (.resume 0 0 false) 0 0 false _ _ _ rfl rfl rfl).2
    exact absurd hfirst (by decide)

end GateSystem

end Orchestra
