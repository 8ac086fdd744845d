import Orchestra.Coordinator.GateAgreement

/-!
# The decision calls of the AgenticHub client

The client has two methods, `approve` and `reject`. Both post to one endpoint and say in the body
which decision they are. The endpoint reads the body into a model that has no field for the decision
and passes `approve` to the coordinator. So both methods have the effect of the `approve` endpoint
of the JSON interface (`decide_eq_endpoint`), and a rejection is recorded as an approval.

Between the client and the handler stand the HTTP library, the router and the middleware. They are a
parameter, the task run for which a request reaches the handler, if it does.
-/

namespace Orchestra

open EventStore Coordinator

/-! ## The server -/

/-- The body model of the decision endpoints. -/
structure ApprovalRequest where
  decidedBy : String := "demo-user"
  rationale : String := ""

namespace ApprovalRequest

/-- A string field of a body, with its default. -/
def stringField (body : Json) (field default : String) : Option String :=
  match body.get? field with
  | none => some default
  | some (.str s) => some s
  | some _ => none

/-- The validation of a body. Fields that the model does not have are ignored. -/
def validate : Json → Option ApprovalRequest
  | .obj fields =>
    match stringField (.obj fields) "decided_by" "demo-user",
      stringField (.obj fields) "rationale" "" with
    | some decidedBy, some rationale => some ⟨decidedBy, rationale⟩
    | _, _ => none
  | _ => none

end ApprovalRequest

/-- What a client receives. -/
inductive HttpResponse where
  | ok (body : Json)
  | validationError
  | badRequest (detail : GateError)
  /-- Another part of the server has answered. -/
  | notHandled

/-- `raise_for_status` returns. -/
def HttpResponse.isSuccess : HttpResponse → Bool
  | .ok _ => true
  | _ => false

variable (env : DecideEnv) (t : ApprovalTables) (co : Coordinator)

/-- `ah_decide`, the endpoint `/api/v1/orchestra/tasks/{task_run_id}/decide`. -/
def ahDecide (taskRunId : String) (body : Json) : ApprovalTables × Coordinator × HttpResponse :=
  match ApprovalRequest.validate body with
  | none => (t, co, .validationError)
  | some body =>
    -- the local variable `decision` is not used
    match decideApproval env t co (taskRunId, humanApproval) "approve" body.decidedBy
      body.rationale with
    | (t', co', .ok ()) =>
      (t', co', .ok (.obj [("status", .str "approved"), ("task_run_id", .str taskRunId)]))
    | (t', co', .error e) => (t', co', .badRequest e)

/-! ## The client -/

namespace AgenticHubTaskTool

/-- The body that `_decide` posts. -/
def decideBody (decision decidedBy rationale : String) : Json :=
  .obj [("decision", .str decision), ("decided_by", .str decidedBy), ("rationale", .str rationale)]

variable (route : String → Option String)

/-- `_decide`, together with what it does on the server. -/
def decide (taskRunId decision decidedBy rationale : String) :
    ApprovalTables × Coordinator × HttpResponse :=
  match route taskRunId with
  | none => (t, co, .notHandled)
  | some taskRunId => ahDecide env t co taskRunId (decideBody decision decidedBy rationale)

def approve (taskRunId : String) (decidedBy : String := "agentichub") (rationale : String := "") :
    ApprovalTables × Coordinator × HttpResponse :=
  decide env t co route taskRunId "approve" decidedBy rationale

def reject (taskRunId : String) (decidedBy : String := "agentichub") (rationale : String := "") :
    ApprovalTables × Coordinator × HttpResponse :=
  decide env t co route taskRunId "reject" decidedBy rationale

/-- The method for a verdict. -/
def method (verdict : Verdict) (taskRunId decidedBy rationale : String) :
    ApprovalTables × Coordinator × HttpResponse :=
  match verdict with
  | .approve => approve env t co route taskRunId decidedBy rationale
  | .reject => reject env t co route taskRunId decidedBy rationale

variable {env t co route}

/-- The model reads the two fields it knows, whatever the decision. -/
theorem validate_decideBody (decision decidedBy rationale : String) :
    ApprovalRequest.validate (decideBody decision decidedBy rationale) =
      some ⟨decidedBy, rationale⟩ := rfl

theorem method_eq_decide (verdict : Verdict) (taskRunId decidedBy rationale : String) :
    method env t co route verdict taskRunId decidedBy rationale =
      decide env t co route taskRunId verdict.decision decidedBy rationale := by
  cases verdict <;> rfl

/-- **Both methods approve**: on the tables and the coordinator they act like the `approve` endpoint
of the JSON interface, and they succeed when it does. -/
theorem decide_eq_endpoint {taskRunId taskRunId' : String}
    (hroute : route taskRunId = some taskRunId') (decision decidedBy rationale : String) :
    let r := decide env t co route taskRunId decision decidedBy rationale
    let r' := co.endpoint env t .approve taskRunId' decidedBy rationale
    r.1 = r'.1 ∧ r.2.1 = r'.2.1 ∧ (r.2.2.isSuccess = true ↔ r'.2.2 = .status "approved") := by
  rw [decide, hroute]
  simp only [ahDecide, validate_decideBody, endpoint, Verdict.decision]
  rcases co.decideApproval env t (taskRunId', humanApproval) "approve" decidedBy rationale with
    ⟨t', co', _ | ⟨⟨⟩⟩⟩ <;> simp [HttpResponse.isSuccess, Verdict.status]

end AgenticHubTaskTool

/-! ## What is recorded -/

namespace Coordinator

variable {env t co}

/-- A gate that can be decided: its event is registered, and its row, if it has one, is open and of
the tenant. -/
def Pending (t : ApprovalTables) (co : Coordinator) (key : String × String) : Prop :=
  ∃ i h, co.registered key = some (i, h) ∧ ∀ tenantId approvalId,
    co.persistentPath h.bucket = some (tenantId, approvalId) →
    ∃ row, t.approvals.find? approvalId = some row ∧
      (row.state = .pending ∨ row.state = .firstApproved) ∧ row.tenantId = tenantId

/-- The decision stands in the payload on which the run of the gate waits, and in the log of the
row, if there is one. -/
def RecordedAs (t : ApprovalTables) (co : Coordinator) (key : String × String)
    (decision decidedBy rationale : String) (t' : ApprovalTables) (co' : Coordinator) : Prop :=
  ∃ i h h', co.registered key = some (i, h) ∧ co'.handles[i]? = some h' ∧ h'.isSet = true ∧
    h'.bucket.decision = some decision ∧ h'.bucket.decidedBy = some decidedBy ∧
    h'.bucket.rationale = some rationale ∧ ∀ tenantId approvalId,
      co.persistentPath h.bucket = some (tenantId, approvalId) →
      ∃ entry, t'.log approvalId = t.log approvalId ++ [entry] ∧ entry.decision = decision ∧
        entry.decidedBy = decidedBy ∧ entry.rationale = rationale

/-- One call records one decision. -/
theorem RecordedAs.decision_eq {key : String × String} {d d' decidedBy decidedBy' rationale
    rationale' : String} {t' : ApprovalTables} {co' : Coordinator}
    (h : RecordedAs t co key d decidedBy rationale t' co')
    (h' : RecordedAs t co key d' decidedBy' rationale' t' co') : d = d' := by
  obtain ⟨i, _, b, hreg, hb, -, hd, -⟩ := h
  obtain ⟨i', _, b', hreg', hb', -, hd', -⟩ := h'
  obtain ⟨rfl, -⟩ := Prod.mk.inj (Option.some.inj (hreg.symm.trans hreg'))
  obtain rfl := Option.some.inj (hb.symm.trans hb')
  exact Option.some.inj (hd.symm.trans hd')

/-- A call of a pending gate that returns has recorded its decision. -/
theorem recordsDecision_of_pending {key : String × String} {verdict : Verdict}
    {decidedBy rationale : String} (hpending : Pending t co key)
    (hok : (co.decideApproval env t key verdict.decision decidedBy rationale).2.2 = .ok ()) :
    co.recordsDecision env t key verdict.decision decidedBy rationale = true := by
  obtain ⟨i, h, hreg, hrow⟩ := hpending
  rw [decideApproval, hreg] at hok
  rw [recordsDecision, hreg]
  dsimp only at hok ⊢
  cases hpath : co.persistentPath h.bucket with
  | some ta =>
    obtain ⟨tenantId, approvalId⟩ := ta
    rw [hpath] at hok
    obtain ⟨row, hfind, hopen, htenant⟩ := hrow tenantId approvalId hpath
    obtain ⟨hraises, happlied⟩ := applied_of_decidePersistent hfind
      (fun _ ↦ ⟨hopen, htenant, verdict.decision_cases⟩) hok
    dsimp only
    rw [hraises, happlied]
    rfl
  | none =>
    rw [hpath] at hok
    exact (saved_of_decideLegacy hok).1

/-- **What a decision leaves behind** at a pending gate. -/
theorem recordedAs_of_ok {key : String × String} {verdict : Verdict} {decidedBy rationale : String}
    (hpending : Pending t co key)
    (hok : (co.decideApproval env t key verdict.decision decidedBy rationale).2.2 = .ok ()) :
    RecordedAs t co key verdict.decision decidedBy rationale
      (co.decideApproval env t key verdict.decision decidedBy rationale).1
      (co.decideApproval env t key verdict.decision decidedBy rationale).2.1 := by
  have hrecords := recordsDecision_of_pending hpending hok
  set q : DecisionRequest := ⟨0, env, key, verdict.decision, decidedBy, rationale⟩
  rcases call_cases q t co with ⟨-, -, hnot⟩ |
    ⟨i, h, tenantId, approvalId, row, hreg, hpath, hrec, hco, -⟩ |
    ⟨i, h, isSet, hreg, hpath, -, hco, hset⟩
  · -- nothing recorded
    rw [hrecords] at hnot
    cases hnot
  · have hhandle := getElem?_setHandle (registered_eq_some hreg).2 (q.delivered h row) i
    rw [if_pos rfl, ← hco] at hhandle
    refine ⟨i, h, _, hreg, hhandle, rfl, rfl, rfl, rfl, fun tenantId' approvalId' hpath' ↦ ?_⟩
    obtain ⟨rfl, rfl⟩ := Prod.mk.inj (Option.some.inj (hpath.symm.trans hpath'))
    exact ⟨_, (hrec.log_eq approvalId).trans (congrArg _ (if_pos rfl)), rfl, rfl, rfl⟩
  · have hisSet : isSet = true := by
      rcases hset with ⟨hset, -⟩ | ⟨-, hnot⟩
      · exact hset
      · rw [hrecords] at hnot
        cases hnot
    have hhandle := getElem?_setHandle (registered_eq_some hreg).2
      ⟨isSet, decideBucket env verdict.decision decidedBy rationale h.bucket⟩ i
    rw [if_pos rfl, ← hco] at hhandle
    refine ⟨i, h, _, hreg, hhandle, hisSet, rfl, rfl, rfl, fun tenantId approvalId hpath' ↦ ?_⟩
    rw [hpath] at hpath'
    cases hpath'

/-- The endpoints of the JSON interface record the decision they are named after. -/
theorem recordedAs_of_endpoint {verdict : Verdict} {taskRunId decidedBy rationale status : String}
    (hpending : Pending t co (taskRunId, humanApproval))
    (hanswer : (co.endpoint env t verdict taskRunId decidedBy rationale).2.2 = .status status) :
    RecordedAs t co (taskRunId, humanApproval) verdict.decision decidedBy rationale
      (co.endpoint env t verdict taskRunId decidedBy rationale).1
      (co.endpoint env t verdict taskRunId decidedBy rationale).2.1 := by
  have hrecorded := recordedAs_of_ok hpending (endpoint_eq_status hanswer).2
  rw [endpoint]
  split <;> next heq => rw [heq] at hrecorded; exact hrecorded

end Coordinator

namespace AgenticHubTaskTool

variable {env t co} {route : String → Option String}

/-- Every successful call is recorded as an approval. -/
theorem recordedAs_approve {verdict : Verdict} {taskRunId taskRunId' decidedBy rationale : String}
    (hroute : route taskRunId = some taskRunId')
    (hpending : Pending t co (taskRunId', humanApproval))
    (hsuccess :
      (method env t co route verdict taskRunId decidedBy rationale).2.2.isSuccess = true) :
    RecordedAs t co (taskRunId', humanApproval) "approve" decidedBy rationale
      (method env t co route verdict taskRunId decidedBy rationale).1
      (method env t co route verdict taskRunId decidedBy rationale).2.1 := by
  rw [method_eq_decide] at hsuccess ⊢
  obtain ⟨htables, hco, hanswer⟩ := decide_eq_endpoint hroute verdict.decision decidedBy rationale
  rw [htables, hco]
  exact recordedAs_of_endpoint hpending (hanswer.mp hsuccess)

/-- **The recorded decision.** At a pending gate a successful call of the client is recorded as an
approval, and so it is recorded as what it is just for the method `approve`. -/
theorem recordedAs_iff {verdict : Verdict} {taskRunId taskRunId' decidedBy rationale : String}
    (hroute : route taskRunId = some taskRunId')
    (hpending : Pending t co (taskRunId', humanApproval))
    (hsuccess :
      (method env t co route verdict taskRunId decidedBy rationale).2.2.isSuccess = true) :
    let r := method env t co route verdict taskRunId decidedBy rationale
    RecordedAs t co (taskRunId', humanApproval) "approve" decidedBy rationale r.1 r.2.1 ∧
      (RecordedAs t co (taskRunId', humanApproval) verdict.decision decidedBy rationale r.1 r.2.1 ↔
        verdict = .approve) := by
  have hrecorded := recordedAs_approve hroute hpending hsuccess
  refine ⟨hrecorded, fun hown ↦ ?_, ?_⟩
  · have hdecision := hrecorded.decision_eq hown
    cases verdict with
    | approve => rfl
    | reject => exact absurd hdecision (by decide)
  · rintro rfl
    exact hrecorded

/-! ### A rejection -/

def sampleEnv : DecideEnv where
  now := 1
  decisionId := "d1"
  legacyId := ⟨"a1", by decide⟩

/-- A coordinator without an approval service, with one gate. -/
def sampleCoordinator : Coordinator :=
  ({ tenantId := none, hasApprovalService := false } : Coordinator).register
    { bucket := { requestedAt := 0, taskRunId := "t1", nodeId := humanApproval } }

theorem pending_sampleCoordinator :
    Pending .empty sampleCoordinator ("t1", humanApproval) :=
  ⟨0, _, rfl, fun _ _ hpath ↦ by cases hpath⟩

theorem isSuccess_sampleCoordinator : (method sampleEnv .empty sampleCoordinator some .reject "t1"
    "alice" "no").2.2.isSuccess = true := by decide

theorem recordedAs_iff_sampleCoordinator :
    let r := method sampleEnv .empty sampleCoordinator some .reject "t1" "alice" "no"
    RecordedAs .empty sampleCoordinator ("t1", humanApproval) "approve" "alice" "no" r.1 r.2.1 ∧
      ¬RecordedAs .empty sampleCoordinator ("t1", humanApproval) "reject" "alice" "no" r.1 r.2.1 :=
  have h := recordedAs_iff rfl pending_sampleCoordinator
    isSuccess_sampleCoordinator
  ⟨h.1, fun hreject ↦ nomatch h.2.mp hreject⟩

/-- A rejection that succeeds and opens the gate. -/
theorem rejection_approves : ¬∀ (env : DecideEnv) (t : ApprovalTables) (co : Coordinator)
    (route : String → Option String) (verdict : Verdict)
    (taskRunId taskRunId' decidedBy rationale : String), route taskRunId = some taskRunId' →
      Pending t co (taskRunId', humanApproval) →
      let r := method env t co route verdict taskRunId decidedBy rationale
      r.2.2.isSuccess = true → RecordedAs t co (taskRunId', humanApproval) verdict.decision
        decidedBy rationale r.1 r.2.1 := by
  intro hall
  have hown := hall sampleEnv .empty sampleCoordinator some .reject "t1" "t1" "alice" "no" rfl
    pending_sampleCoordinator isSuccess_sampleCoordinator
  have happroved := recordedAs_approve rfl pending_sampleCoordinator
    isSuccess_sampleCoordinator
  exact absurd (hown.decision_eq happroved) (by decide)

end AgenticHubTaskTool

end Orchestra
