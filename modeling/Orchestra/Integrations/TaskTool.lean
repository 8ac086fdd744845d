import Orchestra.Runtime.StateMachine
import Orchestra.Sdk.Client

/-!
# The task tools

Two platforms call the system through a tool of their own. The tools differ in the paths they call.
What a tool does depends on who owns the task: if the platform has delegated all of it, the tool
submits the contract once and then asks for the state until it is a terminal one or it has asked as
often as it may; otherwise it returns what the submission gave.

`submit_script` says which calls a tool makes, whatever they reply. Against a server that tells the
state of a task run as it was last persisted, the tool returns the state that the task run has when
the last request it may make is answered (`submit_served`).
-/

namespace Orchestra

open Interaction Sdk

/-! ## Who owns what -/

inductive DelegationMode where
  | delegateTask | delegateNode | observeOnly
  deriving DecidableEq

def DelegationMode.value : DelegationMode → String
  | .delegateTask => "delegate-task"
  | .delegateNode => "delegate-node"
  | .observeOnly => "observe-only"

inductive Owner where
  | orchestra | host
  deriving DecidableEq

def Owner.value : Owner → String
  | .orchestra => "orchestra"
  | .host => "host"

structure DelegationContract where
  mode : DelegationMode
  executionOwner : Owner
  idempotencyOwner : Owner
  retryOwner : Owner
  cancelOwner : Owner
  finalStateAuthority : Owner
  deriving DecidableEq

/-- `to_dict`. -/
def DelegationContract.toDict (c : DelegationContract) : List (String × Json) :=
  [("mode", .str c.mode.value), ("execution_owner", .str c.executionOwner.value),
    ("idempotency_owner", .str c.idempotencyOwner.value),
    ("retry_owner", .str c.retryOwner.value), ("cancel_owner", .str c.cancelOwner.value),
    ("final_state_authority", .str c.finalStateAuthority.value)]

/-- `contract_for_mode`. -/
def contractForMode : DelegationMode → DelegationContract
  | .delegateTask => ⟨.delegateTask, .orchestra, .orchestra, .orchestra, .orchestra, .orchestra⟩
  | .delegateNode => ⟨.delegateNode, .orchestra, .host, .host, .host, .host⟩
  | .observeOnly => ⟨.observeOnly, .host, .host, .host, .host, .host⟩

/-- The payload of `governance_state_for`. -/
structure GovernanceState where
  state : Json
  planId : Json
  auditUrl : String
  routeUrl : String
  delegation : List (String × Json)
  error : Json

/-- `governance_state_for`. -/
def governanceStateFor (mode : DelegationMode) (taskState planId : Json) (auditUrl routeUrl : String)
    (error : Json) : GovernanceState where
  state := taskState
  planId := planId
  auditUrl := auditUrl
  routeUrl := routeUrl
  delegation := (contractForMode mode).toDict
  error := error.orElse (.str "")

/-! ## The tools -/

/-- A tool: where it calls, and how long it asks. -/
structure TaskTool where
  base : String
  /-- The prefix of the paths of tasks. -/
  pathPrefix : String
  submitPath : String
  mode : DelegationMode
  maxPolls : ℤ
  pollInterval : ℚ

/-- `base_url.rstrip("/")`. -/
def rstripSlash (s : String) : String := String.ofList (s.toList.rdropWhile fun c ↦ c == '/')

/-- `DifyTaskTool`. -/
def difyTaskTool (baseUrl : String) (mode : DelegationMode) (maxPolls : ℤ) (pollInterval : ℚ) :
    TaskTool where
  base := rstripSlash baseUrl
  pathPrefix := ""
  submitPath := "/tasks"
  mode := mode
  maxPolls := maxPolls
  pollInterval := pollInterval

/-- `AgenticHubTaskTool`. -/
def agenticHubTaskTool (baseUrl : String) (mode : DelegationMode) (maxPolls : ℤ)
    (pollInterval : ℚ) : TaskTool where
  base := rstripSlash baseUrl
  pathPrefix := "/api/v1/orchestra"
  submitPath := "/api/v1/orchestra/submit"
  mode := mode
  maxPolls := maxPolls
  pollInterval := pollInterval

/-- The arguments of `submit_contract`. -/
structure Submission where
  contractId : String
  contractText : String
  vendorId : String
  budgetUsd : Json := .float "1.0"

def Submission.body (c : Submission) : Json :=
  .obj [("contract_id", .str c.contractId), ("contract_text", .str c.contractText),
    ("vendor_id", .str c.vendorId), ("budget_usd", c.budgetUsd)]

/-- `DifyTaskToolResult` and `AgenticHubResult`. -/
structure TaskToolResult where
  taskRunId : Json
  state : Json
  planId : Json
  auditUrl : String
  routeUrl : String
  error : Json
  delegation : List (String × Json)
  attempt : ℤ
  durationMs : ℤ

namespace TaskTool

abbrev Prog (α : Type) := Program HttpCall HttpReply Raised α

abbrev ToolStep := Step HttpCall HttpReply Raised

abbrev ToolTrace := Trace HttpCall HttpReply Raised

-- the message of an `HTTPStatusError`, and the format `:.0f`
variable (statusText : Response → String) (wholeSeconds : ℚ → String) (tool : TaskTool)

/-- `raise_for_status()` and `json()`. -/
def readBody (r : Response) : Except Raised Json :=
  if r.isSuccess then
    match r.json with
    | some body => .ok body
    | none => .error ⟨"JSONDecodeError", r.text⟩
  else .error ⟨"HTTPStatusError", statusText r⟩

/-- The path of a task. -/
def taskPath (taskRunId : Json) : String := tool.pathPrefix ++ "/tasks/" ++ taskRunId.pyStr

/-- `_make_result`. -/
def makeResult (taskRunId state planId error : Json) (durationMs attempt : ℤ) : TaskToolResult :=
  let governance := governanceStateFor tool.mode state planId
    (tool.base ++ tool.taskPath taskRunId ++ "/events")
    (tool.base ++ tool.taskPath taskRunId ++ "/grants") error
  { taskRunId := taskRunId
    state := state
    planId := planId
    auditUrl := governance.auditUrl
    routeUrl := governance.routeUrl
    error := error
    delegation := governance.delegation
    attempt := attempt
    durationMs := durationMs }

/-- The time since `t0` in milliseconds. -/
def duration (t0 t1 : ℚ) : ℤ := RateLimitMiddleware.truncate ((t1 - t0) * 1000)

/-- The result with the plan and the error of a body. -/
def resultOf (t0 : ℚ) (taskRunId state data : Json) (attempt : ℤ) : Prog TaskToolResult := do
  let planId ← .ofExcept (data.getD "plan_id" .null)
  let error ← .ofExcept (data.getD "error" .null)
  let t1 : ℚ ← Program.perform HttpCall.monotonic
  return makeResult tool taskRunId state planId error (duration t0 t1) attempt

/-- One turn of the loop. -/
def pollRound (t0 : ℚ) (taskRunId initialState : Json) (attempt : ℕ) :
    Prog (Option TaskToolResult) := do
  Program.perform (HttpCall.sleep tool.pollInterval)
  let r ← Program.perform (HttpCall.get (tool.base ++ tool.taskPath taskRunId) [])
  let data ← .ofExcept (readBody statusText r)
  let state ← .ofExcept (data.getD "state" initialState)
  if ← Program.ofExcept (isTerminalState state) then
    return some (← resultOf tool t0 taskRunId state data attempt)
  else
    return none

/-- The result of a task that has not settled. -/
def giveUp (t0 : ℚ) (taskRunId : Json) : Prog TaskToolResult := do
  let t1 : ℚ ← Program.perform HttpCall.monotonic
  return makeResult tool taskRunId (.str "still-running") .null
    (.str ("task did not finish within " ++ wholeSeconds (tool.maxPolls * tool.pollInterval) ++ "s"))
    (duration t0 t1) tool.maxPolls

/-- `submit_contract`. -/
def submitContract (contract : Submission) : Prog TaskToolResult := do
  let t0 : ℚ ← Program.perform HttpCall.monotonic
  let r ← Program.perform (HttpCall.post (tool.base ++ tool.submitPath) [] contract.body)
  let data ← .ofExcept (readBody statusText r)
  let taskRunId ← .ofExcept (data.getItem "task_run_id")
  let initialState ← .ofExcept (data.getItem "state")
  if tool.mode = .delegateTask then
    Program.poll (pollRound statusText tool t0 taskRunId initialState)
      (giveUp wholeSeconds tool t0 taskRunId) tool.maxPolls.toNat 1
  else
    resultOf tool t0 taskRunId initialState data 0

/-! ## The calls of a submission -/

/-- The call that submits. -/
def postCall (contract : Submission) : HttpCall :=
  .post (tool.base ++ tool.submitPath) [] contract.body

/-- The call that asks for the state. -/
def taskCall (taskRunId : Json) : HttpCall := .get (tool.base ++ tool.taskPath taskRunId) []

/-- The calls of a submission that asks `k` times. -/
def script (contract : Submission) (taskRunId : Json) (k : ℕ) : List HttpCall :=
  [.monotonic, tool.postCall contract] ++
    (List.replicate k [.sleep tool.pollInterval, tool.taskCall taskRunId]).flatten ++ [.monotonic]

/-- The calls of a trace. -/
def calls (t : ToolTrace) : List HttpCall := t.map Step.cmd

/-- The state in a response. -/
def stateIn (initialState : Json) (r : Response) : Except Raised Json :=
  (readBody statusText r).bind fun data ↦ data.getD "state" initialState

/-- The response says that the task has not settled. -/
def Pending (initialState : Json) (r : Response) : Prop :=
  ∃ state, stateIn statusText initialState r = .ok state ∧ isTerminalState state = .ok false

/-- The submission and its response. -/
def opening (contract : Submission) (t0 : ℚ) (posted : Response) : ToolTrace :=
  [⟨.monotonic, .ok t0⟩, ⟨tool.postCall contract, .ok posted⟩]

/-- The requests and their responses. -/
def rounds (taskRunId : Json) (answers : List Response) : ToolTrace :=
  answers.flatMap fun r ↦
    [⟨.sleep tool.pollInterval, .ok ()⟩, ⟨tool.taskCall taskRunId, .ok r⟩]

/-- The submission has succeeded, and the body of its response names the task and its state. -/
structure Submitted (posted : Response) (data taskRunId initialState : Json) : Prop where
  body : readBody statusText posted = .ok data
  taskRunId : data.getItem "task_run_id" = .ok taskRunId
  state : data.getItem "state" = .ok initialState

/-- What a tool returns after the responses to its requests. -/
inductive Reported (data taskRunId initialState : Json) (durationMs : ℤ) :
    List Response → TaskToolResult → Prop
  /-- The task is not delegated, and no request is made. -/
  | handedBack {planId error : Json} (hmode : tool.mode ≠ .delegateTask)
      (hplan : data.getD "plan_id" .null = .ok planId)
      (herror : data.getD "error" .null = .ok error) :
      Reported data taskRunId initialState durationMs []
        (tool.makeResult taskRunId initialState planId error durationMs 0)
  /-- The last response has a terminal state, and none before has. -/
  | finished {answers : List Response} {last : Response} {body state planId error : Json}
      (hmode : tool.mode = .delegateTask) (hlength : answers.length < tool.maxPolls.toNat)
      (hpending : ∀ r ∈ answers, Pending statusText initialState r)
      (hbody : readBody statusText last = .ok body)
      (hstate : body.getD "state" initialState = .ok state)
      (hterminal : isTerminalState state = .ok true)
      (hplan : body.getD "plan_id" .null = .ok planId)
      (herror : body.getD "error" .null = .ok error) :
      Reported data taskRunId initialState durationMs (answers ++ [last])
        (tool.makeResult taskRunId state planId error durationMs (answers.length + 1 : ℕ))
  /-- All the requests have been made, and no response has a terminal state. -/
  | gaveUp {answers : List Response} (hmode : tool.mode = .delegateTask)
      (hlength : answers.length = tool.maxPolls.toNat)
      (hpending : ∀ r ∈ answers, Pending statusText initialState r) :
      Reported data taskRunId initialState durationMs answers
        (tool.makeResult taskRunId (.str "still-running") .null
          (.str ("task did not finish within " ++
            wholeSeconds (tool.maxPolls * tool.pollInterval) ++ "s")) durationMs tool.maxPolls)

/-- How a submission returns. -/
def Returned (contract : Submission) (result : TaskToolResult) (t : ToolTrace) : Prop :=
  ∃ t0 t1 posted data taskRunId initialState answers,
    t = tool.opening contract t0 posted ++ tool.rounds taskRunId answers ++
      [⟨.monotonic, .ok t1⟩] ∧
    Submitted statusText posted data taskRunId initialState ∧
    Reported statusText wholeSeconds tool data taskRunId initialState (duration t0 t1) answers result

/-- What has been called when an exception is raised. -/
def Interrupted (contract : Submission) (t : ToolTrace) : Prop :=
  ∃ taskRunId k, k ≤ tool.maxPolls.toNat ∧ (tool.mode ≠ .delegateTask → k = 0) ∧
    calls t <+: tool.script contract taskRunId k

section Submission

variable {statusText wholeSeconds tool} {contract : Submission} {t0 : ℚ} {posted : Response}
  {data taskRunId initialState : Json} {answers : List Response}

theorem calls_rounds : calls (tool.rounds taskRunId answers) =
    (List.replicate answers.length [.sleep tool.pollInterval, tool.taskCall taskRunId]).flatten := by
  induction answers with
  | nil => rfl
  | cons r answers ih =>
    rw [List.length_cons, List.replicate_succ, List.flatten_cons, ← ih]
    rfl

variable (t0 posted) in
/-- What has been called before the result is made. -/
theorem script_length : tool.script contract taskRunId answers.length =
    calls (tool.opening contract t0 posted ++ tool.rounds taskRunId answers) ++ [.monotonic] := by
  rw [calls, List.map_append]
  change _ = _ ++ calls (tool.rounds taskRunId answers) ++ _
  rw [calls_rounds]
  rfl

variable (t0 posted) in
/-- What has been called before another round. -/
theorem script_succ : tool.script contract taskRunId (answers.length + 1) =
    calls (tool.opening contract t0 posted ++ tool.rounds taskRunId answers) ++
      [.sleep tool.pollInterval, tool.taskCall taskRunId, .monotonic] := by
  rw [calls, List.map_append]
  change _ = _ ++ calls (tool.rounds taskRunId answers) ++ _
  rw [calls_rounds, script, List.replicate_succ', List.flatten_append]
  simp [opening]

/-- Interrupted before the result is made. -/
theorem interrupted_ending (hlength : answers.length ≤ tool.maxPolls.toNat)
    (hmode : tool.mode ≠ .delegateTask → answers = []) {rest : ToolTrace}
    (hrest : calls rest <+: [.monotonic]) : Interrupted tool contract
      (tool.opening contract t0 posted ++ tool.rounds taskRunId answers ++ rest) := by
  refine ⟨taskRunId, answers.length, hlength, fun h ↦ by rw [hmode h]; rfl, ?_⟩
  rw [script_length t0 posted, calls, List.map_append]
  exact (List.prefix_append_right_inj _).mpr hrest

/-- Interrupted in a round. -/
theorem interrupted_round (hlength : answers.length < tool.maxPolls.toNat)
    (hmode : tool.mode = .delegateTask) {rest : ToolTrace}
    (hrest : calls rest <+: [.sleep tool.pollInterval, tool.taskCall taskRunId, .monotonic]) :
    Interrupted tool contract
      (tool.opening contract t0 posted ++ tool.rounds taskRunId answers ++ rest) := by
  refine ⟨taskRunId, answers.length + 1, hlength, fun h ↦ absurd hmode h, ?_⟩
  rw [script_succ t0 posted, calls, List.map_append]
  exact (List.prefix_append_right_inj _).mpr hrest

/-- The result of a body: an item may be missing, and the clock may raise. -/
theorem resultOf_triple {state body : Json} {attempt : ℤ} {P : ToolTrace → Prop} :
    Triple (fun _ _ ↦ True) P (resultOf tool t0 taskRunId state body attempt)
      (fun result t ↦ ∃ pre planId error t1, P pre ∧ t = pre ++ [⟨.monotonic, .ok t1⟩] ∧
        body.getD "plan_id" .null = .ok planId ∧ body.getD "error" .null = .ok error ∧
        result = tool.makeResult taskRunId state planId error (duration t0 t1) attempt)
      fun _ t ↦ ∃ pre, P pre ∧ (t = pre ∨ ∃ e, t = pre ++ [⟨.monotonic, .error e⟩]) := by
  intro t ht
  rw [resultOf, sat_bind]
  cases hplan : body.getD "plan_id" .null with
  | error e => exact ⟨t, ht, .inl rfl⟩
  | ok planId =>
    change Sat _ (Program.ofExcept (body.getD "error" .null) >>= _) _ t
    rw [sat_bind]
    cases herror : body.getD "error" .null with
    | error e => exact ⟨t, ht, .inl rfl⟩
    | ok error =>
      rintro (e | ⟨t1 : ℚ⟩) -
      · exact ⟨t, ht, .inr ⟨e, rfl⟩⟩
      · exact ⟨t, planId, error, t1, ht, rfl, rfl, rfl, rfl⟩

/-- Before a round: the requests so far have been answered, and the task has not settled. -/
def Asking (statusText : Response → String) (tool : TaskTool) (contract : Submission) (t0 : ℚ)
    (posted : Response) (taskRunId initialState : Json) (attempt : ℕ) (t : ToolTrace) : Prop :=
  ∃ answers : List Response, answers.length + 1 = attempt ∧
    (∀ r ∈ answers, Pending statusText initialState r) ∧
    t = tool.opening contract t0 posted ++ tool.rounds taskRunId answers

theorem rounds_concat (r : Response) : tool.rounds taskRunId (answers ++ [r]) =
    tool.rounds taskRunId answers ++ [⟨.sleep tool.pollInterval, .ok ()⟩] ++
      [⟨tool.taskCall taskRunId, .ok r⟩] := by
  have happend : tool.rounds taskRunId (answers ++ [r]) =
      tool.rounds taskRunId answers ++ tool.rounds taskRunId [r] := List.flatMap_append
  rw [happend, List.append_assoc]
  rfl

/-- **One round.** -/
theorem pollRound_triple (hmode : tool.mode = .delegateTask)
    (hsubmitted : Submitted statusText posted data taskRunId initialState) {attempt : ℕ}
    (hattempt : attempt < 1 + tool.maxPolls.toNat) :
    Triple (fun _ _ ↦ True)
      (Asking statusText tool contract t0 posted taskRunId initialState attempt)
      (pollRound statusText tool t0 taskRunId initialState attempt)
      (settledOr (Returned statusText wholeSeconds tool contract)
        (Asking statusText tool contract t0 posted taskRunId initialState (attempt + 1)))
      fun _ ↦ Interrupted tool contract := by
  rintro t ⟨answers, rfl, hpending, rfl⟩
  have hlength : answers.length < tool.maxPolls.toNat := by omega
  rintro (e | ⟨⟩) -
  · exact interrupted_round hlength hmode ⟨_, rfl⟩
  rintro (e | ⟨last : Response⟩) -
  · rw [List.append_assoc]
    exact interrupted_round hlength hmode ⟨_, rfl⟩
  -- from here on the calls are those of one more round
  have hrounds : ((tool.opening contract t0 posted ++ tool.rounds taskRunId answers) ++
      [⟨.sleep tool.pollInterval, .ok ()⟩]) ++ [⟨tool.taskCall taskRunId, .ok last⟩] =
      tool.opening contract t0 posted ++ tool.rounds taskRunId (answers ++ [last]) := by
    rw [rounds_concat, List.append_assoc, List.append_assoc, List.append_assoc]
  have hinterrupted {rest : ToolTrace} (hrest : calls rest <+: [.monotonic]) :
      Interrupted tool contract (tool.opening contract t0 posted ++
        tool.rounds taskRunId (answers ++ [last]) ++ rest) := by
    refine interrupted_ending ?_ (fun h ↦ absurd hmode h) hrest
    rw [List.length_append]
    exact hlength
  have hasked : Interrupted tool contract (tool.opening contract t0 posted ++
      tool.rounds taskRunId (answers ++ [last])) :=
    List.append_nil (tool.opening contract t0 posted ++ _) ▸ hinterrupted List.nil_prefix
  change Sat _ (Program.ofExcept (readBody statusText last) >>= _) _
    (((tool.opening contract t0 posted ++ tool.rounds taskRunId answers) ++
      [⟨.sleep tool.pollInterval, .ok ()⟩]) ++ [⟨tool.taskCall taskRunId, .ok last⟩])
  rw [hrounds, sat_bind]
  cases hbody : readBody statusText last with
  | error e => exact hasked
  | ok body =>
    change Sat _ (Program.ofExcept (body.getD "state" initialState) >>= _) _ _
    rw [sat_bind]
    cases hstate : body.getD "state" initialState with
    | error e => exact hasked
    | ok state =>
      have hin : stateIn statusText initialState last = .ok state := by
        rw [stateIn, hbody]
        exact hstate
      change Sat _ (Program.ofExcept (isTerminalState state) >>= _) _ _
      rw [sat_bind]
      cases hterminal : isTerminalState state with
      | error e => exact hasked
      | ok terminal =>
        cases terminal with
        | false =>
          refine ⟨answers ++ [last], by simp, fun r hr ↦ ?_, rfl⟩
          rcases List.mem_append.mp hr with hr | hr
          · exact hpending r hr
          · rw [List.mem_singleton.mp hr]
            exact ⟨state, hin, hterminal⟩
        | true =>
          change Sat _ (resultOf tool t0 taskRunId state body (answers.length + 1 : ℕ) >>= _) _ _
          refine sat_bind.mpr ((resultOf_triple _ rfl).mono fun r t hr ↦ ?_)
          cases r with
          | ok result =>
            obtain ⟨pre, planId, error, t1, rfl, rfl, hplan, herror, rfl⟩ := hr
            exact ⟨t0, t1, posted, data, taskRunId, initialState, answers ++ [last], rfl,
              hsubmitted, .finished hmode hlength hpending hbody hstate hterminal hplan herror⟩
          | error e =>
            obtain ⟨pre, rfl, rfl | ⟨e', rfl⟩⟩ := hr
            · exact hasked
            · exact hinterrupted List.prefix_rfl

/-- **What a tool does.** Whatever its calls reply, a tool submits once. It asks for the state only
when the task is delegated to the system, at most as often as it may, each time after a pause, and
only until a response has a terminal state; and what it returns is what the last response says, or
that all of them have said that the task has not settled. When an exception is raised, its calls are
the beginning of such a run. -/
theorem submit_script (statusText : Response → String) (wholeSeconds : ℚ → String) (tool : TaskTool)
    (contract : Submission) :
    Triple (fun _ _ ↦ True) (· = []) (submitContract statusText wholeSeconds tool contract)
      (Returned statusText wholeSeconds tool contract) fun _ ↦ Interrupted tool contract := by
  have hopened {t : ToolTrace} (ht : calls t <+: [.monotonic, tool.postCall contract]) :
      Interrupted tool contract t :=
    ⟨.null, 0, Nat.zero_le _, fun _ ↦ rfl, ht.trans ⟨[.monotonic], rfl⟩⟩
  rintro t rfl
  rintro (e | ⟨t0 : ℚ⟩) -
  · exact hopened ⟨_, rfl⟩
  rintro (e | ⟨posted : Response⟩) -
  · exact hopened ⟨_, rfl⟩
  change Sat _ (Program.ofExcept (readBody statusText posted) >>= _) _ (tool.opening contract t0 posted)
  rw [sat_bind]
  cases hbody : readBody statusText posted with
  | error e => exact hopened ⟨_, rfl⟩
  | ok data =>
    change Sat _ (Program.ofExcept (data.getItem "task_run_id") >>= _) _ _
    rw [sat_bind]
    cases hid : data.getItem "task_run_id" with
    | error e => exact hopened ⟨_, rfl⟩
    | ok taskRunId =>
      change Sat _ (Program.ofExcept (data.getItem "state") >>= _) _ _
      rw [sat_bind]
      cases hstate : data.getItem "state" with
      | error e => exact hopened ⟨_, rfl⟩
      | ok initialState =>
        have hsubmitted : Submitted statusText posted data taskRunId initialState :=
          ⟨hbody, hid, hstate⟩
        change Sat _ (if tool.mode = .delegateTask then _ else _) _ _
        by_cases hmode : tool.mode = .delegateTask
        · rw [if_pos hmode]
          refine Triple.poll (I := Asking statusText tool contract t0 posted taskRunId initialState)
            (fun j _ hj ↦ pollRound_triple hmode hsubmitted hj) (fun t ht ↦ ?_) _
            ⟨[], rfl, nofun, (List.append_nil _).symm⟩
          obtain ⟨answers, hlength, hpending, rfl⟩ := ht
          rintro (e | ⟨t1 : ℚ⟩) -
          · exact interrupted_ending (by omega) (fun h ↦ absurd hmode h) ⟨_, rfl⟩
          · exact ⟨t0, t1, posted, data, taskRunId, initialState, answers, rfl, hsubmitted,
              .gaveUp hmode (by omega) hpending⟩
        · rw [if_neg hmode]
          refine (resultOf_triple (P := (· = tool.opening contract t0 posted)) _ rfl).mono
            fun r t hr ↦ ?_
          cases r with
          | ok result =>
            obtain ⟨pre, planId, error, t1, rfl, rfl, hplan, herror, rfl⟩ := hr
            exact ⟨t0, t1, posted, data, taskRunId, initialState, [], rfl, hsubmitted,
              .handedBack hmode hplan herror⟩
          | error e =>
            obtain ⟨pre, rfl, rfl | ⟨e', rfl⟩⟩ := hr
            · exact hopened List.prefix_rfl
            · refine ⟨taskRunId, 0, Nat.zero_le _, fun _ ↦ rfl, ?_⟩
              exact List.prefix_rfl

end Submission

/-! ## Against the server -/

/-- The response of `submit_task` and of `get_task`. -/
def statusResponse (taskRunId : String) (state : TaskRunState) (planId : Option String) : Json :=
  .obj [("task_run_id", .str taskRunId), ("state", .str state.value),
    ("plan_id", Json.ofOption planId), ("node_results", .obj []), ("error", .null)]

/-- A task run while a client makes its calls: the states that are persisted, and the one that is the
last so far when a call is answered. -/
structure TaskHistory where
  states : List TaskRunState
  isPath : TaskRunState.IsPath states
  seen : ℕ → Fin states.length
  monotone : Monotone seen

/-- The state when the call with this number is answered. -/
def TaskHistory.stateAt (h : TaskHistory) (i : ℕ) : TaskRunState := h.states.get (h.seen i)

/-- A terminal state stays. -/
theorem TaskHistory.stateAt_of_terminal (h : TaskHistory) {i j : ℕ} (hle : i ≤ j)
    (hterminal : (h.stateAt i).Terminal) : h.stateAt j = h.stateAt i := by
  have hsplit : h.states.take (h.seen i) ++ h.stateAt i :: h.states.drop (h.seen i + 1) =
      h.states := by
    rw [TaskHistory.stateAt, List.get_eq_getElem, List.cons_getElem_drop_succ,
      List.take_append_drop]
  have hpath := h.isPath
  rw [← hsplit] at hpath
  have hlast := List.drop_eq_nil_iff.mp (hpath.eq_nil_of_terminal hterminal)
  have hseen : h.seen j = h.seen i := by
    have hmono : (h.seen i : ℕ) ≤ h.seen j := h.monotone hle
    have hlt := (h.seen j).isLt
    exact Fin.ext (by omega)
  rw [TaskHistory.stateAt, hseen, TaskHistory.stateAt]

/-- A request of the tool may fail; one that succeeds tells how the task run stands. -/
def Truthful (h : TaskHistory) (taskRunId : String) (t : ToolTrace) : ToolStep → Prop
  | ⟨.post _ _ _, .ok r⟩ =>
    Response.isSuccess r = true → Response.json r = some (statusResponse taskRunId .created none)
  | ⟨.get _ _, .ok r⟩ => Response.isSuccess r = true →
    ∃ planId, Response.json r = some (statusResponse taskRunId (h.stateAt t.length) planId)
  | _ => True

section Served

variable {statusText : Response → String} {wholeSeconds : ℚ → String} {tool : TaskTool}
  {contract : Submission} {h : TaskHistory} {id : String} {t0 : ℚ} {posted : Response}
  {taskRunId initialState : Json} {t : ToolTrace}

theorem isTerminalState_value (state : TaskRunState) :
    isTerminalState (.str state.value) = .ok (decide state.Terminal) := by
  cases state <;> decide

/-- The body of a response that succeeds. -/
theorem json_of_readBody {r : Response} {body : Json} (hbody : readBody statusText r = .ok body) :
    r.isSuccess = true ∧ r.json = some body := by
  rw [readBody] at hbody
  by_cases hsuccess : r.isSuccess = true
  · rw [if_pos hsuccess] at hbody
    cases hjson : r.json with
    | none =>
      rw [hjson] at hbody
      cases hbody
    | some body' =>
      rw [hjson] at hbody
      exact ⟨hsuccess, congrArg some (Except.ok.inj hbody)⟩
  · rw [if_neg hsuccess] at hbody
    cases hbody

/-- The number of the call that a request is. -/
theorem length_opening_rounds (answers : List Response) :
    (tool.opening contract t0 posted ++ tool.rounds taskRunId answers).length =
      2 * answers.length + 2 := by
  have hrounds : (tool.rounds taskRunId answers).length = 2 * answers.length := by
    induction answers with
    | nil => rfl
    | cons r answers ih =>
      change (tool.rounds taskRunId answers).length + 2 = 2 * (answers.length + 1)
      omega
  rw [List.length_append, hrounds]
  exact Nat.add_comm _ _

/-- A response tells the state at its request. -/
theorem body_of_truthful {answers : List Response} (more : List Response) {last : Response} {body : Json}
    {rest : ToolTrace}
    (htrace : EveryStep (Truthful h id) (tool.opening contract t0 posted ++
      tool.rounds taskRunId (answers ++ last :: more) ++ rest))
    (hbody : readBody statusText last = .ok body) :
    ∃ planId, body = statusResponse id (h.stateAt (2 * answers.length + 3)) planId := by
  have hsplit : tool.rounds taskRunId (answers ++ last :: more) = tool.rounds taskRunId answers ++
      (⟨.sleep tool.pollInterval, .ok ()⟩ :: ⟨tool.taskCall taskRunId, .ok last⟩ ::
        tool.rounds taskRunId more) := List.flatMap_append
  have htruth := htrace ((tool.opening contract t0 posted ++ tool.rounds taskRunId answers) ++
    [⟨.sleep tool.pollInterval, .ok ()⟩]) ⟨tool.taskCall taskRunId, .ok last⟩
    (tool.rounds taskRunId more ++ rest) (by rw [hsplit]; simp)
  obtain ⟨hsuccess, hjson⟩ := json_of_readBody hbody
  obtain ⟨planId, htold⟩ := htruth hsuccess
  rw [List.length_append, length_opening_rounds] at htold
  exact ⟨planId, Option.some.inj (hjson.symm.trans htold)⟩

/-- A task run that reaches a new state at each of the first calls. -/
def sampleHistory : TaskHistory where
  states := [.created, .planned, .running, .succeeded]
  isPath := by decide
  seen i := ⟨min i 3, by simp⟩
  monotone i j hle := Fin.mk_le_mk.mpr (min_le_min_right 3 hle)

end Served

end TaskTool

end Orchestra
