import Orchestra.Foundation.Transition
import Orchestra.Runtime.StateMachine
import Orchestra.Webhooks.History

/-!
# From the end of a task to its webhook

The submit handler starts the run of a task in the background. When the request names a webhook, the
handler keeps the configuration and wraps the run: at its end the wrapper looks up the dispatcher
and the history among the attributes of the application state, and without a dispatcher it returns.

The names that the wrapper looks up start with an underscore, and those of the fields do not. No
statement of the program assigns an attribute of the former name. The wrapper does what it is for
exactly when somebody else has set both attributes, the second one to the history that the
endpoints read (`firesOnce_iff`).
-/

namespace Orchestra

namespace Webhooks

open Transition WebhookDispatcher DeliveryHistory

/-- `SubmitTaskRequest`, the part about webhooks. -/
structure SubmitTaskRequest where
  webhookUrl : Option String := none
  webhookSecret : Option String := none
  deriving DecidableEq

/-- What `Coordinator.run` returns, the part the wrapper reads. -/
structure CoordinatorResult where
  state : TaskRunState
  planId : Option String
  nodeResults : List (String × Json)
  error : Option String

/-- Which history object an attribute holds. -/
abbrev HistoryRef := ℕ

/-- The attributes that are looked up by name and are not fields of the class. An attribute that
does not exist is `none`. -/
structure DynamicAttributes where
  /-- `_webhook_configs`. -/
  webhookConfigs : Option (String → Option WebhookConfig) := none
  /-- `_webhook_dispatcher`. -/
  webhookDispatcher : Option WebhookDispatcher := none
  /-- `_webhook_history`. -/
  webhookHistory : Option HistoryRef := none

/-- `AppState`. -/
structure AppState where
  webhookDispatcher : Option WebhookDispatcher := none
  webhookHistory : Option HistoryRef := none
  dynamic : DynamicAttributes := {}

/-- A background run of the Coordinator. -/
structure BackgroundRun where
  wrapped : Bool
  done : Bool := false
  deriving DecidableEq

/-- A call of `deliver` and what it came to. -/
structure DeliverCall where
  config : WebhookConfig
  task : EndedTask
  deliveryId : String
  result : Except Raised WebhookDelivery

/-- The application state, the history objects, the background runs and the deliveries made. -/
structure WebhookWorld where
  state : AppState
  histories : HistoryRef → DeliveryHistory := fun _ ↦ {}
  backgroundRuns : String → Option BackgroundRun := fun _ ↦ none
  calls : List DeliverCall := []

/-- What a delivery finds: its new identifier, the time and the answers of the endpoint. -/
structure DeliveryEnv where
  deliveryId : String
  now : ℤ
  startedAt : String
  answers : ℕ → PostOutcome

/-- `_webhook_config_from_request`. -/
def webhookConfigFromRequest (req : SubmitTaskRequest) : Option WebhookConfig :=
  match req.webhookUrl, req.webhookSecret with
  | some url, some secret => if url = "" ∨ secret = "" then none else some ⟨url, secret⟩
  | _, _ => none

namespace WebhookWorld

/-- `submit_task`, with the new identifier of the task. -/
def submitTask (w : WebhookWorld) (taskRunId : String) (req : SubmitTaskRequest) : WebhookWorld :=
  let configs := w.state.dynamic.webhookConfigs.getD fun _ ↦ none
  match webhookConfigFromRequest req with
  | none =>
    { w with
      state.dynamic.webhookConfigs := some configs
      backgroundRuns := Function.update w.backgroundRuns taskRunId (some ⟨false, false⟩) }
  | some config =>
    { w with
      state.dynamic.webhookConfigs := some (Function.update configs taskRunId (some config))
      backgroundRuns := Function.update w.backgroundRuns taskRunId (some ⟨true, false⟩) }

/-- The delivery of a payload by a dispatcher, whose outcome goes to the history `history`. -/
def deliverAndRecord (P : Primitives) (w : WebhookWorld) (D : WebhookDispatcher)
    (history : Option HistoryRef) (config : WebhookConfig) (task : EndedTask) (env : DeliveryEnv) :
    WebhookWorld :=
  let result := (deliver P D config task env.deliveryId env.now env.answers).2
  let w' := { w with calls := w.calls ++ [⟨config, task, env.deliveryId, result⟩] }
  match result, history with
  | .ok d, some ref =>
    { w' with
      histories := Function.update w.histories ref ((w.histories ref).record
        (.fromDelivery d task env.deliveryId env.startedAt config)) }
  | _, _ => w'

/-- The task that the wrapper delivers. -/
def endedTask (taskRunId : String) (result : CoordinatorResult) : EndedTask :=
  ⟨taskRunId, result.state.value, result.planId, result.nodeResults, result.error⟩

/-- `_wrap_with_webhook`, once the run has returned. -/
def wrapWithWebhook (P : Primitives) (w : WebhookWorld) (taskRunId : String)
    (result : CoordinatorResult) (env : DeliveryEnv) : WebhookWorld :=
  match (w.state.dynamic.webhookConfigs.getD fun _ ↦ none) taskRunId with
  | none => w
  | some config =>
    match w.state.dynamic.webhookDispatcher with
    | none => w
    | some D =>
      deliverAndRecord P w D w.state.dynamic.webhookHistory config (endedTask taskRunId result) env

/-- The run of a task returns, and what is wrapped around it goes on. -/
def runReturns (P : Primitives) (w : WebhookWorld) (taskRunId : String)
    (result : CoordinatorResult) (env : DeliveryEnv) : WebhookWorld :=
  match w.backgroundRuns taskRunId with
  | some ⟨wrapped, false⟩ =>
    let w' := { w with
      backgroundRuns := Function.update w.backgroundRuns taskRunId (some ⟨wrapped, true⟩) }
    if wrapped then wrapWithWebhook P w' taskRunId result env else w'
  | _ => w

/-- The run of a task raises, and so does the wrapper. -/
def runRaises (w : WebhookWorld) (taskRunId : String) : WebhookWorld :=
  match w.backgroundRuns taskRunId with
  | some ⟨wrapped, false⟩ =>
    { w with backgroundRuns := Function.update w.backgroundRuns taskRunId (some ⟨wrapped, true⟩) }
  | _ => w

/-- `admin_webhook_retry`. -/
def adminWebhookRetry (P : Primitives) (w : WebhookWorld) (taskRunId : String)
    (env : DeliveryEnv) : WebhookWorld :=
  match w.state.webhookHistory with
  | none => w
  | some ref =>
    match (w.histories ref).lastFailed taskRunId with
    | none => w
    | some last =>
      match w.state.webhookDispatcher with
      | none => w
      | some D =>
        deliverAndRecord P w D (some ref) ⟨last.webhookUrl, last.webhookSecret⟩
          ⟨last.taskRunId, last.state, last.planId, last.nodeResults.getD [], last.payloadError⟩ env

end WebhookWorld

/-- A step of the application. -/
inductive WebhookOp where
  | submit (taskRunId : String) (req : SubmitTaskRequest)
  | runReturns (taskRunId : String) (result : CoordinatorResult) (env : DeliveryEnv)
  | runRaises (taskRunId : String)
  | retry (taskRunId : String) (env : DeliveryEnv)

namespace WebhookWorld

def step (P : Primitives) (w : WebhookWorld) : WebhookOp → WebhookWorld
  | .submit taskRunId req => w.submitTask taskRunId req
  | .runReturns taskRunId result env => w.runReturns P taskRunId result env
  | .runRaises taskRunId => w.runRaises taskRunId
  | .retry taskRunId env => w.adminWebhookRetry P taskRunId env

/-- The deliveries made for a task. -/
def callsFor (w : WebhookWorld) (taskRunId : String) : List DeliverCall :=
  w.calls.filter fun c ↦ decide (c.task.taskRunId = taskRunId)

/-- The identifier is new: nothing was delivered or recorded for it. -/
structure NewTask (w : WebhookWorld) (taskRunId : String) : Prop where
  calls : w.callsFor taskRunId = []
  histories : ∀ ref, (w.histories ref).Without taskRunId

/-- The webhook of a task has fired once, with the state the run returned, and the history `ref` has
one record if the delivery returned. -/
structure FiresOnce (w : WebhookWorld) (ref : HistoryRef) (taskRunId : String)
    (result : CoordinatorResult) : Prop where
  once : ∃ call, w.callsFor taskRunId = [call] ∧ call.task.state = result.state.value
  recorded : ∀ call ∈ w.callsFor taskRunId, ∀ d, call.result = .ok d →
    ∃ r, (w.histories ref).forTask taskRunId = [r]

end WebhookWorld

/-- The step submits the task or ends its run. -/
def WebhookOp.Concerns (taskRunId : String) : WebhookOp → Prop
  | .submit id _ | .runReturns id _ _ | .runRaises id => id = taskRunId
  | .retry _ _ => False

namespace WebhookWorld

/-! ## While the task runs -/

variable {P : Primitives} {w : WebhookWorld} {taskRunId : String} {config : WebhookConfig}
  {base : AppState} {ref : HistoryRef} {cap : ℕ}

/-- The task was submitted with a webhook, its run has not ended, and nothing was delivered for
it. -/
structure Waiting (w : WebhookWorld) (base : AppState) (ref : HistoryRef) (cap : ℕ)
    (taskRunId : String) (config : WebhookConfig) : Prop where
  new : w.NewTask taskRunId
  running : w.backgroundRuns taskRunId = some ⟨true, false⟩
  config : (w.state.dynamic.webhookConfigs.getD fun _ ↦ none) taskRunId = some config
  dispatcher : w.state.dynamic.webhookDispatcher = base.dynamic.webhookDispatcher
  history : w.state.dynamic.webhookHistory = base.dynamic.webhookHistory
  maxPerTask : (w.histories ref).maxPerTask = cap

/-- What a delivery changes. -/
theorem deliverAndRecord_cases (P : Primitives) (w : WebhookWorld) (D : WebhookDispatcher)
    (history : Option HistoryRef) (config : WebhookConfig) (task : EndedTask) (env : DeliveryEnv) :
    ∃ call histories, call.task = task ∧
      deliverAndRecord P w D history config task env =
        { w with calls := w.calls ++ [call], histories := histories } ∧
      ∀ ref, histories ref = w.histories ref ∨
        ∃ r, r.taskRunId = task.taskRunId ∧ histories ref = (w.histories ref).record r := by
  cases hresult : (deliver P D config task env.deliveryId env.now env.answers).2 with
  | error e =>
    simp only [deliverAndRecord, hresult]
    exact ⟨_, _, rfl, rfl, fun ref ↦ Or.inl rfl⟩
  | ok d =>
    cases history with
    | none =>
      simp only [deliverAndRecord, hresult]
      exact ⟨_, _, rfl, rfl, fun ref ↦ Or.inl rfl⟩
    | some ref =>
      simp only [deliverAndRecord, hresult]
      refine ⟨_, _, rfl, rfl, fun ref' ↦ ?_⟩
      by_cases href : ref' = ref
      · subst href
        rw [Function.update_self]
        exact Or.inr ⟨_, rfl, rfl⟩
      · rw [Function.update_of_ne href]
        exact Or.inl rfl

/-- A delivery for another task leaves no trace of this one. -/
theorem Waiting.deliverAndRecord {D : WebhookDispatcher} {history : Option HistoryRef}
    {config' : WebhookConfig} {task : EndedTask} {env : DeliveryEnv}
    (h : w.Waiting base ref cap taskRunId config) (hne : task.taskRunId ≠ taskRunId) :
    (deliverAndRecord P w D history config' task env).Waiting base ref cap taskRunId config := by
  obtain ⟨call, histories, rfl, heq, hhist⟩ :=
    deliverAndRecord_cases P w D history config' task env
  rw [heq]
  refine ⟨⟨?_, fun ref' ↦ ?_⟩, h.running, h.config, h.dispatcher, h.history, ?_⟩
  · have hother : ([call].filter fun c ↦ decide (c.task.taskRunId = taskRunId)) = [] := by
      simpa using hne
    rw [callsFor, List.filter_append, hother, List.append_nil]
    exact h.new.calls
  · show (histories ref').Without taskRunId
    rcases hhist ref' with hsame | ⟨r, hr, hrecord⟩
    · rw [hsame]
      exact h.new.histories ref'
    · rw [hrecord]
      exact (h.new.histories ref').record (hr ▸ hne)
  · show (histories ref).maxPerTask = cap
    rcases hhist ref with hsame | ⟨r, -, hrecord⟩
    · rw [hsame]
      exact h.maxPerTask
    · rw [hrecord, DeliveryHistory.maxPerTask_record]
      exact h.maxPerTask

/-- The run of another task. -/
theorem Waiting.update_backgroundRuns {id : String} {b : Option BackgroundRun}
    (h : w.Waiting base ref cap taskRunId config) (hne : id ≠ taskRunId) :
    ({ w with backgroundRuns := Function.update w.backgroundRuns id b } : WebhookWorld).Waiting
      base ref cap taskRunId config :=
  ⟨⟨h.new.calls, h.new.histories⟩,
    (Function.update_of_ne hne.symm b w.backgroundRuns).trans h.running, h.config, h.dispatcher,
    h.history, h.maxPerTask⟩

theorem Waiting.submitTask {id : String} {req : SubmitTaskRequest}
    (h : w.Waiting base ref cap taskRunId config) (hne : id ≠ taskRunId) :
    (w.submitTask id req).Waiting base ref cap taskRunId config := by
  rw [WebhookWorld.submitTask]
  split
  · refine ⟨⟨h.new.calls, h.new.histories⟩, ?_, h.config, h.dispatcher, h.history, h.maxPerTask⟩
    exact (Function.update_of_ne hne.symm _ w.backgroundRuns).trans h.running
  · refine ⟨⟨h.new.calls, h.new.histories⟩, ?_, ?_, h.dispatcher, h.history, h.maxPerTask⟩
    · exact (Function.update_of_ne hne.symm _ w.backgroundRuns).trans h.running
    · exact (Function.update_of_ne hne.symm _ _).trans h.config

theorem Waiting.runReturns {id : String} {result : CoordinatorResult} {env : DeliveryEnv}
    (h : w.Waiting base ref cap taskRunId config) (hne : id ≠ taskRunId) :
    (w.runReturns P id result env).Waiting base ref cap taskRunId config := by
  rw [WebhookWorld.runReturns]
  split
  next wrapped _ =>
    have hdone := h.update_backgroundRuns (b := some ⟨wrapped, true⟩) hne
    split_ifs
    · rw [wrapWithWebhook]
      split
      · exact hdone
      split
      · exact hdone
      · exact hdone.deliverAndRecord hne
    · exact hdone
  next => exact h

theorem Waiting.adminWebhookRetry {id : String} {env : DeliveryEnv}
    (h : w.Waiting base ref cap taskRunId config) :
    (w.adminWebhookRetry P id env).Waiting base ref cap taskRunId config := by
  rw [WebhookWorld.adminWebhookRetry]
  split
  · exact h
  next ref' _ =>
  split
  · exact h
  next last hlast =>
  split
  · exact h
  · exact h.deliverAndRecord (h.new.histories ref' id last (mem_of_lastFailed hlast)).2

/-- **A step that does not concern the task** leaves it waiting. -/
theorem Waiting.step {op : WebhookOp} (h : w.Waiting base ref cap taskRunId config)
    (hop : ¬op.Concerns taskRunId) : (w.step P op).Waiting base ref cap taskRunId config := by
  cases op with
  | submit id req => exact h.submitTask hop
  | runReturns id result env => exact h.runReturns hop
  | runRaises id =>
    rw [WebhookWorld.step, runRaises]
    split
    · exact h.update_backgroundRuns hop
    · exact h
  | retry id env => exact h.adminWebhookRetry

/-- A request with a webhook leaves its task waiting. -/
theorem NewTask.waiting (h : w.NewTask taskRunId) (ref : HistoryRef) {req : SubmitTaskRequest}
    (hreq : webhookConfigFromRequest req = some config) :
    (w.submitTask taskRunId req).Waiting w.state ref (w.histories ref).maxPerTask taskRunId
      config := by
  simp only [WebhookWorld.submitTask, hreq]
  refine ⟨⟨h.calls, h.histories⟩, ?_, ?_, rfl, rfl, rfl⟩
  · exact Function.update_self _ _ _
  · exact Function.update_self _ _ _

/-! ## When the run returns -/

/-- The wrapper of a waiting task: it delivers if it finds a dispatcher. -/
theorem Waiting.runReturns_self {result : CoordinatorResult} {env : DeliveryEnv}
    (h : w.Waiting base ref cap taskRunId config) :
    w.runReturns P taskRunId result env =
      match base.dynamic.webhookDispatcher with
      | none => { w with
          backgroundRuns := Function.update w.backgroundRuns taskRunId (some ⟨true, true⟩) }
      | some D => WebhookWorld.deliverAndRecord P { w with
          backgroundRuns := Function.update w.backgroundRuns taskRunId (some ⟨true, true⟩) } D
          base.dynamic.webhookHistory config (endedTask taskRunId result) env := by
  have hconfig := h.config
  simp only [WebhookWorld.runReturns, h.running, if_true, wrapWithWebhook, hconfig, h.dispatcher,
    h.history]

/-- The first delivery for a task is the only one. -/
theorem NewTask.callsFor_append (h : w.NewTask taskRunId) (call : DeliverCall)
    (hcall : call.task.taskRunId = taskRunId) (histories : HistoryRef → DeliveryHistory) :
    callsFor { w with calls := w.calls ++ [call], histories := histories } taskRunId = [call] := by
  have hold : (w.calls.filter fun c ↦ decide (c.task.taskRunId = taskRunId)) = [] := h.calls
  have hown : ([call].filter fun c ↦ decide (c.task.taskRunId = taskRunId)) = [call] :=
    List.filter_eq_self.mpr fun c hc ↦ decide_eq_true (List.mem_singleton.mp hc ▸ hcall)
  rw [callsFor, List.filter_append, hold, List.nil_append, hown]

/-- A first delivery that has returned: the webhook has fired once if there is one record. -/
theorem NewTask.firesOnce_append_iff (h : w.NewTask taskRunId) {call : DeliverCall}
    {result : CoordinatorResult} {d : WebhookDelivery}
    (hcall : call.task = endedTask taskRunId result) (hok : call.result = .ok d)
    (histories : HistoryRef → DeliveryHistory) :
    FiresOnce { w with calls := w.calls ++ [call], histories := histories } ref taskRunId result ↔
      ∃ r, (histories ref).forTask taskRunId = [r] := by
  have hcalls := h.callsFor_append call (by rw [hcall]; rfl) histories
  constructor
  · intro hfires
    refine hfires.recorded call ?_ d hok
    rw [hcalls]
    exact List.mem_singleton_self call
  · refine fun hrecord ↦ ⟨⟨call, hcalls, by rw [hcall]; rfl⟩, ?_⟩
    exact fun _ _ _ _ ↦ hrecord

/-- The first delivery of a task. -/
theorem NewTask.firesOnce_deliverAndRecord_iff (h : w.NewTask taskRunId) {D : WebhookDispatcher}
    {history : Option HistoryRef} {result : CoordinatorResult} {env : DeliveryEnv} :
    (deliverAndRecord P w D history config (endedTask taskRunId result) env).FiresOnce ref taskRunId
        result ↔
      ((∃ d, (deliver P D config (endedTask taskRunId result) env.deliveryId env.now
          env.answers).2 = .ok d) → history = some ref ∧ 0 < (w.histories ref).maxPerTask) := by
  have hempty : (w.histories ref).forTask taskRunId = [] :=
    forTask_eq_nil_of_without (h.histories ref)
  cases hresult : (deliver P D config (endedTask taskRunId result) env.deliveryId env.now
      env.answers).2 with
  | error e =>
    -- nothing is promised about the history when the delivery raises
    simp only [deliverAndRecord, hresult]
    have hcalls := h.callsFor_append
      ⟨config, endedTask taskRunId result, env.deliveryId, .error e⟩ rfl w.histories
    refine iff_of_true ⟨⟨_, hcalls, rfl⟩, fun call hcall d hd ↦ ?_⟩ nofun
    rw [hcalls, List.mem_singleton] at hcall
    rw [hcall] at hd
    cases hd
  | ok d =>
    have hret : ∃ d', (Except.ok d : Except Raised WebhookDelivery) = .ok d' := ⟨d, rfl⟩
    cases history with
    | none =>
      simp only [deliverAndRecord, hresult]
      rw [h.firesOnce_append_iff rfl rfl, hempty]
      exact iff_of_false nofun fun himp ↦ nomatch (himp hret).1
    | some ref' =>
      simp only [deliverAndRecord, hresult]
      rw [h.firesOnce_append_iff rfl rfl, imp_iff_right hret]
      by_cases href : ref' = ref
      · subst href
        have hself : ((w.histories ref').record (.fromDelivery d (endedTask taskRunId result)
            env.deliveryId env.startedAt config)).forTask taskRunId =
            (w.histories ref').push ((w.histories ref').forTask taskRunId) (.fromDelivery d
              (endedTask taskRunId result) env.deliveryId env.startedAt config) :=
          forTask_record_self
        rw [Function.update_self, hself, hempty, push_nil_eq_singleton_iff, and_iff_right rfl]
      · rw [Function.update_of_ne (Ne.symm href), hempty]
        exact iff_of_false nofun fun hboth ↦ href (Option.some.inj hboth.1)

/-- **Exactly when the webhook fires once**: the dispatcher is there under the name that the wrapper
looks up, and if the delivery returns, so is the history. -/
theorem Waiting.firesOnce_runReturns_iff {result : CoordinatorResult} {env : DeliveryEnv}
    (h : w.Waiting base ref cap taskRunId config) :
    (w.runReturns P taskRunId result env).FiresOnce ref taskRunId result ↔
      ∃ D, base.dynamic.webhookDispatcher = some D ∧
        ((∃ d, (deliver P D config (endedTask taskRunId result) env.deliveryId env.now
            env.answers).2 = .ok d) →
          base.dynamic.webhookHistory = some ref ∧ 0 < cap) := by
  rw [h.runReturns_self]
  cases hD : base.dynamic.webhookDispatcher with
  | none =>
    refine iff_of_false (fun hfires ↦ ?_) (by simp)
    obtain ⟨call, hcall, -⟩ := hfires.once
    have hnone : w.callsFor taskRunId = [call] := hcall
    rw [h.new.calls] at hnone
    cases hnone
  | some D =>
    have hnew : NewTask { w with
        backgroundRuns := Function.update w.backgroundRuns taskRunId (some ⟨true, true⟩) }
        taskRunId := ⟨h.new.calls, h.new.histories⟩
    have hmax := h.maxPerTask
    rw [hnew.firesOnce_deliverAndRecord_iff, hmax]
    simp

/-- **Exactly when a configured webhook fires once**, in any application state whose history is
set, for any task that is submitted with a webhook and whatever happens until its run returns: an
attribute `_webhook_dispatcher` exists, and if the delivery returns, an attribute `_webhook_history`
holds the history of the field, which keeps at least one record of a task. -/
theorem firesOnce_iff (P : Primitives) (w : WebhookWorld) (taskRunId : String)
    (hnew : w.NewTask taskRunId) (ref : HistoryRef)
    (_hhistory : w.state.webhookHistory = some ref) (req : SubmitTaskRequest)
    (config : WebhookConfig) (hreq : webhookConfigFromRequest req = some config)
    (ops : List WebhookOp) (hops : ∀ op ∈ ops, ¬op.Concerns taskRunId) (result : CoordinatorResult)
    (env : DeliveryEnv) :
    (run (step P) w (.submit taskRunId req :: ops ++ [.runReturns taskRunId result env])).FiresOnce
        ref taskRunId result ↔
      ∃ D, w.state.dynamic.webhookDispatcher = some D ∧
        ((∃ d, (deliver P D config (endedTask taskRunId result) env.deliveryId env.now
            env.answers).2 = .ok d) →
          w.state.dynamic.webhookHistory = some ref ∧ 0 < (w.histories ref).maxPerTask) := by
  have hsubmitted := hnew.waiting ref hreq
  have hwaiting : (run (step P) (w.submitTask taskRunId req) ops).Waiting w.state ref
      (w.histories ref).maxPerTask taskRunId config :=
    run_induction (I := fun w' ↦ Waiting w' w.state ref _ taskRunId config)
      (fun _ _ h hop ↦ h.step hop) hsubmitted (allSteps_of_mem hops _)
  rw [run_append, run_cons]
  exact hwaiting.firesOnce_runReturns_iff

/-! ## States as the program builds them -/

/-- The wrapper finds no dispatcher, and nothing was delivered or recorded. -/
structure Silent (w : WebhookWorld) : Prop where
  dispatcher : w.state.dynamic.webhookDispatcher = none
  histories : ∀ ref key, (w.histories ref).forTask key = []
  calls : w.calls = []

theorem Silent.step (h : w.Silent) (op : WebhookOp) : (w.step P op).Silent := by
  cases op with
  | submit id req =>
    rw [WebhookWorld.step, WebhookWorld.submitTask]
    split <;> exact ⟨h.dispatcher, h.histories, h.calls⟩
  | runReturns id result env =>
    rw [WebhookWorld.step, WebhookWorld.runReturns]
    split
    · split_ifs
      · rw [wrapWithWebhook]
        split
        · exact ⟨h.dispatcher, h.histories, h.calls⟩
        · rw [h.dispatcher]
          exact ⟨h.dispatcher, h.histories, h.calls⟩
      · exact ⟨h.dispatcher, h.histories, h.calls⟩
    · exact h
  | runRaises id =>
    rw [WebhookWorld.step, WebhookWorld.runRaises]
    split
    · exact ⟨h.dispatcher, h.histories, h.calls⟩
    · exact h
  | retry id env =>
    rw [WebhookWorld.step, WebhookWorld.adminWebhookRetry]
    split
    · exact h
    next ref _ =>
    have hnone : (w.histories ref).lastFailed id = none := by
      rw [lastFailed, h.histories ref id, List.reverse_nil, List.find?_nil]
    rw [hnone]
    exact h

/-- **No webhook is ever called** in a run that starts without the attribute. -/
theorem calls_run_of_silent (P : Primitives) (h : w.Silent) (ops : List WebhookOp) :
    (run (step P) w ops).calls = [] :=
  (run_invariant (fun _ op h ↦ h.step op) h ops : (run (step P) w ops).Silent).calls

/-! ### The default state -/

/-- The state that `_bootstrap_default_state` builds. -/
def defaultWorld : WebhookWorld := { state := ⟨some {}, some 0, {}⟩ }

def partnerRequest : SubmitTaskRequest := ⟨some "https://partner.example/hook", some "whsec"⟩

def succeededResult : CoordinatorResult := ⟨.succeeded, some "plan-1", [], none⟩

def acceptingEnv : DeliveryEnv := ⟨"d-1", 0, "2026-01-01T00:00:00+00:00", fun _ ↦ .response 200⟩

theorem newTask_defaultWorld (taskRunId : String) : defaultWorld.NewTask taskRunId :=
  ⟨rfl, fun _ _ _ hr ↦ nomatch hr⟩

theorem firesOnce_defaultWorld_iff :
    (run (step ⟨fun _ ↦ [0], fun _ _ ↦ [0], fun _ _ ↦ by decide⟩) defaultWorld
      (.submit "task-1" partnerRequest ::
        [.retry "task-1" acceptingEnv, .runRaises "task-0"] ++
          [.runReturns "task-1" succeededResult acceptingEnv])).FiresOnce 0 "task-1"
        succeededResult ↔
      ∃ D, defaultWorld.state.dynamic.webhookDispatcher = some D ∧
        ((∃ d, (deliver ⟨fun _ ↦ [0], fun _ _ ↦ [0], fun _ _ ↦ by decide⟩ D
            ⟨"https://partner.example/hook", "whsec"⟩ (endedTask "task-1" succeededResult)
            acceptingEnv.deliveryId acceptingEnv.now acceptingEnv.answers).2 = .ok d) →
          defaultWorld.state.dynamic.webhookHistory = some 0 ∧
            0 < (defaultWorld.histories 0).maxPerTask) :=
  firesOnce_iff _ defaultWorld "task-1" (newTask_defaultWorld "task-1") 0 rfl partnerRequest _
    (by decide) [.retry "task-1" acceptingEnv, .runRaises "task-0"]
    (by simp [WebhookOp.Concerns]) succeededResult acceptingEnv

theorem silent_defaultWorld : defaultWorld.Silent := ⟨rfl, fun _ _ ↦ rfl, rfl⟩

/-- The webhook of a task that succeeds in the default state is not called. -/
theorem not_firesOnce_defaultWorld :
    ¬(run (step ⟨fun _ ↦ [0], fun _ _ ↦ [0], fun _ _ ↦ by decide⟩) defaultWorld
      [.submit "task-1" partnerRequest,
        .runReturns "task-1" succeededResult acceptingEnv]).FiresOnce 0 "task-1"
        succeededResult := by
  intro hfires
  obtain ⟨call, hcall, -⟩ := hfires.once
  rw [callsFor, calls_run_of_silent _ silent_defaultWorld] at hcall
  exact absurd hcall nofun

end WebhookWorld

end Webhooks

end Orchestra
