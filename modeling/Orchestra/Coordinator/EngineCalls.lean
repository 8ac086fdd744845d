import Orchestra.Coordinator.EngineRun

/-!
# The calls an execution makes

What executes a plan makes calls that are about the task of the run, and it neither plans nor writes
the row of the task. The parts of the run that end it write that row too. One lemma for each part
says so; what such calls keep is kept by the whole part, by the frame rule.
-/

namespace Orchestra

namespace Engine

open Interaction

/-- The task a call of the execution names, its own when it names none; the calls of the planning and
the writes of the row of a task are not of the execution. -/
def Cmd.task? (own : String) : Cmd → Option String
  | .setInitialInputs _ | .upsertTaskRun _ _ _ _ _ | .updateTaskState _ _ | .route _ _
  | .signPlan _ => none
  | .getTaskRun id | .getReceipts id | .publish id _ | .closeBus id | .createForNode id _ _
  | .registerApproval id _ _ | .handleApproval id _ _ => some id
  | .upsertNodeRun row => some row.taskRunId
  | .appendEvent ev => ev.taskRunId
  | .saveApproval row => some row.taskRunId
  | _ => some own

/-- A call of the execution of the task. -/
def Cmd.Executes (taskRunId : String) (c : Cmd) : Prop := c.task? taskRunId = some taskRunId

/-- A call of the execution, or a write of the state of the task. -/
def Cmd.Ends (taskRunId : String) (c : Cmd) : Prop :=
  c.Executes taskRunId ∨ ∃ state, c = .updateTaskState taskRunId state

variable {cfg : Config} {a : RunArgs} {taskRunId : String} {plan : ExecutionPlan}

theorem Cmd.Executes.spares {c : Cmd} (h : c.Executes taskRunId) : c.writesTask = false := by
  cases c with
  | upsertTaskRun id contractId templateId state planId => cases h
  | updateTaskState id state => cases h
  | _ => rfl

/-! ## The planning -/

theorem calls_planNodes {φ : Cmd → Prop} {label : SecurityLabel} (specs : List NodeSpec)
    (budget : ℚ) (h : ∀ spec q, φ (.route spec q)) :
    Calls φ (planNodes cfg label specs budget) := by
  induction specs generalizing budget with
  | nil => exact calls_pure _
  | cons spec specs ih =>
    rw [planNodes]
    split
    · exact (ih budget).bind fun rest ↦ calls_pure _
    · exact (calls_perform.mpr (h _ _)).bind fun result ↦ (ih _).bind fun rest ↦ calls_pure _

/-! ## A node -/

theorem executes_call {c : Cmd} (hc : c.task? taskRunId = some taskRunId) :
    Calls (Cmd.Executes taskRunId) (call c) :=
  calls_perform.mpr hc

theorem executes_emit {nodeRunId : Option String} {kind : EventKind} {payload : Dict} :
    Calls (Cmd.Executes taskRunId) (emit cfg taskRunId nodeRunId kind payload) := by
  refine calls_emit fun c hc ↦ ?_
  cases hc <;> rfl

theorem executes_failNode {α : Type} {ctx : NodeContext} {payload : Dict} {e : Raised} :
    Calls (Cmd.Executes taskRunId) (failNode (α := α) cfg taskRunId ctx payload e) :=
  (executes_call rfl).bind fun _ ↦ executes_emit.bind fun _ ↦ calls_raise e

theorem executes_startNode {node : PlanNode} {force : Option String} :
    Calls (Cmd.Executes taskRunId) (startNode cfg taskRunId node force) := by
  refine (executes_call rfl).bind fun nodeRunId ↦ ?_
  refine (calls_ofExcept _).bind fun manifest ↦ ?_
  refine (executes_call rfl).bind fun _ ↦ ?_
  exact executes_emit.bind fun _ ↦ calls_pure _

theorem executes_execInProcess {ctx : NodeContext} {previous : Dict} :
    Calls (Cmd.Executes taskRunId) (execInProcess cfg taskRunId ctx previous) := by
  have houtput : Calls (Cmd.Executes taskRunId) (inProcessOutput ctx.node.nodeId previous) := by
    rw [inProcessOutput]
    split
    · exact (executes_call rfl).bind fun initial ↦ calls_pure _
    · exact executes_call rfl
  refine houtput.bind fun output ↦ ?_
  refine (executes_call rfl).bind fun _ ↦ ?_
  exact (executes_call rfl).bind fun _ ↦ executes_emit

theorem executes_issueGrant {ctx : NodeContext} :
    Calls (Cmd.Executes taskRunId) (issueGrant cfg taskRunId ctx) := by
  refine (executes_call rfl).bind fun grantId ↦ ?_
  refine (executes_call rfl).bind fun now ↦ ?_
  refine (executes_call rfl).bind fun _ ↦ ?_
  exact executes_emit.bind fun _ ↦ calls_pure _

theorem executes_egress {ctx : NodeContext} {inputs : Dict} :
    Calls (Cmd.Executes taskRunId) (egress cfg taskRunId ctx inputs) := by
  rw [egress]
  split
  · split
    · exact calls_pure _
    · refine Calls.bind ?_ fun projected ↦ (calls_ofExcept _).bind fun result ↦ calls_pure _
      refine (executes_call rfl).tryCatch fun e ↦ ?_
      split
      · exact executes_emit.bind fun _ ↦ executes_failNode
      · exact calls_raise e
  · exact calls_pure _

theorem executes_recordIo {ctx : NodeContext} {e : Egress} {outputs : Dict} {latency : ℤ} :
    Calls (Cmd.Executes taskRunId) (recordIo cfg taskRunId ctx e outputs latency) :=
  executes_emit.bind fun _ ↦ executes_emit.bind fun _ ↦ executes_emit

theorem executes_finishNode {ctx : NodeContext} {inputs : Dict} {result : AdapterResult}
    {startedAt endedAt : ℕ} {latency : ℤ} :
    Calls (Cmd.Executes taskRunId)
      (finishNode cfg taskRunId ctx inputs result startedAt endedAt latency) := by
  refine (executes_call rfl).bind fun _ ↦ ?_
  refine (executes_call rfl).bind fun _ ↦ ?_
  refine Calls.bind ?_ fun receipt ↦ ?_
  · refine (executes_call rfl).bind fun row ↦ ?_
    refine (calls_ofExcept _).bind fun planDigest ↦ ?_
    refine (executes_call rfl).bind fun receiptId ↦ ?_
    exact (executes_call rfl).bind fun now ↦ calls_pure _
  refine (executes_call rfl).bind fun _ ↦ ?_
  exact executes_emit.bind fun _ ↦ executes_emit

theorem executes_execNode {node : PlanNode} {previous : Dict} {force : Option String}
    {approval : Option Dict} :
    Calls (Cmd.Executes taskRunId) (execNode cfg taskRunId node previous force approval) := by
  refine executes_startNode.bind fun ctx ↦ ?_
  split
  · exact executes_execInProcess
  refine executes_issueGrant.bind fun grant ↦ ?_
  refine (executes_call rfl).bind fun _ ↦ ?_
  refine (executes_call rfl).bind fun startedAt ↦ ?_
  refine executes_egress.bind fun e ↦ ?_
  refine (executes_call rfl).bind fun t0 ↦ ?_
  refine ((executes_call rfl).tryCatch fun e ↦ executes_failNode).bind fun result ↦ ?_
  refine (executes_call rfl).bind fun t1 ↦ ?_
  refine (executes_call rfl).bind fun endedAt ↦ ?_
  exact executes_recordIo.bind fun _ ↦ executes_finishNode

theorem executes_executeNodes :
    Calls (Cmd.Executes a.taskRunId) (executeNodes cfg a plan) := by
  refine (calls_ofExcept _).bind fun ingest ↦ ?_
  refine executes_execNode.bind fun _ ↦ ?_
  refine (calls_ofExcept _).bind fun extract ↦ ?_
  refine (executes_call rfl).bind fun contract ↦ ?_
  refine executes_execNode.bind fun _ ↦ ?_
  refine (calls_ofExcept _).bind fun research ↦ ?_
  refine (executes_call rfl).bind fun extracted ↦ ?_
  refine (calls_ofExcept _).bind fun query ↦ ?_
  refine executes_execNode.bind fun _ ↦ ?_
  refine (calls_ofExcept _).bind fun merge ↦ ?_
  refine (executes_call rfl).bind fun facts ↦ ?_
  refine (executes_call rfl).bind fun researched ↦ ?_
  exact executes_execNode

/-! ## The approval -/

theorem executes_approvalHandler {nodeId : String} {request : Dict} :
    Calls (Cmd.Executes taskRunId) (approvalHandler cfg taskRunId nodeId request) := by
  rw [approvalHandler]
  split
  · exact executes_call rfl
  refine (executes_call rfl).bind fun now ↦ ?_
  refine Calls.bind ?_ fun approvalId ↦ ?_
  · rw [createApprovalRow]
    split
    · split
      · exact calls_pure _
      · refine Calls.tryCatch ?_ fun _ ↦ calls_pure _
        exact (executes_call rfl).bind fun approvalId ↦ calls_pure _
    · exact calls_pure _
  refine (executes_call rfl).bind fun _ ↦ ?_
  refine Calls.bind ?_ fun _ ↦ ?_
  · cases approvalId with
    | some id => exact calls_pure _
    | none => exact (executes_call rfl).bind fun newId ↦ executes_call rfl
  exact executes_emit.bind fun _ ↦ executes_call rfl

theorem executes_decideTask : Calls (Cmd.Executes a.taskRunId) (decideTask cfg a) := by
  refine (executes_call rfl).bind fun merged ↦ ?_
  refine executes_approvalHandler.bind fun decision ↦ ?_
  refine (executes_call rfl).bind fun _ ↦ ?_
  exact executes_emit.bind fun _ ↦ calls_pure _

/-! ## The end of a run -/

theorem executes_closeBus : Calls (Cmd.Executes taskRunId) (closeBus cfg taskRunId) :=
  calls_closeBus rfl

theorem Calls.ends {α : Type} {p : Prog α} (h : Calls (Cmd.Executes taskRunId) p) :
    Calls (Cmd.Ends taskRunId) p :=
  h.mono fun _ hc ↦ Or.inl hc

theorem ends_updateTaskState (state : TaskRunState) :
    Calls (Cmd.Ends taskRunId) (call (.updateTaskState taskRunId state)) :=
  calls_perform.mpr (Or.inr ⟨state, rfl⟩)

theorem ends_executePlan : Calls (Cmd.Ends a.taskRunId) (executePlan cfg a plan) := by
  refine (Calls.ends executes_executeNodes).bind fun _ ↦ ?_
  refine (Calls.ends executes_decideTask).bind fun decision ↦ ?_
  split
  · refine (calls_ofExcept _).bind fun sink ↦ ?_
    refine (Calls.ends (executes_call rfl)).bind fun merged ↦ ?_
    refine (Calls.ends executes_execNode).bind fun _ ↦ ?_
    refine (ends_updateTaskState _).bind fun _ ↦ ?_
    refine (Calls.ends (executes_call rfl)).bind fun results ↦ ?_
    exact (Calls.ends executes_emit).bind fun _ ↦ calls_pure _
  · refine (ends_updateTaskState _).bind fun _ ↦ ?_
    refine (Calls.ends executes_emit).bind fun _ ↦ ?_
    exact (Calls.ends executes_closeBus).bind fun _ ↦ calls_pure _

theorem ends_failTask {e : Raised} : Calls (Cmd.Ends a.taskRunId) (failTask cfg a e) := by
  refine (ends_updateTaskState _).bind fun _ ↦ ?_
  refine (Calls.ends executes_emit).bind fun _ ↦ ?_
  exact (Calls.ends executes_closeBus).bind fun _ ↦ calls_pure _

theorem executes_verifyRows (rows : List Receipt) :
    Calls (Cmd.Executes taskRunId) (verifyRows rows) := by
  induction rows with
  | nil => exact calls_pure _
  | cons row rows ih =>
    exact (executes_call rfl).bind fun verified ↦ ih.bind fun rest ↦ calls_pure _

theorem executes_finishRun {ending : Ending} :
    Calls (Cmd.Executes a.taskRunId) (finishRun cfg a plan ending) := by
  cases ending with
  | completed =>
    refine ((executes_call rfl).bind executes_verifyRows).bind fun verified ↦ ?_
    refine executes_closeBus.bind fun _ ↦ ?_
    exact (executes_call rfl).bind fun results ↦ calls_pure _
  | rejected => exact (executes_call rfl).bind fun results ↦ calls_pure _
  | failed error => exact (executes_call rfl).bind fun results ↦ calls_pure _

/-- **What follows the planning.** -/
theorem ends_execution : Calls (Cmd.Ends a.taskRunId) (do
    call (.updateTaskState a.taskRunId .running)
    let ending ← (executePlan cfg a plan).tryCatch (failTask cfg a)
    finishRun cfg a plan ending) := by
  refine (ends_updateTaskState _).bind fun _ ↦ ?_
  refine (ends_executePlan.tryCatch fun e ↦ ends_failTask).bind fun ending ↦ ?_
  exact Calls.ends executes_finishRun

end Engine

end Orchestra
