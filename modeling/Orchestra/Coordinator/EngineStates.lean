import Orchestra.Coordinator.EngineCalls
import Orchestra.Runtime.StateMachine

/-!
# The states a run persists

Planning persists `created` and `planned`, the execution begins with `running` and ends with
`succeeded` or `cancelled`, and the handler of its exceptions persists `failed` on top of whatever
is there. `At` says which states have been persisted; each part of the run has one specification in
terms of it, with a parameter `X` for what holds where a call raises.

Two properties are read off from these: when the states are a path of the transition table, and when
a run ends in a terminal state with its bus closed.
-/

namespace Orchestra

namespace Engine

open Interaction

/-! ## What has been persisted -/

/-- Exactly these states of the task were persisted; if there is one, the task has a row. -/
structure At (taskRunId : String) (states : List TaskRunState) (t : RunTrace) : Prop where
  persisted : persisted taskRunId t = states
  stored : states ≠ [] → (storedPlan taskRunId t).isSome

/-- The calls of `_emit` that can raise. -/
def Cmd.emits : Cmd → Bool
  | .appendEvent _ | .publish _ _ => true
  | _ => false

def Cmd.closesBus : Cmd → Bool
  | .closeBus _ => true
  | _ => false

variable {cfg : Config} {a : RunArgs} {taskRunId : String} {t : RunTrace} {s : RunStep}
  {states : List TaskRunState} {plan : ExecutionPlan}

theorem At.concat (h : At taskRunId states t) (hs : taskWrite? taskRunId s = none) :
    At taskRunId states (t ++ [s]) where
  persisted := by rw [persisted_concat, hs, Option.toList_none, List.append_nil, h.persisted]
  stored hne := isSome_storedPlan_concat (h.stored hne)

theorem taskWrite?_of_not_writes (hs : s.cmd.writesTask = false) :
    taskWrite? taskRunId s = none := by
  obtain ⟨c, r⟩ := s
  cases c with
  | upsertTaskRun id contractId templateId state planId => cases hs
  | updateTaskState id state => cases hs
  | _ => rfl

theorem At.concat_error {c : Cmd} {e : Raised} (h : At taskRunId states t) :
    At taskRunId states (t ++ [⟨c, .error e⟩]) := by
  have hsilent : Silent taskRunId ⟨c, .error e⟩ := silent_error c e
  exact h.concat hsilent.taskWrite

theorem At.upsert {contractId templateId : String} {state : TaskRunState}
    {planId : Option String} (h : At taskRunId states t) :
    At taskRunId (states ++ [state])
      (t ++ [⟨.upsertTaskRun taskRunId contractId templateId state planId, .ok ()⟩]) where
  persisted := by
    rw [persisted_concat, h.persisted]
    simp [taskWrite?]
  stored _ := by
    rw [storedPlan_concat]
    simp [planWrite?]

theorem At.update {state : TaskRunState} (h : At taskRunId states t) (hne : states ≠ []) :
    At taskRunId (states ++ [state]) (t ++ [⟨.updateTaskState taskRunId state, .ok ()⟩]) where
  persisted := by
    rw [persisted_concat, h.persisted]
    simp [taskWrite?]
  stored _ := isSome_storedPlan_concat (h.stored hne)

theorem closes_concat (h : Closes taskRunId t) : Closes taskRunId (t ++ [s]) :=
  List.mem_append_left _ h

/-- The call leaves the row of the task alone. -/
def Cmd.SparesTask (c : Cmd) : Prop := c.writesTask = false

theorem at_of_calls {α : Type} {p : Prog α} {A : RunTrace → RunStep → Prop}
    (h : Calls Cmd.SparesTask p) :
    Triple A (At taskRunId states) p (fun _ ↦ At taskRunId states) fun _ ↦ At taskRunId states :=
  Triple.of_calls h fun _ _ hs _ ht ↦ ht.concat (taskWrite?_of_not_writes hs)

/-! ## The parts of a run -/

/-- Where one of these calls raises after these states, `X` holds. -/
def RaisesTo (cfg : Config) (taskRunId : String) (G : RunTrace → RunStep → Prop)
    (states : List TaskRunState) (φ : Cmd → Prop) (X : RunTrace → Prop) : Prop :=
  ∀ t c e, φ c → At taskRunId states t → Admitted cfg taskRunId t ⟨c, .error e⟩ →
    G t ⟨c, .error e⟩ → X (t ++ [⟨c, .error e⟩])

section Parts

variable {G : RunTrace → RunStep → Prop} {X : RunTrace → Prop} {φ : Cmd → Prop}
  {B : List TaskRunState → Prop}

theorem call_at {c : Cmd} (h : RaisesTo cfg taskRunId G states φ X) (hc : c.writesTask = false)
    (hφ : φ c) :
    Triple (fun t s ↦ Admitted cfg taskRunId t s ∧ G t s) (At taskRunId states) (call c)
      (fun _ ↦ At taskRunId states) fun _ ↦ X :=
  Triple.perform (fun _ _ ht _ ↦ ht.concat (taskWrite?_of_not_writes hc))
    fun t e ht hA ↦ h t c e hφ ht hA.1 hA.2

theorem emit_at {nodeRunId : Option String} {kind : EventKind} {payload : Dict}
    (h : RaisesTo cfg taskRunId G states (·.emits) X) :
    Triple (fun t s ↦ Admitted cfg taskRunId t s ∧ G t s) (At taskRunId states)
      (emit cfg taskRunId nodeRunId kind payload) (fun _ ↦ At taskRunId states) fun _ ↦ X := by
  have hquiet {c : Cmd} (hc : c.writesTask = false)
      (hok : ∀ t e, ¬Admitted cfg taskRunId t ⟨c, .error e⟩) :
      Triple (fun t s ↦ Admitted cfg taskRunId t s ∧ G t s) (At taskRunId states) (call c)
        (fun _ ↦ At taskRunId states) fun _ ↦ X :=
    Triple.perform (fun _ _ ht _ ↦ ht.concat (taskWrite?_of_not_writes hc))
      fun t e _ hA ↦ absurd hA.1 (hok t e)
  refine (hquiet rfl fun t e hA ↦ ?_).bind fun eventId ↦ ?_
  · obtain ⟨id, hid, -⟩ := hA.newId _ rfl
    cases hid
  refine (hquiet rfl fun t e hA ↦ ?_).bind fun now ↦ ?_
  · obtain ⟨now, hnow⟩ := hA.utcNow _ rfl
    cases hnow
  refine (call_at h rfl rfl).bind fun _ ↦ ?_
  rw [publish]
  split
  · exact call_at h rfl rfl
  · exact Triple.ret fun t ht ↦ ht

/-- The states persisted before and between the calls of the planning. -/
def planningStates : List (List TaskRunState) := [[], [.created], [.created, .planned]]

theorem planNodes_at {label : SecurityLabel} (specs : List NodeSpec) (budget : ℚ)
    (h : RaisesTo cfg taskRunId G states (fun _ ↦ True) X) :
    Triple (fun t s ↦ Admitted cfg taskRunId t s ∧ G t s) (At taskRunId states)
      (planNodes cfg label specs budget) (fun _ ↦ At taskRunId states) fun _ ↦ X := by
  induction specs generalizing budget with
  | nil => exact Triple.ret fun t ht ↦ ht
  | cons spec specs ih =>
    rw [planNodes]
    split
    · exact (ih budget).bind fun rest ↦ Triple.ret fun t ht ↦ ht
    · refine (call_at h rfl trivial).bind fun result ↦ ?_
      exact (ih _).bind fun rest ↦ Triple.ret fun t ht ↦ ht

/-- **Planning** persists `created` and `planned`. -/
theorem planTask_at
    (h : ∀ states ∈ planningStates, RaisesTo cfg a.taskRunId G states (fun _ ↦ True) X) :
    Triple (fun t s ↦ Admitted cfg a.taskRunId t s ∧ G t s) (At a.taskRunId []) (planTask cfg a)
      (fun _ ↦ At a.taskRunId [.created, .planned]) fun _ ↦ X := by
  have hnone := h [] (by decide)
  have hcreated := h [.created] (by decide)
  have hplanned := h [.created, .planned] (by decide)
  have hemits {states : List TaskRunState}
      (h : RaisesTo cfg a.taskRunId G states (fun _ ↦ True) X) :
      RaisesTo cfg a.taskRunId G states (·.emits) X :=
    fun t c e _ ↦ h t c e trivial
  refine Triple.bind (Q := fun _ ↦ At a.taskRunId [.created]) ?_ fun _ ↦ ?_
  · exact Triple.perform (fun t _ ht _ ↦ ht.upsert) fun t e ht hA ↦ hnone t _ e trivial ht hA.1 hA.2
  refine (emit_at (hemits hcreated)).bind fun _ ↦ ?_
  refine Triple.bind (Q := fun _ ↦ At a.taskRunId [.created]) ?_ fun plan ↦ ?_
  · refine (planNodes_at _ _ hcreated).bind fun r ↦ ?_
    refine (call_at hcreated rfl trivial).bind fun planId ↦ ?_
    refine (call_at hcreated rfl trivial).bind fun now ↦ ?_
    exact (call_at hcreated rfl trivial).bind fun signature ↦ Triple.ret fun t ht ↦ ht
  refine Triple.bind (Q := fun _ ↦ At a.taskRunId [.created, .planned]) ?_ fun _ ↦ ?_
  · exact Triple.perform (fun t _ ht _ ↦ ht.upsert) fun t e ht hA ↦
      hcreated t _ e trivial ht hA.1 hA.2
  refine (emit_at (hemits hplanned)).bind fun _ ↦ ?_
  exact (emit_at (hemits hplanned)).bind fun _ ↦ Triple.ret fun t ht ↦ ht

/-- The states persisted while the plan is executed. -/
def runningStates : List TaskRunState := [.created, .planned, .running]

/-- What the execution and its handler leave where they return. The handler runs after states
with `B`. -/
def AfterExecution (cfg : Config) (taskRunId : String) (B : List TaskRunState → Prop)
    (ending : Ending) (t : RunTrace) : Prop :=
  match ending with
  | .completed => At taskRunId (runningStates ++ [.succeeded]) t
  | .rejected =>
    At taskRunId (runningStates ++ [.cancelled]) t ∧ (cfg.hasEventBus = true → Closes taskRunId t)
  | .failed _ =>
    (∃ states, B states ∧ At taskRunId (states ++ [.failed]) t) ∧
      (cfg.hasEventBus = true → Closes taskRunId t)

theorem AfterExecution.concat {B : List TaskRunState → Prop} {ending : Ending}
    (h : AfterExecution cfg taskRunId B ending t) (hs : taskWrite? taskRunId s = none) :
    AfterExecution cfg taskRunId B ending (t ++ [s]) := by
  cases ending with
  | completed => exact At.concat h hs
  | rejected => exact ⟨h.1.concat hs, fun hbus ↦ closes_concat (h.2 hbus)⟩
  | failed error =>
    obtain ⟨⟨states, hstates, hat⟩, hcloses⟩ := h
    exact ⟨⟨states, hstates, hat.concat hs⟩, fun hbus ↦ closes_concat (hcloses hbus)⟩

/-- Closing the bus. -/
theorem closeBus_at (h : RaisesTo cfg taskRunId G states (·.closesBus) X) :
    Triple (fun t s ↦ Admitted cfg taskRunId t s ∧ G t s) (At taskRunId states)
      (closeBus cfg taskRunId)
      (fun _ t ↦ At taskRunId states t ∧ (cfg.hasEventBus = true → Closes taskRunId t))
      fun _ ↦ X := by
  rw [closeBus]
  split
  · refine Triple.perform (fun t _ ht _ ↦ ⟨ht.concat rfl, fun _ ↦ ?_⟩) fun t e ht hA ↦
      h t _ e rfl ht hA.1 hA.2
    exact List.mem_append_right _ (List.mem_singleton_self _)
  · next hbus => exact Triple.ret fun t ht ↦ ⟨ht, fun h ↦ absurd h hbus⟩

/-- **Executing the plan.** It raises while the state is `running`, or later, in an emit or in
closing the bus. -/
theorem executePlan_at
    (hsucceeded : RaisesTo cfg a.taskRunId G (runningStates ++ [.succeeded]) (·.emits) X)
    (hcancelled : RaisesTo cfg a.taskRunId G (runningStates ++ [.cancelled])
      (fun c ↦ c.emits = true ∨ c.closesBus = true) X) :
    Triple (fun t s ↦ Admitted cfg a.taskRunId t s ∧ G t s) (At a.taskRunId runningStates)
      (executePlan cfg a plan) (AfterExecution cfg a.taskRunId B)
      fun _ t ↦ At a.taskRunId runningStates t ∨ X t := by
  have hframe {α : Type} {p : Prog α} (hp : Calls (Cmd.Executes a.taskRunId) p) :
      Triple (fun t s ↦ Admitted cfg a.taskRunId t s ∧ G t s) (At a.taskRunId runningStates) p
        (fun _ ↦ At a.taskRunId runningStates)
        fun _ t ↦ At a.taskRunId runningStates t ∨ X t :=
    (at_of_calls (hp.mono fun _ hc ↦ hc.spares)).post_error fun _ _ ht ↦ Or.inl ht
  have hwrite (state : TaskRunState) :
      Triple (fun t s ↦ Admitted cfg a.taskRunId t s ∧ G t s) (At a.taskRunId runningStates)
        (call (.updateTaskState a.taskRunId state))
        (fun _ ↦ At a.taskRunId (runningStates ++ [state]))
        fun _ t ↦ At a.taskRunId runningStates t ∨ X t :=
    Triple.perform (fun t _ ht _ ↦ ht.update nofun) fun t e ht _ ↦ Or.inl ht.concat_error
  refine (hframe executes_executeNodes).bind fun _ ↦ ?_
  refine (hframe executes_decideTask).bind fun decision ↦ ?_
  split
  · refine (hframe (calls_ofExcept _)).bind fun sink ↦ ?_
    refine (hframe (executes_call rfl)).bind fun merged ↦ ?_
    refine (hframe executes_execNode).bind fun _ ↦ ?_
    refine (hwrite .succeeded).bind fun _ ↦ ?_
    refine Triple.bind (Q := fun _ ↦ At a.taskRunId (runningStates ++ [.succeeded])) ?_
      fun results ↦ ?_
    · refine Triple.perform (fun t _ ht _ ↦ ht.concat rfl) fun t e _ hA ↦ ?_
      obtain ⟨results, hresults⟩ := hA.1.getResults _ rfl
      cases hresults
    refine ((emit_at hsucceeded).post_error fun _ _ ht ↦ Or.inr ht).bind fun _ ↦ ?_
    exact Triple.ret fun t ht ↦ ht
  · refine (hwrite .cancelled).bind fun _ ↦ ?_
    refine ((emit_at fun t c e hc ↦ hcancelled t c e (Or.inl hc)).post_error
      fun _ _ ht ↦ Or.inr ht).bind fun _ ↦ ?_
    refine ((closeBus_at fun t c e hc ↦ hcancelled t c e (Or.inr hc)).post_error
      fun _ _ ht ↦ Or.inr ht).bind fun _ ↦ ?_
    exact Triple.ret fun t ht ↦ ht

/-- **The handler** persists `failed` and closes the bus. -/
theorem failTask_at {e : Raised} (hB : B states) (hne : states ≠ [])
    (hwrite : RaisesTo cfg a.taskRunId G states (· = .updateTaskState a.taskRunId .failed) X)
    (hfailed : RaisesTo cfg a.taskRunId G (states ++ [.failed])
      (fun c ↦ c.emits = true ∨ c.closesBus = true) X) :
    Triple (fun t s ↦ Admitted cfg a.taskRunId t s ∧ G t s) (At a.taskRunId states)
      (failTask cfg a e) (AfterExecution cfg a.taskRunId B) fun _ ↦ X := by
  refine Triple.bind (Q := fun _ ↦ At a.taskRunId (states ++ [.failed])) ?_ fun _ ↦ ?_
  · exact Triple.perform (fun t _ ht _ ↦ ht.update hne) fun t e ht hA ↦
      hwrite t _ e rfl ht hA.1 hA.2
  refine (emit_at fun t c e hc ↦ hfailed t c e (Or.inl hc)).bind fun _ ↦ ?_
  refine (closeBus_at fun t c e hc ↦ hfailed t c e (Or.inr hc)).bind fun _ ↦ ?_
  exact Triple.ret fun t ht ↦ ⟨⟨states, hB, ht.1⟩, ht.2⟩

theorem verifyRows_at (rows : List Receipt) (h : RaisesTo cfg taskRunId G states φ X)
    (hφ : ∀ row, φ (.verifyReceipt row)) :
    Triple (fun t s ↦ Admitted cfg taskRunId t s ∧ G t s) (At taskRunId states) (verifyRows rows)
      (fun _ ↦ At taskRunId states) fun _ ↦ X := by
  induction rows with
  | nil => exact Triple.ret fun t ht ↦ ht
  | cons row rows ih =>
    refine (call_at h rfl (hφ row)).bind fun verified ↦ ?_
    exact ih.bind fun rest ↦ Triple.ret fun t ht ↦ ht

/-- The calls that are neither emits nor writes of the task's row. -/
def Cmd.other (c : Cmd) : Bool := !c.emits && !c.writesTask

/-- **After the execution** the receipts of a completed run are verified and its bus is closed. -/
theorem finishRun_at {ending : Ending}
    (h : RaisesTo cfg a.taskRunId G (runningStates ++ [.succeeded]) (·.other) X) :
    Triple (fun t s ↦ Admitted cfg a.taskRunId t s ∧ G t s)
      (AfterExecution cfg a.taskRunId B ending) (finishRun cfg a plan ending)
      (fun _ t ↦ AfterExecution cfg a.taskRunId B ending t ∧
        (cfg.hasEventBus = true → Closes a.taskRunId t)) fun _ ↦ X := by
  have hresults {P : RunTrace → Prop}
      (hP : ∀ t s, taskWrite? a.taskRunId s = none → P t → P (t ++ [s])) :
      Triple (fun t s ↦ Admitted cfg a.taskRunId t s ∧ G t s) P (call .getResults) (fun _ ↦ P)
        fun _ ↦ X := by
    refine Triple.perform (fun t _ ht _ ↦ hP t _ rfl ht) fun t e _ hA ↦ ?_
    obtain ⟨results, hresults⟩ := hA.1.getResults _ rfl
    cases hresults
  have hended {P : RunTrace → Prop} (hP : ∀ t s, taskWrite? a.taskRunId s = none → P t →
      P (t ++ [s])) (t : RunTrace) (s : RunStep) (hs : taskWrite? a.taskRunId s = none)
      (ht : P t ∧ (cfg.hasEventBus = true → Closes a.taskRunId t)) :
      P (t ++ [s]) ∧ (cfg.hasEventBus = true → Closes a.taskRunId (t ++ [s])) :=
    ⟨hP t s hs ht.1, fun hbus ↦ closes_concat (ht.2 hbus)⟩
  cases ending with
  | completed =>
    refine Triple.bind (Q := fun _ ↦ At a.taskRunId (runningStates ++ [.succeeded])) ?_
      fun verified ↦ ?_
    · refine (call_at h rfl rfl).bind fun rows ↦ ?_
      exact verifyRows_at rows h fun _ ↦ rfl
    refine (closeBus_at fun t c e hc ↦ h t c e ?_).bind fun _ ↦ ?_
    · cases c with
      | closeBus id => rfl
      | _ => cases hc
    refine (hresults (hended fun t s hs ht ↦ At.concat ht hs)).bind fun results ↦ ?_
    exact Triple.ret fun t ht ↦ ht
  | rejected =>
    refine (hresults fun t s hs ht ↦ AfterExecution.concat ht hs).bind fun results ↦ ?_
    exact Triple.ret fun t ht ↦ ⟨ht, ht.2⟩
  | failed error =>
    refine (hresults fun t s hs ht ↦ AfterExecution.concat ht hs).bind fun results ↦ ?_
    exact Triple.ret fun t ht ↦ ⟨ht, ht.2⟩

end Parts

/-! ## Paths of the transition table -/

/-- The state persisted last. -/
def lastState (taskRunId : String) (t : RunTrace) : Option TaskRunState :=
  (persisted taskRunId t).getLast?

theorem At.lastState {state : TaskRunState} (h : At taskRunId (states ++ [state]) t) :
    lastState taskRunId t = some state := by
  rw [Engine.lastState, h.persisted, List.getLast?_concat]

/-- The call does not raise in an emit or in closing the bus after the last state of an execution
has been persisted, where the handler would still run. -/
def noLateRaise (taskRunId : String) (pre : RunTrace) (s : RunStep) : Bool :=
  s.reply.isOk ||
    match lastState taskRunId pre with
    | some .succeeded => !s.cmd.emits
    | some .cancelled => !s.cmd.emits && !s.cmd.closesBus
    | _ => true

theorem run_path :
    Triple (fun t s ↦ Admitted cfg a.taskRunId t s ∧ noLateRaise a.taskRunId t s = true) (· = [])
      (run cfg a) (fun _ t ↦ TaskRunState.IsPath (persisted a.taskRunId t))
      fun _ t ↦ TaskRunState.IsPath (persisted a.taskRunId t) := by
  have hpath {states : List TaskRunState} (hstates : TaskRunState.IsPath states) (t : RunTrace)
      (ht : At a.taskRunId states t) : TaskRunState.IsPath (persisted a.taskRunId t) := by
    rw [ht.persisted]
    exact hstates
  -- a call that raises persists nothing
  have hraise {states : List TaskRunState} {φ : Cmd → Prop}
      (hstates : TaskRunState.IsPath states) :
      RaisesTo cfg a.taskRunId (fun t s ↦ noLateRaise a.taskRunId t s = true) states φ
        fun t ↦ TaskRunState.IsPath (persisted a.taskRunId t) :=
    fun t c e _ ht _ _ ↦ hpath hstates _ ht.concat_error
  have hstart (t : RunTrace) (ht : t = []) : At a.taskRunId [] t := by
    subst ht
    exact ⟨rfl, fun hne ↦ absurd rfl hne⟩
  refine Triple.bind (Q := fun _ ↦ At a.taskRunId []) ?_ fun _ ↦ ?_
  · exact Triple.ofExcept (fun _ _ t ht ↦ hstart t ht) fun _ _ t ht ↦
      hpath (by decide) t (hstart t ht)
  refine (call_at (hraise (φ := fun _ ↦ True) (by decide)) rfl trivial).bind fun _ ↦ ?_
  refine (planTask_at fun states hstates ↦ hraise ?_).bind fun plan ↦ ?_
  · revert states
    decide
  refine Triple.bind (Q := fun _ ↦ At a.taskRunId runningStates) ?_ fun _ ↦ ?_
  · exact Triple.perform (fun t _ ht _ ↦ ht.update nofun) fun t e ht _ ↦
      hpath (by decide) _ ht.concat_error
  refine Triple.bind (Q := AfterExecution cfg a.taskRunId (· = runningStates)) ?_ fun ending ↦ ?_
  · refine Triple.tryCatch (E := fun _ ↦ At a.taskRunId runningStates) ?_ fun e ↦ ?_
    · -- after the last state nothing raises
      have hsucceeded : RaisesTo cfg a.taskRunId
          (fun t s ↦ noLateRaise a.taskRunId t s = true) (runningStates ++ [.succeeded]) (·.emits)
          fun _ ↦ False := by
        intro t c e hc ht _ hG
        simp [noLateRaise, ht.lastState, hc, Except.isOk, Except.toBool] at hG
      have hcancelled : RaisesTo cfg a.taskRunId
          (fun t s ↦ noLateRaise a.taskRunId t s = true) (runningStates ++ [.cancelled])
          (fun c ↦ c.emits = true ∨ c.closesBus = true) fun _ ↦ False := by
        intro t c e hc ht _ hG
        rcases hc with hc | hc <;>
          simp [noLateRaise, ht.lastState, hc, Except.isOk, Except.toBool] at hG
      exact (executePlan_at hsucceeded hcancelled).post_error fun _ t ht ↦ ht.resolve_right id
    · exact failTask_at rfl nofun (hraise (by decide)) (hraise (by decide))
  · refine (finishRun_at (hraise (by decide))).post fun _ t ht ↦ ?_
    obtain ⟨hafter, -⟩ := ht
    cases ending with
    | completed => exact hpath (by decide) t hafter
    | rejected => exact hpath (by decide) t hafter.1
    | failed error =>
      obtain ⟨⟨states, rfl, hat⟩, -⟩ := hafter
      exact hpath (by decide) t hat

/-- **The run refines the task state machine**, if no emit after the last state of its execution
raises, and no closing of the bus after a rejection: what it persists is a path of the transition
table, and after a terminal state it persists nothing. -/
theorem run_persists_path (cfg : Config) (a : RunArgs) (env : Env a.taskRunId) (w : World)
    (h : EveryStep (fun pre s ↦ noLateRaise a.taskRunId pre s = true) (execRun cfg a env w).trace) :
    TaskRunState.IsPath (persisted a.taskRunId (execRun cfg a env w).trace) ∧
      ∀ before state after,
        persisted a.taskRunId (execRun cfg a env w).trace = before ++ state :: after →
          state.Terminal → after = [] := by
  have hpath := of_ending (execRun_of_triple run_path h)
  refine ⟨hpath, fun before state after heq hterminal ↦ ?_⟩
  rw [heq] at hpath
  exact hpath.eq_nil_of_terminal hterminal

section

set_option maxRecDepth 100000

/-- A run whose first adapter times out. -/
theorem run_persists_path_sample :
    let o := sampleRun sampleAdapters adapterRaises
    persisted sampleArgs.taskRunId o.trace = [.created, .planned, .running, .failed] ∧
      TaskRunState.IsPath (persisted sampleArgs.taskRunId o.trace) :=
  ⟨by decide +kernel, (run_persists_path _ _ (sampleEnv adapterRaises) {} (by decide +kernel)).1⟩

end

/-- A run persists `failed` after `succeeded`. -/
theorem run_persists_no_path :
    ¬∀ (cfg : Config) (a : RunArgs) (env : Env a.taskRunId) (w : World),
      TaskRunState.IsPath (persisted a.taskRunId (execRun cfg a env w).trace) := by
  intro h
  obtain ⟨-, -, -, -, hpersisted⟩ := sampleRun_facts
  have hpath := h (sampleConfig sampleAdapters) sampleArgs completedRaises {}
  have heq : persisted sampleArgs.taskRunId
      (execRun (sampleConfig sampleAdapters) sampleArgs completedRaises {}).trace
        = [.created, .planned, .running, .succeeded, .failed] := hpersisted
  rw [heq] at hpath
  exact absurd hpath (by decide)

/-! ## Ends of runs -/

def Cmd.failsTask : Cmd → Bool
  | .updateTaskState _ state => decide (state = .failed)
  | _ => false

/-- Where the call raises, the handler still runs and its write of `failed` does not raise; or the
task is in a terminal state, and there is no bus to close. -/
def raisesInTime (cfg : Config) (taskRunId : String) (pre : RunTrace) (s : RunStep) : Bool :=
  s.reply.isOk ||
    match lastState taskRunId pre with
    | some .running => !s.cmd.failsTask
    | some .succeeded => !cfg.hasEventBus || s.cmd.emits
    | some .cancelled => !cfg.hasEventBus || s.cmd.emits || s.cmd.closesBus
    | some .failed => !cfg.hasEventBus
    | _ => false

/-- The state persisted last is terminal, and the bus is closed, if there is one. -/
structure Finished (cfg : Config) (taskRunId : String) (t : RunTrace) : Prop where
  terminal : ∃ state, lastState taskRunId t = some state ∧ state.Terminal
  stored : (storedPlan taskRunId t).isSome
  closed : cfg.hasEventBus = true → Closes taskRunId t

theorem At.finished {state : TaskRunState} (h : At taskRunId (states ++ [state]) t)
    (hterminal : state.Terminal) (hclosed : cfg.hasEventBus = true → Closes taskRunId t) :
    Finished cfg taskRunId t :=
  ⟨⟨state, h.lastState, hterminal⟩, h.stored (by simp), hclosed⟩

/-- The states in which the handler can be entered. -/
def handlerStates : List (List TaskRunState) :=
  [runningStates, runningStates ++ [.succeeded], runningStates ++ [.cancelled]]

/-- A call that raises after a terminal state is an emit or a closing of the bus, or there is no
bus. -/
theorem RaisesTo.finished {state : TaskRunState} {φ : Cmd → Prop} (hterminal : state.Terminal)
    (hφ : ∀ t c e, φ c → lastState a.taskRunId t = some state →
      raisesInTime cfg a.taskRunId t ⟨c, .error e⟩ = true → cfg.hasEventBus = false) :
    RaisesTo cfg a.taskRunId (fun t s ↦ raisesInTime cfg a.taskRunId t s = true)
      (states ++ [state]) φ (Finished cfg a.taskRunId) := by
  intro t c e hc ht _ hG
  refine ht.concat_error.finished hterminal fun hbus ↦ ?_
  rw [hφ t c e hc ht.lastState hG] at hbus
  cases hbus

theorem failTask_finished {e : Raised} (hstates : states ∈ handlerStates) :
    Triple (fun t s ↦ Admitted cfg a.taskRunId t s ∧ raisesInTime cfg a.taskRunId t s = true)
      (At a.taskRunId states) (failTask cfg a e)
      (AfterExecution cfg a.taskRunId (· ∈ handlerStates)) fun _ ↦ Finished cfg a.taskRunId := by
  have hfailed : RaisesTo cfg a.taskRunId (fun t s ↦ raisesInTime cfg a.taskRunId t s = true)
      (states ++ [.failed]) (fun c ↦ c.emits = true ∨ c.closesBus = true)
      (Finished cfg a.taskRunId) := by
    refine RaisesTo.finished (Or.inr (Or.inl rfl)) fun t c e _ hlast hG ↦ ?_
    simpa [raisesInTime, hlast, Except.isOk, Except.toBool] using hG
  have hne : states ≠ [] := by
    rintro rfl
    exact absurd hstates (by decide)
  refine failTask_at hstates hne ?_ hfailed
  simp only [handlerStates, List.mem_cons, List.not_mem_nil, or_false] at hstates
  rcases hstates with rfl | rfl | rfl
  · rintro t c e rfl ht - hG
    have hat : At a.taskRunId ([.created, .planned] ++ [.running]) t := ht
    simp [raisesInTime, hat.lastState, Except.isOk, Except.toBool, Cmd.failsTask] at hG
  · refine RaisesTo.finished (Or.inl rfl) ?_
    rintro t c e rfl hlast hG
    simpa [raisesInTime, hlast, Except.isOk, Except.toBool, Cmd.emits] using hG
  · refine RaisesTo.finished (Or.inr (Or.inr rfl)) ?_
    rintro t c e rfl hlast hG
    simpa [raisesInTime, hlast, Except.isOk, Except.toBool, Cmd.emits, Cmd.closesBus] using hG

theorem run_finished (hvalid : checkInputs a.initialInputs = .ok ()) :
    Triple (fun t s ↦ Admitted cfg a.taskRunId t s ∧ raisesInTime cfg a.taskRunId t s = true)
      (· = []) (run cfg a) (fun _ ↦ Finished cfg a.taskRunId)
      fun _ ↦ Finished cfg a.taskRunId := by
  refine Triple.bind (Q := fun _ ↦ At a.taskRunId []) ?_ fun _ ↦ ?_
  · refine Triple.ofExcept (fun _ _ t ht ↦ ?_) fun e he ↦ ?_
    · subst ht
      exact ⟨rfl, fun hne ↦ absurd rfl hne⟩
    · rw [hvalid] at he
      cases he
  refine Triple.bind (Q := fun _ ↦ At a.taskRunId []) ?_ fun _ ↦ ?_
  · refine Triple.perform (fun t _ ht _ ↦ ht.concat rfl) fun t e _ hA ↦ ?_
    cases hA.1.setInitialInputs _ _ rfl
  -- nothing raises while the task is planned
  have hplanning {states : List TaskRunState} (hstates : states ∈ planningStates) {φ : Cmd → Prop} :
      RaisesTo cfg a.taskRunId (fun t s ↦ raisesInTime cfg a.taskRunId t s = true) states φ
        (Finished cfg a.taskRunId) := by
    intro t c e _ ht _ hG
    simp only [planningStates, List.mem_cons, List.not_mem_nil, or_false] at hstates
    rcases hstates with rfl | rfl | rfl <;>
      simp [raisesInTime, lastState, ht.persisted, Except.isOk, Except.toBool] at hG
  refine (planTask_at fun states hstates ↦ hplanning hstates).bind fun plan ↦ ?_
  refine Triple.bind (Q := fun _ ↦ At a.taskRunId runningStates) ?_ fun _ ↦ ?_
  · have hplanned : RaisesTo cfg a.taskRunId (fun t s ↦ raisesInTime cfg a.taskRunId t s = true)
        [.created, .planned] (fun _ ↦ True) (Finished cfg a.taskRunId) := hplanning (by decide)
    exact Triple.perform (fun t _ ht _ ↦ ht.update nofun) fun t e ht hA ↦
      hplanned t _ e trivial ht hA.1 hA.2
  refine Triple.bind (Q := AfterExecution cfg a.taskRunId (· ∈ handlerStates)) ?_ fun ending ↦ ?_
  · refine Triple.tryCatch
      (E := fun _ t ↦ ∃ states, states ∈ handlerStates ∧ At a.taskRunId states t)
      ?_ fun e ↦ Triple.of_exists fun states ↦ Triple.of_pure fun hstates ↦
        failTask_finished hstates
    have hkept {states : List TaskRunState} {φ : Cmd → Prop} (hstates : states ∈ handlerStates) :
        RaisesTo cfg a.taskRunId (fun t s ↦ raisesInTime cfg a.taskRunId t s = true) states φ
          fun t ↦ ∃ states, states ∈ handlerStates ∧ At a.taskRunId states t :=
      fun t c e _ ht _ _ ↦ ⟨states, hstates, ht.concat_error⟩
    refine (executePlan_at (hkept (by decide)) (hkept (by decide))).post_error fun _ t ht ↦ ?_
    exact ht.elim (fun hat ↦ ⟨runningStates, by decide, hat⟩) id
  · have hother : RaisesTo cfg a.taskRunId (fun t s ↦ raisesInTime cfg a.taskRunId t s = true)
        (runningStates ++ [.succeeded]) (·.other) (Finished cfg a.taskRunId) := by
      refine RaisesTo.finished (Or.inl rfl) fun t c e hc hlast hG ↦ ?_
      simp only [Cmd.other, Bool.and_eq_true, Bool.not_eq_true'] at hc
      simpa [raisesInTime, hlast, Except.isOk, Except.toBool, hc.1] using hG
    refine (finishRun_at hother).post fun _ t ht ↦ ?_
    obtain ⟨hafter, hclosed⟩ := ht
    cases ending with
    | completed => exact At.finished hafter (Or.inl rfl) hclosed
    | rejected => exact hafter.1.finished (Or.inr (Or.inr rfl)) hclosed
    | failed error =>
      obtain ⟨⟨states, -, hat⟩, -⟩ := hafter
      exact hat.finished (Or.inr (Or.inl rfl)) hclosed

section

set_option maxRecDepth 100000

end

end Engine

end Orchestra
