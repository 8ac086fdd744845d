import Orchestra.Coordinator.EngineCalls

/-!
# The live mirror

An audit event is appended to the log and then published on the bus, and nothing else is. So what
the bus has been given is, at every point of a run, the log itself or the log without its last
event.

The run is put together from calls that neither append nor publish and from emits (`Kept`); what
both keep is kept by the whole run.
-/

namespace Orchestra

namespace Engine

open Interaction

variable {cfg : Config} {a : RunArgs} {taskRunId : String} {plan : ExecutionPlan}
  {A : RunTrace → RunStep → Prop} {K : RunTrace → Prop} {t : RunTrace} {s : RunStep}

/-! ## Runs as calls and emits -/

/-- The calls that neither append to the log nor publish. -/
def Cmd.quiet : Cmd → Bool
  | .appendEvent _ | .publish _ _ => false
  | _ => true

/-- Whatever the program does, `K` is kept. -/
def Kept {α : Type} (A : RunTrace → RunStep → Prop) (K : RunTrace → Prop) (p : Prog α) : Prop :=
  Triple A K p (fun _ ↦ K) fun _ ↦ K

/-- The quiet calls and the emits keep `K`. -/
structure EmitFrame (cfg : Config) (taskRunId : String) (A : RunTrace → RunStep → Prop)
    (K : RunTrace → Prop) : Prop where
  call : ∀ c, c.quiet = true → Kept A K (call c)
  emit : ∀ nodeRunId kind payload, Kept A K (emit cfg taskRunId nodeRunId kind payload)

section Rules

variable {α β : Type}

theorem kept_pure (x : α) : Kept A K (pure x) := Triple.ret fun _ ht ↦ ht

theorem kept_raise (e : Raised) : Kept A K (.raise e : Prog α) := Triple.raise fun _ ht ↦ ht

theorem kept_ofExcept (r : Except Raised α) : Kept A K (.ofExcept r) :=
  Triple.ofExcept (fun _ _ _ ht ↦ ht) fun _ _ _ ht ↦ ht

theorem Kept.bind {p : Prog α} {f : α → Prog β} (hp : Kept A K p) (hf : ∀ x, Kept A K (f x)) :
    Kept A K (p >>= f) := Triple.bind hp hf

theorem Kept.tryCatch {p : Prog α} {h : Raised → Prog α} (hp : Kept A K p)
    (hh : ∀ e, Kept A K (h e)) : Kept A K (p.tryCatch h) := Triple.tryCatch hp hh

end Rules

namespace EmitFrame

variable (h : EmitFrame cfg taskRunId A K)

include h

theorem failNode {α : Type} {ctx : NodeContext} {payload : Dict} {e : Raised} :
    Kept A K (failNode (α := α) cfg taskRunId ctx payload e) :=
  (h.call _ rfl).bind fun _ ↦ (h.emit _ _ _).bind fun _ ↦ kept_raise e

theorem execInProcess {ctx : NodeContext} {previous : Dict} :
    Kept A K (execInProcess cfg taskRunId ctx previous) := by
  refine Kept.bind ?_ fun output ↦ ?_
  · rw [inProcessOutput]
    split
    · exact (h.call _ rfl).bind fun initial ↦ kept_pure _
    · exact h.call _ rfl
  exact (h.call _ rfl).bind fun _ ↦ (h.call _ rfl).bind fun _ ↦ h.emit _ _ _

theorem egress {ctx : NodeContext} {inputs : Dict} : Kept A K (egress cfg taskRunId ctx inputs) := by
  rw [Engine.egress]
  split
  · split
    · exact kept_pure _
    · refine Kept.bind ?_ fun projected ↦ (kept_ofExcept _).bind fun result ↦ kept_pure _
      refine (h.call _ rfl).tryCatch fun e ↦ ?_
      split
      · exact (h.emit _ _ _).bind fun _ ↦ h.failNode
      · exact kept_raise e
  · exact kept_pure _

theorem execAdapter {ctx : NodeContext} {previous : Dict} {approval : Option Dict} :
    Kept A K (execAdapter cfg taskRunId ctx previous approval) := by
  refine Kept.bind ?_ fun grant ↦ (h.call _ rfl).bind fun _ ↦ (h.call _ rfl).bind fun startedAt ↦ ?_
  · refine (h.call _ rfl).bind fun grantId ↦ (h.call _ rfl).bind fun now ↦ ?_
    exact (h.call _ rfl).bind fun _ ↦ (h.emit _ _ _).bind fun _ ↦ kept_pure _
  refine h.egress.bind fun e ↦ (h.call _ rfl).bind fun t0 ↦ ?_
  refine ((h.call _ rfl).tryCatch fun e ↦ h.failNode).bind fun result ↦ ?_
  refine (h.call _ rfl).bind fun t1 ↦ (h.call _ rfl).bind fun endedAt ↦ ?_
  refine Kept.bind ?_ fun _ ↦ (h.call _ rfl).bind fun _ ↦ (h.call _ rfl).bind fun _ ↦ ?_
  · exact (h.emit _ _ _).bind fun _ ↦ (h.emit _ _ _).bind fun _ ↦ h.emit _ _ _
  refine Kept.bind ?_ fun receipt ↦ (h.call _ rfl).bind fun _ ↦ ?_
  · refine (h.call _ rfl).bind fun row ↦ (kept_ofExcept _).bind fun planDigest ↦ ?_
    exact (h.call _ rfl).bind fun receiptId ↦ (h.call _ rfl).bind fun now ↦ kept_pure _
  exact (h.emit _ _ _).bind fun _ ↦ h.emit _ _ _

theorem execNode {node : PlanNode} {previous : Dict} {force : Option String}
    {approval : Option Dict} : Kept A K (execNode cfg taskRunId node previous force approval) := by
  refine Kept.bind ?_ fun ctx ↦ ?_
  · refine (h.call _ rfl).bind fun nodeRunId ↦ (kept_ofExcept _).bind fun manifest ↦ ?_
    exact (h.call _ rfl).bind fun _ ↦ (h.emit _ _ _).bind fun _ ↦ kept_pure _
  split
  · exact h.execInProcess
  · exact h.execAdapter

theorem approvalHandler {nodeId : String} {request : Dict} :
    Kept A K (approvalHandler cfg taskRunId nodeId request) := by
  rw [Engine.approvalHandler]
  split
  · exact h.call _ rfl
  refine (h.call _ rfl).bind fun now ↦ Kept.bind ?_ fun approvalId ↦ (h.call _ rfl).bind fun _ ↦ ?_
  · rw [createApprovalRow]
    split
    · split
      · exact kept_pure _
      · exact ((h.call _ rfl).bind fun approvalId ↦ kept_pure _).tryCatch fun _ ↦ kept_pure _
    · exact kept_pure _
  refine Kept.bind ?_ fun _ ↦ (h.emit _ _ _).bind fun _ ↦ h.call _ rfl
  cases approvalId with
  | some id => exact kept_pure _
  | none => exact (h.call _ rfl).bind fun newId ↦ h.call _ rfl

theorem closeBus : Kept A K (closeBus cfg taskRunId) := by
  rw [Engine.closeBus]
  split
  · exact h.call _ rfl
  · exact kept_pure ()

theorem planNodes {label : SecurityLabel} (specs : List NodeSpec) (budget : ℚ) :
    Kept A K (planNodes cfg label specs budget) := by
  induction specs generalizing budget with
  | nil => exact kept_pure _
  | cons spec specs ih =>
    rw [Engine.planNodes]
    split
    · exact (ih budget).bind fun rest ↦ kept_pure _
    · exact (h.call _ rfl).bind fun result ↦ (ih _).bind fun rest ↦ kept_pure _

theorem verifyRows (rows : List Receipt) : Kept A K (verifyRows rows) := by
  induction rows with
  | nil => exact kept_pure _
  | cons row rows ih =>
    exact (h.call _ rfl).bind fun verified ↦ ih.bind fun rest ↦ kept_pure _

end EmitFrame

section Run

variable (h : EmitFrame cfg a.taskRunId A K)

include h

theorem EmitFrame.planTask : Kept A K (planTask cfg a) := by
  refine (h.call _ rfl).bind fun _ ↦ (h.emit _ _ _).bind fun _ ↦ Kept.bind ?_ fun plan ↦ ?_
  · refine (h.planNodes _ _).bind fun r ↦ (h.call _ rfl).bind fun planId ↦ ?_
    exact (h.call _ rfl).bind fun now ↦ (h.call _ rfl).bind fun signature ↦ kept_pure _
  refine (h.call _ rfl).bind fun _ ↦ ?_
  exact (h.emit _ _ _).bind fun _ ↦ (h.emit _ _ _).bind fun _ ↦ kept_pure _

theorem EmitFrame.executeNodes : Kept A K (executeNodes cfg a plan) := by
  refine (kept_ofExcept _).bind fun ingest ↦ h.execNode.bind fun _ ↦ ?_
  refine (kept_ofExcept _).bind fun extract ↦ (h.call _ rfl).bind fun contract ↦ ?_
  refine h.execNode.bind fun _ ↦ (kept_ofExcept _).bind fun research ↦ ?_
  refine (h.call _ rfl).bind fun extracted ↦ (kept_ofExcept _).bind fun query ↦ ?_
  refine h.execNode.bind fun _ ↦ (kept_ofExcept _).bind fun merge ↦ ?_
  exact (h.call _ rfl).bind fun facts ↦ (h.call _ rfl).bind fun researched ↦ h.execNode

theorem EmitFrame.executePlan : Kept A K (executePlan cfg a plan) := by
  refine h.executeNodes.bind fun _ ↦ Kept.bind ?_ fun decision ↦ ?_
  · refine (h.call _ rfl).bind fun merged ↦ h.approvalHandler.bind fun decision ↦ ?_
    exact (h.call _ rfl).bind fun _ ↦ (h.emit _ _ _).bind fun _ ↦ kept_pure _
  split
  · refine (kept_ofExcept _).bind fun sink ↦ (h.call _ rfl).bind fun merged ↦ ?_
    refine h.execNode.bind fun _ ↦ (h.call _ rfl).bind fun _ ↦ ?_
    exact (h.call _ rfl).bind fun results ↦ (h.emit _ _ _).bind fun _ ↦ kept_pure _
  · refine (h.call _ rfl).bind fun _ ↦ (h.emit _ _ _).bind fun _ ↦ ?_
    exact h.closeBus.bind fun _ ↦ kept_pure _

/-- **The rule of emits.** What the quiet calls and the emits keep is kept by a run. -/
theorem EmitFrame.run : Kept A K (run cfg a) := by
  refine (kept_ofExcept _).bind fun _ ↦ (h.call _ rfl).bind fun _ ↦ h.planTask.bind fun plan ↦ ?_
  refine (h.call _ rfl).bind fun _ ↦ Kept.bind (h.executePlan.tryCatch fun e ↦ ?_) fun ending ↦ ?_
  · refine (h.call _ rfl).bind fun _ ↦ (h.emit _ _ _).bind fun _ ↦ ?_
    exact h.closeBus.bind fun _ ↦ kept_pure _
  cases ending with
  | completed =>
    refine ((h.call _ rfl).bind h.verifyRows).bind fun verified ↦ ?_
    exact h.closeBus.bind fun _ ↦ (h.call _ rfl).bind fun results ↦ kept_pure _
  | rejected => exact (h.call _ rfl).bind fun results ↦ kept_pure _
  | failed error => exact (h.call _ rfl).bind fun results ↦ kept_pure _

end Run

/-! ## The mirror -/

def published? (taskRunId : String) : RunStep → Option Json
  | ⟨.publish id event, _⟩ => if id = taskRunId then some event else none
  | _ => none

/-- What the bus has been given for the task. -/
def published (taskRunId : String) (t : RunTrace) : List Json := t.filterMap (published? taskRunId)

/-- What is published of an event. -/
def frame (ev : AuditEvent) : Json :=
  .obj [("task_run_id", .ofOption ev.taskRunId), ("node_run_id", .ofOption ev.nodeRunId),
    ("kind", .str ev.kind.value), ("payload", ev.payload)]

/-- Every event of the log has been published. -/
def UpToDate (taskRunId : String) (t : RunTrace) : Prop :=
  published taskRunId t = (events taskRunId t).map frame

/-- Every event of the log has been published, or every one but the last. -/
def Mirrors (taskRunId : String) (t : RunTrace) : Prop :=
  UpToDate taskRunId t ∨
    ∃ log ev, events taskRunId t = log ++ [ev] ∧ published taskRunId t = log.map frame

/-- The mirror was never ahead, and never more than one event behind. -/
def MirrorsThroughout (taskRunId : String) (t : RunTrace) : Prop :=
  ∀ pre, pre <+: t → Mirrors taskRunId pre

theorem published_concat : published taskRunId (t ++ [s]) =
    published taskRunId t ++ (published? taskRunId s).toList := by
  rw [published, List.filterMap_append]
  cases h : published? taskRunId s <;> simp [published, h]

theorem MirrorsThroughout.concat (h : MirrorsThroughout taskRunId t)
    (hs : Mirrors taskRunId (t ++ [s])) : MirrorsThroughout taskRunId (t ++ [s]) := by
  intro pre hpre
  rcases List.prefix_concat_iff.mp hpre with rfl | hpre
  · exact hs
  · exact h pre hpre

/-- In step with the log, now and before. -/
def InStep (taskRunId : String) (t : RunTrace) : Prop :=
  UpToDate taskRunId t ∧ MirrorsThroughout taskRunId t

theorem upToDate_concat (h : UpToDate taskRunId t) (hev : event? taskRunId s = none)
    (hpub : published? taskRunId s = none) : UpToDate taskRunId (t ++ [s]) := by
  rw [UpToDate, published_concat, events_concat, hev, hpub, Option.toList_none, Option.toList_none,
    List.append_nil, List.append_nil]
  exact h

theorem InStep.concat (h : InStep taskRunId t) (hev : event? taskRunId s = none)
    (hpub : published? taskRunId s = none) : InStep taskRunId (t ++ [s]) :=
  ⟨upToDate_concat h.1 hev hpub, h.2.concat (Or.inl (upToDate_concat h.1 hev hpub))⟩

theorem event?_of_quiet (h : s.cmd.quiet = true) : event? taskRunId s = none := by
  obtain ⟨c, r⟩ := s
  cases c with
  | appendEvent ev => cases h
  | _ => rfl

theorem published?_of_quiet (h : s.cmd.quiet = true) : published? taskRunId s = none := by
  obtain ⟨c, r⟩ := s
  cases c with
  | publish id event => cases h
  | _ => rfl

theorem InStep.quiet (h : InStep taskRunId t) (hs : s.cmd.quiet = true) :
    InStep taskRunId (t ++ [s]) :=
  h.concat (event?_of_quiet hs) (published?_of_quiet hs)

/-- The event that was appended last has not been published yet. -/
def Behind (taskRunId : String) (ev : AuditEvent) (t : RunTrace) : Prop :=
  ∃ log, events taskRunId t = log ++ [ev] ∧ published taskRunId t = log.map frame ∧
    MirrorsThroughout taskRunId t

theorem InStep.append {ev : AuditEvent} (h : InStep taskRunId t)
    (htask : ev.taskRunId = some taskRunId) :
    Behind taskRunId ev (t ++ [⟨.appendEvent ev, .ok ()⟩]) := by
  have hevents : events taskRunId (t ++ [⟨.appendEvent ev, .ok ()⟩]) = events taskRunId t ++ [ev] := by
    rw [events_concat]
    simp [event?, htask]
  have hpublished : published taskRunId (t ++ [⟨.appendEvent ev, .ok ()⟩]) =
      (events taskRunId t).map frame := by
    rw [published_concat, ← h.1]
    exact List.append_nil _
  exact ⟨_, hevents, hpublished, h.2.concat (Or.inr ⟨_, ev, hevents, hpublished⟩)⟩

theorem Behind.publish {ev : AuditEvent} {r : Except Raised Unit} (h : Behind taskRunId ev t) :
    InStep taskRunId (t ++ [⟨.publish taskRunId (frame ev), r⟩]) := by
  obtain ⟨log, hevents, hpublished, hthroughout⟩ := h
  have hup : UpToDate taskRunId (t ++ [⟨.publish taskRunId (frame ev), r⟩]) := by
    rw [UpToDate, published_concat, events_concat, hpublished, hevents]
    simp [published?, event?]
  exact ⟨hup, hthroughout.concat (Or.inl hup)⟩

/-- An emit appends and publishes the same event. -/
theorem emit_inStep (hbus : cfg.hasEventBus = true) (nodeRunId : Option String) (kind : EventKind)
    (payload : Dict) :
    Kept A (InStep taskRunId) (emit cfg taskRunId nodeRunId kind payload) := by
  refine (Triple.perform (fun _ _ ht _ ↦ ht.quiet rfl) fun _ _ ht _ ↦ ht.quiet rfl).bind
    fun eventId ↦ ?_
  refine (Triple.perform (fun _ _ ht _ ↦ ht.quiet rfl) fun _ _ ht _ ↦ ht.quiet rfl).bind fun now ↦ ?_
  refine Triple.bind (Triple.perform (fun _ _ ht _ ↦ ht.append rfl) fun _ _ ht _ ↦
    ht.concat rfl rfl) fun _ ↦ ?_
  rw [publish, if_pos hbus]
  exact Triple.perform (fun _ _ ht _ ↦ ht.publish) fun _ _ ht _ ↦ ht.publish

theorem inStep_frame (hbus : cfg.hasEventBus = true) :
    EmitFrame cfg taskRunId A (InStep taskRunId) where
  call _ hc := Triple.perform (fun _ _ ht _ ↦ ht.quiet hc) fun _ _ ht _ ↦ ht.quiet hc
  emit nodeRunId kind payload := emit_inStep hbus nodeRunId kind payload

/-- **The bus mirrors the log.** In every run of a coordinator with an event bus, whatever raises,
the bus has at every point been given the events of the log in their order, all of them or all but
the last, and at the end all of them. -/
theorem run_mirrorsLog (cfg : Config) (a : RunArgs) (env : Env a.taskRunId) (w : World)
    (hbus : cfg.hasEventBus = true) :
    UpToDate a.taskRunId (execRun cfg a env w).trace ∧
      MirrorsThroughout a.taskRunId (execRun cfg a env w).trace := by
  have hstart (t : RunTrace) (ht : t = []) : InStep a.taskRunId t := by
    subst ht
    refine ⟨rfl, fun pre hpre ↦ ?_⟩
    rw [List.prefix_nil.mp hpre]
    exact Or.inl rfl
  have hrun : Triple (fun t s ↦ Admitted cfg a.taskRunId t s ∧ True) (· = []) (run cfg a)
      (fun _ ↦ InStep a.taskRunId) fun _ ↦ InStep a.taskRunId :=
    (inStep_frame hbus).run.conseq hstart (fun _ _ ht ↦ ht) fun _ _ ht ↦ ht
  exact of_ending (execRun_of_triple hrun fun _ _ _ _ ↦ trivial)

/-- A run whose adapters time out. -/
theorem run_mirrorsLog_sample :
    UpToDate sampleArgs.taskRunId (sampleRun sampleAdapters adapterRaises).trace ∧
      MirrorsThroughout sampleArgs.taskRunId (sampleRun sampleAdapters adapterRaises).trace :=
  run_mirrorsLog (sampleConfig sampleAdapters) sampleArgs (sampleEnv adapterRaises) {} rfl

end Engine

end Orchestra
