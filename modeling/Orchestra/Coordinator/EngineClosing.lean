import Orchestra.Coordinator.EngineCalls

/-!
# How node runs are closed

A node run is open from the row that starts it to the event that ends it. When a call raises in
between, the run fails and the node run stays open, unless the exception is one of the two that are
compensated for: that of the adapter, and a refusal of the enforcement point.

`Started` follows a node run from its `node.started` event on, and `Rest` says that none is open.
While one is open no other exception is admitted, so most parts of a node are known by their calls.
-/

namespace Orchestra

namespace Engine

open Interaction

/-! ## Open node runs -/

/-- An event has ended the node run. -/
def Ended (taskRunId : String) (t : RunTrace) (n : String) : Prop :=
  HasEvent taskRunId t .nodeSucceeded n ∨ HasEvent taskRunId t .nodeFailed n

/-- The row of the node run is not left `running`, and if it was started it has been ended. -/
structure NodeClosed (taskRunId : String) (t : RunTrace) (n : String) : Prop where
  row : nodeState t n ≠ some .running
  ended : HasEvent taskRunId t .nodeStarted n → Ended taskRunId t n

/-- The exceptions after which the node run is closed. -/
def Cmd.Compensated (c : Cmd) (e : Raised) : Prop :=
  (∃ request, c = .invoke request) ∨
    (∃ id viewName payload, c = .project id viewName payload) ∧ e.typeName = "EgressDenied"

/-- While a node run is open, a call raises only what is compensated for. -/
def OnlyCompensated (taskRunId : String) (pre : RunTrace) (s : RunStep) : Prop :=
  (∃ n, ¬NodeClosed taskRunId pre n) → ∀ e, s.reply = .error e → s.cmd.Compensated e

/-- The node run whose row a call writes, or whose start it logs. -/
def Cmd.touches? : Cmd → Option String
  | .upsertNodeRun row => some row.nodeRunId
  | .updateNodeState id _ _ _ _ => some id
  | .appendEvent ev => if ev.kind = .nodeStarted then ev.nodeRunId else none
  | _ => none

/-- The calls under the conditions of this module. -/
structure Obeys (cfg : Config) (taskRunId : String) (pre : RunTrace) (s : RunStep) : Prop where
  admitted : Admitted cfg taskRunId pre s
  legit : EveryStep (Legit cfg taskRunId) pre
  compensated : OnlyCompensated taskRunId pre s

variable {cfg : Config} {a : RunArgs} {taskRunId : String} {t : RunTrace} {s : RunStep}
  {n m : String}

theorem nodeState_concat_of_ne (hs : s.cmd.touches? ≠ some n) :
    nodeState (t ++ [s]) n = nodeState t n := by
  rw [nodeState_concat]
  obtain ⟨c, r⟩ := s
  cases c with
  | upsertNodeRun row =>
    cases r with
    | ok _ => exact if_neg fun h ↦ hs (congrArg some h)
    | error e => rfl
  | updateNodeState id state output started ended =>
    cases r with
    | ok _ => exact if_neg fun h ↦ hs (congrArg some h)
    | error e => rfl
  | _ => rfl

theorem NodeClosed.concat (h : NodeClosed taskRunId t n) (hs : s.cmd.touches? ≠ some n) :
    NodeClosed taskRunId (t ++ [s]) n where
  row := by
    rw [nodeState_concat_of_ne hs]
    exact h.row
  ended := by
    rintro ⟨ev, hev, hkind, hnode⟩
    rcases events_concat_cases hev with hmem | hc
    · exact (h.ended ⟨ev, hmem, hkind, hnode⟩).imp hasEvent_concat hasEvent_concat
    · rw [hc, Cmd.touches?, if_pos hkind] at hs
      exact absurd hnode hs

/-- A call that raises leaves the node runs as they are. -/
theorem NodeClosed.concat_error {c : Cmd} {e : Raised} (h : NodeClosed taskRunId t n) :
    NodeClosed taskRunId (t ++ [⟨c, .error e⟩]) n := by
  have hsilent : Silent taskRunId ⟨c, .error e⟩ := silent_error c e
  refine ⟨?_, fun hev ↦ ?_⟩
  · rw [nodeState_concat, hsilent.nodeWrite]
    exact h.row
  · rw [hasEvent_concat_of_none hsilent.event] at hev
    exact (h.ended hev).imp hasEvent_concat hasEvent_concat

/-! ## At rest -/

/-- No node run is open, and the task has a row. -/
structure Rest (taskRunId : String) (t : RunTrace) : Prop where
  closed : ∀ n, NodeClosed taskRunId t n
  stored : (storedPlan taskRunId t).isSome

theorem Rest.concat (h : Rest taskRunId t) (hs : s.cmd.touches? = none) :
    Rest taskRunId (t ++ [s]) :=
  ⟨fun n ↦ (h.closed n).concat (by rw [hs]; exact nofun), isSome_storedPlan_concat h.stored⟩

theorem Rest.concat_error {c : Cmd} {e : Raised} (h : Rest taskRunId t) :
    Rest taskRunId (t ++ [⟨c, .error e⟩]) :=
  ⟨fun n ↦ (h.closed n).concat_error, isSome_storedPlan_concat h.stored⟩

/-- Programs that touch no node run. -/
theorem rest_of_calls {α : Type} {p : Prog α} {A : RunTrace → RunStep → Prop}
    (h : Calls (fun c ↦ c.touches? = none) p) :
    Triple A (Rest taskRunId) p (fun _ ↦ Rest taskRunId) fun _ ↦ Rest taskRunId :=
  Triple.of_calls h fun _ _ hs _ ht ↦ ht.concat hs

theorem Cmd.Routine.touches_none {c : Cmd} (h : c.Routine none) : c.touches? = none := by
  have hplain := h.plain
  cases c with
  | upsertNodeRun row => cases hplain
  | updateNodeState id state output started ended => cases h.nodeRun id rfl
  | appendEvent ev => exact if_neg (of_decide_eq_true hplain)
  | _ => rfl

theorem Cmd.Outside.touches_none {c : Cmd} (h : c.Outside) : c.touches? = none := by
  rcases h with hroutine | ⟨id, state, rfl⟩
  · exact hroutine.touches_none
  · rfl

theorem rest_of_outside {α : Type} {p : Prog α} {A : RunTrace → RunStep → Prop}
    (h : Calls Cmd.Outside p) :
    Triple A (Rest taskRunId) p (fun _ ↦ Rest taskRunId) fun _ ↦ Rest taskRunId :=
  rest_of_calls (h.mono fun _ hc ↦ hc.touches_none)

theorem rest_of_routine {α : Type} {p : Prog α} {A : RunTrace → RunStep → Prop}
    (h : Calls (Cmd.Routine none) p) :
    Triple A (Rest taskRunId) p (fun _ ↦ Rest taskRunId) fun _ ↦ Rest taskRunId :=
  rest_of_calls (h.mono fun _ hc ↦ hc.touches_none)

/-! ## Within a node -/

/-- The row of the node run is written, and its `node.started` event is not appended yet. -/
structure RowWritten (taskRunId n : String) (t : RunTrace) : Prop where
  others : ∀ m, m ≠ n → NodeClosed taskRunId t m
  notEnded : ¬Ended taskRunId t n
  row : nodeState t n = some .running
  stored : (storedPlan taskRunId t).isSome

/-- The node run is started and not ended; `done` says whether its last row is written. -/
structure Started (taskRunId : String) (done : Bool) (n : String) (t : RunTrace) : Prop where
  others : ∀ m, m ≠ n → NodeClosed taskRunId t m
  started : HasEvent taskRunId t .nodeStarted n
  notEnded : ¬Ended taskRunId t n
  row : done = true → nodeState t n ≠ some .running
  stored : (storedPlan taskRunId t).isSome

theorem RowWritten.isOpen (h : RowWritten taskRunId n t) : ∃ n, ¬NodeClosed taskRunId t n :=
  ⟨n, fun hclosed ↦ hclosed.row h.row⟩

theorem Started.isOpen {done : Bool} (h : Started taskRunId done n t) :
    ∃ n, ¬NodeClosed taskRunId t n :=
  ⟨n, fun hclosed ↦ h.notEnded (hclosed.ended h.started)⟩

/-- The calls in the middle of a node: they touch no row, end nothing and are not compensated
for. -/
def Cmd.inner : Cmd → Bool
  | .upsertNodeRun _ | .updateNodeState _ _ _ _ _ | .project _ _ _ | .invoke _ => false
  | .appendEvent ev => decide (ev.kind ∉ [.nodeStarted, .nodeSucceeded, .nodeFailed])
  | _ => true

theorem Cmd.touches_of_inner {c : Cmd} (h : c.inner = true) : c.touches? = none := by
  cases c with
  | upsertNodeRun row => cases h
  | updateNodeState id state output started ended => cases h
  | appendEvent ev =>
    have hkind := of_decide_eq_true h
    exact if_neg fun hstarted ↦ hkind (by simp [hstarted])
  | _ => rfl

theorem Cmd.kind_of_inner {c : Cmd} (h : c.inner = true) (ev : AuditEvent)
    (hc : c = .appendEvent ev) : ev.kind ≠ .nodeSucceeded ∧ ev.kind ≠ .nodeFailed := by
  rw [hc] at h
  have hkind := of_decide_eq_true h
  exact ⟨fun heq ↦ hkind (by simp [heq]), fun heq ↦ hkind (by simp [heq])⟩

theorem Cmd.not_compensated_of_inner {c : Cmd} (h : c.inner = true) (e : Raised) :
    ¬c.Compensated e := by
  rintro (⟨request, rfl⟩ | ⟨⟨id, viewName, payload, rfl⟩, -⟩)
  · cases h
  · cases h

theorem not_ended_concat (h : ¬Ended taskRunId t n)
    (hs : ∀ ev, s.cmd = .appendEvent ev → ev.kind ≠ .nodeSucceeded ∧ ev.kind ≠ .nodeFailed) :
    ¬Ended taskRunId (t ++ [s]) n := by
  rintro (hsucceeded | hfailed)
  · exact not_hasEvent_concat (fun h' ↦ h (Or.inl h')) (fun ev hc ↦ (hs ev hc).1) hsucceeded
  · exact not_hasEvent_concat (fun h' ↦ h (Or.inr h')) (fun ev hc ↦ (hs ev hc).2) hfailed

theorem Started.concat {done : Bool} (h : Started taskRunId done n t)
    (htouches : s.cmd.touches? = none)
    (hends : ∀ ev, s.cmd = .appendEvent ev → ev.kind ≠ .nodeSucceeded ∧ ev.kind ≠ .nodeFailed) :
    Started taskRunId done n (t ++ [s]) where
  others m hm := (h.others m hm).concat (by rw [htouches]; exact nofun)
  started := hasEvent_concat h.started
  notEnded := not_ended_concat h.notEnded hends
  row hdone := by
    rw [nodeState_concat_of_ne (by rw [htouches]; exact nofun)]
    exact h.row hdone
  stored := isSome_storedPlan_concat h.stored

theorem Started.inner {done : Bool} (h : Started taskRunId done n t) (hs : s.cmd.inner = true) :
    Started taskRunId done n (t ++ [s]) :=
  h.concat (Cmd.touches_of_inner hs) (Cmd.kind_of_inner hs)

theorem RowWritten.inner (h : RowWritten taskRunId n t) (hs : s.cmd.inner = true) :
    RowWritten taskRunId n (t ++ [s]) where
  others m hm := (h.others m hm).concat (by rw [Cmd.touches_of_inner hs]; exact nofun)
  notEnded := not_ended_concat h.notEnded (Cmd.kind_of_inner hs)
  row := by
    rw [nodeState_concat_of_ne (by rw [Cmd.touches_of_inner hs]; exact nofun)]
    exact h.row
  stored := isSome_storedPlan_concat h.stored

/-- While a node run is open, a call that is not compensated for does not raise. -/
theorem Obeys.reply_ok (h : Obeys cfg taskRunId t s) (hopen : ∃ n, ¬NodeClosed taskRunId t n)
    (hs : ∀ e, ¬s.cmd.Compensated e) : ∃ x, s.reply = .ok x := by
  cases hr : s.reply with
  | ok x => exact ⟨x, rfl⟩
  | error e => exact absurd (h.compensated hopen e hr) (hs e)

/-- **The middle of a node.** Programs that are known by their inner calls return. -/
theorem started_of_okCalls {α : Type} {p : Prog α} {done : Bool} (h : OkCalls (·.inner) p) :
    Triple (Obeys cfg taskRunId) (Started taskRunId done n) p
      (fun _ ↦ Started taskRunId done n) fun _ _ ↦ False :=
  Triple.of_okCalls h (fun _ _ hs hA ht ↦ hA.reply_ok ht.isOpen (Cmd.not_compensated_of_inner hs))
    fun _ _ hs _ ht ↦ ht.inner hs

theorem rowWritten_of_okCalls {α : Type} {p : Prog α} (h : OkCalls (·.inner) p) :
    Triple (Obeys cfg taskRunId) (RowWritten taskRunId n) p
      (fun _ ↦ RowWritten taskRunId n) fun _ _ ↦ False :=
  Triple.of_okCalls h (fun _ _ hs hA ht ↦ hA.reply_ok ht.isOpen (Cmd.not_compensated_of_inner hs))
    fun _ _ hs _ ht ↦ ht.inner hs

theorem okCalls_publish {φ : Cmd → Prop} {event : Json} (h : φ (.publish taskRunId event)) :
    OkCalls φ (publish cfg taskRunId event) := by
  rw [publish]
  split
  · exact okCalls_perform.mpr h
  · exact okCalls_pure ()

theorem okCalls_inner {c : Cmd} (hc : c.inner = true) : OkCalls (·.inner) (call c) :=
  okCalls_perform.mpr hc

theorem okCalls_inner_emit {nodeRunId : Option String} {kind : EventKind} {payload : Dict}
    (hkind : kind ∉ [EventKind.nodeStarted, .nodeSucceeded, .nodeFailed]) :
    OkCalls (·.inner) (emit cfg taskRunId nodeRunId kind payload) := by
  refine (okCalls_inner rfl).bind fun eventId ↦ ?_
  refine (okCalls_inner rfl).bind fun now ↦ ?_
  refine (okCalls_inner ?_).bind fun _ ↦ okCalls_publish rfl
  exact decide_eq_true hkind

/-! ## The calls that open and close -/

/-- The row that starts a fresh node run. -/
theorem Rest.writeRow (h : Rest taskRunId t) (hfresh : ¬Ended taskRunId t n) {row : NodeRun}
    (hid : row.nodeRunId = n) (hrow : row.state = .running) :
    RowWritten taskRunId n (t ++ [⟨.upsertNodeRun row, .ok ()⟩]) where
  others m hm := (h.closed m).concat fun htouch ↦ hm (by rw [← Option.some.inj htouch, hid])
  notEnded := not_ended_concat hfresh fun ev hc ↦ by cases hc
  row := by
    rw [nodeState_concat]
    exact (if_pos hid).trans (congrArg some hrow)
  stored := isSome_storedPlan_concat h.stored

/-- The event that starts it. -/
theorem RowWritten.append (h : RowWritten taskRunId n t) {ev : AuditEvent}
    (htask : ev.taskRunId = some taskRunId) (hnode : ev.nodeRunId = some n)
    (hkind : ev.kind = .nodeStarted) :
    Started taskRunId false n (t ++ [⟨.appendEvent ev, .ok ()⟩]) where
  others m hm := by
    refine (h.others m hm).concat fun htouch ↦ hm ?_
    rw [Cmd.touches?, if_pos hkind, hnode] at htouch
    exact (Option.some.inj htouch).symm
  started := hkind ▸ hasEvent_append htask hnode
  notEnded := by
    refine not_ended_concat h.notEnded ?_
    rintro ev' ⟨⟩
    rw [hkind]
    exact ⟨EventKind.noConfusion, EventKind.noConfusion⟩
  row := nofun
  stored := isSome_storedPlan_concat h.stored

/-- The last row of the node run. -/
theorem Started.writeLast {done : Bool} {state : NodeRunState} {output : Option Json}
    {started ended : Bool} (h : Started taskRunId done n t) (hstate : state ≠ .running) :
    Started taskRunId true n
      (t ++ [⟨.updateNodeState n state output started ended, .ok ()⟩]) where
  others m hm := (h.others m hm).concat fun htouch ↦ hm (Option.some.inj htouch).symm
  started := hasEvent_concat h.started
  notEnded := not_ended_concat h.notEnded fun ev hc ↦ by cases hc
  row _ := by
    rw [nodeState_concat]
    simp only [nodeWrite?, if_true]
    exact fun heq ↦ hstate (Option.some.inj heq)
  stored := isSome_storedPlan_concat h.stored

/-- The event that ends it. -/
theorem Started.append {ev : AuditEvent} (h : Started taskRunId true n t)
    (htask : ev.taskRunId = some taskRunId) (hnode : ev.nodeRunId = some n)
    (hkind : ev.kind = .nodeSucceeded ∨ ev.kind = .nodeFailed) :
    Rest taskRunId (t ++ [⟨.appendEvent ev, .ok ()⟩]) where
  closed m := by
    have htouch : (Cmd.appendEvent ev).touches? = none := by
      refine if_neg fun hstarted ↦ ?_
      rw [hstarted] at hkind
      rcases hkind with hkind | hkind <;> cases hkind
    have hends : Ended taskRunId (t ++ [⟨.appendEvent ev, .ok ()⟩]) n := by
      have hev := hasEvent_append (t := t) htask hnode
      rcases hkind with hkind | hkind <;> rw [hkind] at hev
      · exact Or.inl hev
      · exact Or.inr hev
    by_cases hm : m = n
    · subst hm
      refine ⟨?_, fun _ ↦ hends⟩
      rw [nodeState_concat_of_ne (by rw [htouch]; exact nofun)]
      exact h.row rfl
    · exact (h.others m hm).concat (by rw [htouch]; exact nofun)
  stored := isSome_storedPlan_concat h.stored

/-! ## The parts of a node -/

theorem writeLast_closes {done : Bool} {state : NodeRunState} {output : Option Json}
    {started ended : Bool} (hstate : state ≠ .running) :
    Triple (Obeys cfg taskRunId) (Started taskRunId done n)
      (call (.updateNodeState n state output started ended))
      (fun _ ↦ Started taskRunId true n) fun _ _ ↦ False := by
  refine Triple.perform (fun t _ ht _ ↦ ht.writeLast hstate) fun t e ht hA ↦ ?_
  obtain ⟨x, hx⟩ := hA.reply_ok ht.isOpen (by rintro e (⟨_, hc⟩ | ⟨⟨_, _, _, hc⟩, -⟩) <;> cases hc)
  cases hx

/-- What cannot raise raises with anything. -/
theorem started_inner {α : Type} {p : Prog α} {done : Bool} (h : OkCalls (·.inner) p) :
    Triple (Obeys cfg taskRunId) (Started taskRunId done n) p
      (fun _ ↦ Started taskRunId done n) fun _ ↦ Rest taskRunId :=
  (started_of_okCalls h).post_error fun _ _ hfalse ↦ hfalse.elim

theorem rowWritten_inner {α : Type} {p : Prog α} (h : OkCalls (·.inner) p) :
    Triple (Obeys cfg taskRunId) (RowWritten taskRunId n) p (fun _ ↦ RowWritten taskRunId n)
      fun _ ↦ Rest taskRunId :=
  (rowWritten_of_okCalls h).post_error fun _ _ hfalse ↦ hfalse.elim

/-- **The event that ends a node run.** After it nothing is open, also if publishing it raises. -/
theorem emit_ends {kind : EventKind} {payload : Dict}
    (hkind : kind = .nodeSucceeded ∨ kind = .nodeFailed) :
    Triple (Obeys cfg taskRunId) (Started taskRunId true n)
      (emit cfg taskRunId (some n) kind payload) (fun _ ↦ Rest taskRunId) fun _ ↦ Rest taskRunId := by
  refine (started_inner (okCalls_inner rfl)).bind fun eventId ↦ ?_
  refine (started_inner (okCalls_inner rfl)).bind fun now ↦ ?_
  refine Triple.bind (Q := fun _ ↦ Rest taskRunId) ?_ fun _ ↦ ?_
  · refine Triple.perform (fun t _ ht _ ↦ ht.append rfl rfl hkind) fun t e ht hA ↦ ?_
    obtain ⟨x, hx⟩ := hA.reply_ok ht.isOpen
      (by rintro e (⟨_, hc⟩ | ⟨⟨_, _, _, hc⟩, -⟩) <;> cases hc)
    cases hx
  · exact rest_of_calls (calls_publish rfl)

/-- The compensation. -/
theorem failNode_closes {α : Type} {ctx : NodeContext} {payload : Dict} {e : Raised} :
    Triple (Obeys cfg taskRunId) (Started taskRunId false ctx.nodeRunId)
      (failNode (α := α) cfg taskRunId ctx payload e) (fun _ _ ↦ False)
      fun _ ↦ Rest taskRunId := by
  refine ((writeLast_closes NodeRunState.noConfusion).post_error
    fun _ _ hfalse ↦ hfalse.elim).bind fun _ ↦ ?_
  refine (emit_ends (Or.inr rfl)).bind fun _ ↦ ?_
  exact Triple.raise fun t ht ↦ ht

theorem startNode_closes {node : PlanNode} {force : Option String} :
    Triple (Obeys cfg taskRunId) (Rest taskRunId) (startNode cfg taskRunId node force)
      (fun ctx ↦ Started taskRunId false ctx.nodeRunId) fun _ ↦ Rest taskRunId := by
  refine Triple.bind (Q := fun n t ↦ Rest taskRunId t ∧ ¬Ended taskRunId t n) ?_ fun n ↦ ?_
  · refine Triple.perform (fun t n ht hA ↦ ⟨ht.concat rfl, ?_⟩) fun t e ht _ ↦ ht.concat_error
    obtain ⟨id, hid, hfresh, -⟩ := hA.admitted.newId _ rfl
    obtain rfl := Except.ok.inj hid
    have hnone (kind : EventKind) := not_hasEvent_of_not_issued hA.legit hfresh kind
    exact not_ended_concat (fun h ↦ h.elim (hnone _) (hnone _)) fun ev hc ↦ by cases hc
  refine Triple.bind (Q := fun _ t ↦ Rest taskRunId t ∧ ¬Ended taskRunId t n) ?_ fun manifest ↦ ?_
  · exact Triple.ofExcept (fun _ _ t ht ↦ ht) fun e _ t ht ↦ ht.1
  refine Triple.bind (Q := fun _ ↦ RowWritten taskRunId n) ?_ fun _ ↦ ?_
  · exact Triple.perform (fun t _ ht _ ↦ ht.1.writeRow ht.2 rfl rfl) fun t e ht _ ↦
      ht.1.concat_error
  refine Triple.bind (Q := fun _ ↦ Started taskRunId false n) ?_ fun _ ↦ Triple.ret fun t ht ↦ ht
  refine (rowWritten_inner (okCalls_inner rfl)).bind fun eventId ↦ ?_
  refine (rowWritten_inner (okCalls_inner rfl)).bind fun now ↦ ?_
  refine Triple.bind (Q := fun _ ↦ Started taskRunId false n) ?_ fun _ ↦ ?_
  · refine Triple.perform (fun t _ ht _ ↦ ht.append rfl rfl rfl) fun t e ht hA ↦ ?_
    obtain ⟨x, hx⟩ := hA.reply_ok ht.isOpen
      (by rintro e (⟨_, hc⟩ | ⟨⟨_, _, _, hc⟩, -⟩) <;> cases hc)
    cases hx
  · exact started_inner (okCalls_publish rfl)

theorem execInProcess_closes {ctx : NodeContext} {previous : Dict} :
    Triple (Obeys cfg taskRunId) (Started taskRunId false ctx.nodeRunId)
      (execInProcess cfg taskRunId ctx previous) (fun _ ↦ Rest taskRunId)
      fun _ ↦ Rest taskRunId := by
  have houtput : OkCalls (·.inner) (inProcessOutput ctx.node.nodeId previous) := by
    rw [inProcessOutput]
    split
    · exact (okCalls_inner rfl).bind fun initial ↦ okCalls_pure _
    · exact okCalls_inner rfl
  refine (started_inner houtput).bind fun output ↦ ?_
  refine ((writeLast_closes NodeRunState.noConfusion).post_error
    fun _ _ hfalse ↦ hfalse.elim).bind fun _ ↦ ?_
  refine (started_inner (okCalls_inner rfl)).bind fun _ ↦ ?_
  exact emit_ends (Or.inl rfl)

theorem okCalls_issueGrant {ctx : NodeContext} :
    OkCalls (·.inner) (issueGrant cfg taskRunId ctx) := by
  refine (okCalls_inner rfl).bind fun grantId ↦ ?_
  refine (okCalls_inner rfl).bind fun now ↦ ?_
  refine (okCalls_inner rfl).bind fun _ ↦ ?_
  exact (okCalls_inner_emit (by decide)).bind fun _ ↦ okCalls_pure _

/-- A refusal is compensated for; and when the enforcement point lets the inputs through, so does
the projector. -/
theorem projectInputs_closes {ctx : NodeContext} {viewName : String} {inputs : Dict} :
    Triple (Obeys cfg taskRunId) (Started taskRunId false ctx.nodeRunId)
      (projectInputs cfg taskRunId ctx viewName inputs)
      (fun x t ↦ (∃ r, FieldProjector.project cfg.P x.2 inputs = .ok r) ∧
        Started taskRunId false ctx.nodeRunId t)
      fun _ ↦ Rest taskRunId := by
  have hproject (t : RunTrace) (r : Except Raised (Dict × FieldManifest))
      (ht : Started taskRunId false ctx.nodeRunId t) :
      Started taskRunId false ctx.nodeRunId
        (t ++ [⟨.project ctx.capabilityId viewName inputs, r⟩]) :=
    ht.concat rfl fun ev hc ↦ by cases hc
  refine Triple.tryCatch (E := fun e t ↦ e.typeName = "EgressDenied" ∧
    Started taskRunId false ctx.nodeRunId t) ?_ fun e ↦ Triple.of_pure fun he ↦ ?_
  · refine Triple.perform (fun t x ht hA ↦ ⟨?_, hproject t _ ht⟩) fun t e ht hA ↦
      ⟨?_, hproject t _ ht⟩
    · obtain ⟨pep, -, hx⟩ := hA.admitted.project _ _ _ x rfl
      obtain ⟨-, r, hr, -⟩ := EgressPEP.projector_of_project hx
      exact ⟨r, hr⟩
    · rcases hA.compensated ht.isOpen e rfl with ⟨request, hc⟩ | ⟨-, hdenied⟩
      · cases hc
      · exact hdenied
  · rw [if_pos he]
    refine Triple.post (Q := fun _ _ ↦ False) ?_ fun _ _ hfalse ↦ hfalse.elim
    refine (started_inner (okCalls_inner_emit (by decide))).bind fun _ ↦ ?_
    exact failNode_closes

theorem egress_closes {ctx : NodeContext} {inputs : Dict} :
    Triple (Obeys cfg taskRunId) (Started taskRunId false ctx.nodeRunId)
      (egress cfg taskRunId ctx inputs)
      (fun _ ↦ Started taskRunId false ctx.nodeRunId) fun _ ↦ Rest taskRunId := by
  rw [egress]
  split
  · split
    · exact Triple.ret fun t ht ↦ ht
    · refine projectInputs_closes.bind fun x ↦ Triple.of_pure fun hx ↦ ?_
      obtain ⟨r, hr⟩ := hx
      rw [hr]
      exact Triple.ret fun t ht ↦ ht
  · exact Triple.ret fun t ht ↦ ht

theorem invokeAdapter_closes {ctx : NodeContext} {request : AdapterRequest} :
    Triple (Obeys cfg taskRunId) (Started taskRunId false ctx.nodeRunId)
      (invokeAdapter cfg taskRunId ctx request)
      (fun _ ↦ Started taskRunId false ctx.nodeRunId) fun _ ↦ Rest taskRunId := by
  have hinvoke (t : RunTrace) (r : Except Raised AdapterResult)
      (ht : Started taskRunId false ctx.nodeRunId t) :
      Started taskRunId false ctx.nodeRunId (t ++ [⟨.invoke request, r⟩]) :=
    ht.concat rfl fun ev hc ↦ by cases hc
  refine Triple.tryCatch (E := fun _ ↦ Started taskRunId false ctx.nodeRunId) ?_ fun e ↦ ?_
  · exact Triple.perform (fun t _ ht _ ↦ hinvoke t _ ht) fun t e ht _ ↦ hinvoke t _ ht
  · exact failNode_closes.post fun _ _ hfalse ↦ hfalse.elim

theorem okCalls_recordIo {ctx : NodeContext} {e : Egress} {outputs : Dict} {latency : ℤ} :
    OkCalls (·.inner) (recordIo cfg taskRunId ctx e outputs latency) := by
  refine (okCalls_inner_emit (by decide)).bind fun _ ↦ ?_
  exact (okCalls_inner_emit (by decide)).bind fun _ ↦ okCalls_inner_emit (by decide)

theorem buildReceipt_closes {ctx : NodeContext} {inputs outputs : Dict} {startedAt endedAt : ℕ} :
    Triple (Obeys cfg taskRunId) (Started taskRunId true ctx.nodeRunId)
      (buildReceipt cfg taskRunId ctx inputs outputs startedAt endedAt)
      (fun _ ↦ Started taskRunId true ctx.nodeRunId) fun _ ↦ Rest taskRunId := by
  refine Triple.bind (Q := fun row t ↦ (∃ planId, planIdOf row = .ok planId) ∧
    Started taskRunId true ctx.nodeRunId t) ?_ fun row ↦ Triple.of_pure fun ⟨planId, hrow⟩ ↦ ?_
  · refine Triple.perform (fun t row ht hA ↦ ⟨?_, ht.inner rfl⟩) fun t e ht hA ↦ ?_
    · obtain ⟨p, hp⟩ := Option.isSome_iff_exists.mp ht.stored
      obtain ⟨r, rfl, -⟩ := hA.admitted.getTaskRun row rfl p hp
      exact ⟨_, rfl⟩
    · obtain ⟨x, hx⟩ := hA.reply_ok ht.isOpen (Cmd.not_compensated_of_inner rfl)
      cases hx
  rw [hrow]
  refine started_inner ((okCalls_inner rfl).bind fun receiptId ↦ ?_)
  exact (okCalls_inner rfl).bind fun now ↦ okCalls_pure _

theorem finishNode_closes {ctx : NodeContext} {inputs : Dict} {result : AdapterResult}
    {startedAt endedAt : ℕ} {latency : ℤ} :
    Triple (Obeys cfg taskRunId) (Started taskRunId false ctx.nodeRunId)
      (finishNode cfg taskRunId ctx inputs result startedAt endedAt latency)
      (fun _ ↦ Rest taskRunId) fun _ ↦ Rest taskRunId := by
  refine ((writeLast_closes NodeRunState.noConfusion).post_error
    fun _ _ hfalse ↦ hfalse.elim).bind fun _ ↦ ?_
  refine (started_inner (okCalls_inner rfl)).bind fun _ ↦ ?_
  refine buildReceipt_closes.bind fun receipt ↦ ?_
  refine (started_inner (okCalls_inner rfl)).bind fun _ ↦ ?_
  refine (started_inner (okCalls_inner_emit (by decide))).bind fun _ ↦ ?_
  exact emit_ends (Or.inl rfl)

/-- **Every node is closed**, whether it returns or raises. -/
theorem execNode_closes {node : PlanNode} {previous : Dict} {force : Option String}
    {approval : Option Dict} :
    Triple (Obeys cfg taskRunId) (Rest taskRunId)
      (execNode cfg taskRunId node previous force approval) (fun _ ↦ Rest taskRunId)
      fun _ ↦ Rest taskRunId := by
  refine startNode_closes.bind fun ctx ↦ ?_
  split
  · exact execInProcess_closes
  refine (started_inner okCalls_issueGrant).bind fun grant ↦ ?_
  refine (started_inner (okCalls_inner rfl)).bind fun _ ↦ ?_
  refine (started_inner (okCalls_inner rfl)).bind fun startedAt ↦ ?_
  refine egress_closes.bind fun e ↦ ?_
  refine (started_inner (okCalls_inner rfl)).bind fun t0 ↦ ?_
  refine invokeAdapter_closes.bind fun result ↦ ?_
  refine (started_inner (okCalls_inner rfl)).bind fun t1 ↦ ?_
  refine (started_inner (okCalls_inner rfl)).bind fun endedAt ↦ ?_
  refine (started_inner okCalls_recordIo).bind fun _ ↦ ?_
  exact finishNode_closes

/-! ## The run -/

theorem executeNodes_closes {plan : ExecutionPlan} :
    Triple (Obeys cfg a.taskRunId) (Rest a.taskRunId) (executeNodes cfg a plan)
      (fun _ ↦ Rest a.taskRunId) fun _ ↦ Rest a.taskRunId := by
  have hget (nodeId : String) : Triple (Obeys cfg a.taskRunId) (Rest a.taskRunId)
      (call (.getResult nodeId)) (fun _ ↦ Rest a.taskRunId) fun _ ↦ Rest a.taskRunId :=
    rest_of_calls (calls_perform.mpr rfl)
  have hpure {α : Type} (r : Except Raised α) : Triple (Obeys cfg a.taskRunId) (Rest a.taskRunId)
      (.ofExcept r) (fun _ ↦ Rest a.taskRunId) fun _ ↦ Rest a.taskRunId :=
    rest_of_calls (calls_ofExcept r)
  refine (hpure _).bind fun ingest ↦ ?_
  refine execNode_closes.bind fun _ ↦ ?_
  refine (hpure _).bind fun extract ↦ ?_
  refine (hget _).bind fun contract ↦ ?_
  refine execNode_closes.bind fun _ ↦ ?_
  refine (hpure _).bind fun research ↦ ?_
  refine (hget _).bind fun extracted ↦ ?_
  refine (hpure _).bind fun query ↦ ?_
  refine execNode_closes.bind fun _ ↦ ?_
  refine (hpure _).bind fun merge ↦ ?_
  refine (hget _).bind fun facts ↦ ?_
  refine (hget _).bind fun researched ↦ ?_
  exact execNode_closes

theorem executePlan_closes {plan : ExecutionPlan} :
    Triple (Obeys cfg a.taskRunId) (Rest a.taskRunId) (executePlan cfg a plan)
      (fun _ ↦ Rest a.taskRunId) fun _ ↦ Rest a.taskRunId := by
  refine executeNodes_closes.bind fun _ ↦ ?_
  refine (rest_of_routine calls_decideTask).bind fun decision ↦ ?_
  split
  · refine (rest_of_calls (calls_ofExcept _)).bind fun sink ↦ ?_
    refine (rest_of_calls (calls_perform.mpr rfl)).bind fun merged ↦ ?_
    refine execNode_closes.bind fun _ ↦ ?_
    refine rest_of_outside ((outside_updateTaskState _ _).bind fun _ ↦ Calls.outside ?_)
    refine (routine_call rfl rfl rfl).bind fun results ↦ ?_
    exact (routine_emit EventKind.noConfusion).bind fun _ ↦ calls_pure _
  · exact rest_of_outside calls_rejectTask

/-- The planning touches no node run. -/
theorem planTask_closes :
    Triple (Obeys cfg a.taskRunId) (fun t ↦ ∀ n, NodeClosed a.taskRunId t n) (planTask cfg a)
      (fun _ ↦ Rest a.taskRunId) fun _ t ↦ ∀ n, NodeClosed a.taskRunId t n := by
  refine Triple.bind (Q := fun _ ↦ Rest a.taskRunId) ?_ fun _ ↦ ?_
  · refine Triple.perform (fun t _ ht _ ↦ ⟨fun n ↦ (ht n).concat nofun, ?_⟩)
      fun t e ht _ n ↦ (ht n).concat_error
    rw [storedPlan_concat]
    simp [planWrite?]
  have htouches (c : Cmd) (hc : c.Routine none) : c.touches? = none := hc.touches_none
  have hemit {kind : EventKind} {payload : Dict} (hkind : kind ≠ .nodeStarted) :
      Calls (fun c ↦ c.touches? = none) (emit cfg a.taskRunId none kind payload) :=
    (routine_emit hkind).mono htouches
  have hcall {c : Cmd} (hc : c.touches? = none) : Calls (fun c ↦ c.touches? = none) (call c) :=
    calls_perform.mpr hc
  refine (rest_of_calls ?_).post_error fun _ t ht ↦ ht.closed
  refine (hemit EventKind.noConfusion).bind fun _ ↦ ?_
  refine Calls.bind ?_ fun plan ↦ ?_
  · refine (calls_planNodes _ _ fun _ _ ↦ rfl).bind fun r ↦ ?_
    refine (hcall rfl).bind fun planId ↦ ?_
    refine (hcall rfl).bind fun now ↦ ?_
    exact (hcall rfl).bind fun signature ↦ calls_pure _
  refine (hcall rfl).bind fun _ ↦ ?_
  refine (hemit EventKind.noConfusion).bind fun _ ↦ ?_
  exact (hemit EventKind.noConfusion).bind fun _ ↦ calls_pure _

theorem run_closes :
    Triple (Obeys cfg a.taskRunId) (· = []) (run cfg a)
      (fun _ t ↦ ∀ n, NodeClosed a.taskRunId t n) fun _ t ↦ ∀ n, NodeClosed a.taskRunId t n := by
  have hstart (t : RunTrace) (ht : t = []) (n : String) : NodeClosed a.taskRunId t n := by
    subst ht
    exact ⟨nofun, fun ⟨ev, hev, _⟩ ↦ by cases hev⟩
  refine Triple.bind (Q := fun _ t ↦ ∀ n, NodeClosed a.taskRunId t n) ?_ fun _ ↦ ?_
  · exact Triple.ofExcept (fun _ _ t ht ↦ hstart t ht) fun _ _ t ht ↦ hstart t ht
  refine Triple.bind (Q := fun _ t ↦ ∀ n, NodeClosed a.taskRunId t n) ?_ fun _ ↦ ?_
  · exact Triple.perform (fun t _ ht _ n ↦ (ht n).concat nofun) fun t e ht _ n ↦
      (ht n).concat_error
  refine planTask_closes.bind fun plan ↦ ?_
  have hrest : Triple (Obeys cfg a.taskRunId) (Rest a.taskRunId) (do
      call (.updateTaskState a.taskRunId .running)
      let ending ← (executePlan cfg a plan).tryCatch (failTask cfg a)
      finishRun cfg a plan ending) (fun _ ↦ Rest a.taskRunId) fun _ ↦ Rest a.taskRunId := by
    refine (rest_of_calls (calls_perform.mpr rfl)).bind fun _ ↦ ?_
    refine (executePlan_closes.tryCatch fun e ↦ rest_of_outside calls_failTask).bind
      fun ending ↦ rest_of_routine calls_finishRun
  exact hrest.conseq (fun _ ht ↦ ht) (fun _ _ ht ↦ ht.closed) fun _ _ ht ↦ ht.closed

/-! ## The state after a run -/

/-- The row of the node run is `running`, or the log has its start and not its end. -/
def OpenNode (db : Database) (taskRunId n : String) : Prop :=
  NodeRunning db taskRunId n ∨
    (InLog db taskRunId .nodeStarted n ∧ ¬InLog db taskRunId .nodeSucceeded n ∧
      ¬InLog db taskRunId .nodeFailed n)

/-- No node run of the task is open in the second database that is not open in the first. -/
def ClosesNodes (taskRunId : String) (db db' : Database) : Prop :=
  ∀ n, OpenNode db' taskRunId n → OpenNode db taskRunId n

/-- **When a run closes its nodes.** In a run in which, while a node run is open, nothing raises but
the adapter and the refusals of the enforcement point, no node run of the task is open at the end
that was not open before. -/
theorem run_closesNodes (cfg : Config) (a : RunArgs) (env : Env a.taskRunId) (w : World)
    (h : EveryStep (OnlyCompensated a.taskRunId) (execRun cfg a env w).trace) :
    ClosesNodes a.taskRunId w.db (execRun cfg a env w).state.db := by
  have hobeys : Triple (fun t s ↦ Admitted cfg a.taskRunId t s ∧
      (EveryStep (Legit cfg a.taskRunId) t ∧ OnlyCompensated a.taskRunId t s)) (· = []) (run cfg a)
      (fun _ t ↦ ∀ n, NodeClosed a.taskRunId t n) fun _ t ↦ ∀ n, NodeClosed a.taskRunId t n :=
    run_closes.restrict fun _ _ hA ↦ ⟨hA.1, hA.2.1, hA.2.2⟩
  have hclosed := of_ending (execRun_of_triple hobeys ((execRun_legit cfg a env w).before.and h))
  have hsync := execRun_sync cfg a env w
  rintro n (hrunning | ⟨hstarted, hsucceeded, hfailed⟩)
  · exact Or.inl ((hsync.nodes n hrunning).resolve_right (hclosed n).row)
  · refine Or.inr ⟨(hsync.log.started n hstarted).resolve_right fun hev ↦ ?_, fun hev ↦ ?_,
      fun hev ↦ ?_⟩
    · rcases (hclosed n).ended hev with hend | hend
      · exact hsucceeded (hsync.log.logged _ n hend)
      · exact hfailed (hsync.log.logged _ n hend)
    · exact hsucceeded (hsync.log.kept _ n hev)
    · exact hfailed (hsync.log.kept _ n hev)

/-- A call that returned, or the call of an adapter. -/
def returnedOrInvoke (s : RunStep) : Bool := s.reply.isOk || s.cmd.invokes?.isSome

theorem onlyCompensated_of_returnedOrInvoke {s : RunStep} (pre : RunTrace)
    (hs : returnedOrInvoke s = true) : OnlyCompensated taskRunId pre s := by
  rintro - e he
  rw [returnedOrInvoke, he] at hs
  obtain ⟨capabilityId, hcap⟩ := Option.isSome_iff_exists.mp hs
  obtain ⟨request, hc, -⟩ := Cmd.eq_invoke hcap
  exact Or.inl ⟨request, hc⟩

/-- Whether a run has returned with state `failed`. -/
def returnedFailed (r : Except Raised CoordinatorResult) : Bool :=
  match r with
  | .ok result => decide (result.state = .failed)
  | .error _ => false

section

set_option maxRecDepth 100000

theorem adapterRaises_facts :
    let o := sampleRun sampleAdapters adapterRaises
    returnedFailed o.result = true ∧ o.trace.all returnedOrInvoke = true := by
  decide +kernel

/-- A run whose first adapter times out has returned `failed` and left nothing open. -/
theorem run_closesNodes_sample :
    returnedFailed (sampleRun sampleAdapters adapterRaises).result = true ∧
      ClosesNodes sampleArgs.taskRunId {} (sampleRun sampleAdapters adapterRaises).state.db := by
  obtain ⟨hfailed, hall⟩ := adapterRaises_facts
  refine ⟨hfailed, run_closesNodes _ _ _ {} fun pre s post heq ↦ ?_⟩
  have hmem : s ∈ (sampleRun sampleAdapters adapterRaises).trace := by
    rw [sampleRun, heq]
    simp
  exact onlyCompensated_of_returnedOrInvoke pre (List.all_eq_true.mp hall s hmem)

theorem noAdapter_facts :
    let o := sampleRun [] fun _ _ ↦ none
    returnedFailed o.result = true ∧
      (o.state.db.nodeRuns.rows.any fun r ↦
        r.taskRunId = sampleArgs.taskRunId ∧ r.state = .running) = true := by
  decide +kernel

/-- A run without adapters returns `failed` and leaves a node run in state `running`. -/
theorem failed_run_leaves_node_open :
    ¬∀ (cfg : Config) (a : RunArgs) (env : Env a.taskRunId) (w : World),
      returnedFailed (execRun cfg a env w).result = true →
        ClosesNodes a.taskRunId w.db (execRun cfg a env w).state.db := by
  intro h
  obtain ⟨hfailed, hany⟩ := noAdapter_facts
  obtain ⟨r, hr, htask⟩ := List.any_eq_true.mp hany
  obtain ⟨htask, hrunning⟩ := of_decide_eq_true htask
  have hcloses := h (sampleConfig []) sampleArgs (sampleEnv fun _ _ ↦ none) {} hfailed
  have hopen := hcloses r.nodeRunId (Or.inl ⟨r, KeyedTable.find?_of_mem hr, htask, hrunning⟩)
  rcases hopen with ⟨r', hr', -⟩ | ⟨⟨ev, hev, -⟩, -⟩
  · cases hr'
  · cases hev

end

end Engine

end Orchestra
