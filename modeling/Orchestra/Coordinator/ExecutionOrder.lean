import Orchestra.Coordinator.RunCourse
import Orchestra.Runtime.TransitionGuard

/-!
# The order of execution

What the course of a run says about its rows: the states written for a node run are a path of its
state machine, its adapter is invoked at most once, and a node is started only after the nodes that
the edges of the template come from.
-/

namespace Orchestra

namespace Engine

open Interaction Sequential

variable {cfg : Config} {a : RunArgs} {taskRunId : String} {t : RunTrace} {s : RunStep}
  {plan : ExecutionPlan}

/-! ## What the calls write -/

/-- The rows are written when their nodes start, and their states when the nodes end. -/
def Cmd.regular : Cmd → Bool
  | .upsertNodeRun row => decide (row.state = .running)
  | .updateNodeState _ state _ _ _ => decide (state = .succeeded ∨ state = .failed)
  | _ => true

theorem Cmd.regular_of_not_marks {c : Cmd} (h : c.marks = false) : c.regular = true := by
  cases c with
  | upsertNodeRun row => cases h
  | updateNodeState id state output started ended => cases h
  | _ => rfl

theorem regular_of_unmarked {α : Type} {p : Prog α} (h : Calls (fun c ↦ c.marks = false) p) :
    Calls (·.regular) p := h.mono fun _ hc ↦ Cmd.regular_of_not_marks hc

theorem regular_call {c : Cmd} (hc : c.regular = true) : Calls (·.regular) (call c) :=
  calls_perform.mpr hc

theorem regular_emit {nodeRunId : Option String} {kind : EventKind} {payload : Dict} :
    Calls (·.regular) (emit cfg taskRunId nodeRunId kind payload) := by
  refine calls_emit fun c hc ↦ ?_
  cases hc <;> rfl

theorem regular_failNode {α : Type} {ctx : NodeContext} {payload : Dict} {e : Raised} :
    Calls (·.regular) (failNode (α := α) cfg taskRunId ctx payload e) :=
  (regular_call rfl).bind fun _ ↦ regular_emit.bind fun _ ↦ calls_raise e

theorem regular_execInProcess {ctx : NodeContext} {previous : Dict} :
    Calls (·.regular) (execInProcess cfg taskRunId ctx previous) := by
  refine Calls.bind ?_ fun output ↦ ?_
  · rw [inProcessOutput]
    split
    · exact (regular_call rfl).bind fun initial ↦ calls_pure _
    · exact regular_call rfl
  refine (regular_call rfl).bind fun _ ↦ ?_
  exact (regular_call rfl).bind fun _ ↦ regular_emit

theorem regular_egress {ctx : NodeContext} {inputs : Dict} :
    Calls (·.regular) (egress cfg taskRunId ctx inputs) := by
  rw [egress]
  split
  · split
    · exact calls_pure _
    · refine Calls.bind ?_ fun projected ↦ (calls_ofExcept _).bind fun result ↦ calls_pure _
      refine (regular_call rfl).tryCatch fun e ↦ ?_
      split
      · exact regular_emit.bind fun _ ↦ regular_failNode
      · exact calls_raise e
  · exact calls_pure _

theorem regular_execNode {node : PlanNode} {previous : Dict} {force : Option String}
    {approval : Option Dict} :
    Calls (·.regular) (execNode cfg taskRunId node previous force approval) := by
  refine Calls.bind ?_ fun ctx ↦ ?_
  · refine (regular_call rfl).bind fun nodeRunId ↦ (calls_ofExcept _).bind fun manifest ↦ ?_
    exact (regular_call rfl).bind fun _ ↦ regular_emit.bind fun _ ↦ calls_pure _
  split
  · exact regular_execInProcess
  refine Calls.bind ?_ fun grant ↦ ?_
  · refine (regular_call rfl).bind fun grantId ↦ (regular_call rfl).bind fun now ↦ ?_
    exact (regular_call rfl).bind fun _ ↦ regular_emit.bind fun _ ↦ calls_pure _
  refine (regular_call rfl).bind fun _ ↦ (regular_call rfl).bind fun startedAt ↦ ?_
  refine regular_egress.bind fun e ↦ (regular_call rfl).bind fun t0 ↦ ?_
  refine ((regular_call rfl).tryCatch fun e ↦ regular_failNode).bind fun result ↦ ?_
  refine (regular_call rfl).bind fun t1 ↦ (regular_call rfl).bind fun endedAt ↦ ?_
  refine (regular_emit.bind fun _ ↦ regular_emit.bind fun _ ↦ regular_emit).bind fun _ ↦ ?_
  refine (regular_call rfl).bind fun _ ↦ (regular_call rfl).bind fun _ ↦ ?_
  refine Calls.bind ?_ fun receipt ↦ ?_
  · refine (regular_call rfl).bind fun row ↦ (calls_ofExcept _).bind fun planDigest ↦ ?_
    refine (regular_call rfl).bind fun receiptId ↦ ?_
    exact (regular_call rfl).bind fun now ↦ calls_pure _
  refine (regular_call rfl).bind fun _ ↦ ?_
  exact regular_emit.bind fun _ ↦ regular_emit

theorem regular_executeNodes : Calls (·.regular) (executeNodes cfg a plan) := by
  refine (calls_ofExcept _).bind fun ingest ↦ regular_execNode.bind fun _ ↦ ?_
  refine (calls_ofExcept _).bind fun extract ↦ (regular_call rfl).bind fun contract ↦ ?_
  refine regular_execNode.bind fun _ ↦ (calls_ofExcept _).bind fun research ↦ ?_
  refine (regular_call rfl).bind fun extracted ↦ (calls_ofExcept _).bind fun query ↦ ?_
  refine regular_execNode.bind fun _ ↦ (calls_ofExcept _).bind fun merge ↦ ?_
  refine (regular_call rfl).bind fun facts ↦ (regular_call rfl).bind fun researched ↦ ?_
  exact regular_execNode

theorem regular_run : Calls (·.regular) (run cfg a) := by
  refine (calls_ofExcept _).bind fun _ ↦ (regular_call rfl).bind fun _ ↦ ?_
  refine (regular_of_unmarked unmarked_planTask).bind fun plan ↦ ?_
  refine (regular_call rfl).bind fun _ ↦ ?_
  refine Calls.bind (Calls.tryCatch ?_ fun e ↦ regular_of_unmarked unmarked_failTask)
    fun ending ↦ regular_of_unmarked unmarked_finishRun
  refine regular_executeNodes.bind fun _ ↦ ?_
  refine Calls.bind ?_ fun decision ↦ ?_
  · refine (regular_call rfl).bind fun merged ↦ ?_
    refine (regular_of_unmarked unmarked_approvalHandler).bind fun decision ↦ ?_
    exact (regular_call rfl).bind fun _ ↦ regular_emit.bind fun _ ↦ calls_pure _
  split
  · refine (calls_ofExcept _).bind fun sink ↦ (regular_call rfl).bind fun merged ↦ ?_
    refine regular_execNode.bind fun _ ↦ (regular_call rfl).bind fun _ ↦ ?_
    refine (regular_call rfl).bind fun results ↦ ?_
    exact regular_emit.bind fun _ ↦ calls_pure _
  · exact regular_of_unmarked unmarked_rejectTask

theorem execRun_regular (cfg : Config) (a : RunArgs) (env : Env a.taskRunId) (w : World) :
    ∀ s ∈ (execRun cfg a env w).trace, s.cmd.regular = true := by
  have hrun : Triple (fun t s ↦ Admitted cfg a.taskRunId t s ∧ True) (· = []) (run cfg a)
      (fun _ t ↦ ∀ s ∈ t, s.cmd.regular = true) fun _ t ↦ ∀ s ∈ t, s.cmd.regular = true := by
    refine (Triple.of_calls regular_run fun t s hs _ ht ↦ ?_).conseq (fun t ht ↦ ?_)
      (fun _ _ ht ↦ ht) fun _ _ ht ↦ ht
    · exact fun s' hs' ↦ (List.mem_append.mp hs').elim (ht s') fun h ↦ List.mem_singleton.mp h ▸ hs
    · subst ht
      exact fun _ hs ↦ nomatch hs
  exact of_ending (execRun_of_triple hrun fun _ _ _ _ ↦ trivial)

/-! ## The states of a node run -/

/-- The state an attempt's mark is written with. -/
def written? : Mark String String → Option NodeRunState
  | .start _ _ => some .running
  | .finish _ => some .succeeded
  | .fail _ => some .failed
  | _ => none

/-- The states that were written for a node run, in order. -/
def nodeStates (n : String) (t : RunTrace) : List NodeRunState :=
  ((t.filterMap nodeWrite?).filter fun p ↦ decide (p.1 = n)).map Prod.snd

theorem nodeState_eq (n : String) (t : RunTrace) : nodeState t n = (nodeStates n t).getLast? := rfl

theorem nodeStates_concat (n : String) :
    nodeStates n (t ++ [s]) = nodeStates n t ++
      (((nodeWrite? s).toList.filter fun p ↦ decide (p.1 = n)).map Prod.snd) := by
  rw [nodeStates, List.filterMap_append, List.filter_append, List.map_append]
  cases h : nodeWrite? s <;> simp [nodeStates, h]

/-- What one call writes into the row of a node run is what its mark says. -/
theorem nodeWrite?_eq (hs : s.cmd.regular = true) (n : String) :
    (((nodeWrite? s).toList.filter fun p ↦ decide (p.1 = n)).map Prod.snd) =
      (marksOf n (mark? s).toList).filterMap written? := by
  have hwrite (m : Mark String String) (k : String) (state : NodeRunState)
      (hk : m.attempt? = some k) (hm : written? m = some state) :
      ([(k, state)].filter fun p ↦ decide (p.1 = n)).map Prod.snd =
        (marksOf n [m]).filterMap written? := by
    by_cases hn : k = n
    · simp [marksOf, hk, hn, hm]
    · simp [marksOf, hk, hn]
  have hsilent (m : Mark String String) (hm : written? m = none) :
      ([] : List NodeRunState) = (marksOf n [m]).filterMap written? := by
    by_cases hk : m.attempt? = some n
    · simp [marksOf, hk, hm]
    · simp [marksOf, hk]
  obtain ⟨c, r⟩ := s
  cases c with
  | upsertNodeRun row =>
    cases r with
    | ok _ => exact hwrite (.start _ _) _ _ rfl (of_decide_eq_true hs ▸ rfl)
    | error e => rfl
  | updateNodeState id state output started ended =>
    cases r with
    | ok _ =>
      rcases of_decide_eq_true hs with rfl | rfl
      · exact hwrite (.finish id) _ _ rfl rfl
      · exact hwrite (.fail id) _ _ rfl rfl
    | error e => cases state <;> rfl
  | invoke request => exact hsilent (.handOver _) rfl
  | appendEvent ev =>
    cases r with
    | ok _ =>
      have hmark : (mark? ⟨.appendEvent ev, .ok ()⟩ = none) ∨
          ∃ nodeId, mark? ⟨.appendEvent ev, .ok ()⟩ = some (.pass nodeId) := by
        rw [mark?]
        split
        · cases textField (ev.payload.get? "node_id") with
          | none => exact Or.inl rfl
          | some nodeId => exact Or.inr ⟨nodeId, rfl⟩
        · exact Or.inl rfl
      rcases hmark with hnone | ⟨nodeId, hpass⟩
      · rw [hnone]
        rfl
      · rw [hpass]
        exact hsilent (.pass nodeId) rfl
    | error e => rfl
  | _ => rfl

/-- The states of a node run are those of its marks. -/
theorem nodeStates_eq (h : ∀ s ∈ t, s.cmd.regular = true) (n : String) :
    nodeStates n t = (marksOf n (marks t)).filterMap written? := by
  induction t using List.reverseRecOn with
  | nil => rfl
  | append_singleton t s ih =>
    rw [nodeStates_concat, marks_concat, marksOf_append, List.filterMap_append,
      ih fun s' hs' ↦ h s' (List.mem_append_left _ hs'),
      nodeWrite?_eq (h s (List.mem_append_right _ (List.mem_singleton_self s)))]

/-- The states of an attempt. -/
theorem filterMap_written {i n : String} {handed : Bool} {last : List (Mark String String)} :
    (attempt i n handed last).filterMap written? = .running :: last.filterMap written? := by
  cases handed <;> rfl

/-- **What is written for a node run.** The machine of the node runs lets every state through. -/
theorem transition_nodeStates (hregular : ∀ s ∈ t, s.cmd.regular = true)
    (hcourse : OnCourse executionOrder t) (n : String) :
    (nodeStates n t).foldlM NodeRunStateMachine.transition .pending =
      .ok ((nodeState t n).getD .pending) := by
  refine foldlM_guardTransition.mpr ⟨?_, by rw [nodeState_eq]⟩
  rw [nodeStates_eq hregular]
  rcases hcourse.marksOf_cases n with hnone | ⟨i, handed, last, hlast, hsome⟩
  · rw [hnone]
    exact List.isChain_singleton _
  · rw [hsome, filterMap_written]
    cases hlast <;> simp [written?, nodeTransitions]

/-- The adapter is invoked for a node run that is running, for the first time. -/
def FirstInvocation (pre : RunTrace) (s : RunStep) : Prop :=
  ∀ request, s.cmd = .invoke request →
    nodeState pre request.grant.nodeRunId = some .running ∧
      ∀ s' ∈ pre, ∀ request', s'.cmd = .invoke request' →
        request'.grant.nodeRunId ≠ request.grant.nodeRunId

/-- The marks before a hand-over. -/
theorem eq_of_handOver {i n k : String} {handed : Bool} {last pre post : List (Mark String String)}
    (hlast : Sequential.Ending n last) (heq : attempt i n handed last = pre ++ .handOver k :: post) :
    pre = [.start i n] := by
  have hnot (pre : List (Mark String String)) : last ≠ pre ++ .handOver k :: post := by
    intro h
    have hmem : .handOver k ∈ last := h ▸ List.mem_append_right _ List.mem_cons_self
    cases hlast <;> simp at hmem
  cases pre with
  | nil => cases heq
  | cons m pre =>
    obtain ⟨rfl, htail⟩ := List.cons.inj heq
    cases handed with
    | false => exact absurd htail (hnot pre)
    | true =>
      cases pre with
      | nil => rfl
      | cons m' pre => exact absurd (List.cons.inj htail).2 (hnot pre)

theorem firstInvocation_of_course {t : RunTrace} (hregular : ∀ s ∈ t, s.cmd.regular = true)
    (hcourse : OnCourse executionOrder t) : EveryStep FirstInvocation t := by
  rintro pre s post heq request hs
  set n := request.grant.nodeRunId with hn
  have hmark : mark? s = some (.handOver n) := by
    obtain ⟨c, r⟩ := s
    obtain rfl : c = _ := hs
    rfl
  -- of the marks of the node run, the start is the one before
  have hpre : ∃ i, marksOf n (marks pre) = [.start i n] := by
    have hmarks : marks t = marks pre ++ [.handOver n] ++ marks post := by
      rw [heq, marks, List.filterMap_append, List.filterMap_cons, hmark]
      simp [marks]
    have hself : marksOf n [(.handOver n : Mark String String)] = [.handOver n] := by
      simp [marksOf, Mark.attempt?]
    rcases hcourse.marksOf_cases n with hnone | ⟨i, handed, last, hlast, hsome⟩
    · rw [hmarks, marksOf_append, marksOf_append, hself] at hnone
      simp at hnone
    · rw [hmarks, marksOf_append, marksOf_append, hself, List.append_assoc] at hsome
      exact ⟨i, eq_of_handOver hlast hsome.symm⟩
  obtain ⟨i, hpre⟩ := hpre
  have hregularPre : ∀ s ∈ pre, s.cmd.regular = true := fun s hs ↦
    hregular s (by rw [heq]; exact List.mem_append_left _ hs)
  refine ⟨?_, fun s' hs' request' hc' hsame ↦ ?_⟩
  · rw [nodeState_eq, nodeStates_eq hregularPre, hpre]
    rfl
  · have hmem : (.handOver n : Mark String String) ∈ marksOf n (marks pre) := by
      refine List.mem_filter.mpr ⟨List.mem_filterMap.mpr ⟨s', hs', ?_⟩, by simp [Mark.attempt?]⟩
      obtain ⟨c, r⟩ := s'
      obtain rfl : c = _ := hc'
      rw [← hsame]
      rfl
    rw [hpre] at hmem
    simp at hmem

/-- **The life of a node run.** In every run, whatever raises, the states written for a node run are
a path of its state machine, and its adapter is invoked at most once, while it is running. -/
theorem run_nodeLifecycle (cfg : Config) (a : RunArgs) (env : Env a.taskRunId) (w : World) :
    (∀ n, (nodeStates n (execRun cfg a env w).trace).foldlM NodeRunStateMachine.transition .pending =
      .ok ((nodeState (execRun cfg a env w).trace n).getD .pending)) ∧
    EveryStep FirstInvocation (execRun cfg a env w).trace :=
  ⟨transition_nodeStates (execRun_regular cfg a env w) (execRun_onCourse cfg a env w),
    firstInvocation_of_course (execRun_regular cfg a env w) (execRun_onCourse cfg a env w)⟩

/-! ## The edges of the template -/

/-- A node run at the node has succeeded. -/
def Succeeded (pre : RunTrace) (nodeId : String) : Prop :=
  ∃ row, (⟨.upsertNodeRun row, .ok ()⟩ : RunStep) ∈ pre ∧ row.nodeId = nodeId ∧
    nodeState pre row.nodeRunId = some .succeeded

/-- The approval of the node is in the log. -/
def Approved (pre : RunTrace) (nodeId : String) : Prop :=
  ∃ ev, (⟨.appendEvent ev, .ok ()⟩ : RunStep) ∈ pre ∧ ev.kind = .nodeApproved ∧
    textField (ev.payload.get? "node_id") = some nodeId

theorem mem_marks_start {i n : String} (h : .start i n ∈ marks t) :
    ∃ row, (⟨.upsertNodeRun row, .ok ()⟩ : RunStep) ∈ t ∧ row.nodeId = i ∧ row.nodeRunId = n := by
  obtain ⟨⟨c, r⟩, hs, hmark⟩ := List.mem_filterMap.mp h
  cases c with
  | upsertNodeRun row =>
    cases r with
    | ok _ =>
      obtain ⟨rfl, rfl⟩ := Mark.start.inj (Option.some.inj hmark)
      exact ⟨row, hs, rfl, rfl⟩
    | error e => cases hmark
  | updateNodeState id state output started ended => cases state <;> cases r <;> cases hmark
  | appendEvent ev =>
    cases r with
    | ok _ =>
      rw [mark?] at hmark
      split at hmark
      · obtain ⟨nodeId, -, heq⟩ := Option.map_eq_some_iff.mp hmark
        cases heq
      · cases hmark
    | error e => cases hmark
  | _ => cases hmark

theorem mem_marks_pass {i : String} (h : .pass i ∈ marks t) : Approved t i := by
  obtain ⟨⟨c, r⟩, hs, hmark⟩ := List.mem_filterMap.mp h
  cases c with
  | upsertNodeRun row => cases r <;> cases hmark
  | updateNodeState id state output started ended => cases state <;> cases r <;> cases hmark
  | appendEvent ev =>
    cases r with
    | ok _ =>
      rw [mark?] at hmark
      split at hmark
      · next hkind =>
        obtain ⟨nodeId, hnode, heq⟩ := Option.map_eq_some_iff.mp hmark
        obtain rfl := Mark.pass.inj heq
        exact ⟨ev, hs, hkind, hnode⟩
      · cases hmark
    | error e => cases hmark
  | _ => cases hmark

/-- The node was approved, if it asks for an approval, and has succeeded otherwise. -/
def Settled (pre : RunTrace) (nodeId : String) : Prop :=
  if IsGate nodeId then Approved pre nodeId else Succeeded pre nodeId

theorem settled_of_completed (hregular : ∀ s ∈ t, s.cmd.regular = true) {i : String}
    (h : Completed IsGate i (marks t)) : Settled t i := by
  rcases h with ⟨hgate, hpass⟩ | ⟨hgate, n, handed, hmarks⟩
  · rw [Settled, if_pos hgate]
    exact mem_marks_pass hpass
  · rw [Settled, if_neg hgate]
    have hstart : .start i n ∈ marksOf n (marks t) := by
      rw [hmarks]
      exact List.mem_cons_self
    obtain ⟨row, hrow, hnode, hrun⟩ := mem_marks_start (List.mem_of_mem_filter hstart)
    refine ⟨row, hrow, hnode, ?_⟩
    rw [hrun, nodeState_eq, nodeStates_eq hregular, hmarks, filterMap_written]
    rfl

/-- The edges of the template. -/
def templateEdges : List (String × String) :=
  ContractReview.template.edges.map fun e ↦ (e.fromNode, e.toNode)

/-- The nodes of the template stand in an order of its graph. -/
theorem ordered_executionOrder : EdgeList.Ordered templateEdges executionOrder := by
  have hkahn : EdgeList.kahn executionOrder templateEdges = executionOrder := by decide
  have hordered := EdgeList.ordered_kahn (E := templateEdges) (by decide : executionOrder.Nodup)
    (by decide)
  rwa [hkahn] at hordered

/-- The node whose run a call starts. -/
def startedNode? (s : RunStep) : Option String :=
  match s with
  | ⟨.upsertNodeRun row, .ok _⟩ => some row.nodeId
  | _ => none

theorem startedNode?_eq {s : RunStep} {nodeId : String} (h : startedNode? s = some nodeId) :
    ∃ n, mark? s = some (.start nodeId n) := by
  obtain ⟨c, r⟩ := s
  cases c with
  | upsertNodeRun row =>
    cases r with
    | ok _ =>
      obtain rfl := Option.some.inj h
      exact ⟨row.nodeRunId, rfl⟩
    | error e => cases h
  | _ => cases h

/-- What comes before a node is started. -/
structure WellStarted (pre : RunTrace) (nodeId : String) : Prop where
  /-- The nodes its edges come from are settled. -/
  settled : ∀ e ∈ ContractReview.template.edges, e.toNode = nodeId → Settled pre e.fromNode
  /-- It has not been started. -/
  first : ∀ s ∈ pre, startedNode? s ≠ some nodeId

theorem begun_once {ms pre post : List (Mark String String)} {m m' : Mark String String}
    {i : String} (h : Course IsGate executionOrder ms) (heq : ms = pre ++ m :: post)
    (hm : m.item? = some i) (hm' : m' ∈ pre) : m'.item? ≠ some i := by
  intro hsame
  have hnodup : (ms.filterMap Mark.item?).Nodup := h.begun_prefix.sublist.nodup (by decide)
  rw [heq, List.filterMap_append, List.filterMap_cons_some hm] at hnodup
  exact (List.nodup_append.mp hnodup).2.2 i (List.mem_filterMap.mpr ⟨m', hm', hsame⟩) i
    List.mem_cons_self rfl

/-- **The edges of the template are respected.** In every run, whatever raises, a node is started
only once, and only after the nodes its edges come from have succeeded or have been approved. -/
theorem run_respectsEdges (cfg : Config) (a : RunArgs) (env : Env a.taskRunId) (w : World) :
    EveryStep (fun pre s ↦ ∀ nodeId, startedNode? s = some nodeId → WellStarted pre nodeId)
      (execRun cfg a env w).trace := by
  intro pre s post heq nodeId hstart
  obtain ⟨n, hmark⟩ := startedNode?_eq hstart
  have hcourse := execRun_onCourse cfg a env w
  have hmarks : marks (execRun cfg a env w).trace = marks pre ++ .start nodeId n :: marks post := by
    rw [heq, marks, List.filterMap_append, List.filterMap_cons_some hmark]
    rfl
  have hregular : ∀ s ∈ pre, s.cmd.regular = true := fun s hs ↦
    execRun_regular cfg a env w s (by rw [heq]; exact List.mem_append_left _ hs)
  refine ⟨fun e he hto ↦ ?_, fun s' hs' hstart' ↦ ?_⟩
  · have hadj : EdgeList.Adj templateEdges e.fromNode nodeId :=
      List.mem_map.mpr ⟨e, he, by rw [hto]⟩
    exact settled_of_completed hregular
      (hcourse.predecessors_completed ordered_executionOrder rfl hmarks hadj)
  · obtain ⟨n', hmark'⟩ := startedNode?_eq hstart'
    exact begun_once hcourse hmarks rfl (List.mem_filterMap.mpr ⟨s', hs', hmark'⟩) rfl

end Engine

end Orchestra
