import Orchestra.Coordinator.EngineCalls
import Orchestra.Foundation.Sequential

/-!
# The course of a run

A node run is started by the row that is written for it, handed over when its adapter is invoked,
and ended by the last state that is written into its row; the node of the approval is passed by the
event that logs it. In every run, whatever raises, the marks of these calls are those of a party
that works through the nodes of the template one by one.
-/

namespace Orchestra

namespace Engine

open Interaction Sequential

/-! ## What a call leaves of a node run -/

/-- The mark of a call: a row is written, an adapter is invoked, a last state is written, an
approval is logged. -/
def mark? : RunStep → Option (Mark String String)
  | ⟨.upsertNodeRun row, .ok _⟩ => some (.start row.nodeId row.nodeRunId)
  | ⟨.updateNodeState id .succeeded _ _ _, .ok _⟩ => some (.finish id)
  | ⟨.updateNodeState id .failed _ _ _, .ok _⟩ => some (.fail id)
  | ⟨.invoke request, _⟩ => some (.handOver request.grant.nodeRunId)
  | ⟨.appendEvent ev, .ok _⟩ =>
    if ev.kind = .nodeApproved then (textField (ev.payload.get? "node_id")).map .pass else none
  | _ => none

def marks (t : RunTrace) : List (Mark String String) := t.filterMap mark?

/-- The calls that may leave a mark. -/
def Cmd.marks : Cmd → Bool
  | .upsertNodeRun _ | .updateNodeState _ _ _ _ _ | .invoke _ => true
  | .appendEvent ev => decide (ev.kind = .nodeApproved)
  | _ => false

variable {cfg : Config} {a : RunArgs} {taskRunId : String} {t : RunTrace} {s : RunStep}
  {plan : ExecutionPlan} {P : List (Mark String String) → Prop}

theorem marks_concat : marks (t ++ [s]) = marks t ++ (mark? s).toList := by
  rw [marks, List.filterMap_append]
  cases h : mark? s <;> simp [marks, h]

theorem mark?_of_not_marks (h : s.cmd.marks = false) : mark? s = none := by
  obtain ⟨c, r⟩ := s
  cases c with
  | upsertNodeRun row => cases h
  | updateNodeState id state output started ended => cases h
  | invoke request => cases h
  | appendEvent ev =>
    cases r with
    | ok _ => exact if_neg (of_decide_eq_false h)
    | error e => rfl
  | _ => rfl

theorem marks_concat_of_none (h : mark? s = none) : marks (t ++ [s]) = marks t := by
  rw [marks_concat, h]
  exact List.append_nil _

/-- The attempts a trace has marks of are node runs whose identifiers have been issued. -/
theorem attempt_issued (h : EveryStep (Legit cfg taskRunId) t) :
    ∀ m ∈ marks t, ∀ n, m.attempt? = some n → n ∈ issuedIds t := by
  intro m hm n hn
  obtain ⟨⟨c, r⟩, hs, hmark⟩ := List.mem_filterMap.mp hm
  obtain ⟨pre, post, rfl⟩ := List.append_of_mem hs
  have hissued := (h pre _ post rfl).issued
  have hnode : c.nodeRun? = some n := by
    cases c with
    | upsertNodeRun row =>
      cases r with
      | ok _ =>
        obtain rfl := Option.some.inj hmark
        exact hn
      | error e => cases hmark
    | updateNodeState id state output started ended =>
      cases state with
      | succeeded =>
        cases r with
        | ok _ =>
          obtain rfl := Option.some.inj hmark
          exact hn
        | error e => cases hmark
      | failed =>
        cases r with
        | ok _ =>
          obtain rfl := Option.some.inj hmark
          exact hn
        | error e => cases hmark
      | _ => cases hmark
    | invoke request =>
      obtain rfl := Option.some.inj hmark
      exact hn
    | appendEvent ev =>
      cases r with
      | ok _ =>
        rw [mark?] at hmark
        split at hmark
        · obtain ⟨nodeId, -, rfl⟩ := Option.map_eq_some_iff.mp hmark
          cases hn
        · cases hmark
      | error e => cases hmark
    | _ => cases hmark
  rw [issuedIds, List.filterMap_append]
  exact List.mem_append_left _ (hissued _ hnode)

/-! ## Within a node -/

/-- The calls before were legitimate. -/
def Lawful (cfg : Config) (taskRunId : String) (pre : RunTrace) (s : RunStep) : Prop :=
  Admitted cfg taskRunId pre s ∧ EveryStep (Legit cfg taskRunId) pre

/-- A program without marks. -/
theorem marks_of_calls {α : Type} {p : Prog α} {A : RunTrace → RunStep → Prop}
    (h : Calls (fun c ↦ c.marks = false) p) :
    Triple A (fun t ↦ P (marks t)) p (fun _ t ↦ P (marks t)) fun _ t ↦ P (marks t) :=
  Triple.of_calls h fun _ _ hs _ ht ↦ by rwa [marks_concat_of_none (mark?_of_not_marks hs)]

theorem unmarked_call {c : Cmd} (hc : c.marks = false) :
    Calls (fun c ↦ c.marks = false) (call c) :=
  calls_perform.mpr hc

theorem unmarked_emit {nodeRunId : Option String} {kind : EventKind} {payload : Dict}
    (hkind : kind ≠ .nodeApproved) :
    Calls (fun c ↦ c.marks = false) (emit cfg taskRunId nodeRunId kind payload) := by
  refine calls_emit fun c hc ↦ ?_
  cases hc with
  | append eventId occurredAt => exact decide_eq_false hkind
  | _ => rfl

/-- The nodes that ask for an approval. -/
def IsGate (nodeId : String) : Prop :=
  ∃ spec ∈ ContractReview.template.nodes, spec.nodeId = nodeId ∧ spec.requiresApproval = true

instance (nodeId : String) : Decidable (IsGate nodeId) := inferInstanceAs (Decidable (∃ _ ∈ _, _))

/-- The marks are a course of the items. -/
abbrev OnCourse (is : List String) (t : RunTrace) : Prop := Course IsGate is (marks t)

/-- The items are completed. -/
abbrev AllDone (is : List String) (t : RunTrace) : Prop := Done IsGate is (marks t)

/-- The items are completed, and the node run is a new one. -/
def NextRun (is : List String) (n : String) (t : RunTrace) : Prop := AllDone is t ∧ Fresh n (marks t)

/-- The items are completed, and the node run at the next one is open. -/
def Open (is : List String) (i n : String) (handed : Bool) (t : RunTrace) : Prop :=
  ∃ ms, (Done IsGate is ms ∧ ¬IsGate i) ∧ Fresh n ms ∧ marks t = ms ++ attempt i n handed []

section Node

variable {is rest : List String} {i n : String} {handed : Bool}

theorem Open.onCourse (h : Open is i n handed t) : OnCourse (is ++ i :: rest) t := by
  obtain ⟨ms, hdone, hfresh, hmarks⟩ := h
  rw [OnCourse, hmarks]
  exact hdone.1.stopped i rest hdone.2 .open_ hfresh

theorem NextRun.start (h : NextRun is n t) {row : NodeRun} (hrow : row.nodeRunId = n)
    (hnode : row.nodeId = i) (hgate : ¬IsGate i) :
    Open is i n false (t ++ [⟨.upsertNodeRun row, .ok ()⟩]) := by
  refine ⟨marks t, ⟨h.1, hgate⟩, h.2, ?_⟩
  rw [marks_concat, ← hrow, ← hnode]
  rfl

theorem Open.invoke (h : Open is i n false t) {request : AdapterRequest}
    {r : Except Raised AdapterResult} (hn : request.grant.nodeRunId = n) :
    Open is i n true (t ++ [⟨.invoke request, r⟩]) := by
  obtain ⟨ms, hdone, hfresh, hmarks⟩ := h
  refine ⟨ms, hdone, hfresh, ?_⟩
  rw [marks_concat, hmarks, List.append_assoc, ← hn]
  rfl

theorem Open.concat_last (h : Open is i n handed t) (s : RunStep) {m : Mark String String}
    (hm : mark? s = some m) :
    ∃ ms, (Done IsGate is ms ∧ ¬IsGate i) ∧ Fresh n ms ∧ marks (t ++ [s]) = ms ++ attempt i n handed [m] := by
  obtain ⟨ms, hdone, hfresh, hmarks⟩ := h
  refine ⟨ms, hdone, hfresh, ?_⟩
  rw [marks_concat, hmarks, hm, List.append_assoc]
  cases handed <;> rfl

theorem Open.succeed (h : Open is i n handed t) {output : Option Json} {started ended : Bool} :
    AllDone (is ++ [i]) (t ++ [⟨.updateNodeState n .succeeded output started ended, .ok ()⟩]) := by
  obtain ⟨ms, hdone, hfresh, hmarks⟩ :=
    h.concat_last ⟨.updateNodeState n .succeeded output started ended, .ok ()⟩ rfl
  rw [AllDone, hmarks]
  exact hdone.1.concat i hdone.2 hfresh

theorem Open.fail (h : Open is i n handed t) {output : Option Json} {started ended : Bool} :
    OnCourse (is ++ i :: rest)
      (t ++ [⟨.updateNodeState n .failed output started ended, .ok ()⟩]) := by
  obtain ⟨ms, hdone, hfresh, hmarks⟩ :=
    h.concat_last ⟨.updateNodeState n .failed output started ended, .ok ()⟩ rfl
  rw [OnCourse, hmarks]
  exact hdone.1.stopped i rest hdone.2 .failed hfresh

theorem Open.concat_none (h : Open is i n handed t) (hs : mark? s = none) :
    Open is i n handed (t ++ [s]) := by
  rw [Open, marks_concat_of_none hs]
  exact h

theorem AllDone.onCourse (h : AllDone is t) : OnCourse (is ++ rest) t := h.idle rest

/-- A program without marks in an open node run. -/
theorem open_of_calls {α : Type} {p : Prog α} {A : RunTrace → RunStep → Prop}
    (h : Calls (fun c ↦ c.marks = false) p) :
    Triple A (Open is i n handed) p (fun _ ↦ Open is i n handed)
      fun _ ↦ OnCourse (is ++ i :: rest) :=
  (Triple.of_calls h fun _ _ hs _ ht ↦ ht.concat_none (mark?_of_not_marks hs)).post_error
    fun _ _ ht ↦ ht.onCourse

theorem newId_nextRun :
    Triple (Lawful cfg taskRunId) (AllDone is) (call .newId) (NextRun is)
      fun _ ↦ AllDone is := by
  refine Triple.perform (fun t n ht hA ↦ ?_) fun t e ht _ ↦ ?_
  · obtain ⟨id, hid, hfresh, -⟩ := hA.1.newId _ rfl
    obtain rfl := Except.ok.inj hid
    rw [NextRun, AllDone, marks_concat_of_none rfl]
    exact ⟨ht, fun m hm heq ↦ hfresh (attempt_issued hA.2 m hm n heq)⟩
  · rw [AllDone, marks_concat_of_none rfl]
    exact ht

theorem startNode_opens {node : PlanNode} {force : Option String} (hnode : node.nodeId = i)
    (hgate : ¬IsGate i) :
    Triple (Lawful cfg taskRunId) (AllDone is) (startNode cfg taskRunId node force)
      (fun ctx t ↦ ctx.node = node ∧ Open is i ctx.nodeRunId false t)
      fun _ ↦ OnCourse (is ++ i :: rest) := by
  refine (newId_nextRun.post_error fun _ _ ht ↦ ht.onCourse).bind fun n ↦ ?_
  refine Triple.bind (Q := fun _ ↦ NextRun is n) ?_ fun m ↦ ?_
  · exact Triple.ofExcept (fun _ _ _ ht ↦ ht) fun _ _ _ ht ↦ ht.1.onCourse
  refine Triple.bind (Q := fun _ ↦ Open is i n false) ?_ fun _ ↦ ?_
  · refine Triple.perform (fun t _ ht _ ↦ ht.start rfl hnode hgate) fun t e ht _ ↦ ?_
    rw [OnCourse, marks_concat_of_none rfl]
    exact ht.1.onCourse
  refine (open_of_calls (unmarked_emit EventKind.noConfusion)).bind fun _ ↦ ?_
  exact Triple.ret fun t ht ↦ ⟨rfl, ht⟩

/-- The last state of a node run that fails. -/
theorem failNode_stops {α : Type} {ctx : NodeContext} {payload : Dict} {e : Raised} :
    Triple (Lawful cfg taskRunId) (Open is i ctx.nodeRunId handed)
      (failNode (α := α) cfg taskRunId ctx payload e) (fun _ _ ↦ False)
      fun _ ↦ OnCourse (is ++ i :: rest) := by
  refine Triple.bind (Q := fun _ ↦ OnCourse (is ++ i :: rest)) ?_ fun _ ↦ ?_
  · exact Triple.perform (fun _ _ ht _ ↦ ht.fail) fun _ _ ht _ ↦ (ht.concat_none rfl).onCourse
  refine (marks_of_calls (unmarked_emit EventKind.noConfusion)).bind fun _ ↦ ?_
  exact Triple.raise fun t ht ↦ ht

/-- The last state of a node run that succeeds. -/
theorem writeLast_finishes {output : Option Json} :
    Triple (Lawful cfg taskRunId) (Open is i n handed)
      (call (.updateNodeState n .succeeded output true true))
      (fun _ ↦ AllDone (is ++ [i])) fun _ ↦ OnCourse (is ++ i :: rest) :=
  Triple.perform (fun _ _ ht _ ↦ ht.succeed) fun _ _ ht _ ↦ (ht.concat_none rfl).onCourse

/-- After its last state a node leaves no mark. -/
theorem done_of_calls {α : Type} {p : Prog α} {A : RunTrace → RunStep → Prop}
    (h : Calls (fun c ↦ c.marks = false) p) :
    Triple A (AllDone (is ++ [i])) p (fun _ ↦ AllDone (is ++ [i]))
      fun _ ↦ OnCourse (is ++ i :: rest) :=
  (marks_of_calls h).post_error fun _ t ht ↦ by
    simpa using (AllDone.onCourse ht : OnCourse (is ++ [i] ++ rest) t)

theorem execInProcess_finishes {ctx : NodeContext} {previous : Dict} :
    Triple (Lawful cfg taskRunId) (Open is i ctx.nodeRunId false)
      (execInProcess cfg taskRunId ctx previous) (fun _ ↦ AllDone (is ++ [i]))
      fun _ ↦ OnCourse (is ++ i :: rest) := by
  have houtput : Calls (fun c ↦ c.marks = false) (inProcessOutput ctx.node.nodeId previous) := by
    rw [inProcessOutput]
    split
    · exact (unmarked_call rfl).bind fun initial ↦ calls_pure _
    · exact unmarked_call rfl
  refine (open_of_calls houtput).bind fun output ↦ ?_
  refine writeLast_finishes.bind fun _ ↦ ?_
  exact done_of_calls ((unmarked_call rfl).bind fun _ ↦ (unmarked_emit EventKind.noConfusion))

theorem projectInputs_open {ctx : NodeContext} {viewName : String} {inputs : Dict} :
    Triple (Lawful cfg taskRunId) (Open is i ctx.nodeRunId false)
      (projectInputs cfg taskRunId ctx viewName inputs)
      (fun _ ↦ Open is i ctx.nodeRunId false) fun _ ↦ OnCourse (is ++ i :: rest) := by
  refine Triple.tryCatch (E := fun _ ↦ Open is i ctx.nodeRunId false) ?_ fun e ↦ ?_
  · exact Triple.perform (fun _ _ ht _ ↦ ht.concat_none rfl) fun _ _ ht _ ↦ ht.concat_none rfl
  · split
    · refine (open_of_calls (unmarked_emit EventKind.noConfusion)).bind fun _ ↦ ?_
      exact failNode_stops.post fun _ _ hfalse ↦ hfalse.elim
    · exact Triple.raise fun t ht ↦ ht.onCourse

theorem egress_open {ctx : NodeContext} {inputs : Dict} :
    Triple (Lawful cfg taskRunId) (Open is i ctx.nodeRunId false)
      (egress cfg taskRunId ctx inputs)
      (fun _ ↦ Open is i ctx.nodeRunId false) fun _ ↦ OnCourse (is ++ i :: rest) := by
  rw [egress]
  split
  · split
    · exact Triple.ret fun t ht ↦ ht
    · refine projectInputs_open.bind fun x ↦ ?_
      refine (open_of_calls (calls_ofExcept _)).bind fun result ↦ ?_
      exact Triple.ret fun t ht ↦ ht
  · exact Triple.ret fun t ht ↦ ht

theorem invokeAdapter_open {ctx : NodeContext} {request : AdapterRequest}
    (hgrant : request.grant.nodeRunId = ctx.nodeRunId) :
    Triple (Lawful cfg taskRunId) (Open is i ctx.nodeRunId false)
      (invokeAdapter cfg taskRunId ctx request)
      (fun _ ↦ Open is i ctx.nodeRunId true) fun _ ↦ OnCourse (is ++ i :: rest) := by
  refine Triple.tryCatch (E := fun _ ↦ Open is i ctx.nodeRunId true) ?_ fun e ↦ ?_
  · exact Triple.perform (fun _ _ ht _ ↦ ht.invoke hgrant) fun _ _ ht _ ↦ ht.invoke hgrant
  · exact failNode_stops.post fun _ _ hfalse ↦ hfalse.elim

theorem issueGrant_open {ctx : NodeContext} :
    Triple (Lawful cfg taskRunId) (Open is i ctx.nodeRunId false)
      (issueGrant cfg taskRunId ctx)
      (fun grant t ↦ grant.nodeRunId = ctx.nodeRunId ∧ Open is i ctx.nodeRunId false t)
      fun _ ↦ OnCourse (is ++ i :: rest) := by
  refine (open_of_calls (unmarked_call rfl)).bind fun grantId ↦ ?_
  refine (open_of_calls (unmarked_call rfl)).bind fun now ↦ ?_
  refine (open_of_calls (unmarked_call rfl)).bind fun _ ↦ ?_
  refine (open_of_calls (unmarked_emit EventKind.noConfusion)).bind fun _ ↦ ?_
  exact Triple.ret fun t ht ↦ ⟨rfl, ht⟩

theorem finishNode_finishes {ctx : NodeContext} {inputs : Dict} {result : AdapterResult}
    {startedAt endedAt : ℕ} {latency : ℤ} :
    Triple (Lawful cfg taskRunId) (Open is i ctx.nodeRunId handed)
      (finishNode cfg taskRunId ctx inputs result startedAt endedAt latency)
      (fun _ ↦ AllDone (is ++ [i])) fun _ ↦ OnCourse (is ++ i :: rest) := by
  refine writeLast_finishes.bind fun _ ↦ done_of_calls ?_
  refine (unmarked_call rfl).bind fun _ ↦ ?_
  refine Calls.bind ?_ fun receipt ↦ ?_
  · refine (unmarked_call rfl).bind fun row ↦ ?_
    refine (calls_ofExcept _).bind fun planDigest ↦ ?_
    refine (unmarked_call rfl).bind fun receiptId ↦ ?_
    exact (unmarked_call rfl).bind fun now ↦ calls_pure _
  refine (unmarked_call rfl).bind fun _ ↦ ?_
  exact (unmarked_emit EventKind.noConfusion).bind fun _ ↦ unmarked_emit EventKind.noConfusion

/-- **The execution of a node.** -/
theorem execNode_finishes {node : PlanNode} {previous : Dict} {force : Option String}
    {approval : Option Dict} (hnode : node.nodeId = i) (hgate : ¬IsGate i) :
    Triple (Lawful cfg taskRunId) (AllDone is)
      (execNode cfg taskRunId node previous force approval) (fun _ ↦ AllDone (is ++ [i]))
      fun _ ↦ OnCourse (is ++ i :: rest) := by
  refine (startNode_opens hnode hgate).bind fun ctx ↦ Triple.of_pure fun hctx ↦ ?_
  split
  · exact execInProcess_finishes
  refine issueGrant_open.bind fun grant ↦ Triple.of_pure fun hgrant ↦ ?_
  refine (open_of_calls (unmarked_call rfl)).bind fun _ ↦ ?_
  refine (open_of_calls (unmarked_call rfl)).bind fun startedAt ↦ ?_
  refine egress_open.bind fun e ↦ ?_
  refine (open_of_calls (unmarked_call rfl)).bind fun t0 ↦ ?_
  refine (invokeAdapter_open hgrant).bind fun result ↦ ?_
  refine (open_of_calls (unmarked_call rfl)).bind fun t1 ↦ ?_
  refine (open_of_calls (unmarked_call rfl)).bind fun endedAt ↦ ?_
  refine (open_of_calls ((unmarked_emit EventKind.noConfusion).bind fun _ ↦ (unmarked_emit EventKind.noConfusion).bind fun _ ↦
    (unmarked_emit EventKind.noConfusion))).bind fun _ ↦ ?_
  exact finishNode_finishes

end Node

/-! ## The parts of a run that leave no mark -/

theorem unmarked_closeBus : Calls (fun c ↦ c.marks = false) (closeBus cfg taskRunId) := by
  rw [closeBus]
  split
  · exact unmarked_call rfl
  · exact calls_pure ()

theorem unmarked_approvalHandler {nodeId : String} {request : Dict} :
    Calls (fun c ↦ c.marks = false) (approvalHandler cfg taskRunId nodeId request) := by
  rw [approvalHandler]
  split
  · exact unmarked_call rfl
  refine (unmarked_call rfl).bind fun now ↦ ?_
  refine Calls.bind ?_ fun approvalId ↦ ?_
  · rw [createApprovalRow]
    split
    · split
      · exact calls_pure _
      · refine Calls.tryCatch ?_ fun _ ↦ calls_pure _
        exact (unmarked_call rfl).bind fun approvalId ↦ calls_pure _
    · exact calls_pure _
  refine (unmarked_call rfl).bind fun _ ↦ ?_
  refine Calls.bind ?_ fun _ ↦ ?_
  · cases approvalId with
    | some id => exact calls_pure _
    | none => exact (unmarked_call rfl).bind fun newId ↦ unmarked_call rfl
  exact (unmarked_emit EventKind.noConfusion).bind fun _ ↦ unmarked_call rfl

theorem unmarked_rejectTask : Calls (fun c ↦ c.marks = false) (rejectTask cfg a) := by
  refine (unmarked_call rfl).bind fun _ ↦ (unmarked_emit EventKind.noConfusion).bind fun _ ↦ ?_
  exact unmarked_closeBus.bind fun _ ↦ calls_pure _

theorem unmarked_failTask {e : Raised} : Calls (fun c ↦ c.marks = false) (failTask cfg a e) := by
  refine (unmarked_call rfl).bind fun _ ↦ (unmarked_emit EventKind.noConfusion).bind fun _ ↦ ?_
  exact unmarked_closeBus.bind fun _ ↦ calls_pure _

theorem unmarked_verifyRows (rows : List Receipt) :
    Calls (fun c ↦ c.marks = false) (verifyRows rows) := by
  induction rows with
  | nil => exact calls_pure _
  | cons row rows ih =>
    exact (unmarked_call rfl).bind fun verified ↦ ih.bind fun rest ↦ calls_pure _

theorem unmarked_finishRun {ending : Ending} :
    Calls (fun c ↦ c.marks = false) (finishRun cfg a plan ending) := by
  cases ending with
  | completed =>
    refine ((unmarked_call rfl).bind unmarked_verifyRows).bind fun verified ↦ ?_
    exact unmarked_closeBus.bind fun _ ↦ (unmarked_call rfl).bind fun results ↦ calls_pure _
  | rejected => exact (unmarked_call rfl).bind fun results ↦ calls_pure _
  | failed error => exact (unmarked_call rfl).bind fun results ↦ calls_pure _

theorem unmarked_planTask : Calls (fun c ↦ c.marks = false) (planTask cfg a) := by
  have hemit {kind : EventKind} {payload : Dict} (hkind : kind ≠ .nodeApproved) :
      Calls (fun c ↦ c.marks = false) (emit cfg a.taskRunId none kind payload) :=
    unmarked_emit hkind
  refine (unmarked_call rfl).bind fun _ ↦ (hemit EventKind.noConfusion).bind fun _ ↦ ?_
  refine Calls.bind ?_ fun plan ↦ ?_
  · refine (calls_planNodes _ _ fun _ _ ↦ rfl).bind fun r ↦ ?_
    refine (unmarked_call rfl).bind fun planId ↦ (unmarked_call rfl).bind fun now ↦ ?_
    exact (unmarked_call rfl).bind fun signature ↦ calls_pure _
  refine (unmarked_call rfl).bind fun _ ↦ (hemit EventKind.noConfusion).bind fun _ ↦ ?_
  exact (hemit EventKind.noConfusion).bind fun _ ↦ calls_pure _

/-! ## The run -/

/-- The order in which the nodes of the template are executed and approved. -/
def executionOrder : List String := ContractReview.template.nodes.map NodeSpec.nodeId

/-- The first `k` nodes. -/
def upTo (k : ℕ) : List String := executionOrder.take k

theorem executionOrder_eq (k : ℕ) : executionOrder = upTo k ++ executionOrder.drop k :=
  (List.take_append_drop k _).symm

section Between

variable {k : ℕ} {spec : NodeSpec}

theorem executionOrder_split (hspec : ContractReview.template.nodes[k]? = some spec) :
    executionOrder = upTo k ++ spec.nodeId :: executionOrder.drop (k + 1) ∧
      upTo (k + 1) = upTo k ++ [spec.nodeId] := by
  have hget : executionOrder[k]? = some spec.nodeId := by
    rw [executionOrder, List.getElem?_map, hspec]
    rfl
  obtain ⟨hlt, hnode⟩ := List.getElem?_eq_some_iff.mp hget
  constructor
  · rw [← hnode, ← List.drop_eq_getElem_cons hlt]
    exact executionOrder_eq k
  · rw [upTo, List.take_add_one, hget]
    rfl

theorem AllDone.upTo_onCourse (h : AllDone (upTo k) t) : OnCourse executionOrder t := by
  rw [executionOrder_eq k]
  exact h.onCourse

/-- A node that needs no approval is not a gate. -/
theorem not_isGate (hspec : ContractReview.template.nodes[k]? = some spec)
    (happroval : spec.requiresApproval = false) : ¬IsGate spec.nodeId := by
  have hall : ∀ spec ∈ ContractReview.template.nodes, spec.requiresApproval = false →
      ¬IsGate spec.nodeId := by decide
  exact hall spec (List.mem_of_getElem? hspec) happroval

/-- A node of the plan is executed. -/
theorem runsNode {node : PlanNode} {previous : Dict} {force : Option String}
    {approval : Option Dict} (hspec : ContractReview.template.nodes[k]? = some spec)
    (hnode : node.nodeId = spec.nodeId) (happroval : spec.requiresApproval = false) :
    Triple (Lawful cfg taskRunId) (AllDone (upTo k))
      (execNode cfg taskRunId node previous force approval) (fun _ ↦ AllDone (upTo (k + 1)))
      fun _ ↦ OnCourse executionOrder := by
  obtain ⟨horder, hnext⟩ := executionOrder_split hspec
  rw [horder, hnext]
  exact execNode_finishes hnode (not_isGate hspec happroval)

/-- Between two nodes. -/
theorem between_of_calls {α : Type} {p : Prog α} {A : RunTrace → RunStep → Prop}
    (h : Calls (fun c ↦ c.marks = false) p) :
    Triple A (AllDone (upTo k)) p (fun _ ↦ AllDone (upTo k)) fun _ ↦ OnCourse executionOrder :=
  (marks_of_calls h).post_error fun _ _ ht ↦ AllDone.upTo_onCourse ht

/-- Taking a node from the plan. -/
theorem planNode_between {A : RunTrace → RunStep → Prop} (hplan : WellPlanned cfg plan)
    (hspec : ContractReview.template.nodes[k]? = some spec)
    (happroval : spec.requiresApproval = false) {j : ℕ} :
    Triple A (AllDone (upTo j)) (.ofExcept (planNode plan k))
      (fun node t ↦ node.nodeId = spec.nodeId ∧ AllDone (upTo j) t)
      fun _ ↦ OnCourse executionOrder :=
  Triple.ofExcept (fun _ hnode _ ht ↦ ⟨(hplan.planNode hspec happroval hnode).2, ht⟩)
    fun _ _ _ ht ↦ ht.upTo_onCourse

/-- An approval passes the node that asks for it. -/
theorem decideTask_passes :
    Triple (Lawful cfg a.taskRunId) (AllDone (upTo 4)) (decideTask cfg a)
      (fun decision t ↦ if isApproved decision then AllDone (upTo 5) t else AllDone (upTo 4) t)
      fun _ ↦ OnCourse executionOrder := by
  have happroval : ContractReview.template.nodes[4]? = some ContractReview.humanApproval := rfl
  refine (between_of_calls (unmarked_call rfl)).bind fun merged ↦ ?_
  refine (between_of_calls unmarked_approvalHandler).bind fun decision ↦ ?_
  refine (between_of_calls (unmarked_call rfl)).bind fun _ ↦ ?_
  by_cases happroved : isApproved decision = true
  · rw [if_pos happroved]
    refine Triple.bind (Q := fun _ ↦ AllDone (upTo 5)) ?_ fun _ ↦
      Triple.ret fun t ht ↦ (if_pos happroved).mpr ht
    refine triple_emit (I := AllDone (upTo 4)) (fun t s hs _ ht ↦ ?_) (fun t eventId at_ ht ↦ ?_)
      (fun t eventId at_ e ht _ ↦ ?_) (fun t event r _ ht ↦ ?_)
      (fun _ ht ↦ ht.upTo_onCourse) fun _ ht ↦ ht.upTo_onCourse
    · have hnone : mark? s = none := by
        refine mark?_of_not_marks ?_
        rcases hs with hs | hs <;> rw [hs] <;> rfl
      rw [AllDone, marks_concat_of_none hnone]
      exact ht
    · rw [AllDone, marks_concat, (executionOrder_split happroval).2]
      exact ht.pass _ (by decide)
    · refine AllDone.upTo_onCourse (k := 4) ?_
      rw [AllDone, marks_concat_of_none rfl]
      exact ht
    · rw [AllDone, marks_concat_of_none rfl]
      exact ht
  · rw [if_neg happroved]
    exact (between_of_calls (unmarked_emit EventKind.noConfusion)).bind fun _ ↦
      Triple.ret fun t ht ↦ (if_neg happroved).mpr ht

end Between

theorem executeNodes_finishes (hplan : WellPlanned cfg plan) :
    Triple (Lawful cfg a.taskRunId) (AllDone (upTo 0)) (executeNodes cfg a plan)
      (fun _ ↦ AllDone (upTo 4)) fun _ ↦ OnCourse executionOrder := by
  have hingest : ContractReview.template.nodes[0]? = some ContractReview.ingestContract := rfl
  have hextract : ContractReview.template.nodes[1]? = some ContractReview.extractFactsLocal := rfl
  have hresearch : ContractReview.template.nodes[2]? = some ContractReview.publicResearch := rfl
  have hmerge : ContractReview.template.nodes[3]? = some ContractReview.merge := rfl
  refine (planNode_between hplan hingest rfl).bind fun ingest ↦ Triple.of_pure fun hnode ↦ ?_
  refine (runsNode hingest hnode rfl).bind fun _ ↦ ?_
  refine (planNode_between hplan hextract rfl).bind fun extract ↦ Triple.of_pure fun hnode ↦ ?_
  refine (between_of_calls (unmarked_call rfl)).bind fun contract ↦ ?_
  refine (runsNode hextract hnode rfl).bind fun _ ↦ ?_
  refine (planNode_between hplan hresearch rfl).bind fun research ↦ Triple.of_pure fun hnode ↦ ?_
  refine (between_of_calls (unmarked_call rfl)).bind fun extracted ↦ ?_
  refine (between_of_calls (calls_ofExcept _)).bind fun query ↦ ?_
  refine (runsNode hresearch hnode rfl).bind fun _ ↦ ?_
  refine (planNode_between hplan hmerge rfl).bind fun merge ↦ Triple.of_pure fun hnode ↦ ?_
  refine (between_of_calls (unmarked_call rfl)).bind fun facts ↦ ?_
  refine (between_of_calls (unmarked_call rfl)).bind fun researched ↦ ?_
  exact runsNode hmerge hnode rfl

theorem executePlan_finishes (hplan : WellPlanned cfg plan) :
    Triple (Lawful cfg a.taskRunId) (AllDone (upTo 0)) (executePlan cfg a plan)
      (fun _ ↦ OnCourse executionOrder) fun _ ↦ OnCourse executionOrder := by
  have hsink : ContractReview.template.nodes[5]? = some ContractReview.writeSink := rfl
  refine (executeNodes_finishes hplan).bind fun _ ↦ ?_
  refine decideTask_passes.bind fun decision ↦ ?_
  by_cases happroved : isApproved decision = true
  · simp only [happroved, if_true]
    refine (planNode_between hplan hsink rfl).bind fun sink ↦ Triple.of_pure fun hnode ↦ ?_
    refine (between_of_calls (unmarked_call rfl)).bind fun merged ↦ ?_
    refine (runsNode hsink hnode rfl).bind fun _ ↦ ?_
    refine (between_of_calls ?_).post fun _ t ht ↦ ht.upTo_onCourse
    refine (unmarked_call rfl).bind fun _ ↦ (unmarked_call rfl).bind fun results ↦ ?_
    exact (unmarked_emit EventKind.noConfusion).bind fun _ ↦ calls_pure _
  · simp only [happroved]
    exact (between_of_calls unmarked_rejectTask).post fun _ t ht ↦ ht.upTo_onCourse

/-- No call before has left a mark. -/
def Unmarked (t : RunTrace) : Prop := marks t = []

theorem unmarked_of_calls {α : Type} {p : Prog α} {A : RunTrace → RunStep → Prop}
    (h : Calls (fun c ↦ c.marks = false) p) :
    Triple A Unmarked p (fun _ ↦ Unmarked) fun _ ↦ Unmarked := marks_of_calls (P := (· = [])) h

theorem Unmarked.allDone (h : Unmarked t) : AllDone (upTo 0) t := by
  rw [AllDone, h]
  exact .nil

theorem Unmarked.onCourse (h : Unmarked t) : OnCourse executionOrder t :=
  h.allDone.upTo_onCourse

theorem planTask_unmarked :
    Triple (Lawful cfg a.taskRunId) (fun t ↦ Unplanned cfg a.taskRunId t ∧ Unmarked t)
      (planTask cfg a) (fun p t ↦ ∃ plan, (∃ signature,
        p = { plan with signature := some signature } ∧ WellPlanned cfg plan) ∧ AllDone (upTo 0) t)
      fun _ ↦ OnCourse executionOrder := by
  have hplan : Triple (Lawful cfg a.taskRunId) (Unplanned cfg a.taskRunId) (planTask cfg a) _ _ :=
    planTask_legit.restrict fun _ _ h ↦ h.1
  refine (hplan.and (unmarked_of_calls unmarked_planTask)).conseq (fun _ ht ↦ ht)
    (fun p t ht ↦ ?_) fun _ t ht ↦ ht.2.onCourse
  obtain ⟨⟨plan, hp, -⟩, hmarks⟩ := ht
  exact ⟨plan, hp, hmarks.allDone⟩

theorem run_onCourse :
    Triple (Lawful cfg a.taskRunId) (· = []) (run cfg a)
      (fun _ ↦ OnCourse executionOrder) fun _ ↦ OnCourse executionOrder := by
  have hstart (t : RunTrace) (ht : t = []) : Unplanned cfg a.taskRunId t ∧ Unmarked t := by
    subst ht
    refine ⟨⟨everyStep_nil _, rfl, fun ev hev ↦ ?_⟩, rfl⟩
    cases hev
  refine Triple.bind (Q := fun _ t ↦ Unplanned cfg a.taskRunId t ∧ Unmarked t) ?_ fun _ ↦ ?_
  · exact Triple.ofExcept (fun _ _ t ht ↦ hstart t ht) fun _ _ t ht ↦ (hstart t ht).2.onCourse
  refine Triple.bind (Q := fun _ t ↦ Unplanned cfg a.taskRunId t ∧ Unmarked t) ?_ fun _ ↦ ?_
  · have hcall : (Cmd.setInitialInputs a.initialInputs).plans :=
      plans_call rfl rfl rfl (by rintro ev ⟨⟩)
    exact ((unplanned_call hcall).and (unmarked_of_calls (unmarked_call rfl))).post_error
      fun _ t ht ↦ ht.2.onCourse
  refine planTask_unmarked.bind fun p ↦ Triple.of_exists fun plan ↦
    Triple.of_pure fun ⟨signature, hp, hwell⟩ ↦ ?_
  subst hp
  refine (between_of_calls (unmarked_call rfl)).bind fun _ ↦ ?_
  refine Triple.bind (Q := fun _ ↦ OnCourse executionOrder) ?_ fun ending ↦ ?_
  · exact (executePlan_finishes hwell).tryCatch fun e ↦ marks_of_calls unmarked_failTask
  · exact marks_of_calls unmarked_finishRun

/-- **Every run is a course of the template.** -/
theorem execRun_onCourse (cfg : Config) (a : RunArgs) (env : Env a.taskRunId) (w : World) :
    OnCourse executionOrder (execRun cfg a env w).trace :=
  of_ending (execRun_of_triple run_onCourse (execRun_legit cfg a env w).before)

end Engine

end Orchestra
