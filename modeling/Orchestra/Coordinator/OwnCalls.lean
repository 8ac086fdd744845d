import Orchestra.Coordinator.ConcurrentRuns
import Orchestra.Coordinator.EngineNoninterference

/-!
# The calls of a run are its own

Every call that a run makes names its own task, refers to rows by identifiers that the run has
received before, and reads the initial inputs of the coordinator only in the turn in which it has
set them. That is a property of the program, whatever its calls reply (`run_own`).

`KeepsOwn` is a triple with one assertion, and has a rule for each way of building a program. The
parts of a run follow in their order.
-/

namespace Orchestra

namespace Engine

open Interaction

/-! ## What a call refers to -/

/-- What a call replies that later calls refer to: an identifier, or the approval of a node. -/
inductive Token where
  | id (s : String)
  | approval (nodeId approvalId : String)

def received? : RunStep → Option Token
  | ⟨.newId, .ok id⟩ => some (.id id)
  | ⟨.createForNode _ nodeId _, .ok approvalId⟩ => some (.approval nodeId approvalId)
  | _ => none

/-- What the calls have replied that later ones may refer to. -/
def received (t : RunTrace) : List Token := t.filterMap received?

/-- The task a call names, or `own` when it names none. -/
def Cmd.taskOf (own : String) : Cmd → String
  | .upsertTaskRun id _ _ _ _ | .updateTaskState id _ | .getTaskRun id | .getReceipts id
  | .createForNode id _ _ | .publish id _ | .closeBus id | .registerApproval id _ _
  | .handleApproval id _ _ => id
  | .upsertNodeRun row => row.taskRunId
  | .appendEvent ev => ev.taskRunId.getD own
  | .saveReceipt receipt => receipt.taskRunId
  | .saveApproval row => row.taskRunId
  | _ => own

/-- The rows a call refers to. -/
def Cmd.uses : Cmd → List Token
  | .upsertNodeRun row => [.id row.nodeRunId]
  | .updateNodeState id _ _ _ _ => [.id id]
  | .appendEvent ev => .id ev.eventId :: (ev.nodeRunId.map .id).toList
  | .saveGrant grant => [.id grant.grantId]
  | .saveReceipt receipt => [.id receipt.receiptId, .id receipt.nodeRunId]
  | .saveApproval row => [.id row.approvalId]
  | .registerApproval _ nodeId bucket =>
    ((textField ((Json.obj bucket).get? "approval_id")).map (.approval nodeId)).toList
  | _ => []

def Cmd.setsInputs : Cmd → Bool
  | .setInitialInputs _ => true
  | _ => false

/-- The run has set the initial inputs of the coordinator, and has not been suspended since. -/
def holdsInputs (t : RunTrace) : Bool :=
  t.foldl (fun holds s ↦ s.cmd.setsInputs || (holds && !s.cmd.suspends)) false

/-- The call is about the own task and what the run has received, and finds its own inputs. The
service is called with the tenant of the coordinator. -/
structure Cmd.Own (cfg : Config) (taskRunId : String) (pre : RunTrace) (c : Cmd) : Prop where
  task : c.taskOf taskRunId = taskRunId
  uses : ∀ k ∈ c.uses, k ∈ received pre
  inputs : c = .getInitialInputs → holdsInputs pre = true
  tenant : ∀ id nodeId tenantId, c = .createForNode id nodeId tenantId →
    cfg.hasApprovalService = true ∧ cfg.tenantId = some tenantId ∧ tenantId ≠ ""

/-- All calls so far were the run's own. -/
def Owned (cfg : Config) (taskRunId : String) : RunTrace → Prop :=
  EveryStep fun pre s ↦ s.cmd.Own cfg taskRunId pre

variable {cfg : Config} {taskRunId : String} {holds : Bool} {ks : List Token} {t : RunTrace}
  {s : RunStep} {α β : Type}

theorem received_concat : received (t ++ [s]) = received t ++ (received? s).toList := by
  rw [received, List.filterMap_append]
  cases h : received? s <;> simp [received, h]

theorem mem_received_concat {k : Token} (h : k ∈ received t) : k ∈ received (t ++ [s]) := by
  rw [received_concat]
  exact List.mem_append_left _ h

theorem holdsInputs_concat :
    holdsInputs (t ++ [s]) = (s.cmd.setsInputs || (holdsInputs t && !s.cmd.suspends)) := by
  rw [holdsInputs, List.foldl_append]
  rfl

/-! ## Programs that make own calls -/

/-- All calls were the run's own, these were received, and it holds its inputs if `holds`. -/
structure Ready (cfg : Config) (taskRunId : String) (holds : Bool) (ks : List Token)
    (t : RunTrace) : Prop where
  own : Owned cfg taskRunId t
  received : ∀ k ∈ ks, k ∈ Engine.received t
  holds : holds = true → holdsInputs t = true

theorem Ready.mono {ks' : List Token} (h : Ready cfg taskRunId holds ks t) (hks : ks' ⊆ ks) :
    Ready cfg taskRunId holds ks' t :=
  ⟨h.own, fun k hk ↦ h.received k (hks hk), h.holds⟩

/-- After the run may have been suspended. -/
theorem Ready.relax (h : Ready cfg taskRunId true ks t) : Ready cfg taskRunId false ks t :=
  ⟨h.own, h.received, nofun⟩

/-- The program makes own calls, and keeps the inputs if `holds`. -/
def KeepsOwn (cfg : Config) (taskRunId : String) (holds : Bool) (ks : List Token)
    (p : Prog α) : Prop :=
  Triple AnyReply (Ready cfg taskRunId holds ks) p (fun _ ↦ Ready cfg taskRunId holds ks)
    fun _ ↦ Ready cfg taskRunId holds ks

theorem KeepsOwn.pure (a : α) : KeepsOwn cfg taskRunId holds ks (Pure.pure a : Prog α) :=
  Triple.ret fun _ ht ↦ ht

theorem KeepsOwn.raise (e : Raised) : KeepsOwn cfg taskRunId holds ks (.raise e : Prog α) :=
  Triple.raise fun _ ht ↦ ht

theorem KeepsOwn.ofExcept (r : Except Raised α) :
    KeepsOwn cfg taskRunId holds ks (.ofExcept r : Prog α) :=
  Triple.ofExcept (fun _ _ _ ht ↦ ht) fun _ _ _ ht ↦ ht

theorem KeepsOwn.bind {p : Prog α} {f : α → Prog β} (hp : KeepsOwn cfg taskRunId holds ks p)
    (hf : ∀ a, KeepsOwn cfg taskRunId holds ks (f a)) :
    KeepsOwn cfg taskRunId holds ks (p >>= f) :=
  Triple.bind hp hf

theorem KeepsOwn.tryCatch {p : Prog α} {h : Raised → Prog α}
    (hp : KeepsOwn cfg taskRunId holds ks p)
    (hh : ∀ e, KeepsOwn cfg taskRunId holds ks (h e)) :
    KeepsOwn cfg taskRunId holds ks (p.tryCatch h) :=
  Triple.tryCatch hp hh

/-- What has been received besides is not needed any more. -/
theorem KeepsOwn.forget {ks' : List Token} {p : Prog α}
    (h : KeepsOwn cfg taskRunId holds (ks' ++ ks) p) :
    Triple AnyReply (Ready cfg taskRunId holds (ks' ++ ks)) p
      (fun _ ↦ Ready cfg taskRunId holds ks) fun _ ↦ Ready cfg taskRunId holds ks :=
  Triple.conseq h (fun _ ht ↦ ht) (fun _ _ ht ↦ ht.mono (List.subset_append_right _ _))
    fun _ _ ht ↦ ht.mono (List.subset_append_right _ _)

/-- The program makes own calls; what it returns satisfies `φ`, and the token in it has been
received then. -/
def Receives (cfg : Config) (taskRunId : String) (holds : Bool) (ks : List Token)
    (φ : α → Prop) (g : α → Token) (p : Prog α) : Prop :=
  Triple AnyReply (Ready cfg taskRunId holds ks) p
    (fun a t ↦ φ a ∧ Ready cfg taskRunId holds (g a :: ks) t) fun _ ↦ Ready cfg taskRunId holds ks

section Receives

variable {φ : α → Prop} {g : α → Token}

theorem Receives.bind {p : Prog α} {f : α → Prog β} (hp : Receives cfg taskRunId holds ks φ g p)
    (hf : ∀ a, φ a → KeepsOwn cfg taskRunId holds (g a :: ks) (f a)) :
    KeepsOwn cfg taskRunId holds ks (p >>= f) := by
  refine Triple.bind hp fun a ↦ Triple.of_pure fun ha ↦ ?_
  have hkeeps : KeepsOwn cfg taskRunId holds ([g a] ++ ks) (f a) := hf a ha
  exact hkeeps.forget

theorem KeepsOwn.bind_receives {p : Prog β} {f : β → Prog α}
    (hp : KeepsOwn cfg taskRunId holds ks p)
    (hf : ∀ b, Receives cfg taskRunId holds ks φ g (f b)) :
    Receives cfg taskRunId holds ks φ g (p >>= f) :=
  Triple.bind hp hf

end Receives

/-- What follows a call that is the run's own. -/
theorem Ready.concat (h : Ready cfg taskRunId holds ks t) (hs : s.cmd.Own cfg taskRunId t)
    (hsuspends : holds = true → s.cmd.suspends = false) :
    Ready cfg taskRunId holds ks (t ++ [s]) where
  own := everyStep_concat.mpr ⟨h.own, hs⟩
  received k hk := mem_received_concat (h.received k hk)
  holds hholds := by
    rw [holdsInputs_concat, h.holds hholds, hsuspends hholds]
    exact Bool.or_true _

/-- The calls that refer to nothing, and that the other conditions are not about. -/
def Cmd.plainOwn : Cmd → Bool
  | .getInitialInputs | .createForNode _ _ _ | .upsertNodeRun _ | .updateNodeState _ _ _ _ _
  | .appendEvent _ | .saveGrant _ | .saveReceipt _ | .saveApproval _ | .registerApproval _ _ _ =>
    false
  | _ => true

theorem Cmd.own_of_plainOwn {c : Cmd} (hc : c.plainOwn = true)
    (htask : c.taskOf taskRunId = taskRunId) : c.Own cfg taskRunId t := by
  refine ⟨htask, fun k hk ↦ ?_, ?_, ?_⟩
  · cases c <;> cases hc <;> cases hk
  · rintro rfl
    cases hc
  · rintro id nodeId tenantId rfl
    cases hc

/-- A call that refers to what has been received. -/
theorem Cmd.own_of_uses {c : Cmd} (htask : c.taskOf taskRunId = taskRunId)
    (huses : ∀ k ∈ c.uses, k ∈ received t) (hread : c ≠ .getInitialInputs)
    (hcreate : ∀ id nodeId tenantId, c ≠ .createForNode id nodeId tenantId) :
    c.Own cfg taskRunId t :=
  ⟨htask, huses, fun hc ↦ absurd hc hread,
    fun id nodeId tenantId hc ↦ absurd hc (hcreate id nodeId tenantId)⟩

theorem KeepsOwn.of_own {c : Cmd} (hown : ∀ t, Ready cfg taskRunId holds ks t →
    c.Own cfg taskRunId t) (hsuspends : holds = true → c.suspends = false) :
    KeepsOwn cfg taskRunId holds ks (call c) :=
  Triple.perform (fun t _ ht _ ↦ ht.concat (hown t ht) hsuspends)
    fun t _ ht _ ↦ ht.concat (hown t ht) hsuspends

/-- A plain call. -/
theorem own_call {c : Cmd} (hc : c.plainOwn = true) (htask : c.taskOf taskRunId = taskRunId)
    (hsuspends : holds = true → c.suspends = false) : KeepsOwn cfg taskRunId holds ks (call c) :=
  .of_own (fun _ _ ↦ Cmd.own_of_plainOwn hc htask) hsuspends

/-- A plain call of a run that may have been suspended. -/
theorem own_call_late {c : Cmd} (hc : c.plainOwn = true)
    (htask : c.taskOf taskRunId = taskRunId) : KeepsOwn cfg taskRunId false ks (call c) :=
  own_call hc htask nofun

/-- A call that refers to something. -/
theorem own_use {c : Cmd} (htask : c.taskOf taskRunId = taskRunId) (huses : c.uses ⊆ ks)
    (hread : c ≠ .getInitialInputs)
    (hcreate : ∀ id nodeId tenantId, c ≠ .createForNode id nodeId tenantId)
    (hsuspends : c.suspends = false) : KeepsOwn cfg taskRunId holds ks (call c) :=
  .of_own (fun _ ht ↦ Cmd.own_of_uses htask (fun k hk ↦ ht.received k (huses hk)) hread hcreate)
    fun _ ↦ hsuspends

theorem receives_newId :
    Receives cfg taskRunId holds ks (fun _ ↦ True) .id (call .newId) := by
  have hown (t : RunTrace) : Cmd.Own cfg taskRunId t .newId := Cmd.own_of_plainOwn rfl rfl
  refine Triple.perform (fun t id ht _ ↦ ⟨trivial, ?_⟩)
    fun t _ ht _ ↦ ht.concat (hown t) fun _ ↦ rfl
  have hnext := ht.concat (s := ⟨.newId, .ok id⟩) (hown t) fun _ ↦ rfl
  refine ⟨hnext.own, List.forall_mem_cons.mpr ⟨?_, hnext.received⟩, hnext.holds⟩
  rw [received_concat]
  exact List.mem_append_right _ (List.mem_singleton_self _)

/-- A program that draws an identifier and returns something with it. -/
theorem Receives.of_newId {φ : α → Prop} {g : α → Token} {f : String → Prog α}
    (hf : ∀ id, Triple AnyReply (Ready cfg taskRunId holds (.id id :: ks)) (f id)
      (fun a t ↦ (φ a ∧ g a = .id id) ∧ Ready cfg taskRunId holds (.id id :: ks) t)
      fun _ ↦ Ready cfg taskRunId holds (.id id :: ks)) :
    Receives cfg taskRunId holds ks φ g (call .newId >>= f) := by
  refine Triple.bind receives_newId fun id ↦ Triple.of_pure fun _ ↦
    (hf id).conseq (fun _ ht ↦ ht) ?_ fun _ _ ht ↦ ht.mono (List.subset_cons_self _ _)
  rintro a t ⟨⟨ha, hg⟩, ht⟩
  rw [hg]
  exact ⟨ha, ht⟩

/-! ## Events and nodes -/

theorem own_publish (event : Json) :
    KeepsOwn cfg taskRunId holds ks (publish cfg taskRunId event) := by
  rw [publish]
  split
  · exact own_call rfl rfl fun _ ↦ rfl
  · exact .pure ()

theorem own_closeBus : KeepsOwn cfg taskRunId holds ks (closeBus cfg taskRunId) := by
  rw [closeBus]
  split
  · exact own_call rfl rfl fun _ ↦ rfl
  · exact .pure ()

theorem own_emit {nodeRunId : Option String} {kind : EventKind} {payload : Dict}
    (hnode : (nodeRunId.map Token.id).toList ⊆ ks) :
    KeepsOwn cfg taskRunId holds ks (emit cfg taskRunId nodeRunId kind payload) := by
  refine receives_newId.bind fun eventId _ ↦ ?_
  refine (own_call rfl rfl fun _ ↦ rfl).bind fun now ↦ ?_
  refine KeepsOwn.bind (own_use rfl ?_ nofun nofun rfl) fun _ ↦ own_publish _
  exact List.cons_subset_cons _ hnode

/-- The event of a node run that was received. -/
theorem own_emit_of_mem {n : String} {kind : EventKind} {payload : Dict} (hn : Token.id n ∈ ks) :
    KeepsOwn cfg taskRunId holds ks (emit cfg taskRunId (some n) kind payload) :=
  own_emit (by simpa using hn)

/-- An event of the task. -/
theorem own_emit_none {kind : EventKind} {payload : Dict} :
    KeepsOwn cfg taskRunId holds ks (emit cfg taskRunId none kind payload) :=
  own_emit (List.nil_subset _)

theorem own_updateNodeState {n : String} {state : NodeRunState} {output : Option Json}
    {started ended : Bool} (hn : Token.id n ∈ ks) :
    KeepsOwn cfg taskRunId holds ks (call (.updateNodeState n state output started ended)) :=
  own_use rfl (by simpa [Cmd.uses] using hn) nofun nofun rfl

/-- A node is started under an identifier that is received. -/
theorem receives_startNode {node : PlanNode} {force : Option String} :
    Receives cfg taskRunId holds ks (fun ctx ↦ ctx.node = node) (fun ctx ↦ .id ctx.nodeRunId)
      (startNode cfg taskRunId node force) := by
  refine Receives.of_newId fun nodeRunId ↦ ?_
  refine Triple.bind (KeepsOwn.ofExcept _) fun manifest ↦ ?_
  refine Triple.bind (own_use rfl (by simp [Cmd.uses]) nofun nofun rfl) fun _ ↦ ?_
  refine Triple.bind (own_emit_of_mem List.mem_cons_self) fun _ ↦ ?_
  exact Triple.ret fun t ht ↦ ⟨⟨rfl, rfl⟩, ht⟩

/-- A receipt is about the task and the node run, and its identifier is received. -/
theorem receives_buildReceipt {ctx : NodeContext} {inputs outputs : Dict} {startedAt endedAt : ℕ} :
    Receives cfg taskRunId holds ks
      (fun receipt ↦ receipt.taskRunId = taskRunId ∧ receipt.nodeRunId = ctx.nodeRunId)
      (fun receipt ↦ .id receipt.receiptId)
      (buildReceipt cfg taskRunId ctx inputs outputs startedAt endedAt) := by
  refine (own_call rfl rfl fun _ ↦ rfl).bind_receives fun row ↦ ?_
  refine (KeepsOwn.ofExcept _).bind_receives fun planDigest ↦ ?_
  refine Receives.of_newId fun receiptId ↦ ?_
  refine Triple.bind (own_call rfl rfl fun _ ↦ rfl) fun now ↦ ?_
  exact Triple.ret fun t ht ↦ ⟨⟨⟨rfl, rfl⟩, rfl⟩, ht⟩

section Node

variable {ctx : NodeContext} (hctx : Token.id ctx.nodeRunId ∈ ks)

include hctx

theorem own_failNode {payload : Dict} {e : Raised} :
    KeepsOwn cfg taskRunId holds ks (failNode (α := α) cfg taskRunId ctx payload e) :=
  (own_updateNodeState hctx).bind fun _ ↦ (own_emit_of_mem hctx).bind fun _ ↦ .raise e

/-- What follows the output of a node without adapter. -/
theorem own_recordOutput {nodeId : String} {output : Dict} :
    KeepsOwn cfg taskRunId holds ks (do
      call (.updateNodeState ctx.nodeRunId .succeeded (some (.obj output)) true true)
      call (.setResult nodeId output)
      emit cfg taskRunId (some ctx.nodeRunId) .nodeSucceeded
        [("node_id", .str nodeId), ("outputs_keys", keys output)]) := by
  refine (own_updateNodeState hctx).bind fun _ ↦ ?_
  exact (own_call rfl rfl fun _ ↦ rfl).bind fun _ ↦ own_emit_of_mem hctx

/-- `ingest_contract` reads the inputs, and finds those of the run. -/
theorem own_ingest {previous : Dict} (hingest : ctx.node.nodeId = "ingest_contract") :
    KeepsOwn cfg taskRunId true ks (execInProcess cfg taskRunId ctx previous) := by
  refine Triple.bind (Q := fun _ ↦ Ready cfg taskRunId true ks) ?_ fun _ ↦ own_recordOutput hctx
  rw [inProcessOutput, if_pos hingest]
  refine Triple.bind (KeepsOwn.of_own (fun t ht ↦ ?_) fun _ ↦ rfl) fun _ ↦ KeepsOwn.pure _
  refine ⟨rfl, ?_, fun _ ↦ ht.holds rfl, ?_⟩
  · rintro k ⟨⟩
  · rintro id nodeId tenantId ⟨⟩

/-- `merge` does not. -/
theorem own_merge {previous : Dict} (hmerge : ctx.node.nodeId ≠ "ingest_contract") :
    KeepsOwn cfg taskRunId holds ks (execInProcess cfg taskRunId ctx previous) := by
  refine Triple.bind (Q := fun _ ↦ Ready cfg taskRunId holds ks) ?_ fun _ ↦ own_recordOutput hctx
  rw [inProcessOutput, if_neg hmerge]
  exact own_call rfl rfl fun _ ↦ rfl

theorem own_issueGrant : KeepsOwn cfg taskRunId holds ks (issueGrant cfg taskRunId ctx) := by
  refine receives_newId.bind fun grantId _ ↦ ?_
  refine (own_call rfl rfl fun _ ↦ rfl).bind fun now ↦ ?_
  refine KeepsOwn.bind (own_use rfl ?_ nofun nofun rfl) fun _ ↦ ?_
  · exact List.cons_subset_cons _ (List.nil_subset _)
  exact (own_emit_of_mem (List.mem_cons_of_mem _ hctx)).bind fun _ ↦ .pure _

theorem own_egress {inputs : Dict} :
    KeepsOwn cfg taskRunId holds ks (egress cfg taskRunId ctx inputs) := by
  rw [egress]
  split
  · split
    · exact .pure _
    · refine Triple.bind ?_ fun projected ↦ (KeepsOwn.ofExcept _).bind fun result ↦ .pure _
      refine (own_call rfl rfl fun _ ↦ rfl).tryCatch fun e ↦ ?_
      split
      · exact (own_emit_of_mem hctx).bind fun _ ↦ own_failNode hctx
      · exact .raise e
  · exact .pure _

theorem own_recordIo {e : Egress} {outputs : Dict} {latency : ℤ} :
    KeepsOwn cfg taskRunId holds ks (recordIo cfg taskRunId ctx e outputs latency) :=
  (own_emit_of_mem hctx).bind fun _ ↦ (own_emit_of_mem hctx).bind fun _ ↦ own_emit_of_mem hctx

theorem own_finishNode {inputs : Dict} {result : AdapterResult} {startedAt endedAt : ℕ}
    {latency : ℤ} :
    KeepsOwn cfg taskRunId holds ks
      (finishNode cfg taskRunId ctx inputs result startedAt endedAt latency) := by
  refine (own_updateNodeState hctx).bind fun _ ↦ ?_
  refine (own_call rfl rfl fun _ ↦ rfl).bind fun _ ↦ ?_
  refine receives_buildReceipt.bind fun receipt hreceipt ↦ ?_
  have hctx' : Token.id ctx.nodeRunId ∈ Token.id receipt.receiptId :: ks :=
    List.mem_cons_of_mem _ hctx
  refine KeepsOwn.bind (own_use hreceipt.1 ?_ nofun nofun rfl) fun _ ↦ ?_
  · rw [Cmd.uses, hreceipt.2]
    exact List.cons_subset_cons _ (by simpa using hctx)
  exact (own_emit_of_mem hctx').bind fun _ ↦ own_emit_of_mem hctx'

/-- The call of the adapter suspends the run, so it does not hold the inputs afterwards. -/
theorem own_execAdapter {previous : Dict} {approval : Option Dict} :
    KeepsOwn cfg taskRunId false ks (execAdapter cfg taskRunId ctx previous approval) := by
  refine (own_issueGrant hctx).bind fun grant ↦ ?_
  refine (own_call_late rfl rfl).bind fun _ ↦ ?_
  refine (own_call_late rfl rfl).bind fun startedAt ↦ ?_
  refine (own_egress hctx).bind fun e ↦ ?_
  refine (own_call_late rfl rfl).bind fun t0 ↦ ?_
  refine ((own_call_late rfl rfl).tryCatch fun e ↦ own_failNode hctx).bind fun result ↦ ?_
  refine (own_call_late rfl rfl).bind fun t1 ↦ ?_
  refine (own_call_late rfl rfl).bind fun endedAt ↦ ?_
  exact (own_recordIo hctx).bind fun _ ↦ own_finishNode hctx

end Node

/-- The first node is executed in the turn in which the run has begun. -/
theorem own_execNode_ingest {node : PlanNode} {previous : Dict}
    (hnode : node.nodeId = "ingest_contract") :
    KeepsOwn cfg taskRunId true ks (execNode cfg taskRunId node previous none none) := by
  refine receives_startNode.bind fun ctx hctx ↦ ?_
  rw [if_pos (Or.inr hnode)]
  exact own_ingest List.mem_cons_self (hctx ▸ hnode)

theorem own_execNode {node : PlanNode} {previous : Dict} {force : Option String}
    {approval : Option Dict} (hnode : node.nodeId ≠ "ingest_contract") :
    KeepsOwn cfg taskRunId false ks (execNode cfg taskRunId node previous force approval) := by
  refine receives_startNode.bind fun ctx hctx ↦ ?_
  split
  · exact own_merge List.mem_cons_self (hctx ▸ hnode)
  · exact own_execAdapter List.mem_cons_self

/-! ## The approval -/

/-- The approval of the node is received when it is returned. -/
theorem own_createApprovalRow {nodeId : String} :
    Triple AnyReply (Ready cfg taskRunId holds ks) (createApprovalRow cfg taskRunId nodeId)
      (fun r ↦ Ready cfg taskRunId holds ((r.map (Token.approval nodeId)).toList ++ ks))
      fun _ ↦ Ready cfg taskRunId holds ks := by
  rw [createApprovalRow]
  split
  · next tenantId hservice htenant =>
    split
    · exact KeepsOwn.pure (none : Option String)
    · next hne =>
      have hown (t : RunTrace) :
          Cmd.Own cfg taskRunId t (.createForNode taskRunId nodeId tenantId) := by
        refine ⟨rfl, nofun, nofun, ?_⟩
        rintro _ _ _ ⟨⟩
        exact ⟨hservice, htenant, hne⟩
      refine Triple.tryCatch (E := fun _ ↦ Ready cfg taskRunId holds ks) ?_
        fun _ ↦ KeepsOwn.pure (none : Option String)
      refine Triple.bind (Q := fun approvalId ↦
        Ready cfg taskRunId holds (Token.approval nodeId approvalId :: ks)) ?_
        fun approvalId ↦ Triple.ret fun t ht ↦ ht
      refine Triple.perform (fun t approvalId ht _ ↦ ?_)
        fun t _ ht _ ↦ ht.concat (hown t) fun _ ↦ rfl
      have hnext := ht.concat (s := ⟨_, .ok approvalId⟩) (hown t) fun _ ↦ rfl
      refine ⟨hnext.own, List.forall_mem_cons.mpr ⟨?_, hnext.received⟩, hnext.holds⟩
      rw [received_concat]
      exact List.mem_append_right _ (List.mem_singleton_self _)
  · exact KeepsOwn.pure (none : Option String)

theorem approvalId_newBucket (nodeId : String) (now : ℕ) (request : Dict)
    (approvalId : Option String) :
    textField ((Json.obj (newBucket taskRunId nodeId now request approvalId)).get?
      "approval_id") = approvalId := by
  cases approvalId <;> rfl

theorem own_saveLegacyRow {nodeId : String} {requestedAt : ℕ} {approvalId : Option String} :
    KeepsOwn cfg taskRunId holds ks (saveLegacyRow taskRunId nodeId requestedAt approvalId) := by
  cases approvalId with
  | some id => exact .pure ()
  | none =>
    refine receives_newId.bind fun newId _ ↦ own_use rfl ?_ nofun nofun rfl
    exact List.cons_subset_cons _ (List.nil_subset _)

theorem own_approvalHandler {nodeId : String} {request : Dict} :
    KeepsOwn cfg taskRunId false ks (approvalHandler cfg taskRunId nodeId request) := by
  rw [approvalHandler]
  split
  · exact own_call_late rfl rfl
  refine (own_call_late rfl rfl).bind fun now ↦ ?_
  refine Triple.bind own_createApprovalRow fun approvalId ↦ ?_
  -- what follows keeps the approval that was received
  refine KeepsOwn.forget ?_
  refine KeepsOwn.bind (own_use rfl ?_ nofun nofun rfl) fun _ ↦ ?_
  · rw [Cmd.uses, approvalId_newBucket]
    exact List.subset_append_left _ _
  refine own_saveLegacyRow.bind fun _ ↦ ?_
  exact own_emit_none.bind fun _ ↦ own_call_late rfl rfl

theorem own_decideTask {a : RunArgs} :
    KeepsOwn cfg a.taskRunId false ks (decideTask cfg a) := by
  refine (own_call_late rfl rfl).bind fun merged ↦ ?_
  refine own_approvalHandler.bind fun decision ↦ ?_
  refine (own_call_late rfl rfl).bind fun _ ↦ ?_
  exact own_emit_none.bind fun _ ↦ .pure _

/-! ## The planning -/

/-- The plan has the nodes of the template. -/
def FollowsTemplate (plan : ExecutionPlan) : Prop :=
  plan.nodes.map PlanNode.nodeId = ContractReview.template.nodes.map NodeSpec.nodeId

theorem own_planNodes {label : SecurityLabel} (specs : List NodeSpec) (budget : ℚ) :
    Triple AnyReply (Ready cfg taskRunId holds ks) (planNodes cfg label specs budget)
      (fun r t ↦ r.2.map ContractReview.Binding.spec = specs ∧ Ready cfg taskRunId holds ks t)
      fun _ ↦ Ready cfg taskRunId holds ks := by
  induction specs generalizing budget with
  | nil => exact Triple.ret fun t ht ↦ ⟨rfl, ht⟩
  | cons spec specs ih =>
    rw [planNodes]
    split
    · refine (ih budget).bind fun rest ↦ Triple.of_pure fun hrest ↦ ?_
      exact Triple.ret fun t ht ↦ ⟨congrArg (spec :: ·) hrest, ht⟩
    · refine Triple.bind (own_call rfl rfl fun _ ↦ rfl) fun result ↦ ?_
      refine (ih _).bind fun rest ↦ Triple.of_pure fun hrest ↦ ?_
      exact Triple.ret fun t ht ↦ ⟨congrArg (spec :: ·) hrest, ht⟩

theorem own_planTask {a : RunArgs} :
    Triple AnyReply (Ready cfg a.taskRunId true ks) (planTask cfg a)
      (fun plan t ↦ FollowsTemplate plan ∧ Ready cfg a.taskRunId true ks t)
      fun _ ↦ Ready cfg a.taskRunId true ks := by
  refine Triple.bind (own_call rfl rfl fun _ ↦ rfl) fun _ ↦ ?_
  refine Triple.bind own_emit_none fun _ ↦ ?_
  refine Triple.bind (Q := fun plan t ↦ FollowsTemplate plan ∧
    Ready cfg a.taskRunId true ks t) ?_ fun plan ↦ Triple.of_pure fun hplan ↦ ?_
  · refine (own_planNodes _ _).bind fun r ↦ Triple.of_pure fun hr ↦ ?_
    obtain ⟨routing, bindings⟩ := r
    refine Triple.bind (receives_newId.post fun _ _ ht ↦ ht.2.mono (List.subset_cons_self _ _))
      fun planId ↦ ?_
    refine Triple.bind (own_call rfl rfl fun _ ↦ rfl) fun now ↦ ?_
    refine Triple.bind (own_call rfl rfl fun _ ↦ rfl) fun signature ↦ ?_
    refine Triple.ret fun t ht ↦ ⟨?_, ht⟩
    rw [FollowsTemplate, ← hr, List.map_map, ContractReview.buildContractReviewPlan, List.map_map]
    rfl
  refine Triple.bind (own_call rfl rfl fun _ ↦ rfl) fun _ ↦ ?_
  refine Triple.bind own_emit_none fun _ ↦ ?_
  exact Triple.bind own_emit_none fun _ ↦ Triple.ret fun t ht ↦ ⟨hplan, ht⟩

/-! ## Executing the plan -/

/-- A node of the plan has the name it has in the template. -/
theorem FollowsTemplate.planNode {plan : ExecutionPlan} (h : FollowsTemplate plan) {i : ℕ}
    {node : PlanNode} (hnode : planNode plan i = .ok node) :
    (ContractReview.template.nodes.map NodeSpec.nodeId)[i]? = some node.nodeId := by
  have hget : plan.nodes[i]? = some node := by
    rw [Engine.planNode] at hnode
    split at hnode
    · next hsome => rw [hsome, Except.ok.inj hnode]
    · cases hnode
  rw [← h, List.getElem?_map, hget]
  rfl

/-- Taking a node from the plan. -/
theorem own_planNode {plan : ExecutionPlan} (h : FollowsTemplate plan) (i : ℕ) :
    Triple AnyReply (Ready cfg taskRunId holds ks) (.ofExcept (planNode plan i))
      (fun node t ↦ (ContractReview.template.nodes.map NodeSpec.nodeId)[i]? = some node.nodeId ∧
        Ready cfg taskRunId holds ks t)
      fun _ ↦ Ready cfg taskRunId holds ks :=
  Triple.ofExcept (fun _ hnode _ ht ↦ ⟨h.planNode hnode, ht⟩) fun _ _ _ ht ↦ ht

/-- A later node is taken from the plan and executed. -/
theorem own_laterNode {plan : ExecutionPlan} (h : FollowsTemplate plan) {i : ℕ}
    (hi : (ContractReview.template.nodes.map NodeSpec.nodeId)[i]? ≠ some "ingest_contract")
    {f : PlanNode → Prog α}
    (hf : ∀ node : PlanNode, node.nodeId ≠ "ingest_contract" →
      KeepsOwn cfg taskRunId false ks (f node)) :
    KeepsOwn cfg taskRunId false ks (.ofExcept (planNode plan i) >>= f) := by
  refine Triple.bind (own_planNode h i) fun node ↦ Triple.of_pure fun hnode ↦ hf node fun heq ↦ ?_
  exact hi (hnode.trans (congrArg some heq))

theorem own_executeNodes {a : RunArgs} {plan : ExecutionPlan} (h : FollowsTemplate plan) :
    Triple AnyReply (Ready cfg a.taskRunId true ks) (executeNodes cfg a plan)
      (fun _ ↦ Ready cfg a.taskRunId false ks) fun _ ↦ Ready cfg a.taskRunId false ks := by
  refine Triple.bind ((own_planNode h 0).post_error fun _ _ ht ↦ ht.relax) fun ingest ↦
    Triple.of_pure fun hingest ↦ ?_
  refine Triple.bind ((own_execNode_ingest (Option.some.inj hingest).symm).conseq (fun _ ht ↦ ht)
    (fun _ _ ht ↦ ht.relax) fun _ _ ht ↦ ht.relax) fun _ ↦ ?_
  refine own_laterNode h (by decide) fun extract hextract ↦ ?_
  refine (own_call_late rfl rfl).bind fun contract ↦ ?_
  refine (own_execNode hextract).bind fun _ ↦ ?_
  refine own_laterNode h (by decide) fun research hresearch ↦ ?_
  refine (own_call_late rfl rfl).bind fun extracted ↦ ?_
  refine (KeepsOwn.ofExcept _).bind fun query ↦ ?_
  refine (own_execNode hresearch).bind fun _ ↦ ?_
  refine own_laterNode h (by decide) fun merge hmerge ↦ ?_
  refine (own_call_late rfl rfl).bind fun facts ↦ ?_
  refine (own_call_late rfl rfl).bind fun researched ↦ ?_
  exact own_execNode hmerge

theorem own_executePlan {a : RunArgs} {plan : ExecutionPlan} (h : FollowsTemplate plan) :
    Triple AnyReply (Ready cfg a.taskRunId true ks) (executePlan cfg a plan)
      (fun _ ↦ Ready cfg a.taskRunId false ks) fun _ ↦ Ready cfg a.taskRunId false ks := by
  refine Triple.bind (own_executeNodes h) fun _ ↦ ?_
  refine own_decideTask.bind fun decision ↦ ?_
  split
  · refine own_laterNode h (by decide) fun sink hsink ↦ ?_
    refine (own_call_late rfl rfl).bind fun merged ↦ ?_
    refine (own_execNode hsink).bind fun _ ↦ ?_
    refine (own_call_late rfl rfl).bind fun _ ↦ ?_
    refine (own_call_late rfl rfl).bind fun results ↦ ?_
    exact own_emit_none.bind fun _ ↦ .pure _
  · refine (own_call_late rfl rfl).bind fun _ ↦ ?_
    refine own_emit_none.bind fun _ ↦ ?_
    exact own_closeBus.bind fun _ ↦ .pure _

/-! ## The run -/

theorem own_failTask {a : RunArgs} {e : Raised} :
    KeepsOwn cfg a.taskRunId false ks (failTask cfg a e) := by
  refine (own_call_late rfl rfl).bind fun _ ↦ ?_
  refine own_emit_none.bind fun _ ↦ ?_
  exact own_closeBus.bind fun _ ↦ .pure _

theorem own_verifyRows (rows : List Receipt) :
    KeepsOwn cfg taskRunId false ks (verifyRows rows) := by
  induction rows with
  | nil => exact .pure _
  | cons row rows ih =>
    exact (own_call_late rfl rfl).bind fun verified ↦ ih.bind fun rest ↦ .pure _

theorem own_finishRun {a : RunArgs} {plan : ExecutionPlan} {ending : Ending} :
    KeepsOwn cfg a.taskRunId false ks (finishRun cfg a plan ending) := by
  cases ending with
  | completed =>
    refine ((own_call_late rfl rfl).bind own_verifyRows).bind fun verified ↦ ?_
    refine own_closeBus.bind fun _ ↦ ?_
    exact (own_call_late rfl rfl).bind fun results ↦ .pure _
  | rejected => exact (own_call_late rfl rfl).bind fun results ↦ .pure _
  | failed error => exact (own_call_late rfl rfl).bind fun results ↦ .pure _

/-- The coordinator is given the initial inputs. -/
theorem own_setInitialInputs {inputs : Dict} :
    Triple AnyReply (Ready cfg taskRunId false ks) (call (.setInitialInputs inputs))
      (fun _ ↦ Ready cfg taskRunId true ks) fun _ ↦ Ready cfg taskRunId false ks := by
  have hown (t : RunTrace) : Cmd.Own cfg taskRunId t (.setInitialInputs inputs) :=
    Cmd.own_of_plainOwn rfl rfl
  refine Triple.perform (fun t _ ht _ ↦ ?_) fun t _ ht _ ↦ ht.concat (hown t) nofun
  refine ⟨(ht.concat (hown t) nofun).own, (ht.concat (hown t) nofun).received, fun _ ↦ ?_⟩
  rw [holdsInputs_concat]
  rfl

/-- **All calls of a run are its own**, whatever they reply. -/
theorem run_own {a : RunArgs} :
    Triple AnyReply (· = []) (run cfg a) (fun _ ↦ Owned cfg a.taskRunId)
      fun _ ↦ Owned cfg a.taskRunId := by
  refine Triple.conseq (P := Ready cfg a.taskRunId false [])
    (Q := fun _ ↦ Ready cfg a.taskRunId false []) (E := fun _ ↦ Ready cfg a.taskRunId false [])
    ?_ ?_ (fun _ _ ht ↦ ht.own) fun _ _ ht ↦ ht.own
  · refine (KeepsOwn.ofExcept _).bind fun _ ↦ ?_
    refine Triple.bind own_setInitialInputs fun _ ↦ ?_
    refine Triple.bind (own_planTask.post_error fun _ _ ht ↦ ht.relax) fun plan ↦
      Triple.of_pure fun hplan ↦ ?_
    refine Triple.bind ((own_call rfl rfl fun _ ↦ rfl).post_error fun _ _ ht ↦ ht.relax) fun _ ↦ ?_
    refine Triple.bind ((own_executePlan hplan).tryCatch fun e ↦ own_failTask) fun ending ↦ ?_
    exact own_finishRun
  · rintro t rfl
    exact ⟨everyStep_nil _, nofun, nofun⟩

end Engine

end Orchestra
