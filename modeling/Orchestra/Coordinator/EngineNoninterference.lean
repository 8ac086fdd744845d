import Orchestra.Coordinator.EngineEgress

/-!
# Noninterference of a node

What is seen of a node from outside depends only on the inputs that its view allows
(`node_noninterference`): the inputs of the adapter, the events and the signed part of the receipt.
Two things are needed for that beside the projection. The node is one with an adapter, as `merge`
and `ingest_contract` work on the inputs themselves; and a decision that is handed on must name the
same decider, as the request of the adapter carries the name past the projection.

In each run the digest in the event `io.sent` is that of the inputs the adapter received
(`digestsInputs_execNode`).
-/

namespace Orchestra

namespace Engine

open Interaction

/-! ## The digest of the inputs -/

/-- Every `io.sent` event of the run has the digest of the inputs the adapter received. -/
def DigestsInputs (P : Primitives) (t : RunTrace) : Prop :=
  ∀ request ev, Cmd.invoke request ∈ t.map Step.cmd → Cmd.appendEvent ev ∈ t.map Step.cmd →
    ev.kind = .ioSent → ev.payload.get? "projected_digest" =
      some (.str (digestJson P (.obj request.inputs)))

/-- The call is neither one to an adapter nor an `io.sent` event. -/
def Cmd.Quiet (c : Cmd) : Prop :=
  (∀ request, c ≠ .invoke request) ∧ ∀ ev, c = .appendEvent ev → ev.kind ≠ .ioSent

/-- The call is of a kind that is always quiet. -/
def Cmd.silent : Cmd → Bool
  | .invoke _ | .appendEvent _ => false
  | _ => true

/-- The call gives the adapter these inputs, or records the sending of these inputs, or neither. -/
def Cmd.Tells (P : Primitives) (inputs : Dict) (c : Cmd) : Prop :=
  (∀ request, c = .invoke request → request.inputs = inputs) ∧
    ∀ ev, c = .appendEvent ev → ev.kind = .ioSent →
      ev.payload.get? "projected_digest" = some (.str (digestJson P (.obj inputs)))

/-- The calls of the trace are all about these inputs. -/
def About (P : Primitives) (inputs : Dict) (t : RunTrace) : Prop :=
  ∀ s ∈ t, s.cmd.Tells P inputs

/-- The node has not come to its adapter yet. -/
def BeforeAdapter (t : RunTrace) : Prop := ∀ s ∈ t, s.cmd.Quiet

section

variable {cfg : Config} {taskRunId : String} {ctx : NodeContext} {α : Type} {inputs : Dict}

theorem Cmd.Quiet.tells {c : Cmd} (h : c.Quiet) (P : Primitives) (inputs : Dict) :
    c.Tells P inputs :=
  ⟨fun request hc ↦ absurd hc (h.1 request), fun ev hc hkind ↦ absurd hkind (h.2 ev hc)⟩

theorem BeforeAdapter.about {t : RunTrace} (h : BeforeAdapter t) (P : Primitives)
    (inputs : Dict) : About P inputs t := fun s hs ↦ (h s hs).tells P inputs

/-- Any replies are admitted. -/
abbrev AnyReply (_ : RunTrace) (_ : RunStep) : Prop := True

theorem before_of_calls {p : Prog α} (h : Calls Cmd.Quiet p) :
    Triple AnyReply BeforeAdapter p (fun _ ↦ BeforeAdapter) fun _ ↦ BeforeAdapter := by
  refine Triple.of_calls h fun t s hs _ ht ↦ ?_
  simpa [BeforeAdapter, or_imp, forall_and] using ⟨ht, hs⟩

theorem about_of_calls {p : Prog α} (h : Calls (Cmd.Tells cfg.P inputs) p) :
    Triple AnyReply (About cfg.P inputs) p (fun _ ↦ About cfg.P inputs)
      fun _ ↦ About cfg.P inputs := by
  refine Triple.of_calls h fun t s hs _ ht ↦ ?_
  simpa [About, or_imp, forall_and] using ⟨ht, hs⟩

theorem calls_call {φ : Cmd → Prop} {c : Cmd} (h : φ c) : Calls φ (call c) := calls_perform.mpr h

theorem quiet_call {c : Cmd} (h : c.silent = true) : Calls Cmd.Quiet (call c) := by
  refine calls_call ⟨?_, ?_⟩
  · rintro request rfl
    cases h
  · rintro ev rfl
    cases h

theorem tells_of_quiet {p : Prog α} (h : Calls Cmd.Quiet p) :
    Calls (Cmd.Tells cfg.P inputs) p := h.mono fun _ hc ↦ hc.tells _ _

theorem quiet_publish (event : Json) : Calls Cmd.Quiet (publish cfg taskRunId event) := by
  rw [publish]
  split_ifs with hbus
  · exact quiet_call rfl
  · exact calls_pure ()

/-- Events other than `io.sent` are quiet. -/
theorem quiet_emit {nodeRunId : Option String} {kind : EventKind} {payload : Dict}
    (h : kind ≠ .ioSent) : Calls Cmd.Quiet (emit cfg taskRunId nodeRunId kind payload) := by
  refine (quiet_call rfl).bind fun id ↦ ?_
  refine (quiet_call rfl).bind fun now ↦ ?_
  refine (calls_call ⟨by simp, ?_⟩).bind fun _ ↦ quiet_publish _
  rintro ev ⟨⟩
  exact h

/-- The event `io.sent` tells what its payload says. -/
theorem tells_emit {nodeRunId : Option String} {kind : EventKind} {payload : Dict}
    (h : (Json.obj payload).get? "projected_digest" =
      some (.str (digestJson cfg.P (.obj inputs)))) :
    Calls (Cmd.Tells cfg.P inputs) (emit cfg taskRunId nodeRunId kind payload) := by
  refine (tells_of_quiet (quiet_call rfl)).bind fun id ↦ ?_
  refine (tells_of_quiet (quiet_call rfl)).bind fun now ↦ ?_
  refine (calls_call ⟨by simp, ?_⟩).bind fun _ ↦ tells_of_quiet (quiet_publish _)
  rintro ev ⟨⟩ _
  exact h

theorem quiet_failNode (payload : Dict) (e : Raised) :
    Calls Cmd.Quiet (failNode cfg taskRunId ctx payload e : Prog α) := by
  refine (quiet_call rfl).bind fun _ ↦ ?_
  exact (quiet_emit (by decide)).bind fun _ ↦ calls_raise e

theorem quiet_issueGrant : Calls Cmd.Quiet (issueGrant cfg taskRunId ctx) := by
  refine (quiet_call rfl).bind fun id ↦ ?_
  refine (quiet_call rfl).bind fun now ↦ ?_
  refine (quiet_call rfl).bind fun _ ↦ ?_
  exact (quiet_emit (by decide)).bind fun _ ↦ calls_pure _

theorem quiet_projectInputs (viewName : String) (p : Dict) :
    Calls Cmd.Quiet (projectInputs cfg taskRunId ctx viewName p) := by
  refine (quiet_call rfl).tryCatch fun e ↦ ?_
  split_ifs with hdenied
  · exact (quiet_emit (by decide)).bind fun _ ↦ quiet_failNode _ e
  · exact calls_raise e

theorem tells_invokeAdapter {request : AdapterRequest} (h : request.inputs = inputs) :
    Calls (Cmd.Tells cfg.P inputs) (invokeAdapter cfg taskRunId ctx request) := by
  refine (calls_call ⟨?_, by simp⟩).tryCatch fun e ↦ tells_of_quiet (quiet_failNode _ e)
  rintro request' ⟨⟩
  exact h

theorem tells_recordIo {e : Egress} {projection : Projection} (h : e.projection = some projection)
    (outputs : Dict) (latency : ℤ) :
    Calls (Cmd.Tells cfg.P e.inputs) (recordIo cfg taskRunId ctx e outputs latency) := by
  refine (tells_of_quiet (quiet_emit (by decide))).bind fun _ ↦ ?_
  refine (tells_emit ?_).bind fun _ ↦ tells_of_quiet (quiet_emit (by decide))
  rw [sentPayload, h]
  rfl

theorem quiet_finishNode (p : Dict) (result : AdapterResult) (startedAt endedAt : ℕ)
    (latency : ℤ) :
    Calls Cmd.Quiet (finishNode cfg taskRunId ctx p result startedAt endedAt latency) := by
  have hreceipt : Calls Cmd.Quiet
      (buildReceipt cfg taskRunId ctx p result.outputs startedAt endedAt) := by
    refine (quiet_call rfl).bind fun row ↦ ?_
    refine (calls_ofExcept _).bind fun planDigest ↦ ?_
    refine (quiet_call rfl).bind fun id ↦ ?_
    exact (quiet_call rfl).bind fun now ↦ calls_pure _
  refine (quiet_call rfl).bind fun _ ↦ ?_
  refine (quiet_call rfl).bind fun _ ↦ ?_
  refine hreceipt.bind fun receipt ↦ ?_
  refine (quiet_call rfl).bind fun _ ↦ ?_
  exact (quiet_emit (by decide)).bind fun _ ↦ quiet_emit (by decide)

/-- The projection is on record when there is one to make. -/
theorem egress_before {pep : EgressPEP} {viewName : String} (hpep : cfg.egressPep = some pep)
    (hview : ctx.manifest.egressViewName = some viewName) (hname : viewName ≠ "") (p : Dict) :
    Triple AnyReply BeforeAdapter (egress cfg taskRunId ctx p)
      (fun e t ↦ (∃ projection, e.projection = some projection) ∧ BeforeAdapter t)
      fun _ ↦ BeforeAdapter := by
  simp only [egress, hview, hpep, if_neg hname]
  refine (before_of_calls (quiet_projectInputs viewName p)).bind fun projected ↦ ?_
  refine (before_of_calls (calls_ofExcept _)).bind fun result ↦ ?_
  exact Triple.ret fun t ht ↦ ⟨⟨_, rfl⟩, ht⟩

/-- Whatever the calls of the node reply, all of them are about one dictionary of inputs. -/
theorem execAdapter_about {pep : EgressPEP} {viewName : String} (hpep : cfg.egressPep = some pep)
    (hview : ctx.manifest.egressViewName = some viewName) (hname : viewName ≠ "")
    (previous : Dict) (approval : Option Dict) :
    Triple AnyReply BeforeAdapter (execAdapter cfg taskRunId ctx previous approval)
      (fun _ t ↦ ∃ inputs, About cfg.P inputs t) fun _ t ↦ ∃ inputs, About cfg.P inputs t := by
  have hearly {β : Type} {p : Prog β} (hp : Calls Cmd.Quiet p) :
      Triple AnyReply BeforeAdapter p (fun _ ↦ BeforeAdapter)
        fun _ t ↦ ∃ inputs, About cfg.P inputs t :=
    (before_of_calls hp).post_error fun _ t ht ↦ ⟨[], ht.about _ _⟩
  refine (hearly quiet_issueGrant).bind fun grant ↦ ?_
  refine (hearly (quiet_call rfl)).bind fun _ ↦ ?_
  refine (hearly (quiet_call rfl)).bind fun startedAt ↦ ?_
  refine ((egress_before hpep hview hname _).post_error fun _ t ht ↦ ⟨[], ht.about _ _⟩).bind
    fun e ↦ Triple.of_pure ?_
  rintro ⟨projection, hprojection⟩
  refine Triple.conseq (P := About cfg.P e.inputs) ?_ (fun t ht ↦ ht.about _ _)
    (fun _ t ht ↦ ⟨e.inputs, ht⟩) fun _ t ht ↦ ⟨e.inputs, ht⟩
  refine about_of_calls ?_
  refine (tells_of_quiet (quiet_call rfl)).bind fun t0 ↦ ?_
  refine (tells_invokeAdapter rfl).bind fun result ↦ ?_
  refine (tells_of_quiet (quiet_call rfl)).bind fun t1 ↦ ?_
  refine (tells_of_quiet (quiet_call rfl)).bind fun endedAt ↦ ?_
  exact (tells_recordIo hprojection _ _).bind fun _ ↦ tells_of_quiet (quiet_finishNode _ _ _ _ _)

theorem startNode_before {node : PlanNode} {force : Option String} {manifest : CapabilityManifest}
    (hmanifest : cfg.router.store.get (chosenCapability force node) = .ok manifest) :
    Triple AnyReply (· = []) (startNode cfg taskRunId node force)
      (fun ctx t ↦ ctx.manifest = manifest ∧ BeforeAdapter t) fun _ ↦ BeforeAdapter := by
  rw [startNode, hmanifest]
  refine Triple.conseq (P := BeforeAdapter) ?_ (fun t ht ↦ by simp [BeforeAdapter, ht])
    (fun _ _ ht ↦ ht) fun _ _ ht ↦ ht
  refine (before_of_calls (quiet_call rfl)).bind fun n ↦ ?_
  refine Triple.bind (Q := fun m t ↦ m = manifest ∧ BeforeAdapter t)
    (Triple.ret fun t ht ↦ ⟨rfl, ht⟩) fun m ↦ Triple.of_pure ?_
  rintro rfl
  refine (before_of_calls (quiet_call rfl)).bind fun _ ↦ ?_
  refine (before_of_calls (quiet_emit (by decide))).bind fun _ ↦ ?_
  exact Triple.ret fun t ht ↦ ⟨rfl, ht⟩

theorem quiet_execInProcess (previous : Dict) :
    Calls Cmd.Quiet (execInProcess cfg taskRunId ctx previous) := by
  have houtput : Calls Cmd.Quiet (inProcessOutput ctx.node.nodeId previous) := by
    rw [inProcessOutput]
    split_ifs with hingest
    · exact (quiet_call rfl).bind fun initial ↦ calls_pure _
    · exact quiet_call rfl
  refine houtput.bind fun output ↦ ?_
  refine (quiet_call rfl).bind fun _ ↦ ?_
  refine (quiet_call rfl).bind fun _ ↦ ?_
  exact quiet_emit (by decide)

end

/-! ## Two executions -/

/-- The capability of the node declares a view, and the coordinator has an enforcement point. -/
structure ProjectsInputs (cfg : Config) (pep : EgressPEP) (node : PlanNode) (force : Option String)
    (viewName : String) : Prop where
  pep : cfg.egressPep = some pep
  declares : ∃ manifest, cfg.router.store.get (chosenCapability force node) = .ok manifest ∧
    manifest.egressViewName = some viewName
  named : viewName ≠ ""

section

variable {cfg : Config} {pep : EgressPEP} {taskRunId viewName : String} {node : PlanNode}
  {force : Option String}

theorem digestsInputs_of_about {inputs : Dict} {t : RunTrace} (h : About cfg.P inputs t) :
    DigestsInputs cfg.P t := by
  intro request ev hrequest hev hkind
  obtain ⟨s, hs, hcmd⟩ := List.mem_map.mp hrequest
  obtain ⟨s', hs', hcmd'⟩ := List.mem_map.mp hev
  rw [(h s hs).1 request hcmd]
  exact (h s' hs').2 ev hcmd' hkind

/-- **The digest on record** is that of the inputs the adapter received. -/
theorem digestsInputs_execNode (hview : ProjectsInputs cfg pep node force viewName)
    {previous : Dict} {approval : Option Dict} {t : RunTrace} {r : Except Raised Unit}
    (h : Runs (execNode cfg taskRunId node previous force approval) t r) :
    DigestsInputs cfg.P t := by
  obtain ⟨manifest, hmanifest, hdeclares⟩ := hview.declares
  have hquiet (t : RunTrace) (ht : BeforeAdapter t) : ∃ inputs, About cfg.P inputs t :=
    ⟨[], ht.about _ _⟩
  have htriple : Triple AnyReply (· = [])
      (execNode cfg taskRunId node previous force approval)
      (fun _ t ↦ ∃ inputs, About cfg.P inputs t) fun _ t ↦ ∃ inputs, About cfg.P inputs t := by
    refine ((startNode_before hmanifest).post_error fun _ ↦ hquiet).bind fun ctx ↦
      Triple.of_pure fun hctx ↦ ?_
    split_ifs with hnode
    · exact (before_of_calls (quiet_execInProcess previous)).conseq (fun _ ht ↦ ht)
        (fun _ ↦ hquiet) fun _ ↦ hquiet
    · exact execAdapter_about hview.pep (hctx ▸ hdeclares) hview.named previous approval
  obtain ⟨inputs, hinputs⟩ : ∃ inputs, About cfg.P inputs t := by
    have hend := h.of_sat (fun _ _ ↦ trivial) (htriple [] rfl)
    cases r with
    | ok a => exact hend
    | error e => exact hend
  exact digestsInputs_of_about hinputs

end

/-- Two executions of the node look the same from outside, when their inputs agree on what the view
allows and their surroundings answer alike; each records the digest of what it sent. -/
def SameFromOutside (cfg : Config) (pep : EgressPEP) (ι : String → String → Prop)
    (τ : ℕ → ℕ → Prop) (taskRunId : String) (node : PlanNode) (force : Option String)
    (viewName : String) (previous previous' : Dict) (approval approval' : Option Dict) : Prop :=
  Agree pep (chosenCapability force node) viewName (nodeInputs previous approval)
    (nodeInputs previous' approval') →
  ∀ t t' r r', Runs (execNode cfg taskRunId node previous force approval) t r →
    Runs (execNode cfg taskRunId node previous' force approval') t' r' →
    AnswersAlike (alike cfg pep ι τ) t t' →
    sights t = sights t' ∧ r = r' ∧ DigestsInputs cfg.P t ∧ DigestsInputs cfg.P t'

/-- **Noninterference of a node** with an adapter, for decisions with one decider. -/
theorem node_noninterference (cfg : Config) (pep : EgressPEP) (ι : String → String → Prop)
    (τ : ℕ → ℕ → Prop) (taskRunId : String) (node : PlanNode) (force : Option String)
    (viewName : String) (hview : ProjectsInputs cfg pep node force viewName)
    (hnode : node.nodeId ≠ "merge" ∧ node.nodeId ≠ "ingest_contract")
    (previous previous' : Dict) (approval approval' : Option Dict)
    (hmetadata : requestMetadata approval = requestMetadata approval') :
    SameFromOutside cfg pep ι τ taskRunId node force viewName previous previous' approval
      approval' := by
  intro hagree t t' r r' hruns hruns' halike
  obtain ⟨manifest, hmanifest, hdeclares⟩ := hview.declares
  obtain ⟨hcalls, hboth⟩ := (execNode_lock hview.pep hmanifest hdeclares hview.named
    (not_or.mpr hnode) hagree hmetadata).runs hruns hruns' halike
  exact ⟨sights_eq_of_forall₂ hcalls, eq_of_both hboth, digestsInputs_execNode hview hruns,
    digestsInputs_execNode hview hruns'⟩

/-! ### A node with a view -/

/-- Grants with the same identifiers and times are equal, so an adapter that is a function of its
request replies the same to both. -/
theorem eq_of_issuedAlike {cfg : Config} {g g' : NodeGrant} (h : IssuedAlike cfg Eq Eq g g') :
    g = g' := by
  obtain ⟨id, _, now, _, n, _, r, rfl, rfl, rfl, rfl, rfl⟩ := h
  rfl

def amountManifest : FieldManifest where
  manifestId := "fldman:2"
  name := "amounts"
  sourceView := "view:amounts"
  allowedFields := ["amount"]

/-- The one field manifest is that of the view. -/
def amountPep : EgressPEP := ⟨fun _ _ ↦ .ok (some amountManifest)⟩

/-- The one capability declares the view. -/
def amountConfig : Config where
  P := ⟨fun _ ↦ List.replicate 32 9, fun _ _ ↦ List.replicate 32 9, fun _ _ ↦ by decide⟩
  F := ⟨id, fun _ ↦ "1.0"⟩
  router :=
    ⟨⟨[{ capabilityId := "sink.amounts", name := "amounts", kind := .sink,
         endpoint := "http://127.0.0.1:8102", egressViewName := some "view:amounts" }],
      by decide⟩, ⟨[]⟩⟩
  adapters := ["sink.amounts"]
  grantIssuer := { key := [1] }
  receiptBuilder := { key := [2] }
  egressPep := some amountPep

def amountNode (nodeId : String) : PlanNode where
  nodeId := nodeId
  capabilityId := "sink.amounts"
  manifestId := "manifest:amounts"
  purpose := { code := "contract-review" }
  inputViews := []
  expectedOutputs := []
  timeoutMs := 1000

theorem projectsInputs_amountNode (nodeId : String) :
    ProjectsInputs amountConfig amountPep (amountNode nodeId) none "view:amounts" :=
  ⟨rfl, ⟨_, rfl, rfl⟩, by decide⟩

/-- Surroundings in which nothing but the adapter can fail. -/
def reply (adapter : AdapterRequest → Except Raised AdapterResult) :
    (c : Cmd) → Except Raised (Reply c)
  | .newId => .ok "id-1"
  | .utcNow => .ok 0
  | .monotonic => .ok 0
  | .upsertNodeRun _ | .updateNodeState _ _ _ _ _ | .appendEvent _ | .saveGrant _ | .saveReceipt _
  | .setResult _ _ | .lookupAdapter _ => .ok ()
  | .getTaskRun taskRunId =>
    .ok (some { taskRunId := taskRunId, contractId := "contract-1", templateId := "template-1",
                state := .running, createdAt := 0, updatedAt := 0 })
  | .project capabilityId viewName p => amountPep.project amountConfig.P capabilityId viewName p
  | .merge p => Merge.deterministicMerge amountConfig.F p
  | .invoke request => adapter request
  | _ => .error ⟨"RuntimeError", "not part of a node"⟩

theorem reply_alike (adapter : AdapterRequest → Except Raised AdapterResult) {c c' : Cmd}
    (h : Cmd.Like amountConfig Eq Eq c c') :
    RepliesAlike amountConfig amountPep Eq Eq c c' (reply adapter c) (reply adapter c') := by
  cases h with
  | same c =>
    cases c with
    | newId | utcNow => exact both_eq _
    | monotonic => exact .ok trivial
    | project _ _ _ | merge _ => exact ⟨rfl, rfl⟩
    | _ => exact HEq.rfl
  | upsertNodeRun _ _ | updateNodeState _ _ _ _ _ | appendEvent _ | saveGrant _ | saveReceipt _
  | publish _ => exact HEq.rfl
  | project _ _ _ _ | merge _ _ => exact ⟨rfl, rfl⟩
  | invoke request hg =>
    rw [eq_of_issuedAlike hg]
    exact HEq.rfl

/-- The run of a node of the sample. -/
def amountRun (adapter : AdapterRequest → Except Raised AdapterResult) (nodeId : String)
    (previous : Dict) (approval : Option Dict) : Outcome Cmd Reply Raised Unit Unit :=
  answered (reply adapter)
    (execNode amountConfig "task-1" (amountNode nodeId) previous none approval)

theorem answersAlike_amountRun (adapter : AdapterRequest → Except Raised AdapterResult)
    (nodeId : String) (previous previous' : Dict) (approval approval' : Option Dict) :
    AnswersAlike (alike amountConfig amountPep Eq Eq)
      (amountRun adapter nodeId previous approval).trace
      (amountRun adapter nodeId previous' approval').trace :=
  answersAlike_of_replies (fun _ _ h ↦ reply_alike adapter h) (reply_answered _ _)
    (reply_answered _ _)

/-- Inputs with the same keys and the same amount, if any. -/
theorem agree_amounts {p q : Dict} (hp : (p.map Prod.fst).Nodup) (hq : (q.map Prod.fst).Nodup)
    (hkeys : ∀ k, k ∈ p.map Prod.fst ↔ k ∈ q.map Prod.fst)
    (hamount : (Json.obj p).get? "amount" = (Json.obj q).get? "amount") (capabilityId : String) :
    Agree amountPep capabilityId "view:amounts" p q := by
  refine ⟨hp, hq, hkeys, fun m hm k hk ↦ ?_⟩
  obtain rfl : amountManifest = m := Option.some.inj (Except.ok.inj hm)
  obtain rfl := List.mem_singleton.mp hk
  rw [hamount]
  cases (Json.obj q).get? "amount" with
  | none => exact .none
  | some v => exact .some rfl

/-- Two executions with one amount. -/
theorem sights_amountRun :
    sights (amountRun (fun request ↦ .ok ⟨request.inputs, []⟩) "procurement"
        [("amount", .int 5), ("ssn", .str "1")] none).trace =
      sights (amountRun (fun request ↦ .ok ⟨request.inputs, []⟩) "procurement"
        [("ssn", .str "2"), ("amount", .int 5)] none).trace := by
  have hagree := agree_amounts (p := [("amount", .int 5), ("ssn", .str "1")])
    (q := [("ssn", .str "2"), ("amount", .int 5)]) (by decide) (by decide) (by simp [or_comm]) rfl
    (chosenCapability none (amountNode "procurement"))
  exact (node_noninterference amountConfig amountPep Eq Eq "task-1" (amountNode "procurement") none
    "view:amounts" (projectsInputs_amountNode _) ⟨by decide, by decide⟩ _ _ none none rfl hagree _ _
    _ _ (runs_answered _ _) (runs_answered _ _) (answersAlike_amountRun _ _ _ _ none none)).1

/-- An adapter that fails with the name of the decider. -/
def namesDecider (request : AdapterRequest) : Except Raised AdapterResult :=
  .error ⟨"ValueError", (((Json.obj request.metadata).get? "decided_by").getD .null).pyStr⟩

def approvedBy (decider : String) : Option Dict :=
  some [("decision", .str "approve"), ("decided_by", .str decider)]

section

set_option maxRecDepth 100000

theorem sights_deciders :
    sights (amountRun namesDecider "procurement" [] (approvedBy "ann")).trace ≠
      sights (amountRun namesDecider "procurement" [] (approvedBy "bob")).trace := by
  decide +kernel

/-- The merge of a research result that is a text raises. -/
theorem sights_merges :
    sights (amountRun namesDecider "merge" [("research", .obj [])] none).trace ≠
      sights (amountRun namesDecider "merge" [("research", .str "x")] none).trace := by
  decide +kernel

end

/-- Neither condition can be left out: an adapter learns of another decider, and the merge of other
inputs ends otherwise, though the view allows neither. -/
theorem node_interference :
    (¬∀ (cfg : Config) (pep : EgressPEP) (ι : String → String → Prop) (τ : ℕ → ℕ → Prop)
      (taskRunId : String) (node : PlanNode) (force : Option String) (viewName : String),
      ProjectsInputs cfg pep node force viewName →
      node.nodeId ≠ "merge" ∧ node.nodeId ≠ "ingest_contract" →
      ∀ previous previous' approval approval', SameFromOutside cfg pep ι τ taskRunId node force
        viewName previous previous' approval approval') ∧
    ¬∀ (cfg : Config) (pep : EgressPEP) (ι : String → String → Prop) (τ : ℕ → ℕ → Prop)
      (taskRunId : String) (node : PlanNode) (force : Option String) (viewName : String),
      ProjectsInputs cfg pep node force viewName →
      ∀ previous previous' approval approval',
        requestMetadata approval = requestMetadata approval' →
        SameFromOutside cfg pep ι τ taskRunId node force viewName previous previous' approval
          approval' := by
  constructor
  · intro hall
    have hagree := agree_amounts (p := nodeInputs [] (approvedBy "ann"))
      (q := nodeInputs [] (approvedBy "bob")) (by decide) (by decide) (fun _ ↦ Iff.rfl) rfl
      (chosenCapability none (amountNode "procurement"))
    have hsame := hall amountConfig amountPep Eq Eq "task-1" (amountNode "procurement") none
      "view:amounts" (projectsInputs_amountNode _) ⟨by decide, by decide⟩ [] []
      (approvedBy "ann") (approvedBy "bob") hagree _ _ _ _
      (runs_answered (reply namesDecider) _) (runs_answered (reply namesDecider) _)
      (answersAlike_amountRun _ _ _ _ _ _)
    exact sights_deciders hsame.1
  · intro hall
    have hagree := agree_amounts (p := [("research", .obj [])]) (q := [("research", .str "x")])
      (by decide) (by decide) (fun _ ↦ Iff.rfl) rfl (chosenCapability none (amountNode "merge"))
    have hsame := hall amountConfig amountPep Eq Eq "task-1" (amountNode "merge") none
      "view:amounts" (projectsInputs_amountNode _) [("research", .obj [])]
      [("research", .str "x")] none none rfl hagree _ _ _ _
      (runs_answered (reply namesDecider) _) (runs_answered (reply namesDecider) _)
      (answersAlike_amountRun _ _ _ _ none none)
    exact sights_merges hsame.1

end Engine

end Orchestra
