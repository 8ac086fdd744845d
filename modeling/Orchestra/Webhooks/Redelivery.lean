import Orchestra.Webhooks.Wiring
import Mathlib.Data.List.DropRight

/-!
# Making a failed delivery again

An operator can make the latest failed delivery of a task again, as often as wanted: the retry
takes the address, the secret and the payload from the record of the failed delivery. The lifecycle
manager removes records one by one, by the identifiers of their deliveries.

The history of a task is a window on the log of its deliveries (`retry_run`), and so a retry repeats
the latest delivery in that window which the partner has not accepted. However often that is done
and whatever is removed in between, every delivery goes where its task was told to deliver, with
what the run of the task returned, and there are no more of them than submissions and retries
(`deliveries_accounted`). A removed record does not come back (`deletion_final`).
-/

namespace Orchestra

namespace Webhooks

open Transition WebhookDispatcher DeliveryHistory

/-! ## What a record says of its delivery -/

/-- A delivery that has returned, as the history keeps it. -/
structure RecordedDelivery where
  config : WebhookConfig
  task : EndedTask
  deliveryId : String
  delivered : Bool
  attempts : ℕ
  lastStatus : ℕ
  error : String

/-- The delivery of a record. The retry reads an absent result as an empty one. -/
def WebhookDeliveryRecord.recorded (r : WebhookDeliveryRecord) : RecordedDelivery where
  config := ⟨r.webhookUrl, r.webhookSecret⟩
  task := ⟨r.taskRunId, r.state, r.planId, r.nodeResults.getD [], r.payloadError⟩
  deliveryId := r.deliveryId
  delivered := r.delivered
  attempts := r.attempts
  lastStatus := r.lastStatus
  error := r.error

/-- What is recorded of a call. A call that raises leaves no record. -/
def DeliverCall.recorded? (c : DeliverCall) : Option RecordedDelivery :=
  match c.result with
  | .ok d =>
    some ⟨c.config, c.task, c.deliveryId, d.delivered, d.attempts, d.lastStatus, d.error⟩
  | .error _ => none

namespace DeliveryHistory

variable {h : DeliveryHistory} {r : WebhookDeliveryRecord} {taskRunId : String}

/-- One more element, in a window on the last elements of a list. -/
theorem rtake_concat_drop {α : Type*} (l : List α) (a : α) (n : ℕ) :
    (l.rtake n ++ [a]).drop ((l.rtake n).length + 1 - n) = (l ++ [a]).rtake n := by
  cases n with
  | zero => simp
  | succ n =>
    have hagain : (l.rtake (n + 1)).rtake n = l.rtake n := by
      rw [List.rtake_eq_reverse_take_reverse, List.rtake_eq_reverse_take_reverse,
        List.rtake_eq_reverse_take_reverse, List.reverse_reverse, List.take_take,
        Nat.min_eq_left n.le_succ]
    have hwindow := List.rtake_concat_succ (l.rtake (n + 1)) n a
    rw [hagain, List.rtake, List.length_append, List.length_singleton] at hwindow
    rw [hwindow, List.rtake_concat_succ]

/-- A buffer that shows the last deliveries of a log shows those of the log with one more. -/
theorem map_push {buffer : List WebhookDeliveryRecord} {log : List RecordedDelivery}
    (hbuffer : buffer.map (·.recorded) = log.rtake h.maxPerTask) :
    (h.push buffer r).map (·.recorded) = (log ++ [r.recorded]).rtake h.maxPerTask := by
  have hlength : buffer.length = (log.rtake h.maxPerTask).length := by
    rw [← hbuffer, List.length_map]
  rw [push, List.map_drop, List.map_append, hbuffer, hlength]
  exact rtake_concat_drop log r.recorded h.maxPerTask

theorem map_lastFailed : (h.lastFailed taskRunId).map (·.recorded) =
    ((h.forTask taskRunId).map (·.recorded)).reverse.find? fun d ↦ !d.delivered := by
  rw [← List.map_reverse, List.find?_map]
  rfl

/-! ## Removal -/

/-- The `remove` of a record from the buffer of a task. -/
def remove (h : DeliveryHistory) (tid : String) (r : WebhookDeliveryRecord) : DeliveryHistory :=
  { h with byTask := Function.update h.byTask tid (some ((h.forTask tid).erase r)) }

/-- `_delete_webhook`, where `tasks` are the tasks of the history in their order. -/
def deleteWebhook (h : DeliveryHistory) (deliveryId : String) : List String → DeliveryHistory × Bool
  | [] => (h, false)
  | tid :: tasks =>
    match (h.forTask tid).find? fun r ↦ r.deliveryId = deliveryId with
    | some r => (h.remove tid r, true)
    | none => h.deleteWebhook deliveryId tasks

/-- `_webhook_exists`. -/
def webhookExists (h : DeliveryHistory) (deliveryId : String) (tasks : List String) : Bool :=
  tasks.any fun tid ↦ (h.forTask tid).any fun r ↦ r.deliveryId = deliveryId

theorem forTask_remove_self : (h.remove taskRunId r).forTask taskRunId =
    (h.forTask taskRunId).erase r := by
  simp only [forTask, remove, Function.update_self, Option.getD_some]

theorem forTask_remove_of_ne {tid : String} (hne : taskRunId ≠ tid) :
    (h.remove tid r).forTask taskRunId = h.forTask taskRunId := by
  simp only [forTask, remove, Function.update_of_ne hne]

/-- A removal takes one record with the identifier out of the buffer of one task, and there is none
if it takes none out. -/
theorem deleteWebhook_cases (h : DeliveryHistory) (deliveryId : String) (tasks : List String) :
    (h.deleteWebhook deliveryId tasks = (h, false) ∧
        ∀ tid ∈ tasks, ∀ r ∈ h.forTask tid, r.deliveryId ≠ deliveryId) ∨
      ∃ tid ∈ tasks, ∃ r ∈ h.forTask tid, r.deliveryId = deliveryId ∧
        h.deleteWebhook deliveryId tasks = (h.remove tid r, true) := by
  induction tasks with
  | nil => exact .inl ⟨rfl, fun tid htid ↦ absurd htid List.not_mem_nil⟩
  | cons tid tasks ih =>
    rw [deleteWebhook]
    cases hfind : (h.forTask tid).find? fun r ↦ r.deliveryId = deliveryId with
    | some r =>
      exact .inr ⟨tid, List.mem_cons_self, r, List.mem_of_find?_eq_some hfind,
        by simpa using List.find?_some hfind, rfl⟩
    | none =>
      have hnone (r : WebhookDeliveryRecord) (hr : r ∈ h.forTask tid) :
          r.deliveryId ≠ deliveryId := by
        simpa using List.find?_eq_none.mp hfind r hr
      rcases ih with ⟨heq, hothers⟩ | ⟨tid', htid', hremoved⟩
      · exact .inl ⟨heq, List.forall_mem_cons.mpr ⟨hnone, hothers⟩⟩
      · exact .inr ⟨tid', List.mem_cons_of_mem tid htid', hremoved⟩

/-- Nothing is added by a removal, and the order stays. -/
theorem forTask_deleteWebhook_sublist (deliveryId : String) (tasks : List String) :
    List.Sublist ((h.deleteWebhook deliveryId tasks).1.forTask taskRunId)
      (h.forTask taskRunId) := by
  rcases h.deleteWebhook_cases deliveryId tasks with ⟨heq, -⟩ | ⟨tid, -, r', -, -, heq⟩
  · rw [heq]
  · rw [heq]
    by_cases htid : taskRunId = tid
    · subst htid
      rw [forTask_remove_self]
      exact List.erase_sublist
    · rw [forTask_remove_of_ne htid]

/-! ## Identifiers -/

/-- The identifiers of the records are among `ids`, and no two records have the same. -/
structure Numbered (ids : List String) (h : DeliveryHistory) : Prop where
  known : ∀ id, ∀ r ∈ h.forTask id, r.deliveryId ∈ ids
  nodup : ∀ id, ((h.forTask id).map (·.deliveryId)).Nodup
  apart : ∀ id id', id ≠ id' → ∀ r ∈ h.forTask id, ∀ r' ∈ h.forTask id',
    r.deliveryId ≠ r'.deliveryId

variable {ids : List String}

theorem Numbered.mono {ids' : List String} (hn : h.Numbered ids) (hle : ids ⊆ ids') :
    h.Numbered ids' :=
  ⟨fun id r hr ↦ hle (hn.known id r hr), hn.nodup, hn.apart⟩

/-- Buffers that lose records. -/
theorem Numbered.of_sublist {h' : DeliveryHistory} (hn : h.Numbered ids)
    (hsub : ∀ id, List.Sublist (h'.forTask id) (h.forTask id)) : h'.Numbered ids where
  known id r hr := hn.known id r ((hsub id).mem hr)
  nodup id := (hn.nodup id).sublist ((hsub id).map _)
  apart id id' hne r hr r' hr' := hn.apart id id' hne r ((hsub id).mem hr) r' ((hsub id').mem hr')

/-- A record is from the buffer, or it is the one that was added to it. -/
theorem mem_forTask_record {r' : WebhookDeliveryRecord}
    (hr' : r' ∈ (h.record r).forTask taskRunId) :
    r' ∈ h.forTask taskRunId ∨ taskRunId = r.taskRunId ∧ r' = r := by
  by_cases hid : taskRunId = r.taskRunId
  · subst hid
    rw [forTask_record_self] at hr'
    exact (mem_of_mem_push hr').imp_right fun heq ↦ ⟨rfl, heq⟩
  · exact .inl (forTask_record_of_ne hid ▸ hr')

/-- A record with a new identifier. -/
theorem Numbered.record (hn : h.Numbered ids) (hnew : r.deliveryId ∉ ids) :
    (h.record r).Numbered (ids ++ [r.deliveryId]) where
  known id r' hr' := by
    rcases mem_forTask_record hr' with hold | ⟨-, rfl⟩
    · exact List.mem_append_left _ (hn.known id r' hold)
    · exact List.mem_append_right _ (List.mem_singleton_self _)
  nodup id := by
    by_cases hid : id = r.taskRunId
    · subst hid
      rw [forTask_record_self]
      have hall : ((h.forTask r.taskRunId ++ [r]).map (·.deliveryId)).Nodup := by
        rw [List.map_append, List.map_singleton, List.nodup_append_comm, List.singleton_append,
          List.nodup_cons]
        refine ⟨fun hmem ↦ hnew ?_, hn.nodup _⟩
        obtain ⟨r', hr', heq⟩ := List.mem_map.mp hmem
        exact heq ▸ hn.known _ r' hr'
      exact hall.sublist ((List.drop_sublist _ _).map _)
    · rw [forTask_record_of_ne hid]
      exact hn.nodup id
  apart id id' hne r₁ hr₁ r₂ hr₂ := by
    rcases mem_forTask_record hr₁ with hold₁ | ⟨hid, rfl⟩ <;>
      rcases mem_forTask_record hr₂ with hold₂ | ⟨hid', heq⟩
    · exact hn.apart id id' hne r₁ hold₁ r₂ hold₂
    · subst heq
      exact fun heq ↦ hnew (heq ▸ hn.known id r₁ hold₁)
    · exact fun heq ↦ hnew (heq ▸ hn.known id' r₂ hold₂)
    · exact absurd (hid.trans hid'.symm) hne

/-- What a removal that has found a record leaves has no record of that identifier. -/
theorem Numbered.not_mem_of_removed {deliveryId : String} {tasks : List String}
    (hn : h.Numbered ids) (hremoved : (h.deleteWebhook deliveryId tasks).2 = true) :
    deliveryId ∈ ids ∧ ∀ id, ∀ r ∈ (h.deleteWebhook deliveryId tasks).1.forTask id,
      r.deliveryId ≠ deliveryId := by
  rcases h.deleteWebhook_cases deliveryId tasks with ⟨heq, -⟩ | ⟨tid, -, r', hr', hid', heq⟩
  · rw [heq] at hremoved
    cases hremoved
  · rw [heq]
    refine ⟨hid' ▸ hn.known tid r' hr', fun id r hr ↦ ?_⟩
    by_cases hid : id = tid
    · subst hid
      rw [forTask_remove_self, (hn.nodup id).of_map.mem_erase_iff] at hr
      intro hsame
      exact hr.1 (List.inj_on_of_nodup_map (hn.nodup id) hr.2 hr' (hsame.trans hid'.symm))
    · rw [forTask_remove_of_ne hid] at hr
      exact fun hsame ↦ hn.apart id tid hid r hr r' hr' (hsame.trans hid'.symm)

end DeliveryHistory

/-- What happens to the application: a step, or a removal by the lifecycle manager. -/
inductive WebhookEvent where
  | op (op : WebhookOp)
  | deleted (ref : HistoryRef) (deliveryId : String) (tasks : List String)

namespace WebhookEvent

/-- A submission names a webhook that `Named` has, and a run ends as `Ended` has it. -/
def Within (Named : String → WebhookConfig → Prop) (Ended : EndedTask → Prop) :
    WebhookEvent → Prop
  | .op (.submit id req) =>
    ∀ config, webhookConfigFromRequest req = some config → Named id config
  | .op (.runReturns id result _) => Ended (WebhookWorld.endedTask id result)
  | _ => True

/-- A submission of the task or a retry for it. -/
def orders (taskRunId : String) : WebhookEvent → Bool
  | .op (.submit id _) | .op (.retry id _) => id = taskRunId
  | _ => false

/-- The identifier that is drawn for a delivery. -/
def newId? : WebhookEvent → Option String
  | .op (.runReturns _ _ env) | .op (.retry _ env) => some env.deliveryId
  | _ => none

end WebhookEvent

namespace WebhookWorld

variable {P : Primitives} {w : WebhookWorld} {taskRunId : String} {ref : HistoryRef}

/-- What happens next. -/
def handle (P : Primitives) (w : WebhookWorld) : WebhookEvent → WebhookWorld
  | .op op => w.step P op
  | .deleted ref deliveryId tasks =>
    { w with
      histories := Function.update w.histories ref
        ((w.histories ref).deleteWebhook deliveryId tasks).1 }

/-- The log of the deliveries for a task that have returned. -/
def returned (w : WebhookWorld) (taskRunId : String) : List RecordedDelivery :=
  (w.callsFor taskRunId).filterMap (·.recorded?)

/-- What one delivery does: it is logged, and what is recorded of it goes to its history. -/
theorem deliverAndRecord_spec (P : Primitives) (w : WebhookWorld) (D : WebhookDispatcher)
    (history : Option HistoryRef) (config : WebhookConfig) (task : EndedTask) (env : DeliveryEnv) :
    ∃ histories,
      let call : DeliverCall := ⟨config, task, env.deliveryId,
        (deliver P D config task env.deliveryId env.now env.answers).2⟩
      deliverAndRecord P w D history config task env =
        { w with calls := w.calls ++ [call], histories := histories } ∧
      ∀ ref, (histories ref = w.histories ref ∧ (history = some ref → call.recorded? = none)) ∨
        ∃ r : WebhookDeliveryRecord, history = some ref ∧ call.recorded? = some r.recorded ∧
          r.recorded.config = config ∧ r.recorded.task = task ∧ r.deliveryId = env.deliveryId ∧
          histories ref = (w.histories ref).record r := by
  cases hresult : (deliver P D config task env.deliveryId env.now env.answers).2 with
  | error e =>
    simp only [deliverAndRecord, hresult]
    exact ⟨_, rfl, fun ref ↦ .inl ⟨rfl, fun _ ↦ rfl⟩⟩
  | ok d =>
    cases history with
    | none =>
      simp only [deliverAndRecord, hresult]
      exact ⟨_, rfl, fun ref ↦ .inl ⟨rfl, fun h ↦ absurd h.symm (Option.some_ne_none ref)⟩⟩
    | some ref' =>
      simp only [deliverAndRecord, hresult]
      refine ⟨_, rfl, fun ref ↦ ?_⟩
      by_cases href : ref = ref'
      · subst href
        rw [Function.update_self]
        exact .inr ⟨_, rfl, rfl, rfl, rfl, rfl, rfl⟩
      · rw [Function.update_of_ne href]
        exact .inl ⟨rfl, fun h ↦ absurd (Option.some.inj h).symm href⟩

/-! ## What a step can do -/

/-- The webhook that was kept for a task. -/
def configOf (w : WebhookWorld) (taskRunId : String) : Option WebhookConfig :=
  (w.state.dynamic.webhookConfigs.getD fun _ ↦ none) taskRunId

/-- What comes of a step: a submission is kept, a run ends, a run ends and is delivered, or a failed
delivery is made again. -/
inductive Effect (P : Primitives) (w : WebhookWorld) : WebhookOp → WebhookWorld → Prop
  | submitted (taskRunId : String) (req : SubmitTaskRequest)
    (configs : String → Option WebhookConfig) (wrapped : Bool)
    (hconfigs : ∀ id config, configs id = some config → w.configOf id = some config ∨
      id = taskRunId ∧ webhookConfigFromRequest req = some config) :
    Effect P w (.submit taskRunId req) { w with
      state.dynamic.webhookConfigs := some configs
      backgroundRuns := Function.update w.backgroundRuns taskRunId (some ⟨wrapped, false⟩) }
  | ended (op : WebhookOp) (runs : String → Option BackgroundRun)
    (hruns : ∀ id, runs id = some ⟨true, false⟩ → w.backgroundRuns id = some ⟨true, false⟩) :
    Effect P w op { w with backgroundRuns := runs }
  | delivered (taskRunId : String) (result : CoordinatorResult) (env : DeliveryEnv)
    (config : WebhookConfig) (D : WebhookDispatcher)
    (hruns : w.backgroundRuns taskRunId = some ⟨true, false⟩)
    (hconfig : w.configOf taskRunId = some config) :
    Effect P w (.runReturns taskRunId result env) (deliverAndRecord P { w with
      backgroundRuns := Function.update w.backgroundRuns taskRunId (some ⟨true, true⟩) } D
      w.state.dynamic.webhookHistory config (endedTask taskRunId result) env)
  | retried (taskRunId : String) (env : DeliveryEnv) (ref : HistoryRef) (D : WebhookDispatcher)
    (last : WebhookDeliveryRecord) (hhistory : w.state.webhookHistory = some ref)
    (hlast : (w.histories ref).lastFailed taskRunId = some last) :
    Effect P w (.retry taskRunId env)
      (deliverAndRecord P w D (some ref) last.recorded.config last.recorded.task env)

theorem ended_update {id : String} {wrapped : Bool} (op : WebhookOp) : Effect P w op { w with
    backgroundRuns := Function.update w.backgroundRuns id (some ⟨wrapped, true⟩) } := by
  refine .ended op _ fun id' hid' ↦ ?_
  by_cases hid : id' = id
  · subst hid
    rw [Function.update_self] at hid'
    cases hid'
  · rwa [Function.update_of_ne hid] at hid'

theorem ended_self (op : WebhookOp) : Effect P w op w := .ended op w.backgroundRuns fun _ h ↦ h

/-- Every step is one of these. -/
theorem step_effect (P : Primitives) (w : WebhookWorld) (op : WebhookOp) :
    Effect P w op (w.step P op) := by
  cases op with
  | submit taskRunId req =>
    rw [step, submitTask]
    cases hreq : webhookConfigFromRequest req with
    | none => exact .submitted taskRunId req _ false fun id config h ↦ .inl h
    | some config =>
      refine .submitted taskRunId req _ true fun id config' h ↦ ?_
      by_cases hid : id = taskRunId
      · subst hid
        rw [Function.update_self] at h
        exact .inr ⟨rfl, hreq.trans h⟩
      · rw [Function.update_of_ne hid] at h
        exact .inl h
  | runReturns taskRunId result env =>
    rw [step, runReturns]
    split
    next wrapped hruns =>
      cases wrapped with
      | false => exact ended_update _
      | true =>
        rw [if_pos rfl, wrapWithWebhook]
        split
        · exact ended_update _
        next config hconfig =>
        split
        · exact ended_update _
        · exact .delivered taskRunId result env config _ hruns hconfig
    next => exact ended_self _
  | runRaises taskRunId =>
    rw [step, runRaises]
    split
    · exact ended_update _
    · exact ended_self _
  | retry taskRunId env =>
    rw [step, adminWebhookRetry]
    split
    · exact ended_self _
    next ref hhistory =>
    split
    · exact ended_self _
    next last hlast =>
    split
    · exact ended_self _
    · exact .retried taskRunId env ref _ last hhistory hlast

/-! ## The window on the log -/

/-- Nothing has been submitted, delivered or recorded. -/
structure Untouched (w : WebhookWorld) : Prop where
  calls : w.calls = []
  histories : ∀ ref id, (w.histories ref).forTask id = []
  configs : w.state.dynamic.webhookConfigs = none
  runs : ∀ id, w.backgroundRuns id = none

/-- The endpoints have a dispatcher and a history, and the wrapper has the same history. -/
structure Wired (state : AppState) (ref : HistoryRef) (D : WebhookDispatcher) : Prop where
  dispatcher : state.webhookDispatcher = some D
  history : state.webhookHistory = some ref
  wrapperHistory : state.dynamic.webhookHistory = some ref

/-- The history `ref` shows the last `cap` deliveries of each task. -/
structure Windowed (w : WebhookWorld) (ref : HistoryRef) (D : WebhookDispatcher) (cap : ℕ) :
    Prop where
  wired : Wired w.state ref D
  maxPerTask : (w.histories ref).maxPerTask = cap
  window : ∀ id, ((w.histories ref).forTask id).map (·.recorded) = (w.returned id).rtake cap

variable {D : WebhookDispatcher} {cap : ℕ}

/-- One more delivery, in the log of a task. -/
theorem returned_concat (w : WebhookWorld) (call : DeliverCall)
    (histories : HistoryRef → DeliveryHistory) (id : String) :
    returned { w with calls := w.calls ++ [call], histories := histories } id =
      w.returned id ++ if call.task.taskRunId = id then call.recorded?.toList else [] := by
  rw [returned, callsFor, List.filter_append, List.filterMap_append]
  split_ifs with hid
  · rw [List.filter_singleton, decide_eq_true hid]
    cases hrecorded : call.recorded? <;> simp [hrecorded, returned, callsFor]
  · rw [List.filter_singleton, decide_eq_false hid]
    rfl

theorem Windowed.deliverAndRecord (h : w.Windowed ref D cap) {D' : WebhookDispatcher}
    {config : WebhookConfig} {task : EndedTask} {env : DeliveryEnv} :
    (deliverAndRecord P w D' (some ref) config task env).Windowed ref D cap := by
  obtain ⟨histories, heq, hhistories⟩ := deliverAndRecord_spec P w D' (some ref) config task env
  rw [heq]
  rcases hhistories ref with ⟨hsame, hnone⟩ | ⟨r, -, hrecorded, -, htask, -, hrecord⟩
  · refine ⟨h.wired, (congrArg _ hsame).trans h.maxPerTask, fun id ↦ ?_⟩
    rw [returned_concat, hnone rfl, Option.toList_none, ite_self, List.append_nil, ← h.window]
    exact congrArg (fun h : DeliveryHistory ↦ (h.forTask id).map (·.recorded)) hsame
  · have hown : r.taskRunId = task.taskRunId := congrArg EndedTask.taskRunId htask
    refine ⟨h.wired, (congrArg _ hrecord).trans h.maxPerTask, fun id ↦ ?_⟩
    rw [returned_concat, hrecorded, Option.toList_some]
    change ((histories ref).forTask id).map _ = _
    rw [hrecord]
    split_ifs with hid
    · obtain rfl : r.taskRunId = id := hown.trans hid
      rw [forTask_record_self, ← h.maxPerTask]
      exact map_push (h.maxPerTask ▸ h.window _)
    · rw [forTask_record_of_ne fun h ↦ hid (hown.symm.trans h.symm), List.append_nil]
      exact h.window id

/-- **Every step** keeps the window where it should be. -/
theorem Effect.windowed {op : WebhookOp} {w' : WebhookWorld} (heffect : Effect P w op w')
    (h : w.Windowed ref D cap) : w'.Windowed ref D cap := by
  cases heffect with
  | submitted id req configs wrapped =>
    exact ⟨⟨h.wired.dispatcher, h.wired.history, h.wired.wrapperHistory⟩, h.maxPerTask, h.window⟩
  | ended _ runs => exact ⟨h.wired, h.maxPerTask, h.window⟩
  | delivered id result env config D' =>
    rw [h.wired.wrapperHistory]
    have hended : Windowed { w with
        backgroundRuns := Function.update w.backgroundRuns id (some ⟨true, true⟩) } ref D cap :=
      ⟨h.wired, h.maxPerTask, h.window⟩
    exact hended.deliverAndRecord
  | retried id env ref' D' last hhistory =>
    obtain rfl : ref = ref' := Option.some.inj (h.wired.history.symm.trans hhistory)
    exact h.deliverAndRecord

/-- A state in which the wrapper finds what the endpoints use. -/
def deployedWorld : WebhookWorld where
  state := ⟨some {}, some 0, { webhookDispatcher := some {}, webhookHistory := some 0 }⟩

def samplePrimitives : Primitives where
  sha256 _ := [0]
  hmacSha256 key _ := 0 :: key
  hmac_ne_nil _ _ := List.cons_ne_nil _ _

def refusingEnv : DeliveryEnv := ⟨"d-1", 0, "2026-01-01T00:00:00+00:00", fun _ ↦ .response 503⟩

theorem untouched_deployedWorld : deployedWorld.Untouched :=
  ⟨rfl, fun _ _ ↦ rfl, rfl, fun _ ↦ rfl⟩

/-- The webhooks that are kept are among those that `Named` has for their tasks, and what is
delivered or recorded goes to one of these, from a task that `Ended` has. -/
structure Accounted (Named : String → WebhookConfig → Prop) (Ended : EndedTask → Prop)
    (w : WebhookWorld) : Prop where
  configs : ∀ id config, w.configOf id = some config → Named id config
  calls : ∀ c ∈ w.calls, Named c.task.taskRunId c.config ∧ Ended c.task
  records : ∀ ref id, ∀ r ∈ (w.histories ref).forTask id,
    r.taskRunId = id ∧ Named id r.recorded.config ∧ Ended r.recorded.task

variable {Named : String → WebhookConfig → Prop} {Ended : EndedTask → Prop}

theorem Accounted.deliverAndRecord (h : w.Accounted Named Ended) {D : WebhookDispatcher}
    {history : Option HistoryRef} {config : WebhookConfig} {task : EndedTask} {env : DeliveryEnv}
    (hconfig : Named task.taskRunId config) (htask : Ended task) :
    (deliverAndRecord P w D history config task env).Accounted Named Ended := by
  obtain ⟨histories, heq, hhistories⟩ := deliverAndRecord_spec P w D history config task env
  rw [heq]
  refine ⟨h.configs, fun c hc ↦ ?_, fun ref id r hr ↦ ?_⟩
  · rcases List.mem_append.mp hc with hc | hc
    · exact h.calls c hc
    · obtain rfl := List.mem_singleton.mp hc
      exact ⟨hconfig, htask⟩
  · change r ∈ (histories ref).forTask id at hr
    rcases hhistories ref with ⟨hsame, -⟩ | ⟨r', -, -, hsent, hown, -, hrecord⟩
    · exact h.records ref id r (hsame ▸ hr)
    rw [hrecord] at hr
    by_cases hid : id = r'.taskRunId
    · subst hid
      rw [forTask_record_self] at hr
      rcases mem_of_mem_push hr with hr | rfl
      · exact h.records ref _ r hr
      · have htaskRunId : r.taskRunId = task.taskRunId := congrArg EndedTask.taskRunId hown
        rw [hsent, hown, htaskRunId]
        exact ⟨rfl, hconfig, htask⟩
    · rw [forTask_record_of_ne hid] at hr
      exact h.records ref id r hr

theorem Effect.accounted {op : WebhookOp} {w' : WebhookWorld} (heffect : Effect P w op w')
    (h : w.Accounted Named Ended)
    (hop : (WebhookEvent.op op).Within Named Ended) : w'.Accounted Named Ended := by
  cases heffect with
  | submitted taskRunId req configs wrapped hconfigs =>
    refine ⟨fun id config hconfig ↦ ?_, h.calls, h.records⟩
    rcases hconfigs id config hconfig with hold | ⟨rfl, hnew⟩
    · exact h.configs id config hold
    · exact hop config hnew
  | ended _ runs => exact ⟨h.configs, h.calls, h.records⟩
  | delivered taskRunId result env config D hruns hconfig =>
    have hended : Accounted Named Ended { w with
        backgroundRuns := Function.update w.backgroundRuns taskRunId (some ⟨true, true⟩) } :=
      ⟨h.configs, h.calls, h.records⟩
    exact hended.deliverAndRecord (h.configs taskRunId config hconfig) hop
  | retried taskRunId env ref D last hhistory hlast =>
    obtain ⟨rfl, hconfig, htask⟩ := h.records ref taskRunId last (mem_of_lastFailed hlast)
    exact h.deliverAndRecord hconfig htask

/-- The run of the task is on, with a webhook to deliver at its end. -/
def pending (runs : String → Option BackgroundRun) (taskRunId : String) : ℕ :=
  if runs taskRunId = some ⟨true, false⟩ then 1 else 0

theorem pending_update_of_ne {runs : String → Option BackgroundRun} {id : String}
    {b : Option BackgroundRun} (hne : taskRunId ≠ id) :
    pending (Function.update runs id b) taskRunId = pending runs taskRunId := by
  rw [pending, Function.update_of_ne hne, pending]

theorem pending_le_one (runs : String → Option BackgroundRun) (taskRunId : String) :
    pending runs taskRunId ≤ 1 := by
  rw [pending]
  split_ifs
  · exact le_rfl
  · exact Nat.zero_le 1

theorem length_callsFor_deliverAndRecord {D : WebhookDispatcher} {history : Option HistoryRef}
    {config : WebhookConfig} {task : EndedTask} {env : DeliveryEnv} :
    ((deliverAndRecord P w D history config task env).callsFor taskRunId).length =
      (w.callsFor taskRunId).length + if task.taskRunId = taskRunId then 1 else 0 := by
  obtain ⟨histories, heq, -⟩ := deliverAndRecord_spec P w D history config task env
  rw [heq, callsFor, List.filter_append, List.length_append, List.filter_singleton]
  split_ifs <;> simp_all [callsFor]

theorem backgroundRuns_deliverAndRecord {D : WebhookDispatcher} {history : Option HistoryRef}
    {config : WebhookConfig} {task : EndedTask} {env : DeliveryEnv} :
    (deliverAndRecord P w D history config task env).backgroundRuns = w.backgroundRuns := by
  obtain ⟨histories, heq, -⟩ := deliverAndRecord_spec P w D history config task env
  rw [heq]

/-- A delivery uses up the run that it ends, or it is ordered. -/
theorem Effect.length_callsFor_le {op : WebhookOp} {w' : WebhookWorld} (heffect : Effect P w op w')
    (hfiled : ∀ ref id, ∀ r ∈ (w.histories ref).forTask id, r.taskRunId = id) :
    (w'.callsFor taskRunId).length + pending w'.backgroundRuns taskRunId ≤
      (w.callsFor taskRunId).length + pending w.backgroundRuns taskRunId +
        if (WebhookEvent.op op).orders taskRunId then 1 else 0 := by
  cases heffect with
  | submitted id req configs wrapped =>
    change (w.callsFor taskRunId).length + pending (Function.update _ _ _) taskRunId ≤ _
    by_cases hid : taskRunId = id
    · have hordered : (WebhookEvent.op (.submit id req)).orders taskRunId = true :=
        decide_eq_true hid.symm
      have hone := pending_le_one (Function.update w.backgroundRuns id (some ⟨wrapped, false⟩))
        taskRunId
      rw [if_pos hordered]
      omega
    · rw [pending_update_of_ne hid]
      exact Nat.le_add_right _ _
  | ended _ runs hruns =>
    have hle : pending runs taskRunId ≤ pending w.backgroundRuns taskRunId := by
      by_cases hrun : runs taskRunId = some ⟨true, false⟩
      · rw [pending, pending, if_pos hrun, if_pos (hruns taskRunId hrun)]
      · rw [pending, if_neg hrun]
        exact Nat.zero_le _
    exact (Nat.add_le_add_left hle _).trans (Nat.le_add_right _ _)
  | delivered id result env config D hruns =>
    rw [length_callsFor_deliverAndRecord, backgroundRuns_deliverAndRecord]
    change (w.callsFor taskRunId).length + (if id = taskRunId then 1 else 0) +
      pending (Function.update _ _ _) taskRunId ≤ _
    by_cases hid : taskRunId = id
    · subst hid
      rw [if_pos rfl, pending, Function.update_self, pending, if_pos hruns, if_neg (by simp)]
      exact Nat.le_add_right _ _
    · rw [pending_update_of_ne hid, if_neg (Ne.symm hid)]
      exact Nat.le_add_right _ _
  | retried id env ref D last hhistory hlast =>
    obtain rfl := hfiled ref id last (mem_of_lastFailed hlast)
    have hown : last.recorded.task.taskRunId = last.taskRunId := rfl
    rw [length_callsFor_deliverAndRecord, backgroundRuns_deliverAndRecord, hown]
    simp only [WebhookEvent.orders, decide_eq_true_eq]
    exact (Nat.add_right_comm _ _ _).le

/-! ## Any run -/

/-- What an event does to a history: nothing, one record with the identifier that is drawn, or a
removal. -/
theorem handle_histories (P : Primitives) (w : WebhookWorld) (e : WebhookEvent) (ref : HistoryRef) :
    (handle P w e).histories ref = w.histories ref ∨
      (∃ r, e.newId? = some r.deliveryId ∧
        (handle P w e).histories ref = (w.histories ref).record r) ∨
      ∃ deliveryId tasks, (handle P w e).histories ref =
        ((w.histories ref).deleteWebhook deliveryId tasks).1 := by
  have hdelivery {w : WebhookWorld} {D : WebhookDispatcher} {history : Option HistoryRef}
      {config : WebhookConfig} {task : EndedTask} {env : DeliveryEnv} :
      (deliverAndRecord P w D history config task env).histories ref = w.histories ref ∨
        ∃ r, some env.deliveryId = some r.deliveryId ∧
          (deliverAndRecord P w D history config task env).histories ref =
            (w.histories ref).record r := by
    obtain ⟨histories, heq, hhistories⟩ := deliverAndRecord_spec P w D history config task env
    rw [heq]
    rcases hhistories ref with ⟨hsame, -⟩ | ⟨r, -, -, -, -, hnew, hrecord⟩
    · exact .inl hsame
    · exact .inr ⟨r, congrArg some hnew.symm, hrecord⟩
  cases e with
  | op op =>
    rw [handle]
    have heffect := step_effect P w op
    generalize w.step P op = w' at heffect
    cases heffect with
    | submitted | ended => exact .inl rfl
    | delivered | retried => exact hdelivery.imp_right .inl
  | deleted ref' deliveryId tasks =>
    by_cases href : ref = ref'
    · subst href
      exact .inr (.inr ⟨deliveryId, tasks, Function.update_self _ _ _⟩)
    · exact .inl (Function.update_of_ne href _ _)

theorem Accounted.handle {e : WebhookEvent} (h : w.Accounted Named Ended)
    (he : e.Within Named Ended) : (handle P w e).Accounted Named Ended := by
  cases e with
  | op op => exact (step_effect P w op).accounted h he
  | deleted ref' deliveryId tasks =>
    refine ⟨h.configs, h.calls, fun ref id r hr ↦ h.records ref id r ?_⟩
    change r ∈ (Function.update w.histories ref' _ ref).forTask id at hr
    by_cases href : ref = ref'
    · subst href
      rw [Function.update_self] at hr
      exact (forTask_deleteWebhook_sublist deliveryId tasks).mem hr
    · rwa [Function.update_of_ne href] at hr

variable (P taskRunId) in
theorem length_callsFor_handle_le (h : w.Accounted Named Ended) (e : WebhookEvent) :
    ((handle P w e).callsFor taskRunId).length +
        pending (handle P w e).backgroundRuns taskRunId ≤
      (w.callsFor taskRunId).length + pending w.backgroundRuns taskRunId +
        if e.orders taskRunId then 1 else 0 := by
  cases e with
  | op op =>
    exact (step_effect P w op).length_callsFor_le fun ref id r hr ↦ (h.records ref id r hr).1
  | deleted => exact Nat.le_add_right _ _

variable (P taskRunId) in
/-- **Over any run** there are no more deliveries for a task than orders. -/
theorem length_callsFor_run_le (h : w.Accounted Named Ended) {events : List WebhookEvent}
    (hevents : ∀ e ∈ events, e.Within Named Ended) :
    ((run (handle P) w events).callsFor taskRunId).length ≤
      (w.callsFor taskRunId).length + pending w.backgroundRuns taskRunId +
        events.countP fun e ↦ e.orders taskRunId := by
  induction events generalizing w with
  | nil => exact Nat.le_add_right _ _
  | cons e events ih =>
    rw [List.forall_mem_cons] at hevents
    have hrest := ih (h.handle (P := P) hevents.1) hevents.2
    have hfirst := length_callsFor_handle_le P taskRunId h e
    rw [run_cons, List.countP_cons]
    omega

/-- **What is delivered is what was ordered.** Whatever happens, and whatever is removed from the
histories in between, every delivery for a task goes to an address and is signed with a secret that
a submission of the task has named, and it carries what a run of the task has returned. There are no
more deliveries for a task than submissions of it and retries for it. -/
theorem deliveries_accounted (P : Primitives) (w : WebhookWorld) (huntouched : w.Untouched)
    (events : List WebhookEvent) :
    let w' := run (handle P) w events
    (∀ call ∈ w'.calls,
      (∃ req, .op (.submit call.task.taskRunId req) ∈ events ∧
        webhookConfigFromRequest req = some call.config) ∧
      ∃ result env, .op (.runReturns call.task.taskRunId result env) ∈ events ∧
        call.task = endedTask call.task.taskRunId result) ∧
    ∀ taskRunId, (w'.callsFor taskRunId).length ≤ events.countP fun e ↦ e.orders taskRunId := by
  intro w'
  let Named (id : String) (config : WebhookConfig) : Prop :=
    ∃ req, .op (.submit id req) ∈ events ∧ webhookConfigFromRequest req = some config
  let Ended (task : EndedTask) : Prop :=
    ∃ result env, .op (.runReturns task.taskRunId result env) ∈ events ∧
      task = endedTask task.taskRunId result
  have hstart : w.Accounted Named Ended := by
    refine ⟨fun id config hconfig ↦ ?_, fun c hc ↦ ?_, fun ref id r hr ↦ ?_⟩
    · rw [configOf, huntouched.configs] at hconfig
      cases hconfig
    · exact absurd hc (huntouched.calls ▸ List.not_mem_nil)
    · exact absurd hr (huntouched.histories ref id ▸ List.not_mem_nil)
  have hwithin : ∀ e ∈ events, e.Within Named Ended := by
    rintro (op | ⟨ref, deliveryId, tasks⟩) he
    · cases op with
      | submit id req => exact fun config hreq ↦ ⟨req, he, hreq⟩
      | runReturns id result env => exact ⟨result, env, he, rfl⟩
      | runRaises | retry => trivial
    · trivial
  have hw : w'.Accounted Named Ended :=
    run_induction (I := Accounted Named Ended) (fun _ _ h he ↦ h.handle he) hstart
      (allSteps_of_mem hwithin w)
  refine ⟨hw.calls, fun taskRunId ↦ ?_⟩
  have hle := length_callsFor_run_le P taskRunId hstart hwithin
  have hnone : (w.callsFor taskRunId).length + pending w.backgroundRuns taskRunId = 0 := by
    rw [callsFor, huntouched.calls, pending, huntouched.runs]
    rfl
  rwa [hnone, Nat.zero_add] at hle

theorem deliveries_accounted_deployedWorld :
    let events : List WebhookEvent := [.op (.submit "task-1" partnerRequest),
      .op (.runReturns "task-1" succeededResult refusingEnv), .deleted 0 "d-0" ["task-1"],
      .op (.retry "task-1" acceptingEnv)]
    let w' := run (handle samplePrimitives) deployedWorld events
    (∀ call ∈ w'.calls,
      (∃ req, .op (.submit call.task.taskRunId req) ∈ events ∧
        webhookConfigFromRequest req = some call.config) ∧
      ∃ result env, .op (.runReturns call.task.taskRunId result env) ∈ events ∧
        call.task = endedTask call.task.taskRunId result) ∧
    ∀ taskRunId, (w'.callsFor taskRunId).length ≤ events.countP fun e ↦ e.orders taskRunId :=
  deliveries_accounted samplePrimitives deployedWorld untouched_deployedWorld _

/-! ## Removed for good -/

/-- One more event, with a new identifier if it draws one. -/
theorem numbered_handle {ids : List String} {e : WebhookEvent}
    (hn : ∀ ref, (w.histories ref).Numbered ids) (hnew : ∀ id, e.newId? = some id → id ∉ ids)
    (ref : HistoryRef) : ((handle P w e).histories ref).Numbered (ids ++ e.newId?.toList) := by
  have hids : ids ⊆ ids ++ e.newId?.toList := List.subset_append_left _ _
  rcases handle_histories P w e ref with hsame | ⟨r, hid, hrecord⟩ | ⟨deliveryId, tasks, hdelete⟩
  · rw [hsame]
    exact (hn ref).mono hids
  · rw [hrecord, hid, Option.toList_some]
    exact (hn ref).record (hnew _ hid)
  · rw [hdelete]
    exact ((hn ref).mono hids).of_sublist fun id ↦ forTask_deleteWebhook_sublist deliveryId tasks

/-- **Over any run** with distinct identifiers they tell the records apart. -/
theorem numbered_run {ids : List String} {events : List WebhookEvent}
    (hn : ∀ ref, (w.histories ref).Numbered ids)
    (hids : (ids ++ events.filterMap (·.newId?)).Nodup) (ref : HistoryRef) :
    ((run (handle P) w events).histories ref).Numbered (ids ++ events.filterMap (·.newId?)) := by
  induction events generalizing w ids with
  | nil => exact (hn ref).mono (List.subset_append_left _ _)
  | cons e events ih =>
    have hsplit : (e :: events).filterMap (·.newId?) =
        e.newId?.toList ++ events.filterMap (·.newId?) := by
      cases hid : e.newId? with
      | none => exact List.filterMap_cons_none hid
      | some id => exact List.filterMap_cons_some hid
    rw [hsplit, ← List.append_assoc] at hids ⊢
    refine ih (numbered_handle hn fun id hid hmem ↦ ?_) hids
    rw [hid, Option.toList_some, List.append_assoc] at hids
    exact (List.nodup_append.mp hids).2.2 id hmem id (List.mem_cons_self ..) rfl

/-- An event that does not draw the identifier does not bring it back. -/
theorem handle_ne {deliveryId : String} {e : WebhookEvent}
    (hgone : ∀ id, ∀ r ∈ (w.histories ref).forTask id, r.deliveryId ≠ deliveryId)
    (hother : e.newId? ≠ some deliveryId) :
    ∀ id, ∀ r ∈ ((handle P w e).histories ref).forTask id, r.deliveryId ≠ deliveryId := by
  intro id r hr
  rcases handle_histories P w e ref with hsame | ⟨r', hid, hrecord⟩ | ⟨deliveryId', tasks, hdelete⟩
  · exact hgone id r (hsame ▸ hr)
  · rw [hrecord] at hr
    rcases mem_forTask_record hr with hold | ⟨-, rfl⟩
    · exact hgone id r hold
    · exact fun hsame ↦ hother (hsame ▸ hid)
  · rw [hdelete] at hr
    exact hgone id r ((forTask_deleteWebhook_sublist deliveryId' tasks).mem hr)

/-- **A removed record does not come back.** If the identifiers that are drawn for deliveries are
distinct, and a removal has taken a record out of a history, the history does not have a delivery of
that identifier again, under any task and after any further run. -/
theorem deletion_final (P : Primitives) (w : WebhookWorld) (huntouched : w.Untouched)
    (before after : List WebhookEvent) (ref : HistoryRef) (deliveryId : String)
    (tasks tasks' : List String) (hids : ((before ++ after).filterMap (·.newId?)).Nodup)
    (hremoved : (((run (handle P) w before).histories ref).deleteWebhook deliveryId tasks).2 =
      true) :
    ((run (handle P) w (before ++ .deleted ref deliveryId tasks :: after)).histories
      ref).webhookExists deliveryId tasks' = false := by
  rw [List.filterMap_append, List.nodup_append] at hids
  have hstart (ref : HistoryRef) : (w.histories ref).Numbered [] :=
    ⟨fun id r hr ↦ absurd hr (huntouched.histories ref id ▸ List.not_mem_nil),
      fun id ↦ huntouched.histories ref id ▸ List.nodup_nil,
      fun id _ _ r hr ↦ absurd hr (huntouched.histories ref id ▸ List.not_mem_nil)⟩
  have hbefore := numbered_run (P := P) hstart hids.1 ref
  obtain ⟨hdrawn, hgone⟩ := hbefore.not_mem_of_removed hremoved
  have hothers : ∀ e ∈ after, e.newId? ≠ some deliveryId := by
    intro e he hid
    have hlater : deliveryId ∈ after.filterMap (·.newId?) := List.mem_filterMap.mpr ⟨e, he, hid⟩
    exact hids.2.2 deliveryId hdrawn deliveryId hlater rfl
  have hafter : ∀ id, ∀ r ∈ ((run (handle P) w (before ++
      .deleted ref deliveryId tasks :: after)).histories ref).forTask id,
      r.deliveryId ≠ deliveryId := by
    rw [run_append, run_cons]
    refine run_induction (I := fun w : WebhookWorld ↦ ∀ id, ∀ r ∈ (w.histories ref).forTask id,
      r.deliveryId ≠ deliveryId) (fun _ _ h he ↦ handle_ne h he) ?_ (allSteps_of_mem hothers _)
    rw [handle]
    dsimp only
    rw [Function.update_self]
    exact hgone
  rw [webhookExists, List.any_eq_false]
  intro id _
  rw [Bool.not_eq_true, List.any_eq_false]
  intro r hr
  rw [decide_eq_true_eq]
  exact hafter id r hr

/-- A delivery under another identifier. -/
def laterEnv : DeliveryEnv := { acceptingEnv with deliveryId := "d-2" }

theorem deletion_final_deployedWorld :
    ((run (handle samplePrimitives) deployedWorld
      ([.op (.submit "task-1" partnerRequest),
          .op (.runReturns "task-1" succeededResult refusingEnv)] ++
        .deleted 0 "d-1" ["task-1"] :: [.op (.retry "task-1" laterEnv)])).histories
      0).webhookExists "d-1" ["task-1"] = false :=
  deletion_final samplePrimitives deployedWorld untouched_deployedWorld _ _ 0 "d-1" ["task-1"]
    ["task-1"] (by decide) (by decide)

end WebhookWorld

end Webhooks

end Orchestra
