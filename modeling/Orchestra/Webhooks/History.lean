import Orchestra.Webhooks.Dispatcher
import Mathlib.Logic.Function.Basic

/-!
# The history of deliveries

The outcomes of deliveries are kept in memory, the last ones of each task. A record holds the
address and the secret of the partner and the fields of the payload, so that an operator can make a
failed delivery again.
-/

namespace Orchestra

namespace Webhooks

/-- `WebhookDeliveryRecord`. -/
structure WebhookDeliveryRecord where
  deliveryId : String
  taskRunId : String
  state : String
  delivered : Bool
  attempts : ℕ
  lastStatus : ℕ
  error : String := ""
  attemptStartedAt : String := ""
  webhookUrl : String := ""
  webhookSecret : String := ""
  planId : Option String := none
  nodeResults : Option (List (String × Json)) := none
  payloadError : Option String := none
  deriving DecidableEq

/-- `from_delivery`, at the time `startedAt`. -/
def WebhookDeliveryRecord.fromDelivery (d : WebhookDelivery) (task : EndedTask)
    (deliveryId startedAt : String) (config : WebhookConfig) : WebhookDeliveryRecord where
  deliveryId := deliveryId
  taskRunId := task.taskRunId
  state := task.state
  delivered := d.delivered
  attempts := d.attempts
  lastStatus := d.lastStatus
  error := d.error
  attemptStartedAt := startedAt
  webhookUrl := config.url
  webhookSecret := config.secret
  planId := task.planId
  nodeResults := some task.nodeResults
  payloadError := task.error

/-- `DeliveryHistory`. The order of the tasks is not read. -/
structure DeliveryHistory where
  maxPerTask : ℕ := 16
  byTask : String → Option (List WebhookDeliveryRecord) := fun _ ↦ none

namespace DeliveryHistory

/-- The append of a buffer with `maxPerTask` places, which drops the oldest record. -/
def push (h : DeliveryHistory) (buffer : List WebhookDeliveryRecord) (r : WebhookDeliveryRecord) :
    List WebhookDeliveryRecord :=
  (buffer ++ [r]).drop (buffer.length + 1 - h.maxPerTask)

/-- `record`. -/
def record (h : DeliveryHistory) (r : WebhookDeliveryRecord) : DeliveryHistory :=
  { h with
    byTask := Function.update h.byTask r.taskRunId
      (some (h.push ((h.byTask r.taskRunId).getD []) r)) }

/-- `for_task`. -/
def forTask (h : DeliveryHistory) (taskRunId : String) : List WebhookDeliveryRecord :=
  (h.byTask taskRunId).getD []

/-- `last_failed`. -/
def lastFailed (h : DeliveryHistory) (taskRunId : String) : Option WebhookDeliveryRecord :=
  (h.forTask taskRunId).reverse.find? fun r ↦ !r.delivered

/-- There is no record of the task, under any key. -/
def Without (h : DeliveryHistory) (taskRunId : String) : Prop :=
  ∀ key, ∀ r ∈ h.forTask key, key ≠ taskRunId ∧ r.taskRunId ≠ taskRunId

variable {h : DeliveryHistory} {r : WebhookDeliveryRecord} {taskRunId : String}

@[simp] theorem maxPerTask_record : (h.record r).maxPerTask = h.maxPerTask := rfl

theorem forTask_record_self :
    (h.record r).forTask r.taskRunId = h.push (h.forTask r.taskRunId) r := by
  simp only [forTask, record, Function.update_self, Option.getD_some]

theorem forTask_record_of_ne (hne : taskRunId ≠ r.taskRunId) :
    (h.record r).forTask taskRunId = h.forTask taskRunId := by
  simp only [forTask, record, Function.update_of_ne hne]

theorem mem_of_mem_push {buffer : List WebhookDeliveryRecord} {r' : WebhookDeliveryRecord}
    (h' : r' ∈ h.push buffer r) : r' ∈ buffer ∨ r' = r := by
  have hmem := List.mem_of_mem_drop h'
  rwa [List.mem_append, List.mem_singleton] at hmem

/-- The first record of a task is kept if a record is kept at all. -/
theorem push_nil_eq_singleton_iff : (∃ r', h.push [] r = [r']) ↔ 0 < h.maxPerTask := by
  rw [push, List.nil_append, List.length_nil, Nat.zero_add]
  rcases Nat.eq_zero_or_pos h.maxPerTask with hzero | hpos
  · rw [hzero]
    simp
  · rw [Nat.sub_eq_zero_of_le hpos]
    exact iff_of_true ⟨r, rfl⟩ hpos

theorem forTask_eq_nil_of_without (hw : h.Without taskRunId) : h.forTask taskRunId = [] :=
  List.eq_nil_iff_forall_not_mem.mpr fun r hr ↦ (hw taskRunId r hr).1 rfl

theorem mem_of_lastFailed (hlast : h.lastFailed taskRunId = some r) : r ∈ h.forTask taskRunId :=
  List.mem_reverse.mp (List.mem_of_find?_eq_some hlast)

/-- The record of another task. -/
theorem Without.record (hw : h.Without taskRunId) (hne : r.taskRunId ≠ taskRunId) :
    (h.record r).Without taskRunId := by
  intro key r' hr'
  by_cases hkey : key = r.taskRunId
  · subst hkey
    rw [forTask_record_self] at hr'
    rcases mem_of_mem_push hr' with hold | rfl
    · exact hw _ r' hold
    · exact ⟨hne, hne⟩
  · rw [forTask_record_of_ne hkey] at hr'
    exact hw key r' hr'

end DeliveryHistory

end Webhooks

end Orchestra
