import Orchestra.Core.Json

/-!
# The event bus

The live mirror of the audit events of a task: a bounded history for late subscribers, and a bounded
queue for each subscriber. A full queue drops what is put into it. Closing a task puts the sentinel
into the queues of its subscribers, once.
-/

namespace Orchestra

/-- A subscriber's queue; `none` is the sentinel that ends its read loop. -/
structure Subscriber where
  taskRunId : String
  queue : List (Option Json) := []
  deriving DecidableEq

structure EventBus where
  replayBuffer : ℕ := 256
  history : List (String × Json) := []
  subscribers : List Subscriber := []
  closed : List String := []

namespace Subscriber

def queueSize : ℕ := 512

/-- `put_nowait`, where a full queue drops the item. -/
def put (q : Subscriber) (item : Option Json) : Subscriber :=
  if q.queue.length < queueSize then { q with queue := q.queue ++ [item] } else q

end Subscriber

namespace EventBus

/-- The events of a task that a late subscriber is given. -/
def replay (bus : EventBus) (taskRunId : String) : List Json :=
  let events := (bus.history.filter fun e ↦ decide (e.1 = taskRunId)).map Prod.snd
  events.drop (events.length - bus.replayBuffer)

/-- An item for every subscriber of the task. -/
def broadcast (bus : EventBus) (taskRunId : String) (item : Option Json) : List Subscriber :=
  bus.subscribers.map fun q ↦ if q.taskRunId = taskRunId then q.put item else q

def publish (bus : EventBus) (taskRunId : String) (event : Json) : EventBus :=
  { bus with
    history := bus.history ++ [(taskRunId, event)]
    subscribers := bus.broadcast taskRunId (some event) }

def close (bus : EventBus) (taskRunId : String) : EventBus :=
  if taskRunId ∈ bus.closed then bus
  else
    { bus with
      closed := taskRunId :: bus.closed
      subscribers := bus.broadcast taskRunId none }

def isClosed (bus : EventBus) (taskRunId : String) : Bool := decide (taskRunId ∈ bus.closed)

variable {bus : EventBus}

@[simp] theorem isClosed_close (taskRunId : String) :
    (bus.close taskRunId).isClosed taskRunId = true := by
  rw [isClosed, close]
  split
  · next h => exact decide_eq_true h
  · exact decide_eq_true List.mem_cons_self

/-- What is closed stays closed. -/
theorem isClosed_close_of_isClosed {taskRunId : String} (h : bus.isClosed taskRunId = true)
    (other : String) : (bus.close other).isClosed taskRunId = true := by
  rw [isClosed, decide_eq_true_eq] at h
  rw [isClosed, close]
  split
  · exact decide_eq_true h
  · exact decide_eq_true (List.mem_cons_of_mem _ h)

end EventBus

end Orchestra
