import Orchestra.Foundation.KeyedTable
import Orchestra.Foundation.Transition
import Orchestra.Streaming.EventBus

/-!
# Subscriptions to the event bus

The bus as its callers see it: a subscriber is handed a queue that already holds the retained
history, is fed what is published while it is registered, and reads at its own pace. A queue
outlives its registration, so the queues are kept apart from the sets of registered ones, and what
a queue received is what its reader took and what is still in it.

A registered queue of an open task receives what `publish` and `close` put into it
(`Registered.received_run`); a queue that is no longer registered, or whose task is closed, receives
nothing more as long as nothing is published for a closed task (`Quiet.received_run`). The bus does
not enforce the latter: `publish` looks at the registered queues and the history only.
-/

namespace Orchestra

open Transition

/-- `asyncio.Queue(maxsize=512)`, with what its reader took from it; `none` is the sentinel. -/
structure EventQueue where
  taken : List (Option Json) := []
  items : List (Option Json) := []

namespace EventQueue

def maxsize : ℕ := 512

/-- `put_nowait`, with `QueueFull` passed over. -/
def putNowait (q : EventQueue) (item : Option Json) : EventQueue :=
  if q.items.length < maxsize then { q with items := q.items ++ [item] } else q

/-- `get`; a reader of an empty queue keeps waiting. -/
def get (q : EventQueue) : EventQueue :=
  match q.items with
  | [] => q
  | item :: rest => { taken := q.taken ++ [item], items := rest }

/-- Everything that was put into the queue. -/
def received (q : EventQueue) : List (Option Json) := q.taken ++ q.items

def receivedAt (queues : List EventQueue) (q : ℕ) : List (Option Json) :=
  ((queues[q]?).map received).getD []

end EventQueue

/-- `EventBus`, with the queues it handed out; a queue is known by its position. -/
structure LiveBus where
  replayBuffer : ℕ := 256
  history : KeyedTable (Prod.fst : String × List Json → String) := .empty
  subscribers : List (String × ℕ) := []
  closed : List String := []
  queues : List EventQueue := []

/-- Appending to a `deque(maxlen=n)`. -/
def dequeAppend (n : ℕ) (buf : List Json) (event : Json) : List Json :=
  (buf ++ [event]).drop ((buf ++ [event]).length - n)

namespace LiveBus

variable (bus : LiveBus)

/-- `replay`. -/
def replay (taskRunId : String) : List Json :=
  ((bus.history.find? taskRunId).map Prod.snd).getD []

def isClosed (taskRunId : String) : Bool := decide (taskRunId ∈ bus.closed)

/-- An item for every registered queue of the task. -/
def putAll (taskRunId : String) (item : Option Json) : List EventQueue :=
  bus.queues.mapIdx fun i q ↦
    if bus.subscribers.contains (taskRunId, i) then q.putNowait item else q

/-- `publish`. -/
def publish (taskRunId : String) (event : Json) : LiveBus :=
  { bus with
    queues := bus.putAll taskRunId (some event)
    history := bus.history.put
      (taskRunId, dequeAppend bus.replayBuffer (bus.replay taskRunId) event) }

/-- `close`. -/
def close (taskRunId : String) : LiveBus :=
  if taskRunId ∈ bus.closed then bus
  else
    { bus with
      closed := taskRunId :: bus.closed
      queues := bus.putAll taskRunId none }

/-- `subscribe`; the new queue comes last. -/
def subscribe (taskRunId : String) : LiveBus :=
  let q := (bus.replay taskRunId).foldl (fun q event ↦ q.putNowait (some event)) {}
  if taskRunId ∈ bus.closed then { bus with queues := bus.queues ++ [q.putNowait none] }
  else
    { bus with
      queues := bus.queues ++ [q]
      subscribers := (taskRunId, bus.queues.length) :: bus.subscribers }

/-- `unsubscribe`. -/
def unsubscribe (taskRunId : String) (q : ℕ) : LiveBus :=
  { bus with subscribers := bus.subscribers.filter fun s ↦ decide (s ≠ (taskRunId, q)) }

/-- A reader's `get`. -/
def get (q : ℕ) : LiveBus := { bus with queues := bus.queues.modify q EventQueue.get }

/-- A call on the bus, or a read from a queue. -/
inductive Op where
  | publish (taskRunId : String) (event : Json)
  | subscribe (taskRunId : String)
  | unsubscribe (taskRunId : String) (q : ℕ)
  | close (taskRunId : String)
  | get (q : ℕ)

def step : Op → LiveBus
  | .publish taskRunId event => bus.publish taskRunId event
  | .subscribe taskRunId => bus.subscribe taskRunId
  | .unsubscribe taskRunId q => bus.unsubscribe taskRunId q
  | .close taskRunId => bus.close taskRunId
  | .get q => bus.get q

/-- What the queue `q` received. -/
def received (q : ℕ) : List (Option Json) := EventQueue.receivedAt bus.queues q

/-- What a subscriber with the queue `q` is due from the operations after its subscription, as long
as its task is open. -/
def Op.live (taskRunId : String) (q : ℕ) : List Op → List (Option Json)
  | [] => []
  | .publish t event :: ops =>
    if t = taskRunId then some event :: live taskRunId q ops else live taskRunId q ops
  | .close t :: ops => if t = taskRunId then [none] else live taskRunId q ops
  | .unsubscribe t p :: ops => if t = taskRunId ∧ p = q then [] else live taskRunId q ops
  | .subscribe _ :: ops => live taskRunId q ops
  | .get _ :: ops => live taskRunId q ops

/-- What a subscriber is due: the history retained at its subscription, and then the sentinel if its
task is closed, or what happens from then on. -/
def due (taskRunId : String) (after : List Op) : List (Option Json) :=
  (bus.replay taskRunId).map some ++
    if bus.isClosed taskRunId then [none] else Op.live taskRunId bus.queues.length after

/-- Every subscriber of a run received what it is due, and a publication for a closed task changed
no queue and nothing of what later subscribers are replayed. -/
def DeliversExactly (ops : List Op) : Prop :=
  (∀ before taskRunId after, ops = before ++ .subscribe taskRunId :: after →
    (run step bus ops).received (run step bus before).queues.length =
      (run step bus before).due taskRunId after) ∧
  ∀ before taskRunId event after, ops = before ++ .publish taskRunId event :: after →
    (run step bus before).isClosed taskRunId = true →
      ((run step bus before).publish taskRunId event).queues = (run step bus before).queues ∧
        ((run step bus before).publish taskRunId event).replay taskRunId =
          (run step bus before).replay taskRunId

/-- The operation leaves no queue full. -/
def NoneFull (bus : LiveBus) (op : Op) : Prop :=
  ∀ q ∈ (bus.step op).queues, q.items.length < EventQueue.maxsize

/-- The operation does not publish for a closed task. -/
def InTime (bus : LiveBus) : Op → Prop
  | .publish taskRunId _ => bus.isClosed taskRunId = false
  | _ => True

instance (op : Op) : Decidable (bus.NoneFull op) := List.decidableBAll _ _

instance : (op : Op) → Decidable (bus.InTime op)
  | .publish taskRunId _ => inferInstanceAs (Decidable (bus.isClosed taskRunId = false))
  | .subscribe _ | .unsubscribe _ _ | .close _ | .get _ => isTrue trivial

end LiveBus

/-! ## One queue -/

namespace EventQueue

variable {q : EventQueue} {item : Option Json}

theorem received_putNowait : (q.putNowait item).received =
    q.received ++ if q.items.length < maxsize then [item] else [] := by
  rw [putNowait]
  split_ifs
  · exact (List.append_assoc _ _ _).symm
  · exact (List.append_nil _).symm

theorem length_le_putNowait : q.items.length ≤ (q.putNowait item).items.length := by
  rw [putNowait]
  split_ifs
  · rw [List.length_append]
    exact Nat.le_add_right _ _
  · exact le_rfl

@[simp] theorem received_get : q.get.received = q.received := by
  rw [get]
  split
  · rfl
  · next item rest h => rw [received, received, h, List.append_assoc, List.singleton_append]

theorem receivedAt_concat (queues : List EventQueue) (q : EventQueue) :
    receivedAt (queues ++ [q]) queues.length = q.received := by
  rw [receivedAt, List.getElem?_concat_length]
  rfl

/-- The history goes into the queue up to its size. -/
theorem foldl_putNowait (events : List Json) (hq : q.items.length ≤ maxsize) :
    events.foldl (fun q event ↦ q.putNowait (some event)) q =
      { q with items := q.items ++ (events.take (maxsize - q.items.length)).map some } := by
  induction events generalizing q with
  | nil => simp
  | cons event events ih =>
    rw [List.foldl_cons, putNowait]
    split_ifs with hroom
    · have hlength : (q.items ++ [some event]).length ≤ maxsize := by
        rw [List.length_append, List.length_singleton]
        exact hroom
      obtain ⟨left, hleft⟩ := Nat.exists_eq_add_of_lt hroom
      have hbefore : maxsize - q.items.length = left + 1 := by omega
      have hafter : maxsize - (q.items ++ [some event]).length = left := by
        rw [List.length_append, List.length_singleton]
        omega
      rw [ih hlength, hafter, hbefore, List.take_succ_cons, List.map_cons, List.append_assoc,
        List.singleton_append]
    · have hnone : maxsize - q.items.length = 0 := Nat.sub_eq_zero_of_le (not_lt.mp hroom)
      rw [ih hq, hnone, List.take_zero, List.take_zero]

end EventQueue

/-! ## One operation -/

namespace LiveBus

variable {bus : LiveBus} {taskRunId : String} {q : ℕ} {op : Op}

/-- A registered queue was handed out, and is registered for one task. -/
structure WellFormed (bus : LiveBus) : Prop where
  lt_length : ∀ t p, (t, p) ∈ bus.subscribers → p < bus.queues.length
  unique : ∀ t t' p, (t, p) ∈ bus.subscribers → (t', p) ∈ bus.subscribers → t = t'

/-- What an operation puts into the queue `q`. -/
def arrives (bus : LiveBus) (q : ℕ) : Op → List (Option Json)
  | .publish t event => if bus.subscribers.contains (t, q) then [some event] else []
  | .close t => if t ∉ bus.closed ∧ bus.subscribers.contains (t, q) then [none] else []
  | .subscribe _ => []
  | .unsubscribe _ _ => []
  | .get _ => []

/-- How full a queue is. -/
def fill (bus : LiveBus) (q : ℕ) : ℕ :=
  ((bus.queues[q]?).map fun queue ↦ queue.items.length).getD 0

theorem getElem?_putAll (bus : LiveBus) (taskRunId : String) (item : Option Json) (q : ℕ) :
    (bus.putAll taskRunId item)[q]? = (bus.queues[q]?).map fun queue ↦
      if bus.subscribers.contains (taskRunId, q) then queue.putNowait item else queue := by
  rw [putAll, List.getElem?_mapIdx]

theorem fill_eq (hq : q < bus.queues.length) : bus.fill q = (bus.queues[q]).items.length := by
  rw [fill, List.getElem?_eq_getElem hq]
  rfl

theorem received_putAll {item : Option Json} (hq : q < bus.queues.length) :
    EventQueue.receivedAt (bus.putAll taskRunId item) q = bus.received q ++
      if bus.subscribers.contains (taskRunId, q) ∧ bus.fill q < EventQueue.maxsize then [item]
      else [] := by
  rw [received, EventQueue.receivedAt, EventQueue.receivedAt, getElem?_putAll,
    List.getElem?_eq_getElem hq, fill_eq hq, Option.map_some, Option.map_some, Option.map_some,
    Option.getD_some, Option.getD_some]
  by_cases hregistered : bus.subscribers.contains (taskRunId, q) = true
  · rw [if_pos hregistered, EventQueue.received_putNowait]
    simp only [hregistered, true_and]
  · rw [if_neg hregistered, if_neg fun h ↦ hregistered h.1, List.append_nil]

/-- Where there is room afterwards, there was room before. -/
theorem room_of_putAll {item : Option Json} (hq : q < bus.queues.length)
    (hfull : ∀ p ∈ bus.putAll taskRunId item, p.items.length < EventQueue.maxsize) :
    bus.fill q < EventQueue.maxsize := by
  have hget := getElem?_putAll bus taskRunId item q
  rw [List.getElem?_eq_getElem hq, Option.map_some] at hget
  have hroom := hfull _ (List.mem_of_getElem? hget)
  rw [fill_eq hq]
  split_ifs at hroom
  · exact EventQueue.length_le_putNowait.trans_lt hroom
  · exact hroom

theorem length_le_step : bus.queues.length ≤ (bus.step op).queues.length := by
  cases op with
  | publish t event => simp [step, publish, putAll]
  | subscribe t =>
    rw [step, subscribe]
    split_ifs <;> simp
  | unsubscribe t p => exact le_rfl
  | close t =>
    rw [step, close]
    split_ifs <;> simp [putAll]
  | get p => simp [step, get]

/-- **The step lemma for a queue**, full or not: what arrives goes in if there is room. -/
theorem received_step_eq (hq : q < bus.queues.length) : (bus.step op).received q =
    bus.received q ++ if bus.fill q < EventQueue.maxsize then bus.arrives q op else [] := by
  cases op with
  | publish t event =>
    rw [step, arrives]
    refine (received_putAll hq).trans ?_
    by_cases hroom : bus.fill q < EventQueue.maxsize <;> simp [hroom]
  | subscribe t =>
    rw [arrives, ite_self, List.append_nil, step, subscribe]
    split_ifs <;> simp only [received, EventQueue.receivedAt, List.getElem?_append_left hq]
  | unsubscribe t p =>
    rw [arrives, ite_self, List.append_nil]
    rfl
  | close t =>
    rw [step, close, arrives]
    by_cases hclosed : t ∈ bus.closed
    · simp [hclosed]
    · rw [if_neg hclosed]
      refine (received_putAll hq).trans ?_
      by_cases hroom : bus.fill q < EventQueue.maxsize <;> simp [hroom, hclosed]
  | get p =>
    rw [arrives, ite_self, List.append_nil, step, get, received, received, EventQueue.receivedAt,
      EventQueue.receivedAt, List.getElem?_modify, List.getElem?_eq_getElem hq]
    split_ifs <;> simp

/-- The step lemma where no queue is full. -/
theorem received_step (hq : q < bus.queues.length) (hfull : NoneFull bus op) :
    (bus.step op).received q = bus.received q ++ bus.arrives q op := by
  rw [received_step_eq hq]
  by_cases hroom : bus.fill q < EventQueue.maxsize
  · rw [if_pos hroom]
  · -- only a read makes room, and nothing arrives with it
    have harrives : bus.arrives q op = [] := by
      cases op with
      | publish t event => exact absurd (room_of_putAll hq hfull) hroom
      | close t =>
        rw [NoneFull, step, close] at hfull
        split_ifs at hfull with hclosed
        · exact if_neg fun h ↦ h.1 hclosed
        · exact absurd (room_of_putAll hq hfull) hroom
      | subscribe t | unsubscribe t p | get p => rfl
    rw [if_neg hroom, harrives]

/-- A registration of a queue that exists is only ever withdrawn. -/
theorem mem_subscribers_step (hq : q < bus.queues.length) :
    (taskRunId, q) ∈ (bus.step op).subscribers ↔
      (taskRunId, q) ∈ bus.subscribers ∧ op ≠ .unsubscribe taskRunId q := by
  cases op with
  | publish t event => simp [step, publish]
  | subscribe t =>
    rw [step, subscribe]
    split_ifs
    · simp
    · simp [hq.ne]
  | unsubscribe t p =>
    simp only [step, unsubscribe, List.mem_filter, decide_eq_true_eq, ne_eq, Op.unsubscribe.injEq,
      Prod.mk.injEq]
    rw [eq_comm (a := taskRunId), eq_comm (a := q)]
  | close t =>
    rw [step, close]
    split_ifs <;> simp
  | get p => simp [step, get]

theorem mem_closed_step :
    taskRunId ∈ (bus.step op).closed ↔ taskRunId ∈ bus.closed ∨ op = .close taskRunId := by
  cases op with
  | publish t event => simp [step, publish]
  | subscribe t =>
    rw [step, subscribe]
    split_ifs <;> simp
  | unsubscribe t p => simp [step, unsubscribe]
  | close t =>
    rw [step, close]
    split_ifs with h
    · refine ⟨Or.inl, ?_⟩
      rintro (hmem | heq)
      · exact hmem
      · rwa [← Op.close.inj heq]
    · simp [or_comm, eq_comm]
  | get p => simp [step, get]

/-- Only a subscription registers a queue that was not handed out before, and it registers one. -/
theorem mem_subscribers_step_new (hwell : bus.WellFormed) (hq : ¬q < bus.queues.length)
    (hs : (taskRunId, q) ∈ (bus.step op).subscribers) :
    op = .subscribe taskRunId ∧ q = bus.queues.length := by
  have hnot (t : String) : (t, q) ∉ bus.subscribers := fun hmem ↦ hq (hwell.lt_length t q hmem)
  cases op with
  | subscribe t =>
    rw [step, subscribe] at hs
    split_ifs at hs
    · exact absurd hs (hnot _)
    · obtain ⟨rfl, rfl⟩ := Prod.mk.inj ((List.mem_cons.mp hs).resolve_right (hnot _))
      exact ⟨rfl, rfl⟩
  | publish t event => exact absurd hs (hnot _)
  | unsubscribe t p => exact absurd (List.mem_of_mem_filter hs) (hnot _)
  | close t =>
    rw [step, close] at hs
    split_ifs at hs <;> exact absurd hs (hnot _)
  | get p => exact absurd hs (hnot _)

theorem length_lt_subscribe :
    bus.queues.length < (bus.step (.subscribe taskRunId)).queues.length := by
  rw [step, subscribe]
  split_ifs <;> simp

theorem WellFormed.step (h : bus.WellFormed) : (bus.step op).WellFormed := by
  constructor
  · intro t p hs
    by_cases hp : p < bus.queues.length
    · exact hp.trans_le length_le_step
    · obtain ⟨rfl, rfl⟩ := mem_subscribers_step_new h hp hs
      exact length_lt_subscribe
  · intro t t' p hs hs'
    by_cases hp : p < bus.queues.length
    · exact h.unique t t' p ((mem_subscribers_step hp).mp hs).1 ((mem_subscribers_step hp).mp hs').1
    · have hop := (mem_subscribers_step_new h hp hs).1
      exact Op.subscribe.inj (hop.symm.trans (mem_subscribers_step_new h hp hs').1)

/-! ## Runs -/

/-- The queue is not registered for an open task. -/
def Quiet (bus : LiveBus) (q : ℕ) : Prop := ∀ t, (t, q) ∈ bus.subscribers → t ∈ bus.closed

/-- The queue is registered for one task, which is open. -/
structure Registered (bus : LiveBus) (taskRunId : String) (q : ℕ) : Prop where
  mem : (taskRunId, q) ∈ bus.subscribers
  only : ∀ t, (t, q) ∈ bus.subscribers → t = taskRunId
  isOpen : taskRunId ∉ bus.closed

theorem Quiet.step (h : bus.Quiet q) (hq : q < bus.queues.length) : (bus.step op).Quiet q := by
  intro t ht
  exact mem_closed_step.mpr (.inl (h t ((mem_subscribers_step hq).mp ht).1))

/-- In time nothing arrives at a quiet queue. -/
theorem Quiet.arrives_eq_nil (h : bus.Quiet q) (hop : bus.InTime op) : bus.arrives q op = [] := by
  cases op with
  | publish t event =>
    refine if_neg fun hs ↦ ?_
    exact absurd (h t (List.contains_iff_mem.mp hs)) (of_decide_eq_false hop)
  | close t => exact if_neg fun hs ↦ hs.1 (h t (List.contains_iff_mem.mp hs.2))
  | subscribe t => rfl
  | unsubscribe t p => rfl
  | get p => rfl

theorem Quiet.received_run (h : bus.Quiet q) (hq : q < bus.queues.length) {ops : List Op}
    (hops : AllSteps LiveBus.step (fun bus op ↦ bus.NoneFull op ∧ bus.InTime op) bus ops) :
    (run LiveBus.step bus ops).received q = bus.received q := by
  induction ops generalizing bus with
  | nil => rfl
  | cons op ops ih =>
    obtain ⟨⟨hfull, htime⟩, hrest⟩ := hops
    rw [run_cons, ih (h.step hq) (hq.trans_le length_le_step) hrest, received_step hq hfull,
      h.arrives_eq_nil htime, List.append_nil]

/-- Only a close of the task and an unsubscription of the queue end a registration. -/
theorem Registered.step (h : bus.Registered taskRunId q) (hq : q < bus.queues.length)
    (hclose : op ≠ .close taskRunId) (hunsubscribe : op ≠ .unsubscribe taskRunId q) :
    (bus.step op).Registered taskRunId q where
  mem := (mem_subscribers_step hq).mpr ⟨h.mem, hunsubscribe⟩
  only t ht := h.only t ((mem_subscribers_step hq).mp ht).1
  isOpen hclosed := (mem_closed_step.mp hclosed).elim h.isOpen hclose

/-- **A registered queue receives what its subscriber is due.** -/
theorem Registered.received_run (h : bus.Registered taskRunId q) (hq : q < bus.queues.length)
    {ops : List Op}
    (hops : AllSteps LiveBus.step (fun bus op ↦ bus.NoneFull op ∧ bus.InTime op) bus ops) :
    (run LiveBus.step bus ops).received q = bus.received q ++ Op.live taskRunId q ops := by
  induction ops generalizing bus with
  | nil => exact (List.append_nil _).symm
  | cons op ops ih =>
    obtain ⟨⟨hfull, htime⟩, hrest⟩ := hops
    have hq' : q < (bus.step op).queues.length := hq.trans_le length_le_step
    have hmem : ∀ t, (t, q) ∈ bus.subscribers ↔ t = taskRunId := fun t ↦
      ⟨h.only t, fun heq ↦ heq ▸ h.mem⟩
    have hcontains : ∀ t, bus.subscribers.contains (t, q) = true ↔ t = taskRunId := fun t ↦
      List.contains_iff_mem.trans (hmem t)
    have hstep := received_step hq hfull
    rw [run_cons]
    -- the two operations that end the registration leave a quiet queue
    have hlast (hquiet : (bus.step op).Quiet q) :
        (run LiveBus.step (bus.step op) ops).received q =
          bus.received q ++ bus.arrives q op := by
      rw [hquiet.received_run hq' hrest, hstep]
    have hgo (hclose : op ≠ .close taskRunId) (hunsubscribe : op ≠ .unsubscribe taskRunId q) :
        (run LiveBus.step (bus.step op) ops).received q =
          bus.received q ++ (bus.arrives q op ++ Op.live taskRunId q ops) := by
      rw [ih (h.step hq hclose hunsubscribe) hq' hrest, hstep, List.append_assoc]
    cases op with
    | publish t event =>
      rw [hgo Op.noConfusion Op.noConfusion]
      simp only [arrives, Op.live, hcontains]
      split_ifs <;> rfl
    | subscribe t =>
      rw [hgo Op.noConfusion Op.noConfusion, arrives, Op.live, List.nil_append]
    | unsubscribe t p =>
      by_cases heq : t = taskRunId ∧ p = q
      · obtain ⟨rfl, rfl⟩ := heq
        rw [hlast, arrives, Op.live, if_pos ⟨rfl, rfl⟩]
        intro t' ht'
        obtain ⟨hs, hne⟩ := (mem_subscribers_step hq).mp ht'
        exact absurd (by rw [(hmem t').mp hs]) hne
      · rw [hgo Op.noConfusion fun hop ↦ heq (Op.unsubscribe.inj hop), arrives, Op.live, if_neg heq,
          List.nil_append]
    | close t =>
      by_cases heq : t = taskRunId
      · subst heq
        rw [hlast, arrives, Op.live, if_pos rfl, if_pos ⟨h.isOpen, (hcontains t).mpr rfl⟩]
        intro t' ht'
        rw [(hmem t').mp ((mem_subscribers_step hq).mp ht').1]
        exact mem_closed_step.mpr (.inr rfl)
      · rw [hgo (fun hop ↦ heq (Op.close.inj hop)) Op.noConfusion, arrives, Op.live, if_neg heq,
          if_neg fun hs ↦ heq ((hcontains t).mp hs.2), List.nil_append]
    | get p => rw [hgo Op.noConfusion Op.noConfusion, arrives, Op.live, List.nil_append]

/-! ## Subscribing -/

theorem WellFormed.length_not_mem (h : bus.WellFormed) (t : String) :
    (t, bus.queues.length) ∉ bus.subscribers := fun hs ↦ (h.lt_length _ _ hs).false

/-- A new subscriber starts with the history, as far as it fits, and the sentinel if its task is
closed and the history leaves room. -/
theorem received_subscribe_eq (bus : LiveBus) (taskRunId : String) :
    (bus.subscribe taskRunId).received bus.queues.length =
      ((bus.replay taskRunId).take EventQueue.maxsize).map some ++
        if taskRunId ∈ bus.closed ∧ (bus.replay taskRunId).length < EventQueue.maxsize then [none]
        else [] := by
  have hfold := EventQueue.foldl_putNowait (q := {}) (bus.replay taskRunId) (Nat.zero_le _)
  simp only [List.length_nil, Nat.sub_zero, List.nil_append] at hfold
  have hroom : (((bus.replay taskRunId).take EventQueue.maxsize).map some).length <
      EventQueue.maxsize ↔ (bus.replay taskRunId).length < EventQueue.maxsize := by
    rw [List.length_map, List.length_take, min_lt_iff, or_iff_right (lt_irrefl _)]
  rw [subscribe, hfold]
  by_cases hclosed : taskRunId ∈ bus.closed
  · rw [if_pos hclosed, received]
    dsimp only
    rw [EventQueue.receivedAt_concat, EventQueue.received_putNowait]
    simp only [hroom, hclosed, true_and]
    rfl
  · rw [if_neg hclosed, if_neg fun h ↦ hclosed h.1, List.append_nil, received]
    exact EventQueue.receivedAt_concat _ _

theorem room_of_subscribe (hfull : NoneFull bus (.subscribe taskRunId)) :
    (bus.replay taskRunId).length < EventQueue.maxsize := by
  have hfold := EventQueue.foldl_putNowait (q := {}) (bus.replay taskRunId) (Nat.zero_le _)
  simp only [List.length_nil, Nat.sub_zero, List.nil_append] at hfold
  rw [NoneFull, step, subscribe, hfold] at hfull
  have hlength : (((bus.replay taskRunId).take EventQueue.maxsize).map some).length <
      EventQueue.maxsize := by
    split_ifs at hfull
    · exact EventQueue.length_le_putNowait.trans_lt
        (hfull _ (List.mem_append_right _ (List.mem_singleton_self _)))
    · exact hfull _ (List.mem_append_right _ (List.mem_singleton_self _))
  rw [List.length_map, List.length_take] at hlength
  exact (min_lt_iff.mp hlength).resolve_left (lt_irrefl _)

/-- Where no queue is full, it starts with the whole of the history. -/
theorem received_subscribe (hfull : NoneFull bus (.subscribe taskRunId)) :
    (bus.subscribe taskRunId).received bus.queues.length =
      (bus.replay taskRunId).map some ++ if bus.isClosed taskRunId then [none] else [] := by
  have hroom := room_of_subscribe hfull
  rw [received_subscribe_eq, List.take_of_length_le hroom.le, isClosed]
  simp only [hroom, and_true, decide_eq_true_eq]

/-- **A subscriber receives what it is due.** -/
theorem received_run_subscribe (h : bus.WellFormed) {after : List Op}
    (hops : AllSteps step (fun bus op ↦ bus.NoneFull op ∧ bus.InTime op) bus
      (.subscribe taskRunId :: after)) :
    (run step (bus.subscribe taskRunId) after).received bus.queues.length =
      bus.due taskRunId after := by
  obtain ⟨⟨hfull, -⟩, hrest⟩ := hops
  have hstart := received_subscribe hfull
  have hq : bus.queues.length < (bus.subscribe taskRunId).queues.length := length_lt_subscribe
  rw [due]
  by_cases hclosed : taskRunId ∈ bus.closed
  · have hquiet : (bus.subscribe taskRunId).Quiet bus.queues.length := by
      rw [subscribe, if_pos hclosed]
      exact fun t ht ↦ absurd ht (h.length_not_mem t)
    rw [hquiet.received_run hq hrest, hstart]
    split_ifs with hdecide
    · rfl
    · exact absurd (decide_eq_true hclosed) hdecide
  · have hregistered : (bus.subscribe taskRunId).Registered taskRunId bus.queues.length := by
      rw [subscribe, if_neg hclosed]
      refine ⟨List.mem_cons_self, fun t ht ↦ ?_, hclosed⟩
      obtain heq | ht := List.mem_cons.mp ht
      · exact (Prod.mk.inj heq).1
      · exact absurd ht (h.length_not_mem t)
    rw [hregistered.received_run hq hrest, hstart]
    rw [isClosed, decide_eq_false hclosed]
    simp

/-- **Event stream delivery.** In every run that leaves no queue full and publishes nothing for a
closed task, each subscriber receives the history retained at its subscription, what is published
while it is subscribed and its task is open, and one sentinel if its task is closed by then, and
nothing else changes it. -/
theorem deliversExactly (replayBuffer : ℕ) (ops : List Op)
    (hfull : AllSteps step NoneFull { replayBuffer := replayBuffer } ops)
    (htime : AllSteps step InTime { replayBuffer := replayBuffer } ops) :
    DeliversExactly { replayBuffer := replayBuffer } ops := by
  have hops := allSteps_and.mpr ⟨hfull, htime⟩
  refine ⟨?_, ?_⟩
  · rintro before taskRunId after rfl
    have hwell : (run step { replayBuffer := replayBuffer } before).WellFormed := by
      refine run_invariant (fun _ _ h ↦ h.step) ?_ _
      exact ⟨fun _ _ hs ↦ absurd hs List.not_mem_nil, fun _ _ _ hs ↦ absurd hs List.not_mem_nil⟩
    rw [run_append, run_cons]
    exact received_run_subscribe hwell (allSteps_append.mp hops).2
  · rintro before taskRunId event after rfl hclosed
    exact absurd hclosed (by rw [htime.at_prefix]; exact Bool.false_ne_true)

/-- A subscriber that joins after one event and sees another before the close. -/
theorem deliversExactly_of_two_events :
    DeliversExactly {} [.publish "t" (.int 1), .subscribe "t", .publish "t" (.int 2), .close "t"] :=
  deliversExactly 256 [.publish "t" (.int 1), .subscribe "t", .publish "t" (.int 2), .close "t"]
    (by decide) (by decide)

/-- A publication after the close: the subscriber gets an event behind the sentinel, and the
history grows. -/
theorem not_deliversExactly_of_late_event :
    let ops : List Op := [.subscribe "t", .close "t", .publish "t" (.int 1)]
    AllSteps step NoneFull {} ops ∧ ¬DeliversExactly {} ops := by
  intro ops
  refine ⟨by decide, fun h ↦ ?_⟩
  have hdue := h.1 [] "t" [.close "t", .publish "t" (.int 1)] rfl
  exact absurd hdue (by decide)

/-! ## Publishing for a closed task -/

theorem replay_publish (event : Json) : (bus.publish taskRunId event).replay taskRunId =
    dequeAppend bus.replayBuffer (bus.replay taskRunId) event := by
  rw [replay, publish, KeyedTable.find?_put, if_pos rfl]
  rfl

/-- The bus has no guard: a publication for a closed task goes into a history that has room. -/
theorem not_deliversExactly_of_late {ops before after : List Op} {event : Json}
    (hops : ops = before ++ .publish taskRunId event :: after)
    (hclosed : (run step bus before).isClosed taskRunId = true)
    (hroom : ((run step bus before).replay taskRunId).length < (run step bus before).replayBuffer) :
    ¬DeliversExactly bus ops := by
  intro h
  have hsame := (h.2 before taskRunId event after hops hclosed).2
  rw [replay_publish, dequeAppend, List.length_append, List.length_singleton,
    Nat.sub_eq_zero_of_le (Nat.succ_le_of_lt hroom), List.drop_zero] at hsame
  exact absurd (congrArg List.length hsame) (by simp)

/-! ## The bus of the engine

The runs of the coordinator see the bus through `publish` and `close` only. Their model keeps every
event and computes the retained ones on replay; the queues it carries are the registered ones. -/

/-- The engine's bus and this one hold the same retained histories and registered queues. -/
structure Mirrors (bus : LiveBus) (engine : EventBus) : Prop where
  replayBuffer_eq : engine.replayBuffer = bus.replayBuffer
  replay_eq : ∀ t, engine.replay t = bus.replay t
  closed_eq : engine.closed = bus.closed
  subscribers_eq : engine.subscribers = bus.subscribers.map fun s ↦
    ⟨s.1, ((bus.queues[s.2]?).map EventQueue.items).getD []⟩

variable {engine : EventBus}

/-- Both put an item into the registered queues of a task. -/
theorem Mirrors.broadcast (h : bus.Mirrors engine) (hwell : bus.WellFormed)
    (item : Option Json) : engine.broadcast taskRunId item = bus.subscribers.map fun s ↦
      ⟨s.1, (((bus.putAll taskRunId item)[s.2]?).map EventQueue.items).getD []⟩ := by
  rw [EventBus.broadcast, h.subscribers_eq, List.map_map]
  refine List.map_congr_left fun ⟨t, p⟩ hs ↦ ?_
  have hput : t = taskRunId ↔ bus.subscribers.contains (taskRunId, p) = true :=
    ⟨fun heq ↦ List.contains_iff_mem.mpr (heq ▸ hs),
      fun hmem ↦ hwell.unique t taskRunId p hs (List.contains_iff_mem.mp hmem)⟩
  simp only [Function.comp_apply, putAll, List.getElem?_mapIdx,
    List.getElem?_eq_getElem (hwell.lt_length t p hs), Option.map_some, Option.getD_some, hput]
  split_ifs
  · rw [Subscriber.put, EventQueue.putNowait]
    split_ifs with hold hnew hnew
    · rfl
    · exact absurd hold hnew
    · exact absurd hnew hold
    · rfl
  · rfl

/-- Dropping what is not retained before an append drops nothing that is retained after it. -/
theorem dequeAppend_drop (n : ℕ) (events : List Json) (event : Json) :
    dequeAppend n (events.drop (events.length - n)) event =
      (events ++ [event]).drop ((events ++ [event]).length - n) := by
  rw [dequeAppend, ← List.drop_append_of_le_length (Nat.sub_le _ _), List.drop_drop,
    List.length_drop]
  congr 1
  simp only [List.length_append, List.length_singleton]
  omega

theorem Mirrors.publish (h : bus.Mirrors engine) (hwell : bus.WellFormed) (event : Json) :
    (bus.publish taskRunId event).Mirrors (engine.publish taskRunId event) where
  replayBuffer_eq := h.replayBuffer_eq
  replay_eq t := by
    by_cases ht : taskRunId = t
    · subst ht
      rw [replay_publish, ← h.replay_eq, ← h.replayBuffer_eq]
      refine Eq.trans ?_ (dequeAppend_drop _ _ _).symm
      simp [EventBus.replay, EventBus.publish]
    · have hother : (bus.publish taskRunId event).replay t = bus.replay t := by
        rw [replay, LiveBus.publish, KeyedTable.find?_put, if_neg ht]
        rfl
      rw [hother, ← h.replay_eq]
      simp [EventBus.replay, EventBus.publish, ht]
  closed_eq := h.closed_eq
  subscribers_eq := h.broadcast hwell (some event)

theorem Mirrors.close (h : bus.Mirrors engine) (hwell : bus.WellFormed) :
    (bus.close taskRunId).Mirrors (engine.close taskRunId) := by
  rw [LiveBus.close, EventBus.close, h.closed_eq]
  split_ifs
  · exact h
  · exact ⟨h.replayBuffer_eq, h.replay_eq, rfl, h.broadcast hwell none⟩

end LiveBus

end Orchestra
