import Mathlib.Data.List.Infix
import Orchestra.Streaming.Subscriptions

/-!
# The sentinel

`close` puts the sentinel behind the events in every registered queue, and `subscribe` puts it
behind the history when the task is closed. Both use `put_nowait` and pass over a full queue, so a
queue that is full at that moment never gets a sentinel: it is registered for no other task, a
second `close` returns at once, and a queue that is handed out late is not registered at all.

`fits_of_ends` and `ends_of_fits` say this of one operation. The sentinel that a queue did receive
stays, and its reader comes to it after as many reads as the queue has room for (`taken_run`).
-/

namespace Orchestra

open Transition

namespace LiveBus

variable {bus : LiveBus} {taskRunId : String} {q : ℕ} {op : Op}

/-! ## What stays in a queue -/

/-- What a queue received stays received. -/
theorem received_prefix_step : bus.received q <+: (bus.step op).received q := by
  by_cases hq : q < bus.queues.length
  · rw [received_step_eq hq]
    exact List.prefix_append _ _
  · have hnone : bus.received q = [] := by
      rw [received, EventQueue.receivedAt, List.getElem?_eq_none (not_lt.mp hq)]
      rfl
    rw [hnone]
    exact List.nil_prefix

theorem mem_received_run {item : Option Json} (h : item ∈ bus.received q) (ops : List Op) :
    item ∈ (run step bus ops).received q :=
  run_invariant (I := fun bus : LiveBus ↦ item ∈ bus.received q)
    (fun _ _ hmem ↦ received_prefix_step.subset hmem) h ops

/-! ## Reading -/

/-- What the reader of a queue took. -/
def takenBy (bus : LiveBus) (q : ℕ) : List (Option Json) :=
  ((bus.queues[q]?).map EventQueue.taken).getD []

def Op.isGet (q : ℕ) : Op → Bool
  | .get p => decide (p = q)
  | .publish _ _ | .subscribe _ | .unsubscribe _ _ | .close _ => false

/-- How often the reader of a queue reads. -/
def reads (q : ℕ) (ops : List Op) : ℕ := ops.countP (Op.isGet q)

/-- The queue afterwards, when nobody reads it: more items may have come. -/
def Appended (queue queue' : EventQueue) : Prop :=
  queue'.taken = queue.taken ∧ queue.items <+: queue'.items

theorem appended_rfl (queue : EventQueue) : Appended queue queue := ⟨rfl, List.prefix_rfl⟩

theorem appended_putNowait (queue : EventQueue) (item : Option Json) :
    Appended queue (queue.putNowait item) := by
  rw [EventQueue.putNowait]
  split_ifs
  · exact ⟨rfl, List.prefix_append _ _⟩
  · exact appended_rfl queue

theorem appended_putAll {queue : EventQueue} (h : bus.queues[q]? = some queue)
    (taskRunId : String) (item : Option Json) :
    ∃ queue', (bus.putAll taskRunId item)[q]? = some queue' ∧ Appended queue queue' := by
  rw [getElem?_putAll, h]
  refine ⟨_, rfl, ?_⟩
  split_ifs
  · exact appended_putNowait queue item
  · exact appended_rfl queue

/-- A queue is read at its head, and every other operation only appends. -/
theorem queue_step {queue : EventQueue} (h : bus.queues[q]? = some queue) (op : Op) :
    ∃ queue', (bus.step op).queues[q]? = some queue' ∧
      if Op.isGet q op then queue' = queue.get else Appended queue queue' := by
  have hq : q < bus.queues.length := (List.getElem?_eq_some_iff.mp h).1
  cases op with
  | publish t event => exact appended_putAll h t (some event)
  | subscribe t =>
    refine ⟨queue, ?_, appended_rfl queue⟩
    rw [step, subscribe]
    split_ifs <;> exact (List.getElem?_append_left hq).trans h
  | unsubscribe t p => exact ⟨queue, h, appended_rfl queue⟩
  | close t =>
    rw [step, close]
    by_cases hclosed : t ∈ bus.closed
    · rw [if_pos hclosed]
      exact ⟨queue, h, appended_rfl queue⟩
    · rw [if_neg hclosed]
      exact appended_putAll h t none
  | get p =>
    rw [step, get, List.getElem?_modify, h]
    by_cases hp : p = q
    · exact ⟨queue.get, by simp [hp], by simp [Op.isGet, hp]⟩
    · exact ⟨queue, by simp [hp], by simp [Op.isGet, hp, appended_rfl]⟩

/-- The sentinel was taken from the queue or is among its first `k` items. -/
def Within (bus : LiveBus) (q k : ℕ) : Prop :=
  ∃ queue, bus.queues[q]? = some queue ∧ (none ∈ queue.taken ∨ none ∈ queue.items.take k)

theorem within_get {queue : EventQueue} {k : ℕ}
    (h : none ∈ queue.taken ∨ none ∈ queue.items.take k) :
    none ∈ queue.get.taken ∨ none ∈ queue.get.items.take (k - 1) := by
  rw [EventQueue.get]
  rcases h with htaken | hitems
  · left
    split
    · exact htaken
    · exact List.mem_append_left _ htaken
  · cases hlist : queue.items with
    | nil =>
      rw [hlist, List.take_nil] at hitems
      cases hitems
    | cons item rest =>
      rw [hlist] at hitems
      cases k with
      | zero => cases hitems
      | succ k =>
        rcases List.mem_cons.mp hitems with hitem | hrest
        · exact Or.inl (List.mem_append_right _ (List.mem_singleton.mpr hitem))
        · exact Or.inr hrest

/-- A read brings the sentinel closer, and nothing else moves it away. -/
theorem Within.step {k : ℕ} (h : bus.Within q k) (op : Op) :
    (bus.step op).Within q (k - if Op.isGet q op then 1 else 0) := by
  obtain ⟨queue, hqueue, hwithin⟩ := h
  obtain ⟨queue', hqueue', hstep⟩ := queue_step hqueue op
  refine ⟨queue', hqueue', ?_⟩
  split_ifs at hstep ⊢
  · rw [hstep]
    exact within_get hwithin
  · obtain ⟨htaken', hitems'⟩ := hstep
    rw [htaken']
    exact hwithin.imp_right fun hitems ↦ (hitems'.take k).subset hitems

theorem Within.run {k : ℕ} (h : bus.Within q k) (ops : List Op) :
    (Transition.run LiveBus.step bus ops).Within q (k - reads q ops) := by
  induction ops generalizing bus k with
  | nil => exact h
  | cons op ops ih =>
    have hnext := ih (h.step op)
    rw [Nat.sub_sub, add_comm] at hnext
    rw [run_cons, reads, List.countP_cons]
    exact hnext

/-- **The reader comes to the sentinel** once it has read as often as there are items now, whatever
happens in between. -/
theorem taken_run (h : none ∈ bus.received q) {ops : List Op} (hreads : bus.fill q ≤ reads q ops) :
    none ∈ (run step bus ops).takenBy q := by
  have hstart : bus.Within q (bus.fill q) := by
    rw [received, EventQueue.receivedAt] at h
    rw [fill]
    cases hqueue : bus.queues[q]? with
    | none =>
      rw [hqueue] at h
      cases h
    | some queue =>
      rw [hqueue] at h
      refine ⟨queue, hqueue, ?_⟩
      rw [Option.map_some, Option.getD_some, List.take_length]
      exact List.mem_append.mp h
  obtain ⟨queue, hqueue, hwithin⟩ := hstart.run ops
  rw [Nat.sub_eq_zero_of_le hreads, List.take_zero] at hwithin
  rw [takenBy, hqueue]
  exact hwithin.resolve_right List.not_mem_nil

/-! ## The sentinel of a task -/

/-- The operation leaves a sentinel where it has to: `close` in every registered queue of the task,
`subscribe` in the new queue if the task is closed. -/
def Ends (bus : LiveBus) : Op → Prop
  | .close t => ∀ q, (t, q) ∈ bus.subscribers → none ∈ (bus.step (.close t)).received q
  | .subscribe t => t ∈ bus.closed → none ∈ (bus.step (.subscribe t)).received bus.queues.length
  | .publish _ _ | .unsubscribe _ _ | .get _ => True

/-- There is room for the sentinel: the first `close` of a task finds none of its registered queues
full, and a subscriber of a closed task is replayed less than a full queue. -/
def Fits (bus : LiveBus) : Op → Prop
  | .close t => t ∉ bus.closed →
      ∀ s ∈ bus.subscribers, s.1 = t → bus.fill s.2 < EventQueue.maxsize
  | .subscribe t => t ∈ bus.closed → (bus.replay t).length < EventQueue.maxsize
  | .publish _ _ | .unsubscribe _ _ | .get _ => True

instance (bus : LiveBus) : DecidablePred bus.Fits
  | .close _ => inferInstanceAs (Decidable (_ → ∀ _ ∈ _, _ → _))
  | .subscribe _ => inferInstanceAs (Decidable (_ → _))
  | .publish _ _ | .unsubscribe _ _ | .get _ => isTrue trivial

/-- No queue that is registered for an open task has a sentinel. -/
structure Tidy (bus : LiveBus) : Prop extends bus.WellFormed where
  closed_of_sentinel : ∀ t q, (t, q) ∈ bus.subscribers → none ∈ bus.received q → t ∈ bus.closed

theorem none_mem_arrives (h : none ∈ bus.arrives q op) :
    ∃ t, op = .close t ∧ t ∉ bus.closed ∧ (t, q) ∈ bus.subscribers := by
  cases op with
  | publish t event =>
    rw [arrives] at h
    split_ifs at h
    · cases List.mem_singleton.mp h
    · cases h
  | close t =>
    rw [arrives] at h
    split_ifs at h with hcond
    · exact ⟨t, rfl, hcond.1, List.contains_iff_mem.mp hcond.2⟩
    · cases h
  | subscribe t | unsubscribe t p | get p => cases h

theorem none_not_mem_replay (events : List Json) (n : ℕ) : none ∉ (events.take n).map some := by
  intro h
  obtain ⟨event, -, heq⟩ := List.mem_map.mp h
  cases heq

theorem Tidy.step (h : bus.Tidy) (op : Op) : (bus.step op).Tidy where
  toWellFormed := h.toWellFormed.step
  closed_of_sentinel := by
    intro t q hs hsentinel
    by_cases hq : q < bus.queues.length
    · have hs' := ((mem_subscribers_step hq).mp hs).1
      rw [received_step_eq hq, List.mem_append] at hsentinel
      refine mem_closed_step.mpr ?_
      rcases hsentinel with hbefore | hnew
      · exact Or.inl (h.closed_of_sentinel t q hs' hbefore)
      · split_ifs at hnew
        · obtain ⟨t', rfl, -, hs''⟩ := none_mem_arrives hnew
          rw [h.unique t t' q hs' hs'']
          exact Or.inr rfl
        · cases hnew
    · obtain ⟨rfl, rfl⟩ := mem_subscribers_step_new h.toWellFormed hq hs
      by_contra hopen
      have hopen' : t ∉ bus.closed := fun hclosed ↦ hopen (mem_closed_step.mpr (Or.inl hclosed))
      rw [LiveBus.step, received_subscribe_eq, if_neg fun hc ↦ hopen' hc.1, List.append_nil]
        at hsentinel
      exact none_not_mem_replay _ _ hsentinel

/-- A queue that is registered for a closed task has a sentinel. -/
def Closing (bus : LiveBus) : Prop :=
  ∀ t q, (t, q) ∈ bus.subscribers → t ∈ bus.closed → none ∈ bus.received q

/-- A close that finds room reaches every registered queue. -/
theorem none_mem_close (hwell : bus.WellFormed) (hopen : taskRunId ∉ bus.closed)
    (hfits : bus.Fits (.close taskRunId)) (hs : (taskRunId, q) ∈ bus.subscribers) :
    none ∈ (bus.step (.close taskRunId)).received q := by
  rw [received_step_eq (hwell.lt_length _ _ hs), if_pos (hfits hopen _ hs rfl), arrives,
    if_pos ⟨hopen, List.contains_iff_mem.mpr hs⟩]
  exact List.mem_append_right _ (List.mem_singleton_self _)

theorem Closing.step (h : bus.Closing) (hwell : bus.WellFormed) {op : Op} (hfits : bus.Fits op) :
    (bus.step op).Closing := by
  intro t q hs hclosed
  by_cases hq : q < bus.queues.length
  · have hs' := ((mem_subscribers_step hq).mp hs).1
    by_cases hbefore : t ∈ bus.closed
    · exact received_prefix_step.subset (h t q hs' hbefore)
    · obtain rfl := (mem_closed_step.mp hclosed).resolve_left hbefore
      exact none_mem_close hwell hbefore hfits hs'
  · -- a queue that is handed out for a closed task is not registered
    obtain ⟨rfl, rfl⟩ := mem_subscribers_step_new hwell hq hs
    have hbefore := (mem_closed_step.mp hclosed).resolve_right Op.noConfusion
    rw [LiveBus.step, subscribe, if_pos hbefore] at hs
    exact absurd hs (hwell.length_not_mem t)

/-- **Enough room ends every subscription.** -/
theorem ends_of_fits (hwell : bus.WellFormed) (hclosing : bus.Closing) (hfits : bus.Fits op) :
    bus.Ends op := by
  cases op with
  | close t =>
    intro q hs
    by_cases hclosed : t ∈ bus.closed
    · exact received_prefix_step.subset (hclosing t q hs hclosed)
    · exact none_mem_close hwell hclosed hfits hs
  | subscribe t =>
    intro hclosed
    rw [step, received_subscribe_eq, if_pos ⟨hclosed, hfits hclosed⟩]
    exact List.mem_append_right _ (List.mem_singleton_self _)
  | publish t event | unsubscribe t p | get p => trivial

/-- **Without room the sentinel is lost.** -/
theorem fits_of_ends (htidy : bus.Tidy) (hends : bus.Ends op) : bus.Fits op := by
  cases op with
  | close t =>
    rintro hopen ⟨t', q⟩ hs rfl
    by_contra hfull
    have hsentinel := hends q hs
    rw [received_step_eq (htidy.lt_length _ _ hs), if_neg hfull, List.append_nil] at hsentinel
    exact hopen (htidy.closed_of_sentinel _ q hs hsentinel)
  | subscribe t =>
    intro hclosed
    by_contra hfull
    have hsentinel := hends hclosed
    rw [step, received_subscribe_eq, if_neg fun hc ↦ hfull hc.2, List.append_nil] at hsentinel
    exact none_not_mem_replay _ _ hsentinel
  | publish t event | unsubscribe t p | get p => trivial

/-- The queue has a sentinel, and its reader comes to it. -/
def EndsFor (bus : LiveBus) (q : ℕ) : Prop :=
  none ∈ bus.received q ∧
    ∀ ops, bus.fill q ≤ reads q ops → none ∈ (run step bus ops).takenBy q

theorem endsFor_of_mem (h : none ∈ bus.received q) : bus.EndsFor q :=
  ⟨h, fun _ hreads ↦ taken_run h hreads⟩

/-- **The sentinel is kept**: after the run, every queue that was registered for a task when the
task was closed, and every queue that was handed out after that, has a sentinel that its reader
comes to. -/
structure SentinelKept (bus : LiveBus) (ops : List Op) : Prop where
  closed : ∀ before taskRunId after, ops = before ++ .close taskRunId :: after →
    ∀ q, (taskRunId, q) ∈ (run step bus before).subscribers → (run step bus ops).EndsFor q
  late : ∀ before taskRunId after, ops = before ++ .subscribe taskRunId :: after →
    taskRunId ∈ (run step bus before).closed →
      (run step bus ops).EndsFor (run step bus before).queues.length

theorem tidy_empty (replayBuffer : ℕ) : ({ replayBuffer := replayBuffer } : LiveBus).Tidy where
  lt_length _ _ hs := absurd hs List.not_mem_nil
  unique _ _ _ hs := absurd hs List.not_mem_nil
  closed_of_sentinel _ _ hs := absurd hs List.not_mem_nil

/-- **Exactly when the sentinel is kept**, for every size of the replay buffer and every sequence of
calls and reads: in every state of the run if and only if each close and each late subscription
finds room. -/
theorem sentinelKept_iff (replayBuffer : ℕ) (ops : List Op) :
    (∀ pre, pre <+: ops → SentinelKept { replayBuffer := replayBuffer } pre) ↔
      AllSteps step Fits { replayBuffer := replayBuffer } ops := by
  have htidy (pre : List Op) : (run step { replayBuffer := replayBuffer } pre).Tidy :=
    run_invariant (I := Tidy) (fun _ op h ↦ h.step op) (tidy_empty replayBuffer) pre
  constructor
  · intro hkept
    refine allSteps_iff_forall_position.mpr ?_
    rintro before op after rfl
    have hprefix : before ++ [op] <+: before ++ op :: after := by simp
    have hpre := hkept _ hprefix
    refine fits_of_ends (htidy before) ?_
    cases op with
    | close t =>
      intro q hs
      have hends := (hpre.closed before t [] rfl q hs).1
      rwa [run_append] at hends
    | subscribe t =>
      intro hclosed
      have hends := (hpre.late before t [] rfl hclosed).1
      rwa [run_append] at hends
    | publish t event | unsubscribe t p | get p => trivial
  · rintro hfits pre ⟨rest, rfl⟩
    have hpre := (allSteps_append.mp hfits).1
    have hends {before after : List Op} {op : Op} (heq : pre = before ++ op :: after) :
        (run step { replayBuffer := replayBuffer } before).Ends op := by
      subst heq
      obtain ⟨hbefore, hop, -⟩ := allSteps_append.mp hpre
      have hinv := run_induction (I := fun bus : LiveBus ↦ bus.Tidy ∧ bus.Closing)
        (fun _ op h hop ↦ ⟨h.1.step op, h.2.step h.1.toWellFormed hop⟩)
        ⟨tidy_empty replayBuffer, fun _ _ hs ↦ absurd hs List.not_mem_nil⟩ hbefore
      exact ends_of_fits hinv.1.toWellFormed hinv.2 hop
    constructor
    · rintro before t after heq q hs
      have hmem := hends heq q hs
      rw [heq, run_append, run_cons]
      exact endsFor_of_mem (mem_received_run hmem after)
    · rintro before t after heq hclosed
      have hmem := hends heq hclosed
      rw [heq, run_append, run_cons]
      exact endsFor_of_mem (mem_received_run hmem after)

/-- A subscriber that does not read, the events that fill its queue, and the close. -/
def slowReader : List Op :=
  .subscribe "t" :: List.replicate 512 (.publish "t" (.int 1)) ++ [.close "t"]

/-- The sentinel does not fit behind the events. -/
theorem sentinel_lost_by_slow_reader :
    ¬∀ (replayBuffer : ℕ) (ops : List Op), SentinelKept { replayBuffer := replayBuffer } ops := by
  intro hall
  have hends := (hall 256 slowReader).closed
    (.subscribe "t" :: List.replicate 512 (.publish "t" (.int 1))) "t" [] rfl 0 (by decide +kernel)
  exact absurd hends.1 (by decide +kernel)

/-! ### A lost sentinel -/

/-- A queue whose task is closed and that has no sentinel never gets one: its reader waits. -/
theorem none_not_mem_received_run (h : bus.Quiet q) (hq : q < bus.queues.length)
    (hlost : none ∉ bus.received q) (ops : List Op) :
    none ∉ (run step bus ops).received q := by
  have hstep (bus : LiveBus) (op : Op)
      (h : bus.Quiet q ∧ q < bus.queues.length ∧ none ∉ bus.received q) :
      (bus.step op).Quiet q ∧ q < (bus.step op).queues.length ∧
        none ∉ (bus.step op).received q := by
    obtain ⟨hquiet, hq, hlost⟩ := h
    refine ⟨hquiet.step hq, hq.trans_le length_le_step, ?_⟩
    rw [received_step_eq hq, List.mem_append]
    rintro (hbefore | hnew)
    · exact hlost hbefore
    · split_ifs at hnew
      · obtain ⟨t, -, hopen, hs⟩ := none_mem_arrives hnew
        exact hopen (hquiet t hs)
      · cases hnew
  exact (run_invariant hstep ⟨h, hq, hlost⟩ ops).2.2

/-! ### The size of the replay buffer -/

theorem length_dequeAppend_le (n : ℕ) (buf : List Json) (event : Json) :
    (dequeAppend n buf event).length ≤ n := by
  rw [dequeAppend, List.length_drop]
  omega

theorem length_replay_step (h : ∀ t, (bus.replay t).length ≤ bus.replayBuffer) (op : Op) :
    (bus.step op).replayBuffer = bus.replayBuffer ∧
      ∀ t, ((bus.step op).replay t).length ≤ bus.replayBuffer := by
  cases op with
  | publish t event =>
    refine ⟨rfl, fun t' ↦ ?_⟩
    by_cases ht : t = t'
    · subst ht
      rw [step, replay_publish]
      exact length_dequeAppend_le _ _ _
    · rw [step, replay, publish, KeyedTable.find?_put, if_neg ht]
      exact h t'
  | subscribe t =>
    rw [step, subscribe]
    split_ifs <;> exact ⟨rfl, h⟩
  | unsubscribe t p => exact ⟨rfl, h⟩
  | close t =>
    rw [step, close]
    split_ifs <;> exact ⟨rfl, h⟩
  | get p => exact ⟨rfl, h⟩

/-- With a replay buffer smaller than a queue, as it is by default, a late subscription finds
room. -/
theorem fits_subscribe {replayBuffer : ℕ} (hsmall : replayBuffer < EventQueue.maxsize)
    (ops : List Op) (t : String) :
    (run step { replayBuffer := replayBuffer } ops).Fits (.subscribe t) := by
  have hstep (bus : LiveBus) (op : Op) (h : bus.replayBuffer = replayBuffer ∧
      ∀ t, (bus.replay t).length ≤ replayBuffer) : (bus.step op).replayBuffer = replayBuffer ∧
        ∀ t, ((bus.step op).replay t).length ≤ replayBuffer := by
    obtain ⟨rfl, hle⟩ := h
    exact length_replay_step hle op
  have hstart (t : String) : (replay { replayBuffer := replayBuffer } t).length ≤ replayBuffer :=
    Nat.zero_le _
  exact fun _ ↦ ((run_invariant hstep ⟨rfl, hstart⟩ ops).2 t).trans_lt hsmall

end LiveBus

end Orchestra
