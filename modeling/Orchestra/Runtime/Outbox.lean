import Orchestra.Coordinator.Tables
import Orchestra.Core.Time
import Orchestra.Foundation.Delivery
import Orchestra.Foundation.Transition

/-!
# The outbox

Events wait in the outbox until the dispatcher has handed them to its sink. A flush takes the
entries that are pending when it starts and calls the sink for each of them once; an entry is marked
as delivered after a call that returns, and stays pending after one that raises.

The sink is any: it returns or raises as it likes, call by call. `Lossless` says what the entries
and the log of the sink's calls have to do with each other. It holds after any calls and within a
flush after any number of its rounds (`lossless`).
-/

namespace Orchestra

open Transition

structure OutboxEntry where
  entryId : String
  event : AuditEvent
  enqueuedAt : String
  attempts : ℕ := 0
  lastError : Option String := none
  delivered : Bool := false

namespace OutboxEntry

variable (e : OutboxEntry)

def markDelivered : OutboxEntry := { e with delivered := true, attempts := e.attempts + 1 }

def markFailed (error : String) : OutboxEntry :=
  { e with attempts := e.attempts + 1, lastError := some error }

/-- The mark that the outcome of a call of the sink leaves. -/
def settle : Option String → OutboxEntry
  | none => e.markDelivered
  | some error => e.markFailed error

@[simp] theorem settle_entryId (outcome : Option String) :
    (e.settle outcome).entryId = e.entryId := by
  cases outcome <;> rfl

@[simp] theorem settle_event (outcome : Option String) : (e.settle outcome).event = e.event := by
  cases outcome <;> rfl

@[simp] theorem settle_attempts (outcome : Option String) :
    (e.settle outcome).attempts = e.attempts + 1 := by
  cases outcome <;> rfl

theorem settle_delivered (outcome : Option String) :
    (e.settle outcome).delivered = (outcome.isNone || e.delivered) := by
  cases outcome <;> rfl

end OutboxEntry

structure Outbox where
  entries : List OutboxEntry := []

namespace Outbox

variable (o : Outbox)

/-- `enqueue`, with the identifier and the clock reading it takes. -/
def enqueue (entryId : String) (now : ℕ) (event : AuditEvent) : Outbox × OutboxEntry :=
  let e : OutboxEntry := { entryId := entryId, event := event, enqueuedAt := utcNowIso now }
  (⟨o.entries ++ [e]⟩, e)

def pending : List OutboxEntry := o.entries.filter fun e ↦ !e.delivered

/-- The loop of the two marks: the first entry with the identifier is changed. -/
def mark (entryId : String) (f : OutboxEntry → OutboxEntry) : List OutboxEntry → List OutboxEntry
  | [] => []
  | e :: es => if e.entryId = entryId then f e :: es else e :: mark entryId f es

def markDelivered (entryId : String) : Outbox :=
  ⟨mark entryId OutboxEntry.markDelivered o.entries⟩

def markFailed (entryId error : String) : Outbox :=
  ⟨mark entryId (fun e ↦ e.markFailed error) o.entries⟩

end Outbox

/-- `Dispatcher`, without its outbox and its sink. -/
structure Dispatcher where
  maxAttempts : ℤ := 5

namespace Dispatcher

/-- A call of the sink that has returned or raised. -/
structure SinkCall where
  entryId : String
  event : AuditEvent
  returned : Bool

/-- A flush on its way. -/
structure Flush where
  outbox : Outbox
  delivered : ℕ := 0
  failed : ℕ := 0
  /-- The calls of the sink so far. -/
  calls : List SinkCall := []

variable (d : Dispatcher)

/-- One round of the loop. The sink returns, or raises an exception with this text. -/
def round (s : Flush) (e : OutboxEntry) (outcome : Option String) : Flush :=
  match outcome with
  | none =>
    { outbox := s.outbox.markDelivered e.entryId
      delivered := s.delivered + 1
      failed := s.failed
      calls := s.calls ++ [⟨e.entryId, e.event, true⟩] }
  | some error =>
    -- both branches of the source do the same
    if d.maxAttempts ≤ e.attempts then
      { outbox := s.outbox.markFailed e.entryId error
        delivered := s.delivered
        failed := s.failed + 1
        calls := s.calls ++ [⟨e.entryId, e.event, false⟩] }
    else
      { outbox := s.outbox.markFailed e.entryId error
        delivered := s.delivered
        failed := s.failed + 1
        calls := s.calls ++ [⟨e.entryId, e.event, false⟩] }

/-- The loop over the entries; `sink i` is the outcome of its `i`-th call. -/
def rounds : List OutboxEntry → (ℕ → Option String) → Flush → Flush
  | [], _, s => s
  | e :: es, sink, s => rounds es (fun i ↦ sink (i + 1)) (d.round s e (sink 0))

/-- A flush after `n` rounds. -/
def flushing (o : Outbox) (sink : ℕ → Option String) (n : ℕ) : Flush :=
  d.rounds (o.pending.take n) sink { outbox := o }

structure FlushReport where
  delivered : ℕ
  failed : ℕ
  remaining : ℕ

/-- `flush`: how it leaves the outbox, what it reports and which calls it has made. -/
def flush (o : Outbox) (sink : ℕ → Option String) : Outbox × FlushReport × List SinkCall :=
  let s := d.rounds o.pending sink { outbox := o }
  (s.outbox, ⟨s.delivered, s.failed, s.outbox.pending.length⟩, s.calls)

inductive Call where
  | enqueue (entryId : String) (now : ℕ) (event : AuditEvent)
  | flush (d : Dispatcher) (sink : ℕ → Option String)

def step (o : Outbox) : Call → Outbox
  | .enqueue entryId now event => (o.enqueue entryId now event).1
  | .flush d sink => (d.flush o sink).1

/-- The calls of the sink that a call makes. -/
def sinkCalls (o : Outbox) : Call → List SinkCall
  | .enqueue _ _ _ => []
  | .flush d sink => (d.flush o sink).2.2

/-- The log of the sink's calls and the outbox after the calls, from an empty one. -/
def after (as : List Call) : List SinkCall × Outbox := run (observe step sinkCalls) ([], {}) as

/-- What was enqueued, and under which identifiers. -/
def enqueued (as : List Call) : List (String × AuditEvent) :=
  as.filterMap fun
    | .enqueue entryId _ event => some (entryId, event)
    | .flush _ _ => none

/-! ## What the log and the entries have to do with each other -/

/-- How often an entry was passed to the sink. -/
def tries (log : List SinkCall) (entryId : String) : ℕ :=
  Delivery.tries SinkCall.entryId log entryId

/-- How many of these calls returned. -/
def returns (log : List SinkCall) (entryId : String) : ℕ :=
  Delivery.successes SinkCall.entryId SinkCall.returned log entryId

structure Lossless (sent : List (String × AuditEvent)) (log : List SinkCall) (o : Outbox) :
    Prop where
  /-- The entries are what was enqueued. -/
  entries : o.entries.map (fun e ↦ (e.entryId, e.event)) = sent
  /-- The sink is given these events. -/
  passed : ∀ c ∈ log, (c.entryId, c.event) ∈ sent
  /-- An entry is pending and no call for it has returned, or exactly one has. -/
  once : ∀ e ∈ o.entries, e ∈ o.pending ∧ returns log e.entryId = 0 ∨
    e ∉ o.pending ∧ returns log e.entryId = 1
  /-- After that it is not passed to the sink again. -/
  neverAgain : log.Pairwise fun c c' ↦ c.returned → c'.entryId ≠ c.entryId
  attempts : ∀ e ∈ o.entries, e.attempts = tries log e.entryId

/-! ### Marking -/

section Mark

variable {entryId : String} {f : OutboxEntry → OutboxEntry} {es : List OutboxEntry}
  {e e' : OutboxEntry}

/-- With distinct identifiers, only one entry has the one that is marked. -/
theorem mark_eq_map (hnodup : (es.map OutboxEntry.entryId).Nodup) :
    Outbox.mark entryId f es = es.map fun e ↦ if e.entryId = entryId then f e else e := by
  induction es with
  | nil => rfl
  | cons e es ih =>
    rw [List.map_cons, List.nodup_cons] at hnodup
    rw [Outbox.mark, List.map_cons]
    split_ifs with he
    · have hother : ∀ e' ∈ es, (if e'.entryId = entryId then f e' else e') = e' := by
        intro e' he'
        refine if_neg fun heq ↦ hnodup.1 ?_
        rw [he, ← heq]
        exact List.mem_map_of_mem he'
      rw [List.map_congr_left hother, List.map_id']
    · rw [ih hnodup.2]

theorem mem_mark (hnodup : (es.map OutboxEntry.entryId).Nodup) (he : e ∈ es) :
    e' ∈ Outbox.mark e.entryId f es ↔ e' = f e ∨ e' ∈ es ∧ e'.entryId ≠ e.entryId := by
  rw [mark_eq_map hnodup, List.mem_map]
  constructor
  · rintro ⟨e₀, he₀, rfl⟩
    split_ifs with hid
    · rw [List.inj_on_of_nodup_map hnodup he₀ he hid]
      exact Or.inl rfl
    · exact Or.inr ⟨he₀, hid⟩
  · rintro (rfl | ⟨he', hid⟩)
    · exact ⟨e, he, if_pos rfl⟩
    · exact ⟨e', he', if_neg hid⟩

theorem map_mark {β : Type} (g : OutboxEntry → β) (hg : ∀ e, g (f e) = g e) (entryId : String)
    (es : List OutboxEntry) : (Outbox.mark entryId f es).map g = es.map g := by
  induction es with
  | nil => rfl
  | cons e es ih =>
    rw [Outbox.mark]
    split_ifs
    · rw [List.map_cons, List.map_cons, hg]
    · rw [List.map_cons, List.map_cons, ih]

end Mark

theorem mem_pending {o : Outbox} {e : OutboxEntry} :
    e ∈ o.pending ↔ e ∈ o.entries ∧ e.delivered = false := by
  rw [Outbox.pending, List.mem_filter, Bool.not_eq_true']

/-! ### A round -/

section Rounds

variable {d : Dispatcher} {s : Flush} {e : OutboxEntry} {outcome : Option String}

theorem round_entries : (d.round s e outcome).outbox.entries =
    Outbox.mark e.entryId (fun e ↦ e.settle outcome) s.outbox.entries := by
  cases outcome with
  | none => rfl
  | some error =>
    rw [Dispatcher.round]
    split_ifs <;> rfl

theorem round_calls : (d.round s e outcome).calls =
    s.calls ++ [⟨e.entryId, e.event, outcome.isNone⟩] := by
  cases outcome with
  | none => rfl
  | some error =>
    rw [Dispatcher.round]
    split_ifs <;> rfl

theorem round_count : (d.round s e outcome).delivered + (d.round s e outcome).failed =
    s.delivered + s.failed + 1 := by
  cases outcome with
  | none => exact Nat.add_right_comm s.delivered 1 s.failed
  | some error =>
    rw [Dispatcher.round]
    split_ifs <;> rfl

theorem rounds_count (es : List OutboxEntry) (sink : ℕ → Option String) (s : Flush) :
    (d.rounds es sink s).delivered + (d.rounds es sink s).failed =
      s.delivered + s.failed + es.length := by
  induction es generalizing sink s with
  | nil => rfl
  | cons e es ih =>
    rw [rounds, ih, round_count, List.length_cons]
    omega

end Rounds

namespace Lossless

variable {sent : List (String × AuditEvent)} {log : List SinkCall} {o : Outbox}
  {d : Dispatcher} {s : Flush} {e : OutboxEntry}

theorem nodup (h : Lossless sent log o) (hsent : (sent.map Prod.fst).Nodup) :
    (o.entries.map OutboxEntry.entryId).Nodup := by
  rw [← h.entries, List.map_map] at hsent
  exact hsent

theorem returns_of_mem (h : Lossless sent log o) (he : e ∈ o.entries) :
    returns log e.entryId = if e.delivered then 1 else 0 := by
  rcases h.once e he with ⟨hin, hreturns⟩ | ⟨hout, hreturns⟩
  · rw [hreturns, (mem_pending.mp hin).2]
    rfl
  · have hdelivered : e.delivered = true := by
      by_contra hnot
      exact hout (mem_pending.mpr ⟨he, Bool.eq_false_of_not_eq_true hnot⟩)
    rw [hreturns, hdelivered]
    rfl

theorem once_of_returns (he : e ∈ o.entries)
    (h : returns log e.entryId = if e.delivered then 1 else 0) :
    e ∈ o.pending ∧ returns log e.entryId = 0 ∨ e ∉ o.pending ∧ returns log e.entryId = 1 := by
  cases hdelivered : e.delivered with
  | false =>
    rw [hdelivered] at h
    exact Or.inl ⟨mem_pending.mpr ⟨he, hdelivered⟩, h⟩
  | true =>
    rw [hdelivered] at h
    refine Or.inr ⟨fun hin ↦ ?_, h⟩
    exact absurd (hdelivered.symm.trans (mem_pending.mp hin).2) Bool.true_eq_false_eq_False

/-- **A round** on an entry that is pending. -/
theorem round (h : Lossless sent (log ++ s.calls) s.outbox) (hsent : (sent.map Prod.fst).Nodup)
    (he : e ∈ s.outbox.pending) (outcome : Option String) :
    Lossless sent (log ++ (d.round s e outcome).calls) (d.round s e outcome).outbox := by
  obtain ⟨hmem, hundelivered⟩ := mem_pending.mp he
  have hnodup := h.nodup hsent
  have hreturns := h.returns_of_mem hmem
  rw [hundelivered] at hreturns
  rw [round_calls, ← List.append_assoc]
  have hcases (e' : OutboxEntry) (he' : e' ∈ (d.round s e outcome).outbox.entries) :
      e' = e.settle outcome ∨ e' ∈ s.outbox.entries ∧ e'.entryId ≠ e.entryId := by
    rw [round_entries] at he'
    exact (mem_mark hnodup hmem).mp he'
  constructor
  · rw [round_entries, map_mark _ (fun e ↦ by simp), h.entries]
  · intro c hc
    rcases List.mem_append.mp hc with hc | hc
    · exact h.passed c hc
    · rw [List.mem_singleton.mp hc, ← h.entries]
      exact List.mem_map_of_mem (f := fun e ↦ (e.entryId, e.event)) hmem
  · intro e' he'
    refine once_of_returns he' ?_
    rw [returns, Delivery.successes_concat]
    rcases hcases e' he' with rfl | ⟨hold, hid⟩
    · have hnone : Delivery.successes SinkCall.entryId SinkCall.returned (log ++ s.calls)
          e.entryId = 0 := hreturns
      rw [OutboxEntry.settle_entryId, OutboxEntry.settle_delivered, hundelivered, Bool.or_false,
        hnone]
      simp
    · rw [if_neg fun hnew ↦ hid hnew.1.symm]
      exact h.returns_of_mem hold
  · exact Delivery.neverAgain_concat_iff.mpr ⟨h.neverAgain, hreturns⟩
  · intro e' he'
    rw [tries, Delivery.tries_concat]
    rcases hcases e' he' with rfl | ⟨hold, hid⟩
    · rw [OutboxEntry.settle_attempts, h.attempts e hmem, OutboxEntry.settle_entryId, if_pos rfl]
      rfl
    · rw [h.attempts e' hold, if_neg (Ne.symm hid)]
      rfl

/-- The entries of a flush that are still to come are pending. -/
theorem rounds (hsent : (sent.map Prod.fst).Nodup) {es : List OutboxEntry}
    (hes : (es.map OutboxEntry.entryId).Nodup) (sink : ℕ → Option String)
    (h : Lossless sent (log ++ s.calls) s.outbox) (hpending : ∀ e ∈ es, e ∈ s.outbox.pending) :
    Lossless sent (log ++ (d.rounds es sink s).calls) (d.rounds es sink s).outbox := by
  induction es generalizing s sink with
  | nil => exact h
  | cons e es ih =>
    rw [List.forall_mem_cons] at hpending
    rw [List.map_cons, List.nodup_cons] at hes
    obtain ⟨hmem, -⟩ := mem_pending.mp hpending.1
    refine ih hes.2 _ (h.round hsent hpending.1 (sink 0)) fun e' he' ↦ ?_
    obtain ⟨hmem', hundelivered⟩ := mem_pending.mp (hpending.2 e' he')
    have hid : e'.entryId ≠ e.entryId := fun heq ↦ hes.1 (heq ▸ List.mem_map_of_mem he')
    rw [mem_pending, round_entries, mem_mark (h.nodup hsent) hmem]
    exact ⟨Or.inr ⟨hmem', hid⟩, hundelivered⟩

theorem pending_nodup (h : Lossless sent log o) (hsent : (sent.map Prod.fst).Nodup) :
    (o.pending.map OutboxEntry.entryId).Nodup :=
  (h.nodup hsent).sublist (List.filter_sublist.map OutboxEntry.entryId)

/-- **A flush on its way.** -/
theorem flushing (h : Lossless sent log o) (hsent : (sent.map Prod.fst).Nodup) (d : Dispatcher)
    (sink : ℕ → Option String) (n : ℕ) :
    Lossless sent (log ++ (d.flushing o sink n).calls) (d.flushing o sink n).outbox := by
  have hfirst : o.pending.take n <+: o.pending := List.take_prefix n o.pending
  refine rounds hsent ((h.pending_nodup hsent).sublist (hfirst.sublist.map _)) sink ?_
    fun e he ↦ hfirst.subset he
  rw [List.append_nil]
  exact h

/-- **A flush.** -/
theorem flush (h : Lossless sent log o) (hsent : (sent.map Prod.fst).Nodup) (d : Dispatcher)
    (sink : ℕ → Option String) :
    Lossless sent (log ++ (d.flush o sink).2.2) (d.flush o sink).1 := by
  have hlast := h.flushing hsent d sink o.pending.length
  rw [Dispatcher.flushing, List.take_length] at hlast
  exact hlast

/-- **An entry that is enqueued** under a new identifier. -/
theorem enqueue (h : Lossless sent log o) {entryId : String} (now : ℕ) (event : AuditEvent)
    (hnew : entryId ∉ sent.map Prod.fst) :
    Lossless (sent ++ [(entryId, event)]) log (o.enqueue entryId now event).1 := by
  have huntried : ∀ c ∈ log, c.entryId ≠ entryId := by
    rintro c hc rfl
    exact hnew (List.mem_map_of_mem (f := Prod.fst) (h.passed c hc))
  have hcases (e : OutboxEntry) (he : e ∈ (o.enqueue entryId now event).1.entries) :
      e ∈ o.entries ∨ e = (o.enqueue entryId now event).2 := by
    rwa [Outbox.enqueue, List.mem_append, List.mem_singleton] at he
  constructor
  · rw [Outbox.enqueue, List.map_append, h.entries]
    rfl
  · exact fun c hc ↦ List.mem_append_left _ (h.passed c hc)
  · intro e he
    refine once_of_returns he ?_
    rcases hcases e he with hold | rfl
    · exact h.returns_of_mem hold
    · exact Delivery.successes_eq_zero_iff.mpr fun c hc _ ↦ huntried c hc
  · exact h.neverAgain
  · intro e he
    rcases hcases e he with hold | rfl
    · exact h.attempts e hold
    · have hzero : tries log entryId = 0 :=
        List.countP_eq_zero.mpr fun c hc ↦ by simpa using huntried c hc
      exact hzero.symm

end Lossless

/-! ## Runs -/

theorem lossless_nil : Lossless [] [] {} where
  entries := rfl
  passed := by simp
  once := by simp
  neverAgain := List.Pairwise.nil
  attempts := by simp

theorem enqueued_append (as bs : List Call) : enqueued (as ++ bs) = enqueued as ++ enqueued bs :=
  List.filterMap_append

/-- After any calls that enqueue under distinct identifiers. -/
theorem lossless_after (as : List Call) (hdistinct : ((enqueued as).map Prod.fst).Nodup) :
    Lossless (enqueued as) (after as).1 (after as).2 := by
  induction as using List.reverseRecOn with
  | nil => exact lossless_nil
  | append_singleton as call ih =>
    rw [enqueued_append, List.map_append] at hdistinct
    have hbefore := ih (List.Nodup.of_append_left hdistinct)
    rw [after, run_append, ← after, run_cons, run_nil, enqueued_append]
    cases call with
    | enqueue entryId now event =>
      have hnew : entryId ∉ (enqueued as).map Prod.fst := fun hold ↦
        List.disjoint_of_nodup_append hdistinct hold (List.mem_singleton_self entryId)
      have h := hbefore.enqueue now event hnew
      rwa [← List.append_nil (after as).1] at h
    | flush d sink =>
      rw [show enqueued [.flush d sink] = [] from rfl, List.append_nil]
      exact hbefore.flush (List.Nodup.of_append_left hdistinct) d sink

/-- **Nothing is lost and nothing delivered is sent again**: after any calls, and within any flush
that follows after any number of its rounds. A flush reports what it has done. -/
theorem lossless (as : List Call) (hdistinct : ((enqueued as).map Prod.fst).Nodup) :
    Lossless (enqueued as) (after as).1 (after as).2 ∧
      ∀ (d : Dispatcher) (sink : ℕ → Option String),
        (∀ n, Lossless (enqueued as)
          ((after as).1 ++ (d.flushing (after as).2 sink n).calls)
          (d.flushing (after as).2 sink n).outbox) ∧
        let flushed := d.flush (after as).2 sink
        flushed.2.1.delivered + flushed.2.1.failed = (after as).2.pending.length ∧
          flushed.2.1.remaining = flushed.1.pending.length := by
  have h := lossless_after as hdistinct
  refine ⟨h, fun d sink ↦ ⟨h.flushing hdistinct d sink, ?_, rfl⟩⟩
  refine (rounds_count (after as).2.pending sink { outbox := (after as).2 }).trans ?_
  exact Nat.zero_add (after as).2.pending.length

def startedEvent : AuditEvent where
  eventId := "ev1"
  taskRunId := some "t"
  nodeRunId := some "n"
  kind := .nodeStarted
  occurredAt := 0
  payload := .obj [("node_id", .str "n")]

/-- An entry whose first flush fails. -/
def retriedCalls : List Call :=
  [.enqueue "e1" 0 startedEvent, .flush {} fun _ ↦ some "boom", .flush {} fun _ ↦ none]

theorem lossless_retried : (after retriedCalls).1.map SinkCall.returned = [false, true] ∧
    Lossless (enqueued retriedCalls) (after retriedCalls).1 (after retriedCalls).2 :=
  ⟨rfl, (lossless retriedCalls (by decide)).1⟩

end Dispatcher

end Orchestra
