import Orchestra.Runtime.Outbox

/-!
# The attempts of an outbox entry

A dispatcher is given a number of attempts. Its flush compares the attempts of an entry with this
number and does the same in both cases, so the number has no effect (`flush_eq_flush`). The marks of
an entry still say what has become of it: the outcomes of its calls, in order, are all there is to
them (`Tracks`). So an entry is passed to the sink more often than the dispatcher allows exactly
when a flush is called while an entry without attempts left is pending (`retryBound_iff`).
-/

namespace Orchestra

open Transition Delivery

namespace Dispatcher

/-- The branches of a failing round do not differ. -/
theorem flush_eq_flush (d d' : Dispatcher) (o : Outbox) (sink : ℕ → Option String) :
    d.flush o sink = d'.flush o sink := by
  have hround (s : Flush) (e : OutboxEntry) (outcome : Option String) :
      d.round s e outcome = d'.round s e outcome := by
    cases outcome with
    | none => rfl
    | some error => simp [Dispatcher.round]
  have hrounds (es : List OutboxEntry) (sink : ℕ → Option String) (s : Flush) :
      d.rounds es sink s = d'.rounds es sink s := by
    induction es generalizing sink s with
    | nil => rfl
    | cons e es ih => rw [Dispatcher.rounds, Dispatcher.rounds, hround, ih]
  rw [Dispatcher.flush, Dispatcher.flush, hrounds]

/-! ## The calls of the sink -/

/-- A call of the sink: it returned, or it raised an exception with this text. -/
structure Handed where
  entryId : String
  outcome : Option String
  deriving DecidableEq

def handedIn : List OutboxEntry → (ℕ → Option String) → List Handed
  | [], _ => []
  | e :: es, sink => ⟨e.entryId, sink 0⟩ :: handedIn es fun i ↦ sink (i + 1)

/-- The calls of the sink that a call makes, with their outcomes. -/
def handed (o : Outbox) : Call → List Handed
  | .enqueue _ _ _ => []
  | .flush _ sink => handedIn o.pending sink

theorem map_entryId_handedIn (es : List OutboxEntry) (sink : ℕ → Option String) :
    (handedIn es sink).map Handed.entryId = es.map OutboxEntry.entryId := by
  induction es generalizing sink with
  | nil => rfl
  | cons e es ih => rw [handedIn, List.map_cons, ih, List.map_cons]

theorem rounds_calls (d : Dispatcher) (es : List OutboxEntry) (sink : ℕ → Option String)
    (s : Flush) : ((d.rounds es sink s).calls.map fun c ↦ (c.entryId, c.returned)) =
      (s.calls.map fun c ↦ (c.entryId, c.returned)) ++
        (handedIn es sink).map fun h ↦ (h.entryId, h.outcome.isNone) := by
  induction es generalizing sink s with
  | nil => simp [Dispatcher.rounds, handedIn]
  | cons e es ih => simp [Dispatcher.rounds, ih, round_calls, handedIn]

/-- These are the calls that a flush logs. -/
theorem map_sinkCalls (o : Outbox) (c : Call) :
    ((sinkCalls o c).map fun c ↦ (c.entryId, c.returned)) =
      (handed o c).map fun h ↦ (h.entryId, h.outcome.isNone) := by
  cases c with
  | enqueue entryId now event => rfl
  | flush d sink => exact rounds_calls d o.pending sink { outbox := o }

/-- The outcomes of the calls for an entry. -/
abbrev outcomes (log : List Handed) (entryId : String) : List (Option String) :=
  history Handed.entryId Handed.outcome log entryId

/-! ## The marks of an entry -/

/-- The marks of the entry are those that these outcomes leave. -/
structure Marked (os : List (Option String)) (e : OutboxEntry) : Prop where
  attempts : e.attempts = os.length
  delivered : e.delivered = true ↔ none ∈ os
  lastError : e.lastError = (os.filterMap id).getLast?

theorem Marked.settle {os : List (Option String)} {e : OutboxEntry} (h : Marked os e)
    (outcome : Option String) : Marked (os ++ [outcome]) (e.settle outcome) := by
  refine ⟨?_, ?_, ?_⟩
  · rw [OutboxEntry.settle_attempts, h.attempts, List.length_append, List.length_singleton]
  · cases outcome <;> simp [OutboxEntry.settle_delivered, h.delivered]
  · cases outcome with
    | none => simp [OutboxEntry.settle, OutboxEntry.markDelivered, h.lastError]
    | some error => simp [OutboxEntry.settle, OutboxEntry.markFailed]

/-- The last error of an entry whose calls have all failed is that of its last call. -/
theorem Marked.exists_lastError {os : List (Option String)} {e : OutboxEntry} (h : Marked os e)
    (hne : os ≠ []) (hfailed : none ∉ os) :
    ∃ error, os.getLast? = some (some error) ∧ e.lastError = some error := by
  rcases List.eq_nil_or_concat os with rfl | ⟨init, outcome, rfl⟩
  · exact absurd rfl hne
  · cases outcome with
    | none => simp at hfailed
    | some error => exact ⟨error, by simp, by simp [h.lastError]⟩

/-- The entries have these identifiers, which are distinct, and the log of the calls speaks of them
and explains their marks. -/
structure Tracks (ids : List String) (log : List Handed) (o : Outbox) : Prop where
  nodup : ids.Nodup
  entries : o.entries.map OutboxEntry.entryId = ids
  passed : ∀ h ∈ log, h.entryId ∈ ids
  marked : ∀ e ∈ o.entries, Marked (outcomes log e.entryId) e

namespace Tracks

variable {ids : List String} {log : List Handed} {o : Outbox} {d : Dispatcher} {s : Flush}
  {e : OutboxEntry}

theorem nil : Tracks [] [] {} := ⟨List.nodup_nil, rfl, by simp, by simp⟩

theorem mem_ids (h : Tracks ids log o) (he : e ∈ o.entries) : e.entryId ∈ ids := by
  rw [← h.entries]
  exact List.mem_map_of_mem he

theorem entries_nodup (h : Tracks ids log o) : (o.entries.map OutboxEntry.entryId).Nodup := by
  rw [h.entries]
  exact h.nodup

theorem enqueue (h : Tracks ids log o) {entryId : String} (hnew : entryId ∉ ids) (now : ℕ)
    (event : AuditEvent) : Tracks (ids ++ [entryId]) log (o.enqueue entryId now event).1 := by
  rw [Outbox.enqueue]
  refine ⟨?_, ?_, fun c hc ↦ List.mem_append_left _ (h.passed c hc), fun e he ↦ ?_⟩
  · exact h.nodup.append (List.nodup_singleton _) (List.disjoint_singleton.mpr hnew)
  · rw [List.map_append, h.entries]
    rfl
  · rcases List.mem_append.mp he with hold | hlast
    · exact h.marked e hold
    · rw [List.mem_singleton.mp hlast]
      have huntried : outcomes log entryId = [] :=
        history_eq_nil_iff.mpr fun c hc heq ↦ hnew (heq ▸ h.passed c hc)
      dsimp only
      rw [huntried]
      exact ⟨rfl, by simp, rfl⟩

/-- **A round** appends its outcome to those of its entry. -/
theorem round (h : Tracks ids log s.outbox) (he : e ∈ s.outbox.entries)
    (outcome : Option String) :
    Tracks ids (log ++ [⟨e.entryId, outcome⟩]) (d.round s e outcome).outbox := by
  refine ⟨h.nodup, ?_, fun c hc ↦ ?_, fun e' he' ↦ ?_⟩
  · rw [round_entries, map_mark _ (fun e ↦ e.settle_entryId outcome), h.entries]
  · rcases List.mem_append.mp hc with hc | hc
    · exact h.passed c hc
    · rw [List.mem_singleton.mp hc]
      exact h.mem_ids he
  · have hsplit : outcomes (log ++ [⟨e.entryId, outcome⟩]) e'.entryId =
        outcomes log e'.entryId ++ outcomes [⟨e.entryId, outcome⟩] e'.entryId := history_append
    rw [hsplit]
    rw [round_entries, mem_mark h.entries_nodup he] at he'
    rcases he' with rfl | ⟨hold, hid⟩
    · have hself : outcomes [⟨e.entryId, outcome⟩] e.entryId = [outcome] :=
        history_singleton_self
      rw [OutboxEntry.settle_entryId, hself]
      exact (h.marked e he).settle outcome
    · have hother : outcomes [⟨e.entryId, outcome⟩] e'.entryId = [] :=
        history_singleton_of_ne (Ne.symm hid)
      rw [hother, List.append_nil]
      exact h.marked e' hold

theorem rounds {es : List OutboxEntry} (hes : (es.map OutboxEntry.entryId).Nodup)
    (sink : ℕ → Option String) (h : Tracks ids log s.outbox)
    (hmem : ∀ e ∈ es, e ∈ s.outbox.entries) :
    Tracks ids (log ++ handedIn es sink) (d.rounds es sink s).outbox := by
  induction es generalizing s sink log with
  | nil =>
    rw [handedIn, List.append_nil]
    exact h
  | cons e es ih =>
    rw [List.forall_mem_cons] at hmem
    rw [List.map_cons, List.nodup_cons] at hes
    rw [handedIn, ← List.singleton_append, ← List.append_assoc]
    refine ih hes.2 _ (h.round hmem.1 (sink 0)) fun e' he' ↦ ?_
    have hid : e'.entryId ≠ e.entryId := fun heq ↦ hes.1 (heq ▸ List.mem_map_of_mem he')
    rw [round_entries, mem_mark h.entries_nodup hmem.1]
    exact Or.inr ⟨hmem.2 e' he', hid⟩

theorem pending_nodup (h : Tracks ids log o) : (o.pending.map OutboxEntry.entryId).Nodup :=
  h.entries_nodup.sublist (List.filter_sublist.map OutboxEntry.entryId)

/-- **A flush** appends the outcomes of its calls. -/
theorem flush (h : Tracks ids log o) (d : Dispatcher) (sink : ℕ → Option String) :
    Tracks ids (log ++ handedIn o.pending sink) (d.flush o sink).1 :=
  rounds h.pending_nodup sink h fun _ he ↦ List.mem_of_mem_filter he

/-- A flush passes each pending entry to the sink once. -/
theorem length_outcomes_flush (h : Tracks ids log o) (sink : ℕ → Option String)
    (entryId : String) : (outcomes (log ++ handedIn o.pending sink) entryId).length =
      (outcomes log entryId).length +
        if entryId ∈ o.pending.map OutboxEntry.entryId then 1 else 0 := by
  have hnodup : ((handedIn o.pending sink).map Handed.entryId).Nodup := by
    rw [map_entryId_handedIn]
    exact h.pending_nodup
  rw [outcomes, history_append, List.length_append, length_history_of_nodup hnodup,
    map_entryId_handedIn]

end Tracks

/-! ## Runs with one dispatcher -/

/-- What happens to an outbox with one dispatcher. -/
inductive Op where
  | enqueue (entryId : String) (now : ℕ) (event : AuditEvent)
  | flush (sink : ℕ → Option String)

def Op.call (d : Dispatcher) : Op → Call
  | .enqueue entryId now event => .enqueue entryId now event
  | .flush sink => .flush d sink

section Runs

variable (d : Dispatcher)

def perform (o : Outbox) (op : Op) : Outbox := step o (op.call d)

def handedBy (o : Outbox) (op : Op) : List Handed := handed o (op.call d)

/-- The calls of the sink and the outbox, from an empty one. -/
def observed (ops : List Op) : List Handed × Outbox :=
  run (observe (perform d) (handedBy d)) ([], {}) ops

/-- The identifiers of the entries that were enqueued. -/
def newIds (ops : List Op) : List String :=
  ops.filterMap fun
    | .enqueue entryId _ _ => some entryId
    | .flush _ => none

/-- **The retry bound**: no entry is passed to the sink more than `m` times. One whose calls have
used this up and failed is pending, with the error of the last of them. -/
structure RetryBound (m : ℤ) (log : List Handed) (o : Outbox) : Prop where
  handed_le : ∀ entryId, ((outcomes log entryId).length : ℤ) ≤ m
  visible : ∀ entryId, ((outcomes log entryId).length : ℤ) = m → none ∉ outcomes log entryId →
    ∃ e ∈ o.pending, ∃ error, e.entryId = entryId ∧
      (outcomes log entryId).getLast? = some (some error) ∧ e.lastError = some error

/-- A flush is called only while every pending entry has attempts left. -/
def FlushesInTime (o : Outbox) : Op → Prop
  | .enqueue _ _ _ => True
  | .flush _ => ∀ e ∈ o.pending, (e.attempts : ℤ) < d.maxAttempts

instance (o : Outbox) : DecidablePred (FlushesInTime d o)
  | .enqueue _ _ _ => inferInstanceAs (Decidable True)
  | .flush _ => inferInstanceAs (Decidable (∀ _ ∈ _, _))

variable {d}

theorem tracks_observed (ops : List Op) (hdistinct : (newIds ops).Nodup) :
    Tracks (newIds ops) (observed d ops).1 (observed d ops).2 := by
  induction ops using List.reverseRecOn with
  | nil => exact Tracks.nil
  | append_singleton ops op ih =>
    rw [newIds, List.filterMap_append, ← newIds] at hdistinct ⊢
    have htracks := ih (List.Nodup.of_append_left hdistinct)
    rw [observed, run_append, ← observed]
    cases op with
    | enqueue entryId now event =>
      have hnew : entryId ∉ newIds ops := fun hold ↦
        List.disjoint_of_nodup_append hdistinct hold (List.mem_singleton_self entryId)
      have h := htracks.enqueue hnew now event
      rwa [← List.append_nil (observed d ops).1] at h
    | flush sink =>
      have h := htracks.flush d sink
      rwa [← List.append_nil (newIds ops)] at h

/-- Where the marks are explained, an entry whose calls have all failed is visible. -/
theorem retryBound_iff_handed_le {m : ℤ} (hm : 1 ≤ m) {ids : List String} {log : List Handed}
    {o : Outbox} (h : Tracks ids log o) :
    RetryBound m log o ↔ ∀ entryId, ((outcomes log entryId).length : ℤ) ≤ m := by
  refine ⟨fun hbound ↦ hbound.handed_le, fun hle ↦ ⟨hle, fun entryId hspent hfailed ↦ ?_⟩⟩
  have hne : outcomes log entryId ≠ [] := by
    intro hnil
    rw [hnil, List.length_nil] at hspent
    omega
  obtain ⟨c, hc, rfl⟩ : ∃ c ∈ log, c.entryId = entryId := by
    by_contra hnone
    push Not at hnone
    exact hne (history_eq_nil_iff.mpr hnone)
  obtain ⟨e, he, hid⟩ := List.mem_map.mp (h.entries ▸ h.passed c hc)
  rw [← hid] at hne hfailed ⊢
  have hmarked := h.marked e he
  obtain ⟨error, hlast, hlastError⟩ := hmarked.exists_lastError hne hfailed
  have hundelivered : e.delivered = false :=
    Bool.eq_false_of_not_eq_true fun hdelivered ↦ hfailed (hmarked.delivered.mp hdelivered)
  exact ⟨e, mem_pending.mpr ⟨he, hundelivered⟩, error, rfl, hlast, hlastError⟩

/-- **One step**: the bound survives exactly if no flush comes too late. -/
theorem handed_le_step {ids : List String} {log : List Handed} {o : Outbox}
    (h : Tracks ids log o) (hle : ∀ entryId, ((outcomes log entryId).length : ℤ) ≤ d.maxAttempts)
    (op : Op) : (∀ entryId, ((outcomes (log ++ handedBy d o op) entryId).length : ℤ) ≤
      d.maxAttempts) ↔ FlushesInTime d o op := by
  cases op with
  | enqueue entryId now event =>
    have hsame : log ++ handedBy d o (.enqueue entryId now event) = log := List.append_nil log
    rw [hsame]
    exact iff_of_true hle trivial
  | flush sink =>
    have hhanded : handedBy d o (.flush sink) = handedIn o.pending sink := rfl
    simp only [hhanded, h.length_outcomes_flush]
    constructor
    · intro hnext e he
      have hone := hnext e.entryId
      rw [if_pos (List.mem_map_of_mem he)] at hone
      rw [(h.marked e (mem_pending.mp he).1).attempts]
      push_cast at hone
      omega
    · intro hbefore entryId
      split_ifs with hin
      · obtain ⟨e, he, rfl⟩ := List.mem_map.mp hin
        have hlt := hbefore e he
        rw [(h.marked e (mem_pending.mp he).1).attempts] at hlt
        push_cast
        omega
      · exact hle entryId

/-- **Exactly when the retry bound holds.** An outbox has one dispatcher, which allows at least one
attempt. Whatever is enqueued, under distinct identifiers, and whatever the sink does, the bound
holds in every state exactly as long as every flush finds all pending entries with attempts
left. -/
theorem retryBound_iff (hm : 1 ≤ d.maxAttempts) (ops : List Op) (hdistinct : (newIds ops).Nodup) :
    (∀ pre, pre <+: ops → RetryBound d.maxAttempts (observed d pre).1 (observed d pre).2) ↔
      AllSteps (perform d) (FlushesInTime d) {} ops := by
  have htracks (pre : List Op) (hpre : pre <+: ops) :
      Tracks (newIds pre) (observed d pre).1 (observed d pre).2 :=
    tracks_observed pre (hdistinct.sublist (hpre.sublist.filterMap _))
  have hobserve : AllSteps (observe (perform d) (handedBy d)) (fun s ↦ FlushesInTime d s.2)
      ([], {}) ops ↔ AllSteps (perform d) (FlushesInTime d) {} ops := allSteps_observe
  rw [← hobserve]
  refine forall_prefix_iff_allSteps_of_position
    (J := fun s : List Handed × Outbox ↦ RetryBound d.maxAttempts s.1 s.2) ?_
    fun pre op hpre hbound ↦ ?_
  · have hstart : (0 : ℤ) ≤ d.maxAttempts := by omega
    exact (retryBound_iff_handed_le hm Tracks.nil).mpr fun _ ↦ hstart
  · have hnext := htracks (pre ++ [op]) hpre
    rw [observed, run_append] at hnext
    have hnow := htracks pre ((List.prefix_append pre [op]).trans hpre)
    exact (retryBound_iff_handed_le hm hnext).trans (handed_le_step hnow hbound.handed_le op)

end Runs

/-- Two failing flushes, and a new entry. -/
def twoAttempts : List Op :=
  [.enqueue "e1" 0 startedEvent, .flush fun _ ↦ some "boom", .flush fun _ ↦ some "bang",
    .enqueue "e2" 1 startedEvent]

theorem retryBound_twoAttempts :
    (∀ pre, pre <+: twoAttempts → RetryBound 2 (observed ⟨2⟩ pre).1 (observed ⟨2⟩ pre).2) ∧
      outcomes (observed ⟨2⟩ twoAttempts).1 "e1" = [some "boom", some "bang"] :=
  ⟨(retryBound_iff (d := ⟨2⟩) (by decide) twoAttempts (by decide)).mpr (by decide), rfl⟩

/-- With two attempts allowed, the third flush passes the entry to the sink a third time. -/
theorem third_flush_beyond_bound :
    ¬∀ (d : Dispatcher) (ops : List Op), 1 ≤ d.maxAttempts → (newIds ops).Nodup →
      ∀ pre, pre <+: ops → RetryBound d.maxAttempts (observed d pre).1 (observed d pre).2 := by
  intro hall
  have hbound := hall ⟨2⟩ [.enqueue "e1" 0 startedEvent, .flush fun _ ↦ some "boom",
    .flush fun _ ↦ some "boom", .flush fun _ ↦ some "boom"] (by decide) (by decide) _
    (List.prefix_refl _)
  exact absurd (hbound.handed_le "e1") (by decide)

end Dispatcher

end Orchestra
