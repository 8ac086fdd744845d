import Orchestra.Coordinator.Session

/-!
# One connection for several threads

The handlers that the server runs on its thread pool and the coordinator use one store, and the
store has one connection. The driver sends the statements of all threads one at a time, and there is
one current transaction on which every commit and every rollback acts, whoever sends it.

A method is atomic by itself: `tx` commits where the block returns and rolls back where it raises.
What it commits or rolls back is everything that is pending, so a method's writes have the fate that
the first end of the transaction after them decides, and that may be another method's. The
connection records this: every write carries the method that made it, and goes from `pending` to
`kept` or to `lost` (`stored_eq_replay` says that what is stored is what was kept).

Methods that return have their writes kept and methods that raise have none, in every run in which
no method ends the transaction while writes of another one are pending
(`acknowledged_of_exclusive`). Nothing in the store keeps threads from that
(`returns_without_its_write`).
-/

namespace Orchestra

open Interaction

/-- A write, with the method that made it. -/
structure Write (ι : Type*) where
  owner : ι
  statement : Statement

/-- The writes of another method, or of none. -/
def NoneOf {ι : Type*} (i : ι) (ws : List (Write ι)) : Prop := ∀ w ∈ ws, w.owner ≠ i

theorem noneOf_nil {ι : Type*} (i : ι) : NoneOf i [] := by simp [NoneOf]

theorem NoneOf.append {ι : Type*} {i : ι} {ws ws' : List (Write ι)} (h : NoneOf i ws)
    (h' : NoneOf i ws') : NoneOf i (ws ++ ws') := by
  intro w hw
  rcases List.mem_append.mp hw with hw | hw
  · exact h w hw
  · exact h' w hw

/-- A database after some writes. -/
def replay {ι : Type*} (db : Database) (ws : List (Write ι)) : Database :=
  ws.foldl (fun db w ↦ w.statement.apply db) db

theorem replay_append {ι : Type*} (db : Database) (ws ws' : List (Write ι)) :
    replay db (ws ++ ws') = replay (replay db ws) ws' := List.foldl_append

/-- A connection with its current transaction. -/
structure Connection (ι : Type*) where
  /-- What is committed. -/
  stored : Database
  /-- What the current transaction sees. -/
  current : Database
  /-- A statement of the current transaction has failed. -/
  failed : Bool := false
  pending : List (Write ι) := []
  kept : List (Write ι) := []
  lost : List (Write ι) := []

namespace Connection

variable {ι : Type*} (conn : Connection ι)

/-- The current transaction comes to nothing. -/
def discard : Connection ι :=
  { conn with current := conn.stored, pending := [], lost := conn.lost ++ conn.pending }

/-- The current transaction is committed. -/
def keep : Connection ι :=
  { conn with stored := conn.current, pending := [], kept := conn.kept ++ conn.pending }

/-- A statement has run. -/
def ran (i : ι) (s : Statement) (db : Database) : Connection ι :=
  { conn with
    current := db
    pending := if s.writes then conn.pending ++ [⟨i, s⟩] else conn.pending }

/-- The connection on a call of method `i`, where `fault` says whether the call fails for a reason
that is not in the tables. -/
def answer (i : ι) (fault : Bool) :
    (c : Call) → Option (Except StoreError c.Reply × Connection ι)
  | .execute s => some <|
    -- after a failure the server refuses everything up to the end of the transaction
    if conn.failed then (.error .unavailable, conn)
    else if fault then (.error .unavailable, { conn.discard with failed := true })
    else
      match s.exec conn.current with
      | .error e => (.error e, { conn.discard with failed := true })
      | .ok (r, db) => (.ok r, conn.ran i s db)
  | .commit => some <|
    -- a failed transaction is rolled back on commit, which is not an error
    if conn.failed then (.ok (), { conn with failed := false })
    else if fault then (.error .unavailable, conn.discard)
    else (.ok (), conn.keep)
  | .rollback =>
    some (if fault then .error .unavailable else .ok (), { conn.discard with failed := false })

/-- The call ends the transaction: a commit, a rollback, or a statement that fails. -/
def ends (fault : Bool) : Call → Bool
  | .execute s =>
    conn.failed || fault ||
      match s.exec conn.current with
      | .ok _ => false
      | .error _ => true
  | .commit => true
  | .rollback => true

/-! ## What a call does -/

variable {conn} {conn' : Connection ι} {i : ι} {fault : Bool}

theorem answer_execute_cases {s : Statement} {r : Except StoreError s.Reply}
    (h : conn.answer i fault (.execute s) = some (r, conn')) :
    (∃ e, r = .error e ∧ conn.ends fault (.execute s) ∧
        (conn' = conn ∨ conn' = { conn.discard with failed := true })) ∨
      ∃ a db, r = .ok a ∧ conn.failed = false ∧ s.exec conn.current = .ok (a, db) ∧
        conn' = conn.ran i s db := by
  replace h := Option.some.inj h
  split at h
  · next hfailed =>
    cases h
    exact .inl ⟨_, rfl, by simp [ends, hfailed], .inl rfl⟩
  · next hfailed =>
    split at h
    · next hfault =>
      cases h
      exact .inl ⟨_, rfl, by simp [ends, hfault], .inr rfl⟩
    · split at h
      · next hexec =>
        cases h
        exact .inl ⟨_, rfl, by simp [ends, hexec], .inr rfl⟩
      · next a db hexec =>
        cases h
        exact .inr ⟨a, db, rfl, by simpa using hfailed, hexec, rfl⟩

theorem answer_commit_cases {r : Except StoreError Unit}
    (h : conn.answer i fault .commit = some (r, conn')) :
    (r = .ok () ∧ conn.failed = true ∧ conn' = { conn with failed := false }) ∨
      (r = .error .unavailable ∧ conn' = conn.discard) ∨ (r = .ok () ∧ conn' = conn.keep) := by
  replace h := Option.some.inj h
  split at h
  · next hfailed =>
    cases h
    exact .inl ⟨rfl, hfailed, rfl⟩
  · split at h
    · cases h
      exact .inr (.inl ⟨rfl, rfl⟩)
    · cases h
      exact .inr (.inr ⟨rfl, rfl⟩)

theorem answer_rollback {r : Except StoreError Unit}
    (h : conn.answer i fault .rollback = some (r, conn')) :
    conn' = { conn.discard with failed := false } := by
  exact (congrArg Prod.snd (Option.some.inj h)).symm

/-! ## What is stored -/

/-- What is stored is what was kept, and the transaction sees its pending writes on top of it. A
failed transaction has none. -/
structure Sound (db : Database) (conn : Connection ι) : Prop where
  stored_eq_replay : conn.stored = replay db conn.kept
  current_eq_replay : conn.current = replay conn.stored conn.pending
  pending_of_failed : conn.failed = true → conn.pending = []

variable {db : Database}

theorem Sound.discard (h : Sound db conn) (failed : Bool) :
    Sound db { conn.discard with failed := failed } := ⟨h.stored_eq_replay, rfl, fun _ ↦ rfl⟩

theorem Sound.keep (h : Sound db conn) : Sound db conn.keep := by
  refine ⟨?_, rfl, fun _ ↦ rfl⟩
  rw [Connection.keep, replay_append, ← h.stored_eq_replay]
  exact h.current_eq_replay

theorem Sound.ran (h : Sound db conn) (hfailed : conn.failed = false) {s : Statement}
    {a : s.Reply} {db' : Database} (hexec : s.exec conn.current = .ok (a, db')) :
    Sound db (conn.ran i s db') := by
  refine ⟨h.stored_eq_replay, ?_, fun hfailed' ↦ ?_⟩
  · rw [Connection.ran]
    by_cases hwrites : s.writes = true
    · simp only [hwrites, if_true, replay_append, ← h.current_eq_replay]
      exact (Statement.apply_eq hexec).symm
    · have hreads := s.exec_of_reads (by simpa using hwrites) _ _ _ hexec
      simp only [hwrites, if_false, Bool.false_eq_true]
      rw [hreads]
      exact h.current_eq_replay
  · rw [Connection.ran, hfailed] at hfailed'
    cases hfailed'

theorem Sound.answer (h : Sound db conn) {c : Call} {r : Except StoreError c.Reply}
    (hanswer : conn.answer i fault c = some (r, conn')) : Sound db conn' := by
  cases c with
  | execute s =>
    rcases answer_execute_cases hanswer with ⟨e, -, -, rfl | rfl⟩ | ⟨a, db', -, hfailed, hexec, rfl⟩
    · exact h
    · exact h.discard true
    · exact h.ran hfailed hexec
  | commit =>
    rcases answer_commit_cases hanswer with ⟨-, hfailed, rfl⟩ | ⟨-, rfl⟩ | ⟨-, rfl⟩
    · exact ⟨h.stored_eq_replay, h.current_eq_replay, fun _ ↦ h.pending_of_failed hfailed⟩
    · exact h.discard conn.failed
    · exact h.keep
  | rollback =>
    rw [answer_rollback hanswer]
    exact h.discard false

/-! ## Whose writes a call moves -/

/-- What the connection says of the writes of method `j` stays true. -/
structure Spares (j : ι) (conn conn' : Connection ι) : Prop where
  pending : NoneOf j conn.pending → NoneOf j conn'.pending
  kept : NoneOf j conn.kept → NoneOf j conn'.kept
  lost : NoneOf j conn.lost → NoneOf j conn'.lost

variable {j : ι}

theorem spares_discard (h : NoneOf j conn.pending) (failed : Bool) :
    Spares j conn { conn.discard with failed := failed } :=
  ⟨fun _ ↦ noneOf_nil j, id, fun hlost ↦ hlost.append h⟩

theorem spares_keep (h : NoneOf j conn.pending) : Spares j conn conn.keep :=
  ⟨fun _ ↦ noneOf_nil j, fun hkept ↦ hkept.append h, id⟩

theorem spares_ran (hj : j ≠ i) (s : Statement) (db : Database) :
    Spares j conn (conn.ran i s db) := by
  refine ⟨fun hpending ↦ ?_, id, id⟩
  rw [ran]
  split
  · refine hpending.append fun w hw ↦ ?_
    rw [List.mem_singleton.mp hw]
    exact hj.symm
  · exact hpending

/-- **A call leaves the writes of the other methods alone**, unless it ends the transaction while
they are pending. -/
theorem spares_answer {c : Call} {r : Except StoreError c.Reply}
    (h : conn.answer i fault c = some (r, conn')) (hj : j ≠ i)
    (hends : conn.ends fault c → NoneOf j conn.pending) : Spares j conn conn' := by
  cases c with
  | execute s =>
    rcases answer_execute_cases h with ⟨e, -, hrefuse, rfl | rfl⟩ | ⟨a, db, -, -, -, rfl⟩
    · exact ⟨id, id, id⟩
    · exact spares_discard (hends hrefuse) true
    · exact spares_ran hj s db
  | commit =>
    rcases answer_commit_cases h with ⟨-, -, rfl⟩ | ⟨-, rfl⟩ | ⟨-, rfl⟩
    · exact ⟨id, id, id⟩
    · exact spares_discard (hends rfl) conn.failed
    · exact spares_keep (hends rfl)
  | rollback =>
    rw [answer_rollback h]
    exact spares_discard (hends rfl) false

end Connection

/-- A method of the store. -/
structure Operation (α : Type) where
  program : Method α
  transactional : program.Transactional

/-- The methods and their connection. -/
abbrev SharedStore {ι : Type*} (α : ι → Type) :=
  Pool Call Call.Reply StoreError α (Connection ι)

namespace SharedStore

variable {ι : Type*} {α : ι → Type}

/-- The methods before their first call. -/
def start (db : Database) (operations : ∀ i, Operation (α i)) : SharedStore α :=
  ⟨{ stored := db, current := db }, fun i ↦ (operations i).program⟩

/-- The next call of the method ends the transaction. -/
def endsTransaction (p : SharedStore α) (label : ι × Bool) : Bool :=
  match p.threads label.1 with
  | .call c _ => p.state.ends label.2 c
  | _ => false

/-- The method does not end the transaction while writes of another one are pending. -/
def Exclusive (p : SharedStore α) (label : ι × Bool) : Prop :=
  endsTransaction p label = true → ∀ w ∈ p.state.pending, w.owner = label.1

instance [DecidableEq ι] (p : SharedStore α) (label : ι × Bool) : Decidable (Exclusive p label) :=
  inferInstanceAs (Decidable (_ → _))

/-- What is stored is what was kept; a method that has returned has its writes kept, and a method
that has raised has left none behind. -/
structure Acknowledged (db : Database) (p : SharedStore α) : Prop where
  stored : p.state.stored = replay db p.state.kept
  returned : ∀ i a, p.threads i = .ret a → NoneOf i p.state.pending ∧ NoneOf i p.state.lost
  raised : ∀ i e, p.threads i = .raise e → NoneOf i p.state.pending ∧ NoneOf i p.state.kept

/-! ## What a method can be in the middle of -/

/-- Where a method is, and what the connection says of its writes there. -/
inductive Stage (conn : Connection ι) (i : ι) {α : Type} (p : Method α) : Prop where
  /-- It has not written. -/
  | unwritten (h : p.Transactional) (hpending : NoneOf i conn.pending)
      (hkept : NoneOf i conn.kept) (hlost : NoneOf i conn.lost)
  /-- It is in its last block. -/
  | writing {β : Type} (body : Method β) (f : β → Method α) (hp : p = Method.tx body >>= f)
      (hbody : body.Body) (hf : ∀ b, ∃ a, f b = .ret a) (hkept : NoneOf i conn.kept)
      (hlost : NoneOf i conn.lost)
  | undoing (e : StoreError) (hp : p = Method.undo e) (hkept : NoneOf i conn.kept)
  | returned (a : α) (hp : p = .ret a) (hpending : NoneOf i conn.pending)
      (hlost : NoneOf i conn.lost)
  | raised (e : StoreError) (hp : p = .raise e) (hpending : NoneOf i conn.pending)
      (hkept : NoneOf i conn.kept)

variable {conn conn' : Connection ι} {i : ι} {p : Method β}

/-- The steps of the others. -/
theorem Stage.of_spares (h : Stage conn i p) (hspares : conn.Spares i conn') :
    Stage conn' i p := by
  cases h with
  | unwritten h hpending hkept hlost =>
    exact .unwritten h (hspares.pending hpending) (hspares.kept hkept) (hspares.lost hlost)
  | writing body f hp hbody hf hkept hlost =>
    exact .writing body f hp hbody hf (hspares.kept hkept) (hspares.lost hlost)
  | undoing e hp hkept => exact .undoing e hp (hspares.kept hkept)
  | returned a hp hpending hlost =>
    exact .returned a hp (hspares.pending hpending) (hspares.lost hlost)
  | raised e hp hpending hkept =>
    exact .raised e hp (hspares.pending hpending) (hspares.kept hkept)

/-- The rollback of a method that raises. -/
theorem undoing_step {e : StoreError} (hkept : NoneOf i conn.kept) {c : Call}
    {k : Except StoreError c.Reply → Method β} (hcall : Method.undo e = .call c k)
    {fault : Bool} {r : Except StoreError c.Reply}
    (hanswer : conn.answer i fault c = some (r, conn')) : Stage conn' i (k r) := by
  rw [Method.undo_eq] at hcall
  cases hcall
  rw [Connection.answer_rollback hanswer]
  obtain ⟨e', hraise⟩ := Method.undone_eq_raise e r
  exact .raised e' hraise (noneOf_nil i) hkept

/-- A statement of a block either raises, which ends the block, or is executed. -/
theorem execute_step {γ : Type} {s : Statement} {k : Except StoreError s.Reply → Method γ}
    {f : γ → Method β} (hraises : ∀ e, k (.error e) = .raise e) (hkept : NoneOf i conn.kept)
    {fault : Bool} {r : Except StoreError s.Reply}
    (hanswer : conn.answer i fault (.execute s) = some (r, conn'))
    (hran : ∀ a db, Stage (conn.ran i s db) i (Method.tx (k (.ok a)) >>= f)) :
    Stage conn' i (Method.tx (k r) >>= f) := by
  rcases Connection.answer_execute_cases hanswer with
    ⟨e, rfl, -, hconn⟩ | ⟨a, db, rfl, -, -, rfl⟩
  · rw [hraises e, Method.tx_raise_bind]
    refine .undoing e rfl ?_
    rcases hconn with rfl | rfl <;> exact hkept
  · exact hran a db

/-- The last block: what it writes is pending until its own commit keeps it or it raises. -/
theorem writing_step {db : Database} (hsound : conn.Sound db) {γ : Type} {body : Method γ}
    {f : γ → Method β} (hbody : body.Body) (hf : ∀ b, ∃ a, f b = .ret a)
    (hkept : NoneOf i conn.kept) (hlost : NoneOf i conn.lost) {c : Call}
    {k : Except StoreError c.Reply → Method β} (hcall : Method.tx body >>= f = .call c k)
    {fault : Bool} {r : Except StoreError c.Reply}
    (hanswer : conn.answer i fault c = some (r, conn')) : Stage conn' i (k r) := by
  cases body with
  | ret b =>
    rw [Method.tx_ret_bind] at hcall
    cases hcall
    obtain ⟨a, ha⟩ := hf b
    rcases Connection.answer_commit_cases hanswer with
      ⟨rfl, hfailed, rfl⟩ | ⟨rfl, rfl⟩ | ⟨rfl, rfl⟩
    · -- nothing of its own was pending when the transaction failed
      refine .returned a ha ?_ hlost
      rw [hsound.pending_of_failed hfailed]
      exact noneOf_nil i
    · exact .undoing _ rfl hkept
    · exact .returned a ha (noneOf_nil i) hlost
  | raise e =>
    rw [Method.tx_raise_bind] at hcall
    exact undoing_step hkept hcall hanswer
  | call c' k' =>
    cases c' with
    | execute s =>
      rw [Method.tx_call_bind] at hcall
      cases hcall
      exact execute_step hbody.1 hkept hanswer fun a _ ↦
        .writing (k' (.ok a)) f rfl (hbody.2 a) hf hkept hlost
    | commit => exact hbody.elim
    | rollback => exact hbody.elim

/-- A block that only reads leaves the method as it was. -/
theorem reading_step {γ : Type} {body : Method γ} {f : γ → Method β} (hbody : body.Body)
    (hreads : body.Reads) (hf : ∀ b, (f b).Transactional) (hpending : NoneOf i conn.pending)
    (hkept : NoneOf i conn.kept) (hlost : NoneOf i conn.lost) {c : Call}
    {k : Except StoreError c.Reply → Method β} (hcall : Method.tx body >>= f = .call c k)
    {fault : Bool} {r : Except StoreError c.Reply}
    (hanswer : conn.answer i fault c = some (r, conn')) : Stage conn' i (k r) := by
  cases body with
  | ret b =>
    rw [Method.tx_ret_bind] at hcall
    cases hcall
    rcases Connection.answer_commit_cases hanswer with
      ⟨rfl, -, rfl⟩ | ⟨rfl, rfl⟩ | ⟨rfl, rfl⟩
    · exact .unwritten (hf b) hpending hkept hlost
    · exact .undoing _ rfl hkept
    · exact .unwritten (hf b) (noneOf_nil i) (hkept.append hpending) hlost
  | raise e =>
    rw [Method.tx_raise_bind] at hcall
    exact undoing_step hkept hcall hanswer
  | call c' k' =>
    cases c' with
    | execute s =>
      rw [Method.tx_call_bind] at hcall
      cases hcall
      refine execute_step hbody.1 hkept hanswer fun a db' ↦
        .unwritten (.reading (hbody.2 a) (hreads.2 (.ok a)) hf) ?_ hkept hlost
      have hpure : s.writes = false := hreads.1
      rw [Connection.ran, hpure]
      exact hpending
    | commit => exact hbody.elim
    | rollback => exact hbody.elim

/-- **One's own step.** -/
theorem Stage.own {db : Database} (h : Stage conn i p) (hsound : conn.Sound db) {c : Call}
    {k : Except StoreError c.Reply → Method β} (hp : p = .call c k) {fault : Bool}
    {r : Except StoreError c.Reply} (hanswer : conn.answer i fault c = some (r, conn')) :
    Stage conn' i (k r) := by
  cases h with
  | unwritten h hpending hkept hlost =>
    cases h with
    | ret a => cases hp
    | raise e => cases hp
    | reading hbody hreads hf =>
      exact reading_step hbody hreads hf hpending hkept hlost hp hanswer
    | last hbody hf => exact writing_step hsound hbody hf hkept hlost hp hanswer
  | writing body f hp' hbody hf hkept hlost =>
    exact writing_step hsound hbody hf hkept hlost (hp'.symm.trans hp) hanswer
  | undoing e hp' hkept => exact undoing_step hkept (hp'.symm.trans hp) hanswer
  | returned a hp' => rw [hp'] at hp; cases hp
  | raised e hp' => rw [hp'] at hp; cases hp

/-! ## Runs -/

section Runs

variable [DecidableEq ι]

abbrev step : SharedStore α → ι × Bool → SharedStore α := Pool.step Connection.answer

/-- **What every run keeps**: the connection is sound, and each method is at a stage. -/
theorem stage_of_exclusive (db : Database) (operations : ∀ i, Operation (α i))
    (as : List (ι × Bool))
    (h : Transition.AllSteps step Exclusive (start db operations) as) :
    (Transition.run step (start db operations) as).state.Sound db ∧
      ∀ j, Stage (Transition.run step (start db operations) as).state j
        ((Transition.run step (start db operations) as).threads j) := by
  refine Pool.run_forall (J := fun j conn p ↦ Stage conn j p) ?_ ⟨rfl, rfl, fun _ ↦ rfl⟩
    (fun j ↦ .unwritten (operations j).transactional (noneOf_nil j) (noneOf_nil j)
      (noneOf_nil j)) h
  intro p i fault c k r conn' hok hsound hstage hcall hanswer
  refine ⟨hsound.answer hanswer, (hstage i).own hsound hcall hanswer, fun j hj ↦ ?_⟩
  refine (hstage j).of_spares (Connection.spares_answer hanswer hj fun hends w hw ↦ ?_)
  have hended : endsTransaction p (i, fault) = true := by
    rw [endsTransaction, hcall]
    exact hends
  rw [hok hended w hw]
  exact hj.symm

/-- **Acknowledged writes are durable** in every run in which no method ends the transaction while
writes of another one are pending: a method that returns has its writes committed, and one that
raises leaves none behind. -/
theorem acknowledged_of_exclusive (db : Database) (operations : ∀ i, Operation (α i))
    (as : List (ι × Bool))
    (h : Transition.AllSteps step Exclusive (start db operations) as) :
    Acknowledged db (Transition.run step (start db operations) as) := by
  obtain ⟨hsound, hstage⟩ := stage_of_exclusive db operations as h
  refine ⟨hsound.stored_eq_replay, fun i a ha ↦ ?_, fun i e he ↦ ?_⟩
  · cases hstage i with
    | unwritten h hpending hkept hlost => exact ⟨hpending, hlost⟩
    | writing body f hp =>
      obtain ⟨c, k, hcall⟩ := Method.exists_call_of_tx body f
      cases ha.symm.trans (hp.trans hcall)
    | undoing e hp => cases ha.symm.trans (hp.trans (Method.undo_eq e))
    | returned a hp hpending hlost => exact ⟨hpending, hlost⟩
    | raised e hp => cases ha.symm.trans hp
  · cases hstage i with
    | unwritten h hpending hkept hlost => exact ⟨hpending, hkept⟩
    | writing body f hp =>
      obtain ⟨c, k, hcall⟩ := Method.exists_call_of_tx body f
      cases he.symm.trans (hp.trans hcall)
    | undoing e' hp => cases he.symm.trans (hp.trans (Method.undo_eq e'))
    | returned a hp => cases he.symm.trans hp
    | raised e' hp hpending hkept => exact ⟨hpending, hkept⟩

end Runs

/-! ### A task that changes its state, and an event without its task -/

def sampleEvent : AuditEvent :=
  { eventId := "e", seq := 1, taskRunId := some "u", kind := .taskReceived, occurredAt := 1 }

def sampleOperations : Bool → Operation Unit
  | false =>
    ⟨Method.updateTaskState "t" .running 1, Method.transactional_updateTaskState "t" .running 1⟩
  | true => ⟨Method.appendEvent sampleEvent, Method.transactional_appendEvent sampleEvent⟩

/-- One after the other, the first is durable and the second leaves nothing behind. -/
theorem acknowledged_of_exclusive_in_turn :
    Acknowledged sampleDatabase (Transition.run step (start sampleDatabase sampleOperations)
      [(false, false), (false, false), (true, false), (true, false)]) :=
  acknowledged_of_exclusive sampleDatabase sampleOperations _ (by decide)

/-- The second fails between the first one's statement and its commit. -/
def betweenStatementAndCommit : SharedStore fun _ : Bool ↦ Unit :=
  Transition.run step (start sampleDatabase sampleOperations)
    [(false, false), (true, false), (true, false), (false, false)]

/-- The first has returned, and the task is in its old state. -/
theorem returns_without_its_write :
    ¬Acknowledged sampleDatabase betweenStatementAndCommit ∧
      betweenStatementAndCommit.threads false = .ret () ∧
      (betweenStatementAndCommit.state.stored.taskRuns.find? "t").map TaskRun.state
        = some .created := by
  refine ⟨fun h ↦ ?_, rfl, by decide⟩
  exact (h.returned false () rfl).2 _ List.mem_cons_self rfl

end SharedStore

end Orchestra
