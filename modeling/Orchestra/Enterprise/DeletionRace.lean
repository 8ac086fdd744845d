import Orchestra.Enterprise.DeletionRetry
import Orchestra.Enterprise.DeletionSteps
import Orchestra.Foundation.Overtaking
import Orchestra.Foundation.Pool
import Orchestra.Foundation.Protocol

/-!
# Several workers on one deletion

A worker reads the row of the job, decides what to do, and updates the row by statements that do not
look at it again. Another worker may have completed the job in between, and the update takes the job
out of `deleted` or replaces its evidence.

What each worker does for itself is right: it updates the row only after it has read that the job is
not completed (`obeys_rerun`). So a completed job stays completed in every run in which no worker is
overtaken: between its last read and each of its updates nobody completes the job
(`completed_stays`).
-/

namespace Orchestra

open EventStore Interaction LifecycleManager Overtaking Transition

namespace DeletionRace

variable {ι : Type} [DecidableEq ι]

/-! ## The workers and the stores -/

/-- The stores, and the reads and completions of the job so far. -/
structure Stores (ι : Type) where
  world : LifecycleWorld
  marks : List (Mark ι) := []

/-- What a call of a worker adds to the history. -/
def marksOf (jobId : String) (i : ι) (env : LifecycleEnv) : LifecycleCall → List (Mark ι)
  | .getDeletionJob id => if id = jobId then [.read i] else []
  | .updateDeletionJob id state _ _ _ =>
    if id = jobId ∧ state = .deleted ∧ env.faults.update state = false then [.stored i] else []
  | _ => []

/-- A call never waits. What the environment supplies to it is up to the scheduler. -/
def answer (jobId : String) : Server ι LifecycleEnv LifecycleCall LifecycleException (Stores ι)
    LifecycleCall.Reply :=
  fun s i env c ↦ some ((c.answer env s.world).1,
    { world := (c.answer env s.world).2, marks := s.marks ++ marksOf jobId i env c })

/-- Workers that execute or retry one job. -/
abbrev Workers (ι : Type) :=
  Pool LifecycleCall LifecycleCall.Reply LifecycleException (fun _ : ι ↦ DeletionJob) (Stores ι)

def step (jobId : String) : Workers ι → ι × LifecycleEnv → Workers ι := Pool.step (answer jobId)

/-- The program of a worker. -/
def rerun (P : Primitives) (jobId : String) : Rerun → Worker DeletionJob
  | .execute env => Worker.executeDeletion P env jobId
  | .retry env => Worker.retryDeletion P env jobId

def start (P : Primitives) (w : LifecycleWorld) (jobId : String) (calls : ι → Rerun) :
    Workers ι where
  state := { world := w }
  threads := fun i ↦ rerun P jobId (calls i)

/-- The step updates the row of the job. -/
def updates (jobId : String) (p : Workers ι) (label : ι × LifecycleEnv) : Bool :=
  match p.threads label.1 with
  | .call (.updateDeletionJob id state _ _ _) _ =>
    decide (id = jobId) && !label.2.faults.update state
  | _ => false

/-- The worker does not update the row after somebody has completed the job since its last read. -/
def NotOvertaken (jobId : String) (p : Workers ι) (label : ι × LifecycleEnv) : Prop :=
  updates jobId p label = true → upToDate label.1 p.state.marks = true

instance (jobId : String) (p : Workers ι) (label : ι × LifecycleEnv) :
    Decidable (NotOvertaken jobId p label) := inferInstanceAs (Decidable (_ → _))

/-- A completed job is still completed, with the same evidence. -/
def StaysCompleted (jobId : String) (w w' : LifecycleWorld) : Prop :=
  stateAt w jobId = some .deleted →
    stateAt w' jobId = some .deleted ∧ evidenceAt w' jobId = evidenceAt w jobId

theorem StaysCompleted.refl (jobId : String) (w : LifecycleWorld) : StaysCompleted jobId w w :=
  fun h ↦ ⟨h, rfl⟩

theorem StaysCompleted.trans {jobId : String} {w w' w'' : LifecycleWorld}
    (h : StaysCompleted jobId w w') (h' : StaysCompleted jobId w' w'') :
    StaysCompleted jobId w w'' := fun hdeleted ↦
  have hmid := h hdeleted
  have hend := h' hmid.1
  ⟨hend.1, hend.2.trans hmid.2⟩

/-! ## What a worker does for itself -/

/-- A worker may update the row after it has read that the job is not completed. -/
def guard (jobId : String) :
    Protocol LifecycleCall LifecycleCall.Reply LifecycleException Bool where
  allowed := fun fresh c ↦
    match c with
    | .updateDeletionJob _ _ _ _ _ => fresh = true
    | _ => True
  next := fun fresh c r ↦
    match c, r with
    | .getDeletionJob id, .ok (some row) => decide (id = jobId ∧ row.state ≠ .deleted)
    | .getDeletionJob _, _ => false
    | _, _ => fresh

/-- The calls that read or update jobs. -/
def OnJobs : LifecycleCall → Prop
  | .getDeletionJob _ => True
  | .updateDeletionJob _ _ _ _ _ => True
  | _ => False

section Programs

variable {α : Type} {P : Primitives} {env : LifecycleEnv} {jobId : String} {fresh : Bool}

theorem guard_of_not_onJobs {c : LifecycleCall} (h : ¬OnJobs c) :
    (guard jobId).allowed fresh c ∧ ∀ r, (guard jobId).next fresh c r = fresh := by
  cases c with
  | getDeletionJob id => exact absurd trivial h
  | updateDeletionJob id state lastError e increment => exact absurd trivial h
  | _ => exact ⟨trivial, fun _ ↦ rfl⟩

theorem calls_ask {φ : LifecycleCall → Prop} {c : LifecycleCall} (h : φ c) :
    Calls φ (Worker.ask c) := calls_perform.mpr h

theorem calls_excepting {φ : LifecycleCall → Prop} {p : Worker α} {h : Raised → Worker α}
    (hp : Calls φ p) (hh : ∀ exc, Calls φ (h exc)) : Calls φ (Worker.excepting p h) := by
  refine hp.tryCatch fun e ↦ ?_
  cases e with
  | manager e => trivial
  | adapter exc => exact hh exc

/-- What most adapters do: one call, with a result for each way it can end. -/
theorem calls_attempt {φ : LifecycleCall → Prop} {c : LifecycleCall} (hc : φ c)
    {f : c.Reply → Worker α} (hf : ∀ a, Calls φ (f a)) {h : Raised → Worker α}
    (hh : ∀ exc, Calls φ (h exc)) : Calls φ (Worker.excepting (Worker.ask c >>= f) h) :=
  calls_excepting ((calls_ask hc).bind hf) hh

theorem calls_redactAll (es : List AuditEvent) :
    Calls (fun c ↦ ¬OnJobs c) (Worker.redactAll es) := by
  induction es with
  | nil => exact calls_pure []
  | cons e es ih =>
    refine Calls.bind ?_ fun kept ↦ ih.bind fun rest ↦ calls_pure _
    exact calls_attempt not_false (fun _ ↦ calls_pure _) fun _ ↦ calls_pure _

theorem calls_deleteReceiptCopies (tenantId id : String) :
    Calls (fun c ↦ ¬OnJobs c) (Worker.deleteReceiptCopies P env tenantId id) := by
  refine (calls_ask not_false).bind fun receiptRow ↦ Calls.bind ?_ fun removed ↦
    Calls.bind ?_ fun kept ↦ calls_pure _
  · cases receiptRow with
    | none => exact calls_pure _
    | some r =>
      refine calls_attempt not_false (fun deleted ↦ ?_) fun _ ↦ calls_pure _
      cases deleted <;> exact calls_pure _
  · exact calls_attempt not_false (fun events ↦ calls_redactAll _) fun _ ↦ calls_pure _

/-- An adapter leaves the jobs alone. -/
theorem calls_runDeleter (job : DeletionJob) :
    Calls (fun c ↦ ¬OnJobs c) (Worker.runDeleter P env job) := by
  rw [Worker.runDeleter]
  cases job.resourceKind with
  | artifact =>
    refine (calls_ask not_false).bind fun wired ↦ ?_
    cases wired with
    | false => exact calls_pure _
    | true =>
      refine (calls_ask not_false).bind fun payload ↦ Calls.bind ?_ fun _ ↦ calls_pure _
      refine calls_attempt not_false (fun deleted ↦ ?_) fun _ ↦ calls_pure _
      cases deleted <;> exact calls_pure _
  | receipt => exact calls_deleteReceiptCopies job.tenantId job.resourceId
  | event =>
    refine calls_attempt not_false (fun redacted ↦ ?_) fun _ ↦ calls_pure _
    cases redacted <;> exact calls_pure _
  | webhook =>
    refine (calls_ask not_false).bind fun wired ↦ ?_
    cases wired with
    | false => exact calls_pure _
    | true =>
      refine calls_attempt not_false (fun deleted ↦ ?_) fun _ ↦ calls_pure _
      cases deleted <;> exact calls_pure _
  | cache => exact calls_pure _
  | backup => exact calls_pure _

/-- Any ending. -/
def anyhow : Except LifecycleException α → Bool → Prop := fun _ _ ↦ True

/-- A call that is made in any state. -/
theorem obeys_ask_bind {c : LifecycleCall} {f : c.Reply → Worker α}
    (hallowed : (guard jobId).allowed fresh c)
    (hok : ∀ a, Obeys (guard jobId) (f a) anyhow ((guard jobId).next fresh c (.ok a))) :
    Obeys (guard jobId) (Worker.ask c >>= f) anyhow fresh := by
  refine obeys_bind.mpr (obeys_perform.mpr ⟨hallowed, fun r ↦ ?_⟩)
  cases r with
  | ok a => exact hok a
  | error e => trivial

theorem obeys_recordOutcome (row : DeletionJob) (state : DeletionState) (lastError : Option String)
    (e : DeletionEvidence) (increment : Bool) (kind : EventKind)
    (details : List (String × Json)) : Obeys (guard jobId)
      (Worker.recordOutcome row state lastError e increment kind details) anyhow true := by
  refine obeys_ask_bind rfl fun _ ↦ obeys_ask_bind trivial fun _ ↦
    obeys_ask_bind trivial fun job ↦ ?_
  cases job <;> trivial

theorem obeys_runJob (row : DeletionJob) :
    Obeys (guard jobId) (Worker.runJob P env row) anyhow true := by
  have htry : Calls (fun c ↦ ¬OnJobs c) (Worker.tryDeleter P env row) :=
    calls_excepting ((calls_runDeleter row).bind fun _ ↦ calls_pure _) fun _ ↦ calls_pure _
  refine obeys_bind.mpr (Obeys.of_calls htry (fun _ ↦ guard_of_not_onJobs) fun r ↦ ?_)
  cases r with
  | error e => trivial
  | ok outcome =>
    cases outcome with
    | error exc => exact obeys_recordOutcome row _ _ _ _ _ _
    | ok e => exact obeys_recordOutcome row _ _ _ _ _ _

/-- The state after the row has been read. -/
theorem next_getDeletionJob {row : DeletionJob} (h : row.state ≠ .deleted) :
    (guard jobId).next fresh (.getDeletionJob jobId) (.ok (some row)) = true :=
  decide_eq_true ⟨rfl, h⟩

theorem obeys_executeDeletion :
    Obeys (guard jobId) (Worker.executeDeletion P env jobId) anyhow fresh := by
  refine obeys_ask_bind trivial fun found ↦ ?_
  cases found with
  | none => trivial
  | some row =>
    dsimp only
    split_ifs with hterminal
    · trivial
    · have hdeleted : row.state ≠ .deleted := fun h ↦ hterminal (by simp [h])
      rw [next_getDeletionJob hdeleted]
      exact obeys_ask_bind rfl fun _ ↦ obeys_runJob row

theorem obeys_retryDeletion :
    Obeys (guard jobId) (Worker.retryDeletion P env jobId) anyhow fresh := by
  refine obeys_ask_bind trivial fun found ↦ ?_
  cases found with
  | none => trivial
  | some row =>
    dsimp only
    cases hretry : retryError jobId row with
    | some e => trivial
    | none =>
      have hdeleted : row.state ≠ .deleted := fun h ↦
        (retryError_eq_none_iff.mp hretry).1 (by simp [h])
      rw [next_getDeletionJob hdeleted]
      exact obeys_ask_bind rfl fun _ ↦ obeys_executeDeletion

/-- **A worker updates the row only after it has read that the job is not completed.** -/
theorem obeys_rerun (call : Rerun) :
    Obeys (guard jobId) (rerun P jobId call) anyhow fresh := by
  cases call with
  | execute env => exact obeys_executeDeletion
  | retry env => exact obeys_retryDeletion

end Programs

/-! ## What a call does to the job -/

section Calls

variable {env : LifecycleEnv} {w : LifecycleWorld} {jobId : String}

/-- Only updates change jobs. -/
theorem jobs_answer {c : LifecycleCall} (h : ¬OnJobs c) :
    (c.answer env w).2.db.jobs = w.db.jobs := by
  cases c with
  | getDeletionJob id => rfl
  | updateDeletionJob id state lastError e increment => exact absurd trivial h
  | artifactStoreWired | artifactPayload | webhookDeleterWired => rfl
  | deleteArtifact id =>
    rw [LifecycleCall.answer]
    split
    · rfl
    · split
      · rfl
      · split_ifs <;> rfl
  | deleteWebhook id =>
    rw [LifecycleCall.answer]
    split
    · rfl
    · split
      · rfl
      · split_ifs <;> rfl
  | getReceipt id => rw [LifecycleCall.answer]; split <;> rfl
  | deleteReceipt id => rw [LifecycleCall.answer]; split <;> rfl
  | listEventsForResource tenantId => rw [LifecycleCall.answer]; split <;> rfl
  | redactEventPayload eventId => rw [LifecycleCall.answer]; split <;> rfl
  | emitAudit kind payload => exact emitAudit_jobs env w kind "orchestra" payload

/-- The state of the job after an update of it. -/
theorem stateAt_updateJob_ne {now : Timestamp} {state : DeletionState} {lastError : Option String}
    {e : Option DeletionEvidence} {increment : Bool} (h : state ≠ .deleted) :
    stateAt (updateJob w jobId now state lastError e increment) jobId ≠ some .deleted := by
  rw [stateAt, updateJob, find?_updateDeletionJob, Option.map_map]
  cases w.db.jobs.jobs.find? jobId with
  | none => exact Option.some_ne_none _ ∘ Eq.symm
  | some row =>
    intro heq
    exact h (Option.some.inj heq)

/-- An update of another job. -/
theorem find?_updateJob_of_ne {id : String} (h : jobId ≠ id) (now : Timestamp)
    (state : DeletionState) (lastError : Option String) (e : Option DeletionEvidence)
    (increment : Bool) :
    (updateJob w id now state lastError e increment).db.jobs.jobs.find? jobId =
      w.db.jobs.jobs.find? jobId := by
  rw [updateJob, updateDeletionJob, KeyedTable.find?_updateAt_of_ne _ _ _ h]

end Calls

/-! ## One step -/

/-- As long as nobody has completed the job since the last read of the worker, it is not
completed. -/
def NotCompleted (jobId : String) (i : ι) (s : Stores ι) : Prop :=
  upToDate i s.marks = true → stateAt s.world jobId ≠ some .deleted

/-- The worker has read that the job is not completed, if it is going to update it. -/
def Careful (jobId : String) (i : ι) (s : Stores ι) (p : Worker DeletionJob) : Prop :=
  ∃ fresh, (fresh = true → NotCompleted jobId i s) ∧ Obeys (guard jobId) p anyhow fresh

/-- What a step does to the job: it leaves the row, or it is an update by a worker that is up to
date. -/
inductive Moves (jobId : String) (i : ι) (env : LifecycleEnv) (c : LifecycleCall)
    (s s' : Stores ι) : Prop where
  | reads (hc : c = .getDeletionJob jobId) (hworld : s'.world = s.world)
      (hmarks : s'.marks = s.marks ++ [.read i])
  | leaves (hrow : s'.world.db.jobs.jobs.find? jobId = s.world.db.jobs.jobs.find? jobId)
      (hmarks : s'.marks = s.marks)
  | completes (hbefore : stateAt s.world jobId ≠ some .deleted)
      (hmarks : s'.marks = s.marks ++ [.stored i])
  | reopens (hbefore : stateAt s.world jobId ≠ some .deleted)
      (hafter : stateAt s'.world jobId ≠ some .deleted) (hmarks : s'.marks = s.marks)

section Step

variable {jobId : String} {i : ι} {env : LifecycleEnv} {c : LifecycleCall} {s s' : Stores ι}

omit [DecidableEq ι] in
theorem moves_of_not_onJobs (h : ¬OnJobs c) :
    Moves jobId i env c s ⟨(c.answer env s.world).2, s.marks ++ marksOf jobId i env c⟩ := by
  refine .leaves (congrArg (fun t ↦ t.jobs.find? jobId) (jobs_answer h)) ?_
  cases c with
  | getDeletionJob id => exact absurd trivial h
  | updateDeletionJob id state lastError e increment => exact absurd trivial h
  | _ => exact List.append_nil s.marks

/-- **What a step does.** -/
theorem moves_answer {p : Workers ι} {k : Except LifecycleException c.Reply → Worker DeletionJob}
    (hcall : p.threads i = .call c k) (hcareful : Careful jobId i p.state (p.threads i))
    (hok : NotOvertaken jobId p (i, env)) :
    Moves jobId i env c p.state
      ⟨(c.answer env p.state.world).2, p.state.marks ++ marksOf jobId i env c⟩ := by
  obtain ⟨fresh, hfresh, hobeys⟩ := hcareful
  rw [hcall] at hobeys
  cases c with
  | getDeletionJob id =>
    by_cases hid : id = jobId
    · exact .reads (congrArg _ hid) rfl (congrArg _ (if_pos hid))
    · refine .leaves rfl ?_
      rw [marksOf, if_neg hid, List.append_nil]
  | updateDeletionJob id state lastError e increment =>
    by_cases heffective : id = jobId ∧ env.faults.update state = false
    · obtain ⟨rfl, hfault⟩ := heffective
      have hupdates : updates id p (i, env) = true := by
        rw [updates, hcall]
        simp [hfault]
      have hbefore := hfresh hobeys.1 (hok hupdates)
      rw [LifecycleCall.answer, hfault, if_neg Bool.false_ne_true, marksOf]
      by_cases hstate : state = .deleted
      · rw [if_pos ⟨rfl, hstate, hfault⟩]
        exact .completes hbefore rfl
      · rw [if_neg fun h ↦ hstate h.2.1, List.append_nil]
        exact .reopens hbefore (stateAt_updateJob_ne hstate) rfl
    · have hmarks : marksOf jobId i env (.updateDeletionJob id state lastError e increment) = [] :=
        if_neg fun h ↦ heffective ⟨h.1, h.2.2⟩
      rw [hmarks, List.append_nil, LifecycleCall.answer]
      refine .leaves ?_ rfl
      split_ifs with hfault
      · rfl
      · have hne : jobId ≠ id := fun h ↦ heffective ⟨h.symm, by simpa using hfault⟩
        exact find?_updateJob_of_ne hne _ _ _ _ _
  | _ => exact moves_of_not_onJobs not_false

namespace Moves

omit [DecidableEq ι] in
theorem staysCompleted (h : Moves jobId i env c s s') :
    StaysCompleted jobId s.world s'.world := by
  cases h with
  | reads hc hworld hmarks =>
    rw [hworld]
    exact StaysCompleted.refl jobId s.world
  | leaves hrow hmarks =>
    intro hdeleted
    rw [stateAt, evidenceAt, evidenceAt, hrow]
    exact ⟨hdeleted, rfl⟩
  | completes hbefore hmarks => exact fun hdeleted ↦ absurd hdeleted hbefore
  | reopens hbefore hafter hmarks => exact fun hdeleted ↦ absurd hdeleted hbefore

/-- A step that is not a read of one's own. -/
theorem notCompleted {j : ι} (h : Moves jobId i env c s s')
    (hj : c = .getDeletionJob jobId → j ≠ i) (hs : NotCompleted jobId j s) :
    NotCompleted jobId j s' := by
  cases h with
  | reads hc hworld hmarks =>
    rw [NotCompleted, hworld, hmarks, upToDate_concat_read (hj hc).symm]
    exact hs
  | leaves hrow hmarks =>
    rw [NotCompleted, stateAt, hrow, hmarks]
    exact hs
  | completes hbefore hmarks =>
    rw [NotCompleted, hmarks, upToDate_concat_stored]
    exact fun h ↦ absurd h Bool.false_ne_true
  | reopens hbefore hafter hmarks => exact fun _ ↦ hafter

end Moves

/-- One's own step. -/
theorem careful_own {p : Worker DeletionJob}
    {k : Except LifecycleException c.Reply → Worker DeletionJob} (hcall : p = .call c k)
    (hcareful : Careful jobId i s p)
    (hmoves : Moves jobId i env c s ⟨(c.answer env s.world).2, s.marks ++ marksOf jobId i env c⟩) :
    Careful jobId i ⟨(c.answer env s.world).2, s.marks ++ marksOf jobId i env c⟩
      (k (c.answer env s.world).1) := by
  obtain ⟨fresh, hfresh, hobeys⟩ := hcareful
  rw [hcall] at hobeys
  refine ⟨_, fun hnext ↦ ?_, hobeys.2 _⟩
  cases c with
  | getDeletionJob id =>
    -- the reply is the row as it is
    rw [LifecycleCall.answer, guard] at hnext
    cases hrow : s.world.db.jobs.jobs.find? id with
    | none =>
      rw [hrow] at hnext
      cases hnext
    | some row =>
      rw [hrow] at hnext
      obtain ⟨rfl, hstate⟩ := of_decide_eq_true hnext
      intro _ hdeleted
      have hsame : stateAt s.world id = some .deleted := hdeleted
      rw [stateAt, hrow, Option.map_some, Option.some.injEq] at hsame
      exact hstate hsame
  | _ => exact hmoves.notCompleted (by rintro ⟨⟩) (hfresh hnext)

end Step

/-! ## Runs -/

theorem careful_start (P : Primitives) (w : LifecycleWorld) (jobId : String) (calls : ι → Rerun)
    (j : ι) : Careful jobId j (start P w jobId calls).state ((start P w jobId calls).threads j) :=
  ⟨false, nofun, obeys_rerun (calls j)⟩

/-- **Every step of a run that is not overtaken** keeps a completed job, and the workers stay
careful. -/
theorem run_careful {jobId : String} {p : Workers ι} {as : List (ι × LifecycleEnv)}
    (hcareful : ∀ j, Careful jobId j p.state (p.threads j))
    (h : AllSteps (step jobId) (NotOvertaken jobId) p as) :
    StaysCompleted jobId p.state.world (run (step jobId) p as).state.world ∧
      ∀ j, Careful jobId j (run (step jobId) p as).state ((run (step jobId) p as).threads j) := by
  refine Pool.run_forall (m := answer jobId)
    (I := fun s ↦ StaysCompleted jobId p.state.world s.world)
    (J := fun j s q ↦ Careful jobId j s q) ?_ (StaysCompleted.refl jobId p.state.world) hcareful h
  intro p' i env c k r s' hok hstays hall hcall hanswer
  obtain ⟨rfl, rfl⟩ := Prod.mk.inj (Option.some.inj hanswer)
  have hmoves := moves_answer hcall (hall i) hok
  refine ⟨hstays.trans hmoves.staysCompleted, careful_own hcall (hall i) hmoves, fun j hj ↦ ?_⟩
  obtain ⟨fresh, hfresh, hobeys⟩ := hall j
  exact ⟨fresh, fun h ↦ hmoves.notCompleted (fun _ ↦ hj) (hfresh h), hobeys⟩

/-- **A completed deletion stays completed** in every run of any number of workers in which no
worker updates the row of the job after another one has completed it since its last read. -/
theorem completed_stays (P : Primitives) (w : LifecycleWorld) (jobId : String) (calls : ι → Rerun)
    (pre post : List (ι × LifecycleEnv))
    (h : AllSteps (step jobId) (NotOvertaken jobId) (start P w jobId calls) (pre ++ post)) :
    StaysCompleted jobId (run (step jobId) (start P w jobId calls) pre).state.world
      (run (step jobId) (start P w jobId calls) (pre ++ post)).state.world := by
  obtain ⟨hpre, hpost⟩ := allSteps_append.mp h
  have hcareful := (run_careful (careful_start P w jobId calls) hpre).2
  rw [run_append]
  exact (run_careful hcareful hpost).1

/-! ### Two workers -/

def draftJob : DeletionJob where
  jobId := "j1"
  tenantId := "tA"
  resourceKind := .artifact
  resourceId := "a1"
  requestedAt := 0
  requestedBy := "alice"

/-- An artifact and the job that deletes it. -/
def draftWorld : LifecycleWorld where
  db := { jobs := ⟨⟨[draftJob], by decide⟩, by decide⟩ }
  artifacts := some ⟨[⟨"a1", .str "draft"⟩], by decide⟩

def callEnv : LifecycleEnv where
  now := 1
  occurredAt := 1
  auditId := "e1"
  evidenceId := "d1"

/-- Both workers execute the deletion. -/
def bothExecute : Bool → Rerun := fun _ ↦ .execute callEnv

def plainPrimitives : Primitives :=
  ⟨fun _ ↦ List.replicate 32 5, fun _ _ ↦ List.replicate 32 5, fun _ _ ↦ by decide⟩

/-- One worker reads the row, the other one completes the job. -/
def readThenCompleted : List (Bool × LifecycleEnv) :=
  (false, callEnv) :: List.replicate 6 (true, callEnv)

/-- The worker that has read the row takes the completed job back to `running`. -/
theorem completed_job_runs_again : ¬∀ (P : Primitives) (w : LifecycleWorld) (jobId : String)
    (calls : Bool → Rerun) (pre post : List (Bool × LifecycleEnv)),
      StaysCompleted jobId (run (step jobId) (start P w jobId calls) pre).state.world
        (run (step jobId) (start P w jobId calls) (pre ++ post)).state.world := by
  intro hall
  have hstays := (hall plainPrimitives draftWorld "j1" bothExecute readThenCompleted
    [(false, callEnv)] rfl).1
  cases hstays

/-- The second worker starts after the first one has completed the job. -/
theorem completed_stays_inTurn :
    stateAt (run (step "j1") (start plainPrimitives draftWorld "j1" bothExecute)
      (List.replicate 6 (true, callEnv))).state.world "j1" = some .deleted ∧
    stateAt (run (step "j1") (start plainPrimitives draftWorld "j1" bothExecute)
      (List.replicate 6 (true, callEnv) ++ [(false, callEnv)])).state.world "j1" =
        some .deleted :=
  ⟨rfl, (completed_stays plainPrimitives draftWorld "j1" bothExecute
    (List.replicate 6 (true, callEnv)) [(false, callEnv)] (by decide) rfl).1⟩

end DeletionRace

end Orchestra
