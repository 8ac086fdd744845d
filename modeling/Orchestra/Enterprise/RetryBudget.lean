import Orchestra.Enterprise.DeletionRetry

/-!
# The retry budget of a deletion

A job carries the number of attempts it is allowed. An execution whose adapter raises adds one to
the attempts of the row and, at the last one, leaves the job `failed`. An execution whose adapter
returns evidence with kept copies is as unsuccessful, and it adds nothing. So the attempts count the
runs of the adapter that raised, whatever the others did (`attempt_run`), and they bound the
unsuccessful runs where every one of these is counted.

The adapter is an argument of each call here. The manager's own is `deleters`.
-/

namespace Orchestra

open EventStore Transition

/-- An adapter: the stores it leaves with its evidence, or what it raises. It has no statement on
the jobs. -/
structure DeletionAdapter where
  run : LifecycleEnv → LifecycleWorld → DeletionJob →
    Except Raised (LifecycleWorld × DeletionEvidence)
  jobs_run : ∀ {env w row w' e}, run env w row = .ok (w', e) → w'.db.jobs = w.db.jobs

namespace LifecycleManager

/-- The adapters of the manager. -/
def deleters (P : Primitives) : DeletionAdapter where
  run := runDeleter P
  jobs_run := jobs_runDeleter

/-! ## Calls with any adapter -/

section Adapter

variable (D : DeletionAdapter)

def runJobWith (env : LifecycleEnv) (w : LifecycleWorld) (row : DeletionJob) :
    LifecycleWorld × Except LifecycleError DeletionJob :=
  match D.run env w row with
  | .error exc => handleAdapterFailure env w row exc
  | .ok (w', e) => finishDeletion env w' row e

def executeDeletionWith (env : LifecycleEnv) (w : LifecycleWorld) (jobId : String) :
    LifecycleWorld × Except LifecycleError DeletionJob :=
  match w.db.jobs.jobs.find? jobId with
  | none => (w, .error (.valueError ("unknown deletion job: " ++ jobId)))
  | some row =>
    if row.state ∈ [DeletionState.deleted, .failed, .held] then (w, .ok row)
    else if env.faults.mark then (w, .error (.store .unavailable))
    else runJobWith D env (updateJob w jobId env.now .running none none false) row

def retryDeletionWith (env : LifecycleEnv) (w : LifecycleWorld) (jobId : String) :
    LifecycleWorld × Except LifecycleError DeletionJob :=
  match w.db.jobs.jobs.find? jobId with
  | none => (w, .error (.valueError ("unknown deletion job: " ++ jobId)))
  | some row =>
    match retryError jobId row with
    | some e => (w, .error e)
    | none =>
      if env.faults.reset then (w, .error (.store .unavailable))
      else executeDeletionWith D env (updateJob w jobId env.now .pending none none false) jobId

/-- What the adapter answers in `execute_deletion`, if it runs. -/
def executeOutcome (env : LifecycleEnv) (w : LifecycleWorld) (jobId : String) :
    Option (Except Raised DeletionEvidence) :=
  match w.db.jobs.jobs.find? jobId with
  | none => none
  | some row =>
    if CanExecute row ∧ env.faults.mark = false then
      some ((D.run env (updateJob w jobId env.now .running none none false) row).map Prod.snd)
    else none

/-- What the adapter answers in `retry_deletion`, if it runs. -/
def retryOutcome (env : LifecycleEnv) (w : LifecycleWorld) (jobId : String) :
    Option (Except Raised DeletionEvidence) :=
  match w.db.jobs.jobs.find? jobId with
  | none => none
  | some row =>
    if CanRetry row ∧ env.faults.reset = false then
      executeOutcome D env (updateJob w jobId env.now .pending none none false) jobId
    else none

end Adapter

theorem executeDeletionWith_deleters (P : Primitives) :
    executeDeletionWith (deleters P) = executeDeletion P := rfl

theorem retryDeletionWith_deleters (P : Primitives) :
    retryDeletionWith (deleters P) = retryDeletion P := rfl

end LifecycleManager

open LifecycleManager

/-- A call of `execute_deletion` or `retry_deletion`, with the adapter that it finds. -/
structure DeletionCall where
  jobId : String
  rerun : Rerun
  adapter : DeletionAdapter

namespace DeletionCall

/-- The world after the call. -/
def perform (w : LifecycleWorld) (c : DeletionCall) : LifecycleWorld :=
  match c.rerun with
  | .execute env => (executeDeletionWith c.adapter env w c.jobId).1
  | .retry env => (retryDeletionWith c.adapter env w c.jobId).1

/-- What the adapter answers in the call, if it runs. -/
def outcome (w : LifecycleWorld) (c : DeletionCall) : Option (Except Raised DeletionEvidence) :=
  match c.rerun with
  | .execute env => executeOutcome c.adapter env w c.jobId
  | .retry env => retryOutcome c.adapter env w c.jobId

theorem perform_deleters (P : Primitives) (w : LifecycleWorld) (call : String × Rerun) :
    perform w ⟨call.1, call.2, deleters P⟩ = attempt P w call := by
  obtain ⟨jobId, env | env⟩ := call <;> rfl

/-- The call runs the adapter of the job. -/
def RunsAdapter (jobId : String) (w : LifecycleWorld) (c : DeletionCall) : Prop :=
  c.jobId = jobId ∧ (c.outcome w).isSome

/-- An adapter is unsuccessful when it raises or keeps a copy. -/
def unsuccessful : Except Raised DeletionEvidence → Bool
  | .error _ => true
  | .ok e => decide (e.copiesKept ≠ 0)

def raised : Except Raised DeletionEvidence → Bool
  | .error _ => true
  | .ok _ => false

/-- The call runs the adapter of the job without success. -/
def Fails (jobId : String) (w : LifecycleWorld) (c : DeletionCall) : Prop :=
  c.jobId = jobId ∧ (c.outcome w).any unsuccessful

/-- The call adds to the attempts of the job: its adapter raises, and the outcome is recorded. -/
def Counts (jobId : String) (w : LifecycleWorld) (c : DeletionCall) : Prop :=
  c.jobId = jobId ∧ (c.outcome w).any raised ∧ c.rerun.env.faults.record = false

instance (jobId : String) (w : LifecycleWorld) (c : DeletionCall) :
    Decidable (RunsAdapter jobId w c) :=
  inferInstanceAs (Decidable (_ ∧ _))

instance (jobId : String) (w : LifecycleWorld) (c : DeletionCall) : Decidable (Fails jobId w c) :=
  inferInstanceAs (Decidable (_ ∧ _))

instance (jobId : String) (w : LifecycleWorld) (c : DeletionCall) : Decidable (Counts jobId w c) :=
  inferInstanceAs (Decidable (_ ∧ _))

end DeletionCall

namespace LifecycleManager

open DeletionCall

/-! ## The row after a call -/

/-- Attempts are left, or the last one has left the job `failed`. -/
def WithinBudget (row : DeletionJob) : Prop :=
  row.attempt < row.maxAttempts ∨ row.attempt = row.maxAttempts ∧ row.state = .failed

/-- `row'` comes after `row`: the attempts grow by one if the call counts, and never beyond those
that are allowed. -/
structure Spends (counts : Bool) (row row' : DeletionJob) : Prop where
  maxAttempts : row'.maxAttempts = row.maxAttempts
  attempt : row'.attempt = row.attempt + if counts then 1 else 0
  within : WithinBudget row'

section Row

variable {D : DeletionAdapter} {env : LifecycleEnv} {w : LifecycleWorld} {row : DeletionJob}
  {jobId : String}

theorem WithinBudget.lt (h : WithinBudget row) (hcan : CanRetry row) :
    row.attempt < row.maxAttempts := by
  rcases h with hlt | ⟨heq, hfailed⟩
  · exact hlt
  · exact absurd ⟨hfailed, heq.ge⟩ hcan.2

/-- What is recorded of a run: an exception counts, and the last one is terminal. -/
theorem jobs_runJobWith (D : DeletionAdapter) (env : LifecycleEnv) (w : LifecycleWorld)
    (row : DeletionJob) : ∃ state lastError e,
    (runJobWith D env w row).1.db.jobs = (if env.faults.record then w.db.jobs
      else updateDeletionJob env.now state lastError (some e)
        (raised ((D.run env w row).map Prod.snd)) w.db.jobs row.jobId) ∧
    (raised ((D.run env w row).map Prod.snd) = true → row.maxAttempts ≤ row.attempt + 1 →
      state = .failed) := by
  rw [runJobWith]
  cases hrun : D.run env w row with
  | error exc =>
    exact ⟨_, _, _, jobs_recordOutcome _ _ _ _ _ _, fun _ hlast ↦ if_pos hlast⟩
  | ok result =>
    obtain ⟨w', e⟩ := result
    refine ⟨if e.copiesKept = 0 then .deleted else .partial_, none, e,
      (jobs_recordOutcome _ _ _ _ _ _).trans ?_, fun hraised ↦ ?_⟩
    · rw [D.jobs_run hrun]
      rfl
    · cases hraised

theorem executeDeletionWith_eq (hrow : w.db.jobs.jobs.find? jobId = some row)
    (hcan : CanExecute row) (hmark : env.faults.mark = false) : executeDeletionWith D env w jobId =
      runJobWith D env (updateJob w jobId env.now .running none none false) row := by
  rw [executeDeletionWith, hrow]
  dsimp only
  rw [if_neg hcan, hmark, if_neg Bool.false_ne_true]

/-- An execution that does not run the adapter changes nothing. -/
theorem executeDeletionWith_of_outcome (h : executeOutcome D env w jobId = none) :
    (executeDeletionWith D env w jobId).1 = w := by
  rw [executeOutcome] at h
  rw [executeDeletionWith]
  cases hrow : w.db.jobs.jobs.find? jobId with
  | none => rfl
  | some row =>
    rw [hrow] at h
    dsimp only at h ⊢
    rw [ite_eq_right_iff] at h
    split_ifs with hcan hmark
    · rfl
    · rfl
    · cases h ⟨hcan, Bool.eq_false_of_not_eq_true hmark⟩

/-- **An execution** of a job that has attempts left. -/
theorem spends_executeDeletionWith (hrow : w.db.jobs.jobs.find? jobId = some row)
    (hlt : row.attempt < row.maxAttempts) : ∃ row',
      (executeDeletionWith D env w jobId).1.db.jobs.jobs.find? jobId = some row' ∧
        Spends ((executeOutcome D env w jobId).any raised && !env.faults.record) row row' := by
  obtain rfl : row.jobId = jobId := KeyedTable.key_of_find? hrow
  by_cases hruns : CanExecute row ∧ env.faults.mark = false
  · rw [executeDeletionWith_eq hrow hruns.1 hruns.2, executeOutcome, hrow]
    dsimp only
    rw [if_pos hruns, Option.any_some]
    obtain ⟨state, lastError, e, hjobs, hlast⟩ :=
      jobs_runJobWith D env (updateJob w row.jobId env.now .running none none false) row
    have hrunning : (updateJob w row.jobId env.now .running none none false).db.jobs.jobs.find?
        row.jobId = some (updateJobRow env.now .running none none false row) := by
      rw [updateJob, find?_updateDeletionJob, hrow]
      rfl
    rw [hjobs]
    cases hrecord : env.faults.record with
    | true =>
      -- the outcome is lost, and the job stays marked as running
      refine ⟨_, hrunning, rfl, ?_, Or.inl ?_⟩
      · simp [updateJobRow]
      · simpa [updateJobRow] using hlt
    | false =>
      rw [if_neg Bool.false_ne_true, find?_updateDeletionJob, hrunning]
      refine ⟨_, rfl, rfl, ?_, ?_⟩
      · simp [updateJobRow]
      · rw [WithinBudget]
        dsimp only [updateJobRow]
        cases hraised : raised ((D.run env (updateJob w row.jobId env.now .running none none false)
            row).map Prod.snd) with
        | false => exact Or.inl (by simpa using hlt)
        | true =>
          rcases Int.lt_or_le (row.attempt + 1) row.maxAttempts with hmore | hdone
          · exact Or.inl (by simpa using hmore)
          · refine Or.inr ⟨?_, hlast hraised hdone⟩
            simp only [Bool.false_eq_true, if_false, if_true]
            omega
  · have houtcome : executeOutcome D env w row.jobId = none := by
      rw [executeOutcome, hrow]
      exact if_neg hruns
    rw [executeDeletionWith_of_outcome houtcome, houtcome]
    exact ⟨row, hrow, rfl, by simp, Or.inl hlt⟩

/-- A row that cannot be retried cannot be executed: the adapter does not run. -/
theorem executeOutcome_of_not (hrow : w.db.jobs.jobs.find? jobId = some row)
    (h : ¬CanExecute row) : executeOutcome D env w jobId = none := by
  rw [executeOutcome, hrow]
  exact if_neg fun hruns ↦ h hruns.1

theorem retryOutcome_of_not (hrow : w.db.jobs.jobs.find? jobId = some row)
    (h : ¬(CanRetry row ∧ env.faults.reset = false)) : retryOutcome D env w jobId = none ∧
      (retryDeletionWith D env w jobId).1 = w := by
  rw [retryOutcome, retryDeletionWith, hrow]
  refine ⟨if_neg h, ?_⟩
  dsimp only
  cases herr : retryError jobId row with
  | some e => rfl
  | none =>
    cases hreset : env.faults.reset with
    | true => rfl
    | false => exact absurd ⟨retryError_eq_none_iff.mp herr, hreset⟩ h

theorem retryDeletionWith_eq (hrow : w.db.jobs.jobs.find? jobId = some row)
    (h : CanRetry row ∧ env.faults.reset = false) :
    retryOutcome D env w jobId =
        executeOutcome D env (updateJob w jobId env.now .pending none none false) jobId ∧
      retryDeletionWith D env w jobId =
        executeDeletionWith D env (updateJob w jobId env.now .pending none none false) jobId := by
  rw [retryOutcome, retryDeletionWith, hrow]
  refine ⟨if_pos h, ?_⟩
  dsimp only
  rw [retryError_eq_none_iff.mpr h.1]
  dsimp only
  rw [h.2, if_neg Bool.false_ne_true]

/-- **A retry** resets the job, which spends nothing, and executes it. -/
theorem spends_retryDeletionWith (hrow : w.db.jobs.jobs.find? jobId = some row)
    (hwithin : WithinBudget row) : ∃ row',
      (retryDeletionWith D env w jobId).1.db.jobs.jobs.find? jobId = some row' ∧
        Spends ((retryOutcome D env w jobId).any raised && !env.faults.record) row row' := by
  by_cases hruns : CanRetry row ∧ env.faults.reset = false
  · obtain ⟨houtcome, heq⟩ := retryDeletionWith_eq (D := D) hrow hruns
    have hlt : (updateJobRow env.now .pending none none false row).attempt <
        (updateJobRow env.now .pending none none false row).maxAttempts := by
      simpa [updateJobRow] using hwithin.lt hruns.1
    rw [houtcome, heq]
    obtain ⟨row', hrow', hspends⟩ :=
      spends_executeDeletionWith (D := D) (find?_reset hrow env.now) hlt
    refine ⟨row', hrow', hspends.maxAttempts, ?_, hspends.within⟩
    rw [hspends.attempt]
    simp [updateJobRow]
  · obtain ⟨houtcome, heq⟩ := retryOutcome_of_not (D := D) hrow hruns
    rw [houtcome, heq]
    exact ⟨row, hrow, rfl, by simp, hwithin⟩

/-- **One call** on the job. -/
theorem spends_perform {c : DeletionCall} (hrow : w.db.jobs.jobs.find? c.jobId = some row)
    (hwithin : WithinBudget row) : ∃ row',
      (perform w c).db.jobs.jobs.find? c.jobId = some row' ∧
        Spends ((c.outcome w).any raised && !c.rerun.env.faults.record) row row' := by
  obtain ⟨jobId, env | env, D⟩ := c
  · by_cases hcan : CanExecute row
    · exact spends_executeDeletionWith hrow (hwithin.lt hcan.canRetry)
    · have houtcome : executeOutcome D env w jobId = none := executeOutcome_of_not hrow hcan
      have hsame : perform w ⟨jobId, .execute env, D⟩ = w :=
        executeDeletionWith_of_outcome houtcome
      refine ⟨row, by rw [hsame]; exact hrow, rfl, ?_, hwithin⟩
      simp [outcome, houtcome]
  · exact spends_retryDeletionWith hrow hwithin

/-- A job whose budget is spent is not run, and nothing changes. -/
theorem perform_of_not {c : DeletionCall} (hrow : w.db.jobs.jobs.find? c.jobId = some row)
    (h : ¬CanRetry row) : c.outcome w = none ∧ perform w c = w := by
  obtain ⟨jobId, env | env, D⟩ := c
  · have houtcome : executeOutcome D env w jobId = none :=
      executeOutcome_of_not hrow fun hcan ↦ h hcan.canRetry
    exact ⟨houtcome, executeDeletionWith_of_outcome houtcome⟩
  · exact retryOutcome_of_not hrow fun hruns ↦ h hruns.1

theorem find?_updateJob_of_ne {id : String} (hid : id ≠ jobId) (now : Timestamp)
    (state : DeletionState) (lastError : Option String) (e : Option DeletionEvidence)
    (increment : Bool) : (updateJob w jobId now state lastError e increment).db.jobs.jobs.find? id =
      w.db.jobs.jobs.find? id := by
  rw [updateJob, updateDeletionJob, KeyedTable.find?_updateAt, if_neg hid]

theorem find?_executeDeletionWith_of_ne {id : String} (hid : id ≠ jobId) :
    (executeDeletionWith D env w jobId).1.db.jobs.jobs.find? id = w.db.jobs.jobs.find? id := by
  rw [executeDeletionWith]
  cases hrow : w.db.jobs.jobs.find? jobId with
  | none => rfl
  | some row =>
    obtain rfl : row.jobId = jobId := KeyedTable.key_of_find? hrow
    dsimp only
    split_ifs
    · rfl
    · rfl
    · obtain ⟨state, lastError, e, hjobs, -⟩ :=
        jobs_runJobWith D env (updateJob w row.jobId env.now .running none none false) row
      rw [hjobs]
      split_ifs
      · exact find?_updateJob_of_ne hid _ _ _ _ _
      · rw [updateDeletionJob, KeyedTable.find?_updateAt, if_neg hid]
        exact find?_updateJob_of_ne hid _ _ _ _ _

/-- A call on another job leaves the row. -/
theorem find?_perform_of_ne {c : DeletionCall} {id : String} (hid : id ≠ c.jobId) :
    (perform w c).db.jobs.jobs.find? id = w.db.jobs.jobs.find? id := by
  obtain ⟨jobId, env | env, D⟩ := c
  · exact find?_executeDeletionWith_of_ne hid
  · rw [perform]
    dsimp only
    cases hrow : w.db.jobs.jobs.find? jobId with
    | none =>
      rw [retryDeletionWith, hrow]
    | some row =>
      by_cases hruns : CanRetry row ∧ env.faults.reset = false
      · rw [(retryDeletionWith_eq hrow hruns).2, find?_executeDeletionWith_of_ne hid]
        exact find?_updateJob_of_ne hid _ _ _ _ _
      · rw [(retryOutcome_of_not hrow hruns).2]

end Row

/-! ## Runs -/

section Runs

variable {jobId : String} {m : ℤ}

/-- The job is in the store, with `m` attempts allowed, and no more than these are spent. -/
def Budgeted (jobId : String) (m : ℤ) (w : LifecycleWorld) : Prop :=
  ∃ row, w.db.jobs.jobs.find? jobId = some row ∧ row.maxAttempts = m ∧ WithinBudget row

/-- The attempts in the row of a job. -/
def attemptAt (jobId : String) (w : LifecycleWorld) : ℤ :=
  (w.db.jobs.jobs.find? jobId).elim 0 DeletionJob.attempt

/-- A call keeps the budget and adds to the attempts exactly when it counts. -/
theorem budgeted_perform {w : LifecycleWorld} (h : Budgeted jobId m w) (c : DeletionCall) :
    Budgeted jobId m (perform w c) ∧
      attemptAt jobId (perform w c) = attemptAt jobId w + if Counts jobId w c then 1 else 0 := by
  obtain ⟨row, hrow, rfl, hwithin⟩ := h
  by_cases hid : c.jobId = jobId
  · subst hid
    obtain ⟨row', hrow', hspends⟩ := spends_perform hrow hwithin
    refine ⟨⟨row', hrow', hspends.maxAttempts, hspends.within⟩, ?_⟩
    rw [attemptAt, attemptAt, hrow, hrow', Option.elim_some, Option.elim_some, hspends.attempt]
    simp [Counts]
  · have hsame := find?_perform_of_ne (w := w) (c := c) (Ne.symm hid)
    refine ⟨⟨row, hsame.trans hrow, rfl, hwithin⟩, ?_⟩
    rw [attemptAt, attemptAt, hsame, if_neg fun hcounts ↦ hid hcounts.1, add_zero]

/-- **What the attempts count**: the runs of the adapter that raised, in any run. -/
theorem attempt_run {w : LifecycleWorld} (h : Budgeted jobId m w) (calls : List DeletionCall) :
    Budgeted jobId m (run perform w calls) ∧ attemptAt jobId (run perform w calls) =
      attemptAt jobId w + countSteps perform (Counts jobId) w calls := by
  have hall : AllSteps perform (fun _ _ ↦ True) w calls :=
    allSteps_of_forall (fun _ _ ↦ trivial) w calls
  exact ⟨run_induction (I := Budgeted jobId m) (fun _ c hw _ ↦ (budgeted_perform hw c).1) h hall,
    count_run (I := Budgeted jobId m) (fun _ c hw _ ↦ (budgeted_perform hw c).1)
      (fun _ c hw _ ↦ (budgeted_perform hw c).2) h hall⟩

/-- How often the adapter of the job has run without success. -/
def failures (jobId : String) (w : LifecycleWorld) (calls : List DeletionCall) : ℕ :=
  countSteps perform (Fails jobId) w calls

/-- **The retry budget**: the adapter fails `m` times at most. After that the job is `failed`, and
no call runs the adapter or changes the row. -/
structure BudgetKept (jobId : String) (m : ℤ) (failures : ℕ) (w : LifecycleWorld) : Prop where
  le : failures ≤ m
  final : failures = m → stateAt w jobId = some .failed ∧ ∀ calls : List DeletionCall,
    countSteps perform (RunsAdapter jobId) w calls = 0 ∧
      (run perform w calls).db.jobs.jobs.find? jobId = w.db.jobs.jobs.find? jobId

/-- An unsuccessful run of the adapter is one that raises, and it is recorded. -/
def Counted (jobId : String) (w : LifecycleWorld) (c : DeletionCall) : Prop :=
  Fails jobId w c → Counts jobId w c

instance (w : LifecycleWorld) (c : DeletionCall) : Decidable (Counted jobId w c) :=
  inferInstanceAs (Decidable (_ → _))

theorem Counts.fails {w : LifecycleWorld} {c : DeletionCall} (h : Counts jobId w c) :
    Fails jobId w c := by
  obtain ⟨hid, hraised, -⟩ := h
  refine ⟨hid, ?_⟩
  cases houtcome : c.outcome w with
  | none => rw [houtcome] at hraised; cases hraised
  | some o =>
    rw [houtcome] at hraised
    cases o with
    | error exc => rfl
    | ok e => cases hraised

/-- A job that cannot be retried is left as it is by every run. -/
theorem run_perform_of_not {w : LifecycleWorld} {row : DeletionJob}
    (hrow : w.db.jobs.jobs.find? jobId = some row) (h : ¬CanRetry row)
    (calls : List DeletionCall) : countSteps perform (RunsAdapter jobId) w calls = 0 ∧
      (run perform w calls).db.jobs.jobs.find? jobId = some row := by
  have hstep : ∀ w c, w.db.jobs.jobs.find? jobId = some row →
      ¬RunsAdapter jobId w c ∧ (perform w c).db.jobs.jobs.find? jobId = some row := by
    intro w c hrow
    by_cases hid : c.jobId = jobId
    · subst hid
      obtain ⟨houtcome, hsame⟩ := perform_of_not hrow h
      rw [hsame]
      exact ⟨fun hruns ↦ by simp [RunsAdapter, houtcome] at hruns, hrow⟩
    · exact ⟨fun hruns ↦ hid hruns.1, (find?_perform_of_ne (Ne.symm hid)).trans hrow⟩
  have hall : AllSteps perform (fun _ _ ↦ True) w calls :=
    allSteps_of_forall (fun _ _ ↦ trivial) w calls
  exact ⟨countSteps_eq_zero_iff.mpr (hall.of_invariant (fun w c hw _ ↦ (hstep w c hw).2)
      (fun w c hw _ ↦ (hstep w c hw).1) hrow),
    run_induction (I := fun w ↦ w.db.jobs.jobs.find? jobId = some row)
      (fun w c hw _ ↦ (hstep w c hw).2) hrow hall⟩

/-- **When the budget is kept.** A job starts with no attempt and at least one allowed. Whatever
calls follow, for this job or for others, if every unsuccessful run of its adapter is one that
raises and is recorded, then the budget is kept. -/
theorem budgetKept_of_counted {w : LifecycleWorld} {row : DeletionJob}
    (hrow : w.db.jobs.jobs.find? jobId = some row) (hattempt : row.attempt = 0)
    (hmax : 1 ≤ row.maxAttempts) {calls : List DeletionCall}
    (hcounted : AllSteps perform (Counted jobId) w calls) :
    BudgetKept jobId row.maxAttempts (failures jobId w calls) (run perform w calls) := by
  have hbudget : Budgeted jobId row.maxAttempts w := ⟨row, hrow, rfl, Or.inl (by omega)⟩
  have hzero : attemptAt jobId w = 0 := by
    rw [attemptAt, hrow]
    exact hattempt
  -- under the condition, the attempts count the failures
  have hfailures : attemptAt jobId (run perform w calls) = failures jobId w calls := by
    have hcount := count_run (I := Budgeted jobId row.maxAttempts) (P := Fails jobId)
      (f := attemptAt jobId) (fun _ c hw _ ↦ (budgeted_perform hw c).1) (fun w c hw hc ↦ ?_)
      hbudget hcounted
    · rw [hcount, hzero, zero_add]
      rfl
    · rw [(budgeted_perform hw c).2, if_congr ⟨Counts.fails, hc⟩ rfl rfl]
  obtain ⟨row', hrow', hmax', hwithin⟩ := (attempt_run hbudget calls).1
  rw [attemptAt, hrow', Option.elim_some] at hfailures
  rw [← hmax']
  rcases hwithin with hlt | ⟨heq, hfailed⟩
  · exact ⟨by omega, fun hspent ↦ by omega⟩
  · refine ⟨by omega, fun _ ↦ ⟨?_, fun more ↦ ?_⟩⟩
    · rw [stateAt, hrow', Option.map_some, hfailed]
    · rw [hrow']
      exact run_perform_of_not hrow' (fun hcan ↦ hcan.2 ⟨hfailed, heq.ge⟩) more

end Runs

/-- An adapter that cannot reach the store of its copies. -/
def raisingAdapter : DeletionAdapter where
  run _ _ _ := .error ⟨"ConnectionError", "refused"⟩
  jobs_run := nofun

/-- Three calls on the job of a receipt, in all of which the adapter raises. -/
def raisingCalls : List DeletionCall :=
  [⟨"j1", .execute noFault, raisingAdapter⟩, ⟨"j1", .retry noFault, raisingAdapter⟩,
    ⟨"j1", .retry noFault, raisingAdapter⟩]

theorem budgetKept_of_counted_raising : failures "j1" receiptWorld raisingCalls = 3 ∧
    BudgetKept "j1" 3 (failures "j1" receiptWorld raisingCalls)
      (run perform receiptWorld raisingCalls) := by
  have hcounted : AllSteps perform (Counted "j1") receiptWorld raisingCalls := by decide
  have hrow : receiptWorld.db.jobs.jobs.find? "j1" = some receiptJob := rfl
  exact ⟨rfl, budgetKept_of_counted hrow rfl (by decide) hcounted⟩

/-! ## Kept copies -/

section Backup

variable {P : Primitives} {env : LifecycleEnv} {w : LifecycleWorld} {row : DeletionJob}
  {jobId : String}

/-- The job of a backup, which can be run. -/
def BackupOpen (jobId : String) (w : LifecycleWorld) : Prop :=
  ∃ row, w.db.jobs.jobs.find? jobId = some row ∧ row.resourceKind = .backup ∧
    row.state ∈ [DeletionState.pending, .partial_]

/-- The adapter of a backup keeps the copy, and the job can be retried. -/
theorem backupOpen_retry (h : BackupOpen jobId w) (hfaults : env.faults = {}) :
    Fails jobId w ⟨jobId, .retry env, deleters P⟩ ∧
      BackupOpen jobId (perform w ⟨jobId, .retry env, deleters P⟩) := by
  obtain ⟨row, hrow, hkind, hstate⟩ := h
  obtain rfl : row.jobId = jobId := KeyedTable.key_of_find? hrow
  have hretry : CanRetry row := by
    rcases List.mem_pair.mp hstate with h | h <;> simp [CanRetry, h]
  have hreset := find?_reset hrow env.now
  have hcan := canExecute_reset row env.now
  obtain ⟨houtcome, heq⟩ :=
    retryDeletionWith_eq (D := deleters P) hrow ⟨hretry, by rw [hfaults]⟩
  constructor
  · refine ⟨rfl, ?_⟩
    rw [outcome]
    dsimp only
    rw [houtcome, executeOutcome, hreset]
    dsimp only
    rw [if_pos ⟨hcan, by rw [hfaults]⟩]
    simp [deleters, runDeleter, updateJobRow, hkind, Except.map, unsuccessful, evidence]
  · rw [perform]
    dsimp only
    rw [heq, executeDeletionWith_eq hreset hcan (by rw [hfaults]), runJobWith]
    simp only [deleters, runDeleter, updateJobRow, hkind, finishDeletion]
    rw [BackupOpen, jobs_recordOutcome, hfaults, if_neg Bool.false_ne_true]
    simp [find?_updateDeletionJob, updateJob, hrow, updateJobRow, hkind, evidence]

/-- **No budget for kept copies**: each retry of the job of a backup runs the adapter again. -/
theorem failures_backup (h : BackupOpen jobId w) (hfaults : env.faults = {}) (n : ℕ) :
    failures jobId w (List.replicate n ⟨jobId, .retry env, deleters P⟩) = n := by
  induction n generalizing w with
  | zero => rfl
  | succ n ih =>
    obtain ⟨hfails, hopen⟩ := backupOpen_retry (P := P) h hfaults
    have hrest := ih hopen
    rw [failures] at hrest ⊢
    rw [List.replicate_succ, countSteps_cons, if_pos hfails, hrest, add_comm]

end Backup

def backupJob : DeletionJob where
  jobId := "j1"
  tenantId := "tA"
  resourceKind := .backup
  resourceId := "snapshot"
  requestedAt := 0
  requestedBy := "alice"

def backupWorld : LifecycleWorld where
  db := { jobs := ⟨⟨[backupJob], by decide⟩, by decide⟩ }

/-- With the manager's own adapters, a backup is attempted a fourth time where three attempts are
allowed. -/
theorem backup_retried_beyond_budget : ¬∃ P : Primitives,
    ∀ (w : LifecycleWorld) (row : DeletionJob) (calls : List DeletionCall),
      w.db.jobs.jobs.find? row.jobId = some row → row.attempt = 0 → 1 ≤ row.maxAttempts →
      (∀ c ∈ calls, c.adapter = deleters P) →
        BudgetKept row.jobId row.maxAttempts (failures row.jobId w calls)
          (run perform w calls) := by
  rintro ⟨P, hall⟩
  have hkept := (hall backupWorld backupJob
    (List.replicate 4 ⟨backupJob.jobId, .retry noFault, deleters P⟩) rfl rfl (by decide)
    fun c hc ↦ by rw [List.eq_of_mem_replicate hc]).le
  rw [failures_backup ⟨backupJob, rfl, rfl, by decide⟩ rfl] at hkept
  exact absurd hkept (by decide)

end LifecycleManager

end Orchestra
