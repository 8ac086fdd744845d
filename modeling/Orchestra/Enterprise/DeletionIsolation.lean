import Orchestra.Enterprise.DeletionReach
import Orchestra.Foundation.Transition

/-!
# Deletion and the other tenants

A deletion is requested under one tenant, and the job it leaves may be executed and retried any
number of times. The manager compares the tenant of the request with the tenant of the identity;
neither of them is compared with the tenant of the resource, and the statements of the store select
by identifier. So a request spares the copies of another tenant exactly when it is refused, when its
job will not run, or when the identifier it names reaches none of them (`spares_iff`).
-/

namespace Orchestra

open EventStore Transition

namespace LifecycleManager

variable (P : Primitives)

/-- An execution or a retry of a job, with its environment. -/
inductive Rerun where
  | execute (env : LifecycleEnv)
  | retry (env : LifecycleEnv)

def Rerun.env : Rerun → LifecycleEnv
  | .execute env => env
  | .retry env => env

def rerun (jobId : String) (w : LifecycleWorld) : Rerun → LifecycleWorld
  | .execute env => (executeDeletion P env w jobId).1
  | .retry env => (retryDeletion P env w jobId).1

/-- A request, followed by executions and retries of the job it returns. -/
def deleteAndRun (env : LifecycleEnv) (w : LifecycleWorld) (r : DeleteRequest)
    (reruns : List Rerun) : LifecycleWorld :=
  match delete env w r with
  | (w', .ok job) => run (rerun P job.jobId) w' reruns
  | (w', .error _) => w'

/-! ## The request -/

/-- The request creates and returns no job: the identity is foreign, a hold lists the resource, the
policy retains it, or the fresh identifier of the job is taken. -/
def Refused (env : LifecycleEnv) (w : LifecycleWorld) (r : DeleteRequest) : Prop :=
  (crossTenant r.tenantId r.identityTenantId).isSome ∨
    isResourceHeld w.db.holds r.tenantId r.resourceKind r.resourceId ∨
    retained w.db r.tenantId r.resourceKind r.force ∨
    jobOf w.db.jobs r.resource = none ∧ (w.db.jobs.jobs.find? env.freshId).isSome

@[simp] theorem emitAudit_jobs (env : LifecycleEnv) (w : LifecycleWorld) (kind : EventKind)
    (actor : String) (payload : List (String × Json)) :
    (emitAudit env w kind actor payload).db.jobs = w.db.jobs := by
  obtain h | ⟨events, -, h⟩ := emitAudit_cases env w kind actor payload <;> rw [h]

theorem jobOf_cases {t : JobTable} {resource : String × ResourceKind × String}
    {row : DeletionJob} (h : jobOf t resource = some row) :
    t.jobs.find? row.jobId = some row ∧ row.resource = resource :=
  ⟨KeyedTable.find?_of_mem (List.mem_of_find?_eq_some h), by simpa using List.find?_some h⟩

theorem insertJob_cases {t : JobTable} (row : DeletionJob) (hres : jobOf t row.resource = none) :
    (insertJob t row hres = .error .uniqueViolation ∧ (t.jobs.find? row.jobId).isSome) ∨
      ∃ t', insertJob t row hres = .ok t' ∧ t.jobs.insert row = some t'.jobs := by
  rw [insertJob]
  split
  · next hins => exact Or.inl ⟨rfl, KeyedTable.insert_eq_none_iff.mp hins⟩
  · next jobs hins => exact Or.inr ⟨_, rfl, hins⟩

/-- The new job is refused, or it is returned with its row. -/
theorem fileJob_cases (env : LifecycleEnv) (w : LifecycleWorld) (r : DeleteRequest) :
    Quiet w (fileJob env w r).1 ∧
      (jobOf w.db.jobs r.resource = none ∧ (w.db.jobs.jobs.find? env.freshId).isSome ∧
          (∃ e, (fileJob env w r).2 = .error e) ∨
        (jobOf w.db.jobs r.resource = none → w.db.jobs.jobs.find? env.freshId = none) ∧
          ∃ job row, (fileJob env w r).2 = .ok job ∧
            (fileJob env w r).1.db.jobs.jobs.find? job.jobId = some row ∧
            row.resource = r.resource ∧
            (jobOf w.db.jobs r.resource = some row ∨
              jobOf w.db.jobs r.resource = none ∧ row.state = .pending)) := by
  rw [fileJob, createDeletionJob]
  split
  · next e h =>
    split at h
    · cases h
    · next hnone =>
      rcases insertJob_cases (newJobRow env.now (requestedJob env r)) hnone with
        ⟨herr, htaken⟩ | ⟨t, hok, -⟩
      · exact ⟨Quiet.refl w, Or.inl ⟨hnone, htaken, _, rfl⟩⟩
      · rw [hok] at h
        cases h
  · next jobs job h =>
    split at h
    · next row hrow =>
      cases h
      obtain ⟨hfind, hres⟩ := jobOf_cases hrow
      refine ⟨Quiet.refl w, Or.inr ⟨fun hnone ↦ ?_, _, row, rfl, hfind, hres, Or.inl hrow⟩⟩
      exact absurd (hrow.symm.trans hnone) nofun
    · next hnone =>
      rcases insertJob_cases (newJobRow env.now (requestedJob env r)) hnone with
        ⟨herr, -⟩ | ⟨t, hok, hins⟩
      · rw [herr] at h
        cases h
      · rw [hok] at h
        cases h
        refine ⟨⟨rfl, rfl, fun _ _ he ↦ he, rfl, rfl,
          fun id j hj ↦ ⟨j, KeyedTable.find?_insert_of_some hins hj, rfl⟩⟩,
          Or.inr ⟨fun _ ↦ KeyedTable.find?_key_of_insert hins, _,
            newJobRow env.now (requestedJob env r), rfl, ?_, rfl, Or.inr ⟨hnone, rfl⟩⟩⟩
        exact (KeyedTable.find?_insert hins _).trans (if_pos rfl)

/-- **What a request does.** It removes no copy. It is refused, or it returns the job of the
resource, which is pending if it is new. -/
theorem delete_cases (env : LifecycleEnv) (w : LifecycleWorld) (r : DeleteRequest) :
    Quiet w (delete env w r).1 ∧
      (Refused env w r ∧ (∃ e, (delete env w r).2 = .error e) ∨
        ¬Refused env w r ∧ ∃ job row, (delete env w r).2 = .ok job ∧
          (delete env w r).1.db.jobs.jobs.find? job.jobId = some row ∧ row.resource = r.resource ∧
          (jobOf w.db.jobs r.resource = some row ∨
            jobOf w.db.jobs r.resource = none ∧ row.state = .pending)) := by
  rw [delete]
  dsimp only
  cases hcross : crossTenant r.tenantId r.identityTenantId with
  | some e => exact ⟨Quiet.refl w, Or.inl ⟨Or.inl (by rw [hcross]; rfl), e, rfl⟩⟩
  | none =>
    dsimp only
    split
    · next hheld =>
      exact ⟨quiet_emitAudit env w _ _ _, Or.inl ⟨Or.inr (Or.inl hheld), _, rfl⟩⟩
    · next hheld =>
      split
      · next hret =>
        exact ⟨quiet_emitAudit env w _ _ _, Or.inl ⟨Or.inr (Or.inr (Or.inl hret)), _, rfl⟩⟩
      · next hret =>
        obtain ⟨hquiet, hcases⟩ := fileJob_cases env (emitAudit env w .deletionRequested
          r.requestedBy (resourcePayload r.tenantId r.resourceKind r.resourceId ++
            [("force", .bool r.force)])) r
        rw [emitAudit_jobs] at hcases
        refine ⟨(quiet_emitAudit env w _ _ _).trans hquiet, ?_⟩
        rcases hcases with ⟨hnone, htaken, herr⟩ | ⟨hfresh, hjob⟩
        · exact Or.inl ⟨Or.inr (Or.inr (Or.inr ⟨hnone, htaken⟩)), herr⟩
        · refine Or.inr ⟨?_, hjob⟩
          rintro (h | h | h | ⟨h, h'⟩)
          · rw [hcross] at h
            cases h
          · exact hheld h
          · exact hret h
          · rw [hfresh h] at h'
            cases h'

/-! ## The reruns -/

section Reruns

variable {P} {w : LifecycleWorld} {jobId : String} {row : DeletionJob}

/-- A rerun attempts the deletion or is refused. -/
theorem rerun_cases (hrow : w.db.jobs.jobs.find? jobId = some row) (a : Rerun) :
    Attempted P a.env w row.resource (rerun P jobId w a) ∨ rerun P jobId w a = w := by
  cases a with
  | execute env =>
    by_cases hcan : CanExecute row
    · exact Or.inl (attempted_executeDeletion hrow hcan)
    · exact Or.inr (executeDeletion_of_not hrow hcan)
  | retry env =>
    by_cases hcan : CanRetry row
    · exact Or.inl (attempted_retryDeletion hrow hcan)
    · exact Or.inr (retryDeletion_of_not hrow hcan)

/-- A job that cannot be retried cannot be executed either: nothing changes. -/
theorem rerun_of_not (hrow : w.db.jobs.jobs.find? jobId = some row) (h : ¬CanRetry row)
    (a : Rerun) : rerun P jobId w a = w := by
  cases a with
  | execute env => exact executeDeletion_of_not hrow fun hcan ↦ h hcan.canRetry
  | retry env => exact retryDeletion_of_not hrow h

theorem run_rerun_of_not (hrow : w.db.jobs.jobs.find? jobId = some row) (h : ¬CanRetry row)
    (reruns : List Rerun) : run (rerun P jobId) w reruns = w :=
  run_invariant (I := fun w' ↦ w' = w) (fun w' a hw ↦ by rw [hw]; exact rerun_of_not hrow h a) rfl
    reruns

/-- What the job's resource does not reach survives every sequence of reruns. -/
theorem in_run_rerun (hrow : w.db.jobs.jobs.find? jobId = some row) {c : Copy} (hin : c.In w)
    (hno : ¬c.ReachedBy w row.resource) (reruns : List Rerun) :
    c.In (run (rerun P jobId) w reruns) := by
  have hinv : Shrinks w (run (rerun P jobId) w reruns) ∧ c.In (run (rerun P jobId) w reruns) := by
    refine run_invariant (I := fun w' ↦ Shrinks w w' ∧ c.In w') ?_
      ⟨(Quiet.refl w).shrinks, hin⟩ reruns
    rintro w' a ⟨hshrinks, hin'⟩
    obtain ⟨row', hrow', hres⟩ := hshrinks.jobs jobId row hrow
    rcases rerun_cases hrow' a with hattempt | hsame
    · refine ⟨hshrinks.trans hattempt.shrinks, hattempt.in_of_not_reached hin' fun hreach ↦ hno ?_⟩
      rw [← hres]
      exact hshrinks.reachedBy hreach
    · rw [hsame]
      exact ⟨hshrinks, hin'⟩
  exact hinv.2

/-- A retry in which nothing raises removes what the job reaches. -/
theorem not_in_retry (hrow : w.db.jobs.jobs.find? jobId = some row) (hcan : CanRetry row)
    (env : LifecycleEnv) (hok : env.faults = {}) {c : Copy} (hin : c.In w)
    (hreach : c.ReachedBy w row.resource) : ¬c.In (rerun P jobId w (.retry env)) :=
  (attempted_retryDeletion hrow hcan).not_in_of_reached hok hin hreach

end Reruns

/-! ## The other tenants -/

/-- **Exactly when a deletion spares another tenant.** After a request, in any environment, and any
executions and retries of the job it returns, every copy of tenant `u` is still there unchanged if
and only if the request is refused, or its resource has a job that will not run again, or the
identifier reaches no copy of `u`. -/
theorem spares_iff (artifactOwner : String → Option String) (env : LifecycleEnv)
    (w : LifecycleWorld) (r : DeleteRequest) (u : String) :
    (∀ (reruns : List Rerun) (c : Copy), c.In w → c.owner artifactOwner w = some u →
        c.In (deleteAndRun P env w r reruns)) ↔
      Refused env w r ∨ (∃ row, jobOf w.db.jobs r.resource = some row ∧ ¬CanRetry row) ∨
        ∀ c : Copy, c.In w → c.owner artifactOwner w = some u → ¬c.ReachedBy w r.resource := by
  obtain ⟨hquiet, hcases⟩ := delete_cases env w r
  rcases hd : delete env w r with ⟨w', _ | job⟩
  · have hstays : ∀ reruns, deleteAndRun P env w r reruns = w' := fun _ ↦ by rw [deleteAndRun, hd]
    rw [hd] at hquiet hcases
    rcases hcases with ⟨href, -⟩ | ⟨-, _, _, hok, -⟩
    · refine iff_of_true (fun reruns c hin _ ↦ ?_) (Or.inl href)
      rw [hstays]
      exact hquiet.in_of_in hin
    · cases hok
  · have hruns : ∀ reruns, deleteAndRun P env w r reruns = run (rerun P job.jobId) w' reruns :=
      fun _ ↦ by rw [deleteAndRun, hd]
    rw [hd] at hquiet hcases
    rcases hcases with ⟨-, _, herr⟩ | ⟨hnot, _, row, hok, hrow, hres, hjob⟩
    · cases herr
    cases hok
    simp only [hruns]
    constructor
    · intro hspares
      by_contra hcon
      simp only [not_or, not_exists, not_and, not_not, not_forall] at hcon
      obtain ⟨-, hruns', c, hin, hown, hreach⟩ := hcon
      have hcan : CanRetry row := by
        rcases hjob with hold | ⟨-, hpending⟩
        · exact hruns' row hold
        · simp [CanRetry, hpending]
      refine not_in_retry hrow hcan ⟨0, 0, "", "", "", {}⟩ rfl
        (hquiet.in_of_in hin) ?_ (hspares [.retry _] c hin hown)
      rw [hres, hquiet.reachedBy_iff]
      exact hreach
    · rintro (href | ⟨row', hold, hcannot⟩ | hnone) reruns c hin hown
      · exact absurd href hnot
      · obtain rfl : row = row' := by
          rcases hjob with hjob | ⟨hjob, -⟩
          · exact Option.some.inj (hjob.symm.trans hold)
          · exact absurd (hold.symm.trans hjob) (Option.some_ne_none row')
        rw [run_rerun_of_not hrow hcannot]
        exact hquiet.in_of_in hin
      · refine in_run_rerun hrow (hquiet.in_of_in hin) ?_ reruns
        rw [hres, hquiet.reachedBy_iff]
        exact hnone c hin hown

/-- A receipt of a task run of tenant `u`. -/
def foreignReceipt : Receipt where
  receiptId := "receipt-1"
  taskRunId := "task-1"
  nodeRunId := "node-1"
  nodeId := "write_sink"
  envelope := .obj []
  createdAt := 0

/-- A database in which tenant `u` has one receipt. -/
def foreignReceiptWorld : LifecycleWorld where
  db :=
    { taskRuns :=
        ⟨[{ taskRunId := "task-1", contractId := "contract-1", templateId := "contract-review",
            state := .succeeded, createdAt := 0, updatedAt := 0, tenantId := some "tenant:u" }],
          List.nodup_singleton _⟩
      receipts := ⟨[foreignReceipt], List.nodup_singleton _⟩ }

/-- Tenant `t` asks, under its own identity, for the deletion of that receipt. -/
def foreignReceiptRequest : DeleteRequest where
  tenantId := "tenant:t"
  resourceKind := .receipt
  resourceId := "receipt-1"
  requestedBy := "user:t"
  identityTenantId := some "tenant:t"

/-- The receipt of `u` is gone after the job of `t` is executed, whatever the digests are. -/
theorem foreignReceipt_deleted : ¬∃ P : Primitives,
    ∀ (artifactOwner : String → Option String) (env : LifecycleEnv) (w : LifecycleWorld)
      (r : DeleteRequest) (u : String), r.identityTenantId = some r.tenantId → r.tenantId ≠ u →
      ∀ (reruns : List Rerun) (c : Copy), c.In w → c.owner artifactOwner w = some u →
        c.In (deleteAndRun P env w r reruns) := by
  rintro ⟨P, h⟩
  have hin := h (fun _ ↦ none) ⟨0, 0, "job-1", "event-1", "", {}⟩ foreignReceiptWorld
    foreignReceiptRequest "tenant:u" rfl (by decide) [.execute ⟨0, 0, "", "event-2", "", {}⟩]
    (.receipt foreignReceipt) (List.mem_singleton.mpr rfl) (by decide)
  have hrows : (deleteAndRun P ⟨0, 0, "job-1", "event-1", "", {}⟩ foreignReceiptWorld
      foreignReceiptRequest [.execute ⟨0, 0, "", "event-2", "", {}⟩]).db.receipts.rows = [] := rfl
  rw [Copy.In, hrows] at hin
  exact List.not_mem_nil hin

end LifecycleManager

end Orchestra
