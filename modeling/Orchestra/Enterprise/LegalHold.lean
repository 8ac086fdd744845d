import Orchestra.Enterprise.DeletionIsolation

/-!
# Legal holds over whole runs

A hold is meant to be absolute: while it is in force, nothing that it covers is removed or redacted.
The gate is in `delete`, where a job is created; the removal is in `executeDeletion` and
`retryDeletion`, which do not look at the holds. The gate also joins the holds with the resources
they list, so a tenant-wide hold, which lists none, does not close it.

So over a run, what decides is each execution: holds are absolute exactly as long as no job is run
that reaches a covered copy (`hold_absolute`).
-/

namespace Orchestra

open EventStore Transition

/-- A hold that is in force covers the copy: the copy belongs to the hold's tenant, and the hold is
tenant-wide or lists a resource that the copy is a copy of. -/
def Copy.Held (artifactOwner : String → Option String) (w : LifecycleWorld) (c : Copy) : Prop :=
  ∃ h ∈ w.db.holds.holds.rows, h.releasedAt = none ∧
    c.owner artifactOwner w = some h.tenantId ∧
    (tenantWide w.db.holds h ∨ ∃ kind id, lists w.db.holds h kind id ∧ c.IsOf w kind id)

namespace LifecycleManager

/-- A call of the manager. -/
inductive Call where
  | setPolicy (tenantId : String) (kind : ResourceKind) (retentionSeconds : ℤ) (autoDelete : Bool)
  | createHold (a : CreateHold)
  | releaseHold (holdId releasedBy identityTenantId reason : String)
  | delete (r : DeleteRequest)
  | executeDeletion (jobId : String)
  | retryDeletion (jobId : String)

variable (P : Primitives) (artifactOwner : String → Option String)

/-- One call, in its environment. -/
def step (w : LifecycleWorld) : LifecycleEnv × Call → LifecycleWorld
  | (env, .setPolicy tenantId kind retentionSeconds autoDelete) =>
    (setPolicy env w tenantId kind retentionSeconds autoDelete).1
  | (env, .createHold a) => (createHold env w a).1
  | (env, .releaseHold holdId releasedBy identityTenantId reason) =>
    (releaseHold env w holdId releasedBy identityTenantId reason).1
  | (env, .delete r) => (delete env w r).1
  | (env, .executeDeletion jobId) => (executeDeletion P env w jobId).1
  | (env, .retryDeletion jobId) => (retryDeletion P env w jobId).1

/-- The step removes and changes no copy that a hold covers. -/
def Absolute (w : LifecycleWorld) (a : LifecycleEnv × Call) : Prop :=
  ∀ c : Copy, c.In w → c.Held artifactOwner w → c.In (step P w a)

/-- The resource reaches no copy that a hold covers. -/
def ReachesNoneHeld (w : LifecycleWorld) (resource : String × ResourceKind × String) : Prop :=
  ∀ c : Copy, c.In w → c.Held artifactOwner w → ¬c.ReachedBy w resource

/-- The call does not run a job that reaches a covered copy. -/
def Clear (w : LifecycleWorld) : LifecycleEnv × Call → Prop
  | (_, .executeDeletion jobId) => ∀ row, w.db.jobs.jobs.find? jobId = some row →
    CanExecute row → ReachesNoneHeld artifactOwner w row.resource
  | (_, .retryDeletion jobId) => ∀ row, w.db.jobs.jobs.find? jobId = some row →
    CanRetry row → ReachesNoneHeld artifactOwner w row.resource
  | _ => True

/-! ## The gate -/

/-- **Tenant-wide holds do not close the gate.** A tenant all of whose holds in force list nothing
has no held resource, as far as `delete` is concerned. -/
theorem isResourceHeld_of_tenantWide {t : HoldTables} {tenantId : String}
    (h : ∀ hold ∈ t.holds.rows, activeFor tenantId hold → tenantWide t hold) (kind : ResourceKind)
    (id : String) : isResourceHeld t tenantId kind id = false := by
  rw [isResourceHeld, List.any_eq_false]
  intro hold hmem
  rw [Bool.and_eq_true, not_and]
  intro hactive hlists
  rw [lists, List.any_eq_true] at hlists
  obtain ⟨r, hr, hpair⟩ := hlists
  have hwide := h hold hmem hactive
  rw [tenantWide, List.all_eq_true] at hwide
  exact of_decide_eq_true (hwide r hr) (of_decide_eq_true hpair).1

/-! ## One step -/

private theorem quiet_holds (w : LifecycleWorld) (holds : HoldTables) :
    Quiet w { w with db := { w.db with holds := holds } } :=
  ⟨rfl, rfl, fun _ _ h ↦ h, rfl, rfl, fun _ j hj ↦ ⟨j, hj, rfl⟩⟩

theorem quiet_createHold (env : LifecycleEnv) (w : LifecycleWorld) (a : CreateHold) :
    Quiet w (createHold env w a).1 := by
  rw [createHold]
  split
  · exact Quiet.refl w
  · split
    · exact Quiet.refl w
    · next holds _ => exact (quiet_holds w holds).trans (quiet_emitAudit env _ _ _ _)

theorem quiet_releaseHold (env : LifecycleEnv) (w : LifecycleWorld)
    (holdId releasedBy identityTenantId reason : String) :
    Quiet w (releaseHold env w holdId releasedBy identityTenantId reason).1 := by
  rw [releaseHold]
  split
  · exact Quiet.refl w
  · exact Quiet.refl w
  · next holds _ => exact (quiet_holds w holds).trans (quiet_emitAudit env _ _ _ _)

theorem quiet_setPolicy (env : LifecycleEnv) (w : LifecycleWorld) (tenantId : String)
    (kind : ResourceKind) (retentionSeconds : ℤ) (autoDelete : Bool) :
    Quiet w (setPolicy env w tenantId kind retentionSeconds autoDelete).1 := by
  rw [setPolicy]
  split
  · exact Quiet.refl w
  · exact ⟨rfl, rfl, fun _ _ h ↦ h, rfl, rfl, fun _ j hj ↦ ⟨j, hj, rfl⟩⟩

variable {P artifactOwner}

/-- An unknown job is an error, and nothing changes. -/
theorem executeDeletion_of_none {env : LifecycleEnv} {w : LifecycleWorld} {jobId : String}
    (h : w.db.jobs.jobs.find? jobId = none) : (executeDeletion P env w jobId).1 = w := by
  rw [executeDeletion, h]

theorem retryDeletion_of_none {env : LifecycleEnv} {w : LifecycleWorld} {jobId : String}
    (h : w.db.jobs.jobs.find? jobId = none) : (retryDeletion P env w jobId).1 = w := by
  rw [retryDeletion, h]

/-- The step lemma: a clear call leaves every covered copy. -/
theorem Clear.absolute {w : LifecycleWorld} {a : LifecycleEnv × Call}
    (h : Clear artifactOwner w a) : Absolute P artifactOwner w a := by
  obtain ⟨env, call⟩ := a
  intro c hin hheld
  cases call with
  | setPolicy tenantId kind retentionSeconds autoDelete =>
    exact (quiet_setPolicy env w tenantId kind retentionSeconds autoDelete).in_of_in hin
  | createHold a => exact (quiet_createHold env w a).in_of_in hin
  | releaseHold holdId releasedBy identityTenantId reason =>
    exact (quiet_releaseHold env w holdId releasedBy identityTenantId reason).in_of_in hin
  | delete r => exact (delete_cases env w r).1.in_of_in hin
  | executeDeletion jobId =>
    rw [step]
    cases hrow : w.db.jobs.jobs.find? jobId with
    | none => rwa [executeDeletion_of_none hrow]
    | some row =>
      by_cases hcan : CanExecute row
      · exact (attempted_executeDeletion hrow hcan).in_of_not_reached hin
          (h row hrow hcan c hin hheld)
      · rwa [executeDeletion_of_not hrow hcan]
  | retryDeletion jobId =>
    rw [step]
    cases hrow : w.db.jobs.jobs.find? jobId with
    | none => rwa [retryDeletion_of_none hrow]
    | some row =>
      by_cases hcan : CanRetry row
      · exact (attempted_retryDeletion hrow hcan).in_of_not_reached hin
          (h row hrow hcan c hin hheld)
      · rwa [retryDeletion_of_not hrow hcan]

/-- Conversely, when nothing raises, a call that leaves every covered copy is clear. -/
theorem Absolute.clear {w : LifecycleWorld} {a : LifecycleEnv × Call} (hok : a.1.faults = {})
    (h : Absolute P artifactOwner w a) : Clear artifactOwner w a := by
  obtain ⟨env, call⟩ := a
  cases call with
  | executeDeletion jobId =>
    intro row hrow hcan c hin hheld hreach
    exact (attempted_executeDeletion hrow hcan).not_in_of_reached hok hin hreach (h c hin hheld)
  | retryDeletion jobId =>
    intro row hrow hcan c hin hheld hreach
    exact (attempted_retryDeletion hrow hcan).not_in_of_reached hok hin hreach (h c hin hheld)
  | _ => trivial

/-! ## Whole runs -/

/-- **When holds are absolute.** From any state and for any interleaving of calls, in any
environment: if no execution and no retry runs a job that reaches a copy which a hold in force
covers, then no step of the run removes or changes a covered copy. Where nothing raises, that is
also necessary. -/
theorem hold_absolute (w : LifecycleWorld) (calls : List (LifecycleEnv × Call)) :
    (AllSteps (step P) (Clear artifactOwner) w calls →
        AllSteps (step P) (Absolute P artifactOwner) w calls) ∧
      ((∀ a ∈ calls, a.1.faults = {}) → AllSteps (step P) (Absolute P artifactOwner) w calls →
        AllSteps (step P) (Clear artifactOwner) w calls) := by
  constructor
  · exact AllSteps.imp fun _ _ ↦ Clear.absolute
  · exact AllSteps.imp_of_mem fun _ _ ↦ Absolute.clear

/-- Tenant `t` has two artifacts. -/
def sampleWorld : LifecycleWorld where
  db := {}
  artifacts := some ⟨[⟨"artifact-1", .obj []⟩, ⟨"artifact-2", .obj []⟩], by decide⟩

/-- A call in which nothing raises. -/
def sampleEnv (freshId auditId : String) : LifecycleEnv where
  now := 0
  occurredAt := 0
  freshId := freshId
  auditId := auditId

/-- A hold of tenant `t`; with nothing listed it is tenant-wide. -/
def sampleHold (kinds : List ResourceKind) (ids : List String) : CreateHold where
  tenantId := "tenant:t"
  caseId := "CASE-1"
  reason := "litigation"
  createdBy := "user:t"
  resourceKinds := kinds
  resourceIds := ids

def sampleRequest (id : String) : DeleteRequest where
  tenantId := "tenant:t"
  resourceKind := .artifact
  resourceId := id
  requestedBy := "user:t"

/-- The first artifact is held, the second is deleted. -/
def clearRun : List (LifecycleEnv × Call) :=
  [(sampleEnv "hold-1" "event-1", .createHold (sampleHold [.artifact] ["artifact-1"])),
    (sampleEnv "job-1" "event-2", .delete (sampleRequest "artifact-1")),
    (sampleEnv "job-2" "event-3", .delete (sampleRequest "artifact-2")),
    (sampleEnv "" "event-4", .executeDeletion "job-2")]

/-- The digest of the empty object, the one value that is digested below. -/
def samplePrimitives : Primitives where
  sha256 _ :=
    [0x44, 0x13, 0x6f, 0xa3, 0x55, 0xb3, 0x67, 0x8a, 0x11, 0x46, 0xad, 0x16, 0xf7, 0xe8, 0x64, 0x9e,
      0x94, 0xfb, 0x4f, 0xc2, 0x1f, 0xe7, 0x7e, 0x83, 0x10, 0xc0, 0x60, 0xf6, 0x1c, 0xaa, 0xff, 0x8a]
  hmacSha256 _ _ := [0]
  hmac_ne_nil _ _ := List.cons_ne_nil _ _

theorem hold_absolute_clearRun :
    AllSteps (step samplePrimitives) (Absolute samplePrimitives fun _ ↦ some "tenant:t") sampleWorld
      clearRun := by
  refine (hold_absolute sampleWorld clearRun).1 ⟨trivial, trivial, trivial, ?_, trivial⟩
  intro row hrow _ c hin hheld hreach
  obtain rfl := Option.some.inj (hrow.symm.trans (rfl : _ = some
    (newJobRow 0 (requestedJob (sampleEnv "job-2" "") (sampleRequest "artifact-2")))))
  obtain ⟨a, rfl, hid⟩ := Copy.reachedBy_artifact_iff.mp hreach
  obtain ⟨h, hmem, -, -, hwide | ⟨kind, id, hlists, hof⟩⟩ := hheld
  · obtain rfl := List.mem_singleton.mp hmem
    cases (hwide : false = true)
  · obtain rfl := List.mem_singleton.mp hmem
    have hpair : (decide ("hold-1" = "hold-1" ∧ ResourceKind.artifact = kind ∧
      "artifact-1" = id) || false) = true := hlists
    have hid' : a.artifactId = "artifact-2" := hid
    rw [← hof.2, hid'] at hpair
    simp at hpair

/-- **A hold that comes after the job is ignored**: the job is requested, the hold is placed, and
the execution removes the artifact. -/
theorem late_hold_ignored : ¬∃ P : Primitives, ∀ (artifactOwner : String → Option String)
    (w : LifecycleWorld) (calls : List (LifecycleEnv × Call)),
    AllSteps (step P) (Absolute P artifactOwner) w calls := by
  rintro ⟨P, h⟩
  have hrun := h (fun _ ↦ some "tenant:t") sampleWorld
    [(sampleEnv "job-1" "event-1", .delete (sampleRequest "artifact-1")),
      (sampleEnv "hold-1" "event-2", .createHold (sampleHold [.artifact] ["artifact-1"])),
      (sampleEnv "" "event-3", .executeDeletion "job-1")]
  obtain ⟨t, ht, hmem⟩ := hrun.2.2.1 (.artifact ⟨"artifact-1", .obj []⟩)
    ⟨_, rfl, List.mem_cons_self⟩
    ⟨newHold (sampleEnv "hold-1" "event-2") (sampleHold [.artifact] ["artifact-1"]),
      List.mem_singleton.mpr rfl, rfl, rfl, Or.inr ⟨.artifact, "artifact-1", rfl, rfl, rfl⟩⟩
  obtain rfl : t = ⟨[⟨"artifact-2", .obj []⟩], List.nodup_singleton _⟩ :=
    (Option.some.inj ht).symm
  exact absurd hmem (by decide)

end LifecycleManager

end Orchestra
