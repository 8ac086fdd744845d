import Orchestra.Coordinator.EngineWorld
import Orchestra.Enterprise.BreakGlass
import Orchestra.Enterprise.HoldCoverage

/-!
# The pilot drill

The drill exercises the safety path on a tenant: it files a break-glass request, sweeps the expired
ones, puts a resource that does not exist under a legal hold, checks that its deletion is refused
and releases the hold. Every step that raises is reported as failed; the request and the hold also
end the drill.

The drill asks for the request under a name that the class of the service does not define. The
lookup raises, so the report has one failed step and no drill passes (`not_drillSound`). A service
that answers the two calls of the drill takes it to the hold. There the drill names a fixed case,
of which a tenant has at most one hold, so it passes at most once (`drillSound_iff`,
`not_drillSound_later`).
-/

namespace Orchestra

open EventStore Transition

/-! ## Calling the service by name -/

/-- A method as a caller with keywords sees it. -/
structure MethodSignature where
  name : String
  parameters : List String

namespace BreakGlassService

/-- The methods of the class. -/
def methods : List MethodSignature :=
  [⟨"__init__", ["store"]⟩,
    ⟨"request", ["tenant_id", "purpose", "effect", "resource_scope", "requested_by", "ticket",
      "window_seconds", "task_run_id", "identity_tenant_id"]⟩,
    ⟨"approve", ["request_id", "approver", "identity_tenant_id", "rationale"]⟩,
    ⟨"revoke", ["request_id", "revoker", "identity_tenant_id", "reason"]⟩,
    ⟨"sweep_expired", []⟩,
    ⟨"is_active", ["request_id"]⟩,
    ⟨"get", ["request_id"]⟩,
    ⟨"list_for_tenant", ["tenant_id", "state"]⟩,
    ⟨"_resolve_tenant_max_window", ["tenant_id"]⟩,
    ⟨"_anchor_tenant_scoped_request", ["tenant_id", "request_id_marker", "requested_by"]⟩,
    ⟨"_emit", ["task_run_id", "kind", "tenant_id", "payload", "actor"]⟩]

/-- `getattr(service, name)`. -/
def getattr (name : String) : Except Raised MethodSignature :=
  match methods.find? fun m ↦ decide (m.name = name) with
  | some m => .ok m
  | none =>
    .error ⟨"AttributeError", "'BreakGlassService' object has no attribute " ++ pyRepr name⟩

/-- A method takes the keywords it has parameters for. -/
def takeKeywords (m : MethodSignature) (keywords : List String) : Except Raised Unit :=
  match keywords.find? fun k ↦ decide (k ∉ m.parameters) with
  | some k => .error ⟨"TypeError", "BreakGlassService." ++ m.name ++
      "() got an unexpected keyword argument " ++ pyRepr k⟩
  | none => .ok ()

/-- Calling a method by name, up to the start of its body. -/
def callByName (name : String) (keywords : List String) : Except Raised Unit := do
  takeKeywords (← getattr name) keywords

end BreakGlassService

/-- The object the drill is handed as its break-glass service, known by its answers to the two calls
the drill makes: `create_request` for a tenant and an actor, and `sweep_expired`. -/
structure DrillService where
  createRequest : BreakGlassEnv → Database → String → String → Database × Except Raised String
  sweepExpired : BreakGlassEnv → Database → Database × Except Raised (List String)

namespace BreakGlassService

/-- The arguments the drill gives. -/
def drillRequest (tenantId actor : String) : BreakGlassArgs where
  tenantId := tenantId
  purpose := "pilot-drill"
  effect := .obj [("kind", .str "override_denial")]
  resourceScope := .obj [("resource_kind", .str "artifact")]
  requestedBy := actor
  ticket := some "DRILL"

/-- The keywords under which the drill gives them. -/
def drillKeywords : List String :=
  ["tenant_id", "purpose", "effect", "resource_scope", "ticket", "actor"]

/-- `BreakGlassService` as the drill calls it. -/
def drillService : DrillService where
  createRequest env db tenantId actor :=
    match callByName "create_request" drillKeywords with
    | .error e => (db, .error e)
    | .ok () =>
      -- `request` is the one method with a purpose
      let requested := request env db (drillRequest tenantId actor)
      (requested.1,
        (requested.2.mapError StoreError.raised).map BreakGlassRequest.requestId)
  sweepExpired env db :=
    match callByName "sweep_expired" [] with
    | .error e => (db, .error e)
    | .ok () => ((sweepExpired env db).1, .ok (sweepExpired env db).2)

end BreakGlassService

/-! ## The drill -/

/-- The class and the text of an exception of the manager. -/
def LifecycleError.raised : LifecycleError → Raised
  | .valueError message => ⟨"ValueError", message⟩
  | .crossTenant expected actual =>
    ⟨"LifecycleCrossTenant", "cross-tenant: resource belongs to " ++ pyRepr expected ++
      ", identity is in " ++ pyRepr actual⟩
  | .blocked holdId caseId kind resourceId =>
    ⟨"LifecycleBlocked", "deletion blocked: " ++ kind.value ++ " " ++ pyRepr resourceId ++
      " is covered by hold " ++ holdId ++ " (case " ++ pyRepr caseId ++ ")"⟩
  | .retained kind resourceId reason =>
    ⟨"LifecycleRetained", "deletion refused: " ++ kind.value ++ " " ++ pyRepr resourceId ++
      " is retained by the lifecycle policy" ++
      if reason = "" then "" else " (" ++ reason ++ ")"⟩
  | .store e => e.raised

structure DrillStep where
  name : String
  ok : Bool
  detail : List (String × Json) := []

structure PilotDrillReport where
  tenantId : String
  steps : List DrillStep
  passed : Bool
  summary : String

/-- What the environment supplies to the calls of one drill, and the identifier the drill's resource
is named after. -/
structure DrillEnv where
  request : BreakGlassEnv
  sweep : BreakGlassEnv
  newId : String
  hold : LifecycleEnv
  delete : LifecycleEnv
  release : LifecycleEnv

namespace PilotDrill

/-- A step, from what its call returned or raised. -/
def stepOf {α : Type} (name : String) (detail : α → List (String × Json)) :
    Except Raised α → DrillStep
  | .ok a => { name := name, ok := true, detail := detail a }
  | .error e => { name := name, ok := false, detail := [("error", .str e.text)] }

/-- `_finalise`. -/
def finalise (tenantId : String) (steps : List DrillStep) : PilotDrillReport :=
  let passed := steps.all DrillStep.ok
  { tenantId := tenantId
    steps := steps
    passed := passed
    summary :=
      if passed then
        toString (steps.countP DrillStep.ok) ++ "/" ++ toString steps.length ++ " steps ok"
      else "FAIL: " ++ toString (steps.countP fun s ↦ !s.ok) ++ " step(s) failed" }

/-- The resource of the drill, which exists nowhere. -/
def drillResource (env : DrillEnv) : String :=
  "drill-art-" ++ String.ofList (env.newId.toList.take 8)

def drillHold (env : DrillEnv) (tenantId actor : String) : CreateHold where
  tenantId := tenantId
  caseId := "DRILL"
  reason := "pilot-drill"
  createdBy := actor
  resourceKinds := [.artifact]
  resourceIds := [drillResource env]

def drillDelete (env : DrillEnv) (tenantId actor : String) : DeleteRequest where
  tenantId := tenantId
  resourceKind := .artifact
  resourceId := drillResource env
  requestedBy := actor
  identityTenantId := some tenantId

section Steps

variable (env : DrillEnv) (w : LifecycleWorld) (tenantId actor : String)

/-- Step 5 and the report. -/
def releaseStep (hold : LegalHold) (steps : List DrillStep) :
    LifecycleWorld × Except LifecycleError PilotDrillReport :=
  let released :=
    LifecycleManager.releaseHold env.release w hold.holdId actor tenantId "drill complete"
  (released.1, .ok (finalise tenantId
    (steps ++ [stepOf "legal_hold.release" (fun _ ↦ [])
      (released.2.mapError LifecycleError.raised)])))

/-- Step 4 and what follows. Only the refusal for a hold is caught. -/
def deleteStep (hold : LegalHold) (steps : List DrillStep) :
    LifecycleWorld × Except LifecycleError PilotDrillReport :=
  let deleted := LifecycleManager.delete env.delete w (drillDelete env tenantId actor)
  match deleted.2 with
  | .ok _ =>
    releaseStep env deleted.1 tenantId actor hold
      (steps ++ [⟨"legal_hold.blocks_delete", false,
        [("error", .str "delete on held resource did NOT raise")]⟩])
  | .error (.blocked _ _ _ _) =>
    releaseStep env deleted.1 tenantId actor hold
      (steps ++ [⟨"legal_hold.blocks_delete", true, []⟩])
  | .error e => (deleted.1, .error e)

/-- Step 3 and what follows. -/
def holdStep (steps : List DrillStep) :
    LifecycleWorld × Except LifecycleError PilotDrillReport :=
  let held := LifecycleManager.createHold env.hold w (drillHold env tenantId actor)
  let outcome := stepOf "legal_hold.create"
    (fun hold : LegalHold ↦ [("hold_id", .str hold.holdId), ("case_id", .str hold.caseId)])
    (held.2.mapError LifecycleError.raised)
  match held.2 with
  | .error _ => (held.1, .ok (finalise tenantId (steps ++ [outcome])))
  | .ok hold => deleteStep env held.1 tenantId actor hold (steps ++ [outcome])

/-- `run_pilot_drill`. -/
def runPilotDrill (service : DrillService) :
    LifecycleWorld × Except LifecycleError PilotDrillReport :=
  let requested := service.createRequest env.request w.db tenantId actor
  let outcome := stepOf "break_glass.request"
    (fun requestId : String ↦ [("request_id", .str requestId)]) requested.2
  match requested.2 with
  | .error _ => ({ w with db := requested.1 }, .ok (finalise tenantId [outcome]))
  | .ok _ =>
    let swept := service.sweepExpired env.sweep requested.1
    holdStep env { w with db := swept.1 } tenantId actor
      [outcome, stepOf "break_glass.sweep" (fun _ ↦ []) swept.2]

end Steps

/-- One of several drills of a tenant, with what the environment supplies and the actor. -/
def drillStep (service : DrillService) (tenantId : String) (w : LifecycleWorld)
    (d : DrillEnv × String) : LifecycleWorld :=
  (runPilotDrill d.1 w tenantId d.2 service).1

/-- Drills of one tenant, one after the other. -/
def drills (service : DrillService) (tenantId : String) :
    LifecycleWorld → List (DrillEnv × String) → LifecycleWorld :=
  run (drillStep service tenantId)

/-- What the drill is to do: report five good steps, and leave no hold of its case in force. -/
def DrillSound (service : DrillService) (env : DrillEnv) (w : LifecycleWorld)
    (tenantId actor : String) : Prop :=
  (∃ report, (runPilotDrill env w tenantId actor service).2 = .ok report ∧
    report.passed = true ∧ report.steps.length = 5 ∧ ∀ s ∈ report.steps, s.ok = true) ∧
    ∀ h ∈ (runPilotDrill env w tenantId actor service).1.db.holds.holds.rows,
      h.tenantId = tenantId → h.caseId = "DRILL" → h.releasedAt ≠ none

/-! ## A service that answers -/

/-- The service answers the two calls of a drill and leaves the holds alone. -/
structure Answers (service : DrillService) (env : DrillEnv) (db : Database)
    (tenantId actor : String) : Prop where
  requested : ∃ requestId, (service.createRequest env.request db tenantId actor).2 = .ok requestId
  swept : ∃ ids, (service.sweepExpired env.sweep
    (service.createRequest env.request db tenantId actor).1).2 = .ok ids
  holds : (service.sweepExpired env.sweep
    (service.createRequest env.request db tenantId actor).1).1.holds = db.holds

/-- The tenant has no hold of the drill's case, released or not, and the identifier of the new hold
is not taken. -/
def Unused (env : DrillEnv) (t : HoldTables) (tenantId : String) : Prop :=
  (tenantId, "DRILL") ∉ t.holds.rows.map (fun h ↦ (h.tenantId, h.caseId)) ∧
    t.holds.find? env.hold.freshId = none

variable {env : DrillEnv} {w : LifecycleWorld} {tenantId actor : String}

@[simp] theorem emitAudit_holds (env : LifecycleEnv) (w : LifecycleWorld) (kind : EventKind)
    (actor : String) (payload : List (String × Json)) :
    (LifecycleManager.emitAudit env w kind actor payload).db.holds = w.db.holds := by
  obtain h | ⟨events, -, h⟩ := LifecycleManager.emitAudit_cases env w kind actor payload <;> rw [h]

theorem insertHold_ok_iff {t : HoldTables} {hold : LegalHold} :
    (∃ t', insertHold t hold = .ok t') ↔
      (hold.tenantId, hold.caseId) ∉ t.holds.rows.map (fun h ↦ (h.tenantId, h.caseId)) ∧
        t.holds.find? hold.holdId = none := by
  constructor
  · rintro ⟨t', h⟩
    -- the row is there now, and the tables have it once
    have hrows := (rows_of_insertHold h).1
    have hcases := t'.case_nodup
    have hkeys := t'.holds.nodup_keys
    rw [hrows, List.map_append, List.map_singleton] at hcases hkeys
    refine ⟨fun hmem ↦ ?_, KeyedTable.find?_eq_none_iff.mpr fun hmem ↦ ?_⟩
    · exact List.disjoint_of_nodup_append hcases hmem (List.mem_singleton_self _)
    · exact List.disjoint_of_nodup_append hkeys hmem (List.mem_singleton_self _)
  · rintro ⟨hcase, hid⟩
    rw [insertHold, dif_neg hcase]
    split
    · next hnone =>
      rw [KeyedTable.insert_eq_none_iff, hid] at hnone
      cases hnone
    · exact ⟨_, rfl⟩

theorem insertHoldResource_ok {t : HoldTables} {r : LegalHoldResource}
    (hhold : (t.holds.find? r.holdId).isSome) (hnew : t.resources.find? r = none) :
    ∃ t', insertHoldResource t r = .ok t' := by
  rw [insertHoldResource, dif_pos hhold]
  split
  · next hnone =>
    rw [KeyedTable.insert_eq_none_iff, id_eq, hnew] at hnone
    cases hnone
  · exact ⟨_, rfl⟩

/-- A hold with one listed resource is inserted exactly when its case and its identifier are
free. -/
theorem createLegalHold_ok_iff (t : HoldTables) (hold : LegalHold) (p : ResourceKind × String) :
    (∃ t', createLegalHold t hold [p] = .ok t') ↔
      (hold.tenantId, hold.caseId) ∉ t.holds.rows.map (fun h ↦ (h.tenantId, h.caseId)) ∧
        t.holds.find? hold.holdId = none := by
  rw [← insertHold_ok_iff]
  constructor
  · rintro ⟨t', h⟩
    obtain ⟨t₁, hins, -⟩ := bind_eq_ok_iff.mp h
    exact ⟨t₁, hins⟩
  · rintro ⟨t₁, ht₁⟩
    obtain ⟨hrows, hresources, hfresh⟩ := rows_of_insertHold ht₁
    have hhold : t₁.holds.find? hold.holdId = some hold := by
      refine KeyedTable.find?_of_mem ?_
      rw [hrows]
      exact List.mem_append_right _ (List.mem_singleton_self _)
    -- no listed resource belongs to a hold that has just been inserted
    have hnew : t₁.resources.find? ⟨hold.holdId, p.1, p.2⟩ = none := by
      refine KeyedTable.find?_eq_none_of_key_ne fun r hr heq ↦ ?_
      rw [hresources] at hr
      exact hfresh r hr (congrArg LegalHoldResource.holdId heq)
    obtain ⟨t', ht'⟩ := insertHoldResource_ok (by rw [hhold]; rfl) hnew
    exact ⟨t', bind_eq_ok_iff.mpr ⟨t₁, ht₁, by rw [List.foldlM_cons, ht']; rfl⟩⟩

/-- The hold of the drill passes the checks of the manager. -/
theorem createHoldError_drillHold (env : DrillEnv) (tenantId actor : String) :
    LifecycleManager.createHoldError (drillHold env tenantId actor) = none := by
  have hstrip : pyStrip "DRILL" = "DRILL" := by decide
  rw [LifecycleManager.createHoldError, drillHold, hstrip]
  rfl

theorem createHold_drillHold (env : DrillEnv) (w : LifecycleWorld) (tenantId actor : String) :
    (∃ e, LifecycleManager.createHold env.hold w (drillHold env tenantId actor) = (w, .error e)) ∧
        ¬Unused env w.db.holds tenantId ∨
      ∃ hold t, (LifecycleManager.createHold env.hold w (drillHold env tenantId actor)).2
          = .ok hold ∧
        (LifecycleManager.createHold env.hold w (drillHold env tenantId actor)).1.db.holds = t ∧
        hold.tenantId = tenantId ∧ hold.caseId = "DRILL" ∧ hold.releasedAt = none ∧
        Unused env w.db.holds tenantId ∧
        createLegalHold w.db.holds hold [(.artifact, drillResource env)] = .ok t := by
  have hstrip : pyStrip "DRILL" = "DRILL" := by decide
  have hiff := createLegalHold_ok_iff w.db.holds
    (LifecycleManager.newHold env.hold (drillHold env tenantId actor))
    (.artifact, drillResource env)
  have hpairs : LifecycleManager.resourcePairs (drillHold env tenantId actor) =
      [(.artifact, drillResource env)] := rfl
  have hcase : (LifecycleManager.newHold env.hold (drillHold env tenantId actor)).caseId
      = "DRILL" := hstrip
  rw [hcase] at hiff
  rw [LifecycleManager.createHold, createHoldError_drillHold, hpairs]
  cases hcreate : createLegalHold w.db.holds
      (LifecycleManager.newHold env.hold (drillHold env tenantId actor))
      [(.artifact, drillResource env)] with
  | error e =>
    refine Or.inl ⟨⟨_, rfl⟩, fun hunused ↦ ?_⟩
    obtain ⟨t, ht⟩ := hiff.mpr hunused
    rw [hcreate] at ht
    cases ht
  | ok t =>
    refine Or.inr ⟨_, t, rfl, emitAudit_holds _ _ _ _ _, rfl, hcase, rfl, ?_, hcreate⟩
    exact hiff.mp ⟨t, hcreate⟩

/-- The tenant has a hold of the drill's case, and all of them are released. -/
def Spent (t : HoldTables) (tenantId : String) : Prop :=
  (tenantId, "DRILL") ∈ t.holds.rows.map (fun h ↦ (h.tenantId, h.caseId)) ∧
    ∀ h ∈ t.holds.rows, h.tenantId = tenantId → h.caseId = "DRILL" → h.releasedAt ≠ none

/-- The hold of the drill is released. -/
theorem releaseStep_of_inForce (env : DrillEnv) (actor : String) {hold : LegalHold}
    (steps : List DrillStep)
    (hmem : hold ∈ w.db.holds.holds.rows) (htenant : hold.tenantId = tenantId)
    (hcase : hold.caseId = "DRILL") (hforce : hold.releasedAt = none) :
    (releaseStep env w tenantId actor hold steps).2 =
        .ok (finalise tenantId (steps ++ [⟨"legal_hold.release", true, []⟩])) ∧
      Spent (releaseStep env w tenantId actor hold steps).1.db.holds tenantId := by
  have hrelease : releaseLegalHold w.db.holds hold.holdId actor tenantId "drill complete"
      env.release.now =
        .ok (updateHold w.db.holds hold.holdId actor "drill complete" env.release.now) := by
    rw [releaseLegalHold, KeyedTable.find?_of_mem hmem]
    simp only [htenant, hforce, ne_eq, not_true_eq_false, if_false, Option.isSome_none,
      Bool.false_eq_true]
  simp only [releaseStep, LifecycleManager.releaseHold, hrelease, emitAudit_holds]
  refine ⟨rfl, ?_, fun h hh htenant' hcase' hopen ↦ ?_⟩
  · refine List.mem_map.mpr ⟨releaseRow actor "drill complete" env.release.now hold,
      List.mem_map.mpr ⟨hold, hmem, if_pos (decide_eq_true rfl)⟩, ?_⟩
    exact Prod.ext htenant hcase
  · obtain ⟨h₀, hmem₀, rfl⟩ := List.mem_map.mp hh
    split at hopen
    · cases hopen
    · next hother =>
      -- a tenant has one hold for a case
      rw [if_neg hother] at htenant' hcase'
      have hsame : h₀ = hold := List.inj_on_of_nodup_map w.db.holds.case_nodup hmem₀ hmem
        (Prod.ext (htenant'.trans htenant.symm) (hcase'.trans hcase.symm))
      exact hother (decide_eq_true (congrArg LegalHold.holdId hsame))

/-- A resource that a hold in force lists is refused, and the drill goes on to the release. -/
theorem deleteStep_of_held (actor : String) (hold : LegalHold) (steps : List DrillStep)
    (hheld : isResourceHeld w.db.holds tenantId .artifact (drillResource env) = true) :
    ∃ w', w'.db.holds = w.db.holds ∧
      deleteStep env w tenantId actor hold steps =
        releaseStep env w' tenantId actor hold
          (steps ++ [⟨"legal_hold.blocks_delete", true, []⟩]) := by
  have hidentity : LifecycleManager.crossTenant (drillDelete env tenantId actor).tenantId
      (drillDelete env tenantId actor).identityTenantId = none := by
    rw [LifecycleManager.crossTenant, drillDelete, Option.bind_some, if_pos rfl]
  have hgate : isResourceHeld w.db.holds (drillDelete env tenantId actor).tenantId
      (drillDelete env tenantId actor).resourceKind
      (drillDelete env tenantId actor).resourceId = true := hheld
  obtain ⟨w', hw', holdId, caseId, kind, id, hblocked⟩ : ∃ w', w'.db.holds = w.db.holds ∧
      ∃ holdId caseId kind id, LifecycleManager.delete env.delete w
        (drillDelete env tenantId actor) = (w', .error (.blocked holdId caseId kind id)) := by
    rw [LifecycleManager.delete, hidentity]
    simp only [hgate, if_true]
    exact ⟨_, emitAudit_holds _ _ _ _ _, _, _, _, _, rfl⟩
  exact ⟨w', hw', by rw [deleteStep, hblocked]⟩

/-- The first two steps of a drill whose service answers. -/
theorem runPilotDrill_of_answers {service : DrillService}
    (h : Answers service env w.db tenantId actor) :
    ∃ w' requestId, w'.db.holds = w.db.holds ∧
      runPilotDrill env w tenantId actor service = holdStep env w' tenantId actor
        [⟨"break_glass.request", true, [("request_id", .str requestId)]⟩,
          ⟨"break_glass.sweep", true, []⟩] := by
  obtain ⟨requestId, hrequested⟩ := h.requested
  obtain ⟨ids, hswept⟩ := h.swept
  refine ⟨{ w with db := (service.sweepExpired env.sweep
    (service.createRequest env.request w.db tenantId actor).1).1 }, requestId, h.holds, ?_⟩
  rw [runPilotDrill]
  simp only [hrequested, hswept, stepOf]

/-- With a case that is free the drill goes through its five steps. -/
theorem drillSound_of_unused {service : DrillService}
    (h : Answers service env w.db tenantId actor) (hunused : Unused env w.db.holds tenantId) :
    DrillSound service env w tenantId actor ∧
      Spent (runPilotDrill env w tenantId actor service).1.db.holds tenantId := by
  obtain ⟨w₁, requestId, hholds, hrun⟩ := runPilotDrill_of_answers h
  rw [← hholds] at hunused
  obtain ⟨-, htaken⟩ | ⟨hold, t, hok, ht, htenant, hcase, hforce, -, hcreate⟩ :=
    createHold_drillHold env w₁ tenantId actor
  · exact absurd hunused htaken
  · obtain ⟨hrows, hlists, -⟩ : t.holds.rows = w₁.db.holds.holds.rows ++ [hold] ∧
        (lists t hold .artifact (drillResource env) = true ↔ _) ∧ _ :=
      lists_createLegalHold hcreate
    have hmem : hold ∈ t.holds.rows := by
      rw [hrows]
      exact List.mem_append_right _ (List.mem_singleton_self _)
    have hheld : isResourceHeld t tenantId .artifact (drillResource env) = true :=
      isResourceHeld_eq_true_iff.mpr ⟨hold, hmem, htenant, hforce,
        lists_eq_true_iff.mp (hlists.mpr (List.mem_singleton_self _))⟩
    rw [← ht] at hmem hheld
    rw [DrillSound, hrun, holdStep]
    simp only [hok, Except.mapError, stepOf]
    obtain ⟨w', hw', hdelete⟩ := deleteStep_of_held actor hold _ hheld
    rw [← hw'] at hmem
    obtain ⟨hreport, hspent⟩ := releaseStep_of_inForce env actor _ hmem htenant hcase hforce
    rw [hdelete]
    exact ⟨⟨⟨_, hreport, rfl, rfl, List.all_eq_true.mp rfl⟩, hspent.2⟩, hspent⟩

/-- When its hold cannot be created, the drill fails and leaves the holds as they were. -/
theorem runPilotDrill_of_not_unused {service : DrillService}
    (h : Answers service env w.db tenantId actor) (hunused : ¬Unused env w.db.holds tenantId) :
    (∃ report, (runPilotDrill env w tenantId actor service).2 = .ok report ∧
      report.passed = false) ∧
      (runPilotDrill env w tenantId actor service).1.db.holds = w.db.holds := by
  obtain ⟨w₁, requestId, hholds, hrun⟩ := runPilotDrill_of_answers h
  rw [← hholds] at hunused
  obtain ⟨⟨e, he⟩, -⟩ | ⟨-, -, -, -, -, -, -, hunused', -⟩ :=
    createHold_drillHold env w₁ tenantId actor
  · rw [hrun, holdStep, ← hholds]
    simp only [he, Except.mapError, stepOf]
    exact ⟨⟨_, rfl, rfl⟩, trivial⟩
  · exact absurd hunused' hunused

/-- **When a drill passes.** With a service that answers, a drill does what it is to do exactly when
the tenant has never had a hold of the drill's case. -/
theorem drillSound_iff {service : DrillService} (h : Answers service env w.db tenantId actor) :
    DrillSound service env w tenantId actor ↔ Unused env w.db.holds tenantId := by
  refine ⟨?_, fun hunused ↦ (drillSound_of_unused h hunused).1⟩
  rintro ⟨⟨report, hreport, hpassed, -⟩, -⟩
  by_contra hunused
  obtain ⟨⟨report', hreport', hfailed⟩, -⟩ := runPilotDrill_of_not_unused h hunused
  obtain rfl := Except.ok.inj (hreport.symm.trans hreport')
  rw [hpassed] at hfailed
  cases hfailed

/-- **A drill that passes is the last that does.** Its hold stays in the table, released, and keeps
the case taken, whatever drills of the tenant follow. -/
theorem not_drillSound_later {service : DrillService} (h : Answers service env w.db tenantId actor)
    (hsound : DrillSound service env w tenantId actor) {later : List (DrillEnv × String)}
    (hlater : AllSteps (drillStep service tenantId)
      (fun w d ↦ Answers service d.1 w.db tenantId d.2)
      (drillStep service tenantId w (env, actor)) later) :
    AllSteps (drillStep service tenantId) (fun w d ↦ ¬DrillSound service d.1 w tenantId d.2)
      (drillStep service tenantId w (env, actor)) later := by
  have hspent : Spent (drillStep service tenantId w (env, actor)).db.holds tenantId :=
    (drillSound_of_unused h ((drillSound_iff h).mp hsound)).2
  refine AllSteps.of_invariant (I := fun w ↦ Spent w.db.holds tenantId) ?_ ?_ hspent hlater
  · intro w d hspent hanswers
    rw [drillStep, (runPilotDrill_of_not_unused hanswers fun hunused ↦ hunused.1 hspent.1).2]
    exact hspent
  · intro w d hspent hanswers hsound
    exact ((drillSound_iff hanswers).mp hsound).1 hspent.1

/-- A drill in which nothing outside raises. -/
def sampleDrillEnv : DrillEnv where
  request := { now := 0, occurredAt := 0, requestId := "request-1", eventId := fun _ ↦ "event-1" }
  sweep := { now := 0, occurredAt := 0, eventId := fun _ ↦ "event-2" }
  newId := "0123456789ab"
  hold := LifecycleManager.sampleEnv "hold-1" "event-3"
  delete := LifecycleManager.sampleEnv "job-1" "event-4"
  release := LifecycleManager.sampleEnv "" "event-5"

/-- The methods of the service answer under their own names. -/
example : Answers
    { createRequest := fun env db tenantId actor ↦
        let requested :=
          BreakGlassService.request env db (BreakGlassService.drillRequest tenantId actor)
        (requested.1,
          (requested.2.mapError StoreError.raised).map BreakGlassRequest.requestId)
      sweepExpired := BreakGlassService.drillService.sweepExpired }
    sampleDrillEnv {} "tenant:drill" "drill@partner.example" :=
  ⟨⟨"request-1", by rfl⟩, ⟨[], by rfl⟩, by rfl⟩

/-! ## The service the drill is handed -/

/-- The class has no method of the name the drill calls. -/
theorem callByName_createRequest (keywords : List String) :
    BreakGlassService.callByName "create_request" keywords =
      .error ⟨"AttributeError",
        "'BreakGlassService' object has no attribute 'create_request'"⟩ := by
  have hnone : BreakGlassService.methods.find? (fun m ↦ decide (m.name = "create_request"))
      = none := by decide
  rw [BreakGlassService.callByName, BreakGlassService.getattr, hnone]
  rfl

/-- Nor would its own name for the method help: the drill gives the applicant as the actor. -/
example : BreakGlassService.callByName "request" BreakGlassService.drillKeywords =
    .error ⟨"TypeError",
      "BreakGlassService.request() got an unexpected keyword argument 'actor'"⟩ := by
  rfl

theorem createRequest_drillService (env : BreakGlassEnv) (db : Database)
    (tenantId actor : String) :
    BreakGlassService.drillService.createRequest env db tenantId actor =
      (db, .error ⟨"AttributeError",
        "'BreakGlassService' object has no attribute 'create_request'"⟩) := by
  rw [BreakGlassService.drillService, callByName_createRequest]

/-- The drill ends at its first step and leaves everything as it was. -/
theorem runPilotDrill_eq (env : DrillEnv) (w : LifecycleWorld) (tenantId actor : String) :
    runPilotDrill env w tenantId actor BreakGlassService.drillService =
      (w, .ok (finalise tenantId [⟨"break_glass.request", false, [("error",
        .str "'BreakGlassService' object has no attribute 'create_request'")]⟩])) := by
  rw [runPilotDrill, createRequest_drillService]
  rfl

theorem drills_drillService (tenantId : String) (w : LifecycleWorld)
    (earlier : List (DrillEnv × String)) :
    drills BreakGlassService.drillService tenantId w earlier = w := by
  induction earlier with
  | nil => rfl
  | cons d earlier ih =>
    rw [drills, run_cons, drillStep, runPilotDrill_eq]
    exact ih

/-- **No drill passes**, from whatever state and after however many drills. -/
theorem not_drillSound (w : LifecycleWorld) (tenantId : String)
    (earlier : List (DrillEnv × String)) (env : DrillEnv) (actor : String) :
    ¬DrillSound BreakGlassService.drillService env
      (drills BreakGlassService.drillService tenantId w earlier) tenantId actor := by
  rintro ⟨⟨report, hrun, hpassed, -⟩, -⟩
  rw [runPilotDrill_eq] at hrun
  obtain rfl := Except.ok.inj hrun
  exact absurd hpassed Bool.false_ne_true

/-- The first drill on an empty store. -/
theorem not_drillSound_empty :
    Unused sampleDrillEnv ({ db := {} } : LifecycleWorld).db.holds "tenant:drill" ∧
      (runPilotDrill sampleDrillEnv { db := {} } "tenant:drill" "drill@partner.example"
        BreakGlassService.drillService).2 = .ok
          { tenantId := "tenant:drill"
            steps := [⟨"break_glass.request", false, [("error",
              .str "'BreakGlassService' object has no attribute 'create_request'")]⟩]
            passed := false
            summary := "FAIL: 1 step(s) failed" } ∧
      ¬DrillSound BreakGlassService.drillService sampleDrillEnv { db := {} } "tenant:drill"
        "drill@partner.example" := by
  refine ⟨by rw [Unused]; decide, ?_, ?_⟩
  · rw [runPilotDrill_eq]
    rfl
  · rintro ⟨⟨report, hrun, hpassed, -⟩, -⟩
    rw [runPilotDrill_eq] at hrun
    obtain rfl := Except.ok.inj hrun
    exact absurd hpassed Bool.false_ne_true

end PilotDrill

end Orchestra
