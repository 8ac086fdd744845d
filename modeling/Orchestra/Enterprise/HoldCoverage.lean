import Orchestra.Enterprise.LegalHold

/-!
# What a legal hold covers

Two procedures decide whether a resource is held. `is_resource_held` joins the holds in force with
the resources they list; `_find_holding_hold` walks over the holds with their resources rolled up
into two parallel lists. The documented coverage is that of the second: a hold that lists nothing
covers everything of its tenant. The join has no row for such a hold, so the two agree exactly when
no tenant-wide hold is in force or some hold lists the resource anyway (`coverageExact_iff`).
-/

namespace Orchestra

open EventStore Transition

/-- A row of `list_legal_holds`, with its resources rolled up into two parallel lists. -/
structure HoldRow where
  hold : LegalHold
  resourceKind : List String
  resourceId : List String

/-- The order in which the resources of a hold are aggregated. -/
def rollUpOrder (r r' : LegalHoldResource) : Bool :=
  decide (r.resourceKind.value < r'.resourceKind.value ∨
    r.resourceKind = r'.resourceKind ∧ r.resourceId ≤ r'.resourceId)

/-- The resources of a hold, aggregated; a hold without any has the empty list. -/
def rollUp (t : HoldTables) (h : LegalHold) : List LegalHoldResource :=
  (t.resources.rows.filter fun r ↦ decide (r.holdId = h.holdId)).mergeSort rollUpOrder

/-- `list_legal_holds(tenant_id, active_only=True)`. -/
def listLegalHolds (t : HoldTables) (tenantId : String) : List HoldRow :=
  (listActiveHolds t tenantId).map fun h ↦
    { hold := h
      resourceKind := (rollUp t h).map fun r ↦ r.resourceKind.value
      resourceId := (rollUp t h).map LegalHoldResource.resourceId }

namespace LifecycleManager

/-- The loop of `_find_holding_hold`. -/
def walkHolds (kind : ResourceKind) (resourceId : String) : List HoldRow → Option (String × String)
  | [] => none
  | row :: rows =>
    if row.resourceKind = [] ∧ row.resourceId = [] then some (row.hold.holdId, row.hold.caseId)
    else if (row.resourceKind.zip row.resourceId).contains (kind.value, resourceId) then
      some (row.hold.holdId, row.hold.caseId)
    else walkHolds kind resourceId rows

end LifecycleManager

/-- An unreleased hold of the tenant lists the resource, or lists no resource at all. -/
def Covered (t : HoldTables) (tenantId : String) (kind : ResourceKind) (id : String) : Prop :=
  ∃ h ∈ t.holds.rows, h.tenantId = tenantId ∧ h.releasedAt = none ∧
    ((∃ r ∈ t.resources.rows, r.holdId = h.holdId ∧ r.resourceKind = kind ∧ r.resourceId = id) ∨
      ∀ r ∈ t.resources.rows, r.holdId ≠ h.holdId)

/-- The two procedures decide the coverage. -/
def CoverageExact (t : HoldTables) (tenantId : String) (kind : ResourceKind) (id : String) : Prop :=
  (isResourceHeld t tenantId kind id = true ↔ Covered t tenantId kind id) ∧
    (Covered t tenantId kind id ↔
      (LifecycleManager.walkHolds kind id (listLegalHolds t tenantId)).isSome = true)

/-- A tenant-wide hold of the tenant is in force. -/
def FrozenWhole (t : HoldTables) (tenantId : String) : Prop :=
  ∃ h ∈ t.holds.rows, h.tenantId = tenantId ∧ h.releasedAt = none ∧
    ∀ r ∈ t.resources.rows, r.holdId ≠ h.holdId

/-- A hold of the tenant that is in force lists the resource. -/
def Listed (t : HoldTables) (tenantId : String) (kind : ResourceKind) (id : String) : Prop :=
  ∃ h ∈ t.holds.rows, h.tenantId = tenantId ∧ h.releasedAt = none ∧
    ∃ r ∈ t.resources.rows, r.holdId = h.holdId ∧ r.resourceKind = kind ∧ r.resourceId = id

variable {t : HoldTables} {tenantId : String} {kind : ResourceKind} {id : String} {h : LegalHold}

/-! ## The predicates of the store -/

theorem activeFor_eq_true_iff :
    activeFor tenantId h = true ↔ h.tenantId = tenantId ∧ h.releasedAt = none := by
  rw [activeFor, Bool.and_eq_true, decide_eq_true_eq, Option.isNone_iff_eq_none]

theorem lists_eq_true_iff : lists t h kind id = true ↔
    ∃ r ∈ t.resources.rows, r.holdId = h.holdId ∧ r.resourceKind = kind ∧ r.resourceId = id := by
  simp only [lists, List.any_eq_true, decide_eq_true_eq]

theorem tenantWide_eq_true_iff :
    tenantWide t h = true ↔ ∀ r ∈ t.resources.rows, r.holdId ≠ h.holdId := by
  simp only [tenantWide, List.all_eq_true, decide_eq_true_eq]

/-- The join finds the listed resources and nothing else. -/
theorem isResourceHeld_eq_true_iff :
    isResourceHeld t tenantId kind id = true ↔ Listed t tenantId kind id := by
  simp only [isResourceHeld, List.any_eq_true, Bool.and_eq_true, activeFor_eq_true_iff,
    lists_eq_true_iff, Listed, and_assoc]

theorem covered_iff : Covered t tenantId kind id ↔
    Listed t tenantId kind id ∨ FrozenWhole t tenantId := by
  simp only [Covered, Listed, FrozenWhole, and_or_left, exists_or]

/-! ## What a new hold lists -/

section Create

variable {t' : HoldTables} {hold : LegalHold} {pairs : List (ResourceKind × String)}

theorem rows_of_insertHoldResource {r : LegalHoldResource}
    (h : insertHoldResource t r = .ok t') :
    t'.holds = t.holds ∧ t'.resources.rows = t.resources.rows ++ [r] := by
  rw [insertHoldResource] at h
  split_ifs at h
  split at h
  · cases h
  · next resources hins =>
    obtain rfl := Except.ok.inj h
    exact ⟨rfl, KeyedTable.rows_of_insert hins⟩

theorem rows_of_foldlM_insertHoldResource
    (h : pairs.foldlM (fun acc p ↦ insertHoldResource acc ⟨hold.holdId, p.1, p.2⟩) t = .ok t') :
    t'.holds = t.holds ∧
      t'.resources.rows = t.resources.rows ++ pairs.map fun p ↦ ⟨hold.holdId, p.1, p.2⟩ := by
  induction pairs generalizing t with
  | nil =>
    obtain rfl := Except.ok.inj h
    exact ⟨rfl, (List.append_nil _).symm⟩
  | cons p pairs ih =>
    rw [List.foldlM_cons, bind_eq_ok_iff] at h
    obtain ⟨t₁, hfirst, hrest⟩ := h
    obtain ⟨hholds, hrows⟩ := rows_of_insertHoldResource hfirst
    obtain ⟨hholds', hrows'⟩ := ih hrest
    refine ⟨hholds'.trans hholds, ?_⟩
    rw [hrows', hrows, List.append_assoc, List.map_cons, List.singleton_append]

/-- A new hold is not one that a listed resource belongs to. -/
theorem rows_of_insertHold (h : insertHold t hold = .ok t') :
    t'.holds.rows = t.holds.rows ++ [hold] ∧ t'.resources = t.resources ∧
      ∀ r ∈ t.resources.rows, r.holdId ≠ hold.holdId := by
  rw [insertHold] at h
  split_ifs at h
  split at h
  · cases h
  · next holds hins =>
    obtain rfl := Except.ok.inj h
    refine ⟨KeyedTable.rows_of_insert hins, rfl, fun r hr heq ↦ ?_⟩
    have hsome := t.references r hr
    rw [heq] at hsome
    rw [KeyedTable.insert_eq_none_iff.mpr hsome] at hins
    cases hins

/-- **A hold lists the pairs it was created with**, and is tenant-wide when there were none. -/
theorem lists_createLegalHold (h : createLegalHold t hold pairs = .ok t') :
    t'.holds.rows = t.holds.rows ++ [hold] ∧
      (lists t' hold kind id = true ↔ (kind, id) ∈ pairs) ∧
      (tenantWide t' hold = true ↔ pairs = []) := by
  obtain ⟨t₁, hins, hpairs⟩ := bind_eq_ok_iff.mp h
  obtain ⟨hholds, hrows⟩ := rows_of_foldlM_insertHoldResource hpairs
  obtain ⟨hnew, hresources, hfresh⟩ := rows_of_insertHold hins
  rw [hresources] at hrows
  have hmem (r : LegalHoldResource) : r ∈ t'.resources.rows ∧ r.holdId = hold.holdId ↔
      ∃ p ∈ pairs, r = ⟨hold.holdId, p.1, p.2⟩ := by
    rw [hrows, List.mem_append, List.mem_map]
    constructor
    · rintro ⟨hr | ⟨p, hp, rfl⟩, heq⟩
      · exact absurd heq (hfresh r hr)
      · exact ⟨p, hp, rfl⟩
    · rintro ⟨p, hp, rfl⟩
      exact ⟨.inr ⟨p, hp, rfl⟩, rfl⟩
  refine ⟨by rw [hholds, hnew], ?_, ?_⟩
  · rw [lists_eq_true_iff]
    constructor
    · rintro ⟨r, hr, hhold, rfl, rfl⟩
      obtain ⟨p, hp, rfl⟩ := (hmem r).mp ⟨hr, hhold⟩
      exact hp
    · intro hp
      obtain ⟨hr, hhold⟩ := (hmem ⟨hold.holdId, kind, id⟩).mpr ⟨_, hp, rfl⟩
      exact ⟨_, hr, hhold, rfl, rfl⟩
  · rw [tenantWide_eq_true_iff, List.eq_nil_iff_forall_not_mem]
    constructor
    · intro hwide p hp
      obtain ⟨hr, hhold⟩ := (hmem ⟨hold.holdId, p.1, p.2⟩).mpr ⟨p, hp, rfl⟩
      exact hwide _ hr hhold
    · intro hnone r hr hhold
      obtain ⟨p, hp, -⟩ := (hmem r).mp ⟨hr, hhold⟩
      exact hnone p hp

end Create

/-! ## The walk -/

theorem ResourceKind.value_injective : Function.Injective ResourceKind.value := by
  intro k k' h
  cases k <;> cases k' <;> first | rfl | exact absurd h (by decide)

theorem mem_rollUp {r : LegalHoldResource} :
    r ∈ rollUp t h ↔ r ∈ t.resources.rows ∧ r.holdId = h.holdId := by
  rw [rollUp, List.mem_mergeSort, List.mem_filter, decide_eq_true_eq]

theorem rollUp_eq_nil_iff : rollUp t h = [] ↔ tenantWide t h = true := by
  rw [List.eq_nil_iff_forall_not_mem, tenantWide_eq_true_iff]
  simp only [mem_rollUp, not_and]

theorem mem_zip_rollUp_iff :
    (kind.value, id) ∈ ((rollUp t h).map fun r ↦ r.resourceKind.value).zip
      ((rollUp t h).map LegalHoldResource.resourceId) ↔ lists t h kind id = true := by
  rw [List.zip_map', List.mem_map, lists_eq_true_iff]
  constructor
  · rintro ⟨r, hr, heq⟩
    obtain ⟨hkind, hid⟩ := Prod.mk.inj heq
    obtain ⟨hmem, hhold⟩ := mem_rollUp.mp hr
    exact ⟨r, hmem, hhold, ResourceKind.value_injective hkind, hid⟩
  · rintro ⟨r, hmem, hhold, rfl, rfl⟩
    exact ⟨r, mem_rollUp.mpr ⟨hmem, hhold⟩, rfl⟩

namespace LifecycleManager

/-- The walk returns the first hold that is tenant-wide or lists the resource. -/
theorem walkHolds_eq (holds : List LegalHold) :
    walkHolds kind id (holds.map fun h ↦
        { hold := h
          resourceKind := (rollUp t h).map fun r ↦ r.resourceKind.value
          resourceId := (rollUp t h).map LegalHoldResource.resourceId }) =
      (holds.find? fun h ↦ tenantWide t h || lists t h kind id).map
        fun h ↦ (h.holdId, h.caseId) := by
  induction holds with
  | nil => rfl
  | cons h holds ih =>
    rw [List.map_cons, walkHolds, ih, List.find?_cons]
    simp only [List.map_eq_nil_iff, rollUp_eq_nil_iff, and_self, List.contains_iff_mem,
      mem_zip_rollUp_iff]
    cases tenantWide t h <;> cases lists t h kind id <;> rfl

/-- The walk is what the deletion gate calls to name the hold it refuses with. -/
theorem walkHolds_listLegalHolds :
    walkHolds kind id (listLegalHolds t tenantId) = findHoldingHold t tenantId kind id :=
  walkHolds_eq _

theorem walkHolds_isSome_iff :
    (walkHolds kind id (listLegalHolds t tenantId)).isSome = true ↔ Covered t tenantId kind id := by
  rw [walkHolds_listLegalHolds, findHoldingHold, Option.isSome_map, List.find?_isSome]
  simp only [listActiveHolds, List.mem_insertionSort, List.mem_filter, activeFor_eq_true_iff,
    Bool.or_eq_true, tenantWide_eq_true_iff, lists_eq_true_iff, Covered, and_assoc]
  exact exists_congr fun h ↦ and_congr_right fun _ ↦ and_congr_right fun _ ↦
    and_congr_right fun _ ↦ or_comm

/-- **What decides the coverage exactly.** In every state that calls of the manager reach, the two
procedures agree with the documented coverage exactly when no tenant-wide hold of the tenant is in
force or a hold in force lists the resource. -/
theorem coverageExact_iff (P : Primitives) (w : LifecycleWorld)
    (calls : List (LifecycleEnv × Call)) (tenantId : String) (kind : ResourceKind) (id : String) :
    CoverageExact (run (step P) w calls).db.holds tenantId kind id ↔
      (FrozenWhole (run (step P) w calls).db.holds tenantId →
        Listed (run (step P) w calls).db.holds tenantId kind id) := by
  rw [CoverageExact, isResourceHeld_eq_true_iff, walkHolds_isSome_iff, covered_iff]
  refine ⟨fun h hfrozen ↦ h.1.mpr (.inr hfrozen), fun h ↦ ⟨?_, Iff.rfl⟩⟩
  exact ⟨Or.inl, fun hcovered ↦ hcovered.elim (fun hl ↦ hl) h⟩

/-- A tenant-wide hold: the walk returns it, the join does not see it. -/
theorem not_coverageExact_tenantWide :
    let w := run (step samplePrimitives) sampleWorld
      [(sampleEnv "hold-1" "event-1", .createHold (sampleHold [] []))]
    ¬CoverageExact w.db.holds "tenant:t" .artifact "artifact-1" ∧
      isResourceHeld w.db.holds "tenant:t" .artifact "artifact-1" = false ∧
      walkHolds .artifact "artifact-1" (listLegalHolds w.db.holds "tenant:t") =
        some ("hold-1", "CASE-1") := by
  intro w
  have hheld : isResourceHeld w.db.holds "tenant:t" .artifact "artifact-1" = false := by decide
  have hwalk : walkHolds .artifact "artifact-1" (listLegalHolds w.db.holds "tenant:t") =
      some ("hold-1", "CASE-1") := by
    rw [walkHolds_listLegalHolds]
    decide
  refine ⟨fun h ↦ ?_, hheld, hwalk⟩
  have htrue := h.1.mpr (h.2.mpr (by rw [hwalk]; rfl))
  exact absurd htrue (by rw [hheld]; exact Bool.false_ne_true)

end LifecycleManager

end Orchestra
