import Orchestra.Core.JsonOrder
import Orchestra.Xfr.EgressPep

/-!
# What a projection depends on

The projector drops the fields that are not allowed, redacts the others one by one and sorts them.
So two payloads with the same allowed fields have the same projection, whatever else they contain
and in whatever order they list it (`projection_of_allowed`).
-/

namespace Orchestra

namespace FieldProjector

variable (P : Primitives) (m : FieldManifest)

/-- The payloads agree on the allowed fields: the same ones are there, with related values. -/
def AgreeOn (R : Json → Json → Prop) (allowed : List String) (p q : List (String × Json)) : Prop :=
  ∀ k ∈ allowed, Option.Rel R ((Json.obj p).get? k) ((Json.obj q).get? k)

/-- The projector raises for both payloads, or returns the same for both. -/
inductive SameOutcome : Except Raised ProjectionResult → Except Raised ProjectionResult → Prop
  | raised (e : Raised) : SameOutcome (.error e) (.error e)
  | returned {r r' : ProjectionResult} : (Json.obj r.projected).Same (.obj r'.projected) →
    r.digest = r'.digest → r.projectedBytes = r'.projectedBytes → SameOutcome (.ok r) (.ok r')

/-- What the result of a projection is, whatever the values are. -/
structure Projects (payload : List (String × Json)) (r : ProjectionResult) : Prop where
  allowed : ∀ k ∈ r.projected.map Prod.fst, k ∈ m.allowedFields
  sorted : r.droppedFields.Pairwise (· ≤ ·)
  dropped : r.droppedFields.Perm
    ((payload.map Prod.fst).filter fun k ↦ decide (k ∉ m.allowedFields))
  withinBudget : ∀ budget, m.byteBudget = some budget → (r.projectedBytes : ℤ) ≤ budget

/-! ## Redactions -/

section

variable {P} {m} {R : Json → Json → Prop} {v w : Json} {p q payload : List (String × Json)}

/-- A redaction looks at the value, not at the order of its keys. -/
theorem applyRedactions_same (h : v.Same w) (key : String) (rules : List (List (String × Json))) :
    (applyRedactions P key v rules).Same (applyRedactions P key w rules) := by
  induction rules with
  | nil => exact h
  | cons rule rules ih =>
    unfold applyRedactions
    rw [h.digestJson_eq P]
    split_ifs with hfield
    · exact ih
    cases (Json.obj rule).get? "op" with
    | none => exact ih
    | some op =>
      cases op with
      | str op =>
        dsimp only
        split_ifs with hdrop hhash htokenize hpartial
        · exact .refl _
        · exact .refl _
        · exact .refl _
        · cases pyInt (String.ofList (op.toList.drop 8)) with
          | none => exact ih
          | some n =>
            by_cases hstr : ∃ s, v = .str s
            · obtain ⟨s, rfl⟩ := hstr
              obtain rfl := (h.eq_str_iff s).mp rfl
              exact .refl _
            · have hstr' : ¬∃ s, w = .str s := by
                rintro ⟨s, hs⟩
                exact hstr ⟨s, (h.eq_str_iff s).mpr hs⟩
              split
              · next s hs => exact absurd ⟨_, rfl⟩ hstr
              · split
                · next s hs => exact absurd ⟨_, rfl⟩ hstr'
                · exact ih
        · exact ih
      | _ => exact ih

/-! ## Kept fields -/

/-- The allowed fields, redacted. -/
def keptFields (P : Primitives) (m : FieldManifest) (payload : List (String × Json)) :
    List (String × Json) :=
  (payload.filter fun f ↦ decide (f.1 ∈ m.allowedFields)).map fun f ↦
    (f.1, applyRedactions P f.1 f.2 m.redactionRules)

theorem projectFields_eq_sort :
    projectFields P m payload = Dictionary.sort (keptFields P m payload) := rfl

theorem get_keptFields (payload : List (String × Json)) (k : String) :
    Dictionary.get (keptFields P m payload) k =
      if k ∈ m.allowedFields then
        (Dictionary.get payload k).map fun v ↦ applyRedactions P k v m.redactionRules
      else none := by
  rw [keptFields, Dictionary.get_map fun k v ↦ applyRedactions P k v m.redactionRules,
    Dictionary.get_filter fun k ↦ decide (k ∈ m.allowedFields)]
  by_cases hk : k ∈ m.allowedFields
  · simp [hk]
  · simp [hk]

theorem map_fst_keptFields (payload : List (String × Json)) :
    (keptFields P m payload).map Prod.fst =
      (payload.map Prod.fst).filter fun k ↦ decide (k ∈ m.allowedFields) := by
  rw [keptFields, List.map_map, List.filter_map]
  rfl

theorem nodup_keptFields (h : (payload.map Prod.fst).Nodup) :
    ((keptFields P m payload).map Prod.fst).Nodup := by
  rw [map_fst_keptFields]
  exact h.filter _

/-- **Projections line up** when the payloads agree on the allowed fields. -/
theorem forall₂_projectFields (hR : ∀ key v w, R v w →
      R (applyRedactions P key v m.redactionRules) (applyRedactions P key w m.redactionRules))
    (hp : (p.map Prod.fst).Nodup) (hq : (q.map Prod.fst).Nodup)
    (h : AgreeOn R m.allowedFields p q) :
    List.Forall₂ (fun f g ↦ f.1 = g.1 ∧ R f.2 g.2) (projectFields P m p) (projectFields P m q) := by
  rw [projectFields_eq_sort, projectFields_eq_sort]
  refine Dictionary.forall₂_sort (nodup_keptFields hp) (nodup_keptFields hq) fun k ↦ ?_
  rw [get_keptFields, get_keptFields]
  split_ifs with hk
  · exact Dictionary.rel_map (h k hk) (hR k)
  · exact .none

theorem same_projectFields (hp : (p.map Prod.fst).Nodup) (hq : (q.map Prod.fst).Nodup)
    (h : AgreeOn Json.Same m.allowedFields p q) :
    (Json.obj (projectFields P m p)).Same (.obj (projectFields P m q)) :=
  Json.Same.obj_of_forall₂
    (forall₂_projectFields (fun key _ _ hvw ↦ applyRedactions_same hvw key _) hp hq h)

/-! ## Equal values -/

theorem projectFields_eq (hp : (p.map Prod.fst).Nodup) (hq : (q.map Prod.fst).Nodup)
    (h : AgreeOn Eq m.allowedFields p q) : projectFields P m p = projectFields P m q := by
  have hforall := forall₂_projectFields (P := P) (R := Eq) (fun _ _ _ hvw ↦ hvw ▸ rfl) hp hq h
  rw [← List.forall₂_eq_eq_eq]
  exact hforall.imp fun f g hfg ↦ Prod.ext hfg.1 hfg.2

/-- With the same keys, the same fields are dropped as well. -/
theorem project_eq (hp : (p.map Prod.fst).Nodup) (hq : (q.map Prod.fst).Nodup)
    (hkeys : ∀ k, k ∈ p.map Prod.fst ↔ k ∈ q.map Prod.fst) (h : AgreeOn Eq m.allowedFields p q) :
    project P m p = project P m q := by
  have hperm : (p.map Prod.fst).Perm (q.map Prod.fst) :=
    (List.perm_ext_iff_of_nodup hp hq).mpr hkeys
  have hdropped : ((p.filter fun f ↦ decide (f.1 ∉ m.allowedFields)).map Prod.fst).insertionSort
      (· ≤ ·) = ((q.filter fun f ↦ decide (f.1 ∉ m.allowedFields)).map Prod.fst).insertionSort
      (· ≤ ·) := by
    refine Dictionary.insertionSort_eq_of_perm ?_
    have hfilter := hperm.filter fun k ↦ decide (k ∉ m.allowedFields)
    rw [List.filter_map, List.filter_map] at hfilter
    exact hfilter
  rw [project, project, projectFields_eq hp hq h, hdropped]

/-! ## The two laws of the projector -/

/-- Whatever the projector returns projects the payload. -/
theorem projects_of_project {r : ProjectionResult} (h : project P m payload = .ok r) :
    Projects m payload r := by
  have hdropped : ((payload.filter fun f ↦ decide (f.1 ∉ m.allowedFields)).map Prod.fst).Perm
      ((payload.map Prod.fst).filter fun k ↦ decide (k ∉ m.allowedFields)) := by
    rw [List.filter_map]
    rfl
  have hallowed : ∀ k ∈ (projectFields P m payload).map Prod.fst, k ∈ m.allowedFields := by
    intro k hk
    obtain ⟨⟨k', v⟩, hmem, rfl⟩ := List.mem_map.mp hk
    exact mem_allowedFields hmem
  rw [project] at h
  split at h
  · next budget hbudget =>
    split_ifs at h with hover
    obtain rfl := Except.ok.inj h
    refine ⟨hallowed, List.pairwise_insertionSort _ _, (List.perm_insertionSort _ _).trans hdropped,
      fun budget' hbudget' ↦ ?_⟩
    obtain rfl := Option.some.inj (hbudget.symm.trans hbudget')
    exact not_lt.mp hover
  · next hbudget =>
    obtain rfl := Except.ok.inj h
    refine ⟨hallowed, List.pairwise_insertionSort _ _, (List.perm_insertionSort _ _).trans hdropped,
      fun budget hbudget' ↦ ?_⟩
    rw [hbudget] at hbudget'
    cases hbudget'

theorem sameOutcome_of_agree (hp : (p.map Prod.fst).Nodup) (hq : (q.map Prod.fst).Nodup)
    (h : AgreeOn Json.Same m.allowedFields p q) :
    SameOutcome (project P m p) (project P m q) := by
  have hsame := same_projectFields (P := P) hp hq h
  rw [project, project, hsame.canonicalJson_eq, hsame.digestJson_eq P]
  cases m.byteBudget with
  | none => exact .returned hsame rfl rfl
  | some budget =>
    dsimp only
    split_ifs with hover
    · exact .raised _
    · exact .returned hsame rfl rfl

end

/-- **Projection depends only on the allowed fields**, and what it returns is within the
manifest. -/
theorem projection_of_allowed (P : Primitives) (m : FieldManifest) (p q : List (String × Json))
    (hp : (p.map Prod.fst).Nodup) (hq : (q.map Prod.fst).Nodup)
    (h : AgreeOn Json.Same m.allowedFields p q) :
    SameOutcome (project P m p) (project P m q) ∧
      (∀ r, project P m p = .ok r → Projects m p r) ∧
        ∀ r, project P m q = .ok r → Projects m q r :=
  ⟨sameOutcome_of_agree hp hq h, fun _ ↦ projects_of_project, fun _ ↦ projects_of_project⟩

/-- A note may leave the tenant, hashed. -/
def noteManifest : FieldManifest where
  manifestId := "fldman:1"
  name := "notes"
  sourceView := "view:notes"
  allowedFields := ["note"]
  redactionRules := [[("field", .str "note"), ("op", .str "hash")]]
  byteBudget := some 100

/-- Two payloads with one note, in two orders of keys. -/
theorem projection_of_note :
    SameOutcome
      (project ⟨fun _ ↦ List.replicate 32 8, fun _ _ ↦ List.replicate 32 8, fun _ _ ↦ by decide⟩
        noteManifest [("ssn", .str "1"), ("note", .obj [("a", .int 1), ("b", .int 2)])])
      (project ⟨fun _ ↦ List.replicate 32 8, fun _ _ ↦ List.replicate 32 8, fun _ _ ↦ by decide⟩
        noteManifest [("note", .obj [("b", .int 2), ("a", .int 1)]), ("ssn", .str "2")]) := by
  have hsame : (Json.obj [("a", .int 1), ("b", .int 2)]).Same
      (.obj [("b", .int 2), ("a", .int 1)]) :=
    .reorder (by decide) (List.Perm.swap _ _ _)
  refine (projection_of_allowed _ _ _ _ (by decide) (by decide) fun k hk ↦ ?_).1
  obtain rfl := List.mem_singleton.mp hk
  exact .some hsame

end FieldProjector

/-- The enforcement point looks at the allowed fields of the manifest it finds. -/
theorem EgressPEP.project_eq (P : Primitives) (pep : EgressPEP) {capabilityId viewName : String}
    {p q : List (String × Json)} (hp : (p.map Prod.fst).Nodup) (hq : (q.map Prod.fst).Nodup)
    (hkeys : ∀ k, k ∈ p.map Prod.fst ↔ k ∈ q.map Prod.fst)
    (h : ∀ m, pep.lookup capabilityId viewName = .ok (some m) →
      FieldProjector.AgreeOn Eq m.allowedFields p q) :
    pep.project P capabilityId viewName p = pep.project P capabilityId viewName q := by
  rw [EgressPEP.project, EgressPEP.project]
  cases hlookup : pep.lookup capabilityId viewName with
  | error e => rfl
  | ok found =>
    cases found with
    | none => rfl
    | some m =>
      have hproject := FieldProjector.project_eq (P := P) hp hq hkeys (h m hlookup)
      simp only [bind, Except.bind, hproject]

end Orchestra
