import Orchestra.Core.Exceptions
import Orchestra.Enterprise.BreakGlass

/-!
# The effect ceiling

A break-glass request may not disable the egress enforcement point, lower the label of a resource,
or send restricted data to the public view. The check reads untyped dictionaries, and each of its
tests takes a value it does not know for a harmless one: an enforcement point disabled by `1`
instead of `True`, a label or a classification that is not one, a resource without a
classification.

The main theorem says which requests are nevertheless within the ceiling when they are accepted.
-/

namespace Orchestra

namespace BreakGlass

variable (effect resourceScope : Json)

/-- The classification the request states for its resource, `None` when it states none. -/
def currentClassification : Json :=
  (resourceScope.get? "current_classification").getD .null

/-- The rank of a value that is a classification. -/
def knownRank : Json → Option ℕ
  | .str s => classificationRank s
  | _ => none

/-- What the ceiling promises of an effect on a resource. -/
structure WithinCeiling : Prop where
  keepsPep : ∀ v, effect.get? "disable_egress_pep" = some v → v.truthy = false
  keepsLabel : ∀ v, effect.get? "label_override" = some v → v ≠ .null →
    ∃ label current, knownRank v = some label ∧
      knownRank (currentClassification resourceScope) = some current ∧ current ≤ label
  keepsRestricted : effect.get? "egress_view_name" = some (.str "egress.public") →
    ∃ current, knownRank (currentClassification resourceScope) = some current ∧ current < 3

/-- The effects the check refuses. -/
inductive Refused : Prop
  | notDict : (∀ fields, effect ≠ .obj fields) → Refused
  | pep : effect.get? "disable_egress_pep" = some (.bool true) → Refused
  | label {v : Json} {label current : ℕ} : effect.get? "label_override" = some v →
      knownRank v = some label →
      knownRank (currentClassification resourceScope) = some current → label < current → Refused
  | unhashable {label : String} : effect.get? "label_override" = some (.str label) →
      unhashable (currentClassification resourceScope) = true → Refused
  | route : effect.get? "egress_view_name" = some (.str "egress.public") →
      currentClassification resourceScope = .str "restricted" → Refused

/-- The values the check takes for harmless without knowing them. -/
inductive NearMiss : Prop
  | pep {v : Json} : effect.get? "disable_egress_pep" = some v → v.truthy = true →
      v ≠ .bool true → NearMiss
  | label {v : Json} : effect.get? "label_override" = some v → v ≠ .null → knownRank v = none →
      NearMiss
  | labelOfUnknown {v : Json} : effect.get? "label_override" = some v → v ≠ .null →
      knownRank (currentClassification resourceScope) = none → NearMiss
  | routeOfUnknown : effect.get? "egress_view_name" = some (.str "egress.public") →
      knownRank (currentClassification resourceScope) = none → NearMiss

/-! ## What the check refuses -/

variable {effect resourceScope}

theorem rank_lt_three {s : String} {rank : ℕ} (h : classificationRank s = some rank)
    (hne : s ≠ "restricted") : rank < 3 := by
  rw [classificationRank.eq_def] at h
  split at h
  · obtain rfl := Option.some.inj h
    decide
  · obtain rfl := Option.some.inj h
    decide
  · obtain rfl := Option.some.inj h
    decide
  · exact absurd rfl hne
  · cases h

theorem knownRank_lt_three {v : Json} {rank : ℕ} (h : knownRank v = some rank)
    (hne : v ≠ .str "restricted") : rank < 3 := by
  cases v with
  | str s =>
    refine rank_lt_three h ?_
    rintro rfl
    exact hne rfl
  | _ => cases h

/-- The third test of the check: no reason to reject the view. -/
theorem route_eq_none_iff :
    (if effect.get? "egress_view_name" = some (.str "egress.public") ∧
        (resourceScope.get? "current_classification").getD .null = .str "restricted" then
      some "egress.public is forbidden for RESTRICTED resources" else none) = none ↔
      (effect.get? "egress_view_name" = some (.str "egress.public") →
        currentClassification resourceScope ≠ .str "restricted") := by
  rw [ite_eq_right_iff]
  constructor
  · intro h hview hcurrent
    cases h ⟨hview, hcurrent⟩
  · rintro h ⟨hview, hcurrent⟩
    exact absurd hcurrent (h hview)

/-- What is not refused passes the three tests. -/
theorem checkEffectCeiling_of_not_refused (h : ¬Refused effect resourceScope) :
    checkEffectCeiling effect resourceScope = .ok none := by
  have hroute := route_eq_none_iff.mpr fun hview hcurrent ↦ h (.route hview hcurrent)
  rw [checkEffectCeiling.eq_def]
  split
  · rw [if_neg fun hpep ↦ h (.pep hpep)]
    dsimp only
    rw [hroute]
    split
    · next label hlabel =>
      have hhashable : ¬unhashable ((resourceScope.get? "current_classification").getD .null) =
          true := fun hun ↦ h (.unhashable hlabel hun)
      rw [if_neg hhashable]
      split
      · next current hcurrent =>
        split
        · next c l hc hl =>
          have hknown : knownRank (currentClassification resourceScope) = some c := by
            rw [currentClassification, hcurrent]
            exact hc
          rw [if_neg fun hlt ↦ h (.label hlabel hl hknown hlt)]
        · rfl
      · rfl
    · rfl
  · next hdict => exact absurd (.notDict hdict) h

/-- What passes them was not refused. -/
theorem not_refused_of_checkEffectCeiling
    (hok : checkEffectCeiling effect resourceScope = .ok none) : ¬Refused effect resourceScope := by
  rw [checkEffectCeiling.eq_def] at hok
  split at hok
  · split at hok
    · cases hok
    · next hpep =>
      dsimp only at hok
      rintro (hdict | hpep' | ⟨hlabel, hl, hc, hlt⟩ | ⟨hlabel, hun⟩ | ⟨hview, hcurrent⟩)
      · exact hdict _ rfl
      · exact hpep hpep'
      · next v l c =>
        cases v with
        | str label =>
          cases hcurrent : currentClassification resourceScope with
          | str current =>
            rw [hcurrent] at hc
            have hraw : (resourceScope.get? "current_classification").getD .null =
              .str current := hcurrent
            have hc' : classificationRank current = some c := hc
            have hl' : classificationRank label = some l := hl
            simp [hlabel, hraw, hc', hl', hlt, unhashable] at hok
          | _ =>
            rw [hcurrent] at hc
            cases hc
        | _ => cases hl
      · have hraw : unhashable ((resourceScope.get? "current_classification").getD .null) =
          true := hun
        simp [hlabel, hraw] at hok
      · have hraw : (resourceScope.get? "current_classification").getD .null =
          .str "restricted" := hcurrent
        simp only [hview, hraw, and_self, if_true] at hok
        split at hok
        · split at hok
          · cases hok
          · split at hok
            · split at hok <;> cases hok
            · cases hok
        · cases hok
  · cases hok

/-- The check accepts an effect if and only if it is not one of those it refuses. -/
theorem checkEffectCeiling_eq_none_iff :
    checkEffectCeiling effect resourceScope = .ok none ↔ ¬Refused effect resourceScope :=
  ⟨not_refused_of_checkEffectCeiling, checkEffectCeiling_of_not_refused⟩

/-- An effect that is not refused is within the ceiling if and only if it has none of the values
the check does not know. -/
theorem withinCeiling_iff (h : ¬Refused effect resourceScope) :
    WithinCeiling effect resourceScope ↔ ¬NearMiss effect resourceScope := by
  constructor
  · rintro hwithin (⟨hpep, htruthy, -⟩ | ⟨hlabel, hne, hunknown⟩ | ⟨hlabel, hne, hunknown⟩ |
      ⟨hview, hunknown⟩)
    · rw [hwithin.keepsPep _ hpep] at htruthy
      cases htruthy
    · obtain ⟨label, current, hl, -, -⟩ := hwithin.keepsLabel _ hlabel hne
      rw [hunknown] at hl
      cases hl
    · obtain ⟨label, current, -, hc, -⟩ := hwithin.keepsLabel _ hlabel hne
      rw [hunknown] at hc
      cases hc
    · obtain ⟨current, hc, -⟩ := hwithin.keepsRestricted hview
      rw [hunknown] at hc
      cases hc
  · intro hmiss
    constructor
    case keepsPep =>
      intro v hpep
      by_contra htruthy
      refine hmiss (.pep hpep (by simpa using htruthy) ?_)
      rintro rfl
      exact h (.pep hpep)
    case keepsLabel =>
      intro v hlabel hne
      cases hl : knownRank v with
      | none => exact absurd (.label hlabel hne hl) hmiss
      | some label =>
        cases hc : knownRank (currentClassification resourceScope) with
        | none => exact absurd (.labelOfUnknown hlabel hne hc) hmiss
        | some current =>
          exact ⟨label, current, rfl, rfl, not_lt.mp fun hlt ↦ h (.label hlabel hl hc hlt)⟩
    case keepsRestricted =>
      intro hview
      cases hc : knownRank (currentClassification resourceScope) with
      | none => exact absurd (.routeOfUnknown hview hc) hmiss
      | some current =>
        exact ⟨current, rfl, knownRank_lt_three hc fun hcurrent ↦ h (.route hview hcurrent)⟩

end BreakGlass

/-! ## The requests of the service -/

namespace BreakGlassService

open BreakGlass

/-- The checks `request` makes besides the ceiling: the required fields, and that its identifier is
new. -/
structure Admissible (env : BreakGlassEnv) (db : Database) (a : BreakGlassArgs) : Prop where
  tenantId : a.tenantId ≠ ""
  purpose : a.purpose ≠ ""
  requestedBy : a.requestedBy ≠ ""
  fresh : db.breakGlass.find? env.requestId = none

theorem requestError_eq_none_iff {a : BreakGlassArgs} :
    requestError a = none ↔ (a.tenantId ≠ "" ∧ a.purpose ≠ "" ∧ a.requestedBy ≠ "") ∧
      ¬Refused a.effect a.resourceScope := by
  rw [← checkEffectCeiling_eq_none_iff, requestError]
  split_ifs with htenant hpurpose hrequestedBy
  · simp [htenant]
  · simp [hpurpose]
  · simp [hrequestedBy]
  · simp only [ne_eq, htenant, hpurpose, hrequestedBy, not_false_eq_true, true_and]
    split
    · next e he => simp [he]
    · next reason hreason => simp [hreason]
    · next hnone => simp [hnone]

/-- When a request is accepted. -/
theorem request_accepted_iff {env : BreakGlassEnv} {db : Database} {a : BreakGlassArgs} :
    (∃ row, (request env db a).2 = .ok row) ↔
      Admissible env db a ∧ ¬Refused a.effect a.resourceScope := by
  rw [request]
  cases hok : requestError a with
  | some e =>
    refine iff_of_false (by rintro ⟨row, ⟨⟩⟩) ?_
    rintro ⟨hadm, hrefused⟩
    have hnone : requestError a = none := requestError_eq_none_iff.mpr
      ⟨⟨hadm.tenantId, hadm.purpose, hadm.requestedBy⟩, hrefused⟩
    rw [hok] at hnone
    cases hnone
  | none =>
    obtain ⟨⟨htenant, hpurpose, hrequestedBy⟩, hrefused⟩ := requestError_eq_none_iff.mp hok
    simp only [persistRequest, anchorRequest_breakGlass]
    cases hins : db.breakGlass.insert (requestRow env a (anchorRequest env db a).2) with
    | none =>
      refine iff_of_false (by rintro ⟨row, ⟨⟩⟩) ?_
      rintro ⟨hadm, -⟩
      rw [KeyedTable.insert_eq_none_iff] at hins
      have hfresh : db.breakGlass.find? (requestRow env a (anchorRequest env db a).2).requestId =
        none := hadm.fresh
      rw [hfresh] at hins
      cases hins
    | some breakGlass =>
      refine iff_of_true ⟨_, rfl⟩ ⟨⟨htenant, hpurpose, hrequestedBy, ?_⟩, hrefused⟩
      exact KeyedTable.find?_key_of_insert hins

/-- Alice asks to lower the label of a resource whose classification she leaves out. -/
def lowerUnstated : BreakGlassArgs where
  tenantId := "tenant:a"
  purpose := "incident"
  effect := .obj [("label_override", .str "public")]
  resourceScope := .obj [("resource_kind", .str "artifact"), ("resource_id", .str "art-1")]
  requestedBy := "alice"

/-- Alice asks to disable the enforcement point by a number. -/
def disableByNumber : BreakGlassArgs :=
  { lowerUnstated with effect := .obj [("disable_egress_pep", .int 1)] }

end BreakGlassService

end Orchestra
