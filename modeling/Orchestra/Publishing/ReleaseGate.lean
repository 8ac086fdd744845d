import Orchestra.Compiler.SecurityLabels
import Orchestra.Core.Exceptions
import Orchestra.Core.Text
import Orchestra.Publishing.Card

/-!
# The release gate

A result leaves the tenant with a manifest, which lists citations: the text of a claim, the sources
it rests on and the audience it is for. The gate looks at the shape and the keys of the result,
counts the citations, and looks for restricted sources and foreign audiences.

`Clears` says when a result is released (`release_eq_ok_iff`). Two things do not follow from it. The
gate does not compare the label of a source with the audience of its citation, except for restricted
ones (`release_dominated_iff`); and it counts the citations, but does not look for the claim that a
citation is about (`release_covered_iff`).
-/

namespace Orchestra

/-! ## Manifests -/

/-- The audiences of a citation. -/
inductive Audience where
  | public_ | partner | internal | restricted
  deriving DecidableEq

def Audience.value : Audience → String
  | .public_ => "public"
  | .partner => "partner"
  | .internal => "internal"
  | .restricted => "restricted"

/-- The most sensitive data that the audience may see. -/
def Audience.level : Audience → DataClassification
  | .public_ => .public_
  | .partner => .partner
  | .internal => .internal
  | .restricted => .restricted

/-- `CitationSourceRef`. -/
structure CitationSourceRef where
  ref : String
  label : Option SecurityLabel := none

structure Citation where
  citationId : String
  claim : String
  sources : List CitationSourceRef
  audience : Audience := .internal

structure CitationManifest where
  citations : List Citation

/-- `ReleaseGate`. -/
structure ReleaseGate where
  card : AgentCard
  maxUnsourced : ℤ := 0

namespace ReleaseGate

/-! ## The checks -/

/-- `_FORBIDDEN_KEYS`. -/
def forbiddenKeys : List String :=
  ["error", "errors", "trace", "traces", "stacktrace", "stack", "internal_id", "raw_payload"]

/-- `k.lower() in _FORBIDDEN_KEYS`. The Kelvin sign is the one letter outside ASCII whose lower case
is in ASCII. -/
def forbidden (k : String) : Bool :=
  forbiddenKeys.contains
    (String.ofList (k.toList.map fun c ↦ if c.toNat = 0x212A then 'k' else c.toLower))

def releaseDenied (text : String) : Raised := ⟨"ReleaseDenied", text⟩

/-- A check and its `_deny`. -/
def denyIf (bad : Prop) [Decidable bad] (text : String) : Except Raised Unit :=
  if bad then .error (releaseDenied text) else .ok ()

/-- The label is a restricted one. -/
def restricted (src : CitationSourceRef) : Bool :=
  match src.label with
  | none => false
  | some label => label.classification.value == "restricted"

def unsourced (manifest : CitationManifest) : ℕ :=
  manifest.citations.countP fun c ↦ c.sources.isEmpty

variable (gate : ReleaseGate)

def checkSources (c : Citation) : Except Raised Unit :=
  c.sources.forM fun src ↦ denyIf (restricted src)
    ("citation " ++ c.citationId ++ " carries restricted source " ++ pyRepr src.ref)

def checkAudience (c : Citation) : Except Raised Unit :=
  denyIf (c.audience.value ∉ gate.card.audiences)
    ("citation " ++ c.citationId ++ " audience " ++ pyRepr c.audience.value ++
      " not in card audiences " ++ pyReprList gate.card.audiences)

/-- `release`. -/
def release (result : Json) (manifest : CitationManifest) : Except Raised Json :=
  match result with
  | .obj fields =>
    match result.get? "claims" with
    | some (.arr claims) => do
      fields.forM fun f ↦ denyIf (forbidden f.1) ("forbidden key in release: " ++ pyRepr f.1)
      denyIf (manifest.citations.length ≠ claims.length)
        ("citation count " ++ toString manifest.citations.length ++ " != claim count " ++
          toString claims.length)
      denyIf (gate.maxUnsourced < unsourced manifest)
        (toString (unsourced manifest) ++ " unsourced claims > budget " ++
          toString gate.maxUnsourced)
      manifest.citations.forM checkSources
      manifest.citations.forM gate.checkAudience
      return result
    | _ => .error (releaseDenied "result.claims must be a list (structured release only)")
  | _ => .error (releaseDenied "result must be a dict, not free text")

/-! ## What the checks let through -/

/-- The result is an object with this list of claims, and without a forbidden key. -/
def Structured (result : Json) (claims : List Json) : Prop :=
  ∃ fields, result = .obj fields ∧ result.get? "claims" = some (.arr claims) ∧
    ∀ f ∈ fields, forbidden f.1 = false

/-- The result passes the checks that the gate makes. -/
structure Clears (result : Json) (manifest : CitationManifest) : Prop where
  structured : ∃ claims, Structured result claims ∧ manifest.citations.length = claims.length
  sourced : unsourced manifest ≤ gate.maxUnsourced
  unrestricted : ∀ c ∈ manifest.citations, ∀ src ∈ c.sources, ∀ label, src.label = some label →
    label.classification ≠ .restricted
  audiences : ∀ c ∈ manifest.citations, c.audience.value ∈ gate.card.audiences

/-- No source of a citation is more sensitive than its audience, and none is restricted. -/
def Dominated (manifest : CitationManifest) : Prop :=
  ∀ c ∈ manifest.citations, ∀ src ∈ c.sources, ∀ label, src.label = some label →
    label.classification ≤ c.audience.level ∧ label.classification ≠ .restricted

/-- A source of a citation is more sensitive than its audience, and still not restricted. -/
def Outranks : DataClassification → Audience → Prop
  | .partner, .public_ | .internal, .public_ | .internal, .partner => True
  | _, _ => False

/-- The claims of the result are these texts. -/
def HasClaims (result : Json) (claims : List String) : Prop :=
  result.get? "claims" = some (.arr (claims.map .str))

/-- Every claim of the result is the text of a citation with a source. -/
def Covered (result : Json) (manifest : CitationManifest) : Prop :=
  ∀ claims, HasClaims result claims → ∀ claim ∈ claims, ∃ c ∈ manifest.citations,
    c.claim = claim ∧ c.sources ≠ []

/-- Every claim of the result is the text of a citation. -/
def Cited (result : Json) (manifest : CitationManifest) : Prop :=
  ∀ claims, HasClaims result claims → ∀ claim ∈ claims, ∃ c ∈ manifest.citations, c.claim = claim

section

variable {gate} {result released : Json} {manifest : CitationManifest} {claims : List Json}

theorem denyIf_eq_ok_iff {bad : Prop} [Decidable bad] {text : String} :
    denyIf bad text = .ok () ↔ ¬bad := by
  rw [denyIf]
  split_ifs with h
  · exact iff_of_false (by rintro ⟨⟩) (not_not.mpr h)
  · exact iff_of_true rfl h

theorem restricted_iff {src : CitationSourceRef} : restricted src = true ↔
    ∃ label, src.label = some label ∧ label.classification = .restricted := by
  rw [restricted]
  cases src.label with
  | none => simp
  | some label => cases hc : label.classification <;> simp [DataClassification.value, hc]

theorem checkSources_eq_ok_iff {c : Citation} : checkSources c = .ok () ↔
    ∀ src ∈ c.sources, ∀ label, src.label = some label → label.classification ≠ .restricted := by
  rw [checkSources, forM_eq_ok_iff]
  simp only [denyIf_eq_ok_iff, restricted_iff, not_exists, not_and, ne_eq]

/-- **The checks that release a result.** The gate hands the result over as it is. -/
theorem release_eq_ok_iff : gate.release result manifest = .ok released ↔
    result = released ∧ gate.Clears result manifest := by
  constructor
  · intro h
    cases result with
    | obj fields =>
      rw [release] at h
      split at h
      · next claims hclaims =>
        simp only [seq_eq_ok_iff, forM_eq_ok_iff, denyIf_eq_ok_iff, checkSources_eq_ok_iff,
          checkAudience, not_not, not_lt, ne_eq, Bool.not_eq_true] at h
        obtain ⟨hkeys, hcount, hsourced, hsources, haudiences, hreleased⟩ := h
        exact ⟨Except.ok.inj hreleased, ⟨claims, ⟨fields, rfl, hclaims, hkeys⟩, hcount⟩, hsourced,
          hsources, haudiences⟩
      · cases h
    | _ => cases h
  · rintro ⟨rfl, ⟨claims, ⟨fields, rfl, hclaims, hkeys⟩, hcount⟩, hsourced, hsources, haudiences⟩
    simp only [release, hclaims, seq_eq_ok_iff, forM_eq_ok_iff, denyIf_eq_ok_iff,
      checkSources_eq_ok_iff, checkAudience, not_not, not_lt, ne_eq, Bool.not_eq_true]
    exact ⟨hkeys, hcount, hsourced, hsources, haudiences, rfl⟩

/-- Labels that are neither restricted nor outrank the audience are the ones it may see. -/
theorem le_level_iff {classification : DataClassification} {audience : Audience}
    (h : classification ≠ .restricted) :
    classification ≤ audience.level ↔ ¬Outranks classification audience := by
  cases classification with
  | restricted => exact absurd rfl h
  | public_ | partner | internal => cases audience <;> simp [Outranks] <;> decide

/-- Without a budget every citation has a source. -/
theorem sources_ne_nil_of_clears {card : AgentCard}
    (h : ({ card := card, maxUnsourced := 0 } : ReleaseGate).Clears result manifest)
    {c : Citation} (hc : c ∈ manifest.citations) : c.sources ≠ [] := by
  have hzero : unsourced manifest = 0 := Nat.le_zero.mp (Int.ofNat_le.mp h.sourced)
  have hall := List.countP_eq_zero.mp hzero c hc
  rwa [List.isEmpty_iff] at hall

end

/-- **Labels of a release.** They stay below the audiences of their citations exactly when the
checks of the gate fail or no partner or internal source is cited for a lower audience. -/
theorem release_dominated_iff (gate : ReleaseGate) (result : Json) (manifest : CitationManifest) :
    (∀ released, gate.release result manifest = .ok released → Dominated manifest) ↔
    (gate.Clears result manifest → ∀ c ∈ manifest.citations, ∀ src ∈ c.sources, ∀ label,
      src.label = some label → ¬Outranks label.classification c.audience) := by
  constructor
  · intro h hclears c hc src hsrc label hlabel
    obtain ⟨hle, hne⟩ := h result (release_eq_ok_iff.mpr ⟨rfl, hclears⟩) c hc src hsrc label hlabel
    exact (le_level_iff hne).mp hle
  · intro h released hreleased c hc src hsrc label hlabel
    obtain ⟨-, hclears⟩ := release_eq_ok_iff.mp hreleased
    have hne := hclears.unrestricted c hc src hsrc label hlabel
    exact ⟨(le_level_iff hne).mpr (h hclears c hc src hsrc label hlabel), hne⟩

/-- **Claims of a release.** Without a budget for unsourced claims, they all have a source exactly
when the checks of the gate fail or each of them is the text of a citation. -/
theorem release_covered_iff (card : AgentCard) (result : Json) (manifest : CitationManifest) :
    (∀ released, ({ card := card, maxUnsourced := 0 } : ReleaseGate).release result manifest =
      .ok released → Covered result manifest) ↔
    (({ card := card, maxUnsourced := 0 } : ReleaseGate).Clears result manifest →
      Cited result manifest) := by
  constructor
  · intro h hclears claims hclaims claim hclaim
    obtain ⟨c, hc, htext, -⟩ :=
      h result (release_eq_ok_iff.mpr ⟨rfl, hclears⟩) claims hclaims claim hclaim
    exact ⟨c, hc, htext⟩
  · intro h released hreleased claims hclaims claim hclaim
    obtain ⟨-, hclears⟩ := release_eq_ok_iff.mp hreleased
    obtain ⟨c, hc, htext⟩ := h hclears claims hclaims claim hclaim
    exact ⟨c, hc, htext, sources_ne_nil_of_clears hclears hc⟩

/-! ### Releases that should have been refused -/

/-- A card with one audience. -/
def releaseCard (audience : String) : AgentCard where
  cardId := "card:4"
  capabilityId := "pub.report"
  name := "Report"
  version := "1.0.0"
  partnerId := "partner-acme"
  partnerContractId := "contract-003"
  audiences := [audience]
  createdAt := "2024-01-01T00:00:00.000Z"

/-- An internal source for the public. -/
def internalForPublic : CitationManifest where
  citations := [⟨"c1", "a", [⟨"n1", some { classification := .internal }⟩], .public_⟩]

/-- A citation of something else. -/
def otherClaim : CitationManifest where
  citations := [⟨"c1", "b", [⟨"n1", none⟩], .internal⟩]

theorem releases_internal_source : ¬∀ (gate : ReleaseGate) (result : Json)
    (manifest : CitationManifest) (released : Json),
    gate.release result manifest = .ok released → Dominated manifest := by
  intro hall
  have hdominated := hall { card := releaseCard "public" } (.obj [("claims", .arr [.str "a"])])
    internalForPublic _ rfl _ (List.mem_singleton.mpr rfl) _ (List.mem_singleton.mpr rfl) _ rfl
  exact absurd hdominated.1 (by decide)

theorem releases_uncited_claim : ¬∀ (card : AgentCard) (result : Json)
    (manifest : CitationManifest) (released : Json),
    ({ card := card, maxUnsourced := 0 } : ReleaseGate).release result manifest = .ok released →
      Covered result manifest := by
  intro hall
  obtain ⟨c, hc, htext, -⟩ := hall (releaseCard "internal") (.obj [("claims", .arr [.str "a"])])
    otherClaim _ rfl ["a"] rfl "a" (List.mem_singleton.mpr rfl)
  obtain rfl := List.mem_singleton.mp hc
  exact absurd htext (by decide)

end ReleaseGate

end Orchestra
