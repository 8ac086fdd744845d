import Orchestra.Core.Exceptions
import Orchestra.Core.Schema

/-!
# The policy engine

A policy bundle is a list of rules, evaluated in order; the first rule whose predicate holds
decides, a predicate that raises denies, and so does a bundle in which no rule matches. The default
bundle has six deny rules before the rule that allows everything, so what it allows is what none of
the six denies (`decide_defaultP0Rules`).
-/

namespace Orchestra

/-- The input of a decision. -/
structure PolicyRequest where
  node : NodeSpec
  capability : CapabilityManifest
  dataLabel : SecurityLabel
  purposeCode : String
  region : String
  budgetRemainingUsd : ℚ

structure PolicyDecision where
  allow : Bool
  reason : String
  invariant : String
  ruleId : String
  deriving DecidableEq

inductive RuleVerdict where
  | allow | deny
  deriving DecidableEq

structure PolicyRule where
  id : String
  invariant : String := ""
  decision : RuleVerdict
  reason : String := ""
  when_ : PolicyRequest → Except Raised Bool

structure PolicyEngine where
  rules : List PolicyRule := []

namespace PolicyEngine

def defaultDenyReason : String := "no policy rule matched (default deny)"

/-- The rules from one of them on. -/
def decideFrom (req : PolicyRequest) : List PolicyRule → PolicyDecision
  | [] => ⟨false, defaultDenyReason, "8", "default-deny"⟩
  | rule :: rules =>
    match rule.when_ req with
    | .error e =>
      ⟨false, "rule " ++ pyRepr rule.id ++ " raised " ++ e.typeName ++ ": " ++ e.text,
        rule.invariant, rule.id⟩
    | .ok true => ⟨decide (rule.decision = .allow), rule.reason, rule.invariant, rule.id⟩
    | .ok false => decideFrom req rules

/-- `decide`. -/
def decide (engine : PolicyEngine) (req : PolicyRequest) : PolicyDecision :=
  decideFrom req engine.rules

end PolicyEngine

/-! ## The default bundle -/

namespace Policy

def isPublicModel (c : PolicyRequest) : Bool := decide (c.capability.kind = .publicModel)

def dataClassIs (k : DataClassification) (c : PolicyRequest) : Bool :=
  decide (c.dataLabel.classification = k)

/-- A deny rule whose predicate does not raise. -/
def denyRule (id invariant reason : String) (when_ : PolicyRequest → Bool) : PolicyRule where
  id := id
  invariant := invariant
  decision := .deny
  reason := reason
  when_ c := .ok (when_ c)

def noRestrictedToPublic : PolicyRule :=
  denyRule "no-restricted-to-public" "1"
    "restricted data must not flow to a public-model adapter"
    fun c ↦ dataClassIs .restricted c && isPublicModel c

def internalToPublicNeedsPublicResearch : PolicyRule :=
  denyRule "internal-to-public-needs-public-research" "1"
    "internal data can only flow to public-model via a public-research node"
    fun c ↦ dataClassIs .internal c && isPublicModel c && decide (c.node.nodeId ≠ "public_research")

def kindMismatch : PolicyRule :=
  denyRule "kind-mismatch" "3" "capability kind not in node's eligible set"
    fun c ↦ decide (c.capability.kind ∉ c.node.eligibleCapabilityKinds)

def effectEscalation : PolicyRule :=
  denyRule "effect-escalation" "20" "capability declares effects the node did not declare"
    fun c ↦ c.capability.declaredEffects.any fun e ↦
      decide (e.kind ∉ c.node.declaredEffects.map Effect.kind)

def residencyMismatch : PolicyRule :=
  denyRule "residency-mismatch" "13" "data residency and run region are incompatible"
    fun c ↦ decide (c.dataLabel.residency ∉ ["local", "public", c.region])

def budgetExceeded : PolicyRule :=
  denyRule "budget-exceeded" "10" "capability cost exceeds remaining budget"
    fun c ↦ decide (c.budgetRemainingUsd < 0)

def defaultAllow : PolicyRule where
  id := "default-allow"
  invariant := "0"
  decision := .allow
  reason := "no deny rule matched"
  when_ _ := .ok true

/-- `default_p0_rules`. -/
def defaultP0Rules : List PolicyRule :=
  [noRestrictedToPublic, internalToPublicNeedsPublicResearch, kindMismatch, effectEscalation,
    residencyMismatch, budgetExceeded, defaultAllow]

/-- None of the security deny rules of the default bundle fires on the capability: the two rules
about public models, the one about effects and the one about residency. -/
structure Secure (node : NodeSpec) (label : SecurityLabel) (region : String)
    (c : CapabilityManifest) : Prop where
  restricted : ¬(label.classification = .restricted ∧ c.kind = .publicModel)
  internal : ¬(label.classification = .internal ∧ c.kind = .publicModel ∧
    node.nodeId ≠ "public_research")
  effects : ∀ e ∈ c.declaredEffects, ∃ n ∈ node.declaredEffects, n.kind = e.kind
  residency : label.residency = "local" ∨ label.residency = "public" ∨ label.residency = region

section

variable {req : PolicyRequest} {rules : List PolicyRule}

/-- A deny rule that does not fire leaves the decision to the rules after it, and one that fires
does not allow. -/
theorem allow_denyRule_iff (id invariant reason : String) (when_ : PolicyRequest → Bool) :
    (PolicyEngine.decideFrom req (denyRule id invariant reason when_ :: rules)).allow = true ↔
      when_ req = false ∧ (PolicyEngine.decideFrom req rules).allow = true := by
  simp only [PolicyEngine.decideFrom, denyRule]
  cases hwhen : when_ req with
  | true => simp
  | false => simp

/-- **What the default bundle allows.** -/
theorem decide_defaultP0Rules :
    (PolicyEngine.decide ⟨defaultP0Rules⟩ req).allow = true ↔
      Secure req.node req.dataLabel req.region req.capability ∧
        req.capability.kind ∈ req.node.eligibleCapabilityKinds ∧ 0 ≤ req.budgetRemainingUsd := by
  have hlast : (PolicyEngine.decideFrom req [defaultAllow]).allow = true := rfl
  rw [PolicyEngine.decide]
  simp only [defaultP0Rules, noRestrictedToPublic, internalToPublicNeedsPublicResearch,
    kindMismatch, effectEscalation, residencyMismatch, budgetExceeded, allow_denyRule_iff, hlast]
  constructor
  · rintro ⟨hrestricted, hinternal, hkind, heffects, hresidency, hbudget, -⟩
    refine ⟨⟨?_, ?_, ?_, ?_⟩, ?_, ?_⟩
    · simpa [dataClassIs, isPublicModel] using hrestricted
    · simpa [dataClassIs, isPublicModel, and_assoc] using hinternal
    · simpa using heffects
    · have hmem : req.dataLabel.residency ∈ ["local", "public", req.region] := by
        simpa only [decide_eq_false_iff_not, not_not] using hresidency
      simpa using hmem
    · simpa using hkind
    · simpa using hbudget
  · rintro ⟨⟨hrestricted, hinternal, heffects, hresidency⟩, hkind, hbudget⟩
    refine ⟨?_, ?_, ?_, ?_, ?_, ?_, trivial⟩
    · simpa [dataClassIs, isPublicModel] using hrestricted
    · simpa [dataClassIs, isPublicModel, and_assoc] using hinternal
    · simpa using hkind
    · simpa using heffects
    · have hmem : req.dataLabel.residency ∈ ["local", "public", req.region] := by
        simpa using hresidency
      simpa only [decide_eq_false_iff_not, not_not] using hmem
    · simpa using hbudget

end

end Policy

end Orchestra
