import Orchestra.Core.Exceptions
import Orchestra.Core.Float
import Orchestra.Foundation.OrderStatistic

/-!
# The metrics of a baseline

The benchmark runs every contract under three baselines and aggregates what each of them has
produced: how many of the known facts were found, how complete the public research is, and what it
has cost. The latencies are summed up by their median and a high percentile. The arithmetic is
exact.
-/

namespace Orchestra

open OrderStatistic

/-- What is known of a contract, for comparison. -/
structure GroundTruth where
  contractFacts : List (String × String)
  publicFields : List String

/-- What a runner returns for a contract. A key that a runner leaves out has its default. -/
structure RunResult where
  contractId : String
  nodeResults : Option Json := none
  facts : Option Json := none
  merged : Option Json := none
  research : Option Json := none
  costUsd : ℚ := 0
  latencyMs : ℤ := 0
  egressBytes : ℤ := 0
  humanInterventions : ℤ := 0

structure BenchmarkMetrics where
  structuredFactAccuracy : ℚ
  publicResearchCompleteness : ℚ
  estimatedCostUsd : ℚ
  p50LatencyMs : ℤ
  p95LatencyMs : ℤ
  egressBytes : ℤ
  humanInterventions : ℚ
  deriving DecidableEq

namespace Benchmarks

def publicFields : List String := ["vendor_id", "vendor_name", "jurisdiction", "regulatory_actions"]

/-- `GROUND_TRUTH`. -/
def groundTruth : List (String × GroundTruth) :=
  [("ctr-001",
    { contractFacts := [("vendor_name", "Acme Cloud Logistics Co., Ltd."),
        ("buyer_name", "Helios Procurement Group"), ("contract_amount", "8,600,000"),
        ("payment_terms", "Net 30"), ("jurisdiction", "Hong Kong")],
      publicFields := publicFields }),
    ("ctr-002",
    { contractFacts := [("vendor_name", "Helios Industrial Group"),
        ("buyer_name", "Stellar Manufacturing Ltd."), ("contract_amount", "4,200,000"),
        ("payment_terms", "Net 45"), ("jurisdiction", "Singapore")],
      publicFields := publicFields }),
    ("ctr-003",
    { contractFacts := [("vendor_name", "Acme Cloud Logistics Co., Ltd."),
        ("buyer_name", "内部创新业务部"), ("contract_amount", "380,000"),
        ("payment_terms", "Net 15"), ("jurisdiction", "中国大陆")],
      publicFields := publicFields })]

/-- `GROUND_TRUTH[contract_id]`. -/
def truthOf (contractId : String) : Except Raised GroundTruth :=
  match groundTruth.find? fun p ↦ p.1 == contractId with
  | some p => .ok p.2
  | none => .error ⟨"KeyError", pyRepr contractId⟩

/-! ## Reading a result -/

/-- `d.get(key) or {}`. -/
def orEmpty (value : Option Json) : Json := (value.getD (.obj [])).orElse (.obj [])

/-- `_extract_facts`. -/
def extractFacts (r : RunResult) : Except Raised Json := do
  let nodeResults := orEmpty r.nodeResults
  let hybrid ← nodeResults.containsText "extract_facts_local"
  if hybrid then
    let extracted ← nodeResults.getItem "extract_facts_local"
    let facts ← extracted.getD "facts" (.obj [])
    return facts.orElse (.obj [])
  else return orEmpty r.facts

/-- `d.get("public_summary", {}) or {}`, if this is a dictionary. -/
def summaryOf (value : Option Json) : Option Json :=
  match value with
  | some (.obj fields) => some (orEmpty ((Json.obj fields).get? "public_summary"))
  | _ => none

/-- `_extract_research`. -/
def extractResearch (r : RunResult) : Except Raised Json := do
  let nodeResults := orEmpty r.nodeResults
  let hybrid ← nodeResults.containsText "merge"
  let merge ← if hybrid then (nodeResults.getItem "merge").map some else .ok none
  return ((summaryOf merge).or ((summaryOf r.merged).or (summaryOf r.research))).getD (.obj [])

variable (lower : String → String)

/-- One fact was found, if one of the two texts contains the other. -/
def factMatches (got : Json) (fact : String × String) : Except Raised Bool := do
  let actual ← got.getD fact.1 (.str "")
  return actual.truthy &&
    (decide ((lower fact.2).toList <:+: (lower actual.pyStr).toList) ||
      decide ((lower actual.pyStr).toList <:+: (lower fact.2).toList))

/-- `_structured_fact_accuracy`; `lower` is `str.lower`. -/
def structuredFactAccuracy (r : RunResult) (contractId : String) : Except Raised ℚ := do
  let truth ← truthOf contractId
  if truth.contractFacts = [] then return 1
  else
    let got ← extractFacts r
    let found ← truth.contractFacts.mapM (factMatches lower got)
    divide (found.count true) truth.contractFacts.length

/-- The research, or the artefact of the agent where there is none. -/
def researchOf (r : RunResult) : Except Raised Json := do
  let research ← extractResearch r
  if research.truthy then return research
  else
    let artefact ← (orEmpty r.research).containsText "a2a_artefact"
    if artefact then (orEmpty r.research).getItem "a2a_artefact" else return research

/-- `_public_research_completeness`. -/
def publicResearchCompleteness (r : RunResult) (contractId : String) : Except Raised ℚ := do
  let truth ← truthOf contractId
  let research ← researchOf r
  if truth.publicFields = [] then return 1
  else
    let hits ← truth.publicFields.mapM research.containsText
    divide (hits.count true) truth.publicFields.length

/-! ## The metrics -/

/-- `int(x)`. -/
def trunc (x : ℚ) : ℤ := x.num.tdiv x.den

/-- `round(x, digits)`. -/
def roundTo (x : ℚ) (digits : ℕ) : ℚ := FloatModel.roundHalfEven (x * 10 ^ digits) / 10 ^ digits

/-- `latencies[i] if latencies else 0`. -/
def latencyAt (latencies : List ℤ) (i : ℤ) : Except Raised ℤ :=
  if latencies = [] then .ok 0
  else
    match latencies[i.toNat]? with
    | some latency => .ok latency
    | none => .error ⟨"IndexError", "list index out of range"⟩

/-- `max(0, int(n * 0.95) - 1)`. -/
def p95Index (n : ℕ) : ℤ := max 0 (trunc ((n : ℚ) * (19 / 20)) - 1)

/-- `_aggregate_metrics`. -/
def aggregateMetrics (_name : String) (results : List RunResult) :
    Except Raised BenchmarkMetrics := do
  let n : ℚ := results.length
  let accuracies ← results.mapM fun r ↦ structuredFactAccuracy lower r r.contractId
  let factAcc ← divide accuracies.sum n
  let completeness ← results.mapM fun r ↦ publicResearchCompleteness r r.contractId
  let pubComp ← divide completeness.sum n
  let cost ← divide (results.map RunResult.costUsd).sum n
  let latencies := sorted (results.map RunResult.latencyMs)
  let p50 ← latencyAt latencies (latencies.length / 2 : ℕ)
  let p95 ← latencyAt latencies (p95Index latencies.length)
  let egress ← divide ((results.map RunResult.egressBytes).sum : ℤ) n
  let humans ← divide ((results.map RunResult.humanInterventions).sum : ℤ) n
  return {
    structuredFactAccuracy := roundTo factAcc 3
    publicResearchCompleteness := roundTo pubComp 3
    estimatedCostUsd := roundTo cost 4
    p50LatencyMs := p50
    p95LatencyMs := p95
    egressBytes := trunc egress
    humanInterventions := roundTo humans 1 }

/-! ## What the percentile is -/

variable {lower} {name : String} {results : List RunResult} {metrics : BenchmarkMetrics}

theorem trunc_of_nonneg {x : ℚ} (hx : 0 ≤ x) : trunc x = ⌊x⌋ := by
  rw [trunc, Rat.floor_def', Int.tdiv_eq_ediv_of_nonneg (Rat.num_nonneg.mpr hx)]

theorem toNat_p95Index (n : ℕ) : (p95Index n).toNat = 19 * n / 20 - 1 := by
  have hfloor : ⌊(n : ℚ) * (19 / 20)⌋ = ((19 * n / 20 : ℕ) : ℤ) := by
    have hcast : (n : ℚ) * (19 / 20) = ((19 * n : ℕ) : ℚ) / ((20 : ℕ) : ℚ) := by
      push_cast
      ring
    rw [hcast, Rat.floor_natCast_div_natCast, Int.natCast_ediv]
  rw [p95Index, trunc_of_nonneg (by positivity), hfloor]
  omega

/-- The metrics of no results cannot be computed. -/
theorem results_ne_nil (h : aggregateMetrics lower name results = .ok metrics) : results ≠ [] := by
  rintro rfl
  cases h

theorem latencyAt_eq_ok_iff {latencies : List ℤ} {i latency : ℤ} (hne : latencies ≠ []) :
    latencyAt latencies i = .ok latency ↔ latencies[i.toNat]? = some latency := by
  rw [latencyAt, if_neg hne]
  split
  · next x hx =>
    rw [hx, Option.some.injEq]
    exact ⟨Except.ok.inj, congrArg _⟩
  · next hx =>
    rw [hx]
    exact iff_of_false nofun nofun

/-- **The percentile of the metrics** is the latency at the position that 95 percent of the number
of results are rounded down to. -/
theorem p95LatencyMs_of_aggregateMetrics (h : aggregateMetrics lower name results = .ok metrics) :
    (sorted (results.map RunResult.latencyMs))[19 * results.length / 20 - 1]?
      = some metrics.p95LatencyMs := by
  have hne : sorted (results.map RunResult.latencyMs) ≠ [] := by
    rw [ne_eq, sorted_eq_nil_iff, List.map_eq_nil_iff]
    exact results_ne_nil h
  simp only [aggregateMetrics, bind_eq_ok_iff] at h
  obtain ⟨_, -, _, -, _, -, _, -, _, -, _, -, p95, hp95, _, -, _, -, hmetrics⟩ := h
  rw [latencyAt_eq_ok_iff hne, toNat_p95Index, length_sorted, List.length_map] at hp95
  rw [← Except.ok.inj hmetrics]
  exact hp95

end Benchmarks

end Orchestra
