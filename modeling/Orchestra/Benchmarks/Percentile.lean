import Orchestra.Benchmarks.Runner
import Orchestra.Ga.Slo

/-!
# Two percentiles of the same latencies

The gate rounds 95 percent of the number of samples up, and its percentile is the nearest rank. The
metrics of a baseline round the number down, and their percentile is the nearest rank only if the
sample at this rank is the same one (`sameP95_iff`). Where all samples are different it is the one
before for most numbers of samples (`sharedRank_iff_of_nodup`).
-/

namespace Orchestra

open OrderStatistic

namespace Benchmarks

open Ga

variable {lower : String → String} {name : String} {results : List RunResult}
  {metrics : BenchmarkMetrics} {samples : List ℤ} {x y : ℤ}

/-- The percentiles that the gate and the metrics compute of the latencies of these results are the
same one, and it is the least sample that 95 percent of the samples do not exceed. -/
def SameP95 (results : List RunResult) (metrics : BenchmarkMetrics) (targetMs : ℚ) : Prop :=
  ∃ slo, latencyP95Slo (results.map fun r ↦ (r.latencyMs : ℚ)) targetMs = .ok slo ∧
    slo.measured = (metrics.p95LatencyMs : ℚ) ∧
    IsNearestRank (19 / 20) (results.map RunResult.latencyMs) metrics.p95LatencyMs

/-- Some sample is at both ranks: fewer samples than the rank rounded down are below it, and at
least 95 percent of them are at most as large. -/
def SharedRank (samples : List ℤ) : Prop :=
  ∃ x, below samples x < max 1 (19 * samples.length / 20) ∧
    19 * samples.length ≤ 20 * atMost samples x

/-! ## The gate -/

/-- The gate measures the nearest rank. -/
theorem latencyP95Slo_of_isNearestRank (h : IsNearestRank (19 / 20) samples x) (targetMs : ℚ) :
    ∃ slo, latencyP95Slo (samples.map fun y : ℤ ↦ (y : ℚ)) targetMs = .ok slo ∧
      slo.measured = (x : ℚ) := by
  have hrank : IsNearestRank (19 / 20) (samples.map fun y : ℤ ↦ (y : ℚ)) x :=
    h.map Int.cast_strictMono
  rw [latencyP95Slo, if_neg (mt sorted_eq_nil_iff.mp (List.ne_nil_of_mem hrank.mem)),
    percentileSlo_of_isNearestRank hrank]
  rw [clippedRatio]
  split_ifs with hpos
  · rw [divide_of_ne hpos.ne']
    exact ⟨_, rfl, rfl⟩
  · exact ⟨_, rfl, rfl⟩

/-! ## The two ranks -/

/-- A shared sample is at the rank rounded down, and it is the nearest rank. -/
theorem getElem?_of_sharedRank (hne : samples ≠ [])
    (hbelow : below samples x < max 1 (19 * samples.length / 20))
    (henough : 19 * samples.length ≤ 20 * atMost samples x) :
    (sorted samples)[19 * samples.length / 20 - 1]? = some x ∧
      IsNearestRank (19 / 20) samples x := by
  have hlength : 0 < samples.length := List.length_pos_iff.mpr hne
  have hceil : ⌈(19 / 20 : ℚ) * samples.length⌉₊ ≤ atMost samples x :=
    Nat.ceil_le.mpr ((enough_iff _ _).mpr henough)
  have hrank : 19 * samples.length ≤ 20 * ⌈(19 / 20 : ℚ) * samples.length⌉₊ :=
    (enough_iff _ _).mp (Nat.le_ceil _)
  rw [isNearestRank_iff (by norm_num) (by norm_num) hne, getElem?_sorted_iff, getElem?_sorted_iff]
  omega

/-- The sample at the rank rounded down is the nearest rank exactly if the ranks share a sample. -/
theorem isNearestRank_iff_sharedRank (hne : samples ≠ [])
    (hy : (sorted samples)[19 * samples.length / 20 - 1]? = some y) :
    IsNearestRank (19 / 20) samples y ↔ SharedRank samples := by
  constructor
  · intro h
    have hbelow := (getElem?_sorted_iff.mp hy).1
    exact ⟨y, by omega, (enough_iff _ _).mp h.enough⟩
  · -- there is one sample at the lower rank, so that it is the shared one
    rintro ⟨x, hbelow, henough⟩
    obtain ⟨hx, hrank⟩ := getElem?_of_sharedRank hne hbelow henough
    rw [Option.some.inj (hy.symm.trans hx)]
    exact hrank

/-- **When there is one percentile.** The gate and the metrics compute the same nearest rank exactly
if the rank rounded down and the rank rounded up share a sample. -/
theorem sameP95_iff (lower : String → String) (name : String) (results : List RunResult)
    (metrics : BenchmarkMetrics) (targetMs : ℚ)
    (h : aggregateMetrics lower name results = .ok metrics) :
    SameP95 results metrics targetMs ↔ SharedRank (results.map RunResult.latencyMs) := by
  have hne : results.map RunResult.latencyMs ≠ [] := mt List.map_eq_nil_iff.mp (results_ne_nil h)
  have hp95 := p95LatencyMs_of_aggregateMetrics h
  rw [← List.length_map (f := RunResult.latencyMs)] at hp95
  rw [← isNearestRank_iff_sharedRank hne hp95]
  constructor
  · rintro ⟨-, -, -, hrank⟩
    exact hrank
  · intro hrank
    obtain ⟨slo, hslo, hmeasured⟩ := latencyP95Slo_of_isNearestRank hrank targetMs
    rw [List.map_map] at hslo
    exact ⟨slo, hslo, hmeasured, hrank⟩

/-- The results of the public baseline for the three contracts. -/
def publicResults : List RunResult :=
  [{ contractId := "ctr-001", latencyMs := 900, egressBytes := 26 },
    { contractId := "ctr-002", latencyMs := 1200, egressBytes := 26 },
    { contractId := "ctr-003", latencyMs := 4000, egressBytes := 26 }]

def publicMetrics : BenchmarkMetrics where
  structuredFactAccuracy := 0
  publicResearchCompleteness := 0
  estimatedCostUsd := 0
  p50LatencyMs := 1200
  p95LatencyMs := 1200
  egressBytes := 26
  humanInterventions := 0

theorem aggregateMetrics_publicResults :
    aggregateMetrics String.toLower "all-public" publicResults = .ok publicMetrics := by
  decide +kernel

theorem sameP95_publicResults_iff :
    SameP95 publicResults publicMetrics 5000 ↔
      SharedRank (publicResults.map RunResult.latencyMs) :=
  sameP95_iff String.toLower "all-public" publicResults publicMetrics 5000
    aggregateMetrics_publicResults

/-- The metrics of three results report the median as their percentile. -/
theorem not_sameP95_publicResults :
    aggregateMetrics String.toLower "all-public" publicResults = .ok publicMetrics ∧
      ¬SameP95 publicResults publicMetrics 5000 := by
  refine ⟨aggregateMetrics_publicResults, ?_⟩
  rintro ⟨-, -, -, hrank⟩
  have henough := (enough_iff _ _).mp hrank.enough
  revert henough
  decide

/-! ## How many samples -/

/-- The rank rounded down is the rank rounded up for a single sample, and for multiples of
twenty. -/
theorem sharedRank_of_length (hne : samples ≠ []) (h : samples.length = 1 ∨ 20 ∣ samples.length) :
    SharedRank samples := by
  have hlength : 0 < samples.length := List.length_pos_iff.mpr hne
  obtain ⟨y, hy⟩ := exists_getElem? (l := samples) (i := 19 * samples.length / 20 - 1) (by omega)
  obtain ⟨hbelow, hatMost⟩ := getElem?_sorted_iff.mp hy
  exact ⟨y, by omega, by omega⟩

/-- **Different samples** are shared by the two ranks for no other number of samples. -/
theorem sharedRank_iff_of_nodup (hne : samples ≠ []) (hnodup : samples.Nodup) :
    SharedRank samples ↔ samples.length = 1 ∨ 20 ∣ samples.length := by
  refine ⟨?_, sharedRank_of_length hne⟩
  rintro ⟨x, hbelow, henough⟩
  have hle : atMost samples x ≤ below samples x + 1 := by
    rw [atMost_eq_below_add_count, Nat.add_le_add_iff_left]
    exact List.nodup_iff_count_le_one.mp hnodup x
  omega

end Benchmarks

end Orchestra
