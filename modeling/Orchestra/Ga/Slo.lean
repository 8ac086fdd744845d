import Mathlib.Algebra.Order.AddGroupWithTop
import Mathlib.Algebra.Order.Field.Basic
import Mathlib.Tactic.Linarith
import Mathlib.Tactic.NormNum
import Orchestra.Core.Exceptions
import Orchestra.Foundation.OrderStatistic

/-!
# Service level objectives

The gate for general availability computes four objectives from the telemetry of a pilot: the share
of tasks that succeeded, the 95th percentiles of latency and of time to recovery, and the largest
gap in the audit trail. Each result has an attainment beside the flag that says whether the target
is met. The arithmetic is exact.

The attainment divides by what was measured, or by the target, and the guards of the four divisions
differ: a target of zero makes the availability raise, and a percentile of zero meets every target
with an attainment of zero (`readinessSound_iff`). Whenever the gate returns, its verdict is the
right one (`gaReady_iff`).
-/

namespace Orchestra

open OrderStatistic

structure SloResult where
  name : String
  target : ℚ
  /-- What was measured; the latency of no samples is infinite. -/
  measured : WithTop ℚ
  attainment : ℚ
  meets : Bool

namespace Ga

/-- `min(1.0, a / b) if b > 0 else default`. -/
def clippedRatio (a b default : ℚ) : Except Raised ℚ :=
  if 0 < b then (divide a b).map (min 1) else .ok default

/-! ## The four objectives -/

/-- `availability_slo`. -/
def availabilitySlo (succeeded total : ℤ) (target : ℚ) : Except Raised SloResult :=
  if total = 0 then .ok ⟨"availability", target, (0 : ℚ), 0, false⟩
  else if total < 100 then do
    let measured ← divide succeeded total
    return ⟨"availability", target, measured, 0, false⟩
  else do
    let measured ← divide succeeded total
    let ratio ← divide measured target
    return ⟨"availability", target, measured, min 1 ratio, decide (target ≤ measured)⟩

/-- `max(0, math.ceil(0.95 * n) - 1)`. -/
def p95Index (n : ℕ) : ℤ := max 0 (⌈(19 / 20 : ℚ) * n⌉ - 1)

/-- The percentile of a sorted list. -/
def p95 (samples : List ℚ) : Except Raised ℚ :=
  match samples[(p95Index samples.length).toNat]? with
  | some p95 => .ok p95
  | none => .error ⟨"IndexError", "list index out of range"⟩

/-- The result for a sorted list of samples that is not empty. -/
def percentileSlo (name : String) (samples : List ℚ) (target : ℚ) : Except Raised SloResult := do
  let measured ← p95 samples
  let attainment ← clippedRatio target measured 0
  return ⟨name, target, measured, attainment, decide (measured ≤ target)⟩

/-- `latency_p95_slo`. -/
def latencyP95Slo (samplesMs : List ℚ) (targetMs : ℚ) : Except Raised SloResult :=
  let samples := sorted samplesMs
  if samples = [] then .ok ⟨"latency_p95_ms", targetMs, ⊤, 0, false⟩
  else percentileSlo "latency_p95_ms" samples targetMs

/-- `recovery_time_slo`. -/
def recoveryTimeSlo (recoveryIntervalsS : List ℚ) (targetS : ℚ) : Except Raised SloResult :=
  let samples := sorted recoveryIntervalsS
  if samples = [] then .ok ⟨"recovery_time_p95_s", targetS, (0 : ℚ), 1, true⟩
  else percentileSlo "recovery_time_p95_s" samples targetS

/-- `rpo_slo`. -/
def rpoSlo (auditGapSeconds targetS : ℚ) : Except Raised SloResult :=
  if targetS ≤ 0 then .ok ⟨"rpo_s", targetS, auditGapSeconds, 0, false⟩
  else do
    let attainment ← clippedRatio targetS auditGapSeconds 1
    return ⟨"rpo_s", targetS, auditGapSeconds, attainment, decide (auditGapSeconds ≤ targetS)⟩

end Ga

/-! ## The gate -/

structure PilotTelemetry where
  succeededTasks : ℤ := 0
  totalTasks : ℤ := 0
  latencySamplesMs : List ℚ := []
  recoveryIntervalsS : List ℚ := []
  auditGapSeconds : ℚ := 0
  availabilityTarget : ℚ := 999 / 1000
  latencyP95TargetMs : ℚ := 5000
  recoveryP95TargetS : ℚ := 60
  rpoTargetS : ℚ := 60

structure GaReadiness where
  sloResults : List SloResult
  allSlosMeet : Bool
  deploymentDays : ℤ
  minimumDeploymentDays : ℤ
  gaReady : Bool
  blockers : List String := []

namespace Ga

/-- `compute_attainment`. -/
def computeAttainment (t : PilotTelemetry) : Except Raised (List SloResult) := do
  let availability ← availabilitySlo t.succeededTasks t.totalTasks t.availabilityTarget
  let latency ← latencyP95Slo t.latencySamplesMs t.latencyP95TargetMs
  let recovery ← recoveryTimeSlo t.recoveryIntervalsS t.recoveryP95TargetS
  let rpo ← rpoSlo t.auditGapSeconds t.rpoTargetS
  return [availability, latency, recovery, rpo]

/-- How `format` prints a float. -/
structure FloatFormat where
  text : WithTop ℚ → String

variable (F : FloatFormat)

/-- What keeps the pilot from being ready. -/
def blockers (results : List SloResult) (deploymentDays minimumDeploymentDays : ℤ) :
    List String :=
  ((results.filter fun r ↦ !r.meets).map fun r ↦
    r.name ++ ": measured=" ++ F.text r.measured ++ ", target=" ++ F.text r.target) ++
  if deploymentDays < minimumDeploymentDays then
    ["deployment_days " ++ toString deploymentDays ++ " < minimum " ++
      toString minimumDeploymentDays]
  else []

/-- `evaluate_ga_readiness`. -/
def evaluateGaReadiness (t : PilotTelemetry) (deploymentDays : ℤ)
    (minimumDeploymentDays : ℤ := 14) : Except Raised GaReadiness := do
  let results ← computeAttainment t
  return {
    sloResults := results
    allSlosMeet := results.all SloResult.meets
    deploymentDays := deploymentDays
    minimumDeploymentDays := minimumDeploymentDays
    gaReady := decide (blockers F results deploymentDays minimumDeploymentDays = [])
    blockers := blockers F results deploymentDays minimumDeploymentDays }

/-! ## Consistent results -/

end Ga

/-- The attainment is a share, and it is 1 where the target is met. -/
structure SloResult.Consistent (r : SloResult) : Prop where
  nonneg : 0 ≤ r.attainment
  le_one : r.attainment ≤ 1
  met : r.meets = true → r.attainment = 1

/-- Counts, samples, gap and targets are not negative, and no more tasks succeeded than there
are. -/
structure PilotTelemetry.Valid (t : PilotTelemetry) : Prop where
  succeeded_nonneg : 0 ≤ t.succeededTasks
  succeeded_le_total : t.succeededTasks ≤ t.totalTasks
  latency_nonneg : ∀ x ∈ t.latencySamplesMs, 0 ≤ x
  recovery_nonneg : ∀ x ∈ t.recoveryIntervalsS, 0 ≤ x
  gap_nonneg : 0 ≤ t.auditGapSeconds
  availabilityTarget_nonneg : 0 ≤ t.availabilityTarget
  latencyTarget_nonneg : 0 ≤ t.latencyP95TargetMs
  recoveryTarget_nonneg : 0 ≤ t.recoveryP95TargetS
  rpoTarget_nonneg : 0 ≤ t.rpoTargetS

/-- Fewer than 95 percent of the samples are zero, if there are any. -/
def Ga.MostlyPositive (samples : List ℚ) : Prop :=
  samples = [] ∨ 20 * atMost samples 0 < 19 * samples.length

/-- The telemetry for which no divisor is zero that is not guarded, and no target is met without
being attained. -/
structure PilotTelemetry.Regular (t : PilotTelemetry) : Prop where
  availability : t.totalTasks < 100 ∨ 0 < t.availabilityTarget
  latency : Ga.MostlyPositive t.latencySamplesMs
  recovery : Ga.MostlyPositive t.recoveryIntervalsS

/-- The four objectives, as statements about the telemetry. -/
structure PilotTelemetry.MeetsObjectives (t : PilotTelemetry) : Prop where
  enoughTasks : 100 ≤ t.totalTasks
  succeeded : t.availabilityTarget ≤ (t.succeededTasks / t.totalTasks : ℚ)
  sampled : t.latencySamplesMs ≠ []
  fast : 19 * t.latencySamplesMs.length ≤ 20 * atMost t.latencySamplesMs t.latencyP95TargetMs
  recovered :
    19 * t.recoveryIntervalsS.length ≤ 20 * atMost t.recoveryIntervalsS t.recoveryP95TargetS
  rpoTarget_pos : 0 < t.rpoTargetS
  gap : t.auditGapSeconds ≤ t.rpoTargetS

namespace Ga

variable {a b default target measured : ℚ} {succeeded total : ℤ} {samples : List ℚ}

theorem clippedRatio_of_pos (hb : 0 < b) : clippedRatio a b default = .ok (min 1 (a / b)) := by
  rw [clippedRatio, if_pos hb, divide_of_ne hb.ne']
  rfl

/-- A clipped ratio of numbers that are not negative is consistent with the comparison of the
two. -/
theorem consistent_ratio {name : String} {target : ℚ} {measured : WithTop ℚ} {meets : Bool}
    (ha : 0 ≤ a) (hb : 0 < b) (hmeets : meets = true → b ≤ a) :
    SloResult.Consistent ⟨name, target, measured, min 1 (a / b), meets⟩ where
  nonneg := le_min zero_le_one (div_nonneg ha hb.le)
  le_one := min_le_left _ _
  met h := min_eq_left ((one_le_div hb).mpr (hmeets h))

/-- A result that does not meet its target. -/
theorem consistent_unmet {name : String} {target : ℚ} {measured : WithTop ℚ} :
    SloResult.Consistent ⟨name, target, measured, 0, false⟩ :=
  ⟨le_rfl, zero_le_one, nofun⟩

/-- A result that attains its target. -/
theorem consistent_attained {name : String} {target : ℚ} {measured : WithTop ℚ} {meets : Bool} :
    SloResult.Consistent ⟨name, target, measured, 1, meets⟩ :=
  ⟨zero_le_one, le_rfl, fun _ ↦ rfl⟩

/-- The computation returns a consistent result. -/
def ReturnsConsistent (x : Except Raised SloResult) : Prop := ∃ r, x = .ok r ∧ r.Consistent

theorem returnsConsistent_ok {r : SloResult} : ReturnsConsistent (.ok r) ↔ r.Consistent := by
  refine ⟨?_, fun h ↦ ⟨r, rfl, h⟩⟩
  rintro ⟨r', hr, h⟩
  rw [Except.ok.inj hr]
  exact h

/-- With enough tasks the measured share is divided by the target. -/
theorem availabilitySlo_of_le (h : 100 ≤ total) : availabilitySlo succeeded total target =
    (divide (succeeded / total) target).map fun ratio ↦
      ⟨"availability", target, (succeeded / total : ℚ), min 1 ratio,
        decide (target ≤ succeeded / total)⟩ := by
  have hzero : total ≠ 0 := by omega
  rw [availabilitySlo, if_neg hzero, if_neg (by omega), divide_of_ne (Int.cast_ne_zero.mpr hzero)]
  rfl

/-- **Availability**: consistent for few tasks, and for a target that is not zero. -/
theorem returnsConsistent_availabilitySlo_iff (hsucceeded : 0 ≤ succeeded) (htarget : 0 ≤ target) :
    ReturnsConsistent (availabilitySlo succeeded total target) ↔ total < 100 ∨ 0 < target := by
  by_cases hfew : total < 100
  · refine iff_of_true ?_ (Or.inl hfew)
    rw [availabilitySlo]
    split_ifs with hzero
    · exact returnsConsistent_ok.mpr consistent_unmet
    · rw [divide_of_ne (Int.cast_ne_zero.mpr hzero)]
      exact returnsConsistent_ok.mpr consistent_unmet
  · have henough : 100 ≤ total := not_lt.mp hfew
    have hmeasured : (0 : ℚ) ≤ succeeded / total := by
      refine div_nonneg (Int.cast_nonneg hsucceeded) (Int.cast_nonneg ?_)
      omega
    rw [availabilitySlo_of_le henough, or_iff_right hfew]
    rcases htarget.eq_or_lt with rfl | hpos
    · refine iff_of_false ?_ (lt_irrefl 0)
      rintro ⟨r, hr, -⟩
      cases hr
    · refine iff_of_true ?_ hpos
      rw [divide_of_ne hpos.ne']
      exact returnsConsistent_ok.mpr (consistent_ratio hmeasured hpos of_decide_eq_true)

/-! ### The percentiles -/

theorem toNat_p95Index (n : ℕ) : (p95Index n).toNat = ⌈(19 / 20 : ℚ) * n⌉₊ - 1 := by
  have hceil : ⌈(19 / 20 : ℚ) * n⌉ = (⌈(19 / 20 : ℚ) * n⌉₊ : ℤ) :=
    (Int.natCast_ceil_eq_ceil (by positivity)).symm
  rw [p95Index, hceil]
  omega

/-- **The percentile** of a list of samples is the nearest rank. -/
theorem p95_sorted_eq_ok_iff (hne : samples ≠ []) :
    p95 (sorted samples) = .ok measured ↔ IsNearestRank (19 / 20) samples measured := by
  rw [isNearestRank_iff (by norm_num) (by norm_num) hne, p95, toNat_p95Index, length_sorted]
  split
  · next x hx =>
    rw [hx, Option.some.injEq]
    exact ⟨Except.ok.inj, congrArg _⟩
  · next hx =>
    rw [hx]
    exact iff_of_false nofun nofun

theorem percentileSlo_of_isNearestRank {name : String}
    (h : IsNearestRank (19 / 20) samples measured) :
    percentileSlo name (sorted samples) target = (clippedRatio target measured 0).map
      fun attainment ↦ ⟨name, target, measured, attainment, decide (measured ≤ target)⟩ := by
  rw [percentileSlo, (p95_sorted_eq_ok_iff (List.ne_nil_of_mem h.mem)).mpr h]
  rfl

/-- 95 percent of `n`, in whole numbers. -/
theorem enough_iff (n k : ℕ) : (19 / 20 : ℚ) * n ≤ k ↔ 19 * n ≤ 20 * k := by
  have hcast : (19 / 20 : ℚ) * n ≤ k ↔ ((19 * n : ℕ) : ℚ) ≤ (20 * k : ℕ) := by
    push_cast
    constructor <;> intro hle <;> linarith
  rw [hcast, Nat.cast_le]

/-- The nearest rank is at most `a` exactly if 95 percent of the samples are. -/
theorem le_iff_of_isNearestRank (h : IsNearestRank (19 / 20) samples measured) (a : ℚ) :
    measured ≤ a ↔ 19 * samples.length ≤ 20 * atMost samples a := by
  rw [h.le_iff (by norm_num) (by norm_num), enough_iff]

/-- **A percentile**: consistent unless it is zero. -/
theorem returnsConsistent_percentileSlo_iff {name : String} (hne : samples ≠ [])
    (hnonneg : ∀ x ∈ samples, 0 ≤ x) (htarget : 0 ≤ target) :
    ReturnsConsistent (percentileSlo name (sorted samples) target) ↔
      20 * atMost samples 0 < 19 * samples.length := by
  obtain ⟨measured, hrank⟩ := exists_isNearestRank (p := 19 / 20) (by norm_num) (by norm_num) hne
  rw [percentileSlo_of_isNearestRank hrank, ← not_le, ← le_iff_of_isNearestRank hrank 0, not_le]
  rcases (hnonneg measured hrank.mem).eq_or_lt with hzero | hpos
  · refine iff_of_false ?_ (hzero ▸ lt_irrefl _)
    rw [← hzero]
    -- the guard gives zero, and zero is within every target
    intro hconsistent
    have hmet := (returnsConsistent_ok.mp hconsistent).met (decide_eq_true htarget)
    exact zero_ne_one hmet
  · refine iff_of_true ?_ hpos
    rw [clippedRatio_of_pos hpos]
    exact returnsConsistent_ok.mpr (consistent_ratio htarget hpos of_decide_eq_true)

theorem returnsConsistent_latencyP95Slo_iff (hnonneg : ∀ x ∈ samples, 0 ≤ x)
    (htarget : 0 ≤ target) :
    ReturnsConsistent (latencyP95Slo samples target) ↔ MostlyPositive samples := by
  by_cases hempty : samples = []
  · subst hempty
    exact iff_of_true (returnsConsistent_ok.mpr consistent_unmet) (Or.inl rfl)
  · rw [MostlyPositive, or_iff_right hempty, latencyP95Slo, if_neg (mt sorted_eq_nil_iff.mp hempty)]
    exact returnsConsistent_percentileSlo_iff hempty hnonneg htarget

theorem returnsConsistent_recoveryTimeSlo_iff (hnonneg : ∀ x ∈ samples, 0 ≤ x)
    (htarget : 0 ≤ target) :
    ReturnsConsistent (recoveryTimeSlo samples target) ↔ MostlyPositive samples := by
  by_cases hempty : samples = []
  · subst hempty
    exact iff_of_true (returnsConsistent_ok.mpr consistent_attained) (Or.inl rfl)
  · rw [MostlyPositive, or_iff_right hempty, recoveryTimeSlo,
      if_neg (mt sorted_eq_nil_iff.mp hempty)]
    exact returnsConsistent_percentileSlo_iff hempty hnonneg htarget

/-- **The recovery point** is consistent: both of its divisors are guarded. -/
theorem returnsConsistent_rpoSlo {gap : ℚ} (hgap : 0 ≤ gap) :
    ReturnsConsistent (rpoSlo gap target) := by
  rw [rpoSlo]
  split_ifs with htarget
  · exact returnsConsistent_ok.mpr consistent_unmet
  · rcases hgap.eq_or_lt with rfl | hpos
    · exact returnsConsistent_ok.mpr consistent_attained
    · rw [clippedRatio_of_pos hpos]
      exact returnsConsistent_ok.mpr
        (consistent_ratio (not_le.mp htarget).le hpos of_decide_eq_true)

/-! ### When an objective is met -/

theorem meets_availabilitySlo_iff {r : SloResult}
    (h : availabilitySlo succeeded total target = .ok r) :
    r.meets = true ↔ 100 ≤ total ∧ target ≤ (succeeded / total : ℚ) := by
  by_cases hfew : total < 100
  · refine iff_of_false ?_ fun henough ↦ hfew.not_ge henough.1
    rw [availabilitySlo] at h
    split_ifs at h with hzero
    · rw [← Except.ok.inj h]
      exact Bool.false_ne_true
    · rw [divide_of_ne (Int.cast_ne_zero.mpr hzero)] at h
      rw [← Except.ok.inj h]
      exact Bool.false_ne_true
  · have henough : 100 ≤ total := not_lt.mp hfew
    rw [availabilitySlo_of_le henough, map_eq_ok_iff] at h
    obtain ⟨ratio, -, rfl⟩ := h
    rw [and_iff_right henough]
    exact decide_eq_true_iff

/-- A percentile meets its target if 95 percent of the samples do. -/
theorem meets_percentileSlo_iff {name : String} {r : SloResult} (hne : samples ≠ [])
    (h : percentileSlo name (sorted samples) target = .ok r) :
    r.meets = true ↔ 19 * samples.length ≤ 20 * atMost samples target := by
  obtain ⟨measured, hrank⟩ := exists_isNearestRank (p := 19 / 20) (by norm_num) (by norm_num) hne
  rw [percentileSlo_of_isNearestRank hrank, map_eq_ok_iff] at h
  obtain ⟨attainment, -, rfl⟩ := h
  rw [← le_iff_of_isNearestRank hrank target]
  exact decide_eq_true_iff

theorem meets_latencyP95Slo_iff {r : SloResult} (h : latencyP95Slo samples target = .ok r) :
    r.meets = true ↔ samples ≠ [] ∧ 19 * samples.length ≤ 20 * atMost samples target := by
  by_cases hempty : samples = []
  · subst hempty
    rw [← Except.ok.inj h]
    exact iff_of_false Bool.false_ne_true fun hboth ↦ hboth.1 rfl
  · rw [latencyP95Slo, if_neg (mt sorted_eq_nil_iff.mp hempty)] at h
    rw [meets_percentileSlo_iff hempty h, and_iff_right hempty]

/-- Without failures there is nothing to recover from. -/
theorem meets_recoveryTimeSlo_iff {r : SloResult} (h : recoveryTimeSlo samples target = .ok r) :
    r.meets = true ↔ 19 * samples.length ≤ 20 * atMost samples target := by
  by_cases hempty : samples = []
  · subst hempty
    rw [← Except.ok.inj h]
    exact iff_of_true rfl (Nat.zero_le _)
  · rw [recoveryTimeSlo, if_neg (mt sorted_eq_nil_iff.mp hempty)] at h
    exact meets_percentileSlo_iff hempty h

theorem meets_rpoSlo_iff {gap : ℚ} {r : SloResult} (h : rpoSlo gap target = .ok r) :
    r.meets = true ↔ 0 < target ∧ gap ≤ target := by
  rw [rpoSlo] at h
  split_ifs at h with htarget
  · rw [← Except.ok.inj h]
    exact iff_of_false Bool.false_ne_true fun hboth ↦ htarget.not_gt hboth.1
  · obtain ⟨attainment, -, hr⟩ := bind_eq_ok_iff.mp h
    rw [← Except.ok.inj hr, and_iff_right (not_le.mp htarget)]
    exact decide_eq_true_iff

/-! ## The gate is sound -/

/-- The pilot is ready exactly if nothing keeps it from being ready: every objective is met, and it
has been deployed long enough. -/
theorem blockers_eq_nil_iff (F : FloatFormat) (results : List SloResult) (days minimum : ℤ) :
    blockers F results days minimum = [] ↔ (∀ r ∈ results, r.meets = true) ∧ minimum ≤ days := by
  rw [blockers, List.append_eq_nil_iff, List.map_eq_nil_iff, List.filter_eq_nil_iff]
  refine and_congr ?_ ?_
  · simp
  · split_ifs with hdays
    · exact iff_of_false nofun (not_le.mpr hdays)
    · exact iff_of_true rfl (not_lt.mp hdays)

/-- The gate returns, every result is consistent, and the pilot is ready exactly if it meets the
four objectives and the minimum of days. -/
def ReadinessSound (F : FloatFormat) (t : PilotTelemetry) (days minimum : ℤ) : Prop :=
  ∃ readiness, evaluateGaReadiness F t days minimum = .ok readiness ∧
    readiness.sloResults.length = 4 ∧ (∀ r ∈ readiness.sloResults, r.Consistent) ∧
    (readiness.gaReady = true ↔
      (∀ r ∈ readiness.sloResults, r.meets = true) ∧ minimum ≤ days)

/-- The four results are computed one after the other. -/
theorem computeAttainment_eq_ok_iff {t : PilotTelemetry} {results : List SloResult} :
    computeAttainment t = .ok results ↔ ∃ availability latency recovery rpo,
      availabilitySlo t.succeededTasks t.totalTasks t.availabilityTarget = .ok availability ∧
      latencyP95Slo t.latencySamplesMs t.latencyP95TargetMs = .ok latency ∧
      recoveryTimeSlo t.recoveryIntervalsS t.recoveryP95TargetS = .ok recovery ∧
      rpoSlo t.auditGapSeconds t.rpoTargetS = .ok rpo ∧
      [availability, latency, recovery, rpo] = results := by
  simp only [computeAttainment, bind_eq_ok_iff]
  constructor
  · rintro ⟨availability, havailability, latency, hlatency, recovery, hrecovery, rpo, hrpo, h⟩
    exact ⟨availability, latency, recovery, rpo, havailability, hlatency, hrecovery, hrpo,
      Except.ok.inj h⟩
  · rintro ⟨availability, latency, recovery, rpo, havailability, hlatency, hrecovery, hrpo, rfl⟩
    exact ⟨availability, havailability, latency, hlatency, recovery, hrecovery, rpo, hrpo, rfl⟩

theorem readinessSound_iff_consistent {F : FloatFormat} {t : PilotTelemetry} {days minimum : ℤ} :
    ReadinessSound F t days minimum ↔
      ∃ results, computeAttainment t = .ok results ∧ ∀ r ∈ results, r.Consistent := by
  constructor
  · rintro ⟨readiness, hok, -, hconsistent, -⟩
    rw [evaluateGaReadiness, bind_eq_ok_iff] at hok
    obtain ⟨results, hresults, hreadiness⟩ := hok
    obtain rfl := Except.ok.inj hreadiness
    exact ⟨results, hresults, hconsistent⟩
  · rintro ⟨results, hresults, hconsistent⟩
    refine ⟨_, bind_eq_ok_iff.mpr ⟨results, hresults, rfl⟩, ?_, hconsistent, ?_⟩
    · obtain ⟨_, _, _, _, -, -, -, -, rfl⟩ := computeAttainment_eq_ok_iff.mp hresults
      rfl
    · exact decide_eq_true_iff.trans (blockers_eq_nil_iff F results days minimum)

theorem readinessSound_iff_results {F : FloatFormat} {t : PilotTelemetry} {days minimum : ℤ} :
    ReadinessSound F t days minimum ↔
      ReturnsConsistent (availabilitySlo t.succeededTasks t.totalTasks t.availabilityTarget) ∧
      ReturnsConsistent (latencyP95Slo t.latencySamplesMs t.latencyP95TargetMs) ∧
      ReturnsConsistent (recoveryTimeSlo t.recoveryIntervalsS t.recoveryP95TargetS) ∧
      ReturnsConsistent (rpoSlo t.auditGapSeconds t.rpoTargetS) := by
  rw [readinessSound_iff_consistent]
  constructor
  · rintro ⟨results, hresults, hall⟩
    obtain ⟨_, _, _, _, havailability, hlatency, hrecovery, hrpo, rfl⟩ :=
      computeAttainment_eq_ok_iff.mp hresults
    exact ⟨⟨_, havailability, hall _ (by simp)⟩, ⟨_, hlatency, hall _ (by simp)⟩,
      ⟨_, hrecovery, hall _ (by simp)⟩, ⟨_, hrpo, hall _ (by simp)⟩⟩
  · rintro ⟨⟨availability, havailability, hc₁⟩, ⟨latency, hlatency, hc₂⟩,
      ⟨recovery, hrecovery, hc₃⟩, ⟨rpo, hrpo, hc₄⟩⟩
    refine ⟨_, computeAttainment_eq_ok_iff.mpr
      ⟨_, _, _, _, havailability, hlatency, hrecovery, hrpo, rfl⟩, ?_⟩
    simp [hc₁, hc₂, hc₃, hc₄]

/-- **When the gate is sound.** For valid telemetry, the gate returns consistent results exactly if
the target of the availability is not zero, unless there are few tasks, and neither percentile is
zero. -/
theorem readinessSound_iff (F : FloatFormat) (t : PilotTelemetry) (days minimum : ℤ)
    (h : t.Valid) : ReadinessSound F t days minimum ↔ t.Regular := by
  rw [readinessSound_iff_results,
    returnsConsistent_availabilitySlo_iff h.succeeded_nonneg h.availabilityTarget_nonneg,
    returnsConsistent_latencyP95Slo_iff h.latency_nonneg h.latencyTarget_nonneg,
    returnsConsistent_recoveryTimeSlo_iff h.recovery_nonneg h.recoveryTarget_nonneg]
  constructor
  · rintro ⟨havailability, hlatency, hrecovery, -⟩
    exact ⟨havailability, hlatency, hrecovery⟩
  · rintro ⟨havailability, hlatency, hrecovery⟩
    exact ⟨havailability, hlatency, hrecovery, returnsConsistent_rpoSlo h.gap_nonneg⟩

/-- **When a pilot is ready.** Whenever the gate returns, the pilot is ready exactly if the telemetry
meets the four objectives and it has been deployed long enough. -/
theorem gaReady_iff {F : FloatFormat} {t : PilotTelemetry} {days minimum : ℤ}
    {readiness : GaReadiness} (h : evaluateGaReadiness F t days minimum = .ok readiness) :
    readiness.gaReady = true ↔ t.MeetsObjectives ∧ minimum ≤ days := by
  rw [evaluateGaReadiness, bind_eq_ok_iff] at h
  obtain ⟨results, hresults, hreadiness⟩ := h
  obtain rfl := Except.ok.inj hreadiness
  obtain ⟨availability, latency, recovery, rpo, havailability, hlatency, hrecovery, hrpo, rfl⟩ :=
    computeAttainment_eq_ok_iff.mp hresults
  refine (decide_eq_true_iff.trans (blockers_eq_nil_iff F _ days minimum)).trans
    (and_congr_left fun _ ↦ ?_)
  simp only [List.forall_mem_cons, List.not_mem_nil, false_imp_iff, implies_true, and_true,
    meets_availabilitySlo_iff havailability, meets_latencyP95Slo_iff hlatency,
    meets_recoveryTimeSlo_iff hrecovery, meets_rpoSlo_iff hrpo]
  constructor
  · rintro ⟨⟨htotal, hshare⟩, ⟨hsampled, hfast⟩, hrecovered, htarget, hgap⟩
    exact ⟨htotal, hshare, hsampled, hfast, hrecovered, htarget, hgap⟩
  · rintro ⟨htotal, hshare, hsampled, hfast, hrecovered, htarget, hgap⟩
    exact ⟨⟨htotal, hshare⟩, ⟨hsampled, hfast⟩, hrecovered, htarget, hgap⟩

/-- A pilot that meets its objectives. -/
def pilot : PilotTelemetry where
  succeededTasks := 300
  totalTasks := 300
  latencySamplesMs := [120, 80, 900]
  recoveryIntervalsS := [30]
  auditGapSeconds := 2

theorem pilot_valid : pilot.Valid where
  succeeded_nonneg := by decide
  succeeded_le_total := by decide
  latency_nonneg := by simp [pilot]
  recovery_nonneg := by simp [pilot]
  gap_nonneg := by norm_num [pilot]
  availabilityTarget_nonneg := by norm_num [pilot]
  latencyTarget_nonneg := by norm_num [pilot]
  recoveryTarget_nonneg := by norm_num [pilot]
  rpoTarget_nonneg := by norm_num [pilot]

/-- How the floats that are whole numbers are printed. -/
def wholeFormat : FloatFormat := ⟨fun x ↦ (x.map fun q ↦ toString q.num ++ ".0").getD "inf"⟩

theorem readinessSound_pilot : ReadinessSound wholeFormat pilot 30 14 :=
  (readinessSound_iff wholeFormat pilot 30 14 pilot_valid).mpr
    ⟨Or.inr (by norm_num [pilot]), Or.inr (by norm_num [pilot, atMost]),
      Or.inr (by norm_num [pilot, atMost])⟩

/-- The target of the availability is zero. -/
def noTarget : PilotTelemetry := { pilot with availabilityTarget := 0 }

/-- Every task took less than a millisecond. -/
def instant : PilotTelemetry := { pilot with latencySamplesMs := [0, 0, 0] }

/-- Without a target the gate raises, and the percentile of instant tasks meets its target with an
attainment of zero. -/
theorem not_readinessSound :
    (noTarget.Valid ∧ ¬ReadinessSound wholeFormat noTarget 30 14) ∧
      instant.Valid ∧ ¬ReadinessSound wholeFormat instant 30 14 := by
  have hpilot := pilot_valid
  refine ⟨⟨⟨hpilot.succeeded_nonneg, hpilot.succeeded_le_total, hpilot.latency_nonneg,
    hpilot.recovery_nonneg, hpilot.gap_nonneg, le_rfl, hpilot.latencyTarget_nonneg,
    hpilot.recoveryTarget_nonneg, hpilot.rpoTarget_nonneg⟩, fun hsound ↦ ?_⟩,
    ⟨hpilot.succeeded_nonneg, hpilot.succeeded_le_total, by simp [instant],
    hpilot.recovery_nonneg, hpilot.gap_nonneg, hpilot.availabilityTarget_nonneg,
    hpilot.latencyTarget_nonneg, hpilot.recoveryTarget_nonneg, hpilot.rpoTarget_nonneg⟩,
    fun hsound ↦ ?_⟩
  · have havailability := (readinessSound_iff_results.mp hsound).1
    have hcases := (returnsConsistent_availabilitySlo_iff (by decide) le_rfl).mp havailability
    norm_num [noTarget, pilot] at hcases
  · have hlatency := (readinessSound_iff_results.mp hsound).2.1
    have hcases := (returnsConsistent_latencyP95Slo_iff (by simp [instant])
      hpilot.latencyTarget_nonneg).mp hlatency
    norm_num [MostlyPositive, instant, atMost] at hcases
    exact List.cons_ne_nil _ _ hcases

end Ga

end Orchestra
