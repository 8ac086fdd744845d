import Orchestra.Coordinator.Tables
import Orchestra.Core.Exceptions
import Orchestra.Core.TimeParse
import Orchestra.Foundation.Dictionary

/-!
# The reconciler

The reconciler goes through the leases and reports which of them have expired or were revoked, and
which node runs are left without a known outcome. A node run counts as unknown when its lease has
expired and its recorded state is one of two. One that is recorded as pending, or not at all, is in
neither list of states: no outcome is known and none is asked for (`nothingHidden_iff`).

How Python reads a time is an argument. A time has an offset or it has none, and two times are
compared only if both have one or neither has.
-/

namespace Orchestra

/-- The values of the recorded states. -/
def NodeRunState.value : NodeRunState → String
  | .pending => "pending"
  | .running => "running"
  | .awaitingApproval => "awaiting-approval"
  | .succeeded => "succeeded"
  | .failed => "failed"
  | .cancelled => "cancelled"

theorem NodeRunState.value_injective : Function.Injective NodeRunState.value := by
  intro s s' h
  cases s <;> cases s' <;> first | rfl | exact absurd h (by decide)

inductive LeaseState where
  | pending | active | expired | revoked | completed
  deriving DecidableEq

/-- `Lease`, as far as the reconciler reads it. -/
structure Lease where
  leaseId : String
  nodeRunId : String
  state : LeaseState := .pending
  expiresAt : String := ""

/-- A time with its offset subtracted, or without an offset, in microseconds since 1970. -/
structure DateTime where
  micros : ℤ
  aware : Bool
  deriving DecidableEq

/-- `a <= b`. -/
def DateTime.le (a b : DateTime) : Except Raised Bool :=
  if a.aware = b.aware then .ok (decide (a.micros ≤ b.micros))
  else .error ⟨"TypeError", "can't compare offset-naive and offset-aware datetimes"⟩

structure ReconcilerReport where
  reportId : String
  generatedAt : String
  unknownNodeRuns : List String := []
  expiredLeases : List String := []
  revokedLeases : List String := []
  actions : List String := []
  deriving DecidableEq

namespace Reconciler

/-- What the environment contributes: the two readings of the clock and a fresh identifier. -/
structure Env where
  now : DateTime
  reportId : String
  generatedAt : String

/-- `s.replace("Z", "+00:00")`. -/
def replaceZulu (s : String) : String :=
  String.ofList (s.toList.flatMap fun c ↦ if c = 'Z' then "+00:00".toList else [c])

/-- The action for a lease that was revoked. -/
def revokedAction (lease : Lease) : String :=
  "lease " ++ lease.leaseId ++ " was revoked; node " ++ lease.nodeRunId ++
    " must reach a terminal state without re-acquiring a lease"

/-- The action for a node run without a known outcome. -/
def unknownAction (lease : Lease) : String :=
  "node " ++ lease.nodeRunId ++ " is in Unknown (lease " ++ lease.leaseId ++
    " expired without completion); requires explicit human / adapter decision"

/-- The recorded state of the node run of a lease. -/
def recorded (states : List (String × String)) (lease : Lease) : String :=
  (Dictionary.get states lease.nodeRunId).getD "unknown"

section Reconcile

variable (fromIsoFormat : String → Except Raised DateTime)

/-- The expiry of the lease has come. -/
def lapsed (now : DateTime) (lease : Lease) : Except Raised Bool := do
  let expiry ← fromIsoFormat (replaceZulu lease.expiresAt)
  expiry.le now

/-- One round of the loop over the leases. -/
def visit (states : List (String × String)) (now : DateTime) (report : ReconcilerReport)
    (lease : Lease) : Except Raised ReconcilerReport :=
  if lease.state = .revoked then
    .ok { report with
      revokedLeases := report.revokedLeases ++ [lease.leaseId]
      actions := report.actions ++ [revokedAction lease] }
  else if lease.state ∈ [LeaseState.pending, .active] then do
    if ← lapsed fromIsoFormat now lease then
      let report := { report with expiredLeases := report.expiredLeases ++ [lease.leaseId] }
      if recorded states lease ∈ ["running", "awaiting-approval"] then
        .ok { report with
          unknownNodeRuns := report.unknownNodeRuns ++ [lease.nodeRunId]
          actions := report.actions ++ [unknownAction lease] }
      else .ok report
    else .ok report
  else .ok report

/-- `now_iso`, or the clock when it is missing or empty. -/
def readNow (env : Env) : Option String → Except Raised DateTime
  | none | some "" => .ok env.now
  | some s => fromIsoFormat (replaceZulu s)

def reconcile (env : Env) (leases : List Lease) (states : List (String × String))
    (nowIso : Option String) : Except Raised ReconcilerReport := do
  let now ← readNow fromIsoFormat env nowIso
  leases.foldlM (visit fromIsoFormat states now)
    { reportId := env.reportId, generatedAt := env.generatedAt }

/-- The lease is pending or active, and has expired. -/
def due (now : DateTime) (lease : Lease) : Bool :=
  decide (lease.state ∈ [LeaseState.pending, .active]) &&
    (lapsed fromIsoFormat now lease).toOption.getD false

/-- The lease is due and its node run is in one of the two states that are reported. -/
def reported (states : List (String × String)) (now : DateTime) (lease : Lease) : Bool :=
  due fromIsoFormat now lease && decide (recorded states lease ∈ ["running", "awaiting-approval"])

/-- What is to be done about a lease. -/
def action (states : List (String × String)) (now : DateTime) (lease : Lease) : Option String :=
  if lease.state = .revoked then some (revokedAction lease)
  else if reported fromIsoFormat states now lease then some (unknownAction lease)
  else none

/-! ## What the loop appends -/

/-- `r'` is `r` with what the leases add to each of its lists. -/
structure Covers (states : List (String × String)) (now : DateTime) (leases : List Lease)
    (r r' : ReconcilerReport) : Prop where
  revoked : r'.revokedLeases =
    r.revokedLeases ++ (leases.filter fun l ↦ l.state = .revoked).map Lease.leaseId
  expired : r'.expiredLeases =
    r.expiredLeases ++ (leases.filter (due fromIsoFormat now)).map Lease.leaseId
  unknown : r'.unknownNodeRuns = r.unknownNodeRuns ++
    (leases.filter (reported fromIsoFormat states now)).map Lease.nodeRunId
  actions : r'.actions = r.actions ++ leases.filterMap (action fromIsoFormat states now)

variable {fromIsoFormat} {states : List (String × String)} {now : DateTime} {leases : List Lease}
  {lease : Lease} {r r' r'' : ReconcilerReport}

theorem due_of_lapsed (hstate : lease.state ∈ [LeaseState.pending, .active]) {b : Bool}
    (h : lapsed fromIsoFormat now lease = .ok b) : due fromIsoFormat now lease = b := by
  rw [due, decide_eq_true hstate, h]
  rfl

theorem not_due_of_state (h : lease.state ∉ [LeaseState.pending, .active]) :
    due fromIsoFormat now lease = false := by
  rw [due, decide_eq_false h, Bool.false_and]

/-- **One lease**, in each of the cases of the loop. -/
theorem covers_visit (h : visit fromIsoFormat states now r lease = .ok r') :
    Covers fromIsoFormat states now [lease] r r' := by
  rw [visit] at h
  by_cases hrevoked : lease.state = .revoked
  · have hdue : due fromIsoFormat now lease = false :=
      not_due_of_state (by rw [hrevoked]; decide)
    rw [if_pos hrevoked] at h
    cases h
    constructor <;> simp [hrevoked, hdue, reported, action]
  rw [if_neg hrevoked] at h
  by_cases hopen : lease.state ∈ [LeaseState.pending, .active]
  · rw [if_pos hopen] at h
    obtain ⟨b, hlapsed, hrest⟩ := bind_eq_ok_iff.mp h
    have hdue := due_of_lapsed hopen hlapsed
    cases b with
    | false =>
      cases hrest
      constructor <;> simp [hrevoked, hdue, reported, action]
    | true =>
      rw [if_pos rfl] at hrest
      dsimp only at hrest
      split_ifs at hrest with hrecorded
      · have hreported : reported fromIsoFormat states now lease = true := by
          rw [reported, hdue, decide_eq_true hrecorded]
          rfl
        cases hrest
        constructor <;> simp [hrevoked, hdue, hreported, action]
      · have hreported : reported fromIsoFormat states now lease = false := by
          rw [reported, decide_eq_false hrecorded, Bool.and_false]
        cases hrest
        constructor <;> simp [hrevoked, hdue, hreported, action]
  · have hdue : due fromIsoFormat now lease = false := not_due_of_state hopen
    rw [if_neg hopen] at h
    cases h
    constructor <;> simp [hrevoked, hdue, reported, action]

theorem Covers.trans {leases' : List Lease} (h : Covers fromIsoFormat states now leases r r')
    (h' : Covers fromIsoFormat states now leases' r' r'') :
    Covers fromIsoFormat states now (leases ++ leases') r r'' := by
  constructor
  · rw [h'.revoked, h.revoked, List.filter_append, List.map_append, List.append_assoc]
  · rw [h'.expired, h.expired, List.filter_append, List.map_append, List.append_assoc]
  · rw [h'.unknown, h.unknown, List.filter_append, List.map_append, List.append_assoc]
  · rw [h'.actions, h.actions, List.filterMap_append, List.append_assoc]

/-- **The loop.** -/
theorem covers_foldlM (h : leases.foldlM (visit fromIsoFormat states now) r = .ok r') :
    Covers fromIsoFormat states now leases r r' := by
  induction leases generalizing r with
  | nil =>
    cases h
    constructor <;> simp
  | cons lease leases ih =>
    rw [List.foldlM_cons] at h
    obtain ⟨r₁, hvisit, hrest⟩ := bind_eq_ok_iff.mp h
    exact (covers_visit hvisit).trans (ih hrest)

/-- A lease is no obstacle when it is not open or its expiry can be compared with the clock. -/
theorem visit_isOk_iff : (∃ r', visit fromIsoFormat states now r lease = .ok r') ↔
    (lease.state ∈ [LeaseState.pending, .active] →
      ∃ b, lapsed fromIsoFormat now lease = .ok b) := by
  rw [visit]
  by_cases hrevoked : lease.state = .revoked
  · rw [if_pos hrevoked]
    exact iff_of_true ⟨_, rfl⟩ fun hopen ↦ absurd hopen (by rw [hrevoked]; decide)
  rw [if_neg hrevoked]
  by_cases hopen : lease.state ∈ [LeaseState.pending, .active]
  · rw [if_pos hopen]
    constructor
    · rintro ⟨r', hvisit⟩ -
      obtain ⟨b, hlapsed, -⟩ := bind_eq_ok_iff.mp hvisit
      exact ⟨b, hlapsed⟩
    · intro hread
      obtain ⟨b, hlapsed⟩ := hread hopen
      rw [hlapsed]
      dsimp only [bind, Except.bind]
      split_ifs <;> exact ⟨_, rfl⟩
  · rw [if_neg hopen]
    exact iff_of_true ⟨_, rfl⟩ fun h ↦ absurd h hopen

/-- The loop goes through when none of the leases is an obstacle. -/
theorem foldlM_isOk_iff : (∃ r', leases.foldlM (visit fromIsoFormat states now) r = .ok r') ↔
    ∀ lease ∈ leases, lease.state ∈ [LeaseState.pending, .active] →
      ∃ b, lapsed fromIsoFormat now lease = .ok b := by
  induction leases generalizing r with
  | nil => exact iff_of_true ⟨r, rfl⟩ (by simp)
  | cons lease leases ih =>
    rw [List.forall_mem_cons, List.foldlM_cons]
    constructor
    · rintro ⟨r', h⟩
      obtain ⟨r₁, hvisit, hrest⟩ := bind_eq_ok_iff.mp h
      exact ⟨visit_isOk_iff.mp ⟨r₁, hvisit⟩, ih.mp ⟨r', hrest⟩⟩
    · rintro ⟨hfirst, hall⟩
      obtain ⟨r₁, hvisit⟩ : ∃ r₁, visit fromIsoFormat states now r lease = .ok r₁ :=
        visit_isOk_iff.mpr hfirst
      obtain ⟨r', hrest⟩ := ih.mpr hall
      exact ⟨r', bind_eq_ok_iff.mpr ⟨r₁, hvisit, hrest⟩⟩

/-- **When there is a report**: the times can be read, and the expiry of each lease that is open can
be compared with the clock. -/
theorem reconcile_isOk_iff {env : Env} {nowIso : Option String} :
    (∃ report, reconcile fromIsoFormat env leases states nowIso = .ok report) ↔
      ∃ now, readNow fromIsoFormat env nowIso = .ok now ∧
        ∀ lease ∈ leases, lease.state ∈ [LeaseState.pending, .active] →
          ∃ b, lapsed fromIsoFormat now lease = .ok b := by
  rw [reconcile]
  constructor
  · rintro ⟨report, h⟩
    obtain ⟨now, hnow, hloop⟩ := bind_eq_ok_iff.mp h
    exact ⟨now, hnow, foldlM_isOk_iff.mp ⟨report, hloop⟩⟩
  · rintro ⟨now, hnow, hread⟩
    obtain ⟨report, hloop⟩ := foldlM_isOk_iff.mpr hread
    exact ⟨report, bind_eq_ok_iff.mpr ⟨now, hnow, hloop⟩⟩

/-! ## What is hidden -/

/-- The node run is recorded as terminal. -/
def RecordedTerminal (states : List (String × String)) (nodeRunId : String) : Prop :=
  ∃ s ∈ [NodeRunState.succeeded, .failed, .cancelled],
    Dictionary.get states nodeRunId = some s.value

variable (fromIsoFormat) in
/-- **Nothing is hidden**: the report lists the leases that are due and those that were revoked, and
the node runs of due leases except those that are recorded as terminal. -/
structure NothingHidden (states : List (String × String)) (now : DateTime) (leases : List Lease)
    (report : ReconcilerReport) : Prop where
  unknown : ∀ nodeRunId, nodeRunId ∈ report.unknownNodeRuns ↔
    ∃ lease ∈ leases, lease.nodeRunId = nodeRunId ∧ due fromIsoFormat now lease ∧
      ¬RecordedTerminal states nodeRunId
  expired : report.expiredLeases = (leases.filter (due fromIsoFormat now)).map Lease.leaseId
  revoked : report.revokedLeases =
    (leases.filter fun l ↦ l.state = .revoked).map Lease.leaseId

theorem recorded_mem_iff : recorded states lease ∈ ["running", "awaiting-approval"] ↔
    ∃ s ∈ [NodeRunState.running, .awaitingApproval],
      Dictionary.get states lease.nodeRunId = some s.value := by
  rw [recorded]
  cases Dictionary.get states lease.nodeRunId with
  | none => exact iff_of_false (by decide) (by simp)
  | some value => simp [NodeRunState.value]

/-- The two lists of states have nothing in common. -/
theorem not_recordedTerminal (h : recorded states lease ∈ ["running", "awaiting-approval"]) :
    ¬RecordedTerminal states lease.nodeRunId := by
  obtain ⟨s, hs, hget⟩ := recorded_mem_iff.mp h
  rintro ⟨s', hs', hget'⟩
  obtain rfl : s = s' :=
    NodeRunState.value_injective (Option.some.inj (hget.symm.trans hget'))
  revert hs hs'
  cases s <;> decide

/-- **Exactly when nothing is hidden**: every lease that is due belongs to a node run with a
recorded state other than pending. -/
theorem nothingHidden_iff {env : Env} {nowIso : Option String} {report : ReconcilerReport}
    (hnow : readNow fromIsoFormat env nowIso = .ok now)
    (hreport : reconcile fromIsoFormat env leases states nowIso = .ok report) :
    NothingHidden fromIsoFormat states now leases report ↔
      ∀ lease ∈ leases, due fromIsoFormat now lease →
        ∃ s : NodeRunState, s ≠ .pending ∧
          Dictionary.get states lease.nodeRunId = some s.value := by
  rw [reconcile, hnow] at hreport
  have hcovers := covers_foldlM hreport
  have hunknown (nodeRunId : String) : nodeRunId ∈ report.unknownNodeRuns ↔
      ∃ lease ∈ leases, lease.nodeRunId = nodeRunId ∧ due fromIsoFormat now lease ∧
        recorded states lease ∈ ["running", "awaiting-approval"] := by
    rw [hcovers.unknown, List.nil_append, List.mem_map]
    refine exists_congr fun lease ↦ ?_
    rw [List.mem_filter, reported, Bool.and_eq_true, decide_eq_true_iff]
    tauto
  constructor
  · intro hhonest lease hmem hdue
    by_cases hterminal : RecordedTerminal states lease.nodeRunId
    · obtain ⟨s, hs, hget⟩ := hterminal
      exact ⟨s, by rintro rfl; revert hs; decide, hget⟩
    · have hlisted := (hhonest.unknown lease.nodeRunId).mpr ⟨lease, hmem, rfl, hdue, hterminal⟩
      obtain ⟨lease', -, hid, -, hrecorded⟩ := (hunknown lease.nodeRunId).mp hlisted
      obtain ⟨s, hs, hget⟩ := recorded_mem_iff.mp hrecorded
      exact ⟨s, by rintro rfl; revert hs; decide, hid ▸ hget⟩
  · intro hknown
    refine ⟨fun nodeRunId ↦ (hunknown nodeRunId).trans ?_, hcovers.expired, hcovers.revoked⟩
    constructor
    · rintro ⟨lease, hmem, rfl, hdue, hrecorded⟩
      exact ⟨lease, hmem, rfl, hdue, not_recordedTerminal hrecorded⟩
    · rintro ⟨lease, hmem, rfl, hdue, hterminal⟩
      refine ⟨lease, hmem, rfl, hdue, recorded_mem_iff.mpr ?_⟩
      obtain ⟨s, hs, hget⟩ := hknown lease hmem hdue
      cases s with
      | pending => exact absurd rfl hs
      | running | awaitingApproval => exact ⟨_, by decide, hget⟩
      | succeeded | failed | cancelled => exact absurd ⟨_, by decide, hget⟩ hterminal

end Reconcile

/-- `datetime.fromisoformat` on a text with milliseconds and the offset of UTC. -/
def readUtcText (s : String) : Except Raised DateTime :=
  match parseUtcIso (String.ofList (s.toList.take (s.length - 6)) ++ "Z") with
  | some ms => .ok ⟨1000 * ms, true⟩
  | none => .error ⟨"ValueError", "Invalid isoformat string: '" ++ s ++ "'"⟩

def sampleEnv : Env := ⟨⟨0, true⟩, "report-1", "2026-01-01T00:00:00.000Z"⟩

/-- A lease that expired before the new year, one that did so on a node run that is done, and one
that was revoked. -/
def sampleLeases : List Lease :=
  [{ leaseId := "l1", nodeRunId := "n1", state := .active,
     expiresAt := "2025-12-31T23:59:59.000Z" },
    { leaseId := "l2", nodeRunId := "n2", state := .pending,
      expiresAt := "2026-01-01T00:00:00.000Z" },
    { leaseId := "l3", nodeRunId := "n3", state := .revoked }]

def sampleStates : List (String × String) := 
  [("n1", "running"), ("n2", "succeeded"), ("n3", "cancelled")]

def sampleReport : ReconcilerReport where
  reportId := "report-1"
  generatedAt := "2026-01-01T00:00:00.000Z"
  unknownNodeRuns := ["n1"]
  expiredLeases := ["l1", "l2"]
  revokedLeases := ["l3"]
  actions := ["node n1 is in Unknown (lease l1 expired without completion); requires explicit " ++
      "human / adapter decision",
    "lease l3 was revoked; node n3 must reach a terminal state without re-acquiring a lease"]

theorem reconcile_sample : reconcile readUtcText sampleEnv sampleLeases sampleStates
    (some "2026-01-01T00:00:00.000Z") = .ok sampleReport := by
  decide +kernel

theorem nothingHidden_sample :
    NothingHidden readUtcText sampleStates ⟨1767225600000000, true⟩ sampleLeases sampleReport := by
  refine (nothingHidden_iff (by decide +kernel) reconcile_sample).mpr fun lease hmem _ ↦ ?_
  simp only [sampleLeases, List.mem_cons, List.not_mem_nil, or_false] at hmem
  rcases hmem with rfl | rfl | rfl
  · exact ⟨.running, by decide, rfl⟩
  · exact ⟨.succeeded, by decide, rfl⟩
  · exact ⟨.cancelled, by decide, rfl⟩

/-- The same leases where the first node run is not in the map. -/
theorem missing_node_run_hidden :
    ¬∀ (fromIsoFormat : String → Except Raised DateTime) (env : Env) (leases : List Lease)
      (states : List (String × String)) (nowIso : Option String) (now : DateTime)
      (report : ReconcilerReport), readNow fromIsoFormat env nowIso = .ok now →
      reconcile fromIsoFormat env leases states nowIso = .ok report →
      NothingHidden fromIsoFormat states now leases report := by
  intro hall
  have hhidden := hall readUtcText sampleEnv sampleLeases [("n2", "succeeded")]
    (some "2026-01-01T00:00:00.000Z") ⟨1767225600000000, true⟩
    { sampleReport with
      unknownNodeRuns := []
      actions := [revokedAction { leaseId := "l3", nodeRunId := "n3" }] }
    (by decide +kernel) (by decide +kernel)
  have hlisted := (hhidden.unknown "n1").mpr ⟨_, List.mem_cons_self, rfl, by decide +kernel, by
    rintro ⟨s, -, hget⟩
    cases hget⟩
  exact List.not_mem_nil hlisted

end Reconciler

end Orchestra
