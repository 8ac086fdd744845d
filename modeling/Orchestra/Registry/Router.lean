import Orchestra.Registry.Policy
import Orchestra.Foundation.KeyedTable

/-!
# The manifest store and the router

The router asks the policy about the structurally eligible capabilities, best score first, and binds
the first one that is allowed. When all of them are denied it binds the node's fallback, if the
store knows it. The fallback is not one of the ranked candidates, and the policy is not asked about
it: the main theorem says for which routing requests that makes no difference.
-/

namespace Orchestra

/-! ## The manifest store -/

/-- The live manifests by capability, in the order in which they were registered. -/
abbrev ManifestStore := KeyedTable CapabilityManifest.capabilityId

namespace ManifestStore

/-- `add`. -/
def add (store : ManifestStore) (m : CapabilityManifest) : Except Raised ManifestStore :=
  match store.insert m with
  | some store => .ok store
  | none =>
    .error (.contractViolation
      ("capability_id " ++ pyRepr m.capabilityId ++ " already registered"))

/-- `get`. -/
def get (store : ManifestStore) (capabilityId : String) : Except Raised CapabilityManifest :=
  match store.find? capabilityId with
  | some m => .ok m
  | none => .error (.contractViolation ("unknown capability_id " ++ pyRepr capabilityId))

/-- `capability_id in store`. -/
def contains (store : ManifestStore) (capabilityId : String) : Bool :=
  (store.find? capabilityId).isSome

theorem get_eq_ok_iff {store : ManifestStore} {id : String} {m : CapabilityManifest} :
    store.get id = .ok m ↔ store.find? id = some m := by
  rw [get]
  cases store.find? id with
  | none => simp
  | some m' => simp

end ManifestStore

/-! ## The eligible set -/

structure EligibleEntry where
  capabilityId : String
  manifest : CapabilityManifest
  score : ℚ
  reasons : List String
  deriving DecidableEq

structure EligibleSet where
  nodeId : String
  entries : List EligibleEntry

def EligibleSet.capabilityIds (s : EligibleSet) : List String :=
  s.entries.map EligibleEntry.capabilityId

/-- `_score_manifest`: lower cost and latency are better, and a capability inside the tenant gets a
small bonus. -/
def scoreManifest (F : FloatModel) (m : CapabilityManifest) : ℚ × List String :=
  let cost := F.add 0 (FloatModel.max0 (F.sub 1 m.costEstimateUsd))
  let score := F.add cost (FloatModel.max0 (F.sub 1 (F.div (F.round m.p50LatencyMs) 5000)))
  let reasons := ["cost=" ++ F.repr m.costEstimateUsd, "p50=" ++ toString m.p50LatencyMs ++ "ms"]
  if m.kind ∈ [CapabilityKind.localModel, .a2aAgent] then
    (F.add score (F.round (1 / 20)), reasons ++ ["in-tenant-trust+0.05"])
  else (score, reasons)

/-- The structural conditions of eligibility. A node's fallback is not a primary candidate, unless
the node has a single eligible kind. -/
def isEligible (node : NodeSpec) (m : CapabilityManifest) : Bool :=
  decide (m.kind ∈ node.eligibleCapabilityKinds) &&
    !(decide (some m.capabilityId = node.fallbackCapabilityId) &&
      decide (1 < node.eligibleCapabilityKinds.length)) &&
    m.declaredEffects.all fun e ↦ decide (e.kind ∈ node.declaredEffects.map Effect.kind)

/-- The entry of an eligible manifest. -/
def eligibleEntry (F : FloatModel) (m : CapabilityManifest) : EligibleEntry :=
  let (score, reasons) := scoreManifest F m
  ⟨m.capabilityId, m, score, reasons⟩

/-- The order of the candidates: the sort key is `(-score, capability_id)`. -/
def EligibleEntry.Before (a b : EligibleEntry) : Prop :=
  b.score < a.score ∨ a.score = b.score ∧ a.capabilityId ≤ b.capabilityId

instance : DecidableRel EligibleEntry.Before :=
  fun a b ↦ inferInstanceAs
    (Decidable (b.score < a.score ∨ a.score = b.score ∧ a.capabilityId ≤ b.capabilityId))

theorem EligibleEntry.Before.refl (e : EligibleEntry) : e.Before e := Or.inr ⟨rfl, le_refl _⟩

instance : Std.Total EligibleEntry.Before where
  total a b := by
    rcases lt_trichotomy a.score b.score with hlt | heq | hgt
    · exact Or.inr (Or.inl hlt)
    · exact (le_total a.capabilityId b.capabilityId).imp (fun h ↦ Or.inr ⟨heq, h⟩)
        fun h ↦ Or.inr ⟨heq.symm, h⟩
    · exact Or.inl (Or.inl hgt)

instance : IsTrans EligibleEntry EligibleEntry.Before where
  trans a b c := by
    rintro (hab | ⟨hab, hab'⟩) (hbc | ⟨hbc, hbc'⟩)
    · exact Or.inl (hbc.trans hab)
    · exact Or.inl (hbc ▸ hab)
    · exact Or.inl (hab ▸ hbc)
    · exact Or.inr ⟨hab.trans hbc, hab'.trans hbc'⟩

/-- Two entries that are before each other are of one capability. -/
theorem EligibleEntry.Before.antisymm {a b : EligibleEntry} (hab : a.Before b) (hba : b.Before a) :
    a.capabilityId = b.capabilityId := by
  rcases hab with hlt | ⟨heq, hle⟩
  · rcases hba with hlt' | ⟨heq', -⟩
    · exact absurd hlt (not_lt_of_gt hlt')
    · exact absurd heq' (ne_of_lt hlt)
  · rcases hba with hlt' | ⟨-, hle'⟩
    · exact absurd heq (ne_of_lt hlt')
    · exact le_antisymm hle hle'

/-- The ranked candidates of a node. -/
def rankedCandidates (F : FloatModel) (node : NodeSpec) (store : ManifestStore) :
    List EligibleEntry :=
  ((store.rows.filter (isEligible node)).map (eligibleEntry F)).insertionSort EligibleEntry.Before

/-- `compute_eligible_set`. -/
def computeEligibleSet (F : FloatModel) (node : NodeSpec) (store : ManifestStore) :
    Except Raised EligibleSet :=
  if node.eligibleCapabilityKinds = [] then
    .error (.contractViolation
      ("node " ++ pyRepr node.nodeId ++ " declares no eligible_capability_kinds"))
  else .ok ⟨node.nodeId, rankedCandidates F node store⟩

/-- A ranked candidate is the entry of an eligible manifest of the store. -/
theorem mem_rankedCandidates {F : FloatModel} {node : NodeSpec} {store : ManifestStore}
    {e : EligibleEntry} :
    e ∈ rankedCandidates F node store ↔
      ∃ m ∈ store.rows, isEligible node m = true ∧ eligibleEntry F m = e := by
  rw [rankedCandidates, List.mem_insertionSort, List.mem_map]
  constructor
  · rintro ⟨m, hm, heq⟩
    rw [List.mem_filter] at hm
    exact ⟨m, hm.1, hm.2, heq⟩
  · rintro ⟨m, hm, hok, heq⟩
    exact ⟨m, List.mem_filter.mpr ⟨hm, hok⟩, heq⟩

theorem rankedCandidates_eq_nil_iff {F : FloatModel} {node : NodeSpec} {store : ManifestStore} :
    rankedCandidates F node store = [] ↔ ∀ c ∈ store.rows, ¬isEligible node c = true := by
  rw [List.eq_nil_iff_forall_not_mem]
  constructor
  · exact fun hnil c hc hok ↦ hnil _ (mem_rankedCandidates.mpr ⟨c, hc, hok, rfl⟩)
  · intro hnone e he
    obtain ⟨c, hc, hok, -⟩ := mem_rankedCandidates.mp he
    exact hnone c hc hok

/-! ## The router -/

structure RoutingResult where
  decision : RoutingDecision
  denied : List (String × String)
  deriving DecidableEq

structure Router where
  store : ManifestStore
  policy : PolicyEngine

namespace Router

variable (P : Primitives) (F : FloatModel) (router : Router)

/-- The arguments of `route` besides the node. -/
structure Query where
  dataLabel : SecurityLabel
  purposeCode : String
  region : String
  budgetRemainingUsd : ℚ

/-- `_build_request`. -/
def buildRequest (node : NodeSpec) (q : Query) (m : CapabilityManifest) : PolicyRequest :=
  ⟨node, m, q.dataLabel, q.purposeCode, q.region, q.budgetRemainingUsd⟩

/-- What asking the policy about the candidates in order gives: the first one that is allowed with
its decision, the denials before it, and the last decision of all. -/
structure Poll where
  winner : Option (EligibleEntry × PolicyDecision)
  denied : List (String × String)
  last : Option PolicyDecision

/-- The loop over the candidates, with the denials so far and the last of their decisions. -/
def poll (node : NodeSpec) (q : Query) (denied : List (String × String))
    (last : Option PolicyDecision) : List EligibleEntry → Poll
  | [] => ⟨none, denied, last⟩
  | entry :: entries =>
    let d := router.policy.decide (buildRequest node q entry.manifest)
    if d.allow then ⟨some (entry, d), denied, some d⟩
    else poll node q (denied ++ [(entry.capabilityId, d.reason)]) (some d) entries

/-- The pre-approved fallback, if the node has one and the store knows it. -/
def fallback (node : NodeSpec) : Option CapabilityManifest :=
  match node.fallbackCapabilityId with
  | some id => if id = "" then none else router.store.find? id
  | none => none

/-- `route`, at the clock reading `now`. -/
def route (now : ℕ) (node : NodeSpec) (q : Query) : Except Raised RoutingResult := do
  let eligible ← computeEligibleSet F node router.store
  let p := router.poll node q [] none eligible.entries
  let decision : RoutingDecision :=
    match p.winner with
    | some (entry, d) =>
      { nodeId := node.nodeId, chosenCapabilityId := entry.capabilityId,
        chosenManifestId := entry.manifest.manifestId P F, eligibleSet := eligible.capabilityIds,
        rejected := p.denied, decidedAt := utcNowIso now,
        rationale := "picked " ++ entry.capabilityId ++ ": " ++ d.reason ++ " (score=" ++
          FloatModel.format3 entry.score ++ ", rule=" ++ d.ruleId ++ ")" }
    | none =>
      match router.fallback node with
      | some m =>
        { nodeId := node.nodeId, chosenCapabilityId := m.capabilityId,
          chosenManifestId := m.manifestId P F, eligibleSet := eligible.capabilityIds,
          rejected := p.denied, decidedAt := utcNowIso now,
          rationale := "all primary candidates denied; using pre-approved fallback " ++
            m.capabilityId ++ ". last reason: " ++
            ((p.last.map PolicyDecision.reason).getD "n/a") }
      | none =>
        { nodeId := node.nodeId, chosenCapabilityId := "", chosenManifestId := "",
          eligibleSet := eligible.capabilityIds, rejected := p.denied, decidedAt := utcNowIso now,
          rationale := "routing failed: " ++
            ((p.last.map PolicyDecision.reason).getD "no eligible candidates") }
  return ⟨decision, p.denied⟩

/-! ## What the router binds -/

variable {P F router} {node : NodeSpec} {q : Query}

/-- The policy allows the capability for the node. -/
def Allowed (router : Router) (node : NodeSpec) (q : Query) (m : CapabilityManifest) : Prop :=
  (router.policy.decide (buildRequest node q m)).allow = true

/-- The winner is a candidate that the policy allows. -/
theorem poll_winner {denied : List (String × String)} {last : Option PolicyDecision}
    {entries : List EligibleEntry} {e : EligibleEntry} {d : PolicyDecision}
    (h : (router.poll node q denied last entries).winner = some (e, d)) :
    e ∈ entries ∧ router.Allowed node q e.manifest := by
  induction entries generalizing denied last with
  | nil => cases h
  | cons entry entries ih =>
    rw [poll] at h
    split at h
    · next hallow =>
      obtain ⟨rfl, -⟩ := Prod.mk.inj (Option.some.inj h)
      exact ⟨List.mem_cons_self, hallow⟩
    · have hrest := ih h
      exact ⟨List.mem_cons_of_mem _ hrest.1, hrest.2⟩

/-- Without a winner the policy allows none of the candidates. -/
theorem poll_no_winner {denied : List (String × String)} {last : Option PolicyDecision}
    {entries : List EligibleEntry}
    (h : (router.poll node q denied last entries).winner = none) :
    ∀ e ∈ entries, ¬router.Allowed node q e.manifest := by
  induction entries generalizing denied last with
  | nil =>
    intro e he
    cases he
  | cons entry entries ih =>
    rw [poll] at h
    split at h
    · cases h
    · next hallow =>
      have hrest := ih h
      intro e he
      rcases List.mem_cons.mp he with rfl | he'
      · exact hallow
      · exact hrest e he'

/-- The capability the router binds: an eligible one that the policy allows; or, when the policy
allows none of them, the fallback; or nothing. -/
inductive Binds (P : Primitives) (F : FloatModel) (router : Router) (node : NodeSpec) (q : Query)
    (d : RoutingDecision) : Prop
  | candidate (m : CapabilityManifest) : m ∈ router.store.rows → isEligible node m = true →
      router.Allowed node q m → d.chosenCapabilityId = m.capabilityId →
      d.chosenManifestId = m.manifestId P F → Binds P F router node q d
  | fallback (m : CapabilityManifest) :
      (∀ c ∈ router.store.rows, isEligible node c = true → ¬router.Allowed node q c) →
      router.fallback node = some m → d.chosenCapabilityId = m.capabilityId →
      d.chosenManifestId = m.manifestId P F → Binds P F router node q d
  | nothing :
      (∀ c ∈ router.store.rows, isEligible node c = true → ¬router.Allowed node q c) →
      router.fallback node = none → d.chosenCapabilityId = "" → d.chosenManifestId = "" →
      Binds P F router node q d

/-- **What `route` decides.** It raises exactly for a node without eligible kinds. -/
theorem route_binds {now : ℕ} {res : RoutingResult}
    (h : router.route P F now node q = .ok res) :
    node.eligibleCapabilityKinds ≠ [] ∧ res.decision.nodeId = node.nodeId ∧
      Binds P F router node q res.decision := by
  rw [route, computeEligibleSet] at h
  split at h
  · cases h
  · next hkinds =>
    have hres := (Except.ok.inj h).symm
    subst hres
    dsimp only
    cases hwinner : (router.poll node q [] none (rankedCandidates F node router.store)).winner with
    | some winner =>
      obtain ⟨e, d⟩ := winner
      obtain ⟨he, hallowed⟩ := poll_winner hwinner
      obtain ⟨m, hm, hok, rfl⟩ := mem_rankedCandidates.mp he
      exact ⟨hkinds, rfl, .candidate m hm hok hallowed rfl rfl⟩
    | none =>
      have hnone : ∀ c ∈ router.store.rows, isEligible node c = true →
          ¬router.Allowed node q c := by
        intro c hc hok
        have hmem : eligibleEntry F c ∈ rankedCandidates F node router.store :=
          mem_rankedCandidates.mpr ⟨c, hc, hok, rfl⟩
        exact poll_no_winner hwinner _ hmem
      cases hfb : router.fallback node with
      | some m => exact ⟨hkinds, rfl, .fallback m hnone hfb rfl rfl⟩
      | none => exact ⟨hkinds, rfl, .nothing hnone hfb rfl rfl⟩

theorem route_eq_ok (now : ℕ) (hkinds : node.eligibleCapabilityKinds ≠ []) :
    ∃ res, router.route P F now node q = .ok res := by
  rw [route, computeEligibleSet, if_neg hkinds]
  exact ⟨_, rfl⟩

/-- A fallback has a name, and it is the manifest the store has under it. -/
theorem fallback_spec {m : CapabilityManifest} (h : router.fallback node = some m) :
    m.capabilityId ≠ "" ∧ router.store.find? m.capabilityId = some m := by
  rw [Router.fallback] at h
  split at h
  · next id hid =>
    split at h
    · cases h
    · next hne =>
      obtain rfl : m.capabilityId = id := KeyedTable.key_of_find? h
      exact ⟨hne, h⟩
  · cases h

/-! ## Which capability it chooses -/

instance (m : CapabilityManifest) : Decidable (router.Allowed node q m) :=
  inferInstanceAs (Decidable (_ = true))

/-- The candidate the loop ends at: the first one the policy allows. -/
def winner (F : FloatModel) (router : Router) (node : NodeSpec) (q : Query) :
    Option EligibleEntry :=
  (rankedCandidates F node router.store).find? fun e ↦ decide (router.Allowed node q e.manifest)

theorem poll_winner_eq (denied : List (String × String)) (last : Option PolicyDecision)
    (entries : List EligibleEntry) :
    (router.poll node q denied last entries).winner =
      (entries.find? fun e ↦ decide (router.Allowed node q e.manifest)).map fun e ↦
        (e, router.policy.decide (buildRequest node q e.manifest)) := by
  induction entries generalizing denied last with
  | nil => rfl
  | cons entry entries ih =>
    rw [poll, List.find?_cons]
    by_cases hallow : router.Allowed node q entry.manifest
    · rw [decide_eq_true hallow]
      simp only [Allowed] at hallow
      simp [hallow]
    · rw [decide_eq_false hallow]
      simp only [Allowed] at hallow
      simp [hallow, ih]

theorem poll_candidates : (router.poll node q [] none (rankedCandidates F node router.store)).winner
    = (router.winner F node q).map fun e ↦
      (e, router.policy.decide (buildRequest node q e.manifest)) :=
  poll_winner_eq _ _ _

theorem winner_spec {e : EligibleEntry} (h : router.winner F node q = some e) :
    ∃ m ∈ router.store.rows, isEligible node m = true ∧ router.Allowed node q m ∧
      eligibleEntry F m = e := by
  rw [winner] at h
  obtain ⟨m, hm, hok, rfl⟩ := mem_rankedCandidates.mp (List.mem_of_find?_eq_some h)
  have hallowed := List.find?_some h
  exact ⟨m, hm, hok, of_decide_eq_true hallowed, rfl⟩

/-- The id of the capability that is chosen, empty when there is none. -/
def chosen (F : FloatModel) (router : Router) (node : NodeSpec) (q : Query) : String :=
  match router.winner F node q with
  | some e => e.capabilityId
  | none => ((router.fallback node).map CapabilityManifest.capabilityId).getD ""

/-- The branch of the pre-approved fallback is taken: no candidate is allowed, and the store knows
the fallback. -/
def FallsBack (F : FloatModel) (router : Router) (node : NodeSpec) (q : Query) : Prop :=
  router.winner F node q = none ∧ (router.fallback node).isSome

theorem chosen_of_route {now : ℕ} {res : RoutingResult}
    (h : router.route P F now node q = .ok res) :
    res.decision.chosenCapabilityId = router.chosen F node q := by
  rw [route, computeEligibleSet] at h
  split at h
  · cases h
  · have hres := (Except.ok.inj h).symm
    subst hres
    dsimp only
    rw [poll_candidates, chosen]
    cases router.winner F node q with
    | some e => rfl
    | none =>
      cases router.fallback node with
      | some m => rfl
      | none => rfl

/-- An eligible capability that the policy allows, ahead of all others of this kind. -/
structure Preferred (F : FloatModel) (router : Router) (node : NodeSpec) (q : Query)
    (m : CapabilityManifest) : Prop where
  mem : m ∈ router.store.rows
  eligible : isEligible node m = true
  allowed : router.Allowed node q m
  first : ∀ c ∈ router.store.rows, isEligible node c = true → router.Allowed node q c →
    (eligibleEntry F m).Before (eligibleEntry F c)

private theorem before_of_find? {p : EligibleEntry → Bool} {l : List EligibleEntry}
    {a b : EligibleEntry} (h : l.Pairwise EligibleEntry.Before) (hfind : l.find? p = some a)
    (hb : b ∈ l) (hp : p b = true) : a.Before b := by
  induction l with
  | nil => cases hb
  | cons x l ih =>
    rw [List.pairwise_cons] at h
    rw [List.find?_cons] at hfind
    rcases List.mem_cons.mp hb with rfl | hb
    · rw [hp] at hfind
      obtain rfl := Option.some.inj hfind
      exact .refl b
    · split at hfind
      · obtain rfl := Option.some.inj hfind
        exact h.1 b hb
      · exact ih h.2 hfind hb

/-- **The winner is the preferred candidate.** -/
theorem winner_eq_some_iff {e : EligibleEntry} : router.winner F node q = some e ↔
    ∃ m, Preferred F router node q m ∧ eligibleEntry F m = e := by
  have hsorted : (rankedCandidates F node router.store).Pairwise EligibleEntry.Before :=
    List.pairwise_insertionSort _ _
  have hbefore {m c : CapabilityManifest} (hw : router.winner F node q = some (eligibleEntry F m))
      (hc : c ∈ router.store.rows) (hok : isEligible node c = true)
      (hallowed : router.Allowed node q c) : (eligibleEntry F m).Before (eligibleEntry F c) :=
    before_of_find? hsorted hw (mem_rankedCandidates.mpr ⟨c, hc, hok, rfl⟩)
      (decide_eq_true hallowed)
  constructor
  · intro hw
    obtain ⟨m, hm, hok, hallowed, rfl⟩ := winner_spec hw
    exact ⟨m, ⟨hm, hok, hallowed, fun c hc hc' hca ↦ hbefore hw hc hc' hca⟩, rfl⟩
  · rintro ⟨m, hpref, rfl⟩
    cases hw : router.winner F node q with
    | none =>
      have hnone := List.find?_eq_none.mp hw (eligibleEntry F m)
        (mem_rankedCandidates.mpr ⟨m, hpref.mem, hpref.eligible, rfl⟩)
      exact absurd (decide_eq_true hpref.allowed) hnone
    | some e =>
      obtain ⟨c, hc, hok, hallowed, rfl⟩ := winner_spec hw
      -- each of the two is before the other, so they are of one capability
      have hid := (hpref.first c hc hok hallowed).antisymm
        (hbefore hw hpref.mem hpref.eligible hpref.allowed)
      rw [KeyedTable.eq_of_mem_of_key_eq hpref.mem hc hid]

theorem winner_eq_none_iff : router.winner F node q = none ↔
    ∀ c ∈ router.store.rows, isEligible node c = true → ¬router.Allowed node q c := by
  rw [winner, List.find?_eq_none]
  constructor
  · intro h c hc hok hallowed
    exact h _ (mem_rankedCandidates.mpr ⟨c, hc, hok, rfl⟩) (decide_eq_true hallowed)
  · intro h e he hallowed
    obtain ⟨c, hc, hok, rfl⟩ := mem_rankedCandidates.mp he
    exact h c hc hok (of_decide_eq_true hallowed)

/-! ## Security under the default bundle -/

open Policy

/-- **The security rules and the fallback.** Under the default bundle, whatever `route` binds passes
the security deny rules, if and only if the node has no eligible kinds, or the budget is not
negative and an eligible capability passes them, or the node's fallback does in case the store knows
it. -/
theorem route_secure_iff (P : Primitives) (F : FloatModel) (store : ManifestStore) (now : ℕ)
    (node : NodeSpec) (q : Query) :
    (∀ res, (Router.mk store ⟨defaultP0Rules⟩).route P F now node q = .ok res →
      res.decision.chosenCapabilityId ≠ "" →
      ∃ c, store.find? res.decision.chosenCapabilityId = some c ∧
        Secure node q.dataLabel q.region c) ↔
    node.eligibleCapabilityKinds = [] ∨
      (0 ≤ q.budgetRemainingUsd ∧
        ∃ c ∈ store.rows, isEligible node c = true ∧ Secure node q.dataLabel q.region c) ∨
      ∀ c, (Router.mk store ⟨defaultP0Rules⟩).fallback node = some c →
        Secure node q.dataLabel q.region c := by
  set router : Router := ⟨store, ⟨defaultP0Rules⟩⟩ with hrouter
  have hallowed (c : CapabilityManifest) : router.Allowed node q c ↔
      Secure node q.dataLabel q.region c ∧ c.kind ∈ node.eligibleCapabilityKinds ∧
        0 ≤ q.budgetRemainingUsd := decide_defaultP0Rules
  have hkind (c : CapabilityManifest) (hc : isEligible node c = true) :
      c.kind ∈ node.eligibleCapabilityKinds := by
    rw [isEligible, Bool.and_eq_true, Bool.and_eq_true] at hc
    simpa using hc.1.1
  constructor
  · intro h
    by_cases hkinds : node.eligibleCapabilityKinds = []
    · exact Or.inl hkinds
    · obtain ⟨res, hres⟩ : ∃ res, router.route P F now node q = .ok res := route_eq_ok now hkinds
      obtain ⟨-, -, hbinds⟩ := route_binds hres
      cases hbinds with
      | candidate m hm hok hm' hid hman =>
        obtain ⟨hsecure, -, hbudget⟩ := (hallowed m).mp hm'
        exact Or.inr (Or.inl ⟨hbudget, m, hm, hok, hsecure⟩)
      | fallback m hnone hfb hid hman =>
        refine Or.inr (Or.inr fun c hc ↦ ?_)
        obtain rfl : m = c := Option.some.inj (hfb.symm.trans hc)
        obtain ⟨hne, hfind⟩ := fallback_spec hfb
        obtain ⟨c', hc', hsecure⟩ := h res hres (by rw [hid]; exact hne)
        rw [hid] at hc'
        obtain rfl : m = c' := Option.some.inj (hfind.symm.trans hc')
        exact hsecure
      | nothing hnone hfb hid hman =>
        refine Or.inr (Or.inr fun c hc ↦ ?_)
        rw [hfb] at hc
        cases hc
  · intro h res hres hne
    obtain ⟨hkinds, -, hbinds⟩ := route_binds hres
    cases hbinds with
    | candidate m hm hok hm' hid hman =>
      refine ⟨m, ?_, ((hallowed m).mp hm').1⟩
      rw [hid]
      exact KeyedTable.find?_of_mem hm
    | fallback m hnone hfb hid hman =>
      refine ⟨m, by rw [hid]; exact (fallback_spec hfb).2, ?_⟩
      rcases h with hempty | ⟨hbudget, c, hc, hok, hsecure⟩ | hsecure
      · exact absurd hempty hkinds
      · exact absurd ((hallowed c).mpr ⟨hsecure, hkind c hok, hbudget⟩) (hnone c hc hok)
      · exact hsecure m hfb
    | nothing hnone hfb hid hman => exact absurd hid hne

/-- A public model, declared as the fallback of a node that works on a local one. -/
def publicFallback : CapabilityManifest where
  capabilityId := "public.openai-compat"
  name := "OpenAI-compatible"
  kind := .publicModel
  endpoint := "https://api.example"

/-- The node. -/
def localNode : NodeSpec where
  nodeId := "extract"
  name := "Extract"
  requiresPurpose := { code := "contract-review" }
  eligibleCapabilityKinds := [.localModel]
  fallbackCapabilityId := some "public.openai-compat"

/-- Restricted data goes to the public model, because nothing else is registered. -/
theorem route_restricted_to_public : ∃ P F store res,
    (Router.mk store ⟨defaultP0Rules⟩).route P F 0 localNode
        ⟨{ classification := .restricted }, "contract-review", "local", 1⟩ = .ok res ∧
      res.decision.chosenCapabilityId = "public.openai-compat" ∧
      store.find? "public.openai-compat" = some publicFallback ∧
      publicFallback.kind = .publicModel := by
  obtain ⟨P⟩ : Nonempty Primitives :=
    ⟨fun _ ↦ List.replicate 32 0, fun _ _ ↦ List.replicate 32 0, fun _ _ ↦ by decide⟩
  obtain ⟨F⟩ : Nonempty FloatModel := ⟨id, fun _ ↦ "1.0"⟩
  have hstore : ∃ store : ManifestStore, KeyedTable.empty.insert publicFallback = some store :=
    ⟨_, rfl⟩
  obtain ⟨store, hstore⟩ := hstore
  have hrows : store.rows = [publicFallback] := by
    rw [KeyedTable.rows_of_insert hstore]
    rfl
  have hfind : store.find? "public.openai-compat" = some publicFallback :=
    KeyedTable.find?_of_mem (r := publicFallback) (by rw [hrows]; exact List.mem_singleton_self _)
  obtain ⟨res, hres⟩ : ∃ res, (Router.mk store ⟨defaultP0Rules⟩).route P F 0 localNode
      ⟨{ classification := .restricted }, "contract-review", "local", 1⟩ = .ok res :=
    route_eq_ok 0 (by decide)
  refine ⟨P, F, store, res, hres, ?_, hfind, rfl⟩
  obtain ⟨-, -, hbinds⟩ := route_binds hres
  have hfb : (Router.mk store ⟨defaultP0Rules⟩).fallback localNode = some publicFallback := by
    have hne : "public.openai-compat" ≠ "" := by decide
    simp only [Router.fallback, localNode, if_neg hne, hfind]
  cases hbinds with
  | candidate m hm hok hallowed hid hman =>
    obtain rfl : m = publicFallback := by simpa [hrows] using hm
    exact absurd hok (by decide)
  | fallback m hnone hm hid hman =>
    obtain rfl : publicFallback = m := Option.some.inj (hfb.symm.trans hm)
    exact hid
  | nothing hnone hnofb hid hman =>
    rw [hfb] at hnofb
    cases hnofb

end Router

end Orchestra
