import Mathlib.Algebra.Order.BigOperators.Group.List
import Mathlib.Data.List.Find
import Orchestra.Coordinator.EngineCalls

/-!
# The budget of a run

The planning loop hands the router what is left of the budget and subtracts the cost estimate of
what it chooses. The budget rule of the default bundle compares what is left with zero, and not with
the cost of the candidate, and the fallback is not put to the policy at all. So while the budget is
not negative the choice does not depend on it (`chosen_eq_unbudgeted`), and a run stays within its
budget exactly when what is chosen without regard to the budget costs no more than that
(`withinBudget_iff`).
-/

namespace Orchestra

namespace Policy

instance (node : NodeSpec) (label : SecurityLabel) (region : String) (c : CapabilityManifest) :
    Decidable (Secure node label region c) :=
  decidable_of_iff
    (¬(label.classification = .restricted ∧ c.kind = .publicModel) ∧
      ¬(label.classification = .internal ∧ c.kind = .publicModel ∧
        node.nodeId ≠ "public_research") ∧
      (∀ e ∈ c.declaredEffects, ∃ n ∈ node.declaredEffects, n.kind = e.kind) ∧
      (label.residency = "local" ∨ label.residency = "public" ∨ label.residency = region))
    ⟨fun h ↦ ⟨h.1, h.2.1, h.2.2.1, h.2.2.2⟩,
      fun h ↦ ⟨h.restricted, h.internal, h.effects, h.residency⟩⟩

end Policy

namespace Router

/-- The capability for a node without regard to cost: the candidate ranked best among those the
security rules let through, or the registered fallback. -/
def unbudgeted (F : FloatModel) (router : Router) (node : NodeSpec) (label : SecurityLabel)
    (region : String) : String :=
  match (rankedCandidates F node router.store).find? fun e ↦
      decide (Policy.Secure node label region e.manifest) with
  | some e => e.capabilityId
  | none => ((router.fallback node).map CapabilityManifest.capabilityId).getD ""

/-- The cost estimate of the capability with this id, when it is registered. -/
def costOf (router : Router) (capabilityId : String) : ℚ :=
  match router.store.find? capabilityId with
  | some m => m.costEstimateUsd
  | none => 0

variable {F : FloatModel} {router : Router}

/-- **The budget decides nothing** while it is not negative. -/
theorem chosen_eq_unbudgeted (hrules : router.policy = ⟨Policy.defaultP0Rules⟩) (node : NodeSpec)
    (q : Query) (hbudget : 0 ≤ q.budgetRemainingUsd) :
    router.chosen F node q = router.unbudgeted F node q.dataLabel q.region := by
  have hwinner : router.winner F node q = (rankedCandidates F node router.store).find? fun e ↦
      decide (Policy.Secure node q.dataLabel q.region e.manifest) := by
    rw [winner]
    refine List.find?_congr fun e he ↦ ?_
    obtain ⟨m, -, hok, rfl⟩ := mem_rankedCandidates.mp he
    have hkind : (eligibleEntry F m).manifest.kind ∈ node.eligibleCapabilityKinds := by
      rw [isEligible, Bool.and_eq_true, Bool.and_eq_true] at hok
      exact of_decide_eq_true hok.1.1
    rw [decide_eq_decide, Allowed, hrules]
    exact Policy.decide_defaultP0Rules.trans (and_iff_left ⟨hkind, hbudget⟩)
  exact congrArg (fun winner : Option EligibleEntry ↦ match winner with
    | some e => e.capabilityId
    | none => ((router.fallback node).map CapabilityManifest.capabilityId).getD "") hwinner

theorem costOf_nonneg (hcosts : ∀ m ∈ router.store.rows, 0 ≤ m.costEstimateUsd)
    (capabilityId : String) : 0 ≤ router.costOf capabilityId := by
  rw [costOf]
  cases hfind : router.store.find? capabilityId with
  | some m => exact hcosts m (KeyedTable.mem_of_find? hfind)
  | none => exact le_refl 0

end Router

namespace Engine

open Interaction

/-! ## Staying within the budget -/

/-- The router is not called, or what it chose costs no more than what was left. -/
def affords (cfg : Config) : RunStep → Bool
  | ⟨.route _ q, .ok res⟩ =>
    decide (cfg.router.costOf res.decision.chosenCapabilityId ≤ q.budgetRemainingUsd)
  | _ => true

/-- The cost estimates of the capabilities the nodes of a plan are bound to. -/
def planCost (cfg : Config) (plan : ExecutionPlan) : ℚ :=
  (plan.nodes.map fun n ↦ cfg.router.costOf n.capabilityId).sum

/-- Every capability that was chosen cost no more than what was left when it was, and those of the
plan cost no more than the budget. -/
structure WithinBudget (cfg : Config) (budgetUsd : ℚ) (t : RunTrace) : Prop where
  routed : ∀ s ∈ t, affords cfg s = true
  total : ∀ plan, signedPlan t = some plan → planCost cfg plan ≤ budgetUsd

/-- What a node costs without regard to the budget. -/
def nodeCost (cfg : Config) (label : SecurityLabel) (spec : NodeSpec) : ℚ :=
  cfg.router.costOf (if spec.requiresApproval then "human.approver"
    else cfg.router.unbudgeted cfg.F spec label "local")

/-- What the nodes cost. -/
def nodesCost (cfg : Config) (label : SecurityLabel) (specs : List NodeSpec) : ℚ :=
  (specs.map (nodeCost cfg label)).sum

/-- What those of the nodes cost that are routed. -/
def routedCost (cfg : Config) (label : SecurityLabel) (specs : List NodeSpec) : ℚ :=
  nodesCost cfg label (specs.filter fun spec ↦ !spec.requiresApproval)

/-- The assumptions: the default bundle, exact arithmetic, and cost estimates that are not
negative. -/
structure ExactlyPriced (cfg : Config) : Prop where
  rules : cfg.router.policy = ⟨Policy.defaultP0Rules⟩
  exact : ∀ x, cfg.F.round x = x
  costs : ∀ m ∈ cfg.router.store.rows, 0 ≤ m.costEstimateUsd

variable {cfg : Config} {a : RunArgs} {taskRunId : String} {t : RunTrace} {s : RunStep}
  {label : SecurityLabel} {specs : List NodeSpec} {budget : ℚ}

section Costs

variable (h : ExactlyPriced cfg)

include h

theorem nodesCost_nonneg (label : SecurityLabel) (specs : List NodeSpec) :
    0 ≤ nodesCost cfg label specs := by
  refine List.sum_nonneg fun x hx ↦ ?_
  obtain ⟨spec, -, rfl⟩ := List.mem_map.mp hx
  exact Router.costOf_nonneg h.costs _

theorem routedCost_le (label : SecurityLabel) (specs : List NodeSpec) :
    routedCost cfg label specs ≤ nodesCost cfg label specs := by
  refine List.Sublist.sum_le_sum (List.filter_sublist.map _) fun x hx ↦ ?_
  obtain ⟨spec, -, rfl⟩ := List.mem_map.mp hx
  exact Router.costOf_nonneg h.costs _

/-- What is left after a choice. -/
theorem remainingBudget_eq (decision : RoutingDecision) : remainingBudget cfg budget decision
    = budget - cfg.router.costOf decision.chosenCapabilityId := by
  rw [remainingBudget, Router.costOf, ManifestStore.get]
  cases cfg.router.store.find? decision.chosenCapabilityId with
  | some m => exact h.exact _
  | none => exact (sub_zero _).symm

end Costs

/-! ## The planning loop -/

/-- What the router replies is what it chooses. -/
def RepliesChosen (cfg : Config) (s : RunStep) : Prop :=
  ∀ node q res, s = ⟨.route node q, .ok res⟩ →
    res.decision.chosenCapabilityId = cfg.router.chosen cfg.F node q

/-- All choices of the trace were afforded. -/
def Afforded (cfg : Config) (t : RunTrace) : Prop := ∀ s ∈ t, affords cfg s = true

theorem afforded_concat : Afforded cfg (t ++ [s]) ↔ Afforded cfg t ∧ affords cfg s = true := by
  simp [Afforded, or_imp, forall_and]

/-- The cost of the capabilities of the bindings. -/
def bindingsCost (cfg : Config) (bindings : List ContractReview.Binding) : ℚ :=
  (bindings.map fun b ↦ cfg.router.costOf b.capabilityId).sum

theorem routedCost_cons (spec : NodeSpec) (specs : List NodeSpec) :
    routedCost cfg label (spec :: specs) =
      (if spec.requiresApproval then 0 else nodeCost cfg label spec)
        + routedCost cfg label specs := by
  cases happroval : spec.requiresApproval <;> simp [routedCost, nodesCost, happroval]

section Planning

variable (h : ExactlyPriced cfg)

include h

/-- What is replied to the call for a node that is routed, when there is budget left. -/
theorem cost_of_reply (hbudget : 0 ≤ budget) {spec : NodeSpec}
    (happroval : ¬spec.requiresApproval = true) {purpose : String} {res : RoutingResult}
    (hs : RepliesChosen cfg ⟨.route spec ⟨label, purpose, "local", budget⟩, .ok res⟩) :
    cfg.router.costOf res.decision.chosenCapabilityId = nodeCost cfg label spec := by
  rw [hs _ _ _ rfl, Router.chosen_eq_unbudgeted h.rules _ _ hbudget, nodeCost, if_neg happroval]

/-- **Within the budget** every choice is afforded, and the bindings cost what the nodes cost. -/
theorem planNodes_afforded (specs : List NodeSpec) (hcost : routedCost cfg label specs ≤ budget) :
    Triple (fun _ ↦ RepliesChosen cfg) (Afforded cfg) (planNodes cfg label specs budget)
      (fun r t ↦ bindingsCost cfg r.2 = nodesCost cfg label specs ∧ Afforded cfg t)
      fun _ ↦ Afforded cfg := by
  induction specs generalizing budget with
  | nil => exact Triple.ret fun t ht ↦ ⟨rfl, ht⟩
  | cons spec specs ih =>
    rw [routedCost_cons] at hcost
    have hrest : 0 ≤ routedCost cfg label specs := nodesCost_nonneg h _ _
    rw [planNodes]
    split
    · next happroval =>
      rw [if_pos happroval, zero_add] at hcost
      refine (ih hcost).bind fun rest ↦ Triple.ret fun t ht ↦ ⟨?_, ht.2⟩
      rw [bindingsCost, List.map_cons, List.sum_cons, ← bindingsCost, ht.1, nodesCost, nodesCost,
        List.map_cons, List.sum_cons, nodeCost, if_pos happroval]
    · next happroval =>
      rw [if_neg happroval] at hcost
      have hspec : 0 ≤ nodeCost cfg label spec := Router.costOf_nonneg h.costs _
      refine Triple.bind (Q := fun res t ↦ cfg.router.costOf res.decision.chosenCapabilityId
        = nodeCost cfg label spec ∧ Afforded cfg t) ?_ fun res ↦ Triple.of_pure fun hres ↦ ?_
      · refine Triple.perform (fun t res ht hA ↦ ?_) fun t e ht _ ↦
          afforded_concat.mpr ⟨ht, rfl⟩
        have hres := cost_of_reply h (by linarith) happroval hA
        refine ⟨hres, afforded_concat.mpr ⟨ht, decide_eq_true ?_⟩⟩
        rw [hres]
        linarith
      · rw [remainingBudget_eq h, hres]
        refine (ih (by linarith)).bind fun rest ↦ Triple.ret fun t ht ↦ ⟨?_, ht.2⟩
        rw [bindingsCost, List.map_cons, List.sum_cons, ← bindingsCost, ht.1, hres, nodesCost,
          nodesCost, List.map_cons, List.sum_cons]

/-- **Beyond the budget** some choice is not afforded. -/
theorem planNodes_overspends (specs : List NodeSpec) (hbudget : 0 ≤ budget)
    (hcost : ¬routedCost cfg label specs ≤ budget) :
    Triple (fun _ ↦ RepliesChosen cfg) (fun _ ↦ True) (planNodes cfg label specs budget)
      (fun _ t ↦ ¬Afforded cfg t) fun _ _ ↦ True := by
  induction specs generalizing budget with
  | nil => exact absurd hbudget hcost
  | cons spec specs ih =>
    rw [routedCost_cons] at hcost
    rw [planNodes]
    split
    · next happroval =>
      rw [if_pos happroval, zero_add] at hcost
      exact (ih hbudget hcost).bind fun rest ↦ Triple.ret fun t ht ↦ ht
    · next happroval =>
      rw [if_neg happroval] at hcost
      refine Triple.bind (Q := fun res t ↦ cfg.router.costOf res.decision.chosenCapabilityId
        = nodeCost cfg label spec ∧ (¬nodeCost cfg label spec ≤ budget → ¬Afforded cfg t)) ?_
        fun res ↦ Triple.of_pure fun hres ↦ ?_
      · refine Triple.perform (fun t res _ hA ↦ ?_) fun _ _ _ _ ↦ trivial
        have hres := cost_of_reply h hbudget happroval hA
        refine ⟨hres, fun hover hafforded ↦ hover ?_⟩
        have haffords := of_decide_eq_true (afforded_concat.mp hafforded).2
        rwa [hres] at haffords
      · rw [remainingBudget_eq h, hres]
        by_cases hover : nodeCost cfg label spec ≤ budget
        · refine ((ih (by linarith) (by linarith)).conseq (fun _ _ ↦ trivial) (fun _ _ ht ↦ ht)
            fun _ _ _ ↦ trivial).bind fun rest ↦ Triple.ret fun t ht ↦ ht
        · -- a choice that was not afforded stays in the trace
          have hcalls : Calls (fun _ ↦ True)
              (planNodes cfg label specs (budget - nodeCost cfg label spec)) :=
            calls_planNodes specs _ fun _ _ ↦ trivial
          have hkeep : Triple (fun _ ↦ RepliesChosen cfg) (fun t ↦ ¬Afforded cfg t)
              (planNodes cfg label specs (budget - nodeCost cfg label spec))
              (fun _ t ↦ ¬Afforded cfg t) fun _ t ↦ ¬Afforded cfg t :=
            Triple.of_calls hcalls fun t s _ _ ht hts ↦ ht (afforded_concat.mp hts).1
          refine (hkeep.conseq (fun t ht ↦ ht hover) (fun _ _ ht ↦ ht)
            fun _ _ _ ↦ trivial).bind fun rest ↦ Triple.ret fun t ht ↦ ht

end Planning

/-! ## The run -/

/-- The call neither routes nor signs. -/
def Cmd.beside : Cmd → Bool
  | .route _ _ | .signPlan _ => false
  | _ => true

def Cmd.Beside (c : Cmd) : Prop := c.beside = true

theorem Cmd.Ends.beside {c : Cmd} (h : c.Ends taskRunId) : c.Beside := by
  cases c with
  | route node q => rcases h with h | ⟨_, h⟩ <;> cases h
  | signPlan plan => rcases h with h | ⟨_, h⟩ <;> cases h
  | _ => rfl

theorem affords_of_beside (hs : s.cmd.Beside) : affords cfg s = true := by
  obtain ⟨c, r⟩ := s
  cases c with
  | route node q => cases hs
  | _ => rfl

theorem signed?_of_beside (hs : s.cmd.Beside) : signed? s = none := by
  obtain ⟨c, r⟩ := s
  cases c with
  | signPlan plan => cases hs
  | _ => rfl

/-- Such calls show neither in what was afforded nor in what was signed. -/
theorem beside_keeps {α : Type} {p : Prog α} {A : RunTrace → RunStep → Prop}
    (X : Prop → Option ExecutionPlan → Prop) (hp : Calls Cmd.Beside p) :
    Triple A (fun t ↦ X (Afforded cfg t) (signedPlan t)) p
      (fun _ t ↦ X (Afforded cfg t) (signedPlan t)) fun _ t ↦ X (Afforded cfg t) (signedPlan t) := by
  refine Triple.of_calls hp fun t s hs _ ht ↦ ?_
  have hafforded : Afforded cfg (t ++ [s]) = Afforded cfg t :=
    propext (afforded_concat.trans (and_iff_left (affords_of_beside hs)))
  rwa [hafforded, signedPlan_concat, signed?_of_beside hs, Option.or_none]

/-- Nothing is signed, and `Z` is what is known of the choices. -/
def Unsigned (cfg : Config) (Z : Prop → Prop) (t : RunTrace) : Prop :=
  Z (Afforded cfg t) ∧ signedPlan t = none

/-- `Z` is what is known of the choices, and the signed plan has bindings with `Y`. -/
def Priced (cfg : Config) (Z : Prop → Prop) (Y : List ContractReview.Binding → Prop → Prop)
    (t : RunTrace) : Prop :=
  Z (Afforded cfg t) ∧ ∀ plan, signedPlan t = some plan →
    ∃ b, Y b (Afforded cfg t) ∧ planCost cfg plan = bindingsCost cfg b

section Run

variable {A : RunTrace → RunStep → Prop} {Z : Prop → Prop}
  {Y : List ContractReview.Binding → Prop → Prop}

theorem Unsigned.priced (h : Unsigned cfg Z t) : Priced cfg Z Y t := by
  refine ⟨h.1, fun plan hsigned ↦ ?_⟩
  rw [h.2] at hsigned
  cases hsigned

theorem unsigned_of_beside {α : Type} {p : Prog α} (hp : Calls Cmd.Beside p) :
    Triple A (Unsigned cfg Z) p (fun _ ↦ Unsigned cfg Z) fun _ ↦ Priced cfg Z Y :=
  (beside_keeps (fun x signed ↦ Z x ∧ signed = none) hp).post_error fun _ _ ht ↦
    Unsigned.priced ht

theorem priced_of_beside {α : Type} {p : Prog α} (hp : Calls Cmd.Beside p) :
    Triple A (Priced cfg Z Y) p (fun _ ↦ Priced cfg Z Y) fun _ ↦ Priced cfg Z Y :=
  beside_keeps (fun x signed ↦ Z x ∧ ∀ plan, signed = some plan →
    ∃ b, Y b x ∧ planCost cfg plan = bindingsCost cfg b) hp

theorem beside_call {c : Cmd} (hc : c.beside = true) : Calls Cmd.Beside (call c) := calls_perform.mpr hc

theorem beside_emit {kind : EventKind} {payload : Dict} :
    Calls Cmd.Beside (emit cfg taskRunId none kind payload) :=
  executes_emit.mono fun _ hc ↦ Cmd.Ends.beside (Or.inl hc)

theorem unsigned_planNodes (label : SecurityLabel) (specs : List NodeSpec) (budget : ℚ) :
    Triple A (fun t ↦ signedPlan t = none) (planNodes cfg label specs budget)
      (fun _ t ↦ signedPlan t = none) fun _ t ↦ signedPlan t = none := by
  have hcalls : Calls (fun c ↦ ∀ plan, c ≠ .signPlan plan) (planNodes cfg label specs budget) :=
    calls_planNodes specs budget fun _ _ _ hc ↦ by cases hc
  refine Triple.of_calls hcalls fun t s hs _ ht ↦ ?_
  rw [signedPlan_concat, signed?_of_ne hs, Option.or_none, ht]

theorem planCost_build (planId now contractId : String) (routing : List RoutingDecision)
    (b : List ContractReview.Binding) : planCost cfg
      (ContractReview.buildContractReviewPlan planId now contractId routing b)
        = bindingsCost cfg b := by
  rw [planCost, bindingsCost, ContractReview.buildContractReviewPlan, List.map_map]
  rfl

/-- Signing a plan with these bindings. -/
theorem sign_priced (hYZ : ∀ b x, Y b x → Z x) {b : List ContractReview.Binding}
    {plan : ExecutionPlan} (hplan : planCost cfg plan = bindingsCost cfg b) :
    Triple A (Unsigned cfg (Y b)) (call (.signPlan plan)) (fun _ ↦ Priced cfg Z Y)
      fun _ ↦ Priced cfg Z Y := by
  have hafforded (t : RunTrace) (reply : Except Raised String) :
      Afforded cfg (t ++ [⟨.signPlan plan, reply⟩]) = Afforded cfg t :=
    propext (afforded_concat.trans (and_iff_left rfl))
  refine Triple.perform (fun t signature ht _ ↦ ?_) fun t e ht _ ↦ ?_
  · rw [Priced, hafforded, signedPlan_concat, ht.2]
    refine ⟨hYZ _ _ ht.1, fun plan' hsigned ↦ ⟨b, ht.1, ?_⟩⟩
    obtain rfl : plan = plan' := Option.some.inj hsigned
    exact hplan
  · rw [Priced, hafforded, signedPlan_concat, ht.2]
    exact ⟨hYZ _ _ ht.1, by rintro plan' ⟨⟩⟩

theorem buildPlan_priced (hYZ : ∀ b x, Y b x → Z x)
    (hplan : Triple A (fun t ↦ Z (Afforded cfg t))
      (planNodes cfg a.dataLabel ContractReview.template.nodes a.budgetUsd)
      (fun r t ↦ Y r.2 (Afforded cfg t)) fun _ t ↦ Z (Afforded cfg t)) :
    Triple A (Unsigned cfg Z) (buildPlan cfg a) (fun _ ↦ Priced cfg Z Y)
      fun _ ↦ Priced cfg Z Y := by
  refine ((hplan.and (unsigned_planNodes _ _ _)).post_error
    fun _ t ht ↦ Unsigned.priced ht).bind fun r ↦ ?_
  have hkeep {c : Cmd} (hc : c.beside = true) : Triple A (Unsigned cfg (Y r.2)) (call c)
      (fun _ ↦ Unsigned cfg (Y r.2)) fun _ ↦ Priced cfg Z Y :=
    (beside_keeps (fun x signed ↦ Y r.2 x ∧ signed = none) (beside_call hc)).post_error
      fun _ t ht ↦ Unsigned.priced ⟨hYZ _ _ ht.1, ht.2⟩
  refine (hkeep rfl).bind fun planId ↦ ?_
  refine (hkeep rfl).bind fun now ↦ ?_
  exact (sign_priced hYZ (planCost_build _ _ _ _ _)).bind fun signature ↦
    Triple.ret fun t ht ↦ ht

theorem planTask_priced (hYZ : ∀ b x, Y b x → Z x)
    (hplan : Triple A (fun t ↦ Z (Afforded cfg t))
      (planNodes cfg a.dataLabel ContractReview.template.nodes a.budgetUsd)
      (fun r t ↦ Y r.2 (Afforded cfg t)) fun _ t ↦ Z (Afforded cfg t)) :
    Triple A (Unsigned cfg Z) (planTask cfg a) (fun _ ↦ Priced cfg Z Y)
      fun _ ↦ Priced cfg Z Y := by
  refine (unsigned_of_beside (beside_call rfl)).bind fun _ ↦ ?_
  refine (unsigned_of_beside beside_emit).bind fun _ ↦ ?_
  refine (buildPlan_priced hYZ hplan).bind fun plan ↦ ?_
  refine (priced_of_beside (beside_call rfl)).bind fun _ ↦ ?_
  refine (priced_of_beside beside_emit).bind fun _ ↦ ?_
  exact (priced_of_beside beside_emit).bind fun _ ↦ Triple.ret fun t ht ↦ ht

/-- **From the planning loop to the run.** Where the loop leaves `Y`, it holds of the bindings of
the signed plan to the end of the run. -/
theorem run_priced (hYZ : ∀ b x, Y b x → Z x)
    (hplan : Triple A (fun t ↦ Z (Afforded cfg t))
      (planNodes cfg a.dataLabel ContractReview.template.nodes a.budgetUsd)
      (fun r t ↦ Y r.2 (Afforded cfg t)) fun _ t ↦ Z (Afforded cfg t)) (hstart : Z True) :
    Triple A (· = []) (run cfg a) (fun _ ↦ Priced cfg Z Y) fun _ ↦ Priced cfg Z Y := by
  have hrun : Triple A (Unsigned cfg Z) (run cfg a) (fun _ ↦ Priced cfg Z Y)
      fun _ ↦ Priced cfg Z Y := by
    refine (unsigned_of_beside (calls_ofExcept _)).bind fun _ ↦ ?_
    refine (unsigned_of_beside (beside_call rfl)).bind fun _ ↦ ?_
    refine (planTask_priced hYZ hplan).bind fun plan ↦ ?_
    exact priced_of_beside (ends_execution.mono fun _ hc ↦ hc.beside)
  refine hrun.conseq (fun t ht ↦ ?_) (fun _ _ ht ↦ ht) fun _ _ ht ↦ ht
  subst ht
  have htrue : Afforded cfg [] = True := propext (iff_of_true (by rintro s ⟨⟩) trivial)
  exact ⟨htrue ▸ hstart, rfl⟩

end Run

theorem machine_repliesChosen {env : Env taskRunId} {w : World} (c : Cmd) :
    RepliesChosen cfg ⟨c, (machine cfg env w t c).1⟩ := by
  generalize hr : (machine cfg env w t c).1 = r
  rintro node q res ⟨⟩
  have hroute : cfg.router.route cfg.P cfg.F (env.utcNow t) node q = .ok res := answer_of_ok hr
  exact Router.chosen_of_route hroute

theorem execRun_priced (env : Env a.taskRunId) (w : World) {Z : Prop → Prop}
    {Y : List ContractReview.Binding → Prop → Prop} (hYZ : ∀ b x, Y b x → Z x)
    (hplan : Triple (fun _ ↦ RepliesChosen cfg) (fun t ↦ Z (Afforded cfg t))
      (planNodes cfg a.dataLabel ContractReview.template.nodes a.budgetUsd)
      (fun r t ↦ Y r.2 (Afforded cfg t)) fun _ t ↦ Z (Afforded cfg t)) (hstart : Z True) :
    Priced cfg Z Y (execRun cfg a env w).trace := by
  have hrun : Triple (fun _ s ↦ RepliesChosen cfg s ∧ True) (· = []) (run cfg a)
      (fun _ ↦ Priced cfg Z Y) fun _ ↦ Priced cfg Z Y :=
    (run_priced hYZ hplan hstart).restrict fun _ _ hA ↦ hA.1
  exact of_ending (exec_of_triple (I := fun _ _ ↦ True)
    (fun _ _ c _ ↦ ⟨trivial, machine_repliesChosen c⟩) hrun trivial rfl fun _ _ _ _ ↦ trivial)

/-- **When a run stays within its budget.** Under the default bundle and with exact arithmetic,
every run does if the capabilities chosen without regard to the budget cost no more than it, and a
run that signs a plan does only if they do. -/
theorem withinBudget_iff (cfg : Config) (a : RunArgs) (env : Env a.taskRunId) (w : World)
    (h : ExactlyPriced cfg) (hbudget : 0 ≤ a.budgetUsd) :
    (nodesCost cfg a.dataLabel ContractReview.template.nodes ≤ a.budgetUsd →
      WithinBudget cfg a.budgetUsd (execRun cfg a env w).trace) ∧
    ((signedPlan (execRun cfg a env w).trace).isSome = true →
      (WithinBudget cfg a.budgetUsd (execRun cfg a env w).trace ↔
        nodesCost cfg a.dataLabel ContractReview.template.nodes ≤ a.budgetUsd)) := by
  by_cases hrouted : routedCost cfg a.dataLabel ContractReview.template.nodes ≤ a.budgetUsd
  · have hpriced := execRun_priced env w (Z := fun x ↦ x)
      (Y := fun b x ↦ bindingsCost cfg b =
        nodesCost cfg a.dataLabel ContractReview.template.nodes ∧ x)
      (fun _ _ hY ↦ hY.2) (planNodes_afforded h _ hrouted) trivial
    have htotal (plan : ExecutionPlan)
        (hplan : signedPlan (execRun cfg a env w).trace = some plan) :
        planCost cfg plan = nodesCost cfg a.dataLabel ContractReview.template.nodes := by
      obtain ⟨b, ⟨hcost, -⟩, hb⟩ := hpriced.2 plan hplan
      rw [hb, hcost]
    have hwithin (hcost : nodesCost cfg a.dataLabel ContractReview.template.nodes ≤ a.budgetUsd) :
        WithinBudget cfg a.budgetUsd (execRun cfg a env w).trace :=
      ⟨hpriced.1, fun plan hplan ↦ (htotal plan hplan).trans_le hcost⟩
    refine ⟨hwithin, fun hsigned ↦ ⟨fun hw ↦ ?_, hwithin⟩⟩
    obtain ⟨plan, hplan⟩ := Option.isSome_iff_exists.mp hsigned
    exact (htotal plan hplan).symm.trans_le (hw.total plan hplan)
  · have hover : ¬nodesCost cfg a.dataLabel ContractReview.template.nodes ≤ a.budgetUsd :=
      fun hcost ↦ hrouted ((routedCost_le h _ _).trans hcost)
    refine ⟨fun hcost ↦ absurd hcost hover, fun hsigned ↦ iff_of_false (fun hw ↦ ?_) hover⟩
    obtain ⟨plan, hplan⟩ := Option.isSome_iff_exists.mp hsigned
    have hpriced := execRun_priced env w (Z := fun _ ↦ True) (Y := fun _ x ↦ ¬x)
      (fun _ _ _ ↦ trivial) (planNodes_overspends h _ hbudget hrouted) trivial
    obtain ⟨-, hnot, -⟩ := hpriced.2 plan hplan
    exact hnot hw.routed

theorem exactlyPriced_sampleConfig : ExactlyPriced (sampleConfig sampleAdapters) where
  rules := rfl
  exact _ := rfl
  costs := by decide

/-- The capabilities of the sample cost nothing. -/
theorem withinBudget_iff_sample :
    WithinBudget (sampleConfig sampleAdapters) sampleArgs.budgetUsd
      (sampleRun sampleAdapters fun _ _ ↦ none).trace :=
  (withinBudget_iff (sampleConfig sampleAdapters) sampleArgs (sampleEnv fun _ _ ↦ none) {}
    exactlyPriced_sampleConfig (by decide)).1 (by decide +kernel)

/-- The store of the sample, with a sink that costs five dollars. -/
def costlyStore : ManifestStore :=
  ⟨[sampleManifest "local.alternative" .localModel [{ kind := .read }],
    sampleManifest "local.contract-extractor" .localModel [{ kind := .read }],
    sampleManifest "public.openai-compat" .publicModel [{ kind := .read }],
    { sampleManifest "sink.mock-procurement" .sink [{ kind := .write }] with
      costEstimateUsd := 5 }], by decide⟩

def costlyConfig : Config :=
  { sampleConfig sampleAdapters with router := ⟨costlyStore, ⟨Policy.defaultP0Rules⟩⟩ }

section

set_option maxRecDepth 100000

theorem costly_facts : ((execRun costlyConfig sampleArgs (sampleEnv fun _ _ ↦ none) {}).trace.all
    (affords costlyConfig)) = false := by
  decide +kernel

/-- **A capability is chosen that costs more than the budget**: the sink for five dollars, with one
dollar left. -/
theorem not_withinBudget_costly : ¬∀ (cfg : Config) (a : RunArgs) (env : Env a.taskRunId)
    (w : World), ExactlyPriced cfg → 0 ≤ a.budgetUsd →
    WithinBudget cfg a.budgetUsd (execRun cfg a env w).trace := by
  intro hall
  have hpriced : ExactlyPriced costlyConfig := ⟨rfl, fun _ ↦ rfl, by decide⟩
  have hwithin := hall costlyConfig sampleArgs (sampleEnv fun _ _ ↦ none) {} hpriced (by decide)
  have hall' := List.all_eq_true.mpr hwithin.routed
  rw [costly_facts] at hall'
  cases hall'

end

end Engine

end Orchestra
