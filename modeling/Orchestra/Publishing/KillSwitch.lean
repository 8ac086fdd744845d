import Mathlib.Algebra.Order.Field.Rat
import Orchestra.Foundation.Transition
import Orchestra.Publishing.Ingress

/-!
# The kill switch

The switch is a flag with its own way in: while it is tripped, its `admit` turns every call down.
The ingress is the other way in, and it does not look at the switch.

So a surface is shut between a trip and the next reset exactly when the calls that come through the
ingress meanwhile are turned down by the checks of the ingress (`shut_iff`).
-/

namespace Orchestra

open Transition

/-- An item of the history of a switch. -/
inductive KillSwitchEvent where
  | trip (time : ℚ) (reason : String)
  | reset (time previousAt : ℚ)

/-- `KillSwitch`. -/
structure KillSwitch where
  trippedAt : Option ℚ := none
  reason : String := ""
  maxEffectSeconds : ℚ := 5
  history : List KillSwitchEvent := []

namespace KillSwitch

variable (s : KillSwitch)

/-- `trip`, when the clock shows `now`. -/
def trip (now : ℚ) (reason : String) : KillSwitch :=
  match s.trippedAt with
  | none =>
    { s with trippedAt := some now, reason := reason, history := s.history ++ [.trip now reason] }
  | some _ => s

def reset (now : ℚ) : KillSwitch :=
  { s with
    trippedAt := none
    reason := ""
    history :=
      match s.trippedAt with
      | some previousAt => s.history ++ [.reset now previousAt]
      | none => s.history }

def isTripped : Bool := s.trippedAt.isSome

def killSwitchTripped (text : String) : Raised := ⟨"KillSwitchTripped", text⟩

/-- `str(e)` of an error of the registry. -/
def errorText : PublishingError → String
  | .publishError message => message
  | .keyError message => pyRepr message

/-- `admit`. -/
def admitCall (registry : PublishedRegistry) (capabilityId : String) (version : Option String) :
    Except Raised AgentCard :=
  if s.isTripped then .error (killSwitchTripped ("kill switch tripped: " ++ s.reason))
  else
    match registry.get capabilityId version with
    | .error e => .error (killSwitchTripped (errorText e))
    | .ok card =>
      if card.status ≠ .published then
        .error (killSwitchTripped ("card " ++ card.cardId ++ " is " ++ card.status.value))
      else .ok card

section

variable {s} {registry : PublishedRegistry} {capabilityId : String} {version : Option String}
  {card : AgentCard}

/-- **The checks of the switch.** -/
theorem admitCall_eq_ok_iff : s.admitCall registry capabilityId version = .ok card ↔
    s.isTripped = false ∧ registry.get capabilityId version = .ok card ∧
      card.status = .published := by
  rw [admitCall]
  cases s.isTripped with
  | true => exact iff_of_false nofun nofun
  | false =>
    rw [if_neg Bool.false_ne_true, and_iff_right rfl]
    cases hget : registry.get capabilityId version with
    | error e => exact iff_of_false nofun nofun
    | ok card' =>
      dsimp only
      split_ifs with hstatus
      · refine iff_of_false nofun ?_
        rintro ⟨heq, hpublished⟩
        exact hstatus (Except.ok.inj heq ▸ hpublished)
      · constructor
        · intro h
          obtain rfl := Except.ok.inj h
          exact ⟨rfl, not_not.mp hstatus⟩
        · rintro ⟨heq, -⟩
          rw [Except.ok.inj heq]

theorem isTripped_trip (s : KillSwitch) (now : ℚ) (reason : String) :
    (s.trip now reason).isTripped = true := by
  rw [trip]
  cases h : s.trippedAt with
  | none => rfl
  | some t => simp [isTripped, h]

theorem isTripped_reset (s : KillSwitch) (now : ℚ) : (s.reset now).isTripped = false := rfl

end

end KillSwitch

/-! ## A publishing surface -/

/-- A registry with its switch. -/
structure Surface where
  registry : PublishedRegistry
  switch : KillSwitch := {}

namespace Surface

inductive Call where
  | trip (now : ℚ) (reason : String)
  | reset (now : ℚ)
  | switchAdmit (capabilityId : String) (version : Option String)
  | ingressAdmit (capabilityId : String) (version : Option String) (token : String)
  | onRegistry (call : PublishedRegistry.Call)

variable (P : Primitives) (R : TokenReader) (tokenKey : List UInt8)

def step (s : Surface) : Call → Surface
  | .trip now reason => { s with switch := s.switch.trip now reason }
  | .reset now => { s with switch := s.switch.reset now }
  | .switchAdmit _ _ | .ingressAdmit _ _ _ => s
  | .onRegistry call => { s with registry := s.registry.step P call }

/-- The call is one of a partner and is admitted. -/
def Admits (s : Surface) : Call → Prop
  | .switchAdmit capabilityId version =>
    ∃ card, s.switch.admitCall s.registry capabilityId version = .ok card
  | .ingressAdmit capabilityId version token =>
    ∃ admitted, Ingress.admitCall P R tokenKey s.registry capabilityId version token = .ok admitted
  | .trip _ _ | .reset _ | .onRegistry _ => False

/-- The last trip has not been reset. -/
def TrippedSince (calls : List Call) : Prop :=
  ∃ pre now reason mid, calls = pre ++ .trip now reason :: mid ∧ ∀ now, .reset now ∉ mid

/-- Between a trip and the next reset no call is admitted. -/
def Shut (registry : PublishedRegistry) (calls : List Call) : Prop :=
  ∀ pre call post, calls = pre ++ call :: post → TrippedSince pre →
    ¬Admits P R tokenKey (run (step P) { registry := registry } pre) call

/-- The condition on a call: while the switch is tripped, the ingress turns it down for a reason of
its own. -/
def TurnedDown (s : Surface) : Call → Prop
  | .ingressAdmit capabilityId version token => s.switch.isTripped →
    ¬∃ card bt, Ingress.Clears P R tokenKey s.registry capabilityId version token card bt
  | .trip _ _ | .reset _ | .switchAdmit _ _ | .onRegistry _ => True

section Runs

variable {P} {R} {tokenKey} {s : Surface} {call : Call}

theorem not_trippedSince_nil : ¬TrippedSince [] := by
  rintro ⟨pre, now, reason, mid, heq, -⟩
  exact List.append_ne_nil_of_right_ne_nil pre (List.cons_ne_nil _ mid) heq.symm

/-- A trip counts from then on, unless the call is a reset. -/
theorem trippedSince_concat {calls : List Call} : TrippedSince (calls ++ [call]) ↔
    (∃ now reason, call = .trip now reason) ∨ (∀ now, call ≠ .reset now) ∧ TrippedSince calls := by
  constructor
  · rintro ⟨pre, now, reason, mid, heq, hmid⟩
    rcases List.eq_nil_or_concat mid with rfl | ⟨mid', last, rfl⟩
    · obtain ⟨-, hlast⟩ := List.append_inj' heq rfl
      exact Or.inl ⟨now, reason, List.head_eq_of_cons_eq hlast⟩
    · have heq' : calls ++ [call] = (pre ++ .trip now reason :: mid') ++ [last] := by
        simpa using heq
      obtain ⟨rfl, hlast⟩ := List.append_inj' heq' rfl
      obtain rfl : call = last := List.head_eq_of_cons_eq hlast
      refine Or.inr ⟨?_, pre, now, reason, mid', rfl, fun t ht ↦ hmid t (by simp [ht])⟩
      rintro t rfl
      exact hmid t (by simp)
  · rintro (⟨now, reason, rfl⟩ | ⟨hreset, pre, now, reason, mid, rfl, hmid⟩)
    · exact ⟨calls, now, reason, [], rfl, by simp⟩
    · refine ⟨pre, now, reason, mid ++ [call], by simp, fun t ht ↦ ?_⟩
      rcases List.mem_append.mp ht with ht | ht
      · exact hmid t ht
      · exact hreset t (List.mem_singleton.mp ht).symm

/-- What a call does to the flag. -/
theorem isTripped_step (s : Surface) (call : Call) : (s.step P call).switch.isTripped = true ↔
    (∃ now reason, call = .trip now reason) ∨
      (∀ now, call ≠ .reset now) ∧ s.switch.isTripped = true := by
  cases call with
  | trip now reason => exact iff_of_true (s.switch.isTripped_trip now reason) (by simp)
  | reset now => exact iff_of_false (by simp [step, KillSwitch.isTripped_reset]) (by simp)
  | switchAdmit _ _ | ingressAdmit _ _ _ | onRegistry _ => simp [step]

/-- The flag says whether the last trip has been reset. -/
theorem isTripped_run_iff (registry : PublishedRegistry) (calls : List Call) :
    (run (step P) { registry := registry } calls).switch.isTripped = true ↔
      TrippedSince calls := by
  induction calls using List.reverseRecOn with
  | nil => exact iff_of_false Bool.false_ne_true not_trippedSince_nil
  | append_singleton calls call ih =>
    rw [run_append, run_cons, run_nil, isTripped_step, trippedSince_concat, ih]

/-- **The switch turns every call down** that comes to itself. -/
theorem not_admits_iff_of_tripped (h : s.switch.isTripped = true) :
    ¬Admits P R tokenKey s call ↔ TurnedDown P R tokenKey s call := by
  cases call with
  | trip _ _ | reset _ | onRegistry _ => exact iff_of_true not_false trivial
  | switchAdmit capabilityId version =>
    refine iff_of_true ?_ trivial
    rintro ⟨card, hcard⟩
    have hopen := (KillSwitch.admitCall_eq_ok_iff.mp hcard).1
    rw [h] at hopen
    cases hopen
  | ingressAdmit capabilityId version token =>
    rw [TurnedDown, imp_iff_right h, Admits, Prod.exists]
    simp only [Ingress.admitCall_eq_ok_iff]

end Runs

/-- **The surface is shut** between trips and resets exactly when the ingress turns down, for
reasons of its own, every call that it gets while the switch is tripped. -/
theorem shut_iff (registry : PublishedRegistry) (calls : List Call) :
    Shut P R tokenKey registry calls ↔
      AllSteps (step P) (TurnedDown P R tokenKey) { registry := registry } calls := by
  rw [allSteps_iff_forall_position, Shut]
  refine forall_congr' fun pre ↦ forall₃_congr fun call post _ ↦ ?_
  rw [← isTripped_run_iff (P := P) registry pre]
  constructor
  · intro h
    by_cases htripped : (run (step P) { registry := registry } pre).switch.isTripped = true
    · exact (not_admits_iff_of_tripped htripped).mp (h htripped)
    · cases call with
      | ingressAdmit capabilityId version token => exact fun h ↦ absurd h htripped
      | _ => trivial
  · exact fun h htripped ↦ (not_admits_iff_of_tripped htripped).mpr h

/-! ### A call after the trip -/

/-- The switch is tripped, and a partner calls. -/
def callAfterTrip : List Call :=
  [.trip 0 "leak", .ingressAdmit "pub.summarize" none Ingress.otherToken]

theorem ingress_ignores_switch : ¬∀ (P : Primitives) (R : TokenReader) (tokenKey : List UInt8)
    (registry : PublishedRegistry) (calls : List Call), Shut P R tokenKey registry calls := by
  intro hall
  refine hall Ingress.partnerPrimitives Ingress.otherReader [7] Ingress.partnerRegistry
    callAfterTrip [.trip 0 "leak"] (.ingressAdmit "pub.summarize" none Ingress.otherToken) [] rfl
    ⟨[], 0, "leak", [], rfl, by simp⟩ ?_
  exact ⟨_, Ingress.admitCall_eq_ok_iff.mpr Ingress.clears_otherToken⟩

end Surface

end Orchestra
