import Orchestra.Publishing.CardLifecycle
import Orchestra.Publishing.KillSwitch

/-!
# Withdrawn cards

A card is withdrawn when it is deprecated or revoked. A card may go back from revoked to deprecated,
but not from there to published: the calls that publish do not replace a card that is stored. Both
ways in look a card up in the registry and ask that it is published, so that a withdrawn card stays
out, whether a call names its version or takes the current one (`withdrawal_final`).
-/

namespace Orchestra

namespace PublishedRegistry

open Transition

/-- The card is deprecated or revoked. -/
def Withdrawn (key : String × String) (r : PublishedRegistry) : Prop :=
  ∃ status, r.statusOf key = some status ∧ .deprecated ≤ status

/-- The call deprecates or revokes the card. -/
def WithdrawnBy (r : PublishedRegistry) (capabilityId version : String) (call : Call) : Prop :=
  (call = .deprecateVersion capabilityId version ∧
      ∃ card, (deprecateVersion r capabilityId version).2 = .ok card) ∨
    ∃ now reason, call = .revoke now capabilityId version reason ∧
      ∃ card, (revoke r now capabilityId version reason).2 = .ok card

/-- No call gets the card, and none publishes it. -/
structure Closed (P : Primitives) (R : TokenReader) (tokenKey : List UInt8)
    (r : PublishedRegistry) (key : String × String) : Prop where
  ingress : ∀ capabilityId version token card bt,
    Ingress.admitCall P R tokenKey r capabilityId version token = .ok (card, bt) → card.key ≠ key
  killSwitch : ∀ (s : KillSwitch) capabilityId version card,
    s.admitCall r capabilityId version = .ok card → card.key ≠ key
  publish : ∀ card k kid, card.key = key → ∃ e, publish P r card k kid = (r, .error e)
  publishNewVersion : ∀ card k kid, card.key = key →
    ∃ e, publishNewVersion P r card k kid = (r, .error e)

section

variable {P : Primitives} {r : PublishedRegistry} {key : String × String}
  {capabilityId version : String} {card : AgentCard} {call : Call}

theorem statusOf_ne_none_of_deprecateVersion
    (h : (deprecateVersion r capabilityId version).2 = .ok card) :
    r.statusOf (capabilityId, version) ≠ none := by
  rw [deprecateVersion] at h
  split at h
  · cases h
  · next e he => simp [statusOf, he]

theorem statusOf_ne_none_of_revoke {now : ℕ} {reason : String}
    (h : (revoke r now capabilityId version reason).2 = .ok card) :
    r.statusOf (capabilityId, version) ≠ none := by
  rw [revoke] at h
  split at h
  · cases h
  · next e he => simp [statusOf, he]

/-- A deprecation or a revocation withdraws the card. -/
theorem withdrawn_of_withdrawnBy (h : WithdrawnBy r capabilityId version call) :
    Withdrawn (capabilityId, version) (step P r call) := by
  rcases h with ⟨rfl, card, hcard⟩ | ⟨now, reason, rfl, card, hcard⟩
  · obtain ⟨status, hstatus⟩ := Option.ne_none_iff_exists'.mp
      (statusOf_ne_none_of_deprecateVersion hcard)
    refine ⟨.deprecated, ?_, le_rfl⟩
    rw [step, statusOf_deprecateVersion, if_pos rfl, hstatus]
    rfl
  · obtain ⟨status, hstatus⟩ := Option.ne_none_iff_exists'.mp (statusOf_ne_none_of_revoke hcard)
    refine ⟨.revoked, ?_, CardStatus.le_revoked _⟩
    rw [step, statusOf_revoke, if_pos rfl, hstatus]
    rfl

/-- **One call** does not bring a withdrawn card back. -/
theorem Withdrawn.step (call : Call) (h : Withdrawn key r) :
    Withdrawn key (PublishedRegistry.step P r call) := by
  obtain ⟨status, hstatus, hle⟩ := h
  cases call with
  | publish card k kid => exact ⟨status, statusOf_publish hstatus card k kid, hle⟩
  | publishNewVersion card k kid =>
    exact ⟨status, statusOf_publishNewVersion hstatus card k kid, hle⟩
  | deprecateVersion capabilityId version =>
    rw [PublishedRegistry.step, Withdrawn, statusOf_deprecateVersion, hstatus]
    split_ifs with hkey
    · exact ⟨.deprecated, rfl, le_rfl⟩
    · exact ⟨status, rfl, hle⟩
  | revoke now capabilityId version reason =>
    rw [PublishedRegistry.step, Withdrawn, statusOf_revoke, hstatus]
    split_ifs with hkey
    · exact ⟨.revoked, rfl, CardStatus.le_revoked _⟩
    · exact ⟨status, rfl, hle⟩

/-- A published card that is looked up is not a withdrawn one. -/
theorem Withdrawn.ne_of_get {v : Option String} (h : Withdrawn key r)
    (hget : r.get capabilityId v = .ok card) (hpublished : card.status = .published) :
    card.key ≠ key := by
  rintro rfl
  obtain ⟨status, hstatus, hle⟩ := h
  rw [statusOf_of_get hget, hpublished] at hstatus
  obtain rfl := Option.some.inj hstatus
  exact absurd hle (by decide)

theorem Withdrawn.not_canPublish {k : Option (List UInt8)} {kid : Option String}
    (h : Withdrawn card.key r) : ¬CanPublish r card k kid := by
  intro hcan
  obtain ⟨status, hstatus, -⟩ := h
  rw [statusOf, hcan.2.1] at hstatus
  cases hstatus

theorem Withdrawn.closed {R : TokenReader} {tokenKey : List UInt8} (h : Withdrawn key r) :
    Closed P R tokenKey r key where
  ingress capabilityId version token card bt hadmit := by
    have hclears := Ingress.admitCall_eq_ok_iff.mp hadmit
    exact h.ne_of_get hclears.found hclears.published
  killSwitch s capabilityId version card hadmit := by
    obtain ⟨-, hget, hpublished⟩ := KillSwitch.admitCall_eq_ok_iff.mp hadmit
    exact h.ne_of_get hget hpublished
  publish card k kid hkey := publish_of_not (hkey ▸ h).not_canPublish
  publishNewVersion card k kid hkey := publishNewVersion_of_not (hkey ▸ h).not_canPublish

end

/-- **Withdrawal is final.** After a card has been deprecated or revoked, whatever is called
afterwards, no call gets it and none publishes it. -/
theorem withdrawal_final (P : Primitives) (R : TokenReader) (tokenKey : List UInt8)
    (r : PublishedRegistry) (pre : List Call) (call : Call) (post : List Call)
    (capabilityId version : String)
    (h : WithdrawnBy (run (step P) r pre) capabilityId version call) :
    Closed P R tokenKey (run (step P) r (pre ++ call :: post)) (capabilityId, version) := by
  have hcall : Withdrawn (capabilityId, version) (step P (run (step P) r pre) call) :=
    withdrawn_of_withdrawnBy h
  have hpost : Withdrawn (capabilityId, version) (run (step P) r (pre ++ call :: post)) := by
    rw [run_append, run_cons]
    exact run_invariant (fun _ call' ↦ Withdrawn.step call') hcall post
  exact hpost.closed

/-- The card of `deprecatedLate` is revoked, and deprecated after that. -/
theorem closed_deprecatedLate :
    Closed Ingress.partnerPrimitives Ingress.otherReader [7]
      (run (step Ingress.partnerPrimitives)
        { defaultKey := some [7], defaultKid := some "signer-1" } deprecatedLate)
      ("pub.translate", "1.0.0") :=
  withdrawal_final _ _ _ _ (deprecatedLate.take 1) (.revoke 0 "pub.translate" "1.0.0" "leak")
    (deprecatedLate.drop 2) _ _ (Or.inr ⟨0, "leak", rfl, _, rfl⟩)

end PublishedRegistry

end Orchestra
