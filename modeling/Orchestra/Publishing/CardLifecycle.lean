import Mathlib.Order.Lattice
import Orchestra.Foundation.Transition
import Orchestra.Publishing.Registry

/-!
# The lifecycle of a card

A card moves forward from draft to published, deprecated and revoked. A publication does not touch
the cards that are stored, and a revocation takes a card to the end from wherever it is. A
deprecation does not look at the status either, so it takes a revoked card back.

A history moves its cards forward exactly when none of its deprecations names a revoked card
(`movesForward_iff`).
-/

namespace Orchestra

open Transition

namespace CardStatus

/-- The place of a status in the lifecycle. -/
def stage : CardStatus → ℕ
  | draft => 0
  | published => 1
  | deprecated => 2
  | revoked => 3

instance : Preorder CardStatus := Preorder.lift stage

instance : DecidableLE CardStatus := fun a b ↦ inferInstanceAs (Decidable (a.stage ≤ b.stage))

theorem le_revoked (status : CardStatus) : status ≤ revoked := by
  cases status <;> decide

theorem le_deprecated_iff {status : CardStatus} : status ≤ deprecated ↔ status ≠ revoked := by
  cases status <;> decide

end CardStatus

namespace PublishedRegistry

variable {P : Primitives} {r r' r'' : PublishedRegistry} {capabilityId version : String}
  {status : CardStatus} {key : String × String}

/-! ## What the calls do to the statuses -/

/-- A publication leaves the stored cards alone. -/
theorem statusOf_publish (h : r.statusOf key = some status) (card : AgentCard)
    (k : Option (List UInt8)) (kid : Option String) :
    (publish P r card k kid).1.statusOf key = some status := by
  by_cases hcan : CanPublish r card k kid
  · obtain ⟨k', kid', heq⟩ := publish_of_canPublish (P := P) hcan
    have hne : (asPublished P card k' kid').id ≠ key := by
      rintro rfl
      have hfresh : r.byVersion.find? (asPublished P card k' kid').id = none := hcan.2.1
      rw [statusOf, hfresh] at h
      cases h
    rw [heq, statusOf, store, KeyedTable.find?_put, if_neg hne]
    exact h
  · obtain ⟨e, he⟩ := publish_of_not (P := P) hcan
    rw [he]
    exact h

theorem statusOf_publishNewVersion (h : r.statusOf key = some status) (card : AgentCard)
    (k : Option (List UInt8)) (kid : Option String) :
    (publishNewVersion P r card k kid).1.statusOf key = some status := by
  have hpublish := statusOf_publish (P := P) h card k kid
  rw [publishNewVersion]
  split
  · next r' signed heq =>
    rw [heq] at hpublish
    exact hpublish
  · next r' e heq =>
    rw [heq] at hpublish
    exact hpublish

theorem statusOf_withCard (f : AgentCard → AgentCard) (hf : ∀ card, (f card).key = card.key)
    (hstatus : ∀ card, (f card).status = status) :
    (r.withCard capabilityId version f hf).statusOf key =
      if key = (capabilityId, version) then (r.statusOf key).map fun _ ↦ status
      else r.statusOf key := by
  have hfind := KeyedTable.find?_updateAt r.byVersion (fun e ↦ { e with card := f e.card })
    (fun e ↦ hf e.card) (capabilityId, version) key
  refine (congrArg (Option.map fun e ↦ e.card.status) hfind).trans ?_
  split_ifs with hkey
  · rw [Option.map_map, statusOf, Option.map_map]
    congr 1
    funext e
    exact hstatus e.card
  · rfl

/-- Nothing is set where no card is stored. -/
theorem statusOf_eq_ite_of_none {key' : String × String} (h : r.byVersion.find? key' = none) :
    r.statusOf key = if key = key' then (r.statusOf key).map fun _ ↦ status
      else r.statusOf key := by
  split_ifs with hkey
  · rw [hkey, statusOf, h]
    rfl
  · rfl

/-- A deprecation sets one status, whatever it was. -/
theorem statusOf_deprecateVersion :
    (deprecateVersion r capabilityId version).1.statusOf key =
      if key = (capabilityId, version) then (r.statusOf key).map fun _ ↦ .deprecated
      else r.statusOf key := by
  rw [deprecateVersion]
  split
  · next hnone => exact statusOf_eq_ite_of_none hnone
  · exact statusOf_withCard deprecateCard (fun _ ↦ rfl) fun _ ↦ rfl

theorem statusOf_revoke (now : ℕ) (reason : String) :
    (revoke r now capabilityId version reason).1.statusOf key =
      if key = (capabilityId, version) then (r.statusOf key).map fun _ ↦ .revoked
      else r.statusOf key := by
  rw [revoke]
  split
  · next hnone => exact statusOf_eq_ite_of_none hnone
  · refine Eq.trans ?_ (statusOf_withCard (revokeCard now reason) (fun _ ↦ rfl) fun _ ↦ rfl)
    rw [statusOf, statusOf]
    dsimp only
    rw [demote_byVersion]

/-! ## Moving forward -/

/-- The cards that are stored in `r` are stored in `r'` as well, no less far in the lifecycle, and
those that are revoked are revoked. -/
def Forward (r r' : PublishedRegistry) : Prop :=
  ∀ key status, r.statusOf key = some status → ∃ status', r'.statusOf key = some status' ∧
    status ≤ status' ∧ (status = .revoked → status' = .revoked)

theorem Forward.refl (r : PublishedRegistry) : Forward r r :=
  fun _ status h ↦ ⟨status, h, le_rfl, id⟩

theorem Forward.trans (h : Forward r r') (h' : Forward r' r'') : Forward r r'' := by
  intro key status hstatus
  obtain ⟨status', hstatus', hle, hrevoked⟩ := h key status hstatus
  obtain ⟨status'', hstatus'', hle', hrevoked'⟩ := h' key status' hstatus'
  exact ⟨status'', hstatus'', hle.trans hle', hrevoked' ∘ hrevoked⟩

/-- The call is not a deprecation of a revoked card. -/
def KeepsRevoked (r : PublishedRegistry) : Call → Prop
  | .deprecateVersion capabilityId version => r.statusOf (capabilityId, version) ≠ some .revoked
  | .publish _ _ _ | .publishNewVersion _ _ _ | .revoke _ _ _ _ => True

/-- **One call** moves the cards forward exactly when it meets the condition. -/
theorem forward_step_iff (P : Primitives) (r : PublishedRegistry) (call : Call) :
    Forward r (step P r call) ↔ KeepsRevoked r call := by
  cases call with
  | publish card k kid =>
    refine iff_of_true (fun key status h ↦ ?_) trivial
    exact ⟨status, statusOf_publish h card k kid, le_rfl, id⟩
  | publishNewVersion card k kid =>
    refine iff_of_true (fun key status h ↦ ?_) trivial
    exact ⟨status, statusOf_publishNewVersion h card k kid, le_rfl, id⟩
  | deprecateVersion capabilityId version =>
    constructor
    · intro h hrevoked
      obtain ⟨status, hstatus, hle, -⟩ := h (capabilityId, version) .revoked hrevoked
      rw [step, statusOf_deprecateVersion, if_pos rfl, hrevoked] at hstatus
      obtain rfl := Option.some.inj hstatus
      revert hle
      decide
    · intro hnot key status hstatus
      rw [step, statusOf_deprecateVersion]
      split_ifs with hkey
      · have hne : status ≠ .revoked := by
          rintro rfl
          exact hnot (hkey ▸ hstatus)
        rw [hstatus]
        exact ⟨.deprecated, rfl, CardStatus.le_deprecated_iff.mpr hne, fun h ↦ absurd h hne⟩
      · exact ⟨status, hstatus, le_rfl, id⟩
  | revoke now capabilityId version reason =>
    refine iff_of_true (fun key status hstatus ↦ ?_) trivial
    rw [step, statusOf_revoke]
    split_ifs with hkey
    · rw [hstatus]
      exact ⟨.revoked, rfl, status.le_revoked, fun _ ↦ rfl⟩
    · exact ⟨status, hstatus, le_rfl, id⟩

/-- Between any two moments of the history the cards have moved forward. -/
def MovesForward (P : Primitives) (r : PublishedRegistry) (calls : List Call) : Prop :=
  ∀ pre mid, pre ++ mid <+: calls → Forward (run (step P) r pre) (run (step P) r (pre ++ mid))

/-- **A history moves the cards forward** exactly when it deprecates no revoked card. -/
theorem movesForward_iff (P : Primitives) (r : PublishedRegistry) (calls : List Call) :
    MovesForward P r calls ↔ AllSteps (step P) KeepsRevoked r calls := by
  rw [MovesForward, forall_between_iff_allSteps Forward.refl Forward.trans]
  simp only [forward_step_iff]

/-! ### A card that comes back -/

def translateCard : AgentCard where
  cardId := "card:2"
  capabilityId := "pub.translate"
  name := "Translate"
  version := "1.0.0"
  partnerId := "partner-acme"
  partnerContractId := "contract-002"
  createdAt := "2024-01-01T00:00:00.000Z"

/-- The card is published, revoked and deprecated. -/
def deprecatedLate : List Call :=
  [.publish translateCard none none, .revoke 0 "pub.translate" "1.0.0" "leak",
    .deprecateVersion "pub.translate" "1.0.0"]

theorem revoked_becomes_deprecated : ¬∀ (P : Primitives) (r : PublishedRegistry)
    (calls : List Call), MovesForward P r calls := by
  intro hall
  obtain ⟨status, hstatus, -, hrevoked⟩ := hall
    ⟨fun _ ↦ List.replicate 32 6, fun _ _ ↦ List.replicate 32 6, fun _ _ ↦ by decide⟩
    { defaultKey := some [7], defaultKid := some "signer-1" } deprecatedLate
    (deprecatedLate.take 2) (deprecatedLate.drop 2) (List.prefix_refl _)
    ("pub.translate", "1.0.0") .revoked rfl
  obtain rfl := Option.some.inj hstatus
  exact absurd (hrevoked rfl) (by decide)

end PublishedRegistry

end Orchestra
