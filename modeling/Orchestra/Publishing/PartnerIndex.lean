import Mathlib.Data.Prod.Lex
import Mathlib.Data.String.Basic
import Orchestra.Core.Exceptions
import Orchestra.Foundation.Membership
import Orchestra.Publishing.Registry

/-!
# The cards of a partner

The registry files the key of a card under its partner when the card is published, and takes it out
when the card is revoked. So what a partner is shown is decided by the calls: the cards that were
published for it and not revoked since, each as it is stored, in the order of their keys.
-/

namespace Orchestra

open Transition

namespace PublishedRegistry

variable {P : Primitives} {r : PublishedRegistry}

/-! ## The index -/

/-- The call files a key under a partner. -/
def Files (r : PublishedRegistry) (call : Call) (p : String × String × String) : Prop :=
  ∃ card key kid, (call = .publish card key kid ∨ call = .publishNewVersion card key kid) ∧
    CanPublish r card key kid ∧ (card.partnerId, card.key) = p

/-- The call revokes the card with this key. -/
def Unfiles (_ : PublishedRegistry) (call : Call) (p : String × String × String) : Prop :=
  ∃ now reason, call = .revoke now p.2.1 p.2.2 reason

/-- A key is filed once, under the partner of its card. -/
structure Filed (r : PublishedRegistry) : Prop where
  nodup : r.byPartner.Nodup
  stored : ∀ p ∈ r.byPartner, ∃ e, r.byVersion.find? p.2 = some e ∧ e.card.partnerId = p.1

theorem filed_new (key : Option (List UInt8)) (kid : Option String) :
    Filed { defaultKey := key, defaultKid := kid } :=
  ⟨List.nodup_nil, fun _ hp ↦ nomatch hp⟩

section Calls

variable {card : AgentCard} {key : Option (List UInt8)} {kid : Option String}
  {p : String × String × String}

theorem byPartner_publish (h : CanPublish r card key kid) :
    (publish P r card key kid).1.byPartner = r.byPartner.insert (card.partnerId, card.key) := by
  obtain ⟨k, kid', heq⟩ := publish_of_canPublish (P := P) h
  rw [heq]
  rfl

theorem find?_publish (h : CanPublish r card key kid) (k : String × String) :
    ∃ e : Entry, e.card.partnerId = card.partnerId ∧
      (publish P r card key kid).1.byVersion.find? k =
        if card.key = k then some e else r.byVersion.find? k := by
  obtain ⟨k', kid', heq⟩ := publish_of_canPublish (P := P) h
  refine ⟨asPublished P card k' kid', rfl, ?_⟩
  rw [heq, store, KeyedTable.find?_put]
  rfl

theorem Filed.publish (h : Filed r) (card : AgentCard) (key : Option (List UInt8))
    (kid : Option String) : Filed (publish P r card key kid).1 := by
  by_cases hcan : CanPublish r card key kid
  · refine ⟨?_, fun p hp ↦ ?_⟩
    · rw [byPartner_publish hcan]
      exact h.nodup.insert
    · obtain ⟨e, hpartner, hfind⟩ := find?_publish (P := P) hcan p.2
      rw [hfind]
      rw [byPartner_publish hcan, List.mem_insert_iff] at hp
      rcases hp with rfl | hp
      · exact ⟨e, if_pos rfl, hpartner⟩
      · obtain ⟨e', he', hpartner'⟩ := h.stored p hp
        -- the key that is published was not there
        have hne : card.key ≠ p.2 := by
          intro hkey
          rw [← hkey, hcan.2.1] at he'
          cases he'
        exact ⟨e', (if_neg hne).trans he', hpartner'⟩
  · obtain ⟨e, he⟩ := publish_of_not (P := P) hcan
    rw [he]
    exact h

theorem mem_publish (p : String × String × String) :
    p ∈ (publish P r card key kid).1.byPartner ↔
      (CanPublish r card key kid ∧ (card.partnerId, card.key) = p) ∨ p ∈ r.byPartner := by
  by_cases hcan : CanPublish r card key kid
  · rw [byPartner_publish hcan, List.mem_insert_iff, and_iff_right hcan, eq_comm]
  · obtain ⟨e, he⟩ := publish_of_not (P := P) hcan
    rw [he, or_iff_right fun h ↦ hcan h.1]

/-- Publishing a new version files what publishing it files. -/
theorem publishNewVersion_eq : (publishNewVersion P r card key kid).1.byPartner =
      (publish P r card key kid).1.byPartner ∧
    (publishNewVersion P r card key kid).1.byVersion = (publish P r card key kid).1.byVersion := by
  rw [publishNewVersion]
  split
  · next r' signed heq =>
    rw [heq]
    exact ⟨rfl, rfl⟩
  · next r' e heq =>
    rw [heq]
    exact ⟨rfl, rfl⟩

theorem Filed.of_eq {r' : PublishedRegistry} (h : Filed r) (hp : r'.byPartner = r.byPartner)
    (hv : r'.byVersion = r.byVersion) : Filed r' := by
  refine ⟨?_, fun p hmem ↦ ?_⟩
  · rw [hp]
    exact h.nodup
  · rw [hp] at hmem
    rw [hv]
    exact h.stored p hmem

theorem find?_withCard (r : PublishedRegistry) (capabilityId version : String)
    (f : AgentCard → AgentCard) (hf : ∀ card, (f card).key = card.key) (k : String × String) :
    (r.withCard capabilityId version f hf).byVersion.find? k =
      if k = (capabilityId, version) then
        (r.byVersion.find? k).map fun e ↦ { e with card := f e.card }
      else r.byVersion.find? k := by
  have hupdate := r.byVersion.find?_updateAt (fun e ↦ { e with card := f e.card })
    (fun e ↦ hf e.card) (capabilityId, version) k
  exact hupdate

/-- Another card under a key, of the same partner. -/
theorem Filed.withCard (h : Filed r) (capabilityId version : String) (f : AgentCard → AgentCard)
    (hf : ∀ card, (f card).key = card.key) (hpartner : ∀ card, (f card).partnerId = card.partnerId) :
    Filed (r.withCard capabilityId version f hf) := by
  refine ⟨h.nodup, fun p hp ↦ ?_⟩
  obtain ⟨e, he, hp'⟩ := h.stored p hp
  rw [find?_withCard, he]
  split
  · exact ⟨_, rfl, (hpartner e.card).trans hp'⟩
  · exact ⟨e, rfl, hp'⟩

theorem mem_revoke (h : Filed r) (now : ℕ) (capabilityId version reason : String) :
    p ∈ (revoke r now capabilityId version reason).1.byPartner ↔
      p ∈ r.byPartner ∧ p.2 ≠ (capabilityId, version) := by
  have hstored (hp : p ∈ r.byPartner) := h.stored p hp
  rw [revoke]
  split
  · next hnone =>
    refine ⟨fun hp ↦ ⟨hp, fun hkey ↦ ?_⟩, fun hp ↦ hp.1⟩
    obtain ⟨e, he, -⟩ := hstored hp
    rw [hkey, hnone] at he
    cases he
  · next e he =>
    have herase : (((r.withCard capabilityId version (revokeCard now reason) fun _ ↦ rfl).demote
        capabilityId version).byPartner) = r.byPartner := demote_byPartner
    dsimp only
    rw [herase, h.nodup.mem_erase_iff, and_comm]
    refine and_congr_right fun hp ↦ not_congr ⟨fun heq ↦ congrArg Prod.snd heq, fun hkey ↦ ?_⟩
    obtain ⟨e', he', hpartner⟩ := hstored hp
    rw [hkey, he] at he'
    obtain rfl := Option.some.inj he'
    exact Prod.ext hpartner.symm hkey

end Calls

theorem Filed.step (h : Filed r) (call : Call) : Filed (step P r call) := by
  cases call with
  | publish card key kid => exact h.publish card key kid
  | publishNewVersion card key kid =>
    exact (h.publish card key kid).of_eq publishNewVersion_eq.1 publishNewVersion_eq.2
  | deprecateVersion capabilityId version =>
    rw [PublishedRegistry.step, deprecateVersion]
    split
    · exact h
    · exact h.withCard capabilityId version deprecateCard (fun _ ↦ rfl) fun _ ↦ rfl
  | revoke now capabilityId version reason =>
    refine ⟨?_, fun p hp ↦ ?_⟩
    · rw [PublishedRegistry.step, revoke]
      split
      · exact h.nodup
      · dsimp only
        rw [demote_byPartner]
        exact h.nodup.erase _
    · obtain ⟨hp, hkey⟩ := (mem_revoke h now capabilityId version reason).mp hp
      obtain ⟨e, he, hpartner⟩ := h.stored p hp
      refine ⟨e, ?_, hpartner⟩
      rw [PublishedRegistry.step, revoke]
      split
      · exact he
      · dsimp only
        rw [demote_byVersion]
        exact (find?_withCard ..).trans ((if_neg hkey).trans he)

/-- Only a revocation takes a key out. -/
theorem not_unfiles {call : Call} {p : String × String × String}
    (h : ∀ now capabilityId version reason, call ≠ .revoke now capabilityId version reason) :
    ¬Unfiles r call p := by
  rintro ⟨now, reason, hcall⟩
  exact h now p.2.1 p.2.2 reason hcall

/-- **What one call does to the index.** -/
theorem keepsTrack_step :
    KeepsTrack (step P) Filed (fun r p ↦ p ∈ r.byPartner) Files Unfiles := by
  intro r call p h
  show p ∈ (step P r call).byPartner ↔ Files r call p ∨ p ∈ r.byPartner ∧ ¬Unfiles r call p
  cases call with
  | publish card key kid =>
    rw [PublishedRegistry.step, mem_publish]
    constructor
    · rintro (⟨hcan, rfl⟩ | hp)
      · exact Or.inl ⟨card, key, kid, Or.inl rfl, hcan, rfl⟩
      · exact Or.inr ⟨hp, not_unfiles fun _ _ _ _ ↦ Call.noConfusion⟩
    · rintro (⟨_, _, _, hc | hc, hcan, rfl⟩ | ⟨hp, -⟩)
      · cases hc
        exact Or.inl ⟨hcan, rfl⟩
      · cases hc
      · exact Or.inr hp
  | publishNewVersion card key kid =>
    rw [PublishedRegistry.step, publishNewVersion_eq.1, mem_publish]
    constructor
    · rintro (⟨hcan, rfl⟩ | hp)
      · exact Or.inl ⟨card, key, kid, Or.inr rfl, hcan, rfl⟩
      · exact Or.inr ⟨hp, not_unfiles fun _ _ _ _ ↦ Call.noConfusion⟩
    · rintro (⟨_, _, _, hc | hc, hcan, rfl⟩ | ⟨hp, -⟩)
      · cases hc
      · cases hc
        exact Or.inl ⟨hcan, rfl⟩
      · exact Or.inr hp
  | deprecateVersion capabilityId version =>
    have hsame : (step P r (.deprecateVersion capabilityId version)).byPartner = r.byPartner := by
      rw [PublishedRegistry.step, deprecateVersion]
      split <;> rfl
    rw [hsame]
    constructor
    · exact fun hp ↦ Or.inr ⟨hp, not_unfiles fun _ _ _ _ ↦ Call.noConfusion⟩
    · rintro (⟨_, _, _, hc | hc, -⟩ | ⟨hp, -⟩)
      · cases hc
      · cases hc
      · exact hp
  | revoke now capabilityId version reason =>
    rw [PublishedRegistry.step, mem_revoke h]
    constructor
    · rintro ⟨hp, hkey⟩
      refine Or.inr ⟨hp, ?_⟩
      rintro ⟨_, _, hc⟩
      cases hc
      exact hkey rfl
    · rintro (⟨_, _, _, hc | hc, -⟩ | ⟨hp, hnot⟩)
      · cases hc
      · cases hc
      · refine ⟨hp, fun hkey ↦ hnot ⟨now, reason, ?_⟩⟩
        rw [hkey]

/-! ## The list -/

theorem keyLe_iff {k k' : String × String} : keyLe k k' = true ↔ toLex k ≤ toLex k' := by
  rw [keyLe, decide_eq_true_iff, Prod.Lex.le_iff]
  rfl

/-- Sorting keys that are listed once. -/
theorem pairwise_insertionSort {ks : List (String × String)} (h : ks.Nodup) :
    (ks.insertionSort fun k k' ↦ keyLe k k').Pairwise fun k k' ↦ toLex k < toLex k' := by
  have htotal : Std.Total fun k k' : String × String ↦ keyLe k k' = true :=
    ⟨fun k k' ↦ by simpa only [keyLe_iff] using le_total (toLex k) (toLex k')⟩
  have htrans : IsTrans (String × String) fun k k' ↦ keyLe k k' = true :=
    ⟨fun k k' k'' ↦ by simpa only [keyLe_iff] using le_trans⟩
  have hsorted := List.pairwise_insertionSort (fun k k' ↦ keyLe k k' = true) ks
  have hnodup : (ks.insertionSort fun k k' ↦ keyLe k k').Nodup :=
    (List.perm_insertionSort _ ks).nodup_iff.mpr h
  refine (hsorted.and hnodup).imp fun {k k'} ⟨hle, hne⟩ ↦ ?_
  exact lt_of_le_of_ne (keyLe_iff.mp hle) fun heq ↦ hne (toLex_inj.mp heq)

/-- The cards at stored keys. -/
theorem mapM_cardAt {ks : List (String × String)} {cards : List AgentCard}
    (h : ks.mapM r.cardAt = .ok cards) :
    cards.map AgentCard.key = ks ∧ ∀ card ∈ cards, r.cardAt card.key = .ok card := by
  induction ks generalizing cards with
  | nil =>
    obtain rfl := Except.ok.inj h
    exact ⟨rfl, fun _ hc ↦ nomatch hc⟩
  | cons k ks ih =>
    rw [List.mapM_cons] at h
    obtain ⟨card, hcard, h⟩ := bind_eq_ok_iff.mp h
    obtain ⟨rest, hrest, h⟩ := bind_eq_ok_iff.mp h
    obtain rfl := Except.ok.inj h
    have hkey : card.key = k := by
      rw [cardAt] at hcard
      split at hcard
      · cases hcard
      · next e he =>
        rw [← Except.ok.inj hcard]
        have hid : e.id = k := KeyedTable.key_of_find? he
        exact hid
    obtain ⟨hkeys, hall⟩ := ih hrest
    refine ⟨by rw [List.map_cons, hkey, hkeys], fun c hc ↦ ?_⟩
    rcases List.mem_cons.mp hc with rfl | hc
    · rw [hkey]
      exact hcard
    · exact hall c hc

theorem get_of_cardAt {card : AgentCard} (h : r.cardAt card.key = .ok card) :
    r.get card.capabilityId (some card.version) = .ok card := by
  rw [cardAt] at h
  rw [get]
  split at h
  · cases h
  · next e he =>
    rw [show r.byVersion.find? (card.capabilityId, card.version) = some e from he]
    exact h

/-- The keys that a partner is shown. -/
def partnerKeys (r : PublishedRegistry) (partnerId : String) : List (String × String) :=
  r.byPartner.filterMap fun p ↦ if p.1 = partnerId then some p.2 else none

theorem mem_partnerKeys {partnerId : String} {k : String × String} :
    k ∈ r.partnerKeys partnerId ↔ (partnerId, k) ∈ r.byPartner := by
  rw [partnerKeys, List.mem_filterMap]
  constructor
  · rintro ⟨p, hp, hsome⟩
    split_ifs at hsome with hpartner
    obtain rfl := Option.some.inj hsome
    rw [← hpartner]
    exact hp
  · exact fun hp ↦ ⟨_, hp, if_pos rfl⟩

theorem Filed.nodup_partnerKeys (h : Filed r) (partnerId : String) :
    (r.partnerKeys partnerId).Nodup := by
  refine h.nodup.filterMap fun p p' k hp hp' ↦ ?_
  simp only [Option.mem_def, Option.ite_none_right_eq_some, Option.some.injEq] at hp hp'
  exact Prod.ext (hp.1.trans hp'.1.symm) (hp.2.trans hp'.2.symm)

/-- What a partner is shown after some calls. -/
structure Shows (r : PublishedRegistry) (partnerId : String) (cards : List AgentCard)
    (due : String × String → Prop) : Prop where
  sorted : (cards.map AgentCard.key).Pairwise fun k k' ↦ toLex k < toLex k'
  due : ∀ k, k ∈ cards.map AgentCard.key ↔ due k
  partner : ∀ card ∈ cards, card.partnerId = partnerId
  current : ∀ card ∈ cards, r.get card.capabilityId (some card.version) = .ok card

/-- **What a partner is shown.** After any calls the list of a partner can be read, and it is that
of the cards published for the partner and not revoked since, as they are stored, sorted. -/
theorem listForPartner_run (P : Primitives) (key : Option (List UInt8)) (kid : Option String)
    (calls : List Call) (partnerId : String) :
    ∃ cards,
      (run (step P) { defaultKey := key, defaultKid := kid } calls).listForPartner partnerId =
        .ok cards ∧
      (run (step P) { defaultKey := key, defaultKid := kid } calls).Shows partnerId cards fun k ↦
        AddedLast (step P) Files Unfiles { defaultKey := key, defaultKid := kid } calls
          (partnerId, k) := by
  set r₀ : PublishedRegistry := { defaultKey := key, defaultKid := kid } with hr₀
  set r := run (step P) r₀ calls with hr
  have hstep (r : PublishedRegistry) (call : Call) (h : Filed r) : Filed (step P r call) :=
    h.step call
  have hstep' (r : PublishedRegistry) (call : Call) (h : Indexed r) : Indexed (step P r call) :=
    h.step call
  have hfiled : Filed r := run_invariant hstep (filed_new key kid) calls
  have hempty : Indexed r₀ := fun p hp ↦ nomatch hp
  have hindexed : Indexed r := run_invariant hstep' hempty calls
  obtain ⟨cards, hcards⟩ := hindexed.exists_listForPartner partnerId
  obtain ⟨hkeys, hall⟩ := mapM_cardAt hcards
  have hperm := List.perm_insertionSort (fun k k' ↦ keyLe k k' = true) (r.partnerKeys partnerId)
  refine ⟨cards, hcards, ?_, fun k ↦ ?_, fun card hcard ↦ ?_, fun card hcard ↦
    get_of_cardAt (hall card hcard)⟩
  · rw [hkeys]
    exact pairwise_insertionSort (hfiled.nodup_partnerKeys partnerId)
  · rw [hkeys]
    refine (hperm.mem_iff.trans mem_partnerKeys).trans ?_
    exact mem_run_iff_addedLast keepsTrack_step hstep (filed_new key kid) (fun hp ↦ nomatch hp)
      calls
  · have hmem : card.key ∈ r.partnerKeys partnerId := by
      rw [← hperm.mem_iff]
      exact hkeys ▸ List.mem_map_of_mem hcard
    obtain ⟨e, he, hpartner⟩ := hfiled.stored _ (mem_partnerKeys.mp hmem)
    have hat := hall card hcard
    rw [cardAt, he] at hat
    rw [← Except.ok.inj hat]
    exact hpartner

end PublishedRegistry

end Orchestra
