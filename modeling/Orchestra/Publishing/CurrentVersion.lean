import Orchestra.Foundation.Pointer
import Orchestra.Foundation.Transition
import Orchestra.Publishing.Registry

/-!
# The current version of a capability

A partner that does not pin a version gets the current one. The current version is kept in a
dictionary of its own, which the four calls have to keep in step with the statuses of the cards.
They do not always: a deprecation leaves the dictionary alone, so does a plain publication when
there is an entry, and a revocation promotes the first published version and not the last.

`Current` says what the current version should be, in terms of the history of publications, and
`KeepsCurrent` is the exact condition on the calls (`current_iff_keepsCurrent`).
-/

namespace Orchestra

open Pointer Transition

namespace PublishedRegistry

/-! ## The history of publications -/

/-- A publication that succeeded, by one of the two calls. -/
structure Release where
  capabilityId : String
  version : String
  asNewVersion : Bool

def Release.key (rel : Release) : String × String := (rel.capabilityId, rel.version)

/-- What a call adds to the history. -/
def releases (P : Primitives) (r : PublishedRegistry) : Call → List Release
  | .publish card key kid =>
    match (publish P r card key kid).2 with
    | .ok _ => [⟨card.capabilityId, card.version, false⟩]
    | .error _ => []
  | .publishNewVersion card key kid =>
    match (publishNewVersion P r card key kid).2 with
    | .ok _ => [⟨card.capabilityId, card.version, true⟩]
    | .error _ => []
  | .deprecateVersion _ _ | .revoke _ _ _ _ => []

/-- The publications of a capability. -/
def releasesOf (h : List Release) (capabilityId : String) : List Release :=
  h.filter fun rel ↦ decide (rel.capabilityId = capabilityId)

/-- All versions after the first were published with `publish_new_version`. -/
def Advances (h : List Release) (capabilityId : String) : Prop :=
  ∀ rel ∈ (releasesOf h capabilityId).tail, rel.asNewVersion = true

/-- The most recently published version among those that are still published. -/
def mostRecent (h : List Release) (r : PublishedRegistry) (capabilityId : String) :
    Option String :=
  ((releasesOf h capabilityId).filter fun rel ↦
    decide (r.statusOf rel.key = some .published)).getLast?.map Release.version

/-- The registry together with the history of its publications. -/
def observed (P : Primitives) :
    List Release × PublishedRegistry → Call → List Release × PublishedRegistry :=
  observe (step P) (releases P)

/-- A new registry. -/
def new (defaultKey : Option (List UInt8)) (defaultKid : Option String) : PublishedRegistry where
  defaultKey := defaultKey
  defaultKid := defaultKid

/-- **The current version** of a capability with a published version is a published version, and the
most recent one when all versions after the first were published as new versions. -/
def Current (s : List Release × PublishedRegistry) : Prop :=
  ∀ capabilityId version, s.2.statusOf (capabilityId, version) = some .published →
    ∃ card, s.2.get capabilityId none = .ok card ∧ card.status = .published ∧
      (Advances s.1 capabilityId → mostRecent s.1 s.2 capabilityId = some card.version)

/-- The condition on a call: a plain publication finds the current version published, if there is
one; the current version is deprecated only as the last published one, and revoked, where it has to
be the most recent one, with at most one other published version. -/
def KeepsCurrent (s : List Release × PublishedRegistry) : Call → Prop
  | .publish card key kid => CanPublish s.2 card key kid → ∀ v,
      s.2.current card.capabilityId = some v →
        s.2.statusOf (card.capabilityId, v) = some .published
  | .publishNewVersion _ _ _ => True
  | .deprecateVersion capabilityId version => s.2.current capabilityId = some version → ∀ v,
      s.2.statusOf (capabilityId, v) = some .published → v = version
  | .revoke _ capabilityId version _ => s.2.current capabilityId = some version →
      Advances s.1 capabilityId → ∀ v v', s.2.statusOf (capabilityId, v) = some .published →
        s.2.statusOf (capabilityId, v') = some .published → v ≠ version → v' ≠ version → v = v'

/-! ## The history and the registry -/

/-- The history lists the stored cards, and the current version of a capability is stored. -/
structure Aligned (s : List Release × PublishedRegistry) : Prop where
  keys : s.1.map Release.key = s.2.keys
  current : ∀ capabilityId v, s.2.current capabilityId = some v →
    (capabilityId, v) ∈ s.2.keys

section Step

variable {P : Primitives} {s : List Release × PublishedRegistry} {rel : Release}
  {card : AgentCard} {key : Option (List UInt8)} {kid : Option String}
  {capabilityId version : String}

theorem observed_publish_of_not (h : ¬CanPublish s.2 card key kid) :
    observed P s (.publish card key kid) = s := by
  obtain ⟨e, he⟩ := publish_of_not (P := P) h
  simp [observed, observe, releases, step, he]

theorem observed_publish (h : CanPublish s.2 card key kid) :
    observed P s (.publish card key kid) =
      (s.1 ++ [⟨card.capabilityId, card.version, false⟩], (publish P s.2 card key kid).1) := by
  obtain ⟨k, kid', heq⟩ := publish_of_canPublish (P := P) h
  simp [observed, observe, releases, step, heq]

theorem observed_publishNewVersion_of_not (h : ¬CanPublish s.2 card key kid) :
    observed P s (.publishNewVersion card key kid) = s := by
  obtain ⟨e, he⟩ := publishNewVersion_of_not (P := P) h
  simp [observed, observe, releases, step, he]

theorem observed_publishNewVersion (h : CanPublish s.2 card key kid) :
    observed P s (.publishNewVersion card key kid) =
      (s.1 ++ [⟨card.capabilityId, card.version, true⟩],
        (publishNewVersion P s.2 card key kid).1) := by
  obtain ⟨signed, heq⟩ := publishNewVersion_of_canPublish (P := P) h
  simp [observed, observe, releases, step, heq]

theorem observed_deprecateVersion : observed P s (.deprecateVersion capabilityId version) =
    (s.1, (deprecateVersion s.2 capabilityId version).1) := by
  simp [observed, observe, releases, step]

theorem observed_revoke (now : ℕ) (reason : String) :
    observed P s (.revoke now capabilityId version reason) =
      (s.1, (revoke s.2 now capabilityId version reason).1) := by
  simp [observed, observe, releases, step]

namespace Aligned

theorem find?_ne_none (hs : Aligned s) (h : s.2.current capabilityId = some version) :
    s.2.byVersion.find? (capabilityId, version) ≠ none := by
  rw [Ne, KeyedTable.find?_eq_none_iff, not_not]
  exact hs.current capabilityId version h

/-- A publication keeps the history aligned. -/
theorem adds {r' : PublishedRegistry} (hs : Aligned s) (hkey : rel.key = card.key)
    (hadds : Adds card s.2 r')
    (hcurrent : ∀ capabilityId v, r'.current capabilityId = some v →
      s.2.current capabilityId = some v ∨ card.key = (capabilityId, v)) :
    Aligned (s.1 ++ [rel], r') where
  keys := by rw [List.map_append, hs.keys, List.map_singleton, hkey, hadds.keys]
  current := fun capabilityId v hv ↦ by
    rw [hadds.keys, List.mem_append, List.mem_singleton]
    rcases hcurrent capabilityId v hv with hbefore | hnew
    · exact Or.inl (hs.current capabilityId v hbefore)
    · exact Or.inr hnew.symm

/-- So does a withdrawal. -/
theorem withdraws {r' : PublishedRegistry} (hs : Aligned s)
    (hwithdraws : Withdraws capabilityId version s.2 r')
    (hcurrent : ∀ capabilityId v, r'.current capabilityId = some v →
      (capabilityId, v) ∈ s.2.keys) : Aligned (s.1, r') where
  keys := by rw [hs.keys, hwithdraws.keys]
  current := fun capabilityId v hv ↦ by
    rw [hwithdraws.keys]
    exact hcurrent capabilityId v hv

theorem mem_keys_of_mem_published {r : PublishedRegistry} (h : version ∈ r.published capabilityId) :
    (capabilityId, version) ∈ r.keys := by
  rw [mem_published_iff, statusOf, Option.map_eq_some_iff] at h
  obtain ⟨e, he, -⟩ := h
  have hid : e.id = (capabilityId, version) := KeyedTable.key_of_find? he
  exact hid ▸ List.mem_map_of_mem (KeyedTable.mem_of_find? he)

theorem step (hs : Aligned s) (call : Call) : Aligned (observed P s call) := by
  cases call with
  | publish card key kid =>
    by_cases hcan : CanPublish s.2 card key kid
    · rw [observed_publish hcan]
      refine hs.adds rfl (adds_publish hcan) fun capabilityId v hv ↦ ?_
      rw [current_publish hcan, Option.or_eq_some_iff] at hv
      rcases hv with hv | ⟨-, hv⟩
      · exact Or.inl hv
      · split_ifs at hv with hcapability
        exact Or.inr (Prod.ext hcapability (Option.some.inj hv))
    · rwa [observed_publish_of_not hcan]
  | publishNewVersion card key kid =>
    by_cases hcan : CanPublish s.2 card key kid
    · rw [observed_publishNewVersion hcan]
      refine hs.adds rfl (adds_publishNewVersion hcan) fun capabilityId v hv ↦ ?_
      rw [current_publishNewVersion hcan] at hv
      split_ifs at hv with hcapability
      · exact Or.inr (Prod.ext hcapability (Option.some.inj hv))
      · exact Or.inl hv
    · rwa [observed_publishNewVersion_of_not hcan]
  | deprecateVersion capabilityId version =>
    rw [observed_deprecateVersion]
    refine hs.withdraws (withdraws_deprecateVersion capabilityId version)
      fun capabilityId' v hv ↦ ?_
    rw [current_deprecateVersion] at hv
    exact hs.current capabilityId' v hv
  | revoke now capabilityId version reason =>
    rw [observed_revoke]
    refine hs.withdraws (withdraws_revoke now capabilityId version reason)
      fun capabilityId' v hv ↦ ?_
    rw [current_revoke now capabilityId version reason capabilityId' hs.find?_ne_none] at hv
    split_ifs at hv with hcond
    · have hmem := List.mem_of_head? hv
      rw [hcond.1]
      exact mem_keys_of_mem_published (List.mem_filter.mp hmem).1
    · exact hs.current capabilityId' v hv

end Aligned

/-- The published versions can be read off the keys. -/
theorem published_eq (r : PublishedRegistry) (capabilityId : String) :
    r.published capabilityId = (r.keys.filter fun k ↦
      decide (k.1 = capabilityId ∧ r.statusOf k = some .published)).map Prod.snd := by
  rw [published, keys, List.filter_map, List.map_map]
  refine congrArg _ (List.filter_congr fun e he ↦ ?_)
  have hstatus : r.statusOf e.id = some e.card.status := by
    rw [statusOf, KeyedTable.find?_of_mem he, Option.map_some]
  rw [Function.comp_apply, decide_eq_decide, hstatus, Option.some.injEq]
  rfl

/-- The most recent of the published versions is the last one in the dictionary. -/
theorem mostRecent_eq (hs : Aligned s) (capabilityId : String) :
    mostRecent s.1 s.2 capabilityId = (s.2.published capabilityId).getLast? := by
  rw [published_eq, ← hs.keys, List.filter_map, List.map_map, List.getLast?_map, mostRecent,
    releasesOf, List.filter_filter]
  refine congrArg _ (congrArg _ (List.filter_congr fun rel _ ↦ ?_))
  rw [Function.comp_apply, ← Bool.decide_and, decide_eq_decide, and_comm]
  rfl

/-- What `get` returns without a version. -/
theorem get_none_of_current {r : PublishedRegistry} {e : Entry}
    (hcurrent : r.current capabilityId = some version)
    (he : r.byVersion.find? (capabilityId, version) = some e) :
    r.get capabilityId none = .ok e.card := by
  rw [PublishedRegistry.current, Option.map_eq_some_iff] at hcurrent
  obtain ⟨l, hl, rfl⟩ := hcurrent
  rw [get, hl]
  dsimp only
  rw [he]

theorem get_none_eq_ok {r : PublishedRegistry} (h : r.get capabilityId none = .ok card) :
    ∃ e, r.current capabilityId = some card.version ∧
      r.byVersion.find? (capabilityId, card.version) = some e ∧ e.card = card := by
  rw [get] at h
  split at h
  · cases h
  · next l hl =>
    split at h
    · cases h
    · next e he =>
      obtain rfl := Except.ok.inj h
      have hid : e.id = (capabilityId, l.version) := KeyedTable.key_of_find? he
      have hversion : e.card.version = l.version := congrArg Prod.snd hid
      rw [hversion]
      exact ⟨e, by rw [PublishedRegistry.current, hl, Option.map_some], he, rfl⟩

/-- What the current version should be, in terms of the two views. -/
theorem current_iff_pointsInto (hs : Aligned s) : Current s ↔ ∀ capabilityId,
    PointsInto (Advances s.1 capabilityId) (s.2.published capabilityId)
      (s.2.current capabilityId) := by
  constructor
  · intro h capabilityId hne
    obtain ⟨v, hv⟩ := List.exists_mem_of_ne_nil _ hne
    obtain ⟨card, hget, hstatus, hrecent⟩ := h capabilityId v (mem_published_iff.mp hv)
    obtain ⟨e, hcurrent, he, rfl⟩ := get_none_eq_ok hget
    refine ⟨e.card.version, hcurrent, mem_published_iff.mpr ?_, fun hadvances ↦ ?_⟩
    · rw [statusOf, he, Option.map_some, hstatus]
    · rw [← mostRecent_eq hs]
      exact hrecent hadvances
  · intro h capabilityId version hstatus
    have hmem := mem_published_iff.mpr hstatus
    obtain ⟨v, hcurrent, hv, hlast⟩ := h capabilityId (List.ne_nil_of_mem hmem)
    rw [mem_published_iff, statusOf, Option.map_eq_some_iff] at hv
    obtain ⟨e, he, hpublished⟩ := hv
    refine ⟨e.card, get_none_of_current hcurrent he, hpublished, fun hadvances ↦ ?_⟩
    have hid : e.id = (capabilityId, v) := KeyedTable.key_of_find? he
    have hversion : e.card.version = v := congrArg Prod.snd hid
    rw [mostRecent_eq hs, hversion]
    exact hlast hadvances

/-! ## One call -/

/-- The current version of one capability is right. -/
def CurrentAt (s : List Release × PublishedRegistry) (capabilityId : String) : Prop :=
  PointsInto (Advances s.1 capabilityId) (s.2.published capabilityId) (s.2.current capabilityId)

theorem releasesOf_append (h : List Release) (rel : Release) (capabilityId : String) :
    releasesOf (h ++ [rel]) capabilityId =
      releasesOf h capabilityId ++ if rel.capabilityId = capabilityId then [rel] else [] := by
  rw [releasesOf, List.filter_append]
  congr 1
  by_cases hrel : rel.capabilityId = capabilityId
  · simp [hrel]
  · simp [hrel]

/-- A capability without publications has no current version. -/
theorem Aligned.current_eq_none (hs : Aligned s) (h : releasesOf s.1 capabilityId = []) :
    s.2.current capabilityId = none := by
  by_contra hne
  obtain ⟨v, hv⟩ := Option.ne_none_iff_exists'.mp hne
  have hmem := hs.current capabilityId v hv
  rw [← hs.keys, List.mem_map] at hmem
  obtain ⟨rel, hrel, hkey⟩ := hmem
  have hof : rel ∈ releasesOf s.1 capabilityId :=
    List.mem_filter.mpr ⟨hrel, decide_eq_true (congrArg Prod.fst hkey)⟩
  rw [h] at hof
  cases hof

/-- When all later versions are new versions, a plain publication was the first one. -/
theorem Aligned.current_eq_none_of_advances (hs : Aligned s) (hrel : rel.asNewVersion = false)
    (h : Advances (s.1 ++ [rel]) rel.capabilityId) : s.2.current rel.capabilityId = none := by
  refine hs.current_eq_none ?_
  by_contra hne
  rw [Advances, releasesOf_append, if_pos rfl, List.tail_append_of_ne_nil hne] at h
  have hnew := h rel (List.mem_append_right _ (List.mem_singleton_self rel))
  rw [hrel] at hnew
  cases hnew

/-- A publication leaves the other capabilities. -/
theorem currentAt_adds_iff_of_ne {r' : PublishedRegistry} (hkey : rel.key = card.key)
    (hadds : Adds card s.2 r') (hcurrent : r'.current capabilityId = s.2.current capabilityId)
    (hne : card.capabilityId ≠ capabilityId) :
    CurrentAt (s.1 ++ [rel], r') capabilityId ↔ CurrentAt s capabilityId := by
  have hrel : rel.capabilityId ≠ capabilityId := fun h ↦ hne ((Prod.mk.inj hkey).1 ▸ h)
  rw [CurrentAt, CurrentAt, Advances, releasesOf_append, if_neg hrel, List.append_nil,
    hadds.published, if_neg hne, List.append_nil, hcurrent]
  rfl

/-- A withdrawal leaves the other capabilities. -/
theorem currentAt_withdraws_iff_of_ne {r' : PublishedRegistry} {capabilityId' : String}
    (hwithdraws : Withdraws capabilityId version s.2 r')
    (hcurrent : r'.current capabilityId' = s.2.current capabilityId')
    (hne : capabilityId' ≠ capabilityId) :
    CurrentAt (s.1, r') capabilityId' ↔ CurrentAt s capabilityId' := by
  have hsame : (s.2.published capabilityId').filter
      (fun v ↦ decide ¬(capabilityId' = capabilityId ∧ v = version)) =
        s.2.published capabilityId' :=
    List.filter_eq_self.mpr fun v _ ↦ decide_eq_true fun h ↦ hne h.1
  rw [CurrentAt, CurrentAt, hwithdraws.published, hsame, hcurrent]

theorem published_withdraws {r' : PublishedRegistry}
    (hwithdraws : Withdraws capabilityId version s.2 r') : r'.published capabilityId =
      (s.2.published capabilityId).filter fun v ↦ decide (v ≠ version) := by
  rw [hwithdraws.published]
  simp

/-- Only the capability that a call names has to be looked at. -/
theorem forall_currentAt_iff {s' : List Release × PublishedRegistry}
    (hs : ∀ capabilityId, CurrentAt s capabilityId) (capabilityId : String)
    (h : ∀ capabilityId', capabilityId' ≠ capabilityId →
      (CurrentAt s' capabilityId' ↔ CurrentAt s capabilityId')) :
    (∀ capabilityId', CurrentAt s' capabilityId') ↔ CurrentAt s' capabilityId := by
  refine ⟨fun hall ↦ hall capabilityId, fun hone capabilityId' ↦ ?_⟩
  by_cases hcapability : capabilityId' = capabilityId
  · exact hcapability ▸ hone
  · exact (h capabilityId' hcapability).mpr (hs capabilityId')

/-- A version that can be published is not the current one. -/
theorem Aligned.current_ne_of_canPublish (hs : Aligned s) (h : CanPublish s.2 card key kid) :
    s.2.current card.capabilityId ≠ some card.version :=
  fun hcurrent ↦ hs.find?_ne_none hcurrent h.2.1

/-- **What a call keeps.** -/
theorem currentAt_observed_iff (hs : Aligned s)
    (hcurrent : ∀ capabilityId, CurrentAt s capabilityId) (call : Call) :
    (∀ capabilityId, CurrentAt (observed P s call) capabilityId) ↔ KeepsCurrent s call := by
  cases call with
  | publish card key kid =>
    rw [KeepsCurrent]
    by_cases hcan : CanPublish s.2 card key kid
    swap
    · rw [observed_publish_of_not hcan]
      exact iff_of_true hcurrent fun h ↦ absurd h hcan
    have hadds := adds_publish (P := P) hcan
    rw [observed_publish hcan, forall_currentAt_iff hcurrent card.capabilityId, CurrentAt,
      hadds.published, if_pos rfl, current_publish hcan, if_pos rfl,
      pointsInto_append_iff (hs.current_ne_of_canPublish hcan) (hs.current_eq_none_of_advances rfl)]
    · refine Iff.trans ?_ (imp_iff_right hcan).symm
      exact forall₂_congr fun v _ ↦ mem_published_iff
    · intro capabilityId hne
      refine currentAt_adds_iff_of_ne rfl hadds ?_ (Ne.symm hne)
      rw [current_publish hcan, if_neg (Ne.symm hne), Option.or_none]
  | publishNewVersion card key kid =>
    rw [KeepsCurrent]
    by_cases hcan : CanPublish s.2 card key kid
    swap
    · rw [observed_publishNewVersion_of_not hcan]
      exact iff_of_true hcurrent trivial
    have hadds := adds_publishNewVersion (P := P) hcan
    rw [observed_publishNewVersion hcan, forall_currentAt_iff hcurrent card.capabilityId, CurrentAt,
      hadds.published, if_pos rfl, current_publishNewVersion hcan, if_pos rfl]
    · exact iff_of_true pointsInto_append_self trivial
    · intro capabilityId hne
      refine currentAt_adds_iff_of_ne rfl hadds ?_ (Ne.symm hne)
      rw [current_publishNewVersion hcan, if_neg (Ne.symm hne)]
  | deprecateVersion capabilityId version =>
    have hwithdraws := withdraws_deprecateVersion (r := s.2) capabilityId version
    have hsame := current_deprecateVersion (r := s.2) capabilityId version
    rw [KeepsCurrent, observed_deprecateVersion, forall_currentAt_iff hcurrent capabilityId,
      CurrentAt, published_withdraws hwithdraws, hsame]
    · refine (pointsInto_filter_iff (hcurrent capabilityId)).trans ?_
      exact imp_congr_right fun _ ↦ forall_congr' fun v ↦ imp_congr_left mem_published_iff
    · intro capabilityId' hne
      exact currentAt_withdraws_iff_of_ne hwithdraws (hsame capabilityId') hne
  | revoke now capabilityId version reason =>
    have hwithdraws := withdraws_revoke (r := s.2) now capabilityId version reason
    have hpromotes (capabilityId' : String) :=
      current_revoke now capabilityId version reason capabilityId' hs.find?_ne_none
    rw [KeepsCurrent, observed_revoke, forall_currentAt_iff hcurrent capabilityId, CurrentAt,
      published_withdraws hwithdraws, hpromotes]
    · by_cases hwas : s.2.current capabilityId = some version
      · rw [if_pos ⟨rfl, hwas⟩, imp_iff_right hwas,
          pointsInto_head?_iff ((nodup_published s.2 capabilityId).filter _)]
        refine imp_congr_right fun _ ↦ ?_
        simp only [List.mem_filter, decide_eq_true_eq, mem_published_iff]
        exact ⟨fun h v v' hv hv' hne hne' ↦ h v ⟨hv, hne⟩ v' ⟨hv', hne'⟩,
          fun h v hv v' hv' ↦ h v v' hv.1 hv'.1 hv.2 hv'.2⟩
      · rw [if_neg fun h ↦ hwas h.2]
        exact iff_of_true ((hcurrent capabilityId).filter hwas) fun h ↦ absurd h hwas
    · intro capabilityId' hne
      refine currentAt_withdraws_iff_of_ne hwithdraws ?_ hne
      rw [hpromotes, if_neg fun h ↦ hne h.1]

theorem current_observed_iff (hs : Aligned s) (hcurrent : Current s) (call : Call) :
    Current (observed P s call) ↔ KeepsCurrent s call := by
  rw [current_iff_pointsInto (hs.step call)]
  exact currentAt_observed_iff hs ((current_iff_pointsInto hs).mp hcurrent) call

end Step

/-! ## Every history -/

theorem aligned_new (defaultKey : Option (List UInt8)) (defaultKid : Option String) :
    Aligned ([], new defaultKey defaultKid) := ⟨rfl, nofun⟩

theorem current_new (defaultKey : Option (List UInt8)) (defaultKid : Option String) :
    Current ([], new defaultKey defaultKid) := nofun

/-- **The current version** is right after every call of a history exactly when every call of it
meets the condition. -/
theorem current_iff_keepsCurrent (P : Primitives) (defaultKey : Option (List UInt8))
    (defaultKid : Option String) (calls : List Call) :
    (∀ pre, pre <+: calls → Current (run (observed P) ([], new defaultKey defaultKid) pre)) ↔
      AllSteps (observed P) KeepsCurrent ([], new defaultKey defaultKid) calls :=
  forall_prefix_iff_allSteps (I := Aligned) (J := Current) (fun _ call hs ↦ hs.step call)
    (fun _ call hs hcurrent ↦ current_observed_iff hs hcurrent call)
    (aligned_new defaultKey defaultKid) (current_new defaultKey defaultKid) calls

/-! ### Deprecating the current version -/

def summarize (version : String) : AgentCard where
  cardId := "card:1"
  capabilityId := "pub.summarize"
  name := "Summarize"
  version := version
  partnerId := "partner-acme"
  partnerContractId := "contract-001"
  createdAt := "2024-01-01T00:00:00.000Z"

/-- A second version is published, and deprecated again. -/
def withdrawnUpgrade : List Call :=
  [.publish (summarize "0.1.0") none none, .publishNewVersion (summarize "0.2.0") none none,
    .deprecateVersion "pub.summarize" "0.2.0"]

/-- The second version stays current, although the first one is published. -/
theorem deprecated_stays_current : ¬∀ (P : Primitives) (defaultKey : Option (List UInt8))
    (defaultKid : Option String) (calls pre : List Call), pre <+: calls →
      Current (run (observed P) ([], new defaultKey defaultKid) pre) := by
  intro hall
  obtain ⟨card, hget, hstatus, -⟩ := hall
    ⟨fun _ ↦ List.replicate 32 4, fun _ _ ↦ List.replicate 32 4, fun _ _ ↦ by decide⟩ (some [7])
    (some "signer-1") withdrawnUpgrade withdrawnUpgrade (List.prefix_refl _) "pub.summarize" "0.1.0"
    rfl
  obtain rfl := Except.ok.inj hget
  cases hstatus

end PublishedRegistry

end Orchestra
