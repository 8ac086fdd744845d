import Mathlib.Data.List.Sort
import Orchestra.Core.Text
import Orchestra.Foundation.KeyedTable
import Orchestra.Publishing.Card

/-!
# The registry of published cards

The registry keeps three dictionaries: the cards by capability and version, the version that is
current for a capability, and the cards of a partner. `publish` adds to all three, but moves the
current version only where there is none; `publishNewVersion` moves it always; `deprecateVersion`
changes the card and nothing else; `revoke` changes the card and, when it was the current version,
looks for another published one.

What the calls do to a capability is told by two views: its published versions, in the order in
which they were published (`published`), and the version that is current (`current`).
-/

namespace Orchestra

namespace PublishedRegistry

/-- `_Entry`: a card with the key that has signed it. -/
structure Entry where
  card : AgentCard
  key : List UInt8
  kid : String

/-- The key of an entry in `_by_version`. -/
def Entry.id (e : Entry) : String × String := e.card.key

/-- An item of `_latest`. -/
structure Latest where
  capabilityId : String
  version : String
  partnerId : String

end PublishedRegistry

/-- `PublishedRegistry`. Dictionaries keep their insertion order; the sets of `_by_partner` are
pairs of a partner and a key. -/
structure PublishedRegistry where
  byVersion : KeyedTable PublishedRegistry.Entry.id := .empty
  latest : KeyedTable PublishedRegistry.Latest.capabilityId := .empty
  byPartner : List (String × String × String) := []
  defaultKey : Option (List UInt8) := none
  defaultKid : Option String := none

inductive PublishingError where
  | publishError (message : String)
  | keyError (message : String)
  deriving DecidableEq

namespace PublishedRegistry

variable (P : Primitives) (r : PublishedRegistry)

def noPublishedCard (capabilityId version : String) : PublishingError :=
  .keyError ("no published card for " ++ capabilityId ++ " v" ++ version)

/-! ## Publishing -/

/-- `key or self._default_key`. -/
def signingKey : Option (List UInt8) → Option (List UInt8)
  | some (b :: bs) => some (b :: bs)
  | _ => r.defaultKey

/-- `kid or self._default_kid`. -/
def signingKid (kid : Option String) : Option String :=
  match kid with
  | some s => if s = "" then r.defaultKid else some s
  | none => r.defaultKid

/-- The registry with one more entry. -/
def store (e : Entry) : PublishedRegistry :=
  { r with
    byVersion := r.byVersion.put e
    latest :=
      if (r.latest.find? e.card.capabilityId).isSome then r.latest
      else r.latest.put ⟨e.card.capabilityId, e.card.version, e.card.partnerId⟩
    byPartner := r.byPartner.insert (e.card.partnerId, e.id) }

/-- The entry that a publication makes: the status changes before the card is signed. -/
def asPublished (card : AgentCard) (key : List UInt8) (kid : String) : Entry where
  card := signCard P { card with status := .published, publishedAt := some card.createdAt } key kid
  key := key
  kid := kid

def publish (card : AgentCard) (key : Option (List UInt8)) (kid : Option String) :
    PublishedRegistry × Except PublishingError AgentCard :=
  if card.status ≠ .draft then
    (r, .error (.publishError ("cannot publish a card in state " ++ card.status.pyFormat)))
  else if (r.byVersion.find? card.key).isSome then
    (r, .error (.publishError (card.capabilityId ++ " v" ++ card.version ++
      " is already published; use publish_new_version() for upgrades")))
  else
    match r.signingKey key, r.signingKid kid with
    | some k, some kid' => (r.store (asPublished P card k kid'), .ok (asPublished P card k kid').card)
    | _, _ =>
      (r, .error (.publishError "registry has no default key/kid; pass key= and kid="))

def publishNewVersion (card : AgentCard) (key : Option (List UInt8)) (kid : Option String) :
    PublishedRegistry × Except PublishingError AgentCard :=
  match publish P r card key kid with
  | (r', .ok signed) =>
    ({ r' with latest := r'.latest.put ⟨card.capabilityId, card.version, card.partnerId⟩ },
      .ok signed)
  | (r', .error e) => (r', .error e)

/-! ## Lookups -/

def get (capabilityId : String) (version : Option String) : Except PublishingError AgentCard :=
  match version with
  | some v =>
    match r.byVersion.find? (capabilityId, v) with
    | none => .error (noPublishedCard capabilityId v)
    | some e => .ok e.card
  | none =>
    match r.latest.find? capabilityId with
    | none => .error (.keyError ("no published card for " ++ capabilityId))
    | some l =>
      match r.byVersion.find? (capabilityId, l.version) with
      | none => .error (noPublishedCard capabilityId l.version)
      | some e => .ok e.card

def isCurrent (capabilityId : String) (version : Option String) : Bool :=
  match r.get capabilityId version with
  | .ok card => card.isCurrent
  | .error _ => false

/-- The order of pairs of strings. -/
def keyLe (k k' : String × String) : Bool := decide (k.1 < k'.1 ∨ k.1 = k'.1 ∧ k.2 ≤ k'.2)

/-- `self._by_version[k].card`. -/
def cardAt (k : String × String) : Except PublishingError AgentCard :=
  match r.byVersion.find? k with
  | none => .error (.keyError ("(" ++ pyRepr k.1 ++ ", " ++ pyRepr k.2 ++ ")"))
  | some e => .ok e.card

def listForPartner (partnerId : String) : Except PublishingError (List AgentCard) :=
  let keys := r.byPartner.filterMap fun p ↦ if p.1 = partnerId then some p.2 else none
  (keys.insertionSort fun k k' ↦ keyLe k k').mapM r.cardAt

/-! ## Withdrawing -/

/-- The registry with another card under a key; the new card has the same key. -/
def withCard (capabilityId version : String) (f : AgentCard → AgentCard)
    (hf : ∀ card, (f card).key = card.key) : PublishedRegistry :=
  { r with
    byVersion := r.byVersion.updateAt (capabilityId, version)
      (fun e ↦ { e with card := f e.card }) fun e ↦ hf e.card }

def deprecateCard (card : AgentCard) : AgentCard := { card with status := .deprecated }

/-- `deprecate`. -/
def deprecateVersion (capabilityId version : String) :
    PublishedRegistry × Except PublishingError AgentCard :=
  match r.byVersion.find? (capabilityId, version) with
  | none => (r, .error (noPublishedCard capabilityId version))
  | some e =>
    (r.withCard capabilityId version deprecateCard fun _ ↦ rfl, .ok (deprecateCard e.card))

/-- What `revoke` makes of a card when the clock shows `now`. -/
def revokeCard (now : ℕ) (reason : String) (card : AgentCard) : AgentCard :=
  { card with
    status := .revoked
    revokedAt := some (utcNowIso now)
    contractSnapshot := Json.setField card.contractSnapshot "revoke_reason" (.str reason) }

/-- The version that takes the place of a revoked one: the first published one in the dictionary. -/
def promoted (capabilityId version : String) : Option Entry :=
  r.byVersion.rows.find? fun e ↦ decide (e.card.capabilityId = capabilityId ∧
    e.card.status = .published ∧ e.card.version ≠ version)

/-- Removing a version from `_latest`, if it is there. -/
def demote (capabilityId version : String) : PublishedRegistry :=
  match r.latest.find? capabilityId with
  | none => r
  | some l =>
    if l.version = version then
      { r with
        latest :=
          match r.promoted capabilityId version with
          | some e => r.latest.put ⟨capabilityId, e.card.version, e.card.partnerId⟩
          | none => r.latest.delete fun l ↦ decide (l.capabilityId = capabilityId) }
    else r

def revoke (now : ℕ) (capabilityId version reason : String) :
    PublishedRegistry × Except PublishingError AgentCard :=
  match r.byVersion.find? (capabilityId, version) with
  | none => (r, .error (noPublishedCard capabilityId version))
  | some e =>
    let r' := (r.withCard capabilityId version (revokeCard now reason) fun _ ↦ rfl).demote
      capabilityId version
    ({ r' with byPartner := r'.byPartner.erase (e.card.partnerId, capabilityId, version) },
      .ok (revokeCard now reason e.card))

/-! ## The calls -/

/-- A call, with the clock reading where it takes one. -/
inductive Call where
  | publish (card : AgentCard) (key : Option (List UInt8)) (kid : Option String)
  | publishNewVersion (card : AgentCard) (key : Option (List UInt8)) (kid : Option String)
  | deprecateVersion (capabilityId version : String)
  | revoke (now : ℕ) (capabilityId version reason : String)

def step : Call → PublishedRegistry
  | .publish card key kid => (publish P r card key kid).1
  | .publishNewVersion card key kid => (publishNewVersion P r card key kid).1
  | .deprecateVersion capabilityId version => (deprecateVersion r capabilityId version).1
  | .revoke now capabilityId version reason => (revoke r now capabilityId version reason).1

/-- The publication is not refused. -/
def CanPublish (card : AgentCard) (key : Option (List UInt8)) (kid : Option String) : Prop :=
  card.status = .draft ∧ r.byVersion.find? card.key = none ∧ (r.signingKey key).isSome ∧
    (r.signingKid kid).isSome

/-! ## Two views of a capability -/

/-- The published versions, in the order in which they were published. -/
def published (capabilityId : String) : List String :=
  (r.byVersion.rows.filter fun e ↦ decide (e.card.capabilityId = capabilityId ∧
    e.card.status = .published)).map fun e ↦ e.card.version

/-- The version that is current, published or not. -/
def current (capabilityId : String) : Option String :=
  (r.latest.find? capabilityId).map Latest.version

/-- The status of a stored card. -/
def statusOf (key : String × String) : Option CardStatus :=
  (r.byVersion.find? key).map fun e ↦ e.card.status

/-- The keys of the stored cards, in the order in which they were published. -/
def keys : List (String × String) := r.byVersion.rows.map Entry.id

section Views

variable {P} {r} {capabilityId version : String} {card : AgentCard} {e : Entry}

theorem mem_published_iff :
    version ∈ r.published capabilityId ↔ r.statusOf (capabilityId, version) = some .published := by
  rw [published, statusOf, List.mem_map, Option.map_eq_some_iff]
  constructor
  · rintro ⟨e, he, rfl⟩
    obtain ⟨hmem, hcond⟩ := List.mem_filter.mp he
    obtain ⟨rfl, hstatus⟩ := of_decide_eq_true hcond
    exact ⟨e, KeyedTable.find?_of_mem hmem, hstatus⟩
  · rintro ⟨e, he, hstatus⟩
    obtain ⟨hcapability, hversion⟩ : e.card.capabilityId = capabilityId ∧
      e.card.version = version := Prod.mk.inj (KeyedTable.key_of_find? (r := e) he)
    refine ⟨e, List.mem_filter.mpr ⟨KeyedTable.mem_of_find? he, ?_⟩, hversion⟩
    exact decide_eq_true ⟨hcapability, hstatus⟩

theorem nodup_published (r : PublishedRegistry) (capabilityId : String) :
    (r.published capabilityId).Nodup := by
  have hrows : r.byVersion.rows.Nodup := r.byVersion.nodup_keys.of_map
  refine List.Nodup.map_on ?_ (hrows.filter _)
  intro e he e' he' hversion
  obtain ⟨hmem, hcond⟩ := List.mem_filter.mp he
  obtain ⟨hmem', hcond'⟩ := List.mem_filter.mp he'
  obtain ⟨hcapability, -⟩ := of_decide_eq_true hcond
  obtain ⟨hcapability', -⟩ := of_decide_eq_true hcond'
  refine KeyedTable.eq_of_mem_of_key_eq hmem hmem' ?_
  exact Prod.ext (hcapability.trans hcapability'.symm) hversion

/-- A card that is looked up is stored under its own key. -/
theorem statusOf_of_get {v : Option String} (h : r.get capabilityId v = .ok card) :
    r.statusOf card.key = some card.status := by
  have hstored (k : String × String) (e : Entry) (he : r.byVersion.find? k = some e) :
      r.statusOf e.card.key = some e.card.status := by
    rw [statusOf, show e.card.key = k from KeyedTable.key_of_find? (r := e) he, he]
    rfl
  cases v with
  | some v =>
    rw [get] at h
    split at h
    · cases h
    · next e he =>
      obtain rfl := Except.ok.inj h
      exact hstored _ e he
  | none =>
    rw [get] at h
    split at h
    · cases h
    split at h
    · cases h
    · next e he =>
      obtain rfl := Except.ok.inj h
      exact hstored _ e he

/-! ### Publications -/

theorem publish_of_not {key : Option (List UInt8)} {kid : Option String}
    (h : ¬CanPublish r card key kid) : ∃ e, publish P r card key kid = (r, .error e) := by
  rw [publish]
  split_ifs with hstatus hstored
  · exact ⟨_, rfl⟩
  · exact ⟨_, rfl⟩
  · split
    · next k kid' hk hkid =>
      refine absurd ⟨not_not.mp hstatus, Option.not_isSome_iff_eq_none.mp hstored, ?_, ?_⟩ h
      · rw [hk]; rfl
      · rw [hkid]; rfl
    · exact ⟨_, rfl⟩

theorem publish_of_canPublish {key : Option (List UInt8)} {kid : Option String}
    (h : CanPublish r card key kid) : ∃ k kid', publish P r card key kid =
      (r.store (asPublished P card k kid'), .ok (asPublished P card k kid').card) := by
  obtain ⟨hstatus, hstored, hk, hkid⟩ := h
  obtain ⟨k, hk⟩ := Option.isSome_iff_exists.mp hk
  obtain ⟨kid', hkid⟩ := Option.isSome_iff_exists.mp hkid
  refine ⟨k, kid', ?_⟩
  rw [publish, if_neg (not_not.mpr hstatus), hstored, hk, hkid]
  rfl

theorem published_store (hfresh : r.byVersion.find? e.id = none) (capabilityId : String) :
    (r.store e).published capabilityId = r.published capabilityId ++
      if e.card.capabilityId = capabilityId ∧ e.card.status = .published then [e.card.version]
      else [] := by
  rw [published, published, store, KeyedTable.rows_put_of_find?_eq_none hfresh, List.filter_append,
    List.map_append]
  congr 1
  by_cases h : e.card.capabilityId = capabilityId ∧ e.card.status = .published
  · simp [h]
  · rw [if_neg h, List.map_eq_nil_iff, List.filter_eq_nil_iff]
    simpa using h

theorem keys_store (hfresh : r.byVersion.find? e.id = none) :
    (r.store e).keys = r.keys ++ [e.id] := by
  rw [keys, store, KeyedTable.rows_put_of_find?_eq_none hfresh, List.map_append, List.map_singleton,
    keys]

theorem current_store (capabilityId : String) : (r.store e).current capabilityId =
    (r.current capabilityId).or
      (if e.card.capabilityId = capabilityId then some e.card.version else none) := by
  rw [current, current, store]
  dsimp only
  split_ifs with hthere hcapability hcapability
  · subst hcapability
    obtain ⟨l, hl⟩ := Option.isSome_iff_exists.mp hthere
    rw [hl]
    rfl
  · rw [Option.or_none]
  · subst hcapability
    rw [Option.not_isSome_iff_eq_none.mp hthere, KeyedTable.find?_put, if_pos rfl]
    rfl
  · rw [KeyedTable.find?_put, if_neg hcapability, Option.or_none]

/-! ### Withdrawals -/

section WithCard

variable {f : AgentCard → AgentCard} {hf : ∀ card, (f card).key = card.key}

/-- A card that is not published any more leaves the published versions. -/
theorem published_withCard (hstatus : ∀ card, (f card).status ≠ .published)
    (capabilityId' : String) : (r.withCard capabilityId version f hf).published capabilityId' =
      (r.published capabilityId').filter fun v ↦
        decide ¬(capabilityId' = capabilityId ∧ v = version) := by
  have hsame (e : Entry) : (if decide (e.id = (capabilityId, version)) then
      { e with card := f e.card } else e).card.version = e.card.version := by
    split_ifs
    · exact congrArg Prod.snd (hf e.card)
    · rfl
  have hrows : (r.withCard capabilityId version f hf).byVersion.rows = r.byVersion.rows.map fun e ↦
    if decide (e.id = (capabilityId, version)) then { e with card := f e.card } else e := rfl
  rw [published, published, hrows, List.filter_map, List.map_map, List.filter_map,
    List.filter_filter]
  refine (List.map_congr_left fun e _ ↦ hsame e).trans (congrArg _ (List.filter_congr ?_))
  intro e _
  rw [Function.comp_apply, Function.comp_apply, ← Bool.decide_and, decide_eq_decide]
  by_cases hid : e.id = (capabilityId, version)
  · -- the card under the key is no longer published
    obtain ⟨hcapability, hversion⟩ : e.card.capabilityId = capabilityId ∧
      e.card.version = version := Prod.mk.inj hid
    rw [if_pos (decide_eq_true hid)]
    refine iff_of_false (fun h ↦ hstatus _ h.2) ?_
    rintro ⟨hother, hcapability', -⟩
    exact hother ⟨hcapability'.symm.trans hcapability, hversion⟩
  · rw [if_neg (by simpa using hid)]
    refine ⟨fun h ↦ ⟨?_, h⟩, And.right⟩
    rintro ⟨rfl, hversion⟩
    exact hid (Prod.ext h.1 hversion)

theorem keys_withCard : (r.withCard capabilityId version f hf).keys = r.keys :=
  KeyedTable.keys_updateAt r.byVersion (fun e ↦ { e with card := f e.card })
    (fun e ↦ hf e.card) (capabilityId, version)

end WithCard

@[simp] theorem demote_byVersion : (r.demote capabilityId version).byVersion = r.byVersion := by
  rw [demote]
  split
  · rfl
  · split_ifs <;> rfl

@[simp] theorem demote_byPartner : (r.demote capabilityId version).byPartner = r.byPartner := by
  rw [demote]
  split
  · rfl
  · split_ifs <;> rfl

/-- The version that is promoted is the first of the others that are published. -/
theorem promoted_version : (r.promoted capabilityId version).map (fun e ↦ e.card.version) =
    ((r.published capabilityId).filter fun v ↦ decide (v ≠ version)).head? := by
  rw [published, List.filter_map, List.head?_map, List.filter_filter, List.head?_filter, promoted]
  congr 2
  funext e
  rw [Function.comp_apply, ← Bool.decide_and, decide_eq_decide]
  tauto

theorem current_demote (capabilityId' : String) :
    (r.demote capabilityId version).current capabilityId' =
      if capabilityId' = capabilityId ∧ r.current capabilityId = some version then
        ((r.published capabilityId).filter fun v ↦ decide (v ≠ version)).head?
      else r.current capabilityId' := by
  rw [← promoted_version, current, demote]
  cases hl : r.latest.find? capabilityId with
  | none =>
    rw [if_neg]
    · rfl
    · rintro ⟨-, h⟩
      rw [current, hl] at h
      cases h
  | some l =>
    have hcurrent : r.current capabilityId = some version ↔ l.version = version := by
      rw [current, hl, Option.map_some, Option.some.injEq]
    dsimp only
    by_cases hversion : l.version = version
    swap
    · rw [if_neg hversion, if_neg fun h ↦ hversion (hcurrent.mp h.2), current]
    rw [if_pos hversion]
    by_cases hcapability : capabilityId' = capabilityId
    · rw [if_pos ⟨hcapability, hcurrent.mpr hversion⟩, hcapability]
      cases r.promoted capabilityId version with
      | none => exact congrArg _ (KeyedTable.find?_delete_key r.latest capabilityId)
      | some e =>
        dsimp only
        rw [KeyedTable.find?_put, if_pos rfl]
        rfl
    · rw [if_neg fun h ↦ hcapability h.1, current]
      congr 1
      cases r.promoted capabilityId version with
      | none => exact KeyedTable.find?_delete_key_of_ne r.latest hcapability
      | some e =>
        dsimp only
        rw [KeyedTable.find?_put, if_neg (Ne.symm hcapability)]

end Views

/-! ## What the calls do to the views -/

/-- A card is added to the published versions of its capability, last. -/
structure Adds (card : AgentCard) (r r' : PublishedRegistry) : Prop where
  published : ∀ capabilityId, r'.published capabilityId = r.published capabilityId ++
    if card.capabilityId = capabilityId then [card.version] else []
  keys : r'.keys = r.keys ++ [card.key]

/-- A version is no longer among the published ones. -/
structure Withdraws (capabilityId version : String) (r r' : PublishedRegistry) : Prop where
  published : ∀ capabilityId', r'.published capabilityId' = (r.published capabilityId').filter
    fun v ↦ decide ¬(capabilityId' = capabilityId ∧ v = version)
  keys : r'.keys = r.keys

section Calls

variable {P} {r} {card : AgentCard} {key : Option (List UInt8)} {kid : Option String}
  {capabilityId version : String}

theorem adds_store (hfresh : r.byVersion.find? card.key = none) (k : List UInt8) (kid : String) :
    Adds card r (r.store (asPublished P card k kid)) where
  published := fun capabilityId ↦ by
    have hid : r.byVersion.find? (asPublished P card k kid).id = none := hfresh
    rw [published_store hid]
    congr 1
    exact if_congr (and_iff_left rfl) rfl rfl
  keys := keys_store hfresh

theorem adds_publish (h : CanPublish r card key kid) :
    Adds card r (publish P r card key kid).1 := by
  obtain ⟨k, kid', heq⟩ := publish_of_canPublish (P := P) h
  rw [heq]
  exact adds_store h.2.1 k kid'

theorem current_publish (h : CanPublish r card key kid) (capabilityId : String) :
    (publish P r card key kid).1.current capabilityId = (r.current capabilityId).or
      (if card.capabilityId = capabilityId then some card.version else none) := by
  obtain ⟨k, kid', heq⟩ := publish_of_canPublish (P := P) h
  rw [heq, current_store]
  rfl

theorem publishNewVersion_of_not (h : ¬CanPublish r card key kid) :
    ∃ e, publishNewVersion P r card key kid = (r, .error e) := by
  obtain ⟨e, he⟩ := publish_of_not (P := P) h
  rw [publishNewVersion, he]
  exact ⟨e, rfl⟩

theorem publishNewVersion_of_canPublish (h : CanPublish r card key kid) :
    ∃ signed, publishNewVersion P r card key kid =
      ({ (publish P r card key kid).1 with
        latest := (publish P r card key kid).1.latest.put
          ⟨card.capabilityId, card.version, card.partnerId⟩ }, .ok signed) := by
  obtain ⟨k, kid', heq⟩ := publish_of_canPublish (P := P) h
  rw [publishNewVersion, heq]
  exact ⟨_, rfl⟩

theorem adds_publishNewVersion (h : CanPublish r card key kid) :
    Adds card r (publishNewVersion P r card key kid).1 := by
  obtain ⟨signed, heq⟩ := publishNewVersion_of_canPublish (P := P) h
  have hadds := adds_publish (P := P) h
  rw [heq]
  exact ⟨hadds.published, hadds.keys⟩

theorem current_publishNewVersion (h : CanPublish r card key kid) (capabilityId : String) :
    (publishNewVersion P r card key kid).1.current capabilityId =
      if card.capabilityId = capabilityId then some card.version else r.current capabilityId := by
  obtain ⟨signed, heq⟩ := publishNewVersion_of_canPublish (P := P) h
  have hcurrent := current_publish (P := P) h capabilityId
  rw [current] at hcurrent
  rw [heq, current, KeyedTable.find?_put]
  split_ifs with hcapability
  · rfl
  · rw [hcurrent, if_neg hcapability, Option.or_none]

/-- What is not stored is not published, so there is nothing to withdraw. -/
theorem withdraws_of_not_stored (h : r.byVersion.find? (capabilityId, version) = none) :
    Withdraws capabilityId version r r where
  published := fun capabilityId' ↦ by
    symm
    rw [List.filter_eq_self]
    rintro v hv
    refine decide_eq_true ?_
    rintro ⟨rfl, rfl⟩
    rw [mem_published_iff, statusOf, h] at hv
    cases hv
  keys := rfl

theorem withdraws_withCard (r : PublishedRegistry) (capabilityId version : String)
    (f : AgentCard → AgentCard) (hf : ∀ card, (f card).key = card.key)
    (hstatus : ∀ card, (f card).status ≠ .published) :
    Withdraws capabilityId version r (r.withCard capabilityId version f hf) :=
  ⟨published_withCard hstatus, keys_withCard⟩

theorem withdraws_deprecateVersion (capabilityId version : String) :
    Withdraws capabilityId version r (deprecateVersion r capabilityId version).1 := by
  rw [deprecateVersion]
  split
  · next hnone => exact withdraws_of_not_stored hnone
  · exact withdraws_withCard r capabilityId version deprecateCard (fun _ ↦ rfl) fun _ ↦ nofun

theorem current_deprecateVersion (capabilityId version capabilityId' : String) :
    (deprecateVersion r capabilityId version).1.current capabilityId' =
      r.current capabilityId' := by
  rw [deprecateVersion]
  split <;> rfl

theorem withdraws_revoke (now : ℕ) (capabilityId version reason : String) :
    Withdraws capabilityId version r (revoke r now capabilityId version reason).1 := by
  rw [revoke]
  split
  · next hnone => exact withdraws_of_not_stored hnone
  · have hcard : Withdraws capabilityId version r
        (r.withCard capabilityId version (revokeCard now reason) fun _ ↦ rfl) :=
      withdraws_withCard r capabilityId version _ _ fun _ ↦ nofun
    constructor
    · intro capabilityId'
      rw [← hcard.published, published, published]
      dsimp only
      rw [demote_byVersion]
    · rw [← hcard.keys, keys, keys]
      dsimp only
      rw [demote_byVersion]

/-- The current version after a revocation. -/
theorem current_revoke (now : ℕ) (capabilityId version reason capabilityId' : String)
    (hstored : r.current capabilityId = some version →
      r.byVersion.find? (capabilityId, version) ≠ none) :
    (revoke r now capabilityId version reason).1.current capabilityId' =
      if capabilityId' = capabilityId ∧ r.current capabilityId = some version then
        ((r.published capabilityId).filter fun v ↦ decide (v ≠ version)).head?
      else r.current capabilityId' := by
  rw [revoke]
  split
  · next hnone => rw [if_neg fun h ↦ hstored h.2 hnone]
  · have hcard : Withdraws capabilityId version r
        (r.withCard capabilityId version (revokeCard now reason) fun _ ↦ rfl) :=
      withdraws_withCard r capabilityId version _ _ fun _ ↦ nofun
    refine (current_demote capabilityId').trans ?_
    rw [hcard.published, List.filter_filter]
    simp only [true_and, decide_not, Bool.and_self]
    rfl

end Calls

/-! ## The cards of a partner -/

/-- The index of partners lists stored cards. -/
def Indexed (r : PublishedRegistry) : Prop := ∀ p ∈ r.byPartner, p.2 ∈ r.keys

namespace Indexed

variable {P} {r}

/-- Listing the cards of a partner does not raise. -/
theorem exists_listForPartner (h : Indexed r) (partnerId : String) :
    ∃ cards, r.listForPartner partnerId = .ok cards := by
  have hfound (ks : List (String × String)) (hks : ∀ k ∈ ks, k ∈ r.keys) :
      ∃ cards, ks.mapM r.cardAt = .ok cards := by
    induction ks with
    | nil => exact ⟨[], rfl⟩
    | cons k ks ih =>
      rw [List.forall_mem_cons] at hks
      obtain ⟨cards, hcards⟩ := ih hks.2
      obtain ⟨e, he⟩ := Option.ne_none_iff_exists'.mp
        fun hnone ↦ KeyedTable.find?_eq_none_iff.mp hnone hks.1
      rw [List.mapM_cons, cardAt, he, hcards]
      exact ⟨e.card :: cards, rfl⟩
  refine hfound _ fun k hk ↦ ?_
  rw [List.mem_insertionSort, List.mem_filterMap] at hk
  obtain ⟨p, hp, hsome⟩ := hk
  split_ifs at hsome
  exact Option.some.inj hsome ▸ h p hp

theorem publish (h : Indexed r) (card : AgentCard) (key : Option (List UInt8))
    (kid : Option String) : Indexed (publish P r card key kid).1 := by
  by_cases hcan : CanPublish r card key kid
  · have hkeys := (adds_publish (P := P) hcan).keys
    obtain ⟨k, kid', heq⟩ := publish_of_canPublish (P := P) hcan
    rw [heq] at hkeys ⊢
    intro p hp
    rw [hkeys, List.mem_append]
    rcases List.mem_insert_iff.mp hp with rfl | hp
    · exact Or.inr (List.mem_singleton_self card.key)
    · exact Or.inl (h p hp)
  · obtain ⟨e, he⟩ := publish_of_not (P := P) hcan
    rwa [he]

theorem step (h : Indexed r) (call : Call) : Indexed (step P r call) := by
  cases call with
  | publish card key kid => exact h.publish card key kid
  | publishNewVersion card key kid =>
    have hpublish := h.publish (P := P) card key kid
    rw [PublishedRegistry.step, publishNewVersion]
    split
    · next r' signed heq =>
      rw [heq] at hpublish
      exact hpublish
    · next r' e heq =>
      rw [heq] at hpublish
      exact hpublish
  | deprecateVersion capabilityId version =>
    have hkeys := (withdraws_deprecateVersion (r := r) capabilityId version).keys
    intro p hp
    rw [PublishedRegistry.step, hkeys]
    refine h p ?_
    rw [PublishedRegistry.step, deprecateVersion] at hp
    split at hp <;> exact hp
  | revoke now capabilityId version reason =>
    have hkeys := (withdraws_revoke (r := r) now capabilityId version reason).keys
    intro p hp
    rw [PublishedRegistry.step, hkeys]
    refine h p ?_
    rw [PublishedRegistry.step, revoke] at hp
    split at hp
    · exact hp
    · have hmem := List.mem_of_mem_erase hp
      rwa [demote_byPartner] at hmem

end Indexed

end PublishedRegistry

end Orchestra
