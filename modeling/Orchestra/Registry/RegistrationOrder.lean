import Orchestra.Registry.Router

/-!
# The order of registration

A manifest store keeps its manifests in the order in which they were added. Routing does not show
that order: the sort key of the candidates is a total order on them, since two capabilities of one
store never share an id, and everything else the router reads of the store is a lookup by id.
-/

namespace Orchestra

/-! ## Filling a store -/

namespace ManifestStore

/-- `ManifestStore(manifests)`: the manifests are added one after the other. -/
def ofManifests (manifests : List CapabilityManifest) : Except Raised ManifestStore :=
  manifests.foldlM add KeyedTable.empty

theorem add_eq_ok_iff {store store' : ManifestStore} {m : CapabilityManifest} :
    store.add m = .ok store' ↔ store.insert m = some store' := by
  rw [add]
  cases store.insert m with
  | none => simp
  | some t => simp

/-- New ids are added behind the manifests that are there. -/
theorem foldlM_add {store : ManifestStore} {manifests : List CapabilityManifest}
    (h : ((store.rows ++ manifests).map CapabilityManifest.capabilityId).Nodup) :
    ∃ store', manifests.foldlM add store = .ok store' ∧
      store'.rows = store.rows ++ manifests := by
  induction manifests generalizing store with
  | nil => exact ⟨store, rfl, (List.append_nil _).symm⟩
  | cons m manifests ih =>
    have hnew : store.find? m.capabilityId = none := by
      rw [KeyedTable.find?_eq_none_iff]
      rw [List.map_append, List.map_cons, List.nodup_append] at h
      intro hmem
      exact h.2.2 _ hmem _ List.mem_cons_self rfl
    obtain ⟨store₁, h₁⟩ := Option.isSome_iff_exists.mp (KeyedTable.insert_isSome_iff.mpr hnew)
    have hrows := KeyedTable.rows_of_insert h₁
    have happend : store₁.rows ++ manifests = store.rows ++ m :: manifests := by
      rw [hrows, List.append_assoc, List.singleton_append]
    rw [← happend] at h
    obtain ⟨store', h', hrows'⟩ := ih h
    refine ⟨store', ?_, hrows'.trans happend⟩
    rw [List.foldlM_cons, add_eq_ok_iff.mpr h₁]
    exact h'

/-- Manifests with distinct ids fill a store. -/
theorem ofManifests_eq_ok {manifests : List CapabilityManifest}
    (h : (manifests.map CapabilityManifest.capabilityId).Nodup) :
    ∃ store, ofManifests manifests = .ok store ∧ store.rows = manifests := by
  have hnew : (((KeyedTable.empty : ManifestStore).rows ++ manifests).map
      CapabilityManifest.capabilityId).Nodup := h
  exact foldlM_add hnew

end ManifestStore

/-! ## Two orders -/

/-- The ranking is by a total order on the manifests of a store, so it is the same for every order
of the rows. -/
theorem rankedCandidates_eq_of_perm (F : FloatModel) (node : NodeSpec)
    {store store' : ManifestStore} (h : store.rows.Perm store'.rows) :
    rankedCandidates F node store = rankedCandidates F node store' := by
  have hcandidates := (h.filter (isEligible node)).map (eligibleEntry F)
  refine List.Perm.eq_of_pairwise ?_ (List.pairwise_insertionSort _ _)
    (List.pairwise_insertionSort _ _) ?_
  · -- two entries before each other are of one id, and of one manifest then
    intro a b ha hb hab hba
    obtain ⟨m, hm, -, rfl⟩ := mem_rankedCandidates.mp ha
    obtain ⟨m', hm', -, rfl⟩ := mem_rankedCandidates.mp hb
    have hid : m.capabilityId = m'.capabilityId := hab.antisymm hba
    rw [KeyedTable.eq_of_mem_of_key_eq hm (h.mem_iff.mpr hm') hid]
  · exact (List.perm_insertionSort _ _).trans
      (hcandidates.trans (List.perm_insertionSort _ _).symm)

theorem computeEligibleSet_eq_of_perm (F : FloatModel) (node : NodeSpec)
    {store store' : ManifestStore} (h : store.rows.Perm store'.rows) :
    computeEligibleSet F node store = computeEligibleSet F node store' := by
  rw [computeEligibleSet, computeEligibleSet, rankedCandidates_eq_of_perm F node h]

namespace Router

theorem fallback_eq_of_perm {policy : PolicyEngine} {store store' : ManifestStore}
    (h : store.rows.Perm store'.rows) (node : NodeSpec) :
    (Router.mk store policy).fallback node = (Router.mk store' policy).fallback node := by
  simp only [fallback, KeyedTable.find?_eq_of_perm h]

/-- The loop over the candidates reads the policy alone. -/
theorem poll_eq_of_policy {policy : PolicyEngine} (store store' : ManifestStore) (node : NodeSpec)
    (q : Query) (denied : List (String × String)) (last : Option PolicyDecision)
    (entries : List EligibleEntry) :
    (Router.mk store policy).poll node q denied last entries =
      (Router.mk store' policy).poll node q denied last entries := by
  induction entries generalizing denied last with
  | nil => rfl
  | cons entry entries ih =>
    rw [poll, poll]
    split
    · rfl
    · exact ih _ _

theorem route_eq_of_perm (P : Primitives) (F : FloatModel) (policy : PolicyEngine) (now : ℕ)
    (node : NodeSpec) (q : Query) {store store' : ManifestStore}
    (h : store.rows.Perm store'.rows) :
    (Router.mk store policy).route P F now node q =
      (Router.mk store' policy).route P F now node q := by
  simp only [route, computeEligibleSet_eq_of_perm F node h, fallback_eq_of_perm h node,
    poll_eq_of_policy store store']

/-- **Routing does not depend on the order of registration.** Manifests with distinct ids fill a
store in any order, and for two orders the eligible sets agree in their entries and their order, and
the routers in everything they decide. -/
theorem route_registration_order (P : Primitives) (F : FloatModel)
    {manifests manifests' : List CapabilityManifest}
    (hids : (manifests.map CapabilityManifest.capabilityId).Nodup)
    (horder : manifests.Perm manifests') :
    ∃ store store', ManifestStore.ofManifests manifests = .ok store ∧
      ManifestStore.ofManifests manifests' = .ok store' ∧ ∀ node,
        computeEligibleSet F node store = computeEligibleSet F node store' ∧
        ∀ policy now q, (Router.mk store policy).route P F now node q =
          (Router.mk store' policy).route P F now node q := by
  obtain ⟨store, hstore, hrows⟩ := ManifestStore.ofManifests_eq_ok hids
  obtain ⟨store', hstore', hrows'⟩ :=
    ManifestStore.ofManifests_eq_ok ((horder.map CapabilityManifest.capabilityId).nodup hids)
  have hperm : store.rows.Perm store'.rows := by rwa [hrows, hrows']
  exact ⟨store, store', hstore, hstore', fun node ↦ ⟨computeEligibleSet_eq_of_perm F node hperm,
    fun policy now q ↦ route_eq_of_perm P F policy now node q hperm⟩⟩

/-- A local model; two of them with different ids have one score. -/
def localModelNamed (capabilityId : String) : CapabilityManifest where
  capabilityId := capabilityId
  name := "Extractor"
  kind := .localModel
  endpoint := "http://localhost:8000"

/-- Two capabilities with one score are ranked alike whichever was added first. -/
theorem route_registration_order_tie : ∃ P F store store',
    ManifestStore.ofManifests [localModelNamed "local.b", localModelNamed "local.a"] = .ok store ∧
      ManifestStore.ofManifests [localModelNamed "local.a", localModelNamed "local.b"] =
        .ok store' ∧
      computeEligibleSet F localNode store = computeEligibleSet F localNode store' ∧
      ∀ policy now q, (Router.mk store policy).route P F now localNode q =
        (Router.mk store' policy).route P F now localNode q := by
  obtain ⟨P⟩ : Nonempty Primitives :=
    ⟨fun _ ↦ List.replicate 32 0, fun _ _ ↦ List.replicate 32 0, fun _ _ ↦ by decide⟩
  obtain ⟨F⟩ : Nonempty FloatModel := ⟨id, fun _ ↦ "1.0"⟩
  have hids : ([localModelNamed "local.b", localModelNamed "local.a"].map
      CapabilityManifest.capabilityId).Nodup := by decide
  obtain ⟨store, store', hstore, hstore', h⟩ :=
    route_registration_order P F hids (List.Perm.swap _ _ [])
  exact ⟨P, F, store, store', hstore, hstore', h localNode⟩

end Router

end Orchestra
