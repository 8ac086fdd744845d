import Orchestra.Compiler.PlanSigner
import Orchestra.Core.JsonFraming

/-!
# What a plan signature covers

`PlanSigner` authenticates the canonical rendering of a plan's body. Two plans have one rendering
exactly when their bodies are the same (`signerBytes_eq_iff`), so every change of the body shows,
at any depth. The body is the plan without its signature and without `signed_by`: who is said to
have signed a plan can be changed without a trace.
-/

namespace Orchestra

open Json

/-! ## Dumps are read back -/

/-- A rendered list of dumps determines the list, up to what a rendered dump determines. -/
theorem forall₂_of_render_map {α : Type*} {dump : α → Json} {R : α → α → Prop} {l l' : List α}
    (hframed : ∀ a, Framed (dump a)) (hinj : ∀ a b, render (dump a) = render (dump b) → R a b)
    (h : render (.arr (l.map dump)) = render (.arr (l'.map dump))) : List.Forall₂ R l l' := by
  have hmem {l : List α} : ∀ v ∈ l.map dump, Framed v := by
    intro v hv
    obtain ⟨a, -, rfl⟩ := List.mem_map.mp hv
    exact hframed a
  have htexts := map_render_of_render_arr hmem hmem h
  rw [List.map_map, List.map_map, ← List.forall₂_eq_eq_eq, List.forall₂_map_left_iff,
    List.forall₂_map_right_iff] at htexts
  exact htexts.imp fun a b hab ↦ hinj a b hab

theorem eq_of_render_map {α : Type*} {dump : α → Json} {l l' : List α}
    (hframed : ∀ a, Framed (dump a)) (hinj : ∀ a b, render (dump a) = render (dump b) → a = b)
    (h : render (.arr (l.map dump)) = render (.arr (l'.map dump))) : l = l' := by
  rw [← List.forall₂_eq_eq_eq]
  exact forall₂_of_render_map hframed hinj h

theorem framed_strs (l : List String) : Framed (.arr (l.map .str)) :=
  .arr fun v hv ↦ by
    obtain ⟨s, -, rfl⟩ := List.mem_map.mp hv
    exact .str s

theorem eq_of_render_strs {l l' : List String}
    (h : render (.arr (l.map .str)) = render (.arr (l'.map .str))) : l = l' :=
  eq_of_render_map .str (fun _ _ ↦ eq_of_render_str) h

namespace Purpose

theorem framed (p : Purpose) : Framed p.modelDump := by
  refine .obj ?_
  simp only [List.forall_mem_cons, List.not_mem_nil, false_imp_iff, implies_true, and_true]
  exact ⟨.str _, .str _⟩

theorem eq_of_render {p q : Purpose} (h : render p.modelDump = render q.modelDump) : p = q := by
  have hkeys : ["code", "description"].Nodup := by decide
  have hget := get_render_of_render_obj hkeys hkeys rfl rfl p.framed q.framed h
  have hcode := eq_of_render_str (Option.some.inj (hget "code"))
  have hdescription := eq_of_render_str (Option.some.inj (hget "description"))
  cases p
  cases q
  cases hcode
  cases hdescription
  rfl

end Purpose

namespace DataView

theorem value_injective {s t : ViewShape} (h : s.value = t.value) : s = t := by
  cases s with
  | reference =>
    cases t with
    | reference => rfl
    | fields => exact absurd h (by decide)
  | fields =>
    cases t with
    | reference => exact absurd h (by decide)
    | fields => rfl

theorem framed (v : DataView) : Framed v.modelDump := by
  refine .obj ?_
  simp only [List.forall_mem_cons, List.not_mem_nil, false_imp_iff, implies_true, and_true]
  exact ⟨.str _, .str _, framed_strs _, framed_ofOption _⟩

theorem eq_of_render {v w : DataView} (h : render v.modelDump = render w.modelDump) : v = w := by
  have hkeys : ["name", "shape", "fields", "source"].Nodup := by decide
  have hget := get_render_of_render_obj hkeys hkeys rfl rfl v.framed w.framed h
  have hname := eq_of_render_str (Option.some.inj (hget "name"))
  have hshape := value_injective (eq_of_render_str (Option.some.inj (hget "shape")))
  have hfields := eq_of_render_strs (Option.some.inj (hget "fields"))
  have hsource := eq_of_render_ofOption (Option.some.inj (hget "source"))
  cases v
  cases w
  cases hname
  cases hshape
  cases hfields
  cases hsource
  rfl

end DataView

namespace PlanNode

theorem value_injective : ∀ s t : PlanNodeStatus, s.value = t.value → s = t := by
  intro s t h
  cases s <;> cases t <;> first | rfl | exact absurd h (by decide)

theorem framed (n : PlanNode) : Framed n.modelDump := by
  refine .obj ?_
  simp only [List.forall_mem_cons, List.not_mem_nil, false_imp_iff, implies_true, and_true]
  refine ⟨.str _, .str _, .str _, n.purpose.framed, .arr fun v hv ↦ ?_, framed_strs _, framed_int _,
    framed_ofOption _, framed_bool _, .str _⟩
  obtain ⟨view, -, rfl⟩ := List.mem_map.mp hv
  exact view.framed

theorem eq_of_render {n m : PlanNode} (h : render n.modelDump = render m.modelDump) : n = m := by
  have hkeys : ["node_id", "capability_id", "manifest_id", "purpose", "input_views",
    "expected_outputs", "timeout_ms", "fallback_capability_id", "requires_approval",
    "status"].Nodup := by decide
  have hget := get_render_of_render_obj hkeys hkeys rfl rfl n.framed m.framed h
  have hnode := eq_of_render_str (Option.some.inj (hget "node_id"))
  have hcapability := eq_of_render_str (Option.some.inj (hget "capability_id"))
  have hmanifest := eq_of_render_str (Option.some.inj (hget "manifest_id"))
  have hpurpose := Purpose.eq_of_render (Option.some.inj (hget "purpose"))
  have hviews := eq_of_render_map DataView.framed (fun _ _ ↦ DataView.eq_of_render)
    (Option.some.inj (hget "input_views"))
  have houtputs := eq_of_render_strs (Option.some.inj (hget "expected_outputs"))
  have htimeout := eq_of_render_int (Option.some.inj (hget "timeout_ms"))
  have hfallback := eq_of_render_ofOption (Option.some.inj (hget "fallback_capability_id"))
  have happroval := eq_of_render_bool (Option.some.inj (hget "requires_approval"))
  have hstatus := value_injective _ _ (eq_of_render_str (Option.some.inj (hget "status")))
  cases n
  cases m
  cases hnode
  cases hcapability
  cases hmanifest
  cases hpurpose
  cases hviews
  cases houtputs
  cases htimeout
  cases hfallback
  cases happroval
  cases hstatus
  rfl

end PlanNode

namespace PlanEdge

theorem framed (e : PlanEdge) : Framed e.modelDump := by
  refine .obj ?_
  simp only [List.forall_mem_cons, List.not_mem_nil, false_imp_iff, implies_true, and_true]
  exact ⟨.str _, .str _, .str _⟩

theorem eq_of_render {e f : PlanEdge} (h : render e.modelDump = render f.modelDump) : e = f := by
  have hkeys : ["from_node", "to_node", "when"].Nodup := by decide
  have hget := get_render_of_render_obj hkeys hkeys rfl rfl e.framed f.framed h
  have hfrom := eq_of_render_str (Option.some.inj (hget "from_node"))
  have hto := eq_of_render_str (Option.some.inj (hget "to_node"))
  have hwhen := eq_of_render_str (Option.some.inj (hget "when"))
  cases e
  cases f
  cases hfrom
  cases hto
  cases hwhen
  rfl

end PlanEdge

/-! ## Routing decisions -/

namespace RoutingDecision

/-- The same decision: `rejected` is a dictionary, whose order does not count. -/
structure Same (d e : RoutingDecision) : Prop where
  nodeId : d.nodeId = e.nodeId
  chosenCapabilityId : d.chosenCapabilityId = e.chosenCapabilityId
  chosenManifestId : d.chosenManifestId = e.chosenManifestId
  eligibleSet : d.eligibleSet = e.eligibleSet
  rejected : d.rejected.Perm e.rejected
  rationale : d.rationale = e.rationale
  decidedAt : d.decidedAt = e.decidedAt

/-- The keys of a dictionary are distinct. -/
def DistinctKeys (d : RoutingDecision) : Prop := (d.rejected.map Prod.fst).Nodup

/-- A dictionary of strings as JSON. -/
def strDict (items : List (String × String)) : List (String × Json) :=
  items.map fun r ↦ (r.1, .str r.2)

theorem map_fst_strDict (items : List (String × String)) :
    (strDict items).map Prod.fst = items.map Prod.fst := by
  rw [strDict, List.map_map]
  rfl

theorem framed_strDict (items : List (String × String)) : Framed (.obj (strDict items)) := by
  refine .obj fun f hf ↦ ?_
  obtain ⟨r, -, rfl⟩ := List.mem_map.mp hf
  exact .str r.2

theorem perm_of_render {items items' : List (String × String)} (hd : (items.map Prod.fst).Nodup)
    (hd' : (items'.map Prod.fst).Nodup)
    (h : render (.obj (strDict items)) = render (.obj (strDict items'))) : items.Perm items' := by
  have hget (key : String) : Dictionary.get items key = Dictionary.get items' key := by
    have hkey := get_render_of_render_obj hd hd' (map_fst_strDict items) (map_fst_strDict items')
      (framed_strDict items) (framed_strDict items') h key
    rw [strDict, strDict, Dictionary.get_map fun _ v ↦ Json.str v,
      Dictionary.get_map fun _ v ↦ Json.str v, Option.map_map, Option.map_map] at hkey
    exact Option.map_injective (fun _ _ hst ↦ eq_of_render_str hst) hkey
  refine (List.perm_ext_iff_of_nodup (List.Nodup.of_map _ hd) (List.Nodup.of_map _ hd')).mpr ?_
  rintro ⟨key, v⟩
  rw [← Dictionary.get_eq_some_iff hd, ← Dictionary.get_eq_some_iff hd', hget]

theorem framed (d : RoutingDecision) : Framed d.modelDump := by
  refine .obj ?_
  simp only [List.forall_mem_cons, List.not_mem_nil, false_imp_iff, implies_true, and_true]
  exact ⟨.str _, .str _, .str _, framed_strs _, framed_strDict _, .str _, .str _⟩

variable {d e : RoutingDecision}

theorem same_of_render (hd : d.DistinctKeys) (he : e.DistinctKeys)
    (h : render d.modelDump = render e.modelDump) : d.Same e := by
  have hkeys : ["node_id", "chosen_capability_id", "chosen_manifest_id", "eligible_set", "rejected",
    "rationale", "decided_at"].Nodup := by decide
  have hget := get_render_of_render_obj hkeys hkeys rfl rfl d.framed e.framed h
  exact {
    nodeId := eq_of_render_str (Option.some.inj (hget "node_id"))
    chosenCapabilityId := eq_of_render_str (Option.some.inj (hget "chosen_capability_id"))
    chosenManifestId := eq_of_render_str (Option.some.inj (hget "chosen_manifest_id"))
    eligibleSet := eq_of_render_strs (Option.some.inj (hget "eligible_set"))
    rejected := perm_of_render hd he (Option.some.inj (hget "rejected"))
    rationale := eq_of_render_str (Option.some.inj (hget "rationale"))
    decidedAt := eq_of_render_str (Option.some.inj (hget "decided_at")) }

theorem Same.render_eq (hd : d.DistinctKeys) (h : d.Same e) :
    render d.modelDump = render e.modelDump := by
  have hdict : (strDict d.rejected).map Prod.fst = d.rejected.map Prod.fst := map_fst_strDict _
  have hreorder : Json.Same (.obj (strDict d.rejected)) (.obj (strDict e.rejected)) :=
    .reorder (hdict ▸ hd) (h.rejected.map _)
  have hrejected := hreorder.render_eq
  rw [strDict, strDict] at hrejected
  rw [modelDump, modelDump, render_obj, render_obj, h.nodeId, h.chosenCapabilityId,
    h.chosenManifestId, h.eligibleSet, h.rationale, h.decidedAt]
  simp only [List.map_cons, List.map_nil, hrejected]

end RoutingDecision

/-! ## Plans -/

namespace ExecutionPlan

/-- The dictionaries of a plan have distinct keys. -/
def DistinctKeys (p : ExecutionPlan) : Prop := ∀ d ∈ p.routing, d.DistinctKeys

/-- The plans agree in every field, at any depth, except in `signed_by` and `signature`. -/
structure SameBody (p q : ExecutionPlan) : Prop where
  planId : p.planId = q.planId
  contractId : p.contractId = q.contractId
  templateId : p.templateId = q.templateId
  templateVersion : p.templateVersion = q.templateVersion
  nodes : p.nodes = q.nodes
  edges : p.edges = q.edges
  routing : List.Forall₂ RoutingDecision.Same p.routing q.routing
  createdAt : p.createdAt = q.createdAt

/-- The plans agree in every field except in `signature`. -/
def SameButSignature (p q : ExecutionPlan) : Prop := p.SameBody q ∧ p.signedBy = q.signedBy

variable {p q : ExecutionPlan}

theorem framed_signerBody (p : ExecutionPlan) : Framed (.obj p.signerBody) := by
  refine .obj ?_
  simp only [signerBody, List.forall_mem_cons, List.not_mem_nil, false_imp_iff, implies_true,
    and_true]
  refine ⟨.str _, .str _, .str _, .str _, .arr fun v hv ↦ ?_, .arr fun v hv ↦ ?_,
    .arr fun v hv ↦ ?_, .str _⟩
  · obtain ⟨n, -, rfl⟩ := List.mem_map.mp hv
    exact n.framed
  · obtain ⟨e, -, rfl⟩ := List.mem_map.mp hv
    exact e.framed
  · obtain ⟨d, -, rfl⟩ := List.mem_map.mp hv
    exact d.framed

/-- Two lists of routing decisions with one rendering. -/
theorem forall₂_same_of_render (hp : p.DistinctKeys) (hq : q.DistinctKeys)
    (h : render (.arr (p.routing.map RoutingDecision.modelDump)) =
      render (.arr (q.routing.map RoutingDecision.modelDump))) :
    List.Forall₂ RoutingDecision.Same p.routing q.routing := by
  have hdumps := forall₂_of_render_map RoutingDecision.framed (fun _ _ heq ↦ heq) h
  have hleft := (List.forall₂_and_left _ _).mpr ⟨hp, hdumps⟩
  have hright := (List.forall₂_and_left _ _).mpr ⟨hq, hleft.flip⟩
  exact hright.flip.imp fun d e hde ↦ RoutingDecision.same_of_render hde.2.1 hde.1 hde.2.2

/-- **The signed bytes determine the body**, and the body the signed bytes. -/
theorem signerBytes_eq_iff (hp : p.DistinctKeys) (hq : q.DistinctKeys) :
    p.signerBytes = q.signerBytes ↔ p.SameBody q := by
  rw [signerBytes, signerBytes, canonicalJson_eq_iff]
  constructor
  · intro h
    have hkeys : ["plan_id", "contract_id", "template_id", "template_version", "nodes", "edges",
      "routing", "created_at"].Nodup := by decide
    have hget := get_render_of_render_obj hkeys hkeys rfl rfl p.framed_signerBody
      q.framed_signerBody h
    exact {
      planId := eq_of_render_str (Option.some.inj (hget "plan_id"))
      contractId := eq_of_render_str (Option.some.inj (hget "contract_id"))
      templateId := eq_of_render_str (Option.some.inj (hget "template_id"))
      templateVersion := eq_of_render_str (Option.some.inj (hget "template_version"))
      nodes := eq_of_render_map PlanNode.framed (fun _ _ ↦ PlanNode.eq_of_render)
        (Option.some.inj (hget "nodes"))
      edges := eq_of_render_map PlanEdge.framed (fun _ _ ↦ PlanEdge.eq_of_render)
        (Option.some.inj (hget "edges"))
      routing := forall₂_same_of_render hp hq (Option.some.inj (hget "routing"))
      createdAt := eq_of_render_str (Option.some.inj (hget "created_at")) }
  · intro h
    have htexts : p.routing.map (render ∘ RoutingDecision.modelDump) =
        q.routing.map (render ∘ RoutingDecision.modelDump) := by
      rw [← List.forall₂_eq_eq_eq, List.forall₂_map_left_iff, List.forall₂_map_right_iff]
      exact ((List.forall₂_and_left _ _).mpr ⟨hp, h.routing⟩).imp fun d e hde ↦
        hde.2.render_eq hde.1
    have hrouting : render (.arr (p.routing.map RoutingDecision.modelDump)) =
        render (.arr (q.routing.map RoutingDecision.modelDump)) := by
      rw [render_arr_cons, render_arr_cons, List.map_map, List.map_map, htexts]
    rw [render_obj, render_obj, signerBody, signerBody, h.planId, h.contractId, h.templateId,
      h.templateVersion, h.nodes, h.edges, h.createdAt]
    simp only [List.map_cons, List.map_nil, hrouting]

end ExecutionPlan

/-! ## Tamper evidence -/

/-- HMAC has no collision. -/
def Primitives.MacCollisionFree (P : Primitives) : Prop := Function.Injective2 P.hmacSha256

variable {P : Primitives}

theorem signedBytes_injective (hcf : P.CollisionFree) : Function.Injective (signedBytes P) := by
  intro bytes bytes' h
  rw [signedBytes, signedBytes, toList_eq_data, toList_eq_data, Array.toList_inj] at h
  exact hcf (hexdigest_injective (String.toByteArray_inj.mp (ByteArray.ext h)))

/-- Without collisions a signature determines the key and the bytes. -/
theorem hmacSign_eq_iff_of_collisionFree (hcf : P.CollisionFree) (hmac : P.MacCollisionFree)
    {key key' : List UInt8} {payload payload' : Json} :
    hmacSign P key payload = hmacSign P key' payload' ↔
      key = key' ∧ payload.canonicalJson = payload'.canonicalJson := by
  rw [hmacSign_eq_iff, hmac.eq_iff, (signedBytes_injective hcf).eq_iff]

namespace PlanSigner

/-- A plan with a signature that was made for another plan. -/
theorem verify_hmacSign (signer : PlanSigner) (q : ExecutionPlan) (key : List UInt8)
    (payload : Json) :
    signer.verify P { q with signature := some (hmacSign P key payload) } =
      .ok (hmacSign P signer.key (.obj q.signerBody) == hmacSign P key payload) := by
  rw [verify]
  dsimp only
  rw [if_neg (hmacSign_ne_empty _ _), hmacVerify_hmacSign]
  rfl

/-- What a signature on the plan `p` is to show, of a plan `q` and of another signer. -/
structure TamperEvident (P : Primitives) (signer other : PlanSigner) (p q : ExecutionPlan) :
    Prop where
  genuine : signer.verify P (signer.sign P p) = .ok true
  otherKey : other.key ≠ signer.key → signer.verify P (other.sign P p) = .ok false
  changed : ¬q.SameButSignature (signer.sign P p) →
    signer.verify P { q with signature := (signer.sign P p).signature } = .ok false

/-- **What the signature of a plan shows.** Without collisions a signature on a plan shows that
another plan was put under it, if and only if the other plan differs in more than `signed_by`. -/
theorem tamperEvident_iff (P : Primitives) (hcf : P.CollisionFree) (hmac : P.MacCollisionFree)
    (signer other : PlanSigner) {p q : ExecutionPlan} (hp : p.DistinctKeys) (hq : q.DistinctKeys) :
    TamperEvident P signer other p q ↔ (q.SameBody p → q.signedBy = signer.kid) := by
  have hbytes : q.signerBytes = p.signerBytes ↔ q.SameBody p :=
    ExecutionPlan.signerBytes_eq_iff hq hp
  have hverify : signer.verify P { q with signature := (signer.sign P p).signature } = .ok false ↔
      ¬q.SameBody p := by
    rw [sign, verify_hmacSign, ← hbytes, Except.ok.injEq, beq_eq_false_iff_ne, ne_eq,
      hmacSign_eq_iff_of_collisionFree hcf hmac, and_iff_right rfl]
    rfl
  constructor
  · intro h hsame
    by_contra hkid
    exact hverify.mp (h.changed fun hall ↦ hkid hall.2) hsame
  · intro h
    constructor
    case genuine => exact verify_sign signer p
    case otherKey =>
      intro hkey
      rw [sign, verify]
      dsimp only
      rw [if_neg (hmacSign_ne_empty _ _), hmacVerify_hmacSign]
      refine congrArg Except.ok (beq_eq_false_iff_ne.mpr fun heq ↦ ?_)
      exact hkey ((hmacSign_eq_iff_of_collisionFree hcf hmac).mp heq).1.symm
    case changed =>
      intro hdiffers
      refine hverify.mpr fun hsame ↦ hdiffers ⟨?_, h hsame⟩
      exact ⟨hsame.planId, hsame.contractId, hsame.templateId, hsame.templateVersion, hsame.nodes,
        hsame.edges, hsame.routing, hsame.createdAt⟩

/-- Digests that lose nothing, and tags that show where the key ends. -/
def framingPrimitives : Primitives where
  sha256 data := data
  hmacSha256 key msg := List.replicate key.length 1 ++ 0 :: (key ++ msg)
  hmac_ne_nil _ _ := List.append_ne_nil_of_right_ne_nil _ (List.cons_ne_nil _ _)

private theorem replicate_one_zero_inj {m n : ℕ} {u v : List UInt8}
    (h : List.replicate m 1 ++ 0 :: u = List.replicate n 1 ++ 0 :: v) : m = n ∧ u = v := by
  induction m generalizing n with
  | zero =>
    cases n with
    | zero => exact ⟨rfl, (List.cons.inj h).2⟩
    | succ n => exact absurd (List.cons.inj h).1 (by decide)
  | succ m ih =>
    cases n with
    | zero => exact absurd (List.cons.inj h).1 (by decide)
    | succ n =>
      obtain ⟨hmn, huv⟩ := ih (List.cons.inj h).2
      exact ⟨congrArg Nat.succ hmn, huv⟩

theorem framingPrimitives_collisionFree : framingPrimitives.CollisionFree := fun _ _ h ↦ h

theorem framingPrimitives_macCollisionFree : framingPrimitives.MacCollisionFree := by
  intro key key' msg msg' h
  obtain ⟨hlen, hbody⟩ := replicate_one_zero_inj h
  exact List.append_inj hbody hlen

/-- The empty plan of the tests. -/
def emptyPlan : ExecutionPlan where
  planId := "p"
  contractId := "c1"
  templateId := "t"
  templateVersion := "0.1.0"
  nodes := []
  edges := []
  createdAt := "2026-01-01T00:00:00+00:00"

theorem distinctKeys_emptyPlan (signedBy templateVersion : String) :
    { emptyPlan with signedBy := signedBy, templateVersion := templateVersion }.DistinctKeys := by
  rintro d ⟨⟩

/-- The signature shows that the template's version was changed. -/
theorem tamperEvident_templateVersion :
    TamperEvident framingPrimitives ⟨List.replicate 32 107, "p1-test"⟩ ⟨[1], "p1-other"⟩ emptyPlan
      { emptyPlan with templateVersion := "0.2.0" } :=
  (tamperEvident_iff framingPrimitives framingPrimitives_collisionFree
    framingPrimitives_macCollisionFree ⟨List.replicate 32 107, "p1-test"⟩ ⟨[1], "p1-other"⟩
    (distinctKeys_emptyPlan _ _) (distinctKeys_emptyPlan _ _)).mpr
    fun hsame ↦ absurd hsame.templateVersion (by decide)

/-- It does not show that the signer's name was. -/
theorem not_tamperEvident_signedBy :
    framingPrimitives.CollisionFree ∧ framingPrimitives.MacCollisionFree ∧
    PlanSigner.verify framingPrimitives ⟨List.replicate 32 107, "p1-test"⟩
      { (PlanSigner.sign framingPrimitives ⟨List.replicate 32 107, "p1-test"⟩ emptyPlan) with
        signedBy := "mallory" } = .ok true ∧
    ¬TamperEvident framingPrimitives ⟨List.replicate 32 107, "p1-test"⟩ ⟨[1], "p1-other"⟩ emptyPlan
      { emptyPlan with signedBy := "mallory" } := by
  have hverify : PlanSigner.verify framingPrimitives ⟨List.replicate 32 107, "p1-test"⟩
      { (PlanSigner.sign framingPrimitives ⟨List.replicate 32 107, "p1-test"⟩ emptyPlan) with
        signedBy := "mallory" } = .ok true := verify_eq_ok_true_iff.mpr rfl
  refine ⟨framingPrimitives_collisionFree, framingPrimitives_macCollisionFree, hverify,
    fun h ↦ ?_⟩
  have hrefused := h.changed fun hall ↦ absurd hall.2 (by decide)
  have hcontra := hverify.symm.trans hrefused
  cases hcontra

end PlanSigner

end Orchestra
