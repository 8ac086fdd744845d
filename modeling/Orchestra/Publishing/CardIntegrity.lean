import Orchestra.Compiler.PlanIntegrity
import Orchestra.Core.JsonIdentity
import Orchestra.Publishing.Withdrawal

/-!
# What the signature of a card covers

The signature of a card is made over the canonical rendering of the card and of a header with the
name of the key, so it shows every change of the card at any depth, and of the name
(`verifyCard_iff`). `publish` changes the status before it signs, and the card that it returns
verifies. `verifyCard` reads the status first: a card that is withdrawn afterwards verifies no more.
-/

namespace Orchestra

open Json Transition

namespace AgentCard

/-- The dictionaries of a card have no key twice, at any depth. -/
structure WellFormed (card : AgentCard) : Prop where
  contractSnapshot : Json.WellFormed (.obj card.contractSnapshot)
  tokenRequirements : Json.WellFormed (.obj card.tokenRequirements)

/-- The cards have one JSON form, except for the two fields of the signature. -/
structure SameBody (c d : AgentCard) : Prop where
  cardId : c.cardId = d.cardId
  capabilityId : c.capabilityId = d.capabilityId
  name : c.name = d.name
  version : c.version = d.version
  description : c.description = d.description
  partnerId : c.partnerId = d.partnerId
  partnerContractId : c.partnerContractId = d.partnerContractId
  audiences : c.audiences = d.audiences
  dataViews : c.dataViews = d.dataViews
  contractSnapshot : Json.Same (.obj c.contractSnapshot) (.obj d.contractSnapshot)
  tokenRequirements : Json.Same (.obj c.tokenRequirements) (.obj d.tokenRequirements)
  status : c.status = d.status
  createdAt : c.createdAt = d.createdAt
  publishedAt : c.publishedAt = d.publishedAt
  revokedAt : c.revokedAt = d.revokedAt

/-- The cards have one JSON form, except for `signature`. -/
def SameForm (c d : AgentCard) : Prop := c.SameBody d ∧ c.signerKid = d.signerKid

theorem SameForm.refl (c : AgentCard) : c.SameForm c :=
  ⟨⟨rfl, rfl, rfl, rfl, rfl, rfl, rfl, rfl, rfl, .refl _, .refl _, rfl, rfl, rfl, rfl⟩, rfl⟩

theorem status_of_value {a b : CardStatus} (h : a.value = b.value) : a = b := by
  revert h
  cases a <;> cases b <;> decide

variable {c d : AgentCard}

theorem framed_toSignable (h : c.WellFormed) : Framed c.toSignable := by
  refine .obj ?_
  simp only [List.forall_mem_cons, List.not_mem_nil, false_imp_iff, implies_true, and_true]
  exact ⟨.str _, .str _, .str _, .str _, .str _, .str _, .str _, framed_strs _, framed_strs _,
    h.contractSnapshot.framed, h.tokenRequirements.framed, .str _, .str _, framed_ofOption _,
    framed_ofOption _⟩

/-- **The rendering of a card determines it**, up to the order of keys. -/
theorem render_toSignable_eq_iff (hc : c.WellFormed) (hd : d.WellFormed) :
    render c.toSignable = render d.toSignable ↔ c.SameBody d := by
  constructor
  · intro h
    have hkeys : ["card_id", "capability_id", "name", "version", "description", "partner_id",
      "partner_contract_id", "audiences", "data_views", "contract_snapshot", "token_requirements",
      "status", "created_at", "published_at", "revoked_at"].Nodup := by decide
    have hget := get_render_of_render_obj hkeys hkeys rfl rfl (framed_toSignable hc)
      (framed_toSignable hd) h
    exact {
      cardId := eq_of_render_str (Option.some.inj (hget "card_id"))
      capabilityId := eq_of_render_str (Option.some.inj (hget "capability_id"))
      name := eq_of_render_str (Option.some.inj (hget "name"))
      version := eq_of_render_str (Option.some.inj (hget "version"))
      description := eq_of_render_str (Option.some.inj (hget "description"))
      partnerId := eq_of_render_str (Option.some.inj (hget "partner_id"))
      partnerContractId := eq_of_render_str (Option.some.inj (hget "partner_contract_id"))
      audiences := eq_of_render_strs (Option.some.inj (hget "audiences"))
      dataViews := eq_of_render_strs (Option.some.inj (hget "data_views"))
      contractSnapshot := same_of_render hc.contractSnapshot hd.contractSnapshot
        (Option.some.inj (hget "contract_snapshot"))
      tokenRequirements := same_of_render hc.tokenRequirements hd.tokenRequirements
        (Option.some.inj (hget "token_requirements"))
      status := status_of_value (eq_of_render_str (Option.some.inj (hget "status")))
      createdAt := eq_of_render_str (Option.some.inj (hget "created_at"))
      publishedAt := eq_of_render_ofOption (Option.some.inj (hget "published_at"))
      revokedAt := eq_of_render_ofOption (Option.some.inj (hget "revoked_at")) }
  · intro h
    rw [toSignable, toSignable, render_obj, render_obj, h.cardId, h.capabilityId, h.name, h.version,
      h.description, h.partnerId, h.partnerContractId, h.audiences, h.dataViews, h.status,
      h.createdAt, h.publishedAt, h.revokedAt]
    simp only [List.map_cons, List.map_nil, h.contractSnapshot.render_eq,
      h.tokenRequirements.render_eq]

end AgentCard

/-! ## The envelope -/

/-- The header that the verifier builds. -/
def verifierHeader (kid : String) : Json := .obj (cardHeader kid)

/-- The header that the signer builds: the same items in another order. -/
theorem same_protectedHeader (kid : String) :
    Json.Same (protectedHeader (cardHeader kid) kid) (verifierHeader kid) := by
  have hheader : protectedHeader (cardHeader kid) kid =
      .obj [("alg", .str "HS256"), ("kid", .str kid)] := by
    simp [protectedHeader, cardHeader, Json.merge, Json.setField]
  rw [hheader]
  have hkeys : ["alg", "kid"].Nodup := by decide
  exact .reorder hkeys (List.Perm.swap _ _ _)

theorem framed_verifierHeader (kid : String) : Framed (verifierHeader kid) := by
  refine .obj ?_
  simp only [cardHeader, List.forall_mem_cons, List.not_mem_nil, false_imp_iff, implies_true,
    and_true]
  exact ⟨.str _, .str _⟩

/-- The header that the verifier builds tells the name of the key. -/
theorem render_verifierHeader_eq_iff {kid kid' : String} :
    render (verifierHeader kid) = render (verifierHeader kid') ↔ kid = kid' := by
  constructor
  · intro h
    have hkeys : ["kid", "alg"].Nodup := by decide
    have hget := get_render_of_render_obj hkeys hkeys rfl rfl (framed_verifierHeader kid)
      (framed_verifierHeader kid') h
    exact eq_of_render_str (Option.some.inj (hget "kid"))
  · rintro rfl
    rfl

/-- Two signed parts are rendered alike exactly when their headers and their payloads are. -/
theorem render_envelopeBody_eq_iff {header header' payload payload' : Json}
    (hh : Framed header) (hh' : Framed header') (hp : Framed payload) (hp' : Framed payload') :
    render (.obj (envelopeBody header payload)) = render (.obj (envelopeBody header' payload')) ↔
      render header = render header' ∧ render payload = render payload' := by
  constructor
  · intro h
    have hkeys : ["protected", "payload"].Nodup := by decide
    have hframed {a b : Json} (ha : Framed a) (hb : Framed b) :
        Framed (.obj (envelopeBody a b)) := by
      refine .obj ?_
      simp only [envelopeBody, List.forall_mem_cons, List.not_mem_nil, false_imp_iff, implies_true,
        and_true]
      exact ⟨ha, hb⟩
    have hget := get_render_of_render_obj hkeys hkeys rfl rfl (hframed hh hp) (hframed hh' hp') h
    exact ⟨Option.some.inj (hget "protected"), Option.some.inj (hget "payload")⟩
  · rintro ⟨hheader, hpayload⟩
    rw [render_obj, render_obj, envelopeBody, envelopeBody]
    simp only [List.map_cons, List.map_nil, hheader, hpayload]

/-- The signature of a card, as the verifier computes it. -/
theorem signature_signCard (P : Primitives) (d : AgentCard) (key : List UInt8) (kid : String) :
    (signCard P d key kid).signature =
      some (hmacSign P key (.obj (envelopeBody (verifierHeader kid) d.toSignable))) := by
  have hsame : Json.Same
      (.obj (envelopeBody (protectedHeader (cardHeader kid) kid) d.toSignable))
      (.obj (envelopeBody (verifierHeader kid) d.toSignable)) :=
    .field [] [("payload", d.toSignable)] "protected" (same_protectedHeader kid)
  rw [signCard, envelopeSignature, hmacSign, hmacSign, hsame.digestJson_eq P]

/-! ## Which cards verify -/

section Verify

variable {P : Primitives} {c d : AgentCard} {key key' : List UInt8} {kid : String}

/-- What `verifyCard` compares, for a published card with a name of its key. -/
theorem verifyCard_of_published {payload : Json} (hstatus : c.status = .published)
    (hkid : c.signerKid = some kid) (hne : kid ≠ "")
    (hsig : c.signature = some (hmacSign P key payload)) : verifyCard P c key' =
      .ok (hmacSign P key' (.obj (envelopeBody (verifierHeader kid) c.toSignable)) ==
        hmacSign P key payload) := by
  rw [verifyCard, if_neg (not_not.mpr hstatus), hsig, hkid]
  simp only [hmacSign_ne_empty, hne, or_self, if_false]
  rw [verifyCoseLike]
  simp only [Json.get?]
  exact hmacVerify_hmacSign _ _ _ _

theorem verifyCard_of_not_published (hstatus : c.status ≠ .published) :
    verifyCard P c key = .ok false := if_pos hstatus

/-- A card without a name of its key does not verify. -/
theorem verifyCard_of_no_kid (h : c.signerKid.getD "" = "") : verifyCard P c key = .ok false := by
  rw [verifyCard]
  split_ifs
  · rfl
  cases hkid : c.signerKid with
  | none => cases c.signature <;> rfl
  | some kid =>
    rw [hkid, Option.getD_some] at h
    cases c.signature with
    | none => rfl
    | some signature => exact if_pos (Or.inr h)

theorem sameBody_signCard_iff : c.SameBody (signCard P d key kid) ↔ c.SameBody d :=
  ⟨fun h ↦ ⟨h.1, h.2, h.3, h.4, h.5, h.6, h.7, h.8, h.9, h.10, h.11, h.12, h.13, h.14, h.15⟩,
    fun h ↦ ⟨h.1, h.2, h.3, h.4, h.5, h.6, h.7, h.8, h.9, h.10, h.11, h.12, h.13, h.14, h.15⟩⟩

/-- **Exactly when a card with the signature of a published card verifies**: the keys are the same,
and so are the cards. -/
theorem verifyCard_iff (hcf : P.CollisionFree) (hmac : P.MacCollisionFree) (hc : c.WellFormed)
    (hd : d.WellFormed) (hne : kid ≠ "") (hpublished : d.status = .published)
    (hsig : c.signature = (signCard P d key kid).signature) :
    ∃ b, verifyCard P c key' = .ok b ∧
      (b = true ↔ key' = key ∧ c.SameForm (signCard P d key kid)) := by
  by_cases hstatus : c.status = .published
  · by_cases hnokid : c.signerKid.getD "" = ""
    · -- the verifier asks for a name of the key before it computes anything
      refine ⟨false, verifyCard_of_no_kid hnokid, iff_of_false nofun fun h ↦ hne ?_⟩
      have hkid : c.signerKid = some kid := h.2.2
      rwa [hkid, Option.getD_some] at hnokid
    · obtain ⟨kid', hkid⟩ : ∃ kid', c.signerKid = some kid' := by
        refine Option.ne_none_iff_exists'.mp fun hnone ↦ hnokid ?_
        rw [hnone, Option.getD_none]
      have hne' : kid' ≠ "" := by rwa [hkid, Option.getD_some] at hnokid
      rw [signature_signCard] at hsig
      refine ⟨_, verifyCard_of_published hstatus hkid hne' hsig, ?_⟩
      have hname : kid' = kid ↔ c.signerKid = some kid := by rw [hkid, Option.some.injEq]
      rw [beq_iff_eq, hmacSign_eq_iff_of_collisionFree hcf hmac, canonicalJson_eq_iff,
        render_envelopeBody_eq_iff (framed_verifierHeader _) (framed_verifierHeader _)
          (AgentCard.framed_toSignable hc) (AgentCard.framed_toSignable hd),
        render_verifierHeader_eq_iff, AgentCard.render_toSignable_eq_iff hc hd, hname,
        AgentCard.SameForm, sameBody_signCard_iff, and_comm (a := c.SameBody d)]
      rfl
  · refine ⟨false, verifyCard_of_not_published hstatus, iff_of_false nofun fun h ↦ hstatus ?_⟩
    exact h.2.1.status.trans hpublished

end Verify

namespace PublishedRegistry

/-- What the signature of a published card is to show. -/
structure Authentic (P : Primitives) (signed : AgentCard) (key : List UInt8) : Prop where
  genuine : verifyCard P signed key = .ok true
  changed : ∀ c : AgentCard, c.WellFormed → c.signature = signed.signature → ¬c.SameForm signed →
    verifyCard P c key = .ok false
  otherKey : ∀ key', key' ≠ key → verifyCard P signed key' = .ok false

variable {P : Primitives} {r : PublishedRegistry} {card signed : AgentCard} {key : List UInt8}
  {kid : String}

/-- The card that a publication returns was signed as published. -/
theorem eq_asPublished_of_publish (hkey : key ≠ []) (hkid : kid ≠ "")
    (h : (publish P r card (some key) (some kid)).2 = .ok signed) :
    signed = (asPublished P card key kid).card := by
  have hk : r.signingKey (some key) = some key := by
    obtain ⟨b, bs, rfl⟩ := List.exists_cons_of_ne_nil hkey
    rfl
  have hkid' : r.signingKid (some kid) = some kid := if_neg hkid
  rw [publish, hk, hkid'] at h
  split_ifs at h
  exact (Except.ok.inj h).symm

theorem authentic_asPublished (hcf : P.CollisionFree) (hmac : P.MacCollisionFree)
    (hcard : card.WellFormed) (hkid : kid ≠ "") :
    Authentic P (asPublished P card key kid).card key := by
  have hverify (c : AgentCard) (hc : c.WellFormed)
      (hsig : c.signature = (asPublished P card key kid).card.signature) (key' : List UInt8) :
      ∃ b, verifyCard P c key' = .ok b ∧
        (b = true ↔ key' = key ∧ c.SameForm (asPublished P card key kid).card) :=
    verifyCard_iff hcf hmac hc ⟨hcard.1, hcard.2⟩ hkid rfl hsig
  have hsigned : (asPublished P card key kid).card.WellFormed := ⟨hcard.1, hcard.2⟩
  constructor
  case genuine =>
    obtain ⟨b, hb, htrue⟩ := hverify _ hsigned rfl key
    rw [hb, htrue.mpr ⟨rfl, .refl _⟩]
  case changed =>
    intro c hc hsig hdiffers
    obtain ⟨b, hb, htrue⟩ := hverify c hc hsig key
    rw [hb, Bool.eq_false_of_not_eq_true fun h ↦ hdiffers (htrue.mp h).2]
  case otherKey =>
    intro key' hne
    obtain ⟨b, hb, htrue⟩ := hverify _ hsigned rfl key'
    rw [hb, Bool.eq_false_of_not_eq_true fun h ↦ hne (htrue.mp h).1]

/-- A withdrawn card is stored, and it does not verify. -/
theorem Withdrawn.not_verify {id : String × String} (h : Withdrawn id r) :
    ∃ e, r.byVersion.find? id = some e ∧ ∀ key, verifyCard P e.card key = .ok false := by
  obtain ⟨status, hstatus, hle⟩ := h
  obtain ⟨e, he, rfl⟩ := Option.map_eq_some_iff.mp hstatus
  refine ⟨e, he, fun key ↦ verifyCard_of_not_published fun hpublished ↦ ?_⟩
  rw [hpublished] at hle
  exact absurd hle (by decide)

/-- **What a publication gives.** The card that is returned verifies under its key, no other card
verifies with its signature, it does not verify under another key, and after it was deprecated or
revoked the stored card does not verify, whatever is called. -/
theorem publish_authentic (P : Primitives) (hcf : P.CollisionFree) (hmac : P.MacCollisionFree)
    (r : PublishedRegistry) (card : AgentCard) (hcard : card.WellFormed) (key : List UInt8)
    (hkey : key ≠ []) (kid : String) (hkid : kid ≠ "") (signed : AgentCard)
    (h : (publish P r card (some key) (some kid)).2 = .ok signed) :
    Authentic P signed key ∧ ∀ pre call post,
      WithdrawnBy (run (step P) (publish P r card (some key) (some kid)).1 pre) card.capabilityId
        card.version call →
      ∃ e, (run (step P) (publish P r card (some key) (some kid)).1
          (pre ++ call :: post)).byVersion.find? card.key = some e ∧
        ∀ key', verifyCard P e.card key' = .ok false := by
  obtain rfl := eq_asPublished_of_publish hkey hkid h
  refine ⟨authentic_asPublished hcf hmac hcard hkid, fun pre call post hcall ↦ ?_⟩
  have hwithdrawn : Withdrawn card.key (step P (run (step P)
      (publish P r card (some key) (some kid)).1 pre) call) := withdrawn_of_withdrawnBy hcall
  rw [run_append, run_cons]
  exact (run_invariant (fun _ call' ↦ Withdrawn.step call') hwithdrawn post :
    Withdrawn card.key _).not_verify

theorem wellFormed_translateCard : translateCard.WellFormed where
  contractSnapshot := .obj List.nodup_nil nofun
  tokenRequirements := .obj (by decide : ["issuer", "scope"].Nodup) fun f hf ↦ by
    rcases List.mem_pair.mp hf with rfl | rfl
    · exact .null
    · exact .arr nofun

theorem authentic_translateCard :
    Authentic PlanSigner.framingPrimitives
        (asPublished PlanSigner.framingPrimitives translateCard [7] "signer-1").card [7] ∧
      ∀ pre call post,
        WithdrawnBy (run (step PlanSigner.framingPrimitives)
          (publish PlanSigner.framingPrimitives {} translateCard (some [7]) (some "signer-1")).1
          pre) translateCard.capabilityId translateCard.version call →
        ∃ e, (run (step PlanSigner.framingPrimitives)
            (publish PlanSigner.framingPrimitives {} translateCard (some [7]) (some "signer-1")).1
            (pre ++ call :: post)).byVersion.find? translateCard.key = some e ∧
          ∀ key', verifyCard PlanSigner.framingPrimitives e.card key' = .ok false :=
  publish_authentic _ PlanSigner.framingPrimitives_collisionFree
    PlanSigner.framingPrimitives_macCollisionFree {} translateCard wellFormed_translateCard [7]
    (by decide) "signer-1" (by decide) _ rfl

end PublishedRegistry

end Orchestra
