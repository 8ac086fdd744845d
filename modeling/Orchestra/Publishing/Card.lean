import Orchestra.Core.Hashing
import Orchestra.Core.Time

/-!
# Agent cards

A card describes a capability in one version. It is signed over its whole body without the two
fields of the signature, so the signature covers the status: a card whose status changes afterwards
keeps a signature of what it was. `verifyCard` reads the status first and accepts published cards
only.
-/

namespace Orchestra

/-- `CardStatus`. -/
inductive CardStatus where
  | draft
  | published
  | deprecated
  | revoked
  deriving DecidableEq

namespace CardStatus

def value : CardStatus → String
  | draft => "draft"
  | published => "published"
  | deprecated => "deprecated"
  | revoked => "revoked"

/-- The member as a formatted string shows it. -/
def pyFormat : CardStatus → String
  | draft => "CardStatus.DRAFT"
  | published => "CardStatus.PUBLISHED"
  | deprecated => "CardStatus.DEPRECATED"
  | revoked => "CardStatus.REVOKED"

end CardStatus

/-- `AgentCard`. -/
structure AgentCard where
  cardId : String
  capabilityId : String
  name : String
  version : String
  description : String := ""
  partnerId : String
  partnerContractId : String
  audiences : List String := []
  dataViews : List String := []
  contractSnapshot : List (String × Json) := []
  tokenRequirements : List (String × Json) := [("issuer", .null), ("scope", .arr [])]
  status : CardStatus := .draft
  createdAt : String
  publishedAt : Option String := none
  revokedAt : Option String := none
  signature : Option String := none
  signerKid : Option String := none

namespace AgentCard

/-- What the registry files a card under. -/
def key (card : AgentCard) : String × String := (card.capabilityId, card.version)

/-- `to_signable`: the dump without `signature` and `signer_kid`. -/
def toSignable (card : AgentCard) : Json :=
  .obj [("card_id", .str card.cardId), ("capability_id", .str card.capabilityId),
    ("name", .str card.name), ("version", .str card.version),
    ("description", .str card.description), ("partner_id", .str card.partnerId),
    ("partner_contract_id", .str card.partnerContractId),
    ("audiences", .arr (card.audiences.map .str)), ("data_views", .arr (card.dataViews.map .str)),
    ("contract_snapshot", .obj card.contractSnapshot),
    ("token_requirements", .obj card.tokenRequirements), ("status", .str card.status.value),
    ("created_at", .str card.createdAt), ("published_at", .ofOption card.publishedAt),
    ("revoked_at", .ofOption card.revokedAt)]

def isCurrent (card : AgentCard) : Bool := decide (card.status = .published)

end AgentCard

section Signing

variable (P : Primitives)

/-- The header both sides of a signature name. -/
def cardHeader (kid : String) : List (String × Json) := [("kid", .str kid), ("alg", .str "HS256")]

/-- `sign_card`. -/
def signCard (card : AgentCard) (key : List UInt8) (kid : String) : AgentCard :=
  let body := card.toSignable
  { card with
    signature := some (envelopeSignature P (cardHeader kid) body key kid)
    signerKid := some kid }

/-- `verify_card`. -/
def verifyCard (card : AgentCard) (key : List UInt8) : Except PyError Bool :=
  if card.status ≠ .published then .ok false
  else
    match card.signature, card.signerKid with
    | some signature, some kid =>
      if signature = "" ∨ kid = "" then .ok false
      else
        verifyCoseLike P
          (.obj [("signature", .str signature),
            ("protected", .obj [("kid", .str kid), ("alg", .str "HS256")]),
            ("payload", card.toSignable)]) key
    | _, _ => .ok false

/-- The two fields are those of the envelope over the body. -/
theorem signCard_eq_envelope (card : AgentCard) (key : List UInt8) (kid : String) :
    let envelope := coseLikeEnvelope P (cardHeader kid) card.toSignable key kid
    (signCard P card key kid).signature.map Json.str = envelope.get? "signature" ∧
      (signCard P card key kid).signerKid.map Json.str =
        (envelope.get? "protected").bind fun header ↦ header.get? "kid" := by
  simp [coseLikeEnvelope_eq, signCard, Json.get?, protectedHeader, cardHeader, Json.merge,
    Json.setField]

end Signing

end Orchestra
