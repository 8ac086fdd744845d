import Orchestra.Core.Hashing
import Orchestra.Core.Schema
import Orchestra.Core.Time

/-!
# Issuing and verifying node grants

The issuer signs the dump of the grant while its `signature` field is still `None`; that envelope
is cached, and its signature is copied into the grant. `verify` takes another road: it builds a
fresh envelope for the grant as it stands and verifies that envelope. The envelope was made with
the issuer's own key a moment before, so it always verifies, and the only part the grant's
signature plays is that it must not be empty.

`verify_eq` says this in one equation. The section after it compares the verifier with the
credential it is meant to check, the *genuine signature* of the unsigned body.
-/

namespace Orchestra

/-- The issuer's key, the identifier of the key, and the lifetime of its grants in seconds. -/
structure NodeGrantIssuer where
  key : List UInt8
  kid : String := "p0-grant-key"
  ttlSeconds : ℕ := 600

namespace NodeGrantIssuer

variable (P : Primitives) (issuer : NodeGrantIssuer)

/-- `envelope_for`: the envelope of a grant, its signature field included in the payload. -/
def envelopeFor (grant : NodeGrant) : Json :=
  coseLikeEnvelope P [("type", .str "node-grant")] grant.modelDump issuer.key issuer.kid

/-- The parameters of `issue` that describe what the grant is for. -/
structure Request where
  taskRunId : String
  nodeRunId : String
  taskId : String
  nodeId : String
  capabilityId : String
  manifestId : String
  dataView : DataView
  purpose : Purpose

/-- The grant `issue` builds before it signs, at the clock reading `now` and with the fresh
identifier `grantId`. The expiry is cut to whole seconds. -/
def unsignedGrant (grantId : String) (now : ℕ) (r : Request) : NodeGrant where
  grantId := grantId
  taskRunId := r.taskRunId
  nodeRunId := r.nodeRunId
  taskId := r.taskId
  nodeId := r.nodeId
  capabilityId := r.capabilityId
  manifestId := r.manifestId
  dataView := r.dataView
  purpose := r.purpose
  issuedAt := utcNowIso now
  notBefore := utcNowIso now
  expiresAt := isoSeconds (now + issuer.ttlSeconds * 1000) ++ "000Z"
  audience := "p0"

/-- `issue`: the signed grant, beside the envelope cached for the receipt step. -/
def issue (grantId : String) (now : ℕ) (r : Request) : NodeGrant × Json :=
  let grant := issuer.unsignedGrant grantId now r
  let env := coseLikeEnvelope P [("type", .str "node-grant")] grant.modelDump issuer.key issuer.kid
  let signature := match env.get? "signature" with
    | some (.str s) => some s
    | _ => none
  ({ grant with signature := signature }, env)

/-- `verify`: an absent or empty signature is refused, otherwise the envelope of the grant is
built and verified. -/
def verify (grant : NodeGrant) : Except PyError Bool :=
  match grant.signature with
  | none => .ok false
  | some "" => .ok false
  | some _ => verifyCoseLike P (issuer.envelopeFor P grant) issuer.key

/-! ## What the verifier decides -/

/-- The signature `issue` puts on a grant with this body: that of the envelope around the dump of
the unsigned grant. -/
def genuineSignature (grant : NodeGrant) : String :=
  envelopeSignature P [("type", .str "node-grant")]
    { grant with signature := none }.modelDump issuer.key issuer.kid

/-- `issue` signs with the genuine signature of what it returns. -/
theorem issue_signature (grantId : String) (now : ℕ) (r : Request) :
    (issuer.issue P grantId now r).1.signature
      = some (issuer.genuineSignature P (issuer.issue P grantId now r).1) := by
  simp [issue, coseLikeEnvelope_eq, Json.get?, genuineSignature, unsignedGrant]

/-- A signature field that counts as no signature. -/
def Unsigned (grant : NodeGrant) : Prop := grant.signature = none ∨ grant.signature = some ""

instance (grant : NodeGrant) : Decidable (Unsigned grant) :=
  inferInstanceAs (Decidable (_ ∨ _))

/-- **The verifier ignores the signature's value**: it accepts exactly the grants that carry some
signature. -/
theorem verify_eq (grant : NodeGrant) :
    issuer.verify P grant = .ok (decide (¬Unsigned grant)) := by
  rw [verify]
  rcases hs : grant.signature with _ | s
  · simp [Unsigned, hs]
  · by_cases hempty : s = ""
    · simp [Unsigned, hs, hempty]
    · split
      · next h => cases h
      · next h => exact absurd (Option.some.inj h) hempty
      · rw [envelopeFor, verifyCoseLike_coseLikeEnvelope]
        simp [Unsigned, hs, hempty]

/-- A genuine signature is never empty. -/
theorem not_unsigned_of_genuine (grant : NodeGrant)
    (h : grant.signature = some (issuer.genuineSignature P grant)) : ¬Unsigned grant := by
  rintro (hnone | hempty)
  · rw [h] at hnone
    cases hnone
  · rw [h] at hempty
    exact hmacSign_ne_empty _ _ (Option.some.inj hempty)

/-! ## The verifier against the genuine signature -/

/-- **Exactly when the verifier agrees with the genuine signature.** On a grant it accepts what is
genuine and nothing else if and only if the grant's signature is missing, empty or genuine; a grant
that carries any other signature is accepted. So a tampered grant, or one signed under another key,
is refused only when its signature has been dropped. -/
theorem verify_iff_genuine_iff (grant : NodeGrant) :
    ((issuer.verify P grant = .ok true ↔
        grant.signature = some (issuer.genuineSignature P grant)) ↔
      grant.signature = none ∨ grant.signature = some "" ∨
        grant.signature = some (issuer.genuineSignature P grant)) ∧
    (issuer.verify P grant = .ok false ↔ grant.signature = none ∨ grant.signature = some "") := by
  have hgen := issuer.not_unsigned_of_genuine P grant
  rw [verify_eq, ← or_assoc]
  simp only [Except.ok.injEq, decide_eq_true_eq, decide_eq_false_iff_not, not_not]
  change ((¬Unsigned grant ↔ _) ↔ Unsigned grant ∨ _) ∧ (Unsigned grant ↔ Unsigned grant)
  refine ⟨⟨fun h ↦ ?_, ?_⟩, Iff.rfl⟩
  · by_cases hu : Unsigned grant
    · exact Or.inl hu
    · exact Or.inr (h.mp hu)
  · rintro (hu | hg)
    · exact ⟨fun hn ↦ absurd hu hn, fun hg ↦ absurd hu (hgen hg)⟩
    · exact ⟨fun _ ↦ hg, fun _ ↦ hgen hg⟩

/-- A grant nobody issued, with a signature that is not even base64url. -/
def forgedGrant : NodeGrant where
  grantId := "g-forged"
  taskRunId := "t1"
  nodeRunId := "r1"
  taskId := "t1"
  nodeId := "write_sink"
  capabilityId := "mock.procurement"
  manifestId := "manifest:0"
  dataView := { name := "all", shape := .reference }
  purpose := { code := "contract-review" }
  issuedAt := utcNowIso 0
  notBefore := utcNowIso 0
  expiresAt := utcNowIso 3600000
  signature := some "é"

/-- Whatever the primitives are, the verifier accepts the forged grant. -/
theorem verify_forgedGrant : ¬∃ P : Primitives, ∀ (issuer : NodeGrantIssuer) (grant : NodeGrant),
    issuer.verify P grant = .ok true ↔
      grant.signature = some (issuer.genuineSignature P grant) := by
  rintro ⟨P, h⟩
  have hsig := (h { key := [] } forgedGrant).mp (by rw [verify_eq]; decide)
  have hascii := hmacSign_ascii (P := P) [] (.obj (envelopeBody
    (protectedHeader [("type", .str "node-grant")] "p0-grant-key")
    { forgedGrant with signature := none }.modelDump))
  rw [genuineSignature, envelopeSignature] at hsig
  rw [← Option.some.inj hsig] at hascii
  revert hascii
  decide

end NodeGrantIssuer

end Orchestra
