import Orchestra.Coordinator.EngineWorld
import Orchestra.Core.SignatureText

/-!
# The two plan signers

The coordinator signs a plan over everything but the signature (`_sign_plan`); `PlanSigner` leaves
out `signed_by` as well and then sets it to its own key id. Each verifies what it signs. They agree
on a plan exactly when the platform authenticates the two texts alike (`signersAgree_iff`), and the
two texts are never the same, since the coordinator's has one more item.
-/

namespace Orchestra

/-- `model_dump(mode="json", exclude={"signature", "signed_by"})`. -/
def ExecutionPlan.signerBody (p : ExecutionPlan) : List (String × Json) :=
  [("plan_id", .str p.planId), ("contract_id", .str p.contractId),
    ("template_id", .str p.templateId), ("template_version", .str p.templateVersion),
    ("nodes", .arr (p.nodes.map PlanNode.modelDump)),
    ("edges", .arr (p.edges.map PlanEdge.modelDump)),
    ("routing", .arr (p.routing.map RoutingDecision.modelDump)), ("created_at", .str p.createdAt)]

/-- `PlanSigner`. -/
structure PlanSigner where
  key : List UInt8
  kid : String := "p1-plan-signer"

namespace PlanSigner

variable (P : Primitives) (signer : PlanSigner) (plan : ExecutionPlan)

/-- `sign`. -/
def sign : ExecutionPlan :=
  { plan with
    signature := some (hmacSign P signer.key (.obj plan.signerBody))
    signedBy := signer.kid }

/-- `verify`; an absent and an empty signature are refused. -/
def verify : Except PyError Bool :=
  match plan.signature with
  | none => .ok false
  | some signature =>
    if signature = "" then .ok false
    else hmacVerify P signer.key (.obj plan.signerBody) signature

end PlanSigner

/-- `Coordinator._sign_plan`, with the key of the grant issuer. -/
def signPlan (P : Primitives) (key : List UInt8) (plan : ExecutionPlan) : String :=
  hmacSign P key plan.unsignedDump

/-- This is what a run of the coordinator signs its plan with. -/
theorem answer_signPlan (cfg : Engine.Config) (taskRunId : String) (env : Engine.Env taskRunId)
    (t : Engine.RunTrace) (w : Engine.World) (plan : ExecutionPlan) : Engine.answer cfg env w t (.signPlan plan) =
      (.ok (signPlan cfg.P cfg.grantIssuer.key plan), w) := rfl

/-- A plan that is signed the coordinator's way verifies under `PlanSigner`, and one that
`PlanSigner` signed carries the signature that the coordinator computes for it. -/
def SignersAgree (P : Primitives) (key : List UInt8) (kid : String) (plan : ExecutionPlan) : Prop :=
  let signer : PlanSigner := { key := key, kid := kid }
  signer.verify P { plan with signature := some (signPlan P key plan) } = .ok true ∧
    (signer.sign P plan).signature = some (signPlan P key (signer.sign P plan))

/-- The bytes that the coordinator signs when the plan names `signedBy` as its signer. -/
def ExecutionPlan.coordinatorBytes (plan : ExecutionPlan) (signedBy : String) : List UInt8 :=
  ({ plan with signedBy := signedBy } : ExecutionPlan).unsignedDump.canonicalJson

/-- The bytes that `PlanSigner` signs. -/
def ExecutionPlan.signerBytes (plan : ExecutionPlan) : List UInt8 :=
  (Json.obj plan.signerBody).canonicalJson

variable {P : Primitives} {plan : ExecutionPlan} {key : List UInt8}

/-- The coordinator signs one item more. -/
theorem unsignedDump_eq (plan : ExecutionPlan) :
    plan.unsignedDump = .obj (plan.signerBody ++ [("signed_by", .str plan.signedBy)]) := rfl

/-- **The two signers never sign the same bytes.** -/
theorem signerBytes_ne_coordinatorBytes (plan : ExecutionPlan) (signedBy : String) :
    plan.signerBytes ≠ plan.coordinatorBytes signedBy := by
  intro h
  have hrender := congrArg List.length (Json.canonicalJson_eq_iff.mp h)
  exact (Json.length_render_obj_lt plan.signerBody ("signed_by", .str signedBy)).ne hrender

theorem PlanSigner.verify_eq_ok_true_iff {signer : PlanSigner} : signer.verify P plan = .ok true ↔
    plan.signature = some (hmacSign P signer.key (.obj plan.signerBody)) := by
  rw [verify]
  split
  · next h => simp [h]
  · next signature h =>
    split_ifs with hempty
    · rw [h, hempty]
      simp [(hmacSign_ne_empty _ _).symm]
    · rw [hmacVerify_eq_true_iff, h, Option.some.injEq]

/-- Each signer verifies what it signs. -/
theorem PlanSigner.verify_sign (signer : PlanSigner) (plan : ExecutionPlan) :
    signer.verify P (signer.sign P plan) = .ok true :=
  verify_eq_ok_true_iff.mpr rfl

theorem collides_iff (signedBy : String) :
    P.Collides key plan.signerBytes (plan.coordinatorBytes signedBy) ↔
      hmacSign P key (.obj plan.signerBody) =
        hmacSign P key ({ plan with signedBy := signedBy } : ExecutionPlan).unsignedDump := by
  rw [Primitives.Collides, hmacSign_eq_iff]
  exact and_iff_right (signerBytes_ne_coordinatorBytes plan signedBy)

theorem verify_signPlan_iff {kid : String} :
    (PlanSigner.mk key kid).verify P { plan with signature := some (signPlan P key plan) } =
        .ok true ↔
      P.Collides key plan.signerBytes (plan.coordinatorBytes plan.signedBy) := by
  rw [PlanSigner.verify_eq_ok_true_iff, Option.some.injEq, collides_iff, eq_comm]
  rfl

theorem signature_sign_iff {kid : String} :
    ((PlanSigner.mk key kid).sign P plan).signature =
        some (signPlan P key ((PlanSigner.mk key kid).sign P plan)) ↔
      P.Collides key plan.signerBytes (plan.coordinatorBytes kid) := by
  rw [PlanSigner.sign, Option.some.injEq, collides_iff]
  rfl

/-- **The two signers agree on a plan** exactly when the platform authenticates the bytes that
`PlanSigner` signs and the different bytes that the coordinator signs alike, both for the signer
that the plan names and for the one that `PlanSigner` puts there. -/
theorem signersAgree_iff (P : Primitives) (key : List UInt8) (kid : String) (plan : ExecutionPlan) :
    SignersAgree P key kid plan ↔
      P.Collides key plan.signerBytes (plan.coordinatorBytes plan.signedBy) ∧
        P.Collides key plan.signerBytes (plan.coordinatorBytes kid) := by
  rw [SignersAgree, verify_signPlan_iff, signature_sign_iff]

/-- Digests and tags that lose nothing. -/
def transparentPrimitives : Primitives where
  sha256 data := data
  hmacSha256 key msg := 10 :: (key ++ msg)
  hmac_ne_nil _ _ := List.cons_ne_nil _ _

/-- The empty plan of the tests, signed either way. -/
theorem not_signersAgree_empty_plan :
    let plan : ExecutionPlan :=
      { planId := "p", contractId := "c1", templateId := "t", templateVersion := "0.1.0"
        nodes := [], edges := [], createdAt := "2026-01-01T00:00:00+00:00" }
    let signer : PlanSigner := { key := List.replicate 32 107 }
    ¬SignersAgree transparentPrimitives signer.key signer.kid plan ∧
      signer.verify transparentPrimitives
          { plan with signature := some (signPlan transparentPrimitives signer.key plan) } ≠
        .ok true ∧
      (signer.sign transparentPrimitives plan).signature ≠ some
        (signPlan transparentPrimitives signer.key (signer.sign transparentPrimitives plan)) := by
  intro plan signer
  have hnot (bytes bytes' : List UInt8) :
      ¬transparentPrimitives.Collides signer.key bytes bytes' := by
    rintro ⟨hne, heq⟩
    have hmsg := List.append_cancel_left (List.cons.inj heq).2
    rw [signedBytes, signedBytes, Json.toList_eq_data, Json.toList_eq_data, Array.toList_inj] at hmsg
    exact hne (hexdigest_injective (String.toByteArray_inj.mp (ByteArray.ext hmsg)))
  have hverify : signer.verify transparentPrimitives
      { plan with signature := some (signPlan transparentPrimitives signer.key plan) } ≠ .ok true :=
    fun h ↦ hnot _ _ (verify_signPlan_iff.mp h)
  have hsign : (signer.sign transparentPrimitives plan).signature ≠
      some (signPlan transparentPrimitives signer.key (signer.sign transparentPrimitives plan)) :=
    fun h ↦ hnot _ _ (signature_sign_iff.mp h)
  exact ⟨fun h ↦ hverify h.1, hverify, hsign⟩

end Orchestra
