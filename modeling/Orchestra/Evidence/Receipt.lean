import Orchestra.Core.Schema
import Orchestra.Core.Time

/-!
# Receipts and their verification

The builder signs a payload and copies four of its identifiers to the document around it. A receipt
is verified in two places: the builder that holds the key verifies the envelope, and an auditor
without access to the database checks a receipt offline, as a function or from the command line.

A document is *genuine* when its envelope carries the signature of its payload under the receipt key
and the outer identifiers are those of the payload. The second section reads off what each entry
point checks, and the last one compares that with being genuine.
-/

namespace Orchestra

/-! ## Building and verifying -/

/-- The receipt key and its identifier. -/
structure ReceiptBuilder where
  key : List UInt8
  kid : String := "p0-receipt-key"

namespace ReceiptBuilder

variable (P : Primitives) (builder : ReceiptBuilder)

/-- The arguments of `build`. -/
structure Args where
  taskRunId : String
  nodeRunId : String
  nodeId : String
  planDigest : String
  capabilityId : String
  manifestId : String
  dataView : Json
  inputs : Json
  outputs : Json
  startedAt : String
  endedAt : String
  status : String

/-- The payload `build` signs, with the fresh identifier `receiptId`. -/
def payload (receiptId : String) (a : Args) : Json :=
  .obj [("receipt_id", .str receiptId), ("task_run_id", .str a.taskRunId),
    ("node_run_id", .str a.nodeRunId), ("node_id", .str a.nodeId),
    ("plan_digest", .str a.planDigest), ("capability_id", .str a.capabilityId),
    ("manifest_id", .str a.manifestId), ("data_view_digest", .str (digestJson P a.dataView)),
    ("inputs_digest", .str (digestJson P a.inputs)),
    ("outputs_digest", .str (digestJson P a.outputs)), ("started_at", .str a.startedAt),
    ("ended_at", .str a.endedAt), ("status", .str a.status)]

/-- `build`, at the clock reading `now` and with the fresh identifier `receiptId`. -/
def build (receiptId : String) (now : ℕ) (a : Args) : SignedReceipt where
  receiptId := receiptId
  taskRunId := a.taskRunId
  nodeRunId := a.nodeRunId
  nodeId := a.nodeId
  envelope := (coseLikeEnvelope P [("type", .str "node-receipt")] (payload P receiptId a)
    builder.key builder.kid).items
  createdAt := utcNowIso now

/-- `verify`. -/
def verify (receipt : SignedReceipt) : Except PyError Bool :=
  verifyCoseLike P (.obj receipt.envelope) builder.key

end ReceiptBuilder

namespace Evidence

variable (P : Primitives)

/-- `{"verified": False, "reason": reason}`. -/
def rejected (reason : String) : Json :=
  .obj [("verified", .bool false), ("reason", .str reason)]

/-- `{"verified": True, "reason": "ok", "receipt_id": receipt_id}`. -/
def accepted (receiptId : String) : Json :=
  .obj [("verified", .bool true), ("reason", .str "ok"), ("receipt_id", .str receiptId)]

/-- The last check, made when a plan digest is given: the payload must be a dictionary that carries
it. -/
def checkPlanDigest (receipt : SignedReceipt) (payload : Json) (planDigest : Option String) :
    Except PyError Json :=
  match planDigest with
  | none => .ok (accepted receipt.receiptId)
  | some digest =>
    match payload with
    | .obj _ =>
      if payload.get? "plan_digest" ≠ some (.str digest) then .ok (rejected "plan_digest mismatch")
      else .ok (accepted receipt.receiptId)
    | _ => .error (.attributeError "get")

/-- `verify_receipt_offline`. The envelope is a dictionary by its type. -/
def verifyReceiptOffline (receipt : SignedReceipt) (planDigest : Option String)
    (planSigningKey : Option (List UInt8)) : Except PyError Json :=
  let env : Json := .obj receipt.envelope
  match env.get? "protected", env.get? "payload" with
  | some _, some payload =>
    match env.get? "signature" with
    | none => .ok (rejected "envelope missing signature")
    | some _ =>
      match planSigningKey with
      | none => checkPlanDigest receipt payload planDigest
      | some key =>
        match verifyCoseLike P env key with
        | .error e => .error e
        | .ok false => .ok (rejected "signature mismatch")
        | .ok true => checkPlanDigest receipt payload planDigest
  | _, _ => .ok (rejected "envelope shape invalid")

/-! ## The command line -/

/-- A field of a document that must be a string. -/
def stringField (document : Json) (key : String) (default : Option String) : Option String :=
  match document.get? key with
  | some (.str s) => some s
  | some _ => none
  | none => default

/-- `SignedReceipt.model_validate`, with the defaults for the identifier and the time; `none` is a
validation error. -/
def modelValidate (newId : String) (now : ℕ) (document : Json) : Option SignedReceipt := do
  let .obj fields := document | none
  guard (fields.all fun p ↦ decide (p.1 ∈ ["receipt_id", "task_run_id", "node_run_id", "node_id",
    "envelope", "created_at"]))
  let receiptId ← stringField document "receipt_id" (some newId)
  let taskRunId ← stringField document "task_run_id" none
  let nodeRunId ← stringField document "node_run_id" none
  let nodeId ← stringField document "node_id" none
  let some (.obj envelope) := document.get? "envelope" | none
  let createdAt ← stringField document "created_at" (some (utcNowIso now))
  pure ⟨receiptId, taskRunId, nodeRunId, nodeId, envelope, createdAt⟩

/-- What reading the receipt file gives. -/
inductive ReceiptFile where
  | unreadable (error : String)
  | malformed
  | document (payload : Json)

/-- The exceptions that end the command without a report. -/
inductive CliError where
  | jsonDecodeError
  | validationError
  | verification (e : PyError)

/-- `result.get("verified")`. -/
def isVerified (result : Json) : Bool := decide (result.get? "verified" = some (.bool true))

/-- `main`: the report it prints, and its exit code. -/
def main (newId : String) (now : ℕ) (file : ReceiptFile) (planDigest : Option String) :
    Except CliError (Json × ℕ) :=
  match file with
  | .unreadable error => .ok (rejected ("cannot read: " ++ error), 1)
  | .malformed => .error .jsonDecodeError
  | .document payload =>
    match modelValidate newId now payload with
    | none => .error .validationError
    | some receipt =>
      match verifyReceiptOffline P receipt planDigest none with
      | .error e => .error (.verification e)
      | .ok result => .ok (result, if isVerified result then 0 else 2)

end Evidence

/-! ## What the entry points check -/

namespace SignedReceipt

variable (P : Primitives) (r : SignedReceipt)

/-- A field of the signed payload. -/
def signedField (name : String) : Option Json :=
  ((Json.obj r.envelope).get? "payload").bind (·.get? name)

/-- The envelope has the signature that signing its header and payload under the key gives. -/
def SignatureValid (key : List UInt8) : Prop :=
  ∃ header payload, (Json.obj r.envelope).get? "protected" = some header ∧
    (Json.obj r.envelope).get? "payload" = some payload ∧
    (Json.obj r.envelope).get? "signature"
      = some (.str (hmacSign P key (.obj (envelopeBody header payload))))

/-- The outer identifiers are those of the signed payload. -/
structure IdsBound : Prop where
  receiptId : r.signedField "receipt_id" = some (.str r.receiptId)
  taskRunId : r.signedField "task_run_id" = some (.str r.taskRunId)
  nodeRunId : r.signedField "node_run_id" = some (.str r.nodeRunId)
  nodeId : r.signedField "node_id" = some (.str r.nodeId)

/-- A document that the holder of the key has signed as it stands. -/
def Genuine (key : List UInt8) : Prop := r.SignatureValid P key ∧ r.IdsBound

/-- The parts of an envelope are there. -/
def HasParts : Prop :=
  ((Json.obj r.envelope).get? "protected").isSome ∧ ((Json.obj r.envelope).get? "payload").isSome ∧
    ((Json.obj r.envelope).get? "signature").isSome

/-- One of the checks that the offline verification makes with these arguments fails. -/
def Refused (planDigest : Option String) (planSigningKey : Option (List UInt8)) : Prop :=
  ¬r.HasParts ∨ (∃ key, planSigningKey = some key ∧ ¬r.SignatureValid P key) ∨
    ∃ digest, planDigest = some digest ∧ r.signedField "plan_digest" ≠ some (.str digest)

end SignedReceipt

section Checks

variable {P : Primitives}

theorem verifyCoseLike_eq_true_iff {r : SignedReceipt} {key : List UInt8} :
    verifyCoseLike P (.obj r.envelope) key = .ok true ↔ r.SignatureValid P key := by
  constructor
  · intro h
    rw [verifyCoseLike] at h
    split at h
    · next sig hsig =>
      split at h
      · cases h
      · next header hheader =>
        split at h
        · cases h
        · next payload hpayload =>
          have hvalid := hmacVerify_eq_true_iff.mp h
          exact ⟨header, payload, hheader, hpayload, by rw [hsig, hvalid]⟩
    · cases h
  · rintro ⟨header, payload, hheader, hpayload, hsig⟩
    simp only [verifyCoseLike, hsig, hheader, hpayload]
    exact hmacVerify_eq_true_iff.mpr rfl

namespace Evidence

/-- The report says that the receipt is verified. -/
def Verified (report : Except PyError Json) : Prop :=
  ∃ result, report = .ok result ∧ isVerified result = true

theorem not_verified_rejected (reason : String) : ¬Verified (.ok (rejected reason)) := by
  rintro ⟨result, heq, hres⟩
  obtain rfl := Except.ok.inj heq
  simp [isVerified, rejected, Json.get?] at hres

theorem verified_accepted (receiptId : String) : Verified (.ok (accepted receiptId)) :=
  ⟨_, rfl, by simp [isVerified, accepted, Json.get?]⟩

theorem not_verified_error (e : PyError) : ¬Verified (.error e) := by
  rintro ⟨result, heq, -⟩
  cases heq

theorem verified_checkPlanDigest_iff {r : SignedReceipt} {payload : Json}
    (hpayload : (Json.obj r.envelope).get? "payload" = some payload) {planDigest : Option String} :
    Verified (checkPlanDigest r payload planDigest) ↔
      ∀ digest, planDigest = some digest → r.signedField "plan_digest" = some (.str digest) := by
  have hfield : r.signedField "plan_digest" = payload.get? "plan_digest" := by
    rw [SignedReceipt.signedField, hpayload, Option.bind_some]
  rw [hfield]
  cases planDigest with
  | none => simpa [checkPlanDigest] using verified_accepted r.receiptId
  | some digest =>
    have hiff : (∀ d, some digest = some d → payload.get? "plan_digest" = some (.str d)) ↔
        payload.get? "plan_digest" = some (.str digest) := by simp
    rw [hiff]
    cases payload with
    | obj fields =>
      simp only [checkPlanDigest]
      by_cases heq : (Json.obj fields).get? "plan_digest" = some (.str digest)
      · simp only [heq, ne_eq, not_true_eq_false, if_false, iff_true]
        exact verified_accepted r.receiptId
      · simp only [heq, ne_eq, not_false_eq_true, if_true, iff_false]
        exact not_verified_rejected _
    | _ => exact iff_of_false (not_verified_error _) nofun

/-- **What the offline verification checks**: it accepts a receipt unless one of its checks
fails. -/
theorem verified_offline_iff {r : SignedReceipt} {planDigest : Option String}
    {planSigningKey : Option (List UInt8)} :
    Verified (verifyReceiptOffline P r planDigest planSigningKey) ↔
      ¬r.Refused P planDigest planSigningKey := by
  have hnot : ¬r.Refused P planDigest planSigningKey ↔
      r.HasParts ∧ (∀ key, planSigningKey = some key → r.SignatureValid P key) ∧
        ∀ digest, planDigest = some digest → r.signedField "plan_digest" = some (.str digest) := by
    rw [SignedReceipt.Refused]
    push Not
    rfl
  rw [hnot, verifyReceiptOffline]
  cases hheader : (Json.obj r.envelope).get? "protected" with
  | none =>
    refine iff_of_false (not_verified_rejected _) fun h ↦ ?_
    simp [SignedReceipt.HasParts, hheader] at h
  | some header =>
    cases hpayload : (Json.obj r.envelope).get? "payload" with
    | none =>
      refine iff_of_false (not_verified_rejected _) fun h ↦ ?_
      simp [SignedReceipt.HasParts, hpayload] at h
    | some payload =>
      cases hsig : (Json.obj r.envelope).get? "signature" with
      | none =>
        refine iff_of_false (not_verified_rejected _) fun h ↦ ?_
        simp [SignedReceipt.HasParts, hsig] at h
      | some sig =>
        have hparts : r.HasParts := by simp [SignedReceipt.HasParts, hheader, hpayload, hsig]
        have hlast : Verified (checkPlanDigest r payload planDigest) ↔
            ∀ digest, planDigest = some digest →
              r.signedField "plan_digest" = some (.str digest) :=
          verified_checkPlanDigest_iff hpayload
        cases planSigningKey with
        | none => simpa [hparts] using hlast
        | some key =>
          have hvalid :
              verifyCoseLike P (.obj r.envelope) key = .ok true ↔ r.SignatureValid P key :=
            verifyCoseLike_eq_true_iff
          simp only
          cases hverify : verifyCoseLike P (.obj r.envelope) key with
          | error e =>
            have hbad : ¬r.SignatureValid P key := fun h ↦ by
              rw [← hvalid, hverify] at h; cases h
            exact iff_of_false (not_verified_error e) fun h ↦ hbad (h.2.1 key rfl)
          | ok b =>
            cases b with
            | false =>
              have hbad : ¬r.SignatureValid P key := fun h ↦ by
                rw [← hvalid, hverify] at h; cases h
              exact iff_of_false (not_verified_rejected _) fun h ↦ hbad (h.2.1 key rfl)
            | true =>
              have hgood : r.SignatureValid P key := hvalid.mp hverify
              simpa [hparts, hgood] using hlast

/-- The command reports a receipt as verified when it is a document that validates, and the offline
verification without a key accepts it. -/
theorem main_verified_iff {newId : String} {now : ℕ} {file : ReceiptFile}
    {planDigest : Option String} :
    (∃ result code, main P newId now file planDigest = .ok (result, code) ∧
      isVerified result = true) ↔
    ∃ payload r, file = .document payload ∧ modelValidate newId now payload = some r ∧
      ¬r.Refused P planDigest none := by
  constructor
  · rintro ⟨result, code, hmain, hverified⟩
    cases file with
    | unreadable error =>
      obtain ⟨rfl, -⟩ := Prod.mk.inj (Except.ok.inj hmain)
      exact absurd ⟨_, rfl, hverified⟩ (not_verified_rejected _)
    | malformed => cases hmain
    | document payload =>
      rw [main] at hmain
      split at hmain
      · cases hmain
      · next r hr =>
        split at hmain
        · cases hmain
        · next report hreport =>
          obtain ⟨rfl, -⟩ := Prod.mk.inj (Except.ok.inj hmain)
          have haccepted : Verified (verifyReceiptOffline P r planDigest none) :=
            ⟨report, hreport, hverified⟩
          exact ⟨payload, r, rfl, hr, verified_offline_iff.mp haccepted⟩
  · rintro ⟨payload, r, rfl, hr, hnot⟩
    obtain ⟨report, hreport, hverified⟩ := verified_offline_iff.mpr hnot
    exact ⟨report, if isVerified report then 0 else 2, by simp only [main, hr, hreport], hverified⟩

end Evidence

end Checks

/-! ## Receipts the builder makes -/

namespace ReceiptBuilder

variable (P : Primitives) (builder : ReceiptBuilder) (receiptId : String) (now : ℕ) (a : Args)

theorem envelope_build : (builder.build P receiptId now a).envelope =
    [("protected", protectedHeader [("type", .str "node-receipt")] builder.kid),
      ("payload", payload P receiptId a),
      ("signature", .str (envelopeSignature P [("type", .str "node-receipt")]
        (payload P receiptId a) builder.key builder.kid))] := by
  rw [build, coseLikeEnvelope_eq]
  rfl

/-- What is built is genuine. -/
theorem genuine_build : (builder.build P receiptId now a).Genuine P builder.key := by
  have hfield (name : String) : (builder.build P receiptId now a).signedField name
      = (payload P receiptId a).get? name := by
    rw [SignedReceipt.signedField, envelope_build]
    rfl
  refine ⟨⟨protectedHeader [("type", .str "node-receipt")] builder.kid, payload P receiptId a,
    ?_, ?_, ?_⟩, ?_⟩
  · rw [envelope_build]
    rfl
  · rw [envelope_build]
    rfl
  · rw [envelope_build]
    rfl
  · constructor <;> rw [hfield] <;> rfl

/-- The signed payload names the plan digest it was built with. -/
theorem signedField_planDigest_build :
    (builder.build P receiptId now a).signedField "plan_digest" = some (.str a.planDigest) := by
  rw [SignedReceipt.signedField, envelope_build]
  rfl

/-- Offline, a receipt is accepted for the plan digest it was built with and for no other. -/
theorem verified_offline_build (digest : String) :
    Evidence.Verified (Evidence.verifyReceiptOffline P (builder.build P receiptId now a)
      (some digest) none) ↔ digest = a.planDigest := by
  have hparts : (builder.build P receiptId now a).HasParts := by
    obtain ⟨⟨header, body, hheader, hbody, hsig⟩, -⟩ := genuine_build P builder receiptId now a
    exact ⟨by rw [hheader]; rfl, by rw [hbody]; rfl, by rw [hsig]; rfl⟩
  rw [Evidence.verified_offline_iff, SignedReceipt.Refused, signedField_planDigest_build]
  simp [hparts, eq_comm]

end ReceiptBuilder

/-! ## Verified and genuine -/

open Evidence in
/-- **What a verified receipt guarantees.** Take any receipt key and any document.

* The builder's verification implies that the receipt is genuine if and only if its identifiers are
  bound or its signature is not valid: the identifiers are never compared.
* The offline verification implies it if and only if the document is genuine or fails one of the
  checks that the arguments ask for. Without a key there is no check of the signature.
* The command line never passes a key. -/
theorem verified_only_genuine_iff (P : Primitives) (builder : ReceiptBuilder) :
    (∀ r : SignedReceipt,
      (builder.verify P r = .ok true → r.Genuine P builder.key) ↔
        r.IdsBound ∨ ¬r.SignatureValid P builder.key) ∧
    (∀ (r : SignedReceipt) (planDigest : Option String) (planSigningKey : Option (List UInt8)),
      (Verified (verifyReceiptOffline P r planDigest planSigningKey) → r.Genuine P builder.key) ↔
        r.Refused P planDigest planSigningKey ∨ r.Genuine P builder.key) ∧
    ∀ (newId : String) (now : ℕ) (payload : Json) (planDigest : Option String),
      ((∃ result code, main P newId now (.document payload) planDigest = .ok (result, code) ∧
          isVerified result = true) →
        ∃ r, modelValidate newId now payload = some r ∧ r.Genuine P builder.key) ↔
      ∀ r, modelValidate newId now payload = some r →
        r.Refused P planDigest none ∨ r.Genuine P builder.key := by
  refine ⟨fun r ↦ ?_, fun r planDigest planSigningKey ↦ ?_, fun newId now payload planDigest ↦ ?_⟩
  · rw [ReceiptBuilder.verify, verifyCoseLike_eq_true_iff, SignedReceipt.Genuine]
    constructor
    · intro h
      by_cases hvalid : r.SignatureValid P builder.key
      · exact Or.inl (h hvalid).2
      · exact Or.inr hvalid
    · rintro (hbound | hnot) hvalid
      · exact ⟨hvalid, hbound⟩
      · exact absurd hvalid hnot
  · rw [verified_offline_iff]
    constructor
    · intro h
      by_cases hrefused : r.Refused P planDigest planSigningKey
      · exact Or.inl hrefused
      · exact Or.inr (h hrefused)
    · rintro (hrefused | hgenuine) hnot
      · exact absurd hrefused hnot
      · exact hgenuine
  · rw [main_verified_iff]
    constructor
    · intro h r hr
      by_cases hrefused : r.Refused P planDigest none
      · exact Or.inl hrefused
      · obtain ⟨r', hr', hgenuine⟩ := h ⟨payload, r, rfl, hr, hrefused⟩
        obtain rfl : r = r' := Option.some.inj (hr.symm.trans hr')
        exact Or.inr hgenuine
    · rintro h ⟨payload', r, heq, hr, hnot⟩
      obtain rfl : payload = payload' := ReceiptFile.document.inj heq
      exact ⟨r, hr, (h r hr).resolve_left hnot⟩

/-- The outer part of a receipt moved to another node. -/
def relabelledReceipt (P : Primitives) (builder : ReceiptBuilder) : SignedReceipt :=
  { builder.build P "receipt:1" 0
      { taskRunId := "task:1", nodeRunId := "node:1", nodeId := "extract", planDigest := "plan:1",
        capabilityId := "local.contract-extractor", manifestId := "manifest:1",
        dataView := .obj [], inputs := .obj [], outputs := .obj [], startedAt := utcNowIso 0,
        endedAt := utcNowIso 1000, status := "succeeded" } with
    nodeId := "write_sink" }

/-- A document nobody signed. -/
def unsignedDocument : Json :=
  .obj [("receipt_id", .str "receipt:1"), ("task_run_id", .str "task:1"),
    ("node_run_id", .str "node:1"), ("node_id", .str "write_sink"),
    ("envelope", .obj [("protected", .obj []), ("payload", .obj []), ("signature", .null)])]

section

open Evidence

/-- Whatever the primitives are, the builder verifies a relabelled receipt, and the command line
reports an unsigned one as verified. -/
theorem verified_not_genuine :
    (¬∃ P : Primitives, ∀ (builder : ReceiptBuilder) (r : SignedReceipt),
      builder.verify P r = .ok true → r.IdsBound) ∧
    ¬∃ P : Primitives, ∀ (builder : ReceiptBuilder) (payload : Json) (r : SignedReceipt),
      modelValidate "" 0 payload = some r →
      (∃ result, main P "" 0 (.document payload) none = .ok (result, 0)) →
      r.SignatureValid P builder.key := by
  constructor
  · rintro ⟨P, h⟩
    have hverify : ({ key := [] } : ReceiptBuilder).verify P
        (relabelledReceipt P { key := [] }) = .ok true := by
      rw [ReceiptBuilder.verify, verifyCoseLike_eq_true_iff]
      exact (ReceiptBuilder.genuine_build P { key := [] } "receipt:1" 0 _).1
    have hbound := (h _ _ hverify).nodeId
    rw [SignedReceipt.signedField, relabelledReceipt] at hbound
    simp only [ReceiptBuilder.envelope_build] at hbound
    have hne : some (Json.str "extract") = some (Json.str "write_sink") := hbound
    exact absurd hne (by decide)
  · rintro ⟨P, h⟩
    obtain ⟨header, payload, -, -, hsig⟩ := h { key := [] } unsignedDocument
      ⟨"receipt:1", "task:1", "node:1", "write_sink",
        [("protected", .obj []), ("payload", .obj []), ("signature", .null)], utcNowIso 0⟩
      (by decide) ⟨_, rfl⟩
    have hnull : some Json.null
        = some (.str (hmacSign P [] (.obj (envelopeBody header payload)))) := hsig
    cases hnull

end

end Orchestra
