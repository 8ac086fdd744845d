import Orchestra.Core.Exceptions
import Orchestra.Publishing.Registry

/-!
# Admission

A partner's call starts with a bearer token: a payload in base64url and a signature over the
payload, which is a JSON text with the claims of the partner. The ingress looks the card up, checks
the token and compares its claims with the card: the audience with the audiences of the card, and
the scopes with those that the embedded contract requires. What the card itself requires of a token
is not compared with anything.

`Clears` says when a call is admitted (`admitCall_eq_ok_iff`), and `Admissible` when it should be.
The difference is the requirements of the card (`admit_sound_iff`).
-/

namespace Orchestra

/-- How the interpreter reads the payload of a token, and how it compares values. -/
structure TokenReader where
  /-- `base64.urlsafe_b64decode(text.encode("ascii")).decode("utf-8")`; `none` if it raises. -/
  decode : String → Option String
  /-- `json.loads`; `none` if it raises. -/
  loads : String → Option Json
  /-- `==` on what `json.loads` returns. -/
  eq : Json → Json → Bool

/-- `BearerToken`. The claims may be of any type. -/
structure BearerToken where
  issuer : Json
  subject : Json
  audience : Json
  scopes : List Json
  expiresAt : Json := .null

namespace BearerToken

/-- `from_dict`. -/
def fromDict (d : Json) : Except Raised BearerToken := do
  let issuer ← d.getD "iss" (.str "")
  let claimed := (((d.get? "scope").getD .null).orElse ((d.get? "scopes").getD .null)).orElse
    (.arr [])
  let scopes ←
    match claimed with
    | .str text => .ok ((pySplit text).map .str)
    | value => value.iterate
  return { issuer := issuer, subject := (d.get? "sub").getD (.str ""),
           audience := (d.get? "aud").getD (.str ""), scopes := scopes,
           expiresAt := (d.get? "exp").getD .null }

def hasScope (R : TokenReader) (bt : BearerToken) (scope : Json) : Bool :=
  bt.scopes.any fun s ↦ R.eq s scope

end BearerToken

namespace Ingress

def ingressDenied (text : String) : Raised := ⟨"IngressDenied", text⟩

/-- `token.rsplit(".", 1)`, or `none` without a dot. -/
def rsplitDot (token : String) : Option (String × String) :=
  match token.toList.reverse.span fun c ↦ c != '.' with
  | (_, []) => none
  | (sig, _ :: payload) => some (String.ofList payload.reverse, String.ofList sig.reverse)

variable (P : Primitives) (R : TokenReader) (tokenKey : List UInt8)

/-- `verify_token`. -/
def verifyToken (token : String) : Except Raised BearerToken :=
  match rsplitDot token with
  | none => .error (ingressDenied "malformed bearer token")
  | some (payloadB64, sig) =>
    match R.decode payloadB64 with
    | none => .error (ingressDenied "bearer token payload undecodable")
    | some payload =>
      match hmacVerify P tokenKey (.str payload) sig with
      | .error _ =>
        .error ⟨"TypeError", "comparing strings with non-ASCII characters is not supported"⟩
      | .ok false => .error (ingressDenied "bearer token signature invalid")
      | .ok true =>
        match R.loads payload with
        | none => .error (ingressDenied "bearer token claims undecodable")
        | some claims => BearerToken.fromDict claims

/-! ## The scopes of the contract -/

/-- `card.contract_snapshot.get("audiences", []) or []`. -/
def contractSpecs (card : AgentCard) : Except Raised (List Json) :=
  ((((Json.obj card.contractSnapshot).get? "audiences").getD (.arr [])).orElse (.arr [])).iterate

/-- `spec.get("required_scopes", [])`. -/
def requiredScopes (spec : Json) : Except Raised (List Json) := do
  let scopes ← spec.getD "required_scopes" (.arr [])
  scopes.iterate

/-- The inner loop. -/
def checkScopes (bt : BearerToken) : List Json → Except Raised Unit
  | [] => .ok ()
  | scope :: scopes =>
    if bt.hasScope R scope then checkScopes bt scopes
    else .error (ingressDenied ("token missing required scope " ++ scope.pyRepr))

/-- The outer loop. -/
def checkSpecs (bt : BearerToken) : List Json → Except Raised Unit
  | [] => .ok ()
  | spec :: specs => do
    let scopes ← requiredScopes spec
    checkScopes R bt scopes
    checkSpecs bt specs

/-- The fourth check: every scope that the contract requires. -/
def checkContract (card : AgentCard) (bt : BearerToken) : Except Raised Unit := do
  let specs ← contractSpecs card
  checkSpecs R bt specs

/-- `admit`. -/
def admitCall (registry : PublishedRegistry) (capabilityId : String) (version : Option String)
    (token : String) : Except Raised (AgentCard × BearerToken) :=
  match registry.get capabilityId version with
  | .error _ => .error (ingressDenied
      ("no published card for " ++ capabilityId ++ " v" ++ version.getD "None"))
  | .ok card =>
    if card.status ≠ .published then
      .error (ingressDenied
        ("card " ++ card.cardId ++ " is " ++ card.status.value ++ ", not published"))
    else
      match verifyToken P R tokenKey token with
      | .error e => .error e
      | .ok bt =>
        if bt.audience ∉ card.audiences.map Json.str then
          .error (ingressDenied ("token audience " ++ bt.audience.pyRepr ++
            " not in card audiences " ++ pyReprList card.audiences))
        else
          match checkContract R card bt with
          | .error e => .error e
          | .ok () => .ok (card, bt)

/-! ## When a call is admitted -/

/-- The payload of the token was signed under the key, and these are its claims. -/
def SignedBy (token : String) (bt : BearerToken) : Prop :=
  ∃ payloadB64 payload claims,
    rsplitDot token = some (payloadB64, hmacSign P tokenKey (.str payload)) ∧
      R.decode payloadB64 = some payload ∧ R.loads payload = some claims ∧
        BearerToken.fromDict claims = .ok bt

/-- The contract of the card requires the scope. -/
def Requires (card : AgentCard) (scope : Json) : Prop :=
  ∃ specs, contractSpecs card = .ok specs ∧ ∃ spec ∈ specs, ∃ scopes,
    requiredScopes spec = .ok scopes ∧ scope ∈ scopes

/-- The scopes of the contract can be read. -/
def Readable (card : AgentCard) : Prop :=
  ∃ specs, contractSpecs card = .ok specs ∧ ∀ spec ∈ specs, ∃ scopes,
    requiredScopes spec = .ok scopes

/-- The scopes that the card lists itself. -/
def listedScopes (card : AgentCard) : List Json :=
  match (Json.obj card.tokenRequirements).get? "scope" with
  | some (.arr scopes) => scopes
  | _ => []

/-- The `token_requirements` of the card hold of the token. -/
structure MeetsRequirements (card : AgentCard) (bt : BearerToken) : Prop where
  issuer : ∀ issuer, (Json.obj card.tokenRequirements).get? "issuer" = some issuer →
    issuer ≠ .null → R.eq issuer bt.issuer
  scopes : ∀ scope ∈ listedScopes card, bt.hasScope R scope

/-- The call passes the checks that the ingress makes. -/
structure Clears (registry : PublishedRegistry) (capabilityId : String)
    (version : Option String) (token : String) (card : AgentCard) (bt : BearerToken) : Prop where
  found : registry.get capabilityId version = .ok card
  published : card.status = .published
  signed : SignedBy P R tokenKey token bt
  audience : bt.audience ∈ card.audiences.map Json.str
  readable : Readable card
  scopes : ∀ scope, Requires card scope → bt.hasScope R scope

/-- The call should be admitted with this card and this token. -/
structure Admissible (token : String) (card : AgentCard) (bt : BearerToken) : Prop where
  published : card.status = .published
  signed : SignedBy P R tokenKey token bt
  audience : bt.audience ∈ card.audiences.map Json.str
  scopes : ∀ scope, Requires card scope → bt.hasScope R scope
  requirements : MeetsRequirements R card bt

section Admit

variable {P} {R} {tokenKey} {token capabilityId : String} {version : Option String}
  {card : AgentCard} {bt : BearerToken} {registry : PublishedRegistry}

theorem verifyToken_eq_ok_iff :
    verifyToken P R tokenKey token = .ok bt ↔ SignedBy P R tokenKey token bt := by
  constructor
  · intro h
    rw [verifyToken] at h
    split at h
    · cases h
    next payloadB64 sig hsplit =>
    split at h
    · cases h
    next payload hdecode =>
    split at h
    · cases h
    · cases h
    next hvalid =>
    split at h
    · cases h
    next claims hclaims =>
    obtain rfl := hmacVerify_eq_true_iff.mp hvalid
    exact ⟨payloadB64, payload, claims, hsplit, hdecode, hclaims, h⟩
  · rintro ⟨payloadB64, payload, claims, hsplit, hdecode, hclaims, hdict⟩
    have hvalid := hmacVerify_eq_true_iff.mpr (rfl : hmacSign P tokenKey (.str payload) = _)
    simp only [verifyToken, hsplit, hdecode, hvalid, hclaims, hdict]

/-- A token is split where its signature starts. -/
theorem rsplitDot_append {payloadB64 sig : String} (h : '.' ∉ sig.toList) :
    rsplitDot (payloadB64 ++ "." ++ sig) = some (payloadB64, sig) := by
  have hlist : (payloadB64 ++ "." ++ sig).toList.reverse =
      sig.toList.reverse ++ '.' :: payloadB64.toList.reverse := by
    simp [String.toList_append]
  have hsig : ∀ c ∈ sig.toList.reverse, (c != '.') = true := by
    intro c hc
    rw [List.mem_reverse] at hc
    simpa using fun heq : c = '.' ↦ h (heq ▸ hc)
  rw [rsplitDot, hlist, List.span_eq_takeWhile_dropWhile, List.takeWhile_append_of_pos hsig,
    List.dropWhile_append_of_pos hsig]
  simp

/-- A token that was signed under the key verifies. -/
theorem signedBy_append {payloadB64 payload : String} {claims : Json}
    (hdecode : R.decode payloadB64 = some payload) (hloads : R.loads payload = some claims)
    (hclaims : BearerToken.fromDict claims = .ok bt) :
    SignedBy P R tokenKey (payloadB64 ++ "." ++ hmacSign P tokenKey (.str payload)) bt :=
  ⟨payloadB64, payload, claims, rsplitDot_append (dot_notMem_hmacSign tokenKey (.str payload)),
    hdecode, hloads, hclaims⟩

theorem checkScopes_eq_ok_iff {scopes : List Json} :
    checkScopes R bt scopes = .ok () ↔ ∀ scope ∈ scopes, bt.hasScope R scope := by
  induction scopes with
  | nil => simp [checkScopes]
  | cons scope scopes ih =>
    rw [checkScopes, List.forall_mem_cons]
    split_ifs with h
    · rw [ih, and_iff_right h]
    · exact iff_of_false nofun fun hall ↦ h hall.1

theorem checkSpecs_eq_ok_iff {specs : List Json} :
    checkSpecs R bt specs = .ok () ↔ ∀ spec ∈ specs, ∃ scopes,
      requiredScopes spec = .ok scopes ∧ ∀ scope ∈ scopes, bt.hasScope R scope := by
  induction specs with
  | nil => simp [checkSpecs]
  | cons spec specs ih =>
    rw [checkSpecs, List.forall_mem_cons, ← ih, bind_eq_ok_iff, ← exists_and_right]
    refine exists_congr fun scopes ↦ ?_
    rw [and_assoc, bind_eq_ok_iff, ← checkScopes_eq_ok_iff]
    exact and_congr_right fun _ ↦ ⟨fun ⟨_, h, h'⟩ ↦ ⟨h, h'⟩, fun h ↦ ⟨(), h⟩⟩

/-- The contract can be read, and the token has what it requires. -/
theorem checkContract_eq_ok_iff : checkContract R card bt = .ok () ↔
    Readable card ∧ ∀ scope, Requires card scope → bt.hasScope R scope := by
  rw [checkContract, bind_eq_ok_iff]
  simp only [checkSpecs_eq_ok_iff]
  constructor
  · rintro ⟨specs, hspecs, hall⟩
    refine ⟨⟨specs, hspecs, fun spec hspec ↦ ?_⟩, ?_⟩
    · obtain ⟨scopes, hscopes, -⟩ := hall spec hspec
      exact ⟨scopes, hscopes⟩
    · rintro scope ⟨specs', hspecs', spec, hspec, scopes, hscopes, hscope⟩
      obtain rfl := Except.ok.inj (hspecs.symm.trans hspecs')
      obtain ⟨scopes', hscopes', hhas⟩ := hall spec hspec
      obtain rfl := Except.ok.inj (hscopes.symm.trans hscopes')
      exact hhas scope hscope
  · rintro ⟨⟨specs, hspecs, hread⟩, hall⟩
    refine ⟨specs, hspecs, fun spec hspec ↦ ?_⟩
    obtain ⟨scopes, hscopes⟩ := hread spec hspec
    exact ⟨scopes, hscopes, fun scope hscope ↦
      hall scope ⟨specs, hspecs, spec, hspec, scopes, hscopes, hscope⟩⟩

/-- **The checks that admit a call.** -/
theorem admitCall_eq_ok_iff :
    admitCall P R tokenKey registry capabilityId version token = .ok (card, bt) ↔
      Clears P R tokenKey registry capabilityId version token card bt := by
  constructor
  · intro h
    rw [admitCall] at h
    split at h
    · cases h
    next card' hfound =>
    split_ifs at h with hstatus
    split at h
    · cases h
    next bt' hverified =>
    split_ifs at h with haudience
    split at h
    · cases h
    next hcontract =>
    obtain ⟨rfl, rfl⟩ := Prod.mk.inj (Except.ok.inj h)
    obtain ⟨hreadable, hscopes⟩ := checkContract_eq_ok_iff.mp hcontract
    exact ⟨hfound, not_not.mp hstatus, verifyToken_eq_ok_iff.mp hverified, haudience,
      hreadable, hscopes⟩
  · intro h
    have hcontract := checkContract_eq_ok_iff.mpr ⟨h.readable, h.scopes⟩
    simp only [admitCall, h.found, h.published, verifyToken_eq_ok_iff.mpr h.signed, h.audience,
      hcontract, ne_eq, not_true_eq_false, if_false]

/-- **Admission is sound** exactly for the calls that either do not pass the checks of the ingress
or meet the requirements of the card, which it does not check. -/
theorem admit_sound_iff (P : Primitives) (R : TokenReader) (tokenKey : List UInt8)
    (registry : PublishedRegistry) (capabilityId : String) (version : Option String)
    (token : String) :
    (∀ card bt, admitCall P R tokenKey registry capabilityId version token = .ok (card, bt) →
      Admissible P R tokenKey token card bt) ↔
    ∀ card bt, Clears P R tokenKey registry capabilityId version token card bt →
      MeetsRequirements R card bt := by
  constructor
  · intro h card bt hclears
    exact (h card bt (admitCall_eq_ok_iff.mpr hclears)).requirements
  · intro h card bt hadmit
    have hclears := admitCall_eq_ok_iff.mp hadmit
    exact ⟨hclears.published, hclears.signed, hclears.audience, hclears.scopes,
      h card bt hclears⟩

end Admit

/-! ### A token of another issuer -/

/-- A card whose tokens have to come from one issuer. -/
def issuerBoundCard : AgentCard where
  cardId := "card:3"
  capabilityId := "pub.summarize"
  name := "Summarize"
  version := "0.1.0"
  partnerId := "partner-acme"
  partnerContractId := "contract-001"
  audiences := ["partner-acme-api"]
  tokenRequirements := [("issuer", .str "acme-idp"), ("scope", .arr [])]
  createdAt := "2024-01-01T00:00:00.000Z"

def otherPayload : String :=
  "\x7b\"aud\": \"partner-acme-api\", \"iss\": \"other-idp\", \"scope\": \"read:summary\", " ++
    "\"sub\": \"u1\"\x7d"

def otherPayloadB64 : String :=
  "eyJhdWQiOiAicGFydG5lci1hY21lLWFwaSIsICJpc3MiOiAib3RoZXItaWRwIiwgInNjb3BlIjogInJlYWQ6c3VtbWFy" ++
    "eSIsICJzdWIiOiAidTEifQ=="

def otherClaims : Json :=
  .obj [("aud", .str "partner-acme-api"), ("iss", .str "other-idp"),
    ("scope", .str "read:summary"), ("sub", .str "u1")]

def otherReader : TokenReader where
  decode text := if text = otherPayloadB64 then some otherPayload else none
  loads text := if text = otherPayload then some otherClaims else none
  eq a b := decide (a = b)

def partnerPrimitives : Primitives :=
  ⟨fun _ ↦ List.replicate 32 7, fun _ _ ↦ List.replicate 32 7, fun _ _ ↦ by decide⟩

def partnerRegistry : PublishedRegistry :=
  (PublishedRegistry.publish partnerPrimitives {} issuerBoundCard (some [7]) (some "k")).1

def otherToken : String :=
  otherPayloadB64 ++ "." ++ hmacSign partnerPrimitives [7] (.str otherPayload)

def otherBearer : BearerToken where
  issuer := .str "other-idp"
  subject := .str "u1"
  audience := .str "partner-acme-api"
  scopes := [.str "read:summary"]

theorem clears_otherToken : Clears partnerPrimitives otherReader [7] partnerRegistry "pub.summarize"
    none otherToken (PublishedRegistry.asPublished partnerPrimitives issuerBoundCard [7] "k").card
    otherBearer := by
  have hdecode : otherReader.decode otherPayloadB64 = some otherPayload := by simp [otherReader]
  have hloads : otherReader.loads otherPayload = some otherClaims := by simp [otherReader]
  refine ⟨rfl, rfl, signedBy_append hdecode hloads rfl, by decide, ⟨[], rfl, by simp⟩, ?_⟩
  rintro scope ⟨specs, hspecs, spec, hspec, -⟩
  obtain rfl := Except.ok.inj hspecs
  cases hspec

/-- The card asks for another issuer, and the call is admitted. -/
theorem admits_other_issuer : ¬∀ (P : Primitives) (R : TokenReader) (tokenKey : List UInt8)
    (registry : PublishedRegistry) (capabilityId : String) (version : Option String)
    (token : String) (card : AgentCard) (bt : BearerToken),
    admitCall P R tokenKey registry capabilityId version token = .ok (card, bt) →
      Admissible P R tokenKey token card bt := by
  intro hall
  have hadmissible := hall _ _ _ _ _ _ _ _ _ (admitCall_eq_ok_iff.mpr clears_otherToken)
  have hissuer := hadmissible.requirements.issuer (.str "acme-idp") rfl (by decide)
  exact absurd hissuer (by decide)

end Ingress

end Orchestra
