import Orchestra.Core.JsonDumps
import Orchestra.Foundation.Dictionary
import Orchestra.Publishing.Ingress

/-!
# From issued claims to verified claims

A token carries its claims through a JSON text, base64url and a dot; the scopes go through one
string with blanks. `verifyToken` undoes all of it, and gives the claims that went in
(`verifyToken_issueToken`).

A token with another payload is refused, if nobody else can sign. The one exception is a signature
that is not ASCII: it is compared by a function that raises, and `verifyToken` lets the exception
through (`rejectsUnissued_iff`).
-/

namespace Orchestra

/-! ## Words -/

/-- A scope: a word without white space. -/
def IsWord (s : String) : Prop := s ≠ "" ∧ ∀ c ∈ s.toList, pySpace c = false

theorem isWord_of_any {s : String} (h : s ≠ "") (hany : s.toList.any pySpace = false) : IsWord s :=
  ⟨h, fun c hc ↦ by simpa using List.any_eq_false.mp hany c hc⟩

/-- Words joined by blanks are split into the same words. -/
theorem pySplit_intercalate {words : List String} (h : ∀ w ∈ words, IsWord w) :
    pySplit (" ".intercalate words) = words := by
  have hsplit : (" ".intercalate words).toList.splitOnP pySpace =
      if words = [] then [[]] else words.map String.toList := by
    induction words with
    | nil => rfl
    | cons w words ih =>
      rw [List.forall_mem_cons] at h
      cases words with
      | nil =>
        rw [String.intercalate_singleton, if_neg (List.cons_ne_nil _ _)]
        exact List.splitOnP_eq_singleton h.1.2
      | cons w' words =>
        have hcons : (" ".intercalate (w :: w' :: words)).toList =
            w.toList ++ ' ' :: (" ".intercalate (w' :: words)).toList := by
          rw [String.intercalate_cons_of_ne_nil (List.cons_ne_nil _ _), String.toList_append,
            String.toList_append, List.append_assoc]
          rfl
        rw [hcons, List.splitOnP_append_cons_of_forall_mem h.1.2 ' ' (by decide), ih h.2,
          if_neg (List.cons_ne_nil _ _), if_neg (List.cons_ne_nil _ _)]
        rfl
  rw [pySplit, hsplit]
  split_ifs with hnil
  · rw [hnil]
    rfl
  · have hfilter : (words.map String.toList).filter (fun word ↦ !word.isEmpty) =
        words.map String.toList := by
      refine List.filter_eq_self.mpr fun word hword ↦ ?_
      obtain ⟨w, hw, rfl⟩ := List.mem_map.mp hword
      simpa using (h w hw).1
    rw [hfilter, List.map_map]
    exact List.map_id'' (fun w ↦ String.ofList_toList) words

namespace Ingress

/-! ## Issuing -/

/-- `base64.urlsafe_b64encode(text.encode("utf-8")).decode("ascii")`. -/
def b64Text (text : String) : String := String.ofList (urlsafeB64encode text.toUTF8.toList)

/-- The claims of a token. -/
def issueBody (issuer subject audience : String) (scopes : List String) (expiresAt : Option ℤ) :
    List (String × Json) :=
  [("iss", .str issuer), ("sub", .str subject), ("aud", .str audience),
    ("scope", .str (" ".intercalate scopes))] ++
  match expiresAt with
  | none => []
  | some exp => [("exp", .int exp)]

/-- `issue_token`. -/
def issueToken (P : Primitives) (tokenKey : List UInt8) (issuer subject audience : String)
    (scopes : List String) (expiresAt : Option ℤ) : String :=
  let payload := (Json.obj (issueBody issuer subject audience scopes expiresAt)).dumpsText
  b64Text payload ++ "." ++ hmacSign P tokenKey (.str payload)

/-- The token object with these claims. -/
def issuedBearer (issuer subject audience : String) (scopes : List String)
    (expiresAt : Option ℤ) : BearerToken where
  issuer := .str issuer
  subject := .str subject
  audience := .str audience
  scopes := scopes.map .str
  expiresAt := (expiresAt.map Json.int).getD .null

/-- base64 and JSON round-trip on a dictionary. -/
structure ReadsBack (R : TokenReader) (fields : List (String × Json)) : Prop where
  decode : R.decode (b64Text (Json.obj fields).dumpsText) = some (Json.obj fields).dumpsText
  loads : ∃ fields', R.loads (Json.obj fields).dumpsText = some (.obj fields') ∧
    fields'.Perm fields

section RoundTrip

variable {P : Primitives} {R : TokenReader} {tokenKey : List UInt8}
  {issuer subject audience : String} {scopes : List String} {expiresAt : Option ℤ}

theorem nodup_issueBody :
    ((issueBody issuer subject audience scopes expiresAt).map Prod.fst).Nodup := by
  cases expiresAt with
  | none => exact (by decide : ["iss", "sub", "aud", "scope"].Nodup)
  | some exp => exact (by decide : ["iss", "sub", "aud", "scope", "exp"].Nodup)

/-- What the claims hold under the keys that are read. -/
theorem get_issueBody (issuer subject audience : String) (scopes : List String)
    (expiresAt : Option ℤ) :
    Dictionary.get (issueBody issuer subject audience scopes expiresAt) "iss" =
        some (.str issuer) ∧
      Dictionary.get (issueBody issuer subject audience scopes expiresAt) "sub" =
        some (.str subject) ∧
      Dictionary.get (issueBody issuer subject audience scopes expiresAt) "aud" =
        some (.str audience) ∧
      Dictionary.get (issueBody issuer subject audience scopes expiresAt) "scope" =
        some (.str (" ".intercalate scopes)) ∧
      Dictionary.get (issueBody issuer subject audience scopes expiresAt) "scopes" = none ∧
      Dictionary.get (issueBody issuer subject audience scopes expiresAt) "exp" =
        expiresAt.map Json.int := by
  cases expiresAt with
  | none => exact ⟨rfl, rfl, rfl, rfl, rfl, rfl⟩
  | some exp => exact ⟨rfl, rfl, rfl, rfl, rfl, rfl⟩

/-- The scope string is empty only if there are no scopes. -/
theorem intercalate_ne_empty (hscopes : ∀ s ∈ scopes, IsWord s) (h : scopes ≠ []) :
    " ".intercalate scopes ≠ "" := by
  intro hempty
  have hsplit := pySplit_intercalate hscopes
  rw [hempty] at hsplit
  exact h hsplit.symm

/-- The claims are read from a dictionary in whatever order its items are. -/
theorem fromDict_of_perm (hscopes : ∀ s ∈ scopes, IsWord s) {fields : List (String × Json)}
    (h : fields.Perm (issueBody issuer subject audience scopes expiresAt)) :
    BearerToken.fromDict (.obj fields) =
      .ok (issuedBearer issuer subject audience scopes expiresAt) := by
  have hget (key : String) : (Json.obj fields).get? key =
      Dictionary.get (issueBody issuer subject audience scopes expiresAt) key :=
    (Dictionary.get_of_perm nodup_issueBody h.symm key).symm
  obtain ⟨hiss, hsub, haud, hscope, hscopes', hexp⟩ :=
    get_issueBody issuer subject audience scopes expiresAt
  simp only [BearerToken.fromDict, Json.getD, hget, hiss, hsub, haud, hscope, hscopes', hexp,
    Option.getD_some, Option.getD_none]
  by_cases hnil : scopes = []
  · -- an empty text counts as no claim, and is read as no scopes
    rw [hnil]
    rfl
  · have htruthy : (Json.str (" ".intercalate scopes)).truthy = true := by
      simpa [Json.truthy] using intercalate_ne_empty hscopes hnil
    have hclaimed : (Json.str (" ".intercalate scopes)).orElse .null =
        .str (" ".intercalate scopes) := if_pos htruthy
    have hclaimed' : (Json.str (" ".intercalate scopes)).orElse (.arr []) =
        .str (" ".intercalate scopes) := if_pos htruthy
    rw [hclaimed, hclaimed']
    dsimp only
    rw [pySplit_intercalate hscopes]
    rfl

/-- **Issued claims are verified claims.** -/
theorem verifyToken_issueToken (hscopes : ∀ s ∈ scopes, IsWord s)
    (hR : ReadsBack R (issueBody issuer subject audience scopes expiresAt)) :
    verifyToken P R tokenKey (issueToken P tokenKey issuer subject audience scopes expiresAt) =
      .ok (issuedBearer issuer subject audience scopes expiresAt) := by
  obtain ⟨fields', hloads, hperm⟩ := hR.loads
  exact verifyToken_eq_ok_iff.mpr
    (signedBy_append hR.decode hloads (fromDict_of_perm hscopes hperm))

end RoundTrip

/-! ## Payloads that were not issued -/

/-- The payload that a token is decoded to. -/
def decodedPayload (R : TokenReader) (token : String) : Option String :=
  (rsplitDot token).bind fun parts ↦ R.decode parts.1

/-- Nobody else can sign: a signature in the token is one of an issued payload. -/
def Unforged (P : Primitives) (tokenKey : List UInt8) (issued : Set String) (token : String) :
    Prop :=
  ∀ payloadB64 sig payload, rsplitDot token = some (payloadB64, sig) →
    sig = hmacSign P tokenKey (.str payload) → payload ∈ issued

/-- A token whose payload was not issued is refused. -/
def RejectsUnissued (P : Primitives) (R : TokenReader) (tokenKey : List UInt8)
    (issued : Set String) (token : String) : Prop :=
  (∀ payload, decodedPayload R token = some payload → payload ∉ issued) →
    ∃ text, verifyToken P R tokenKey token = .error (ingressDenied text)

/-- A text that `hmac.compare_digest` accepts. -/
def ascii (s : String) : Bool := s.toList.all fun c ↦ decide (c.toNat < 128)

/-- The signature of the token is compared, if its payload can be decoded and was not issued. -/
def ComparesUnissued (R : TokenReader) (issued : Set String) (token : String) : Prop :=
  ∀ payloadB64 sig payload, rsplitDot token = some (payloadB64, sig) →
    R.decode payloadB64 = some payload → payload ∉ issued → ascii sig = true

variable {P : Primitives} {R : TokenReader} {tokenKey : List UInt8} {issued : Set String}
  {token : String}

theorem hmacVerify_of_ascii {payload sig : String} (h : ascii sig = true) :
    hmacVerify P tokenKey (.str payload) sig =
      .ok (hmacSign P tokenKey (.str payload) == sig) := by
  rw [hmacVerify, compareDigest, hmacSign_ascii]
  exact if_pos h

theorem hmacVerify_of_not_ascii {payload sig : String} (h : ascii sig = false) :
    hmacVerify P tokenKey (.str payload) sig = .error .typeError := by
  rw [hmacVerify, compareDigest, hmacSign_ascii]
  exact if_neg (by rw [Bool.true_and]; exact ne_true_of_eq_false h)

/-- **Exactly when a token whose payload was not issued is refused**: its signature is ASCII, or its
payload cannot be decoded. -/
theorem rejectsUnissued_iff (hunforged : Unforged P tokenKey issued token) :
    RejectsUnissued P R tokenKey issued token ↔ ComparesUnissued R issued token := by
  constructor
  · intro hrejects payloadB64 sig payload hsplit hdecode hnot
    obtain ⟨text, herror⟩ := hrejects fun payload' hpayload' ↦ by
      rw [decodedPayload, hsplit, Option.bind_some, hdecode] at hpayload'
      exact Option.some.inj hpayload' ▸ hnot
    by_contra hascii
    -- the comparison raises, and its exception is not a refusal
    rw [verifyToken, hsplit] at herror
    simp only [hdecode, hmacVerify_of_not_ascii (Bool.eq_false_of_not_eq_true hascii)] at herror
    have hname : "TypeError" = "IngressDenied" :=
      congrArg Raised.typeName (Except.error.inj herror)
    exact absurd hname (by decide)
  · intro hcompares hunissued
    rw [verifyToken]
    cases hsplit : rsplitDot token with
    | none => exact ⟨_, rfl⟩
    | some parts =>
      obtain ⟨payloadB64, sig⟩ := parts
      cases hdecode : R.decode payloadB64 with
      | none =>
        simp only [hdecode]
        exact ⟨_, rfl⟩
      | some payload =>
        have hnot : payload ∉ issued := hunissued payload (by
          rw [decodedPayload, hsplit]
          exact hdecode)
        have hascii := hcompares payloadB64 sig payload hsplit hdecode hnot
        have hdiffers : (hmacSign P tokenKey (.str payload) == sig) = false :=
          beq_eq_false_iff_ne.mpr fun heq ↦ hnot (hunforged payloadB64 sig payload hsplit heq.symm)
        simp only [hdecode, hmacVerify_of_ascii hascii, hdiffers]
        exact ⟨_, rfl⟩

/-- **Issued claims come back, and exactly the tokens whose signatures can be compared are refused**
when their payloads were not issued. -/
theorem tokens_sound_iff (P : Primitives) (R : TokenReader) (tokenKey : List UInt8)
    (issuer subject audience : String) (scopes : List String) (expiresAt : Option ℤ)
    (hscopes : ∀ s ∈ scopes, IsWord s)
    (hR : ReadsBack R (issueBody issuer subject audience scopes expiresAt)) (issued : Set String)
    (token : String) (hunforged : Unforged P tokenKey issued token) :
    verifyToken P R tokenKey (issueToken P tokenKey issuer subject audience scopes expiresAt) =
        .ok (issuedBearer issuer subject audience scopes expiresAt) ∧
      (RejectsUnissued P R tokenKey issued token ↔ ComparesUnissued R issued token) :=
  ⟨verifyToken_issueToken hscopes hR, rejectsUnissued_iff hunforged⟩

/-! ### Tokens of one issuer -/

def summaryBody : List (String × Json) :=
  issueBody "acme-idp" "user.\"ü\"" "partner-acme-api" ["read:summary", "read:clauses"]
    (some 1800000000)

/-- A reader that knows one payload. -/
def readerOf (payload : String) (claims : Json) : TokenReader where
  decode text := if text = b64Text payload then some payload else none
  loads text := if text = payload then some claims else none
  eq a b := decide (a = b)

theorem decode_readerOf (payload : String) (claims : Json) :
    (readerOf payload claims).decode (b64Text payload) = some payload := if_pos rfl

theorem loads_readerOf (payload : String) (claims : Json) :
    (readerOf payload claims).loads payload = some claims := if_pos rfl

/-- What `json.loads` gives has its items in the order of their keys. -/
def summaryReader : TokenReader :=
  readerOf (Json.obj summaryBody).dumpsText (.obj (Dictionary.sort summaryBody))

theorem readsBack_summaryBody : ReadsBack summaryReader summaryBody where
  decode := decode_readerOf _ _
  loads := ⟨_, loads_readerOf _ _, Dictionary.sort_perm summaryBody⟩

theorem tokens_sound_summary :
    verifyToken partnerPrimitives summaryReader [7] (issueToken partnerPrimitives [7] "acme-idp"
        "user.\"ü\"" "partner-acme-api" ["read:summary", "read:clauses"] (some 1800000000)) =
        .ok (issuedBearer "acme-idp" "user.\"ü\"" "partner-acme-api"
          ["read:summary", "read:clauses"] (some 1800000000)) ∧
      (RejectsUnissued partnerPrimitives summaryReader [7] ∅ "malformed" ↔
        ComparesUnissued summaryReader ∅ "malformed") := by
  have hscopes : ∀ s ∈ ["read:summary", "read:clauses"], IsWord s := by
    rw [List.forall_mem_cons, List.forall_mem_singleton]
    exact ⟨isWord_of_any (by decide) (by decide), isWord_of_any (by decide) (by decide)⟩
  have hsplit : rsplitDot "malformed" = none := by decide
  refine tokens_sound_iff _ _ _ _ _ _ _ _ hscopes readsBack_summaryBody ∅ "malformed" ?_
  intro payloadB64 sig payload hsome
  rw [hsplit] at hsome
  cases hsome

/-- The token of an empty dictionary, with a signature that is not ASCII. -/
def accentedToken : String := "e30=.é"

def emptyReader : TokenReader := readerOf "\x7b\x7d" (.obj [])

theorem rsplitDot_accentedToken : rsplitDot accentedToken = some ("e30=", "é") := by decide

/-- The token is not refused with `IngressDenied`, though nobody has issued anything. -/
theorem not_rejectsUnissued_accentedToken :
    Unforged partnerPrimitives [7] ∅ accentedToken ∧
      ¬RejectsUnissued partnerPrimitives emptyReader [7] ∅ accentedToken := by
  have hunforged : Unforged partnerPrimitives [7] ∅ accentedToken := by
    intro payloadB64 sig payload hsplit hsig
    obtain ⟨-, rfl⟩ := Prod.mk.inj (Option.some.inj (rsplitDot_accentedToken.symm.trans hsplit))
    have hascii := hmacSign_ascii (P := partnerPrimitives) [7] (.str payload)
    rw [← hsig] at hascii
    exact absurd hascii (by decide)
  refine ⟨hunforged, fun hrejects ↦ ?_⟩
  have htext : b64Text "\x7b\x7d" = "e30=" := by decide +kernel
  have hdecode : emptyReader.decode "e30=" = some "\x7b\x7d" := htext ▸ decode_readerOf _ _
  have hascii := (rejectsUnissued_iff hunforged).mp hrejects "e30=" "é" "\x7b\x7d"
    rsplitDot_accentedToken hdecode (Set.notMem_empty _)
  exact absurd hascii (by decide)

end Ingress

end Orchestra
