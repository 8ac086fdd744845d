import Orchestra.Core.Json
import Mathlib.Data.List.DropRight

/-!
# Digests, signatures and envelopes

SHA-256 and HMAC belong to the platform, so they are parameters (`Primitives`); everything the
program builds on them is concrete: the hexadecimal digest of a canonical encoding, the unpadded
base64url signature, and the COSE-like envelope with its protected header.

Nothing is assumed of the two functions here beyond the shape of their output. Results that need
collision freedom say so where they are stated.
-/

namespace Orchestra

/-- The cryptographic functions of the platform. A digest has at least one byte. -/
structure Primitives where
  /-- `hashlib.sha256(data).digest()`. -/
  sha256 : List UInt8 → List UInt8
  /-- `hmac.new(key, msg, hashlib.sha256).digest()`. -/
  hmacSha256 : (key msg : List UInt8) → List UInt8
  hmac_ne_nil : ∀ key msg, hmacSha256 key msg ≠ []

/-- SHA-256 has no collision. -/
def Primitives.CollisionFree (P : Primitives) : Prop := Function.Injective P.sha256

/-- The exceptions these functions can raise. -/
inductive PyError where
  | keyError (key : String)
  | typeError
  | attributeError (name : String)
  deriving DecidableEq

/-! ## base64url -/

/-- The six-bit alphabet of `base64.urlsafe_b64encode`. -/
def base64Char (n : ℕ) : Char :=
  if n < 26 then Char.ofNat (65 + n)
  else if n < 52 then Char.ofNat (71 + n)
  else if n < 62 then Char.ofNat (n - 4)
  else if n = 62 then '-' else '_'

/-- `base64.urlsafe_b64encode`, with its padding. -/
def urlsafeB64encode : List UInt8 → List Char
  | [] => []
  | [a] =>
    let n := a.toNat * 16
    [base64Char (n / 64), base64Char (n % 64), '=', '=']
  | [a, b] =>
    let n := (a.toNat * 256 + b.toNat) * 4
    [base64Char (n / 4096), base64Char (n / 64 % 64), base64Char (n % 64), '=']
  | a :: b :: c :: rest =>
    let n := (a.toNat * 256 + b.toNat) * 256 + c.toNat
    base64Char (n / 262144) :: base64Char (n / 4096 % 64) :: base64Char (n / 64 % 64) ::
      base64Char (n % 64) :: urlsafeB64encode rest

/-- `s.rstrip("=")`. -/
def rstripPad (s : List Char) : List Char := s.rdropWhile fun c ↦ c == '='

/-! ## Signing -/

section Signing

variable (P : Primitives)

/-- Lower-case hexadecimal, two digits a byte. -/
def hexdigest (bytes : List UInt8) : String :=
  String.ofList (bytes.flatMap fun b ↦ [hexDigit (b.toNat / 16), hexDigit (b.toNat % 16)])

def digestBytes (data : List UInt8) : String := hexdigest (P.sha256 data)

/-- SHA-256 hex digest over the canonical encoding. -/
def digestJson (payload : Json) : String := digestBytes P payload.canonicalJson

/-- `content_addressed_id`: the kind and the first twelve digits of the digest. -/
def contentAddressedId (kind : String) (payload : Json) : String :=
  kind ++ ":" ++ String.ofList ((digestJson P payload).toList.take 12)

/-- The HMAC of the digest's ASCII form, as unpadded base64url. -/
def hmacSign (key : List UInt8) (payload : Json) : String :=
  let msg := (digestJson P payload).toUTF8.toList
  String.ofList (rstripPad (urlsafeB64encode (P.hmacSha256 key msg)))

/-- `hmac.compare_digest` on strings, which refuses characters outside ASCII. -/
def compareDigest (a b : String) : Except PyError Bool :=
  if a.toList.all (fun c ↦ decide (c.toNat < 128)) && b.toList.all fun c ↦ decide (c.toNat < 128)
  then .ok (a == b) else .error .typeError

def hmacVerify (key : List UInt8) (payload : Json) (signature : String) : Except PyError Bool :=
  compareDigest (hmacSign P key payload) signature

/-- `{"alg": "HS256", "kid": kid, **protected}`. -/
def protectedHeader (prot : List (String × Json)) (kid : String) : Json :=
  .obj (Json.merge [("alg", .str "HS256"), ("kid", .str kid)] prot)

/-- The part of an envelope that is signed. -/
def envelopeBody (header payload : Json) : List (String × Json) :=
  [("protected", header), ("payload", payload)]

def coseLikeEnvelope (prot : List (String × Json)) (payload : Json) (key : List UInt8)
    (kid : String) : Json :=
  let body := envelopeBody (protectedHeader prot kid) payload
  .obj (Json.setField body "signature" (.str (hmacSign P key (.obj body))))

/-- A signature that is not a string is refused; a missing header or payload raises. -/
def verifyCoseLike (envelope : Json) (key : List UInt8) : Except PyError Bool :=
  match envelope.get? "signature" with
  | some (.str sig) =>
    match envelope.get? "protected" with
    | none => .error (.keyError "protected")
    | some header =>
      match envelope.get? "payload" with
      | none => .error (.keyError "payload")
      | some payload => hmacVerify P key (.obj (envelopeBody header payload)) sig
  | _ => .ok false

end Signing

/-! ## What signatures look like -/

/-- An encoding is made of the alphabet and the padding. -/
theorem exists_base64Char_of_mem {bytes : List UInt8} {c : Char} (h : c ∈ urlsafeB64encode bytes) :
    (∃ n < 64, c = base64Char n) ∨ c = '=' := by
  induction bytes using urlsafeB64encode.induct with
  | case1 => cases h
  | case2 a =>
    have := a.toNat_lt
    simp only [urlsafeB64encode, List.mem_cons, List.not_mem_nil, or_false] at h
    rcases h with h | h | h | h
    · exact Or.inl ⟨_, by omega, h⟩
    · exact Or.inl ⟨_, by omega, h⟩
    · exact Or.inr h
    · exact Or.inr h
  | case3 a b =>
    have := a.toNat_lt
    have := b.toNat_lt
    simp only [urlsafeB64encode, List.mem_cons, List.not_mem_nil, or_false] at h
    rcases h with h | h | h | h
    · exact Or.inl ⟨_, by omega, h⟩
    · exact Or.inl ⟨_, by omega, h⟩
    · exact Or.inl ⟨_, by omega, h⟩
    · exact Or.inr h
  | case4 a b d rest ih =>
    have := a.toNat_lt
    have := b.toNat_lt
    have := d.toNat_lt
    simp only [urlsafeB64encode, List.mem_cons] at h
    rcases h with h | h | h | h | h
    · exact Or.inl ⟨_, by omega, h⟩
    · exact Or.inl ⟨_, by omega, h⟩
    · exact Or.inl ⟨_, by omega, h⟩
    · exact Or.inl ⟨_, by omega, h⟩
    · exact ih h

private theorem base64Char_spec :
    ∀ n < 64, (base64Char n).toNat < 128 ∧ base64Char n ≠ '=' ∧ base64Char n ≠ '.' := by
  decide

/-- Every character of an encoding is ASCII. -/
theorem lt_of_mem_urlsafeB64encode {bytes : List UInt8} {c : Char}
    (h : c ∈ urlsafeB64encode bytes) : c.toNat < 128 := by
  rcases exists_base64Char_of_mem h with ⟨n, hn, rfl⟩ | rfl
  · exact (base64Char_spec n hn).1
  · decide

/-- None of them is a dot. -/
theorem dot_notMem_urlsafeB64encode (bytes : List UInt8) : '.' ∉ urlsafeB64encode bytes := by
  intro h
  rcases exists_base64Char_of_mem h with ⟨n, hn, hdot⟩ | hdot
  · exact (base64Char_spec n hn).2.2 hdot.symm
  · cases hdot

/-- A non-empty encoding starts with a character that is not padding. -/
private theorem exists_head_urlsafeB64encode {bytes : List UInt8} (h : bytes ≠ []) :
    ∃ c cs, urlsafeB64encode bytes = c :: cs ∧ c ≠ '=' := by
  match bytes, h with
  | [a], _ =>
    have := a.toNat_lt
    exact ⟨_, _, rfl, (base64Char_spec _ (by omega)).2.1⟩
  | [a, b], _ =>
    have := a.toNat_lt
    have := b.toNat_lt
    exact ⟨_, _, rfl, (base64Char_spec _ (by omega)).2.1⟩
  | a :: b :: d :: rest, _ =>
    have := a.toNat_lt
    have := b.toNat_lt
    have := d.toNat_lt
    exact ⟨_, _, rfl, (base64Char_spec _ (by omega)).2.1⟩

variable {P : Primitives}

/-- A signature is not the empty string, which the program reads as "no signature". -/
theorem hmacSign_ne_empty (key : List UInt8) (payload : Json) : hmacSign P key payload ≠ "" := by
  obtain ⟨c, cs, heq, hc⟩ := exists_head_urlsafeB64encode
    (P.hmac_ne_nil key (digestJson P payload).toUTF8.toList)
  intro h
  have hnil : rstripPad (urlsafeB64encode
      (P.hmacSha256 key (digestJson P payload).toUTF8.toList)) = [] := by
    have := congrArg String.toList h
    simpa [hmacSign] using this
  rw [rstripPad, List.rdropWhile_eq_nil_iff] at hnil
  have := hnil c (by rw [heq]; exact List.mem_cons_self)
  exact hc (by simpa using this)

/-- Signatures are ASCII, so comparing one does not raise. -/
theorem hmacSign_ascii (key : List UInt8) (payload : Json) :
    (hmacSign P key payload).toList.all fun c ↦ decide (c.toNat < 128) := by
  rw [List.all_eq_true, hmacSign]
  intro c hc
  rw [String.toList_ofList] at hc
  exact decide_eq_true (lt_of_mem_urlsafeB64encode ((List.rdropWhile_prefix _ _).subset hc))

/-- A signature can follow a dot. -/
theorem dot_notMem_hmacSign (key : List UInt8) (payload : Json) :
    '.' ∉ (hmacSign P key payload).toList := by
  rw [hmacSign, String.toList_ofList]
  exact fun h ↦ dot_notMem_urlsafeB64encode _ ((List.rdropWhile_prefix _ _).subset h)

/-- Comparing a signature with another signature is string equality. -/
theorem hmacVerify_hmacSign (key key' : List UInt8) (payload payload' : Json) :
    hmacVerify P key payload (hmacSign P key' payload')
      = .ok (hmacSign P key payload == hmacSign P key' payload') := by
  rw [hmacVerify, compareDigest, hmacSign_ascii, hmacSign_ascii]
  rfl

/-- Comparing a signature with a string succeeds on that signature only. -/
theorem hmacVerify_eq_true_iff {key : List UInt8} {payload : Json} {sig : String} :
    hmacVerify P key payload sig = .ok true ↔ sig = hmacSign P key payload := by
  constructor
  · intro h
    rw [hmacVerify, compareDigest] at h
    split at h
    · have heq : (hmacSign P key payload == sig) = true := Except.ok.inj h
      exact (beq_iff_eq.mp heq).symm
    · cases h
  · rintro rfl
    rw [hmacVerify_hmacSign, beq_self_eq_true]

/-! ## What digests look like -/

/-- A digest is hexadecimal. -/
theorem exists_hexDigit_of_mem {bytes : List UInt8} {c : Char} (h : c ∈ (hexdigest bytes).toList) :
    ∃ n < 16, c = hexDigit n := by
  rw [hexdigest, String.toList_ofList, List.mem_flatMap] at h
  obtain ⟨b, -, hb⟩ := h
  have hlt : b.toNat < 256 := b.toNat_lt
  rcases List.mem_cons.mp hb with h | h
  · exact ⟨b.toNat / 16, by omega, h⟩
  · exact ⟨b.toNat % 16, by omega, List.mem_singleton.mp h⟩

private theorem hexDigit_ne_hyphen : ∀ n < 16, hexDigit n ≠ '-' := by decide

/-- So it is not an identifier in the form of a UUID. -/
theorem hyphen_notMem_digestJson (payload : Json) : '-' ∉ (digestJson P payload).toList := by
  intro h
  obtain ⟨n, hn, hc⟩ := exists_hexDigit_of_mem h
  exact hexDigit_ne_hyphen n hn hc.symm

private theorem hexDigit_ne_bar : ∀ n < 16, hexDigit n ≠ '|' := by decide

theorem bar_notMem_hexdigest (bytes : List UInt8) : '|' ∉ (hexdigest bytes).toList := by
  intro h
  obtain ⟨n, hn, hc⟩ := exists_hexDigit_of_mem h
  exact hexDigit_ne_bar n hn hc.symm

private theorem hexDigit_injective : ∀ m < 16, ∀ n < 16, hexDigit m = hexDigit n → m = n := by
  decide

/-- The hexadecimal form loses nothing. -/
theorem hexdigest_injective : Function.Injective hexdigest := by
  intro a b h
  rw [hexdigest, hexdigest, String.ofList_inj] at h
  induction a generalizing b with
  | nil =>
    cases b with
    | nil => rfl
    | cons y b => cases h
  | cons x a ih =>
    cases b with
    | nil => cases h
    | cons y b =>
      simp only [List.flatMap_cons, List.cons_append, List.nil_append, List.cons.injEq] at h
      obtain ⟨hhigh, hlow, hrest⟩ := h
      have hx : x.toNat < 256 := x.toNat_lt
      have hy : y.toNat < 256 := y.toNat_lt
      have hdiv := hexDigit_injective _ (by omega) _ (by omega) hhigh
      have hmod := hexDigit_injective _ (by omega) _ (by omega) hlow
      have hxy : x.toNat = y.toNat := by omega
      rw [UInt8.toNat_inj.mp hxy, ih hrest]

theorem contentAddressedId_ne_empty (kind : String) (payload : Json) :
    contentAddressedId P kind payload ≠ "" := by
  intro h
  have hnil := congrArg String.toList h
  simp [contentAddressedId] at hnil

/-! ## What envelopes look like -/

/-- The signature an envelope carries. -/
def envelopeSignature (P : Primitives) (prot : List (String × Json)) (payload : Json)
    (key : List UInt8) (kid : String) : String :=
  hmacSign P key (.obj (envelopeBody (protectedHeader prot kid) payload))

theorem coseLikeEnvelope_eq (prot : List (String × Json)) (payload : Json) (key : List UInt8)
    (kid : String) : coseLikeEnvelope P prot payload key kid
      = .obj [("protected", protectedHeader prot kid), ("payload", payload),
          ("signature", .str (envelopeSignature P prot payload key kid))] := by
  simp [coseLikeEnvelope, envelopeBody, Json.setField, envelopeSignature]

/-- **An envelope verifies under the key that made it**, whatever it contains. -/
theorem verifyCoseLike_coseLikeEnvelope (prot : List (String × Json)) (payload : Json)
    (key : List UInt8) (kid : String) :
    verifyCoseLike P (coseLikeEnvelope P prot payload key kid) key = .ok true := by
  rw [coseLikeEnvelope_eq]
  simp [verifyCoseLike, Json.get?, envelopeSignature, hmacVerify_hmacSign]

end Orchestra
