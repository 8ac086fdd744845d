import Mathlib.Algebra.GroupWithZero.Nat
import Orchestra.Core.Hashing
import Orchestra.Core.JsonOrder

/-!
# What a signature determines

A signature is the unpadded base64url of an HMAC over the hexadecimal digest of a canonical
rendering. The encodings on that way lose nothing, so two signatures are equal exactly when the tags
are (`hmacSign_eq_iff`), and two payloads have the same bytes exactly when they have the same
rendering. A dictionary with one more item has a longer rendering (`length_render_obj_lt`), whatever
its other items are.
-/

namespace Orchestra

/-! ## base64url without padding -/

/-- The encoding with its padding left out. -/
def encodeUnpadded : List UInt8 → List Char
  | [] => []
  | [a] =>
    let n := a.toNat * 16
    [base64Char (n / 64), base64Char (n % 64)]
  | [a, b] =>
    let n := (a.toNat * 256 + b.toNat) * 4
    [base64Char (n / 4096), base64Char (n / 64 % 64), base64Char (n % 64)]
  | a :: b :: c :: rest =>
    let n := (a.toNat * 256 + b.toNat) * 256 + c.toNat
    base64Char (n / 262144) :: base64Char (n / 4096 % 64) :: base64Char (n / 64 % 64) ::
      base64Char (n % 64) :: encodeUnpadded rest

private theorem base64Char_ne_pad : ∀ n < 64, base64Char n ≠ '=' := by decide

private theorem base64Char_inj : ∀ m < 64, ∀ n < 64, base64Char m = base64Char n → m = n := by
  decide

/-- No character of an unpadded encoding is padding. -/
theorem pad_notMem_encodeUnpadded (bytes : List UInt8) : '=' ∉ encodeUnpadded bytes := by
  induction bytes using encodeUnpadded.induct with
  | case1 => exact List.not_mem_nil
  | case2 a =>
    have ha : a.toNat < 256 := a.toNat_lt
    simp only [encodeUnpadded, List.mem_cons, List.not_mem_nil, or_false, not_or]
    exact ⟨(base64Char_ne_pad _ (by omega)).symm, (base64Char_ne_pad _ (by omega)).symm⟩
  | case3 a b =>
    have ha : a.toNat < 256 := a.toNat_lt
    have hb : b.toNat < 256 := b.toNat_lt
    simp only [encodeUnpadded, List.mem_cons, List.not_mem_nil, or_false, not_or]
    exact ⟨(base64Char_ne_pad _ (by omega)).symm, (base64Char_ne_pad _ (by omega)).symm,
      (base64Char_ne_pad _ (by omega)).symm⟩
  | case4 a b c rest ih =>
    have ha : a.toNat < 256 := a.toNat_lt
    have hb : b.toNat < 256 := b.toNat_lt
    have hc : c.toNat < 256 := c.toNat_lt
    simp only [encodeUnpadded, List.mem_cons, not_or]
    exact ⟨(base64Char_ne_pad _ (by omega)).symm, (base64Char_ne_pad _ (by omega)).symm,
      (base64Char_ne_pad _ (by omega)).symm, (base64Char_ne_pad _ (by omega)).symm, ih⟩

theorem exists_padding (bytes : List UInt8) :
    ∃ k, urlsafeB64encode bytes = encodeUnpadded bytes ++ List.replicate k '=' := by
  induction bytes using encodeUnpadded.induct with
  | case1 => exact ⟨0, rfl⟩
  | case2 a => exact ⟨2, rfl⟩
  | case3 a b => exact ⟨1, rfl⟩
  | case4 a b c rest ih =>
    obtain ⟨k, hk⟩ := ih
    refine ⟨k, ?_⟩
    rw [urlsafeB64encode, hk, encodeUnpadded]
    rfl

/-- Stripping the padding leaves the unpadded encoding. -/
theorem rstripPad_urlsafeB64encode (bytes : List UInt8) :
    rstripPad (urlsafeB64encode bytes) = encodeUnpadded bytes := by
  obtain ⟨k, hk⟩ := exists_padding bytes
  rw [hk]
  clear hk
  induction k with
  | zero =>
    rw [List.replicate_zero, List.append_nil, rstripPad, List.rdropWhile_eq_self_iff]
    intro hne hlast
    exact pad_notMem_encodeUnpadded bytes (beq_iff_eq.mp hlast ▸ List.getLast_mem hne)
  | succ k ih =>
    rw [List.replicate_succ', ← List.append_assoc, rstripPad,
      List.rdropWhile_concat_pos (fun c ↦ c == '=') _ '=' rfl]
    exact ih

/-- The unpadded encoding loses nothing. -/
theorem encodeUnpadded_injective : Function.Injective encodeUnpadded := by
  intro bytes bytes' h
  induction bytes using encodeUnpadded.induct generalizing bytes' with
  | case1 =>
    rcases bytes' with _ | ⟨a', _ | ⟨b', _ | ⟨c', rest'⟩⟩⟩
    · rfl
    all_goals exact absurd (congrArg List.length h) (by simp [encodeUnpadded])
  | case2 a =>
    rcases bytes' with _ | ⟨a', _ | ⟨b', _ | ⟨c', rest'⟩⟩⟩
    case cons.nil =>
      have ha : a.toNat < 256 := a.toNat_lt
      have ha' : a'.toNat < 256 := a'.toNat_lt
      simp only [encodeUnpadded, List.cons.injEq, and_true] at h
      have h1 := base64Char_inj _ (by omega) _ (by omega) h.1
      have h2 := base64Char_inj _ (by omega) _ (by omega) h.2
      have heq : a.toNat = a'.toNat := by omega
      rw [UInt8.toNat_inj.mp heq]
    all_goals exact absurd (congrArg List.length h) (by simp [encodeUnpadded])
  | case3 a b =>
    rcases bytes' with _ | ⟨a', _ | ⟨b', _ | ⟨c', rest'⟩⟩⟩
    case cons.cons.nil =>
      have ha : a.toNat < 256 := a.toNat_lt
      have hb : b.toNat < 256 := b.toNat_lt
      have ha' : a'.toNat < 256 := a'.toNat_lt
      have hb' : b'.toNat < 256 := b'.toNat_lt
      simp only [encodeUnpadded, List.cons.injEq, and_true] at h
      have h1 := base64Char_inj _ (by omega) _ (by omega) h.1
      have h2 := base64Char_inj _ (by omega) _ (by omega) h.2.1
      have h3 := base64Char_inj _ (by omega) _ (by omega) h.2.2
      have hab : a.toNat = a'.toNat ∧ b.toNat = b'.toNat := by omega
      rw [UInt8.toNat_inj.mp hab.1, UInt8.toNat_inj.mp hab.2]
    all_goals exact absurd (congrArg List.length h) (by simp [encodeUnpadded])
  | case4 a b c rest ih =>
    rcases bytes' with _ | ⟨a', _ | ⟨b', _ | ⟨c', rest'⟩⟩⟩
    case cons.cons.cons =>
      have ha : a.toNat < 256 := a.toNat_lt
      have hb : b.toNat < 256 := b.toNat_lt
      have hc : c.toNat < 256 := c.toNat_lt
      have ha' : a'.toNat < 256 := a'.toNat_lt
      have hb' : b'.toNat < 256 := b'.toNat_lt
      have hc' : c'.toNat < 256 := c'.toNat_lt
      simp only [encodeUnpadded, List.cons.injEq] at h
      have h1 := base64Char_inj _ (by omega) _ (by omega) h.1
      have h2 := base64Char_inj _ (by omega) _ (by omega) h.2.1
      have h3 := base64Char_inj _ (by omega) _ (by omega) h.2.2.1
      have h4 := base64Char_inj _ (by omega) _ (by omega) h.2.2.2.1
      have habc : a.toNat = a'.toNat ∧ b.toNat = b'.toNat ∧ c.toNat = c'.toNat := by omega
      rw [UInt8.toNat_inj.mp habc.1, UInt8.toNat_inj.mp habc.2.1, UInt8.toNat_inj.mp habc.2.2,
        ih h.2.2.2.2]
    all_goals exact absurd (congrArg List.length h) (by simp [encodeUnpadded])

/-! ## Signatures -/

section Signatures

variable {P : Primitives}

/-- What is authenticated for a text of bytes: its digest, as ASCII. -/
def signedBytes (P : Primitives) (bytes : List UInt8) : List UInt8 :=
  (digestBytes P bytes).toUTF8.toList

/-- **Two signatures are equal exactly when the tags are.** -/
theorem hmacSign_eq_iff {key key' : List UInt8} {payload payload' : Json} :
    hmacSign P key payload = hmacSign P key' payload' ↔
      P.hmacSha256 key (signedBytes P payload.canonicalJson) =
        P.hmacSha256 key' (signedBytes P payload'.canonicalJson) := by
  rw [hmacSign, hmacSign, String.ofList_inj, rstripPad_urlsafeB64encode,
    rstripPad_urlsafeB64encode, encodeUnpadded_injective.eq_iff]
  rfl

/-- The platform authenticates two different texts alike: a collision of SHA-256 or of HMAC. -/
def Primitives.Collides (P : Primitives) (key bytes bytes' : List UInt8) : Prop :=
  bytes ≠ bytes' ∧
    P.hmacSha256 key (signedBytes P bytes) = P.hmacSha256 key (signedBytes P bytes')

end Signatures

/-! ## Renderings -/

namespace Json

/-- The loop of `ByteArray.toList` collects the bytes it has passed in reverse. -/
theorem toListLoop_eq (bytes : ByteArray) (i : ℕ) (r : List UInt8) :
    ByteArray.toList.loop bytes i r = r.reverse ++ bytes.data.toList.drop i := by
  fun_induction ByteArray.toList.loop bytes i r with
  | case1 i r h ih =>
    have hi : i < bytes.data.toList.length := h
    rw [ih, List.reverse_cons, List.append_assoc, List.singleton_append,
      List.drop_eq_getElem_cons hi]
    rw [Array.getElem_toList]
    exact congrArg (r.reverse ++ · :: _) (getElem!_pos bytes.data i hi)
  | case2 i r h =>
    have hi : bytes.data.toList.length ≤ i := Nat.le_of_not_lt h
    rw [List.drop_eq_nil_of_le hi, List.append_nil]

theorem toList_eq_data (bytes : ByteArray) : bytes.toList = bytes.data.toList := by
  rw [ByteArray.toList, toListLoop_eq]
  rfl

theorem canonicalJson_eq_iff {v w : Json} :
    v.canonicalJson = w.canonicalJson ↔ v.render = w.render := by
  refine ⟨fun h ↦ ?_, fun h ↦ by rw [canonicalJson, canonicalJson, h]⟩
  rw [canonicalJson, canonicalJson, toList_eq_data, toList_eq_data, Array.toList_inj] at h
  exact String.ofList_inj.mp (String.toByteArray_inj.mp (ByteArray.ext h))

theorem length_joinComma (items : List (List Char)) :
    (joinComma items).length = (items.map List.length).sum + (items.length - 1) := by
  induction items using joinComma.induct with
  | case1 => rfl
  | case2 item => simp [joinComma]
  | case3 item items hne ih =>
    have hpos : 0 < items.length := List.length_pos_of_ne_nil fun h ↦ hne h
    rw [joinComma, List.length_append, List.length_cons, ih, List.map_cons, List.sum_cons,
      List.length_cons]
    · omega
    · exact hne

/-- The length of a dictionary's rendering does not depend on the order of its items. -/
theorem length_render_obj (fields : List (String × Json)) : (render (.obj fields)).length =
    (fields.map fun f ↦ (renderString f.1 ++ ':' :: render f.2).length).sum +
      (fields.length - 1) + 2 := by
  have hperm := Dictionary.sort_perm (fields.map fun f ↦ (f.1, render f.2))
  rw [render_obj, List.cons_append, List.length_cons, List.length_append, length_joinComma,
    List.map_map, List.length_map, hperm.length_eq, List.length_map, (hperm.map _).sum_nat,
    List.map_map]
  rfl

/-- **One more item makes a dictionary's rendering longer.** -/
theorem length_render_obj_lt (fields : List (String × Json)) (f : String × Json) :
    (render (.obj fields)).length < (render (.obj (fields ++ [f]))).length := by
  rw [length_render_obj, length_render_obj, List.map_append, List.sum_append, List.length_append]
  simp only [List.map_cons, List.map_nil, List.sum_cons, List.sum_nil, List.length_append,
    List.length_cons, List.length_nil]
  omega

end Json

end Orchestra
