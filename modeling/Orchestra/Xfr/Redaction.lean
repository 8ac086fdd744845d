import Orchestra.Xfr.Projection

/-!
# What a redacted field reveals

A field manifest names, for each field that needs it, what of its value may still be forwarded:
nothing (`drop`), its digest (`hash`, `tokenize`), or the first characters of a text
(`partial-<n>`). The projector takes the first rule for the field that applies to the value. A
`partial-<n>` rule applies to texts longer than `n` alone, and where no rule applies the value is
forwarded as it is: that is harmless for a short text and for nothing else.

The main theorem says which fields reveal no more than every rule that names them permits.
-/

namespace Orchestra

/-! ## The documented rules -/

/-- The documented redactions: `drop`, `hash`, `tokenize` and `partial-<n>`. -/
inductive Redaction
  | drop
  | hash
  | tokenize
  | firstChars (n : ℕ)
  deriving DecidableEq

namespace Redaction

/-- The redaction an `op` stands for. -/
def ofOp (op : String) : Option Redaction :=
  if op = "drop" then some drop
  else if op = "hash" then some hash
  else if op = "tokenize" then some tokenize
  else if op.startsWith "partial-" then
    match pyInt (String.ofList (op.toList.drop 8)) with
    | some n => if 0 ≤ n then some (firstChars n.toNat) else none
    | none => none
  else none

/-- A rule of the documented form: it names a field and one of the redactions. -/
def Documented (rule : List (String × Json)) : Prop :=
  ∃ field op φ, (Json.obj rule).get? "field" = some (.str field) ∧
    (Json.obj rule).get? "op" = some (.str op) ∧ ofOp op = some φ

/-- The redaction of a rule that names the field. -/
def ofRule (key : String) (rule : List (String × Json)) : Option Redaction :=
  if (Json.obj rule).get? "field" = some (.str key) then
    match (Json.obj rule).get? "op" with
    | some (.str op) => ofOp op
    | _ => none
  else none

/-- The redactions of the rules that name the field. -/
def forField (key : String) (rules : List (List (String × Json))) : List Redaction :=
  rules.filterMap (ofRule key)

section

variable (P : Primitives)

/-- The token of a value is made of its digest. -/
def token (value : Json) : String :=
  "<token:" ++ String.ofList ((digestJson P value).toList.take 8) ++ ">"

/-- What a rule permits of the value to be forwarded. To forward nothing is always permitted. -/
def Permits (value out : Json) : Redaction → Prop
  | drop => out = .null
  | hash | tokenize =>
    out = .null ∨ out = .str (digestJson P value) ∨ out = .str (token P value)
  | firstChars n =>
    out = .null ∨ ∃ s, value = .str s ∧ ((s.length ≤ n ∧ out = .str s) ∨
      ∃ m ≤ n, out = .str (FieldProjector.takeChars s m ++ "…"))

/-- The rule has an effect on the value. -/
def applies (value : Json) : Redaction → Bool
  | firstChars n =>
    match value with
    | .str s => decide (n < s.length)
    | _ => false
  | _ => true

/-- What a rule that applies forwards. -/
def redacted (value : Json) : Redaction → Json
  | drop => .null
  | hash => .str (digestJson P value)
  | tokenize => .str (token P value)
  | firstChars n =>
    match value with
    | .str s => .str (FieldProjector.takeChars s n ++ "…")
    | _ => value

/-- What the one rule forwards is within what the other permits. A digest shows more than any part
of a text, unless the text happens to be its own digest. -/
def Within (value : Json) : Redaction → Redaction → Prop
  | drop, _ => True
  | hash, hash | hash, tokenize | tokenize, hash | tokenize, tokenize => True
  | hash, firstChars n => ∃ s, value = .str s ∧ s.length ≤ n ∧ digestJson P value = s
  | tokenize, firstChars n => ∃ s, value = .str s ∧ s.length ≤ n ∧ token P value = s
  | firstChars n, firstChars k => n ≤ k
  | hash, drop | tokenize, drop => False
  | firstChars _, drop | firstChars _, hash | firstChars _, tokenize => False

/-- The first rule that applies to the value is within all the rules for its field; and where there
are rules but none applies, the value is a text or nothing. -/
def FirstIsStrictest (value : Json) (rules : List Redaction) : Prop :=
  match rules.find? (applies value) with
  | some first => ∀ φ ∈ rules, Within P value first φ
  | none => rules = [] ∨ value = .null ∨ ∃ s, value = .str s

end

/-! ## The projector takes the first rule that applies -/

variable {P : Primitives} {value out : Json}

theorem ofOp_eq_firstChars {op : String} {n : ℕ} (h : ofOp op = some (firstChars n)) :
    op ≠ "drop" ∧ op ≠ "hash" ∧ op ≠ "tokenize" ∧ op.startsWith "partial-" = true ∧
      pyInt (String.ofList (op.toList.drop 8)) = some (n : ℤ) := by
  rw [ofOp] at h
  split_ifs at h with hdrop hhash htokenize hstarts
  · exact absurd (Option.some.inj h) (by rintro ⟨⟩)
  · exact absurd (Option.some.inj h) (by rintro ⟨⟩)
  · exact absurd (Option.some.inj h) (by rintro ⟨⟩)
  · split at h
    · next i hi =>
      split_ifs at h with hpos
      obtain rfl : i.toNat = n := by injection Option.some.inj h
      exact ⟨hdrop, hhash, htokenize, hstarts, by rw [hi, Int.toNat_of_nonneg hpos]⟩
    · cases h

theorem op_of_ofOp {op : String} {φ : Redaction} (h : ofOp op = some φ) :
    (φ = drop → op = "drop") ∧ (φ = hash → op = "hash") ∧ (φ = tokenize → op = "tokenize") := by
  rw [ofOp] at h
  split_ifs at h with hdrop hhash htokenize hstarts
  · obtain rfl := Option.some.inj h
    exact ⟨fun _ ↦ hdrop, by rintro ⟨⟩, by rintro ⟨⟩⟩
  · obtain rfl := Option.some.inj h
    exact ⟨by rintro ⟨⟩, fun _ ↦ hhash, by rintro ⟨⟩⟩
  · obtain rfl := Option.some.inj h
    exact ⟨by rintro ⟨⟩, by rintro ⟨⟩, fun _ ↦ htokenize⟩
  · split at h
    · split_ifs at h
      obtain rfl := Option.some.inj h
      exact ⟨by rintro ⟨⟩, by rintro ⟨⟩, by rintro ⟨⟩⟩
    · cases h

/-- A rule for the field acts if it applies to the value, and is passed over if it does not. -/
theorem applyRedactions_cons {key op : String} {rule : List (String × Json)} {φ : Redaction}
    (rules : List (List (String × Json)))
    (hfield : (Json.obj rule).get? "field" = some (.str key))
    (hop : (Json.obj rule).get? "op" = some (.str op)) (hφ : ofOp op = some φ) :
    FieldProjector.applyRedactions P key value (rule :: rules) =
      if applies value φ then redacted P value φ
      else FieldProjector.applyRedactions P key value rules := by
  rw [FieldProjector.applyRedactions, if_neg (not_not.mpr hfield), hop]
  dsimp only
  obtain ⟨hdrop, hhash, htokenize⟩ := op_of_ofOp hφ
  cases φ with
  | drop =>
    rw [if_pos (hdrop rfl)]
    rfl
  | hash =>
    rw [hhash rfl]
    rfl
  | tokenize =>
    rw [htokenize rfl]
    rfl
  | firstChars n =>
    obtain ⟨hdrop, hhash, htokenize, hstarts, hn⟩ := ofOp_eq_firstChars hφ
    rw [if_neg hdrop, if_neg hhash, if_neg htokenize, if_pos hstarts, hn]
    cases value with
    | str s => simp [applies, redacted]
    | _ => rfl

theorem applyRedactions_eq {key : String} {rules : List (List (String × Json))}
    (h : ∀ rule ∈ rules, Documented rule) :
    FieldProjector.applyRedactions P key value rules =
      match (forField key rules).find? (applies value) with
      | some φ => redacted P value φ
      | none => value := by
  induction rules with
  | nil => rfl
  | cons rule rules ih =>
    have hrest := ih fun rule' hmem ↦ h rule' (List.mem_cons_of_mem _ hmem)
    obtain ⟨field, op, φ, hfield, hop, hφ⟩ := h rule List.mem_cons_self
    by_cases hkey : field = key
    · subst hkey
      have hrule : ofRule field rule = some φ := by
        rw [ofRule, if_pos hfield, hop]
        exact hφ
      rw [applyRedactions_cons rules hfield hop hφ, forField, List.filterMap_cons, hrule]
      dsimp only
      rw [List.find?_cons]
      cases happlies : applies value φ with
      | true => rfl
      | false => exact hrest
    · have hne : (Json.obj rule).get? "field" ≠ some (.str key) := by
        rw [hfield]
        rintro ⟨⟩
        exact hkey rfl
      rw [FieldProjector.applyRedactions, if_pos hne, forField, List.filterMap_cons, ofRule,
        if_neg hne]
      exact hrest

/-! ## What is forwarded, and what is permitted -/

private theorem hexDigit_ne_ellipsis : ∀ n < 16, hexDigit n ≠ '…' := by decide

private theorem ellipsis_notMem_digestJson (payload : Json) :
    '…' ∉ (digestJson P payload).toList := by
  intro h
  obtain ⟨n, hn, hc⟩ := exists_hexDigit_of_mem h
  exact hexDigit_ne_ellipsis n hn hc.symm

private theorem ellipsis_notMem_token (payload : Json) : '…' ∉ (token P payload).toList := by
  have hopen : '…' ∉ "<token:".toList := by simp
  have hclose : '…' ∉ ">".toList := by simp
  have hdigits : (String.ofList ((digestJson P payload).toList.take 8)).toList =
      (digestJson P payload).toList.take 8 := String.toList_ofList
  rw [token, String.toList_append, String.toList_append, hdigits, List.mem_append, List.mem_append]
  rintro ((h | h) | h)
  · exact hopen h
  · exact ellipsis_notMem_digestJson payload (List.mem_of_mem_take h)
  · exact hclose h

private theorem ellipsis_mem (s : String) : '…' ∈ (s ++ "…").toList := by
  rw [String.toList_append]
  exact List.mem_append_right _ (by decide)

private theorem length_takeChars (s : String) (n : ℕ) :
    (FieldProjector.takeChars s n ++ "…").length = min n s.length + 1 := by
  have htake : (FieldProjector.takeChars s n).length = min n s.length := by
    rw [FieldProjector.takeChars, if_pos (Int.natCast_nonneg n), Int.toNat_natCast,
      String.length_ofList, List.length_take, String.length_toList]
  rw [String.length_append, htake]
  rfl

/-- A rule permits what it forwards itself. -/
theorem permits_redacted {φ : Redaction} (h : applies value φ = true) :
    φ.Permits P value (redacted P value φ) := by
  cases φ with
  | drop => rfl
  | hash => exact Or.inr (Or.inl rfl)
  | tokenize => exact Or.inr (Or.inr rfl)
  | firstChars n =>
    cases value with
    | str s => exact Or.inr ⟨s, rfl, Or.inr ⟨n, le_refl n, rfl⟩⟩
    | _ => cases h

/-- A `partial-<n>` rule permits a text without an ellipsis only where the value is that text. -/
theorem permits_text_iff {n : ℕ} {text : String} (h : '…' ∉ text.toList) :
    (firstChars n).Permits P value (.str text) ↔
      ∃ s, value = .str s ∧ s.length ≤ n ∧ text = s := by
  constructor
  · rintro (⟨⟨⟩⟩ | ⟨s, hs, ⟨hle, hout⟩ | ⟨m, -, hout⟩⟩)
    · injection hout with hout
      exact ⟨s, hs, hle, hout⟩
    · injection hout with hout
      exact absurd (hout ▸ ellipsis_mem _) h
  · rintro ⟨s, hs, hle, hout⟩
    exact Or.inr ⟨s, hs, Or.inl ⟨hle, congrArg Json.str hout⟩⟩

/-- The first characters of a longer text are permitted by the rules that allow as many. -/
theorem permits_takeChars_iff {s : String} {n k : ℕ} (hlong : n < s.length) :
    (firstChars k).Permits P (.str s) (.str (FieldProjector.takeChars s n ++ "…")) ↔ n ≤ k := by
  constructor
  · rintro (⟨⟨⟩⟩ | ⟨s', hs, ⟨hle, -⟩ | ⟨m, hm, hout⟩⟩)
    · obtain rfl : s = s' := by injection hs
      exact hlong.le.trans hle
    · obtain rfl : s = s' := by injection hs
      have hlen : (FieldProjector.takeChars s n ++ "…").length =
          (FieldProjector.takeChars s m ++ "…").length := by
        injection hout with hout
        rw [hout]
      rw [length_takeChars, length_takeChars] at hlen
      have hnm : n ≤ m := by omega
      exact hnm.trans hm
  · intro hnk
    exact Or.inr ⟨s, rfl, Or.inr ⟨n, hnk, rfl⟩⟩

/-- A digest and a token have no ellipsis, so part of a text is neither. -/
theorem takeChars_ne_digest (s : String) (n : ℕ) :
    ¬(Json.str (FieldProjector.takeChars s n ++ "…") = .null ∨
      Json.str (FieldProjector.takeChars s n ++ "…") = .str (digestJson P value) ∨
      Json.str (FieldProjector.takeChars s n ++ "…") = .str (token P value)) := by
  rintro (⟨⟨⟩⟩ | hout | hout)
  · injection hout with hout
    exact ellipsis_notMem_digestJson value (hout ▸ ellipsis_mem _)
  · injection hout with hout
    exact ellipsis_notMem_token value (hout ▸ ellipsis_mem _)

/-- **One rule against another.** What a rule that applies forwards is permitted by another one
exactly if it is within it. -/
theorem permits_redacted_iff {first φ : Redaction} (h : applies value first = true) :
    φ.Permits P value (redacted P value first) ↔ Within P value first φ := by
  cases first with
  | drop =>
    cases φ with
    | drop => exact iff_of_true rfl trivial
    | _ => exact iff_of_true (Or.inl rfl) trivial
  | hash =>
    cases φ with
    | drop => exact iff_of_false (by rintro ⟨⟩) id
    | hash => exact iff_of_true (permits_redacted h) trivial
    | tokenize => exact iff_of_true (Or.inr (Or.inl rfl)) trivial
    | firstChars n => exact permits_text_iff (ellipsis_notMem_digestJson value)
  | tokenize =>
    cases φ with
    | drop => exact iff_of_false (by rintro ⟨⟩) id
    | hash => exact iff_of_true (Or.inr (Or.inr rfl)) trivial
    | tokenize => exact iff_of_true (permits_redacted h) trivial
    | firstChars n => exact permits_text_iff (ellipsis_notMem_token value)
  | firstChars n =>
    obtain ⟨s, rfl⟩ : ∃ s, value = .str s := by
      cases value with
      | str s => exact ⟨s, rfl⟩
      | _ => cases h
    cases φ with
    | drop => exact iff_of_false (by rintro ⟨⟩) id
    | hash => exact iff_of_false (takeChars_ne_digest s n) id
    | tokenize => exact iff_of_false (takeChars_ne_digest s n) id
    | firstChars k => exact permits_takeChars_iff (of_decide_eq_true h)

/-- Where no rule for the field applies, they are all `partial-<n>`, of texts that are short. -/
theorem permits_of_not_applies {φ : Redaction} (h : applies value φ = false) :
    φ.Permits P value value ↔ value = .null ∨ ∃ s, value = .str s := by
  cases φ with
  | firstChars n =>
    constructor
    · rintro (hnull | ⟨s, hs, -⟩)
      · exact Or.inl hnull
      · exact Or.inr ⟨s, hs⟩
    · rintro (hnull | ⟨s, rfl⟩)
      · exact Or.inl hnull
      · exact Or.inr ⟨s, rfl, Or.inl ⟨not_lt.mp (of_decide_eq_false h), rfl⟩⟩
  | _ => cases h

theorem forall_permits_iff {key : String} {rules : List (List (String × Json))}
    (h : ∀ rule ∈ rules, Documented rule) :
    (∀ φ ∈ forField key rules,
      φ.Permits P value (FieldProjector.applyRedactions P key value rules)) ↔
      FirstIsStrictest P value (forField key rules) := by
  rw [applyRedactions_eq h, FirstIsStrictest]
  cases hfirst : (forField key rules).find? (applies value) with
  | some first =>
    have happlies := List.find?_some hfirst
    exact forall₂_congr fun φ _ ↦ permits_redacted_iff happlies
  | none =>
    rw [List.find?_eq_none] at hfirst
    constructor
    · intro hall
      rcases List.eq_nil_or_concat (forField key rules) with hnil | ⟨l, φ, hconcat⟩
      · exact Or.inl hnil
      · have hφ : φ ∈ forField key rules := by
          rw [hconcat, List.concat_eq_append]
          exact List.mem_concat_self
        have hno : applies value φ = false := by simpa using hfirst φ hφ
        exact Or.inr ((permits_of_not_applies hno).mp (hall φ hφ))
    · rintro (hnil | htext) φ hφ
      · rw [hnil] at hφ
        cases hφ
      · have hno : applies value φ = false := by simpa using hfirst φ hφ
        exact (permits_of_not_applies hno).mpr htext

/-! ## The projected value of a field -/

/-- A projected field has the redacted value of the payload's field. -/
theorem get?_projected {m : FieldManifest} {payload : List (String × Json)} {r : ProjectionResult}
    (hkeys : (payload.map Prod.fst).Nodup) (h : FieldProjector.project P m payload = .ok r)
    {key : String} (hv : (Json.obj payload).get? key = some value) (hk : key ∈ m.allowedFields) :
    (Json.obj r.projected).get? key =
      some (FieldProjector.applyRedactions P key value m.redactionRules) := by
  have hkept := FieldProjector.get_keptFields (P := P) (m := m) payload key
  have hget : Dictionary.get payload key = some value := hv
  rw [if_pos hk, hget, Option.map_some] at hkept
  rw [FieldProjector.projected_of_project h, FieldProjector.projectFields_eq_sort]
  have hperm := Dictionary.get_of_perm (FieldProjector.nodup_keptFields (P := P) (m := m) hkeys)
    (Dictionary.sort_perm _).symm key
  exact hperm.symm.trans hkept

/-- The first character of a phone number may leave the tenant. -/
def phoneManifest : FieldManifest where
  manifestId := "fldman:2"
  name := "contacts"
  sourceView := "view:contacts"
  allowedFields := ["phone"]
  redactionRules := [[("field", .str "phone"), ("op", .str "partial-1")]]

theorem forField_phoneManifest :
    forField "phone" phoneManifest.redactionRules = [firstChars 1] := by
  decide +kernel

theorem documented_phoneManifest : ∀ rule ∈ phoneManifest.redactionRules, Documented rule := by
  intro rule hrule
  obtain rfl := List.mem_singleton.mp hrule
  exact ⟨"phone", "partial-1", firstChars 1, rfl, rfl, by decide +kernel⟩

end Redaction

end Orchestra
