import Orchestra.Core.Exceptions
import Orchestra.Core.Schema

/-!
# The egress enforcement point

A field manifest says which fields of a payload may leave the tenant and how each of them is
redacted. The projector keeps the allowed fields, redacts them in the order of the rules, and sorts
them; the enforcement point looks the manifest up and refuses the call when there is none or when
the projection is larger than the manifest's budget.
-/

namespace Orchestra

/-! ## The projector -/

structure ProjectionResult where
  projected : List (String × Json)
  droppedFields : List String
  projectedBytes : ℕ
  digest : String
  deriving DecidableEq

namespace FieldProjector

variable (P : Primitives)

/-- `value[:n]`. -/
def takeChars (value : String) (n : ℤ) : String :=
  String.ofList (value.toList.take (if 0 ≤ n then n else value.length + n).toNat)

/-- `_apply_redactions`: the first rule for the field that has an effect. -/
def applyRedactions (key : String) (value : Json) : List (List (String × Json)) → Json
  | [] => value
  | rule :: rules =>
    if (Json.obj rule).get? "field" ≠ some (.str key) then applyRedactions key value rules
    else
      match (Json.obj rule).get? "op" with
      | some (.str op) =>
        if op = "drop" then .null
        else if op = "hash" then .str (digestJson P value)
        else if op = "tokenize" then
          .str ("<token:" ++ String.ofList ((digestJson P value).toList.take 8) ++ ">")
        else if op.startsWith "partial-" then
          match pyInt (String.ofList (op.toList.drop 8)), value with
          | some n, .str s =>
            if n < s.length then .str (takeChars s n ++ "…") else applyRedactions key value rules
          | _, _ => applyRedactions key value rules
        else applyRedactions key value rules
      | _ => applyRedactions key value rules

/-- The allowed fields of a payload, redacted, in the order of their names. -/
def projectFields (m : FieldManifest) (payload : List (String × Json)) : List (String × Json) :=
  ((payload.filter fun f ↦ decide (f.1 ∈ m.allowedFields)).map fun f ↦
    (f.1, applyRedactions P f.1 f.2 m.redactionRules)).insertionSort fun f g ↦ f.1 ≤ g.1

/-- `project`. -/
def project (m : FieldManifest) (payload : List (String × Json)) :
    Except Raised ProjectionResult :=
  let ordered := projectFields P m payload
  let dropped := (payload.filter fun f ↦ decide (f.1 ∉ m.allowedFields)).map Prod.fst
  let bytes := (Json.obj ordered).canonicalJson.length
  match m.byteBudget with
  | some budget =>
    if budget < bytes then
      .error ⟨"EgressBudgetExceeded",
        "projected payload " ++ toString bytes ++ " > byte_budget " ++ toString budget⟩
    else .ok ⟨ordered, dropped.insertionSort (· ≤ ·), bytes, digestJson P (.obj ordered)⟩
  | none => .ok ⟨ordered, dropped.insertionSort (· ≤ ·), bytes, digestJson P (.obj ordered)⟩

end FieldProjector

/-! ## The enforcement point -/

/-- The lookup of field manifests by capability and view. -/
structure EgressPEP where
  lookup : (capabilityId viewName : String) → Except Raised (Option FieldManifest)

namespace EgressPEP

variable (P : Primitives) (pep : EgressPEP)

def egressDenied (text : String) : Raised := ⟨"EgressDenied", text⟩

/-- `project`: the projected payload and the manifest. -/
def project (capabilityId viewName : String) (payload : List (String × Json)) :
    Except Raised (List (String × Json) × FieldManifest) := do
  let some m ← pep.lookup capabilityId viewName
    | .error (egressDenied
        ("no FieldManifest for capability " ++ capabilityId ++ " view " ++ viewName))
  match FieldProjector.project P m payload with
  | .ok result => .ok (result.projected, m)
  | .error e => .error (egressDenied e.text)

end EgressPEP

/-! ## What a projection contains -/

section

variable {P : Primitives} {m : FieldManifest} {payload : List (String × Json)}

theorem FieldProjector.projected_of_project {r : ProjectionResult}
    (h : FieldProjector.project P m payload = .ok r) :
    r.projected = FieldProjector.projectFields P m payload := by
  rw [FieldProjector.project] at h
  cases hbudget : m.byteBudget with
  | none =>
    simp only [hbudget] at h
    rw [← Except.ok.inj h]
  | some budget =>
    simp only [hbudget] at h
    split at h
    · cases h
    · rw [← Except.ok.inj h]

/-- A projection has allowed fields only. -/
theorem FieldProjector.mem_allowedFields {k : String} {v : Json}
    (h : (k, v) ∈ FieldProjector.projectFields P m payload) : k ∈ m.allowedFields := by
  rw [FieldProjector.projectFields, List.mem_insertionSort, List.mem_map] at h
  obtain ⟨f, hf, heq⟩ := h
  obtain ⟨rfl, -⟩ := Prod.mk.inj heq
  rw [List.mem_filter] at hf
  exact of_decide_eq_true hf.2

/-- What the enforcement point lets through is the result of the projector for the manifest it
looked up. -/
theorem EgressPEP.projector_of_project {pep : EgressPEP} {capabilityId viewName : String}
    {projected : List (String × Json)}
    (h : pep.project P capabilityId viewName payload = .ok (projected, m)) :
    pep.lookup capabilityId viewName = .ok (some m) ∧
      ∃ r, FieldProjector.project P m payload = .ok r ∧ projected = r.projected := by
  rw [EgressPEP.project, bind_eq_ok_iff] at h
  obtain ⟨found, hlookup, hfound⟩ := h
  cases found with
  | none => cases hfound
  | some m' =>
    dsimp only at hfound
    split at hfound
    · next r hproj =>
      obtain ⟨hprojected, rfl⟩ := Prod.mk.inj (Except.ok.inj hfound)
      exact ⟨hlookup, r, hproj, hprojected.symm⟩
    · cases hfound

/-- So it is the projection by that manifest. -/
theorem EgressPEP.project_eq_ok {pep : EgressPEP} {capabilityId viewName : String}
    {projected : List (String × Json)}
    (h : pep.project P capabilityId viewName payload = .ok (projected, m)) :
    pep.lookup capabilityId viewName = .ok (some m) ∧
      projected = FieldProjector.projectFields P m payload := by
  obtain ⟨hlookup, r, hproj, rfl⟩ := EgressPEP.projector_of_project h
  exact ⟨hlookup, FieldProjector.projected_of_project hproj⟩

end

end Orchestra
