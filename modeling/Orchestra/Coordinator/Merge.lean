import Orchestra.Core.Exceptions
import Orchestra.Core.Float

/-!
# The deterministic merge

The node `merge` is a function of the facts and of the research result. Both come from adapters, so
nothing is known of their types, and a value of the wrong type raises where it is used.
-/

namespace Orchestra

namespace Merge

variable (F : FloatModel)

/-- `ch.isdigit() or ch == "."`. -/
def isAmountText (item : Json) : Except Raised Bool :=
  match item with
  | .str s => .ok ((!s.isEmpty && s.toList.all Char.isDigit) || s == ".")
  | _ => .error (.attributeError item "isdigit")

/-- The digits and points of the items, joined. -/
def amountDigits : List Json → Except Raised String
  | [] => .ok ""
  | item :: items => do
    let keep ← isAmountText item
    let rest ← amountDigits items
    return if keep then item.pyStr ++ rest else rest

/-- `float(digits)` for digits and points, or `none` for a `ValueError`. -/
def parseDecimal (digits : String) : Option ℚ :=
  match digits.toList.splitOn '.' with
  | [whole] => if whole = [] then none else some (F.round (digitsValue whole))
  | [whole, fraction] =>
    if whole = [] ∧ fraction = [] then none
    else some (F.round (digitsValue (whole ++ fraction) / (10 : ℚ) ^ fraction.length))
  | _ => none

/-- The risk flag of the contract amount. -/
def amountFlags (amount : Json) : Except Raised (List String) := do
  if amount.truthy then
    let digits ← amountDigits (← amount.iterate)
    let val := (parseDecimal F digits).getD 0
    let tenThousands ← amount.containsText "万"
    if tenThousands && decide (1000 ≤ val) then
      return ["high-value-contract"]
    else
      let millions ← amount.containsText "百万"
      if millions then
        return ["very-high-value-contract"]
      else
        match amount with
        | .str s =>
          return if decide ("billion".toList <:+: s.toLower.toList) then ["very-high-value-contract"]
            else []
        | _ => .error (.attributeError amount "lower")
  else
    return []

/-- The risk flags of the regulatory actions, one for each severe action. -/
def actionFlags : List Json → Except Raised (List String)
  | [] => .ok []
  | action :: actions => do
    let severity ← action.getD "severity" (.str "low")
    let rest ← actionFlags actions
    return if severity = .str "medium" ∨ severity = .str "high" then
      ("regulatory-action-" ++ severity.pyStr) :: rest else rest

/-- The public summary: the one the research has, or one made from the artefact of the reference
agent. -/
def publicSummary (facts research : Json) : Except Raised Json := do
  let summary ← research.getD "public_summary" (.obj [])
  let lifted ← research.containsText "a2a_artefact"
  if !summary.truthy && lifted then
    let artefact ← research.getD "a2a_artefact" (.obj [])
    let vendorId ← facts.getD "vendor_id" (.str "unknown")
    let industry ← artefact.getD "industry" .null
    let vendorName ← if industry.truthy then pure industry
      else facts.getD "vendor_name" (.str "unknown")
    let jurisdiction ← facts.getD "jurisdiction" (.str "unknown")
    return .obj [("vendor_id", vendorId), ("vendor_name", vendorName),
      ("jurisdiction", jurisdiction), ("regulatory_actions", .arr []),
      ("source", .str "in-repo A2A Reference Agent")]
  else
    return summary

/-- The flags of the regulatory actions a summary lists, if it is a dictionary. -/
def summaryFlags (summary : Json) : Except Raised (List String) :=
  match summary with
  | .obj _ => do actionFlags (← (← summary.getD "regulatory_actions" (.arr [])).iterate)
  | _ => .ok []

/-- `_deterministic_merge`. -/
def deterministicMerge (inputs : List (String × Json)) : Except Raised (List (String × Json)) := do
  let facts := ((Json.obj inputs).get? "facts").getD (.obj [])
  let research := (((Json.obj inputs).get? "research").getD (.obj [])).orElse (.obj [])
  let summary ← publicSummary facts research
  let industryContext := (← research.getD "industry_context" (.obj [])).orElse
    (← research.getD "a2a_artefact" (.obj []))
  let amount ← facts.getD "contract_amount" (.str "")
  let riskFlags := (← amountFlags F amount) ++ (← summaryFlags summary)
  let vendorId ← facts.getD "vendor_id" (.str "unknown")
  let summaryName ← summary.getD "vendor_name" (.str "unknown")
  let vendorName ← facts.getD "vendor_name" summaryName
  let shownName ← facts.getD "vendor_name" (.str "?")
  let jurisdiction ← summary.getD "jurisdiction" (.str "?")
  return [("vendor_id", vendorId), ("vendor_name", vendorName), ("facts", facts),
    ("public_summary", summary), ("industry_context", industryContext),
    ("risk_flags", .arr (riskFlags.map .str)),
    ("summary", .str ("Vendor " ++ shownName.pyStr ++ " in " ++ jurisdiction.pyStr ++
      "; contract value: " ++ (amount.orElse (.str "unknown")).pyStr ++ "; risk flags: " ++
      (if riskFlags = [] then "none" else ", ".intercalate riskFlags) ++ "."))]

end Merge

end Orchestra
