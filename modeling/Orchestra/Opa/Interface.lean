import Orchestra.Core.Float
import Orchestra.Registry.Policy

/-!
# The policy server

A decision can be asked of a policy server over HTTP. The client raises `OPAUnavailable` for a
transport error, for a status other than 200 and for a body of the wrong shape. From a body of the
right shape it takes the truth value of `allow`, and the interpreter finds most values true. So the
client fails closed exactly when the answer does not hold one of these instead of a Boolean
(`failsClosed_decide_iff`).
-/

namespace Orchestra

namespace Opa

/-- `OpaConfig`. The timeout and the key are not read by `decide`. -/
structure OpaConfig where
  baseUrl : String := "http://127.0.0.1:8181"
  package : String := "orchestra"

/-- What the request comes to: an `httpx.HTTPError`, or a response with its status, its text and
what parsing the text as JSON gives. -/
inductive OpaOutcome where
  | httpError (text : String)
  | response (status : ℕ) (text : String) (json : Except Raised Json)

def opaUnavailable (text : String) : Raised := ⟨"OPAUnavailable", text⟩

namespace OpaHttpClient

/-- The address of the rule. -/
def url (config : OpaConfig) : String :=
  config.baseUrl ++ "/v1/data/" ++ config.package ++ "/allow"

/-- The input of the rule. -/
def payload (F : FloatModel) (request : PolicyRequest) : Json :=
  .obj [("input", .obj [
    ("node_id", .str request.node.nodeId),
    ("node_requires_approval", .bool request.node.requiresApproval),
    ("node_eligible_kinds", .arr (request.node.eligibleCapabilityKinds.map fun k ↦ .str k.value)),
    ("node_effects", .arr (request.node.declaredEffects.map Effect.modelDump)),
    ("capability_id", .str request.capability.capabilityId),
    ("capability_kind", .str request.capability.kind.value),
    ("capability_effects", .arr (request.capability.declaredEffects.map Effect.modelDump)),
    ("data_classification", .str request.dataLabel.classification.value),
    ("data_residency", .str request.dataLabel.residency),
    ("purpose_code", .str request.purposeCode),
    ("region", .str request.region),
    ("budget_remaining_usd", .float (F.repr request.budgetRemainingUsd))])]

/-- `str(data.get(key, ""))`. -/
def textField (data : Json) (key : String) : String := ((data.get? key).getD (.str "")).pyStr

/-- The decision that a document holds. -/
def readDecision (data : Json) : Except Raised PolicyDecision :=
  match data, data.get? "allow" with
  | .obj _, some allow =>
    .ok ⟨allow.truthy, textField data "reason", textField data "invariant",
      textField data "rule_id"⟩
  | _, _ => .error (opaUnavailable ("OPA response shape invalid: " ++ data.pyStr))

/-- `decide`, where `post` sends a payload to an address. -/
def decide (config : OpaConfig) (F : FloatModel) (post : String → Json → OpaOutcome)
    (request : PolicyRequest) : Except Raised PolicyDecision :=
  match post (url config) (payload F request) with
  | .httpError text => .error (opaUnavailable ("OPA HTTP error: " ++ text))
  | .response status text json =>
    if status ≠ 200 then
      .error (opaUnavailable ("OPA returned " ++ toString status ++ ": " ++
        String.ofList (text.toList.take 200)))
    else
      match json >>= fun body ↦ body.getD "result" (.obj []) with
      | .error e => .error (opaUnavailable ("OPA response not JSON: " ++ e.text))
      | .ok data => readDecision data

/-! ## Failing closed -/

/-- The answer is a document whose `result.allow` is `allow`. -/
def Answers (outcome : OpaOutcome) (allow : Json) : Prop :=
  ∃ text body result, outcome = .response 200 text (.ok (.obj body)) ∧
    (Json.obj body).get? "result" = some (.obj result) ∧
      (Json.obj result).get? "allow" = some allow

/-- A decision allows only if the answer is the JSON value `true`, and an exception is the one that
callers deny on. -/
def FailsClosed (outcome : OpaOutcome) : Except Raised PolicyDecision → Prop
  | .ok decision => decision.allow = true → Answers outcome (.bool true)
  | .error e => e.typeName = "OPAUnavailable"

variable {config : OpaConfig} {F : FloatModel} {post : String → Json → OpaOutcome}
  {request : PolicyRequest} {data : Json} {decision : PolicyDecision}

/-- A decision is read from a dictionary with the key `allow`. -/
theorem readDecision_eq_ok (h : readDecision data = .ok decision) :
    ∃ result allow, data = .obj result ∧ (Json.obj result).get? "allow" = some allow ∧
      decision.allow = allow.truthy := by
  unfold readDecision at h
  split at h
  next result allow hallow => exact ⟨result, allow, rfl, hallow, by rw [← Except.ok.inj h]⟩
  next => cases h

theorem typeName_of_readDecision {e : Raised} (h : readDecision data = .error e) :
    e.typeName = "OPAUnavailable" := by
  unfold readDecision at h
  split at h
  · cases h
  · rw [← Except.error.inj h]
    rfl

/-- Every exception of the client is the one that callers deny on. -/
theorem typeName_of_decide {e : Raised} (h : decide config F post request = .error e) :
    e.typeName = "OPAUnavailable" := by
  rw [decide] at h
  split at h
  · rw [← Except.error.inj h]
    rfl
  split_ifs at h
  · rw [← Except.error.inj h]
    rfl
  split at h
  · rw [← Except.error.inj h]
    rfl
  · exact typeName_of_readDecision h

/-- A decision comes from an answer, and it allows if the value of `allow` counts as true. -/
theorem answers_of_decide (h : decide config F post request = .ok decision) :
    ∃ allow, Answers (post (url config) (payload F request)) allow ∧
      decision.allow = allow.truthy := by
  rw [decide] at h
  split at h
  · cases h
  next status text json houtcome =>
  split_ifs at h with hstatus
  split at h
  · cases h
  next data' hdata =>
  obtain ⟨body, rfl, hbody⟩ := bind_eq_ok_iff.mp hdata
  obtain ⟨result, allow, rfl, hallow, htruthy⟩ := readDecision_eq_ok h
  unfold Json.getD at hbody
  split at hbody
  next fields =>
    refine ⟨allow, ⟨text, fields, result, ?_, ?_, hallow⟩, htruthy⟩
    · rw [houtcome, not_not.mp hstatus]
    · cases hresult : (Json.obj fields).get? "result" with
      | none =>
        -- without a result the default is read, which has no `allow`
        rw [hresult] at hbody
        obtain rfl : [] = result := Json.obj.inj (Except.ok.inj hbody)
        cases hallow
      | some value =>
        rw [hresult] at hbody
        exact congrArg some (Except.ok.inj hbody)
  next => cases hbody

/-- The answer determines the value. -/
theorem Answers.unique {outcome : OpaOutcome} {allow allow' : Json} (h : Answers outcome allow)
    (h' : Answers outcome allow') : allow = allow' := by
  obtain ⟨text, body, result, rfl, hresult, hallow⟩ := h
  obtain ⟨text', body', result', heq, hresult', hallow'⟩ := h'
  obtain ⟨-, rfl, hjson⟩ := OpaOutcome.response.inj heq
  obtain rfl := Json.obj.inj (Except.ok.inj hjson)
  obtain rfl := Json.obj.inj (Option.some.inj (hresult.symm.trans hresult'))
  exact Option.some.inj (hallow.symm.trans hallow')

/-- An answer is decided on. -/
theorem decide_of_answers {allow : Json}
    (h : Answers (post (url config) (payload F request)) allow) :
    ∃ decision, decide config F post request = .ok decision ∧
      decision.allow = allow.truthy := by
  obtain ⟨text, body, result, houtcome, hresult, hallow⟩ := h
  have hdata : ((.ok (.obj body) : Except Raised Json) >>= fun body ↦
      body.getD "result" (.obj [])) = .ok (.obj result) := by
    show (Json.obj body).getD "result" (.obj []) = _
    rw [Json.getD, hresult]
    rfl
  refine ⟨⟨allow.truthy, textField (.obj result) "reason", textField (.obj result) "invariant",
    textField (.obj result) "rule_id"⟩, ?_, rfl⟩
  rw [decide, houtcome]
  simp only [ne_eq, not_true_eq_false, if_false, hdata, readDecision, hallow]

/-- **Exactly when the client fails closed**: the answer is not a document whose `result.allow`
counts as true without being the JSON value `true`. -/
theorem failsClosed_decide_iff (config : OpaConfig) (F : FloatModel)
    (post : String → Json → OpaOutcome) (request : PolicyRequest) :
    FailsClosed (post (url config) (payload F request)) (decide config F post request) ↔
      ∀ allow, Answers (post (url config) (payload F request)) allow → allow.truthy = true →
        allow = .bool true := by
  constructor
  · intro hclosed allow hanswers htruthy
    obtain ⟨decision, hdecide, hallow⟩ := decide_of_answers hanswers
    rw [hdecide] at hclosed
    exact hanswers.unique (hclosed (hallow.trans htruthy))
  · intro hall
    cases hdecide : decide config F post request with
    | error e => exact typeName_of_decide hdecide
    | ok decision =>
      obtain ⟨allow, hanswers, htruthy⟩ := answers_of_decide hdecide
      intro hallow
      have heq := hall allow hanswers (htruthy.symm.trans hallow)
      exact heq ▸ hanswers

/-! ### A refusal in words -/

def refusalBody : List (String × Json) := [("result", .obj [("allow", .str "no")])]

def refusal : OpaOutcome :=
  .response 200 "\x7b\"result\": \x7b\"allow\": \"no\"\x7d\x7d" (.ok (.obj refusalBody))

def publishRequest : PolicyRequest where
  node :=
    { nodeId := "publish", name := "Publish",
      requiresPurpose := { code := "contract-review", description := "Review" } }
  capability :=
    { capabilityId := "cap.sink", name := "Sink", kind := .sink, endpoint := "http://sink" }
  dataLabel := { classification := .restricted }
  purposeCode := "contract-review"
  region := "local"
  budgetRemainingUsd := 1

/-- A refusal in words is taken for a permission. -/
theorem not_failsClosed_refusal :
    ¬FailsClosed refusal (decide {} ⟨id, fun _ ↦ "1.0"⟩ (fun _ _ ↦ refusal) publishRequest) := by
  intro hclosed
  obtain ⟨text, body, result, heq, hresult, hallow⟩ := hclosed rfl
  obtain ⟨-, -, hjson⟩ := OpaOutcome.response.inj heq
  obtain rfl : refusalBody = body := Json.obj.inj (Except.ok.inj hjson)
  obtain rfl : [("allow", Json.str "no")] = result := Json.obj.inj (Option.some.inj hresult)
  cases hallow

end OpaHttpClient

end Opa

end Orchestra
