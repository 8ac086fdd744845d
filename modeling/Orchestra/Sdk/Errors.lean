import Orchestra.Api.Errors
import Orchestra.Observability.HttpStack

/-!
# The errors of the SDK

The client library reads a response that is no success as an envelope, if its body has a type and a
title, and raises the exception class of the status in it; otherwise it raises the base class without
a problem.

What the handlers of the API answer comes through: the class, the status, the detail and the
identifier of the request (`parse_respond`). What the two layers outside the application answer does
not: a client never sees the class of a refused request, and no response of this server tells it how
long to wait (`retryAfter_of_reply`).
-/

namespace Orchestra

namespace Sdk

/-- The exception classes; `orchestraError` is the base of the others. -/
inductive ErrorClass where
  | orchestraError | validationError | taskNotFoundError | notFoundError | payloadTooLargeError
  | rateLimitError | internalError | dependencyFailureError
  deriving DecidableEq

/-- `_STATUS_TO_EXCEPTION`. -/
def statusToException : List (ℤ × ErrorClass) :=
  [(400, .validationError), (401, .validationError), (403, .validationError),
    (404, .notFoundError), (405, .validationError), (409, .validationError),
    (413, .payloadTooLargeError), (422, .validationError), (429, .rateLimitError),
    (500, .internalError), (502, .dependencyFailureError), (503, .dependencyFailureError),
    (504, .dependencyFailureError)]

/-- `ProblemDetail`, whose fields hold what the body had, except for the status. -/
structure Problem where
  type : Json
  title : Json
  status : ℤ
  detail : Json
  /-- `instance`. -/
  instanceUri : Json
  orchestra : Json

/-- An instance of an exception class. -/
structure OrchestraError where
  errorClass : ErrorClass
  message : String
  problem : Option Problem := none

/-- What a call of the client raises: one of its own exceptions, or one of the interpreter. -/
inductive ClientError where
  | orchestra (e : OrchestraError)
  | python (e : Raised)

/-- A response as the client sees it; `json` is `none` where `response.json()` raises. -/
structure Response where
  statusCode : ℤ
  text : String
  json : Option Json

def Response.isSuccess (r : Response) : Bool := decide (200 ≤ r.statusCode ∧ r.statusCode ≤ 299)

/-- The response to a body that the server rendered, read with `json.loads`. -/
def Response.received (loads : String → Option Json) (statusCode : ℤ) (body : Json) : Response where
  statusCode := statusCode
  text := body.dumpsAsciiText
  json := loads body.dumpsAsciiText

section Parse

-- `int` of a float, by its text
variable (floatInt : String → Except Raised ℤ)

/-- `int(value)`. -/
def toInt : Json → Except Raised ℤ
  | .int n => .ok n
  | .bool b => .ok (if b then 1 else 0)
  | .float text => floatInt text
  | .str s =>
    match pyInt s with
    | some n => .ok n
    | none => .error ⟨"ValueError", "invalid literal for int() with base 10: " ++ pyRepr s⟩
  | value => .error ⟨"TypeError",
      "int() argument must be a string, a bytes-like object or a real number, not '" ++
        value.typeName ++ "'"⟩

/-- `ProblemDetail.from_dict`. -/
def Problem.fromDict (fields : List (String × Json)) : Except Raised Problem := do
  let get (key : String) (default : Json) := (Dictionary.get fields key).getD default
  let status ← toInt floatInt (get "status" (.int 0))
  return {
    type := get "type" (.str "")
    title := get "title" (.str "")
    status := status
    detail := get "detail" (.str "")
    instanceUri := get "instance" (.str "")
    orchestra := (get "orchestra" .null).orElse (.obj []) }

/-- `request_id`. -/
def Problem.requestId (p : Problem) : Except Raised Json :=
  if p.instanceUri.truthy then .ok p.instanceUri
  else if p.orchestra.truthy then do
    let id ← p.orchestra.getD "request_id" (.str "")
    return .str id.pyStr
  else .ok (.str "")

/-- `exception_for_problem`. -/
def exceptionForProblem (p : Problem) : ErrorClass :=
  (Dictionary.get statusToException p.status).getD .orchestraError

/-- The envelope in a body; a `ValueError` is passed over. -/
def envelope (body : Json) : Except Raised (Option Problem) :=
  match body with
  | .obj fields =>
    if (Dictionary.get fields "type").isSome && (Dictionary.get fields "title").isSome then
      match Problem.fromDict floatInt fields with
      | .ok problem => .ok (some problem)
      | .error e => if e.typeName = "ValueError" then .ok none else .error e
    else .ok none
  | _ => .ok none

/-- `_parse`. -/
def parse (response : Response) : Except ClientError Json :=
  if response.isSuccess then
    match response.json with
    | some body => .ok body
    | none => .error (.orchestra
        { errorClass := .orchestraError
          message := "server returned non-JSON body: " ++
            pyRepr (String.ofList (response.text.toList.take 200)) })
  else
    match response.json.elim (.ok none) (envelope floatInt) with
    | .error e => .error (.python e)
    | .ok problem =>
      let errorClass := problem.elim .orchestraError exceptionForProblem
      let detail := problem.elim response.text fun p ↦ p.detail.pyStr
      .error (.orchestra
        { errorClass := errorClass
          message := toString response.statusCode ++ " " ++ detail
          problem := problem })

/-- `retry_after_seconds`, which only a `RateLimitError` has. -/
def OrchestraError.retryAfterSeconds (e : OrchestraError) : Except Raised ℤ :=
  match e.problem with
  | none => .ok 0
  | some problem => do
    let value ← (problem.orchestra.orElse (.obj [])).getD "retry_after_seconds" (.int 0)
    match toInt floatInt value with
    | .ok n => .ok n
    | .error e => if e.typeName ∈ ["TypeError", "ValueError"] then .ok 0 else .error e

/-! ## What comes through -/

/-- The class of a status. -/
def classOf (status : ℤ) : ErrorClass := (Dictionary.get statusToException status).getD .orchestraError

/-- Both sides list the same statuses, and statuses of one type have one class. -/
theorem tables_agree : statusToSlug.map Prod.fst = statusToException.map Prod.fst ∧
    ∀ status ∈ statusToSlug.map Prod.fst, ∀ status' ∈ statusToSlug.map Prod.fst,
      slugOf status = slugOf status' → classOf status = classOf status' := by
  constructor <;> decide

/-- The exception carries the failure of a request. -/
structure Carries (f : Failure) (requestId : String) (e : OrchestraError) (p : Problem) : Prop where
  problem : e.problem = some p
  errorClass : e.errorClass = classOf f.status
  message : e.message = toString f.status ++ " " ++ f.detail.pyStr
  type : p.type = .str (problemTypeUri (slugOf f.status))
  status : p.status = f.status
  detail : p.detail = f.detail
  requestId : p.requestId = .ok (.str requestId)

variable {floatInt} {loads : String → Option Json}

/-- The URI of a type is left alone. -/
theorem colon_mem_problemTypeUri (slug : String) : ':' ∈ (problemTypeUri slug).toList := by
  have hurn : ':' ∈ ("urn:orchestra:problem:" ++ slug).toList := by
    rw [String.toList_append]
    exact List.mem_append_left _ (by simp)
  exact hurn

/-- The fields of an envelope. -/
def envelopeFields (type title : String) (status : ℤ) (detail : Json) (requestId : String)
    (orchestra : Option Json) : List (String × Json) :=
  [("type", .str type), ("title", .str title), ("status", .int status), ("detail", detail),
    ("instance", .str requestId)] ++ (orchestra.map fun value ↦ ("orchestra", value)).toList

variable (floatInt) in
theorem envelope_fields (type title : String) (status : ℤ) (detail : Json) (requestId : String)
    (orchestra : Option Json) :
    envelope floatInt (.obj (envelopeFields type title status detail requestId orchestra)) =
      .ok (some ⟨.str type, .str title, status, detail, .str requestId,
        (orchestra.getD .null).orElse (.obj [])⟩) := by
  cases orchestra <;>
    simp [envelope, envelopeFields, Problem.fromDict, Dictionary.get, toInt, bind, Except.bind, pure,
      Except.pure]

/-- What the extension of an envelope of this server holds. -/
def IsExtension (requestId : String) (value : Json) : Prop :=
  ∃ rest, value = .obj (("request_id", .str requestId) :: rest) ∧
    Dictionary.get rest "retry_after_seconds" = none

/-- A body of a handler is an envelope. -/
theorem respond_body (f : Failure) (requestId : String) :
    ∃ title orchestra, (f.respond requestId).body = .obj (envelopeFields
      (problemTypeUri (slugOf f.status)) title f.status f.detail requestId orchestra) ∧
      ∀ value, orchestra = some value → IsExtension requestId value := by
  cases f with
  | http exc =>
    let problem := problemFromHttpException exc exc.statusCode requestId []
    have horchestra : problem.orchestra =
        if requestId = "" then [] else [("request_id", .str requestId)] := rfl
    have htype : (if ':' ∈ problem.type.toList then problem.type else problemTypeUri problem.type) =
        problemTypeUri (slugOf exc.statusCode) := if_pos (colon_mem_problemTypeUri _)
    refine ⟨problem.title,
      if requestId = "" then none else some (.obj [("request_id", .str requestId)]), ?_, ?_⟩
    · change problem.toDict = _
      rw [ProblemDetail.toDict, htype, horchestra]
      by_cases hempty : requestId = ""
      · rw [if_pos hempty, if_pos hempty, if_pos rfl]
        rfl
      · rw [if_neg hempty, if_neg hempty, if_neg (List.cons_ne_nil _ _)]
        rfl
    · intro value hvalue
      by_cases hempty : requestId = ""
      · rw [if_pos hempty] at hvalue
        cases hvalue
      · rw [if_neg hempty] at hvalue
        exact ⟨[], (Option.some.inj hvalue).symm, rfl⟩
  | validation errors =>
    exact ⟨_, some _, rfl, fun value hvalue ↦ ⟨_, (Option.some.inj hvalue).symm, rfl⟩⟩
  | unhandled errorType =>
    exact ⟨_, some _, rfl, fun value hvalue ↦ ⟨_, (Option.some.inj hvalue).symm, rfl⟩⟩

/-- The identifier is read from the instance, and where that is empty so is the one in the
extension. -/
theorem requestId_envelope {p : Problem} {requestId : String} {orchestra : Option Json}
    (hinstance : p.instanceUri = .str requestId)
    (horchestra : p.orchestra = (orchestra.getD .null).orElse (.obj []))
    (hvalue : ∀ value, orchestra = some value → IsExtension requestId value) :
    p.requestId = .ok (.str requestId) := by
  rw [Problem.requestId, hinstance]
  by_cases hempty : requestId = ""
  · subst hempty
    rw [if_neg (by simp [Json.truthy])]
    cases orchestra with
    | none =>
      rw [horchestra]
      rfl
    | some value =>
      obtain ⟨rest, rfl, -⟩ := hvalue value rfl
      rw [horchestra]
      rfl
  · rw [if_pos (by simp [Json.truthy, hempty])]

/-- An error response that is no envelope raises the base class. -/
theorem parse_of_no_envelope {response : Response} (hfails : response.isSuccess = false)
    (hnone : response.json.elim (.ok none) (envelope floatInt) = .ok none) :
    parse floatInt response = .error (.orchestra
      { errorClass := .orchestraError
        message := toString response.statusCode ++ " " ++ response.text }) := by
  rw [parse, hfails, if_neg Bool.false_ne_true, hnone]
  rfl

/-- An error response that is one raises the class of its status. -/
theorem parse_of_envelope {response : Response} {p : Problem} (hfails : response.isSuccess = false)
    (hsome : response.json.elim (.ok none) (envelope floatInt) = .ok (some p)) :
    parse floatInt response = .error (.orchestra
      { errorClass := exceptionForProblem p
        message := toString response.statusCode ++ " " ++ p.detail.pyStr
        problem := some p }) := by
  rw [parse, hfails, if_neg Bool.false_ne_true, hsome]
  rfl

/-- No time to wait in the extension is none. -/
theorem retryAfterSeconds_of_fields {e : OrchestraError} {p : Problem}
    {fields : List (String × Json)} (hproblem : e.problem = some p)
    (horchestra : p.orchestra = .obj fields)
    (hnone : Dictionary.get fields "retry_after_seconds" = none) :
    e.retryAfterSeconds floatInt = .ok 0 := by
  have hfields : ∃ fields', p.orchestra.orElse (.obj []) = .obj fields' ∧
      Dictionary.get fields' "retry_after_seconds" = none := by
    rw [horchestra, Json.orElse]
    split_ifs
    · exact ⟨fields, rfl, hnone⟩
    · exact ⟨[], rfl, rfl⟩
  obtain ⟨fields', hor, hnone'⟩ := hfields
  have hvalue : (p.orchestra.orElse (.obj [])).getD "retry_after_seconds" (.int 0) = .ok (.int 0) := by
    rw [hor]
    change Except.ok ((Dictionary.get fields' "retry_after_seconds").getD (.int 0)) = _
    rw [hnone']
    rfl
  rw [OrchestraError.retryAfterSeconds, hproblem]
  dsimp only
  rw [hvalue]
  rfl

variable (floatInt) in
/-- What a handler answers is read back, and its extension names no time to wait. -/
theorem parse_handled {f : Failure} {requestId : String}
    (hloads : loads (f.respond requestId).body.dumpsAsciiText = some (f.respond requestId).body)
    (hfails : ¬(200 ≤ f.status ∧ f.status ≤ 299)) :
    ∃ e p, parse floatInt (.received loads f.status (f.respond requestId).body) =
      .error (.orchestra e) ∧ Carries f requestId e p ∧ e.retryAfterSeconds floatInt = .ok 0 := by
  obtain ⟨title, orchestra, hbody, hvalue⟩ := respond_body f requestId
  let p : Problem := ⟨.str (problemTypeUri (slugOf f.status)), .str title, f.status, f.detail,
    .str requestId, (orchestra.getD .null).orElse (.obj [])⟩
  have hid : p.requestId = .ok (.str requestId) := requestId_envelope rfl rfl hvalue
  have hfields : ∃ fields, p.orchestra = .obj fields ∧
      Dictionary.get fields "retry_after_seconds" = none := by
    cases orchestra with
    | none => exact ⟨[], rfl, rfl⟩
    | some value =>
      obtain ⟨rest, rfl, hrest⟩ := hvalue value rfl
      exact ⟨("request_id", .str requestId) :: rest, rfl, hrest⟩
  obtain ⟨fields, horchestra, hnone⟩ := hfields
  refine ⟨⟨classOf f.status, toString f.status ++ " " ++ f.detail.pyStr, some p⟩, p, ?_,
    ⟨rfl, rfl, rfl, rfl, rfl, rfl, hid⟩, retryAfterSeconds_of_fields rfl horchestra hnone⟩
  have hnot : (Response.received loads f.status (f.respond requestId).body).isSuccess = false :=
    decide_eq_false hfails
  refine parse_of_envelope hnot (p := p) ?_
  change (loads _).elim _ _ = _
  rw [hloads, hbody]
  exact envelope_fields floatInt _ title f.status f.detail requestId orchestra

/-- **What a handler answers comes through.** A failure that is not answered with a success raises
the class of its status, with its status, type, detail and the identifier of the request. -/
theorem parse_respond (loads : String → Option Json) (floatInt : String → Except Raised ℤ)
    (f : Failure) (requestId : String)
    (hloads : loads (f.respond requestId).body.dumpsAsciiText = some (f.respond requestId).body)
    (hfails : ¬(200 ≤ f.status ∧ f.status ≤ 299)) :
    ∃ e p, parse floatInt (.received loads (f.respond requestId).statusCode
      (f.respond requestId).body) = .error (.orchestra e) ∧ Carries f requestId e p := by
  have hstatus : (f.respond requestId).statusCode = f.status := by cases f <;> rfl
  obtain ⟨e, p, hparse, hcarries, -⟩ := parse_handled floatInt hloads hfails
  rw [hstatus]
  exact ⟨e, p, hparse, hcarries⟩

/-- A task that is not found. -/
def unknownTask : Failure := .http ⟨404, .str "task T is unknown", []⟩

theorem parse_respond_unknownTask : ∃ e p, parse (fun _ ↦ .ok 0)
    (.received (fun _ ↦ some (unknownTask.respond "r1").body) 404 (unknownTask.respond "r1").body) =
      .error (.orchestra e) ∧ Carries unknownTask "r1" e p :=
  parse_respond (fun _ ↦ some (unknownTask.respond "r1").body) (fun _ ↦ .ok 0) unknownTask "r1" rfl
    (by decide)

/-! ## What does not -/

/-- A response of the server that is no success: of a handler, or of one of the two layers that
refuse a request before the application sees it. -/
inductive Reply where
  | handled (f : Failure) (requestId : String)
  | rateLimited (tenant : String) (decision : RateLimitDecision)
  | payloadTooLarge (maxBytes : ℤ) (reason : String)

namespace Reply

def statusCode : Reply → ℤ
  | handled f _ => f.status
  | rateLimited _ _ => 429
  | payloadTooLarge _ _ => 413

def body : Reply → Json
  | handled f requestId => (f.respond requestId).body
  | rateLimited tenant decision => (HttpStack.tooManyRequests tenant decision).body
  | payloadTooLarge maxBytes reason =>
    .obj [("error", .str "payload_too_large"), ("reason", .str reason), ("max_bytes", .int maxBytes)]

/-- The layers answer without the handlers. -/
def IsRefusal : Reply → Prop
  | handled _ _ => False
  | rateLimited _ _ | payloadTooLarge _ _ => True

/-- The bytes that `_reject` sends are those of the body. -/
theorem rejection_eq (maxBytes : ℤ) {reason : String}
    (hreason : reason = "content_length" ∨ reason = "chunked_overflow") :
    RequestSizeLimitMiddleware.rejection maxBytes reason =
      encodeUtf8 (payloadTooLarge maxBytes reason).body.dumpsAsciiText := by
  rw [RequestSizeLimitMiddleware.rejection]
  refine congrArg encodeUtf8 (String.toList_injective ?_)
  rw [Json.dumpsAsciiText, String.toList_ofList]
  -- the text around the number is closed, once the reason is one of the two
  rcases hreason with rfl | rfl
  · simp only [String.toList_append]
    rfl
  · simp only [String.toList_append]
    rfl

/-- A refusal is no envelope. -/
theorem envelope_of_refusal {reply : Reply} (hrefusal : reply.IsRefusal) :
    envelope floatInt reply.body = .ok none := by
  cases reply with
  | handled => exact hrefusal.elim
  | rateLimited => rfl
  | payloadTooLarge => rfl

end Reply

/-- **No response tells the client to wait.** Whatever the server answers that is no success, the
exception says to wait for 0 seconds; and that of a refused request is of the base class, without a
problem, also where the body of the refusal names a time. -/
theorem retryAfter_of_reply (loads : String → Option Json) (floatInt : String → Except Raised ℤ)
    (reply : Reply) (hloads : loads reply.body.dumpsAsciiText = some reply.body)
    (hfails : ¬(200 ≤ reply.statusCode ∧ reply.statusCode ≤ 299)) :
    ∃ e, parse floatInt (.received loads reply.statusCode reply.body) = .error (.orchestra e) ∧
      e.retryAfterSeconds floatInt = .ok 0 ∧
      (reply.IsRefusal → e.errorClass = .orchestraError ∧ e.problem = none) ∧
      ∀ tenant decision, reply = .rateLimited tenant decision →
        ∃ seconds : ℤ, 1 ≤ seconds ∧ reply.body.get? "retry_after_seconds" = some (.int seconds) := by
  have hnamed : ∀ tenant decision, reply = .rateLimited tenant decision → ∃ seconds : ℤ,
      1 ≤ seconds ∧ reply.body.get? "retry_after_seconds" = some (.int seconds) := by
    rintro tenant decision rfl
    exact ⟨_, le_max_left 1 _, rfl⟩
  by_cases hrefusal : reply.IsRefusal
  · have hnot : (Response.received loads reply.statusCode reply.body).isSuccess = false :=
      decide_eq_false hfails
    have hnone : (Response.received loads reply.statusCode reply.body).json.elim (.ok none)
        (envelope floatInt) = .ok none := by
      change (loads _).elim _ _ = _
      rw [hloads]
      exact Reply.envelope_of_refusal hrefusal
    exact ⟨_, parse_of_no_envelope hnot hnone, rfl, fun _ ↦ ⟨rfl, rfl⟩, hnamed⟩
  · cases reply with
    | handled f requestId =>
      obtain ⟨e, p, hparse, -, hafter⟩ := parse_handled floatInt hloads hfails
      exact ⟨e, hparse, hafter, fun h ↦ absurd h hrefusal, hnamed⟩
    | rateLimited => exact absurd trivial hrefusal
    | payloadTooLarge => exact absurd trivial hrefusal

/-- The bucket of a tenant is empty for another 30 seconds. -/
def refusedTenant : Reply := .rateLimited "t1" ⟨false, 30, 0, "t1"⟩

theorem retryAfter_of_refusedTenant : ∃ e,
    parse (fun _ ↦ .ok 0) (.received (fun _ ↦ some refusedTenant.body) 429 refusedTenant.body) =
      .error (.orchestra e) ∧
      e.retryAfterSeconds (fun _ ↦ .ok 0) = .ok 0 ∧
      (refusedTenant.IsRefusal → e.errorClass = .orchestraError ∧ e.problem = none) ∧
      ∀ tenant decision, refusedTenant = .rateLimited tenant decision → ∃ seconds : ℤ, 1 ≤ seconds ∧
        refusedTenant.body.get? "retry_after_seconds" = some (.int seconds) :=
  retryAfter_of_reply (fun _ ↦ some refusedTenant.body) (fun _ ↦ .ok 0) refusedTenant rfl (by decide)

end Parse

end Sdk

end Orchestra
