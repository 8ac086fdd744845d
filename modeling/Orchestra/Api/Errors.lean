import Orchestra.Core.Exceptions
import Orchestra.Core.JsonAscii
import Orchestra.Foundation.Dictionary

/-!
# The envelope of an error

Every exception that a request runs into becomes a response with one shape of body: the URI of the
problem type, its title, the status, a detail, and the identifier of the request. The type is chosen
by the status, from a catalog. There is one handler for HTTP exceptions, one for requests that do
not validate and one for everything else; the last two build the same body by hand.
-/

namespace Orchestra

/-- `PROBLEM_TYPES`. -/
def problemTypes : List (String × String) :=
  [("validation_error", "Request body or query failed validation."),
    ("task_not_found", "No task with the given task_run_id."),
    ("rate_limited", "Token bucket exhausted; retry after the Retry-After interval."),
    ("payload_too_large", "Request body exceeded the size cap."),
    ("method_not_allowed", "HTTP method not allowed for this path."),
    ("internal_error", "Unhandled server-side failure; check logs by request id."),
    ("unauthorized", "Missing or invalid credentials."),
    ("forbidden", "Caller is authenticated but not allowed."),
    ("not_found", "Resource not found."),
    ("conflict", "Resource state conflicts with the request."),
    ("dependency_failure", "An upstream dependency (DB, registry) is unavailable.")]

def problemTypeUri (slug : String) : String := "urn:orchestra:problem:" ++ slug

/-- `ProblemDetail`. -/
structure ProblemDetail where
  type : String
  title : String
  status : ℤ
  detail : String := ""
  /-- `instance`. -/
  instanceUri : String := ""
  orchestra : List (String × Json) := []

/-- `to_dict`. -/
def ProblemDetail.toDict (p : ProblemDetail) : Json :=
  let type := if ':' ∈ p.type.toList then p.type else problemTypeUri p.type
  .obj ([("type", .str type), ("title", .str p.title), ("status", .int p.status),
    ("detail", .str p.detail), ("instance", .str p.instanceUri)] ++
    if p.orchestra = [] then [] else [("orchestra", .obj p.orchestra)])

/-- `status_to_slug`. -/
def statusToSlug : List (ℤ × String) :=
  [(400, "validation_error"), (401, "unauthorized"), (403, "forbidden"), (404, "not_found"),
    (405, "method_not_allowed"), (409, "conflict"), (413, "payload_too_large"),
    (422, "validation_error"), (429, "rate_limited"), (500, "internal_error"),
    (502, "dependency_failure"), (503, "dependency_failure"), (504, "dependency_failure")]

def slugOf (status : ℤ) : String := (Dictionary.get statusToSlug status).getD "internal_error"

/-- `HTTPException`. -/
structure HttpException where
  statusCode : ℤ
  detail : Json
  headers : List (String × String) := []

/-- `problem_from_http_exception`. -/
def problemFromHttpException (exc : HttpException) (status : ℤ) (requestId : String)
    (extra : List (String × Json)) : ProblemDetail :=
  let slug := slugOf status
  let detail := match exc.detail with
    | .str s => s
    | raw => raw.pyStr
  let orchestra := if requestId = "" then [] else [("request_id", Json.str requestId)]
  { type := problemTypeUri slug
    title := (Dictionary.get problemTypes slug).getD "Error"
    status := status
    detail := if detail = "" then (Dictionary.get problemTypes slug).getD "" else detail
    instanceUri := requestId
    orchestra := Json.merge orchestra extra }

/-- A response, with the JSON of its body. -/
structure ApiResponse where
  statusCode : ℤ
  mediaType : String
  headers : List (String × String) := []
  body : Json

/-- What a request runs into. -/
inductive Failure where
  | http (exc : HttpException)
  /-- `RequestValidationError`, with `exc.errors()`. -/
  | validation (errors : List (List (String × Json)))
  /-- Any other exception, with the name of its class. -/
  | unhandled (errorType : String)

namespace Failure

def problemJson : String := "application/problem+json"

/-- The first message of a validation error. -/
def firstMessage : List (List (String × Json)) → Json
  | [] => .str "validation failed"
  | error :: _ => (Dictionary.get error "msg").getD (.str "validation failed")

/-- The three handlers, where `requestId` is `current_request_id() or ""`. -/
def respond (requestId : String) : Failure → ApiResponse
  | .http exc =>
    { statusCode := exc.statusCode
      mediaType := problemJson
      headers := exc.headers
      body := (problemFromHttpException exc exc.statusCode requestId []).toDict }
  | .validation errors =>
    { statusCode := 422
      mediaType := problemJson
      body := .obj
        [("type", .str (problemTypeUri "validation_error")),
          ("title", .str ((Dictionary.get problemTypes "validation_error").getD "")),
          ("status", .int 422), ("detail", firstMessage errors), ("instance", .str requestId),
          ("orchestra", .obj [("request_id", .str requestId),
            ("errors", .arr (errors.map .obj))])] }
  | .unhandled errorType =>
    { statusCode := 500
      mediaType := problemJson
      body := .obj
        [("type", .str (problemTypeUri "internal_error")),
          ("title", .str ((Dictionary.get problemTypes "internal_error").getD "")),
          ("status", .int 500), ("detail", .str "Unhandled server-side failure; see logs."),
          ("instance", .str requestId),
          ("orchestra", .obj [("request_id", .str requestId), ("error_type", .str errorType)])] }

/-- The status a failure is answered with. -/
def status : Failure → ℤ
  | .http exc => exc.statusCode
  | .validation _ => 422
  | .unhandled _ => 500

/-- The detail it is answered with. -/
def detail : Failure → Json
  | .http exc => .str (problemFromHttpException exc exc.statusCode "" []).detail
  | .validation errors => firstMessage errors
  | .unhandled _ => .str "Unhandled server-side failure; see logs."

end Failure

/-! ## The catalog -/

/-- Every status has a type of the catalog. -/
theorem slugOf_mem (status : ℤ) : slugOf status ∈ problemTypes.map Prod.fst := by
  have hall : ∀ entry ∈ statusToSlug, entry.2 ∈ problemTypes.map Prod.fst := by decide
  rw [slugOf]
  cases hget : Dictionary.get statusToSlug status with
  | none => decide
  | some slug =>
    have hmem := (Dictionary.get_eq_some_iff (by decide)).mp hget
    exact hall (status, slug) hmem

/-- The title is that of the catalog, and no detail is empty. -/
theorem detail_ne_empty (exc : HttpException) (status : ℤ) (requestId : String)
    (extra : List (String × Json)) :
    (slugOf status, (problemFromHttpException exc status requestId extra).title) ∈ problemTypes ∧
      (problemFromHttpException exc status requestId extra).detail ≠ "" := by
  have htexts : ∀ entry ∈ problemTypes, entry.2 ≠ "" := by decide
  obtain ⟨⟨slug, title⟩, hmem, hslug⟩ := List.mem_map.mp (slugOf_mem status)
  have hget : Dictionary.get problemTypes (slugOf status) = some title := by
    rw [← hslug]
    exact (Dictionary.get_eq_some_iff (by decide)).mpr hmem
  refine ⟨?_, ?_⟩
  · rw [problemFromHttpException, hget, ← hslug]
    exact hmem
  · rw [problemFromHttpException, hget]
    dsimp only
    split_ifs with hempty
    · exact htexts _ hmem
    · exact hempty

end Orchestra
