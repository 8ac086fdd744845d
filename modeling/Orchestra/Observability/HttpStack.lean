import Orchestra.Core.Exceptions
import Orchestra.Core.JsonAscii
import Orchestra.Foundation.Handler
import Orchestra.Foundation.Pool
import Orchestra.Observability.Metrics
import Orchestra.Observability.RetryAfter

/-!
# The layers around the API

`add_middleware` puts every layer around those that were added before, so a request passes the cap
on bodies first, then the rate limit, then the metrics and the request identifier, and then reaches
the application. A layer is a program that calls the server; one that wraps `send` or `receive` is a
handler of the layer inside it.

Many requests are served at once. They share the limiter and the metrics, and each has its own
server and its own scope. A site answers the calls of all of them, and keeps a log of the calls with
the request that made each.
-/

namespace Orchestra

open Interaction Asgi RateLimitMiddleware

namespace HttpStack

/-! ## What a layer can do -/

/-- What the application does: it talks to the server, and its router stores the template of the
matched route in the scope. -/
inductive AppCmd where
  | asgi (c : Asgi.Cmd)
  | setRoute (template : String)

abbrev AppReply : AppCmd → Type
  | .asgi c => Asgi.Reply c
  | .setRoute _ => Unit

abbrev App := Program AppCmd AppReply Raised Unit

/-- What the layers do besides. -/
inductive Cmd where
  | app (c : AppCmd)
  /-- `scope.get("route")`, as its template. -/
  | getRoute
  | perfCounter
  | check (tenant : String)
  | count (method path status : String)
  | observe (duration : ℚ) (method path : String)
  | rejected (reason : String)

abbrev Reply : Cmd → Type
  | .app c => AppReply c
  | .getRoute => Option String
  | .perfCounter => ℚ
  | .check _ => RateLimitDecision
  | .count _ _ _ | .observe _ _ _ | .rejected _ => Unit

abbrev Layer := Program Cmd Reply Raised Unit

def receive : Cmd := .app (.asgi .receive)

def send (m : Sent) : Cmd := .app (.asgi (.send m))

/-- The calls that suspend the task of a request. -/
def Cmd.suspends : Cmd → Bool
  | .app (.asgi _) => true
  | _ => false

/-- A request: its scope, the method in it, and what `uuid.uuid4().hex[:12]` gives. -/
structure Request where
  scope : Scope
  method : Option String := none
  fresh : String := ""

/-! ## The request identifier -/

def unicodeDecodeError (value : Bytes) : Raised :=
  let position := value.findIdx fun b ↦ decide (128 ≤ b)
  let byte := (value[position]?.getD 0).toNat
  ⟨"UnicodeDecodeError", "'ascii' codec can't decode byte 0x" ++
    String.ofList [hexDigit (byte / 16), hexDigit (byte % 16)] ++ " in position " ++
    toString position ++ ": ordinal not in range(128)"⟩

/-- The identifier: that of the last `x-request-id` header, or a new one. -/
def requestIdOf (req : Request) : Except Raised String :=
  let value := ((req.scope.headers.reverse.find? fun h ↦
    decide (h.1 = encodeUtf8 "x-request-id")).map Prod.snd).getD []
  match decodeAscii value with
  | none => .error (unicodeDecodeError value)
  | some text => .ok (if text = "" then "req-" ++ req.fresh else text)

/-- `send_with_header`. -/
def sendWithHeader (rid : String) : Handler AppCmd AppReply AppCmd AppReply Raised Unit := fun _ c ↦
  match c with
  | .asgi (.send (.start status headers)) => do
    let headers := headers ++ [(encodeUtf8 "x-request-id", encodeUtf8 rid)]
    let reply ← (Program.perform (.asgi (.send (.start status headers)))).attempt
    return (reply, ())
  | c => do
    let reply ← (Program.perform c).attempt
    return (reply, ())

/-- `RequestIdMiddleware.__call__`. -/
def requestId (req : Request) (app : App) : App :=
  if req.scope.kind ≠ "http" then app
  else do
    let rid ← .ofExcept (requestIdOf req)
    let (result, _) ← app.handle (sendWithHeader rid) ()
    .ofExcept result

/-! ## The metrics -/

/-- `send_wrapper`, which keeps the status it saw last. -/
def sendWrapper : Handler AppCmd AppReply Cmd Reply Raised ℕ := fun captured c ↦
  match c with
  | .asgi (.send (.start status headers)) => do
    let reply ← (Program.perform (send (.start status headers))).attempt
    return (reply, status)
  | c => do
    let reply ← (Program.perform (R := Reply) (.app c)).attempt
    return (reply, captured)

/-- `_resolve_path`. -/
def resolvePath (route : Option String) (scope : Scope) : String :=
  match route with
  | some template => if template = "" then pathOf scope else template
  | none => pathOf scope
where
  pathOf (scope : Scope) : String := if scope.path = "" then "/" else scope.path

def Request.methodName (req : Request) : String := req.method.getD "GET"

/-- `HTTPMetricsMiddleware.__call__`. -/
def httpMetrics (req : Request) (app : App) : Layer :=
  if req.scope.kind ≠ "http" then do
    let (result, _) ← app.handle sendWrapper 500
    .ofExcept result
  else do
    let start ← Program.perform Cmd.perfCounter
    let (result, status) ← app.handle sendWrapper 500
    -- the `finally` block
    let stop ← Program.perform Cmd.perfCounter
    let route ← Program.perform Cmd.getRoute
    let path := resolvePath route req.scope
    Program.perform (Cmd.count req.methodName path (toString status))
    Program.perform (Cmd.observe (stop - start) req.methodName path)
    .ofExcept result

/-! ## The rate limit -/

def tooManyRequests (tenant : String) (decision : RateLimitDecision) : TooManyRequests where
  retryAfter := retryAfterSeconds decision.retryAfter
  body := .obj [("error", .str "rate_limited"), ("tenant", .str tenant),
    ("retry_after_seconds", .int (retryAfterSeconds decision.retryAfter))]

def refuse (reply : TooManyRequests) : Layer := do
  let body := encodeUtf8 reply.body.dumpsAsciiText
  Program.perform (send (.start 429
    [(encodeUtf8 "content-type", encodeUtf8 "application/json"),
      (encodeUtf8 "content-length", encodeUtf8 (toString body.length)),
      (encodeUtf8 "retry-after", encodeUtf8 (toString reply.retryAfter))]))
  Program.perform (send (.body body false))

/-- `RateLimitMiddleware.__call__`. -/
def rateLimit (scope : Scope) (app : Layer) : Layer :=
  if scope.kind ≠ "http" ∨ isExempt scope.path then app
  else do
    let tenant := resolveTenant scope
    let decision ← Program.perform (Cmd.check tenant)
    if decision.allowed then app else refuse (tooManyRequests tenant decision)

/-! ## The cap on bodies -/

/-- `_reject`. -/
def reject (maxBytes : ℤ) (reason : String) : Layer := do
  Program.perform (Cmd.rejected reason)
  let body := RequestSizeLimitMiddleware.rejection maxBytes reason
  Program.perform (send (.start 413
    [(encodeUtf8 "content-type", encodeUtf8 "application/json"),
      (encodeUtf8 "content-length", encodeUtf8 (toString body.length))]))
  Program.perform (send (.body body false))

/-- `wrapped_receive`, which keeps the number of bytes it has counted. -/
def wrappedReceive (maxBytes : ℤ) : Handler Cmd Reply Cmd Reply Raised ℕ := fun received c ↦
  match c with
  | .app (.asgi .receive) => do
    match ← (Program.perform receive).attempt with
    | .error e => return (.error e, received)
    | .ok .disconnect => return (.ok .disconnect, received)
    | .ok (.request m) =>
      let received := received + m.size
      if maxBytes < received then
        match ← (reject maxBytes "chunked_overflow").attempt with
        | .ok _ => return (.ok .disconnect, received)
        | .error e => return (.error e, received)
      else
        return (.ok (.request m), received)
  | c => do
    let reply ← (Program.perform c).attempt
    return (reply, received)

/-- `RequestSizeLimitMiddleware.__call__`. -/
def requestSizeLimit (maxBytes : ℤ) (scope : Scope) (app : Layer) : Layer :=
  if scope.kind ≠ "http" then app
  else
    match RequestSizeLimitMiddleware.contentLength scope.headers with
    | some length => if maxBytes < length then reject maxBytes "content_length" else app
    | none => do
      let (result, _) ← app.handle (wrappedReceive maxBytes) 0
      .ofExcept result

/-! ## The stack -/

/-- What the application is built with. -/
structure Config where
  maxBytes : ℤ
  /-- A rate limiter is wired. -/
  limited : Bool

/-- The application as `create_app` wraps it. -/
def stack (cfg : Config) (req : Request) (app : App) : Layer :=
  let inner := httpMetrics req (requestId req app)
  requestSizeLimit cfg.maxBytes req.scope (if cfg.limited then rateLimit req.scope inner else inner)

/-! ## A site -/

/-- What the requests share, and what each of them has. -/
structure Site (ι : Type) where
  limiter : RateLimiter
  /-- `orchestra_http_requests_total`. -/
  requests : Counter := { labels := ["method", "path", "status"] }
  /-- `orchestra_http_request_duration_seconds`. -/
  duration : Histogram :=
    { name := "orchestra_http_request_duration_seconds"
      help := "HTTP request duration in seconds.", labels := ["method", "path"] }
  /-- `orchestra_request_size_rejected_total`. -/
  rejected : Counter := { labels := ["reason"] }
  servers : ι → Server
  routes : ι → Option String := fun _ ↦ none
  log : List (ι × Step Cmd Reply Raised) := []

/-- What a call draws from its surroundings: the clocks, and an exception of the server. -/
structure Draw where
  created : ℚ := 0
  now : ℚ := 0
  fault : Option Raised := none

namespace Site

variable {ι : Type} [DecidableEq ι] (site : Site ι)

/-- The reply to a call of request `i`, and the site after it. -/
def reply (i : ι) (w : Draw) : (c : Cmd) → Except Raised (Reply c) × Site ι
  | .app (.asgi .receive) =>
    match w.fault with
    | some e => (.error e, site)
    | none =>
      let (message, server) := (site.servers i).receive
      (.ok message, { site with servers := Function.update site.servers i server })
  | .app (.asgi (.send m)) =>
    match w.fault with
    | some e => (.error e, site)
    | none =>
      (.ok (), { site with
        servers := Function.update site.servers i ((site.servers i).send m) })
  | .app (.setRoute template) =>
    (.ok (), { site with routes := Function.update site.routes i (some template) })
  | .getRoute => (.ok (site.routes i), site)
  | .perfCounter => (.ok w.now, site)
  | .check tenant =>
    let (limiter, decision) := site.limiter.check tenant 1 w.created w.now
    (.ok decision, { site with limiter := limiter })
  | .count method path status =>
    (.ok (), { site with
      requests := site.requests.inc 1 [("method", method), ("path", path), ("status", status)] })
  | .observe duration method path =>
    (.ok (), { site with
      duration := site.duration.observe ⟨duration, [("method", method), ("path", path)]⟩ })
  | .rejected reason => (.ok (), { site with rejected := site.rejected.inc 1 [("reason", reason)] })

/-- A call of request `i`. -/
def answer (i : ι) (w : Draw) (c : Cmd) : Option (Except Raised (Reply c) × Site ι) :=
  let (r, site) := site.reply i w c
  some (r, { site with log := site.log ++ [(i, ⟨c, r⟩)] })

/-- The calls of one request. -/
def traceOf (i : ι) : Trace Cmd Reply Raised :=
  (site.log.filter fun entry ↦ decide (entry.1 = i)).map Prod.snd

end Site

/-- All requests that ever come, before the first of them is taken up. -/
def start {ι : Type} (cfg : Config) (limiter : RateLimiter) (reqs : ι → Request)
    (messages : ι → List RequestMessage) (apps : ι → App) :
    Pool Cmd Reply Raised (fun _ : ι ↦ Unit) (Site ι) where
  state := { limiter := limiter, servers := fun i ↦ { pending := messages i } }
  threads i := stack cfg (reqs i) (apps i)

/-- A step of the request that is picked. -/
def step {ι : Type} [DecidableEq ι] :
    Pool Cmd Reply Raised (fun _ : ι ↦ Unit) (Site ι) → ι × Draw →
      Pool Cmd Reply Raised (fun _ : ι ↦ Unit) (Site ι) :=
  Pool.step fun site i w c ↦ site.answer i w c

/-! ## The layers by themselves -/

/-- The rate limit refuses what `RateLimitMiddleware.handle` refuses, and with its reply. -/
theorem handle_eq_tooManyRequests {l : RateLimiter} {scope : Scope} (h : Limited scope)
    (created now : ℚ) :
    (handle l scope created now).2 =
      if (l.check (resolveTenant scope) 1 created now).2.allowed then none
      else some (tooManyRequests (resolveTenant scope)
        (l.check (resolveTenant scope) 1 created now).2) := by
  have hgoes : ¬(scope.kind ≠ "http" ∨ isExempt scope.path = true) := by simp [h.1, h.2]
  rw [handle, if_neg hgoes]
  dsimp only
  split_ifs <;> rfl

/-- An application that does not look at its scope. -/
def ofAsgi : Asgi.App Raised → Layer
  | .ret a => .ret a
  | .raise e => .raise e
  | .call c k => .call (.app (.asgi c)) fun r ↦ ofAsgi (k r)

/-- The server of one request, alone. -/
def direct (s : SizeLimited) : (c : Cmd) → Except Raised (Reply c) × SizeLimited
  | .app (.asgi .receive) => (.ok s.server.receive.1, { s with server := s.server.receive.2 })
  | .app (.asgi (.send m)) => (.ok (), { s with server := s.server.send m })
  | .app (.setRoute _) => (.ok (), s)
  | .getRoute => (.ok none, s)
  | .perfCounter => (.ok (0 : ℚ), s)
  | .check tenant => (.ok (⟨true, 0, 0, tenant⟩ : RateLimitDecision), s)
  | .count _ _ _ => (.ok (), s)
  | .observe _ _ _ => (.ok (), s)
  | .rejected reason => (.ok (), { s with rejected := s.rejected ++ [reason] })

theorem alone_reject (maxBytes : ℤ) (reason : String) (s : SizeLimited) :
    alone direct (reject maxBytes reason) s =
      (.ok (), RequestSizeLimitMiddleware.reject maxBytes reason s) := rfl

theorem alone_ofAsgi (app : Asgi.App Raised) (s : SizeLimited)
    (t : Trace Asgi.Cmd Asgi.Reply Raised) :
    alone direct (ofAsgi app) s = ((exec RequestSizeLimitMiddleware.plain app s t).result,
      (exec RequestSizeLimitMiddleware.plain app s t).state) := by
  induction app generalizing s t with
  | ret a => rfl
  | raise e => rfl
  | call c k ih =>
    cases c with
    | receive => exact ih _ _ _
    | send m => exact ih _ _ _

/-- One message through the counter. -/
theorem alone_wrappedReceive_receive (maxBytes : ℤ) (received : ℕ) (m : RequestMessage)
    (rest : List RequestMessage) (sent : List Sent) (counted : ℕ) (rejected : List String) :
    alone direct (wrappedReceive maxBytes received (.app (.asgi .receive))) ⟨⟨m :: rest, sent⟩, counted, rejected⟩ =
      if maxBytes < ((received + m.size : ℕ) : ℤ) then
        (.ok (.ok .disconnect, received + m.size),
          RequestSizeLimitMiddleware.reject maxBytes "chunked_overflow"
            ⟨⟨rest, sent⟩, counted, rejected⟩)
      else (.ok (.ok (.request m), received + m.size), ⟨⟨rest, sent⟩, counted, rejected⟩) := by
  change alone direct (if maxBytes < ((received + m.size : ℕ) : ℤ) then _ else _) _ = _
  by_cases hover : maxBytes < ((received + m.size : ℕ) : ℤ)
  · rw [if_pos hover, if_pos hover]
    rfl
  · rw [if_neg hover, if_neg hover]
    rfl

/-- The bytes that are counted in the handler and in the state. -/
theorem alone_wrappedReceive (maxBytes : ℤ) (app : Asgi.App Raised) (received : ℕ)
    (s : SizeLimited) (t : Trace Asgi.Cmd Asgi.Reply Raised) :
    let outcome := exec (RequestSizeLimitMiddleware.counting maxBytes) app
      { s with received := received } t
    ∃ s', alone direct ((ofAsgi app).handle (wrappedReceive maxBytes) received) s =
        (.ok (outcome.result, outcome.state.received), s') ∧
      outcome.state = { s' with received := outcome.state.received } := by
  induction app generalizing received s t with
  | ret a => exact ⟨s, rfl, rfl⟩
  | raise e => exact ⟨s, rfl, rfl⟩
  | call c k ih =>
    cases c with
    | send m => exact ih (.ok ()) received { s with server := s.server.send m } _
    | receive =>
      obtain ⟨⟨pending, sent⟩, counted, rejected⟩ := s
      cases pending with
      | nil => exact ih (.ok .disconnect) received ⟨⟨[], sent⟩, counted, rejected⟩ _
      | cons m rest =>
        rw [ofAsgi, alone_handle_call]
        have hone := alone_wrappedReceive_receive maxBytes received m rest sent counted rejected
        rw [hone]
        dsimp only [exec, RequestSizeLimitMiddleware.counting, Server.receive]
        by_cases hover : maxBytes < ((received + m.size : ℕ) : ℤ)
        · rw [if_pos hover, if_pos hover]
          exact ih (.ok .disconnect) (received + m.size) (RequestSizeLimitMiddleware.reject maxBytes
            "chunked_overflow" ⟨⟨rest, sent⟩, counted, rejected⟩) _
        · rw [if_neg hover, if_neg hover]
          exact ih (.ok (.request m)) (received + m.size) ⟨⟨rest, sent⟩, counted, rejected⟩ _

/-- **The same cap.** Alone with its server, an application inside the layer ends as it does inside
`RequestSizeLimitMiddleware.call`. -/
theorem requestSizeLimit_refines (maxBytes : ℤ) (scope : Scope) (app : Asgi.App Raised)
    (s : SizeLimited) (hs : s.received = 0) :
    let outcome := RequestSizeLimitMiddleware.call maxBytes scope.kind scope.headers app s
    ∃ s', alone direct (requestSizeLimit maxBytes scope (ofAsgi app)) s = (outcome.result, s') ∧
      outcome.state = { s' with received := outcome.state.received } := by
  dsimp only
  rw [requestSizeLimit, RequestSizeLimitMiddleware.call]
  have hplain : ∃ s', alone direct (ofAsgi app) s =
      ((exec RequestSizeLimitMiddleware.plain app s []).result, s') ∧
        (exec RequestSizeLimitMiddleware.plain app s []).state =
          { s' with received := (exec RequestSizeLimitMiddleware.plain app s []).state.received } :=
    ⟨_, alone_ofAsgi app s [], rfl⟩
  by_cases hkind : scope.kind = "http"
  · rw [if_neg (not_not_intro hkind), if_neg (not_not_intro hkind)]
    cases hlength : RequestSizeLimitMiddleware.contentLength scope.headers with
    | some length =>
      dsimp only
      by_cases hlong : maxBytes < length
      · rw [if_pos hlong, if_pos hlong]
        exact ⟨_, alone_reject maxBytes "content_length" s, rfl⟩
      · rw [if_neg hlong, if_neg hlong]
        exact hplain
    | none =>
      obtain ⟨s', hrun, hstate⟩ := alone_wrappedReceive maxBytes app 0 s []
      have hstart : ({ s with received := 0 } : SizeLimited) = s := by
        rw [← hs]
      rw [hstart] at hrun hstate
      refine ⟨s', ?_, hstate⟩
      rw [alone_bind, hrun]
      cases (exec (RequestSizeLimitMiddleware.counting maxBytes) app s []).result <;> rfl
  · rw [if_pos hkind, if_pos hkind]
    exact hplain

end HttpStack

end Orchestra
