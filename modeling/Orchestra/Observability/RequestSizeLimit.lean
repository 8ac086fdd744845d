import Mathlib.Algebra.BigOperators.Group.List.Basic
import Mathlib.Algebra.GroupWithZero.Nat
import Orchestra.Core.Text
import Orchestra.Foundation.Program

/-!
# The cap on request bodies

An ASGI application is a program that calls `receive` and `send`. The middleware stands between it
and the server. A `Content-Length` above the cap is refused before the application is called. When
no length is declared the middleware answers the application's `receive` itself and counts what it
hands on; past the cap it sends the refusal and answers `http.disconnect`. A declared length up to
the cap is believed, and the application then talks to the server directly.

Both ways of talking to the server are machines, and what an application can see and send is read
off an invariant of each (`plain_invariant`, `counting_invariant`).
-/

namespace Orchestra

open Interaction

abbrev Bytes := List UInt8

/-- `text.encode("utf-8")`. -/
def encodeUtf8 (text : String) : Bytes := text.toUTF8.toList

/-- `value.decode("ascii")`, or `none` for a `UnicodeDecodeError`. -/
def decodeAscii (value : Bytes) : Option String :=
  if value.all fun b ↦ decide (b < 128) then
    some (String.ofList (value.map fun b ↦ Char.ofNat b.toNat))
  else none

namespace Asgi

/-- An `http.request` message. -/
structure RequestMessage where
  body : Option Bytes
  moreBody : Bool

/-- `len(message.get("body", b"") or b"")`. -/
def RequestMessage.size (m : RequestMessage) : ℕ := (m.body.getD []).length

/-- What `receive` answers. -/
inductive Received where
  | request (m : RequestMessage)
  | disconnect

/-- What is passed to `send`. -/
inductive Sent where
  | start (status : ℕ) (headers : List (Bytes × Bytes))
  | body (chunk : Bytes) (moreBody : Bool)

def Sent.isStart : Sent → Bool
  | .start _ _ => true
  | .body _ _ => false

inductive Cmd where
  | receive
  | send (m : Sent)

abbrev Reply : Cmd → Type
  | .receive => Received
  | .send _ => Unit

/-- An application, for one scope. -/
abbrev App (ε : Type) := Program Cmd Reply ε Unit

/-- The server's side of one request: the messages it has not delivered yet, and what was sent to
it. -/
structure Server where
  pending : List RequestMessage
  sent : List Sent := []

/-- The client is gone once its messages are delivered. -/
def Server.receive (s : Server) : Received × Server :=
  match s.pending with
  | [] => (.disconnect, s)
  | m :: rest => (.request m, { s with pending := rest })

def Server.send (s : Server) (m : Sent) : Server := { s with sent := s.sent ++ [m] }

/-- The body bytes of a sequence of messages. -/
def totalSize (messages : List RequestMessage) : ℕ := (messages.map RequestMessage.size).sum

def starts (sent : List Sent) : ℕ := sent.countP Sent.isStart

variable {ε : Type}

/-- The body bytes that one call brings the application. -/
def bytesOf : Step Cmd Reply ε → ℕ
  | ⟨.receive, .ok (.request m)⟩ => m.size
  | _ => 0

/-- The body bytes that an application received. -/
def bytesReceived (t : Trace Cmd Reply ε) : ℕ := (t.map bytesOf).sum

/-- What one call sends. -/
def sent? : Step Cmd Reply ε → Option Sent
  | ⟨.send m, _⟩ => some m
  | ⟨.receive, _⟩ => none

/-- What an application sent. -/
def sentBy (t : Trace Cmd Reply ε) : List Sent := t.filterMap sent?

/-- Whatever its calls are answered, the application starts at most `n` responses. -/
def startsAtMost : ℕ → App ε → Prop
  | _, .ret _ => True
  | _, .raise _ => True
  | n, .call .receive k => ∀ r, startsAtMost n (k r)
  | n, .call (.send (.body _ _)) k => ∀ r, startsAtMost n (k r)
  | 0, .call (.send (.start _ _)) _ => False
  | n + 1, .call (.send (.start _ _)) k => ∀ r, startsAtMost n (k r)

end Asgi

open Asgi

/-- One request inside the middleware. -/
structure SizeLimited where
  server : Server
  /-- The bytes that the wrapped `receive` has counted. -/
  received : ℕ := 0
  /-- The reasons that `orchestra_request_size_rejected_total` was incremented with. -/
  rejected : List String := []

namespace RequestSizeLimitMiddleware

variable (maxBytes : ℤ) {ε : Type}

/-- `json.dumps` of the refusal. -/
def rejection (reason : String) : Bytes :=
  encodeUtf8 ("\x7b\"error\": \"payload_too_large\", \"reason\": \"" ++ reason ++
    "\", \"max_bytes\": " ++ toString maxBytes ++ "\x7d")

/-- `_reject`. -/
def reject (reason : String) (s : SizeLimited) : SizeLimited :=
  let body := rejection maxBytes reason
  { s with
    rejected := s.rejected ++ [reason]
    server := (s.server.send (.start 413
      [(encodeUtf8 "content-type", encodeUtf8 "application/json"),
        (encodeUtf8 "content-length", encodeUtf8 (toString body.length))])).send (.body body false) }

/-- The declared length: the first `content-length` header, if it is a number. -/
def contentLength (headers : List (Bytes × Bytes)) : Option ℤ :=
  match headers.find? fun h ↦ decide (h.1 = encodeUtf8 "content-length") with
  | none => none
  | some (_, value) => (decodeAscii value).bind fun text ↦ pyInt (pyStrip text)

/-- The server's own `receive` and `send`. -/
def plain : Machine Cmd Reply ε SizeLimited := fun s _ c ↦
  match c with
  | .receive =>
    let (message, server) := s.server.receive
    (.ok message, { s with server := server })
  | .send m => (.ok (), { s with server := s.server.send m })

/-- `wrapped_receive`, with the server's own `send`. -/
def counting : Machine Cmd Reply ε SizeLimited := fun s _ c ↦
  match c with
  | .receive =>
    match s.server.receive with
    | (.disconnect, server) => (.ok .disconnect, { s with server := server })
    | (.request m, server) =>
      let received := s.received + m.size
      if maxBytes < received then
        (.ok .disconnect,
          reject maxBytes "chunked_overflow" { s with server := server, received := received })
      else (.ok (.request m), { s with server := server, received := received })
  | .send m => (.ok (), { s with server := s.server.send m })

/-- `__call__`; the trace of the outcome is what the application saw and sent. -/
def call (scopeType : String) (headers : List (Bytes × Bytes)) (app : App ε) (s : SizeLimited) :
    Outcome Cmd Reply ε Unit SizeLimited :=
  if scopeType ≠ "http" then exec plain app s []
  else
    match contentLength headers with
    | some length =>
      if maxBytes < length then ⟨.ok (), reject maxBytes "content_length" s, []⟩
      else exec plain app s []
    | none => exec (counting maxBytes) app s []

/-- The request that a client sends, served to an application behind the middleware. -/
def serve (headers : List (Bytes × Bytes)) (messages : List RequestMessage) (app : App ε) :
    Outcome Cmd Reply ε Unit SizeLimited :=
  call maxBytes "http" headers app { server := { pending := messages } }

/-- No application receives more than the cap, and none that starts at most one response has the
server see two of them. -/
def CapHolds (ε : Type) (headers : List (Bytes × Bytes)) (messages : List RequestMessage) : Prop :=
  ∀ app : App ε,
    (bytesReceived (serve maxBytes headers messages app).trace : ℤ) ≤ maxBytes ∧
      (startsAtMost 1 app → starts (serve maxBytes headers messages app).state.server.sent ≤ 1)

end RequestSizeLimitMiddleware

namespace Asgi

variable {ε : Type} {t : Trace Cmd Reply ε}

theorem bytesReceived_concat (step : Step Cmd Reply ε) :
    bytesReceived (t ++ [step]) = bytesReceived t + bytesOf step := by
  rw [bytesReceived, List.map_append, List.sum_append, List.map_singleton, List.sum_singleton]
  rfl

theorem sentBy_concat_receive (r : Except ε Received) :
    sentBy (t ++ [⟨.receive, r⟩]) = sentBy t :=
  List.filterMap_append.trans (List.append_nil _)

theorem sentBy_concat_send (m : Sent) (r : Except ε Unit) :
    sentBy (t ++ [⟨.send m, r⟩]) = sentBy t ++ [m] :=
  List.filterMap_append

theorem starts_concat (sent : List Sent) (m : Sent) :
    starts (sent ++ [m]) = starts sent + if m.isStart then 1 else 0 := by
  rw [starts, List.countP_append, List.countP_singleton]
  rfl

/-- What an application may start bounds what it starts in every run. -/
theorem starts_exec_le {σ : Type} {m : Machine Cmd Reply ε σ} {app : App ε} {n : ℕ}
    (h : startsAtMost n app) (s : σ) (t : Trace Cmd Reply ε) :
    starts (sentBy (exec m app s t).trace) ≤ starts (sentBy t) + n := by
  induction app generalizing n s t with
  | ret a => exact Nat.le_add_right _ _
  | raise e => exact Nat.le_add_right _ _
  | call c k ih =>
    rw [exec]
    cases c with
    | receive =>
      have hrest := ih (m s t .receive).1 (h _) (m s t .receive).2
        (t ++ [⟨.receive, (m s t .receive).1⟩])
      rwa [sentBy_concat_receive] at hrest
    | send message =>
      cases message with
      | body chunk moreBody =>
        have hrest := ih (m s t (.send (.body chunk moreBody))).1 (h _)
          (m s t (.send (.body chunk moreBody))).2
          (t ++ [⟨.send (.body chunk moreBody), (m s t (.send (.body chunk moreBody))).1⟩])
        rwa [sentBy_concat_send, starts_concat] at hrest
      | start status headers =>
        cases n with
        | zero => exact absurd h id
        | succ n =>
          have hrest := ih (m s t (.send (.start status headers))).1 (h _)
            (m s t (.send (.start status headers))).2
            (t ++ [⟨.send (.start status headers), (m s t (.send (.start status headers))).1⟩])
          rw [sentBy_concat_send, starts_concat] at hrest
          rwa [Nat.add_comm n 1, ← Nat.add_assoc]

theorem starts_exec_nil_le {σ : Type} {m : Machine Cmd Reply ε σ} {app : App ε} {n : ℕ}
    (h : startsAtMost n app) (s : σ) : starts (sentBy (exec m app s []).trace) ≤ n :=
  (starts_exec_le h s []).trans_eq (Nat.zero_add n)

/-! ### The application that reads everything and then answers -/

/-- Reads `n` messages and answers with status 200. -/
def readThenAnswer : ℕ → App ε
  | 0 => .call (.send (.start 200 [])) fun _ ↦ .ret ()
  | n + 1 => .call .receive fun _ ↦ readThenAnswer n

theorem readThenAnswer_startsAtMost (n : ℕ) : startsAtMost 1 (readThenAnswer n : App ε) := by
  induction n with
  | zero => exact fun _ ↦ trivial
  | succ n ih => exact fun _ ↦ ih

end Asgi

namespace RequestSizeLimitMiddleware

variable {maxBytes : ℤ} {ε : Type} {s : SizeLimited} {t : Trace Cmd Reply ε}

/-- A refusal starts a response. -/
theorem starts_reject (reason : String) :
    starts (reject maxBytes reason s).server.sent = starts s.server.sent + 1 := by
  rw [reject, Server.send, Server.send, starts_concat, starts_concat]
  rfl

/-! ## What each machine keeps -/

/-- The server delivers its messages once, and is sent what the application sends. -/
structure Relayed (total : ℕ) (s : SizeLimited) (t : Trace Cmd Reply ε) : Prop where
  bytes_add_pending : bytesReceived t + totalSize s.server.pending = total
  sent_eq : s.server.sent = sentBy t

theorem plain_invariant {total : ℕ} (app : App ε) (h : Relayed total s t) :
    Relayed total (exec plain app s t).state (exec plain app s t).trace := by
  refine exec_invariant (I := Relayed total) ?_ app h
  intro s t c h
  cases c with
  | receive =>
    refine ⟨?_, ?_⟩
    · rw [bytesReceived_concat, ← h.bytes_add_pending]
      rcases hp : s.server.pending with _ | ⟨m, rest⟩
      · simp [plain, Server.receive, hp, bytesOf]
      · simp [plain, Server.receive, hp, bytesOf, totalSize, Nat.add_assoc]
    · rw [sentBy_concat_receive, ← h.sent_eq]
      rcases hp : s.server.pending with _ | ⟨m, rest⟩ <;> simp [plain, Server.receive, hp]
  | send m =>
    refine ⟨?_, ?_⟩
    · rw [bytesReceived_concat]
      exact h.bytes_add_pending
    · rw [sentBy_concat_send, ← h.sent_eq]
      rfl

/-- The application receives at most what is counted and at most the cap, and while the count is
within the cap the server is sent what the application sends. -/
structure Counted (maxBytes : ℤ) (total : ℕ) (s : SizeLimited) (t : Trace Cmd Reply ε) :
    Prop where
  count_add_pending : s.received + totalSize s.server.pending = total
  bytes_le_count : bytesReceived t ≤ s.received
  bytes_le_cap : (bytesReceived t : ℤ) ≤ maxBytes
  sent_eq : (s.received : ℤ) ≤ maxBytes → s.server.sent = sentBy t

section Receive

variable {m : RequestMessage} {rest : List RequestMessage}

theorem counting_receive_nil (hp : s.server.pending = []) :
    counting maxBytes s t .receive = (.ok .disconnect, s) := by
  rw [counting, Server.receive, hp]

/-- A message within the cap is handed on. -/
theorem counting_receive_within (hp : s.server.pending = m :: rest)
    (h : ¬maxBytes < (s.received + m.size : ℕ)) : counting maxBytes s t .receive =
      (.ok (.request m), { s with
        server := { s.server with pending := rest }, received := s.received + m.size }) := by
  rw [counting, Server.receive, hp]
  exact if_neg h

/-- A message past the cap is not handed on, and is answered with a refusal. -/
theorem counting_receive_over (hp : s.server.pending = m :: rest)
    (h : maxBytes < (s.received + m.size : ℕ)) : counting maxBytes s t .receive =
      (.ok .disconnect, reject maxBytes "chunked_overflow" { s with
        server := { s.server with pending := rest }, received := s.received + m.size }) := by
  rw [counting, Server.receive, hp]
  exact if_pos h

theorem totalSize_cons : totalSize (m :: rest) = m.size + totalSize rest := by
  rw [totalSize, List.map_cons, List.sum_cons, totalSize]

end Receive

theorem counting_invariant {total : ℕ} (app : App ε) (h : Counted maxBytes total s t) :
    Counted maxBytes total (exec (counting maxBytes) app s t).state
      (exec (counting maxBytes) app s t).trace := by
  refine exec_invariant (I := Counted maxBytes total) ?_ app h
  intro s t c h
  cases c with
  | receive =>
    rcases hp : s.server.pending with _ | ⟨m, rest⟩
    · rw [counting_receive_nil hp]
      refine ⟨h.count_add_pending, ?_, ?_, ?_⟩
      · rw [bytesReceived_concat]
        exact h.bytes_le_count
      · rw [bytesReceived_concat]
        exact h.bytes_le_cap
      · rw [sentBy_concat_receive]
        exact h.sent_eq
    · have hcount : s.received + m.size + totalSize rest = total := by
        rw [← h.count_add_pending, hp, totalSize_cons, Nat.add_assoc]
      by_cases hover : maxBytes < (s.received + m.size : ℕ)
      · rw [counting_receive_over hp hover]
        refine ⟨hcount, ?_, ?_, fun hle ↦ absurd hover (not_lt.mpr hle)⟩
        · rw [bytesReceived_concat]
          exact h.bytes_le_count.trans (Nat.le_add_right _ _)
        · rw [bytesReceived_concat]
          exact h.bytes_le_cap
      · rw [counting_receive_within hp hover]
        have hbytes : bytesReceived t + m.size ≤ s.received + m.size :=
          Nat.add_le_add_right h.bytes_le_count _
        refine ⟨hcount, ?_, ?_, fun hle ↦ ?_⟩
        · rw [bytesReceived_concat]
          exact hbytes
        · rw [bytesReceived_concat]
          exact (Int.ofNat_le.mpr hbytes).trans (not_lt.mp hover)
        · rw [sentBy_concat_receive]
          refine h.sent_eq (le_trans ?_ hle)
          exact Int.ofNat_le.mpr (Nat.le_add_right _ _)
  | send m =>
    refine ⟨h.count_add_pending, ?_, ?_, ?_⟩
    · rw [bytesReceived_concat]
      exact h.bytes_le_count
    · rw [bytesReceived_concat]
      exact h.bytes_le_cap
    · intro hle
      rw [sentBy_concat_send, ← h.sent_eq hle]
      rfl

/-! ## The application that reads everything -/

theorem bytesReceived_exec_plain_read (s : SizeLimited) (t : Trace Cmd Reply ε) :
    bytesReceived (exec plain (readThenAnswer s.server.pending.length) s t).trace =
      bytesReceived t + totalSize s.server.pending := by
  induction hp : s.server.pending generalizing s t with
  | nil =>
    rw [List.length_nil, readThenAnswer, exec, exec, bytesReceived_concat]
    rfl
  | cons m rest ih =>
    have hanswer : (plain s t .receive : Except ε Received × SizeLimited) =
        (.ok (.request m), { s with server := { s.server with pending := rest } }) := by
      rw [plain, Server.receive, hp]
    rw [List.length_cons, readThenAnswer, exec, hanswer, ih _ _ rfl, bytesReceived_concat,
      totalSize_cons, Nat.add_assoc]
    rfl

theorem starts_le_counting_receive :
    starts s.server.sent ≤ starts (counting maxBytes s t .receive).2.server.sent := by
  rcases hp : s.server.pending with _ | ⟨m, rest⟩
  · rw [counting_receive_nil hp]
  · by_cases hover : maxBytes < (s.received + m.size : ℕ)
    · rw [counting_receive_over hp hover, starts_reject]
      exact Nat.le_succ _
    · rw [counting_receive_within hp hover]

theorem starts_exec_readThenAnswer (n : ℕ) (s : SizeLimited) (t : Trace Cmd Reply ε) :
    starts s.server.sent + 1 ≤
      starts (exec (counting maxBytes) (readThenAnswer n) s t).state.server.sent := by
  induction n generalizing s t with
  | zero =>
    rw [readThenAnswer, exec, exec, counting, Server.send, starts_concat]
    rfl
  | succ n ih =>
    rw [readThenAnswer, exec]
    exact (Nat.add_le_add_right starts_le_counting_receive 1).trans (ih _ _)

/-- Past the cap the middleware answers, and then the application does. -/
theorem starts_exec_readThenAnswer_of_over (s : SizeLimited) (t : Trace Cmd Reply ε)
    (hle : (s.received : ℤ) ≤ maxBytes)
    (hover : maxBytes < (s.received + totalSize s.server.pending : ℕ)) :
    starts s.server.sent + 2 ≤ starts (exec (counting maxBytes)
      (readThenAnswer s.server.pending.length) s t).state.server.sent := by
  induction hp : s.server.pending generalizing s t with
  | nil =>
    rw [hp] at hover
    exact absurd hover (not_lt.mpr hle)
  | cons m rest ih =>
    rw [List.length_cons, readThenAnswer, exec]
    by_cases hfirst : maxBytes < (s.received + m.size : ℕ)
    · rw [counting_receive_over hp hfirst]
      refine le_trans ?_ (starts_exec_readThenAnswer _ _ _)
      rw [starts_reject]
    · rw [counting_receive_within hp hfirst]
      rw [hp, totalSize_cons, ← Nat.add_assoc] at hover
      exact ih { s with
        server := { s.server with pending := rest }, received := s.received + m.size } _
        (not_lt.mp hfirst) hover rfl

/-! ## The cap -/

variable {headers : List (Bytes × Bytes)} {messages : List RequestMessage}

theorem serve_of_declared {app : App ε} {length : ℤ} (h : contentLength headers = some length) :
    serve maxBytes headers messages app =
      if maxBytes < length then
        ⟨.ok (), reject maxBytes "content_length" { server := { pending := messages } }, []⟩
      else exec plain app { server := { pending := messages } } [] := by
  rw [serve, call, if_neg (not_not.mpr rfl), h]

theorem serve_of_undeclared {app : App ε} (h : contentLength headers = none) :
    serve maxBytes headers messages app =
      exec (counting maxBytes) app { server := { pending := messages } } [] := by
  rw [serve, call, if_neg (not_not.mpr rfl), h]

theorem relayed_start (messages : List RequestMessage) :
    Relayed (totalSize messages) { server := { pending := messages } } ([] : Trace Cmd Reply ε) :=
  ⟨Nat.zero_add _, rfl⟩

theorem counted_start (hmax : 0 ≤ maxBytes) (messages : List RequestMessage) :
    Counted maxBytes (totalSize messages) { server := { pending := messages } }
      ([] : Trace Cmd Reply ε) :=
  ⟨Nat.zero_add _, le_rfl, hmax, fun _ ↦ rfl⟩

/-- **Counting keeps the cap on what is received**, whatever the client sends. -/
theorem bytesReceived_le_of_undeclared (hmax : 0 ≤ maxBytes)
    (h : contentLength headers = none) (app : App ε) :
    (bytesReceived (serve maxBytes headers messages app).trace : ℤ) ≤ maxBytes := by
  rw [serve_of_undeclared h]
  exact (counting_invariant app (counted_start hmax messages)).bytes_le_cap

/-- **The cap on request bodies** holds for a cap that is not negative, and for a request whose
first declared length is above the cap or whose bodies are within it. A declared length is not
checked against the bodies, and a refusal from within `receive` does not keep the application from
answering as well. -/
theorem capHolds_iff (maxBytes : ℤ) (headers : List (Bytes × Bytes))
    (messages : List RequestMessage) : CapHolds maxBytes ε headers messages ↔
      0 ≤ maxBytes ∧ ((∃ length, contentLength headers = some length ∧ maxBytes < length) ∨
        (totalSize messages : ℤ) ≤ maxBytes) := by
  constructor
  · intro h
    have hmax : 0 ≤ maxBytes := (Int.natCast_nonneg _).trans (h (.ret ())).1
    refine ⟨hmax, or_iff_not_imp_left.mpr fun hsmall ↦ ?_⟩
    obtain ⟨hbytes, hstarts⟩ := h (readThenAnswer messages.length)
    cases hlength : contentLength headers with
    | some length =>
      have hnot : ¬maxBytes < length := fun hlt ↦ hsmall ⟨length, hlength, hlt⟩
      rw [serve_of_declared hlength, if_neg hnot] at hbytes
      rw [bytesReceived_exec_plain_read { server := { pending := messages } }] at hbytes
      simpa [bytesReceived] using hbytes
    | none =>
      by_contra hover
      have hone := hstarts (readThenAnswer_startsAtMost _)
      rw [serve_of_undeclared hlength] at hone
      have htwo := starts_exec_readThenAnswer_of_over { server := { pending := messages } }
        ([] : Trace Cmd Reply ε) hmax (by simpa using hover)
      exact absurd (htwo.trans hone) (Nat.lt_irrefl 1)
  · rintro ⟨hmax, hrequest⟩ app
    cases hlength : contentLength headers with
    | some length =>
      rw [serve_of_declared hlength]
      split_ifs with hlt
      · exact ⟨hmax, fun _ ↦ (starts_reject _).le⟩
      · have hwithin : (totalSize messages : ℤ) ≤ maxBytes := by
          refine hrequest.resolve_left ?_
          rintro ⟨length', hlength', hlt'⟩
          obtain rfl : length = length' := Option.some.inj (hlength.symm.trans hlength')
          exact hlt hlt'
        have hrelayed := plain_invariant app (relayed_start messages)
        refine ⟨le_trans ?_ hwithin, fun happ ↦ ?_⟩
        · exact Int.ofNat_le.mpr (Nat.le.intro hrelayed.bytes_add_pending)
        · rw [hrelayed.sent_eq]
          exact starts_exec_nil_le happ _
    | none =>
      refine ⟨bytesReceived_le_of_undeclared hmax hlength app, fun happ ↦ ?_⟩
      have hwithin : (totalSize messages : ℤ) ≤ maxBytes := by
        refine hrequest.resolve_left ?_
        rintro ⟨length, hsome, -⟩
        exact Option.some_ne_none _ (hsome.symm.trans hlength)
      rw [serve_of_undeclared hlength]
      have hcounted := counting_invariant app (counted_start hmax messages)
      have hcount := Nat.le.intro hcounted.count_add_pending
      rw [hcounted.sent_eq ((Int.ofNat_le.mpr hcount).trans hwithin)]
      exact starts_exec_nil_le happ _

/-- One body of eleven bytes under a cap of ten: with no declared length the refusal and the
application's answer both start a response, and with a declared length of one the application
receives all of it. -/
theorem not_capHolds_eleven_bytes :
    let messages := [RequestMessage.mk (some (List.replicate 11 97)) false]
    ¬CapHolds 10 Unit [] messages ∧
      ¬CapHolds 10 Unit [(encodeUtf8 "content-length", encodeUtf8 "1")] messages := by
  intro messages
  constructor
  · intro h
    have hone := (h (readThenAnswer 1)).2 fun _ ↦ fun _ ↦ trivial
    exact absurd hone (by decide +kernel)
  · intro h
    exact absurd (h (readThenAnswer 1)).1 (by decide +kernel)

end RequestSizeLimitMiddleware

end Orchestra
