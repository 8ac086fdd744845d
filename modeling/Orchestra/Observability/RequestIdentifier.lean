import Orchestra.Observability.RequestCount

/-!
# Which responses carry an identifier

The layer of the request identifier puts a header on the response it sees. It is the innermost one,
so the two refusals, which come from layers further out, go without it: a client that is told to wait
or that its body is too large cannot name the request (`responses_identified`).
-/

namespace Orchestra

open Interaction Asgi RateLimitMiddleware

namespace HttpStack

/-- The header of the identifier is the last one. -/
def Stamped (req : Request) (headers : List (Bytes × Bytes)) : Prop :=
  ∃ rid own, requestIdOf req = .ok rid ∧
    headers = own ++ [(encodeUtf8 "x-request-id", encodeUtf8 rid)]

/-- The headers of a refusal, all of them. -/
def Bare (status : ℕ) (headers : List (Bytes × Bytes)) : Prop :=
  (∃ length seconds, status = 429 ∧ headers =
      [(encodeUtf8 "content-type", encodeUtf8 "application/json"),
        (encodeUtf8 "content-length", encodeUtf8 length),
        (encodeUtf8 "retry-after", encodeUtf8 seconds)]) ∨
    ∃ length, status = 413 ∧ headers =
      [(encodeUtf8 "content-type", encodeUtf8 "application/json"),
        (encodeUtf8 "content-length", encodeUtf8 length)]

/-- If the call begins a response, the response carries the identifier. -/
def StampedCall (req : Request) (c : AppCmd) : Prop :=
  ∀ status headers, c = .asgi (.send (.start status headers)) → Stamped req headers

/-- If the call begins a response, the response carries the identifier or is a refusal. -/
def Identified (req : Request) (c : Cmd) : Prop :=
  ∀ status headers, c = send (.start status headers) → Stamped req headers ∨ Bare status headers

section Layers

variable {req : Request}

/-- A call that begins no response. -/
theorem Identified.of_ne {c : Cmd} (h : ∀ status headers, c ≠ send (.start status headers)) :
    Identified req c :=
  fun status headers heq ↦ absurd heq (h status headers)

theorem StampedCall.identified {c : AppCmd} (h : StampedCall req c) : Identified req (.app c) :=
  fun status headers heq ↦ .inl (h status headers (Cmd.app.inj heq))

theorem calls_sendWithHeader {rid : String} (hrid : requestIdOf req = .ok rid) (s : Unit)
    (c : AppCmd) : Calls (StampedCall req) (sendWithHeader rid s c) := by
  have hother (hc : ∀ status headers, c ≠ .asgi (.send (.start status headers))) :
      Calls (StampedCall req) (do
        let reply ← (Program.perform c : Program AppCmd AppReply Raised (AppReply c)).attempt
        return (reply, ())) :=
    (Calls.attempt (calls_perform.mpr fun status headers heq ↦
      absurd heq (hc status headers))).bind fun _ ↦ calls_pure _
  cases c with
  | setRoute template => exact hother fun _ _ ↦ AppCmd.noConfusion
  | asgi c =>
    cases c with
    | receive => exact hother (by rintro _ _ ⟨⟩)
    | send m =>
      cases m with
      | body chunk moreBody => exact hother (by rintro _ _ ⟨⟩)
      | start status headers =>
        refine Calls.bind (Calls.attempt (calls_perform.mpr ?_)) fun _ ↦ calls_pure _
        rintro status' headers' ⟨⟩
        exact ⟨rid, headers, hrid, rfl⟩

/-- The layer of the identifier stamps every response of the application. -/
theorem calls_requestId (hkind : req.scope.kind = "http") (app : App) :
    Calls (StampedCall req) (requestId req app) := by
  rw [requestId, if_neg (not_not_intro hkind)]
  cases hrid : requestIdOf req with
  | error e => exact calls_raise e
  | ok rid =>
    exact (Calls.handle (fun s c _ ↦ calls_sendWithHeader hrid s c) (calls_true app) ()).bind
      fun _ ↦ calls_ofExcept _

theorem calls_sendWrapper (captured : ℕ) (c : AppCmd) (hc : StampedCall req c) :
    Calls (Identified req) (sendWrapper captured c) := by
  have hother : Calls (Identified req) (do
      let reply ← (Program.perform (R := Reply) (.app c) : Program Cmd Reply Raised _).attempt
      return (reply, captured)) :=
    (Calls.attempt (calls_perform.mpr hc.identified)).bind fun _ ↦ calls_pure _
  cases c with
  | setRoute template => exact hother
  | asgi c =>
    cases c with
    | receive => exact hother
    | send m =>
      cases m with
      | body chunk moreBody => exact hother
      | start status headers =>
        exact (Calls.attempt (calls_perform.mpr hc.identified)).bind fun _ ↦ calls_pure _

theorem calls_httpMetrics (hkind : req.scope.kind = "http") {app : App}
    (happ : Calls (StampedCall req) app) : Calls (Identified req) (httpMetrics req app) := by
  rw [httpMetrics, if_neg (not_not_intro hkind)]
  refine (calls_perform.mpr (.of_ne fun _ _ ↦ Cmd.noConfusion)).bind fun start ↦ ?_
  refine (Calls.handle calls_sendWrapper happ 500).bind fun result ↦ ?_
  refine (calls_perform.mpr (.of_ne fun _ _ ↦ Cmd.noConfusion)).bind fun stop ↦ ?_
  refine (calls_perform.mpr (.of_ne fun _ _ ↦ Cmd.noConfusion)).bind fun route ↦ ?_
  refine (calls_perform.mpr (.of_ne fun _ _ ↦ Cmd.noConfusion)).bind fun _ ↦ ?_
  refine (calls_perform.mpr (.of_ne fun _ _ ↦ Cmd.noConfusion)).bind fun _ ↦ ?_
  exact calls_ofExcept _

/-- A response and its body. -/
theorem calls_respond {status : ℕ} {headers : List (Bytes × Bytes)} (hbare : Bare status headers)
    (body : Bytes) : Calls (Identified req) (do
      Program.perform (send (.start status headers))
      Program.perform (send (.body body false)) : Layer) := by
  refine (calls_perform.mpr ?_).bind fun _ ↦ calls_perform.mpr (.of_ne (by rintro _ _ ⟨⟩))
  rintro status' headers' ⟨⟩
  exact .inr hbare

theorem calls_rateLimit {inner : Layer} (hinner : Calls (Identified req) inner) :
    Calls (Identified req) (rateLimit req.scope inner) := by
  rw [rateLimit]
  split_ifs
  · exact hinner
  · refine (calls_perform.mpr (.of_ne fun _ _ ↦ Cmd.noConfusion)).bind fun decision ↦ ?_
    split_ifs
    · exact hinner
    · exact calls_respond (.inl ⟨_, _, rfl, rfl⟩) _

theorem calls_reject (maxBytes : ℤ) (reason : String) :
    Calls (Identified req) (reject maxBytes reason) :=
  (calls_perform.mpr (.of_ne fun _ _ ↦ Cmd.noConfusion)).bind fun _ ↦
    calls_respond (.inr ⟨_, rfl, rfl⟩) _

theorem calls_wrappedReceive (maxBytes : ℤ) (received : ℕ) (c : Cmd) (hc : Identified req c) :
    Calls (Identified req) (wrappedReceive maxBytes received c) := by
  have hother : Calls (Identified req) (do
      let reply ← (Program.perform c : Program Cmd Reply Raised (Reply c)).attempt
      return (reply, received)) :=
    (Calls.attempt (calls_perform.mpr hc)).bind fun _ ↦ calls_pure _
  cases c with
  | app c =>
    cases c with
    | setRoute template => exact hother
    | asgi c =>
      cases c with
      | send m => exact hother
      | receive =>
        refine (Calls.attempt (calls_perform.mpr hc)).bind fun reply ↦ ?_
        match reply with
        | .error e => exact calls_pure _
        | .ok .disconnect => exact calls_pure _
        | .ok (.request m) =>
          dsimp only
          split_ifs
          · refine (Calls.attempt (calls_reject maxBytes "chunked_overflow")).bind fun refused ↦ ?_
            cases refused <;> exact calls_pure _
          · exact calls_pure _
  | getRoute => exact hother
  | perfCounter => exact hother
  | check tenant => exact hother
  | count method path status => exact hother
  | observe duration method path => exact hother
  | rejected reason => exact hother

theorem calls_requestSizeLimit (maxBytes : ℤ) {inner : Layer}
    (hinner : Calls (Identified req) inner) :
    Calls (Identified req) (requestSizeLimit maxBytes req.scope inner) := by
  rw [requestSizeLimit]
  split_ifs
  · exact hinner
  · split
    · split_ifs
      · exact calls_reject _ _
      · exact hinner
    · exact (Calls.handle (calls_wrappedReceive maxBytes) hinner 0).bind fun _ ↦ calls_ofExcept _

/-- Whatever the application does, a response that leaves the stack is stamped or a refusal. -/
theorem calls_stack (cfg : Config) (hkind : req.scope.kind = "http") (app : App) :
    Calls (Identified req) (stack cfg req app) := by
  have hinner := calls_httpMetrics hkind (calls_requestId hkind app)
  rw [stack]
  refine calls_requestSizeLimit _ ?_
  split_ifs
  · exact calls_rateLimit hinner
  · exact hinner

end Layers

/-! ## A site -/

variable {ι : Type} [DecidableEq ι]

theorem log_reply (site : Site ι) (i : ι) (w : Draw) (c : Cmd) :
    (site.reply i w c).2.log = site.log := by
  cases c with
  | app c =>
    cases c with
    | setRoute template => rfl
    | asgi c => cases c <;> rw [Site.reply] <;> split <;> rfl
  | _ => rfl

/-- **Which responses carry an identifier.** However the requests interleave, every response that
begins in an http request has the identifier of the request as its last header, or it is one of the
two refusals, which have none. -/
theorem responses_identified (cfg : Config) (limiter : RateLimiter) (reqs : ι → Request)
    (messages : ι → List RequestMessage) (apps : ι → App) (steps : List (ι × Draw)) :
    ∀ entry ∈ (Transition.run step (start cfg limiter reqs messages apps) steps).state.log,
      (reqs entry.1).scope.kind = "http" → Identified (reqs entry.1) entry.2.cmd := by
  refine (Pool.run_forall
    (I := fun site : Site ι ↦ ∀ entry ∈ site.log,
      (reqs entry.1).scope.kind = "http" → Identified (reqs entry.1) entry.2.cmd)
    (J := fun i _ p ↦ (reqs i).scope.kind = "http" → Calls (Identified (reqs i)) p)
    (fun p i w c k r s _ hI hJ hcall hanswer ↦ ?_)
    (fun entry hentry ↦ absurd hentry List.not_mem_nil)
    (fun i hkind ↦ calls_stack cfg hkind (apps i))
    (Transition.allSteps_of_forall (P := fun _ _ ↦ True) (fun _ _ ↦ trivial) _ _)).1
  obtain ⟨rfl, rfl⟩ := Prod.mk.inj (Option.some.inj hanswer)
  have hi (hkind : (reqs i).scope.kind = "http") : Calls (Identified (reqs i)) (.call c k) :=
    hcall ▸ hJ i hkind
  refine ⟨fun entry hentry hkind ↦ ?_, fun hkind ↦ (hi hkind).2 _, fun j _ hkind ↦ hJ j hkind⟩
  rcases List.mem_append.mp hentry with hentry | hentry
  · exact hI entry (log_reply p.state i w c ▸ hentry) hkind
  · obtain rfl := List.mem_singleton.mp hentry
    exact (hi hkind).1

theorem responses_identified_noContent :
    ∃ entry ∈ (Transition.run step noContentStart noContentSteps).state.log,
      (∃ headers, entry.2.cmd = send (.start 204 headers)) ∧
        Identified plainRequest entry.2.cmd := by
  have hsecond : 1 < (Transition.run step noContentStart
      noContentSteps).state.log.length := by decide
  refine ⟨_, List.getElem_mem hsecond, ⟨_, rfl⟩, ?_⟩
  exact responses_identified ⟨10, false⟩ _ (fun _ ↦ plainRequest) (fun _ ↦ [])
    (fun _ ↦ noContent) noContentSteps _ (List.getElem_mem hsecond) rfl

end HttpStack

end Orchestra
