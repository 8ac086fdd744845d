import Mathlib.Algebra.Order.Floor.Ring
import Mathlib.Data.Rat.Floor
import Orchestra.Core.Json
import Orchestra.Observability.RequestSizeLimit
import Orchestra.Runtime.RateLimit

/-!
# When to come back

A bucket that denies a request says how long it takes until the tokens are there, and the
middleware passes this on as `Retry-After`, in whole seconds. The number is computed from the
deficit alone. It is kept when a full bucket holds the tokens asked for and the call read a clock
that the bucket had not seen a later reading of (`honest_iff`): a bucket that is too small never
has them, and after a stale reading the time up to the bucket's own clock is counted twice.
-/

namespace Orchestra

open Transition Asgi

/-! ## The middleware -/

/-- An ASGI scope, as far as the middleware reads it; the client is known by its address. -/
structure Scope where
  kind : String
  path : String := "/"
  headers : List (Bytes × Bytes) := []
  client : Option String := none

namespace RateLimitMiddleware

def isExempt (path : String) : Bool := decide (path ∈ ["/healthz", "/metrics"])

/-- `value.decode("latin-1")`, which does not fail. -/
def decodeLatin1 (value : Bytes) : String :=
  String.ofList (value.map fun b ↦ Char.ofNat b.toNat)

/-- The first hop that a header names, if it is an `x-forwarded-for`. -/
def firstHop (header : Bytes × Bytes) : Option String :=
  if header.1 = encodeUtf8 "x-forwarded-for" then
    let first := pyStrip (String.ofList ((decodeLatin1 header.2).toList.takeWhile (· ≠ ',')))
    if first = "" then none else some first
  else none

/-- `_resolve_tenant`. -/
def resolveTenant (scope : Scope) : String :=
  match scope.headers.find? fun h ↦ decide (h.1 = encodeUtf8 "x-tenant-id") with
  | some (_, value) =>
    let tenant := pyStrip (decodeLatin1 value)
    if tenant = "" then "anonymous" else tenant
  | none =>
    match scope.client with
    | none => "anonymous"
    | some host => "ip:" ++ ((scope.headers.filterMap firstHop).head?.getD host)

/-- `int(x)`. -/
def truncate (x : ℚ) : ℤ := if 0 ≤ x then ⌊x⌋ else ⌈x⌉

/-- The seconds in the `Retry-After` header. -/
def retryAfterSeconds (retryAfter : ℚ) : ℤ := max 1 (truncate retryAfter + 1)

/-- A response with status 429: its `Retry-After` header and the JSON of its body. -/
structure TooManyRequests where
  retryAfter : ℤ
  body : Json

/-- `__call__`: the refusal, or `none` when the request is passed on. -/
def handle (l : RateLimiter) (scope : Scope) (created now : ℚ) :
    RateLimiter × Option TooManyRequests :=
  if scope.kind ≠ "http" ∨ isExempt scope.path then (l, none)
  else
    let tenant := resolveTenant scope
    let (l, decision) := l.check tenant 1 created now
    if decision.allowed then (l, none)
    else
      let seconds := retryAfterSeconds decision.retryAfter
      (l, some
        { retryAfter := seconds
          body := .obj [("error", .str "rate_limited"), ("tenant", .str tenant),
            ("retry_after_seconds", .int seconds)] })

/-- The header does not promise more than the bucket. -/
theorem le_retryAfterSeconds (retryAfter : ℚ) : retryAfter ≤ retryAfterSeconds retryAfter := by
  have hlt : retryAfter < (truncate retryAfter + 1 : ℤ) := by
    rw [truncate]
    push_cast
    split_ifs with h
    · exact Int.lt_floor_add_one retryAfter
    · exact (Int.le_ceil retryAfter).trans_lt (lt_add_one _)
  exact hlt.le.trans (Int.cast_le.mpr (le_max_right _ _))

end RateLimitMiddleware

namespace TokenBucket

open RateLimitMiddleware

/-! ## The promise of a denied call -/

/-- After the call `try_acquire(n)` at `t`, the same call is allowed at every clock from the time
it names on, and from the time that the header names on. -/
structure Honest (b : TokenBucket) (n t : ℚ) : Prop where
  retryAfter : ∀ t', t + (b.tryAcquire n t).2.retryAfter ≤ t' →
    ((b.tryAcquire n t).1.tryAcquire n t').2.allowed = true
  header : ∀ t', t + retryAfterSeconds (b.tryAcquire n t).2.retryAfter ≤ t' →
    ((b.tryAcquire n t).1.tryAcquire n t').2.allowed = true

variable {b : TokenBucket} {rate n t t' : ℚ}

theorem acquire_allowed_iff :
    (b.acquire rate n t).2.allowed = true ↔ n ≤ (b.refill rate t).tokens := by
  rw [acquire]
  split_ifs with h
  · exact iff_of_true rfl h
  · exact iff_of_false not_false h

/-- A denied call leaves the refilled bucket and names the time its deficit takes. -/
theorem acquire_of_denied (h : (b.refill rate t).tokens < n) :
    (b.acquire rate n t).1 = b.refill rate t ∧
      (b.acquire rate n t).2.retryAfter = (n - (b.refill rate t).tokens) / rate := by
  rw [acquire, if_neg (not_le.mpr h)]
  exact ⟨rfl, rfl⟩

theorem refill_refillRate : (b.refill rate t).refillRate = b.refillRate := by
  rw [refill]
  split_ifs <;> rfl

theorem refill_capacity : (b.refill rate t).capacity = b.capacity := by
  rw [refill]
  split_ifs <;> rfl

/-- The tokens after a refill that finds its clock later than the bucket's. -/
theorem refill_tokens_of_lt (h : b.last < t) :
    (b.refill rate t).tokens = min b.capacity (b.tokens + (t - b.last) * rate) := by
  rw [refill, if_pos (sub_pos.mpr h)]

theorem refill_of_le (h : t ≤ b.last) : b.refill rate t = b := by
  rw [refill, if_neg (not_lt.mpr (sub_nonpos.mpr h))]

/-- A later call is allowed when the tokens fit into the bucket and have accrued. -/
theorem acquire_allowed_of_lt_iff (h : b.last < t) : (b.acquire rate n t).2.allowed = true ↔
    n ≤ b.capacity ∧ n ≤ b.tokens + (t - b.last) * rate := by
  rw [acquire_allowed_iff, refill_tokens_of_lt h, le_min_iff]

/-- Waiting for a deficit helps when the bucket is large enough and no part of the wait lies before
its clock. -/
theorem allowed_after_wait_iff (hrate : 0 < rate) (hshort : b.tokens < n) :
    (∀ t', t + (n - b.tokens) / rate ≤ t' → (b.acquire rate n t').2.allowed = true) ↔
      n ≤ b.capacity ∧ b.last ≤ t := by
  have haccrues : (n - b.tokens) / rate * rate = n - b.tokens := div_mul_cancel₀ _ hrate.ne'
  have hpos : 0 < (n - b.tokens) / rate := div_pos (sub_pos.mpr hshort) hrate
  constructor
  · intro hall
    have hallowed := hall _ le_rfl
    have hlater : b.last < t + (n - b.tokens) / rate := by
      by_contra hnot
      rw [acquire_allowed_iff, refill_of_le (not_lt.mp hnot)] at hallowed
      exact absurd hallowed (not_le.mpr hshort)
    obtain ⟨hfits, hthere⟩ := (acquire_allowed_of_lt_iff hlater).mp hallowed
    have hsplit : (t + (n - b.tokens) / rate - b.last) * rate =
        (t - b.last) * rate + (n - b.tokens) / rate * rate := by ring
    have hnonneg : 0 ≤ (t - b.last) * rate := by linarith
    exact ⟨hfits, sub_nonneg.mp (nonneg_of_mul_nonneg_left hnonneg hrate)⟩
  · rintro ⟨hfits, hfresh⟩ t' h
    have hlater : b.last < t' := by linarith
    refine (acquire_allowed_of_lt_iff hlater).mpr ⟨hfits, ?_⟩
    have hwait : (n - b.tokens) / rate ≤ t' - b.last := by linarith
    have hmul := mul_le_mul_of_nonneg_right hwait hrate.le
    linarith

/-- The time that a denied call names is kept under the same condition. -/
theorem retryAfter_kept_iff (hrate : 0 < rate) (hb : b.refillRate = .perSecond rate) (hn : 0 < n)
    (hdenied : (b.tryAcquire n t).2.allowed = false) :
    (∀ t', t + (b.tryAcquire n t).2.retryAfter ≤ t' →
        ((b.tryAcquire n t).1.tryAcquire n t').2.allowed = true) ↔
      n ≤ b.capacity ∧ b.last ≤ t := by
  rw [tryAcquire_eq_acquire hrate hn hb] at hdenied ⊢
  have hshort : (b.refill rate t).tokens < n := by
    by_contra hnot
    rw [acquire_allowed_iff.mpr (not_lt.mp hnot)] at hdenied
    cases hdenied
  obtain ⟨hstate, htime⟩ := acquire_of_denied hshort
  have hrefilled : (b.refill rate t).refillRate = .perSecond rate := refill_refillRate.trans hb
  have hcondition : n ≤ b.capacity ∧ b.last ≤ t ↔
      n ≤ (b.refill rate t).capacity ∧ (b.refill rate t).last ≤ t := by
    rw [refill_capacity, refill_last, max_le_iff, and_iff_left le_rfl]
  rw [hcondition, ← allowed_after_wait_iff hrate hshort, hstate, htime]
  simp only [tryAcquire_eq_acquire hrate hn hrefilled]

/-- **Exactly when the promise is kept**: the bucket can hold the tokens, and its clock is not ahead
of the one that the denied call read. -/
theorem honest_iff (hrate : 0 < rate) (hb : b.refillRate = .perSecond rate) (hn : 0 < n)
    (hdenied : (b.tryAcquire n t).2.allowed = false) :
    Honest b n t ↔ n ≤ b.capacity ∧ b.last ≤ t := by
  rw [← retryAfter_kept_iff hrate hb hn hdenied]
  refine ⟨Honest.retryAfter, fun hkept ↦ ⟨hkept, fun t' h ↦ hkept t' ?_⟩⟩
  -- the header is later still
  have hheader := le_retryAfterSeconds (b.tryAcquire n t).2.retryAfter
  linarith

/-- An empty bucket of two tokens, and a request for both of them. -/
theorem honest_of_empty :
    Honest { capacity := 2, refillRate := .perSecond 1, tokens := 0, last := 0 } 2 0 := by
  have hrate : (0 : ℚ) < 1 := by norm_num
  exact (honest_iff hrate rfl (by norm_num) (by decide +kernel)).mpr ⟨le_rfl, le_rfl⟩

/-- A new bucket of half a token denies a request for one token after any wait. -/
theorem half_token_never_allowed :
    ¬∀ (b : TokenBucket) (rate n t : ℚ), 0 < b.capacity → 0 < rate →
      b.refillRate = .perSecond rate → 0 < n → (b.tryAcquire n t).2.allowed = false →
      Honest b n t := by
  intro hall
  have hhonest := hall (new (1 / 2) (.perSecond 1) 0) 1 1 0 (by decide +kernel) (by decide +kernel)
    rfl (by decide +kernel) (by decide +kernel)
  exact absurd (hhonest.retryAfter 1000000 (by decide +kernel)) (by decide +kernel)

/-- A bucket that cannot hold the tokens denies every call. -/
theorem Sound.denied {capacity : ℚ} (h : b.Sound capacity rate) (hcap : 0 ≤ capacity)
    (hrate : 0 < rate) (hn : 0 < n) (hsmall : capacity < n) (t : ℚ) :
    (b.tryAcquire n t).2.allowed = false := by
  rw [tryAcquire_eq_acquire hrate hn h.rate_eq]
  refine Bool.eq_false_of_not_eq_true fun hallowed ↦ ?_
  have hfull : (b.refill rate t).tokens ≤ capacity := (h.refill hcap hrate).tokens_le
  exact absurd ((acquire_allowed_iff.mp hallowed).trans hfull) (not_le.mpr hsmall)

end TokenBucket

namespace RateLimitMiddleware

open RateLimiter

/-! ## The client -/

variable {l : RateLimiter} {scope : Scope} {b : TokenBucket} {rate created t : ℚ}

/-- The request is limited. -/
def Limited (scope : Scope) : Prop := scope.kind = "http" ∧ isExempt scope.path = false

/-- The check that a limited request makes. -/
def checkOf (scope : Scope) (created now : ℚ) : RateLimiter.Check :=
  { n := 1, now := now, key := resolveTenant scope, created := created }

theorem handle_eq (h : Limited scope) (created now : ℚ) :
    (handle l scope created now).1 = l.step (checkOf scope created now) ∧
      ((handle l scope created now).2 = none ↔
        (l.check (resolveTenant scope) 1 created now).2.allowed = true) ∧
      ∀ reply ∈ (handle l scope created now).2, reply.retryAfter =
        retryAfterSeconds (l.check (resolveTenant scope) 1 created now).2.retryAfter := by
  have hgoes : ¬(scope.kind ≠ "http" ∨ isExempt scope.path = true) := by simp [h.1, h.2]
  rw [handle, if_neg hgoes]
  dsimp only
  split_ifs with hallowed
  · exact ⟨rfl, iff_of_true rfl hallowed, nofun⟩
  · refine ⟨rfl, iff_of_false nofun hallowed, fun reply hreply ↦ ?_⟩
    cases hreply
    rfl

/-- A tenant with a bucket is checked against it. -/
theorem check_of_find? {key : String} (h : l.buckets.find? key = some (key, b))
    (n created now : ℚ) :
    (l.check key n created now).2.allowed = (b.tryAcquire n now).2.allowed ∧
      (l.check key n created now).2.retryAfter = (b.tryAcquire n now).2.retryAfter := by
  have hbucket : l.bucketFor key created = b := by
    rw [bucketFor, h]
    rfl
  rw [RateLimiter.check, hbucket]
  exact ⟨rfl, rfl⟩

/-- **A client that waits is served.** The bucket of its tenant holds a token when full and has seen
no later clock than the refused request. Whatever other tenants do meanwhile, a request of the
tenant is passed on from the time on that the header names. -/
theorem handle_after_waiting (hlimited : Limited scope)
    (hbucket : l.buckets.find? (resolveTenant scope) = some (resolveTenant scope, b))
    (hrate : 0 < rate) (hb : b.refillRate = .perSecond rate) (hcap : 1 ≤ b.capacity)
    (hlast : b.last ≤ t) {reply : TooManyRequests}
    (hreply : (handle l scope created t).2 = some reply) {others : List RateLimiter.Check}
    (hothers : ∀ c ∈ others, c.key ≠ resolveTenant scope) {t' : ℚ}
    (hwait : t + reply.retryAfter ≤ t') :
    (handle (run step (handle l scope created t).1 others) scope created t').2 = none := by
  obtain ⟨hstate, hnone, hretry⟩ := handle_eq (l := l) hlimited created t
  obtain ⟨hallowed, htime⟩ := check_of_find? hbucket 1 created t
  rw [hreply, hallowed] at hnone
  have hdenied : (b.tryAcquire 1 t).2.allowed = false :=
    Bool.eq_false_of_not_eq_true fun h ↦ nomatch hnone.mpr h
  have hkept := (TokenBucket.retryAfter_kept_iff hrate hb one_pos hdenied).mpr ⟨hcap, hlast⟩
  have hafter : (run step (handle l scope created t).1 others).buckets.find? (resolveTenant scope) =
      some (resolveTenant scope, (b.tryAcquire 1 t).1) := by
    have hnext : (l.step (checkOf scope created t)).buckets.find? (resolveTenant scope) =
        some (resolveTenant scope, b.step (checkOf scope created t).toCall) :=
      (find?_step hbucket).trans (by rw [checkOf, if_pos rfl])
    rw [hstate, find?_run hnext]
    have hcalls : callsOf (resolveTenant scope) others = [] := by
      rw [callsOf, List.filter_eq_nil_iff.mpr fun c hc ↦ by simpa using hothers c hc]
      rfl
    rw [hcalls]
    rfl
  obtain ⟨-, hnone', -⟩ := handle_eq (l := run step (handle l scope created t).1 others) hlimited
    created t'
  rw [hnone', (check_of_find? hafter 1 created t').1]
  refine hkept t' ?_
  have hheader := le_retryAfterSeconds (b.tryAcquire 1 t).2.retryAfter
  rw [← htime, ← hretry reply hreply, htime] at hheader
  linarith

/-- **A client that is refused for ever**: the bucket of its tenant does not hold a token. -/
theorem handle_of_small (hlimited : Limited scope)
    (hbucket : l.buckets.find? (resolveTenant scope) = some (resolveTenant scope, b)) {capacity : ℚ}
    (hb : b.Sound capacity rate) (hcap : 0 ≤ capacity) (hrate : 0 < rate) (hsmall : capacity < 1)
    {checks : List RateLimiter.Check} (hn : ∀ c ∈ checks, 0 < c.n) (t : ℚ) :
    (handle (run step l checks) scope created t).2 ≠ none := by
  have hafter := find?_run hbucket checks
  have hcalls : ∀ c ∈ callsOf (resolveTenant scope) checks, 0 < c.n := by
    intro c hc
    obtain ⟨check, hcheck, rfl⟩ := List.mem_map.mp hc
    exact hn check (List.mem_of_mem_filter hcheck)
  have hsound := hb.run hrate hcalls hcap
  intro hnone
  have hallowed := (handle_eq hlimited created t).2.1.mp hnone
  rw [(check_of_find? hafter 1 created t).1,
    hsound.denied hcap hrate one_pos hsmall t] at hallowed
  cases hallowed

end RateLimitMiddleware

end Orchestra
