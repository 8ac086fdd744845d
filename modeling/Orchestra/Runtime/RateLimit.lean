import Mathlib.Algebra.Order.Field.Rat
import Mathlib.Algebra.Order.Group.MinMax
import Mathlib.Order.Bounds.Basic
import Mathlib.Tactic.Linarith
import Orchestra.Foundation.KeyedTable
import Orchestra.Foundation.Transition

/-!
# The rate limiter

A token bucket refills lazily: a call that reads a later clock than the bucket has seen adds what
has accrued since, up to the capacity, and then takes its tokens if they are there. The clock is
read before the lock is taken, so a call may hold a reading that another call has already passed;
such a call adds nothing and leaves the bucket's clock alone.

What a call grants is paid for by the tokens it finds and by the advance of the bucket's clock
(`grant_add_tokens_le`), and what it finds after its refill is at most the capacity
(`grant_add_tokens_le_capacity`). The bound on a window of calls is the sum of the first over all
calls but one, to which the second applies.
-/

namespace Orchestra

open Transition

/-- A refill rate in tokens per second; the source passes `float("inf")` through. -/
inductive RefillRate where
  | infinite
  | perSecond (rate : ℚ)

/-- `TokenBucket`. -/
structure TokenBucket where
  capacity : ℚ
  refillRate : RefillRate
  tokens : ℚ
  last : ℚ

namespace TokenBucket

/-- `__init__`, at a reading of the clock. -/
def new (capacity : ℚ) (refillRate : RefillRate) (now : ℚ) : TokenBucket :=
  { capacity := capacity, refillRate := refillRate, tokens := capacity, last := now }

/-- What `try_acquire` returns. -/
structure Attempt where
  allowed : Bool
  retryAfter : ℚ
  remaining : ℚ

variable (b : TokenBucket)

/-- The lazy refill. -/
def refill (rate now : ℚ) : TokenBucket :=
  if 0 < now - b.last then
    { b with tokens := min b.capacity (b.tokens + (now - b.last) * rate), last := now }
  else b

/-- The part of `try_acquire` that holds the lock. -/
def acquire (rate n now : ℚ) : TokenBucket × Attempt :=
  let b := b.refill rate now
  if n ≤ b.tokens then
    ({ b with tokens := b.tokens - n },
      { allowed := true, retryAfter := 0, remaining := b.tokens - n })
  else
    let deficit := n - b.tokens
    (b, { allowed := false, retryAfter := deficit / rate, remaining := -deficit })

/-- `try_acquire`. -/
def tryAcquire (n now : ℚ) : TokenBucket × Attempt :=
  if n ≤ 0 then (b, { allowed := true, retryAfter := 0, remaining := b.capacity })
  else
    match b.refillRate with
    | .infinite => (b, { allowed := false, retryAfter := 3600, remaining := 0 })
    | .perSecond rate =>
      if rate ≤ 0 then (b, { allowed := false, retryAfter := 3600, remaining := 0 })
      else b.acquire rate n now

/-- One call, in the order in which the calls take the lock. -/
structure Call where
  n : ℚ
  /-- The clock as the call read it, before it took the lock. -/
  now : ℚ

def step (c : Call) : TokenBucket := (b.tryAcquire c.n c.now).1

/-- The tokens that a call is granted. -/
def grant (c : Call) : ℚ := if (b.tryAcquire c.n c.now).2.allowed then c.n else 0

/-- The tokens that a sequence of calls is granted in total. -/
def granted (b : TokenBucket) : List Call → ℚ
  | [] => 0
  | c :: cs => b.grant c + granted (b.step c) cs

/-- The readings of the clock that a sequence of calls makes. -/
def readings (calls : List Call) : Set ℚ := { t | ∃ c ∈ calls, c.now = t }

/-- A configured bucket with between no tokens and its capacity. -/
structure Sound (capacity rate : ℚ) (b : TokenBucket) : Prop where
  capacity_eq : b.capacity = capacity
  rate_eq : b.refillRate = .perSecond rate
  tokens_nonneg : 0 ≤ b.tokens
  tokens_le : b.tokens ≤ capacity

/-! ## One call -/

variable {b} {capacity rate n now : ℚ} {c : Call} {calls : List Call}

theorem tryAcquire_eq_acquire (hrate : 0 < rate) (hn : 0 < n) (h : b.refillRate = .perSecond rate) :
    b.tryAcquire n now = b.acquire rate n now := by
  rw [tryAcquire, if_neg (not_le.mpr hn), h]
  exact if_neg (not_le.mpr hrate)

theorem refill_last : (b.refill rate now).last = max b.last now := by
  rw [refill]
  split_ifs with h
  · exact (max_eq_right (sub_pos.mp h).le).symm
  · exact (max_eq_left (sub_nonpos.mp (not_lt.mp h))).symm

/-- What a refill adds is paid for by the advance of the bucket's clock. -/
theorem refill_tokens_le :
    (b.refill rate now).tokens ≤ b.tokens + rate * ((b.refill rate now).last - b.last) := by
  rw [refill]
  split_ifs with h
  · rw [mul_comm]
    exact min_le_right _ _
  · rw [sub_self, mul_zero, add_zero]

theorem Sound.refill (hb : b.Sound capacity rate) (hcap : 0 ≤ capacity) (hrate : 0 < rate) :
    (b.refill rate now).Sound capacity rate := by
  rw [TokenBucket.refill]
  split_ifs with h
  · refine ⟨hb.capacity_eq, hb.rate_eq, ?_, (min_le_left _ _).trans_eq hb.capacity_eq⟩
    have haccrued : 0 ≤ (now - b.last) * rate := (mul_pos h hrate).le
    exact le_min (hcap.trans_eq hb.capacity_eq.symm) (add_nonneg hb.tokens_nonneg haccrued)
  · exact hb

theorem acquire_last : (b.acquire rate n now).1.last = max b.last now := by
  rw [acquire]
  split_ifs <;> exact refill_last

/-- The tokens that the locked part grants are those that the refilled bucket loses. -/
theorem acquire_tokens : (b.acquire rate n now).1.tokens =
    (b.refill rate now).tokens - if (b.acquire rate n now).2.allowed then n else 0 := by
  rw [acquire]
  split_ifs with h h' h'
  · rfl
  · exact absurd rfl h'
  · exact absurd h' not_false
  · exact (sub_zero _).symm

theorem Sound.acquire (hb : b.Sound capacity rate) (hcap : 0 ≤ capacity) (hrate : 0 < rate)
    (hn : 0 < n) : (b.acquire rate n now).1.Sound capacity rate := by
  have hr : (b.refill rate now).Sound capacity rate := hb.refill hcap hrate
  rw [TokenBucket.acquire]
  split_ifs with h
  · exact ⟨hr.capacity_eq, hr.rate_eq, sub_nonneg.mpr h, (sub_le_self _ hn.le).trans hr.tokens_le⟩
  · exact hr

section Call

variable (hb : b.Sound capacity rate) (hrate : 0 < rate) (hn : 0 < c.n)
include hb hrate hn

theorem Sound.step (hcap : 0 ≤ capacity) : (b.step c).Sound capacity rate := by
  rw [TokenBucket.step, tryAcquire_eq_acquire hrate hn hb.rate_eq]
  exact hb.acquire hcap hrate hn

theorem step_last : (b.step c).last = max b.last c.now := by
  rw [step, tryAcquire_eq_acquire hrate hn hb.rate_eq]
  exact acquire_last

/-- A call loses the bucket what it is granted. -/
theorem grant_add_tokens : b.grant c + (b.step c).tokens = (b.refill rate c.now).tokens := by
  rw [grant, step, tryAcquire_eq_acquire hrate hn hb.rate_eq, acquire_tokens]
  exact add_sub_cancel _ _

/-- A call is paid for by the tokens it finds and by the advance of the bucket's clock. -/
theorem grant_add_tokens_le :
    b.grant c + (b.step c).tokens ≤ b.tokens + rate * ((b.step c).last - b.last) := by
  have hlast : (b.refill rate c.now).last = max b.last c.now := refill_last
  rw [grant_add_tokens hb hrate hn, step_last hb hrate hn, ← hlast]
  exact refill_tokens_le

/-- A call grants no more than a full bucket holds. -/
theorem grant_add_tokens_le_capacity (hcap : 0 ≤ capacity) :
    b.grant c + (b.step c).tokens ≤ capacity := by
  rw [grant_add_tokens hb hrate hn]
  exact (hb.refill hcap hrate).tokens_le

/-- An allowed call reports the tokens it leaves. -/
theorem remaining_eq_tokens (h : (b.tryAcquire c.n c.now).2.allowed = true) :
    (b.tryAcquire c.n c.now).2.remaining = (b.step c).tokens := by
  rw [step]
  rw [tryAcquire_eq_acquire hrate hn hb.rate_eq] at h ⊢
  rw [acquire] at h ⊢
  split_ifs at h ⊢
  rfl

end Call

/-! ## Runs of calls -/

@[simp] theorem readings_append (calls calls' : List Call) :
    readings (calls ++ calls') = readings calls ∪ readings calls' := by
  ext t
  simp only [readings, List.mem_append, or_and_right, exists_or, Set.mem_union, Set.mem_ofPred_eq]

theorem Sound.run (hb : b.Sound capacity rate) (hrate : 0 < rate) (hn : ∀ c ∈ calls, 0 < c.n)
    (hcap : 0 ≤ capacity) : (Transition.run TokenBucket.step b calls).Sound capacity rate := by
  have hstep (b : TokenBucket) (c : Call) (hb : b.Sound capacity rate) (hc : 0 < c.n) :
      (b.step c).Sound capacity rate := hb.step hrate hc hcap
  exact run_induction hstep hb (allSteps_of_mem hn b)

/-- The bucket's clock shows the largest reading made so far. -/
theorem isGreatest_last (hb : b.Sound capacity rate) (hrate : 0 < rate)
    (hn : ∀ c ∈ calls, 0 < c.n) (hcap : 0 ≤ capacity) :
    IsGreatest (insert b.last (readings calls)) (Transition.run step b calls).last := by
  induction calls using List.reverseRecOn with
  | nil =>
    rw [run_nil]
    exact ⟨Set.mem_insert _ _, by simp [readings]⟩
  | append_singleton calls c ih =>
    obtain ⟨hcalls, hc⟩ := List.forall_mem_append.mp hn
    have hpos : 0 < c.n := hc c (List.mem_singleton_self c)
    have hsound := hb.run hrate hcalls hcap
    have hsingle : readings [c] = {c.now} := by
      ext t
      simp [readings, eq_comm]
    rw [run_append, run_cons, run_nil, step_last hsound hrate hpos, readings_append, hsingle,
      Set.union_singleton, Set.insert_comm, max_comm]
    exact (ih hcalls).insert c.now

/-- **A run is paid for by the tokens it finds and by the advance of the bucket's clock.** -/
theorem granted_add_tokens_le (hb : b.Sound capacity rate) (hrate : 0 < rate)
    (hn : ∀ c ∈ calls, 0 < c.n) (hcap : 0 ≤ capacity) :
    b.granted calls + (Transition.run step b calls).tokens ≤
      b.tokens + rate * ((Transition.run step b calls).last - b.last) := by
  induction calls generalizing b with
  | nil => simp [granted]
  | cons c calls ih =>
    obtain ⟨hc, hcalls⟩ := List.forall_mem_cons.mp hn
    have hfirst := grant_add_tokens_le hb hrate hc
    have hrest := ih (hb.step hrate hc hcap) hcalls
    rw [granted, run_cons]
    linarith

/-- The calls of a window are granted a full bucket and what accrues after the first of them. -/
theorem granted_window_le (hb : b.Sound capacity rate) (hrate : 0 < rate)
    (hn : ∀ d ∈ c :: calls, 0 < d.n) (hcap : 0 ≤ capacity) :
    b.granted (c :: calls) ≤
      capacity + rate * ((Transition.run step b (c :: calls)).last - (b.step c).last) := by
  obtain ⟨hc, hcalls⟩ := List.forall_mem_cons.mp hn
  have hfirst := grant_add_tokens_le_capacity hb hrate hc hcap
  have hsound := hb.step hrate hc hcap
  have hrest := granted_add_tokens_le hsound hrate hcalls hcap
  have htokens := (hsound.run hrate hcalls hcap).tokens_nonneg
  rw [granted, run_cons]
  linarith

theorem Sound.new (hcap : 0 ≤ capacity) (created : ℚ) :
    (new capacity (.perSecond rate) created).Sound capacity rate :=
  ⟨rfl, rfl, hcap, le_rfl⟩

/-- **The token-bucket bound.** Whatever clock readings the calls bring, the tokens stay between
zero and the capacity, an allowed call reports the tokens it leaves, and the calls of every window
are granted at most the capacity and what accrues between the largest readings up to its ends,
whether or not the reading of the constructor counts among them. -/
theorem tokenBucket_bound {capacity rate : ℚ} (created : ℚ) (calls : List Call)
    (hcap : 0 ≤ capacity) (hrate : 0 < rate) (hn : ∀ c ∈ calls, 0 < c.n) :
    let b := new capacity (.perSecond rate) created
    (∀ before after, calls = before ++ after →
      0 ≤ (Transition.run step b before).tokens ∧
        (Transition.run step b before).tokens ≤ capacity) ∧
    (∀ before c after, calls = before ++ c :: after →
      let attempt := ((Transition.run step b before).tryAcquire c.n c.now).2
      attempt.allowed = true →
        attempt.remaining = (Transition.run step b (before ++ [c])).tokens) ∧
    (∀ before c window after, calls = before ++ c :: window ++ after → ∀ first last,
      (IsGreatest (readings (before ++ [c])) first ∧
          IsGreatest (readings (before ++ c :: window)) last ∨
        IsGreatest (insert created (readings (before ++ [c]))) first ∧
          IsGreatest (insert created (readings (before ++ c :: window))) last) →
      (Transition.run step b before).granted (c :: window) ≤ capacity + rate * (last - first)) := by
  intro b
  have hb : b.Sound capacity rate := Sound.new hcap created
  refine ⟨?_, ?_, ?_⟩
  · rintro before after rfl
    have hsound := hb.run hrate (List.forall_mem_append.mp hn).1 hcap
    exact ⟨hsound.tokens_nonneg, hsound.tokens_le⟩
  · rintro before c after rfl attempt hallowed
    obtain ⟨hbefore, hrest⟩ := List.forall_mem_append.mp hn
    rw [run_append, run_cons, run_nil]
    have hsound := hb.run hrate hbefore hcap
    exact remaining_eq_tokens hsound hrate (List.forall_mem_cons.mp hrest).1 hallowed
  · rintro before c window after rfl first last hgreatest
    have hwindow := (List.forall_mem_append.mp hn).1
    obtain ⟨hbefore, hcalls⟩ := List.forall_mem_append.mp hwindow
    have hc : ∀ d ∈ before ++ [c], 0 < d.n := by
      refine List.forall_mem_append.mpr ⟨hbefore, ?_⟩
      exact List.forall_mem_singleton.mpr (List.forall_mem_cons.mp hcalls).1
    have hle := granted_window_le (hb.run hrate hbefore hcap) hrate hcalls hcap
    have hlast := isGreatest_last hb hrate hwindow hcap
    have hfirst := isGreatest_last hb hrate hc hcap
    rw [run_append] at hlast
    rw [run_append, run_cons, run_nil] at hfirst
    refine hle.trans (add_le_add_right (mul_le_mul_of_nonneg_left ?_ hrate.le) capacity)
    obtain ⟨hf, hl⟩ | ⟨hf, hl⟩ := hgreatest
    · -- the readings of the calls alone: the constructor's can only bring the two ends together
      rw [hlast.unique (hl.insert created), hfirst.unique (hf.insert created)]
      have hmono : first ≤ last := by
        refine hl.2 ?_
        rw [← List.singleton_append, ← List.append_assoc, readings_append]
        exact Or.inl hf.1
      refine (max_sub_max_le_max created last created first).trans ?_
      rw [sub_self, max_eq_right (sub_nonneg.mpr hmono)]
    · rw [hlast.unique hl, hfirst.unique hf]

/-- A stale reading: the second call reads the clock before the first and takes the lock after. -/
theorem tokenBucket_bound_at_stale_reading :
    let b := new 2 (.perSecond 1) 0
    let calls : List Call := [⟨2, 0⟩, ⟨1, 5⟩, ⟨1, 3⟩]
    (Transition.run step b calls).tokens = 0 ∧
      b.granted calls ≤ 2 + 1 * (5 - 0) := by
  intro b calls
  refine ⟨by decide +kernel, ?_⟩
  have h := (tokenBucket_bound 0 calls (by norm_num : (0 : ℚ) ≤ 2) (by norm_num : (0 : ℚ) < 1)
    (by decide +kernel)).2.2 [] ⟨2, 0⟩ [⟨1, 5⟩, ⟨1, 3⟩] [] rfl 0 5
  refine h (.inr ⟨⟨.inl rfl, ?_⟩, ⟨.inr ⟨⟨1, 5⟩, by simp, rfl⟩, ?_⟩⟩)
  · rintro t (rfl | ⟨c, hc, rfl⟩)
    · exact le_rfl
    · simp only [List.nil_append, List.mem_singleton] at hc
      subst hc
      exact le_rfl
  · rintro t (rfl | ⟨c, hc, rfl⟩)
    · norm_num
    · simp only [List.nil_append, List.mem_cons, List.not_mem_nil, or_false] at hc
      obtain rfl | rfl | rfl := hc <;> norm_num

end TokenBucket

/-- `RateLimitDecision`. -/
structure RateLimitDecision where
  allowed : Bool
  retryAfter : ℚ
  remaining : ℚ
  tenant : String

/-- `RateLimiter`: the buckets by tenant, and the factory of new ones with the clock that the
constructor of a bucket reads. -/
structure RateLimiter where
  factory : String → ℚ → TokenBucket
  buckets : KeyedTable (Prod.fst : String × TokenBucket → String) := .empty

namespace RateLimiter

variable (l : RateLimiter)

/-- `_bucket_for`. -/
def bucketFor (key : String) (now : ℚ) : TokenBucket :=
  ((l.buckets.find? key).map Prod.snd).getD (l.factory key now)

/-- `check`; the constructor of a new bucket and the bucket's call read the clock one after the
other. -/
def check (key : String) (n created now : ℚ) : RateLimiter × RateLimitDecision :=
  let (bucket, attempt) := (l.bucketFor key created).tryAcquire n now
  ({ l with buckets := l.buckets.put (key, bucket) },
    { allowed := attempt.allowed, retryAfter := attempt.retryAfter
      remaining := max 0 attempt.remaining, tenant := key })

/-- One call of `check`, in the order in which the calls take the lock of their bucket. -/
structure Check extends TokenBucket.Call where
  key : String
  created : ℚ

def step (c : Check) : RateLimiter := (l.check c.key c.n c.created c.now).1

/-- The calls that reach the bucket of a tenant. -/
def callsOf (key : String) (checks : List Check) : List TokenBucket.Call :=
  (checks.filter fun c ↦ decide (c.key = key)).map Check.toCall

/-- The tokens that a tenant is granted in total. -/
def grantedTo (key : String) (l : RateLimiter) : List Check → ℚ
  | [] => 0
  | c :: cs =>
    (if c.key = key ∧ (l.check c.key c.n c.created c.now).2.allowed then c.n else 0) +
      grantedTo key (l.step c) cs

variable {l} {key : String} {c : Check} {b : TokenBucket}

theorem callsOf_cons (checks : List Check) : callsOf key (c :: checks) =
    if c.key = key then c.toCall :: callsOf key checks else callsOf key checks := by
  split_ifs with h <;> simp [callsOf, h]

theorem find?_step (h : l.buckets.find? key = some (key, b)) :
    (l.step c).buckets.find? key =
      some (key, if c.key = key then b.step c.toCall else b) := by
  have hstep : (l.step c).buckets =
      l.buckets.put (c.key, (l.bucketFor c.key c.created).step c.toCall) := rfl
  rw [hstep, KeyedTable.find?_put]
  by_cases hkey : c.key = key
  · subst hkey
    rw [if_pos rfl, if_pos rfl, bucketFor, h]
    rfl
  · rw [if_neg hkey, if_neg hkey, h]

/-- **Tenants do not disturb each other.** However the checks interleave, the bucket of a tenant
has taken the calls of that tenant. -/
theorem find?_run (h : l.buckets.find? key = some (key, b)) (checks : List Check) :
    (run step l checks).buckets.find? key =
      some (key, run TokenBucket.step b (callsOf key checks)) := by
  induction checks generalizing l b with
  | nil => exact h
  | cons c checks ih =>
    rw [run_cons, ih (find?_step h), callsOf_cons]
    split_ifs <;> rfl

theorem grantedTo_eq_granted (h : l.buckets.find? key = some (key, b)) (checks : List Check) :
    grantedTo key l checks = b.granted (callsOf key checks) := by
  induction checks generalizing l b with
  | nil => rfl
  | cons c checks ih =>
    rw [grantedTo, ih (find?_step h), callsOf_cons]
    by_cases hkey : c.key = key
    · subst hkey
      have hbucket : l.bucketFor c.key c.created = b := by
        rw [bucketFor, h]
        rfl
      simp only [if_pos, true_and, TokenBucket.granted, TokenBucket.grant, ← hbucket]
      rfl
    · rw [if_neg hkey, if_neg hkey, if_neg fun hc ↦ hkey hc.1, zero_add]

/-- What a tenant is granted is bounded by its own bucket, whatever the other tenants do. -/
theorem grantedTo_le {capacity rate : ℚ} (h : l.buckets.find? key = some (key, b))
    (hb : b.Sound capacity rate) (hrate : 0 < rate) (hcap : 0 ≤ capacity) {checks : List Check}
    (hn : ∀ c ∈ checks, 0 < c.n) {b' : TokenBucket}
    (h' : (run step l checks).buckets.find? key = some (key, b')) :
    grantedTo key l checks ≤ b.tokens + rate * (b'.last - b.last) := by
  rw [find?_run h] at h'
  obtain rfl : run TokenBucket.step b (callsOf key checks) = b' := by simpa using h'
  have hcalls : ∀ d ∈ callsOf key checks, 0 < d.n := by
    intro d hd
    obtain ⟨c, hc, rfl⟩ := List.mem_map.mp hd
    exact hn c (List.mem_of_mem_filter hc)
  have hpaid := TokenBucket.granted_add_tokens_le hb hrate hcalls hcap
  have htokens := (hb.run hrate hcalls hcap).tokens_nonneg
  rw [grantedTo_eq_granted h]
  linarith

end RateLimiter

end Orchestra
