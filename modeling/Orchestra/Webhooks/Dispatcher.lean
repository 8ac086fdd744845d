import Orchestra.Core.Exceptions
import Orchestra.Core.Hashing
import Orchestra.Core.JsonDumps
import Orchestra.Foundation.Retry
import Mathlib.Data.List.GetD
import Mathlib.Data.Rat.Defs

/-!
# Webhook delivery

When a task has ended, its result is posted to an address of the partner. The dispatcher makes one
call after another until an answer has a status of the form 2xx or its attempts are spent, and it
sleeps between two calls as long as the schedule says. All calls carry one body and its signature.

What `deliver` does is read off the record of its effects. `Delivered` says what the record and the
result are for every sequence of answers (`delivered_deliver`).
-/

namespace Orchestra

namespace Webhooks

/-- `WebhookConfig`. -/
structure WebhookConfig where
  url : String
  secret : String
  deriving DecidableEq

/-- `is_valid`. -/
def WebhookConfig.isValid (config : WebhookConfig) : Bool :=
  config.url != "" && config.secret != "" &&
    ("http://".toList.isPrefixOf config.url.toList ||
      "https://".toList.isPrefixOf config.url.toList)

/-- `WebhookDelivery`. -/
structure WebhookDelivery where
  delivered : Bool
  attempts : ℕ
  lastStatus : ℕ
  deliveryId : String
  error : String := ""
  deriving DecidableEq

/-- What is known of a task that has ended. -/
structure EndedTask where
  taskRunId : String
  state : String
  planId : Option String
  nodeResults : List (String × Json)
  error : Option String

/-- `sign_body`. -/
def signBody (P : Primitives) (secret : String) (body : List UInt8) : String :=
  "sha256=" ++ hexdigest (P.hmacSha256 secret.toUTF8.toList body)

/-- `build_payload`, at the time `now` in seconds. -/
def buildPayload (task : EndedTask) (deliveryId : String) (now : ℤ) : Json :=
  .obj [("event", .str ("task." ++ task.state)),
    ("delivery_id", .str deliveryId),
    ("task_run_id", .str task.taskRunId),
    ("state", .str task.state),
    ("plan_id", .ofOption task.planId),
    ("node_results", .obj task.nodeResults),
    ("error", .ofOption task.error),
    ("delivered_at", .int now)]

/-- A call of the endpoint. -/
structure WebhookPost where
  url : String
  content : List UInt8
  headers : List (String × String)
  deriving DecidableEq

/-- What a call of the endpoint comes to: a response, an `httpx.HTTPError`, or another exception,
which the dispatcher does not catch. -/
inductive PostOutcome where
  | response (status : ℕ)
  | httpError (e : Raised)
  | otherError (e : Raised)

/-- The response has a status of the form 2xx. -/
def PostOutcome.accepted : PostOutcome → Bool
  | .response status => decide (200 ≤ status ∧ status < 300)
  | _ => false

/-- The status of a response. -/
def PostOutcome.status? : PostOutcome → Option ℕ
  | .response status => some status
  | _ => none

/-- What `deliver` does: it tells the debug hook about an attempt, calls the endpoint and sleeps. -/
inductive DeliverEffect where
  | onAttempt (attempt maxAttempts : ℕ)
  | post (call : WebhookPost)
  | sleep (seconds : ℚ)
  deriving DecidableEq

/-- `WebhookDispatcher`. -/
structure WebhookDispatcher where
  maxAttempts : ℕ := 3
  backoff : List ℚ := [1, 2, 4]
  /-- Whether there is a debug hook. -/
  hooked : Bool := false

/-- The variables of the loop. -/
structure DeliverProgress where
  attempts : ℕ := 0
  lastStatus : ℕ := 0
  lastError : String := ""

namespace WebhookDispatcher

section Deliver

variable (P : Primitives) (D : WebhookDispatcher)

/-- The call that every attempt makes. -/
def webhookPost (config : WebhookConfig) (task : EndedTask) (deliveryId : String) (now : ℤ) :
    WebhookPost :=
  let body := (buildPayload task deliveryId now).dumpsText.toUTF8.toList
  { url := config.url
    content := body
    headers := [("Content-Type", "application/json"),
      ("X-Orchestra-Signature", signBody P config.secret body),
      ("X-Orchestra-Delivery-Id", deliveryId),
      ("X-Orchestra-Event-Type", "task." ++ task.state)] }

/-- What an attempt does. -/
def attemptEffects (call : WebhookPost) (attempt : ℕ) : List DeliverEffect :=
  (if D.hooked then [.onAttempt attempt D.maxAttempts] else []) ++ [.post call]

/-- `self._backoff[min(attempt, len(self._backoff) - 1)]`, read unless the attempt was the last. -/
def backoffEffects (attempt : ℕ) : Except Raised (List DeliverEffect) :=
  if attempt + 1 < D.maxAttempts then
    match D.backoff[min attempt (D.backoff.length - 1)]? with
    | some seconds => .ok [.sleep seconds]
    | none => .error ⟨"IndexError", "tuple index out of range"⟩
  else .ok []

/-- The rounds of the loop from `attempt` on, of which `left` are left. -/
def deliverLoop (answers : ℕ → PostOutcome) (call : WebhookPost) (deliveryId : String) :
    (left attempt : ℕ) → DeliverProgress → List DeliverEffect × Except Raised WebhookDelivery
  | 0, _, s => ([], .ok
      { delivered := false, attempts := s.attempts, lastStatus := s.lastStatus,
        deliveryId := deliveryId, error := s.lastError })
  | left + 1, attempt, s =>
    let backOff (lastStatus : ℕ) (lastError : String) :=
      match D.backoffEffects attempt with
      | .error e => (D.attemptEffects call attempt, .error e)
      | .ok pause =>
        let (effects, result) := deliverLoop answers call deliveryId left (attempt + 1)
          ⟨s.attempts + 1, lastStatus, lastError⟩
        (D.attemptEffects call attempt ++ pause ++ effects, result)
    match answers attempt with
    | .response status =>
      if 200 ≤ status ∧ status < 300 then
        (D.attemptEffects call attempt, .ok
          { delivered := true, attempts := s.attempts + 1, lastStatus := status,
            deliveryId := deliveryId })
      else backOff status ("HTTP " ++ toString status)
    | .httpError e => backOff s.lastStatus (e.typeName ++ ": " ++ e.text)
    | .otherError e => (D.attemptEffects call attempt, .error e)

/-- `deliver`, with the answers of the endpoint to its calls: what it does, and its result. -/
def deliver (config : WebhookConfig) (task : EndedTask) (deliveryId : String) (now : ℤ)
    (answers : ℕ → PostOutcome) : List DeliverEffect × Except Raised WebhookDelivery :=
  if config.isValid then
    D.deliverLoop answers (webhookPost P config task deliveryId now) deliveryId D.maxAttempts 0 {}
  else ([], .ok
    { delivered := false, attempts := 0, lastStatus := 0, deliveryId := deliveryId,
      error := "invalid webhook config (url or secret missing or scheme not http/https)" })

end Deliver

/-! ## What a delivery is -/

/-- The backoff before attempt `attempt + 1`: the value of the schedule, or its last value when the
schedule is too short. -/
def seconds (D : WebhookDispatcher) (h : D.backoff ≠ []) (attempt : ℕ) : ℚ :=
  D.backoff.getD attempt (D.backoff.getLast h)

/-- The attempts from `attempt` on, `n` of them, with the sleeps between them. -/
def rounds (D : WebhookDispatcher) (h : D.backoff ≠ []) (call : WebhookPost) :
    (n attempt : ℕ) → List DeliverEffect
  | 0, _ => []
  | 1, attempt => D.attemptEffects call attempt
  | n + 2, attempt => D.attemptEffects call attempt ++ .sleep (D.seconds h attempt) ::
      rounds D h call (n + 1) (attempt + 1)

/-- The calls in a record. -/
def posts (effects : List DeliverEffect) : List WebhookPost :=
  effects.filterMap fun
    | .post call => some call
    | _ => none

/-- The sleeps in a record. -/
def sleeps (effects : List DeliverEffect) : List ℚ :=
  effects.filterMap fun
    | .sleep s => some s
    | _ => none

/-- The last status among the first `n` answers from `attempt` on. -/
def lastStatus (answers : ℕ → PostOutcome) (n attempt : ℕ) (before : ℕ) : ℕ :=
  ((List.range' attempt n).filterMap fun i ↦ (answers i).status?).getLast?.getD before

variable {P : Primitives} {D : WebhookDispatcher} {answers : ℕ → PostOutcome} {call : WebhookPost}
  {deliveryId : String} {s : DeliverProgress} {n left attempt : ℕ} {h : D.backoff ≠ []}

theorem backoffEffects_of_lt (h : D.backoff ≠ []) (hlt : attempt + 1 < D.maxAttempts) :
    D.backoffEffects attempt = .ok [.sleep (D.seconds h attempt)] := by
  have hpos : 0 < D.backoff.length := List.length_pos_of_ne_nil h
  rw [backoffEffects, if_pos hlt]
  by_cases hattempt : attempt < D.backoff.length
  · rw [Nat.min_eq_left (by omega), List.getElem?_eq_getElem hattempt, seconds,
      List.getD_eq_getElem]
  · rw [Nat.min_eq_right (by omega), List.getElem?_eq_getElem (by omega), seconds,
      List.getD_eq_default _ _ (by omega), List.getLast_eq_getElem]

/-- An attempt that is not the last is followed by a sleep. -/
theorem exists_backoffEffects {D : WebhookDispatcher} (h : D.backoff ≠ []) (call : WebhookPost)
    (hleft : attempt + left + 1 = D.maxAttempts) (hn : 0 < n ↔ 0 < left) :
    ∃ pause, D.backoffEffects attempt = .ok pause ∧
      D.attemptEffects call attempt ++ pause ++ D.rounds h call n (attempt + 1) =
        D.rounds h call (n + 1) attempt := by
  cases n with
  | zero =>
    have hlast : ¬attempt + 1 < D.maxAttempts := by omega
    refine ⟨[], if_neg hlast, ?_⟩
    rw [rounds, rounds, List.append_nil, List.append_nil]
  | succ n =>
    have hlt : attempt + 1 < D.maxAttempts := by omega
    refine ⟨_, backoffEffects_of_lt h hlt, ?_⟩
    rw [rounds, List.append_assoc, List.singleton_append]

theorem deliverLoop_of_accepted (hanswer : (answers attempt).accepted = true) :
    D.deliverLoop answers call deliveryId (left + 1) attempt s =
      (D.attemptEffects call attempt, .ok
        { delivered := true, attempts := s.attempts + 1,
          lastStatus := (answers attempt).status?.getD s.lastStatus,
          deliveryId := deliveryId }) := by
  rw [deliverLoop]
  cases heq : answers attempt with
  | response status =>
    rw [heq] at hanswer
    simp only [if_pos (of_decide_eq_true hanswer), PostOutcome.status?, Option.getD_some]
  | httpError e | otherError e => rw [heq] at hanswer; cases hanswer

/-- A failed attempt goes on with the next one. -/
theorem deliverLoop_of_not_accepted {pause : List DeliverEffect} (call : WebhookPost)
    (deliveryId : String) (left : ℕ) (s : DeliverProgress)
    (hpause : D.backoffEffects attempt = .ok pause) (hanswer : (answers attempt).accepted = false)
    (hother : ∀ e, answers attempt ≠ .otherError e) :
    ∃ lastError, D.deliverLoop answers call deliveryId (left + 1) attempt s =
      ((D.attemptEffects call attempt ++ pause ++ (D.deliverLoop answers call deliveryId left
          (attempt + 1) ⟨s.attempts + 1, (answers attempt).status?.getD s.lastStatus,
            lastError⟩).1),
        (D.deliverLoop answers call deliveryId left (attempt + 1)
          ⟨s.attempts + 1, (answers attempt).status?.getD s.lastStatus, lastError⟩).2) := by
  rw [deliverLoop]
  cases heq : answers attempt with
  | response status =>
    rw [heq] at hanswer
    refine ⟨"HTTP " ++ toString status, ?_⟩
    simp only [if_neg (of_decide_eq_false hanswer), hpause, PostOutcome.status?, Option.getD_some]
  | httpError e =>
    refine ⟨e.typeName ++ ": " ++ e.text, ?_⟩
    simp only [hpause, PostOutcome.status?, Option.getD_none]
  | otherError e => exact absurd heq (hother e)

theorem lastStatus_succ (answers : ℕ → PostOutcome) (n attempt before : ℕ) :
    lastStatus answers (n + 1) attempt before =
      lastStatus answers n (attempt + 1) ((answers attempt).status?.getD before) := by
  rw [lastStatus, lastStatus, List.range'_succ]
  cases hstatus : (answers attempt).status? with
  | none => simp only [List.filterMap_cons, hstatus, Option.getD_none]
  | some status => simp only [List.filterMap_cons, hstatus, List.getLast?_cons, Option.getD_some]

/-- **The loop from any attempt on**: its record and its result are those of the attempts up to the
first accepted answer. -/
theorem deliverLoop_eq {D : WebhookDispatcher} (call : WebhookPost) (deliveryId : String)
    (h : D.backoff ≠ [])
    (hother : ∀ i e, answers i ≠ .otherError e) (hleft : attempt + left = D.maxAttempts)
    (hn : n = Retry.attempts (fun i ↦ (answers (attempt + i)).accepted) left) :
    ∃ error, D.deliverLoop answers call deliveryId left attempt s =
      (D.rounds h call n attempt, .ok
        { delivered := (List.range' attempt n).any fun i ↦ (answers i).accepted
          attempts := s.attempts + n
          lastStatus := lastStatus answers n attempt s.lastStatus
          deliveryId := deliveryId
          error := error }) := by
  induction left generalizing attempt s n with
  | zero =>
    obtain rfl : n = 0 := hn
    exact ⟨s.lastError, rfl⟩
  | succ left ih =>
    cases hanswer : (answers attempt).accepted with
    | true =>
      -- the loop returns from the middle, without a sleep
      rw [Retry.attempts_of_good hanswer] at hn
      subst hn
      refine ⟨"", ?_⟩
      rw [deliverLoop_of_accepted hanswer, lastStatus_succ]
      simp [rounds, lastStatus, hanswer]
    | false =>
      rw [Retry.attempts_of_not_good hanswer] at hn
      obtain ⟨m, rfl⟩ : ∃ m, n = m + 1 := ⟨_, hn⟩
      have hm : m = Retry.attempts (fun i ↦ (answers (attempt + 1 + i)).accepted) left := by
        rw [Nat.add_right_cancel hn]
        congr 1
        funext i
        rw [Nat.add_right_comm, Nat.add_assoc]
      -- a sleep is made exactly if another attempt is
      have hpos : 0 < m ↔ 0 < left := by
        rw [hm]
        exact ⟨fun hlt ↦ hlt.trans_le (Retry.untilFirst_attempts _ _).le, Retry.attempts_pos⟩
      obtain ⟨pause, hpause, hrounds⟩ :=
        exists_backoffEffects h call (by omega : attempt + left + 1 = D.maxAttempts) hpos
      obtain ⟨lastError, hloop⟩ :=
        deliverLoop_of_not_accepted call deliveryId left s hpause hanswer (hother attempt)
      obtain ⟨error, hrest⟩ :=
        ih (s := ⟨s.attempts + 1, (answers attempt).status?.getD s.lastStatus, lastError⟩)
          (by omega : attempt + 1 + left = D.maxAttempts) hm
      refine ⟨error, ?_⟩
      rw [hloop, hrest, hrounds, lastStatus_succ, List.range'_succ, List.any_cons, hanswer,
        Bool.false_or]
      simp only [Nat.add_assoc, Nat.add_comm 1 m]

/-! ## Calls and sleeps -/

theorem posts_append (e e' : List DeliverEffect) : posts (e ++ e') = posts e ++ posts e' :=
  List.filterMap_append

theorem sleeps_append (e e' : List DeliverEffect) : sleeps (e ++ e') = sleeps e ++ sleeps e' :=
  List.filterMap_append

theorem posts_sleep_cons (t : ℚ) (e : List DeliverEffect) : posts (.sleep t :: e) = posts e := rfl

theorem sleeps_sleep_cons (t : ℚ) (e : List DeliverEffect) :
    sleeps (.sleep t :: e) = t :: sleeps e := rfl

theorem posts_attemptEffects (D : WebhookDispatcher) (call : WebhookPost) (attempt : ℕ) :
    posts (D.attemptEffects call attempt) = [call] := by
  rw [attemptEffects, posts_append]
  split_ifs <;> rfl

theorem sleeps_attemptEffects (D : WebhookDispatcher) (call : WebhookPost) (attempt : ℕ) :
    sleeps (D.attemptEffects call attempt) = [] := by
  rw [attemptEffects, sleeps_append]
  split_ifs <;> rfl

/-- Every attempt makes the same call. -/
theorem posts_rounds (h : D.backoff ≠ []) (call : WebhookPost) (n attempt : ℕ) :
    posts (D.rounds h call n attempt) = List.replicate n call := by
  induction n generalizing attempt with
  | zero => rfl
  | succ n ih =>
    cases n with
    | zero => exact posts_attemptEffects D call attempt
    | succ n =>
      rw [rounds, posts_append, posts_attemptEffects, posts_sleep_cons, ih]
      rfl

/-- There is a sleep between two attempts. -/
theorem sleeps_rounds (h : D.backoff ≠ []) (call : WebhookPost) (n attempt : ℕ) :
    sleeps (D.rounds h call n attempt) = (List.range' attempt (n - 1)).map (D.seconds h) := by
  induction n generalizing attempt with
  | zero => rfl
  | succ n ih =>
    cases n with
    | zero => exact sleeps_attemptEffects D call attempt
    | succ n =>
      rw [rounds, sleeps_append, sleeps_attemptEffects, sleeps_sleep_cons, ih]
      rfl

/-- What a delivery with these answers records and returns. -/
structure Delivered (P : Primitives) (D : WebhookDispatcher) (h : D.backoff ≠ [])
    (config : WebhookConfig) (task : EndedTask) (deliveryId : String) (now : ℤ)
    (answers : ℕ → PostOutcome) (effects : List DeliverEffect) (d : WebhookDelivery) : Prop where
  /-- The calls are made until the first accepted answer, or until all attempts are spent. -/
  untilFirst : Retry.UntilFirst (fun i ↦ (answers i).accepted) D.maxAttempts d.attempts
  delivered : d.delivered = true ↔ ∃ i < d.attempts, (answers i).accepted = true
  lastStatus : d.lastStatus =
    (((List.range d.attempts).filterMap fun i ↦ (answers i).status?).getLast?).getD 0
  sameId : d.deliveryId = deliveryId
  posts : posts effects =
    List.replicate d.attempts (webhookPost P config task deliveryId now)
  signed : ∀ call ∈ WebhookDispatcher.posts effects,
    ("X-Orchestra-Signature", signBody P config.secret call.content) ∈ call.headers ∧
      ("X-Orchestra-Delivery-Id", deliveryId) ∈ call.headers
  sleeps : sleeps effects = (List.range (d.attempts - 1)).map (D.seconds h)
  /-- The sleeps are between the calls. -/
  order : effects = D.rounds h (webhookPost P config task deliveryId now) d.attempts 0

def partnerConfig : WebhookConfig := ⟨"https://partner.example/hook", "whsec"⟩

def endedTask : EndedTask := ⟨"task-1", "succeeded", some "plan-1", [], none⟩

def recoveringAnswers : ℕ → PostOutcome
  | 0 => .httpError ⟨"ConnectError", "connection refused"⟩
  | 1 => .response 503
  | _ => .response 204

theorem recoveringAnswers_ne (i : ℕ) (e : Raised) : recoveringAnswers i ≠ .otherError e := by
  match i with
  | 0 | 1 | _ + 2 => exact nofun

/-- The third call is the last. -/
example : (deliver ⟨fun _ ↦ [0], fun _ _ ↦ [0], fun _ _ ↦ by decide⟩ {} partnerConfig endedTask
    "d-1" 0 recoveringAnswers).2 = .ok ⟨true, 3, 204, "d-1", ""⟩ := rfl

end WebhookDispatcher

end Webhooks

end Orchestra
