import Orchestra.Foundation.Polling
import Orchestra.Sdk.Errors

/-!
# Waiting for a task

`wait_for_completion` asks for the state of a task, and between two requests it sleeps; once the
clock has passed the deadline it raises `TimeoutError`. The loop has no bound of its own. Here it
runs for a number of rounds and has no result when they are used up.

If the clock does not run backwards and a sleep lasts as long as it was asked to, a bounded number
of requests is enough: one for each interval that fits before the deadline, and one more
(`wait_within`).
-/

namespace Orchestra

open Interaction

namespace Sdk

/-! ## The calls of a client -/

/-- What a client calls: the clock, the event loop, the HTTP library. -/
inductive HttpCall where
  /-- `time.monotonic()`. -/
  | monotonic
  | sleep (seconds : ℚ)
  | post (url : String) (headers : List (String × String)) (body : Json)
  | get (url : String) (headers : List (String × String))

def HttpReply : HttpCall → Type
  | .monotonic => ℚ
  | .sleep _ => Unit
  | .post _ _ _ | .get _ _ => Response

/-- `OrchestraClient`. -/
structure OrchestraClient where
  baseUrl : String
  tenantId : String
  bearerToken : Option String := none

namespace OrchestraClient

abbrev Prog (α : Type) := Program HttpCall HttpReply ClientError α

abbrev HttpStep := Step HttpCall HttpReply ClientError

abbrev HttpTrace := Trace HttpCall HttpReply ClientError

/-- `_headers`. -/
def headers (client : OrchestraClient) : List (String × String) :=
  [("X-Tenant-Id", client.tenantId), ("Accept", "application/json")] ++
    match client.bearerToken with
    | none | some "" => []
    | some token => [("Authorization", "Bearer " ++ token)]

end OrchestraClient

/-- The states a task is settled in. -/
def terminalStates : List String := ["succeeded", "failed", "cancelled"]

/-- `state in TERMINAL_STATES`. -/
def isTerminalState : Json → Except Raised Bool
  | .str state => .ok (decide (state ∈ terminalStates))
  | .arr _ => .error ⟨"TypeError", "unhashable type: 'list'"⟩
  | .obj _ => .error ⟨"TypeError", "unhashable type: 'dict'"⟩
  | _ => .ok false

/-- `TaskStatus`, whose fields hold what the body had. -/
structure TaskStatus where
  taskRunId : Json
  state : Json
  planId : Json
  nodeResults : Json
  error : Json

namespace TaskStatus

/-- `from_dict`. -/
def fromDict (d : Json) : Except Raised TaskStatus := do
  let taskRunId ← d.getD "task_run_id" (.str "")
  let state ← d.getD "state" (.str "unknown")
  let planId ← d.getD "plan_id" .null
  let nodeResults ← d.getD "node_results" (.obj [])
  let error ← d.getD "error" .null
  return ⟨taskRunId, state, planId, nodeResults, error⟩

/-- `is_terminal`. -/
def isTerminal (status : TaskStatus) : Except Raised Bool := isTerminalState status.state

end TaskStatus

namespace OrchestraClient

section Calls

-- `int` of a float, by its text, and the text of a float
variable (floatInt : String → Except Raised ℤ) (floatText : ℚ → String) (client : OrchestraClient)

/-- `_get`. -/
def get (path : String) : Prog Json := do
  let response ← Program.perform (HttpCall.get (client.baseUrl ++ path) client.headers)
  .ofExcept (parse floatInt response)

/-- What `get_task` raises for an exception of `_get`. -/
def repackage (taskRunId : String) : ClientError → ClientError
  | .orchestra e =>
    if e.errorClass = .notFoundError then
      .orchestra
        { errorClass := .taskNotFoundError
          message := "task " ++ taskRunId ++ " not found"
          problem := e.problem }
    else .orchestra e
  | e => e

/-- `get_task`. -/
def getTask (taskRunId : String) : Prog TaskStatus := do
  let data ← (get floatInt client ("/api/v1/orchestra/tasks/" ++ taskRunId)).tryCatch fun e ↦
    .raise (repackage taskRunId e)
  .ofExcept ((TaskStatus.fromDict data).mapError .python)

/-- The `TimeoutError`. -/
def timeoutError (taskRunId : String) (timeout : ℚ) (status : TaskStatus) : ClientError :=
  .python ⟨"TimeoutError", "task " ++ taskRunId ++ " did not complete within " ++ floatText timeout ++
    "s (state=" ++ status.state.pyStr ++ ")"⟩

/-- One turn of the loop. -/
def waitRound (taskRunId : String) (timeout pollInterval deadline : ℚ) (_round : ℕ) :
    Prog (Option (Option TaskStatus)) := do
  let status ← getTask floatInt client taskRunId
  if ← Program.ofExcept (status.isTerminal.mapError .python) then
    return some (some status)
  else
    let now : ℚ ← Program.perform HttpCall.monotonic
    if deadline ≤ now then
      .raise (timeoutError floatText taskRunId timeout status)
    else
      Program.perform (HttpCall.sleep pollInterval)
      return none

/-- `wait_for_completion`, for at most `rounds` turns of the loop. -/
def waitForCompletion (taskRunId : String) (timeout pollInterval : ℚ) (rounds : ℕ) :
    Prog (Option TaskStatus) := do
  let start : ℚ ← Program.perform HttpCall.monotonic
  Program.poll
    (waitRound floatInt floatText client taskRunId timeout pollInterval (start + timeout))
    (pure none) rounds 0

/-! ## The clock -/

/-- The earliest time the clock can show after a call: a reading stands until the next one, and a
sleep adds to it. -/
def clockStep (earliest : Option ℚ) : HttpStep → Option ℚ
  | ⟨.monotonic, .ok now⟩ => some now
  | ⟨.sleep seconds, .ok _⟩ => earliest.map fun c ↦ c + seconds
  | _ => earliest

def earliest (t : HttpTrace) : Option ℚ := t.foldl clockStep none

theorem earliest_concat (t : HttpTrace) (s : HttpStep) :
    earliest (t ++ [s]) = clockStep (earliest t) s :=
  List.foldl_concat clockStep none s t

/-- The clock does not run backwards, and sleeps last. -/
def Steady (t : HttpTrace) : HttpStep → Prop
  | ⟨.monotonic, .ok now⟩ => ∀ c ∈ earliest t, c ≤ now
  | _ => True

/-! ## The requests -/

def isGet : HttpStep → Bool
  | ⟨.get _ _, _⟩ => true
  | _ => false

/-- The requests for the state. -/
def gets (t : HttpTrace) : ℕ := t.countP isGet

theorem gets_concat (t : HttpTrace) (s : HttpStep) :
    gets (t ++ [s]) = gets t + if isGet s then 1 else 0 := by
  rw [gets, List.countP_append, List.countP_singleton]
  rfl

/-- The status of the task in what a request gave. -/
def readTask (taskRunId : String) (reply : Except ClientError Response) :
    Except ClientError TaskStatus :=
  match reply.bind (parse floatInt) with
  | .ok data => (TaskStatus.fromDict data).mapError .python
  | .error e => .error (repackage taskRunId e)

/-- The request of `get_task`. -/
def taskCall (taskRunId : String) : HttpCall :=
  .get (client.baseUrl ++ ("/api/v1/orchestra/tasks/" ++ taskRunId)) client.headers

theorem getTask_eq (taskRunId : String) : getTask floatInt client taskRunId =
    .call (taskCall client taskRunId) fun reply ↦ .ofExcept (readTask floatInt taskRunId reply) := by
  change Program.call _ _ = _
  congr 1
  funext reply
  cases reply with
  | error e => rfl
  | ok response =>
    change Program.bind _ (Program.tryCatch _ (Program.ofExcept (parse floatInt response))) =
      Program.ofExcept (match parse floatInt response with | .ok _ => _ | .error _ => _)
    cases parse floatInt response <;> rfl

/-! ## Waiting -/

/-- The first call has read the clock. -/
def Started (start : ℚ) (t : HttpTrace) : Prop := t.head? = some ⟨.monotonic, .ok start⟩

theorem Started.append {start : ℚ} {t : HttpTrace} (h : Started start t) (t' : HttpTrace) :
    Started start (t ++ t') := by
  rw [Started, List.head?_append, h]
  rfl

/-- The request is the last call, and a status was read from it. -/
def Answered (taskRunId : String) (status : TaskStatus) (t : HttpTrace) : Prop :=
  ∃ pre reply, t = pre ++ [⟨taskCall client taskRunId, reply⟩] ∧
    readTask floatInt taskRunId reply = .ok status

/-- How waiting ends with an exception. -/
inductive Stopped (taskRunId : String) (timeout : ℚ) : ClientError → HttpTrace → Prop
  /-- The deadline has passed, and the status was not a terminal one. -/
  | late {pre : HttpTrace} {status : TaskStatus} {start now : ℚ}
      (hstart : Started start pre)
      (hanswered : Answered floatInt client taskRunId status pre)
      (hstate : status.isTerminal = .ok false) (hlate : start + timeout ≤ now) :
      Stopped taskRunId timeout (timeoutError floatText taskRunId timeout status)
        (pre ++ [⟨.monotonic, .ok now⟩])
  /-- The clock or the sleep has raised. -/
  | call {pre : HttpTrace} {c : HttpCall} {e : ClientError} :
      Stopped taskRunId timeout e (pre ++ [⟨c, .error e⟩])
  /-- There is no status in what the request gave. -/
  | task {pre : HttpTrace} {reply : Except ClientError Response} {e : ClientError}
      (hread : readTask floatInt taskRunId reply = .error e) :
      Stopped taskRunId timeout e (pre ++ [⟨taskCall client taskRunId, reply⟩])
  /-- The state in the status is no text. -/
  | state {t : HttpTrace} {status : TaskStatus} {e : Raised}
      (hanswered : Answered floatInt client taskRunId status t)
      (hstate : status.isTerminal = .error e) : Stopped taskRunId timeout (.python e) t

/-- Before a round. -/
structure Waiting (start timeout pollInterval : ℚ) (k : ℕ) (t : HttpTrace) : Prop where
  started : Started start t
  gets : gets t = k
  clock : ∃ c ∈ earliest t, start + k * pollInterval ≤ c
  /-- No clock was past the deadline. -/
  early : ∀ j < k, j * pollInterval < timeout

/-- The requests that fit before the deadline, and one more. -/
def Frugal (timeout pollInterval : ℚ) (t : HttpTrace) : Prop :=
  gets t ≤ ⌈timeout / pollInterval⌉₊ + 1

section Rounds

variable {floatInt floatText client} {taskRunId : String} {start timeout pollInterval : ℚ} {k : ℕ}
  {t : HttpTrace}

theorem Waiting.le_ceil (h : Waiting start timeout pollInterval k t) (hpos : 0 < pollInterval) :
    k ≤ ⌈timeout / pollInterval⌉₊ := by
  cases k with
  | zero => exact Nat.zero_le _
  | succ k =>
    have hlt : (k : ℚ) * pollInterval < timeout := h.early k (Nat.lt_succ_self k)
    exact Nat.lt_ceil.mpr ((lt_div_iff₀ hpos).mpr hlt)

/-- The request of a round is one that fits. -/
theorem Waiting.frugal (h : Waiting start timeout pollInterval k t) (hpos : 0 < pollInterval)
    {reply : Except ClientError Response} :
    Frugal timeout pollInterval (t ++ [⟨taskCall client taskRunId, reply⟩]) := by
  rw [Frugal, gets_concat, h.gets]
  exact Nat.succ_le_succ (h.le_ceil hpos)

/-- After a round that was not too late. -/
theorem Waiting.next (h : Waiting start timeout pollInterval k t)
    {reply : Except ClientError Response} {now : ℚ} (hearly : now < start + timeout)
    (hnow : start + k * pollInterval ≤ now) :
    Waiting start timeout pollInterval (k + 1) (((t ++ [⟨taskCall client taskRunId, reply⟩]) ++
      [⟨.monotonic, .ok now⟩]) ++ [⟨.sleep pollInterval, .ok ()⟩]) where
  started := ((h.started.append _).append _).append _
  gets := by
    rw [gets_concat, gets_concat, gets_concat, h.gets]
    rfl
  clock := by
    refine ⟨now + pollInterval, ?_, ?_⟩
    · rw [earliest_concat, earliest_concat]
      rfl
    · push_cast
      linarith
  early j hj := by
    rcases Nat.lt_succ_iff_lt_or_eq.mp hj with hlt | rfl
    · exact h.early j hlt
    · linarith

theorem Frugal.concat (h : Frugal timeout pollInterval t) {s : HttpStep} (hs : isGet s = false) :
    Frugal timeout pollInterval (t ++ [s]) := by
  rw [Frugal, gets_concat, hs]
  exact h

theorem getTask_triple {A : HttpTrace → HttpStep → Prop} {P : HttpTrace → Prop} :
    Triple A P (getTask floatInt client taskRunId)
      (fun status t ↦ ∃ pre reply, P pre ∧ t = pre ++ [⟨taskCall client taskRunId, reply⟩] ∧
        readTask floatInt taskRunId reply = .ok status)
      fun e t ↦ ∃ pre reply, P pre ∧ t = pre ++ [⟨taskCall client taskRunId, reply⟩] ∧
        readTask floatInt taskRunId reply = .error e := by
  rw [getTask_eq]
  intro t ht reply _
  exact Triple.ofExcept (P := (· = t ++ [⟨taskCall client taskRunId, reply⟩]))
    (fun status hread _ heq ↦ ⟨t, reply, ht, heq, hread⟩)
    (fun e hread _ heq ↦ ⟨t, reply, ht, heq, hread⟩) _ rfl

/-- **One round.** It returns a terminal status, it stops with an exception, or the next round is not
too late. -/
theorem waitRound_triple (hpos : 0 < pollInterval) :
    Triple Steady (Waiting start timeout pollInterval k)
      (waitRound floatInt floatText client taskRunId timeout pollInterval (start + timeout) k)
      (settledOr (fun r t ↦ ∃ status, r = some status ∧ Frugal timeout pollInterval t ∧
          Answered floatInt client taskRunId status t ∧ status.isTerminal = .ok true)
        (Waiting start timeout pollInterval (k + 1)))
      fun e t ↦ Frugal timeout pollInterval t ∧
        Stopped floatInt floatText client taskRunId timeout e t := by
  refine Triple.bind (getTask_triple.post_error fun e t hraised ↦ ?_) fun status ↦ ?_
  · obtain ⟨pre, reply, hpre, rfl, hread⟩ := hraised
    exact ⟨hpre.frugal hpos, .task hread⟩
  rintro t ⟨pre, reply, hpre, rfl, hread⟩
  have hfrugal : Frugal timeout pollInterval (pre ++ [⟨taskCall client taskRunId, reply⟩]) :=
    hpre.frugal hpos
  have hanswered : Answered floatInt client taskRunId status
      (pre ++ [⟨taskCall client taskRunId, reply⟩]) := ⟨pre, reply, rfl, hread⟩
  rw [sat_bind]
  cases hstate : status.isTerminal with
  | error e => exact ⟨hfrugal, .state hanswered hstate⟩
  | ok terminal =>
    cases terminal with
    | true => exact ⟨status, rfl, hfrugal, hanswered, hstate⟩
    | false =>
      rintro (e | ⟨now : ℚ⟩) hsteady
      · exact And.intro (hfrugal.concat rfl) .call
      obtain ⟨c, hc, hle⟩ := hpre.clock
      have hnow : start + k * pollInterval ≤ now := by
        refine hle.trans (hsteady c ?_)
        rw [earliest_concat]
        exact hc
      have hstart : Started start (pre ++ [⟨taskCall client taskRunId, reply⟩]) :=
        hpre.started.append _
      change Sat _ (if start + timeout ≤ now then _ else _) _ _
      by_cases hlate : start + timeout ≤ now
      · rw [if_pos hlate]
        exact And.intro (hfrugal.concat rfl) (.late hstart hanswered hstate hlate)
      · rw [if_neg hlate]
        rintro (e | ⟨⟩) -
        · exact And.intro ((hfrugal.concat rfl).concat rfl) .call
        · exact hpre.next (not_le.mp hlate) hnow

/-- **Waiting ends in time.** If the clock does not run backwards and sleeps last, waiting makes at
most one request for each interval that fits before the deadline, and one more. It returns the
terminal status of its last request, or it stops with the exception of its last call or with
`TimeoutError` after the deadline. -/
theorem wait_within (floatInt : String → Except Raised ℤ) (floatText : ℚ → String)
    (client : OrchestraClient) (taskRunId : String) {timeout pollInterval : ℚ} {rounds : ℕ}
    (hpos : 0 < pollInterval) (hrounds : ⌈timeout / pollInterval⌉₊ < rounds) :
    Triple Steady (· = [])
      (waitForCompletion floatInt floatText client taskRunId timeout pollInterval rounds)
      (fun r t ↦ ∃ status, r = some status ∧ Frugal timeout pollInterval t ∧
        Answered floatInt client taskRunId status t ∧ status.isTerminal = .ok true)
      fun e t ↦ Frugal timeout pollInterval t ∧
        Stopped floatInt floatText client taskRunId timeout e t := by
  refine Triple.bind (Q := fun start ↦ Waiting start timeout pollInterval 0)
    (Triple.perform ?_ ?_) fun start ↦ ?_
  · rintro t (start : ℚ) rfl -
    have hzero : start + (0 : ℕ) * pollInterval ≤ start := by simp
    exact ⟨rfl, rfl, ⟨start, rfl, hzero⟩, fun j hj ↦ absurd hj (Nat.not_lt_zero j)⟩
  · rintro t e rfl -
    exact ⟨Nat.zero_le _, @Stopped.call _ _ _ _ _ [] _ _⟩
  · refine Triple.poll (fun j _ _ ↦ waitRound_triple hpos) (Triple.ret fun t ht ↦ ?_)
    -- the rounds cannot be used up
    have hle := ht.le_ceil hpos
    omega

def sampleClient : OrchestraClient := { baseUrl := "http://127.0.0.1:8000", tenantId := "acme" }

theorem wait_within_second : Triple Steady (· = [])
    (waitForCompletion (fun _ ↦ .ok 0) (fun _ ↦ "1.0") sampleClient "r1" 1 (1 / 2) 3)
    (fun r t ↦ ∃ status, r = some status ∧ Frugal 1 (1 / 2) t ∧
      Answered (fun _ ↦ .ok 0) sampleClient "r1" status t ∧ status.isTerminal = .ok true)
    fun e t ↦ Frugal 1 (1 / 2) t ∧
      Stopped (fun _ ↦ .ok 0) (fun _ ↦ "1.0") sampleClient "r1" 1 e t :=
  wait_within (fun _ ↦ .ok 0) (fun _ ↦ "1.0") sampleClient "r1" (by norm_num) (by norm_num)

end Rounds

end Calls

end OrchestraClient

end Sdk

end Orchestra
