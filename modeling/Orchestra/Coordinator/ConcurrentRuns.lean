import Mathlib.Logic.Function.Basic
import Orchestra.Coordinator.EngineSteps
import Orchestra.Coordinator.GateInvariants
import Orchestra.Foundation.Cooperative
import Orchestra.Foundation.Unwinding

/-!
# Runs on one coordinator

Several runs are started on one coordinator. They share its fields, its store and its bus, and each
has its local variables. The event loop lets one of them go on at a time, and changes to another one
only where a call really suspends: at an adapter and at the wait for an approval. Between the turns
approvals are decided.

A call is answered as in a run of its own (`answer`). Only the approvals are those of the
coordinator with its registered events, so that `decide_approval` is the one of the approval gate.
-/

namespace Orchestra

/-- What a decision has written into a payload. -/
def Bucket.decisionFields (b : Bucket) : List (String × Json) :=
  [("decision", b.decision.map .str), ("decided_by", b.decidedBy.map .str),
    ("decided_at", b.decidedAt.map fun decidedAt ↦ .str (utcNowIso (decidedAt / 1000).toNat)),
    ("rationale", b.rationale.map .str),
    ("version", b.version.map fun version ↦ .int version)].filterMap fun f ↦ f.2.map (f.1, ·)

namespace Engine

open Interaction

/-! ## What is shared and what is not -/

/-- What the runs share: the store, the bus and the fields of the coordinator that change. -/
structure Hub where
  db : Database := {}
  bus : EventBus := {}
  initialInputs : Option Dict := none
  /-- The registered approvals. -/
  co : Coordinator

/-- The local variables of a run: `node_results`, and the approval whose event it waits on. -/
structure Locals where
  results : Dict := []
  gate : Option (String × String) := none

/-- The state a call of a run is answered from. -/
def Hub.world (h : Hub) (results : Dict) : World where
  db := h.db
  bus := h.bus
  initialInputs := h.initialInputs
  results := results

/-- What is shared after a call. -/
def Hub.after (h : Hub) (w : World) : Hub :=
  { h with db := w.db, bus := w.bus, initialInputs := w.initialInputs }

/-- What a run draws from its surroundings by the calls it has made: identifiers, the readings of
the clocks, the choices of the database, the answers of an injected approval handler and the
exceptions of its calls. -/
structure Draws where
  newId : RunTrace → String
  utcNow : RunTrace → ℕ
  monotonic : RunTrace → ℚ
  now : RunTrace → Timestamp
  approvalRowId : RunTrace → NewId
  choice : RunTrace → ℕ
  approvalHandler : RunTrace → Dict → Except Raised Dict
  raises : RunTrace → Cmd → Option Raised
  newId_fresh : ∀ t, newId t ∉ issuedIds t
  hyphen_mem_newId : ∀ t, '-' ∈ (newId t).toList

/-- The surroundings of a run in which nothing else moves during a turn. The adapters are functions
of the request. -/
def Draws.env (d : Draws) (adapter : AdapterRequest → Except Raised AdapterResult)
    (taskRunId : String) : Env taskRunId where
  newId t _ := d.newId t
  utcNow := d.utcNow
  monotonic := d.monotonic
  now := d.now
  approvalRowId := d.approvalRowId
  choice := d.choice
  adapter _ := adapter
  approvalHandler := d.approvalHandler
  decided _ bucket := bucket
  raises := d.raises
  others _ w := w
  newId_fresh t _ := d.newId_fresh t
  hyphen_mem_newId t _ := d.hyphen_mem_newId t
  others_keep := keeps_idle taskRunId

/-! ## The calls -/

/-- The calls at which a coroutine really suspends. -/
def Cmd.suspends : Cmd → Bool
  | .invoke _ | .awaitDecision _ | .handleApproval _ _ _ => true
  | _ => false

def clock? : RunStep → Option ℕ
  | ⟨.utcNow, .ok now⟩ => some now
  | _ => none

/-- The clock as it was read last. -/
def lastNow (t : RunTrace) : ℕ := ((t.filterMap clock?).getLast?).getD 0

/-- The event and the payload that are registered; the payload has the time that was read last. -/
def newHandle (t : RunTrace) (taskRunId nodeId : String) (bucket : Dict) : Handle where
  bucket :=
    { requestedAt := (lastNow t : ℤ) * 1000
      taskRunId := taskRunId
      nodeId := nodeId
      request := (((Json.obj bucket).get? "request").map Json.items).getD []
      approvalId := textField ((Json.obj bucket).get? "approval_id") }

/-- The event a run waits on. -/
def Hub.awaited (h : Hub) (l : Locals) : Option Handle :=
  (l.gate.bind h.co.registered).map Prod.snd

/-- The payload of the event a run waits on. -/
def Hub.payload (h : Hub) (l : Locals) (bucket : Dict) : Dict :=
  match h.awaited l with
  | some handle => bucket ++ handle.bucket.decisionFields
  | none => bucket

/-- The answer to a suspended call is there: only the event of an approval is waited for. -/
def ready : Hub × Locals → Cmd → Bool
  | (h, l), .awaitDecision _ => (h.awaited l).any Handle.isSet
  | _, _ => true

variable (cfg : Config)

/-- The answer to a call of a run. -/
def serve {taskRunId : String} (env : Env taskRunId) : Machine Cmd Reply Raised (Hub × Locals)
  | (h, l), t, .registerApproval id nodeId bucket =>
    (.ok (), { h with co := h.co.register (newHandle t id nodeId bucket) },
      { l with gate := some (id, nodeId) })
  | (h, l), _, .awaitDecision bucket => (.ok (h.payload l bucket), h, l)
  | (h, l), t, c =>
    match fault env t c with
    | some e => (.error e, h, l)
    | none =>
      let r := answer cfg env (h.world l.results) t c
      (r.1, h.after r.2, { l with results := r.2.results })

/-! ## The system -/

/-- A run: what is left of it, its local variables and the calls it has made. -/
structure Thread where
  program : Prog CoordinatorResult
  locals : Locals := {}
  trace : RunTrace := []

/-- What a run has ended with. -/
def Thread.result? (th : Thread) : Option (Except Raised CoordinatorResult) :=
  match th.program with
  | .ret r => some (.ok r)
  | .raise e => some (.error e)
  | .call _ _ => none

structure Concurrent (ι : Type) where
  hub : Hub
  threads : ι → Thread

/-- What happens next: a run has the turn, or somebody decides. There is one coordinator, so the one
that the request names is not looked at. -/
inductive Move (ι : Type) where
  | turn (i : ι)
  | decide (q : DecisionRequest)

variable {ι : Type} (calls : ι → RunArgs)

/-- The task a move is about. -/
def Move.task : Move ι → String
  | .turn i => (calls i).taskRunId
  | .decide q => q.key.1

namespace Concurrent

/-- The coordinator with its runs before any of them has had a turn. -/
def start (h : Hub) : Concurrent ι := ⟨h, fun i ↦ { program := run cfg (calls i) }⟩

variable (adapter : AdapterRequest → Except Raised AdapterResult) (draws : ι → Draws)

/-- The turn of a run. -/
def turnOf (s : Concurrent ι) (i : ι) :
    Point Cmd Reply Raised CoordinatorResult (Hub × Locals) :=
  turn (serve cfg ((draws i).env adapter (calls i).taskRunId)) Cmd.suspends ready
    ⟨(s.threads i).program, (s.hub, (s.threads i).locals), (s.threads i).trace⟩

def step [DecidableEq ι] (s : Concurrent ι) : Move ι → Concurrent ι
  | .turn i =>
    let p := s.turnOf cfg calls adapter draws i
    ⟨p.state.1, Function.update s.threads i ⟨p.program, p.state.2, p.trace⟩⟩
  | .decide q =>
    let r := q.call s.hub.db.approvals s.hub.co
    { s with hub :=
      { s.hub with db := { s.hub.db with approvals := r.1 }, co := r.2.1 } }

end Concurrent

/-! ## What is observed of a run -/

/-- The kinds and the payloads of the events of a task. -/
def eventLog (db : Database) (taskRunId : String) : List (EventKind × Json) :=
  (db.events.rows.filter fun e ↦ decide (e.taskRunId = some taskRunId)).map
    fun e ↦ (e.kind, e.payload)

/-- How the run has ended, its results, the row of its task and its events. -/
structure Observation where
  result : Option (Except Raised CoordinatorResult)
  nodeResults : Dict
  taskRun : Option TaskRun
  events : List (EventKind × Json)

def Concurrent.observe (s : Concurrent ι) (i : ι) : Observation where
  result := (s.threads i).result?
  nodeResults := (s.threads i).locals.results
  taskRun := s.hub.db.taskRuns.find? (calls i).taskRunId
  events := eventLog s.hub.db (calls i).taskRunId

/-- The move when there is only the one run: its turn, or a decision about its task. -/
def Move.alone? [DecidableEq ι] (i : ι) : Move ι → Option (Move Unit)
  | .turn j => if j = i then some (.turn ()) else none
  | .decide q => if q.key.1 = (calls i).taskRunId then some (.decide q) else none

/-- Each run is where it would be if it were the only one that was started, with the decisions about
its task, and drew the same. -/
def RunsAsAlone [DecidableEq ι] (adapter : AdapterRequest → Except Raised AdapterResult)
    (draws : ι → Draws) (h : Hub) (moves : List (Move ι)) : Prop :=
  ∀ i,
    let alone : Unit → RunArgs := fun _ ↦ calls i
    (Transition.run (Concurrent.step cfg calls adapter draws)
        (.start cfg calls h) moves).observe calls i =
      (Transition.run (Concurrent.step cfg alone adapter fun _ ↦ draws i)
        (.start cfg alone h) (moves.filterMap (Move.alone? calls i))).observe alone ()

end Engine

end Orchestra
