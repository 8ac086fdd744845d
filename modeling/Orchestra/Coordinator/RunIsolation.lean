import Mathlib.Data.Fintype.Basic
import Orchestra.Coordinator.CallIsolation
import Orchestra.Coordinator.EngineRun

/-!
# Concurrent runs do not interfere

In a turn a run makes own calls, so a turn does the same to two states that are the same for its
task (`turn_same`), and the other tasks do not see it (`turn_ok`). The same holds of the decisions.
So a task cannot tell the runs of all tasks from those of its own (`sameFor_ownSteps`), and a run
whose task no other run has goes as it does alone (`runsAsAlone`).
-/

namespace Orchestra

namespace Engine

open Interaction Transition

variable {cfg : Config} {owner : String → String} {taskRunId : String} {d : Draws}
  {adapter : AdapterRequest → Except Raised AdapterResult} {h h' : Hub} {l l' : Locals}
  {t : RunTrace} {c : Cmd}

/-! ## A turn -/

/-- What is known in a turn that began at `h₀`. -/
structure InTurn (cfg : Config) (owner : String → String) (taskRunId : String) (h₀ : Hub)
    (p : Prog CoordinatorResult) (s : Hub × Locals) (t : RunTrace) : Prop where
  hub : HubOk cfg s.1
  thread : ThreadOk cfg owner taskRunId s.1.db.approvals p s.2 t
  stay : GatesStay h₀.db.approvals s.1.db.approvals
  others : ∀ other, taskRunId ≠ other → SameHub (OwnedBy owner other) other h₀ s.1

theorem InTurn.call {h₀ : Hub} {s : Hub × Locals}
    {k : Except Raised (Reply c) → Prog CoordinatorResult} (hd : d.OwnedBy owner taskRunId)
    (hin : InTurn cfg owner taskRunId h₀ (.call c k) s t) :
    InTurn cfg owner taskRunId h₀ (k (serve cfg (d.env adapter taskRunId) s t c).1)
      (serve cfg (d.env adapter taskRunId) s t c).2
      (t ++ [⟨c, (serve cfg (d.env adapter taskRunId) s t c).1⟩]) where
  hub := hubOk_serve hin.hub hin.thread _
  thread := threadOk_serve _ hd hin.thread
  stay := hin.stay.trans (gatesStay_serve _ _ _ _ _ _)
  others other hne := (SameHub.equivalence _ _).trans (hin.others other hne)
    (sameHub_serve hd hin.hub hin.thread hne)

/-- The state of a run that has the turn. -/
abbrev RunPoint := Point Cmd Reply Raised CoordinatorResult (Hub × Locals)

variable (adapter) in
/-- **What a turn keeps.** -/
theorem inTurn_turn (hd : d.OwnedBy owner taskRunId) {p : RunPoint} {h₀ : Hub}
    (hin : InTurn cfg owner taskRunId h₀ p.program p.state p.trace) :
    InTurn cfg owner taskRunId h₀
      (turn (serve cfg (d.env adapter taskRunId)) Cmd.suspends ready p).program
      (turn (serve cfg (d.env adapter taskRunId)) Cmd.suspends ready p).state
      (turn (serve cfg (d.env adapter taskRunId)) Cmd.suspends ready p).trace :=
  turn_invariant (J := InTurn cfg owner taskRunId h₀) (fun _ _ _ _ hcall ↦ hcall.call hd) hin

/-- A run in two hubs that are the same for its task. -/
structure Alike (cfg : Config) (owner : String → String) (taskRunId : String)
    (p : Prog CoordinatorResult) (s s' : Hub × Locals) (t : RunTrace) : Prop where
  hub : HubOk cfg s.1
  hub' : HubOk cfg s'.1
  thread : ThreadOk cfg owner taskRunId s.1.db.approvals p s.2 t
  thread' : ThreadOk cfg owner taskRunId s'.1.db.approvals p s'.2 t
  same : SameHub (OwnedBy owner taskRunId) taskRunId s.1 s'.1
  locals : s.2 = s'.2

/-- A run that holds its inputs finds the same ones in both. -/
def SameInputs (s s' : Hub × Locals) (t : RunTrace) : Prop :=
  holdsInputs t = true → s.1.initialInputs = s'.1.initialInputs

variable (adapter) in
theorem Alike.call {s s' : Hub × Locals} {k : Except Raised (Reply c) → Prog CoordinatorResult}
    (hd : d.OwnedBy owner taskRunId) (hall : Alike cfg owner taskRunId (.call c k) s s' t)
    (hslot : holdsInputs t = true → c.suspends = false →
      s.1.initialInputs = s'.1.initialInputs) :
    (serve cfg (d.env adapter taskRunId) s t c).1 =
        (serve cfg (d.env adapter taskRunId) s' t c).1 ∧
      Alike cfg owner taskRunId (k (serve cfg (d.env adapter taskRunId) s t c).1)
        (serve cfg (d.env adapter taskRunId) s t c).2
        (serve cfg (d.env adapter taskRunId) s' t c).2
        (t ++ [⟨c, (serve cfg (d.env adapter taskRunId) s t c).1⟩]) ∧
      SameInputs (serve cfg (d.env adapter taskRunId) s t c).2
        (serve cfg (d.env adapter taskRunId) s' t c).2
        (t ++ [⟨c, (serve cfg (d.env adapter taskRunId) s t c).1⟩]) := by
  obtain ⟨h, l⟩ := s
  obtain ⟨h', l'⟩ := s'
  obtain rfl : l = l' := hall.locals
  obtain ⟨hreply, hlocals, hsame⟩ := serve_same adapter hd hall.hub hall.hub'
    hall.thread hall.same hslot
  have hthread' := threadOk_serve adapter hd hall.thread'
  rw [← hreply] at hthread'
  refine ⟨hreply, ⟨hubOk_serve hall.hub hall.thread _, hubOk_serve hall.hub' hall.thread' _,
    threadOk_serve _ hd hall.thread, hthread', hsame, hlocals⟩, fun hholds ↦ ?_⟩
  exact sameInputs_serve _ hslot hholds

variable (adapter) in
/-- **A turn does the same** in two hubs that are the same for the task. At its beginning the run
does not hold its inputs: it has made no call yet, or its next call has suspended it. -/
theorem turn_same (hd : d.OwnedBy owner taskRunId) {p : Prog CoordinatorResult}
    {s s' : Hub × Locals} (hall : Alike cfg owner taskRunId p s s' t)
    (hstart : t = [] ∨ Parked Cmd.suspends p) :
    (turn (serve cfg (d.env adapter taskRunId)) Cmd.suspends ready ⟨p, s, t⟩).program =
        (turn (serve cfg (d.env adapter taskRunId)) Cmd.suspends ready ⟨p, s', t⟩).program ∧
      (turn (serve cfg (d.env adapter taskRunId)) Cmd.suspends ready ⟨p, s, t⟩).trace =
        (turn (serve cfg (d.env adapter taskRunId)) Cmd.suspends ready ⟨p, s', t⟩).trace ∧
      Alike cfg owner taskRunId
        (turn (serve cfg (d.env adapter taskRunId)) Cmd.suspends ready ⟨p, s, t⟩).program
        (turn (serve cfg (d.env adapter taskRunId)) Cmd.suspends ready ⟨p, s, t⟩).state
        (turn (serve cfg (d.env adapter taskRunId)) Cmd.suspends ready ⟨p, s', t⟩).state
        (turn (serve cfg (d.env adapter taskRunId)) Cmd.suspends ready ⟨p, s, t⟩).trace := by
  cases p with
  | ret a => exact ⟨rfl, rfl, hall⟩
  | raise e => exact ⟨rfl, rfl, hall⟩
  | call c k =>
    -- the answer is there in both, or in neither
    have hready : ready s c = ready s' c := by
      obtain ⟨h, l⟩ := s
      obtain ⟨h', l'⟩ := s'
      obtain rfl : l = l' := hall.locals
      cases c with
      | awaitDecision bucket =>
        rw [ready, ready, hall.same.awaited hall.thread.gate]
      | _ => rfl
    rw [turn, turn]
    dsimp only
    rw [← hready]
    by_cases hturn : ready s c = true
    · rw [if_pos hturn, if_pos hturn]
      have hslot : holdsInputs t = true → c.suspends = false →
          s.1.initialInputs = s'.1.initialInputs := by
        intro hholds hgoes
        rcases hstart with rfl | hparked
        · cases hholds
        · rw [show c.suspends = true from hparked] at hgoes
          cases hgoes
      obtain ⟨hreply, hnext⟩ := hall.call adapter hd hslot
      rw [← hreply]
      obtain ⟨hprogram, htrace, halike, -⟩ := goOn_related
        (m := serve cfg (d.env adapter taskRunId))
        (K := fun p s s' t ↦ Alike cfg owner taskRunId p s s' t ∧ SameInputs s s' t)
        (fun c k s s' t _ hK ↦ hK.1.call adapter hd fun hholds _ ↦ hK.2 hholds) hnext
      exact ⟨hprogram, htrace, halike⟩
    · rw [if_neg hturn, if_neg hturn]
      exact ⟨rfl, rfl, hall⟩

/-! ## The system -/

section System

variable {ι : Type} [DecidableEq ι] {calls : ι → RunArgs} {draws : ι → Draws}

/-- What holds of every state that is reached. -/
structure Concurrent.Ok (cfg : Config) (owner : String → String) (calls : ι → RunArgs)
    (s : Concurrent ι) : Prop where
  hub : HubOk cfg s.hub
  thread : ∀ i, ThreadOk cfg owner (calls i).taskRunId s.hub.db.approvals (s.threads i).program
    (s.threads i).locals (s.threads i).trace
  start : ∀ i, (s.threads i).trace = [] ∨ Parked Cmd.suspends (s.threads i).program

/-- A task sees the same in both: its part of the hub and its runs. -/
structure SameFor (owner : String → String) (calls : ι → RunArgs) (taskRunId : String)
    (s s' : Concurrent ι) : Prop where
  hub : SameHub (OwnedBy owner taskRunId) taskRunId s.hub s'.hub
  threads : ∀ i, (calls i).taskRunId = taskRunId → s.threads i = s'.threads i

/-- A decision draws identifiers of its task. -/
def Move.Owned (owner : String → String) : Move ι → Prop
  | .turn _ => True
  | .decide q => owner q.env.decisionId = q.key.1 ∧ owner q.env.legacyId.1 = q.key.1

omit [DecidableEq ι] in
theorem Move.owned_turn (owner : String → String) (i : ι) : (Move.turn i).Owned owner := trivial

omit [DecidableEq ι] in
theorem sameFor_equivalence (owner : String → String) (calls : ι → RunArgs) (taskRunId : String) :
    Equivalence (SameFor owner calls taskRunId) where
  refl _ := ⟨(SameHub.equivalence _ _).refl _, fun _ _ ↦ rfl⟩
  symm h := ⟨(SameHub.equivalence _ _).symm h.hub, fun i hi ↦ (h.threads i hi).symm⟩
  trans h h' := ⟨(SameHub.equivalence _ _).trans h.hub h'.hub,
    fun i hi ↦ (h.threads i hi).trans (h'.threads i hi)⟩

variable {s s' : Concurrent ι} (hd : ∀ i, (draws i).OwnedBy owner (calls i).taskRunId)

omit [DecidableEq ι] in
theorem Concurrent.Ok.inTurn (hok : s.Ok cfg owner calls) (i : ι) :
    InTurn cfg owner (calls i).taskRunId s.hub (s.threads i).program
      (s.hub, (s.threads i).locals) (s.threads i).trace :=
  ⟨hok.hub, hok.thread i, (Advances.refl _).gatesStay,
    fun _ _ ↦ (SameHub.equivalence _ _).refl _⟩

theorem threads_turn_self (s : Concurrent ι) (i : ι) :
    (s.step cfg calls adapter draws (.turn i)).threads i =
      ⟨(s.turnOf cfg calls adapter draws i).program, (s.turnOf cfg calls adapter draws i).state.2,
        (s.turnOf cfg calls adapter draws i).trace⟩ :=
  Function.update_self ..

theorem threads_turn_of_ne (s : Concurrent ι) {i j : ι} (hj : j ≠ i) :
    (s.step cfg calls adapter draws (.turn i)).threads j = s.threads j :=
  Function.update_of_ne hj ..

theorem tenant_call (q : DecisionRequest) (t : ApprovalTables) (co : Coordinator) :
    (q.call t co).2.1.tenantId = co.tenantId ∧
      (q.call t co).2.1.hasApprovalService = co.hasApprovalService := by
  rcases Coordinator.call_cases q t co with
    ⟨-, heq, -⟩ | ⟨_, _, _, _, _, -, -, -, heq, -⟩ | ⟨_, _, _, -, -, -, heq, -⟩ <;> rw [heq] <;>
    exact ⟨rfl, rfl⟩

include hd

theorem Concurrent.Ok.step (hok : s.Ok cfg owner calls) (m : Move ι) :
    (s.step cfg calls adapter draws m).Ok cfg owner calls := by
  cases m with
  | turn i =>
    have hin := inTurn_turn adapter (hd i)
      (p := ⟨(s.threads i).program, (s.hub, (s.threads i).locals), (s.threads i).trace⟩)
      (hok.inTurn i)
    refine ⟨hin.hub, fun j ↦ ?_, fun j ↦ ?_⟩
    · by_cases hj : j = i
      · subst hj
        rw [threads_turn_self]
        exact hin.thread
      · rw [threads_turn_of_ne s hj]
        exact (hok.thread j).of_gatesStay hin.stay
    · by_cases hj : j = i
      · subst hj
        rw [threads_turn_self]
        exact parked_turn (hok.start j)
      · rw [threads_turn_of_ne s hj]
        exact hok.start j
  -- a decision moves no run and keeps every row at its gate
  | decide q =>
    have hstay := (GateSystem.advances_call q s.hub.db.approvals s.hub.co).gatesStay
    obtain ⟨htenant, hservice⟩ := tenant_call q s.hub.db.approvals s.hub.co
    exact ⟨⟨hok.hub.gates.call q, htenant.trans hok.hub.tenantId,
      hservice.trans hok.hub.hasApprovalService⟩,
      fun j ↦ (hok.thread j).of_gatesStay hstay, hok.start⟩

/-- What is done for a task is not seen by another one. -/
theorem sameFor_step {m : Move ι} (hok : s.Ok cfg owner calls) (hm : m.Owned owner)
    (hne : m.task calls ≠ taskRunId) :
    SameFor owner calls taskRunId s (s.step cfg calls adapter draws m) := by
  cases m with
  | turn i =>
    have hin := inTurn_turn adapter (hd i)
      (p := ⟨(s.threads i).program, (s.hub, (s.threads i).locals), (s.threads i).trace⟩)
      (hok.inTurn i)
    refine ⟨hin.others taskRunId hne, fun j hj ↦ ?_⟩
    have hij : j ≠ i := by
      rintro rfl
      exact hne hj
    rw [threads_turn_of_ne s hij]
  | decide q =>
    obtain ⟨hdecision, hlegacy⟩ := hm
    have hdecision' : ¬OwnedBy owner taskRunId q.env.decisionId :=
      fun heq ↦ hne (hdecision.symm.trans heq)
    have hlegacy' : ¬OwnedBy owner taskRunId q.env.legacyId.1 :=
      fun heq ↦ hne (hlegacy.symm.trans heq)
    obtain ⟨happrovals, hgates⟩ := Coordinator.same_call hok.hub.gates hne hdecision' hlegacy'
    exact ⟨⟨{ SameTables.refl s.hub.db with approvals := happrovals }, hgates⟩, fun _ _ ↦ rfl⟩

/-- What is done for a task is the same in states that are the same for it. -/
theorem SameFor.step {m : Move ι} (hok : s.Ok cfg owner calls) (hok' : s'.Ok cfg owner calls)
    (hm : m.Owned owner) (hs : SameFor owner calls (m.task calls) s s') :
    SameFor owner calls (m.task calls) (s.step cfg calls adapter draws m)
      (s'.step cfg calls adapter draws m) := by
  cases m with
  | turn i =>
    have hthread := hs.threads i rfl
    have hstart := hok'.thread i
    have hall : Alike cfg owner (calls i).taskRunId (s.threads i).program
        (s.hub, (s.threads i).locals) (s'.hub, (s.threads i).locals) (s.threads i).trace := by
      rw [← hthread] at hstart
      exact ⟨hok.hub, hok'.hub, hok.thread i, hstart, hs.hub, rfl⟩
    obtain ⟨hprogram, htrace, hafter⟩ := turn_same adapter (hd i) hall (hok.start i)
    refine ⟨?_, fun j hj ↦ ?_⟩
    · rw [Concurrent.step, Concurrent.step, Concurrent.turnOf, Concurrent.turnOf, ← hthread]
      exact hafter.same
    · by_cases hij : j = i
      · subst hij
        rw [threads_turn_self, threads_turn_self, Thread.mk.injEq, Concurrent.turnOf,
          Concurrent.turnOf, ← hthread]
        exact ⟨hprogram, hafter.locals, htrace⟩
      · rw [threads_turn_of_ne s hij, threads_turn_of_ne s' hij]
        exact hs.threads j hj
  | decide q =>
    obtain ⟨happrovals, hgates⟩ := Coordinator.SameGates.call hs.hub.tables.approvals hs.hub.gates
      hok.hub.gates hok'.hub.gates hm.1 hm.2
    exact ⟨⟨{ hs.hub.tables with approvals := happrovals }, hgates⟩, hs.threads⟩

/-- **The conditions on single steps.** -/
theorem unwinding_step : Unwinding (Concurrent.step cfg calls adapter draws) (Move.task calls)
    (Move.Owned owner) (Concurrent.Ok cfg owner calls) (SameFor owner calls) where
  equivalence := sameFor_equivalence owner calls
  invariant _ m hok _ := hok.step hd m
  respects _ _ _ hok hm hne := sameFor_step hd hok hm hne
  consistent _ _ _ hok hok' hm hs := hs.step hd hok hok' hm

omit hd [DecidableEq ι] in
theorem ok_start (hhub : HubOk cfg h) :
    (Concurrent.start cfg calls h).Ok cfg owner calls := by
  refine ⟨hhub, fun i ↦ ⟨?_, nofun, nofun⟩, fun i ↦ .inl rfl⟩
  exact (run_own [] rfl).mono fun r t hr ↦ of_ending hr

variable (adapter) in
/-- **A task cannot tell** the runs of all tasks from its own. -/
theorem sameFor_ownSteps (hhub : HubOk cfg h) (taskRunId : String) {moves : List (Move ι)}
    (hmoves : ∀ m ∈ moves, m.Owned owner) :
    SameFor owner calls taskRunId
      (Transition.run (Concurrent.step cfg calls adapter draws) (.start cfg calls h) moves)
      (Transition.run (Concurrent.step cfg calls adapter draws) (.start cfg calls h)
        (ownSteps (Move.task calls) taskRunId moves)) :=
  (unwinding_step hd).run_ownSteps (ok_start hhub) (ok_start hhub)
    ((sameFor_equivalence owner calls taskRunId).refl _) hmoves

/-! ## A run on its own -/

omit hd

/-- The one run of `s₁` is where the run `i` of `s` is. -/
structure IsAlone (i : ι) (s : Concurrent ι) (s₁ : Concurrent Unit) : Prop where
  hub : s.hub = s₁.hub
  thread : s.threads i = s₁.threads ()

omit [DecidableEq ι] in
theorem SameFor.observe {i : ι} (hs : SameFor owner calls (calls i).taskRunId s s') :
    s.observe calls i = s'.observe calls i := by
  rw [Concurrent.observe, Concurrent.observe, hs.threads i rfl, hs.hub.tables.taskRun, eventLog,
    eventLog, hs.hub.tables.events.rows]

omit [DecidableEq ι] in
theorem IsAlone.observe {i : ι} {s₁ : Concurrent Unit} (hs : IsAlone i s s₁) :
    s.observe calls i = s₁.observe (fun _ ↦ calls i) () := by
  rw [Concurrent.observe, Concurrent.observe, hs.hub, hs.thread]

/-- A turn of the run, and a decision about its task. -/
theorem IsAlone.step {i : ι} {s₁ : Concurrent Unit} (hs : IsAlone i s s₁) {m : Move ι}
    {m₁ : Move Unit} (hm : m.alone? calls i = some m₁) :
    IsAlone i (s.step cfg calls adapter draws m)
      (s₁.step cfg (fun _ ↦ calls i) adapter (fun _ ↦ draws i) m₁) := by
  cases m with
  | turn j =>
    rw [Move.alone?, Option.ite_none_right_eq_some] at hm
    obtain ⟨rfl, hm⟩ := hm
    cases hm
    have hturn : s.turnOf cfg calls adapter draws j =
        s₁.turnOf cfg (fun _ ↦ calls j) adapter (fun _ ↦ draws j) () := by
      rw [Concurrent.turnOf, Concurrent.turnOf, hs.hub, hs.thread]
    refine ⟨congrArg (fun p : RunPoint ↦ p.state.1) hturn, ?_⟩
    rw [threads_turn_self, threads_turn_self, hturn]
  | decide q =>
    rw [Move.alone?, Option.ite_none_right_eq_some] at hm
    obtain ⟨-, hm⟩ := hm
    cases hm
    refine ⟨?_, hs.thread⟩
    rw [Concurrent.step, Concurrent.step, hs.hub]

/-- The moves of the task are those of the run, where no other run has its task. -/
theorem alone?_cases (hdistinct : Function.Injective fun i ↦ (calls i).taskRunId) (i : ι)
    (m : Move ι) :
    m.task calls = (calls i).taskRunId ∧ (∃ m₁, m.alone? calls i = some m₁) ∨
      m.task calls ≠ (calls i).taskRunId ∧ m.alone? calls i = none := by
  cases m with
  | turn j =>
    -- the only run of its task is the one that has the turn
    by_cases hj : j = i
    · exact .inl ⟨congrArg (fun i ↦ (calls i).taskRunId) hj, _, if_pos hj⟩
    · exact .inr ⟨fun heq ↦ hj (hdistinct heq), if_neg hj⟩
  | decide q =>
    by_cases hq : q.key.1 = (calls i).taskRunId
    · exact .inl ⟨hq, _, if_pos hq⟩
    · exact .inr ⟨hq, if_neg hq⟩

theorem IsAlone.run (hdistinct : Function.Injective fun i ↦ (calls i).taskRunId) {i : ι}
    {s₁ : Concurrent Unit} (hs : IsAlone i s s₁) (moves : List (Move ι)) :
    IsAlone i
      (Transition.run (Concurrent.step cfg calls adapter draws) s
        (ownSteps (Move.task calls) (calls i).taskRunId moves))
      (Transition.run (Concurrent.step cfg (fun _ ↦ calls i) adapter fun _ ↦ draws i) s₁
        (moves.filterMap (Move.alone? calls i))) := by
  induction moves generalizing s s₁ with
  | nil => exact hs
  | cons m moves ih =>
    rcases alone?_cases hdistinct i m with ⟨htask, m₁, hm⟩ | ⟨htask, hm⟩
    · rw [ownSteps_cons_of_eq htask, List.filterMap_cons_some hm, run_cons, run_cons]
      exact ih (hs.step hm)
    · rw [ownSteps_cons_of_ne htask, List.filterMap_cons_none hm]
      exact ih hs

end System

/-! ## Two runs -/

/-- The mark of one of two runs in its identifiers. -/
def sampleMark (first : Bool) : String := if first then "a" else "b"

/-- The calls of two runs. -/
def sampleCalls (first : Bool) : RunArgs :=
  { sampleArgs with taskRunId := "task-" ++ sampleMark first }

def sampleOwner (id : String) : String :=
  "task-" ++ sampleMark (decide (id.toList.getLast? = some 'a'))

def sampleDraws (first : Bool) : Draws where
  newId t := longerId t ++ sampleMark first
  utcNow _ := 0
  monotonic _ := 0
  now _ := 0
  approvalRowId _ := ⟨"-" ++ sampleMark first, by cases first <;> decide⟩
  choice _ := 0
  approvalHandler _ _ := .ok [("decision", .str "approve")]
  raises _ _ := none
  newId_fresh t hmem := by
    have hlt := length_lt_longerId hmem
    rw [String.length_append] at hlt
    omega
  hyphen_mem_newId t := by
    rw [String.toList_append]
    exact List.mem_append_left _ (hyphen_mem_longerId t)

theorem sampleOwner_append (id : String) (first : Bool) :
    sampleOwner (id ++ sampleMark first) = (sampleCalls first).taskRunId := by
  rw [sampleOwner, String.toList_append]
  cases first with
  | true => simp [sampleCalls, sampleMark]
  | false => simp [sampleCalls, sampleMark]

def sampleDecision (first : Bool) (decision : String) : DecisionRequest where
  c := 0
  env :=
    { now := 0, decisionId := "decision-" ++ sampleMark first,
      legacyId := ⟨"legacy-" ++ sampleMark first, by cases first <;> decide⟩ }
  key := ((sampleCalls first).taskRunId, Coordinator.humanApproval)
  decision := decision
  decidedBy := "alice"
  rationale := ""

theorem owned_sampleDecision (first : Bool) (decision : String) :
    (.decide (sampleDecision first decision) : Move Bool).Owned sampleOwner :=
  ⟨sampleOwner_append "decision-" first, sampleOwner_append "legacy-" first⟩

/-- Both runs come to their approvals, one is approved and the other rejected. -/
def sampleMoves : List (Move Bool) :=
  [.turn true, .turn false, .turn false, .turn true, .turn false, .turn true,
    .decide (sampleDecision false "reject"), .decide (sampleDecision true "approve"),
    .turn true, .turn false, .turn true]

def sharedConfig : Config :=
  { sampleConfig sampleAdapters with
    tenantId := some "tenant-1", hasApprovalService := true, hasApprovalHandler := false }

def sampleHub : Hub where
  co := .start .empty (some "tenant-1") true false

/-! ## The result -/

/-- **Concurrent runs do not interfere.** Runs with distinct tasks are started on one coordinator,
and what each of them draws, and what the decisions about its task draw, are identifiers that the
others do not draw. Then after any turns and decisions each run is where it would be alone. -/
theorem runsAsAlone (owner : String → String) {ι : Type} [DecidableEq ι] {calls : ι → RunArgs}
    {draws : ι → Draws} (hdistinct : Function.Injective fun i ↦ (calls i).taskRunId)
    (hd : ∀ i, (draws i).OwnedBy owner (calls i).taskRunId) (hhub : HubOk cfg h)
    {moves : List (Move ι)} (hmoves : ∀ m ∈ moves, m.Owned owner) :
    RunsAsAlone cfg calls adapter draws h moves := by
  intro i
  have hown := sameFor_ownSteps adapter hd hhub (calls i).taskRunId hmoves
  have hstart : IsAlone i (Concurrent.start cfg calls h)
      (Concurrent.start cfg (fun _ : Unit ↦ calls i) h) := ⟨rfl, rfl⟩
  exact hown.observe.trans (hstart.run hdistinct moves).observe

theorem runsAsAlone_sampleMoves :
    RunsAsAlone sharedConfig sampleCalls (fun r ↦ .ok ⟨r.inputs, []⟩) sampleDraws sampleHub
      sampleMoves := by
  refine runsAsAlone sampleOwner (by decide) (fun first ↦ ⟨fun t ↦ ?_, fun t ↦ ?_⟩)
    ⟨CoordinatorOk.start .empty (some "tenant-1") true false, by decide, by decide⟩ ?_
  · exact sampleOwner_append (longerId t) first
  · exact sampleOwner_append "apv:-" first
  · simp [sampleMoves, Move.owned_turn, owned_sampleDecision]

end Engine

end Orchestra
