import Mathlib.Order.Bounds.Basic
import Mathlib.Order.Interval.Set.Basic
import Orchestra.Foundation.KeyedTable
import Orchestra.Foundation.Transition

/-!
# The fencing guard

A worker shows a token with every write, and the guard refuses a token that is below the highest one
it has accepted for the cell or for the node run. Both marks are checked before either moves. A
reset drops the mark of a node run and leaves the one of the cell.

An accepted token is at least the two marks, so it becomes both of them (`cellHigh_check`,
`nodeHigh_check`): the mark of a cell never falls, and that of a node run falls only at a reset.
What a run accepts is ordered for that reason (`fenced`).
-/

namespace Orchestra

open Transition

/-- `FencingToken`. -/
structure FencingToken where
  cellId : String
  value : ℤ
  /-- What `__post_init__` checks. -/
  value_nonneg : 0 ≤ value

def FencingToken.str (token : FencingToken) : String := token.cellId ++ ":" ++ toString token.value

structure StaleFencingToken where
  message : String

namespace FencingGuard

/-- A dictionary of high-water marks. -/
abbrev Marks := KeyedTable (Prod.fst : String × ℤ → String)

/-- `marks.get(key, -1)`. -/
def highWater (marks : Marks) (key : String) : ℤ := ((marks.find? key).map Prod.snd).getD (-1)

end FencingGuard

/-- `FencingGuard`. -/
structure FencingGuard where
  highWaterPerCell : FencingGuard.Marks := .empty
  highWaterPerNodeRun : FencingGuard.Marks := .empty

namespace FencingGuard

variable (g : FencingGuard)

def currentHighWater (cellId : String) : ℤ := highWater g.highWaterPerCell cellId

def nodeHighWater (nodeRunId : String) : ℤ := highWater g.highWaterPerNodeRun nodeRunId

/-- `check`. -/
def check (token : FencingToken) (nodeRunId : String) :
    FencingGuard × Except StaleFencingToken Unit :=
  let cellHigh := highWater g.highWaterPerCell token.cellId
  let nodeHigh := highWater g.highWaterPerNodeRun nodeRunId
  if token.value < cellHigh ∨ token.value < nodeHigh then
    (g, .error ⟨"token " ++ token.str ++ " rejected: cell_high=" ++ toString cellHigh ++
      ", node_high=" ++ toString nodeHigh⟩)
  else
    ({ highWaterPerCell :=
         if cellHigh < token.value then g.highWaterPerCell.put (token.cellId, token.value)
         else g.highWaterPerCell
       highWaterPerNodeRun :=
         if nodeHigh < token.value then g.highWaterPerNodeRun.put (nodeRunId, token.value)
         else g.highWaterPerNodeRun }, .ok ())

/-- `reset_node_run`. -/
def resetNodeRun (nodeRunId : String) : FencingGuard :=
  { g with
    highWaterPerNodeRun := g.highWaterPerNodeRun.delete fun p ↦ decide (p.1 = nodeRunId) }

inductive Call where
  | check (token : FencingToken) (nodeRunId : String)
  | resetNodeRun (nodeRunId : String)

def step : Call → FencingGuard
  | .check token nodeRunId => (g.check token nodeRunId).1
  | .resetNodeRun nodeRunId => g.resetNodeRun nodeRunId

/-- The token is not stale. -/
def Accepts (token : FencingToken) (nodeRunId : String) : Prop :=
  g.currentHighWater token.cellId ≤ token.value ∧ g.nodeHighWater nodeRunId ≤ token.value

/-! ## What a call does to the marks -/

section Marks

variable {marks : Marks}

@[simp] theorem highWater_empty (key : String) : highWater .empty key = -1 := rfl

theorem highWater_put (key : String) (value : ℤ) (key' : String) :
    highWater (marks.put (key, value)) key' =
      if key' = key then value else highWater marks key' := by
  rw [highWater, KeyedTable.find?_put, highWater]
  split_ifs with h h' h'
  · rfl
  · exact absurd h.symm h'
  · exact absurd h'.symm h
  · rfl

/-- Putting a value that is no lower, if it is higher. -/
theorem highWater_raise {key : String} {value : ℤ} (h : highWater marks key ≤ value)
    (key' : String) :
    highWater (if highWater marks key < value then marks.put (key, value) else marks) key' =
      if key' = key then value else highWater marks key' := by
  split_ifs with hlt hkey hkey
  · rw [highWater_put, if_pos hkey]
  · rw [highWater_put, if_neg hkey]
  · rw [hkey]
    exact le_antisymm h (not_lt.mp hlt)
  · rfl

theorem highWater_delete (key key' : String) :
    highWater (marks.delete fun p ↦ decide (p.1 = key)) key' =
      if key' = key then -1 else highWater marks key' := by
  split_ifs with h
  · rw [h, highWater, KeyedTable.find?_delete_key]
    rfl
  · rw [highWater, KeyedTable.find?_delete_key_of_ne marks h, highWater]

end Marks

variable {g} {token : FencingToken} {nodeRunId : String}

/-- The test that `check` makes. -/
theorem accepts_iff : g.Accepts token nodeRunId ↔
    ¬(token.value < highWater g.highWaterPerCell token.cellId ∨
      token.value < highWater g.highWaterPerNodeRun nodeRunId) := by
  rw [not_or, not_lt, not_lt]
  rfl

/-- A stale token changes nothing. -/
theorem check_of_not (h : ¬g.Accepts token nodeRunId) : ∃ e, g.check token nodeRunId =
    (g, .error e) := by
  rw [accepts_iff, not_not] at h
  rw [check, if_pos h]
  exact ⟨_, rfl⟩

theorem check_of_accepts (h : g.Accepts token nodeRunId) :
    (g.check token nodeRunId).2 = .ok () := by
  rw [check, if_neg (accepts_iff.mp h)]

theorem check_eq_ok_iff : (g.check token nodeRunId).2 = .ok () ↔ g.Accepts token nodeRunId := by
  refine ⟨fun hok ↦ ?_, check_of_accepts⟩
  by_contra h
  obtain ⟨e, he⟩ := check_of_not h
  rw [he] at hok
  cases hok

/-- An accepted token is the new mark of its cell. -/
theorem cellHigh_check (h : g.Accepts token nodeRunId) (cellId : String) :
    (g.check token nodeRunId).1.currentHighWater cellId =
      if cellId = token.cellId then token.value else g.currentHighWater cellId := by
  rw [check, if_neg (accepts_iff.mp h)]
  exact highWater_raise h.1 cellId

/-- And of its node run. -/
theorem nodeHigh_check (h : g.Accepts token nodeRunId) (nodeRunId' : String) :
    (g.check token nodeRunId).1.nodeHighWater nodeRunId' =
      if nodeRunId' = nodeRunId then token.value else g.nodeHighWater nodeRunId' := by
  rw [check, if_neg (accepts_iff.mp h)]
  exact highWater_raise h.2 nodeRunId'

/-- **The mark of a cell never falls.** -/
theorem currentHighWater_le_step (g : FencingGuard) (call : Call) (cellId : String) :
    g.currentHighWater cellId ≤ (g.step call).currentHighWater cellId := by
  cases call with
  | check token nodeRunId =>
    rw [step]
    by_cases h : g.Accepts token nodeRunId
    · rw [cellHigh_check h]
      split_ifs with hcell
      · rw [hcell]
        exact h.1
      · exact le_rfl
    · obtain ⟨e, he⟩ := check_of_not h
      rw [he]
  | resetNodeRun nodeRunId => exact le_rfl

/-- That of a node run falls only at its reset. -/
theorem nodeHighWater_le_step (g : FencingGuard) {call : Call}
    (hreset : call ≠ .resetNodeRun nodeRunId) :
    g.nodeHighWater nodeRunId ≤ (g.step call).nodeHighWater nodeRunId := by
  cases call with
  | check token nodeRunId' =>
    rw [step]
    by_cases h : g.Accepts token nodeRunId'
    · rw [nodeHigh_check h]
      split_ifs with hnode
      · rw [hnode]
        exact h.2
      · exact le_rfl
    · obtain ⟨e, he⟩ := check_of_not h
      rw [he]
  | resetNodeRun nodeRunId' =>
    have hne : nodeRunId ≠ nodeRunId' := fun h ↦ hreset (h ▸ rfl)
    refine le_of_eq ?_
    rw [step, resetNodeRun, nodeHighWater, nodeHighWater, highWater_delete, if_neg hne]

/-! ## Runs -/

/-- The guard after the calls, from an empty one. -/
def after (as : List Call) : FencingGuard := run step {} as

theorem currentHighWater_le_after (as bs : List Call) (cellId : String) :
    (after as).currentHighWater cellId ≤ (after (as ++ bs)).currentHighWater cellId := by
  have hstep : ∀ (g : FencingGuard) (call : Call), True →
      g.currentHighWater cellId ≤ (g.step call).currentHighWater cellId :=
    fun g call _ ↦ currentHighWater_le_step g call cellId
  rw [after, after, run_append]
  exact le_run hstep (allSteps_of_forall (fun _ _ ↦ trivial) _ bs)

theorem nodeHighWater_le_after (as : List Call) {bs : List Call}
    (hreset : .resetNodeRun nodeRunId ∉ bs) :
    (after as).nodeHighWater nodeRunId ≤ (after (as ++ bs)).nodeHighWater nodeRunId := by
  have hstep : ∀ (g : FencingGuard) (call : Call), call ≠ .resetNodeRun nodeRunId →
      g.nodeHighWater nodeRunId ≤ (g.step call).nodeHighWater nodeRunId :=
    fun g call ↦ nodeHighWater_le_step g
  rw [after, after, run_append]
  refine le_run hstep (allSteps_of_mem (fun call hcall heq ↦ ?_) _)
  exact hreset (heq ▸ hcall)

theorem after_concat (as : List Call) (call : Call) :
    after (as ++ [call]) = (after as).step call := by
  rw [after, run_append, run_cons, run_nil, after]

/-- A check after the calls does not raise. -/
def Accepted (as : List Call) (token : FencingToken) (nodeRunId : String) : Prop :=
  ((after as).check token nodeRunId).2 = .ok ()

/-- The values that a run accepts for a cell. -/
def acceptedValues (as : List Call) (cellId : String) : Set ℤ :=
  {v | ∃ pre call post, as = pre ++ call :: post ∧ ∃ token nodeRunId,
    call = .check token nodeRunId ∧ Accepted pre token nodeRunId ∧ token.cellId = cellId ∧
      token.value = v}

theorem acceptedValues_nil (cellId : String) : acceptedValues [] cellId = ∅ := by
  refine Set.eq_empty_of_forall_notMem ?_
  rintro v ⟨pre, call, post, heq, -⟩
  exact List.append_ne_nil_of_right_ne_nil pre (List.cons_ne_nil call post) heq.symm

/-- A call adds the value that it accepts, if it accepts one. -/
theorem acceptedValues_concat (as : List Call) (call : Call) (cellId : String) :
    acceptedValues (as ++ [call]) cellId = acceptedValues as cellId ∪
      {v | ∃ token nodeRunId, call = .check token nodeRunId ∧ Accepted as token nodeRunId ∧
        token.cellId = cellId ∧ token.value = v} :=
  Set.ext fun _ ↦ exists_position_concat

theorem acceptedValues_resetNodeRun (as : List Call) (nodeRunId cellId : String) :
    acceptedValues (as ++ [.resetNodeRun nodeRunId]) cellId = acceptedValues as cellId := by
  rw [acceptedValues_concat, Set.union_eq_left]
  rintro v ⟨token, nodeRunId', heq, -⟩
  cases heq

theorem acceptedValues_check_of_not {as : List Call} (h : ¬Accepted as token nodeRunId)
    (cellId : String) :
    acceptedValues (as ++ [.check token nodeRunId]) cellId = acceptedValues as cellId := by
  rw [acceptedValues_concat, Set.union_eq_left]
  rintro v ⟨token', nodeRunId', heq, haccepted, -⟩
  obtain ⟨rfl, rfl⟩ := Call.check.inj heq
  exact absurd haccepted h

theorem acceptedValues_check {as : List Call} (h : Accepted as token nodeRunId)
    (cellId : String) : acceptedValues (as ++ [.check token nodeRunId]) cellId =
      if cellId = token.cellId then insert token.value (acceptedValues as cellId)
      else acceptedValues as cellId := by
  rw [acceptedValues_concat]
  split_ifs with hcell
  · rw [Set.insert_eq, Set.union_comm]
    congr 1
    ext v
    constructor
    · rintro ⟨token', nodeRunId', heq, -, -, rfl⟩
      exact congrArg FencingToken.value (Call.check.inj heq).1.symm
    · rintro rfl
      exact ⟨token, nodeRunId, rfl, h, hcell.symm, rfl⟩
  · rw [Set.union_eq_left]
    rintro v ⟨token', nodeRunId', heq, -, hcell', -⟩
    obtain ⟨rfl, rfl⟩ := Call.check.inj heq
    exact absurd hcell'.symm hcell

/-- **The mark of a cell** is the highest value accepted for it. -/
theorem isGreatest_currentHighWater (as : List Call) (cellId : String) :
    IsGreatest (insert (-1) (acceptedValues as cellId)) ((after as).currentHighWater cellId) := by
  induction as using List.reverseRecOn with
  | nil =>
    rw [acceptedValues_nil]
    simp [after, currentHighWater]
  | append_singleton as call ih =>
    rw [after_concat]
    cases call with
    | resetNodeRun nodeRunId =>
      rw [acceptedValues_resetNodeRun]
      exact ih
    | check token nodeRunId =>
      rw [step]
      by_cases h : (after as).Accepts token nodeRunId
      · rw [acceptedValues_check (check_eq_ok_iff.mpr h), cellHigh_check h]
        split_ifs with hcell
        · have hle : (after as).currentHighWater cellId ≤ token.value := hcell ▸ h.1
          rw [Set.insert_comm]
          refine ⟨Set.mem_insert _ _, ?_⟩
          rintro v (rfl | hv)
          · exact le_rfl
          · exact (ih.2 hv).trans hle
        · exact ih
      · rw [acceptedValues_check_of_not (mt check_eq_ok_iff.mp h)]
        obtain ⟨e, he⟩ := check_of_not h
        rw [he]
        exact ih

/-- What the guard promises about a sequence of calls. -/
structure Fenced (as : List Call) : Prop where
  /-- The values accepted for a cell are in order. -/
  cells : ∀ pre token nodeRunId mid token' nodeRunId' post,
    as = pre ++ .check token nodeRunId :: mid ++ .check token' nodeRunId' :: post →
    Accepted pre token nodeRunId →
    Accepted (pre ++ .check token nodeRunId :: mid) token' nodeRunId' →
    token.cellId = token'.cellId → token.value ≤ token'.value
  /-- Those accepted for a node run are, between its resets. -/
  nodeRuns : ∀ pre token nodeRunId mid token' post,
    as = pre ++ .check token nodeRunId :: mid ++ .check token' nodeRunId :: post →
    .resetNodeRun nodeRunId ∉ mid → Accepted pre token nodeRunId →
    Accepted (pre ++ .check token nodeRunId :: mid) token' nodeRunId → token.value ≤ token'.value
  /-- A token below the mark of its cell is refused from then on. -/
  zombies : ∀ pre post token nodeRunId, as = pre ++ post →
    token.value < (after pre).currentHighWater token.cellId → ¬Accepted as token nodeRunId
  /-- The mark of a cell is the highest value accepted for it, or `-1`. -/
  highest : ∀ cellId,
    IsGreatest (insert (-1) (acceptedValues as cellId)) ((after as).currentHighWater cellId)
  /-- A check that raises changes nothing. -/
  unchanged : ∀ token nodeRunId, ¬Accepted as token nodeRunId →
    ((after as).check token nodeRunId).1 = after as

/-- An accepted value is the mark of its cell and of its node run afterwards. -/
theorem marks_of_accepted {as : List Call} (h : Accepted as token nodeRunId) :
    (after (as ++ [.check token nodeRunId])).currentHighWater token.cellId = token.value ∧
      (after (as ++ [.check token nodeRunId])).nodeHighWater nodeRunId = token.value := by
  have haccepts := check_eq_ok_iff.mp h
  rw [after_concat, step, cellHigh_check haccepts, nodeHigh_check haccepts, if_pos rfl, if_pos rfl]
  exact ⟨rfl, rfl⟩

/-- **Fencing**: in every sequence of checks and resets. -/
theorem fenced (as : List Call) : Fenced as where
  cells := by
    intro pre token nodeRunId mid token' nodeRunId' post _ haccepted haccepted' hcell
    have hlater := currentHighWater_le_after (pre ++ [.check token nodeRunId]) mid token.cellId
    rw [(marks_of_accepted haccepted).1, List.append_assoc, List.singleton_append, hcell] at hlater
    exact hlater.trans (check_eq_ok_iff.mp haccepted').1
  nodeRuns := by
    intro pre token nodeRunId mid token' post _ hreset haccepted haccepted'
    have hlater := nodeHighWater_le_after (pre ++ [.check token nodeRunId]) hreset
    rw [(marks_of_accepted haccepted).2, List.append_assoc, List.singleton_append] at hlater
    exact hlater.trans (check_eq_ok_iff.mp haccepted').2
  zombies := by
    rintro pre post token nodeRunId rfl hlow haccepted
    have hlater := currentHighWater_le_after pre post token.cellId
    exact absurd (hlow.trans_le hlater) (not_lt.mpr (check_eq_ok_iff.mp haccepted).1)
  highest := isGreatest_currentHighWater as
  unchanged := by
    intro token nodeRunId h
    obtain ⟨e, he⟩ := check_of_not (mt check_eq_ok_iff.mpr h)
    rw [he]

end FencingGuard

end Orchestra
