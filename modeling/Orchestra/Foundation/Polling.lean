import Orchestra.Foundation.Program

/-!
# Polling

A loop makes one round after another until a round settles, and gives up when it has made all the
rounds it may. The rounds have one rule: an assertion indexed by the number of the round is carried
from each round that does not settle to the next.
-/

namespace Interaction

universe u v w x

variable {C : Type u} {R : C → Type v} {ε : Type w} {α : Type x}

namespace Program

/-- At most `n` rounds, the first with number `k`; a round settles with `some` value. -/
def poll (round : ℕ → Program C R ε (Option α)) (giveUp : Program C R ε α) :
    ℕ → ℕ → Program C R ε α
  | 0, _ => giveUp
  | n + 1, k => do
    match ← round k with
    | some a => return a
    | none => poll round giveUp n (k + 1)

end Program

variable {A : Trace C R ε → Step C R ε → Prop} {round : ℕ → Program C R ε (Option α)}
  {giveUp : Program C R ε α} {I : ℕ → Trace C R ε → Prop} {Q : α → Trace C R ε → Prop}
  {E : ε → Trace C R ε → Prop}

/-- After a round: it has settled with `Q`, or the assertion of the next one holds. -/
def settledOr (Q : α → Trace C R ε → Prop) (next : Trace C R ε → Prop) :
    Option α → Trace C R ε → Prop
  | some a => Q a
  | none => next

/-- **The polling rule.** -/
theorem Triple.poll {n k : ℕ}
    (hround : ∀ j, k ≤ j → j < k + n → Triple A (I j) (round j) (settledOr Q (I (j + 1))) E)
    (hgiveUp : Triple A (I (k + n)) giveUp Q E) :
    Triple A (I k) (Program.poll round giveUp n k) Q E := by
  induction n generalizing k with
  | zero => exact hgiveUp
  | succ n ih =>
    refine (hround k le_rfl (by omega)).bind fun o ↦ ?_
    cases o with
    | some a => exact Triple.ret fun _ ht ↦ ht
    | none =>
      refine ih (fun j hle hlt ↦ hround j (by omega) (by omega)) ?_
      rwa [show k + 1 + n = k + (n + 1) from by omega]

end Interaction
