import Orchestra.Foundation.Program

/-!
# Programs that take turns

A program that has the turn makes its calls without interruption until it comes to one that
suspends it. There it stops before the call, and its next turn begins with the answer, if the answer
is ready by then.

What every call keeps is kept by a turn (`turn_invariant`). Where two states answer the calls of a
program alike, it is after a turn at the same point (`goOn_related`).
-/

namespace Interaction

universe u v w x y

variable {C : Type u} {R : C → Type v} {ε : Type w} {α : Type x} {σ : Type y}

/-- Where a program is: what is left of it, the state, and the calls that were made. -/
structure Point (C : Type u) (R : C → Type v) (ε : Type w) (α : Type x) (σ : Type y) where
  program : Program C R ε α
  state : σ
  trace : Trace C R ε

/-- On to the next call that suspends. -/
def goOn (m : Machine C R ε σ) (suspends : C → Bool) :
    Program C R ε α → σ → Trace C R ε → Point C R ε α σ
  | .ret a, s, t => ⟨.ret a, s, t⟩
  | .raise e, s, t => ⟨.raise e, s, t⟩
  | .call c k, s, t =>
    if suspends c then ⟨.call c k, s, t⟩
    else goOn m suspends (k (m s t c).1) (m s t c).2 (t ++ [⟨c, (m s t c).1⟩])

/-- A turn: the call the program is at, if its answer is ready, and on from there. -/
def turn (m : Machine C R ε σ) (suspends : C → Bool) (ready : σ → C → Bool)
    (p : Point C R ε α σ) : Point C R ε α σ :=
  match p.program with
  | .ret _ => p
  | .raise _ => p
  | .call c k =>
    if ready p.state c then
      goOn m suspends (k (m p.state p.trace c).1) (m p.state p.trace c).2
        (p.trace ++ [⟨c, (m p.state p.trace c).1⟩])
    else p

variable {m : Machine C R ε σ} {suspends : C → Bool} {ready : σ → C → Bool}

variable (m suspends ready) in
/-- A turn does nothing, or it begins with an answer. -/
theorem turn_cases (p : Point C R ε α σ) :
    turn m suspends ready p = p ∨ ∃ c k, p.program = .call c k ∧ ready p.state c = true ∧
      turn m suspends ready p = goOn m suspends (k (m p.state p.trace c).1)
        (m p.state p.trace c).2 (p.trace ++ [⟨c, (m p.state p.trace c).1⟩]) := by
  obtain ⟨program, s, t⟩ := p
  cases program with
  | ret a => exact .inl rfl
  | raise e => exact .inl rfl
  | call c k =>
    by_cases hready : ready s c = true
    · exact .inr ⟨c, k, rfl, hready, if_pos hready⟩
    · exact .inl (if_neg hready)

/-! ## What every call keeps -/

theorem goOn_invariant {J : Program C R ε α → σ → Trace C R ε → Prop}
    (hcall : ∀ c k s t, J (.call c k) s t →
      J (k (m s t c).1) (m s t c).2 (t ++ [⟨c, (m s t c).1⟩]))
    {p : Program C R ε α} {s : σ} {t : Trace C R ε} (h : J p s t) :
    J (goOn m suspends p s t).program (goOn m suspends p s t).state
      (goOn m suspends p s t).trace := by
  induction p generalizing s t with
  | ret a => exact h
  | raise e => exact h
  | call c k ih =>
    rw [goOn]
    split
    · exact h
    · exact ih _ (hcall c k s t h)

/-- **The invariant rule for a turn.** -/
theorem turn_invariant {J : Program C R ε α → σ → Trace C R ε → Prop}
    (hcall : ∀ c k s t, J (.call c k) s t →
      J (k (m s t c).1) (m s t c).2 (t ++ [⟨c, (m s t c).1⟩]))
    {p : Point C R ε α σ} (h : J p.program p.state p.trace) :
    J (turn m suspends ready p).program (turn m suspends ready p).state
      (turn m suspends ready p).trace := by
  rcases turn_cases m suspends ready p with heq | ⟨c, k, hp, -, heq⟩
  · rwa [heq]
  · rw [heq]
    rw [hp] at h
    exact goOn_invariant hcall (hcall c k _ _ h)

/-- A program whose next call, if there is one, suspends it. -/
def Parked (suspends : C → Bool) : Program C R ε α → Prop
  | .call c _ => suspends c = true
  | _ => True

theorem parked_goOn (p : Program C R ε α) (s : σ) (t : Trace C R ε) :
    Parked suspends (goOn m suspends p s t).program := by
  induction p generalizing s t with
  | ret a => trivial
  | raise e => trivial
  | call c k ih =>
    rw [goOn]
    split
    · next hc => exact hc
    · exact ih _ _ _

/-- A program that has had a turn is parked. -/
theorem parked_turn {p : Point C R ε α σ} (h : p.trace = [] ∨ Parked suspends p.program) :
    (turn m suspends ready p).trace = [] ∨ Parked suspends (turn m suspends ready p).program := by
  rcases turn_cases m suspends ready p with heq | ⟨c, k, -, -, heq⟩
  · rwa [heq]
  · rw [heq]
    exact .inr (parked_goOn _ _ _)

/-- What a program guarantees of all calls at its end holds of those it has made so far: the calls
that are left may all raise. -/
theorem Sat.everyStep {A φ : Trace C R ε → Step C R ε → Prop} {p : Program C R ε α}
    {t : Trace C R ε} (h : Sat A p (fun _ ↦ EveryStep φ) t) (e : ε) (hA : ∀ t s, A t s) :
    EveryStep φ t := by
  induction p generalizing t with
  | ret a => exact h
  | raise _ => exact h
  | call c k ih => exact (everyStep_concat.mp (ih _ (h (.error e) (hA _ _)))).1

/-! ## Two states -/

/-- **From two states that answer alike** a program goes on to the same point. -/
theorem goOn_related {K : Program C R ε α → σ → σ → Trace C R ε → Prop}
    (hcall : ∀ c k s s' t, suspends c = false → K (.call c k) s s' t →
      (m s t c).1 = (m s' t c).1 ∧
        K (k (m s t c).1) (m s t c).2 (m s' t c).2 (t ++ [⟨c, (m s t c).1⟩]))
    {p : Program C R ε α} {s s' : σ} {t : Trace C R ε} (h : K p s s' t) :
    (goOn m suspends p s t).program = (goOn m suspends p s' t).program ∧
      (goOn m suspends p s t).trace = (goOn m suspends p s' t).trace ∧
      K (goOn m suspends p s t).program (goOn m suspends p s t).state
        (goOn m suspends p s' t).state (goOn m suspends p s t).trace := by
  induction p generalizing s s' t with
  | ret a => exact ⟨rfl, rfl, h⟩
  | raise e => exact ⟨rfl, rfl, h⟩
  | call c k ih =>
    rw [goOn, goOn]
    by_cases hc : suspends c = true
    · rw [if_pos hc, if_pos hc]
      exact ⟨rfl, rfl, h⟩
    · obtain ⟨hreply, hK⟩ := hcall c k s s' t (eq_false_of_ne_true hc) h
      rw [if_neg hc, if_neg hc, ← hreply]
      exact ih _ hK

end Interaction
