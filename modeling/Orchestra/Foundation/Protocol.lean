import Orchestra.Foundation.Program

/-!
# Protocols for the calls of a program

A protocol says which calls a program may make, by what it has been replied so far: it has states, a
call is allowed in some of them, and the reply to a call leads to the next one. `Obeys` says that a
program keeps to the protocol whatever its calls reply, and in which states it ends; there is one
rule for each way of building a program.

Unlike an assertion about the trace of a run, obedience is a property of what is left of a program,
so it can be part of an invariant of programs that run at the same time.
-/

namespace Interaction

universe u v w x y

/-- Which calls are allowed, and where their replies lead. -/
structure Protocol (C : Type u) (R : C → Type v) (ε : Type w) (S : Type y) where
  allowed : S → C → Prop
  next : S → (c : C) → Except ε (R c) → S

variable {C : Type u} {R : C → Type v} {ε : Type w} {α β : Type x} {S : Type y}

/-- All calls of the program are allowed when they are made, and it ends with `Q`. -/
def Obeys (T : Protocol C R ε S) : Program C R ε α → (Except ε α → S → Prop) → S → Prop
  | .ret a, Q, s => Q (.ok a) s
  | .raise e, Q, s => Q (.error e) s
  | .call c k, Q, s => T.allowed s c ∧ ∀ r, Obeys T (k r) Q (T.next s c r)

variable {T : Protocol C R ε S} {s : S}

theorem obeys_bind {p : Program C R ε α} {f : α → Program C R ε β}
    {Q : Except ε β → S → Prop} : Obeys T (p >>= f) Q s ↔
      Obeys T p (fun r s ↦ match r with
        | .ok a => Obeys T (f a) Q s
        | .error e => Q (.error e) s) s := by
  change Obeys T (p.bind f) Q s ↔ _
  induction p generalizing s with
  | ret a => exact Iff.rfl
  | raise e => exact Iff.rfl
  | call c k ih => exact and_congr_right fun _ ↦ forall_congr' fun r ↦ ih r

theorem obeys_perform {c : C} {Q : Except ε (R c) → S → Prop} :
    Obeys T (.perform c : Program C R ε (R c)) Q s ↔
      T.allowed s c ∧ ∀ r, Q r (T.next s c r) := by
  refine and_congr_right fun _ ↦ forall_congr' fun r ↦ ?_
  cases r <;> exact Iff.rfl

/-- **The frame rule.** A program whose calls are allowed in a state and do not leave it ends
there. -/
theorem Obeys.of_calls {φ : C → Prop} {p : Program C R ε α} {Q : Except ε α → S → Prop}
    (h : Calls φ p) (hstay : ∀ c, φ c → T.allowed s c ∧ ∀ r, T.next s c r = s)
    (hQ : ∀ r, Q r s) : Obeys T p Q s := by
  induction p with
  | ret a => exact hQ _
  | raise e => exact hQ _
  | call c k ih =>
    obtain ⟨hallowed, hnext⟩ := hstay c h.1
    refine ⟨hallowed, fun r ↦ ?_⟩
    rw [hnext r]
    exact ih r (h.2 r)

end Interaction
