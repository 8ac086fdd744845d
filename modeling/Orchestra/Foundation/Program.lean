import Mathlib.Data.List.Infix
import Orchestra.Foundation.Transition

/-!
# Programs that call out and can raise

A program is a tree of calls: it makes a call, and goes on with the reply, or with the exception
that the call raised. Nothing is said about what a call does; a *machine* answers calls from a state
of its own, and running a program against a machine yields the trace of its calls with their
replies.

Properties of programs are properties of traces. A triple `Triple A P p Q E` says: from a trace with
`P`, whatever the calls of `p` reply as long as every reply is admitted by `A`, the program ends by
returning with `Q` or by raising with `E`. There is one rule for each way of building a program, and
a frame rule for programs all of whose calls keep an assertion; `exec_of_triple` carries a triple to
the runs of a machine.
-/

namespace Interaction

universe u v w x y

/-- A program that makes calls `C`, replied to by `R`, and raises exceptions `ε`. -/
inductive Program (C : Type u) (R : C → Type v) (ε : Type w) (α : Type x) where
  | ret (a : α)
  | raise (e : ε)
  | call (c : C) (k : Except ε (R c) → Program C R ε α)

/-- A call that was made, with what it replied. -/
structure Step (C : Type u) (R : C → Type v) (ε : Type w) where
  cmd : C
  reply : Except ε (R cmd)

/-- The calls of a run, the last one at the end. -/
abbrev Trace (C : Type u) (R : C → Type v) (ε : Type w) := List (Step C R ε)

variable {C : Type u} {R : C → Type v} {ε : Type w} {α β : Type x} {σ : Type y}

namespace Program

def bind (f : α → Program C R ε β) : Program C R ε α → Program C R ε β
  | .ret a => f a
  | .raise e => .raise e
  | .call c k => .call c fun r ↦ bind f (k r)

/-- `p`, and `h` from where it raises. -/
def tryCatch (h : ε → Program C R ε α) : Program C R ε α → Program C R ε α
  | .ret a => .ret a
  | .raise e => h e
  | .call c k => .call c fun r ↦ tryCatch h (k r)

instance : Monad (Program C R ε) where
  pure := .ret
  bind p f := p.bind f

/-- One call, whose exception is raised. -/
def perform (c : C) : Program C R ε (R c) :=
  .call c fun r ↦
    match r with
    | .ok a => .ret a
    | .error e => .raise e

/-- A computation without calls. -/
def ofExcept : Except ε α → Program C R ε α
  | .ok a => .ret a
  | .error e => .raise e

end Program

/-! ## Running a program -/

/-- What a run ends with. -/
structure Outcome (C : Type u) (R : C → Type v) (ε : Type w) (α : Type x) (σ : Type y) where
  result : Except ε α
  state : σ
  trace : Trace C R ε

/-- Answering calls: the reply and the new state may depend on the calls made so far. -/
abbrev Machine (C : Type u) (R : C → Type v) (ε : Type w) (σ : Type y) :=
  σ → Trace C R ε → (c : C) → Except ε (R c) × σ

/-- The run of a program against a machine, from a state and the calls made before. -/
def exec (m : Machine C R ε σ) : Program C R ε α → σ → Trace C R ε → Outcome C R ε α σ
  | .ret a, s, t => ⟨.ok a, s, t⟩
  | .raise e, s, t => ⟨.error e, s, t⟩
  | .call c k, s, t => exec m (k (m s t c).1) (m s t c).2 (t ++ [⟨c, (m s t c).1⟩])

/-- A run only adds calls. -/
theorem exec_trace_prefix (m : Machine C R ε σ) (p : Program C R ε α) (s : σ) (t : Trace C R ε) :
    t <+: (exec m p s t).trace := by
  induction p generalizing s t with
  | ret a => exact List.prefix_refl t
  | raise e => exact List.prefix_refl t
  | call c k ih =>
    have hrest := ih (m s t c).1 (m s t c).2 (t ++ [⟨c, (m s t c).1⟩])
    exact (List.prefix_append t _).trans hrest

/-- **The invariant rule.** What every call of the machine keeps holds at the end of a run. -/
theorem exec_invariant {m : Machine C R ε σ} {I : σ → Trace C R ε → Prop}
    (hstep : ∀ s t c, I s t → I (m s t c).2 (t ++ [⟨c, (m s t c).1⟩])) (p : Program C R ε α)
    {s : σ} {t : Trace C R ε} (h : I s t) : I (exec m p s t).state (exec m p s t).trace := by
  induction p generalizing s t with
  | ret a => exact h
  | raise e => exact h
  | call c k ih => exact ih (m s t c).1 (hstep s t c h)

/-! ### Running a program on its own -/

/-- The run of a program whose calls are answered from the state alone. -/
def alone (m : σ → (c : C) → Except ε (R c) × σ) : Program C R ε α → σ → Except ε α × σ
  | .ret a, s => (.ok a, s)
  | .raise e, s => (.error e, s)
  | .call c k, s => alone m (k (m s c).1) (m s c).2

section Alone

variable {m : σ → (c : C) → Except ε (R c) × σ}

@[simp] theorem alone_pure (a : α) (s : σ) :
    alone m (pure a : Program C R ε α) s = (.ok a, s) := rfl

@[simp] theorem alone_perform (c : C) (s : σ) :
    alone m (.perform c : Program C R ε (R c)) s = m s c := by
  rcases hr : m s c with ⟨a | e, s'⟩ <;> simp [Program.perform, alone, hr]

theorem alone_bind (p : Program C R ε α) (f : α → Program C R ε β) (s : σ) :
    alone m (p >>= f) s = match alone m p s with
      | (.ok a, s') => alone m (f a) s'
      | (.error e, s') => (.error e, s') := by
  change alone m (p.bind f) s = _
  induction p generalizing s with
  | ret a => rfl
  | raise e => rfl
  | call c k ih => exact ih (m s c).1 (m s c).2

theorem alone_tryCatch (p : Program C R ε α) (h : ε → Program C R ε α) (s : σ) :
    alone m (p.tryCatch h) s = match alone m p s with
      | (.ok a, s') => (.ok a, s')
      | (.error e, s') => alone m (h e) s' := by
  induction p generalizing s with
  | ret a => rfl
  | raise e => rfl
  | call c k ih => exact ih (m s c).1 (m s c).2

end Alone

/-! ## Assertions about every call -/

/-- Every call of the trace satisfies `φ` after the calls before it. -/
def EveryStep (φ : Trace C R ε → Step C R ε → Prop) (t : Trace C R ε) : Prop :=
  ∀ pre s post, t = pre ++ s :: post → φ pre s

theorem everyStep_nil (φ : Trace C R ε → Step C R ε → Prop) : EveryStep φ [] := by
  intro pre s post heq
  cases pre <;> cases heq

theorem everyStep_concat {φ : Trace C R ε → Step C R ε → Prop} {t : Trace C R ε}
    {s : Step C R ε} : EveryStep φ (t ++ [s]) ↔ EveryStep φ t ∧ φ t s := by
  have hsplit := @Transition.exists_position_concat _ (fun pre s ↦ ¬φ pre s) t s
  constructor
  · intro h
    refine ⟨fun pre b post heq ↦ ?_, h t s [] rfl⟩
    exact h pre b (post ++ [s]) (by rw [heq]; simp)
  · rintro ⟨h, hs⟩ pre b post heq
    by_contra hnot
    rcases hsplit.mp ⟨pre, b, post, heq, hnot⟩ with ⟨pre', b', post', heq', hnot'⟩ | hnot'
    · exact hnot' (h pre' b' post' heq')
    · exact hnot' hs

theorem EveryStep.imp {φ ψ : Trace C R ε → Step C R ε → Prop} {t : Trace C R ε}
    (h : EveryStep φ t) (himp : ∀ pre s, φ pre s → ψ pre s) : EveryStep ψ t :=
  fun pre s post heq ↦ himp pre s (h pre s post heq)

theorem EveryStep.and {φ ψ : Trace C R ε → Step C R ε → Prop} {t : Trace C R ε}
    (h : EveryStep φ t) (h' : EveryStep ψ t) : EveryStep (fun pre s ↦ φ pre s ∧ ψ pre s) t :=
  fun pre s post heq ↦ ⟨h pre s post heq, h' pre s post heq⟩

/-- What holds of every call holds of every call before it. -/
theorem EveryStep.before {φ : Trace C R ε → Step C R ε → Prop} {t : Trace C R ε}
    (h : EveryStep φ t) : EveryStep (fun pre _ ↦ EveryStep φ pre) t := by
  intro pre s post heq pre' s' post' heq'
  refine h pre' s' (post' ++ s :: post) ?_
  rw [heq, heq', List.append_assoc]
  rfl

theorem EveryStep.exists_of_mem {φ : Trace C R ε → Step C R ε → Prop} {t : Trace C R ε}
    (h : EveryStep φ t) {s : Step C R ε} (hs : s ∈ t) : ∃ pre, φ pre s := by
  obtain ⟨pre, post, heq⟩ := List.append_of_mem hs
  exact ⟨pre, h pre s post heq⟩

/-- Every call satisfies `φ` after the calls before it and those of `pre`. -/
def EveryStepFrom (φ : Trace C R ε → Step C R ε → Prop) : Trace C R ε → Trace C R ε → Prop
  | _, [] => True
  | pre, s :: t => φ pre s ∧ EveryStepFrom φ (pre ++ [s]) t

theorem everyStepFrom_iff {φ : Trace C R ε → Step C R ε → Prop} {pre t : Trace C R ε} :
    EveryStepFrom φ pre t ↔ ∀ before s post, t = before ++ s :: post → φ (pre ++ before) s := by
  induction t generalizing pre with
  | nil =>
    refine ⟨fun _ before s post heq ↦ ?_, fun _ ↦ trivial⟩
    cases before <;> cases heq
  | cons s t ih =>
    rw [EveryStepFrom, ih]
    constructor
    · rintro ⟨hs, ht⟩ before s' post heq
      cases before with
      | nil =>
        obtain ⟨rfl, rfl⟩ := List.cons.inj heq
        rw [List.append_nil]
        exact hs
      | cons first before =>
        obtain ⟨rfl, rfl⟩ := List.cons.inj heq
        have := ht before s' post rfl
        rwa [List.append_assoc] at this
    · intro h
      refine ⟨?_, fun before s' post heq ↦ ?_⟩
      · have := h [] s t rfl
        rwa [List.append_nil] at this
      · rw [List.append_assoc]
        exact h (s :: before) s' post (by rw [heq]; rfl)

instance decidableEveryStepFrom (φ : Trace C R ε → Step C R ε → Prop)
    [∀ pre s, Decidable (φ pre s)] : ∀ pre t, Decidable (EveryStepFrom φ pre t)
  | _, [] => isTrue trivial
  | pre, s :: t =>
    have := decidableEveryStepFrom φ (pre ++ [s]) t
    inferInstanceAs (Decidable (φ pre s ∧ EveryStepFrom φ (pre ++ [s]) t))

instance (φ : Trace C R ε → Step C R ε → Prop) [∀ pre s, Decidable (φ pre s)]
    (t : Trace C R ε) : Decidable (EveryStep φ t) :=
  decidable_of_iff (EveryStepFrom φ [] t) everyStepFrom_iff

/-- **The step rule.** A run makes calls with `φ` only, when every call of the machine has it from a
state with the invariant. -/
theorem exec_everyStep {m : Machine C R ε σ} {I : σ → Trace C R ε → Prop}
    {φ : Trace C R ε → Step C R ε → Prop}
    (hstep : ∀ s t c, I s t →
      I (m s t c).2 (t ++ [⟨c, (m s t c).1⟩]) ∧ φ t ⟨c, (m s t c).1⟩)
    (p : Program C R ε α) {s : σ} {t : Trace C R ε} (hI : I s t) (ht : EveryStep φ t) :
    EveryStep φ (exec m p s t).trace := by
  induction p generalizing s t with
  | ret a => exact ht
  | raise e => exact ht
  | call c k ih =>
    obtain ⟨hI', hφ⟩ := hstep s t c hI
    exact ih (m s t c).1 hI' (everyStep_concat.mpr ⟨ht, hφ⟩)

/-! ## Triples -/

/-- Whatever the calls of the program reply within `A`, it ends with `Q`. -/
def Sat (A : Trace C R ε → Step C R ε → Prop) :
    Program C R ε α → (Except ε α → Trace C R ε → Prop) → Trace C R ε → Prop
  | .ret a, Q, t => Q (.ok a) t
  | .raise e, Q, t => Q (.error e) t
  | .call c k, Q, t => ∀ r, A t ⟨c, r⟩ → Sat A (k r) Q (t ++ [⟨c, r⟩])

/-- The two ways to end, as one assertion. -/
def ending (Q : α → Trace C R ε → Prop) (E : ε → Trace C R ε → Prop) :
    Except ε α → Trace C R ε → Prop
  | .ok a => Q a
  | .error e => E e

/-- What holds either way holds. -/
theorem of_ending {S : Trace C R ε → Prop} {r : Except ε α} {t : Trace C R ε}
    (h : ending (fun _ ↦ S) (fun _ ↦ S) r t) : S t := by
  cases r with
  | ok a => exact h
  | error e => exact h

/-- From a trace with `P` the program returns with `Q` or raises with `E`. -/
def Triple (A : Trace C R ε → Step C R ε → Prop) (P : Trace C R ε → Prop) (p : Program C R ε α)
    (Q : α → Trace C R ε → Prop) (E : ε → Trace C R ε → Prop) : Prop :=
  ∀ t, P t → Sat A p (ending Q E) t

variable {A : Trace C R ε → Step C R ε → Prop} {P P' : Trace C R ε → Prop}

theorem Sat.mono {p : Program C R ε α} {Q Q' : Except ε α → Trace C R ε → Prop}
    {t : Trace C R ε} (h : Sat A p Q t) (himp : ∀ r t, Q r t → Q' r t) : Sat A p Q' t := by
  induction p generalizing t with
  | ret a => exact himp _ _ h
  | raise e => exact himp _ _ h
  | call c k ih => exact fun r hr ↦ ih r (h r hr)

/-- Fewer replies to answer for. -/
theorem Sat.restrict {A' : Trace C R ε → Step C R ε → Prop} {p : Program C R ε α}
    {Q : Except ε α → Trace C R ε → Prop} {t : Trace C R ε} (h : Sat A p Q t)
    (himp : ∀ t s, A' t s → A t s) : Sat A' p Q t := by
  induction p generalizing t with
  | ret a => exact h
  | raise e => exact h
  | call c k ih => exact fun r hr ↦ ih r (h r (himp t _ hr))

/-- Two guarantees hold together. -/
theorem Sat.and {p : Program C R ε α} {Q Q' : Except ε α → Trace C R ε → Prop} {t : Trace C R ε}
    (h : Sat A p Q t) (h' : Sat A p Q' t) : Sat A p (fun r t ↦ Q r t ∧ Q' r t) t := by
  induction p generalizing t with
  | ret a => exact ⟨h, h'⟩
  | raise e => exact ⟨h, h'⟩
  | call c k ih => exact fun r hr ↦ ih r (h r hr) (h' r hr)

/-- The replies were admitted. -/
theorem Sat.admitted {p : Program C R ε α} {Q : Except ε α → Trace C R ε → Prop}
    {t : Trace C R ε} (h : Sat A p Q t) (ht : EveryStep A t) :
    Sat A p (fun r t ↦ Q r t ∧ EveryStep A t) t := by
  induction p generalizing t with
  | ret a => exact ⟨h, ht⟩
  | raise e => exact ⟨h, ht⟩
  | call c k ih => exact fun r hr ↦ ih r (h r hr) (everyStep_concat.mpr ⟨ht, hr⟩)

theorem sat_bind {p : Program C R ε α} {f : α → Program C R ε β}
    {Q : Except ε β → Trace C R ε → Prop} {t : Trace C R ε} :
    Sat A (p >>= f) Q t ↔
      Sat A p (ending (fun a ↦ Sat A (f a) Q) fun e ↦ Q (.error e)) t := by
  change Sat A (p.bind f) Q t ↔ _
  induction p generalizing t with
  | ret a => exact Iff.rfl
  | raise e => exact Iff.rfl
  | call c k ih => exact forall_congr' fun r ↦ imp_congr_right fun _ ↦ ih r

theorem sat_tryCatch {p : Program C R ε α} {h : ε → Program C R ε α}
    {Q : Except ε α → Trace C R ε → Prop} {t : Trace C R ε} :
    Sat A (p.tryCatch h) Q t ↔
      Sat A p (ending (fun a ↦ Q (.ok a)) fun e ↦ Sat A (h e) Q) t := by
  induction p generalizing t with
  | ret a => exact Iff.rfl
  | raise e => exact Iff.rfl
  | call c k ih => exact forall_congr' fun r ↦ imp_congr_right fun _ ↦ ih r

namespace Triple

variable {p : Program C R ε α} {Q Q' : α → Trace C R ε → Prop} {E E' : ε → Trace C R ε → Prop}

theorem conseq (h : Triple A P p Q E) (hP : ∀ t, P' t → P t) (hQ : ∀ a t, Q a t → Q' a t)
    (hE : ∀ e t, E e t → E' e t) : Triple A P' p Q' E' := by
  intro t ht
  refine (h t (hP t ht)).mono fun r t' hr ↦ ?_
  cases r with
  | ok a => exact hQ a t' hr
  | error e => exact hE e t' hr

theorem post (h : Triple A P p Q E) (hQ : ∀ a t, Q a t → Q' a t) : Triple A P p Q' E :=
  h.conseq (fun _ hp ↦ hp) hQ fun _ _ he ↦ he

theorem post_error (h : Triple A P p Q E) (hE : ∀ e t, E e t → E' e t) : Triple A P p Q E' :=
  h.conseq (fun _ hp ↦ hp) (fun _ _ hq ↦ hq) hE

theorem restrict {A' : Trace C R ε → Step C R ε → Prop} (h : Triple A P p Q E)
    (himp : ∀ t s, A' t s → A t s) : Triple A' P p Q E :=
  fun t ht ↦ (h t ht).restrict himp

/-- The conjunction rule. -/
theorem and (h : Triple A P p Q E) (h' : Triple A P' p Q' E') :
    Triple A (fun t ↦ P t ∧ P' t) p (fun a t ↦ Q a t ∧ Q' a t) fun e t ↦ E e t ∧ E' e t := by
  intro t ht
  refine ((h t ht.1).and (h' t ht.2)).mono fun r t' hr ↦ ?_
  cases r with
  | ok a => exact hr
  | error e => exact hr

theorem ret {a : α} (h : ∀ t, P t → Q a t) : Triple A P (pure a : Program C R ε α) Q E := h

theorem raise {e : ε} (h : ∀ t, P t → E e t) : Triple A P (.raise e : Program C R ε α) Q E := h

theorem bind {f : α → Program C R ε β} {S : β → Trace C R ε → Prop}
    (hp : Triple A P p Q E) (hf : ∀ a, Triple A (Q a) (f a) S E) :
    Triple A P (p >>= f) S E := by
  intro t ht
  refine sat_bind.mpr ((hp t ht).mono fun r t' hr ↦ ?_)
  cases r with
  | ok a => exact hf a t' hr
  | error e => exact hr

theorem tryCatch {h : ε → Program C R ε α} (hp : Triple A P p Q E)
    (hh : ∀ e, Triple A (E e) (h e) Q E') : Triple A P (p.tryCatch h) Q E' := by
  intro t ht
  refine sat_tryCatch.mpr ((hp t ht).mono fun r t' hr ↦ ?_)
  cases r with
  | ok a => exact hr
  | error e => exact hh e t' hr

/-- One call: it may reply or raise. -/
theorem perform {c : C} {Q : R c → Trace C R ε → Prop}
    (hok : ∀ t a, P t → A t ⟨c, .ok a⟩ → Q a (t ++ [⟨c, .ok a⟩]))
    (herror : ∀ t e, P t → A t ⟨c, .error e⟩ → E e (t ++ [⟨c, .error e⟩])) :
    Triple A P (.perform c : Program C R ε (R c)) Q E := by
  intro t ht r hr
  cases r with
  | ok a => exact hok t a ht hr
  | error e => exact herror t e ht hr

theorem ofExcept {r : Except ε α} (hok : ∀ a, r = .ok a → ∀ t, P t → Q a t)
    (herror : ∀ e, r = .error e → ∀ t, P t → E e t) :
    Triple A P (.ofExcept r : Program C R ε α) Q E := by
  intro t ht
  cases r with
  | ok a => exact hok a rfl t ht
  | error e => exact herror e rfl t ht

/-- What does not depend on the trace is assumed in a triple. -/
theorem of_pure {a : Prop} (h : a → Triple A P p Q E) : Triple A (fun t ↦ a ∧ P t) p Q E :=
  fun t ht ↦ h ht.1 t ht.2

theorem of_exists {ι : Sort*} {P : ι → Trace C R ε → Prop} (h : ∀ i, Triple A (P i) p Q E) :
    Triple A (fun t ↦ ∃ i, P i t) p Q E :=
  fun t ⟨i, ht⟩ ↦ h i t ht

end Triple

/-! ## Programs known by their calls -/

/-- All calls the program can make satisfy `φ`. -/
def Calls (φ : C → Prop) : Program C R ε α → Prop
  | .ret _ => True
  | .raise _ => True
  | .call c k => φ c ∧ ∀ r, Calls φ (k r)

/-- All calls the program can make as long as none of them raises satisfy `φ`, and then the program
does not raise by itself either. -/
def OkCalls (φ : C → Prop) : Program C R ε α → Prop
  | .ret _ => True
  | .raise _ => False
  | .call c k => φ c ∧ ∀ a, OkCalls φ (k (.ok a))

section Calls

variable {φ ψ : C → Prop}

theorem Calls.mono {p : Program C R ε α} (h : Calls φ p) (himp : ∀ c, φ c → ψ c) : Calls ψ p := by
  induction p with
  | ret a => trivial
  | raise e => trivial
  | call c k ih => exact ⟨himp c h.1, fun r ↦ ih r (h.2 r)⟩

theorem calls_pure (a : α) : Calls φ (pure a : Program C R ε α) := trivial

theorem calls_raise (e : ε) : Calls φ (.raise e : Program C R ε α) := trivial

theorem calls_perform {c : C} : Calls φ (.perform c : Program C R ε (R c)) ↔ φ c := by
  refine ⟨fun h ↦ h.1, fun h ↦ ⟨h, fun r ↦ ?_⟩⟩
  cases r <;> trivial

theorem calls_ofExcept (r : Except ε α) : Calls φ (.ofExcept r : Program C R ε α) := by
  cases r <;> trivial

theorem Calls.bind {p : Program C R ε α} {f : α → Program C R ε β} (hp : Calls φ p)
    (hf : ∀ a, Calls φ (f a)) : Calls φ (p >>= f) := by
  change Calls φ (p.bind f)
  induction p with
  | ret a => exact hf a
  | raise e => trivial
  | call c k ih => exact ⟨hp.1, fun r ↦ ih r (hp.2 r)⟩

theorem Calls.tryCatch {p : Program C R ε α} {h : ε → Program C R ε α} (hp : Calls φ p)
    (hh : ∀ e, Calls φ (h e)) : Calls φ (p.tryCatch h) := by
  induction p with
  | ret a => trivial
  | raise e => exact hh e
  | call c k ih => exact ⟨hp.1, fun r ↦ ih r (hp.2 r)⟩

theorem okCalls_pure (a : α) : OkCalls φ (pure a : Program C R ε α) := trivial

theorem okCalls_perform {c : C} : OkCalls φ (.perform c : Program C R ε (R c)) ↔ φ c :=
  ⟨fun h ↦ h.1, fun h ↦ ⟨h, fun _ ↦ trivial⟩⟩

theorem OkCalls.bind {p : Program C R ε α} {f : α → Program C R ε β} (hp : OkCalls φ p)
    (hf : ∀ a, OkCalls φ (f a)) : OkCalls φ (p >>= f) := by
  change OkCalls φ (p.bind f)
  induction p with
  | ret a => exact hf a
  | raise e => exact hp.elim
  | call c k ih => exact ⟨hp.1, fun a ↦ ih (.ok a) (hp.2 a)⟩

/-- **The frame rule.** A program keeps what each of its calls keeps, whether it returns or
raises. -/
theorem Triple.of_calls {p : Program C R ε α} (h : Calls φ p)
    (hkeep : ∀ t s, φ s.cmd → A t s → P t → P (t ++ [s])) :
    Triple A P p (fun _ ↦ P) fun _ ↦ P := by
  intro t ht
  induction p generalizing t with
  | ret a => exact ht
  | raise e => exact ht
  | call c k ih =>
    intro r hr
    exact ih r (h.2 r) (t ++ [⟨c, r⟩]) (hkeep t ⟨c, r⟩ h.1 hr ht)

/-- **The frame rule without exceptions.** Where no call is admitted to raise, the program
returns. -/
theorem Triple.of_okCalls {p : Program C R ε α} (h : OkCalls φ p)
    (hok : ∀ t s, φ s.cmd → A t s → P t → ∃ a, s.reply = .ok a)
    (hkeep : ∀ t s, φ s.cmd → A t s → P t → P (t ++ [s])) :
    Triple A P p (fun _ ↦ P) fun _ _ ↦ False := by
  intro t ht
  induction p generalizing t with
  | ret a => exact ht
  | raise e => exact h.elim
  | call c k ih =>
    intro r hr
    cases r with
    | ok a => exact ih (.ok a) (h.2 a) (t ++ [⟨c, .ok a⟩]) (hkeep t ⟨c, .ok a⟩ h.1 hr ht)
    | error e =>
      obtain ⟨a, ha⟩ := hok t ⟨c, .error e⟩ h.1 hr ht
      cases ha

end Calls

/-! ## From triples to runs -/

/-- What a program guarantees within `A` holds of its runs, when the machine keeps an invariant that
admits its replies and the other conditions of `A` hold of the calls of the run. -/
theorem exec_of_sat {m : Machine C R ε σ} {I : σ → Trace C R ε → Prop}
    {B G : Trace C R ε → Step C R ε → Prop}
    (hstep : ∀ s t c, I s t →
      I (m s t c).2 (t ++ [⟨c, (m s t c).1⟩]) ∧ B t ⟨c, (m s t c).1⟩)
    {p : Program C R ε α} {Q : Except ε α → Trace C R ε → Prop} {s : σ} {t : Trace C R ε}
    (hI : I s t) (hp : Sat (fun t s ↦ B t s ∧ G t s) p Q t)
    (hG : EveryStep G (exec m p s t).trace) : Q (exec m p s t).result (exec m p s t).trace := by
  induction p generalizing s t with
  | ret a => exact hp
  | raise e => exact hp
  | call c k ih =>
    obtain ⟨hI', hB⟩ := hstep s t c hI
    have hmem : G t ⟨c, (m s t c).1⟩ := by
      obtain ⟨post, hpost⟩ := exec_trace_prefix m (k (m s t c).1) (m s t c).2
        (t ++ [⟨c, (m s t c).1⟩])
      refine hG t ⟨c, (m s t c).1⟩ post ?_
      rw [exec, ← hpost, List.append_assoc]
      rfl
    exact ih (m s t c).1 hI' (hp (m s t c).1 ⟨hB, hmem⟩) hG

/-- **From triples to runs.** -/
theorem exec_of_triple {m : Machine C R ε σ} {I : σ → Trace C R ε → Prop}
    {B G : Trace C R ε → Step C R ε → Prop}
    (hstep : ∀ s t c, I s t →
      I (m s t c).2 (t ++ [⟨c, (m s t c).1⟩]) ∧ B t ⟨c, (m s t c).1⟩)
    {p : Program C R ε α} {P : Trace C R ε → Prop} {Q : α → Trace C R ε → Prop}
    {E : ε → Trace C R ε → Prop} (hp : Triple (fun t s ↦ B t s ∧ G t s) P p Q E) {s : σ}
    {t : Trace C R ε} (hI : I s t) (hP : P t) (hG : EveryStep G (exec m p s t).trace) :
    ending Q E (exec m p s t).result (exec m p s t).trace :=
  exec_of_sat hstep hI (hp t hP) hG

end Interaction
