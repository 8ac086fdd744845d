import Mathlib.Data.List.Forall2
import Orchestra.Foundation.Program

/-!
# Programs in lockstep

Two programs are in lockstep when each makes the calls of the other, up to a correspondence: their
calls correspond, and as long as corresponding calls get corresponding replies they go on to do so,
raise the same exception or return related values. There is one rule for each way of building a
program; `Lockstep.runs` carries the relation to pairs of runs.

The correspondence says what the two runs may differ in. So a property of two runs is proved like
one of a single run, along the program.
-/

namespace Interaction

universe u v w x

variable {C : Type u} {R : C → Type v} {ε : Type w} {α β γ δ : Type x}

/-- Two computations that return related values or raise the same exception. -/
inductive Both {α β : Type*} {ε : Type w} (S : α → β → Prop) : Except ε α → Except ε β → Prop
  | ok {a : α} {b : β} : S a b → Both S (.ok a) (.ok b)
  | error (e : ε) : Both S (.error e) (.error e)

theorem both_eq {α : Type*} (r : Except ε α) : Both Eq r r := by
  cases r with
  | ok a => exact .ok rfl
  | error e => exact .error e

/-- Where the types of the two replies are only known to agree. -/
theorem both_of_heq {α : Type*} {r r' : Except ε α} (h : r ≍ r') : Both Eq r r' := by
  rw [eq_of_heq h]
  exact both_eq r'

theorem eq_of_both {α : Type*} {r r' : Except ε α} (h : Both Eq r r') : r = r' := by
  cases h with
  | ok h => rw [h]
  | error e => rfl

/-- Which calls of two runs correspond, and which replies to them. -/
structure Correspondence (C : Type u) (R : C → Type v) (ε : Type w) where
  calls : C → C → Prop
  replies : (c c' : C) → Except ε (R c) → Except ε (R c') → Prop

/-- As long as their calls correspond, so do their replies; and they end alike. -/
inductive Lockstep (K : Correspondence C R ε) (S : α → β → Prop) :
    Program C R ε α → Program C R ε β → Prop
  | ret {a : α} {b : β} : S a b → Lockstep K S (.ret a) (.ret b)
  | raise (e : ε) : Lockstep K S (.raise e) (.raise e)
  | call {c c' : C} {k : Except ε (R c) → Program C R ε α}
      {k' : Except ε (R c') → Program C R ε β} :
    K.calls c c' → (∀ r r', K.replies c c' r r' → Lockstep K S (k r) (k' r')) →
    Lockstep K S (.call c k) (.call c' k')

variable {K : Correspondence C R ε} {S : α → β → Prop}

namespace Lockstep

/-! ## Rules -/

theorem pure {a : α} {b : β} (h : S a b) :
    Lockstep K S (Pure.pure a : Program C R ε α) (Pure.pure b) := .ret h

theorem bind {T : γ → δ → Prop} {p : Program C R ε α} {q : Program C R ε β}
    {f : α → Program C R ε γ} {g : β → Program C R ε δ} (hp : Lockstep K S p q)
    (hf : ∀ a b, S a b → Lockstep K T (f a) (g b)) : Lockstep K T (p >>= f) (q >>= g) := by
  change Lockstep K T (p.bind f) (q.bind g)
  induction hp with
  | ret h => exact hf _ _ h
  | raise e => exact .raise e
  | call hc _ ih => exact .call hc ih

theorem tryCatch {p : Program C R ε α} {q : Program C R ε β} {h : ε → Program C R ε α}
    {h' : ε → Program C R ε β} (hp : Lockstep K S p q) (hh : ∀ e, Lockstep K S (h e) (h' e)) :
    Lockstep K S (p.tryCatch h) (q.tryCatch h') := by
  induction hp with
  | ret hS => exact .ret hS
  | raise e => exact hh e
  | call hc _ ih => exact .call hc ih

theorem perform {c c' : C} {S : R c → R c' → Prop} (hc : K.calls c c')
    (hr : ∀ r r', K.replies c c' r r' → Both S r r') :
    Lockstep K S (.perform c : Program C R ε (R c)) (.perform c') := by
  refine .call hc fun r r' h ↦ ?_
  cases hr r r' h with
  | ok hS => exact .ret hS
  | error e => exact .raise e

theorem ofExcept {r : Except ε α} {r' : Except ε β} (h : Both S r r') :
    Lockstep K S (.ofExcept r : Program C R ε α) (.ofExcept r') := by
  cases h with
  | ok hS => exact .ret hS
  | error e => exact .raise e

end Lockstep

/-! ## Runs -/

/-- The program makes these calls when they reply as they do here, and ends so. -/
inductive Runs : Program C R ε α → Trace C R ε → Except ε α → Prop
  | ret (a : α) : Runs (.ret a) [] (.ok a)
  | raise (e : ε) : Runs (.raise e) [] (.error e)
  | call {c : C} {k : Except ε (R c) → Program C R ε α} (reply : Except ε (R c))
      {t : Trace C R ε} {r : Except ε α} :
    Runs (k reply) t r → Runs (.call c k) (⟨c, reply⟩ :: t) r

/-- A machine runs a program. -/
theorem runs_exec {σ : Type*} (m : Machine C R ε σ) (p : Program C R ε α) (s : σ)
    (t : Trace C R ε) :
    ∃ t', (exec m p s t).trace = t ++ t' ∧ Runs p t' (exec m p s t).result := by
  induction p generalizing s t with
  | ret a => exact ⟨[], (List.append_nil t).symm, .ret a⟩
  | raise e => exact ⟨[], (List.append_nil t).symm, .raise e⟩
  | call c k ih =>
    obtain ⟨t', htrace, hruns⟩ := ih (m s t c).1 (m s t c).2 (t ++ [⟨c, (m s t c).1⟩])
    refine ⟨⟨c, (m s t c).1⟩ :: t', ?_, .call _ hruns⟩
    rw [exec, htrace, List.append_assoc]
    rfl

/-- The run in surroundings that reply by the call alone. -/
def answered (ρ : (c : C) → Except ε (R c)) (p : Program C R ε α) : Outcome C R ε α Unit :=
  exec (fun _ _ c ↦ (ρ c, ())) p () []

theorem runs_answered (ρ : (c : C) → Except ε (R c)) (p : Program C R ε α) :
    Runs p (answered ρ p).trace (answered ρ p).result := by
  obtain ⟨t, htrace, hruns⟩ := runs_exec (fun _ _ c ↦ (ρ c, ())) p () []
  rw [answered, htrace]
  exact hruns

theorem reply_answered (ρ : (c : C) → Except ε (R c)) (p : Program C R ε α) :
    ∀ s ∈ (answered ρ p).trace, s.reply = ρ s.cmd := by
  have hstep := exec_everyStep (m := fun _ _ c ↦ (ρ c, ())) (I := fun _ _ ↦ True)
    (φ := fun _ s ↦ s.reply = ρ s.cmd) (fun _ _ _ _ ↦ ⟨trivial, rfl⟩) p (s := ()) (t := []) trivial
    (everyStep_nil _)
  intro s hs
  obtain ⟨pre, hreply⟩ := hstep.exists_of_mem hs
  exact hreply

/-- What a program guarantees whatever its calls reply holds at the end of its runs. -/
theorem Runs.of_sat {A : Trace C R ε → Step C R ε → Prop} (hA : ∀ t s, A t s)
    {p : Program C R ε α} {t : Trace C R ε} {r : Except ε α} (h : Runs p t r)
    {Q : Except ε α → Trace C R ε → Prop} {pre : Trace C R ε} (hp : Sat A p Q pre) :
    Q r (pre ++ t) := by
  induction h generalizing pre with
  | ret a =>
    rw [List.append_nil]
    exact hp
  | raise e =>
    rw [List.append_nil]
    exact hp
  | call reply _ ih =>
    rw [List.append_cons]
    exact ih (hp reply (hA _ _))

/-- The surroundings of two runs answer alike: corresponding calls, after calls that correspond,
get corresponding replies. -/
def AnswersAlike (K : Correspondence C R ε) : Trace C R ε → Trace C R ε → Prop
  | s :: t, s' :: t' =>
    K.calls s.cmd s'.cmd → K.replies s.cmd s'.cmd s.reply s'.reply ∧ AnswersAlike K t t'
  | _, _ => True

/-- Surroundings that reply by the call alone answer alike when their replies correspond. -/
theorem answersAlike_of_replies {ρ ρ' : (c : C) → Except ε (R c)}
    (hK : ∀ c c', K.calls c c' → K.replies c c' (ρ c) (ρ' c')) {t t' : Trace C R ε}
    (ht : ∀ s ∈ t, s.reply = ρ s.cmd) (ht' : ∀ s ∈ t', s.reply = ρ' s.cmd) :
    AnswersAlike K t t' := by
  induction t generalizing t' with
  | nil => trivial
  | cons s t ih =>
    cases t' with
    | nil => trivial
    | cons s' t' =>
      rw [List.forall_mem_cons] at ht ht'
      intro hc
      rw [ht.1, ht'.1]
      exact ⟨hK _ _ hc, ih ht.2 ht'.2⟩

/-- **From lockstep to runs.** Where the surroundings answer alike, two programs in lockstep make
corresponding calls and end alike. -/
theorem Lockstep.runs {p : Program C R ε α} {q : Program C R ε β} (h : Lockstep K S p q)
    {t t' : Trace C R ε} {r : Except ε α} {r' : Except ε β} (hp : Runs p t r) (hq : Runs q t' r')
    (halike : AnswersAlike K t t') :
    List.Forall₂ (fun s s' ↦ K.calls s.cmd s'.cmd) t t' ∧ Both S r r' := by
  induction h generalizing t t' with
  | ret hS =>
    cases hp
    cases hq
    exact ⟨.nil, .ok hS⟩
  | raise e =>
    cases hp
    cases hq
    exact ⟨.nil, .error e⟩
  | call hc _ ih =>
    cases hp with
    | call reply hp =>
      cases hq with
      | call reply' hq =>
        obtain ⟨hreply, hrest⟩ := halike hc
        obtain ⟨hcalls, hboth⟩ := ih reply reply' hreply hp hq hrest
        exact ⟨.cons hc hcalls, hboth⟩

end Interaction
