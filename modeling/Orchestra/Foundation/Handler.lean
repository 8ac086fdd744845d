import Orchestra.Foundation.Program

/-!
# Programs inside handlers

A handler stands between a program and whatever answers its calls. It answers each call by a program
of its own, which makes calls of another kind, and it keeps a state from one call to the next. The
handled program does not raise: it returns what the program inside ended with, together with the
last state of the handler, so that what follows is run either way.

`Sat.handle` is the rule for it. What the program inside guarantees is stated for its own calls, and
an assertion that relates the two traces carries it to the calls that are really made.
-/

namespace Interaction

universe u v w x

variable {C : Type u} {R : C → Type x} {C' : Type v} {R' : C' → Type w} {ε α β σ : Type x}

/-- What answers a call from a state: a program that returns the reply and the next state. -/
abbrev Handler (C : Type u) (R : C → Type x) (C' : Type v) (R' : C' → Type w) (ε σ : Type x) :=
  σ → (c : C) → Program C' R' ε (Except ε (R c) × σ)

namespace Program

/-- The program with its calls handled. -/
def handle (h : Handler C R C' R' ε σ) :
    Program C R ε α → σ → Program C' R' ε (Except ε α × σ)
  | .ret a, s => .ret (.ok a, s)
  | .raise e, s => .ret (.error e, s)
  | .call c k, s => (h s c).bind fun reply ↦ handle h (k reply.1) reply.2

/-- The program, with an exception returned instead of raised. -/
def attempt : Program C' R' ε α → Program C' R' ε (Except ε α)
  | .ret a => .ret (.ok a)
  | .raise e => .ret (.error e)
  | .call c k => .call c fun r ↦ attempt (k r)

end Program

theorem alone_handle_call {m : β → (c : C') → Except ε (R' c) × β} (h : Handler C R C' R' ε σ)
    (c : C) (k : Except ε (R c) → Program C R ε α) (n : σ) (s : β) :
    alone m ((Program.call c k).handle h n) s = match alone m (h n c) s with
      | (.ok reply, s') => alone m ((k reply.1).handle h reply.2) s'
      | (.error e, s') => (.error e, s') := by
  change alone m (h n c >>= fun reply ↦ (k reply.1).handle h reply.2) s = _
  rw [alone_bind]
  rcases alone m (h n c) s with ⟨reply | e, s'⟩ <;> rfl

/-! ## The rules -/

variable {A : Trace C R ε → Step C R ε → Prop} {A' : Trace C' R' ε → Step C' R' ε → Prop}

theorem sat_true (p : Program C R ε α) (t : Trace C R ε) : Sat A p (fun _ _ ↦ True) t := by
  induction p generalizing t with
  | ret a => trivial
  | raise e => trivial
  | call c k ih => exact fun r _ ↦ ih r _

theorem sat_attempt {p : Program C' R' ε α} {Q : Except ε (Except ε α) → Trace C' R' ε → Prop}
    {t : Trace C' R' ε} : Sat A' p.attempt Q t ↔ Sat A' p (fun r ↦ Q (.ok r)) t := by
  induction p generalizing t with
  | ret a => exact Iff.rfl
  | raise e => exact Iff.rfl
  | call c k ih => exact forall_congr' fun r ↦ imp_congr_right fun _ ↦ ih r

theorem triple_attempt {P : Trace C' R' ε → Prop} {p : Program C' R' ε α}
    {Q : Except ε α → Trace C' R' ε → Prop}
    (h : Triple A' P p (fun a ↦ Q (.ok a)) fun e ↦ Q (.error e)) :
    Triple A' P p.attempt Q fun _ _ ↦ False := by
  refine fun t ht ↦ sat_attempt.mpr ((h t ht).mono fun r t' hr ↦ ?_)
  cases r with
  | ok a => exact hr
  | error e => exact hr

/-- What a program guarantees of all calls at its end holds of those it has made so far, when every
call has a reply that is admitted. -/
theorem Sat.everyStep_of_live {φ : Trace C R ε → Step C R ε → Prop} {p : Program C R ε α}
    {t : Trace C R ε} (h : Sat A p (fun _ ↦ EveryStep φ) t) (hlive : ∀ t c, ∃ r, A t ⟨c, r⟩) :
    EveryStep φ t := by
  induction p generalizing t with
  | ret a => exact h
  | raise e => exact h
  | call c k ih =>
    obtain ⟨r, hr⟩ := hlive t c
    exact (everyStep_concat.mp (ih r (h r hr))).1

/-- Before a call, the guarantee holds of that call too. -/
theorem Sat.everyStep_call {φ : Trace C R ε → Step C R ε → Prop} {c : C}
    {k : Except ε (R c) → Program C R ε α} {t : Trace C R ε}
    (h : Sat A (.call c k) (fun _ ↦ EveryStep φ) t) (hlive : ∀ t c, ∃ r, A t ⟨c, r⟩) :
    ∃ r, EveryStep φ (t ++ [⟨c, r⟩]) := by
  obtain ⟨r, hr⟩ := hlive t c
  exact ⟨r, (h r hr).everyStep_of_live hlive⟩

/-! ## Handlers known by their calls -/

section Calls

variable {φ : C → Prop} {ψ : C' → Prop}

theorem calls_true (p : Program C R ε α) : Calls (fun _ ↦ True) p := by
  induction p with
  | ret a => trivial
  | raise e => trivial
  | call c k ih => exact ⟨trivial, ih⟩

theorem Calls.attempt {p : Program C' R' ε α} (h : Calls ψ p) : Calls ψ p.attempt := by
  induction p with
  | ret a => trivial
  | raise e => trivial
  | call c k ih => exact ⟨h.1, fun r ↦ ih r (h.2 r)⟩

/-- The calls that a handler makes for those of the program inside. -/
theorem Calls.handle {h : Handler C R C' R' ε σ} (hh : ∀ s c, φ c → Calls ψ (h s c))
    {p : Program C R ε α} (hp : Calls φ p) (s : σ) : Calls ψ (p.handle h s) := by
  induction p generalizing s with
  | ret a => trivial
  | raise e => trivial
  | call c k ih => exact (hh s c hp.1).bind fun reply ↦ ih reply.1 (hp.2 reply.1) reply.2

end Calls

/-! ## Handlers of programs with a guarantee -/

/-- The assertion `J` about the handler's state and the traces inside and outside is kept by every
call that the program inside may make by `G`, and the reply that comes inside is admitted there. -/
def Keeps (A : Trace C R ε → Step C R ε → Prop) (A' : Trace C' R' ε → Step C' R' ε → Prop)
    (G : Trace C R ε → C → Prop) (J : σ → Trace C R ε → Trace C' R' ε → Prop)
    (h : Handler C R C' R' ε σ) : Prop :=
  ∀ s t c, G t c → Triple A' (J s t) (h s c)
    (fun reply t' ↦ A t ⟨c, reply.1⟩ ∧ J reply.2 (t ++ [⟨c, reply.1⟩]) t') fun _ _ ↦ False

/-- **The rule of handlers.** The handler may rely on what the guarantee of the program inside says
of the calls it makes. -/
theorem Sat.handle {G : Trace C R ε → C → Prop} {J : σ → Trace C R ε → Trace C' R' ε → Prop}
    {h : Handler C R C' R' ε σ} {Q : Except ε α → Trace C R ε → Prop}
    (hcall : ∀ t c k, Sat A (.call c k) Q t → G t c) (hkeeps : Keeps A A' G J h)
    {p : Program C R ε α} {t : Trace C R ε} (hp : Sat A p Q t) (s : σ) :
    Triple A' (J s t) (p.handle h s)
      (fun last t' ↦ ∃ t, Q last.1 t ∧ J last.2 t t') fun _ _ ↦ False := by
  induction p generalizing t s with
  | ret a => exact fun t' ht' ↦ ⟨t, hp, ht'⟩
  | raise e => exact fun t' ht' ↦ ⟨t, hp, ht'⟩
  | call c k ih =>
    have hrest (reply : Except ε (R c) × σ) : Triple A'
        (fun t' ↦ A t ⟨c, reply.1⟩ ∧ J reply.2 (t ++ [⟨c, reply.1⟩]) t')
        ((k reply.1).handle h reply.2)
        (fun last t' ↦ ∃ t, Q last.1 t ∧ J last.2 t t') fun _ _ ↦ False :=
      .of_pure fun hA ↦ ih reply.1 (hp reply.1 hA) reply.2
    exact (hkeeps s t c (hcall t c k hp)).bind hrest

end Interaction
