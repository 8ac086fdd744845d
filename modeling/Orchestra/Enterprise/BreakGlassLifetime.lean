import Orchestra.Enterprise.BreakGlassControl

/-!
# The lifetime of an override

An override is approved for a window, and the window ends at the `expires_at` that the second
approval writes. Reading whether an override is active looks at the state of its row and at no
clock, so it is the sweep, or a revocation, that ends the override. The main theorem says which runs
keep an override within its window: those in which every window that has passed was closed by a
call.
-/

namespace Orchestra

open EventStore BreakGlass Transition

namespace BreakGlassService

/-- `is_active`. -/
def isActive (db : Database) (requestId : String) : Bool :=
  match db.breakGlass.find? requestId with
  | none => false
  | some row => decide (row.state = .active)

theorem isActive_iff {db : Database} {id : String} :
    isActive db id = true ↔ ∃ r, db.breakGlass.find? id = some r ∧ r.state = .active := by
  rw [isActive]
  cases db.breakGlass.find? id with
  | none => simp
  | some r => simp

/-- The request has been activated. -/
def Activated (db : Database) (id : String) : Prop :=
  ∃ r, db.breakGlass.find? id = some r ∧ r.activatedAt.isSome

/-- The call ends an active override of the tenant whose window ends at `e`: it revokes it under its
tenant, or sweeps after the end of the window. -/
def Closes (id tenant : String) (e : Timestamp) : Call → Prop
  | .revoke _ requestId _ identityTenantId _ => requestId = id ∧ identityTenantId = tenant
  | .sweepExpired env => e < env.now
  | _ => False

/-- After the activation of the request, the run makes a call that closes it. -/
def Closed (db₀ : Database) (calls : List Call) (id tenant : String) (e : Timestamp) : Prop :=
  ∃ pre c post, calls = pre ++ c :: post ∧ Activated (run step db₀ pre) id ∧ Closes id tenant e c

section Closing

variable {db₀ db : Database} {calls : List Call} {id tenant : String} {e : Timestamp}

/-- A call is the one that closes the request, or the request was closed before. -/
theorem closed_concat {c : Call} :
    Closed db₀ (calls ++ [c]) id tenant e ↔
      Closed db₀ calls id tenant e ∨ Activated (run step db₀ calls) id ∧ Closes id tenant e c :=
  exists_position_concat
    (P := fun pre c ↦ Activated (run step db₀ pre) id ∧ Closes id tenant e c)

/-- A call that closes an active request leaves it in a final state. -/
theorem step_of_closes {c : Call} {r : BreakGlassRequest} (hrow : db.breakGlass.find? id = some r)
    (hactive : r.state = .active) (hexp : r.expiresAt = some e)
    (hcl : Closes id r.tenantId e c) :
    ∃ r', (step db c).breakGlass.find? id = some r' ∧
      (r'.state = .expired ∨ r'.state = .revoked) := by
  cases c with
  | request env a => exact hcl.elim
  | approve env requestId approver identityTenantId rationale => exact hcl.elim
  | revoke env requestId revoker identityTenantId reason =>
    obtain ⟨rfl, rfl⟩ := hcl
    have hok : revocationRefusal r r.tenantId = none := by
      rw [revocationRefusal, if_neg (not_not_intro rfl), if_neg (by rw [hactive]; decide)]
    refine ⟨revokeRow revoker reason env.now r, ?_, Or.inr rfl⟩
    rw [step, revoke_breakGlass, revokeBreakGlass, hrow]
    simp only [hok]
    rw [KeyedTable.find?_updateAt_self, hrow]
    rfl
  | sweepExpired env =>
    have hpast : expired env.now r = true := by
      rw [expired, hexp, hactive]
      exact decide_eq_true hcl
    refine ⟨expireRow r, ?_, Or.inl rfl⟩
    rw [step, sweepExpired_breakGlass, sweepExpiredBreakGlass, KeyedTable.find?_update, hrow]
    exact congrArg some (if_pos hpast)

end Closing

/-! ## The phases of a request -/

/-- Where a request is in its life after a run. -/
inductive Phase (db₀ : Database) (calls : List Call) (r : BreakGlassRequest) : Prop
  | pending : r.state = .requested ∨ r.state = .firstApproved → r.activatedAt = none →
      r.expiresAt = none → Phase db₀ calls r
  | active (a : Timestamp) : r.state = .active → r.activatedAt = some a →
      r.expiresAt = some (a + seconds r.windowSeconds) →
      ¬Closed db₀ calls r.requestId r.tenantId (a + seconds r.windowSeconds) → Phase db₀ calls r
  | ended : r.state = .expired ∨ r.state = .revoked →
      (∀ e, r.expiresAt = some e → Closed db₀ calls r.requestId r.tenantId e) → Phase db₀ calls r

section Phases

variable {db₀ : Database} {calls : List Call} {r r' : BreakGlassRequest} {c : Call}

/-- A request that was never activated was never closed. -/
theorem not_closed_of_pending (hrow : (run step db₀ calls).breakGlass.find? r.requestId = some r)
    (hpending : r.activatedAt = none) {tenant : String} {e : Timestamp} :
    ¬Closed db₀ calls r.requestId tenant e := by
  rintro ⟨pre, c, post, rfl, ⟨r₀, hr₀, hact⟩, -⟩
  -- an activation time, once written, is never cleared
  have hkeep : ∀ {c : Call} {r r' : BreakGlassRequest}, RowStep c r r' →
      r.activatedAt.isSome → r'.activatedAt.isSome := by
    intro c r r' hstep hsome
    cases hstep with
    | activate => rfl
    | _ => exact hsome
  obtain ⟨r₁, hr₁, hsome⟩ := row_of_run (Q := fun r ↦ r.activatedAt.isSome) hkeep hr₀ hact
    (c :: post)
  rw [← run_append] at hr₁
  obtain rfl : r₁ = r := Option.some.inj (hr₁.symm.trans hrow)
  rw [hpending] at hsome
  cases hsome

/-- A call moves a request along the phases. -/
theorem Phase.step (h : Phase db₀ calls r)
    (hrow : (run BreakGlassService.step db₀ calls).breakGlass.find? r.requestId = some r)
    (hrow' : (BreakGlassService.step (run BreakGlassService.step db₀ calls) c).breakGlass.find?
      r.requestId = some r') (hstep : RowStep c r r') : Phase db₀ (calls ++ [c]) r' := by
  cases h with
  | ended hterm hclosed =>
    obtain rfl := hstep.eq_of_terminal hterm
    exact .ended hterm fun e he ↦ closed_concat.mpr (Or.inl (hclosed e he))
  | pending hstate hact hexp =>
    have hnot {tenant : String} {e : Timestamp} :
        ¬Closed db₀ (calls ++ [c]) r.requestId tenant e := by
      rw [closed_concat]
      rintro (hcl | ⟨⟨r₀, hr₀, hsome⟩, -⟩)
      · exact not_closed_of_pending hrow hact hcl
      · obtain rfl : r₀ = r := Option.some.inj (hr₀.symm.trans hrow)
        rw [hact] at hsome
        cases hsome
    cases hstep with
    | stay => exact .pending hstate hact hexp
    | firstApprove => exact .pending (Or.inr rfl) hact hexp
    | activate env => exact .active env.now rfl rfl rfl hnot
    | revoke => exact .ended (Or.inr rfl) fun e he ↦ by cases hexp.symm.trans he
    | expire env hpast =>
      rw [expired, hexp] at hpast
      simp at hpast
  | active a hstate hact hexp hopen =>
    have hactivated : Activated (run BreakGlassService.step db₀ calls) r.requestId :=
      ⟨r, hrow, by rw [hact]; rfl⟩
    cases hstep with
    | stay =>
      refine .active a hstate hact hexp fun hcl ↦ ?_
      rcases closed_concat.mp hcl with hold | ⟨-, hnow⟩
      · exact hopen hold
      · -- a closing call would have changed the row
        obtain ⟨r₁, hr₁, hterm⟩ := step_of_closes hrow hstate hexp hnow
        obtain rfl : r₁ = r := Option.some.inj (hr₁.symm.trans hrow')
        rw [hstate] at hterm
        simp at hterm
    | firstApprove _ _ hreq => rw [hstate] at hreq; cases hreq
    | activate _ _ hfirst => rw [hstate] at hfirst; cases hfirst
    | revoke env revoker reason =>
      exact .ended (Or.inr rfl) fun e _ ↦ closed_concat.mpr (Or.inr ⟨hactivated, rfl, rfl⟩)
    | expire env hpast =>
      refine .ended (Or.inl rfl) fun e he ↦ closed_concat.mpr (Or.inr ⟨hactivated, ?_⟩)
      have he' : r.expiresAt = some e := he
      rw [expired, he', Bool.and_eq_true] at hpast
      have hlt : e < env.now := of_decide_eq_true hpast.2
      exact hlt

/-- Every row of a run is in one of the phases. -/
theorem phase_of_run (h₀ : db₀.breakGlass = .empty) {id : String}
    (hrow : (run BreakGlassService.step db₀ calls).breakGlass.find? id = some r) :
    Phase db₀ calls r := by
  suffices hrun : ∀ (r : BreakGlassRequest) (id : String),
      (run BreakGlassService.step db₀ calls).breakGlass.find? id = some r → Phase db₀ calls r from
    hrun r id hrow
  refine run_history (I := fun calls (db : Database) ↦ ∀ (r : BreakGlassRequest) (id : String),
    db.breakGlass.find? id = some r → Phase db₀ calls r)
    (fun r id h ↦ ?_) (fun as c _ ih r id h ↦ ?_) calls fun _ _ ↦ trivial
  · rw [h₀] at h
    cases h
  · cases hold : (run BreakGlassService.step db₀ as).breakGlass.find? id with
    | none =>
      obtain ⟨env, a, taskRunId, -, rfl⟩ := step_new_row _ c hold h
      exact .pending (Or.inl rfl) rfl rfl
    | some r₀ =>
      obtain rfl : r₀.requestId = id := KeyedTable.key_of_find? hold
      obtain ⟨r', hr', hstep⟩ := step_row _ c hold
      obtain rfl : r' = r := Option.some.inj (hr'.symm.trans h)
      exact (ih r₀ _ hold).step hold hr' hstep

end Phases

/-! ## The window -/

/-- **The lifetime of an override.** Take any run from a store without break-glass requests, and ask
at time `t` whether a request is active. A positive answer comes within the window of an activated
request, if and only if the run has closed the request in case its window has passed by `t`. -/
theorem active_within_window_iff {db₀ : Database} (h₀ : db₀.breakGlass = .empty)
    (calls : List Call) (id : String) (t : Timestamp) :
    (isActive (run step db₀ calls) id = true →
      ∃ r a e, (run step db₀ calls).breakGlass.find? id = some r ∧ r.activatedAt = some a ∧
        r.expiresAt = some e ∧ t < e) ↔
    ∀ r e, (run step db₀ calls).breakGlass.find? id = some r → r.expiresAt = some e → e ≤ t →
      Closed db₀ calls id r.tenantId e := by
  constructor
  · intro hwithin r e hrow hexp hpast
    obtain rfl : r.requestId = id := KeyedTable.key_of_find? hrow
    cases phase_of_run h₀ hrow with
    | pending _ _ hnone => rw [hexp] at hnone; cases hnone
    | ended _ hclosed => exact hclosed e hexp
    | active a hstate _ _ _ =>
      have hon : isActive (run step db₀ calls) r.requestId = true :=
        isActive_iff.mpr ⟨r, hrow, hstate⟩
      obtain ⟨r', a', e', hrow', -, hexp', hlt⟩ := hwithin hon
      obtain rfl : r = r' := Option.some.inj (hrow.symm.trans hrow')
      obtain rfl : e = e' := Option.some.inj (hexp.symm.trans hexp')
      exact absurd hlt (not_lt.mpr hpast)
  · intro hclosed hon
    obtain ⟨r, hrow, hstate⟩ := isActive_iff.mp hon
    obtain rfl : r.requestId = id := KeyedTable.key_of_find? hrow
    cases phase_of_run h₀ hrow with
    | pending hpending _ _ => rw [hstate] at hpending; simp at hpending
    | ended hterm _ => rw [hstate] at hterm; simp at hterm
    | active a _ hact hexp hopen =>
      refine ⟨r, a, _, hrow, hact, hexp, ?_⟩
      by_contra hge
      exact hopen (hclosed r _ hrow hexp (not_lt.mp hge))

/-- Alice's override of half an hour, which nobody sweeps: an hour later it is active. -/
theorem active_after_window : ∃ r e,
    isActive (run step {} sampleCalls) "bg:1" = true ∧
      (run step {} sampleCalls).breakGlass.find? "bg:1" = some r ∧ r.expiresAt = some e ∧
      e < seconds 3600 := by
  have hexists : ∃ r, (run step {} sampleCalls).breakGlass.find? "bg:1" = some r ∧
      r.expiresAt = some (seconds 1802) ∧ isActive (run step {} sampleCalls) "bg:1" = true := by
    decide
  obtain ⟨r, hrow, hexp, hon⟩ := hexists
  exact ⟨r, seconds 1802, hon, hrow, hexp, by decide⟩

/-- She is active within the half hour, and a sweep after it closes the request. -/
theorem active_within_window_sample :
    (∃ r a e, (run step {} sampleCalls).breakGlass.find? "bg:1" = some r ∧
      r.activatedAt = some a ∧ r.expiresAt = some e ∧ seconds 1000 < e) ∧
    ∃ r : BreakGlassRequest, Closed {} (sampleCalls ++
      [.sweepExpired { now := seconds 3600, occurredAt := seconds 3600, eventId := toString }])
      "bg:1" r.tenantId (seconds 1802) := by
  have hempty : ({} : Database).breakGlass = .empty := rfl
  constructor
  · have hrow : ∃ r, (run step {} sampleCalls).breakGlass.find? "bg:1" = some r ∧
        r.expiresAt = some (seconds 1802) := by decide
    obtain ⟨r', hr', hexp'⟩ := hrow
    refine (active_within_window_iff hempty sampleCalls "bg:1" (seconds 1000)).mpr
      (fun r e hr hexp hpast ↦ ?_) (by decide)
    obtain rfl : r = r' := Option.some.inj (hr.symm.trans hr')
    obtain rfl : e = seconds 1802 := Option.some.inj (hexp.symm.trans hexp')
    exact absurd hpast (by decide)
  · have hrow : ∃ r, (run step {} (sampleCalls ++
        [.sweepExpired { now := seconds 3600, occurredAt := seconds 3600, eventId := toString }])
        ).breakGlass.find? "bg:1" = some r ∧ r.expiresAt = some (seconds 1802) := by decide
    obtain ⟨r, hr, hexp⟩ := hrow
    refine ⟨r, (active_within_window_iff hempty _ "bg:1" (seconds 7200)).mp (fun hon ↦ ?_) r
      (seconds 1802) hr hexp (by decide)⟩
    exact absurd hon (by decide)

end BreakGlassService

end Orchestra
