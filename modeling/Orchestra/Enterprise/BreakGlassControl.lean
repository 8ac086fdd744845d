import Orchestra.Enterprise.BreakGlass

/-!
# Two-person control

What a break-glass request is for, stated on its own: an *override* names an applicant and collects
the signatures of two other people, in a window of bounded length. An `Override` carries the proofs
of all this, so one that a single person has activated cannot be written down.

Rows refine overrides (`Represents`): each update of the store, taken where its checks allow it, is
a step of the override that the row represents. The checks skip an approver whose name is the empty
string, so the refinement needs approvers with names. The main theorem reads the properties of a
row off the override, and the tenants of its two signatures off the history of the run.
-/

namespace Orchestra

open EventStore BreakGlass Transition

/-! ## Overrides -/

/-- The signatures on an override, beside the time at which the second one activated it. -/
inductive Signatures (applicant : String) where
  | none
  | one (first : String) (hfirst : applicant ≠ first)
  | both (first second : String) (hfirst : applicant ≠ first) (hsecond : applicant ≠ second)
      (hne : first ≠ second) (activatedAt : Timestamp)

namespace Signatures

variable {applicant : String}

def first? : Signatures applicant → Option String
  | .none => .none
  | .one first _ => some first
  | .both first .. => some first

def second? : Signatures applicant → Option String
  | .both _ second .. => some second
  | _ => .none

def activatedAt? : Signatures applicant → Option Timestamp
  | .both _ _ _ _ _ activatedAt => some activatedAt
  | _ => .none

/-- The signatures a state asks for. A revocation can come at any time. -/
def Fits : BreakGlassState → Signatures applicant → Prop
  | .requested, .none => True
  | .firstApproved, .one .. => True
  | .active, .both .. => True
  | .expired, .both .. => True
  | .revoked, _ => True
  | _, _ => False

end Signatures

/-- An override that is under two-person control by construction. -/
structure Override where
  tenant : String
  applicant : String
  window : {w : ℤ // 1 ≤ w ∧ w ≤ 14400}
  state : BreakGlassState
  signatures : Signatures applicant
  fits : signatures.Fits state

namespace Override

/-- The end of the window. -/
def expiresAt? (o : Override) : Option Timestamp :=
  o.signatures.activatedAt?.map (· + seconds o.window)

/-- A new override. -/
def new (tenant applicant : String) (window : {w : ℤ // 1 ≤ w ∧ w ≤ 14400}) : Override :=
  ⟨tenant, applicant, window, .requested, .none, trivial⟩

/-- `p` signs. -/
def approve (o : Override) (p : String) (now : Timestamp) : Option Override :=
  match o with
  | ⟨tenant, applicant, window, .requested, .none, _⟩ =>
    if h : applicant ≠ p then some ⟨tenant, applicant, window, .firstApproved, .one p h, trivial⟩
    else none
  | ⟨tenant, applicant, window, .firstApproved, .one first hfirst, _⟩ =>
    if h : applicant ≠ p ∧ first ≠ p then
      some ⟨tenant, applicant, window, .active, .both first p hfirst h.1 h.2 now, trivial⟩
    else none
  | _ => none

/-- The override is withdrawn, if it is not over. -/
def revoke (o : Override) : Option Override :=
  if o.state ∈ [BreakGlassState.expired, .revoked] then none
  else some { o with state := .revoked, fits := by cases o.signatures <;> trivial }

/-- The window of an active override has passed. -/
def expire (o : Override) (now : Timestamp) : Option Override :=
  match o with
  | ⟨tenant, applicant, window, .active, .both f s hf hs hne activatedAt, _⟩ =>
    if activatedAt + seconds window < now then
      some ⟨tenant, applicant, window, .expired, .both f s hf hs hne activatedAt, trivial⟩
    else none
  | _ => none

end Override

/-! ## Rows represent overrides -/

/-- The columns of `r` are those of the override. -/
structure Represents (r : BreakGlassRequest) (o : Override) : Prop where
  tenant : r.tenantId = o.tenant
  applicant : r.requestedBy = o.applicant
  window : r.windowSeconds = o.window
  state : r.state = o.state
  first : r.firstApprover = o.signatures.first?
  second : r.secondApprover = o.signatures.second?
  activatedAt : r.activatedAt = o.signatures.activatedAt?
  expiresAt : r.expiresAt = o.expiresAt?

/-- A new row represents a new override. -/
theorem represents_requestRow (env : BreakGlassEnv) (a : BreakGlassArgs) (taskRunId : String) :
    Represents (BreakGlassService.requestRow env a taskRunId)
      (.new a.tenantId a.requestedBy
        ⟨_, clampWindow_bounds a.windowSeconds
          (BreakGlassService.resolveTenantMaxWindow a.tenantId)⟩) :=
  ⟨rfl, rfl, rfl, rfl, rfl, rfl, rfl, rfl⟩

section Refinement

variable {r : BreakGlassRequest} {o : Override} {approver : String}

/-- The checks that let an approval through, apart from the tenant's. -/
structure MayApprove (r : BreakGlassRequest) (approver : String) : Prop where
  applicant : r.requestedBy ≠ approver
  first : ¬(r.firstApprover = some approver ∧ approver ≠ "")

/-- A first approval is a signature. -/
theorem Represents.firstApprove (h : Represents r o) (now : Timestamp)
    (hstate : r.state = .requested) (hmay : MayApprove r approver) :
    ∃ o', o.approve approver now = some o' ∧ Represents (firstApprove approver now r) o' := by
  obtain ⟨tenant, applicant, window, state, signatures, fits⟩ := o
  obtain rfl : .requested = state := hstate.symm.trans h.state
  cases signatures with
  | none =>
    have hne : applicant ≠ approver := fun heq ↦ hmay.applicant (h.applicant.trans heq)
    refine ⟨_, dif_pos hne, ⟨h.tenant, h.applicant, h.window, rfl, rfl, h.second, h.activatedAt,
      h.expiresAt⟩⟩
  | one => exact fits.elim
  | both => exact fits.elim

/-- A second approval, by somebody with a name, is a second signature. -/
theorem Represents.activate (h : Represents r o) (now : Timestamp)
    (hstate : r.state = .firstApproved) (hmay : MayApprove r approver) (hname : approver ≠ "") :
    ∃ o', o.approve approver now = some o' ∧ Represents (activate approver now r) o' := by
  obtain ⟨tenant, applicant, window, state, signatures, fits⟩ := o
  obtain rfl : .firstApproved = state := hstate.symm.trans h.state
  cases signatures with
  | none => exact fits.elim
  | one first hfirst =>
    have hne : applicant ≠ approver ∧ first ≠ approver := by
      refine ⟨fun heq ↦ hmay.applicant (h.applicant.trans heq), fun heq ↦ hmay.first ⟨?_, hname⟩⟩
      rw [h.first, ← heq]
      rfl
    refine ⟨_, dif_pos hne, ⟨h.tenant, h.applicant, h.window, rfl, h.first, rfl, rfl, ?_⟩⟩
    change some (now + seconds r.windowSeconds) = some (now + seconds window)
    rw [h.window]
  | both => exact fits.elim

/-- A revocation withdraws the override. -/
theorem Represents.revoke (h : Represents r o) (now : Timestamp)
    (hstate : r.state ∉ [BreakGlassState.expired, .revoked]) (revoker reason : String) :
    ∃ o', o.revoke = some o' ∧ Represents (revokeRow revoker reason now r) o' := by
  rw [h.state] at hstate
  exact ⟨_, if_neg hstate, ⟨h.tenant, h.applicant, h.window, rfl, h.first, h.second, h.activatedAt,
    h.expiresAt⟩⟩

/-- A row the sweep selects represents an override whose window has passed. -/
theorem Represents.expire (h : Represents r o) (hexp : expired now r = true) :
    ∃ o', o.expire now = some o' ∧ Represents (expireRow r) o' := by
  rw [expired, Bool.and_eq_true, decide_eq_true_eq] at hexp
  obtain ⟨hstate, hpast⟩ := hexp
  obtain ⟨tenant, applicant, window, state, signatures, fits⟩ := o
  obtain rfl : .active = state := hstate.symm.trans h.state
  cases signatures with
  | none => exact fits.elim
  | one => exact fits.elim
  | both f s hf hs hne t =>
    have hlt : t + seconds window < now := by
      rw [h.expiresAt] at hpast
      simpa [Override.expiresAt?, Signatures.activatedAt?] using hpast
    exact ⟨_, if_pos hlt, ⟨h.tenant, h.applicant, h.window, rfl, h.first, h.second, h.activatedAt,
      h.expiresAt⟩⟩

/-- A row with a second signature has both, by different people, and a window that starts with the
second one. -/
theorem Represents.controlled (h : Represents r o) (hsecond : r.secondApprover.isSome) :
    ∃ p q t, r.firstApprover = some p ∧ r.secondApprover = some q ∧ r.requestedBy ≠ p ∧
      r.requestedBy ≠ q ∧ p ≠ q ∧ r.activatedAt = some t ∧
      r.expiresAt = some (t + seconds r.windowSeconds) ∧ 1 ≤ r.windowSeconds ∧
      r.windowSeconds ≤ 14400 := by
  obtain ⟨tenant, applicant, window, state, signatures, fits⟩ := o
  rw [h.second] at hsecond
  rw [h.first, h.second, h.activatedAt, h.expiresAt, h.applicant, h.window]
  cases signatures with
  | none => cases hsecond
  | one => cases hsecond
  | both f s hf hs hne t => exact ⟨f, s, t, rfl, rfl, hf, hs, hne, rfl, rfl, window.2.1, window.2.2⟩

/-- An active row has a second signature. -/
theorem Represents.second_of_active (h : Represents r o) (hstate : r.state = .active) :
    r.secondApprover.isSome := by
  obtain ⟨tenant, applicant, window, state, signatures, fits⟩ := o
  obtain rfl : .active = state := hstate.symm.trans h.state
  rw [h.second]
  cases signatures with
  | none => exact fits.elim
  | one => exact fits.elim
  | both => rfl

end Refinement

/-! ## What a call does to a row -/

namespace BreakGlassService

/-- The ways in which a call of the service can change a row. -/
inductive RowStep : Call → BreakGlassRequest → BreakGlassRequest → Prop
  | stay (c : Call) (r : BreakGlassRequest) : RowStep c r r
  | firstApprove {r : BreakGlassRequest} {approver : String} (env : BreakGlassEnv)
      (rationale : String) : r.state = .requested → MayApprove r approver →
      RowStep (.approve env r.requestId approver r.tenantId rationale) r
        (firstApprove approver env.now r)
  | activate {r : BreakGlassRequest} {approver : String} (env : BreakGlassEnv)
      (rationale : String) : r.state = .firstApproved → MayApprove r approver →
      RowStep (.approve env r.requestId approver r.tenantId rationale) r
        (activate approver env.now r)
  | revoke {r : BreakGlassRequest} (env : BreakGlassEnv) (revoker reason : String) :
      r.state ∉ [BreakGlassState.expired, .revoked] →
      RowStep (.revoke env r.requestId revoker r.tenantId reason) r
        (revokeRow revoker reason env.now r)
  | expire {r : BreakGlassRequest} (env : BreakGlassEnv) : expired env.now r = true →
      RowStep (.sweepExpired env) r (expireRow r)

theorem approvalRefusal_eq_none {r : BreakGlassRequest} {approver tenant : String}
    (h : approvalRefusal r approver tenant = none) :
    r.tenantId = tenant ∧ (r.state = .requested ∨ r.state = .firstApproved) ∧
      MayApprove r approver := by
  rw [approvalRefusal] at h
  split_ifs at h with htenant hstate happlicant hfirst
  exact ⟨not_not.mp htenant, by simpa [or_iff_not_imp_left] using hstate, happlicant, hfirst⟩

theorem approvalRefusal_of_mayApprove {r : BreakGlassRequest} {approver : String}
    (hstate : r.state = .requested ∨ r.state = .firstApproved) (hmay : MayApprove r approver) :
    approvalRefusal r approver r.tenantId = none := by
  rw [approvalRefusal, if_neg (not_not_intro rfl),
    if_neg (by simpa [or_iff_not_imp_left] using hstate), if_neg hmay.applicant,
    if_neg hmay.first]

/-- A call leaves a row in place, changed in one of the ways of `RowStep`. -/
theorem step_row (db : Database) (c : Call) {id : String} {r : BreakGlassRequest}
    (h : db.breakGlass.find? id = some r) :
    ∃ r', (step db c).breakGlass.find? id = some r' ∧ RowStep c r r' := by
  obtain rfl : r.requestId = id := KeyedTable.key_of_find? h
  cases c with
  | request env a =>
    refine ⟨r, ?_, .stay _ r⟩
    rcases request_breakGlass env db a with hsame | ⟨-, taskRunId, hins⟩
    · rw [step, hsame, h]
    · exact KeyedTable.find?_insert_of_some hins h
  | approve env requestId approver tenant rationale =>
    rw [step, approve_breakGlass, recordBreakGlassApproval]
    split
    · exact ⟨r, h, .stay _ r⟩
    next row hrow =>
    split
    · exact ⟨r, h, .stay _ r⟩
    next hnone =>
    obtain ⟨rfl, hstate, hmay⟩ := approvalRefusal_eq_none hnone
    by_cases hid : r.requestId = requestId
    · subst hid
      obtain rfl : r = row := Option.some.inj (h.symm.trans hrow)
      split
      · next hreq =>
        exact ⟨_, by rw [KeyedTable.find?_updateAt_self, h]; rfl,
          .firstApprove env rationale hreq hmay⟩
      · next hreq =>
        exact ⟨_, by rw [KeyedTable.find?_updateAt_self, h]; rfl,
          .activate env rationale (hstate.resolve_left hreq) hmay⟩
    · refine ⟨r, ?_, .stay _ r⟩
      split <;> rw [KeyedTable.find?_updateAt_of_ne _ _ _ hid, h]
  | revoke env requestId revoker tenant reason =>
    rw [step, revoke_breakGlass, revokeBreakGlass]
    split
    · exact ⟨r, h, .stay _ r⟩
    next row hrow =>
    split
    · exact ⟨r, h, .stay _ r⟩
    next hnone =>
    rw [revocationRefusal] at hnone
    split_ifs at hnone with htenant hterm
    obtain rfl := not_not.mp htenant
    by_cases hid : r.requestId = requestId
    · subst hid
      obtain rfl : r = row := Option.some.inj (h.symm.trans hrow)
      exact ⟨_, by rw [KeyedTable.find?_updateAt_self, h]; rfl, .revoke env revoker reason hterm⟩
    · exact ⟨r, by rw [KeyedTable.find?_updateAt_of_ne _ _ _ hid, h], .stay _ r⟩
  | sweepExpired env =>
    rw [step, sweepExpired_breakGlass, sweepExpiredBreakGlass]
    refine ⟨_, by rw [KeyedTable.find?_update, h]; rfl, ?_⟩
    change RowStep _ r (if expired env.now r = true then expireRow r else r)
    split
    · next hexp => exact .expire env hexp
    · exact .stay _ r

/-- A row that a call adds is the row of a request. -/
theorem step_new_row (db : Database) (c : Call) {id : String} {r : BreakGlassRequest}
    (h : db.breakGlass.find? id = none) (h' : (step db c).breakGlass.find? id = some r) :
    ∃ env a taskRunId, c = .request env a ∧ r = requestRow env a taskRunId := by
  cases c with
  | request env a =>
    rcases request_breakGlass env db a with hsame | ⟨-, taskRunId, hins⟩
    · rw [step, hsame, h] at h'
      cases h'
    · rw [step, KeyedTable.find?_insert hins, h] at h'
      split at h'
      · exact ⟨env, a, taskRunId, rfl, (Option.some.inj h').symm⟩
      · cases h'
  | approve env requestId approver tenant rationale =>
    rw [step, approve_breakGlass, recordBreakGlassApproval] at h'
    split at h'
    · rw [h] at h'; cases h'
    · split at h'
      · rw [h] at h'; cases h'
      · split at h' <;> rw [KeyedTable.find?_updateAt, h] at h' <;> split at h' <;> cases h'
  | revoke env requestId revoker tenant reason =>
    rw [step, revoke_breakGlass, revokeBreakGlass] at h'
    split at h'
    · rw [h] at h'; cases h'
    · split at h'
      · rw [h] at h'; cases h'
      · rw [KeyedTable.find?_updateAt, h] at h'; split at h' <;> cases h'
  | sweepExpired env =>
    rw [step, sweepExpired_breakGlass, sweepExpiredBreakGlass, KeyedTable.find?_update, h] at h'
    cases h'

/-! ## The history of a signature -/

/-- In the run `calls` from `db₀`, an approval of `r` by `p` under the tenant of `r` was applied and
moved the row to `state`. -/
def SignedUnder (db₀ : Database) (calls : List Call) (r : BreakGlassRequest) (p : String)
    (state : BreakGlassState) : Prop :=
  ∃ pre env rationale post,
    calls = pre ++ Call.approve env r.requestId p r.tenantId rationale :: post ∧
      (approve env (run step db₀ pre) r.requestId p r.tenantId rationale).2 = .applied state

/-- A row whose columns make an override, and whose signatures were given under its own tenant. -/
structure Documented (db₀ : Database) (calls : List Call) (r : BreakGlassRequest) : Prop where
  override : ∃ o, Represents r o
  first : ∀ p, r.firstApprover = some p → SignedUnder db₀ calls r p .firstApproved
  second : ∀ q, r.secondApprover = some q → SignedUnder db₀ calls r q .active

variable {db₀ : Database} {calls : List Call} {r r' : BreakGlassRequest} {p : String}
  {state : BreakGlassState}

theorem SignedUnder.concat (h : SignedUnder db₀ calls r p state) (c : Call)
    (hid : r'.requestId = r.requestId) (htenant : r'.tenantId = r.tenantId) :
    SignedUnder db₀ (calls ++ [c]) r' p state := by
  obtain ⟨pre, env, rationale, post, rfl, happ⟩ := h
  refine ⟨pre, env, rationale, post ++ [c], ?_, ?_⟩
  · rw [hid, htenant, List.append_assoc, List.cons_append]
  · rw [hid, htenant, happ]

/-- The approval that a row's step records was applied. -/
private theorem signedUnder_of_mayApprove {r : BreakGlassRequest} (r' : BreakGlassRequest)
    {id : String}
    (hrow : (run step db₀ calls).breakGlass.find? id = some r) (env : BreakGlassEnv)
    (rationale : String) (hstate : r.state = .requested ∨ r.state = .firstApproved)
    (hmay : MayApprove r p) (hid : r'.requestId = r.requestId)
    (htenant : r'.tenantId = r.tenantId) :
    SignedUnder db₀ (calls ++ [.approve env r.requestId p r.tenantId rationale]) r' p
      (if r.state = .requested then .firstApproved else .active) := by
  refine ⟨calls, env, rationale, [], by rw [hid, htenant], ?_⟩
  obtain rfl : r.requestId = id := KeyedTable.key_of_find? hrow
  rw [hid, htenant, approve_outcome, recordBreakGlassApproval, hrow]
  simp only [approvalRefusal_of_mayApprove hstate hmay]
  split <;> rfl

/-- A call with a named approver keeps a row documented. -/
theorem Documented.step {id : String} (h : Documented db₀ calls r)
    (hrow : (run step db₀ calls).breakGlass.find? id = some r) {c : Call}
    (hname : ∀ env requestId tenant rationale, c ≠ .approve env requestId "" tenant rationale)
    (hstep : RowStep c r r') : Documented db₀ (calls ++ [c]) r' := by
  obtain ⟨⟨o, ho⟩, hfirst, hsecond⟩ := h
  cases hstep with
  | stay =>
    exact ⟨⟨o, ho⟩, fun p hp ↦ (hfirst p hp).concat c rfl rfl,
      fun q hq ↦ (hsecond q hq).concat c rfl rfl⟩
  | @firstApprove _ approver env rationale hstate hmay =>
    obtain ⟨o', -, ho'⟩ := ho.firstApprove env.now hstate hmay
    refine ⟨⟨o', ho'⟩, fun p hp ↦ ?_, fun q hq ↦ (hsecond q hq).concat _ rfl rfl⟩
    obtain rfl : approver = p := Option.some.inj hp
    have := signedUnder_of_mayApprove (EventStore.firstApprove approver env.now r) hrow env
      rationale (Or.inl hstate) hmay rfl rfl
    rwa [if_pos hstate] at this
  | @activate _ approver env rationale hstate hmay =>
    have hne : approver ≠ "" := by rintro rfl; exact hname _ _ _ _ rfl
    obtain ⟨o', -, ho'⟩ := ho.activate env.now hstate hmay hne
    refine ⟨⟨o', ho'⟩, fun p hp ↦ (hfirst p hp).concat _ rfl rfl, fun q hq ↦ ?_⟩
    obtain rfl : approver = q := Option.some.inj hq
    have := signedUnder_of_mayApprove (EventStore.activate approver env.now r) hrow env
      rationale (Or.inr hstate) hmay rfl rfl
    rwa [if_neg (by rw [hstate]; decide)] at this
  | revoke env revoker reason hterm =>
    obtain ⟨o', -, ho'⟩ := ho.revoke env.now hterm revoker reason
    exact ⟨⟨o', ho'⟩, fun p hp ↦ (hfirst p hp).concat _ rfl rfl,
      fun q hq ↦ (hsecond q hq).concat _ rfl rfl⟩
  | expire env hexp =>
    obtain ⟨o', -, ho'⟩ := ho.expire hexp
    exact ⟨⟨o', ho'⟩, fun p hp ↦ (hfirst p hp).concat _ rfl rfl,
      fun q hq ↦ (hsecond q hq).concat _ rfl rfl⟩

/-- The approver of the call, if it is an approval, has a name. -/
def Named (c : Call) : Prop :=
  ∀ env requestId tenant rationale, c ≠ .approve env requestId "" tenant rationale

/-- Every row of a run is documented. -/
theorem documented_of_run (h₀ : db₀.breakGlass = .empty) (hnamed : ∀ c ∈ calls, Named c)
    {id : String} (hrow : (run BreakGlassService.step db₀ calls).breakGlass.find? id = some r) :
    Documented db₀ calls r := by
  revert id r
  refine run_history
    (I := fun calls (db : Database) ↦ ∀ {r : BreakGlassRequest} {id : String},
      db.breakGlass.find? id = some r → Documented db₀ calls r)
    (fun h ↦ ?_) (fun as c hc ih r id h ↦ ?_) calls hnamed
  · rw [h₀] at h
    cases h
  · cases hold : (run BreakGlassService.step db₀ as).breakGlass.find? id with
    | none =>
      obtain ⟨env, a, taskRunId, -, rfl⟩ := step_new_row _ c hold h
      exact ⟨⟨_, represents_requestRow env a taskRunId⟩, nofun, nofun⟩
    | some r₀ =>
      obtain ⟨r', hr', hstep⟩ := step_row _ c hold
      obtain rfl : r' = r := Option.some.inj (hr'.symm.trans h)
      exact (ih hold).step hold hc hstep

/-! ## Runs -/

/-- The moves of the state machine, and staying. -/
inductive Moves : BreakGlassState → BreakGlassState → Prop
  | stay (s : BreakGlassState) : Moves s s
  | firstApprove : Moves .requested .firstApproved
  | activate : Moves .firstApproved .active
  | expire : Moves .active .expired
  | revoke {s : BreakGlassState} : s ≠ .expired → s ≠ .revoked → Moves s .revoked

theorem RowStep.moves {c : Call} (h : RowStep c r r') : Moves r.state r'.state := by
  cases h with
  | stay => exact .stay _
  | firstApprove _ _ hstate => rw [hstate]; exact .firstApprove
  | activate _ _ hstate => rw [hstate]; exact .activate
  | revoke _ _ _ hterm =>
    simp only [List.mem_cons, List.not_mem_nil, or_false, not_or] at hterm
    exact .revoke hterm.1 hterm.2
  | expire _ hexp =>
    rw [expired, Bool.and_eq_true, decide_eq_true_eq] at hexp
    rw [hexp.1]
    exact .expire

/-- A finished row is not changed at all. -/
theorem RowStep.eq_of_terminal {c : Call} (h : RowStep c r r')
    (hterm : r.state = .expired ∨ r.state = .revoked) : r' = r := by
  cases h with
  | stay => rfl
  | firstApprove _ _ hstate => rw [hstate] at hterm; simp at hterm
  | activate _ _ hstate => rw [hstate] at hterm; simp at hterm
  | revoke _ _ _ hnot => exact absurd (by simpa using hterm) hnot
  | expire _ hexp =>
    rw [expired, Bool.and_eq_true, decide_eq_true_eq] at hexp
    rw [hexp.1] at hterm
    simp at hterm

theorem RowStep.second_isSome {c : Call} (h : RowStep c r r') (hsecond : r.secondApprover.isSome) :
    r'.secondApprover.isSome := by
  cases h with
  | activate => rfl
  | _ => exact hsecond

/-- A property of rows that no call destroys lasts to the end of the run. -/
theorem row_of_run {Q : BreakGlassRequest → Prop}
    (hQ : ∀ {c r r'}, RowStep c r r' → Q r → Q r') {db : Database} {id : String}
    (hrow : db.breakGlass.find? id = some r) (hr : Q r) (calls : List Call) :
    ∃ r', (run BreakGlassService.step db calls).breakGlass.find? id = some r' ∧ Q r' := by
  refine run_invariant
    (I := fun db : Database ↦ ∃ r', db.breakGlass.find? id = some r' ∧ Q r')
    (fun db c ⟨r, hrow, hr⟩ ↦ ?_) ⟨r, hrow, hr⟩ calls
  obtain ⟨r', hr', hstep⟩ := step_row db c hrow
  exact ⟨r', hr', hQ hstep hr⟩

/-- **Two-person control.** In a run whose approvers have names, from a store without break-glass
requests:

* a row that is or was active has an applicant and two approvers, pairwise different, both of whose
  approvals were applied under the row's own tenant; it expires one window after its activation, and
  the window is between one second and four hours;
* a row is inserted as `requested`, and a call moves it one step along the state machine at most;
* a row that has expired or was revoked stays as it is. -/
theorem two_person_control {db₀ : Database} (h₀ : db₀.breakGlass = .empty) (calls : List Call)
    (hnamed : ∀ c ∈ calls, Named c) :
    (∀ pre post, calls = pre ++ post → ∀ id r,
      (run BreakGlassService.step db₀ pre).breakGlass.find? id = some r → r.state = .active →
      ∃ r' p q t, (run BreakGlassService.step db₀ calls).breakGlass.find? id = some r' ∧
        r'.firstApprover = some p ∧ r'.secondApprover = some q ∧ r'.requestedBy ≠ p ∧
        r'.requestedBy ≠ q ∧ p ≠ q ∧
        SignedUnder db₀ calls r' p .firstApproved ∧ SignedUnder db₀ calls r' q .active ∧
        r'.activatedAt = some t ∧ r'.expiresAt = some (t + seconds r'.windowSeconds) ∧
        1 ≤ r'.windowSeconds ∧ r'.windowSeconds ≤ 14400) ∧
    (∀ pre c post, calls = pre ++ c :: post → ∀ id r',
      (run BreakGlassService.step db₀ (pre ++ [c])).breakGlass.find? id = some r' →
      match (run BreakGlassService.step db₀ pre).breakGlass.find? id with
      | none => r'.state = .requested
      | some r => Moves r.state r'.state) ∧
    (∀ pre post, calls = pre ++ post → ∀ id r,
      (run BreakGlassService.step db₀ pre).breakGlass.find? id = some r →
      r.state = .expired ∨ r.state = .revoked →
      (run BreakGlassService.step db₀ calls).breakGlass.find? id = some r) := by
  refine ⟨?_, ?_, ?_⟩
  · rintro pre post rfl id r hrow hactive
    -- an active row has a second approver, and keeps it to the end of the run
    have hdoc := documented_of_run h₀ (fun c hc ↦ hnamed c (List.mem_append_left _ hc)) hrow
    obtain ⟨o, ho⟩ := hdoc.override
    obtain ⟨r', hr', hsecond⟩ := row_of_run (Q := fun r ↦ r.secondApprover.isSome)
      RowStep.second_isSome hrow (ho.second_of_active hactive) post
    rw [← run_append] at hr'
    have hdoc' := documented_of_run h₀ hnamed hr'
    obtain ⟨o', ho'⟩ := hdoc'.override
    obtain ⟨p, q, t, hp, hq, hap, haq, hpq, hact, hexp, hlo, hhi⟩ := ho'.controlled hsecond
    exact ⟨r', p, q, t, hr', hp, hq, hap, haq, hpq, hdoc'.first p hp, hdoc'.second q hq, hact, hexp,
      hlo, hhi⟩
  · rintro pre c post rfl id r' hr'
    rw [run_append, run_cons, run_nil] at hr'
    cases hold : (run BreakGlassService.step db₀ pre).breakGlass.find? id with
    | none =>
      obtain ⟨env, a, taskRunId, -, rfl⟩ := step_new_row _ c hold hr'
      rfl
    | some r =>
      obtain ⟨r'', hr'', hstep⟩ := step_row _ c hold
      obtain rfl : r'' = r' := Option.some.inj (hr''.symm.trans hr')
      exact hstep.moves
  · rintro pre post rfl id r hrow hterm
    obtain ⟨r', hr', rfl⟩ := row_of_run (Q := fun r' ↦ r' = r)
      (fun hstep heq ↦ by subst heq; exact hstep.eq_of_terminal hterm) hrow rfl post
    rw [run_append, hr']

/-- Alice applies for half an hour, Bob and Carol approve. -/
def sampleCalls : List Call :=
  let env (i : ℕ) : BreakGlassEnv :=
    { now := 1000000 * i, occurredAt := 1000000 * i, requestId := "bg:1",
      eventId := fun j ↦ "ev:" ++ toString i ++ "." ++ toString j }
  [.request (env 0)
    { tenantId := "tenant:a", purpose := "incident", effect := .obj [], resourceScope := .obj [],
      requestedBy := "alice", windowSeconds := some 1800 },
    .approve (env 1) "bg:1" "bob" "tenant:a" "",
    .approve (env 2) "bg:1" "carol" "tenant:a" ""]

theorem two_person_control_sample : ∃ r p q t,
    (run BreakGlassService.step {} sampleCalls).breakGlass.find? "bg:1" = some r ∧
      r.firstApprover = some p ∧ r.secondApprover = some q ∧ p ≠ q ∧ r.activatedAt = some t ∧
      r.expiresAt = some (t + seconds r.windowSeconds) := by
  have hnamed : ∀ c ∈ sampleCalls, Named c := by
    simp [sampleCalls, Named]
  have hactive : ∃ r, (run BreakGlassService.step {} sampleCalls).breakGlass.find? "bg:1" = some r ∧
      r.state = .active := by decide
  obtain ⟨r, hrow, hstate⟩ := hactive
  have hempty : ({} : Database).breakGlass = .empty := rfl
  obtain ⟨r', p, q, t, hr', hp, hq, -, -, hpq, -, -, hact, hexp, -⟩ :=
    (two_person_control hempty sampleCalls hnamed).1 sampleCalls []
      (List.append_nil _).symm "bg:1" r hrow hstate
  exact ⟨r', p, q, t, hr', hp, hq, hpq, hact, hexp⟩

end BreakGlassService

end Orchestra
