import Mathlib.Data.Set.Card
import Orchestra.Foundation.Cooperative
import Orchestra.Observability.HttpStack

/-!
# Which requests are counted

The metrics middleware counts a request after the application is done with it. The rate limit and
the cap on bodies stand outside it, so a request that one of them refuses is not counted at all,
and a body that turns out too long while it is read is counted with the status the application
gave, not with the 413 that the client sees.

What the calls of a request come to is folded into an account. Each layer has a triple about it,
from the inside out: `httpMetrics_settles`, `rateLimit_settles` and `stack_settles`. However the
requests interleave, the two metrics count the settled accounts (`requests_counted`).
-/

namespace Orchestra

open Interaction Asgi RateLimitMiddleware

namespace HttpStack

/-! ## Accounts -/

/-- What the calls of a request come to. -/
structure Account where
  /-- The status the application answered last. -/
  status : ℕ := 500
  route : Option String := none
  counted : List (String × String × String) := []
  observed : List (String × String) := []
  /-- The limiter has denied the request. -/
  denied : Bool := false
  rejected : List String := []
  /-- A body was rejected, and the response that says so is not started yet. -/
  refusing : Bool := false

def Account.after (v : Account) : Step Cmd Reply Raised → Account
  | ⟨.app (.asgi (.send (.start status _))), _⟩ =>
    if v.refusing then { v with refusing := false } else { v with status := status }
  | ⟨.app (.setRoute template), _⟩ => { v with route := some template }
  | ⟨.check _, .ok decision⟩ => { v with denied := v.denied || !decision.allowed }
  | ⟨.count method path status, _⟩ => { v with counted := v.counted ++ [(method, path, status)] }
  | ⟨.observe _ method path, _⟩ => { v with observed := v.observed ++ [(method, path)] }
  | ⟨.rejected reason, _⟩ => { v with rejected := v.rejected ++ [reason], refusing := true }
  | _ => v

def account (t : Trace Cmd Reply Raised) : Account := t.foldl Account.after {}

theorem account_concat (t : Trace Cmd Reply Raised) (s : Step Cmd Reply Raised) :
    account (t ++ [s]) = (account t).after s := by
  rw [account, List.foldl_append]
  rfl

/-- The declared length of the body is above the cap. -/
def TooLong (cfg : Config) (req : Request) : Prop :=
  ∃ length, RequestSizeLimitMiddleware.contentLength req.scope.headers = some length ∧
    cfg.maxBytes < length

instance (cfg : Config) (req : Request) : Decidable (TooLong cfg req) :=
  match h : RequestSizeLimitMiddleware.contentLength req.scope.headers with
  | none => isFalse fun ⟨_, hlength, _⟩ ↦ nomatch h.symm.trans hlength
  | some length => decidable_of_iff (cfg.maxBytes < length)
      ⟨fun hlt ↦ ⟨length, h, hlt⟩, fun ⟨_, hlength, hlt⟩ ↦ Option.some.inj (h.symm.trans hlength) ▸ hlt⟩

/-- What is due to be counted for a request that reaches the metrics, when its response is over. -/
def Account.bill (req : Request) (v : Account) : String × String × String :=
  (req.methodName, resolvePath v.route req.scope, toString v.status)

/-! ## What the calls may reply -/

/-- Only the server raises, and a route that is read is the one that was stored. -/
structure Admitted (t : Trace Cmd Reply Raised) (s : Step Cmd Reply Raised) : Prop where
  ok : s.cmd.suspends = false → ∃ a, s.reply = .ok a
  route : ∀ r, s = ⟨.getRoute, .ok r⟩ → r = (account t).route

/-- A call that suspends is made before anything is counted. -/
def Early (pre : Trace Cmd Reply Raised) (s : Step Cmd Reply Raised) : Prop :=
  s.cmd.suspends = true → (account pre).counted = [] ∧ (account pre).observed = []

def Cmd.isRejected : Cmd → Bool
  | .rejected _ => true
  | _ => false

/-- The calls inside the cap on bodies: nothing is rejected there. -/
def Plain (t : Trace Cmd Reply Raised) : Prop :=
  EveryStep (fun pre s ↦ Early pre s ∧ s.cmd.isRejected = false) t

variable {t : Trace Cmd Reply Raised}

theorem Plain.concat {s : Step Cmd Reply Raised} (h : Plain t) (hearly : Early t s)
    (hs : s.cmd.isRejected = false) : Plain (t ++ [s]) :=
  everyStep_concat.mpr ⟨h, hearly, hs⟩

theorem early_of_not_suspends {s : Step Cmd Reply Raised} (h : s.cmd.suspends = false) :
    Early t s := fun hs ↦ nomatch h.symm.trans hs

/-- Inside the cap on bodies no response is a refusal of the cap. -/
theorem Plain.refusing (h : Plain t) :
    (account t).refusing = false ∧ (account t).rejected = [] := by
  induction t using List.reverseRecOn with
  | nil => exact ⟨rfl, rfl⟩
  | append_singleton t s ih =>
    obtain ⟨ht, -, hs⟩ := everyStep_concat.mp h
    obtain ⟨hrefusing, hrejected⟩ := ih ht
    rw [account_concat]
    obtain ⟨c, r⟩ := s
    cases c with
    | app c =>
      cases c with
      | asgi c =>
        cases c with
        | receive => exact ⟨hrefusing, hrejected⟩
        | send m =>
          cases m with
          | start status headers =>
            rw [Account.after, hrefusing]
            exact ⟨rfl, hrejected⟩
          | body chunk moreBody => exact ⟨hrefusing, hrejected⟩
      | setRoute template => exact ⟨hrefusing, hrejected⟩
    | getRoute => exact ⟨hrefusing, hrejected⟩
    | perfCounter => exact ⟨hrefusing, hrejected⟩
    | check tenant => cases r <;> exact ⟨hrefusing, hrejected⟩
    | count method path status => exact ⟨hrefusing, hrejected⟩
    | observe duration method path => exact ⟨hrefusing, hrejected⟩
    | rejected reason => cases hs

/-- A call inside the cap that does not suspend returns. -/
theorem triple_inside {P : Trace Cmd Reply Raised → Prop} {c : Cmd}
    {Q : Reply c → Trace Cmd Reply Raised → Prop} (hc : c.suspends = false)
    (hr : c.isRejected = false) (hP : ∀ t, P t → Plain t)
    (hok : ∀ t a, P t → Admitted t ⟨c, .ok a⟩ → Plain (t ++ [⟨c, .ok a⟩]) →
      Q a (t ++ [⟨c, .ok a⟩])) :
    Triple Admitted P (.perform c) Q fun _ _ ↦ False := by
  refine .perform (fun t a ht hA ↦ ?_) fun t e ht hA ↦ ?_
  · exact hok t a ht hA ((hP t ht).concat (early_of_not_suspends hc) hr)
  · obtain ⟨a, ha⟩ := hA.ok hc
    cases ha

/-! ## The metrics -/

/-- The application is being served: it has answered `captured` last. -/
structure Serving (captured : ℕ) (t : Trace Cmd Reply Raised) : Prop where
  plain : Plain t
  account : account t = { status := captured, route := (account t).route }

theorem Serving.early {captured : ℕ} (h : Serving captured t) (s : Step Cmd Reply Raised) :
    Early t s := by
  intro _
  rw [h.account]
  exact ⟨rfl, rfl⟩

theorem sendWrapper_keeps :
    Keeps (fun _ _ ↦ True) Admitted (fun _ _ ↦ True) (fun captured _ t ↦ Serving captured t) sendWrapper := by
  have hrelay (captured : ℕ) (c : AppCmd) (captured' : ℕ)
      (h : ∀ t r, Serving captured t →
        HttpStack.account (t ++ [⟨.app c, r⟩]) =
          { status := captured', route := (HttpStack.account (t ++ [⟨.app c, r⟩])).route }) :
      Triple Admitted (Serving captured)
        (do
          let reply ← (Program.perform (R := Reply) (.app c)).attempt
          return (reply, captured'))
        (fun reply t' ↦ True ∧ Serving reply.2 t') fun _ _ ↦ False := by
    have hcall : Triple Admitted (Serving captured) (Program.perform (R := Reply) (.app c)).attempt
        (fun _ ↦ Serving captured') fun _ _ ↦ False := by
      have hafter (t : Trace Cmd Reply Raised) (r : Except Raised (Reply (.app c)))
          (ht : Serving captured t) : Serving captured' (t ++ [⟨.app c, r⟩]) :=
        ⟨ht.plain.concat (ht.early _) rfl, h t r ht⟩
      exact triple_attempt (.perform (fun t a ht _ ↦ hafter t _ ht) fun t e ht _ ↦ hafter t _ ht)
    exact hcall.bind fun reply ↦ .ret fun t ht ↦ ⟨trivial, ht⟩
  intro captured t c _
  cases c with
  | asgi c =>
    cases c with
    | receive =>
      refine hrelay captured _ captured fun t r ht ↦ ?_
      rw [account_concat]
      exact ht.account
    | send m =>
      cases m with
      | start status headers =>
        refine hrelay captured _ status fun t r ht ↦ ?_
        rw [account_concat, ht.account]
        rfl
      | body chunk moreBody =>
        refine hrelay captured _ captured fun t r ht ↦ ?_
        rw [account_concat]
        exact ht.account
  | setRoute template =>
    refine hrelay captured _ captured fun t r ht ↦ ?_
    rw [account_concat, ht.account]
    rfl

/-- What a request that reached the limiter is counted as. -/
def Account.due (req : Request) (v : Account) : List (String × String × String) :=
  if v.denied then [] else [v.bill req]

/-- Inside the cap the response is over, and the two metrics have what is due. -/
structure Settled (req : Request) (t : Trace Cmd Reply Raised) : Prop where
  plain : Plain t
  counted : (account t).counted = (account t).due req
  observed : (account t).observed = (account t).counted.map fun bill ↦ (bill.1, bill.2.1)

/-- **The metrics settle the account**, whatever the application does. -/
theorem httpMetrics_settles {req : Request} (h : req.scope.kind = "http") (app : App) :
    Triple Admitted (Serving 500) (httpMetrics req app) (fun _ ↦ Settled req)
      fun _ ↦ Settled req := by
  have hclock (captured : ℕ) : Triple Admitted (Serving captured) (.perform .perfCounter)
      (fun _ ↦ Serving captured) fun _ _ ↦ False := by
    refine triple_inside rfl rfl (fun _ ht ↦ ht.plain) fun t a ht _ hplain ↦ ⟨hplain, ?_⟩
    rw [account_concat]
    exact ht.account
  have hserve : Triple Admitted (Serving 500) (app.handle sendWrapper 500)
      (fun last t ↦ Serving last.2 t) fun _ _ ↦ False :=
    (Sat.handle (fun _ _ _ _ ↦ trivial) sendWrapper_keeps (sat_true app []) 500).post fun _ _ ⟨_, _, ht⟩ ↦ ht
  have hroute (captured : ℕ) : Triple Admitted (Serving captured) (.perform .getRoute)
      (fun route t ↦ Plain t ∧ account t = { status := captured, route := route })
      fun _ _ ↦ False := by
    refine triple_inside rfl rfl (fun _ ht ↦ ht.plain) fun t route ht hA hplain ↦ ⟨hplain, ?_⟩
    rw [account_concat, hA.route route rfl]
    exact ht.account
  have hcount (captured : ℕ) (route : Option String) :
      Triple Admitted (fun t ↦ Plain t ∧ account t = { status := captured, route := route })
        (.perform (.count req.methodName (resolvePath route req.scope) (toString captured)))
        (fun _ t ↦ Plain t ∧ account t =
          { status := captured, route := route
            counted := [(req.methodName, resolvePath route req.scope, toString captured)] })
        fun _ _ ↦ False := by
    refine triple_inside rfl rfl (fun _ ht ↦ ht.1) fun t a ht _ hplain ↦ ⟨hplain, ?_⟩
    rw [account_concat, ht.2]
    rfl
  have hobserve (captured : ℕ) (route : Option String) (duration : ℚ) :
      Triple Admitted
        (fun t ↦ Plain t ∧ account t =
          { status := captured, route := route
            counted := [(req.methodName, resolvePath route req.scope, toString captured)] })
        (.perform (.observe duration req.methodName (resolvePath route req.scope)))
        (fun _ ↦ Settled req) fun _ _ ↦ False := by
    refine triple_inside rfl rfl (fun _ ht ↦ ht.1) fun t a ht _ hplain ↦ ⟨hplain, ?_, ?_⟩
    · rw [account_concat, ht.2]
      rfl
    · rw [account_concat, ht.2]
      rfl
  have hnever {c : Cmd} {P : Trace Cmd Reply Raised → Prop}
      {Q : Reply c → Trace Cmd Reply Raised → Prop}
      (hc : Triple Admitted P (.perform c) Q fun _ _ ↦ False) :
      Triple Admitted P (.perform c) Q fun _ ↦ Settled req :=
    hc.post_error fun _ _ hfalse ↦ hfalse.elim
  rw [httpMetrics, if_neg fun hne ↦ hne h]
  refine (hnever (hclock 500)).bind fun begun ↦ ?_
  refine (hserve.post_error fun _ _ hfalse ↦ hfalse.elim).bind fun last ↦ ?_
  refine (hnever (hclock last.2)).bind fun stop ↦ ?_
  refine (hnever (hroute last.2)).bind fun route ↦ ?_
  refine (hnever (hcount last.2 route)).bind fun _ ↦ ?_
  refine (hnever (hobserve last.2 route (stop - begun))).bind fun _ ↦ ?_
  exact .ofExcept (fun _ _ _ ht ↦ ht) fun _ _ _ ht ↦ ht

/-! ## The rate limit -/

/-- The limiter has denied the request, and nothing is counted. -/
structure Turned (t : Trace Cmd Reply Raised) : Prop where
  plain : Plain t
  denied : (account t).denied = true
  counted : (account t).counted = []
  observed : (account t).observed = []

theorem Turned.settled {req : Request} (h : Turned t) : Settled req t where
  plain := h.plain
  counted := by rw [Account.due, h.denied, h.counted, if_pos rfl]
  observed := by rw [h.observed, h.counted, List.map_nil]

/-- A message that is no refusal of the cap changes the status at most. -/
theorem account_send (h : (account t).refusing = false) (m : Sent)
    (r : Except Raised (Reply (send m))) :
    ∃ status, account (t ++ [⟨send m, r⟩]) = { account t with status := status } := by
  rw [account_concat]
  cases m with
  | start status headers =>
    refine ⟨status, ?_⟩
    have hafter : (account t).after ⟨send (.start status headers), r⟩ =
        if (account t).refusing then { account t with refusing := false }
        else { account t with status := status } := rfl
    rw [hafter, h]
    rfl
  | body chunk moreBody => exact ⟨(account t).status, rfl⟩

theorem triple_refuse {reply : TooManyRequests} :
    Triple Admitted Turned (refuse reply) (fun _ ↦ Turned) fun _ ↦ Turned := by
  have hsend (m : Sent) : Triple Admitted Turned (.perform (send m)) (fun _ ↦ Turned)
      fun _ ↦ Turned := by
    have hafter (t : Trace Cmd Reply Raised) (r : Except Raised (Reply (send m)))
        (ht : Turned t) : Turned (t ++ [⟨send m, r⟩]) := by
      obtain ⟨status, hstatus⟩ := account_send ht.plain.refusing.1 m r
      refine ⟨ht.plain.concat (fun _ ↦ ⟨ht.counted, ht.observed⟩) rfl, ?_, ?_, ?_⟩
      · rw [hstatus]
        exact ht.denied
      · rw [hstatus]
        exact ht.counted
      · rw [hstatus]
        exact ht.observed
    exact .perform (fun t a ht _ ↦ hafter t _ ht) fun t e ht _ ↦ hafter t _ ht
  exact (hsend _).bind fun _ ↦ hsend _

/-- **The rate limit settles the account**, of a request that it passes on and of one it refuses. -/
theorem rateLimit_settles {req : Request} {app : Layer}
    (h : Triple Admitted (Serving 500) app (fun _ ↦ Settled req) fun _ ↦ Settled req) :
    Triple Admitted (Serving 500) (rateLimit req.scope app) (fun _ ↦ Settled req)
      fun _ ↦ Settled req := by
  rw [rateLimit]
  split_ifs with hpass
  · exact h
  · have hcheck (tenant : String) : Triple Admitted (Serving 500) (.perform (.check tenant))
        (fun (decision : RateLimitDecision) t ↦ if decision.allowed then Serving 500 t else Turned t)
        fun _ _ ↦ False := by
      refine triple_inside rfl rfl (fun _ ht ↦ ht.plain) fun t decision ht _ hplain ↦ ?_
      have haccount : account (t ++ [⟨.check tenant, .ok decision⟩]) =
          { status := 500, route := (account t).route, denied := !decision.allowed } := by
        rw [account_concat, ht.account]
        rfl
      split_ifs with hallowed
      · refine ⟨hplain, ?_⟩
        rw [haccount, hallowed]
        rfl
      · refine ⟨hplain, ?_, ?_, ?_⟩
        · rw [haccount]
          simp [hallowed]
        · rw [haccount]
        · rw [haccount]
    refine ((hcheck _).post_error fun _ _ hfalse ↦ hfalse.elim).bind fun decision ↦ ?_
    split_ifs with hallowed
    · exact h
    · exact triple_refuse.conseq (fun _ ht ↦ ht) (fun _ _ ht ↦ ht.settled) fun _ _ ht ↦ ht.settled

/-! ## The cap on bodies -/

/-- The account is `v`, except for the bodies that were rejected. -/
structure Tells (v : Account) (t : Trace Cmd Reply Raised) : Prop where
  early : EveryStep Early t
  account : account t = { v with rejected := (account t).rejected }

theorem Tells.concat {v : Account} (h : Tells v t) {s : Step Cmd Reply Raised} (hearly : Early t s)
    {v' : Account} (hafter : (HttpStack.account t).after s =
      { v' with rejected := ((HttpStack.account t).after s).rejected }) :
    Tells v' (t ++ [s]) := by
  refine ⟨everyStep_concat.mpr ⟨h.early, hearly⟩, ?_⟩
  rw [account_concat]
  exact hafter

/-- A rejection leaves nothing but its reason. -/
theorem triple_reject {v : Account} (hcounted : v.counted = []) (hobserved : v.observed = [])
    (hrefusing : v.refusing = false) (maxBytes : ℤ) (reason : String) :
    Triple Admitted (Tells v) (reject maxBytes reason) (fun _ ↦ Tells v) fun _ ↦ Tells v := by
  have hearly {w : Account} (hw : w.counted = [] ∧ w.observed = [])
      {t : Trace Cmd Reply Raised} (ht : Tells w t) (s : Step Cmd Reply Raised) : Early t s := by
    intro _
    rw [ht.account]
    exact hw
  have hrejected : Triple Admitted (Tells v) (.perform (.rejected reason))
      (fun _ ↦ Tells { v with refusing := true }) fun _ _ ↦ False := by
    refine .perform (fun t a ht _ ↦ ht.concat (hearly ⟨hcounted, hobserved⟩ ht _) ?_)
      fun t e _ hA ↦ ?_
    · rw [ht.account]
      rfl
    · obtain ⟨a, ha⟩ := hA.ok rfl
      cases ha
  have hstart (headers : List (Bytes × Bytes)) :
      Triple Admitted (Tells { v with refusing := true }) (.perform (send (.start 413 headers)))
        (fun _ ↦ Tells v) fun _ ↦ Tells v := by
    have hafter (t : Trace Cmd Reply Raised) (r : Except Raised (Reply (send (.start 413 headers))))
        (ht : Tells { v with refusing := true } t) :
        Tells v (t ++ [⟨send (.start 413 headers), r⟩]) := by
      refine ht.concat (hearly (w := { v with refusing := true }) ⟨hcounted, hobserved⟩ ht _) ?_
      rw [ht.account]
      change ({ v with refusing := false, rejected := _ } : Account) = _
      rw [← hrefusing]
      rfl
    exact .perform (fun t a ht _ ↦ hafter t _ ht) fun t e ht _ ↦ hafter t _ ht
  have hbody (chunk : Bytes) : Triple Admitted (Tells v) (.perform (send (.body chunk false)))
      (fun _ ↦ Tells v) fun _ ↦ Tells v := by
    have hafter (t : Trace Cmd Reply Raised) (r : Except Raised (Reply (send (.body chunk false))))
        (ht : Tells v t) : Tells v (t ++ [⟨send (.body chunk false), r⟩]) :=
      ht.concat (hearly ⟨hcounted, hobserved⟩ ht _) ht.account
    exact .perform (fun t a ht _ ↦ hafter t _ ht) fun t e ht _ ↦ hafter t _ ht
  exact (hrejected.post_error fun _ _ hfalse ↦ hfalse.elim).bind fun _ ↦
    (hstart _).bind fun _ ↦ hbody _

/-- What the layers inside guarantee of every call. -/
def Inside (t : Trace Cmd Reply Raised) (c : Cmd) : Prop := ∃ r, Plain (t ++ [⟨c, r⟩])

theorem Inside.plain {c : Cmd} (h : Inside t c) (r : Except Raised (Reply c)) :
    Plain (t ++ [⟨c, r⟩]) := by
  obtain ⟨r', hr'⟩ := h
  obtain ⟨ht, hearly, hc⟩ := everyStep_concat.mp hr'
  exact Plain.concat ht hearly hc

/-- The rejected bodies have no part in the rest of the account. -/
theorem after_rejected (v : Account) (reasons : List String) {s : Step Cmd Reply Raised}
    (hs : s.cmd.isRejected = false) :
    ({ v with rejected := reasons } : Account).after s =
      { v.after s with rejected := reasons } := by
  obtain ⟨c, r⟩ := s
  cases c with
  | app c =>
    cases c with
    | asgi c =>
      cases c with
      | receive => rfl
      | send m =>
        cases m with
        | start status headers =>
          rw [Account.after, Account.after]
          split_ifs <;> rfl
        | body chunk moreBody => rfl
    | setRoute template => rfl
  | getRoute => rfl
  | perfCounter => rfl
  | check tenant => cases r <;> rfl
  | count method path status => rfl
  | observe duration method path => rfl
  | rejected reason => cases hs

/-- A call that is passed on. -/
theorem Tells.relay {t' : Trace Cmd Reply Raised} (h : Tells (HttpStack.account t) t') {c : Cmd}
    (hc : Inside t c) (r : Except Raised (Reply c)) (hA : Admitted t' ⟨c, r⟩) :
    Admitted t ⟨c, r⟩ ∧ Tells (HttpStack.account (t ++ [⟨c, r⟩])) (t' ++ [⟨c, r⟩]) := by
  obtain ⟨-, hearly, hrejected⟩ := everyStep_concat.mp (hc.plain r)
  refine ⟨⟨hA.ok, fun route hroute ↦ ?_⟩, h.concat (fun hs ↦ ?_) ?_⟩
  · rw [hA.route route hroute, h.account]
  · rw [h.account]
    exact hearly hs
  · rw [h.account, account_concat, after_rejected _ _ hrejected]

theorem admitted_of_suspends {c : Cmd} (h : c.suspends = true) (r : Except Raised (Reply c)) :
    Admitted t ⟨c, r⟩ := by
  refine ⟨fun hc ↦ (nomatch h.symm.trans hc), fun route hroute ↦ ?_⟩
  cases hroute
  cases h

/-- A message that is counted keeps the account, whether the body is rejected or not. -/
theorem wrappedReceive_receive (maxBytes : ℤ) (received : ℕ) (hc : Inside t receive) :
    Triple Admitted (Tells (account t)) (wrappedReceive maxBytes received receive)
      (fun reply t' ↦ Admitted t ⟨receive, reply.1⟩ ∧
        Tells (account (t ++ [⟨receive, reply.1⟩])) t') fun _ _ ↦ False := by
  obtain ⟨hplain, hearly, -⟩ := everyStep_concat.mp (hc.plain (.ok .disconnect))
  obtain ⟨hcounted, hobserved⟩ := hearly rfl
  have hsame (r : Except Raised (Reply receive)) : account (t ++ [⟨receive, r⟩]) = account t :=
    account_concat t _
  have hreturn (r : Except Raised (Reply receive)) (received' : ℕ) :
      Triple Admitted (Tells (account t))
        (pure (r, received') : Program Cmd Reply Raised (Except Raised (Reply receive) × ℕ))
        (fun reply t' ↦ Admitted t ⟨receive, reply.1⟩ ∧
          Tells (account (t ++ [⟨receive, reply.1⟩])) t') fun _ _ ↦ False :=
    .ret fun t' ht' ↦ ⟨admitted_of_suspends rfl r, (hsame r).symm ▸ ht'⟩
  have hcall : Triple Admitted (Tells (account t)) (Program.perform receive).attempt
      (fun _ ↦ Tells (account t)) fun _ _ ↦ False := by
    have hafter (t' : Trace Cmd Reply Raised) (r : Except Raised (Reply receive))
        (ht' : Tells (account t) t') : Tells (account t) (t' ++ [⟨receive, r⟩]) :=
      ht'.concat (fun _ ↦ ht'.account ▸ ⟨hcounted, hobserved⟩) ht'.account
    exact triple_attempt (.perform (fun t' a ht' _ ↦ hafter t' _ ht')
      fun t' e ht' _ ↦ hafter t' _ ht')
  have hreject : Triple Admitted (Tells (account t)) (reject maxBytes "chunked_overflow").attempt
      (fun _ ↦ Tells (account t)) fun _ _ ↦ False :=
    triple_attempt (triple_reject hcounted hobserved (Plain.refusing hplain).1 maxBytes _)
  refine hcall.bind fun reply ↦ ?_
  cases reply with
  | error e => exact hreturn (.error e) received
  | ok message =>
    cases message with
    | disconnect => exact hreturn (.ok .disconnect) received
    | request m =>
      dsimp only
      split_ifs with hover
      · refine hreject.bind fun refused ↦ ?_
        cases refused with
        | ok _ => exact hreturn (.ok .disconnect) _
        | error e => exact hreturn (.error e) _
      · exact hreturn (.ok (.request m)) _

theorem wrappedReceive_keeps (maxBytes : ℤ) :
    Keeps Admitted Admitted Inside (fun _ t t' ↦ Tells (account t) t') (wrappedReceive maxBytes) := by
  intro received t c hc
  have hrelay (received' : ℕ) : Triple Admitted (Tells (account t))
      (do
        let reply ← (Program.perform c).attempt
        return (reply, received'))
      (fun reply t' ↦ Admitted t ⟨c, reply.1⟩ ∧ Tells (account (t ++ [⟨c, reply.1⟩])) t')
      fun _ _ ↦ False := by
    have hcall : Triple Admitted (Tells (account t)) (Program.perform c).attempt
        (fun reply t' ↦ Admitted t ⟨c, reply⟩ ∧ Tells (account (t ++ [⟨c, reply⟩])) t')
        fun _ _ ↦ False :=
      triple_attempt (.perform (fun t' a ht' hA ↦ ht'.relay hc _ hA)
        fun t' e ht' hA ↦ ht'.relay hc _ hA)
    exact hcall.bind fun reply ↦ .ret fun _ ht' ↦ ht'
  cases c with
  | app c =>
    cases c with
    | asgi c =>
      cases c with
      | receive => exact wrappedReceive_receive maxBytes received hc
      | send m => exact hrelay received
    | setRoute template => exact hrelay received
  | getRoute => exact hrelay received
  | perfCounter => exact hrelay received
  | check tenant => exact hrelay received
  | count method path status => exact hrelay received
  | observe duration method path => exact hrelay received
  | rejected reason => exact hrelay received

/-! ## The stack -/

/-- What a request is counted as. -/
def Account.charge (cfg : Config) (req : Request) (v : Account) : List (String × String × String) :=
  if req.scope.kind = "http" ∧ ¬TooLong cfg req then v.due req else []

/-- The request is over, and the two metrics have what it is counted as. -/
structure Closed (cfg : Config) (req : Request) (t : Trace Cmd Reply Raised) : Prop where
  early : EveryStep Early t
  counted : (account t).counted = (account t).charge cfg req
  observed : (account t).observed = (account t).counted.map fun bill ↦ (bill.1, bill.2.1)

/-- Every call has a reply that is admitted. -/
theorem exists_admitted (t : Trace Cmd Reply Raised) (c : Cmd) : ∃ r, Admitted t ⟨c, r⟩ := by
  cases c with
  | app c =>
    cases c with
    | asgi c => exact ⟨.error ⟨"", ""⟩, admitted_of_suspends rfl _⟩
    | setRoute template => exact ⟨.ok (), fun _ ↦ ⟨_, rfl⟩, fun _ h ↦ nomatch h⟩
  | getRoute =>
    refine ⟨.ok (account t).route, fun _ ↦ ⟨_, rfl⟩, fun route h ↦ ?_⟩
    cases h
    rfl
  | perfCounter => exact ⟨.ok (0 : ℚ), fun _ ↦ ⟨_, rfl⟩, fun _ h ↦ nomatch h⟩
  | check tenant =>
    exact ⟨.ok (⟨true, 0, 0, tenant⟩ : RateLimitDecision), fun _ ↦ ⟨_, rfl⟩, fun _ h ↦ nomatch h⟩
  | count method path status => exact ⟨.ok (), fun _ ↦ ⟨_, rfl⟩, fun _ h ↦ nomatch h⟩
  | observe duration method path => exact ⟨.ok (), fun _ ↦ ⟨_, rfl⟩, fun _ h ↦ nomatch h⟩
  | rejected reason => exact ⟨.ok (), fun _ ↦ ⟨_, rfl⟩, fun _ h ↦ nomatch h⟩

theorem Settled.closed {cfg : Config} {req : Request} (h : Settled req t)
    (hhttp : req.scope.kind = "http") (hfits : ¬TooLong cfg req) : Closed cfg req t where
  early := h.plain.imp fun _ _ hs ↦ hs.1
  counted := by rw [Account.charge, if_pos ⟨hhttp, hfits⟩, h.counted]
  observed := h.observed

/-- A request that nothing is counted for. -/
theorem Tells.closed {cfg : Config} {req : Request} {v : Account} (h : Tells v t)
    (hcounted : v.counted = []) (hobserved : v.observed = [])
    (hnone : ¬(req.scope.kind = "http" ∧ ¬TooLong cfg req)) : Closed cfg req t := by
  refine ⟨h.early, ?_, ?_⟩
  · rw [Account.charge, if_neg hnone, h.account, hcounted]
  · rw [h.account, hcounted, hobserved]
    rfl

theorem limited_settles (cfg : Config) {req : Request} (h : req.scope.kind = "http") (app : App) :
    Triple Admitted (Serving 500)
      (if cfg.limited then rateLimit req.scope (httpMetrics req app) else httpMetrics req app)
      (fun _ ↦ Settled req) fun _ ↦ Settled req := by
  split_ifs
  · exact rateLimit_settles (httpMetrics_settles h app)
  · exact httpMetrics_settles h app

theorem serving_nil : Serving 500 [] := ⟨everyStep_nil _, rfl⟩

theorem tells_nil : Tells {} [] := ⟨everyStep_nil _, rfl⟩

/-- **Every layer together.** When a request is over, the metrics have what it is counted as. -/
theorem stack_closes (cfg : Config) (req : Request) (app : App) :
    Sat Admitted (stack cfg req app) (fun _ ↦ Closed cfg req) [] := by
  have hending {p : Layer} {P : Trace Cmd Reply Raised → Prop}
      (h : Triple Admitted P p (fun _ ↦ Closed cfg req) fun _ ↦ Closed cfg req) (hP : P []) :
      Sat Admitted p (fun _ ↦ Closed cfg req) [] := (h [] hP).mono fun r t hr ↦ of_ending hr
  rw [stack, requestSizeLimit]
  by_cases hhttp : req.scope.kind = "http"
  · have hinner := limited_settles cfg hhttp (requestId req app)
    rw [if_neg (not_not_intro hhttp)]
    split
    · next length hlength =>
      by_cases hlong : cfg.maxBytes < length
      · rw [if_pos hlong]
        have hrefused := triple_reject (v := {}) rfl rfl rfl cfg.maxBytes "content_length"
        have hnone : ¬(req.scope.kind = "http" ∧ ¬TooLong cfg req) :=
          fun h ↦ h.2 ⟨length, hlength, hlong⟩
        exact hending (hrefused.conseq (fun _ ht ↦ ht) (fun _ _ ht ↦ ht.closed rfl rfl hnone)
          fun _ _ ht ↦ ht.closed rfl rfl hnone) tells_nil
      · rw [if_neg hlong]
        have hfits : ¬TooLong cfg req := by
          rintro ⟨length', hlength', hlt⟩
          exact hlong (Option.some.inj (hlength.symm.trans hlength') ▸ hlt)
        exact hending (hinner.conseq (fun _ ht ↦ ht) (fun _ _ ht ↦ ht.closed hhttp hfits)
          fun _ _ ht ↦ ht.closed hhttp hfits) serving_nil
    · next hlength =>
      have hfits : ¬TooLong cfg req := fun ⟨_, hsome, _⟩ ↦ (nomatch hlength.symm.trans hsome)
      have hsettles := (hinner [] serving_nil).mono fun r t hr ↦ of_ending hr
      have hhandled := Sat.handle (Q := fun _ ↦ Settled req) (fun t c k hcall ↦
        (hcall.mono fun _ _ ht ↦ ht.plain).everyStep_call exists_admitted)
        (wrappedReceive_keeps cfg.maxBytes) hsettles 0
      refine hending ((hhandled.post_error fun _ _ hfalse ↦ hfalse.elim).bind fun last ↦ ?_) tells_nil
      have hclosed (t' : Trace Cmd Reply Raised)
          (h : ∃ t, Settled req t ∧ Tells (account t) t') : Closed cfg req t' := by
        obtain ⟨t, ht, ht'⟩ := h
        have hclosed := ht.closed hhttp hfits
        refine ⟨ht'.early, ?_, ?_⟩
        · rw [ht'.account]
          exact hclosed.counted
        · rw [ht'.account]
          exact hclosed.observed
      exact .ofExcept (fun _ _ t' ht' ↦ hclosed t' ht') fun _ _ t' ht' ↦ hclosed t' ht'
  · have hnone : ¬(req.scope.kind = "http" ∧ ¬TooLong cfg req) := fun h ↦ hhttp h.1
    have hpass (layer : Layer) : rateLimit req.scope layer = layer := if_pos (.inl hhttp)
    rw [if_pos hhttp, hpass, ite_self, httpMetrics, if_pos hhttp]
    have hhandled := Sat.handle (fun _ _ _ _ ↦ trivial) sendWrapper_keeps
      (sat_true (requestId req app) []) 500
    refine hending ((hhandled.post_error fun _ _ hfalse ↦ hfalse.elim).bind fun last ↦ ?_) serving_nil
    have hclosed (t : Trace Cmd Reply Raised) (h : ∃ _ : Trace AppCmd AppReply Raised, True ∧
        Serving last.2 t) : Closed cfg req t := by
      obtain ⟨-, -, ht⟩ := h
      exact (Tells.mk (ht.plain.imp fun _ _ hs ↦ hs.1)
        (v := { status := last.2, route := (account t).route }) (by rw [ht.account])).closed rfl rfl hnone
    exact .ofExcept (fun _ _ t ht ↦ hclosed t ht) fun _ _ t ht ↦ hclosed t ht

/-! ## What the metrics count -/

def counted? : Step Cmd Reply Raised → Option (String × String × String)
  | ⟨.count method path status, _⟩ => some (method, path, status)
  | _ => none

def observed? : Step Cmd Reply Raised → Option (String × String)
  | ⟨.observe _ method path, _⟩ => some (method, path)
  | _ => none

theorem account_counted (t : Trace Cmd Reply Raised) :
    (account t).counted = t.filterMap counted? ∧ (account t).observed = t.filterMap observed? := by
  induction t using List.reverseRecOn with
  | nil => exact ⟨rfl, rfl⟩
  | append_singleton t s ih =>
    obtain ⟨hcounted, hobserved⟩ := ih
    have hsame : (account t).counted = (t.filterMap counted?) ++ [] ∧
        (account t).observed = (t.filterMap observed?) ++ [] := by
      rw [List.append_nil, List.append_nil]
      exact ⟨hcounted, hobserved⟩
    rw [account_concat, List.filterMap_append, List.filterMap_append]
    obtain ⟨c, r⟩ := s
    cases c with
    | app c =>
      cases c with
      | asgi c =>
        cases c with
        | receive => exact hsame
        | send m =>
          cases m with
          | start status headers =>
            rw [Account.after]
            split_ifs <;> exact hsame
          | body chunk moreBody => exact hsame
      | setRoute template => exact hsame
    | getRoute => exact hsame
    | perfCounter => exact hsame
    | check tenant => cases r <;> exact hsame
    | count method path status =>
      exact ⟨congrArg (· ++ [(method, path, status)]) hcounted, hsame.2⟩
    | observe duration method path =>
      exact ⟨hsame.1, congrArg (· ++ [(method, path)]) hobserved⟩
    | rejected reason => exact hsame

/-- The labels of a bill. -/
def requestKey (bill : String × String × String) : LabelKey := ⟨[bill.1, bill.2.1, bill.2.2]⟩

def durationKey (bill : String × String) : LabelKey := ⟨[bill.1, bill.2]⟩

/-- The number of observations with the labels. -/
def total (h : Histogram) (key : LabelKey) : ℕ := (Dictionary.get h.totals key).getD 0

section Site

variable {ι : Type} [DecidableEq ι]

/-- The metrics have what the calls in the log come to, and each scope has its route. -/
structure Books (site : Site ι) : Prop where
  routes : ∀ i, site.routes i = (account (site.traceOf i)).route
  requestLabels : site.requests.labels = ["method", "path", "status"]
  requests : ∀ bill, site.requests.value (requestKey bill) =
    (site.log.countP fun e ↦ decide (counted? e.2 = some bill) : ℕ)
  durationLabels : site.duration.labels = ["method", "path"]
  duration : ∀ bill, total site.duration (durationKey bill) =
    site.log.countP fun e ↦ decide (observed? e.2 = some bill)

/-- The calls of a request after one more call. -/
theorem traceOf_log (site : Site ι) (i j : ι) (s : Step Cmd Reply Raised) :
    ({ site with log := site.log ++ [(i, s)] } : Site ι).traceOf j =
      if i = j then site.traceOf j ++ [s] else site.traceOf j := by
  by_cases h : i = j <;> simp [Site.traceOf, h]

/-- What a call does to the site, as far as the books go. -/
structure Enters (site site' : Site ι) (i : ι) (s : Step Cmd Reply Raised) : Prop where
  log : site'.log = site.log
  routes : ∀ j, site'.routes j =
    if i = j then ((account (site.traceOf j)).after s).route else site.routes j
  requestLabels : site'.requests.labels = site.requests.labels
  requests : ∀ bill, site'.requests.value (requestKey bill) =
    site.requests.value (requestKey bill) + if counted? s = some bill then 1 else 0
  durationLabels : site'.duration.labels = site.duration.labels
  duration : ∀ bill, total site'.duration (durationKey bill) =
    total site.duration (durationKey bill) + if observed? s = some bill then 1 else 0

theorem Books.enter {site site' : Site ι} (h : Books site) {i : ι} {s : Step Cmd Reply Raised}
    (henters : Enters site site' i s) :
    Books { site' with log := site'.log ++ [(i, s)] } where
  routes j := by
    have htrace : site'.traceOf = site.traceOf := by
      funext k
      rw [Site.traceOf, Site.traceOf, henters.log]
    rw [traceOf_log, htrace]
    change site'.routes j = _
    rw [henters.routes j]
    split_ifs
    · rw [account_concat]
    · exact h.routes j
  requestLabels := henters.requestLabels.trans h.requestLabels
  requests bill := by
    change site'.requests.value _ = _
    rw [henters.requests, h.requests, henters.log, List.countP_append, List.countP_singleton]
    split_ifs <;> simp_all
  durationLabels := henters.durationLabels.trans h.durationLabels
  duration bill := by
    change total site'.duration _ = _
    rw [henters.duration, h.duration, henters.log, List.countP_append, List.countP_singleton]
    split_ifs <;> simp_all

/-- A call that nothing is counted for. -/
theorem Enters.of_quiet {site site' : Site ι} {i : ι} {s : Step Cmd Reply Raised} (h : Books site)
    (hlog : site'.log = site.log) (hrequests : site'.requests = site.requests)
    (hduration : site'.duration = site.duration) (hroutes : site'.routes = site.routes)
    (hs : ∀ v : Account, (v.after s).route = v.route) (hcounted : counted? s = none)
    (hobserved : observed? s = none) : Enters site site' i s where
  log := hlog
  routes j := by rw [hroutes, hs, h.routes, ite_self]
  requestLabels := by rw [hrequests]
  requests bill := by simp [hrequests, hcounted]
  durationLabels := by rw [hduration]
  duration bill := by simp [hduration, hobserved]

theorem reply_enters {site : Site ι} (h : Books site) (i : ι) (w : Draw) (c : Cmd) :
    Enters site (site.reply i w c).2 i ⟨c, (site.reply i w c).1⟩ := by
  cases c with
  | app c =>
    cases c with
    | asgi c =>
      cases c with
      | receive =>
        rw [Site.reply]
        split <;> exact .of_quiet h rfl rfl rfl rfl (fun _ ↦ rfl) rfl rfl
      | send m =>
        have hroute (r : Except Raised Unit) (v : Account) :
            (v.after ⟨send m, r⟩).route = v.route := by
          cases m with
          | start status headers =>
            change (if v.refusing then { v with refusing := false }
              else { v with status := status } : Account).route = v.route
            split_ifs <;> rfl
          | body chunk moreBody => rfl
        rw [Site.reply]
        split <;> exact .of_quiet h rfl rfl rfl rfl (hroute _) rfl rfl
    | setRoute template =>
      refine ⟨rfl, fun j ↦ ?_, rfl, fun _ ↦ (add_zero _).symm, rfl, fun _ ↦ rfl⟩
      change Function.update site.routes i (some template) j = _
      by_cases hij : i = j
      · subst hij
        rw [Function.update_self, if_pos rfl]
        rfl
      · rw [Function.update_of_ne (Ne.symm hij), if_neg hij]
  | getRoute => exact .of_quiet h rfl rfl rfl rfl (fun _ ↦ rfl) rfl rfl
  | perfCounter => exact .of_quiet h rfl rfl rfl rfl (fun _ ↦ rfl) rfl rfl
  | check tenant => exact .of_quiet h rfl rfl rfl rfl (fun _ ↦ rfl) rfl rfl
  | count method path status =>
    refine ⟨rfl, fun j ↦ ?_, rfl, fun bill ↦ ?_, rfl, fun _ ↦ rfl⟩
    · split_ifs
      · exact h.routes j
      · rfl
    · change (site.requests.inc 1 _).value _ = _
      rw [Counter.value_inc, Counter.key, h.requestLabels]
      congr 1
      refine if_congr ?_ rfl rfl
      simp [requestKey, counted?, Dictionary.get, Prod.ext_iff]
  | observe duration method path =>
    refine ⟨rfl, fun j ↦ ?_, rfl, fun _ ↦ (add_zero _).symm, rfl, fun bill ↦ ?_⟩
    · split_ifs
      · exact h.routes j
      · rfl
    · change (Dictionary.get (Tally.adjust 0 (· + 1) _ site.duration.totals) _).getD 0 = _
      have hkey : site.duration.key [("method", method), ("path", path)] =
          durationKey (method, path) := by
        rw [Histogram.key, h.durationLabels]
        rfl
      have hbill : durationKey (method, path) = durationKey bill ↔ (method, path) = bill := by
        simp [durationKey, Prod.ext_iff]
      rw [Tally.get_adjust, hkey, total]
      by_cases heq : (method, path) = bill
      · rw [if_pos (hbill.mpr heq), heq, Option.getD_some, observed?, if_pos (congrArg some heq)]
      · rw [if_neg (mt hbill.mp heq), observed?, if_neg fun hsome ↦ heq (Option.some.inj hsome),
          add_zero]
  | rejected reason => exact .of_quiet h rfl rfl rfl rfl (fun _ ↦ rfl) rfl rfl

/-- A site replies as it is admitted. -/
theorem reply_admitted {site : Site ι} (h : Books site) (i : ι) (w : Draw) (c : Cmd) :
    Admitted (site.traceOf i) ⟨c, (site.reply i w c).1⟩ := by
  cases c with
  | app c =>
    cases c with
    | asgi c => exact admitted_of_suspends rfl _
    | setRoute template => exact ⟨fun _ ↦ ⟨_, rfl⟩, fun _ h ↦ nomatch h⟩
  | getRoute =>
    refine ⟨fun _ ↦ ⟨_, rfl⟩, fun route hroute ↦ ?_⟩
    cases hroute
    exact h.routes i
  | perfCounter => exact ⟨fun _ ↦ ⟨_, rfl⟩, fun _ h ↦ nomatch h⟩
  | check tenant => exact ⟨fun _ ↦ ⟨_, rfl⟩, fun _ h ↦ nomatch h⟩
  | count method path status => exact ⟨fun _ ↦ ⟨_, rfl⟩, fun _ h ↦ nomatch h⟩
  | observe duration method path => exact ⟨fun _ ↦ ⟨_, rfl⟩, fun _ h ↦ nomatch h⟩
  | rejected reason => exact ⟨fun _ ↦ ⟨_, rfl⟩, fun _ h ↦ nomatch h⟩

/-! ## Any interleaving -/

variable {cfg : Config} {limiter : RateLimiter} {reqs : ι → Request}
  {messages : ι → List RequestMessage} {apps : ι → App}

theorem answer_eq (site : Site ι) (i : ι) (w : Draw) (c : Cmd) :
    site.answer i w c = some ((site.reply i w c).1,
      { (site.reply i w c).2 with
        log := (site.reply i w c).2.log ++ [(i, ⟨c, (site.reply i w c).1⟩)] }) := rfl

theorem books_start : Books (start cfg limiter reqs messages apps).state where
  routes _ := rfl
  requestLabels := rfl
  requests _ := Nat.cast_zero.symm
  durationLabels := rfl
  duration _ := rfl

variable (cfg limiter reqs messages apps) in
/-- However the requests interleave, the books are kept, and what is left of each request settles
its account. -/
theorem books_run (steps : List (ι × Draw)) :
    Books (Transition.run step (start cfg limiter reqs messages apps) steps).state ∧
      ∀ i, Sat Admitted
        ((Transition.run step (start cfg limiter reqs messages apps) steps).threads i)
        (fun _ ↦ Closed cfg (reqs i))
        ((Transition.run step (start cfg limiter reqs messages apps) steps).state.traceOf i) := by
  refine Pool.run_forall (I := Books)
    (J := fun i site p ↦ Sat Admitted p (fun _ ↦ Closed cfg (reqs i)) (site.traceOf i))
    (fun p i w c k r site _ hbooks hsat hi hanswer ↦ ?_) books_start
    (fun i ↦ stack_closes cfg (reqs i) (apps i))
    (Transition.allSteps_of_forall (P := fun _ _ ↦ True) (fun _ _ ↦ trivial) _ _)
  obtain ⟨rfl, rfl⟩ := Prod.mk.inj (Option.some.inj ((answer_eq _ _ _ _).symm.trans hanswer))
  have henters := reply_enters hbooks i w c
  have htrace (j : ι) : (p.state.reply i w c).2.traceOf j = p.state.traceOf j := by
      rw [Site.traceOf, Site.traceOf, henters.log]
  refine ⟨hbooks.enter henters, ?_, fun j hj ↦ ?_⟩
  · rw [traceOf_log, if_pos rfl, htrace]
    have hcall := hsat i
    rw [hi] at hcall
    exact hcall _ (reply_admitted hbooks i w c)
  · rw [traceOf_log, if_neg (Ne.symm hj), htrace]
    exact hsat j

/-- A program without another call. -/
def Over : Layer → Prop
  | .call _ _ => False
  | _ => True

/-- Nobody is in the middle of a turn: every request that was taken up is over or waits for the
server. -/
def Paused (p : Pool Cmd Reply Raised (fun _ : ι ↦ Unit) (Site ι)) : Prop :=
  ∀ i, p.state.traceOf i = [] ∨ Parked Cmd.suspends (p.threads i)

/-- The request is over, and this is what it is counted as. -/
def Charged (cfg : Config) (req : Request) (p : Pool Cmd Reply Raised (fun _ : ι ↦ Unit) (Site ι))
    (i : ι) (bill : String × String × String) : Prop :=
  Over (p.threads i) ∧ bill ∈ (account (p.state.traceOf i)).charge cfg req

theorem length_charge_le (cfg : Config) (req : Request) (v : Account) :
    (v.charge cfg req).length ≤ 1 := by
  rw [Account.charge, Account.due]
  split_ifs <;> simp

/-- Between turns the account of a request holds what it is counted as, once it is over. -/
theorem account_of_paused {p : Pool Cmd Reply Raised (fun _ : ι ↦ Unit) (Site ι)}
    (hpaused : Paused p) {i : ι} {req : Request}
    (hsat : Sat Admitted (p.threads i) (fun _ ↦ Closed cfg req) (p.state.traceOf i)) :
    ((account (p.state.traceOf i)).counted.length ≤ 1 ∧
      ∀ bill, bill ∈ (account (p.state.traceOf i)).counted ↔ Charged cfg req p i bill) ∧
    (account (p.state.traceOf i)).observed =
      (account (p.state.traceOf i)).counted.map fun bill ↦ (bill.1, bill.2.1) := by
  have hover (hclosed : Closed cfg req (p.state.traceOf i)) (hover : Over (p.threads i)) :
      ((account (p.state.traceOf i)).counted.length ≤ 1 ∧
        ∀ bill, bill ∈ (account (p.state.traceOf i)).counted ↔ Charged cfg req p i bill) ∧
      (account (p.state.traceOf i)).observed =
        (account (p.state.traceOf i)).counted.map fun bill ↦ (bill.1, bill.2.1) := by
    refine ⟨⟨hclosed.counted ▸ length_charge_le cfg req _, fun bill ↦ ?_⟩, hclosed.observed⟩
    rw [hclosed.counted]
    exact (and_iff_right hover).symm
  cases hp : p.threads i with
  | ret a =>
    rw [hp] at hsat
    exact hover hsat (hp ▸ trivial)
  | raise e =>
    rw [hp] at hsat
    exact hover hsat (hp ▸ trivial)
  | call c k =>
    have hnone : (account (p.state.traceOf i)).counted = [] ∧
        (account (p.state.traceOf i)).observed = [] := by
      rcases hpaused i with hnil | hparked
      · rw [hnil]
        exact ⟨rfl, rfl⟩
      · rw [hp] at hsat hparked
        obtain ⟨r, hr⟩ := (hsat.mono fun _ _ ht ↦ ht.early).everyStep_call exists_admitted
        exact (everyStep_concat.mp hr).2 hparked
    have hnot : ¬Over (p.threads i) := by
      rw [hp]
      exact id
    refine ⟨⟨by simp [hnone.1], fun bill ↦ ?_⟩, by rw [hnone.1, hnone.2, List.map_nil]⟩
    rw [hnone.1]
    exact iff_of_false List.not_mem_nil fun h ↦ hnot h.1

/-- An application that answers without a body, and one request for it. -/
def noContent : App := Program.perform (AppCmd.asgi (.send (.start 204 [])))

def plainRequest : Request := { scope := { kind := "http" } }

def noContentStart : Pool Cmd Reply Raised (fun _ : Unit ↦ Unit) (Site Unit) :=
  start ⟨10, false⟩ ⟨fun _ _ ↦ .new 1 .infinite 0, .empty⟩ (fun _ ↦ plainRequest) (fun _ ↦ [])
    fun _ ↦ noContent

/-- From the first reading of the clock to the last observation. -/
def noContentSteps : List (Unit × Draw) := List.replicate 6 ((), {})

theorem paused_noContent : Paused (Transition.run step noContentStart noContentSteps) := by
  intro i
  have hover : (Transition.run step noContentStart noContentSteps).threads i = .ret () := by rfl
  exact .inr (hover ▸ trivial)

end Site

end HttpStack

end Orchestra
