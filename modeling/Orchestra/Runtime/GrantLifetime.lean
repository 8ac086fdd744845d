import Orchestra.Core.TimeParse
import Orchestra.Runtime.CredentialBroker

/-!
# How long a grant lives

A grant names its time of issue and its expiry as texts. Read back, they are the lifetime of the
issuer apart, less the milliseconds that the expiry drops. The credential broker is asked for a
lifetime too, but its issuers are made with the default of ten minutes and it does not pass the
lifetime on. The main theorem says for which lifetimes that is what was asked for.
-/

namespace Orchestra

namespace NodeGrantIssuer

/-- `is_expired`, when the clock shows `clock`; `none` for a `ValueError`. Without a time, or with
an empty one, the clock counts. -/
def isExpired (grant : NodeGrant) (nowIso : Option String) (clock : ℕ) : Option Bool := do
  let text := match nowIso with
    | some s => if s = "" then utcNowIso clock else s
    | none => utcNowIso clock
  let now ← parseUtcIso text
  let expires ← parseUtcIso grant.expiresAt
  return decide (expires ≤ now)

/-- The grant lives for a while, and for at most so many seconds; it is expired from the time on
that it names, at a time given as a text or shown by the clock. -/
def LivesWithin (grant : NodeGrant) (seconds : ℕ) : Prop :=
  ∃ issued expires : ℤ, parseUtcIso grant.issuedAt = some issued ∧
    parseUtcIso grant.expiresAt = some expires ∧
    (0 < expires - issued ∧ expires - issued ≤ seconds * 1000) ∧
    (∀ text now clock, parseUtcIso text = some now →
      isExpired grant (some text) clock = some (decide (expires ≤ now))) ∧
    ∀ clock, clock < clockEnd → isExpired grant none clock = some (decide (expires ≤ clock))

/-- A grant with times that the clock can show. -/
theorem livesWithin_iff (grant : NodeGrant) {issued expires : ℕ} (seconds : ℕ)
    (hissued : grant.issuedAt = utcNowIso issued) (hexpires : grant.expiresAt = utcNowIso expires)
    (hissued_lt : issued < clockEnd) (hexpires_lt : expires < clockEnd) :
    LivesWithin grant seconds ↔ issued < expires ∧ expires ≤ issued + seconds * 1000 := by
  have hi : parseUtcIso grant.issuedAt = some (issued : ℤ) := by
    rw [hissued, parseUtcIso_utcNowIso hissued_lt]
  have he : parseUtcIso grant.expiresAt = some (expires : ℤ) := by
    rw [hexpires, parseUtcIso_utcNowIso hexpires_lt]
  constructor
  · rintro ⟨i, e, hi', he', ⟨hpos, hle⟩, -⟩
    obtain rfl := Option.some.inj (hi.symm.trans hi')
    obtain rfl := Option.some.inj (he.symm.trans he')
    omega
  · rintro ⟨hlt, hle⟩
    refine ⟨issued, expires, hi, he, by omega, fun text now clock htext ↦ ?_, fun clock hclock ↦ ?_⟩
    · have hne : text ≠ "" := by
        rintro rfl
        cases htext
      simp [isExpired, hne, htext, he]
    · simp [isExpired, parseUtcIso_utcNowIso hclock, he]

/-- The expiry in milliseconds: the lifetime is added, then the milliseconds are dropped. -/
def expiresAtMillis (issuer : NodeGrantIssuer) (now : ℕ) : ℕ :=
  (now + issuer.ttlSeconds * 1000) / 1000 * 1000

theorem expiresAt_eq (issuer : NodeGrantIssuer) (grantId : String) (now : ℕ) (r : Request) :
    (issuer.unsignedGrant grantId now r).expiresAt = utcNowIso (issuer.expiresAtMillis now) := by
  rw [utcNowIso, expiresAtMillis, isoSeconds_dropMillis, Nat.mul_mod_left, String.append_assoc]
  rfl

/-- **What an issuer issues** lives for its lifetime, less the milliseconds of the time of issue:
within a bound exactly if the bound is not below the lifetime. -/
theorem livesWithin_unsignedGrant_iff (issuer : NodeGrantIssuer) (grantId : String) {now : ℕ}
    (r : Request) (signature : Option String) (httl : 1 ≤ issuer.ttlSeconds)
    (hclock : now + issuer.ttlSeconds * 1000 < clockEnd) (seconds : ℕ) :
    LivesWithin { issuer.unsignedGrant grantId now r with signature := signature } seconds ↔
      issuer.ttlSeconds ≤ seconds := by
  have hmillis : issuer.expiresAtMillis now = (now / 1000 + issuer.ttlSeconds) * 1000 := by
    rw [expiresAtMillis, Nat.add_mul_div_right _ _ (by decide)]
  have hnow : now < clockEnd := by omega
  have hend : issuer.expiresAtMillis now < clockEnd := by omega
  have hlives := livesWithin_iff { issuer.unsignedGrant grantId now r with signature := signature }
    seconds rfl (issuer.expiresAt_eq grantId now r) hnow hend
  refine hlives.trans ?_
  omega

end NodeGrantIssuer

namespace CredentialBroker

open Transition NodeGrantIssuer

variable {S : GrantSigner}

/-! ## The issuers of a broker -/

/-- Every issuer has the default lifetime. -/
def DefaultLifetimes (broker : CredentialBroker) : Prop :=
  ∀ ident i, broker.issuers.find? ident = some i → i.issuer.ttlSeconds = 600

theorem DefaultLifetimes.install {broker : CredentialBroker} (h : broker.DefaultLifetimes)
    (cellId kid : String) (key : List UInt8) (now : ℕ) :
    (broker.install cellId kid key now).DefaultLifetimes := by
  intro ident i hi
  rw [CredentialBroker.install, KeyedTable.find?_put] at hi
  split_ifs at hi
  · obtain rfl := Option.some.inj hi
    rfl
  · exact h ident i hi

/-- The step lemma: new issuers are made with the default, and the old ones stay. -/
theorem DefaultLifetimes.step {broker : CredentialBroker} (h : broker.DefaultLifetimes)
    (call : Call) : (CredentialBroker.step S broker call).DefaultLifetimes := by
  cases call with
  | addCell cellId key now => exact h.install _ _ _ _
  | rotate cellId key now =>
    have hmarked : (broker.markRotated cellId
        (kidName cellId (broker.keyCount cellId + 1))).DefaultLifetimes := by
      rw [markRotated]
      split
      · exact h
      · split_ifs
        · exact h
        · exact h
    exact hmarked.install _ _ _ _
  | revoke cellId kid now => exact h
  | issue cellId args grantId now =>
    rw [CredentialBroker.step]
    split
    · next result hresult =>
      obtain ⟨i, audit, -, -, -, hbroker⟩ := issues_of_issue hresult
      dsimp only at hbroker
      rw [hbroker]
      exact h
    · exact h

/-- The run lemma. -/
theorem defaultLifetimes_run (S : GrantSigner) (calls : List Call) :
    (run (CredentialBroker.step S) {} calls).DefaultLifetimes :=
  run_invariant (I := DefaultLifetimes) (fun _ call h ↦ h.step call) (by rintro ident i ⟨⟩) calls

/-- `issue` with the lifetime that is asked for, which is not read. -/
def issueFor (S : GrantSigner) (broker : CredentialBroker) (_ttlSeconds : ℕ) (cellId : String)
    (args : IssueArgs) (grantId : String) (now : ℕ) :
    Except Raised (NodeGrant × CredentialBroker) :=
  broker.issue S cellId args grantId now

/-- In every history a grant is made by an issuer with the default lifetime. -/
theorem issueFor_eq {calls : List Call} {ttlSeconds : ℕ} {cellId grantId : String}
    {args : IssueArgs} {now : ℕ} {g : NodeGrant} {broker : CredentialBroker}
    (h : issueFor S (run (CredentialBroker.step S) {} calls) ttlSeconds cellId args grantId now =
      .ok (g, broker)) :
    ∃ (issuer : NodeGrantIssuer) (signature : String), issuer.ttlSeconds = 600 ∧
      g = { issuer.unsignedGrant grantId now args.request with signature := some signature } := by
  obtain ⟨i, audit, -, hfind, hg, -⟩ := issues_of_issue h
  exact ⟨i.issuer, _, defaultLifetimes_run S calls _ i hfind, hg⟩

/-- **The lifetime of a grant.** In every history, and as long as Python has a date for the expiry,
the grant that the broker issues for some seconds, and the one of an issuer that was made with them,
live within those seconds if and only if they are at least the ten minutes of the default. -/
theorem livesWithin_issueFor_iff (S : GrantSigner) (P : Primitives) (calls : List Call)
    {ttlSeconds : ℕ} {cellId grantId : String} {args : IssueArgs} {now : ℕ} {g : NodeGrant}
    {broker : CredentialBroker} (key : List UInt8) (kid : String) (r : NodeGrantIssuer.Request)
    (httl : 1 ≤ ttlSeconds)
    (hissue : issueFor S (run (CredentialBroker.step S) {} calls) ttlSeconds cellId args grantId
      now = .ok (g, broker))
    (hdefault : now + 600 * 1000 < clockEnd) (hclock : now + ttlSeconds * 1000 < clockEnd) :
    LivesWithin g ttlSeconds ∧
        LivesWithin (NodeGrantIssuer.issue P ⟨key, kid, ttlSeconds⟩ grantId now r).1 ttlSeconds ↔
      600 ≤ ttlSeconds := by
  obtain ⟨issuer, signature, hlifetime, rfl⟩ := issueFor_eq hissue
  have hpos : 1 ≤ issuer.ttlSeconds := by
    rw [hlifetime]
    decide
  have hend : now + issuer.ttlSeconds * 1000 < clockEnd := by
    rw [hlifetime]
    exact hdefault
  have hbroker := issuer.livesWithin_unsignedGrant_iff grantId args.request (some signature) hpos
    hend ttlSeconds
  have hissuer := NodeGrantIssuer.livesWithin_unsignedGrant_iff ⟨key, kid, ttlSeconds⟩ grantId r
    (NodeGrantIssuer.issue P ⟨key, kid, ttlSeconds⟩ grantId now r).1.signature httl hclock
    ttlSeconds
  rw [hlifetime] at hbroker
  constructor
  · exact fun h ↦ hbroker.mp h.1
  · exact fun h ↦ ⟨hbroker.mpr h, hissuer.mpr (le_refl _)⟩

/-- A quarter of an hour is long enough. -/
theorem livesWithin_issueFor_quarterHour : ∃ P g broker,
    issueFor namedKey (run (CredentialBroker.step namedKey) {} [.addCell "c1" [1] 0]) 900 "c1"
      sampleArgs "g1" 0 = .ok (g, broker) ∧
    LivesWithin g 900 ∧
      LivesWithin
        (NodeGrantIssuer.issue P ⟨[1], "c1-k1", 900⟩ "g1" 0 sampleArgs.request).1 900 := by
  obtain ⟨P⟩ : Nonempty Primitives :=
    ⟨fun _ ↦ List.replicate 32 0, fun _ _ ↦ List.replicate 32 0, fun _ _ ↦ by decide⟩
  obtain ⟨g, broker, hissue⟩ : ∃ g broker,
      issueFor namedKey (run (CredentialBroker.step namedKey) {} [.addCell "c1" [1] 0]) 900 "c1"
        sampleArgs "g1" 0 = .ok (g, broker) := ⟨_, _, rfl⟩
  exact ⟨P, g, broker, hissue, (livesWithin_issueFor_iff namedKey P [.addCell "c1" [1] 0] [1]
    "c1-k1" sampleArgs.request (by decide) hissue (by decide) (by decide)).mpr (by decide)⟩

/-- A grant that is asked for a minute lives for ten. -/
theorem not_livesWithin_issueFor_minute : ∃ g broker,
    issueFor namedKey (run (CredentialBroker.step namedKey) {} [.addCell "c1" [1] 0]) 60 "c1"
      sampleArgs "g1" 0 = .ok (g, broker) ∧
    parseUtcIso g.issuedAt = some 0 ∧ parseUtcIso g.expiresAt = some 600000 ∧
    ¬LivesWithin g 60 := by
  obtain ⟨g, broker, hissue⟩ : ∃ g broker,
      issueFor namedKey (run (CredentialBroker.step namedKey) {} [.addCell "c1" [1] 0]) 60 "c1"
        sampleArgs "g1" 0 = .ok (g, broker) := ⟨_, _, rfl⟩
  obtain ⟨issuer, signature, hlifetime, rfl⟩ := issueFor_eq hissue
  have hexpires := issuer.expiresAt_eq "g1" 0 sampleArgs.request
  have hpos : 1 ≤ issuer.ttlSeconds := by
    rw [hlifetime]
    decide
  have hend : 0 + issuer.ttlSeconds * 1000 < clockEnd := by
    rw [hlifetime]
    decide
  have hlives := issuer.livesWithin_unsignedGrant_iff "g1" sampleArgs.request (some signature) hpos
    hend 60
  rw [hlifetime] at hlives
  refine ⟨_, broker, hissue, parseUtcIso_utcNowIso (by decide), ?_, fun h ↦ ?_⟩
  · rw [expiresAtMillis, hlifetime] at hexpires
    exact (congrArg parseUtcIso hexpires).trans (parseUtcIso_utcNowIso (by decide))
  · exact absurd (hlives.mp h) (by decide)

end CredentialBroker

end Orchestra
