import Orchestra.Coordinator.NodeGrant
import Orchestra.Core.Exceptions
import Orchestra.Foundation.KeyedTable
import Orchestra.Foundation.Transition

/-!
# The credential broker

The broker keeps three dictionaries: the keys of every cell with their revocation dates, the current
key of a cell, and the issuer of each key. They are updated by four calls in any order.

What the calls have in common is that a key, once entered, stays under its identifier with its
revocation date, and that no two identifiers share a key (`Inv`). Rotation keeps this, because the
identifier it takes is the next number, which is not in use. Adding a cell a second time does not:
its first key is replaced, with the revocation date. So the broker is right about the grants of a
history in which no cell is added again after its first key was revoked or has signed, and it never
looks at the expiry (`verify_issued_iff`).
-/

namespace Orchestra

/-- The issuer's signature and its check, with the signature as a function of the issuer and of the
unsigned grant. -/
structure GrantSigner where
  sign : NodeGrantIssuer → NodeGrant → String
  verify : NodeGrantIssuer → NodeGrant → Bool

namespace GrantSigner

variable (S : GrantSigner)

/-- `issuer.issue`. -/
def issue (issuer : NodeGrantIssuer) (grantId : String) (now : ℕ)
    (r : NodeGrantIssuer.Request) : NodeGrant :=
  let grant := issuer.unsignedGrant grantId now r
  { grant with signature := some (S.sign issuer grant) }

/-- The grant was signed with this key. -/
def SignedWith (key : List UInt8) (g : NodeGrant) : Prop :=
  ∃ (issuer : NodeGrantIssuer) (body : NodeGrant),
    issuer.key = key ∧ g = { body with signature := some (S.sign issuer body) }

/-- An issuer accepts exactly what its own key signed. -/
def Exact : Prop :=
  ∀ key g, S.SignedWith key g → ∀ issuer, S.verify issuer g = true ↔ issuer.key = key

theorem signedWith_issue (issuer : NodeGrantIssuer) (grantId : String) (now : ℕ)
    (r : NodeGrantIssuer.Request) : S.SignedWith issuer.key (S.issue issuer grantId now r) :=
  ⟨issuer, issuer.unsignedGrant grantId now r, rfl, rfl⟩

end GrantSigner

/-! ## Expiry -/

/-- When a grant issued at `now` by an issuer with the default lifetime expires. The milliseconds
are dropped. -/
def expiry (now : ℕ) : ℕ := (now + 600 * 1000) / 1000 * 1000

/-- The text of a time up to the seconds does not depend on the milliseconds. -/
theorem isoSeconds_dropMillis (ms : ℕ) : isoSeconds (ms / 1000 * 1000) = isoSeconds ms := by
  have hdiv (d : ℕ) : ms / 1000 * 1000 / (1000 * d) = ms / (1000 * d) := by
    rw [← Nat.div_div_eq_div_mul, Nat.mul_div_cancel _ (by decide), Nat.div_div_eq_div_mul]
  rw [isoSeconds, isoSeconds, hdiv 86400, hdiv 3600, hdiv 60, hdiv 1]

theorem expiresAt_unsignedGrant (key : List UInt8) (kid grantId : String) (now : ℕ)
    (r : NodeGrantIssuer.Request) :
    (NodeGrantIssuer.unsignedGrant { key := key, kid := kid } grantId now r).expiresAt
      = utcNowIso (expiry now) := by
  rw [utcNowIso, expiry, isoSeconds_dropMillis, Nat.mul_mod_left, String.append_assoc]
  rfl

/-! ## The broker -/

/-- A signing key of a cell, with its rotation and revocation. -/
structure CellKey where
  cellId : String
  kid : String
  key : List UInt8
  createdAt : String
  rotatedTo : Option String := none
  revokedAt : Option String := none

def CellKey.ident (k : CellKey) : String × String := (k.cellId, k.kid)

def CellKey.withRotatedTo (newKid : String) (k : CellKey) : CellKey :=
  { k with rotatedTo := some newKid }

def CellKey.withRevokedAt (date : String) (k : CellKey) : CellKey :=
  { k with revokedAt := some date }

theorem CellKey.ident_withRotatedTo (newKid : String) (k : CellKey) :
    (k.withRotatedTo newKid).ident = k.ident := rfl

theorem CellKey.ident_withRevokedAt (date : String) (k : CellKey) :
    (k.withRevokedAt date).ident = k.ident := rfl

/-- An entry of `_issuers`. -/
structure CellIssuer where
  cellId : String
  issuer : NodeGrantIssuer

def CellIssuer.ident (i : CellIssuer) : String × String := (i.cellId, i.issuer.kid)

structure GrantAudit where
  grantId : String
  cellId : String
  kid : String
  parentGrantId : Option String
  issuedAt : String

structure CredentialBroker where
  keys : KeyedTable CellKey.ident := .empty
  currentKid : String → Option String := fun _ ↦ none
  grantAudit : List GrantAudit := []
  issuers : KeyedTable CellIssuer.ident := .empty

namespace CredentialBroker

/-- The name of the `n`-th key of a cell. -/
def kidName (cellId : String) (n : ℕ) : String := cellId ++ "-k" ++ toString n

variable (broker : CredentialBroker)

/-- The number of keys of a cell. -/
def keyCount (cellId : String) : ℕ :=
  ((broker.keys.rows.map CellKey.ident).filter fun k ↦ decide (k.1 = cellId)).length

/-- A new current key, as `add_cell` and `rotate` enter it. -/
def install (cellId kid : String) (key : List UInt8) (now : ℕ) : CredentialBroker where
  keys := broker.keys.put ⟨cellId, kid, key, utcNowIso now, none, none⟩
  currentKid := Function.update broker.currentKid cellId (some kid)
  grantAudit := broker.grantAudit
  issuers := broker.issuers.put ⟨cellId, { key := key, kid := kid }⟩

/-- `add_cell`, with the key that is drawn. -/
def addCell (cellId : String) (key : List UInt8) (now : ℕ) : CredentialBroker :=
  broker.install cellId (cellId ++ "-k1") key now

/-- A change of a key's dates, if the key is there. -/
def touch (cellId kid : String) (f : CellKey → CellKey) (hf : ∀ k, (f k).ident = k.ident) :
    CredentialBroker :=
  { broker with keys := broker.keys.updateAt (cellId, kid) f hf }

/-- The current key notes its successor. -/
def markRotated (cellId newKid : String) : CredentialBroker :=
  match broker.currentKid cellId with
  | none => broker
  | some oldKid =>
    if oldKid = "" then broker
    else broker.touch cellId oldKid (CellKey.withRotatedTo newKid)
      (CellKey.ident_withRotatedTo newKid)

/-- `rotate`. -/
def rotate (cellId : String) (key : List UInt8) (now : ℕ) : CredentialBroker :=
  let newKid := kidName cellId (broker.keyCount cellId + 1)
  (broker.markRotated cellId newKid).install cellId newKid key now

/-- `revoke`, which ignores an unknown key. -/
def revoke (cellId kid : String) (now : ℕ) : CredentialBroker :=
  broker.touch cellId kid (CellKey.withRevokedAt (utcNowIso now)) (CellKey.ident_withRevokedAt _)

/-- `is_revoked`. -/
def isRevoked (cellId kid : String) : Bool :=
  ((broker.keys.find? (cellId, kid)).bind CellKey.revokedAt).isSome

/-- The parameters of `issue` besides the cell. The lifetime passed to it is not read. -/
structure IssueArgs where
  request : NodeGrantIssuer.Request
  parentGrantId : Option String := none
  parentAudience : Option String := none

/-- `issue`, with a fresh identifier. -/
def issue (S : GrantSigner) (cellId : String) (args : IssueArgs) (grantId : String) (now : ℕ) :
    Except Raised (NodeGrant × CredentialBroker) :=
  let notRegistered : Raised := ⟨"RuntimeError", "cell " ++ cellId ++ " not registered"⟩
  match broker.currentKid cellId with
  | none => .error notRegistered
  | some kid =>
    if kid = "" then .error notRegistered
    else
      match broker.issuers.find? (cellId, kid) with
      | none => .error ⟨"KeyError", "(" ++ pyRepr cellId ++ ", " ++ pyRepr kid ++ ")"⟩
      | some i =>
        let grant := S.issue i.issuer grantId now args.request
        let parentAudience := args.parentAudience.getD ""
        -- the audiences have to be equal
        if parentAudience ≠ "" ∧ grant.audience ≠ parentAudience then
          .error ⟨"RuntimeError", "child audience " ++ pyRepr grant.audience ++
            " not a subset of parent " ++ pyRepr parentAudience⟩
        else .ok (grant, { broker with
          grantAudit := broker.grantAudit ++
            [⟨grant.grantId, cellId, kid, args.parentGrantId, grant.issuedAt⟩] })

/-- `verify`: some issuer of the cell that is not revoked accepts the grant. -/
def verify (S : GrantSigner) (g : NodeGrant) (cellId : String) : Bool :=
  broker.issuers.rows.any fun i ↦ decide (i.cellId = cellId) &&
    !broker.isRevoked i.cellId i.issuer.kid && S.verify i.issuer g

/-! ## Histories -/

/-- The calls that change the broker, with the clock readings and the keys that are drawn. -/
inductive Call where
  | addCell (cellId : String) (key : List UInt8) (now : ℕ)
  | rotate (cellId : String) (key : List UInt8) (now : ℕ)
  | revoke (cellId kid : String) (now : ℕ)
  | issue (cellId : String) (args : IssueArgs) (grantId : String) (now : ℕ)

/-- What a history records: the keys that were drawn, the grants that were returned, with the key
they were issued under and their expiry, and the keys that were revoked. -/
inductive Event where
  | drawn (key : List UInt8)
  | issued (cellId kid : String) (g : NodeGrant) (expiry : ℕ)
  | revoked (cellId kid : String)

variable (S : GrantSigner)

def step (broker : CredentialBroker) : Call → CredentialBroker
  | .addCell cellId key now => broker.addCell cellId key now
  | .rotate cellId key now => broker.rotate cellId key now
  | .revoke cellId kid now => broker.revoke cellId kid now
  | .issue cellId args grantId now =>
    match broker.issue S cellId args grantId now with
    | .ok (_, broker) => broker
    | .error _ => broker

def record (broker : CredentialBroker) : Call → List Event
  | .addCell _ key _ => [.drawn key]
  | .rotate _ key _ => [.drawn key]
  | .revoke cellId kid _ =>
    if (broker.keys.find? (cellId, kid)).isSome then [.revoked cellId kid] else []
  | .issue cellId args grantId now =>
    match broker.issue S cellId args grantId now with
    | .ok (g, _) =>
      let kid := (broker.currentKid cellId).getD ""
      [.issued cellId kid g (expiry now)]
    | .error _ => []

/-- The broker with its history. -/
abbrev system : List Event × CredentialBroker → Call → List Event × CredentialBroker :=
  Transition.observe (step S) (record S)

/-! ## What the calls do to the keys -/

section Keys

variable {broker}

/-- The key under an identifier. -/
def keyAt (broker : CredentialBroker) (cellId kid : String) : Option (List UInt8) :=
  (broker.keys.find? (cellId, kid)).map CellKey.key

theorem kidName_injective {cellId : String} {m n : ℕ} (h : kidName cellId m = kidName cellId n) :
    m = n := by
  have hrepr : Nat.repr m = Nat.repr n := (String.append_right_inj _).mp h
  have hdigits := congrArg String.toList hrepr
  rw [Nat.toList_repr, Nat.toList_repr] at hdigits
  rw [← Nat.ofDigitChars_ten_toDigits (n := m), hdigits, Nat.ofDigitChars_ten_toDigits]

theorem kidName_one (cellId : String) : cellId ++ "-k1" = kidName cellId 1 := by
  rw [kidName, String.append_assoc]
  rfl

variable (cellId kid : String) (key : List UInt8) (now : ℕ)

theorem ident_eq_iff {row : CellKey} {c k : String} :
    row.ident = (c, k) ↔ row.cellId = c ∧ row.kid = k := Prod.mk_inj

theorem keyAt_install (c k : String) : (broker.install cellId kid key now).keyAt c k =
    if cellId = c ∧ kid = k then some key else broker.keyAt c k := by
  rw [keyAt, install, KeyedTable.find?_put, keyAt]
  by_cases h : cellId = c ∧ kid = k
  · rw [if_pos h, if_pos (ident_eq_iff.mpr h)]
    rfl
  · rw [if_neg h, if_neg (mt ident_eq_iff.mp h)]

theorem isRevoked_install (c k : String) : (broker.install cellId kid key now).isRevoked c k =
    if cellId = c ∧ kid = k then false else broker.isRevoked c k := by
  rw [isRevoked, install, KeyedTable.find?_put, isRevoked]
  by_cases h : cellId = c ∧ kid = k
  · rw [if_pos h, if_pos (ident_eq_iff.mpr h)]
    rfl
  · rw [if_neg h, if_neg (mt ident_eq_iff.mp h)]

/-- A key more, unless it takes the place of one. -/
theorem keyCount_install (c : String) : (broker.install cellId kid key now).keyCount c =
    broker.keyCount c +
      if cellId = c ∧ (broker.keyAt cellId kid).isSome = false then 1 else 0 := by
  set row : CellKey := ⟨cellId, kid, key, utcNowIso now, none, none⟩ with hrow
  have hmem : row.ident ∈ broker.keys.rows.map CellKey.ident ↔
      ¬(broker.keyAt cellId kid).isSome = false := by
    rw [keyAt, Option.isSome_map, Bool.not_eq_false, Option.isSome_iff_ne_none, ne_eq,
      KeyedTable.find?_eq_none_iff, not_not]
    rfl
  by_cases hsome : (broker.keyAt cellId kid).isSome = false
  · rw [keyCount, install, KeyedTable.keys_put_of_notMem fun h ↦ hmem.mp h hsome,
      List.filter_append, List.length_append, keyCount]
    by_cases hc : cellId = c
    · have hrow' : row.ident.1 = c := hc
      rw [if_pos ⟨hc, hsome⟩, List.filter_singleton, decide_eq_true hrow']
      rfl
    · have hrow' : ¬row.ident.1 = c := hc
      rw [if_neg fun h ↦ hc h.1, List.filter_singleton, decide_eq_false hrow']
      rfl
  · rw [keyCount, install, KeyedTable.keys_put_of_mem (hmem.mpr hsome), if_neg fun h ↦ hsome h.2]
    rfl

section Touch

variable {f : CellKey → CellKey} {hf : ∀ k, (f k).ident = k.ident}

theorem find?_touch (id : String × String) : (broker.touch cellId kid f hf).keys.find? id =
    if id = (cellId, kid) then (broker.keys.find? id).map f else broker.keys.find? id :=
  KeyedTable.find?_updateAt broker.keys f hf (cellId, kid) id

theorem keyAt_touch (hkey : ∀ k, (f k).key = k.key) (c k : String) :
    (broker.touch cellId kid f hf).keyAt c k = broker.keyAt c k := by
  rw [keyAt, find?_touch, keyAt]
  split_ifs
  · rw [Option.map_map]
    exact Option.map_congr fun k _ ↦ hkey k
  · rfl

theorem isRevoked_touch (hdate : ∀ k, (f k).revokedAt = k.revokedAt) (c k : String) :
    (broker.touch cellId kid f hf).isRevoked c k = broker.isRevoked c k := by
  rw [isRevoked, find?_touch, isRevoked]
  split_ifs
  · rw [Option.bind_map, Function.comp_def, funext hdate]
  · rfl

theorem keyCount_touch (c : String) :
    (broker.touch cellId kid f hf).keyCount c = broker.keyCount c := by
  rw [keyCount, touch, KeyedTable.keys_updateAt, keyCount]

end Touch

/-- Marking the current key as rotated changes one of its dates, if anything. -/
theorem markRotated_eq (broker : CredentialBroker) (cellId newKid : String) :
    broker.markRotated cellId newKid = broker ∨
      ∃ oldKid, broker.markRotated cellId newKid = broker.touch cellId oldKid
        (CellKey.withRotatedTo newKid) (CellKey.ident_withRotatedTo newKid) := by
  rw [markRotated]
  split
  · exact Or.inl rfl
  next oldKid _ =>
    split_ifs
    · exact Or.inl rfl
    · exact Or.inr ⟨oldKid, rfl⟩

theorem keyCount_markRotated (newKid c : String) :
    (broker.markRotated cellId newKid).keyCount c = broker.keyCount c := by
  rcases markRotated_eq broker cellId newKid with heq | ⟨oldKid, heq⟩
  · rw [heq]
  · rw [heq, keyCount_touch]

theorem keyAt_markRotated (newKid c k : String) :
    (broker.markRotated cellId newKid).keyAt c k = broker.keyAt c k := by
  rcases markRotated_eq broker cellId newKid with heq | ⟨oldKid, heq⟩
  · rw [heq]
  · rw [heq]
    exact keyAt_touch (f := CellKey.withRotatedTo newKid) cellId oldKid (fun _ ↦ rfl) c k

theorem isRevoked_markRotated (newKid c k : String) :
    (broker.markRotated cellId newKid).isRevoked c k = broker.isRevoked c k := by
  rcases markRotated_eq broker cellId newKid with heq | ⟨oldKid, heq⟩
  · rw [heq]
  · rw [heq]
    exact isRevoked_touch (f := CellKey.withRotatedTo newKid) cellId oldKid (fun _ ↦ rfl) c k

/-- A revocation is of a key that is there. -/
theorem isRevoked_revoke_iff (c k : String) :
    (broker.revoke cellId kid now).isRevoked c k = true ↔
      (c = cellId ∧ k = kid ∧ (broker.keyAt cellId kid).isSome) ∨
        broker.isRevoked c k = true := by
  rw [isRevoked, revoke, find?_touch, isRevoked, keyAt, Option.isSome_map]
  by_cases h : (c, k) = (cellId, kid)
  · rw [if_pos h]
    obtain ⟨rfl, rfl⟩ := Prod.mk.inj h
    cases broker.keys.find? (c, k) with
    | none => simp
    | some r => simp [CellKey.withRevokedAt]
  · rw [if_neg h, ← and_assoc]
    rw [Prod.mk.injEq] at h
    simp [h]

end Keys

/-! ## The invariant -/

/-- What a history and the broker have to do with each other. -/
structure Inv (S : GrantSigner) (h : List Event) (broker : CredentialBroker) : Prop where
  drawn : ∀ c k key, broker.keyAt c k = some key → .drawn key ∈ h
  distinct : ∀ c k c' k' key, broker.keyAt c k = some key → broker.keyAt c' k' = some key →
    c = c' ∧ k = k'
  issuers : ∀ c k, (broker.issuers.find? (c, k)).map CellIssuer.issuer =
    (broker.keyAt c k).map fun key ↦ { key := key, kid := k }
  numbered : ∀ c k, (broker.keyAt c k).isSome → ∃ i ≤ broker.keyCount c, k = kidName c i
  current : ∀ c k, broker.currentKid c = some k → (broker.keyAt c k).isSome
  revoked : ∀ c k, .revoked c k ∈ h ↔ broker.isRevoked c k = true
  issued : ∀ c k g e, .issued c k g e ∈ h → g.expiresAt = utcNowIso e ∧
    ∃ key, broker.keyAt c k = some key ∧ S.SignedWith key g

theorem inv_empty : Inv S [] {} where
  drawn _ _ _ := nofun
  distinct _ _ _ _ _ := nofun
  issuers _ _ := rfl
  numbered _ _ := nofun
  current _ _ := nofun
  revoked _ _ := by simp [isRevoked, KeyedTable.find?, KeyedTable.empty]
  issued _ _ _ _ := nofun

variable {S broker} {h : List Event}

theorem keyAt_isSome_of_isRevoked {c k : String} (hrev : broker.isRevoked c k = true) :
    (broker.keyAt c k).isSome := by
  rw [isRevoked] at hrev
  rw [keyAt, Option.isSome_map]
  cases hfind : broker.keys.find? (c, k) with
  | none =>
    rw [hfind] at hrev
    cases hrev
  | some row => rfl

/-- What `issue` does when it returns. -/
def Issues (S : GrantSigner) (broker : CredentialBroker) (cellId : String) (args : IssueArgs)
    (grantId : String) (now : ℕ) (kid : String) (g : NodeGrant) (broker' : CredentialBroker) :
    Prop :=
  ∃ (i : CellIssuer) (audit : List GrantAudit), broker.currentKid cellId = some kid ∧
    broker.issuers.find? (cellId, kid) = some i ∧
    g = S.issue i.issuer grantId now args.request ∧ broker' = { broker with grantAudit := audit }

theorem issues_of_issue {cellId grantId : String} {args : IssueArgs} {now : ℕ}
    {result : NodeGrant × CredentialBroker}
    (hissue : broker.issue S cellId args grantId now = .ok result) :
    Issues S broker cellId args grantId now ((broker.currentKid cellId).getD "") result.1
      result.2 := by
  rw [issue] at hissue
  cases hcur : broker.currentKid cellId with
  | none =>
    rw [hcur] at hissue
    cases hissue
  | some kid =>
    rw [hcur] at hissue
    by_cases hkid : kid = ""
    · simp only [if_pos hkid] at hissue
      cases hissue
    simp only [if_neg hkid] at hissue
    cases hfind : broker.issuers.find? (cellId, kid) with
    | none =>
      rw [hfind] at hissue
      cases hissue
    | some i =>
      rw [hfind] at hissue
      dsimp only at hissue
      split_ifs at hissue
      obtain rfl := Except.ok.inj hissue
      exact ⟨i, _, hcur, hfind, rfl, rfl⟩

namespace Inv

/-- **A new key.** The invariant is kept when the key is new, its name is one of the first numbers,
and no grant was issued and no key revoked under the name. -/
theorem install (hinv : Inv S h broker) {cellId kid : String} {key : List UInt8} (now : ℕ)
    (hkey : .drawn key ∉ h) (hrevoked : .revoked cellId kid ∉ h)
    (hissued : ∀ g e, .issued cellId kid g e ∉ h)
    (hname : ∃ i ≤ (broker.install cellId kid key now).keyCount cellId, kid = kidName cellId i) :
    Inv S (h ++ [.drawn key]) (broker.install cellId kid key now) where
  drawn c k key' hat := by
    rw [keyAt_install] at hat
    split_ifs at hat with hsame
    · obtain rfl := Option.some.inj hat
      exact List.mem_append_right _ (List.mem_singleton_self _)
    · exact List.mem_append_left _ (hinv.drawn c k key' hat)
  distinct c k c' k' key' hat hat' := by
    rw [keyAt_install] at hat hat'
    split_ifs at hat hat' with hsame hsame' hsame'
    · exact ⟨hsame.1.symm.trans hsame'.1, hsame.2.symm.trans hsame'.2⟩
    · obtain rfl := Option.some.inj hat
      exact absurd (hinv.drawn c' k' key hat') hkey
    · obtain rfl := Option.some.inj hat'
      exact absurd (hinv.drawn c k key hat) hkey
    · exact hinv.distinct c k c' k' key' hat hat'
  issuers c k := by
    have hput : (broker.install cellId kid key now).issuers.find? (c, k) =
        if (cellId, kid) = (c, k) then some ⟨cellId, { key := key, kid := kid }⟩
        else broker.issuers.find? (c, k) := KeyedTable.find?_put broker.issuers _ _
    rw [keyAt_install, hput]
    by_cases hsame : cellId = c ∧ kid = k
    · rw [if_pos hsame, if_pos (Prod.ext hsame.1 hsame.2), hsame.2]
      rfl
    · rw [if_neg hsame, if_neg fun heq ↦ hsame (Prod.mk.inj heq)]
      exact hinv.issuers c k
  numbered c k hsome := by
    rw [keyAt_install] at hsome
    split_ifs at hsome with hsame
    · obtain ⟨rfl, rfl⟩ := hsame
      exact hname
    · obtain ⟨i, hi, rfl⟩ := hinv.numbered c k hsome
      refine ⟨i, hi.trans ?_, rfl⟩
      rw [keyCount_install]
      exact Nat.le_add_right _ _
  current c k hcur := by
    rw [keyAt_install]
    change Function.update broker.currentKid cellId (some kid) c = some k at hcur
    by_cases hc : c = cellId
    · subst hc
      rw [Function.update_self] at hcur
      rw [if_pos ⟨rfl, Option.some.inj hcur⟩]
      rfl
    · rw [Function.update_of_ne hc] at hcur
      rw [if_neg fun hsame ↦ hc hsame.1.symm]
      exact hinv.current c k hcur
  revoked c k := by
    rw [isRevoked_install, List.mem_append, List.mem_singleton]
    split_ifs with hsame
    · obtain ⟨rfl, rfl⟩ := hsame
      simp [hrevoked]
    · rw [← hinv.revoked]
      simp
  issued c k g e hmem := by
    rw [List.mem_append, List.mem_singleton] at hmem
    rcases hmem with hmem | hmem
    · rw [keyAt_install, if_neg]
      · exact hinv.issued c k g e hmem
      · rintro ⟨rfl, rfl⟩
        exact hissued g e hmem
    · cases hmem

/-- **A key's dates.** What changes no key and records no grant keeps the invariant, if the history
goes on to say which keys are revoked. -/
theorem touch (hinv : Inv S h broker) {cellId kid : String} {f : CellKey → CellKey}
    {hf : ∀ k, (f k).ident = k.ident} (hkey : ∀ k, (f k).key = k.key) {l : List Event}
    (hissued : ∀ c k g e, .issued c k g e ∉ l)
    (hrevoked : ∀ c k, .revoked c k ∈ h ++ l ↔
      (broker.touch cellId kid f hf).isRevoked c k = true) :
    Inv S (h ++ l) (broker.touch cellId kid f hf) where
  drawn c k key hat := by
    rw [keyAt_touch _ _ hkey] at hat
    exact List.mem_append_left _ (hinv.drawn c k key hat)
  distinct := by simpa only [keyAt_touch _ _ hkey] using hinv.distinct
  issuers c k := by
    rw [keyAt_touch _ _ hkey]
    exact hinv.issuers c k
  numbered := by simpa only [keyAt_touch _ _ hkey, keyCount_touch] using hinv.numbered
  current c k hcur := by
    rw [keyAt_touch _ _ hkey]
    exact hinv.current c k hcur
  revoked := hrevoked
  issued c k g e hmem := by
    rw [keyAt_touch _ _ hkey]
    exact hinv.issued c k g e ((List.mem_append.mp hmem).resolve_right (hissued c k g e))

/-- Marking the current key as rotated changes nothing that the invariant speaks of. -/
theorem markRotated (hinv : Inv S h broker) (cellId newKid : String) :
    Inv S h (broker.markRotated cellId newKid) := by
  rcases markRotated_eq broker cellId newKid with heq | ⟨oldKid, heq⟩
  · rw [heq]
    exact hinv
  rw [heq, ← List.append_nil h]
  refine hinv.touch (f := CellKey.withRotatedTo newKid) (fun _ ↦ rfl)
    (fun _ _ _ _ ↦ List.not_mem_nil) fun c k ↦ ?_
  rw [List.append_nil, ← heq, isRevoked_markRotated]
  exact hinv.revoked c k

/-- The next number is not in use. -/
theorem keyAt_next (hinv : Inv S h broker) (cellId : String) :
    broker.keyAt cellId (kidName cellId (broker.keyCount cellId + 1)) = none := by
  by_contra hsome
  obtain ⟨i, hi, hname⟩ := hinv.numbered _ _ (Option.isSome_iff_ne_none.mpr hsome)
  have := kidName_injective hname
  omega

theorem addCell (hinv : Inv S h broker) {cellId : String} {key : List UInt8} (now : ℕ)
    (hkey : .drawn key ∉ h) (hrevoked : .revoked cellId (cellId ++ "-k1") ∉ h)
    (hissued : ∀ g e, .issued cellId (cellId ++ "-k1") g e ∉ h) :
    Inv S (h ++ [.drawn key]) (broker.addCell cellId key now) := by
  refine hinv.install now hkey hrevoked hissued ⟨1, ?_, kidName_one cellId⟩
  rw [keyCount_install]
  by_cases hsome : (broker.keyAt cellId (cellId ++ "-k1")).isSome = false
  · simp [hsome]
  · -- the cell has a key already
    obtain ⟨i, hi, hname⟩ := hinv.numbered _ _ (Bool.not_eq_false _ ▸ hsome)
    rw [kidName_one] at hname
    obtain rfl := kidName_injective hname
    omega

theorem rotate (hinv : Inv S h broker) {cellId : String} {key : List UInt8} (now : ℕ)
    (hkey : .drawn key ∉ h) : Inv S (h ++ [.drawn key]) (broker.rotate cellId key now) := by
  set newKid := kidName cellId (broker.keyCount cellId + 1) with hnew
  have hmarked := hinv.markRotated cellId newKid
  have hnone : (broker.markRotated cellId newKid).keyAt cellId newKid = none := by
    have hnext := hmarked.keyAt_next cellId
    rw [keyCount_markRotated] at hnext
    exact hnext
  refine hmarked.install now hkey (fun hrev ↦ ?_) (fun g e hmem ↦ ?_)
    ⟨broker.keyCount cellId + 1, ?_, hnew⟩
  · have hsome := keyAt_isSome_of_isRevoked ((hmarked.revoked cellId newKid).mp hrev)
    rw [hnone] at hsome
    cases hsome
  · obtain ⟨-, key', hat, -⟩ := hmarked.issued cellId newKid g e hmem
    rw [hnone] at hat
    cases hat
  · rw [keyCount_install, hnone, keyCount_markRotated]
    simp

theorem revoke (hinv : Inv S h broker) (cellId kid : String) (now : ℕ) :
    Inv S (h ++ record S broker (.revoke cellId kid now)) (broker.revoke cellId kid now) := by
  have hmem (e : Event) : e ∈ record S broker (.revoke cellId kid now) ↔
      (broker.keyAt cellId kid).isSome ∧ e = .revoked cellId kid := by
    rw [record, keyAt, Option.isSome_map]
    split_ifs with hsome <;> simp [hsome]
  refine hinv.touch (f := CellKey.withRevokedAt (utcNowIso now)) (fun _ ↦ rfl)
    (fun c k g e he ↦ ?_) fun c k ↦ ?_
  · cases ((hmem _).mp he).2
  · have hrevoked : (broker.revoke cellId kid now).isRevoked c k = true ↔ _ :=
      isRevoked_revoke_iff cellId kid now c k
    rw [CredentialBroker.revoke] at hrevoked
    rw [List.mem_append, hmem, hinv.revoked, hrevoked, Event.revoked.injEq]
    tauto

/-- An issued grant is signed with the current key of the cell. -/
theorem issue (hinv : Inv S h broker) {cellId grantId : String} {args : IssueArgs} {now : ℕ}
    {kid : String} {g : NodeGrant} {broker' : CredentialBroker}
    (hissue : Issues S broker cellId args grantId now kid g broker') :
    Inv S (h ++ [.issued cellId kid g (expiry now)]) broker' := by
  obtain ⟨i, audit, hcur, hfind, rfl, rfl⟩ := hissue
  obtain ⟨key, hat⟩ := Option.isSome_iff_exists.mp (hinv.current cellId kid hcur)
  have hissuer : i.issuer = { key := key, kid := kid } := by
    have := hinv.issuers cellId kid
    rw [hfind, hat] at this
    exact Option.some.inj this
  have hmem {e : Event} (he : e ∈ h) (g : NodeGrant) :
      e ∈ h ++ [.issued cellId kid g (expiry now)] := List.mem_append_left _ he
  constructor
  · exact fun c k key hat ↦ hmem (hinv.drawn c k key hat) _
  · exact hinv.distinct
  · exact hinv.issuers
  · exact hinv.numbered
  · exact hinv.current
  · intro c k
    refine Iff.trans ?_ (hinv.revoked c k)
    simp
  · intro c k g e hg
    rcases List.mem_append.mp hg with hg | hg
    · exact hinv.issued c k g e hg
    · obtain ⟨rfl, rfl, rfl, rfl⟩ := Event.issued.inj (List.mem_singleton.mp hg)
      refine ⟨?_, key, hat, ?_⟩
      · rw [hissuer]
        exact expiresAt_unsignedGrant key k grantId now args.request
      · rw [hissuer]
        exact S.signedWith_issue { key := key, kid := k } grantId now args.request

end Inv

/-! ## Every history -/

/-- The keys that are drawn are new. -/
def Fresh (hb : List Event × CredentialBroker) : Call → Prop
  | .addCell _ key _ => .drawn key ∉ hb.1
  | .rotate _ key _ => .drawn key ∉ hb.1
  | _ => True

/-- A cell is not added again after its first key was revoked or has signed a grant. -/
def Kept (hb : List Event × CredentialBroker) : Call → Prop
  | .addCell cellId _ _ => .revoked cellId (cellId ++ "-k1") ∉ hb.1 ∧
      ∀ g e, .issued cellId (cellId ++ "-k1") g e ∉ hb.1
  | _ => True

/-- The step lemma. -/
theorem Inv.system {hb : List Event × CredentialBroker} (hinv : Inv S hb.1 hb.2) {call : Call}
    (hfresh : Fresh hb call) (hkept : Kept hb call) :
    Inv S (CredentialBroker.system S hb call).1 (CredentialBroker.system S hb call).2 := by
  cases call with
  | addCell cellId key now => exact hinv.addCell now hfresh hkept.1 hkept.2
  | rotate cellId key now => exact hinv.rotate now hfresh
  | revoke cellId kid now => exact hinv.revoke cellId kid now
  | issue cellId args grantId now =>
    simp only [CredentialBroker.system, Transition.observe, record, step]
    cases hissue : hb.2.issue S cellId args grantId now with
    | error e =>
      rw [List.append_nil]
      exact hinv
    | ok result => exact hinv.issue (issues_of_issue hissue)

/-! ## What the broker accepts -/

namespace Inv

/-- `verify` asks for a key of the cell that is not revoked and accepts the grant. -/
theorem verify_iff (hinv : Inv S h broker) {g : NodeGrant} {cellId : String} :
    broker.verify S g cellId = true ↔ ∃ kid key, broker.keyAt cellId kid = some key ∧
      broker.isRevoked cellId kid = false ∧ S.verify { key := key, kid := kid } g = true := by
  simp only [CredentialBroker.verify, List.any_eq_true, Bool.and_eq_true, decide_eq_true_eq,
    Bool.not_eq_true']
  constructor
  · rintro ⟨i, hi, ⟨rfl, hrevoked⟩, haccepts⟩
    have hfind : broker.issuers.find? (i.cellId, i.issuer.kid) = some i :=
      KeyedTable.find?_of_mem hi
    have hrow := hinv.issuers i.cellId i.issuer.kid
    rw [hfind] at hrow
    obtain ⟨key, hat, hissuer⟩ := Option.map_eq_some_iff.mp hrow.symm
    exact ⟨i.issuer.kid, key, hat, hrevoked, hissuer ▸ haccepts⟩
  · rintro ⟨kid, key, hat, hrevoked, haccepts⟩
    have hrow := hinv.issuers cellId kid
    rw [hat] at hrow
    obtain ⟨i, hfind, hissuer⟩ := Option.map_eq_some_iff.mp hrow
    obtain ⟨hi, hident⟩ := KeyedTable.find?_eq_some_iff.mp hfind
    obtain ⟨rfl, rfl⟩ := Prod.mk.inj hident
    exact ⟨i, hi, ⟨rfl, hrevoked⟩, hissuer ▸ haccepts⟩

/-- **An issued grant** is accepted for its own cell, until its key is revoked. -/
theorem verify_issued_iff (hinv : Inv S h broker) (hS : S.Exact) {c kid : String} {g : NodeGrant}
    {e : ℕ} (hissued : .issued c kid g e ∈ h) (cellId : String) :
    broker.verify S g cellId = true ↔ cellId = c ∧ .revoked c kid ∉ h := by
  obtain ⟨-, key, hat, hsigned⟩ := hinv.issued c kid g e hissued
  rw [hinv.verify_iff, hinv.revoked, Bool.not_eq_true]
  constructor
  · rintro ⟨kid', key', hat', hrevoked, haccepts⟩
    obtain rfl : key' = key := (hS key g hsigned _).mp haccepts
    obtain ⟨rfl, rfl⟩ := hinv.distinct _ _ _ _ _ hat' hat
    exact ⟨rfl, hrevoked⟩
  · rintro ⟨rfl, hrevoked⟩
    exact ⟨kid, key, hat, hrevoked, (hS key g hsigned _).mpr rfl⟩

/-- **Rotation keeps what was accepted.** -/
theorem verify_rotate (hinv : Inv S h broker) {cellId : String} {key : List UInt8} (now : ℕ)
    (hkey : .drawn key ∉ h) {g : NodeGrant} {c : String} (hverify : broker.verify S g c = true) :
    (broker.rotate cellId key now).verify S g c = true := by
  have hnext := hinv.keyAt_next cellId
  rw [hinv.verify_iff] at hverify
  obtain ⟨kid, key', hat, hrevoked, haccepts⟩ := hverify
  rw [(hinv.rotate now hkey).verify_iff]
  have hother : ¬(cellId = c ∧ kidName cellId (broker.keyCount cellId + 1) = kid) := by
    rintro ⟨rfl, rfl⟩
    rw [hnext] at hat
    cases hat
  refine ⟨kid, key', ?_, ?_, haccepts⟩
  · rw [CredentialBroker.rotate, keyAt_install, if_neg hother, keyAt_markRotated, hat]
  · rw [CredentialBroker.rotate, isRevoked_install, if_neg hother, isRevoked_markRotated, hrevoked]

end Inv

open Transition

/-- What is asked of `verify` at time `t`, for a grant that was issued under a key. -/
def VerifiesAt (S : GrantSigner) (hb : List Event × CredentialBroker) (c kid : String)
    (g : NodeGrant) (e : ℕ) (cellId : String) (t : ℕ) : Prop :=
  hb.2.verify S g cellId = true ↔ cellId = c ∧ .revoked c kid ∉ hb.1 ∧ t < e

/-- The run lemma. -/
theorem inv_run {calls : List Call} (hfresh : AllSteps (system S) Fresh ([], {}) calls)
    (hkept : AllSteps (system S) Kept ([], {}) calls) :
    Inv S (run (system S) ([], {}) calls).1 (run (system S) ([], {}) calls).2 := by
  have hboth : AllSteps (system S) (fun hb call ↦ Fresh hb call ∧ Kept hb call) ([], {}) calls :=
    allSteps_and.mpr ⟨hfresh, hkept⟩
  exact run_induction (I := fun hb ↦ Inv S hb.1 hb.2)
    (fun _ _ hinv hcall ↦ hinv.system hcall.1 hcall.2) (inv_empty S) hboth

/-- **The life of a grant.** In every history that draws new keys and adds no cell again once its
first key was revoked or has signed, the broker is right about an issued grant at every time before
the expiry, and after it just when it refuses the grant on other grounds. A revoked key stays
revoked, and rotation keeps what was accepted. -/
theorem verifiesAt_iff (hS : S.Exact) (calls : List Call)
    (hfresh : AllSteps (system S) Fresh ([], {}) calls)
    (hkept : AllSteps (system S) Kept ([], {}) calls) :
    let hb := run (system S) ([], {}) calls
    (∀ c kid g e, .issued c kid g e ∈ hb.1 → g.expiresAt = utcNowIso e ∧ ∀ cellId t,
      VerifiesAt S hb c kid g e cellId t ↔ t < e ∨ cellId ≠ c ∨ .revoked c kid ∈ hb.1) ∧
    (∀ c kid, .revoked c kid ∈ hb.1 → hb.2.isRevoked c kid = true) ∧
    ∀ g c cellId key now, .drawn key ∉ hb.1 → hb.2.verify S g c = true →
      (hb.2.rotate cellId key now).verify S g c = true := by
  intro hb
  have hinv : Inv S hb.1 hb.2 := inv_run hfresh hkept
  refine ⟨fun c kid g e hissued ↦ ⟨(hinv.issued c kid g e hissued).1, fun cellId t ↦ ?_⟩,
    fun c kid ↦ (hinv.revoked c kid).mp,
    fun g c cellId key now hkey ↦ hinv.verify_rotate now hkey⟩
  rw [VerifiesAt, hinv.verify_issued_iff hS hissued]
  by_cases hcell : cellId = c <;> by_cases hrevoked : Event.revoked c kid ∈ hb.1 <;>
    simp [hcell, hrevoked]

/-! ### A cell with two keys -/

/-- A signature that names its key. -/
def namedKey : GrantSigner where
  sign issuer _ := hexdigest issuer.key
  verify issuer g := decide (g.signature = some (hexdigest issuer.key))

theorem namedKey_exact : namedKey.Exact := by
  rintro key g ⟨signer, body, rfl, rfl⟩ issuer
  rw [namedKey, decide_eq_true_eq, Option.some.injEq, hexdigest_injective.eq_iff]
  exact eq_comm

def sampleArgs : IssueArgs where
  request :=
    { taskRunId := "t", nodeRunId := "n", taskId := "task-1", nodeId := "n1", capabilityId := "c",
      manifestId := "m:c", dataView := { name := "v", shape := .reference },
      purpose := { code := "x" } }

/-- A grant, a rotation, and the revocation of the first key. -/
def sampleCalls : List Call :=
  [.addCell "c1" [1] 0, .issue "c1" sampleArgs "g1" 0, .rotate "c1" [2] 5,
    .revoke "c1" "c1-k1" 9]

theorem fresh_sampleCalls : AllSteps (system namedKey) Fresh ([], {}) sampleCalls := by
  refine ⟨List.not_mem_nil, trivial, ?_, trivial, trivial⟩
  change Event.drawn [2] ∉ [.drawn [1], .issued "c1" "c1-k1" _ _]
  simp

theorem kept_sampleCalls : AllSteps (system namedKey) Kept ([], {}) sampleCalls :=
  ⟨⟨List.not_mem_nil, fun _ _ ↦ List.not_mem_nil⟩, trivial, trivial, trivial, trivial⟩

theorem verifiesAt_iff_sampleCalls :
    ∃ g, .issued "c1" "c1-k1" g (expiry 0) ∈ (run (system namedKey) ([], {}) sampleCalls).1 ∧
      VerifiesAt namedKey (run (system namedKey) ([], {}) sampleCalls) "c1" "c1-k1" g (expiry 0)
        "c1" 700000 := by
  obtain ⟨hissued, hrevoked, -⟩ :=
    verifiesAt_iff namedKey_exact sampleCalls fresh_sampleCalls kept_sampleCalls
  have hmem : Event.revoked "c1" "c1-k1" ∈ (run (system namedKey) ([], {}) sampleCalls).1 :=
    List.mem_of_getLast? rfl
  exact ⟨_, List.mem_cons_of_mem _ List.mem_cons_self,
    ((hissued _ _ _ _ (List.mem_cons_of_mem _ List.mem_cons_self)).2 "c1" 700000).mpr
      (Or.inr (Or.inr hmem))⟩

/-- A grant is accepted after its expiry. -/
theorem accepts_expired : ¬∀ S : GrantSigner, S.Exact → ∀ calls : List Call,
    AllSteps (system S) Fresh ([], {}) calls →
      let hb := run (system S) ([], {}) calls
      (∀ c kid g e, .issued c kid g e ∈ hb.1 → ∀ cellId t, VerifiesAt S hb c kid g e cellId t) ∧
      (∀ c kid, .revoked c kid ∈ hb.1 → hb.2.isRevoked c kid = true) ∧
      ∀ g c cellId key now, .drawn key ∉ hb.1 → hb.2.verify S g c = true →
        (hb.2.rotate cellId key now).verify S g c = true := by
  intro hall
  set calls : List Call := [.addCell "c1" [1] 0, .issue "c1" sampleArgs "g1" 0]
  have hfresh : AllSteps (system namedKey) Fresh ([], {}) calls :=
    ⟨List.not_mem_nil, trivial, trivial⟩
  have hkept : AllSteps (system namedKey) Kept ([], {}) calls :=
    ⟨⟨List.not_mem_nil, fun _ _ ↦ List.not_mem_nil⟩, trivial, trivial⟩
  have hissued : Event.issued "c1" "c1-k1" _ (expiry 0) ∈
      (run (system namedKey) ([], {}) calls).1 := List.mem_cons_of_mem _ List.mem_cons_self
  have hnot : Event.revoked "c1" "c1-k1" ∉ (run (system namedKey) ([], {}) calls).1 := by
    change _ ∉ [Event.drawn [1], .issued "c1" "c1-k1" _ _]
    simp
  have hverify := ((inv_run hfresh hkept).verify_issued_iff namedKey_exact hissued "c1").mpr
    ⟨rfl, hnot⟩
  obtain ⟨hiff, -⟩ := hall namedKey namedKey_exact calls hfresh
  have hbefore := ((hiff _ _ _ _ hissued "c1" (expiry 0)).mp hverify).2.2
  exact lt_irrefl _ hbefore

-- a cell that is added again loses the revocation of its first key
example : (run (system namedKey) ([], {}) [.addCell "c1" [1] 0, .revoke "c1" "c1-k1" 0,
    .addCell "c1" [2] 0]).2.isRevoked "c1" "c1-k1" = false := by decide +kernel

end CredentialBroker

end Orchestra
