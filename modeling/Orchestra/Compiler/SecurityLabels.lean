import Orchestra.Compiler.Checkers
import Orchestra.Foundation.Wildcard

/-!
# The algebra of security labels

Two operations on labels: `can_flow_to`, which says when data of one label may enter a context of
another, and the `_join` the information-flow checker combines the labels of several producers with.

Classification and trust are linear orders, on which the join is the maximum; residencies are tags
with the wildcard `"local"`. The join forgets the owner, which is the one field that keeps it from
being idempotent (`join_laws_iff`); on the labels of the default owner it is the join of a
semilattice. The flow check lets data leave a `"local"` context for any residency, so it is
transitive only as long as no context in between is `"local"` (`canFlowTo_chain`).
-/

namespace Orchestra

open InformationFlowChecker

/-! ## Orders -/

theorem classOrder_injective : Function.Injective classOrder := by
  intro a b h
  cases a <;> cases b <;> first | rfl | cases h

theorem trustOrder_injective : Function.Injective trustOrder := by
  intro a b h
  cases a <;> cases b <;> first | rfl | cases h

/-- From `public` up to `restricted`. -/
instance : LinearOrder DataClassification := LinearOrder.lift' classOrder classOrder_injective

/-- From `synthetic` up to `restricted`. -/
instance : LinearOrder SourceTrust := LinearOrder.lift' trustOrder trustOrder_injective

theorem DataClassification.le_iff {a b : DataClassification} :
    a ≤ b ↔ classOrder a ≤ classOrder b := Iff.rfl

theorem SourceTrust.le_iff {a b : SourceTrust} : a ≤ b ↔ trustOrder a ≤ trustOrder b := Iff.rfl

namespace SecurityLabel

/-! ## The join -/

/-- The join, field by field. -/
theorem join_eq (a b : SecurityLabel) : join a b =
    { classification := max a.classification b.classification,
      residency := Wildcard.join "local" a.residency b.residency,
      sourceTrust := max a.sourceTrust b.sourceTrust,
      retentionDays := min a.retentionDays b.retentionDays } := by
  rw [join, max_def', max_def', Wildcard.join]
  simp only [DataClassification.le_iff, SourceTrust.le_iff]

theorem join_comm (a b : SecurityLabel) : join a b = join b a := by
  rw [join_eq, join_eq, max_comm, Wildcard.join_comm, max_comm a.sourceTrust, min_comm]

theorem join_assoc (a b c : SecurityLabel) : join (join a b) c = join a (join b c) := by
  simp only [join_eq, max_assoc, Wildcard.join_assoc, min_assoc]

theorem owner_join (a b : SecurityLabel) : (join a b).owner = "tenant:root" := rfl

/-- The join of a label with itself is the label, but for the owner. -/
theorem join_self (a : SecurityLabel) : join a a = { a with owner := "tenant:root" } := by
  rw [join_eq, max_self, max_self, min_self, Wildcard.join_self]

theorem join_self_iff {a : SecurityLabel} : join a a = a ↔ a.owner = "tenant:root" := by
  rw [join_self]
  constructor
  · intro h
    rw [← h]
  · intro h
    rw [← h]

/-! ## The flow check -/

/-- The dictionary of the flow check. -/
def order : DataClassification → ℕ
  | .public_ => 0
  | .partner => 1
  | .internal => 2
  | .restricted => 3

def canFlowTo (self other : SecurityLabel) : Bool :=
  if order other.classification < order self.classification then false
  else if self.residency = "local" ∨ other.residency = "local" then true
  else decide (self.residency = other.residency)

/-- The two modules have the same dictionary. -/
theorem order_eq_classOrder : order = classOrder := by
  funext c
  cases c <;> rfl

variable {a b c : SecurityLabel}

theorem canFlowTo_iff : a.canFlowTo b = true ↔
    a.classification ≤ b.classification ∧
      Wildcard.Compatible "local" a.residency b.residency := by
  rw [canFlowTo, order_eq_classOrder, DataClassification.le_iff, Wildcard.Compatible]
  by_cases hclass : classOrder b.classification < classOrder a.classification
  · rw [if_pos hclass]
    simp [Nat.not_le.mpr hclass]
  · rw [if_neg hclass, ← or_assoc]
    by_cases hlocal : a.residency = "local" ∨ b.residency = "local"
    · simp [hlocal, Nat.not_lt.mp hclass]
    · simp [hlocal, Nat.not_lt.mp hclass]

theorem canFlowTo_refl (a : SecurityLabel) : a.canFlowTo a = true :=
  canFlowTo_iff.mpr ⟨le_refl _, .refl _⟩

/-- Two permitted hops compose when their ends are compatible, which they are unless the context in
the middle is `"local"`. -/
theorem canFlowTo_trans_iff (hab : a.canFlowTo b = true) (hbc : b.canFlowTo c = true) :
    a.canFlowTo c = true ↔
      (b.residency = "local" → Wildcard.Compatible "local" a.residency c.residency) := by
  rw [canFlowTo_iff] at hab hbc ⊢
  rw [← hab.2.trans_iff hbc.2]
  exact and_iff_right (hab.1.trans hbc.1)

theorem canFlowTo_join_left (a b : SecurityLabel) : a.canFlowTo (join a b) = true := by
  rw [canFlowTo_iff, join_eq]
  exact ⟨le_max_left _ _, Wildcard.compatible_join_left _ _⟩

theorem canFlowTo_join_right (a b : SecurityLabel) : b.canFlowTo (join a b) = true := by
  rw [join_comm]
  exact canFlowTo_join_left b a

/-- **The flow check and chains of flows.** It is reflexive. Of two permitted hops the direct one is
permitted as well if and only if the context in the middle has a residency of its own or those at
the ends are compatible. So a chain of permitted flows whose inner contexts all have a residency of
their own is permitted directly. -/
theorem canFlowTo_chain :
    (∀ a : SecurityLabel, a.canFlowTo a = true) ∧
    (∀ a b c : SecurityLabel, a.canFlowTo b = true → b.canFlowTo c = true →
      (a.canFlowTo c = true ↔
        (b.residency = "local" → Wildcard.Compatible "local" a.residency c.residency))) ∧
    ∀ (a c : SecurityLabel) (inner : List SecurityLabel),
      List.IsChain (fun x y ↦ x.canFlowTo y = true) (a :: (inner ++ [c])) →
      (∀ b ∈ inner, b.residency ≠ "local") → a.canFlowTo c = true := by
  refine ⟨canFlowTo_refl, fun a b c hab hbc ↦ canFlowTo_trans_iff hab hbc, ?_⟩
  intro a c inner hchain hinner
  have htrans : ∀ x y z : SecurityLabel, x.canFlowTo y = true → y.canFlowTo z = true →
      y.residency ≠ "local" → x.canFlowTo z = true := by
    intro x y z hxy hyz hy
    rw [canFlowTo_trans_iff hxy hyz]
    exact fun hlocal ↦ absurd hlocal hy
  exact Wildcard.IsChain.rel_of_forall_trans htrans hchain hinner

/-- Data goes from one country to another through a local context. -/
theorem canFlowTo_not_trans : ¬∀ a b c : SecurityLabel, a.canFlowTo b = true →
    b.canFlowTo c = true → a.canFlowTo c = true := by
  intro h
  have hcn := h { classification := .public_, residency := "cn" } { classification := .public_ }
    { classification := .public_, residency := "us" } (by decide) (by decide)
  exact absurd hcn (by decide)

/-! ## The laws of the join -/

/-- **The join and its laws.** It is commutative, associative and above both its arguments, and it
is idempotent if and only if the label has the default owner. -/
theorem join_laws_iff (a b c : SecurityLabel) :
    (join a b = join b a ∧ join (join a b) c = join a (join b c) ∧ join a a = a ∧
      a.canFlowTo (join a b) = true ∧ b.canFlowTo (join a b) = true) ↔
    a.owner = "tenant:root" := by
  rw [← join_self_iff]
  constructor
  · rintro ⟨-, -, hself, -⟩
    exact hself
  · intro hself
    exact ⟨join_comm a b, join_assoc a b c, hself, canFlowTo_join_left a b,
      canFlowTo_join_right a b⟩

/-- The owner is lost. -/
theorem join_not_idempotent : ¬∀ a b c : SecurityLabel,
    join a b = join b a ∧ join (join a b) c = join a (join b c) ∧ join a a = a ∧
      a.canFlowTo (join a b) = true ∧ b.canFlowTo (join a b) = true := by
  intro h
  obtain ⟨-, -, hself, -⟩ := h { classification := .public_, owner := "tenant:acme" }
    { classification := .public_ } { classification := .public_ }
  exact absurd hself (by decide)

end SecurityLabel

/-! ## The semilattice of the labels of the default owner -/

/-- A label that the join can produce. -/
abbrev RootLabel := {l : SecurityLabel // l.owner = "tenant:root"}

namespace RootLabel

instance : Max RootLabel := ⟨fun a b ↦ ⟨join a.1 b.1, SecurityLabel.owner_join a.1 b.1⟩⟩

theorem coe_max (a b : RootLabel) : (a ⊔ b).1 = join a.1 b.1 := rfl

instance : SemilatticeSup RootLabel :=
  SemilatticeSup.mk'
    (fun a b ↦ Subtype.ext (SecurityLabel.join_comm a.1 b.1))
    (fun a b c ↦ Subtype.ext (SecurityLabel.join_assoc a.1 b.1 c.1))
    (fun a ↦ Subtype.ext (SecurityLabel.join_self_iff.mpr a.2))

/-- The order of the semilattice refines the flow check. -/
theorem canFlowTo_of_le {a b : RootLabel} (h : a ≤ b) : a.1.canFlowTo b.1 = true := by
  rw [← sup_eq_right.mpr h, coe_max]
  exact SecurityLabel.canFlowTo_join_left a.1 b.1

end RootLabel

end Orchestra
