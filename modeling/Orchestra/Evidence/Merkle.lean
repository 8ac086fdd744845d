import Orchestra.Core.Exceptions
import Orchestra.Core.Hashing
import Orchestra.Foundation.LayeredFold
import Mathlib.Data.Nat.Bitwise

/-!
# The Merkle log

A log keeps the digests of its event ids. Its root is computed in layers, an odd last digest being
paired with itself; an inclusion proof records, from the leaf to the root, the sibling at each layer
and the side it is on, and the verifier folds them again.

The loop of the root and the loop of the proof build their layers in the same way but separately, so
what has to be shown is that they stay aligned (`climb_proofLoop`).
-/

namespace Orchestra

open LayeredFold

/-- `s.encode("utf-8")`. -/
def encode (s : String) : List UInt8 := s.toUTF8.data.toList

namespace Merkle

/-- `_h`: the parts are joined by bars. -/
def h (P : Primitives) (parts : List (List UInt8)) : String :=
  digestBytes P (List.intercalate [0x7c] parts)

/-- The digest of an event id. -/
def leaf (P : Primitives) (eventId : String) : String := h P [encode eventId]

/-- The digest of two digests. -/
def node (P : Primitives) (a b : String) : String := h P [encode a, encode b]

/-- The next layer, in `_compute_root` and in `inclusion_proof`. -/
def nextLayer (P : Primitives) (layer : List String) : List String := pairUp (node P) layer

theorem length_nextLayer_lt {P : Primitives} {layer : List String} (hlen : 1 < layer.length) :
    (nextLayer P layer).length < layer.length := by
  rw [nextLayer, length_pairUp]
  omega

end Merkle

open Merkle

structure MerkleProof where
  leafIndex : ℤ
  leafHash : String
  siblings : List String
  positions : List String := []
  root : String := ""
  deriving DecidableEq

structure MerkleLog where
  leaves : List String := []
  deriving DecidableEq

namespace MerkleLog

variable (P : Primitives)

/-- `_compute_root`. -/
def computeRoot (leaves : List String) : String :=
  match collapse (node P) leaves with
  | none => h P [[]]
  | some root => root

def root (log : MerkleLog) : String := computeRoot P log.leaves

/-- The log after the event, and its root. -/
def append (log : MerkleLog) (eventId : String) : MerkleLog × String :=
  let log' : MerkleLog := { leaves := log.leaves ++ [leaf P eventId] }
  (log', log'.root P)

/-- The log of these events. -/
def ofEvents (eventIds : List String) : MerkleLog :=
  eventIds.foldl (fun log eventId ↦ (log.append P eventId).1) {}

/-- The loop of `inclusion_proof`: the siblings and their positions, from the leaf up. -/
def proofLoop : List String → ℕ → List String × List String
  | a :: b :: rest, idx =>
    let layer := a :: b :: rest
    let siblingIdx := idx ^^^ 1
    let sibling :=
      match layer[siblingIdx]? with
      | some sibling => sibling
      -- padding with the last element
      | none => layer.getLast (List.cons_ne_nil a (b :: rest))
    let position := if siblingIdx < idx then "L" else "R"
    let above := proofLoop (nextLayer P layer) (idx / 2)
    (sibling :: above.1, position :: above.2)
  | _, _ => ([], [])
termination_by layer => layer.length
decreasing_by exact length_nextLayer_lt (by simp)

def inclusionProof (log : MerkleLog) (leafIndex : ℤ) : Except Raised MerkleProof :=
  if hvalid : 0 ≤ leafIndex ∧ leafIndex < log.leaves.length then
    let path := proofLoop P log.leaves leafIndex.toNat
    .ok
      { leafIndex := leafIndex, leafHash := log.leaves.get ⟨leafIndex.toNat, by omega⟩,
        siblings := path.1, positions := path.2, root := log.root P }
  else .error ⟨"IndexError", "leaf_index " ++ toString leafIndex ++ " out of range"⟩

end MerkleLog

namespace Merkle

/-- The loop of the verifier. -/
def climb (P : Primitives) (current : String) (steps : List (String × String)) : String :=
  steps.foldl (fun current step ↦
    if step.2 = "L" then node P step.1 current else node P current step.1) current

def verifyInclusionProof (P : Primitives) (proof : MerkleProof) : Bool :=
  climb P proof.leafHash (proof.siblings.zip proof.positions) == proof.root

end Merkle

/-! ## Completeness -/

namespace MerkleLog

variable {P : Primitives}

theorem leaves_ofEvents (eventIds : List String) :
    (ofEvents P eventIds).leaves = eventIds.map (leaf P) := by
  induction eventIds using List.reverseRecOn with
  | nil => rfl
  | append_singleton eventIds eventId ih =>
    rw [ofEvents, List.foldl_append, List.foldl_cons, List.foldl_nil, ← ofEvents, append, ih,
      List.map_append, List.map_singleton]

theorem computeRoot_nextLayer {layer : List String} (hlen : 1 < layer.length) :
    computeRoot P (nextLayer P layer) = computeRoot P layer := by
  rw [computeRoot, computeRoot, nextLayer, collapse_pairUp hlen]

theorem climb_cons (current : String) (step : String × String) (steps : List (String × String)) :
    climb P current (step :: steps) = climb P
      (if step.2 = "L" then node P step.1 current else node P current step.1) steps := rfl

/-- One step of the verifier with the sibling the loop picks leads to the pair above. -/
theorem climb_sibling {layer : List String} {idx : ℕ} {current : String}
    (hne : layer ≠ []) (hcurrent : layer[idx]? = some current) :
    (nextLayer P layer)[idx / 2]? = some
      (if (if idx ^^^ 1 < idx then "L" else "R") = "L"
        then node P ((layer[idx ^^^ 1]?).getD (layer.getLast hne)) current
        else node P current ((layer[idx ^^^ 1]?).getD (layer.getLast hne))) := by
  rw [nextLayer, getElem?_pairUp]
  rcases Nat.even_or_odd' idx with ⟨k, rfl | rfl⟩
  · -- the sibling is on the right, or the element itself when it is the last one
    have hxor : 2 * k ^^^ 1 = 2 * k + 1 := Nat.xor_one_of_even (even_two_mul k)
    have hdiv : 2 * k / 2 = k := by omega
    rw [hxor, hdiv, hcurrent, Option.map_some, if_neg (by omega : ¬2 * k + 1 < 2 * k),
      if_neg (by decide)]
    cases hnext : layer[2 * k + 1]? with
    | some sibling => rfl
    | none =>
      have hlast : layer.getLast hne = current := by
        rw [List.getElem?_eq_none_iff] at hnext
        obtain ⟨hlt, rfl⟩ := List.getElem?_eq_some_iff.mp hcurrent
        rw [List.getLast_eq_getElem]
        congr 1
        omega
      rw [Option.getD_none, Option.getD_none, hlast]
  · -- the sibling is on the left
    have hxor : 2 * k + 1 ^^^ 1 = 2 * k := Nat.xor_one_of_odd (odd_two_mul_add_one k)
    have hdiv : (2 * k + 1) / 2 = k := by omega
    obtain ⟨hlt, -⟩ := List.getElem?_eq_some_iff.mp hcurrent
    rw [hxor, hdiv, hcurrent, if_pos (by omega : 2 * k < 2 * k + 1), if_pos rfl,
      List.getElem?_eq_getElem (by omega : 2 * k < layer.length)]
    rfl

/-- One round of the loop. -/
theorem proofLoop_of_one_lt {layer : List String} (hlen : 1 < layer.length) (hne : layer ≠ [])
    (idx : ℕ) : proofLoop P layer idx =
      ((layer[idx ^^^ 1]?).getD (layer.getLast hne) ::
          (proofLoop P (nextLayer P layer) (idx / 2)).1,
        (if idx ^^^ 1 < idx then "L" else "R") ::
          (proofLoop P (nextLayer P layer) (idx / 2)).2) := by
  match layer, hlen with
  | a :: b :: rest, _ =>
    rw [proofLoop]
    cases (a :: b :: rest)[idx ^^^ 1]? <;> rfl

/-- **The two loops stay aligned**: climbing from an element of a layer, with the siblings the loop
records, ends in the root of the layer. -/
theorem climb_proofLoop (layer : List String) (idx : ℕ) {current : String}
    (hcurrent : layer[idx]? = some current) :
    climb P current ((proofLoop P layer idx).1.zip (proofLoop P layer idx).2)
      = computeRoot P layer := by
  induction layer using layer_induction (node P) generalizing idx current with
  | nil => cases hcurrent
  | singleton a =>
    obtain ⟨hlt, rfl⟩ := List.getElem?_eq_some_iff.mp hcurrent
    obtain rfl : idx = 0 := by simpa using hlt
    simp [proofLoop, climb, computeRoot]
  | layer layer hlen ih =>
    have hne : layer ≠ [] := List.ne_nil_of_length_pos (by omega)
    rw [proofLoop_of_one_lt hlen hne, List.zip_cons_cons, climb_cons,
      ← computeRoot_nextLayer hlen]
    exact ih (idx / 2) (climb_sibling hne hcurrent)

/-- **Inclusion proofs are complete.** For every log of events and every index of an event the proof
is produced, carries the root of the log and the digest of the event, and is accepted. -/
theorem inclusionProof_complete (P : Primitives) (eventIds : List String) (i : ℕ)
    (hi : i < eventIds.length) :
    ∃ proof, (ofEvents P eventIds).inclusionProof P i = .ok proof ∧
      proof.root = (ofEvents P eventIds).root P ∧
      some proof.leafHash = (ofEvents P eventIds).leaves[i]? ∧
      verifyInclusionProof P proof = true := by
  have hlen : i < (ofEvents P eventIds).leaves.length := by
    rwa [leaves_ofEvents, List.length_map]
  have hvalid : 0 ≤ (i : ℤ) ∧ (i : ℤ) < (ofEvents P eventIds).leaves.length := by omega
  have hleaf : (ofEvents P eventIds).leaves[i]?
      = some ((ofEvents P eventIds).leaves.get ⟨i, hlen⟩) := List.getElem?_eq_getElem hlen
  rw [inclusionProof, dif_pos hvalid]
  refine ⟨_, rfl, rfl, hleaf.symm, ?_⟩
  rw [verifyInclusionProof, beq_iff_eq]
  exact climb_proofLoop _ i hleaf

end MerkleLog

/-! ### The log of one event -/

/-- A function without collisions that is SHA-256 on the empty text and on `a`. -/
def sampleSha256 (data : List UInt8) : List UInt8 :=
  if data = [] then
    [0xe3, 0xb0, 0xc4, 0x42, 0x98, 0xfc, 0x1c, 0x14, 0x9a, 0xfb, 0xf4, 0xc8, 0x99, 0x6f, 0xb9, 0x24,
      0x27, 0xae, 0x41, 0xe4, 0x64, 0x9b, 0x93, 0x4c, 0xa4, 0x95, 0x99, 0x1b, 0x78, 0x52, 0xb8, 0x55]
  else if data = [0x61] then
    [0xca, 0x97, 0x81, 0x12, 0xca, 0x1b, 0xbd, 0xca, 0xfa, 0xc2, 0x31, 0xb3, 0x9a, 0x23, 0xdc, 0x4d,
      0xa7, 0x86, 0xef, 0xf8, 0x14, 0x7c, 0x4e, 0x72, 0xb9, 0x80, 0x77, 0x85, 0xaf, 0xee, 0x48, 0xbb]
  else 0 :: data

def samplePrimitives : Primitives where
  sha256 := sampleSha256
  hmacSha256 _ msg := 0 :: msg
  hmac_ne_nil _ _ := List.cons_ne_nil _ _

theorem samplePrimitives_collisionFree : samplePrimitives.CollisionFree := by
  intro a b hab
  simp only [samplePrimitives, sampleSha256] at hab
  split_ifs at hab <;> simp_all

namespace MerkleLog

theorem inclusionProof_complete_single :
    ∃ proof, (ofEvents samplePrimitives ["a"]).inclusionProof samplePrimitives 0 = .ok proof ∧
      verifyInclusionProof samplePrimitives proof = true := by
  obtain ⟨proof, hproof, -, -, hverify⟩ :=
    inclusionProof_complete samplePrimitives ["a"] 0 (by decide)
  exact ⟨proof, hproof, hverify⟩

end MerkleLog

end Orchestra
