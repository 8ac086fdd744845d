import Orchestra.Evidence.Merkle

/-!
# What a Merkle root binds

The digest of two digests is the digest of a text, the two with a bar between them, and the digest
of an event id is the digest of the id itself: leaves and inner nodes are not told apart
(`node_eq_leaf`). So a root is the digest of one text (`root_ofEvents`), and what it says about the
log is what that text says.

With a hash function without collisions the text determines the completed list of the ids, once the
number of layers is known (`root_injective_iff`); and the side letters of an accepted inclusion
proof lead down the tree of the log to the place the proof starts from, which need not be the place
it names (`verifyInclusionProof_sound_iff`).
-/

namespace Orchestra

open LayeredFold

namespace Merkle

variable {P : Primitives}

/-! ## Texts -/

theorem encode_append (a b : String) : encode (a ++ b) = encode a ++ encode b := by
  simp [encode]

theorem encode_injective : Function.Injective encode := by
  intro a b hab
  have hdata : a.toUTF8.data = b.toUTF8.data := Array.toList_inj.mp hab
  exact String.toByteArray_inj.mp (ByteArray.ext hdata)

/-- **An inner node is the digest of an event id**: of its two digests with a bar between them. -/
theorem node_eq_leaf (a b : String) : node P a b = leaf P (a ++ "|" ++ b) := by
  have hbar : encode "|" = [0x7c] := by decide
  rw [node, leaf, h, h, encode_append, encode_append, hbar]
  simp [List.intercalate]

/-- The text whose digest is the node above two texts. -/
def spell (P : Primitives) (a b : String) : String := leaf P a ++ "|" ++ leaf P b

theorem node_leaf (a b : String) : node P (leaf P a) (leaf P b) = leaf P (spell P a b) :=
  node_eq_leaf (leaf P a) (leaf P b)

theorem leaf_injective (hcf : P.CollisionFree) : Function.Injective (leaf P) := by
  intro a b hab
  have hbytes := hcf (hexdigest_injective hab)
  simp only [List.intercalate, List.intersperse_singleton, List.flatten_cons, List.flatten_nil,
    List.append_nil] at hbytes
  exact encode_injective hbytes

theorem bar_notMem_leaf (a : String) : '|' ∉ (leaf P a).toList := bar_notMem_hexdigest _

/-- A text with one bar comes apart in one way. -/
theorem bar_inj {s t a b : String} (ha : '|' ∉ a.toList) (hb : '|' ∉ b.toList)
    (heq : s ++ "|" ++ t = a ++ "|" ++ b) : s = a ∧ t = b := by
  have hlist : a.toList ++ '|' :: b.toList = s.toList ++ '|' :: t.toList := by
    have := congrArg String.toList heq.symm
    simpa using this
  obtain ⟨hleft, -, hright⟩ := (List.append_cons_inj_of_notMem ha hb).mp hlist
  exact ⟨(String.toList_inj.mp hleft).symm, (String.toList_inj.mp hright).symm⟩

theorem spell_injective (hcf : P.CollisionFree) : Function.Injective2 (spell P) := by
  intro a c b d hspell
  obtain ⟨hleft, hright⟩ := bar_inj (bar_notMem_leaf c) (bar_notMem_leaf d) hspell
  exact ⟨leaf_injective hcf hleft, leaf_injective hcf hright⟩

/-- A text that spells two digests is not empty. -/
theorem bar_mem_spell (a b : String) : '|' ∈ (spell P a b).toList := by
  simp [spell]

/-! ## Climbing -/

theorem climb_concat (current : String) (steps : List (String × String))
    (sibling position : String) : climb P current (steps ++ [(sibling, position)]) =
      if position = "L" then node P sibling (climb P current steps)
      else node P (climb P current steps) sibling := by
  rw [climb, List.foldl_append]
  rfl

/-- Where a climb ends determines where it started. -/
theorem climb_injective (hcf : P.CollisionFree) (steps : List (String × String)) :
    Function.Injective fun current ↦ climb P current steps := by
  intro a b hab
  induction steps using List.reverseRecOn with
  | nil => exact hab
  | append_singleton steps step ih =>
    obtain ⟨sibling, position⟩ := step
    refine ih ?_
    simp only [climb_concat, node_eq_leaf] at hab
    split at hab
    · exact (String.append_right_inj _).mp (leaf_injective hcf hab)
    · have htexts := leaf_injective hcf hab
      rw [String.append_assoc, String.append_assoc] at htexts
      exact (String.append_left_inj _).mp htexts

end Merkle

open Merkle

namespace MerkleLog

variable {P : Primitives}

/-! ## The root -/

/-- The text whose digest the root is; a log without events stands for the empty text. -/
def rootText (P : Primitives) (eventIds : List String) : String :=
  (collapse (spell P) eventIds).getD ""

theorem root_ofEvents (eventIds : List String) :
    (ofEvents P eventIds).root P = leaf P (rootText P eventIds) := by
  have hmap : (collapse (spell P) eventIds).map (leaf P)
      = collapse (node P) (eventIds.map (leaf P)) :=
    map_collapse (p := fun _ ↦ True) (fun _ _ _ _ ↦ trivial)
      (fun a b _ _ ↦ (node_leaf a b).symm) fun _ _ ↦ trivial
  rw [root, leaves_ofEvents, computeRoot, ← hmap, rootText]
  cases collapse (spell P) eventIds <;> rfl

/-- Equal roots are equal texts. -/
theorem root_eq_iff (hcf : P.CollisionFree) {xs ys : List String} :
    (ofEvents P xs).root P = (ofEvents P ys).root P ↔ rootText P xs = rootText P ys := by
  rw [root_ofEvents, root_ofEvents]
  exact (leaf_injective hcf).eq_iff

/-- One layer up, in texts, as far as there are layers. -/
def lift (P : Primitives) : List String → List String
  | [] => [""]
  | [a] => [a]
  | a :: b :: rest => pairUp (spell P) (a :: b :: rest)

theorem lift_of_one_lt {xs : List String} (hlen : 1 < xs.length) :
    lift P xs = pairUp (spell P) xs := by
  match xs, hlen with
  | _ :: _ :: _, _ => rfl

@[simp] theorem rootText_lift (xs : List String) : rootText P (lift P xs) = rootText P xs := by
  match xs with
  | [] => simp [rootText, lift]
  | [a] => rfl
  | a :: b :: rest => rw [rootText, lift, collapse_pairUp (by simp), ← rootText]

@[simp] theorem rootText_iterate_lift (d : ℕ) (xs : List String) :
    rootText P ((lift P)^[d] xs) = rootText P xs := by
  induction d generalizing xs with
  | zero => rfl
  | succ d ih => rw [Function.iterate_succ_apply, ih, rootText_lift]

theorem rootText_congr {xs ys : List String} (h : complete xs = complete ys) :
    rootText P xs = rootText P ys := by
  rw [rootText, ← collapse_complete, h, collapse_complete, ← rootText]

/-- Between logs with as many layers the text determines the completed list; from the log with more
layers the others are taken off first. -/
theorem complete_iterate_lift (hcf : P.CollisionFree) {xs ys : List String} (hxs : xs ≠ [])
    (hys : ys ≠ []) (d : ℕ) (hdepth : depth xs = depth ys + d)
    (htext : rootText P xs = rootText P ys) : complete ((lift P)^[d] xs) = complete ys := by
  induction d generalizing xs with
  | zero =>
    obtain ⟨a, ha⟩ := Option.isSome_iff_exists.mp (collapse_isSome (f := spell P) hxs)
    obtain ⟨b, hb⟩ := Option.isSome_iff_exists.mp (collapse_isSome (f := spell P) hys)
    rw [rootText, rootText, ha, hb, Option.getD_some, Option.getD_some] at htext
    exact complete_eq_of_collapse_eq (spell_injective hcf) hxs hys hdepth
      (ha.trans (htext ▸ hb.symm))
  | succ d ih =>
    have hlen : 1 < xs.length := by
      by_contra hnot
      rw [depth_eq_zero_iff.mpr (not_lt.mp hnot)] at hdepth
      omega
    have hlayer := depth_pairUp (spell P) hlen
    rw [Function.iterate_succ_apply]
    refine ih ?_ ?_ ?_
    · rw [lift_of_one_lt hlen]
      exact pairUp_ne_nil hxs
    · rw [lift_of_one_lt hlen]
      omega
    · rw [rootText_lift, htext]

/-- Only the log of the empty id has the text of the log without events. -/
theorem eq_singleton_of_rootText_eq {xs : List String} (hxs : xs ≠ [])
    (htext : rootText P xs = "") : xs = [""] := by
  match xs, hxs with
  | [a], _ => simpa [rootText] using htext
  | a :: b :: rest, _ =>
    obtain ⟨c, d, hspell⟩ := exists_collapse_eq (f := spell P) (l := a :: b :: rest) (by simp)
    rw [rootText, hspell, Option.getD_some] at htext
    have hbar := bar_mem_spell (P := P) c d
    rw [htext] at hbar
    exact absurd hbar (by decide)

/-- Two logs that one root stands for: as far as their lists are the same after completion, or after
some layers of one of them. -/
def Ambiguous (P : Primitives) (xs ys : List String) : Prop :=
  xs ≠ ys ∧ ∃ d, complete ((lift P)^[d] xs) = complete ys ∨ complete xs = complete ((lift P)^[d] ys)

theorem Ambiguous.rootText_eq {xs ys : List String} (h : Ambiguous P xs ys) :
    rootText P xs = rootText P ys := by
  obtain ⟨-, d, h | h⟩ := h
  · rw [← rootText_iterate_lift d xs, rootText_congr h]
  · rw [← rootText_iterate_lift d ys, rootText_congr h]

theorem ambiguous_of_rootText_eq (hcf : P.CollisionFree) {xs ys : List String} (hne : xs ≠ ys)
    (htext : rootText P xs = rootText P ys) : Ambiguous P xs ys := by
  refine ⟨hne, ?_⟩
  by_cases hxs : xs = []
  · have hys : ys = [""] := by
      refine eq_singleton_of_rootText_eq (hxs ▸ hne.symm) (htext.symm.trans ?_)
      rw [hxs]
      simp [rootText]
    exact ⟨1, .inl (by rw [hxs, hys]; rfl)⟩
  by_cases hys : ys = []
  · have hxs' : xs = [""] := by
      refine eq_singleton_of_rootText_eq hxs (htext.trans ?_)
      rw [hys]
      simp [rootText]
    exact ⟨1, .inr (by rw [hys, hxs']; rfl)⟩
  rcases le_total (depth ys) (depth xs) with hle | hle
  · exact ⟨depth xs - depth ys, .inl (complete_iterate_lift hcf hxs hys _ (by omega) htext)⟩
  · exact ⟨depth ys - depth xs,
      .inr (complete_iterate_lift hcf hys hxs _ (by omega) htext.symm).symm⟩

/-- **Exactly when the root binds the log.** Equal roots mean equal logs if and only if the two are
not among those that padding, or an id that spells two digests, makes the same. -/
theorem root_injective_iff (P : Primitives) (hcf : P.CollisionFree) (xs ys : List String) :
    ((ofEvents P xs).root P = (ofEvents P ys).root P → xs = ys) ↔ ¬Ambiguous P xs ys := by
  rw [root_eq_iff hcf]
  constructor
  · intro hbinds hamb
    exact hamb.1 (hbinds hamb.rootText_eq)
  · intro hamb htext
    by_contra hne
    exact hamb (ambiguous_of_rootText_eq hcf hne htext)

theorem root_ne_of_first_event :
    (ofEvents samplePrimitives []).root samplePrimitives
      ≠ (ofEvents samplePrimitives ["a"]).root samplePrimitives := by
  intro hroot
  have hamb : ¬Ambiguous samplePrimitives [] ["a"] := by
    intro hamb
    have htext := hamb.rootText_eq
    simp [rootText] at htext
  exact absurd ((root_injective_iff samplePrimitives samplePrimitives_collisionFree [] ["a"]).mpr
    hamb hroot) (by simp)

/-- Appending the last of three events again does not change the root. -/
theorem root_append_again :
    samplePrimitives.CollisionFree ∧
      (ofEvents samplePrimitives ["a", "b", "c"]).root samplePrimitives
        = (ofEvents samplePrimitives ["a", "b", "c", "c"]).root samplePrimitives ∧
      ["a", "b", "c"] ≠ ["a", "b", "c", "c"] := by
  refine ⟨samplePrimitives_collisionFree, ?_, by decide⟩
  have hcomplete : complete ["a", "b", "c"] = complete ["a", "b", "c", "c"] := by
    simp [complete, collapse, pairUp]
  rw [root_ofEvents, root_ofEvents, rootText_congr hcomplete]

/-- Logs of as many events have different roots. -/
theorem eq_of_length_eq (hcf : P.CollisionFree) {xs ys : List String}
    (hlen : xs.length = ys.length) (hroot : (ofEvents P xs).root P = (ofEvents P ys).root P) :
    xs = ys := by
  by_cases hxs : xs = []
  · rw [hxs] at hlen ⊢
    exact (List.length_eq_zero_iff.mp hlen.symm).symm
  have hys : ys ≠ [] := fun hys ↦ hxs (List.length_eq_zero_iff.mp (hlen.trans (by simp [hys])))
  have hdepth : depth xs = depth ys + 0 := by rw [depth, depth, hlen]; rfl
  have hcomplete := complete_iterate_lift hcf hxs hys 0 hdepth ((root_eq_iff hcf).mp hroot)
  have hprefix : xs <+: complete ys := hcomplete ▸ prefix_complete xs
  exact (List.prefix_of_prefix_length_le hprefix (prefix_complete ys) hlen.le).eq_of_length hlen

/-- Above the ids every text has a bar. -/
theorem bar_mem_iterate_lift {xs : List String} {d : ℕ} (hd : d < depth xs) :
    ∀ x ∈ (lift P)^[d + 1] xs, '|' ∈ x.toList := by
  have hlen : 1 < xs.length := by
    by_contra hnot
    rw [depth_eq_zero_iff.mpr (not_lt.mp hnot)] at hd
    omega
  rw [Function.iterate_succ_apply, lift_of_one_lt hlen]
  induction d generalizing xs with
  | zero =>
    intro x hx
    obtain ⟨a, b, rfl⟩ := exists_of_mem_pairUp hx
    exact bar_mem_spell a b
  | succ d ih =>
    have hlayer := depth_pairUp (spell P) hlen
    have hlen' : 1 < (pairUp (spell P) xs).length := by
      by_contra hnot
      rw [depth_eq_zero_iff.mpr (not_lt.mp hnot)] at hlayer
      omega
    rw [Function.iterate_succ_apply, lift_of_one_lt hlen']
    exact ih (by omega) hlen'

theorem depth_le_of_complete_eq {xs ys : List String} (hcf : P.CollisionFree) (hxs : xs ≠ [])
    (hys : ys ≠ []) (hbar : ∀ y ∈ ys, '|' ∉ y.toList) (htext : rootText P xs = rootText P ys) :
    depth xs ≤ depth ys := by
  by_contra hlt
  obtain ⟨d, hd⟩ := Nat.exists_eq_add_of_lt (not_le.mp hlt)
  have hcomplete := complete_iterate_lift hcf hxs hys (d + 1) hd htext
  have hhead := head?_eq_of_complete_eq hys hcomplete
  match ys, hys with
  | y :: ys, _ =>
    have hmem : y ∈ (lift P)^[d + 1] xs := List.mem_of_head? hhead
    exact hbar y List.mem_cons_self (bar_mem_iterate_lift (by omega) y hmem)

/-- For ids without bars, such as UUIDs, only padding makes two logs the same. -/
theorem ambiguous_iff_of_noBar (hcf : P.CollisionFree) {xs ys : List String} (hxs : xs ≠ [])
    (hys : ys ≠ []) (hxsBar : ∀ x ∈ xs, '|' ∉ x.toList) (hysBar : ∀ y ∈ ys, '|' ∉ y.toList) :
    Ambiguous P xs ys ↔ xs ≠ ys ∧ complete xs = complete ys := by
  constructor
  · intro hamb
    have htext := hamb.rootText_eq
    have hdepth : depth xs = depth ys :=
      (depth_le_of_complete_eq hcf hxs hys hysBar htext).antisymm
        (depth_le_of_complete_eq hcf hys hxs hxsBar htext.symm)
    exact ⟨hamb.1, complete_iterate_lift hcf hxs hys 0 hdepth htext⟩
  · rintro ⟨hne, hcomplete⟩
    exact ⟨hne, 0, .inl hcomplete⟩

end MerkleLog

/-! ## Inclusion proofs -/

/-- The tree of a log, over its event ids. -/
inductive EventTree where
  | leaf (eventId : String)
  | node (left right : EventTree)
  deriving DecidableEq

namespace EventTree

/-- The text whose digest the tree has. -/
def text (P : Primitives) : EventTree → String
  | leaf eventId => eventId
  | node left right => spell P (left.text P) (right.text P)

/-- The tree of these events; a log without events has none. -/
def ofEvents (eventIds : List String) : Option EventTree := collapse node (eventIds.map leaf)

/-- The text spelled by climbing from an event id; the steps are from the top down. -/
def overhang (P : Primitives) : List (String × String) → String → String
  | [], eventId => eventId
  | (sibling, position) :: below, eventId =>
    let current := Merkle.leaf P (overhang P below eventId)
    if position = "L" then sibling ++ "|" ++ current else current ++ "|" ++ sibling

/-- The steps lead from the tree down to this event id. Where they end above the leaves, or go on
below one, only an id that spells digests is led to. -/
def LeadsTo (P : Primitives) : EventTree → List (String × String) → String → Prop
  | leaf atLeaf, steps, eventId => atLeaf = overhang P steps eventId
  | node left right, [], eventId => spell P (left.text P) (right.text P) = eventId
  | node left right, (_, position) :: below, eventId =>
    if position = "L" then right.LeadsTo P below eventId else left.LeadsTo P below eventId

variable {P : Primitives}

theorem text_ofEvents (eventIds : List String) :
    (ofEvents eventIds).map (text P) = collapse (spell P) eventIds := by
  have hmap := map_collapse (f := node) (k := spell P) (g := text P) (p := fun _ ↦ True)
    (l := eventIds.map leaf) (fun _ _ _ _ ↦ trivial) (fun _ _ _ _ ↦ rfl) fun _ _ ↦ trivial
  rw [ofEvents, hmap, List.map_map]
  congr 1
  exact List.map_id _

/-- Climbing from the digest of an id ends in the digest of what it spells. -/
theorem climb_leaf (steps : List (String × String)) (eventId : String) :
    climb P (Merkle.leaf P eventId) steps = Merkle.leaf P (overhang P steps.reverse eventId) := by
  induction steps using List.reverseRecOn with
  | nil => rfl
  | append_singleton steps step ih =>
    obtain ⟨sibling, position⟩ := step
    rw [climb_concat, ih, List.reverse_append, List.reverse_singleton, List.singleton_append,
      overhang, node_eq_leaf, node_eq_leaf]
    split <;> rfl

/-- What the last step of an accepted proof joins are the two halves of the tree. -/
theorem climb_halves (hcf : P.CollisionFree) {left right : EventTree}
    {current sibling position : String}
    (hjoin : (if position = "L" then Merkle.node P sibling current
      else Merkle.node P current sibling) = Merkle.leaf P ((node left right).text P)) :
    current = Merkle.leaf P ((if position = "L" then right else left).text P) := by
  by_cases hposition : position = "L"
  · rw [if_pos hposition, node_eq_leaf] at hjoin
    rw [if_pos hposition]
    exact (bar_inj (bar_notMem_leaf _) (bar_notMem_leaf _) (leaf_injective hcf hjoin)).2
  · rw [if_neg hposition, node_eq_leaf] at hjoin
    rw [if_neg hposition]
    exact (bar_inj (bar_notMem_leaf _) (bar_notMem_leaf _) (leaf_injective hcf hjoin)).1

/-- **Where an accepted climb starts.** It starts from the digest of an id exactly when its steps,
read from the top, lead down to that id. -/
theorem eq_leaf_iff_leadsTo (hcf : P.CollisionFree) {t : EventTree} {steps : List (String × String)}
    {leafHash : String} (hclimb : climb P leafHash steps = Merkle.leaf P (t.text P))
    (eventId : String) : leafHash = Merkle.leaf P eventId ↔ t.LeadsTo P steps.reverse eventId := by
  induction steps using List.reverseRecOn generalizing t with
  | nil =>
    have hstart : leafHash = Merkle.leaf P (t.text P) := hclimb
    rw [hstart, (leaf_injective hcf).eq_iff]
    cases t <;> rfl
  | append_singleton steps step ih =>
    obtain ⟨sibling, position⟩ := step
    cases t with
    | leaf atLeaf =>
      rw [LeadsTo, ← (leaf_injective hcf).eq_iff (a := atLeaf), ← climb_leaf]
      change _ ↔ Merkle.leaf P ((leaf atLeaf).text P) = _
      rw [← hclimb]
      exact (climb_injective hcf _).eq_iff.symm
    | node left right =>
      rw [climb_concat] at hclimb
      rw [List.reverse_append, List.reverse_singleton, List.singleton_append, LeadsTo,
        ih (climb_halves hcf hclimb)]
      split <;> rfl

/-! ### Ids without bars -/

/-- Where side letters lead, from the top down. -/
def follow : EventTree → List String → Option EventTree
  | t, [] => some t
  | leaf _, _ :: _ => none
  | node left right, position :: below =>
    if position = "L" then right.follow below else left.follow below

/-- No id in the tree has a bar. -/
def NoBar : EventTree → Prop
  | leaf eventId => '|' ∉ eventId.toList
  | node left right => left.NoBar ∧ right.NoBar

theorem noBar_ofEvents {eventIds : List String} (hbar : ∀ x ∈ eventIds, '|' ∉ x.toList)
    {t : EventTree} (ht : ofEvents eventIds = some t) : t.NoBar := by
  refine forall_collapse (fun _ _ hleft hright ↦ ⟨hleft, hright⟩) ?_ t ht
  intro u hu
  obtain ⟨eventId, hmem, rfl⟩ := List.mem_map.mp hu
  exact hbar eventId hmem

theorem bar_mem_overhang (step : String × String) (below : List (String × String))
    (eventId : String) : '|' ∈ (overhang P (step :: below) eventId).toList := by
  rw [overhang]
  split <;> simp

/-- Steps lead to an id exactly when their side letters end at its leaf. -/
theorem leadsTo_iff_follow {t : EventTree} (ht : t.NoBar) {eventId : String}
    (hbar : '|' ∉ eventId.toList) (steps : List (String × String)) :
    t.LeadsTo P steps eventId ↔ t.follow (steps.map Prod.snd) = some (leaf eventId) := by
  induction t generalizing steps with
  | leaf atLeaf =>
    cases steps with
    | nil => simp [LeadsTo, overhang, follow]
    | cons step below =>
      have hne : atLeaf ≠ overhang P (step :: below) eventId := by
        rintro rfl
        exact ht (bar_mem_overhang step below eventId)
      simp [LeadsTo, follow, hne]
  | node left right ihl ihr =>
    cases steps with
    | nil =>
      have hne : spell P (left.text P) (right.text P) ≠ eventId := by
        rintro rfl
        exact hbar (bar_mem_spell _ _)
      simp [LeadsTo, follow, hne]
    | cons step below =>
      rw [LeadsTo, List.map_cons, follow, ihl ht.1, ihr ht.2]
      split <;> rfl

end EventTree

namespace MerkleLog

variable {P : Primitives}

/-- The index a proof names is that of an event its steps lead to. -/
def PointsAt (P : Primitives) (eventIds : List String) (proof : MerkleProof) : Prop :=
  ∃ (i : ℕ) (eventId : String) (t : EventTree),
    proof.leafIndex = i ∧ eventIds[i]? = some eventId ∧ EventTree.ofEvents eventIds = some t ∧
      t.LeadsTo P (proof.siblings.zip proof.positions).reverse eventId

theorem leaf_text_ofEvents {eventIds : List String} {t : EventTree}
    (ht : EventTree.ofEvents eventIds = some t) :
    (ofEvents P eventIds).root P = leaf P (t.text P) := by
  have htext := EventTree.text_ofEvents (P := P) eventIds
  rw [ht, Option.map_some] at htext
  rw [root_ofEvents, rootText, ← htext, Option.getD_some]

theorem exists_ofEvents {eventIds : List String} {i : ℕ} {eventId : String}
    (hi : eventIds[i]? = some eventId) : ∃ t, EventTree.ofEvents eventIds = some t := by
  refine Option.isSome_iff_exists.mp (collapse_isSome ?_)
  rintro hnil
  rw [List.map_eq_nil_iff.mp hnil] at hi
  cases hi

/-- **Exactly when an accepted proof proves inclusion.** A proof that carries the root of a log and
is accepted has a valid index and the leaf at that index if and only if its steps lead to the event
it names. The verifier does not look at the index, and accepts a path that starts at an inner
node. -/
theorem verifyInclusionProof_sound_iff (P : Primitives) (hcf : P.CollisionFree)
    (eventIds : List String) (proof : MerkleProof)
    (hroot : proof.root = (ofEvents P eventIds).root P)
    (hverify : verifyInclusionProof P proof = true) :
    (∃ i : ℕ, proof.leafIndex = i ∧ (ofEvents P eventIds).leaves[i]? = some proof.leafHash) ↔
      PointsAt P eventIds proof := by
  rw [verifyInclusionProof, beq_iff_eq, hroot] at hverify
  constructor
  · rintro ⟨i, hindex, hleaf⟩
    rw [leaves_ofEvents, List.getElem?_map, Option.map_eq_some_iff] at hleaf
    obtain ⟨eventId, hi, hhash⟩ := hleaf
    obtain ⟨t, ht⟩ := exists_ofEvents hi
    rw [leaf_text_ofEvents ht] at hverify
    exact ⟨i, eventId, t, hindex, hi, ht,
      (EventTree.eq_leaf_iff_leadsTo hcf hverify eventId).mp hhash.symm⟩
  · rintro ⟨i, eventId, t, hindex, hi, ht, hleads⟩
    rw [leaf_text_ofEvents ht] at hverify
    have hhash := (EventTree.eq_leaf_iff_leadsTo hcf hverify eventId).mpr hleads
    refine ⟨i, hindex, ?_⟩
    rw [leaves_ofEvents, List.getElem?_map, hi, Option.map_some, hhash]

theorem verifyInclusionProof_sound_iff_single :
    PointsAt samplePrimitives ["a"]
      { leafIndex := 0, leafHash := leaf samplePrimitives "a", siblings := [],
        root := (ofEvents samplePrimitives ["a"]).root samplePrimitives } := by
  refine (verifyInclusionProof_sound_iff samplePrimitives samplePrimitives_collisionFree ["a"] _ rfl
    ?_).mp ⟨0, rfl, ?_⟩
  · rw [verifyInclusionProof, beq_iff_eq, root_ofEvents]
    simp [rootText, climb]
  · rw [leaves_ofEvents]
    rfl

/-- The index of an accepted proof need not be that of an event. -/
theorem verifyInclusionProof_ignores_index :
    samplePrimitives.CollisionFree ∧ ∃ proof : MerkleProof,
      proof.root = (ofEvents samplePrimitives ["a"]).root samplePrimitives ∧
      verifyInclusionProof samplePrimitives proof = true ∧
      ¬∃ i : ℕ, proof.leafIndex = i ∧
        (ofEvents samplePrimitives ["a"]).leaves[i]? = some proof.leafHash := by
  refine ⟨samplePrimitives_collisionFree,
    { leafIndex := 1, leafHash := leaf samplePrimitives "a", siblings := [],
      root := (ofEvents samplePrimitives ["a"]).root samplePrimitives }, rfl, ?_, ?_⟩
  · rw [verifyInclusionProof, beq_iff_eq, root_ofEvents]
    simp [rootText, climb]
  · rintro ⟨i, hindex, hleaf⟩
    have hone : (1 : ℤ) = i := hindex
    obtain rfl : i = 1 := by omega
    rw [leaves_ofEvents] at hleaf
    cases hleaf

/-- For ids without bars the side letters have to end at the leaf of the event named, neither above
it nor below. -/
theorem pointsAt_iff_of_noBar {eventIds : List String} (hbar : ∀ x ∈ eventIds, '|' ∉ x.toList)
    (proof : MerkleProof) :
    PointsAt P eventIds proof ↔ ∃ (i : ℕ) (eventId : String) (t : EventTree),
      proof.leafIndex = i ∧ eventIds[i]? = some eventId ∧ EventTree.ofEvents eventIds = some t ∧
        t.follow ((proof.siblings.zip proof.positions).reverse.map Prod.snd)
          = some (.leaf eventId) := by
  constructor
  · rintro ⟨i, eventId, t, hindex, hi, ht, hleads⟩
    exact ⟨i, eventId, t, hindex, hi, ht, (EventTree.leadsTo_iff_follow
      (EventTree.noBar_ofEvents hbar ht) (hbar _ (List.mem_of_getElem? hi)) _).mp hleads⟩
  · rintro ⟨i, eventId, t, hindex, hi, ht, hfollow⟩
    exact ⟨i, eventId, t, hindex, hi, ht, (EventTree.leadsTo_iff_follow
      (EventTree.noBar_ofEvents hbar ht) (hbar _ (List.mem_of_getElem? hi)) _).mpr hfollow⟩

end MerkleLog

end Orchestra
