import Orchestra.Foundation.TopologicalOrder

/-!
# Work done in sequence

A party works through a list of items. Some of them are gates, which are passed. At the others an
attempt is started, handed over at most once, and then finished or failed. Only after an item has
been finished or passed is the next one begun, and the party can stop anywhere. `Course` says this
of the marks that are left in a log.

What one attempt leaves is known from the course (`Course.marksOf_cases`), and so is what comes
before an item is begun (`Course.completed_before`). A course is put together from completed items
(`Done`) and what follows them.
-/

namespace Sequential

variable {ι κ : Type*}

/-- What the attempt `k`, or passing an item, leaves in the log. -/
inductive Mark (ι κ : Type*) where
  | start (i : ι) (k : κ)
  | handOver (k : κ)
  | finish (k : κ)
  | fail (k : κ)
  | pass (i : ι)

namespace Mark

def attempt? : Mark ι κ → Option κ
  | .start _ k => some k
  | .handOver k => some k
  | .finish k => some k
  | .fail k => some k
  | .pass _ => none

/-- The item that is begun. -/
def item? : Mark ι κ → Option ι
  | .start i _ => some i
  | .pass i => some i
  | _ => none

end Mark

/-- How an attempt ends, if it does. -/
inductive Ending (k : κ) : List (Mark ι κ) → Prop
  | open_ : Ending k []
  | failed : Ending k [.fail k]
  | finished : Ending k [.finish k]

/-- The marks of an attempt: its start, whether it was handed over, and its end. -/
def attempt (i : ι) (k : κ) (handed : Bool) (last : List (Mark ι κ)) : List (Mark ι κ) :=
  .start i k :: ((if handed then [.handOver k] else []) ++ last)

/-- None of the marks is of the attempt `k`. -/
def Fresh (k : κ) (ms : List (Mark ι κ)) : Prop := ∀ m ∈ ms, m.attempt? ≠ some k

/-- The items are worked on in their order, each after the one before is completed. -/
inductive Course (gate : ι → Prop) : List ι → List (Mark ι κ) → Prop
  | idle (is : List ι) : Course gate is []
  | stopped (i : ι) (is : List ι) (k : κ) (handed : Bool) {last : List (Mark ι κ)} (hi : ¬gate i)
      (hlast : Ending k last) : Course gate (i :: is) (attempt i k handed last)
  | finished (i : ι) (k : κ) (handed : Bool) {is : List ι} {ms : List (Mark ι κ)} (hi : ¬gate i)
      (later : Course gate is ms) (fresh : Fresh k ms) :
      Course gate (i :: is) (attempt i k handed [.finish k] ++ ms)
  | passed (i : ι) {is : List ι} {ms : List (Mark ι κ)} (hi : gate i) (later : Course gate is ms) :
      Course gate (i :: is) (.pass i :: ms)

/-- All the items are completed. -/
inductive Done (gate : ι → Prop) : List ι → List (Mark ι κ) → Prop
  | nil : Done gate [] []
  | finished (i : ι) (k : κ) (handed : Bool) {is : List ι} {ms : List (Mark ι κ)} (hi : ¬gate i)
      (later : Done gate is ms) (fresh : Fresh k ms) :
      Done gate (i :: is) (attempt i k handed [.finish k] ++ ms)
  | passed (i : ι) {is : List ι} {ms : List (Mark ι κ)} (hi : gate i) (later : Done gate is ms) :
      Done gate (i :: is) (.pass i :: ms)

variable {gate : ι → Prop} {is is' : List ι} {ms ms' : List (Mark ι κ)} {i : ι} {k : κ}

theorem attempt?_of_mem {handed : Bool} {last : List (Mark ι κ)} (hlast : Ending k last)
    {m : Mark ι κ} (hm : m ∈ attempt i k handed last) : m.attempt? = some k := by
  rcases List.mem_cons.mp hm with rfl | hm
  · rfl
  rcases List.mem_append.mp hm with hm | hm
  · cases handed with
    | true =>
      rw [List.mem_singleton.mp hm]
      rfl
    | false => cases hm
  · cases hlast with
    | open_ => cases hm
    | failed =>
      rw [List.mem_singleton.mp hm]
      rfl
    | finished =>
      rw [List.mem_singleton.mp hm]
      rfl

/-! ## Putting courses together -/

/-- The attempts of the first marks are not among those of the second. -/
def Apart (ms ms' : List (Mark ι κ)) : Prop := ∀ m ∈ ms, ∀ k, m.attempt? = some k → Fresh k ms'

theorem Apart.of_append {ms₀ : List (Mark ι κ)} (h : Apart (ms₀ ++ ms) ms') : Apart ms ms' :=
  fun m hm ↦ h m (List.mem_append_right _ hm)

/-- An attempt that is apart from what follows the marks after it is fresh for both. -/
theorem fresh_append {handed : Bool} {last : List (Mark ι κ)} (fresh : Fresh k ms)
    (hapart : Apart (attempt i k handed last ++ ms) ms') : Fresh k (ms ++ ms') := by
  intro m hm
  rcases List.mem_append.mp hm with hm | hm
  · exact fresh m hm
  · exact hapart (.start i k) (List.mem_append_left _ List.mem_cons_self) k rfl m hm

/-- What follows completed items. -/
theorem Done.append (h : Done gate is ms) (h' : Course gate is' ms') (hapart : Apart ms ms') :
    Course gate (is ++ is') (ms ++ ms') := by
  induction h with
  | nil => exact h'
  | finished i k handed hi later fresh ih =>
    rw [List.cons_append, List.append_assoc]
    exact .finished i k handed hi (ih hapart.of_append) (fresh_append fresh hapart)
  | passed i hi later ih => exact .passed i hi (ih fun m hm ↦ hapart m (List.mem_cons_of_mem _ hm))

theorem Done.append_done (h : Done gate is ms) (h' : Done gate is' ms') (hapart : Apart ms ms') :
    Done gate (is ++ is') (ms ++ ms') := by
  induction h with
  | nil => exact h'
  | finished i k handed hi later fresh ih =>
    rw [List.cons_append, List.append_assoc]
    exact .finished i k handed hi (ih hapart.of_append) (fresh_append fresh hapart)
  | passed i hi later ih => exact .passed i hi (ih fun m hm ↦ hapart m (List.mem_cons_of_mem _ hm))

/-- An attempt that is fresh for the marks before it. -/
theorem apart_attempt {handed : Bool} {last : List (Mark ι κ)} (hlast : Ending k last)
    (fresh : Fresh k ms) : Apart ms (attempt i k handed last) := by
  intro m hm l hl m' hm'
  rw [attempt?_of_mem hlast hm']
  rintro ⟨⟩
  exact fresh m hm hl

/-- Completed items, and an attempt at the next one. -/
theorem Done.stopped (h : Done gate is ms) (i : ι) (is' : List ι) {handed : Bool}
    {last : List (Mark ι κ)} (hi : ¬gate i) (hlast : Ending k last) (fresh : Fresh k ms) :
    Course gate (is ++ i :: is') (ms ++ attempt i k handed last) :=
  h.append (.stopped i is' k handed hi hlast) (apart_attempt hlast fresh)

/-- Completed items, and the next one finished as well. -/
theorem Done.concat (h : Done gate is ms) (i : ι) {handed : Bool} (hi : ¬gate i)
    (fresh : Fresh k ms) : Done gate (is ++ [i]) (ms ++ attempt i k handed [.finish k]) := by
  have hlast : Done gate [i] (attempt i k handed [.finish k] ++ []) :=
    .finished i k handed hi .nil fun _ hm ↦ nomatch hm
  rw [List.append_nil] at hlast
  exact h.append_done hlast (apart_attempt .finished fresh)

/-- Completed items, and the next one passed. -/
theorem Done.pass (h : Done gate is ms) (i : ι) (hi : gate i) :
    Done gate (is ++ [i]) (ms ++ [.pass i]) := by
  refine h.append_done (.passed i hi .nil) fun m _ l _ m' hm' ↦ ?_
  rw [List.mem_singleton.mp hm']
  exact nofun

/-- Completed items, with others left. -/
theorem Done.idle (h : Done gate is ms) (is' : List ι) : Course gate (is ++ is') ms := by
  simpa using h.append (.idle is') fun _ _ _ _ _ hm ↦ nomatch hm

/-! ## What a course says -/

theorem filterMap_attempt {handed : Bool} {last : List (Mark ι κ)} (hlast : Ending k last) :
    (attempt i k handed last).filterMap Mark.item? = [i] := by
  cases handed <;> cases hlast <;> rfl

/-- The items are begun in their order, none of them twice. -/
theorem Course.begun_prefix (h : Course gate is ms) : ms.filterMap Mark.item? <+: is := by
  induction h with
  | idle is => exact List.nil_prefix
  | stopped i is k handed hi hlast =>
    rw [filterMap_attempt hlast]
    exact List.cons_prefix_cons.mpr ⟨rfl, List.nil_prefix⟩
  | finished i k handed hi later fresh ih =>
    rw [List.filterMap_append, filterMap_attempt .finished]
    exact List.cons_prefix_cons.mpr ⟨rfl, ih⟩
  | passed i hi later ih => exact List.cons_prefix_cons.mpr ⟨rfl, ih⟩

section Attempts

variable [DecidableEq κ]

/-- The marks of one attempt. -/
def marksOf (k : κ) (ms : List (Mark ι κ)) : List (Mark ι κ) :=
  ms.filter fun m ↦ decide (m.attempt? = some k)

theorem marksOf_append (k : κ) (ms ms' : List (Mark ι κ)) :
    marksOf k (ms ++ ms') = marksOf k ms ++ marksOf k ms' := List.filter_append ..

theorem marksOf_attempt {handed : Bool} {last : List (Mark ι κ)} (hlast : Ending k last) :
    marksOf k (attempt i k handed last) = attempt i k handed last :=
  List.filter_eq_self.mpr fun _ hm ↦ decide_eq_true (attempt?_of_mem hlast hm)

theorem marksOf_fresh (h : Fresh k ms) : marksOf k ms = [] :=
  List.filter_eq_nil_iff.mpr fun m hm ↦ by simpa using h m hm

omit [DecidableEq κ] in
theorem fresh_of_ne {l : κ} (hne : k ≠ l) {handed : Bool} {last : List (Mark ι κ)}
    (hlast : Ending l last) : Fresh k (attempt i l handed last) := by
  intro m hm heq
  rw [attempt?_of_mem hlast hm] at heq
  exact hne (Option.some.inj heq).symm

/-- **What an attempt leaves in the log**: nothing, or its start, at most one hand-over and at most
one end, in this order. -/
theorem Course.marksOf_cases (h : Course gate is ms) (k : κ) :
    marksOf k ms = [] ∨ ∃ i handed last, Ending k last ∧ marksOf k ms = attempt i k handed last := by
  induction h with
  | idle is => exact Or.inl rfl
  | stopped i is l handed hi hlast =>
    by_cases hl : k = l
    · subst hl
      exact Or.inr ⟨i, handed, _, hlast, marksOf_attempt hlast⟩
    · exact Or.inl (marksOf_fresh (fresh_of_ne hl hlast))
  | finished i l handed hi later fresh ih =>
    rw [marksOf_append]
    by_cases hl : k = l
    · subst hl
      rw [marksOf_attempt .finished, marksOf_fresh fresh, List.append_nil]
      exact Or.inr ⟨i, handed, _, .finished, rfl⟩
    · rw [marksOf_fresh (fresh_of_ne hl .finished), List.nil_append]
      exact ih
  | passed i hi later ih => exact ih

/-- A gate was passed, and an attempt at another item was finished. -/
def Completed (gate : ι → Prop) (i : ι) (ms : List (Mark ι κ)) : Prop :=
  gate i ∧ .pass i ∈ ms ∨ ¬gate i ∧ ∃ k handed, marksOf k ms = attempt i k handed [.finish k]

theorem Completed.after {later : List (Mark ι κ)} (h : Completed gate i later)
    (hfresh : ∀ k, marksOf k later ≠ [] → Fresh k ms) : Completed gate i (ms ++ later) := by
  rcases h with ⟨hi, hpass⟩ | ⟨hi, k, handed, hmarks⟩
  · exact Or.inl ⟨hi, List.mem_append_right _ hpass⟩
  · refine Or.inr ⟨hi, k, handed, ?_⟩
    rw [marksOf_append, marksOf_fresh (hfresh k (by rw [hmarks]; exact nofun)), hmarks]
    rfl

omit [DecidableEq κ] in
/-- An attempt begins one item, at its first mark. -/
theorem begin_of_attempt {handed : Bool} {last : List (Mark ι κ)} (hlast : Ending k last)
    {pre post : List (Mark ι κ)} {m : Mark ι κ} {j : ι} (hm : m.item? = some j)
    (heq : attempt i k handed last ++ ms = pre ++ m :: post) :
    pre = [] ∧ j = i ∨ ∃ pre', pre = attempt i k handed last ++ pre' ∧ ms = pre' ++ m :: post := by
  cases pre with
  | nil =>
    obtain ⟨rfl, -⟩ := List.cons.inj heq
    exact Or.inl ⟨rfl, (Option.some.inj hm).symm⟩
  | cons first pre =>
    refine Or.inr ?_
    obtain ⟨rfl, htail⟩ := List.cons.inj heq
    obtain ⟨pre', rfl, hms⟩ | ⟨rest, htail, hpost⟩ := List.append_eq_append_iff.mp htail
    · exact ⟨pre', rfl, hms⟩
    cases rest with
    | nil =>
      rw [List.append_nil] at htail
      exact ⟨[], by rw [List.append_nil, ← htail]; rfl, hpost.symm⟩
    | cons m' rest =>
      obtain ⟨rfl, -⟩ := List.cons.inj hpost
      -- the marks after the first one begin nothing
      have hmem : m ∈ (if handed then [.handOver k] else []) ++ last := by
        rw [htail]
        exact List.mem_append_right _ List.mem_cons_self
      cases handed <;> cases hlast <;> simp at hmem
      all_goals rcases hmem with rfl | rfl <;> cases hm

/-- **When an item is begun, the items before it are completed.** -/
theorem Course.completed_before (h : Course gate is ms) {pre post : List (Mark ι κ)} {m : Mark ι κ}
    {j : ι} (hm : m.item? = some j) (heq : ms = pre ++ m :: post) :
    ∃ before after, is = before ++ j :: after ∧ ∀ i ∈ before, Completed gate i pre := by
  induction h generalizing pre with
  | idle is => cases pre <;> cases heq
  | stopped i is k handed hi hlast =>
    obtain ⟨-, rfl⟩ | ⟨pre', -, hnone⟩ :=
      begin_of_attempt hlast hm ((List.append_nil _).trans heq)
    · exact ⟨[], is, rfl, fun _ hi ↦ nomatch hi⟩
    · cases pre' <;> cases hnone
  | @finished i k handed is ms hi later fresh ih =>
    obtain ⟨-, rfl⟩ | ⟨pre', rfl, rfl⟩ := begin_of_attempt .finished hm heq
    · exact ⟨[], is, rfl, fun _ hi ↦ nomatch hi⟩
    obtain ⟨before, after, rfl, hbefore⟩ := ih rfl
    have hfresh : Fresh k pre' := fun m hm ↦ fresh m (List.mem_append_left _ hm)
    refine ⟨i :: before, after, rfl, fun i' hi' ↦ ?_⟩
    rcases List.mem_cons.mp hi' with rfl | hi'
    · refine Or.inr ⟨hi, k, handed, ?_⟩
      rw [marksOf_append, marksOf_attempt .finished, marksOf_fresh hfresh, List.append_nil]
    · refine (hbefore i' hi').after fun l hl ↦ fresh_of_ne ?_ .finished
      rintro rfl
      exact hl (marksOf_fresh hfresh)
  | @passed i is ms hi later ih =>
    cases pre with
    | nil =>
      obtain ⟨rfl, rfl⟩ := List.cons.inj heq
      obtain rfl := Option.some.inj hm
      exact ⟨[], is, rfl, fun _ hi ↦ nomatch hi⟩
    | cons first pre =>
      obtain ⟨rfl, rfl⟩ := List.cons.inj heq
      obtain ⟨before, after, rfl, hbefore⟩ := ih rfl
      refine ⟨i :: before, after, rfl, fun i' hi' ↦ ?_⟩
      rcases List.mem_cons.mp hi' with rfl | hi'
      · exact Or.inl ⟨hi, List.mem_cons_self⟩
      · rw [← List.singleton_append]
        refine (hbefore i' hi').after fun l _ m hm ↦ ?_
        rw [List.mem_singleton.mp hm]
        exact nofun

/-- Where the list of the items is an order of a graph, an item is begun only after its predecessors
are completed. -/
theorem Course.predecessors_completed [DecidableEq ι] {E : List (ι × ι)} (h : Course gate is ms)
    (hordered : EdgeList.Ordered E is) {pre post : List (Mark ι κ)} {m : Mark ι κ} {i j : ι}
    (hm : m.item? = some j) (heq : ms = pre ++ m :: post) (hij : EdgeList.Adj E i j) :
    Completed gate i pre := by
  obtain ⟨before, after, his, hbefore⟩ := h.completed_before hm heq
  exact hbefore i (hordered before j after his i hij)

end Attempts

end Sequential
