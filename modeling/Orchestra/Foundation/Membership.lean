import Orchestra.Foundation.Transition

/-!
# What has been added and not removed

A system keeps a collection. Each of its calls adds some items and removes others; an item that a
call adds is there after it, and one that is there stays until a call removes it. Which items are
there at the end of a run is then decided by the calls alone: those that were added at some point
and not removed from there on (`mem_run_iff`).
-/

namespace Transition

variable {σ α β : Type*} {step : σ → α → σ} {In : σ → β → Prop} {adds removes : σ → α → β → Prop}

/-- What one call does to the collection. -/
def KeepsTrack (step : σ → α → σ) (ok : σ → Prop) (In : σ → β → Prop)
    (adds removes : σ → α → β → Prop) : Prop :=
  ∀ s a b, ok s → (In (step s a) b ↔ adds s a b ∨ In s b ∧ ¬removes s a b)

/-- No call removes the item. -/
def Stays (step : σ → α → σ) (removes : σ → α → β → Prop) (b : β) : σ → List α → Prop :=
  AllSteps step fun s a ↦ ¬removes s a b

/-- A call adds the item, and none after it removes it. -/
def AddedLast (step : σ → α → σ) (adds removes : σ → α → β → Prop) (s : σ) (as : List α)
    (b : β) : Prop :=
  ∃ pre a post, as = pre ++ a :: post ∧ adds (run step s pre) a b ∧
    Stays step removes b (run step s (pre ++ [a])) post

theorem stays_cons {s : σ} {a : α} {as : List α} {b : β} :
    Stays step removes b s (a :: as) ↔ ¬removes s a b ∧ Stays step removes b (step s a) as :=
  allSteps_cons

theorem addedLast_cons {s : σ} {a : α} {as : List α} {b : β} :
    AddedLast step adds removes s (a :: as) b ↔
      adds s a b ∧ Stays step removes b (step s a) as ∨
        AddedLast step adds removes (step s a) as b := by
  constructor
  · rintro ⟨pre, a', post, heq, hadds, hstays⟩
    cases pre with
    | nil =>
      obtain ⟨rfl, rfl⟩ := List.cons.inj heq
      exact Or.inl ⟨hadds, hstays⟩
    | cons first pre =>
      obtain ⟨rfl, rfl⟩ := List.cons.inj heq
      exact Or.inr ⟨pre, a', post, rfl, hadds, hstays⟩
  · rintro (⟨hadds, hstays⟩ | ⟨pre, a', post, rfl, hadds, hstays⟩)
    · exact ⟨[], a, as, rfl, hadds, hstays⟩
    · exact ⟨a :: pre, a', post, rfl, hadds, hstays⟩

/-- **The collection at the end of a run.** -/
theorem mem_run_iff {ok : σ → Prop} (htrack : KeepsTrack step ok In adds removes)
    (hok : ∀ s a, ok s → ok (step s a)) {s : σ} (hs : ok s) (as : List α) (b : β) :
    In (run step s as) b ↔
      AddedLast step adds removes s as b ∨ In s b ∧ Stays step removes b s as := by
  induction as generalizing s with
  | nil =>
    have hnone : ¬AddedLast step adds removes s [] b := by
      rintro ⟨pre, a, post, heq, -⟩
      cases pre <;> cases heq
    simp [hnone, Stays]
  | cons a as ih =>
    rw [run_cons, ih (hok s a hs), addedLast_cons, htrack s a b hs, stays_cons]
    tauto

/-- The collection at the end of a run that starts without the item. -/
theorem mem_run_iff_addedLast {ok : σ → Prop} (htrack : KeepsTrack step ok In adds removes)
    (hok : ∀ s a, ok s → ok (step s a)) {s : σ} (hs : ok s) {b : β} (hb : ¬In s b) (as : List α) :
    In (run step s as) b ↔ AddedLast step adds removes s as b := by
  rw [mem_run_iff htrack hok hs, or_iff_left fun h ↦ hb h.1]

end Transition
