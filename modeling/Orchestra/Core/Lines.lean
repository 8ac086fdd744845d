import Orchestra.Core.Text

/-!
# The lines of a text

Configuration files are read line by line, and every line is stripped before anything looks at it.
A line is the list of its characters here, since what reads it goes by characters.
-/

namespace Orchestra

/-- The characters at which `str.splitlines` ends a line. -/
def lineBoundary (c : Char) : Bool :=
  decide (c.toNat ∈ [10, 11, 12, 13, 28, 29, 30, 133, 8232, 8233])

/-- `s.splitlines()`. -/
def pySplitlines : List Char → List (List Char)
  | [] => []
  | '\r' :: '\n' :: cs => [] :: pySplitlines cs
  | c :: cs =>
    if lineBoundary c then [] :: pySplitlines cs
    else
      match pySplitlines cs with
      | [] => [[c]]
      | line :: lines => (c :: line) :: lines

/-- `line.strip()`. -/
def stripLine (line : List Char) : List Char := (line.dropWhile pySpace).rdropWhile pySpace

theorem toList_pyStrip (s : String) : (pyStrip s).toList = stripLine s.toList :=
  String.toList_ofList

/-- A line has no boundary in it. -/
theorem lineBoundary_of_mem_pySplitlines (cs : List Char) :
    ∀ line ∈ pySplitlines cs, ∀ c ∈ line, lineBoundary c = false := by
  fun_induction pySplitlines cs with
  | case1 => simp
  | case2 cs ih => simpa using ih
  | case3 c cs _ _ ih => simpa using ih
  | case4 c cs _ hc hnil =>
    rw [Bool.not_eq_true] at hc
    simpa using hc
  | case5 c cs _ hc line lines hlines ih =>
    rw [hlines, List.forall_mem_cons] at ih
    rw [Bool.not_eq_true] at hc
    rw [List.forall_mem_cons, List.forall_mem_cons]
    exact ⟨⟨hc, ih.1⟩, ih.2⟩

theorem newline_notMem_of_mem_pySplitlines (cs : List Char) {line : List Char}
    (h : line ∈ pySplitlines cs) : '\n' ∉ line := by
  intro hmem
  exact absurd (lineBoundary_of_mem_pySplitlines cs line h '\n' hmem) (by decide)

/-! ## What is left of a stripped line -/

theorem mem_of_mem_stripLine {line : List Char} {c : Char} (h : c ∈ stripLine line) :
    c ∈ line :=
  (List.dropWhile_sublist pySpace).subset ((List.rdropWhile_prefix pySpace _).subset h)

/-- A letter or a digit is no white space. -/
theorem pySpace_of_isAlphanum {c : Char} (h : c.isAlphanum = true) : pySpace c = false := by
  have hbool : ((decide (65 ≤ c.toNat ∧ c.toNat ≤ 90) ||
      (decide (97 ≤ c.toNat) && decide (c.toNat ≤ 122))) ||
        (decide (48 ≤ c.toNat) && decide (c.toNat ≤ 57))) = true := h
  have hrange : (65 ≤ c.toNat ∧ c.toNat ≤ 90 ∨ 97 ≤ c.toNat ∧ c.toNat ≤ 122) ∨
      48 ≤ c.toNat ∧ c.toNat ≤ 57 := by
    simpa only [Bool.or_eq_true, Bool.and_eq_true, decide_eq_true_eq] using hbool
  simp only [pySpace, List.mem_cons, List.not_mem_nil, or_false, decide_eq_false_iff_not]
  omega

theorem dropWhile_append_cons {α : Type*} {p : α → Bool} {blank rest : List α} {c : α}
    (hblank : ∀ x ∈ blank, p x = true) (hc : p c = false) :
    (blank ++ c :: rest).dropWhile p = c :: rest := by
  rw [List.dropWhile_append_of_pos hblank, List.dropWhile_cons_of_neg (Bool.eq_false_iff.mp hc)]

/-- Stripping the end of a list stops at the last element that is kept, at the latest. -/
theorem rdropWhile_append_cons {α : Type*} {p : α → Bool} (xs ys : List α) {c : α}
    (hc : p c = false) : (xs ++ c :: ys).rdropWhile p = xs ++ c :: ys.rdropWhile p := by
  induction ys using List.reverseRecOn with
  | nil =>
    rw [List.rdropWhile_nil, List.rdropWhile_concat_neg]
    exact Bool.eq_false_iff.mp hc
  | append_singleton ys y ih =>
    have hassoc : xs ++ c :: (ys ++ [y]) = (xs ++ c :: ys) ++ [y] := by simp
    rw [hassoc, List.rdropWhile_concat, List.rdropWhile_concat]
    split
    · exact ih
    · exact hassoc.symm

/-- Stripping keeps a text that neither starts nor ends with white space, and ends in what follows
it. -/
theorem stripLine_append {lead core : List Char} (rest : List Char)
    (hlead : ∀ c ∈ lead, pySpace c = true)
    (hfirst : core.head?.any (fun c ↦ !pySpace c) = true)
    (hlast : core.getLast?.any (fun c ↦ !pySpace c) = true) :
    stripLine (lead ++ (core ++ rest)) = core ++ rest.rdropWhile pySpace := by
  obtain ⟨xs, d, rfl⟩ : ∃ xs d, core = xs ++ [d] := by
    rcases List.eq_nil_or_concat core with rfl | ⟨xs, d, h⟩
    · cases hfirst
    · exact ⟨xs, d, by rw [h, List.concat_eq_append]⟩
  have hd : pySpace d = false := by simpa using hlast
  have hkept : ((xs ++ [d]) ++ rest).dropWhile pySpace = (xs ++ [d]) ++ rest := by
    cases xs with
    | nil => exact List.dropWhile_cons_of_neg (Bool.eq_false_iff.mp hd)
    | cons x xs => exact List.dropWhile_cons_of_neg (by simpa using hfirst)
  rw [stripLine, List.dropWhile_append_of_pos hlead, hkept, List.append_assoc,
    List.singleton_append, rdropWhile_append_cons xs rest hd, List.append_assoc,
    List.singleton_append]

/-- White space around what neither starts nor ends with it. -/
theorem stripLine_between {lead core trail : List Char} (hlead : ∀ c ∈ lead, pySpace c = true)
    (hfirst : core.head?.any (fun c ↦ !pySpace c) = true)
    (hlast : core.getLast?.any (fun c ↦ !pySpace c) = true)
    (htrail : ∀ c ∈ trail, pySpace c = true) : stripLine (lead ++ (core ++ trail)) = core := by
  rw [stripLine_append trail hlead hfirst hlast, List.rdropWhile_eq_nil_iff.mpr htrail,
    List.append_nil]

theorem stripLine_eq_nil {line : List Char} (h : ∀ c ∈ line, pySpace c = true) :
    stripLine line = [] := by
  rw [stripLine, List.dropWhile_eq_nil_iff.mpr h, List.rdropWhile_nil]

end Orchestra
