import Orchestra.Enterprise.SupplyChain
import Orchestra.Foundation.Requirement

/-!
# Which dependencies the bill lists

A bill is complete when it has one component for each declared dependency, under its name. The
expression of the source takes a name off a specifier and goes on with a comparison, so it matches
the specifiers that have nothing else there: no extras, no parentheses, no URL, and no marker right
after the name. The others are left out without an error.

A requirements file is read line by line, so that is all there is to it. In a `pyproject.toml` the
list has to be found as well. The scanner takes the first line that starts like the list for the
list, in whatever table it stands, and it counts the brackets inside the texts along with those of
the list.
-/

namespace Orchestra

open Pep508

namespace SupplyChain

/-- The name under which a dependency is declared. -/
def declaredName (s : Specification) : String := String.ofList s.requirement.name.text

/-- Bare version clauses or nothing at all follow the name. -/
def plain (s : Specification) : Bool :=
  s.requirement.extras.isNone &&
    match s.requirement.clause with
    | .bare _ => true
    | .none => s.requirement.marker.isNone
    | _ => false

/-- One component for each declared dependency, with its name. -/
def Complete (sbom : SBOM) (declared : List Specification) : Prop :=
  (sbom.components.map SBOMComponent.name).Perm (declared.map declaredName)

/-! ## The files -/

/-- A line of a requirements file. -/
inductive RequirementsLine where
  | blank (gap : Blank)
  | comment (gap : Blank) (text : List Char)
  | dependency (spec : Specification)

namespace RequirementsLine

def text : RequirementsLine → List Char
  | .blank gap => gap.text
  | .comment gap text => gap.text ++ '#' :: text
  | .dependency spec => spec.text

def dependency? : RequirementsLine → Option Specification
  | .dependency spec => some spec
  | _ => none

end RequirementsLine

/-- A requirements file: a text whose lines are specifiers, comments and blank lines. -/
structure RequirementsFile where
  text : String
  lines : List RequirementsLine
  isText : pySplitlines text.toList = lines.map RequirementsLine.text

def RequirementsFile.declared (f : RequirementsFile) : List Specification :=
  f.lines.filterMap RequirementsLine.dependency?

/-- `dependencies = [`. -/
structure OpeningLine where
  indent : Blank := {}
  keyGap : Blank := {}
  valueGap : Blank := {}
  trail : Blank := {}

def OpeningLine.text (l : OpeningLine) : List Char :=
  l.indent.text ++ ("dependencies".toList ++
    (l.keyGap.text ++ '=' :: (l.valueGap.text ++ ['['])) ++ l.trail.text)

/-- `"fastapi>=0.116.0",`: a specifier as it stands, in double quotes. -/
structure DependencyLine where
  indent : Blank := {}
  spec : Specification
  verbatim : '"' ∉ spec.text ∧ '\\' ∉ spec.text := by decide
  comma : Bool := true
  trail : Blank := {}

def DependencyLine.text (l : DependencyLine) : List Char :=
  l.indent.text ++
    ('"' :: (l.spec.text ++ '"' :: if l.comma then [','] else []) ++ l.trail.text)

/-- `]`. -/
structure ClosingLine where
  indent : Blank := {}
  trail : Blank := {}

def ClosingLine.text (l : ClosingLine) : List Char := l.indent.text ++ ([']'] ++ l.trail.text)

/-- A `pyproject.toml` with its dependencies one on a line, and anything before and after them. -/
structure PyprojectFile where
  text : String
  before : List (List Char) := []
  opening : OpeningLine := {}
  items : List DependencyLine
  commas : items.dropLast.all DependencyLine.comma = true := by decide
  closing : ClosingLine := {}
  after : List (List Char) := []
  isText : pySplitlines text.toList =
    before ++ opening.text :: (items.map DependencyLine.text ++ closing.text :: after)

namespace PyprojectFile

def declared (f : PyprojectFile) : List Specification := f.items.map DependencyLine.spec

/-- A line before the list is taken for its opening. -/
def OpenedEarlier (f : PyprojectFile) : Prop :=
  ∃ raw ∈ f.before, opensList (stripLine raw) = true

end PyprojectFile

/-! ## A specifier, read by the expression -/

theorem pySpace_of_wsp {c : Char} (h : wsp c = true) : pySpace c = true := by
  rcases of_decide_eq_true h with rfl | rfl <;> decide

theorem pySpace_of_mem_blank {gap : Blank} {c : Char} (h : c ∈ gap.text) : pySpace c = true :=
  pySpace_of_wsp (List.all_eq_true.mp gap.isBlank c h)

theorem nameChar_of_mem_identifier {i : Identifier} {c : Char} (h : c ∈ i.text) :
    nameChar c = true := by
  have hchar := List.all_eq_true.mp i.chars c h
  rw [identifierChar, letterOrDigit, Bool.or_eq_true, decide_eq_true_eq] at hchar
  rw [nameChar, Bool.or_eq_true, decide_eq_true_eq]
  refine hchar.imp_right fun h ↦ ?_
  simp only [List.mem_cons, List.not_mem_nil, or_false] at h ⊢
  rcases h with rfl | rfl | rfl <;> decide

/-- What can follow a name ends it for the expression. -/
theorem stops_of_next {r : Requirement} {c : Char} (h : r.next = some c) :
    nameChar c = false ∧ pySpace c = false := by
  rcases Requirement.next_mem h with h | h
  · have hcmp : c ∈ ['<', '=', '!', '>', '~'] := of_decide_eq_true h
    simp only [List.mem_cons, List.not_mem_nil, or_false] at hcmp
    rcases hcmp with rfl | rfl | rfl | rfl | rfl <;> decide
  · simp only [List.mem_cons, List.not_mem_nil, or_false] at h
    rcases h with rfl | rfl | rfl | rfl <;> decide

/-- A specifier is plain when a comparison or nothing follows its name. -/
theorem plain_eq (s : Specification) : plain s = s.requirement.next.all specChar := by
  rw [plain, Requirement.next]
  cases s.requirement.extras with
  | some e => rfl
  | none =>
    cases s.requirement.clause with
    | bare versions => cases hcmp : versions.head.cmp <;> simp only [hcmp] <;> rfl
    | parenthesised versions gap => rfl
    | url gap uri => rfl
    | none => cases s.requirement.marker <;> rfl

/-- A name starts and ends with a character that stripping keeps. -/
theorem kept_of_letterOrDigit {c : Option Char} (h : c.any letterOrDigit = true) :
    c.any (fun c ↦ !pySpace c) = true := by
  cases c with
  | none => cases h
  | some c => exact Bool.not_eq_true' _ ▸ pySpace_of_isAlphanum h

theorem stripLine_specification (s : Specification) :
    stripLine s.text = s.requirement.name.text ++
      (s.requirement.tail ++ s.trail.text).rdropWhile pySpace := by
  rw [Specification.text, Requirement.text, List.append_assoc, List.append_assoc]
  exact stripLine_append _ (fun c ↦ pySpace_of_mem_blank)
    (kept_of_letterOrDigit s.requirement.name.first)
    (kept_of_letterOrDigit s.requirement.name.last)

/-- **The expression takes the name off a plain specifier and rejects every other.** -/
theorem matchDependency_specification (s : Specification) (hline : '\n' ∉ s.text) :
    (matchDependency (stripLine s.text)).map (fun groups ↦ String.ofList groups.1) =
      if plain s then some (declaredName s) else none := by
  obtain ⟨gap, rest, htail, hnext⟩ := s.requirement.tail_eq
  have hname : ∀ c ∈ s.requirement.name.text, nameChar c = true :=
    fun c ↦ nameChar_of_mem_identifier
  have hstrip := stripLine_specification s
  rw [htail, List.append_assoc] at hstrip
  rw [plain_eq, ← hnext]
  cases rest with
  | nil =>
    have hblank : (gap.text ++ ([] ++ s.trail.text)).rdropWhile pySpace = [] ++ [] := by
      refine List.rdropWhile_eq_nil_iff.mpr fun c hc ↦ ?_
      rcases List.mem_append.mp hc with hc | hc <;> exact pySpace_of_mem_blank hc
    rw [hstrip, hblank, matchDependency_append hname s.requirement.name.ne_nil (by simp) (by simp)]
    rfl
  | cons x rest =>
    obtain ⟨hnameChar, hspace⟩ := stops_of_next hnext.symm
    rw [List.cons_append, rdropWhile_append_cons _ _ hspace] at hstrip
    have hnewline : '\n' ∉ x :: (rest ++ s.trail.text).rdropWhile pySpace := by
      intro hmem
      refine hline (mem_of_mem_stripLine ?_)
      rw [hstrip]
      exact List.mem_append_right _ (List.mem_append_right _ hmem)
    rw [hstrip, matchDependency_append hname s.requirement.name.ne_nil
      (fun c ↦ pySpace_of_mem_blank) (by simpa using ⟨hnameChar, hspace⟩)]
    simp only [List.head?_cons, Option.any_some, Option.all_some, hnewline, not_false_eq_true,
      and_true, reduceCtorEq, false_or]
    rw [apply_ite (Option.map _)]
    rfl

/-! ## Requirements files -/

/-- The names the expression takes off a list of texts. -/
def requirementNames (texts : List (List Char)) : List String :=
  texts.filterMap fun dep ↦
    (matchDependency (stripLine dep)).map fun groups ↦ String.ofList groups.1

theorem requirementNames_append (xs ys : List (List Char)) :
    requirementNames (xs ++ ys) = requirementNames xs ++ requirementNames ys :=
  List.filterMap_append

/-- Of a list of specifiers, the expression takes the names of the plain ones. -/
theorem requirementNames_specifications {specs : List Specification}
    (hlines : ∀ s ∈ specs, '\n' ∉ s.text) :
    requirementNames (specs.map Specification.text) = (specs.filter plain).map declaredName := by
  induction specs with
  | nil => rfl
  | cons s specs ih =>
    rw [List.forall_mem_cons] at hlines
    have hs := matchDependency_specification s hlines.1
    rw [List.map_cons, requirementNames, List.filterMap_cons, hs, ← requirementNames, ih hlines.2,
      List.filter_cons]
    cases plain s <;> rfl

/-- What a line of a requirements file contributes is the name of a plain specifier. -/
theorem requirementComponent_text (l : RequirementsLine) (hline : '\n' ∉ l.text) :
    (requirementComponent l.text).map SBOMComponent.name =
      l.dependency?.bind fun s ↦ if plain s then some (declaredName s) else none := by
  cases l with
  | blank gap =>
    rw [RequirementsLine.text, requirementComponent,
      stripLine_eq_nil fun c ↦ pySpace_of_mem_blank]
    rfl
  | comment gap text =>
    have hstrip : stripLine (gap.text ++ (['#'] ++ text)) = ['#'] ++ text.rdropWhile pySpace :=
      stripLine_append _ (fun c ↦ pySpace_of_mem_blank) rfl rfl
    rw [RequirementsLine.text, requirementComponent, ← List.singleton_append, hstrip]
    rfl
  | dependency s =>
    have hdependency : ¬(stripLine s.text = [] ∨ (stripLine s.text).head? = some '#') := by
      obtain ⟨c, name, hcons⟩ := List.exists_cons_of_ne_nil s.requirement.name.ne_nil
      have hfirst := s.requirement.name.first
      rw [hcons] at hfirst
      rw [stripLine_specification, hcons]
      rintro (hnil | hhead)
      · cases hnil
      · obtain rfl := Option.some.inj hhead
        exact absurd hfirst (by rw [List.head?_cons]; decide)
    have hmatch := matchDependency_specification s hline
    rw [RequirementsLine.text, requirementComponent]
    simp only [hdependency, if_false, Option.map_map]
    exact hmatch

theorem names_requirementsLines {lines : List RequirementsLine}
    (hlines : ∀ l ∈ lines, '\n' ∉ l.text) :
    ((lines.map RequirementsLine.text).filterMap requirementComponent).map SBOMComponent.name =
      ((lines.filterMap RequirementsLine.dependency?).filter plain).map declaredName := by
  induction lines with
  | nil => rfl
  | cons l lines ih =>
    rw [List.forall_mem_cons] at hlines
    have hl := requirementComponent_text l hlines.1
    rw [List.map_filterMap] at ih ⊢
    rw [List.map_cons, List.filterMap_cons, hl, ih hlines.2, List.filterMap_cons]
    cases l.dependency? with
    | none => rfl
    | some s =>
      simp only [Option.bind_some, List.filter_cons]
      cases plain s <;> rfl

/-- A bill that leaves out what is not plain is complete when nothing is left out. -/
theorem filter_plain_perm_iff {declared : List Specification} :
    ((declared.filter plain).map declaredName).Perm (declared.map declaredName) ↔
      ∀ s ∈ declared, plain s = true := by
  constructor
  · intro h
    have hlength := h.length_eq
    rw [List.length_map, List.length_map] at hlength
    exact List.length_filter_eq_length_iff.mp hlength
  · intro h
    rw [List.filter_eq_self.mpr h]

/-- **A requirements file** is listed completely exactly when all its specifiers are plain. -/
theorem complete_requirements_iff (env : SbomEnv) (f : RequirementsFile) :
    Complete (buildSbomFromRequirements env f.text) f.declared ↔
      ∀ s ∈ f.declared, plain s = true := by
  have hlines : ∀ l ∈ f.lines, '\n' ∉ l.text := by
    intro l hl
    refine newline_notMem_of_mem_pySplitlines f.text.toList ?_
    rw [f.isText]
    exact List.mem_map_of_mem hl
  rw [Complete, buildSbomFromRequirements, sbomOf, f.isText, names_requirementsLines hlines]
  exact filter_plain_perm_iff

/-! ## The lines of a list -/

theorem notMem_blank {gap : Blank} {c : Char} (h : wsp c = false) : c ∉ gap.text := by
  intro hmem
  rw [List.all_eq_true.mp gap.isBlank c hmem] at h
  cases h

theorem stripLine_opening (l : OpeningLine) :
    stripLine l.text =
      "dependencies".toList ++ (l.keyGap.text ++ '=' :: (l.valueGap.text ++ ['['])) := by
  refine stripLine_between (fun c ↦ pySpace_of_mem_blank) rfl ?_ (fun c ↦ pySpace_of_mem_blank)
  simp only [List.getLast?_append, List.getLast?_cons]
  rfl

/-- The opening line opens one bracket, and nothing is quoted on it. -/
theorem opening_spec (l : OpeningLine) :
    opensList (stripLine l.text) = true ∧ lineNet l.text = 1 ∧ lineTexts l.text = [] := by
  have hopen (gap : Blank) : gap.text.count '[' = 0 := List.count_eq_zero.mpr (notMem_blank rfl)
  have hclose (gap : Blank) : gap.text.count ']' = 0 := List.count_eq_zero.mpr (notMem_blank rfl)
  have hquotes (gap : Blank) : '"' ∉ gap.text ∧ '\'' ∉ gap.text :=
    ⟨notMem_blank rfl, notMem_blank rfl⟩
  refine ⟨?_, ?_, ?_⟩
  · rw [stripLine_opening, opensList, Bool.and_eq_true, List.isPrefixOf_iff_prefix]
    exact ⟨List.prefix_append _ _, by simp⟩
  · rw [lineNet, stripLine_opening, bracketNet]
    simp only [List.count_append, List.count_cons, hopen, hclose]
    decide
  · rw [lineTexts, stripLine_opening]
    refine quotedTexts_eq_nil fun c hc ↦ ?_
    constructor <;> rintro rfl <;> simp [hquotes] at hc

theorem closing_spec (l : ClosingLine) : lineNet l.text = -1 ∧ lineTexts l.text = [] := by
  have hstrip : stripLine l.text = [']'] :=
    stripLine_between (fun c ↦ pySpace_of_mem_blank) rfl rfl (fun c ↦ pySpace_of_mem_blank)
  rw [lineNet, lineTexts, hstrip]
  exact ⟨rfl, rfl⟩

/-- A specifier in quotes is collected as it stands, and its brackets count. -/
theorem dependencyLine_spec (l : DependencyLine) :
    lineNet l.text = bracketNet l.spec.text ∧ lineTexts l.text = [l.spec.text] := by
  have hstrip : stripLine l.text =
      '"' :: (l.spec.text ++ '"' :: if l.comma then [','] else []) := by
    refine stripLine_between (fun c ↦ pySpace_of_mem_blank) rfl ?_
      (fun c ↦ pySpace_of_mem_blank)
    simp only [List.getLast?_append, List.getLast?_cons]
    cases l.comma <;> rfl
  have hne : l.spec.text ≠ [] := by
    rw [Specification.text, Requirement.text]
    simp [l.spec.requirement.name.ne_nil]
  constructor
  · rw [lineNet, hstrip, bracketNet, bracketNet]
    cases l.comma <;> simp
  · rw [lineTexts, hstrip, quotedTexts_quote _ hne l.verbatim.1]
    cases l.comma <;> rfl

/-! ## The list of a `pyproject.toml` -/

namespace PyprojectFile

variable (f : PyprojectFile)

/-- The lines that declare the dependencies. -/
def itemLines : List (List Char) := f.items.map DependencyLine.text

/-- The names of the specifiers that the expression rejects. -/
def rejectedNames : List String :=
  (f.declared.filter fun s ↦ !plain s).map declaredName

/-- The names found after the list, when the texts in it open more brackets than they close: the
scanner goes on until the lines after the list have closed them. -/
def strayNames : List String :=
  if Balance.total lineNet f.itemLines ≤ 0 then []
  else requirementNames
    ((Balance.upTo lineNet (Balance.total lineNet f.itemLines) f.after).flatMap lineTexts)

/-- The bill comes out complete. When no earlier line is taken for the opening, no text closes the
bracket of the list before the last one, and the names found after the list are those that are
rejected in it, so usually none. Otherwise an earlier list is read, and it happens to have the
names. -/
def Readable : Prop :=
  (¬f.OpenedEarlier ∧ Balance.Open lineNet 1 f.itemLines ∧ f.strayNames.Perm f.rejectedNames) ∨
    (f.OpenedEarlier ∧ ∃ block, IsList (pySplitlines f.text.toList) block ∧
      (requirementNames (block.flatMap lineTexts)).Perm (f.declared.map declaredName))

variable {f}

/-- What the builder lists are the names in the texts that the scanner collects. -/
theorem names_eq (env : SbomEnv) :
    (buildSbomFromPyproject env f.text).components.map SBOMComponent.name =
      requirementNames (scanLines false 0 (pySplitlines f.text.toList)) := by
  rw [buildSbomFromPyproject, sbomOf, parsePyprojectDependencies, requirementNames]
  simp only [List.map_filterMap, Option.map_map]
  rfl

theorem newline_notMem_items (s : Specification) (hs : s ∈ f.declared) : '\n' ∉ s.text := by
  obtain ⟨item, hitem, rfl⟩ := List.mem_map.mp hs
  have hline : '\n' ∉ item.text := by
    refine newline_notMem_of_mem_pySplitlines f.text.toList ?_
    rw [f.isText]
    exact List.mem_append_right _ (List.mem_cons_of_mem _
      (List.mem_append_left _ (List.mem_map_of_mem hitem)))
  intro hmem
  refine hline ?_
  rw [DependencyLine.text]
  simp [hmem]

theorem texts_items (items : List DependencyLine) :
    (items.map DependencyLine.text).flatMap lineTexts =
      (items.map DependencyLine.spec).map Specification.text := by
  induction items with
  | nil => rfl
  | cons item items ih =>
    rw [List.map_cons, List.flatMap_cons, (dependencyLine_spec item).2, ih]
    rfl

/-- The lines the scanner reads when it starts at the list itself. -/
theorem scanLines_of_not_openedEarlier (h : ¬f.OpenedEarlier) :
    scanLines false 0 (pySplitlines f.text.toList) =
      (Balance.upTo lineNet 1 (f.itemLines ++ f.closing.text :: f.after)).flatMap lineTexts := by
  have hskip : ∀ raw ∈ f.before, (!opensList (stripLine raw)) = true := by
    intro raw hraw
    rw [Bool.not_eq_true']
    exact Bool.eq_false_iff.mpr fun hopens ↦ h ⟨raw, hraw, hopens⟩
  obtain ⟨hopens, hnet, htexts⟩ := opening_spec f.opening
  rw [scanLines_false, f.isText, dropWhile_append_cons hskip (by rw [hopens]; rfl),
    Balance.upTo, zero_add, hnet, if_neg (by decide), List.flatMap_cons, htexts]
  rfl

/-- When the brackets stay open up to the last item, the names are those of the plain specifiers and
those found after the list. -/
theorem names_of_open (hopen : Balance.Open lineNet 1 f.itemLines) :
    requirementNames ((Balance.upTo lineNet 1
        (f.itemLines ++ f.closing.text :: f.after)).flatMap lineTexts) =
      (f.declared.filter plain).map declaredName ++ f.strayNames := by
  obtain ⟨hnet, htexts⟩ := closing_spec f.closing
  have hitems : requirementNames (f.itemLines.flatMap lineTexts) =
      (f.declared.filter plain).map declaredName := by
    rw [itemLines, texts_items]
    exact requirementNames_specifications newline_notMem_items
  rw [Balance.upTo_append one_pos hopen, List.flatMap_append, requirementNames_append, hitems,
    strayNames]
  congr 1
  split
  · next hspent => rw [if_pos (by omega)]; rfl
  · next hleft =>
    rw [Balance.upTo, hnet, add_neg_cancel_comm]
    split
    · rw [List.flatMap_singleton, htexts]; rfl
    · rw [List.flatMap_cons, htexts, List.nil_append]

/-- When a text closes the bracket of the list early, some item is not read. -/
theorem names_lt_of_not_open (hopen : ¬Balance.Open lineNet 1 f.itemLines) :
    (requirementNames ((Balance.upTo lineNet 1
      (f.itemLines ++ f.closing.text :: f.after)).flatMap lineTexts)).length <
        f.declared.length := by
  simp only [Balance.Open, not_forall, not_lt] at hopen
  obtain ⟨k, hk, hclosed⟩ := hopen
  obtain ⟨j, hj, hread⟩ := Balance.upTo_append_of_closed (f.closing.text :: f.after) one_pos
    hk.le hclosed
  rw [itemLines, List.length_map] at hk
  rw [hread, itemLines, ← List.map_take, texts_items]
  calc (requirementNames _).length
      ≤ (((f.items.take j).map DependencyLine.spec).map Specification.text).length :=
        List.length_filterMap_le _ _
    _ ≤ j := by simp
    _ ≤ k := hj
    _ < f.declared.length := by rwa [declared, List.length_map]

/-- **A `pyproject.toml`** is listed completely exactly when it is readable. -/
theorem complete_iff (f : PyprojectFile) (env : SbomEnv) :
    Complete (buildSbomFromPyproject env f.text) f.declared ↔ f.Readable := by
  rw [Complete, names_eq, Readable]
  by_cases hearlier : f.OpenedEarlier
  · have hline : ∃ raw ∈ pySplitlines f.text.toList, opensList (stripLine raw) = true := by
      obtain ⟨raw, hraw, hopens⟩ := hearlier
      exact ⟨raw, by rw [f.isText]; exact List.mem_append_left _ hraw, hopens⟩
    constructor
    · intro hperm
      obtain ⟨block, hblock⟩ := exists_isList hline
      rw [scanLines_of_isList hblock] at hperm
      exact Or.inr ⟨hearlier, block, hblock, hperm⟩
    · rintro (⟨hnot, -⟩ | ⟨-, block, hblock, hperm⟩)
      · exact absurd hearlier hnot
      · rwa [scanLines_of_isList hblock]
  · rw [scanLines_of_not_openedEarlier hearlier]
    have hsplit : (f.declared.map declaredName).Perm
        ((f.declared.filter plain).map declaredName ++ f.rejectedNames) := by
      rw [rejectedNames, ← List.map_append]
      exact ((List.filter_append_perm plain f.declared).map declaredName).symm
    constructor
    · intro hperm
      by_cases hopen : Balance.Open lineNet 1 f.itemLines
      · rw [names_of_open hopen] at hperm
        exact Or.inl ⟨hearlier, hopen, (List.perm_append_left_iff _).mp (hperm.trans hsplit)⟩
      · have hlt := names_lt_of_not_open hopen
        rw [hperm.length_eq, List.length_map] at hlt
        exact absurd hlt (lt_irrefl _)
    · rintro (⟨-, hopen, hperm⟩ | ⟨hnot, -⟩)
      · rw [names_of_open hopen]
        exact ((List.perm_append_left_iff _).mpr hperm).trans hsplit.symm
      · exact absurd hnot hearlier

/-- In a file without an earlier opening and with balanced texts only the specifiers matter. -/
theorem complete_iff_of_balanced (env : SbomEnv) (f : PyprojectFile) (hearlier : ¬f.OpenedEarlier)
    (hbalanced : ∀ s ∈ f.declared, bracketNet s.text = 0) :
    Complete (buildSbomFromPyproject env f.text) f.declared ↔
      ∀ s ∈ f.declared, plain s = true := by
  have hnet : ∀ raw ∈ f.itemLines, lineNet raw = 0 := by
    intro raw hraw
    obtain ⟨item, hitem, rfl⟩ := List.mem_map.mp hraw
    rw [(dependencyLine_spec item).1]
    exact hbalanced _ (List.mem_map_of_mem hitem)
  have hopen : Balance.Open lineNet 1 f.itemLines := by
    intro k hk
    rw [Balance.total_eq_zero fun raw hraw ↦ hnet raw (List.mem_of_mem_take hraw)]
    decide
  have hstray : f.strayNames = [] := by
    rw [strayNames, Balance.total_eq_zero hnet, if_pos le_rfl]
  rw [Complete, names_eq, scanLines_of_not_openedEarlier hearlier, names_of_open hopen, hstray,
    List.append_nil]
  exact filter_plain_perm_iff

end PyprojectFile

/-- **When the bill lists every dependency.** -/
theorem sbomComplete_iff (env : SbomEnv) (requirements : RequirementsFile)
    (pyproject : PyprojectFile) :
    (Complete (buildSbomFromRequirements env requirements.text) requirements.declared ↔
      ∀ s ∈ requirements.declared, plain s = true) ∧
    (Complete (buildSbomFromPyproject env pyproject.text) pyproject.declared ↔
      pyproject.Readable) :=
  ⟨complete_requirements_iff env requirements, pyproject.complete_iff env⟩

/-! ## The dependencies of the repository -/

/-- `fastapi>=0.116.0`. -/
def fastapi : Specification where
  requirement :=
    { name := { text := "fastapi".toList }
      clause := .bare { head := { cmp := .ge, version := "0.116.0".toList } } }

/-- `uvicorn[standard]>=0.30.6`. -/
def uvicorn : Specification where
  requirement :=
    { name := { text := "uvicorn".toList }
      extras := some { extras := [({}, { text := "standard".toList }, {})] }
      clause := .bare { head := { cmp := .ge, version := "0.30.6".toList } } }

def sampleRequirements : RequirementsFile where
  text := "fastapi>=0.116.0\nuvicorn[standard]>=0.30.6\n"
  lines := [.dependency fastapi, .dependency uvicorn]
  isText := by decide +kernel

def samplePyproject : PyprojectFile where
  text := "[project]\ndependencies = [\n    \"uvicorn[standard]>=0.30.6\",\n]\n"
  before := ["[project]".toList]
  opening := { keyGap := { text := [' '] }, valueGap := { text := [' '] } }
  items := [{ indent := { text := [' ', ' ', ' ', ' '] }, spec := uvicorn }]
  isText := by decide +kernel

/-- A bill of two dependencies lists one of them, and a bill of one lists none. -/
theorem not_sbomComplete_uvicorn :
    let env : SbomEnv := ⟨"sbom-1", "2026-01-01T00:00:00Z"⟩
    ((buildSbomFromRequirements env sampleRequirements.text).components =
        [⟨"fastapi", "0.116.0", "pkg:pypi/fastapi@0.116.0"⟩] ∧
      ¬Complete (buildSbomFromRequirements env sampleRequirements.text)
        sampleRequirements.declared) ∧
    ((buildSbomFromPyproject env samplePyproject.text).components = [] ∧
      ¬Complete (buildSbomFromPyproject env samplePyproject.text) samplePyproject.declared) := by
  intro env
  have hrequirements : (buildSbomFromRequirements env sampleRequirements.text).components =
      [⟨"fastapi", "0.116.0", "pkg:pypi/fastapi@0.116.0"⟩] := by decide +kernel
  have hpyproject : (buildSbomFromPyproject env samplePyproject.text).components = [] := by
    decide +kernel
  refine ⟨⟨hrequirements, fun h ↦ ?_⟩, ⟨hpyproject, fun h ↦ ?_⟩⟩
  · rw [Complete, hrequirements] at h
    exact absurd h.length_eq (by decide)
  · rw [Complete, hpyproject] at h
    exact absurd h.length_eq (by decide)

end SupplyChain

end Orchestra
