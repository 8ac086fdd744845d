import Orchestra.Core.Json
import Orchestra.Core.Lines
import Orchestra.Foundation.Balance

/-!
# The software bill of materials

The bill lists the dependencies that a requirements file or a `pyproject.toml` declares. Neither
file is parsed: a regular expression takes the name and the version clauses off each dependency, and
what it does not match is left out; the list of a `pyproject.toml` is found by a scanner that counts
brackets and collects quoted texts.

The two regular expressions and the scanner are functions on lists of characters here.
`matchDependency_eq_some_iff` says that the first is the expression of the source, and
`scanLines_false` and `scanLines_true` say what the scanner reads: the lines from the first one that
opens a list up to the one that balances its brackets.
-/

namespace Orchestra

structure SBOMComponent where
  name : String
  version : String
  purl : String
  deriving DecidableEq

structure SBOM where
  bomFormat : String := "CycloneDX"
  specVersion : String := "1.5"
  serialNumber : String
  version : ℕ := 1
  components : List SBOMComponent := []
  metadata : List (String × Json) := []

/-- What the environment supplies to a build: a fresh identifier and the time. -/
structure SbomEnv where
  newId : String
  utcNowIso : String

namespace SupplyChain

/-! ## The expressions for a dependency -/

/-- `[A-Za-z0-9_.\-]`. -/
def nameChar (c : Char) : Bool := c.isAlphanum || decide (c ∈ ['_', '.', '-'])

/-- `[=~<>!]`. -/
def specChar (c : Char) : Bool := decide (c ∈ ['=', '~', '<', '>', '!'])

/-- `[0-9.\-a-zA-Z]`. -/
def versionTailChar (c : Char) : Bool := c.isAlphanum || decide (c ∈ ['.', '-'])

/-- `^([A-Za-z0-9_.\-]+)\s*([=~<>!]+.*)?$`, matched against a stripped line: the two groups. -/
def matchDependency (line : List Char) : Option (List Char × List Char) :=
  let name := line.takeWhile nameChar
  let spec := (line.dropWhile nameChar).dropWhile pySpace
  if name = [] then none
  else if spec = [] ∨ (spec.head?.any specChar = true ∧ '\n' ∉ spec) then some (name, spec)
  else none

/-- `([0-9][0-9.\-a-zA-Z]*)`, searched for in the version clauses; empty when there is no match. -/
def findVersion (spec : List Char) : List Char :=
  (spec.dropWhile fun c ↦ !c.isDigit).takeWhile versionTailChar

/-- The component of a dependency. -/
def component (groups : List Char × List Char) : SBOMComponent :=
  let name := String.ofList groups.1
  let version := String.ofList (findVersion groups.2)
  { name := name
    version := version
    purl := if version = "" then "pkg:pypi/" ++ name else "pkg:pypi/" ++ name ++ "@" ++ version }

/-- The bill of a list of components. -/
def sbomOf (env : SbomEnv) (components : List SBOMComponent) : SBOM where
  serialNumber := "urn:uuid:" ++ env.newId
  components := components
  metadata := [("generated_at", .str env.utcNowIso)]

/-- What a line of a requirements file contributes. -/
def requirementComponent (raw : List Char) : Option SBOMComponent :=
  let line := stripLine raw
  if line = [] ∨ line.head? = some '#' then none else (matchDependency line).map component

/-- `build_sbom_from_requirements`. -/
def buildSbomFromRequirements (env : SbomEnv) (text : String) : SBOM :=
  sbomOf env ((pySplitlines text.toList).filterMap requirementComponent)

/-! ## The scanner -/

/-- `re.findall(r'"([^"]+)"|\'([^\']+)\'', line)`, with a number of characters to skip. A quote
opens a match when there is another one and something in between. -/
def quotedFrom : ℕ → List Char → List (List Char)
  | _, [] => []
  | skip + 1, _ :: cs => quotedFrom skip cs
  | 0, c :: cs =>
    let content := cs.takeWhile fun x ↦ decide (x ≠ c)
    if (c = '"' ∨ c = '\'') ∧ content ≠ [] ∧ content.length < cs.length then
      content :: quotedFrom (content.length + 1) cs
    else quotedFrom 0 cs

/-- The quoted texts of a line. -/
def quotedTexts (line : List Char) : List (List Char) := quotedFrom 0 line

/-- `line.count("[") - line.count("]")`. -/
def bracketNet (line : List Char) : ℤ := (line.count '[' : ℤ) - line.count ']'

/-- The line opens the list of dependencies. -/
def opensList (line : List Char) : Bool :=
  "dependencies".toList.isPrefixOf line && decide ('[' ∈ line)

/-- The loop of `_parse_pyproject_dependencies`, from the state `(in_block, depth)`: the texts that
are still collected. -/
def scanLines : Bool → ℤ → List (List Char) → List (List Char)
  | _, _, [] => []
  | false, depth, raw :: lines =>
    let line := stripLine raw
    if opensList line then
      if bracketNet line ≤ 0 then quotedTexts line
      else quotedTexts line ++ scanLines true (bracketNet line) lines
    else scanLines false depth lines
  | true, depth, raw :: lines =>
    let line := stripLine raw
    if depth + bracketNet line ≤ 0 then quotedTexts line
    else quotedTexts line ++ scanLines true (depth + bracketNet line) lines

/-- `_parse_pyproject_dependencies`. -/
def parsePyprojectDependencies (text : String) : List (List Char) :=
  scanLines false 0 (pySplitlines text.toList)

/-- `build_sbom_from_pyproject`. -/
def buildSbomFromPyproject (env : SbomEnv) (text : String) : SBOM :=
  sbomOf env ((parsePyprojectDependencies text).filterMap fun dep ↦
    (matchDependency (stripLine dep)).map component)

/-! ## What the expressions match -/

variable {c : Char} {line name spec : List Char}

theorem pySpace_of_nameChar (h : nameChar c = true) : pySpace c = false := by
  rw [nameChar, Bool.or_eq_true, decide_eq_true_eq] at h
  rcases h with h | h
  · exact pySpace_of_isAlphanum h
  · simp only [List.mem_cons, List.not_mem_nil, or_false] at h
    rcases h with rfl | rfl | rfl <;> decide

theorem specChar_iff : specChar c = true ↔ c = '=' ∨ c = '~' ∨ c = '<' ∨ c = '>' ∨ c = '!' := by
  rw [specChar, decide_eq_true_eq]
  simp only [List.mem_cons, List.not_mem_nil, or_false]

theorem pySpace_of_specChar (h : specChar c = true) : pySpace c = false := by
  rcases specChar_iff.mp h with rfl | rfl | rfl | rfl | rfl <;> decide

theorem nameChar_of_specChar (h : specChar c = true) : nameChar c = false := by
  rcases specChar_iff.mp h with rfl | rfl | rfl | rfl | rfl <;> decide

/-- A name, white space, and something that neither goes on. -/
theorem matchDependency_append {gap rest : List Char} (hname : ∀ c ∈ name, nameChar c = true)
    (hne : name ≠ []) (hgap : ∀ c ∈ gap, pySpace c = true)
    (hrest : ∀ c, rest.head? = some c → nameChar c = false ∧ pySpace c = false) :
    matchDependency (name ++ (gap ++ rest)) =
      if rest = [] ∨ (rest.head?.any specChar = true ∧ '\n' ∉ rest) then some (name, rest)
      else none := by
  have hstop : (gap ++ rest).takeWhile nameChar = [] ∧
      (gap ++ rest).dropWhile nameChar = gap ++ rest := by
    cases gap with
    | nil =>
      cases rest with
      | nil => exact ⟨rfl, rfl⟩
      | cons c rest => simp [(hrest c rfl).1]
    | cons g gap =>
      have hg : nameChar g = false := by
        by_contra h
        have hspace := pySpace_of_nameChar (Bool.eq_true_of_not_eq_false h)
        rw [hgap g List.mem_cons_self] at hspace
        cases hspace
      simp [hg]
  have hspec : (gap ++ rest).dropWhile pySpace = rest := by
    cases rest with
    | nil => rw [List.append_nil, List.dropWhile_eq_nil_iff.mpr hgap]
    | cons c rest => exact dropWhile_append_cons hgap (hrest c rfl).2
  rw [matchDependency, List.takeWhile_append_of_pos hname, List.dropWhile_append_of_pos hname,
    hstop.1, hstop.2, hspec, List.append_nil, if_neg hne]

/-- The second group, when there is one. -/
theorem startsWithCmp_iff : spec.head?.any specChar = true ∧ '\n' ∉ spec ↔
    ∃ cmp rest, spec = cmp ++ rest ∧ cmp ≠ [] ∧ (∀ c ∈ cmp, specChar c = true) ∧
      '\n' ∉ rest := by
  constructor
  · rintro ⟨hhead, hnewline⟩
    cases spec with
    | nil => cases hhead
    | cons c rest =>
      refine ⟨[c], rest, rfl, List.cons_ne_nil _ _, fun x hx ↦ ?_, ?_⟩
      · rw [List.mem_singleton.mp hx]
        exact hhead
      · exact fun hmem ↦ hnewline (List.mem_cons_of_mem _ hmem)
  · rintro ⟨cmp, rest, rfl, hne, hcmp, hrest⟩
    cases cmp with
    | nil => exact absurd rfl hne
    | cons c cmp =>
      refine ⟨hcmp c List.mem_cons_self, fun hmem ↦ ?_⟩
      rcases List.mem_append.mp hmem with hmem | hmem
      · exact absurd (hcmp '\n' hmem) (by decide)
      · exact hrest hmem

/-- **The expression of the source.** A stripped line matches when it is a name, white space and,
maybe, comparison characters with anything up to the end of the line after them. -/
theorem matchDependency_eq_some_iff :
    matchDependency line = some (name, spec) ↔
      name ≠ [] ∧ (∀ c ∈ name, nameChar c = true) ∧
        (∃ gap, (∀ c ∈ gap, pySpace c = true) ∧ line = name ++ (gap ++ spec)) ∧
        (spec = [] ∨ ∃ cmp rest, spec = cmp ++ rest ∧ cmp ≠ [] ∧
          (∀ c ∈ cmp, specChar c = true) ∧ '\n' ∉ rest) := by
  rw [← startsWithCmp_iff]
  constructor
  · intro h
    simp only [matchDependency] at h
    split_ifs at h with hne hspec
    obtain ⟨rfl, rfl⟩ := Prod.mk.inj (Option.some.inj h)
    refine ⟨hne, fun c hc ↦ List.mem_takeWhile_imp hc,
      ⟨(line.dropWhile nameChar).takeWhile pySpace, fun c hc ↦ List.mem_takeWhile_imp hc, ?_⟩,
      hspec⟩
    rw [List.takeWhile_append_dropWhile, List.takeWhile_append_dropWhile]
  · rintro ⟨hne, hname, ⟨gap, hgap, rfl⟩, hspec⟩
    rw [matchDependency_append hname hne hgap, if_pos hspec]
    intro c hc
    obtain rfl | ⟨hhead, -⟩ := hspec
    · cases hc
    · rw [hc] at hhead
      exact ⟨nameChar_of_specChar hhead, pySpace_of_specChar hhead⟩

/-! ## What the scanner reads -/

theorem quotedFrom_eq_drop (skip : ℕ) (line : List Char) :
    quotedFrom skip line = quotedTexts (line.drop skip) := by
  induction line generalizing skip with
  | nil => rw [List.drop_nil, quotedTexts, quotedFrom, quotedFrom]
  | cons c line ih =>
    cases skip with
    | zero => rfl
    | succ skip => rw [quotedFrom, ih, List.drop_succ_cons]

/-- A text between double quotes is collected, and the search goes on after it. -/
theorem quotedTexts_quote {content : List Char} (rest : List Char) (hne : content ≠ [])
    (hquote : '"' ∉ content) :
    quotedTexts ('"' :: (content ++ '"' :: rest)) = content :: quotedTexts rest := by
  have hcontent : (content ++ '"' :: rest).takeWhile (fun x ↦ decide (x ≠ '"')) = content := by
    rw [List.takeWhile_append_of_pos]
    · simp
    · exact fun x hx ↦ decide_eq_true fun h ↦ hquote (h ▸ hx)
  have hlength : content.length < (content ++ '"' :: rest).length := by simp
  rw [quotedTexts, quotedFrom]
  simp only [hcontent]
  rw [if_pos ⟨Or.inl trivial, hne, hlength⟩, quotedFrom_eq_drop, ← List.drop_drop,
    List.drop_left, List.drop_succ_cons, List.drop_zero]

theorem quotedTexts_eq_nil (h : ∀ c ∈ line, c ≠ '"' ∧ c ≠ '\'') : quotedTexts line = [] := by
  induction line with
  | nil => rfl
  | cons c line ih =>
    rw [List.forall_mem_cons] at h
    rw [quotedTexts, quotedFrom, if_neg fun hc ↦ hc.1.elim h.1.1 h.1.2]
    exact ih h.2

/-- What the scanner does with a line of the list. -/
def lineTexts (raw : List Char) : List (List Char) := quotedTexts (stripLine raw)

def lineNet (raw : List Char) : ℤ := bracketNet (stripLine raw)

/-- Inside the list, the scanner reads up to the line that balances the brackets. -/
theorem scanLines_true (depth : ℤ) (lines : List (List Char)) :
    scanLines true depth lines = (Balance.upTo lineNet depth lines).flatMap lineTexts := by
  induction lines generalizing depth with
  | nil => rfl
  | cons raw lines ih =>
    rw [scanLines, Balance.upTo, lineNet]
    split
    · rw [List.flatMap_singleton, lineTexts]
    · rw [List.flatMap_cons, ih, lineTexts]

/-- Before the list, the scanner skips the lines that do not open it. -/
theorem scanLines_false (depth : ℤ) (lines : List (List Char)) :
    scanLines false depth lines =
      (Balance.upTo lineNet 0 (lines.dropWhile fun raw ↦ !opensList (stripLine raw))).flatMap
        lineTexts := by
  induction lines with
  | nil => rfl
  | cons raw lines ih =>
    rw [scanLines]
    split
    · next hopens =>
      rw [List.dropWhile_cons_of_neg (by simp [hopens]), Balance.upTo, zero_add, lineNet]
      split
      · rw [List.flatMap_singleton, lineTexts]
      · rw [List.flatMap_cons, scanLines_true, lineTexts]
    · next hopens =>
      rw [List.dropWhile_cons_of_pos (by simp [hopens]), ih]

/-- The lines of the list that is read: from the first that opens a list, up to the one that
balances its brackets. -/
def IsList (lines block : List (List Char)) : Prop :=
  ∃ skipped raw rest, lines = skipped ++ raw :: rest ∧
    (∀ l ∈ skipped, opensList (stripLine l) = false) ∧ opensList (stripLine raw) = true ∧
    Balance.Reads lineNet 0 (raw :: rest) block

theorem scanLines_of_isList {lines block : List (List Char)} (h : IsList lines block) :
    scanLines false 0 lines = block.flatMap lineTexts := by
  obtain ⟨skipped, raw, rest, rfl, hskipped, hopens, hreads⟩ := h
  have hskip : ∀ l ∈ skipped, (!opensList (stripLine l)) = true :=
    fun l hl ↦ Bool.not_eq_true' _ ▸ hskipped l hl
  rw [scanLines_false, dropWhile_append_cons hskip (by rw [hopens]; rfl), hreads.eq_upTo]

/-- A line that opens a list gives the scanner one to read. -/
theorem exists_isList {lines : List (List Char)}
    (h : ∃ raw ∈ lines, opensList (stripLine raw) = true) : ∃ block, IsList lines block := by
  induction lines with
  | nil => obtain ⟨raw, hraw, -⟩ := h; cases hraw
  | cons l lines ih =>
    cases hopens : opensList (stripLine l) with
    | true => exact ⟨_, [], l, lines, rfl, by simp, hopens, Balance.reads_upTo _ _ _⟩
    | false =>
      obtain ⟨raw, hraw, hraw'⟩ := h
      rcases List.mem_cons.mp hraw with rfl | hraw
      · rw [hopens] at hraw'
        cases hraw'
      · obtain ⟨block, skipped, r, rest, rfl, hskipped, hr, hreads⟩ := ih ⟨raw, hraw, hraw'⟩
        exact ⟨block, l :: skipped, r, rest, rfl, List.forall_mem_cons.mpr ⟨hopens, hskipped⟩, hr,
          hreads⟩

end SupplyChain

end Orchestra
