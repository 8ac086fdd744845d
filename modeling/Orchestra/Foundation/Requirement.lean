import Mathlib.Data.List.Basic

/-!
# Dependency specifiers

The concrete syntax of PEP 508: a name, extras in brackets, version clauses or a URL, and a marker,
with white space allowed between any two of them. A specifier is a syntax tree with the white space
in it, so that its text is a function of the tree and every text of the grammar is the text of a
tree. Markers and URLs are kept as texts.

What a reader of specifiers needs is `Requirement.tail_eq`: after the name and the white space that
follows it, one character tells how the specifier goes on.
-/

namespace Pep508

/-- `wsp`. -/
def wsp (c : Char) : Bool := decide (c = ' ' ∨ c = '\t')

/-- `wsp*`. -/
structure Blank where
  text : List Char := []
  isBlank : text.all wsp = true := by decide

/-- `letterOrDigit`. -/
def letterOrDigit (c : Char) : Bool := c.isAlphanum

def identifierChar (c : Char) : Bool := letterOrDigit c || decide (c ∈ ['-', '_', '.'])

/-- `identifier`: letters and digits at both ends, and `-`, `_` and `.` as well in between. -/
structure Identifier where
  text : List Char
  chars : text.all identifierChar = true := by decide
  first : text.head?.any letterOrDigit = true := by decide
  last : text.getLast?.any letterOrDigit = true := by decide

/-- `'[' wsp* extras_list? wsp* ']'`, where each extra stands between blanks. -/
structure Extras where
  extras : List (Blank × Identifier × Blank)
  gap : Blank := {}

/-- `version_cmp` without the blanks before it. -/
inductive VersionCmp where
  | lt | le | ne | eq | ge | gt | compatible | arbitrary
  deriving DecidableEq

def VersionCmp.text : VersionCmp → List Char
  | .lt => ['<']
  | .le => ['<', '=']
  | .ne => ['!', '=']
  | .eq => ['=', '=']
  | .ge => ['>', '=']
  | .gt => ['>']
  | .compatible => ['~', '=']
  | .arbitrary => ['=', '=', '=']

/-- The characters a comparison is written with. -/
def cmpChar (c : Char) : Bool := decide (c ∈ ['<', '=', '!', '>', '~'])

def versionChar (c : Char) : Bool :=
  letterOrDigit c || decide (c ∈ ['-', '_', '.', '*', '+', '!'])

/-- `version_one`. -/
structure VersionOne where
  gap : Blank := {}
  cmp : VersionCmp
  cmpGap : Blank := {}
  version : List Char
  chars : version.all versionChar = true := by decide
  nonempty : version ≠ [] := by decide
  versionGap : Blank := {}

/-- `version_many`: clauses with a comma between any two, and maybe one after the last. -/
structure VersionMany where
  head : VersionOne
  others : List VersionOne := []
  comma : Option Blank := none

/-- `URI_reference`, of which only the characters matter here. -/
structure Uri where
  text : List Char
  chars : (text.all fun c ↦ decide (32 < c.toNat ∧ c.toNat < 127)) = true := by decide
  nonempty : text ≠ [] := by decide

/-- What stands between the extras and the marker. -/
inductive Clause where
  | none
  | bare (versions : VersionMany)
  | parenthesised (versions : VersionMany) (gap : Blank)
  | url (gap : Blank) (uri : Uri)

/-- `marker`, as its text: the grammar has the printable ASCII characters without the backslash, and
tabs. -/
structure Marker where
  gap : Blank := {}
  condition : List Char
  chars : (condition.all fun c ↦
    decide (c = '\t' ∨ 32 ≤ c.toNat ∧ c.toNat < 127 ∧ c ≠ '\\')) = true := by decide
  nonempty : condition ≠ [] := by decide

/-- `name_req` and `url_req`. A marker after a URL needs a blank before it. -/
structure Requirement where
  name : Identifier
  gap : Blank := {}
  extras : Option Extras := none
  extrasGap : Blank := {}
  clause : Clause := .none
  clauseGap : Blank := {}
  marker : Option Marker := none
  separated : ∀ gap uri, clause = .url gap uri → marker.isSome → clauseGap.text ≠ [] := by
    intro gap uri h; cases h

/-- `specification`. -/
structure Specification where
  lead : Blank := {}
  requirement : Requirement
  trail : Blank := {}

/-! ## The text of a specification -/

def Extras.text (e : Extras) : List Char :=
  '[' :: (List.intercalate [','] (e.extras.map fun x ↦ x.1.text ++ x.2.1.text ++ x.2.2.text) ++
    e.gap.text ++ [']'])

def VersionOne.text (v : VersionOne) : List Char :=
  v.gap.text ++ v.cmp.text ++ v.cmpGap.text ++ v.version ++ v.versionGap.text

def VersionMany.text (v : VersionMany) : List Char :=
  v.head.text ++ v.others.flatMap (fun one ↦ ',' :: one.text) ++
    (v.comma.elim [] fun gap ↦ ',' :: gap.text)

def Clause.text : Clause → List Char
  | .none => []
  | .bare versions => versions.text
  | .parenthesised versions gap => '(' :: (versions.text ++ gap.text ++ [')'])
  | .url gap uri => '@' :: (gap.text ++ uri.text)

def Marker.text (m : Marker) : List Char := ';' :: (m.gap.text ++ m.condition)

namespace Requirement

/-- What follows the name. -/
def tail (r : Requirement) : List Char :=
  r.gap.text ++ r.extras.elim [] Extras.text ++ r.extrasGap.text ++ r.clause.text ++
    r.clauseGap.text ++ r.marker.elim [] Marker.text

def text (r : Requirement) : List Char := r.name.text ++ r.tail

/-- The first character after the name that is no blank. -/
def next (r : Requirement) : Option Char :=
  match r.extras, r.clause, r.marker with
  | some _, _, _ => some '['
  | none, .bare versions, _ => versions.head.cmp.text.head?
  | none, .parenthesised _ _, _ => some '('
  | none, .url _ _, _ => some '@'
  | none, .none, some _ => some ';'
  | none, .none, none => none

end Requirement

def Specification.text (s : Specification) : List Char :=
  s.lead.text ++ s.requirement.text ++ s.trail.text

/-! ## Reading a specification -/

instance : Append Blank where
  append a b :=
    { text := a.text ++ b.text
      isBlank := by rw [List.all_append, a.isBlank, b.isBlank]; rfl }

@[simp] theorem Blank.text_append (a b : Blank) : (a ++ b).text = a.text ++ b.text := rfl

theorem Identifier.ne_nil (i : Identifier) : i.text ≠ [] := by
  intro h
  have hfirst := i.first
  rw [h] at hfirst
  cases hfirst

theorem VersionCmp.head?_append (cmp : VersionCmp) (rest : List Char) :
    (cmp.text ++ rest).head? = cmp.text.head? := by
  cases cmp <;> rfl

theorem VersionMany.text_eq (v : VersionMany) :
    ∃ rest, v.text = v.head.gap.text ++ (v.head.cmp.text ++ rest) := by
  simp only [VersionMany.text, VersionOne.text, List.append_assoc]
  exact ⟨_, rfl⟩

namespace Requirement

/-- **How a specifier goes on after its name.** -/
theorem tail_eq (r : Requirement) :
    ∃ (gap : Blank) (rest : List Char), r.tail = gap.text ++ rest ∧ rest.head? = r.next := by
  obtain ⟨name, gap, extras, extrasGap, clause, clauseGap, marker, -⟩ := r
  simp only [tail, List.append_assoc]
  cases extras with
  | some e => exact ⟨gap, _, rfl, rfl⟩
  | none =>
    cases clause with
    | bare versions =>
      obtain ⟨rest, hrest⟩ := versions.text_eq
      refine ⟨gap ++ (extrasGap ++ versions.head.gap),
        versions.head.cmp.text ++ (rest ++ (clauseGap.text ++ marker.elim [] Marker.text)), ?_,
        VersionCmp.head?_append _ _⟩
      simp only [Clause.text, hrest, Option.elim_none, List.nil_append, List.append_assoc,
        Blank.text_append]
    | parenthesised versions closing =>
      exact ⟨gap ++ extrasGap, _, by rw [Blank.text_append, List.append_assoc]; rfl, rfl⟩
    | url urlGap uri =>
      exact ⟨gap ++ extrasGap, _, by rw [Blank.text_append, List.append_assoc]; rfl, rfl⟩
    | none =>
      cases marker with
      | some m =>
        refine ⟨gap ++ (extrasGap ++ clauseGap), m.text, ?_, rfl⟩
        simp only [Clause.text, Option.elim_none, Option.elim_some, List.nil_append,
          Blank.text_append, List.append_assoc]
      | none =>
        refine ⟨gap ++ (extrasGap ++ clauseGap), [], ?_, rfl⟩
        simp only [Clause.text, Option.elim_none, List.nil_append, List.append_nil,
          Blank.text_append]

/-- The characters that can follow the name and the blanks. -/
theorem next_mem {r : Requirement} {c : Char} (h : r.next = some c) :
    cmpChar c = true ∨ c ∈ ['[', '(', '@', ';'] := by
  rw [next] at h
  split at h
  · obtain rfl := Option.some.inj h
    exact Or.inr (by decide)
  · next versions _ _ =>
    refine Or.inl ?_
    cases hcmp : versions.head.cmp <;> rw [hcmp] at h <;> obtain rfl := Option.some.inj h <;> rfl
  · obtain rfl := Option.some.inj h
    exact Or.inr (by decide)
  · obtain rfl := Option.some.inj h
    exact Or.inr (by decide)
  · obtain rfl := Option.some.inj h
    exact Or.inr (by decide)
  · cases h

end Requirement

end Pep508
