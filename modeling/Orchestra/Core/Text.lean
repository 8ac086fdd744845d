import Mathlib.Data.List.DropRight
import Mathlib.Data.List.Sort
import Mathlib.Data.String.Basic

/-!
# Text as the interpreter prints it

Error messages embed values in the form `repr` gives them, where characters outside ASCII are taken
to be printable. Names that come from a caller are stripped of white space, and numbers are read
with the ASCII digits.
-/

namespace Orchestra

/-- The digit of a four-bit number in lower-case hexadecimal. -/
def hexDigit (n : ℕ) : Char := if n < 10 then Char.ofNat (48 + n) else Char.ofNat (87 + n)

/-- One character between the quotes `quote`. -/
private def reprChar (quote c : Char) : List Char :=
  if c = quote ∨ c = '\\' then ['\\', c]
  else if c = '\n' then ['\\', 'n']
  else if c = '\r' then ['\\', 'r']
  else if c = '\t' then ['\\', 't']
  else if c.toNat < 32 ∨ c.toNat = 127 then
    ['\\', 'x', hexDigit (c.toNat / 16), hexDigit (c.toNat % 16)]
  else [c]

/-- `repr` of a string: in single quotes, unless it contains some and no double quotes. -/
def pyRepr (s : String) : String :=
  let quote := if '\'' ∈ s.toList ∧ '"' ∉ s.toList then '"' else '\''
  String.ofList (quote :: s.toList.flatMap (reprChar quote) ++ [quote])

/-- `repr` of a list of strings. -/
def pyReprList (items : List String) : String :=
  "[" ++ ", ".intercalate (items.map pyRepr) ++ "]"

/-- The characters `str.isspace` accepts. -/
def pySpace (c : Char) : Bool :=
  let n := c.toNat
  decide ((9 ≤ n ∧ n ≤ 13) ∨ (28 ≤ n ∧ n ≤ 32) ∨ (8192 ≤ n ∧ n ≤ 8202) ∨
    n ∈ [133, 160, 5760, 8232, 8233, 8239, 8287, 12288])

/-- `s.strip()`. -/
def pyStrip (s : String) : String :=
  String.ofList ((s.toList.dropWhile pySpace).rdropWhile pySpace)

/-- `s.split()`. -/
def pySplit (s : String) : List String :=
  ((s.toList.splitOnP pySpace).filter fun word ↦ !word.isEmpty).map String.ofList

/-- The number that decimal digits stand for. -/
def digitsValue (digits : List Char) : ℕ :=
  digits.foldl (fun n c ↦ n * 10 + (c.toNat - '0'.toNat)) 0

/-- `int(s)`, or `none` for a `ValueError`: a sign and digits, with single underscores between
them. A text of more than 4300 digits is refused. -/
def pyInt (s : String) : Option ℤ :=
  let (sign, digits) : ℤ × List Char :=
    match (pyStrip s).toList with
    | '-' :: ds => (-1, ds)
    | '+' :: ds => (1, ds)
    | ds => (1, ds)
  let groups := digits.splitOn '_'
  if groups.all (fun g ↦ !g.isEmpty && g.all Char.isDigit) && decide (groups.flatten.length ≤ 4300)
  then some (sign * digitsValue groups.flatten)
  else none

/-- `sorted` on a set of strings. -/
def sortedSet (items : List String) : List String := items.dedup.insertionSort (· ≤ ·)

end Orchestra
