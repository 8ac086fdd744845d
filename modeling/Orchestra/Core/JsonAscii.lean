import Orchestra.Core.JsonDumps

/-!
# The encoding of a response body

`json.dumps` without options: a dictionary in its own order, the separators with blanks, and every
character that is not a printable ASCII character written as an escape, in two halves where it has
more than sixteen bits.
-/

namespace Orchestra

namespace Json

/-- `\uXXXX`. -/
def escapeUnit (n : ℕ) : List Char :=
  ['\\', 'u', hexDigit (n / 4096), hexDigit (n / 256 % 16), hexDigit (n / 16 % 16), hexDigit (n % 16)]

/-- One character inside a JSON string. -/
def escapeAscii (c : Char) : List Char :=
  if c.toNat < 127 then
    escapeChar c
  else if c.toNat < 65536 then
    escapeUnit c.toNat
  else
    escapeUnit (55296 + (c.toNat - 65536) / 1024) ++ escapeUnit (56320 + (c.toNat - 65536) % 1024)

def renderAscii (s : String) : List Char := '"' :: (s.toList.flatMap escapeAscii) ++ ['"']

mutual

/-- `json.dumps(payload)`. -/
def dumpsAscii : Json → List Char
  | .null => "null".toList
  | .bool true => "true".toList
  | .bool false => "false".toList
  | .int n => (toString n).toList
  | .float text => text.toList
  | .str s => renderAscii s
  | .arr items => '[' :: joinCommaBlank (dumpsAsciiItems items) ++ [']']
  | .obj fields => '\x7b' :: joinCommaBlank (dumpsAsciiFields fields) ++ ['\x7d']

def dumpsAsciiItems : List Json → List (List Char)
  | [] => []
  | item :: items => dumpsAscii item :: dumpsAsciiItems items

def dumpsAsciiFields : List (String × Json) → List (List Char)
  | [] => []
  | (key, value) :: fields =>
    (renderAscii key ++ ':' :: ' ' :: dumpsAscii value) :: dumpsAsciiFields fields

end

/-- The rendering as a string. -/
def dumpsAsciiText (payload : Json) : String := String.ofList (dumpsAscii payload)

end Json

end Orchestra
