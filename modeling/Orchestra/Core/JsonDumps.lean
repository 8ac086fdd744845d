import Orchestra.Core.Json

/-!
# The encoding with blanks

What leaves the program as text, the body of a webhook or the payload of a token, is rendered by
`json.dumps` with sorted keys and the separators it has by default.
-/

namespace Orchestra

namespace Json

/-- Items separated by a comma and a blank. -/
def joinCommaBlank : List (List Char) → List Char
  | [] => []
  | [item] => item
  | item :: items => item ++ ',' :: ' ' :: joinCommaBlank items

mutual

/-- `json.dumps(payload, sort_keys=True, ensure_ascii=False)`. -/
def dumps : Json → List Char
  | .null => "null".toList
  | .bool true => "true".toList
  | .bool false => "false".toList
  | .int n => (toString n).toList
  | .float text => text.toList
  | .str s => renderString s
  | .arr items => '[' :: joinCommaBlank (dumpsItems items) ++ [']']
  | .obj fields =>
    let sorted := (dumpsFields fields).insertionSort fun p q ↦ p.1 ≤ q.1
    '\x7b' :: joinCommaBlank (sorted.map fun p ↦ renderString p.1 ++ ':' :: ' ' :: p.2) ++ ['\x7d']

def dumpsItems : List Json → List (List Char)
  | [] => []
  | item :: items => dumps item :: dumpsItems items

def dumpsFields : List (String × Json) → List (String × List Char)
  | [] => []
  | (key, value) :: fields => (key, dumps value) :: dumpsFields fields

end

/-- The rendering as a string. -/
def dumpsText (payload : Json) : String := String.ofList (dumps payload)

end Json

end Orchestra
