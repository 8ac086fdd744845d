import Orchestra.Core.Text

/-!
# JSON values and their canonical encoding

What the program signs and digests is JSON: pydantic models are dumped to dictionaries, and the
dictionaries are rendered by `json.dumps` with sorted keys, no blanks and no ASCII escaping. A
dictionary is kept as its list of items in insertion order; the rendering sorts.
-/

namespace Orchestra

/-- The JSON values the program builds. -/
inductive Json where
  | null
  | bool (b : Bool)
  | int (n : Int)
  /-- A float, as `repr` prints it. -/
  | float (text : String)
  | str (s : String)
  | arr (items : List Json)
  | obj (fields : List (String × Json))
  deriving Inhabited

namespace Json

mutual

/-- Structural equality of values. -/
def decEq : (a b : Json) → Decidable (a = b)
  | .null, .null => isTrue rfl
  | .bool a, .bool b => decidable_of_iff (a = b) (by simp)
  | .int a, .int b => decidable_of_iff (a = b) (by simp)
  | .float a, .float b => decidable_of_iff (a = b) (by simp)
  | .str a, .str b => decidable_of_iff (a = b) (by simp)
  | .arr a, .arr b => @decidable_of_iff _ (a = b) (by simp) (decEqItems a b)
  | .obj a, .obj b => @decidable_of_iff _ (a = b) (by simp) (decEqFields a b)
  | .null, .bool _ | .null, .int _ | .null, .float _ | .null, .str _ | .null, .arr _ | .null, .obj _
  | .bool _, .null | .bool _, .int _ | .bool _, .float _ | .bool _, .str _
  | .bool _, .arr _ | .bool _, .obj _
  | .int _, .null | .int _, .bool _ | .int _, .float _ | .int _, .str _
  | .int _, .arr _ | .int _, .obj _
  | .float _, .null | .float _, .bool _ | .float _, .int _ | .float _, .str _
  | .float _, .arr _ | .float _, .obj _
  | .str _, .null | .str _, .bool _ | .str _, .int _ | .str _, .float _
  | .str _, .arr _ | .str _, .obj _
  | .arr _, .null | .arr _, .bool _ | .arr _, .int _ | .arr _, .float _
  | .arr _, .str _ | .arr _, .obj _
  | .obj _, .null | .obj _, .bool _ | .obj _, .int _ | .obj _, .float _
  | .obj _, .str _ | .obj _, .arr _ =>
    isFalse nofun

def decEqItems : (a b : List Json) → Decidable (a = b)
  | [], [] => isTrue rfl
  | [], _ :: _ | _ :: _, [] => isFalse nofun
  | x :: xs, y :: ys =>
    @decidable_of_iff _ (x = y ∧ xs = ys) (by simp)
      (@instDecidableAnd _ _ (decEq x y) (decEqItems xs ys))

def decEqFields : (a b : List (String × Json)) → Decidable (a = b)
  | [], [] => isTrue rfl
  | [], _ :: _ | _ :: _, [] => isFalse nofun
  | (k, x) :: xs, (l, y) :: ys =>
    @decidable_of_iff _ (k = l ∧ x = y ∧ xs = ys) (by simp [and_assoc])
      (@instDecidableAnd _ _ inferInstance
        (@instDecidableAnd _ _ (decEq x y) (decEqFields xs ys)))

end

instance : DecidableEq Json := decEq

/-- `d.get(key)`; `none` also stands for a value that is not a dictionary. -/
def get? : Json → String → Option Json
  | .obj fields, key => (fields.find? fun p ↦ p.1 == key).map Prod.snd
  | _, _ => none

/-- The items of a dictionary. -/
def items : Json → List (String × Json)
  | .obj fields => fields
  | _ => []

/-- `{**d, key: value}`: an existing key keeps its position, a new one goes last. -/
def setField (fields : List (String × Json)) (key : String) (value : Json) :
    List (String × Json) :=
  if fields.any fun p ↦ p.1 == key then
    fields.map fun p ↦ if p.1 == key then (key, value) else p
  else fields ++ [(key, value)]

/-- `{**d, **e}`. -/
def merge (fields others : List (String × Json)) : List (String × Json) :=
  others.foldl (fun acc p ↦ setField acc p.1 p.2) fields

/-- An optional string field, `None` being JSON `null`. -/
def ofOption : Option String → Json
  | none => .null
  | some s => .str s

/-! ## The canonical rendering -/

/-- One character inside a JSON string. Control characters without a short form are written in
four hexadecimal digits. -/
def escapeChar (c : Char) : List Char :=
  if c = '"' then ['\\', '"']
  else if c = '\\' then ['\\', '\\']
  else if c = '\n' then ['\\', 'n']
  else if c = '\r' then ['\\', 'r']
  else if c = '\t' then ['\\', 't']
  else if c.toNat = 8 then ['\\', 'b']
  else if c.toNat = 12 then ['\\', 'f']
  else if c.toNat < 32 then
    ['\\', 'u', '0', '0', hexDigit (c.toNat / 16), hexDigit (c.toNat % 16)]
  else [c]

/-- A quoted JSON string. -/
def renderString (s : String) : List Char :=
  '"' :: (s.toList.flatMap escapeChar) ++ ['"']

/-- Items separated by commas. -/
def joinComma : List (List Char) → List Char
  | [] => []
  | [item] => item
  | item :: items => item ++ ',' :: joinComma items

mutual

/-- `json.dumps(payload, sort_keys=True, separators=(",", ":"), ensure_ascii=False)`. -/
def render : Json → List Char
  | .null => "null".toList
  | .bool true => "true".toList
  | .bool false => "false".toList
  | .int n => (toString n).toList
  | .float text => text.toList
  | .str s => renderString s
  | .arr items => '[' :: joinComma (renderItems items) ++ [']']
  | .obj fields =>
    let sorted := (renderFields fields).insertionSort fun p q ↦ p.1 ≤ q.1
    '\x7b' :: joinComma (sorted.map fun p ↦ renderString p.1 ++ ':' :: p.2) ++ ['\x7d']

/-- The renderings of the items of a list. -/
def renderItems : List Json → List (List Char)
  | [] => []
  | item :: items => render item :: renderItems items

/-- The renderings of the values of a dictionary, beside their keys. -/
def renderFields : List (String × Json) → List (String × List Char)
  | [] => []
  | (key, value) :: fields => (key, render value) :: renderFields fields

end

/-- `_canonical_json`: the rendering as UTF-8. -/
def canonicalJson (payload : Json) : List UInt8 :=
  (String.ofList (render payload)).toUTF8.toList

end Json

end Orchestra
