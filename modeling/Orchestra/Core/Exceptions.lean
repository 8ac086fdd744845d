import Mathlib.Data.List.Infix
import Mathlib.Data.Rat.Defs
import Orchestra.Core.Json

/-!
# Exceptions and dynamic values

An exception is known by its class and its text, which is what `type(e).__name__` and `str(e)` show
of it. The exceptions the interpreter itself raises when a value does not have the operation asked
for name the type of the value.

The operations on values of unknown type are those of the interpreter: truth, `get`, `in`, iteration
and `str`.
-/

namespace Orchestra

/-- An exception that is caught: its class and its text. -/
structure Raised where
  typeName : String
  text : String
  deriving DecidableEq

/-- A sequence of two computations succeeds when both do. -/
theorem bind_eq_ok_iff {ε α β : Type} {x : Except ε α} {f : α → Except ε β} {b : β} :
    x >>= f = .ok b ↔ ∃ a, x = .ok a ∧ f a = .ok b := by
  cases x with
  | error e => exact iff_of_false nofun fun ⟨_, h, _⟩ ↦ by cases h
  | ok a => exact ⟨fun h ↦ ⟨a, rfl, h⟩, fun ⟨_, h, hf⟩ ↦ Except.ok.inj h ▸ hf⟩

theorem map_eq_ok_iff {ε α β : Type} {x : Except ε α} {f : α → β} {b : β} :
    x.map f = .ok b ↔ ∃ a, x = .ok a ∧ f a = b := by
  cases x with
  | error e => exact iff_of_false nofun fun ⟨_, h, _⟩ ↦ by cases h
  | ok a => exact ⟨fun h ↦ ⟨a, rfl, Except.ok.inj h⟩, fun ⟨_, h, hf⟩ ↦ Except.ok.inj h ▸ hf ▸ rfl⟩

theorem seq_eq_ok_iff {ε β : Type} {x : Except ε Unit} {y : Except ε β} {b : β} :
    (x >>= fun _ ↦ y) = .ok b ↔ x = .ok () ∧ y = .ok b := by
  rw [bind_eq_ok_iff]
  constructor
  · rintro ⟨⟨⟩, h⟩
    exact h
  · intro h
    exact ⟨(), h⟩

/-- A loop of checks succeeds when all of them do. -/
theorem forM_eq_ok_iff {ε α : Type} {xs : List α} {f : α → Except ε Unit} :
    xs.forM f = .ok () ↔ ∀ x ∈ xs, f x = .ok () := by
  induction xs with
  | nil => exact iff_of_true rfl (by simp)
  | cons x xs ih =>
    rw [List.forall_mem_cons, ← ih, ← seq_eq_ok_iff]
    rfl

/-- `type(value).__name__`. -/
def Json.typeName : Json → String
  | .null => "NoneType"
  | .bool _ => "bool"
  | .int _ => "int"
  | .float _ => "float"
  | .str _ => "str"
  | .arr _ => "list"
  | .obj _ => "dict"

namespace Raised

def attributeError (value : Json) (name : String) : Raised :=
  ⟨"AttributeError", "'" ++ value.typeName ++ "' object has no attribute '" ++ name ++ "'"⟩

def notIterable (value : Json) : Raised :=
  ⟨"TypeError", "'" ++ value.typeName ++ "' object is not iterable"⟩

def contractViolation (text : String) : Raised := ⟨"ContractViolation", text⟩

def orchestraError (text : String) : Raised := ⟨"OrchestraError", text⟩

end Raised

/-- `a / b`. -/
def divide (a b : ℚ) : Except Raised ℚ :=
  if b = 0 then .error ⟨"ZeroDivisionError", "division by zero"⟩ else .ok (a / b)

theorem divide_of_ne {a b : ℚ} (hb : b ≠ 0) : divide a b = .ok (a / b) := if_neg hb

namespace Json

/-- `d[key]`, for a text. -/
def getItem (value : Json) (key : String) : Except Raised Json :=
  match value with
  | .obj _ =>
    match value.get? key with
    | some item => .ok item
    | none => .error ⟨"KeyError", Orchestra.pyRepr key⟩
  | .str _ => .error ⟨"TypeError", "string indices must be integers, not 'str'"⟩
  | .arr _ => .error ⟨"TypeError", "list indices must be integers or slices, not str"⟩
  | _ => .error ⟨"TypeError", "'" ++ value.typeName ++ "' object is not subscriptable"⟩

/-- `d.get(key, default)`. -/
def getD (value : Json) (key : String) (default : Json) : Except Raised Json :=
  match value with
  | .obj _ => .ok ((value.get? key).getD default)
  | _ => .error (.attributeError value "get")

/-- `bool(value)`. -/
def truthy : Json → Bool
  | .null => false
  | .bool b => b
  | .int n => n != 0
  | .float text => text != "0.0" && text != "-0.0"
  | .str s => s != ""
  | .arr items => !items.isEmpty
  | .obj fields => !fields.isEmpty

/-- `value or default`. -/
def orElse (value default : Json) : Json := if value.truthy then value else default

/-- `iter(value)`. -/
def iterate : Json → Except Raised (List Json)
  | .str s => .ok (s.toList.map fun c ↦ .str (String.ofList [c]))
  | .arr items => .ok items
  | .obj fields => .ok (fields.map fun f ↦ .str f.1)
  | value => .error (.notIterable value)

/-- `text in value`. -/
def containsText (value : Json) (text : String) : Except Raised Bool :=
  match value with
  | .str s => .ok (decide (text.toList <:+: s.toList))
  | .arr items => .ok (decide (.str text ∈ items))
  | .obj fields => .ok (decide (text ∈ fields.map Prod.fst))
  | _ => .error ⟨"TypeError", "argument of type '" ++ value.typeName ++ "' is not iterable"⟩

mutual

/-- `repr(value)`. -/
def pyRepr : Json → String
  | .null => "None"
  | .bool true => "True"
  | .bool false => "False"
  | .int n => toString n
  | .float text => text
  | .str s => Orchestra.pyRepr s
  | .arr items => "[" ++ ", ".intercalate (pyReprItems items) ++ "]"
  | .obj fields => "\x7b" ++ ", ".intercalate (pyReprFields fields) ++ "\x7d"

def pyReprItems : List Json → List String
  | [] => []
  | item :: items => pyRepr item :: pyReprItems items

def pyReprFields : List (String × Json) → List String
  | [] => []
  | (key, value) :: fields =>
    (Orchestra.pyRepr key ++ ": " ++ pyRepr value) :: pyReprFields fields

end

/-- `str(value)`. -/
def pyStr : Json → String
  | .str s => s
  | value => value.pyRepr

end Json

end Orchestra
