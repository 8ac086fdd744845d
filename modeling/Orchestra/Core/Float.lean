import Mathlib.Algebra.Order.Field.Rat
import Mathlib.Data.Rat.Floor
import Orchestra.Core.Time

/-!
# Floating-point numbers

The value of a float is a rational number, and an operation rounds its exact result to a float. How
it rounds and how `repr` prints a float belong to the platform, so they are parameters; exact
arithmetic is the case in which `round` is the identity. Comparison is exact.
-/

namespace Orchestra

structure FloatModel where
  /-- The float nearest to a number. -/
  round : ℚ → ℚ
  /-- `repr` of a float. -/
  repr : ℚ → String

namespace FloatModel

variable (F : FloatModel)

def add (a b : ℚ) : ℚ := F.round (a + b)

def sub (a b : ℚ) : ℚ := F.round (a - b)

def div (a b : ℚ) : ℚ := F.round (a / b)

/-- `max(0.0, a)`. -/
def max0 (a : ℚ) : ℚ := if 0 < a then a else 0

/-- The nearest integer, the even one of two. -/
def roundHalfEven (a : ℚ) : ℤ :=
  let n := ⌊a⌋
  let rest := a - n
  if rest < 1 / 2 then n
  else if 1 / 2 < rest then n + 1
  else if n % 2 = 0 then n else n + 1

/-- `f"{a:.3f}"`. -/
def format3 (a : ℚ) : String :=
  let n := (roundHalfEven (|a| * 1000)).toNat
  (if a < 0 then "-" else "") ++ toString (n / 1000) ++ "." ++ zeroPad 3 (n % 1000)

end FloatModel

end Orchestra
