import CurveSketch.Expr
import CurveSketch.Number.Reading

/-!
# The arithmetic of curves

Values are binary64 numbers.  Nothing fails: a quotient by zero is an infinity with the sign of
both parts, an argument outside a function's domain gives NaN, and what is too large is infinite.

* `applyOperator`, `applyFn` — the operations and the functions.
* `arithmetic` — the interpretation they make up.
-/

namespace CurveSketch

open Number

/-- The operations on binary64 numbers. -/
def applyOperator : Operator → Float → Float → Float
  | .add, a, b => a + b
  | .sub, a, b => a - b
  | .mul, a, b => a * b
  | .div, a, b => a / b
  | .pow, a, b => Float.pow a b

/-- A function on the integers' side of the real line: infinities and NaN are kept, and a zero
result has no sign. -/
def integral (f : Float → Float) (x : Float) : Float := if x.isFinite then f x + 0.0 else x

/-- The functions on binary64 numbers.  Half an integer is rounded upward. -/
def applyFn : Fn → Float → Float
  | .sin, x => Float.sin x
  | .cos, x => Float.cos x
  | .tan, x => Float.tan x
  | .csc, x => 1.0 / Float.sin x
  | .sec, x => 1.0 / Float.cos x
  | .cot, x => 1.0 / Float.tan x
  | .log, x => Float.log10 x
  | .ln, x => Float.log x
  | .sqrt, x => Float.sqrt x
  | .abs, x => Float.abs x
  | .floor, x => integral Float.floor x
  | .ceil, x => integral Float.ceil x
  | .round, x => integral (fun x => Float.floor (x + 0.5)) x
  | .exp, x => Float.exp x

/-- Expressions over binary64 numbers. -/
def arithmetic : Interpretation Float where
  number v := v
  negate x := -x
  binary := applyOperator
  call := applyFn

end CurveSketch
