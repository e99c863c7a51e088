import CurveSketch.Number.Reading
import CurveSketch.Number.Shortest

/-!
# Numbers as a caller gives them

A caller gives a range and a step in whole numbers of any size or in binary64 numbers.  Whole
numbers are subtracted, compared and divided exactly; only a result, or a partner that is not
whole, turns them into binary64.

* `Quantity` — a number of either sort.
* `Quantity.toFloat`, `Quantity.sub`, `Quantity.divide` — conversion and arithmetic, each with its
  failures.
* `Quantity.lt` — the exact order across both sorts.
* `Quantity.text` — a whole number in digits, a binary64 one by its shortest text.
-/

namespace CurveSketch

open Number Text

/-- A number given by a caller. -/
inductive Quantity where
  | whole (n : Int)
  | real (x : Float)

namespace Quantity

/-- The binary64 number nearest to a quantity.  A whole number may be beyond the range. -/
def toFloat : Quantity → Except NumberError Float
  | real x => .ok x
  | whole n =>
    let x := ofInt n
    if x.isFinite then .ok x else .error .integerTooLarge

/-- The difference of two quantities. -/
def sub : Quantity → Quantity → Except NumberError Quantity
  | whole a, whole b => .ok (whole (a - b))
  | a, b => do
    let x ← a.toFloat
    let y ← b.toFloat
    .ok (real (x - y))

/-- The quotient of two quantities. -/
def divide : Quantity → Quantity → Except NumberError Float
  | whole a, whole b =>
    if b = 0 then .error .integerDivisionByZero
    else
      let x := ofRatio a.natAbs b.natAbs
      if x.isFinite then .ok (if (a < 0) ≠ (b < 0) then -x else x)
      else .error .quotientTooLarge
  | a, b => do
    let x ← a.toFloat
    let y ← b.toFloat
    if y == 0.0 then .error .realDivisionByZero else .ok (x / y)

/-- Whether a quantity is finite.  Of a whole number this is asked of its binary64 neighbour. -/
def isFinite (q : Quantity) : Except NumberError Bool := do
  let x ← q.toFloat
  .ok x.isFinite

/-- Whether an integer is below a binary64 number, exactly. -/
def wholeLtReal (n : Int) (x : Float) : Bool :=
  match Binary64.of x with
  | .nan => false
  | .infinite negative => !negative
  | .finite negative significand exponent =>
    let (num, den) := ratio significand exponent
    decide (n * den < if negative then -(num : Int) else num)

/-- The order of quantities. -/
def lt : Quantity → Quantity → Bool
  | whole a, whole b => a < b
  | real x, real y => x < y
  | whole a, real y => wholeLtReal a y
  | real x, whole b => wholeLtReal (-b) (-x)

/-- The greatest binary64 number that is not above a quantity, for quantities above zero. -/
def floor : Quantity → Float
  | real x => x
  | whole n =>
    let x := ofInt n
    if lt (whole n) (real x) then Float.ofBits (x.toBits - 1) else x

/-- The text of a quantity. -/
def text : Quantity → String
  | whole n => toString n
  | real x => String.ofList (shortest x)

end Quantity

end CurveSketch
