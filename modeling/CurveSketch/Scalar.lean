import CurveSketch.Number.Reading

/-!
# Numbers that analyses compute with

The analyses use nothing of their numbers but arithmetic, comparison and rounding to whole numbers
and tenths.  They are written for any type that has these, and run on binary64; over a type with
exact arithmetic the same definitions say what they say without rounding errors.

* `Scalar` — such a type of numbers.
* `Scalar.abs`, `Scalar.least`, `Scalar.greatest` — what follows from arithmetic and comparison.
* `keepApart` — of a list of things with positions, those that are not too near to one kept before
  them.
-/

namespace CurveSketch

open Number

/-- A type of numbers with arithmetic, decidable comparison and rounding to whole numbers and
tenths. -/
class Scalar (α : Type) extends Add α, Sub α, Mul α, Div α, Neg α, LT α, LE α, OfScientific α where
  /-- Comparison can be decided. -/
  decideLt : ∀ a b : α, Decidable (a < b)
  /-- Comparison can be decided. -/
  decideLe : ∀ a b : α, Decidable (a ≤ b)
  /-- The number that an integer is. -/
  ofInt : Int → α
  /-- The nearest whole number; half goes to the even one. -/
  whole : α → α
  /-- The nearest multiple of a tenth. -/
  tenth : α → α

namespace Scalar

variable {α : Type} [Scalar α]

instance (a b : α) : Decidable (a < b) := decideLt a b

instance (a b : α) : Decidable (a ≤ b) := decideLe a b

/-- Zero. -/
def zero : α := ofInt 0

/-- Whether a number is zero, of either sign. -/
def isZero (a : α) : Bool := a ≤ zero && zero ≤ a

/-- The size of a number without its sign. -/
def abs (a : α) : α := if a < zero then -a else a

/-- The distance of two numbers. -/
def distance (a b : α) : α := abs (a - b)

/-- The lesser of two numbers, the first if neither is less. -/
def least (a b : α) : α := if b < a then b else a

/-- The greater of two numbers, the first if neither is greater. -/
def greatest (a b : α) : α := if a < b then b else a

end Scalar

/-! ## Keeping things apart -/

section KeepApart

variable {α β : Type} [Scalar α]

/-- Whether one of the things lies nearer than the distance to a position. -/
def isNear (position : β → α) (distance : α) (kept : List β) (x : α) : Bool :=
  kept.any fun k => Scalar.distance (position k) x < distance

/-- The things that are not too near to one of `kept` or to one taken before them. -/
def keepApartFrom (position : β → α) (distance : α) (kept : List β) : List β → List β
  | [] => []
  | b :: rest =>
    if isNear position distance kept (position b) then keepApartFrom position distance kept rest
    else b :: keepApartFrom position distance (b :: kept) rest

/-- The things that are not too near to one taken before them. -/
def keepApart (position : β → α) (distance : α) (bs : List β) : List β :=
  keepApartFrom position distance [] bs

end KeepApart

/-! ## Binary64 -/

/-- The whole number nearest to a number; half goes to the even one.  What is not finite stays as it
is. -/
def nearestWhole (x : Float) : Float :=
  match nearestInt? x with
  | some n => ofInt n
  | none => x

/-- The multiple of a tenth nearest to the exact value of a number, read as binary64.  A zero has no
sign. -/
def nearestTenth (x : Float) : Float :=
  match Binary64.of x with
  | .finite negative significand exponent =>
    let size := ratio significand exponent
    let y := ofDecimal (roundScaled size.1 size.2 1) (-1)
    (if negative then -y else y) + 0.0
  | _ => x

instance : Scalar Float where
  decideLt := Float.decLt
  decideLe := Float.decLe
  ofInt := Number.ofInt
  whole := nearestWhole
  tenth := nearestTenth

end CurveSketch
