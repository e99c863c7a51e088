import CurveSketch.Number.Quantity
import CurveSketch.Scalar

/-!
# Grids of points

A grid is given by its ends and its step.  The step only decides how many points there are: the
quotient of length and step, rounded, is the number of gaps, and the points divide the length
evenly.  Every point is found from its index and rounded to some decimal places, so that points at
decimal numbers are those numbers.

* `Grid.gaps` — the number of gaps.
* `Grid.spaced` — evenly spaced points.
* `Grid.toPlaces` — rounding to decimal places.
* `Grid.points` — the points of a grid.
-/

namespace CurveSketch.Grid

open Number

/-- The integer nearest to a number of gaps. -/
def nearest (x : Float) : Except NumberError Int :=
  match nearestInt? x with
  | some n => .ok n
  | none => if x.isNaN then .error .nanToInteger else .error .infinityToInteger

/-- The number of gaps of a grid. -/
def gaps (start stop step : Quantity) : Except NumberError Int := do
  let length ← stop.sub start
  let quotient ← length.divide step
  nearest quotient

variable {α : Type} [Scalar α]

/-- A power of ten, multiplied up factor by factor.  From four hundred factors on it is infinite. -/
def powerOfTen (n : Nat) : α := Nat.repeat (· * 10.0) (min n 400) 1.0

/-- A number rounded to decimal places, or to tens, hundreds and so on if `places` is negative.
The number is scaled, rounded to a whole one and scaled back.  A zero has no sign. -/
def toPlaces : (places : Int) → α → α
  | .ofNat 0, x => Scalar.whole x + 0.0
  | .ofNat n, x => Scalar.whole (x * powerOfTen n) / powerOfTen n + 0.0
  | .negSucc n, x => Scalar.whole (x / powerOfTen (n + 1)) * powerOfTen (n + 1) + 0.0

/-- The point with an index on the way from `start` over a length in `count` gaps.  When the gap is
too small to be a number the index is divided first. -/
def pointAt (start length : α) (count index : Nat) : α :=
  let i : α := Scalar.ofInt index
  let gap := length / Scalar.ofInt count
  (if Scalar.isZero gap then i / Scalar.ofInt count * length else i * gap) + start

/-- Points from `start` to `stop` with so many gaps between them.  The last one is `stop` itself. -/
def spaced (start stop : α) (count : Nat) : List α :=
  (List.range count).map (pointAt start (stop - start) count) ++
    [if count = 0 then start else stop]

/-- More points than this cannot be counted. -/
def greatestCount : Int := Int.pow 2 63 - 1

/-- The points of a grid that has so many gaps.  A grid with one gap less than none is empty. -/
def withGaps (places : Int) (start stop : α) (count : Int) : Except NumberError (List α) :=
  if count + 1 < 0 then .error (.negativeCount (count + 1))
  else if greatestCount < count + 1 then .error .countTooLarge
  else if count + 1 = 0 then .ok []
  else .ok ((spaced start stop count.toNat).map (toPlaces places))

/-- The points of a grid, rounded to decimal places. -/
def points (places : Int) (start stop step : Quantity) : Except NumberError (List Float) := do
  let count ← gaps start stop step
  let first ← start.toFloat
  let last ← stop.toFloat
  withGaps places first last count

/-- The ends and the step of a grid. -/
structure Span where
  start : Float
  stop : Float
  step : Float

/-- The points of a span. -/
def Span.points (places : Int) (s : Span) : Except NumberError (List Float) :=
  Grid.points places (.real s.start) (.real s.stop) (.real s.step)

end CurveSketch.Grid
