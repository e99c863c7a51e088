import CurveSketch.Scalar

/-!
# What a relation takes at a point

* `Value` — a finite number, an infinity, no number, or more than one.
* `Value.finite?` — the finite number, if it is one.
* `Value.ofFloat` — a binary64 number seen this way.
* `requireSingle` — a failure unless a relation takes a single number, or none, at each of some
  points.
-/

namespace CurveSketch

open Number

/-- What a relation takes at a point. -/
inductive Value (α : Type) where
  /-- A finite number. -/
  | finite (y : α)
  /-- It grows beyond all bounds. -/
  | posInfinite
  /-- It falls beyond all bounds. -/
  | negInfinite
  /-- There is no number. -/
  | undefined
  /-- There is not exactly one number, as on a vertical line; so the relation is not a function. -/
  | several
  deriving DecidableEq, Repr

namespace Value

variable {α : Type}

/-- The finite number at a point, if there is one. -/
def finite? : Value α → Option α
  | finite y => some y
  | _ => none

/-- Whether there is a finite number. -/
def isFinite (v : Value α) : Bool := v.finite?.isSome

/-- Whether there is exactly one number, or none, at a point. -/
def isSingle : Value α → Bool
  | several => false
  | _ => true

/-- The value opposite to a value. -/
def neg [Neg α] : Value α → Value α
  | finite y => finite (-y)
  | posInfinite => negInfinite
  | negInfinite => posInfinite
  | undefined => undefined
  | several => several

/-- A binary64 number as a value. -/
def ofFloat (y : Float) : Value Float :=
  if y.isFinite then finite y
  else if y.isNaN then undefined
  else if 0.0 < y then posInfinite
  else negInfinite

/-- The binary64 number that is a value, if there is exactly one. -/
def toFloat? : Value Float → Option Float
  | finite y => some y
  | posInfinite => some infinity
  | negInfinite => some (-infinity)
  | undefined => some notANumber
  | several => none

end Value

/-- Fails if a relation takes several numbers at one of the points. -/
def requireSingle {α : Type} (f : α → Value α) (points : List α) : Except NumberError Unit :=
  if points.all fun x => (f x).isSingle then .ok () else .error .notSingle

end CurveSketch
