import CurveSketch.Number.Decimal
import CurveSketch.Value

/-!
# The range of a function

A function is swept over a grid and probed at a few far points.  An ordered list of rules turns the
least and the greatest value, the infinities met and the far values into a description; the first
rule that applies decides.

* `Range` — the descriptions, with their bounds unrounded.
* `Range.Rule` — the levels and tolerances.
* `Range.Sweep` — what a sweep has found: the extremes, the number of finite values, and whether
  an infinity of either sign was met.
* `Range.ofShape?` — the rules for the far values, `Range.ofExtremes` those for the extremes.
* `Range.of` — the description of a function's range.
* `Range.check` — a failure when a single number is needed and there are several.
* `Range.text` — its wording, with bounds to two decimal places.
-/

namespace CurveSketch

open Number

/-- A bound: a whole number by convention, or a measured value. -/
inductive Range.Bound (α : Type) where
  | whole (n : Int)
  | measured (y : α)
  deriving DecidableEq, Repr

/-- A description of a range. -/
inductive Range (α : Type) where
  /-- All real numbers. -/
  | all
  /-- The function grows beyond all bounds somewhere. -/
  | rising
  /-- The function falls beyond all bounds somewhere. -/
  | falling
  /-- There is too little to go by. -/
  | undetermined
  /-- All numbers from a bound on. -/
  | atLeast (low : Range.Bound α)
  /-- All numbers up to a bound. -/
  | atMost (high : Range.Bound α)
  /-- The numbers between two bounds. -/
  | between (low high : Range.Bound α)
  /-- A single number, roughly. -/
  | about (y : α)
  deriving DecidableEq, Repr

namespace Range

/-- The levels and tolerances of the rules. -/
structure Rule (α : Type) where
  /-- The least number of finite values. -/
  minSamples : Int
  /-- The far points, from left to right. -/
  farPoints : List α
  /-- Values beyond this are large. -/
  large : α
  /-- A slope beyond this is steep enough for a monotone function to reach all numbers. -/
  minSlope : α
  /-- Extremes nearer than this are those of a constant. -/
  constantTolerance : α
  /-- Values within this of zero are zero. -/
  zeroTolerance : α
  /-- Extremes within this of zero, but not within `waveInner`, are those of a sine wave. -/
  waveOuter : α
  waveInner : α

variable {α : Type} [Scalar α]

/-- The usual rule. -/
def Rule.standard : Rule α where
  minSamples := 10
  farPoints := [-100.0, -10.0, 0.0, 10.0, 100.0]
  large := 100.0
  minSlope := 0.1
  constantTolerance := 0.01
  zeroTolerance := 0.1
  waveOuter := 1.1
  waveInner := 0.9

/-- What a sweep has found. -/
structure Sweep (α : Type) where
  /-- The least and the greatest finite value. -/
  extremes : Option (α × α)
  /-- How many values are finite. -/
  count : Nat
  /-- Whether a value is infinite upward, or downward. -/
  up : Bool
  down : Bool

/-- A sweep before its first point. -/
def Sweep.empty : Sweep α := ⟨none, 0, false, false⟩

/-- A sweep after one more value. -/
def Sweep.add (s : Sweep α) : Value α → Sweep α
  | .finite y =>
    { s with
      extremes := match s.extremes with
        | none => some (y, y)
        | some (low, high) => some (Scalar.least low y, Scalar.greatest high y)
      count := s.count + 1 }
  | .posInfinite => { s with up := true }
  | .negInfinite => { s with down := true }
  | _ => s

/-- The sweep of a function over points. -/
def Sweep.of (f : α → Value α) (points : List α) : Sweep α :=
  points.foldl (fun s x => s.add (f x)) .empty

/-- Whether a number is zero, within the tolerance. -/
def nearZero (rule : Rule α) (y : α) : Bool := -rule.zeroTolerance ≤ y && y ≤ rule.zeroTolerance

/-- A measured value as a bound; zero if it is near zero. -/
def bound (rule : Rule α) (y : α) : Bound α := if nearZero rule y then .whole 0 else .measured y

/-- What the far values alone tell: that the function opens upward or downward, or that it rises or
falls throughout, steeply enough. -/
def ofShape? (rule : Rule α) (far : List α) (low high : α) : Option (Range α) :=
  match far, rule.farPoints with
  | [a, b, c, d, e], [first, _, _, _, last] =>
    if rule.large < a ∧ rule.large < e ∧ c ≤ Scalar.least a e then some (.atLeast (bound rule low))
    else if a < -rule.large ∧ e < -rule.large ∧ Scalar.greatest a e ≤ c then
      some (.atMost (bound rule high))
    else if (a < b ∧ b < c ∧ c < d ∧ d < e) ∨ (b < a ∧ c < b ∧ d < c ∧ e < d) then
      if rule.minSlope < Scalar.abs ((e - a) / (last - first)) then some .all else none
    else none
  | _, _ => none

/-- What the extremes of a sweep tell. -/
def ofExtremes (rule : Rule α) (low high : α) : Range α :=
  if Scalar.abs (high - low) < rule.constantTolerance then .about ((low + high) / Scalar.ofInt 2)
  else if (-rule.waveOuter ≤ low ∧ low ≤ -rule.waveInner) ∧
      (rule.waveInner ≤ high ∧ high ≤ rule.waveOuter) then
    .between (.whole (-1)) (.whole 1)
  else if nearZero rule low then
    if rule.large < high then .atLeast (.whole 0) else .between (.whole 0) (.measured high)
  else if nearZero rule high then
    if low < -rule.large then .atMost (.whole 0) else .between (.measured low) (.whole 0)
  else if rule.large < Scalar.abs (high - low) then .all
  else .between (.measured low) (.measured high)

/-- The finite values at all of the points, `none` if one of them is not finite. -/
def farValues? (f : α → Value α) (points : List α) : Option (List α) :=
  points.mapM fun x => (f x).finite?

/-- The description that the far values give, if they are all finite and give one. -/
def shape? (rule : Rule α) (f : α → Value α) (low high : α) : Option (Range α) := do
  let far ← farValues? f rule.farPoints
  ofShape? rule far low high

/-- The extremes of a sweep that met no infinity and has enough values. -/
def Sweep.decided? (rule : Rule α) (s : Sweep α) : Option (α × α) :=
  if s.up || s.down || s.count < rule.minSamples then none else s.extremes

/-- The description of a function's range, from a sweep over the points. -/
def of (rule : Rule α) (f : α → Value α) (points : List α) : Range α :=
  let s := Sweep.of f points
  if s.up && s.down then .all
  else if s.up then .rising
  else if s.down then .falling
  else match s.decided? rule with
    | none => .undetermined
    | some (low, high) => (shape? rule f low high).getD (ofExtremes rule low high)

/-- The description that the far values gave, if they decided. -/
def decidingShape? (rule : Rule α) (f : α → Value α) (points : List α) : Option (Range α) := do
  let (low, high) ← (Sweep.of f points).decided? rule
  shape? rule f low high

/-- Fails if a relation takes several numbers at a point of the sweep, or at the first far point
without a finite value when the far values are looked at. -/
def check (rule : Rule α) (f : α → Value α) (points : List α) : Except NumberError Unit := do
  requireSingle f points
  match (Sweep.of f points).decided? rule, rule.farPoints.find? fun x => !(f x).isFinite with
  | some _, some x => requireSingle f [x]
  | _, _ => .ok ()

/-- The wording of a bound. -/
def Bound.text : Bound Float → String
  | whole n => toString n
  | measured y => String.ofList (fixed 2 y)

/-- What is said when nothing is excluded. -/
def allRealNumbers : String := "All real numbers (ℝ)"

/-- The wording of a description. -/
def text : Range Float → String
  | all => allRealNumbers
  | rising => "y → +∞"
  | falling => "y → -∞"
  | undetermined => "Cannot determine range"
  | atLeast low => s!"y ≥ {low.text}"
  | atMost high => s!"y ≤ {high.text}"
  | between low high => s!"{low.text} ≤ y ≤ {high.text}"
  | about y => s!"y ≈ {String.ofList (fixed 2 y)} (approximately constant)"

end Range

end CurveSketch
