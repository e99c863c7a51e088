import CurveSketch.Grid
import CurveSketch.Scalar
import CurveSketch.Value

/-!
# Vertical asymptotes

A range is walked step by step.  A point is suspected of a vertical asymptote by its own value and
by those one step away on each side, and suspects near an earlier one are dropped.

* `Asymptote.Method`, `Asymptote.Candidate` — how a point was found, and where.
* `Asymptote.classify?` — whether a point is suspected, from the three values.
* `Asymptote.walk` — the candidates among the points of a walk.
* `Asymptote.ScanError` — ranges, thresholds and numbers of steps that make no sense.
* `Asymptote.scan`, `Asymptote.positions` — the candidates in a range, and where they are.
-/

namespace CurveSketch.Asymptote

open Number

/-- How a candidate was found. -/
inductive Method where
  /-- The function is undefined there and defined on both sides. -/
  | undefined
  /-- The values on both sides are large and of opposite sign. -/
  | signFlip
  /-- The function changes steeply between large values of opposite sign. -/
  | slopeSpike
  deriving DecidableEq, Repr

/-- The name of a method. -/
def Method.name : Method → String
  | undefined => "undefined"
  | signFlip => "sign_flip"
  | slopeSpike => "slope_spike"

/-- A suspected vertical asymptote. -/
structure Candidate (α : Type) where
  x : α
  method : Method
  deriving DecidableEq, Repr

variable {α : Type} [Scalar α]

/-- Whether one number is above zero and the other below. -/
def areOpposite (a b : α) : Bool :=
  (Scalar.zero < a && b < Scalar.zero) || (a < Scalar.zero && Scalar.zero < b)

/-- Whether a point is suspected, from the values a step before it, at it, and a step after it. -/
def classify? (step threshold : α) : (left centre right : Value α) → Option Method
  | .finite a, .finite y, .finite b =>
    if threshold < Scalar.abs a ∧ threshold < Scalar.abs b ∧ areOpposite a b then some .signFlip
    else
      let slope := Scalar.greatest (Scalar.abs (y - a)) (Scalar.abs (b - y)) / step
      if threshold / step < slope ∧
          ((threshold < a ∧ b < -threshold) ∨ (a < -threshold ∧ threshold < b)) then
        some .slopeSpike
      else none
  | .finite _, _, .finite _ => some .undefined
  | _, _, _ => none

/-- The candidate at a point, if it is suspected. -/
def candidateAt? (f : α → Value α) (step threshold x : α) : Option (Candidate α) :=
  (classify? step threshold (f (x - step)) (f x) (f (x + step))).map fun method => ⟨x, method⟩

/-- The points of a walk that are suspected. -/
def flagged (f : α → Value α) (step threshold : α) (points : List α) : List (Candidate α) :=
  points.filterMap (candidateAt? f step threshold)

/-- The candidates among the points of a walk: those that are suspected and not near to an earlier
candidate. -/
def walk (f : α → Value α) (step threshold distance : α) (points : List α) : List (Candidate α) :=
  keepApart Candidate.x distance (flagged f step threshold points)

/-- How ranges are scanned. -/
structure Rule where
  /-- How many steps a scan takes. -/
  steps : Int := 2000
  /-- Candidates nearer than this many steps are the same. -/
  dedupFactor : Float := 10.0

/-- Why a range cannot be scanned. -/
inductive ScanError where
  | invalidRange (low high : Quantity)
  | invalidThreshold (threshold : Quantity)
  | invalidSteps (steps : Int)
  | number (cause : NumberError)

/-- The wording of a failure. -/
def ScanError.message : ScanError → String
  | invalidRange low high => s!"Invalid scan range [{low.text}, {high.text}]"
  | invalidThreshold threshold => s!"Threshold must be positive, got {threshold.text}"
  | invalidSteps steps => s!"Step count must be positive, got {steps}"
  | number cause => cause.message

/-- The family of a failure. -/
def ScanError.kind : ScanError → FailureKind
  | number cause => cause.kind
  | _ => .value

/-- A failure of numbers within a scan. -/
def ofNumber {β : Type} : Except NumberError β → Except ScanError β
  | .ok b => .ok b
  | .error cause => .error (.number cause)

/-- Check a range, a threshold and a number of steps, in this order. -/
def check (low high threshold : Quantity) (steps : Int) : Except ScanError Unit := do
  let lowFinite ← ofNumber low.isFinite
  let highFinite ← if lowFinite then ofNumber high.isFinite else .ok false
  if !highFinite || !low.lt high then .error (.invalidRange low high)
  else if !(Quantity.whole 0).lt threshold then .error (.invalidThreshold threshold)
  else if steps < 1 then .error (.invalidSteps steps)
  else .ok ()

/-- Why the values around a point cannot be judged, if they cannot.  They are looked at from the
left, then the right, then the centre, and only as long as they are finite; slopes are compared
where all three are, and that needs a threshold that is a number. -/
def faultOf? (threshold : Except NumberError Float) :
    (left centre right : Value Float) → Option NumberError
  | .several, _, _ => some .notSingle
  | .finite _, _, .several => some .notSingle
  | .finite _, .several, .finite _ => some .notSingle
  | .finite _, .finite _, .finite _ =>
    match threshold with
    | .error cause => some cause
    | .ok _ => none
  | _, _, _ => none

/-- Why a function cannot be judged at a point, if it cannot. -/
def faultAt? (f : Float → Value Float) (step : Float) (threshold : Except NumberError Float)
    (x : Float) : Option NumberError :=
  faultOf? threshold (f (x - step)) (f x) (f (x + step))

/-- The candidates in a range.  A threshold beyond binary64 is above all values, but no slope can be
compared with it. -/
def scan (places : Int) (dedupFactor : Float) (f : Float → Value Float)
    (low high threshold : Quantity) (steps : Int) :
    Except ScanError (List (Candidate Float)) := do
  check low high threshold steps
  let length ← ofNumber (high.sub low)
  let step ← ofNumber (length.divide (.whole steps))
  let points ← ofNumber (Grid.points places low high (.real step))
  match points.findSome? (faultAt? f step threshold.toFloat) with
  | some cause => .error (.number cause)
  | none => .ok (walk f step threshold.floor (step * dedupFactor) points)

/-- The positions of the candidates in a range. -/
def positions (places : Int) (dedupFactor : Float) (f : Float → Value Float)
    (low high threshold : Quantity) (steps : Int) : Except ScanError (List Float) :=
  (scan places dedupFactor f low high threshold steps).map fun found => found.map (·.x)

end CurveSketch.Asymptote
