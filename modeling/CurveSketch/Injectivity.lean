import CurveSketch.Value

/-!
# One-to-one functions

A function is sampled, and counts as one-to-one when no two of its finite values are equal and
there are enough of them.

* `Injectivity.Rule` — the tolerance, and how many values are enough.
* `Injectivity.isApart` — whether values, one after another, differ from all before them.
* `Injectivity.holds` — the test.
* `Injectivity.check` — a failure when the test needs a single number and there are several.
-/

namespace CurveSketch.Injectivity

variable {α : Type} [Scalar α]

/-- How a function is tested. -/
structure Rule (α : Type) where
  /-- Values nearer than this are equal. -/
  tolerance : α
  /-- The least number of finite values. -/
  minSamples : Int

/-- The usual rule. -/
def Rule.standard : Rule α where
  tolerance := 1e-8
  minSamples := 6

/-- Whether each value differs from those of `seen` and from those before it. -/
def isApart (tolerance : α) (seen : List α) : List α → Bool
  | [] => true
  | y :: rest =>
    !(seen.any fun z => Scalar.abs (y - z) < tolerance) && isApart tolerance (y :: seen) rest

/-- The finite values at the points. -/
def finiteValues (f : α → Value α) (points : List α) : List α :=
  points.filterMap fun x => (f x).finite?

/-- Whether a function looks one-to-one at the points. -/
def holds (rule : Rule α) (f : α → Value α) (points : List α) : Bool :=
  let ys := finiteValues f points
  isApart rule.tolerance [] ys && decide (rule.minSamples ≤ ys.length)

/-- Fails if a relation takes several numbers at a point that has to be looked at, because the
values before it are apart. -/
def check (rule : Rule α) (f : α → Value α) (points : List α) : Except NumberError Unit :=
  let before := points.takeWhile fun x => (f x).isSingle
  if before.length < points.length && isApart rule.tolerance [] (finiteValues f before) then
    .error .notSingle
  else .ok ()

end CurveSketch.Injectivity
