import CurveSketch.Value

/-!
# Even and odd functions

A function is probed at pairs of opposite points.  It counts as even, or as odd, when enough of the
pairs with two finite values are.

* `Symmetry` — the answer.
* `Symmetry.Rule` — the points, the tolerance, and how many pairs are enough.
* `Symmetry.pairs` — the values at opposite points.
* `Symmetry.of` — the probe.
* `Symmetry.check` — a failure when a relation takes several numbers at a probe.
-/

namespace CurveSketch

/-- Whether a function is even and whether it is odd. -/
structure Symmetry where
  even : Bool
  odd : Bool
  deriving DecidableEq, Repr

namespace Symmetry

variable {α : Type} [Scalar α]

/-- How symmetry is probed. -/
structure Rule (α : Type) where
  /-- The points that are probed, each together with its opposite. -/
  points : List α
  /-- Values nearer than this are equal. -/
  tolerance : α
  /-- The part of the pairs that has to match. -/
  ratio : α

/-- The points at which symmetry is probed. -/
def probePoints : List α := [-3.0, -2.0, -1.0, -0.5, 0.5, 1.0, 2.0, 3.0]

/-- The usual rule. -/
def Rule.standard : Rule α where
  points := probePoints
  tolerance := 1e-10
  ratio := 0.8

/-- The values at `x` and `-x`, if both are finite. -/
def pair? (f : α → Value α) (x : α) : Option (α × α) :=
  match f x, f (-x) with
  | .finite y, .finite z => some (y, z)
  | _, _ => none

/-- The values at opposite points, for those where both are finite. -/
def pairs (f : α → Value α) (points : List α) : List (α × α) := points.filterMap (pair? f)

/-- Whether the values of a pair are equal. -/
def matchesEven (tolerance : α) (p : α × α) : Bool := Scalar.abs (p.2 - p.1) < tolerance

/-- Whether the values of a pair are opposite. -/
def matchesOdd (tolerance : α) (p : α × α) : Bool := Scalar.abs (p.2 + p.1) < tolerance

/-- Whether so many of all are at least the given part of them. -/
def isEnough (ratio : α) (some all : Nat) : Bool :=
  ratio ≤ (Scalar.ofInt some / Scalar.ofInt all : α)

/-- Probe a function for symmetry.  Without a pair of finite values it has none. -/
def of (rule : Rule α) (f : α → Value α) : Symmetry :=
  let ps := pairs f rule.points
  if ps.isEmpty then ⟨false, false⟩
  else
    ⟨isEnough rule.ratio (ps.countP (matchesEven rule.tolerance)) ps.length,
      isEnough rule.ratio (ps.countP (matchesOdd rule.tolerance)) ps.length⟩

/-- Fails if a relation takes several numbers at a point or at its opposite. -/
def check (rule : Rule α) (f : α → Value α) : Except NumberError Unit :=
  requireSingle f (rule.points ++ rule.points.map fun x => -x)

end Symmetry

end CurveSketch
