import CurveSketch.Domain.Pattern
import CurveSketch.Grid
import CurveSketch.Range
import CurveSketch.Scalar
import CurveSketch.Value

/-!
# The domain of a function

A restriction that shows in the expression describes the domain.  Otherwise the function is swept
over a grid, and the points where it has no finite value are excluded.

* `Domain` — the descriptions.
* `Domain.exclusions` — the excluded points, rounded to tenths.
* `Domain.ofExclusions`, `Domain.of` — the description.
* `Domain.text` — its wording.
-/

namespace CurveSketch

open Number

/-- A description of a domain. -/
inductive Domain (α : Type) where
  /-- All real numbers. -/
  | all
  /-- A restriction that shows in the expression. -/
  | restricted (r : Domain.Restriction)
  /-- All real numbers but these. -/
  | without (points : List α)
  /-- Too many points are excluded to list them. -/
  | manyExcluded
  deriving DecidableEq, Repr

namespace Domain

variable {α : Type} [Scalar α]

/-- How domains are described. -/
structure Rule (α : Type) where
  /-- Exclusions nearer than this are the same. -/
  dedupDistance : α
  /-- The most exclusions that are listed. -/
  maxListed : Int

/-- The usual rule. -/
def Rule.standard : Rule α where
  dedupDistance := 0.05
  maxListed := 5

/-- The points where a function has no finite value. -/
def undefinedPoints (f : α → Value α) (points : List α) : List α :=
  points.filter fun x => !(f x).isFinite

/-- The points where a function has no finite value, rounded to tenths, without those that are the
same as an earlier one. -/
def exclusions (distance : α) (f : α → Value α) (points : List α) : List α :=
  keepApart id distance ((undefinedPoints f points).map Scalar.tenth)

/-- The description of a domain by what is excluded. -/
def ofExclusions (maxListed : Int) (excluded : List α) : Domain α :=
  if excluded.isEmpty then .all
  else if maxListed < excluded.length then .manyExcluded
  else .without excluded

/-- The description of a domain of a function with the given expression, by a sweep over the points
if nothing shows in the expression. -/
def of (rule : Rule α) (text : List Char) (f : α → Value α) (points : List α) : Domain α :=
  match restriction? text with
  | some r => .restricted r
  | none => ofExclusions rule.maxListed (exclusions rule.dedupDistance f points)

/-- How many significant digits an excluded point is listed with. -/
def listedDigits : Nat := 6

/-- The wording of a description. -/
def text : Domain Float → String
  | all => Range.allRealNumbers
  | restricted r => r.text
  | without points =>
    "x ≠ " ++ String.intercalate ", "
      (points.map fun x => String.ofList (significant listedDigits (x + 0.0)))
  | manyExcluded => "Multiple restrictions (see graph for asymptotes)"

end Domain

end CurveSketch
