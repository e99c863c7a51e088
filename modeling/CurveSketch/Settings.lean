import CurveSketch.Asymptote
import CurveSketch.Domain
import CurveSketch.Injectivity
import CurveSketch.Range
import CurveSketch.Symmetry

/-!
# Settings

* `Limits` — how long, deep and large an expression may be.
* `Settings` — the limits, the rules of all analyses and the grids they sweep; the defaults are the
  usual values.
-/

namespace CurveSketch

/-- The limits of expressions. -/
structure Limits where
  /-- The most characters of an input. -/
  inputLength : Int := 10000
  /-- The most levels of parentheses, signs and exponents. -/
  nesting : Int := 100
  /-- The most nodes of a tree. -/
  nodes : Int := 5000
  /-- The greatest height of a tree. -/
  height : Int := 400

/-- Everything that can be set. -/
structure Settings where
  limits : Limits := {}
  /-- How many parsed expressions may be remembered. -/
  parseCache : Int := 1024
  symmetry : Symmetry.Rule Float := .standard
  injectivity : Injectivity.Rule Float := .standard
  /-- The grid on which a function is tested for being one-to-one. -/
  injectivityGrid : Grid.Span := ⟨-5.0, 5.0, 0.5⟩
  domain : Domain.Rule Float := .standard
  /-- The grid on which undefined points are looked for. -/
  domainGrid : Grid.Span := ⟨-20.0, 20.0, 0.1⟩
  range : Range.Rule Float := .standard
  /-- The grid on which the least and greatest values are looked for. -/
  rangeGrid : Grid.Span := ⟨-50.0, 50.0, 0.1⟩
  asymptote : Asymptote.Rule := {}
  /-- The decimal places that the points of a grid are rounded to. -/
  gridPlaces : Int := 10

namespace Settings

/-- The points of a grid. -/
def gridPoints (s : Settings) (span : Grid.Span) : Except NumberError (List Float) :=
  span.points s.gridPlaces

end Settings

end CurveSketch
