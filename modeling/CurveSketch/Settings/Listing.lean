import CurveSketch.Curve
import CurveSketch.Report
import CurveSketch.Settings

/-!
# Settings by name

* `Setting` — something that is set, or that is the same for all settings.
* `Settings.all` — all of them, by name.
* `Settings.lookup?` — the one with a name.
-/

namespace CurveSketch

/-- Something that is set. -/
inductive Setting where
  | whole (n : Int)
  | real (x : Float)
  | text (s : String)
  | reals (xs : List Float)
  | texts (ss : List String)
  | realTable (rows : List (String × Float))
  | textTable (rows : List (String × String))

/-- The version of the library. -/
def version : String := "1.0.0"

/-- The names of the functions, in alphabetical order. -/
def functionNames : List String := (Fn.all.map fun f => String.ofList f.name).mergeSort

/-- The constants with their values, in alphabetical order. -/
def constantTable : List (String × Float) :=
  (Constant.all.map fun c => (String.ofList c.name, Parse.constantValue c)).mergeSort
    fun a b => a.1 ≤ b.1

/-- The reciprocal functions with those they are reciprocal to, in alphabetical order. -/
def reciprocalTable : List (String × String) :=
  (Fn.all.filterMap fun f =>
      f.reciprocalOf?.map fun base => (String.ofList f.name, String.ofList base.name)).mergeSort
    fun a b => a.1 ≤ b.1

namespace Settings

/-- What is set for expressions. -/
def forExpressions (s : Settings) : List (String × Setting) :=
  [ ("VERSION", .text version),
    ("MAX_INPUT_LENGTH", .whole s.limits.inputLength),
    ("MAX_EXPRESSION_DEPTH", .whole s.limits.nesting),
    ("MAX_EXPRESSION_NODES", .whole s.limits.nodes),
    ("MAX_TREE_DEPTH", .whole s.limits.height),
    ("CACHE_SIZE_PARSE", .whole s.parseCache),
    ("VARIABLE_NAME", .text (String.ofList variableName)),
    ("CONSTANTS", .realTable constantTable),
    ("FUNCTION_NAMES", .texts functionNames),
    ("RECIPROCAL_FUNCTIONS", .textTable reciprocalTable),
    ("ALL_REAL_NUMBERS", .text Range.allRealNumbers),
    ("PROBE_POINTS", .reals Curve.probePoints) ]

/-- What is set for the analyses of symmetry, one-to-one functions and domains. -/
def forShapes (s : Settings) : List (String × Setting) :=
  [ ("VERTICAL_LINE_POINTS", .reals verticalLines),
    ("SYMMETRY_POINTS", .reals s.symmetry.points),
    ("SYMMETRY_TOLERANCE", .real s.symmetry.tolerance),
    ("SYMMETRY_MATCH_RATIO", .real s.symmetry.ratio),
    ("INJECTIVITY_X_MIN", .real s.injectivityGrid.start),
    ("INJECTIVITY_X_MAX", .real s.injectivityGrid.stop),
    ("INJECTIVITY_STEP", .real s.injectivityGrid.step),
    ("INJECTIVITY_TOLERANCE", .real s.injectivity.tolerance),
    ("INJECTIVITY_MIN_SAMPLES", .whole s.injectivity.minSamples),
    ("DOMAIN_X_MIN", .real s.domainGrid.start),
    ("DOMAIN_X_MAX", .real s.domainGrid.stop),
    ("DOMAIN_STEP", .real s.domainGrid.step),
    ("DOMAIN_DEDUP_DISTANCE", .real s.domain.dedupDistance),
    ("DOMAIN_MAX_LISTED", .whole s.domain.maxListed) ]

/-- What is set for ranges, asymptotes and grids. -/
def forSweeps (s : Settings) : List (String × Setting) :=
  [ ("RANGE_X_MIN", .real s.rangeGrid.start),
    ("RANGE_X_MAX", .real s.rangeGrid.stop),
    ("RANGE_STEP", .real s.rangeGrid.step),
    ("RANGE_MIN_SAMPLES", .whole s.range.minSamples),
    ("RANGE_PROBE_POINTS", .reals s.range.farPoints),
    ("RANGE_UNBOUNDED_LEVEL", .real s.range.large),
    ("RANGE_MIN_SLOPE", .real s.range.minSlope),
    ("RANGE_CONSTANT_TOLERANCE", .real s.range.constantTolerance),
    ("RANGE_ZERO_TOLERANCE", .real s.range.zeroTolerance),
    ("RANGE_TRIG_OUTER", .real s.range.waveOuter),
    ("RANGE_TRIG_INNER", .real s.range.waveInner),
    ("ASYMPTOTE_STEPS", .whole s.asymptote.steps),
    ("ASYMPTOTE_DEDUP_FACTOR", .real s.asymptote.dedupFactor),
    ("GRID_DECIMALS", .whole s.gridPlaces) ]

/-- Everything that is set, by name. -/
def all (s : Settings) : List (String × Setting) :=
  s.forExpressions ++ s.forShapes ++ s.forSweeps

/-- What is set under a name. -/
def lookup? (s : Settings) (name : String) : Option Setting := s.all.lookup name

end Settings

end CurveSketch
