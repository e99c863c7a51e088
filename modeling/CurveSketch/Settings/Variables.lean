import CurveSketch.Settings

/-!
# Settings from variables

Every number among the settings can be set by a variable with a text.

* `variableFor` — the name of the variable for a setting.
* `Settings.ofVariables` — the settings that variables give, or the first text that is no number.
-/

namespace CurveSketch

open Number

/-- The name of the variable that sets something. -/
def variableFor (name : String) : String := "GRAFIK_" ++ name

namespace Settings

/-- Where variables are looked up. -/
abbrev Variables := String → Option String

/-- The integer that a variable gives, or a default if there is no such variable. -/
def wholeFrom (vars : Variables) (name : String) (default : Int) : Except NumberError Int :=
  match vars (variableFor name) with
  | some text => readInteger text.toList
  | none => .ok default

/-- The number that a variable gives, or a default if there is no such variable. -/
def realFrom (vars : Variables) (name : String) (default : Float) : Except NumberError Float :=
  match vars (variableFor name) with
  | some text => readReal text.toList
  | none => .ok default

/-- The grid that three variables give. -/
def spanFrom (vars : Variables) (name : String) (default : Grid.Span) :
    Except NumberError Grid.Span := do
  let start ← realFrom vars (name ++ "_X_MIN") default.start
  let stop ← realFrom vars (name ++ "_X_MAX") default.stop
  let step ← realFrom vars (name ++ "_STEP") default.step
  .ok ⟨start, stop, step⟩

/-- The limits that variables give. -/
def limitsFrom (vars : Variables) (d : Limits) : Except NumberError Limits := do
  let inputLength ← wholeFrom vars "MAX_INPUT_LENGTH" d.inputLength
  let nesting ← wholeFrom vars "MAX_EXPRESSION_DEPTH" d.nesting
  let nodes ← wholeFrom vars "MAX_EXPRESSION_NODES" d.nodes
  let height ← wholeFrom vars "MAX_TREE_DEPTH" d.height
  .ok { inputLength, nesting, nodes, height }

/-- The rule for symmetry that variables give. -/
def symmetryFrom (vars : Variables) (d : Symmetry.Rule Float) :
    Except NumberError (Symmetry.Rule Float) := do
  let tolerance ← realFrom vars "SYMMETRY_TOLERANCE" d.tolerance
  let ratio ← realFrom vars "SYMMETRY_MATCH_RATIO" d.ratio
  .ok { d with tolerance, ratio }

/-- The rule for one-to-one functions that variables give. -/
def injectivityFrom (vars : Variables) (d : Injectivity.Rule Float) :
    Except NumberError (Injectivity.Rule Float) := do
  let tolerance ← realFrom vars "INJECTIVITY_TOLERANCE" d.tolerance
  let minSamples ← wholeFrom vars "INJECTIVITY_MIN_SAMPLES" d.minSamples
  .ok { tolerance, minSamples }

/-- The rule for domains that variables give. -/
def domainFrom (vars : Variables) (d : Domain.Rule Float) :
    Except NumberError (Domain.Rule Float) := do
  let dedupDistance ← realFrom vars "DOMAIN_DEDUP_DISTANCE" d.dedupDistance
  let maxListed ← wholeFrom vars "DOMAIN_MAX_LISTED" d.maxListed
  .ok { dedupDistance, maxListed }

/-- The rule for ranges that variables give. -/
def rangeFrom (vars : Variables) (d : Range.Rule Float) :
    Except NumberError (Range.Rule Float) := do
  let minSamples ← wholeFrom vars "RANGE_MIN_SAMPLES" d.minSamples
  let large ← realFrom vars "RANGE_UNBOUNDED_LEVEL" d.large
  let minSlope ← realFrom vars "RANGE_MIN_SLOPE" d.minSlope
  let constantTolerance ← realFrom vars "RANGE_CONSTANT_TOLERANCE" d.constantTolerance
  let zeroTolerance ← realFrom vars "RANGE_ZERO_TOLERANCE" d.zeroTolerance
  let waveOuter ← realFrom vars "RANGE_TRIG_OUTER" d.waveOuter
  let waveInner ← realFrom vars "RANGE_TRIG_INNER" d.waveInner
  .ok { d with minSamples, large, minSlope, constantTolerance, zeroTolerance, waveOuter, waveInner }

/-- The rule for asymptotes that variables give. -/
def asymptoteFrom (vars : Variables) (d : Asymptote.Rule) : Except NumberError Asymptote.Rule := do
  let steps ← wholeFrom vars "ASYMPTOTE_STEPS" d.steps
  let dedupFactor ← realFrom vars "ASYMPTOTE_DEDUP_FACTOR" d.dedupFactor
  .ok { steps, dedupFactor }

/-- The settings that variables give.  The variables are read in the order of the settings, and the
first text that is no number is reported. -/
def ofVariables (vars : Variables) : Except NumberError Settings := do
  let d : Settings := {}
  let limits ← limitsFrom vars d.limits
  let parseCache ← wholeFrom vars "CACHE_SIZE_PARSE" d.parseCache
  let symmetry ← symmetryFrom vars d.symmetry
  let injectivityGrid ← spanFrom vars "INJECTIVITY" d.injectivityGrid
  let injectivity ← injectivityFrom vars d.injectivity
  let domainGrid ← spanFrom vars "DOMAIN" d.domainGrid
  let domain ← domainFrom vars d.domain
  let rangeGrid ← spanFrom vars "RANGE" d.rangeGrid
  let range ← rangeFrom vars d.range
  let asymptote ← asymptoteFrom vars d.asymptote
  let gridPlaces ← wholeFrom vars "GRID_DECIMALS" d.gridPlaces
  .ok { limits, parseCache, symmetry, injectivity, injectivityGrid, domain, domainGrid, range,
        rangeGrid, asymptote, gridPlaces }

end Settings

end CurveSketch
