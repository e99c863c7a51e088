import CurveSketch.Settings
import CurveSketch.Text.Quoted

/-!
# Reports on functions

* `Report` — what is said of a function: its symmetry, whether it is one-to-one, its domain and its
  range, and labels for its properties.
* `passesVerticalLines` — whether a relation is a function at the probes.
* `Report.symmetryOf`, `Report.oneToOne`, `Report.domainOf`, `Report.exclusions`,
  `Report.rangeOf` — its parts.  Each fails if the settings give no grid, or if it needs a single
  number at a point and there are several.
* `Report.of` — the report on a relation.
* `Report.details`, `Report.text` — a report in sentences, and on one line.
-/

namespace CurveSketch

open Text

/-- What is said of a relation. -/
structure Report where
  isFunction : Bool
  isEven : Bool := false
  isOdd : Bool := false
  isOneToOne : Bool := false
  domain : Option String := none
  range : Option String := none
  properties : List String := []
  deriving DecidableEq, Repr

/-- The vertical lines on which a relation is probed. -/
def verticalLines : List Float := [-5.0, -2.0, 0.0, 1.0, 3.0, 5.0]

/-- Whether a relation takes at most one number on each of the vertical lines. -/
def passesVerticalLines (f : Float → Value Float) : Bool :=
  verticalLines.all fun x => (f x).isSingle

namespace Report

/-- The labels of the properties. -/
def labels (symmetry : Symmetry) (oneToOne : Bool) : List String :=
  (if symmetry.even then ["Even"] else []) ++ (if symmetry.odd then ["Odd"] else []) ++
    (if oneToOne then ["One-to-One"] else []) ++
    (if !symmetry.even && !symmetry.odd then ["Neither Even nor Odd"] else [])

/-- The symmetry. -/
def symmetryOf (s : Settings) (f : Float → Value Float) : Except NumberError Symmetry := do
  Symmetry.check s.symmetry f
  .ok (Symmetry.of s.symmetry f)

/-- Whether a relation is one-to-one on its grid. -/
def oneToOne (s : Settings) (f : Float → Value Float) : Except NumberError Bool := do
  let points ← s.gridPoints s.injectivityGrid
  Injectivity.check s.injectivity f points
  .ok (Injectivity.holds s.injectivity f points)

/-- The excluded points on the grid. -/
def exclusions (s : Settings) (f : Float → Value Float) : Except NumberError (List Float) := do
  let points ← s.gridPoints s.domainGrid
  requireSingle f points
  .ok (Domain.exclusions s.domain.dedupDistance f points)

/-- The domain.  The grid is only needed if no restriction shows in the expression. -/
def domainOf (s : Settings) (text : List Char) (f : Float → Value Float) :
    Except NumberError (Domain Float) :=
  match Domain.restriction? text with
  | some r => .ok (.restricted r)
  | none => do
    let points ← s.gridPoints s.domainGrid
    requireSingle f points
    .ok (Domain.of s.domain text f points)

/-- The range. -/
def rangeOf (s : Settings) (f : Float → Value Float) : Except NumberError (Range Float) := do
  let points ← s.gridPoints s.rangeGrid
  Range.check s.range f points
  .ok (Range.of s.range f points)

/-- The report on a relation given by an expression.  Of a relation that is not a function nothing
else is said. -/
def of (s : Settings) (text : List Char) (f : Float → Value Float) : Except NumberError Report :=
  if passesVerticalLines f then do
    let symmetry ← symmetryOf s f
    let oneToOne ← oneToOne s f
    let domain ← domainOf s text f
    let range ← rangeOf s f
    .ok
      { isFunction := true
        isEven := symmetry.even
        isOdd := symmetry.odd
        isOneToOne := oneToOne
        domain := some domain.text
        range := some range.text
        properties := labels symmetry oneToOne }
  else .ok { isFunction := false }

/-- The report in sentences. -/
def details (r : Report) : List String :=
  if r.isFunction then
    [ if r.isEven then "Symmetric about y-axis (f(-x) = f(x))"
      else if r.isOdd then "Symmetric about origin (f(-x) = -f(x))"
      else "No symmetry about y-axis or origin",
      if r.isOneToOne then "Passes horizontal line test (injective)"
      else "Does not pass horizontal line test" ]
  else ["Fails the vertical line test"]

end Report

/-- A truth value as it stands in a line of text. -/
def truthText (b : Bool) : String := if b then "True" else "False"

/-- A text that may be missing, quoted as it stands in a line of text. -/
def quotedOr : Option String → String
  | some s => quoteString s
  | none => "None"

/-- Quoted texts between parentheses; a single one is followed by a comma. -/
def quotedList : List String → String
  | [] => "()"
  | [s] => "(" ++ quoteString s ++ ",)"
  | ss => "(" ++ String.intercalate ", " (ss.map quoteString) ++ ")"

/-- The report on one line, every member by name. -/
def Report.text (r : Report) : String :=
  "AnalysisReport(is_function=" ++ truthText r.isFunction ++
    ", is_even=" ++ truthText r.isEven ++ ", is_odd=" ++ truthText r.isOdd ++
    ", is_one_to_one=" ++ truthText r.isOneToOne ++ ", domain=" ++ quotedOr r.domain ++
    ", range=" ++ quotedOr r.range ++ ", properties=" ++ quotedList r.properties ++ ")"

end CurveSketch
