import CurveSketch.Journal.Level
import CurveSketch.Session
import CurveSketch.Text.Quoted

/-!
# What is written to the journal

The steps of an analysis leave entries in a journal.  The entries of a step are a function of what
the step was given: they are found beside the answer, not while it is computed.

* `Entry` — how important an entry is, where it comes from, and its wording.
* `Journal.ofNormalize`, `Journal.ofCompile`, `Journal.ofDomain`, `Journal.ofRange`,
  `Journal.ofReport` — the entries of single steps.
* `Journal.ofInput`, `Journal.ofSketch`, `Journal.ofInspect`, `Journal.ofStep` — those of the steps
  together.
-/

namespace CurveSketch

open Text

/-- An entry of the journal. -/
structure Entry where
  level : Level
  part : String
  message : String
  deriving DecidableEq, Repr

namespace Journal

/-- The entries that are at least as important as a level. -/
def atLeast (level : Level) (entries : List Entry) : List Entry :=
  entries.filter fun e => level.rank ≤ e.level.rank

/-- The entries of bringing an input into normal form. -/
def ofNormalize (limit : Int) (raw : List Char) : List Entry :=
  let text := trim raw
  if text.isEmpty || limit < text.length then []
  else
    ⟨.debug, "normalizer", "Original expression: " ++ String.ofList text⟩ ::
      match normalize limit raw with
      | .ok normal => [⟨.debug, "normalizer", "Canonical expression: " ++ String.ofList normal⟩]
      | .error (.unknownName name _) =>
        [⟨.info, "normalizer", "Rejected unknown identifier " ++ String.ofList (quote name)⟩]
      | .error _ => []

/-- The entries of making a curve of a text in normal form. -/
def ofCompile (limits : Limits) (text : List Char) : List Entry :=
  match Curve.compile limits text with
  | .ok _ => [⟨.debug, "compiler", "Compiled " ++ String.ofList (quote text)⟩]
  | .error .noFiniteValue =>
    let probes := String.intercalate ", "
      (Curve.probePoints.map fun x => String.ofList (Number.shortest x))
    [⟨.info, "compiler",
      "No finite result for " ++ String.ofList (quote text) ++ " on probes (" ++ probes ++ ")"⟩]
  | .error _ => []

/-- The entries of making a curve of what a user types. -/
def ofInput (limits : Limits) (raw : List Char) : List Entry :=
  ofNormalize limits.inputLength raw ++
    match normalize limits.inputLength raw with
    | .ok text => ofCompile limits text
    | .error _ => []

/-- The entries of looking for a restriction in an expression. -/
def ofPattern (text : List Char) : List Entry :=
  match Token.tokenize text with
  | .ok _ => []
  | .error cause =>
    [⟨.debug, "domain",
      "Domain patterns on untokenizable text " ++ String.ofList (quote text) ++ ": " ++
        cause.message⟩]

/-- The entries of describing a domain. -/
def ofDomain (text : List Char) : List Entry :=
  ofPattern text ++
    match Domain.restriction? text with
    | some r =>
      [⟨.debug, "domain",
        "Domain of " ++ String.ofList (quote text) ++ " from pattern: " ++ r.text⟩]
    | none => []

/-- The entries of describing a range. -/
def ofRange (s : Settings) (f : Float → Value Float) : List Entry :=
  match Report.rangeOf s f, s.gridPoints s.rangeGrid with
  | .ok _, .ok points =>
    match Range.decidingShape? s.range f points with
    | some shape => [⟨.debug, "range", "Range from probe shape: " ++ shape.text⟩]
    | none => []
  | _, _ => []

/-- The entry of a finished report. -/
def ofFinished (text : List Char) (r : Report) : List Entry :=
  if r.isFunction then
    [⟨.debug, "analyzer", "Analysis of " ++ String.ofList (quote text) ++ ": " ++ r.text⟩]
  else []

/-- The entries of a report.  A step that fails is the last one. -/
def ofReport (s : Settings) (text : List Char) (f : Float → Value Float) : List Entry :=
  if !passesVerticalLines f || !(Report.symmetryOf s f).isOk || !(Report.oneToOne s f).isOk then []
  else
    ofDomain text ++
      if !(Report.domainOf s text f).isOk then []
      else
        ofRange s f ++
          match Report.of s text f with
          | .ok r => ofFinished text r
          | .error _ => []

/-- The entries of a sketch. -/
def ofSketch (s : Settings) (raw : List Char) : List Entry :=
  ofInput s.limits raw ++
    match Curve.ofInput s.limits raw with
    | .ok curve => ofReport s curve.text curve.value
    | .error _ => []

/-- The entry of a rejection. -/
def rejection (part : String) (raw : List Char) (cause : Rejection) : Entry :=
  ⟨.info, part, "Rejected expression " ++ String.ofList (quote raw) ++ ": " ++ cause.message⟩

/-- The entries of an inspection. -/
def ofInspect (s : Settings) (raw : List Char) : List Entry :=
  ofSketch s raw ++
    match Curve.ofInput s.limits raw with
    | .ok _ => []
    | .error cause => [rejection "api" raw cause]

/-- The entries of an input to a session.  An empty input is not worth one. -/
def ofSubmit (s : Settings) (raw : List Char) : List Entry :=
  ofSketch s raw ++
    match Sketch.ofInput s raw with
    | .ok sketch =>
      [⟨.debug, "session",
        "Current expression is now " ++ String.ofList (quote sketch.curve.text)⟩]
    | .error (.rejected .empty) => []
    | .error (.rejected cause) => [rejection "session" raw cause]
    | .error (.number _) => []

/-- The entries of a step of a session. -/
def ofStep (s : Settings) : Session.Step → List Entry
  | .submit raw => ofSubmit s raw
  | _ => []

/-- The entry of a typeset expression that is missing. -/
def missingTree : Entry :=
  ⟨.warning, "formatting",
    "Could not render expression as LaTeX: 'NoneType' object has no attribute 'to_sympy'"⟩

end Journal

end CurveSketch
