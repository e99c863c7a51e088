import CurveSketch.Curve
import CurveSketch.Display.Superscript
import CurveSketch.Report

/-!
# From an input to a report

* `Sketch` — a curve with what was typed and the report on it.
* `Failure` — why there is no sketch: the expression is rejected, or the settings give no grid.
* `Sketch.ofInput` — the sketch of what a user types.
* `Outcome` — a sketch or a rejection as an answer; `inspect` gives it.
* `validate` — whether an input has a normal form.
-/

namespace CurveSketch

open Text

/-- A curve with what was typed and the report on it. -/
structure Sketch where
  raw : List Char
  curve : Curve
  report : Report

/-- The shown form of a sketch's expression. -/
def Sketch.display (s : Sketch) : List Char := Display.prettify s.curve.text

/-- Why there is no sketch. -/
inductive Failure where
  | rejected (cause : Rejection)
  | number (cause : NumberError)
  deriving DecidableEq, Repr

/-- The report on a curve. -/
def Curve.report (s : Settings) (c : Curve) : Except NumberError Report :=
  Report.of s c.text c.value

/-- The sketch of what a user types. -/
def Sketch.ofInput (s : Settings) (raw : List Char) : Except Failure Sketch :=
  match Curve.ofInput s.limits raw with
  | .error cause => .error (.rejected cause)
  | .ok curve =>
    match curve.report s with
    | .error cause => .error (.number cause)
    | .ok report => .ok { raw := trim raw, curve, report }

/-- An answer: the normal form and the report, or the wording and the code of a rejection. -/
structure Outcome where
  ok : Bool
  normal : Option String := none
  report : Option Report := none
  error : Option String := none
  code : Option String := none
  deriving DecidableEq, Repr

namespace Outcome

/-- The answer with a sketch. -/
def accepted (s : Sketch) : Outcome where
  ok := true
  normal := some (String.ofList s.curve.text)
  report := some s.report

/-- The answer with a rejection. -/
def rejected (r : Rejection) : Outcome where
  ok := false
  error := some r.message
  code := some r.code

/-- The answer on one line. -/
def text (o : Outcome) : String :=
  if o.ok then
    "CompileResult(ok=True, canonical=" ++ quotedOr o.normal ++ ", report=" ++
      (match o.report with
        | some r => r.text
        | none => "None") ++ ")"
  else "CompileResult(ok=False, code=" ++ quotedOr o.code ++ ", error=" ++ quotedOr o.error ++ ")"

end Outcome

/-- Sketch what a user types, and answer with the report or the rejection. -/
def inspect (s : Settings) (raw : List Char) : Except NumberError Outcome :=
  match Sketch.ofInput s raw with
  | .ok sketch => .ok (.accepted sketch)
  | .error (.rejected cause) => .ok (.rejected cause)
  | .error (.number cause) => .error cause

/-- Whether an input has a normal form, and the wording of what is wrong if it has none. -/
def validate (limits : Limits) (raw : List Char) : Bool × Option String :=
  match normalize limits.inputLength raw with
  | .ok _ => (true, none)
  | .error cause => (false, some cause.message)

end CurveSketch
