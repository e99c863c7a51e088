import CurveSketch.Journal.Level
import CurveSketch.Journal.Moment
import CurveSketch.Template.Filling

/-!
# Journal entries as lines of text

* `TimedEntry` — an entry with its time and with the data that its message is made of.
* `TimedEntry.line` — the line of an entry.
* `LineError` — why there is none.
-/

namespace CurveSketch

open Number

/-- An entry with its time and with what its message is made of. -/
structure TimedEntry where
  /-- Seconds after the beginning of 1970. -/
  seconds : Quantity
  rank : Int
  journal : String
  template : String
  data : List Datum
  /-- The cause of a failure that is reported with it. -/
  failure : Option String

/-- Why an entry has no line. -/
inductive LineError where
  | moment (cause : MomentError)
  | template (cause : TemplateError)
  deriving DecidableEq, Repr

namespace LineError

/-- The family of a cause. -/
def kind : LineError → FailureKind
  | moment cause => cause.kind
  | template cause => cause.kind

/-- The wording of a cause. -/
def message : LineError → String
  | moment cause => cause.message
  | template cause => cause.message

end LineError

namespace TimedEntry

/-- The second line, if a failure is reported. -/
def failureText : Option String → String
  | some cause => if cause.isEmpty then "\nValueError" else "\nValueError: " ++ cause
  | none => ""

/-- The line of an entry: time, level, journal and message, and a second line if a failure is
reported. -/
def line (e : TimedEntry) : Except LineError String := do
  let moment ← (Moment.ofSeconds e.seconds).mapError .moment
  let message ← (Template.fillIn e.template e.data).mapError .template
  .ok (moment.text ++ " [" ++ Level.nameOf e.rank ++ "] " ++ e.journal ++ ": " ++ message ++
    failureText e.failure)

end TimedEntry

end CurveSketch
