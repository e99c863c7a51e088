import CurveSketch.Outcome

/-!
# Sessions

A session holds the sketch that is on the screen, or what was wrong with the last input.

* `Session` — the state.
* `Session.Step`, `Session.Answer` — what a user can do, and what is answered.
* `Session.step` — one step: the answer and the state after it.
* `Session.after` — the state after steps.

A new sketch replaces the old one only when it is complete, and then nothing of the old one is
left.
-/

namespace CurveSketch

open Number

/-- What is on the screen. -/
structure Session where
  current : Option Sketch := none
  error : Option String := none

namespace Session

/-- A session in which nothing has happened. -/
def fresh : Session := {}

/-- What a user can do. -/
inductive Step where
  /-- Type an input. -/
  | submit (raw : List Char)
  /-- Take everything off the screen. -/
  | clear
  /-- Ask for values. -/
  | evaluate (points : List Datum)
  /-- Ask for vertical asymptotes in a range. -/
  | scan (low high threshold : Quantity)

/-- What a step is answered with. -/
inductive Answer where
  | outcome (o : Outcome)
  | nothing
  | values (ys : List Float)
  | positions (xs : List Float)
  | failed (cause : Asymptote.ScanError)

/-- The value of the current curve at a point, NaN if there is none. -/
def valueOf (session : Session) (point : Datum) : Float :=
  match session.current with
  | some sketch => sketch.curve.valueOf point
  | none => notANumber

/-- The vertical asymptotes of the current curve in a range, none if there is no curve. -/
def asymptotes (s : Settings) (session : Session) (low high threshold : Quantity) :
    Except Asymptote.ScanError (List Float) :=
  match session.current with
  | none => .ok []
  | some sketch =>
    Asymptote.positions s.gridPlaces s.asymptote.dedupFactor sketch.curve.value low high threshold
      s.asymptote.steps

/-- Type an input.  If it is rejected nothing is current afterwards; an empty one is no error.  When
the settings give no grid to sketch it on, everything stays as it is. -/
def submit (s : Settings) (session : Session) (raw : List Char) : Answer × Session :=
  match Sketch.ofInput s raw with
  | .ok sketch => (.outcome (.accepted sketch), { current := some sketch })
  | .error (.rejected .empty) => (.outcome (.rejected .empty), {})
  | .error (.rejected cause) => (.outcome (.rejected cause), { error := some cause.message })
  | .error (.number cause) => (.failed (.number cause), session)

/-- One step: the answer and the state after it. -/
def step (s : Settings) (session : Session) : Step → Answer × Session
  | .submit raw => session.submit s raw
  | .clear => (.nothing, {})
  | .evaluate points => (.values (points.map session.valueOf), session)
  | .scan low high threshold =>
    match session.asymptotes s low high threshold with
    | .ok xs => (.positions xs, session)
    | .error cause => (.failed cause, session)

/-- The state after steps. -/
def after (s : Settings) (session : Session) (steps : List Step) : Session :=
  steps.foldl (fun session st => (session.step s st).2) session

end Session

end CurveSketch
