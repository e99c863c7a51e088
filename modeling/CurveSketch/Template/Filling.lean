import CurveSketch.Template.Writing

/-!
# Templates with data in their places

The places of a template are filled from left to right.  A place takes the next datum, after one for
its width and one for its precision if these are to be taken.  When the data are a single record
that is not empty, a place may also name the member that it takes.

* `Supply` — the data that are left.
* `Supply.take`, `Supply.select` — the next datum, and the turn to a named one.
* `fillPlace`, `fillPieces` — a place and the pieces of a template with their data.
* `fillIn` — a template with its data.
-/

namespace CurveSketch.Template

/-- The data that are left for a template. -/
structure Supply where
  /-- The members that have names. -/
  members : Option (List (String × Datum))
  /-- The data that are taken next. -/
  rest : List Datum

namespace Supply

/-- All of the data. -/
def of : List Datum → Supply
  | [.record (member :: members)] =>
    ⟨some (member :: members), [.record (member :: members)]⟩
  | data => ⟨none, data⟩

/-- The next datum, and what is left without it. -/
def take (s : Supply) : Except TemplateError (Datum × Supply) :=
  match s.rest with
  | d :: rest => .ok (d, { s with rest })
  | [] => .error .missingDatum

/-- The supply whose next datum is the one that a place asks for. -/
def select (s : Supply) : Source → Except TemplateError Supply
  | .next => .ok s
  | source =>
    match s.members, source with
    | none, _ => .error .noNames
    | some members, .named name =>
      match members.find? fun member => member.1.toList = name with
      | some (_, d) => .ok { s with rest := [d] }
      | none => .error (.unknownName name)
    | some _, _ => .error .unclosedName

/-- Whether no datum is left that should have been taken.  Of data with names none has to be. -/
def isUsedUp (s : Supply) : Bool := s.members.isSome || s.rest.isEmpty

end Supply

/-- The greatest width that can be written out or taken from the data. -/
def greatestWidth : Int := Int.pow 2 63 - 1

/-- The greatest precision that can be written out or taken from the data. -/
def greatestPrecision : Int := Int.pow 2 31 - 1

/-- The integer that the next datum is, within a range that is symmetric but for one more negative
number. -/
def takeExtent (s : Supply) (greatest : Int) (cause : TemplateError) :
    Except TemplateError (Int × Supply) := do
  let (d, s) ← s.take
  match d.integer? with
  | none => .error .extentNotInteger
  | some n => if -greatest - 1 ≤ n ∧ n ≤ greatest then .ok (n, s) else .error cause

/-- The width of a place.  A negative one has its datum at the left. -/
def widthOf (s : Supply) : Option Extent → Except TemplateError (Int × Supply)
  | none => .ok (0, s)
  | some (.given n) => if greatestWidth < n then .error .widthTooLarge else .ok (n, s)
  | some .taken => takeExtent s greatestWidth .widthOutOfRange

/-- The precision of a place.  A negative one counts as zero. -/
def precisionOf (s : Supply) : Option Extent → Except TemplateError (Option Nat × Supply)
  | none => .ok (none, s)
  | some (.given n) =>
    if greatestPrecision < n then .error .precisionTooLarge else .ok (some n, s)
  | some .taken => do
    let (n, s) ← takeExtent s greatestPrecision .precisionOutOfRange
    .ok (some n.toNat, s)

/-- A place with its datum, and the data that are left. -/
def fillPlace (p : Place) (s : Supply) : Except TemplateError (List Char × Supply) := do
  let s ← s.select p.source
  let (width, s) ← widthOf s p.width
  let (precision, s) ← precisionOf s p.precision
  match p.letter with
  | none => .error .incomplete
  | some (letter, position) =>
    let (d, s) ← s.take
    let flags := { p.flags with left := p.flags.left || width < 0 }
    let layout : Layout := { flags, width := width.natAbs, precision }
    let cs ← layout.write letter position d
    .ok (cs, s)

/-- The pieces of a template with their data. -/
def fillPieces : List Piece → Supply → Except TemplateError (List Char)
  | [], s => if s.isUsedUp then .ok [] else .error .unusedDatum
  | .plain c :: rest, s => (fillPieces rest s).map (c :: ·)
  | .place p :: rest, s => do
    let (cs, s) ← fillPlace p s
    let more ← fillPieces rest s
    .ok (cs ++ more)

/-- A template with its data.  Without data it is left as it is. -/
def fillIn (template : String) (data : List Datum) : Except TemplateError String :=
  if data.isEmpty then .ok template
  else (fillPieces (pieces template.toList) (.of data)).map String.ofList

end CurveSketch.Template
