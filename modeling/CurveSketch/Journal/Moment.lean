import CurveSketch.Number.Error
import CurveSketch.Number.Decimal
import CurveSketch.Number.Quantity

/-!
# Points in time

* `Moment` — a point in time as a date and a time of day.
* `Moment.ofSeconds` — the moment so many seconds after the beginning of 1970, in the years from 1
  to 9999.
* `MomentError` — why there is none.
* `Moment.text` — a moment in digits.
-/

namespace CurveSketch

open Number

/-- A date and a time of day, to the microsecond. -/
structure Moment where
  year : Int
  month : Nat
  day : Nat
  hour : Nat
  minute : Nat
  second : Nat
  micro : Nat
  deriving DecidableEq, Repr

/-- Why a number of seconds gives no moment. -/
inductive MomentError where
  /-- It is no number. -/
  | notANumber
  /-- It is beyond what a clock counts. -/
  | beyondClock
  /-- Its year is beyond what a calendar counts. -/
  | beyondCalendar
  /-- Its year is not one from 1 to 9999. -/
  | yearOutOfRange (year : Int)
  deriving DecidableEq, Repr

namespace MomentError

/-- The family of a cause. -/
def kind : MomentError → FailureKind
  | notANumber | yearOutOfRange _ => .value
  | beyondClock => .overflow
  | beyondCalendar => .calendar

/-- The wording of a cause. -/
def message : MomentError → String
  | notANumber => "Invalid value NaN (not a number)"
  | beyondClock => "timestamp out of range for platform time_t"
  | beyondCalendar => "[Errno 75] Value too large for defined data type"
  | yearOutOfRange year => s!"year {year} is out of range"

end MomentError

namespace Moment

/-- Year, month and day of the day with a number, where day zero is the first of 1970.  Years are
counted from March, so that a leap day is the last day of its year; four hundred such years have
146097 days. -/
def dateOf (day : Int) : Int × Nat × Nat :=
  let shifted := day + 719468
  let era := Int.fdiv shifted 146097
  let dayOfEra := (shifted - era * 146097).toNat
  let yearOfEra := (dayOfEra - dayOfEra / 1460 + dayOfEra / 36524 - dayOfEra / 146096) / 365
  let dayOfYear := dayOfEra - (365 * yearOfEra + yearOfEra / 4 - yearOfEra / 100)
  let monthFromMarch := (5 * dayOfYear + 2) / 153
  let dayOfMonth := dayOfYear - (153 * monthFromMarch + 2) / 5 + 1
  let month := if monthFromMarch < 10 then monthFromMarch + 3 else monthFromMarch - 9
  (yearOfEra + era * 400 + (if month ≤ 2 then 1 else 0), month, dayOfMonth)

/-- The moment of a second of the clock and some microseconds. -/
def ofClock (seconds : Int) (micro : Nat) : Moment :=
  let day := Int.fdiv seconds 86400
  let inDay := (seconds - day * 86400).toNat
  let (year, month, dayOfMonth) := dateOf day
  { year, month, day := dayOfMonth, hour := inDay / 3600, minute := inDay / 60 % 60,
    second := inDay % 60, micro }

/-- Microseconds in a number of seconds.  The part after the point is scaled by itself and then
rounded, half a microsecond to the even one. -/
def microseconds : Quantity → Except MomentError Int
  | .whole n => .ok (n * 1000000)
  | .real x =>
    if x.isNaN then .error .notANumber
    else
      let whole := if x < 0.0 then Float.ceil x else Float.floor x
      match nearestInt? whole, nearestInt? ((x - whole) * 1000000.0) with
      | some seconds, some micro => .ok (seconds * 1000000 + micro)
      | _, _ => .error .beyondClock

/-- Fails unless a year is one from 1 to 9999. -/
def requireYear (year : Int) : Except MomentError Unit :=
  if 1 ≤ year ∧ year ≤ 9999 then .ok () else .error (.yearOutOfRange year)

/-- The moment so many seconds after the beginning of 1970.  A clock counts seconds in a word of
sixty-four bits, and a calendar counts years from 1900 in one of thirty-two; so the last of its
years wrap around when they are counted from zero.  The day before has to be in range, too, so that
a clock that was set back can be told. -/
def ofSeconds (seconds : Quantity) : Except MomentError Moment := do
  let count ← microseconds seconds
  let clock := Int.fdiv count 1000000
  if clock < -Int.pow 2 63 ∨ Int.pow 2 63 ≤ clock then .error .beyondClock
  let moment := ofClock clock (count - clock * 1000000).toNat
  if moment.year - 1900 < -Int.pow 2 31 ∨ Int.pow 2 31 ≤ moment.year - 1900 then .error .beyondCalendar
  requireYear (Int.bmod moment.year (Nat.pow 2 32))
  requireYear (ofClock (clock - 86400) 0).year
  .ok moment

/-- A number in at least so many digits. -/
def padded (width n : Nat) : String := String.ofList (paddedDigits width n)

/-- Date and time with a `T` between them; microseconds only if there are any. -/
def text (m : Moment) : String :=
  padded 4 m.year.toNat ++ "-" ++ padded 2 m.month ++ "-" ++ padded 2 m.day ++ "T" ++
    padded 2 m.hour ++ ":" ++ padded 2 m.minute ++ ":" ++ padded 2 m.second ++
    (if m.micro = 0 then "" else "." ++ padded 6 m.micro)

end Moment

end CurveSketch
