import CurveSketch.Text.Quoted

/-!
# What can go wrong with numbers

* `FailureKind` — the families that failures outside the rules for expressions fall into.
* `NumberError` — the causes: a text that is no number, a number that does not fit, a division by
  zero, a count of points that makes no sense, several numbers where one is needed.
* `NumberError.kind` — the family of a cause.
* `NumberError.message` — the wording.
-/

namespace CurveSketch

open Text

/-- The families of failures. -/
inductive FailureKind where
  /-- A value that makes no sense where it stands. -/
  | value
  /-- A datum of the wrong sort. -/
  | sort
  /-- A datum of a sort that something cannot be done with. -/
  | operation
  /-- A number beyond what can be held. -/
  | overflow
  /-- A division by zero. -/
  | zeroDivision
  /-- A name that a record does not have. -/
  | missingName
  /-- A text that is too long to be held. -/
  | space
  /-- A point in time that the calendar of the system does not reach. -/
  | calendar
  deriving DecidableEq, Repr

/-- Why a number could not be read, converted or used. -/
inductive NumberError where
  /-- The text is not an integer. -/
  | notInteger (text : List Char)
  /-- The text is not a number. -/
  | notReal (text : List Char)
  /-- The integer has more digits than are read. -/
  | tooManyDigits (count : Nat)
  /-- NaN has no nearest integer. -/
  | nanToInteger
  /-- An infinity has no nearest integer. -/
  | infinityToInteger
  /-- The integer is beyond the range of binary64. -/
  | integerTooLarge
  /-- The quotient of two integers is beyond the range of binary64. -/
  | quotientTooLarge
  /-- An integer was divided by the integer zero. -/
  | integerDivisionByZero
  /-- A number was divided by a zero. -/
  | realDivisionByZero
  /-- A grid was to have fewer than no points. -/
  | negativeCount (count : Int)
  /-- A grid was to have more points than can be counted. -/
  | countTooLarge
  /-- A relation does not take a single number where one is needed. -/
  | notSingle
  deriving DecidableEq, Repr

namespace NumberError

/-- The family of a cause. -/
def kind : NumberError → FailureKind
  | notInteger _ | notReal _ | tooManyDigits _ | nanToInteger | negativeCount _
  | countTooLarge => .value
  | infinityToInteger | integerTooLarge | quotientTooLarge => .overflow
  | integerDivisionByZero | realDivisionByZero => .zeroDivision
  | notSingle => .sort

/-- The most digits an integer may be written with. -/
def digitLimit : Nat := 4300

/-- The wording of a cause. -/
def message : NumberError → String
  | notInteger text => "invalid literal for int() with base 10: " ++ String.ofList (quote text)
  | notReal text => "could not convert string to float: " ++ String.ofList (quote text)
  | tooManyDigits count =>
    s!"Exceeds the limit ({digitLimit} digits) for integer string conversion: " ++
      s!"value has {count} digits; use sys.set_int_max_str_digits() to increase the limit"
  | nanToInteger => "cannot convert float NaN to integer"
  | infinityToInteger => "cannot convert float infinity to integer"
  | integerTooLarge => "int too large to convert to float"
  | quotientTooLarge => "integer division result too large for a float"
  | integerDivisionByZero => "division by zero"
  | realDivisionByZero => "float division by zero"
  | negativeCount count => s!"Number of samples, {count}, must be non-negative."
  | countTooLarge => "Maximum allowed size exceeded"
  | notSingle => "must be real number, not NoneType"

end NumberError

end CurveSketch
