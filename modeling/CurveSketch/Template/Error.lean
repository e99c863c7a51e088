import CurveSketch.Number.Error

/-!
# What can go wrong with templates

* `TemplateError` — the causes: too few or too many data, a place that is not complete, a datum that
  cannot be written as a place demands.
* `TemplateError.kind` — the family of a cause.
* `TemplateError.message` — the wording.
-/

namespace CurveSketch

open Text

/-- Why data cannot be put into a template. -/
inductive TemplateError where
  /-- There is no datum left for a place. -/
  | missingDatum
  /-- There is no place for a datum. -/
  | unusedDatum
  /-- The template ends within a place. -/
  | incomplete
  /-- The name in a place does not end. -/
  | unclosedName
  /-- A place names its datum, but the data have no names. -/
  | noNames
  /-- No datum has the name. -/
  | unknownName (name : List Char)
  /-- A width or a precision is no integer. -/
  | extentNotInteger
  /-- A width that is written out is too large. -/
  | widthTooLarge
  /-- A precision that is written out is too large. -/
  | precisionTooLarge
  /-- A datum is too large for a width. -/
  | widthOutOfRange
  /-- A datum is too large for a precision. -/
  | precisionOutOfRange
  /-- An integer cannot be written with so many digits. -/
  | tooManyDigits
  /-- The datum is no integer, and it is to be written to base ten. -/
  | notDecimal (letter : Char) (sort : String)
  /-- The datum is no integer, and it is to be written to another base. -/
  | notInteger (letter : Char) (sort : String)
  /-- The datum is no number. -/
  | notReal (sort : String)
  /-- The number cannot be used. -/
  | number (cause : NumberError)
  /-- The datum is no character. -/
  | notCharacter
  /-- The number is that of no character. -/
  | characterOutOfRange
  /-- The letter of a place has no meaning. -/
  | unknownLetter (letter : Char) (position : Nat)
  /-- The text would be too long. -/
  | tooLong
  deriving DecidableEq, Repr

namespace TemplateError

/-- The family of a cause. -/
def kind : TemplateError → FailureKind
  | incomplete | unclosedName | widthTooLarge | precisionTooLarge | unknownLetter _ _ => .value
  | missingDatum | unusedDatum | noNames | extentNotInteger | notDecimal _ _ | notInteger _ _
  | notReal _ | notCharacter => .sort
  | widthOutOfRange | precisionOutOfRange | tooManyDigits | characterOutOfRange => .overflow
  | unknownName _ => .missingName
  | number cause => cause.kind
  | tooLong => .space

/-- A character as it stands in a message: a question mark unless it is of the basic Latin block and
can be printed, or is the last before the blank. -/
def messageChar (c : Char) : Char := if 31 ≤ c.toNat ∧ c.toNat ≤ 126 then c else '?'

/-- The number of a character to base sixteen. -/
def numberOf (c : Char) : String := "0x" ++ String.ofList (Nat.toDigits 16 c.toNat)

/-- The wording of a cause. -/
def message : TemplateError → String
  | missingDatum => "not enough arguments for format string"
  | unusedDatum => "not all arguments converted during string formatting"
  | incomplete => "incomplete format"
  | unclosedName => "incomplete format key"
  | noNames => "format requires a mapping"
  | unknownName name => String.ofList (quote name)
  | extentNotInteger => "* wants int"
  | widthTooLarge => "width too big"
  | precisionTooLarge => "precision too big"
  | widthOutOfRange => "Python int too large to convert to C ssize_t"
  | precisionOutOfRange => "Python int too large to convert to C int"
  | tooManyDigits => "precision too large"
  | notDecimal letter sort => s!"%{letter} format: a real number is required, not {sort}"
  | notInteger letter sort => s!"%{letter} format: an integer is required, not {sort}"
  | notReal sort => s!"must be real number, not {sort}"
  | number cause => cause.message
  | notCharacter => "%c requires int or char"
  | characterOutOfRange => "%c arg not in range(0x110000)"
  | unknownLetter letter position =>
    "unsupported format character '" ++ (messageChar letter).toString ++ "' (" ++
      numberOf letter ++ s!") at index {position}"
  | tooLong => ""

end TemplateError

end CurveSketch
