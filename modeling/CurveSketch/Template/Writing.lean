import CurveSketch.Datum
import CurveSketch.Template
import CurveSketch.Template.Error

/-!
# Data in their places

How a datum is written in a place of a template once the width and the precision of the place are
known.

* **The manner** — `Manner`, by the letter of the place: in words, as an integer to some base, as a
  number with a fraction or an exponent, as a character.
* **The layout** — `Layout`: a text is filled up with blanks (`Layout.place`), a number also with
  zeros between its sign and its digits (`Layout.placeNumber`).
* **The text** — `Layout.write`.
-/

namespace CurveSketch.Template

open Number Text

/-- How a datum is written. -/
inductive Manner where
  /-- In words. -/
  | words
  /-- In words, with texts quoted. -/
  | quoted
  /-- In words of the basic Latin block, with texts quoted. -/
  | plainQuoted
  /-- As a character. -/
  | character
  /-- As an integer to base ten, eight or sixteen. -/
  | decimal
  | octal
  | hexadecimal (capitals : Bool)
  /-- As a number with an exponent, with a fraction, or as is shorter. -/
  | exponential (capitals : Bool)
  | fixed (capitals : Bool)
  | general (capitals : Bool)
  deriving DecidableEq, Repr

/-- The manner that a letter stands for. -/
def Manner.ofLetter? : Char → Option Manner
  | 's' => some .words
  | 'r' => some .quoted
  | 'a' => some .plainQuoted
  | 'c' => some .character
  | 'd' | 'i' | 'u' => some .decimal
  | 'o' => some .octal
  | 'x' => some (.hexadecimal false)
  | 'X' => some (.hexadecimal true)
  | 'e' => some (.exponential false)
  | 'E' => some (.exponential true)
  | 'f' => some (.fixed false)
  | 'F' => some (.fixed true)
  | 'g' => some (.general false)
  | 'G' => some (.general true)
  | _ => none

/-- The layout of a place. -/
structure Layout where
  flags : Flags
  /-- The least width. -/
  width : Nat
  /-- The most characters of a text, the least digits of an integer, or the places of a number. -/
  precision : Option Nat

/-- The greatest length of a text that can be held. -/
def greatestLength : Nat := 10000000

/-- Fails if a text would be too long to be held. -/
def requireSpace (length : Nat) : Except TemplateError Unit :=
  if greatestLength < length then .error .tooLong else .ok ()

/-- The greatest count of digits that may be asked for. -/
def greatestDigits : Nat := 2147483644

/-- The places of a number when no precision is given. -/
def usualPlaces : Nat := 6

/-- A text in capitals, if it is to be. -/
def inCase (capitals : Bool) (cs : List Char) : List Char :=
  if capitals then cs.map Char.toUpper else cs

/-- The character with a number.  A number that is only half of a character has the replacement
character. -/
def characterOf (n : Nat) : Char := if n.isValidChar then Char.ofNat n else '\uFFFD'

namespace Layout

/-- A text in its place. -/
def place (l : Layout) (cs : List Char) : Except TemplateError (List Char) := do
  requireSpace l.width
  let blanks := List.replicate (l.width - cs.length) ' '
  .ok (if l.flags.left then cs ++ blanks else blanks ++ cs)

/-- The sign of a number. -/
def sign (l : Layout) (negative : Bool) : List Char :=
  if negative then ['-'] else if l.flags.plus then ['+'] else if l.flags.blank then [' '] else []

/-- A number in its place: its sign, a mark of its base, and its digits.  Zeros stand between the
mark and the digits. -/
def placeNumber (l : Layout) (negative : Bool) (mark digits : List Char) :
    Except TemplateError (List Char) :=
  let front := l.sign negative ++ mark
  if l.flags.zeros && !l.flags.left then do
    requireSpace l.width
    .ok (front ++ List.replicate (l.width - front.length - digits.length) '0' ++ digits)
  else l.place (front ++ digits)

/-- A text, cut to the precision, in its place. -/
def writeText (l : Layout) (cs : List Char) : Except TemplateError (List Char) :=
  l.place (cs.take (l.precision.getD cs.length))

/-- An integer to some base in its place.  The mark of the base is written only if it is to be
shown. -/
def writeInteger (l : Layout) (base : Nat) (mark : List Char) (capitals : Bool) (n : Int) :
    Except TemplateError (List Char) := do
  let least := l.precision.getD 0
  if greatestDigits < least then .error .tooManyDigits
  requireSpace least
  let digits := inCase capitals (Nat.toDigits base n.natAbs)
  l.placeNumber (n < 0) (if l.flags.full then mark else [])
    (List.replicate (least - digits.length) '0' ++ digits)

/-- An integer as a number of binary64 in its place.  `text` writes the size of the number with so
many places. -/
def writeReal (l : Layout) (text : (keepPoint : Bool) → (places : Nat) → Float → List Char)
    (capitals : Bool) (n : Int) : Except TemplateError (List Char) := do
  let x := ofInt n.natAbs
  if !x.isFinite then .error (.number .integerTooLarge)
  let places := l.precision.getD usualPlaces
  requireSpace places
  l.placeNumber (n < 0) [] (inCase capitals (text l.flags.full places x))

/-- A datum as a character in its place: a text of one character, or the number of one. -/
def writeCharacter (l : Layout) : Datum → Except TemplateError (List Char)
  | .text s =>
    match s.toList with
    | [c] => l.place [c]
    | _ => .error .notCharacter
  | d =>
    match d.integer? with
    | some n =>
      if 0 ≤ n ∧ n < 0x110000 then l.place [characterOf n.toNat]
      else .error .characterOutOfRange
    | none => .error .notCharacter

/-- The integer that a datum is. -/
def integerOf (d : Datum) (cause : TemplateError) : Except TemplateError Int :=
  match d.integer? with
  | some n => .ok n
  | none => .error cause

/-- A datum in its place, written in a manner for which a letter stands. -/
def writeAs (l : Layout) (letter : Char) (d : Datum) : Manner → Except TemplateError (List Char)
  | .words => l.writeText d.words.toList
  | .quoted => l.writeText d.quoted
  | .plainQuoted => l.writeText d.plainQuoted
  | .character => l.writeCharacter d
  | .decimal => do
    l.writeInteger 10 [] false (← integerOf d (.notDecimal letter d.sort))
  | .octal => do
    l.writeInteger 8 ['0', letter] false (← integerOf d (.notInteger letter d.sort))
  | .hexadecimal capitals => do
    l.writeInteger 16 ['0', letter] capitals (← integerOf d (.notInteger letter d.sort))
  | .exponential capitals => do
    l.writeReal Number.exponential capitals (← integerOf d (.notReal d.sort))
  | .fixed capitals => do
    l.writeReal fixedWith capitals (← integerOf d (.notReal d.sort))
  | .general capitals => do
    l.writeReal Number.general capitals (← integerOf d (.notReal d.sort))

/-- A datum in its place, written as the letter at a position of the template says. -/
def write (l : Layout) (letter : Char) (position : Nat) (d : Datum) :
    Except TemplateError (List Char) :=
  match Manner.ofLetter? letter with
  | some manner => l.writeAs letter d manner
  | none => .error (.unknownLetter letter position)

end Layout

end CurveSketch.Template
