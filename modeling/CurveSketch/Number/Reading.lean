import CurveSketch.Number.Binary64
import CurveSketch.Number.Error
import CurveSketch.Text.Character

/-!
# Reading numbers

* `readInteger` — an integer: an optional sign and digits.
* `readReal` — a number: an optional sign, then digits with an optional point and an optional
  exponent, or the name of an infinity or of NaN in letters of any case.
* `ofDecimal` — the binary64 number nearest to `n · 10 ^ e`.

Digits of every script are read by their value, a single underscore may stand between two digits,
and blanks around a number are ignored.
-/

namespace CurveSketch.Number

open Text

/-- Positive infinity. -/
def infinity : Float := 1.0 / 0.0

/-- The value that is not a number. -/
def notANumber : Float := 0.0 / 0.0

/-- Whether a character may stand around a number.  The information separators may not. -/
def isPadding (c : Char) : Bool := isBlank c && !(0x1C ≤ c.toNat && c.toNat ≤ 0x1F)

/-- A text with every digit replaced by the digit of equal value of the basic Latin block. -/
def plainDigits (cs : List Char) : List Char :=
  cs.map fun c => match digitValue? c with
    | some d => digitChar d
    | none => c

/-- A text without the underscores that stand between two digits; `afterDigit` tells whether a
digit precedes it. -/
def dropJoints (afterDigit : Bool) : List Char → List Char
  | [] => []
  | c :: rest =>
    if c = '_' && afterDigit && rest.head?.any isDigit then dropJoints false rest
    else c :: dropJoints (isDigit c) rest

/-- A sign, if there is one, and the rest. -/
def splitSign : List Char → Bool × List Char
  | '-' :: rest => (true, rest)
  | '+' :: rest => (false, rest)
  | cs => (false, cs)

/-- The number that digits write. -/
def digitsValue (cs : List Char) : Nat :=
  cs.foldl (fun n c => 10 * n + (digitValue? c).getD 0) 0

/-- The text of a number as it is read: no padding, plain digits, no joints. -/
def plainNumber (cs : List Char) : List Char :=
  dropJoints false (plainDigits (trimWith isPadding cs))

/-- Read an integer. -/
def readInteger (cs : List Char) : Except NumberError Int :=
  let (negative, digits) := splitSign (plainNumber cs)
  if digits.isEmpty || !digits.all isDigit then .error (.notInteger cs)
  else if NumberError.digitLimit < digits.length then .error (.tooManyDigits digits.length)
  else
    let n : Int := digitsValue digits
    .ok (if negative then -n else n)

/-- The number nearest to `n · 10 ^ e`.  Beyond the given exponents the result is infinite or zero
whatever the digits are. -/
def ofDecimal (n : Nat) (e : Int) : Float :=
  if n = 0 then 0.0
  else if 400 < e then infinity
  else if (n.log2 + 1 : Nat) + e * 3 < -1200 then 0.0
  else OfScientific.ofScientific n (decide (e < 0)) e.natAbs

/-- An exponent after its letter: an optional sign and at least one digit, to the end. -/
def readExponent? (cs : List Char) : Option Int :=
  let (negative, digits) := splitSign cs
  if digits.isEmpty || !digits.all isDigit then none
  else
    let n : Int := digitsValue digits
    some (if negative then -n else n)

/-- The size of a number without its sign. -/
def readSize? (cs : List Char) : Option Float :=
  let small := cs.map Char.toLower
  if small = ['i', 'n', 'f'] ∨ small = ['i', 'n', 'f', 'i', 'n', 'i', 't', 'y'] then some infinity
  else if small = ['n', 'a', 'n'] then some notANumber
  else
    let (whole, rest) := cs.span isDigit
    let (fraction, rest) := match rest with
      | '.' :: rest => rest.span isDigit
      | rest => ([], rest)
    if whole.isEmpty && fraction.isEmpty then none
    else
      let n := digitsValue (whole ++ fraction)
      match rest with
      | [] => some (ofDecimal n (-fraction.length))
      | letter :: rest =>
        if letter = 'e' ∨ letter = 'E' then
          (readExponent? rest).map fun e => ofDecimal n (e - fraction.length)
        else none

/-- Read a number, `none` if the text is not one. -/
def readReal? (cs : List Char) : Option Float :=
  let (negative, size) := splitSign (plainNumber cs)
  (readSize? size).map fun x => if negative then -x else x

/-- Read a number. -/
def readReal (cs : List Char) : Except NumberError Float :=
  match readReal? cs with
  | some x => .ok x
  | none => .error (.notReal cs)

end CurveSketch.Number
