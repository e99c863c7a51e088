import CurveSketch.Number.Binary64
import CurveSketch.Text.Character

/-!
# Numbers written in decimal places

How a number is written out, from its exact value.

* `leadingPlace` — the place of a number's first digit.
* `general` — a number rounded to some count of digits; positional when the first digit is at
  a place from `10⁻⁴` up to that count, with an exponent otherwise.
* `significant` — the same without the zeros at the end.
* `exponential` — a number with an exponent, rounded to some count of decimal places.
* `fixed` — a number rounded to some count of decimal places; `fixedWith` may keep a last point.

All round the exact binary value, and half a unit goes to the even digit.
-/

namespace CurveSketch.Number

open Text

/-- Whether `10 ^ place` is at most `num / den`. -/
def reachesPlace (num den : Nat) : (place : Int) → Bool
  | .ofNat k => Nat.pow 10 k * den ≤ num
  | .negSucc k => den ≤ num * Nat.pow 10 (k + 1)

/-- Go up from a place while the next one is still reached, at most `steps` times. -/
def climbPlace (num den : Nat) : (steps : Nat) → (place : Int) → Int
  | 0, place => place
  | steps + 1, place =>
    if reachesPlace num den (place + 1) then climbPlace num den steps (place + 1) else place

/-- The place of the first digit of a positive quotient: the greatest `p` with
`10 ^ p ≤ num / den`.  The binary logarithm gives a place that is at most three too low. -/
def leadingPlace (num den : Nat) : Int :=
  let binary : Int := (Nat.log2 num : Int) - Nat.log2 den - 1
  climbPlace num den 4 (Int.fdiv (binary * 30103) 100000 - 1)

/-- The digits of a number, with zeros in front up to the width. -/
def paddedDigits (width n : Nat) : List Char :=
  let digits := naturalDigits n
  List.replicate (width - digits.length) '0' ++ digits

/-- A text without the zeros at its end. -/
def dropLastZeros (cs : List Char) : List Char := (cs.reverse.dropWhile (· = '0')).reverse

/-- A whole part, the point and a fraction.  The point is left out if the fraction is empty, unless
it is to be kept. -/
def pointed (keepPoint : Bool) (whole fraction : List Char) : List Char :=
  if fraction.isEmpty && !keepPoint then whole else whole ++ '.' :: fraction

/-- An exponent: its sign, and at least two digits. -/
def exponentText (place : Int) : List Char :=
  'e' :: (if place < 0 then '-' else '+') :: paddedDigits 2 place.natAbs

/-- Digits whose first one stands at the place, in positional notation. -/
def positional (keepPoint : Bool) (digits : List Char) : (place : Int) → List Char
  | .ofNat k =>
    let padded := digits ++ List.replicate (k + 1 - digits.length) '0'
    pointed keepPoint (padded.take (k + 1)) (padded.drop (k + 1))
  | .negSucc k => '0' :: '.' :: (List.replicate k '0' ++ digits)

/-- Digits whose first one stands at the place, with an exponent. -/
def scientific (keepPoint : Bool) (digits : List Char) (place : Int) : List Char :=
  pointed keepPoint (digits.take 1) (digits.drop 1) ++ exponentText place

/-- A sign in front of a text. -/
def signed (negative : Bool) (cs : List Char) : List Char := if negative then '-' :: cs else cs

/-- No binary64 number has more significant decimal digits than this. -/
def mostDigits : Nat := 767

/-- No binary64 number has more decimal places than this. -/
def mostPlaces : Nat := 1074

/-- A positive quotient rounded to a count of significant digits: the digits and the place of the
first one.  When rounding carries into a further place the digits are a one and zeros. -/
def roundedDigits (num den count : Nat) : List Char × Int :=
  let place := leadingPlace num den
  let n := roundScaled num den (count - 1 - place)
  if Nat.pow 10 count ≤ n then (naturalDigits (n / 10), place + 1) else (naturalDigits n, place)

/-- The size of a number rounded to exactly `count` significant digits, and the place of the first
one.  All digits of zero are zeros, and the first one is that of the ones. -/
def exactDigits (significand : Nat) (exponent : Int) (count : Nat) : List Char × Int :=
  if significand = 0 then (List.replicate count '0', 0)
  else
    let size := ratio significand exponent
    let (digits, place) := roundedDigits size.1 size.2 (min count (mostDigits + 1))
    (digits ++ List.replicate (count - digits.length) '0', place)

/-- A number to `count` significant digits, at least one.  Zeros at the end, and a point without a
fraction, are dropped unless all digits are to be kept. -/
def general (keepAll : Bool) (count : Nat) (x : Float) : List Char :=
  match Binary64.of x with
  | .nan => ['n', 'a', 'n']
  | .infinite negative => signed negative ['i', 'n', 'f']
  | .finite negative significand exponent =>
    let count := max 1 count
    let kept := if keepAll then count else min count (mostDigits + 1)
    let (all, place) := exactDigits significand exponent kept
    let digits := if keepAll then all else dropLastZeros all
    signed negative <|
      if -4 ≤ place ∧ place < count then positional keepAll digits place
      else scientific keepAll digits place

/-- A number to `count` significant digits, at least one, without zeros at the end. -/
def significant (count : Nat) (x : Float) : List Char := general false count x

/-- A number to `places` decimal places after its first digit, with an exponent. -/
def exponential (keepPoint : Bool) (places : Nat) (x : Float) : List Char :=
  match Binary64.of x with
  | .nan => ['n', 'a', 'n']
  | .infinite negative => signed negative ['i', 'n', 'f']
  | .finite negative significand exponent =>
    let (digits, place) := exactDigits significand exponent (places + 1)
    signed negative (scientific keepPoint digits place)

/-- A number to `places` decimal places, all of them written.  Without places a point is written
only if it is to be kept. -/
def fixedWith (keepPoint : Bool) (places : Nat) (x : Float) : List Char :=
  match Binary64.of x with
  | .nan => ['n', 'a', 'n']
  | .infinite negative => signed negative ['i', 'n', 'f']
  | .finite negative significand exponent =>
    let size := ratio significand exponent
    let exact := min places mostPlaces
    let digits := paddedDigits (exact + 1) (roundScaled size.1 size.2 exact)
    let point := digits.length - exact
    let fraction := digits.drop point ++ List.replicate (places - exact) '0'
    signed negative (pointed keepPoint (digits.take point) fraction)

/-- A number to `places` decimal places, all of them written. -/
def fixed (places : Nat) (x : Float) : List Char := fixedWith false places x

end CurveSketch.Number
