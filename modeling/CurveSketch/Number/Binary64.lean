/-!
# What a floating-point number is worth

The analyses compute in binary64.  Whatever is printed, compared with an exact decimal or turned
into an integer goes through the exact value of a number, which this module reads off its bits.

* `roundDiv` — the integer nearest to a quotient of natural numbers; half an integer goes to the
  even neighbour.
* `roundScaled` — the same for a quotient times a power of ten.
* `Binary64` — a number taken apart: a sign, and an integer times a power of two.
* `Binary64.of` — taking a `Float` apart.
* `Binary64.ratio` — the size of a finite number as a quotient of natural numbers.
* `nearestInt?` — the nearest integer; half an integer goes to the even one.
* `ofInt`, `ofRatio` — the number nearest to an integer, and to a quotient.
-/

namespace CurveSketch.Number

/-- The integer nearest to `num / den`; a tie goes to the even one. -/
def roundDiv (num den : Nat) : Nat :=
  let q := num / den
  let r := num % den
  if 2 * r < den then q
  else if den < 2 * r then q + 1
  else if q % 2 = 0 then q else q + 1

/-- The integer nearest to `num / den · 10 ^ places`; a tie goes to the even one. -/
def roundScaled (num den : Nat) : (places : Int) → Nat
  | .ofNat k => roundDiv (num * Nat.pow 10 k) den
  | .negSucc k => roundDiv num (den * Nat.pow 10 (k + 1))

/-- A binary64 number taken apart.  A finite one has the size `significand · 2 ^ exponent`. -/
inductive Binary64 where
  | nan
  | infinite (negative : Bool)
  | finite (negative : Bool) (significand : Nat) (exponent : Int)
  deriving DecidableEq, Repr

/-- Take a number apart.  The bits are a sign, eleven bits of exponent and fifty-two of fraction;
an exponent of zero has no hidden bit, and the greatest one marks the infinities and NaN. -/
def Binary64.of (x : Float) : Binary64 :=
  let bits := x.toBits.toNat
  let negative := decide (Nat.pow 2 63 ≤ bits)
  let exponent : Nat := bits / Nat.pow 2 52 % Nat.pow 2 11
  let fraction := bits % Nat.pow 2 52
  if exponent = 2047 then
    if fraction = 0 then .infinite negative else .nan
  else if exponent = 0 then .finite negative fraction (-1074)
  else .finite negative (Nat.pow 2 52 + fraction) ((exponent : Int) - 1075)

/-- The quotient `significand · 2 ^ exponent`. -/
def ratio (significand : Nat) : (exponent : Int) → Nat × Nat
  | .ofNat k => (significand * Nat.pow 2 k, 1)
  | .negSucc k => (significand, Nat.pow 2 (k + 1))

/-- The denominator of a size is positive. -/
theorem ratio_snd_pos (significand : Nat) (exponent : Int) :
    0 < (ratio significand exponent).2 := by
  cases exponent with
  | ofNat k => simp [ratio]
  | negSucc k => exact Nat.two_pow_pos _

/-- The integer nearest to a finite number, ties to the even one; `none` if it is not finite. -/
def nearestInt? (x : Float) : Option Int :=
  match Binary64.of x with
  | .finite negative significand exponent =>
    let size := roundDiv (ratio significand exponent).1 (ratio significand exponent).2
    some (if negative then -size else size)
  | _ => none

/-- The number nearest to an integer. -/
def ofInt : Int → Float
  | .ofNat n => OfScientific.ofScientific n false 0
  | .negSucc n => -OfScientific.ofScientific (n + 1) false 0

/-- The number with a significand of at most fifty-three bits and an exponent.  The significand has
exactly so many bits, or the exponent is the least there is. -/
def assemble (significand : Nat) (exponent : Int) : Float :=
  let bits :=
    if significand < Nat.pow 2 52 then significand
    else (exponent + 1074).toNat * Nat.pow 2 52 + significand
  Float.ofBits (min bits (2047 * Nat.pow 2 52)).toUInt64

/-- The number nearest to a quotient of natural numbers, infinite beyond the range.  The quotient is
rounded once, to fifty-three bits or to the last bit there is, half a bit to the even one. -/
def ofRatio (num den : Nat) : Float :=
  let low : Int := (num.log2 : Int) - den.log2 - 53
  let exponent := max (-1074) (if truncated low < Nat.pow 2 53 then low else low + 1)
  assemble (rounded exponent) exponent
where
  /-- The whole part of the quotient divided by a power of two. -/
  truncated : Int → Nat
    | .ofNat k => num / (den * Nat.pow 2 k)
    | .negSucc k => num * Nat.pow 2 (k + 1) / den
  /-- The quotient divided by a power of two and rounded. -/
  rounded : Int → Nat
    | .ofNat k => roundDiv num (den * Nat.pow 2 k)
    | .negSucc k => roundDiv (num * Nat.pow 2 (k + 1)) den

end CurveSketch.Number
