import CurveSketch.Number.Decimal

/-!
# The shortest text of a number

Among the decimals that read back as a given binary64 number, the text has the fewest digits, and
of those the nearest to the number.

* `Interval` — the exact numbers that are read back as the given one.
* `shortestDigits` — the digits, and the place of the first one.
* `shortest` — the text: positional when the first digit stands at a place from `10⁻⁴` to `10¹⁵`,
  always with a point or an exponent.
-/

namespace CurveSketch.Number

open Text

/-- The exact numbers that are read as one binary64 number: from `low / den` to `high / den`, the
ends included when the significand is even. -/
structure Interval where
  low : Nat
  high : Nat
  den : Nat
  closed : Bool
  deriving Repr

/-- The numbers that are read as `significand · 2 ^ exponent`.  Each end is half way to the
neighbour; below a power of two the neighbour is only half as far. -/
def Interval.around (significand : Nat) (exponent : Int) : Interval :=
  let size := ratio significand (exponent - 2)
  let unit := (ratio 1 (exponent - 2)).1
  let narrow := significand = Nat.pow 2 52 ∧ -1074 < exponent
  { low := size.1 * 4 - (if narrow then 1 else 2) * unit
    high := size.1 * 4 + 2 * unit
    den := size.2
    closed := significand % 2 = 0 }

/-- Whether the interval holds `n · 10 ^ place`. -/
def Interval.holds (i : Interval) (n : Nat) (place : Int) : Bool :=
  let (num, den) : Nat × Nat := match place with
    | .ofNat k => (n * Nat.pow 10 k, 1)
    | .negSucc k => (n, Nat.pow 10 (k + 1))
  if i.closed then i.low * den ≤ num * i.den && num * i.den ≤ i.high * den
  else i.low * den < num * i.den && num * i.den < i.high * den

/-- The multiple of `10 ^ place` nearest to the quotient, if it is read back. -/
def candidate? (i : Interval) (num den : Nat) (place : Int) : Option Nat :=
  let down := match place with
    | .ofNat k => num / (den * Nat.pow 10 k)
    | .negSucc k => num * Nat.pow 10 (k + 1) / den
  let near := roundScaled num den (-place)
  if i.holds near place then some near
  else if i.holds down place then some down
  else if i.holds (down + 1) place then some (down + 1)
  else none

/-- The shortest digits from the given count of digits on, at most `steps` counts further. -/
def shortestFrom (i : Interval) (num den : Nat) (lead : Int) : (steps count : Nat) → Nat × Int
  | 0, count => (roundScaled num den (count - 1 - lead), lead - (count - 1))
  | steps + 1, count =>
    let place := lead - (count - 1 : Nat)
    match candidate? i num den place with
    | some n => (n, place)
    | none => shortestFrom i num den lead steps (count + 1)

/-- The fewest digits that read back as `significand · 2 ^ exponent`, and the place of the first.
Seventeen digits always suffice. -/
def shortestDigits (significand : Nat) (exponent : Int) : List Char × Int :=
  let size := ratio significand exponent
  let (n, place) :=
    shortestFrom (.around significand exponent) size.1 size.2 (leadingPlace size.1 size.2) 17 1
  let digits := naturalDigits n
  (dropLastZeros digits, place + digits.length - 1)

/-- The shortest text that reads back as the number. -/
def shortest (x : Float) : List Char :=
  match Binary64.of x with
  | .nan => ['n', 'a', 'n']
  | .infinite negative => signed negative ['i', 'n', 'f']
  | .finite negative 0 _ => signed negative ['0', '.', '0']
  | .finite negative significand exponent =>
    let (digits, place) := shortestDigits significand exponent
    signed negative <|
      if -4 ≤ place ∧ place < 16 then
        if digits.length ≤ place + 1 then positional false digits place ++ ['.', '0']
        else positional false digits place
      else scientific false digits place

end CurveSketch.Number
