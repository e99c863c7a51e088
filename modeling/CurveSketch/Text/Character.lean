/-!
# Classes of characters

A property of characters is a sorted list of closed ranges of code points.  Every script that writes
numbers by place value has ten digits at consecutive code points, in ascending order from zero; so
for digits the zeros alone list them all.

* `Ranges`, `Ranges.has` — such a list, and membership of a character.
* `isBlank` — the characters that separate tokens and that are cut off at both ends of an input.
* `trim` — a text without the blanks at its two ends.
* `digitValue?`, `isDigit` — the value of a digit, and whether a character is one.
* `naturalDigits` — a natural number written in digits.

The zero-width characters (`U+200B`, `U+FEFF`) are not blank; the four information separators
`U+001C` to `U+001F` and the next-line character `U+0085` are.
-/

namespace CurveSketch.Text

/-! ## Tables of code points -/

/-- Closed ranges of code points, in ascending order. -/
abbrev Ranges := List (Nat × Nat)

/-- Whether the character lies in one of the ranges. -/
def Ranges.has (table : Ranges) (c : Char) : Bool :=
  table.any fun r => r.1 ≤ c.toNat && c.toNat ≤ r.2

/-- Membership names a range that holds the character. -/
theorem Ranges.has_iff (table : Ranges) (c : Char) :
    table.has c = true ↔ ∃ r ∈ table, r.1 ≤ c.toNat ∧ c.toNat ≤ r.2 := by
  simp [Ranges.has]

/-! ## Blanks -/

/-- The ranges of blank characters. -/
def blankRanges : Ranges :=
  [
    (0x9, 0xD), (0x1C, 0x20), (0x85, 0x85), (0xA0, 0xA0), (0x1680, 0x1680), (0x2000, 0x200A),
    (0x2028, 0x2029), (0x202F, 0x202F), (0x205F, 0x205F), (0x3000, 0x3000)
  ]

/-- Whether a character is blank. -/
def isBlank (c : Char) : Bool := blankRanges.has c

/-- The text from its first character that fails `p` to its last one. -/
def trimWith (p : Char → Bool) (cs : List Char) : List Char :=
  ((cs.dropWhile p).reverse.dropWhile p).reverse

/-- The text without the blanks at its two ends. -/
def trim (cs : List Char) : List Char := trimWith isBlank cs

/-! ## Decimal digits -/

/-- The code points of the zeros of all scripts; each begins a run of ten digits. -/
def digitZeros : List Nat :=
  [
    0x30, 0x660, 0x6F0, 0x7C0, 0x966, 0x9E6, 0xA66, 0xAE6, 0xB66, 0xBE6, 0xC66, 0xCE6, 0xD66,
    0xDE6, 0xE50, 0xED0, 0xF20, 0x1040, 0x1090, 0x17E0, 0x1810, 0x1946, 0x19D0, 0x1A80, 0x1A90,
    0x1B50, 0x1BB0, 0x1C40, 0x1C50, 0xA620, 0xA8D0, 0xA900, 0xA9D0, 0xA9F0, 0xAA50, 0xABF0,
    0xFF10, 0x104A0, 0x10D30, 0x11066, 0x110F0, 0x11136, 0x111D0, 0x112F0, 0x11450, 0x114D0,
    0x11650, 0x116C0, 0x11730, 0x118E0, 0x11950, 0x11C50, 0x11D50, 0x11DA0, 0x16A60, 0x16AC0,
    0x16B50, 0x1D7CE, 0x1D7D8, 0x1D7E2, 0x1D7EC, 0x1D7F6, 0x1E140, 0x1E2F0, 0x1E950, 0x1FBF0
  ]

/-- The value of a decimal digit, `none` for any other character. -/
def digitValue? (c : Char) : Option Nat :=
  (digitZeros.find? fun z => z ≤ c.toNat && c.toNat < z + 10).map (c.toNat - ·)

/-- Whether the character is a decimal digit of some script. -/
def isDigit (c : Char) : Bool := (digitValue? c).isSome

/-- The character that writes a value below ten. -/
def digitChar (d : Nat) : Char := Char.ofNat (0x30 + d)

/-- Writing a value below ten and reading it gives it back. -/
theorem digitValue?_digitChar {d : Nat} (h : d < 10) : digitValue? (digitChar d) = some d := by
  have all : ∀ e ∈ List.range 10, digitValue? (digitChar e) = some e := by decide
  exact all d (List.mem_range.mpr h)

/-- The digits of a natural number, most significant first; zero is one digit. -/
def naturalDigits (n : Nat) : List Char :=
  if n < 10 then [digitChar n] else naturalDigits (n / 10) ++ [digitChar (n % 10)]
termination_by n

end CurveSketch.Text
