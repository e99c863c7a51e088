import CurveSketch.Number.Decimal
import CurveSketch.Number.Reading
import CurveSketch.Proofs.Number.Worth
import Mathlib.Algebra.Order.Field.Basic
import Mathlib.Algebra.Order.Ring.Abs
import Mathlib.Algebra.Ring.Parity
import Mathlib.Data.List.Induction
import Mathlib.Data.List.TakeWhile
import Mathlib.Tactic.NormNum

/-!
# The number that a printed number writes

A number is printed to some decimal places.  The text is a decimal, and the number it writes is the
exact value, rounded; so printing keeps the order of numbers, though not a strict one.

**Rounding.**  `IsRounded` says that an integer is a nearest one, and the even one of two.  There is
only one such integer, and greater numbers have greater ones (`IsRounded.mono`);
`isRounded_roundDiv` is the rule for quotients.

**Digits.**  `digitsValue_append` and **`digitsValue_naturalDigits`**: writing a natural number and
reading it gives it back, also with zeros in front.

**Printing.**  `decimalValue?` reads a decimal, exactly, and **`decimalValue?_fixed`** is what it
reads in a printed number.
-/

namespace CurveSketch.Number

open Text

/-! ## Rounding -/

/-- The integer is one that is nearest to the number, and the even one if there are two. -/
structure IsRounded (q : ℚ) (k : ℤ) : Prop where
  near : |q - k| ≤ 1 / 2
  even : |q - k| = 1 / 2 → Even k

namespace IsRounded

variable {p q : ℚ} {j k : ℤ}

lemma neg (h : IsRounded q k) : IsRounded (-q) (-k) := by
  have hdistance : |-q - ((-k : ℤ) : ℚ)| = |q - k| := by
    rw [Int.cast_neg, neg_sub_neg, abs_sub_comm]
  exact ⟨hdistance ▸ h.near, fun htie => (h.even (hdistance ▸ htie)).neg⟩

/-- An integer is rounded to itself. -/
lemma intCast (k : ℤ) : IsRounded k k := ⟨by norm_num, fun h => by norm_num at h⟩

/-- Greater numbers are rounded to greater integers.  If not, they were equal and half-way between
two integers, both even. -/
lemma mono (hp : IsRounded p j) (hq : IsRounded q k) (h : p ≤ q) : j ≤ k := by
  by_contra hlt
  have hnext : ((k + 1 : ℤ) : ℚ) ≤ j := Int.cast_le.2 (by omega)
  push_cast at hnext
  have hp' := abs_le.1 hp.near
  have hq' := abs_le.1 hq.near
  have hj : (j : ℚ) = k + 1 := by linarith
  have hpj : p - j = -(1 / 2) := by linarith
  have hqk : q - k = 1 / 2 := by linarith
  have hjeven : Even j := hp.even (by rw [hpj]; norm_num)
  have hkeven : Even k := hq.even (by rw [hqk]; norm_num)
  have hodd : j = k + 1 := by exact_mod_cast hj
  rw [hodd, Int.even_add_one] at hjeven
  exact hjeven hkeven

/-- An integer is rounded to nothing else. -/
lemma eq_of_intCast (h : IsRounded (j : ℚ) k) : k = j :=
  le_antisymm (h.mono (.intCast j) le_rfl) ((IsRounded.intCast j).mono h le_rfl)

/-- A number is at least half of what it is rounded to. -/
lemma le_two_mul (h : IsRounded q k) (hq : 0 ≤ q) : k ≤ 2 * q := by
  rcases le_or_gt k 0 with hk | hk
  · have hk' : (k : ℚ) ≤ 0 := by exact_mod_cast hk
    linarith
  · have hk' : (1 : ℚ) ≤ k := by exact_mod_cast hk
    linarith [(abs_le.1 h.near).1]

/-- And at most one and a half of it, unless it is rounded to zero. -/
lemma two_mul_le (h : IsRounded q k) (hk : 0 < k) : 2 * q ≤ 3 * k := by
  have hk' : (1 : ℚ) ≤ k := by exact_mod_cast hk
  linarith [(abs_le.1 h.near).2]

/-- A number is rounded below zero exactly if it is below minus one half, which itself is rounded up
to zero. -/
lemma lt_zero_iff (h : IsRounded q k) : k < 0 ↔ q < -(1 / 2) := by
  have hhalf : IsRounded (-(1 / 2)) 0 := ⟨by norm_num, fun _ => Even.zero⟩
  constructor
  · intro hk
    by_contra hq
    exact absurd (hhalf.mono h (not_lt.1 hq)) (not_le.2 hk)
  · intro hq
    have hk : (k : ℚ) < 0 := by linarith [(abs_le.1 h.near).1]
    exact_mod_cast hk

end IsRounded

/-- An integer and a part of one, rounded by where the part lies. -/
lemma isRounded_add {q : ℕ} {t : ℚ} (hpos : 0 ≤ t) (hlt : t < 1) :
    IsRounded (q + t) (if t < 1 / 2 then q else if 1 / 2 < t then q + 1
      else if q % 2 = 0 then q else q + 1 : ℕ) := by
  have hfirst : |(q : ℚ) + t - (q : ℤ)| = t := by
    rw [Int.cast_natCast, add_sub_cancel_left, abs_of_nonneg hpos]
  have hsecond : |(q : ℚ) + t - ((q + 1 : ℕ) : ℤ)| = 1 - t := by
    rw [Int.cast_natCast, Nat.cast_succ, add_sub_add_left_eq_sub, abs_sub_comm,
      abs_of_nonneg (by linarith)]
  split_ifs with h₁ h₂ h₃
  · exact ⟨by rw [hfirst]; exact h₁.le, fun htie => by rw [hfirst] at htie; linarith⟩
  · exact ⟨by rw [hsecond]; linarith, fun htie => by rw [hsecond] at htie; linarith⟩
  · exact ⟨by rw [hfirst]; linarith, fun _ => by rw [Int.even_iff]; omega⟩
  · exact ⟨by rw [hsecond]; linarith, fun _ => by rw [Int.even_iff]; omega⟩

/-- A quotient is its whole part and a part of one. -/
lemma div_eq_add_mod_div (num : ℕ) {den : ℕ} (h : 0 < den) :
    (num : ℚ) / den = (num / den : ℕ) + (num % den : ℕ) / (den : ℚ) := by
  have hden : (0 : ℚ) < den := by exact_mod_cast h
  have hdivision : (den : ℚ) * (num / den : ℕ) + (num % den : ℕ) = num := by
    exact_mod_cast Nat.div_add_mod num den
  field_simp
  linarith

lemma div_lt_half_iff (num : ℕ) {den : ℕ} (h : 0 < den) :
    (num : ℚ) / den < 1 / 2 ↔ 2 * num < den := by
  have hden : (0 : ℚ) < den := by exact_mod_cast h
  rw [div_lt_iff₀ hden, ← @Nat.cast_lt ℚ]
  push_cast
  constructor <;> intro <;> linarith

lemma half_lt_div_iff (num : ℕ) {den : ℕ} (h : 0 < den) :
    1 / 2 < (num : ℚ) / den ↔ den < 2 * num := by
  have hden : (0 : ℚ) < den := by exact_mod_cast h
  rw [lt_div_iff₀ hden, ← @Nat.cast_lt ℚ]
  push_cast
  constructor <;> intro <;> linarith

/-- Quotients are rounded to an integer that is nearest, and even if there are two. -/
lemma isRounded_roundDiv (num : ℕ) {den : ℕ} (h : 0 < den) :
    IsRounded ((num : ℚ) / den) (roundDiv num den) := by
  have hden : (0 : ℚ) < den := by exact_mod_cast h
  have hremainder : ((num % den : ℕ) : ℚ) < den := by exact_mod_cast Nat.mod_lt num h
  have hrounded := isRounded_add (q := num / den) (div_nonneg (Nat.cast_nonneg (num % den)) hden.le)
    ((div_lt_one hden).2 hremainder)
  rw [← div_eq_add_mod_div num h] at hrounded
  simpa only [roundDiv, div_lt_half_iff _ h, half_lt_div_iff _ h] using hrounded

/-! ## Digits -/

/-- Digits are read from the left, so what stands in front counts by the place it has. -/
lemma digitsValue_append (cs ds : List Char) :
    digitsValue (cs ++ ds) = digitsValue cs * 10 ^ ds.length + digitsValue ds := by
  induction ds using List.reverseRecOn with
  | nil => simp [digitsValue]
  | append_singleton ds d ih =>
      rw [← List.append_assoc]
      simp only [digitsValue, List.foldl_append, List.foldl_cons, List.foldl_nil] at ih ⊢
      rw [ih, List.length_append, List.length_singleton, pow_succ]
      ring

lemma digitsValue_singleton {d : ℕ} (h : d < 10) : digitsValue [digitChar d] = d := by
  simp [digitsValue, digitValue?_digitChar h]

/-- Writing a natural number and reading it gives it back. -/
lemma digitsValue_naturalDigits (n : ℕ) : digitsValue (naturalDigits n) = n := by
  induction n using naturalDigits.induct with
  | case1 n h => rw [naturalDigits, if_pos h, digitsValue_singleton h]
  | case2 n h ih =>
      rw [naturalDigits, if_neg h, digitsValue_append, ih,
        digitsValue_singleton (Nat.mod_lt n (by norm_num)), List.length_singleton]
      omega

lemma isDigit_digitChar {d : ℕ} (h : d < 10) : isDigit (digitChar d) = true := by
  rw [isDigit, digitValue?_digitChar h]
  rfl

lemma isDigit_of_mem_naturalDigits {n : ℕ} {c : Char} (h : c ∈ naturalDigits n) :
    isDigit c = true := by
  induction n using naturalDigits.induct with
  | case1 n hn =>
      rw [naturalDigits, if_pos hn, List.mem_singleton] at h
      exact h ▸ isDigit_digitChar hn
  | case2 n hn ih =>
      rw [naturalDigits, if_neg hn, List.mem_append, List.mem_singleton] at h
      rcases h with h | h
      · exact ih h
      · exact h ▸ isDigit_digitChar (Nat.mod_lt n (by norm_num))

lemma digitsValue_replicate_zero (k : ℕ) : digitsValue (List.replicate k '0') = 0 := by
  induction k with
  | zero => rfl
  | succ k ih =>
      rw [List.replicate_succ', digitsValue_append, ih]
      decide

lemma digitsValue_paddedDigits (width n : ℕ) : digitsValue (paddedDigits width n) = n := by
  rw [paddedDigits, digitsValue_append, digitsValue_replicate_zero, zero_mul, zero_add,
    digitsValue_naturalDigits]

lemma isDigit_of_mem_paddedDigits {width n : ℕ} {c : Char} (h : c ∈ paddedDigits width n) :
    isDigit c = true := by
  rcases List.mem_append.1 h with h | h
  · rw [(List.mem_replicate.1 h).2]
    decide
  · exact isDigit_of_mem_naturalDigits h

lemma le_length_paddedDigits (width n : ℕ) : width ≤ (paddedDigits width n).length := by
  simp only [paddedDigits, List.length_append, List.length_replicate]
  omega

/-! ## Printing -/

/-- The number that a decimal writes: a sign, digits, and maybe a point and more digits. -/
def decimalValue? (cs : List Char) : Option ℚ :=
  let (negative, size) := splitSign cs
  let whole := size.takeWhile (· != '.')
  let fraction := (size.dropWhile (· != '.')).drop 1
  if whole.isEmpty || !(whole ++ fraction).all isDigit then none
  else some (withSign negative (digitsValue (whole ++ fraction) / 10 ^ fraction.length))

lemma ne_of_isDigit {c d : Char} (hc : isDigit c = true) (hd : isDigit d = false) : c ≠ d := by
  rintro rfl
  exact Bool.eq_false_iff.1 hd hc

/-- A sign in front of a digit is read off. -/
lemma splitSign_signed (negative : Bool) {c : Char} (hc : isDigit c = true) (cs : List Char) :
    splitSign (signed negative (c :: cs)) = (negative, c :: cs) := by
  have hplus : c ≠ '+' := ne_of_isDigit hc (by decide)
  have hminus : c ≠ '-' := ne_of_isDigit hc (by decide)
  cases negative with
  | true => rfl
  | false => simp [signed, splitSign, hplus, hminus]

/-- Digits, and maybe a point and more digits, come apart at the point. -/
lemma split_pointed {whole : List Char} (hwhole : ∀ c ∈ whole, isDigit c = true)
    (fraction : List Char) :
    (pointed false whole fraction).takeWhile (· != '.') = whole ∧
      ((pointed false whole fraction).dropWhile (· != '.')).drop 1 = fraction := by
  have hpoint : ∀ c ∈ whole, (c != '.') = true := fun c hc =>
    bne_iff_ne.2 (ne_of_isDigit (hwhole c hc) (by decide))
  cases fraction with
  | nil =>
      have hall := List.takeWhile_eq_self_iff.2 hpoint
      have hnone := List.dropWhile_eq_nil_iff.2 hpoint
      simp only [pointed, List.isEmpty_nil, Bool.not_false, Bool.and_self, if_true]
      exact ⟨hall, by rw [hnone]; rfl⟩
  | cons d fraction =>
      simp only [pointed, List.isEmpty_cons, Bool.false_and, Bool.false_eq_true, if_false,
        List.takeWhile_append_of_pos hpoint, List.dropWhile_append_of_pos hpoint]
      exact ⟨List.append_nil whole, rfl⟩

/-- What a sign, digits and digits behind a point are read as. -/
lemma decimalValue?_signed {whole fraction : List Char} (negative : Bool) (hne : whole ≠ [])
    (hdigits : ∀ c ∈ whole ++ fraction, isDigit c = true) :
    decimalValue? (signed negative (pointed false whole fraction)) =
      some (withSign negative (digitsValue (whole ++ fraction) / 10 ^ fraction.length)) := by
  have hwhole : ∀ c ∈ whole, isDigit c = true := fun c hc => hdigits c (List.mem_append_left _ hc)
  obtain ⟨htake, hdrop⟩ := split_pointed hwhole fraction
  obtain ⟨c, rest, hcons, hc⟩ :
      ∃ c rest, pointed false whole fraction = c :: rest ∧ isDigit c = true := by
    obtain ⟨c, whole, rfl⟩ := List.exists_cons_of_ne_nil hne
    cases fraction <;> exact ⟨c, _, rfl, hwhole c (by simp)⟩
  have hempty : whole.isEmpty = false := by simpa using hne
  have hall : (whole ++ fraction).all isDigit = true := List.all_eq_true.2 hdigits
  have hsplit : splitSign (signed negative (pointed false whole fraction)) =
      (negative, pointed false whole fraction) := by
    rw [hcons, splitSign_signed negative hc]
  simp only [decimalValue?, hsplit, htake, hdrop, hempty, hall]
  rfl

/-- What a sign and digits with a point among them are read as. -/
lemma decimalValue?_digits (negative : Bool) {digits : List Char} {places : ℕ}
    (hdigits : ∀ c ∈ digits, isDigit c = true) (hplaces : places < digits.length) :
    decimalValue? (signed negative (pointed false (digits.take (digits.length - places))
      (digits.drop (digits.length - places)))) =
      some (withSign negative (digitsValue digits / 10 ^ places)) := by
  have hjoin := List.take_append_drop (digits.length - places) digits
  have hne : digits.take (digits.length - places) ≠ [] := by
    rw [← List.length_pos_iff, List.length_take]
    omega
  rw [decimalValue?_signed negative hne (hjoin.symm ▸ hdigits), hjoin, List.length_drop,
    Nat.sub_sub_self hplaces.le]

/-- The size of a number as a quotient is the size of the number. -/
lemma ratio_eq (significand : ℕ) (exponent : ℤ) :
    ((ratio significand exponent).1 : ℚ) / (ratio significand exponent).2 =
      significand * 2 ^ exponent := by
  cases exponent with
  | ofNat k => simp [ratio]
  | negSucc k => simp [ratio, zpow_negSucc, div_eq_mul_inv]

/-- The size of a number, scaled and rounded. -/
lemma isRounded_roundScaled (significand : ℕ) (exponent : ℤ) (places : ℕ) :
    IsRounded (significand * 2 ^ exponent * 10 ^ places)
      (roundScaled (ratio significand exponent).1 (ratio significand exponent).2 places) := by
  have hrounded := isRounded_roundDiv ((ratio significand exponent).1 * 10 ^ places)
    (ratio_snd_pos significand exponent)
  rw [Nat.cast_mul, mul_div_right_comm, ratio_eq, Nat.cast_pow, Nat.cast_ofNat] at hrounded
  exact hrounded

/-- **A number printed to some decimal places writes its exact value, rounded.** -/
lemma decimalValue?_fixed {x : Float} (hx : x.isFinite = true) {places : ℕ}
    (hplaces : places ≤ mostPlaces) :
    ∃ k : ℤ, IsRounded (worth x * 10 ^ places) k ∧
      decimalValue? (fixed places x) = some ((k : ℚ) / 10 ^ places) := by
  obtain ⟨negative, significand, exponent, hof⟩ := Binary64.exists_of_eq_finite hx
  have hrounded := isRounded_roundScaled significand exponent places
  generalize hn :
    roundScaled (ratio significand exponent).1 (ratio significand exponent).2 places = n at hrounded
  have hvalue := decimalValue?_digits negative (fun c hc => isDigit_of_mem_paddedDigits hc)
    (le_length_paddedDigits (places + 1) n)
  have htext : fixed places x = signed negative (pointed false
      ((paddedDigits (places + 1) n).take ((paddedDigits (places + 1) n).length - places))
      ((paddedDigits (places + 1) n).drop ((paddedDigits (places + 1) n).length - places))) := by
    simp only [fixed, fixedWith, hof, Nat.min_eq_left hplaces, Nat.sub_self, List.replicate_zero,
      List.append_nil, hn]
  rw [← htext, digitsValue_paddedDigits] at hvalue
  have hworth : worth x = withSign negative (significand * 2 ^ exponent) := by
    rw [worth, hof]
    rfl
  cases negative with
  | false => exact ⟨n, by rw [hworth]; exact hrounded, by rw [hvalue]; rfl⟩
  | true =>
      refine ⟨-n, by rw [hworth, withSign_true, neg_mul]; exact hrounded.neg, ?_⟩
      rw [hvalue, withSign_true, Int.cast_neg, neg_div, Int.cast_natCast]

end CurveSketch.Number
