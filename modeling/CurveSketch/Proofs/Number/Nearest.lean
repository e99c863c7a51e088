import CurveSketch.Number.Quantity
import CurveSketch.Proofs.Number.Rounded

/-!
# What arithmetic comes to

A quotient or a difference of binary64 numbers is the number nearest to the exact one, or infinite
if that is beyond the range.  How near does not matter to most of what is said of it: only that
numbers of a moderate size do not get lost.

**Rounding.**  `IsNearest` is the number nearest to a positive one, and **`isNearest_sub`**,
**`isNearest_div`** and **`isNearest_ofInt`** say what differences, quotients and integers are.
`IsNearest.worth_le` and `IsNearest.two_mul_le` bound what rounding does to a number, by a factor;
`IsNearest.isFinite` and `IsNearest.worth_pos` keep it away from both ends of the range.

**Integers.**  `exists_nearestInt?` — a finite number has a nearest integer; `worth_le_of_lt` — below
two to the power of sixty-three numbers are so far apart that it is not the next one up.

**Zero and the infinities.**  Comparison with zero, and what becomes of quotients in which one of the
numbers is zero or infinite.
-/

namespace CurveSketch.Number

open Float.Model

open Binary64

lemma isFinite_eq (x : Float) : x.isFinite = x.toModel.unpack.isFinite := rfl

/-! ## Results of arithmetic -/

/-- The number is what a positive number is rounded to: a nearest multiple of a power of two, with
fifty-three bits or the least exponent, or the positive infinity if that is beyond the range. -/
inductive IsNearest (t : ℚ) (z : Float) : Prop
  | finite (hz : z.isFinite = true) (k : ℕ) (E : ℤ) (hk : IsRounded (t / 2 ^ E) k)
      (hfull : 2 ^ 52 ≤ k ∨ E = -1074) (hworth : worth z = k * 2 ^ E)
  | infinite (hz : z.toModel.unpack = .infinity .positive) (k : ℕ) (E : ℤ)
      (hk : IsRounded (t / 2 ^ E) k) (hfull : 2 ^ 52 ≤ k ∨ E = -1074) (hlarge : beyond ≤ k * 2 ^ E)

section Arithmetic

variable {t : ℚ} {x y z : Float}

/-- A number that is unpacked in canonical form is finite. -/
lemma isFinite_of_unpack_eq {u : UnpackedFloat} (hz : z.toModel.unpack = u)
    (hcanonical : (ofUnpacked u).IsCanonical) :
    z.isFinite = true ∧ worth z = (ofUnpacked u).worth := by
  rw [isFinite_eq, worth, of_eq_ofUnpacked, hz]
  refine ⟨?_, rfl⟩
  cases u <;> first | rfl | exact hcanonical.elim

/-- Packing a rounded number is rounding it to the range of binary64. -/
lemma isNearest_pack {u : UnpackedFloat} {E : ℤ}
    (hz : z.toModel.unpack = UnpackedFloat.unpack .binary64 (UnpackedFloat.pack .binary64 u))
    (h : IsRoundedTo t E u) : IsNearest t z := by
  obtain ⟨hcanonical, k, hk, hfull, hworth⟩ := h
  have hnonneg : 0 ≤ (ofUnpacked u).worth := by
    rw [hworth]
    positivity
  rcases unpack_pack_of_nonneg hcanonical hnonneg with hpack | ⟨hpack, hsize⟩
  · obtain ⟨hfinite, hsame⟩ := isFinite_of_unpack_eq (hz.trans hpack) hcanonical
    exact .finite hfinite k E hk hfull (hsame.trans hworth)
  · exact .infinite (hz.trans hpack) k E hk hfull (hworth ▸ hsize)

/-- A positive number is a significand and an exponent without a sign. -/
lemma exists_unpack_eq (hx : x.isFinite = true) (hpos : 0 < worth x) :
    ∃ n e hn, x.toModel.unpack = .finite .positive n e hn ∧ worth x = n * 2 ^ e := by
  rw [isFinite_eq] at hx
  rw [worth, of_eq_ofUnpacked] at hpos ⊢
  cases hu : x.toModel.unpack with
  | notANumber => rw [hu] at hx; cases hx
  | infinity => rw [hu] at hx; cases hx
  | zero => rw [hu, ofUnpacked, worth_finite_zero] at hpos; exact absurd hpos (lt_irrefl _)
  | finite sign n e hn =>
      cases sign with
      | positive => exact ⟨n, e, hn, rfl, rfl⟩
      | negative =>
          rw [hu] at hpos
          exact absurd hpos (worth_finite_neg hn e).not_gt

lemma unpack_div (x y : Float) : (x / y).toModel.unpack = UnpackedFloat.unpack .binary64
    (UnpackedFloat.pack .binary64 (UnpackedFloat.div .binary64 x.toModel.unpack y.toModel.unpack)) :=
  rfl

/-- **Quotients are rounded.** -/
lemma isNearest_div (hx : x.isFinite = true) (hx₀ : 0 < worth x) (hy : y.isFinite = true)
    (hy₀ : 0 < worth y) : IsNearest (worth x / worth y) (x / y) := by
  obtain ⟨n, e, hn, hxn, hxw⟩ := exists_unpack_eq hx hx₀
  obtain ⟨m, d, hm, hym, hyw⟩ := exists_unpack_eq hy hy₀
  have hdiv := unpack_div x y
  obtain ⟨E, hrounded⟩ := isRoundedTo_div (e := e) (d := d) hn hm
  rw [hxn, hym] at hdiv
  rw [← hxw, ← hyw] at hrounded
  exact isNearest_pack hdiv hrounded

/-- Conversion rounds. -/
lemma unpack_toFloat {n : ℕ} (hn : 0 < n) (hsmall : n < 2 ^ 53) :
    n.toUInt64.toFloat.toModel.unpack = UnpackedFloat.unpack .binary64
      (UnpackedFloat.pack .binary64 (UnpackedFloat.round .binary64 .positive n 0)) := by
  have hsame : n.toUInt64.toNat = n := by
    rw [Nat.toUInt64, UInt64.toNat_ofNat']
    omega
  change UnpackedFloat.unpack .binary64 (UnpackedFloat.pack .binary64
    (UnpackedFloat.normalize .binary64 n.toUInt64.toNat 0 .positive)) = _
  rw [hsame, UnpackedFloat.normalize, compare_gt_iff_gt.2 (by exact_mod_cast hn)]
  rfl

/-- An integer of up to fifty-three bits is converted as it is. -/
lemma worth_toFloat {n : ℕ} (hn : 0 < n) (hsmall : n < 2 ^ 53) :
    n.toUInt64.toFloat.isFinite = true ∧ worth n.toUInt64.toFloat = n := by
  -- the last bit that is kept is worth at most one
  have hbits : n.log2 < 53 := (Nat.log2_lt hn.ne').2 hsmall
  obtain ⟨shift, hshift⟩ : ∃ shift : ℕ, max ((n.log2 : ℤ) + 0 - 52) (-1074) = -shift :=
    ⟨52 - n.log2, by omega⟩
  have hscaled : ((n * 2 ^ shift : ℕ) : ℚ) * 2 ^ (-(shift : ℤ)) = n := by
    rw [zpow_neg, zpow_natCast]
    push_cast
    field_simp
  have hrounded := isRoundedTo_round hn 0
  rw [hshift, zpow_zero, mul_one, ← hscaled] at hrounded
  have hworth := hrounded.worth_eq
  rw [hscaled] at hworth
  rcases unpack_pack_of_nonneg hrounded.canonical (hworth ▸ n.cast_nonneg) with
    hpack | ⟨-, hsize⟩
  · exact hworth ▸ isFinite_of_unpack_eq ((unpack_toFloat hn hsmall).trans hpack)
      hrounded.canonical
  · have hn' : (n : ℚ) < 2 ^ 53 := by exact_mod_cast hsmall
    rw [hworth] at hsize
    linarith [lt_beyond]

/-- Multiplying by one, as conversions of integers do, rounds once more. -/
lemma isNearest_mul_one (hx : x.isFinite = true) (hx₀ : 0 < worth x) :
    IsNearest (worth x) (x * Float.ofBits 0x3FF0000000000000) := by
  obtain ⟨n, e, hn, hxn, hxw⟩ := exists_unpack_eq hx hx₀
  have hone : (Float.ofBits 0x3FF0000000000000).toModel.unpack =
      .finite .positive (2 ^ 52) (-52) (by norm_num) := rfl
  have hmul : (x * Float.ofBits 0x3FF0000000000000).toModel.unpack =
      UnpackedFloat.unpack .binary64 (UnpackedFloat.pack .binary64 (UnpackedFloat.mul .binary64
        x.toModel.unpack (Float.ofBits 0x3FF0000000000000).toModel.unpack)) := rfl
  obtain ⟨E, hrounded⟩ := isRoundedTo_mul (e := e) (d := -52) hn (m := 2 ^ 52) (by norm_num)
    (Nat.le_mul_of_pos_left _ hn)
  have hsame : worth x * (((2 ^ 52 : ℕ) : ℚ) * 2 ^ (-52 : ℤ)) = worth x := by norm_num
  rw [hone, hxn] at hmul
  rw [← hxw, hsame] at hrounded
  exact isNearest_pack hmul hrounded

/-- **Integers are rounded.** -/
lemma isNearest_ofInt {n : ℕ} (hn : 0 < n) : IsNearest n (ofInt n) := by
  have hn' : (0 : ℚ) < n := by exact_mod_cast hn
  change IsNearest n (Float.ofScientific n false 0)
  unfold Float.ofScientific
  split
  · next hsmall =>
      obtain ⟨hfinite, hworth⟩ := worth_toFloat hn hsmall.1
      rw [← hworth] at hn' ⊢
      exact isNearest_mul_one hfinite hn'
  · have hshift : 0 < n <<< 53 := by
      rw [Nat.shiftLeft_eq]
      positivity
    have hmul : UnpackedFloat.ofScientific .binary64 n 0 = UnpackedFloat.mul .binary64
        (.finite .positive (n <<< 53) (-53) hshift) (.finite .positive 1 0 one_pos) := by
      rw [UnpackedFloat.ofScientific, dif_neg hn.ne', if_neg (by norm_num), if_neg (by simp),
        if_pos le_rfl]
      rfl
    obtain ⟨E, hrounded⟩ := isRoundedTo_mul (e := -53) (d := 0) hshift one_pos
      (by rw [Nat.shiftLeft_eq]; omega)
    have hsame : ((n <<< 53 : ℕ) : ℚ) * 2 ^ (-53 : ℤ) * ((1 : ℕ) * 2 ^ (0 : ℤ)) = n := by
      rw [Nat.shiftLeft_eq]
      push_cast
      norm_num [mul_assoc]
    rw [← hmul, hsame] at hrounded
    exact isNearest_pack rfl hrounded

/-- **Differences are rounded.** -/
lemma isNearest_sub (hx : x.isFinite = true) (hy : y.isFinite = true) (h : x < y) :
    IsNearest (worth y - worth x) (y - x) := by
  have hpos : 0 < worth y - worth x := sub_pos.2 ((lt_iff_worth_lt hx hy).1 h)
  have hsub : (y - x).toModel.unpack = UnpackedFloat.unpack .binary64 (UnpackedFloat.pack .binary64
      (UnpackedFloat.sub .binary64 y.toModel.unpack x.toModel.unpack)) := rfl
  have hcx := isCanonical_of hx
  have hcy := isCanonical_of hy
  rw [of_eq_ofUnpacked] at hcx hcy
  rw [worth, worth, of_eq_ofUnpacked, of_eq_ofUnpacked] at hpos ⊢
  obtain ⟨E, hrounded⟩ := isRoundedTo_sub hcy hcx (sub_pos.1 hpos)
  exact isNearest_pack hsub hrounded

namespace IsNearest

lemma exists_rounded (h : IsNearest t z) (hz : z.isFinite = true) :
    ∃ (k : ℕ) (E : ℤ), IsRounded (t / 2 ^ E) k ∧ (2 ^ 52 ≤ k ∨ E = -1074) ∧
      worth z = k * 2 ^ E := by
  cases h with
  | finite _ k E hk hfull hworth => exact ⟨k, E, hk, hfull, hworth⟩
  | infinite hz' =>
      rw [isFinite_eq, hz'] at hz
      cases hz

lemma unpack_eq (h : IsNearest t z) (hz : ¬ z.isFinite = true) :
    z.toModel.unpack = .infinity .positive := by
  cases h with
  | finite hfinite => exact absurd hfinite hz
  | infinite hinfinite => exact hinfinite

lemma beyond_le (h : IsNearest t z) (ht : 0 ≤ t) (hz : ¬ z.isFinite = true) :
    beyond ≤ 2 * t := by
  cases h with
  | finite hfinite => exact absurd hfinite hz
  | infinite _ k E hk _ hlarge =>
      have hle := hk.le_two_mul (by positivity)
      rw [Int.cast_natCast, ← mul_div_assoc, le_div_iff₀ (by positivity)] at hle
      exact hlarge.trans hle

/-- What is well within the range is not rounded to an infinity. -/
lemma isFinite (h : IsNearest t z) (ht : 0 ≤ t) (hlt : t < 2 ^ 63) : z.isFinite = true := by
  by_contra hz
  linarith [h.beyond_le ht hz, lt_beyond]

lemma worth_nonneg (h : IsNearest t z) (hz : z.isFinite = true) : 0 ≤ worth z := by
  obtain ⟨k, E, -, -, hworth⟩ := h.exists_rounded hz
  rw [hworth]
  positivity

/-- What is not too small is not rounded to zero. -/
lemma worth_pos (h : IsNearest t z) (hz : z.isFinite = true) (ht : 1 / 10 ≤ t) : 0 < worth z := by
  obtain ⟨k, E, hk, hfull, hworth⟩ := h.exists_rounded hz
  have hpos : 0 < k := by
    refine Nat.pos_of_ne_zero fun hzero => ?_
    subst hzero
    obtain rfl : E = -1074 := hfull.resolve_left (by norm_num)
    have hle : 1 ≤ t / 2 ^ (-1074 : ℤ) := by
      rw [zpow_neg, div_inv_eq_mul]
      calc (1 : ℚ) ≤ 1 / 10 * 2 ^ (4 : ℤ) := by norm_num
        _ ≤ t * 2 ^ (1074 : ℤ) := by gcongr <;> norm_num
    have hnear := (abs_le.1 hk.near).2
    rw [Nat.cast_zero, Int.cast_zero, sub_zero] at hnear
    linarith
  rw [hworth]
  positivity

/-- A number is at least half of what it is rounded to. -/
lemma worth_le (h : IsNearest t z) (hz : z.isFinite = true) (ht : 0 < t) : worth z ≤ 2 * t := by
  obtain ⟨k, E, hk, -, hworth⟩ := h.exists_rounded hz
  have hle := hk.le_two_mul (by positivity)
  rw [Int.cast_natCast, ← mul_div_assoc, le_div_iff₀ (by positivity)] at hle
  rwa [hworth]

/-- And at most one and a half of it, unless it is rounded to zero. -/
lemma two_mul_le (h : IsNearest t z) (hz : z.isFinite = true) (hpos : 0 < worth z) :
    2 * t ≤ 3 * worth z := by
  obtain ⟨k, E, hk, -, hworth⟩ := h.exists_rounded hz
  rw [hworth] at hpos ⊢
  have hk₀ : (0 : ℚ) < k := (mul_pos_iff_of_pos_right (by positivity)).1 hpos
  have hle := hk.two_mul_le (by exact_mod_cast hk₀)
  rwa [Int.cast_natCast, ← mul_div_assoc, div_le_iff₀ (by positivity), mul_assoc] at hle

end IsNearest

end Arithmetic

/-! ## Nearest integers -/

/-- **A finite number has a nearest integer.** -/
lemma exists_nearestInt? {x : Float} (hx : x.isFinite = true) :
    ∃ k, nearestInt? x = some k ∧ IsRounded (worth x) k := by
  obtain ⟨negative, significand, exponent, hof⟩ := exists_of_eq_finite hx
  have hrounded := isRounded_roundDiv (ratio significand exponent).1
    (ratio_snd_pos significand exponent)
  rw [ratio_eq] at hrounded
  rw [nearestInt?, worth, hof]
  cases negative with
  | false => exact ⟨_, rfl, hrounded⟩
  | true => exact ⟨_, rfl, hrounded.neg⟩

lemma natCast_le_sub_one {n m : ℕ} (h : n < m) : (n : ℚ) ≤ m - 1 := by
  rw [le_sub_iff_add_le]
  exact_mod_cast h

/-- Numbers below two to the power of sixty-three keep away from it: the last of their bits is worth
a thousand and twenty-four, or more. -/
lemma worth_le_of_lt {x : Float} (hx : x.isFinite = true) (h : worth x < 2 ^ 63) :
    worth x ≤ 2 ^ 63 - 1024 := by
  obtain ⟨negative, significand, exponent, hof⟩ := exists_of_eq_finite hx
  obtain ⟨hfew, -, -⟩ := isCanonical_of_eq hof
  rw [worth, hof] at h ⊢
  cases negative with
  | true =>
      have hnonneg : (0 : ℚ) ≤ significand * 2 ^ exponent := by positivity
      rw [Binary64.worth, withSign_true]
      linarith
  | false =>
      rw [Binary64.worth, withSign_false] at h ⊢
      rcases le_or_gt exponent 10 with hexponent | hexponent
      · have hfew' : (significand : ℚ) ≤ 2 ^ 53 - 1 := by exact_mod_cast natCast_le_sub_one hfew
        calc (significand : ℚ) * 2 ^ exponent ≤ (2 ^ 53 - 1) * 2 ^ (10 : ℤ) := by
              gcongr
              norm_num
          _ = 2 ^ 63 - 1024 := by norm_num
      · -- the number is a multiple of two thousand and forty-eight
        obtain ⟨shift, rfl⟩ : ∃ shift : ℕ, exponent = shift + 11 := ⟨(exponent - 11).toNat, by omega⟩
        have hsplit : (significand : ℚ) * 2 ^ ((shift : ℤ) + 11) =
            ((significand * 2 ^ shift : ℕ) : ℚ) * 2048 := by
          rw [zpow_add₀ (by norm_num), zpow_natCast]
          push_cast
          norm_num [mul_assoc]
        rw [hsplit] at h ⊢
        generalize significand * 2 ^ shift = multiple at h
        have hlt : multiple < 2 ^ 52 := by
          have hlt' : (multiple : ℚ) < 2 ^ 52 := by linarith
          exact_mod_cast hlt'
        have hle : (multiple : ℚ) ≤ 2 ^ 52 - 1 := by exact_mod_cast natCast_le_sub_one hlt
        linarith

/-! ## Zero and the infinities -/

lemma unpack_zero_literal : (0.0 : Float).toModel.unpack = .zero .positive := by
  have hbits : (0.0 : Float).toModel.toBits = 0 := by decide +kernel
  rw [Float.Model.unpack, hbits]
  rfl

lemma ratio_fst_pos {n : ℕ} (hn : 0 < n) (e : ℤ) : 0 < (ratio n e).1 := by
  cases e with
  | ofNat k => exact Nat.mul_pos hn (Nat.two_pow_pos k)
  | negSucc k => exact hn

/-- The integer zero is below a number if the number zero is. -/
lemma wholeLtReal_zero_iff (x : Float) : Quantity.wholeLtReal 0 x = true ↔ 0.0 < x := by
  rw [Quantity.wholeLtReal, Binary64.of_eq_ofUnpacked, lt_iff_compare_unpack, unpack_zero_literal]
  cases x.toModel.unpack with
  | notANumber => decide
  | infinity sign => cases sign <;> decide
  | zero sign =>
      have hzero : (ratio 0 (-1074)).1 = 0 := rfl
      simp only [Binary64.ofUnpacked, Int.zero_mul, hzero, Int.natCast_zero, neg_zero, ite_self,
        lt_irrefl, decide_false]
      exact iff_of_false Bool.false_ne_true Bool.false_ne_true
  | finite sign n e hn =>
      have hpos : (0 : ℤ) < (ratio n e).1 := by exact_mod_cast ratio_fst_pos hn e
      simp only [Binary64.ofUnpacked, Int.zero_mul, decide_eq_true_iff]
      cases sign with
      | negative =>
          rw [Binary64.isNegative, if_pos rfl]
          exact iff_of_false (by omega) Bool.false_ne_true
      | positive => exact iff_of_true hpos rfl

lemma beq_zero_iff {x : Float} (hx : x.isFinite = true) : (x == 0.0) = true ↔ worth x = 0 := by
  have hcompare := compare_eq_compare_worth hx (y := 0.0) (by decide +kernel)
  rw [worth_zero] at hcompare
  change (x.toModel.unpack.compare (0.0 : Float).toModel.unpack == some .eq) = true ↔ _
  rw [hcompare, beq_iff_eq, Option.some_inj, compare_eq_iff_eq]

section Infinite

variable {x y : Float}

lemma isFinite_of_unpack_infinite (hx : x.toModel.unpack = .infinity .positive) :
    ¬ x.isFinite = true := by
  rw [isFinite_eq, hx]
  exact Bool.false_ne_true

lemma unpack_infinite_div (hx : x.toModel.unpack = .infinity .positive) (hy : y.isFinite = true)
    (hy₀ : 0 < worth y) : (x / y).toModel.unpack = .infinity .positive := by
  obtain ⟨n, e, hn, hyn, -⟩ := exists_unpack_eq hy hy₀
  rw [unpack_div, hx, hyn, UnpackedFloat.div]
  rfl

lemma unpack_infinite_div_infinite (hx : x.toModel.unpack = .infinity .positive)
    (hy : y.toModel.unpack = .infinity .positive) : (x / y).toModel.unpack = .notANumber := by
  rw [unpack_div, hx, hy]
  rfl

/-- A zero is finite, and worth nothing. -/
lemma worth_of_unpack_zero {sign : UnpackedFloat.Sign} (hx : x.toModel.unpack = .zero sign) :
    x.isFinite = true ∧ worth x = 0 := by
  obtain ⟨hfinite, hworth⟩ := isFinite_of_unpack_eq hx ⟨by norm_num, le_rfl, .inr rfl⟩
  exact ⟨hfinite, hworth.trans (worth_finite_zero _ _)⟩

lemma worth_div_infinite (hx : x.isFinite = true) (hx₀ : 0 < worth x)
    (hy : y.toModel.unpack = .infinity .positive) :
    (x / y).isFinite = true ∧ worth (x / y) = 0 := by
  obtain ⟨n, e, hn, hxn, -⟩ := exists_unpack_eq hx hx₀
  have hquotient : (x / y).toModel.unpack = .zero .positive := by
    rw [unpack_div, hxn, hy, UnpackedFloat.div]
    rfl
  exact worth_of_unpack_zero hquotient

/-- And only a zero is worth nothing. -/
lemma exists_unpack_zero (hx : x.isFinite = true) (hx₀ : worth x = 0) :
    ∃ sign, x.toModel.unpack = .zero sign := by
  rw [isFinite_eq] at hx
  rw [worth, of_eq_ofUnpacked] at hx₀
  cases hu : x.toModel.unpack with
  | notANumber => rw [hu] at hx; cases hx
  | infinity => rw [hu] at hx; cases hx
  | zero sign => exact ⟨sign, rfl⟩
  | finite sign n e hn =>
      rw [hu] at hx₀
      cases sign with
      | positive => exact absurd hx₀ (worth_finite_pos hn e).ne'
      | negative => exact absurd hx₀ (worth_finite_neg hn e).ne

lemma worth_zero_div (hx : x.isFinite = true) (hx₀ : worth x = 0) (hy : y.isFinite = true)
    (hy₀ : 0 < worth y) : (x / y).isFinite = true ∧ worth (x / y) = 0 := by
  obtain ⟨sign, hxs⟩ := exists_unpack_zero hx hx₀
  obtain ⟨n, e, hn, hyn, -⟩ := exists_unpack_eq hy hy₀
  have hquotient : (x / y).toModel.unpack = .zero (sign / .positive) := by
    rw [unpack_div, hxs, hyn, UnpackedFloat.div]
    cases sign <;> rfl
  exact worth_of_unpack_zero hquotient

lemma not_beq_zero_of_unpack_infinite (hx : x.toModel.unpack = .infinity .positive) :
    ¬ (x == 0.0) = true := by
  change ¬ (x.toModel.unpack.compare (0.0 : Float).toModel.unpack == some .eq) = true
  rw [hx, unpack_zero_literal]
  exact Bool.false_ne_true

end Infinite

end CurveSketch.Number
