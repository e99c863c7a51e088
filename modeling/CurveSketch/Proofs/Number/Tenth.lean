import CurveSketch.Proofs.Number.Nearest
import CurveSketch.Proofs.Number.Opposite

/-!
# What rounding to tenths comes to

A binary64 number is rounded to a tenth by its exact value: ten times that value is rounded to an
integer, and the decimal with so many tenths is read as binary64 again.

* `isNearest_ofDecimal` — so many tenths are read as the number nearest to them.
* `add_zero_eq_self` — adding a zero takes the sign from a negative zero, and changes nothing else.
* `IsTenths` — a number is what so many tenths are read as, with their sign; a zero has none.
* `IsTenthOf` — a number is another one rounded to a tenth, by its exact value.
* **`isTenthOf_nearestTenth`** — that is what rounding to a tenth gives.
-/

namespace CurveSketch.Number

open Float.Model

open Binary64

variable {x y z : Float} {n : ℕ} {t : ℚ}

/-! ## Decimals -/

/-- Ten is read as it is written. -/
lemma worth_ten : (10.0 : Float).isFinite = true ∧ worth 10.0 = 10 := by
  have hof : Binary64.of 10.0 = .finite false (5 * 2 ^ 50) (-49) := by decide +kernel
  refine ⟨by decide +kernel, ?_⟩
  rw [worth, hof, Binary64.worth, withSign_false]
  norm_num

/-- **So many tenths are read as the number nearest to them.**  Up to fifty-three bits their count is
a number, which is divided by ten; otherwise the quotient of the two integers is rounded. -/
lemma isNearest_ofDecimal (hn : 0 < n) : IsNearest (n / 10) (ofDecimal n (-1)) := by
  have hread : ofDecimal n (-1) = Float.ofScientific n true 1 := by
    rw [ofDecimal, if_neg hn.ne', if_neg (by norm_num), if_neg (by omega)]
    rfl
  rw [hread]
  unfold Float.ofScientific
  split
  · next hsmall =>
      obtain ⟨hfinite, hworth⟩ := worth_toFloat hn hsmall.1
      have hn' : (0 : ℚ) < n := by exact_mod_cast hn
      rw [← hworth] at hn' ⊢
      rw [← worth_ten.2]
      exact isNearest_div hfinite hn' worth_ten.1 (by rw [worth_ten.2]; norm_num)
  · have hdiv : UnpackedFloat.ofScientific .binary64 n (-1) = UnpackedFloat.div .binary64
        (.finite .positive n 0 hn) (.finite .positive 10 0 (by norm_num)) := by
      rw [UnpackedFloat.ofScientific, dif_neg hn.ne', if_neg (by norm_num), if_neg (by simp),
        if_neg (by norm_num)]
      rfl
    obtain ⟨E, hrounded⟩ := isRoundedTo_div (e := 0) (d := 0) hn (m := 10) (by norm_num)
    have hsame : (n : ℚ) * 2 ^ (0 : ℤ) / ((10 : ℕ) * 2 ^ (0 : ℤ)) = n / 10 := by norm_num
    rw [← hdiv, hsame] at hrounded
    exact isNearest_pack rfl hrounded

/-! ## Zeros -/

lemma pack_unpack (f : Float.Model) : Float.Model.pack f.unpack = f := by
  obtain ⟨bits, hvalid⟩ := f
  have hbits := UnpackedFloat.pack_unpack_of_valid hvalid
  simp only [Float.Model.pack, Float.Model.unpack, hbits]

/-- **Adding a zero changes nothing** but a negative zero. -/
lemma add_zero_eq_self (h : x.toModel.unpack ≠ .zero .negative) : x + 0.0 = x := by
  have hadd : UnpackedFloat.add .binary64 x.toModel.unpack (.zero .positive) =
      x.toModel.unpack := by
    cases hx : x.toModel.unpack with
    | zero sign =>
        cases sign with
        | positive => rfl
        | negative => exact absurd hx h
    | _ => rfl
  change Float.ofModel (Float.Model.pack (UnpackedFloat.add .binary64 x.toModel.unpack
    (0.0 : Float).toModel.unpack)) = x
  rw [unpack_zero_literal, hadd, pack_unpack]

/-- What is not too small is rounded to no zero. -/
lemma IsNearest.unpack_ne_zero (h : IsNearest t z) (ht : 1 / 10 ≤ t) (sign : UnpackedFloat.Sign) :
    z.toModel.unpack ≠ .zero sign := by
  intro hz
  obtain ⟨hfinite, hworth⟩ := worth_of_unpack_zero hz
  exact (h.worth_pos hfinite ht).ne' hworth

/-! ## Tenths -/

/-- The number is what so many tenths are read as: the number nearest to them, with their sign.  A
zero has no sign. -/
inductive IsTenths (k : ℤ) (z : Float) : Prop
  | zero (hk : k = 0) (hz : z = 0.0)
  | positive (hk : 0 < k) (hz : IsNearest (k / 10) z)
  | negative (hk : k < 0) (y : Float) (hy : IsNearest (-k / 10) y) (hz : z = -y)

/-- Tenths without a sign are read, and the sign is put back. -/
lemma isTenths_ofDecimal (negative : Bool) (n : ℕ) :
    IsTenths (if negative then -n else n)
      ((if negative then -ofDecimal n (-1) else ofDecimal n (-1)) + 0.0) := by
  rcases Nat.eq_zero_or_pos n with rfl | hn
  · refine .zero (by simp) ?_
    cases negative <;> decide +kernel
  · have hnearest := isNearest_ofDecimal hn
    have hlarge : (1 / 10 : ℚ) ≤ n / 10 := by
      have hone : (1 : ℚ) ≤ n := by exact_mod_cast hn
      gcongr
    have hnonzero := hnearest.unpack_ne_zero hlarge
    cases negative with
    | false =>
        refine .positive (by simpa using hn) ?_
        rw [if_neg Bool.false_ne_true, if_neg Bool.false_ne_true,
          add_zero_eq_self (hnonzero .negative)]
        exact hnearest
    | true =>
        refine .negative (by simpa using hn) (ofDecimal n (-1)) ?_ ?_
        · simpa using hnearest
        · have hopposite : (-ofDecimal n (-1)).toModel.unpack ≠ .zero .negative := by
            rw [unpack_neg]
            intro hzero
            cases hu : (ofDecimal n (-1)).toModel.unpack with
            | zero sign => exact hnonzero sign hu
            | _ => rw [hu] at hzero; cases hzero
          exact add_zero_eq_self hopposite

lemma isFinite_of_eq_finite {negative : Bool} {significand : ℕ} {exponent : ℤ}
    (h : Binary64.of x = .finite negative significand exponent) : x.isFinite = true := by
  rw [of_eq_ofUnpacked] at h
  rw [isFinite_eq]
  cases hx : x.toModel.unpack with
  | zero => rfl
  | finite => rfl
  | infinity => rw [hx] at h; cases h
  | notANumber => rw [hx] at h; cases h

/-- A number is another one, rounded to a tenth: ten times its exact value is rounded to an integer,
half to the even one, and so many tenths are read.  What is not finite stays as it is. -/
structure IsTenthOf (x z : Float) : Prop where
  rounded : x.isFinite = true → ∃ k : ℤ, IsRounded (worth x * 10) k ∧ IsTenths k z
  kept : ¬ x.isFinite = true → z = x

/-- **Rounding to a tenth** rounds the exact value. -/
lemma isTenthOf_nearestTenth (x : Float) : IsTenthOf x (nearestTenth x) where
  rounded hx := by
    obtain ⟨negative, significand, exponent, hof⟩ := exists_of_eq_finite hx
    have hrounded := isRounded_roundScaled significand exponent 1
    rw [pow_one] at hrounded
    have hread := isTenths_ofDecimal negative
      (roundScaled (ratio significand exponent).1 (ratio significand exponent).2 1)
    refine ⟨_, ?_, by rw [nearestTenth, hof]; exact hread⟩
    rw [worth, hof]
    cases negative with
    | false => exact hrounded
    | true =>
        rw [Binary64.worth, withSign_true, neg_mul]
        exact hrounded.neg
  kept hx := by
    unfold nearestTenth
    split
    · next hof => exact absurd (isFinite_of_eq_finite hof) hx
    · rfl

end CurveSketch.Number
