import CurveSketch.Number.Binary64
import Mathlib

/-!
# The order of binary64 numbers

Binary64 numbers are compared by their unpacked forms, first exponents and then significands.  What
is printed is found from the exact value instead, read off the bits.

* `withSign`, `Binary64.worth`, `worth` — the rational number that a number is worth.
* `Binary64.ofUnpacked`, **`Binary64.of_eq_ofUnpacked`** — the bits say the same as the unpacked
  form.
* `Binary64.IsCanonical` — a significand of fifty-three bits, or the least exponent.  All finite
  numbers have this form, and on it the order by exponents and significands is that of worths.
* **`lt_iff_worth_lt`**, **`le_iff_worth_le`** — finite numbers are ordered by what they are worth.
-/

namespace CurveSketch.Number

open Float.Model

/-- A number with a sign. -/
def withSign (negative : Bool) (size : ℚ) : ℚ := if negative then -size else size

@[simp] lemma withSign_false (size : ℚ) : withSign false size = size := rfl

@[simp] lemma withSign_true (size : ℚ) : withSign true size = -size := rfl

namespace Binary64

/-! ## Two ways of taking a number apart -/

/-- Whether a sign is that of negative numbers. -/
def isNegative : UnpackedFloat.Sign → Bool
  | .negative => true
  | .positive => false

/-- An unpacked number taken apart. -/
def ofUnpacked : UnpackedFloat → Binary64
  | .notANumber => .nan
  | .infinity sign => .infinite (isNegative sign)
  | .zero sign => .finite (isNegative sign) 0 (-1074)
  | .finite sign significand exponent _ => .finite (isNegative sign) significand exponent

section Fields

variable (bits : BitVec Format.binary64.numBits)

lemma toNat_unpackMantissa :
    (UnpackedFloat.unpackMantissa bits).toNat = bits.toNat % 2 ^ 52 := by
  simp [UnpackedFloat.unpackMantissa, BitVec.extractLsb_toNat]

lemma toNat_unpackExponent :
    (UnpackedFloat.unpackExponent bits).toNat = bits.toNat / 2 ^ 52 % 2 ^ 11 := by
  simp [UnpackedFloat.unpackExponent, BitVec.extractLsb_toNat, Nat.shiftRight_eq_div_pow]

lemma toNat_unpackSign :
    (UnpackedFloat.unpackSign bits).toNat = bits.toNat / 2 ^ 63 := by
  have hbits : bits.toNat < 2 ^ 64 := bits.isLt
  simp only [UnpackedFloat.unpackSign, BitVec.toNat_cast, BitVec.extractLsb_toNat,
    Nat.shiftRight_eq_div_pow]
  omega

/-- The sign is the first of the sixty-four bits. -/
lemma isNegative_unpackSign :
    isNegative (.ofBitVec (UnpackedFloat.unpackSign bits)) = decide (2 ^ 63 ≤ bits.toNat) := by
  have hbits : bits.toNat < 2 ^ 64 := bits.isLt
  unfold UnpackedFloat.Sign.ofBitVec
  split_ifs with h <;> rw [← BitVec.toNat_inj, toNat_unpackSign, BitVec.toNat_ofNat] at h
  · simp only [isNegative, Bool.false_eq, decide_eq_false_iff_not]
    omega
  · simp only [isNegative, Bool.true_eq, decide_eq_true_eq]
    omega

/-- A normal number has one bit more than are written. -/
lemma toNat_append_unpackMantissa :
    (1#1 ++ UnpackedFloat.unpackMantissa bits).toNat = 2 ^ 52 + bits.toNat % 2 ^ 52 := by
  rw [BitVec.toNat_append, ← Nat.shiftLeft_add_eq_or_of_lt (BitVec.isLt _), toNat_unpackMantissa]
  simp [Nat.shiftLeft_eq]

end Fields

/-- **The bits of a number say the same as its unpacked form.** -/
lemma of_eq_ofUnpacked (x : Float) : Binary64.of x = ofUnpacked x.toModel.unpack := by
  let bits : BitVec Format.binary64.numBits := x.toBits.toBitVec
  have hgreatest : UnpackedFloat.unpackExponent bits = -1#_ ↔
      x.toBits.toNat / 2 ^ 52 % 2 ^ 11 = 2047 := by
    rw [← BitVec.toNat_inj, toNat_unpackExponent]
    rfl
  have hleast : UnpackedFloat.unpackExponent bits = 0#_ ↔
      x.toBits.toNat / 2 ^ 52 % 2 ^ 11 = 0 := by
    rw [← BitVec.toNat_inj, toNat_unpackExponent]
    rfl
  have hfraction : UnpackedFloat.unpackMantissa bits = 0#_ ↔ x.toBits.toNat % 2 ^ 52 = 0 := by
    rw [← BitVec.toNat_inj, toNat_unpackMantissa]
    rfl
  have hsign : isNegative (.ofBitVec (UnpackedFloat.unpackSign bits)) =
    decide (2 ^ 63 ≤ x.toBits.toNat) := isNegative_unpackSign bits
  change Binary64.of x = ofUnpacked (UnpackedFloat.unpack .binary64 bits)
  simp only [Binary64.of, UnpackedFloat.unpack, Nat.pow_eq, ← hsign]
  by_cases h₁ : UnpackedFloat.unpackExponent bits = -1#_
  · rw [if_pos (hgreatest.1 h₁), if_pos h₁]
    by_cases h₂ : UnpackedFloat.unpackMantissa bits = 0#_
    · rw [if_pos (hfraction.1 h₂), if_pos h₂]
      rfl
    · rw [if_neg (mt hfraction.2 h₂), if_neg h₂]
      rfl
  · rw [if_neg (mt hgreatest.2 h₁), if_neg h₁]
    by_cases h₂ : UnpackedFloat.unpackExponent bits = 0#_
    · rw [if_pos (hleast.1 h₂), if_pos h₂]
      by_cases h₃ : UnpackedFloat.unpackMantissa bits = 0#_
      · rw [dif_pos h₃, hfraction.1 h₃]
        rfl
      · rw [dif_neg h₃, ofUnpacked, toNat_unpackMantissa, h₂]
        rfl
    · rw [if_neg (mt hleast.2 h₂), if_neg h₂, ofUnpacked, toNat_append_unpackMantissa,
        toNat_unpackExponent]
      rfl

/-! ## Canonical forms -/

/-- A finite number whose significand has fifty-three bits, or whose exponent is the least. -/
def IsCanonical : Binary64 → Prop
  | .finite _ significand exponent =>
      significand < 2 ^ 53 ∧ -1074 ≤ exponent ∧ (2 ^ 52 ≤ significand ∨ exponent = -1074)
  | _ => False

/-- What finite numbers are taken apart into has this form. -/
lemma isCanonical_of_eq {x : Float} {negative : Bool} {significand : ℕ} {exponent : ℤ}
    (h : Binary64.of x = .finite negative significand exponent) :
    IsCanonical (.finite negative significand exponent) := by
  rw [← h]
  unfold Binary64.of at h ⊢
  simp only [Nat.pow_eq] at h ⊢
  split_ifs at h ⊢ with hgreatest hfraction hleast
  · exact ⟨by omega, by omega, .inr rfl⟩
  · exact ⟨by omega, by omega, .inl (by omega)⟩

/-- A finite number is a sign and an integer times a power of two. -/
lemma exists_of_eq_finite {x : Float} (h : x.isFinite = true) :
    ∃ negative significand exponent,
      Binary64.of x = .finite negative significand exponent := by
  rw [of_eq_ofUnpacked]
  rw [show x.isFinite = x.toModel.unpack.isFinite from rfl] at h
  cases hx : x.toModel.unpack with
  | zero sign => exact ⟨_, _, _, rfl⟩
  | finite sign significand exponent _ => exact ⟨_, _, _, rfl⟩
  | infinity sign => rw [hx] at h; cases h
  | notANumber => rw [hx] at h; cases h

lemma isCanonical_of {x : Float} (h : x.isFinite = true) : IsCanonical (Binary64.of x) := by
  obtain ⟨negative, significand, exponent, hof⟩ := exists_of_eq_finite h
  exact hof ▸ isCanonical_of_eq hof

/-! ## Order -/

/-- The rational number that a number is worth; nought unless it is finite. -/
def worth : Binary64 → ℚ
  | .finite negative significand exponent => withSign negative (significand * 2 ^ exponent)
  | _ => 0

/-- Of two canonical forms the one with the greater exponent is worth more. -/
lemma size_lt_of_exponent_lt {s₁ s₂ : ℕ} {e₁ e₂ : ℤ} (h₁ : s₁ < 2 ^ 53) (h₂ : 2 ^ 52 ≤ s₂)
    (h : e₁ < e₂) : (s₁ : ℚ) * 2 ^ e₁ < s₂ * 2 ^ e₂ := by
  have hs₁ : (s₁ : ℚ) < 2 ^ 53 := by exact_mod_cast h₁
  have hs₂ : (2 ^ 52 : ℚ) ≤ s₂ := by exact_mod_cast h₂
  have he : (2 : ℚ) ^ (e₁ + 1) ≤ 2 ^ e₂ := zpow_le_zpow_right₀ (by norm_num) h
  calc (s₁ : ℚ) * 2 ^ e₁ < 2 ^ 53 * 2 ^ e₁ := by gcongr
    _ = 2 ^ 52 * 2 ^ (e₁ + 1) := by rw [zpow_add_one₀ (by norm_num)]; ring
    _ ≤ s₂ * 2 ^ e₂ := by gcongr

/-- Comparing canonical forms by exponents and then significands compares what they are worth. -/
lemma compare_then_compare {n₁ n₂ : Bool} {s₁ s₂ : ℕ} {e₁ e₂ : ℤ}
    (h₁ : IsCanonical (.finite n₁ s₁ e₁)) (h₂ : IsCanonical (.finite n₂ s₂ e₂)) :
    (compare e₁ e₂).then (compare s₁ s₂) = compare ((s₁ : ℚ) * 2 ^ e₁) (s₂ * 2 ^ e₂) := by
  obtain ⟨hs₁, he₁, hn₁⟩ := h₁
  obtain ⟨hs₂, he₂, hn₂⟩ := h₂
  rcases lt_trichotomy e₁ e₂ with h | rfl | h
  · rw [compare_lt_iff_lt.2 h,
      compare_lt_iff_lt.2 (size_lt_of_exponent_lt hs₁ (hn₂.resolve_right (by omega)) h)]
    rfl
  · rw [compare_eq_iff_eq.2 rfl]
    have hpos : (0 : ℚ) < 2 ^ e₁ := by positivity
    rcases lt_trichotomy s₁ s₂ with h | rfl | h
    · rw [compare_lt_iff_lt.2 h, compare_lt_iff_lt.2 (by gcongr)]
      rfl
    · rw [compare_eq_iff_eq.2 rfl, compare_eq_iff_eq.2 rfl]
      rfl
    · rw [compare_gt_iff_gt.2 h, compare_gt_iff_gt.2 (show _ < _ by gcongr)]
      rfl
  · rw [compare_gt_iff_gt.2 h,
      compare_gt_iff_gt.2 (size_lt_of_exponent_lt hs₂ (hn₁.resolve_right (by omega)) h)]
    rfl

lemma worth_finite_pos {significand : ℕ} (h : 0 < significand) (exponent : ℤ) :
    0 < worth (.finite false significand exponent) := by
  have : (0 : ℚ) < significand := by exact_mod_cast h
  rw [worth, withSign_false]
  positivity

@[simp] lemma worth_finite_zero (negative : Bool) (exponent : ℤ) :
    worth (.finite negative 0 exponent) = 0 := by
  cases negative <;> simp [worth]

lemma worth_finite_true (significand : ℕ) (exponent : ℤ) :
    worth (.finite true significand exponent) = -worth (.finite false significand exponent) := by
  simp [worth]

lemma worth_finite_neg {significand : ℕ} (h : 0 < significand) (exponent : ℤ) :
    worth (.finite true significand exponent) < 0 := by
  rw [worth_finite_true]
  exact neg_lt_zero.2 (worth_finite_pos h exponent)

lemma compare_neg_neg (p q : ℚ) : compare (-p) (-q) = (compare p q).swap := by
  rcases lt_trichotomy p q with h | rfl | h
  · rw [compare_lt_iff_lt.2 h, compare_gt_iff_gt.2 (neg_lt_neg h)]
    rfl
  · rw [compare_eq_iff_eq.2 rfl, compare_eq_iff_eq.2 rfl]
    rfl
  · rw [compare_gt_iff_gt.2 h, compare_lt_iff_lt.2 (neg_lt_neg h)]
    rfl

/-- **Canonical forms are compared by what they are worth.** -/
lemma compare_eq {a b : UnpackedFloat} (ha : (ofUnpacked a).IsCanonical)
    (hb : (ofUnpacked b).IsCanonical) :
    a.compare b = some (compare (ofUnpacked a).worth (ofUnpacked b).worth) := by
  cases a with
  | notANumber => exact ha.elim
  | infinity => exact ha.elim
  | zero sa =>
      cases b with
      | notANumber => exact hb.elim
      | infinity => exact hb.elim
      | zero sb =>
          rw [ofUnpacked, ofUnpacked, worth_finite_zero, worth_finite_zero]
          rfl
      | finite sb mb eb hmb =>
          have hpos := worth_finite_pos hmb eb
          rw [ofUnpacked, ofUnpacked, worth_finite_zero]
          cases sb with
          | positive => exact congrArg some (compare_lt_iff_lt.2 hpos).symm
          | negative => exact congrArg some (compare_gt_iff_gt.2 (worth_finite_neg hmb eb)).symm
  | finite sa ma ea hma =>
      have hposa := worth_finite_pos hma ea
      cases b with
      | notANumber => exact hb.elim
      | infinity => exact hb.elim
      | zero sb =>
          rw [ofUnpacked, ofUnpacked, worth_finite_zero]
          cases sa with
          | positive => exact congrArg some (compare_gt_iff_gt.2 hposa).symm
          | negative => exact congrArg some (compare_lt_iff_lt.2 (worth_finite_neg hma ea)).symm
      | finite sb mb eb hmb =>
          have hposb := worth_finite_pos hmb eb
          have hsizes : (compare ea eb).then (compare ma mb) =
              compare (worth (.finite false ma ea)) (worth (.finite false mb eb)) := by
            simpa only [worth, withSign_false] using compare_then_compare ha hb
          cases sa <;> cases sb <;> simp only [ofUnpacked, isNegative, worth_finite_true]
          · rw [compare_neg_neg, ← hsizes]
            rfl
          · exact congrArg some (compare_lt_iff_lt.2 (by linarith)).symm
          · exact congrArg some (compare_gt_iff_gt.2 (show _ < _ by linarith)).symm
          · rw [← hsizes]
            rfl

end Binary64

/-- The rational number that a number is worth; nought unless it is finite. -/
def worth (x : Float) : ℚ := (Binary64.of x).worth

lemma lt_iff_compare_unpack (x y : Float) :
    x < y ↔ (x.toModel.unpack.compare y.toModel.unpack == some .lt) = true :=
  decide_eq_true_iff

section Order

variable {x y : Float} (hx : x.isFinite = true) (hy : y.isFinite = true)

include hx hy

lemma compare_eq_compare_worth :
    x.toModel.unpack.compare y.toModel.unpack = some (compare (worth x) (worth y)) := by
  have hx' := Binary64.isCanonical_of hx
  have hy' := Binary64.isCanonical_of hy
  simp only [worth, Binary64.of_eq_ofUnpacked] at hx' hy' ⊢
  exact Binary64.compare_eq hx' hy'

/-- **Finite numbers are ordered by what they are worth.** -/
lemma lt_iff_worth_lt : x < y ↔ worth x < worth y := by
  rw [lt_iff_compare_unpack, compare_eq_compare_worth hx hy, beq_iff_eq, Option.some_inj,
    compare_lt_iff_lt]

lemma le_iff_worth_le : x ≤ y ↔ worth x ≤ worth y := by
  have h : x ≤ y ↔ (x.toModel.unpack.compare y.toModel.unpack).any Ordering.isLE = true :=
    decide_eq_true_iff
  rw [h, compare_eq_compare_worth hx hy, Option.any_some, Ordering.isLE_iff_ne_gt,
    compare_gt_iff_gt, not_lt]

omit hx in
/-- What is less than a finite number is finite, or it is the negative infinity. -/
lemma isFinite_or_of_lt (h : x < y) :
    x.isFinite = true ∨ x.toModel.unpack = .infinity .negative := by
  rw [lt_iff_compare_unpack, beq_iff_eq] at h
  rw [show x.isFinite = x.toModel.unpack.isFinite from rfl]
  cases hx : x.toModel.unpack with
  | notANumber => rw [hx] at h; cases h
  | zero => exact .inl rfl
  | finite => exact .inl rfl
  | infinity sign =>
      cases sign with
      | negative => exact .inr rfl
      | positive =>
          rw [hx] at h
          rw [show y.isFinite = y.toModel.unpack.isFinite from rfl] at hy
          cases hy' : y.toModel.unpack <;> rw [hy'] at h hy <;> first | cases h | cases hy

end Order

/-- What is less than a finite number is less than any that is worth at least as much. -/
lemma lt_of_lt_of_worth_le {x y z : Float} (hy : y.isFinite = true) (hz : z.isFinite = true)
    (h : x < y) (hle : worth y ≤ worth z) : x < z := by
  rcases isFinite_or_of_lt hy h with hx | hx
  · exact (lt_iff_worth_lt hx hz).2 (((lt_iff_worth_lt hx hy).1 h).trans_le hle)
  · rw [show z.isFinite = z.toModel.unpack.isFinite from rfl] at hz
    rw [lt_iff_compare_unpack, hx]
    cases hz' : z.toModel.unpack <;> rw [hz'] at hz <;> first | rfl | cases hz

lemma worth_zero : worth 0.0 = 0 := by
  rw [worth, show Binary64.of 0.0 = .finite false 0 (-1074) by decide +kernel,
    Binary64.worth_finite_zero]

lemma worth_pos {y : Float} (hy : y.isFinite = true) (h : 0.0 < y) : 0 < worth y :=
  worth_zero ▸ (lt_iff_worth_lt (by decide +kernel) hy).1 h

lemma worth_neg {y : Float} (hy : y.isFinite = true) (h : y < 0.0) : worth y < 0 :=
  worth_zero ▸ (lt_iff_worth_lt hy (by decide +kernel)).1 h

end CurveSketch.Number
