import CurveSketch.Proofs.Number.Printed

/-!
# How results are rounded

A result of arithmetic is found exactly, as a significand, an exponent and two bits for what is left
of it.  It is shifted until it has fifty-three bits, or the least exponent, and then rounded.

**Bits.**  `Binary64.Represents` says for which number a significand and its two bits stand.
Shifting keeps it (`Binary64.Represents.shiftRight`), and the two bits say where to round to
(`Binary64.Represents.isRounded`).

**Rounding.**  `Binary64.IsRoundedTo` is what comes out: the number rounded to a multiple of some
power of two, in canonical form.  `Binary64.isRoundedTo_roundWithAccuracy` is the general rule, and
`Binary64.isRoundedTo_mul`, `Binary64.isRoundedTo_div`, `Binary64.isRoundedTo_sub` are products,
quotients and differences of unpacked numbers.

**Packing.**  `Binary64.unpack_pack` — numbers in canonical form are kept, or lie beyond the range.
-/

namespace CurveSketch.Number

open Float.Model

namespace Binary64

/-! ## Significands with two more bits -/

/-- A significand with two more bits, and the number that it stands for.  The first bit tells whether
the number has come half the way to the next integer, the second whether it lies anywhere but at the
start and half-way. -/
structure Represents (em : UnpackedFloat.ExtendedMantissa) (t : ℚ) : Prop where
  le : (em.mantissa : ℚ) ≤ t
  lt : t < em.mantissa + 1
  roundBit_iff : em.roundBit = true ↔ (em.mantissa : ℚ) + 1 / 2 ≤ t
  stickyBit_iff : em.stickyBit = true ↔ t ≠ em.mantissa ∧ t ≠ (em.mantissa : ℚ) + 1 / 2

namespace Represents

variable {em : UnpackedFloat.ExtendedMantissa} {t : ℚ}

/-- One of the bits is set unless the number is the significand. -/
lemma or_eq_true_iff (h : Represents em t) :
    (em.roundBit || em.stickyBit) = true ↔ t ≠ em.mantissa := by
  rw [Bool.or_eq_true, h.roundBit_iff, h.stickyBit_iff]
  constructor
  · rintro (hhalf | hother)
    · exact (lt_of_lt_of_le (by linarith) hhalf).ne'
    · exact hother.1
  · intro hne
    by_cases hhalf : t = em.mantissa + 1 / 2
    · exact .inl hhalf.ge
    · exact .inr ⟨hne, hhalf⟩

/-- **Halving a number shifts its bits.** -/
lemma shiftRightOne (h : Represents em t) : Represents em.shiftRightOne (t / 2) := by
  have hbits := h.or_eq_true_iff
  obtain ⟨hle, hlt, -, -⟩ := h
  obtain ⟨n, roundBit, stickyBit⟩ := em
  have hdivision : (n : ℚ) = 2 * (n / 2 : ℕ) + (n % 2 : ℕ) := by
    exact_mod_cast (Nat.div_add_mod n 2).symm
  rcases Nat.mod_two_eq_zero_or_one n with hparity | hparity <;>
    rw [hparity] at hdivision <;> push_cast at hdivision <;>
    constructor <;> dsimp only [UnpackedFloat.ExtendedMantissa.shiftRightOne] at *
  -- an even significand: the bit shifted out is not set, and half is not reached
  · linarith
  · linarith
  · simp only [hparity, bne_self_eq_false, Bool.false_eq_true, false_iff]
    intro hhalf
    linarith
  · rw [hbits]
    exact ⟨fun hne => ⟨fun heq => hne (by linarith), fun heq => by linarith⟩,
      fun hne heq => hne.1 (by linarith)⟩
  -- an odd one: it is set, and the number was the significand if it is half-way now
  · linarith
  · linarith
  · simp only [hparity, ne_eq, one_ne_zero, not_false_eq_true, bne_iff_ne, true_iff]
    linarith
  · rw [hbits]
    exact ⟨fun hne => ⟨fun heq => by linarith, fun heq => hne (by linarith)⟩,
      fun hne heq => hne.2 (by linarith)⟩

lemma shiftRight (h : Represents em t) (n : ℕ) : Represents (em >>> n) (t / 2 ^ n) := by
  induction n with
  | zero => rw [pow_zero, div_one]; exact h
  | succ n ih =>
      rw [pow_succ, ← div_div]
      exact ih.shiftRightOne

/-- **The bits say where to round to.** -/
lemma isRounded (h : Represents em t) : IsRounded t em.roundedMantissa := by
  have hrounded := isRounded_add (q := em.mantissa) (t := t - em.mantissa) (by linarith [h.le])
    (by linarith [h.lt])
  rw [add_sub_cancel] at hrounded
  obtain ⟨-, -, hround, hsticky⟩ := h
  obtain ⟨n, roundBit, stickyBit⟩ := em
  cases roundBit <;> dsimp only at * <;>
    simp only [Bool.false_eq_true, false_iff, true_iff, not_le] at hround
  · -- less than half: the significand stays as it is
    rw [if_pos (by linarith)] at hrounded
    cases stickyBit <;> exact hrounded
  · cases stickyBit <;>
      simp only [Bool.false_eq_true, false_iff, true_iff, not_and_or, not_not] at hsticky
    · have hhalf : t = n + 1 / 2 := hsticky.resolve_left (by linarith)
      rw [if_neg (by linarith), if_neg (by linarith)] at hrounded
      convert hrounded using 2
      change n + n % 2 = _
      split_ifs <;> omega
    · have hhalf : 1 / 2 < t - n := by
        rcases hround.lt_or_eq with hlt | heq
        · linarith
        · exact absurd heq.symm hsticky.2
      rw [if_neg (by linarith), if_pos hhalf] at hrounded
      exact hrounded

end Represents

lemma represents_exact (n : ℕ) :
    Represents (UnpackedFloat.ExtendedMantissa.ofMantissaAndAccuracy n .exact) n where
  le := le_rfl
  lt := lt_add_one _
  roundBit_iff := by simp [UnpackedFloat.ExtendedMantissa.ofMantissaAndAccuracy]
  stickyBit_iff := by simp [UnpackedFloat.ExtendedMantissa.ofMantissaAndAccuracy]

/-- An integer and a part of one that is not nought, with the bits for where the part lies. -/
lemma represents_inexact (n : ℕ) {part : ℚ} (hpos : 0 < part) (hlt : part < 1) :
    Represents (UnpackedFloat.ExtendedMantissa.ofMantissaAndAccuracy n
      (.inexact (compare part (1 / 2)))) (n + part) := by
  rcases lt_trichotomy part (1 / 2) with h | h | h
  · rw [compare_lt_iff_lt.2 h]
    constructor <;> simp [UnpackedFloat.ExtendedMantissa.ofMantissaAndAccuracy] <;> grind
  · rw [compare_eq_iff_eq.2 h]
    constructor <;> simp [UnpackedFloat.ExtendedMantissa.ofMantissaAndAccuracy] <;> grind
  · rw [compare_gt_iff_gt.2 h]
    constructor <;> simp [UnpackedFloat.ExtendedMantissa.ofMantissaAndAccuracy] <;> grind

/-- A quotient of integers: its whole part, and the bits of what is left. -/
lemma represents_quotient (num : ℕ) {den : ℕ} (h : 0 < den) :
    Represents (UnpackedFloat.ExtendedMantissa.ofMantissaAndAccuracy (num / den)
      (UnpackedFloat.accuracyOfFraction (num % den) den)) ((num : ℚ) / den) := by
  have hden : (0 : ℚ) < den := by exact_mod_cast h
  rw [div_eq_add_mod_div num h, UnpackedFloat.accuracyOfFraction]
  split_ifs with hzero
  · rw [hzero, Nat.cast_zero, zero_div, add_zero]
    exact represents_exact _
  · have hpos : (0 : ℚ) < (num % den : ℕ) := by exact_mod_cast Nat.pos_of_ne_zero hzero
    have hcompare : compare (2 * (num % den)) den =
        compare (((num % den : ℕ) : ℚ) / den) (1 / 2) := by
      rcases lt_trichotomy (2 * (num % den)) den with hlt | heq | hgt
      · rw [compare_lt_iff_lt.2 hlt, compare_lt_iff_lt.2 ((div_lt_half_iff _ h).2 hlt)]
      · rw [compare_eq_iff_eq.2 heq, eq_comm, compare_eq_iff_eq]
        exact le_antisymm (not_lt.1 (mt (half_lt_div_iff _ h).1 heq.le.not_gt))
          (not_lt.1 (mt (div_lt_half_iff _ h).1 heq.ge.not_gt))
      · rw [compare_gt_iff_gt.2 hgt, compare_gt_iff_gt.2 ((half_lt_div_iff _ h).2 hgt)]
    rw [hcompare]
    refine represents_inexact _ (by positivity) ((div_lt_one hden).2 ?_)
    exact_mod_cast Nat.mod_lt num h

/-! ## Rounding -/

lemma mantissa_shiftRight (em : UnpackedFloat.ExtendedMantissa) (n : ℕ) :
    (em >>> n).mantissa = em.mantissa / 2 ^ n := by
  induction n with
  | zero => rw [pow_zero, Nat.div_one]; rfl
  | succ n ih =>
      rw [pow_succ, ← Nat.div_div_eq_div_mul, ← ih]
      rfl

lemma mantissa_ofMantissaAndAccuracy (n : ℕ) (accuracy : UnpackedFloat.Accuracy) :
    (UnpackedFloat.ExtendedMantissa.ofMantissaAndAccuracy n accuracy).mantissa = n := by
  unfold UnpackedFloat.ExtendedMantissa.ofMantissaAndAccuracy
  split <;> rfl

/-- Fifty-three bits are kept, unless the exponent would fall below the least one. -/
lemma targetExponent_eq (total : ℤ) :
    Format.binary64.targetExponent total = max (total - 53) (-1074) := rfl

lemma targetExponent_totalExponent (n : ℕ) (e : ℤ) :
    Format.binary64.targetExponent (totalExponent n e) = max (n.log2 + e - 52) (-1074) := by
  rw [targetExponent_eq, totalExponent]
  congr 1
  ring

lemma log2_shiftLeft {n : ℕ} (hn : n ≠ 0) (shift : ℕ) :
    (n <<< shift).log2 = n.log2 + shift := by
  induction shift with
  | zero => rw [Nat.shiftLeft_zero, Nat.add_zero]
  | succ shift ih =>
      rw [Nat.shiftLeft_succ, Nat.log2_two_mul (by rw [Nat.shiftLeft_eq]; positivity), ih,
        Nat.add_assoc]

/-- At its target exponent a significand has the canonical form. -/
lemma isCanonical_shifted {n : ℕ} {e target : ℤ} (negative : Bool)
    (htarget : target = max (n.log2 + e - 52) (-1074)) (he : e ≤ target) :
    IsCanonical (.finite negative (n / 2 ^ (target - e).toNat) target) := by
  refine ⟨?_, by omega, ?_⟩
  · have hbits : n.log2 + 1 ≤ 53 + (target - e).toNat := by omega
    rw [Nat.div_lt_iff_lt_mul (by positivity), ← pow_add]
    exact Nat.lt_log2_self.trans_le (Nat.pow_le_pow_right (by norm_num) hbits)
  · rcases le_or_gt (n.log2 + e - 52) (-1074) with h | h
    · exact .inr (by omega)
    · have hn : n ≠ 0 := by
        rintro rfl
        rw [Nat.log2_zero] at htarget h
        omega
      have hbits : 52 + (target - e).toNat = n.log2 := by omega
      refine .inl ?_
      rw [Nat.le_div_iff_mul_le (by positivity), ← pow_add, hbits]
      exact Nat.log2_self_le hn

/-- Shifting stops at the target exponent, or it does not start beyond it. -/
lemma shiftToTargetExponent_eq (n : ℕ) (e : ℤ) (accuracy : UnpackedFloat.Accuracy) :
    UnpackedFloat.shiftToTargetExponent .binary64 n e accuracy =
      (UnpackedFloat.ExtendedMantissa.ofMantissaAndAccuracy n accuracy >>>
          (max (n.log2 + e - 52) (-1074) - e).toNat,
        e + (max (n.log2 + e - 52) (-1074) - e).toNat) := by
  rw [UnpackedFloat.shiftToTargetExponent, targetExponent_totalExponent,
    UnpackedFloat.shiftToExponent]

/-- A significand that rounding has carried over is shifted once more, and nothing is lost. -/
lemma shiftToTargetExponent_exact {k : ℕ} {E : ℤ} (negative : Bool) (hle : k ≤ 2 ^ 53)
    (hE : -1074 ≤ E) (hfull : 2 ^ 52 ≤ k ∨ E = -1074) :
    ∃ em E', UnpackedFloat.shiftToTargetExponent .binary64 k E .exact = (em, E') ∧
      IsCanonical (.finite negative em.mantissa E') ∧
        (em.mantissa : ℚ) * 2 ^ E' = k * 2 ^ E := by
  refine ⟨_, _, shiftToTargetExponent_eq k E .exact, ?_⟩
  rw [mantissa_shiftRight, mantissa_ofMantissaAndAccuracy]
  rcases hle.lt_or_eq with hlt | rfl
  · have hbits : k.log2 ≤ 52 := by
      rcases eq_or_ne k 0 with rfl | hk
      · rw [Nat.log2_zero]
        omega
      · exact Nat.lt_succ_iff.1 ((Nat.log2_lt hk).2 hlt)
    have hshift : (max (k.log2 + E - 52) (-1074) - E).toNat = 0 := by omega
    rw [hshift]
    simpa using ⟨hlt, hE, hfull⟩
  · have hshift : (max (((2 ^ 53 : ℕ).log2 : ℤ) + E - 52) (-1074) - E).toNat = 1 := by
      rw [Nat.log2_two_pow]
      omega
    rw [hshift]
    refine ⟨⟨by norm_num, by omega, .inl (by norm_num)⟩, ?_⟩
    rw [Nat.cast_one, zpow_add_one₀ (by norm_num)]
    norm_num
    ring

lemma le_roundedMantissa (em : UnpackedFloat.ExtendedMantissa) :
    em.mantissa ≤ em.roundedMantissa ∧ em.roundedMantissa ≤ em.mantissa + 1 := by
  obtain ⟨n, roundBit, stickyBit⟩ := em
  cases roundBit <;> cases stickyBit <;>
    simp only [UnpackedFloat.ExtendedMantissa.roundedMantissa,
      UnpackedFloat.ExtendedMantissa.accuracy, UnpackedFloat.Accuracy.roundToNearestEven] <;>
    omega

/-- The unpacked number is a positive number rounded to a multiple of `2 ^ E`, with fifty-three bits
or the least exponent, in canonical form. -/
structure IsRoundedTo (t : ℚ) (E : ℤ) (u : UnpackedFloat) : Prop where
  canonical : (ofUnpacked u).IsCanonical
  rounded : ∃ k : ℕ, IsRounded (t / 2 ^ E) k ∧ (2 ^ 52 ≤ k ∨ E = -1074) ∧
    (ofUnpacked u).worth = k * 2 ^ E

/-- A multiple of the power is rounded to itself. -/
lemma IsRoundedTo.worth_eq {n : ℕ} {E : ℤ} {u : UnpackedFloat} (h : IsRoundedTo (n * 2 ^ E) E u) :
    (ofUnpacked u).worth = n * 2 ^ E := by
  obtain ⟨k, hk, -, hworth⟩ := h.rounded
  rw [mul_div_cancel_right₀ _ (by positivity)] at hk
  rw [hworth, Int.ofNat_inj.1 (IsRounded.eq_of_intCast hk)]

/-- **Rounding.**  A number that is given at an exponent not above the target one is rounded there. -/
lemma isRoundedTo_roundWithAccuracy {n : ℕ} {e target : ℤ} {accuracy : UnpackedFloat.Accuracy}
    {t : ℚ}
    (h : Represents (UnpackedFloat.ExtendedMantissa.ofMantissaAndAccuracy n accuracy) (t / 2 ^ e))
    (htarget : target = max (n.log2 + e - 52) (-1074)) (he : e ≤ target) :
    IsRoundedTo t target (UnpackedFloat.roundWithAccuracy .binary64 .positive n e accuracy) := by
  have hfirst : UnpackedFloat.shiftToTargetExponent .binary64 n e accuracy =
      (UnpackedFloat.ExtendedMantissa.ofMantissaAndAccuracy n accuracy >>> (target - e).toNat,
        target) := by
    rw [shiftToTargetExponent_eq, ← htarget]
    congr 1
    omega
  have hshifted := (h.shiftRight (target - e).toNat).isRounded
  have hmantissa := mantissa_shiftRight
    (UnpackedFloat.ExtendedMantissa.ofMantissaAndAccuracy n accuracy) (target - e).toNat
  rw [mantissa_ofMantissaAndAccuracy] at hmantissa
  rw [div_div, ← zpow_natCast, Int.toNat_of_nonneg (by omega), ← zpow_add₀ (by norm_num),
    add_sub_cancel] at hshifted
  generalize UnpackedFloat.ExtendedMantissa.ofMantissaAndAccuracy n accuracy >>> (target - e).toNat
    = em₁ at hfirst hshifted hmantissa
  obtain ⟨hfew, hleast, hfull⟩ := isCanonical_shifted false htarget he
  rw [← hmantissa] at hfew hfull
  obtain ⟨hge, hle⟩ := le_roundedMantissa em₁
  obtain ⟨em₂, E, hsecond, hcanonical, hworth⟩ := shiftToTargetExponent_exact false
    (hle.trans hfew) hleast (hfull.imp_left hge.trans')
  simp only [UnpackedFloat.roundWithAccuracy, hfirst, hsecond]
  refine ⟨?_, em₁.roundedMantissa, hshifted, hfull.imp_left hge.trans', ?_⟩
  · split_ifs with hzero
    · exact ⟨by norm_num, le_rfl, .inr rfl⟩
    · exact hcanonical
  · rw [← hworth]
    split_ifs with hzero
    · rw [hzero, Nat.cast_zero, zero_mul, ofUnpacked, worth_finite_zero]
    · rfl

/-- A significand that is too short is shifted to the left before. -/
lemma isRoundedTo_round {n : ℕ} (hn : 0 < n) (e : ℤ) :
    IsRoundedTo (n * 2 ^ e) (max (n.log2 + e - 52) (-1074))
      (UnpackedFloat.round .binary64 .positive n e) := by
  simp only [UnpackedFloat.round, UnpackedFloat.decreaseExponent, targetExponent_totalExponent]
  generalize hshift : (e - max (n.log2 + e - 52) (-1074)).toNat = shift
  have hlog := log2_shiftLeft hn.ne' shift
  refine isRoundedTo_roundWithAccuracy ?_ (by omega) (by omega)
  convert represents_exact (n <<< shift) using 1
  rw [Nat.shiftLeft_eq, div_eq_iff (by positivity), Nat.cast_mul, mul_assoc, Nat.cast_pow,
    Nat.cast_ofNat, ← zpow_natCast, ← zpow_add₀ (by norm_num), add_sub_cancel]

/-- Products are rounded if they are long enough. -/
lemma isRoundedTo_mul {n m : ℕ} {e d : ℤ} (hn : 0 < n) (hm : 0 < m) (hfull : 2 ^ 52 ≤ n * m) :
    ∃ E, IsRoundedTo (n * 2 ^ e * (m * 2 ^ d)) E
      (UnpackedFloat.mul .binary64 (.finite .positive n e hn) (.finite .positive m d hm)) := by
  have hlog : 52 ≤ (n * m).log2 := (Nat.le_log2 (by omega)).2 hfull
  refine ⟨_, isRoundedTo_roundWithAccuracy ?_ rfl (by omega)⟩
  convert represents_exact (n * m) using 1
  rw [div_eq_iff (by positivity), zpow_add₀ (by norm_num), Nat.cast_mul]
  ring

/-- **Quotients are rounded.**  The significand is shifted far enough to give fifty-three bits. -/
lemma isRoundedTo_div {n m : ℕ} {e d : ℤ} (hn : 0 < n) (hm : 0 < m) :
    ∃ E, IsRoundedTo (n * 2 ^ e / (m * 2 ^ d)) E
      (UnpackedFloat.div .binary64 (.finite .positive n e hn) (.finite .positive m d hm)) := by
  simp only [UnpackedFloat.div, UnpackedFloat.divCore, targetExponent_eq, totalExponent]
  generalize htarget : min (e - d) (max (n.log2 + 1 + e - (m.log2 + 1 + d) - 53) (-1074)) = target
  generalize hshift : (e - d - target).toNat = shift
  refine ⟨_, isRoundedTo_roundWithAccuracy ?_ rfl ?_⟩
  · convert represents_quotient (n <<< shift) hm using 1
    rw [Nat.shiftLeft_eq, Nat.cast_mul, Nat.cast_pow, Nat.cast_ofNat, ← zpow_natCast]
    have hexponent : (2 : ℚ) ^ e = 2 ^ (shift : ℤ) * 2 ^ d * 2 ^ target := by
      rw [← zpow_add₀ (by norm_num), ← zpow_add₀ (by norm_num)]
      congr 1
      omega
    rw [hexponent]
    field_simp
  · rcases le_or_gt target (-1074) with hleast | hleast
    · omega
    · have hbits : m.log2 + 1 + 52 ≤ n.log2 + shift := by omega
      have hquotient : 2 ^ 52 ≤ n <<< shift / m := by
        rw [Nat.le_div_iff_mul_le hm, Nat.shiftLeft_eq]
        calc 2 ^ 52 * m ≤ 2 ^ 52 * 2 ^ (m.log2 + 1) :=
              Nat.mul_le_mul_left _ Nat.lt_log2_self.le
          _ = 2 ^ (m.log2 + 1 + 52) := by rw [← pow_add, Nat.add_comm]
          _ ≤ 2 ^ (n.log2 + shift) := Nat.pow_le_pow_right (by norm_num) hbits
          _ = 2 ^ n.log2 * 2 ^ shift := pow_add ..
          _ ≤ n * 2 ^ shift := Nat.mul_le_mul_right _ (Nat.log2_self_le hn.ne')
      have hlog : 52 ≤ (n <<< shift / m).log2 := (Nat.le_log2 (by omega)).2 hquotient
      omega

/-- A number in canonical form is rounded to itself. -/
lemma isRoundedTo_finite {n : ℕ} {e : ℤ} (hn : 0 < n) (h : IsCanonical (.finite false n e)) :
    IsRoundedTo (n * 2 ^ e) e (.finite .positive n e hn) where
  canonical := h
  rounded := ⟨n, by
    rw [mul_div_cancel_right₀ _ (by positivity)]
    exact .intCast n, h.2.2, rfl⟩

/-- A significand with its sign, given at an exponent below its own. -/
lemma apply_mul_zpow (sign : UnpackedFloat.Sign) (n : ℕ) {e E : ℤ} (h : E ≤ e) :
    ((sign.apply (n <<< (e - E).toNat : ℕ) : ℤ) : ℚ) * 2 ^ E =
      (finite (isNegative sign) n e).worth := by
  have hshift : ((n <<< (e - E).toNat : ℕ) : ℚ) * 2 ^ E = n * 2 ^ e := by
    rw [Nat.shiftLeft_eq]
    push_cast
    rw [mul_assoc, ← zpow_natCast, ← zpow_add₀ (by norm_num), Int.toNat_of_nonneg (by omega),
      sub_add_cancel]
  cases sign with
  | negative =>
      rw [UnpackedFloat.Sign.apply, Int.cast_neg, Int.cast_natCast, neg_mul, hshift]
      rfl
  | positive =>
      rw [UnpackedFloat.Sign.apply, Int.cast_natCast, hshift]
      rfl

lemma isRoundedTo_normalize {m : ℤ} (hm : 0 < m) (e : ℤ) :
    ∃ E, IsRoundedTo (m * 2 ^ e) E (UnpackedFloat.normalize .binary64 m e .positive) := by
  have hcast : ((m.toNat : ℕ) : ℚ) = m := by exact_mod_cast Int.toNat_of_nonneg hm.le
  rw [UnpackedFloat.normalize, compare_gt_iff_gt.2 hm, ← hcast]
  exact ⟨_, isRoundedTo_round (by omega) e⟩

/-- **Differences are rounded.**  Significands are subtracted at the smaller of the exponents, and a
zero changes nothing but the sign. -/
lemma isRoundedTo_sub {u v : UnpackedFloat} (hu : (ofUnpacked u).IsCanonical)
    (hv : (ofUnpacked v).IsCanonical) (hlt : (ofUnpacked v).worth < (ofUnpacked u).worth) :
    ∃ E, IsRoundedTo ((ofUnpacked u).worth - (ofUnpacked v).worth) E
      (UnpackedFloat.sub .binary64 u v) := by
  cases u with
  | notANumber => exact hu.elim
  | infinity => exact hu.elim
  | zero s =>
      rw [ofUnpacked, worth_finite_zero] at hlt ⊢
      cases v with
      | notANumber => exact hv.elim
      | infinity => exact hv.elim
      | zero t =>
          rw [ofUnpacked, worth_finite_zero] at hlt
          exact absurd hlt (lt_irrefl 0)
      | finite t m d hm =>
          cases t with
          | positive => exact absurd hlt (worth_finite_pos hm d).not_gt
          | negative =>
              rw [ofUnpacked, isNegative, worth_finite_true, zero_sub, neg_neg]
              exact ⟨d, isRoundedTo_finite hm hv⟩
  | finite s n e hn =>
      cases v with
      | notANumber => exact hv.elim
      | infinity => exact hv.elim
      | zero t =>
          rw [ofUnpacked.eq_def (.zero t), worth_finite_zero] at hlt ⊢
          cases s with
          | positive =>
              rw [sub_zero]
              exact ⟨e, isRoundedTo_finite hn hu⟩
          | negative => exact absurd hlt (worth_finite_neg hn e).not_gt
      | finite t m d hm =>
          simp only [UnpackedFloat.sub, UnpackedFloat.decreaseExponent]
          rw [← sub_pos] at hlt
          rw [ofUnpacked, ofUnpacked, ← apply_mul_zpow s n (min_le_left e d),
            ← apply_mul_zpow t m (min_le_right e d), ← sub_mul, ← Int.cast_sub] at hlt ⊢
          have hpos := (mul_pos_iff_of_pos_right (by positivity)).1 hlt
          exact isRoundedTo_normalize (Int.cast_pos.1 hpos) _

/-! ## Packing -/

/-- The least power of two beyond the range. -/
def beyond : ℚ := 2 ^ (1024 : ℤ)

lemma beyond_pos : 0 < beyond := zpow_pos two_pos 1024

lemma lt_beyond : 2 ^ 64 < beyond := by
  rw [← zpow_natCast]
  exact zpow_lt_zpow_right₀ (by norm_num) (by norm_num)

lemma toNat_append_ofNat {n : ℕ} (hfull : 2 ^ 52 ≤ n) (hfew : n < 2 ^ 53) :
    (1#1 ++ BitVec.ofNat 52 n).toNat = n := by
  rw [BitVec.toNat_append, ← Nat.shiftLeft_add_eq_or_of_lt (BitVec.isLt _), BitVec.toNat_ofNat,
    Nat.shiftLeft_eq]
  simp only [BitVec.toNat_ofNat]
  omega

lemma biased_eq (e : ℤ) :
    (e + Format.binary64.exponentBias + (52 : ℕ)).toNat = (e + 1075).toNat := by
  change (e + (1023 : ℕ) + (52 : ℕ)).toNat = _
  omega

section

variable {sign : UnpackedFloat.Sign} {n : ℕ} {e : ℤ} {hn : 0 < n}

lemma unpack_pack_large (h : 972 ≤ e) :
    UnpackedFloat.unpack .binary64 (UnpackedFloat.pack .binary64 (.finite sign n e hn)) =
      .infinity sign := by
  simp only [UnpackedFloat.pack, biased_eq]
  rw [if_pos (by omega)]
  cases sign <;> rfl

/-- A significand of fifty-three bits is packed without the first. -/
lemma unpack_pack_normal (hfull : 2 ^ 52 ≤ n) (hfew : n < 2 ^ 53) (hleast : -1074 ≤ e)
    (hsmall : e < 972) :
    UnpackedFloat.unpack .binary64 (UnpackedFloat.pack .binary64 (.finite sign n e hn)) =
      .finite sign n e hn := by
  have hbits : n.log2 + 1 = Format.binary64.mantissaBits :=
    congrArg (· + 1) ((Nat.log2_eq_iff hn.ne').2 ⟨hfull, hfew⟩)
  have hexponent : (BitVec.ofNat 11 (e + 1075).toNat).toNat = (e + 1075).toNat := by
    rw [BitVec.toNat_ofNat, Nat.mod_eq_of_lt (by omega)]
  simp only [UnpackedFloat.pack, biased_eq]
  rw [if_neg (by omega), if_pos hbits, UnpackedFloat.unpack]
  simp only [UnpackedFloat.unpackExponent_packComponents,
    UnpackedFloat.unpackMantissa_packComponents, UnpackedFloat.unpackSign_packComponents,
    UnpackedFloat.Sign.ofBitVec_toBitVec]
  rw [if_neg, if_neg]
  · simp only [toNat_append_ofNat hfull hfew, hexponent]
    congr 1
    change ((e + 1075).toNat : ℤ) - ((1023 : ℕ) + (52 : ℕ)) = e
    omega
  · rw [← BitVec.toNat_inj, hexponent, BitVec.toNat_ofNat]
    omega
  · rw [← BitVec.toNat_inj, hexponent]
    change ¬ (e + 1075).toNat = 2047
    omega

/-- One of fewer bits is packed as it is, with the exponent nought for the least one. -/
lemma unpack_pack_subnormal (hfew : n < 2 ^ 52) :
    UnpackedFloat.unpack .binary64 (UnpackedFloat.pack .binary64 (.finite sign n (-1074) hn)) =
      .finite sign n (-1074) hn := by
  have hbits : n.log2 + 1 ≠ Format.binary64.mantissaBits :=
    (Nat.succ_lt_succ ((Nat.log2_lt hn.ne').2 hfew)).ne
  have hfraction : (BitVec.ofNat 52 n).toNat = n := by
    rw [BitVec.toNat_ofNat, Nat.mod_eq_of_lt hfew]
  simp only [UnpackedFloat.pack, biased_eq]
  rw [if_neg (by decide), if_neg hbits, UnpackedFloat.unpack]
  simp only [UnpackedFloat.unpackExponent_packComponents,
    UnpackedFloat.unpackMantissa_packComponents, UnpackedFloat.unpackSign_packComponents,
    UnpackedFloat.Sign.ofBitVec_toBitVec]
  rw [if_neg (by decide), if_pos trivial, dif_neg]
  · simp only [hfraction]
    rfl
  · rw [← BitVec.toNat_inj, hfraction, BitVec.toNat_ofNat]
    omega

end

/-- **Packing keeps a number in canonical form, or its size is beyond the range.** -/
lemma unpack_pack {u : UnpackedFloat} (h : (ofUnpacked u).IsCanonical) :
    UnpackedFloat.unpack .binary64 (UnpackedFloat.pack .binary64 u) = u ∨
      ∃ sign, UnpackedFloat.unpack .binary64 (UnpackedFloat.pack .binary64 u) = .infinity sign ∧
        ∃ size, beyond ≤ size ∧ (ofUnpacked u).worth = withSign (isNegative sign) size := by
  cases u with
  | notANumber => exact h.elim
  | infinity => exact h.elim
  | zero sign => cases sign <;> exact .inl rfl
  | finite sign n e hn =>
      obtain ⟨hfew, hleast, hfull⟩ := h
      rcases le_or_gt 972 e with hlarge | hsmall
      · refine .inr ⟨sign, unpack_pack_large hlarge, (n : ℚ) * 2 ^ e, ?_, rfl⟩
        have hn' : (2 : ℚ) ^ 52 ≤ n := by exact_mod_cast hfull.resolve_right (by omega)
        calc beyond = 2 ^ 52 * 2 ^ (972 : ℤ) := by
              rw [beyond, ← zpow_natCast, ← zpow_add₀ (by norm_num)]
              rfl
          _ ≤ (n : ℚ) * 2 ^ e := by
              gcongr
              norm_num
      · refine .inl ?_
        rcases le_or_gt (2 ^ 52) n with hnormal | hsubnormal
        · exact unpack_pack_normal hnormal hfew hleast hsmall
        · obtain rfl := hfull.resolve_left (by omega)
          exact unpack_pack_subnormal hsubnormal

/-- What is packed without a sign comes back without one. -/
lemma unpack_pack_of_nonneg {u : UnpackedFloat} (h : (ofUnpacked u).IsCanonical)
    (hnonneg : 0 ≤ (ofUnpacked u).worth) :
    UnpackedFloat.unpack .binary64 (UnpackedFloat.pack .binary64 u) = u ∨
      UnpackedFloat.unpack .binary64 (UnpackedFloat.pack .binary64 u) = .infinity .positive ∧
        beyond ≤ (ofUnpacked u).worth := by
  rcases unpack_pack h with hpack | ⟨sign, hpack, size, hsize, hworth⟩
  · exact .inl hpack
  · cases sign with
    | negative =>
        rw [isNegative, withSign_true] at hworth
        linarith [beyond_pos]
    | positive => exact .inr ⟨hpack, hsize.trans_eq hworth.symm⟩

end Binary64

end CurveSketch.Number
