import CurveSketch.Proofs.Number.Worth
import CurveSketch.Scalar

/-!
# Opposite numbers and distances

The difference of two binary64 numbers, taken the other way, is the same number with the other sign,
or both are a nought of some sign.  So their distance is the same from either side.

* `Binary64.unpack_pack_neg` — packing keeps a change of sign.
* `Binary64.unpack_neg` — so the opposite of a number is unpacked with the other sign.
* `Binary64.isOpposite_sub` — a difference taken the other way is opposite.
* **`distance_lt_comm`** — distances compare the same from either side.
-/

namespace CurveSketch.Number

open Float.Model

namespace Binary64

/-! ## Signs -/

/-- Components with the other sign are a number with the other sign. -/
lemma unpack_packComponents_neg {sign : UnpackedFloat.Sign}
    {exponent : BitVec Format.binary64.exponentBits}
    {mantissa : BitVec Format.binary64.mantissaBitsWithoutImplicit} :
    UnpackedFloat.unpack .binary64
        (UnpackedFloat.packComponents .binary64 (-sign) exponent mantissa) =
      (UnpackedFloat.unpack .binary64
        (UnpackedFloat.packComponents .binary64 sign exponent mantissa)).neg := by
  simp only [UnpackedFloat.unpack, UnpackedFloat.unpackExponent_packComponents,
    UnpackedFloat.unpackMantissa_packComponents, UnpackedFloat.unpackSign_packComponents,
    UnpackedFloat.Sign.ofBitVec_toBitVec]
  split_ifs <;> rfl

/-- **Packing a number with the other sign packs the other sign.** -/
lemma unpack_pack_neg (u : UnpackedFloat) :
    UnpackedFloat.unpack .binary64 (UnpackedFloat.pack .binary64 u.neg) =
      (UnpackedFloat.unpack .binary64 (UnpackedFloat.pack .binary64 u)).neg := by
  cases u with
  | notANumber => rfl
  | infinity sign => exact unpack_packComponents_neg
  | zero sign => exact unpack_packComponents_neg
  | finite sign mantissa exponent =>
      rw [UnpackedFloat.neg.eq_def]
      simp only [UnpackedFloat.pack]
      split_ifs <;> exact unpack_packComponents_neg

/-- The opposite of a number is the number with the other sign. -/
lemma unpack_neg (x : Float) : (-x).toModel.unpack = x.toModel.unpack.neg :=
  (unpack_pack_neg _).trans
    (congrArg (fun bits => (UnpackedFloat.unpack .binary64 bits).neg)
      (UnpackedFloat.pack_unpack_of_valid x.toModel.valid))

/-! ## Differences -/

/-- Two unpacked numbers are opposite, or both are nought. -/
def IsOpposite (u v : UnpackedFloat) : Prop :=
  v = u.neg ∨ ∃ s t, u = .zero s ∧ v = .zero t

/-- Opposite numbers are the same without their signs. -/
lemma IsOpposite.abs_eq {u v : UnpackedFloat} (h : IsOpposite u v) : v.abs = u.abs := by
  obtain rfl | ⟨s, t, rfl, rfl⟩ := h
  · cases u <;> rfl
  · rfl

lemma IsOpposite.pack {u v : UnpackedFloat} (h : IsOpposite u v) :
    IsOpposite (pack u).unpack (pack v).unpack := by
  obtain rfl | ⟨s, t, rfl, rfl⟩ := h
  · exact .inl (unpack_pack_neg u)
  · refine .inr ⟨s, t, ?_, ?_⟩
    · cases s <;> rfl
    · cases t <;> rfl

lemma neg_round (sign : UnpackedFloat.Sign) (m : ℕ) (e : ℤ) :
    (UnpackedFloat.round .binary64 sign m e).neg = UnpackedFloat.round .binary64 (-sign) m e := by
  simp only [UnpackedFloat.round, UnpackedFloat.roundWithAccuracy]
  split_ifs <;> rfl

lemma isOpposite_normalize (m e : ℤ) :
    IsOpposite (UnpackedFloat.normalize .binary64 m e .positive)
      (UnpackedFloat.normalize .binary64 (-m) e .positive) := by
  unfold UnpackedFloat.normalize
  rcases lt_trichotomy m 0 with h | rfl | h
  · rw [compare_lt_iff_lt.2 h, compare_gt_iff_gt.2 (neg_pos.2 h)]
    exact .inl (neg_round .negative (-m).toNat e).symm
  · exact .inr ⟨_, _, rfl, rfl⟩
  · rw [compare_gt_iff_gt.2 h, compare_lt_iff_lt.2 (neg_lt_zero.2 h), neg_neg]
    exact .inl (neg_round .positive m.toNat e).symm

/-- **A difference taken the other way is opposite.** -/
lemma isOpposite_sub (u v : UnpackedFloat) :
    IsOpposite (UnpackedFloat.sub .binary64 u v) (UnpackedFloat.sub .binary64 v u) := by
  cases u with
  | notANumber => cases v <;> exact .inl rfl
  | infinity s =>
      cases v with
      | infinity t => cases s <;> cases t <;> exact .inl rfl
      | _ => cases s <;> exact .inl rfl
  | zero s =>
      cases v with
      | zero t => cases s <;> cases t <;> exact .inr ⟨_, _, rfl, rfl⟩
      | infinity t => cases t <;> exact .inl rfl
      | finite t => cases t <;> exact .inl rfl
      | notANumber => exact .inl rfl
  | finite s m e hm =>
      cases v with
      | finite t m' e' hm' =>
          simp only [UnpackedFloat.sub]
          rw [min_comm e' e, ← neg_sub (s.apply _)]
          exact isOpposite_normalize _ _
      | infinity t => cases t <;> exact .inl rfl
      | zero t => cases s <;> exact .inl rfl
      | notANumber => exact .inl rfl

end Binary64

/-! ## Distances -/

open Binary64

/-- A number below nought has no sign once it is turned round. -/
lemma neg_eq_abs {u : UnpackedFloat} {s : UnpackedFloat.Sign}
    (h : (u.compare (.zero s) == some .lt) = true) : u.neg = u.abs := by
  cases u with
  | notANumber => cases h
  | zero => cases h
  | infinity t => cases t <;> first | rfl | cases h
  | finite t => cases t <;> first | rfl | cases h

/-- A number that is not below nought is compared as if it had no sign. -/
lemma compare_abs {u : UnpackedFloat} {s : UnpackedFloat.Sign}
    (h : ¬ (u.compare (.zero s) == some .lt) = true) (v : UnpackedFloat) :
    u.compare v = u.abs.compare v := by
  cases u with
  | notANumber => rfl
  | zero => cases v with
    | infinity t => cases t <;> rfl
    | finite t => cases t <;> rfl
    | _ => rfl
  | infinity t => cases t <;> first | rfl | exact absurd rfl h
  | finite t => cases t <;> first | rfl | exact absurd rfl h

lemma unpack_zero : (Scalar.zero : Float).toModel.unpack = .zero .positive := by
  have hbits : (Scalar.zero : Float).toModel.toBits = 0 := by decide +kernel
  rw [Float.Model.unpack, hbits]
  rfl

/-- The size of a number is compared as the number is without its sign. -/
lemma abs_lt_iff (x d : Float) :
    Scalar.abs x < d ↔ (x.toModel.unpack.abs.compare d.toModel.unpack == some .lt) = true := by
  rw [lt_iff_compare_unpack, Scalar.abs]
  split_ifs with hneg <;> rw [lt_iff_compare_unpack, unpack_zero] at hneg
  · rw [unpack_neg, neg_eq_abs hneg]
  · rw [compare_abs hneg]

/-- **Distances compare the same from either side.** -/
lemma distance_lt_comm (x y d : Float) : Scalar.distance x y < d ↔ Scalar.distance y x < d := by
  have habs : (x - y).toModel.unpack.abs = (y - x).toModel.unpack.abs :=
    (isOpposite_sub x.toModel.unpack y.toModel.unpack).pack.abs_eq.symm
  rw [Scalar.distance, Scalar.distance, abs_lt_iff, abs_lt_iff, habs]

end CurveSketch.Number
