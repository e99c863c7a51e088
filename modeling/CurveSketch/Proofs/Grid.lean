import CurveSketch.Grid
import CurveSketch.Proofs.Number.Nearest
import CurveSketch.Proofs.Rejecting
import CurveSketch.Proofs.Scalar

/-!
# The points of a grid

**How many.**  A grid has points exactly if its gaps can be counted, that is if there are fewer than
two to the power of sixty-three (`Grid.exists_points_iff`); an infinity and NaN count nothing.

**Rounding.**  A rational number is rounded without its sign (`exists_withSign_roundDiv`), to a whole
one or to a tenth.

**Where.**  Over exact arithmetic the points divide the range evenly and stay within it
(`Grid.spaced_bounds`), but then each is rounded to decimal places, however small the range is.
Rounding keeps the order of points (**`Grid.toPlaces_mono`**), so they go from left to right
(`Grid.pairwise_le_of_withGaps`); it moves each by half a unit at most (`Grid.abs_toPlaces_sub_le`),
and leaves where they are only those that have no more decimal places (`Grid.toPlaces_eq_self_iff`).
The unit is one in the last place that is kept (`Grid.unit_eq`).
-/

namespace CurveSketch

open Number

namespace Grid

/-! ## Counting -/

/-- Gaps that can be counted have points, one more than there are gaps. -/
lemma withGaps_eq {α : Type} [Scalar α] {places count : Int} {start stop : α} (hcount : 0 ≤ count) :
    withGaps places start stop count =
      if greatestCount < count + 1 then .error .countTooLarge
      else .ok ((spaced start stop count.toNat).map (toPlaces places)) := by
  rw [withGaps, if_neg (by omega)]
  split_ifs <;> first | rfl | omega

lemma eq_of_withGaps_eq_ok {α : Type} [Scalar α] {places count : Int} {start stop : α}
    {points : List α} (hcount : 0 ≤ count) (h : withGaps places start stop count = .ok points) :
    points = (spaced start stop count.toNat).map (toPlaces places) := by
  rw [withGaps_eq hcount] at h
  split_ifs at h
  cases h
  rfl

section Counting

variable {places : Int} {start stop q : Float}

/-- Two to the power of sixty-three: from here on gaps cannot be counted. -/
def countLimit : Float := 9223372036854775808.0

lemma worth_countLimit : countLimit.isFinite = true ∧ worth countLimit = 2 ^ 63 := by
  have hof : Binary64.of countLimit = .finite false (2 ^ 52) 11 := by decide +kernel
  refine ⟨by decide +kernel, ?_⟩
  rw [worth, hof, Binary64.worth, withSign_false]
  norm_num

/-- **Gaps can be counted exactly if they are fewer than two to the power of sixty-three.** -/
lemma exists_points_iff (hq : q.isFinite = true) (hnonneg : 0 ≤ worth q) :
    (∃ points, (nearest q >>= withGaps places start stop) = .ok points) ↔ q < countLimit := by
  obtain ⟨k, hnearest, hk⟩ := exists_nearestInt? hq
  have hk₀ : 0 ≤ k := (IsRounded.intCast 0).mono hk (by simpa using hnonneg)
  have hgreatest : greatestCount = 2 ^ 63 - 1 := rfl
  rw [nearest, hnearest, ok_bind, withGaps_eq hk₀, lt_iff_worth_lt hq worth_countLimit.1,
    worth_countLimit.2]
  constructor
  · rintro ⟨points, hpoints⟩
    by_contra hlarge
    have hle : (2 ^ 63 : ℤ) ≤ k := (IsRounded.intCast (2 ^ 63)).mono hk (by push_cast; linarith)
    rw [if_pos (by omega)] at hpoints
    cases hpoints
  · intro hsmall
    have hle : k ≤ 2 ^ 63 - 1024 :=
      hk.mono (IsRounded.intCast (2 ^ 63 - 1024)) (by exact_mod_cast worth_le_of_lt hq hsmall)
    rw [if_neg (by omega)]
    exact ⟨_, rfl⟩

lemma not_lt_countLimit (hq : q.toModel.unpack = .infinity .positive) : ¬ q < countLimit := by
  intro hlt
  rcases isFinite_or_of_lt worth_countLimit.1 hlt with hfinite | hnegative
  · exact isFinite_of_unpack_infinite hq hfinite
  · rw [hq] at hnegative
    cases hnegative

/-- An infinity has no nearest integer. -/
lemma nearest_of_unpack_infinite (hq : q.toModel.unpack = .infinity .positive) :
    nearest q = .error .infinityToInteger := by
  rw [nearest, nearestInt?, Binary64.of_eq_ofUnpacked, hq,
    show q.isNaN = q.toModel.unpack.isNaN from rfl, hq]
  rfl

lemma nearest_of_unpack_notANumber (hq : q.toModel.unpack = .notANumber) :
    nearest q = .error .nanToInteger := by
  rw [nearest, nearestInt?, Binary64.of_eq_ofUnpacked, hq,
    show q.isNaN = q.toModel.unpack.isNaN from rfl, hq]
  rfl

lemma points_real (start stop step : Float) :
    points places (.real start) (.real stop) (.real step) =
      if step == 0.0 then .error .realDivisionByZero
      else nearest ((stop - start) / step) >>= withGaps places start stop := by
  change ((if step == 0.0 then .error .realDivisionByZero else .ok ((stop - start) / step)) >>=
    nearest) >>= _ = _
  split_ifs
  · rfl
  · rw [ok_bind]
    rfl

end Counting

end Grid

/-! ## Exact rounding -/

/-- A number times a factor is rounded without its sign, which is put back. -/
lemma exists_withSign_roundDiv (q : ℚ) (factor : ℕ) :
    ∃ k : ℤ, withSign (decide (q < 0)) (roundDiv (q.num.natAbs * factor) q.den) = k ∧
      IsRounded (q * factor) k := by
  have hrounded := isRounded_roundDiv (q.num.natAbs * factor) q.pos
  have hsize : ((q.num.natAbs * factor : ℕ) : ℚ) / q.den = |q| * factor := by
    rw [Nat.cast_mul, mul_div_right_comm, Rat.abs_def, Rat.divInt_eq_div]
    rfl
  rw [hsize] at hrounded
  by_cases hneg : q < 0
  · refine ⟨-roundDiv (q.num.natAbs * factor) q.den, ?_, ?_⟩
    · rw [decide_eq_true hneg, withSign_true, Int.cast_neg, Int.cast_natCast]
    · rw [abs_of_neg hneg, neg_mul] at hrounded
      simpa using hrounded.neg
  · refine ⟨roundDiv (q.num.natAbs * factor) q.den, ?_, ?_⟩
    · rw [decide_eq_false hneg, withSign_false, Int.cast_natCast]
    · rwa [abs_of_nonneg (not_lt.1 hneg)] at hrounded

/-- The nearest whole number is what a number is rounded to. -/
lemma Scalar.exists_whole_rat (q : ℚ) : ∃ k : ℤ, Scalar.whole q = k ∧ IsRounded q k := by
  obtain ⟨k, hwhole, hk⟩ := exists_withSign_roundDiv q 1
  rw [mul_one] at hwhole
  rw [Nat.cast_one, mul_one] at hk
  exact ⟨k, hwhole, hk⟩

/-- The nearest multiple of a tenth is a tenth of what ten times a number is rounded to. -/
lemma Scalar.exists_tenth_rat (q : ℚ) :
    ∃ k : ℤ, Scalar.tenth q = k / 10 ∧ IsRounded (q * 10) k := by
  obtain ⟨k, hwhole, hk⟩ := exists_withSign_roundDiv q 10
  refine ⟨k, ?_, hk⟩
  rw [← hwhole]
  change withSign (decide (q < 0)) (_ / 10) = _
  cases decide (q < 0)
  · rfl
  · rw [withSign_true, withSign_true, neg_div]
    rfl

/-- A multiple of a tenth is rounded to itself. -/
lemma Scalar.tenth_intCast_div (k : ℤ) : Scalar.tenth ((k : ℚ) / 10) = k / 10 := by
  obtain ⟨j, htenth, hj⟩ := Scalar.exists_tenth_rat (k / 10)
  rw [div_mul_cancel₀ _ (by norm_num)] at hj
  rw [htenth, hj.eq_of_intCast]

/-! ## Exact points -/

namespace Grid

variable {places : Int} {p q start stop : ℚ} {count : ℕ}

lemma powerOfTen_rat (n : ℕ) : (powerOfTen n : ℚ) = 10 ^ min n 400 := by
  have hstep (m : ℕ) : Nat.repeat (fun q : ℚ => q * 10.0) m 1.0 = 10 ^ m := by
    induction m with
    | zero => norm_num [Nat.repeat]
    | succ m ih =>
        rw [Nat.repeat, ih, pow_succ]
        norm_num
  exact hstep _

/-- The last decimal place that is kept. -/
def unit : (places : Int) → ℚ
  | .ofNat n => 1 / powerOfTen n
  | .negSucc n => powerOfTen (n + 1)

lemma unit_pos (places : Int) : 0 < unit places := by
  cases places <;> rw [unit, powerOfTen_rat] <;> positivity

/-- **Rounding to decimal places.** -/
lemma exists_toPlaces_rat (places : Int) (q : ℚ) :
    ∃ k : ℤ, toPlaces places q = k * unit places ∧ IsRounded (q / unit places) k := by
  have hzero (r : ℚ) : r + 0.0 = r := by norm_num
  match places with
  | .ofNat 0 =>
      obtain ⟨k, hwhole, hk⟩ := Scalar.exists_whole_rat q
      have hunit : unit (.ofNat 0) = 1 := by norm_num [unit, powerOfTen_rat]
      refine ⟨k, ?_, by rwa [hunit, div_one]⟩
      rw [hunit, mul_one]
      exact (hzero _).trans hwhole
  | .ofNat (n + 1) =>
      obtain ⟨k, hwhole, hk⟩ := Scalar.exists_whole_rat (q * powerOfTen (n + 1))
      refine ⟨k, ?_, ?_⟩
      · change Scalar.whole (q * powerOfTen (n + 1)) / powerOfTen (n + 1) + 0.0 = _
        rw [hzero, hwhole, unit, mul_one_div]
      · rwa [unit, div_div_eq_mul_div, div_one]
  | .negSucc n =>
      obtain ⟨k, hwhole, hk⟩ := Scalar.exists_whole_rat (q / powerOfTen (n + 1))
      refine ⟨k, ?_, hk⟩
      change Scalar.whole (q / powerOfTen (n + 1)) * powerOfTen (n + 1) + 0.0 = _
      rw [hzero, hwhole]
      rfl

lemma toPlaces_mono (h : p ≤ q) : toPlaces places p ≤ toPlaces places q := by
  have hunit := unit_pos places
  obtain ⟨j, hj, hp⟩ := exists_toPlaces_rat places p
  obtain ⟨k, hk, hq⟩ := exists_toPlaces_rat places q
  rw [hj, hk]
  have hle : j ≤ k := hp.mono hq (by gcongr)
  gcongr

/-- Points are moved by at most half a unit. -/
lemma abs_toPlaces_sub_le (places : Int) (q : ℚ) :
    |toPlaces places q - q| ≤ unit places / 2 := by
  have hunit := unit_pos places
  obtain ⟨k, hk, hq⟩ := exists_toPlaces_rat places q
  have hscale : toPlaces places q - q = -(q / unit places - k) * unit places := by
    rw [hk]
    field_simp
    ring
  rw [hscale, abs_mul, abs_neg, abs_of_pos hunit]
  calc |q / unit places - k| * unit places ≤ 1 / 2 * unit places := by
        gcongr
        exact hq.near
    _ = unit places / 2 := by ring

/-- What already has so few decimal places is kept, and nothing else. -/
lemma toPlaces_eq_self_iff : toPlaces places q = q ↔ ∃ k : ℤ, q = k * unit places := by
  have hunit := unit_pos places
  obtain ⟨k, hk, hq⟩ := exists_toPlaces_rat places q
  constructor
  · exact fun hself => ⟨k, hself.symm.trans hk⟩
  · rintro ⟨j, hj⟩
    rw [hj, mul_div_cancel_right₀ _ hunit.ne'] at hq
    rw [hk, hq.eq_of_intCast, hj]

/-- The unit is a power of ten, as long as it takes no more than four hundred factors. -/
lemma unit_eq (h : places.natAbs ≤ 400) : unit places = 10 ^ (-places) := by
  cases places with
  | ofNat n =>
      rw [unit, powerOfTen_rat, min_eq_left (show n ≤ 400 from h), one_div, zpow_neg]
      rfl
  | negSucc n =>
      rw [unit, powerOfTen_rat, min_eq_left (show n + 1 ≤ 400 from h)]
      rfl

/-- A point lies as many gaps from the start as its index says. -/
lemma pointAt_rat (start length : ℚ) (count index : ℕ) :
    pointAt start length count index = index * (length / count) + start := by
  have hzero : Scalar.isZero (length / count) = true ↔ length / count = 0 := by
    rw [Scalar.isZero, Bool.and_eq_true, decide_eq_true_iff, decide_eq_true_iff]
    exact le_antisymm_iff.symm
  change (if Scalar.isZero (length / count) then (index : ℚ) / count * length
    else index * (length / count)) + start = _
  split_ifs
  · rw [div_mul_eq_mul_div, mul_div_assoc]
  · rfl

lemma spaced_bounds (h : start ≤ stop) (hp : p ∈ spaced start stop count) :
    start ≤ p ∧ p ≤ stop := by
  rw [spaced, List.mem_append, List.mem_map] at hp
  rcases hp with ⟨i, hi, rfl⟩ | hp
  · have hcount : (0 : ℚ) < count := by
      exact_mod_cast (Nat.zero_le i).trans_lt (List.mem_range.1 hi)
    have hi' : (i : ℚ) ≤ count := by exact_mod_cast (List.mem_range.1 hi).le
    have hnonneg : 0 ≤ (stop - start) / count := div_nonneg (sub_nonneg.2 h) hcount.le
    have hle : i * ((stop - start) / count) ≤ stop - start := by
      calc (i : ℚ) * ((stop - start) / count) ≤ count * ((stop - start) / count) := by gcongr
        _ = stop - start := mul_div_cancel₀ _ hcount.ne'
    rw [pointAt_rat]
    exact ⟨by linarith [mul_nonneg (Nat.cast_nonneg (α := ℚ) i) hnonneg], by linarith⟩
  · rw [List.mem_singleton.1 hp]
    split_ifs
    exacts [⟨le_rfl, h⟩, ⟨h, le_rfl⟩]

/-- The points go from left to right. -/
lemma pairwise_spaced (h : start ≤ stop) (count : ℕ) :
    (spaced start stop count).Pairwise (· ≤ ·) := by
  rw [spaced, List.pairwise_append]
  refine ⟨List.pairwise_map.2 (List.pairwise_lt_range.imp fun {i j} hij => ?_),
    List.pairwise_singleton _ _, fun p hp r hr => ?_⟩
  · have hij' : (i : ℚ) ≤ j := by exact_mod_cast hij.le
    have hnonneg : 0 ≤ (stop - start) / count := div_nonneg (sub_nonneg.2 h) (Nat.cast_nonneg _)
    rw [pointAt_rat, pointAt_rat]
    gcongr
  · have hcount : count ≠ 0 := by
      rintro rfl
      exact absurd hp (by simp)
    rw [List.mem_singleton.1 hr, if_neg hcount]
    exact (spaced_bounds h (List.mem_append_left _ hp)).2

variable (start stop) in
/-- The ends of a range are points, if there is a gap. -/
lemma mem_spaced (hcount : count ≠ 0) :
    start ∈ spaced start stop count ∧ stop ∈ spaced start stop count := by
  rw [spaced, if_neg hcount]
  refine ⟨List.mem_append_left _ (List.mem_map.2 ⟨0, List.mem_range.2 (by omega), ?_⟩),
    List.mem_append_right _ (List.mem_singleton_self _)⟩
  rw [pointAt_rat, Nat.cast_zero, zero_mul, zero_add]

/-- **The points of a grid go from left to right.** -/
lemma pairwise_le_of_withGaps {count : Int} {points : List ℚ} (h : start ≤ stop)
    (hcount : 0 ≤ count) (hpoints : withGaps places start stop count = .ok points) :
    points.Pairwise (· ≤ ·) := by
  rw [eq_of_withGaps_eq_ok hcount hpoints]
  exact List.pairwise_map.2 ((pairwise_spaced h _).imp toPlaces_mono)

end Grid

end CurveSketch
