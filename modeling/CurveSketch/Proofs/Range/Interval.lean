import CurveSketch.Proofs.Number.Printed
import CurveSketch.Proofs.Range.Sweep
import CurveSketch.Proofs.Report

/-!
# Intervals as they are printed

A description of two bounds names an interval.  The rules find its bounds one at a time, and a bound
near zero is set to zero whatever the other one is; so the interval may be empty as it is printed.

* `Range.Bound.printed?` — the number that the text of a bound writes.
* `Range.Decides.printed_le_iff` — when the interval that a rule gives is empty, told by the least
  and the greatest value.
* `Range.samples`, `Range.rangeOf_cases` — a sweep over the usual grid.
* **`Range.between_printed_le_iff`** — over a whole sweep the interval is empty exactly if all
  values lie below zero, near to it, but not so near that the greatest is printed as zero.
* `Range.TakesTwo`, `Range.spike` — functions of two values, for which the sweep can be told without
  walking the grid.
* `Range.not_printed_le` — one of them has an empty interval.
-/

namespace CurveSketch

open Number

namespace Range

variable {low high : Float} {a b : Bound Float}

/-! ## Printed bounds -/

/-- The number that the text of a bound writes. -/
def Bound.printed? (b : Bound Float) : Option ℚ := decimalValue? b.text.toList

lemma printed?_measured {y : Float} (hy : y.isFinite = true) :
    ∃ k : ℤ, IsRounded (worth y * 100) k ∧
      (Bound.measured y).printed? = some ((k : ℚ) / 100) := by
  obtain ⟨k, hk, hvalue⟩ := decimalValue?_fixed hy (show 2 ≤ mostPlaces by decide)
  norm_num at hk hvalue
  exact ⟨k, hk, by rw [Bound.printed?, Bound.text, String.toList_ofList, hvalue]⟩

lemma printed?_zero : (Bound.whole 0 : Bound Float).printed? = some 0 := by decide +kernel

lemma printed?_one : (Bound.whole 1 : Bound Float).printed? = some 1 := by decide +kernel

lemma printed?_minus_one : (Bound.whole (-1) : Bound Float).printed? = some (-1) := by
  decide +kernel

/-! ## Rule by rule -/

lemma nearZero_standard_iff {y : Float} :
    nearZero .standard y = true ↔ -0.1 ≤ y ∧ y ≤ 0.1 := by
  rw [nearZero, Bool.and_eq_true, decide_eq_true_iff, decide_eq_true_iff]
  rfl

/-- A number that is not near zero, and not above it, is below it. -/
lemma not_le_of_not_nearZero {y : Float} (hy : y.isFinite = true) (h : nearZero .standard y = false)
    (habove : worth y ≤ worth 0.1) : ¬ -0.1 ≤ y := fun hbelow =>
  Bool.eq_false_iff.1 h
    (nearZero_standard_iff.2 ⟨hbelow, (le_iff_worth_le hy (by decide +kernel)).2 habove⟩)

/-- Both bounds of an interval are printed as numbers, and the interval is empty exactly if the
least value is not too far below zero to be set to zero and the greatest is printed below zero. -/
lemma Decides.printed_le_iff (h : Decides .standard low high (.between a b))
    (hlow : low.isFinite = true) (hhigh : high.isFinite = true) (hle : worth low ≤ worth high) :
    ∃ p q, a.printed? = some p ∧ b.printed? = some q ∧
      (p ≤ q ↔ ¬ (-0.1 ≤ low ∧ worth high < -1 / 200)) := by
  have htolerance : (0 : ℚ) < worth 0.1 := worth_pos (by decide +kernel) (by decide +kernel)
  cases h with
  | wave _ hwave =>
      have hinner : (0 : ℚ) < worth 0.9 := worth_pos (by decide +kernel) (by decide +kernel)
      have hgreat : worth 0.9 ≤ worth high := (le_iff_worth_le (by decide +kernel) hhigh).1 hwave.1
      refine ⟨-1, 1, printed?_minus_one, printed?_one, iff_of_true (by norm_num) fun hempty => ?_⟩
      linarith [hempty.2]
  | fromZero hnear =>
      obtain ⟨k, hk, hprinted⟩ := printed?_measured hhigh
      refine ⟨0, k / 100, printed?_zero, hprinted, ?_⟩
      have hsign : (0 : ℚ) ≤ k / 100 ↔ ¬ k < 0 := by
        rw [le_div_iff₀ (by norm_num), zero_mul, not_lt]
        exact Int.cast_nonneg_iff
      have hscaled : worth high * 100 < -(1 / 2) ↔ worth high < -1 / 200 := by
        constructor <;> intro <;> linarith
      rw [hsign, hk.lt_zero_iff, hscaled]
      simp [(nearZero_standard_iff.1 hnear).1]
  | toZero hfar hnear =>
      obtain ⟨k, hk, hprinted⟩ := printed?_measured hlow
      have hhigh' : worth high ≤ worth 0.1 :=
        (le_iff_worth_le hhigh (by decide +kernel)).1 (nearZero_standard_iff.1 hnear).2
      have hbelow := not_le_of_not_nearZero hlow hfar (hle.trans hhigh')
      have hneg : worth low < 0 := by
        have htolerance' : worth (-0.1) < 0 := worth_neg (by decide +kernel) (by decide +kernel)
        by_contra hpos
        exact hbelow ((le_iff_worth_le (by decide +kernel) hlow).2 (by linarith))
      have hk' : (k : ℚ) ≤ 0 := by
        exact_mod_cast hk.mono (IsRounded.intCast 0) (by push_cast; linarith)
      exact ⟨k / 100, 0, hprinted, printed?_zero,
        iff_of_true (div_nonpos_of_nonpos_of_nonneg hk' (by norm_num))
          fun hempty => hbelow hempty.1⟩
  | measured hfar _ =>
      obtain ⟨j, hj, hprinted₁⟩ := printed?_measured hlow
      obtain ⟨k, hk, hprinted₂⟩ := printed?_measured hhigh
      have hjk : (j : ℚ) ≤ k := by exact_mod_cast hj.mono hk (by linarith)
      refine ⟨j / 100, k / 100, hprinted₁, hprinted₂, iff_of_true (by linarith) fun hempty => ?_⟩
      exact not_le_of_not_nearZero hlow hfar (by linarith [hempty.2]) hempty.1

/-! ## Over a sweep -/

/-- The values of a function of binary64 numbers on the usual grid. -/
def samples (g : Float → Float) : List (Value Float) := rangePoints.map fun x => .ofFloat (g x)

lemma mem_finites_samples {g : Float → Float} {y : Float} :
    y ∈ finites (samples g) ↔ ∃ x ∈ rangePoints, g x = y ∧ y.isFinite = true := by
  have hvalue (z : Float) : (Value.ofFloat z).finite? = some y ↔ z = y ∧ y.isFinite = true := by
    unfold Value.ofFloat
    split_ifs with hfinite <;> simp only [Value.finite?, Option.some_inj, reduceCtorEq, false_iff]
    · exact ⟨fun h => ⟨h, h ▸ hfinite⟩, fun h => h.1⟩
    all_goals exact fun h => hfinite (h.1 ▸ h.2)
  simp [finites, samples, List.mem_filterMap, hvalue]

lemma isFinite_of_mem_samples {g : Float → Float} {y : Float} (h : y ∈ finites (samples g)) :
    y.isFinite = true := by
  obtain ⟨x, -, -, hy⟩ := mem_finites_samples.1 h
  exact hy

/-- The range of a function of binary64 numbers comes about, by the rules if its values are
usable. -/
lemma rangeOf_cases (g : Float → Float) :
    (¬ IsUsable .standard (samples g) ∧
        ∃ r ∈ [Range.all, .rising, .falling, .undetermined],
          Report.rangeOf {} (fun x => .ofFloat (g x)) = .ok r) ∨
      IsUsable .standard (samples g) ∧
        ∃ low high, IsExtremes worth (finites (samples g)) (some (low, high)) ∧
          Report.rangeOf {} (fun x => .ofFloat (g x)) =
            .ok ((shape? .standard (fun x => .ofFloat (g x)) low high).getD
              (ofExtremes .standard low high)) := by
  rw [Report.rangeOf_eq_ok (fun x => Value.isSingle_ofFloat (g x)) gridPoints_range_standard]
  rcases of_cases Scalar.orderedBy_float .standard (fun x => .ofFloat (g x)) rangePoints
      (fun y hy => isFinite_of_mem_samples hy) with ⟨hopen, hr⟩ | ⟨husable, low, high, hall, hr⟩
  · exact .inl ⟨hopen, _, hr, rfl⟩
  · exact .inr ⟨husable, low, high, hall, congrArg Except.ok hr⟩

/-- **An interval that is printed is empty exactly if all values lie below zero, near to it, but not
so near that the greatest is printed as zero.**  Then zero stands for the least one. -/
theorem between_printed_le_iff (g : Float → Float)
    (h : Report.rangeOf {} (fun x => .ofFloat (g x)) = .ok (.between a b)) :
    ∃ p q, a.printed? = some p ∧ b.printed? = some q ∧
      (p ≤ q ↔ ¬ ∀ x ∈ rangePoints, (g x).isFinite = true →
        -0.1 ≤ g x ∧ worth (g x) < -1 / 200) := by
  rcases rangeOf_cases g with ⟨-, r, hr, hrange⟩ | ⟨-, low, high, ⟨hlow, hhigh, hall⟩, hrange⟩
  · -- A description that no rule gives is not an interval.
    obtain rfl := Except.ok.inj (hrange.symm.trans h)
    simp at hr
  · have hlow' := isFinite_of_mem_samples hlow
    have hhigh' := isFinite_of_mem_samples hhigh
    have hdecides := decides .standard (fun x => .ofFloat (g x)) low high
    rw [Except.ok.inj (hrange.symm.trans h)] at hdecides
    obtain ⟨p, q, hp, hq, hpq⟩ := hdecides.printed_le_iff hlow' hhigh' (hall high hhigh).1
    refine ⟨p, q, hp, hq, hpq.trans (not_congr ⟨fun hempty x hx hgx => ?_, fun hempty => ?_⟩)⟩
    · have hy := hall (g x) (mem_finites_samples.2 ⟨x, hx, rfl, hgx⟩)
      have hbelow := (le_iff_worth_le (by decide +kernel) hlow').1 hempty.1
      exact ⟨(le_iff_worth_le (by decide +kernel) hgx).2 (hbelow.trans hy.1),
        hy.2.trans_lt hempty.2⟩
    · obtain ⟨x, hx, rfl, hgx⟩ := mem_finites_samples.1 hlow
      obtain ⟨x', hx', rfl, hgx'⟩ := mem_finites_samples.1 hhigh
      exact ⟨(hempty x hx hgx).1, (hempty x' hx' hgx').2⟩

/-! ## Functions of two values -/

/-- A function takes two finite numbers as values, and both of them somewhere on the grid. -/
structure TakesTwo (g : Float → Float) (low high : Float) : Prop where
  isFinite_low : low.isFinite = true
  isFinite_high : high.isFinite = true
  values : ∀ x, g x = low ∨ g x = high
  low : ∃ x ∈ rangePoints, g x = low
  high : ∃ x ∈ rangePoints, g x = high

namespace TakesTwo

variable {g : Float → Float} (h : TakesTwo g low high)

include h

lemma isFinite (x : Float) : (g x).isFinite = true := by
  rcases h.values x with hx | hx <;> rw [hx]
  exacts [h.isFinite_low, h.isFinite_high]

lemma mem_finites {y : Float} : y ∈ finites (samples g) ↔ y = low ∨ y = high := by
  rw [mem_finites_samples]
  constructor
  · rintro ⟨x, -, rfl, -⟩
    exact h.values x
  · rintro (rfl | rfl)
    · obtain ⟨x, hx, hgx⟩ := h.low
      exact ⟨x, hx, hgx, h.isFinite_low⟩
    · obtain ⟨x, hx, hgx⟩ := h.high
      exact ⟨x, hx, hgx, h.isFinite_high⟩

lemma isUsable : IsUsable .standard (samples g) := by
  have hfinite : ∀ v ∈ samples g, v.finite?.isSome = true := fun v hv => by
    obtain ⟨x, -, rfl⟩ := List.mem_map.1 hv
    rw [Value.ofFloat, if_pos (h.isFinite x)]
    rfl
  have hcount : (finites (samples g)).length = 1001 := by
    rw [finites, List.filterMap_length_eq_length.2 hfinite]
    simp [samples, rangePoints, Grid.spaced]
  refine ⟨fun hup => ?_, fun hdown => ?_, ?_, ?_⟩
  · exact absurd (hfinite _ hup) (by decide)
  · exact absurd (hfinite _ hdown) (by decide)
  · rw [hcount]
    decide
  · exact List.ne_nil_of_length_pos (by rw [hcount]; norm_num)

/-- The range of such a function is what the rules give from the two numbers. -/
lemma rangeOf_eq (hlt : low < high) :
    Report.rangeOf {} (fun x => .ofFloat (g x)) =
      .ok ((shape? .standard (fun x => .ofFloat (g x)) low high).getD
        (ofExtremes .standard low high)) := by
  have hworth := (lt_iff_worth_lt h.isFinite_low h.isFinite_high).1 hlt
  rcases rangeOf_cases g with ⟨hopen, -⟩ | ⟨-, least, greatest, ⟨hleast, hgreatest, hall⟩, hrange⟩
  · exact absurd h.isUsable hopen
  · -- Both numbers are among the values, so the extremes cannot be the other way round.
    have hleast' := (hall low (h.mem_finites.2 (.inl rfl))).1
    have hgreatest' := (hall high (h.mem_finites.2 (.inr rfl))).2
    obtain rfl : least = low := (h.mem_finites.1 hleast).resolve_right fun heq =>
      absurd hworth (not_lt.2 (heq ▸ hleast'))
    obtain rfl : greatest = high := (h.mem_finites.1 hgreatest).resolve_left fun heq =>
      absurd hworth (not_lt.2 (heq ▸ hgreatest'))
    exact hrange

end TakesTwo

/-- The function with one value at zero and another one elsewhere. -/
def spike (low high x : Float) : Float := if x == 0.0 then low else high

lemma takesTwo_spike (hlow : low.isFinite = true) (hhigh : high.isFinite = true) :
    TakesTwo (spike low high) low high := by
  have hmem : ∀ i < 1000,
      Grid.toPlaces 10 (Grid.pointAt (-50.0) (50.0 - -50.0) 1000 i) ∈ rangePoints :=
    fun i hi => List.mem_map_of_mem (List.mem_append_left _
      (List.mem_map_of_mem (List.mem_range.2 hi)))
  refine ⟨hlow, hhigh, fun x => ?_, ⟨_, hmem 500 (by norm_num), if_pos (by decide +kernel)⟩,
    ⟨_, hmem 0 (by norm_num), if_neg (by decide +kernel)⟩⟩
  unfold spike
  split_ifs
  exacts [.inl rfl, .inr rfl]

/-- A function with the values two and three. -/
theorem between_printed_le_iff_spike :
    Report.rangeOf {} (fun x => .ofFloat (spike 2.0 3.0 x)) =
        .ok (.between (.measured 2.0) (.measured 3.0)) ∧
      ∃ p q, (Bound.measured 2.0).printed? = some p ∧ (Bound.measured 3.0).printed? = some q ∧
        p ≤ q := by
  have hspike : TakesTwo (spike 2.0 3.0) 2.0 3.0 :=
    takesTwo_spike (by decide +kernel) (by decide +kernel)
  have hrange : Report.rangeOf {} (fun x => .ofFloat (spike 2.0 3.0 x)) =
      .ok (.between (.measured 2.0) (.measured 3.0)) := by
    rw [hspike.rangeOf_eq (by decide +kernel)]
    decide +kernel
  obtain ⟨p, q, hp, hq, hpq⟩ := between_printed_le_iff (spike 2.0 3.0) hrange
  refine ⟨hrange, p, q, hp, hq, hpq.2 fun hempty => ?_⟩
  have htwo : 0 < worth 2.0 := worth_pos (by decide +kernel) (by decide +kernel)
  have hthree : 0 < worth 3.0 := worth_pos (by decide +kernel) (by decide +kernel)
  obtain ⟨x, hx, -⟩ := hspike.low
  have hbelow := (hempty x hx (hspike.isFinite x)).2
  rcases hspike.values x with hx | hx <;> rw [hx] at hbelow <;> linarith

/-- A function that is below zero and near to it, and is still printed below zero.  The interval
that is printed goes from zero to minus one twentieth. -/
theorem not_printed_le :
    Report.rangeOf {} (fun x => .ofFloat (spike (-0.08) (-0.05) x)) =
        .ok (.between (.whole 0) (.measured (-0.05))) ∧
      Range.text (.between (.whole 0) (.measured (-0.05))) = "0 ≤ y ≤ -0.05" ∧
      ∃ p q, (Bound.whole 0).printed? = some p ∧ (Bound.measured (-0.05)).printed? = some q ∧
        ¬ p ≤ q := by
  have hspike : TakesTwo (spike (-0.08) (-0.05)) (-0.08) (-0.05) :=
    takesTwo_spike (by decide +kernel) (by decide +kernel)
  refine ⟨?_, by decide +kernel, 0, -1 / 20, printed?_zero, by decide +kernel, by norm_num⟩
  rw [hspike.rangeOf_eq (by decide +kernel)]
  decide +kernel

end Range

end CurveSketch
