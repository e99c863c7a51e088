import CurveSketch.Proofs.Range.Sweep

/-!
# Bounds that are near the extremes

A finite bound of a description may be a round number that the rules put in place of an extreme of
the sweep.  Computed exactly, every bound is still near the extreme that it stands for.

* `Range.Bound.value`, `Range.lower?`, `Range.upper?` — the bounds of a description as numbers.  The
  number that a function roughly is counts as both.
* `Range.Decides.near` — rule by rule.
* **`Range.of_near`** — over a whole sweep.
-/

namespace CurveSketch

namespace Range

variable {α : Type} [Scalar α]

/-- The number that a bound is. -/
def Bound.value : Bound α → α
  | whole n => Scalar.ofInt n
  | measured y => y

/-- The number that a description gives as the least one. -/
def lower? : Range α → Option α
  | atLeast low => some low.value
  | between low _ => some low.value
  | about y => some y
  | _ => none

/-- The number that a description gives as the greatest one. -/
def upper? : Range α → Option α
  | atMost high => some high.value
  | between _ high => some high.value
  | about y => some y
  | _ => none

section Standard

lemma standard_zeroTolerance : (Rule.standard : Rule ℚ).zeroTolerance = 1 / 10 := by
  change (0.1 : ℚ) = 1 / 10
  norm_num

lemma standard_constantTolerance : (Rule.standard : Rule ℚ).constantTolerance = 1 / 100 := by
  change (0.01 : ℚ) = 1 / 100
  norm_num

lemma standard_waveOuter : (Rule.standard : Rule ℚ).waveOuter = 11 / 10 := by
  change (1.1 : ℚ) = 11 / 10
  norm_num

lemma standard_waveInner : (Rule.standard : Rule ℚ).waveInner = 9 / 10 := by
  change (0.9 : ℚ) = 9 / 10
  norm_num

lemma nearZero_standard {y : ℚ} : nearZero .standard y = true ↔ |y| ≤ 1 / 10 := by
  simp only [nearZero, Bool.and_eq_true, decide_eq_true_eq, standard_zeroTolerance]
  exact abs_le.symm

lemma abs_bound_sub_le (y : ℚ) : |(bound .standard y).value - y| ≤ 1 / 10 := by
  unfold bound
  split_ifs with h
  · simpa [Bound.value] using nearZero_standard.1 h
  · simp [Bound.value]

end Standard

variable {low high a b : ℚ} {r : Range ℚ}

/-- **Rule by rule**: what a description gives as the least and the greatest number is near the
least and the greatest value. -/
lemma Decides.near (h : Decides .standard low high r) :
    (∀ a ∈ r.lower?, |a - low| < 11 / 100) ∧ ∀ b ∈ r.upper?, |b - high| < 11 / 100 := by
  have hlevel : (1 / 10 : ℚ) < 11 / 100 := by norm_num
  have hself (y : ℚ) : |y - y| < 11 / 100 := by norm_num
  cases h with
  | all => exact ⟨by simp [lower?], by simp [upper?]⟩
  | atLeast =>
      refine ⟨?_, by simp [upper?]⟩
      rintro _ ⟨⟩
      exact (abs_bound_sub_le low).trans_lt hlevel
  | atMost =>
      refine ⟨by simp [lower?], ?_⟩
      rintro _ ⟨⟩
      exact (abs_bound_sub_le high).trans_lt hlevel
  | about hconstant =>
      rw [Scalar.abs_rat, standard_constantTolerance, abs_lt] at hconstant
      constructor <;> rintro _ ⟨⟩ <;> rw [Scalar.ofInt_rat, abs_lt] <;> push_cast <;>
        constructor <;> linarith
  | wave hlow hhigh =>
      rw [standard_waveOuter, standard_waveInner] at hlow hhigh
      constructor <;> rintro _ ⟨⟩ <;> rw [Bound.value, Scalar.ofInt_rat, abs_lt] <;> push_cast <;>
        constructor <;> linarith
  | fromZero hlow =>
      refine ⟨?_, ?_⟩
      · rintro _ ⟨⟩
        simpa [Bound.value] using (nearZero_standard.1 hlow).trans_lt hlevel
      · rintro _ ⟨⟩
        exact hself high
  | toZero _ hhigh =>
      refine ⟨?_, ?_⟩
      · rintro _ ⟨⟩
        exact hself low
      · rintro _ ⟨⟩
        simpa [Bound.value] using (nearZero_standard.1 hhigh).trans_lt hlevel
  | measured =>
      constructor <;> rintro _ ⟨⟩
      exacts [hself low, hself high]

/-- **What a description gives as the least and the greatest number is near the least and the
greatest value of the sweep.**  So every finite value lies between them, or nearly; and no value was
infinite and enough of them were finite. -/
theorem of_near (f : ℚ → Value ℚ) (points : List ℚ)
    (h : (Range.of .standard f points).lower?.isSome = true ∨
      (Range.of .standard f points).upper?.isSome = true) :
    (.posInfinite ∉ points.map f ∧ .negInfinite ∉ points.map f) ∧
      (Rule.standard : Rule ℚ).minSamples ≤ (finites (points.map f)).length ∧
      ∃ low high, IsLeast {y | y ∈ finites (points.map f)} low ∧
        IsGreatest {y | y ∈ finites (points.map f)} high ∧
        (∀ a ∈ (Range.of .standard f points).lower?,
          |a - low| < 11 / 100 ∧ ∀ y ∈ finites (points.map f), a - 11 / 100 < y) ∧
        ∀ b ∈ (Range.of .standard f points).upper?,
          |b - high| < 11 / 100 ∧ ∀ y ∈ finites (points.map f), y < b + 11 / 100 := by
  rcases of_cases Scalar.orderedBy_rat .standard f points (fun _ _ => trivial) with
    ⟨-, hopen⟩ | ⟨husable, low, high, ⟨hlow, hhigh, hall⟩, hof⟩
  · -- A description that no rule gives has no bounds.
    simp only [List.mem_cons, List.not_mem_nil, or_false] at hopen
    rcases hopen with hr | hr | hr | hr <;> rw [hr] at h <;> simp [lower?, upper?] at h
  · have hnear := decides .standard f low high
    rw [← hof] at hnear
    refine ⟨⟨husable.no_up, husable.no_down⟩, husable.enough, low, high,
      ⟨hlow, fun y hy => (hall y hy).1⟩, ⟨hhigh, fun y hy => (hall y hy).2⟩,
      fun a ha => ?_, fun b hb => ?_⟩
    · have hbound := hnear.near.1 a ha
      exact ⟨hbound, fun y hy => by linarith [(abs_lt.1 hbound).2, (hall y hy).1]⟩
    · have hbound := hnear.near.2 b hb
      exact ⟨hbound, fun y hy => by linarith [(abs_lt.1 hbound).1, (hall y hy).2]⟩

/-- A parabola a little above zero. -/
theorem of_near_parabola :
    Range.of .standard (fun x : ℚ => .finite (x * x / 100 + 1 / 20))
        [-5, -4, -3, -2, -1, 0, 1, 2, 3, 4, 5] = .atLeast (.whole 0) ∧
      ∃ low, IsLeast {y | y ∈ finites ([-5, -4, -3, -2, -1, 0, 1, 2, 3, 4, 5].map
          fun x : ℚ => .finite (x * x / 100 + 1 / 20))} low ∧ |0 - low| < 11 / 100 := by
  have hrange : Range.of .standard (fun x : ℚ => .finite (x * x / 100 + 1 / 20))
      [-5, -4, -3, -2, -1, 0, 1, 2, 3, 4, 5] = .atLeast (.whole 0) := by decide +kernel
  obtain ⟨-, -, low, -, hlow, -, hbound, -⟩ := of_near
    (fun x : ℚ => .finite (x * x / 100 + 1 / 20)) [-5, -4, -3, -2, -1, 0, 1, 2, 3, 4, 5]
    (.inl (by rw [hrange]; rfl))
  exact ⟨hrange, low, hlow, (hbound 0 (by rw [hrange]; rfl)).1⟩

end Range

end CurveSketch
