import CurveSketch.Proofs.Asymptote
import CurveSketch.Proofs.Grid

/-!
# Candidates and the threshold

A higher threshold suspects fewer points.  Which of the suspects are then kept depends on those kept
before, so a candidate may come up that a lower threshold had dropped; but there are never more.

**Suspects.**  Values straddle a band about zero if they lie on either side of it (`Straddles`), and
values on either side of a band lie on either side of every narrower one.  Over exact arithmetic a
point with a value is suspected for nothing else (`classify?_finite`), so the suspects over a higher
threshold are some of those over a lower one (`flagged_sublist_of_le`).

**Candidates.**  Those over the higher threshold are spread out and are suspects over the lower one
too, and of these as many are kept as can be spread out (`length_le_keepApart`):
**`length_walk_le_of_le`**.  It asks for points that go from left to right, as those of a grid do
(`Grid.pairwise_le_of_withGaps`).
-/

namespace CurveSketch.Asymptote

variable {f : ℚ → Value ℚ} {step distance t t₁ t₂ a b y x : ℚ} {left centre right : Value ℚ}
  {points : List ℚ} {method : Method} {c : Candidate ℚ}

/-- Two values lie on either side of a band about zero. -/
def Straddles (t a b : ℚ) : Prop := (t < a ∧ b < -t) ∨ (a < -t ∧ t < b)

/-- Values on either side of a band lie on either side of a narrower one. -/
lemma Straddles.mono (h : Straddles t₂ a b) (hle : t₁ ≤ t₂) : Straddles t₁ a b := by
  rcases h with ⟨ha, hb⟩ | ⟨ha, hb⟩
  · exact .inl ⟨by linarith, by linarith⟩
  · exact .inr ⟨by linarith, by linarith⟩

/-- Values are large and of opposite sign exactly if they straddle the band of small ones. -/
lemma straddles_iff (ht : 0 < t) :
    (t < Scalar.abs a ∧ t < Scalar.abs b ∧ areOpposite a b = true) ↔ Straddles t a b := by
  have hsign : areOpposite a b = true ↔ (0 < a ∧ b < 0) ∨ (a < 0 ∧ 0 < b) := by
    simp only [areOpposite, Bool.or_eq_true, Bool.and_eq_true, decide_eq_true_eq]
    rfl
  rw [Scalar.abs_rat, Scalar.abs_rat, hsign]
  constructor
  · rintro ⟨ha, hb, ⟨ha₀, hb₀⟩ | ⟨ha₀, hb₀⟩⟩
    · rw [abs_of_pos ha₀] at ha
      rw [abs_of_neg hb₀] at hb
      exact .inl ⟨ha, by linarith⟩
    · rw [abs_of_neg ha₀] at ha
      rw [abs_of_pos hb₀] at hb
      exact .inr ⟨by linarith, hb⟩
  · rintro (⟨ha, hb⟩ | ⟨ha, hb⟩)
    · refine ⟨ha.trans_le (le_abs_self a), ?_, .inl ⟨by linarith, by linarith⟩⟩
      exact lt_of_lt_of_le (by linarith) (neg_le_abs b)
    · refine ⟨?_, hb.trans_le (le_abs_self b), .inr ⟨by linarith, by linarith⟩⟩
      exact lt_of_lt_of_le (by linarith) (neg_le_abs a)

/-- **A point with a value is suspected for the values beside it alone.**  Those that make a slope
steep enough straddle the band of small values, and then the sign is seen to flip first. -/
lemma classify?_finite (ht : 0 < t) :
    classify? step t (.finite a) (.finite y) (.finite b) = some method ↔
      method = .signFlip ∧ Straddles t a b := by
  rw [classify?]
  by_cases h : Straddles t a b
  · rw [if_pos ((straddles_iff ht).2 h), Option.some_inj]
    exact ⟨fun hmethod => ⟨hmethod.symm, h⟩, fun hmethod => hmethod.1.symm⟩
  · rw [if_neg (mt (straddles_iff ht).1 h)]
    refine ⟨fun hmethod => ?_, fun hmethod => absurd hmethod.2 h⟩
    dsimp only at hmethod
    split_ifs at hmethod with hsteep
    exact absurd hsteep.2 h

/-- What is suspected over a threshold is suspected over a lower one, and in the same way. -/
lemma classify?_of_le (ht : 0 < t₁) (hle : t₁ ≤ t₂)
    (h : classify? step t₂ left centre right = some method) :
    classify? step t₁ left centre right = some method := by
  cases left with
  | finite a =>
      cases right with
      | finite b =>
          cases centre with
          | finite y =>
              rw [classify?_finite (ht.trans_le hle)] at h
              exact (classify?_finite ht).2 ⟨h.1, h.2.mono hle⟩
          | _ => exact h
      | _ => cases centre <;> cases h
  | _ => cases h

lemma flagged_sublist_of_le (ht : 0 < t₁) (hle : t₁ ≤ t₂) (f : ℚ → Value ℚ) (step : ℚ)
    (points : List ℚ) : (flagged f step t₂ points).Sublist (flagged f step t₁ points) := by
  induction points with
  | nil => exact .slnil
  | cons x rest ih =>
      cases h₂ : candidateAt? f step t₂ x with
      | none =>
          rw [flagged, List.filterMap_cons_none h₂]
          refine ih.trans ?_
          rw [flagged, flagged, List.filterMap_cons]
          split
          · exact .refl _
          · exact List.sublist_cons_self _ _
      | some c =>
          obtain ⟨method, hmethod, hc⟩ := Option.map_eq_some_iff.1 h₂
          have h₁ : candidateAt? f step t₁ x = some c :=
            Option.map_eq_some_iff.2 ⟨method, classify?_of_le ht hle hmethod, hc⟩
          rw [flagged, flagged, List.filterMap_cons_some h₂, List.filterMap_cons_some h₁]
          exact ih.cons_cons c

/-- **Over a higher threshold no more candidates are found.** -/
theorem length_walk_le_of_le (f : ℚ → Value ℚ) (step distance : ℚ) (ht : 0 < t₁) (hle : t₁ ≤ t₂)
    (hpoints : points.Pairwise (· ≤ ·)) :
    (walk f step t₂ distance points).length ≤ (walk f step t₁ distance points).length := by
  refine length_le_keepApart ?_ ((keepApart_sublist _).trans
    (flagged_sublist_of_le ht hle f step points)) ?_
  · exact List.pairwise_map.1 (hpoints.sublist map_x_flagged_sublist)
  · refine (pairwise_keepApart Candidate.x distance _).imp fun hapart => ?_
    rwa [Scalar.distance_rat] at hapart

/-- Values that change their sign four times: from −2 to 2, back to −20, to 20 and back to −2. -/
def zigzag (x : ℚ) : Value ℚ :=
  if x = -1 ∨ x = 7 then .finite (-2)
  else if x = 1 ∨ x = 9 then .finite 2
  else if x = 3 then .finite (-20)
  else if x = 5 then .finite 20
  else .finite 0

/-- On the way from 0 to 8 the one candidate over the higher threshold is none of the two over the
lower one. -/
theorem length_walk_le_of_le_zigzag :
    (0 : ℚ) < 1 ∧ (1 : ℚ) ≤ 10 ∧
      Grid.withGaps 10 (0 : ℚ) 8 8 = .ok [0, 1, 2, 3, 4, 5, 6, 7, 8] ∧
      ([0, 1, 2, 3, 4, 5, 6, 7, 8] : List ℚ).Pairwise (· ≤ ·) ∧
      walk zigzag 1 10 5 [0, 1, 2, 3, 4, 5, 6, 7, 8] = [⟨4, .signFlip⟩] ∧
      walk zigzag 1 1 5 [0, 1, 2, 3, 4, 5, 6, 7, 8] = [⟨0, .signFlip⟩, ⟨6, .signFlip⟩] ∧
      (walk zigzag 1 10 5 [0, 1, 2, 3, 4, 5, 6, 7, 8]).length ≤
        (walk zigzag 1 1 5 [0, 1, 2, 3, 4, 5, 6, 7, 8]).length := by
  have hgrid : Grid.withGaps 10 (0 : ℚ) 8 8 = .ok [0, 1, 2, 3, 4, 5, 6, 7, 8] := by decide +kernel
  have hpoints := Grid.pairwise_le_of_withGaps (by norm_num) (by norm_num) hgrid
  exact ⟨by norm_num, by norm_num, hgrid, hpoints, by decide +kernel, by decide +kernel,
    length_walk_le_of_le zigzag 1 5 (by norm_num) (by norm_num) hpoints⟩

end CurveSketch.Asymptote
