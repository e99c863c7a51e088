import CurveSketch.Proofs.Asymptote
import CurveSketch.Proofs.Grid
import CurveSketch.Proofs.Report

/-!
# When a scan returns

Arguments that make no sense are rejected before anything is computed.  What comes after that
subtracts, divides twice and counts, and each of these may go out of range.

**Arguments.**  `Asymptote.IsValid` says that they make sense, and `Asymptote.check_eq_ok_iff` that
this is what is checked.

**The way to the grid.**  `Asymptote.IsValid.scan_eq` is the course of a scan over such arguments.
The number of steps, the length, the step and the gaps are found in this order, and
`Asymptote.Fits` says that none of them goes out of range.  `Asymptote.IsValid.gaps_cases`: once there
is a length and a step, the gaps are not far more than the steps; so up to two to the power of sixty
steps only the length and the step are at risk (`Asymptote.IsValid.fits`).

**`Asymptote.exists_scan_eq_ok_iff`** puts this together.  `Asymptote.scan_narrow` is a range that
makes sense and is too narrow for its step.
-/

namespace CurveSketch.Asymptote

open Number

variable {places steps : Int} {dedupFactor low high threshold : Float} {f : Float → Value Float}

/-! ## Arguments -/

/-- Arguments of a scan that make sense. -/
structure IsValid (low high threshold : Float) (steps : Int) : Prop where
  low_isFinite : low.isFinite = true
  high_isFinite : high.isFinite = true
  low_lt_high : low < high
  threshold_pos : 0.0 < threshold
  one_le_steps : 1 ≤ steps

lemma check_eq :
    check (.real low) (.real high) (.real threshold) steps =
      if ¬ (low.isFinite = true ∧ high.isFinite = true ∧ low < high) then
        .error (.invalidRange (.real low) (.real high))
      else if ¬ 0.0 < threshold then .error (.invalidThreshold (.real threshold))
      else if steps < 1 then .error (.invalidSteps steps)
      else .ok () := by
  cases hlow : low.isFinite <;> cases hhigh : high.isFinite <;>
    simp [check, Quantity.isFinite, Quantity.toFloat, ofNumber, hlow, hhigh, Quantity.lt,
      ← Bool.not_eq_true, wholeLtReal_zero_iff]

lemma check_eq_ok_iff :
    check (.real low) (.real high) (.real threshold) steps = .ok () ↔
      IsValid low high threshold steps := by
  rw [check_eq]
  constructor
  · intro h
    split_ifs at h with hrange hthreshold hsteps
    exact ⟨hrange.1, hrange.2.1, hrange.2.2, hthreshold, by omega⟩
  · rintro ⟨hlow, hhigh, hlt, hthreshold, hsteps⟩
    rw [if_neg (not_not.2 ⟨hlow, hhigh, hlt⟩), if_neg (not_not.2 hthreshold), if_neg (by omega)]

variable (places dedupFactor f) in
/-- Arguments that make no sense are answered as such. -/
lemma exists_scan_eq_error (h : ¬ IsValid low high threshold steps) :
    ∃ cause, scan places dedupFactor f (.real low) (.real high) (.real threshold) steps =
      .error cause ∧ cause.kind = .value := by
  have hcheck : ∃ cause, check (.real low) (.real high) (.real threshold) steps = .error cause ∧
      cause.kind = .value := by
    rw [← check_eq_ok_iff, check_eq] at h
    rw [check_eq]
    split_ifs at h ⊢
    all_goals first | exact ⟨_, rfl, rfl⟩ | exact absurd rfl h
  obtain ⟨cause, hcause, hkind⟩ := hcheck
  refine ⟨cause, ?_, hkind⟩
  rw [scan, hcause]
  rfl

/-! ## The way to the grid -/

/-- The step of a scan. -/
def stepOf (low high : Float) (steps : Int) : Float := (high - low) / ofInt steps

/-- How many gaps its grid is to have, as it is computed from the step. -/
def gapsOf (low high : Float) (steps : Int) : Float := (high - low) / stepOf low high steps

/-- Nothing goes out of range in a scan: the number of steps and the length are finite, the step is
not zero, and the gaps can be counted. -/
structure Fits (low high : Float) (steps : Int) : Prop where
  steps_isFinite : (ofInt steps).isFinite = true
  length_isFinite : (high - low).isFinite = true
  step_ne_zero : ¬ (stepOf low high steps == 0.0) = true
  gaps_lt : gapsOf low high steps < Grid.countLimit

/-- Values that are single can be judged everywhere. -/
lemma faultAt?_eq_none (hf : ∀ x, (f x).isSingle = true) (step x : Float) :
    faultAt? f step (Quantity.real threshold).toFloat x = none := by
  have hl := hf (x - step)
  have hc := hf x
  have hr := hf (x + step)
  rw [faultAt?, Quantity.toFloat]
  revert hl hc hr
  cases f (x - step) <;> cases f x <;> cases f (x + step) <;> simp [faultOf?, Value.isSingle]

lemma divide_whole (x : Float) (n : Int) :
    (Quantity.real x).divide (.whole n) =
      if (ofInt n).isFinite = true then
        if ofInt n == 0.0 then .error .realDivisionByZero else .ok (x / ofInt n)
      else .error .integerTooLarge := by
  change ((Quantity.whole n).toFloat >>= fun y => _) = _
  rw [Quantity.toFloat]
  split_ifs <;> simp [*]

lemma exists_map_ofNumber_iff {α β : Type} {r : Except NumberError α} {g : α → β} :
    (∃ b, (ofNumber r).map g = .ok b) ↔ ∃ a, r = .ok a := by
  cases r <;> simp [ofNumber, Except.map]

namespace IsValid

section Course

variable (h : IsValid low high threshold steps)

include h

lemma isNearest_length : IsNearest (worth high - worth low) (high - low) :=
  isNearest_sub h.low_isFinite h.high_isFinite h.low_lt_high

lemma isNearest_steps : IsNearest steps (ofInt steps) := by
  obtain ⟨n, rfl⟩ := Int.eq_ofNat_of_zero_le (zero_le_one.trans h.one_le_steps)
  exact isNearest_ofInt (Int.natCast_pos.1 h.one_le_steps)

lemma worth_steps_pos (hsteps : (ofInt steps).isFinite = true) : 0 < worth (ofInt steps) := by
  have hone : (1 : ℚ) ≤ steps := by exact_mod_cast h.one_le_steps
  exact h.isNearest_steps.worth_pos hsteps (by linarith)

/-- **The course of a scan.** -/
lemma scan_eq (hf : ∀ x, (f x).isSingle = true) :
    scan places dedupFactor f (.real low) (.real high) (.real threshold) steps =
      if ¬ (ofInt steps).isFinite = true then .error (.number .integerTooLarge)
      else if stepOf low high steps == 0.0 then .error (.number .realDivisionByZero)
      else
        (ofNumber (Grid.nearest (gapsOf low high steps) >>= Grid.withGaps places low high)).map
          (walk f (stepOf low high steps) threshold (stepOf low high steps * dedupFactor)) := by
  have hsub : (Quantity.real high).sub (.real low) = .ok (.real (high - low)) := rfl
  rw [scan, check_eq_ok_iff.2 h, ok_bind, hsub]
  change (ofNumber ((Quantity.real (high - low)).divide (.whole steps)) >>= _) = _
  rw [divide_whole]
  by_cases hfinite : (ofInt steps).isFinite = true
  · have hnonzero : ¬ (ofInt steps == 0.0) = true := by
      rw [beq_zero_iff hfinite]
      exact (h.worth_steps_pos hfinite).ne'
    rw [if_pos hfinite, if_neg hnonzero, if_neg (not_not.2 hfinite), gapsOf,
      show (high - low) / ofInt steps = stepOf low high steps from rfl]
    change (ofNumber (Grid.points places _ _ (.real (stepOf low high steps))) >>= _) = _
    rw [Grid.points_real]
    split_ifs with hzero
    · rfl
    · cases Grid.nearest ((high - low) / stepOf low high steps) >>=
          Grid.withGaps places low high with
      | error cause => rfl
      | ok points =>
          have hfault : points.findSome? (faultAt? f (stepOf low high steps)
              (Quantity.real threshold).toFloat) = none :=
            List.findSome?_eq_none_iff.2 fun x _ => faultAt?_eq_none hf _ x
          rw [ofNumber, ok_bind, hfault]
          rfl
  · rw [if_neg hfinite, if_pos hfinite]
    rfl

/-- **The gaps, once there is a length and a step.**  There are at most three times as many as steps,
up to infinity.  The step itself might be infinite as far as is known here; then there are none. -/
lemma gaps_cases (hsteps : (ofInt steps).isFinite = true)
    (hlength : (high - low).isFinite = true) (hstep : ¬ (stepOf low high steps == 0.0) = true) :
    ((gapsOf low high steps).isFinite = true ∧ 0 ≤ worth (gapsOf low high steps) ∧
        worth (gapsOf low high steps) ≤ 3 * worth (ofInt steps)) ∨
      (gapsOf low high steps).toModel.unpack = .infinity .positive ∧
        Binary64.beyond ≤ 3 * worth (ofInt steps) := by
  have hn := h.worth_steps_pos hsteps
  have hl : 0 < worth (high - low) := by
    refine lt_of_le_of_ne (h.isNearest_length.worth_nonneg hlength) fun hzero => hstep ?_
    obtain ⟨hfinite, hworth⟩ := worth_zero_div hlength hzero.symm hsteps hn
    exact (beq_zero_iff hfinite).2 hworth
  have hnearest : IsNearest (worth (high - low) / worth (ofInt steps)) (stepOf low high steps) :=
    isNearest_div hlength hl hsteps hn
  rw [gapsOf]
  generalize stepOf low high steps = step at hstep hnearest ⊢
  by_cases hfinite : step.isFinite = true
  · have hpos : 0 < worth step :=
      lt_of_le_of_ne (hnearest.worth_nonneg hfinite)
        (fun hzero => hstep ((beq_zero_iff hfinite).2 hzero.symm))
    have hgaps := isNearest_div hlength hl hfinite hpos
    have hle : 2 * (worth (high - low) / worth step) ≤ 3 * worth (ofInt steps) := by
      have hmoved := hnearest.two_mul_le hfinite hpos
      rw [← mul_div_assoc, div_le_iff₀ hn] at hmoved
      rw [← mul_div_assoc, div_le_iff₀ hpos]
      linarith
    by_cases hcounted : ((high - low) / step).isFinite = true
    · exact .inl ⟨hcounted, hgaps.worth_nonneg hcounted,
        (hgaps.worth_le hcounted (div_pos hl hpos)).trans hle⟩
    · exact .inr ⟨hgaps.unpack_eq hcounted,
        (hgaps.beyond_le (div_pos hl hpos).le hcounted).trans hle⟩
  · obtain ⟨hcounted, hzero⟩ := worth_div_infinite hlength hl (hnearest.unpack_eq hfinite)
    exact .inl ⟨hcounted, hzero.ge, by linarith⟩

/-- Up to two to the power of sixty steps can be counted. -/
lemma fits (hle : steps ≤ 2 ^ 60) (hlength : (high - low).isFinite = true)
    (hstep : ¬ (stepOf low high steps == 0.0) = true) : Fits low high steps := by
  have hle' : (steps : ℚ) ≤ 2 ^ 60 := by exact_mod_cast hle
  have hpos : (0 : ℚ) < steps := by exact_mod_cast h.one_le_steps
  have hsteps := h.isNearest_steps.isFinite hpos.le (by linarith)
  have hworth := h.isNearest_steps.worth_le hsteps hpos
  refine ⟨hsteps, hlength, hstep, ?_⟩
  rcases h.gaps_cases hsteps hlength hstep with ⟨hfinite, -, hgaps⟩ | ⟨-, hlarge⟩
  · rw [lt_iff_worth_lt hfinite Grid.worth_countLimit.1, Grid.worth_countLimit.2]
    linarith
  · linarith [Binary64.lt_beyond]

end Course

section Outcomes

variable (h : IsValid low high threshold steps) (hf : ∀ x, (f x).isSingle = true)

include h hf

lemma scan_of_steps_infinite (hsteps : ¬ (ofInt steps).isFinite = true) :
    scan places dedupFactor f (.real low) (.real high) (.real threshold) steps =
      .error (.number .integerTooLarge) := by
  rw [h.scan_eq hf, if_pos hsteps]

/-- An infinite length has an infinite step, and there is no saying how often it goes in. -/
lemma scan_of_length_infinite (hsteps : (ofInt steps).isFinite = true)
    (hlength : ¬ (high - low).isFinite = true) :
    scan places dedupFactor f (.real low) (.real high) (.real threshold) steps =
      .error (.number .nanToInteger) := by
  have hinfinite := h.isNearest_length.unpack_eq hlength
  have hstep : (stepOf low high steps).toModel.unpack = .infinity .positive :=
    unpack_infinite_div hinfinite hsteps (h.worth_steps_pos hsteps)
  have hgaps : (gapsOf low high steps).toModel.unpack = .notANumber :=
    unpack_infinite_div_infinite hinfinite hstep
  rw [h.scan_eq hf, if_neg (not_not.2 hsteps), if_neg (not_beq_zero_of_unpack_infinite hstep),
    Grid.nearest_of_unpack_notANumber hgaps]
  rfl

lemma scan_of_step_eq_zero (hsteps : (ofInt steps).isFinite = true)
    (hstep : (stepOf low high steps == 0.0) = true) :
    scan places dedupFactor f (.real low) (.real high) (.real threshold) steps =
      .error (.number .realDivisionByZero) := by
  rw [h.scan_eq hf, if_neg (not_not.2 hsteps), if_pos hstep]

/-- **Over arguments that make sense a scan returns exactly if nothing goes out of range.** -/
lemma exists_scan_iff :
    (∃ found, scan places dedupFactor f (.real low) (.real high) (.real threshold) steps =
      .ok found) ↔ Fits low high steps := by
  by_cases hsteps : (ofInt steps).isFinite = true
  swap
  · rw [h.scan_of_steps_infinite hf hsteps]
    exact iff_of_false (by rintro ⟨_, ⟨⟩⟩) fun hfits => hsteps hfits.steps_isFinite
  by_cases hlength : (high - low).isFinite = true
  swap
  · rw [h.scan_of_length_infinite hf hsteps hlength]
    exact iff_of_false (by rintro ⟨_, ⟨⟩⟩) fun hfits => hlength hfits.length_isFinite
  by_cases hstep : (stepOf low high steps == 0.0) = true
  · rw [h.scan_of_step_eq_zero hf hsteps hstep]
    exact iff_of_false (by rintro ⟨_, ⟨⟩⟩) fun hfits => hfits.step_ne_zero hstep
  -- only the gaps are left to decide
  have hfits : Fits low high steps ↔ gapsOf low high steps < Grid.countLimit :=
    ⟨Fits.gaps_lt, fun hgaps => ⟨hsteps, hlength, hstep, hgaps⟩⟩
  rw [h.scan_eq hf, if_neg (not_not.2 hsteps), if_neg hstep, exists_map_ofNumber_iff, hfits]
  rcases h.gaps_cases hsteps hlength hstep with ⟨hfinite, hnonneg, -⟩ | ⟨hinfinite, -⟩
  · exact Grid.exists_points_iff hfinite hnonneg
  · rw [Grid.nearest_of_unpack_infinite hinfinite]
    exact iff_of_false (by rintro ⟨_, ⟨⟩⟩) (Grid.not_lt_countLimit hinfinite)

end Outcomes

end IsValid

variable (places steps dedupFactor low high threshold) in
/-- **When a scan returns.**  It does so exactly if its arguments make sense and nothing goes out of
range.  Arguments that make no sense are answered as such.  The others may have too many steps, too
great a length or too small a step, and with no more than two to the power of sixty steps nothing else
goes out of range. -/
theorem exists_scan_eq_ok_iff (hf : ∀ x, (f x).isSingle = true) :
    ((∃ found, scan places dedupFactor f (.real low) (.real high) (.real threshold) steps =
        .ok found) ↔ IsValid low high threshold steps ∧ Fits low high steps) ∧
    (¬ IsValid low high threshold steps →
      ∃ cause, scan places dedupFactor f (.real low) (.real high) (.real threshold) steps =
        .error cause ∧ cause.kind = .value) ∧
    (IsValid low high threshold steps →
      (¬ (ofInt steps).isFinite = true →
        scan places dedupFactor f (.real low) (.real high) (.real threshold) steps =
          .error (.number .integerTooLarge)) ∧
      ((ofInt steps).isFinite = true → ¬ (high - low).isFinite = true →
        scan places dedupFactor f (.real low) (.real high) (.real threshold) steps =
          .error (.number .nanToInteger)) ∧
      ((ofInt steps).isFinite = true → (stepOf low high steps == 0.0) = true →
        scan places dedupFactor f (.real low) (.real high) (.real threshold) steps =
          .error (.number .realDivisionByZero)) ∧
      (steps ≤ 2 ^ 60 → (high - low).isFinite = true → ¬ (stepOf low high steps == 0.0) = true →
        Fits low high steps)) := by
  refine ⟨⟨?_, fun h => (h.1.exists_scan_iff hf).2 h.2⟩,
    exists_scan_eq_error places dedupFactor f, fun h =>
    ⟨h.scan_of_steps_infinite hf, h.scan_of_length_infinite hf, h.scan_of_step_eq_zero hf, h.fits⟩⟩
  rintro ⟨found, hscan⟩
  have h : IsValid low high threshold steps := by
    by_contra h
    obtain ⟨cause, hcause, -⟩ := exists_scan_eq_error places dedupFactor f h
    rw [hcause] at hscan
    cases hscan
  exact ⟨h, (h.exists_scan_iff hf).1 ⟨found, hscan⟩⟩

/-- Over a range of moderate size the scan of a line returns. -/
theorem exists_scan_eq_ok_iff_line :
    (∀ x : Float, (Value.ofFloat x).isSingle = true) ∧ IsValid 0.0 8.0 1.0 4 ∧ Fits 0.0 8.0 4 ∧
      ∃ found, scan 10 10.0 Value.ofFloat (.real 0.0) (.real 8.0) (.real 1.0) 4 = .ok found := by
  have hvalid : IsValid 0.0 8.0 1.0 4 :=
    ⟨by decide +kernel, by decide +kernel, by decide +kernel, by decide +kernel, by decide⟩
  have hfits : Fits 0.0 8.0 4 :=
    ⟨by decide +kernel, by decide +kernel, by decide +kernel, by decide +kernel⟩
  exact ⟨Value.isSingle_ofFloat, hvalid, hfits,
    (exists_scan_eq_ok_iff 10 4 10.0 0.0 8.0 1.0 Value.isSingle_ofFloat).1.2 ⟨hvalid, hfits⟩⟩

/-- A range that makes sense is so narrow that its step is zero, and the scan fails without finding
fault with an argument. -/
theorem scan_narrow :
    IsValid 0.0 1e-321 1.0 2000 ∧
      scan 10 10.0 (fun _ => .finite 1.0) (.real 0.0) (.real 1e-321) (.real 1.0) 2000 =
        .error (.number .realDivisionByZero) ∧
      (ScanError.number .realDivisionByZero).kind ≠ .value := by
  have h : IsValid 0.0 1e-321 1.0 2000 :=
    ⟨by decide +kernel, by decide +kernel, by decide +kernel, by decide +kernel, by decide⟩
  exact ⟨h, h.scan_of_step_eq_zero (fun _ => rfl) (by decide +kernel) (by decide +kernel), by decide⟩

end CurveSketch.Asymptote
