import CurveSketch.Proofs.Asymptote.Threshold
import CurveSketch.Proofs.Grid

/-!
# Candidates and the ends of a range

Candidates are points of the grid, and those are rounded to decimal places.  A range that is not much
wider than the last place may lose its ends to the rounding, and candidates with them.

* `Asymptote.punctured` — a function with a hole, and nothing else to be found.
* `Asymptote.within_of_decimals` — a range that ends on decimal places that are kept.
* **`Asymptote.walk_within_iff`** — over exact arithmetic candidates lie between the rounded ends, so
  half a unit outside at most; and all of them lie in the range, for every function, exactly if
  rounding moves neither end outwards.
* `Asymptote.scan_outside` — a scan that finds a hole outside its range.
-/

namespace CurveSketch.Asymptote

open Number

variable {places count : Int} {low high step threshold distance x y : ℚ} {points : List ℚ}
  {f : ℚ → Value ℚ} {c : Candidate ℚ}

lemma x_mem_of_mem_walk (hc : c ∈ walk f step threshold distance points) : c.x ∈ points :=
  map_x_flagged_sublist.subset (List.mem_map_of_mem (walk_sublist_flagged.subset hc))

/-! ## Functions with a hole -/

/-- The horizontal axis with a hole. -/
def punctured (hole x : ℚ) : Value ℚ := if x = hole then .undefined else .finite 0

lemma candidateAt?_punctured (hstep : step ≠ 0) :
    candidateAt? (punctured x) step threshold x = some ⟨x, .undefined⟩ := by
  have hleft : punctured x (x - step) = .finite 0 := if_neg (by simpa using hstep)
  have hright : punctured x (x + step) = .finite 0 := if_neg (by simpa using hstep)
  have hcentre : punctured x x = .undefined := if_pos rfl
  rw [candidateAt?, hleft, hright, hcentre]
  rfl

/-- Only the hole is suspected. -/
lemma eq_of_candidateAt?_punctured (hthreshold : 0 < threshold)
    (h : candidateAt? (punctured x) step threshold y = some c) : y = x := by
  by_contra hne
  obtain ⟨method, hmethod, -⟩ := Option.map_eq_some_iff.1 h
  have hcentre : punctured x y = .finite 0 := if_neg hne
  rw [hcentre] at hmethod
  simp only [punctured] at hmethod
  split_ifs at hmethod
  · cases hmethod
  · cases hmethod
  · cases hmethod
  · rcases ((classify?_finite hthreshold).1 hmethod).2 with ⟨hlt, -⟩ | ⟨-, hlt⟩ <;> linarith

variable (distance) in
/-- **The hole is found wherever a walk comes by it.** -/
lemma exists_mem_walk_punctured (hstep : step ≠ 0) (hthreshold : 0 < threshold)
    (hx : x ∈ points) : ∃ c ∈ walk (punctured x) step threshold distance points, c.x = x := by
  have hflagged : ⟨x, .undefined⟩ ∈ flagged (punctured x) step threshold points :=
    List.mem_filterMap.2 ⟨x, hx, candidateAt?_punctured hstep⟩
  have hne : walk (punctured x) step threshold distance points ≠ [] :=
    keepApart_ne_nil (List.ne_nil_of_mem hflagged)
  obtain ⟨c, hc⟩ := List.exists_mem_of_ne_nil _ hne
  obtain ⟨y, -, hy⟩ := List.mem_filterMap.1 (walk_sublist_flagged.subset hc)
  exact ⟨c, hc, (x_of_candidateAt? hy).trans (eq_of_candidateAt?_punctured hthreshold hy)⟩

/-! ## Where candidates lie -/

section Within

variable (hle : low ≤ high) (hcount : 1 ≤ count)
  (hpoints : Grid.withGaps places low high count = .ok points)

include hcount hpoints

lemma mem_points_iff :
    x ∈ points ↔ ∃ p ∈ Grid.spaced low high count.toNat, Grid.toPlaces places p = x := by
  rw [Grid.eq_of_withGaps_eq_ok (zero_le_one.trans hcount) hpoints, List.mem_map]

include hle

/-- Candidates lie between the rounded ends. -/
lemma toPlaces_le_of_mem_walk (hc : c ∈ walk f step threshold distance points) :
    Grid.toPlaces places low ≤ c.x ∧ c.x ≤ Grid.toPlaces places high := by
  obtain ⟨p, hp, hpx⟩ := (mem_points_iff hcount hpoints).1 (x_mem_of_mem_walk hc)
  obtain ⟨hlow, hhigh⟩ := Grid.spaced_bounds hle hp
  rw [← hpx]
  exact ⟨Grid.toPlaces_mono hlow, Grid.toPlaces_mono hhigh⟩

/-- A range whose ends have no more decimal places than are kept holds its candidates. -/
lemma within_of_decimals (hlow : ∃ k : ℤ, low = k * Grid.unit places)
    (hhigh : ∃ k : ℤ, high = k * Grid.unit places)
    (hc : c ∈ walk f step threshold distance points) : low ≤ c.x ∧ c.x ≤ high := by
  have hbounds := toPlaces_le_of_mem_walk hle hcount hpoints hc
  rwa [Grid.toPlaces_eq_self_iff.2 hlow, Grid.toPlaces_eq_self_iff.2 hhigh] at hbounds

/-- **Where candidates lie.**  They keep to the range up to half a unit of the last decimal place.  All
of them keep to the range itself exactly if its ends do once they are rounded; if an end does not, a
function with a hole there shows it.  Ends that have no more decimal places than are kept do. -/
theorem walk_within_iff (hstep : step ≠ 0) (hthreshold : 0 < threshold) (distance : ℚ) :
    (∀ f, ∀ c ∈ walk f step threshold distance points,
        low - Grid.unit places / 2 ≤ c.x ∧ c.x ≤ high + Grid.unit places / 2) ∧
      ((∀ f, ∀ c ∈ walk f step threshold distance points, low ≤ c.x ∧ c.x ≤ high) ↔
        low ≤ Grid.toPlaces places low ∧ Grid.toPlaces places high ≤ high) ∧
      ((∃ j : ℤ, low = j * Grid.unit places) → (∃ k : ℤ, high = k * Grid.unit places) →
        ∀ f, ∀ c ∈ walk f step threshold distance points, low ≤ c.x ∧ c.x ≤ high) ∧
      (places.natAbs ≤ 400 → Grid.unit places = 10 ^ (-places)) := by
  refine ⟨fun f c hc => ?_, ⟨fun hall => ?_, ?_⟩, fun hlow hhigh f c hc =>
    within_of_decimals hle hcount hpoints hlow hhigh hc, Grid.unit_eq⟩
  · obtain ⟨hlow, hhigh⟩ := toPlaces_le_of_mem_walk hle hcount hpoints hc
    have hlowMoved := abs_le.1 (Grid.abs_toPlaces_sub_le places low)
    have hhighMoved := abs_le.1 (Grid.abs_toPlaces_sub_le places high)
    exact ⟨by linarith, by linarith⟩
  · have hgaps : count.toNat ≠ 0 := by omega
    obtain ⟨hlow, hhigh⟩ := Grid.mem_spaced low high hgaps
    obtain ⟨c, hc, hcx⟩ := exists_mem_walk_punctured distance hstep hthreshold
      ((mem_points_iff hcount hpoints).2 ⟨low, hlow, rfl⟩)
    obtain ⟨d, hd, hdx⟩ := exists_mem_walk_punctured distance hstep hthreshold
      ((mem_points_iff hcount hpoints).2 ⟨high, hhigh, rfl⟩)
    exact ⟨hcx ▸ (hall _ c hc).1, hdx ▸ (hall _ d hd).2⟩
  · rintro ⟨hlow, hhigh⟩ f c hc
    obtain ⟨hlow', hhigh'⟩ := toPlaces_le_of_mem_walk hle hcount hpoints hc
    exact ⟨hlow.trans hlow', hhigh'.trans hhigh⟩

end Within

/-- The ends of the range from zero to one stay where they are. -/
theorem walk_within_iff_unit :
    (0 : ℚ) ≤ 1 ∧ (1 : ℤ) ≤ 4 ∧
      Grid.withGaps 10 (0 : ℚ) 1 4 = .ok [0, 1 / 4, 1 / 2, 3 / 4, 1] ∧
      ((1 / 4 : ℚ) ≠ 0) ∧ (0 : ℚ) < 5 ∧ Grid.unit 10 = 10 ^ (-10 : ℤ) ∧
      ∀ f, ∀ c ∈ walk f (1 / 4) 5 (10 / 4) [0, 1 / 4, 1 / 2, 3 / 4, 1],
        (0 : ℚ) ≤ c.x ∧ c.x ≤ 1 := by
  have hpoints : Grid.withGaps 10 (0 : ℚ) 1 4 = .ok [0, 1 / 4, 1 / 2, 3 / 4, 1] := by
    decide +kernel
  have hstep : (1 / 4 : ℚ) ≠ 0 := by norm_num
  have hthreshold : (0 : ℚ) < 5 := by norm_num
  obtain ⟨-, hiff, -, hunit⟩ :=
    walk_within_iff (by norm_num) (by norm_num) hpoints hstep hthreshold (10 / 4)
  exact ⟨by norm_num, by norm_num, hpoints, hstep, hthreshold, hunit (by norm_num),
    hiff.2 ⟨by decide +kernel, by decide +kernel⟩⟩

/-- The reciprocal of a number. -/
def reciprocal (x : Float) : Value Float := .ofFloat (1.0 / x)

/-- Between two powers of two that are smaller than the last decimal place the scan of the reciprocal
finds the hole at zero, which is below both. -/
theorem scan_outside :
    check (.real 2.9103830456733704e-11) (.real 5.820766091346741e-11) (.real 5.0) 1 = .ok () ∧
      scan 10 10.0 reciprocal (.real 2.9103830456733704e-11) (.real 5.820766091346741e-11)
        (.real 5.0) 1 = .ok [⟨0.0, .undefined⟩] ∧
      (0.0 : Float) < 2.9103830456733704e-11 := by
  have hwalk : IsWalk 10 (.real 2.9103830456733704e-11) (.real 5.820766091346741e-11) (.real 5.0) 1
      2.9103830456733704e-11 [0.0, 1e-10] :=
    ⟨rfl, by decide +kernel, by decide +kernel⟩
  exact ⟨hwalk.valid, hwalk.scan_eq_ok_iff.2 ⟨by decide +kernel, by decide +kernel⟩,
    by decide +kernel⟩

end CurveSketch.Asymptote
