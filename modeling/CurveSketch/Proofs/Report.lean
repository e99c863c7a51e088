import CurveSketch.Outcome
import CurveSketch.Proofs.Rejecting
import Mathlib.Data.List.TakeWhile

/-!
# Reports that come about

A report may fail for two reasons only: the settings give no grid to sweep, or the relation takes
several numbers at a point that is looked at.

* `Settings.GivesGrids` — the settings give every grid that a report sweeps.
* **`givesGrids_standard`** — the usual settings do.  How many gaps a grid has decides it, so no
  point of a grid has to be found.
* `Report.rangeOf_eq_ok`, **`Report.exists_of`** — over such settings every part of a report on a
  function comes about, and so does the report.
* `Sketch.ofInput_eq_ok`, `Sketch.ofInput_eq_error` — so an input has a sketch exactly if it has a
  curve.
-/

namespace CurveSketch

open Text

/-! ## Grids -/

/-- The settings give every grid that a report sweeps. -/
structure Settings.GivesGrids (s : Settings) : Prop where
  injectivity : ∃ points, s.gridPoints s.injectivityGrid = .ok points
  domain : ∃ points, s.gridPoints s.domainGrid = .ok points
  range : ∃ points, s.gridPoints s.rangeGrid = .ok points

/-- A grid that has so many gaps, as many as can be counted, has points. -/
lemma Grid.Span.points_eq_ok {span : Grid.Span} {n : ℕ} (places : Int)
    (hgaps : Grid.gaps (.real span.start) (.real span.stop) (.real span.step) = .ok n)
    (hn : (n : Int) < Grid.greatestCount) :
    span.points places = .ok ((Grid.spaced span.start span.stop n).map (Grid.toPlaces places)) := by
  have hcount : Grid.withGaps places span.start span.stop n =
      .ok ((Grid.spaced span.start span.stop n).map (Grid.toPlaces places)) := by
    rw [Grid.withGaps, if_neg (by omega), if_neg (by omega), if_neg (by omega), Int.toNat_natCast]
  rw [Grid.Span.points, Grid.points, hgaps, ok_bind]
  exact hcount

/-- The points that the range of a function is swept over by the usual settings. -/
def rangePoints : List Float := (Grid.spaced (-50.0) 50.0 1000).map (Grid.toPlaces 10)

lemma gridPoints_range_standard :
    ({} : Settings).gridPoints ({} : Settings).rangeGrid = .ok rangePoints :=
  Grid.Span.points_eq_ok (n := 1000) 10 (by decide +kernel) (by decide)

/-- **The usual settings give every grid.** -/
lemma givesGrids_standard : ({} : Settings).GivesGrids where
  injectivity := ⟨_, Grid.Span.points_eq_ok (n := 20) 10 (by decide +kernel) (by decide)⟩
  domain := ⟨_, Grid.Span.points_eq_ok (n := 400) 10 (by decide +kernel) (by decide)⟩
  range := ⟨_, gridPoints_range_standard⟩

/-! ## Functions -/

/-- A binary64 number is one number, or none. -/
lemma Value.isSingle_ofFloat (y : Float) : (Value.ofFloat y).isSingle = true := by
  unfold Value.ofFloat
  split_ifs <;> rfl

lemma Value.isFinite_ofFloat (y : Float) : (Value.ofFloat y).isFinite = y.isFinite := by
  unfold Value.ofFloat
  split_ifs with hfinite <;> simp [isFinite, finite?, hfinite]

variable {s : Settings} {f : Float → Value Float} (hf : ∀ x, (f x).isSingle = true)

include hf

lemma requireSingle_eq_ok (points : List Float) : requireSingle f points = .ok () := by
  rw [requireSingle, if_pos (List.all_eq_true.2 fun x _ => hf x)]

lemma Symmetry.check_eq_ok (rule : Symmetry.Rule Float) : Symmetry.check rule f = .ok () :=
  requireSingle_eq_ok hf _

/-- All points of the grid come before the first one with several numbers, as there is none. -/
lemma Injectivity.check_eq_ok (rule : Injectivity.Rule Float) (points : List Float) :
    Injectivity.check rule f points = .ok () := by
  have hall : points.takeWhile (fun x => (f x).isSingle) = points :=
    List.takeWhile_eq_self_iff.2 fun x _ => hf x
  simp [Injectivity.check, hall]

lemma Range.check_eq_ok (rule : Range.Rule Float) (points : List Float) :
    Range.check rule f points = .ok () := by
  rw [Range.check, requireSingle_eq_ok hf, ok_bind]
  split
  · exact requireSingle_eq_ok hf _
  · rfl

/-- The range of a function comes about where its grid does. -/
lemma Report.rangeOf_eq_ok {points : List Float} (h : s.gridPoints s.rangeGrid = .ok points) :
    Report.rangeOf s f = .ok (Range.of s.range f points) := by
  rw [Report.rangeOf, h, ok_bind, Range.check_eq_ok hf, ok_bind]

/-- The domain comes about where its grid does, also if it can be read off. -/
lemma Report.exists_domainOf (hs : s.GivesGrids) (text : List Char) :
    ∃ d, Report.domainOf s text f = .ok d := by
  obtain ⟨points, hpoints⟩ := hs.domain
  unfold Report.domainOf
  split
  · exact ⟨_, rfl⟩
  · exact ⟨_, by rw [hpoints, ok_bind, requireSingle_eq_ok hf, ok_bind]⟩

/-- **The report on a function comes about.** -/
lemma Report.exists_of (hs : s.GivesGrids) (text : List Char) :
    ∃ r, Report.of s text f = .ok r := by
  obtain ⟨points, hpoints⟩ := hs.injectivity
  obtain ⟨sweep, hsweep⟩ := hs.range
  obtain ⟨domain, hdomain⟩ := Report.exists_domainOf hf hs text
  have hsymmetry : Report.symmetryOf s f = .ok (Symmetry.of s.symmetry f) := by
    rw [Report.symmetryOf, Symmetry.check_eq_ok hf, ok_bind]
  have honeToOne : Report.oneToOne s f = .ok (Injectivity.holds s.injectivity f points) := by
    rw [Report.oneToOne, hpoints, ok_bind, Injectivity.check_eq_ok hf, ok_bind]
  unfold Report.of
  split
  · exact ⟨_, by
      rw [hsymmetry, ok_bind, honeToOne, ok_bind, hdomain, ok_bind,
        Report.rangeOf_eq_ok hf hsweep, ok_bind]⟩
  · exact ⟨_, rfl⟩

omit hf

/-! ## Sketches -/

/-- There is a report on every curve. -/
lemma Curve.exists_report (hs : s.GivesGrids) (curve : Curve) : ∃ r, curve.report s = .ok r :=
  Report.exists_of (fun x => Value.isSingle_ofFloat (curve.valueAt x)) hs curve.text

variable {raw : List Char}

/-- An input without a curve has no sketch, and the same is wrong with it. -/
lemma Sketch.ofInput_eq_error {cause : Rejection} (h : Curve.ofInput s.limits raw = .error cause) :
    Sketch.ofInput s raw = .error (.rejected cause) := by
  rw [Sketch.ofInput, h]

/-- An input with a curve has the sketch of that curve. -/
lemma Sketch.ofInput_eq_ok (hs : s.GivesGrids) {curve : Curve}
    (h : Curve.ofInput s.limits raw = .ok curve) :
    ∃ report, curve.report s = .ok report ∧
      Sketch.ofInput s raw = .ok ⟨trim raw, curve, report⟩ := by
  obtain ⟨report, hreport⟩ := curve.exists_report hs
  refine ⟨report, hreport, ?_⟩
  rw [Sketch.ofInput, h]
  simp only [hreport]

end CurveSketch
