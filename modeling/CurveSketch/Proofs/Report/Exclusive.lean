import CurveSketch.Proofs.Injectivity
import CurveSketch.Proofs.Number.Worth
import CurveSketch.Proofs.Report
import CurveSketch.Proofs.Symmetry

/-!
# Labels that exclude each other

Whether a function is even and whether it is one-to-one is found out at different points, with
different tolerances, and each of the two tests passes over points without a value.  Still no report
says both.

* `injectivityPoints` — the usual grid of the second test: the multiples of one half.
* `Report.of_cases` — the labels of a report, and the two tests that they come from.
* `Symmetry.exists_near` — a function that looks even takes nearly equal values at two points of the
  grid.
* **`Report.not_even_and_oneToOne`** — so it does not look one-to-one.
-/

namespace CurveSketch

open Number

/-- The multiples of one half between minus five and five. -/
def injectivityPoints : List Float :=
  [-5.0, -4.5, -4.0, -3.5, -3.0, -2.5, -2.0, -1.5, -1.0, -0.5, 0.0, 0.5, 1.0, 1.5, 2.0, 2.5, 3.0,
    3.5, 4.0, 4.5, 5.0]

/-- The usual grid holds these points exactly. -/
lemma gridPoints_injectivity_standard :
    ({} : Settings).gridPoints ({} : Settings).injectivityGrid = .ok injectivityPoints := by
  have hpoints : (Grid.spaced (-5.0) 5.0 20).map (Grid.toPlaces 10) = injectivityPoints := by
    decide +kernel
  rw [← hpoints]
  exact Grid.Span.points_eq_ok (n := 20) 10 (by decide +kernel) (by decide)

/-! ## Reports -/

/-- What a report says of symmetry and of being one-to-one is what the two tests say; a relation that
is no function has no labels. -/
lemma Report.of_cases {s : Settings} {text : List Char} {f : Float → Value Float} {r : Report}
    (h : Report.of s text f = .ok r) :
    (r.isEven = false ∧ r.isOneToOne = false ∧ r.properties = []) ∨
      ∃ points, s.gridPoints s.injectivityGrid = .ok points ∧
        r.isEven = (Symmetry.of s.symmetry f).even ∧
        r.isOneToOne = Injectivity.holds s.injectivity f points ∧
        r.properties = Report.labels (Symmetry.of s.symmetry f) r.isOneToOne := by
  unfold Report.of at h
  split_ifs at h
  · right
    obtain ⟨symmetry, hsymmetry, h⟩ := bind_eq_ok_iff.1 h
    obtain ⟨oneToOne, honeToOne, h⟩ := bind_eq_ok_iff.1 h
    obtain ⟨domain, -, h⟩ := bind_eq_ok_iff.1 h
    obtain ⟨range, -, h⟩ := bind_eq_ok_iff.1 h
    obtain ⟨_, -, hsymmetry⟩ := bind_eq_ok_iff.1 hsymmetry
    obtain ⟨points, hpoints, honeToOne⟩ := bind_eq_ok_iff.1 honeToOne
    obtain ⟨_, -, honeToOne⟩ := bind_eq_ok_iff.1 honeToOne
    obtain rfl := Except.ok.inj hsymmetry
    obtain rfl := Except.ok.inj honeToOne
    obtain rfl := Except.ok.inj h
    exact ⟨points, hpoints, rfl, rfl, rfl⟩
  · left
    obtain rfl := Except.ok.inj h
    exact ⟨rfl, rfl, rfl⟩

/-- The labels name exactly what a report says. -/
lemma Report.mem_labels {symmetry : Symmetry} {oneToOne : Bool} :
    ("Even" ∈ Report.labels symmetry oneToOne ↔ symmetry.even = true) ∧
      ("One-to-One" ∈ Report.labels symmetry oneToOne ↔ oneToOne = true) := by
  obtain ⟨even, odd⟩ := symmetry
  cases even <;> cases odd <;> cases oneToOne <;> decide

/-! ## Even functions -/

/-- **A function that looks even takes nearly equal values** at two points of the grid, which lie
opposite each other. -/
lemma Symmetry.exists_near {f : Float → Value Float}
    (h : (Symmetry.of ({} : Settings).symmetry f).even = true) :
    ∃ x y z, [x, -x].Sublist injectivityPoints ∧ f x = .finite y ∧ f (-x) = .finite z ∧
      Scalar.abs (z - y) < 1e-10 := by
  let left : List Float := [-3.0, -2.0, -1.0, -0.5]
  have hpoints : (Symmetry.probePoints : List Float).Perm (left ++ left.map fun x => -x) := by
    have heq : Symmetry.probePoints = left ++ (left.map fun x => -x).reverse := by decide +kernel
    rw [heq]
    exact (List.reverse_perm _).append_left left
  have hratio : ∀ m ≤ left.length, ∀ k ≤ m, 0 < m →
      Symmetry.isEnough (0.8 : Float) k (2 * m) = false := by
    change ∀ m ≤ 4, ∀ k ≤ m, 0 < m → Symmetry.isEnough (0.8 : Float) k (2 * m) = false
    decide +kernel
  obtain ⟨x, hx, ⟨y, z⟩, hpair, hmatch⟩ :=
    Symmetry.exists_matchesEven .standard hpoints (by decide +kernel) hratio h
  have hgrid : ∀ x ∈ left, [x, -x].Sublist injectivityPoints := by decide +kernel
  obtain ⟨hy, hz⟩ := Symmetry.pair?_eq_some_iff.1 hpair
  exact ⟨x, y, z, hgrid x hx, hy, hz, of_decide_eq_true hmatch⟩

/-- What the first test takes for equal, the second one does too. -/
lemma not_differ_of_near {y z : Float} (h : Scalar.abs (z - y) < 1e-10) :
    ¬ Injectivity.Differ ({} : Settings).injectivity.tolerance y z := by
  have hfinite : (1e-10 : Float).isFinite = true ∧ (1e-8 : Float).isFinite = true := by
    decide +kernel
  have hworth : worth 1e-10 ≤ worth 1e-8 :=
    (le_iff_worth_le hfinite.1 hfinite.2).1 (by decide +kernel)
  exact not_not.2 (lt_of_lt_of_worth_le hfinite.1 hfinite.2 h hworth)

/-- **No function is reported to be even and one-to-one**, and the labels do not say so either. -/
theorem Report.not_even_and_oneToOne (text : List Char) (g : Float → Float) :
    ∃ r, Report.of {} text (fun x => .ofFloat (g x)) = .ok r ∧
      ¬ (r.isEven = true ∧ r.isOneToOne = true) ∧
      ¬ ("Even" ∈ r.properties ∧ "One-to-One" ∈ r.properties) := by
  obtain ⟨r, hr⟩ := Report.exists_of (fun x => Value.isSingle_ofFloat (g x)) givesGrids_standard text
  refine ⟨r, hr, ?_⟩
  rcases Report.of_cases hr with ⟨heven, -, hlabels⟩ | ⟨points, hpoints, heven, hone, hlabels⟩
  · simp [heven, hlabels]
  · obtain rfl := Except.ok.inj (gridPoints_injectivity_standard.symm.trans hpoints)
    have hboth : ¬ (r.isEven = true ∧ r.isOneToOne = true) := by
      rw [heven, hone]
      rintro ⟨hsymmetric, hinjective⟩
      obtain ⟨x, y, z, hgrid, hy, hz, hnear⟩ := Symmetry.exists_near hsymmetric
      exact not_differ_of_near hnear (Injectivity.differ_of_holds hinjective hgrid hy hz)
    refine ⟨hboth, ?_⟩
    rwa [hlabels, Report.mem_labels.1, Report.mem_labels.2, ← heven]

end CurveSketch
