import CurveSketch.Injectivity
import CurveSketch.Proofs.Report
import Mathlib.Data.List.Perm.Basic
import Mathlib.Tactic.Common

/-!
# Values that differ

The finite values of a function are looked at one after another, each compared with those before it,
and the first that is nearly equal to one of these ends the test.  This file says what the test
finds, by any two points of the grid.

* `Injectivity.Differ` — a value is not equal to one that came before it.
* **`Injectivity.isApart_iff`** — the values pass one by one exactly if any two of them differ.
* `Injectivity.holds_iff` — the whole test, told that way.
* `Injectivity.differ_of_holds` — so a one-to-one function differs at any two points of the grid.
* `Injectivity.finiteValues_ofFloat` — what is looked at: the values that are finite, in order.
* `Report.oneToOne_eq` — the test is made on the grid that the settings give, and never fails there.
* **`Report.oneToOne_iff_pairs`** — a function passes exactly if enough of its values are finite and
  no two finite values at different places are nearly equal.  The other values, and how many of them
  there are and where, make no difference.
-/

namespace CurveSketch

namespace Injectivity

variable {α : Type} [Scalar α] {tolerance : α} {seen ys : List α}

/-- A value differs from one that came before it. -/
def Differ (tolerance before y : α) : Prop := ¬ Scalar.abs (y - before) < tolerance

/-- **Values pass one by one exactly if any two of them differ**, and all of them differ from what
was seen before. -/
lemma isApart_iff : isApart tolerance seen ys = true ↔
    ys.Pairwise (Differ tolerance) ∧ ∀ z ∈ seen, ∀ y ∈ ys, Differ tolerance z y := by
  induction ys generalizing seen with
  | nil => simp [isApart]
  | cons y ys ih =>
      have hfirst : (seen.any fun z => decide (Scalar.abs (y - z) < tolerance)) = false ↔
          ∀ z ∈ seen, Differ tolerance z y := by
        simp [Differ]
      rw [isApart, Bool.and_eq_true, Bool.not_eq_true', hfirst, ih, List.pairwise_cons]
      simp only [List.forall_mem_cons]
      constructor
      · rintro ⟨hy, hys, hrest, hseen⟩
        exact ⟨⟨hrest, hys⟩, fun z hz => ⟨hy z hz, hseen z hz⟩⟩
      · rintro ⟨⟨hrest, hys⟩, hseen⟩
        exact ⟨fun z hz => (hseen z hz).1, hys, hrest, fun z hz => (hseen z hz).2⟩

variable {rule : Rule α} {f : α → Value α} {points : List α}

/-- A function looks one-to-one exactly if any two of its finite values differ and there are
enough of them. -/
lemma holds_iff : holds rule f points = true ↔
    (finiteValues f points).Pairwise (Differ rule.tolerance) ∧
      rule.minSamples ≤ (finiteValues f points).length := by
  simp [holds, isApart_iff]

/-- A function that looks one-to-one differs at any two points of the grid. -/
lemma differ_of_holds {x x' y y' : α} (h : holds rule f points = true)
    (hpoints : [x, x'].Sublist points) (hx : f x = .finite y) (hx' : f x' = .finite y') :
    Differ rule.tolerance y y' := by
  have hvalues := hpoints.filterMap fun x => (f x).finite?
  simp only [List.filterMap_cons, hx, hx', Value.finite?, List.filterMap_nil] at hvalues
  exact List.pairwise_pair.1 ((holds_iff.1 h).1.sublist hvalues)

end Injectivity

/-! ## Reports -/

variable (g : Float → Float)

lemma Value.finite?_ofFloat (y : Float) :
    (Value.ofFloat y).finite? = if y.isFinite then some y else none := by
  unfold Value.ofFloat
  split_ifs <;> rfl

/-- The finite values, in order. -/
lemma Injectivity.finiteValues_ofFloat (points : List Float) :
    finiteValues (fun x => .ofFloat (g x)) points = (points.map g).filter Float.isFinite := by
  rw [finiteValues, ← List.filterMap_eq_filter, List.filterMap_map]
  refine List.filterMap_congr fun x _ => ?_
  rw [Value.finite?_ofFloat]
  rfl

/-- The test is made on the grid that the settings give. -/
lemma Report.oneToOne_eq (s : Settings) :
    Report.oneToOne s (fun x => .ofFloat (g x)) =
      (s.gridPoints s.injectivityGrid).map
        (Injectivity.holds s.injectivity fun x => .ofFloat (g x)) := by
  rw [Report.oneToOne]
  cases s.gridPoints s.injectivityGrid with
  | error e => rfl
  | ok points =>
      rw [ok_bind, Injectivity.check_eq_ok fun x => Value.isSingle_ofFloat (g x)]
      rfl

/-- **A function is reported to be one-to-one** exactly if enough of its values on the grid are
finite and no two finite ones at different places are nearly equal.  Only the finite values count,
in whatever places other values stand among them. -/
theorem Report.oneToOne_iff_pairs :
    (∀ s : Settings, Report.oneToOne s (fun x => .ofFloat (g x)) =
      (s.gridPoints s.injectivityGrid).map
        (Injectivity.holds s.injectivity fun x => .ofFloat (g x))) ∧
    ∀ (rule : Injectivity.Rule Float) (points : List Float),
      (Injectivity.holds rule (fun x => .ofFloat (g x)) points = true ↔
        rule.minSamples ≤ points.countP (fun x => (g x).isFinite) ∧
          ∀ i j (hij : i < j) (hj : j < points.length),
            (g points[i]).isFinite = true → (g points[j]).isFinite = true →
              ¬ Scalar.abs (g points[j] - g points[i]) < rule.tolerance) ∧
      ∀ (g' : Float → Float) (points' : List Float),
        (points'.map g').filter Float.isFinite = (points.map g).filter Float.isFinite →
          Injectivity.holds rule (fun x => .ofFloat (g' x)) points' =
            Injectivity.holds rule (fun x => .ofFloat (g x)) points := by
  refine ⟨Report.oneToOne_eq g, fun rule points => ⟨?_, fun g' points' hsame => ?_⟩⟩
  · rw [Injectivity.holds_iff, Injectivity.finiteValues_ofFloat, List.pairwise_filter,
      List.pairwise_map, List.pairwise_iff_getElem, ← List.countP_eq_length_filter,
      List.countP_map, and_comm]
    refine and_congr_right fun _ => ⟨fun h i j hij hj => ?_, fun h i j _ hj hij => ?_⟩
    · exact h i j _ hj hij
    · exact h i j hij hj
  · rw [Injectivity.holds, Injectivity.holds, Injectivity.finiteValues_ofFloat,
      Injectivity.finiteValues_ofFloat, hsame]

end CurveSketch
