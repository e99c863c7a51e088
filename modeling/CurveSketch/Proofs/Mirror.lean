import CurveSketch.Proofs.Report.Exclusive
import CurveSketch.Proofs.Scalar
import Mathlib.Data.List.Perm.Basic
import Mathlib.Tactic.Ring

/-!
# Functions seen in a mirror

The graph of a function turned over about the vertical axis passes the points of a grid the other
way round.  Computed exactly, no analysis tells the two graphs apart.

* `mirrored` — the function seen in a mirror.
* `Opposed` — points that stay the same points when they change their sign; `multiples` are.
* `Symmetry.of_mirrored`, `Injectivity.holds_mirrored` — pairs and values come in another order.
* `Range.Sweep.add_right_comm` — two values may be swapped in a sweep, so that
  `Range.Sweep.of_perm` any order gives the same.
* `Range.ofShape?_reverse` — the rules for the far values read the same from either end: what rises
  from the left falls from the right.
* **`analyses_mirrored`** — the three analyses together.
-/

namespace CurveSketch

/-- The function seen in a mirror. -/
def mirrored {α : Type} [Neg α] (f : α → Value α) (x : α) : Value α := f (-x)

/-- Points that stay the same points when they change their sign. -/
def Opposed {α : Type} [Neg α] (points : List α) : Prop :=
  (points.map fun x => -x).Perm points

/-- What is found at the opposite points is found at the points, in another order. -/
lemma Opposed.filterMap {α β : Type} [Neg α] {points : List α} (h : Opposed points)
    (g : α → Option β) : (points.filterMap fun x => g (-x)).Perm (points.filterMap g) := by
  have hfound := List.Perm.filterMap g h
  rwa [List.filterMap_map] at hfound

/-- The multiples of a step, so many on either side of zero. -/
def multiples (step : ℚ) (n : ℕ) : List ℚ :=
  (List.range (2 * n + 1)).map fun i : ℕ => ((i : ℚ) - n) * step

lemma length_multiples (step : ℚ) (n : ℕ) : (multiples step n).length = 2 * n + 1 := by
  rw [multiples, List.length_map, List.length_range]

lemma getElem_multiples {step : ℚ} {n i : ℕ} (hi : i < (multiples step n).length) :
    (multiples step n)[i] = ((i : ℚ) - n) * step := by
  simp only [multiples, List.getElem_map, List.getElem_range]

lemma map_neg_multiples (step : ℚ) (n : ℕ) :
    (multiples step n).map (fun x => -x) = (multiples step n).reverse := by
  apply List.ext_getElem
  · rw [List.length_map, List.length_reverse]
  · intro i hi _
    rw [List.length_map, length_multiples] at hi
    rw [List.getElem_map, List.getElem_reverse, getElem_multiples, getElem_multiples,
      length_multiples, show 2 * n + 1 - 1 - i = 2 * n - i by omega, Nat.cast_sub (by omega)]
    push_cast
    ring

lemma opposed_multiples (step : ℚ) (n : ℕ) : Opposed (multiples step n) := by
  rw [Opposed, map_neg_multiples]
  exact List.reverse_perm _

/-- The usual grid on which a function is tested for being one-to-one holds these numbers exactly. -/
lemma worth_injectivityPoints :
    injectivityPoints.map Number.worth = multiples (1 / 2) 10 := by
  decide +kernel

/-! ## Symmetry -/

/-- Whether a function is even or odd does not depend on the order of its pairs. -/
lemma Symmetry.of_mirrored {α : Type} [Scalar α] {rule : Rule α} (hpoints : Opposed rule.points)
    (f : α → Value α) : Symmetry.of rule (mirrored f) = Symmetry.of rule f := by
  have hpairs : (pairs (mirrored f) rule.points).Perm (pairs f rule.points) :=
    hpoints.filterMap (pair? f)
  unfold Symmetry.of
  simp only [hpairs.isEmpty_eq, hpairs.countP_eq, hpairs.length_eq]

/-! ## One-to-one functions -/

/-- Whether any two values differ does not depend on their order. -/
lemma Injectivity.holds_mirrored {points : List ℚ} (hpoints : Opposed points) (rule : Rule ℚ)
    (f : ℚ → Value ℚ) : holds rule (mirrored f) points = holds rule f points := by
  have hvalues : (finiteValues (mirrored f) points).Perm (finiteValues f points) :=
    hpoints.filterMap fun x => (f x).finite?
  have hsymm : ∀ {y z : ℚ}, Differ rule.tolerance y z → Differ rule.tolerance z y := by
    intro y z h
    rwa [Differ, Scalar.abs_rat, abs_sub_comm, ← Scalar.abs_rat]
  rw [Bool.eq_iff_iff, holds_iff, holds_iff, hvalues.pairwise_iff hsymm, hvalues.length_eq]

/-! ## Ranges -/

namespace Range

/-- **Two values may be swapped in a sweep.** -/
lemma Sweep.add_right_comm (s : Sweep ℚ) (v w : Value ℚ) :
    (s.add v).add w = (s.add w).add v := by
  cases v <;> cases w <;> try rfl
  -- Only two finite values meet in the extremes and in the count.
  case finite.finite y z =>
    obtain ⟨extremes, count, up, down⟩ := s
    cases extremes with
    | none => simp only [Sweep.add, Scalar.least_rat, Scalar.greatest_rat, min_comm, max_comm]
    | some p =>
        simp only [Sweep.add, Scalar.least_rat, Scalar.greatest_rat, min_right_comm, max_right_comm]

/-- A sweep finds the same of the same values in any order. -/
lemma Sweep.of_perm {f g : ℚ → Value ℚ} {points points' : List ℚ}
    (h : (points.map f).Perm (points'.map g)) : Sweep.of f points = Sweep.of g points' := by
  have hfold := h.foldl_eq' (fun v _ w _ s => add_right_comm s v w) Sweep.empty
  rwa [List.foldl_map, List.foldl_map] at hfold

lemma Sweep.of_mirrored {points : List ℚ} (hpoints : Opposed points) (f : ℚ → Value ℚ) :
    Sweep.of (mirrored f) points = Sweep.of f points := by
  have hvalues := List.Perm.map f hpoints
  rw [List.map_map] at hvalues
  exact of_perm hvalues

variable {rule : Rule ℚ} {f : ℚ → Value ℚ} {far : List ℚ} {low high : ℚ}

/-- **The rules for the far values read the same from either end.** -/
lemma ofShape?_reverse (a b c d e : ℚ) :
    ofShape? rule [e, d, c, b, a] low high = ofShape? rule [a, b, c, d, e] low high := by
  have hrising : (rule.large < e ∧ rule.large < a ∧ c ≤ Scalar.least e a) ↔
      rule.large < a ∧ rule.large < e ∧ c ≤ Scalar.least a e := by
    rw [Scalar.least_rat, Scalar.least_rat, min_comm]
    tauto
  have hfalling : (e < -rule.large ∧ a < -rule.large ∧ Scalar.greatest e a ≤ c) ↔
      a < -rule.large ∧ e < -rule.large ∧ Scalar.greatest a e ≤ c := by
    rw [Scalar.greatest_rat, Scalar.greatest_rat, max_comm]
    tauto
  -- what rises from the left falls from the right
  have hmonotone : ((e < d ∧ d < c ∧ c < b ∧ b < a) ∨ (d < e ∧ c < d ∧ b < c ∧ a < b)) ↔
      (a < b ∧ b < c ∧ c < d ∧ d < e) ∨ (b < a ∧ c < b ∧ d < c ∧ e < d) := by
    have hturn (p q r s : Prop) : p ∧ q ∧ r ∧ s ↔ s ∧ r ∧ q ∧ p := by
      constructor <;> rintro ⟨h₁, h₂, h₃, h₄⟩ <;> exact ⟨h₄, h₃, h₂, h₁⟩
    rw [or_comm, hturn (d < e), hturn (e < d)]
  have hslope (first last : ℚ) : Scalar.abs ((a - e) / (last - first)) =
      Scalar.abs ((e - a) / (last - first)) := by
    rw [Scalar.abs_rat, Scalar.abs_rat, ← neg_sub e a, neg_div, abs_neg]
  unfold ofShape?
  rcases rule.farPoints with _ | ⟨first, _ | ⟨_, _ | ⟨_, _ | ⟨_, _ | ⟨last, _ | _⟩⟩⟩⟩⟩
  case cons.cons.cons.cons.cons.nil => simp only [hrising, hfalling, hmonotone, hslope]
  -- other numbers of far points give no description
  all_goals rfl

/-- Points taken from the other end have their values from the other end. -/
lemma farValues?_reverse (points : List ℚ) :
    farValues? f points.reverse = (farValues? f points).map List.reverse := by
  induction points with
  | nil => rfl
  | cons x points ih =>
      rw [List.reverse_cons, farValues?, List.mapM_append, farValues?, List.mapM_cons,
        List.mapM_cons, List.mapM_nil]
      rw [farValues?, farValues?] at ih
      rw [ih]
      cases points.mapM fun x => (f x).finite? <;> cases (f x).finite? <;> simp

/-- There are as many far values as far points. -/
lemma length_of_farValues? {points : List ℚ} (h : farValues? f points = some far) :
    far.length = points.length := by
  induction points generalizing far with
  | nil => simp_all [farValues?]
  | cons x points ih =>
      rw [farValues?, List.mapM_cons] at h
      obtain ⟨y, -, h⟩ := Option.bind_eq_some_iff.1 h
      obtain ⟨ys, hys, h⟩ := Option.bind_eq_some_iff.1 h
      obtain rfl := Option.some.inj h
      rw [List.length_cons, List.length_cons, ih hys]

/-- Five points have five far values. -/
lemma exists_of_farValues? {points : List ℚ} (h : farValues? f points = some far)
    (hlength : points.length = 5) : ∃ a b c d e, far = [a, b, c, d, e] := by
  match far, (length_of_farValues? h).trans hlength with
  | [a, b, c, d, e], _ => exact ⟨a, b, c, d, e, rfl⟩

/-- The far values give the same description of the mirrored function. -/
lemma shape?_mirrored (hpoints : rule.farPoints.map (fun x => -x) = rule.farPoints.reverse)
    (hlength : rule.farPoints.length = 5) :
    shape? rule (mirrored f) low high = shape? rule f low high := by
  have hfar : farValues? (mirrored f) rule.farPoints =
      (farValues? f rule.farPoints).map List.reverse := by
    rw [← farValues?_reverse, ← hpoints, farValues?, farValues?, List.mapM_map]
    rfl
  rw [shape?, shape?, hfar]
  cases h : farValues? f rule.farPoints with
  | none => rfl
  | some far =>
      obtain ⟨a, b, c, d, e, rfl⟩ := exists_of_farValues? h hlength
      exact ofShape?_reverse a b c d e

/-- **A function and its mirror image have the same range.** -/
lemma of_mirrored {points : List ℚ} (hpoints : Opposed points)
    (hfar : rule.farPoints.map (fun x => -x) = rule.farPoints.reverse)
    (hlength : rule.farPoints.length = 5) :
    Range.of rule (mirrored f) points = Range.of rule f points := by
  simp only [Range.of, Sweep.of_mirrored hpoints, shape?_mirrored hfar hlength]

end Range

/-- **Computed exactly, no analysis tells a function from its mirror image**: not whether it is even
or odd, not whether it is one-to-one on the multiples of one half, which are the numbers of the usual
grid, and not its range over the multiples of one tenth. -/
theorem analyses_mirrored (f : ℚ → Value ℚ) :
    Symmetry.of .standard (mirrored f) = Symmetry.of .standard f ∧
      Injectivity.holds .standard (mirrored f) (multiples (1 / 2) 10) =
        Injectivity.holds .standard f (multiples (1 / 2) 10) ∧
      Range.of .standard (mirrored f) (multiples (1 / 10) 500) =
        Range.of .standard f (multiples (1 / 10) 500) ∧
      ∃ points, ({} : Settings).gridPoints ({} : Settings).injectivityGrid = .ok points ∧
        points.map Number.worth = multiples (1 / 2) 10 := by
  have hprobes : Opposed (Symmetry.probePoints : List ℚ) := by
    have hreverse : (Symmetry.probePoints : List ℚ).map (fun x => -x) =
        Symmetry.probePoints.reverse := by decide +kernel
    rw [Opposed, hreverse]
    exact List.reverse_perm _
  exact ⟨Symmetry.of_mirrored hprobes f, Injectivity.holds_mirrored (opposed_multiples _ _) _ f,
    Range.of_mirrored (opposed_multiples _ _) (by decide +kernel) rfl,
    injectivityPoints, gridPoints_injectivity_standard, worth_injectivityPoints⟩

end CurveSketch
