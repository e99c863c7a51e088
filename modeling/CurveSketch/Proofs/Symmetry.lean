import CurveSketch.Symmetry
import Mathlib.Data.List.Perm.Basic
import Mathlib.Tactic.Common

/-!
# Pairs of values at opposite points

A function is probed at points and their opposites, so every pair of values comes twice, the second
time the other way round.

* `Symmetry.pair?_neg`, `Symmetry.pairs_map_neg` — the pairs at the opposite points.
* **`Symmetry.exists_matchesEven`** — where more than half of the pairs have to match, an even
  function has a match among the points of either side.  It does not matter for that whether a match
  turned round is a match: the other side has no more pairs than this one.
-/

namespace CurveSketch.Symmetry

variable {α : Type} [Scalar α] {f : α → Value α} {rule : Rule α} {points left : List α} {x : α}

lemma pair?_eq_some_iff {p : α × α} :
    pair? f x = some p ↔ f x = .finite p.1 ∧ f (-x) = .finite p.2 := by
  obtain ⟨y, z⟩ := p
  unfold pair?
  split
  · next hy hz => simp [hy, hz]
  · next hnone =>
    simp only [reduceCtorEq, false_iff]
    rintro ⟨hy, hz⟩
    exact hnone y z hy hz

/-- At the opposite point the pair is the other way round. -/
lemma pair?_neg (hx : - -x = x) : pair? f (-x) = (pair? f x).map Prod.swap := by
  simp only [pair?, hx]
  cases f x <;> cases f (-x) <;> rfl

lemma pairs_map_neg (h : ∀ x ∈ points, - -x = x) :
    pairs f (points.map fun x => -x) = (pairs f points).map Prod.swap := by
  rw [pairs, pairs, List.filterMap_map, List.map_filterMap]
  exact List.filterMap_congr fun x hx => pair?_neg (h x hx)

/-- A function that looks even has a pair. -/
lemma isEnough_of_even (h : (Symmetry.of rule f).even = true) :
    pairs f rule.points ≠ [] ∧
      isEnough rule.ratio ((pairs f rule.points).countP (matchesEven rule.tolerance))
        (pairs f rule.points).length = true := by
  simp only [Symmetry.of] at h
  split_ifs at h with hempty
  exact ⟨fun hnil => hempty (by simp [hnil]), h⟩

/-- **A function that looks even has a match on the left**, if points lie opposite each other and
more than half of the pairs have to match. -/
lemma exists_matchesEven (rule : Rule α)
    (hpoints : rule.points.Perm (left ++ left.map fun x => -x))
    (hneg : ∀ x ∈ left, - -x = x)
    (hratio : ∀ m ≤ left.length, ∀ k ≤ m, 0 < m → isEnough rule.ratio k (2 * m) = false)
    (heven : (Symmetry.of rule f).even = true) :
    ∃ x ∈ left, ∃ p, pair? f x = some p ∧ matchesEven rule.tolerance p = true := by
  obtain ⟨hne, henough⟩ := isEnough_of_even heven
  have hpairs : (pairs f rule.points).Perm (pairs f left ++ (pairs f left).map Prod.swap) := by
    have hfound := hpoints.filterMap (pair? f)
    rw [List.filterMap_append] at hfound
    rwa [← pairs_map_neg hneg]
  have hlength : (pairs f rule.points).length = 2 * (pairs f left).length := by
    rw [hpairs.length_eq, List.length_append, List.length_map]
    omega
  have hpos : 0 < (pairs f left).length := by
    have := List.length_pos_iff.2 hne
    omega
  have hleft : (pairs f left).length ≤ left.length := List.length_filterMap_le _ _
  by_contra hnone
  -- without a match on the left, only the pairs of the right side are left to match
  have hcount : (pairs f left).countP (matchesEven rule.tolerance) = 0 := by
    rw [List.countP_eq_zero]
    intro p hp hmatch
    obtain ⟨x, hx, hpair⟩ := List.mem_filterMap.1 hp
    exact hnone ⟨x, hx, p, hpair, hmatch⟩
  have hhalf : (pairs f rule.points).countP (matchesEven rule.tolerance) ≤ (pairs f left).length := by
    rw [hpairs.countP_eq, List.countP_append, hcount, Nat.zero_add]
    exact Nat.le_trans List.countP_le_length (Nat.le_of_eq (List.length_map _))
  rw [hlength, hratio _ hleft _ hhalf hpos] at henough
  cases henough

end CurveSketch.Symmetry
