import CurveSketch.Proofs.Number.Worth
import CurveSketch.Scalar
import Mathlib.Algebra.Order.Ring.Abs
import Mathlib.Tactic.NormNum

/-!
# Numbers and their order

The analyses are written for any type of numbers.  Most of what they find follows from the order of
the numbers alone.

* `Scalar.OrderedBy` — numbers are compared by the rational numbers that they are worth.
* `Scalar.orderedBy_float` — finite binary64 numbers are.
* `Scalar ℚ`, `Scalar.orderedBy_rat` — the rational numbers, over which the analyses compute without
  rounding.
-/

namespace CurveSketch

open Number

/-- Numbers with a property are compared by what they are worth. -/
structure Scalar.OrderedBy {α : Type} [Scalar α] (worth : α → ℚ) (P : α → Prop) : Prop where
  lt_iff : ∀ {a b : α}, P a → P b → (a < b ↔ worth a < worth b)
  le_iff : ∀ {a b : α}, P a → P b → (a ≤ b ↔ worth a ≤ worth b)

namespace Scalar.OrderedBy

variable {α : Type} [Scalar α] {worth : α → ℚ} {P : α → Prop} {a b : α}

lemma worth_least (h : OrderedBy worth P) (ha : P a) (hb : P b) :
    worth (least a b) = min (worth a) (worth b) := by
  unfold least
  split_ifs with hlt <;> rw [h.lt_iff hb ha] at hlt
  · exact (min_eq_right hlt.le).symm
  · exact (min_eq_left (not_lt.1 hlt)).symm

lemma worth_greatest (h : OrderedBy worth P) (ha : P a) (hb : P b) :
    worth (greatest a b) = max (worth a) (worth b) := by
  unfold greatest
  split_ifs with hlt <;> rw [h.lt_iff ha hb] at hlt
  · exact (max_eq_right hlt.le).symm
  · exact (max_eq_left (not_lt.1 hlt)).symm

end Scalar.OrderedBy

lemma Scalar.least_eq_or {α : Type} [Scalar α] (a b : α) : least a b = a ∨ least a b = b := by
  unfold least
  split_ifs
  exacts [.inr rfl, .inl rfl]

lemma Scalar.greatest_eq_or {α : Type} [Scalar α] (a b : α) :
    greatest a b = a ∨ greatest a b = b := by
  unfold greatest
  split_ifs
  exacts [.inr rfl, .inl rfl]

/-- Finite numbers are in the order of their exact values. -/
lemma Scalar.orderedBy_float : Scalar.OrderedBy Number.worth fun x => x.isFinite = true where
  lt_iff := lt_iff_worth_lt
  le_iff := le_iff_worth_le

/-! ## Exact arithmetic -/

/-- Rational numbers are computed with exactly.  Halves go to the even one. -/
instance : Scalar ℚ where
  decideLt := inferInstance
  decideLe := inferInstance
  ofInt n := n
  whole q := withSign (q < 0) (roundDiv q.num.natAbs q.den)
  tenth q := withSign (q < 0) (roundScaled q.num.natAbs q.den 1 / 10)

@[simp] lemma Scalar.ofInt_rat (n : Int) : (Scalar.ofInt n : ℚ) = n := rfl

@[simp] lemma Scalar.abs_rat (q : ℚ) : Scalar.abs q = |q| := by
  unfold Scalar.abs
  split_ifs with h
  · exact (abs_of_neg h).symm
  · exact (abs_of_nonneg (not_lt.1 h)).symm

@[simp] lemma Scalar.distance_rat (p q : ℚ) : Scalar.distance p q = |p - q| := by
  rw [Scalar.distance, Scalar.abs_rat]

/-- Rational numbers are worth themselves. -/
lemma Scalar.orderedBy_rat : Scalar.OrderedBy (fun q : ℚ => q) fun _ => True where
  lt_iff _ _ := Iff.rfl
  le_iff _ _ := Iff.rfl

@[simp] lemma Scalar.least_rat (a b : ℚ) : Scalar.least a b = min a b :=
  Scalar.orderedBy_rat.worth_least trivial trivial

@[simp] lemma Scalar.greatest_rat (a b : ℚ) : Scalar.greatest a b = max a b :=
  Scalar.orderedBy_rat.worth_greatest trivial trivial

end CurveSketch
