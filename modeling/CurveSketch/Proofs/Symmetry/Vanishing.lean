import CurveSketch.Proofs.Scalar
import CurveSketch.Proofs.Symmetry
import Mathlib.Tactic.FieldSimp
import Mathlib.Tactic.Linarith

/-!
# Functions that look both even and odd

A function that is even and odd is zero.  One that looks even and odd only looks so at some of the
probes, and not at the same ones.

* `Symmetry.Vanishes` — both values of a pair are nearly zero.
* `Symmetry.vanishes_of_matches` — so they are where the pair matches both ways.
* `Symmetry.countP_add_countP_le` — and where many pairs match one way and many the other, many
  match both ways.
* **`Symmetry.le_countP_vanishes`** — how many pairs vanish, by the part of them that has to match.
* **`Symmetry.vanishes_of_even_of_odd`** — three of five, by the usual rule.
-/

namespace CurveSketch.Symmetry

variable {tolerance : ℚ} {p : ℚ × ℚ} {rule : Rule ℚ} {f : ℚ → Value ℚ}

/-- Both values of a pair are nearly zero. -/
def Vanishes (tolerance : ℚ) (p : ℚ × ℚ) : Prop := |p.1| < tolerance ∧ |p.2| < tolerance

instance : DecidablePred (Vanishes tolerance) := fun _ => inferInstanceAs (Decidable (_ ∧ _))

/-- Two numbers that are nearly equal and nearly opposite are nearly zero. -/
lemma vanishes_of_matches (heven : matchesEven tolerance p = true)
    (hodd : matchesOdd tolerance p = true) : Vanishes tolerance p := by
  simp only [matchesEven, matchesOdd, Scalar.abs_rat, decide_eq_true_eq] at heven hodd
  obtain ⟨hbelow, habove⟩ := abs_lt.1 heven
  obtain ⟨hbelow', habove'⟩ := abs_lt.1 hodd
  exact ⟨abs_lt.2 ⟨by linarith, by linarith⟩, abs_lt.2 ⟨by linarith, by linarith⟩⟩

/-- What many match one way and many another, many match both ways. -/
lemma countP_add_countP_le {β : Type} {q r both : β → Bool}
    (h : ∀ b, q b = true → r b = true → both b = true) (bs : List β) :
    bs.countP q + bs.countP r ≤ bs.length + bs.countP both := by
  have hsplit := List.countP_eq_countP_filter_add bs q r
  have hboth : (bs.filter r).countP q ≤ bs.countP both := by
    rw [List.countP_filter]
    exact List.countP_mono_left fun b _ hb => by
      obtain ⟨hq, hr⟩ := Bool.and_eq_true_iff.1 hb
      exact h b hq hr
  have hrest : (bs.filter fun b => !r b).countP q ≤ bs.countP fun b => !r b := by
    rw [List.countP_eq_length_filter (p := fun b => !r b)]
    exact List.countP_le_length
  have hall := List.length_eq_countP_add_countP r (l := bs)
  simp only [Bool.not_eq_true, Bool.decide_eq_false] at hall
  omega

/-- So many are enough of all if they are at least the part of them. -/
lemma isEnough_iff {ratio : ℚ} {some all : ℕ} (hall : 0 < all) :
    isEnough ratio some all = true ↔ ratio * all ≤ some := by
  have hpos : (0 : ℚ) < all := by exact_mod_cast hall
  rw [isEnough, decide_eq_true_eq]
  exact le_div_iff₀ hpos

/-- Where there is a pair, both ways are decided by counting. -/
lemma of_eq (hne : pairs f rule.points ≠ []) :
    Symmetry.of rule f =
      ⟨isEnough rule.ratio ((pairs f rule.points).countP (matchesEven rule.tolerance))
          (pairs f rule.points).length,
        isEnough rule.ratio ((pairs f rule.points).countP (matchesOdd rule.tolerance))
          (pairs f rule.points).length⟩ := by
  have hempty : ¬ (pairs f rule.points).isEmpty = true := by simpa using hne
  exact if_neg hempty

/-- **How many pairs vanish**: where `ratio` of them have to match either way, those that do not
match both ways are at most `1 - ratio` of them twice over. -/
lemma le_countP_vanishes (heven : (Symmetry.of rule f).even = true)
    (hodd : (Symmetry.of rule f).odd = true) :
    (2 * rule.ratio - 1) * (pairs f rule.points).length ≤
      (pairs f rule.points).countP fun p => Vanishes rule.tolerance p := by
  obtain ⟨hne, heven⟩ := isEnough_of_even heven
  rw [of_eq hne] at hodd
  have hpos := List.length_pos_iff.2 hne
  have hmany := (isEnough_iff hpos).1 heven
  have hmany' := (isEnough_iff hpos).1 hodd
  have hboth : ∀ p, matchesEven rule.tolerance p = true → matchesOdd rule.tolerance p = true →
      decide (Vanishes rule.tolerance p) = true :=
    fun p h h' => decide_eq_true (vanishes_of_matches h h')
  have hcount := countP_add_countP_le hboth (pairs f rule.points)
  have hcount' := (Nat.cast_le (α := ℚ)).2 hcount
  push_cast at hcount'
  linarith

/-- **A function that looks both even and odd vanishes** at three of five pairs of finite values,
and there is one. -/
theorem vanishes_of_even_of_odd (f : ℚ → Value ℚ) (heven : (Symmetry.of .standard f).even = true)
    (hodd : (Symmetry.of .standard f).odd = true) :
    pairs f (Rule.standard : Rule ℚ).points ≠ [] ∧
      3 / 5 * ((pairs f (Rule.standard : Rule ℚ).points).length : ℚ) ≤
        (pairs f (Rule.standard : Rule ℚ).points).countP fun p =>
          |p.1| < (Rule.standard : Rule ℚ).tolerance ∧
            |p.2| < (Rule.standard : Rule ℚ).tolerance := by
  have hratio : 2 * (Rule.standard : Rule ℚ).ratio - 1 = 3 / 5 := by
    change 2 * (0.8 : ℚ) - 1 = 3 / 5
    norm_num
  have hbound := le_countP_vanishes heven hodd
  rw [hratio] at hbound
  exact ⟨(isEnough_of_even heven).1, hbound⟩

/-- A line that is nearly flat, with a hole at a probe, looks both even and odd. -/
theorem vanishes_of_even_of_odd_flat :
    let f : ℚ → Value ℚ := fun x => if x = 3 then .undefined else .finite (x / 10 ^ 12)
    (Symmetry.of .standard f).even = true ∧ (Symmetry.of .standard f).odd = true ∧
      (pairs f (Rule.standard : Rule ℚ).points).length = 6 ∧
      pairs f (Rule.standard : Rule ℚ).points ≠ [] ∧
      3 / 5 * ((pairs f (Rule.standard : Rule ℚ).points).length : ℚ) ≤
        (pairs f (Rule.standard : Rule ℚ).points).countP fun p =>
          |p.1| < (Rule.standard : Rule ℚ).tolerance ∧
            |p.2| < (Rule.standard : Rule ℚ).tolerance := by
  intro f
  have heven : (Symmetry.of .standard f).even = true := by decide +kernel
  have hodd : (Symmetry.of .standard f).odd = true := by decide +kernel
  exact ⟨heven, hodd, by decide +kernel, vanishes_of_even_of_odd f heven hodd⟩

end CurveSketch.Symmetry
