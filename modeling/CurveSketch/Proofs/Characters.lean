import CurveSketch.Text.Alphanumeric
import CurveSketch.Text.Character
import Mathlib.Tactic.Common

/-!
# Digits, letters and blanks

No character is of two of these classes.  Each class is a few runs of code points, and the facts are
that the runs of two classes do not meet.

* `not_isBlank_iff`, `zero_of_isDigit`, `toNat_of_isLetter` — the classes by code points.
* `not_isBlank_of_isDigit`, `not_isBlank_of_isLetter`, `not_isDigit_of_isLetter` — the classes are
  apart.
-/

namespace CurveSketch.Text

lemma not_isBlank_iff {c : Char} :
    isBlank c = false ↔ ∀ r ∈ blankRanges, c.toNat < r.1 ∨ r.2 < c.toNat := by
  rw [← Bool.not_eq_true, isBlank, Ranges.has_iff]
  simp only [not_exists, not_and, Nat.not_le]
  constructor
  · intro h r hr
    have := h r hr
    omega
  · intro h r hr
    have := h r hr
    omega

/-- A digit lies in one of the runs of ten. -/
lemma zero_of_isDigit {c : Char} (h : isDigit c = true) :
    ∃ z ∈ digitZeros, z ≤ c.toNat ∧ c.toNat ≤ z + 9 := by
  obtain ⟨d, hd⟩ := Option.isSome_iff_exists.1 h
  obtain ⟨z, hz, -⟩ := Option.map_eq_some_iff.1 hd
  have hrange := List.find?_some hz
  simp only [Bool.and_eq_true, decide_eq_true_eq] at hrange
  exact ⟨z, List.mem_of_find?_eq_some hz, hrange.1, by omega⟩

lemma toNat_of_isLetter {c : Char} (h : isLetter c = true) :
    0x41 ≤ c.toNat ∧ c.toNat ≤ 0x7A := by
  simp only [isLetter, Bool.or_eq_true, Bool.and_eq_true, decide_eq_true_eq, Char.le_def,
    UInt32.le_iff_toNat_le] at h
  have hends : ('a' : Char).val.toNat = 0x61 ∧ ('z' : Char).val.toNat = 0x7A ∧
    ('A' : Char).val.toNat = 0x41 ∧ ('Z' : Char).val.toNat = 0x5A := by decide
  have hval : c.val.toNat = c.toNat := rfl
  omega

lemma not_isBlank_of_isDigit {c : Char} (h : isDigit c = true) : isBlank c = false := by
  have hall : ∀ z ∈ digitZeros, ∀ r ∈ blankRanges, z + 9 < r.1 ∨ r.2 < z := by decide +kernel
  obtain ⟨z, hz, hfirst, hlast⟩ := zero_of_isDigit h
  rw [not_isBlank_iff]
  intro r hr
  have := hall z hz r hr
  omega

lemma not_isBlank_of_isLetter {c : Char} (h : isLetter c = true) : isBlank c = false := by
  have hall : ∀ r ∈ blankRanges, r.2 < 0x41 ∨ 0x7A < r.1 := by decide
  have hrange := toNat_of_isLetter h
  rw [not_isBlank_iff]
  intro r hr
  have := hall r hr
  omega

/-- No script writes digits among the basic Latin letters. -/
lemma not_isDigit_of_isLetter {c : Char} (h : isLetter c = true) : isDigit c = false := by
  have hall : ∀ z ∈ digitZeros, z + 9 < 0x41 ∨ 0x7A < z := by decide
  have hrange := toNat_of_isLetter h
  rw [Bool.eq_false_iff]
  intro hdigit
  obtain ⟨z, hz, hfirst, hlast⟩ := zero_of_isDigit hdigit
  have := hall z hz
  omega

end CurveSketch.Text
