import CurveSketch.Proofs.Characters
import CurveSketch.Text.Lowercase

/-!
# What making letters small leaves alone

A normal form is made of digits, small letters, operators, parentheses and blanks, and none of them
has another small form; so a text of these is its own small form.  Conversely no letter turns into a
blank, so a text that is not blank does not become so.

* `IsSmall` — a character that is its own small form, whatever stands around it.
* `lowercase_eq_self` — a text of such characters stays as it is.
* `IsSmall.of_isDigit`, `IsSmall.of_isBlank` — digits of every script and blanks are such.
* `head_lowercase_not_blank` — the small form of a text that does not begin with a blank does not
  begin with one either.
* `lowercase_eq_map` — letters are made small one by one, unless there is a dotted capital I or a
  capital sigma among them.  Each leaves a character in the small form that no expression has
  (`plain_of_lowercase`).
* `lowercase_trim` — then it is all one whether blanks are cut off before letters are made small or
  after.

Digits and blanks come in runs of code points, and so do capital letters; the facts about them are
that the runs do not meet, which is checked run by run.
-/

namespace CurveSketch.Text

/-- The character is its own small form, whatever stands around it. -/
def IsSmall (c : Char) : Prop := c ≠ '\u03A3' ∧ lowerChar c = [c]

instance (c : Char) : Decidable (IsSmall c) := inferInstanceAs (Decidable (_ ∧ _))

lemma lowercaseAfter_eq_self {cs : List Char} (h : ∀ c ∈ cs, IsSmall c) (before : List Char) :
    lowercaseAfter before cs = cs := by
  induction cs generalizing before with
  | nil => rfl
  | cons c cs ih =>
      obtain ⟨hsigma, hsmall⟩ := h c List.mem_cons_self
      rw [lowercaseAfter, if_neg hsigma, hsmall, ih fun d hd => h d (List.mem_cons_of_mem c hd)]
      rfl

lemma lowercase_eq_self {cs : List Char} (h : ∀ c ∈ cs, IsSmall c) : lowercase cs = cs :=
  lowercaseAfter_eq_self h []

/-! ## Runs without capital letters -/

/-- No capital letter lies between the two code points. -/
def freeOfCapitals (first last : ℕ) : Bool :=
  (last.blt 0x41 || Nat.blt 0x5A first) && (last.blt 0x130 || Nat.blt 0x130 first) &&
    (last.blt 0x3A3 || Nat.blt 0x3A3 first) &&
    lowercaseRuns.all fun run => run.last.blt first || last.blt run.first

lemma toLower_eq_self {c : Char} (h : c.toNat < 0x41 ∨ 0x5A < c.toNat) : c.toLower = c := by
  have hcap : ¬(c.val ≥ 'A'.val ∧ c.val ≤ 'Z'.val) := by
    simp only [ge_iff_le, UInt32.le_iff_toNat_le, not_and]
    intro (h1 : 0x41 ≤ c.toNat) (h2 : c.toNat ≤ 0x5A)
    omega
  exact dif_neg hcap

lemma IsSmall.of_range {first last : ℕ} (hfree : freeOfCapitals first last = true) {c : Char}
    (hfirst : first ≤ c.toNat) (hlast : c.toNat ≤ last) : IsSmall c := by
  simp only [freeOfCapitals, Bool.and_eq_true, Bool.or_eq_true, Nat.blt_eq, List.all_eq_true]
    at hfree
  obtain ⟨⟨⟨hlatin, hdotted⟩, hsigma⟩, hruns⟩ := hfree
  have hne : ∀ d : Char, (last < d.toNat ∨ d.toNat < first) → c ≠ d := by
    rintro d hd rfl
    omega
  refine ⟨hne _ hsigma, ?_⟩
  unfold lowerChar
  split_ifs with hascii hI
  · rw [toLower_eq_self (by omega)]
  · exact absurd hI (hne _ hdotted)
  · have hnone : lowercaseRuns.find? (·.has c.toNat) = none := by
      rw [List.find?_eq_none]
      intro run hrun hhas
      have hapart := hruns run hrun
      simp only [CaseRun.has, Bool.and_eq_true, decide_eq_true_eq] at hhas
      omega
    rw [hnone]

lemma IsSmall.of_isDigit {c : Char} (h : isDigit c = true) : IsSmall c := by
  have hall : (digitZeros.all fun z => freeOfCapitals z (z + 9)) = true := by decide +kernel
  obtain ⟨z, hz, hfirst, hlast⟩ := zero_of_isDigit h
  exact .of_range (List.all_eq_true.1 hall z hz) hfirst hlast

lemma IsSmall.of_isBlank {c : Char} (h : isBlank c = true) : IsSmall c := by
  have hall : (blankRanges.all fun r => freeOfCapitals r.1 r.2) = true := by decide +kernel
  obtain ⟨r, hr, hfirst, hlast⟩ := (Ranges.has_iff _ _).1 h
  exact .of_range (List.all_eq_true.1 hall r hr) hfirst hlast

/-! ## No letter turns into a blank -/

/-- The number that is no code point stands for the zero character, which is not blank. -/
lemma not_isBlank_ofNat {n : ℕ} (h : ∀ r ∈ blankRanges, n < r.1 ∨ r.2 < n) :
    isBlank (Char.ofNat n) = false := by
  by_cases hn : n.isValidChar
  · have hval : (Char.ofNat n).toNat = n := by
      rw [Char.ofNat, dif_pos hn]
      rfl
    rw [not_isBlank_iff, hval]
    exact h
  · rw [Char.ofNat, dif_neg hn]
    decide

/-- No run of capital letters has small forms among the blanks. -/
lemma not_isBlank_of_run {run : CaseRun} (hrun : run ∈ lowercaseRuns) {n : ℕ}
    (hn : run.has n = true) : isBlank (Char.ofNat ((n : Int) + run.shift).toNat) = false := by
  have hall : (lowercaseRuns.all fun run => blankRanges.all fun r =>
      (run.last : Int) + run.shift < r.1 || r.2 < run.first + run.shift) = true := by
    decide +kernel
  refine not_isBlank_ofNat fun r hr => ?_
  have hapart := List.all_eq_true.1 (List.all_eq_true.1 hall run hrun) r hr
  have hpos : ∀ r ∈ blankRanges, 0 < r.1 := by decide
  have := hpos r hr
  simp only [CaseRun.has, Bool.and_eq_true, Bool.or_eq_true, decide_eq_true_eq] at hn hapart
  omega

lemma toLower_not_blank {c : Char} (h : isBlank c = false) : isBlank c.toLower = false := by
  by_cases hc : c.toNat < 0x41 ∨ 0x5A < c.toNat
  · rwa [toLower_eq_self hc]
  · have hall : ∀ n ∈ List.range 0x5B, 0x41 ≤ n → isBlank (Char.ofNat n).toLower = false := by
      decide +kernel
    have := hall c.toNat (List.mem_range.2 (by omega)) (by omega)
    rwa [Char.ofNat_toNat] at this

/-- The small form of a character that is not blank begins with one that is not. -/
lemma lowerChar_not_blank {c : Char} (h : isBlank c = false) :
    ∃ d tail, lowerChar c = d :: tail ∧ isBlank d = false := by
  unfold lowerChar
  split_ifs with hascii hI
  · exact ⟨_, _, rfl, toLower_not_blank h⟩
  · exact ⟨_, _, rfl, by decide⟩
  · split
    · next run hrun =>
      have hhas := List.find?_some hrun
      exact ⟨_, _, rfl, not_isBlank_of_run (List.mem_of_find?_eq_some hrun) hhas⟩
    · exact ⟨_, _, rfl, h⟩

/-- The small form of a text that does not begin with a blank does not begin with one. -/
lemma head_lowercase_not_blank {c : Char} (h : isBlank c = false) (cs : List Char) :
    ∃ d tail, lowercase (c :: cs) = d :: tail ∧ isBlank d = false := by
  rw [lowercase, lowercaseAfter]
  split_ifs
  · refine ⟨lowerSigma [] cs, _, rfl, ?_⟩
    unfold lowerSigma
    split_ifs <;> decide
  · obtain ⟨d, tail, hd, hblank⟩ := lowerChar_not_blank h
    exact ⟨d, tail ++ lowercaseAfter [c] cs, by rw [hd]; rfl, hblank⟩

/-! ## Letter by letter -/

/-- The small form of a character by itself, where it is one character. -/
def small (c : Char) : Char := (lowerChar c).headD c

/-- The character is neither of the two letters whose small form is another matter. -/
def Plain (c : Char) : Prop := c ≠ '\u03A3' ∧ c ≠ '\u0130'

lemma lowerChar_eq_small {c : Char} (h : c ≠ '\u0130') : lowerChar c = [small c] := by
  unfold small lowerChar
  split_ifs
  · rfl
  · split <;> rfl

lemma lowercaseAfter_eq_map : ∀ {cs : List Char} (before : List Char), (∀ c ∈ cs, Plain c) →
    lowercaseAfter before cs = cs.map small := by
  intro cs
  induction cs with
  | nil => intro before _; rfl
  | cons c cs ih =>
      intro before h
      obtain ⟨hsigma, hdotted⟩ := h c List.mem_cons_self
      rw [lowercaseAfter, if_neg hsigma, lowerChar_eq_small hdotted,
        ih (c :: before) fun d hd => h d (List.mem_cons_of_mem c hd)]
      rfl

lemma lowercase_eq_map {cs : List Char} (h : ∀ c ∈ cs, Plain c) : lowercase cs = cs.map small :=
  lowercaseAfter_eq_map [] h

/-- What the two letters leave in a small form: the two small sigmas and the dot of the I. -/
def leftovers : List Char := ['\u03C3', '\u03C2', '\u0307']

lemma plain_of_lowercaseAfter : ∀ {cs : List Char} (before : List Char),
    (∀ c ∈ lowercaseAfter before cs, c ∉ leftovers) → ∀ c ∈ cs, Plain c := by
  intro cs
  induction cs with
  | nil => simp
  | cons c cs ih =>
      intro before h
      simp only [lowercaseAfter, List.forall_mem_append] at h
      obtain ⟨hfirst, hrest⟩ := h
      refine List.forall_mem_cons.2 ⟨⟨?_, ?_⟩, ih (c :: before) hrest⟩
      · rintro rfl
        refine hfirst (lowerSigma before cs) (by simp) ?_
        unfold lowerSigma
        split_ifs <;> decide
      · rintro rfl
        have hdot : '\u0307' ∈ lowerChar '\u0130' := by decide
        rw [if_neg (by decide)] at hfirst
        exact hfirst '\u0307' hdot (by decide)

lemma plain_of_lowercase {cs : List Char} (h : ∀ c ∈ lowercase cs, c ∉ leftovers) :
    ∀ c ∈ cs, Plain c := plain_of_lowercaseAfter [] h

lemma isBlank_small (c : Char) : isBlank (small c) = isBlank c := by
  cases h : isBlank c with
  | true =>
      rw [small, (IsSmall.of_isBlank h).2]
      exact h
  | false =>
      obtain ⟨d, tail, hd, hblank⟩ := lowerChar_not_blank h
      rw [small, hd]
      exact hblank

lemma trim_map_small (cs : List Char) : trim (cs.map small) = (trim cs).map small := by
  have hblank : isBlank ∘ small = isBlank := by
    funext c
    exact isBlank_small c
  simp only [trim, trimWith, List.dropWhile_map, ← List.map_reverse, hblank]

lemma mem_of_mem_trim {c : Char} {cs : List Char} (h : c ∈ trim cs) : c ∈ cs := by
  rw [trim, trimWith, List.mem_reverse] at h
  have hback := (List.dropWhile_suffix isBlank).subset h
  exact (List.dropWhile_suffix isBlank).subset (List.mem_reverse.1 hback)

lemma lowercase_trim {cs : List Char} (h : ∀ c ∈ cs, Plain c) :
    lowercase (trim cs) = trim (lowercase cs) := by
  rw [lowercase_eq_map h, lowercase_eq_map fun c hc => h c (mem_of_mem_trim hc), trim_map_small]

end CurveSketch.Text
