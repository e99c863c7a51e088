import CurveSketch.Proofs.Scalar
import CurveSketch.Range
import Mathlib.Data.List.Induction

/-!
# What a sweep finds and what the rules make of it

A sweep goes through the values one by one and keeps four things.  What they say of all values
together is an invariant of the step from one value to the next, over every type of numbers that are
compared by what they are worth.

**Sweeps.**  `Range.IsExtremes` says which two numbers are the least and the greatest.
`Sweep.Describes` is the invariant: `describes_add` is its step and **`describes_of`** what a whole
sweep finds.

**Rules.**  `Range.Decides` has one constructor for each sort of description that the rules give
from the extremes, and `Range.IsUsable` says when they are asked at all: **`Range.of_cases`**.
-/

namespace CurveSketch

namespace Range

variable {α : Type} {worth : α → ℚ} {values : List (Value α)} {ys : List α}

/-- The finite ones of some values. -/
def finites (values : List (Value α)) : List α := values.filterMap Value.finite?

lemma finites_append_finite (values : List (Value α)) (y : α) :
    finites (values ++ [.finite y]) = finites values ++ [y] := by
  simp [finites, Value.finite?]

lemma finites_append_of_none {v : Value α} (h : v.finite? = none) (values : List (Value α)) :
    finites (values ++ [v]) = finites values := by
  simp [finites, h]

/-- What the least and the greatest of some numbers are; there is none of no numbers. -/
def IsExtremes (worth : α → ℚ) (ys : List α) : Option (α × α) → Prop
  | none => ys = []
  | some (low, high) =>
      low ∈ ys ∧ high ∈ ys ∧ ∀ y ∈ ys, worth low ≤ worth y ∧ worth y ≤ worth high

/-! ## Sweeps -/

/-- What a sweep has found is so of the values that it has gone through. -/
structure Sweep.Describes (worth : α → ℚ) (values : List (Value α)) (s : Sweep α) : Prop where
  up : s.up = true ↔ .posInfinite ∈ values
  down : s.down = true ↔ .negInfinite ∈ values
  count : s.count = (finites values).length
  extremes : IsExtremes worth (finites values) s.extremes

variable {s : Sweep α} {rule : Rule α}

lemma describes_empty : (Sweep.empty : Sweep α).Describes worth [] where
  up := by simp [Sweep.empty]
  down := by simp [Sweep.empty]
  count := rfl
  extremes := rfl

/-- Values that the rules are asked about: no infinity, and enough finite ones. -/
structure IsUsable (rule : Rule α) (values : List (Value α)) : Prop where
  no_up : .posInfinite ∉ values
  no_down : .negInfinite ∉ values
  enough : rule.minSamples ≤ (finites values).length
  nonempty : finites values ≠ []

/-- A sweep that is decided went through usable values and has their extremes. -/
lemma of_decided?_eq_some {p : α × α} (h : s.Describes worth values)
    (hdecided : s.decided? rule = some p) :
    IsUsable rule values ∧ IsExtremes worth (finites values) (some p) := by
  unfold Sweep.decided? at hdecided
  split_ifs at hdecided with hopen
  simp only [Bool.or_eq_true, h.up, h.down, decide_eq_true_eq, h.count, not_or, not_lt] at hopen
  have hextremes := hdecided ▸ h.extremes
  exact ⟨⟨hopen.1.1, hopen.1.2, hopen.2, List.ne_nil_of_mem hextremes.1⟩, hextremes⟩

/-- A sweep through usable values is decided. -/
lemma exists_decided?_eq_some (h : s.Describes worth values)
    (husable : IsUsable rule values) : ∃ p, s.decided? rule = some p := by
  have hopen : ¬ (s.up || s.down || decide ((s.count : Int) < rule.minSamples)) = true := by
    simp only [Bool.or_eq_true, h.up, h.down, decide_eq_true_eq, h.count, not_or, not_lt]
    exact ⟨⟨husable.no_up, husable.no_down⟩, husable.enough⟩
  rw [Sweep.decided?, if_neg hopen, ← Option.ne_none_iff_exists']
  intro hnone
  exact husable.nonempty (by simpa [IsExtremes, hnone] using h.extremes)

variable [Scalar α] {P : α → Prop}

/-- One more number among the extremes. -/
lemma isExtremes_add (hord : Scalar.OrderedBy worth P) {low high y : α} (hys : ∀ z ∈ ys, P z)
    (hy : P y) (h : IsExtremes worth ys (some (low, high))) :
    IsExtremes worth (ys ++ [y]) (some (Scalar.least low y, Scalar.greatest high y)) := by
  obtain ⟨hlow, hhigh, hall⟩ := h
  refine ⟨?_, ?_, fun z hz => ?_⟩
  · rcases Scalar.least_eq_or low y with h | h <;> simp [h, hlow]
  · rcases Scalar.greatest_eq_or high y with h | h <;> simp [h, hhigh]
  · rw [hord.worth_least (hys _ hlow) hy, hord.worth_greatest (hys _ hhigh) hy]
    rcases List.mem_append.1 hz with hz | hz
    · exact ⟨min_le_of_left_le (hall z hz).1, le_max_of_le_left (hall z hz).2⟩
    · rw [List.mem_singleton.1 hz]
      exact ⟨min_le_right _ _, le_max_right _ _⟩

/-- **One more value.** -/
lemma describes_add (hord : Scalar.OrderedBy worth P) {v : Value α}
    (hP : ∀ y ∈ finites (values ++ [v]), P y) (h : s.Describes worth values) :
    (s.add v).Describes worth (values ++ [v]) := by
  cases v with
  | finite y =>
      rw [finites_append_finite] at hP
      refine { up := ?_, down := ?_, count := ?_, extremes := ?_ }
      · simpa [Sweep.add] using h.up
      · simpa [Sweep.add] using h.down
      · rw [finites_append_finite, List.length_append, ← h.count]
        rfl
      · rw [finites_append_finite]
        cases hs : s.extremes with
        | none =>
            have hnone : finites values = [] := by simpa [IsExtremes, hs] using h.extremes
            simp [Sweep.add, hs, hnone, IsExtremes]
        | some p =>
            have hextremes := isExtremes_add hord (fun z hz => hP z (by simp [hz]))
              (hP y (by simp)) (hs ▸ h.extremes)
            simpa only [Sweep.add, hs] using hextremes
  | _ =>
      -- The other values leave the extremes and the count as they are.
      refine { up := ?_, down := ?_, count := ?_, extremes := ?_ }
      · simp [Sweep.add, h.up]
      · simp [Sweep.add, h.down]
      · rw [finites_append_of_none rfl]
        exact h.count
      · rw [finites_append_of_none rfl]
        exact h.extremes

/-- **What a sweep of a function finds is so of all its values at the points.** -/
lemma describes_of (hord : Scalar.OrderedBy worth P) (f : α → Value α) (points : List α)
    (hP : ∀ y ∈ finites (points.map f), P y) :
    (Sweep.of f points).Describes worth (points.map f) := by
  induction points using List.reverseRecOn with
  | nil => exact describes_empty
  | append_singleton points x ih =>
      rw [List.map_append, List.map_singleton] at hP ⊢
      rw [Sweep.of, List.foldl_append]
      exact describes_add hord hP (ih fun y hy => hP y (by simp [finites] at hy ⊢; exact .inl hy))

/-! ## Rules -/

/-- The descriptions that the rules may give from the extremes. -/
inductive Decides (rule : Rule α) (low high : α) : Range α → Prop
  | all : Decides rule low high .all
  | atLeast : Decides rule low high (.atLeast (bound rule low))
  | atMost : Decides rule low high (.atMost (bound rule high))
  | about (h : Scalar.abs (high - low) < rule.constantTolerance) :
      Decides rule low high (.about ((low + high) / Scalar.ofInt 2))
  | wave (hlow : -rule.waveOuter ≤ low ∧ low ≤ -rule.waveInner)
      (hhigh : rule.waveInner ≤ high ∧ high ≤ rule.waveOuter) :
      Decides rule low high (.between (.whole (-1)) (.whole 1))
  | fromZero (hlow : nearZero rule low = true) :
      Decides rule low high (.between (.whole 0) (.measured high))
  | toZero (hlow : nearZero rule low = false) (hhigh : nearZero rule high = true) :
      Decides rule low high (.between (.measured low) (.whole 0))
  | measured (hlow : nearZero rule low = false) (hhigh : nearZero rule high = false) :
      Decides rule low high (.between (.measured low) (.measured high))

lemma decides_of_ofShape? {far : List α} {low high : α} {r : Range α}
    (h : ofShape? rule far low high = some r) : Decides rule low high r := by
  unfold ofShape? at h
  split at h
  · split_ifs at h <;> obtain rfl := Option.some.inj h <;> constructor
  · cases h

lemma decides_ofExtremes (rule : Rule α) (low high : α) :
    Decides rule low high (ofExtremes rule low high) := by
  unfold ofExtremes
  split_ifs with hconstant hwave hlow hlarge hhigh hlarge hlarge
  · exact .about hconstant
  · exact .wave hwave.1 hwave.2
  · simpa only [bound, hlow, if_true] using (Decides.atLeast : Decides rule low high _)
  · exact .fromZero hlow
  · simpa only [bound, hhigh, if_true] using (Decides.atMost : Decides rule low high _)
  · exact .toZero (Bool.eq_false_iff.2 hlow) hhigh
  · exact .all
  · exact .measured (Bool.eq_false_iff.2 hlow) (Bool.eq_false_iff.2 hhigh)

/-- The description that the rules give, whether the far values decide or the extremes. -/
lemma decides (rule : Rule α) (f : α → Value α) (low high : α) :
    Decides rule low high ((shape? rule f low high).getD (ofExtremes rule low high)) := by
  cases hshape : shape? rule f low high with
  | none => exact decides_ofExtremes rule low high
  | some r =>
      obtain ⟨far, -, hfar⟩ := Option.bind_eq_some_iff.1 hshape
      exact decides_of_ofShape? hfar

/-- **A range is given by the rules from the extremes of the sweep, or the values are not usable and
no rule is asked.** -/
lemma of_cases (hord : Scalar.OrderedBy worth P) (rule : Rule α) (f : α → Value α)
    (points : List α) (hP : ∀ y ∈ finites (points.map f), P y) :
    (¬ IsUsable rule (points.map f) ∧
        Range.of rule f points ∈ [.all, .rising, .falling, .undetermined]) ∨
      IsUsable rule (points.map f) ∧
        ∃ low high, IsExtremes worth (finites (points.map f)) (some (low, high)) ∧
          Range.of rule f points =
            (shape? rule f low high).getD (ofExtremes rule low high) := by
  have hsweep := describes_of hord f points hP
  cases hdecided : (Sweep.of f points).decided? rule with
  | none =>
      refine .inl ⟨fun husable => ?_, ?_⟩
      · obtain ⟨p, hp⟩ := exists_decided?_eq_some hsweep husable
        exact Option.some_ne_none p (hp.symm.trans hdecided)
      · simp only [Range.of, hdecided]
        split_ifs <;> simp
  | some p =>
      obtain ⟨husable, hextremes⟩ := of_decided?_eq_some hsweep hdecided
      have hup : (Sweep.of f points).up = false := by
        simpa [husable.no_up] using hsweep.up
      have hdown : (Sweep.of f points).down = false := by
        simpa [husable.no_down] using hsweep.down
      exact .inr ⟨husable, p.1, p.2, hextremes, by simp [Range.of, hdecided, hup, hdown]⟩

end Range

end CurveSketch
