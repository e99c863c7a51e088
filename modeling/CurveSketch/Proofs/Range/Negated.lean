import CurveSketch.Proofs.Mirror
import CurveSketch.Proofs.Range.Faithful

/-!
# Functions turned upside down

The graph of a function turned over about the horizontal axis has the opposite values, and its least
value is opposite to the greatest one.  Every rule for ranges has a twin for such functions, but the
rules are asked in a fixed order.

**Turning over.**  `negated` is the function, `Range.neg` the description and `Range.Sweep.neg` the
sweep turned upside down; `Range.Sweep.of_negated`: a sweep finds the opposite of what it finds of
the function itself.

**Rule by rule.**  `Range.ofShape?_neg` for the far values.  For the extremes `Range.ofExtremes_neg`
leaves out one case, in which a rule and its twin both apply: all values lie near zero
(`Range.HugsZero`), and then zero stands for the least of them whichever way up the graph is.

**`Range.of_negated_eq_neg_iff`** — this is the only case in which the descriptions are not opposite,
and then both go from zero up to the greatest value.
-/

namespace CurveSketch

/-- The function turned upside down. -/
def negated {α : Type} [Neg α] (f : α → Value α) (x : α) : Value α := (f x).neg

namespace Range

section TurnedOver

variable {α : Type} [Neg α]

/-- The opposite bound. -/
def Bound.neg : Bound α → Bound α
  | whole n => whole (-n)
  | measured y => measured (-y)

/-- The description turned upside down. -/
def neg : Range α → Range α
  | all => all
  | rising => falling
  | falling => rising
  | undetermined => undetermined
  | atLeast low => atMost low.neg
  | atMost high => atLeast high.neg
  | between low high => between high.neg low.neg
  | about y => about (-y)

/-- What a sweep has found, turned upside down. -/
def Sweep.neg (s : Sweep α) : Sweep α where
  extremes := s.extremes.map fun p => (-p.2, -p.1)
  count := s.count
  up := s.down
  down := s.up

end TurnedOver

variable {rule : Rule ℚ} {f : ℚ → Value ℚ} {points : List ℚ} {low high : ℚ}

/-! ## Sweeps -/

/-- **One more value.** -/
lemma Sweep.neg_add (s : Sweep ℚ) (v : Value ℚ) : (s.add v).neg = s.neg.add v.neg := by
  obtain ⟨extremes, count, up, down⟩ := s
  cases v with
  | finite y =>
      cases extremes with
      | none => rfl
      | some p =>
          simp only [Sweep.add, Sweep.neg, Value.neg, Option.map_some, Scalar.least_rat,
            Scalar.greatest_rat, max_neg_neg, min_neg_neg]
  | _ => rfl

lemma Sweep.of_negated (f : ℚ → Value ℚ) (points : List ℚ) :
    Sweep.of (negated f) points = (Sweep.of f points).neg := by
  induction points using List.reverseRecOn with
  | nil => rfl
  | append_singleton points x ih =>
      rw [Sweep.of, Sweep.of, List.foldl_append, List.foldl_append]
      exact (congrArg (fun s => Sweep.add s (negated f x)) ih).trans (Sweep.neg_add _ _).symm

lemma Sweep.decided?_neg (s : Sweep ℚ) :
    s.neg.decided? rule = (s.decided? rule).map fun p => (-p.2, -p.1) := by
  have hopen : (s.neg.up || s.neg.down) = (s.up || s.down) := Bool.or_comm _ _
  unfold Sweep.decided?
  rw [hopen, show s.neg.count = s.count from rfl]
  split_ifs <;> rfl

lemma finite?_neg (v : Value ℚ) : v.neg.finite? = v.finite?.map Neg.neg := by
  cases v <;> rfl

lemma finites_negated : finites (points.map (negated f)) = (finites (points.map f)).map Neg.neg := by
  rw [finites, finites, List.map_filterMap, List.filterMap_map, List.filterMap_map]
  exact congrArg (fun g => points.filterMap g) (funext fun x => finite?_neg (f x))

lemma mem_map_negated {v : Value ℚ} :
    v ∈ points.map (CurveSketch.negated f) ↔ v.neg ∈ points.map f := by
  have hneg : Function.Involutive (Value.neg : Value ℚ → Value ℚ) := fun v => by
    cases v with
    | finite y => exact congrArg Value.finite (neg_neg y)
    | _ => rfl
  rw [← List.mem_map_of_involutive hneg, List.map_map]
  rfl

lemma IsUsable.negated (h : IsUsable rule (points.map f)) :
    IsUsable rule (points.map (negated f)) where
  no_up := mt mem_map_negated.1 h.no_down
  no_down := mt mem_map_negated.1 h.no_up
  enough := by
    rw [finites_negated, List.length_map]
    exact h.enough
  nonempty := by
    rw [finites_negated, ne_eq, List.map_eq_nil_iff]
    exact h.nonempty

/-! ## Far values -/

lemma farValues?_negated (points : List ℚ) :
    farValues? (negated f) points = (farValues? f points).map (List.map Neg.neg) := by
  induction points with
  | nil => rfl
  | cons x points ih =>
      rw [farValues?, farValues?] at ih
      rw [farValues?, farValues?, List.mapM_cons, List.mapM_cons, ih, negated, finite?_neg]
      cases (f x).finite? <;> cases points.mapM fun x => (f x).finite? <;> rfl

lemma nearZero_neg (y : ℚ) : nearZero rule (-y) = nearZero rule y := by
  rw [nearZero, nearZero, Bool.and_comm]
  congr 1 <;> rw [decide_eq_decide]
  · exact neg_le
  · exact neg_le_neg_iff

lemma bound_neg (y : ℚ) : bound rule (-y) = (bound rule y).neg := by
  unfold bound
  rw [nearZero_neg]
  split_ifs <;> rfl

/-- **The rules for the far values say the opposite of opposite values.** -/
lemma ofShape?_neg (hlarge : 0 ≤ rule.large) (a b c d e : ℚ) :
    ofShape? rule [-a, -b, -c, -d, -e] (-high) (-low) =
      (ofShape? rule [a, b, c, d, e] low high).map Range.neg := by
  have hrising : (rule.large < -a ∧ rule.large < -e ∧ -c ≤ Scalar.least (-a) (-e)) ↔
      a < -rule.large ∧ e < -rule.large ∧ Scalar.greatest a e ≤ c := by
    rw [Scalar.least_rat, Scalar.greatest_rat, min_neg_neg, neg_le_neg_iff, lt_neg,
      lt_neg (b := e)]
  have hfalling : (-a < -rule.large ∧ -e < -rule.large ∧ Scalar.greatest (-a) (-e) ≤ -c) ↔
      rule.large < a ∧ rule.large < e ∧ c ≤ Scalar.least a e := by
    rw [Scalar.least_rat, Scalar.greatest_rat, max_neg_neg, neg_le_neg_iff, neg_lt_neg_iff,
      neg_lt_neg_iff]
  have hmonotone : ((-a < -b ∧ -b < -c ∧ -c < -d ∧ -d < -e) ∨
        (-b < -a ∧ -c < -b ∧ -d < -c ∧ -e < -d)) ↔
      (a < b ∧ b < c ∧ c < d ∧ d < e) ∨ (b < a ∧ c < b ∧ d < c ∧ e < d) := by
    simp only [neg_lt_neg_iff]
    exact or_comm
  have hslope (first last : ℚ) : Scalar.abs ((-e - -a) / (last - first)) =
      Scalar.abs ((e - a) / (last - first)) := by
    rw [Scalar.abs_rat, Scalar.abs_rat, neg_sub_neg, ← neg_sub e a, neg_div, abs_neg]
  unfold ofShape?
  rcases rule.farPoints with _ | ⟨first, _ | ⟨_, _ | ⟨_, _ | ⟨_, _ | ⟨last, _ | _⟩⟩⟩⟩⟩
  case cons.cons.cons.cons.cons.nil =>
    simp only [hrising, hfalling, hmonotone, hslope, bound_neg]
    split_ifs with hfall hrise
    -- both ends cannot be far above and far below
    · exact absurd (hrise.1.trans hfall.1) (by linarith)
    all_goals rfl
  all_goals rfl

lemma shape?_negated (hlarge : 0 ≤ rule.large) (hlength : rule.farPoints.length = 5) :
    shape? rule (negated f) (-high) (-low) = (shape? rule f low high).map Range.neg := by
  rw [shape?, shape?, farValues?_negated]
  cases h : farValues? f rule.farPoints with
  | none => rfl
  | some far =>
      obtain ⟨a, b, c, d, e, rfl⟩ := exists_of_farValues? h hlength
      exact ofShape?_neg hlarge a b c d e

/-! ## Extremes -/

/-- **The rules for the extremes say the opposite of opposite extremes**, unless both extremes are
near zero: then the rule for a least value near zero is the first to apply either way. -/
lemma ofExtremes_neg (h : |high - low| < rule.constantTolerance ∨ nearZero rule low = false ∨
    nearZero rule high = false) :
    ofExtremes rule (-high) (-low) = (ofExtremes rule low high).neg := by
  have hconstant : Scalar.abs (-low - -high) = Scalar.abs (high - low) := by
    rw [neg_sub_neg]
  have hmiddle : (-high + -low) / (Scalar.ofInt 2 : ℚ) = -((low + high) / Scalar.ofInt 2) := by
    rw [← neg_add, add_comm high, neg_div]
  have hwave : ((-rule.waveOuter ≤ -high ∧ -high ≤ -rule.waveInner) ∧
        (rule.waveInner ≤ -low ∧ -low ≤ rule.waveOuter)) ↔
      (-rule.waveOuter ≤ low ∧ low ≤ -rule.waveInner) ∧
        (rule.waveInner ≤ high ∧ high ≤ rule.waveOuter) := by
    rw [neg_le_neg_iff, neg_le_neg_iff, le_neg, neg_le (a := low)]
    tauto
  have hdeep : rule.large < -low ↔ low < -rule.large := lt_neg
  have hhigh : -high < -rule.large ↔ rule.large < high := neg_lt_neg_iff
  rw [← Scalar.abs_rat] at h
  unfold ofExtremes
  simp only [hconstant, hmiddle, hwave, hdeep, hhigh, nearZero_neg]
  rcases h with hclose | hlow | hhigh
  · rw [if_pos hclose, if_pos hclose]
    rfl
  · simp only [hlow, Bool.false_eq_true, if_false]
    split_ifs <;> rfl
  · simp only [hhigh, Bool.false_eq_true, if_false]
    split_ifs <;> rfl

/-- Extremes that are near zero, but not near to one another, are described from zero on. -/
lemma ofExtremes_of_near (hconstant : 1 / 100 ≤ high - low) (hlow : |low| ≤ 1 / 10)
    (hhigh : |high| ≤ 1 / 10) :
    ofExtremes .standard low high = .between (.whole 0) (.measured high) := by
  have hlarge : (Rule.standard : Rule ℚ).large = 100 := by decide +kernel
  have hapart : ¬ Scalar.abs (high - low) < (Rule.standard : Rule ℚ).constantTolerance := by
    rw [Scalar.abs_rat, standard_constantTolerance, not_lt]
    exact hconstant.trans (le_abs_self _)
  have hwave : ¬ low ≤ -(Rule.standard : Rule ℚ).waveInner := by
    rw [standard_waveInner]
    linarith [(abs_le.1 hlow).1]
  have hsmall : ¬ (Rule.standard : Rule ℚ).large < high := by
    rw [hlarge]
    linarith [(abs_le.1 hhigh).2]
  rw [ofExtremes, if_neg hapart, if_neg fun h => hwave h.1.2, if_pos (nearZero_standard.2 hlow),
    if_neg hsmall]

/-! ## Whole sweeps -/

/-- The description of the function turned upside down, for a sweep that decides nothing but whether
there is an infinity, and for one that has extremes. -/
lemma of_negated_cases (rule : Rule ℚ) (f : ℚ → Value ℚ) (points : List ℚ) :
    ((Sweep.of f points).decided? rule = none ∧
        Range.of rule (negated f) points = (Range.of rule f points).neg) ∨
      ∃ low high, (Sweep.of f points).decided? rule = some (low, high) ∧
        Range.of rule f points = (shape? rule f low high).getD (ofExtremes rule low high) ∧
        Range.of rule (negated f) points =
          (shape? rule (negated f) (-high) (-low)).getD (ofExtremes rule (-high) (-low)) := by
  simp only [Range.of, Sweep.of_negated, Sweep.decided?_neg]
  generalize Sweep.of f points = s
  cases hdecided : s.decided? rule with
  | none =>
      refine .inl ⟨rfl, ?_⟩
      obtain ⟨extremes, count, up, down⟩ := s
      cases up <;> cases down <;> rfl
  | some p =>
      refine .inr ⟨p.1, p.2, rfl, ?_⟩
      unfold Sweep.decided? at hdecided
      split_ifs at hdecided with hopen
      simp only [Bool.or_eq_true, not_or, Bool.not_eq_true] at hopen
      simp [Sweep.neg, hopen.1.1, hopen.1.2]

/-- All values lie near zero, and some of them are not nearly the same.  There are enough of them,
none is infinite, and the far values do not decide. -/
structure HugsZero (f : ℚ → Value ℚ) (points : List ℚ) : Prop where
  usable : IsUsable .standard (points.map f)
  undecided : decidingShape? .standard f points = none
  near : ∀ y ∈ finites (points.map f), |y| ≤ 1 / 10
  apart : ∃ y ∈ finites (points.map f), ∃ z ∈ finites (points.map f), 1 / 100 ≤ z - y

/-- The extremes that a decided sweep has. -/
lemma isExtremes_of_decided? (h : (Sweep.of f points).decided? rule = some (low, high)) :
    IsUsable rule (points.map f) ∧
      IsExtremes (fun q => q) (finites (points.map f)) (some (low, high)) :=
  of_decided?_eq_some (describes_of Scalar.orderedBy_rat f points fun _ _ => trivial) h

lemma decidingShape?_eq (h : (Sweep.of f points).decided? rule = some (low, high)) :
    decidingShape? rule f points = shape? rule f low high := by
  rw [decidingShape?, h]
  rfl

/-- A function that hugs zero is described from zero up to its greatest value. -/
lemma HugsZero.of_eq (h : HugsZero f points) :
    ∃ high, IsGreatest {y | y ∈ finites (points.map f)} high ∧
      Range.of .standard f points = .between (.whole 0) (.measured high) := by
  rcases of_negated_cases .standard f points with ⟨hnone, -⟩ | ⟨low, high, hdecided, hof, -⟩
  · obtain ⟨p, hp⟩ := exists_decided?_eq_some
      (describes_of Scalar.orderedBy_rat f points fun _ _ => trivial) h.usable
    exact absurd hnone (by rw [hp]; exact Option.some_ne_none p)
  · obtain ⟨-, hlow, hhigh, hall⟩ := isExtremes_of_decided? hdecided
    obtain ⟨y, hy, z, hz, hyz⟩ := h.apart
    refine ⟨high, ⟨hhigh, fun y hy => (hall y hy).2⟩, ?_⟩
    rw [hof, ← decidingShape?_eq hdecided, h.undecided, Option.getD_none]
    exact ofExtremes_of_near (by linarith [(hall y hy).1, (hall z hz).2]) (h.near low hlow)
      (h.near high hhigh)

lemma HugsZero.of_eq_of_isGreatest (h : HugsZero f points)
    (hhigh : IsGreatest {y | y ∈ finites (points.map f)} high) :
    Range.of .standard f points = .between (.whole 0) (.measured high) := by
  obtain ⟨high', hhigh', hof⟩ := h.of_eq
  rw [hof, hhigh.unique hhigh']

/-- The least value of a function is opposite to the greatest one of the function turned upside
down. -/
lemma isGreatest_finites_negated (hlow : IsLeast {y | y ∈ finites (points.map f)} low) :
    IsGreatest {y | y ∈ finites (points.map (negated f))} (-low) := by
  rw [finites_negated]
  refine ⟨List.mem_map_of_mem hlow.1, ?_⟩
  rintro y hy
  obtain ⟨z, hz, rfl⟩ := List.mem_map.1 hy
  exact neg_le_neg (hlow.2 hz)

/-- A function that hugs zero does so when it is turned upside down. -/
lemma HugsZero.negated (h : HugsZero f points) : HugsZero (negated f) points where
  usable := h.usable.negated
  undecided := by
    rcases of_negated_cases .standard f points with ⟨hnone, -⟩ | ⟨low, high, hdecided, -, -⟩
    · rw [decidingShape?, Sweep.of_negated, Sweep.decided?_neg, hnone]
      rfl
    · rw [decidingShape?, Sweep.of_negated, Sweep.decided?_neg, hdecided]
      change shape? .standard (CurveSketch.negated f) (-high) (-low) = none
      rw [shape?_negated (by decide +kernel) rfl, ← decidingShape?_eq hdecided, h.undecided]
      rfl
  near := by
    intro y hy
    rw [finites_negated, List.mem_map] at hy
    obtain ⟨z, hz, rfl⟩ := hy
    rw [abs_neg]
    exact h.near z hz
  apart := by
    obtain ⟨y, hy, z, hz, hyz⟩ := h.apart
    rw [finites_negated]
    exact ⟨-z, List.mem_map_of_mem hz, -y, List.mem_map_of_mem hy, by linarith⟩

/-- A function that does not hug zero has extremes of which one is not near zero, or nearly the same
ones. -/
lemma hugsZero_of_near (hdecided : (Sweep.of f points).decided? .standard = some (low, high))
    (hshape : shape? .standard f low high = none) (hapart : ¬ |high - low| < 1 / 100)
    (hlow : |low| ≤ 1 / 10) (hhigh : |high| ≤ 1 / 10) : HugsZero f points := by
  obtain ⟨husable, hlow', hhigh', hall⟩ := isExtremes_of_decided? hdecided
  refine ⟨husable, by rw [decidingShape?_eq hdecided, hshape], fun y hy => ?_,
    low, hlow', high, hhigh', ?_⟩
  · rw [abs_le] at hlow hhigh ⊢
    constructor <;> linarith [(hall y hy).1, (hall y hy).2]
  · rwa [abs_of_nonneg (by linarith [(hall low hlow').2]), not_lt] at hapart

/-- The descriptions of a function and of the function turned upside down are opposite, unless it hugs
zero. -/
lemma of_negated_eq_neg (hhugs : ¬ HugsZero f points) :
    Range.of .standard (negated f) points = (Range.of .standard f points).neg := by
  rcases of_negated_cases .standard f points with ⟨-, heq⟩ | ⟨low, high, hdecided, hof, hof'⟩
  · exact heq
  · rw [hof, hof', shape?_negated (by decide +kernel) rfl]
    cases hshape : shape? .standard f low high with
    | some r => rfl
    | none =>
        refine ofExtremes_neg ?_
        rw [standard_constantTolerance]
        by_contra hcontra
        rw [not_or, not_or, Bool.not_eq_false, Bool.not_eq_false, nearZero_standard,
          nearZero_standard] at hcontra
        exact hhugs (hugsZero_of_near hdecided hshape hcontra.1 hcontra.2.1 hcontra.2.2)

/-- **The descriptions of a function and of the function turned upside down are opposite, unless it
hugs zero.**  Then zero stands for the least value either way.  If the greatest value is not below
zero, the function is described from zero up to it; if the least one is not above zero, the function
turned upside down is described from zero up to its opposite.  Of values that are all below zero no
more is said. -/
theorem of_negated_eq_neg_iff (f : ℚ → Value ℚ) (points : List ℚ) :
    (Range.of .standard (negated f) points = (Range.of .standard f points).neg ↔
      ¬ HugsZero f points) ∧
    (HugsZero f points → ∀ low high, IsLeast {y | y ∈ finites (points.map f)} low →
      IsGreatest {y | y ∈ finites (points.map f)} high →
      (0 ≤ high → Range.of .standard f points = .between (.whole 0) (.measured high)) ∧
      (low ≤ 0 →
        Range.of .standard (negated f) points = .between (.whole 0) (.measured (-low)))) := by
  refine ⟨⟨fun heq hhugs => ?_, of_negated_eq_neg⟩, fun hhugs low high hlow hhigh => ⟨fun _ => ?_,
    fun _ => ?_⟩⟩
  · obtain ⟨high, -, hof⟩ := hhugs.of_eq
    obtain ⟨high', -, hof'⟩ := hhugs.negated.of_eq
    rw [hof, hof'] at heq
    cases heq
  · exact hhugs.of_eq_of_isGreatest hhigh
  · exact hhugs.negated.of_eq_of_isGreatest (isGreatest_finites_negated hlow)

/-- A line that rises by a tenth over the usual grid. -/
def gentle (x : ℚ) : Value ℚ := .finite (x / 1000)

lemma mem_finites_gentle {y : ℚ} :
    y ∈ finites ((multiples (1 / 10) 500).map gentle) ↔
      ∃ i : ℕ, i ≤ 1000 ∧ ((i : ℚ) - 500) / 10000 = y := by
  simp only [finites, multiples, gentle, List.map_map, List.mem_filterMap, List.mem_map,
    List.mem_range, Function.comp_apply]
  constructor
  · rintro ⟨_, ⟨i, hi, rfl⟩, ⟨⟩⟩
    exact ⟨i, by omega, by push_cast; ring⟩
  · rintro ⟨i, hi, rfl⟩
    exact ⟨_, ⟨i, by omega, rfl⟩, congrArg some (by push_cast; ring)⟩

lemma bounds_gentle {y : ℚ} (hy : y ∈ finites ((multiples (1 / 10) 500).map gentle)) :
    -1 / 20 ≤ y ∧ y ≤ 1 / 20 := by
  obtain ⟨i, hi, rfl⟩ := mem_finites_gentle.1 hy
  have hi₀ : (0 : ℚ) ≤ i := Nat.cast_nonneg i
  have hi₁ : (i : ℚ) ≤ 1000 := by exact_mod_cast hi
  constructor <;> linarith

lemma least_mem_gentle : -1 / 20 ∈ finites ((multiples (1 / 10) 500).map gentle) :=
  mem_finites_gentle.2 ⟨0, by omega, by norm_num⟩

lemma greatest_mem_gentle : 1 / 20 ∈ finites ((multiples (1 / 10) 500).map gentle) :=
  mem_finites_gentle.2 ⟨1000, by omega, by norm_num⟩

/-- The line rises throughout, but not steeply enough. -/
lemma shape?_gentle (low high : ℚ) : shape? .standard gentle low high = none := by
  have hfar : farValues? gentle (Rule.standard : Rule ℚ).farPoints =
      some [-1 / 10, -1 / 100, 0, 1 / 100, 1 / 10] := by decide +kernel
  have habove : ¬ (Rule.standard : Rule ℚ).large < -1 / 10 := by decide +kernel
  have hbelow : ¬ (1 / 10 : ℚ) < -(Rule.standard : Rule ℚ).large := by decide +kernel
  have hflat : ¬ (Rule.standard : Rule ℚ).minSlope <
      Scalar.abs ((1 / 10 - -1 / 10) / (100.0 - -100.0)) := by decide +kernel
  rw [shape?, hfar]
  refine (if_neg fun h => habove h.1).trans ((if_neg fun h => hbelow h.2.1).trans ?_)
  rw [if_neg hflat]
  exact ite_self none

lemma hugsZero_gentle : HugsZero gentle (multiples (1 / 10) 500) where
  usable := by
    have hfinite : ∀ v ∈ (multiples (1 / 10) 500).map gentle, v.finite?.isSome = true := by
      intro v hv
      obtain ⟨x, -, rfl⟩ := List.mem_map.1 hv
      rfl
    have hcount : (finites ((multiples (1 / 10) 500).map gentle)).length = 1001 := by
      rw [finites, List.filterMap_length_eq_length.2 hfinite, List.length_map, length_multiples]
    refine ⟨fun hup => ?_, fun hdown => ?_, ?_, ?_⟩
    · exact absurd (hfinite _ hup) (by decide)
    · exact absurd (hfinite _ hdown) (by decide)
    · rw [hcount]
      decide
    · exact List.ne_nil_of_length_pos (by rw [hcount]; norm_num)
  undecided := by
    rw [decidingShape?]
    generalize (Sweep.of gentle (multiples (1 / 10) 500)).decided? .standard = extremes
    cases extremes with
    | none => rfl
    | some p => exact shape?_gentle p.1 p.2
  near := by
    intro y hy
    exact abs_le.2 ⟨by linarith [(bounds_gentle hy).1], by linarith [(bounds_gentle hy).2]⟩
  apart := ⟨_, least_mem_gentle, _, greatest_mem_gentle, by norm_num⟩

/-- Upside down, the line is described as it is the right way up. -/
theorem not_of_negated_eq_neg :
    Range.of .standard gentle (multiples (1 / 10) 500) =
        .between (.whole 0) (.measured (1 / 20)) ∧
      Range.of .standard (negated gentle) (multiples (1 / 10) 500) =
        .between (.whole 0) (.measured (1 / 20)) ∧
      Range.of .standard (negated gentle) (multiples (1 / 10) 500) ≠
        (Range.of .standard gentle (multiples (1 / 10) 500)).neg := by
  obtain ⟨high, ⟨hmem, hgreatest⟩, hof⟩ := hugsZero_gentle.of_eq
  obtain ⟨high', ⟨hmem', hgreatest'⟩, hof'⟩ := hugsZero_gentle.negated.of_eq
  simp only [mem_upperBounds, Set.mem_ofPred_eq, finites_negated, List.mem_map] at *
  obtain rfl : high = 1 / 20 :=
    le_antisymm (bounds_gentle hmem).2 (hgreatest _ greatest_mem_gentle)
  obtain ⟨low, hlow, rfl⟩ := hmem'
  obtain rfl : low = -1 / 20 := by
    have hle := hgreatest' (1 / 20) ⟨_, least_mem_gentle, by norm_num⟩
    linarith [(bounds_gentle hlow).1]
  rw [hof, hof']
  refine ⟨rfl, by norm_num, ?_⟩
  intro h
  cases h

end Range

end CurveSketch
