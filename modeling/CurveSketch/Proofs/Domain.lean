import CurveSketch.Proofs.Grid
import CurveSketch.Proofs.Mirror
import CurveSketch.Proofs.Number.Tenth
import CurveSketch.Proofs.Report
import CurveSketch.Proofs.Spread

/-!
# Undefined points and exclusions

Where nothing shows in the expression, a domain is told by the points of a grid where the function
has no finite value.  They are rounded, thinned out and, if they are few, listed.

* `Domain.Covers` — which exclusions tell some undefined points: roundings of them in their order,
  far enough apart, and one at or near each.
* `Domain.covers_exclusions` — the exclusions of a sweep do.
* `Domain.ofExclusions_eq_without_iff`, `Domain.text_ofExclusions_eq_iff` — what is said of so many
  exclusions.
* `keepApart_eq_self` — of things far enough apart all are kept.
* `Domain.exclusions_multiples` — computed exactly, a multiple of a tenth is rounded to itself, so the
  exclusions on such a grid are the undefined points.
* **`Domain.excludes_undefined`** — domain and exclusions together, and what it is to be rounded
  (`Number.IsTenthOf`).
-/

namespace CurveSketch

open Number

/-! ## Points far apart -/

/-- Of things that are far enough apart, and far enough from what was kept before, all are kept. -/
lemma keepApartFrom_eq_self {α β : Type} [Scalar α] {position : β → α} {distance : α}
    {kept bs : List β}
    (hkept : ∀ k ∈ kept, ∀ b ∈ bs, ¬ Scalar.distance (position k) (position b) < distance)
    (happart : bs.Pairwise fun a b => ¬ Scalar.distance (position a) (position b) < distance) :
    keepApartFrom position distance kept bs = bs := by
  induction bs generalizing kept with
  | nil => rfl
  | cons b rest ih =>
      obtain ⟨hb, hrest⟩ := List.pairwise_cons.1 happart
      have hfar : isNear position distance kept (position b) = false :=
        isNear_eq_false_iff.2 fun k hk => hkept k hk b List.mem_cons_self
      rw [keepApartFrom, hfar, if_neg Bool.false_ne_true, ih ?_ hrest]
      rintro k hk c hc
      rcases List.mem_cons.1 hk with rfl | hk
      · exact hb c hc
      · exact hkept k hk c (List.mem_cons_of_mem b hc)

lemma keepApart_eq_self {α β : Type} [Scalar α] {position : β → α} {distance : α} {bs : List β}
    (happart : bs.Pairwise fun a b => ¬ Scalar.distance (position a) (position b) < distance) :
    keepApart position distance bs = bs :=
  keepApartFrom_eq_self (fun _ hk => absurd hk List.not_mem_nil) happart

/-- Multiples of a step lie at least that step apart. -/
lemma pairwise_multiples (step : ℚ) (n : ℕ) :
    (multiples step n).Pairwise fun p q => |step| ≤ |p - q| := by
  refine List.pairwise_map.2 (List.pairwise_lt_range.imp fun {i j} hij => ?_)
  have hgap : (1 : ℚ) ≤ |(i : ℚ) - j| := by
    have hint : (1 : ℤ) ≤ |(i : ℤ) - j| := Int.one_le_abs (by omega)
    exact_mod_cast hint
  calc |step| ≤ |(i : ℚ) - j| * |step| := le_mul_of_one_le_left (abs_nonneg _) hgap
    _ = |((i : ℚ) - n) * step - (j - n) * step| := by rw [← abs_mul]; ring_nf

/-- Multiples of a tenth are their own nearest tenths. -/
lemma tenth_of_mem_multiples {n : ℕ} {q : ℚ} (h : q ∈ multiples (1 / 10) n) :
    Scalar.tenth q = q := by
  obtain ⟨i, -, rfl⟩ := List.mem_map.1 h
  have hinteger : ((i : ℚ) - n) * (1 / 10) = ((i - n : ℤ) : ℚ) / 10 := by
    push_cast
    ring
  rw [hinteger, Scalar.tenth_intCast_div]

namespace Domain

/-! ## Exclusions -/

section Exclusions

variable {α : Type} {f : α → Value α} {points : List α}

lemma undefinedPoints_eq_nil_iff :
    undefinedPoints f points = [] ↔ ∀ x ∈ points, (f x).isFinite = true := by
  simp [undefinedPoints]

variable [Scalar α] {distance : α}

/-- Exclusions that tell where a function is undefined. -/
structure Covers (distance : α) (undefined excluded : List α) : Prop where
  /-- They are undefined points, rounded, in their order. -/
  rounded : excluded.Sublist (undefined.map Scalar.tenth)
  /-- No two of them are too near to each other. -/
  apart : excluded.Pairwise fun x y => ¬ Scalar.distance x y < distance
  /-- Every undefined point, rounded, is one of them or too near to one. -/
  near : ∀ x ∈ undefined, Scalar.tenth x ∈ excluded ∨
    ∃ y ∈ excluded, Scalar.distance y (Scalar.tenth x) < distance

/-- **The exclusions of a sweep tell where the function is undefined.** -/
lemma covers_exclusions (distance : α) (f : α → Value α) (points : List α) :
    Covers distance (undefinedPoints f points) (exclusions distance f points) where
  rounded := keepApart_sublist _
  apart := pairwise_keepApart id distance _
  near x hx := by
    obtain ⟨before, after, hsplit⟩ := List.append_of_mem (List.mem_map_of_mem (f := Scalar.tenth) hx)
    rw [exclusions, hsplit]
    obtain ⟨later, -, hkept | ⟨hdropped, y, hy, hnear⟩⟩ :=
      keepApart_append_cons id distance before (Scalar.tenth x) after
    · exact .inl (by rw [hkept]; exact List.mem_append_right _ List.mem_cons_self)
    · exact .inr ⟨y, by rw [hdropped]; exact List.mem_append_left _ hy, hnear⟩

/-- There are exclusions exactly if there are undefined points. -/
lemma exclusions_eq_nil_iff :
    exclusions distance f points = [] ↔ ∀ x ∈ points, (f x).isFinite = true := by
  rw [← undefinedPoints_eq_nil_iff, exclusions]
  constructor
  · intro hnil
    by_contra hne
    exact keepApart_ne_nil (by simpa using hne) hnil
  · intro hnil
    rw [hnil]
    rfl

end Exclusions

/-- **On a grid of tenths, computed exactly, the exclusions are the undefined points.** -/
lemma exclusions_multiples {distance : ℚ} (hdistance : distance ≤ 1 / 10) (n : ℕ)
    (f : ℚ → Value ℚ) :
    exclusions distance f (multiples (1 / 10) n) = undefinedPoints f (multiples (1 / 10) n) := by
  have hsub : (undefinedPoints f (multiples (1 / 10) n)).Sublist (multiples (1 / 10) n) :=
    List.filter_sublist
  have htenth : (undefinedPoints f (multiples (1 / 10) n)).map Scalar.tenth =
      undefinedPoints f (multiples (1 / 10) n) :=
    (List.map_congr_left fun q hq => tenth_of_mem_multiples (hsub.subset hq)).trans
      (List.map_id _)
  rw [exclusions, htenth]
  refine keepApart_eq_self (((pairwise_multiples _ n).sublist hsub).imp fun {p q} hfar => ?_)
  rw [id, id, Scalar.distance_rat, not_lt]
  rw [abs_of_pos (by norm_num)] at hfar
  exact hdistance.trans hfar

/-! ## Descriptions -/

section Descriptions

variable {α : Type} {maxListed : Int} {excluded listed : List α}

lemma ofExclusions_eq_all_iff : ofExclusions maxListed excluded = .all ↔ excluded = [] := by
  unfold ofExclusions
  split_ifs with hempty hmany
  · simpa using hempty
  · simpa using hempty
  · simpa using hempty

/-- Exclusions are listed exactly if there are some and not too many, and then all of them are. -/
lemma ofExclusions_eq_without_iff :
    ofExclusions maxListed excluded = .without listed ↔
      listed = excluded ∧ 1 ≤ excluded.length ∧ (excluded.length : Int) ≤ maxListed := by
  unfold ofExclusions
  split_ifs with hempty hmany
  · simp [List.isEmpty_iff.1 hempty]
  · simp [not_le.2 hmany]
  · have hlength : 1 ≤ excluded.length := List.length_pos_iff.2 (by simpa using hempty)
    simp [hlength, not_lt.1 hmany, eq_comm]

end Descriptions

/-- Exclusions are never told in the words for all numbers, unless there are none. -/
lemma text_ofExclusions_eq_iff {maxListed : Int} {excluded : List Float} :
    (ofExclusions maxListed excluded).text = Range.allRealNumbers ↔ excluded = [] := by
  rw [← @ofExclusions_eq_all_iff Float maxListed excluded]
  refine ⟨fun htext => ?_, fun hall => by rw [hall]; rfl⟩
  unfold ofExclusions at htext ⊢
  split_ifs at htext ⊢
  · rfl
  · exact absurd htext (by decide)
  · -- a list of exclusions begins with the variable
    have hfirst := congrArg (fun s : String => s.toList.head?) htext
    simp [text, Range.allRealNumbers] at hfirst

/-! ## The domain and the exclusions of a function -/

/-- **A sweep tells all undefined points.**  Over any settings and any grid, if nothing shows in the
expression, a function has all numbers for its domain exactly if it is finite on the whole grid; the
exclusions tell where it is not, and they are listed, all of them, exactly if there are some and not
too many.  Points are rounded by their exact values.  With the usual distance nothing is lost on the
grid of tenths. -/
theorem excludes_undefined (s : Settings) {text : List Char} (g : Float → Float)
    {points : List Float} (hnone : restriction? text = none)
    (hpoints : s.gridPoints s.domainGrid = .ok points) :
    (∃ d excluded,
      Report.domainOf s text (fun x => .ofFloat (g x)) = .ok d ∧
      Report.exclusions s (fun x => .ofFloat (g x)) = .ok excluded ∧
      (d.text = Range.allRealNumbers ↔ ∀ x ∈ points, (g x).isFinite = true) ∧
      Covers s.domain.dedupDistance (undefinedPoints (fun x => .ofFloat (g x)) points) excluded ∧
      ∀ listed, d = .without listed ↔
        listed = excluded ∧ 1 ≤ excluded.length ∧ (excluded.length : Int) ≤ s.domain.maxListed) ∧
    (∀ x : Float, IsTenthOf x (Scalar.tenth x)) ∧
    ∀ f : ℚ → Value ℚ,
      exclusions Rule.standard.dedupDistance f (multiples (1 / 10) 200) =
        undefinedPoints f (multiples (1 / 10) 200) := by
  have hsingle := requireSingle_eq_ok (fun x => Value.isSingle_ofFloat (g x)) points
  refine ⟨⟨ofExclusions s.domain.maxListed
      (exclusions s.domain.dedupDistance (fun x => .ofFloat (g x)) points), _, ?_, ?_, ?_,
      covers_exclusions _ _ _, fun listed => ofExclusions_eq_without_iff⟩,
    isTenthOf_nearestTenth, exclusions_multiples ?_ 200⟩
  · simp only [Report.domainOf, hnone, hpoints, hsingle, ok_bind, of]
  · rw [Report.exclusions, hpoints, ok_bind, hsingle, ok_bind]
  · rw [text_ofExclusions_eq_iff, exclusions_eq_nil_iff]
    simp only [Value.isFinite_ofFloat]
  · change (0.05 : ℚ) ≤ 1 / 10
    norm_num

/-- The reciprocal of twice what a number exceeds two by, which there is only above two. -/
def aboveTwo (x : Float) : Float := 1.0 / ((x - 2.0).abs + (x - 2.0))

/-- Settings that sweep over the numbers around two in steps of four hundredths. -/
def aroundTwo : Settings := { domainGrid := ⟨1.8, 2.2, 0.04⟩ }

/-- Six points of the sweep have no value.  Rounded they are three, and all three are listed. -/
theorem excludes_undefined_aboveTwo :
    restriction? "1/(abs(x-2)+x-2)".toList = none ∧
      aroundTwo.gridPoints aroundTwo.domainGrid =
        .ok [1.8, 1.84, 1.88, 1.92, 1.96, 2.0, 2.04, 2.08, 2.12, 2.16, 2.2] ∧
      Report.domainOf aroundTwo "1/(abs(x-2)+x-2)".toList (fun x => .ofFloat (aboveTwo x)) =
        .ok (.without [1.8, 1.9, 2.0]) ∧
      Covers 0.05 [1.8, 1.84, 1.88, 1.92, 1.96, 2.0] [1.8, 1.9, 2.0] ∧
      IsTenthOf 1.88 1.9 ∧ (Domain.without [1.8, 1.9, 2.0]).text = "x ≠ 1.8, 1.9, 2" := by
  have hnone : restriction? "1/(abs(x-2)+x-2)".toList = none := by decide +kernel
  have hpoints : aroundTwo.gridPoints aroundTwo.domainGrid =
      .ok [1.8, 1.84, 1.88, 1.92, 1.96, 2.0, 2.04, 2.08, 2.12, 2.16, 2.2] := by decide +kernel
  have hundefined : undefinedPoints (fun x => .ofFloat (aboveTwo x))
      [1.8, 1.84, 1.88, 1.92, 1.96, 2.0, 2.04, 2.08, 2.12, 2.16, 2.2] =
        [1.8, 1.84, 1.88, 1.92, 1.96, 2.0] := by decide +kernel
  have hfound : Report.exclusions aroundTwo (fun x => .ofFloat (aboveTwo x)) =
      .ok [1.8, 1.9, 2.0] := by decide +kernel
  have htext : (Domain.without [1.8, 1.9, 2.0]).text = "x ≠ 1.8, 1.9, 2" := by decide +kernel
  have hvalue : Scalar.tenth (1.88 : Float) = 1.9 := by decide +kernel
  obtain ⟨⟨d, excluded, hd, hexcluded, -, hcovers, hlisted⟩, htenth, -⟩ :=
    excludes_undefined aroundTwo aboveTwo hnone hpoints
  obtain rfl := Except.ok.inj (hexcluded.symm.trans hfound)
  obtain rfl := (hlisted [1.8, 1.9, 2.0]).2 ⟨rfl, by decide, by decide⟩
  have hrounded := htenth 1.88
  rw [hvalue] at hrounded
  rw [hundefined] at hcovers
  exact ⟨hnone, hpoints, hd, hcovers, hrounded, htext⟩

end Domain

end CurveSketch
