import CurveSketch.Asymptote
import CurveSketch.Proofs.Number.Opposite
import CurveSketch.Proofs.Rejecting
import CurveSketch.Proofs.Spread

/-!
# Which suspected asymptotes are returned

Suspects near an earlier one are dropped.  What is left is spread out, and nothing is dropped
without something near it that was found before.

**Walks.**  Candidates come in the order of their points (`pairwise_map_x_walk`), and around each
suspect a walk falls into what is returned before it and after it (`walk_append_cons`).  This holds
over every type of numbers.

**Scans.**  `IsWalk` says over which points a range is walked and in which steps.  A scan that
returns anything has gone on such a walk (`exists_isWalk`), and returns what was found on it
(`IsWalk.scan_eq`).  **`scan_spec`** says all of it together.
-/

namespace CurveSketch.Asymptote

open Number

section Walks

variable {α : Type} [Scalar α] {f : α → Value α} {step threshold distance x : α}
  {points before after : List α} {c : Candidate α}

/-- A candidate is where its point is. -/
lemma x_of_candidateAt? (h : candidateAt? f step threshold x = some c) : c.x = x := by
  obtain ⟨method, -, rfl⟩ := Option.map_eq_some_iff.1 h
  rfl

lemma flagged_append_cons (h : candidateAt? f step threshold x = some c) :
    flagged f step threshold (before ++ x :: after) =
      flagged f step threshold before ++ c :: flagged f step threshold after := by
  rw [flagged, List.filterMap_append, List.filterMap_cons_some h]
  rfl

lemma walk_sublist_flagged :
    (walk f step threshold distance points).Sublist (flagged f step threshold points) :=
  keepApart_sublist _

/-- The positions of suspects are points of the walk, in order. -/
lemma map_x_flagged_sublist : ((flagged f step threshold points).map (·.x)).Sublist points := by
  induction points with
  | nil => exact .slnil
  | cons x rest ih =>
      cases hx : candidateAt? f step threshold x with
      | none =>
          rw [flagged, List.filterMap_cons_none hx]
          exact ih.cons x
      | some c =>
          rw [flagged, List.filterMap_cons_some hx, List.map_cons, x_of_candidateAt? hx]
          exact ih.cons_cons x

/-- Walks that go one way find candidates that go one way. -/
lemma pairwise_map_x_walk {r : α → α → Prop} (h : points.Pairwise r) :
    ((walk f step threshold distance points).map (·.x)).Pairwise r :=
  h.sublist ((walk_sublist_flagged.map _).trans map_x_flagged_sublist)

/-- **A suspect is returned at its place, or it is near to one that is returned of those before
it.** -/
lemma walk_append_cons (h : candidateAt? f step threshold x = some c) :
    ∃ earlier later, earlier.Sublist (flagged f step threshold before) ∧
      later.Sublist (flagged f step threshold after) ∧
      (walk f step threshold distance (before ++ x :: after) = earlier ++ c :: later ∨
        walk f step threshold distance (before ++ x :: after) = earlier ++ later ∧
          ∃ k ∈ earlier, Scalar.distance k.x x < distance) := by
  obtain ⟨later, hlater, hkept⟩ := keepApart_append_cons Candidate.x distance
    (flagged f step threshold before) c (flagged f step threshold after)
  rw [← flagged_append_cons h, x_of_candidateAt? h] at hkept
  exact ⟨_, later, walk_sublist_flagged, hlater, hkept⟩

end Walks

/-! ## Scans -/

/-- A range that makes sense is walked over these points, which are so many steps of this size. -/
structure IsWalk (places : Int) (low high threshold : Quantity) (steps : Int) (step : Float)
    (points : List Float) : Prop where
  valid : check low high threshold steps = .ok ()
  step_eq : (high.sub low >>= fun length => length.divide (.whole steps)) = .ok step
  points_eq : Grid.points places low high (.real step) = .ok points

lemma ofNumber_eq_ok_iff {β : Type} {r : Except NumberError β} {b : β} :
    ofNumber r = .ok b ↔ r = .ok b := by
  cases r <;> simp [ofNumber]

section Scans

variable {places : Int} {dedupFactor step : Float} {f : Float → Value Float}
  {low high threshold : Quantity} {steps : Int} {points : List Float}
  {found : List (Candidate Float)}

/-- A scan goes on its walk, and fails where the values at a point cannot be judged. -/
lemma IsWalk.scan_eq (h : IsWalk places low high threshold steps step points) :
    scan places dedupFactor f low high threshold steps =
      match points.findSome? (faultAt? f step threshold.toFloat) with
      | some cause => .error (.number cause)
      | none => .ok (walk f step threshold.floor (step * dedupFactor) points) := by
  obtain ⟨length, hlength, hstep⟩ := bind_eq_ok_iff.1 h.step_eq
  rw [scan, h.valid, ok_bind, hlength]
  change (ofNumber (length.divide (.whole steps)) >>= _) = _
  rw [hstep]
  change (ofNumber (Grid.points places low high (.real step)) >>= _) = _
  rw [h.points_eq]
  rfl

lemma IsWalk.scan_eq_ok_iff (h : IsWalk places low high threshold steps step points) :
    scan places dedupFactor f low high threshold steps = .ok found ↔
      (∀ x ∈ points, faultAt? f step threshold.toFloat x = none) ∧
        walk f step threshold.floor (step * dedupFactor) points = found := by
  rw [h.scan_eq]
  cases hfault : points.findSome? (faultAt? f step threshold.toFloat) with
  | none => simpa using fun _ => List.findSome?_eq_none_iff.1 hfault
  | some cause =>
      obtain ⟨x, hx, hcause⟩ := List.exists_of_findSome?_eq_some hfault
      simp only [reduceCtorEq, false_iff]
      rintro ⟨hnone, -⟩
      rw [hnone x hx] at hcause
      cases hcause

/-- A scan that returns anything has gone on a walk. -/
lemma exists_isWalk (h : scan places dedupFactor f low high threshold steps = .ok found) :
    ∃ step points, IsWalk places low high threshold steps step points := by
  obtain ⟨⟨⟩, hvalid, h⟩ := bind_eq_ok_iff.1 h
  obtain ⟨length, hlength, h⟩ := bind_eq_ok_iff.1 h
  obtain ⟨step, hstep, h⟩ := bind_eq_ok_iff.1 h
  obtain ⟨points, hpoints, -⟩ := bind_eq_ok_iff.1 h
  rw [ofNumber_eq_ok_iff] at hlength hstep hpoints
  exact ⟨step, points, hvalid, bind_eq_ok_iff.2 ⟨length, hlength, hstep⟩, hpoints⟩

/-- No two of the candidates that a walk finds are near to each other. -/
lemma not_distance_lt_of_walk
    (h : walk f step threshold.floor (step * dedupFactor) points = found) {i j : ℕ}
    (hi : i < found.length) (hj : j < found.length) (hij : i ≠ j) :
    ¬ Scalar.distance found[i].x found[j].x < step * dedupFactor := by
  subst h
  have hapart := List.pairwise_iff_getElem.1
    (pairwise_keepApart Candidate.x (step * dedupFactor) (flagged f step threshold.floor points))
  rcases Nat.lt_or_gt_of_ne hij with hlt | hgt
  · exact hapart i j hi hj hlt
  · rw [distance_lt_comm]
    exact hapart j i hj hi hgt

variable (places dedupFactor f low high threshold steps) in
/-- **What a scan returns.**  A scan that returns anything has gone on a walk.  Over a walk on which
every point can be judged it returns candidates, and these are suspects of the walk, in its order; no
two are near to each other; each suspect that is not returned is near to one that is returned and was
found before it; and the positions are those of the candidates.

The walk is split at a suspect `c`: what is returned of the points before it, and then either `c`
itself or nothing in its place. -/
theorem scan_spec :
    (∀ found, scan places dedupFactor f low high threshold steps = .ok found →
      ∃ step points, IsWalk places low high threshold steps step points) ∧
    ∀ step points, IsWalk places low high threshold steps step points →
      ((∃ found, scan places dedupFactor f low high threshold steps = .ok found) ↔
        ∀ x ∈ points, faultAt? f step threshold.toFloat x = none) ∧
      ∀ found, scan places dedupFactor f low high threshold steps = .ok found →
        positions places dedupFactor f low high threshold steps = .ok (found.map (·.x)) ∧
        found.Sublist (flagged f step threshold.floor points) ∧
        (∀ i j (hi : i < found.length) (hj : j < found.length), i ≠ j →
          ¬ Scalar.distance found[i].x found[j].x < step * dedupFactor) ∧
        (∀ before x after c, points = before ++ x :: after →
          candidateAt? f step threshold.floor x = some c →
          ∃ earlier later, earlier.Sublist (flagged f step threshold.floor before) ∧
            later.Sublist (flagged f step threshold.floor after) ∧
            (found = earlier ++ c :: later ∨
              found = earlier ++ later ∧
                ∃ k ∈ earlier, Scalar.distance k.x x < step * dedupFactor)) ∧
        (points.Pairwise (· ≤ ·) → (found.map (·.x)).Pairwise (· ≤ ·)) := by
  refine ⟨fun found hscan => exists_isWalk hscan, fun step points h => ⟨⟨?_, ?_⟩, ?_⟩⟩
  · rintro ⟨found, hscan⟩
    exact (h.scan_eq_ok_iff.1 hscan).1
  · intro hjudged
    exact ⟨_, h.scan_eq_ok_iff.2 ⟨hjudged, rfl⟩⟩
  · intro found hscan
    obtain ⟨-, hwalk⟩ := h.scan_eq_ok_iff.1 hscan
    refine ⟨?_, ?_, fun i j hi hj hij => not_distance_lt_of_walk hwalk hi hj hij, ?_, ?_⟩
    · rw [positions, hscan]
      rfl
    · exact hwalk ▸ walk_sublist_flagged
    · rintro before x after c rfl hc
      exact hwalk ▸ walk_append_cons hc
    · intro hordered
      exact hwalk ▸ pairwise_map_x_walk hordered

end Scans

/-- A line with two holes in it, half a unit apart. -/
def holed (x : Float) : Value Float := if x == 0.0 || x == 0.5 then .undefined else .finite x

/-- Of the two holes only the first is returned when they are two steps apart and ten are too
near. -/
example : (scan 10 10.0 holed (.whole (-1)) (.whole 1) (.whole 10) 8).toOption =
    some [⟨0.0, .undefined⟩] := by decide +kernel

/-- The line with two holes can be judged at all points, so the second hole is near to a candidate
that is returned. -/
theorem scan_spec_of_holed :
    IsWalk 10 (.whole (-1)) (.whole 1) (.whole 10) 8 0.25
      [-1.0, -0.75, -0.5, -0.25, 0.0, 0.25, 0.5, 0.75, 1.0] ∧
    ∃ found, scan 10 10.0 holed (.whole (-1)) (.whole 1) (.whole 10) 8 = .ok found ∧
      (⟨0.5, .undefined⟩ ∈ found ∨ ∃ k ∈ found, Scalar.distance k.x 0.5 < 0.25 * 10.0) := by
  have hwalk : IsWalk 10 (.whole (-1)) (.whole 1) (.whole 10) 8 0.25
      [-1.0, -0.75, -0.5, -0.25, 0.0, 0.25, 0.5, 0.75, 1.0] :=
    ⟨rfl, by decide +kernel, by decide +kernel⟩
  obtain ⟨-, hall⟩ := scan_spec 10 10.0 holed (.whole (-1)) (.whole 1) (.whole 10) 8
  obtain ⟨hreturns, hspec⟩ := hall _ _ hwalk
  obtain ⟨found, hscan⟩ := hreturns.2 (by decide +kernel)
  obtain ⟨-, -, -, hcovers, -⟩ := hspec found hscan
  obtain ⟨earlier, later, -, -, rfl | ⟨rfl, k, hk, hnear⟩⟩ :=
    hcovers [-1.0, -0.75, -0.5, -0.25, 0.0, 0.25] 0.5 [0.75, 1.0] ⟨0.5, .undefined⟩ rfl
      (by decide +kernel)
  · exact ⟨hwalk, _, hscan, .inl (by simp)⟩
  · exact ⟨hwalk, _, hscan, .inr ⟨k, List.mem_append_left _ hk, hnear⟩⟩

end CurveSketch.Asymptote
