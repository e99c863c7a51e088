import CurveSketch.Proofs.Outcome

/-!
# What a session shows after a run

A step of a session either sets what is on the screen, whatever was there before, or only looks at
it.  So all that counts of a run is the last step of the first sort.

* `Step.sets`, `lastSet?` — that sort of steps, and the last of them in a run.
* `step_eq_of_sets`, `step_eq_of_not_sets` — what one step of either sort leaves.
* **`after_eq_lastSet`** — what a run leaves, by induction on the run.
* `Sketch.IsOf` — everything in a sketch was made from one input.
* `Shows`, **`shows_step`** — a session shows a sketch of the input, or a wording, or nothing; and
  every step keeps to this.
* **`after_fresh_eq`** — the whole of it, for the usual settings.
-/

namespace CurveSketch

open Number Text

namespace Session

/-- Whether the step sets what is on the screen. -/
def Step.sets : Step → Bool
  | .submit _ | .clear => true
  | .evaluate _ | .scan _ _ _ => false

/-- The last of the steps that sets what is on the screen. -/
def lastSet? (steps : List Step) : Option Step := (steps.filter Step.sets).getLast?

/-- What was typed, if a step of typing set what is on the screen. -/
def typed? : Option Step → Option (List Char)
  | some (.submit raw) => some raw
  | _ => none

lemma lastSet?_append (steps : List Step) (st : Step) :
    lastSet? (steps ++ [st]) = if st.sets then some st else lastSet? steps := by
  cases hst : st.sets <;> simp [lastSet?, hst]

lemma after_append (s : Settings) (session : Session) (steps : List Step) (st : Step) :
    session.after s (steps ++ [st]) = ((session.after s steps).step s st).2 := by
  simp [after]

variable {s : Settings}

/-! ## One step -/

/-- A step that sets what is on the screen leaves the same whatever was there. -/
lemma step_eq_of_sets (hs : s.GivesGrids) (session : Session) {st : Step} (hst : st.sets = true) :
    (session.step s st).2 = (fresh.step s st).2 := by
  cases st with
  | clear => rfl
  | submit raw =>
      cases hcurve : Curve.ofInput s.limits raw with
      | ok curve =>
          obtain ⟨report, -, hsketch⟩ := Sketch.ofInput_eq_ok hs hcurve
          simp only [step, submit, hsketch]
      | error cause =>
          have hsketch := Sketch.ofInput_eq_error hcurve
          simp only [step, submit, hsketch]
          cases cause <;> rfl
  | evaluate points => cases hst
  | scan low high threshold => cases hst

/-- Any other step leaves everything as it is, a scan that fails like one that does not. -/
lemma step_eq_of_not_sets (session : Session) {st : Step} (hst : st.sets = false) :
    (session.step s st).2 = session := by
  cases st with
  | clear => cases hst
  | submit raw => cases hst
  | evaluate points => rfl
  | scan low high threshold =>
      rw [step]
      split <;> rfl

/-! ## A run -/

/-- **A run leaves what the last step that sets it leaves**, and what was there before if there is
no such step.  By induction on the run from its end, as only its last step can matter more. -/
lemma after_eq_lastSet (hs : s.GivesGrids) (session : Session) (steps : List Step) :
    session.after s steps =
      match lastSet? steps with
      | some st => (fresh.step s st).2
      | none => session := by
  induction steps using List.reverseRecOn with
  | nil => rfl
  | append_singleton steps st ih =>
      rw [after_append, lastSet?_append]
      cases hst : st.sets with
      | true => exact step_eq_of_sets hs _ hst
      | false => rw [step_eq_of_not_sets _ hst]; exact ih

/-- An input that has a sketch leaves the sketch. -/
lemma after_submit_eq {session : Session} {raw : List Char} {sketch : Sketch}
    (h : Sketch.ofInput s raw = .ok sketch) :
    session.after s [.submit raw] = { current := some sketch } := by
  simp only [after, List.foldl, step, submit, h]

end Session

/-! ## What is shown -/

/-- The sketch is of the input: its text is the normal form of it, its curve is the one of that
text, and its report is the one on that curve. -/
structure Sketch.IsOf (s : Settings) (raw : List Char) (sketch : Sketch) : Prop where
  raw_eq : sketch.raw = trim raw
  text : normalize s.limits.inputLength raw = .ok sketch.curve.text
  curve : Curve.compile s.limits sketch.curve.text = .ok sketch.curve
  report : sketch.curve.report s = .ok sketch.report

/-- The value at a point of the curve of what was typed; NaN if nothing was, or it has no curve. -/
def valueOfTyped (s : Settings) (typed : Option (List Char)) (point : Datum) : Float :=
  match typed.map (Curve.ofInput s.limits) with
  | some (.ok curve) => curve.valueOf point
  | _ => notANumber

namespace Session

/-- The session shows what became of what was typed. -/
structure Shows (s : Settings) (typed : Option (List Char)) (session : Session) : Prop where
  /-- There is never a sketch together with a wording of what is wrong. -/
  exclusive : session.current = none ∨ session.error = none
  sketch : ∀ sketch ∈ session.current, ∃ raw ∈ typed, sketch.IsOf s raw
  value : ∀ point, session.valueOf point = valueOfTyped s typed point

lemma shows_empty : Shows s none {} where
  exclusive := .inl rfl
  sketch := by simp
  value _ := rfl

/-- A session shows what became of an input once it is submitted. -/
lemma shows_submit (hs : s.GivesGrids) (session : Session) (raw : List Char) :
    Shows s (some raw) (session.submit s raw).2 := by
  cases hcurve : Curve.ofInput s.limits raw with
  | ok curve =>
      obtain ⟨report, hreport, hsketch⟩ := Sketch.ofInput_eq_ok hs hcurve
      obtain ⟨text, htext, hcompile⟩ := bind_eq_ok_iff.1 hcurve
      obtain rfl : text = curve.text :=
        Except.ok.inj (htext.symm.trans (Curve.ofInput_cases hcurve).1)
      rw [submit, hsketch]
      exact
        { exclusive := .inr rfl
          sketch := by rintro _ ⟨⟩; exact ⟨raw, rfl, rfl, htext, hcompile, hreport⟩
          value := fun point => by simp only [valueOfTyped, Option.map_some, hcurve]; rfl }
  | error cause =>
      have hvalue : ∀ point, valueOfTyped s (some raw) point = notANumber := fun point => by
        simp only [valueOfTyped, Option.map_some, hcurve]
      rw [submit, Sketch.ofInput_eq_error hcurve]
      cases cause <;>
        exact
          { exclusive := .inl rfl, sketch := by simp, value := fun point => (hvalue point).symm }

/-- **A step keeps to it**: what is shown became of what was typed in the last step that sets it. -/
lemma shows_step (hs : s.GivesGrids) {session : Session} {last : Option Step}
    (h : Shows s (typed? last) session) (st : Step) :
    Shows s (typed? (if st.sets then some st else last)) (session.step s st).2 := by
  cases st with
  | submit raw => exact shows_submit hs session raw
  | clear => exact shows_empty
  | evaluate points => exact h
  | scan low high threshold =>
      rw [step_eq_of_not_sets session rfl]
      exact h

/-- What a fresh session shows after a run. -/
lemma shows_after (hs : s.GivesGrids) (steps : List Step) :
    Shows s (typed? (lastSet? steps)) (fresh.after s steps) := by
  induction steps using List.reverseRecOn with
  | nil => exact shows_empty
  | append_singleton steps st ih =>
      rw [after_append, lastSet?_append]
      exact shows_step hs ih st

/-- **After any run, a fresh session is as after the last step of it that sets what is on the
screen.**  It shows a sketch or a wording, never both; asking for values or asymptotes changes
nothing; a sketch that is shown is wholly of what was typed last; and values are those of its
curve. -/
theorem after_fresh_eq (steps : List Step) :
    fresh.after {} steps = fresh.after {} (lastSet? steps).toList ∧
      ((fresh.after {} steps).current = none ∨ (fresh.after {} steps).error = none) ∧
      (∀ points, ((fresh.after {} steps).step {} (.evaluate points)).2 = fresh.after {} steps) ∧
      (∀ low high threshold,
        ((fresh.after {} steps).step {} (.scan low high threshold)).2 = fresh.after {} steps) ∧
      (∀ sketch ∈ (fresh.after {} steps).current,
        ∃ raw, lastSet? steps = some (.submit raw) ∧ sketch.IsOf {} raw) ∧
      ∀ points, ((fresh.after {} steps).step {} (.evaluate points)).1 =
        .values (points.map (valueOfTyped {} (typed? (lastSet? steps)))) := by
  have hshows := shows_after givesGrids_standard steps
  refine ⟨?_, hshows.exclusive, fun points => rfl,
    fun low high threshold => step_eq_of_not_sets _ rfl, fun sketch hsketch => ?_, fun points => ?_⟩
  · rw [after_eq_lastSet givesGrids_standard]
    cases lastSet? steps <;> rfl
  · obtain ⟨raw, hraw, hof⟩ := hshows.sketch sketch hsketch
    refine ⟨raw, ?_, hof⟩
    cases hlast : lastSet? steps with
    | none => simp [hlast, typed?] at hraw
    | some st => cases st <;> simp_all [typed?]
  · exact congrArg Answer.values (List.map_congr_left fun point _ => hshows.value point)

/-- A run in which an input is rejected, one is accepted, and a scan fails behind it. -/
theorem after_fresh_eq_run :
    ∃ sketch steps, steps = [.submit "1/(".toList, .clear, .submit "2x".toList,
        .scan (.whole 1) (.whole 0) (.whole 5), .evaluate [.whole 3]] ∧
      (fresh.after {} steps).current = some sketch ∧ (fresh.after {} steps).error = none ∧
      sketch.IsOf {} "2x".toList ∧
      ((fresh.after {} steps).step {} (.evaluate [.text "0.5"])).1 =
        .values [valueOfTyped {} (some "2x".toList) (.text "0.5")] := by
  have hsome : (Curve.ofInput ({} : Settings).limits "2x".toList).toOption.isSome = true := by
    decide +kernel
  obtain ⟨curve, hcurve⟩ := exists_ok_of_isSome hsome
  obtain ⟨report, -, hsketch⟩ := Sketch.ofInput_eq_ok givesGrids_standard hcurve
  refine ⟨⟨trim "2x".toList, curve, report⟩, _, rfl, ?_⟩
  obtain ⟨hlast, -, -, -, hof, hvalues⟩ := after_fresh_eq [.submit "1/(".toList, .clear,
    .submit "2x".toList, .scan (.whole 1) (.whole 0) (.whole 5), .evaluate [.whole 3]]
  rw [show lastSet? _ = some (.submit "2x".toList) from rfl, Option.toList_some,
    after_submit_eq hsketch] at hlast
  have hcurrent := congrArg Session.current hlast
  obtain ⟨raw, hraw, hsketchOf⟩ := hof _ hcurrent
  obtain rfl : "2x".toList = raw := by simpa [lastSet?, Step.sets] using hraw
  exact ⟨hcurrent, congrArg Session.error hlast, hsketchOf, hvalues _⟩

end Session

end CurveSketch
