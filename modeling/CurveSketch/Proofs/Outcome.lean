import CurveSketch.Proofs.NormalForm.Canonical
import CurveSketch.Proofs.Report
import CurveSketch.Session

/-!
# What an input is answered with

An input is tried in several ways: it is compiled, inspected, submitted to a session, or only
brought into normal form.  They all go the same way, and stop at the same place.

* `formCodes`, `curveCodes` — the codes of what is wrong before there is a normal form, and of what
  is wrong with a normal form.  No code is in both lists.
* `code_of_normalize`, `code_of_compile` — which of them each half of the way ends with.
* **`inspect_eq_submit`** — inspecting and submitting give one answer, and never fail.  It is that
  of compiling: the normal form and the report of the curve, or the wording and the code of the
  rejection.  Validating tells apart in which half a rejection came.
-/

namespace CurveSketch

open Text Token NormalForm

/-- The codes of inputs that have no normal form. -/
def Rejection.formCodes : List String :=
  ["EMPTY_INPUT", "TOO_LONG", "INVALID_CHARACTER", "UNKNOWN_IDENTIFIER", "UNBALANCED_PARENS"]

/-- The codes of normal forms that are the text of no curve. -/
def Rejection.curveCodes : List String :=
  ["SYNTAX_ERROR", "TOO_DEEP", "TOO_COMPLEX", "NO_NUMERIC_RESULT"]

open Rejection

/-! ## Before there is a normal form -/

lemma code_of_sourceText {limit : Int} {raw : List Char} {r : Rejection}
    (h : sourceText limit raw = .error r) : r.code = "EMPTY_INPUT" ∨ r.code = "TOO_LONG" := by
  simp only [sourceText] at h
  split_ifs at h
  · exact .inl (Except.error.inj h ▸ rfl)
  · exact .inr (Except.error.inj h ▸ rfl)

lemma code_of_tokenizeFrom {p : ℕ} {cs : List Char} {r : Rejection}
    (h : tokenizeFrom p cs = .error r) : r.code = "INVALID_CHARACTER" := by
  fun_induction tokenizeFrom p cs with
  | case1 p => simp at h
  | case2 p c cs hc ih => exact ih h
  | case3 p c cs hc hnone => exact Except.error.inj h ▸ rfl
  | case4 p c cs hc k text rest hlex ih =>
      cases hmore : tokenizeFrom (p + text.length) rest with
      | error r' =>
          obtain rfl : r' = r := by simpa [hmore, Except.map] using h
          exact ih hmore
      | ok us => simp [hmore, Except.map] at h

lemma code_of_classifyName {t : Token} {r : Rejection} (h : classifyName t = .error r) :
    r.code = "UNKNOWN_IDENTIFIER" := by
  unfold classifyName at h
  split_ifs at h
  split at h
  · simp at h
  · exact Except.error.inj h ▸ rfl

lemma code_of_classify {ts : List Token} {r : Rejection} (h : classify ts = .error r) :
    r.code = "UNKNOWN_IDENTIFIER" := by
  induction ts with
  | nil => simp [classify] at h
  | cons t ts ih =>
      rw [classify] at h
      rcases bind_eq_error_iff.1 h with h | ⟨v, -, h⟩
      · exact code_of_classifyName h
      · rcases bind_eq_error_iff.1 h with h | ⟨vs, -, h⟩
        · exact ih h
        · simp at h

lemma code_of_checkFrom {depth : ℕ} {ts : List Token} {r : Rejection}
    (h : checkFrom depth ts = .error r) : r.code = "UNBALANCED_PARENS" := by
  fun_induction checkFrom depth ts with
  | case1 => simp at h
  | case2 | case4 => exact Except.error.inj h ▸ rfl
  | case3 _ _ _ _ ih | case5 _ _ _ _ ih | case6 _ _ _ _ _ _ ih => exact ih h

/-- **An input without a normal form** is rejected with a code of the first list. -/
lemma code_of_normalize {limit : Int} {raw : List Char} {r : Rejection}
    (h : normalize limit raw = .error r) : r.code ∈ formCodes := by
  rcases bind_eq_error_iff.1 h with h | ⟨text, -, h⟩
  · rcases code_of_sourceText h with hcode | hcode <;> simp [formCodes, hcode]
  rcases bind_eq_error_iff.1 h with h | ⟨ts, -, h⟩
  · simp [formCodes, code_of_tokenizeFrom h]
  rcases bind_eq_error_iff.1 h with h | ⟨ws, -, h⟩
  · rcases bind_eq_error_iff.1 h with h | ⟨vs, -, h⟩
    · simp [formCodes, code_of_classify h]
    rcases bind_eq_error_iff.1 h with h | ⟨_, -, h⟩
    · simp [formCodes, code_of_checkFrom h]
    · simp at h
  · simp at h

/-! ## With a normal form -/

/-- **A normal form that is the text of no curve** is rejected with a code of the second list: what
could be wrong with its characters, its names and its parentheses was found before. -/
lemma code_of_compile {limits : Limits} {limit : Int} {raw text : List Char} {r : Rejection}
    (htext : normalize limit raw = .ok text) (h : Curve.compile limits text = .error r) :
    r.code ∈ curveCodes := by
  obtain ⟨ts, ws, -, hws, hne, hstandard, rfl⟩ := tokens_of_normalize htext
  obtain ⟨-, -, hwritten⟩ := normalTokens_eq_ok_iff.1 hws
  have hcanonical : Canonical (render ws) (readAgain ws) :=
    canonical_render hstandard hne (balanced_of_normalTokens hws) (hwritten ▸ apart_insertTimes _)
  rcases bind_eq_error_iff.1 h with h | ⟨tree, -, h⟩
  · rcases hcanonical.readTree_cases limits with ⟨e, he⟩ | ⟨r', hr', hcode⟩
    · simp [he] at h
    · obtain rfl : r' = r := Except.error.inj (hr'.symm.trans h)
      rcases hcode with hcode | hcode | hcode <;> simp [curveCodes, hcode]
  · dsimp only at h
    split_ifs at h
    exact Except.error.inj h ▸ List.mem_of_elem_eq_true rfl

lemma not_mem_formCodes {code : String} (h : code ∈ curveCodes) : code ∉ formCodes := by
  have hall : ∀ code ∈ curveCodes, code ∉ formCodes := by decide
  exact hall code h

/-! ## The same answer -/

/-- An input is rejected before there is a normal form of it, or with its normal form. -/
lemma validate_of_rejected {limits : Limits} {raw : List Char} {r : Rejection}
    (h : Curve.ofInput limits raw = .error r) :
    if r.code ∈ formCodes then validate limits raw = (false, some r.message)
    else r.code ∈ curveCodes ∧ validate limits raw = (true, none) := by
  rcases bind_eq_error_iff.1 h with h | ⟨text, htext, h⟩
  · rw [if_pos (code_of_normalize h), validate, h]
  · have hcode := code_of_compile htext h
    rw [if_neg (not_mem_formCodes hcode), validate, htext]
    exact ⟨hcode, rfl⟩

lemma validate_of_curve {limits : Limits} {raw : List Char} {curve : Curve}
    (h : Curve.ofInput limits raw = .ok curve) : validate limits raw = (true, none) := by
  rw [validate, (Curve.ofInput_cases h).1]

/-- **Inspecting an input and submitting it give one answer**, in every session, and it tells what
compiling the input comes to. -/
theorem inspect_eq_submit (raw : List Char) (session : Session) :
    ∃ o, inspect {} raw = .ok o ∧ (session.submit {} raw).1 = .outcome o ∧
      match Curve.ofInput ({} : Settings).limits raw with
      | .ok curve =>
        o.ok = true ∧ o.normal = some (String.ofList curve.text) ∧
          (∃ report, curve.report {} = .ok report ∧ o.report = some report) ∧
          o.error = none ∧ o.code = none ∧
          validate ({} : Settings).limits raw = (true, none)
      | .error cause =>
        o.ok = false ∧ o.normal = none ∧ o.report = none ∧
          o.error = some cause.message ∧ o.code = some cause.code ∧
          if cause.code ∈ formCodes then
            validate ({} : Settings).limits raw = (false, some cause.message)
          else
            cause.code ∈ curveCodes ∧ validate ({} : Settings).limits raw = (true, none) := by
  cases hcurve : Curve.ofInput ({} : Settings).limits raw with
  | ok curve =>
      obtain ⟨report, hreport, hsketch⟩ := Sketch.ofInput_eq_ok givesGrids_standard hcurve
      refine ⟨.accepted ⟨trim raw, curve, report⟩, by rw [inspect, hsketch],
        by rw [Session.submit, hsketch], ?_⟩
      exact ⟨rfl, rfl, ⟨report, hreport, rfl⟩, rfl, rfl, validate_of_curve hcurve⟩
  | error cause =>
      have hsketch := Sketch.ofInput_eq_error hcurve
      refine ⟨.rejected cause, by rw [inspect, hsketch], ?_, rfl, rfl, rfl, rfl, rfl,
        validate_of_rejected hcurve⟩
      -- an empty input is submitted in a case of its own, but answered like any other
      rw [Session.submit, hsketch]
      cases cause <;> rfl

end CurveSketch
