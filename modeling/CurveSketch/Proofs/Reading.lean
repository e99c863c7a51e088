import CurveSketch.Curve
import CurveSketch.Proofs.Grammar.Recognition
import CurveSketch.Proofs.Rejecting
import CurveSketch.Proofs.Size

/-!
# Reading a text as a tree

A text is read in three steps: it is split into tokens, these are read as an expression, and the tree
is measured.

* `readTree_eq_parse` — the steps after the first.
* `Expr.checkSize_cases` — a tree is small enough, or it has too many nodes or is too high.
* `derives_of_readTree`, `Derives.readTree_cases` — what is read has the tokens of an expression, and
  an expression is read unless it is too deep or too large.
* `Curve.ofInput_cases` — a curve that was made from an input has the text of its normal form, and
  the tree that is read from it.
-/

namespace CurveSketch

open Token

lemma readTree_eq_parse {limits : Limits} {text : List Char} {ts : List Token}
    (hts : tokenize text = .ok ts) (hne : ts ≠ []) :
    readTree limits text = parse limits.nesting ts >>= fun tree =>
      tree.checkSize limits.nodes limits.height >>= fun _ => .ok tree := by
  rw [readTree, hts, ok_bind, if_neg (by simp [hne])]

/-- A tree is small enough, or it has too many nodes or is too high. -/
lemma Expr.checkSize_cases (nodeLimit heightLimit : Int) (e : Expr) :
    e.checkSize nodeLimit heightLimit = .ok () ∨
      ∃ r, e.checkSize nodeLimit heightLimit = .error r ∧
        (r.code = "TOO_COMPLEX" ∨ r.code = "TOO_DEEP") := by
  cases h : e.checkSize nodeLimit heightLimit with
  | ok _ => exact .inl rfl
  | error r =>
      refine .inr ⟨r, rfl, ?_⟩
      rcases exceeded_of_checkSize h with ⟨rfl, -⟩ | ⟨rfl, -⟩
      exacts [.inl rfl, .inr rfl]

variable {limits : Limits} {text : List Char} {p : Phrase} {ts : List Token} {e : Expr} {n : ℕ}

lemma Derives.ne_nil (h : Derives p ts e n) : ts ≠ [] := by
  induction h with
  | ofTerm _ ih | ofSigned _ ih | ofPower _ ih | ofPrimary _ ih => exact ih
  | _ => simp

/-- A text that is read as an expression has the tokens of one. -/
lemma derives_of_readTree (h : readTree limits text = .ok e) :
    ∃ ts n, tokenize text = .ok ts ∧ Derives .expression ts e n := by
  obtain ⟨ts, hts, h⟩ := bind_eq_ok_iff.1 h
  split_ifs at h
  obtain ⟨tree, hparse, h⟩ := bind_eq_ok_iff.1 h
  obtain ⟨_, _, htree⟩ := bind_eq_ok_iff.1 h
  obtain rfl : tree = e := by simpa using htree
  obtain ⟨n, hderives, -⟩ := derives_of_parse hparse
  exact ⟨ts, n, hts, hderives⟩

/-- A text with the tokens of an expression is read, or it is too deep or too large. -/
lemma Derives.readTree_cases (h : Derives .expression ts e n) (hts : tokenize text = .ok ts) :
    readTree limits text = .ok e ∨
      ∃ r, readTree limits text = .error r ∧ (r.code = "TOO_DEEP" ∨ r.code = "TOO_COMPLEX") := by
  rw [readTree_eq_parse hts h.ne_nil, h.parse_eq, within]
  split_ifs
  · rw [ok_bind]
    rcases e.checkSize_cases limits.nodes limits.height with hsize | ⟨r, hr, hcode⟩
    · exact .inl (by rw [hsize, ok_bind])
    · exact .inr ⟨r, by rw [hr, error_bind], hcode.symm⟩
  · exact .inr ⟨_, rfl, .inl rfl⟩

/-- The text and the tree of a curve that was made from an input. -/
lemma Curve.ofInput_cases {raw : List Char} {f : Curve}
    (h : Curve.ofInput limits raw = .ok f) :
    normalize limits.inputLength raw = .ok f.text ∧ readTree limits f.text = .ok f.tree := by
  obtain ⟨text, htext, h⟩ := bind_eq_ok_iff.1 h
  obtain ⟨tree, htree, h⟩ := bind_eq_ok_iff.1 h
  dsimp only at h
  split_ifs at h
  obtain rfl := Except.ok.inj h
  exact ⟨htext, htree⟩

end CurveSketch
