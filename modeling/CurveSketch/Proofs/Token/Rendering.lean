import CurveSketch.Proofs.Token.Splitting
import CurveSketch.Token
import Mathlib.Data.List.Basic

/-!
# Written tokens split again

Tokens that are written out as text and split again come back with their texts.  Names that were told
apart come back as names, and the digits of a constant as a number (`Kind.asRead`).

* `readAgain` — the tokens that are read, each at its place in the written text.
* **`splits_render`** — the written text splits into the same tokens, read that way.  Two tokens that
  would merge have a blank between them, and `merges` looks no further than the next character.
* `mem_render` — nothing else is written but blanks between tokens.
* `trim_render` — nothing is cut off at the ends of a written text.
* `render_congr` — only the texts of the tokens matter.
-/

namespace CurveSketch.Token

open Text

/-- How a token of a kind is read when it has been written out. -/
def Kind.asRead : Kind → Kind
  | .const => .number
  | .var | .func => .name
  | k => k

/-- Kind and text of a token when it has been written out and is read again. -/
def readShape (t : Token) : Kind × List Char := (t.kind.asRead, t.text)

/-- The text of every token is written like a token of its kind. -/
def Legible (ts : List Token) : Prop := ∀ t ∈ ts, Lexeme t.kind.asRead t.text

/-- No text is split into kinds that are read otherwise. -/
lemma Lexeme.asRead_eq {k : Kind} {text : List Char} (h : Lexeme k text) : k.asRead = k := by
  cases h with
  | symbol hc => rcases kind_of_symbolKind? hc with rfl | rfl | rfl <;> rfl
  | _ => rfl

/-- The tokens of a text are legible, and read as they are. -/
lemma Splits.legible {p : ℕ} {cs : List Char} {ts : List Token} (h : Splits p cs ts) :
    Legible ts ∧ ts.map readShape = ts.map shape := by
  have hkind : ∀ t ∈ ts, t.kind.asRead = t.kind := fun t ht => (h.lexeme t ht).asRead_eq
  refine ⟨fun t ht => ?_, List.map_congr_left fun t ht => ?_⟩
  · rw [hkind t ht]
    exact h.lexeme t ht
  · rw [readShape, shape, hkind t ht]

lemma Legible.cons {t : Token} {ts : List Token} (h : Legible (t :: ts)) :
    Lexeme t.kind.asRead t.text ∧ Legible ts :=
  ⟨h t List.mem_cons_self, fun u hu => h u (List.mem_cons_of_mem t hu)⟩

/-! ## Splitting what is written -/

lemma merges_nil (left : List Char) : merges left [] = false := by
  unfold merges
  split_ifs <;> simp

/-- A blank keeps what follows from merging. -/
lemma merges_blank (left rest : List Char) : merges left (' ' :: rest) = false := by
  have hblank : isJoining ' ' = false := by decide +kernel
  unfold merges
  split_ifs
  · simpa using hblank
  · simp

/-- Whether two texts merge is a matter of the next character. -/
lemma merges_append (left rest : List Char) {right : List Char} (hne : right ≠ []) :
    merges left (right ++ rest) = merges left right := by
  obtain ⟨c, right, rfl⟩ := List.exists_cons_of_ne_nil hne
  rfl

/-- What is written behind a token does not merge with it. -/
lemma merges_renderAfter (left : List Char) {ts : List Token} (h : Legible ts) :
    merges left (renderAfter left ts) = false := by
  cases ts with
  | nil => exact merges_nil left
  | cons t ts =>
      rw [renderAfter]
      split_ifs with hmerge
      · exact merges_blank left _
      · rw [merges_append left _ h.cons.1.ne_nil]
        simpa using hmerge

/-- One written token is split off. -/
lemma Splits.written {p : ℕ} {k : Kind} {text rest : List Char} {us : List Token}
    (hlex : Lexeme k text) (hmerge : merges text rest = false)
    (h : Splits (p + text.length) rest us) : Splits p (text ++ rest) (⟨k, text, p⟩ :: us) :=
  .taken (lexeme?_append_of_not_merges hlex hmerge) h

/-- The tokens that are read where `ts` are written behind the text `left`, from the position `p` on:
each with its kind as it is read, at the place where its text begins. -/
def readAfter (left : List Char) (p : ℕ) : List Token → List Token
  | [] => []
  | t :: ts =>
    let start := if merges left t.text then p + 1 else p
    ⟨t.kind.asRead, t.text, start⟩ :: readAfter t.text (start + t.text.length) ts

/-- The tokens that are read where `ts` are written. -/
def readAgain : List Token → List Token
  | [] => []
  | t :: ts => ⟨t.kind.asRead, t.text, 0⟩ :: readAfter t.text t.text.length ts

lemma shape_readAfter (left : List Char) (p : ℕ) (ts : List Token) :
    (readAfter left p ts).map shape = ts.map readShape := by
  induction ts generalizing left p with
  | nil => rfl
  | cons t ts ih =>
      rw [readAfter, List.map_cons, List.map_cons, ih]
      rfl

lemma shape_readAgain (ts : List Token) : (readAgain ts).map shape = ts.map readShape := by
  cases ts with
  | nil => rfl
  | cons t ts =>
      rw [readAgain, List.map_cons, List.map_cons, shape_readAfter]
      rfl

lemma splits_renderAfter {ts : List Token} (h : Legible ts) (left : List Char) (p : ℕ) :
    Splits p (renderAfter left ts) (readAfter left p ts) := by
  induction ts generalizing left p with
  | nil => exact .done p
  | cons t ts ih =>
      obtain ⟨hlex, hts⟩ := h.cons
      have hmerge := merges_renderAfter t.text hts
      rw [renderAfter, readAfter]
      split_ifs
      · exact .blank (by decide) (.written hlex hmerge (ih hts t.text (p + 1 + t.text.length)))
      · exact .written hlex hmerge (ih hts t.text (p + t.text.length))

lemma splits_readAgain {ts : List Token} (h : Legible ts) : Splits 0 (render ts) (readAgain ts) := by
  cases ts with
  | nil => exact .done 0
  | cons t ts =>
      obtain ⟨hlex, hts⟩ := h.cons
      refine .written hlex (merges_renderAfter t.text hts) ?_
      rw [Nat.zero_add]
      exact splits_renderAfter hts t.text t.text.length

/-- **Written tokens split again** into the same texts, with their kinds as they are read. -/
lemma splits_render {ts : List Token} (h : Legible ts) :
    ∃ us, Splits 0 (render ts) us ∧ us.map shape = ts.map readShape :=
  ⟨readAgain ts, splits_readAgain h, shape_readAgain ts⟩

/-! ## What is written -/

lemma mem_renderAfter {c : Char} {left : List Char} {ts : List Token}
    (h : c ∈ renderAfter left ts) : c = ' ' ∨ ∃ t ∈ ts, c ∈ t.text := by
  induction ts generalizing left with
  | nil => simp [renderAfter] at h
  | cons t ts ih =>
      have htail : c ∈ renderAfter t.text ts → c = ' ' ∨ ∃ u ∈ t :: ts, c ∈ u.text := fun h =>
        (ih h).imp id fun ⟨u, hu, hc⟩ => ⟨u, List.mem_cons_of_mem t hu, hc⟩
      rw [renderAfter] at h
      split_ifs at h
      · rcases List.mem_cons.1 h with h | h
        · exact Or.inl h
        · rcases List.mem_append.1 h with h | h
          · exact Or.inr ⟨t, List.mem_cons_self, h⟩
          · exact htail h
      · rcases List.mem_append.1 h with h | h
        · exact Or.inr ⟨t, List.mem_cons_self, h⟩
        · exact htail h

/-- Nothing is written but tokens and blanks between them. -/
lemma mem_render {c : Char} {ts : List Token} (h : c ∈ render ts) :
    c = ' ' ∨ ∃ t ∈ ts, c ∈ t.text := by
  cases ts with
  | nil => simp [render] at h
  | cons t ts =>
      rcases List.mem_append.1 h with h | h
      · exact Or.inr ⟨t, List.mem_cons_self, h⟩
      · exact (mem_renderAfter h).imp id fun ⟨u, hu, hc⟩ => ⟨u, List.mem_cons_of_mem t hu, hc⟩

/-- The last character written belongs to a token. -/
lemma getLast_append_renderAfter {left : List Char} {ts : List Token} (hleft : left ≠ [])
    (h : Legible ts) : ∀ c ∈ (left ++ renderAfter left ts).getLast?,
      c ∈ left ∨ ∃ t ∈ ts, c ∈ t.text := by
  induction ts generalizing left with
  | nil =>
      intro c hc
      rw [renderAfter, List.append_nil] at hc
      exact Or.inl (List.mem_of_getLast? hc)
  | cons t ts ih =>
      intro c hc
      obtain ⟨hlex, hts⟩ := h.cons
      have hne : t.text ++ renderAfter t.text ts ≠ [] := by simp [hlex.ne_nil]
      have hlast : c ∈ (t.text ++ renderAfter t.text ts).getLast? := by
        rw [renderAfter] at hc
        split_ifs at hc
        · rwa [List.cons_append, List.getLast?_append_of_ne_nil _ (by simp),
            List.getLast?_cons_of_ne_nil hne] at hc
        · rwa [List.getLast?_append_of_ne_nil _ hne] at hc
      rcases ih hlex.ne_nil hts c hlast with hc | ⟨u, hu, hc⟩
      · exact Or.inr ⟨t, List.mem_cons_self, hc⟩
      · exact Or.inr ⟨u, List.mem_cons_of_mem t hu, hc⟩

lemma trim_eq_self {cs : List Char} (hhead : ∀ c ∈ cs.head?, isBlank c = false)
    (hlast : ∀ c ∈ cs.getLast?, isBlank c = false) : trim cs = cs := by
  have hkeep : ∀ ds : List Char, (∀ c ∈ ds.head?, isBlank c = false) →
      ds.dropWhile isBlank = ds := by
    intro ds hds
    cases ds with
    | nil => rfl
    | cons d ds => exact List.dropWhile_cons_of_neg (by simp [hds d rfl])
  rw [trim, trimWith, hkeep cs hhead, hkeep cs.reverse (by simpa using hlast),
    List.reverse_reverse]

/-- Nothing is cut off at the ends of a written text. -/
lemma trim_render {ts : List Token} (h : Legible ts) : trim (render ts) = render ts := by
  cases ts with
  | nil => rfl
  | cons t ts =>
      obtain ⟨hlex, hts⟩ := h.cons
      refine trim_eq_self ?_ ?_
      · obtain ⟨c, text, htext⟩ := List.exists_cons_of_ne_nil hlex.ne_nil
        intro d hd
        rw [render, htext] at hd
        obtain rfl : c = d := by simpa using hd
        exact hlex.not_isBlank c (by simp [htext])
      · intro c hc
        rcases getLast_append_renderAfter hlex.ne_nil hts c hc with hc | ⟨u, hu, hc⟩
        · exact hlex.not_isBlank c hc
        · exact (hts u hu).not_isBlank c hc

/-- Only the texts of the tokens are written. -/
lemma render_congr {ts us : List Token} (h : ts.map text = us.map text) :
    render ts = render us := by
  have hafter : ∀ left (ts us : List Token), ts.map text = us.map text →
      renderAfter left ts = renderAfter left us := by
    intro left ts us h
    induction ts generalizing left us with
    | nil => rw [List.map_eq_nil_iff.1 h.symm]
    | cons t ts ih =>
        obtain ⟨u, us, rfl, hu, hus⟩ := List.map_eq_cons_iff.1 h.symm
        rw [renderAfter, renderAfter, hu, ih t.text us hus.symm]
  cases ts with
  | nil => rw [List.map_eq_nil_iff.1 h.symm]
  | cons t ts =>
      obtain ⟨u, us, rfl, hu, hus⟩ := List.map_eq_cons_iff.1 h.symm
      rw [render, render, hu, hafter t.text ts us hus.symm]

end CurveSketch.Token
