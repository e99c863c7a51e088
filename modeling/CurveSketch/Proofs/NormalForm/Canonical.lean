import CurveSketch.Proofs.Grammar.Stops
import CurveSketch.Proofs.NormalForm.Imbalance
import CurveSketch.Proofs.NormalForm.Twice
import CurveSketch.Proofs.Reading

/-!
# The text of a normal form

A normal form is handed on as a text, and whoever takes it splits it into tokens again.  This file
says what they find there.

* **`tokenize_render_normalize`** — the tokens that were written, each read as its text says: so a
  written text can stand for its tokens.
* `Canonical` — what holds of the text of a normal form and of the tokens it splits into: names that
  are known, balanced parentheses, a star wherever two factors would otherwise touch, and a blank
  only where two tokens would otherwise be one.
* **`canonical_of_normalize`** — every normal form is such a text.  So the reader, which could reject a
  text for its characters, its names or its parentheses, can reject a normal form only for the order
  of its tokens or for its size.
-/

namespace CurveSketch

open Text Token Parse NormalForm

/-! ## The tokens that were written -/

/-- **What is written is read again.**  Any text that splits into tokens can be written anew from
them, and splits into tokens of the same kinds and texts.  The text of a normal form splits into the
tokens it was written from, names told apart being names again and constants numbers. -/
theorem tokenize_render_normalize (limit : Int) :
    (∀ text ts, tokenize text = .ok ts →
      ∃ us, tokenize (render ts) = .ok us ∧ us.map shape = ts.map shape) ∧
    ∀ raw c, normalize limit raw = .ok c →
      ∃ text ts ws us, sourceText limit raw = .ok text ∧ tokenize text = .ok ts ∧
        normalTokens ts = .ok ws ∧ c = render ws ∧ tokenize c = .ok us ∧
        us.map shape = ws.map readShape := by
  constructor
  · intro text ts hts
    obtain ⟨hlegible, hread⟩ := (tokenizeFrom_eq_ok_iff.1 hts).legible
    obtain ⟨us, hus, hshape⟩ := splits_render hlegible
    exact ⟨us, hus.tokenizeFrom_eq, hshape.trans hread⟩
  · intro raw c h
    obtain ⟨text, ts, ws, htext, hts, hws, rfl⟩ := normalize_eq_ok_iff.1 h
    have hstandard := standard_normalTokens (tokenizeFrom_eq_ok_iff.1 hts).lexeme hws
    obtain ⟨us, hus, hshape⟩ := splits_render (Standard.legible hstandard)
    exact ⟨text, ts, ws, us, htext, hts, hws, rfl, hus.tokenizeFrom_eq, hshape⟩

/-- Tokens that would merge, and a normal form with a constant and a function in it. -/
theorem tokenize_render_normalize_touching :
    (∃ ts us, tokenize "2*  **.5 1. .3 1.2.3".toList = .ok ts ∧
      tokenize (render ts) = .ok us ∧ us.map shape = ts.map shape) ∧
    normalize 10000 "2PI 1. .3csc(x)".toList =
      .ok "2*3.141592653589793*1. .3*(1/sin(x))".toList ∧
    ∃ ws us, "2*3.141592653589793*1. .3*(1/sin(x))".toList = render ws ∧
      tokenize "2*3.141592653589793*1. .3*(1/sin(x))".toList = .ok us ∧
      us.map shape = ws.map readShape := by
  have hsplit : (tokenize "2*  **.5 1. .3 1.2.3".toList).toOption.isSome = true := by
    decide +kernel
  have hnormal : normalize 10000 "2PI 1. .3csc(x)".toList =
      .ok "2*3.141592653589793*1. .3*(1/sin(x))".toList := by decide +kernel
  obtain ⟨ts, hts⟩ := exists_ok_of_isSome hsplit
  obtain ⟨us, hus, hshape⟩ := (tokenize_render_normalize 10000).1 _ ts hts
  obtain ⟨_, _, ws, vs, -, -, -, hws, hvs, hread⟩ := (tokenize_render_normalize 10000).2 _ _ hnormal
  exact ⟨⟨ts, us, hts, hus, hshape⟩, hnormal, ws, vs, hws, hvs, hread⟩

/-! ## Blanks -/

/-- What is in a list behind a stretch that it is not in. -/
lemma append_eq_of_not_mem {α : Type} {text rest before after : List α} {b : α} (hb : b ∉ text)
    (h : text ++ rest = before ++ b :: after) :
    ∃ more, before = text ++ more ∧ rest = more ++ b :: after := by
  rcases List.append_eq_append_iff.1 h with ⟨more, hbefore, hrest⟩ | ⟨more, htext, hafter⟩
  · exact ⟨more, hbefore, hrest⟩
  · cases more with
    | nil => exact ⟨[], by simpa using htext.symm, by simpa using hafter.symm⟩
    | cons c more =>
        obtain ⟨rfl, -⟩ := List.cons.inj hafter
        exact absurd (by simp [htext]) hb

/-- The place `p` of a text holds a blank that keeps two tokens of it apart. -/
def Separates (p : ℕ) (ts : List Token) : Prop :=
  ∃ u v, [u, v] <:+: ts ∧ u.position + u.text.length = p ∧ v.position = p + 1

lemma Separates.cons {p : ℕ} {ts : List Token} (h : Separates p ts) (t : Token) :
    Separates p (t :: ts) := by
  obtain ⟨u, v, hinfix, hplace⟩ := h
  exact ⟨u, v, List.infix_cons_iff.2 (.inr hinfix), hplace⟩

/-- A blank behind a token that was written, ending at the place `p`, is one space between two
tokens. -/
lemma separates_renderAfter {ts : List Token} (h : Legible ts) {t : Token} {p : ℕ}
    (ht : t.position + t.text.length = p) {before after : List Char} {b : Char}
    (hb : isBlank b = true) (hcs : renderAfter t.text ts = before ++ b :: after) :
    b = ' ' ∧ Separates (p + before.length) (t :: readAfter t.text p ts) := by
  induction ts generalizing t p before with
  | nil => simp [renderAfter] at hcs
  | cons next ts ih =>
      obtain ⟨hlex, hts⟩ := h.cons
      have hnot : b ∉ next.text := fun hmem => by simp [hlex.not_isBlank b hmem] at hb
      -- behind the next token the same holds with that token in place of `t`
      have hbehind : ∀ start before, next.text ++ renderAfter next.text ts = before ++ b :: after →
          b = ' ' ∧ Separates (start + before.length) (⟨next.kind.asRead, next.text, start⟩ ::
            readAfter next.text (start + next.text.length) ts) := by
        intro start before hcs
        obtain ⟨more, rfl, hrest⟩ := append_eq_of_not_mem hnot hcs
        rw [List.length_append, ← Nat.add_assoc]
        exact ih hts (t := ⟨next.kind.asRead, next.text, start⟩) rfl hrest
      rw [renderAfter] at hcs
      rw [readAfter]
      split_ifs at hcs ⊢ with hmerge
      · cases before with
        | nil =>
            obtain ⟨hblank, -⟩ := List.cons.inj hcs
            exact ⟨hblank.symm, t, _, ⟨[], _, rfl⟩, ht, rfl⟩
        | cons d before =>
            obtain ⟨-, hrest⟩ := List.cons.inj hcs
            obtain ⟨hblank, hsep⟩ := hbehind (p + 1) before hrest
            rw [List.length_cons, Nat.add_comm before.length, ← Nat.add_assoc]
            exact ⟨hblank, hsep.cons t⟩
      · obtain ⟨hblank, hsep⟩ := hbehind p before hcs
        exact ⟨hblank, hsep.cons t⟩

lemma separates_render {ts : List Token} (h : Legible ts) {before after : List Char} {b : Char}
    (hb : isBlank b = true) (hcs : render ts = before ++ b :: after) :
    b = ' ' ∧ Separates before.length (readAgain ts) := by
  cases ts with
  | nil => simp [render] at hcs
  | cons t ts =>
      obtain ⟨hlex, hts⟩ := h.cons
      have hnot : b ∉ t.text := fun hmem => by simp [hlex.not_isBlank b hmem] at hb
      obtain ⟨more, rfl, hrest⟩ := append_eq_of_not_mem hnot hcs
      rw [List.length_append]
      exact separates_renderAfter hts (t := ⟨t.kind.asRead, t.text, 0⟩) (Nat.zero_add _) hb hrest

/-! ## Canonical texts -/

/-- The tokens are factors of a product without a sign. -/
def Juxtaposed (u v : Token) : Prop :=
  (u.kind = .number ∧ (v.IsVariable ∨ v.NamesFunction ∨ v.kind = .opening)) ∨
  (u.kind = .closing ∧ (v.IsVariable ∨ v.NamesFunction ∨ v.kind = .number ∨ v.kind = .opening)) ∨
  (u.IsVariable ∧ v.kind = .opening)

/-- The text `c` splits into the tokens `us`, and is written as normal forms are. -/
structure Canonical (c : List Char) (us : List Token) : Prop where
  ne_nil : c ≠ []
  splits : tokenize c = .ok us
  /-- No parenthesis closes that was not opened. -/
  closes : ∀ vs, vs <+: us → vs.countP (·.kind = .closing) ≤ vs.countP (·.kind = .opening)
  /-- No parenthesis stays open. -/
  balanced : us.countP (·.kind = .closing) = us.countP (·.kind = .opening)
  names : ∀ u ∈ us, u.kind = .name → u.IsVariable ∨ u.NamesFunction
  powers : ∀ u ∈ us, ¬ u.Spells ['^']
  products : ∀ u v, [u, v] <:+: us → ¬ Juxtaposed u v
  /-- There is no blank but a single space between two tokens. -/
  blanks : ∀ before b after, c = before ++ b :: after → isBlank b = true →
    b = ' ' ∧ Separates before.length us

/-- Factors without a sign between them are multiplied when their names are told apart. -/
lemma Juxtaposed.multiplies {u v : Token} (h : Juxtaposed u v) :
    multiplies (settle u).kind (settle v).kind = true := by
  refine Multiplied.multiplies ?_
  unfold Juxtaposed at h
  unfold Multiplied
  tauto

variable {us ws : List Token}

lemma standard_of_mem (h : ∀ w ∈ ws, Standard w.kind w.text)
    (hs : us.map shape = ws.map readShape) {u : Token} (hu : u ∈ us) :
    ∃ k, Standard k u.text ∧ k.asRead = u.kind := by
  have hmem : u.shape ∈ ws.map readShape := hs ▸ List.mem_map_of_mem hu
  obtain ⟨w, hw, hshape⟩ := List.mem_map.1 hmem
  have htext : w.text = u.text := congrArg Prod.snd hshape
  exact ⟨w.kind, htext ▸ h w hw, congrArg Prod.fst hshape⟩

lemma NormalForm.Standard.eq_name {k : Kind} {text : List Char} (h : Standard k text)
    (hk : k.asRead = .name) : text = variableName ∨ ∃ f : Fn, text = f.name := by
  cases h with
  | var => exact .inl rfl
  | func f => exact .inr ⟨f, rfl⟩
  | _ => cases hk

lemma NormalForm.Standard.ne_caret {k : Kind} {text : List Char} (h : Standard k text)
    (hk : k.asRead = .operator) : text ≠ ['^'] := by
  cases h with
  | operator op => exact op.symbol_ne_caret
  | _ => cases hk

lemma canonical_render (h : ∀ w ∈ ws, Standard w.kind w.text) (hne : ws ≠ [])
    (hbal : Balanced 0 ws) (hapart : Apart ws) : Canonical (render ws) (readAgain ws) := by
  have hlegible := Standard.legible h
  have hshape := shape_readAgain ws
  obtain ⟨hnever, hcount⟩ := checkFrom_eq_ok_iff.1 ((balanced_again hshape).2 hbal)
  refine
    { ne_nil := ?_
      splits := (splits_readAgain hlegible).tokenizeFrom_eq
      closes := by simpa [NeverBelow] using hnever
      balanced := by simpa using hcount
      names := fun u hu hname => ?_
      powers := fun u hu hpower => ?_
      products := fun u v hinfix hjux => ?_
      blanks := fun before b after hcs hb => separates_render hlegible hb hcs }
  · obtain ⟨w, ws, rfl⟩ := List.exists_cons_of_ne_nil hne
    simp [render, (hlegible w List.mem_cons_self).ne_nil]
  · obtain ⟨k, hk, hkind⟩ := standard_of_mem h hshape hu
    exact (hk.eq_name (hkind.trans hname)).imp (⟨hname, ·⟩) (⟨hname, ·⟩)
  · obtain ⟨k, hk, hkind⟩ := standard_of_mem h hshape hu
    exact hk.ne_caret (hkind.trans hpower.1) hpower.2
  · have hpair : [settle u, settle v] <:+: (readAgain ws).map settle := hinfix.map settle
    have hchain := List.IsChain.infix (apart_again h hshape hapart) (hpair.map Token.kind)
    simp [hjux.multiplies] at hchain

lemma Canonical.allKnown {c : List Char} (h : Canonical c us) : AllKnown us := fun u hu hname =>
  (h.names u hu hname).elim (fun hx => .inl hx.2) fun hf => .inr (.inr hf.2)

/-- A canonical text has a token, as it would be blank at its beginning otherwise. -/
lemma Canonical.tokens_ne_nil {c : List Char} (h : Canonical c us) : us ≠ [] := by
  obtain ⟨b, cs, rfl⟩ := List.exists_cons_of_ne_nil h.ne_nil
  cases hb : isBlank b with
  | false => exact (tokenizeFrom_eq_ok_iff.1 h.splits).ne_nil hb
  | true =>
      obtain ⟨-, u, v, hinfix, -⟩ := h.blanks [] b cs rfl hb
      rintro rfl
      simp at hinfix

/-- A canonical text is read, or rejected for the order of its tokens or for its size. -/
lemma Canonical.readTree_cases {c : List Char} (h : Canonical c us) (limits : Limits) :
    (∃ e, readTree limits c = .ok e) ∨
      ∃ r, readTree limits c = .error r ∧
        (r.code = "SYNTAX_ERROR" ∨ r.code = "TOO_DEEP" ∨ r.code = "TOO_COMPLEX") := by
  rw [readTree_eq_parse h.splits h.tokens_ne_nil]
  cases hparse : parse limits.nesting us with
  | error r =>
      exact .inr ⟨r, error_bind r _, (misplaced_of_parse h.allKnown hparse).imp id .inl⟩
  | ok e =>
      rw [ok_bind]
      rcases e.checkSize_cases limits.nodes limits.height with hsize | ⟨r, hr, hcode⟩
      · exact .inl ⟨e, by rw [hsize, ok_bind]⟩
      · exact .inr ⟨r, by rw [hr, error_bind], .inr hcode.symm⟩

/-- **Every normal form is canonical.**  Its text has a token, known names, balanced parentheses, no
caret, no factors that touch, and no blank but one between two tokens.  So reading it fails, if it
does, for the order of its tokens or for its size. -/
theorem canonical_of_normalize {limit : Int} {raw c : List Char} (h : normalize limit raw = .ok c) :
    ∃ us, Canonical c us ∧ ∀ limits,
      (∃ e, readTree limits c = .ok e) ∨
        ∃ r, readTree limits c = .error r ∧
          (r.code = "SYNTAX_ERROR" ∨ r.code = "TOO_DEEP" ∨ r.code = "TOO_COMPLEX") := by
  obtain ⟨ts, ws, -, hws, hne, hstandard, rfl⟩ := tokens_of_normalize h
  obtain ⟨-, -, hwritten⟩ := normalTokens_eq_ok_iff.1 hws
  have hcanonical := canonical_render hstandard hne (balanced_of_normalTokens hws)
    (hwritten ▸ apart_insertTimes _)
  exact ⟨readAgain ws, hcanonical, hcanonical.readTree_cases⟩

/-- A normal form with a blank in it, and with products that had no sign. -/
theorem canonical_of_normalize_blank :
    normalize 10000 "2CSC(X)(x^2)3 4".toList = .ok "2*(1/sin(x))*(x**2)*3 4".toList ∧
      ∃ us, Canonical "2*(1/sin(x))*(x**2)*3 4".toList us ∧ ∀ limits,
        (∃ e, readTree limits "2*(1/sin(x))*(x**2)*3 4".toList = .ok e) ∨
          ∃ r, readTree limits "2*(1/sin(x))*(x**2)*3 4".toList = .error r ∧
            (r.code = "SYNTAX_ERROR" ∨ r.code = "TOO_DEEP" ∨ r.code = "TOO_COMPLEX") := by
  have h : normalize 10000 "2CSC(X)(x^2)3 4".toList = .ok "2*(1/sin(x))*(x**2)*3 4".toList := by
    decide +kernel
  exact ⟨h, canonical_of_normalize h⟩

end CurveSketch
