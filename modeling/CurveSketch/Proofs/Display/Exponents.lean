import CurveSketch.Proofs.Display
import CurveSketch.Proofs.Grammar.Unspaced

/-!
# Which exponents are raised

Exponents are raised by a scanner that knows nothing of tokens: it looks for two stars, a minus sign
or none, and digits.  In the text of an expression it finds what it should, the signs of powers with a
whole number behind them, and leaves everything else as it is.

* `Piece`, `pieces` — an expression cut into exponents that are raised and what stands between them.
* `flatMap_written_pieces` — the pieces are the expression.
* `exponent?_of_solid` — the scanner finds an exponent exactly where the tokens have one.
* `raiseExponents_of_solid` — so it shows every piece as it should be shown.
* **`raiseExponents_pieces`** — over every normal form that can be read.  The digits of other scripts
  have no raised form: an exponent with one of them loses the sign of its power and is not raised.
* **`not_raised`** — as in a power with an Arabic digit.
-/

namespace CurveSketch.Display

open Text Token

/-! ## Pieces -/

/-- A piece of an expression. -/
inductive Piece where
  /-- A token that is shown as it is. -/
  | kept (text : List Char)
  /-- The exponent of a power, shown without the sign of the power. -/
  | raised (exponent : List Char)
  deriving DecidableEq, Repr

/-- What a piece is in the expression. -/
def Piece.written : Piece → List Char
  | kept text => text
  | raised exponent => '*' :: '*' :: exponent

/-- What is shown for a piece. -/
def Piece.shown : Piece → List Char
  | kept text => text
  | raised exponent => superscript exponent

/-- The token is a number without a point. -/
def isWhole (t : Token) : Bool := t.kind == .number && !t.text.contains '.'

/-- A number without a point in front of other tokens, perhaps with a minus sign. -/
def wholeExponent? : List Token → Option (List Char × List Token)
  | [] => none
  | t :: rest =>
    if isWhole t then some (t.text, rest)
    else if t.isOperator ['-'] then
      match rest with
      | [] => none
      | u :: rest => if isWhole u then some ('-' :: u.text, rest) else none
    else none

lemma wholeExponent?_cases {ts after : List Token} {exponent : List Char}
    (h : wholeExponent? ts = some (exponent, after)) :
    (∃ t, isWhole t = true ∧ ts = t :: after ∧ exponent = t.text) ∨
      ∃ m t, m.Spells ['-'] ∧ isWhole t = true ∧ ts = m :: t :: after ∧ exponent = '-' :: t.text := by
  unfold wholeExponent? at h
  split at h
  · cases h
  · next t rest =>
    split_ifs at h with hwhole hminus
    · obtain ⟨rfl, rfl⟩ := Prod.mk.inj (Option.some.inj h)
      exact .inl ⟨t, hwhole, rfl, rfl⟩
    · split at h
      · cases h
      · next u rest =>
        split_ifs at h with hu
        obtain ⟨rfl, rfl⟩ := Prod.mk.inj (Option.some.inj h)
        exact .inr ⟨t, u, isOperator_iff.1 hminus, hu, rfl, rfl⟩

lemma suffix_of_wholeExponent? {ts after : List Token} {exponent : List Char}
    (h : wholeExponent? ts = some (exponent, after)) : after <:+ ts := by
  rcases wholeExponent?_cases h with ⟨t, -, rfl, -⟩ | ⟨m, t, -, -, rfl, -⟩
  · exact List.suffix_cons t after
  · exact (List.suffix_cons t after).trans (List.suffix_cons m (t :: after))

/-- The pieces of an expression. -/
def pieces : List Token → List Piece
  | [] => []
  | t :: rest =>
    if t.isOperator ['*', '*'] then
      match _h : wholeExponent? rest with
      | some (exponent, after) => .raised exponent :: pieces after
      | none => .kept t.text :: pieces rest
    else .kept t.text :: pieces rest
termination_by ts => ts.length
decreasing_by
  · have := (suffix_of_wholeExponent? ‹_›).length_le
    simp only [List.length_cons]
    omega
  · simp
  · simp

/-- **The pieces are the expression.** -/
lemma flatMap_written_pieces (ts : List Token) :
    (pieces ts).flatMap Piece.written = ts.flatMap Token.text := by
  fun_induction pieces ts with
  | case1 => rfl
  | case2 t rest hstars exponent after hexponent ih =>
      rw [List.flatMap_cons, ih, List.flatMap_cons, (isOperator_iff.1 hstars).2, Piece.written]
      rcases wholeExponent?_cases hexponent with ⟨u, -, rfl, rfl⟩ | ⟨m, u, hminus, -, rfl, rfl⟩
      · simp
      · simp [hminus.2]
  | case3 t rest hstars hnone ih => rw [List.flatMap_cons, ih, List.flatMap_cons, Piece.written]
  | case4 t rest hstars ih => rw [List.flatMap_cons, ih, List.flatMap_cons, Piece.written]

/-! ## Texts without blanks -/

/-- The text has no blank in it, and splits into the tokens. -/
structure Solid (cs : List Char) (ts : List Token) : Prop where
  splits : ∃ p, Splits p cs ts
  solid : ∀ c ∈ cs, isBlank c = false

variable {cs : List Char} {ts : List Token} {t : Token}

lemma Solid.nil (h : Solid cs []) : cs = [] := by
  obtain ⟨⟨p, hsplits⟩, hsolid⟩ := h
  cases hsplits with
  | done => rfl
  | blank hblank _ =>
      rw [hsolid _ List.mem_cons_self] at hblank
      cases hblank

/-- A text without blanks begins with its first token. -/
lemma Solid.cons (h : Solid cs (t :: ts)) : ∃ rest, cs = t.text ++ rest ∧
    lexeme? cs = some (t.kind, t.text, rest) ∧ Solid rest ts := by
  obtain ⟨⟨p, hsplits⟩, hsolid⟩ := h
  obtain ⟨blanks, rest, rfl, hblanks, -, hlex, hrest⟩ := hsplits.cons_cases
  obtain rfl : blanks = [] := List.eq_nil_iff_forall_not_mem.2 fun b hb => by
    have hblank := hblanks b hb
    rw [hsolid b (by simp [hb])] at hblank
    cases hblank
  exact ⟨rest, rfl, hlex, ⟨_, hrest⟩, fun c hc => hsolid c (by simp [hc])⟩

/-- The first character of a text without blanks is in its first token. -/
lemma Solid.mem_text (h : Solid cs (t :: ts)) {c : Char} (hc : cs.head? = some c) :
    c ∈ t.text := by
  obtain ⟨rest, rfl, hlex, -⟩ := h.cons
  obtain ⟨d, text, htext⟩ := List.exists_cons_of_ne_nil (lexeme?_append hlex).2
  rw [htext] at hc ⊢
  obtain rfl := Option.some.inj hc
  exact List.mem_cons_self

/-- Behind an operator stands no star. -/
lemma Solid.head_ne_star (h : Solid cs ts) (hstars : StarsApart (t :: ts))
    (ht : t.kind = .operator) : cs.head? ≠ some '*' := by
  intro hhead
  cases ts with
  | nil => simp [h.nil] at hhead
  | cons u ts =>
      obtain ⟨rest, rfl, hlex, -⟩ := h.cons
      refine (List.isChain_cons_cons.1 hstars).1 ht ?_
      rwa [List.head?_append_of_ne_nil _ (lexeme?_append hlex).2] at hhead

/-! ## Exponents -/

/-- A number that begins with a digit has no point in it if none stands behind its digits, and then
it is these digits. -/
lemma numberText_cases (cs : List Char) :
    ('.' ∈ (numberText cs).1 ∧ (cs.dropWhile isDigit).head? = some '.') ∨
      ('.' ∉ (numberText cs).1 ∧ (cs.dropWhile isDigit).head? ≠ some '.' ∧
        numberText cs = (cs.takeWhile isDigit, cs.dropWhile isDigit)) := by
  unfold numberText
  split
  · next tail hpoint => exact .inl ⟨by simp, by rw [hpoint]; rfl⟩
  · next hpoint =>
    refine .inr ⟨fun hmem => ?_, fun hhead => ?_, rfl⟩
    · exact absurd (isDigit_of_mem_takeWhile hmem) (by decide)
    · obtain ⟨tail, htail⟩ := List.head?_eq_some_iff.1 hhead
      exact hpoint tail htail

/-- A number that does not begin with a digit has a point in it. -/
lemma point_mem_of_lexeme {c : Char} {text : List Char} (h : Lexeme .number (c :: text))
    (hc : isDigit c = false) : '.' ∈ c :: text := by
  generalize hword : c :: text = word at h
  cases h with
  | whole _ h => simp [h c (by simp [← hword])] at hc
  | decimal => simp
  | fraction => simp
  | symbol h => rcases kind_of_symbolKind? h with hk | hk | hk <;> cases hk

/-- No whole number stands at the front of the text: no digits, or a point behind them. -/
def lacksDigits (cs : List Char) : Bool :=
  (cs.takeWhile isDigit).isEmpty || (cs.dropWhile isDigit).head? == some '.'

/-- The first token of a text is a number without a point exactly if digits stand at the front of the
text and no point behind them.  These digits are the number. -/
lemma isWhole_cases {rest : List Char} (h : lexeme? cs = some (t.kind, t.text, rest)) :
    (isWhole t = true ∧ lacksDigits cs = false ∧ t.text = cs.takeWhile isDigit ∧
      rest = cs.dropWhile isDigit) ∨ (isWhole t = false ∧ lacksDigits cs = true) := by
  obtain ⟨c, cs, rfl⟩ : ∃ c tail, cs = c :: tail := by
    cases cs with
    | nil => cases h
    | cons c cs => exact ⟨c, cs, rfl⟩
  by_cases hc : isDigit c = true
  · rw [lexeme?_of_isDigit hc] at h
    simp only [Option.some.injEq, Prod.mk.injEq] at h
    obtain ⟨hkind, htext⟩ := h
    rcases numberText_cases (c :: cs) with ⟨hmem, hhead⟩ | ⟨hmem, hhead, hsplit⟩
    · rw [htext] at hmem
      exact .inr ⟨by simp [isWhole, hmem], by simp [lacksDigits, hhead]⟩
    · rw [htext] at hmem hsplit
      obtain ⟨htake, hdrop⟩ := Prod.mk.inj hsplit
      have hfirst : ((c :: cs).takeWhile isDigit).isEmpty = false := by simp [hc]
      exact .inl ⟨by simp [isWhole, hmem, ← hkind], by rw [lacksDigits, hfirst]; simpa using hhead,
        htake, hdrop⟩
  · rw [Bool.not_eq_true] at hc
    refine .inr ⟨?_, by simp [lacksDigits, hc]⟩
    obtain ⟨happend, hne⟩ := lexeme?_append h
    obtain ⟨d, text, htext⟩ := List.exists_cons_of_ne_nil hne
    rw [htext] at happend
    obtain ⟨rfl, -⟩ := List.cons.inj happend
    by_contra hwhole
    simp only [isWhole, Bool.not_eq_false, Bool.and_eq_true, beq_iff_eq, Bool.not_eq_true',
      List.contains_eq_mem, decide_eq_false_iff_not] at hwhole
    have hlex := lexeme_of_lexeme? h
    rw [hwhole.1, htext] at hlex
    rw [htext] at hwhole
    exact hwhole.2 (point_mem_of_lexeme hlex hc)

lemma exponent?_eq (cs : List Char) :
    exponent? cs = if lacksDigits (splitMinus cs).2 then none
      else some ((splitMinus cs).1 ++ (splitMinus cs).2.takeWhile isDigit,
        (splitMinus cs).2.dropWhile isDigit) := rfl

lemma whole_of_solid (h : Solid cs ts) :
    (∃ t after, ts = t :: after ∧ isWhole t = true ∧ lacksDigits cs = false ∧
      t.text = cs.takeWhile isDigit ∧ Solid (cs.dropWhile isDigit) after) ∨
    ((∀ t ∈ ts.head?, isWhole t = false) ∧ lacksDigits cs = true) := by
  cases ts with
  | nil =>
      rw [h.nil]
      exact .inr ⟨by simp, rfl⟩
  | cons t ts =>
      obtain ⟨rest, -, hlex, hrest⟩ := h.cons
      rcases isWhole_cases hlex with ⟨hwhole, hdigits, htext, rfl⟩ | ⟨hwhole, hdigits⟩
      · exact .inl ⟨t, ts, rfl, hwhole, hdigits, htext, hrest⟩
      · exact .inr ⟨by simpa using hwhole, hdigits⟩

lemma splitMinus_of_head (h : cs.head? ≠ some '-') : splitMinus cs = ([], cs) := by
  unfold splitMinus
  split
  · exact absurd rfl h
  · rfl

/-- **The scanner finds an exponent exactly where the tokens have one.** -/
lemma exponent?_of_solid (h : Solid cs ts) :
    (exponent? cs = none ∧ wholeExponent? ts = none) ∨
      ∃ exponent rest after, exponent? cs = some (exponent, rest) ∧
        wholeExponent? ts = some (exponent, after) ∧ Solid rest after := by
  cases ts with
  | nil =>
      rw [h.nil]
      exact .inl ⟨rfl, rfl⟩
  | cons t ts =>
      obtain ⟨rest, hcs, hlex, hrest⟩ := h.cons
      by_cases hminus : t.Spells ['-']
      · have hnot : isWhole t = false := by simp [isWhole, hminus.1]
        rw [hminus.2, List.singleton_append] at hcs
        subst hcs
        rcases whole_of_solid hrest with
          ⟨u, after, rfl, hwhole, hdigits, htext, hafter⟩ | ⟨hnone, hdigits⟩
        · refine .inr ⟨'-' :: u.text, _, after, ?_, ?_, hafter⟩
          · rw [exponent?_eq, splitMinus, hdigits, htext]
            rfl
          · simp [wholeExponent?, hnot, isOperator_iff.2 hminus, hwhole]
        · refine .inl ⟨?_, ?_⟩
          · rw [exponent?_eq, splitMinus, hdigits]
            rfl
          · cases ts with
            | nil => simp [wholeExponent?, hnot]
            | cons u ts => simp [wholeExponent?, hnot, hnone u rfl]
      · have hhead : cs.head? ≠ some '-' := fun hhead => by
          rcases (lexeme_of_lexeme? hlex).of_mem_symbols (h.mem_text hhead) (by decide) with
            ⟨htext, hkind⟩ | ⟨-, hstar, -⟩
          · exact hminus ⟨(Option.some.inj hkind).symm, htext⟩
          · exact absurd hstar (by decide)
        have hoperator : t.isOperator ['-'] = false := by
          rwa [← Bool.not_eq_true, isOperator_iff]
        rcases whole_of_solid h with
          ⟨u, after, hu, hwhole, hdigits, htext, hafter⟩ | ⟨hnone, hdigits⟩
        · obtain ⟨rfl, rfl⟩ := List.cons.inj hu
          refine .inr ⟨t.text, _, ts, ?_, by simp [wholeExponent?, hwhole], hafter⟩
          rw [exponent?_eq, splitMinus_of_head hhead, hdigits, htext]
          rfl
        · refine .inl ⟨?_, by simp [wholeExponent?, hnone t rfl, hoperator]⟩
          rw [exponent?_eq, splitMinus_of_head hhead, hdigits]
          rfl

/-! ## What is shown -/

lemma raiseExponents_cons {c : Char} {cs : List Char} (h : c = '*' → cs.head? ≠ some '*') :
    raiseExponents (c :: cs) = c :: raiseExponents cs := by
  rw [raiseExponents]
  rintro rest rfl rfl
  exact h rfl rfl

lemma raiseExponents_append {text rest : List Char} (h : ∀ c ∈ text, c ≠ '*') :
    raiseExponents (text ++ rest) = text ++ raiseExponents rest := by
  induction text with
  | nil => rfl
  | cons c text ih =>
      obtain ⟨hc, htext⟩ := List.forall_mem_cons.1 h
      rw [List.cons_append, raiseExponents_cons fun hstar => absurd hstar hc, ih htext,
        List.cons_append]

lemma raiseExponents_power {rest exponent after : List Char}
    (h : exponent? rest = some (exponent, after)) :
    raiseExponents ('*' :: '*' :: rest) = superscript exponent ++ raiseExponents after := by
  rw [raiseExponents]
  split
  · next hsome =>
    obtain ⟨rfl, rfl⟩ := Prod.mk.inj (Option.some.inj (h.symm.trans hsome))
    rfl
  · next hnone =>
    rw [h] at hnone
    cases hnone

lemma raiseExponents_stars {rest : List Char} (h : exponent? rest = none)
    (hhead : rest.head? ≠ some '*') :
    raiseExponents ('*' :: '*' :: rest) = '*' :: '*' :: raiseExponents rest := by
  rw [raiseExponents]
  split
  · next hsome =>
    rw [h] at hsome
    cases hsome
  · rw [raiseExponents_cons fun _ => hhead]

/-- **The scanner shows every piece as it should be shown.** -/
lemma raiseExponents_of_solid (h : Solid cs ts) (hstars : StarsApart ts) :
    raiseExponents cs = (pieces ts).flatMap Piece.shown := by
  fun_induction pieces ts generalizing cs with
  | case1 =>
      rw [h.nil, raiseExponents]
      rfl
  | case2 t ts hpower exponent after hexponent ih =>
      obtain ⟨rest, hcs, -, hrest⟩ := h.cons
      rw [(isOperator_iff.1 hpower).2] at hcs
      subst hcs
      rcases exponent?_of_solid hrest with ⟨-, hnone⟩ | ⟨_, behind, _, hscan, hfound, hbehind⟩
      · rw [hnone] at hexponent
        cases hexponent
      · obtain ⟨rfl, rfl⟩ := Prod.mk.inj (Option.some.inj (hfound.symm.trans hexponent))
        have hsuffix := (suffix_of_wholeExponent? hexponent).trans (List.suffix_cons t ts)
        rw [List.cons_append, List.cons_append, List.nil_append, raiseExponents_power hscan,
          ih hbehind (hstars.suffix hsuffix), List.flatMap_cons, Piece.shown]
  | case3 t ts hpower hnone ih =>
      obtain ⟨rest, hcs, -, hrest⟩ := h.cons
      obtain ⟨hkind, htext⟩ := isOperator_iff.1 hpower
      have hscan : exponent? rest = none := by
        rcases exponent?_of_solid hrest with ⟨hscan, -⟩ | ⟨_, _, _, -, hsome, -⟩
        · exact hscan
        · rw [hnone] at hsome
          cases hsome
      rw [hcs, htext, List.cons_append, List.cons_append, List.nil_append,
        raiseExponents_stars hscan (hrest.head_ne_star hstars hkind),
        ih hrest (List.isChain_cons.1 hstars).2, List.flatMap_cons, Piece.shown]
      rfl
  | case4 t ts hpower ih =>
      obtain ⟨rest, rfl, hlex, hrest⟩ := h.cons
      rw [List.flatMap_cons, ← ih hrest (List.isChain_cons.1 hstars).2, Piece.shown]
      by_cases hstar : '*' ∈ t.text
      · rcases (lexeme_of_lexeme? hlex).of_mem_symbols hstar (by decide) with
          ⟨htext, hkind⟩ | ⟨htext, -, hkind⟩
        · rw [htext, List.singleton_append, List.singleton_append]
          exact raiseExponents_cons fun _ =>
            hrest.head_ne_star hstars (Option.some.inj hkind).symm
        · exact absurd (isOperator_iff.2 ⟨hkind, htext⟩) hpower
      · exact raiseExponents_append fun c hc hstar' => hstar (hstar' ▸ hc)

/-! ## Raised characters -/

/-- The raised characters. -/
def superscripts : List Char := raisable.map raiseChar

/-- A character that has no raised form stays as it is. -/
lemma raiseChar_eq_self {c : Char} (h : c ∉ raisable) : raiseChar c = c := by
  unfold raiseChar
  split <;> first | rfl | exact absurd (by decide) h

/-- Of the characters of an exponent only those of the basic Latin block are raised. -/
lemma raiseChar_mem_iff {c : Char} (h : isDigit c = true ∨ c = '-') :
    raiseChar c ∈ superscripts ↔ c ∈ raisable := by
  have hchecked : (superscripts.all fun c => !isDigit c && c != '-') = true := by decide +kernel
  have hall : ∀ c ∈ superscripts, isDigit c = false ∧ c ≠ '-' := by simpa using hchecked
  constructor
  · intro hmem
    by_contra hnot
    rw [raiseChar_eq_self hnot] at hmem
    rcases h with h | h
    · simp [(hall c hmem).1] at h
    · exact (hall c hmem).2 h
  · exact fun hmem => List.mem_map_of_mem hmem

/-- A number without a point is made of digits. -/
lemma digits_of_isWhole (hwhole : isWhole t = true) (hlex : Lexeme t.kind t.text) :
    t.text ≠ [] ∧ ∀ c ∈ t.text, isDigit c = true := by
  simp only [isWhole, Bool.and_eq_true, beq_iff_eq, Bool.not_eq_true', List.contains_eq_mem,
    decide_eq_false_iff_not] at hwhole
  obtain ⟨hkind, hpoint⟩ := hwhole
  rw [hkind] at hlex
  generalize t.text = text at hlex hpoint
  cases hlex with
  | whole hne h => exact ⟨hne, h⟩
  | decimal => simp at hpoint
  | fraction => simp at hpoint
  | symbol h => rcases kind_of_symbolKind? h with hk | hk | hk <;> cases hk

/-- An exponent that is raised is digits, perhaps with a minus sign in front. -/
lemma exponent_of_mem_pieces {exponent : List Char} (hlex : ∀ t ∈ ts, Lexeme t.kind t.text)
    (h : .raised exponent ∈ pieces ts) : ∃ minus digits, exponent = minus ++ digits ∧
      (minus = [] ∨ minus = ['-']) ∧ digits ≠ [] ∧ ∀ d ∈ digits, isDigit d = true := by
  fun_induction pieces ts with
  | case1 => simp at h
  | case2 t ts hpower found after hfound ih =>
      obtain ⟨-, hts⟩ := List.forall_mem_cons.1 hlex
      rcases List.mem_cons.1 h with h | h
      · obtain rfl := Piece.raised.inj h
        rcases wholeExponent?_cases hfound with ⟨u, hu, rfl, rfl⟩ | ⟨m, u, -, hu, rfl, rfl⟩
        · obtain ⟨hne, hdigits⟩ := digits_of_isWhole hu (hts u (by simp))
          exact ⟨[], u.text, rfl, .inl rfl, hne, hdigits⟩
        · obtain ⟨hne, hdigits⟩ := digits_of_isWhole hu (hts u (by simp))
          exact ⟨['-'], u.text, rfl, .inr rfl, hne, hdigits⟩
      · exact ih (fun u hu => hts u ((suffix_of_wholeExponent? hfound).subset hu)) h
  | case3 t ts hpower hnone ih =>
      rcases List.mem_cons.1 h with h | h
      · cases h
      · exact ih (List.forall_mem_cons.1 hlex).2 h
  | case4 t ts hpower ih =>
      rcases List.mem_cons.1 h with h | h
      · cases h
      · exact ih (List.forall_mem_cons.1 hlex).2 h

/-! ## Expressions -/

/-- The text of an expression in normal form has no blanks. -/
lemma solid_of_normalize {limit : Int} {raw : List Char} {e : Expr} {n : ℕ}
    (h : normalize limit raw = .ok cs) (hts : tokenize cs = .ok ts)
    (hderives : Derives .expression ts e n) : Solid cs ts ∧ cs = ts.flatMap Token.text := by
  obtain ⟨-, ws, -, -, -, hstandard, rfl⟩ := NormalForm.tokens_of_normalize h
  have hsplits := tokenizeFrom_eq_ok_iff.1 hts
  have hread := (splits_readAgain (NormalForm.Standard.legible hstandard)).tokenizeFrom_eq
  obtain rfl : readAgain ws = ts := Except.ok.inj (hread.symm.trans hts)
  have htexts : ws.map Token.text = (readAgain ws).map Token.text := by
    have hshapes := congrArg (List.map Prod.snd) (shape_readAgain ws)
    rw [List.map_map, List.map_map] at hshapes
    exact hshapes.symm
  have hwritten : render ws = (readAgain ws).flatMap Token.text := by
    rw [render_congr htexts, (hderives.unmerged hsplits.lexeme).render_eq]
  refine ⟨⟨⟨0, hsplits⟩, fun c hc => ?_⟩, hwritten⟩
  rw [hwritten, List.mem_flatMap] at hc
  obtain ⟨t, ht, hc⟩ := hc
  exact (hsplits.lexeme t ht).not_isBlank c hc

/-- **Whole exponents are raised, and nothing else is changed.**  A normal form that is read as an
expression is shown piece by piece: where the sign of a power stands in front of a number without a
point, or of a minus sign and such a number, the sign is left out and each character of the exponent
is raised; every other token is shown as it is.  Raised characters are all that is shown of the
exponent exactly if its digits are those from `0` to `9`. -/
theorem raiseExponents_pieces {limit : Int} {limits : Limits} {raw c : List Char} {e : Expr}
    (h : normalize limit raw = .ok c) (hread : readTree limits c = .ok e) :
    ∃ ts, tokenize c = .ok ts ∧ c = (pieces ts).flatMap Piece.written ∧
      raiseExponents c = (pieces ts).flatMap Piece.shown ∧
      ∀ exponent, .raised exponent ∈ pieces ts →
        (∃ minus digits, exponent = minus ++ digits ∧ (minus = [] ∨ minus = ['-']) ∧
          digits ≠ [] ∧ ∀ d ∈ digits, isDigit d = true) ∧
        ((∀ c ∈ superscript exponent, c ∈ superscripts) ↔ ∀ d ∈ exponent, d ∈ raisable) := by
  obtain ⟨ts, n, hts, hderives⟩ := derives_of_readTree hread
  obtain ⟨hsolid, hwritten⟩ := solid_of_normalize h hts hderives
  have hlex := (tokenizeFrom_eq_ok_iff.1 hts).lexeme
  refine ⟨ts, hts, by rw [flatMap_written_pieces, hwritten],
    raiseExponents_of_solid hsolid (hderives.starsApart hlex), fun exponent hexponent => ?_⟩
  obtain ⟨minus, digits, rfl, hminus, hne, hdigits⟩ := exponent_of_mem_pieces hlex hexponent
  refine ⟨⟨minus, digits, rfl, hminus, hne, hdigits⟩, ?_⟩
  have hchars : ∀ c ∈ minus ++ digits, isDigit c = true ∨ c = '-' := fun c hc => by
    rcases List.mem_append.1 hc with hc | hc
    · rcases hminus with rfl | rfl
      · cases hc
      · exact .inr (List.mem_singleton.1 hc)
    · exact .inl (hdigits c hc)
  rw [superscript, List.forall_mem_map]
  exact forall₂_congr fun c hc => raiseChar_mem_iff (hchars c hc)

/-- A whole exponent with a sign, and one with a point. -/
theorem raiseExponents_pieces_signed :
    normalize 10000 "2x^-31+x^2.5".toList = .ok "2*x**-31+x**2.5".toList ∧
      raiseExponents "2*x**-31+x**2.5".toList = "2*x⁻³¹+x**2.5".toList ∧
      ∃ e ts, readTree {} "2*x**-31+x**2.5".toList = .ok e ∧
        tokenize "2*x**-31+x**2.5".toList = .ok ts ∧
        raiseExponents "2*x**-31+x**2.5".toList = (pieces ts).flatMap Piece.shown := by
  have hnormal : normalize 10000 "2x^-31+x^2.5".toList = .ok "2*x**-31+x**2.5".toList := by
    decide +kernel
  have hread : (readTree {} "2*x**-31+x**2.5".toList).toOption.isSome = true := by decide +kernel
  obtain ⟨e, he⟩ := exists_ok_of_isSome hread
  obtain ⟨ts, hts, -, hshown, -⟩ := raiseExponents_pieces hnormal he
  exact ⟨hnormal, by decide +kernel, e, ts, he, hts, hshown⟩

/-- Not every exponent that loses the sign of its power is shown by raised characters: the digit of
another script is not. -/
theorem not_raised :
    ¬ ∀ (raw c : List Char) (e : Expr) (ts : List Token) (exponent : List Char),
      normalize 10000 raw = .ok c → readTree {} c = .ok e → tokenize c = .ok ts →
      .raised exponent ∈ pieces ts → ∀ d ∈ superscript exponent, d ∈ superscripts := by
  intro h
  have hread : (readTree {} ['2', '*', '*', '\u0663']).toOption.isSome = true := by decide +kernel
  obtain ⟨e, he⟩ := exists_ok_of_isSome hread
  have hts : tokenize ['2', '*', '*', '\u0663'] =
      .ok [⟨.number, ['2'], 0⟩, ⟨.operator, ['*', '*'], 1⟩, ⟨.number, ['\u0663'], 3⟩] := by
    decide +kernel
  have hmem : '\u0663' ∈ superscripts :=
    h ['2', '*', '*', '\u0663'] _ e _ ['\u0663'] (by decide +kernel) he hts (by decide +kernel)
      '\u0663' (by decide +kernel)
  exact absurd hmem (by decide +kernel)

end CurveSketch.Display
