import CurveSketch.Proofs.NormalForm
import CurveSketch.Proofs.NormalForm.Stacked

/-!
# Normal forms brought into normal form

The text of a normal form is an input like any other, and one would have its normal form be itself.
That is so unless the names of two reciprocal functions stood one behind the other in front of a
parenthesis, as in `csc csc(x)`: the second name is written out, which opens a parenthesis behind the
first name, and the first is written out only when the result is read again.

* `StacksReciprocals` — two such names somewhere among the tokens of an input.
* `normalTokens_again` — what the second run makes of the tokens of the first.
* **`normalize_normalize_eq_iff`** — a normal form has a normal form, which is itself exactly if no
  names were stacked in the input.
-/

namespace CurveSketch

open Text Token NormalForm

/-- The token is the name of a reciprocal function. -/
def Token.NamesReciprocal (t : Token) : Prop :=
  t.kind = .name ∧ ∃ f : Fn, t.text = f.name ∧ f.reciprocalOf?.isSome = true

/-- The names of two reciprocal functions stand in front of a parenthesis somewhere. -/
def StacksReciprocals (ts : List Token) : Prop :=
  ∃ a b o, [a, b, o] <:+: ts ∧ a.NamesReciprocal ∧ b.NamesReciprocal ∧ o.kind = .opening

namespace NormalForm

/-! ## Stacked names, before and after names are settled -/

/-- Only the name of a reciprocal function settles into one. -/
lemma exists_reciprocalBase?_settle {t : Token} (hlex : Lexeme t.kind t.text) (h : Known t) :
    (∃ base, reciprocalBase? (settle t) = some base) ↔ t.NamesReciprocal := by
  constructor
  · rintro ⟨base, hbase⟩
    have hfunc := kind_of_reciprocalBase? hbase
    by_cases ht : t.kind = .name
    · rcases h ht with hx | ⟨c, hc⟩ | ⟨f, hf⟩
      · simp [settle_variable ht hx] at hfunc
      · simp [settle_constant ht hc] at hfunc
      · rw [settle_function ht hf, hf, reciprocalBase?_function] at hbase
        exact ⟨ht, f, hf, by simp [hbase]⟩
    · by_cases hop : t.kind = .operator
      · rw [settle_operator hop, readPower] at hfunc
        split_ifs at hfunc <;> simp [hop] at hfunc
      · rw [settle_other ht hop] at hfunc
        rw [hfunc] at hlex
        exact absurd hlex not_lexeme_func
  · rintro ⟨ht, f, hf, hbase⟩
    obtain ⟨base, hbase⟩ := Option.isSome_iff_exists.1 hbase
    refine ⟨base, ?_⟩
    rw [settle_function ht hf, hf, reciprocalBase?_function, hbase]

lemma settle_opening_iff {t : Token} : (settle t).kind = .opening ↔ t.kind = .opening := by
  rw [← side?_eq_left, side?_settle, side?_eq_left]

lemma stacksReciprocals_cons {t : Token} {rest : List Token} :
    StacksReciprocals (t :: rest) ↔
      (t.NamesReciprocal ∧ ∃ b o tail, rest = b :: o :: tail ∧ b.NamesReciprocal ∧
        o.kind = .opening) ∨ StacksReciprocals rest := by
  constructor
  · rintro ⟨a, b, o, hinfix, ha, hb, ho⟩
    rcases List.infix_cons_iff.1 hinfix with hprefix | hinfix
    · obtain ⟨rfl, tail, rfl⟩ := List.cons_prefix_cons.1 hprefix
      exact Or.inl ⟨ha, b, o, tail, rfl, hb, ho⟩
    · exact Or.inr ⟨a, b, o, hinfix, ha, hb, ho⟩
  · rintro (⟨ha, b, o, tail, rfl, hb, ho⟩ | ⟨a, b, o, hinfix, hnames⟩)
    · exact ⟨t, b, o, ⟨[], tail, rfl⟩, ha, hb, ho⟩
    · exact ⟨a, b, o, List.infix_cons_iff.2 (Or.inr hinfix), hnames⟩

/-- Names are stacked after they are settled exactly if they were before. -/
lemma stacked_map_settle {ts : List Token} (hlex : ∀ t ∈ ts, Lexeme t.kind t.text)
    (h : ∀ t ∈ ts, Known t) : Stacked (ts.map settle) ↔ StacksReciprocals ts := by
  have hname : ∀ t ∈ ts, (∃ base, reciprocalBase? (settle t) = some base) ↔ t.NamesReciprocal :=
    fun t ht => exists_reciprocalBase?_settle (hlex t ht) (h t ht)
  clear hlex h
  induction ts with
  | nil => simp [Stacked, StacksReciprocals]
  | cons t rest ih =>
      rw [stacksReciprocals_cons, List.map_cons, Stacked]
      refine or_congr (and_congr (hname t List.mem_cons_self) ⟨?_, ?_⟩)
        (ih fun u hu => hname u (List.mem_cons_of_mem t hu))
      · rintro ⟨u, tail, base, hmap, hcall⟩
        obtain ⟨b, rest, rfl, rfl, rfl⟩ := List.map_eq_cons_iff.1 hmap
        obtain ⟨hbase, next, tail, hmap, hopen⟩ := called?_eq_some_iff.1 hcall
        obtain ⟨o, tail, rfl, rfl, -⟩ := List.map_eq_cons_iff.1 hmap
        exact ⟨b, o, tail, rfl, (hname b (by simp)).1 ⟨base, hbase⟩, settle_opening_iff.1 hopen⟩
      · rintro ⟨b, o, tail, rfl, hb, ho⟩
        obtain ⟨base, hbase⟩ := (hname b (by simp)).2 hb
        exact ⟨settle b, _, base, rfl, called?_eq_some_iff.2
          ⟨hbase, settle o, _, rfl, settle_opening_iff.2 ho⟩⟩

/-! ## The second run -/

variable {us ws : List Token}

lemma side?_again (k : Kind) : side? (again k) = side? k := by cases k <;> rfl

lemma multiplies_again {left right : Kind} (h : multiplies left right = false) :
    multiplies (again left) (again right) = false := by
  cases left <;> cases right <;> first | rfl | cases h

/-- Whether a token names a reciprocal function is the same the second time. -/
lemma reciprocalBase?_again {v w : Token} (hkind : v.kind = again w.kind)
    (htext : v.text = w.text) : reciprocalBase? v = reciprocalBase? w := by
  have hfunc : again w.kind = .func ↔ w.kind = .func := by cases w.kind <;> simp [again]
  simp only [reciprocalBase?, hkind, htext, hfunc]

/-- What the second run makes of the tokens of the first. -/
lemma normalTokens_again (h : ∀ w ∈ ws, Standard w.kind w.text) (hbal : Balanced 0 ws)
    (hs : us.map shape = ws.map readShape) :
    normalTokens us = .ok (insertTimes (writtenOut false [] (us.map settle))) := by
  have hsides : (us.map settle).map (side? ·.kind) = ws.map (side? ·.kind) :=
    map_settle_again h hs fun v w hkind _ => by rw [hkind, side?_again]
  refine normalTokens_eq_ok_iff.2 ⟨known_again h hs, ?_, rfl⟩
  rwa [← balanced_settle, balanced_congr hsides]

/-- A reciprocal function is called in the second run exactly if one is left by the first. -/
lemma callsReciprocal_again (h : ∀ w ∈ ws, Standard w.kind w.text)
    (hs : us.map shape = ws.map readShape) :
    CallsReciprocal (us.map settle) ↔ CallsReciprocal ws :=
  callsReciprocal_congr (map_settle_again h hs fun _ _ => reciprocalBase?_again)
    (map_settle_again h hs fun v w hkind _ => by rw [hkind, side?_again])

/-- Nothing is multiplied in the second run if nothing is after the first. -/
lemma apart_again (h : ∀ w ∈ ws, Standard w.kind w.text) (hs : us.map shape = ws.map readShape)
    (hapart : Apart ws) : Apart (us.map settle) := by
  have hkinds : (us.map settle).map Token.kind = (ws.map Token.kind).map again := by
    rw [List.map_map (f := Token.kind)]
    exact map_settle_again h hs fun _ _ hkind _ => hkind
  rw [Apart, hkinds, List.isChain_map]
  exact hapart.imp fun _ _ => multiplies_again

/-- Where no call is left by the first run, the second leaves every token as it is. -/
lemma again_eq_self_of_not_calls (h : ∀ w ∈ ws, Standard w.kind w.text)
    (hs : us.map shape = ws.map readShape) (hapart : Apart ws) (hcalls : ¬ CallsReciprocal ws) :
    insertTimes (writtenOut false [] (us.map settle)) = us.map settle := by
  rw [writtenOut_eq_self (mt (callsReciprocal_again h hs).1 hcalls) List.not_mem_nil,
    insertTimes_eq_self (apart_again h hs hapart)]

/-- Where a call is left by the first run, the second ends with more tokens. -/
lemma length_lt_of_calls (h : ∀ w ∈ ws, Standard w.kind w.text)
    (hs : us.map shape = ws.map readShape) (hcalls : CallsReciprocal ws) :
    us.length < (insertTimes (writtenOut false [] (us.map settle))).length := by
  calc us.length = (us.map settle).length := (List.length_map settle).symm
    _ < (writtenOut false [] (us.map settle)).length :=
      length_lt_writtenOut ((callsReciprocal_again h hs).2 hcalls)
    _ ≤ _ := length_le_insertTimes _

/-- Tokens that are written as one text are as many. -/
lemma length_eq_of_render_eq {us' : List Token} (hus : Splits 0 (render ws) us)
    (hlegible : Legible us') (h : render us' = render ws) : us'.length = us.length := by
  obtain ⟨vs, hvs, hshape⟩ := splits_render hlegible
  rw [h] at hvs
  obtain rfl : us = vs :=
    Except.ok.inj (hus.tokenizeFrom_eq.symm.trans hvs.tokenizeFrom_eq)
  have hlength := congrArg List.length hshape
  rw [List.length_map, List.length_map] at hlength
  exact hlength.symm

end NormalForm

/-- **A normal form has a normal form**, if it is not too long to be an input, and this is the normal
form itself exactly if the input did not stack the names of reciprocal functions. -/
theorem normalize_normalize_eq_iff {limit : Int} {raw c : List Char}
    (h : normalize limit raw = .ok c) (hlen : (c.length : Int) ≤ limit) :
    ∃ ts c', tokenize (lowercase (trim raw)) = .ok ts ∧ normalize limit c = .ok c' ∧
      (c' = c ↔ ¬ StacksReciprocals ts) := by
  obtain ⟨text, ts, ws, htext, hts, hws, rfl⟩ := normalize_eq_ok_iff.1 h
  have hsplits : Splits 0 text ts := tokenizeFrom_eq_ok_iff.1 hts
  have hne : ws ≠ [] := by
    have hlength := length_le_of_normalTokens hws
    have hpos := List.length_pos_iff.2 (ne_nil_of_sourceText htext hsplits)
    exact List.length_pos_iff.1 (Nat.lt_of_lt_of_le hpos hlength)
  have hstandard := standard_normalTokens hsplits.lexeme hws
  obtain ⟨us, hus, hshape⟩ := splits_render (Standard.legible hstandard)
  obtain ⟨hknown, -, hwritten⟩ := normalTokens_eq_ok_iff.1 hws
  have hcalls : CallsReciprocal ws ↔ StacksReciprocals ts := by
    rw [hwritten, callsReciprocal_insertTimes, callsReciprocal_writtenOut,
      stacked_map_settle hsplits.lexeme hknown]
  have hagain := normalTokens_again hstandard (balanced_of_normalTokens hws) hshape
  obtain ⟨-, -, rfl⟩ := sourceText_eq_ok_iff.1 htext
  refine ⟨ts, _, hts, normalize_render hstandard hne hlen hus hagain, ?_⟩
  rw [← hcalls]
  constructor
  · -- one more call is written out, so the texts cannot be the same
    intro hsame hleft
    have hlegible := Standard.legible (standard_normalTokens hus.lexeme hagain)
    have hlonger := length_lt_of_calls hstandard hshape hleft
    rw [length_eq_of_render_eq hus hlegible hsame] at hlonger
    exact Nat.lt_irrefl _ hlonger
  · -- the second run leaves every token, so it writes the same texts
    intro hleft
    have hapart : Apart ws := hwritten ▸ apart_insertTimes _
    rw [again_eq_self_of_not_calls hstandard hshape hapart hleft]
    exact render_congr (map_settle_again hstandard hshape fun _ _ _ htext => htext)

/-- A usual input: its normal form stays as it is, so no names were stacked. -/
theorem normalize_normalize_product :
    normalize 10000 "2CSC(x)".toList = .ok "2*(1/sin(x))".toList ∧
      (("2*(1/sin(x))".toList.length : ℕ) : Int) ≤ 10000 ∧
      normalize 10000 "2*(1/sin(x))".toList = .ok "2*(1/sin(x))".toList ∧
      ∃ ts, tokenize (lowercase (trim "2CSC(x)".toList)) = .ok ts ∧ ¬ StacksReciprocals ts := by
  have h : normalize 10000 "2CSC(x)".toList = .ok "2*(1/sin(x))".toList := by decide +kernel
  have hlen : (("2*(1/sin(x))".toList.length : ℕ) : Int) ≤ 10000 := by decide +kernel
  have hsame : normalize 10000 "2*(1/sin(x))".toList = .ok "2*(1/sin(x))".toList := by
    decide +kernel
  obtain ⟨ts, c', hts, hagain, hiff⟩ := normalize_normalize_eq_iff h hlen
  exact ⟨h, hlen, hsame, ts, hts, hiff.1 (Except.ok.inj (hagain.symm.trans hsame))⟩

/-- Two runs do not always end where one does. -/
theorem not_normalize_idempotent :
    ¬ ∀ raw c : List Char, normalize 10000 raw = .ok c → (c.length : Int) ≤ 10000 →
      normalize 10000 c = .ok c := by
  intro h
  have hfirst : normalize 10000 "csc csc(x)".toList = .ok "csc(1/sin(x))".toList := by
    decide +kernel
  have hsecond : normalize 10000 "csc(1/sin(x))".toList = .ok "(1/sin(1/sin(x)))".toList := by
    decide +kernel
  have hsame := h _ _ hfirst (by decide +kernel)
  rw [hsecond] at hsame
  exact absurd hsame (by decide +kernel)

end CurveSketch
