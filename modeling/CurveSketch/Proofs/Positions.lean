import CurveSketch.Proofs.NormalForm.Origins
import CurveSketch.Proofs.NormalForm.WrittenStars
import CurveSketch.Proofs.Outcome
import CurveSketch.Proofs.Token.Places

/-!
# Where a rejection points to

What is wrong with an input is found in one of two texts.  Characters, names and parentheses are
looked at in the small form of the input, where everything stands as it was typed.  Whether tokens
may stand behind each other is found out in the normal form, which has stars, parentheses and digits
that nobody typed, and fewer blanks.

* `Rejection.named` — what a message names at its position.
* `named_of_normalTokens` — names and parentheses that are rejected are tokens of the input.
* **`standsCased_of_normalize`** — before there is a normal form a position is that of the input, but
  for the dot of a capital I.
* `MovesTo` — where a token of the input stands in the normal form.
* **`movesTo_of_compile`** — after that a position is that of the normal form, and what stands there
  is a token of the input.
* **`standsCased_or_movesTo`** — both together.  So `2x x`, of four characters, is rejected for what
  stands at the position 4.
-/

namespace CurveSketch

open Text Token NormalForm

/-- What the message of a rejection names at its position. -/
def Rejection.named : Rejection → List Char
  | .invalidCharacter c _ => [c]
  | .unknownName name _ | .missingArgument name _ => name
  | .strayCloser _ => [')']
  | .unexpected text _ => text
  | _ => []

variable {raw c cs : List Char} {p : ℕ} {ts vs ws : List Token} {t w : Token} {r : Rejection}
  {limit : Int} {limits : Limits}

/-- A token of the small form of a text was typed at its position. -/
lemma standsCased_of_splits (h : Splits 0 (lowercase cs) ts) :
    ∀ t ∈ ts, StandsCased t.text t.position cs := by
  intro t ht
  have hplain := plain_of_splits h
  obtain ⟨q, hq, hstands⟩ := h.standsAt t ht
  rw [Nat.zero_add] at hq
  rw [lowercase_eq_map hplain] at hstands
  exact hq ▸ hstands.cased hplain

/-! ## Before there is a normal form -/

namespace NormalForm

lemma position_settle (t : Token) : (settle t).position = t.position := by
  simp only [settle, readConstant, readPower]
  split_ifs <;> first | rfl | (split <;> rfl)

/-- A name is rejected as it was typed. -/
lemma unknownName_of_classifyName (h : classifyName (readConstant (readPower t)) = .error r) :
    r = .unknownName t.text t.position := by
  by_cases ht : t.kind = .name
  · rw [readPower_of_name ht, readConstant, if_pos ht] at h
    unfold classifyName at h
    split at h
    · simp at h
    · split_ifs at h
      split at h
      · cases h
      · exact (Except.error.inj h).symm
  · have hkind : (readConstant (readPower t)).kind ≠ .name := by
      have hpower : (readPower t).kind ≠ .name := by
        unfold readPower
        split_ifs <;> exact ht
      rwa [readConstant, if_neg hpower]
    rw [classifyName, if_neg hkind] at h
    cases h

/-- The first name that stands for nothing is a token of the input. -/
lemma unknownName_of_classify (h : classify (readConstants (readPowers ts)) = .error r) :
    ∃ t ∈ ts, r = .unknownName t.text t.position := by
  induction ts with
  | nil => simp [readPowers, readConstants, classify] at h
  | cons t ts ih =>
      change (classifyName (readConstant (readPower t)) >>= fun v =>
        classify (readConstants (readPowers ts)) >>= fun rest => .ok (v :: rest)) = .error r at h
      rcases bind_eq_error_iff.1 h with hfirst | ⟨v, -, hmore⟩
      · exact ⟨t, List.mem_cons_self, unknownName_of_classifyName hfirst⟩
      · rcases bind_eq_error_iff.1 hmore with hrest | ⟨vs, -, hdone⟩
        · obtain ⟨u, hu, hr⟩ := ih hrest
          exact ⟨u, List.mem_cons_of_mem t hu, hr⟩
        · cases hdone

/-- The parentheses that stay open have no position, and one without a partner is a token. -/
lemma closing_of_checkFrom {depth : ℕ} (h : checkFrom depth ws = .error r)
    (hp : r.position?.isSome = true) : ∃ w ∈ ws, w.kind = .closing ∧ r = .strayCloser w.position := by
  have hlater : ∀ {v : Token} {ws : List Token},
      (∃ w ∈ ws, w.kind = .closing ∧ r = .strayCloser w.position) →
      ∃ w ∈ v :: ws, w.kind = .closing ∧ r = .strayCloser w.position := by
    rintro v ws ⟨w, hw, hrest⟩
    exact ⟨w, List.mem_cons_of_mem v hw, hrest⟩
  fun_induction checkFrom depth ws with
  | case1 => simp at h
  | case2 depth _ =>
      obtain rfl := Except.error.inj h
      cases hp
  | case4 t rest hclosing => exact ⟨t, List.mem_cons_self, hclosing, (Except.error.inj h).symm⟩
  | case3 _ _ _ _ ih | case5 _ _ _ _ ih | case6 _ _ _ _ _ _ ih => exact hlater (ih h)

/-- A parenthesis that closes is one that was there, or stands at the place of one. -/
lemma closing_of_closeReciprocal {opened : List Bool}
    (hw : w ∈ expandFrom.closeReciprocal t opened) (hclosing : w.kind = .closing) :
    t.kind = .closing ∧ t.position = w.position := by
  unfold expandFrom.closeReciprocal at hw
  split at hw
  · next ht =>
    rcases List.mem_cons.1 hw with rfl | hw
    · exact ⟨ht, rfl⟩
    · obtain rfl := List.mem_singleton.1 hw
      exact ⟨ht, rfl⟩
  · obtain rfl := List.mem_singleton.1 hw
    exact ⟨hclosing, rfl⟩

lemma closing_of_expandFrom {pairs : List (ℕ × ℕ)} {index : ℕ} {opened : List Bool}
    (hw : w ∈ expandFrom pairs index opened vs) (hclosing : w.kind = .closing) :
    ∃ v ∈ vs, v.kind = .closing ∧ v.position = w.position := by
  fun_induction expandFrom pairs index opened vs with
  | case1 => simp at hw
  | case2 index opened t => exact ⟨t, by simp, closing_of_closeReciprocal hw hclosing⟩
  | case3 index opened t next rest base _ _ ih =>
      rcases List.mem_append.1 hw with hw | hw
      · simp only [reciprocalHead, List.mem_cons, List.not_mem_nil, or_false] at hw
        rcases hw with rfl | rfl | rfl | rfl <;> cases hclosing
      · rcases List.mem_cons.1 hw with rfl | hw
        · exact ⟨w, by simp, hclosing, rfl⟩
        · obtain ⟨v, hv, hrest⟩ := ih hw
          exact ⟨v, by simp [hv], hrest⟩
  | case4 index opened t next rest _ ih =>
      rcases List.mem_append.1 hw with hw | hw
      · exact ⟨t, by simp, closing_of_closeReciprocal hw hclosing⟩
      · obtain ⟨v, hv, hrest⟩ := ih hw
        exact ⟨v, List.mem_cons_of_mem t hv, hrest⟩

lemma kind_of_settle_closing (h : (settle t).kind = .closing) : t.kind = .closing := by
  have hside := side?_settle t
  rw [h] at hside
  cases hk : t.kind <;> simp_all [side?]

lemma text_of_closing {text : List Char} (h : Lexeme .closing text) : text = [')'] := by
  cases h with
  | @symbol c _ hc =>
      unfold symbolKind? at hc
      split at hc <;> simp_all

/-- **Names and parentheses that are rejected are tokens of the input.** -/
lemma named_of_normalTokens (hlex : ∀ t ∈ ts, Lexeme t.kind t.text)
    (h : normalTokens ts = .error r) (hp : r.position? = some p) :
    ∃ t ∈ ts, r.named = t.text ∧ p = t.position := by
  have hplace : r.position?.isSome = true := by simp [hp]
  rcases bind_eq_error_iff.1 h with h | ⟨vs, hvs, h⟩
  · obtain ⟨t, ht, rfl⟩ := unknownName_of_classify h
    exact ⟨t, ht, rfl, (Option.some.inj hp).symm⟩
  · obtain ⟨-, rfl⟩ := classify_eq_ok_iff.1 hvs
    rcases bind_eq_error_iff.1 h with h | ⟨_, -, h⟩
    · obtain ⟨w, hw, hclosing, rfl⟩ := closing_of_checkFrom h hplace
      rcases mem_insertTimes hw with hw | ⟨q, rfl⟩
      · obtain ⟨v, hv, hvclosing, hposition⟩ := closing_of_expandFrom hw hclosing
        obtain ⟨t, ht, rfl⟩ := List.mem_map.1 hv
        rw [position_settle] at hposition
        have htlex := hlex t ht
        rw [kind_of_settle_closing hvclosing] at htlex
        exact ⟨t, ht, (text_of_closing htlex).symm,
          (Option.some.inj hp).symm.trans hposition.symm⟩
      · cases hclosing
    · cases h

/-- A token that is no constant keeps its text, but for a caret. -/
lemma text_settle (h : (settle t).kind ≠ .const) :
    (settle t).text = t.text ∨ t.text = ['^'] ∧ (settle t).text = ['*', '*'] := by
  by_cases hop : t.kind = .operator
  · rw [settle_operator hop, readPower]
    split_ifs with hcaret
    · simp only [isOperator, Bool.and_eq_true, beq_iff_eq] at hcaret
      exact .inr ⟨hcaret.2, rfl⟩
    · exact .inl rfl
  · left
    by_cases hname : t.kind = .name
    · rw [settle, readPower_of_name hname, readConstant, if_pos hname] at h ⊢
      split at h
      · simp at h
      · split_ifs <;> rfl
    · rw [settle_other hname hop]

end NormalForm

/-- **Before there is a normal form a position is that of the input**: what the message names was
typed there, in some case.  The exception is the dot of a capital I, which was typed one place
before. -/
lemma standsCased_of_normalize (h : normalize limit raw = .error r) (hp : r.position? = some p) :
    StandsCased r.named p (trim raw) ∨
      r = .invalidCharacter '\u0307' p ∧ ∃ q, p = q + 1 ∧ StandsAt ['\u0130'] q (trim raw) := by
  rcases bind_eq_error_iff.1 h with h | ⟨text, htext, h⟩
  · simp only [sourceText] at h
    split_ifs at h
    all_goals
      obtain rfl := Except.error.inj h
      cases hp
  · obtain ⟨-, -, rfl⟩ := sourceText_eq_ok_iff.1 htext
    rcases bind_eq_error_iff.1 h with h | ⟨ts, hts, h⟩
    · obtain ⟨c, q, rfl, hplaces⟩ := standsCased_of_tokenize h
      obtain rfl := Option.some.inj hp
      rcases hplaces with hstands | ⟨rfl, hdotted⟩
      exacts [.inl hstands, .inr ⟨rfl, hdotted⟩]
    · have hsplits := tokenizeFrom_eq_ok_iff.1 hts
      rcases bind_eq_error_iff.1 h with h | ⟨_, -, h⟩
      · obtain ⟨t, ht, hnamed, rfl⟩ := named_of_normalTokens hsplits.lexeme h hp
        rw [hnamed]
        exact .inl (standsCased_of_splits hsplits t ht)
      · cases h

/-! ## In the normal form -/

/-- The token of an input stands at the place of the normal form: the normal form has the token that
it becomes, and there it is read. -/
def MovesTo (ts : List Token) (t : Token) (c : List Char) (p : ℕ) : Prop :=
  ∃ ws us, normalTokens ts = .ok ws ∧ tokenize c = .ok us ∧
    ∃ (i : ℕ) (u : Token), ws[i]? = some (settle t) ∧ us[i]? = some u ∧ u.position = p

/-- What is wrong with the size of a tree has no place. -/
lemma position?_of_checkSize {n m : Int} {e : Expr} (h : e.checkSize n m = .error r) :
    r.position? = none := by
  rcases Expr.exceeded_of_checkSize h with ⟨rfl, -⟩ | ⟨rfl, -⟩ <;> rfl

/-- A rejection of a normal form that has a place is the reader's. -/
lemma parse_of_compile (hts : tokenize c = .ok ts) (hne : ts ≠ [])
    (h : Curve.compile limits c = .error r) (hp : r.position? = some p) :
    parse limits.nesting ts = .error r := by
  rcases bind_eq_error_iff.1 h with h | ⟨tree, -, h⟩
  · rw [readTree_eq_parse hts hne] at h
    rcases bind_eq_error_iff.1 h with h | ⟨e, -, h⟩
    · exact h
    · rcases bind_eq_error_iff.1 h with h | ⟨_, -, h⟩
      · rw [position?_of_checkSize h] at hp
        cases hp
      · cases h
  · dsimp only at h
    split_ifs at h
    obtain rfl := Except.error.inj h
    cases hp

lemma Says.named_eq {u : Token} (h : Says r u) (hp : r.position? = some p) :
    r.named = u.text ∧ u.position = p := by
  rcases h with rfl | rfl
  all_goals exact ⟨rfl, Option.some.inj hp⟩

/-- **What stands where the reader stops comes from the input.** -/
lemma movesTo_of_compile (hc : normalize limit raw = .ok c) (h : Curve.compile limits c = .error r)
    (hp : r.position? = some p) :
    StandsAt r.named p c ∧ ∃ ts t, tokenize (lowercase (trim raw)) = .ok ts ∧ t ∈ ts ∧
      MovesTo ts t c p ∧ (r.named = t.text ∨ t.text = ['^'] ∧ r.named = ['*', '*']) ∧
      StandsCased t.text t.position (trim raw) := by
  obtain ⟨ts, ws, hsplits, hws, hne, hstandard, rfl⟩ := tokens_of_normalize hc
  obtain ⟨us, hus, hshape⟩ := splits_render (Standard.legible hstandard)
  have hread := forall₂_readFrom hstandard hshape
  have husne : us ≠ [] := by
    rintro rfl
    exact hne (List.map_eq_nil_iff.1 hshape.symm)
  have hparse := parse_of_compile hus.tokenizeFrom_eq husne h hp
  have hblames : Blames false us r := by
    refine blames_of_parse ?_ ((balanced_again hshape).2 (balanced_of_normalTokens hws)) hparse ?_
    · exact fun u hu => ⟨hus.lexeme u hu, known_again hstandard hshape u hu⟩
    · simp [hp]
  -- all that was not typed fits where it stands, so what is blamed was
  obtain ⟨i, w, u, hw, hu, horigin, hconst, hwu, hsays⟩ :
      ∃ (i : ℕ) (w u : Token), ws[i]? = some w ∧ us[i]? = some u ∧ w ∈ ts.map settle ∧
        w.kind ≠ .const ∧ ReadFrom w u ∧ Says r u := by
    obtain ⟨-, -, hwritten⟩ := normalTokens_eq_ok_iff.1 hws
    have haccounted : Accounted (· ∈ ts.map settle) false ws :=
      hwritten ▸ accounted_insertTimes (accounted_writtenOut (fun v hv => .inl hv) false)
    have hapart : Apart ws := hwritten ▸ apart_insertTimes _
    exact origin_of_blames (v := times 0) hread (hapart.cons fun k => rfl) haccounted hblames
  obtain ⟨t, ht, rfl⟩ := List.mem_map.1 horigin
  obtain ⟨hnamed, rfl⟩ := Says.named_eq hsays hp
  refine ⟨?_, ts, t, hsplits.tokenizeFrom_eq, ht,
    ⟨ws, us, hws, hus.tokenizeFrom_eq, i, u, hw, hu, rfl⟩, ?_, standsCased_of_splits hsplits t ht⟩
  · obtain ⟨q, hq, hstands⟩ := hus.standsAt u (List.mem_of_getElem? hu)
    rw [Nat.zero_add] at hq
    rw [hnamed, hq]
    exact hstands
  · rw [hnamed, hwu.text_eq]
    exact text_settle hconst

/-- **Where a rejection with a position points to.**  If there is no normal form, it points into the
input, to what was typed there, but for the dot of a capital I.  If there is one, it points into the
normal form: what stands there is a token of the input, which need not have stood there.  It did if
the normal form is the input with small letters. -/
theorem standsCased_or_movesTo (h : Curve.ofInput limits raw = .error r)
    (hp : r.position? = some p) :
    (normalize limits.inputLength raw = .error r ∧
      (StandsCased r.named p (trim raw) ∨
        r = .invalidCharacter '\u0307' p ∧ ∃ q, p = q + 1 ∧ StandsAt ['\u0130'] q (trim raw))) ∨
    ∃ c ts t, normalize limits.inputLength raw = .ok c ∧ StandsAt r.named p c ∧
      tokenize (lowercase (trim raw)) = .ok ts ∧ t ∈ ts ∧ MovesTo ts t c p ∧
      (r.named = t.text ∨ t.text = ['^'] ∧ r.named = ['*', '*']) ∧
      StandsCased t.text t.position (trim raw) ∧
      (c = lowercase (trim raw) → StandsCased r.named p (trim raw)) := by
  rcases bind_eq_error_iff.1 h with hnormal | ⟨c, hc, hcompile⟩
  · exact .inl ⟨hnormal, standsCased_of_normalize hnormal hp⟩
  · obtain ⟨hstands, ts, t, hts, ht, hmoves, hnamed, htyped⟩ := movesTo_of_compile hc hcompile hp
    refine .inr ⟨c, ts, t, hc, hstands, hts, ht, hmoves, hnamed, htyped, ?_⟩
    rintro rfl
    have hplain := plain_of_splits (tokenizeFrom_eq_ok_iff.1 hts)
    rw [lowercase_eq_map hplain] at hstands
    exact hstands.cased hplain

/-- The star of a product moves what stands behind it. -/
theorem standsCased_or_movesTo_product :
    Curve.ofInput {} "2X x".toList = .error (.unexpected ['x'] 4) ∧
      (Rejection.unexpected ['x'] 4).position? = some 4 ∧
      ∃ ts t, tokenize (lowercase (trim "2X x".toList)) = .ok ts ∧ t ∈ ts ∧
        StandsAt ['x'] 4 "2*x x".toList ∧ MovesTo ts t "2*x x".toList 4 ∧ t.text = ['x'] ∧
        StandsCased t.text t.position (trim "2X x".toList) := by
  have hrejected : Curve.ofInput {} "2X x".toList = .error (.unexpected ['x'] 4) :=
    eq_error_of_map (f := fun _ => ()) (by decide +kernel)
  have hnormal : normalize ({} : Limits).inputLength "2X x".toList = .ok "2*x x".toList := by
    decide +kernel
  rcases standsCased_or_movesTo hrejected rfl with ⟨hnone, -⟩ |
    ⟨c, ts, t, hc, hstands, hts, ht, hmoves, hnamed, htyped, -⟩
  · cases hnormal.symm.trans hnone
  · obtain rfl := Except.ok.inj (hnormal.symm.trans hc)
    have htext : t.text = ['x'] := by
      rcases hnamed with hnamed | ⟨-, hpower⟩
      · exact hnamed.symm
      · cases hpower
    exact ⟨hrejected, rfl, ts, t, hts, ht, hstands, hmoves, htext, htyped⟩

/-- Not every position of a rejection is one of the input. -/
theorem not_standsCased :
    ¬ ∀ (raw : List Char) (r : Rejection) (p : ℕ), Curve.ofInput {} raw = .error r →
      r.position? = some p → StandsCased r.named p (trim raw) := by
  intro h
  have hrejected : Curve.ofInput {} "2x x".toList = .error (.unexpected ['x'] 4) :=
    eq_error_of_map (f := fun _ => ()) (by decide +kernel)
  have hinside := (h _ _ 4 hrejected rfl).lt_length
  have hlength : (trim "2x x".toList).length = 4 := by decide +kernel
  rw [hlength] at hinside
  exact absurd hinside (lt_irrefl 4)

end CurveSketch
