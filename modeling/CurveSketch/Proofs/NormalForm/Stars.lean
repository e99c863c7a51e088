import CurveSketch.Proofs.NormalForm

/-!
# Products with a star and without

A product may be written with a star or, between certain neighbours, without one.  The star is looked
for last, when names are settled and the calls of reciprocal functions written out, so that the
neighbours it stands between are no longer those of the input: `2csc(x)` has its star between a number
and a parenthesis.  This file shows that it makes no difference.

* `Interspersed` — tokens, and the same tokens with a star written between some neighbours that are
  multiplied.
* `textsAfter` — the texts that are written for tokens in normal form, told from the left, where one
  needs to know no more of what went before than the kind of the last token and the parentheses that
  are open.
* **`normalTokens_interspersed`** — tokens with and without such stars have normal forms of the same
  texts.
-/

namespace CurveSketch.NormalForm

open Token

/-- The sign of a product. -/
def IsStar (s : Token) : Prop := s.kind = .operator ∧ s.text = Operator.mul.symbol

/-- The second tokens are the first with a star written between some neighbours that are multiplied;
`k` is the kind of the token in front of them. -/
inductive Interspersed : Kind → List Token → List Token → Prop
  | nil (k) : Interspersed k [] []
  | same {k t u ts us} (h : u.shape = t.shape) (hrest : Interspersed (settle t).kind ts us) :
      Interspersed k (t :: ts) (u :: us)
  | star {k t u s ts us} (hmul : multiplies k (settle t).kind = true)
      (hs : IsStar s) (h : u.shape = t.shape)
      (hrest : Interspersed (settle t).kind ts us) : Interspersed k (t :: ts) (s :: u :: us)

/-! ## Only shapes count -/

lemma kind_eq_of_shape {t u : Token} (h : u.shape = t.shape) : u.kind = t.kind :=
  congrArg Prod.fst h

lemma text_eq_of_shape {t u : Token} (h : u.shape = t.shape) : u.text = t.text :=
  congrArg Prod.snd h

lemma Known.congr {t u : Token} (h : u.shape = t.shape) (ht : Known t) : Known u := by
  intro hname
  rw [text_eq_of_shape h]
  exact ht ((kind_eq_of_shape h).symm.trans hname)

lemma shape_settle {t u : Token} (h : u.shape = t.shape) : (settle u).shape = (settle t).shape := by
  obtain ⟨k, text, p⟩ := t
  obtain ⟨k', text', q⟩ := u
  obtain ⟨rfl, rfl⟩ := Prod.mk.inj h
  cases k' with
  | name =>
      rw [settle, settle, readPower_of_not_operator (by simp), readPower_of_not_operator (by simp)]
      cases hc : Constant.ofName? text' <;> simp [readConstant, hc, shape]
  | operator =>
      rw [settle_operator rfl, settle_operator rfl]
      by_cases hcaret : text' = ['^'] <;> simp [readPower, isOperator, shape, hcaret]
  | _ => rw [settle_other (by simp) (by simp), settle_other (by simp) (by simp)]; rfl

lemma Interspersed.of_shapes : ∀ {ts us : List Token} (k : Kind), us.map shape = ts.map shape →
    Interspersed k ts us := by
  intro ts
  induction ts with
  | nil =>
      intro us k h
      obtain rfl := List.map_eq_nil_iff.1 h
      exact .nil k
  | cons t ts ih =>
      intro us k h
      obtain ⟨u, us, rfl, hu, hus⟩ := List.map_eq_cons_iff.1 h
      exact .same hu (ih (settle t).kind hus)

lemma IsStar.known {s : Token} (hs : IsStar s) : Known s := known_of_ne (by simp [hs.1])

lemma settle_star {s : Token} (hs : IsStar s) : settle s = s := by
  rw [settle_operator hs.1, readPower, isOperator, hs.2]
  simp [Operator.symbol]

/-! ## Names and parentheses -/

variable {k : Kind} {ts us : List Token}

lemma Interspersed.known (h : Interspersed k ts us) (hts : ∀ t ∈ ts, Known t) :
    ∀ u ∈ us, Known u := by
  induction h with
  | nil k => simp
  | same h _ ih =>
      obtain ⟨ht, hts⟩ := List.forall_mem_cons.1 hts
      exact List.forall_mem_cons.2 ⟨ht.congr h, ih hts⟩
  | star _ hs h _ ih =>
      obtain ⟨ht, hts⟩ := List.forall_mem_cons.1 hts
      exact List.forall_mem_cons.2 ⟨hs.known, List.forall_mem_cons.2 ⟨ht.congr h, ih hts⟩⟩

lemma Interspersed.balanced (h : Interspersed k ts us) (depth : ℕ) :
    Balanced depth us ↔ Balanced depth ts := by
  induction h generalizing depth with
  | nil k => rfl
  | same h _ ih => simp only [balanced_cons, kind_eq_of_shape h, ih]
  | star _ hs h _ ih =>
      rw [balanced_other (by rw [hs.1]; rfl)]
      simp only [balanced_cons, kind_eq_of_shape h, ih]

/-! ## The texts of a normal form, from the left -/

/-- The star that is written between a token of the one kind and one of the other, if it is. -/
def starBetween (left right : Kind) : List (List Char) :=
  if multiplies left right then [Operator.mul.symbol] else []

/-- The texts written for tokens behind one of the kind `k`, where `heads` and `opened` say what has
been written out so far. -/
def textsAfter (k : Kind) (heads : Bool) (opened : List Bool) (ts : List Token) :
    List (List Char) :=
  (timesAfter k (writtenOut heads opened (ts.map settle))).map text

lemma map_text_timesAfter_cons (k : Kind) (t : Token) (ts : List Token) :
    (timesAfter k (t :: ts)).map text =
      starBetween k t.kind ++ t.text :: (timesAfter t.kind ts).map text := by
  rw [timesAfter, starBetween]
  split_ifs <;> rfl

/-- A call that is written out is begun by a parenthesis. -/
lemma textsAfter_called {t : Token} {base : Fn} (heads : Bool) (opened : List Bool)
    (h : called? (settle t) (ts.map settle) = some base) :
    textsAfter k heads opened (t :: ts) =
      starBetween k .opening ++ (reciprocalHead base 0).map text ++
        textsAfter .func true opened ts := by
  rw [textsAfter, List.map_cons, writtenOut_called h]
  simp [reciprocalHead, map_text_timesAfter_cons, starBetween, textsAfter]

/-- Any other token is written itself, and the parenthesis behind it that closes a reciprocal. -/
lemma textsAfter_not_called {t : Token} (heads : Bool) (opened : List Bool)
    (h : called? (settle t) (ts.map settle) = none) :
    textsAfter k heads opened (t :: ts) =
      starBetween k (settle t).kind ++ (expandFrom.closeReciprocal (settle t) opened).map text ++
        textsAfter (settle t).kind false (openAfter heads (settle t) opened) ts := by
  rw [textsAfter, List.map_cons, writtenOut_not_called h]
  unfold expandFrom.closeReciprocal
  split
  · next hclosing =>
    simp [map_text_timesAfter_cons, starBetween, textsAfter, hclosing]
  · simp [map_text_timesAfter_cons, textsAfter]

/-- Behind a factor the star is written, in front of a call that is written out too. -/
lemma textsAfter_multiplied {t : Token} (heads : Bool) (opened : List Bool)
    (hmul : multiplies k (settle t).kind = true) :
    textsAfter k heads opened (t :: ts) =
      Operator.mul.symbol :: textsAfter .operator heads opened (t :: ts) := by
  cases h : called? (settle t) (ts.map settle) with
  | some base =>
      have hopening : multiplies k .opening = true := by
        rw [kind_of_reciprocalBase? (called?_eq_some_iff.1 h).1] at hmul
        cases k <;> first | rfl | cases hmul
      rw [textsAfter_called heads opened h, textsAfter_called heads opened h]
      simp [starBetween, hopening]
  | none =>
      rw [textsAfter_not_called heads opened h, textsAfter_not_called heads opened h]
      simp [starBetween, hmul]

lemma textsAfter_star {s : Token} (heads : Bool) (opened : List Bool) (hs : IsStar s) :
    textsAfter k heads opened (s :: ts) =
      Operator.mul.symbol :: textsAfter .operator false opened ts := by
  have hplain : called? s (ts.map settle) = none := called?_of_kind_ne (by simp [hs.1]) _
  rw [textsAfter_not_called heads opened (by rwa [settle_star hs]), settle_star hs]
  simp [starBetween, expandFrom.closeReciprocal, openAfter, hs.1, hs.2]

/-! ## The same texts -/

lemma called?_interspersed (h : Interspersed k ts us) {t u : Token} (hshape : u.shape = t.shape)
    (hk : k = (settle t).kind) :
    called? (settle u) (us.map settle) = called? (settle t) (ts.map settle) := by
  have hsettle := shape_settle hshape
  have hbase : reciprocalBase? (settle u) = reciprocalBase? (settle t) := by
    simp only [reciprocalBase?, kind_eq_of_shape hsettle, text_eq_of_shape hsettle]
  cases h with
  | nil => simp [called?]
  | same h _ =>
      have hnext := kind_eq_of_shape (shape_settle h)
      simp [called?_cons, hbase, hnext]
  | star hmul hs _ _ =>
      -- a star would stand behind a factor, and the name of a function is none
      have hfunc : (settle t).kind ≠ .func := by
        rintro hfunc
        simp [hk, hfunc] at hmul
      rw [called?_of_kind_ne hfunc, called?_of_kind_ne]
      rwa [kind_eq_of_shape hsettle]

lemma closeReciprocal_text {t u : Token} (h : u.shape = t.shape) (opened : List Bool) :
    (expandFrom.closeReciprocal u opened).map text =
      (expandFrom.closeReciprocal t opened).map text := by
  unfold expandFrom.closeReciprocal
  rw [kind_eq_of_shape h]
  split <;> simp [text_eq_of_shape h]

lemma openAfter_congr {t u : Token} (h : u.shape = t.shape) (heads : Bool) (opened : List Bool) :
    openAfter heads u opened = openAfter heads t opened := by
  unfold openAfter
  rw [kind_eq_of_shape h]

/-- One token that is the same on both sides. -/
lemma textsAfter_same {t u : Token} (h : u.shape = t.shape)
    (hrest : Interspersed (settle t).kind ts us)
    (ih : ∀ heads opened, (heads = true → (settle t).kind = .func) →
      textsAfter (settle t).kind heads opened us = textsAfter (settle t).kind heads opened ts) :
    ∀ k heads opened, textsAfter k heads opened (u :: us) = textsAfter k heads opened (t :: ts) := by
  intro k heads opened
  have hsettle := shape_settle h
  have hsame := called?_interspersed hrest h rfl
  cases hcalled : called? (settle t) (ts.map settle) with
  | some base =>
      have hfunc := kind_of_reciprocalBase? (called?_eq_some_iff.1 hcalled).1
      rw [hfunc] at ih
      rw [textsAfter_called heads opened hcalled,
        textsAfter_called heads opened (hsame.trans hcalled), ih true opened fun _ => rfl]
  | none =>
      rw [textsAfter_not_called heads opened hcalled,
        textsAfter_not_called heads opened (hsame.trans hcalled), kind_eq_of_shape hsettle,
        closeReciprocal_text hsettle, openAfter_congr hsettle, ih false _ (by simp)]

/-- The texts are the same with the stars and without: where there is one, one would have been
written. -/
lemma Interspersed.textsAfter_eq (h : Interspersed k ts us) :
    ∀ heads opened, (heads = true → k = .func) →
      textsAfter k heads opened us = textsAfter k heads opened ts := by
  induction h with
  | nil k => intro _ _ _; rfl
  | same h hrest ih => intro heads opened _; exact textsAfter_same h hrest ih _ heads opened
  | star hmul hs h hrest ih =>
      intro heads opened hheads
      have hplain : heads = false := by
        rw [Bool.eq_false_iff]
        intro htrue
        simp [hheads htrue] at hmul
      rw [textsAfter_star heads opened hs, textsAfter_multiplied heads opened hmul, hplain,
        textsAfter_same h hrest ih .operator false opened]

/-- **Tokens with and without stars** between neighbours that are multiplied have normal forms of the
same texts. -/
lemma normalTokens_interspersed {ws : List Token} (h : Interspersed .operator ts us)
    (hws : normalTokens ts = .ok ws) :
    ∃ ws', normalTokens us = .ok ws' ∧ ws'.map text = ws.map text := by
  obtain ⟨hknown, hbal, rfl⟩ := normalTokens_eq_ok_iff.1 hws
  refine ⟨_, normalTokens_eq_ok_iff.2 ⟨h.known hknown, (h.balanced 0).2 hbal, rfl⟩, ?_⟩
  rw [insertTimes_eq_timesAfter, insertTimes_eq_timesAfter]
  exact h.textsAfter_eq false [] (by simp)

end CurveSketch.NormalForm
