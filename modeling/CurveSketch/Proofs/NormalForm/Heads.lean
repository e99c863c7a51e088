import CurveSketch.Proofs.NormalForm.Meaning
import CurveSketch.Proofs.NormalForm.Twice
import Mathlib.Data.List.Forall2

/-!
# Functions without arguments

The reader rejects the name of a function unless a parenthesis opens behind it, but it sees the
names only when the calls of reciprocal functions have been written out, and a call that is written
out opens a parenthesis.  So `sin csc(x)` passes, as `sin(1/sin(x))`, where `sin sin(x)` does not.

* `Followed` — behind every token of a sort stand tokens of which something is so.
* `Derives.followed` — in an expression a parenthesis opens behind every name of a function.
* `followed_of_insertTimes`, **`followed_of_writtenOut`** — what that says of the tokens before the
  products, and before the calls of reciprocal functions, are written out.
* **`opensFirst_or_reciprocal`** — in an input that is accepted a parenthesis opens behind every name
  of a function, unless the name stands in front of a call of a reciprocal function.
-/

namespace CurveSketch

open Text Token NormalForm

namespace NormalForm

/-! ## What follows a token -/

/-- Behind every token of a sort stand tokens of which something is so. -/
def Followed (p : Token → Prop) (q : List Token → Prop) : List Token → Prop
  | [] => True
  | t :: rest => (p t → q rest) ∧ Followed p q rest

variable {p p' : Token → Prop} {q q' : List Token → Prop} {ts us : List Token}

lemma followed_iff : Followed p q ts ↔ ∀ t rest, t :: rest <:+ ts → p t → q rest := by
  induction ts with
  | nil => simp [Followed]
  | cons u ts ih =>
      rw [Followed, ih]
      constructor
      · rintro ⟨hu, hts⟩ t rest hsuffix
        rcases List.suffix_cons_iff.1 hsuffix with heq | hsuffix
        · obtain ⟨rfl, rfl⟩ := List.cons.inj heq
          exact hu
        · exact hts t rest hsuffix
      · intro h
        exact ⟨h u ts (List.suffix_refl _), fun t rest hsuffix =>
          h t rest (hsuffix.trans (List.suffix_cons u ts))⟩

lemma Followed.of_append (h : Followed p q (ts ++ us)) : Followed p q us := by
  induction ts with
  | nil => exact h
  | cons t ts ih => exact ih h.2

/-- Two lists in a row, if what is asked for stays so when more follows. -/
lemma Followed.append (hq : ∀ {rest} more, q rest → q (rest ++ more)) (hts : Followed p q ts)
    (hus : Followed p q us) : Followed p q (ts ++ us) := by
  induction ts with
  | nil => exact hus
  | cons t ts ih => exact ⟨fun ht => hq us (hts.1 ht), ih hts.2⟩

/-- From one list to another that corresponds to it token by token. -/
lemma Followed.of_forall₂ {R : Token → Token → Prop} (h : Followed p q ts)
    (hR : List.Forall₂ R ts us) (hp : ∀ {t u}, R t u → p' u → p t)
    (hq : ∀ {ts us}, List.Forall₂ R ts us → q ts → q' us) : Followed p' q' us := by
  induction hR with
  | nil => trivial
  | cons htu hrest ih => exact ⟨fun hu => hq hrest (h.1 (hp htu hu)), ih h.2⟩

/-! ## Expressions -/

lemma followed_singleton {t : Token} (ht : ¬ p t) : Followed p q [t] :=
  ⟨fun h => absurd h ht, trivial⟩

lemma not_namesFunction_of_ne {t : Token} (h : t.kind ≠ .name) : ¬ t.NamesFunction :=
  fun hname => h hname.1

end NormalForm

/-- In an expression a parenthesis opens behind every name of a function. -/
lemma Derives.followed {s : Phrase} {ts : List Token} {e : Expr} {n : ℕ} (h : Derives s ts e n) :
    Followed Token.NamesFunction OpensFirst ts := by
  have hjoin : ∀ {ts us : List Token} {t : Token}, t.kind = .operator →
      Followed NamesFunction OpensFirst ts → Followed NamesFunction OpensFirst us →
      Followed NamesFunction OpensFirst (ts ++ t :: us) := by
    intro ts us t ht hts hus
    exact hts.append (fun more h => h.append more)
      ⟨fun hname => absurd hname (not_namesFunction_of_ne (by simp [ht])), hus⟩
  have hgroup : ∀ {ts : List Token} {o c : Token}, o.kind = .opening → c.kind = .closing →
      Followed NamesFunction OpensFirst ts → Followed NamesFunction OpensFirst (o :: (ts ++ [c])) := by
    intro ts o c ho hc hts
    refine ⟨fun hname => absurd hname (not_namesFunction_of_ne (by simp [ho])), ?_⟩
    exact hts.append (fun more h => h.append more)
      (followed_singleton (not_namesFunction_of_ne (by simp [hc])))
  induction h with
  | ofTerm _ ih | ofSigned _ ih | ofPower _ ih | ofPrimary _ ih => exact ih
  | sum op t _ _ ht _ ihl ihr => exact hjoin ht.1 ihl ihr
  | product op t _ _ ht _ ihl ihr => exact hjoin ht.1 ihl ihr
  | sign s t ht _ ih => exact @hjoin [] _ _ ht.1 trivial ih
  | raise t _ ht _ ihb ihe => exact hjoin (ht.elim And.left And.left) ihb ihe
  | number t ht => exact followed_singleton (not_namesFunction_of_ne (by simp [ht]))
  | var t ht hx =>
      refine followed_singleton ?_
      rintro ⟨-, f, hf⟩
      exact f.name_ne_variableName (hf.symm.trans hx)
  | constant c t ht hc =>
      refine followed_singleton ?_
      rintro ⟨-, f, hf⟩
      exact c.name_ne_function f (hc.symm.trans hf)
  | group o c ho _ hc ih => exact hgroup ho hc ih
  | call f t o c ht hf ho _ hc ih => exact ⟨fun _ => ⟨o, _, rfl, ho⟩, hgroup ho hc ih⟩

namespace NormalForm

/-! ## The passes, backward -/

/-- The token has been found to name a function. -/
abbrev IsFunction (t : Token) : Prop := t.kind = .func

/-- A parenthesis opens first once the calls of reciprocal functions are written out. -/
def OpensWritten (ts : List Token) : Prop :=
  ∃ u tail, ts = u :: tail ∧ (u.kind = .opening ∨ ∃ base, called? u tail = some base)

variable {ts us ws : List Token}

/-- What is found when a normal form is read holds of its tokens. -/
lemma followed_of_again (hstandard : ∀ w ∈ ws, Standard w.kind w.text)
    (hs : us.map shape = ws.map readShape) (h : Followed NamesFunction OpensFirst us) :
    Followed IsFunction OpensFirst ws := by
  refine h.of_forall₂ (forall₂_readFrom hstandard hs).flip ?_ ?_
  · rintro u w ⟨hw, hshape⟩ hfunc
    exact (hw.namesFunction_iff hshape).2 hfunc
  · intro us ws hR hopen
    refine hopen.of_forall₂ hR ?_
    intro u w hread hu
    exact (asRead_eq_iff (by decide)).1 (ReadFrom.kind_eq hread |>.trans hu)

/-- Products make no parenthesis open behind the name of a function. -/
lemma followed_of_insertTimes (h : Followed IsFunction OpensFirst (insertTimes ts)) :
    Followed IsFunction OpensFirst ts := by
  fun_induction insertTimes ts with
  | case1 => exact h
  | case2 t => exact h
  | case3 t next rest hmul ih =>
      refine ⟨fun ht => ?_, ih h.2.2⟩
      obtain ⟨_, _, heq, hopen⟩ := h.1 ht
      obtain ⟨rfl, -⟩ := List.cons.inj heq
      simp [times] at hopen
  | case4 t next rest _ ih =>
      refine ⟨fun ht => ?_, ih h.2⟩
      obtain ⟨us, hus⟩ := insertTimes_cons next rest
      obtain ⟨o, tail, heq, hopen⟩ := h.1 ht
      obtain ⟨rfl, -⟩ := List.cons.inj (hus.symm.trans heq)
      exact ⟨next, rest, rfl, hopen⟩

/-- **Where a parenthesis opens behind every name of a function once reciprocals are written out**, it
opened there before, or the call of a reciprocal function stood there. -/
lemma followed_of_writtenOut {heads : Bool} {opened : List Bool}
    (h : Followed IsFunction OpensFirst (writtenOut heads opened ts)) :
    Followed IsFunction OpensWritten ts := by
  fun_induction writtenOut heads opened ts with
  | case1 => trivial
  | case2 heads opened t rest base hcall ih =>
      obtain ⟨-, next, tail, rfl, hopen⟩ := called?_eq_some_iff.1 hcall
      exact ⟨fun _ => ⟨next, tail, rfl, .inl hopen⟩, ih h.of_append⟩
  | case3 heads opened t rest hnone ih =>
      refine ⟨fun ht => ?_, ih h.of_append⟩
      have hself : expandFrom.closeReciprocal t opened = [t] := by
        rw [expandFrom.closeReciprocal]
        simp [show t.kind = .func from ht]
      rw [hself] at h
      exact opening_first_writtenOut.1 (h.1 ht)

/-- What is found of settled tokens holds of the tokens of the input. -/
lemma followed_of_settle (hlex : ∀ t ∈ ts, Lexeme t.kind t.text) (hknown : ∀ t ∈ ts, Known t)
    (h : Followed IsFunction OpensWritten (ts.map settle)) :
    Followed NamesFunction (fun rest => OpensFirst rest ∨
      ∃ b tail, rest = b :: tail ∧ b.NamesReciprocal ∧ OpensFirst tail) ts := by
  let R : Token → Token → Prop := fun v t => v = settle t ∧ Lexeme t.kind t.text ∧ Known t
  have hR : List.Forall₂ R (ts.map settle) ts :=
    List.forall₂_map_left_iff.2 (List.forall₂_same.2 fun t ht => ⟨rfl, hlex t ht, hknown t ht⟩)
  have hopens : ∀ {v t}, R v t → v.kind = .opening → t.kind = .opening := by
    rintro v t ⟨rfl, -⟩ hv
    exact settle_opening_iff.1 hv
  refine h.of_forall₂ hR ?_ ?_
  · rintro v t ⟨rfl, -⟩ ⟨hname, f, hf⟩
    rw [IsFunction, settle_function hname hf]
  · rintro vs ts hR ⟨u, tail, rfl, hopen | ⟨base, hcall⟩⟩
    · exact .inl (OpensFirst.of_forall₂ ⟨u, tail, rfl, hopen⟩ hR hopens)
    · obtain ⟨b, ts, ⟨rfl, hlex, hknown⟩, hrest, rfl⟩ := List.forall₂_cons_left_iff.1 hR
      obtain ⟨hbase, hfirst⟩ := called?_eq_some_iff.1 hcall
      exact .inr ⟨b, ts, rfl, (exists_reciprocalBase?_settle hlex hknown).1 ⟨base, hbase⟩,
        OpensFirst.of_forall₂ hfirst hrest hopens⟩

end NormalForm

variable {limits : Limits} {raw c : List Char} {e : Expr}

/-- **In an input that is accepted a parenthesis opens behind every name of a function**, unless the
name stands in front of a call of a reciprocal function.  So it opens behind all of them exactly if
none stands in front of the name of a reciprocal function. -/
theorem opensFirst_or_reciprocal (hc : normalize limits.inputLength raw = .ok c)
    (he : readTree limits c = .ok e) :
    ∃ ts, tokenize (lowercase (trim raw)) = .ok ts ∧
      (∀ t rest, t :: rest <:+ ts → t.NamesFunction → OpensFirst rest ∨
        ∃ b tail, rest = b :: tail ∧ b.NamesReciprocal ∧ OpensFirst tail) ∧
      ((∀ t rest, t :: rest <:+ ts → t.NamesFunction → OpensFirst rest) ↔
        ¬ ∃ t b, [t, b] <:+: ts ∧ t.NamesFunction ∧ b.NamesReciprocal) := by
  obtain ⟨ts, ws, hsplits, hws, -, hstandard, rfl⟩ := tokens_of_normalize hc
  obtain ⟨us, n, hus, hderives⟩ := derives_of_readTree he
  obtain ⟨us', hus', hshape⟩ := splits_render (Standard.legible hstandard)
  obtain rfl := Except.ok.inj (hus.symm.trans hus'.tokenizeFrom_eq)
  obtain ⟨hknown, -, rfl⟩ := normalTokens_eq_ok_iff.1 hws
  have hfollowed := followed_of_settle hsplits.lexeme hknown
    (followed_of_writtenOut (followed_of_insertTimes
      (followed_of_again hstandard hshape hderives.followed)))
  rw [followed_iff] at hfollowed
  refine ⟨ts, hsplits.tokenizeFrom_eq, hfollowed, ?_, ?_⟩
  · rintro hall ⟨t, b, ⟨front, rest, rfl⟩, ht, hb, -⟩
    obtain ⟨o, tail, heq, ho⟩ := hall t (b :: rest) ⟨front, by simp⟩ ht
    obtain ⟨rfl, -⟩ := List.cons.inj heq
    rw [ho] at hb
    cases hb
  · rintro hnone t rest hsuffix ht
    rcases hfollowed t rest hsuffix ht with hopen | ⟨b, tail, rfl, hb, -⟩
    · exact hopen
    · obtain ⟨front, rfl⟩ := hsuffix
      exact absurd ⟨t, b, ⟨front, tail, by simp⟩, ht, hb⟩ hnone

/-- A function in front of the call of a reciprocal function is read as applied to the quotient. -/
theorem opensFirst_or_reciprocal_stacked :
    ∃ e ts, normalize ({} : Limits).inputLength "2SIN csc(x)".toList = .ok "2*sin(1/sin(x))".toList ∧
      readTree {} "2*sin(1/sin(x))".toList = .ok e ∧
      tokenize (lowercase (trim "2SIN csc(x)".toList)) = .ok ts ∧
      ∀ t rest, t :: rest <:+ ts → t.NamesFunction → OpensFirst rest ∨
        ∃ b tail, rest = b :: tail ∧ b.NamesReciprocal ∧ OpensFirst tail := by
  have hnormal : normalize ({} : Limits).inputLength "2SIN csc(x)".toList =
      .ok "2*sin(1/sin(x))".toList := by decide +kernel
  have hread : (readTree {} "2*sin(1/sin(x))".toList).toOption.isSome = true := by decide +kernel
  obtain ⟨e, he⟩ := exists_ok_of_isSome hread
  obtain ⟨ts, hts, hfollowed, -⟩ := opensFirst_or_reciprocal hnormal he
  exact ⟨e, ts, hnormal, he, hts, hfollowed⟩

/-- Not every function that is accepted has its arguments in parentheses. -/
theorem not_opensFirst :
    ¬ ∀ (raw c : List Char) (e : Expr) (ts : List Token), normalize 10000 raw = .ok c →
      readTree {} c = .ok e → tokenize (lowercase (trim raw)) = .ok ts →
      ∀ t rest, t :: rest <:+ ts → t.NamesFunction → OpensFirst rest := by
  intro h
  have hnormal : normalize 10000 "sin csc(x)".toList = .ok "sin(1/sin(x))".toList := by
    decide +kernel
  have hread : (readTree {} "sin(1/sin(x))".toList).toOption.isSome = true := by decide +kernel
  obtain ⟨e, he⟩ := exists_ok_of_isSome hread
  have htokens : tokenize (lowercase (trim "sin csc(x)".toList)) =
      .ok [⟨.name, ['s', 'i', 'n'], 0⟩, ⟨.name, ['c', 's', 'c'], 4⟩, ⟨.opening, ['('], 7⟩,
        ⟨.name, ['x'], 8⟩, ⟨.closing, [')'], 9⟩] := by decide +kernel
  obtain ⟨o, tail, heq, ho⟩ :=
    h _ _ e _ hnormal he htokens _ _ (List.suffix_refl _) ⟨rfl, .sin, rfl⟩
  obtain ⟨rfl, -⟩ := List.cons.inj heq
  cases ho

end CurveSketch
