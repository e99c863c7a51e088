import CurveSketch.Proofs.Grammar.Reading

/-!
# Phrases are read

`parse` reads exactly the expressions that the grammar derives and that are not nested too deeply.
That what is read is a phrase is `reads_parseSigned`; this file has the other direction.

A phrase is read only if nothing behind it goes on with it (`Phrase.Ends`), and a row of operands is
read by a loop that goes on as long as it can.  So what is shown of a sum or a product is where the
loop stands after it (`goOn`), with whatever comes next still to be read; then the induction is on
the derivation (`Derives.recognized`).  One equation covers both outcomes (`within`): the phrase is
read when the levels suffice for its nesting, and rejected as too deep when they do not.

* **`parse_eq_ok_iff_derives`** — what `parse` accepts, that trees are unique, and what it does with
  expressions that are nested too deeply.
-/

namespace CurveSketch

open Parse

variable {limit : Int} {levels : ℕ}

/-! ## Levels that suffice, and levels that do not -/

/-- An outcome that needs `n` levels, where there are `levels`. -/
def within {α : Type} (limit : Int) (levels n : ℕ) (outcome : Except Rejection α) :
    Except Rejection α :=
  if n ≤ levels then outcome else .error (.tooDeep limit)

lemma within_bind {α β : Type} (n : ℕ) (outcome : Except Rejection α)
    (next : α → Except Rejection β) :
    (within limit levels n outcome >>= next) = within limit levels n (outcome >>= next) := by
  unfold within
  split_ifs <;> rfl

lemma within_within {α : Type} (m n : ℕ) (outcome : Except Rejection α) :
    within limit levels m (within limit levels n outcome) =
      within limit levels (max m n) outcome := by
  unfold within
  split_ifs <;> first | rfl | omega

lemma within_zero {α : Type} (outcome : Except Rejection α) :
    within limit levels 0 outcome = outcome := if_pos (Nat.zero_le _)

/-- Going one level deeper takes one level. -/
lemma within_succ {α : Type} (n : ℕ) (outcome : Except Rejection α) :
    within limit (levels + 1) (n + 1) outcome = within limit levels n outcome := by
  unfold within
  simp only [Nat.add_le_add_iff_right]

/-- Without levels left nothing goes deeper. -/
lemma within_none {α : Type} (n : ℕ) (outcome : Except Rejection α) :
    within limit 0 (n + 1) outcome = .error (.tooDeep limit) := if_neg (Nat.not_succ_le_zero n)

/-! ## Rows of operands -/

/-- The loop over operands stops in front of a token that joins none. -/
lemma chainAfter_stop {opOf? : Token → Option Operator} {operand : Reader} {rest : List Token}
    (h : ∀ t ∈ rest.head?, opOf? t = none) (rounds : ℕ) (e : Expr) :
    chainAfter opOf? operand rounds e rest = .ok (e, rest) := by
  cases rounds with
  | zero => rfl
  | succ rounds =>
      cases rest with
      | nil => rfl
      | cons t rest => rw [chainAfter, h t rfl]

/-- As many rounds as there are tokens suffice, and more change nothing: every round takes an
operator at least. -/
lemma chainAfter_rounds {opOf? : Token → Option Operator} {operand : Reader}
    (hread : ∀ ts e rest, operand ts = .ok (e, rest) → rest.length ≤ ts.length) {a b : ℕ}
    {e : Expr} {ts : List Token} (ha : ts.length ≤ a) (hb : ts.length ≤ b) :
    chainAfter opOf? operand a e ts = chainAfter opOf? operand b e ts := by
  induction a generalizing b e ts with
  | zero =>
      obtain rfl : ts = [] := List.length_eq_zero_iff.1 (Nat.le_zero.1 ha)
      rw [chainAfter_stop (by simp), chainAfter_stop (by simp)]
  | succ a ih =>
      cases ts with
      | nil => rw [chainAfter_stop (by simp), chainAfter_stop (by simp)]
      | cons t ts =>
          obtain ⟨b, rfl⟩ : ∃ k, b = k + 1 := ⟨b - 1, by simp at hb; omega⟩
          simp only [List.length_cons, Nat.add_le_add_iff_right] at ha hb
          rw [chainAfter, chainAfter]
          split
          · rfl
          · cases hop : operand ts with
            | error r => rfl
            | ok found =>
                have hlen := hread ts found.1 found.2 hop
                exact ih (by omega) (by omega)

/-- The first operand of a row: the loop begins behind it. -/
lemma chain_first {opOf? : Token → Option Operator} {operand : Reader} {ts rest : List Token}
    {e : Expr} {n : ℕ} (h : operand ts = within limit levels n (.ok (e, rest))) :
    chain opOf? operand ts =
      within limit levels n (chainAfter opOf? operand rest.length e rest) := by
  rw [chain, h, within_bind]
  rfl

/-- One more operand of a row: the loop takes the operator and the operand, and stands behind it. -/
lemma chain_next {opOf? : Token → Option Operator} {operand : Reader}
    (hread : ∀ ts e rest, operand ts = .ok (e, rest) → rest.length ≤ ts.length)
    {ts us rest : List Token} {t : Token} {op : Operator} {l r : Expr} {m n : ℕ}
    (hop : opOf? t = some op)
    (hl : chain opOf? operand (ts ++ t :: (us ++ rest)) =
      within limit levels m
        (chainAfter opOf? operand (t :: (us ++ rest)).length l (t :: (us ++ rest))))
    (hr : operand (us ++ rest) = within limit levels n (.ok (r, rest))) :
    chain opOf? operand (ts ++ t :: (us ++ rest)) =
      within limit levels (max m n)
        (chainAfter opOf? operand rest.length (.binary op l r) rest) := by
  rw [hl, List.length_cons, chainAfter, hop]
  dsimp only
  rw [hr, within_bind, within_within, ok_bind]
  dsimp only
  rw [chainAfter_rounds hread (by simp) (Nat.le_refl _)]

/-! ## What may stand behind a phrase -/

/-- The reader of each sort of phrases with a number of levels left. -/
def readerOf (limit : Int) (levels : ℕ) : Phrase → Reader
  | .expression => expression (parseSigned limit levels)
  | .term => chain multiplicative? (parseSigned limit levels)
  | .signed => parseSigned limit levels
  | .power => power limit (nextOf limit levels)
  | .primary => primary limit (nextOf limit levels)

/-- No token in front of `rest` goes on with the last operand of a phrase of this sort.  The
operators of a row are not excluded: they are taken by the loop. -/
def Phrase.Ends : Phrase → List Token → Prop
  | .primary, _ => True
  | .power, rest | .signed, rest | .term, rest => ∀ t ∈ rest.head?, isPower t = false
  | .expression, rest =>
    (∀ t ∈ rest.head?, isPower t = false) ∧ ∀ t ∈ rest.head?, multiplicative? t = none

/-- What is left to do when a phrase is read: the loop over a row looks for more operands, and
otherwise nothing. -/
def goOn (limit : Int) (levels : ℕ) (p : Phrase) (e : Expr) : Reader := fun rest =>
  match p with
  | .expression =>
    chainAfter additive? (readerOf limit levels .term) rest.length e rest
  | .term => chainAfter multiplicative? (parseSigned limit levels) rest.length e rest
  | _ => .ok (e, rest)

/-- Reading a phrase with anything behind it that does not go on with its last operand. -/
def Recognized (limit : Int) (p : Phrase) (ts : List Token) (e : Expr) (n : ℕ) : Prop :=
  ∀ levels rest, p.Ends rest →
    readerOf limit levels p (ts ++ rest) =
      within limit levels n (goOn limit levels p e rest)

lemma Token.Spells.not_isPower {t : Token} {text : List Char} (h : t.Spells text)
    (hstar : text ≠ ['*', '*']) (hcaret : text ≠ ['^']) : isPower t = false := by
  rw [Bool.eq_false_iff, ne_eq, isPower_iff]
  rintro (hs | hs)
  · exact hstar (h.unique hs)
  · exact hcaret (h.unique hs)

lemma Token.Spells.not_multiplicative {t : Token} {text : List Char} (h : t.Spells text)
    (hmul : text ≠ ['*']) (hdiv : text ≠ ['/']) : multiplicative? t = none := by
  rw [Option.eq_none_iff_forall_ne_some]
  rintro op hop
  obtain ⟨rfl | rfl, hs⟩ := multiplicative?_eq_some_iff.1 hop
  · exact hmul (h.unique hs)
  · exact hdiv (h.unique hs)

/-- What is no operator joins nothing. -/
lemma joins_nothing {t : Token} (h : t.kind ≠ .operator) :
    isPower t = false ∧ multiplicative? t = none ∧ additive? t = none ∧ signOf? t = none := by
  have hs : ∀ text, t.isOperator text = false := fun text => by simp [Token.isOperator, h]
  simp [isPower, multiplicative?, additive?, signOf?, hs]

/-- Readers do not lengthen what is left. -/
lemma length_le_of_reads {p : Phrase} {read : Reader} (h : Reads p levels read) (ts : List Token)
    (e : Expr) (rest : List Token) (hok : read ts = .ok (e, rest)) : rest.length ≤ ts.length := by
  obtain ⟨used, n, rfl, -, -⟩ := h ts e rest hok
  simp

/-! ## From groups to expressions -/

/-- An expression that is recognized is recognized between parentheses, one level deeper. -/
lemma Recognized.group {ts : List Token} {e : Expr} {n : ℕ}
    (h : Recognized limit .expression ts e n) {c : Token} (hc : c.kind = .closing)
    (rest : List Token) :
    Parse.group limit (nextOf limit levels) (ts ++ c :: rest) =
      within limit levels (n + 1) (.ok (e, rest)) := by
  cases levels with
  | zero =>
      rw [within_none]
      rfl
  | succ levels =>
      obtain ⟨hpow, hmul, hadd, -⟩ := joins_nothing (t := c) (by simp [hc])
      have hends : Phrase.expression.Ends (c :: rest) := by simp [Phrase.Ends, hpow, hmul]
      have hread := h levels (c :: rest) hends
      have hstop : goOn limit levels .expression e (c :: rest) = .ok (e, c :: rest) :=
        chainAfter_stop (by simpa using hadd) _ _
      rw [hstop] at hread
      rw [within_succ]
      change (readerOf limit levels .expression (ts ++ c :: rest) >>= _) = _
      rw [hread, within_bind, ok_bind]
      simp [hc]

/-- A signed factor that is recognized is recognized on the next level. -/
lemma Recognized.deeper {ts : List Token} {e : Expr} {n : ℕ}
    (h : Recognized limit .signed ts e n) {rest : List Token} (hends : Phrase.signed.Ends rest) :
    Parse.deeper limit (nextOf limit levels) (ts ++ rest) =
      within limit levels (n + 1) (.ok (e, rest)) := by
  cases levels with
  | zero =>
      rw [within_none]
      rfl
  | succ levels =>
      rw [within_succ]
      exact h levels rest hends

lemma recognized_named {t : Token} {e : Expr} (ht : t.kind = .name)
    (h : ∀ next rest, named limit next t rest = .ok (e, rest)) :
    Recognized limit .primary [t] e 0 := by
  intro levels rest _
  rw [within_zero]
  simp only [readerOf, List.singleton_append, primary, ht]
  exact h _ rest

lemma Recognized.call {ts : List Token} {e : Expr} {n : ℕ}
    (h : Recognized limit .expression ts e n) (f : Fn) {t o c : Token} (ht : t.kind = .name)
    (hf : t.text = f.name) (ho : o.kind = .opening) (hc : c.kind = .closing) :
    Recognized limit .primary (t :: o :: (ts ++ [c])) (.call f e) (n + 1) := by
  intro levels rest _
  simp only [readerOf, List.cons_append, List.append_assoc, List.nil_append, primary, ht, named,
    hf, if_neg f.name_ne_variableName, Constant.ofName?_function, Fn.ofName?_name, if_pos ho]
  rw [h.group hc, within_bind]
  rfl

lemma Recognized.raise {ts us : List Token} {b e : Expr} {m n : ℕ}
    (hb : Recognized limit .primary ts b m) {t : Token} (ht : isPower t = true)
    (he : Recognized limit .signed us e n) :
    Recognized limit .power (ts ++ t :: us) (.binary .pow b e) (max m (n + 1)) := by
  intro levels rest hends
  have hbase := hb levels (t :: (us ++ rest)) trivial
  simp only [readerOf, goOn] at hbase
  simp only [readerOf, goOn, List.append_assoc, List.cons_append, power]
  rw [hbase, within_bind, ok_bind]
  simp only [ht, if_true]
  rw [he.deeper hends, within_bind, within_within]
  rfl

/-- **A phrase is recognized.**  By induction on the derivation, with the levels and what stands
behind the phrase left open. -/
lemma Derives.recognized {p : Phrase} {ts : List Token} {e : Expr} {n : ℕ} (h : Derives p ts e n)
    (limit : Int) : Recognized limit p ts e n := by
  induction h with
  | number t ht =>
      intro levels rest _
      rw [within_zero]
      simp only [readerOf, goOn, List.singleton_append, primary, ht]
  | var t ht hx => exact recognized_named ht fun next rest => by simp [named, hx]
  | constant c t ht hc =>
      refine recognized_named ht fun next rest => ?_
      simp [named, hc, c.name_ne_variableName, Constant.ofName?_name]
  | group o c ho _ hc ih =>
      intro levels rest _
      simp only [readerOf, List.cons_append, List.append_assoc, List.nil_append, primary, ho]
      exact ih.group hc rest
  | call f t o c ht hf ho _ hc ih => exact ih.call f ht hf ho hc
  | ofPrimary _ ih =>
      intro levels rest hends
      have hbase := ih levels rest trivial
      simp only [readerOf, goOn] at hbase
      simp only [readerOf, goOn, power]
      rw [hbase, within_bind, ok_bind]
      cases rest with
      | nil => rfl
      | cons t rest => simp only [hends t rfl, Bool.false_eq_true, if_false]
  | raise t _ ht _ ihb ihe => exact ihb.raise (isPower_iff.2 ht) ihe
  | ofPower hpow ih =>
      intro levels rest hends
      obtain ⟨t, tail, rfl, ht⟩ := hpow.power_head
      have hpower := ih levels rest hends
      simp only [readerOf, goOn, List.cons_append] at hpower
      simp only [readerOf, goOn, List.cons_append, parseSigned_eq, signedWith,
        (joins_nothing ht).2.2.2]
      exact hpower
  | sign s t ht _ ih =>
      intro levels rest hends
      simp only [readerOf, goOn, List.cons_append, parseSigned_eq, signedWith,
        signOf?_eq_some_iff.2 ht]
      rw [ih.deeper hends, within_bind]
      rfl
  | ofSigned _ ih =>
      intro levels rest hends
      exact chain_first (ih levels rest hends)
  | product op t _ hop ht _ ihl ihr =>
      intro levels rest hends
      have hpow : isPower t = false := by
        rcases hop with rfl | rfl <;> exact ht.not_isPower (by decide) (by decide)
      simp only [List.append_assoc, List.cons_append]
      refine chain_next (length_le_of_reads (reads_parseSigned limit levels))
        (multiplicative?_eq_some_iff.2 ⟨hop, ht⟩) ?_ (ihr levels rest hends)
      exact ihl levels _ (by simp [Phrase.Ends, hpow])
  | ofTerm _ ih =>
      intro levels rest hends
      refine chain_first ((ih levels rest hends.1).trans ?_)
      rw [goOn, chainAfter_stop hends.2]
  | sum op t _ hop ht _ ihl ihr =>
      intro levels rest hends
      have hpow : isPower t = false := by
        rcases hop with rfl | rfl <;> exact ht.not_isPower (by decide) (by decide)
      have hmul : multiplicative? t = none := by
        rcases hop with rfl | rfl <;> exact ht.not_multiplicative (by decide) (by decide)
      simp only [List.append_assoc, List.cons_append]
      refine chain_next (length_le_of_reads (reads_parseSigned limit levels).term)
        (additive?_eq_some_iff.2 ⟨hop, ht⟩) ?_ ((ihr levels rest hends.1).trans ?_)
      · exact ihl levels _ (by simp [Phrase.Ends, hpow, hmul])
      · rw [goOn, chainAfter_stop hends.2]

/-! ## Whole lists of tokens -/

/-- Reading a whole list that is an expression. -/
lemma Derives.parse_eq {ts : List Token} {e : Expr} {n : ℕ} (h : Derives .expression ts e n)
    (limit : Int) : parse limit ts = within limit limit.toNat n (.ok e) := by
  have hread := h.recognized limit limit.toNat [] (by simp [Phrase.Ends])
  rw [goOn, chainAfter_stop (by simp), List.append_nil] at hread
  change (readerOf limit limit.toNat .expression ts >>= _) = _
  rw [hread, within_bind]
  rfl

/-- What `parse` accepts is an expression, and is not nested too deeply. -/
lemma derives_of_parse {limit : Int} {ts : List Token} {e : Expr} (h : parse limit ts = .ok e) :
    ∃ n, Derives .expression ts e n ∧ n ≤ limit.toNat := by
  obtain ⟨⟨e', rest⟩, hread, hend⟩ := bind_eq_ok_iff.1 h
  obtain ⟨used, n, rfl, hused, hn⟩ := (reads_parseSigned limit limit.toNat).expression _ _ _ hread
  cases rest with
  | nil =>
      obtain rfl : e' = e := by simpa using hend
      exact ⟨n, by simpa using hused, hn⟩
  | cons t rest => simp at hend

/-- Tokens are an expression in one way only. -/
lemma Derives.unique {ts : List Token} {e e' : Expr} {n n' : ℕ} (h : Derives .expression ts e n)
    (h' : Derives .expression ts e' n') : e = e' ∧ n = n' := by
  have agree : ∀ limit : ℕ, within limit limit n (Except.ok e) = within limit limit n' (.ok e') :=
    fun limit => (h.parse_eq limit).symm.trans (h'.parse_eq limit)
  have hall := agree (max n n')
  have hn := agree n
  have hn' := agree n'
  simp only [within, Nat.le_max_left, Nat.le_max_right, if_true, Except.ok.injEq] at hall
  refine ⟨hall, Nat.le_antisymm ?_ ?_⟩
  · by_contra hlt
    simp [within, hlt] at hn'
  · by_contra hlt
    simp [within, hlt] at hn

/-- **The reader and the grammar agree.**  `parse` accepts a list of tokens exactly if it is an
expression nested no deeper than the limit, with the tree of its derivation.  There is one such tree
for a list, and one depth of nesting; and an expression that is nested too deeply is rejected as
such.  A limit below zero counts as zero. -/
theorem parse_eq_ok_iff_derives (limit : Int) (ts : List Token) :
    (∀ e, parse limit ts = .ok e ↔ ∃ n, Derives .expression ts e n ∧ n ≤ limit.toNat) ∧
    (∀ e e' n n', Derives .expression ts e n → Derives .expression ts e' n' →
      e = e' ∧ n = n') ∧
    (∀ e n, Derives .expression ts e n → limit.toNat < n →
      parse limit ts = .error (.tooDeep limit) ∧ (Rejection.tooDeep limit).code = "TOO_DEEP") := by
  refine ⟨fun e => ⟨derives_of_parse, ?_⟩, fun e e' n n' h h' => h.unique h', ?_⟩
  · rintro ⟨n, h, hn⟩
    rw [h.parse_eq, within, if_pos hn]
  · intro e n h hn
    rw [h.parse_eq, within, if_neg (Nat.not_le.2 hn)]
    exact ⟨rfl, rfl⟩

end CurveSketch
