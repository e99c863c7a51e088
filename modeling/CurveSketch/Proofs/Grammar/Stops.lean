import CurveSketch.Proofs.Grammar.Recognition
import CurveSketch.Proofs.Grammar.Stages
import CurveSketch.Proofs.NormalForm.Names

/-!
# Where reading stops

A reader that rejects a list of tokens has gone from stage to stage up to a token that may not stand
where it does, or up to the end; unless the nesting is too deep, for which a list has to be longer
than there are levels.

* `Halts` — the next token may not stand at a stage, or there is none where one is awaited, and
  which rejection says so; `HaltsIn` — so it is somewhere in the tokens.
* `Leaves` — what a reader stops at.  An expression is read as far as it goes, so no token that
  joins operands is left over (`leaves_expression`).
* `Explains` — a reader rejects only like this, or for its levels.
* **`explained_of_parse`** — so it is with whole lists.
* **`exists_derives_iff_through?`** — the expressions are the lists that lead from stage to stage to
  where an operator is awaited and no parenthesis is open.
* `Misplaced` — what a token in the wrong place is rejected for, and nesting that is too deep, by
  their codes.  `AllKnown` — the names among the tokens stand for something.
* **`misplaced_of_parse`** — a list with known names is rejected for these causes only.

The lemmas go up from groups to signed factors and then over the levels, as those about what is read
do.
-/

namespace CurveSketch

open Parse Stage

/-! ## Halts -/

/-- The first token may not stand at the stage, or there is none and the expression is not whole.
The name of a function is blamed itself if no parenthesis opens behind it. -/
inductive Halts : Stage → List Token → Rejection → Prop
  | operand {depth t rest} (h : (Stage.operand depth).next? t = none) :
      Halts (.operand depth) (t :: rest) (.unexpected t.text t.position)
  | unknown {depth t rest} (ht : t.kind = .name) (h : (Stage.operand depth).next? t = none) :
      Halts (.operand depth) (t :: rest) (.unknownName t.text t.position)
  | argument {depth t rest} (h : Stage.Leads (.operand depth) t (.argument depth))
      (hrest : ∀ o ∈ rest.head?, (Stage.argument depth).next? o = none) :
      Halts (.operand depth) (t :: rest) (.missingArgument t.text t.position)
  | operator {depth t rest} (h : (Stage.operator depth).next? t = none) :
      Halts (.operator depth) (t :: rest) (.unexpected t.text t.position)
  | atEnd {s} (h : s ≠ .operator 0) : Halts s [] .unexpectedEnd

variable {limit : Int} {levels depth : ℕ} {next : Option Reader} {p : Phrase}
  {ts us used rest : List Token} {t : Token} {e : Expr} {n : ℕ} {r : Rejection} {s s' : Stage}

/-- Somewhere in the tokens one of them may not stand at the stage that is reached there, or the
tokens end too early. -/
def HaltsIn (s : Stage) (ts : List Token) (r : Rejection) : Prop :=
  ∃ before s' rest, ts = before ++ rest ∧ s.through? before = some s' ∧ Halts s' rest r

lemma Halts.haltsIn (h : Halts s ts r) : HaltsIn s ts r := ⟨[], s, ts, rfl, rfl, h⟩

/-- Tokens that halt lead to no whole expression. -/
lemma Halts.through?_ne (h : Halts s ts r) : s.through? ts ≠ some (.operator 0) := by
  cases h with
  | operand h | unknown _ h | operator h => simp [h]
  | atEnd h => simpa using h
  | @argument depth t rest h hrest =>
      rw [h.through?_cons]
      cases rest with
      | nil => simp
      | cons o rest => simp [hrest o rfl]

lemma HaltsIn.append (h : HaltsIn s' rest r) (hused : s.through? used = some s') :
    HaltsIn s (used ++ rest) r := by
  obtain ⟨before, s'', final, rfl, hbefore, hhalts⟩ := h
  exact ⟨used ++ before, s'', final, (List.append_assoc ..).symm, by simp [hused, hbefore], hhalts⟩

lemma HaltsIn.through?_ne (h : HaltsIn s ts r) : s.through? ts ≠ some (operator 0) := by
  obtain ⟨before, s', rest, rfl, hbefore, hhalts⟩ := h
  rw [through?_append, hbefore]
  exact hhalts.through?_ne

/-! ## What is left over -/

/-- What the reader leaves is nothing, or begins with a token of a sort. -/
def Leaves (read : Reader) (stops : Token → Prop) : Prop :=
  ∀ ts e rest, read ts = .ok (e, rest) → ∀ t ∈ rest.head?, stops t

/-- A row is read up to a token that joins no operand, as there are rounds enough. -/
lemma Leaves.chainAfter {opOf? : Token → Option Operator} {operand : Reader} {stops : Token → Prop}
    (h : Leaves operand stops) (hread : Reads p levels operand) {rounds : ℕ} {left : Expr}
    (hrounds : ts.length ≤ rounds) (hts : ∀ t ∈ ts.head?, stops t)
    (hok : chainAfter opOf? operand rounds left ts = .ok (e, rest)) :
    ∀ t ∈ rest.head?, stops t ∧ opOf? t = none := by
  induction rounds generalizing left ts with
  | zero =>
      obtain rfl : ts = [] := List.length_eq_zero_iff.1 (Nat.le_zero.1 hrounds)
      obtain ⟨-, rfl⟩ : left = e ∧ [] = rest := by simpa [Parse.chainAfter] using hok
      simp
  | succ rounds ih =>
      cases ts with
      | nil =>
          obtain ⟨-, rfl⟩ : left = e ∧ [] = rest := by simpa [Parse.chainAfter] using hok
          simp
      | cons t ts =>
          rw [Parse.chainAfter] at hok
          split at hok
          · next hnone =>
            obtain ⟨-, rfl⟩ : left = e ∧ t :: ts = rest := by simpa using hok
            rintro _ ⟨⟩
            exact ⟨hts t rfl, hnone⟩
          · obtain ⟨⟨right, after⟩, hright, hmore⟩ := bind_eq_ok_iff.1 hok
            have hlength := length_le_of_reads hread _ _ _ hright
            rw [List.length_cons] at hrounds
            exact ih (by omega) (h _ _ _ hright) hmore

lemma Leaves.chain {opOf? : Token → Option Operator} {operand : Reader} {stops : Token → Prop}
    (h : Leaves operand stops) (hread : Reads p levels operand) :
    Leaves (chain opOf? operand) fun t => stops t ∧ opOf? t = none := by
  intro ts e rest hok
  obtain ⟨⟨left, after⟩, hleft, hmore⟩ := bind_eq_ok_iff.1 hok
  exact h.chainAfter hread (Nat.le_refl _) (h _ _ _ hleft) hmore

/-- Signed factors on the next level, if there is one, are read up to a token that is no power. -/
def NextLeaves (next : Option Reader) : Prop :=
  ∀ signed, next = some signed → Leaves signed fun t => isPower t = false

lemma NextLeaves.deeper (h : NextLeaves next) :
    Leaves (deeper limit next) fun t => isPower t = false := by
  intro ts e rest hok
  cases next with
  | none => simp [Parse.deeper] at hok
  | some signed => exact h signed rfl ts e rest hok

lemma NextLeaves.power (h : NextLeaves next) :
    Leaves (power limit next) fun t => isPower t = false := by
  intro ts e rest hok
  obtain ⟨⟨base, after⟩, -, hmore⟩ := bind_eq_ok_iff.1 hok
  cases after with
  | nil =>
      obtain ⟨-, rfl⟩ : base = e ∧ [] = rest := by simpa using hmore
      simp
  | cons t after =>
      dsimp only at hmore
      split_ifs at hmore with ht
      · obtain ⟨⟨exponent, final⟩, hexponent, hpower⟩ := bind_eq_ok_iff.1 hmore
        obtain ⟨-, rfl⟩ : Expr.binary .pow base exponent = e ∧ final = rest := by simpa using hpower
        exact h.deeper _ _ _ hexponent
      · obtain ⟨-, rfl⟩ : base = e ∧ t :: after = rest := by simpa using hmore
        rintro _ ⟨⟩
        exact Bool.eq_false_iff.2 ht

lemma NextLeaves.signed (h : NextLeaves next) :
    Leaves (signedWith limit next) fun t => isPower t = false := by
  intro ts e rest hok
  cases ts with
  | nil => exact h.power _ _ _ hok
  | cons t ts =>
      rw [signedWith] at hok
      split at hok
      · obtain ⟨⟨inner, after⟩, hinner, hsign⟩ := bind_eq_ok_iff.1 hok
        obtain ⟨-, rfl⟩ : _ ∧ after = rest := by simpa using hsign
        exact h.deeper _ _ _ hinner
      · exact h.power _ _ _ hok

lemma leaves_parseSigned (limit : Int) (levels : ℕ) :
    Leaves (parseSigned limit levels) fun t => isPower t = false := by
  have hnext : NextLeaves (nextOf limit levels) := by
    induction levels with
    | zero => rintro _ ⟨⟩
    | succ levels ih =>
        rintro _ ⟨⟩
        rw [parseSigned_eq]
        exact ih.signed
  rw [parseSigned_eq]
  exact hnext.signed

/-- **An expression is read as far as it goes**, so nothing that joins operands is left over. -/
lemma leaves_expression (limit : Int) (levels : ℕ) :
    Leaves (expression (parseSigned limit levels)) fun t => t.joins = false := by
  intro ts e rest hok t ht
  have hread := reads_parseSigned limit levels
  obtain ⟨⟨hpower, hmul⟩, hadd⟩ :=
    ((leaves_parseSigned limit levels).chain hread).chain hread.term _ _ _ hok t ht
  simp [Token.joins, hpower, hmul, hadd]

/-! ## Rows of operands -/

/-- The tokens halt, or there are more of them than levels and they are rejected for that. -/
def Explained (limit : Int) (levels : ℕ) (s : Stage) (ts : List Token) (r : Rejection) : Prop :=
  HaltsIn s ts r ∨ r = .tooDeep limit ∧ levels < ts.length

/-- The reader, where an operand is awaited, rejects only what halts, or for its levels. -/
def Explains (limit : Int) (levels : ℕ) (read : Reader) : Prop :=
  ∀ depth ts r, read ts = .error r → Explained limit levels (operand depth) ts r

lemma Explained.append (h : Explained limit levels s' rest r) (hused : s.through? used = some s') :
    Explained limit levels s (used ++ rest) r := by
  rcases h with h | ⟨rfl, hlevels⟩
  · exact .inl (h.append hused)
  · exact .inr ⟨rfl, by rw [List.length_append]; omega⟩

lemma Explained.cons (h : Explained limit levels s' ts r) (ht : Leads s t s') :
    Explained limit levels s (t :: ts) r :=
  h.append (ht.through?_cons [])

/-- A token in front of a deeper level makes up for the level. -/
lemma Explained.deeper (h : Explained limit levels s' ts r) (ht : Leads s t s') :
    Explained limit (levels + 1) s (t :: ts) r := by
  rcases h with h | ⟨rfl, hlevels⟩
  · exact .inl (h.append (ht.through?_cons []))
  · exact .inr ⟨rfl, by rw [List.length_cons]; omega⟩

/-- What stands behind a phrase stands where an operator is awaited. -/
lemma Derives.explained (h : Derives p used e n)
    (hrest : Explained limit levels (operator depth) rest r) :
    Explained limit levels (operand depth) (used ++ rest) r := hrest.append (h.through? depth)

lemma Explains.chainAfter {opOf? : Token → Option Operator} {operand : Reader}
    (hop : ∀ {t op depth}, opOf? t = some op → Leads (operator depth) t (Stage.operand depth))
    (h : Explains limit levels operand) (hread : Reads p levels operand) (rounds : ℕ) (left : Expr)
    (hr : chainAfter opOf? operand rounds left ts = .error r) :
    Explained limit levels (operator depth) ts r := by
  induction rounds generalizing left ts with
  | zero => simp [Parse.chainAfter] at hr
  | succ rounds ih =>
      cases ts with
      | nil => simp [Parse.chainAfter] at hr
      | cons t ts =>
          rw [Parse.chainAfter] at hr
          split at hr
          · simp at hr
          · next op ht =>
            rcases bind_eq_error_iff.1 hr with hr | ⟨⟨right, rest⟩, hright, hmore⟩
            · exact (h depth ts r hr).cons (hop ht)
            · obtain ⟨used, n, rfl, hused, -⟩ := hread _ _ _ hright
              exact (hused.explained (ih _ hmore)).cons (hop ht)

lemma Explains.chain {opOf? : Token → Option Operator} {operand : Reader}
    (hop : ∀ {t op depth}, opOf? t = some op → Leads (operator depth) t (Stage.operand depth))
    (h : Explains limit levels operand) (hread : Reads p levels operand) :
    Explains limit levels (chain opOf? operand) := by
  intro depth ts r hr
  rcases bind_eq_error_iff.1 hr with hr | ⟨⟨left, rest⟩, hleft, hmore⟩
  · exact h depth ts r hr
  · obtain ⟨used, n, rfl, hused, -⟩ := hread _ _ _ hleft
    exact hused.explained (h.chainAfter hop hread _ _ hmore)

lemma Explains.expression {signed : Reader} (h : Explains limit levels signed)
    (hread : Reads .signed levels signed) : Explains limit levels (expression signed) :=
  (h.chain .of_multiplicative hread).chain .of_additive hread.term

/-! ## From groups to signed factors -/

/-- Signed factors on the next level, if there is one, are rejected only like this. -/
def NextExplains (limit : Int) (levels : ℕ) : Prop :=
  ∀ k, levels = k + 1 → Explains limit k (parseSigned limit k)

/-- A signed factor on the next level, behind a token that leads there. -/
lemma NextExplains.deeper (h : NextExplains limit levels) (ht : Leads s t (operand depth))
    (hr : deeper limit (nextOf limit levels) ts = .error r) :
    Explained limit levels s (t :: ts) r := by
  cases levels with
  | zero =>
      obtain rfl : Rejection.tooDeep limit = r := by simpa [Parse.deeper, nextOf] using hr
      exact .inr ⟨rfl, by simp⟩
  | succ k => exact (h k rfl depth ts r hr).deeper ht

/-- An expression on the next level and what closes its group. -/
lemma NextExplains.group (h : NextExplains limit levels) (ht : Leads s t (operand (depth + 1)))
    (hr : group limit (nextOf limit levels) ts = .error r) :
    Explained limit levels s (t :: ts) r := by
  cases levels with
  | zero =>
      obtain rfl : Rejection.tooDeep limit = r := by
        simpa [Parse.group, Parse.deeper, nextOf] using hr
      exact .inr ⟨rfl, by simp⟩
  | succ k =>
      have hread := reads_parseSigned limit k
      rcases bind_eq_error_iff.1 hr with hr | ⟨⟨e, rest⟩, hinner, hclose⟩
      · exact ((h k rfl).expression hread _ ts r hr).deeper ht
      · have hstop := leaves_expression limit k _ _ _ hinner
        obtain ⟨used, n, rfl, hused, -⟩ := hread.expression _ _ _ hinner
        refine (hused.explained (.inl (Halts.haltsIn ?_))).deeper ht
        cases rest with
        | nil =>
            obtain rfl : Rejection.unexpectedEnd = r := by simpa using hclose
            exact .atEnd (by simp)
        | cons c rest =>
            dsimp only at hclose
            split_ifs at hclose with hc
            obtain rfl : Rejection.unexpected c.text c.position = r := by simpa using hclose
            exact .operator (next?_operator_eq_none (hstop c rfl) (.inl hc))

lemma NextExplains.named (h : NextExplains limit levels) (ht : t.kind = .name)
    (hr : named limit (nextOf limit levels) t ts = .error r) :
    Explained limit levels (operand depth) (t :: ts) r := by
  unfold Parse.named at hr
  split_ifs at hr with hx
  split at hr
  · simp at hr
  · next f _ hf =>
    have hnext : Leads (operand depth) t (argument depth) :=
      .function f ht (Fn.ofName?_eq_some_iff.1 hf)
    split at hr
    · next o ts =>
      split_ifs at hr with ho
      · rcases bind_eq_error_iff.1 hr with hr | ⟨_, -, hr⟩
        · exact (h.group (.argument ho) hr).cons hnext
        · simp at hr
      · obtain rfl : Rejection.missingArgument t.text t.position = r := by simpa using hr
        exact .inl (Halts.argument hnext (by simp [next?, ho])).haltsIn
    · obtain rfl : Rejection.missingArgument t.text t.position = r := by simpa using hr
      exact .inl (Halts.argument hnext (by simp)).haltsIn
  · next hconst hfn =>
    obtain rfl : Rejection.unknownName t.text t.position = r := by simpa using hr
    exact .inl (Halts.unknown ht (by simp [next?, ht, hx, hconst, hfn])).haltsIn

/-- A primary, where the first token is no sign. -/
lemma NextExplains.primary (h : NextExplains limit levels) (hsign : ∀ t ∈ ts.head?, signOf? t = none)
    (hr : primary limit (nextOf limit levels) ts = .error r) :
    Explained limit levels (operand depth) ts r := by
  cases ts with
  | nil =>
      obtain rfl : Rejection.unexpectedEnd = r := by simpa [Parse.primary] using hr
      exact .inl (Halts.atEnd (by simp)).haltsIn
  | cons t ts =>
      rw [Parse.primary] at hr
      split at hr
      · simp at hr
      · next ht => exact h.group (.opening ht) hr
      · next ht => exact h.named ht hr
      · next hnumber hopening hname =>
        obtain rfl : Rejection.unexpected t.text t.position = r := by simpa using hr
        refine .inl (Halts.operand ?_).haltsIn
        exact next?_operand_eq_none hnumber hopening hname (hsign t rfl)

lemma NextExplains.power (h : NextExplains limit levels) (hsign : ∀ t ∈ ts.head?, signOf? t = none)
    (hr : power limit (nextOf limit levels) ts = .error r) :
    Explained limit levels (operand depth) ts r := by
  rcases bind_eq_error_iff.1 hr with hr | ⟨⟨base, rest⟩, hbase, hmore⟩
  · exact h.primary hsign hr
  · obtain ⟨used, n, rfl, hused, -⟩ := (nextReads_nextOf limit levels).primary _ _ _ hbase
    cases rest with
    | nil => simp at hmore
    | cons t rest =>
        dsimp only at hmore
        split_ifs at hmore with ht
        rcases bind_eq_error_iff.1 hmore with hmore | ⟨_, -, hmore⟩
        · exact hused.explained (h.deeper (.of_isPower ht) hmore)
        · simp at hmore

lemma NextExplains.signed (h : NextExplains limit levels) :
    Explains limit levels (signedWith limit (nextOf limit levels)) := by
  intro depth ts r hr
  cases ts with
  | nil => exact h.power (by simp) hr
  | cons t ts =>
      rw [signedWith] at hr
      split at hr
      · next sign hsign =>
        rcases bind_eq_error_iff.1 hr with hr | ⟨_, -, hr⟩
        · exact h.deeper (.sign hsign) hr
        · simp at hr
      · next hsign => exact h.power (by simpa using hsign) hr

lemma explains_parseSigned (limit : Int) (levels : ℕ) :
    Explains limit levels (parseSigned limit levels) := by
  have hnext : NextExplains limit levels := by
    induction levels with
    | zero => rintro k ⟨⟩
    | succ levels ih =>
        rintro k ⟨⟩
        rw [parseSigned_eq]
        exact ih.signed
  rw [parseSigned_eq]
  exact hnext.signed

/-! ## Whole lists of tokens -/

/-- **A list is rejected where it halts**, unless it is longer than there are levels. -/
lemma explained_of_parse (hr : parse limit ts = .error r) :
    Explained limit limit.toNat (operand 0) ts r := by
  have hread := reads_parseSigned limit limit.toNat
  rcases bind_eq_error_iff.1 hr with hr | ⟨⟨e, rest⟩, hwhole, hend⟩
  · exact (explains_parseSigned limit limit.toNat).expression hread 0 ts r hr
  · have hstop := leaves_expression limit limit.toNat _ _ _ hwhole
    obtain ⟨used, n, rfl, hused, -⟩ := hread.expression _ _ _ hwhole
    cases rest with
    | nil => simp at hend
    | cons t rest =>
        obtain rfl : Rejection.unexpected t.text t.position = r := by simpa using hend
        have hnone := next?_operator_eq_none (hstop t rfl) (.inr rfl)
        exact hused.explained (.inl (Halts.operator hnone).haltsIn)

/-- **The expressions are the lists that lead from stage to stage** until an operator is awaited and
no parenthesis is open.  A limit that the list cannot exceed leaves the reader no other choice than
to accept it. -/
theorem exists_derives_iff_through? :
    (∃ e n, Derives .expression ts e n) ↔ (operand 0).through? ts = some (operator 0) := by
  constructor
  · rintro ⟨e, n, h⟩
    exact h.through? 0
  · intro h
    cases hparse : parse ts.length ts with
    | ok e =>
        obtain ⟨n, hderives, -⟩ := derives_of_parse hparse
        exact ⟨e, n, hderives⟩
    | error r =>
        rcases explained_of_parse hparse with hhalts | ⟨-, hlong⟩
        · exact absurd h hhalts.through?_ne
        · exact absurd hlong (Nat.lt_irrefl _)

/-! ## Known names -/

section KnownNames

open NormalForm

/-- A token stands in the wrong place, or the nesting is too deep. -/
def Misplaced (r : Rejection) : Prop := r.code = "SYNTAX_ERROR" ∨ r.code = "TOO_DEEP"

/-- Every name among the tokens is known. -/
def AllKnown (ts : List Token) : Prop := ∀ t ∈ ts, Known t

/-- A name that stands for something may stand where an operand is awaited. -/
lemma exists_leads_of_known (ht : t.kind = .name) (h : Known t) :
    ∃ s, Stage.Leads (.operand depth) t s := by
  rcases h ht with hx | ⟨c, hc⟩ | ⟨f, hf⟩
  · exact ⟨_, .var ht hx⟩
  · exact ⟨_, .constant c ht hc⟩
  · exact ⟨_, .function f ht hf⟩

/-- **A list with known names is rejected** only for the places of its tokens. -/
lemma misplaced_of_parse (hts : AllKnown ts) (h : parse limit ts = .error r) : Misplaced r := by
  rcases explained_of_parse h with ⟨before, s, rest, rfl, -, hhalts⟩ | ⟨rfl, -⟩
  · cases hhalts with
    | operand | argument | operator | atEnd => exact .inl rfl
    | unknown ht hnone =>
        obtain ⟨s, hs⟩ := exists_leads_of_known ht (hts _ (by simp))
        exact absurd hs (Stage.next?_eq_none_iff.1 hnone s)
  · exact .inr rfl

end KnownNames

end CurveSketch
