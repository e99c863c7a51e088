import CurveSketch.Proofs.Grammar
import CurveSketch.Proofs.Rejecting

/-!
# What is read is a phrase

Every reader reads phrases of its sort and no others, and none that are nested more deeply than the
levels it has left.

* `Reads` — what is said of a reader.
* `NextReads` — the same of the reader of the next level, which is the only way to go deeper.
* **`reads_parseSigned`** — it holds of signed factors with any number of levels left, and so of
  expressions by `Reads.expression`.

A reader is a few steps over tighter readers, so the lemmas go up from a group to primaries, powers
and signed factors, and then over the levels.  Rows of operands are read by a loop; its invariant
(`Reads.chainAfter`) is that what was read so far is a row.
-/

namespace CurveSketch

open Parse

/-- The reader of the next level, if there is one. -/
def nextOf (limit : Int) : ℕ → Option Reader
  | 0 => none
  | levels + 1 => some (parseSigned limit levels)

lemma parseSigned_eq (limit : Int) (levels : ℕ) :
    parseSigned limit levels = signedWith limit (nextOf limit levels) := by
  cases levels <;> rfl

/-- The reader reads only phrases of one sort, nested at most so deeply. -/
def Reads (p : Phrase) (levels : ℕ) (read : Reader) : Prop :=
  ∀ ts e rest, read ts = .ok (e, rest) →
    ∃ used n, ts = used ++ rest ∧ Derives p used e n ∧ n ≤ levels

/-- The reader of the next level, if there is one, reads signed factors one level less deep. -/
def NextReads (levels : ℕ) (next : Option Reader) : Prop :=
  ∀ signed, next = some signed → ∃ k, levels = k + 1 ∧ Reads .signed k signed

variable {limit : Int} {levels : ℕ} {next : Option Reader}

/-! ## Rows of operands -/

/-- A loop over operands reads a row of them.  The invariant is that what was read so far is a row
already. -/
lemma Reads.chainAfter {loose tight : Phrase} {opOf? : Token → Option Operator} {operand : Reader}
    (row : ∀ {ts us l r m n} (op : Operator) (t : Token), Derives loose ts l m →
      opOf? t = some op → Derives tight us r n →
      Derives loose (ts ++ t :: us) (.binary op l r) (max m n))
    (hread : Reads tight levels operand) {rounds : ℕ} {before ts rest : List Token}
    {left e : Expr} {m : ℕ} (hbefore : Derives loose before left m) (hm : m ≤ levels)
    (h : chainAfter opOf? operand rounds left ts = .ok (e, rest)) :
    ∃ used n, ts = used ++ rest ∧ Derives loose (before ++ used) e n ∧ n ≤ levels := by
  induction rounds generalizing before left m ts with
  | zero =>
      obtain ⟨rfl, rfl⟩ : left = e ∧ ts = rest := by simpa [Parse.chainAfter] using h
      exact ⟨[], m, rfl, by simpa using hbefore, hm⟩
  | succ rounds ih =>
      cases ts with
      | nil =>
          obtain ⟨rfl, rfl⟩ : left = e ∧ [] = rest := by simpa [Parse.chainAfter] using h
          exact ⟨[], m, rfl, by simpa using hbefore, hm⟩
      | cons t ts =>
          rw [Parse.chainAfter] at h
          split at h
          · obtain ⟨rfl, rfl⟩ : left = e ∧ t :: ts = rest := by simpa using h
            exact ⟨[], m, rfl, by simpa using hbefore, hm⟩
          · next op hop =>
            obtain ⟨⟨right, after⟩, hright, hmore⟩ := bind_eq_ok_iff.1 h
            obtain ⟨us, n, rfl, hus, hn⟩ := hread _ _ _ hright
            obtain ⟨used, k, rfl, hused, hk⟩ :=
              ih (row op t hbefore hop hus) (by omega) hmore
            exact ⟨t :: us ++ used, k, by simp, by simpa using hused, hk⟩

lemma Reads.chain {loose tight : Phrase} {opOf? : Token → Option Operator} {operand : Reader}
    (first : ∀ {ts e n}, Derives tight ts e n → Derives loose ts e n)
    (row : ∀ {ts us l r m n} (op : Operator) (t : Token), Derives loose ts l m →
      opOf? t = some op → Derives tight us r n →
      Derives loose (ts ++ t :: us) (.binary op l r) (max m n))
    (hread : Reads tight levels operand) : Reads loose levels (chain opOf? operand) := by
  intro ts e rest h
  obtain ⟨⟨left, after⟩, hleft, hmore⟩ := bind_eq_ok_iff.1 h
  obtain ⟨before, m, rfl, hbefore, hm⟩ := hread _ _ _ hleft
  obtain ⟨used, n, rfl, hused, hn⟩ := hread.chainAfter row (first hbefore) hm hmore
  exact ⟨before ++ used, n, by simp, hused, hn⟩

lemma Reads.term {signed : Reader} (h : Reads .signed levels signed) :
    Reads .term levels (Parse.chain multiplicative? signed) :=
  h.chain .ofSigned fun op t hl hop hr =>
    .product op t hl (multiplicative?_eq_some_iff.1 hop).1 (multiplicative?_eq_some_iff.1 hop).2 hr

lemma Reads.expression {signed : Reader} (h : Reads .signed levels signed) :
    Reads .expression levels (Parse.expression signed) :=
  h.term.chain .ofTerm fun op t hl hop hr =>
    .sum op t hl (additive?_eq_some_iff.1 hop).1 (additive?_eq_some_iff.1 hop).2 hr

/-! ## From groups to signed factors -/

/-- A signed factor on the next level. -/
lemma NextReads.deeper (hnext : NextReads levels next) {ts rest : List Token} {e : Expr}
    (h : deeper limit next ts = .ok (e, rest)) :
    ∃ used n, ts = used ++ rest ∧ Derives .signed used e n ∧ n + 1 ≤ levels := by
  cases next with
  | none => simp [Parse.deeper] at h
  | some signed =>
      obtain ⟨k, rfl, hread⟩ := hnext signed rfl
      obtain ⟨used, n, rfl, hused, hn⟩ := hread _ _ _ h
      exact ⟨used, n, rfl, hused, by omega⟩

/-- An expression on the next level and its closing parenthesis. -/
lemma NextReads.group (hnext : NextReads levels next) {ts rest : List Token} {e : Expr}
    (h : group limit next ts = .ok (e, rest)) :
    ∃ used c n, ts = used ++ c :: rest ∧ Derives .expression used e n ∧ c.kind = .closing ∧
      n + 1 ≤ levels := by
  obtain ⟨⟨inner, after⟩, hinner, hclose⟩ := bind_eq_ok_iff.1 h
  cases next with
  | none => simp [Parse.deeper] at hinner
  | some signed =>
      obtain ⟨k, rfl, hread⟩ := hnext signed rfl
      obtain ⟨used, n, rfl, hused, hn⟩ := hread.expression _ _ _ hinner
      cases after with
      | nil => simp at hclose
      | cons c after =>
          by_cases hc : c.kind = .closing
          · obtain ⟨rfl, rfl⟩ : inner = e ∧ after = rest := by simpa [hc] using hclose
            exact ⟨used, c, n, rfl, hused, hc, by omega⟩
          · simp [hc] at hclose

lemma NextReads.named (hnext : NextReads levels next) {t : Token} (ht : t.kind = .name)
    {ts rest : List Token} {e : Expr} (h : named limit next t ts = .ok (e, rest)) :
    ∃ used n, t :: ts = used ++ rest ∧ Derives .primary used e n ∧ n ≤ levels := by
  unfold Parse.named at h
  split_ifs at h with hx
  · obtain ⟨rfl, rfl⟩ : Expr.var = e ∧ ts = rest := by simpa using h
    exact ⟨[t], 0, rfl, .var t ht hx, Nat.zero_le _⟩
  split at h
  · next c hc =>
    obtain ⟨rfl, rfl⟩ : Expr.number (constantValue c) = e ∧ ts = rest := by simpa using h
    exact ⟨[t], 0, rfl, .constant c t ht (Constant.ofName?_eq_some_iff.1 hc), Nat.zero_le _⟩
  · next f _ hf =>
    split at h
    · next o ts =>
      split_ifs at h with ho
      obtain ⟨⟨inner, after⟩, hinner, hcall⟩ := bind_eq_ok_iff.1 h
      obtain ⟨rfl, rfl⟩ : Expr.call f inner = e ∧ after = rest := by simpa using hcall
      obtain ⟨used, c, n, rfl, hused, hc, hn⟩ := hnext.group hinner
      exact ⟨t :: o :: (used ++ [c]), n + 1, by simp,
        .call f t o c ht (Fn.ofName?_eq_some_iff.1 hf) ho hused hc, hn⟩
    · simp at h
  · simp at h

lemma NextReads.primary (hnext : NextReads levels next) :
    Reads .primary levels (primary limit next) := by
  intro ts e rest h
  cases ts with
  | nil => simp [Parse.primary] at h
  | cons t ts =>
      rw [Parse.primary] at h
      split at h
      · next ht =>
        obtain ⟨rfl, rfl⟩ : Expr.number (numeral t.text) = e ∧ ts = rest := by simpa using h
        exact ⟨[t], 0, rfl, .number t ht, Nat.zero_le _⟩
      · next ht =>
        obtain ⟨used, c, n, rfl, hused, hc, hn⟩ := hnext.group h
        exact ⟨t :: (used ++ [c]), n + 1, by simp, .group t c ht hused hc, hn⟩
      · next ht => exact hnext.named ht h
      · simp at h

lemma NextReads.power (hnext : NextReads levels next) :
    Reads .power levels (power limit next) := by
  intro ts e rest h
  obtain ⟨⟨base, after⟩, hbase, hmore⟩ := bind_eq_ok_iff.1 h
  obtain ⟨us, m, rfl, hus, hm⟩ := hnext.primary _ _ _ hbase
  cases after with
  | nil =>
      obtain ⟨rfl, rfl⟩ : base = e ∧ [] = rest := by simpa using hmore
      exact ⟨us, m, rfl, .ofPrimary hus, hm⟩
  | cons t after =>
      dsimp only at hmore
      split_ifs at hmore with ht
      · obtain ⟨⟨exponent, final⟩, hexp, hpow⟩ := bind_eq_ok_iff.1 hmore
        obtain ⟨rfl, rfl⟩ : Expr.binary .pow base exponent = e ∧ final = rest := by simpa using hpow
        obtain ⟨vs, n, rfl, hvs, hn⟩ := hnext.deeper hexp
        exact ⟨us ++ t :: vs, max m (n + 1), by simp, .raise t hus (isPower_iff.1 ht) hvs, by omega⟩
      · obtain ⟨rfl, rfl⟩ : base = e ∧ t :: after = rest := by simpa using hmore
        exact ⟨us, m, rfl, .ofPrimary hus, hm⟩

lemma NextReads.signed (hnext : NextReads levels next) :
    Reads .signed levels (signedWith limit next) := by
  intro ts e rest h
  cases ts with
  | nil =>
      obtain ⟨used, n, hts, hused, hn⟩ := hnext.power _ _ _ h
      exact ⟨used, n, hts, .ofPower hused, hn⟩
  | cons t ts =>
      rw [signedWith] at h
      split at h
      · next s hs =>
        obtain ⟨⟨inner, after⟩, hinner, hsign⟩ := bind_eq_ok_iff.1 h
        obtain ⟨rfl, rfl⟩ : Expr.signed s inner = e ∧ after = rest := by simpa using hsign
        obtain ⟨used, n, rfl, hused, hn⟩ := hnext.deeper hinner
        exact ⟨t :: used, n + 1, rfl, .sign s t (signOf?_eq_some_iff.1 hs) hused, hn⟩
      · obtain ⟨used, n, hts, hused, hn⟩ := hnext.power _ _ _ h
        exact ⟨used, n, hts, .ofPower hused, hn⟩

/-- The next level of a reader with some levels left.  By induction on the levels: a reader enters
the next one only through `nextOf`. -/
lemma nextReads_nextOf (limit : Int) (levels : ℕ) : NextReads levels (nextOf limit levels) := by
  induction levels with
  | zero => rintro _ ⟨⟩
  | succ levels ih =>
      rintro _ ⟨⟩
      refine ⟨levels, rfl, ?_⟩
      rw [parseSigned_eq]
      exact ih.signed

/-- **What is read with some levels left is a phrase nested at most so deeply.** -/
lemma reads_parseSigned (limit : Int) (levels : ℕ) :
    Reads .signed levels (parseSigned limit levels) := by
  rw [parseSigned_eq]
  exact (nextReads_nextOf limit levels).signed

end CurveSketch
