import CurveSketch.Proofs.NormalForm.Names
import CurveSketch.Proofs.NormalForm.Parentheses

/-!
# Reciprocal functions written out

The pass that writes out calls of reciprocal functions asks at every name whether the parenthesis
behind it is in a pair.  Where the parentheses are balanced all of them are, so there the pass can be
told without places and pairs.

* `writtenOut` — the pass told that way, and **`expandReciprocals_eq_writtenOut`**.
* `AllClosed` — every open parenthesis that closes a reciprocal is itself closed later; the pass keeps to
  this, as it writes out closed calls only.
* **`checkFrom_expandReciprocals`** — so the check of parentheses ends as it does without the pass.
* `standard_writtenOut` — the tokens it leaves are those of a normal form.
* `length_le_writtenOut` — and none is lost.
-/

namespace CurveSketch.NormalForm

open Token

/-- The function whose reciprocal a token calls, if a parenthesis opens behind it. -/
def called? (t : Token) (rest : List Token) : Option Fn :=
  if rest.head?.any (·.kind == .opening) then reciprocalBase? t else none

/-- What is open behind a token; `heads` says whether it stands behind the name of a reciprocal
function that is written out. -/
def openAfter (heads : Bool) (t : Token) (opened : List Bool) : List Bool :=
  match t.kind, opened with
  | .opening, opened => heads :: opened
  | .closing, _ :: outer => outer
  | _, opened => opened

/-- The tokens with the calls of reciprocal functions written out, whichever parentheses pair. -/
def writtenOut (heads : Bool) (opened : List Bool) : List Token → List Token
  | [] => []
  | t :: rest =>
    match called? t rest with
    | some base => reciprocalHead base t.position ++ writtenOut true opened rest
    | none =>
      expandFrom.closeReciprocal t opened ++ writtenOut false (openAfter heads t opened) rest

/-! ## Which tokens call -/

lemma called?_cons {t next : Token} {rest : List Token} :
    called? t (next :: rest) = if next.kind = .opening then reciprocalBase? t else none := by
  simp [called?]

lemma called?_eq_some_iff {t : Token} {rest : List Token} {base : Fn} :
    called? t rest = some base ↔
      reciprocalBase? t = some base ∧ ∃ next tail, rest = next :: tail ∧ next.kind = .opening := by
  cases rest with
  | nil => simp [called?]
  | cons next tail =>
      rw [called?_cons]
      split_ifs with hopen <;> simp [hopen]

lemma kind_of_reciprocalBase? {t : Token} {base : Fn} (h : reciprocalBase? t = some base) :
    t.kind = .func := by
  by_contra hkind
  simp [reciprocalBase?, hkind] at h

lemma reciprocalBase?_of_kind_ne {t : Token} (h : t.kind ≠ .func) : reciprocalBase? t = none :=
  if_neg h

lemma called?_of_kind_ne {t : Token} (h : t.kind ≠ .func) (rest : List Token) :
    called? t rest = none := by
  simp [called?, reciprocalBase?_of_kind_ne h]

/-- What is written for a reciprocal function is none itself. -/
lemma reciprocalOf?_base {f base : Fn} (h : f.reciprocalOf? = some base) :
    base.reciprocalOf? = none := by
  cases f <;> simp only [Fn.reciprocalOf?, reduceCtorEq, Option.some.injEq] at h <;> subst h <;> rfl

lemma reciprocalOf?_of_reciprocalBase? {t : Token} {base : Fn} (h : reciprocalBase? t = some base) :
    base.reciprocalOf? = none := by
  rw [reciprocalBase?, if_pos (kind_of_reciprocalBase? h)] at h
  obtain ⟨f, -, hf⟩ := Option.bind_eq_some_iff.1 h
  exact reciprocalOf?_base hf

lemma reciprocalBase?_function (f : Fn) (p : ℕ) :
    reciprocalBase? ⟨.func, f.name, p⟩ = f.reciprocalOf? := by
  simp [reciprocalBase?, Fn.ofName?_name]

/-! ## Places and pairs -/

lemma writtenOut_called {heads : Bool} {opened : List Bool} {t : Token} {rest : List Token}
    {base : Fn} (h : called? t rest = some base) :
    writtenOut heads opened (t :: rest) =
      reciprocalHead base t.position ++ writtenOut true opened rest := by
  rw [writtenOut, h]

lemma writtenOut_not_called {heads : Bool} {opened : List Bool} {t : Token} {rest : List Token}
    (h : called? t rest = none) :
    writtenOut heads opened (t :: rest) =
      expandFrom.closeReciprocal t opened ++ writtenOut false (openAfter heads t opened) rest := by
  rw [writtenOut, h]

/-- A parenthesis that opens is written as it stands. -/
lemma writtenOut_opening {heads : Bool} {opened : List Bool} {t : Token} {rest : List Token}
    (ht : t.kind = .opening) :
    writtenOut heads opened (t :: rest) = t :: writtenOut false (heads :: opened) rest := by
  rw [writtenOut_not_called (called?_of_kind_ne (by simp [ht]) rest), expandFrom.closeReciprocal,
    openAfter]
  · rfl
  all_goals simp [ht]

/-- The pass is told without places where exactly the parentheses that open begin pairs. -/
lemma expandFrom_eq_writtenOut {pairs : List (ℕ × ℕ)} {index : ℕ} {opened : List Bool}
    {ts : List Token} (hpairs : ∀ j, index ≤ j → (opensPair pairs j = true ↔ OpensAt j index ts)) :
    expandFrom pairs index opened ts = writtenOut false opened ts := by
  have hnext : ∀ {index t next rest},
      (∀ j, index ≤ j → (opensPair pairs j = true ↔ OpensAt j index (t :: next :: rest))) →
      (opensPair pairs (index + 1) = true ↔ next.kind = .opening) := by
    intro index t next rest hpairs
    rw [hpairs (index + 1) (Nat.le_succ _), opensAt_cons_of_lt (Nat.lt_succ_self _),
      opensAt_cons_self]
  have htail : ∀ {index t rest},
      (∀ j, index ≤ j → (opensPair pairs j = true ↔ OpensAt j index (t :: rest))) →
      ∀ j, index + 1 ≤ j → (opensPair pairs j = true ↔ OpensAt j (index + 1) rest) := by
    intro index t rest hpairs j hj
    rw [hpairs j (Nat.le_of_succ_le hj), opensAt_cons_of_lt hj]
  fun_induction expandFrom pairs index opened ts with
  | case1 => rfl
  | case2 index opened t => simp [writtenOut, called?]
  | case3 index opened t next rest base hpair hbase ih =>
      have hopen := (hnext hpairs).1 hpair
      have hcalled : called? t (next :: rest) = some base :=
        called?_eq_some_iff.2 ⟨hbase, next, rest, rfl, hopen⟩
      rw [writtenOut_called hcalled, writtenOut_opening hopen, ih (htail (htail hpairs))]
  | case4 index opened t next rest hnot ih =>
      have hcalled : called? t (next :: rest) = none := by
        rw [called?_cons]
        split_ifs with hopen
        · by_contra hbase
          obtain ⟨base, hbase⟩ := Option.ne_none_iff_exists'.1 hbase
          exact hnot base hbase ((hnext hpairs).2 hopen)
        · rfl
      rw [writtenOut_not_called hcalled, ih (htail hpairs)]
      rfl

/-- **Where parentheses are balanced** the pass needs no pairs. -/
lemma expandReciprocals_eq_writtenOut {ts : List Token} (h : Balanced 0 ts) :
    expandReciprocals ts = writtenOut false [] ts := by
  refine expandFrom_eq_writtenOut fun j _ => ⟨fun hj => ?_, fun hj => ?_⟩
  · exact (opensAt_of_opensPair hj).resolve_left (by simp)
  · exact opensPair_of_balanced h (Or.inr hj)

/-! ## Balance -/

/-- How many parentheses are to be closed where some of the open ones close a reciprocal too. -/
def closers (opened : List Bool) : ℕ := opened.length + opened.count true

@[simp] lemma closers_cons (b : Bool) (opened : List Bool) :
    closers (b :: opened) = closers opened + if b then 2 else 1 := by
  cases b <;> simp [closers] <;> omega

/-- Every open parenthesis that closes a reciprocal is closed in the tokens to come. -/
def AllClosed (opened : List Bool) (ts : List Token) : Prop :=
  ∀ k, opened[k]? = some true → ¬ NeverBelow k ts

lemma allClosed_nil (ts : List Token) : AllClosed [] ts := by simp [AllClosed]

/-- At the end no open parenthesis closes a reciprocal. -/
lemma AllClosed.closers_eq {opened : List Bool} (h : AllClosed opened []) :
    closers opened = opened.length := by
  have hnone : true ∉ opened := fun hmem => by
    obtain ⟨k, hk⟩ := List.mem_iff_getElem?.1 hmem
    exact h k hk (neverBelow_nil k)
  rw [closers, List.count_eq_zero_of_not_mem hnone, Nat.add_zero]

/-- A token that is left as it stands keeps to it. -/
lemma AllClosed.stillOpen {opened : List Bool} {t : Token} {ts : List Token}
    (h : AllClosed opened (t :: ts)) : AllClosed (expandFrom.stillOpen t opened) ts := by
  obtain ⟨k, text, p⟩ := t
  cases k with
  | opening =>
      intro j hj
      cases j with
      | zero => simp [expandFrom.stillOpen] at hj
      | succ j => exact mt (neverBelow_opening rfl).2 (h j hj)
  | closing =>
      cases opened with
      | nil => exact allClosed_nil ts
      | cons b outer => exact fun j hj => mt (neverBelow_closing rfl).2 (h (j + 1) hj)
  | _ => exact fun j hj => mt (neverBelow_other rfl).2 (h j hj)

/-- A call that is written out keeps to it if it is closed. -/
lemma AllClosed.call {opened : List Bool} {t next : Token} {ts : List Token}
    (h : AllClosed opened (t :: next :: ts)) (ht : side? t.kind = none) (hnext : next.kind = .opening)
    (hclosed : ¬ NeverBelow 0 ts) : AllClosed (true :: opened) ts := by
  intro k hk
  cases k with
  | zero => exact hclosed
  | succ k =>
      refine mt (fun hnever => ?_) (h k hk)
      exact (neverBelow_other ht).2 ((neverBelow_opening hnext).2 hnever)

/-- A token that is left as it stands, with the parenthesis of a reciprocal that it may close. -/
lemma checkFrom_closeReciprocal {t : Token} {opened : List Bool} {us ts : List Token}
    (h : checkFrom (closers (expandFrom.stillOpen t opened)) us =
      checkFrom (expandFrom.stillOpen t opened).length ts) :
    checkFrom (closers opened) (expandFrom.closeReciprocal t opened ++ us) =
      checkFrom opened.length (t :: ts) := by
  obtain ⟨k, text, p⟩ := t
  cases k with
  | opening =>
      refine (checkFrom_opening rfl).trans (Eq.trans ?_ (checkFrom_opening rfl).symm)
      simpa [expandFrom.stillOpen] using h
  | closing =>
      cases opened with
      | nil => exact (checkFrom_stray rfl).trans (checkFrom_stray rfl).symm
      | cons b outer =>
          refine Eq.trans ?_ (h.trans (checkFrom_closing rfl).symm)
          cases b <;> simp [expandFrom.closeReciprocal, expandFrom.stillOpen, checkFrom_closing]
  | _ => exact (checkFrom_other rfl).trans (h.trans (checkFrom_other rfl).symm)

/-- What is written for a reciprocal function opens one parenthesis. -/
lemma checkFrom_reciprocalHead {base : Fn} {p depth : ℕ} {ts : List Token} :
    checkFrom depth (reciprocalHead base p ++ ts) = checkFrom (depth + 1) ts := by
  simp only [reciprocalHead, List.cons_append, List.nil_append]
  rw [checkFrom_opening rfl, checkFrom_other rfl, checkFrom_other rfl, checkFrom_other rfl]

/-- The check of what the pass leaves, behind open parentheses some of which close a reciprocal too. -/
lemma checkFrom_expandFrom {pairs : List (ℕ × ℕ)} {index : ℕ} {opened : List Bool}
    {ts : List Token} (hpairs : ∀ j, index ≤ j → opensPair pairs j = true → PairAt j index ts)
    (hopened : AllClosed opened ts) :
    checkFrom (closers opened) (expandFrom pairs index opened ts) =
      checkFrom opened.length ts := by
  have htail : ∀ {index t rest},
      (∀ j, index ≤ j → opensPair pairs j = true → PairAt j index (t :: rest)) →
      ∀ j, index + 1 ≤ j → opensPair pairs j = true → PairAt j (index + 1) rest :=
    fun hpairs j hj hpair =>
      (hpairs j (Nat.le_of_succ_le hj) hpair).resolve_left fun h => by omega
  fun_induction expandFrom pairs index opened ts with
  | case1 index opened => rw [hopened.closers_eq]
  | case2 index opened t =>
      rw [← List.append_nil (expandFrom.closeReciprocal t opened)]
      refine checkFrom_closeReciprocal ?_
      rw [hopened.stillOpen.closers_eq]
  | case3 index opened t next rest base hpair hbase ih =>
      have hother : side? t.kind = none := by rw [kind_of_reciprocalBase? hbase]; rfl
      obtain ⟨-, hopen, hclosed⟩ | hlater := (htail hpairs) (index + 1) (Nat.le_refl _) hpair
      · rw [checkFrom_reciprocalHead, checkFrom_opening hopen, checkFrom_other hother,
          checkFrom_opening hopen]
        simpa using ih (htail (htail hpairs)) (hopened.call hother hopen hclosed)
      · exact absurd hlater.opensAt.le (by omega)
  | case4 index opened t next rest hnot ih =>
      exact checkFrom_closeReciprocal (ih (htail hpairs) hopened.stillOpen)

/-- **The check of parentheses ends as it does without the pass**, whether they are balanced or
not. -/
lemma checkFrom_expandReciprocals (ts : List Token) :
    checkFrom 0 (expandReciprocals ts) = checkFrom 0 ts :=
  @checkFrom_expandFrom (matching ts) 0 [] ts
    (fun _ _ hj => (pairAt_of_opensPair hj).resolve_left (by simp)) (allClosed_nil ts)

/-! ## The tokens that are left -/

lemma mem_closeReciprocal {t u : Token} {opened : List Bool}
    (h : u ∈ expandFrom.closeReciprocal t opened) :
    u = t ∨ u = ⟨.closing, [')'], t.position⟩ := by
  unfold expandFrom.closeReciprocal at h
  split at h
  · simpa using h
  · exact Or.inl (List.mem_singleton.1 h)

lemma standard_reciprocalHead {base : Fn} {p : ℕ} :
    ∀ u ∈ reciprocalHead base p, Standard u.kind u.text := by
  have hone : Lexeme .number ['1'] := .whole (by decide) (List.all_eq_true.1 (by decide))
  simp only [reciprocalHead, List.forall_mem_cons]
  exact ⟨.opening, .number hone, .operator .div, .func base, by simp⟩

/-- The tokens that are left are those of a normal form. -/
lemma standard_writtenOut {heads : Bool} {opened : List Bool} {ts : List Token}
    (h : ∀ t ∈ ts, Standard t.kind t.text) :
    ∀ u ∈ writtenOut heads opened ts, Standard u.kind u.text := by
  fun_induction writtenOut heads opened ts with
  | case1 => simp
  | case2 heads opened t rest base _ ih =>
      intro u hu
      rcases List.mem_append.1 hu with hu | hu
      · exact standard_reciprocalHead u hu
      · exact ih (fun v hv => h v (List.mem_cons_of_mem t hv)) u hu
  | case3 heads opened t rest _ ih =>
      intro u hu
      rcases List.mem_append.1 hu with hu | hu
      · rcases mem_closeReciprocal hu with rfl | rfl
        · exact h u List.mem_cons_self
        · exact .closing
      · exact ih (fun v hv => h v (List.mem_cons_of_mem t hv)) u hu

lemma one_le_closeReciprocal (t : Token) (opened : List Bool) :
    1 ≤ (expandFrom.closeReciprocal t opened).length := by
  unfold expandFrom.closeReciprocal
  split <;> simp

/-- No token is lost. -/
lemma length_le_writtenOut (heads : Bool) (opened : List Bool) (ts : List Token) :
    ts.length ≤ (writtenOut heads opened ts).length := by
  fun_induction writtenOut heads opened ts with
  | case1 => exact Nat.le_refl _
  | case2 heads opened t rest base _ ih =>
      simp only [reciprocalHead, List.length_append, List.length_cons, List.length_nil]
      omega
  | case3 heads opened t rest _ ih =>
      have hone := one_le_closeReciprocal t opened
      simp only [List.length_append, List.length_cons]
      omega

end CurveSketch.NormalForm
