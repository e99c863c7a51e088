import CurveSketch.Proofs.NormalForm.Imbalance

/-!
# Pairs of parentheses

Pairs are found from left to right with a stack of what is open.  Where parentheses are not
balanced, one that closes while nothing is open is passed over, and one that is never closed stays
on the stack.  This file says what is found without the stack.

* `Paired` — two parentheses belong to each other: what stands between them is balanced.
* `ClosesAt` — the place at which a parenthesis is closed in which some others are open.  There is
  one such place at most (`ClosesAt.unique`), and there is one exactly if some front closes more
  parentheses than are open (`exists_closesAt_iff`).
* `Completes` — a pair is completed at a place, be it one that is on the stack already.  Which one
  on the stack it is follows from the tokens to come, so nothing has to be known of how the stack
  came about.
* **`mem_matchingFrom_iff`** — the stack finds exactly the pairs that are completed.
* `NeverAbove` — no end of the tokens opens more parentheses than it closes.
  **`not_neverAbove_iff`** — otherwise some parenthesis opens and is still open at the end, with
  everything behind it balanced.
* **`matching_spec`** — so exactly the parentheses that belong to each other are paired, in any
  tokens, and in no pair are those that close with none open and those that are never closed.
-/

namespace CurveSketch.NormalForm

open Token

variable {ts : List Token} {t : Token} {i j k m n : ℕ}

/-- A token of the kind stands at the place. -/
def KindAt (ts : List Token) (n : ℕ) (k : Kind) : Prop := (ts[n]?).map Token.kind = some k

/-- The tokens that stand between two places. -/
def between (ts : List Token) (i j : ℕ) : List Token := (ts.drop (i + 1)).take (j - (i + 1))

/-- Two parentheses belong to each other: one opens and one behind it closes, and between them as
many close as open, and none closes too early. -/
structure Paired (ts : List Token) (i j : ℕ) : Prop where
  lt : i < j
  opens : KindAt ts i .opening
  closes : KindAt ts j .closing
  neverBelow : NeverBelow 0 (between ts i j)
  even : (between ts i j).countP (·.kind = .closing) = (between ts i j).countP (·.kind = .opening)

@[simp] lemma not_kindAt_nil {k : Kind} : ¬ KindAt [] n k := by simp [KindAt]

@[simp] lemma kindAt_cons_zero {k : Kind} : KindAt (t :: ts) 0 k ↔ t.kind = k := by simp [KindAt]

@[simp] lemma kindAt_cons_succ {k : Kind} : KindAt (t :: ts) (n + 1) k ↔ KindAt ts n k := by
  simp [KindAt]

lemma KindAt.unique {k k' : Kind} (h : KindAt ts n k) (h' : KindAt ts n k') : k = k' :=
  Option.some.inj (h.symm.trans h')

/-! ## Where a parenthesis is closed -/

/-- The parenthesis in which `k` others are open is closed at the place. -/
def ClosesAt (k n : ℕ) (ts : List Token) : Prop := Balanced k (ts.take n) ∧ KindAt ts n .closing

lemma not_closesAt_nil : ¬ ClosesAt k n [] := fun h => not_kindAt_nil h.2

/-- It is closed at the first token exactly if that closes one more than the `k` others. -/
lemma closesAt_cons_zero : ClosesAt k 0 (t :: ts) ↔ depthAfter (side? t.kind) k = none := by
  simp [ClosesAt, depthAfter_eq_none_iff, and_comm]

lemma closesAt_cons_succ : ClosesAt k (n + 1) (t :: ts) ↔
    ∃ d, depthAfter (side? t.kind) k = some d ∧ ClosesAt d n ts := by
  simp only [ClosesAt, List.take_succ_cons, balanced_cons, kindAt_cons_succ]
  constructor
  · rintro ⟨⟨d, hd, hbal⟩, hn⟩
    exact ⟨d, hd, hbal, hn⟩
  · rintro ⟨d, hd, hbal, hn⟩
    exact ⟨⟨d, hd, hbal⟩, hn⟩

/-- A parenthesis is closed at one place at most. -/
lemma ClosesAt.unique (h : ClosesAt k m ts) (h' : ClosesAt k n ts) : m = n := by
  induction ts generalizing k m n with
  | nil => exact absurd h not_closesAt_nil
  | cons t ts ih =>
      cases hd : depthAfter (side? t.kind) k with
      | none =>
          have hfirst : ∀ {n}, ClosesAt k n (t :: ts) → n = 0 := fun {n} h => by
            cases n with
            | zero => rfl
            | succ n => simp [closesAt_cons_succ, hd] at h
          rw [hfirst h, hfirst h']
      | some d =>
          have hlater : ∀ {n}, ClosesAt k n (t :: ts) → ∃ l, n = l + 1 ∧ ClosesAt d l ts :=
            fun {n} h => by
              cases n with
              | zero => simp [closesAt_cons_zero, hd] at h
              | succ n => exact ⟨n, rfl, by simpa [closesAt_cons_succ, hd] using h⟩
          obtain ⟨l, rfl, htail⟩ := hlater h
          obtain ⟨l', rfl, htail'⟩ := hlater h'
          rw [ih htail htail']

/-- A parenthesis is closed if some front of the tokens closes more than are open. -/
lemma exists_closesAt_iff : (∃ n, ClosesAt k n ts) ↔ ¬ NeverBelow k ts := by
  induction ts generalizing k with
  | nil => simp [not_closesAt_nil, neverBelow_nil]
  | cons t ts ih =>
      rw [← Nat.or_exists_add_one, neverBelow_cons]
      simp only [closesAt_cons_zero, closesAt_cons_succ]
      cases depthAfter (side? t.kind) k with
      | none => simp
      | some d => simp [ih]

/-! ## Pairs -/

lemma balanced_iff {us : List Token} : Balanced 0 us ↔
    NeverBelow 0 us ∧ us.countP (·.kind = .closing) = us.countP (·.kind = .opening) := by
  rw [Balanced, checkFrom_eq_ok_iff, Nat.zero_add]

/-- A parenthesis is paired with the one that closes it. -/
lemma paired_iff : Paired ts i j ↔
    KindAt ts i .opening ∧ ∃ n, j = i + 1 + n ∧ ClosesAt 0 n (ts.drop (i + 1)) := by
  have hat : ∀ n, KindAt (ts.drop (i + 1)) n .closing ↔ KindAt ts (i + 1 + n) .closing := by
    simp [KindAt, List.getElem?_drop]
  constructor
  · rintro ⟨hlt, ho, hc, hnever, heven⟩
    obtain ⟨n, rfl⟩ := Nat.exists_eq_add_of_le (Nat.succ_le_of_lt hlt)
    rw [between, Nat.add_sub_cancel_left] at hnever heven
    exact ⟨ho, n, rfl, balanced_iff.2 ⟨hnever, heven⟩, (hat n).2 hc⟩
  · rintro ⟨ho, n, rfl, hbal, hc⟩
    obtain ⟨hnever, heven⟩ := balanced_iff.1 hbal
    refine ⟨by omega, ho, (hat n).1 hc, ?_, ?_⟩ <;> rwa [between, Nat.add_sub_cancel_left]

lemma Paired.unique (h : Paired ts i j) {j' : ℕ} (h' : Paired ts i j') : j = j' := by
  obtain ⟨-, n, rfl, hn⟩ := paired_iff.1 h
  obtain ⟨-, n', rfl, hn'⟩ := paired_iff.1 h'
  rw [hn.unique hn']

lemma not_paired_zero : ¬ Paired ts i 0 := fun h => Nat.not_lt_zero i h.lt

lemma paired_cons_zero : Paired (t :: ts) 0 (n + 1) ↔ t.kind = .opening ∧ ClosesAt 0 n ts := by
  rw [paired_iff]
  simp [Nat.add_comm 1]

lemma paired_cons_succ : Paired (t :: ts) (m + 1) (n + 1) ↔ Paired ts m n := by
  rw [paired_iff, paired_iff]
  simp [Nat.add_right_comm _ 1]

/-- The pairs of tokens that are counted from `index` on: one may begin at the first. -/
lemma exists_paired_cons {index : ℕ} : (∃ m, i = index + m ∧ Paired (t :: ts) m (n + 1)) ↔
    (i = index ∧ t.kind = .opening ∧ ClosesAt 0 n ts) ∨
      ∃ m, i = index + 1 + m ∧ Paired ts m n := by
  rw [← Nat.or_exists_add_one]
  simp only [paired_cons_zero, paired_cons_succ, Nat.add_zero, Nat.add_right_comm index 1,
    Nat.add_assoc]

/-! ## What the stack finds -/

/-- A pair is completed at the place `n` of tokens that are counted from `index` on: its first
parenthesis is open already, with `k` others in it, or is one of the tokens. -/
def Completes (i n index : ℕ) (opened : List ℕ) (ts : List Token) : Prop :=
  (∃ k, opened[k]? = some i ∧ ClosesAt k n ts) ∨ ∃ m, i = index + m ∧ Paired ts m n

variable {index start : ℕ} {opened outer : List ℕ}

lemma not_completes_nil : ¬ Completes i n index opened [] := by
  rintro (⟨k, -, h⟩ | ⟨m, -, h⟩)
  · exact not_closesAt_nil h
  · exact not_kindAt_nil h.closes

/-- At the first place the innermost open parenthesis may be closed. -/
lemma completes_zero :
    Completes i 0 index opened (t :: ts) ↔ t.kind = .closing ∧ opened[0]? = some i := by
  simp only [Completes, closesAt_cons_zero, depthAfter_eq_none_iff, not_paired_zero, and_false,
    exists_false, or_false]
  constructor
  · rintro ⟨k, hi, ht, rfl⟩
    exact ⟨ht, hi⟩
  · rintro ⟨ht, hi⟩
    exact ⟨0, hi, ht, rfl⟩

/-- A parenthesis that opens is the innermost one from then on. -/
lemma completes_opening (ht : t.kind = .opening) :
    Completes i (n + 1) index opened (t :: ts) ↔
      Completes i n (index + 1) (index :: opened) ts := by
  have hfirst : (∃ k, (index :: opened)[k]? = some i ∧ ClosesAt k n ts) ↔
      (i = index ∧ ClosesAt 0 n ts) ∨ ∃ k, opened[k]? = some i ∧ ClosesAt (k + 1) n ts := by
    rw [← Nat.or_exists_add_one]
    simp [eq_comm]
  rw [Completes, Completes, hfirst, exists_paired_cons]
  simp only [closesAt_cons_succ, ht, side?, depthAfter, Option.some.injEq, exists_eq_left',
    true_and]
  exact or_left_comm.trans or_assoc.symm

/-- Behind one that closes, the innermost is the next one. -/
lemma completes_closing (ht : t.kind = .closing) :
    Completes i (n + 1) index (start :: outer) (t :: ts) ↔
      Completes i n (index + 1) outer ts := by
  rw [Completes, Completes, ← Nat.or_exists_add_one, exists_paired_cons]
  simp [closesAt_cons_succ, ht, side?, depthAfter]

/-- Behind any other token, and behind one that closes with none open, there is no change. -/
lemma completes_other (ho : t.kind ≠ .opening) (hc : t.kind = .closing → opened = []) :
    Completes i (n + 1) index opened (t :: ts) ↔ Completes i n (index + 1) opened ts := by
  rw [Completes, Completes, exists_paired_cons]
  by_cases ht : t.kind = .closing
  · simp [hc ht, ho]
  · simp [closesAt_cons_succ, ho, side?_eq_none ho ht, depthAfter]

lemma le_of_mem_matchingFrom (h : (i, j) ∈ matchingFrom index opened ts) : index ≤ j := by
  fun_induction matchingFrom index opened ts with
  | case1 => cases h
  | case2 _ _ _ _ _ ih | case4 _ _ _ _ _ _ ih => exact Nat.le_of_succ_le (ih h)
  | case3 index t rest start outer ht ih =>
      rcases List.mem_cons.1 h with h | h
      · exact Nat.le_of_eq (Prod.mk.inj h).2.symm
      · exact Nat.le_of_succ_le (ih h)

/-- **The stack finds exactly the pairs that are completed.** -/
lemma mem_matchingFrom_iff :
    (i, index + n) ∈ matchingFrom index opened ts ↔ Completes i n index opened ts := by
  -- each token moves the place one nearer and changes what is open, as the `completes` lemmas say
  have hnext : ∀ index n, index + (n + 1) = index + 1 + n := fun index n => by omega
  have hpast : ∀ {index opened ts}, (i, index) ∉ matchingFrom (index + 1) opened ts :=
    fun h => Nat.not_succ_le_self _ (le_of_mem_matchingFrom h)
  fun_induction matchingFrom index opened ts generalizing n with
  | case1 => exact iff_of_false List.not_mem_nil not_completes_nil
  | case2 index opened t rest ht ih =>
      cases n with
      | zero => exact iff_of_false hpast fun h => by simp [completes_zero, ht] at h
      | succ n =>
          rw [hnext index n]
          exact ih.trans (completes_opening ht).symm
  | case3 index t rest start outer ht ih =>
      cases n with
      | zero => simp [completes_zero, ht, hpast, eq_comm]
      | succ n =>
          have hlater : (i, index + (n + 1)) ≠ (start, index) := by simp
          rw [List.mem_cons, or_iff_right hlater, hnext index n]
          exact ih.trans (completes_closing ht).symm
  | case4 index opened t rest ho hc ih =>
      have hnone : t.kind = .closing → opened = [] := fun ht => by
        cases opened with
        | nil => rfl
        | cons start outer => exact (hc start outer ht rfl).elim
      cases n with
      | zero =>
          refine iff_of_false hpast fun h => ?_
          obtain ⟨ht, hi⟩ := completes_zero.1 h
          simp [hnone ht] at hi
      | succ n =>
          rw [hnext index n]
          exact ih.trans (completes_other ho hnone).symm

lemma mem_matching_iff : (i, j) ∈ matching ts ↔ Paired ts i j := by
  rw [matching, ← Nat.zero_add j, mem_matchingFrom_iff]
  simp [Completes]

/-- No place has two partners, so it does not matter how one is looked up. -/
lemma lookup_matching_iff : (matching ts).lookup i = some j ↔ Paired ts i j := by
  have hfound : ∀ {j}, (matching ts).lookup i = some j → Paired ts i j := fun h => by
    obtain ⟨before, after, heq, -⟩ := List.lookup_eq_some_iff.1 h
    exact mem_matching_iff.1 (heq ▸ List.mem_append_right before List.mem_cons_self)
  refine ⟨hfound, fun h => ?_⟩
  have hsome := List.lookup_isSome_iff.2 ⟨(i, j), mem_matching_iff.2 h, beq_self_eq_true i⟩
  obtain ⟨j', hj'⟩ := Option.isSome_iff_exists.1 hsome
  rw [hj', (hfound hj').unique h]

/-- A place is in no pair if it is neither the first nor the second of two that belong to each
other. -/
lemma forall_mem_matching_ne_iff : (∀ p ∈ matching ts, p.1 ≠ n ∧ p.2 ≠ n) ↔
    (¬ ∃ j, Paired ts n j) ∧ ¬ ∃ i, Paired ts i n := by
  constructor
  · intro h
    exact ⟨fun ⟨j, hj⟩ => (h (n, j) (mem_matching_iff.2 hj)).1 rfl,
      fun ⟨i, hi⟩ => (h (i, n) (mem_matching_iff.2 hi)).2 rfl⟩
  · rintro ⟨hfirst, hsecond⟩ ⟨i, j⟩ hpair
    refine ⟨?_, ?_⟩ <;> rintro rfl
    · exact hfirst ⟨j, mem_matching_iff.1 hpair⟩
    · exact hsecond ⟨i, mem_matching_iff.1 hpair⟩

/-! ## What is in no pair -/

/-- No end of the tokens opens more parentheses than it closes. -/
def NeverAbove (ts : List Token) : Prop :=
  ∀ us, us <:+ ts → us.countP (·.kind = .opening) ≤ us.countP (·.kind = .closing)

lemma neverAbove_nil : NeverAbove [] := by
  intro us hus
  simp [List.suffix_nil.1 hus]

lemma neverAbove_cons : NeverAbove (t :: ts) ↔
    (t :: ts).countP (·.kind = .opening) ≤ (t :: ts).countP (·.kind = .closing) ∧
      NeverAbove ts := by
  simp only [NeverAbove, List.suffix_cons_iff, forall_eq_or_imp]

/-- Where no end opens more than it closes, and all of it closes no more than it opens, no front
closes too many. -/
lemma NeverAbove.balanced (h : NeverAbove ts)
    (hle : ts.countP (·.kind = .closing) ≤ ts.countP (·.kind = .opening)) : Balanced 0 ts := by
  refine balanced_iff.2 ⟨fun us hus => ?_, Nat.le_antisymm hle (h ts (List.suffix_refl ts))⟩
  obtain ⟨vs, rfl⟩ := hus
  have hback := h vs (List.suffix_append us vs)
  simp only [List.countP_append] at hle ⊢
  omega

lemma KindAt.drop_eq {k : Kind} (h : KindAt ts i k) :
    ∃ o, o.kind = k ∧ ts.drop i = o :: ts.drop (i + 1) := by
  obtain ⟨o, ho, hk⟩ := Option.map_eq_some_iff.1 h
  obtain ⟨hi, rfl⟩ := List.getElem?_eq_some_iff.1 ho
  exact ⟨ts[i], hk, List.drop_eq_getElem_cons hi⟩

/-- **Some end opens more than it closes** exactly if a parenthesis is still open at the end: behind
the last such everything is balanced. -/
lemma not_neverAbove_iff :
    ¬ NeverAbove ts ↔ ∃ i, KindAt ts i .opening ∧ Balanced 0 (ts.drop (i + 1)) := by
  constructor
  · -- the last parenthesis that stays open: none of the ends behind it opens more than it closes
    intro h
    induction ts with
    | nil => exact absurd neverAbove_nil h
    | cons t ts ih =>
        by_cases hrest : NeverAbove ts
        · have hfirst : ¬ (t :: ts).countP (·.kind = .opening) ≤
              (t :: ts).countP (·.kind = .closing) := fun hle => h (neverAbove_cons.2 ⟨hle, hrest⟩)
          have hback := hrest ts (List.suffix_refl ts)
          simp only [List.countP_cons, decide_eq_true_eq] at hfirst
          have ht : t.kind = .opening := by
            by_contra ht
            rw [if_neg ht] at hfirst
            omega
          rw [ht, if_pos rfl, if_neg (by decide)] at hfirst
          exact ⟨0, kindAt_cons_zero.2 ht, hrest.balanced (by omega)⟩
        · obtain ⟨i, ho, hbal⟩ := ih hrest
          exact ⟨i + 1, kindAt_cons_succ.2 ho, hbal⟩
  · rintro ⟨i, ho, hbal⟩ h
    obtain ⟨o, hkind, hdrop⟩ := ho.drop_eq
    have hend := h (ts.drop i) (List.drop_suffix i ts)
    have heven := (balanced_iff.1 hbal).2
    rw [hdrop, List.countP_cons_of_pos (by simp [hkind]),
      List.countP_cons_of_neg (by simp [hkind]), heven] at hend
    omega

/-- A parenthesis that closes has a partner exactly if one is open in front of it. -/
lemma exists_paired_closing_iff (hc : KindAt ts j .closing) :
    (∃ i, Paired ts i j) ↔ ¬ NeverAbove (ts.take j) := by
  rw [not_neverAbove_iff]
  refine exists_congr fun i => ?_
  have hbetween : (ts.take j).drop (i + 1) = between ts i j := List.drop_take
  rw [hbetween, balanced_iff]
  have hat : KindAt (ts.take j) i .opening ↔ i < j ∧ KindAt ts i .opening := by
    simp only [KindAt, List.getElem?_take]
    split_ifs with hlt <;> simp [hlt]
  rw [hat]
  exact ⟨fun h => ⟨⟨h.lt, h.opens⟩, h.neverBelow, h.even⟩,
    fun ⟨⟨hlt, ho⟩, hnever, heven⟩ => ⟨hlt, ho, hc, hnever, heven⟩⟩

/-- A parenthesis that opens has a partner exactly if it is closed behind it. -/
lemma exists_paired_opening_iff (ho : KindAt ts i .opening) :
    (∃ j, Paired ts i j) ↔ ¬ NeverBelow 0 (ts.drop (i + 1)) := by
  rw [← exists_closesAt_iff]
  constructor
  · rintro ⟨j, hpair⟩
    obtain ⟨-, n, -, hn⟩ := paired_iff.1 hpair
    exact ⟨n, hn⟩
  · rintro ⟨n, hn⟩
    exact ⟨_, paired_iff.2 ⟨ho, n, rfl, hn⟩⟩

/-- **Exactly the parentheses that belong to each other are paired**, in any tokens.  One that
closes is in no pair exactly if none is open in front of it, and one that opens exactly if it is
never closed. -/
theorem matching_spec (ts : List Token) :
    (∀ i j, ((i, j) ∈ matching ts ↔ Paired ts i j) ∧
      ((matching ts).lookup i = some j ↔ Paired ts i j)) ∧
    (∀ j, KindAt ts j .closing →
      ((∀ p ∈ matching ts, p.1 ≠ j ∧ p.2 ≠ j) ↔ NeverAbove (ts.take j))) ∧
    (∀ i, KindAt ts i .opening →
      ((∀ p ∈ matching ts, p.1 ≠ i ∧ p.2 ≠ i) ↔ NeverBelow 0 (ts.drop (i + 1)))) := by
  refine ⟨fun i j => ⟨mem_matching_iff, lookup_matching_iff⟩, fun j hj => ?_, fun i hi => ?_⟩
  · have hfirst : ¬ ∃ k, Paired ts j k := fun ⟨_, h⟩ => by
      cases h.opens.unique hj
    rw [forall_mem_matching_ne_iff, and_iff_right hfirst, exists_paired_closing_iff hj, not_not]
  · have hsecond : ¬ ∃ k, Paired ts k i := fun ⟨_, h⟩ => by
      cases h.closes.unique hi
    rw [forall_mem_matching_ne_iff, and_iff_left hsecond, exists_paired_opening_iff hi, not_not]

/-- Behind a parenthesis too many, and with one that stays open, the third belongs to the fourth. -/
example :
    matching (")(()".toList.map fun c => ⟨(symbolKind? c).getD .name, [c], 0⟩) = [(2, 3)] := by
  decide

end CurveSketch.NormalForm
