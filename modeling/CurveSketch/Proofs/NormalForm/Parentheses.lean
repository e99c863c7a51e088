import CurveSketch.NormalForm
import CurveSketch.Proofs.NormalForm.Names
import CurveSketch.Proofs.NormalForm.Products

/-!
# Balanced parentheses

* `Balanced` — tokens that close as many parentheses as are open in front of them and open in them,
  and never one more.
* `checkFrom_cons`, `balanced_congr` — a token counts by the side of its parenthesis, and in no other
  way.
* `checkFrom_insertTimes`, `balanced_settle` — the stars of products change nothing, and neither does
  settling names and powers.
* `NeverBelow` — no front of the tokens closes more parentheses than are open.
* **`pairAt_of_opensPair`** — a pair begins at a parenthesis that opens and is closed.
* **`opensPair_of_balanced`** — where the parentheses are balanced, every one that opens begins a
  pair.
-/

namespace CurveSketch.NormalForm

open Token

/-- The tokens behind `depth` open parentheses pass the check. -/
def Balanced (depth : ℕ) (ts : List Token) : Prop := checkFrom depth ts = .ok ()

/-! ## Only parentheses count -/

/-- The side a parenthesis stands on. -/
inductive Side where
  | left
  | right

/-- The side of a parenthesis; other kinds have none. -/
def side? : Kind → Option Side
  | .opening => some .left
  | .closing => some .right
  | _ => none

lemma side?_eq_none {k : Kind} (ho : k ≠ .opening) (hc : k ≠ .closing) : side? k = none := by
  cases k <;> first | contradiction | rfl

lemma side?_eq_left {k : Kind} : side? k = some .left ↔ k = .opening := by
  cases k <;> simp [side?]

/-- How many parentheses are open behind a token, unless it closes one too many. -/
def depthAfter : Option Side → (depth : ℕ) → Option ℕ
  | some .left, depth => some (depth + 1)
  | some .right, 0 => none
  | some .right, depth + 1 => some depth
  | none, depth => some depth

@[simp] lemma balanced_nil {depth : ℕ} : Balanced depth [] ↔ depth = 0 := by
  rw [Balanced, checkFrom]
  split_ifs with h <;> simp [h]

/-- The first token is checked by what is open behind it. -/
lemma checkFrom_cons {depth : ℕ} {t : Token} {ts : List Token} :
    checkFrom depth (t :: ts) =
      match depthAfter (side? t.kind) depth with
      | some d => checkFrom d ts
      | none => .error (.strayCloser t.position) := by
  obtain ⟨k, text, p⟩ := t
  cases k <;> cases depth <;> rfl

lemma balanced_cons {depth : ℕ} {t : Token} {ts : List Token} :
    Balanced depth (t :: ts) ↔ ∃ d, depthAfter (side? t.kind) depth = some d ∧ Balanced d ts := by
  rw [Balanced, checkFrom_cons]
  cases depthAfter (side? t.kind) depth <;> simp [Balanced]

/-- Only the parentheses count. -/
lemma balanced_congr {ts us : List Token} (h : ts.map (side? ·.kind) = us.map (side? ·.kind))
    (depth : ℕ) : Balanced depth ts ↔ Balanced depth us := by
  induction ts generalizing us depth with
  | nil => rw [List.map_eq_nil_iff.1 h.symm]
  | cons t ts ih =>
      obtain ⟨u, us, rfl, hu, hus⟩ := List.map_eq_cons_iff.1 h.symm
      simp only [balanced_cons, hu, ih hus.symm]

lemma checkFrom_opening {depth : ℕ} {t : Token} {ts : List Token} (ht : t.kind = .opening) :
    checkFrom depth (t :: ts) = checkFrom (depth + 1) ts := by
  rw [checkFrom_cons, ht]
  rfl

lemma checkFrom_closing {depth : ℕ} {t : Token} {ts : List Token} (ht : t.kind = .closing) :
    checkFrom (depth + 1) (t :: ts) = checkFrom depth ts := by
  rw [checkFrom_cons, ht]
  rfl

lemma checkFrom_stray {t : Token} {ts : List Token} (ht : t.kind = .closing) :
    checkFrom 0 (t :: ts) = .error (.strayCloser t.position) := by
  rw [checkFrom_cons, ht]
  rfl

lemma checkFrom_other {depth : ℕ} {t : Token} {ts : List Token} (ht : side? t.kind = none) :
    checkFrom depth (t :: ts) = checkFrom depth ts := by
  rw [checkFrom_cons, ht]
  rfl

lemma balanced_opening {depth : ℕ} {t : Token} {ts : List Token} (ht : t.kind = .opening) :
    Balanced depth (t :: ts) ↔ Balanced (depth + 1) ts := by
  rw [Balanced, checkFrom_opening ht, Balanced]

lemma balanced_closing {depth : ℕ} {t : Token} {ts : List Token} (ht : t.kind = .closing) :
    Balanced (depth + 1) (t :: ts) ↔ Balanced depth ts := by
  rw [Balanced, checkFrom_closing ht, Balanced]

lemma not_balanced_closing {t : Token} {ts : List Token} (ht : t.kind = .closing) :
    ¬ Balanced 0 (t :: ts) := by
  simp [Balanced, checkFrom_stray ht]

lemma balanced_other {depth : ℕ} {t : Token} {ts : List Token} (ht : side? t.kind = none) :
    Balanced depth (t :: ts) ↔ Balanced depth ts := by
  rw [Balanced, checkFrom_other ht, Balanced]

/-- The stars of products change nothing. -/
lemma checkFrom_insertTimes (depth : ℕ) (ts : List Token) :
    checkFrom depth (insertTimes ts) = checkFrom depth ts := by
  fun_induction insertTimes ts generalizing depth with
  | case1 => rfl
  | case2 t => rfl
  | case3 t next rest _ ih =>
      have hstar : ∀ d, checkFrom d (times next.position :: insertTimes (next :: rest)) =
          checkFrom d (next :: rest) := fun d => (checkFrom_other rfl).trans (ih d)
      simp only [checkFrom_cons (t := t), hstar]
  | case4 t next rest _ ih => simp only [checkFrom_cons (t := t), ih]

lemma side?_settle (t : Token) : side? (settle t).kind = side? t.kind := by
  obtain ⟨k, text, p⟩ := t
  cases k with
  | name =>
      rw [settle, readPower_of_not_operator (by simp)]
      simp only [readConstant, if_true]
      split <;> simp only [reduceCtorEq, if_false, if_true]
      · rfl
      · split_ifs <;> rfl
  | operator =>
      rw [settle_operator rfl, readPower]
      split_ifs <;> rfl
  | _ => rw [settle_other (by simp) (by simp)]

/-- Settling names and powers changes nothing. -/
lemma balanced_settle {depth : ℕ} {ts : List Token} :
    Balanced depth (ts.map settle) ↔ Balanced depth ts := by
  refine balanced_congr ?_ depth
  rw [List.map_map]
  exact List.map_congr_left fun t _ => side?_settle t

/-! ## Fronts -/

/-- No front of the tokens closes more parentheses than `depth` and those that it opens itself.  So a
parenthesis in which `depth` others are open is not closed in them. -/
def NeverBelow (depth : ℕ) (ts : List Token) : Prop :=
  ∀ us, us <+: ts → us.countP (·.kind = .closing) ≤ depth + us.countP (·.kind = .opening)

lemma neverBelow_nil (depth : ℕ) : NeverBelow depth [] := by
  intro us hus
  simp [List.prefix_nil.1 hus]

/-- What is open behind a token, by counting. -/
lemma count_depthAfter {depth d : ℕ} {t : Token} (h : depthAfter (side? t.kind) depth = some d) :
    (if t.kind = .closing then 1 else 0) + d = depth + if t.kind = .opening then 1 else 0 := by
  obtain ⟨k, text, p⟩ := t
  cases k <;> cases depth <;> simp_all [side?, depthAfter]
  omega

lemma depthAfter_eq_none_iff {depth : ℕ} {t : Token} :
    depthAfter (side? t.kind) depth = none ↔ t.kind = .closing ∧ depth = 0 := by
  obtain ⟨k, text, p⟩ := t
  cases k <;> cases depth <;> simp [side?, depthAfter]

/-- The fronts of tokens are empty, or the first token and a front of the others. -/
lemma neverBelow_cons {depth : ℕ} {t : Token} {ts : List Token} :
    NeverBelow depth (t :: ts) ↔
      ∃ d, depthAfter (side? t.kind) depth = some d ∧ NeverBelow d ts := by
  cases h : depthAfter (side? t.kind) depth with
  | none =>
      obtain ⟨ht, rfl⟩ := depthAfter_eq_none_iff.1 h
      refine iff_of_false (fun hnever => ?_) (by simp)
      have := hnever [t] (by simp)
      simp [ht] at this
  | some d =>
      have hstep := count_depthAfter h
      simp only [Option.some.injEq, exists_eq_left']
      constructor
      · intro hnever us hus
        have := hnever (t :: us) (List.cons_prefix_cons.2 ⟨rfl, hus⟩)
        simp only [List.countP_cons, decide_eq_true_eq] at this
        omega
      · intro hnever us hus
        cases us with
        | nil => simp
        | cons u us =>
            obtain ⟨rfl, htail⟩ := List.cons_prefix_cons.1 hus
            have := hnever us htail
            simp only [List.countP_cons, decide_eq_true_eq]
            omega

lemma neverBelow_opening {depth : ℕ} {t : Token} {ts : List Token} (ht : t.kind = .opening) :
    NeverBelow depth (t :: ts) ↔ NeverBelow (depth + 1) ts := by
  simp [neverBelow_cons, ht, side?, depthAfter]

lemma neverBelow_closing {depth : ℕ} {t : Token} {ts : List Token} (ht : t.kind = .closing) :
    NeverBelow (depth + 1) (t :: ts) ↔ NeverBelow depth ts := by
  simp [neverBelow_cons, ht, side?, depthAfter]

lemma not_neverBelow_closing {t : Token} {ts : List Token} (ht : t.kind = .closing) :
    ¬ NeverBelow 0 (t :: ts) := by
  simp [neverBelow_cons, ht, side?, depthAfter]

lemma neverBelow_other {depth : ℕ} {t : Token} {ts : List Token} (ht : side? t.kind = none) :
    NeverBelow depth (t :: ts) ↔ NeverBelow depth ts := by
  simp [neverBelow_cons, ht, depthAfter]

/-! ## Pairs -/

/-- A parenthesis opens at the place `j` of tokens that are counted from `index` on. -/
def OpensAt (j index : ℕ) : List Token → Prop
  | [] => False
  | t :: ts => (j = index ∧ t.kind = .opening) ∨ OpensAt j (index + 1) ts

lemma OpensAt.le {j index : ℕ} {ts : List Token} (h : OpensAt j index ts) : index ≤ j := by
  induction ts generalizing index with
  | nil => exact h.elim
  | cons t ts ih =>
      rcases h with ⟨rfl, -⟩ | h
      · exact Nat.le_refl _
      · exact Nat.le_of_succ_le (ih h)

/-- At a later place the first token does not count. -/
lemma opensAt_cons_of_lt {j index : ℕ} (h : index < j) {t : Token} {ts : List Token} :
    OpensAt j index (t :: ts) ↔ OpensAt j (index + 1) ts := by
  simp [OpensAt, Nat.ne_of_gt h]

/-- At the first place nothing else counts. -/
lemma opensAt_cons_self {index : ℕ} {t : Token} {ts : List Token} :
    OpensAt index index (t :: ts) ↔ t.kind = .opening := by
  have hlater : ¬ OpensAt index (index + 1) ts := fun h => Nat.not_succ_le_self _ h.le
  simp [OpensAt, hlater]

lemma opensPair_cons {start stop j : ℕ} {pairs : List (ℕ × ℕ)} :
    opensPair ((start, stop) :: pairs) j = true ↔ j = start ∨ opensPair pairs j = true := by
  rw [opensPair, List.any_cons, Bool.or_eq_true, beq_iff_eq]
  exact or_congr eq_comm Iff.rfl

/-- A parenthesis opens at the place `j` of tokens that are counted from `index` on, and is closed in
those behind it. -/
def PairAt (j index : ℕ) : List Token → Prop
  | [] => False
  | t :: ts => (j = index ∧ t.kind = .opening ∧ ¬ NeverBelow 0 ts) ∨ PairAt j (index + 1) ts

lemma PairAt.opensAt {j index : ℕ} {ts : List Token} (h : PairAt j index ts) :
    OpensAt j index ts := by
  induction ts generalizing index with
  | nil => exact h
  | cons t ts ih => exact h.imp (fun ⟨hj, ht, _⟩ => ⟨hj, ht⟩) ih

/-- **A pair begins at a parenthesis that is closed**: at one that is open already, with `k` others in
it, or at one that opens later. -/
lemma pairAt_of_opensPair {j index : ℕ} {opened : List ℕ} {ts : List Token}
    (h : opensPair (matchingFrom index opened ts) j = true) :
    (∃ k, opened[k]? = some j ∧ ¬ NeverBelow k ts) ∨ PairAt j index ts := by
  fun_induction matchingFrom index opened ts with
  | case1 => simp [opensPair] at h
  | case2 index opened t rest ht ih =>
      rcases ih h with ⟨k, hj, hclosed⟩ | hj
      · cases k with
        | zero =>
            obtain rfl : index = j := by simpa using hj
            exact .inr (.inl ⟨rfl, ht, hclosed⟩)
        | succ k => exact .inl ⟨k, by simpa using hj, mt (neverBelow_opening ht).1 hclosed⟩
      · exact .inr (.inr hj)
  | case3 index t rest start outer ht ih =>
      rcases opensPair_cons.1 h with rfl | h
      · exact .inl ⟨0, rfl, not_neverBelow_closing ht⟩
      · rcases ih h with ⟨k, hj, hclosed⟩ | hj
        · exact .inl ⟨k + 1, by simpa using hj, mt (neverBelow_closing ht).1 hclosed⟩
        · exact .inr (.inr hj)
  | case4 index opened t rest ho hc ih =>
      rcases ih h with ⟨k, hj, hclosed⟩ | hj
      · -- a parenthesis that closes here would have an open one to close
        have hclosing : t.kind ≠ .closing := fun ht => by
          cases opened with
          | nil => simp at hj
          | cons start outer => exact hc start outer ht rfl
        exact .inl ⟨k, hj, mt (neverBelow_other (side?_eq_none ho hclosing)).1 hclosed⟩
      · exact .inr (.inr hj)

/-- A pair begins at a parenthesis that opens. -/
lemma opensAt_of_opensPair {j index : ℕ} {opened : List ℕ} {ts : List Token}
    (h : opensPair (matchingFrom index opened ts) j = true) : j ∈ opened ∨ OpensAt j index ts :=
  (pairAt_of_opensPair h).imp (fun ⟨_, hj, _⟩ => List.mem_of_getElem? hj) PairAt.opensAt

/-- **Where the parentheses are balanced** every one that opens begins a pair. -/
lemma opensPair_of_balanced {j index : ℕ} {opened : List ℕ} {ts : List Token}
    (hbal : Balanced opened.length ts) (h : j ∈ opened ∨ OpensAt j index ts) :
    opensPair (matchingFrom index opened ts) j = true := by
  fun_induction matchingFrom index opened ts with
  | case1 index opened =>
      rw [balanced_nil, List.length_eq_zero_iff] at hbal
      simp [hbal, OpensAt] at h
  | case2 index opened t rest ht ih =>
      refine ih ((balanced_opening ht).1 hbal) ?_
      rcases h with hj | ⟨rfl, -⟩ | hj
      · exact Or.inl (List.mem_cons_of_mem _ hj)
      · exact Or.inl List.mem_cons_self
      · exact Or.inr hj
  | case3 index t rest start outer ht ih =>
      rw [opensPair_cons]
      rcases h with hj | ⟨-, hopen⟩ | hj
      · rcases List.mem_cons.1 hj with rfl | hj
        · exact Or.inl rfl
        · exact Or.inr (ih ((balanced_closing ht).1 hbal) (Or.inl hj))
      · simp [ht] at hopen
      · exact Or.inr (ih ((balanced_closing ht).1 hbal) (Or.inr hj))
  | case4 index opened t rest ho hc ih =>
      have hclosing : t.kind ≠ .closing := fun ht => by
        cases opened with
        | nil => exact not_balanced_closing ht hbal
        | cons start outer => exact hc start outer ht rfl
      have hrest := (balanced_other (side?_eq_none ho hclosing)).1 hbal
      rcases h with hj | ⟨-, hopen⟩ | hj
      · exact ih hrest (Or.inl hj)
      · exact absurd hopen ho
      · exact ih hrest (Or.inr hj)

end CurveSketch.NormalForm
