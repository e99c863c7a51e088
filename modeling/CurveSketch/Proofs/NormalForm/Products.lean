import CurveSketch.Proofs.Grammar
import CurveSketch.Proofs.NormalForm.Names
import Mathlib.Data.List.Chain
import Mathlib.Tactic.Common

/-!
# Products written out

* `Multiplied` — the neighbours in an input that are multiplied although no star stands between them.
* `Apart` — no two neighbours among the tokens are multiplied.
* **`apart_insertTimes`** — that is so once the stars are written.
* **`insertTimes_eq_self`** — and where it is so, no star is written.
* `timesAfter` — the stars written from the left, looking back at the kind of the last token.
* `Apart.join` and its companions — no star is needed at an operator, behind an opening parenthesis
  or a function's name, or in front of a closing one.
-/

namespace CurveSketch.NormalForm

open Token

/-! ## Neighbours in an input -/

/-- Neighbours that are multiplied although no star stands between them: a number in front of the
variable, a function, a constant or a parenthesis; a parenthesis that closes in front of one of these
or of a number; the variable in front of a parenthesis or a constant; and a constant in front of
anything of the kind. -/
def Multiplied (a b : Token) : Prop :=
  (a.kind = .number ∧ (b.IsVariable ∨ b.NamesFunction ∨ b.NamesConstant ∨ b.kind = .opening)) ∨
  (a.kind = .closing ∧
    (b.IsVariable ∨ b.NamesFunction ∨ b.NamesConstant ∨ b.kind = .number ∨ b.kind = .opening)) ∨
  (a.IsVariable ∧ (b.kind = .opening ∨ b.NamesConstant)) ∨
  (a.NamesConstant ∧
    (b.kind = .number ∨ b.NamesConstant ∨ b.IsVariable ∨ b.NamesFunction ∨ b.kind = .opening))

/-- Such neighbours are multiplied once their names are told apart. -/
lemma Multiplied.multiplies {a b : Token} (h : Multiplied a b) :
    multiplies (settle a).kind (settle b).kind = true := by
  have hvar : ∀ {t : Token}, t.IsVariable → (settle t).kind = .var := fun ht => by
    rw [settle_variable ht.1 ht.2]
  have hfunc : ∀ {t : Token}, t.NamesFunction → (settle t).kind = .func := fun ⟨ht, f, hf⟩ => by
    rw [settle_function ht hf]
  have hconst : ∀ {t : Token}, t.NamesConstant → (settle t).kind = .const := fun ⟨ht, c, hc⟩ => by
    rw [settle_constant ht hc]
  have hother : ∀ {t : Token}, t.kind ≠ .name → t.kind ≠ .operator → (settle t).kind = t.kind :=
    fun hname hop => by rw [settle_other hname hop]
  rcases h with ⟨ha, hb | hb | hb | hb⟩ | ⟨ha, hb | hb | hb | hb | hb⟩ | ⟨ha, hb | hb⟩ |
    ⟨ha, hb | hb | hb | hb | hb⟩
  all_goals simp [ha, hb, hvar, hfunc, hconst, hother, NormalForm.multiplies]

/-! ## Kinds that are not multiplied -/

/-- No two neighbours are multiplied. -/
def Apart (ts : List Token) : Prop :=
  (ts.map Token.kind).IsChain fun left right => multiplies left right = false

@[simp] lemma multiplies_operator_right (k : Kind) : multiplies k .operator = false := by
  cases k <;> rfl

@[simp] lemma multiplies_closing (k : Kind) : multiplies k .closing = false := by
  cases k <;> rfl

@[simp] lemma multiplies_operator_left (k : Kind) : multiplies .operator k = false := by
  cases k <;> rfl

@[simp] lemma multiplies_opening (k : Kind) : multiplies .opening k = false := by
  cases k <;> rfl

@[simp] lemma multiplies_func (k : Kind) : multiplies .func k = false := by
  cases k <;> rfl

/-! ## Lists without products -/

lemma apart_nil : Apart [] := List.isChain_nil

lemma apart_singleton (t : Token) : Apart [t] := List.isChain_singleton _

lemma apart_cons_cons {t next : Token} {ts : List Token} :
    Apart (t :: next :: ts) ↔ multiplies t.kind next.kind = false ∧ Apart (next :: ts) :=
  List.isChain_cons_cons

/-- Behind a kind that is never multiplied with what follows it. -/
lemma Apart.cons {t : Token} {ts : List Token} (h : Apart ts)
    (ht : ∀ k, multiplies t.kind k = false) : Apart (t :: ts) := by
  cases ts with
  | nil => exact apart_singleton t
  | cons next ts => exact apart_cons_cons.2 ⟨ht next.kind, h⟩

/-- In front of a kind that is never multiplied with what precedes it. -/
lemma Apart.append_cons {ts us : List Token} {t : Token} (hts : Apart ts) (hus : Apart (t :: us))
    (ht : ∀ k, multiplies k t.kind = false) : Apart (ts ++ t :: us) := by
  induction ts with
  | nil => exact hus
  | cons u ts ih =>
      cases ts with
      | nil => exact apart_cons_cons.2 ⟨ht u.kind, hus⟩
      | cons next ts =>
          obtain ⟨hfirst, hts⟩ := apart_cons_cons.1 hts
          exact apart_cons_cons.2 ⟨hfirst, ih hts⟩

/-- Around an operator. -/
lemma Apart.join {ts us : List Token} {t : Token} (hts : Apart ts) (hus : Apart us)
    (ht : t.kind = .operator) : Apart (ts ++ t :: us) :=
  hts.append_cons (hus.cons (by simp [ht])) (by simp [ht])

/-! ## The star between neighbours -/

/-- The first token stays the first. -/
lemma insertTimes_cons (t : Token) (ts : List Token) :
    ∃ us, insertTimes (t :: ts) = t :: us := by
  cases ts with
  | nil => exact ⟨[], rfl⟩
  | cons next ts =>
      rw [insertTimes]
      split_ifs <;> exact ⟨_, rfl⟩

/-- **Once the stars are written** nothing more is multiplied. -/
lemma apart_insertTimes (ts : List Token) : Apart (insertTimes ts) := by
  fun_induction insertTimes ts with
  | case1 => exact apart_nil
  | case2 t => exact apart_singleton t
  | case3 t next rest _ ih =>
      have hstar : Apart (times next.position :: insertTimes (next :: rest)) :=
        ih.cons (by simp [times])
      exact apart_cons_cons.2 ⟨by simp [times], hstar⟩
  | case4 t next rest hapart ih =>
      obtain ⟨us, hus⟩ := insertTimes_cons next rest
      rw [hus] at ih ⊢
      exact apart_cons_cons.2 ⟨by simpa using hapart, ih⟩

/-- **Where nothing is multiplied** no star is written. -/
lemma insertTimes_eq_self {ts : List Token} (h : Apart ts) : insertTimes ts = ts := by
  fun_induction insertTimes ts with
  | case1 => rfl
  | case2 t => rfl
  | case3 t next rest hmul _ => exact absurd (apart_cons_cons.1 h).1 (by simp [hmul])
  | case4 t next rest _ ih => rw [ih (apart_cons_cons.1 h).2]

/-- The tokens behind one of the kind `k`, with the star written between neighbours that are
multiplied. -/
def timesAfter (k : Kind) : List Token → List Token
  | [] => []
  | t :: ts =>
    if multiplies k t.kind then times t.position :: t :: timesAfter t.kind ts
    else t :: timesAfter t.kind ts

/-- In front of the first token there is nothing to multiply with. -/
lemma insertTimes_eq_timesAfter (ts : List Token) : insertTimes ts = timesAfter .operator ts := by
  fun_induction insertTimes ts with
  | case1 => rfl
  | case2 t => simp [timesAfter]
  | case3 t next rest hmul ih => simp_all [timesAfter]
  | case4 t next rest hnot ih => simp_all [timesAfter]

/-- No token is lost. -/
lemma length_le_insertTimes (ts : List Token) : ts.length ≤ (insertTimes ts).length := by
  fun_induction insertTimes ts with
  | case1 => exact Nat.le_refl _
  | case2 t => exact Nat.le_refl _
  | case3 t next rest _ ih =>
      simp only [List.length_cons] at ih ⊢
      omega
  | case4 t next rest _ ih =>
      simp only [List.length_cons] at ih ⊢
      omega

/-- What is written is the tokens and stars. -/
lemma mem_insertTimes {t : Token} {ts : List Token} (h : t ∈ insertTimes ts) :
    t ∈ ts ∨ ∃ p, t = times p := by
  fun_induction insertTimes ts with
  | case1 => simp at h
  | case2 u => exact Or.inl h
  | case3 u next rest _ ih =>
      rcases List.mem_cons.1 h with rfl | h
      · exact Or.inl List.mem_cons_self
      · rcases List.mem_cons.1 h with rfl | h
        · exact Or.inr ⟨next.position, rfl⟩
        · exact (ih h).imp (List.mem_cons_of_mem u) id
  | case4 u next rest _ ih =>
      rcases List.mem_cons.1 h with rfl | h
      · exact Or.inl List.mem_cons_self
      · exact (ih h).imp (List.mem_cons_of_mem u) id

end CurveSketch.NormalForm
