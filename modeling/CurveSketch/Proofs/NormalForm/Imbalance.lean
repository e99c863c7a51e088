import CurveSketch.Proofs.NormalForm.Reciprocals

/-!
# Imbalance

Parentheses are checked last, when the calls of reciprocal functions have been written out with
parentheses of their own and products have got their stars.  Still what is found wrong is what was
wrong with the tokens of the input.

* `checkFrom_of_neverBelow`, `checkFrom_of_not_neverBelow` — how the check ends, by counting: with
  what stays open at the end, or with the first parenthesis that closes one too many.
* `checkFrom_eq_ok_iff` — so parentheses are balanced exactly if as many close as open, and none too
  early.
* **`checkParentheses_insertTimes_expandReciprocals`** — all of it, for the tokens that are checked and
  those of the input.
-/

namespace CurveSketch.NormalForm

variable {depth : ℕ} {ts : List Token}

/-- Where no parenthesis closes one too many, the check ends with those that stay open. -/
lemma checkFrom_of_neverBelow (h : NeverBelow depth ts) :
    checkFrom depth ts =
      checkFrom (depth + ts.countP (·.kind = .opening) - ts.countP (·.kind = .closing)) [] := by
  induction ts generalizing depth with
  | nil => rfl
  | cons t ts ih =>
      obtain ⟨d, hd, hts⟩ := neverBelow_cons.1 h
      have hcount := count_depthAfter hd
      rw [checkFrom_cons, hd]
      dsimp only
      rw [ih hts]
      congr 1
      simp only [List.countP_cons, decide_eq_true_eq]
      omega

/-- Otherwise it ends at the first parenthesis that closes one too many: in front of it, as many close
as are open. -/
lemma checkFrom_of_not_neverBelow (h : ¬ NeverBelow depth ts) :
    ∃ before t after, ts = before ++ t :: after ∧ t.kind = .closing ∧ NeverBelow depth before ∧
      before.countP (·.kind = .closing) = depth + before.countP (·.kind = .opening) ∧
      checkFrom depth ts = .error (.strayCloser t.position) := by
  induction ts generalizing depth with
  | nil => exact absurd (neverBelow_nil depth) h
  | cons t ts ih =>
      rw [checkFrom_cons]
      cases hd : depthAfter (side? t.kind) depth with
      | none =>
          obtain ⟨ht, rfl⟩ := depthAfter_eq_none_iff.1 hd
          exact ⟨[], t, ts, rfl, ht, neverBelow_nil 0, rfl, rfl⟩
      | some d =>
          have hts : ¬ NeverBelow d ts := fun hts => h (neverBelow_cons.2 ⟨d, hd, hts⟩)
          obtain ⟨before, u, after, rfl, hu, hbefore, hcount, herror⟩ := ih hts
          have hstep := count_depthAfter hd
          refine ⟨t :: before, u, after, rfl, hu, neverBelow_cons.2 ⟨d, hd, hbefore⟩, ?_, herror⟩
          simp only [List.countP_cons, decide_eq_true_eq]
          omega

/-- Parentheses are balanced exactly if none closes one too many and none stays open. -/
lemma checkFrom_eq_ok_iff : checkFrom depth ts = .ok () ↔
    NeverBelow depth ts ∧
      ts.countP (·.kind = .closing) = depth + ts.countP (·.kind = .opening) := by
  by_cases h : NeverBelow depth ts
  · have hle := h ts (List.prefix_refl ts)
    rw [checkFrom_of_neverBelow h, ← Balanced, balanced_nil]
    simp only [h, true_and]
    omega
  · obtain ⟨before, t, after, -, -, -, -, herror⟩ := checkFrom_of_not_neverBelow h
    simp [herror, h]

/-- **The check of parentheses finds what is wrong with those of the input.**  It ends in the same way
whether or not reciprocals and products have been written out; it passes exactly if the parentheses
are balanced; and otherwise it names the place of the first one that closes too many, or else how many
stay open. -/
theorem checkParentheses_insertTimes_expandReciprocals (ts : List Token) :
    checkParentheses (insertTimes (expandReciprocals ts)) = checkParentheses ts ∧
    (checkParentheses ts = .ok () ↔
      NeverBelow 0 ts ∧ ts.countP (·.kind = .closing) = ts.countP (·.kind = .opening)) ∧
    (¬ NeverBelow 0 ts →
      ∃ before t after, ts = before ++ t :: after ∧ t.kind = .closing ∧ NeverBelow 0 before ∧
        before.countP (·.kind = .closing) = before.countP (·.kind = .opening) ∧
        checkParentheses ts = .error (.strayCloser t.position)) ∧
    (NeverBelow 0 ts → ts.countP (·.kind = .closing) ≠ ts.countP (·.kind = .opening) →
      checkParentheses ts = .error
        (.unclosed (ts.countP (·.kind = .opening) - ts.countP (·.kind = .closing)))) := by
  refine ⟨?_, ?_, fun h => ?_, fun h hne => ?_⟩
  · rw [checkParentheses, checkFrom_insertTimes, checkFrom_expandReciprocals, checkParentheses]
  · simpa [checkParentheses] using @checkFrom_eq_ok_iff 0 ts
  · simpa [checkParentheses] using checkFrom_of_not_neverBelow h
  · have hle := h ts (List.prefix_refl ts)
    rw [checkParentheses, checkFrom_of_neverBelow h, checkFrom, Nat.zero_add, if_neg (by omega)]

end CurveSketch.NormalForm
