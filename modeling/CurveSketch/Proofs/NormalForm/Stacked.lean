import CurveSketch.Proofs.NormalForm.Reciprocals

/-!
# Calls that are left over

One run of the pass writes out every call of a reciprocal function that it finds.  It can make a new
one: in `csc csc(x)` the first name calls nothing, but once the second call is written out as
`(1/sin(x))` a parenthesis opens behind the first name.

* `CallsReciprocal` — a reciprocal function is called somewhere.  Where none is, nothing is written
  out (`writtenOut_eq_self`); where one is, there are more tokens afterwards
  (`length_lt_writtenOut`).
* `Stacked` — the name of a reciprocal function stands in front of a call of another.
* **`callsReciprocal_writtenOut`** — the pass leaves a call exactly where names were stacked.
* `callsReciprocal_insertTimes`, `callsReciprocal_congr` — the stars of products make no call and
  take none away, and neither does anything that keeps the names and the parentheses.
-/

namespace CurveSketch.NormalForm

open Token

/-- A reciprocal function is called somewhere. -/
def CallsReciprocal : List Token → Prop
  | [] => False
  | t :: rest => (∃ base, called? t rest = some base) ∨ CallsReciprocal rest

/-- The name of a reciprocal function stands in front of a call of another somewhere. -/
def Stacked : List Token → Prop
  | [] => False
  | t :: rest =>
    ((∃ base, reciprocalBase? t = some base) ∧
      ∃ u tail base, rest = u :: tail ∧ called? u tail = some base) ∨ Stacked rest

/-! ## No call -/

lemma closeReciprocal_eq_self {t : Token} {opened : List Bool} (h : true ∉ opened) :
    expandFrom.closeReciprocal t opened = [t] := by
  unfold expandFrom.closeReciprocal
  split
  · simp at h
  · rfl

/-- Where no reciprocal function is called, nothing is written out. -/
lemma writtenOut_eq_self {opened : List Bool} {ts : List Token} (h : ¬ CallsReciprocal ts)
    (hopened : true ∉ opened) : writtenOut false opened ts = ts := by
  induction ts generalizing opened with
  | nil => rfl
  | cons t rest ih =>
      obtain ⟨hcall, hrest⟩ := not_or.1 h
      have hnone : called? t rest = none := by
        by_contra hne
        exact hcall (Option.ne_none_iff_exists'.1 hne)
      have hafter : true ∉ openAfter false t opened := by
        unfold openAfter
        split
        · simpa using hopened
        · exact fun hmem => hopened (List.mem_cons_of_mem _ hmem)
        · exact hopened
      rw [writtenOut_not_called hnone, closeReciprocal_eq_self hopened, ih hrest hafter]
      rfl

/-- Where a reciprocal function is called, there are more tokens afterwards. -/
lemma length_lt_writtenOut {heads : Bool} {opened : List Bool} {ts : List Token}
    (h : CallsReciprocal ts) : ts.length < (writtenOut heads opened ts).length := by
  fun_induction writtenOut heads opened ts with
  | case1 => exact h.elim
  | case2 heads opened t rest base _ _ =>
      have := length_le_writtenOut true opened rest
      simp only [reciprocalHead, List.length_append, List.length_cons, List.length_nil]
      omega
  | case3 heads opened t rest hnone ih =>
      have hrest : CallsReciprocal rest := h.resolve_left (by simp [hnone])
      have := ih hrest
      have := one_le_closeReciprocal t opened
      simp only [List.length_append, List.length_cons]
      omega

/-! ## Calls that are made -/

/-- What is written for a reciprocal function holds no call. -/
lemma callsReciprocal_reciprocalHead {t : Token} {base : Fn} (h : reciprocalBase? t = some base)
    {ts : List Token} :
    CallsReciprocal (reciprocalHead base t.position ++ ts) ↔ CallsReciprocal ts := by
  have hname : ∀ rest, called? ⟨.func, base.name, t.position⟩ rest = none := fun rest => by
    rw [called?, reciprocalBase?_function, reciprocalOf?_of_reciprocalBase? h, ite_self]
  simp [reciprocalHead, CallsReciprocal, hname, called?_of_kind_ne]

/-- A parenthesis opens first after the pass if one opened first before, or a call was first. -/
lemma opening_first_writtenOut {heads : Bool} {opened : List Bool} {ts : List Token} :
    (∃ next tail, writtenOut heads opened ts = next :: tail ∧ next.kind = .opening) ↔
      ∃ u rest, ts = u :: rest ∧ (u.kind = .opening ∨ ∃ base, called? u rest = some base) := by
  cases ts with
  | nil => simp [writtenOut]
  | cons u rest =>
      cases hcall : called? u rest with
      | some base =>
          rw [writtenOut_called hcall, reciprocalHead]
          simp [hcall]
      | none =>
          have hfirst : ∃ more, expandFrom.closeReciprocal u opened = u :: more := by
            unfold expandFrom.closeReciprocal
            split <;> exact ⟨_, rfl⟩
          obtain ⟨more, hmore⟩ := hfirst
          rw [writtenOut_not_called hcall, hmore]
          simp [hcall]

/-- A parenthesis behind a token that closes a call calls nothing. -/
lemma callsReciprocal_closeReciprocal {t : Token} {opened : List Bool} {ts : List Token} :
    CallsReciprocal (expandFrom.closeReciprocal t opened ++ ts) ↔
      (∃ base, called? t ts = some base) ∨ CallsReciprocal ts := by
  unfold expandFrom.closeReciprocal
  split
  · next ht => simp [CallsReciprocal, called?_of_kind_ne, ht]
  · rfl

/-- **A call is left over** exactly where names of reciprocal functions were stacked. -/
lemma callsReciprocal_writtenOut {heads : Bool} {opened : List Bool} {ts : List Token} :
    CallsReciprocal (writtenOut heads opened ts) ↔ Stacked ts := by
  fun_induction writtenOut heads opened ts with
  | case1 => rfl
  | case2 heads opened t rest base hcall ih =>
      obtain ⟨hbase, next, tail, rfl, hopen⟩ := called?_eq_some_iff.1 hcall
      rw [callsReciprocal_reciprocalHead hbase, ih]
      refine ⟨Or.inr, fun h => h.resolve_left ?_⟩
      rintro ⟨-, u, tail', base', heq, hcall'⟩
      obtain ⟨rfl, rfl⟩ := List.cons.inj heq
      have hfunc := kind_of_reciprocalBase? (called?_eq_some_iff.1 hcall').1
      simp [hopen] at hfunc
  | case3 heads opened t rest hnone ih =>
      rw [callsReciprocal_closeReciprocal, ih]
      refine or_congr ⟨?_, ?_⟩ Iff.rfl
      · rintro ⟨base, hcall⟩
        obtain ⟨hbase, hfirst⟩ := called?_eq_some_iff.1 hcall
        obtain ⟨u, tail, rfl, hopen | ⟨base', hcall'⟩⟩ := opening_first_writtenOut.1 hfirst
        · rw [called?_cons, if_pos hopen, hbase] at hnone
          cases hnone
        · exact ⟨⟨base, hbase⟩, u, tail, base', rfl, hcall'⟩
      · rintro ⟨⟨base, hbase⟩, u, tail, base', rfl, hcall'⟩
        refine ⟨base, called?_eq_some_iff.2 ⟨hbase, ?_⟩⟩
        exact opening_first_writtenOut.2 ⟨u, tail, rfl, Or.inr ⟨base', hcall'⟩⟩

/-! ## What keeps calls -/

/-- The stars of products neither make a call nor take one away. -/
lemma callsReciprocal_insertTimes {ts : List Token} :
    CallsReciprocal (insertTimes ts) ↔ CallsReciprocal ts := by
  fun_induction insertTimes ts with
  | case1 => rfl
  | case2 t => rfl
  | case3 t next rest hmul ih =>
      have hnot : t.kind = .func → next.kind ≠ .opening := fun ht _ => by simp [ht] at hmul
      have hnone : called? t (next :: rest) = none := by
        rw [called?_cons]
        split_ifs with hopen
        · exact reciprocalBase?_of_kind_ne fun ht => hnot ht hopen
        · rfl
      have hstar : ∀ us, called? (times next.position) us = none :=
        fun us => called?_of_kind_ne (by simp [times]) us
      simp only [CallsReciprocal, hstar, hnone, ih, called?_cons]
      simp [times]
  | case4 t next rest _ ih =>
      obtain ⟨us, hus⟩ := insertTimes_cons next rest
      rw [CallsReciprocal, CallsReciprocal, ih, hus, called?_cons, called?_cons]

/-- Only the names of reciprocal functions and the parentheses that open count. -/
lemma callsReciprocal_congr {ts us : List Token}
    (hbase : ts.map reciprocalBase? = us.map reciprocalBase?)
    (hside : ts.map (side? ·.kind) = us.map (side? ·.kind)) :
    CallsReciprocal ts ↔ CallsReciprocal us := by
  induction ts generalizing us with
  | nil => rw [List.map_eq_nil_iff.1 hbase.symm]
  | cons t ts ih =>
      obtain ⟨u, us, rfl, hu, hus⟩ := List.map_eq_cons_iff.1 hbase.symm
      obtain ⟨-, hsides⟩ := List.cons.inj hside
      rw [CallsReciprocal, CallsReciprocal, ih hus.symm hsides]
      refine or_congr ?_ Iff.rfl
      cases ts with
      | nil => rw [List.map_eq_nil_iff.1 hus]; simp [called?]
      | cons next ts =>
          obtain ⟨next', us, rfl, -, -⟩ := List.map_eq_cons_iff.1 hus
          have heq : side? next.kind = side? next'.kind := (List.cons.inj hsides).1
          have hopen : next.kind = .opening ↔ next'.kind = .opening := by
            rw [← side?_eq_left, heq, side?_eq_left]
          simp only [called?_cons, hopen, hu]

end CurveSketch.NormalForm
