import CurveSketch.Domain.Pattern
import CurveSketch.Proofs.Grammar.Parts
import CurveSketch.Proofs.Grammar.Unspaced
import CurveSketch.Proofs.NormalForm.Names

/-!
# Restrictions that show, and the trees they are read from

Restrictions are read off tokens and off the text, and the tree is never looked at.  Whatever is read
off is in the tree all the same.

**Tokens.**  A counter of parentheses finds where a group ends, whatever is in it
(`passed_of_derives`).  So the arguments that are found are the arguments of the calls in the tree
(`call_of_mem_callArguments`, `exists_mem_callArguments`).

**Text.**  A pattern is found where no token goes on, and there the text may be cut
(`splits_behind_slash`, `splits_at_word`); what follows are the tokens that the pattern is made of
(`beginsCall_of_callOfVariable`).

* `Restriction.Shows` — what has to be in a tree for a restriction to show.
* `description?` — what is said of the restriction; the wording tells which one it is.
* **`description?_of_readTree`** — what is found is in the tree, and calls of roots and logarithms are
  found if they are in it.
-/

namespace CurveSketch

open Text Token

/-! ## What shows in a tree -/

namespace Expr

/-- One of the functions is called on something with the variable in it. -/
def CallsOn (fs : List Fn) (e : Expr) : Prop :=
  ∃ f ∈ fs, ∃ arg, .call f arg ∈ e.parts ∧ .var ∈ arg.parts

/-- One of the functions is called on the variable alone. -/
def CallsOnVariable (fs : List Fn) (e : Expr) : Prop := ∃ f ∈ fs, .call f .var ∈ e.parts

/-- Something is divided by the expression `d` or by a power of it. -/
def DividesBy (e d : Expr) : Prop :=
  ∃ l r, .binary .div l r ∈ e.parts ∧ (r = d ∨ ∃ k, r = .binary .pow d k)

end Expr

namespace Domain

/-- What has to be in a tree for a restriction to show. -/
def Restriction.Shows (e : Expr) : Restriction → Prop
  | rootOfVariable => e.CallsOnVariable [.sqrt]
  | rootArgument => e.CallsOn [.sqrt]
  | logOfVariable => e.CallsOnVariable [.log, .ln]
  | logArgument => e.CallsOn [.log, .ln]
  | quotient => e.DividesBy .var
  | halfPiPoles => e.CallsOnVariable [.tan, .cot, .sec] ∨ e.DividesBy (.call .cos .var)
  | piPoles => e.CallsOnVariable [.csc] ∨ e.DividesBy (.call .sin .var)

/-- What is said of the restriction that shows in an expression. -/
def description? (text : List Char) : Option String := (restriction? text).map Restriction.text

/-- No two restrictions have the same wording. -/
lemma Restriction.text_injective : Function.Injective Restriction.text := by
  intro r s h
  cases r <;> cases s <;> simp_all [Restriction.text]

/-- So what is said tells the restriction. -/
lemma description?_eq_some_iff {text : List Char} {r : Restriction} :
    description? text = some r.text ↔ restriction? text = some r := by
  rw [description?, Option.map_eq_some_iff]
  constructor
  · rintro ⟨s, hs, htext⟩
    rwa [Restriction.text_injective htext] at hs
  · exact fun h => ⟨r, h, rfl⟩

variable {p : Phrase} {ts us rest : List Token} {e : Expr} {n : ℕ} {fs : List Fn}

/-! ## Arguments of calls -/

/-- The tokens close nothing that was opened before them, and leave nothing open. -/
def Passed (us : List Token) : Prop := ∀ depth rest,
  upToClosing depth (us ++ rest) = (upToClosing depth rest).map (us ++ ·)

lemma passed_singleton {t : Token} (hopening : t.kind ≠ .opening) (hclosing : t.kind ≠ .closing) :
    Passed [t] := by
  intro depth rest
  simp [upToClosing, hclosing]

lemma Passed.append {vs : List Token} (hus : Passed us) (hvs : Passed vs) : Passed (us ++ vs) := by
  intro depth rest
  rw [List.append_assoc, hus, hvs, Option.map_map]
  simp [Function.comp_def]

lemma upToClosing_zero {t : Token} (ht : t.kind = .closing) (ts : List Token) :
    upToClosing 0 (t :: ts) = some [] := by
  simp [upToClosing, ht]

/-- In a group one more parenthesis is open. -/
lemma Passed.enclosed {o c : Token} (ho : o.kind = .opening) (hus : Passed us)
    (hc : c.kind = .closing) : Passed (o :: (us ++ [c])) := by
  intro depth rest
  have hopening : upToClosing depth (o :: (us ++ c :: rest)) =
      (upToClosing (depth + 1) (us ++ c :: rest)).map (o :: ·) := by simp [upToClosing, ho]
  have hclosing : upToClosing (depth + 1) (c :: rest) = (upToClosing depth rest).map (c :: ·) := by
    simp [upToClosing, hc]
  rw [List.cons_append, List.append_assoc, List.singleton_append, hopening, hus, hclosing,
    Option.map_map, Option.map_map]
  simp [Function.comp_def]

/-- **What is in a phrase closes nothing that was opened before it.** -/
lemma passed_of_derives (h : Derives p us e n) : Passed us := by
  induction h with
  | ofTerm _ ih | ofSigned _ ih | ofPower _ ih | ofPrimary _ ih => exact ih
  | sum op t _ _ ht _ ihl ihr | product op t _ _ ht _ ihl ihr =>
      exact ihl.append ((passed_singleton (by simp [ht.1]) (by simp [ht.1])).append ihr)
  | raise t _ ht _ ihb ihe =>
      have hkind : t.kind = .operator := ht.elim And.left And.left
      exact ihb.append ((passed_singleton (by simp [hkind]) (by simp [hkind])).append ihe)
  | sign s t ht _ ih => exact (passed_singleton (by simp [ht.1]) (by simp [ht.1])).append ih
  | number t ht => exact passed_singleton (by simp [ht]) (by simp [ht])
  | var t ht _ => exact passed_singleton (by simp [ht]) (by simp [ht])
  | constant c t ht _ => exact passed_singleton (by simp [ht]) (by simp [ht])
  | group o c ho _ hc ih => exact ih.enclosed ho hc
  | call f t o c ht _ ho _ hc ih =>
      exact (passed_singleton (by simp [ht]) (by simp [ht])).append (ih.enclosed ho hc)

lemma argument?_of_group {o c : Token} (ho : o.kind = .opening) (h : Derives .expression us e n)
    (hc : c.kind = .closing) : argument? (o :: (us ++ c :: rest)) = some us := by
  rw [argument?, if_pos ho, passed_of_derives h, upToClosing_zero hc, Option.map_some,
    List.append_nil]

/-- An argument stands behind one of the names. -/
lemma mem_callArguments_iff : us ∈ callArguments fs ts ↔ ∃ before t after,
    ts = before ++ t :: after ∧ namesOneOf fs t = true ∧ argument? after = some us := by
  induction ts with
  | nil => simp [callArguments]
  | cons u ts ih =>
      rw [callArguments, List.mem_append, ih]
      constructor
      · rintro (hfirst | ⟨before, t, after, rfl, ht, hafter⟩)
        · split_ifs at hfirst with hu
          · exact ⟨[], u, ts, rfl, hu, by simpa using hfirst⟩
          · simp at hfirst
        · exact ⟨u :: before, t, after, rfl, ht, hafter⟩
      · rintro ⟨before, t, after, hts, ht, hafter⟩
        cases before with
        | nil =>
            obtain ⟨rfl, rfl⟩ := List.cons.inj hts
            exact .inl (by simp [ht, hafter])
        | cons w before =>
            obtain ⟨rfl, rfl⟩ := List.cons.inj hts
            exact .inr ⟨before, t, after, rfl, ht, hafter⟩

lemma namesOneOf_iff {t : Token} :
    namesOneOf fs t = true ↔ t.kind = .name ∧ ∃ f ∈ fs, t.text = f.name := by
  rw [namesOneOf, Bool.and_eq_true, beq_iff_eq, List.any_eq_true]
  simp only [beq_iff_eq, eq_comm (b := t.text)]

/-- **What is found as an argument is the argument of a call in the tree.** -/
lemma call_of_mem_callArguments (h : Derives p ts e n) (hus : us ∈ callArguments fs ts) :
    ∃ f ∈ fs, ∃ arg m, Derives .expression us arg m ∧ .call f arg ∈ e.parts := by
  obtain ⟨before, t, after, hts, ht, hafter⟩ := mem_callArguments_iff.1 hus
  obtain ⟨ht, f, hf, hname⟩ := namesOneOf_iff.1 ht
  obtain ⟨o, vs, c, rest, arg, m, rfl, ho, hvs, hc, hmem⟩ := (h.hasRoles hts).call_cases ht hname
  obtain rfl : vs = us := Option.some.inj ((argument?_of_group ho hvs hc).symm.trans hafter)
  exact ⟨f, hf, arg, m, hvs, hmem⟩

/-- **The argument of every call in the tree is found.** -/
lemma exists_mem_callArguments (h : Derives p ts e n) {f : Fn} (hf : f ∈ fs) {arg : Expr}
    (hmem : .call f arg ∈ e.parts) :
    ∃ us ∈ callArguments fs ts, ∃ m, Derives .expression us arg m := by
  obtain ⟨before, _, us, m, rfl, ⟨t, o, c, rest, rfl, ht, hname, ho, hc⟩, hus⟩ :=
    h.exists_beginsCall hmem
  exact ⟨us, mem_callArguments_iff.2 ⟨before, t, _, rfl, namesOneOf_iff.2 ⟨ht, f, hf, hname⟩,
    argument?_of_group ho hus hc⟩, m, hus⟩

lemma isVariable_iff {t : Token} : isVariable t = true ↔ t.IsVariable := by
  simp [isVariable, Token.IsVariable]

/-- The variable is among the tokens of an argument exactly if it is in its tree. -/
lemma any_isVariable_iff (h : Derives p us e n) : us.any isVariable = true ↔ .var ∈ e.parts := by
  rw [h.var_mem_parts_iff, List.any_eq_true]
  simp only [isVariable_iff]

/-- A single token that is the variable is the variable. -/
lemma eq_var_of_single (h : Derives .expression us e n)
    (hsingle : (us.length == 1 && us.any isVariable) = true) : e = .var := by
  rw [Bool.and_eq_true, beq_iff_eq, List.length_eq_one_iff] at hsingle
  obtain ⟨⟨t, rfl⟩, ht⟩ := hsingle
  obtain ⟨hname, hx⟩ := isVariable_iff.1 (by simpa using ht)
  exact (h.unique (.ofTerm (.ofSigned (.ofPower (.ofPrimary (.var t hname hx)))))).1

/-- **What calls restrict is in the tree**, and is found if it is there. -/
lemma argumentRestriction?_cases (h : Derives p ts e n) (fs : List Fn)
    (simple compound : Restriction) :
    (argumentRestriction? fs simple compound ts = some simple ∧ e.CallsOnVariable fs ∧
        e.CallsOn fs) ∨
      (argumentRestriction? fs simple compound ts = some compound ∧ e.CallsOn fs) ∨
      (argumentRestriction? fs simple compound ts = none ∧ ¬ e.CallsOn fs) := by
  unfold argumentRestriction?
  dsimp only
  split_ifs with hsingle hany
  · obtain ⟨us, hus, hsingle⟩ := List.any_eq_true.1 hsingle
    obtain ⟨f, hf, arg, m, harg, hmem⟩ := call_of_mem_callArguments h hus
    obtain rfl := eq_var_of_single harg hsingle
    exact .inl ⟨rfl, ⟨f, hf, hmem⟩, f, hf, .var, hmem, Expr.mem_parts_self _⟩
  · obtain ⟨us, hus, hvar⟩ := List.any_eq_true.1 hany
    obtain ⟨f, hf, arg, m, harg, hmem⟩ := call_of_mem_callArguments h hus
    exact .inr (.inl ⟨rfl, f, hf, arg, hmem, (any_isVariable_iff harg).1 hvar⟩)
  · refine .inr (.inr ⟨rfl, ?_⟩)
    rintro ⟨f, hf, arg, hmem, hvar⟩
    obtain ⟨us, hus, m, harg⟩ := exists_mem_callArguments h hf hmem
    exact hany (List.any_eq_true.2 ⟨us, hus, (any_isVariable_iff harg).2 hvar⟩)

/-! ## Patterns in the text -/

lemma infix_of_occurs {pattern text : List Char} (h : occurs pattern text = true) :
    pattern <:+: text := by
  induction text with
  | nil =>
      obtain rfl := List.isEmpty_iff.1 h
      exact List.nil_infix
  | cons c text ih =>
      rw [occurs, Bool.or_eq_true] at h
      rcases h with h | h
      · exact (List.isPrefixOf_iff_prefix.1 h).isInfix
      · exact (ih h).trans (List.suffix_cons c text).isInfix

/-- A pattern that occurs as a word has no character of a word in front of it. -/
lemma split_of_occursAsWord {pattern text : List Char} {inWord : Bool}
    (h : occursAsWord pattern inWord text = true) : ∃ front rest,
      text = front ++ (pattern ++ rest) ∧ (front = [] → inWord = false) ∧
        ∀ c ∈ front.getLast?, isWordChar c = false := by
  induction text generalizing inWord with
  | nil => cases h
  | cons c text ih =>
      rw [occursAsWord, Bool.or_eq_true, Bool.and_eq_true, Bool.not_eq_true'] at h
      rcases h with ⟨hword, hprefix⟩ | h
      · obtain ⟨rest, hrest⟩ := List.isPrefixOf_iff_prefix.1 hprefix
        exact ⟨[], rest, hrest.symm, fun _ => hword, by simp⟩
      · obtain ⟨front, rest, rfl, hfirst, hlast⟩ := ih h
        refine ⟨c :: front, rest, rfl, by simp, fun d hd => ?_⟩
        cases front with
        | nil =>
            obtain rfl : c = d := by simpa using hd
            exact hfirst rfl
        | cons f front => exact hlast d (by rwa [List.getLast?_cons_cons] at hd)

variable {q : ℕ} {front tail : List Char}

/-- Behind a slash the text splits into the tokens behind the sign of a division. -/
lemma splits_behind_slash (h : Splits q (front ++ '/' :: tail) ts) :
    ∃ before t after q', ts = before ++ t :: after ∧ t.Spells ['/'] ∧ Splits q' tail after := by
  obtain ⟨before, after, q', rfl, hafter⟩ := h.cut fun k left right hlex hleft _ hright hprefix => by
    obtain ⟨c, right, rfl⟩ := List.exists_cons_of_ne_nil hright
    obtain rfl : c = '/' := (List.cons_prefix_cons.1 hprefix).1
    have hslash : '/' ∈ left ++ '/' :: right := by simp
    rcases hlex.of_mem_symbols hslash (by decide) with ⟨htext, -⟩ | ⟨-, hstar, -⟩
    · rcases List.append_eq_singleton_iff.1 htext with ⟨hnil, -⟩ | ⟨-, hnil⟩
      · exact hleft hnil
      · cases hnil
    · exact absurd hstar (by decide)
  have htaken : lexeme? (['/'] ++ tail) = some (.operator, ['/'], tail) :=
    lexeme?_of_symbolKind? rfl fun hstar => absurd hstar (by decide)
  obtain ⟨us, rfl, hus⟩ := Splits.taken_cases htaken hafter
  exact ⟨before, _, us, _, rfl, ⟨rfl, rfl⟩, hus⟩

/-- At the beginning of a word the text may be cut. -/
lemma splits_at_word {c : Char} (hc : isLetter c = true)
    (hfront : ∀ d ∈ front.getLast?, isWordChar d = false) (h : Splits q (front ++ c :: tail) ts) :
    ∃ before after q', ts = before ++ after ∧ Splits q' (c :: tail) after := by
  refine h.cut fun k left right hlex hleft hsuffix hright hprefix => ?_
  obtain ⟨d, right, rfl⟩ := List.exists_cons_of_ne_nil hright
  obtain rfl : d = c := (List.cons_prefix_cons.1 hprefix).1
  obtain ⟨more, rfl⟩ := hsuffix
  have hlast : left.getLast hleft ∈ (more ++ left).getLast? := by
    rw [List.getLast?_append_of_ne_nil more hleft, List.getLast?_eq_some_getLast hleft]
    rfl
  have hletter : isLetter (left.getLast hleft) = true :=
    hlex.of_mem_letter (by simp) hc _ (List.mem_append_left _ (List.getLast_mem hleft))
  have hword := hfront _ hlast
  rw [isWordChar, isAlphanumeric_of_isLetter hletter] at hword
  cases hword

/-- Nothing merges with a parenthesis behind it. -/
lemma merges_parenthesis (left tail : List Char) {c : Char} (hc : c = '(' ∨ c = ')') :
    merges left (c :: tail) = false := by
  have hjoining : isJoining c = false ∧ c ≠ '*' := by
    rcases hc with rfl | rfl <;> decide +kernel
  unfold merges
  split_ifs
  · exact hjoining.1
  · simp [hjoining.2]

/-- The call of a function on the variable is split into the tokens of such a call. -/
lemma beginsCall_of_callOfVariable {f : Fn} (h : Splits q (callOfVariable f ++ tail) ts) :
    ∃ v : Token, v.IsVariable ∧ BeginsCall f [v] ts := by
  have htext : callOfVariable f ++ tail =
      f.name ++ (['('] ++ (variableName ++ ([')'] ++ tail))) := by
    simp [callOfVariable]
  have hvariable : Lexeme .name variableName := .name (by decide) (List.all_eq_true.1 rfl)
  have hname := lexeme?_append_of_not_merges (NormalForm.lexeme_function_name f)
    (merges_parenthesis f.name (variableName ++ ([')'] ++ tail)) (.inl rfl))
  have hopening : lexeme? (['('] ++ (variableName ++ ([')'] ++ tail))) =
      some (.opening, ['('], variableName ++ ([')'] ++ tail)) :=
    lexeme?_of_symbolKind? rfl fun hstar => absurd hstar (by decide)
  have hvar := lexeme?_append_of_not_merges hvariable
    (merges_parenthesis variableName tail (.inr rfl))
  have hclosing : lexeme? ([')'] ++ tail) = some (.closing, [')'], tail) :=
    lexeme?_of_symbolKind? rfl fun hstar => absurd hstar (by decide)
  rw [htext] at h
  obtain ⟨_, rfl, hbehindName⟩ := Splits.taken_cases hname h
  obtain ⟨_, rfl, hbehindOpening⟩ := Splits.taken_cases hopening hbehindName
  obtain ⟨_, rfl, hbehindVar⟩ := Splits.taken_cases hvar hbehindOpening
  obtain ⟨us, rfl, -⟩ := Splits.taken_cases hclosing hbehindVar
  exact ⟨_, ⟨rfl, rfl⟩, _, _, _, us, rfl, rfl, rfl, rfl, rfl⟩

/-! ## What the patterns show -/

variable {text : List Char}

lemma exists_name_eq (f : Fn) : ∃ c name, f.name = c :: name ∧ isLetter c = true := by
  cases f <;> exact ⟨_, _, rfl, by decide⟩

/-- **A function that is called on the variable in the text** is so called in the tree. -/
lemma call_of_callsOnVariable {f : Fn} (h : Derives .expression ts e n) (hsplits : Splits q text ts)
    (hf : callsOnVariable text f = true) : .call f .var ∈ e.parts := by
  obtain ⟨front, tail, rfl, -, hfront⟩ := split_of_occursAsWord hf
  obtain ⟨c, name, hname, hc⟩ := exists_name_eq f
  have hword : callOfVariable f ++ tail = c :: (name ++ '(' :: variableName ++ [')'] ++ tail) := by
    simp [callOfVariable, hname]
  rw [hword] at hsplits
  obtain ⟨before, after, q', rfl, hafter⟩ := splits_at_word hc hfront hsplits
  rw [← hword] at hafter
  obtain ⟨v, hv, hcall⟩ := beginsCall_of_callOfVariable hafter
  exact h.call_var_mem_parts hv hcall

/-- A phrase that begins with the letter of the variable begins with the variable, as no other name
begins so. -/
lemma isVariable_of_head {v : Token} {vs : List Token} (h : Derives p (v :: vs) e n)
    (hkind : v.kind = .name) (hhead : v.text.head? = some 'x') : v.IsVariable := by
  have hthrough := h.through? 0
  rw [Stage.through?_cons, Option.bind_eq_some_iff] at hthrough
  obtain ⟨s, hs, -⟩ := hthrough
  cases Stage.next?_eq_some_iff.1 hs with
  | var ht hx => exact ⟨ht, hx⟩
  | constant c _ hc => rw [hc] at hhead; cases c <;> cases hhead
  | function f _ hf => rw [hf] at hhead; cases f <;> cases hhead
  | number ht | opening ht => rw [hkind] at ht; cases ht
  | sign ht => simp [(signOf?_eq_some_iff.1 ht).1] at hkind

/-- The operand behind the sign of a division, if it begins with a name. -/
lemma exists_operand {before after : List Token} {t u : Token}
    (h : Derives p (before ++ t :: u :: after) e n) (ht : t.Spells ['/']) (hu : u.kind = .name) :
    ∃ us rest b m, u :: after = u :: us ++ rest ∧ Derives .primary (u :: us) b m ∧
      e.DividesBy b := by
  obtain ⟨vs, rest, l, r, m, hafter, hvs, hmem⟩ := (h.hasRoles rfl).division_cases ht
  obtain ⟨v, vs, rfl⟩ := List.exists_cons_of_ne_nil hvs.ne_nil
  obtain ⟨rfl, rfl⟩ := List.cons.inj hafter
  obtain ⟨us, more, b, k, hvs', hus, hr⟩ := hvs.signed_cases (by simp [hu])
  obtain ⟨w, us, rfl⟩ := List.exists_cons_of_ne_nil hus.ne_nil
  obtain ⟨rfl, rfl⟩ := List.cons.inj hvs'
  exact ⟨us, more ++ rest, b, k, by simp, hus, l, r, hmem, hr⟩

/-- **A division by the variable in the text** is one in the tree. -/
lemma dividesBy_var (h : Derives .expression ts e n) (hsplits : Splits q text ts)
    (hslash : occurs ('/' :: variableName) text = true) : e.DividesBy .var := by
  obtain ⟨front, tail, rfl⟩ := infix_of_occurs hslash
  have htext : front ++ '/' :: variableName ++ tail = front ++ '/' :: 'x' :: tail := by
    simp [variableName]
  rw [htext] at hsplits
  obtain ⟨before, t, after, q', rfl, ht, hafter⟩ := splits_behind_slash hsplits
  have hx : isLetter 'x' = true := by decide
  have hname : lexeme? (('x' :: tail).takeWhile isLetter ++ ('x' :: tail).dropWhile isLetter) =
      some (.name, ('x' :: tail).takeWhile isLetter, ('x' :: tail).dropWhile isLetter) := by
    rw [List.takeWhile_append_dropWhile]
    exact lexeme?_of_isLetter hx (not_isDigit_of_isLetter hx) tail
  rw [← List.takeWhile_append_dropWhile (p := isLetter) (l := 'x' :: tail)] at hafter
  obtain ⟨us, rfl, -⟩ := Splits.taken_cases hname hafter
  obtain ⟨vs, rest, b, m, -, hoperand, hdivides⟩ := exists_operand h ht rfl
  have hvar := isVariable_of_head hoperand rfl (by simp [List.takeWhile_cons_of_pos hx])
  rwa [hoperand.primary_eq_var hvar] at hdivides

/-- **A division by a function of the variable in the text** is one in the tree. -/
lemma dividesBy_call {f : Fn} (h : Derives .expression ts e n) (hsplits : Splits q text ts)
    (hslash : dividesOneBy text f = true) : e.DividesBy (.call f .var) := by
  obtain ⟨front, tail, rfl⟩ := infix_of_occurs hslash
  have htext : front ++ '1' :: '/' :: callOfVariable f ++ tail =
      (front ++ ['1']) ++ '/' :: (callOfVariable f ++ tail) := by simp
  rw [htext] at hsplits
  obtain ⟨before, t, after, q', rfl, ht, hafter⟩ := splits_behind_slash hsplits
  obtain ⟨v, hv, hcall⟩ := beginsCall_of_callOfVariable hafter
  obtain ⟨u, after, rfl⟩ := hcall.exists_cons
  obtain ⟨us, rest, b, m, happend, hoperand, hdivides⟩ := exists_operand h ht hcall.head.1
  rw [happend] at hcall
  rwa [hoperand.primary_eq_call hv hcall] at hdivides

/-- What is read off the text shows in the tree. -/
lemma textRestriction?_shows {r : Restriction} (h : Derives .expression ts e n)
    (hsplits : Splits q text ts) (hr : textRestriction? text = some r) :
    r.Shows e ∧ r ∉ [.rootOfVariable, .rootArgument, .logOfVariable, .logArgument] := by
  unfold textRestriction? at hr
  split_ifs at hr with hquotient hhalf hfull
  · obtain rfl := Option.some.inj hr
    exact ⟨dividesBy_var h hsplits hquotient, by decide⟩
  · obtain rfl := Option.some.inj hr
    refine ⟨?_, by decide⟩
    rcases Bool.or_eq_true_iff.1 hhalf with hcalls | hdivides
    · obtain ⟨f, hf, hcall⟩ := List.any_eq_true.1 hcalls
      exact .inl ⟨f, hf, call_of_callsOnVariable h hsplits hcall⟩
    · exact .inr (dividesBy_call h hsplits hdivides)
  · obtain rfl := Option.some.inj hr
    refine ⟨?_, by decide⟩
    rcases Bool.or_eq_true_iff.1 hfull with hcall | hdivides
    · exact .inl ⟨.csc, List.mem_singleton_self _, call_of_callsOnVariable h hsplits hcall⟩
    · exact .inr (dividesBy_call h hsplits hdivides)

/-- **Restrictions show in the tree.**  Whatever is said of the domain from the text of an expression,
its tree has what the restriction is said to come from.  A root of something with the variable in it
is always told, and if there is none, so is a logarithm of such a thing. -/
theorem description?_of_readTree {limits : Limits} {c : List Char}
    (h : readTree limits c = .ok e) :
    (∀ r : Restriction, description? c = some r.text → r.Shows e) ∧
    ((description? c = some Restriction.rootOfVariable.text ∨
        description? c = some Restriction.rootArgument.text) ↔ e.CallsOn [.sqrt]) ∧
    (¬ e.CallsOn [.sqrt] →
      ((description? c = some Restriction.logOfVariable.text ∨
        description? c = some Restriction.logArgument.text) ↔ e.CallsOn [.log, .ln])) := by
  obtain ⟨ts, n, hts, hderives⟩ := derives_of_readTree h
  have hsplits := tokenizeFrom_eq_ok_iff.1 hts
  have htokens : tokensOf c = ts := by
    rw [tokensOf, hts]
  obtain ⟨us, hus, hshape⟩ := hsplits.withoutSpaces (hderives.unmerged hsplits.lexeme) 0
  have htext := fun r => textRestriction?_shows (r := r) (hderives.congr hshape) hus
  simp only [description?_eq_some_iff]
  unfold restriction? tokenRestriction?
  rw [htokens]
  rcases argumentRestriction?_cases hderives [.sqrt] .rootOfVariable .rootArgument with
    ⟨hroot, hcalls, hcall⟩ | ⟨hroot, hcall⟩ | ⟨hroot, hcall⟩
  · simp [hroot, hcall, Restriction.Shows, hcalls]
  · simp [hroot, hcall, Restriction.Shows]
  · rcases argumentRestriction?_cases hderives [.log, .ln] .logOfVariable .logArgument with
      ⟨hlog, hcalls, hlogCall⟩ | ⟨hlog, hlogCall⟩ | ⟨hlog, hlogCall⟩
    · simp [hroot, hcall, hlog, hlogCall, Restriction.Shows, hcalls]
    · simp [hroot, hcall, hlog, hlogCall, Restriction.Shows]
    · -- no call shows, so what is found is read off the text
      rw [hroot, hlog]
      refine ⟨fun r hr => (htext r hr).1, ⟨?_, fun hcalls => absurd hcalls hcall⟩,
        fun _ => ⟨?_, fun hcalls => absurd hcalls hlogCall⟩⟩
      · rintro (hr | hr) <;> exact absurd (htext _ hr).2 (by decide)
      · rintro (hr | hr) <;> exact absurd (htext _ hr).2 (by decide)

/-- A quotient by a cosine, with blanks around its sign, and a logarithm of a number. -/
theorem description?_of_readTree_poles :
    ∃ e, readTree {} "1 / cos(x) + ln (2)".toList = .ok e ∧
      description? "1 / cos(x) + ln (2)".toList =
        some "x ≠ π/2 + nπ, where n is any integer" ∧
      Restriction.halfPiPoles.Shows e ∧ ¬ e.CallsOn [.sqrt] ∧ ¬ e.CallsOn [.log, .ln] := by
  have hread : (readTree {} "1 / cos(x) + ln (2)".toList).toOption.isSome = true := by
    decide +kernel
  obtain ⟨e, he⟩ := exists_ok_of_isSome hread
  have hfound : restriction? "1 / cos(x) + ln (2)".toList = some .halfPiPoles := by decide +kernel
  obtain ⟨hshows, hroots, hlogs⟩ := description?_of_readTree he
  simp only [description?_eq_some_iff, hfound] at hshows hroots hlogs
  have hroot : ¬ e.CallsOn [.sqrt] := by rw [← hroots]; decide
  refine ⟨e, he, description?_eq_some_iff.2 hfound, hshows _ rfl, hroot, ?_⟩
  rw [← hlogs hroot]
  decide

end Domain

end CurveSketch
