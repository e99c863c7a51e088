import CurveSketch.Expr.Parse
import Mathlib.Tactic.Common

/-!
# The grammar of expressions

What a list of tokens says, told without a reader: which lists are phrases of which sort, the tree
of each, and how deeply it is nested.

* `Phrase` — the sorts of phrases, from the loosest to the tightest.
* `Derives` — `Derives p ts e n` says that the tokens `ts` are a phrase of sort `p`, that their tree
  is `e`, and that parentheses, signs and exponents are `n` deep in it at the deepest point.
* `additive?_eq_some_iff` and its companions — the operators a reader looks for are the ones the
  grammar names.
* `Derives.primary_head`, `Derives.power_head` — primaries and powers do not begin with an operator,
  which is what tells a sign from the operand behind it.
* `Derives.congr` — only kinds and texts of the tokens matter, not their places.

A sum is a term, or a sum, a plus or minus sign and a term; so it is a row of terms grouped from the
left.  Products are rows of signed factors in the same way.
-/

namespace CurveSketch

open Parse

/-- The sorts of phrases, from the loosest to the tightest. -/
inductive Phrase where
  | expression
  | term
  | signed
  | power
  | primary
  deriving DecidableEq, Repr

/-- The token is an operator with the given text. -/
def Token.Spells (t : Token) (text : List Char) : Prop := t.kind = .operator ∧ t.text = text

/-- The token is the variable. -/
def Token.IsVariable (t : Token) : Prop := t.kind = .name ∧ t.text = variableName

/-- How a sign is written. -/
def Sign.symbol : Sign → List Char
  | .plus => ['+']
  | .minus => ['-']

/-- The tokens are a phrase of the given sort, with the given tree and depth of nesting. -/
inductive Derives : Phrase → List Token → Expr → ℕ → Prop
  | ofTerm {ts e n} (h : Derives .term ts e n) : Derives .expression ts e n
  | sum {ts us l r m n} (op : Operator) (t : Token) (left : Derives .expression ts l m)
      (hop : op = .add ∨ op = .sub) (ht : t.Spells op.symbol) (right : Derives .term us r n) :
      Derives .expression (ts ++ t :: us) (.binary op l r) (max m n)
  | ofSigned {ts e n} (h : Derives .signed ts e n) : Derives .term ts e n
  | product {ts us l r m n} (op : Operator) (t : Token) (left : Derives .term ts l m)
      (hop : op = .mul ∨ op = .div) (ht : t.Spells op.symbol) (right : Derives .signed us r n) :
      Derives .term (ts ++ t :: us) (.binary op l r) (max m n)
  | ofPower {ts e n} (h : Derives .power ts e n) : Derives .signed ts e n
  | sign {ts e n} (s : Sign) (t : Token) (ht : t.Spells s.symbol) (h : Derives .signed ts e n) :
      Derives .signed (t :: ts) (.signed s e) (n + 1)
  | ofPrimary {ts e n} (h : Derives .primary ts e n) : Derives .power ts e n
  | raise {ts us b e m n} (t : Token) (base : Derives .primary ts b m)
      (ht : t.Spells ['*', '*'] ∨ t.Spells ['^']) (exponent : Derives .signed us e n) :
      Derives .power (ts ++ t :: us) (.binary .pow b e) (max m (n + 1))
  | number (t : Token) (ht : t.kind = .number) :
      Derives .primary [t] (.number (numeral t.text)) 0
  | var (t : Token) (ht : t.kind = .name) (hx : t.text = variableName) :
      Derives .primary [t] .var 0
  | constant (c : Constant) (t : Token) (ht : t.kind = .name) (hc : t.text = c.name) :
      Derives .primary [t] (.number (constantValue c)) 0
  | group {ts e n} (o c : Token) (ho : o.kind = .opening) (h : Derives .expression ts e n)
      (hc : c.kind = .closing) : Derives .primary (o :: (ts ++ [c])) e (n + 1)
  | call {ts e n} (f : Fn) (t o c : Token) (ht : t.kind = .name) (hf : t.text = f.name)
      (ho : o.kind = .opening) (h : Derives .expression ts e n) (hc : c.kind = .closing) :
      Derives .primary (t :: o :: (ts ++ [c])) (.call f e) (n + 1)

/-! ## Operators -/

lemma isOperator_iff {t : Token} {text : List Char} :
    t.isOperator text = true ↔ t.Spells text := by
  simp [Token.isOperator, Token.Spells]

/-- An operator has one text. -/
lemma Token.Spells.unique {t : Token} {text text' : List Char} (h : t.Spells text)
    (h' : t.Spells text') : text = text' := h.2.symm.trans h'.2

/-- Looking for one of two operators finds the one that is written.  `symbol` says how the things
looked for are written. -/
lemma lookup_eq_some_iff {β : Type} (symbol : β → List Char) (a b : β)
    (hne : symbol a ≠ symbol b) {t : Token} {c : β} :
    (if t.isOperator (symbol a) then some a
      else if t.isOperator (symbol b) then some b else none) = some c
      ↔ (c = a ∨ c = b) ∧ t.Spells (symbol c) := by
  split_ifs with ha hb
  · rw [isOperator_iff] at ha
    constructor
    · rintro ⟨⟩
      exact ⟨Or.inl rfl, ha⟩
    · rintro ⟨rfl | rfl, h⟩
      · rfl
      · exact absurd (ha.unique h) hne
  · rw [isOperator_iff] at ha hb
    constructor
    · rintro ⟨⟩
      exact ⟨Or.inr rfl, hb⟩
    · rintro ⟨rfl | rfl, h⟩
      · exact absurd h ha
      · rfl
  · rw [isOperator_iff] at ha hb
    constructor
    · rintro ⟨⟩
    · rintro ⟨rfl | rfl, h⟩
      · exact absurd h ha
      · exact absurd h hb

lemma signOf?_eq_some_iff {t : Token} {s : Sign} : signOf? t = some s ↔ t.Spells s.symbol := by
  have h : signOf? t = some s ↔ (s = .plus ∨ s = .minus) ∧ t.Spells s.symbol :=
    lookup_eq_some_iff Sign.symbol .plus .minus (by decide)
  rw [h]
  cases s <;> simp

lemma additive?_eq_some_iff {t : Token} {op : Operator} :
    additive? t = some op ↔ (op = .add ∨ op = .sub) ∧ t.Spells op.symbol :=
  lookup_eq_some_iff Operator.symbol .add .sub (by decide)

lemma multiplicative?_eq_some_iff {t : Token} {op : Operator} :
    multiplicative? t = some op ↔ (op = .mul ∨ op = .div) ∧ t.Spells op.symbol :=
  lookup_eq_some_iff Operator.symbol .mul .div (by decide)

lemma isPower_iff {t : Token} :
    isPower t = true ↔ t.Spells ['*', '*'] ∨ t.Spells ['^'] := by
  simp [isPower, isOperator_iff]

/-! ## The first token -/

lemma Derives.primary_head {ts : List Token} {e : Expr} {n : ℕ} (h : Derives .primary ts e n) :
    ∃ t tail, ts = t :: tail ∧ t.kind ≠ .operator := by
  cases h with
  | number t ht => exact ⟨t, [], rfl, by simp [ht]⟩
  | var t ht _ => exact ⟨t, [], rfl, by simp [ht]⟩
  | constant c t ht _ => exact ⟨t, [], rfl, by simp [ht]⟩
  | group o c ho _ _ => exact ⟨o, _, rfl, by simp [ho]⟩
  | call f t o c ht _ _ _ _ => exact ⟨t, _, rfl, by simp [ht]⟩

/-- A power does not begin with an operator, so a sign in front of one is no part of it. -/
lemma Derives.power_head {ts : List Token} {e : Expr} {n : ℕ} (h : Derives .power ts e n) :
    ∃ t tail, ts = t :: tail ∧ t.kind ≠ .operator := by
  cases h with
  | ofPrimary h => exact h.primary_head
  | raise t base _ _ =>
      obtain ⟨t₀, tail, rfl, h₀⟩ := base.primary_head
      exact ⟨t₀, _, rfl, h₀⟩

/-! ## Places do not matter -/

lemma Token.Spells.congr {t u : Token} {text : List Char} (h : t.Spells text)
    (hkind : u.kind = t.kind) (htext : u.text = t.text) : u.Spells text :=
  ⟨hkind.trans h.1, htext.trans h.2⟩

/-- A list with the kinds and texts of another splits where the other does. -/
lemma split_of_shapes (ts : List Token) {rest us : List Token} {t : Token}
    (h : us.map Token.shape = (ts ++ t :: rest).map Token.shape) :
    ∃ as u bs, us = as ++ u :: bs ∧ as.map Token.shape = ts.map Token.shape ∧
      u.kind = t.kind ∧ u.text = t.text ∧ bs.map Token.shape = rest.map Token.shape := by
  rw [List.map_append, List.map_cons] at h
  obtain ⟨as, cs, rfl, ha, hc⟩ := List.map_eq_append_iff.1 h
  obtain ⟨u, bs, rfl, hu, hb⟩ := List.map_eq_cons_iff.1 hc
  simp only [Token.shape, Prod.mk.injEq] at hu
  exact ⟨as, u, bs, rfl, ha, hu.1, hu.2, hb⟩

/-- Tokens of the same kinds and texts are phrases of the same sort, with the same tree. -/
lemma Derives.congr {p : Phrase} {ts us : List Token} {e : Expr} {n : ℕ} (h : Derives p ts e n)
    (hs : us.map Token.shape = ts.map Token.shape) : Derives p us e n := by
  induction h generalizing us with
  | ofTerm _ ih => exact .ofTerm (ih hs)
  | ofSigned _ ih => exact .ofSigned (ih hs)
  | ofPower _ ih => exact .ofPower (ih hs)
  | ofPrimary _ ih => exact .ofPrimary (ih hs)
  | sum op t _ hop ht _ ihl ihr =>
      obtain ⟨as, u, bs, rfl, ha, hk, htext, hb⟩ := split_of_shapes _ hs
      exact .sum op u (ihl ha) hop (ht.congr hk htext) (ihr hb)
  | product op t _ hop ht _ ihl ihr =>
      obtain ⟨as, u, bs, rfl, ha, hk, htext, hb⟩ := split_of_shapes _ hs
      exact .product op u (ihl ha) hop (ht.congr hk htext) (ihr hb)
  | raise t _ ht _ ihb ihe =>
      obtain ⟨as, u, bs, rfl, ha, hk, htext, hb⟩ := split_of_shapes _ hs
      exact .raise u (ihb ha) (ht.imp (·.congr hk htext) (·.congr hk htext)) (ihe hb)
  | sign s t ht _ ih =>
      obtain ⟨as, u, bs, rfl, ha, hk, htext, hb⟩ := split_of_shapes [] hs
      rw [List.map_eq_nil_iff.1 ha, List.nil_append]
      exact .sign s u (ht.congr hk htext) (ih hb)
  | number t ht =>
      obtain ⟨as, u, bs, rfl, ha, hk, htext, hb⟩ := split_of_shapes [] hs
      rw [List.map_eq_nil_iff.1 ha, List.map_eq_nil_iff.1 hb, List.nil_append, ← htext]
      exact .number u (hk.trans ht)
  | var t ht hx =>
      obtain ⟨as, u, bs, rfl, ha, hk, htext, hb⟩ := split_of_shapes [] hs
      rw [List.map_eq_nil_iff.1 ha, List.map_eq_nil_iff.1 hb, List.nil_append]
      exact .var u (hk.trans ht) (htext.trans hx)
  | constant c t ht hc =>
      obtain ⟨as, u, bs, rfl, ha, hk, htext, hb⟩ := split_of_shapes [] hs
      rw [List.map_eq_nil_iff.1 ha, List.map_eq_nil_iff.1 hb, List.nil_append]
      exact .constant c u (hk.trans ht) (htext.trans hc)
  | group o c ho _ hc ih =>
      obtain ⟨as, v, bs, rfl, ha, hv, -, hb⟩ := split_of_shapes (o :: _) hs
      obtain ⟨as', u, ds, rfl, ha', hu, -, hd⟩ := split_of_shapes [] ha
      rw [List.map_eq_nil_iff.1 ha', List.map_eq_nil_iff.1 hb, List.nil_append, List.cons_append]
      exact .group u v (hu.trans ho) (ih hd) (hv.trans hc)
  | call f t o c ht hf ho _ hc ih =>
      obtain ⟨as, v, bs, rfl, ha, hv, -, hb⟩ := split_of_shapes (t :: o :: _) hs
      obtain ⟨as', u, ds, rfl, ha', hu, -, hd⟩ := split_of_shapes [t] ha
      obtain ⟨w, rfl, hw⟩ := List.map_eq_singleton_iff.1 ha'
      simp only [Token.shape, Prod.mk.injEq] at hw
      rw [List.map_eq_nil_iff.1 hb]
      exact .call f w u v (hw.1.trans ht) (hw.2.trans hf) (hu.trans ho) (ih hd) (hv.trans hc)

end CurveSketch
