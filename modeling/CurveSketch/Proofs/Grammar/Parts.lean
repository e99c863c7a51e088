import CurveSketch.Proofs.Grammar.Stages
import CurveSketch.Proofs.Reading

/-!
# Parts of an expression and stretches of its tokens

What is in the tree of a phrase stands somewhere among its tokens, and the other way round.

* `Expr.parts` — all expressions in an expression.
* `Derives.var_mem_parts_iff` — the variable is in the tree exactly if it is among the tokens.
* `Role`, **`Derives.hasRoles`** — what a token is in an expression: it stands in front of a phrase, and
  what the two make is in the tree.  `Role.call_cases` and `Role.division_cases` say so of the names
  of functions and of the signs of divisions.
* `BeginsCall`, **`Derives.exists_beginsCall`** — every call in the tree is begun by a name.
* `Derives.signed_cases` — an operand without a sign is a primary, or a power of one.
-/

namespace CurveSketch

open Parse

/-- All expressions in an expression, itself among them. -/
def Expr.parts : Expr → List Expr
  | number v => [number v]
  | var => [var]
  | signed s e => signed s e :: e.parts
  | binary op l r => binary op l r :: (l.parts ++ r.parts)
  | call f e => call f e :: e.parts

lemma Expr.mem_parts_self (e : Expr) : e ∈ e.parts := by
  cases e <;> simp [parts]

/-- An element of a list in two parts is in the first of them, between them, or in the second. -/
lemma append_cons_cases {α : Type} {as bs before after : List α} {a b : α}
    (h : as ++ a :: bs = before ++ b :: after) :
    (∃ more, as = before ++ b :: more ∧ after = more ++ a :: bs) ∨
      (b = a ∧ before = as ∧ after = bs) ∨
      ∃ more, before = as ++ a :: more ∧ bs = more ++ b :: after := by
  rcases List.append_eq_append_iff.1 h with ⟨more, hbefore, hbs⟩ | ⟨more, has, hafter⟩
  · cases more with
    | nil =>
        obtain ⟨rfl, rfl⟩ := List.cons.inj hbs
        exact .inr (.inl ⟨rfl, by simpa using hbefore, rfl⟩)
    | cons c more =>
        obtain ⟨rfl, rfl⟩ := List.cons.inj hbs
        exact .inr (.inr ⟨more, hbefore, rfl⟩)
  · cases more with
    | nil =>
        obtain ⟨rfl, rfl⟩ := List.cons.inj hafter
        exact .inr (.inl ⟨rfl, by simpa using has.symm, rfl⟩)
    | cons c more =>
        obtain ⟨rfl, rfl⟩ := List.cons.inj hafter
        exact .inl ⟨more, has, rfl⟩

/-! ## The roles of tokens -/

/-- What a token is in an expression, with the tokens behind it: the phrase that it stands in front of
is among them, and what the two make is in the tree. -/
inductive Role (e : Expr) (t : Token) (after : List Token) : Prop
  | sum {us l r m} (op : Operator) (hop : op = .add ∨ op = .sub) (ht : t.Spells op.symbol)
      (right : Derives .term us r m) (hmem : .binary op l r ∈ e.parts) (hus : us <+: after)
  | product {us l r m} (op : Operator) (hop : op = .mul ∨ op = .div) (ht : t.Spells op.symbol)
      (right : Derives .signed us r m) (hmem : .binary op l r ∈ e.parts) (hus : us <+: after)
  | power {us l r m} (ht : t.Spells ['*', '*'] ∨ t.Spells ['^'])
      (exponent : Derives .signed us r m) (hmem : .binary .pow l r ∈ e.parts) (hus : us <+: after)
  | sign {us r m} (s : Sign) (ht : t.Spells s.symbol) (operand : Derives .signed us r m)
      (hmem : .signed s r ∈ e.parts) (hus : us <+: after)
  | number (ht : t.kind = .number) (hmem : .number (numeral t.text) ∈ e.parts)
  | var (ht : t.kind = .name) (hx : t.text = variableName) (hmem : .var ∈ e.parts)
  | constant (c : Constant) (ht : t.kind = .name) (hc : t.text = c.name)
      (hmem : .number (constantValue c) ∈ e.parts)
  | function {o us c arg m} (f : Fn) (ht : t.kind = .name) (hf : t.text = f.name)
      (ho : o.kind = .opening) (argument : Derives .expression us arg m) (hc : c.kind = .closing)
      (hmem : .call f arg ∈ e.parts) (hus : o :: (us ++ [c]) <+: after)
  | opening {us c r m} (ht : t.kind = .opening) (inside : Derives .expression us r m)
      (hc : c.kind = .closing) (hmem : r ∈ e.parts) (hus : us ++ [c] <+: after)
  | closing (ht : t.kind = .closing)

variable {p : Phrase} {ts us before after : List Token} {t : Token} {e : Expr} {n : ℕ}

/-- A token has its role with more tokens behind it, in a larger expression. -/
lemma Role.mono {e' : Expr} {after' : List Token} (h : Role e t after) (hparts : e.parts ⊆ e'.parts)
    (hafter : after <+: after') : Role e' t after' := by
  cases h with
  | sum op hop ht right hmem hus => exact .sum op hop ht right (hparts hmem) (hus.trans hafter)
  | product op hop ht right hmem hus =>
      exact .product op hop ht right (hparts hmem) (hus.trans hafter)
  | power ht exponent hmem hus => exact .power ht exponent (hparts hmem) (hus.trans hafter)
  | sign s ht operand hmem hus => exact .sign s ht operand (hparts hmem) (hus.trans hafter)
  | number ht hmem => exact .number ht (hparts hmem)
  | var ht hx hmem => exact .var ht hx (hparts hmem)
  | constant c ht hc hmem => exact .constant c ht hc (hparts hmem)
  | function f ht hf ho argument hc hmem hus =>
      exact .function f ht hf ho argument hc (hparts hmem) (hus.trans hafter)
  | opening ht inside hc hmem hus => exact .opening ht inside hc (hparts hmem) (hus.trans hafter)
  | closing ht => exact .closing ht

/-- Every one of the tokens has a role in the expression. -/
def HasRoles (e : Expr) (ts : List Token) : Prop :=
  ∀ ⦃before t after⦄, ts = before ++ t :: after → Role e t after

lemma HasRoles.nil : HasRoles e [] := by
  intro before t after h
  simp at h

lemma HasRoles.mono {e' : Expr} (h : HasRoles e ts) (hparts : e.parts ⊆ e'.parts) :
    HasRoles e' ts := by
  intro before t after hts
  exact (h hts).mono hparts (List.prefix_refl after)

/-- Two stretches and a token between them. -/
lemma HasRoles.append_cons (hts : HasRoles e ts) (ht : Role e t us) (hus : HasRoles e us) :
    HasRoles e (ts ++ t :: us) := by
  intro before u after h
  rcases append_cons_cases h with ⟨more, hleft, rfl⟩ | ⟨rfl, -, rfl⟩ | ⟨more, -, hright⟩
  · exact (hts hleft).mono (List.Subset.refl _) (List.prefix_append more _)
  · exact ht
  · exact hus hright

lemma HasRoles.cons (ht : Role e t us) (hus : HasRoles e us) : HasRoles e (t :: us) :=
  HasRoles.nil.append_cons ht hus

/-- **Every token of a phrase has a role in it.** -/
lemma Derives.hasRoles (h : Derives p ts e n) : HasRoles e ts := by
  induction h with
  | ofTerm _ ih | ofSigned _ ih | ofPower _ ih | ofPrimary _ ih => exact ih
  | sum op t _ hop ht right ihl ihr =>
      refine (ihl.mono (by simp [Expr.parts])).append_cons ?_ (ihr.mono (by simp [Expr.parts]))
      exact .sum op hop ht right List.mem_cons_self (List.prefix_refl _)
  | product op t _ hop ht right ihl ihr =>
      refine (ihl.mono (by simp [Expr.parts])).append_cons ?_ (ihr.mono (by simp [Expr.parts]))
      exact .product op hop ht right List.mem_cons_self (List.prefix_refl _)
  | raise t _ ht exponent ihb ihe =>
      refine (ihb.mono (by simp [Expr.parts])).append_cons ?_ (ihe.mono (by simp [Expr.parts]))
      exact .power ht exponent List.mem_cons_self (List.prefix_refl _)
  | sign s t ht operand ih =>
      refine .cons ?_ (ih.mono (by simp [Expr.parts]))
      exact .sign s ht operand List.mem_cons_self (List.prefix_refl _)
  | number t ht => exact .cons (.number ht List.mem_cons_self) .nil
  | var t ht hx => exact .cons (.var ht hx List.mem_cons_self) .nil
  | constant c t ht hc => exact .cons (.constant c ht hc List.mem_cons_self) .nil
  | group o c ho inside hc ih =>
      refine .cons ?_ (ih.append_cons (.closing hc) .nil)
      exact .opening ho inside hc (Expr.mem_parts_self _) (List.prefix_refl _)
  | call f t o c ht hf ho argument hc ih =>
      refine .cons (.function f ht hf ho argument hc List.mem_cons_self (List.prefix_refl _)) ?_
      refine .cons (.opening ho argument hc ?_ (List.prefix_refl _)) ?_
      · exact List.mem_cons_of_mem _ (Expr.mem_parts_self _)
      exact (ih.mono (by simp [Expr.parts])).append_cons (.closing hc) .nil

/-! ## The variable -/

/-- **The variable is in the tree exactly if it is among the tokens.** -/
lemma Derives.var_mem_parts_iff (h : Derives p ts e n) :
    .var ∈ e.parts ↔ ∃ t ∈ ts, t.IsVariable := by
  unfold Token.IsVariable
  induction h with
  | ofTerm _ ih | ofSigned _ ih | ofPower _ ih | ofPrimary _ ih => exact ih
  | sum op t _ _ ht _ ihl ihr | product op t _ _ ht _ ihl ihr =>
      simp [Expr.parts, ihl, ihr, ht.1, or_and_right, exists_or]
  | raise t _ ht _ ihb ihe =>
      have hkind : t.kind = .operator := ht.elim And.left And.left
      simp [Expr.parts, ihb, ihe, hkind, or_and_right, exists_or]
  | sign s t ht _ ih => simp [Expr.parts, ih, ht.1]
  | number t ht => simp [Expr.parts, ht]
  | var t ht hx => simp [Expr.parts, ht, hx]
  | constant c t ht hc => simp [Expr.parts, ht, hc, c.name_ne_variableName]
  | group o c ho _ hc ih => simp [ih, ho, hc, or_and_right, exists_or]
  | call f t o c ht hf ho _ hc ih =>
      simp [Expr.parts, ih, ht, hf, ho, hc, f.name_ne_variableName, or_and_right, exists_or]

/-! ## Calls and divisions -/

/-- The name of a function stands in front of a group, and calls the function on what is in it. -/
lemma Role.call_cases {f : Fn} (h : Role e t after) (ht : t.kind = .name) (hf : t.text = f.name) :
    ∃ o us c rest arg m, after = o :: (us ++ c :: rest) ∧ o.kind = .opening ∧
      Derives .expression us arg m ∧ c.kind = .closing ∧ .call f arg ∈ e.parts := by
  cases h with
  | function g _ hg ho argument hc hmem hus =>
      obtain rfl : f = g := Fn.name_injective (hf.symm.trans hg)
      obtain ⟨rest, rfl⟩ := hus
      exact ⟨_, _, _, rest, _, _, by simp, ho, argument, hc, hmem⟩
  | sum _ _ hop | product _ _ hop | sign _ hop => exact absurd (ht.symm.trans hop.1) (by decide)
  | power hop => exact absurd (ht.symm.trans (hop.elim And.left And.left)) (by decide)
  | var _ hx => exact absurd (hf.symm.trans hx) f.name_ne_variableName
  | constant k _ hk => exact absurd (hk.symm.trans hf) (k.name_ne_function f)
  | number hkind | opening hkind | closing hkind => exact absurd (ht.symm.trans hkind) (by decide)

/-- The sign of a division stands in front of its right operand. -/
lemma Role.division_cases (h : Role e t after) (ht : t.Spells ['/']) :
    ∃ us rest l r m, after = us ++ rest ∧ Derives .signed us r m ∧ .binary .div l r ∈ e.parts := by
  cases h with
  | product op hop hsymbol right hmem hus =>
      obtain ⟨rest, rfl⟩ := hus
      rcases hop with rfl | rfl
      · exact absurd (hsymbol.unique ht) (by decide)
      · exact ⟨_, rest, _, _, _, rfl, right, hmem⟩
  | sum op hop hsymbol =>
      rcases hop with rfl | rfl <;> exact absurd (hsymbol.unique ht) (by decide)
  | power hsymbol =>
      rcases hsymbol with hsymbol | hsymbol <;> exact absurd (hsymbol.unique ht) (by decide)
  | sign s hsymbol => cases s <;> exact absurd (hsymbol.unique ht) (by decide)
  | number hkind | var hkind | constant _ hkind | function _ hkind | opening hkind | closing hkind =>
      exact absurd (ht.1.symm.trans hkind) (by decide)

/-- The tokens begin with the call of a function on the tokens `us`. -/
def BeginsCall (f : Fn) (us ts : List Token) : Prop :=
  ∃ t o c rest, ts = t :: o :: (us ++ c :: rest) ∧ t.kind = .name ∧ t.text = f.name ∧
    o.kind = .opening ∧ c.kind = .closing

lemma BeginsCall.head {f : Fn} (h : BeginsCall f us (t :: ts)) :
    t.kind = .name ∧ t.text = f.name := by
  obtain ⟨_, _, _, _, heq, ht, hf, -⟩ := h
  obtain ⟨rfl, -⟩ := List.cons.inj heq
  exact ⟨ht, hf⟩

lemma BeginsCall.exists_cons {f : Fn} (h : BeginsCall f us ts) : ∃ t after, ts = t :: after := by
  obtain ⟨t, _, _, _, rfl, -⟩ := h
  exact ⟨t, _, rfl⟩

lemma BeginsCall.append {f : Fn} (h : BeginsCall f us ts) (more : List Token) :
    BeginsCall f us (ts ++ more) := by
  obtain ⟨t, o, c, rest, rfl, hcall⟩ := h
  exact ⟨t, o, c, rest ++ more, by simp, hcall⟩

/-- **Every call in the tree is begun by a name among the tokens.** -/
lemma Derives.exists_beginsCall {f : Fn} {arg : Expr} (h : Derives p ts e n)
    (hmem : .call f arg ∈ e.parts) :
    ∃ before rest us m, ts = before ++ rest ∧ BeginsCall f us rest ∧
      Derives .expression us arg m := by
  induction h with
  | ofTerm _ ih | ofSigned _ ih | ofPower _ ih | ofPrimary _ ih => exact ih hmem
  | sum op t _ _ _ _ ihl ihr | product op t _ _ _ _ ihl ihr | raise t _ _ _ ihl ihr =>
      simp only [Expr.parts, List.mem_cons, reduceCtorEq, false_or, List.mem_append] at hmem
      rcases hmem with hmem | hmem
      · obtain ⟨before, rest, us, m, rfl, hcall, hus⟩ := ihl hmem
        exact ⟨before, _, us, m, by rw [List.append_assoc], hcall.append _, hus⟩
      · obtain ⟨before, rest, us, m, rfl, hcall, hus⟩ := ihr hmem
        exact ⟨_, rest, us, m, (List.append_assoc _ (t :: before) rest).symm, hcall, hus⟩
  | sign s t _ _ ih =>
      simp only [Expr.parts, List.mem_cons, reduceCtorEq, false_or] at hmem
      obtain ⟨before, rest, us, m, rfl, hcall, hus⟩ := ih hmem
      exact ⟨t :: before, rest, us, m, rfl, hcall, hus⟩
  | number | var | constant => simp [Expr.parts] at hmem
  | group o c _ _ _ ih =>
      obtain ⟨before, rest, us, m, rfl, hcall, hus⟩ := ih hmem
      exact ⟨o :: before, _, us, m, by simp, hcall.append [c], hus⟩
  | call g t o c ht hf ho argument hc ih =>
      simp only [Expr.parts, List.mem_cons, Expr.call.injEq] at hmem
      rcases hmem with ⟨rfl, rfl⟩ | hmem
      · exact ⟨[], _, _, _, rfl, ⟨t, o, c, [], by simp, ht, hf, ho, hc⟩, argument⟩
      · obtain ⟨before, rest, us, m, rfl, hcall, hus⟩ := ih hmem
        exact ⟨t :: o :: before, _, us, m, by simp, hcall.append [c], hus⟩

/-! ## Calls on the variable -/

/-- An expression that begins with the variable, in front of a parenthesis that closes, is the
variable. -/
lemma Derives.eq_var_of_closing {v c d : Token} {rest rest' : List Token} (hv : v.IsVariable)
    (hd : d.kind = .closing) (h : Derives .expression us e n)
    (hus : us ++ c :: rest = v :: d :: rest') : e = .var := by
  obtain ⟨u, us, rfl⟩ := List.exists_cons_of_ne_nil h.ne_nil
  obtain ⟨rfl, htail⟩ := List.cons.inj hus
  cases us with
  | nil => exact (h.unique (.ofTerm (.ofSigned (.ofPower (.ofPrimary (.var u hv.1 hv.2)))))).1
  | cons w us =>
      -- the parenthesis would close a group that was not opened
      obtain ⟨rfl, -⟩ := List.cons.inj htail
      have hthrough := h.through? 0
      have hnone : (Stage.operator 0).next? w = none := by simp [Stage.next?, hd]
      rw [(Stage.Leads.var hv.1 hv.2).through?_cons, Stage.through?_cons, hnone] at hthrough
      cases hthrough

/-- What begins like the call of a function on the variable is that call. -/
lemma BeginsCall.eq_var {f : Fn} {v : Token} (h : BeginsCall f [v] ts) (hv : v.IsVariable)
    {t o c : Token} {rest : List Token} {arg : Expr} {m : ℕ}
    (hts : ts = t :: o :: (us ++ c :: rest)) (hus : Derives .expression us arg m) : arg = .var := by
  obtain ⟨_, _, d, _, rfl, -, -, -, hd⟩ := h
  obtain ⟨-, hrest⟩ := List.cons.inj hts
  obtain ⟨-, hrest⟩ := List.cons.inj hrest
  exact hus.eq_var_of_closing hv hd hrest.symm

/-- **The call of a function on the variable is in the tree** if it is among the tokens. -/
lemma Derives.call_var_mem_parts {f : Fn} {v : Token} {rest : List Token} (hv : v.IsVariable)
    (hcall : BeginsCall f [v] rest) (h : Derives p (before ++ rest) e n) :
    .call f .var ∈ e.parts := by
  obtain ⟨t, after, rfl⟩ := hcall.exists_cons
  obtain ⟨ht, hf⟩ := hcall.head
  obtain ⟨_, _, _, _, arg, _, rfl, -, hus, -, hmem⟩ := (h.hasRoles rfl).call_cases ht hf
  rwa [hcall.eq_var hv rfl hus] at hmem

/-! ## Operands -/

/-- An operand that does not begin with a sign is a primary, or a power of one. -/
lemma Derives.signed_cases (h : Derives .signed (t :: ts) e n) (ht : t.kind ≠ .operator) :
    ∃ us rest b m, t :: ts = us ++ rest ∧ Derives .primary us b m ∧
      (e = b ∨ ∃ k, e = .binary .pow b k) := by
  generalize hs : t :: ts = ss at h
  cases h with
  | sign s u hu _ =>
      obtain ⟨rfl, -⟩ := List.cons.inj hs
      exact absurd hu.1 ht
  | ofPower h =>
      cases h with
      | ofPrimary h => exact ⟨_, [], _, _, (List.append_nil _).symm, h, .inl rfl⟩
      | raise u base _ _ => exact ⟨_, _, _, _, rfl, base, .inr ⟨_, rfl⟩⟩

/-- A primary that begins with the variable is the variable. -/
lemma Derives.primary_eq_var {v : Token} (h : Derives .primary (v :: ts) e n) (hv : v.IsVariable) :
    e = .var := by
  generalize hs : v :: ts = ss at h
  cases h with
  | number u hu =>
      obtain ⟨rfl, -⟩ := List.cons.inj hs
      exact absurd (hv.1.symm.trans hu) (by decide)
  | var => rfl
  | constant c u _ hc =>
      obtain ⟨rfl, -⟩ := List.cons.inj hs
      exact absurd (hc.symm.trans hv.2) c.name_ne_variableName
  | group o c ho =>
      obtain ⟨rfl, -⟩ := List.cons.inj hs
      exact absurd (hv.1.symm.trans ho) (by decide)
  | call f u o c _ hf =>
      obtain ⟨rfl, -⟩ := List.cons.inj hs
      exact absurd (hf.symm.trans hv.2) f.name_ne_variableName

/-- A primary that begins like the call of a function on the variable is that call. -/
lemma Derives.primary_eq_call {f : Fn} {v : Token} {rest : List Token} (hv : v.IsVariable)
    (h : Derives .primary ts e n) (hcall : BeginsCall f [v] (ts ++ rest)) :
    e = .call f .var := by
  cases h with
  | call g t o c ht hg ho hus hc =>
      obtain rfl : f = g := Fn.name_injective (hcall.head.2.symm.trans hg)
      rw [List.cons_append, List.cons_append, List.append_assoc, List.singleton_append] at hcall
      rw [hcall.eq_var hv rfl hus]
  | number t ht | group t _ ht => exact absurd (hcall.head.1.symm.trans ht) (by decide)
  | var t _ hx => exact absurd (hcall.head.2.symm.trans hx) f.name_ne_variableName
  | constant c t _ hc => exact absurd (hc.symm.trans hcall.head.2) (c.name_ne_function f)

end CurveSketch
