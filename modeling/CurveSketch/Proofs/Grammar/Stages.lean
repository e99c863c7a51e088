import CurveSketch.Proofs.Grammar

/-!
# What may come next

Whether a token may stand where it does is a matter of two things about the tokens in front of it:
what is awaited behind them, and how many parentheses are open.

* `Stage` — these two things.
* `Stage.next?` — the stage behind one more token, if the token may stand there.
* `Stage.Leads`, `Stage.next?_eq_some_iff` — the same as a relation, with one case for each sort of
  tokens.
* `Stage.through?` — the stage behind more tokens.
* **`Derives.through?`** — a phrase begins where an operand is awaited, and where it ends an operator
  is.
* `Stage.close`, `Stage.through?_close` — at every stage a whole expression can still be reached.
-/

namespace CurveSketch

open Parse

/-- The operator may stand behind an operand. -/
def Token.joins (t : Token) : Bool :=
  isPower t || (multiplicative? t).isSome || (additive? t).isSome

/-- What is awaited behind some tokens, and how many parentheses are open. -/
inductive Stage where
  /-- An operand is awaited, or a sign in front of it. -/
  | operand (depth : ℕ)
  /-- The parenthesis behind the name of a function is awaited. -/
  | argument (depth : ℕ)
  /-- An operator is awaited, or the end of a group. -/
  | operator (depth : ℕ)
  deriving DecidableEq, Repr

namespace Stage

/-- The stage behind one more token, if the token may stand there. -/
def next? : Stage → Token → Option Stage
  | operand depth, t =>
    match t.kind with
    | .number => some (operator depth)
    | .name =>
      if t.text = variableName ∨ (Constant.ofName? t.text).isSome then some (operator depth)
      else if (Fn.ofName? t.text).isSome then some (argument depth)
      else none
    | .opening => some (operand (depth + 1))
    | .operator => if (signOf? t).isSome then some (operand depth) else none
    | _ => none
  | argument depth, t => if t.kind = .opening then some (operand (depth + 1)) else none
  | operator depth, t =>
    match t.kind, depth with
    | .operator, depth => if t.joins then some (operand depth) else none
    | .closing, depth + 1 => some (operator depth)
    | _, _ => none

/-! ## One token -/

/-- What one token leads to: the stages of `next?` as a relation, with one constructor for each sort
of tokens that may stand at a stage. -/
inductive Leads : Stage → Token → Stage → Prop
  | number {t depth} (ht : t.kind = .number) : Leads (operand depth) t (operator depth)
  | var {t depth} (ht : t.kind = .name) (hx : t.text = variableName) :
      Leads (operand depth) t (operator depth)
  | constant {t depth} (c : Constant) (ht : t.kind = .name) (hc : t.text = c.name) :
      Leads (operand depth) t (operator depth)
  | function {t depth} (f : Fn) (ht : t.kind = .name) (hf : t.text = f.name) :
      Leads (operand depth) t (argument depth)
  | opening {t depth} (ht : t.kind = .opening) : Leads (operand depth) t (operand (depth + 1))
  | sign {t depth s} (ht : signOf? t = some s) : Leads (operand depth) t (operand depth)
  | argument {t depth} (ht : t.kind = .opening) : Leads (argument depth) t (operand (depth + 1))
  | joins {t depth} (hkind : t.kind = .operator) (ht : t.joins = true) :
      Leads (operator depth) t (operand depth)
  | closing {t depth} (ht : t.kind = .closing) : Leads (operator (depth + 1)) t (operator depth)

variable {s s' : Stage} {t : Token} {ts us : List Token} {depth : ℕ}

lemma Leads.next?_eq (h : Leads s t s') : s.next? t = some s' := by
  cases h with
  | number ht | opening ht | closing ht => simp [next?, ht]
  | var ht hx => simp [next?, ht, hx]
  | constant c ht hc => simp [next?, ht, hc, Constant.ofName?_name]
  | function f ht hf =>
      simp [next?, ht, hf, f.name_ne_variableName, Constant.ofName?_function, Fn.ofName?_name]
  | sign ht => simp [next?, (signOf?_eq_some_iff.1 ht).1, ht]
  | argument ht => exact if_pos ht
  | joins hkind ht => simp [next?, hkind, ht]

lemma leads_of_next? (h : s.next? t = some s') : Leads s t s' := by
  cases s with
  | operand depth =>
      simp only [next?] at h
      split at h
      · next ht =>
        obtain rfl := Option.some_inj.1 h
        exact .number ht
      · next ht =>
        split_ifs at h with hvalue hfunction
        · obtain rfl := Option.some_inj.1 h
          rcases hvalue with hx | hc
          · exact .var ht hx
          · obtain ⟨c, hc⟩ := Option.isSome_iff_exists.1 hc
            exact .constant c ht (Constant.ofName?_eq_some_iff.1 hc)
        · obtain rfl := Option.some_inj.1 h
          obtain ⟨f, hf⟩ := Option.isSome_iff_exists.1 hfunction
          exact .function f ht (Fn.ofName?_eq_some_iff.1 hf)
      · next ht =>
        obtain rfl := Option.some_inj.1 h
        exact .opening ht
      · split_ifs at h with hsign
        obtain rfl := Option.some_inj.1 h
        obtain ⟨sign, hsign⟩ := Option.isSome_iff_exists.1 hsign
        exact .sign hsign
      · cases h
  | argument depth =>
      simp only [next?] at h
      split_ifs at h with ht
      obtain rfl := Option.some_inj.1 h
      exact .argument ht
  | operator depth =>
      simp only [next?] at h
      split at h
      · next hkind =>
        split_ifs at h with ht
        obtain rfl := Option.some_inj.1 h
        exact .joins hkind ht
      · next ht =>
        obtain rfl := Option.some_inj.1 h
        exact .closing ht
      · cases h

/-- **`next?` leads where tokens lead.** -/
lemma next?_eq_some_iff : s.next? t = some s' ↔ Leads s t s' := ⟨leads_of_next?, Leads.next?_eq⟩

lemma Leads.of_isPower (ht : isPower t = true) : Leads (operator depth) t (operand depth) :=
  .joins ((isPower_iff.1 ht).elim And.left And.left) (by simp [Token.joins, ht])

lemma Leads.of_multiplicative {op : Operator} (ht : multiplicative? t = some op) :
    Leads (operator depth) t (operand depth) :=
  .joins (multiplicative?_eq_some_iff.1 ht).2.1 (by simp [Token.joins, ht])

lemma Leads.of_additive {op : Operator} (ht : additive? t = some op) :
    Leads (operator depth) t (operand depth) :=
  .joins (additive?_eq_some_iff.1 ht).2.1 (by simp [Token.joins, ht])

lemma next?_eq_none_iff : s.next? t = none ↔ ∀ s', ¬ Leads s t s' := by
  simp only [Option.eq_none_iff_forall_ne_some, ne_eq, next?_eq_some_iff]

/-- Where an operand is awaited only signs may stand besides what operands begin with. -/
lemma next?_operand_eq_none (hnumber : t.kind ≠ .number) (hopening : t.kind ≠ .opening)
    (hname : t.kind ≠ .name) (hsign : signOf? t = none) : (operand depth).next? t = none := by
  rw [next?_eq_none_iff]
  intro s' h
  cases h with
  | number ht => exact hnumber ht
  | var ht _ | constant _ ht _ | function _ ht _ => exact hname ht
  | opening ht => exact hopening ht
  | sign ht => simp [hsign] at ht

/-- Where an operator is awaited nothing else may stand, unless it closes a group. -/
lemma next?_operator_eq_none (hjoins : t.joins = false) (ht : t.kind ≠ .closing ∨ depth = 0) :
    (operator depth).next? t = none := by
  rw [next?_eq_none_iff]
  intro s' h
  cases h with
  | joins _ h => simp [hjoins] at h
  | closing h => simp [h] at ht

/-! ## More tokens -/

/-- The stage behind more tokens, if all of them may stand where they do. -/
def through? (s : Stage) (ts : List Token) : Option Stage := ts.foldlM next? s

@[simp] lemma through?_nil : s.through? [] = some s := rfl

@[simp] lemma through?_cons : s.through? (t :: ts) = (s.next? t).bind (through? · ts) :=
  List.foldlM_cons

@[simp] lemma through?_append : s.through? (ts ++ us) = (s.through? ts).bind (through? · us) :=
  List.foldlM_append

lemma Leads.through?_cons (h : Leads s t s') (ts : List Token) :
    s.through? (t :: ts) = s'.through? ts := by
  rw [Stage.through?_cons, h.next?_eq, Option.bind_some]

/-! ## Completion -/

/-- Some number, to complete an expression with. -/
def numberToken : Token := ⟨.number, ['0'], 0⟩

/-- An opening parenthesis, to complete an expression with. -/
def openingToken : Token := ⟨.opening, ['('], 0⟩

/-- A closing parenthesis, to complete an expression with. -/
def closingToken : Token := ⟨.closing, [')'], 0⟩

/-- Tokens that complete an expression. -/
def close : Stage → List Token
  | operand depth => numberToken :: List.replicate depth closingToken
  | argument depth => openingToken :: numberToken :: List.replicate (depth + 1) closingToken
  | operator depth => List.replicate depth closingToken

lemma through?_replicate_closing (depth : ℕ) :
    (operator depth).through? (List.replicate depth closingToken) = some (operator 0) := by
  induction depth with
  | zero => rfl
  | succ depth ih =>
      rw [List.replicate_succ, (Leads.closing rfl).through?_cons]
      exact ih

/-- **At every stage a whole expression can still be reached.** -/
lemma through?_close (s : Stage) : s.through? s.close = some (operator 0) := by
  cases s with
  | operand depth =>
      rw [close, (Leads.number rfl).through?_cons]
      exact through?_replicate_closing depth
  | argument depth =>
      rw [close, (Leads.argument rfl).through?_cons, (Leads.number rfl).through?_cons]
      exact through?_replicate_closing (depth + 1)
  | operator depth => exact through?_replicate_closing depth

end Stage

/-! ## Phrases -/

open Stage

/-- **A phrase begins where an operand is awaited, and where it ends an operator is.**  All groups
that are opened in it are closed in it. -/
lemma Derives.through? {p : Phrase} {ts : List Token} {e : Expr} {n : ℕ} (h : Derives p ts e n)
    (depth : ℕ) : (operand depth).through? ts = some (operator depth) := by
  induction h generalizing depth with
  | ofTerm _ ih | ofSigned _ ih | ofPower _ ih | ofPrimary _ ih => exact ih depth
  | sum op t _ hop ht _ ihl ihr =>
      have hleads : Leads (operator depth) t (operand depth) :=
        .of_additive (additive?_eq_some_iff.2 ⟨hop, ht⟩)
      rw [through?_append, ihl, Option.bind_some, hleads.through?_cons, ihr]
  | product op t _ hop ht _ ihl ihr =>
      have hleads : Leads (operator depth) t (operand depth) :=
        .of_multiplicative (multiplicative?_eq_some_iff.2 ⟨hop, ht⟩)
      rw [through?_append, ihl, Option.bind_some, hleads.through?_cons, ihr]
  | raise t _ ht _ ihb ihe =>
      have hleads : Leads (operator depth) t (operand depth) := .of_isPower (isPower_iff.2 ht)
      rw [through?_append, ihb, Option.bind_some, hleads.through?_cons, ihe]
  | sign s t ht _ ih => rw [(Leads.sign (signOf?_eq_some_iff.2 ht)).through?_cons, ih]
  | number t ht => exact (Leads.number ht).through?_cons []
  | var t ht hx => exact (Leads.var ht hx).through?_cons []
  | constant c t ht hc => exact (Leads.constant c ht hc).through?_cons []
  | group o c ho _ hc ih =>
      rw [(Leads.opening ho).through?_cons, through?_append, ih, Option.bind_some]
      exact (Leads.closing hc).through?_cons []
  | call f t o c ht hf ho _ hc ih =>
      rw [(Leads.function f ht hf).through?_cons, (Leads.argument ho).through?_cons,
        through?_append, ih, Option.bind_some]
      exact (Leads.closing hc).through?_cons []

end CurveSketch
