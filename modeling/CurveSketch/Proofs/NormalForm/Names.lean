import CurveSketch.NormalForm
import CurveSketch.Proofs.Rejecting
import CurveSketch.Proofs.SmallLetters
import CurveSketch.Proofs.Token.Rendering
import Mathlib.Data.List.Forall2

/-!
# Names and powers settled

The first passes of the normal form look at one token at a time: a caret becomes the power operator,
the name of a constant its digits, and every other name the variable or a function.

* `Known` — the names among the tokens stand for something; `settle` is what a token becomes.
* **`classify_eq_ok_iff`** — the passes go through exactly if all names are known, and then every
  token is settled by itself.
* `Standard` — how tokens look once they are settled.  Each has a text that is read back
  (`Standard.lexeme`).
* `Standard.settle_again` — a settled token that was written out and read is settled as it was,
  except that the digits of a constant have become a number.
* `isSmall_of_known` — nothing in the vocabulary has a capital letter.
-/

namespace CurveSketch

/-- The token is the name of a function. -/
def Token.NamesFunction (t : Token) : Prop := t.kind = .name ∧ ∃ f : Fn, t.text = f.name

/-- The token is the name of a constant. -/
def Token.NamesConstant (t : Token) : Prop := t.kind = .name ∧ ∃ c : Constant, t.text = c.name

/-- A parenthesis opens first. -/
def OpensFirst (ts : List Token) : Prop := ∃ o tail, ts = o :: tail ∧ o.kind = .opening

lemma OpensFirst.append {ts : List Token} (h : OpensFirst ts) (us : List Token) :
    OpensFirst (ts ++ us) := by
  obtain ⟨o, tail, rfl, ho⟩ := h
  exact ⟨o, tail ++ us, rfl, ho⟩

/-- A parenthesis opens first in both of two lists that correspond to each other. -/
lemma OpensFirst.of_forall₂ {ts us : List Token} {R : Token → Token → Prop} (h : OpensFirst ts)
    (hR : List.Forall₂ R ts us) (hopen : ∀ {t u}, R t u → t.kind = .opening → u.kind = .opening) :
    OpensFirst us := by
  obtain ⟨o, tail, rfl, ho⟩ := h
  obtain ⟨u, us, hou, -, rfl⟩ := List.forall₂_cons_left_iff.1 hR
  exact ⟨u, us, rfl, hopen hou ho⟩

/-- In normal form no operation is written as a caret. -/
lemma Operator.symbol_ne_caret (op : Operator) : op.symbol ≠ ['^'] := by cases op <;> decide

namespace NormalForm

open Text Token

/-- The token is no name, or a name that stands for something. -/
def Known (t : Token) : Prop :=
  t.kind = .name →
    t.text = variableName ∨ (∃ c : Constant, t.text = c.name) ∨ ∃ f : Fn, t.text = f.name

lemma known_of_ne {t : Token} (h : t.kind ≠ .name) : Known t := fun hname => absurd hname h

/-- What a token becomes; a name that is no constant and not the variable counts as a function. -/
def settle (t : Token) : Token :=
  let t := readConstant (readPower t)
  if t.kind = .name then { t with kind := if t.text = variableName then .var else .func } else t

/-! ## Token by token -/

lemma readPower_of_not_operator {t : Token} (h : t.kind ≠ .operator) : readPower t = t := by
  simp [readPower, isOperator, h]

lemma readPower_of_name {t : Token} (h : t.kind = .name) : readPower t = t :=
  readPower_of_not_operator (by simp [h])

lemma settle_other {t : Token} (hname : t.kind ≠ .name) (hop : t.kind ≠ .operator) :
    settle t = t := by
  simp [settle, readPower_of_not_operator hop, readConstant, hname]

lemma settle_operator {t : Token} (h : t.kind = .operator) : settle t = readPower t := by
  have hkind : (readPower t).kind = .operator := by
    rw [readPower]
    split_ifs <;> exact h
  simp [settle, readConstant, hkind]

lemma settle_operator_kind {t : Token} (ht : t.kind = .operator) :
    (settle t).kind = .operator := by
  rw [settle_operator ht, readPower]
  split_ifs <;> exact ht

lemma settle_variable {t : Token} (ht : t.kind = .name) (hx : t.text = variableName) :
    settle t = { t with kind := .var } := by
  simp [settle, readPower_of_name ht, readConstant, ht, hx,
    Constant.ofName?_variableName]

lemma settle_constant {t : Token} (ht : t.kind = .name) {c : Constant} (hc : t.text = c.name) :
    settle t = { t with kind := .const, text := c.digits } := by
  simp [settle, readPower_of_name ht, readConstant, ht, hc,
    Constant.ofName?_name]

lemma settle_function {t : Token} (ht : t.kind = .name) {f : Fn} (hf : t.text = f.name) :
    settle t = { t with kind := .func } := by
  simp [settle, readPower_of_name ht, readConstant, ht, hf,
    Constant.ofName?_function, Fn.name_ne_variableName]

/-! ## The passes together -/

/-- A name is told apart after the first passes if it is known, and becomes what it stands for. -/
lemma classifyName_eq_ok_iff {t v : Token} :
    classifyName (readConstant (readPower t)) = .ok v ↔ Known t ∧ v = settle t := by
  by_cases ht : t.kind = .name
  · rw [readPower_of_name ht, readConstant, if_pos ht]
    cases hc : Constant.ofName? t.text with
    | some c =>
        have hname := Constant.ofName?_eq_some_iff.1 hc
        rw [settle_constant ht hname]
        simp [classifyName, Known, hname, eq_comm]
    | none =>
        have hconst : ∀ c : Constant, t.text ≠ c.name := fun c h => by
          rw [Constant.ofName?_eq_some_iff.2 h] at hc
          cases hc
        by_cases hx : t.text = variableName
        · rw [settle_variable ht hx]
          simp [classifyName, Known, ht, hx, eq_comm]
        · cases hf : Fn.ofName? t.text with
          | some f =>
              have hname := Fn.ofName?_eq_some_iff.1 hf
              have hknown : Known t := fun _ => .inr (.inr ⟨f, hname⟩)
              rw [settle_function ht hname, classifyName, if_pos ht, if_neg hx]
              simp [hf, hknown, eq_comm]
          | none =>
              have hfn : ∀ f : Fn, t.text ≠ f.name := fun f h => by
                rw [Fn.ofName?_eq_some_iff.2 h] at hf
                cases hf
              simp [classifyName, Known, ht, hx, hf, hconst, hfn]
  · have hkind : (readConstant (readPower t)).kind ≠ .name := by
      have hpower : (readPower t).kind = t.kind := by
        rw [readPower]
        split_ifs <;> rfl
      rw [readConstant, if_neg (by rw [hpower]; exact ht), hpower]
      exact ht
    rw [classifyName, if_neg hkind, settle, if_neg hkind]
    simp [Known, ht, eq_comm]

/-- **The passes over names and powers** go through exactly if every name is known, and settle every
token by itself. -/
lemma classify_eq_ok_iff {ts vs : List Token} :
    classify (readConstants (readPowers ts)) = .ok vs ↔
      (∀ t ∈ ts, Known t) ∧ vs = ts.map settle := by
  induction ts generalizing vs with
  | nil => simp [readPowers, readConstants, classify, eq_comm]
  | cons t ts ih =>
      change (classifyName (readConstant (readPower t)) >>= fun v =>
        classify (readConstants (readPowers ts)) >>= fun rest => .ok (v :: rest)) = .ok vs ↔ _
      simp only [bind_eq_ok_iff, classifyName_eq_ok_iff, ih, List.forall_mem_cons, List.map_cons,
        Except.ok.injEq]
      constructor
      · rintro ⟨v, ⟨hv, rfl⟩, rest, ⟨hrest, rfl⟩, rfl⟩
        exact ⟨⟨hv, hrest⟩, rfl⟩
      · rintro ⟨⟨hv, hrest⟩, rfl⟩
        exact ⟨_, ⟨hv, rfl⟩, _, ⟨hrest, rfl⟩, rfl⟩

/-! ## Settled tokens -/

/-- How tokens look in normal form: their kinds and texts. -/
inductive Standard : Kind → List Char → Prop
  | number {text} (h : Lexeme .number text) : Standard .number text
  | const (c : Constant) : Standard .const c.digits
  | var : Standard .var variableName
  | func (f : Fn) : Standard .func f.name
  | operator (op : Operator) : Standard .operator op.symbol
  | opening : Standard .opening ['(']
  | closing : Standard .closing [')']

/-- What a symbol is told apart as. -/
lemma standard_settle_symbol {c : Char} {k : Kind} (h : symbolKind? c = some k) (p : ℕ) :
    Standard (settle ⟨k, [c], p⟩).kind (settle ⟨k, [c], p⟩).text := by
  unfold symbolKind? at h
  split at h
  all_goals first | contradiction | obtain rfl := Option.some.inj h
  · exact .operator .add
  · exact .operator .sub
  · exact .operator .mul
  · exact .operator .div
  · exact .operator .pow
  · exact .opening
  · exact .closing

/-- Known tokens of a text settle into the forms of a normal form. -/
lemma standard_settle {t : Token} (hlex : Lexeme t.kind t.text) (h : Known t) :
    Standard (settle t).kind (settle t).text := by
  obtain ⟨k, text, p⟩ := t
  cases hlex with
  | symbol hc => exact standard_settle_symbol hc p
  | stars => exact .operator .pow
  | name hne hletters =>
      rcases h rfl with hx | ⟨c, hc⟩ | ⟨f, hf⟩
      · rw [settle_variable rfl hx]
        obtain rfl : text = variableName := hx
        exact .var
      · rw [settle_constant rfl hc]
        exact .const c
      · rw [settle_function rfl hf]
        obtain rfl : text = f.name := hf
        exact .func f
  | whole hne hd => exact .number (.whole hne hd)
  | decimal hne hd hd' => exact .number (.decimal hne hd hd')
  | fraction hne hd => exact .number (.fraction hne hd)

lemma lexeme_function_name (f : Fn) : Lexeme .name f.name := by
  have hname : f.name ≠ [] ∧ f.name.all isLetter = true := by cases f <;> decide
  exact .name hname.1 (List.all_eq_true.1 hname.2)

lemma lexeme_constant_digits (c : Constant) : Lexeme .number c.digits := by
  have hdigits : c.digits = c.digits.take 1 ++ '.' :: c.digits.drop 2 ∧ c.digits.take 1 ≠ [] ∧
      (c.digits.take 1).all isDigit = true ∧ (c.digits.drop 2).all isDigit = true := by
    cases c <;> decide +kernel
  obtain ⟨heq, hne, hwhole, hplaces⟩ := hdigits
  rw [heq]
  exact .decimal hne (List.all_eq_true.1 hwhole) (List.all_eq_true.1 hplaces)

/-- The text of a settled token is read back. -/
lemma Standard.lexeme {k : Kind} {text : List Char} (h : Standard k text) :
    Lexeme k.asRead text := by
  cases h with
  | number h => exact h
  | const c => exact lexeme_constant_digits c
  | var => exact .name (by decide) (List.all_eq_true.1 (by decide))
  | func f => exact lexeme_function_name f
  | operator op => cases op <;> first | exact .stars | exact .symbol rfl
  | opening => exact .symbol rfl
  | closing => exact .symbol rfl

/-- The kind of a token that is written out, read and settled once more: the digits of a constant
have become a number. -/
def again : Kind → Kind
  | .const => .number
  | k => k

/-- **A settled token is settled as it was** when it has been written out and read again, but for
the digits of a constant. -/
lemma Standard.settle_again {t u : Token} (h : Standard t.kind t.text)
    (hu : u.shape = readShape t) :
    Known u ∧ (settle u).kind = again t.kind ∧ (settle u).text = t.text := by
  obtain ⟨k, text, p⟩ := t
  obtain ⟨k', text', p'⟩ := u
  simp only [shape, readShape, Prod.mk.injEq] at hu
  obtain ⟨rfl, rfl⟩ := hu
  cases h with
  | number _ => exact ⟨known_of_ne (by simp [Kind.asRead]), rfl, rfl⟩
  | const c => exact ⟨known_of_ne (by simp [Kind.asRead]), rfl, rfl⟩
  | var => exact ⟨fun _ => .inl rfl, rfl, rfl⟩
  | func f =>
      rw [settle_function rfl rfl]
      exact ⟨fun _ => .inr (.inr ⟨f, rfl⟩), rfl, rfl⟩
  | operator op =>
      exact ⟨known_of_ne (by simp [Kind.asRead]), by cases op <;> rfl, by cases op <;> rfl⟩
  | opening => exact ⟨known_of_ne (by simp [Kind.asRead]), rfl, rfl⟩
  | closing => exact ⟨known_of_ne (by simp [Kind.asRead]), rfl, rfl⟩

/-- What is neither a name nor a number is read as it is. -/
lemma asRead_eq_iff {k k' : Kind} (h : k' ≠ .name ∧ k' ≠ .number ∧ k'.asRead = k') :
    k.asRead = k' ↔ k = k' := by
  cases k <;> cases k' <;> simp_all [Kind.asRead]

/-- A settled token is read as the name of a function exactly if it is a function. -/
lemma Standard.namesFunction_iff {t u : Token} (h : Standard t.kind t.text)
    (hu : u.shape = readShape t) : u.NamesFunction ↔ t.kind = .func := by
  obtain ⟨k, text, p⟩ := t
  obtain ⟨k', text', p'⟩ := u
  simp only [shape, readShape, Prod.mk.injEq] at hu
  obtain ⟨rfl, rfl⟩ := hu
  cases h with
  | func f => exact iff_of_true ⟨rfl, f, rfl⟩ rfl
  | var =>
      refine iff_of_false ?_ (by simp)
      rintro ⟨-, f, hf⟩
      exact f.name_ne_variableName hf.symm
  | _ =>
      refine iff_of_false ?_ (by simp)
      rintro ⟨hname, -⟩
      cases hname

/-! ## Letter case -/

lemma isSmall_of_all {cs : List Char} (h : (cs.all fun c => decide (IsSmall c)) = true) :
    ∀ c ∈ cs, IsSmall c :=
  fun c hc => of_decide_eq_true (List.all_eq_true.1 h c hc)

/-- Nothing that is known has a capital letter in it. -/
lemma isSmall_of_known {t : Token} (hlex : Lexeme t.kind t.text) (h : Known t) :
    ∀ c ∈ t.text, IsSmall c := by
  obtain ⟨k, text, p⟩ := t
  have hpoint : IsSmall '.' := by decide
  intro c hc
  cases hlex with
  | whole _ hd => exact .of_isDigit (hd c hc)
  | decimal _ hd hd' =>
      rcases List.mem_append.1 hc with hc | hc
      · exact .of_isDigit (hd c hc)
      · rcases List.mem_cons.1 hc with rfl | hc
        · exact hpoint
        · exact .of_isDigit (hd' c hc)
  | fraction _ hd =>
      rcases List.mem_cons.1 hc with rfl | hc
      · exact hpoint
      · exact .of_isDigit (hd c hc)
  | name _ _ =>
      rcases h rfl with hx | ⟨d, hd⟩ | ⟨f, hf⟩
      · exact isSmall_of_all (by decide +kernel) c (hx ▸ hc)
      · exact isSmall_of_all (by cases d <;> decide +kernel) c (hd ▸ hc)
      · exact isSmall_of_all (by cases f <;> decide +kernel) c (hf ▸ hc)
  | symbol hs =>
      obtain rfl := List.mem_singleton.1 hc
      exact isSmall_of_all (by decide +kernel) c (mem_symbols hs)
  | stars =>
      obtain rfl : c = '*' := by simpa using hc
      decide

end NormalForm

end CurveSketch
