import CurveSketch.Proofs.Grammar.Stops
import CurveSketch.Proofs.NormalForm.Meaning

/-!
# Which token is blamed

A rejection that points to a place blames the token there.  Whether a token may stand where it does
is a matter of its neighbours: behind an operand an operator has to come, and anywhere else an
operand; and behind the name of a function a parenthesis.

* `Token.endsOperand` — an operand may end with the token.
* `Stuck` — the first token cannot stand where it does; `Blames` — one of the tokens cannot.
* **`blames_of_parse`** — so it is with whole lists, if their parentheses are balanced: behind a whole
  expression a parenthesis that closes would be one too many.

A list is rejected at the stage at which it halts, and what is blamed there follows from the stages
of the tokens in front of it: `Stage.Leads.endsOperand_eq` and `Stage.Leads.balanced_iff` are
what one more token does.
-/

namespace CurveSketch

open Token Parse NormalForm

/-- An operand may end with the token: with a number, a name that is no function's, or a parenthesis
that closes. -/
def Token.endsOperand (t : Token) : Bool :=
  match t.kind with
  | .number | .closing => true
  | .name => (Fn.ofName? t.text).isNone
  | _ => false

/-- The first token cannot stand where it does, which `r` says; `ended` is whether an operand ends in
front of it. -/
inductive Stuck (ended : Bool) : List Token → Rejection → Prop
  | operand {t rest} (h : ended = false) (ht : t.kind = .operator ∨ t.kind = .closing) :
      Stuck ended (t :: rest) (.unexpected t.text t.position)
  | behind {t rest} (h : ended = true)
      (ht : t.kind = .number ∨ t.kind = .name ∨ t.kind = .opening) :
      Stuck ended (t :: rest) (.unexpected t.text t.position)
  | argument {t rest} (ht : t.NamesFunction) (hrest : ¬ OpensFirst rest) :
      Stuck ended (t :: rest) (.missingArgument t.text t.position)

/-- One of the tokens cannot stand where it does. -/
inductive Blames : Bool → List Token → Rejection → Prop
  | here {ended ts r} (h : Stuck ended ts r) : Blames ended ts r
  | later {ended t rest r} (h : Blames t.endsOperand rest r) : Blames ended (t :: rest) r

/-- The token is written like one, and a name among them is known. -/
def Readable (ts : List Token) : Prop := ∀ t ∈ ts, Lexeme t.kind t.text ∧ Known t

/-- Whether an operand has ended. -/
def Stage.ended : Stage → Bool
  | operator _ => true
  | _ => false

variable {limit : Int} {depth : ℕ} {ts before rest : List Token} {t : Token} {r : Rejection}
  {s s' : Stage}

lemma Readable.tail (h : Readable (t :: ts)) : Readable ts :=
  fun u hu => h u (List.mem_cons_of_mem t hu)

/-! ## One more token -/

lemma Fn.ofName?_constant (c : Constant) : Fn.ofName? c.name = none := by cases c <;> decide

/-- An operand has ended where one may end with the last token. -/
lemma Stage.Leads.endsOperand_eq (h : Leads s t s') : t.endsOperand = s'.ended := by
  cases h with
  | number ht | opening ht | argument ht | closing ht => simp [endsOperand, ht, ended]
  | var ht hx =>
      have hnone : Fn.ofName? variableName = none := by decide
      simp [endsOperand, ht, hx, hnone, ended]
  | constant c ht hc => simp [endsOperand, ht, hc, Fn.ofName?_constant, ended]
  | function f ht hf => simp [endsOperand, ht, hf, Fn.ofName?_name, ended]
  | sign ht => simp [endsOperand, (signOf?_eq_some_iff.1 ht).1, ended]
  | joins hkind _ => simp [endsOperand, hkind, ended]

/-- The operators are those that a reader looks for. -/
lemma joins_of_operator (hlex : Lexeme t.kind t.text) (ht : t.kind = .operator) :
    t.joins = true := by
  obtain ⟨k, text, position⟩ := t
  obtain rfl : k = .operator := ht
  generalize hk : Kind.operator = k at hlex
  cases hlex with
  | symbol hc =>
      subst hk
      unfold symbolKind? at hc
      split at hc <;> first
        | (simp at hc; done)
        | simp [Token.joins, isPower, multiplicative?, additive?, isOperator]
  | stars => simp [Token.joins, isPower, multiplicative?, additive?, isOperator]
  | _ => cases hk

/-- What tokens are when they have been split, before names are told apart. -/
lemma kind_cases (hlex : Lexeme t.kind t.text) :
    t.kind = .number ∨ t.kind = .name ∨ t.kind = .operator ∨ t.kind = .opening ∨
      t.kind = .closing := by
  have hread := hlex.asRead_eq
  generalize t.kind = k at *
  cases k <;> simp_all [Kind.asRead]

/-! ## Whole lists of tokens -/

/-- What halts cannot stand where it does. -/
lemma Halts.stuck (h : Halts s ts r) (hts : Readable ts) (hbal : Balanced s.depth ts)
    (hplace : r.position?.isSome = true) : Stuck s.ended ts r := by
  cases h with
  | @operand depth t rest hnone =>
      rw [Stage.next?_eq_none_iff] at hnone
      obtain ⟨hlex, hknown⟩ := hts t List.mem_cons_self
      refine .operand rfl ?_
      rcases kind_cases hlex with ht | ht | ht | ht | ht
      · exact absurd (.number ht) (hnone _)
      · obtain ⟨s, hs⟩ := exists_leads_of_known ht hknown
        exact absurd hs (hnone s)
      · exact .inl ht
      · exact absurd (.opening ht) (hnone _)
      · exact .inr ht
  | @unknown depth t rest ht hnone =>
      obtain ⟨s, hs⟩ := exists_leads_of_known ht (hts t List.mem_cons_self).2
      exact absurd hs (Stage.next?_eq_none_iff.1 hnone s)
  | argument hleads hrest =>
      cases hleads with
      | function f ht hf =>
          refine .argument ⟨ht, f, hf⟩ ?_
          rintro ⟨o, tail, rfl, ho⟩
          exact absurd (.argument ho) (Stage.next?_eq_none_iff.1 (hrest o rfl) _)
  | @operator depth t rest hnone =>
      rw [Stage.next?_eq_none_iff] at hnone
      refine .behind rfl ?_
      have hlex := (hts t List.mem_cons_self).1
      rcases kind_cases hlex with ht | ht | ht | ht | ht
      · exact .inl ht
      · exact .inr (.inl ht)
      · exact absurd (.joins ht (joins_of_operator hlex ht)) (hnone _)
      · exact .inr (.inr ht)
      · cases depth with
        | zero => exact absurd hbal (not_balanced_closing ht)
        | succ depth => exact absurd (.closing ht) (hnone _)
  | atEnd => cases hplace

lemma Halts.blames (h : Halts s' rest r) (hbefore : s.through? before = some s')
    (hts : Readable (before ++ rest)) (hbal : Balanced s.depth (before ++ rest))
    (hplace : r.position?.isSome = true) : Blames s.ended (before ++ rest) r := by
  induction before generalizing s with
  | nil =>
      obtain rfl : s = s' := by simpa using hbefore
      exact .here (h.stuck hts hbal hplace)
  | cons t before ih =>
      obtain ⟨s'', ht, hbefore⟩ := Option.bind_eq_some_iff.1 hbefore
      rw [Stage.next?_eq_some_iff] at ht
      have hlater := ih hbefore hts.tail ((ht.balanced_iff _).1 hbal)
      exact .later (ht.endsOperand_eq ▸ hlater)

/-- **A list with balanced parentheses is rejected with a place only to blame a token that cannot
stand where it does.** -/
lemma blames_of_parse (hts : Readable ts) (hbal : Balanced 0 ts) (hr : parse limit ts = .error r)
    (hplace : r.position?.isSome = true) : Blames false ts r := by
  rcases explained_of_parse hr with ⟨before, s, rest, rfl, hbefore, hhalts⟩ | ⟨rfl, -⟩
  · exact hhalts.blames hbefore hts hbal hplace
  · cases hplace

end CurveSketch
