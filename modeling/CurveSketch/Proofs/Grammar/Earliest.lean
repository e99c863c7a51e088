import CurveSketch.Proofs.Grammar.Stops
import CurveSketch.Proofs.Token.Lexeme

/-!
# Rejections come at the earliest token

A list of tokens is rejected at the first token with which no expression goes on: the tokens in
front of it begin one, and together with it they do not.

* `Begins`, `BeginsNone` — whether tokens can be gone on with to a whole expression.
* `begins_of_through?`, `beginsNone_of_through?` — they can exactly if each of them may stand where
  it does.
* **`parse_rejects_earliest`** — what each rejection says about the tokens up to the place that it
  blames.
-/

namespace CurveSketch

open Stage Token

/-- More tokens, written like tokens, make a whole expression of these. -/
def Begins (ts : List Token) : Prop :=
  ∃ more, (∀ t ∈ more, Lexeme t.kind t.text) ∧ ∃ e n, Derives .expression (ts ++ more) e n

/-- No more tokens make an expression of these. -/
def BeginsNone (ts : List Token) : Prop := ∀ more e n, ¬ Derives .expression (ts ++ more) e n

variable {ts before rest : List Token} {t : Token} {s : Stage}

/-- The tokens that complete an expression are written like tokens. -/
lemma lexeme_of_mem_close (s : Stage) : ∀ t ∈ s.close, Lexeme t.kind t.text := by
  have hnumber : Lexeme numberToken.kind numberToken.text :=
    .whole (List.cons_ne_nil _ _) (List.forall_mem_singleton.2 rfl)
  have hopening : Lexeme openingToken.kind openingToken.text := .symbol rfl
  have hclosing : Lexeme closingToken.kind closingToken.text := .symbol rfl
  have hreplicate : ∀ depth, ∀ t ∈ List.replicate depth closingToken, Lexeme t.kind t.text := by
    intro depth t ht
    rw [List.eq_of_mem_replicate ht]
    exact hclosing
  cases s with
  | operand depth => exact List.forall_mem_cons.2 ⟨hnumber, hreplicate depth⟩
  | argument depth =>
      exact List.forall_mem_cons.2 ⟨hopening, List.forall_mem_cons.2 ⟨hnumber, hreplicate _⟩⟩
  | operator depth => exact hreplicate depth

/-- **Tokens that may all stand where they do begin an expression.** -/
lemma begins_of_through? (h : (operand 0).through? ts = some s) : Begins ts := by
  refine ⟨s.close, lexeme_of_mem_close s, exists_derives_iff_through?.2 ?_⟩
  rw [through?_append, h, Option.bind_some, through?_close]

/-- **Tokens of which one may not stand where it does begin none.** -/
lemma beginsNone_of_through? (h : (operand 0).through? ts = none) : BeginsNone ts := by
  intro more e n hderives
  have hwhole := hderives.through? 0
  rw [through?_append, h] at hwhole
  cases hwhole

/-- A token that may not stand behind others ends all expressions that they begin. -/
lemma begins_and_beginsNone (hbefore : (operand 0).through? before = some s)
    (ht : s.next? t = none) : Begins before ∧ BeginsNone (before ++ [t]) :=
  ⟨begins_of_through? hbefore, beginsNone_of_through? (by simp [hbefore, ht])⟩

/-- **A list is rejected at the earliest token.**  A token that is unexpected, or a name that stands
for nothing, is the first with which the tokens begin no expression.  The name of a function without
its parenthesis may still stand where it does, but the token behind it, if there is one, may not.  A
list that ends too early begins an expression and is none. -/
theorem parse_rejects_earliest (limit : Int) (ts : List Token) :
    (∀ text position,
      parse limit ts = .error (.unexpected text position) ∨
        parse limit ts = .error (.unknownName text position) →
      ∃ before t rest, ts = before ++ t :: rest ∧ t.text = text ∧ t.position = position ∧
        Begins before ∧ BeginsNone (before ++ [t])) ∧
    (∀ text position, parse limit ts = .error (.missingArgument text position) →
      ∃ before t rest, ts = before ++ t :: rest ∧ t.text = text ∧ t.position = position ∧
        Begins (before ++ [t]) ∧ ∀ u ∈ rest.head?, BeginsNone (before ++ [t, u])) ∧
    (parse limit ts = .error .unexpectedEnd →
      Begins ts ∧ ∀ e n, ¬ Derives .expression ts e n) := by
  refine ⟨?_, ?_, ?_⟩
  · rintro text position (h | h)
    · obtain ⟨before, s, rest, rfl, hbefore, hhalts⟩ | ⟨⟨⟩, -⟩ := explained_of_parse h
      cases hhalts with
      | operand ht | operator ht =>
          exact ⟨before, _, _, rfl, rfl, rfl, begins_and_beginsNone hbefore ht⟩
    · obtain ⟨before, s, rest, rfl, hbefore, hhalts⟩ | ⟨⟨⟩, -⟩ := explained_of_parse h
      cases hhalts with
      | unknown _ ht => exact ⟨before, _, _, rfl, rfl, rfl, begins_and_beginsNone hbefore ht⟩
  · intro text position h
    obtain ⟨before, s, rest, rfl, hbefore, hhalts⟩ | ⟨⟨⟩, -⟩ := explained_of_parse h
    cases hhalts with
    | @argument depth t rest ht hrest =>
        have hname : (operand 0).through? (before ++ [t]) = some (argument depth) := by
          simp [hbefore, ht.next?_eq]
        refine ⟨before, t, rest, rfl, rfl, rfl, begins_of_through? hname, fun u hu => ?_⟩
        rw [show before ++ [t, u] = before ++ [t] ++ [u] by simp]
        exact (begins_and_beginsNone hname (hrest u hu)).2
  · intro h
    obtain ⟨before, s, rest, rfl, hbefore, hhalts⟩ | ⟨⟨⟩, -⟩ := explained_of_parse h
    cases hhalts with
    | atEnd hs =>
        rw [List.append_nil]
        refine ⟨begins_of_through? hbefore, fun e n hderives => hs ?_⟩
        exact Option.some_inj.1 (hbefore.symm.trans (hderives.through? 0))

/-- In `2*)` the parenthesis is blamed, as `2*` begins an expression. -/
example : parse 200 [⟨.number, ['2'], 0⟩, ⟨.operator, ['*'], 1⟩, ⟨.closing, [')'], 2⟩] =
    .error (.unexpected [')'] 2) := rfl

end CurveSketch
