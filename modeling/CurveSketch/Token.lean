import CurveSketch.Rejection
import CurveSketch.Text.Alphanumeric

/-!
# Tokens

From left to right, blanks are passed over and the longest token that begins the rest is taken.
Tokens are written one after another again.  A blank is put only where two of them would read as one:
a number or name before a number or name, and a star before a star.

* `Token` — a piece of an expression: its kind, its text, and where it stands.
* `Token.Kind` — numbers, names, operators and the two parentheses.  In normal form names are told
  apart: `var`, `const` and `func`.
* `Token.lexeme?` — the longest token at the front of a text, with what follows it.
* **`Token.lexeme?_append`** — a token and what follows it make up the text again, and the token is
  not empty.
* `Token.tokenize` — all tokens of a text, or the first character that begins none.
* `Token.merges` — whether two texts would read as one.
* `Token.render` — the text of a list of tokens.
-/

namespace CurveSketch

/-- The kinds of tokens.  A text splits into the first five; the last three are what names turn
out to be. -/
inductive Token.Kind where
  | number
  | name
  | operator
  | opening
  | closing
  | var
  | const
  | func
  deriving DecidableEq, Repr

/-- A piece of an expression. -/
structure Token where
  kind : Token.Kind
  text : List Char
  position : Nat
  deriving DecidableEq, Repr

namespace Token

/-- Whether the token is an operator with one of the given texts. -/
def isOperator (t : Token) (text : List Char) : Bool := t.kind == .operator && t.text == text

/-- Kind and text of a token, without its place. -/
def shape (t : Token) : Kind × List Char := (t.kind, t.text)

open Text

/-! ## Splitting a text into tokens -/

/-- A number that begins with a digit: digits, and a point with the digits after it if there is a
point. -/
def numberText (cs : List Char) : List Char × List Char :=
  match cs.dropWhile isDigit with
  | '.' :: rest => (cs.takeWhile isDigit ++ '.' :: rest.takeWhile isDigit, rest.dropWhile isDigit)
  | rest => (cs.takeWhile isDigit, rest)

/-- The operator or parenthesis that a character makes, the star by itself. -/
def symbolKind? : Char → Option Kind
  | '+' | '-' | '*' | '/' | '^' => some .operator
  | '(' => some .opening
  | ')' => some .closing
  | _ => none

/-- The longest token at the front of a text, with what follows it. -/
def lexeme? : List Char → Option (Kind × List Char × List Char)
  | [] => none
  | c :: rest =>
    if isDigit c then some (.number, numberText (c :: rest))
    else if isLetter c then
      some (.name, (c :: rest).takeWhile isLetter, (c :: rest).dropWhile isLetter)
    else match c, rest with
      | '.', d :: _ =>
        if isDigit d then some (.number, '.' :: rest.takeWhile isDigit, rest.dropWhile isDigit)
        else none
      | '*', '*' :: rest => some (.operator, ['*', '*'], rest)
      | c, rest => (symbolKind? c).map fun kind => (kind, [c], rest)

/-- A number and what follows it make up the text. -/
theorem numberText_append (cs : List Char) : (numberText cs).1 ++ (numberText cs).2 = cs := by
  unfold numberText
  split
  · next rest h =>
    rw [List.append_assoc, List.cons_append, List.takeWhile_append_dropWhile, ← h,
      List.takeWhile_append_dropWhile]
  · exact List.takeWhile_append_dropWhile

/-- A number that begins with a digit is not empty. -/
theorem numberText_ne_nil {c : Char} (cs : List Char) (h : isDigit c = true) :
    (numberText (c :: cs)).1 ≠ [] := by
  unfold numberText
  split <;> simp [h]

/-- **A token and what follows it make up the text**, and the token is not empty. -/
theorem lexeme?_append {cs text rest : List Char} {kind : Kind}
    (h : lexeme? cs = some (kind, text, rest)) : text ++ rest = cs ∧ text ≠ [] := by
  unfold lexeme? at h
  split at h
  · exact absurd h (by simp)
  · next c tail =>
    split at h
    · next hd =>
      simp only [Option.some.injEq, Prod.mk.injEq] at h
      have := numberText_append (c :: tail)
      have ne := numberText_ne_nil tail hd
      rw [h.2] at this ne
      exact ⟨this, ne⟩
    · split at h
      · next hl =>
        simp only [Option.some.injEq, Prod.mk.injEq] at h
        obtain ⟨-, rfl, rfl⟩ := h
        exact ⟨List.takeWhile_append_dropWhile, by simp [hl]⟩
      · split at h
        · split at h
          · simp only [Option.some.injEq, Prod.mk.injEq] at h
            obtain ⟨-, rfl, rfl⟩ := h
            exact ⟨by rw [List.cons_append, List.takeWhile_append_dropWhile], by simp⟩
          · exact absurd h (by simp)
        · simp only [Option.some.injEq, Prod.mk.injEq] at h
          obtain ⟨-, rfl, rfl⟩ := h
          simp
        · obtain ⟨kind', -, h⟩ := Option.map_eq_some_iff.1 h
          simp only [Prod.mk.injEq] at h
          obtain ⟨-, rfl, rfl⟩ := h
          simp

/-- What follows a token is shorter than the text. -/
theorem length_of_lexeme? {cs text rest : List Char} {kind : Kind}
    (h : lexeme? cs = some (kind, text, rest)) : rest.length < cs.length := by
  obtain ⟨rfl, ne⟩ := lexeme?_append h
  have := List.length_pos_iff.2 ne
  simp only [List.length_append]
  omega

/-- The tokens of a text that begins at the given position. -/
def tokenizeFrom (position : Nat) (cs : List Char) : Except Rejection (List Token) :=
  match cs with
  | [] => .ok []
  | c :: rest =>
    if isBlank c then tokenizeFrom (position + 1) rest
    else match _h : lexeme? (c :: rest) with
      | none => .error (.invalidCharacter c position)
      | some (kind, text, after) =>
        (tokenizeFrom (position + text.length) after).map (⟨kind, text, position⟩ :: ·)
termination_by cs.length
decreasing_by
  · simp
  · exact length_of_lexeme? ‹_›

/-- The tokens of a text. -/
def tokenize (cs : List Char) : Except Rejection (List Token) := tokenizeFrom 0 cs

/-! ## Writing tokens as text -/

/-- Whether a character can go on a number or a name. -/
def isJoining (c : Char) : Bool := isAlphanumeric c || c == '.'

/-- Whether two texts, written without a blank, would read as one token. -/
def merges (left right : List Char) : Bool :=
  if left.getLast?.any isJoining then right.head?.any isJoining
  else left == ['*'] && right.head? == some '*'

/-- The text of the tokens that follow a token with the text `left`. -/
def renderAfter (left : List Char) : List Token → List Char
  | [] => []
  | t :: rest =>
    (if merges left t.text then ' ' :: t.text else t.text) ++ renderAfter t.text rest

/-- The text of a list of tokens. -/
def render : List Token → List Char
  | [] => []
  | t :: rest => t.text ++ renderAfter t.text rest

end Token

end CurveSketch
