import CurveSketch.Text.Quoted

/-!
# Why an expression is rejected

* `Rejection` — the causes, each with what its message needs to name.
* `Rejection.Family`, `Rejection.code`, `Rejection.position?`, `Rejection.message` — how a cause is
  reported.
* `Notice` — a report by itself: family, code, position and wording.  `Rejection.notice` makes the
  report of a cause.

Positions count characters of the text that was split into tokens, from zero.
-/

namespace CurveSketch

open Text

/-- The cause of a rejection. -/
inductive Rejection where
  /-- There is nothing but blanks. -/
  | empty
  /-- The text has more characters than allowed. -/
  | tooLong (limit : Int)
  /-- No token begins with this character. -/
  | invalidCharacter (c : Char) (position : Nat)
  /-- The name stands for nothing. -/
  | unknownName (name : List Char) (position : Nat)
  /-- A closing parenthesis has no partner. -/
  | strayCloser (position : Nat)
  /-- Opening parentheses have no partner. -/
  | unclosed (count : Nat)
  /-- A token stands where no token of its sort can. -/
  | unexpected (text : List Char) (position : Nat)
  /-- Tokens are missing at the end. -/
  | unexpectedEnd
  /-- No opening parenthesis follows the name of a function. -/
  | missingArgument (name : List Char) (position : Nat)
  /-- The expression is nested too deeply. -/
  | tooDeep (limit : Int)
  /-- The expression has too many parts. -/
  | tooComplex (limit : Int)
  /-- The expression has no finite value at any probe. -/
  | noFiniteValue
  deriving DecidableEq, Repr

namespace Rejection

/-- The families of causes.  `general` is for reports that name no cause of their own. -/
inductive Family where
  | general
  | empty
  | tooLong
  | malformed
  | unevaluable
  deriving DecidableEq, Repr

/-- The code of a family, for reports that have no code of their own. -/
def Family.code : Family → String
  | general => "COMPILE_ERROR"
  | empty => "EMPTY_INPUT"
  | tooLong => "TOO_LONG"
  | malformed => "SYNTAX_ERROR"
  | unevaluable => "NO_NUMERIC_RESULT"

/-- The family of a cause. -/
def family : Rejection → Family
  | .empty => .empty
  | .tooLong _ => .tooLong
  | .noFiniteValue => .unevaluable
  | _ => .malformed

/-- The code of a cause. -/
def code : Rejection → String
  | invalidCharacter _ _ => "INVALID_CHARACTER"
  | unknownName _ _ => "UNKNOWN_IDENTIFIER"
  | strayCloser _ | unclosed _ => "UNBALANCED_PARENS"
  | tooDeep _ => "TOO_DEEP"
  | tooComplex _ => "TOO_COMPLEX"
  | r => r.family.code

/-- The position a cause points to. -/
def position? : Rejection → Option Nat
  | invalidCharacter _ p | unknownName _ p | strayCloser p | unexpected _ p
  | missingArgument _ p => some p
  | _ => none

/-- The wording of a cause. -/
def message : Rejection → String
  | empty => "Expression cannot be empty"
  | tooLong limit => s!"Input too long (>{limit} characters)"
  | invalidCharacter c p => s!"Invalid character {String.ofList (quote [c])} at position {p}"
  | unknownName name p => s!"Unknown identifier '{String.ofList name}' at position {p}"
  | strayCloser p => s!"Mismatched parentheses: unexpected ')' at position {p}"
  | unclosed count =>
    s!"Mismatched parentheses: {count} unclosed parenthesis" ++ if 1 < count then "es" else ""
  | unexpected text p => s!"Unexpected '{String.ofList text}' at position {p}"
  | unexpectedEnd => "Unexpected end of expression"
  | missingArgument name p =>
    s!"Function '{String.ofList name}' at position {p} must be followed by '('"
  | tooDeep limit => s!"Expression too deeply nested (>{limit} levels)"
  | tooComplex limit => s!"Expression too complex (>{limit} nodes)"
  | noFiniteValue => "Expression does not produce valid numeric results"

end Rejection

/-- A report of a rejection. -/
structure Notice where
  family : Rejection.Family
  message : String
  code : String
  position : Option Int
  deriving DecidableEq, Repr

/-- A report with the given code, or the code of its family if that is missing or empty.  Only
malformed expressions have positions. -/
def Notice.make (family : Rejection.Family) (message : String) (code : Option String)
    (position : Option Int) : Notice where
  family
  message
  code := match code with
    | some c => if c.isEmpty then family.code else c
    | none => family.code
  position := if family = .malformed then position else none

/-- The report of a cause. -/
def Rejection.notice (r : Rejection) : Notice where
  family := r.family
  message := r.message
  code := r.code
  position := r.position?.map Int.ofNat

end CurveSketch
