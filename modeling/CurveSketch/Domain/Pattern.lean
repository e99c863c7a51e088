import CurveSketch.Text.Alphanumeric
import CurveSketch.Token
import CurveSketch.Vocabulary

/-!
# Restrictions of the domain that can be read off

Some restrictions show in the text of an expression: roots and logarithms of the variable, a
division by it, and the poles of trigonometric functions.

* `Restriction` — the restrictions.
* `callArguments` — the arguments of the calls of a function, as tokens.
* `argumentRestriction?` — the restriction by roots and logarithms, from the tokens.
* `textRestriction?` — the restriction by quotients and poles, from the text.
* `restriction?` — the first restriction that shows.
-/

namespace CurveSketch.Domain

open Text Token

/-- What restricts a domain. -/
inductive Restriction where
  /-- A root of the variable. -/
  | rootOfVariable
  /-- A root of something with the variable. -/
  | rootArgument
  /-- A logarithm of the variable. -/
  | logOfVariable
  /-- A logarithm of something with the variable. -/
  | logArgument
  /-- A division by the variable. -/
  | quotient
  /-- Poles at the odd multiples of a right angle. -/
  | halfPiPoles
  /-- Poles at the multiples of a straight angle. -/
  | piPoles
  deriving DecidableEq, Repr

/-- The wording of a restriction. -/
def Restriction.text : Restriction → String
  | rootOfVariable => "x ≥ 0"
  | rootArgument => "argument of √ must be ≥ 0"
  | logOfVariable => "x > 0"
  | logArgument => "argument of log must be > 0"
  | quotient => "x ≠ 0"
  | halfPiPoles => "x ≠ π/2 + nπ, where n is any integer"
  | piPoles => "x ≠ nπ, where n is any integer"

/-- Whether a token is the variable. -/
def isVariable (t : Token) : Bool := t.kind == .name && t.text == variableName

/-- Whether a token is the name of one of the functions. -/
def namesOneOf (fs : List Fn) (t : Token) : Bool := t.kind == .name && fs.any (·.name == t.text)

/-- The tokens up to the parenthesis that closes the one before them, where `depth` more are
open; `none` if it stays open. -/
def upToClosing (depth : Nat) : List Token → Option (List Token)
  | [] => none
  | t :: rest =>
    match t.kind, depth with
    | .opening, depth => (upToClosing (depth + 1) rest).map (t :: ·)
    | .closing, 0 => some []
    | .closing, depth + 1 => (upToClosing depth rest).map (t :: ·)
    | _, depth => (upToClosing depth rest).map (t :: ·)

/-- The argument of a call, from the tokens that follow the function's name. -/
def argument? : List Token → Option (List Token)
  | [] => none
  | t :: rest => if t.kind = .opening then upToClosing 0 rest else none

/-- The arguments of all calls of one of the functions. -/
def callArguments (fs : List Fn) : List Token → List (List Token)
  | [] => []
  | t :: rest =>
    (if namesOneOf fs t then (argument? rest).toList else []) ++ callArguments fs rest

/-- The restriction that calls of the functions make: `simple` if the variable alone is an
argument, `compound` if it is in one. -/
def argumentRestriction? (fs : List Fn) (simple compound : Restriction) (ts : List Token) :
    Option Restriction :=
  let arguments := callArguments fs ts
  if arguments.any fun a => a.length == 1 && a.any isVariable then some simple
  else if arguments.any fun a => a.any isVariable then some compound
  else none

/-- The restriction by roots, or else by logarithms. -/
def tokenRestriction? (ts : List Token) : Option Restriction :=
  argumentRestriction? [.sqrt] .rootOfVariable .rootArgument ts <|>
    argumentRestriction? [.log, .ln] .logOfVariable .logArgument ts

/-- Whether a text occurs in another. -/
def occurs (pattern : List Char) : List Char → Bool
  | [] => pattern.isEmpty
  | c :: rest => pattern.isPrefixOf (c :: rest) || occurs pattern rest

/-- Whether a text occurs in another at the beginning of a word; `inWord` tells whether a character
of a word precedes the other text. -/
def occursAsWord (pattern : List Char) (inWord : Bool) : List Char → Bool
  | [] => false
  | c :: rest =>
    (!inWord && pattern.isPrefixOf (c :: rest)) || occursAsWord pattern (isWordChar c) rest

/-- The call of a function on the variable. -/
def callOfVariable (f : Fn) : List Char := f.name ++ '(' :: variableName ++ [')']

/-- Whether a function is called on the variable. -/
def callsOnVariable (text : List Char) (f : Fn) : Bool :=
  occursAsWord (callOfVariable f) false text

/-- Whether one is divided by a function of the variable. -/
def dividesOneBy (text : List Char) (f : Fn) : Bool :=
  occurs ('1' :: '/' :: callOfVariable f) text

/-- The restriction that shows in a text without blanks. -/
def textRestriction? (text : List Char) : Option Restriction :=
  if occurs ('/' :: variableName) text then some .quotient
  else if [Fn.tan, .cot, .sec].any (callsOnVariable text) || dividesOneBy text .cos then
    some .halfPiPoles
  else if callsOnVariable text .csc || dividesOneBy text .sin then some .piPoles
  else none

/-- The tokens of a text, none if it cannot be split. -/
def tokensOf (text : List Char) : List Token :=
  match tokenize text with
  | .ok ts => ts
  | .error _ => []

/-- The first restriction that shows in an expression: one by roots, by logarithms, or one that is
read off the text without its spaces. -/
def restriction? (text : List Char) : Option Restriction :=
  tokenRestriction? (tokensOf text) <|> textRestriction? (text.filter (· ≠ ' '))

end CurveSketch.Domain
