import CurveSketch.Expr
import CurveSketch.Number.Reading
import CurveSketch.Rejection
import CurveSketch.Token

/-!
# Reading an expression from tokens

The grammar, loosest first, where `a, …` stands for any number of repetitions:

* an *expression* is terms joined by `+` and `-`, grouped from the left;
* a *term* is signed factors joined by `*` and `/`, grouped from the left;
* a *signed factor* is a power, or a sign in front of a signed factor;
* a *power* is a primary, or a primary, `**` or `^`, and a signed factor;
* a *primary* is a number, the variable, a constant, an expression in parentheses, or the name of a
  function with an expression in parentheses.

So a sign binds looser than a power, and powers group from the right.

Signs, exponents and parentheses are the places where an expression holds a smaller one of the same
sort; each goes one level deeper, and the number of levels is limited.

* `parseSigned` — a signed factor with a number of levels left, by recursion on that number.
* `parse` — a whole list of tokens.
-/

namespace CurveSketch

open Text Number

namespace Parse

/-- Reads the front of a list of tokens, and leaves the rest. -/
abbrev Reader := List Token → Except Rejection (Expr × List Token)

/-- The sign an operator is in front of an expression. -/
def signOf? (t : Token) : Option Sign :=
  if t.isOperator ['+'] then some .plus
  else if t.isOperator ['-'] then some .minus
  else none

/-- The operation an operator is between terms. -/
def additive? (t : Token) : Option Operator :=
  if t.isOperator ['+'] then some .add
  else if t.isOperator ['-'] then some .sub
  else none

/-- The operation an operator is between factors. -/
def multiplicative? (t : Token) : Option Operator :=
  if t.isOperator ['*'] then some .mul
  else if t.isOperator ['/'] then some .div
  else none

/-- Whether an operator raises to a power, in either spelling. -/
def isPower (t : Token) : Bool := t.isOperator ['*', '*'] || t.isOperator ['^']

/-- The value of a number as it is written: digits with at most one point. -/
def numeral (text : List Char) : Float :=
  let whole := text.takeWhile isDigit
  let fraction := (text.dropWhile isDigit).drop 1
  ofDecimal (digitsValue (whole ++ fraction)) (-fraction.length)

/-- The value of a constant is that of its digits. -/
def constantValue (c : Constant) : Float := numeral c.digits

/-- Go on reading operands of a chain after the left part of it.  Every round takes an operator, so
as many rounds as there are tokens suffice. -/
def chainAfter (opOf? : Token → Option Operator) (operand : Reader) :
    (rounds : Nat) → Expr → Reader
  | 0, left, ts => .ok (left, ts)
  | _ + 1, left, [] => .ok (left, [])
  | rounds + 1, left, t :: rest =>
    match opOf? t with
    | none => .ok (left, t :: rest)
    | some op => do
      let (right, rest) ← operand rest
      chainAfter opOf? operand rounds (.binary op left right) rest

/-- Operands joined by operators, grouped from the left. -/
def chain (opOf? : Token → Option Operator) (operand : Reader) : Reader := fun ts => do
  let (left, rest) ← operand ts
  chainAfter opOf? operand rest.length left rest

/-- An expression, given how to read a signed factor. -/
def expression (signed : Reader) : Reader := chain additive? (chain multiplicative? signed)

/-- The reader of the next level, or a rejection if there is none. -/
def deeper (limit : Int) (next : Option Reader) : Reader := fun ts =>
  match next with
  | none => .error (.tooDeep limit)
  | some signed => signed ts

/-- An expression on the next level and the closing parenthesis behind it. -/
def group (limit : Int) (next : Option Reader) : Reader := fun ts => do
  let (e, rest) ← deeper limit (next.map expression) ts
  match rest with
  | [] => .error .unexpectedEnd
  | t :: rest => if t.kind = .closing then .ok (e, rest) else .error (.unexpected t.text t.position)

/-- A name and what belongs to it. -/
def named (limit : Int) (next : Option Reader) (t : Token) : Reader := fun rest =>
  if t.text = variableName then .ok (.var, rest)
  else match Constant.ofName? t.text, Fn.ofName? t.text with
    | some c, _ => .ok (.number (constantValue c), rest)
    | none, some f =>
      match rest with
      | paren :: rest =>
        if paren.kind = .opening then do
          let (e, rest) ← group limit next rest
          .ok (.call f e, rest)
        else .error (.missingArgument t.text t.position)
      | [] => .error (.missingArgument t.text t.position)
    | none, none => .error (.unknownName t.text t.position)

/-- A primary. -/
def primary (limit : Int) (next : Option Reader) : Reader
  | [] => .error .unexpectedEnd
  | t :: rest =>
    match t.kind with
    | .number => .ok (.number (numeral t.text), rest)
    | .opening => group limit next rest
    | .name => named limit next t rest
    | _ => .error (.unexpected t.text t.position)

/-- A power. -/
def power (limit : Int) (next : Option Reader) : Reader := fun ts => do
  let (base, rest) ← primary limit next ts
  match rest with
  | [] => .ok (base, [])
  | t :: after =>
    if isPower t then do
      let (exponent, rest) ← deeper limit next after
      .ok (.binary .pow base exponent, rest)
    else .ok (base, t :: after)

/-- A signed factor, given the reader of signed factors on the next level. -/
def signedWith (limit : Int) (next : Option Reader) : Reader
  | [] => power limit next []
  | t :: rest =>
    match signOf? t with
    | some sign => do
      let (e, rest) ← deeper limit next rest
      .ok (.signed sign e, rest)
    | none => power limit next (t :: rest)

/-- A signed factor with a number of levels left. -/
def parseSigned (limit : Int) : (levels : Nat) → Reader
  | 0 => signedWith limit none
  | levels + 1 => signedWith limit (some (parseSigned limit levels))

end Parse

open Parse

/-- Read a whole list of tokens as an expression. -/
def parse (limit : Int) (ts : List Token) : Except Rejection Expr := do
  let (e, rest) ← expression (parseSigned limit limit.toNat) ts
  match rest with
  | [] => .ok e
  | t :: _ => .error (.unexpected t.text t.position)

end CurveSketch
