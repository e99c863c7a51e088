import CurveSketch.Text.Lowercase
import CurveSketch.Token
import CurveSketch.Vocabulary

/-!
# The normal form of an expression

What a user types is brought into one form that the parser reads: small letters, `**` for powers,
digits for constants, no reciprocal functions, a sign for every product, and balanced parentheses.

**Names and powers.**  `NormalForm.readPowers`: the caret is the power operator.
`NormalForm.readConstants`: the name of a constant becomes its digits.  `NormalForm.classify`: every
name left is the variable or a function; any other name is rejected.

**Parentheses.**  `NormalForm.matching`: the pairs of places at which a parenthesis opens and closes.
Closing parentheses without a partner are passed over, and opening ones without a partner are in no
pair.  `NormalForm.checkParentheses`: the first imbalance, which is a closing parenthesis too many or
opening ones that stay open.

**Reciprocal functions.**  A call of cosecant, secant or cotangent becomes one over the sine, cosine
or tangent, in parentheses: `csc(a)` is written `(1/sin(a))`.  `NormalForm.expandReciprocals`: all
such calls written out, nested ones included.  Only a call whose parenthesis is closed is written
out, so that the check of parentheses sees the others as they were.

**Products without a sign.**  `NormalForm.multiplies`: the kinds of neighbours that are multiplied
although no operator stands between them, as in `2x`, `(x+1)(x-1)` or `x(x+1)`.
`NormalForm.insertTimes`: the star written between all such neighbours.

**The normal form.**

* `normalTokens` — the tokens of the normal form, from the tokens of an input.
* `sourceText` — the text of an input that is split into tokens.
* `normalize` — the text of the normal form.
-/

namespace CurveSketch

namespace NormalForm

/-! ## Names and powers -/

/-- The caret written as the power operator. -/
def readPower (t : Token) : Token :=
  if t.isOperator ['^'] then { t with text := Operator.pow.symbol } else t

/-- The name of a constant replaced by its digits. -/
def readConstant (t : Token) : Token :=
  if t.kind = .name then
    match Constant.ofName? t.text with
    | some c => { t with kind := .const, text := c.digits }
    | none => t
  else t

/-- Every caret written as the power operator. -/
def readPowers (ts : List Token) : List Token := ts.map readPower

/-- Every name of a constant replaced by its digits. -/
def readConstants (ts : List Token) : List Token := ts.map readConstant

/-- What a name stands for. -/
def classifyName (t : Token) : Except Rejection Token :=
  if t.kind = .name then
    if t.text = variableName then .ok { t with kind := .var }
    else match Fn.ofName? t.text with
      | some _ => .ok { t with kind := .func }
      | none => .error (.unknownName t.text t.position)
  else .ok t

/-- What all names stand for, or the first that stands for nothing. -/
def classify : List Token → Except Rejection (List Token)
  | [] => .ok []
  | t :: rest => do
    let t ← classifyName t
    let rest ← classify rest
    .ok (t :: rest)

/-! ## Parentheses -/

/-- The pairs found from an index on, where `opened` holds the places that are still open, the
innermost first. -/
def matchingFrom (index : Nat) (opened : List Nat) : List Token → List (Nat × Nat)
  | [] => []
  | t :: rest =>
    match t.kind, opened with
    | .opening, _ => matchingFrom (index + 1) (index :: opened) rest
    | .closing, start :: outer => (start, index) :: matchingFrom (index + 1) outer rest
    | _, _ => matchingFrom (index + 1) opened rest

/-- The pairs of places at which a parenthesis opens and closes. -/
def matching (ts : List Token) : List (Nat × Nat) := matchingFrom 0 [] ts

/-- Whether a parenthesis that opens at a place is in a pair. -/
def opensPair (pairs : List (Nat × Nat)) (index : Nat) : Bool := pairs.any (·.1 == index)

/-- Check the parentheses of tokens that `depth` open ones precede. -/
def checkFrom (depth : Nat) : List Token → Except Rejection Unit
  | [] => if depth = 0 then .ok () else .error (.unclosed depth)
  | t :: rest =>
    match t.kind, depth with
    | .opening, depth => checkFrom (depth + 1) rest
    | .closing, 0 => .error (.strayCloser t.position)
    | .closing, depth + 1 => checkFrom depth rest
    | _, depth => checkFrom depth rest

/-- Check that every parenthesis has a partner. -/
def checkParentheses (ts : List Token) : Except Rejection Unit := checkFrom 0 ts

/-! ## Reciprocal functions -/

/-- The function whose reciprocal a token names. -/
def reciprocalBase? (t : Token) : Option Fn :=
  if t.kind = .func then (Fn.ofName? t.text).bind Fn.reciprocalOf? else none

/-- What is written for the name of a reciprocal function, up to the parenthesis of the call. -/
def reciprocalHead (base : Fn) (position : Nat) : List Token :=
  [⟨.opening, ['('], position⟩, ⟨.number, ['1'], position⟩, ⟨.operator, ['/'], position⟩,
    ⟨.func, base.name, position⟩]

/-- The tokens from an index on, with calls written out.  `opened` holds for every parenthesis that
is open, innermost first, whether its closing also closes a reciprocal. -/
def expandFrom (pairs : List (Nat × Nat)) (index : Nat) (opened : List Bool) :
    List Token → List Token
  | [] => []
  | [t] => closeReciprocal t opened
  | t :: next :: rest =>
    match reciprocalBase? t, opensPair pairs (index + 1) with
    | some base, true =>
      reciprocalHead base t.position ++ next :: expandFrom pairs (index + 2) (true :: opened) rest
    | _, _ =>
      closeReciprocal t opened ++ expandFrom pairs (index + 1) (stillOpen t opened) (next :: rest)
where
  /-- A token, and the parenthesis that closes a reciprocal if the token closes its call. -/
  closeReciprocal (t : Token) (opened : List Bool) : List Token :=
    match t.kind, opened with
    | .closing, true :: _ => [t, ⟨.closing, [')'], t.position⟩]
    | _, _ => [t]
  /-- What is open after a token. -/
  stillOpen (t : Token) (opened : List Bool) : List Bool :=
    match t.kind, opened with
    | .opening, opened => false :: opened
    | .closing, _ :: outer => outer
    | _, opened => opened

/-- Every closed call of a reciprocal function written out. -/
def expandReciprocals (ts : List Token) : List Token := expandFrom (matching ts) 0 [] ts

/-! ## Products without a sign -/

/-- Whether neighbours of these kinds are multiplied.  Two numbers never are, and neither are a
function's name and its parenthesis. -/
def multiplies : (left right : Token.Kind) → Bool
  | .number, .var | .number, .func | .number, .const | .number, .opening => true
  | .closing, .var | .closing, .func | .closing, .const | .closing, .number
  | .closing, .opening => true
  | .var, .opening | .var, .const => true
  | .const, .number | .const, .const | .const, .var | .const, .func | .const, .opening => true
  | _, _ => false

/-- The star, at the place of the right neighbour. -/
def times (position : Nat) : Token := ⟨.operator, Operator.mul.symbol, position⟩

/-- The star written between neighbours that are multiplied. -/
def insertTimes : List Token → List Token
  | [] => []
  | [t] => [t]
  | t :: next :: rest =>
    if multiplies t.kind next.kind then t :: times next.position :: insertTimes (next :: rest)
    else t :: insertTimes (next :: rest)

end NormalForm

/-! ## The normal form -/

open Text Token NormalForm

/-- The tokens of the normal form.  The order of the steps matters: names are told apart before
reciprocals and products are looked for, and parentheses are checked last, so that an unknown name
is reported before an imbalance. -/
def normalTokens (ts : List Token) : Except Rejection (List Token) := do
  let named ← classify (readConstants (readPowers ts))
  let written := insertTimes (expandReciprocals named)
  checkParentheses written
  .ok written

/-- The text of an input that is split into tokens, if the input is neither empty nor too long.
The length is that of the input without the blanks at its ends, before letters are made small. -/
def sourceText (limit : Int) (raw : List Char) : Except Rejection (List Char) :=
  let text := trim raw
  if text.isEmpty then .error .empty
  else if limit < text.length then .error (.tooLong limit)
  else .ok (lowercase text)

/-- The text of the normal form of an input. -/
def normalize (limit : Int) (raw : List Char) : Except Rejection (List Char) := do
  let text ← sourceText limit raw
  let tokens ← tokenize text
  let written ← normalTokens tokens
  .ok (render written)

end CurveSketch
