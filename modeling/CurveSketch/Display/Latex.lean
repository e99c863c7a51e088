import CurveSketch.Expr.Parse
import CurveSketch.Number.Decimal

/-!
# Expressions in mathematical typesetting

* `Expr.latex` — the source of a typeset expression.

Quotients are set as fractions, products without a sign, and powers with the exponent raised; a
negative exponent makes a fraction, and the exponent of a trigonometric function stands behind its
name.
-/

namespace CurveSketch

open Number Parse

namespace Display

/-- A text between braces, which keep it together. -/
def braced (s : String) : String := "\x7b" ++ s ++ "\x7d"

/-- A text between parentheses that grow with it. -/
def enclosed (s : String) : String := "\\left(" ++ s ++ "\\right)"

/-- A fraction. -/
def fraction (above below : String) : String := "\\frac" ++ braced above ++ braced below

/-- A power. -/
def raised (base exponent : String) : String := base ++ "^" ++ braced exponent

/-- The argument of a function. -/
def argument (s : String) : String := braced ("\\left(" ++ s ++ " \\right)")

/-- The constant that a number is. -/
def constantOf? (x : Float) : Option Constant := Constant.all.find? fun c => constantValue c == x

/-- A whole number in digits, a constant by its sign, any other number to fifteen digits. -/
def number (x : Float) : String :=
  match constantOf? x with
  | some .pi => "\\pi"
  | some .e => "e"
  | none =>
    if x.isFinite && Float.floor x == x then String.ofList (fixed 0 x)
    else String.ofList (significant 15 x)

/-- The functions whose exponent stands behind their name, with their commands. -/
def trigonometric? : Fn → Option String
  | .sin => some "\\sin"
  | .cos => some "\\cos"
  | .tan => some "\\tan"
  | .csc => some "\\csc"
  | .sec => some "\\sec"
  | .cot => some "\\cot"
  | _ => none

/-- A call of a function. -/
def call (f : Fn) (a : String) : String :=
  match f with
  | .sin => "\\sin" ++ argument a
  | .cos => "\\cos" ++ argument a
  | .tan => "\\tan" ++ argument a
  | .csc => "\\csc" ++ argument a
  | .sec => "\\sec" ++ argument a
  | .cot => "\\cot" ++ argument a
  | .ln => "\\log" ++ argument a
  | .log => fraction ("\\log" ++ argument a) ("\\log" ++ argument "10")
  | .sqrt => "\\sqrt" ++ braced a
  | .abs => "\\left|" ++ braced a ++ "\\right|"
  | .floor => "\\left\\lfloor" ++ braced a ++ "\\right\\rfloor"
  | .ceil => "\\left\\lceil" ++ braced a ++ "\\right\\rceil"
  | .round => "\\left\\lfloor" ++ braced (a ++ " + " ++ fraction "1" "2") ++ "\\right\\rfloor"
  | .exp => raised "e" a

end Display

namespace Expr

open Display

/-- Whether an expression is a sum or a negated one, and needs parentheses within a product. -/
def isSum : Expr → Bool
  | signed .minus _ | binary .add _ _ | binary .sub _ _ => true
  | signed .plus e => e.isSum
  | _ => false

/-- Whether an expression needs parentheses as the base of a power. -/
def isCompound : Expr → Bool
  | number _ | var => false
  | signed .plus e => e.isCompound
  | call .exp _ | call .sqrt _ | call .log _ => true
  | call _ _ => false
  | _ => true

/-- An expression as a factor. -/
def asFactor (e : Expr) (s : String) : String := if e.isSum then enclosed s else s

/-- Two factors side by side, with a dot between two that are numbers there. -/
def besides (l r : String) : String :=
  let ends := l.toList.reverse.dropWhile fun c => c = ' ' || c = '\x7d'
  if ends.head?.any Char.isDigit && r.toList.head?.any Char.isDigit then l ++ " \\cdot " ++ r
  else l ++ " " ++ r

/-- The source of a typeset expression. -/
def latex : Expr → String
  | number x => Display.number x
  | var => "x"
  | signed .plus e => e.latex
  | signed .minus (number x) =>
    if (constantOf? x).isSome then "- " ++ Display.number x else "-" ++ Display.number x
  | signed .minus e => "- " ++ e.asFactor e.latex
  | binary .add l (signed .minus r) => l.latex ++ " - " ++ r.asFactor r.latex
  | binary .add l r => l.latex ++ " + " ++ r.latex
  | binary .sub l r => l.latex ++ " - " ++ r.asFactor r.latex
  | binary .mul (signed .minus (number n)) r =>
    "- " ++ besides (Display.number n) (r.asFactor r.latex)
  | binary .mul l r => besides (l.asFactor l.latex) (r.asFactor r.latex)
  | binary .div l r => fraction l.latex r.latex
  | binary .pow base (signed .minus (number n)) =>
    let under := if base.isCompound then enclosed base.latex else base.latex
    fraction "1" (if n == 1.0 then base.latex else raised under (Display.number n))
  | binary .pow (call f a) e =>
    match trigonometric? f with
    | some command => raised command e.latex ++ argument a.latex
    | none =>
      let base := Display.call f a.latex
      raised (if (call f a).isCompound then enclosed base else base) e.latex
  | binary .pow base e =>
    raised (if base.isCompound then enclosed base.latex else base.latex) e.latex
  | call f a => Display.call f a.latex

end Expr

end CurveSketch
