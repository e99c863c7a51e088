/-!
# The vocabulary of expressions

* `Fn` — the functions, with their names.
* `Constant` — the named constants, with the digits that stand for them in normal form.
* `Operator` — the arithmetic operations, with their symbols in normal form.
* `Fn.reciprocalOf?` — the function a function is the reciprocal of.
-/

namespace CurveSketch

/-- The name of the free variable. -/
def variableName : List Char := ['x']

/-- The functions an expression may call.  `log` is the logarithm to base ten and `ln` the natural
one. -/
inductive Fn where
  | sin
  | cos
  | tan
  | csc
  | sec
  | cot
  | log
  | ln
  | sqrt
  | abs
  | floor
  | ceil
  | round
  | exp
  deriving DecidableEq, Repr

namespace Fn

/-- All functions. -/
def all : List Fn :=
  [sin, cos, tan, csc, sec, cot, log, ln, sqrt, abs, floor, ceil, round, exp]

/-- The name of a function. -/
def name : Fn → List Char
  | sin => ['s', 'i', 'n']
  | cos => ['c', 'o', 's']
  | tan => ['t', 'a', 'n']
  | csc => ['c', 's', 'c']
  | sec => ['s', 'e', 'c']
  | cot => ['c', 'o', 't']
  | log => ['l', 'o', 'g']
  | ln => ['l', 'n']
  | sqrt => ['s', 'q', 'r', 't']
  | abs => ['a', 'b', 's']
  | floor => ['f', 'l', 'o', 'o', 'r']
  | ceil => ['c', 'e', 'i', 'l']
  | round => ['r', 'o', 'u', 'n', 'd']
  | exp => ['e', 'x', 'p']

/-- The function with a name. -/
def ofName? (text : List Char) : Option Fn := all.find? (·.name = text)

/-- A function is found by its name. -/
theorem ofName?_name (f : Fn) : ofName? f.name = some f := by cases f <;> decide

/-- Functions are found by their names alone. -/
theorem ofName?_eq_some_iff {text : List Char} {f : Fn} : ofName? text = some f ↔ text = f.name := by
  constructor
  · intro h
    have := List.find?_some h
    exact (of_decide_eq_true this).symm
  · rintro rfl
    exact ofName?_name f

/-- No two functions have one name. -/
theorem name_injective {f g : Fn} (h : f.name = g.name) : f = g :=
  Option.some.inj ((ofName?_name f).symm.trans (ofName?_eq_some_iff.2 h))

/-- No function has the name of the variable. -/
theorem name_ne_variableName (f : Fn) : f.name ≠ variableName := by cases f <;> decide

/-- Cosecant, secant and cotangent are the reciprocals of sine, cosine and tangent. -/
def reciprocalOf? : Fn → Option Fn
  | csc => some sin
  | sec => some cos
  | cot => some tan
  | _ => none

end Fn

/-- The named constants. -/
inductive Constant where
  | pi
  | e
  deriving DecidableEq, Repr

namespace Constant

/-- All constants. -/
def all : List Constant := [pi, e]

/-- The name of a constant. -/
def name : Constant → List Char
  | pi => ['p', 'i']
  | e => ['e']

/-- The digits that stand for a constant: as many as tell its binary64 value apart. -/
def digits : Constant → List Char
  | pi => "3.141592653589793".toList
  | e => "2.718281828459045".toList

/-- The constant with a name. -/
def ofName? (text : List Char) : Option Constant := all.find? (·.name = text)

/-- A constant is found by its name. -/
theorem ofName?_name (c : Constant) : ofName? c.name = some c := by cases c <;> decide

/-- Constants are found by their names alone. -/
theorem ofName?_eq_some_iff {text : List Char} {c : Constant} :
    ofName? text = some c ↔ text = c.name := by
  constructor
  · intro h
    have := List.find?_some h
    exact (of_decide_eq_true this).symm
  · rintro rfl
    exact ofName?_name c

/-- No constant has the name of the variable. -/
theorem name_ne_variableName (c : Constant) : c.name ≠ variableName := by cases c <;> decide

theorem ofName?_variableName : ofName? variableName = none := by decide

theorem ofName?_function (f : Fn) : ofName? f.name = none := by cases f <;> decide

/-- No constant has the name of a function. -/
theorem name_ne_function (c : Constant) (f : Fn) : c.name ≠ f.name := fun h =>
  Option.some_ne_none c ((ofName?_eq_some_iff.2 h.symm).symm.trans (ofName?_function f))

end Constant

/-- The arithmetic operations. -/
inductive Operator where
  | add
  | sub
  | mul
  | div
  | pow
  deriving DecidableEq, Repr

namespace Operator

/-- All operations. -/
def all : List Operator := [add, sub, mul, div, pow]

/-- The symbol of an operation in normal form. -/
def symbol : Operator → List Char
  | add => ['+']
  | sub => ['-']
  | mul => ['*']
  | div => ['/']
  | pow => ['*', '*']

/-- The operation with a symbol. -/
def ofSymbol? (text : List Char) : Option Operator := all.find? (·.symbol = text)

end Operator

end CurveSketch
