import CurveSketch.Arithmetic
import CurveSketch.Datum
import CurveSketch.Expr.Parse
import CurveSketch.Expr.Program
import CurveSketch.Expr
import CurveSketch.NormalForm
import CurveSketch.Settings

/-!
# Curves

An expression that is ready to be evaluated.

* `Curve` — the text of an expression, its tree and its program.
* `Curve.valueAt`, `Curve.value` — the binary64 number, and the value, at a point.
* `readTree` — the tree of a text in normal form.
* `Curve.compile` — a curve from a text in normal form, if it has a finite value at some probe.
* `Curve.ofInput` — a curve from what a user types.
* **`Curve.valueAt_eq_eval`** — the program computes the value of the tree.
-/

namespace CurveSketch

open Number

/-- An expression that is ready to be evaluated. -/
structure Curve where
  text : List Char
  tree : Expr
  program : List Instr
  program_eq : program = tree.program

namespace Curve

/-- The curve of a tree that was read from a text. -/
def ofTree (text : List Char) (tree : Expr) : Curve := ⟨text, tree, tree.program, rfl⟩

/-- The binary64 number at a point. -/
def valueAt (c : Curve) (x : Float) : Float :=
  match run arithmetic x c.program [] with
  | some (y :: _) => y
  | _ => notANumber

/-- **The program computes the value of the tree.** -/
theorem valueAt_eq_eval (c : Curve) (x : Float) : c.valueAt x = c.tree.eval arithmetic x := by
  rw [valueAt, c.program_eq, Expr.program_eq, run_programThen]
  rfl

/-- The value at a point. -/
def value (c : Curve) (x : Float) : Value Float := .ofFloat (c.valueAt x)

/-- The binary64 number at a point given as a datum; NaN if the datum is no number. -/
def valueOf (c : Curve) (d : Datum) : Float :=
  match d.toFloat? with
  | some x => c.valueAt x
  | none => notANumber

/-- A curve in a line of text. -/
def shown (c : Curve) : String := "Evaluator(" ++ String.ofList (Text.quote c.text) ++ ")"

end Curve

/-- The tree of a text in normal form. -/
def readTree (limits : Limits) (text : List Char) : Except Rejection Expr := do
  let tokens ← Token.tokenize text
  if tokens.isEmpty then .error .empty
  else
    let tree ← parse limits.nesting tokens
    tree.checkSize limits.nodes limits.height
    .ok tree

namespace Curve

/-- The points where a curve has to have a finite value at least once. -/
def probePoints : List Float := [0.0, 1.0, -1.0, 0.5, 2.0]

/-- The curve of a text in normal form. -/
def compile (limits : Limits) (text : List Char) : Except Rejection Curve := do
  let tree ← readTree limits text
  let curve := ofTree text tree
  if probePoints.any fun x => (curve.valueAt x).isFinite then .ok curve
  else .error .noFiniteValue

/-- The curve of what a user types. -/
def ofInput (limits : Limits) (raw : List Char) : Except Rejection Curve := do
  let text ← normalize limits.inputLength raw
  compile limits text

end Curve

end CurveSketch
