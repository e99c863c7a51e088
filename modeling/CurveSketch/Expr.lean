import CurveSketch.Rejection
import CurveSketch.Vocabulary

/-!
# Expressions in one variable

* `Expr` — expression trees.
* `Interpretation` — what numbers, signs, operations and functions mean in some type of values.
* `Expr.eval` — the value of a tree under an interpretation.
* `Expr.nodes`, `Expr.height` — the size of a tree.
* `checkWaiting` — the walk over trees that wait, which counts nodes and stops at the first that is
  one too many or lies too deep.
* `Expr.checkSize` — the check of a whole tree: it may have only so many nodes, and be only so high.
-/

namespace CurveSketch

/-- A sign in front of an expression. -/
inductive Sign where
  | plus
  | minus
  deriving DecidableEq, Repr

/-- An expression in one variable. -/
inductive Expr where
  | number (value : Float)
  | var
  | signed (sign : Sign) (operand : Expr)
  | binary (op : Operator) (left right : Expr)
  | call (f : Fn) (argument : Expr)

/-- What the parts of an expression mean in a type of values. -/
structure Interpretation (α : Type) where
  number : Float → α
  negate : α → α
  binary : Operator → α → α → α
  call : Fn → α → α

namespace Expr

variable {α : Type}

/-- The value of an expression where the variable has the value `x`.  A plus sign changes
nothing. -/
def eval (I : Interpretation α) (x : α) : Expr → α
  | number v => I.number v
  | var => x
  | signed .plus e => e.eval I x
  | signed .minus e => I.negate (e.eval I x)
  | binary op l r => I.binary op (l.eval I x) (r.eval I x)
  | call f e => I.call f (e.eval I x)

/-- The number of nodes of a tree. -/
def nodes : Expr → Nat
  | number _ | var => 1
  | signed _ e | call _ e => e.nodes + 1
  | binary _ l r => l.nodes + r.nodes + 1

/-- A tree has a node. -/
theorem nodes_pos (e : Expr) : 0 < e.nodes := by cases e <;> simp [nodes]

/-- The height of a tree; that of a leaf is one. -/
def height : Expr → Nat
  | number _ | var => 1
  | signed _ e | call _ e => e.height + 1
  | binary _ l r => max l.height r.height + 1

/-- A leaf has a height already. -/
theorem height_pos (e : Expr) : 0 < e.height := by cases e <;> simp [height]

end Expr

/-! ## The size of an expression -/

/-- The number of nodes of the trees that wait. -/
def nodesOf : List (Expr × Nat) → Nat
  | [] => 0
  | (e, _) :: waiting => e.nodes + nodesOf waiting

/-- The walk over the trees that wait, each with the level of its root, after `count` nodes.  A node
is counted before its parts, and the right part of an operation before the left one. -/
def checkWaiting (nodeLimit heightLimit : Int) (count : Nat) :
    List (Expr × Nat) → Except Rejection Unit
  | [] => .ok ()
  | (e, level) :: waiting =>
    if nodeLimit < (count + 1 : Nat) then .error (.tooComplex nodeLimit)
    else if heightLimit < level then .error (.tooDeep heightLimit)
    else match e with
    | .number _ | .var => checkWaiting nodeLimit heightLimit (count + 1) waiting
    | .signed _ e | .call _ e =>
      checkWaiting nodeLimit heightLimit (count + 1) ((e, level + 1) :: waiting)
    | .binary _ l r =>
      checkWaiting nodeLimit heightLimit (count + 1)
        ((r, level + 1) :: (l, level + 1) :: waiting)
termination_by waiting => nodesOf waiting
decreasing_by all_goals simp only [nodesOf, Expr.nodes]; omega

/-- Check that a tree has at most so many nodes and is at most so high. -/
def Expr.checkSize (nodeLimit heightLimit : Int) (e : Expr) : Except Rejection Unit :=
  checkWaiting nodeLimit heightLimit 0 [(e, 1)]

end CurveSketch
