import CurveSketch.Expr

/-!
# Expressions as programs for a stack

A tree is laid out in postfix order, so that its value is found with a stack and no recursion.

* `Instr` — the instructions: push a number or the variable, negate, and apply an operation or a
  function to what is on top.
* `layOut`, `Expr.program` — the walk over a tree that lays it out, with the nodes that still wait
  on a stack of its own, and the program it gives.
* `run` — running a program, under any interpretation; `none` if it would take a value from an
  empty stack.
* `Expr.programThen` — the program of a tree by recursion on the tree, with what follows it.
* **`layOut_cons`** — the walk lays out the tree on top as `Expr.programThen` does.
* **`run_programThen`** — the program of a tree pushes the value of the tree and leaves what lies
  below.
-/

namespace CurveSketch

/-- An instruction for a stack of values. -/
inductive Instr where
  | push (value : Float)
  | pushVar
  | negate
  | apply (op : Operator)
  | call (f : Fn)

/-! ## The walk over a tree -/

/-- A node that waits in the walk over a tree, and whether its parts are laid out already. -/
abbrev Visit := Expr × Bool

/-- How many rounds of the walk a waiting node takes at most. -/
def Visit.rounds : Visit → Nat
  | (_, true) => 1
  | (e, false) => 2 * e.nodes

/-- Every waiting node takes a round. -/
theorem Visit.rounds_pos : ∀ v : Visit, 0 < v.rounds
  | (_, true) => Nat.one_pos
  | (e, false) => Nat.mul_pos Nat.two_pos e.nodes_pos

/-- The rounds that all waiting nodes take. -/
def roundsOf : List Visit → Nat
  | [] => 0
  | v :: waiting => v.rounds + roundsOf waiting

/-- The walk over the nodes that wait, the next one first.  A leaf is laid out at once; any other
node first waits again below its parts, the left one on top.  A plus sign has no instruction. -/
def layOut : List Visit → List Instr
  | [] => []
  | (.number v, _) :: waiting => .push v :: layOut waiting
  | (.var, _) :: waiting => .pushVar :: layOut waiting
  | (.signed .plus _, true) :: waiting => layOut waiting
  | (.signed .minus _, true) :: waiting => .negate :: layOut waiting
  | (.binary op _ _, true) :: waiting => .apply op :: layOut waiting
  | (.call f _, true) :: waiting => .call f :: layOut waiting
  | (.signed s e, false) :: waiting => layOut ((e, false) :: (.signed s e, true) :: waiting)
  | (.binary op l r, false) :: waiting =>
    layOut ((l, false) :: (r, false) :: (.binary op l r, true) :: waiting)
  | (.call f e, false) :: waiting => layOut ((e, false) :: (.call f e, true) :: waiting)
termination_by waiting => roundsOf waiting
decreasing_by
  all_goals simp only [roundsOf]
  iterate 2 exact Nat.lt_add_of_pos_left (Visit.rounds_pos _)
  all_goals simp only [Visit.rounds, Expr.nodes]; omega

/-- The program of a tree. -/
def Expr.program (e : Expr) : List Instr := layOut [(e, false)]

/-- The program of a tree, followed by other instructions, by recursion on the tree. -/
def Expr.programThen : Expr → List Instr → List Instr
  | .number v, k => .push v :: k
  | .var, k => .pushVar :: k
  | .signed .plus e, k => e.programThen k
  | .signed .minus e, k => e.programThen (.negate :: k)
  | .binary op l r, k => l.programThen (r.programThen (.apply op :: k))
  | .call f e, k => e.programThen (.call f :: k)

/-- **The walk lays out the tree on top**, and then whatever waits below it. -/
theorem layOut_cons (e : Expr) (waiting : List Visit) :
    layOut ((e, false) :: waiting) = e.programThen (layOut waiting) := by
  induction e generalizing waiting with
  | number v => rw [layOut, Expr.programThen]
  | var => rw [layOut, Expr.programThen]
  | signed s e ih => cases s <;> rw [layOut, ih, layOut, Expr.programThen]
  | binary op l r ihl ihr => rw [layOut, ihl, ihr, layOut, Expr.programThen]
  | call f e ih => rw [layOut, ih, layOut, Expr.programThen]

/-- The program of a tree by recursion on the tree. -/
theorem Expr.program_eq (e : Expr) : e.program = e.programThen [] := by
  rw [Expr.program, layOut_cons, layOut]

/-! ## Running a program -/

variable {α : Type}

/-- What one instruction does to the stack. -/
def Instr.step (I : Interpretation α) (x : α) : Instr → List α → Option (List α)
  | push v, stack => some (I.number v :: stack)
  | pushVar, stack => some (x :: stack)
  | negate, a :: stack => some (I.negate a :: stack)
  | apply op, b :: a :: stack => some (I.binary op a b :: stack)
  | call f, a :: stack => some (I.call f a :: stack)
  | _, _ => none

/-- Run a program on a stack. -/
def run (I : Interpretation α) (x : α) : List Instr → List α → Option (List α)
  | [], stack => some stack
  | i :: rest, stack =>
    match i.step I x stack with
    | some stack => run I x rest stack
    | none => none

/-- **The program of a tree pushes the value of the tree**, whatever lies on the stack and whatever
follows. -/
theorem run_programThen (I : Interpretation α) (x : α) (e : Expr) (k : List Instr)
    (stack : List α) : run I x (e.programThen k) stack = run I x k (e.eval I x :: stack) := by
  induction e generalizing k stack with
  | number v => rfl
  | var => rfl
  | signed s e ih => cases s <;> simp [Expr.programThen, Expr.eval, ih, run, Instr.step]
  | binary op l r ihl ihr => simp [Expr.programThen, Expr.eval, ihl, ihr, run, Instr.step]
  | call f e ih => simp [Expr.programThen, Expr.eval, ih, run, Instr.step]

end CurveSketch
