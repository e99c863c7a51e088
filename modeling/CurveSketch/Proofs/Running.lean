import CurveSketch.Expr.Program
import Mathlib.Tactic.Common

/-!
# Running the program of a tree

A tree is laid out by a walk with a stack of its own, and its program is run on a stack of values;
neither recurses.  Together they compute what recursion on the tree does.

* `run_append` — a program may be run in two stretches.
* `run_frame` — a run that finds all it needs on its own part of the stack does the same with more
  below, and leaves that as it was.
* **`run_program_eq_eval`** — the program of a tree pushes the value of the tree.  At every
  instruction the values it takes are the program's own: the stack never runs short, and nothing
  that lay there before is touched.
-/

namespace CurveSketch

variable {α : Type} {I : Interpretation α} {x : α}

/-- A program may be run in two stretches. -/
lemma run_append (first second : List Instr) (stack : List α) :
    run I x (first ++ second) stack = (run I x first stack).bind (run I x second) := by
  induction first generalizing stack with
  | nil => rfl
  | cons i first ih =>
      rw [List.cons_append, run, run]
      cases i.step I x stack with
      | none => rfl
      | some stack' => exact ih stack'

lemma run_singleton (i : Instr) (stack : List α) : run I x [i] stack = i.step I x stack := by
  rw [run]
  cases i.step I x stack <;> rfl

/-- An instruction that finds what it takes leaves what lies below. -/
lemma Instr.step_frame {i : Instr} {own own' : List α} (h : i.step I x own = some own')
    (below : List α) : i.step I x (own ++ below) = some (own' ++ below) := by
  cases i with
  | push v =>
      obtain rfl : I.number v :: own = own' := by simpa [Instr.step] using h
      rfl
  | pushVar =>
      obtain rfl : x :: own = own' := by simpa [Instr.step] using h
      rfl
  | negate =>
      obtain ⟨a, own, rfl⟩ : ∃ a rest, own = a :: rest := by
        cases own <;> simp [Instr.step] at h ⊢
      obtain rfl : I.negate a :: own = own' := by simpa [Instr.step] using h
      rfl
  | apply op =>
      obtain ⟨b, a, own, rfl⟩ : ∃ b a rest, own = b :: a :: rest := by
        rcases own with _ | ⟨b, _ | ⟨a, own⟩⟩ <;> simp [Instr.step] at h ⊢
      obtain rfl : I.binary op a b :: own = own' := by simpa [Instr.step] using h
      rfl
  | call f =>
      obtain ⟨a, own, rfl⟩ : ∃ a rest, own = a :: rest := by
        cases own <;> simp [Instr.step] at h ⊢
      obtain rfl : I.call f a :: own = own' := by simpa [Instr.step] using h
      rfl

/-- A run that finds all it takes on its own part of the stack leaves what lies below. -/
lemma run_frame {p : List Instr} {own own' : List α} (h : run I x p own = some own')
    (below : List α) : run I x p (own ++ below) = some (own' ++ below) := by
  induction p generalizing own with
  | nil =>
      obtain rfl : own = own' := by simpa [run] using h
      rfl
  | cons i p ih =>
      rw [run] at h
      split at h
      · next next hstep =>
        rw [run, Instr.step_frame hstep]
        exact ih h
      · simp at h

/-- A run that goes through has gone through every stretch of its program. -/
lemma run_stretch {done todo : List Instr} {stack final : List α} {i : Instr}
    (h : run I x (done ++ i :: todo) stack = some final) :
    ∃ own own', run I x done stack = some own ∧ i.step I x own = some own' := by
  rw [run_append, Option.bind_eq_some_iff] at h
  obtain ⟨own, hdone, h⟩ := h
  rw [run] at h
  split at h
  · next own' hstep => exact ⟨own, own', hdone, hstep⟩
  · simp at h

/-- **The program of a tree pushes the value of the tree**, whatever lies on the stack.  Before each
of its instructions the stack holds values of its own on top of what lay there, the instruction
works on those alone, and what lay there stays. -/
theorem run_program_eq_eval (I : Interpretation α) (x : α) (e : Expr) (below : List α) :
    run I x e.program below = some (e.eval I x :: below) ∧
    ∀ done i todo, e.program = done ++ i :: todo →
      ∃ own own', run I x done [] = some own ∧ i.step I x own = some own' ∧
        run I x done below = some (own ++ below) ∧
        run I x (done ++ [i]) below = some (own' ++ below) := by
  have hrun : ∀ stack, run I x e.program stack = some (e.eval I x :: stack) := fun stack => by
    rw [Expr.program_eq, run_programThen, run]
  refine ⟨hrun below, fun done i todo hsplit => ?_⟩
  have hempty := hrun []
  rw [hsplit] at hempty
  obtain ⟨own, own', hdone, hstep⟩ := run_stretch hempty
  have hbelow : run I x done below = some (own ++ below) := run_frame hdone below
  refine ⟨own, own', hdone, hstep, hbelow, ?_⟩
  rw [run_append, hbelow, Option.bind_some, run_singleton]
  exact Instr.step_frame hstep below

end CurveSketch
