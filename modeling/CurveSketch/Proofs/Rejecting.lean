import CurveSketch.Rejection
import Mathlib.Tactic.Common

/-!
# Steps that may reject

The reader of expressions and the passes of the normal form are chains of steps each of which may
reject.  A chain goes through when every step of it does, and ends at the first step that rejects;
the lemmas here take such a chain apart, so that no later proof opens a bind again.
-/

namespace CurveSketch

variable {α β ε : Type}

/-- A chain goes through exactly when its first step and the rest do. -/
lemma bind_eq_ok_iff {step : Except ε α} {next : α → Except ε β} {b : β} :
    step >>= next = .ok b ↔ ∃ a, step = .ok a ∧ next a = .ok b := by
  cases step with
  | error r => simp [bind, Except.bind]
  | ok a => simp [bind, Except.bind]

/-- A chain rejects exactly when its first step does, or goes through and the rest rejects. -/
lemma bind_eq_error_iff {step : Except ε α} {next : α → Except ε β} {r : ε} :
    step >>= next = .error r ↔ step = .error r ∨ ∃ a, step = .ok a ∧ next a = .error r := by
  cases step with
  | error r' => simp [bind, Except.bind]
  | ok a => simp [bind, Except.bind]

/-- After a step that goes through comes the rest of the chain. -/
@[simp] lemma ok_bind (a : α) (next : α → Except ε β) : (Except.ok a >>= next) = next a := rfl

/-- A step that rejects ends the chain. -/
@[simp] lemma error_bind (r : ε) (next : α → Except ε β) :
    (Except.error r >>= next) = .error r := rfl

lemma exists_ok_of_isSome {step : Except ε α} (h : step.toOption.isSome = true) :
    ∃ a, step = .ok a := by
  cases step with
  | error r => cases h
  | ok a => exact ⟨a, rfl⟩

/-- A step rejects if it does so whatever becomes of its result. -/
lemma eq_error_of_map {step : Except ε α} {f : α → β} {r : ε} (h : step.map f = .error r) :
    step = .error r := by
  cases step with
  | error r' => exact congrArg Except.error (Except.error.inj h)
  | ok a => cases h

end CurveSketch
