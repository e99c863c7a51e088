import CurveSketch.Expr
import Mathlib.Tactic.Common

/-!
# Trees that are small enough

The walk that measures a tree keeps the nodes that wait on a stack, counts all of them together, and
stops as soon as one is too many or lies too deep.  So two things are said of the whole stack: how many
nodes there are on it, and how deep each of its trees reaches.

* `ReachAtMost` — no tree that waits reaches beyond a level.
* **`within_of_checkWaiting`** — where the walk comes to its end, nodes and levels are within their
  limits.
* **`exceeded_of_checkWaiting`** — where it stops, the limit that it names is exceeded.
* `Expr.within_of_checkSize`, `Expr.exceeded_of_checkSize` — the same of a single tree.
* **`Expr.checkSize_eq_ok_iff`** — so a tree passes exactly if its nodes and its height are within
  their limits, and otherwise one that is exceeded is named.
-/

namespace CurveSketch

variable {nodeLimit heightLimit : Int} {count : ℕ} {waiting : List (Expr × ℕ)} {r : Rejection}

/-- No tree that waits reaches beyond a level. -/
def ReachAtMost (heightLimit : Int) (waiting : List (Expr × ℕ)) : Prop :=
  ∀ w ∈ waiting, ((w.2 + w.1.height : ℕ) : Int) ≤ heightLimit + 1

@[simp] lemma reachAtMost_nil : ReachAtMost heightLimit [] := by simp [ReachAtMost]

@[simp] lemma reachAtMost_cons {e : Expr} {level : ℕ} :
    ReachAtMost heightLimit ((e, level) :: waiting) ↔
      ((level + e.height : ℕ) : Int) ≤ heightLimit + 1 ∧ ReachAtMost heightLimit waiting := by
  simp [ReachAtMost]

/-- **Where the walk comes to its end** all nodes are within the limit, and so are the levels that the
trees reach.  By induction on the walk; where nothing waits, the nodes that were counted before it may
be too many. -/
lemma within_of_checkWaiting (h : checkWaiting nodeLimit heightLimit count waiting = .ok ()) :
    ((count + nodesOf waiting : ℕ) : Int) ≤ max nodeLimit count ∧
      ReachAtMost heightLimit waiting := by
  fun_induction checkWaiting nodeLimit heightLimit count waiting with
  | case1 count => exact ⟨Int.le_max_right _ _, reachAtMost_nil⟩
  | case2 => cases h
  | case3 => cases h
  | case4 count level waiting hcount hlevel v ih | case5 count level waiting hcount hlevel ih =>
      obtain ⟨hnodes, hreach⟩ := ih h
      simp only [nodesOf, Expr.nodes, Expr.height, reachAtMost_cons]
      exact ⟨by omega, by omega, hreach⟩
  | case6 count level waiting hcount hlevel s e ih | case7 count level waiting hcount hlevel f e ih =>
      obtain ⟨hnodes, hreach⟩ := ih h
      simp only [nodesOf, Expr.nodes, Expr.height, reachAtMost_cons] at hnodes hreach ⊢
      exact ⟨by omega, by omega, hreach.2⟩
  | case8 count level waiting hcount hlevel op l r ih =>
      obtain ⟨hnodes, hreach⟩ := ih h
      simp only [nodesOf, Expr.nodes, Expr.height, reachAtMost_cons] at hnodes hreach ⊢
      exact ⟨by omega, by omega, hreach.2.2⟩

/-- **Where the walk stops** there are more nodes than the limit that it names, or a tree that reaches
beyond it.  A tree that reaches too deep still does when its parts wait in place of it. -/
lemma exceeded_of_checkWaiting (h : checkWaiting nodeLimit heightLimit count waiting = .error r) :
    (r = .tooComplex nodeLimit ∧ nodeLimit < (count + nodesOf waiting : ℕ)) ∨
      (r = .tooDeep heightLimit ∧ ¬ ReachAtMost heightLimit waiting) := by
  fun_induction checkWaiting nodeLimit heightLimit count waiting with
  | case1 => cases h
  | case2 count e level waiting hcount =>
      have hpos := e.nodes_pos
      simp only [nodesOf]
      exact .inl ⟨(Except.error.inj h).symm, by omega⟩
  | case3 count e level waiting hcount hlevel =>
      have hpos := e.height_pos
      simp only [reachAtMost_cons]
      exact .inr ⟨(Except.error.inj h).symm, fun hreach => by omega⟩
  | case4 count level waiting hcount hlevel v ih | case5 count level waiting hcount hlevel ih =>
      refine (ih h).imp (And.imp_right fun hnodes => ?_) (And.imp_right fun hfar => ?_)
      · simp only [nodesOf, Expr.nodes]
        omega
      · exact fun hreach => hfar (reachAtMost_cons.1 hreach).2
  | case6 count level waiting hcount hlevel s e ih | case7 count level waiting hcount hlevel f e ih =>
      simp only [nodesOf, Expr.nodes, Expr.height, reachAtMost_cons] at ih ⊢
      refine (ih h).imp (And.imp_right fun hnodes => by omega) (And.imp_right fun hfar => ?_)
      exact fun hreach => hfar ⟨by omega, hreach.2⟩
  | case8 count level waiting hcount hlevel op l r ih =>
      simp only [nodesOf, Expr.nodes, Expr.height, reachAtMost_cons] at ih ⊢
      refine (ih h).imp (And.imp_right fun hnodes => by omega) (And.imp_right fun hfar => ?_)
      exact fun hreach => hfar ⟨by omega, by omega, hreach.2⟩

namespace Expr

variable {e : Expr}

/-- A tree that passes the check has nodes and height within their limits. -/
lemma within_of_checkSize (h : e.checkSize nodeLimit heightLimit = .ok ()) :
    (e.nodes : Int) ≤ nodeLimit ∧ (e.height : Int) ≤ heightLimit := by
  have hpos := e.nodes_pos
  obtain ⟨hnodes, hreach⟩ := within_of_checkWaiting h
  simp only [nodesOf, reachAtMost_cons] at hnodes hreach
  exact ⟨by omega, by omega⟩

/-- A tree that does not pass exceeds the limit that is named. -/
lemma exceeded_of_checkSize (h : e.checkSize nodeLimit heightLimit = .error r) :
    (r = .tooComplex nodeLimit ∧ nodeLimit < e.nodes) ∨
      (r = .tooDeep heightLimit ∧ heightLimit < e.height) := by
  refine (exceeded_of_checkWaiting h).imp (And.imp_right fun hnodes => ?_)
    (And.imp_right fun hfar => ?_)
  · simpa [nodesOf] using hnodes
  · simp only [reachAtMost_cons, reachAtMost_nil, and_true] at hfar
    omega

/-- **A tree passes the check exactly if its nodes and its height are within their limits.**  If it
has too many nodes only, or is too high only, that is what is wrong; if both, it is one of the two. -/
theorem checkSize_eq_ok_iff (nodeLimit heightLimit : Int) (e : Expr) :
    (e.checkSize nodeLimit heightLimit = .ok () ↔
      (e.nodes : Int) ≤ nodeLimit ∧ (e.height : Int) ≤ heightLimit) ∧
    (nodeLimit < e.nodes → (e.height : Int) ≤ heightLimit →
      e.checkSize nodeLimit heightLimit = .error (.tooComplex nodeLimit)) ∧
    ((e.nodes : Int) ≤ nodeLimit → heightLimit < e.height →
      e.checkSize nodeLimit heightLimit = .error (.tooDeep heightLimit)) ∧
    (nodeLimit < e.nodes → heightLimit < e.height →
      e.checkSize nodeLimit heightLimit = .error (.tooComplex nodeLimit) ∨
        e.checkSize nodeLimit heightLimit = .error (.tooDeep heightLimit)) ∧
    (Rejection.tooComplex nodeLimit).code = "TOO_COMPLEX" ∧
    (Rejection.tooDeep heightLimit).code = "TOO_DEEP" := by
  cases h : e.checkSize nodeLimit heightLimit with
  | ok u =>
      obtain ⟨hnodes, hheight⟩ := within_of_checkSize h
      refine ⟨iff_of_true rfl ⟨hnodes, hheight⟩, ?_, ?_, ?_, rfl, rfl⟩ <;> omega
  | error r =>
      rcases exceeded_of_checkSize h with ⟨rfl, hnodes⟩ | ⟨rfl, hheight⟩
      · refine ⟨iff_of_false (by simp) (by omega), fun _ _ => rfl, ?_, fun _ _ => .inl rfl, rfl, rfl⟩
        omega
      · refine ⟨iff_of_false (by simp) (by omega), ?_, fun _ _ => rfl, fun _ _ => .inr rfl, rfl, rfl⟩
        omega

end Expr

end CurveSketch
