import CurveSketch.Proofs.Grammar.Places
import CurveSketch.Proofs.NormalForm
import CurveSketch.Proofs.NormalForm.Stacked

/-!
# Tokens that nobody typed

A normal form has tokens that the input has not: stars of products, and what is written for
reciprocal functions.  They are put where they may stand, so when a normal form is rejected none of
them is blamed; nor are the digits of a constant.

* `Fits` — the token may stand where it does.
* `Accounted` — every token comes from the input, or fits.  `accounted_writtenOut` and
  `accounted_insertTimes` say so of what the passes leave.
* **`origin_of_blames`** — so a token that is blamed comes from the input.
-/

namespace CurveSketch.NormalForm

open Token

/-- The token may stand where it does; `ended` is whether an operand ends in front of it.  A star
is written before a parenthesis that opens and before a constant, so these may stand anywhere. -/
structure Fits (ended : Bool) (w : Token) (rest : List Token) : Prop where
  behind : ended = true → w.kind ≠ .number ∧ w.kind ≠ .var ∧ w.kind ≠ .func
  first : ended = false → w.kind ≠ .operator ∧ w.kind ≠ .closing
  argument : w.kind = .func → OpensFirst rest

/-- An operand may end with a token of the kind. -/
def ends : Kind → Bool
  | .number | .closing | .var | .const => true
  | _ => false

/-- Every token has an origin, or fits. -/
def Accounted (origin : Token → Prop) : Bool → List Token → Prop
  | _, [] => True
  | ended, w :: rest => (origin w ∨ Fits ended w rest) ∧ Accounted origin (ends w.kind) rest

variable {origin : Token → Prop} {ended : Bool} {k k' : Kind} {w : Token}
  {vs ws us rest : List Token}

/-! ## The passes -/

lemma fits_const (h : w.kind = .const) : Fits ended w rest where
  behind _ := by simp [h]
  first _ := by simp [h]
  argument hfunc := by simp [h] at hfunc

/-- What is written for a reciprocal function fits. -/
lemma accounted_reciprocalHead {base : Fn} {p : ℕ} (hopen : OpensFirst rest)
    (h : Accounted origin false rest) : Accounted origin ended (reciprocalHead base p ++ rest) := by
  refine ⟨.inr ⟨?_, ?_, ?_⟩, .inr ⟨?_, ?_, ?_⟩, .inr ⟨?_, ?_, ?_⟩, .inr ⟨?_, ?_, ?_⟩, h⟩
  all_goals simp [ends, hopen]

/-- The tokens with the calls of reciprocal functions written out, if the others have an origin. -/
lemma accounted_writtenOut {heads : Bool} {opened : List Bool}
    (hvs : ∀ v ∈ vs, origin v ∨ v.kind = .const) (ended : Bool) :
    Accounted origin ended (writtenOut heads opened vs) := by
  fun_induction writtenOut heads opened vs generalizing ended with
  | case1 => trivial
  | case2 heads opened t rest base hcall ih =>
      obtain ⟨-, next, tail, rfl, hopen⟩ := called?_eq_some_iff.1 hcall
      refine accounted_reciprocalHead ?_ (ih (fun v hv => hvs v (List.mem_cons_of_mem t hv)) false)
      exact opening_first_writtenOut.2 ⟨next, tail, rfl, .inl hopen⟩
  | case3 heads opened t rest _ ih =>
      have hrest := ih fun v hv => hvs v (List.mem_cons_of_mem t hv)
      have ht : ∀ more, origin t ∨ Fits ended t more := fun more =>
        (hvs t List.mem_cons_self).imp id fits_const
      unfold expandFrom.closeReciprocal
      split
      · next hclosing =>
        refine ⟨ht _, .inr ⟨?_, ?_, ?_⟩, hrest _⟩
        all_goals simp [ends, hclosing]
      · exact ⟨ht _, hrest _⟩

lemma ends_of_multiplies (h : multiplies k k' = true) : ends k = true := by
  cases k <;> cases k' <;> first | rfl | cases h

lemma opensFirst_timesAfter (h : OpensFirst vs) : OpensFirst (timesAfter .func vs) := by
  obtain ⟨o, tail, rfl, ho⟩ := h
  rw [timesAfter, multiplies_func]
  exact ⟨o, _, rfl, ho⟩

/-- A star may stand behind every token that is multiplied, and what is multiplied may stand behind
a star. -/
lemma accounted_timesAfter (h : Accounted origin (ends k) vs) :
    Accounted origin (ends k) (timesAfter k vs) := by
  induction vs generalizing k with
  | nil => trivial
  | cons v vs ih =>
      have hargument : ∀ {ended}, Fits ended v vs →
          v.kind = .func → OpensFirst (timesAfter v.kind vs) := by
        intro ended hfits hfunc
        rw [hfunc]
        exact opensFirst_timesAfter (hfits.argument hfunc)
      rw [timesAfter]
      split_ifs with hmul
      · have hend := ends_of_multiplies hmul
        refine ⟨.inr ⟨?_, ?_, ?_⟩, h.1.imp id fun hfits => ⟨?_, ?_, hargument hfits⟩, ih h.2⟩
        · simp [times]
        · simp [hend]
        · simp [times]
        · simp [times, ends]
        · intro _
          constructor <;> (intro hv; simp [hv] at hmul)
      · exact ⟨h.1.imp id fun hfits => ⟨hfits.behind, hfits.first, hargument hfits⟩, ih h.2⟩

lemma accounted_insertTimes (h : Accounted origin false vs) :
    Accounted origin false (insertTimes vs) := by
  rw [insertTimes_eq_timesAfter]
  exact accounted_timesAfter (k := .operator) h

/-! ## What is blamed -/

/-- An operand ends with a token as it is read exactly if it ends with the token. -/
lemma endsOperand_eq {u : Token} (hw : Standard w.kind w.text) (hu : u.shape = readShape w) :
    u.endsOperand = ends w.kind := by
  obtain ⟨k, text, q⟩ := w
  obtain ⟨k', text', q'⟩ := u
  simp only [shape, readShape, Prod.mk.injEq] at hu
  obtain ⟨rfl, rfl⟩ := hu
  cases hw with
  | var =>
      change (Fn.ofName? variableName).isNone = true
      decide
  | func f =>
      change (Fn.ofName? f.name).isNone = false
      rw [Fn.ofName?_name]
      rfl
  | _ => rfl

/-- Behind an operand a constant or a parenthesis that opens would be multiplied. -/
lemma kind_behind (hend : ends k' = true) (hapart : multiplies k' k = false) (hname : k ≠ .name)
    (h : k.asRead = .number ∨ k.asRead = .name ∨ k.asRead = .opening) :
    k = .number ∨ k = .var ∨ k = .func := by
  cases k' <;> cases hend <;> cases k <;> simp_all [Kind.asRead, multiplies]

lemma Standard.kind_ne_name {text : List Char} (h : Standard k text) : k ≠ .name := by
  cases h <;> simp

/-- A token that fits does not stand where it cannot. -/
lemma not_stuck {v u : Token} {us : List Token} {r : Rejection} (hwu : ReadFrom w u)
    (hrest : List.Forall₂ ReadFrom rest us) (hapart : multiplies v.kind w.kind = false)
    (h : Fits (ends v.kind) w rest) : ¬ Stuck (ends v.kind) (u :: us) r := by
  intro hstuck
  cases hstuck with
  | operand hend ht =>
      obtain ⟨hoperator, hclosing⟩ := h.first hend
      rcases ht with ht | ht
      · exact hoperator ((asRead_eq_iff (by decide)).1 (hwu.kind_eq.trans ht))
      · exact hclosing ((asRead_eq_iff (by decide)).1 (hwu.kind_eq.trans ht))
  | behind hend ht =>
      rw [← hwu.kind_eq] at ht
      obtain ⟨hnumber, hvar, hfunc⟩ := h.behind hend
      rcases kind_behind hend hapart hwu.1.kind_ne_name ht with hw | hw | hw
      exacts [hnumber hw, hvar hw, hfunc hw]
  | argument ht hopen =>
      have hfirst := h.argument ((hwu.1.namesFunction_iff hwu.2).1 ht)
      refine hopen (hfirst.of_forall₂ hrest ?_)
      intro w u hwu hw
      rw [← hwu.kind_eq, hw]
      rfl

/-- What a rejection with a place says of the token that it blames. -/
def Says (r : Rejection) (u : Token) : Prop :=
  r = .unexpected u.text u.position ∨ r = .missingArgument u.text u.position

lemma says_of_stuck {u : Token} {r : Rejection} (h : Stuck ended (u :: us) r) : Says r u := by
  cases h with
  | operand | behind => exact .inl rfl
  | argument => exact .inr rfl

/-- **A token that is blamed has an origin**, and is no constant.  By induction on the tokens, where
`v` is the one in front of them. -/
lemma origin_of_blames {v : Token} {r : Rejection} (hread : List.Forall₂ ReadFrom ws us)
    (hapart : Apart (v :: ws)) (hws : Accounted origin (ends v.kind) ws)
    (h : Blames (ends v.kind) us r) :
    ∃ (i : ℕ) (w u : Token), ws[i]? = some w ∧ us[i]? = some u ∧ origin w ∧ w.kind ≠ .const ∧ ReadFrom w u ∧
      Says r u := by
  induction hread generalizing v with
  | nil =>
      cases h with
      | here hstuck => cases hstuck
  | @cons w u ws us hwu hrest ih =>
      obtain ⟨hneighbours, hapart⟩ := apart_cons_cons.1 hapart
      cases h with
      | here hstuck =>
          have hfits := fun h => not_stuck hwu hrest hneighbours h hstuck
          exact ⟨0, w, u, rfl, rfl, hws.1.resolve_right hfits, fun hw => hfits (fits_const hw), hwu,
            says_of_stuck hstuck⟩
      | later hlater =>
          rw [endsOperand_eq hwu.1 hwu.2] at hlater
          obtain ⟨i, w', u', hw, hu, hrest⟩ := ih hapart hws.2 hlater
          exact ⟨i + 1, w', u', hw, hu, hrest⟩

end CurveSketch.NormalForm
