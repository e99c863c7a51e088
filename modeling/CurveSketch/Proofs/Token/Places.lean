import CurveSketch.Proofs.SmallLetters
import CurveSketch.Proofs.Token.Splitting
import Mathlib.Data.List.Forall2

/-!
# Places in a text

Tokens, and characters that begin none, are found in the small form of a text, and their places are
counted there.  In the text itself they stand at the same places, but for what comes behind a dotted
capital I: its small form has one character more.

* `StandsAt` — a word stands at a place of a text; `StandsCased` — a word of which it is a small form.
* `Splits.standsAt` — every token stands at its position.
* `foreign_of_tokenizeFrom` — what is in front of a character that begins no token.
* **`standsCased_of_tokenize`** — where that character was typed, or that it is the dot of a capital I.
-/

namespace CurveSketch

open Text Token

/-- The word stands at the place of the text, counted from zero. -/
def StandsAt (word : List Char) (p : ℕ) (cs : List Char) : Prop :=
  word ≠ [] ∧ ∃ front rest, cs = front ++ (word ++ rest) ∧ front.length = p

/-- The second character is the first one made small. -/
def IsSmallForm (c d : Char) : Prop := lowerChar c = [d] ∨ c = '\u03A3' ∧ d = '\u03C2'

/-- A word that becomes the given one when letters are made small stands at the place. -/
def StandsCased (word : List Char) (p : ℕ) (cs : List Char) : Prop :=
  ∃ typed, StandsAt typed p cs ∧ List.Forall₂ IsSmallForm typed word

variable {word front rest cs : List Char} {p q : ℕ} {ts : List Token} {r : Rejection} {c : Char}

/-- A word stands inside its text. -/
lemma StandsAt.lt_length (h : StandsAt word p cs) : p < cs.length := by
  obtain ⟨hne, front, rest, rfl, rfl⟩ := h
  have := List.length_pos_iff.2 hne
  simp only [List.length_append]
  omega

lemma StandsCased.lt_length (h : StandsCased word p cs) : p < cs.length := by
  obtain ⟨typed, htyped, -⟩ := h
  exact htyped.lt_length

lemma StandsAt.behind (h : StandsAt word p cs) (front : List Char) :
    StandsAt word (front.length + p) (front ++ cs) := by
  obtain ⟨hne, before, rest, rfl, rfl⟩ := h
  exact ⟨hne, front ++ before, rest, by simp, by simp⟩

lemma StandsCased.behind (h : StandsCased word p cs) (front : List Char) :
    StandsCased word (front.length + p) (front ++ cs) := by
  obtain ⟨typed, htyped, hsmall⟩ := h
  exact ⟨typed, htyped.behind front, hsmall⟩

/-- Where letters are made small one by one, words stay in their places. -/
lemma StandsAt.cased (hplain : ∀ c ∈ cs, Plain c) (h : StandsAt word p (cs.map small)) :
    StandsCased word p cs := by
  obtain ⟨hne, front, rest, hmap, rfl⟩ := h
  obtain ⟨before, behind, rfl, rfl, hbehind⟩ := List.map_eq_append_iff.1 hmap
  obtain ⟨typed, after, rfl, rfl, rfl⟩ := List.map_eq_append_iff.1 hbehind
  refine ⟨typed, ⟨fun hnil => hne (by rw [hnil]; rfl), before, after, rfl, by simp⟩, ?_⟩
  rw [List.forall₂_map_right_iff, List.forall₂_same]
  intro c hc
  exact .inl (lowerChar_eq_small (hplain c (by simp [hc])).2)

/-! ## Tokens -/

/-- Every token stands at its position. -/
lemma Token.Splits.standsAt (h : Splits p cs ts) :
    ∀ t ∈ ts, ∃ q, t.position = p + q ∧ StandsAt t.text q cs := by
  intro t ht
  obtain ⟨front, rest, rfl, hposition, htaken⟩ := h.exists_taken t ht
  exact ⟨front.length, hposition, (lexeme?_append htaken).2, front, rest, rfl, rfl⟩

/-! ## Characters that begin no token -/

/-- In front of a character that begins no token are only blanks and tokens. -/
lemma foreign_of_tokenizeFrom (h : tokenizeFrom p cs = .error r) :
    ∃ front c rest, cs = front ++ c :: rest ∧ r = .invalidCharacter c (p + front.length) ∧
      isLetter c = false ∧ ∀ d ∈ front, ¬ Foreign d := by
  obtain ⟨front, c, rest, ts, rfl, rfl, -, hnone, hfront⟩ := splits_of_tokenizeFrom_error h
  refine ⟨front, c, rest, rfl, rfl, ?_, hfront.not_foreign⟩
  by_contra hletter
  rw [Bool.not_eq_false] at hletter
  rw [lexeme?_of_isLetter hletter (not_isDigit_of_isLetter hletter)] at hnone
  cases hnone

/-- A letter leaves one character in a small form, and a dotted capital I leaves two. -/
lemma lowercaseAfter_cons_cases (before : List Char) (c : Char) (cs : List Char) :
    (∃ d, IsSmallForm c d ∧ lowercaseAfter before (c :: cs) = d :: lowercaseAfter (c :: before) cs) ∨
      c = '\u0130' ∧
        lowercaseAfter before (c :: cs) = 'i' :: '\u0307' :: lowercaseAfter (c :: before) cs := by
  rw [lowercaseAfter]
  by_cases hsigma : c = '\u03A3'
  · refine .inl ⟨lowerSigma before cs, ?_, by rw [if_pos hsigma]; rfl⟩
    subst hsigma
    unfold lowerSigma
    split_ifs
    · exact .inr ⟨rfl, rfl⟩
    · exact .inl (by decide +kernel)
  · rw [if_neg hsigma]
    by_cases hdotted : c = '\u0130'
    · subst hdotted
      exact .inr ⟨rfl, rfl⟩
    · exact .inl ⟨small c, .inl (lowerChar_eq_small hdotted), by rw [lowerChar_eq_small hdotted]; rfl⟩

/-- The character at a place of a small form was made from one at the same place, if there is no dot
of a capital I in front of it; or it is that dot itself. -/
lemma standsCased_of_lowercaseAfter (hc : c ≠ 'i') (before : List Char)
    (h : lowercaseAfter before cs = front ++ c :: rest) (hdot : '\u0307' ∉ front) :
    StandsCased [c] front.length cs ∨
      (c = '\u0307' ∧ ∃ q, front.length = q + 1 ∧ StandsAt ['\u0130'] q cs) := by
  induction cs generalizing before front with
  | nil => simp [lowercaseAfter] at h
  | cons e cs ih =>
      rcases lowercaseAfter_cons_cases before e cs with ⟨d, hsmall, hsteps⟩ | ⟨rfl, hsteps⟩
      · rw [hsteps] at h
        cases front with
        | nil =>
            obtain ⟨rfl, -⟩ := List.cons.inj h
            exact .inl ⟨[e], ⟨by simp, [], cs, rfl, rfl⟩, .cons hsmall .nil⟩
        | cons f front =>
            obtain ⟨rfl, hrest⟩ := List.cons.inj h
            rw [List.length_cons, Nat.add_comm]
            rcases ih (e :: before) hrest (fun hmem => hdot (List.mem_cons_of_mem d hmem)) with
              hstands | ⟨hc, q, hq, hstands⟩
            · exact .inl (hstands.behind [e])
            · exact .inr ⟨hc, 1 + q, by omega, hstands.behind [e]⟩
      · rw [hsteps] at h
        cases front with
        | nil => exact absurd (List.cons.inj h).1.symm hc
        | cons f front =>
            obtain ⟨-, hrest⟩ := List.cons.inj h
            cases front with
            | nil =>
                obtain ⟨rfl, -⟩ := List.cons.inj hrest
                exact .inr ⟨rfl, 0, rfl, by simp, [], cs, rfl, rfl⟩
            | cons g front =>
                obtain ⟨rfl, -⟩ := List.cons.inj hrest
                simp at hdot

/-- **A character that begins no token was typed where it is said to stand**, or it is the dot of a
capital I that was typed one place before. -/
lemma standsCased_of_tokenize (h : tokenize (lowercase cs) = .error r) :
    ∃ c p, r = .invalidCharacter c p ∧ (StandsCased [c] p cs ∨
      (c = '\u0307' ∧ ∃ q, p = q + 1 ∧ StandsAt ['\u0130'] q cs)) := by
  obtain ⟨front, c, rest, hsmall, rfl, hletter, hfront⟩ := foreign_of_tokenizeFrom h
  rw [Nat.zero_add]
  refine ⟨c, front.length, rfl, standsCased_of_lowercaseAfter ?_ [] hsmall fun hdot => ?_⟩
  · rintro rfl
    exact absurd hletter (by decide)
  · exact hfront _ hdot (by decide +kernel)

end CurveSketch
