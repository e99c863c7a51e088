import CurveSketch.Proofs.Rejecting
import CurveSketch.Proofs.Token.Places

/-!
# Nothing is lost when a text is split

The tokens of a text are pieces of it.  They stand where they say, one behind another, and between
them are only blanks; and each of them is as long as it can be.  If a text is not split, the reason is
one character of it: everything in front of that character is split, and nothing begins with it.

* `Token.Covers` — the places of a text that are in a token.
* `GreedySplit` — what holds of the tokens of a text.
* `Lexeme.of_append` — what begins a token is a token of the same kind, a point by itself aside.  So a
  token that does not go on with the next character does not go on at all.
* **`greedySplit_or_stops`** — every text is split in this way, or it is rejected for such a character.
-/

namespace CurveSketch

open Text Token

/-- The place of a text is in the token. -/
def Token.Covers (t : Token) (i : ℕ) : Prop := t.position ≤ i ∧ i < t.position + t.text.length

/-- The tokens are pieces of the text, all of it but blanks, and each is as long as it can be. -/
structure GreedySplit (cs : List Char) (ts : List Token) : Prop where
  lexeme : ∀ t ∈ ts, Lexeme t.kind t.text
  /-- A token is not empty, and is what the text has at its position. -/
  stands : ∀ t ∈ ts, StandsAt t.text t.position cs
  /-- A token begins behind the one in front of it, and not before that one ends. -/
  ordered : ts.Pairwise fun t u =>
    t.position < u.position ∧ t.position + t.text.length ≤ u.position
  /-- What is in no token is blank. -/
  blank : ∀ i c, cs[i]? = some c → (∀ t ∈ ts, ¬ t.Covers i) → isBlank c = true
  /-- No longer piece of the text at the same position is a token of the same kind. -/
  longest : ∀ t ∈ ts, ∀ more, more ≠ [] → StandsAt (t.text ++ more) t.position cs →
    ¬ Lexeme t.kind (t.text ++ more)

namespace Token

variable {p : ℕ} {cs : List Char} {ts : List Token} {r : Rejection}

/-! ## Longer tokens -/

/-- **What begins a token is a token of the same kind**, unless it is a point by itself. -/
lemma Lexeme.of_append {k : Kind} {text more : List Char} (h : Lexeme k (text ++ more))
    (hne : text ≠ []) (hpoint : text ≠ ['.']) : Lexeme k text := by
  generalize htext : text ++ more = whole at h
  cases h with
  | whole _ h => exact .whole hne fun c hc => h c (by simp [← htext, hc])
  | @decimal digits places hdigits h h' =>
      rcases List.append_eq_append_iff.1 htext with ⟨more', rfl, -⟩ | ⟨front, rfl, hplaces⟩
      · exact .whole hne fun c hc => h c (List.mem_append_left _ hc)
      · cases front with
        | nil => simpa using Lexeme.whole hdigits h
        | cons c front =>
            obtain ⟨rfl, rfl⟩ := List.cons.inj hplaces
            exact .decimal hdigits h fun c hc => h' c (List.mem_append_left _ hc)
  | @fraction places _ h =>
      obtain ⟨c, text, rfl⟩ := List.exists_cons_of_ne_nil hne
      obtain ⟨rfl, rfl⟩ := List.cons.inj htext
      have htextne : text ≠ [] := by
        rintro rfl
        exact hpoint rfl
      exact .fraction htextne fun c hc => h c (List.mem_append_left _ hc)
  | name _ h => exact .name hne fun c hc => h c (by simp [← htext, hc])
  | symbol h =>
      obtain ⟨c, text, rfl⟩ := List.exists_cons_of_ne_nil hne
      obtain ⟨rfl, hrest⟩ := List.cons.inj htext
      rw [(List.append_eq_nil_iff.1 hrest).1]
      exact .symbol h
  | stars =>
      obtain ⟨c, text, rfl⟩ := List.exists_cons_of_ne_nil hne
      obtain ⟨rfl, hrest⟩ := List.cons.inj htext
      rcases List.append_eq_singleton_iff.1 hrest with ⟨rfl, -⟩ | ⟨rfl, -⟩
      · exact .symbol rfl
      · exact .stars

/-- No token goes on where it stands. -/
lemma Splits.longest (h : Splits 0 cs ts) : ∀ t ∈ ts, ∀ more, more ≠ [] →
    StandsAt (t.text ++ more) t.position cs → ¬ Lexeme t.kind (t.text ++ more) := by
  rintro t ht more hmore ⟨-, front', rest', hcs', hfront'⟩ hlonger
  obtain ⟨front, rest, hcs, hposition, htaken⟩ := h.exists_taken t ht
  obtain ⟨hlex, -, hmaximal⟩ := lexeme?_eq_some_iff.1 htaken
  obtain ⟨c, more, rfl⟩ := List.exists_cons_of_ne_nil hmore
  have hlength : front.length = front'.length := by omega
  obtain ⟨-, hbehind⟩ := List.append_inj (hcs.symm.trans hcs') hlength
  have hrest : rest = c :: (more ++ rest') :=
    List.append_cancel_left (by rw [hbehind, List.append_assoc]; rfl)
  have hlonger' : Lexeme t.kind (t.text ++ [c] ++ more) := by
    rwa [List.append_assoc, List.singleton_append]
  refine hmaximal c (by rw [hrest]; rfl) (hlonger'.of_append (by simp) ?_)
  have hlength := List.length_pos_iff.2 hlex.ne_nil
  intro hpoint
  have hone := congrArg List.length hpoint
  simp only [List.length_append, List.length_singleton] at hone
  omega

/-! ## The places of tokens -/

lemma Splits.ordered (h : Splits p cs ts) : ts.Pairwise fun t u =>
    t.position < u.position ∧ t.position + t.text.length ≤ u.position := by
  induction h with
  | done p => exact .nil
  | blank _ _ ih => exact ih
  | token _ hlex h ih =>
      refine List.pairwise_cons.2 ⟨fun u hu => ?_, ih⟩
      have hend := h.le_position u hu
      have := List.length_pos_iff.2 (lexeme?_append hlex).2
      exact ⟨by dsimp only; omega, hend⟩

/-- What is in no token is blank. -/
lemma Splits.blank_of_not_covers (h : Splits p cs ts) {i : ℕ} {c : Char} (hc : cs[i]? = some c)
    (hcovers : ∀ t ∈ ts, ¬ t.Covers (p + i)) : isBlank c = true := by
  induction h generalizing i with
  | done p => simp at hc
  | @blank p d cs ts hd _ ih =>
      cases i with
      | zero =>
          obtain rfl : d = c := by simpa using hc
          exact hd
      | succ i =>
          rw [show p + (i + 1) = p + 1 + i by omega] at hcovers
          exact ih (by simpa using hc) hcovers
  | @token p d cs k text rest ts _ hlex _ ih =>
      obtain ⟨hfirst, hlater⟩ := List.forall_mem_cons.1 hcovers
      have hi : text.length ≤ i := by
        by_contra hlt
        exact hfirst ⟨by dsimp only; omega, by dsimp only; omega⟩
      obtain ⟨j, rfl⟩ := Nat.exists_eq_add_of_le hi
      rw [← (lexeme?_append hlex).1, List.getElem?_append_right hi, Nat.add_sub_cancel_left] at hc
      exact ih hc (by rwa [Nat.add_assoc])

lemma Splits.greedySplit (h : Splits 0 cs ts) : GreedySplit cs ts where
  lexeme := h.lexeme
  stands t ht := by
    obtain ⟨q, hq, hstands⟩ := h.standsAt t ht
    rwa [hq, Nat.zero_add]
  ordered := h.ordered
  blank i c hc hcovers := h.blank_of_not_covers hc (by rwa [Nat.zero_add])
  longest := h.longest

end Token

/-- **A text is split so that nothing is lost, or it is rejected for one of its characters.**  Its
tokens are pieces of it, each as long as it can be, and between them are only blanks.  The character
that a text is rejected for is no blank, no token begins with it, and what is in front of it is
split. -/
theorem greedySplit_or_stops (cs : List Char) :
    (∀ ts, tokenize cs = .ok ts → GreedySplit cs ts) ∧
      ∀ r, tokenize cs = .error r → ∃ front c rest, cs = front ++ c :: rest ∧
        r = .invalidCharacter c front.length ∧ (∃ ts, tokenize front = .ok ts) ∧
        isBlank c = false ∧ ∀ k word, Lexeme k word → ¬ StandsAt word front.length cs := by
  refine ⟨fun ts h => (tokenizeFrom_eq_ok_iff.1 h).greedySplit, fun r h => ?_⟩
  obtain ⟨front, c, rest, ts, rfl, rfl, hc, hnone, hfront⟩ := splits_of_tokenizeFrom_error h
  refine ⟨front, c, rest, rfl, by rw [Nat.zero_add], ⟨ts, hfront.tokenizeFrom_eq⟩, hc, ?_⟩
  rintro k word hword ⟨-, front', behind, hcs, hlength⟩
  obtain ⟨-, hrest⟩ := List.append_inj hcs hlength.symm
  rw [hrest] at hnone
  exact hword.lexeme?_ne_none behind hnone

/-- A text with numbers that touch and a star beside a power, and one in which a point is left over. -/
theorem greedySplit_or_stops_points :
    (∃ ts, tokenize "2. .5x*** y".toList = .ok ts ∧ GreedySplit "2. .5x*** y".toList ts) ∧
      tokenize "1.5..x".toList = .error (.invalidCharacter '.' 3) ∧
      ∃ front c rest, "1.5..x".toList = front ++ c :: rest ∧
        Rejection.invalidCharacter '.' 3 = .invalidCharacter c front.length ∧
        (∃ ts, tokenize front = .ok ts) ∧ isBlank c = false ∧
        ∀ k word, Lexeme k word → ¬ StandsAt word front.length "1.5..x".toList := by
  have hsplit : (tokenize "2. .5x*** y".toList).toOption.isSome = true := by decide +kernel
  have hstop : tokenize "1.5..x".toList = .error (.invalidCharacter '.' 3) := by decide +kernel
  obtain ⟨ts, hts⟩ := exists_ok_of_isSome hsplit
  exact ⟨⟨ts, hts, (greedySplit_or_stops _).1 ts hts⟩, hstop, (greedySplit_or_stops _).2 _ hstop⟩

end CurveSketch
