import CurveSketch.Proofs.Grammar.Stages
import CurveSketch.Proofs.Token.Rendering
import Mathlib.Data.List.Chain

/-!
# Blanks in an expression

A blank has to stand only between two tokens that would read as one.  In an expression there are no
such neighbours, as an operator or a parenthesis stands on one side; so its blanks may be dropped.

* `Unmerged` — no two neighbours would read as one; `StarsApart` — no two operators that meet in a
  star are neighbours, which would not merge but be hard to tell from others.
* `Stage.Leads.not_merges` — whatever may follow a token does not merge with it.
* **`Derives.unmerged`**, `Derives.starsApart` — a phrase has no such neighbours.
* `Unmerged.render_eq` — such tokens are written without blanks.
* **`Splits.withoutSpaces`** — and a text without its spaces splits into them again.
-/

namespace CurveSketch

open Text Token

/-- No two neighbours would read as one token if there were no blank between them. -/
def Unmerged (ts : List Token) : Prop :=
  ts.IsChain fun t u => merges t.text u.text = false

/-- No operator stands in front of a token that begins with a star. -/
def StarsApart (ts : List Token) : Prop :=
  ts.IsChain fun t u => t.kind = .operator → u.text.head? ≠ some '*'

/-! ## Neighbours that do not merge -/

/-- What an operator or a parenthesis is made of joins nothing. -/
lemma Token.Lexeme.not_isJoining {k : Kind} {text : List Char} (h : Lexeme k text)
    (hk : k ≠ .number ∧ k ≠ .name) : ∀ c ∈ text, Token.isJoining c = false := by
  have hall : (symbols.all fun c => !Token.isJoining c) = true := by decide +kernel
  have hsymbols : ∀ c ∈ symbols, Token.isJoining c = false := by simpa using hall
  intro c hc
  cases h with
  | whole | decimal | fraction => exact absurd rfl hk.1
  | name => exact absurd rfl hk.2
  | symbol h =>
      rw [List.mem_singleton.1 hc]
      exact hsymbols _ (mem_symbols h)
  | stars => exact hsymbols c (by simp_all [symbols])

namespace Stage

variable {s s' s'' : Stage} {t u : Token} {ts : List Token}

/-- Behind a number or a name stands an operator or a parenthesis. -/
lemma Leads.kind_of_next (ht : Leads s t s') (hu : Leads s' u s'')
    (hkind : t.kind = .number ∨ t.kind = .name) : u.kind ≠ .number ∧ u.kind ≠ .name := by
  cases ht with
  | sign ht => simp [(signOf?_eq_some_iff.1 ht).1] at hkind
  | _ => cases hu <;> simp_all

/-- Behind an operator stands no other operator that begins with a star. -/
lemma Leads.head_ne_star (ht : Leads s t s') (hu : Leads s' u s'') (hkind : t.kind = .operator)
    (hulex : Lexeme u.kind u.text) : u.text.head? ≠ some '*' := by
  intro hhead
  have hstar : u.kind = .operator := by
    rcases hulex.of_mem_symbols (List.mem_of_mem_head? hhead) (by decide) with ⟨-, hkind⟩ | hstars
    · exact (Option.some.inj hkind).symm
    · exact hstars.2.2
  cases ht with
  | sign ht | joins _ ht =>
      -- an operand is awaited, and the only operators in front of one are signs
      cases hu with
      | @sign _ _ sign hsign =>
          rw [(signOf?_eq_some_iff.1 hsign).2] at hhead
          cases sign <;> simp [Sign.symbol] at hhead
      | _ => simp_all
  | _ => simp_all

/-- **Whatever may follow a token does not merge with it.** -/
lemma Leads.not_merges (ht : Leads s t s') (hu : Leads s' u s'') (htlex : Lexeme t.kind t.text)
    (hulex : Lexeme u.kind u.text) : merges t.text u.text = false := by
  by_cases hkind : t.kind = .number ∨ t.kind = .name
  · obtain ⟨c, text, hc⟩ := List.exists_cons_of_ne_nil hulex.ne_nil
    have hlast : t.text.getLast?.any Token.isJoining = true := by
      rw [List.getLast?_eq_some_getLast htlex.ne_nil]
      exact htlex.isJoining hkind _ (List.getLast_mem _)
    rw [merges, if_pos hlast, hc]
    exact hulex.not_isJoining (ht.kind_of_next hu hkind) c (by simp [hc])
  · have hlast : t.text.getLast?.any Token.isJoining = false := by
      rw [List.getLast?_eq_some_getLast htlex.ne_nil]
      exact htlex.not_isJoining (not_or.1 hkind) _ (List.getLast_mem _)
    rw [merges, if_neg (by simp [hlast]), Bool.and_eq_false_iff]
    by_cases hstar : t.text = ['*']
    · have hoperator : t.kind = .operator := by
        rcases htlex.of_mem_symbols (c := '*') (by simp [hstar]) (by decide) with
          ⟨-, hkind⟩ | hstars
        · exact (Option.some.inj hkind).symm
        · exact hstars.2.2
      exact .inr (by simpa using ht.head_ne_star hu hoperator hulex)
    · exact .inl (by simpa using hstar)

/-- What holds wherever one token may follow another holds of all neighbours. -/
lemma isChain_of_through? {R : Token → Token → Prop}
    (hR : ∀ {s t s' u s''}, Leads s t s' → Leads s' u s'' → Lexeme t.kind t.text →
      Lexeme u.kind u.text → R t u)
    (h : s.through? ts = some s') (hlex : ∀ t ∈ ts, Lexeme t.kind t.text) : ts.IsChain R := by
  induction ts generalizing s with
  | nil => exact .nil
  | cons t ts ih =>
      obtain ⟨ht, hts⟩ := List.forall_mem_cons.1 hlex
      rw [through?_cons, Option.bind_eq_some_iff] at h
      obtain ⟨next, hnext, h⟩ := h
      refine List.isChain_cons.2 ⟨fun u hu => ?_, ih h hts⟩
      obtain ⟨rest, rfl⟩ := List.head?_eq_some_iff.1 hu
      rw [through?_cons, Option.bind_eq_some_iff] at h
      obtain ⟨_, hthen, -⟩ := h
      exact hR (next?_eq_some_iff.1 hnext) (next?_eq_some_iff.1 hthen) ht
        (hts u List.mem_cons_self)

end Stage

variable {p : Phrase} {ts : List Token} {e : Expr} {n : ℕ}

/-- **In a phrase no two neighbours would read as one token.** -/
lemma Derives.unmerged (h : Derives p ts e n) (hlex : ∀ t ∈ ts, Lexeme t.kind t.text) :
    Unmerged ts :=
  Stage.isChain_of_through? Stage.Leads.not_merges (h.through? 0) hlex

/-- Nor does an operator in it stand in front of another one that begins with a star. -/
lemma Derives.starsApart (h : Derives p ts e n) (hlex : ∀ t ∈ ts, Lexeme t.kind t.text) :
    StarsApart ts :=
  Stage.isChain_of_through? (fun ht hu _ hulex hkind => ht.head_ne_star hu hkind hulex)
    (h.through? 0) hlex

/-! ## Texts without blanks -/

/-- Such tokens are written without blanks. -/
lemma Unmerged.render_eq (h : Unmerged ts) : render ts = ts.flatMap Token.text := by
  have hafter : ∀ (t : Token) (ts : List Token), Unmerged (t :: ts) →
      renderAfter t.text ts = ts.flatMap Token.text := by
    intro t ts
    induction ts generalizing t with
    | nil => intro _; rfl
    | cons u ts ih =>
        intro h
        obtain ⟨htu, hts⟩ := List.isChain_cons_cons.1 h
        rw [renderAfter, htu, if_neg Bool.false_ne_true, ih u hts, List.flatMap_cons]
  cases ts with
  | nil => rfl
  | cons t ts => rw [render, hafter t ts h, List.flatMap_cons]

/-- What stands at the front of a text without its spaces is another blank or begins the first
token. -/
lemma Token.Splits.head_withoutSpaces {p : ℕ} {cs : List Char} (h : Splits p cs ts) :
    ∀ c ∈ (cs.filter (· ≠ ' ')).head?, isBlank c = true ∨ ∃ u ∈ ts.head?, c ∈ u.text.head? := by
  induction h with
  | done p => simp
  | @blank p b cs ts hb _ ih =>
      by_cases hspace : b = ' '
      · rwa [List.filter_cons_of_neg (by simpa using hspace)]
      · rw [List.filter_cons_of_pos (by simpa using hspace)]
        rintro _ ⟨⟩
        exact .inl hb
  | @token p b cs k text rest ts hb hlex _ _ =>
      have hspace : b ≠ ' ' := by
        rintro rfl
        exact absurd hb (by decide)
      obtain ⟨happend, hne⟩ := lexeme?_append hlex
      obtain ⟨d, tail, rfl⟩ := List.exists_cons_of_ne_nil hne
      obtain ⟨rfl, -⟩ := List.cons.inj happend
      rw [List.filter_cons_of_pos (by simpa using hspace)]
      rintro _ ⟨⟩
      exact .inr ⟨_, rfl, rfl⟩

/-- **A text without its spaces splits into the same tokens**, if no two neighbours among them would
read as one. -/
lemma Token.Splits.withoutSpaces {p : ℕ} {cs : List Char} (h : Splits p cs ts) (hts : Unmerged ts)
    (q : ℕ) : ∃ us, Splits q (cs.filter (· ≠ ' ')) us ∧ us.map shape = ts.map shape := by
  induction h generalizing q with
  | done p => exact ⟨[], .done q, rfl⟩
  | @blank p b cs ts hb _ ih =>
      by_cases hspace : b = ' '
      · rw [List.filter_cons_of_neg (by simpa using hspace)]
        exact ih hts q
      · rw [List.filter_cons_of_pos (by simpa using hspace)]
        obtain ⟨us, hus, hshape⟩ := ih hts (q + 1)
        exact ⟨us, .blank hb hus, hshape⟩
  | @token p b cs k text rest ts hb hlex h ih =>
      obtain ⟨hnext, hts⟩ := List.isChain_cons.1 hts
      obtain ⟨us, hus, hshape⟩ := ih hts (q + text.length)
      have htoken := lexeme_of_lexeme? hlex
      have hkept : text.filter (· ≠ ' ') = text := List.filter_eq_self.2 fun c hc => by
        have hblank := htoken.not_isBlank c hc
        rw [decide_eq_true_iff]
        rintro rfl
        exact absurd hblank (by decide)
      have htaken : lexeme? (text ++ rest.filter (· ≠ ' ')) =
          some (k, text, rest.filter (· ≠ ' ')) := by
        refine lexeme?_append_of_maximal htoken fun c hc => ?_
        rcases h.head_withoutSpaces c hc with hblank | ⟨u, hu, hc⟩
        · exact not_lexeme_append_blank hblank
        · have hmerge : merges text u.text = false := hnext u hu
          exact maximal_of_lexeme? (lexeme?_append_of_not_merges htoken hmerge) c hc
      rw [← (lexeme?_append hlex).1, List.filter_append, hkept]
      exact ⟨⟨k, text, q⟩ :: us, .taken htaken hus, by simp [hshape, shape]⟩

end CurveSketch
