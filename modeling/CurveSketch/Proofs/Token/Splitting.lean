import CurveSketch.Proofs.Token.Lexeme

/-!
# How a text splits into tokens

`tokenize` walks over a text, and everything about it is an induction over that walk.  `Splits` is
the walk as a relation: what it has at its end, in front of a blank, and in front of a token.

* `tokenizeFrom_eq_ok_iff` — the walk goes through exactly when the text splits.
* `Splits.lexeme`, `Splits.mem` — tokens are written like tokens, and there is nothing else in the
  text but blanks.
* `Splits.shift` — the position at which a text begins only moves the tokens.
* `Splits.trim`, `Splits.untrim` — nor do blanks at the two ends of a text change the tokens.
* `Splits.cons_cases` — what stands in front of the second token: blanks, and the first one.
* `Splits.cut` — a text may be cut where no token goes on.
* `Splits.exists_taken` — every token is what is taken where it stands.
* `splits_of_tokenizeFrom_error` — where the walk stops, and that it went through up to there.
-/

namespace CurveSketch.Token

open Text

/-- The text, beginning at a position, splits into the tokens. -/
inductive Splits : ℕ → List Char → List Token → Prop
  | done (p) : Splits p [] []
  | blank {p c cs ts} (hc : isBlank c = true) (h : Splits (p + 1) cs ts) : Splits p (c :: cs) ts
  | token {p c cs k text rest ts} (hc : isBlank c = false)
      (hlex : lexeme? (c :: cs) = some (k, text, rest)) (h : Splits (p + text.length) rest ts) :
      Splits p (c :: cs) (⟨k, text, p⟩ :: ts)

lemma Splits.tokenizeFrom_eq {p : ℕ} {cs : List Char} {ts : List Token} (h : Splits p cs ts) :
    tokenizeFrom p cs = .ok ts := by
  induction h with
  | done p => rw [tokenizeFrom]
  | blank hc _ ih => rw [tokenizeFrom, if_pos hc, ih]
  | token hc hlex _ ih =>
      rw [tokenizeFrom, if_neg (by simp [hc])]
      split
      · next hnone => simp [hlex] at hnone
      · next hsome =>
        rw [hlex] at hsome
        obtain ⟨rfl, rfl, rfl⟩ := hsome
        rw [ih]
        rfl

lemma splits_of_tokenizeFrom {p : ℕ} {cs : List Char} {ts : List Token}
    (h : tokenizeFrom p cs = .ok ts) : Splits p cs ts := by
  fun_induction tokenizeFrom p cs generalizing ts with
  | case1 p =>
      obtain rfl : [] = ts := by simpa using h
      exact .done p
  | case2 p c cs hc ih => exact .blank hc (ih h)
  | case3 p c cs hc hnone => simp at h
  | case4 p c cs hc k text rest hlex ih =>
      cases hmore : tokenizeFrom (p + text.length) rest with
      | error r => simp [hmore, Except.map] at h
      | ok us =>
          obtain rfl : ⟨k, text, p⟩ :: us = ts := by simpa [hmore, Except.map] using h
          exact .token (by simpa using hc) hlex (ih hmore)

/-- The walk goes through exactly when the text splits. -/
lemma tokenizeFrom_eq_ok_iff {p : ℕ} {cs : List Char} {ts : List Token} :
    tokenizeFrom p cs = .ok ts ↔ Splits p cs ts :=
  ⟨splits_of_tokenizeFrom, Splits.tokenizeFrom_eq⟩

variable {p : ℕ} {cs : List Char} {ts : List Token}

/-! ## What is in a text that splits -/

lemma Splits.lexeme (h : Splits p cs ts) : ∀ t ∈ ts, Lexeme t.kind t.text := by
  induction h with
  | done p => simp
  | blank _ _ ih => exact ih
  | token _ hlex _ ih =>
      intro t ht
      rcases List.mem_cons.1 ht with rfl | ht
      · exact lexeme_of_lexeme? hlex
      · exact ih t ht

/-- Whatever stands in a text is a blank or in a token. -/
lemma Splits.mem (h : Splits p cs ts) : ∀ c ∈ cs, isBlank c = true ∨ ∃ t ∈ ts, c ∈ t.text := by
  induction h with
  | done p => simp
  | blank hc _ ih =>
      intro d hd
      rcases List.mem_cons.1 hd with rfl | hd
      · exact Or.inl hc
      · exact ih d hd
  | token _ hlex _ ih =>
      intro d hd
      rw [← (lexeme?_append hlex).1] at hd
      rcases List.mem_append.1 hd with hd | hd
      · exact Or.inr ⟨_, List.mem_cons_self, hd⟩
      · exact (ih d hd).imp id fun ⟨t, ht, hdt⟩ => ⟨t, List.mem_cons_of_mem _ ht, hdt⟩

lemma Splits.not_foreign (h : Splits p cs ts) : ∀ c ∈ cs, ¬ Foreign c := by
  intro c hc hforeign
  rcases h.mem c hc with hblank | ⟨t, ht, hmem⟩
  · simp [hforeign.1] at hblank
  · exact (h.lexeme t ht).not_foreign c hmem hforeign

/-- A token is split off from the front of a text. -/
lemma Splits.taken {k : Kind} {text rest : List Char}
    (hlex : lexeme? (text ++ rest) = some (k, text, rest))
    (h : Splits (p + text.length) rest ts) : Splits p (text ++ rest) (⟨k, text, p⟩ :: ts) := by
  obtain ⟨c, tail, htext⟩ := List.exists_cons_of_ne_nil (lexeme?_append hlex).2
  have hc := (lexeme_of_lexeme? hlex).not_isBlank c (by simp [htext])
  rw [htext, List.cons_append] at hlex ⊢
  rw [htext] at h
  exact .token hc hlex h

/-- Where a token is taken from the front of a text, it is the first one. -/
lemma Splits.taken_cases {k : Kind} {text rest : List Char}
    (hlex : lexeme? (text ++ rest) = some (k, text, rest)) (h : Splits p (text ++ rest) ts) :
    ∃ us, ts = ⟨k, text, p⟩ :: us ∧ Splits (p + text.length) rest us := by
  obtain ⟨c, tail, htext⟩ := List.exists_cons_of_ne_nil (lexeme?_append hlex).2
  have hblank := (lexeme_of_lexeme? hlex).not_isBlank c (by simp [htext])
  rw [htext, List.cons_append] at hlex h
  cases h with
  | blank hc _ =>
      rw [hblank] at hc
      cases hc
  | token _ htaken h =>
      rw [hlex] at htaken
      simp only [Option.some.injEq, Prod.mk.injEq] at htaken
      obtain ⟨rfl, rfl, rfl⟩ := htaken
      exact ⟨_, by rw [htext], by rwa [htext]⟩

/-- A text may be cut where no token goes on: what stands behind the cut splits into the last of the
tokens. -/
lemma Splits.cut {front rest : List Char} (h : Splits p (front ++ rest) ts)
    (hcut : ∀ k left right, Lexeme k (left ++ right) → left ≠ [] → left <:+ front → right ≠ [] →
      ¬ right <+: rest) :
    ∃ before after q, ts = before ++ after ∧ Splits q rest after := by
  generalize hcs : front ++ rest = cs at h
  induction h generalizing front with
  | done p =>
      obtain ⟨rfl, rfl⟩ := List.append_eq_nil_iff.1 hcs
      exact ⟨[], [], p, rfl, .done p⟩
  | @blank p c cs ts hc h ih =>
      cases front with
      | nil => exact ⟨[], ts, p, rfl, by rw [← List.nil_append rest, hcs]; exact .blank hc h⟩
      | cons d front =>
          obtain ⟨rfl, htail⟩ := List.cons.inj hcs
          refine ih (fun k left right hlex hleft hsuffix => ?_) htail
          exact hcut k left right hlex hleft (hsuffix.trans (List.suffix_cons d front))
  | @token p c cs k text tail ts hc hlex h ih =>
      have htoken := lexeme_of_lexeme? hlex
      have happend := (lexeme?_append hlex).1
      rcases List.append_eq_append_iff.1 (happend.trans hcs.symm) with
        ⟨more, rfl, htail⟩ | ⟨more, rfl, hrest⟩
      · have hmore : ∀ k left right, Lexeme k (left ++ right) → left ≠ [] → left <:+ more →
            right ≠ [] → ¬ right <+: rest := fun k left right hlex hleft hsuffix =>
          hcut k left right hlex hleft (hsuffix.trans (List.suffix_append text more))
        obtain ⟨before, after, q, rfl, hafter⟩ := ih hmore htail.symm
        exact ⟨_ :: before, after, q, rfl, hafter⟩
      · by_cases hfront : front = []
        · subst hfront
          exact ⟨[], _, p, rfl, by rw [← List.nil_append rest, hcs]; exact .token hc hlex h⟩
        · by_cases hmore : more = []
          · subst hmore
            exact ⟨[⟨k, front ++ [], p⟩], ts, _, rfl, by rwa [hrest, List.nil_append]⟩
          · exact absurd ⟨tail, hrest.symm⟩
              (hcut k front more htoken hfront (List.suffix_refl front) hmore)

/-- The walk stops at a character that is no blank and begins no token, and what is in front of it
splits. -/
lemma splits_of_tokenizeFrom_error {r : Rejection} (h : tokenizeFrom p cs = .error r) :
    ∃ front c rest ts, cs = front ++ c :: rest ∧ r = .invalidCharacter c (p + front.length) ∧
      isBlank c = false ∧ lexeme? (c :: rest) = none ∧ Splits p front ts := by
  fun_induction tokenizeFrom p cs generalizing r with
  | case1 p => simp at h
  | case2 p c cs hc ih =>
      obtain ⟨front, d, rest, ts, rfl, rfl, hd, hnone, hfront⟩ := ih h
      exact ⟨c :: front, d, rest, ts, rfl, by simp; omega, hd, hnone, .blank hc hfront⟩
  | case3 p c cs hc hnone =>
      exact ⟨[], c, cs, [], rfl, (Except.error.inj h).symm, by simpa using hc, hnone, .done p⟩
  | case4 p c cs hc k text rest hlex ih =>
      cases hmore : tokenizeFrom (p + text.length) rest with
      | ok us => simp [hmore, Except.map] at h
      | error r' =>
          obtain rfl : r' = r := by simpa [hmore, Except.map] using h
          obtain ⟨front, d, after, ts, rfl, rfl, hd, hnone, hfront⟩ := ih hmore
          obtain ⟨htext, hne⟩ := lexeme?_append hlex
          -- the token is taken from the shorter text too, as it has the same character behind it
          have hshort : lexeme? (text ++ front) = some (k, text, front) :=
            lexeme?_congr_head hlex fun e he => .inl (by simp [Option.mem_def.1 he])
          refine ⟨text ++ front, d, after, _, by rw [← htext, List.append_assoc], ?_, hd, hnone,
            hfront.taken hshort⟩
          rw [List.length_append, Nat.add_assoc]

/-- A text that does not begin with a blank has a token. -/
lemma Splits.ne_nil {c : Char} (h : Splits p (c :: cs) ts) (hc : isBlank c = false) : ts ≠ [] := by
  cases h with
  | blank hc' _ => simp [hc] at hc'
  | token _ _ _ => simp

/-! ## Positions and blanks at the ends -/

/-- The position at which a text begins only moves the tokens. -/
lemma Splits.shift (h : Splits p cs ts) (q : ℕ) :
    ∃ us, Splits q cs us ∧ us.map shape = ts.map shape := by
  induction h generalizing q with
  | done p => exact ⟨[], .done q, rfl⟩
  | blank hc _ ih =>
      obtain ⟨us, hus, hshape⟩ := ih (q + 1)
      exact ⟨us, .blank hc hus, hshape⟩
  | @token _ c cs k text rest ts hc hlex _ ih =>
      obtain ⟨us, hus, hshape⟩ := ih (q + text.length)
      exact ⟨⟨k, text, q⟩ :: us, .token hc hlex hus, by simp [hshape, shape]⟩

lemma Splits.of_blanks {blanks : List Char} (hblanks : ∀ b ∈ blanks, isBlank b = true)
    (h : Splits p blanks ts) : ts = [] := by
  induction h with
  | done p => rfl
  | blank _ _ ih => exact ih fun b hb => hblanks b (List.mem_cons_of_mem _ hb)
  | token hc _ _ _ => simp [hblanks _ List.mem_cons_self] at hc

/-- Blanks that are put in front of a text only move its tokens. -/
lemma Splits.behindBlanks : ∀ {blanks : List Char} {p : ℕ}, (∀ b ∈ blanks, isBlank b = true) →
    Splits (p + blanks.length) cs ts → Splits p (blanks ++ cs) ts := by
  intro blanks
  induction blanks with
  | nil => intro p _ h; exact h
  | cons b blanks ih =>
      intro p hblanks h
      rw [List.length_cons, Nat.add_comm blanks.length, ← Nat.add_assoc] at h
      exact .blank (hblanks b List.mem_cons_self)
        (ih (fun c hc => hblanks c (List.mem_cons_of_mem b hc)) h)

/-- What stands in front of the second token is blanks and the first one. -/
lemma Splits.cons_cases {t : Token} (h : Splits p cs (t :: ts)) :
    ∃ blanks rest, cs = blanks ++ (t.text ++ rest) ∧ (∀ b ∈ blanks, isBlank b = true) ∧
      t.position = p + blanks.length ∧ lexeme? (t.text ++ rest) = some (t.kind, t.text, rest) ∧
      Splits (t.position + t.text.length) rest ts := by
  generalize hus : t :: ts = us at h
  induction h with
  | done p => cases hus
  | @blank p c cs us hc _ ih =>
      obtain ⟨blanks, rest, rfl, hblanks, hposition, hlex, hrest⟩ := ih hus
      refine ⟨c :: blanks, rest, rfl, List.forall_mem_cons.2 ⟨hc, hblanks⟩, ?_, hlex, hrest⟩
      rw [hposition, List.length_cons]
      omega
  | @token p c cs k text rest us hc hlex hrest _ =>
      obtain ⟨rfl, rfl⟩ := List.cons.inj hus
      have hcs := (lexeme?_append hlex).1
      exact ⟨[], rest, hcs.symm, by simp, rfl, hcs ▸ hlex, hrest⟩

/-- No token begins before the text does. -/
lemma Splits.le_position (h : Splits p cs ts) : ∀ t ∈ ts, p ≤ t.position := by
  induction h with
  | done p => simp
  | blank _ _ ih => exact fun t ht => Nat.le_of_succ_le (ih t ht)
  | token _ _ _ ih =>
      intro t ht
      rcases List.mem_cons.1 ht with rfl | ht
      · exact Nat.le_refl _
      · exact Nat.le_of_add_right_le (ih t ht)

/-- Every token is what is taken where it stands. -/
lemma Splits.exists_taken (h : Splits p cs ts) : ∀ t ∈ ts, ∃ front rest,
    cs = front ++ (t.text ++ rest) ∧ t.position = p + front.length ∧
      lexeme? (t.text ++ rest) = some (t.kind, t.text, rest) := by
  induction h with
  | done p => simp
  | @blank p c cs ts _ _ ih =>
      intro t ht
      obtain ⟨front, rest, rfl, hposition, htaken⟩ := ih t ht
      exact ⟨c :: front, rest, rfl, by rw [hposition, List.length_cons]; omega, htaken⟩
  | @token p c cs k text rest ts _ hlex _ ih =>
      have htext := (lexeme?_append hlex).1
      intro t ht
      rcases List.mem_cons.1 ht with rfl | ht
      · exact ⟨[], rest, htext.symm, rfl, htext ▸ hlex⟩
      · obtain ⟨front, after, rfl, hposition, htaken⟩ := ih t ht
        refine ⟨text ++ front, after, by rw [← htext, List.append_assoc], ?_, htaken⟩
        rw [hposition, List.length_append, Nat.add_assoc]

/-- Blanks behind a text do not change its tokens. -/
lemma Splits.appendBlanks {blanks : List Char} (hblanks : ∀ b ∈ blanks, isBlank b = true)
    (h : Splits p cs ts) : Splits p (cs ++ blanks) ts := by
  induction h with
  | done p =>
      rw [List.nil_append, ← List.append_nil blanks]
      exact .behindBlanks hblanks (.done _)
  | blank hc _ ih => exact .blank hc ih
  | token hc hlex _ ih => exact .token hc (lexeme?_append_blanks hblanks hlex) ih

/-- Blanks behind a text do not change its tokens. -/
lemma Splits.dropBlanks {blanks : List Char} (hblanks : ∀ b ∈ blanks, isBlank b = true)
    (h : Splits p (cs ++ blanks) ts) : Splits p cs ts := by
  generalize hds : cs ++ blanks = ds at h
  induction h generalizing cs with
  | done p =>
      obtain ⟨rfl, -⟩ := List.append_eq_nil_iff.1 hds
      exact .done p
  | @blank p c _ ts hc h ih =>
      cases cs with
      | nil =>
          have hnil := Splits.of_blanks (hds ▸ hblanks) (.blank hc h)
          rw [hnil]
          exact .done p
      | cons d cs =>
          obtain ⟨rfl, hrest⟩ := List.cons.inj hds
          exact .blank hc (ih hrest)
  | @token p c _ k text rest ts hc hlex h ih =>
      cases cs with
      | nil => simp [hblanks c (by simp [show blanks = _ from hds])] at hc
      | cons d cs =>
          obtain ⟨rfl, rfl⟩ := List.cons.inj hds
          have hwhole : lexeme? ((d :: cs) ++ blanks) = some (k, text, rest) := hlex
          obtain ⟨front, rfl, hfound⟩ := lexeme?_of_append_blanks hblanks hwhole
          exact .token hc hfound (ih rfl)

/-- Blanks in front of a text only move its tokens. -/
lemma Splits.dropWhile_blank (h : Splits p cs ts) : ∃ q, Splits q (cs.dropWhile isBlank) ts := by
  induction h with
  | done p => exact ⟨p, .done p⟩
  | blank hc _ ih =>
      rw [List.dropWhile_cons_of_pos hc]
      exact ih
  | @token p c cs k text rest ts hc hlex h _ =>
      rw [List.dropWhile_cons_of_neg (by simp [hc])]
      exact ⟨p, .token hc hlex h⟩

lemma dropWhile_eq_trim_append (cs : List Char) :
    ∃ blanks, cs.dropWhile isBlank = trim cs ++ blanks ∧ ∀ b ∈ blanks, isBlank b = true := by
  refine ⟨((cs.dropWhile isBlank).reverse.takeWhile isBlank).reverse, ?_, ?_⟩
  · rw [trim, trimWith, ← List.reverse_append, List.takeWhile_append_dropWhile,
      List.reverse_reverse]
  · intro b hb
    exact List.all_eq_true.1 List.all_takeWhile b (List.mem_reverse.1 hb)

lemma head_trim_not_blank {c : Char} {tail : List Char} (h : Text.trim cs = c :: tail) :
    isBlank c = false := by
  obtain ⟨blanks, hcs, -⟩ := dropWhile_eq_trim_append cs
  have hhead := List.head?_dropWhile_not isBlank cs
  rw [hcs, h] at hhead
  simpa using hhead

/-- Blanks at the two ends of a text do not change the kinds and texts of its tokens. -/
lemma Splits.trim (h : Splits p cs ts) :
    ∃ us, Splits 0 (trim cs) us ∧ us.map shape = ts.map shape := by
  obtain ⟨q, hq⟩ := h.dropWhile_blank
  obtain ⟨blanks, hcs, hblanks⟩ := dropWhile_eq_trim_append cs
  rw [hcs] at hq
  exact (hq.dropBlanks hblanks).shift 0

/-- Nor do blanks that are put there. -/
lemma Splits.untrim (h : Splits p (Text.trim cs) ts) :
    ∃ us, Splits 0 cs us ∧ us.map shape = ts.map shape := by
  obtain ⟨blanks, hcs, hblanks⟩ := dropWhile_eq_trim_append cs
  have hfront : ∀ b ∈ cs.takeWhile isBlank, isBlank b = true := fun b hb =>
    List.all_eq_true.1 List.all_takeWhile b hb
  obtain ⟨us, hus, hshape⟩ := (h.appendBlanks hblanks).shift (0 + (cs.takeWhile isBlank).length)
  refine ⟨us, ?_, hshape⟩
  rw [← List.takeWhile_append_dropWhile (p := isBlank) (l := cs), hcs]
  exact hus.behindBlanks hfront

end CurveSketch.Token
