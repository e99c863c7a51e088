import CurveSketch.Proofs.NormalForm.Stars

/-!
# Stars written into an input

`2x(x+1)` and `2*x*(x+1)` are the same expression.  More generally, whoever types a star between any
of the neighbours that are multiplied without one gets the normal form he would have got anyway.

* `writeStars` — a text with a star in front of the characters at some places.
* `StarPlaces` — places that lie between neighbours that are multiplied, one at most for each two.
* `Starred` — what is shown token by token: the text, with its stars, splits into the same tokens with
  stars between them.
* `normalize_cases`, `normalize_of_splits` — an input normalized without cutting off the blanks at its
  ends.
* **`normalize_writeStars`** — an input has the same normal form with stars at such places.

The stars are written into the input as it was typed, so the places are counted in that text: blanks
at its beginning, and its capital letters, are cut off and made small only afterwards.
-/

namespace CurveSketch

open Text Token NormalForm

/-- The place where a token ends. -/
def Token.stop (t : Token) : ℕ := t.position + t.text.length

namespace NormalForm

/-- The text with a star in front of the character at every place that is chosen, where the text
begins at the place `p`. -/
def writeStars (places : ℕ → Bool) (p : ℕ) : List Char → List Char
  | [] => []
  | c :: cs =>
    if places p then '*' :: c :: writeStars places (p + 1) cs
    else c :: writeStars places (p + 1) cs

/-- Places that lie between two neighbours that are multiplied, one at most for each two. -/
structure StarPlaces (ts : List Token) (places : ℕ → Bool) : Prop where
  between : ∀ p, places p = true → ∃ a b, [a, b] <:+: ts ∧ a.stop ≤ p ∧ p ≤ b.position ∧
    Multiplied a b
  once : ∀ a b, [a, b] <:+: ts → ∀ p q, a.stop ≤ p → p ≤ b.position → a.stop ≤ q → q ≤ b.position →
    places p = true → places q = true → p = q

variable {places : ℕ → Bool} {p q : ℕ}

/-! ## Stars in a text -/

lemma writeStars_append (p : ℕ) (as bs : List Char) :
    writeStars places p (as ++ bs) =
      writeStars places p as ++ writeStars places (p + as.length) bs := by
  induction as generalizing p with
  | nil => rfl
  | cons a as ih =>
      rw [List.cons_append, writeStars, writeStars, ih, List.length_cons, Nat.add_assoc,
        Nat.add_comm 1]
      split_ifs <;> rfl

lemma writeStars_map {f : Char → Char} (hf : f '*' = '*') (p : ℕ) (cs : List Char) :
    writeStars places p (cs.map f) = (writeStars places p cs).map f := by
  induction cs generalizing p with
  | nil => rfl
  | cons c cs ih =>
      rw [List.map_cons, writeStars, writeStars, ih]
      split_ifs
      · rw [List.map_cons, List.map_cons, hf]
      · rfl

lemma mem_writeStars {c : Char} {p : ℕ} {cs : List Char} (h : c ∈ writeStars places p cs) :
    c = '*' ∨ c ∈ cs := by
  induction cs generalizing p with
  | nil => simp [writeStars] at h
  | cons d cs ih =>
      rw [writeStars] at h
      split_ifs at h
      · rcases List.mem_cons.1 h with h | h
        · exact .inl h
        · rcases List.mem_cons.1 h with rfl | h
          · exact .inr List.mem_cons_self
          · exact (ih h).imp id (List.mem_cons_of_mem d)
      · rcases List.mem_cons.1 h with rfl | h
        · exact .inr List.mem_cons_self
        · exact (ih h).imp id (List.mem_cons_of_mem d)

lemma head_writeStars {c : Char} {p : ℕ} {cs : List Char}
    (h : c ∈ (writeStars places p cs).head?) : c ∈ cs.head? ∨ c = '*' ∧ places p = true := by
  cases cs with
  | nil => exact .inl h
  | cons d cs =>
      rw [writeStars] at h
      split_ifs at h with hp
      · exact .inr ⟨(Option.some.inj h).symm, hp⟩
      · exact .inl h

lemma writeStars_none : ∀ {cs : List Char} {p : ℕ},
    (∀ q, p ≤ q → q < p + cs.length → ¬ places q = true) → writeStars places p cs = cs := by
  intro cs
  induction cs with
  | nil => intro p _; rfl
  | cons c cs ih =>
      intro p h
      simp only [List.length_cons] at h
      have hp : ¬ places p = true := h p (le_refl p) (by omega)
      rw [writeStars, if_neg hp, ih fun q _ _ => h q (by omega) (by omega)]

/-- At one place of the text, and at no other, a star is written. -/
lemma writeStars_single : ∀ {cs : List Char} {p i : ℕ}, i < cs.length →
    (∀ q, p ≤ q → q < p + cs.length → (places q = true ↔ q = p + i)) →
    writeStars places p cs = cs.take i ++ '*' :: cs.drop i := by
  intro cs
  induction cs with
  | nil => intro p i hi _; simp at hi
  | cons c cs ih =>
      intro p i hi h
      simp only [List.length_cons] at hi h
      have hrest : ∀ q, p + 1 ≤ q → q < p + 1 + cs.length → (places q = true ↔ q = p + i) :=
        fun q _ _ => h q (by omega) (by omega)
      cases i with
      | zero =>
          have hp : places p = true := (h p (by omega) (by omega)).2 rfl
          have hnone : ∀ q, p + 1 ≤ q → q < p + 1 + cs.length → ¬ places q = true := by
            intro q hq hlt hplace
            have := (hrest q hq hlt).1 hplace
            omega
          rw [writeStars, if_pos hp, writeStars_none hnone]
          rfl
      | succ i =>
          have hp : ¬ places p = true := fun hp => by
            have := (h p (by omega) (by omega)).1 hp
            omega
          have hone : ∀ q, p + 1 ≤ q → q < p + 1 + cs.length → (places q = true ↔ q = p + 1 + i) := by
            intro q hq hlt
            rw [hrest q hq hlt]
            omega
          rw [writeStars, if_neg hp, ih (by omega) hone]
          rfl

/-! ## Stars between tokens -/

/-- Only operators have stars in them. -/
lemma star_not_mem {k : Kind} {text : List Char} (h : Lexeme k text) (hk : k ≠ .operator) :
    '*' ∉ text := by
  intro hmem
  by_cases hjoin : k = .number ∨ k = .name
  · have hstar : isJoining '*' = false := by decide +kernel
    simp [h.isJoining hjoin '*' hmem] at hstar
  · cases h with
    | symbol h =>
        obtain rfl := List.mem_singleton.1 hmem
        exact hk (Option.some.inj h).symm
    | stars => exact hk rfl
    | _ => simp at hjoin

/-- A factor does not go on with a star. -/
lemma not_lexeme_append_star {k : Kind} {text : List Char} (hk : k ≠ .operator) :
    ¬ Lexeme k (text ++ ['*']) := fun h => star_not_mem h hk (by simp)

lemma lexeme?_star {rest : List Char} (h : '*' ∉ rest.head?) :
    lexeme? (['*'] ++ rest) = some (.operator, ['*'], rest) := by
  refine lexeme?_append_of_maximal (.symbol rfl) fun c hc hlonger => ?_
  rcases hlonger.last_cases (by simp) with ⟨hk, -⟩ | ⟨hk, -⟩ | ⟨-, -, rfl⟩
  · simp at hk
  · simp at hk
  · exact h hc

lemma pair_cons_cons {a b left t : Token} {ts : List Token} (h : [a, b] <:+: left :: t :: ts) :
    (a = left ∧ b = t) ∨ [a, b] <:+: t :: ts := by
  rcases List.infix_cons_iff.1 h with hfront | hrest
  · obtain ⟨ha, hnext⟩ := List.cons_prefix_cons.1 hfront
    exact .inl ⟨ha, (List.cons_prefix_cons.1 hnext).1⟩
  · exact .inr hrest

lemma not_pair_singleton {a b left : Token} : ¬ [a, b] <:+: [left] := fun h => by
  have := h.length_le
  simp at this

/-- The first token ends first. -/
lemma stop_le_of_splits {cs : List Char} {t : Token} {ts : List Token} (h : Splits p cs (t :: ts)) :
    ∀ a ∈ t :: ts, t.stop ≤ a.stop := by
  obtain ⟨blanks, rest, -, -, -, -, hrest⟩ := h.cons_cases
  intro a ha
  rcases List.mem_cons.1 ha with rfl | ha
  · exact le_refl _
  · exact Nat.le_add_right_of_le (hrest.le_position a ha)

/-- What stands between two factors does not begin with a star. -/
lemma star_not_head {k : Kind} {text blanks rest : List Char}
    (hblanks : ∀ b ∈ blanks, isBlank b = true) (hlex : Lexeme k text) (hk : k ≠ .operator) :
    '*' ∉ (blanks ++ (text ++ rest)).head? := by
  intro hstar
  cases blanks with
  | nil =>
      obtain ⟨c, tail, rfl⟩ := List.exists_cons_of_ne_nil hlex.ne_nil
      obtain rfl : c = '*' := by simpa using hstar
      exact star_not_mem hlex hk List.mem_cons_self
  | cons b blanks =>
      obtain rfl : b = '*' := by simpa using hstar
      exact absurd (hblanks '*' List.mem_cons_self) (by decide)

/-- The places behind a token are right for stars among the tokens that follow it. -/
structure StarsBehind (left : Token) (ts : List Token) (places : ℕ → Bool) : Prop where
  between : ∀ p, left.stop ≤ p → places p = true → ∃ a b, [a, b] <:+: left :: ts ∧ a.stop ≤ p ∧
    p ≤ b.position ∧ multiplies (settle a).kind (settle b).kind = true
  once : ∀ a b, [a, b] <:+: left :: ts → ∀ p q, a.stop ≤ p → p ≤ b.position → a.stop ≤ q →
    q ≤ b.position → places p = true → places q = true → p = q

lemma StarPlaces.behind {t : Token} {ts : List Token} (h : StarPlaces (t :: ts) places) :
    StarsBehind t ts places where
  between p _ hp := by
    obtain ⟨a, b, hpair, ha, hb, hmul⟩ := h.between p hp
    exact ⟨a, b, hpair, ha, hb, hmul.multiplies⟩
  once := h.once

variable {left t : Token} {ts : List Token} {cs : List Char}

/-- A place in front of the second token's end is one between the two. -/
lemma StarsBehind.gap (h : StarsBehind left (t :: ts) places) (hcs : Splits left.stop cs (t :: ts))
    (hleft : left.stop ≤ p) (ht : p < t.stop) (hp : places p = true) :
    p ≤ t.position ∧ multiplies (settle left).kind (settle t).kind = true := by
  obtain ⟨a, b, hpair, ha, hb, hmul⟩ := h.between p hleft hp
  rcases pair_cons_cons hpair with ⟨rfl, rfl⟩ | hpair
  · exact ⟨hb, hmul⟩
  · have := stop_le_of_splits hcs a (hpair.mem List.mem_cons_self)
    omega

lemma StarsBehind.tail (h : StarsBehind left (t :: ts) places)
    (hcs : Splits left.stop cs (t :: ts)) : StarsBehind t ts places where
  between p hp hplace := by
    have hposition := hcs.le_position t List.mem_cons_self
    have hlength := List.length_pos_iff.2 (hcs.lexeme t List.mem_cons_self).ne_nil
    unfold stop at hp
    obtain ⟨a, b, hpair, ha, hb, hmul⟩ := h.between p (by omega) hplace
    rcases pair_cons_cons hpair with ⟨rfl, rfl⟩ | hpair
    · omega
    · exact ⟨a, b, hpair, ha, hb, hmul⟩
  once a b hpair := h.once a b (List.infix_cons_iff.2 (.inr hpair))

/-- A token right behind which a star stands is a factor. -/
lemma StarsBehind.factor (h : StarsBehind t ts places) (hcs : Splits t.stop cs ts)
    (hplace : places t.stop = true) : t.kind ≠ .operator := by
  obtain ⟨a, b, hpair, ha, -, hmul⟩ := h.between t.stop (le_refl _) hplace
  rcases List.mem_cons.1 (hpair.mem List.mem_cons_self) with rfl | hmem
  · intro hop
    simp [settle_operator_kind hop] at hmul
  · have hposition := hcs.le_position a hmem
    have hlength := List.length_pos_iff.2 (hcs.lexeme a hmem).ne_nil
    unfold stop at ha hposition
    omega

/-- A token is taken as it was, whether a star has been written behind it or not. -/
lemma StarsBehind.taken {rest : List Char} (h : StarsBehind t ts places)
    (hrest : Splits t.stop rest ts)
    (hlex : lexeme? (t.text ++ rest) = some (t.kind, t.text, rest)) :
    lexeme? (t.text ++ writeStars places t.stop rest) =
      some (t.kind, t.text, writeStars places t.stop rest) := by
  refine lexeme?_congr_head hlex fun c hc => ?_
  rcases head_writeStars hc with hc | ⟨rfl, hplace⟩
  · exact .inl hc
  · exact .inr (not_lexeme_append_star (h.factor hrest hplace))

lemma stop_eq_add {blanks : List Char} (h : t.position = p + blanks.length) :
    p + (blanks ++ t.text).length = t.stop := by
  rw [List.length_append, ← Nat.add_assoc, ← h]
  rfl

/-- Every text from the place `p` on that splits into the tokens splits, with the stars, into the
tokens and the stars. -/
def Starred (places : ℕ → Bool) (p : ℕ) (k : Kind) (ts : List Token) : Prop :=
  ∀ cs, Splits p cs ts → ∀ q, ∃ us, Splits q (writeStars places p cs) us ∧ Interspersed k ts us

/-- No star in front of a token: what is behind it decides. -/
lemma Starred.same {k : Kind} (hbehind : Starred places t.stop (settle t).kind ts)
    (hplaces : StarsBehind t ts places)
    (hnone : ∀ r, p ≤ r → r < t.stop → ¬ places r = true) : Starred places p k (t :: ts) := by
  intro cs hcs q
  obtain ⟨blanks, rest, rfl, hblanks, hposition, hlex, hrest⟩ := hcs.cons_cases
  have hstop := stop_eq_add hposition
  obtain ⟨us, hus, hinter⟩ := hbehind rest hrest (q + blanks.length + t.text.length)
  rw [← hstop] at hnone
  rw [← List.append_assoc, writeStars_append, hstop, writeStars_none hnone, List.append_assoc]
  exact ⟨_, .behindBlanks hblanks (.taken (hplaces.taken hrest hlex) hus), .same rfl hinter⟩

/-- A star in front of a token, anywhere among the blanks. -/
lemma Starred.star {i : ℕ} {k : Kind} (hbehind : Starred places t.stop (settle t).kind ts)
    (hplaces : StarsBehind t ts places) (hi : p + i ≤ t.position)
    (hsingle : ∀ r, p ≤ r → r < t.stop → (places r = true ↔ r = p + i))
    (hmul : multiplies k (settle t).kind = true) : Starred places p k (t :: ts) := by
  intro cs hcs q
  obtain ⟨blanks, rest, rfl, hblanks, hposition, hlex, hrest⟩ := hcs.cons_cases
  have hstop := stop_eq_add hposition
  have hle : i ≤ blanks.length := by omega
  have hlt : i < (blanks ++ t.text).length := by
    have := List.length_pos_iff.2 (lexeme?_append hlex).2
    rw [List.length_append]
    omega
  have hop : t.kind ≠ .operator := by
    intro hop
    simp [settle_operator_kind hop] at hmul
  have htake : ∀ b ∈ blanks.take i, isBlank b = true := fun b hb =>
    hblanks b (List.mem_of_mem_take hb)
  have hdrop : ∀ b ∈ blanks.drop i, isBlank b = true := fun b hb =>
    hblanks b (List.mem_of_mem_drop hb)
  have hnext : '*' ∉ (blanks.drop i ++ (t.text ++ writeStars places t.stop rest)).head? :=
    star_not_head hdrop (lexeme_of_lexeme? hlex) hop
  obtain ⟨us, hus, hinter⟩ := hbehind rest hrest
    (q + (blanks.take i).length + 1 + (blanks.drop i).length + t.text.length)
  have htoken := Splits.behindBlanks hdrop (.taken (hplaces.taken hrest hlex) hus)
  rw [← hstop] at hsingle
  rw [← List.append_assoc, writeStars_append, hstop, writeStars_single hlt hsingle,
    List.take_append_of_le_length hle, List.drop_append_of_le_length hle, List.append_assoc,
    List.cons_append, List.append_assoc]
  exact ⟨_, .behindBlanks htake (.taken (lexeme?_star hnext) htoken),
    .star hmul ⟨rfl, rfl⟩ rfl hinter⟩

/-- The text behind a token splits that way, if the places are right. -/
lemma starred_behind : ∀ {ts : List Token} {left : Token} {cs : List Char},
    Splits left.stop cs ts → StarsBehind left ts places →
    Starred places left.stop (settle left).kind ts := by
  intro ts
  induction ts with
  | nil =>
      intro left _ _ hplaces cs hcs q
      have hnone : ∀ p, left.stop ≤ p → p < left.stop + cs.length → ¬ places p = true := by
        intro p hp _ hplace
        obtain ⟨a, b, hpair, -⟩ := hplaces.between p hp hplace
        exact not_pair_singleton hpair
      obtain ⟨us, hus, hshape⟩ := hcs.shift q
      rw [writeStars_none hnone]
      exact ⟨us, hus, .of_shapes _ hshape⟩
  | cons t ts ih =>
      intro left cs hcs hplaces
      have hbehind := hplaces.tail hcs
      obtain ⟨_, rest, -, -, -, -, hrest⟩ := hcs.cons_cases
      have hstarred := ih hrest hbehind
      by_cases hstar : ∃ p, left.stop ≤ p ∧ p < t.stop ∧ places p = true
      · obtain ⟨p, hleft, hp, hplace⟩ := hstar
        obtain ⟨hle, hmul⟩ := hplaces.gap hcs hleft hp hplace
        obtain ⟨i, rfl⟩ := Nat.exists_eq_add_of_le hleft
        refine hstarred.star hbehind hle (fun r hr hlt => ⟨fun hr' => ?_, ?_⟩) hmul
        · -- two stars would stand between the same neighbours
          have hle' := (hplaces.gap hcs hr hlt hr').1
          exact hplaces.once left t ⟨[], ts, rfl⟩ r _ hr hle' hleft hle hr' hplace
        · rintro rfl
          exact hplace
      · exact hstarred.same hbehind fun r hr hlt hplace => hstar ⟨r, hr, hlt, hplace⟩

/-- And so does a whole text.  No star stands in front of its first token. -/
lemma starred_text (h : Splits 0 cs ts) (hplaces : StarPlaces ts places) :
    ∃ us, Splits 0 (writeStars places 0 cs) us ∧ Interspersed .operator ts us := by
  cases ts with
  | nil =>
      have hnone : ∀ p, 0 ≤ p → p < 0 + cs.length → ¬ places p = true := by
        intro p _ _ hplace
        obtain ⟨a, b, hpair, -⟩ := hplaces.between p hplace
        simpa using hpair.length_le
      rw [writeStars_none hnone]
      exact ⟨[], h, .nil _⟩
  | cons t ts =>
      obtain ⟨_, rest, -, -, -, -, hrest⟩ := h.cons_cases
      have hnone : ∀ r, 0 ≤ r → r < t.stop → ¬ places r = true := by
        intro r _ hlt hplace
        obtain ⟨a, b, hpair, ha, -⟩ := hplaces.between r hplace
        have := stop_le_of_splits h a (hpair.mem List.mem_cons_self)
        omega
      exact (starred_behind hrest hplaces.behind).same hplaces.behind hnone cs h 0

/-! ## Letter case and blanks at the ends -/

lemma plain_of_isBlank {c : Char} (h : isBlank c = true) : Plain c := by
  constructor <;> (rintro rfl; revert h; decide)

/-- The two letters whose small form is another matter are in no text that splits. -/
lemma plain_of_splits {raw : List Char} {ts : List Token} (h : Splits p (lowercase raw) ts) :
    ∀ c ∈ raw, Plain c := by
  have hforeign : (leftovers.all fun c => decide (Foreign c)) = true := by decide +kernel
  refine plain_of_lowercase fun c hc hleft => ?_
  exact h.not_foreign c hc (of_decide_eq_true (List.all_eq_true.1 hforeign c hleft))

/-- Nor in a text that splits once the blanks at its ends are cut off. -/
lemma plain_of_splits_trim {raw : List Char} {ts : List Token}
    (h : Splits p (lowercase (trim raw)) ts) : ∀ c ∈ raw, Plain c := by
  obtain ⟨blanks, hraw, hblanks⟩ := dropWhile_eq_trim_append raw
  rw [← List.takeWhile_append_dropWhile (p := isBlank) (l := raw), hraw]
  refine List.forall_mem_append.2 ⟨fun b hb => ?_, List.forall_mem_append.2 ⟨?_, fun b hb => ?_⟩⟩
  · exact plain_of_isBlank (List.all_eq_true.1 List.all_takeWhile b hb)
  · exact plain_of_splits h
  · exact plain_of_isBlank (hblanks b hb)

/-- An input that has a normal form, read without cutting blanks off its ends. -/
lemma normalize_cases {limit : Int} {raw c : List Char} (h : normalize limit raw = .ok c) :
    ∃ ts ws, (∀ c ∈ raw, Plain c) ∧ Splits 0 (lowercase raw) ts ∧ normalTokens ts = .ok ws ∧
      ws ≠ [] ∧ c = render ws := by
  obtain ⟨vs, ws, hvs, hws, hne, -, rfl⟩ := tokens_of_normalize h
  have hplain := plain_of_splits_trim hvs
  rw [lowercase_trim hplain] at hvs
  obtain ⟨ts, hts, hshape⟩ := hvs.untrim
  obtain ⟨ws', hws', htexts⟩ := normalTokens_interspersed (.of_shapes _ hshape) hws
  refine ⟨ts, ws', hplain, hts, hws', ?_, (render_congr htexts).symm⟩
  rintro rfl
  exact hne (List.map_eq_nil_iff.1 htexts.symm)

/-- And conversely: blanks at the ends change nothing. -/
lemma normalize_of_splits {limit : Int} {raw : List Char} {ws : List Token}
    (hplain : ∀ c ∈ raw, Plain c) (hts : Splits 0 (lowercase raw) ts)
    (hws : normalTokens ts = .ok ws) (hne : ws ≠ []) (hlen : ((trim raw).length : Int) ≤ limit) :
    normalize limit raw = .ok (render ws) := by
  obtain ⟨us, hus, hshape⟩ := hts.trim
  rw [← lowercase_trim hplain] at hus
  obtain ⟨ws', hws', htexts⟩ := normalTokens_interspersed (.of_shapes _ hshape) hws
  have hnotBlank : trim raw ≠ [] := by
    intro hblank
    rw [hblank] at hus
    obtain rfl := hus.of_blanks (by simp [lowercase, lowercaseAfter])
    obtain rfl : [] = ws' := Except.ok.inj hws'
    exact hne (List.map_eq_nil_iff.1 htexts.symm)
  rw [← render_congr htexts]
  exact normalize_eq_ok_iff.2 ⟨_, us, ws', sourceText_eq_ok_iff.2 ⟨hnotBlank, hlen, rfl⟩,
    hus.tokenizeFrom_eq, hws', rfl⟩

end NormalForm

/-- **A product is the same with a star and without.**  An input that has a normal form has the same
one when stars are written into it, at places between neighbours that are multiplied anyway.  The
tokens `ts` are those of the whole input, so that their places are places of the input. -/
theorem normalize_writeStars {limit : Int} {raw c : List Char} (h : normalize limit raw = .ok c) :
    ∃ ts, tokenize (lowercase raw) = .ok ts ∧ (lowercase raw).length = raw.length ∧
      ∀ places, StarPlaces ts places → ((trim (writeStars places 0 raw)).length : Int) ≤ limit →
        normalize limit (writeStars places 0 raw) = .ok c := by
  obtain ⟨ts, ws, hplain, hts, hws, hne, rfl⟩ := normalize_cases h
  refine ⟨ts, hts.tokenizeFrom_eq, by rw [lowercase_eq_map hplain, List.length_map], ?_⟩
  intro places hplaces hlen
  have hplain' : ∀ c ∈ writeStars places 0 raw, Plain c := fun c hc =>
    (mem_writeStars hc).elim (fun hstar => hstar ▸ ⟨by decide, by decide⟩) (hplain c)
  -- the stars are written into the input itself, and letters made small around them
  obtain ⟨us, hus, hinter⟩ := starred_text hts hplaces
  rw [lowercase_eq_map hplain, writeStars_map (by decide), ← lowercase_eq_map hplain'] at hus
  obtain ⟨ws', hws', htexts⟩ := normalTokens_interspersed hinter hws
  have hne' : ws' ≠ [] := by
    rintro rfl
    exact hne (List.map_eq_nil_iff.1 htexts.symm)
  rw [← render_congr htexts]
  exact normalize_of_splits hplain' hus hws' hne' hlen

/-- Stars in front of a call that is written out, behind it, and in front of a constant, each among
the blanks or next to a token. -/
theorem normalize_writeStars_call :
    normalize 10000 "2 CSC(x)x pi".toList =
        .ok "2*(1/sin(x))*x*3.141592653589793".toList ∧
      writeStars (fun p => p == 1 || p == 8 || p == 10) 0 "2 CSC(x)x pi".toList =
        "2* CSC(x)*x *pi".toList ∧
      normalize 10000 "2* CSC(x)*x *pi".toList =
        .ok "2*(1/sin(x))*x*3.141592653589793".toList := by
  have h : normalize 10000 "2 CSC(x)x pi".toList =
      .ok "2*(1/sin(x))*x*3.141592653589793".toList := by decide +kernel
  have htokens : tokenize (lowercase "2 CSC(x)x pi".toList) =
      .ok [⟨.number, ['2'], 0⟩, ⟨.name, ['c', 's', 'c'], 2⟩, ⟨.opening, ['('], 5⟩,
        ⟨.name, ['x'], 6⟩, ⟨.closing, [')'], 7⟩, ⟨.name, ['x'], 8⟩,
        ⟨.name, ['p', 'i'], 10⟩] := by decide +kernel
  obtain ⟨ts, hts, -, hstars⟩ := normalize_writeStars h
  obtain rfl := Except.ok.inj (hts.symm.trans htokens)
  have hwritten : writeStars (fun p => p == 1 || p == 8 || p == 10) 0 "2 CSC(x)x pi".toList =
      "2* CSC(x)*x *pi".toList := by decide +kernel
  have hplace : ∀ p : ℕ, (p == 1 || p == 8 || p == 10) = true → p = 1 ∨ p = 8 ∨ p = 10 := by
    simp [or_assoc]
  have hnormal := hstars (fun p => p == 1 || p == 8 || p == 10)
    { between := by
        intro p hp
        rcases hplace p hp with rfl | rfl | rfl
        · exact ⟨_, _, ⟨[], _, rfl⟩, by decide, by decide, .inl ⟨rfl, .inr (.inl ⟨rfl, .csc, rfl⟩)⟩⟩
        · exact ⟨_, _, ⟨[_, _, _, _], _, rfl⟩, by decide, by decide,
            .inr (.inl ⟨rfl, .inl ⟨rfl, rfl⟩⟩)⟩
        · exact ⟨_, _, ⟨[_, _, _, _, _], _, rfl⟩, by decide, by decide,
            .inr (.inr (.inl ⟨⟨rfl, rfl⟩, .inr ⟨rfl, .pi, rfl⟩⟩))⟩
      once := by
        intro a b hpair p q hp hp' hq hq' hplaceP hplaceQ
        have := hplace p hplaceP
        have := hplace q hplaceQ
        repeat
          rcases pair_cons_cons hpair with ⟨rfl, rfl⟩ | hpair
          · simp only [stop, List.length_cons, List.length_nil] at hp hp' hq hq'
            omega
        exact absurd hpair not_pair_singleton } (by decide +kernel)
  rw [hwritten] at hnormal
  exact ⟨h, hwritten, hnormal⟩

end CurveSketch
