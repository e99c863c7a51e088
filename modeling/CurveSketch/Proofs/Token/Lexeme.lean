import CurveSketch.Proofs.Characters
import CurveSketch.Token
import Mathlib.Data.List.Basic

/-!
# The texts of tokens

* `Lexeme` — `Lexeme k text` says that `text` is written like a token of kind `k`.
* `Lexeme.mem_cases`, `Foreign` — the characters that tokens are made of, and those that stand in none.
* `Lexeme.last_cases` — the characters that a longer token ends in.
* **`lexeme?_eq_some_iff`** — what is taken from the front of a text is written like a token, and does
  not go on with the next character.
* `lexeme?_append_of_not_merges` — that is so if what follows does not merge with it: `merges` decides
  where a blank is needed.
* `lexeme?_append_blanks` — blanks behind a text do not change what is taken from its front.
-/

namespace CurveSketch.Token

open Text

/-- The text is written like a token of the given kind. -/
inductive Lexeme : Kind → List Char → Prop
  | whole {digits} (hne : digits ≠ []) (h : ∀ c ∈ digits, isDigit c = true) :
      Lexeme .number digits
  | decimal {digits places} (hne : digits ≠ []) (h : ∀ c ∈ digits, isDigit c = true)
      (h' : ∀ c ∈ places, isDigit c = true) : Lexeme .number (digits ++ '.' :: places)
  | fraction {places} (hne : places ≠ []) (h : ∀ c ∈ places, isDigit c = true) :
      Lexeme .number ('.' :: places)
  | name {letters} (hne : letters ≠ []) (h : ∀ c ∈ letters, isLetter c = true) :
      Lexeme .name letters
  | symbol {c k} (h : symbolKind? c = some k) : Lexeme k [c]
  | stars : Lexeme .operator ['*', '*']

/-! ## Characters of tokens -/

/-- The characters that make a token by themselves. -/
def symbols : List Char := ['+', '-', '*', '/', '^', '(', ')']

lemma mem_symbols {c : Char} {k : Kind} (h : symbolKind? c = some k) : c ∈ symbols := by
  unfold symbolKind? at h
  split at h <;> first | contradiction | simp [symbols]

lemma kind_of_symbolKind? {c : Char} {k : Kind} (h : symbolKind? c = some k) :
    k = .operator ∨ k = .opening ∨ k = .closing := by
  unfold symbolKind? at h
  split at h <;> simp_all

/-- What a token is written with. -/
lemma Lexeme.mem_cases {k : Kind} {text : List Char} (h : Lexeme k text) :
    ∀ c ∈ text, isDigit c = true ∨ isLetter c = true ∨ c = '.' ∨ c ∈ symbols := by
  intro c hc
  cases h with
  | whole _ h => exact .inl (h c hc)
  | decimal _ h h' =>
      rw [List.mem_append, List.mem_cons] at hc
      rcases hc with hc | rfl | hc
      · exact .inl (h c hc)
      · exact .inr (.inr (.inl rfl))
      · exact .inl (h' c hc)
  | fraction _ h =>
      rcases List.mem_cons.1 hc with rfl | hc
      · exact .inr (.inr (.inl rfl))
      · exact .inl (h c hc)
  | name _ h => exact .inr (.inl (h c hc))
  | symbol h =>
      rw [List.mem_singleton] at hc
      subst hc
      exact .inr (.inr (.inr (mem_symbols h)))
  | stars =>
      obtain rfl : c = '*' := by simpa using hc
      exact .inr (.inr (.inr (by decide)))

/-- A symbol is no digit, no letter and no point. -/
lemma apart_of_mem_symbols {c : Char} (h : c ∈ symbols) :
    isDigit c = false ∧ isLetter c = false ∧ c ≠ '.' := by
  have hall : (symbols.all fun c => !isDigit c && !isLetter c && c != '.') = true := by decide
  have happart := List.all_eq_true.1 hall c h
  simp only [Bool.and_eq_true, Bool.not_eq_true', bne_iff_ne] at happart
  exact ⟨happart.1.1, happart.1.2, happart.2⟩

/-- A symbol is a token by itself, or one of two stars. -/
lemma Lexeme.of_mem_symbols {k : Kind} {text : List Char} {c : Char} (h : Lexeme k text)
    (hc : c ∈ text) (hsymbol : c ∈ symbols) :
    (text = [c] ∧ symbolKind? c = some k) ∨ (text = ['*', '*'] ∧ c = '*' ∧ k = .operator) := by
  obtain ⟨hdigit, hletter, hpoint⟩ := apart_of_mem_symbols hsymbol
  cases h with
  | whole _ h => simp [h c hc] at hdigit
  | decimal _ h h' =>
      rw [List.mem_append, List.mem_cons] at hc
      rcases hc with hc | hc | hc
      · simp [h c hc] at hdigit
      · exact absurd hc hpoint
      · simp [h' c hc] at hdigit
  | fraction _ h =>
      rcases List.mem_cons.1 hc with hc | hc
      · exact absurd hc hpoint
      · simp [h c hc] at hdigit
  | name _ h => simp [h c hc] at hletter
  | symbol h =>
      obtain rfl := List.mem_singleton.1 hc
      exact .inl ⟨rfl, h⟩
  | stars => exact .inr ⟨rfl, by simpa using hc, rfl⟩

/-- A letter stands in names only. -/
lemma Lexeme.of_mem_letter {k : Kind} {text : List Char} {c : Char} (h : Lexeme k text)
    (hc : c ∈ text) (hletter : isLetter c = true) : ∀ d ∈ text, isLetter d = true := by
  have hdigit := not_isDigit_of_isLetter hletter
  have hpoint : c ≠ '.' := by
    rintro rfl
    exact absurd hletter (by decide)
  cases h with
  | whole _ h => simp [h c hc] at hdigit
  | decimal _ h h' =>
      rw [List.mem_append, List.mem_cons] at hc
      rcases hc with hc | hc | hc
      · simp [h c hc] at hdigit
      · exact absurd hc hpoint
      · simp [h' c hc] at hdigit
  | fraction _ h =>
      rcases List.mem_cons.1 hc with hc | hc
      · exact absurd hc hpoint
      · simp [h c hc] at hdigit
  | name _ h => exact h
  | symbol h =>
      obtain rfl := List.mem_singleton.1 hc
      simp [apart_of_mem_symbols (mem_symbols h)] at hletter
  | stars => simp [apart_of_mem_symbols (c := c) (by simp_all [symbols])] at hletter

/-- The character begins no token, and is no blank. -/
def Foreign (c : Char) : Prop :=
  isBlank c = false ∧ isDigit c = false ∧ isLetter c = false ∧ c ≠ '.' ∧ c ∉ symbols

instance (c : Char) : Decidable (Foreign c) :=
  inferInstanceAs (Decidable (_ ∧ _ ∧ _ ∧ _ ∧ _))

lemma Lexeme.not_foreign {k : Kind} {text : List Char} (h : Lexeme k text) :
    ∀ c ∈ text, ¬ Foreign c := by
  rintro c hc ⟨-, hdigit, hletter, hpoint, hsymbol⟩
  rcases h.mem_cases c hc with hc | hc | hc | hc
  · simp [hc] at hdigit
  · simp [hc] at hletter
  · exact hpoint hc
  · exact hsymbol hc

/-- No token has a blank in it. -/
lemma Lexeme.not_isBlank {k : Kind} {text : List Char} (h : Lexeme k text) :
    ∀ c ∈ text, isBlank c = false := by
  intro c hc
  rcases h.mem_cases c hc with hdigit | hletter | rfl | hsymbol
  · exact not_isBlank_of_isDigit hdigit
  · exact not_isBlank_of_isLetter hletter
  · decide
  · have hall : (symbols.all fun c => !isBlank c) = true := by decide
    simpa using List.all_eq_true.1 hall c hsymbol

lemma Lexeme.ne_nil {k : Kind} {text : List Char} (h : Lexeme k text) : text ≠ [] := by
  cases h <;> simp_all

/-- No text is split into the name of a function before names are told apart. -/
lemma not_lexeme_func {text : List Char} : ¬ Lexeme .func text := by
  intro h
  cases h with
  | symbol hc => simpa using kind_of_symbolKind? hc

/-! ## Runs of characters -/

/-- A run of characters of one sort ends where the next character is of another. -/
lemma span_run {p : Char → Bool} {run rest : List Char} (h : ∀ c ∈ run, p c = true)
    (hrest : ∀ c ∈ rest.head?, p c = false) :
    (run ++ rest).takeWhile p = run ∧ (run ++ rest).dropWhile p = rest := by
  rw [List.takeWhile_append_of_pos h, List.dropWhile_append_of_pos h]
  cases rest with
  | nil => simp
  | cons c rest => simp [hrest c rfl]

/-! ## What is taken is a token -/

lemma isDigit_of_mem_takeWhile {c : Char} {cs : List Char} (h : c ∈ cs.takeWhile isDigit) :
    isDigit c = true := List.all_eq_true.1 List.all_takeWhile c h

lemma lexeme_numberText {c : Char} (cs : List Char) (h : isDigit c = true) :
    Lexeme .number (numberText (c :: cs)).1 := by
  have hne : (c :: cs).takeWhile isDigit ≠ [] := by simp [h]
  unfold numberText
  split
  · exact .decimal hne (fun _ => isDigit_of_mem_takeWhile) fun _ => isDigit_of_mem_takeWhile
  · exact .whole hne fun _ => isDigit_of_mem_takeWhile

/-- What is taken from the front of a text is written like a token. -/
lemma lexeme_of_lexeme? {cs text rest : List Char} {k : Kind}
    (h : lexeme? cs = some (k, text, rest)) : Lexeme k text := by
  unfold lexeme? at h
  split at h
  · simp at h
  · next c tail =>
    split_ifs at h with hdigit hletter
    · simp only [Option.some.injEq, Prod.mk.injEq] at h
      have hnumber := lexeme_numberText tail hdigit
      rwa [h.2, h.1] at hnumber
    · simp only [Option.some.injEq, Prod.mk.injEq] at h
      obtain ⟨rfl, rfl, -⟩ := h
      exact .name (by simp [hletter]) fun c hc => List.all_eq_true.1 List.all_takeWhile c hc
    · split at h
      · next d _ =>
        split_ifs at h with hd
        simp only [Option.some.injEq, Prod.mk.injEq] at h
        obtain ⟨rfl, rfl, -⟩ := h
        exact .fraction (by simp [hd]) fun _ => isDigit_of_mem_takeWhile
      · simp only [Option.some.injEq, Prod.mk.injEq] at h
        obtain ⟨rfl, rfl, -⟩ := h
        exact .stars
      · obtain ⟨kind, hkind, h⟩ := Option.map_eq_some_iff.1 h
        simp only [Prod.mk.injEq] at h
        obtain ⟨rfl, rfl, -⟩ := h
        exact .symbol hkind

/-! ## A token is taken whole -/

/-- A number or a name merges with whatever can go on either. -/
lemma not_isJoining_of_not_merges {text rest : List Char} (hne : text ≠ [])
    (htext : ∀ c ∈ text, isJoining c = true) (h : merges text rest = false) :
    ∀ c ∈ rest.head?, isJoining c = false := by
  have hlast : text.getLast?.any isJoining = true := by
    rw [List.getLast?_eq_some_getLast hne]
    exact htext _ (List.getLast_mem hne)
  intro c hc
  rw [merges, if_pos hlast, hc] at h
  exact h

lemma isJoining_of_isDigit {c : Char} (h : isDigit c = true) : isJoining c = true := by
  simp [isJoining, isAlphanumeric_of_isDigit h]

lemma isJoining_of_isLetter {c : Char} (h : isLetter c = true) : isJoining c = true := by
  simp [isJoining, isAlphanumeric_of_isLetter h]

/-- What joins nothing is no digit, no letter and no point. -/
lemma apart_of_not_isJoining {c : Char} (h : isJoining c = false) :
    isDigit c = false ∧ isLetter c = false ∧ c ≠ '.' := by
  simp only [isJoining, isAlphanumeric, Bool.or_eq_false_iff, beq_eq_false_iff_ne] at h
  exact ⟨h.1.1.2, h.1.1.1, h.2⟩

lemma isJoining_point : isJoining '.' = true := by simp [isJoining]

/-- Every character of a number or a name can go on either. -/
lemma Lexeme.isJoining {k : Kind} {text : List Char} (h : Lexeme k text)
    (hk : k = .number ∨ k = .name) : ∀ c ∈ text, isJoining c = true := by
  intro c hc
  cases h with
  | whole _ h => exact isJoining_of_isDigit (h c hc)
  | decimal _ h h' =>
      rcases List.mem_append.1 hc with hc | hc
      · exact isJoining_of_isDigit (h c hc)
      · rcases List.mem_cons.1 hc with rfl | hc
        · exact isJoining_point
        · exact isJoining_of_isDigit (h' c hc)
  | fraction _ h =>
      rcases List.mem_cons.1 hc with rfl | hc
      · exact isJoining_point
      · exact isJoining_of_isDigit (h c hc)
  | name _ h => exact isJoining_of_isLetter (h c hc)
  | symbol h => rcases kind_of_symbolKind? h with rfl | rfl | rfl <;> simp at hk
  | stars => simp at hk

lemma lexeme?_of_isDigit {c : Char} (h : isDigit c = true) (rest : List Char) :
    lexeme? (c :: rest) = some (.number, numberText (c :: rest)) := if_pos h

lemma lexeme?_of_isLetter {c : Char} (h : isLetter c = true) (hdigit : isDigit c = false)
    (rest : List Char) :
    lexeme? (c :: rest) =
      some (.name, (c :: rest).takeWhile isLetter, (c :: rest).dropWhile isLetter) :=
  (if_neg (by simp [hdigit])).trans (if_pos h)

/-- A character that begins no number and no name makes a token by itself if it makes one, the star
unless another one follows. -/
lemma lexeme?_single {c : Char} {rest : List Char} (hdigit : isDigit c = false)
    (hletter : isLetter c = false) (hpoint : c ≠ '.') (hstar : c = '*' → rest.head? ≠ some '*') :
    lexeme? (c :: rest) = (symbolKind? c).map fun k => (k, [c], rest) := by
  unfold lexeme?
  simp only [hdigit, hletter, Bool.false_eq_true, if_false]
  split
  · exact absurd rfl hpoint
  · exact absurd rfl (hstar rfl)
  · rfl

lemma lexeme?_of_symbolKind? {c : Char} {k : Kind} (h : symbolKind? c = some k) {rest : List Char}
    (hstar : c = '*' → rest.head? ≠ some '*') : lexeme? (c :: rest) = some (k, [c], rest) := by
  obtain ⟨hdigit, hletter, hpoint⟩ := apart_of_mem_symbols (mem_symbols h)
  rw [lexeme?_single hdigit hletter hpoint hstar, h]
  rfl

/-- A point begins a number if a digit follows. -/
lemma lexeme?_point (rest : List Char) :
    lexeme? ('.' :: rest) =
      if rest.head?.any isDigit then
        some (.number, '.' :: rest.takeWhile isDigit, rest.dropWhile isDigit)
      else none := by
  have hpoint : isDigit '.' = false ∧ isLetter '.' = false := by decide
  cases rest with
  | nil => simp [lexeme?, hpoint, symbolKind?]
  | cons d rest =>
      simp only [lexeme?, hpoint, Bool.false_eq_true, if_false]
      rfl

lemma lexeme?_stars (rest : List Char) :
    lexeme? ('*' :: '*' :: rest) = some (.operator, ['*', '*'], rest) := by
  have hstar : isDigit '*' = false ∧ isLetter '*' = false := by decide
  simp [lexeme?, hstar]

/-- **A token is taken whole** if it does not go on with the next character. -/
lemma lexeme?_append_of_maximal {k : Kind} {text rest : List Char} (h : Lexeme k text)
    (hrest : ∀ c ∈ rest.head?, ¬ Lexeme k (text ++ [c])) :
    lexeme? (text ++ rest) = some (k, text, rest) := by
  cases h with
  | whole hne h =>
      have hend : ∀ c ∈ rest.head?, isDigit c = false := fun c hc => by
        by_contra hdigit
        have hmore : ∀ d ∈ text ++ [c], isDigit d = true :=
          List.forall_mem_append.2 ⟨h, by simpa using hdigit⟩
        exact hrest c hc (.whole (by simp) hmore)
      have hspan := span_run h hend
      obtain ⟨c, digits, rfl⟩ := List.exists_cons_of_ne_nil hne
      rw [List.cons_append] at hspan ⊢
      rw [lexeme?_of_isDigit (h c List.mem_cons_self), numberText, hspan.1, hspan.2]
      split
      · next tail => exact absurd (.decimal hne h (by simp)) (hrest '.' rfl)
      · rfl
  | @decimal digits places hne h h' =>
      have hend : ∀ c ∈ rest.head?, isDigit c = false := fun c hc => by
        by_contra hdigit
        have hmore : ∀ d ∈ places ++ [c], isDigit d = true :=
          List.forall_mem_append.2 ⟨h', by simpa using hdigit⟩
        exact hrest c hc (by simpa using Lexeme.decimal hne h hmore)
      have hpoint : ∀ c ∈ ('.' :: (places ++ rest)).head?, isDigit c = false := by
        rintro _ ⟨⟩
        decide
      have hspan := span_run h hpoint
      have hspan' := span_run h' hend
      obtain ⟨c, digits, rfl⟩ := List.exists_cons_of_ne_nil hne
      rw [List.cons_append] at hspan
      rw [List.append_assoc, List.cons_append, List.cons_append,
        lexeme?_of_isDigit (h c List.mem_cons_self), numberText, hspan.1, hspan.2]
      simp only [hspan'.1, hspan'.2, List.cons_append]
  | @fraction places hne h =>
      have hend : ∀ c ∈ rest.head?, isDigit c = false := fun c hc => by
        by_contra hdigit
        have hmore : ∀ d ∈ places ++ [c], isDigit d = true :=
          List.forall_mem_append.2 ⟨h, by simpa using hdigit⟩
        exact hrest c hc (.fraction (by simp) hmore)
      have hspan := span_run h hend
      obtain ⟨d, places, rfl⟩ := List.exists_cons_of_ne_nil hne
      have hhead : ((d :: places) ++ rest).head?.any isDigit = true := h d List.mem_cons_self
      rw [List.cons_append, lexeme?_point, if_pos hhead, hspan.1, hspan.2]
  | name hne h =>
      have hend : ∀ c ∈ rest.head?, isLetter c = false := fun c hc => by
        by_contra hletter
        have hmore : ∀ d ∈ text ++ [c], isLetter d = true :=
          List.forall_mem_append.2 ⟨h, by simpa using hletter⟩
        exact hrest c hc (.name (by simp) hmore)
      have hspan := span_run h hend
      obtain ⟨c, letters, rfl⟩ := List.exists_cons_of_ne_nil hne
      have hc := h c List.mem_cons_self
      rw [List.cons_append] at hspan ⊢
      rw [lexeme?_of_isLetter hc (not_isDigit_of_isLetter hc), hspan.1, hspan.2]
  | symbol h =>
      refine lexeme?_of_symbolKind? h ?_
      rintro rfl hhead
      obtain rfl : .operator = k := Option.some.inj h
      exact hrest '*' hhead .stars
  | stars => exact lexeme?_stars rest

/-- Where a token begins, one is taken, though perhaps a longer one. -/
lemma Lexeme.lexeme?_ne_none {k : Kind} {text : List Char} (h : Lexeme k text) (rest : List Char) :
    lexeme? (text ++ rest) ≠ none := by
  cases h with
  | whole hne h | decimal hne h _ =>
      obtain ⟨c, digits, rfl⟩ := List.exists_cons_of_ne_nil hne
      simp [lexeme?_of_isDigit (h c List.mem_cons_self)]
  | fraction hne h =>
      obtain ⟨d, places, rfl⟩ := List.exists_cons_of_ne_nil hne
      have hhead : (d :: (places ++ rest)).head?.any isDigit = true := h d List.mem_cons_self
      rw [List.cons_append, List.cons_append, lexeme?_point, if_pos hhead]
      simp
  | name hne h =>
      obtain ⟨c, letters, rfl⟩ := List.exists_cons_of_ne_nil hne
      have hc := h c List.mem_cons_self
      simp [lexeme?_of_isLetter hc (not_isDigit_of_isLetter hc)]
  | @symbol c _ h =>
      by_cases hstars : c = '*' ∧ rest.head? = some '*'
      · obtain ⟨rfl, hhead⟩ := hstars
        obtain ⟨tail, rfl⟩ := List.head?_eq_some_iff.1 hhead
        simp [lexeme?_stars]
      · have hstar : c = '*' → rest.head? ≠ some '*' := fun hc hhead => hstars ⟨hc, hhead⟩
        simp [lexeme?_of_symbolKind? h hstar]
  | stars => simp [lexeme?_stars]

/-- The last character of a token of several: that of a number is a digit or its only point, that of
a name a letter, and the only longer operator is made of stars. -/
lemma Lexeme.last_cases {k : Kind} {text : List Char} {c : Char} (h : Lexeme k (text ++ [c]))
    (hne : text ≠ []) :
    (k = .number ∧ (isDigit c = true ∨ c = '.' ∧ '.' ∉ text)) ∨
      (k = .name ∧ isLetter c = true) ∨ (k = .operator ∧ text = ['*'] ∧ c = '*') := by
  generalize htext : text ++ [c] = t at h
  have hmem : c ∈ t := by simp [← htext]
  cases h with
  | whole _ h => exact .inl ⟨rfl, .inl (h c hmem)⟩
  | @decimal digits places _ h h' =>
      rcases List.eq_nil_or_concat' places with rfl | ⟨places, d, rfl⟩
      · obtain ⟨rfl, hc⟩ := List.append_inj' htext rfl
        refine .inl ⟨rfl, .inr ⟨List.singleton_inj.1 hc, fun hpoint => ?_⟩⟩
        exact absurd (h '.' hpoint) (by decide)
      · rw [← List.cons_append, ← List.append_assoc] at htext
        obtain ⟨-, hc⟩ := List.append_inj' htext rfl
        obtain rfl := List.singleton_inj.1 hc
        exact .inl ⟨rfl, .inl (h' c (by simp))⟩
  | @fraction places hplaces h =>
      obtain rfl | ⟨places, d, rfl⟩ := List.eq_nil_or_concat' places
      · exact absurd rfl hplaces
      · rw [← List.cons_append] at htext
        obtain ⟨-, hc⟩ := List.append_inj' htext rfl
        obtain rfl := List.singleton_inj.1 hc
        exact .inl ⟨rfl, .inl (h c (by simp))⟩
  | name _ h => exact .inr (.inl ⟨rfl, h c hmem⟩)
  | symbol _ =>
      obtain ⟨rfl, -⟩ := List.append_inj' (show text ++ [c] = [] ++ [_] from htext) rfl
      exact absurd rfl hne
  | stars =>
      obtain ⟨rfl, hc⟩ := List.append_inj' (show text ++ [c] = ['*'] ++ ['*'] from htext) rfl
      exact .inr (.inr ⟨rfl, rfl, List.singleton_inj.1 hc⟩)

/-- A run ends in front of a character of another sort. -/
lemma head_dropWhile {p : Char → Bool} {cs : List Char} {c : Char}
    (h : c ∈ (cs.dropWhile p).head?) : p c = false := by
  have hnot := List.head?_dropWhile_not p cs
  rw [h] at hnot
  simpa using hnot

/-- A number is taken to its end. -/
lemma numberText_maximal {cs : List Char} {c : Char} (h : c ∈ (numberText cs).2.head?) :
    isDigit c = false ∧ (c = '.' → '.' ∈ (numberText cs).1) := by
  unfold numberText at h ⊢
  split at h
  · exact ⟨head_dropWhile h, fun _ => by simp⟩
  · next hpoint =>
    refine ⟨head_dropWhile h, ?_⟩
    rintro rfl
    obtain ⟨tail, htail⟩ := List.head?_eq_some_iff.1 h
    exact absurd htail (hpoint tail)

/-- What is taken from the front of a text does not go on with the next character. -/
lemma maximal_of_lexeme? {cs text rest : List Char} {k : Kind}
    (h : lexeme? cs = some (k, text, rest)) : ∀ c ∈ rest.head?, ¬ Lexeme k (text ++ [c]) := by
  intro c hc hlonger
  have hcases := hlonger.last_cases (lexeme?_append h).2
  unfold lexeme? at h
  split at h
  · simp at h
  · next d tail =>
    split_ifs at h with hdigit hletter
    · simp only [Option.some.injEq, Prod.mk.injEq] at h
      obtain ⟨rfl, htext⟩ := h
      have hend : c ∈ (numberText (d :: tail)).2.head? → _ := numberText_maximal
      rw [htext] at hend
      have := hend hc
      simp_all
    · simp only [Option.some.injEq, Prod.mk.injEq] at h
      obtain ⟨rfl, rfl, rfl⟩ := h
      have := head_dropWhile hc
      simp_all
    · split at h
      · split_ifs at h with hd
        simp only [Option.some.injEq, Prod.mk.injEq] at h
        obtain ⟨rfl, rfl, rfl⟩ := h
        have := head_dropWhile hc
        simp_all
      · simp only [Option.some.injEq, Prod.mk.injEq] at h
        obtain ⟨rfl, rfl, rfl⟩ := h
        simp at hcases
      · next hpoint hstars =>
        obtain ⟨kind, hkind, h⟩ := Option.map_eq_some_iff.1 h
        simp only [Prod.mk.injEq] at h
        obtain ⟨rfl, rfl, rfl⟩ := h
        obtain ⟨rest, hrest⟩ := List.head?_eq_some_iff.1 hc
        rcases kind_of_symbolKind? hkind with rfl | rfl | rfl <;> simp_all

/-- **The longest token is taken**: one that begins the text, and does not go on with the next
character. -/
lemma lexeme?_eq_some_iff {cs text rest : List Char} {k : Kind} :
    lexeme? cs = some (k, text, rest) ↔
      Lexeme k text ∧ cs = text ++ rest ∧ ∀ c ∈ rest.head?, ¬ Lexeme k (text ++ [c]) := by
  constructor
  · intro h
    exact ⟨lexeme_of_lexeme? h, (lexeme?_append h).1.symm, maximal_of_lexeme? h⟩
  · rintro ⟨hlex, rfl, hrest⟩
    exact lexeme?_append_of_maximal hlex hrest

/-- A token is taken whole if what follows does not merge with it. -/
lemma lexeme?_append_of_not_merges {k : Kind} {text rest : List Char} (h : Lexeme k text)
    (hrest : merges text rest = false) : lexeme? (text ++ rest) = some (k, text, rest) := by
  refine lexeme?_append_of_maximal h fun c hc hlonger => ?_
  have hnext : c = '*' → text = ['*'] → False := by
    rintro rfl rfl
    have hstar : isJoining '*' = false := by decide +kernel
    have hmerges : merges ['*'] rest = true := by
      simpa [merges, hstar] using (hc : rest.head? = some '*')
    exact absurd hmerges (by simpa using hrest)
  have hend : k = .number ∨ k = .name → isDigit c = false ∧ isLetter c = false ∧ c ≠ '.' :=
    fun hk => apart_of_not_isJoining (not_isJoining_of_not_merges h.ne_nil (h.isJoining hk) hrest c hc)
  rcases hlonger.last_cases h.ne_nil with ⟨hk, hdigit | ⟨hpoint, -⟩⟩ | ⟨hk, hletter⟩ |
    ⟨-, htext, hstar⟩
  · simp [hend (.inl hk)] at hdigit
  · exact (hend (.inl hk)).2.2 hpoint
  · simp [hend (.inr hk)] at hletter
  · exact hnext hstar htext

/-- What is taken from the front of a text depends on the next character only. -/
lemma lexeme?_congr_head {k : Kind} {cs text rest rest' : List Char}
    (h : lexeme? cs = some (k, text, rest))
    (hhead : ∀ c ∈ rest'.head?, c ∈ rest.head? ∨ ¬ Lexeme k (text ++ [c])) :
    lexeme? (text ++ rest') = some (k, text, rest') := by
  obtain ⟨hlex, -, hmaximal⟩ := lexeme?_eq_some_iff.1 h
  exact lexeme?_append_of_maximal hlex fun c hc => (hhead c hc).elim (hmaximal c) id

/-! ## Blanks behind a text -/

lemma not_lexeme_append_blank {k : Kind} {text : List Char} {c : Char} (hc : isBlank c = true) :
    ¬ Lexeme k (text ++ [c]) := fun h => by
  simp [h.not_isBlank c (by simp)] at hc

variable {blanks : List Char}

/-- Blanks behind a text do not change what is taken from its front. -/
lemma lexeme?_append_blanks (hblanks : ∀ b ∈ blanks, isBlank b = true) {k : Kind}
    {cs text rest : List Char} (h : lexeme? cs = some (k, text, rest)) :
    lexeme? (cs ++ blanks) = some (k, text, rest ++ blanks) := by
  rw [← (lexeme?_append h).1, List.append_assoc]
  refine lexeme?_congr_head h fun c hc => ?_
  cases rest with
  | nil => exact .inr (not_lexeme_append_blank (hblanks c (List.mem_of_mem_head? hc)))
  | cons d rest => exact .inl hc

/-- A token that is taken from a text with blanks behind it does not reach into them. -/
lemma lexeme?_of_append_blanks (hblanks : ∀ b ∈ blanks, isBlank b = true) {k : Kind}
    {cs text rest : List Char} (h : lexeme? (cs ++ blanks) = some (k, text, rest)) :
    ∃ front, rest = front ++ blanks ∧ lexeme? cs = some (k, text, front) := by
  obtain ⟨hlex, hsplit, hmaximal⟩ := lexeme?_eq_some_iff.1 h
  have hfront : ∃ front, cs = text ++ front ∧ rest = front ++ blanks := by
    rcases List.append_eq_append_iff.1 hsplit with ⟨front, htext, hrest⟩ | ⟨front, hcs, hrest⟩
    · cases front with
      | nil => exact ⟨[], by simpa using htext.symm, by simpa using hrest.symm⟩
      | cons b front =>
          have hblank := hblanks b (by simp [hrest])
          simp [hlex.not_isBlank b (by simp [htext])] at hblank
    · exact ⟨front, hcs, hrest⟩
  obtain ⟨front, rfl, rfl⟩ := hfront
  refine ⟨front, rfl, lexeme?_append_of_maximal hlex fun c hc => hmaximal c ?_⟩
  simp [Option.mem_def.1 hc]

end CurveSketch.Token
