import CurveSketch.Proofs.NormalForm

/-!
# Spacing and letter case

Blanks between tokens and capital letters are gone once an input is split into tokens.  What is left
of them are the places of the tokens, and a place is of no use but to be named in a rejection.

* `Token.moved`, `Rejection.moved` — a token at another place, and a cause that points to another
  place.  It is the same cause: family and code stay.
* `carried` — what becomes of the outcome of a pass: it leaves what it would have left, moved, or
  rejects what it would have rejected, pointing to the other place.
* `classify_moved`, `expandReciprocals_moved`, `insertTimes_moved`, `checkParentheses_moved` — so
  does every pass, whatever the tokens are.  Pairs of parentheses are counted by tokens, and do not
  change at all (`matching_moved`).
* **`normalTokens_moved`** — hence all of them together.
* **`normalize_agrees`** — two inputs of the same tokens have one normal form, or are rejected for
  one cause, which differs in the place that it points to at most.
-/

namespace CurveSketch

/-- The token at another place. -/
def Token.moved (g : ℕ → ℕ) (t : Token) : Token := { t with position := g t.position }

@[simp] lemma Token.kind_moved (g : ℕ → ℕ) (t : Token) : (t.moved g).kind = t.kind := rfl

@[simp] lemma Token.text_moved (g : ℕ → ℕ) (t : Token) : (t.moved g).text = t.text := rfl

/-- The cause, pointing to another place. -/
def Rejection.moved (g : ℕ → ℕ) : Rejection → Rejection
  | invalidCharacter c p => invalidCharacter c (g p)
  | unknownName name p => unknownName name (g p)
  | strayCloser p => strayCloser (g p)
  | unexpected text p => unexpected text (g p)
  | missingArgument name p => missingArgument name (g p)
  | r => r

lemma Rejection.family_moved (g : ℕ → ℕ) (r : Rejection) : (r.moved g).family = r.family := by
  cases r <;> rfl

lemma Rejection.code_moved (g : ℕ → ℕ) (r : Rejection) : (r.moved g).code = r.code := by
  cases r <;> rfl

/-- Causes that differ in their places are reported alike. -/
lemma Rejection.reported_of_moved {g : ℕ → ℕ} {r r' : Rejection} (h : r'.moved g = r.moved g) :
    r'.family = r.family ∧ r'.code = r.code := by
  rw [← r'.family_moved g, ← r'.code_moved g, h, family_moved, code_moved]
  exact ⟨rfl, rfl⟩

namespace NormalForm

open Text Token

variable {α β α' β' : Type} (g : ℕ → ℕ)

/-- What becomes of an outcome when its tokens are elsewhere: `f` says it of a result, and a cause
points to the other place. -/
def carried (f : α → α') : Except Rejection α → Except Rejection α'
  | .ok a => .ok (f a)
  | .error r => .error (r.moved g)

/-- Chains are carried step by step. -/
lemma carried_bind {f : α → α'} {f' : β → β'} {step : Except Rejection α}
    {next : α → Except Rejection β} {next' : α' → Except Rejection β'}
    (h : ∀ a, next' (f a) = carried g f' (next a)) :
    carried g f step >>= next' = carried g f' (step >>= next) := by
  cases step with
  | error r => rfl
  | ok a => exact h a

/-! ## Names and powers -/

lemma readPower_moved (t : Token) : readPower (t.moved g) = (readPower t).moved g := by
  have hsame : (t.moved g).isOperator ['^'] = t.isOperator ['^'] := rfl
  rw [readPower, readPower, hsame]
  split_ifs <;> rfl

lemma readConstant_moved (t : Token) : readConstant (t.moved g) = (readConstant t).moved g := by
  rw [readConstant, readConstant, kind_moved, text_moved]
  split_ifs
  · cases Constant.ofName? t.text <;> rfl
  · rfl

lemma readNames_moved (ts : List Token) :
    readConstants (readPowers (ts.map (moved g))) =
      (readConstants (readPowers ts)).map (moved g) := by
  simp only [readConstants, readPowers, List.map_map]
  refine List.map_congr_left fun t _ => ?_
  simp only [Function.comp_apply, readPower_moved, readConstant_moved]

lemma classifyName_moved (t : Token) :
    classifyName (t.moved g) = carried g (moved g) (classifyName t) := by
  rw [classifyName, classifyName, kind_moved, text_moved]
  split_ifs
  · rfl
  · cases Fn.ofName? t.text <;> rfl
  · rfl

/-- Names are told apart, and an unknown one rejected, wherever they stand. -/
lemma classify_moved (ts : List Token) :
    classify (ts.map (moved g)) = carried g (List.map (moved g)) (classify ts) := by
  induction ts with
  | nil => rfl
  | cons t ts ih =>
      rw [List.map_cons, classify, classify, classifyName_moved, ih]
      exact carried_bind g fun v => carried_bind g fun rest => rfl

/-! ## Reciprocals -/

lemma matchingFrom_moved (index : ℕ) (opened : List ℕ) (ts : List Token) :
    matchingFrom index opened (ts.map (moved g)) = matchingFrom index opened ts := by
  induction ts generalizing index opened with
  | nil => rfl
  | cons t ts ih =>
      obtain ⟨k, text, p⟩ := t
      cases k with
      | closing =>
          cases opened with
          | nil => exact ih _ _
          | cons start outer => exact congrArg ((start, index) :: ·) (ih _ _)
      | _ => exact ih _ _

/-- Pairs of parentheses are counted by tokens. -/
lemma matching_moved (ts : List Token) : matching (ts.map (moved g)) = matching ts :=
  matchingFrom_moved g 0 [] ts

lemma closeReciprocal_moved (t : Token) (opened : List Bool) :
    expandFrom.closeReciprocal (t.moved g) opened =
      (expandFrom.closeReciprocal t opened).map (moved g) := by
  simp only [expandFrom.closeReciprocal, moved]
  split <;> rfl

lemma expandFrom_moved (pairs : List (ℕ × ℕ)) (index : ℕ) (opened : List Bool)
    (ts : List Token) :
    expandFrom pairs index opened (ts.map (moved g)) =
      (expandFrom pairs index opened ts).map (moved g) := by
  fun_induction expandFrom pairs index opened ts with
  | case1 => rfl
  | case2 index opened t => exact closeReciprocal_moved g t opened
  | case3 index opened t next rest base hpair hbase ih =>
      have hbase' : reciprocalBase? (t.moved g) = some base := hbase
      simp only [List.map_cons, expandFrom, hbase', hpair, ih, List.map_append]
      rfl
  | case4 index opened t next rest hnot ih =>
      have hbase : reciprocalBase? (t.moved g) = reciprocalBase? t := rfl
      have hopen : expandFrom.stillOpen (t.moved g) opened = expandFrom.stillOpen t opened := rfl
      rw [List.map_append, ← closeReciprocal_moved, ← ih, List.map_cons, List.map_cons,
        expandFrom, hbase, hopen]
      split
      · next hbase hpair => exact absurd hpair (hnot _ hbase)
      · rfl

/-- The calls of reciprocal functions are written out wherever they stand. -/
lemma expandReciprocals_moved (ts : List Token) :
    expandReciprocals (ts.map (moved g)) = (expandReciprocals ts).map (moved g) := by
  rw [expandReciprocals, matching_moved, expandFrom_moved, expandReciprocals]

/-! ## Products and balance -/

lemma insertTimes_moved (ts : List Token) :
    insertTimes (ts.map (moved g)) = (insertTimes ts).map (moved g) := by
  fun_induction insertTimes ts with
  | case1 => rfl
  | case2 t => rfl
  | case3 t next rest hmul ih =>
      rw [List.map_cons, List.map_cons, insertTimes, kind_moved, kind_moved, if_pos hmul,
        ← List.map_cons, ih]
      rfl
  | case4 t next rest hmul ih =>
      rw [List.map_cons, List.map_cons, insertTimes, kind_moved, kind_moved, if_neg hmul,
        ← List.map_cons, ih]
      rfl

lemma checkFrom_moved (depth : ℕ) (ts : List Token) :
    checkFrom depth (ts.map (moved g)) = carried g id (checkFrom depth ts) := by
  induction ts generalizing depth with
  | nil =>
      rw [List.map_nil, checkFrom]
      split_ifs <;> rfl
  | cons t ts ih =>
      rw [List.map_cons, checkFrom_cons, checkFrom_cons, kind_moved]
      cases depthAfter (side? t.kind) depth with
      | none => rfl
      | some d => exact ih d

lemma checkParentheses_moved (ts : List Token) :
    checkParentheses (ts.map (moved g)) = carried g id (checkParentheses ts) :=
  checkFrom_moved g 0 ts

/-- **Tokens at other places have the same normal form**, whose tokens are moved with them, or are
rejected for the same cause, which points to where its token is. -/
lemma normalTokens_moved (ts : List Token) :
    normalTokens (ts.map (moved g)) = carried g (List.map (moved g)) (normalTokens ts) := by
  rw [normalTokens, readNames_moved, classify_moved]
  refine carried_bind g fun named => ?_
  dsimp only
  rw [expandReciprocals_moved, insertTimes_moved, checkParentheses_moved]
  exact carried_bind g fun _ => rfl

/-! ## Two inputs of the same tokens -/

lemma render_moved (ts : List Token) : render (ts.map (moved g)) = render ts :=
  render_congr (by rw [List.map_map]; rfl)

/-- Tokens of the same kinds and texts are the same once all are moved to one place. -/
lemma map_moved_eq {ts us : List Token} (h : us.map shape = ts.map shape) :
    us.map (moved fun _ => 0) = ts.map (moved fun _ => 0) := by
  have hplaced : (moved fun _ => 0) = (fun s : Kind × List Char => ⟨s.1, s.2, 0⟩) ∘ shape := rfl
  rw [hplaced, ← List.map_map, ← List.map_map, h]

/-- Two outcomes that are the same but for places: the tokens that are left have the same text, or
the causes are the same but for their places. -/
lemma cases_of_carried_eq {step step' : Except Rejection (List Token)}
    (h : carried g (List.map (moved g)) step' = carried g (List.map (moved g)) step) :
    (∃ ws ws', step = .ok ws ∧ step' = .ok ws' ∧ render ws' = render ws) ∨
      ∃ r r', step = .error r ∧ step' = .error r' ∧ r'.moved g = r.moved g := by
  cases step with
  | ok ws =>
      cases step' with
      | ok ws' =>
          have hrender := congrArg render (Except.ok.inj h)
          rw [render_moved, render_moved] at hrender
          exact .inl ⟨ws, ws', rfl, rfl, hrender⟩
      | error r' => cases h
  | error r =>
      cases step' with
      | ok ws' => cases h
      | error r' => exact .inr ⟨r, r', rfl, rfl, Except.error.inj h⟩

/-- An input is normalized by way of its tokens; without any it is empty. -/
lemma normalize_of_tokens {limit : Int} {raw : List Char} {ts : List Token}
    (hlen : ((trim raw).length : Int) ≤ limit) (hts : tokenize (lowercase (trim raw)) = .ok ts) :
    normalize limit raw =
      if ts = [] then .error .empty else normalTokens ts >>= fun ws => .ok (render ws) := by
  by_cases hempty : trim raw = []
  · have hnone : ts = [] := by
      rw [hempty] at hts
      simpa [lowercase, lowercaseAfter, tokenize, tokenizeFrom, eq_comm] using hts
    rw [if_pos hnone, normalize, sourceText, hempty]
    rfl
  · have htext := sourceText_eq_ok_iff.2 ⟨hempty, hlen, rfl⟩
    rw [if_neg (ne_nil_of_sourceText htext (tokenizeFrom_eq_ok_iff.1 hts)), normalize, htext,
      ok_bind, hts, ok_bind]

end NormalForm

open Text Token NormalForm

/-- **Spacing and letter case do not matter.**  Two inputs that split into tokens of the same kinds
and texts have the same normal form, or both have none; then they are rejected for the same cause,
and what it says differs in the place that it points to at most. -/
theorem normalize_agrees {limit : Int} {raw raw' : List Char} {ts us : List Token}
    (hlen : ((trim raw).length : Int) ≤ limit) (hlen' : ((trim raw').length : Int) ≤ limit)
    (hts : tokenize (lowercase (trim raw)) = .ok ts)
    (hus : tokenize (lowercase (trim raw')) = .ok us) (hsame : us.map shape = ts.map shape) :
    (∃ c, normalize limit raw = .ok c ∧ normalize limit raw' = .ok c) ∨
      ∃ r r', normalize limit raw = .error r ∧ normalize limit raw' = .error r' ∧
        r'.family = r.family ∧ r'.code = r.code ∧
        r'.moved (fun _ => 0) = r.moved (fun _ => 0) := by
  rw [normalize_of_tokens hlen hts, normalize_of_tokens hlen' hus]
  have hnil : us = [] ↔ ts = [] := by
    rw [← List.map_eq_nil_iff (f := shape), hsame, List.map_eq_nil_iff]
  by_cases hempty : ts = []
  · rw [if_pos hempty, if_pos (hnil.2 hempty)]
    exact .inr ⟨_, _, rfl, rfl, rfl, rfl, rfl⟩
  rw [if_neg hempty, if_neg (mt hnil.1 hempty)]
  -- both are what becomes of the tokens when all of them stand at one place
  have hmoved : carried (fun _ => 0) (List.map (moved fun _ => 0)) (normalTokens us) =
      carried (fun _ => 0) (List.map (moved fun _ => 0)) (normalTokens ts) := by
    rw [← normalTokens_moved, ← normalTokens_moved, map_moved_eq hsame]
  rcases cases_of_carried_eq _ hmoved with ⟨ws, ws', hws, hws', hrender⟩ | ⟨r, r', hr, hr', hcause⟩
  · rw [hws, hws', ok_bind, ok_bind, hrender]
    exact .inl ⟨_, rfl, rfl⟩
  · rw [hr, hr', error_bind, error_bind]
    obtain ⟨hfamily, hcode⟩ := Rejection.reported_of_moved hcause
    exact .inr ⟨r, r', rfl, rfl, hfamily, hcode, hcause⟩

/-- A call and a product with blanks in them and without; and a parenthesis too many, which stands
at different places. -/
theorem normalize_agrees_spaced :
    normalize 10000 " CSC( X )2".toList = .ok "(1/sin(x))*2".toList ∧
      normalize 10000 "csc(x) 2 ".toList = .ok "(1/sin(x))*2".toList ∧
      normalize 10000 "X )".toList = .error (.strayCloser 2) ∧
      ∃ r, normalize 10000 "x)".toList = .error r ∧ r.code = "UNBALANCED_PARENS" := by
  have hcall : normalize 10000 " CSC( X )2".toList = .ok "(1/sin(x))*2".toList := by
    decide +kernel
  have hstray : normalize 10000 "X )".toList = .error (.strayCloser 2) := by decide +kernel
  have hts : tokenize (lowercase (trim " CSC( X )2".toList)) =
      .ok [⟨.name, ['c', 's', 'c'], 0⟩, ⟨.opening, ['('], 3⟩, ⟨.name, ['x'], 5⟩,
        ⟨.closing, [')'], 7⟩, ⟨.number, ['2'], 8⟩] := by decide +kernel
  have hus : tokenize (lowercase (trim "csc(x) 2 ".toList)) =
      .ok [⟨.name, ['c', 's', 'c'], 0⟩, ⟨.opening, ['('], 3⟩, ⟨.name, ['x'], 4⟩,
        ⟨.closing, [')'], 5⟩, ⟨.number, ['2'], 7⟩] := by decide +kernel
  have hts' : tokenize (lowercase (trim "X )".toList)) =
      .ok [⟨.name, ['x'], 0⟩, ⟨.closing, [')'], 2⟩] := by decide +kernel
  have hus' : tokenize (lowercase (trim "x)".toList)) =
      .ok [⟨.name, ['x'], 0⟩, ⟨.closing, [')'], 1⟩] := by decide +kernel
  refine ⟨hcall, ?_, hstray, ?_⟩
  · rcases @normalize_agrees 10000 _ _ _ _ (by decide) (by decide) hts hus rfl with
      ⟨c, hc, hc'⟩ | ⟨r, -, hr, -⟩
    · rwa [Except.ok.inj (hcall.symm.trans hc)]
    · cases hcall.symm.trans hr
  · rcases @normalize_agrees 10000 _ _ _ _ (by decide) (by decide) hts' hus' rfl with
      ⟨c, hc, -⟩ | ⟨r, r', hr, hr', -, hcode, -⟩
    · cases hstray.symm.trans hc
    · obtain rfl := Except.error.inj (hstray.symm.trans hr)
      exact ⟨r', hr', hcode⟩

end CurveSketch
