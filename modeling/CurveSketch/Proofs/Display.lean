import CurveSketch.Display.Superscript
import CurveSketch.Proofs.NormalForm
import CurveSketch.Proofs.Reading
import Mathlib.Data.List.Infix

/-!
# What the shown form tells

The shown form of an expression leaves out the sign of a power whose exponent is a whole number, and
raises the exponent instead.  Whoever sees it is to know which expression it is, and mostly does: this
file gives a left inverse.

* `lowerExponents` — raised characters put back, with the sign of the power in front of the first.
* `PlainPowers` — texts of which that is the inverse.  Every raised exponent is made of characters
  that have a raised form, and none is followed by another one without a sign: there the two would
  read as one number.
* **`unprettify_prettify`** — what is shown of such a text is enough to know it.
* **`eq_of_prettify_eq`** — so two inputs that are shown alike have the same text and tree, if both
  texts are such.
* **`not_eq_of_prettify_eq`** — and it takes the condition: `2**3**2` is shown as `2**32` is.
-/

namespace CurveSketch

open Text Token NormalForm

namespace Display

/-- The characters that have a raised form. -/
def raisable : List Char := ['0', '1', '2', '3', '4', '5', '6', '7', '8', '9', '-']

/-- The character a raised one stands for. -/
def lower? (c : Char) : Option Char := raisable.find? (raiseChar · = c)

/-- Raised characters put back where exponents were raised; `inside` says whether one stands in front.
The sign of a power belongs in front of the first of them, and in front of every minus sign. -/
def lowerExponents (inside : Bool) : List Char → List Char
  | [] => []
  | c :: cs =>
    match lower? c with
    | none => c :: lowerExponents false cs
    | some d =>
      if inside && d != '-' then d :: lowerExponents true cs
      else '*' :: '*' :: d :: lowerExponents true cs

def hideRoots : List Char → List Char
  | [] => []
  | c :: cs => if c = '√' then 's' :: 'q' :: 'r' :: 't' :: hideRoots cs else c :: hideRoots cs

def hideProducts (cs : List Char) : List Char := cs.map fun c => if c = '×' then '*' else c

/-- The text that is shown. -/
def unprettify (cs : List Char) : List Char := lowerExponents false (hideRoots (hideProducts cs))

/-- The text begins with a power whose exponent is raised and has no sign. -/
def beginsRaised : List Char → Bool
  | '*' :: '*' :: rest => (exponent? rest).any fun e => e.1.head? != some '-'
  | _ => false

/-- If the text begins with a power whose exponent is raised, one can tell the exponent. -/
def plainHere : List Char → Bool
  | '*' :: '*' :: rest =>
    (exponent? rest).all fun e => e.1.all raisable.contains && !beginsRaised e.2
  | _ => true

/-- Every exponent that is raised can be told. -/
def PlainPowers (cs : List Char) : Prop := ∀ rest, rest <:+ cs → plainHere rest = true

instance (cs : List Char) : Decidable (PlainPowers cs) :=
  decidable_of_iff (∀ rest ∈ cs.tails, plainHere rest = true) (by simp [PlainPowers, List.mem_tails])

/-! ## Exponents put back -/

lemma lower?_raiseChar {d : Char} (h : d ∈ raisable) : lower? (raiseChar d) = some d := by
  have hall : (raisable.all fun d => lower? (raiseChar d) == some d) = true := by decide
  simpa using List.all_eq_true.1 hall d h

lemma splitMinus_append (cs : List Char) : (splitMinus cs).1 ++ (splitMinus cs).2 = cs := by
  unfold splitMinus
  split <;> rfl

lemma splitMinus_fst (cs : List Char) : (splitMinus cs).1 = [] ∨ (splitMinus cs).1 = ['-'] := by
  unfold splitMinus
  split
  · exact .inr rfl
  · exact .inl rfl

/-- An exponent is digits, one at least, and perhaps a minus sign in front. -/
lemma exponent?_cases {cs exponent after : List Char} (h : exponent? cs = some (exponent, after)) :
    exponent ++ after = cs ∧ ∃ minus d digits, exponent = minus ++ d :: digits ∧
      (minus = [] ∨ minus = ['-']) ∧ ∀ c ∈ d :: digits, isDigit c = true := by
  unfold exponent? at h
  dsimp only at h
  split_ifs at h with hnone
  obtain ⟨rfl, rfl⟩ := Prod.mk.inj (Option.some.inj h)
  rw [Bool.or_eq_true, not_or, List.isEmpty_iff] at hnone
  obtain ⟨d, digits, hdigits⟩ := List.exists_cons_of_ne_nil hnone.1
  constructor
  · rw [List.append_assoc, List.takeWhile_append_dropWhile, splitMinus_append]
  · refine ⟨_, d, digits, by rw [hdigits], splitMinus_fst cs, ?_⟩
    rw [← hdigits]
    exact fun c hc => List.all_eq_true.1 List.all_takeWhile c hc

lemma ne_minus_of_isDigit {c : Char} (h : isDigit c = true) : c ≠ '-' := by
  rintro rfl
  exact absurd h (by decide)

/-- Inside an exponent its digits are put back one by one. -/
lemma lowerExponents_digits : ∀ {digits : List Char} (rest : List Char),
    (∀ d ∈ digits, isDigit d = true ∧ d ∈ raisable) →
    lowerExponents true (superscript digits ++ rest) = digits ++ lowerExponents true rest := by
  intro digits
  induction digits with
  | nil => intro rest _; rfl
  | cons d digits ih =>
      intro rest h
      obtain ⟨hdigit, hd⟩ := h d List.mem_cons_self
      have hminus : (d != '-') = true := by simpa using ne_minus_of_isDigit hdigit
      rw [superscript, List.map_cons, List.cons_append, lowerExponents, lower?_raiseChar hd]
      simp only [Bool.true_and, hminus, if_true]
      rw [← superscript, ih rest fun c hc => h c (List.mem_cons_of_mem d hc)]
      rfl

/-- An exponent is put back, with the sign of its power. -/
lemma lowerExponents_superscript {inside : Bool} {cs exponent after rest : List Char}
    (h : exponent? cs = some (exponent, after)) (hraise : ∀ c ∈ exponent, c ∈ raisable)
    (hinside : inside = true → exponent.head? = some '-') :
    lowerExponents inside (superscript exponent ++ rest) =
      '*' :: '*' :: exponent ++ lowerExponents true rest := by
  obtain ⟨-, minus, d, digits, rfl, rfl | rfl, hdigits⟩ := exponent?_cases h
  · -- no minus sign, so no raised character stands in front
    have hfirst : inside = false := by
      rw [Bool.eq_false_iff]
      intro htrue
      exact ne_minus_of_isDigit (hdigits d List.mem_cons_self) (Option.some.inj (hinside htrue))
    have hrest : ∀ c ∈ digits, isDigit c = true ∧ c ∈ raisable := fun c hc =>
      ⟨hdigits c (List.mem_cons_of_mem d hc), hraise c (List.mem_cons_of_mem d hc)⟩
    rw [hfirst, List.nil_append, superscript, List.map_cons, List.cons_append, lowerExponents,
      lower?_raiseChar (hraise d List.mem_cons_self)]
    simp only [Bool.false_and, Bool.false_eq_true, if_false]
    rw [← superscript, lowerExponents_digits rest hrest]
    rfl
  · have hrest : ∀ c ∈ d :: digits, isDigit c = true ∧ c ∈ raisable := fun c hc =>
      ⟨hdigits c hc, hraise c (List.mem_cons_of_mem _ hc)⟩
    rw [superscript, List.map_append, List.map_cons, List.map_nil, List.cons_append,
      List.cons_append, lowerExponents, lower?_raiseChar (by decide)]
    simp only [bne_self_eq_false, Bool.and_false, Bool.false_eq_true, if_false, List.nil_append]
    rw [← superscript, lowerExponents_digits rest hrest]
    rfl

lemma PlainPowers.suffix {cs rest : List Char} (h : PlainPowers cs) (hrest : rest <:+ cs) :
    PlainPowers rest := fun _ hmore => h _ (hmore.trans hrest)

lemma PlainPowers.exponent {rest exponent after : List Char} (h : PlainPowers ('*' :: '*' :: rest))
    (hexp : exponent? rest = some (exponent, after)) :
    (∀ c ∈ exponent, c ∈ raisable) ∧ beginsRaised after = false ∧ PlainPowers after := by
  have hhere := h _ (List.suffix_refl _)
  simp only [plainHere, hexp, Option.all_some, Bool.and_eq_true, List.all_eq_true,
    List.contains_iff_mem, Bool.not_eq_true'] at hhere
  refine ⟨hhere.1, hhere.2, h.suffix ?_⟩
  rw [← (exponent?_cases hexp).1]
  exact ⟨'*' :: '*' :: exponent, rfl⟩

lemma lowerExponents_other {c : Char} (h : lower? c = none) (inside : Bool) (cs : List Char) :
    lowerExponents inside (c :: cs) = c :: lowerExponents false cs := by
  rw [lowerExponents, h]

/-- **Exponents are put back** where they can be told, and no character was raised before. -/
lemma lowerExponents_raiseExponents {cs : List Char} (hplain : PlainPowers cs)
    (hlow : ∀ c ∈ cs, lower? c = none) (inside : Bool)
    (hinside : inside = true → beginsRaised cs = false) :
    lowerExponents inside (raiseExponents cs) = cs := by
  fun_induction raiseExponents cs generalizing inside with
  | case1 => rfl
  | case2 rest exponent after hexp ih =>
      obtain ⟨hraise, hnext, hafter⟩ := hplain.exponent hexp
      have happend := (exponent?_cases hexp).1
      have hlow' : ∀ c ∈ after, lower? c = none := fun c hc =>
        hlow c (by simp [← happend, hc])
      have hsigned : inside = true → exponent.head? = some '-' := fun htrue => by
        simpa [beginsRaised, hexp] using hinside htrue
      rw [lowerExponents_superscript hexp hraise hsigned, ih hafter hlow' true fun _ => hnext,
        ← happend]
      rfl
  | case3 rest hnone ih =>
      have hrest := hplain.suffix (List.suffix_cons '*' ('*' :: rest))
      rw [lowerExponents_other (by decide), ih hrest (fun c hc => hlow c (List.mem_cons_of_mem _ hc))
        false (by simp)]
  | case4 c rest hnot ih =>
      obtain ⟨hc, hrest⟩ := List.forall_mem_cons.1 hlow
      rw [lowerExponents_other hc, ih (hplain.suffix (List.suffix_cons c rest)) hrest false (by simp)]

/-! ## The whole shown form put back -/

/-- The characters that only a shown form has. -/
def shownOnly : List Char := '√' :: '×' :: raisable.map raiseChar

lemma lower?_of_not_mem {c : Char} (h : c ∉ shownOnly) : lower? c = none := by
  rw [lower?, List.find?_eq_none]
  intro d hd heq
  rw [decide_eq_true_eq] at heq
  exact h (List.mem_cons_of_mem _ (List.mem_cons_of_mem _ (List.mem_map.2 ⟨d, hd, heq⟩)))

lemma mem_raiseExponents {c : Char} {cs : List Char} (h : c ∈ raiseExponents cs) :
    ∃ d ∈ cs, c = d ∨ c = raiseChar d := by
  fun_induction raiseExponents cs with
  | case1 => simp at h
  | case2 rest exponent after hexp ih =>
      have happend := (exponent?_cases hexp).1
      rcases List.mem_append.1 h with h | h
      · obtain ⟨d, hd, rfl⟩ := List.mem_map.1 h
        exact ⟨d, by simp [← happend, hd], .inr rfl⟩
      · obtain ⟨d, hd, hc⟩ := ih h
        exact ⟨d, by simp [← happend, hd], hc⟩
  | case3 rest hnone ih =>
      rcases List.mem_cons.1 h with rfl | h
      · exact ⟨'*', List.mem_cons_self, .inl rfl⟩
      · obtain ⟨d, hd, hc⟩ := ih h
        exact ⟨d, List.mem_cons_of_mem _ hd, hc⟩
  | case4 e rest hnot ih =>
      rcases List.mem_cons.1 h with rfl | h
      · exact ⟨c, List.mem_cons_self, .inl rfl⟩
      · obtain ⟨d, hd, hc⟩ := ih h
        exact ⟨d, List.mem_cons_of_mem _ hd, hc⟩

/-- Raising makes neither a root sign nor a sign of multiplication. -/
lemma not_sign_raiseExponents {cs : List Char} (h : ∀ c ∈ cs, c ∉ shownOnly) :
    ∀ c ∈ raiseExponents cs, c ≠ '√' ∧ c ≠ '×' := by
  have hraise : ∀ d, raiseChar d = '√' ∨ raiseChar d = '×' → raiseChar d = d := by
    intro d
    unfold raiseChar
    split <;> first | decide | simp
  intro c hc
  obtain ⟨d, hd, hcases⟩ := mem_raiseExponents hc
  have hnot : d ≠ '√' ∧ d ≠ '×' := by
    constructor <;> (rintro rfl; exact h _ hd (by decide))
  rcases hcases with rfl | rfl
  · exact hnot
  · constructor
    · intro hroot
      exact hnot.1 (hraise d (.inl hroot) ▸ hroot)
    · intro htimes
      exact hnot.2 (hraise d (.inr htimes) ▸ htimes)

lemma mem_showRoots {c : Char} {cs : List Char} (h : c ∈ showRoots cs) : c = '√' ∨ c ∈ cs := by
  fun_induction showRoots cs with
  | case1 rest ih =>
      simp only [List.mem_cons] at h
      rcases h with rfl | rfl | h
      · exact .inl rfl
      · simp
      · exact (ih h).imp id fun hc => by simp [hc]
  | case2 d rest _ ih =>
      rcases List.mem_cons.1 h with rfl | h
      · exact .inr List.mem_cons_self
      · exact (ih h).imp id (List.mem_cons_of_mem d)
  | case3 => simp at h

lemma hideRoots_showRoots {cs : List Char} (h : ∀ c ∈ cs, c ≠ '√') :
    hideRoots (showRoots cs) = cs := by
  fun_induction showRoots cs with
  | case1 rest ih =>
      have hrest : ∀ c ∈ rest, c ≠ '√' := fun c hc => h c (by simp [hc])
      rw [hideRoots, if_pos rfl, hideRoots, if_neg (by decide), ih hrest]
  | case2 d rest _ ih =>
      obtain ⟨hd, hrest⟩ := List.forall_mem_cons.1 h
      rw [hideRoots, if_neg hd, ih hrest]
  | case3 => rfl

lemma hideProducts_showProducts {cs : List Char} (h : ∀ c ∈ cs, c ≠ '×') :
    hideProducts (showProducts cs) = cs := by
  rw [hideProducts, showProducts, List.map_map]
  refine (List.map_congr_left fun c hc => ?_).trans (List.map_id cs)
  by_cases hstar : c = '*'
  · simp [hstar]
  · simp [hstar, h c hc]

/-- **The shown form is enough to know the text** if its exponents can be told, and it has no
character in it that only a shown form has. -/
lemma unprettify_prettify {cs : List Char} (hplain : PlainPowers cs)
    (hbare : ∀ c ∈ cs, c ∉ shownOnly) : unprettify (prettify cs) = cs := by
  have hsigns := not_sign_raiseExponents hbare
  have hproducts : ∀ c ∈ showRoots (raiseExponents cs), c ≠ '×' := fun c hc =>
    (mem_showRoots hc).elim (fun hroot => hroot ▸ by decide) fun hc => (hsigns c hc).2
  rw [unprettify, prettify, hideProducts_showProducts hproducts,
    hideRoots_showRoots fun c hc => (hsigns c hc).1,
    lowerExponents_raiseExponents hplain (fun c hc => lower?_of_not_mem (hbare c hc)) false (by simp)]

example : PlainPowers "2*sqrt(x)**-3**-1+x**.5".toList ∧
    prettify "2*sqrt(x)**-3**-1+x**.5".toList = "2×√(x)⁻³⁻¹+x××.5".toList := by
  decide +kernel

/-- A normal form splits into tokens, and none has a character in it that only a shown form has. -/
lemma bare_of_normalize {limit : Int} {raw c : List Char} (h : normalize limit raw = .ok c) :
    ∀ d ∈ c, d ∉ shownOnly := by
  have hforeign : (shownOnly.all fun d => decide (Foreign d)) = true := by decide +kernel
  obtain ⟨-, ws, -, -, -, hstandard, rfl⟩ := tokens_of_normalize h
  have hsplits := splits_readAgain (Standard.legible hstandard)
  intro d hd hshown
  exact hsplits.not_foreign d hd (of_decide_eq_true (List.all_eq_true.1 hforeign d hshown))

/-- **Normal forms that are shown alike are alike** if the exponents in both can be told. -/
lemma normalized_eq_of_prettify_eq {limit : Int} {raw raw' c c' : List Char}
    (hc : normalize limit raw = .ok c) (hc' : normalize limit raw' = .ok c')
    (hplain : PlainPowers c) (hplain' : PlainPowers c') (h : prettify c = prettify c') : c = c' :=
  calc c = unprettify (prettify c) := (unprettify_prettify hplain (bare_of_normalize hc)).symm
    _ = unprettify (prettify c') := by rw [h]
    _ = c' := unprettify_prettify hplain' (bare_of_normalize hc')

end Display

open Display

/-- **Inputs that are shown alike** have the same text and the same tree, if the exponents in both
texts can be told.  Every input that a curve is made from has a text and a tree
(`Curve.ofInput_cases`). -/
theorem eq_of_prettify_eq {limits : Limits} {raw raw' c c' : List Char} {e e' : Expr}
    (hc : normalize limits.inputLength raw = .ok c)
    (hc' : normalize limits.inputLength raw' = .ok c')
    (he : readTree limits c = .ok e) (he' : readTree limits c' = .ok e')
    (hplain : PlainPowers c) (hplain' : PlainPowers c') (h : prettify c = prettify c') :
    c = c' ∧ e = e' := by
  obtain rfl := normalized_eq_of_prettify_eq hc hc' hplain hplain' h
  exact ⟨rfl, Except.ok.inj (he.symm.trans he')⟩

/-- One expression typed in two ways, with exponents that are raised, one of them behind another, and
one that is not. -/
theorem eq_of_prettify_eq_powers :
    ∃ c c' e e',
      normalize ({} : Limits).inputLength "x^-2^-1+2SQRT(x)^3-x^0.5".toList = .ok c ∧
      normalize ({} : Limits).inputLength " X**-2 ** -1 + 2*sqrt(x)^3 - x^0.5".toList = .ok c' ∧
      readTree {} c = .ok e ∧ readTree {} c' = .ok e' ∧ PlainPowers c ∧ PlainPowers c' ∧
      prettify c = "x⁻²⁻¹+2×√(x)³-x××0.5".toList ∧
      prettify c' = "x⁻²⁻¹+2×√(x)³-x××0.5".toList ∧ c = c' ∧ e = e' := by
  have hc : normalize ({} : Limits).inputLength "x^-2^-1+2SQRT(x)^3-x^0.5".toList =
      .ok "x**-2**-1+2*sqrt(x)**3-x**0.5".toList := by decide +kernel
  have hc' : normalize ({} : Limits).inputLength " X**-2 ** -1 + 2*sqrt(x)^3 - x^0.5".toList =
      .ok "x**-2**-1+2*sqrt(x)**3-x**0.5".toList := by decide +kernel
  have hplain : PlainPowers "x**-2**-1+2*sqrt(x)**3-x**0.5".toList := by decide +kernel
  have hshown : prettify "x**-2**-1+2*sqrt(x)**3-x**0.5".toList = "x⁻²⁻¹+2×√(x)³-x××0.5".toList := by
    decide +kernel
  obtain ⟨e, he⟩ : ∃ e, readTree {} "x**-2**-1+2*sqrt(x)**3-x**0.5".toList = .ok e :=
    exists_ok_of_isSome (by decide +kernel)
  exact ⟨_, _, e, e, hc, hc', he, he, hplain, hplain, hshown, hshown,
    eq_of_prettify_eq hc hc' he he hplain hplain rfl⟩

/-- It takes the condition: a power in the exponent is shown as more digits of the exponent. -/
theorem not_eq_of_prettify_eq :
    ¬ ∀ (raw raw' c c' : List Char) (e e' : Expr), normalize 10000 raw = .ok c →
      normalize 10000 raw' = .ok c' → readTree {} c = .ok e → readTree {} c' = .ok e' →
      prettify c = prettify c' → e = e' := by
  intro h
  have htower : (readTree {} "2**3**2".toList).toOption.map Expr.nodes = some 5 := by
    decide +kernel
  have hpower : (readTree {} "2**32".toList).toOption.map Expr.nodes = some 3 := by
    decide +kernel
  obtain ⟨e, he⟩ : ∃ e, readTree {} "2**3**2".toList = .ok e :=
    exists_ok_of_isSome (by decide +kernel)
  obtain ⟨e', he'⟩ : ∃ e', readTree {} "2**32".toList = .ok e' :=
    exists_ok_of_isSome (by decide +kernel)
  obtain rfl : e = e' := h "2^3^2".toList "2^32".toList _ _ e e' (by decide +kernel)
    (by decide +kernel) he he' (by decide +kernel)
  rw [he] at htower
  rw [he'] at hpower
  have hnodes : some 5 = some 3 := htower.symm.trans hpower
  simp at hnodes

end CurveSketch
