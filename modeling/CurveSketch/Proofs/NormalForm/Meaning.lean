import CurveSketch.Proofs.Grammar.Recognition
import CurveSketch.Proofs.Grammar.Stages
import CurveSketch.Proofs.NormalForm
import CurveSketch.Proofs.NormalForm.Phrases
import CurveSketch.Proofs.Reading

/-!
# What normal forms mean

An expression that the reader accepts as it stands may still name constants, write powers with a
caret and call reciprocal functions; in normal form it does not, and it means the same.  The proof
follows the derivation of the expression.  For every phrase it gives the tokens that the phrase
becomes, says that they are a phrase of the same sort, and compares the values of the two trees.

* `spells_reread_settle`, `spells_reread_power` — operators are read again as they were, a caret as
  the power that it is.
* `applyFn_reciprocal` — a reciprocal function is one divided by its base.
* `Rewrites`, **`Derives.rewrites`** — a phrase becomes a phrase of the same sort and the same value.
* `Stage.balanced_through?` — tokens that may stand where they do open and close parentheses as their
  stages count them.
* `Derives.known`, `Derives.balanced` — nothing in an expression is rejected on the way.
* **`readTree_normalize`** — what is read as an expression has a normal form of the same value; the
  normal form is read again unless it has become too deep or too large.
-/

namespace CurveSketch

open Text Token Parse NormalForm

lemma Sign.symbol_ne_caret (s : Sign) : s.symbol ≠ ['^'] := by cases s <;> decide

namespace NormalForm

/-! ## The written phrases, read again -/

/-- A token as it is read when it has been written out. -/
def reread (t : Token) : Token := { t with kind := t.kind.asRead }

lemma shape_reread (ws : List Token) : (ws.map reread).map shape = ws.map readShape := by
  rw [List.map_map]
  rfl

/-- An operator that is no caret is settled, written and read as it stands. -/
lemma spells_reread_settle {t : Token} {text : List Char} (ht : t.Spells text)
    (hne : text ≠ ['^']) : (reread (settle t)).Spells text := by
  have hcaret : ¬ t.isOperator ['^'] = true := fun h => hne (ht.unique (isOperator_iff.1 h))
  rw [settle_operator ht.1, readPower, if_neg hcaret]
  exact ⟨by rw [reread, ht.1]; rfl, ht.2⟩

/-- Both spellings of a power become the longer one. -/
lemma spells_reread_power {t : Token} (ht : t.Spells ['*', '*'] ∨ t.Spells ['^']) :
    (reread (settle t)).Spells ['*', '*'] := by
  rcases ht with ht | ht
  · exact spells_reread_settle ht (by decide)
  · rw [settle_operator ht.1, readPower, if_pos (isOperator_iff.2 ht)]
    exact ⟨by rw [reread, ht.1]; rfl, rfl⟩

lemma numeral_one : numeral ['1'] = 1.0 := by decide +kernel

/-- **A reciprocal function** is one divided by its base. -/
lemma applyFn_reciprocal {f base : Fn} (h : f.reciprocalOf? = some base) (v : Float) :
    applyFn f v = applyOperator .div (numeral ['1']) (applyFn base v) := by
  rw [numeral_one]
  cases f <;> simp only [Fn.reciprocalOf?, reduceCtorEq, Option.some.injEq] at h <;> subst h <;> rfl

end NormalForm

/-- One divided by a call, in parentheses, is a primary. -/
lemma Derives.quotient {us : List Token} {e : Expr} {n : ℕ} (h : Derives .expression us e n)
    {o c : Token} (ho : o.kind = .opening) (hc : c.kind = .closing) (base : Fn) (p q : ℕ) :
    Derives .primary
      ((reciprocalHead base p).map reread ++ o :: (us ++ [c, ⟨.closing, [')'], q⟩]))
      (.binary .div (.number (numeral ['1'])) (.call base e)) (max 0 (n + 1) + 1) := by
  have hone : Derives .term [⟨.number, ['1'], p⟩] (.number (numeral ['1'])) 0 :=
    .ofSigned (.ofPower (.ofPrimary (.number _ rfl)))
  have hcall : Derives .signed (⟨.name, base.name, p⟩ :: o :: (us ++ [c])) (.call base e) (n + 1) :=
    .ofPower (.ofPrimary (.call base _ o c rfl rfl ho h hc))
  have hquotient := Derives.product .div ⟨.operator, ['/'], p⟩ hone (.inr rfl) ⟨rfl, rfl⟩ hcall
  have hgroup := Derives.group ⟨.opening, ['('], p⟩ ⟨.closing, [')'], q⟩ rfl (.ofTerm hquotient) rfl
  simpa [reciprocalHead, reread, Kind.asRead] using hgroup

/-- The tokens `ts`, a phrase of sort `p` with the tree `e`, become a phrase of the same sort with a
tree of the same value. -/
def Rewrites (p : Phrase) (ts : List Token) (e : Expr) : Prop :=
  ∃ ws e' n, Written ts ws ∧ Derives p (ws.map reread) e' n ∧
    ∀ x, e'.eval arithmetic x = e.eval arithmetic x

variable {p q r : Phrase} {ts us : List Token} {e l e' : Expr} {n : ℕ} {t o c : Token}

/-- A phrase of one sort is a phrase of a looser sort. -/
lemma Rewrites.widen (h : Rewrites p ts e)
    (hp : ∀ {ws e n}, Derives p ws e n → Derives q ws e n) : Rewrites q ts e := by
  obtain ⟨ws, e', n, hw, hd, hv⟩ := h
  exact ⟨ws, e', n, hw, hp hd, hv⟩

/-- A number, the variable or a constant. -/
lemma Rewrites.leaf (hfunc : (settle t).kind ≠ .func) (hside : side? (settle t).kind = none)
    (h : Derives p [reread (settle t)] e n) : Rewrites p [t] e :=
  ⟨[settle t], e, n, .single hfunc hside, h, fun _ => rfl⟩

/-- Phrases joined by an operator. -/
lemma Rewrites.binary {op : Operator} (hl : Rewrites p ts l) (ht : t.kind = .operator)
    (hr : Rewrites q us e)
    (hd : ∀ {ws vs l' r' m n}, Derives p ws l' m → Derives q vs r' n →
      ∃ k, Derives r (ws ++ reread (settle t) :: vs) (.binary op l' r') k) :
    Rewrites r (ts ++ t :: us) (.binary op l e) := by
  obtain ⟨wl, l', m, hwl, hdl, hvl⟩ := hl
  obtain ⟨wr, r', n, hwr, hdr, hvr⟩ := hr
  obtain ⟨k, hk⟩ := hd hdl hdr
  refine ⟨_, .binary op l' r', k, hwl.join ht hwr, ?_, fun x => ?_⟩
  · rwa [List.map_append, List.map_cons]
  · simp only [Expr.eval, hvl, hvr]

lemma kind_reread_opening (ho : o.kind = .opening) : (reread o).kind = .opening := by
  rw [reread, ho]
  rfl

lemma kind_reread_closing (hc : c.kind = .closing) : (reread c).kind = .closing := by
  rw [reread, hc]
  rfl

/-- A phrase in parentheses. -/
lemma Rewrites.group (h : Rewrites .expression ts e) (ho : o.kind = .opening)
    (hc : c.kind = .closing) : Rewrites .primary (o :: (ts ++ [c])) e := by
  obtain ⟨ws, e', n, hw, hd, hv⟩ := h
  refine ⟨_, e', n + 1, hw.group ho hc, ?_, hv⟩
  rw [List.map_cons, List.map_append]
  exact .group (reread o) (reread c) (kind_reread_opening ho) hd (kind_reread_closing hc)

/-- A call; that of a reciprocal function becomes a quotient. -/
lemma Rewrites.call {f : Fn} (h : Rewrites .expression ts e) (ht : t.kind = .name)
    (hf : t.text = f.name) (ho : o.kind = .opening) (hc : c.kind = .closing) :
    Rewrites .primary (t :: o :: (ts ++ [c])) (.call f e) := by
  obtain ⟨ws, e', n, hw, hd, hv⟩ := h
  have hopen := kind_reread_opening ho
  have hclose := kind_reread_closing hc
  cases hrec : f.reciprocalOf? with
  | none =>
      refine ⟨_, .call f e', n + 1, hw.call ht hf ho hc hrec, ?_, fun x => ?_⟩
      · rw [List.map_cons, List.map_cons, List.map_append, settle_function ht hf]
        exact .call f _ (reread o) (reread c) rfl hf hopen hd hclose
      · simp only [Expr.eval, hv]
  | some base =>
      refine ⟨_, .binary .div (.number (numeral ['1'])) (.call base e'), max 0 (n + 1) + 1,
        hw.reciprocal ht hf ho hc hrec, ?_, fun x => ?_⟩
      · rw [List.map_append, List.map_cons, List.map_append]
        exact hd.quotient hopen hclose base t.position c.position
      · simp only [Expr.eval, hv]
        exact (applyFn_reciprocal hrec _).symm

/-- **A phrase becomes a phrase** of the same sort and the same value. -/
lemma Derives.rewrites (h : Derives p ts e n) : Rewrites p ts e := by
  induction h with
  | ofTerm _ ih => exact ih.widen .ofTerm
  | ofSigned _ ih => exact ih.widen .ofSigned
  | ofPower _ ih => exact ih.widen .ofPower
  | ofPrimary _ ih => exact ih.widen .ofPrimary
  | sum op t _ hop ht _ ihl ihr =>
      have hsign := spells_reread_settle ht op.symbol_ne_caret
      exact ihl.binary ht.1 ihr fun hl hr => ⟨_, .sum op _ hl hop hsign hr⟩
  | product op t _ hop ht _ ihl ihr =>
      have hsign := spells_reread_settle ht op.symbol_ne_caret
      exact ihl.binary ht.1 ihr fun hl hr => ⟨_, .product op _ hl hop hsign hr⟩
  | raise t _ ht _ ihb ihe =>
      have hkind : t.kind = .operator := ht.elim And.left And.left
      have hpower := spells_reread_power ht
      exact ihb.binary hkind ihe fun hb he => ⟨_, .raise _ hb (.inl hpower) he⟩
  | sign s t ht _ ih =>
      obtain ⟨ws, e', n, hw, hd, hv⟩ := ih
      have hsign := spells_reread_settle ht s.symbol_ne_caret
      refine ⟨_, .signed s e', n + 1, Written.nil.join ht.1 hw, .sign s _ hsign hd, fun x => ?_⟩
      cases s <;> simp only [Expr.eval, hv]
  | number t ht =>
      have hsettle : settle t = t := settle_other (by simp [ht]) (by simp [ht])
      have hread : Derives .primary [reread (settle t)] (.number (numeral t.text)) 0 := by
        rw [hsettle]
        exact .number (reread t) (by rw [reread, ht]; rfl)
      exact .leaf (by simp [hsettle, ht]) (by rw [hsettle, ht]; rfl) hread
  | var t ht hx =>
      have hsettle := settle_variable ht hx
      have hread : Derives .primary [reread (settle t)] .var 0 := by
        rw [hsettle]
        exact .var _ rfl hx
      exact .leaf (by simp [hsettle]) (by rw [hsettle]; rfl) hread
  | constant c t ht hc =>
      have hsettle := settle_constant ht hc
      have hread : Derives .primary [reread (settle t)] (.number (constantValue c)) 0 := by
        rw [hsettle]
        exact .number (reread { t with kind := .const, text := c.digits }) rfl
      exact .leaf (by simp [hsettle]) (by rw [hsettle]; rfl) hread
  | group o c ho _ hc ih => exact ih.group ho hc
  | call f t o c ht hf ho _ hc ih => exact ih.call ht hf ho hc

/-! ## Nothing is rejected on the way -/

/-- Every name in an expression is known. -/
lemma Derives.known (h : Derives p ts e n) : ∀ t ∈ ts, Known t := by
  induction h with
  | ofTerm _ ih | ofSigned _ ih | ofPower _ ih | ofPrimary _ ih => exact ih
  | sum op t _ _ ht _ ihl ihr | product op t _ _ ht _ ihl ihr =>
      rw [List.forall_mem_append, List.forall_mem_cons]
      exact ⟨ihl, known_of_ne (by simp [ht.1]), ihr⟩
  | raise t _ ht _ ihb ihe =>
      have hkind : t.kind = .operator := ht.elim And.left And.left
      rw [List.forall_mem_append, List.forall_mem_cons]
      exact ⟨ihb, known_of_ne (by simp [hkind]), ihe⟩
  | sign s t ht _ ih => exact List.forall_mem_cons.2 ⟨known_of_ne (by simp [ht.1]), ih⟩
  | number t ht => exact List.forall_mem_singleton.2 (known_of_ne (by simp [ht]))
  | var t _ hx => exact List.forall_mem_singleton.2 fun _ => .inl hx
  | constant c t _ hc => exact List.forall_mem_singleton.2 fun _ => .inr (.inl ⟨c, hc⟩)
  | group o c ho _ hc ih =>
      rw [List.forall_mem_cons, List.forall_mem_append, List.forall_mem_singleton]
      exact ⟨known_of_ne (by simp [ho]), ih, known_of_ne (by simp [hc])⟩
  | call f t o c _ hf ho _ hc ih =>
      rw [List.forall_mem_cons, List.forall_mem_cons, List.forall_mem_append,
        List.forall_mem_singleton]
      exact ⟨fun _ => .inr (.inr ⟨f, hf⟩), known_of_ne (by simp [ho]), ih, known_of_ne (by simp [hc])⟩

/-- How many parentheses are open. -/
def Stage.depth : Stage → ℕ
  | operand depth | argument depth | operator depth => depth

/-- Stages count the parentheses as they are opened and closed. -/
lemma Stage.Leads.balanced_iff {s s' : Stage} {t : Token} (h : Leads s t s') (ts : List Token) :
    Balanced s.depth (t :: ts) ↔ Balanced s'.depth ts := by
  cases h with
  | opening ht | argument ht => exact balanced_opening ht
  | closing ht => exact balanced_closing ht
  | number ht | var ht _ | constant _ ht _ | function _ ht _ | joins ht _ =>
      exact balanced_other (by rw [ht]; rfl)
  | sign ht => exact balanced_other (by rw [(signOf?_eq_some_iff.1 ht).1]; rfl)

lemma Stage.balanced_through? {s s' : Stage} (h : s.through? ts = some s') (rest : List Token) :
    Balanced s.depth (ts ++ rest) ↔ Balanced s'.depth rest := by
  induction ts generalizing s with
  | nil =>
      obtain rfl : s = s' := by simpa using h
      rfl
  | cons t ts ih =>
      obtain ⟨s₁, ht, h⟩ := Option.bind_eq_some_iff.1 h
      rw [List.cons_append, (next?_eq_some_iff.1 ht).balanced_iff, ih h]

/-- An expression closes the parentheses that it opens, and no others. -/
lemma Derives.balanced (h : Derives p ts e n) (depth : ℕ) (rest : List Token) :
    Balanced depth (ts ++ rest) ↔ Balanced depth rest :=
  Stage.balanced_through? (h.through? depth) rest

/-! ## The whole way -/

variable {limits : Limits} {text : List Char}

/-- The text of an expression has no capital letters, so as an input it is split as it stands. -/
lemma sourceText_of_derives {limit : Int} (h : Derives .expression ts e n)
    (hts : Splits 0 text ts) (hlen : ((trim text).length : Int) ≤ limit) :
    ∃ us, sourceText limit text = .ok (trim text) ∧ Splits 0 (trim text) us ∧
      us.map shape = ts.map shape := by
  obtain ⟨us, hus, hshape⟩ := hts.trim
  have hderives : Derives .expression us e n := h.congr hshape
  have hne : trim text ≠ [] := by
    intro hnil
    rw [hnil] at hus
    exact hderives.ne_nil (Splits.of_blanks (by simp) hus)
  have hsmall : ∀ c ∈ trim text, IsSmall c := by
    intro c hc
    rcases hus.mem c hc with hblank | ⟨t, ht, hc⟩
    · exact .of_isBlank hblank
    · exact isSmall_of_known (hus.lexeme t ht) (hderives.known t ht) c hc
  have hsource := sourceText_eq_ok_iff.2 ⟨hne, hlen, (lowercase_eq_self hsmall).symm⟩
  exact ⟨us, hsource, hus, hshape⟩

/-- **Normal forms mean the same.**  What is read as an expression has a normal form, if it is not
too long to be an input.  The normal form is read as an expression of the same value everywhere; only
the parentheses and nodes that it adds may make it too deep or too large. -/
theorem readTree_normalize {c : List Char} (h : readTree limits c = .ok e)
    (hlen : ((trim c).length : Int) ≤ limits.inputLength) :
    ∃ c', normalize limits.inputLength c = .ok c' ∧
      ((∃ e', readTree limits c' = .ok e' ∧
          ∀ x, (Curve.ofTree c' e').valueAt x = (Curve.ofTree c e).valueAt x) ∨
        ∃ r, readTree limits c' = .error r ∧
          (r.code = "TOO_DEEP" ∨ r.code = "TOO_COMPLEX")) := by
  obtain ⟨ts, n, hts, hderives⟩ := derives_of_readTree h
  obtain ⟨us, hsource, hus, hshape⟩ :=
    sourceText_of_derives hderives (tokenizeFrom_eq_ok_iff.1 hts) hlen
  have husderives : Derives .expression us e n := hderives.congr hshape
  obtain ⟨ws, e', n', hwritten, hws, hvalue⟩ := husderives.rewrites
  -- the passes leave exactly the tokens that the derivation gives
  have hbal : Balanced 0 us := by
    have hall := husderives.balanced 0 []
    rw [List.append_nil, balanced_nil] at hall
    exact hall.2 rfl
  have htokens : writtenOut false [] (us.map settle) = ws := by
    have hall := hwritten.written [] []
    rwa [List.append_nil, writtenOut, List.append_nil] at hall
  have hnormal : normalTokens us = .ok ws := by
    refine normalTokens_eq_ok_iff.2 ⟨husderives.known, hbal, ?_⟩
    rw [htokens, insertTimes_eq_self hwritten.apart]
  refine ⟨render ws, normalize_eq_ok_iff.2
    ⟨_, us, ws, hsource, hus.tokenizeFrom_eq, hnormal, rfl⟩, ?_⟩
  -- and their text is split into the tokens of the derivation again
  obtain ⟨vs, hvs, hvshape⟩ :=
    splits_render (Standard.legible (standard_normalTokens hus.lexeme hnormal))
  have hvderives : Derives .expression vs e' n' :=
    hws.congr (hvshape.trans (shape_reread ws).symm)
  rcases hvderives.readTree_cases hvs.tokenizeFrom_eq with hread | hrejected
  · refine Or.inl ⟨e', hread, fun x => ?_⟩
    rw [Curve.valueAt_eq_eval, Curve.valueAt_eq_eval]
    exact hvalue x
  · exact Or.inr hrejected

/-- A call, a constant by name and a caret, before and after. -/
theorem readTree_normalize_call :
    ∃ e e', readTree {} "csc(pi*x)^2".toList = .ok e ∧
      ((trim "csc(pi*x)^2".toList).length : Int) ≤ ({} : Limits).inputLength ∧
      normalize ({} : Limits).inputLength "csc(pi*x)^2".toList =
        .ok "(1/sin(3.141592653589793*x))**2".toList ∧
      readTree {} "(1/sin(3.141592653589793*x))**2".toList = .ok e' ∧
      ∀ x, (Curve.ofTree "(1/sin(3.141592653589793*x))**2".toList e').valueAt x =
        (Curve.ofTree "csc(pi*x)^2".toList e).valueAt x := by
  have hread : (readTree {} "csc(pi*x)^2".toList).toOption.isSome = true := by decide +kernel
  obtain ⟨e, he⟩ := exists_ok_of_isSome hread
  have hlen : ((trim "csc(pi*x)^2".toList).length : Int) ≤ ({} : Limits).inputLength := by
    decide +kernel
  have hnormal : normalize ({} : Limits).inputLength "csc(pi*x)^2".toList =
      .ok "(1/sin(3.141592653589793*x))**2".toList := by decide +kernel
  obtain ⟨c', hc', houtcome⟩ := readTree_normalize he hlen
  obtain rfl := Except.ok.inj (hnormal.symm.trans hc')
  have hagain : (readTree {} "(1/sin(3.141592653589793*x))**2".toList).toOption.isSome = true := by
    decide +kernel
  rcases houtcome with ⟨e', he', hvalue⟩ | ⟨r, hr, -⟩
  · exact ⟨e, e', he, hlen, hnormal, he', hvalue⟩
  · rw [hr] at hagain
    cases hagain

end CurveSketch
