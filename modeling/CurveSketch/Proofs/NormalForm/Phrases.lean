import CurveSketch.Proofs.NormalForm.Reciprocals

/-!
# What phrases become

The passes of the normal form see a list of tokens and no phrases.  Still each phrase of an
expression becomes a stretch of tokens of its own, whatever stands behind it: it closes the
parentheses that it opens, and it never ends in the name of a function, so what stands behind it
cannot turn its last token into a call.

* `Written` — `Written ts ws` says that the tokens `ts` become `ws`, and that no star is missing
  among these.
* `Written.single`, `Written.join`, `Written.group`, `Written.call`, `Written.reciprocal` — one lemma
  for each way in which phrases are put together.
-/

namespace CurveSketch.NormalForm

open Token

/-! ## One token at a time -/

lemma writtenOut_plain {opened : List Bool} {t : Token} {rest : List Token}
    (hcall : called? t rest = none) (hside : side? t.kind = none) :
    writtenOut false opened (t :: rest) = t :: writtenOut false opened rest := by
  rw [writtenOut_not_called hcall]
  obtain ⟨k, text, p⟩ := t
  cases k <;> first | contradiction | rfl

lemma writtenOut_closing {b : Bool} {opened : List Bool} {t : Token} {rest : List Token}
    (ht : t.kind = .closing) :
    writtenOut false (b :: opened) (t :: rest) =
      t :: ((if b then [⟨.closing, [')'], t.position⟩] else []) ++
        writtenOut false opened rest) := by
  rw [writtenOut_not_called (called?_of_kind_ne (by simp [ht]) rest)]
  obtain ⟨k, text, p⟩ := t
  obtain rfl : k = .closing := ht
  cases b <;> rfl

/-! ## Phrases -/

/-- The tokens `ts` become the tokens `ws`, whatever stands behind them, and no star is written
among these. -/
structure Written (ts ws : List Token) : Prop where
  apart : Apart ws
  written : ∀ opened rest,
    writtenOut false opened (ts.map settle ++ rest) = ws ++ writtenOut false opened rest

lemma Written.nil : Written [] [] := ⟨apart_nil, fun _ _ => rfl⟩

/-- A number, the variable or a constant. -/
lemma Written.single {t : Token} (hfunc : (settle t).kind ≠ .func)
    (hside : side? (settle t).kind = none) : Written [t] [settle t] :=
  ⟨apart_singleton _, fun _ rest => writtenOut_plain (called?_of_kind_ne hfunc rest) hside⟩

/-- Phrases joined by an operator. -/
lemma Written.join {ts us wl wr : List Token} {t : Token} (hl : Written ts wl)
    (ht : t.kind = .operator) (hr : Written us wr) :
    Written (ts ++ t :: us) (wl ++ settle t :: wr) where
  apart := hl.apart.join hr.apart (settle_operator_kind ht)
  written opened rest := by
    have hkind := settle_operator_kind ht
    rw [List.map_append, List.map_cons, List.append_assoc, List.cons_append, hl.written,
      writtenOut_plain (called?_of_kind_ne (by simp [hkind]) _) (by rw [hkind]; rfl), hr.written,
      List.append_assoc, List.cons_append]

/-- A phrase in parentheses, of which `b` says whether closing them closes a reciprocal too. -/
lemma Written.enclosed {ts ws : List Token} {o c : Token} (h : Written ts ws)
    (ho : o.kind = .opening) (hc : c.kind = .closing) (b : Bool) (opened : List Bool)
    (rest : List Token) :
    writtenOut b opened ((o :: (ts ++ [c])).map settle ++ rest) =
      o :: (ws ++ c :: ((if b then [⟨.closing, [')'], c.position⟩] else []) ++
        writtenOut false opened rest)) := by
  rw [List.map_cons, List.map_append, List.map_singleton, List.cons_append, List.append_assoc,
    List.singleton_append, settle_other (by simp [ho]) (by simp [ho]),
    settle_other (by simp [hc]) (by simp [hc]), writtenOut_opening ho, h.written,
    writtenOut_closing hc]

/-- In front of a parenthesis that closes, and around a phrase in parentheses. -/
lemma apart_enclosed {ws ending : List Token} {o : Token} (h : Apart ws) (ho : o.kind = .opening)
    (hending : Apart ending) (hc : ∀ t ∈ ending.head?, t.kind = .closing) :
    Apart (o :: (ws ++ ending)) := by
  refine Apart.cons ?_ (by simp [ho])
  cases ending with
  | nil => rwa [List.append_nil]
  | cons c ending => exact h.append_cons hending (by simp [hc c rfl])

/-- A phrase in parentheses. -/
lemma Written.group {ts ws : List Token} {o c : Token} (h : Written ts ws)
    (ho : o.kind = .opening) (hc : c.kind = .closing) :
    Written (o :: (ts ++ [c])) (o :: (ws ++ [c])) where
  apart := apart_enclosed h.apart ho (apart_singleton c) (by simp [hc])
  written opened rest := by simpa using h.enclosed ho hc false opened rest

/-- The name of a function, told apart, in front of its parenthesis. -/
lemma called?_function {t o : Token} {f : Fn} (ht : t.kind = .name) (hf : t.text = f.name)
    (ho : o.kind = .opening) (us rest : List Token) :
    called? (settle t) ((o :: us).map settle ++ rest) = f.reciprocalOf? := by
  rw [List.map_cons, List.cons_append, called?_cons, settle_other (by simp [ho]) (by simp [ho]),
    if_pos ho, settle_function ht hf, hf, reciprocalBase?_function]

/-- The call of a function that is no reciprocal. -/
lemma Written.call {ts ws : List Token} {t o c : Token} {f : Fn} (h : Written ts ws)
    (ht : t.kind = .name) (hf : t.text = f.name) (ho : o.kind = .opening) (hc : c.kind = .closing)
    (hrec : f.reciprocalOf? = none) :
    Written (t :: o :: (ts ++ [c])) (settle t :: o :: (ws ++ [c])) where
  apart := by
    refine (h.group ho hc).apart.cons ?_
    simp [settle_function ht hf]
  written opened rest := by
    have hcall := (called?_function ht hf ho (ts ++ [c]) rest).trans hrec
    have hside : side? (settle t).kind = none := by rw [side?_settle, ht]; rfl
    rw [List.map_cons, List.cons_append, writtenOut_plain hcall hside, (h.group ho hc).written]
    rfl

/-- The call of a reciprocal function. -/
lemma Written.reciprocal {ts ws : List Token} {t o c : Token} {f base : Fn} (h : Written ts ws)
    (ht : t.kind = .name) (hf : t.text = f.name) (ho : o.kind = .opening) (hc : c.kind = .closing)
    (hrec : f.reciprocalOf? = some base) :
    Written (t :: o :: (ts ++ [c])) (reciprocalHead base t.position ++
      o :: (ws ++ [c, ⟨.closing, [')'], c.position⟩])) where
  apart := by
    have hclose : Apart [c, ⟨.closing, [')'], c.position⟩] :=
      apart_cons_cons.2 ⟨by simp, apart_singleton _⟩
    have hgroup := apart_enclosed h.apart ho hclose (by simp [hc])
    have hcall : Apart (⟨.func, base.name, t.position⟩ ::
        o :: (ws ++ [c, ⟨.closing, [')'], c.position⟩])) := hgroup.cons (by simp)
    have hquotient := (apart_singleton ⟨.number, ['1'], t.position⟩).join hcall
      (t := ⟨.operator, ['/'], t.position⟩) rfl
    exact hquotient.cons (by simp)
  written opened rest := by
    have hcall := (called?_function ht hf ho (ts ++ [c]) rest).trans hrec
    have hplace : (settle t).position = t.position := by rw [settle_function ht hf]
    rw [List.map_cons, List.cons_append, writtenOut_called hcall, hplace,
      h.enclosed ho hc true opened rest]
    simp

end CurveSketch.NormalForm
