import CurveSketch.NormalForm
import CurveSketch.Proofs.NormalForm.Reciprocals

/-!
# The normal form as a whole

* **`normalTokens_eq_ok_iff`** — tokens have a normal form exactly if their names are known and their
  parentheses balanced, and what it is: every token is settled, then reciprocals are written out,
  then products.
* `standard_normalTokens` — which tokens a normal form is made of.
* `normalize_eq_ok_iff` — the steps from an input to the text of its normal form.
* `tokens_of_normalize` — what a normal form was written from.
* `sourceText_render` — the text of a normal form is taken as it stands when it is an input itself.
* `known_again`, **`map_settle_again`** — its tokens are known when they are read, and settle to the
  same texts and, but for constants, to the same kinds.
* `ReadFrom` — a token of a normal form and how it is read.
-/

namespace CurveSketch.NormalForm

open Text Token

/-! ## Tokens -/

/-- **Tokens have a normal form** exactly if their names are known and their parentheses balanced,
and this is what it is. -/
lemma normalTokens_eq_ok_iff {ts ws : List Token} :
    normalTokens ts = .ok ws ↔
      (∀ t ∈ ts, Known t) ∧ Balanced 0 ts ∧
        ws = insertTimes (writtenOut false [] (ts.map settle)) := by
  simp only [normalTokens, bind_eq_ok_iff, classify_eq_ok_iff, Except.ok.injEq]
  have hbal : ∀ u : Unit,
      checkParentheses (insertTimes (expandReciprocals (ts.map settle))) = .ok u ↔
        Balanced 0 ts := fun u => by
    rw [checkParentheses, checkFrom_insertTimes, checkFrom_expandReciprocals]
    exact balanced_settle
  constructor
  · rintro ⟨vs, ⟨hknown, rfl⟩, u, hcheck, rfl⟩
    have hts := (hbal u).1 hcheck
    rw [expandReciprocals_eq_writtenOut (balanced_settle.2 hts)]
    exact ⟨hknown, hts, rfl⟩
  · rintro ⟨hknown, hts, rfl⟩
    rw [← expandReciprocals_eq_writtenOut (balanced_settle.2 hts)]
    exact ⟨_, ⟨hknown, rfl⟩, (), (hbal ()).2 hts, rfl⟩

/-- The parentheses of a normal form are balanced. -/
lemma balanced_of_normalTokens {ts ws : List Token} (h : normalTokens ts = .ok ws) :
    Balanced 0 ws := by
  simp only [normalTokens, bind_eq_ok_iff, Except.ok.injEq] at h
  obtain ⟨_, _, _, hcheck, rfl⟩ := h
  exact hcheck

/-- A normal form is made of the tokens that are standard, if the tokens were those of a text. -/
lemma standard_normalTokens {ts ws : List Token} (hlex : ∀ t ∈ ts, Lexeme t.kind t.text)
    (h : normalTokens ts = .ok ws) : ∀ w ∈ ws, Standard w.kind w.text := by
  obtain ⟨hknown, -, rfl⟩ := normalTokens_eq_ok_iff.1 h
  have hsettled : ∀ v ∈ ts.map settle, Standard v.kind v.text := by
    intro v hv
    obtain ⟨t, ht, rfl⟩ := List.mem_map.1 hv
    exact standard_settle (hlex t ht) (hknown t ht)
  intro w hw
  rcases mem_insertTimes hw with hw | ⟨p, rfl⟩
  · exact standard_writtenOut hsettled w hw
  · exact .operator .mul

/-- No token is lost on the way to a normal form. -/
lemma length_le_of_normalTokens {ts ws : List Token} (h : normalTokens ts = .ok ws) :
    ts.length ≤ ws.length := by
  obtain ⟨-, -, rfl⟩ := normalTokens_eq_ok_iff.1 h
  have hwritten := length_le_writtenOut false [] (ts.map settle)
  rw [List.length_map] at hwritten
  exact Nat.le_trans hwritten (length_le_insertTimes _)

/-! ## Texts -/

variable {limit : Int}

/-- The steps from an input to the text of its normal form. -/
lemma normalize_eq_ok_iff {raw c : List Char} :
    normalize limit raw = .ok c ↔
      ∃ text ts ws, sourceText limit raw = .ok text ∧ tokenize text = .ok ts ∧
        normalTokens ts = .ok ws ∧ c = render ws := by
  simp only [normalize, bind_eq_ok_iff, Except.ok.injEq]
  constructor
  · rintro ⟨text, htext, ts, hts, ws, hws, rfl⟩
    exact ⟨text, ts, ws, htext, hts, hws, rfl⟩
  · rintro ⟨text, ts, ws, htext, hts, hws, rfl⟩
    exact ⟨text, htext, ts, hts, ws, hws, rfl⟩

lemma sourceText_eq_ok_iff {raw text : List Char} :
    sourceText limit raw = .ok text ↔
      trim raw ≠ [] ∧ ((trim raw).length : Int) ≤ limit ∧ text = lowercase (trim raw) := by
  simp only [sourceText]
  split_ifs with hempty hlong
  · simp [List.isEmpty_iff.1 hempty]
  · simp [Int.not_le.2 hlong]
  · have hne : trim raw ≠ [] := fun h => hempty (by simp [h])
    simp [hne, Int.not_lt.1 hlong, eq_comm]

/-- An input has a token. -/
lemma ne_nil_of_sourceText {raw text : List Char} {ts : List Token}
    (h : sourceText limit raw = .ok text) (hts : Splits 0 text ts) : ts ≠ [] := by
  obtain ⟨hne, -, rfl⟩ := sourceText_eq_ok_iff.1 h
  obtain ⟨c, tail, hcs⟩ := List.exists_cons_of_ne_nil hne
  obtain ⟨d, tail', hlower, hblank⟩ := head_lowercase_not_blank (head_trim_not_blank hcs) tail
  rw [hcs, hlower] at hts
  exact hts.ne_nil hblank

/-- What a normal form was written from: tokens that are standard, one at least. -/
lemma tokens_of_normalize {raw c : List Char} (h : normalize limit raw = .ok c) :
    ∃ ts ws, Splits 0 (lowercase (trim raw)) ts ∧ normalTokens ts = .ok ws ∧ ws ≠ [] ∧
      (∀ w ∈ ws, Standard w.kind w.text) ∧ c = render ws := by
  obtain ⟨text, ts, ws, htext, hts, hws, rfl⟩ := normalize_eq_ok_iff.1 h
  have hsplits := tokenizeFrom_eq_ok_iff.1 hts
  have hne := ne_nil_of_sourceText htext hsplits
  obtain ⟨-, -, rfl⟩ := sourceText_eq_ok_iff.1 htext
  refine ⟨ts, ws, hsplits, hws, ?_, standard_normalTokens hsplits.lexeme hws, rfl⟩
  rintro rfl
  exact hne (List.length_eq_zero_iff.1 (Nat.le_zero.1 (length_le_of_normalTokens hws)))

lemma Standard.legible {ws : List Token} (h : ∀ w ∈ ws, Standard w.kind w.text) : Legible ws :=
  fun w hw => (h w hw).lexeme

/-- Nothing that is written in normal form has a capital letter. -/
lemma isSmall_render {ws : List Token} (h : ∀ w ∈ ws, Standard w.kind w.text) :
    ∀ c ∈ render ws, IsSmall c := by
  intro c hc
  rcases mem_render hc with rfl | ⟨w, hw, hc⟩
  · decide
  · have hread := (h w hw).settle_again (u := ⟨w.kind.asRead, w.text, 0⟩) rfl
    exact isSmall_of_known (t := ⟨w.kind.asRead, w.text, 0⟩) (h w hw).lexeme hread.1 c hc

/-- The text of a normal form is taken as it stands when it is an input itself. -/
lemma sourceText_render {ws : List Token} (h : ∀ w ∈ ws, Standard w.kind w.text) (hne : ws ≠ [])
    (hlen : ((render ws).length : Int) ≤ limit) : sourceText limit (render ws) = .ok (render ws) := by
  obtain ⟨w, ws, rfl⟩ := List.exists_cons_of_ne_nil hne
  have htrim := trim_render (Standard.legible h)
  have hnil : render (w :: ws) ≠ [] := by
    simp [render, (h w List.mem_cons_self).lexeme.ne_nil]
  rw [sourceText_eq_ok_iff, htrim]
  exact ⟨hnil, hlen, (lowercase_eq_self (isSmall_render h)).symm⟩

/-- The text of a normal form goes through the same steps as any input. -/
lemma normalize_render {us ws ws' : List Token} (h : ∀ w ∈ ws, Standard w.kind w.text)
    (hne : ws ≠ []) (hlen : ((render ws).length : Int) ≤ limit) (hus : Splits 0 (render ws) us)
    (hws' : normalTokens us = .ok ws') : normalize limit (render ws) = .ok (render ws') :=
  normalize_eq_ok_iff.2
    ⟨_, us, ws', sourceText_render h hne hlen, hus.tokenizeFrom_eq, hws', rfl⟩

/-! ## The text of a normal form, read and settled -/

/-- Two lists agree place by place in what follows from the shapes of their tokens. -/
lemma map_eq_of_shapes {α : Type} {f g : Token → α} {us ws : List Token}
    (hs : us.map shape = ws.map readShape)
    (h : ∀ w ∈ ws, ∀ u, u.shape = readShape w → f u = g w) : us.map f = ws.map g := by
  induction ws generalizing us with
  | nil => rw [List.map_eq_nil_iff.1 hs]; rfl
  | cons w ws ih =>
      obtain ⟨u, us, rfl, hu, hus⟩ := List.map_eq_cons_iff.1 hs
      rw [List.map_cons, List.map_cons, h w List.mem_cons_self u hu,
        ih hus fun v hv => h v (List.mem_cons_of_mem w hv)]

variable {us ws : List Token}

/-- The tokens of a normal form are known when they are read again. -/
lemma known_again (h : ∀ w ∈ ws, Standard w.kind w.text) (hs : us.map shape = ws.map readShape) :
    ∀ u ∈ us, Known u := by
  intro u hu
  have hmem : u.shape ∈ ws.map readShape := hs ▸ List.mem_map_of_mem hu
  obtain ⟨w, hw, hshape⟩ := List.mem_map.1 hmem
  exact ((h w hw).settle_again hshape.symm).1

/-- **The tokens of a normal form settle to the same texts** when they are read again and, but for
constants, to the same kinds. -/
lemma map_settle_again {α : Type} {f g : Token → α} (h : ∀ w ∈ ws, Standard w.kind w.text)
    (hs : us.map shape = ws.map readShape)
    (hfg : ∀ v w, v.kind = again w.kind → v.text = w.text → f v = g w) :
    (us.map settle).map f = ws.map g := by
  rw [List.map_map]
  refine map_eq_of_shapes hs fun w hw u hu => ?_
  obtain ⟨-, hkind, htext⟩ := (h w hw).settle_again hu
  exact hfg (settle u) w hkind htext

lemma side?_asRead (k : Kind) : side? k.asRead = side? k := by cases k <;> rfl

/-- Parentheses are balanced when they are read exactly if they were when they were written. -/
lemma balanced_again (hs : us.map shape = ws.map readShape) : Balanced 0 us ↔ Balanced 0 ws := by
  refine balanced_congr (map_eq_of_shapes hs fun w _ u hu => ?_) 0
  rw [show u.kind = w.kind.asRead from congrArg Prod.fst hu, side?_asRead]

/-- The token and how it is read, if it is that of a normal form. -/
def ReadFrom (w u : Token) : Prop := Standard w.kind w.text ∧ u.shape = readShape w

lemma ReadFrom.kind_eq {w u : Token} (h : ReadFrom w u) : w.kind.asRead = u.kind :=
  (Prod.mk.inj h.2).1.symm

lemma ReadFrom.text_eq {w u : Token} (h : ReadFrom w u) : u.text = w.text := (Prod.mk.inj h.2).2

/-- A normal form is read token by token. -/
lemma forall₂_readFrom (h : ∀ w ∈ ws, Standard w.kind w.text)
    (hs : us.map shape = ws.map readShape) : List.Forall₂ ReadFrom ws us := by
  have hshapes : List.Forall₂ Eq (us.map shape) (ws.map readShape) := by
    rw [List.forall₂_eq_eq_eq]
    exact hs
  refine (List.forall₂_and_left ws us).2 ⟨h, ?_⟩
  exact (List.forall₂_map_left_iff.1 (List.forall₂_map_right_iff.1 hshapes)).flip

end CurveSketch.NormalForm
