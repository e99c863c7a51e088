import CurveSketch.Proofs.Scalar
import CurveSketch.Scalar
import Mathlib.Data.List.Induction

/-!
# What is kept apart and what is dropped

Things are kept one after another, unless they are too near to one kept before them.

* `keepApartFrom_append` — what is kept of two lists: the second is thinned out with what is kept of
  the first in view.  The other results are read off it.
* `keepApart_sublist` — what is kept keeps its order.
* **`pairwise_keepApart`** — no two things that are kept are too near to each other.
* **`keepApart_append_cons`** — a thing is kept at its place, or it is too near to one that is kept
  of the things before it.
* **`length_le_keepApart`** — of things in order, with positions that are computed exactly, as many
  are kept as can be spread out at all.
-/

namespace CurveSketch

section Kept

variable {α β : Type} [Scalar α] {position : β → α} {distance : α}

lemma isNear_eq_true_iff {kept : List β} {x : α} :
    isNear position distance kept x = true ↔
      ∃ k ∈ kept, Scalar.distance (position k) x < distance := by
  simp [isNear]

lemma isNear_eq_false_iff {kept : List β} {x : α} :
    isNear position distance kept x = false ↔
      ∀ k ∈ kept, ¬ Scalar.distance (position k) x < distance := by
  simp [isNear]

/-- Only which things were kept matters, not in which order. -/
lemma keepApartFrom_congr {kept kept' : List β} (h : ∀ k, k ∈ kept ↔ k ∈ kept') (bs : List β) :
    keepApartFrom position distance kept bs = keepApartFrom position distance kept' bs := by
  induction bs generalizing kept kept' with
  | nil => rfl
  | cons b rest ih =>
      have hnear : isNear position distance kept (position b) =
          isNear position distance kept' (position b) := by
        rw [Bool.eq_iff_iff, isNear_eq_true_iff, isNear_eq_true_iff]
        exact exists_congr fun k => and_congr_left fun _ => h k
      have hcons : ∀ k, k ∈ b :: kept ↔ k ∈ b :: kept' := fun k => by
        rw [List.mem_cons, List.mem_cons, h k]
      rw [keepApartFrom, keepApartFrom, hnear, ih h, ih hcons]

/-- **What is kept of two lists.** -/
lemma keepApartFrom_append (kept as bs : List β) :
    keepApartFrom position distance kept (as ++ bs) =
      keepApartFrom position distance kept as ++
        keepApartFrom position distance
          (kept ++ keepApartFrom position distance kept as) bs := by
  induction as generalizing kept with
  | nil => simp [keepApartFrom]
  | cons a rest ih =>
      rw [List.cons_append, keepApartFrom, keepApartFrom]
      split_ifs
      · exact ih kept
      · rw [ih, List.cons_append]
        congr 2
        exact keepApartFrom_congr (fun k => by simp [or_left_comm]) bs

/-- Something is kept of one thing exactly if it is not too near. -/
lemma keepApartFrom_singleton (kept : List β) (b : β) :
    keepApartFrom position distance kept [b] =
      if isNear position distance kept (position b) then [] else [b] := by
  rw [keepApartFrom, keepApartFrom, keepApartFrom]

/-- What is kept keeps its order. -/
lemma keepApartFrom_sublist (kept bs : List β) :
    (keepApartFrom position distance kept bs).Sublist bs := by
  induction bs generalizing kept with
  | nil => exact .slnil
  | cons b rest ih =>
      rw [keepApartFrom]
      split_ifs
      · exact (ih _).cons b
      · exact (ih _).cons_cons b

lemma keepApart_sublist (bs : List β) : (keepApart position distance bs).Sublist bs :=
  keepApartFrom_sublist [] bs

/-- Of something, something is kept: nothing comes before the first thing. -/
lemma keepApart_ne_nil {bs : List β} (h : bs ≠ []) : keepApart position distance bs ≠ [] := by
  obtain ⟨b, rest, rfl⟩ := List.exists_cons_of_ne_nil h
  exact List.cons_ne_nil _ _

/-- **No two things that are kept are too near to each other.** -/
lemma pairwise_keepApart (position : β → α) (distance : α) (bs : List β) :
    (keepApart position distance bs).Pairwise fun a b =>
      ¬ Scalar.distance (position a) (position b) < distance := by
  induction bs using List.reverseRecOn with
  | nil => exact .nil
  | append_singleton as b ih =>
      rw [keepApart, keepApartFrom_append, keepApartFrom_singleton, List.nil_append]
      split_ifs with hnear
      · rwa [List.append_nil]
      · rw [Bool.not_eq_true, isNear_eq_false_iff] at hnear
        exact List.pairwise_append.2
          ⟨ih, List.pairwise_singleton _ b, fun a ha b' hb' => by
            rw [List.mem_singleton.1 hb']
            exact hnear a ha⟩

/-- **A thing is kept at its place, or it is too near to one that is kept of those before it.** -/
lemma keepApart_append_cons (position : β → α) (distance : α) (before : List β) (b : β)
    (after : List β) :
    ∃ later, later.Sublist after ∧
      (keepApart position distance (before ++ b :: after) =
          keepApart position distance before ++ b :: later ∨
        keepApart position distance (before ++ b :: after) =
            keepApart position distance before ++ later ∧
          ∃ k ∈ keepApart position distance before,
            Scalar.distance (position k) (position b) < distance) := by
  simp only [keepApart, keepApartFrom_append, List.nil_append]
  rw [keepApartFrom]
  split_ifs with hnear
  · exact ⟨_, keepApartFrom_sublist _ _, .inr ⟨rfl, isNear_eq_true_iff.1 hnear⟩⟩
  · exact ⟨_, keepApartFrom_sublist _ _, .inl rfl⟩

end Kept

/-! ## Exact positions -/

section Exact

variable {β : Type} {position : β → ℚ} {distance : ℚ}

/-- What is not too near to a position is not too near to one further to the left. -/
lemma not_near_of_le {p q r : ℚ} (hpq : p ≤ q) (hqr : q ≤ r) (h : ¬ |q - r| < distance) :
    ¬ |p - r| < distance := by
  rw [abs_sub_comm, abs_of_nonneg (by linarith)] at h ⊢
  linarith

/-- **No more things can be spread out than are kept.** -/
lemma length_le_keepApartFrom {kept bs apart : List β}
    (hordered : bs.Pairwise fun a b => position a ≤ position b) (hsub : apart.Sublist bs)
    (hapart : apart.Pairwise fun a b => ¬ |position a - position b| < distance)
    (hkept : ∀ k ∈ kept, ∀ a ∈ apart, ¬ |position k - position a| < distance) :
    apart.length ≤ (keepApartFrom position distance kept bs).length := by
  induction bs generalizing kept apart with
  | nil => rw [List.sublist_nil.1 hsub]; exact Nat.zero_le _
  | cons b rest ih =>
      have hrest := hordered.of_cons
      rw [keepApartFrom]
      split_ifs with hnear
      · -- `b` is near to something kept, so it is none of the things that are spread out
        obtain ⟨k, hk, hkb⟩ := isNear_eq_true_iff.1 hnear
        rw [Scalar.distance_rat] at hkb
        refine ih hrest ?_ hapart hkept
        rcases List.sublist_cons_iff.1 hsub with hsub | ⟨_, rfl, -⟩
        · exact hsub
        · exact absurd hkb (hkept k hk b List.mem_cons_self)
      · cases apart with
        | nil => exact Nat.zero_le _
        | cons a others =>
            -- `b` is kept in place of `a`, and what is not near to `a` lies still further from `b`
            obtain ⟨ha, hothers⟩ := List.pairwise_cons.1 hapart
            have hba : position b ≤ position a := by
              rcases List.mem_cons.1 (hsub.subset List.mem_cons_self) with rfl | hmem
              · exact le_rfl
              · exact List.rel_of_pairwise_cons hordered hmem
            refine Nat.succ_le_succ (ih hrest hsub.tail hothers fun k hk c hc => ?_)
            rcases List.mem_cons.1 hk with rfl | hk
            · exact not_near_of_le hba
                (List.rel_of_pairwise_cons (hordered.sublist hsub) hc) (ha c hc)
            · exact hkept k hk c (List.mem_cons_of_mem a hc)

/-- **As many are kept as can be spread out.** -/
lemma length_le_keepApart {bs apart : List β}
    (hordered : bs.Pairwise fun a b => position a ≤ position b) (hsub : apart.Sublist bs)
    (hapart : apart.Pairwise fun a b => ¬ |position a - position b| < distance) :
    apart.length ≤ (keepApart position distance bs).length :=
  length_le_keepApartFrom hordered hsub hapart fun _ hk => absurd hk List.not_mem_nil

end Exact

end CurveSketch
