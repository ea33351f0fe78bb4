/-
The occurrences of one list in another, and those of them that are found one behind the other from the left: each is
the first that starts where the one before it has ended or later.
-/
import Mathlib.Data.List.Infix

namespace SatNet.Occurrences

variable {α : Type} {d s : List α}

/-- `d` stands in `s` behind `i` elements. -/
def OccursAt (d s : List α) (i : Nat) : Prop := ∃ l r, s = l ++ (d ++ r) ∧ l.length = i

theorem occursAt_zero : OccursAt d s 0 ↔ d <+: s := by
  constructor
  · rintro ⟨l, r, rfl, hl⟩
    obtain rfl := List.length_eq_zero_iff.1 hl
    exact List.prefix_append d r
  · rintro ⟨r, rfl⟩
    exact ⟨[], r, rfl, rfl⟩

theorem occursAt_succ {a : α} {i : Nat} : OccursAt d (a :: s) (i + 1) ↔ OccursAt d s i := by
  constructor
  · rintro ⟨l, r, hs, hl⟩
    cases l with
    | nil => cases hl
    | cons b l =>
      obtain ⟨-, hs⟩ := List.cons.inj hs
      exact ⟨l, r, hs, Nat.succ.inj hl⟩
  · rintro ⟨l, r, rfl, rfl⟩
    exact ⟨a :: l, r, rfl, rfl⟩

theorem occursAt_append_left {l : List α} {i : Nat} : OccursAt d (l ++ s) (l.length + i) ↔ OccursAt d s i := by
  induction l with
  | nil => rw [List.nil_append, List.length_nil, Nat.zero_add]
  | cons a l ih => rw [List.cons_append, List.length_cons, Nat.succ_add, occursAt_succ, ih]

theorem infix_iff_occursAt : d <:+: s ↔ ∃ i, OccursAt d s i := by
  constructor
  · rintro ⟨l, r, rfl⟩
    exact ⟨l.length, l, r, List.append_assoc .., rfl⟩
  · rintro ⟨-, l, r, rfl, rfl⟩
    exact ⟨l, r, List.append_assoc ..⟩

/-- The position where `d` occurs first in `s`. -/
def FirstAt (d s : List α) (i : Nat) : Prop := OccursAt d s i ∧ ∀ j < i, ¬ OccursAt d s j

theorem firstAt_zero (h : d <+: s) : FirstAt d s 0 := ⟨occursAt_zero.2 h, fun j hj => absurd hj (Nat.not_lt_zero j)⟩

/-- In front of the first occurrence there is none. -/
theorem FirstAt.not_infix {l r : List α} (h : FirstAt d (l ++ (d ++ r)) l.length) (hd : d ≠ []) : ¬ d <:+: l := by
  rintro ⟨l', r', rfl⟩
  refine h.2 l'.length ?_ ⟨l', r' ++ (d ++ r), by simp only [List.append_assoc], rfl⟩
  have hpos := List.length_pos_iff.2 hd
  rw [List.length_append, List.length_append]
  omega

/-- The occurrences of `d` in `s` that a search from the left meets from `start` on, going on behind each one. -/
inductive LeftmostFrom (d s : List α) : Nat → List Nat → Prop where
  | done {start : Nat} (hnone : ∀ j, start ≤ j → ¬ OccursAt d s j) : LeftmostFrom d s start []
  | next {start i : Nat} {ps : List Nat} (hle : start ≤ i) (hocc : OccursAt d s i)
      (hfirst : ∀ j, start ≤ j → j < i → ¬ OccursAt d s j) (hrest : LeftmostFrom d s (i + d.length) ps) :
      LeftmostFrom d s start (i :: ps)

theorem LeftmostFrom.unique {start : Nat} {ps qs : List Nat} (hp : LeftmostFrom d s start ps)
    (hq : LeftmostFrom d s start qs) : ps = qs := by
  induction hp generalizing qs with
  | done hnone =>
    cases hq with
    | done => rfl
    | next hle hocc => exact absurd hocc (hnone _ hle)
  | next hle hocc hfirst _ ih =>
    cases hq with
    | done hnone => exact absurd hocc (hnone _ hle)
    | next hle' hocc' hfirst' hrest' =>
      rcases Nat.lt_trichotomy _ _ with hlt | heq | hgt
      · exact absurd hocc (hfirst' _ hle hlt)
      · subst heq
        rw [ih hrest']
      · exact absurd hocc' (hfirst _ hle' hgt)

end SatNet.Occurrences
