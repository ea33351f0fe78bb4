/-
Measuring a two-valued state over integer time: the number of unit steps of an interval that start
while the state is on. It is additive over adjacent intervals, and all or nothing of an interval on
which the state does not change. And how many of evenly spaced instants a window holds.
-/
import Mathlib.Data.Int.Interval
import Mathlib.Order.Interval.Finset.Basic
import Mathlib.Data.Nat.Count

namespace SatNet.Count

/-! ## The time a state is on -/

/-- How many instants of `[a, b)` the state `g` is on. The instance is named because it computes. -/
def count (g : Int → Bool) (a b : Int) : Int :=
  ((@Finset.Ico Int _ Int.instLocallyFiniteOrder a b).filter fun x => g x = true).card

variable {g g' : Int → Bool} {a b c : Int}

theorem count_self (g : Int → Bool) (a : Int) : count g a a = 0 := by simp [count]

theorem count_congr (h : ∀ x, a ≤ x → x < b → g' x = g x) : count g' a b = count g a b := by
  unfold count
  congr 2
  apply Finset.filter_congr
  intro x hx
  rw [Finset.mem_Ico] at hx
  rw [h x hx.1 hx.2]

theorem count_add (hab : a ≤ b) (hbc : b ≤ c) : count g a b + count g b c = count g a c := by
  unfold count
  rw [← Finset.Ico_union_Ico_eq_Ico hab hbc, Finset.filter_union, Finset.card_union_of_disjoint]
  · push_cast; rfl
  · exact Finset.disjoint_filter_filter (Finset.Ico_disjoint_Ico_consecutive a b c)

theorem count_on (h : a ≤ b) (hg : ∀ x, a ≤ x → x < b → g x = true) : count g a b = b - a := by
  unfold count
  rw [Finset.filter_true_of_mem fun x hx => hg x (Finset.mem_Ico.1 hx).1 (Finset.mem_Ico.1 hx).2, Int.card_Ico]
  omega

theorem count_off (hg : ∀ x, a ≤ x → x < b → g x = false) : count g a b = 0 := by
  unfold count
  rw [Finset.filter_false_of_mem fun x hx => ?_]
  · rfl
  · rw [hg x (Finset.mem_Ico.1 hx).1 (Finset.mem_Ico.1 hx).2]
    exact Bool.false_ne_true

theorem count_bounds (h : a ≤ b) : 0 ≤ count g a b ∧ count g a b ≤ b - a := by
  have hcard := Finset.card_filter_le (@Finset.Ico Int _ Int.instLocallyFiniteOrder a b) fun x => g x = true
  rw [Int.card_Ico] at hcard
  unfold count
  omega

/-! ## Evenly spaced instants -/

/-- The instants from `t` on among the first `n` of `s, s + d, s + 2d, ...` lie between `t` and the next one. -/
theorem spaced_from (s d t : Nat) : ∀ n, Nat.count (fun i => t ≤ s + i * d) n = 0 ∨
    Nat.count (fun i => t ≤ s + i * d) n * d + t ≤ s + n * d
  | 0 => .inl rfl
  | n + 1 => by
    rw [Nat.count_succ]
    split
    · rename_i hn
      right
      rcases spaced_from s d t n with h | h
      · rw [h, Nat.succ_mul n d]
        omega
      · rw [Nat.succ_mul, Nat.succ_mul]
        omega
    · rcases spaced_from s d t n with h | h
      · exact .inl h
      · right
        rw [Nat.succ_mul n d]
        omega

/-- A window holds at most one instant more than its length has gaps. -/
theorem spaced_window (s d : Nat) {t₁ t₂ : Nat} (ht : t₁ ≤ t₂) :
    ∀ n, Nat.count (fun i => t₁ ≤ s + i * d ∧ s + i * d ≤ t₂) n * d ≤ (t₂ - t₁) + d
  | 0 => by simp
  | n + 1 => by
    rw [Nat.count_succ]
    split
    · rename_i hn
      -- all earlier ones of the window are instants from `t₁` on
      have hle : Nat.count (fun i => t₁ ≤ s + i * d ∧ s + i * d ≤ t₂) n ≤ Nat.count (fun i => t₁ ≤ s + i * d) n :=
        Nat.count_mono_left fun _ _ h => h.1
      have hmul := Nat.mul_le_mul_right d hle
      rw [Nat.succ_mul]
      rcases spaced_from s d t₁ n with h | h
      · rw [h] at hmul
        omega
      · omega
    · exact spaced_window s d ht n

/-! ## Counters -/

theorem sum_set_succ : ∀ {l : List Nat} {k c : Nat}, l[k]? = some c → (l.set k (c + 1)).sum = l.sum + 1
  | x :: l, 0, c, h => by
    rw [List.getElem?_cons_zero, Option.some.injEq] at h
    subst h
    simp only [List.set_cons_zero, List.sum_cons]
    omega
  | x :: l, k + 1, c, h => by
    rw [List.getElem?_cons_succ] at h
    simp only [List.set_cons_succ, List.sum_cons, sum_set_succ h]
    omega

end SatNet.Count
