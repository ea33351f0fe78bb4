/-
The binary search of `std::lower_bound` over a list that a predicate splits into a front and a back: it
ends at the number of elements in the front. And how many elements of an increasing list lie below a bound,
as the bound grows.
-/
import Mathlib.Data.List.Nodup
import Mathlib.Order.Basic

namespace SatNet.LowerBound

/-! ## Lists that a predicate splits -/

section Search

variable {α : Type} {p : α → Bool}

/-- The predicate holds on a front of the list and nowhere behind it. -/
def Split (p : α → Bool) (l : List α) : Prop := l.Pairwise fun x y => p y → p x

theorem countP_eq_zero {l : List α} {a : α} (h : Split p (a :: l)) (ha : ¬ p a) : l.countP p = 0 := by
  rw [List.countP_eq_zero]
  intro x hx hpx
  exact ha ((List.pairwise_cons.1 h).1 x hx hpx)

/-- An element is in the front when its index is below the number of elements there. -/
theorem sat_iff {l : List α} (h : Split p l) {i : Nat} {x : α} (hx : l[i]? = some x) : p x ↔ i < l.countP p := by
  induction l generalizing i with
  | nil => cases hx
  | cons a l ih =>
    have hl : Split p l := (List.pairwise_cons.1 h).2
    by_cases ha : p a
    · rw [List.countP_cons_of_pos ha]
      cases i with
      | zero =>
        cases hx
        simp [ha]
      | succ i =>
        rw [List.getElem?_cons_succ] at hx
        rw [ih hl hx]
        omega
    · rw [List.countP_cons_of_neg ha, countP_eq_zero h ha]
      refine ⟨fun hpx => absurd ?_ ha, nofun⟩
      cases i with
      | zero =>
        cases hx
        exact hpx
      | succ i =>
        rw [List.getElem?_cons_succ] at hx
        exact (List.pairwise_cons.1 h).1 x (List.mem_of_getElem? hx) hpx

/-- The loop of `std::lower_bound` over the `len` elements from `first` on; `p` says of an element that it is
less than the searched value. -/
def search (p : α → Bool) (l : List α) (first len : Nat) : Nat :=
  if len = 0 then first
  else match l[first + len / 2]? with
    | some x =>
      if p x then search p l (first + len / 2 + 1) (len - len / 2 - 1)
      else search p l first (len / 2)
    | none => first
termination_by len

/-- `std::lower_bound`, as the distance of the iterator from the beginning. -/
def lowerBound (p : α → Bool) (l : List α) : Nat := search p l 0 l.length

theorem search_eq {l : List α} (h : Split p l) (first len : Nat) (hlen : first + len ≤ l.length)
    (hle : first ≤ l.countP p) (hge : l.countP p ≤ first + len) : search p l first len = l.countP p := by
  induction len using Nat.strongRecOn generalizing first with
  | ind len ih =>
    unfold search
    split
    · omega
    · rename_i hpos
      have hx : l[first + len / 2]? = some l[first + len / 2] := List.getElem?_eq_getElem (by omega)
      have hsat := sat_iff h hx
      rw [hx]
      simp only
      split
      · rename_i hp
        have hlt := hsat.1 hp
        exact ih _ (by omega) _ (by omega) (by omega) (by omega)
      · rename_i hp
        have hlt := hsat.not.1 hp
        exact ih _ (by omega) _ (by omega) hle (by omega)

/-- The search ends behind the front. -/
theorem lowerBound_eq {l : List α} (h : Split p l) : lowerBound p l = l.countP p :=
  search_eq h 0 l.length (by omega) (Nat.zero_le _) (by rw [Nat.zero_add]; exact List.countP_le_length)

end Search

/-! ## Elements below a bound -/

/-- How many elements of the list are less than `d`. -/
def below (v : List Nat) (d : Nat) : Nat := v.countP (· < d)

section Below

variable {v : List Nat}

/-- One step of the bound passes its element, if the list has it. -/
theorem below_succ (h : v.Nodup) (d : Nat) : below v (d + 1) = below v d + if d ∈ v then 1 else 0 := by
  induction v with
  | nil => rfl
  | cons a v ih =>
    obtain ⟨ha, hv⟩ := List.nodup_cons.1 h
    have ih := ih hv
    unfold below at ih ⊢
    rw [List.countP_cons, List.countP_cons, ih]
    by_cases hd : a = d
    · subst hd
      simp [ha]
    · have hmem : d ∈ a :: v ↔ d ∈ v := by
        rw [List.mem_cons]
        exact or_iff_right (Ne.symm hd)
      have hlt : a < d + 1 ↔ a < d := by omega
      simp only [hmem, hlt]
      omega

theorem below_mono {d e : Nat} (h : d ≤ e) : below v d ≤ below v e := by
  apply List.countP_mono_left
  intro x _ hx
  simp only [decide_eq_true_eq] at hx ⊢
  omega

/-- A bound that grows by `k` passes `k` elements at most. -/
theorem below_add_le (h : v.Nodup) (d : Nat) : ∀ k, below v (d + k) ≤ below v d + k
  | 0 => Nat.le_refl _
  | k + 1 => by
    have ih := below_add_le h d k
    rw [← Nat.add_assoc, below_succ h]
    split <;> omega

/-- It passes none when the list has nothing between the two bounds. -/
theorem below_add_eq_iff (h : v.Nodup) (d : Nat) : ∀ k, below v (d + k) = below v d ↔ ∀ e ∈ v, d ≤ e → d + k ≤ e
  | 0 => by simp
  | k + 1 => by
    have ih := below_add_eq_iff h d k
    have hmono := @below_mono v d (d + k) (by omega)
    rw [← Nat.add_assoc, below_succ h]
    constructor
    · intro heq e he hde
      split at heq
      · omega
      · rename_i hk
        have hle := ih.1 heq e he hde
        have hne : d + k ≠ e := by
          rintro rfl
          exact hk he
        omega
    · intro hno
      rw [if_neg fun hk => by have := hno _ hk (by omega); omega, Nat.add_zero]
      apply ih.2
      intro e he hde
      have := hno e he hde
      omega

end Below

end SatNet.LowerBound
