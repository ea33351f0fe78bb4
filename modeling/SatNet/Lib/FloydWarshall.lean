/-
Floyd–Warshall on a matrix of integers with a finite value `inf` standing for "no walk", updated in
place. Soundness: an entry is `inf` or the length of a walk, whatever the order of the steps.
Completeness: after the rounds of a list `ks` of vertices, an entry is at most the length of every
walk whose inner vertices are in `ks`. Both hold of every single step, so that the in-place updates
within a round need no argument of their own.
-/
import Mathlib.Algebra.Order.Ring.Int
import Mathlib.Data.Int.Order.Basic
import Mathlib.Order.Basic
import Mathlib.Tactic.Linarith

namespace SatNet.FloydWarshall

variable {V : Type} [DecidableEq V]

/-! ## The algorithm -/

/-- One step: the way over `k` replaces the entry at `(i, j)` when it is shorter. -/
def relax (k i j : V) (D : V → V → Int) : V → V → Int :=
  if D i j > D i k + D k j then fun a b => if a = i ∧ b = j then D i k + D k j else D a b else D

/-- The round of `k`: every pair once, the rows in order. -/
def round (vs : List V) (k : V) (D : V → V → Int) : V → V → Int :=
  vs.foldl (fun D i => vs.foldl (fun D j => relax k i j D) D) D

def run (vs : List V) (D : V → V → Int) : V → V → Int := vs.foldl (fun D k => round vs k D) D

/-! ## Entries only go down -/

theorem relax_le (k i j : V) (D : V → V → Int) : relax k i j D ≤ D := by
  intro a b
  unfold relax
  split
  · simp only
    split
    · rename_i h hab; obtain ⟨rfl, rfl⟩ := hab; exact le_of_lt h
    · exact le_refl _
  · exact le_refl _

theorem relax_entry (k i j : V) (D : V → V → Int) : relax k i j D i j ≤ D i k + D k j := by
  unfold relax
  split
  · simp
  · rename_i h; exact not_lt.1 h

theorem foldl_le {α β : Type} [Preorder β] (f : β → α → β) (hf : ∀ D a, f D a ≤ D) :
    ∀ (l : List α) (D : β), l.foldl f D ≤ D
  | [], _ => le_refl _
  | a :: l, D => le_trans (foldl_le f hf l (f D a)) (hf D a)

/-- A fold of lowering steps is below the step of any of its elements, taken somewhere on the way. -/
theorem foldl_le_step {α β : Type} [Preorder β] (f : β → α → β) (hf : ∀ D a, f D a ≤ D) {x : α} :
    ∀ (l : List α) (D : β), x ∈ l → ∃ D' ≤ D, l.foldl f D ≤ f D' x
  | a :: l, D, hx => by
    rcases List.mem_cons.1 hx with rfl | hx
    · exact ⟨D, le_refl _, foldl_le f hf l (f D x)⟩
    · obtain ⟨D', h₁, h₂⟩ := foldl_le_step f hf l (f D a) hx
      exact ⟨D', le_trans h₁ (hf D a), h₂⟩

theorem row_le (vs : List V) (k i : V) (D : V → V → Int) : vs.foldl (fun D j => relax k i j D) D ≤ D :=
  foldl_le _ (fun D j => relax_le k i j D) vs D

theorem round_le (vs : List V) (k : V) (D : V → V → Int) : round vs k D ≤ D :=
  foldl_le _ (fun D i => row_le vs k i D) vs D

/-- After the round of `k` every entry is at most the way over `k` before it: the entries read on
the way have only gone down since. -/
theorem round_entry (vs : List V) (k : V) (D : V → V → Int) {i j : V} (hi : i ∈ vs) (hj : j ∈ vs) :
    round vs k D i j ≤ D i k + D k j := by
  obtain ⟨D₁, h₁, hr⟩ := foldl_le_step _ (fun D i => row_le vs k i D) vs D hi
  obtain ⟨D₂, h₂, hs⟩ := foldl_le_step _ (fun D j => relax_le k i j D) vs D₁ hj
  calc round vs k D i j ≤ vs.foldl (fun D j => relax k i j D) D₁ i j := hr i j
    _ ≤ relax k i j D₂ i j := hs i j
    _ ≤ D₂ i k + D₂ k j := relax_entry k i j D₂
    _ ≤ D i k + D k j := add_le_add (le_trans (h₂ i k) (h₁ i k)) (le_trans (h₂ k j) (h₁ k j))

/-! ## Soundness -/

section Sound

variable (R : V → V → Nat → Prop) (inf : Int)

/-- Every entry lies in `[0, inf]`, and one below `inf` is a length that `R` allows. -/
structure Sound (D : V → V → Int) : Prop where
  nonneg : ∀ i j, 0 ≤ D i j
  le_inf : ∀ i j, D i j ≤ inf
  attained : ∀ i j, D i j < inf → ∃ l : Nat, D i j = l ∧ R i j l

variable {R inf}

theorem Sound.relax (hR : ∀ {i k j l m}, R i k l → R k j m → R i j (l + m)) {D : V → V → Int}
    (h : Sound R inf D) (k i j : V) : Sound R inf (relax k i j D) := by
  refine ⟨fun a b => ?_, fun a b => le_trans (relax_le k i j D a b) (h.le_inf a b), fun a b => ?_⟩
  · unfold FloydWarshall.relax
    split
    · simp only
      split
      · exact add_nonneg (h.nonneg _ _) (h.nonneg _ _)
      · exact h.nonneg a b
    · exact h.nonneg a b
  · unfold FloydWarshall.relax
    split
    · rename_i hlt
      simp only
      split
      · rename_i hab
        obtain ⟨rfl, rfl⟩ := hab
        intro hs
        -- both summands are below `inf`, so both are lengths of walks
        have h₁ := h.nonneg a k
        have h₂ := h.nonneg k b
        obtain ⟨l, hl, hrl⟩ := h.attained a k (by omega)
        obtain ⟨m, hm, hrm⟩ := h.attained k b (by omega)
        exact ⟨l + m, by rw [hl, hm]; push_cast; rfl, hR hrl hrm⟩
      · exact h.attained a b
    · exact h.attained a b

theorem Sound.run (hR : ∀ {i k j l m}, R i k l → R k j m → R i j (l + m)) {D : V → V → Int}
    (h : Sound R inf D) (vs : List V) : Sound R inf (run vs D) := by
  refine List.foldlRecOn (motive := Sound R inf) vs _ h fun D h k _ => ?_
  refine List.foldlRecOn (motive := Sound R inf) vs _ h fun D h i _ => ?_
  exact List.foldlRecOn (motive := Sound R inf) vs _ h fun D h j _ => h.relax hR k i j

end Sound

/-! ## Completeness -/

section Complete

variable (adj : V → V → Prop)

/-- A walk of a given length whose inner vertices are in `S`. -/
inductive Thru (S : List V) : V → V → Nat → Prop
  | refl (i : V) : Thru S i i 0
  | edge {i j : V} : adj i j → Thru S i j 1
  | step {i m j : V} {l : Nat} : adj i m → m ∈ S → Thru S m j l → Thru S i j (l + 1)

variable {adj}

omit [DecidableEq V] in
/-- A walk through `k :: ks` is one through `ks`, or goes to `k` and on from `k` through `ks`. -/
theorem Thru.split {k : V} {ks : List V} {i j : V} {l : Nat} (h : Thru adj (k :: ks) i j l) :
    Thru adj ks i j l ∨ ∃ a b, Thru adj ks i k a ∧ Thru adj ks k j b ∧ a + b ≤ l := by
  induction h with
  | refl i => exact .inl (.refl i)
  | edge h => exact .inl (.edge h)
  | @step i m j l ha hm _ ih =>
    rcases List.mem_cons.1 hm with rfl | hm
    · rcases ih with h | ⟨a, b, _, hb, hab⟩
      · exact .inr ⟨1, l, .edge ha, h, by omega⟩
      · exact .inr ⟨1, b, .edge ha, hb, by omega⟩
    · rcases ih with h | ⟨a, b, h₁, h₂, hab⟩
      · exact .inl (.step ha hm h)
      · exact .inr ⟨a + 1, b, .step ha hm h₁, h₂, by omega⟩

/-- The entries of `vs` are at most the lengths of the walks through `ks`. -/
def Complete (adj : V → V → Prop) (vs ks : List V) (D : V → V → Int) : Prop :=
  ∀ i ∈ vs, ∀ j ∈ vs, ∀ l, Thru adj ks i j l → D i j ≤ l

theorem complete_round {vs ks : List V} {D : V → V → Int} {k : V} (hk : k ∈ vs)
    (h : Complete adj vs ks D) : Complete adj vs (k :: ks) (round vs k D) := by
  intro i hi j hj l hw
  rcases hw.split with hw | ⟨a, b, ha, hb, hab⟩
  · exact le_trans (round_le vs k D i j) (h i hi j hj l hw)
  · have h₁ := h i hi k hk a ha
    have h₂ := h k hk j hj b hb
    have := round_entry vs k D hi hj
    omega

theorem complete_rounds {vs : List V} : ∀ (l ks : List V) (D : V → V → Int), (∀ k ∈ l, k ∈ vs) →
    Complete adj vs ks D → Complete adj vs (l.reverse ++ ks) (l.foldl (fun D k => round vs k D) D)
  | [], _, _, _, h => h
  | k :: l, ks, D, hl, h => by
    have := complete_rounds l (k :: ks) (round vs k D) (fun x hx => hl x (List.mem_cons_of_mem _ hx))
      (complete_round (hl k (List.mem_cons_self ..)) h)
    simpa using this

/-- Over all its vertices Floyd–Warshall finds an entry at most the length of every walk. -/
theorem complete_run {vs : List V} {D : V → V → Int} (hd : ∀ i ∈ vs, D i i ≤ 0)
    (he : ∀ i ∈ vs, ∀ j ∈ vs, adj i j → D i j ≤ 1) : Complete adj vs vs.reverse (run vs D) := by
  have h0 : Complete adj vs [] D := by
    intro i hi j hj l hw
    cases hw with
    | refl => exact hd i hi
    | edge ha => exact he i hi j hj ha
    | step _ hm _ => cases hm
  simpa [run] using complete_rounds vs [] D (fun _ h => h) h0

end Complete

end SatNet.FloydWarshall
