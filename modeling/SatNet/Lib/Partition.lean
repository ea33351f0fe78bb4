/-
Work divided among parties: every item is one party's, and the parts of all parties make up the whole. A part is
what a party keeps of the whole, so that it is enough to know who keeps what.
-/
import Mathlib.Data.List.Perm.Basic
import Mathlib.Data.List.Nodup
import Mathlib.Data.List.Range

namespace SatNet.Partition

variable {α β : Type}

/-- Every item is in the part of exactly one of the parties `0 … k - 1`. -/
def Once (k : Nat) (items : List α) (part : Nat → List α) : Prop := ∀ x ∈ items, ∃! i, i < k ∧ x ∈ part i

/-- The parts of all parties, one after the other. -/
def union (k : Nat) (part : Nat → List α) : List α := (List.range k).flatMap part

section Congr

variable {k : Nat} {items : List α} {part part' : Nat → List α}

theorem Once.congr (ho : Once k items part) (h : ∀ i < k, part' i = part i) : Once k items part' := by
  intro x hx
  obtain ⟨i, ⟨hi, hmem⟩, hu⟩ := ho x hx
  exact ⟨i, ⟨hi, by rw [h i hi]; exact hmem⟩, fun j ⟨hj, hm⟩ => hu j ⟨hj, by rw [← h j hj]; exact hm⟩⟩

theorem union_congr (h : ∀ i < k, part' i = part i) : union k part' = union k part :=
  List.flatMap_congr fun i hi => h i (List.mem_range.1 hi)

theorem union_map (f : α → β) (part : Nat → List α) : union k (fun i => (part i).map f) = (union k part).map f :=
  List.map_flatMap.symm

end Congr

theorem filter_range {k i : Nat} (keep : Nat → Bool) (hi : i < k ∧ keep i = true)
    (hu : ∀ j, j < k ∧ keep j = true → j = i) : (List.range k).filter keep = [i] := by
  rw [← List.perm_singleton, List.perm_ext_iff_of_nodup (List.nodup_range.filter _) (List.nodup_singleton i)]
  intro j
  rw [List.mem_filter, List.mem_range, List.mem_singleton]
  exact ⟨hu j, fun h => h ▸ hi⟩

/-- The parts that parties keep make up the whole if every item is kept by exactly one. -/
theorem union_filter {k : Nat} {mine : Nat → α → Bool} :
    ∀ {l : List α}, (∀ x ∈ l, ∃! i, i < k ∧ mine i x = true) → (union k fun i => l.filter (mine i)).Perm l
  | [], _ => by simp [union]
  | x :: l, h => by
    obtain ⟨i, hi, hu⟩ := h x (List.mem_cons_self ..)
    have hx : (List.range k).flatMap (fun i => if mine i x then [x] else []) = [x] := by
      have hfilter : ∀ r : List Nat, r.flatMap (fun i => if mine i x then [x] else []) =
          (r.filter fun i => mine i x).map fun _ => x := by
        intro r
        induction r with
        | nil => rfl
        | cons j r ih => cases hj : mine j x <;> simp [hj, ih]
      rw [hfilter, filter_range (fun i => mine i x) hi hu, List.map_singleton]
    have hsplit : (fun i => (x :: l).filter (mine i)) =
        fun i => (if mine i x then [x] else []) ++ l.filter (mine i) := by
      funext i
      cases hj : mine i x <;> simp [hj]
    have ih := union_filter fun y hy => h y (List.mem_cons_of_mem _ hy)
    unfold union at *
    rw [hsplit]
    refine (List.flatMap_append_perm _ _ _).symm.trans ?_
    rw [hx]
    exact ih.cons x

theorem once_filter {k : Nat} {mine : Nat → α → Bool} {l : List α} (h : ∀ x ∈ l, ∃! i, i < k ∧ mine i x = true) :
    Once k l fun i => l.filter (mine i) := by
  intro x hx
  simpa [List.mem_filter, hx] using h x hx

/-- Keeping some of the elements of a concatenation, the same choice for all of a block. -/
theorem flatMap_filter (f : α → List β) (keep : α → Bool) (keep' : β → Bool)
    (h : ∀ x, ∀ y ∈ f x, keep' y = keep x) : ∀ l : List α, (l.flatMap f).filter keep' = (l.filter keep).flatMap f
  | [] => rfl
  | x :: l => by
    have hx : (f x).filter keep' = if keep x then f x else [] := by
      rw [List.filter_congr (q := fun _ => keep x) (h x)]
      cases keep x <;> simp
    rw [List.flatMap_cons, List.filter_append, flatMap_filter f keep keep' h l, hx]
    cases hk : keep x <;> simp [hk]

end SatNet.Partition
