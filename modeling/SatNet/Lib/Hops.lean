/-
Going from node to node in hops: if every hop lowers a rank by one, the path ends where the rank is
zero after as many hops as the rank of its start and meets no node twice; and two paths along one
next-hop function from the same start agree as far as both go.
-/
import SatNet.Lib.Loop
import Mathlib.Data.List.Chain
import Mathlib.Data.List.Nodup

namespace SatNet.Hops

open SatNet.Loop

variable {V ε : Type}

/-! ## Following hops -/

section Follow

variable (arrived : V → Bool) (stuck : ε) (next : Nat → V → Except ε V)

/-- The nodes visited from `v` until one of them has arrived, where hop number `k` is made by `next k`;
`stuck` if that takes more hops than the fuel allows. -/
def follow : Nat → Nat → V → Except ε (List V)
  | 0, _, v => if arrived v then .ok [v] else .error stuck
  | fuel + 1, k, v =>
    if arrived v then .ok [v]
    else do
      let w ← next k v
      let path ← follow fuel (k + 1) w
      .ok (v :: path)

/-- A path on which the rank falls from node to node, down to a node that has arrived. -/
structure RankedPath (rank : V → Nat) (v : V) (path : List V) : Prop where
  length : path.length = rank v + 1
  head : path.head? = some v
  last : ∃ z, path.getLast? = some z ∧ arrived z = true
  falling : path.Pairwise fun a b => rank b < rank a
  le : ∀ x ∈ path, rank x ≤ rank v

variable {arrived stuck next}

theorem RankedPath.nodup {rank : V → Nat} {v : V} {path : List V} (h : RankedPath arrived rank v path) :
    path.Nodup := by
  apply h.falling.imp
  rintro a b hab rfl
  exact lt_irrefl _ hab

theorem RankedPath.single {rank : V → Nat} {v : V} (ha : arrived v = true) (h0 : rank v = 0) :
    RankedPath arrived rank v [v] :=
  ⟨by simp [h0], rfl, ⟨v, rfl, ha⟩, List.pairwise_singleton _ _, by simp⟩

theorem RankedPath.cons {rank : V → Nat} {v w : V} {path : List V} (h : RankedPath arrived rank w path)
    (hr : rank w + 1 = rank v) : RankedPath arrived rank v (v :: path) := by
  obtain ⟨z, hz, hza⟩ := h.last
  refine ⟨by rw [List.length_cons, h.length, hr], rfl, ⟨z, ?_, hza⟩,
    List.pairwise_cons.2 ⟨fun x hx => ?_, h.falling⟩, fun x hx => ?_⟩
  · rw [List.getLast?_cons, hz]; rfl
  · have := h.le x hx; omega
  · rcases List.mem_cons.1 hx with rfl | hx
    · exact le_rfl
    · have := h.le x hx; omega

/-- On nodes that satisfy `P`, let the rank be zero exactly where the packet has arrived, and let every
other hop be made and lower the rank by one. Then enough fuel gives a ranked path. -/
theorem follow_ranked (P : V → Prop) (rank : V → Nat) (h0 : ∀ v, P v → (arrived v = true ↔ rank v = 0))
    (hnext : ∀ k v, P v → arrived v = false → ∃ w, next k v = .ok w ∧ P w ∧ rank w + 1 = rank v) :
    ∀ (fuel k : Nat) (v : V), P v → rank v ≤ fuel →
      ∃ path, follow arrived stuck next fuel k v = .ok path ∧ RankedPath arrived rank v path
  | 0, k, v, hp, hf => by
    have ha := (h0 v hp).2 (by omega)
    exact ⟨[v], by rw [follow, if_pos ha], .single ha (by omega)⟩
  | fuel + 1, k, v, hp, hf => by
    cases ha : arrived v with
    | true => exact ⟨[v], by rw [follow, if_pos ha], .single ha ((h0 v hp).1 ha)⟩
    | false =>
      obtain ⟨w, hw, hpw, hr⟩ := hnext k v hp ha
      obtain ⟨path, hpath, hranked⟩ := follow_ranked P rank h0 hnext fuel (k + 1) w hpw (by omega)
      refine ⟨v :: path, ?_, hranked.cons hr⟩
      rw [follow, if_neg (by simp [ha]), hw, ok_bind, hpath, ok_bind]

end Follow

/-! ## Paths of a function -/

section Paths

variable (next : V → Option V)

/-- Every node of the path but the last is followed by its next hop. -/
def Along (path : List V) : Prop := path.IsChain fun v w => next v = some w

variable {next}

/-- Two paths from one start: one of them is the beginning of the other. -/
theorem Along.prefix_or_prefix : ∀ {p q : List V}, Along next p → Along next q → p.head? = q.head? →
    p <+: q ∨ q <+: p
  | [], q, _, _, _ => .inl (List.nil_prefix)
  | p, [], _, _, _ => .inr (List.nil_prefix)
  | [v], w :: q, _, _, h => by
    cases h
    exact .inl (by simp)
  | v :: v' :: p, [w], _, _, h => by
    cases h
    exact .inr (by simp)
  | v :: v' :: p, w :: w' :: q, hp, hq, h => by
    cases h
    have hp' := List.isChain_cons_cons.1 hp
    have hq' := List.isChain_cons_cons.1 hq
    have heq : v' = w' := Option.some.inj (hp'.1.symm.trans hq'.1)
    subst heq
    rcases Along.prefix_or_prefix hp'.2 hq'.2 rfl with hpre | hpre
    · exact .inl ((List.prefix_cons_inj v).2 hpre)
    · exact .inr ((List.prefix_cons_inj v).2 hpre)

/-- A path cannot go on where there is no next hop. -/
theorem Along.eq_of_prefix {p q : List V} {z : V} (hq : Along next q) (hpre : p <+: q)
    (hlast : p.getLast? = some z) (hz : next z = none) : p = q := by
  obtain ⟨r, rfl⟩ := hpre
  cases r with
  | nil => rw [List.append_nil]
  | cons w r =>
    have hstep := (List.isChain_append.1 hq).2.2 z hlast w rfl
    rw [hz] at hstep; cases hstep

/-- Two paths from one start that both ended are the same. -/
theorem Along.eq_of_ended {p q : List V} {y z : V} (hp : Along next p) (hq : Along next q)
    (h : p.head? = q.head?) (hy : p.getLast? = some y) (hny : next y = none) (hz : q.getLast? = some z)
    (hnz : next z = none) : p = q := by
  rcases hp.prefix_or_prefix hq h with hpre | hpre
  · exact hq.eq_of_prefix hpre hy hny
  · exact (hp.eq_of_prefix hpre hz hnz).symm

theorem Along.concat {p : List V} {v w : V} (hp : Along next p) (hlast : p.getLast? = some v)
    (hw : next v = some w) : Along next (p ++ [w]) := by
  apply List.isChain_append.2
  refine ⟨hp, List.isChain_singleton w, ?_⟩
  intro x hx y hy
  rw [hlast] at hx
  cases hx; cases hy
  exact hw

end Paths

end SatNet.Hops
