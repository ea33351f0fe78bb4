/-
The undirected graph of an accepted topology, over the node ids, and the one fact about its
distances that the routing tables rest on: two connected nodes are less than the number of nodes
apart.
-/
import SatNet.Ptop.Topology
import Mathlib.Combinatorics.SimpleGraph.Metric
import Mathlib.Tactic.Linarith

namespace SatNet.Ptop

/-- The undirected graph of the topology. -/
def TopologyPtop.graph (t : TopologyPtop) : SimpleGraph Nat :=
  SimpleGraph.fromRel fun a b => (a, b) ∈ t.undirectedEdges

namespace Accepted

variable {t : TopologyPtop}

theorem adj_iff (h : Accepted t) {a b : Nat} :
    t.graph.Adj a b ↔ (a, b) ∈ t.undirectedEdges ∨ (b, a) ∈ t.undirectedEdges := by
  unfold TopologyPtop.graph
  rw [SimpleGraph.fromRel_adj]
  constructor
  · exact And.right
  · intro hab
    refine ⟨?_, hab⟩
    rintro rfl
    rcases hab with he | he <;> exact absurd (h.edge _ he).1 (lt_irrefl _)

theorem adj_lt (h : Accepted t) {a b : Nat} (hab : t.graph.Adj a b) : a < t.numNodes ∧ b < t.numNodes := by
  rcases h.adj_iff.1 hab with he | he
  · have := h.edge _ he; exact ⟨by simp only at this; omega, this.2⟩
  · have := h.edge _ he; exact ⟨this.2, by simp only at this; omega⟩

theorem support_lt (h : Accepted t) {a b : Nat} (w : t.graph.Walk a b) (ha : a < t.numNodes) :
    ∀ x ∈ w.support, x < t.numNodes := by
  induction w with
  | nil => intro x hx; simp at hx; omega
  | cons hadj w ih =>
    intro x hx
    rw [SimpleGraph.Walk.support_cons, List.mem_cons] at hx
    rcases hx with rfl | hx
    · exact ha
    · exact ih (h.adj_lt hadj).2 x hx

theorem reachable_lt (h : Accepted t) {a b : Nat} (ha : a < t.numNodes) (hr : t.graph.Reachable a b) :
    b < t.numNodes := by
  obtain ⟨w⟩ := hr
  exact h.support_lt w ha b w.end_mem_support

/-- A shortest path visits no node twice, so it is shorter than there are nodes. -/
theorem dist_lt (h : Accepted t) {a b : Nat} (ha : a < t.numNodes) (hr : t.graph.Reachable a b) :
    t.graph.dist a b < t.numNodes := by
  obtain ⟨p, hp, hlen⟩ := hr.exists_path_of_dist
  have hsub : p.support.toFinset ⊆ Finset.range t.numNodes := by
    intro x hx
    rw [List.mem_toFinset] at hx
    exact Finset.mem_range.2 (h.support_lt p ha x hx)
  have hcard := Finset.card_le_card hsub
  rw [List.toFinset_card_of_nodup hp.support_nodup, Finset.card_range,
    SimpleGraph.Walk.length_support] at hcard
  omega

end Accepted

end SatNet.Ptop
