/-
`ArbiterPtop`: the table from neighbour to interface that its constructor builds, and `Decide`,
which turns the next node that a routing strategy selects into an interface. For every selected node
the result is the interface towards exactly that neighbour, no route, or an exception.
-/
import SatNet.Lib.Call
import SatNet.Ptop.Links
import SatNet.Ptop.Graph

namespace SatNet.Ptop

open SatNet.ExpUtil SatNet.Loop

/-! ## The arbiter -/

structure ArbiterResult where
  failed : Bool
  outIfIdx : Nat
  gatewayIpAddress : Nat
  deriving Repr, DecidableEq

structure ArbiterPtop where
  topology : TopologyPtop
  nodeId : Nat
  neighborNodeIdToIfIdx : List Nat
  deriving Repr, DecidableEq

/-- One round of the loop over the edges in the constructor. -/
def saveInterface (t : TopologyPtop) (net : Links) (nodeId i : Nat) (table : List Nat) : Res (List Nat) := do
  let edge ← index t.undirectedEdges i
  if edge.1 = nodeId then do
    let idxs ← index net.interfaceIdxsForEdges i
    setIndex table edge.2 idxs.1
  else if edge.2 = nodeId then do
    let idxs ← index net.interfaceIdxsForEdges i
    setIndex table edge.1 idxs.2
  else .ok table

/-- The constructor. -/
def arbiterPtop (t : TopologyPtop) (net : Links) (nodeId : Nat) : Res ArbiterPtop := do
  let table ← forRange t.numUndirectedEdges (saveInterface t net nodeId) (List.replicate t.numNodes 0)
  .ok ⟨t, nodeId, table⟩

/-- The part of `Decide` after the next node was selected. -/
def ArbiterPtop.result (a : ArbiterPtop) (selectedNodeId : Int) : Res ArbiterResult :=
  if selectedNodeId ≠ -1 then
    if selectedNodeId < 0 ∨ selectedNodeId ≥ a.topology.numNodes then
      .error (.runtimeError s!"The selected next node {selectedNodeId} is out of node id range of [0, {a.topology.numNodes}).")
    else do
      let selectedIfIdx ← index a.neighborNodeIdToIfIdx selectedNodeId.toNat
      if selectedIfIdx = 0 then
        .error (.runtimeError s!"The selected next node {selectedNodeId} is not a neighbor of node {a.nodeId}.")
      else .ok ⟨false, selectedIfIdx, 0⟩
  else .ok ⟨true, 0, 0⟩

/-- `Decide`, for a strategy with a state of its own, which gets the neighbours of the node. -/
def ArbiterPtop.decide {σ : Type} (a : ArbiterPtop) (topologyPtopDecide : List Nat → Call Fail σ Int) :
    Call Fail σ ArbiterResult := do
  let neighborNodeIds ← Call.lift (index a.topology.adjacencyList a.nodeId)
  let selectedNodeId ← topologyPtopDecide neighborNodeIds
  Call.lift (a.result selectedNodeId)

/-! ## The table -/

/-- The table of node `u` holds for every neighbour the interface of the link to it, and 0 for every
other node. -/
structure NeighborTable (t : TopologyPtop) (net : Links) (u : Nat) (table : List Nat) : Prop where
  length : table.length = t.numNodes
  neighbor : ∀ v, t.graph.Adj u v → ∃ i j k : Nat, table[v]? = some i ∧ 0 < i ∧
    (t.undirectedEdges[k]? = some (u, v) ∨ t.undirectedEdges[k]? = some (v, u)) ∧
    net.netDevice u i = .ok (.pointToPoint k) ∧ net.transmit u i = .ok (v, j)
  other : ∀ v < t.numNodes, ¬ t.graph.Adj u v → table[v]? = some 0

/-- The interface index `x` is that of `u` on its link with `v`. -/
def OwnSide (e : Edge) (idxs : Nat × Nat) (u v x : Nat) : Prop :=
  e = (u, v) ∧ x = idxs.1 ∨ e = (v, u) ∧ x = idxs.2

/-- What the loop of the constructor keeps after `m` edges. -/
structure TableInv (t : TopologyPtop) (net : Links) (u m : Nat) (table : List Nat) : Prop where
  length : table.length = t.numNodes
  entry : ∀ v < t.numNodes,
    (table[v]? = some 0 ∧ ∀ k < m, ∀ e : Edge, t.undirectedEdges[k]? = some e → e ≠ (u, v) ∧ e ≠ (v, u)) ∨
    ∃ (k : Nat) (e : Edge) (idxs : Nat × Nat) (x : Nat), t.undirectedEdges[k]? = some e ∧
      net.interfaceIdxsForEdges[k]? = some idxs ∧
      OwnSide e idxs u v x ∧ table[v]? = some x

section Table

variable {t : TopologyPtop} {net : Links} {u : Nat}

theorem tableInv_init : TableInv t net u 0 (List.replicate t.numNodes 0) := by
  constructor
  · exact List.length_replicate
  · intro v hv
    left
    refine ⟨?_, nofun⟩
    rw [List.getElem?_replicate, if_pos hv]

/-- Writing the own side of edge `m` for the node at its other end. -/
theorem TableInv.set {m : Nat} {table : List Nat} (h : TableInv t net u m table) {e : Edge} {idxs : Nat × Nat}
    {v x : Nat} (he : t.undirectedEdges[m]? = some e) (hi : net.interfaceIdxsForEdges[m]? = some idxs)
    (hx : OwnSide e idxs u v x) (hother : ∀ w, w ≠ v → e ≠ (u, w) ∧ e ≠ (w, u)) :
    TableInv t net u (m + 1) (table.set v x) := by
  constructor
  · simpa using h.length
  · intro w hw
    by_cases hwv : v = w
    · subst hwv
      exact .inr ⟨m, e, idxs, x, he, hi, hx, List.getElem?_set_self (by rw [h.length]; exact hw)⟩
    · rw [List.getElem?_set_ne hwv]
      rcases h.entry w hw with ⟨h0, hno⟩ | hsome
      · left
        refine ⟨h0, ?_⟩
        intro k hk e' he'
        rcases Nat.lt_succ_iff_lt_or_eq.1 hk with hk | rfl
        · exact hno k hk e' he'
        · rw [he] at he'; cases he'
          exact hother w (Ne.symm hwv)
      · exact .inr hsome

theorem saveInterface_inv (h : Accepted t) (hl : LinksInv t.numNodes t.undirectedEdges net) {m : Nat}
    (hm : m < t.numUndirectedEdges) {table : List Nat} (hi : TableInv t net u m table) :
    ∃ table', saveInterface t net u m table = .ok table' ∧ TableInv t net u (m + 1) table' := by
  rw [← h.length] at hm
  obtain ⟨⟨a, b⟩, hm'⟩ : ∃ e, t.undirectedEdges[m]? = some e := ⟨_, List.getElem?_eq_getElem hm⟩
  obtain ⟨hab, hb⟩ := h.edge (a, b) (List.mem_of_getElem? hm')
  obtain ⟨i, j, hidx, -⟩ := hl.edge m a b hm'
  simp only at hab hb
  unfold saveInterface
  rw [index_ok.2 hm', ok_bind]
  simp only [index_ok.2 hidx, ok_bind]
  split
  · rename_i hau
    subst hau
    refine ⟨table.set b i, by unfold setIndex; rw [if_pos (by rw [hi.length]; exact hb)],
      hi.set hm' hidx (.inl ⟨rfl, rfl⟩) fun w hw => ?_⟩
    simp only [ne_eq, Prod.mk.injEq, not_and]
    constructor
    · intro _; exact Ne.symm hw
    · intro _; omega
  · rename_i hau
    split
    · rename_i hbu
      subst hbu
      refine ⟨table.set a j, by unfold setIndex; rw [if_pos (by rw [hi.length]; omega)],
        hi.set hm' hidx (.inr ⟨rfl, rfl⟩) fun w hw => ?_⟩
      simp only [ne_eq, Prod.mk.injEq, not_and]
      constructor
      · intro hw'; exact absurd hw' hau
      · intro hw'; exact absurd hw'.symm hw
    · rename_i hbu
      refine ⟨table, rfl, hi.length, ?_⟩
      intro v hv
      apply (hi.entry v hv).imp_left
      rintro ⟨h0, hno⟩
      refine ⟨h0, ?_⟩
      intro k hk e he
      rcases Nat.lt_succ_iff_lt_or_eq.1 hk with hk | rfl
      · exact hno k hk e he
      · rw [hm'] at he; cases he
        simp only [ne_eq, Prod.mk.injEq, not_and]
        constructor
        · intro hw; exact absurd hw hau
        · intro _ hw; exact hbu hw

/-- The constructor ends, with the table of the node. -/
theorem arbiterPtop_ok (h : Accepted t) (hl : LinksInv t.numNodes t.undirectedEdges net) (u : Nat) :
    ∃ table, arbiterPtop t net u = .ok ⟨t, u, table⟩ ∧ NeighborTable t net u table := by
  obtain ⟨table, hrun, hi⟩ := forRange_inv (TableInv t net u) (saveInterface t net u) t.numUndirectedEdges _
    tableInv_init fun m hm table hi => saveInterface_inv h hl hm hi
  refine ⟨table, by unfold arbiterPtop; rw [hrun, ok_bind], hi.length, fun v hadj => ?_, fun v hv hno => ?_⟩
  · have hv := (h.adj_lt hadj).2
    have hne : u ≠ v := hadj.ne
    rcases hi.entry v hv with ⟨-, hno⟩ | ⟨k, e, idxs, x, hk, hidx, hx, hentry⟩
    · exfalso
      rcases h.adj_iff.1 hadj with hm | hm <;> obtain ⟨k, hk, he⟩ := List.getElem_of_mem hm
      · exact (hno k (h.length ▸ hk) _ (by rw [List.getElem?_eq_getElem hk])).1 he
      · exact (hno k (h.length ▸ hk) _ (by rw [List.getElem?_eq_getElem hk])).2 he
    · rcases hx with ⟨rfl, rfl⟩ | ⟨rfl, rfl⟩
      · obtain ⟨i, j, hidx', hi, -, hdev, -, htr, -⟩ := hl.transmit_edge hk hne
        rw [hidx] at hidx'; cases hidx'
        exact ⟨i, j, k, hentry, hi, .inl hk, hdev, htr⟩
      · obtain ⟨i, j, hidx', -, hj, -, hdev, -, htr⟩ := hl.transmit_edge hk hne.symm
        rw [hidx] at hidx'; cases hidx'
        exact ⟨j, i, k, hentry, hj, .inr hk, hdev, htr⟩
  · rcases hi.entry v hv with ⟨h0, -⟩ | ⟨k, e, idxs, x, hk, -, hx, -⟩
    · exact h0
    · refine absurd (h.adj_iff.2 ?_) hno
      rcases hx with ⟨rfl, -⟩ | ⟨rfl, -⟩
      · exact .inl (List.mem_of_getElem? hk)
      · exact .inr (List.mem_of_getElem? hk)

/-! ## The decision -/

/-- A selected neighbour becomes the interface of the link to it. -/
theorem result_neighbor {table : List Nat} (h : Accepted t) (hn : NeighborTable t net u table) {v : Nat}
    (hadj : t.graph.Adj u v) :
    ∃ i j k : Nat, ArbiterPtop.result ⟨t, u, table⟩ v = .ok ⟨false, i, 0⟩ ∧
      (t.undirectedEdges[k]? = some (u, v) ∨ t.undirectedEdges[k]? = some (v, u)) ∧
      net.netDevice u i = .ok (.pointToPoint k) ∧ net.transmit u i = .ok (v, j) := by
  obtain ⟨i, j, k, hentry, hpos, hk, hdev, htr⟩ := hn.neighbor v hadj
  refine ⟨i, j, k, ?_, hk, hdev, htr⟩
  have hv := (h.adj_lt hadj).2
  unfold ArbiterPtop.result
  simp only
  rw [if_pos (by omega), if_neg (by omega), Int.toNat_natCast, index_ok.2 hentry, ok_bind, if_neg (by omega)]

/-- What is selected and is no neighbour makes `Decide` throw. -/
theorem result_throws {table : List Nat} (hn : NeighborTable t net u table) {d : Int} (hd : d ≠ -1)
    (hno : ∀ v : Nat, d = v → ¬ t.graph.Adj u v) :
    ∃ what, ArbiterPtop.result ⟨t, u, table⟩ d = .error (.runtimeError what) := by
  unfold ArbiterPtop.result
  rw [if_pos hd]
  split
  · exact ⟨_, rfl⟩
  · rename_i hrange
    simp only [not_or, not_lt, not_le] at hrange
    obtain ⟨v, rfl⟩ := Int.eq_ofNat_of_zero_le hrange.1
    have hentry := hn.other v (by simpa using hrange.2) (hno v rfl)
    simp only [Int.toNat_natCast, index_ok.2 hentry, ok_bind, if_true]
    exact ⟨_, rfl⟩

/-- What comes of the selected node `d` at node `u`: no route, the interface of the link to exactly the neighbour, or an
exception. -/
structure Decided (t : TopologyPtop) (net : Links) (u : Nat) (d : Int) (r : Res ArbiterResult) : Prop where
  noRoute : (∃ x, r = .ok x ∧ x.failed = true) ↔ d = -1
  success : (∃ x, r = .ok x ∧ x.failed = false) ↔ ∃ v : Nat, d = v ∧ t.graph.Adj u v
  interface : ∀ v : Nat, d = v → t.graph.Adj u v → ∃ i j k : Nat, r = .ok ⟨false, i, 0⟩ ∧
    (t.undirectedEdges[k]? = some (u, v) ∨ t.undirectedEdges[k]? = some (v, u)) ∧
    net.netDevice u i = .ok (.pointToPoint k) ∧ net.transmit u i = .ok (v, j)
  throws : (∃ what, r = .error (.runtimeError what)) ↔ d ≠ -1 ∧ ¬ ∃ v : Nat, d = v ∧ t.graph.Adj u v

theorem result_decided {table : List Nat} (h : Accepted t) (hn : NeighborTable t net u table) (d : Int) :
    Decided t net u d (ArbiterPtop.result ⟨t, u, table⟩ d) := by
  by_cases hd : d = -1
  · subst hd
    have hres : ArbiterPtop.result ⟨t, u, table⟩ (-1) = .ok ⟨true, 0, 0⟩ := rfl
    rw [hres]
    constructor
    · simp
    · simp
    · intro v hv
      omega
    · simp
  · by_cases hadj : ∃ v : Nat, d = v ∧ t.graph.Adj u v
    · obtain ⟨v, rfl, hadj⟩ := hadj
      obtain ⟨i, j, k, hres, hk, hdev, htr⟩ := result_neighbor h hn hadj
      rw [hres]
      constructor
      · simp [hd]
      · simp [hadj]
      · intro w hw _
        obtain rfl : v = w := by omega
        exact ⟨i, j, k, rfl, hk, hdev, htr⟩
      · simp [hadj]
    · obtain ⟨what, hres⟩ := result_throws hn hd fun v hv hv' => hadj ⟨v, hv, hv'⟩
      rw [hres]
      constructor
      · simp [hd]
      · simp [hadj]
      · intro v hv hv'
        exact absurd ⟨v, hv, hv'⟩ hadj
      · simp [hd, hadj]

end Table

/-- `Decide` hands the neighbours of its node to the strategy and turns what the strategy selects into the interface
of the link to that neighbour; -1 is no route, and everything else an exception. -/
theorem decide_decided {sim : BasicSimulation} {config : Config} {t : TopologyPtop} {net : Links} {u : Nat}
    {a : ArbiterPtop}
    (ht : parseTopologyGraph sim config = .ok t) (hnet : setupLinks t = .ok net) (hu : u < t.numNodes)
    (ha : arbiterPtop t net u = .ok a) :
    ∃ neighborNodeIds : List Nat, (∀ v, v ∈ neighborNodeIds ↔ t.graph.Adj u v) ∧
      ∀ (σ : Type) (topologyPtopDecide : List Nat → Call Fail σ Int) (s s' : σ) (d : Int),
        (topologyPtopDecide neighborNodeIds).run s = (.ok d, s') →
        ∃ r, (a.decide topologyPtopDecide).run s = (r, s') ∧ Decided t net u d r := by
  have h := parseTopologyGraph_accepted ht
  obtain ⟨net', hnet', hl⟩ := setupLinks_inv h
  rw [hnet] at hnet'
  cases hnet'
  obtain ⟨table, ha', htable⟩ := arbiterPtop_ok h hl u
  rw [ha] at ha'
  cases ha'
  rw [← h.adjLength] at hu
  refine ⟨t.adjacencyList[u], fun v => ?_, fun σ topologyPtopDecide s s' d hrun => ?_⟩
  · rw [(h.adj u _ (List.getElem?_eq_getElem hu)).2, h.adj_iff]
  · refine ⟨_, ?_, result_decided h htable d⟩
    unfold ArbiterPtop.decide
    rw [index_lt hu, Call.run_lift_ok_bind, Call.run_bind_eq hrun, Call.run_lift]

def twoPairsPtop : ArbiterPtop := ⟨twoPairs, 0, [0, 1, 0, 0]⟩

/-- Node 0 selects its neighbour 1, and node 2, which is none. -/
theorem decide_decided_twoPairs :
    ∃ neighborNodeIds : List Nat, (∀ v, v ∈ neighborNodeIds ↔ twoPairs.graph.Adj 0 v) ∧
      (∃ r, (twoPairsPtop.decide fun _ => (Call.lift (.ok 1) : Call Fail Unit Int)).run () = (r, ()) ∧
        Decided twoPairs twoPairsLinks 0 1 r) ∧
      ∃ r, (twoPairsPtop.decide fun _ => (Call.lift (.ok 2) : Call Fail Unit Int)).run () = (r, ()) ∧
        Decided twoPairs twoPairsLinks 0 2 r := by
  obtain ⟨neighborNodeIds, hmem, hall⟩ := decide_decided (u := 0) (a := twoPairsPtop) parseTopologyGraph_twoPairs
    setupLinks_twoPairs (by decide) rfl
  exact ⟨neighborNodeIds, hmem, hall Unit _ () () 1 rfl, hall Unit _ () () 2 rfl⟩

end SatNet.Ptop
