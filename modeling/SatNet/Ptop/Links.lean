/-
The nodes and channels of the point-to-point network, as `SetupNodes` and `SetupLinks` of
`topology-ptop.cc` build them: every node starts with its loopback device, every edge puts one more
device on both of its nodes and joins the two by a channel. The interface indices that the topology
remembers for an edge are those of the two ends of its channel.
-/
import SatNet.Base.Node
import SatNet.Ptop.Topology

namespace SatNet.Ptop

open SatNet.Loop

/-! ## The data -/

inductive Device where
  | loopback
  | pointToPoint (channel : Nat)
  deriving Repr, DecidableEq

structure Links where
  nodes : List (Node Device)
  /-- `m_link[0].m_src` and `m_link[1].m_src` of every channel. -/
  channels : List (End × End)
  interfaceIdxsForEdges : List (Nat × Nat)
  deriving Repr, DecidableEq

/-! ## Building -/

/-- The nodes with their Internet stack, which brings the loopback device and interface. -/
def setupNodes (n : Nat) : Links := ⟨List.replicate n ⟨[.loopback], [0]⟩, [], []⟩

/-- One round of the loop of `SetupLinks`. -/
def setupLink (net : Links) (edge : Edge) : Res Links := do
  let (nodes, a) ← Node.addDevice net.nodes edge.1 (.pointToPoint net.channels.length)
  let (nodes, b) ← Node.addDevice nodes edge.2 (.pointToPoint net.channels.length)
  let nodes ← Node.assign nodes [a, b]
  .ok ⟨nodes, net.channels ++ [(a, b)], net.interfaceIdxsForEdges ++ [(a.2, b.2)]⟩

def setupLinks (t : TopologyPtop) : Res Links := forEach setupLink t.undirectedEdges (setupNodes t.numNodes)

/-! ## Sending -/

/-- `m_ipv4->GetNetDevice(ifIdx)` on a node. -/
def Links.netDevice (net : Links) (node ifIdx : Nat) : Res Device := do
  let (_, d) ← Node.netDevice net.nodes node ifIdx
  .ok d

/-- The device at which a packet arrives that is sent on an interface: the other end of the channel
of its device (`PointToPointChannel::TransmitStart`), and the device itself for the loopback. -/
def Links.transmit (net : Links) (node ifIdx : Nat) : Res End := do
  let (e, d) ← Node.netDevice net.nodes node ifIdx
  match d with
  | .loopback => .ok e
  | .pointToPoint channel => do
    let ends ← index net.channels channel
    .ok (if e = ends.1 then ends.2 else ends.1)

/-! ## What is built -/

/-- The network after the edges `done`: interface `i` of a node is its device `i`, device 0 is the
loopback, and the channel of every edge joins one device of each of its nodes, which the topology
remembers. -/
structure LinksInv (n : Nat) (done : List Edge) (net : Links) : Prop where
  length : net.nodes.length = n
  numbered : Node.Numbered .loopback [] net.nodes
  channels : net.channels.length = done.length
  interfaceIdxs : net.interfaceIdxsForEdges.length = done.length
  edge : ∀ (k a b : Nat), done[k]? = some (a, b) → ∃ i j : Nat, net.interfaceIdxsForEdges[k]? = some (i, j) ∧
    net.channels[k]? = some ((a, i), (b, j)) ∧
    Node.deviceAt net.nodes (a, i) = some (.pointToPoint k) ∧ Node.deviceAt net.nodes (b, j) = some (.pointToPoint k)

theorem linksInv_init (n : Nat) : LinksInv n [] (setupNodes n) :=
  ⟨List.length_replicate, Node.numbered_init _ _, rfl, rfl, fun k a b hk => by simp at hk⟩

/-- An edge between two nodes of the network is set up. -/
theorem setupLink_inv {n : Nat} {done : List Edge} {net : Links} {e : Edge} (h : LinksInv n done net)
    (hlt : e.1 < e.2) (hn : e.2 < n) :
    ∃ net', setupLink net e = .ok net' ∧ LinksInv n (done ++ [e]) net' := by
  have hlen := h.length
  obtain ⟨nodes₁, nodes₂, nodes', a, b, hadd₀, hadd₁, hassign⟩ := Node.join_total (show e.1 < net.nodes.length by omega)
    (show e.2 < net.nodes.length by omega) (.pointToPoint net.channels.length)
  obtain ⟨hu₀, hu₁, hj⟩ := Node.joined h.numbered hadd₀ hadd₁ hassign
  refine ⟨⟨nodes', net.channels ++ [(a, b)], net.interfaceIdxsForEdges ++ [(a.2, b.2)]⟩, ?_,
    hj.length.trans hlen, hj.numbered, by simp [h.channels], by simp [h.interfaceIdxs], fun k x y hk => ?_⟩
  · unfold setupLink
    rw [hadd₀, ok_bind]
    simp only
    rw [hadd₁, ok_bind]
    simp only
    rw [hassign, ok_bind]
  · simp only [hj.device]
    rcases getElem?_concat_iff.1 hk with hk | ⟨rfl, rfl⟩
    · obtain ⟨i, j, hidx, hch, hi, hi'⟩ := h.edge k x y hk
      refine ⟨i, j, getElem?_concat_iff.2 (.inl hidx), getElem?_concat_iff.2 (.inl hch), ?_, ?_⟩
      · rw [if_neg (hj.old _ _ hi), hi]
      · rw [if_neg (hj.old _ _ hi'), hi']
    · -- the new edge
      have ha : (x, a.2) = a := Prod.ext hu₀.symm rfl
      have hb : (y, b.2) = b := Prod.ext hu₁.symm rfl
      refine ⟨a.2, b.2, getElem?_concat_iff.2 (.inr ⟨h.interfaceIdxs.symm, rfl⟩),
        getElem?_concat_iff.2 (.inr ⟨h.channels.symm, by rw [ha, hb]⟩), ?_, ?_⟩
      · rw [if_pos (.inr ha), h.channels]
      · rw [if_pos (.inl hb), h.channels]

/-- On an accepted topology the links are built, in the invariant for all edges. -/
theorem setupLinks_inv {t : TopologyPtop} (h : Accepted t) :
    ∃ net, setupLinks t = .ok net ∧ LinksInv t.numNodes t.undirectedEdges net := by
  obtain ⟨net, hrun, hinv⟩ := forEach_inv setupLink (LinksInv t.numNodes) t.undirectedEdges []
    (setupNodes t.numNodes) (linksInv_init _)
    fun e he done net hi => setupLink_inv hi (h.edge e he).1 (h.edge e he).2
  exact ⟨net, hrun, hinv⟩

namespace LinksInv

variable {n : Nat} {edges : List Edge} {net : Links}

/-- The interface at an end of a link is not the loopback. -/
theorem pos_of_link (h : LinksInv n edges net) {u i k : Nat}
    (hi : Node.deviceAt net.nodes (u, i) = some (.pointToPoint k)) : 0 < i := by
  rcases Nat.eq_zero_or_pos i with rfl | hpos
  · rw [h.numbered.deviceAt_zero hi] at hi
    cases hi
  · exact hpos

theorem netDevice_eq (h : LinksInv n edges net) {u i : Nat} {d : Device}
    (hi : Node.deviceAt net.nodes (u, i) = some d) :
    net.netDevice u i = .ok d := by
  unfold Links.netDevice
  rw [h.numbered.netDevice_iff.2 ⟨rfl, hi⟩, ok_bind]

/-- A packet sent on the interface at one end of an edge arrives at its other end. -/
theorem transmit_edge (h : LinksInv n edges net) {k a b : Nat} (hk : edges[k]? = some (a, b)) (hab : a ≠ b) :
    ∃ i j, net.interfaceIdxsForEdges[k]? = some (i, j) ∧ 0 < i ∧ 0 < j ∧
      net.netDevice a i = .ok (.pointToPoint k) ∧ net.netDevice b j = .ok (.pointToPoint k) ∧
      net.transmit a i = .ok (b, j) ∧ net.transmit b j = .ok (a, i) := by
  obtain ⟨i, j, hidx, hch, hi, hj⟩ := h.edge k a b hk
  refine ⟨i, j, hidx, h.pos_of_link hi, h.pos_of_link hj, h.netDevice_eq hi, h.netDevice_eq hj, ?_, ?_⟩
  · unfold Links.transmit
    simp only [h.numbered.netDevice_iff.2 ⟨rfl, hi⟩, index_ok.2 hch, ok_bind, if_true]
  · unfold Links.transmit
    simp only [h.numbered.netDevice_iff.2 ⟨rfl, hj⟩, index_ok.2 hch, ok_bind]
    rw [if_neg fun he => hab (congrArg Prod.fst he).symm]

end LinksInv

def twoPairsLinks : Links :=
  { nodes := [⟨[.loopback, .pointToPoint 0], [0, 1]⟩, ⟨[.loopback, .pointToPoint 0], [0, 1]⟩,
      ⟨[.loopback, .pointToPoint 1], [0, 1]⟩, ⟨[.loopback, .pointToPoint 1], [0, 1]⟩]
    channels := [((0, 1), (1, 1)), ((2, 1), (3, 1))]
    interfaceIdxsForEdges := [(1, 1), (1, 1)] }

theorem setupLinks_twoPairs : setupLinks twoPairs = .ok twoPairsLinks := rfl

end SatNet.Ptop
