/-
What the schedulers rely on: the ids of a schedule are checked with `IsValidEndpoint`, and the applications are
installed on the nodes of `GetEndpoints`.
-/
import SatNet.Apps.Endpoints
import SatNet.Apps.TcpFlowStarts
import SatNet.Apps.UdpBurstSchedule
import SatNet.Apps.Pingmesh

namespace SatNet.Apps

open SatNet.ExpUtil SatNet.Loop

variable {ρ : Type}

/-! ## Ids that a schedule names -/

/-- The ids are nodes, and the constructor ends with something installed on each of them that is of this system. -/
structure Served {σ : Type} (p : PtopNetwork) (b : BasicSimulation) (named : List Nat) (outcome : Res σ)
    (installed : σ → List Nat) : Prop where
  nodes : ∀ id ∈ named, id < p.graph.numNodes
  installs : ∃ s, outcome = .ok s ∧ ∀ id ∈ named, b.owns id = true → id ∈ installed s

def tcpEndpoints (l : List TcpFlowScheduleEntry) : List Nat := l.flatMap fun e => [e.fromNodeId, e.toNodeId]

def burstEndpoints (l : List (UdpBurstInfo ρ)) : List Nat := l.flatMap fun e => [e.fromNodeId, e.toNodeId]

def pingEndpoints (l : List (Nat × Nat)) : List Nat := l.flatMap fun q => [q.1, q.2]

variable {p : PtopNetwork} {b : BasicSimulation}

/-- An id that passes the test is in the set if it is a node. -/
theorem mem_endpoints_of_valid {id : Nat} (hv : p.topology.isValidEndpoint id = true)
    (hlt : p.allNodesAreEndpoints = false ∨ id < p.graph.numNodes) : id ∈ p.topology.endpoints := by
  rcases (Ptop.isValidEndpoint_eq p.parsed p.allNodesAreEndpoints id).1 hv with hc | ⟨hall, hno⟩
  · obtain ⟨y, hy, he⟩ := Ptop.contains_iff.1 hc
    rw [← Int.natCast_inj.1 he]
    exact hy
  · rcases hlt with hflag | hlt
    · rw [hflag] at hall
      cases hall
    · exact absurd ⟨by omega, by omega⟩ hno

/-- The one argument for all schedulers: valid ids are in the set that the constructor goes through, if it ends. -/
theorem served_iff {σ : Type} {named : List Nat} {outcome : Res σ} {installed : σ → List Nat} {C : Prop}
    (hvalid : ∀ id ∈ named, p.topology.isValidEndpoint id = true)
    (hinst : ∀ s, outcome = .ok s → installed s = p.topology.endpoints.filter fun e => b.owns e)
    (hends : (∀ id ∈ named, id ∈ p.topology.endpoints) → ((∃ s, outcome = .ok s) ↔ C)) :
    Served p b named outcome installed ↔
      (p.allNodesAreEndpoints = false ∨ ∀ id ∈ named, id < p.graph.numNodes) ∧ C := by
  have hmem : (p.allNodesAreEndpoints = false ∨ ∀ id ∈ named, id < p.graph.numNodes) →
      ∀ id ∈ named, id ∈ p.topology.endpoints := fun h id hid =>
    mem_endpoints_of_valid (hvalid id hid) (h.imp_right fun hlt => hlt id hid)
  constructor
  · intro h
    obtain ⟨s, hs, -⟩ := h.installs
    exact ⟨.inr h.nodes, (hends (hmem (.inr h.nodes))).1 ⟨s, hs⟩⟩
  · rintro ⟨h, hc⟩
    obtain ⟨s, hs⟩ := (hends (hmem h)).2 hc
    refine ⟨fun id hid => Ptop.getEndpoints_lt p.parsed _ id (hmem h id hid), s, hs, fun id hid hown => ?_⟩
    rw [hinst s hs]
    exact List.mem_filter.2 ⟨hmem h id hid, hown⟩

/-- A distributed run assigns every node to a system. -/
theorem endpoints_assigned (hb : b.toBasicSimulation = p.sim) :
    b.distributedEnabled = true → ∀ e ∈ p.topology.endpoints, e < b.distributedNodeSystemIdAssignment.length := by
  obtain ⟨strings, st, hp⟩ := Ptop.parseTopologyGraph_ok.1 p.parsed
  rw [← hb] at hp
  intro hd e he
  rw [hp.assigned hd, ← p.created]
  exact p.topology.endpoints_lt e he

/-- The address of an endpoint is looked up under its own id. -/
theorem endpoint_address_iff {id : Nat} (he : id ∈ p.topology.endpoints) :
    (∃ a, p.topology.node id >>= firstAddress = .ok a) ↔ HasAddress p.topology id :=
  hasAddress_iff (Nat.lt_trans (p.topology.endpoints_lt id he) p.topology.nodes_lt)

/-! ## The three schedulers -/

theorem Accepted.named_valid {α : Type} {header : α → Header} {topology : Topology} {endNs : Nat} {l : List α}
    (h : Accepted header topology endNs l) :
    ∀ id ∈ l.flatMap (fun e => [(header e).fromNodeId, (header e).toNodeId]), topology.isValidEndpoint id = true := by
  intro id hid
  obtain ⟨e, he, hid⟩ := List.mem_flatMap.1 hid
  rcases List.mem_pair.1 hid with rfl | rfl
  · exact h.from_valid e he
  · exact h.to_valid e he

theorem endpoints_valid {id : Nat} (h : id ∈ p.topology.endpoints) : p.topology.isValidEndpoint id = true :=
  (Ptop.isValidEndpoint_eq p.parsed p.allNodesAreEndpoints id).2 (.inl (Ptop.contains_iff.2 ⟨id, h, rfl⟩))

theorem pingEndpoints_valid {pairStr : Str} {pairs : List (Nat × Nat)}
    (h : specifiedPairs p.topology pairStr = .ok pairs) :
    ∀ id ∈ pingEndpoints pairs, p.topology.isValidEndpoint id = true := by
  intro id hid
  obtain ⟨q, hq, hid⟩ := List.mem_flatMap.1 hid
  have hboth : p.topology.isValidEndpoint q.1 = true ∧ p.topology.isValidEndpoint q.2 = true := by
    by_cases hall : pairStr = "all".toList
    · unfold specifiedPairs at h
      rw [if_pos hall] at h
      cases h
      obtain ⟨e, he, hq⟩ := List.mem_flatMap.1 hq
      obtain ⟨h₁, h₂, -⟩ := mem_pairsFrom.1 hq
      exact ⟨endpoints_valid (h₁ ▸ he), endpoints_valid h₂⟩
    · obtain ⟨strings, -, hpairs⟩ := (specifiedPairs_select hall).1 h
      obtain ⟨s, -, hs⟩ := forall₂_mem_right hpairs q hq
      exact (parsePingPair_ok hs).2
  rcases List.mem_pair.1 hid with rfl | rfl
  · exact hboth.1
  · exact hboth.2

theorem prepareUdpBursts_nodes {loggingIds : List Nat} {l : List (UdpBurstInfo ρ)} {s : UdpBurstScheduler ρ}
    (h : prepareUdpBursts b p.topology loggingIds l = .ok s) :
    s.apps.map Prod.fst = p.topology.endpoints.filter fun e => b.owns e := by
  obtain ⟨-, -, apps, happs, rfl⟩ := prepareUdpBursts_ok.1 h
  have hnodes : ∀ {nodes : List Nat} {apps : List (Nat × UdpBurstApplication ρ)},
      List.Forall₂ (fun e q => q.1 = e ∧ installBurstApp p.topology loggingIds l e = .ok q.2) nodes apps →
        apps.map Prod.fst = nodes := by
    intro nodes apps h
    induction h with
    | nil => rfl
    | cons hq _ ih => rw [List.map_cons, ih, hq.1]
  exact hnodes happs

theorem mem_tcpEndpoints {l : List TcpFlowScheduleEntry} {e : TcpFlowScheduleEntry} (he : e ∈ l) :
    e.fromNodeId ∈ tcpEndpoints l := List.mem_flatMap.2 ⟨e, he, List.mem_cons_self ..⟩

theorem mem_burstEndpoints {l : List (UdpBurstInfo ρ)} {e : UdpBurstInfo ρ} (he : e ∈ l) :
    e.fromNodeId ∈ burstEndpoints l ∧ e.toNodeId ∈ burstEndpoints l :=
  ⟨List.mem_flatMap.2 ⟨e, he, List.mem_cons_self ..⟩, List.mem_flatMap.2 ⟨e, he, by simp⟩⟩

/-- The set-up of the flows ends where the sources are endpoints. -/
theorem prepareTcpFlows_ends (hb : b.toBasicSimulation = p.sim) {loggingIds : List Nat} {l : List TcpFlowScheduleEntry}
    (hstart : ∀ e ∈ l, e.startTimeNs < 2 ^ 63) (hids : ∀ id ∈ loggingIds, id < l.length)
    (hmem : ∀ id ∈ tcpEndpoints l, id ∈ p.topology.endpoints) :
    ∃ w, prepareTcpFlows b p.topology loggingIds l = .ok w :=
  ⟨_, (prepareTcpFlows_ok hstart).2 ⟨hids, fun hd => ⟨fun e he =>
    endpoints_assigned hb hd e.fromNodeId (hmem _ (mem_tcpEndpoints he)), endpoints_assigned hb hd⟩, rfl⟩⟩

/-- The set-up of the bursts ends where, between endpoints, those sent by this system go to nodes with an address. -/
theorem prepareUdpBursts_ends (hb : b.toBasicSimulation = p.sim) {loggingIds : List Nat} {endNs : Nat}
    {l : List (UdpBurstInfo ρ)} (hacc : Accepted UdpBurstInfo.header p.topology endNs l)
    (hids : ∀ id ∈ loggingIds, id < l.length) (hmem : ∀ id ∈ burstEndpoints l, id ∈ p.topology.endpoints) :
    (∃ s, prepareUdpBursts b p.topology loggingIds l = .ok s) ↔
      ∀ e ∈ l, b.owns e.fromNodeId = true → HasAddress p.topology e.toNodeId := by
  rw [prepareUdpBursts_ends_iff hacc, and_iff_right hids, and_iff_right (endpoints_assigned hb)]
  refine forall₂_congr fun e he => ?_
  obtain ⟨hfrom, hto⟩ := mem_burstEndpoints he
  rw [endpoint_address_iff (hmem _ hto)]
  exact ⟨fun h => h (hmem _ hfrom), fun h _ => h⟩

/-- The set-up of the pings ends where there is not a single endpoint and the clients can be installed. -/
theorem preparePingmesh_ends (hb : b.toBasicSimulation = p.sim) {intervalNs : Nat} (hi : intervalNs < 2 ^ 63)
    {pairStr : Str} {pairs : List (Nat × Nat)} (hpairs : specifiedPairs p.topology pairStr = .ok pairs)
    (hmem : ∀ id ∈ pingEndpoints pairs, id ∈ p.topology.endpoints) :
    (∃ s, preparePingmesh b p.topology intervalNs pairStr = .ok s) ↔
      p.topology.endpoints.length ≠ 1 ∧ Installable b p.topology intervalNs pairs := by
  have ha : Assigned b p.topology pairs := fun hd => ⟨fun q hq =>
    endpoints_assigned hb hd q.1 (hmem _ (List.mem_flatMap.2 ⟨q, hq, List.mem_cons_self ..⟩)),
    endpoints_assigned hb hd⟩
  rw [preparePingmesh_ends_iff hi hpairs, and_iff_right ha]

/-- The test agrees with the set, and the schedulers serve what they accept, exactly where not all nodes are
endpoints or the ids are nodes; for bursts and pings the addresses must be there too, and for pings the numbers fit. -/
theorem validEndpoints_iff (p : PtopNetwork) (b : BasicSimulation) (hb : b.toBasicSimulation = p.sim)
    (rates : RateReader ρ) :
    (∀ id : Int, -2 ^ 63 ≤ id → id < 2 ^ 63 →
      ((p.graph.IsValidEndpoint p.allNodesAreEndpoints id = true ↔
          Ptop.contains (p.graph.GetEndpoints p.allNodesAreEndpoints) id = true) ↔
        p.allNodesAreEndpoints = false ∨ 0 ≤ id ∧ id < p.graph.numNodes)) ∧
    (∀ loggingIds filename file l, readTcpFlowSchedule filename file p.topology b.simulationEndTimeNs = .ok l →
      (∀ id ∈ loggingIds, id < l.length) →
      (Served p b (tcpEndpoints l) (prepareTcpFlows b p.topology loggingIds l) (fun w => w.state.sinks) ↔
        p.allNodesAreEndpoints = false ∨ ∀ id ∈ tcpEndpoints l, id < p.graph.numNodes)) ∧
    (∀ loggingIds filename file l,
      readUdpBurstSchedule rates filename file p.topology b.simulationEndTimeNs = .ok l →
      (∀ id ∈ loggingIds, id < l.length) →
      (Served p b (burstEndpoints l) (prepareUdpBursts b p.topology loggingIds l) (fun s => s.apps.map Prod.fst) ↔
        (p.allNodesAreEndpoints = false ∨ ∀ id ∈ burstEndpoints l, id < p.graph.numNodes) ∧
          ∀ e ∈ l, b.owns e.fromNodeId = true → HasAddress p.topology e.toNodeId)) ∧
    ∀ intervalNs pairStr pairs, intervalNs < 2 ^ 63 → specifiedPairs p.topology pairStr = .ok pairs →
      (Served p b (pingEndpoints pairs) (preparePingmesh b p.topology intervalNs pairStr) (fun s => s.servers) ↔
        (p.allNodesAreEndpoints = false ∨ ∀ id ∈ pingEndpoints pairs, id < p.graph.numNodes) ∧
          p.topology.endpoints.length ≠ 1 ∧ Installable b p.topology intervalNs pairs) := by
  refine ⟨fun id _ _ => ?_, fun loggingIds filename file l hl hids => ?_,
    fun loggingIds filename file l hl hids => ?_, fun intervalNs pairStr pairs hi hpairs => ?_⟩
  · rw [Ptop.isValidEndpoint_eq p.parsed]
    by_cases hc : Ptop.contains (p.graph.GetEndpoints p.allNodesAreEndpoints) id = true
    · obtain ⟨y, hy, rfl⟩ := Ptop.contains_iff.1 hc
      have := Ptop.getEndpoints_lt p.parsed _ y hy
      simp only [hc, true_or, true_iff]
      exact .inr ⟨by omega, by omega⟩
    · simp only [hc, false_or, iff_false, not_and, Bool.false_eq_true]
      cases p.allNodesAreEndpoints <;> simp
  · have hacc := (readTcpFlowSchedule_ok hl).1
    have hstart : ∀ e ∈ l, e.startTimeNs < 2 ^ 63 := fun e he =>
      Nat.lt_trans (hacc.start_lt e he) b.simulationEndTimeNs_lt
    have hinst : ∀ w, prepareTcpFlows b p.topology loggingIds l = .ok w →
        w.state.sinks = p.topology.endpoints.filter fun e => b.owns e := by
      intro w hw
      obtain ⟨-, -, rfl⟩ := (prepareTcpFlows_ok hstart).1 hw
      rfl
    have hends : (∀ id ∈ tcpEndpoints l, id ∈ p.topology.endpoints) →
        ((∃ w, prepareTcpFlows b p.topology loggingIds l = .ok w) ↔ True) := fun hmem =>
      iff_of_true (prepareTcpFlows_ends hb hstart hids hmem) trivial
    exact (served_iff hacc.named_valid hinst hends).trans (and_iff_left trivial)
  · have hacc := readUdpBurstSchedule_ok hl
    exact served_iff hacc.named_valid (fun s hs => prepareUdpBursts_nodes hs)
      fun hmem => prepareUdpBursts_ends hb hacc hids hmem
  · refine served_iff (pingEndpoints_valid hpairs) (fun s hs => ?_) fun hmem => preparePingmesh_ends hb hi hpairs hmem
    obtain ⟨_, _, _, -, -, -, -, rfl⟩ := preparePingmesh_ok.1 hs
    rfl

/-- Without the flag every accepted schedule of flows is served. -/
theorem validEndpoints_iff_bothWays :
    Served (pair false) pairSimulation [0, 1, 1, 0]
      (prepareTcpFlows pairSimulation (pair false).topology [1] bothWays) fun w => w.state.sinks :=
  ((validEndpoints_iff (pair false) pairSimulation rfl wholeRates).2.1 [1] []
    (.lines ["0,0,1,100,5,,".toList, "1,1,0,0,5,,".toList]) bothWays (by decide +kernel) (by decide)).2 (.inl rfl)

/-- Two linked nodes, and a third one without a link. -/
def aside : PtopNetwork where
  sim := ⟨false, []⟩
  config :=
    [("num_nodes".toList, "3".toList), ("num_undirected_edges".toList, "1".toList),
     ("switches".toList, "set(0,1,2)".toList), ("switches_which_are_tors".toList, "set(0,1,2)".toList),
     ("servers".toList, "set()".toList), ("undirected_edges".toList, "set(0-1)".toList)]
  graph :=
    { numNodes := 3
      numUndirectedEdges := 1
      switches := [0, 1, 2]
      switchesWhichAreTors := [0, 1, 2]
      servers := []
      allNodeIds := [0, 1, 2]
      undirectedEdges := [(0, 1)]
      undirectedEdgesSet := [(0, 1)]
      adjacencyList := [[1], [0], []]
      hasZeroServers := true }
  allNodesAreEndpoints := false
  nodes := [[0x7f000001, 0x0a000001], [0x7f000001, 0x0a000002], [0x7f000001]]
  configured := by decide +kernel
  parsed := by decide +kernel
  created := rfl

/-- With the flag id 2 passes the test on a topology of two nodes, also as the to-node of a flow. Without it, a burst to
a node without a link is accepted, and its address is not there to be read. -/
theorem validEndpoints_counterexample :
    ((pair true).graph.IsValidEndpoint true 2 = true ∧
      Ptop.contains ((pair true).graph.GetEndpoints true) 2 = false ∧
      readTcpFlowSchedule [] (.lines ["0,0,2,100,5,,".toList]) (pair true).topology 1000000000 =
        .ok [⟨0, 0, 2, 100, 5, [], []⟩] ∧
      ¬ Served (pair true) pairSimulation (tcpEndpoints [⟨0, 0, 2, 100, 5, [], []⟩])
        (prepareTcpFlows pairSimulation (pair true).topology []
          [⟨0, 0, 2, 100, 5, [], []⟩]) fun w => w.state.sinks) ∧
    ∃ l, readUdpBurstSchedule wholeRates [] (.lines ["0,0,2,10,0,1000,,".toList]) aside.topology 1000000000 = .ok l ∧
      prepareUdpBursts pairSimulation aside.topology [] l = .error nullPointer ∧
      ¬ Served aside pairSimulation (burstEndpoints l) (prepareUdpBursts pairSimulation aside.topology [] l)
        fun s => s.apps.map Prod.fst := by
  refine ⟨⟨rfl, by decide, by decide +kernel, fun h => absurd (h.nodes 2 (by decide)) (by decide)⟩,
    [⟨0, 0, 2, 10, 0, 1000, [], []⟩], rfl, rfl, fun h => ?_⟩
  obtain ⟨s, hs, -⟩ := h.installs
  cases hs

end SatNet.Apps
