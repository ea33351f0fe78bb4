/-
The endpoints of a point-to-point topology: the test `IsValidEndpoint` that the schedules are checked with,
and the set `GetEndpoints` that the applications are installed on.
-/
import SatNet.Apps.Schedule

namespace SatNet.Ptop

open SatNet.ExpUtil

/-! ## The test and the set -/

/-- `s.find(x) != s.end()`. -/
def contains (s : List Nat) (x : Int) : Bool := s.any fun y => (y : Int) = x

def TopologyPtop.IsValidEndpoint (t : TopologyPtop) (allNodesAreEndpoints : Bool) (nodeId : Int) : Bool :=
  if allNodesAreEndpoints then true
  else if t.hasZeroServers then contains t.switchesWhichAreTors nodeId
  else contains t.servers nodeId

def TopologyPtop.GetEndpoints (t : TopologyPtop) (allNodesAreEndpoints : Bool) : List Nat :=
  if allNodesAreEndpoints then t.allNodeIds
  else if t.hasZeroServers then t.switchesWhichAreTors
  else t.servers

/-- The keys of the topology configuration that `ReadTopologyConfig` knows. -/
def topologyKeys : List String :=
  ["num_nodes", "num_undirected_edges", "switches", "switches_which_are_tors", "servers", "undirected_edges",
   "all_nodes_are_endpoints", "link_channel_delay_ns", "link_device_data_rate_megabit_per_s", "link_device_queue",
   "link_interface_traffic_control_qdisc"]

/-- `ReadTopologyConfig` on the entries read: the value of `m_all_nodes_are_endpoints`. -/
def readTopologyConfig (topologyConfig : Config) : Res Bool := do
  Loop.forEach (fun _ entry =>
    if (topologyKeys.map String.toList).contains entry.1 then .ok ()
    else .error (.runtimeError s!"Invalid topology property: {String.ofList entry.1}")) topologyConfig ()
  parseBoolean (getParamOrDefault "all_nodes_are_endpoints" "false" topologyConfig)

theorem contains_iff {s : List Nat} {x : Int} : contains s x = true ↔ ∃ y ∈ s, (y : Int) = x := by
  simp [contains]

variable {sim : BasicSimulation} {config : Config} {t : TopologyPtop}

/-- The nodes of an accepted topology are counted by an `int`. -/
theorem numNodes_lt (h : parseTopologyGraph sim config = .ok t) : t.numNodes < 2 ^ 31 := by
  obtain ⟨strings, st, hp⟩ := parseTopologyGraph_ok.1 h
  exact hp.numNodes_lt

theorem getEndpoints_lt (h : parseTopologyGraph sim config = .ok t) (all : Bool) :
    ∀ e ∈ t.GetEndpoints all, e < t.numNodes := by
  obtain ⟨strings, st, hp⟩ := parseTopologyGraph_ok.1 h
  unfold TopologyPtop.GetEndpoints
  split
  · rw [hp.allNodeIds]
    exact fun e he => List.mem_range.1 he
  · split
    · exact hp.tors_lt
    · exact hp.servers_lt

theorem getEndpoints_sorted (h : parseTopologyGraph sim config = .ok t) (all : Bool) :
    (t.GetEndpoints all).Pairwise (· < ·) := by
  obtain ⟨strings, st, hp⟩ := parseTopologyGraph_ok.1 h
  obtain ⟨_, -, htors⟩ := Loop.bind_ok hp.tors
  obtain ⟨_, -, hservers⟩ := Loop.bind_ok hp.servers
  unfold TopologyPtop.GetEndpoints
  split
  · rw [hp.allNodeIds]
    exact List.pairwise_lt_range
  · split
    · exact parseSetPositiveInt64_sorted htors
    · exact parseSetPositiveInt64_sorted hservers

/-- The test is the membership in the set, but where all nodes are endpoints it accepts ids of no node too. -/
theorem isValidEndpoint_eq (h : parseTopologyGraph sim config = .ok t) (all : Bool) (nodeId : Int) :
    t.IsValidEndpoint all nodeId = true ↔
      contains (t.GetEndpoints all) nodeId = true ∨ all = true ∧ ¬ (0 ≤ nodeId ∧ nodeId < t.numNodes) := by
  obtain ⟨strings, st, hp⟩ := parseTopologyGraph_ok.1 h
  unfold TopologyPtop.IsValidEndpoint TopologyPtop.GetEndpoints
  cases all with
  | false =>
    simp only [Bool.false_eq_true, if_false, false_and, or_false]
    split <;> rfl
  | true =>
    simp only [if_true, true_and, true_iff, contains_iff, hp.allNodeIds, List.mem_range]
    by_cases hid : 0 ≤ nodeId ∧ nodeId < t.numNodes
    · exact .inl ⟨nodeId.toNat, by omega, by omega⟩
    · exact .inr hid

/-- Of the nodes the test accepts exactly those in the set. -/
theorem mem_getEndpoints_of_valid (h : parseTopologyGraph sim config = .ok t) {all : Bool} {i : Nat}
    (hi : i < t.numNodes) (hv : t.IsValidEndpoint all i = true) : i ∈ t.GetEndpoints all := by
  rcases (isValidEndpoint_eq h all i).1 hv with hc | ⟨-, hno⟩
  · obtain ⟨y, hy, he⟩ := contains_iff.1 hc
    rw [Int.natCast_inj.1 he] at hy
    exact hy
  · exact absurd ⟨by omega, by omega⟩ hno

end SatNet.Ptop

namespace SatNet.Apps

open SatNet.ExpUtil

/-! ## A point-to-point topology as a topology -/

/-- What the constructor of `TopologyPtop` leaves: an accepted configuration and graph, and its nodes with the
addresses that their interfaces were given. -/
structure PtopNetwork where
  sim : Ptop.BasicSimulation
  config : Config
  graph : Ptop.TopologyPtop
  allNodesAreEndpoints : Bool
  nodes : List Node
  configured : Ptop.readTopologyConfig config = .ok allNodesAreEndpoints
  parsed : Ptop.parseTopologyGraph sim config = .ok graph
  created : nodes.length = graph.numNodes

def PtopNetwork.topology (p : PtopNetwork) : Topology where
  nodes := p.nodes
  isValidEndpoint := p.graph.IsValidEndpoint p.allNodesAreEndpoints
  endpoints := p.graph.GetEndpoints p.allNodesAreEndpoints
  nodes_lt := by
    have := Ptop.numNodes_lt p.parsed
    rw [p.created]
    omega
  endpoints_lt := by
    rw [p.created]
    exact Ptop.getEndpoints_lt p.parsed p.allNodesAreEndpoints
  endpoints_sorted := Ptop.getEndpoints_sorted p.parsed p.allNodesAreEndpoints
  valid_endpoint := by
    intro i hi hv
    rw [p.created] at hi
    exact Ptop.mem_getEndpoints_of_valid p.parsed hi hv

/-! ### Two nodes and a link -/

def pairConfig (allNodesAreEndpoints : Bool) : Config :=
  [("num_nodes".toList, "2".toList), ("num_undirected_edges".toList, "1".toList),
   ("switches".toList, "set(0,1)".toList), ("switches_which_are_tors".toList, "set(0,1)".toList),
   ("servers".toList, "set()".toList), ("undirected_edges".toList, "set(0-1)".toList),
   ("all_nodes_are_endpoints".toList, (if allNodesAreEndpoints then "true" else "false").toList)]

def pairGraph : Ptop.TopologyPtop :=
  { numNodes := 2
    numUndirectedEdges := 1
    switches := [0, 1]
    switchesWhichAreTors := [0, 1]
    servers := []
    allNodeIds := [0, 1]
    undirectedEdges := [(0, 1)]
    undirectedEdgesSet := [(0, 1)]
    adjacencyList := [[1], [0]]
    hasZeroServers := true }

/-- The loopback of each node is 127.0.0.1, and the link has the addresses 10.0.0.1 and 10.0.0.2. -/
def pair (allNodesAreEndpoints : Bool) : PtopNetwork where
  sim := ⟨false, []⟩
  config := pairConfig allNodesAreEndpoints
  graph := pairGraph
  allNodesAreEndpoints := allNodesAreEndpoints
  nodes := [[0x7f000001, 0x0a000001], [0x7f000001, 0x0a000002]]
  configured := by cases allNodesAreEndpoints <;> decide +kernel
  parsed := by cases allNodesAreEndpoints <;> decide +kernel
  created := rfl

/-- A run of a second that is not distributed. -/
def pairSimulation : BasicSimulation where
  distributedEnabled := false
  distributedNodeSystemIdAssignment := []
  systemId := 0
  simulationEndTimeNs := 1000000000
  simulationEndTimeNs_lt := by decide
  runDir := "run".toList
  config := []
  file := fun _ => .missing

end SatNet.Apps
