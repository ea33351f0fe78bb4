/-
The point-to-point topology: `ParseTopologyGraph` of `topology-ptop.cc`, from the property strings
to the fields it sets, and what every accepted topology satisfies: the edges lie below the number
of nodes, are in order and no two are the same.
-/
import SatNet.Base.ExpUtil
import Mathlib.Data.List.Sort

namespace SatNet.Ptop

open SatNet.ExpUtil SatNet.Loop

/-! ## The data -/

/-- An undirected edge, as the pair of its left (smaller) and right node id. -/
abbrev Edge := Nat × Nat

/-- The order of `std::pair`, which `std::sort` and `std::set` use. -/
def edgeLt (p q : Edge) : Prop := p.1 < q.1 ∨ p.1 = q.1 ∧ p.2 < q.2

instance : DecidableRel edgeLt := fun p q => inferInstanceAs (Decidable (p.1 < q.1 ∨ p.1 = q.1 ∧ p.2 < q.2))

theorem edge_lt : OrdSet.StrictTotal edgeLt :=
  ⟨fun a h => by unfold edgeLt at h; omega, fun h₁ h₂ => by unfold edgeLt at *; omega,
    fun {a b} h₁ h₂ => by unfold edgeLt at *; exact Prod.ext (by omega) (by omega)⟩

/-- What `BasicSimulation` tells the topology about a distributed run. -/
structure BasicSimulation where
  distributedEnabled : Bool
  distributedNodeSystemIdAssignment : List Nat

/-- The fields of `TopologyPtop` that `ParseTopologyGraph` sets; a `std::set` is the increasing
list of its elements. -/
structure TopologyPtop where
  numNodes : Nat
  numUndirectedEdges : Nat
  switches : List Nat
  switchesWhichAreTors : List Nat
  servers : List Nat
  allNodeIds : List Nat
  undirectedEdges : List Edge
  undirectedEdgesSet : List Edge
  adjacencyList : List (List Nat)
  hasZeroServers : Bool
  deriving Repr, DecidableEq

/-! ## Parsing -/

/-- The fields the loop over the edge strings changes. -/
structure EdgeState where
  undirectedEdges : List Edge
  undirectedEdgesSet : List Edge
  adjacencyList : List (List Nat)

/-- One round of the loop over the edge strings. -/
def addEdge (numNodes : Nat) (st : EdgeState) (s : Str) : Res EdgeState := do
  let spl ← splitStringExpected s "-".toList 2
  let s₀ ← index spl 0
  let s₁ ← index spl 1
  let a ← parsePositiveInt64 s₀
  let b ← parsePositiveInt64 s₁
  if a = b then .error (.invalidArgument s!"Cannot have edge to itself on node {a}")
  else if a ≥ numNodes then .error (.invalidArgument s!"Left node identifier in edge does not exist: {a}")
  else if b ≥ numNodes then .error (.invalidArgument s!"Right node identifier in edge does not exist: {b}")
  else if b < a then
    .error (.invalidArgument s!"As a convention, the left node id must be smaller than the right node id: {a}-{b}")
  else
    .ok { undirectedEdges := st.undirectedEdges ++ [(a, b)]
          undirectedEdgesSet := OrdSet.insert edgeLt (a, b) st.undirectedEdgesSet
          adjacencyList := (st.adjacencyList.modify a (OrdSet.insert (· < ·) b)).modify b (OrdSet.insert (· < ·) a) }

/-- "Servers must be connected to ToRs only". -/
def checkServers (servers tors : List Nat) (adjacencyList : List (List Nat)) : Res Unit :=
  forEach (fun _ nodeId => do
    let neighbors ← index adjacencyList nodeId
    forEach (fun _ neighborId =>
      if neighborId ∈ tors then .ok ()
      else .error (.invalidArgument s!"Server node {nodeId} has an edge to node {neighborId} which is not a ToR.")) neighbors ()) servers ()

/-- The order in which `std::sort` puts the edges. -/
def sortEdges (l : List Edge) : List Edge := l.insertionSort fun p q => ¬ edgeLt q p

def parseTopologyGraph (basicSimulation : BasicSimulation) (topologyConfig : Config) : Res TopologyPtop := do
  let numNodes ← getParamOrFail "num_nodes" topologyConfig >>= parsePositiveInt64
  let numUndirectedEdges ← getParamOrFail "num_undirected_edges" topologyConfig >>= parsePositiveInt64
  -- Node types
  let switches ← getParamOrFail "switches" topologyConfig >>= parseSetPositiveInt64
  allItemsAreLessThan switches numNodes
  let tors ← getParamOrFail "switches_which_are_tors" topologyConfig >>= parseSetPositiveInt64
  allItemsAreLessThan tors numNodes
  let servers ← getParamOrFail "servers" topologyConfig >>= parseSetPositiveInt64
  allItemsAreLessThan servers numNodes
  -- the loop that makes the adjacency lists counts in an `int`
  let _ ← int32 numNodes
  -- Edges
  let stringSet ← getParamOrFail "undirected_edges" topologyConfig >>= parseSetString
  let st ← forEach (addEdge numNodes) stringSet ⟨[], [], List.replicate numNodes []⟩
  -- Edge checks
  if st.undirectedEdges.length ≠ numUndirectedEdges then
    .error (.invalidArgument "Indicated number of undirected edges does not match edge set")
  else if st.undirectedEdges.length ≠ st.undirectedEdgesSet.length then
    .error (.invalidArgument "Duplicates in edge set")
  -- Node type hierarchy checks
  else if directSetIntersection servers switches ≠ [] then
    .error (.invalidArgument "Server and switch identifiers are not distinct")
  else if (directSetUnion servers switches).length ≠ numNodes then
    .error (.invalidArgument "The servers and switches do not encompass all nodes")
  else if (directSetIntersection switches tors).length ≠ tors.length then
    .error (.invalidArgument "Servers are marked as ToRs")
  else do
    checkServers servers tors st.adjacencyList
    let assigned := basicSimulation.distributedNodeSystemIdAssignment.length
    if basicSimulation.distributedEnabled = true ∧ assigned ≠ numNodes then
      .error (.invalidArgument s!"Incorrect amount of node-to-system-id assignments (must be {numNodes} but got {assigned})")
    else
      .ok { numNodes, numUndirectedEdges, switches, switchesWhichAreTors := tors, servers
            allNodeIds := List.range numNodes
            undirectedEdges := sortEdges st.undirectedEdges
            undirectedEdgesSet := st.undirectedEdgesSet
            adjacencyList := st.adjacencyList
            hasZeroServers := servers.isEmpty }

/-! ## The loop over the edge strings -/

/-- What the loop over the edge strings keeps: the edges collected so far are ordered pairs below
the number of nodes, the set holds the same edges, and the adjacency lists hold each edge in both
directions. -/
structure EdgeInv (numNodes : Nat) (st : EdgeState) : Prop where
  edges : ∀ e ∈ st.undirectedEdges, e.1 < e.2 ∧ e.2 < numNodes
  set : st.undirectedEdgesSet = OrdSet.ofList edgeLt st.undirectedEdges
  adjLength : st.adjacencyList.length = numNodes
  adj : ∀ u l, st.adjacencyList[u]? = some l → l.Pairwise (· < ·) ∧
    ∀ v, v ∈ l ↔ (u, v) ∈ st.undirectedEdges ∨ (v, u) ∈ st.undirectedEdges

/-- The one way a round of the loop succeeds. -/
theorem addEdge_ok {numNodes : Nat} {st st' : EdgeState} {s : Str} (h : addEdge numNodes st s = .ok st') :
    ∃ a b, a < b ∧ b < numNodes ∧
      st' = ⟨st.undirectedEdges ++ [(a, b)], OrdSet.insert edgeLt (a, b) st.undirectedEdgesSet,
        (st.adjacencyList.modify a (OrdSet.insert (· < ·) b)).modify b (OrdSet.insert (· < ·) a)⟩ := by
  unfold addEdge at h
  obtain ⟨spl, -, h⟩ := bind_ok h
  obtain ⟨s₀, -, h⟩ := bind_ok h
  obtain ⟨s₁, -, h⟩ := bind_ok h
  obtain ⟨a, -, h⟩ := bind_ok h
  obtain ⟨b, -, h⟩ := bind_ok h
  split at h
  · cases h
  · split at h
    · cases h
    · split at h
      · cases h
      · split at h
        · cases h
        · cases h
          exact ⟨a, b, by omega, by omega, rfl⟩

theorem adj_modify {adj : List (List Nat)} {a b u : Nat} {l' : List Nat} (hab : a ≠ b)
    (h : ((adj.modify a (OrdSet.insert (· < ·) b)).modify b (OrdSet.insert (· < ·) a))[u]? = some l') :
    ∃ l, adj[u]? = some l ∧
      l' = if u = a then OrdSet.insert (· < ·) b l else if u = b then OrdSet.insert (· < ·) a l else l := by
  simp only [List.getElem?_modify] at h
  cases hu : adj[u]? with
  | none => rw [hu] at h; split at h <;> simp at h
  | some l =>
    rw [hu] at h
    refine ⟨l, rfl, ?_⟩
    by_cases ha : a = u
    · have hba := Ne.symm hab
      subst ha; simp_all
    · by_cases hb : b = u
      · subst hb; simp_all
      · simp_all [eq_comm]

theorem addEdge_inv {numNodes : Nat} {st st' : EdgeState} {s : Str} (hi : EdgeInv numNodes st)
    (h : addEdge numNodes st s = .ok st') : EdgeInv numNodes st' := by
  obtain ⟨a, b, hab, hb, rfl⟩ := addEdge_ok h
  refine ⟨fun e he => ?_, ?_, by simpa using hi.adjLength, fun u l' hl' => ?_⟩
  · rcases List.mem_append.1 he with he | he
    · exact hi.edges e he
    · rw [List.mem_singleton] at he; subst he; exact ⟨hab, hb⟩
  · simp only [OrdSet.ofList_concat, ← hi.set]
  · obtain ⟨l, hl, rfl⟩ := adj_modify (by omega) hl'
    obtain ⟨hs, hm⟩ := hi.adj u l hl
    simp only [List.mem_append, List.mem_singleton, Prod.mk.injEq]
    split
    · rename_i hu
      refine ⟨OrdSet.insert_sorted nat_lt hs, fun v => ?_⟩
      rw [OrdSet.mem_insert nat_lt, hm]
      constructor
      · rintro (rfl | h | h); exacts [.inl (.inr ⟨hu, rfl⟩), .inl (.inl h), .inr (.inl h)]
      · rintro ((h | h) | (h | h)); exacts [.inr (.inl h), .inl h.2, .inr (.inr h), by omega]
    · rename_i hu
      split
      · rename_i hub
        refine ⟨OrdSet.insert_sorted nat_lt hs, fun v => ?_⟩
        rw [OrdSet.mem_insert nat_lt, hm]
        constructor
        · rintro (rfl | h | h); exacts [.inr (.inr ⟨rfl, hub⟩), .inl (.inl h), .inr (.inl h)]
        · rintro ((h | h) | (h | h)); exacts [.inr (.inl h), absurd h.1 hu, .inr (.inr h), .inl h.1]
      · rename_i hub
        refine ⟨hs, fun v => ?_⟩
        rw [hm]
        constructor
        · rintro (h | h); exacts [.inl (.inl h), .inr (.inl h)]
        · rintro ((h | h) | (h | h)); exacts [.inl h, absurd h.1 hu, .inr h, absurd h.2 hub]

theorem edgeInv_init (numNodes : Nat) : EdgeInv numNodes ⟨[], [], List.replicate numNodes []⟩ := by
  refine ⟨by simp, rfl, by simp, fun u l h => ?_⟩
  rw [List.getElem?_replicate] at h
  split at h
  · cases h; simp
  · cases h

theorem edgeInv_forEach {numNodes : Nat} {strings : List Str} {st : EdgeState}
    (h : forEach (addEdge numNodes) strings ⟨[], [], List.replicate numNodes []⟩ = .ok st) :
    EdgeInv numNodes st :=
  forEach_pre _ (fun _ => EdgeInv numNodes) (fun _ _ _ _ hi hb => addEdge_inv hi hb) strings [] _ _
    (edgeInv_init numNodes) h

/-! ## Accepted topologies -/

/-- What holds of every topology that `ParseTopologyGraph` accepts. -/
structure Accepted (t : TopologyPtop) : Prop where
  edge : ∀ e ∈ t.undirectedEdges, e.1 < e.2 ∧ e.2 < t.numNodes
  sorted : t.undirectedEdges.Pairwise edgeLt
  length : t.undirectedEdges.length = t.numUndirectedEdges
  adjLength : t.adjacencyList.length = t.numNodes
  adj : ∀ u l, t.adjacencyList[u]? = some l → l.Pairwise (· < ·) ∧
    ∀ v, v ∈ l ↔ (u, v) ∈ t.undirectedEdges ∨ (v, u) ∈ t.undirectedEdges

theorem mem_sortEdges {l : List Edge} {e : Edge} : e ∈ sortEdges l ↔ e ∈ l :=
  (List.perm_insertionSort _ l).mem_iff

theorem sortEdges_pairwise (l : List Edge) : (sortEdges l).Pairwise fun p q => ¬ edgeLt q p := by
  have : Std.Total fun p q : Edge => ¬ edgeLt q p := ⟨fun p q => by unfold edgeLt; omega⟩
  have : IsTrans Edge fun p q => ¬ edgeLt q p := ⟨fun p q r => by unfold edgeLt; omega⟩
  exact List.pairwise_insertionSort (fun p q : Edge => ¬ edgeLt q p) l

theorem sortEdges_sorted {l : List Edge} (hn : l.Nodup) : (sortEdges l).Pairwise edgeLt := by
  have hnd : (sortEdges l).Nodup := (List.perm_insertionSort _ l).nodup_iff.2 hn
  apply ((sortEdges_pairwise l).and hnd).imp
  intro p q h
  by_contra hlt
  exact h.2 (edge_lt.total hlt h.1)

/-- Sorting and dropping edges do not depend on their order. -/
theorem sortEdges_filter (keep : Edge → Bool) (l : List Edge) :
    sortEdges (l.filter keep) = (sortEdges l).filter keep := by
  have hperm : (sortEdges (l.filter keep)).Perm ((sortEdges l).filter keep) :=
    (List.perm_insertionSort _ _).trans ((List.perm_insertionSort _ l).symm.filter keep)
  exact hperm.eq_of_pairwise (fun p q _ _ h₁ h₂ => edge_lt.total h₂ h₁) (sortEdges_pairwise _)
    ((sortEdges_pairwise l).filter _)

/-- A run of `ParseTopologyGraph` that accepts: what it read, every check it passed, and the fields it set. -/
structure Parsed (sim : BasicSimulation) (config : Config) (t : TopologyPtop) (strings : List Str) (st : EdgeState) :
    Prop where
  numNodes : getParamOrFail "num_nodes" config >>= parsePositiveInt64 = .ok t.numNodes
  numUndirectedEdges : getParamOrFail "num_undirected_edges" config >>= parsePositiveInt64 = .ok t.numUndirectedEdges
  switches : getParamOrFail "switches" config >>= parseSetPositiveInt64 = .ok t.switches
  switches_lt : ∀ x ∈ t.switches, x < t.numNodes
  tors : getParamOrFail "switches_which_are_tors" config >>= parseSetPositiveInt64 = .ok t.switchesWhichAreTors
  tors_lt : ∀ x ∈ t.switchesWhichAreTors, x < t.numNodes
  servers : getParamOrFail "servers" config >>= parseSetPositiveInt64 = .ok t.servers
  servers_lt : ∀ x ∈ t.servers, x < t.numNodes
  numNodes_lt : t.numNodes < 2 ^ 31
  edgeStrings : getParamOrFail "undirected_edges" config >>= parseSetString = .ok strings
  edges : forEach (addEdge t.numNodes) strings ⟨[], [], List.replicate t.numNodes []⟩ = .ok st
  count : st.undirectedEdges.length = t.numUndirectedEdges
  once : st.undirectedEdges.length = st.undirectedEdgesSet.length
  disjoint : directSetIntersection t.servers t.switches = []
  cover : (directSetUnion t.servers t.switches).length = t.numNodes
  tors_switches : (directSetIntersection t.switches t.switchesWhichAreTors).length = t.switchesWhichAreTors.length
  servers_tors : checkServers t.servers t.switchesWhichAreTors st.adjacencyList = .ok ()
  assigned : sim.distributedEnabled = true → sim.distributedNodeSystemIdAssignment.length = t.numNodes
  allNodeIds : t.allNodeIds = List.range t.numNodes
  undirectedEdges : t.undirectedEdges = sortEdges st.undirectedEdges
  undirectedEdgesSet : t.undirectedEdgesSet = st.undirectedEdgesSet
  adjacencyList : t.adjacencyList = st.adjacencyList
  hasZeroServers : t.hasZeroServers = t.servers.isEmpty

theorem parseTopologyGraph_ok {sim : BasicSimulation} {config : Config} {t : TopologyPtop} :
    parseTopologyGraph sim config = .ok t ↔ ∃ strings st, Parsed sim config t strings st := by
  constructor
  · intro h
    unfold parseTopologyGraph at h
    obtain ⟨numNodes, hnodes, h⟩ := bind_ok h
    obtain ⟨numUndirectedEdges, hcount, h⟩ := bind_ok h
    obtain ⟨switches, hswitches, h⟩ := bind_ok h
    obtain ⟨_, hswitchesLt, h⟩ := bind_ok h
    obtain ⟨tors, htors, h⟩ := bind_ok h
    obtain ⟨_, htorsLt, h⟩ := bind_ok h
    obtain ⟨servers, hservers, h⟩ := bind_ok h
    obtain ⟨_, hserversLt, h⟩ := bind_ok h
    obtain ⟨i, hint, h⟩ := bind_ok h
    obtain ⟨strings, hstrings, h⟩ := bind_ok h
    obtain ⟨st, hst, h⟩ := bind_ok h
    simp only [ite_error_eq_ok, bind_eq_ok, ne_eq, not_not, not_and] at h
    obtain ⟨hlen, honce, hdisjoint, hcover, htorsSwitches, _, hcheck, hassigned, h⟩ := h
    cases h
    refine ⟨strings, st, hnodes, hcount, hswitches, (allItemsAreLessThan_ok _ _).1 hswitchesLt, htors,
      (allItemsAreLessThan_ok _ _).1 htorsLt, hservers, (allItemsAreLessThan_ok _ _).1 hserversLt, ?_, hstrings, hst, hlen,
      honce, hdisjoint, hcover, htorsSwitches, hcheck, hassigned, rfl, rfl, rfl, rfl, rfl⟩
    have hrange := (int32_ok_iff.1 hint).1
    simp only
    omega
  · rintro ⟨strings, st, h⟩
    have hresult : t = ⟨t.numNodes, t.numUndirectedEdges, t.switches, t.switchesWhichAreTors, t.servers,
        List.range t.numNodes, sortEdges st.undirectedEdges, st.undirectedEdgesSet, st.adjacencyList,
        t.servers.isEmpty⟩ := by
      rw [← h.allNodeIds, ← h.undirectedEdges, ← h.undirectedEdgesSet, ← h.adjacencyList, ← h.hasZeroServers]
    have hlt := h.numNodes_lt
    unfold parseTopologyGraph
    simp only [h.numNodes, h.numUndirectedEdges, h.switches, (allItemsAreLessThan_ok _ _).2 h.switches_lt, h.tors,
      (allItemsAreLessThan_ok _ _).2 h.tors_lt, h.servers, (allItemsAreLessThan_ok _ _).2 h.servers_lt, h.edgeStrings,
      int32_eq (x := (t.numNodes : Int)) (by omega) (by omega), h.edges, h.servers_tors, ok_bind, ite_error_eq_ok,
      ne_eq, not_not, not_and]
    exact ⟨h.count, h.once, h.disjoint, h.cover, h.tors_switches, h.assigned, congrArg _ hresult.symm⟩

theorem parseTopologyGraph_accepted {sim : BasicSimulation} {config : Config} {t : TopologyPtop}
    (h : parseTopologyGraph sim config = .ok t) : Accepted t := by
  obtain ⟨strings, st, hp⟩ := parseTopologyGraph_ok.1 h
  have hi := edgeInv_forEach hp.edges
  have hn : st.undirectedEdges.Nodup := by
    rw [← OrdSet.length_ofList_eq_iff edge_lt, ← hi.set, ← hp.once]
  refine ⟨fun e hm => ?_, ?_, ?_, ?_, fun u l hl => ?_⟩
  · rw [hp.undirectedEdges, mem_sortEdges] at hm
    exact hi.edges e hm
  · rw [hp.undirectedEdges]
    exact sortEdges_sorted hn
  · rw [hp.undirectedEdges, sortEdges, List.length_insertionSort]
    exact hp.count
  · rw [hp.adjacencyList]
    exact hi.adjLength
  · rw [hp.adjacencyList] at hl
    simp only [hp.undirectedEdges, mem_sortEdges]
    exact hi.adj u l hl

/-! ## A topology of two parts -/

/-- Two links with nothing between them; `ParseTopologyGraph` does not ask for a connected graph. -/
def twoPairsConfig : Config :=
  [("num_nodes".toList, "4".toList), ("num_undirected_edges".toList, "2".toList),
   ("switches".toList, "set(0,1,2,3)".toList), ("switches_which_are_tors".toList, "set(0,1,2,3)".toList),
   ("servers".toList, "set()".toList), ("undirected_edges".toList, "set(0-1,2-3)".toList)]

def twoPairs : TopologyPtop :=
  { numNodes := 4
    numUndirectedEdges := 2
    switches := [0, 1, 2, 3]
    switchesWhichAreTors := [0, 1, 2, 3]
    servers := []
    allNodeIds := [0, 1, 2, 3]
    undirectedEdges := [(0, 1), (2, 3)]
    undirectedEdgesSet := [(0, 1), (2, 3)]
    adjacencyList := [[1], [0], [3], [2]]
    hasZeroServers := true }

theorem parseTopologyGraph_twoPairs : parseTopologyGraph ⟨false, []⟩ twoPairsConfig = .ok twoPairs := by
  decide +kernel

end SatNet.Ptop
