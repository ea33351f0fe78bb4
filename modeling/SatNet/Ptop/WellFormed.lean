/-
Which topologies `ParseTopologyGraph` accepts, stated over what the property strings spell, and what it
leaves of an accepted one.
-/
import SatNet.Base.Spelling
import SatNet.Ptop.Topology
import Mathlib.Data.List.Perm.Subperm

namespace SatNet.Ptop

open SatNet.ExpUtil SatNet.Loop

/-! ## What the properties spell -/

/-- An edge `a-b`. -/
def SpellsEdge (s : Str) (e : Edge) : Prop := ∃ l r, Separates '-' s [l, r] ∧ SpellsNat l e.1 ∧ SpellsNat r e.2

/-- The edges listed in a set, in the order of the list. -/
def SpellsEdges (s : Str) (edges : List Edge) : Prop := ∃ pieces, SpellsList s pieces ∧
    List.Forall₂ SpellsEdge pieces edges

/-- The property is there and spells the value. -/
def HasProperty {α : Type} (config : Config) (key : String) (spells : Str → α → Prop) (x : α) : Prop :=
  ∃ v, config.lookup key.toList = some v ∧ spells v x

/-- The numbers of a topology and its lists, in the order they are listed in. -/
structure Listed where
  numNodes : Nat
  numUndirectedEdges : Nat
  switches : List Nat
  tors : List Nat
  servers : List Nat
  edges : List Edge

structure Spells (config : Config) (d : Listed) : Prop where
  numNodes : HasProperty config "num_nodes" SpellsNat d.numNodes
  numUndirectedEdges : HasProperty config "num_undirected_edges" SpellsNat d.numUndirectedEdges
  switches : HasProperty config "switches" SpellsNats d.switches
  tors : HasProperty config "switches_which_are_tors" SpellsNats d.tors
  servers : HasProperty config "servers" SpellsNats d.servers
  edges : HasProperty config "undirected_edges" SpellsEdges d.edges

/-- No node is listed twice in one set. -/
structure NodesOnce (d : Listed) : Prop where
  switches : d.switches.Nodup
  tors : d.tors.Nodup
  servers : d.servers.Nodup

/-- A well-formed topology: all that is listed is there, servers and switches are the nodes, ToRs are switches
and the only neighbours of servers, and the edges differ and go upwards. -/
structure WellFormed (sim : BasicSimulation) (d : Listed) : Prop where
  edges_once : d.edges.Nodup
  switches_lt : ∀ x ∈ d.switches, x < d.numNodes
  tors_lt : ∀ x ∈ d.tors, x < d.numNodes
  servers_lt : ∀ x ∈ d.servers, x < d.numNodes
  disjoint : ∀ x ∈ d.servers, x ∉ d.switches
  cover : ∀ x < d.numNodes, x ∈ d.servers ∨ x ∈ d.switches
  tors_switches : ∀ x ∈ d.tors, x ∈ d.switches
  edge : ∀ e ∈ d.edges, e.1 < e.2 ∧ e.2 < d.numNodes
  count : d.edges.length = d.numUndirectedEdges
  servers_tors : ∀ e ∈ d.edges, (e.1 ∈ d.servers → e.2 ∈ d.tors) ∧ (e.2 ∈ d.servers → e.1 ∈ d.tors)
  assigned : sim.distributedEnabled = true → sim.distributedNodeSystemIdAssignment.length = d.numNodes

/-! ## Reading an edge -/

def EdgeState.add (st : EdgeState) (e : Edge) : EdgeState where
  undirectedEdges := st.undirectedEdges ++ [e]
  undirectedEdgesSet := OrdSet.insert edgeLt e st.undirectedEdgesSet
  adjacencyList := (st.adjacencyList.modify e.1 (OrdSet.insert (· < ·) e.2)).modify e.2 (OrdSet.insert (· < ·) e.1)

/-- A round of the loop over the edge strings succeeds exactly on an upward edge between nodes. -/
theorem addEdge_iff {numNodes : Nat} {st st' : EdgeState} {s : Str} :
    addEdge numNodes st s = .ok st' ↔
      ∃ e, (SpellsEdge s e ∧ e.1 < e.2 ∧ e.2 < numNodes) ∧ st' = st.add e := by
  unfold addEdge
  refine twoNats_ok.trans ?_
  simp only [ite_error_eq_ok, Except.ok.injEq]
  constructor
  · rintro ⟨l, r, a, b, hsplit, hl, hr, h₁, h₂, h₃, h₄, rfl⟩
    exact ⟨(a, b), ⟨⟨l, r, splitString_ok.1 hsplit, hl, hr⟩, by simp only; omega, by simp only; omega⟩, rfl⟩
  · rintro ⟨⟨a, b⟩, ⟨⟨l, r, hsep, hl, hr⟩, hlt, hb⟩, rfl⟩
    simp only at hlt hb
    exact ⟨l, r, a, b, splitString_ok.2 hsep, hl, hr, by omega, by omega, by omega, by omega, rfl⟩

/-- The loop over the edge strings ends exactly if each is an upward edge between nodes. -/
theorem forEach_addEdge {numNodes : Nat} {strings : List Str} {st st' : EdgeState} :
    forEach (addEdge numNodes) strings st = .ok st' ↔
      ∃ edges, List.Forall₂ (fun s e => SpellsEdge s e ∧ e.1 < e.2 ∧ e.2 < numNodes) strings edges ∧
        st' = edges.foldl EdgeState.add st := by
  induction strings generalizing st with
  | nil => simp [forEach, eq_comm]
  | cons s strings ih =>
    unfold forEach
    simp only [bind_eq_ok, addEdge_iff, ih, List.forall₂_cons_left_iff]
    constructor
    · rintro ⟨_, ⟨e, he, rfl⟩, edges, hedges, rfl⟩
      exact ⟨e :: edges, ⟨e, edges, he, hedges, rfl⟩, rfl⟩
    · rintro ⟨_, ⟨e, edges, he, hedges, rfl⟩, rfl⟩
      exact ⟨_, ⟨e, he, rfl⟩, edges, hedges, rfl⟩

theorem foldl_add_undirectedEdges : ∀ (edges : List Edge) (st : EdgeState),
    (edges.foldl EdgeState.add st).undirectedEdges = st.undirectedEdges ++ edges
  | [], st => by simp
  | e :: edges, st => by
    rw [List.foldl_cons, foldl_add_undirectedEdges edges]
    simp [EdgeState.add]

theorem SpellsEdge.unique {s : Str} {e f : Edge} (he : SpellsEdge s e) (hf : SpellsEdge s f) : e = f := by
  obtain ⟨l, r, hsep, hl, hr⟩ := he
  obtain ⟨l', r', hsep', hl', hr'⟩ := hf
  have hparts := (separates_iff.1 hsep).trans (separates_iff.1 hsep').symm
  cases hparts
  exact Prod.ext (hl.unique hl') (hr.unique hr')

/-! ## The checks on sets -/

theorem directSetIntersection_nil {s₁ s₂ : List Nat} :
    directSetIntersection s₁ s₂ = [] ↔ ∀ x ∈ s₁, x ∉ s₂ := by
  simp [directSetIntersection, List.filter_eq_nil_iff]

/-- A list of different numbers below a bound is as long as the bound exactly if it has them all. -/
theorem length_eq_iff_cover {l : List Nat} {n : Nat} (hn : l.Nodup) (hlt : ∀ x ∈ l, x < n) :
    l.length = n ↔ ∀ x < n, x ∈ l := by
  have hsub : l.Subperm (List.range n) := List.subperm_of_subset hn fun x hx => List.mem_range.2 (hlt x hx)
  constructor
  · intro hlen x hx
    have hperm := hsub.perm_of_length_le (by rw [List.length_range, hlen])
    exact hperm.mem_iff.2 (List.mem_range.2 hx)
  · intro hall
    have hle := hsub.length_le
    have hge := (List.subperm_of_subset List.nodup_range fun x hx => hall x (List.mem_range.1 hx)).length_le
    rw [List.length_range] at hle hge
    exact Nat.le_antisymm hle hge

theorem directSetUnion_spec {s₁ : List Nat} (s₂ : List Nat) (h : s₁.Pairwise (· < ·)) :
    (directSetUnion s₁ s₂).Nodup ∧ ∀ x, x ∈ directSetUnion s₁ s₂ ↔ x ∈ s₁ ∨ x ∈ s₂ := by
  obtain ⟨hs, hm⟩ := OrdSet.foldl_insert_spec nat_lt s₂ s₁ h
  exact ⟨OrdSet.sorted_nodup nat_lt hs, hm⟩

/-- The elements of a set that are in another are all of it exactly if it is a subset. -/
theorem directSetIntersection_length {s₁ s₂ : List Nat} (h₁ : s₁.Nodup) (h₂ : s₂.Nodup) :
    (directSetIntersection s₁ s₂).length = s₂.length ↔ ∀ x ∈ s₂, x ∈ s₁ := by
  have hmem : ∀ x, x ∈ directSetIntersection s₁ s₂ ↔ x ∈ s₁ ∧ x ∈ s₂ := fun x => by simp [directSetIntersection]
  have hn : (directSetIntersection s₁ s₂).Nodup := h₁.sublist List.filter_sublist
  constructor
  · intro hlen x hx
    have hsub : (directSetIntersection s₁ s₂).Subperm s₂ := List.subperm_of_subset hn fun x hx => ((hmem x).1 hx).2
    have hperm := hsub.perm_of_length_le (by rw [hlen])
    exact ((hmem x).1 (hperm.mem_iff.2 hx)).1
  · intro hall
    have hperm : (directSetIntersection s₁ s₂).Perm s₂ := by
      rw [List.perm_ext_iff_of_nodup hn h₂]
      intro x
      rw [hmem]
      exact ⟨And.right, fun hx => ⟨hall x hx, hx⟩⟩
    exact hperm.length_eq

/-- "Servers must be connected to ToRs only". -/
theorem checkServers_ok {servers tors : List Nat} {adj : List (List Nat)} (h : ∀ s ∈ servers, s < adj.length) :
    checkServers servers tors adj = .ok () ↔ ∀ s ∈ servers, ∀ l, adj[s]? = some l → ∀ v ∈ l, v ∈ tors := by
  unfold checkServers
  rw [forEach_unit]
  refine forall₂_congr fun s hs => ?_
  rw [index_lt (h s hs), ok_bind, forEach_unit, List.getElem?_eq_getElem (h s hs)]
  simp

/-! ## The whole parser -/

theorem param_ok {α : Type} {parse : Str → Res α} {key : String} {config : Config} {x : α} :
    getParamOrFail key config >>= parse = .ok x ↔ ∃ v, config.lookup key.toList = some v ∧ parse v = .ok x := by
  unfold getParamOrFail
  cases config.lookup key.toList with
  | none => simp [error_bind]
  | some v => simp [ok_bind]

theorem natProperty_ok {key : String} {config : Config} {n : Nat} :
    getParamOrFail key config >>= parsePositiveInt64 = .ok n ↔ HasProperty config key SpellsNat n := by
  simp only [param_ok, parsePositiveInt64_ok, HasProperty]

theorem setProperty_ok {key : String} {config : Config} {set : List Nat} :
    getParamOrFail key config >>= parseSetPositiveInt64 = .ok set ↔
      ∃ ids, HasProperty config key SpellsNats ids ∧ ids.Nodup ∧ set = OrdSet.ofList (· < ·) ids := by
  simp only [param_ok, parseSetPositiveInt64_ok]
  constructor
  · rintro ⟨v, hv, ids, hids, hn, rfl⟩
    exact ⟨ids, ⟨v, hv, hids⟩, hn, rfl⟩
  · rintro ⟨ids, ⟨v, hv, hids⟩, hn, rfl⟩
    exact ⟨v, hv, ids, hids, hn, rfl⟩

/-- The loop over the edge strings went through, without a duplicate. -/
def ReadsEdges (config : Config) (numNodes : Nat) (strings : List Str) (st : EdgeState) : Prop :=
  getParamOrFail "undirected_edges" config >>= parseSetString = .ok strings ∧
    forEach (addEdge numNodes) strings ⟨[], [], List.replicate numNodes []⟩ = .ok st ∧
    st.undirectedEdges.length = st.undirectedEdgesSet.length

/-- The counting of the source finds every duplicate: as many different pairs as strings means that all the
edges differ, in every spelling. -/
theorem readsEdges_once {config : Config} {numNodes : Nat} {strings : List Str} {st : EdgeState}
    (h : ReadsEdges config numNodes strings st) : st.undirectedEdges.Nodup := by
  rw [← OrdSet.length_ofList_eq_iff edge_lt, ← (edgeInv_forEach h.2.1).set, ← h.2.2]

theorem readsEdges_ok {config : Config} {numNodes : Nat} {strings : List Str} {st : EdgeState}
    (h : ReadsEdges config numNodes strings st) :
    ∃ edges, HasProperty config "undirected_edges" SpellsEdges edges ∧ edges.Perm st.undirectedEdges ∧ edges.Nodup ∧
      ∀ e ∈ edges, e.1 < e.2 ∧ e.2 < numNodes := by
  have hinv := edgeInv_forEach h.2.1
  have hn := readsEdges_once h
  obtain ⟨hstrings, hloop, -⟩ := h
  obtain ⟨v, hv, hset⟩ := param_ok.1 hstrings
  obtain ⟨pieces, hpieces, hpn, rfl⟩ := parseSetString_ok.1 hset
  obtain ⟨es, hes, rfl⟩ := forEach_addEdge.1 hloop
  rw [foldl_add_undirectedEdges, List.nil_append] at *
  have hspell := hes.imp fun _ _ h => h.1
  obtain ⟨edges, hedges, hperm⟩ := List.perm_comp_forall₂ (OrdSet.ofList_perm_self list_lt hpn).symm hspell
  exact ⟨edges, ⟨v, hv, pieces, hpieces, hedges⟩, hperm, hperm.nodup_iff.2 hn,
    fun e he => hinv.edges e (by rw [foldl_add_undirectedEdges]; exact hperm.mem_iff.1 he)⟩

theorem readsEdges_of {config : Config} {numNodes : Nat} {edges : List Edge}
    (h : HasProperty config "undirected_edges" SpellsEdges edges) (hn : edges.Nodup)
    (hlt : ∀ e ∈ edges, e.1 < e.2 ∧ e.2 < numNodes) :
    ∃ strings st, ReadsEdges config numNodes strings st ∧ edges.Perm st.undirectedEdges := by
  obtain ⟨v, hv, pieces, hpieces, hedges⟩ := h
  have hpn := OrdSet.nodup_of_forall₂ (r := SpellsEdge) (fun _ _ _ => SpellsEdge.unique) hedges hn
  obtain ⟨es, hes, hperm⟩ := List.perm_comp_forall₂ (OrdSet.ofList_perm_self list_lt hpn) hedges
  have hloop : forEach (addEdge numNodes) (OrdSet.ofList (· < ·) pieces) ⟨[], [], List.replicate numNodes []⟩ =
      .ok (es.foldl EdgeState.add ⟨[], [], List.replicate numNodes []⟩) := by
    have hbounds : ∀ e ∈ es, e.1 < e.2 ∧ e.2 < numNodes := fun e he => hlt e (hperm.mem_iff.1 he)
    refine forEach_addEdge.2 ⟨es, ?_, rfl⟩
    exact ((List.forall₂_and_left es _).2 ⟨hbounds, hes.flip⟩).flip.imp fun _ _ h => ⟨h.2, h.1⟩
  have hall : (es.foldl EdgeState.add ⟨[], [], List.replicate numNodes []⟩).undirectedEdges = es := by
    rw [foldl_add_undirectedEdges, List.nil_append]
  refine ⟨_, _, ⟨param_ok.2 ⟨v, hv, parseSetString_ok.2 ⟨pieces, hpieces, hpn, rfl⟩⟩, hloop, ?_⟩, ?_⟩
  · rw [(edgeInv_forEach hloop).set, hall, eq_comm, OrdSet.length_ofList_eq_iff edge_lt]
    exact hperm.nodup_iff.2 hn
  · rw [hall]
    exact hperm.symm

/-- The neighbours that the check of the servers looks at are the other ends of their edges. -/
theorem checkServers_iff {numNodes : Nat} {st : EdgeState} {edges : List Edge} {servers tors : List Nat}
    (hinv : EdgeInv numNodes st) (hperm : edges.Perm st.undirectedEdges) (hlt : ∀ s ∈ servers, s < numNodes) :
    checkServers servers tors st.adjacencyList = .ok () ↔
      ∀ e ∈ edges, (e.1 ∈ servers → e.2 ∈ tors) ∧ (e.2 ∈ servers → e.1 ∈ tors) := by
  have hlen : ∀ s ∈ servers, s < st.adjacencyList.length := fun s hs => by rw [hinv.adjLength]; exact hlt s hs
  rw [checkServers_ok hlen]
  constructor
  · rintro h ⟨u, v⟩ he
    have he' := hperm.mem_iff.1 he
    refine ⟨fun hu => ?_, fun hv => ?_⟩
    · have hl := List.getElem?_eq_getElem (hlen u hu)
      exact h u hu _ hl v (((hinv.adj u _ hl).2 v).2 (.inl he'))
    · have hl := List.getElem?_eq_getElem (hlen v hv)
      exact h v hv _ hl u (((hinv.adj v _ hl).2 u).2 (.inr he'))
  · intro h s hs l hl v hv
    rcases ((hinv.adj s l hl).2 v).1 hv with he | he
    · exact (h _ (hperm.mem_iff.2 he)).1 hs
    · exact (h _ (hperm.mem_iff.2 he)).2 hs

/-- An accepted configuration spells a well-formed topology. -/
theorem Parsed.wellFormed {sim : BasicSimulation} {config : Config} {t : TopologyPtop} {strings : List Str}
    {st : EdgeState} (h : Parsed sim config t strings st) :
    ∃ d, Spells config d ∧ NodesOnce d ∧ WellFormed sim d ∧ d.numNodes = t.numNodes := by
  obtain ⟨switches, hswitches, hsn, hset⟩ := setProperty_ok.1 h.switches
  obtain ⟨tors, htors, htn, htset⟩ := setProperty_ok.1 h.tors
  obtain ⟨servers, hservers, hvn, hvset⟩ := setProperty_ok.1 h.servers
  obtain ⟨edges, hedges, hperm, hen, helt⟩ := readsEdges_ok ⟨h.edgeStrings, h.edges, h.once⟩
  have hs : ∀ x, x ∈ t.switches ↔ x ∈ switches := fun x => by rw [hset, OrdSet.mem_ofList nat_lt]
  have ht : ∀ x, x ∈ t.switchesWhichAreTors ↔ x ∈ tors := fun x => by rw [htset, OrdSet.mem_ofList nat_lt]
  have hv : ∀ x, x ∈ t.servers ↔ x ∈ servers := fun x => by rw [hvset, OrdSet.mem_ofList nat_lt]
  have hsorted : ∀ l : List Nat, (OrdSet.ofList (· < ·) l).Pairwise (· < ·) := OrdSet.ofList_sorted nat_lt
  obtain ⟨hun, hum⟩ := directSetUnion_spec t.switches (hvset ▸ hsorted servers)
  refine ⟨⟨t.numNodes, t.numUndirectedEdges, switches, tors, servers, edges⟩,
    ⟨natProperty_ok.1 h.numNodes, natProperty_ok.1 h.numUndirectedEdges, hswitches, htors, hservers, hedges⟩,
    ⟨hsn, htn, hvn⟩, ⟨hen, ?_, ?_, ?_, ?_, ?_, ?_, helt, ?_, ?_, h.assigned⟩, rfl⟩
  · exact fun x hx => h.switches_lt x ((hs x).2 hx)
  · exact fun x hx => h.tors_lt x ((ht x).2 hx)
  · exact fun x hx => h.servers_lt x ((hv x).2 hx)
  · exact fun x hx hx' => directSetIntersection_nil.1 h.disjoint x ((hv x).2 hx) ((hs x).2 hx')
  · intro x hx
    have hlt : ∀ x ∈ directSetUnion t.servers t.switches, x < t.numNodes :=
      fun x hx => ((hum x).1 hx).elim (h.servers_lt x) (h.switches_lt x)
    exact ((hum x).1 ((length_eq_iff_cover hun hlt).1 h.cover x hx)).imp (hv x).1 (hs x).1
  · intro x hx
    have hsub := (directSetIntersection_length (OrdSet.sorted_nodup nat_lt (hset ▸ hsorted switches))
      (OrdSet.sorted_nodup nat_lt (htset ▸ hsorted tors))).1 h.tors_switches
    exact (hs x).1 (hsub x ((ht x).2 hx))
  · exact hperm.length_eq.trans h.count
  · have hcheck := (checkServers_iff (edgeInv_forEach h.edges) hperm h.servers_lt).1 h.servers_tors
    simpa only [hv, ht] using hcheck

/-- The fields that the parser leaves of what is listed. -/
def Listed.topology (d : Listed) (st : EdgeState) : TopologyPtop where
  numNodes := d.numNodes
  numUndirectedEdges := d.numUndirectedEdges
  switches := OrdSet.ofList (· < ·) d.switches
  switchesWhichAreTors := OrdSet.ofList (· < ·) d.tors
  servers := OrdSet.ofList (· < ·) d.servers
  allNodeIds := List.range d.numNodes
  undirectedEdges := sortEdges st.undirectedEdges
  undirectedEdgesSet := st.undirectedEdgesSet
  adjacencyList := st.adjacencyList
  hasZeroServers := (OrdSet.ofList (· < ·) d.servers).isEmpty

/-- A configuration that spells a well-formed topology is accepted. -/
theorem WellFormed.parses {sim : BasicSimulation} {config : Config} {d : Listed} (hc : Spells config d)
    (ho : NodesOnce d) (hw : WellFormed sim d) (hlt : d.numNodes < 2 ^ 31) :
    ∃ t, parseTopologyGraph sim config = .ok t := by
  obtain ⟨strings, st, hread, hperm⟩ := readsEdges_of hc.edges hw.edges_once hw.edge
  have hsorted : ∀ l : List Nat, (OrdSet.ofList (· < ·) l).Pairwise (· < ·) := OrdSet.ofList_sorted nat_lt
  have hmem : ∀ (l : List Nat) x, x ∈ OrdSet.ofList (· < ·) l ↔ x ∈ l := fun l x => OrdSet.mem_ofList nat_lt
  obtain ⟨hun, hum⟩ := directSetUnion_spec (OrdSet.ofList (· < ·) d.switches) (hsorted d.servers)
  refine ⟨d.topology st, parseTopologyGraph_ok.2 ⟨strings, st, natProperty_ok.2 hc.numNodes,
    natProperty_ok.2 hc.numUndirectedEdges, setProperty_ok.2 ⟨_, hc.switches, ho.switches, rfl⟩, ?_,
    setProperty_ok.2 ⟨_, hc.tors, ho.tors, rfl⟩, ?_, setProperty_ok.2 ⟨_, hc.servers, ho.servers, rfl⟩, ?_, hlt,
    hread.1, hread.2.1, ?_, hread.2.2, ?_, ?_, ?_, ?_, hw.assigned, rfl, rfl, rfl, rfl, rfl⟩⟩
  · exact fun x hx => hw.switches_lt x ((hmem _ x).1 hx)
  · exact fun x hx => hw.tors_lt x ((hmem _ x).1 hx)
  · exact fun x hx => hw.servers_lt x ((hmem _ x).1 hx)
  · exact hperm.length_eq.symm.trans hw.count
  · exact directSetIntersection_nil.2 fun x hx hx' => hw.disjoint x ((hmem _ x).1 hx) ((hmem _ x).1 hx')
  · refine (length_eq_iff_cover hun fun x hx => ?_).2 fun x hx => ?_
    · exact ((hum x).1 hx).elim (fun hx => hw.servers_lt x ((hmem _ x).1 hx)) fun hx => hw.switches_lt x ((hmem _ x).1 hx)
    · exact (hum x).2 ((hw.cover x hx).imp (hmem _ x).2 (hmem _ x).2)
  · refine (directSetIntersection_length (OrdSet.sorted_nodup nat_lt (hsorted _))
      (OrdSet.sorted_nodup nat_lt (hsorted _))).2 fun x hx => ?_
    exact (hmem _ x).2 (hw.tors_switches x ((hmem _ x).1 hx))
  · refine (checkServers_iff (edgeInv_forEach hread.2.1) hperm fun x hx => hw.servers_lt x ((hmem _ x).1 hx)).2 ?_
    simpa only [Listed.topology, hmem] using hw.servers_tors

/-! ## The accepted topologies -/

/-- The edges of an accepted topology: the vector is in order and is the set, and the adjacency lists hold
each edge in both directions and nothing else. -/
structure EdgesAgree (t : TopologyPtop) : Prop where
  sorted : t.undirectedEdges.Pairwise edgeLt
  set : t.undirectedEdges = t.undirectedEdgesSet
  length : t.adjacencyList.length = t.numNodes
  irreflexive : ∀ (u : Nat) l, t.adjacencyList[u]? = some l → u ∉ l
  symmetric : ∀ (u : Nat) l (v : Nat), t.adjacencyList[u]? = some l → v ∈ l → ∃ l', t.adjacencyList[v]? = some l' ∧ u ∈ l'
  adj : ∀ (u : Nat) l v, t.adjacencyList[u]? = some l → (v ∈ l ↔ (u, v) ∈ t.undirectedEdges ∨
    (v, u) ∈ t.undirectedEdges)

theorem Parsed.edgesAgree {sim : BasicSimulation} {config : Config} {t : TopologyPtop} {strings : List Str}
    {st : EdgeState} (h : Parsed sim config t strings st) : EdgesAgree t := by
  have ha := parseTopologyGraph_accepted (parseTopologyGraph_ok.2 ⟨strings, st, h⟩)
  have hset : t.undirectedEdges = t.undirectedEdgesSet := by
    have hs := OrdSet.ofList_sorted edge_lt st.undirectedEdges
    have hn := readsEdges_once ⟨h.edgeStrings, h.edges, h.once⟩
    have hperm : t.undirectedEdges.Perm (OrdSet.ofList edgeLt st.undirectedEdges) := by
      rw [h.undirectedEdges]
      exact (List.perm_insertionSort _ _).trans (OrdSet.ofList_perm_self edge_lt hn).symm
    rw [h.undirectedEdgesSet, (edgeInv_forEach h.edges).set]
    exact hperm.eq_of_pairwise (fun a b _ _ hab hba => absurd (edge_lt.trans hab hba) (edge_lt.irrefl a)) ha.sorted hs
  refine ⟨ha.sorted, hset, ha.adjLength, fun u l hl hu => ?_, fun u l v hl hv => ?_,
    fun u l v hl => (ha.adj u l hl).2 v⟩
  · rcases ((ha.adj u l hl).2 u).1 hu with he | he <;> exact absurd (ha.edge _ he).1 (lt_irrefl u)
  · have he := ((ha.adj u l hl).2 v).1 hv
    have hlt : v < t.adjacencyList.length := by
      rw [ha.adjLength]
      rcases he with he | he
      · exact (ha.edge _ he).2
      · exact lt_trans (ha.edge _ he).1 (ha.edge _ he).2
    exact ⟨_, List.getElem?_eq_getElem hlt, ((ha.adj v _ (List.getElem?_eq_getElem hlt)).2 u).2 he.symm⟩

/-- Of the configurations whose number of nodes an `int` counts, `ParseTopologyGraph` accepts exactly those
that spell a well-formed topology and list no node twice, and leaves its edges sorted and in both adjacency
lists. -/
theorem parseTopologyGraph_iff {sim : BasicSimulation} {config : Config}
    (hint : ∀ n, HasProperty config "num_nodes" SpellsNat n → n < 2 ^ 31) :
    ((∃ t, parseTopologyGraph sim config = .ok t) ↔ ∃ d, Spells config d ∧ NodesOnce d ∧ WellFormed sim d) ∧
      ∀ t, parseTopologyGraph sim config = .ok t → EdgesAgree t := by
  refine ⟨⟨?_, ?_⟩, ?_⟩
  · rintro ⟨t, ht⟩
    obtain ⟨strings, st, h⟩ := parseTopologyGraph_ok.1 ht
    obtain ⟨d, hc, ho, hw, -⟩ := h.wellFormed
    exact ⟨d, hc, ho, hw⟩
  · rintro ⟨d, hc, ho, hw⟩
    exact hw.parses hc ho (hint _ hc.numNodes)
  · rintro t ht
    obtain ⟨strings, st, h⟩ := parseTopologyGraph_ok.1 ht
    exact h.edgesAgree

theorem parseTopologyGraph_iff_twoPairs :
    ((∃ t, parseTopologyGraph ⟨false, []⟩ twoPairsConfig = .ok t) ↔
      ∃ d, Spells twoPairsConfig d ∧ NodesOnce d ∧ WellFormed ⟨false, []⟩ d) ∧
      ∀ t, parseTopologyGraph ⟨false, []⟩ twoPairsConfig = .ok t → EdgesAgree t := by
  refine parseTopologyGraph_iff fun n hn => ?_
  have h4 : getParamOrFail "num_nodes" twoPairsConfig >>= parsePositiveInt64 = .ok 4 := by decide +kernel
  rw [natProperty_ok.2 hn] at h4
  cases h4
  decide

/-- A single switch that is listed twice. -/
def twiceConfig : Config :=
  [("num_nodes".toList, "1".toList), ("num_undirected_edges".toList, "0".toList),
   ("switches".toList, "set(0,00)".toList), ("switches_which_are_tors".toList, "set()".toList),
   ("servers".toList, "set()".toList), ("undirected_edges".toList, "set()".toList)]

theorem parseTopologyGraph_counterexample :
    (∃ d, Spells twiceConfig d ∧ WellFormed ⟨false, []⟩ d) ∧
      ¬ ∃ t, parseTopologyGraph ⟨false, []⟩ twiceConfig = .ok t := by
  constructor
  · have hnat : ∀ (s : String) n, parsePositiveInt64 s.toList = .ok n → SpellsNat s.toList n :=
      fun _ _ => parsePositiveInt64_ok.1
    have hnone : SpellsList "set()".toList [] := ⟨[], rfl, .inl ⟨rfl, rfl⟩⟩
    refine ⟨⟨1, 0, [0, 0], [], [], []⟩, ⟨⟨_, rfl, ?_⟩, ⟨_, rfl, ?_⟩, ⟨_, rfl, ["0".toList, "00".toList], ?_, ?_⟩,
      ⟨_, rfl, [], hnone, .nil⟩, ⟨_, rfl, [], hnone, .nil⟩, ⟨_, rfl, [], hnone, .nil⟩⟩, ?_⟩
    · exact hnat "1" 1 (by decide +kernel)
    · exact hnat "0" 0 (by decide +kernel)
    · refine ⟨"0,00".toList, rfl, .inr ⟨by decide +kernel, ["0".toList, "00".toList], ?_, by decide +kernel⟩⟩
      exact separates_iff.2 (by decide +kernel)
    · exact .cons (hnat "0" 0 (by decide +kernel)) (.cons (hnat "00" 0 (by decide +kernel)) .nil)
    · constructor <;> simp
  · rintro ⟨t, ht⟩
    have herr : parseTopologyGraph ⟨false, []⟩ twiceConfig =
        .error (.invalidArgument "Set set(0,00) contains int64 duplicates") := by decide +kernel
    rw [herr] at ht
    cases ht

end SatNet.Ptop
