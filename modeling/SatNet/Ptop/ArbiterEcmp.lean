/-
`ArbiterEcmp`: the hash of the five-tuple in the reused 17-byte buffer, the choice of a candidate by
its remainder, and the arbiters that `ArbiterEcmpHelper::InstallArbiters` puts on the nodes. A
decision is made exactly for the targets that a node can reach and that it is not itself.
-/
import SatNet.Ptop.ArbiterPtop
import SatNet.Ptop.EcmpHelper

namespace SatNet.Ptop

open SatNet.Loop

/-! ## Packets -/

/-- What the arbiters read of an `Ipv4Header`. -/
structure Ipv4Header where
  source : UInt32
  destination : UInt32
  protocol : UInt8
  deriving Repr, DecidableEq

structure Ports where
  sourcePort : UInt16
  destinationPort : UInt16
  deriving Repr, DecidableEq

/-- The ports that `PeekHeader` reads at the front of a packet, taken as a UDP and as a TCP header. -/
structure Packet where
  udpHeader : Ports
  tcpHeader : Ports
  deriving Repr, DecidableEq

def tcpProtNumber : UInt8 := 6

def udpProtNumber : UInt8 := 17

/-! ## The hash -/

/-- The hasher of the simulator; `GetHash32` goes on from the state that earlier calls left. -/
structure Hasher (H : Type) where
  clear : H → H
  getHash32 : H → List UInt8 → UInt32 × H

/-- `clear` restores the initial state. -/
structure Hasher.Lawful {H : Type} (hasher : Hasher H) : Prop where
  clear_eq : ∀ h h', hasher.clear h = hasher.clear h'

def rotl32 (x r : UInt32) : UInt32 := (x <<< r) ||| (x >>> (32 - r))

def murmurMix (k : UInt32) : UInt32 := rotl32 (k * 0xcc9e2d51) 15 * 0x1b873593

/-- The blocks of four bytes and the rest. -/
def murmurBody : UInt32 → List UInt8 → UInt32
  | h, b₀ :: b₁ :: b₂ :: b₃ :: bytes =>
    let k := b₀.toUInt32 ||| (b₁.toUInt32 <<< 8) ||| (b₂.toUInt32 <<< 16) ||| (b₃.toUInt32 <<< 24)
    murmurBody (rotl32 (h ^^^ murmurMix k) 13 * 5 + 0xe6546b64) bytes
  | h, [b₀, b₁, b₂] => h ^^^ murmurMix ((b₂.toUInt32 <<< 16) ^^^ (b₁.toUInt32 <<< 8) ^^^ b₀.toUInt32)
  | h, [b₀, b₁] => h ^^^ murmurMix ((b₁.toUInt32 <<< 8) ^^^ b₀.toUInt32)
  | h, [b₀] => h ^^^ murmurMix b₀.toUInt32
  | h, [] => h

def murmurFinish (size h : UInt32) : UInt32 :=
  let h := h ^^^ size
  let h := (h ^^^ (h >>> 16)) * 0x85ebca6b
  let h := (h ^^^ (h >>> 13)) * 0xc2b2ae35
  h ^^^ (h >>> 16)

/-- The hasher that `Hasher` uses unless it is told otherwise: its state is the running hash and the
number of bytes so far. -/
def murmur3 : Hasher (UInt32 × UInt32) where
  clear _ := (0x8badf00d, 0)
  getHash32 := fun (h, size) bytes =>
    let h := murmurBody h bytes
    let size := size + UInt32.ofNat bytes.length
    (murmurFinish size h, (h, size))

theorem murmur3_lawful : murmur3.Lawful := ⟨fun _ _ => rfl⟩

/-- `m_hash_input_buff`. -/
abbrev HashInputBuff := Fin 17 → UInt8

/-- `memcpy(&buff[off], bytes, n)`. -/
def memcpy (buff : HashInputBuff) (off : Nat) (bytes : List UInt8) : HashInputBuff :=
  fun i => if off ≤ i then (bytes[i - off]?).getD (buff i) else buff i

def bytes16 (x : UInt16) : List UInt8 := [x.toUInt8, (x >>> 8).toUInt8]

def bytes32 (x : UInt32) : List UInt8 := [x.toUInt8, (x >>> 8).toUInt8, (x >>> 16).toUInt8, (x >>> 24).toUInt8]

/-- The mutable members of an arbiter, which every decision overwrites. -/
structure Scratch (H : Type) where
  hashInputBuff : HashInputBuff
  hasher : H
  ipToNodeIdIt : Option (UInt32 × Nat)

def writePorts (buff : HashInputBuff) (ports : Ports) : HashInputBuff :=
  memcpy (memcpy buff 13 (bytes16 ports.sourcePort)) 15 (bytes16 ports.destinationPort)

def writeNoPorts (buff : HashInputBuff) : HashInputBuff :=
  memcpy (memcpy (memcpy (memcpy buff 13 [0]) 14 [0]) 15 [0]) 16 [0]

/-- The buffer after `ComputeFiveTupleHash` filled it. -/
def fillBuff (buff : HashInputBuff) (header : Ipv4Header) (p : Packet) (nodeId : Nat) (noOtherHeaders : Bool) :
    HashInputBuff :=
  let buff := memcpy buff 0 (bytes32 (UInt32.ofNat nodeId))
  let buff := memcpy buff 4 (bytes32 header.source)
  let buff := memcpy buff 8 (bytes32 header.destination)
  let buff := memcpy buff 12 [header.protocol]
  if noOtherHeaders then writeNoPorts buff
  else if header.protocol = udpProtNumber then writePorts buff p.udpHeader
  else if header.protocol = tcpProtNumber then writePorts buff p.tcpHeader
  else writeNoPorts buff

section Decide

variable {H : Type} (hasher : Hasher H)

def computeFiveTupleHash (header : Ipv4Header) (p : Packet) (nodeId : Nat) (noOtherHeaders : Bool) :
    Call Fail (Scratch H) UInt32 := do
  let st ← Call.get
  let buff := fillBuff st.hashInputBuff header p nodeId noOtherHeaders
  let (hash, h) := hasher.getHash32 (hasher.clear st.hasher) (List.ofFn buff)
  Call.set { st with hashInputBuff := buff, hasher := h }
  pure hash

/-! ## The arbiter -/

/-- The members that the constructors set and nothing changes. -/
structure ArbiterEcmp where
  base : ArbiterPtop
  candidateList : List (List Nat)
  ipToNodeId : List (UInt32 × Nat)
  deriving Repr, DecidableEq

/-- `hash % size` of the candidates for the target, where the size is first an `int`. -/
def selectCandidate (candidateList : List (List Nat)) (targetNodeId : Int) (hash : UInt32) : Res Int := do
  if targetNodeId < 0 then .error (.undefined "vector index out of range")
  else do
    let candidates ← index candidateList targetNodeId.toNat
    let s := toUInt32 (toInt32 candidates.length)
    if s = 0 then .error (.undefined "remainder modulo zero")
    else do
      let c ← index candidates (hash.toNat % s)
      .ok (toInt32 c)

def ArbiterEcmp.topologyPtopDecide (a : ArbiterEcmp) (targetNodeId : Int) (pkt : Packet) (ipHeader : Ipv4Header)
    (noNextHeader : Bool) : Call Fail (Scratch H) Int := do
  let hash ← computeFiveTupleHash hasher ipHeader pkt a.base.nodeId noNextHeader
  Call.lift (selectCandidate a.candidateList targetNodeId hash)

/-- `ArbiterPtop::Decide`; the strategy does not look at the source node and the neighbours. -/
def ArbiterEcmp.decide (a : ArbiterEcmp) (targetNodeId : Int) (pkt : Packet) (ipHeader : Ipv4Header)
    (isSocketRequest : Bool) : Call Fail (Scratch H) ArbiterResult :=
  a.base.decide fun _ => a.topologyPtopDecide hasher targetNodeId pkt ipHeader isSocketRequest

end Decide

/-! ## Installing -/

/-- `m_ip_to_node_id.insert`, which keeps an entry that is there. -/
def insertAddress (m : List (UInt32 × Nat)) (ip : UInt32) (node : Nat) : List (UInt32 × Nat) :=
  if (m.lookup ip).isSome then m else m ++ [(ip, node)]

/-- The map that the constructor of `Arbiter` builds from the address of every interface of every node;
interface 0 is the loopback. -/
def ipToNodeId (addresses : List (List UInt32)) : List (UInt32 × Nat) :=
  addresses.zipIdx.foldl (fun m node => node.1.tail.foldl (fun m ip => insertAddress m ip node.2) m) []

def installArbiters (t : TopologyPtop) (net : Links) (addresses : List (List UInt32)) : Res (List ArbiterEcmp) := do
  let globalEcmpState ← calculateGlobalState t
  forRange t.numNodes (fun i arbiters => do
    let base ← arbiterPtop t net i
    let candidateList ← index globalEcmpState i
    .ok (arbiters ++ [⟨base, candidateList, ipToNodeId addresses⟩])) []

/-- What the arbiter of node `u` holds after `InstallArbiters`. -/
structure Installed (t : TopologyPtop) (net : Links) (u : Nat) (a : ArbiterEcmp) : Prop where
  topology : a.base.topology = t
  nodeId : a.base.nodeId = u
  table : NeighborTable t net u a.base.neighborNodeIdToIfIdx
  candidates : ∀ target < t.numNodes, ∃ l, a.candidateList[target]? = some l ∧ Exact t u target l

section Install

variable {t : TopologyPtop} {net : Links}

/-- `InstallArbiters` ends on every accepted topology of at most 40000 nodes. -/
theorem installArbiters_ok (h : Accepted t) (hl : LinksInv t.numNodes t.undirectedEdges net)
    (hn : t.numNodes ≤ 40000) (addresses : List (List UInt32)) :
    ∃ arbiters, installArbiters t net addresses = .ok arbiters ∧ arbiters.length = t.numNodes ∧
      ∀ (u : Nat) (a : ArbiterEcmp), arbiters[u]? = some a → Installed t net u a := by
  obtain ⟨g, hg, ht⟩ := calculateGlobalState_table h hn
  obtain ⟨arbiters, hrun, hlen, hall⟩ := forRange_inv
    (fun i (arbiters : List ArbiterEcmp) => arbiters.length = i ∧
      ∀ (u : Nat) (a : ArbiterEcmp), arbiters[u]? = some a → Installed t net u a)
    (fun i arbiters => do
      let base ← arbiterPtop t net i
      let candidateList ← index g i
      .ok (arbiters ++ [⟨base, candidateList, ipToNodeId addresses⟩])) t.numNodes []
    ⟨rfl, nofun⟩ fun i hi arbiters ⟨hlen, hall⟩ => by
      obtain ⟨table, hbase, htable⟩ := arbiterPtop_ok h hl i
      obtain ⟨row, hrow, -, hentry⟩ := ht.row i hi
      refine ⟨arbiters ++ [⟨⟨t, i, table⟩, row, ipToNodeId addresses⟩], ?_, by simp [hlen], fun u a ha => ?_⟩
      · rw [hbase, ok_bind, index_ok.2 hrow, ok_bind]
      · rw [List.getElem?_append] at ha
        split at ha
        · exact hall u a ha
        · have hu : u = i := by
            have := (List.getElem?_eq_some_iff.1 ha).1
            simp only [List.length_singleton] at this; omega
          subst hu
          rw [hlen, Nat.sub_self, List.getElem?_cons_zero] at ha
          cases ha
          exact ⟨rfl, rfl, htable, fun target htg => ⟨_, hentry target htg, exact_candidates h hn htg⟩⟩
  exact ⟨arbiters, by unfold installArbiters; rw [hg, ok_bind]; exact hrun, hlen, hall⟩

/-- `InstallArbiters` refuses larger topologies. -/
theorem numNodes_le_of_installArbiters {addresses : List (List UInt32)} {arbiters : List ArbiterEcmp}
    (h : installArbiters t net addresses = .ok arbiters) : t.numNodes ≤ 40000 := by
  obtain ⟨g, hg, -⟩ := bind_ok h
  by_contra hn
  unfold calculateGlobalState at hg
  rw [if_pos (by omega)] at hg
  cases hg

end Install

/-! ## The decision -/

section Decision

variable {t : TopologyPtop} {net : Links} {u target : Nat} {l : List Nat}

/-- The candidates are no more than there are nodes. -/
theorem Exact.length_le (h : Accepted t) (he : Exact t u target l) : l.length ≤ t.numNodes := by
  have hsub : l.toFinset ⊆ Finset.range t.numNodes := fun v hv =>
    Finset.mem_range.2 (h.adj_lt ((he.mem v).1 (List.mem_toFinset.1 hv)).1).2
  have hcard := Finset.card_le_card hsub
  rw [List.toFinset_card_of_nodup he.nodup, Finset.card_range] at hcard
  exact hcard

/-- Without candidates the remainder is taken modulo zero. -/
theorem selectCandidate_nil {cl : List (List Nat)} (hl : cl[target]? = some []) (hash : UInt32) :
    selectCandidate cl target hash = .error (.undefined "remainder modulo zero") := by
  unfold selectCandidate
  rw [if_neg (by omega), Int.toNat_natCast, index_ok.2 hl]
  rfl

/-- With candidates every hash selects one of them. -/
theorem selectCandidate_mem (h : Accepted t) (hn : t.numNodes ≤ 40000) {cl : List (List Nat)}
    (hl : cl[target]? = some l) (he : Exact t u target l) (hne : l ≠ []) (hash : UInt32) :
    ∃ v ∈ l, selectCandidate cl target hash = .ok v := by
  have hlen := he.length_le h
  have hpos : 0 < l.length := List.length_pos_iff.2 hne
  have hs : toUInt32 (toInt32 l.length) = l.length := by
    rw [toInt32_eq (by omega) (by omega), toUInt32_eq (by omega)]
  have hmod := Nat.mod_lt hash.toNat hpos
  have hmem := List.getElem_mem hmod
  have hv := (h.adj_lt ((he.mem _).1 hmem).1).2
  refine ⟨_, hmem, ?_⟩
  unfold selectCandidate
  rw [if_neg (by omega), Int.toNat_natCast, index_ok.2 hl, ok_bind]
  simp only [hs]
  rw [if_neg (by omega), index_lt hmod, ok_bind, toInt32_eq (by omega) (by omega)]

variable {H : Type} (hasher : Hasher H)

/-- The hash never throws. -/
theorem computeFiveTupleHash_ok (st : Scratch H) (pkt : Packet) (hdr : Ipv4Header) (nodeId : Nat) (flag : Bool) :
    ∃ hash st', (computeFiveTupleHash hasher hdr pkt nodeId flag).run st = (.ok hash, st') := ⟨_, _, rfl⟩

/-- A decision is the selected candidate, for some hash, turned into an interface. -/
theorem decide_spec (h : Accepted t) {a : ArbiterEcmp} (ha : Installed t net u a) (hu : u < t.numNodes)
    (st : Scratch H) (pkt : Packet) (hdr : Ipv4Header) (flag : Bool) :
    ∃ hash, ((a.decide hasher target pkt hdr flag).run st).1 =
      (selectCandidate a.candidateList target hash >>= a.base.result) := by
  have hadj : ∃ l, index a.base.topology.adjacencyList a.base.nodeId = .ok l := by
    rw [ha.topology, ha.nodeId]; exact ⟨_, index_lt (by rw [h.adjLength]; exact hu)⟩
  obtain ⟨l, hadj⟩ := hadj
  obtain ⟨hash, st', hhash⟩ := computeFiveTupleHash_ok hasher st pkt hdr a.base.nodeId flag
  refine ⟨hash, ?_⟩
  have htop : (a.topologyPtopDecide hasher target pkt hdr flag).run st =
      (selectCandidate a.candidateList target hash, st') := by
    unfold ArbiterEcmp.topologyPtopDecide
    rw [Call.run_bind_eq hhash, Call.run_lift]
  unfold ArbiterEcmp.decide ArbiterPtop.decide
  rw [hadj, Call.run_lift_ok_bind, Call.run_bind, htop]
  cases selectCandidate a.candidateList target hash with
  | error e => rfl
  | ok v => rfl

/-- Towards a target that the node can reach and is not itself, the decision is the interface of a
neighbour one hop closer. -/
theorem decide_reachable (h : Accepted t) (hn : t.numNodes ≤ 40000) {a : ArbiterEcmp} (ha : Installed t net u a)
    (hu : u < t.numNodes) (ht : target < t.numNodes) (hne : u ≠ target) (hr : t.graph.Reachable u target)
    (st : Scratch H) (pkt : Packet)
    (hdr : Ipv4Header) (flag : Bool) :
    ∃ v i j, t.graph.Adj u v ∧ t.graph.dist v target + 1 = t.graph.dist u target ∧
      ((a.decide hasher target pkt hdr flag).run st).1 = .ok ⟨false, i, 0⟩ ∧ net.transmit u i = .ok (v, j) := by
  obtain ⟨l, hl, he⟩ := ha.candidates target ht
  have hnil : l ≠ [] := fun hnil => by
    rcases he.empty.1 hnil with heq | hno
    · exact hne heq
    · exact hno hr
  obtain ⟨hash, hdec⟩ := decide_spec hasher h ha hu st pkt hdr flag
  obtain ⟨v, hv, hsel⟩ := selectCandidate_mem h hn hl he hnil hash
  obtain ⟨hadj, -, hdist⟩ := (he.mem v).1 hv
  obtain ⟨i, j, -, hres, -, -, htr⟩ := result_neighbor h ha.table hadj
  refine ⟨v, i, j, hadj, hdist, ?_, htr⟩
  have hbase : a.base = ⟨t, u, a.base.neighborNodeIdToIfIdx⟩ := by
    rw [← ha.topology, ← ha.nodeId]
  rw [hdec, hsel, ok_bind, hbase]
  exact hres

/-- Towards itself and towards a target it cannot reach, the node takes a remainder modulo zero. -/
theorem decide_unreachable (h : Accepted t) {a : ArbiterEcmp} (ha : Installed t net u a) (hu : u < t.numNodes)
    (ht : target < t.numNodes) (hno : u = target ∨ ¬ t.graph.Reachable u target) (st : Scratch H) (pkt : Packet)
    (hdr : Ipv4Header) (flag : Bool) :
    ((a.decide hasher target pkt hdr flag).run st).1 = .error (.undefined "remainder modulo zero") := by
  obtain ⟨l, hl, he⟩ := ha.candidates target ht
  obtain rfl := he.empty.2 hno
  obtain ⟨hash, hdec⟩ := decide_spec hasher h ha hu st pkt hdr flag
  rw [hdec, selectCandidate_nil hl, error_bind]

/-- `Decide` ends, in no route or in an interface whose link leads to a neighbour. -/
def Answers (t : TopologyPtop) (net : Links) (u : Nat) (r : Res ArbiterResult) : Prop :=
  ∃ res, r = .ok res ∧
    (res.failed = true ∨ ∃ v j, t.graph.Adj u v ∧ net.transmit u res.outIfIdx = .ok (v, j))

end Decision

/-- `Decide` of an installed arbiter ends with an answer exactly for the other nodes that its node can
reach; for the rest it takes a remainder modulo zero. -/
theorem decide_answers_iff {sim : BasicSimulation} {config : ExpUtil.Config} {t : TopologyPtop} {net : Links}
    {addresses : List (List UInt32)} {arbiters : List ArbiterEcmp} {u target : Nat} {a : ArbiterEcmp} {H : Type}
    (hp : parseTopologyGraph sim config = .ok t) (hs : setupLinks t = .ok net)
    (hi : installArbiters t net addresses = .ok arbiters) (ha : arbiters[u]? = some a) (ht : target < t.numNodes)
    (hasher : Hasher H) (st : Scratch H) (pkt : Packet) (hdr : Ipv4Header) (flag : Bool) :
    Answers t net u ((a.decide hasher target pkt hdr flag).run st).1 ↔ target ≠ u ∧ t.graph.Reachable u target := by
  have h := parseTopologyGraph_accepted hp
  have hn := numNodes_le_of_installArbiters hi
  obtain ⟨net', hs', hl⟩ := setupLinks_inv h
  rw [hs] at hs'; cases hs'
  obtain ⟨arbiters', hi', hlen, hall⟩ := installArbiters_ok h hl hn addresses
  rw [hi] at hi'; cases hi'
  have hinst := hall u a ha
  have hu : u < t.numNodes := by rw [← hlen]; exact (List.getElem?_eq_some_iff.1 ha).1
  constructor
  · rintro ⟨res, hres, -⟩
    by_contra hc
    have hno : u = target ∨ ¬ t.graph.Reachable u target := by
      by_cases he : u = target
      · exact .inl he
      · exact .inr fun hr => hc ⟨Ne.symm he, hr⟩
    rw [decide_unreachable hasher h hinst hu ht hno] at hres
    cases hres
  · rintro ⟨hne, hr⟩
    obtain ⟨v, i, j, hadj, -, hres, htr⟩ := decide_reachable hasher h hn hinst hu ht hne.symm hr st pkt hdr flag
    exact ⟨_, hres, .inr ⟨v, j, hadj, htr⟩⟩

/-! ## The arbiters of two parts -/

def twoPairsAddresses : List (List UInt32) :=
  [[0x7f000001, 0x0a000001], [0x7f000001, 0x0a000002], [0x7f000001, 0x0a000101], [0x7f000001, 0x0a000102]]

/-- The arbiter of node 0; its only candidate is node 1, towards node 1. -/
def twoPairsArbiter : ArbiterEcmp :=
  { base := ⟨twoPairs, 0, [0, 1, 0, 0]⟩
    candidateList := [[], [1], [], []]
    ipToNodeId := ipToNodeId twoPairsAddresses }

def twoPairsArbiters : List ArbiterEcmp :=
  [twoPairsArbiter, ⟨⟨twoPairs, 1, [1, 0, 0, 0]⟩, [[0], [], [], []], ipToNodeId twoPairsAddresses⟩,
   ⟨⟨twoPairs, 2, [0, 0, 0, 1]⟩, [[], [], [], [3]], ipToNodeId twoPairsAddresses⟩,
   ⟨⟨twoPairs, 3, [0, 0, 1, 0]⟩, [[], [], [2], []], ipToNodeId twoPairsAddresses⟩]

theorem installArbiters_twoPairs :
    installArbiters twoPairs twoPairsLinks twoPairsAddresses = .ok twoPairsArbiters := by
  decide +kernel

/-- A fresh arbiter. -/
def scratch₀ : Scratch (UInt32 × UInt32) := ⟨fun _ => 0, (0x8badf00d, 0), none⟩

/-- A UDP packet between the given addresses. -/
def udpHeader (source destination : UInt32) : Ipv4Header := ⟨source, destination, udpProtNumber⟩

theorem decide_answers_iff_twoPairs :
    Answers twoPairs twoPairsLinks 0 ((twoPairsArbiter.decide murmur3 (1 : Nat) ⟨⟨4663, 8888⟩, ⟨0, 0⟩⟩
      (udpHeader 0x0a000001 0x0a000002) false).run scratch₀).1 ↔ (1 : Nat) ≠ 0 ∧ twoPairs.graph.Reachable 0 1 :=
  decide_answers_iff parseTopologyGraph_twoPairs setupLinks_twoPairs installArbiters_twoPairs rfl (by decide)
    murmur3 scratch₀ _ _ _

/-- Neither for the node itself nor for a node of the other part does `Decide` end. -/
theorem decide_twoPairs_undefined :
    parseTopologyGraph ⟨false, []⟩ twoPairsConfig = .ok twoPairs ∧ setupLinks twoPairs = .ok twoPairsLinks ∧
    installArbiters twoPairs twoPairsLinks twoPairsAddresses = .ok twoPairsArbiters ∧
    twoPairsArbiters[0]? = some twoPairsArbiter ∧
    ¬ Answers twoPairs twoPairsLinks 0 ((twoPairsArbiter.decide murmur3 2 ⟨⟨4663, 8888⟩, ⟨0, 0⟩⟩
      (udpHeader 0x0a000001 0x0a000101) false).run scratch₀).1 ∧
    ¬ Answers twoPairs twoPairsLinks 0 ((twoPairsArbiter.decide murmur3 0 ⟨⟨4663, 8888⟩, ⟨0, 0⟩⟩
      (udpHeader 0x0a000001 0x0a000001) false).run scratch₀).1 := by
  refine ⟨parseTopologyGraph_twoPairs, setupLinks_twoPairs, installArbiters_twoPairs, rfl, ?_, ?_⟩ <;>
  · rintro ⟨res, hres, -⟩
    have he : Except.ok res = Except.error (Fail.undefined "remainder modulo zero") := hres.symm
    cases he

end SatNet.Ptop
