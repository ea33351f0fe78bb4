/-
UDP bursts over the data plane of a satellite network: the burst applications of the ground stations send their packets
through it and take those that it delivers, in any order of events. Applications and data plane together refine the lossy
network of the burst applications, so of every burst the packets sent are received, on their way or lost.
-/
import SatNet.Apps.BurstNetwork
import SatNet.Satellite.Journeys

namespace SatNet.Satellite

open SatNet.Loop SatNet.Device SatNet.Apps

variable {P K M ρ : Type} [DecidableEq M]

/-! ## The topology of the applications -/

namespace Scenario

variable (s : Scenario P K M)

/-- `m_endpoints`: the ground stations. -/
def endpoints : List Nat := (List.range s.numGroundStations).map (s.numSatellites + ·)

theorem mem_endpoints {v : Nat} :
    v ∈ s.endpoints ↔ s.numSatellites ≤ v ∧ v < s.numSatellites + s.numGroundStations := by
  unfold endpoints
  simp only [List.mem_map, List.mem_range]
  constructor
  · rintro ⟨i, hi, rfl⟩
    omega
  · rintro ⟨hle, hlt⟩
    exact ⟨v - s.numSatellites, by omega, by omega⟩

/-- The network as the applications see it; `NodeContainer` counts the nodes in a `uint32_t`. -/
def topology (hn : s.net.nodes.length < 2 ^ 32) : Topology where
  nodes := (List.range s.net.nodes.length).map fun u =>
    (List.range (Node.devicesOf s.net.nodes u).length).map fun i => s.addr.ip (u, i)
  isValidEndpoint := Ptop.contains s.endpoints
  endpoints := s.endpoints
  nodes_lt := by rwa [List.length_map, List.length_range]
  endpoints_lt e he := by
    rw [List.length_map, List.length_range, s.built.length]
    exact (s.mem_endpoints.1 he).2
  endpoints_sorted := List.pairwise_lt_range.map _ fun i j hij => Nat.add_lt_add_left hij _
  valid_endpoint i _ h := by
    obtain ⟨y, hy, he⟩ := Ptop.contains_iff.1 h
    rwa [← Int.natCast_inj.1 he]

variable {s} {hn : s.net.nodes.length < 2 ^ 32} {u : Nat} {a : Address}

/-- The addresses of a node are those of its interfaces. -/
theorem topology_address {i : Nat} : (∃ nd, (s.topology hn).nodes[u]? = some nd ∧ nd[i]? = some a) ↔
    (∃ d, Node.deviceAt s.net.nodes (u, i) = some d) ∧ a = s.addr.ip (u, i) := by
  simp only [topology, List.getElem?_map, Option.map_eq_some_iff]
  constructor
  · rintro ⟨_, ⟨v, hv, rfl⟩, hi⟩
    obtain ⟨hu, rfl⟩ := List.getElem?_eq_some_iff.1 hv
    rw [List.length_range] at hu
    rw [List.getElem_range, List.getElem?_map, Option.map_eq_some_iff] at hi
    obtain ⟨j, hj, rfl⟩ := hi
    obtain ⟨hi, rfl⟩ := List.getElem?_eq_some_iff.1 hj
    rw [List.length_range, Node.devicesOf_eq (List.getElem?_eq_getElem hu)] at hi
    rw [List.getElem_range]
    exact ⟨⟨_, (Node.deviceAt_eq (e := (u, i)) (List.getElem?_eq_getElem hu)).trans (List.getElem?_eq_getElem hi)⟩, rfl⟩
  · rintro ⟨⟨d, hd⟩, rfl⟩
    obtain ⟨nd, hnd, hi⟩ := Node.deviceAt_some hd
    refine ⟨_, ⟨u, List.getElem?_range (List.getElem?_eq_some_iff.1 hnd).1, rfl⟩, ?_⟩
    rw [Node.devicesOf_eq hnd, List.getElem?_map, List.getElem?_range (List.getElem?_eq_some_iff.1 hi).1]
    rfl

theorem holdsAddress_iff : HoldsAddress (s.topology hn) u a ↔
    ∃ e, IsInterface s.net e ∧ e.1 = u ∧ a = s.addr.ip e := by
  constructor
  · rintro ⟨nd, hnd, i, hi, ha⟩
    obtain ⟨hd, rfl⟩ := topology_address.1 ⟨nd, hnd, ha⟩
    exact ⟨(u, i), ⟨Nat.one_le_iff_ne_zero.1 hi, hd⟩, rfl, rfl⟩
  · rintro ⟨⟨v, i⟩, ⟨hi, hd⟩, rfl, rfl⟩
    obtain ⟨nd, hnd, ha⟩ : ∃ nd, (s.topology hn).nodes[v]? = some nd ∧ nd[i]? = some (s.addr.ip (v, i)) :=
      topology_address.2 ⟨hd, rfl⟩
    exact ⟨nd, hnd, i, Nat.one_le_iff_ne_zero.2 hi, ha⟩

theorem uniqueAddresses : UniqueAddresses (s.topology hn) := by
  intro u v a hu hv
  obtain ⟨e, he, rfl, rfl⟩ := holdsAddress_iff.1 hu
  obtain ⟨e', he', rfl, h⟩ := holdsAddress_iff.1 hv
  rw [s.addr.ip_inj e e' he.1 he'.1 h]

/-- The address to which a node is sent packets is one of its own. -/
theorem holdsAddress_first (h : (s.topology hn).node u >>= firstAddress = .ok a) (hu : u < s.net.nodes.length) :
    HoldsAddress (s.topology hn) u a := by
  have hlt : u < (s.topology hn).nodes.length := by
    unfold topology
    rwa [List.length_map, List.length_range]
  rw [(s.topology hn).node_eq hlt, ok_bind] at h
  unfold firstAddress at h
  split at h
  · rename_i b hb
    cases h
    exact ⟨_, List.getElem?_eq_getElem hlt, 1, le_rfl, hb⟩
  · cases h

end Scenario

/-! ## Applications over the data plane -/

/-- How the packets of bursts are written: the burst and its sequence number are a packet's name. -/
structure BurstPackets (s : Scenario P IdSeq M) where
  packet : Nat → Apps.Datagram → P
  key_packet : ∀ u d, s.ip.key (packet u d) = d.idSeq
  destination_packet : ∀ u d, s.ip.destination (packet u d) = d.target

/-- The applications by their nodes, the data plane, and of the packets that it delivered those that were counted, and
those that found no socket. -/
structure BurstPlane (P M ρ : Type) where
  apps : Nat → Option (UdpBurstApplication ρ)
  plane : Plane P M
  counted : List IdSeq
  unclaimed : List IdSeq

namespace BurstPlane

variable (s : Scenario P IdSeq M) (packets : BurstPackets s) (b : BurstPlane P M ρ)

def setApp (u : Nat) (app : UdpBurstApplication ρ) : BurstPlane P M ρ :=
  { b with apps := Function.update b.apps u (some app) }

/-- A packet is delivered at a node. -/
def take (y : Nat × P) : Res (BurstPlane P M ρ) :=
  match b.apps y.1 with
  | none => .ok { b with unclaimed := b.unclaimed ++ [s.ip.key y.2] }
  | some app =>
    if app.socket then do
      let app ← handleBurstRead b.plane.now.toNat (s.ip.key y.2) app
      .ok { b.setApp y.1 app with counted := b.counted ++ [s.ip.key y.2] }
    else .ok { b with unclaimed := b.unclaimed ++ [s.ip.key y.2] }

/-- The data plane goes on to `w`, and what it delivers meanwhile is taken by the applications. -/
def handOver (w : Plane P M) : Res (BurstPlane P M ρ) :=
  forEach (take s) (w.delivered.drop b.plane.delivered.length) { b with plane := w }

/-- The states in any order of what happens, with the lines that are loaded by then, the packets that were sent with their
nodes, and the number of events in the network. -/
inductive Reach (apps : Nat → Option (UdpBurstApplication ρ)) (initial : List Str) :
    BurstPlane P M ρ → List Str → List (Nat × P) → Nat → Prop where
  | start {state} : Loaded s.sim s.net initial state → Reach apps initial ⟨apps, Plane.start s state, [], []⟩ initial [] 0
  | bind {b written sent n} (u : Nat) (app : UdpBurstApplication ρ) : Reach apps initial b written sent n →
      b.apps u = some app → Reach apps initial (b.setApp u { app with socket := true }) written sent n
  | wait {b written sent n} (t : Int) : Reach apps initial b written sent n → b.plane.now ≤ t →
      Reach apps initial { b with plane := { b.plane with now := t } } written sent n
  | update {b written sent n} (intervalNs t : Int) (lines : List Str) (state' : ForwardingState) (next : Option Int) :
      Reach apps initial b written sent n → fstateLines s.sim t = .ok lines →
      updateForwardingState s.sim s.net intervalNs t b.plane.state = .ok (state', next) →
      Reach apps initial { b with plane := { b.plane with state := state' } } (written ++ lines) sent n
  | send {b written sent n} (u idx source : Nat) (app app' : UdpBurstApplication ρ) (d : Apps.Datagram) (w : Plane P M) :
      Reach apps initial b written sent n → b.apps u = some app →
      transmitFullPacket b.plane.now.toNat idx app = .ok (app', d) → b.plane.send s u source (packets.packet u d) = .ok w →
      Reach apps initial { b.setApp u app' with plane := w } written (sent ++ [(u, packets.packet u d)]) n
  | event {b b' written sent n} (w : Plane P M) : Reach apps initial b written sent n → Plane.Event s b.plane w →
      b.handOver s w = .ok b' → Reach apps initial b' written sent (n + 1)

/-- The packets that were dropped, or delivered where there is no socket. -/
def lost : List IdSeq := b.plane.dropped.map s.ip.key ++ b.unclaimed

/-- Of the lossy network `net`, applications and data plane together are a refinement. -/
structure Refines (net : BurstNetwork ρ) : Prop where
  apps : net.apps = b.apps
  counted : net.counted = b.counted
  lost : (net.lost.map Datagram.idSeq).Perm (b.lost s)
  inFlight : (net.inFlight.map Datagram.idSeq).Perm (underWay s b.plane)

end BurstPlane

/-! ## The refinement -/

section Refinement

variable {s : Scenario P IdSeq M} {topology : Topology} {schedule : List (UdpBurstInfo ρ)} {endNs : Nat}
  {b b' : BurstPlane P M ρ} {net : BurstNetwork ρ} {w w' : Plane P M} {ks qs : List IdSeq}

/-- A packet with the name and the address is of a burst of the schedule. -/
def OfBurst (topology : Topology) (schedule : List (UdpBurstInfo ρ)) (k : IdSeq) (a : Address) : Prop :=
  ∃ e ∈ schedule, e.udpBurstId = k.id ∧ topology.node e.toNodeId >>= firstAddress = .ok a

/-- The lossy network when the packets `ks` have left the data plane, but are not taken yet. -/
structure Partway (s : Scenario P IdSeq M) (b : BurstPlane P M ρ) (net : BurstNetwork ρ) (ks : List IdSeq) : Prop where
  apps : net.apps = b.apps
  counted : net.counted = b.counted
  lost : (net.lost.map Datagram.idSeq).Perm (b.lost s)
  inFlight : (net.inFlight.map Datagram.idSeq).Perm (ks ++ underWay s b.plane)

theorem Partway.refines (h : Partway s b net []) : b.Refines s net := ⟨h.apps, h.counted, h.lost, h.inFlight⟩

/-- What is left when the packet with the next name is gone. -/
theorem perm_erase_next {l : List Apps.Datagram} {d : Apps.Datagram} {rest : List IdSeq} (hd : d ∈ l)
    (h : (l.map Datagram.idSeq).Perm (d.idSeq :: rest)) : ((l.erase d).map Datagram.idSeq).Perm rest :=
  (((List.perm_cons_erase hd).map Datagram.idSeq).symm.trans h).cons_inv

theorem exists_next {l : List Apps.Datagram} {k : IdSeq} {rest : List IdSeq} (h : (l.map Datagram.idSeq).Perm (k :: rest)) :
    ∃ d ∈ l, d.idSeq = k :=
  List.mem_map.1 (h.mem_iff.2 (List.mem_cons_self ..))

/-- Packets that were dropped are lost one after the other. -/
theorem lose_all : ∀ (qs : List IdSeq) {net : BurstNetwork ρ} {rest : List IdSeq},
    (net.inFlight.map Datagram.idSeq).Perm (qs ++ rest) → ∃ net', ReachesNet topology net net' ∧ net'.apps = net.apps ∧
      net'.counted = net.counted ∧ (net'.lost.map Datagram.idSeq).Perm (net.lost.map Datagram.idSeq ++ qs) ∧
      (net'.inFlight.map Datagram.idSeq).Perm rest
  | [], net, rest, h => ⟨net, .refl, rfl, rfl, by rw [List.append_nil], h⟩
  | k :: qs, net, rest, h => by
    obtain ⟨d, hd, rfl⟩ := exists_next h
    obtain ⟨net₁, hstep, hflight₁, hlost₁, happs₁, hcounted₁⟩ : ∃ net₁, NextNet topology net net₁ ∧
        net₁.inFlight = net.inFlight.erase d ∧ net₁.lost = net.lost ++ [d] ∧ net₁.apps = net.apps ∧
        net₁.counted = net.counted := ⟨_, ⟨.lose d, hd, rfl⟩, rfl, rfl, rfl, rfl⟩
    have hrest : (net₁.inFlight.map Datagram.idSeq).Perm (qs ++ rest) := by
      rw [hflight₁]
      exact perm_erase_next hd h
    obtain ⟨net', hrun, happs, hcounted, hlost, hflight⟩ := lose_all qs hrest
    refine ⟨net', .head hstep hrun, happs.trans happs₁, hcounted.trans hcounted₁, ?_, hflight⟩
    rw [hlost₁] at hlost
    simpa using hlost

/-- A packet that is delivered at a node with its address is counted, or there is no socket and it is lost. -/
theorem Partway.take {k : P} {u : Nat} (ha : Accepted UdpBurstInfo.header topology endNs schedule)
    (hu : UniqueAddresses topology) (hto : ∀ e ∈ schedule, e.toNodeId < topology.nodes.length)
    (hi : NetInv topology schedule net) (h : Partway s b net (s.ip.key k :: ks)) {a : Address}
    (hk : OfBurst topology schedule (s.ip.key k) a) (hnode : HoldsAddress topology u a) :
    ∃ b', b.take s (u, k) = .ok b' ∧ b'.plane = b.plane ∧ ∃ net', ReachesNet topology net net' ∧ Partway s b' net' ks := by
  obtain ⟨d, hd, hdk⟩ := exists_next h.inFlight
  have hrest := perm_erase_next hd (hdk ▸ h.inFlight)
  have hlose : ∃ net', ReachesNet topology net net' ∧ Partway s { b with unclaimed := b.unclaimed ++ [s.ip.key k] } net' ks := by
    refine ⟨_, .single ⟨.lose d, hd, rfl⟩, h.apps, h.counted, ?_, hrest⟩
    show ((net.lost ++ [d]).map Datagram.idSeq).Perm (b.plane.dropped.map s.ip.key ++ (b.unclaimed ++ [s.ip.key k]))
    rw [List.map_append, ← List.append_assoc, List.map_singleton, hdk]
    exact h.lost.append_right _
  unfold BurstPlane.take
  simp only
  cases happ : b.apps u with
  | none => exact ⟨_, rfl, rfl, hlose⟩
  | some app =>
    simp only
    by_cases hsocket : app.socket = true
    · rw [if_pos hsocket]
      have htarget : d.target = a := by
        obtain ⟨e, he, hid, htarget⟩ := hi.target d hd
        obtain ⟨e', he', hid', ha'⟩ := hk
        rw [hdk] at hid
        rw [ha.eq_of_id he he' (hid.trans hid'.symm), ha'] at htarget
        exact (Except.ok.inj htarget).symm
      have happ' : net.apps u = some app := by rw [h.apps, happ]
      have hpermitted : Permitted topology net (.arrive b.plane.now.toNat u d) :=
        ⟨hd, by rw [htarget]; exact hnode, app, happ', hsocket⟩
      obtain ⟨net', hstep⟩ := hi.arrive_ok hu hto hpermitted
      have hnext : NextNet topology net net' := ⟨_, hpermitted, hstep⟩
      simp only [BurstNetwork.step, happ', hdk] at hstep
      obtain ⟨app', hread, hstep⟩ := bind_ok hstep
      cases hstep
      refine ⟨{ b.setApp u app' with counted := b.counted ++ [s.ip.key k] }, by rw [hread, ok_bind], rfl, _,
        .single hnext, ?_, ?_, h.lost, hrest⟩
      · show Function.update net.apps u (some app') = Function.update b.apps u (some app')
        rw [h.apps]
      · show net.counted ++ [s.ip.key k] = b.counted ++ [s.ip.key k]
        rw [h.counted]
    · rw [if_neg hsocket]
      exact ⟨_, rfl, rfl, hlose⟩

/-- All packets that an event delivers are taken. -/
theorem Partway.takeAll (ha : Accepted UdpBurstInfo.header topology endNs schedule) (hu : UniqueAddresses topology)
    (hto : ∀ e ∈ schedule, e.toNodeId < topology.nodes.length) : ∀ {ys : List (Nat × P)} {b : BurstPlane P M ρ}
    {net : BurstNetwork ρ}, NetInv topology schedule net → Partway s b net (ys.map fun y => s.ip.key y.2) →
    (∀ y ∈ ys, ∃ a, OfBurst topology schedule (s.ip.key y.2) a ∧ HoldsAddress topology y.1 a) →
    ∃ b', forEach (BurstPlane.take s) ys b = .ok b' ∧ b'.plane = b.plane ∧ ∃ net', ReachesNet topology net net' ∧ b'.Refines s net'
  | [], b, net, _, h, _ => ⟨b, rfl, rfl, net, .refl, h.refines⟩
  | (u, p) :: ys, b, net, hi, h, hys => by
    obtain ⟨a, hk, hnode⟩ := hys (u, p) (List.mem_cons_self ..)
    obtain ⟨b₁, hrun, hplane, net₁, hreach, h₁⟩ := Partway.take ha hu hto hi h hk hnode
    obtain ⟨b', hrun', hplane', net', hreach', h'⟩ := Partway.takeAll ha hu hto (reachesNet_inv ha hi hreach) h₁
      fun y hy => hys y (List.mem_cons_of_mem _ hy)
    refine ⟨b', ?_, hplane'.trans hplane, net', hreach.trans hreach', h'⟩
    unfold forEach
    rw [hrun, ok_bind, hrun']

/-- What has left between two states of the data plane, when the packets `new` were sent meanwhile. -/
theorem Plane.Extends.left {initial written written' : List Str} {sent new : List (Nat × P)} {n n' : Nat}
    (h : Plane.Reach s initial w written sent n) (h' : Plane.Reach s initial w' written' (sent ++ new) n')
    {ys : List (Nat × P)} {qs : List P} (hys : w'.delivered = w.delivered ++ ys) (hqs : w'.dropped = w.dropped ++ qs) :
    (underWay s w ++ new.map fun x => s.ip.key x.2).Perm
      (qs.map s.ip.key ++ ((ys.map fun y => s.ip.key y.2) ++ underWay s w')) := by
  obtain ⟨_, _, ht⟩ := h.tracks
  obtain ⟨_, _, ht'⟩ := h'.tracks
  have hc := ht.conserved
  have hc' := ht'.conserved
  unfold ended at hc hc'
  rw [hys, hqs] at hc'
  refine List.perm_iff_count.2 fun k => ?_
  have hk := hc.count_eq k
  have hk' := hc'.count_eq k
  simp only [List.map_append, List.count_append] at hk hk' ⊢
  omega

end Refinement

section Runs

variable {s : Scenario P IdSeq M} {packets : BurstPackets s} {hn : s.net.nodes.length < 2 ^ 32}
  {schedule : List (UdpBurstInfo ρ)} {endNs : Nat} {initial written : List Str} {sent : List (Nat × P)} {n : Nat}
  {b : BurstPlane P M ρ} {net : BurstNetwork ρ}

/-- Bursts go to ground stations. -/
theorem toNodeId_lt (ha : Accepted UdpBurstInfo.header (s.topology hn) endNs schedule) :
    ∀ e ∈ schedule, e.toNodeId < s.net.nodes.length := by
  intro e he
  obtain ⟨y, hy, hid⟩ := Ptop.contains_iff.1 (ha.to_valid e he)
  rw [Int.natCast_inj.1 hid] at hy
  rw [s.built.length]
  exact (s.mem_endpoints.1 hy).2

theorem topology_nodes_length : (s.topology hn).nodes.length = s.net.nodes.length := by
  unfold Scenario.topology
  rw [List.length_map, List.length_range]

/-- A packet that was delivered is of a burst that goes to its node. -/
theorem Arrived.ofBurst (ha : Accepted UdpBurstInfo.header (s.topology hn) endNs schedule)
    (hsent : ∀ x ∈ sent, OfBurst (s.topology hn) schedule (s.ip.key x.2) (s.ip.destination x.2)) {y : Nat × P}
    (h : Arrived s initial written sent y) :
    ∃ a, OfBurst (s.topology hn) schedule (s.ip.key y.2) a ∧ HoldsAddress (s.topology hn) y.1 a := by
  obtain ⟨x, hx, path, d, -, hj, hown⟩ := h
  obtain ⟨hkey, -, hdest, -⟩ := hj.keeps
  obtain ⟨e, he, hid, htarget⟩ := hsent x hx
  rw [← hkey] at hid
  rw [← hdest] at htarget
  refine ⟨s.ip.destination y.2, ⟨e, he, hid, htarget⟩, ?_⟩
  obtain ⟨e', hi, -, ha'⟩ := Scenario.holdsAddress_iff.1 (Scenario.holdsAddress_first htarget (toNodeId_lt ha e he))
  rw [ha', s.isDestinationAddress_iff e' hi] at hown
  exact Scenario.holdsAddress_iff.2 ⟨e', hi, hown.symm, ha'⟩

/-- After an event the applications take what it delivers, and the lossy network goes on as they do. -/
theorem BurstPlane.Refines.event (ha : Accepted UdpBurstInfo.header (s.topology hn) endNs schedule)
    (hi : NetInv (s.topology hn) schedule net) (h : b.Refines s net) (hplane : Plane.Reach s initial b.plane written sent n)
    (hsent : ∀ x ∈ sent, OfBurst (s.topology hn) schedule (s.ip.key x.2) (s.ip.destination x.2)) {w : Plane P M}
    (hevent : Plane.Event s b.plane w) : ∃ b', b.handOver s w = .ok b' ∧ b'.plane = w ∧
      ∃ net', ReachesNet (s.topology hn) net net' ∧ b'.Refines s net' := by
  obtain ⟨-, ⟨ys, hys⟩, qs, hqs⟩ := hevent.extends
  have hreach := hplane.event hevent
  have hreach' : Plane.Reach s initial w written (sent ++ []) (n + 1) := by
    rw [List.append_nil]
    exact hreach
  have hleft := Plane.Extends.left hplane hreach' hys hqs
  rw [List.map_nil, List.append_nil] at hleft
  obtain ⟨net₁, hrun, happs, hcounted, hlost, hflight⟩ : ∃ net₁, ReachesNet (s.topology hn) net net₁ ∧ _ :=
    lose_all _ (h.inFlight.trans hleft)
  have hpartway : Partway s { b with plane := w } net₁ (ys.map fun y => s.ip.key y.2) := by
    refine ⟨happs.trans h.apps, hcounted.trans h.counted, hlost.trans ((h.lost.append_right _).trans ?_), hflight⟩
    show (b.plane.dropped.map s.ip.key ++ b.unclaimed ++ qs.map s.ip.key).Perm (w.dropped.map s.ip.key ++ b.unclaimed)
    rw [hqs, List.map_append, List.append_assoc, List.append_assoc]
    exact List.perm_append_comm.append_left _
  obtain ⟨r, arrived, ht⟩ := hreach.tracks
  unfold handOver
  rw [hys, List.drop_left]
  obtain ⟨b', hb', hplane', net', hnet', h'⟩ := hpartway.takeAll ha Scenario.uniqueAddresses
    (by rw [topology_nodes_length]; exact toNodeId_lt ha) (reachesNet_inv ha hi hrun)
    fun y hy => (ht.delivered y (by rw [hys]; exact List.mem_append_right _ hy)).ofBurst ha hsent
  exact ⟨b', hb', hplane', net', hrun.trans hnet', h'⟩

theorem transmitFullPacket_socket {now idx : Nat} {app app' : UdpBurstApplication ρ} {d : Apps.Datagram}
    (h : transmitFullPacket now idx app = .ok (app', d)) : app.socket = true ∧ app'.socket = true := by
  obtain ⟨⟨info, target⟩, -, h⟩ := bind_ok h
  obtain ⟨seq, -, h⟩ := bind_ok h
  obtain ⟨precise, -, h⟩ := bind_ok h
  simp only at h
  split at h
  · rename_i hsocket
    cases h
    exact ⟨hsocket, hsocket⟩
  · cases h

/-- After a packet was sent, which may be dropped at once. -/
theorem BurstPlane.Refines.send (hi : NetInv (s.topology hn) schedule net) (h : b.Refines s net)
    (hplane : Plane.Reach s initial b.plane written sent n)
    {u idx source : Nat} {app app' : UdpBurstApplication ρ} {d : Apps.Datagram} {w : Plane P M} (happ : b.apps u = some app)
    (hrun : transmitFullPacket b.plane.now.toNat idx app = .ok (app', d))
    (hw : b.plane.send s u source (packets.packet u d) = .ok w) :
    OfBurst (s.topology hn) schedule d.idSeq d.target ∧ ∃ net', ReachesNet (s.topology hn) net net' ∧
      BurstPlane.Refines s { b.setApp u app' with plane := w } net' := by
  have happ' : net.apps u = some app := by rw [h.apps, happ]
  obtain ⟨⟨o, c, ho, -, hd, -⟩, -, -, -, -⟩ := transmitFullPacket_ok hrun
  have hserves := hi.serves u app happ'
  have hof : OfBurst (s.topology hn) schedule d.idSeq d.target := by
    rw [hd]
    exact ⟨o.1, (hserves.mem ho).1, rfl, hserves.targets o (List.mem_of_getElem? ho)⟩
  refine ⟨hof, ?_⟩
  obtain ⟨net₁, hstep, hflight₁, hlost₁, happs₁, hcounted₁⟩ : ∃ net₁, NextNet (s.topology hn) net net₁ ∧
      net₁.inFlight = net.inFlight ++ [d] ∧ net₁.lost = net.lost ∧
      net₁.apps = Function.update net.apps u (some app') ∧ net₁.counted = net.counted := by
    refine ⟨{ net.setApp u app' with inFlight := net.inFlight ++ [d] }, ⟨.send b.plane.now.toNat u idx,
      ⟨app, happ', (transmitFullPacket_socket hrun).1, (List.getElem?_eq_some_iff.1 ho).1⟩, ?_⟩, rfl, rfl, rfl, rfl⟩
    simp only [BurstNetwork.step, happ', hrun, ok_bind]
  obtain ⟨⟨-, ⟨ys, hys⟩, qs, hqs⟩, hdelivered⟩ := Plane.send_extends hw
  obtain rfl : ys = [] := by simpa [hdelivered] using hys
  have hleft := Plane.Extends.left hplane (hplane.send u source _ w hw) hys hqs
  rw [List.map_nil, List.nil_append, List.map_singleton, packets.key_packet] at hleft
  have hall : (net₁.inFlight.map Datagram.idSeq).Perm (qs.map s.ip.key ++ underWay s w) := by
    rw [hflight₁, List.map_append]
    exact (h.inFlight.append_right _).trans hleft
  obtain ⟨net', hlose, happs, hcounted, hlost, hflight⟩ : ∃ net', ReachesNet (s.topology hn) net₁ net' ∧ _ := lose_all _ hall
  refine ⟨net', .head hstep hlose, ?_, hcounted.trans (hcounted₁.trans h.counted), hlost.trans ?_, hflight⟩
  · rw [happs, happs₁, h.apps]
    rfl
  · rw [hlost₁]
    refine (h.lost.append_right _).trans ?_
    show (b.plane.dropped.map s.ip.key ++ b.unclaimed ++ qs.map s.ip.key).Perm (w.dropped.map s.ip.key ++ b.unclaimed)
    rw [hqs, List.map_append, List.append_assoc, List.append_assoc]
    exact List.perm_append_comm.append_left _

/-- Applications and data plane go on as a lossy network does, from one in which nothing was sent yet. -/
theorem BurstPlane.Reach.refines (ha : Accepted UdpBurstInfo.header (s.topology hn) endNs schedule)
    {net₀ : BurstNetwork ρ} (hi : NetInv (s.topology hn) schedule net₀) (h₀ : net₀.all = [])
    (h : BurstPlane.Reach s packets net₀.apps initial b written sent n) :
    Plane.Reach s initial b.plane written sent n ∧
      (∀ x ∈ sent, OfBurst (s.topology hn) schedule (s.ip.key x.2) (s.ip.destination x.2)) ∧
      ∃ net, ReachesNet (s.topology hn) net₀ net ∧ b.Refines s net := by
  induction h with
  | start hl =>
    have hplane := Plane.Reach.start hl
    obtain ⟨r, arrived, ht⟩ := hplane.tracks
    have hempty := (List.append_eq_nil_iff.1 (List.Perm.eq_nil ht.conserved)).1
    obtain ⟨h₀, hcounted⟩ := List.append_eq_nil_iff.1 h₀
    obtain ⟨hflight, hlost⟩ := List.append_eq_nil_iff.1 h₀
    exact ⟨hplane, List.forall_mem_nil _, _, .refl, rfl, hcounted, by rw [hlost]; exact List.Perm.refl _,
      by rw [hflight, hempty]⟩
  | bind u app _ happ ih =>
    obtain ⟨hplane, hsent, net, hnet, h⟩ := ih
    have happ' : net.apps u = some app := by rw [h.apps, happ]
    refine ⟨hplane, hsent, net.setApp u { app with socket := true },
      hnet.tail ⟨.start u, trivial, by simp only [BurstNetwork.step, happ']⟩, ?_, h.counted, h.lost, h.inFlight⟩
    show Function.update net.apps u _ = _
    rw [h.apps]
    rfl
  | wait t _ ht ih =>
    obtain ⟨hplane, hsent, net, hnet, h⟩ := ih
    exact ⟨hplane.wait t ht, hsent, net, hnet, h.apps, h.counted, h.lost, h.inFlight⟩
  | update intervalNs t lines state' next _ hlines hrun ih =>
    obtain ⟨hplane, hsent, net, hnet, h⟩ := ih
    exact ⟨hplane.update intervalNs t lines state' next hlines hrun, hsent, net, hnet, h.apps, h.counted, h.lost, h.inFlight⟩
  | send u idx source app app' d w _ happ hrun hw ih =>
    obtain ⟨hplane, hsent, net, hnet, h⟩ := ih
    obtain ⟨hof, net', hnet', h'⟩ := h.send (reachesNet_inv ha hi hnet) hplane happ hrun hw
    refine ⟨hplane.send u source _ w hw, fun x hx => ?_, net', hnet.trans hnet', h'⟩
    rcases List.mem_append.1 hx with hx | hx
    · exact hsent x hx
    · rw [List.mem_singleton.1 hx, packets.key_packet, packets.destination_packet]
      exact hof
  | event w _ hevent hover ih =>
    obtain ⟨hplane, hsent, net, hnet, h⟩ := ih
    obtain ⟨b', hb', hplane', net', hnet', h'⟩ := h.event ha (reachesNet_inv ha hi hnet) hplane hsent hevent
    cases hb'.symm.trans hover
    exact ⟨hplane' ▸ hplane.event hevent, hsent, net', hnet.trans hnet', h'⟩

/-- In every run of the burst applications of all systems over the data plane, what they have done is a run of theirs over
a network that loses and reorders packets, the packets sent of a burst are received, on their way or lost, none is counted
twice, and whatever the data plane does next, the applications take what it delivers. -/
theorem bursts_conserved {rates : RateReader ρ} {filename : Str} {file : Apps.File} {bs : List Apps.BasicSimulation}
    {loggingIds : List Nat} {schedulers : List (UdpBurstScheduler ρ)}
    (hread : readUdpBurstSchedule rates filename file (s.topology hn) endNs = .ok schedule)
    (hprep : List.Forall₂ (fun sim scheduler => prepareUdpBursts sim (s.topology hn) loggingIds schedule = .ok scheduler)
      bs schedulers)
    (hcover : ∀ e ∈ s.endpoints, ∃ sim ∈ bs, sim.owns e = true)
    (h : BurstPlane.Reach s packets (initialNetwork schedulers).apps initial b written sent n) :
    (∃ net, ReachesNet (s.topology hn) (initialNetwork schedulers) net ∧ b.Refines s net ∧
      ∀ e ∈ schedule, ∃ sentCount received, net.sentOf e = .ok sentCount ∧ net.receivedOf e = .ok received ∧
        sentCount = received + (underWay s b.plane).countP (fun k => k.id = e.udpBurstId) +
          (b.lost s).countP (fun k => k.id = e.udpBurstId)) ∧
    b.counted.Nodup ∧ ∀ w, Plane.Event s b.plane w → ∃ b', b.handOver s w = .ok b' := by
  have ha := readUdpBurstSchedule_ok hread
  have hinitial := netInv_initial hprep hcover
  obtain ⟨hplane, hsent, net, hnet, hrefines⟩ := h.refines ha hinitial rfl
  have hi := reachesNet_inv ha hinitial hnet
  refine ⟨⟨net, hnet, hrefines, fun e he => ?_⟩, ?_, fun w hevent => ?_⟩
  · have hto : e.toNodeId ∈ s.endpoints := by
      obtain ⟨y, hy, hid⟩ := Ptop.contains_iff.1 (ha.to_valid e he)
      rwa [Int.natCast_inj.1 hid] at hy
    refine ⟨_, _, hi.sentOf_eq ha he, hi.receivedOf_eq hto he, ?_⟩
    rw [← hrefines.inFlight.countP_eq, ← hrefines.lost.countP_eq]
    simp only [BurstNetwork.all, List.countP_append]
    omega
  · rw [← hrefines.counted]
    exact (List.nodup_append.1 hi.nodup).2.1
  · obtain ⟨b', hb', -⟩ := hrefines.event ha hi hplane hsent hevent
    exact ⟨b', hb'⟩

end Runs

/-! ### A burst over two satellites -/

def burstPackets : BurstPackets (pairScenario IdSeq) where
  packet u d := ⟨d.idSeq, Nat.pair u 1, d.target, 64⟩
  key_packet _ _ := rfl
  destination_packet _ _ := rfl

theorem nodes_pairScenario_lt : (pairScenario IdSeq).net.nodes.length < 2 ^ 32 := by decide

/-- A burst from ground station 2 to ground station 3. -/
def stationBurst : UdpBurstInfo Nat := ⟨0, 2, 3, 100, 0, 1000, [], []⟩

def stationApp : UdpBurstApplication Nat :=
  { UdpBurstApplication.initial with
    outgoingBursts := [(stationBurst, Nat.pair 3 1)]
    packetsSentCounter := [0]
    outgoingPreciseLogging := [false] }

def peerApp : UdpBurstApplication Nat :=
  { UdpBurstApplication.initial with
    incomingBursts := [stationBurst]
    receivedCounter := fun id => if id = 0 then some 0 else none
    incomingPreciseLogging := fun id => if id = 0 then false else false }

def stationScheduler : UdpBurstScheduler Nat :=
  ⟨[stationBurst], [(2, stationApp), (3, peerApp)], [(stationBurst, 2)], [(stationBurst, 3)]⟩

/-- The first packet of the burst is sent, received by both satellites and taken by the application of station 3. -/
theorem reach_stationBurst : ∃ (b : BurstPlane (Datagram IdSeq) End Nat) (sent : List (Nat × Datagram IdSeq)) (n : Nat),
    BurstPlane.Reach (pairScenario IdSeq) burstPackets (initialNetwork [stationScheduler]).apps twoSatellitesLines b
      twoSatellitesLines sent n ∧ b.counted = [⟨0, 0⟩] := by
  have h₀ : BurstPlane.Reach (pairScenario IdSeq) burstPackets (initialNetwork [stationScheduler]).apps
      twoSatellitesLines _ _ _ 0 := .start loaded_pairScenario
  have h₁ := (h₀.bind 2 stationApp rfl).bind 3 peerApp rfl
  have h₂ := h₁.send 2 0 0 { stationApp with socket := true } _ _ _ rfl rfl rfl
  have h₃ := h₂.event _ (.receive 0 (0, 2) ⟨0x0021, ⟨⟨0, 0⟩, Nat.pair 2 1, Nat.pair 3 1, 64⟩⟩ _ rfl rfl) rfl
  have h₄ := h₃.event _ (.receive 0 (1, 1) ⟨0x0021, ⟨⟨0, 0⟩, Nat.pair 2 1, Nat.pair 3 1, 63⟩⟩ _ rfl rfl) rfl
  have h₅ := h₄.event _ (.receive 0 (3, 1) ⟨0x0021, ⟨⟨0, 0⟩, Nat.pair 2 1, Nat.pair 3 1, 62⟩⟩ _ rfl rfl) rfl
  exact ⟨_, _, _, h₅, rfl⟩

theorem bursts_conserved_station : ∃ (b : BurstPlane (Datagram IdSeq) End Nat) (net : BurstNetwork Nat),
    ReachesNet ((pairScenario IdSeq).topology nodes_pairScenario_lt) (initialNetwork [stationScheduler]) net ∧
      b.Refines (pairScenario IdSeq) net ∧ b.counted = [⟨0, 0⟩] ∧ b.counted.Nodup := by
  obtain ⟨b, sent, n, h, hcounted⟩ := reach_stationBurst
  have hread : readUdpBurstSchedule wholeRates [] (.lines ["0,2,3,100,0,1000,,".toList])
      ((pairScenario IdSeq).topology nodes_pairScenario_lt) 1000000000 = .ok [stationBurst] := by decide +kernel
  have hprep : prepareUdpBursts pairSimulation ((pairScenario IdSeq).topology nodes_pairScenario_lt) [] [stationBurst] =
      .ok stationScheduler := rfl
  obtain ⟨⟨net, hnet, hrefines, -⟩, hnodup, -⟩ := bursts_conserved hread (.cons hprep .nil)
    (fun e _ => ⟨_, List.mem_singleton_self _, rfl⟩) h
  exact ⟨b, net, hnet, hrefines, hcounted, hnodup⟩

/-! ## Bursts that arrive -/

section Arrivals

variable {s : Scenario P IdSeq M} {packets : BurstPackets s} {hn : s.net.nodes.length < 2 ^ 32}
  {schedule : List (UdpBurstInfo ρ)} {endNs : Nat} {initial written : List Str} {sent : List (Nat × P)} {n : Nat}
  {b b' : BurstPlane P M ρ} {net₀ : BurstNetwork ρ} {script : Script} {maxStrDigits : Nat} {texts : List Str} {fstate : Fstate}

namespace BurstPlane

/-- The applications alone, with their counters. -/
def applications (b : BurstPlane P M ρ) : BurstNetwork ρ := ⟨b.apps, [], [], b.counted⟩

/-- An event of the data plane, and what the applications do with it. -/
def Event (s : Scenario P IdSeq M) (b b' : BurstPlane P M ρ) : Prop :=
  ∃ w, Plane.Event s b.plane w ∧ b.handOver s w = .ok b'

/-- Every ground station has an application with a socket. -/
def Listening (s : Scenario P IdSeq M) (b : BurstPlane P M ρ) : Prop :=
  ∀ v ∈ s.endpoints, ∃ app, b.apps v = some app ∧ app.socket = true

theorem Listening.setApp (h : b.Listening s) {u : Nat} {app : UdpBurstApplication ρ} (happ : app.socket = true) :
    (b.setApp u app).Listening s := by
  intro v hv
  show ∃ a, Function.update b.apps u (some app) v = some a ∧ _
  by_cases hvu : v = u
  · subst hvu
    exact ⟨app, Function.update_self .., happ⟩
  · rw [Function.update_of_ne hvu]
    exact h v hv

end BurstPlane

theorem handleBurstRead_socket {now : Nat} {k : IdSeq} {app app' : UdpBurstApplication ρ}
    (h : handleBurstRead now k app = .ok app') : app'.socket = app.socket := by
  unfold handleBurstRead at h
  split at h
  · cases h
  · cases h
    rfl

/-- At a ground station that listens, a packet is counted. -/
theorem BurstPlane.Listening.take (h : b.Listening s) {y : Nat × P} (hy : y.1 ∈ s.endpoints) (hrun : b.take s y = .ok b') :
    b'.Listening s ∧ b'.unclaimed = b.unclaimed := by
  obtain ⟨app, happ, hsocket⟩ := h y.1 hy
  unfold BurstPlane.take at hrun
  simp only [happ, hsocket, if_true] at hrun
  obtain ⟨app', hread, hrun⟩ := bind_ok hrun
  cases hrun
  exact ⟨h.setApp ((handleBurstRead_socket hread).trans hsocket), rfl⟩

theorem BurstPlane.Listening.takeAll : ∀ {ys : List (Nat × P)} {b : BurstPlane P M ρ}, b.Listening s →
    (∀ y ∈ ys, y.1 ∈ s.endpoints) → forEach (BurstPlane.take s) ys b = .ok b' →
    b'.Listening s ∧ b'.unclaimed = b.unclaimed
  | [], b, h, _, hrun => by
    cases hrun
    exact ⟨h, rfl⟩
  | y :: ys, b, h, hys, hrun => by
    obtain ⟨b₁, hfirst, hrun⟩ := bind_ok hrun
    obtain ⟨h₁, hunclaimed₁⟩ := h.take (hys y (List.mem_cons_self ..)) hfirst
    obtain ⟨h', hunclaimed⟩ := h₁.takeAll (fun y hy => hys y (List.mem_cons_of_mem _ hy)) hrun
    exact ⟨h', hunclaimed.trans hunclaimed₁⟩

/-- A packet is delivered at a ground station. -/
theorem Arrived.endpoint (ha : Accepted UdpBurstInfo.header (s.topology hn) endNs schedule)
    (hsent : ∀ x ∈ sent, OfBurst (s.topology hn) schedule (s.ip.key x.2) (s.ip.destination x.2)) {y : Nat × P}
    (h : Arrived s initial written sent y) : y.1 ∈ s.endpoints := by
  obtain ⟨a, ⟨e, he, -, htarget⟩, hnode⟩ := h.ofBurst ha hsent
  have hfirst := Scenario.holdsAddress_first htarget (toNodeId_lt ha e he)
  rw [Scenario.uniqueAddresses y.1 e.toNodeId a hnode hfirst]
  exact (s.topology hn).valid_endpoint _ (by rw [topology_nodes_length]; exact toNodeId_lt ha e he) (ha.to_valid e he)

/-- Once all applications have started, every packet that is delivered finds a socket. -/
theorem BurstPlane.Reach.listens (ha : Accepted UdpBurstInfo.header (s.topology hn) endNs schedule)
    (hi : NetInv (s.topology hn) schedule net₀) (h₀ : net₀.all = [])
    (h : BurstPlane.Reach s packets net₀.started.apps initial b written sent n) : b.Listening s ∧ b.unclaimed = [] := by
  induction h with
  | start hl =>
    refine ⟨fun v hv => ?_, rfl⟩
    obtain ⟨app, happ⟩ := Option.ne_none_iff_exists'.1 (hi.installed v hv)
    refine ⟨{ app with socket := true }, ?_, rfl⟩
    show (net₀.apps v).map _ = _
    rw [happ]
    rfl
  | bind u app _ happ ih => exact ⟨ih.1.setApp rfl, ih.2⟩
  | wait t _ ht ih => exact ih
  | update intervalNs t lines state' next _ hlines hrun ih => exact ih
  | send u idx source app app' d w _ happ hrun hw ih => exact ⟨ih.1.setApp (transmitFullPacket_socket hrun).2, ih.2⟩
  | @event b b' written sent n w hreach hevent hover ih =>
    obtain ⟨hplane, hsent, -⟩ := hreach.refines ha hi.started h₀
    obtain ⟨-, ⟨ys, hys⟩, -⟩ := hevent.extends
    obtain ⟨r, arrived, ht⟩ := (hplane.event hevent).tracks
    have hends : ∀ y ∈ ys, y.1 ∈ s.endpoints := fun y hy =>
      (ht.delivered y (by rw [hys]; exact List.mem_append_right _ hy)).endpoint ha hsent
    unfold handOver at hover
    rw [hys, List.drop_left] at hover
    have hplaced : BurstPlane.Listening s { b with plane := w } := ih.1
    obtain ⟨h', hunclaimed⟩ := hplaced.takeAll hends hover
    exact ⟨h', hunclaimed.trans ih.2⟩

/-- What is sent is a packet of a burst, by the node that the burst starts from. -/
theorem BurstPlane.Reach.sentBy (ha : Accepted UdpBurstInfo.header (s.topology hn) endNs schedule)
    (hi : NetInv (s.topology hn) schedule net₀) (h₀ : net₀.all = [])
    (h : BurstPlane.Reach s packets net₀.apps initial b written sent n) :
    ∀ x ∈ sent, ∃ e ∈ schedule, x.1 = e.fromNodeId ∧ ∃ d : Apps.Datagram, x.2 = packets.packet x.1 d ∧
      (s.topology hn).node e.toNodeId >>= firstAddress = .ok d.target := by
  induction h with
  | start hl => exact List.forall_mem_nil _
  | bind u app _ happ ih => exact ih
  | wait t _ ht ih => exact ih
  | update intervalNs t lines state' next _ hlines hrun ih => exact ih
  | event w _ hevent hover ih => exact ih
  | send u idx source app app' d w hreach happ hrun hw ih =>
    intro x hx
    rcases List.mem_append.1 hx with hx | hx
    · exact ih x hx
    · rw [List.mem_singleton.1 hx]
      obtain ⟨-, -, net, hnet, hrefines⟩ := hreach.refines ha hi h₀
      have happ' : net.apps u = some app := by rw [hrefines.apps, happ]
      have hserves := (reachesNet_inv ha hi hnet).serves u app happ'
      obtain ⟨⟨o, c, ho, -, hd, -⟩, -, -, -, -⟩ := transmitFullPacket_ok hrun
      obtain ⟨hmem, hfrom⟩ := hserves.mem ho
      exact ⟨o.1, hmem, hfrom.symm, d, rfl, by rw [hd]; exact hserves.targets o (List.mem_of_getElem? ho)⟩

/-- A script finds a path for every burst, for which the time to live of its packets is enough; and their source is an
address of the network. -/
structure BurstPaths (s : Scenario P IdSeq M) (packets : BurstPackets s) (script : Script) (fstate : Fstate)
    (schedule : List (UdpBurstInfo ρ)) : Prop where
  sourced : ∀ e ∈ schedule, ∀ d, Sourced s.ipToNodeId (s.ip.source (packets.packet e.fromNodeId d))
  path : ∀ e ∈ schedule, ∃ path, walk script fstate e.fromNodeId e.toNodeId = some path ∧
    ∀ d, path.length ≤ s.ip.timeToLive (packets.packet e.fromNodeId d) + 1

theorem BurstPaths.hasPath (hp : BurstPaths s packets script fstate schedule)
    (ha : Accepted UdpBurstInfo.header (s.topology hn) endNs schedule) {e : UdpBurstInfo ρ} (he : e ∈ schedule)
    {d : Apps.Datagram} (htarget : (s.topology hn).node e.toNodeId >>= firstAddress = .ok d.target) :
    HasPath s script fstate (e.fromNodeId, packets.packet e.fromNodeId d) := by
  obtain ⟨path, hwalk, hlength⟩ := hp.path e he
  obtain ⟨i, hi, hnode, hdest⟩ := Scenario.holdsAddress_iff.1 (Scenario.holdsAddress_first htarget (toNodeId_lt ha e he))
  refine ⟨hp.sourced e he d, i, path, hi, by rw [packets.destination_packet, hdest], ?_, by rw [hnode]; exact hwalk, hlength d⟩
  rw [hnode]
  exact ha.distinct e he

theorem burstPaths_station : BurstPaths (pairScenario IdSeq) burstPackets .pathTruth pairTable [stationBurst] where
  sourced e he d := by
    cases List.mem_singleton.1 he
    exact fun _ => ⟨2, rfl⟩
  path e he := by
    cases List.mem_singleton.1 he
    refine ⟨[2, 0, 1, 3], walk_iff.2 ⟨.hop (by decide) rfl (by decide) (.hop (by decide) rfl (by decide)
      (.hop (by decide) rfl (by decide) .arrived)), by decide⟩, fun d => ?_⟩
    show 4 ≤ 65
    omega

end Arrivals

end SatNet.Satellite
