/-
The data plane of a satellite network: the IP layers of all nodes, the devices below them and the channels between these,
while packets are sent, transmissions end, receptions happen and files are loaded in any order. Every device is a server
and every reception that is scheduled is a job under way, so the network is a relay: each packet is at one place.
-/
import SatNet.Satellite.IslUtilization
import SatNet.Satellite.Routing

namespace SatNet.Satellite

open SatNet.Loop SatNet.Device

variable {P K M : Type}

/-! ## What is simulated -/

/-- The IP layer of the nodes. Passing a packet on takes one from its time to live, and the last one is not passed on. -/
structure IpLayer (P K : Type) extends IpQueries where
  key : P → K
  source : P → Nat
  destination : P → Nat
  timeToLive : P → Nat
  forward : P → Option P
  expired : ∀ p, forward p = none ↔ timeToLive p ≤ 1
  forwarded : ∀ p p', forward p = some p' → key p' = key p ∧ source p' = source p ∧ destination p' = destination p ∧
    timeToLive p' + 1 = timeToLive p

/-- A network that was built, with the tables that were filled for it, the simulation that its settings and its
forwarding-state files are from, and what surrounds the devices: when a queue refuses a frame, which devices have an
error model, and the IP layer, which knows the addresses of the interfaces for what they are. -/
structure Scenario (P K M : Type) [DecidableEq M] where
  addr : Addresses M
  numSatellites : Nat
  numGroundStations : Nat
  isls : List (Nat × Nat)
  nodeGslIfInfo : List Nat
  net : Network M
  build_eq : build addr numSatellites numGroundStations isls nodeGslIfInfo = .ok net
  arpAll : ArpCache M
  arpAll_eq : populateArpCaches addr net = .ok arpAll
  ipToNodeId : List (Nat × Nat)
  ipToNodeId_eq : makeIpToNodeId addr net = .ok ipToNodeId
  sim : BasicSimulation
  tracking : Option Nat
  tracking_eq : utilizationTrackingSettings sim.config = .ok tracking
  tracking_pos : ∀ intervalNs ∈ tracking, 0 < intervalNs
  full : End → List (Frame P) → Frame P → Bool
  errorModel : End → Bool
  ip : IpLayer P K
  unicast : ∀ e, IsInterface net e → Unicast (addr.ip e)
  isDestinationAddress_iff : ∀ e, IsInterface net e → ∀ u, ip.isDestinationAddress u (addr.ip e) = true ↔ u = e.1
  isForwarding_eq : ∀ u i, ip.isForwarding u i = true

/-- The clock, the forwarding state, the devices, the receptions that are scheduled, what was delivered at which node, and
what was dropped. -/
structure Plane (P M : Type) where
  now : Int
  state : ForwardingState
  devices : End → DeviceState P M
  receptions : List (End × Frame P)
  delivered : List (Nat × P)
  dropped : List P

namespace Plane

variable [DecidableEq M] (s : Scenario P K M) (w : Plane P M)

/-! ## What happens -/

def drop (p : P) : Plane P M := { w with dropped := w.dropped ++ [p] }

def deliver (u : Nat) (p : P) : Plane P M := { w with delivered := w.delivered ++ [(u, p)] }

omit [DecidableEq M] in
/-- After a call of a device. -/
def called {α : Type} (e : End) (c : Called P M α) : Plane P M :=
  { w with devices := Function.update w.devices e c.device, receptions := w.receptions ++ c.receptions }

/-- The packet leaves node `u` along the route. -/
def transmit (u : Nat) (route : Route) (p : P) : Res (Plane P M) := do
  let (e, _) ← Node.netDevice s.net.nodes u route.outIfIdx
  let c ← (w.devices e).send s.net s.full s.arpAll w.now e route.gateway p
  .ok (if c.result then w.called e c else w.drop p)

/-- An application of node `u` sends a packet, whose source address may still be asked for. -/
def send (u source : Nat) (p : P) : Res (Plane P M) := do
  let route ← routeOutput s.addr s.net s.ipToNodeId w.state u source (s.ip.destination p) none
  match route with
  | none => .ok (w.drop p)
  | some route => w.transmit s u route p

/-- The event number `i` that the device has pending. -/
def complete (e : End) (i : Nat) : Res (Plane P M) := do
  let c ← (w.devices e).complete s.net s.full w.now e i
  .ok (w.called e c)

/-- The reception number `k`, which takes place. -/
def land (k : Nat) : Plane P M := { w with receptions := w.receptions.eraseIdx k }

/-- The device receives a frame. Only IPv4 has a handler. -/
def receive (d : End) (frame : Frame P) : Res (Plane P M) := do
  let (protocol, p) ← (w.devices d).receive s.net d frame
  if protocol ≠ 0x0800 then .ok (w.drop p)
  else do
    let input ← routeInput s.addr s.net s.ipToNodeId w.state s.ip.toIpQueries d (s.ip.source p) (s.ip.destination p)
    match input with
    | .localDeliver => .ok (w.deliver d.1 p)
    | .noRoute => .ok (w.drop p)
    | .unicastForward route =>
      match s.ip.forward p with
      | none => .ok (w.drop p)
      | some p' => w.transmit s d.1 route p'

/-! ## The start -/

/-- The device as the helpers install it. -/
def initialDevice (e : End) : DeviceState P M :=
  match Node.deviceAt s.net.nodes e with
  | some .gsl => .gsl GSLNetDevice.init.notifyLinkUp
  | some (.laser k) =>
    match s.tracking with
    | none => .laser k PointToPointLaserNetDevice.init.notifyLinkUp
    | some intervalNs => .laser k (PointToPointLaserNetDevice.init.notifyLinkUp.enableUtilizationTracking intervalNs)
  | _ => .loopback

def start (state : ForwardingState) : Plane P M := ⟨0, state, initialDevice s, [], [], []⟩

/-- An event in the network: the end of a transmission, or a reception, of a frame that may be corrupted. -/
inductive Event (w : Plane P M) : Plane P M → Prop where
  | complete (e : End) (i : Nat) (w' : Plane P M) : i < (w.devices e).pending → w.complete s e i = .ok w' → Event w w'
  | receive (k : Nat) (d : End) (frame : Frame P) (w' : Plane P M) : w.receptions[k]? = some (d, frame) →
      (w.land k).receive s d frame = .ok w' → Event w w'
  | corrupt (k : Nat) (d : End) (frame : Frame P) : w.receptions[k]? = some (d, frame) → s.errorModel d = true →
      Event w ((w.land k).drop frame.packet)

/-- The states of the data plane in any order of what happens from the loaded lines `initial` on, with the lines that are
loaded by then, the packets that were sent with their nodes, and the number of events in the network. -/
inductive Reach (initial : List Str) : Plane P M → List Str → List (Nat × P) → Nat → Prop where
  | start {state} : Loaded s.sim s.net initial state → Reach initial (start s state) initial [] 0
  | wait {w written sent n} (t : Int) : Reach initial w written sent n → w.now ≤ t →
      Reach initial { w with now := t } written sent n
  | update {w written sent n} (intervalNs t : Int) (lines : List Str) (state' : ForwardingState) (next : Option Int) :
      Reach initial w written sent n → fstateLines s.sim t = .ok lines →
      updateForwardingState s.sim s.net intervalNs t w.state = .ok (state', next) →
      Reach initial { w with state := state' } (written ++ lines) sent n
  | send {w written sent n} (u source : Nat) (p : P) (w' : Plane P M) : Reach initial w written sent n →
      w.send s u source p = .ok w' → Reach initial w' written (sent ++ [(u, p)]) n
  | event {w w' written sent n} : Reach initial w written sent n → Event s w w' → Reach initial w' written sent (n + 1)

/-- The run goes on from the state `w₀` in which the lines `before` are loaded. -/
inductive Continues (w₀ : Plane P M) (before : List Str) : Plane P M → List Str → Prop where
  | here : Continues w₀ before w₀ before
  | wait {w written} (t : Int) : Continues w₀ before w written → w.now ≤ t →
      Continues w₀ before { w with now := t } written
  | update {w written} (intervalNs t : Int) (lines : List Str) (state' : ForwardingState) (next : Option Int) :
      Continues w₀ before w written → fstateLines s.sim t = .ok lines →
      updateForwardingState s.sim s.net intervalNs t w.state = .ok (state', next) →
      Continues w₀ before { w with state := state' } (written ++ lines)
  | send {w written} (u source : Nat) (p : P) (w' : Plane P M) : Continues w₀ before w written →
      w.send s u source p = .ok w' → Continues w₀ before w' written
  | event {w w' written} : Continues w₀ before w written → Event s w w' → Continues w₀ before w' written

theorem Continues.lines {w₀ : Plane P M} {before written : List Str} (h : Continues s w₀ before w written) :
    before <+: written := by
  induction h with
  | here => exact List.prefix_refl _
  | wait _ _ _ ih => exact ih
  | update _ _ _ _ _ _ _ _ ih => exact ih.trans (List.prefix_append ..)
  | send _ _ _ _ _ _ ih => exact ih
  | event _ _ ih => exact ih

omit [DecidableEq M] in
/-- No event is left. -/
def Quiet : Prop := (∀ e, (w.devices e).pending = 0) ∧ w.receptions = []

end Plane

/-! ## What the data plane adds to its ends -/

section Extends

variable [DecidableEq M] {s : Scenario P K M} {w w' : Plane P M}

/-- No time passes, and what was delivered or dropped stays so. -/
structure Plane.Extends (w w' : Plane P M) : Prop where
  now : w'.now = w.now
  delivered : ∃ ys, w'.delivered = w.delivered ++ ys
  dropped : ∃ qs, w'.dropped = w.dropped ++ qs

omit [DecidableEq M] in
theorem Plane.extends_drop (w : Plane P M) (p : P) : w.Extends (w.drop p) :=
  ⟨rfl, ⟨[], (List.append_nil _).symm⟩, [p], rfl⟩

omit [DecidableEq M] in
theorem Plane.extends_called {α : Type} (w : Plane P M) (e : End) (c : Called P M α) : w.Extends (w.called e c) :=
  ⟨rfl, ⟨[], (List.append_nil _).symm⟩, [], (List.append_nil _).symm⟩

theorem Plane.transmit_extends {u : Nat} {route : Route} {p : P} (h : w.transmit s u route p = .ok w') :
    w.Extends w' ∧ w'.delivered = w.delivered := by
  obtain ⟨⟨e, nd⟩, -, h⟩ := bind_ok h
  obtain ⟨c, -, h⟩ := bind_ok h
  cases h
  split
  · exact ⟨w.extends_called _ c, rfl⟩
  · exact ⟨w.extends_drop p, rfl⟩

theorem Plane.send_extends {u source : Nat} {p : P} (h : w.send s u source p = .ok w') :
    w.Extends w' ∧ w'.delivered = w.delivered := by
  obtain ⟨route, -, h⟩ := bind_ok h
  cases route with
  | none =>
    cases h
    exact ⟨w.extends_drop p, rfl⟩
  | some route => exact transmit_extends h

theorem Plane.receive_extends {d : End} {frame : Frame P} (h : w.receive s d frame = .ok w') : w.Extends w' := by
  obtain ⟨⟨protocol, p⟩, -, h⟩ := bind_ok h
  simp only at h
  by_cases hprotocol : protocol ≠ 0x0800
  · rw [if_pos hprotocol] at h
    cases h
    exact w.extends_drop p
  rw [if_neg hprotocol] at h
  obtain ⟨input, -, h⟩ := bind_ok h
  cases input with
  | localDeliver =>
    cases h
    exact ⟨rfl, ⟨[(d.1, p)], rfl⟩, [], (List.append_nil _).symm⟩
  | noRoute =>
    cases h
    exact w.extends_drop p
  | unicastForward route =>
    simp only at h
    cases hf : s.ip.forward p with
    | none =>
      rw [hf] at h
      cases h
      exact w.extends_drop p
    | some p' =>
      rw [hf] at h
      exact (transmit_extends h).1

omit [DecidableEq M] in
theorem Plane.Extends.of_land {k : Nat} (h : (w.land k).Extends w') : w.Extends w' := ⟨h.now, h.delivered, h.dropped⟩

theorem Plane.Event.extends (h : Plane.Event s w w') : w.Extends w' := by
  cases h with
  | complete e i w' _ hrun =>
    obtain ⟨c, -, hrun⟩ := bind_ok hrun
    cases hrun
    exact w.extends_called e c
  | receive k d frame w' _ hrun =>
    exact (Plane.receive_extends hrun).of_land
  | corrupt k d frame => exact ((w.land k).extends_drop frame.packet).of_land

end Extends

/-! ## The tables of a scenario -/

/-- The devices that there are. -/
def Network.ends (net : Network M) : List End :=
  (List.range net.nodes.length).flatMap fun u => (List.range (Node.devicesOf net.nodes u).length).map fun i => (u, i)

theorem mem_ends {net : Network M} {e : End} : e ∈ net.ends ↔ ∃ d, Node.deviceAt net.nodes e = some d := by
  obtain ⟨u, i⟩ := e
  unfold Network.ends
  simp only [List.mem_flatMap, List.mem_range, List.mem_map, Prod.mk.injEq]
  constructor
  · rintro ⟨_, hu, _, hi, rfl, rfl⟩
    have hnd := List.getElem?_eq_getElem hu
    rw [Node.devicesOf_eq hnd] at hi
    exact ⟨_, (Node.deviceAt_eq hnd).trans (List.getElem?_eq_getElem hi)⟩
  · rintro ⟨d, hd⟩
    obtain ⟨nd, hnd, hi⟩ := Node.deviceAt_some hd
    refine ⟨u, (List.getElem?_eq_some_iff.1 hnd).1, i, ?_, rfl, rfl⟩
    rw [Node.devicesOf_eq hnd]
    exact (List.getElem?_eq_some_iff.1 hi).1

theorem nodup_ends (net : Network M) : net.ends.Nodup := by
  refine List.nodup_flatMap.2 ⟨fun u _ => ?_, ?_⟩
  · exact List.nodup_range.map fun i j h => congrArg Prod.snd h
  · refine List.nodup_range.imp fun {u v} huv => ?_
    intro e hu hv
    obtain ⟨i, -, rfl⟩ := List.mem_map.1 hu
    obtain ⟨j, -, hj⟩ := List.mem_map.1 hv
    exact huv (congrArg Prod.fst hj).symm

namespace Scenario

variable [DecidableEq M] (s : Scenario P K M)

theorem built : Built s.addr (s.numSatellites + s.numGroundStations) s.isls [] s.net := build_built s.build_eq

theorem arp (e : End) (d : NetDevice) (hd : Node.deviceAt s.net.nodes e = some d) (he : e.2 ≠ 0) :
    e ∈ s.arpAll.users ∧ s.arpAll.entries.lookup (s.addr.ip e) = some (s.addr.mac e) := by
  obtain ⟨arp, hrun, harp⟩ := @populateArpCaches_ok _ s.addr s.net s.built.numbered
  cases s.arpAll_eq.symm.trans hrun
  exact harp e d hd he

theorem tracking_lt : ∀ intervalNs ∈ s.tracking, (intervalNs : Int) < 2 ^ 63 := by
  intro intervalNs htracking
  obtain ⟨-, -, -, hlt⟩ := utilizationTrackingSettings_some (s.tracking_eq.trans (congrArg Except.ok htracking))
  exact hlt

theorem mapped : Mapped s.addr s.net s.net.nodes.length 0 s.ipToNodeId := by
  obtain ⟨m, hrun, hm⟩ := @makeIpToNodeId_ok _ s.addr s.net s.built.numbered
  cases s.ipToNodeId_eq.symm.trans hrun
  exact hm

end Scenario

/-! ## The plane as a relay -/

section Relay

variable [DecidableEq M] (s : Scenario P K M)

/-- A frame on its way to a device that there is, with a header unless it is a loopback. -/
def Arrives (job : End × Frame P) : Prop :=
  ∃ kind, Node.deviceAt s.net.nodes job.1 = some kind ∧
    job.2.protocol = if kind = .loopback then 0x0800 else 0x0021

/-- The devices are the servers of the relay, the receptions are its jobs under way, and what was delivered or dropped has
left it. -/
structure Simulates (w : Plane P M) (r : Relay End (End × Frame P) K) : Prop where
  works : ∀ e, Works s.net s.tracking w.now e (w.devices e) (r.stations e)
  flight : r.flight = w.receptions
  gone : r.gone.Perm (w.delivered.map (fun d => s.ip.key d.2) ++ w.dropped.map s.ip.key)
  arrives : Relay.All (Arrives s) r

variable {s} {w : Plane P M} {r : Relay End (End × Frame P) K}

theorem Works.kind {net : Network M} {tracking : Option Nat} {now : Int} {e : End} {dev : DeviceState P M}
    {srv : Server (End × Frame P)}
    (h : Works net tracking now e dev srv) {kind : NetDevice} (hd : Node.deviceAt net.nodes e = some kind) :
    dev = .loopback ↔ kind = .loopback := by
  cases h with
  | loopback hl => simp [hl kind hd]
  | gsl hg =>
    rw [hg] at hd
    cases hd
    simp
  | laser hg =>
    rw [hg] at hd
    cases hd
    simp

theorem Works.framed {net : Network M} {tracking : Option Nat} {now : Int} {e : End} {dev : DeviceState P M}
    {srv : Server (End × Frame P)}
    (h : Works net tracking now e dev srv) {kind : NetDevice} (hd : Node.deviceAt net.nodes e = some kind) {frame : Frame P}
    (hf : frame.protocol = if kind = .loopback then 0x0800 else 0x0021) : Framed dev frame := by
  by_cases hkind : kind = .loopback
  · rw [if_pos hkind] at hf
    rw [(h.kind hd).2 hkind]
    exact hf
  · rw [if_neg hkind] at hf
    have hdev : dev ≠ .loopback := fun hl => hkind ((h.kind hd).1 hl)
    cases dev with
    | loopback => exact absurd rfl hdev
    | gsl => exact hf
    | laser => exact hf

theorem Simulates.drop (h : Simulates s w r) (p : P) : Simulates s (w.drop p) (r.leave (s.ip.key p)) := by
  refine ⟨h.works, h.flight, ?_, h.arrives.waiting, h.arrives.flight⟩
  show (r.gone ++ [s.ip.key p]).Perm (_ ++ (w.dropped ++ [p]).map s.ip.key)
  rw [List.map_append, ← List.append_assoc]
  exact h.gone.append_right _

theorem Simulates.deliver (h : Simulates s w r) (u : Nat) (p : P) :
    Simulates s (w.deliver u p) (r.leave (s.ip.key p)) := by
  refine ⟨h.works, h.flight, ?_, h.arrives.waiting, h.arrives.flight⟩
  show (r.gone ++ [s.ip.key p]).Perm ((w.delivered ++ [(u, p)]).map _ ++ w.dropped.map s.ip.key)
  rw [List.map_append, List.append_assoc]
  refine (h.gone.append_right _).trans ?_
  rw [List.append_assoc]
  exact List.perm_append_comm.append_left _

theorem Simulates.land (h : Simulates s w r) (k : Nat) : Simulates s (w.land k) (r.land k) := by
  refine ⟨h.works, ?_, h.gone, h.arrives.land k⟩
  show r.flight.eraseIdx k = w.receptions.eraseIdx k
  rw [h.flight]

/-- After a call with which a device goes on as its server does. -/
theorem Simulates.turn {α : Type} (h : Simulates s w r) {e : End} {c : Called P M α} {srv : Server (End × Frame P)}
    (hw : Works s.net s.tracking w.now e c.device srv) (hr : c.receptions = srv.started.drop (r.stations e).started.length)
    (ha : Relay.All (Arrives s) (r.turn e srv)) : Simulates s (w.called e c) (r.turn e srv) := by
  refine ⟨fun e' => ?_, ?_, h.gone, ha⟩
  · show Works s.net s.tracking w.now e' (Function.update w.devices e c.device e') (Function.update r.stations e srv e')
    by_cases he : e' = e
    · subst he
      rw [Function.update_self, Function.update_self]
      exact hw
    · rw [Function.update_of_ne he, Function.update_of_ne he]
      exact h.works e'
  · show r.flight ++ _ = w.receptions ++ c.receptions
    rw [h.flight, hr]

/-- A packet that is to go along a route is dropped by the queue of its device, or it reaches the device at the end of its
link: it is given to the server of its own device, or on its way at once if this is a loopback. It fails if the time does
not fit into a counter. -/
theorem Simulates.transmit (h : Simulates s w r) {u : Nat} {route : Route} {kind : NetDevice} {peer : End}
    (hl : Leads P s.net s.arpAll u route kind peer) (p : P) :
    (kind ≠ .loopback ∧ s.full (u, route.outIfIdx) (w.devices (u, route.outIfIdx)).queue ⟨0x0021, p⟩ = true) ∧
      w.transmit s u route p = .ok (w.drop p) ∨
    (¬ InTime s.tracking w.now ∧ ∃ err, w.transmit s u route p = .error err) ∨
    ∃ w' via frame, w.transmit s u route p = .ok w' ∧ frame.packet = p ∧ (∀ e ∈ via, e ∈ s.net.ends) ∧
      w'.state = w.state ∧ w'.delivered = w.delivered ∧ w'.dropped = w.dropped ∧
      Simulates s w' (r.offer via (peer, frame)) := by
  have hworks := h.works (u, route.outIfIdx)
  have hown := (s.built.numbered.netDevice_iff.1 hl.own).2
  obtain ⟨kind', hpeer, hkind⟩ := hl.arrival
  unfold Plane.transmit
  rw [hl.own, ok_bind]
  simp only
  rcases hworks.send s.full (hl.towards hworks) p with ⟨⟨hdev, hfull⟩, hsend⟩ | ⟨hlate, err, hsend⟩ | ⟨hdev, hsend⟩ |
    ⟨dev', hdev, hworks', hsend⟩
  · exact .inl ⟨⟨fun hloop => hdev ((hworks.kind hown).2 hloop), hfull⟩, by rw [hsend, ok_bind]; rfl⟩
  · exact .inr (.inl ⟨hlate, err, by rw [hsend]; rfl⟩)
  · have harrives : Arrives s (peer, ⟨0x0800, p⟩) := by
      refine ⟨kind', hpeer, ?_⟩
      rw [if_pos (hkind.2 ((hworks.kind hown).1 hdev))]
    have hpeer : peer = (u, route.outIfIdx) := by
      have hto := hl.towards hworks
      rw [hdev] at hto
      cases hto
      rfl
    refine .inr <| .inr ⟨w.called (u, route.outIfIdx) ⟨true, .loopback, [((u, route.outIfIdx), ⟨0x0800, p⟩)]⟩, none, ⟨0x0800, p⟩,
      by rw [hsend, ok_bind]; rfl, rfl, nofun, rfl, rfl, rfl, ?_⟩
    have hsame : Function.update w.devices (u, route.outIfIdx) .loopback = w.devices := by
      rw [← hdev]
      exact Function.update_eq_self ..
    refine ⟨?_, ?_, h.gone, h.arrives.offer harrives none⟩
    · show ∀ e, Works s.net s.tracking w.now e (Function.update w.devices (u, route.outIfIdx) .loopback e) (r.stations e)
      rw [hsame]
      exact h.works
    · show r.flight ++ [(peer, _)] = w.receptions ++ [_]
      rw [h.flight, hpeer]
  · have harrives : Arrives s (peer, ⟨0x0021, p⟩) := by
      refine ⟨kind', hpeer, ?_⟩
      rw [if_neg fun hloop => hdev ((hworks.kind hown).2 (hkind.1 hloop))]
    refine .inr <| .inr ⟨w.called (u, route.outIfIdx) ⟨true, dev', _⟩, some (u, route.outIfIdx), ⟨0x0021, p⟩,
      by rw [hsend, ok_bind]; rfl, rfl, ?_, rfl, rfl, rfl, ?_⟩
    · rintro e ⟨⟩
      exact mem_ends.2 ⟨kind, hown⟩
    · exact h.turn hworks' rfl (h.arrives.offer harrives (some (u, route.outIfIdx)))

end Relay

/-! ## Where packets go -/

section Hops

variable [DecidableEq M] (s : Scenario P K M)

/-- Where a packet for the destination goes from node `u` by the loaded lines: over the loopback, or to the node that the
last line to the node of the destination names, there to its interface unless an ISL joins a satellite to itself. -/
inductive Hop (written : List Str) (u destination : Nat) : End → Prop where
  | loopback : isLoopback destination = true → Hop written u destination (u, 0)
  | line {e peer : End} {l : Line} : IsInterface s.net e → destination = s.addr.ip e →
      lastLine written u e.1 = some l → l.nextHopNodeId = peer.1 →
      ((∀ isl ∈ s.isls, isl.1 ≠ isl.2) → 1 + l.nextIfId = peer.2) → Hop written u destination peer

/-- Node `u` has no route for the destination: it is none at all, or the line is a drop. -/
inductive Unrouted (written : List Str) (u destination : Nat) : Prop where
  | any : destination = 0 → Unrouted written u destination
  | line {e : End} {l : Line} : IsInterface s.net e → destination = s.addr.ip e →
      lastLine written u e.1 = some l → l.nextHopNodeId = -1 → Unrouted written u destination

/-- The device that the line names for the packet at node `u` has a queue that does not take it. -/
def Overflows (w : Plane P M) (written : List Str) (u : Nat) (p : P) : Prop :=
  ∃ e l, IsInterface s.net e ∧ s.ip.destination p = s.addr.ip e ∧ lastLine written u e.1 = some l ∧
    l.nextHopNodeId ≠ -1 ∧
    s.full (u, (1 + l.myIfId).toNat) (w.devices (u, (1 + l.myIfId).toNat)).queue ⟨0x0021, p⟩ = true

/-- The packet has left node `u` for the device `peer`, and nothing else has changed. -/
structure Leaves (written : List Str) (w : Plane P M) (r : Relay End (End × Frame P) K) (u : Nat) (p : P) (w' : Plane P M)
    (via : Option End) (peer : End) (frame : Frame P) : Prop where
  packet : frame.packet = p
  station : ∀ e ∈ via, e ∈ s.net.ends
  hop : Hop s written u (s.ip.destination p) peer
  state : w'.state = w.state
  delivered : w'.delivered = w.delivered
  dropped : w'.dropped = w.dropped
  simulates : Simulates s w' (r.offer via (peer, frame))

variable {s} {w w' : Plane P M} {r : Relay End (End × Frame P) K} {written : List Str}

/-- A route that was found leads where the lines say, out of the device that the line names. -/
theorem route_hop (hh : Holds s.net written w.state) {u source destination : Nat} {oif : Option End} {route : Route}
    (h : lookupArbiter s.addr s.net s.ipToNodeId w.state u source destination oif = .ok (some route)) :
    ∃ kind peer, Leads P s.net s.arpAll u route kind peer ∧ Hop s written u destination peer ∧
      (kind ≠ .loopback → ∃ e l, IsInterface s.net e ∧ destination = s.addr.ip e ∧ lastLine written u e.1 = some l ∧
        l.nextHopNodeId ≠ -1 ∧ (1 + l.myIfId).toNat = route.outIfIdx) := by
  obtain ⟨hu, ⟨hloop, hroute⟩ | ⟨e, l, hi, he, hl, hroute⟩⟩ := lookupArbiter_ok s.built hh s.mapped h
  · cases hroute
    exact ⟨.loopback, (u, 0), leads_loopback s.built hu, .loopback hloop, fun hkind => absurd rfl hkind⟩
  · obtain ⟨rfl, -, hc, -⟩ := hh.last hl
    obtain ⟨kind, peer, -, hleads, hnode, hif⟩ := leads_line (P := P) s.built s.arp hc hroute
    refine ⟨kind, peer, hleads, .line hi he hl hnode hif, fun _ => ⟨e, l, hi, he, hl, ?_⟩⟩
    unfold Line.route at hroute
    split at hroute
    · cases hroute
    · rename_i hset
      cases hroute
      exact ⟨hset, rfl⟩

/-- Without a route, the line is a drop. -/
theorem noRoute_unrouted (hh : Holds s.net written w.state) {u source destination : Nat} {oif : Option End}
    (h : lookupArbiter s.addr s.net s.ipToNodeId w.state u source destination oif = .ok none) :
    Unrouted s written u destination := by
  obtain ⟨-, ⟨-, hroute⟩ | ⟨e, l, hi, he, hl, hroute⟩⟩ := lookupArbiter_ok s.built hh s.mapped h
  · cases hroute
  · refine .line hi he hl ?_
    unfold Line.route at hroute
    split at hroute
    · assumption
    · cases hroute

theorem Simulates.leave (h : Simulates s w r) (hh : Holds s.net written w.state) {u source : Nat} {oif : Option End}
    {route : Route} {p : P}
    (hroute : lookupArbiter s.addr s.net s.ipToNodeId w.state u source (s.ip.destination p) oif = .ok (some route)) :
    Overflows s w written u p ∧ w.transmit s u route p = .ok (w.drop p) ∨
    (¬ InTime s.tracking w.now ∧ ∃ err, w.transmit s u route p = .error err) ∨
    ∃ w' via peer frame, w.transmit s u route p = .ok w' ∧ Leaves s written w r u p w' via peer frame := by
  obtain ⟨kind, peer, hleads, hhop, hline⟩ := route_hop hh hroute
  rcases h.transmit hleads p with ⟨⟨hkind, hfull⟩, hrun⟩ | hlate | ⟨w', via, frame, hrun, hp, hvia, hs, hd, hdr, hsim⟩
  · obtain ⟨e, l, hi, he, hl, hset, hout⟩ := hline hkind
    exact .inl ⟨⟨e, l, hi, he, hl, hset, by rw [hout]; exact hfull⟩, hrun⟩
  · exact .inr (.inl hlate)
  · exact .inr (.inr ⟨w', via, peer, frame, hrun, hp, hvia, hhop, hs, hd, hdr, hsim⟩)

/-- What sending does. -/
theorem Simulates.send (h : Simulates s w r) (hh : Holds s.net written w.state) {u source : Nat} {p : P}
    (hrun : w.send s u source p = .ok w') :
    (Unrouted s written u (s.ip.destination p) ∨ Overflows s w written u p) ∧ w' = w.drop p ∨
    ∃ via peer frame, Leaves s written w r u p w' via peer frame := by
  obtain ⟨route, hroute, hrun⟩ := bind_ok hrun
  unfold routeOutput at hroute
  split at hroute
  · cases hroute
  split at hroute
  · rename_i hany
    cases hroute
    cases hrun
    exact .inl ⟨.inl (.any hany), rfl⟩
  cases route with
  | none =>
    cases hrun
    exact .inl ⟨.inl (noRoute_unrouted hh hroute), rfl⟩
  | some route =>
    rcases h.leave hh hroute with ⟨hfull, htransmit⟩ | ⟨-, err, htransmit⟩ | ⟨w₁, via, peer, frame, htransmit, hleaves⟩ <;>
      cases htransmit.symm.trans hrun
    · exact .inl ⟨.inr hfull, rfl⟩
    · exact .inr ⟨via, peer, frame, hleaves⟩

/-- What a reception does: the packet is delivered, dropped, or goes on. -/
theorem Simulates.receive (h : Simulates s w r) (hh : Holds s.net written w.state) {k : Nat} {d : End} {frame : Frame P}
    (hk : w.receptions[k]? = some (d, frame)) (hrun : (w.land k).receive s d frame = .ok w') :
    s.ip.isDestinationAddress d.1 (s.ip.destination frame.packet) = true ∧ w' = (w.land k).deliver d.1 frame.packet ∨
    s.ip.isDestinationAddress d.1 (s.ip.destination frame.packet) = false ∧
      ((Unrouted s written d.1 (s.ip.destination frame.packet) ∨ s.ip.timeToLive frame.packet ≤ 1) ∧
        w' = (w.land k).drop frame.packet ∨
      ∃ p', s.ip.forward frame.packet = some p' ∧ (Overflows s w written d.1 p' ∧ w' = (w.land k).drop p' ∨
        ∃ via peer frame', Leaves s written (w.land k) (r.land k) d.1 p' w' via peer frame')) := by
  obtain ⟨kind, hd, hprotocol⟩ : Arrives s (d, frame) := h.arrives.flight _ (by rw [h.flight]; exact List.mem_of_getElem? hk)
  have hreceive := (h.works d).receive ((h.works d).framed hd hprotocol)
  unfold Plane.receive at hrun
  rw [show (w.land k).devices = w.devices from rfl, hreceive, ok_bind] at hrun
  simp only [ne_eq, not_true_eq_false, if_false] at hrun
  obtain ⟨input, hinput, hrun⟩ := bind_ok hrun
  unfold routeInput at hinput
  rw [s.built.numbered.interfaceForDevice hd] at hinput
  simp only at hinput
  split at hinput
  · cases hinput
  cases hown : s.ip.isDestinationAddress d.1 (s.ip.destination frame.packet) with
  | true =>
    rw [hown] at hinput
    cases hinput
    cases hrun
    exact .inl ⟨rfl, rfl⟩
  | false =>
    refine .inr ⟨rfl, ?_⟩
    rw [hown, if_neg Bool.false_ne_true, s.isForwarding_eq, if_neg (by simp)] at hinput
    obtain ⟨route, hroute, hinput⟩ := bind_ok hinput
    cases route with
    | none =>
      cases hinput
      cases hrun
      exact .inl ⟨.inl (noRoute_unrouted (w := w.land k) hh hroute), rfl⟩
    | some route =>
      cases hinput
      simp only at hrun
      cases hforward : s.ip.forward frame.packet with
      | none =>
        rw [hforward] at hrun
        cases hrun
        exact .inl ⟨.inr ((s.ip.expired _).1 hforward), rfl⟩
      | some p' =>
        rw [hforward] at hrun
        refine .inr ⟨p', rfl, ?_⟩
        rw [← (s.ip.forwarded _ _ hforward).2.2.1] at hroute
        rcases (h.land k).leave (w := w.land k) hh hroute with ⟨hfull, htransmit⟩ | ⟨-, err, htransmit⟩ |
          ⟨w₁, via, peer, frame', htransmit, hleaves⟩ <;> cases htransmit.symm.trans hrun
        · exact .inl ⟨hfull, rfl⟩
        · exact .inr ⟨via, peer, frame', hleaves⟩

/-- The packet is for a loopback, or for an interface from a source that every arbiter knows. -/
def Addressed (s : Scenario P K M) (p : P) : Prop :=
  isLoopback (s.ip.destination p) = true ∨
    (∃ e, IsInterface s.net e ∧ s.ip.destination p = s.addr.ip e) ∧ Sourced s.ipToNodeId (s.ip.source p)

/-- No line was loaded from node `u` to the node that the packet is for. -/
def Unset (s : Scenario P K M) (written : List Str) (u : Nat) (p : P) : Prop :=
  ∃ e, IsInterface s.net e ∧ s.ip.destination p = s.addr.ip e ∧ lastLine written u e.1 = none

def unsetFail : Fail := .abort "Forwarding state is not set for this node to this target node (invalid)."

/-- An arbiter has an answer for such a packet, unless no line was loaded for it. -/
theorem Addressed.lookupArbiter {p : P} (h : Addressed s p) (hh : Holds s.net written w.state) {u : Nat}
    (hu : u < s.net.nodes.length) :
    (∃ route, Satellite.lookupArbiter s.addr s.net s.ipToNodeId w.state u (s.ip.source p) (s.ip.destination p) none =
      .ok route) ∨
    Unset s written u p ∧ Satellite.lookupArbiter s.addr s.net s.ipToNodeId w.state u (s.ip.source p) (s.ip.destination p) none =
      .error unsetFail := by
  rcases h with hloop | ⟨⟨e, hi, he⟩, hs⟩
  · left
    refine ⟨some ⟨0, 0⟩, ?_⟩
    unfold Satellite.lookupArbiter
    rw [List.getElem?_eq_getElem (by rw [hh.length]; exact hu)]
    simp only [(multicast_of_loopback hloop).2, hloop, Bool.false_eq_true, if_false, Option.isSome_none, if_true]
  · rw [he, lookupArbiter_line s.built hh s.mapped hu hi (s.unicast e hi) hs]
    cases hl : lastLine written u e.1 with
    | none => exact .inr ⟨⟨e, hi, he, hl⟩, rfl⟩
    | some l => exact .inl ⟨_, rfl⟩

theorem Addressed.isMulticast {p : P} (h : Addressed s p) : Satellite.isMulticast (s.ip.destination p) = false := by
  rcases h with hloop | ⟨⟨e, hi, he⟩, -⟩
  · exact (multicast_of_loopback hloop).1
  · rw [he]
    exact (s.unicast e hi).multicast

/-- A reception of such a packet does not fail in time, unless it has to go on and no line was loaded for it. -/
theorem Simulates.receive_total (h : Simulates s w r) (hh : Holds s.net written w.state) {k : Nat} {d : End}
    {frame : Frame P} (hk : w.receptions[k]? = some (d, frame)) (ha : Addressed s frame.packet)
    (ht : InTime s.tracking w.now) :
    (∃ w', (w.land k).receive s d frame = .ok w') ∨
    s.ip.isDestinationAddress d.1 (s.ip.destination frame.packet) = false ∧ Unset s written d.1 frame.packet ∧
      (w.land k).receive s d frame = .error unsetFail := by
  obtain ⟨kind, hd, hprotocol⟩ : Arrives s (d, frame) := h.arrives.flight _ (by rw [h.flight]; exact List.mem_of_getElem? hk)
  obtain ⟨nd, hnd, -⟩ := Node.deviceAt_some hd
  have hreceive := (h.works d).receive ((h.works d).framed hd hprotocol)
  unfold Plane.receive
  rw [show (w.land k).devices = w.devices from rfl, hreceive, ok_bind]
  simp only [ne_eq, not_true_eq_false, if_false]
  unfold routeInput
  rw [s.built.numbered.interfaceForDevice hd]
  simp only [ha.isMulticast, Bool.false_eq_true, if_false, s.isForwarding_eq]
  cases hown : s.ip.isDestinationAddress d.1 (s.ip.destination frame.packet) with
  | true => exact .inl ⟨_, rfl⟩
  | false =>
    rw [if_neg Bool.false_ne_true, if_neg (by simp)]
    rcases ha.lookupArbiter (w := w.land k) hh (List.getElem?_eq_some_iff.1 hnd).1 with ⟨route, hroute⟩ | ⟨hunset, hroute⟩
    · left
      rw [hroute, ok_bind]
      cases route with
      | none => exact ⟨_, rfl⟩
      | some route =>
        simp only [ok_bind]
        cases hforward : s.ip.forward frame.packet with
        | none => exact ⟨_, rfl⟩
        | some p' =>
          simp only
          obtain ⟨-, -, hdest, -⟩ := s.ip.forwarded _ _ hforward
          rw [← hdest] at hroute
          rcases (h.land k).leave (w := w.land k) hh hroute with ⟨-, htransmit⟩ | ⟨hlate, -⟩ | ⟨w₁, -, -, -, htransmit, -⟩
          · exact ⟨_, htransmit⟩
          · exact absurd ht hlate
          · exact ⟨_, htransmit⟩
    · exact .inr ⟨rfl, hunset, by rw [hroute]; rfl⟩

/-- An event of a device that is pending does not fail in time, and nothing but the device goes on. -/
theorem Simulates.complete (h : Simulates s w r) {e : End} {i : Nat} (hi : i < (w.devices e).pending) :
    e ∈ s.net.ends ∧ (r.stations e).serving ≠ none ∧
      ((¬ InTime s.tracking w.now ∧ ∃ err, w.complete s e i = .error err) ∨
        ∃ w', w.complete s e i = .ok w' ∧ w'.state = w.state ∧ w'.delivered = w.delivered ∧
          w'.dropped = w.dropped ∧ Simulates s w' (r.finish e)) := by
  have hworks := h.works e
  obtain ⟨hserving, hcalled⟩ := hworks.complete s.full hi
  have hend : e ∈ s.net.ends := by
    generalize w.devices e = dev at hworks hi
    generalize r.stations e = srv at hworks
    cases hworks with
    | loopback => cases hi
    | gsl hd => exact mem_ends.2 ⟨_, hd⟩
    | laser hd => exact mem_ends.2 ⟨_, hd⟩
  refine ⟨hend, hserving, ?_⟩
  unfold Plane.complete
  rcases hcalled with ⟨hlate, err, hcomplete⟩ | ⟨dev', hworks', hcomplete⟩
  · exact .inl ⟨hlate, err, by rw [hcomplete]; rfl⟩
  · refine .inr ⟨w.called e ⟨(), dev', _⟩, ?_, rfl, rfl, rfl, h.turn hworks' rfl (h.arrives.finish e)⟩
    rw [hcomplete, ok_bind]

theorem Simulates.wait (h : Simulates s w r) {t : Int} (ht : w.now ≤ t) : Simulates s { w with now := t } r :=
  ⟨fun e => (h.works e).wait ht, h.flight, h.gone, h.arrives⟩

/-- At the start all servers are idle. -/
theorem simulates_start (s : Scenario P K M) (state : ForwardingState) :
    Simulates s (Plane.start s state) Relay.idle := by
  refine ⟨fun e => ?_, rfl, List.Perm.refl _, Relay.all_idle⟩
  show Works s.net s.tracking 0 e (Plane.initialDevice s e) Server.idle
  unfold Plane.initialDevice
  cases hd : Node.deviceAt s.net.nodes e with
  | none => exact .loopback (by rw [hd]; nofun)
  | some kind =>
    cases kind with
    | loopback => exact .loopback (by rw [hd]; rintro d ⟨⟩; rfl)
    | gsl =>
      have hserves : GSLNetDevice.Serves (GSLNetDevice.init.notifyLinkUp : GSLNetDevice P M) Server.idle :=
        .ready true []
      exact Works.gsl hd hserves rfl (List.forall_mem_nil _)
    | laser k =>
      obtain ⟨ch, hk, -⟩ := (s.built.laser e k).1 hd
      obtain ⟨e₀, e₁, hatt, hne, -⟩ := s.built.ends k ch hk
      have hk' : s.net.lasers[k]? = some ⟨[e₀, e₁]⟩ := by rw [hk, ← hatt]
      cases htracking : s.tracking with
      | none =>
        have hserves : LaserServes none 0 (PointToPointLaserNetDevice.init.notifyLinkUp : PointToPointLaserNetDevice P)
            Server.idle := .ready true 0 _ [] []
        exact Works.laser hd hk' hne hserves rfl
      | some intervalNs =>
        have hi : (1 : Int) ≤ intervalNs := by
          have := s.tracking_pos intervalNs htracking
          omega
        have hserves : LaserServes (some intervalNs) 0 ((PointToPointLaserNetDevice.init.notifyLinkUp :
            PointToPointLaserNetDevice P).enableUtilizationTracking intervalNs) Server.idle :=
          .tracked rfl hi le_rfl (.ready true _ [] []
            (PointToPointLaserNetDevice.follows_init hi (s.tracking_lt intervalNs htracking)))
        exact Works.laser hd hk' hne hserves rfl

end Hops

/-! ## A packet over two satellites -/

structure Datagram (κ : Type) where
  key : κ
  source : Nat
  destination : Nat
  timeToLive : Nat
  deriving Repr, DecidableEq

def datagramLayer (κ : Type) : IpLayer (Datagram κ) κ where
  isDestinationAddress u address := address == Nat.pair u 1 || address == Nat.pair u 2
  isForwarding _ _ := true
  key := Datagram.key
  source := Datagram.source
  destination := Datagram.destination
  timeToLive := Datagram.timeToLive
  forward p := if p.timeToLive ≤ 1 then none else some { p with timeToLive := p.timeToLive - 1 }
  expired p := by
    split
    · simpa using ‹_›
    · rename_i h
      exact iff_of_false nofun h
  forwarded p p' h := by
    split at h
    · cases h
    · cases h
      exact ⟨rfl, rfl, rfl, Nat.sub_add_cancel (by omega)⟩

def untracked : BasicSimulation :=
  { simulation twoSatellitesLines with
    config := [("satellite_network_routes_dir".toList, "routes".toList),
      ("enable_isl_utilization_tracking".toList, "false".toList)] }

def pairScenario (κ : Type) : Scenario (Datagram κ) κ End where
  addr := pairAddresses
  numSatellites := 2
  numGroundStations := 2
  isls := [(0, 1)]
  nodeGslIfInfo := [1, 1, 1, 1]
  net := twoSatellites
  build_eq := build_twoSatellites
  arpAll := ⟨[(Nat.pair 3 1, (3, 1)), (Nat.pair 2 1, (2, 1)), (Nat.pair 1 2, (1, 2)), (Nat.pair 1 1, (1, 1)),
    (Nat.pair 0 2, (0, 2)), (Nat.pair 0 1, (0, 1))], [(0, 1), (0, 2), (1, 1), (1, 2), (2, 1), (3, 1)]⟩
  arpAll_eq := rfl
  ipToNodeId := [(Nat.pair 0 1, 0), (Nat.pair 0 2, 0), (Nat.pair 1 1, 1), (Nat.pair 1 2, 1), (Nat.pair 2 1, 2),
    (Nat.pair 3 1, 3)]
  ipToNodeId_eq := rfl
  sim := untracked
  tracking := none
  tracking_eq := rfl
  tracking_pos := nofun
  full _ _ _ := false
  errorModel _ := false
  ip := datagramLayer κ
  unicast e hi := by
    have hends : ∀ e ∈ twoSatellites.ends, e.2 ≠ 0 → isMulticast (Nat.pair e.1 e.2) = false ∧
        isLocalMulticast (Nat.pair e.1 e.2) = false ∧ isLoopback (Nat.pair e.1 e.2) = false ∧ Nat.pair e.1 e.2 ≠ 0 := by
      decide
    obtain ⟨hm, hlm, hl, h0⟩ := hends e (mem_ends.2 hi.2) hi.1
    exact ⟨hm, hlm, hl, h0⟩
  isDestinationAddress_iff e hi u := by
    have hends : ∀ e ∈ twoSatellites.ends, e.2 ≠ 0 → e.2 = 1 ∨ e.2 = 2 := by decide
    show (Nat.pair e.1 e.2 == Nat.pair u 1 || Nat.pair e.1 e.2 == Nat.pair u 2) = true ↔ u = e.1
    rw [Bool.or_eq_true, beq_iff_eq, beq_iff_eq, Nat.pair_eq_pair, Nat.pair_eq_pair, ← and_or_left,
      and_iff_left (hends e (mem_ends.2 hi.2) hi.1)]
    exact eq_comm
  isForwarding_eq _ _ := rfl

theorem loaded_pairScenario : Loaded untracked twoSatellites twoSatellitesLines twoSatellitesState :=
  .update 100 0 twoSatellitesLines twoSatellitesState (some 100) .init rfl (by decide +kernel)

def pairDatagram : Datagram Nat := ⟨7, Nat.pair 2 1, Nat.pair 3 1, 64⟩

/-- The datagram is sent from ground station 2, received by both satellites and delivered at ground station 3. -/
theorem reach_pairScenario : ∃ w n, Plane.Reach (pairScenario Nat) twoSatellitesLines w twoSatellitesLines
    [(2, pairDatagram)] n ∧ w.delivered = [(3, { pairDatagram with timeToLive := 62 })] := by
  have h₀ : Plane.Reach (pairScenario Nat) _ _ _ _ 0 := .start loaded_pairScenario
  have h₁ := h₀.send 2 pairDatagram.source pairDatagram _ rfl
  have h₂ := h₁.event (.receive 0 (0, 2) ⟨0x0021, pairDatagram⟩ _ rfl rfl)
  have h₃ := h₂.event (.receive 0 (1, 1) ⟨0x0021, { pairDatagram with timeToLive := 63 }⟩ _ rfl rfl)
  have h₄ := h₃.event (.receive 0 (3, 1) ⟨0x0021, { pairDatagram with timeToLive := 62 }⟩ _ rfl rfl)
  exact ⟨_, _, h₄, rfl⟩

end SatNet.Satellite
