/-
`Ipv4ArbiterRouting` in a satellite network: from the addresses of a packet to the node it is for, and from the
forwarding state of this node to an output interface and a gateway. After any sequence of accepted files a route exists
exactly if the last line for the pair of nodes is not a drop, and it leads over the two interfaces that the line names.
-/
import SatNet.Ptop.Affinity
import SatNet.Satellite.Interfaces

namespace SatNet.Satellite

open SatNet.Loop SatNet.Device

variable {M : Type}

/-! ## The arbiter -/

section Arbiter

variable (addr : Addresses M) (net : Network M)

/-- The body of the inner loop of `Arbiter::Arbiter`: `insert` keeps what a map has for the key. -/
def insertInterface (i j : Nat) (ipToNodeId : List (Nat × Nat)) : Res (List (Nat × Nat)) := do
  let ip ← localAddress addr net i j
  .ok (if (ipToNodeId.lookup ip).isSome then ipToNodeId else ipToNodeId ++ [(ip, i)])

/-- `m_ip_to_node_id`, which every arbiter fills from all nodes. -/
def makeIpToNodeId : Res (List (Nat × Nat)) :=
  forRange net.nodes.length (fun i ipToNodeId => do
    let n ← Node.nInterfaces net.nodes i
    forRange (n - 1) (fun j => insertInterface addr net i (j + 1)) ipToNodeId) []

def resolveNodeIdFromIp (ipToNodeId : List (Nat × Nat)) (ip : Nat) : Res Nat :=
  match ipToNodeId.lookup ip with
  | some node => .ok node
  | none =>
    .error (.invalidArgument s!"IP address {Ptop.dotted (UInt32.ofNat ip)} ({ip}) is not mapped to a node id")

/-- A source address of 102.102.102.102 or 0.0.0.0 asks for the source address of a socket. -/
def isSocketRequestForSourceIp (source : Nat) : Bool := source = 1717986918 || source = 0

/-- The node of the source address; the node itself for a socket request. -/
def sourceNodeId (ipToNodeId : List (Nat × Nat)) (nodeId source : Nat) : Res Nat :=
  if isSocketRequestForSourceIp source then .ok nodeId else resolveNodeIdFromIp ipToNodeId source

def baseDecide (ipToNodeId : List (Nat × Nat)) (nextHopList : List Entry) (nodeId source destination : Nat) :
    Res Ptop.ArbiterResult := do
  let _sourceNodeId ← sourceNodeId ipToNodeId nodeId source
  let targetNodeId ← resolveNodeIdFromIp ipToNodeId destination
  ArbiterSatnet.decide addr net nextHopList targetNodeId

end Arbiter

/-! ## The routing protocol -/

def isMulticast (ip : Nat) : Bool := Ptop.isMulticast (UInt32.ofNat ip)

def isLocalMulticast (ip : Nat) : Bool := UInt32.ofNat ip &&& 0xffffff00 = 0xe0000000

def isLoopback (ip : Nat) : Bool := Ptop.isLoopback (UInt32.ofNat ip)

theorem multicast_of_loopback {ip : Nat} (h : isLoopback ip = true) :
    isMulticast ip = false ∧ isLocalMulticast ip = false := by
  unfold isLoopback Ptop.isLoopback at h
  rw [decide_eq_true_eq] at h
  unfold isMulticast Ptop.isMulticast isLocalMulticast
  rw [decide_eq_false_iff_not, decide_eq_false_iff_not]
  generalize UInt32.ofNat ip = x at h
  constructor
  · intro hm
    have hmask : x &&& 0xf0000000 = (x &&& 0xff000000) &&& 0xf0000000 := by
      rw [UInt32.and_assoc]
      rfl
    rw [h, hm] at hmask
    exact absurd hmask (by decide)
  · intro hm
    have hmask : x &&& 0xff000000 = (x &&& 0xffffff00) &&& 0xff000000 := by
      rw [UInt32.and_assoc]
      rfl
    rw [h, hm] at hmask
    exact absurd hmask (by decide)

/-- The output interface and the gateway of an `Ipv4Route`. -/
structure Route where
  outIfIdx : Nat
  gateway : Nat
  deriving Repr, DecidableEq

/-- What the protocol asks of the IP layer of a node. -/
structure IpQueries where
  isDestinationAddress : Nat → Nat → Bool
  isForwarding : Nat → Nat → Bool

/-- What `RouteInput` does with a packet: one of its callbacks, or none. -/
inductive Input where
  | localDeliver
  | unicastForward (route : Route)
  | noRoute
  deriving Repr, DecidableEq

section Protocol

variable (addr : Addresses M) (net : Network M) (ipToNodeId : List (Nat × Nat)) (state : ForwardingState)

def lookupArbiter (u source destination : Nat) (oif : Option End) : Res (Option Route) :=
  match state[u]? with
  | none => .error (.runtimeError "Arbiter has not been set")
  | some nextHopList =>
    if isLocalMulticast destination then .error (.runtimeError "Multi-cast is not supported")
    else if oif.isSome then .error (.runtimeError "Requested output interfaces are not supported")
    else if isLoopback destination then .ok (some ⟨0, 0⟩)
    else do
      let result ← baseDecide addr net ipToNodeId nextHopList u source destination
      if result.failed then .ok none else .ok (some ⟨result.outIfIdx, result.gatewayIpAddress⟩)

/-- `RouteOutput`; without a route the socket gets an error. -/
def routeOutput (u source destination : Nat) (oif : Option End) : Res (Option Route) :=
  if isMulticast destination then .error (.runtimeError "Multi-cast not supported")
  else if destination = 0 then .ok none
  else lookupArbiter addr net ipToNodeId state u source destination oif

/-- `RouteInput`, for a packet from the device `idev`. -/
def routeInput (ip : IpQueries) (idev : End) (source destination : Nat) : Res Input :=
  match Node.interfaceForDevice net.nodes idev with
  | none => .error (.assertion "m_ipv4->GetInterfaceForDevice(idev) >= 0")
  | some iif =>
    if isMulticast destination then .error (.runtimeError "Multi-cast not supported.")
    else if ip.isDestinationAddress idev.1 destination then .ok .localDeliver
    else if ip.isForwarding idev.1 iif = false then
      .error (.runtimeError "Forwarding must be enabled for every interface")
    else do
      let route ← lookupArbiter addr net ipToNodeId state idev.1 source destination none
      match route with
      | none => .ok .noRoute
      | some route => .ok (.unicastForward route)

end Protocol

/-! ## Addresses -/

/-- An interface that there is, other than a loopback. -/
def IsInterface (net : Network M) (e : End) : Prop := e.2 ≠ 0 ∧ ∃ d, Node.deviceAt net.nodes e = some d

section Addresses

variable {addr : Addresses M} {net : Network M}

/-- The map before interface `j + 1` of node `i` is inserted. -/
structure Mapped (addr : Addresses M) (net : Network M) (i j : Nat) (ipToNodeId : List (Nat × Nat)) : Prop where
  entries : ∀ p ∈ ipToNodeId, ∃ e : End, e.2 ≠ 0 ∧ (e.1 < i ∨ e.1 = i ∧ e.2 ≤ j) ∧
    (∃ d, Node.deviceAt net.nodes e = some d) ∧ p = (addr.ip e, e.1)
  resolved : ∀ (e : End) (d : NetDevice), Node.deviceAt net.nodes e = some d → e.2 ≠ 0 →
    e.1 < i ∨ e.1 = i ∧ e.2 ≤ j → ipToNodeId.lookup (addr.ip e) = some e.1

theorem insertInterface_ok (hn : Node.Numbered .loopback [] net.nodes) {i j : Nat} {ipToNodeId : List (Nat × Nat)}
    (h : Mapped addr net i j ipToNodeId) {d : NetDevice} (hd : Node.deviceAt net.nodes (i, j + 1) = some d) :
    ∃ m, insertInterface addr net i (j + 1) ipToNodeId = .ok m ∧ Mapped addr net i (j + 1) m := by
  have hnone : ipToNodeId.lookup (addr.ip (i, j + 1)) = none := by
    rw [List.lookup_eq_none_iff]
    intro p hp
    obtain ⟨e, he, hbefore, -, rfl⟩ := h.entries p hp
    rw [bne_iff_ne]
    intro hip
    rw [← addr.ip_inj (i, j + 1) e (Nat.succ_ne_zero j) he hip] at hbefore
    simp only at hbefore
    omega
  refine ⟨ipToNodeId ++ [(addr.ip (i, j + 1), i)], ?_, fun p hp => ?_, fun e d' hd' he hbefore => ?_⟩
  · unfold insertInterface localAddress
    rw [hn.netDevice_iff.2 ⟨rfl, hd⟩]
    simp only [ok_bind, hnone]
    rfl
  · rcases List.mem_append.1 hp with hp | hp
    · obtain ⟨e, he, hbefore, hdev, rfl⟩ := h.entries p hp
      exact ⟨e, he, by omega, hdev, rfl⟩
    · rw [List.mem_singleton.1 hp]
      exact ⟨(i, j + 1), Nat.succ_ne_zero j, .inr ⟨rfl, Nat.le_refl _⟩, ⟨d, hd⟩, rfl⟩
  · rw [List.lookup_append]
    by_cases hnew : e = (i, j + 1)
    · subst hnew
      rw [hnone]
      exact List.lookup_cons_self
    · have hold : e.1 < i ∨ e.1 = i ∧ e.2 ≤ j := by
        by_contra hno
        exact hnew (Prod.ext (by show e.1 = i; omega) (by show e.2 = j + 1; omega))
      rw [h.resolved e d' hd' he hold]
      rfl

/-- The addresses of all interfaces but the loopbacks are mapped to their nodes, and no others are. -/
theorem makeIpToNodeId_ok (hn : Node.Numbered .loopback [] net.nodes) :
    ∃ m, makeIpToNodeId addr net = .ok m ∧ Mapped addr net net.nodes.length 0 m := by
  refine forRange_inv (fun i m => Mapped addr net i 0 m) _ net.nodes.length []
    ⟨List.forall_mem_nil _, fun e d _ h0 hle => by omega⟩ fun i hi m h => ?_
  obtain ⟨nd, hnode⟩ : ∃ nd, net.nodes[i]? = some nd := ⟨_, List.getElem?_eq_getElem hi⟩
  have hcount : Node.nInterfaces net.nodes i = .ok nd.interfaces.length := by
    unfold Node.nInterfaces
    rw [index_ok.2 hnode, ok_bind]
  obtain ⟨m', hrun, h'⟩ := forRange_inv (fun j m => Mapped addr net i j m)
    (fun j => insertInterface addr net i (j + 1)) (nd.interfaces.length - 1) m h fun j hj m h => by
      obtain ⟨d, hd⟩ := (hn.lt_nInterfaces hcount).1 (show j + 1 < nd.interfaces.length by omega)
      exact insertInterface_ok hn h hd
  refine ⟨m', by rw [hcount, ok_bind]; exact hrun, fun p hp => ?_, fun e d hd h0 hle => h'.resolved e d hd h0 ?_⟩
  · obtain ⟨e, he, hbefore, hdev, rfl⟩ := h'.entries p hp
    exact ⟨e, he, by omega, hdev, rfl⟩
  · -- a device of node `i` is behind one of its interfaces
    by_cases hei : e.1 = i
    · have hlt := (hn.lt_nInterfaces (i := e.2) hcount).2 ⟨d, by rw [← hei]; exact hd⟩
      exact .inr ⟨hei, by omega⟩
    · exact .inl (by omega)

theorem Mapped.resolveNodeIdFromIp {m : List (Nat × Nat)} (h : Mapped addr net net.nodes.length 0 m) {e : End}
    {d : NetDevice} (hd : Node.deviceAt net.nodes e = some d) (he : e.2 ≠ 0) :
    Satellite.resolveNodeIdFromIp m (addr.ip e) = .ok e.1 := by
  obtain ⟨nd, hnd, -⟩ := Node.deviceAt_some hd
  unfold Satellite.resolveNodeIdFromIp
  rw [h.resolved e d hd he (.inl (List.getElem?_eq_some_iff.1 hnd).1)]

end Addresses

/-! ## Routes after loading -/

section Routes

variable {addr : Addresses M} {net : Network M}

/-- Neither a multicast address, nor a loopback one, nor 0.0.0.0. -/
structure Unicast (ip : Nat) : Prop where
  multicast : isMulticast ip = false
  localMulticast : isLocalMulticast ip = false
  loopback : isLoopback ip = false
  any : ip ≠ 0

/-- The route that a line stands for: none for a drop. -/
def Line.route (addr : Addresses M) (l : Line) : Option Route :=
  if l.nextHopNodeId = -1 then none
  else some ⟨(1 + l.myIfId).toNat, addr.ip (l.nextHopNodeId.toNat, (1 + l.nextIfId).toNat)⟩

/-- What the line for a pair of nodes makes of a packet, or that there is none. -/
def lineRoute (addr : Addresses M) (line : Option Line) : Res (Option Route) :=
  match line with
  | none => .error (.abort "Forwarding state is not set for this node to this target node (invalid).")
  | some l => .ok (l.route addr)

/-- Every arbiter can tell the source of the header. -/
def Sourced (ipToNodeId : List (Nat × Nat)) (source : Nat) : Prop :=
  ∀ nodeId, ∃ node, sourceNodeId ipToNodeId nodeId source = .ok node

variable [DecidableEq M] {n : Nat} {isls : List (Nat × Nat)} {written : List Str} {state : ForwardingState}
  {m : List (Nat × Nat)}

/-- A packet for the interface `e` takes the route of the last line from the node to that of `e`. -/
theorem lookupArbiter_line (hb : Built addr n isls [] net) (hh : Holds net written state)
    (hm : Mapped addr net net.nodes.length 0 m) {u source : Nat} (hu : u < net.nodes.length) {e : End}
    (hi : IsInterface net e) (hunicast : Unicast (addr.ip e)) (hs : Sourced m source) :
    lookupArbiter addr net m state u source (addr.ip e) none = lineRoute addr (lastLine written u e.1) := by
  obtain ⟨he, d, hd⟩ := hi
  obtain ⟨row, hrow⟩ : ∃ row, state[u]? = some row := ⟨_, List.getElem?_eq_getElem (by rw [hh.length]; exact hu)⟩
  obtain ⟨nd, hnd, -⟩ := Node.deviceAt_some hd
  have hv : e.1 < net.nodes.length := (List.getElem?_eq_some_iff.1 hnd).1
  have hentry := hh.entry u hu e.1 hv
  unfold entryAt at hentry
  rw [hrow, Option.bind_some] at hentry
  have hbase : baseDecide addr net m row u source (addr.ip e) = ArbiterSatnet.decide addr net row e.1 := by
    obtain ⟨node, hs⟩ := hs u
    unfold baseDecide
    rw [hm.resolveNodeIdFromIp hd he, hs, ok_bind, ok_bind]
  unfold lookupArbiter
  simp only [hrow, hunicast.localMulticast, hunicast.loopback, Bool.false_eq_true, if_false, Option.isSome_none, hbase]
  cases hl : lastLine written u e.1 with
  | none =>
    rw [hl, Option.map_none, Option.getD_none] at hentry
    unfold ArbiterSatnet.decide topologySatelliteNetworkDecide
    rw [index_ok.2 hentry, ok_bind]
    rfl
  | some l =>
    obtain ⟨rfl, htarget, hc, -⟩ := hh.last hl
    rw [hl, Option.map_some, Option.getD_some, ← htarget] at hentry
    rw [← htarget]
    rcases decide_line hb hc hentry with ⟨hdrop, hdecide⟩ | ⟨next, i, j, d, d', hset, hdecide, -⟩
    · rw [hdecide, ok_bind]
      show Except.ok none = Except.ok (l.route addr)
      unfold Line.route
      rw [if_pos (show l.nextHopNodeId = -1 from congrArg Prod.fst hdrop)]
    · rw [hdecide, ok_bind]
      show Except.ok (some (⟨i, addr.ip (next, j)⟩ : Route)) = Except.ok (l.route addr)
      have hnext : l.nextHopNodeId = next := congrArg Prod.fst hset
      have hi : 1 + l.myIfId = i := congrArg (fun e : Entry => e.2.1) hset
      have hj : 1 + l.nextIfId = j := congrArg (fun e : Entry => e.2.2) hset
      unfold Line.route
      rw [if_neg (by omega), hnext, hi, hj]
      rfl

/-- What is found is a route to the loopback, or what the last line to the node of an interface makes of the packet. -/
theorem lookupArbiter_ok (hb : Built addr n isls [] net) (hh : Holds net written state)
    (hm : Mapped addr net net.nodes.length 0 m) {u source destination : Nat} {oif : Option End} {route : Option Route}
    (h : lookupArbiter addr net m state u source destination oif = .ok route) :
    u < net.nodes.length ∧ (isLoopback destination = true ∧ route = some ⟨0, 0⟩ ∨
      ∃ (e : End) (l : Line), IsInterface net e ∧ destination = addr.ip e ∧ lastLine written u e.1 = some l ∧
        l.route addr = route) := by
  unfold lookupArbiter at h
  cases hrow : state[u]? with
  | none => rw [hrow] at h; cases h
  | some row =>
    have hu : u < net.nodes.length := by
      rw [← hh.length]
      exact (List.getElem?_eq_some_iff.1 hrow).1
    refine ⟨hu, ?_⟩
    rw [hrow] at h
    simp only at h
    split at h
    · cases h
    split at h
    · cases h
    split at h
    · rename_i hloop
      cases h
      exact .inl ⟨hloop, rfl⟩
    right
    obtain ⟨result, hbase, h⟩ := bind_ok h
    obtain ⟨node, -, hbase⟩ := bind_ok hbase
    obtain ⟨v, hv, hdecide⟩ := bind_ok hbase
    obtain ⟨e, hi, he, hve⟩ : ∃ e : End, IsInterface net e ∧ destination = addr.ip e ∧ v = e.1 ∧
        e.1 < net.nodes.length := by
      unfold resolveNodeIdFromIp at hv
      split at hv
      · rename_i v' hlookup
        cases hv
        obtain ⟨l₁, l₂, hsplit, -⟩ := List.lookup_eq_some_iff.1 hlookup
        obtain ⟨e, hpos, -, ⟨d, hd⟩, hp⟩ := hm.entries (destination, v) (by rw [hsplit]; simp)
        obtain ⟨nd, hnd, -⟩ := Node.deviceAt_some hd
        exact ⟨e, ⟨hpos, d, hd⟩, congrArg Prod.fst hp, congrArg Prod.snd hp, (List.getElem?_eq_some_iff.1 hnd).1⟩
      · cases hv
    obtain ⟨rfl, hlt⟩ := hve
    have hentry := hh.entry u hu e.1 hlt
    unfold entryAt at hentry
    rw [hrow, Option.bind_some] at hentry
    cases hl : lastLine written u e.1 with
    | none =>
      rw [hl, Option.map_none, Option.getD_none] at hentry
      unfold ArbiterSatnet.decide topologySatelliteNetworkDecide at hdecide
      rw [index_ok.2 hentry, ok_bind] at hdecide
      cases hdecide
    | some l =>
      refine ⟨e, l, hi, he, hl, ?_⟩
      obtain ⟨rfl, htarget, hc, -⟩ := hh.last hl
      rw [hl, Option.map_some, Option.getD_some, ← htarget] at hentry
      rw [← htarget] at hdecide
      unfold Line.route
      rcases decide_line hb hc hentry with ⟨hdrop, hdecide'⟩ | ⟨next, i, j, d, d', hset, hdecide', -⟩
      · rw [hdecide'] at hdecide
        cases hdecide
        cases h
        rw [if_pos (show l.nextHopNodeId = -1 from congrArg Prod.fst hdrop)]
      · rw [hdecide'] at hdecide
        cases hdecide
        cases h
        have hnext : l.nextHopNodeId = next := congrArg Prod.fst hset
        have hi : 1 + l.myIfId = i := congrArg (fun e : Entry => e.2.1) hset
        have hj : 1 + l.nextIfId = j := congrArg (fun e : Entry => e.2.2) hset
        rw [if_neg (by omega), hnext, hi, hj]
        rfl

/-! ## Where routes lead -/

/-- A packet that node `u` sends along the route goes over its own device of the given kind to the device `peer`. -/
structure Leads (P : Type) (net : Network M) (arpAll : ArpCache M) (u : Nat) (route : Route) (kind : NetDevice)
    (peer : End) : Prop where
  own : Node.netDevice net.nodes u route.outIfIdx = .ok ((u, route.outIfIdx), kind)
  arrival : ∃ kind', Node.deviceAt net.nodes peer = some kind' ∧ (kind' = .loopback ↔ kind = .loopback)
  towards : ∀ {tracking : Option Nat} {now : Int} {dev : DeviceState P M} {srv : Server (End × Frame P)},
    Works net tracking now (u, route.outIfIdx) dev srv → Towards net arpAll (u, route.outIfIdx) route.gateway dev peer

variable {P : Type} {arpAll : ArpCache M}

theorem leads_loopback (hb : Built addr n isls [] net) {u : Nat} (hu : u < net.nodes.length) :
    Leads P net arpAll u ⟨0, 0⟩ .loopback (u, 0) := by
  have hzero : Node.deviceAt net.nodes (u, 0) = some .loopback := by
    have hnd := List.getElem?_eq_getElem hu
    exact (Node.deviceAt_eq (e := (u, 0)) hnd).trans (hb.numbered u _ hnd).2
  refine ⟨hb.numbered.netDevice_iff.2 ⟨rfl, hzero⟩, ⟨.loopback, hzero, Iff.rfl⟩, fun {tracking now dev srv} hw => ?_⟩
  cases hw with
  | loopback => exact .loopback
  | gsl hd => rw [hzero] at hd; cases hd
  | laser hd => rw [hzero] at hd; cases hd

/-- The route of an accepted line leads to the node that it names, and to its interface there unless an ISL joins a
satellite to itself. -/
theorem leads_line (hb : Built addr n isls [] net)
    (harp : ∀ (e : End) (d : NetDevice), Node.deviceAt net.nodes e = some d → e.2 ≠ 0 →
      e ∈ arpAll.users ∧ arpAll.entries.lookup (addr.ip e) = some (addr.mac e))
    {l : Line} (hc : checkLine net l = .ok ()) {route : Route} (hr : l.route addr = some route) :
    ∃ kind peer, kind ≠ .loopback ∧ Leads P net arpAll l.currentNodeId route kind peer ∧ l.nextHopNodeId = peer.1 ∧
      ((∀ isl ∈ isls, isl.1 ≠ isl.2) → 1 + l.nextIfId = peer.2) := by
  have hset : l.nextHopNodeId ≠ -1 := by
    intro hdrop
    unfold Line.route at hr
    rw [if_pos hdrop] at hr
    cases hr
  obtain ⟨-, -, hdrop | ⟨next, i, j, hnext, hi, hj, -, hdevices⟩⟩ := checkLine_ok hc
  · exact absurd (congrArg Prod.fst hdrop) hset
  have hown : (1 + l.myIfId).toNat = i + 1 := by omega
  have hother : (1 + l.nextIfId).toNat = j + 1 := by omega
  unfold Line.route at hr
  rw [if_neg hset, hnext, hown, hother, Int.toNat_natCast] at hr
  cases hr
  rw [hnext]
  have hif : 1 + l.nextIfId = (j + 1 : Nat) := by omega
  rw [hif]
  rcases checkDevices_ok hb hnext hi hj hdevices with ⟨hsource, hdest⟩ | ⟨k, d₀, d₁, hk, hne, hsource, hdest, hmem, hpeer⟩
  · have hat := (hb.numbered.netDevice_iff.1 hsource).2
    have hat' := (hb.numbered.netDevice_iff.1 hdest).2
    refine ⟨.gsl, (next, j + 1), nofun, ⟨hsource, ⟨.gsl, hat', by simp⟩, fun {tracking now dev srv} hw => ?_⟩, rfl, fun _ => rfl⟩
    cases hw with
    | loopback hd => cases hd _ hat
    | gsl =>
      refine @Towards.gsl P M _ net arpAll _ _ _ (addr.mac (next, j + 1)) _ ?_ (hb.gsl _ hat')
      unfold resolve
      rw [if_pos (List.contains_iff_mem.2 (harp _ _ hat (hb.pos hat nofun)).1), (harp _ _ hat' (hb.pos hat' nofun)).2]
    | laser hd => rw [hat] at hd; cases hd
  · have hat := (hb.numbered.netDevice_iff.1 hsource).2
    -- the other end is the one that the line names, unless the node is at both ends
    have hnamed : (next, j + 1) = (if (l.currentNodeId, i + 1) = d₀ then d₁ else d₀) ∨
        d₀.1 = d₁.1 ∧ next = (if (l.currentNodeId, i + 1) = d₀ then d₁ else d₀).1 := by
      rcases hmem with hmem | hmem
      · rw [if_pos hmem, hpeer, if_pos (by rw [← hmem])]
        exact .inl rfl
      · rw [if_neg (by rw [hmem]; exact Ne.symm hne), hpeer]
        have hcur : l.currentNodeId = d₁.1 := by rw [← hmem]
        by_cases hd : d₀.1 = l.currentNodeId
        · rw [if_pos hd] at hpeer
          exact .inr ⟨hd.trans hcur, (congrArg Prod.fst hpeer).trans (hcur.symm.trans hd.symm)⟩
        · rw [if_neg hd]
          exact .inl rfl
    refine ⟨.laser k, if (l.currentNodeId, i + 1) = d₀ then d₁ else d₀, nofun, ⟨hsource, ⟨.laser k, ?_, by simp⟩,
      fun {tracking now dev srv} hw => ?_⟩, ?_, fun hisls => ?_⟩
    · refine (hb.laser _ k).2 ⟨_, hk, ?_⟩
      split <;> simp
    · cases hw with
      | loopback hd => cases hd _ hat
      | gsl hd => rw [hat] at hd; cases hd
      | laser hd hk' =>
        rw [hat] at hd
        cases hd
        cases Option.some.inj (hk.symm.trans hk')
        exact .laser hk
    · rcases hnamed with hnamed | ⟨-, hnamed⟩
      · rw [← hnamed]
      · rw [← hnamed]
    · rcases hnamed with hnamed | ⟨hloop, -⟩
      · rw [← hnamed]
      · obtain ⟨e₀, e₁, hatt, -, hisl⟩ := hb.ends k _ hk
        simp only [List.cons.injEq, and_true] at hatt
        rw [hatt.1, hatt.2] at hloop
        exact absurd hloop (hisls _ (List.mem_of_getElem? hisl))

end Routes

end SatNet.Satellite
