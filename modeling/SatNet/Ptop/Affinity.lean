/-
Flow affinity: the next hop of a forwarded packet is a function of the node and of its five-tuple.
Every byte of the reused buffer is written before the hash reads it, and the hasher is cleared, so
nothing of the packets decided before is left; hence the packets of one five-tuple take one path from
a node, whatever traffic is mixed in.
-/
import SatNet.Ptop.ArbiterEcmp
import SatNet.Lib.Hops

namespace SatNet.Ptop

open SatNet.Loop

/-! ## BaseDecide -/

/-- The dotted form in which an address is printed. -/
def dotted (ip : UInt32) : String :=
  s!"{(ip >>> 24) &&& 255}.{(ip >>> 16) &&& 255}.{(ip >>> 8) &&& 255}.{ip &&& 255}"

section BaseDecide

variable {H : Type} (hasher : Hasher H)

def resolveNodeIdFromIp (m : List (UInt32 × Nat)) (ip : UInt32) : Call Fail (Scratch H) Nat := do
  let st ← Call.get
  Call.set { st with ipToNodeIdIt := m.find? (·.1 = ip) }
  let st ← Call.get
  match st.ipToNodeIdIt with
  | some entry => pure entry.2
  | none => Call.throw (.invalidArgument s!"IP address {dotted ip} ({ip}) is not mapped to a node id")

/-- A source address of 102.102.102.102 or 0.0.0.0 asks for the source address of a socket. -/
def isSocketRequestForSourceIp (ipHeader : Ipv4Header) : Bool := ipHeader.source = 1717986918 || ipHeader.source = 0

/-- The node of the source address; the node itself for a socket request. -/
def ArbiterEcmp.sourceNodeId (a : ArbiterEcmp) (ipHeader : Ipv4Header) : Call Fail (Scratch H) Nat :=
  if isSocketRequestForSourceIp ipHeader then pure a.base.nodeId
  else resolveNodeIdFromIp a.ipToNodeId ipHeader.source

def ArbiterEcmp.baseDecide (a : ArbiterEcmp) (pkt : Packet) (ipHeader : Ipv4Header) :
    Call Fail (Scratch H) ArbiterResult := do
  let _sourceNodeId ← a.sourceNodeId ipHeader
  let targetNodeId ← resolveNodeIdFromIp a.ipToNodeId ipHeader.destination
  a.decide hasher (toInt32 targetNodeId) pkt ipHeader (isSocketRequestForSourceIp ipHeader)

/-- The mutable members after the decisions for the packets `history`. -/
def ArbiterEcmp.after (a : ArbiterEcmp) (st : Scratch H) (history : List (Packet × Ipv4Header)) : Scratch H :=
  history.foldl (fun st p => ((a.baseDecide hasher p.1 p.2).run st).2) st

end BaseDecide

/-! ## The buffer -/

/-- The flow a packet belongs to; only UDP and TCP have ports. -/
structure FiveTuple where
  source : UInt32
  destination : UInt32
  protocol : UInt8
  ports : Option Ports
  deriving Repr, DecidableEq

def fiveTuple (ipHeader : Ipv4Header) (pkt : Packet) : FiveTuple :=
  { source := ipHeader.source
    destination := ipHeader.destination
    protocol := ipHeader.protocol
    ports := if ipHeader.protocol = udpProtNumber then some pkt.udpHeader
      else if ipHeader.protocol = tcpProtNumber then some pkt.tcpHeader else none }

/-- The first `k` bytes of two buffers are the same. -/
def AgreeBelow (k : Nat) (b b' : HashInputBuff) : Prop := ∀ i : Fin 17, i.val < k → b i = b' i

/-- Writing the same bytes where the agreement ends extends it by these bytes. -/
theorem AgreeBelow.memcpy {k : Nat} {b b' : HashInputBuff} (h : AgreeBelow k b b') (bytes : List UInt8) :
    AgreeBelow (k + bytes.length) (memcpy b k bytes) (memcpy b' k bytes) := by
  intro i hi
  show (if k ≤ i.val then (bytes[i.val - k]?).getD (b i) else b i) =
    if k ≤ i.val then (bytes[i.val - k]?).getD (b' i) else b' i
  split
  · have hlt : i.val - k < bytes.length := by omega
    rw [List.getElem?_eq_getElem hlt]; rfl
  · exact h i (by omega)

theorem AgreeBelow.eq {b b' : HashInputBuff} (h : AgreeBelow 17 b b') : b = b' :=
  funext fun i => h i i.isLt

theorem AgreeBelow.writePorts {b b' : HashInputBuff} (h : AgreeBelow 13 b b') (ports : Ports) :
    writePorts b ports = writePorts b' ports :=
  ((h.memcpy (bytes16 ports.sourcePort)).memcpy (bytes16 ports.destinationPort)).eq

theorem AgreeBelow.writeNoPorts {b b' : HashInputBuff} (h : AgreeBelow 13 b b') :
    writeNoPorts b = writeNoPorts b' :=
  ((((h.memcpy [0]).memcpy [0]).memcpy [0]).memcpy [0]).eq

/-- On each of its branches the filling overwrites the whole buffer, with bytes of the node and the
five-tuple only. -/
theorem fillBuff_eq (b b' : HashInputBuff) (hdr : Ipv4Header) {p p' : Packet} (h : fiveTuple hdr p = fiveTuple hdr p')
    (nodeId : Nat) (flag : Bool) : fillBuff b hdr p nodeId flag = fillBuff b' hdr p' nodeId flag := by
  have h0 : AgreeBelow 0 b b' := fun i hi => absurd hi (Nat.not_lt_zero _)
  have h13 := (((h0.memcpy (bytes32 (UInt32.ofNat nodeId))).memcpy (bytes32 hdr.source)).memcpy
    (bytes32 hdr.destination)).memcpy [hdr.protocol]
  have hports := congrArg FiveTuple.ports h
  unfold fiveTuple at hports
  simp only at hports
  unfold fillBuff
  cases flag with
  | true => exact h13.writeNoPorts
  | false =>
    simp only [Bool.false_eq_true, if_false]
    by_cases hudp : hdr.protocol = udpProtNumber
    · rw [if_pos hudp, if_pos hudp] at hports
      rw [if_pos hudp, if_pos hudp, Option.some.inj hports]
      exact h13.writePorts _
    · rw [if_neg hudp, if_neg hudp] at hports
      rw [if_neg hudp, if_neg hudp]
      by_cases htcp : hdr.protocol = tcpProtNumber
      · rw [if_pos htcp, if_pos htcp] at hports
        rw [if_pos htcp, if_pos htcp, Option.some.inj hports]
        exact h13.writePorts _
      · rw [if_neg htcp, if_neg htcp]
        exact h13.writeNoPorts

theorem header_eq {hdr hdr' : Ipv4Header} {p p' : Packet} (h : fiveTuple hdr p = fiveTuple hdr' p') : hdr = hdr' := by
  obtain ⟨s, d, pr⟩ := hdr
  obtain ⟨s', d', pr'⟩ := hdr'
  unfold fiveTuple at h
  simp only [FiveTuple.mk.injEq] at h
  obtain ⟨rfl, rfl, rfl, -⟩ := h
  rfl

/-! ## One decision -/

section Decision

variable {H : Type} {hasher : Hasher H}

theorem computeFiveTupleHash_oblivious (hc : hasher.Lawful) {hdr : Ipv4Header} {p p' : Packet}
    (h : fiveTuple hdr p = fiveTuple hdr p') (nodeId : Nat) (flag : Bool) :
    Call.Oblivious (computeFiveTupleHash hasher hdr p nodeId flag) (computeFiveTupleHash hasher hdr p' nodeId flag) := by
  intro st st'
  have hbuff := fillBuff_eq st.hashInputBuff st'.hashInputBuff hdr h nodeId flag
  show Except.ok (hasher.getHash32 (hasher.clear st.hasher) (List.ofFn (fillBuff st.hashInputBuff hdr p nodeId flag))).1 =
    Except.ok (hasher.getHash32 (hasher.clear st'.hasher) (List.ofFn (fillBuff st'.hashInputBuff hdr p' nodeId flag))).1
  rw [hbuff, hc.clear_eq st.hasher st'.hasher]

theorem resolveNodeIdFromIp_oblivious (m : List (UInt32 × Nat)) (ip : UInt32) :
    Call.Oblivious (resolveNodeIdFromIp m ip) (resolveNodeIdFromIp m ip : Call Fail (Scratch H) Nat) := by
  intro st st'
  unfold resolveNodeIdFromIp
  rw [Call.run_get_bind, Call.run_set_bind, Call.run_get_bind, Call.run_get_bind, Call.run_set_bind, Call.run_get_bind]
  simp only
  cases m.find? (·.1 = ip) <;> rfl

theorem sourceNodeId_oblivious (a : ArbiterEcmp) (hdr : Ipv4Header) :
    Call.Oblivious (a.sourceNodeId hdr) (a.sourceNodeId hdr : Call Fail (Scratch H) Nat) := by
  unfold ArbiterEcmp.sourceNodeId
  split
  · exact Call.oblivious_pure _
  · exact resolveNodeIdFromIp_oblivious _ _

/-- The result of a decision is a function of the five-tuple, whatever the mutable members hold. -/
theorem baseDecide_oblivious (hc : hasher.Lawful) (a : ArbiterEcmp) {hdr hdr' : Ipv4Header} {p p' : Packet}
    (h : fiveTuple hdr p = fiveTuple hdr' p') :
    Call.Oblivious (a.baseDecide hasher p hdr) (a.baseDecide hasher p' hdr') := by
  obtain rfl := header_eq h
  unfold ArbiterEcmp.baseDecide
  apply (sourceNodeId_oblivious a hdr).bind
  intro _
  apply (resolveNodeIdFromIp_oblivious _ _).bind
  intro target
  unfold ArbiterEcmp.decide ArbiterPtop.decide
  apply (Call.oblivious_lift _).bind
  intro _
  refine Call.Oblivious.bind ?_ fun _ => Call.oblivious_lift _
  unfold ArbiterEcmp.topologyPtopDecide
  exact (computeFiveTupleHash_oblivious hc h _ _).bind fun _ => Call.oblivious_lift _

end Decision

/-! ## The network -/

/-- The network as the arbiters see it. `isDestinationAddress` is what the IP layer of a node answers
for the addresses of its interfaces. -/
structure System where
  net : Links
  arbiters : List ArbiterEcmp
  isDestinationAddress : Nat → UInt32 → Bool

inductive Status where
  | onWay
  | delivered
  | dropped
  | failed (why : Fail)
  deriving Repr, DecidableEq

/-- What a node does with a packet it received. -/
inductive Outcome where
  | next (node : Nat)
  | ended (status : Status)
  deriving Repr, DecidableEq

def isMulticast (ip : UInt32) : Bool := ip &&& 0xf0000000 = 0xe0000000

def isLoopback (ip : UInt32) : Bool := ip &&& 0xff000000 = 0x7f000000

section Run

variable {H : Type} (hasher : Hasher H) (sys : System)

/-- `Ipv4ArbiterRouting::LookupArbiter`: the output interface, or none. -/
def lookupArbiter (u : Nat) (pkt : Packet) (hdr : Ipv4Header) : Call Fail (Scratch H) (Option Nat) :=
  if isLoopback hdr.destination then pure (some 0)
  else do
    let a ← Call.lift (index sys.arbiters u)
    let result ← a.baseDecide hasher pkt hdr
    pure (if result.failed then none else some result.outIfIdx)

/-- `Ipv4ArbiterRouting::RouteInput`, and the hop that the packet makes then. -/
def routeInput (u : Nat) (pkt : Packet) (hdr : Ipv4Header) : Call Fail (Scratch H) Outcome := do
  if isMulticast hdr.destination then Call.throw (.runtimeError "Multi-cast not supported.")
  else if sys.isDestinationAddress u hdr.destination then pure (.ended .delivered)
  else do
    match ← lookupArbiter hasher sys u pkt hdr with
    | none => pure (.ended .dropped)
    | some ifIdx => do
      let peer ← Call.lift (sys.net.transmit u ifIdx)
      pure (.next peer.1)

/-- What becomes of a packet; an exception ends its way. -/
def outcome (r : Res Outcome) : Outcome :=
  match r with
  | .ok o => o
  | .error e => .ended (.failed e)

/-- A packet on its way, with the nodes it has visited. -/
structure Traveller where
  pkt : Packet
  hdr : Ipv4Header
  path : List Nat
  status : Status
  deriving Repr, DecidableEq

def Traveller.fiveTuple (p : Traveller) : FiveTuple := Ptop.fiveTuple p.hdr p.pkt

def Traveller.move (p : Traveller) : Outcome → Traveller
  | .next v => { p with path := p.path ++ [v] }
  | .ended s => { p with status := s }

structure Network (H : Type) where
  scratch : Nat → Scratch H
  travellers : List Traveller

/-- A packet comes in at a node, or the node that has packet number `k` decides about it. -/
inductive Event where
  | enter (node : Nat) (pkt : Packet) (hdr : Ipv4Header)
  | decide (k : Nat)

def step (nw : Network H) : Event → Network H
  | .enter u pkt hdr => { nw with travellers := nw.travellers ++ [⟨pkt, hdr, [u], .onWay⟩] }
  | .decide k =>
    match nw.travellers[k]? with
    | none => nw
    | some p =>
      match p.status, p.path.getLast? with
      | .onWay, some u =>
        let (r, st) := (routeInput hasher sys u p.pkt p.hdr).run (nw.scratch u)
        { scratch := Function.update nw.scratch u st
          travellers := nw.travellers.set k (p.move (outcome r)) }
      | _, _ => nw

/-- Packets come in and are decided about in any order, from any state of the arbiters. -/
def run (scratch : Nat → Scratch H) (events : List Event) : Network H :=
  events.foldl (step hasher sys) ⟨scratch, []⟩

end Run

/-! ## Paths -/

section Paths

variable {H : Type} {hasher : Hasher H} {sys : System}

theorem lookupArbiter_oblivious (hc : hasher.Lawful) (u : Nat) {hdr hdr' : Ipv4Header} {p p' : Packet}
    (h : fiveTuple hdr p = fiveTuple hdr' p') :
    Call.Oblivious (lookupArbiter hasher sys u p hdr) (lookupArbiter hasher sys u p' hdr') := by
  obtain rfl := header_eq h
  unfold lookupArbiter
  split
  · exact Call.oblivious_pure _
  · exact (Call.oblivious_lift _).bind fun a => (baseDecide_oblivious hc a h).bind fun _ => Call.oblivious_pure _

/-- What a node does with a packet is a function of the node and the five-tuple. -/
theorem routeInput_oblivious (hc : hasher.Lawful) (u : Nat) {hdr hdr' : Ipv4Header} {p p' : Packet}
    (h : fiveTuple hdr p = fiveTuple hdr' p') :
    Call.Oblivious (routeInput hasher sys u p hdr) (routeInput hasher sys u p' hdr') := by
  have hl : Call.Oblivious (lookupArbiter hasher sys u p hdr) (lookupArbiter hasher sys u p' hdr') :=
    lookupArbiter_oblivious hc u h
  obtain rfl := header_eq h
  unfold routeInput
  split
  · exact Call.oblivious_lift _
  · split
    · exact Call.oblivious_pure _
    · apply hl.bind
      intro ifIdx
      cases ifIdx with
      | none => exact Call.oblivious_pure _
      | some i => exact (Call.oblivious_lift _).bind fun _ => Call.oblivious_pure _

variable (hasher sys)

/-- What node `u` does with the packets of the flow of `p`. -/
def flowOutcome (ref : Scratch H) (p : Traveller) (u : Nat) : Outcome :=
  outcome ((routeInput hasher sys u p.pkt p.hdr).run ref).1

def Outcome.node : Outcome → Option Nat
  | .next v => some v
  | .ended _ => none

/-- The packet went from node to node as its flow does, and has stopped only where its flow ends. -/
structure OnPath (ref : Scratch H) (p : Traveller) : Prop where
  along : Hops.Along (fun u => (flowOutcome hasher sys ref p u).node) p.path
  status : ∃ u, p.path.getLast? = some u ∧ (p.status ≠ .onWay → flowOutcome hasher sys ref p u = .ended p.status)

variable {hasher sys}

theorem OnPath.move {ref : Scratch H} {p : Traveller} (h : OnPath hasher sys ref p) (hs : p.status = .onWay)
    {u : Nat} (hu : p.path.getLast? = some u) : OnPath hasher sys ref (p.move (flowOutcome hasher sys ref p u)) := by
  cases ho : flowOutcome hasher sys ref p u with
  | next v =>
    have hv : (flowOutcome hasher sys ref p u).node = some v := by rw [ho]; rfl
    exact ⟨h.along.concat hu hv, v, by simp [Traveller.move], fun hne => absurd hs hne⟩
  | ended s => exact ⟨h.along, u, hu, fun _ => ho⟩

/-- One event keeps every packet on the path of its flow, whatever the arbiters hold. -/
theorem step_onPath (hc : hasher.Lawful) (ref : Scratch H) {nw : Network H}
    (h : ∀ p ∈ nw.travellers, OnPath hasher sys ref p) (e : Event) :
    ∀ p ∈ (step hasher sys nw e).travellers, OnPath hasher sys ref p := by
  cases e with
  | enter u pkt hdr =>
    intro p hp
    rcases List.mem_append.1 hp with hp | hp
    · exact h p hp
    · rw [List.mem_singleton] at hp
      subst hp
      exact ⟨List.isChain_singleton u, u, rfl, fun hs => absurd rfl hs⟩
  | decide k =>
    intro p hp
    unfold step at hp
    cases hk : nw.travellers[k]? with
    | none => simp only [hk] at hp; exact h p hp
    | some q =>
      have hq := h q (List.mem_of_getElem? hk)
      obtain ⟨u, hu, -⟩ := hq.status
      simp only [hk, hu] at hp
      cases hs : q.status with
      | onWay =>
        simp only [hs] at hp
        rcases List.mem_or_eq_of_mem_set hp with hp | rfl
        · exact h p hp
        · -- The decision is that of the reference state, since nothing of the state enters it.
          have hout : outcome ((routeInput hasher sys u q.pkt q.hdr).run (nw.scratch u)).1 =
              flowOutcome hasher sys ref q u := congrArg outcome (routeInput_oblivious hc u rfl _ _)
          show OnPath hasher sys ref (q.move (outcome _))
          rw [hout]
          exact hq.move hs hu
      | delivered => simp only [hs] at hp; exact h p hp
      | dropped => simp only [hs] at hp; exact h p hp
      | failed why => simp only [hs] at hp; exact h p hp

theorem run_onPath (hc : hasher.Lawful) (ref : Scratch H) (scratch : Nat → Scratch H) (events : List Event) :
    ∀ p ∈ (run hasher sys scratch events).travellers, OnPath hasher sys ref p := by
  unfold run
  induction events using List.reverseRecOn with
  | nil => intro p hp; cases hp
  | append_singleton events e ih =>
    rw [List.foldl_concat]
    exact step_onPath hc ref ih e

/-- The decision for a packet is that of any other packet of its five-tuple, whatever either arbiter has
decided before; and two packets of one five-tuple that start at one node, in two runs of the network with
any traffic in any order, go the same way: one path is the beginning of the other, and when both have
ended they are equal and ended alike. -/
theorem flow_affinity (hc : hasher.Lawful) :
    (∀ (a : ArbiterEcmp) (st st' : Scratch H) (history history' : List (Packet × Ipv4Header))
      (p p' : Packet) (hdr hdr' : Ipv4Header), fiveTuple hdr p = fiveTuple hdr' p' →
      ((a.baseDecide hasher p hdr).run (a.after hasher st history)).1 =
        ((a.baseDecide hasher p' hdr').run (a.after hasher st' history')).1) ∧
    ∀ (scratch scratch' : Nat → Scratch H) (events events' : List Event),
      ∀ p ∈ (run hasher sys scratch events).travellers, ∀ p' ∈ (run hasher sys scratch' events').travellers,
        p.fiveTuple = p'.fiveTuple → p.path.head? = p'.path.head? →
        (p.path <+: p'.path ∨ p'.path <+: p.path) ∧
        (p.status ≠ .onWay → p'.status ≠ .onWay → p.path = p'.path ∧ p.status = p'.status) := by
  refine ⟨fun a st st' history history' p p' hdr hdr' h => baseDecide_oblivious hc a h _ _, ?_⟩
  intro scratch scratch' events events' p hp p' hp' ht hhead
  have h := run_onPath hc (scratch 0) scratch events p hp
  have h' := run_onPath hc (scratch 0) scratch' events' p' hp'
  have hflow : flowOutcome hasher sys (scratch 0) p' = flowOutcome hasher sys (scratch 0) p :=
    funext fun u => congrArg outcome (routeInput_oblivious hc u ht.symm _ _)
  have halong := h'.along
  rw [hflow] at halong
  refine ⟨h.along.prefix_or_prefix halong hhead, fun hs hs' => ?_⟩
  obtain ⟨u, hu, hend⟩ := h.status
  obtain ⟨u', hu', hend'⟩ := h'.status
  have heu := hend hs
  have heu' := hend' hs'
  rw [hflow] at heu'
  have heq : p.path = p'.path := h.along.eq_of_ended halong hhead hu (by rw [heu]; rfl) hu' (by rw [heu']; rfl)
  rw [heq, hu'] at hu
  cases hu
  rw [heu'] at heu
  exact ⟨heq, (Outcome.ended.inj heu).symm⟩

/-- The system of two parts. -/
def twoPairsSystem : System :=
  { net := twoPairsLinks
    arbiters := twoPairsArbiters
    isDestinationAddress := fun u ip => ip ∈ (twoPairsAddresses[u]?).getD [] }

theorem flow_affinity_twoPairs :
    (∀ (a : ArbiterEcmp) (st st' : Scratch (UInt32 × UInt32)) (history history' : List (Packet × Ipv4Header))
      (p p' : Packet) (hdr hdr' : Ipv4Header), fiveTuple hdr p = fiveTuple hdr' p' →
      ((a.baseDecide murmur3 p hdr).run (a.after murmur3 st history)).1 =
        ((a.baseDecide murmur3 p' hdr').run (a.after murmur3 st' history')).1) ∧
    ∀ (scratch scratch' : Nat → Scratch (UInt32 × UInt32)) (events events' : List Event),
      ∀ p ∈ (run murmur3 twoPairsSystem scratch events).travellers,
        ∀ p' ∈ (run murmur3 twoPairsSystem scratch' events').travellers,
        p.fiveTuple = p'.fiveTuple → p.path.head? = p'.path.head? →
        (p.path <+: p'.path ∨ p'.path <+: p.path) ∧
        (p.status ≠ .onWay → p'.status ≠ .onWay → p.path = p'.path ∧ p.status = p'.status) :=
  flow_affinity murmur3_lawful

end Paths

/-- Two packets of a flow between the nodes of a link, with one of another flow between them. -/
example : (run murmur3 twoPairsSystem (fun _ => scratch₀)
    [.enter 0 ⟨⟨1, 2⟩, ⟨0, 0⟩⟩ (udpHeader 0x0a000001 0x0a000002), .decide 0,
     .enter 0 ⟨⟨3, 4⟩, ⟨0, 0⟩⟩ (udpHeader 0x0a000001 0x0a000002), .decide 1, .decide 0,
     .enter 0 ⟨⟨1, 2⟩, ⟨9, 9⟩⟩ (udpHeader 0x0a000001 0x0a000002), .decide 2, .decide 2]).travellers.map
      (fun p => (p.path, p.status)) =
    [([0, 1], .delivered), ([0, 1], .onWay), ([0, 1], .delivered)] := by
  decide +kernel

end SatNet.Ptop
