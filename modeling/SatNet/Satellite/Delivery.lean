/-
One hop in the satellite network: the gateway that the arbiter decides, the ARP cache that all interfaces
share, and the channel of the device. The tables are built separately from the same numbering of the
devices, so a packet arrives at exactly the interface that the forwarding line names.
-/
import SatNet.Satellite.SingleForward

namespace SatNet.Satellite

open SatNet.Loop SatNet.Device

variable {M : Type}

/-! ## The ARP cache -/

/-- The one cache, newest entry first, and the interfaces that were told to use it. -/
structure ArpCache (M : Type) where
  entries : List (Nat × M)
  users : List End
  deriving Repr, DecidableEq

variable (addr : Addresses M) (net : Network M)

/-- The body of the inner loop of `PopulateArpCaches`. -/
def populateInterface (i j : Nat) (arpAll : ArpCache M) : Res (ArpCache M) := do
  let (e, _) ← Node.netDevice net.nodes i j
  let ipv4Address ← localAddress addr net i j
  if (arpAll.entries.lookup ipv4Address).isSome then .error (.assertion "m_arpCache.find (to) == m_arpCache.end ()")
  else .ok ⟨(ipv4Address, addr.mac e) :: arpAll.entries, arpAll.users ++ [(i, j)]⟩

/-- `PopulateArpCaches`: all interfaces but the loopbacks, whose index is 0. -/
def populateArpCaches : Res (ArpCache M) :=
  forRange net.nodes.length (fun i arpAll => do
    let n ← Node.nInterfaces net.nodes i
    forRange (n - 1) (fun j => populateInterface addr net i (j + 1)) arpAll) ⟨[], []⟩

section Populate

variable {addr net}

/-- The cache before interface `j + 1` of node `i` is added: it holds the interfaces up to there, under
their own addresses. -/
structure Populated (addr : Addresses M) (net : Network M) (i j : Nat) (arp : ArpCache M) : Prop where
  users : ∀ e ∈ arp.users, e.2 ≠ 0 ∧ (e.1 < i ∨ e.1 = i ∧ e.2 ≤ j)
  entries : ∀ p ∈ arp.entries, ∃ e ∈ arp.users, p.1 = addr.ip e
  resolved : ∀ (e : End) (d : NetDevice), Node.deviceAt net.nodes e = some d → e.2 ≠ 0 →
    e.1 < i ∨ e.1 = i ∧ e.2 ≤ j → e ∈ arp.users ∧ arp.entries.lookup (addr.ip e) = some (addr.mac e)

/-- An address that no interface in the cache has is not in it. -/
theorem Populated.lookup_none {i j : Nat} {arp : ArpCache M} (h : Populated addr net i j arp) {e : End} (he : e.2 ≠ 0)
    (hnew : e ∉ arp.users) : arp.entries.lookup (addr.ip e) = none := by
  cases hl : arp.entries.lookup (addr.ip e) with
  | none => rfl
  | some mac =>
    obtain ⟨l₁, l₂, hsplit, -⟩ := List.lookup_eq_some_iff.1 hl
    obtain ⟨e', hu, hip⟩ := h.entries (addr.ip e, mac) (by rw [hsplit]; simp)
    have hsame : e = e' := addr.ip_inj e e' he (h.users e' hu).1 hip
    exact absurd (hsame ▸ hu) hnew

theorem populateInterface_ok (hn : Node.Numbered .loopback [] net.nodes) {i j : Nat} {arp : ArpCache M}
    (h : Populated addr net i j arp) {d : NetDevice} (hd : Node.deviceAt net.nodes (i, j + 1) = some d) :
    ∃ arp', populateInterface addr net i (j + 1) arp = .ok arp' ∧ Populated addr net i (j + 1) arp' := by
  have hnew : (i, j + 1) ∉ arp.users := by
    intro hm
    obtain ⟨-, hlt | ⟨-, hle⟩⟩ := h.users _ hm
    · exact Nat.lt_irrefl _ hlt
    · exact absurd hle (by simp)
  have hdev := hn.netDevice_iff.2 ⟨rfl, hd⟩
  have hnone := h.lookup_none (Nat.succ_ne_zero j) hnew
  refine ⟨⟨(addr.ip (i, j + 1), addr.mac (i, j + 1)) :: arp.entries, arp.users ++ [(i, j + 1)]⟩, ?_, ?_, ?_, ?_⟩
  · unfold populateInterface localAddress
    simp only [hdev, ok_bind]
    rw [hnone]
    rfl
  · intro e he
    rcases List.mem_append.1 he with he | he
    · obtain ⟨h0, hlt | ⟨hi, hle⟩⟩ := h.users e he
      · exact ⟨h0, .inl hlt⟩
      · exact ⟨h0, .inr ⟨hi, by omega⟩⟩
    · rw [List.mem_singleton.1 he]
      exact ⟨Nat.succ_ne_zero j, .inr ⟨rfl, Nat.le_refl _⟩⟩
  · intro p hp
    rcases List.mem_cons.1 hp with rfl | hp
    · exact ⟨(i, j + 1), by simp, rfl⟩
    · obtain ⟨e, he, hip⟩ := h.entries p hp
      exact ⟨e, List.mem_append_left _ he, hip⟩
  · intro e d' hd' h0 hle
    by_cases he : e = (i, j + 1)
    · subst he
      exact ⟨by simp, List.lookup_cons_self⟩
    · have hle' : e.1 < i ∨ e.1 = i ∧ e.2 ≤ j := by
        rcases hle with hlt | ⟨hi, hle⟩
        · exact .inl hlt
        · right
          refine ⟨hi, ?_⟩
          by_contra hgt
          exact he (Prod.ext hi (by show e.2 = j + 1; omega))
      obtain ⟨hu, hl⟩ := h.resolved e d' hd' h0 hle'
      have hip : addr.ip e ≠ addr.ip (i, j + 1) := fun hip => he (addr.ip_inj e _ h0 (Nat.succ_ne_zero j) hip)
      exact ⟨List.mem_append_left _ hu, by rw [List.lookup_cons, beq_false_of_ne hip]; exact hl⟩

/-- Every interface but the loopbacks uses the cache, which maps its address to that of its own device. -/
theorem populateArpCaches_ok (hn : Node.Numbered .loopback [] net.nodes) :
    ∃ arp, populateArpCaches addr net = .ok arp ∧
      ∀ (e : End) (d : NetDevice), Node.deviceAt net.nodes e = some d → e.2 ≠ 0 →
        e ∈ arp.users ∧ arp.entries.lookup (addr.ip e) = some (addr.mac e) := by
  obtain ⟨arp, hrun, h⟩ := forRange_inv (fun i arp => Populated addr net i 0 arp) (fun i arpAll => do
      let n ← Node.nInterfaces net.nodes i
      forRange (n - 1) (fun j => populateInterface addr net i (j + 1)) arpAll) net.nodes.length ⟨[], []⟩
    ⟨nofun, nofun, fun e d _ h0 hle => by omega⟩ fun i hi arp h => by
      have hnode := List.getElem?_eq_getElem hi
      generalize net.nodes[i] = nd at hnode
      have hcount : Node.nInterfaces net.nodes i = .ok nd.interfaces.length := by
        unfold Node.nInterfaces
        rw [index_ok.2 hnode, ok_bind]
      obtain ⟨arp', hrun, h'⟩ := forRange_inv (fun j arp => Populated addr net i j arp)
        (fun j => populateInterface addr net i (j + 1)) (nd.interfaces.length - 1) arp h fun j hj arp h => by
          obtain ⟨d, hd⟩ := (hn.lt_nInterfaces hcount).1 (show j + 1 < nd.interfaces.length by omega)
          exact populateInterface_ok hn h hd
      refine ⟨arp', by rw [hcount, ok_bind]; exact hrun, fun e he => ?_, h'.entries, fun e d hd h0 hle => ?_⟩
      · obtain ⟨h0, hlt⟩ := h'.users e he
        exact ⟨h0, .inl (by omega)⟩
      · refine h'.resolved e d hd h0 ?_
        rcases hle with hlt | ⟨-, hle⟩
        · by_cases hei : e.1 = i
          · have hlt := (hn.lt_nInterfaces (i := e.2) hcount).2 ⟨d, by rw [← hei]; exact hd⟩
            exact .inr ⟨hei, by omega⟩
          · exact .inl (by omega)
        · omega
  refine ⟨arp, hrun, fun e d hd h0 => h.resolved e d hd h0 (.inl ?_)⟩
  obtain ⟨nd, hnd, -⟩ := Node.deviceAt_some hd
  exact (List.getElem?_eq_some_iff.1 hnd).1

end Populate

/-! ## A hop -/

/-- What becomes of a packet: there is no route, it waits for an answer to an ARP request, or its reception
is scheduled at one device. -/
inductive Outcome where
  | noRoute
  | arpRequest
  | reception (device : End)
  deriving Repr, DecidableEq

/-- The nodes are created without a system id. -/
def systemId (_ : Nat) : Nat := 0

variable [DecidableEq M]

/-- A packet from node `u` to the target `v`: the decision, the ARP cache if the device needs it, and the
channel. -/
def send (arpAll : ArpCache M) (nextHopList : List Entry) (u v : Nat) : Res Outcome := do
  let result ← ArbiterSatnet.decide addr net nextHopList v
  if result.failed then .ok .noRoute
  else do
    let (e, device) ← Node.netDevice net.nodes u result.outIfIdx
    match device with
    | .loopback => .ok (.reception e)
    | .gsl =>
      if arpAll.users.contains (u, result.outIfIdx) then
        match arpAll.entries.lookup result.gatewayIpAddress with
        | some mac => do
          let d ← net.gslChannel.transmitStart (fun d => systemId e.1 == systemId d.1) mac
          .ok (.reception d)
        | none => .ok .arpRequest
      else .ok .arpRequest
    | .laser channel => do
      let ch ← index net.lasers channel
      let d ← ch.transmitStart e
      .ok (.reception d)

/-! ## Delivery -/

section Delivery

variable {addr net} {n : Nat} {isls : List (Nat × Nat)} {arp : ArpCache M}

/-- Over the channel of all GSL devices, to the one that owns the resolved address. -/
theorem send_gsl (hb : Built addr n isls [] net)
    (harp : ∀ (e : End) (d : NetDevice), Node.deviceAt net.nodes e = some d → e.2 ≠ 0 →
      e ∈ arp.users ∧ arp.entries.lookup (addr.ip e) = some (addr.mac e))
    {nextHopList : List Entry} {u v i : Nat} {e : End}
    (hdecide : ArbiterSatnet.decide addr net nextHopList v = .ok ⟨false, i, addr.ip e⟩)
    (hown : Node.netDevice net.nodes u i = .ok ((u, i), .gsl)) (hother : Node.deviceAt net.nodes e = some .gsl) :
    send addr net arp nextHopList u v = .ok (.reception e) := by
  have hat := (hb.numbered.netDevice_iff.1 hown).2
  have huser : arp.users.contains (u, i) = true := List.contains_iff_mem.2 (harp _ _ hat (hb.pos hat nofun)).1
  have hmac := (harp e _ hother (hb.pos hother nofun)).2
  have hch : net.gslChannel.transmitStart (fun d => systemId u == systemId d.1) (addr.mac e) = .ok e := by
    unfold GSLChannel.transmitStart
    rw [hb.gsl e hother]
    rfl
  unfold send
  rw [hdecide, ok_bind]
  simp only [Bool.false_eq_true, if_false]
  rw [hown, ok_bind]
  simp only [huser, if_true, hmac, hch, ok_bind]

/-- Over the channel of an ISL between two satellites, to the end that is not on this one. -/
theorem send_laser {nextHopList : List Entry} {u v i k gateway : Nat} {d₀ d₁ : End}
    (hk : net.lasers[k]? = some ⟨[d₀, d₁]⟩) (hsat : d₀.1 ≠ d₁.1) (hmem : (u, i) = d₀ ∨ (u, i) = d₁)
    (hdecide : ArbiterSatnet.decide addr net nextHopList v = .ok ⟨false, i, gateway⟩)
    (hown : Node.netDevice net.nodes u i = .ok ((u, i), .laser k)) :
    send addr net arp nextHopList u v = .ok (.reception (if d₀.1 = u then d₁ else d₀)) := by
  have hiff : (u, i) = d₀ ↔ d₀.1 = u := by
    constructor
    · rintro rfl
      rfl
    · rintro rfl
      exact hmem.resolve_right fun he => hsat (by rw [← he])
  have hch : PointToPointLaserChannel.transmitStart ⟨[d₀, d₁]⟩ (u, i) = .ok (if d₀.1 = u then d₁ else d₀) := by
    unfold PointToPointLaserChannel.transmitStart
    simp only [hiff]
  unfold send
  rw [hdecide, ok_bind]
  simp only [Bool.false_eq_true, if_false]
  rw [hown, ok_bind]
  simp only [index_ok.2 hk, ok_bind, hch]

/-- What an accepted line that is not a drop makes of a packet: the reception at the interface of the next node that it
names, unless its laser link joins a satellite to itself. -/
theorem send_checked (hb : Built addr n isls [] net)
    (harp : ∀ (e : End) (d : NetDevice), Node.deviceAt net.nodes e = some d → e.2 ≠ 0 →
      e ∈ arp.users ∧ arp.entries.lookup (addr.ip e) = some (addr.mac e))
    {l : Line} (hc : checkLine net l = .ok ()) (hset : l.nextHopNodeId ≠ -1) {nextHopList : List Entry}
    (hentry : nextHopList[l.targetNodeId]? = some l.entry)
    (hsat : ∀ (k : Nat) (d₀ d₁ : End), net.lasers[k]? = some ⟨[d₀, d₁]⟩ →
      (l.currentNodeId = d₀.1 ∨ l.currentNodeId = d₁.1) →
      l.nextHopNodeId = (if d₀.1 = l.currentNodeId then d₁ else d₀).1 → d₀.1 ≠ d₁.1) :
    ∃ (next j : Nat) (d : NetDevice), l.nextHopNodeId = next ∧ l.nextIfId = j ∧
      Node.netDevice net.nodes next (j + 1) = .ok ((next, j + 1), d) ∧
      send addr net arp nextHopList l.currentNodeId l.targetNodeId = .ok (.reception (next, j + 1)) := by
  obtain ⟨-, -, hdrop | ⟨next, i, j, hnext, hi, hj, -, hdevices⟩⟩ := checkLine_ok hc
  · exact absurd (congrArg Prod.fst hdrop) hset
  have hdecide : ArbiterSatnet.decide addr net nextHopList l.targetNodeId =
      .ok ⟨false, i + 1, addr.ip (next, j + 1)⟩ := by
    rcases decide_line hb hc hentry with ⟨hdrop, -⟩ | ⟨next', i', j', d, d', he, hdec, -⟩
    · exact absurd (congrArg Prod.fst hdrop) hset
    · rw [entry_eq hnext hi hj] at he
      simp only [Prod.mk.injEq, Nat.cast_inj] at he
      obtain ⟨rfl, rfl, rfl⟩ := he
      exact hdec
  rcases checkDevices_ok hb hnext hi hj hdevices with ⟨hown, hother⟩ | ⟨k, d₀, d₁, hk, -, hown, hother, hmem, hpeer⟩
  · exact ⟨next, j, .gsl, hnext, hj, hother, send_gsl hb harp hdecide hown (hb.numbered.netDevice_iff.1 hother).2⟩
  · have hne : d₀.1 ≠ d₁.1 := by
      refine hsat k d₀ d₁ hk (hmem.imp (congrArg Prod.fst) (congrArg Prod.fst)) ?_
      rw [← hpeer]
      exact hnext
    refine ⟨next, j, .laser k, hnext, hj, hother, ?_⟩
    rw [hpeer]
    exact send_laser hk hne hmem hdecide hown

variable {numSatellites numGroundStations : Nat} {nodeGslIfInfo : List Nat} {sim : BasicSimulation}
  {written : List Str} {state : ForwardingState}

/-- In every satellite network whose ISLs join different satellites, after any sequence of accepted files:
the ARP caches can be populated, and a packet to a target whose last line is not a drop is received at
exactly the device behind the interface of the next node that the line names. -/
theorem send_line (hbuild : build addr numSatellites numGroundStations isls nodeGslIfInfo = .ok net)
    (hisls : ∀ isl ∈ isls, isl.1 ≠ isl.2) (h : Loaded sim net written state) :
    ∃ arp, populateArpCaches addr net = .ok arp ∧
      ∀ (u v : Nat) (l : Line), lastLine written u v = some l → l.nextHopNodeId ≠ -1 →
        ∃ (nextHopList : List Entry) (next j : Nat) (d : NetDevice), state[u]? = some nextHopList ∧
          l.nextHopNodeId = next ∧ l.nextIfId = j ∧
          Node.netDevice net.nodes next (j + 1) = .ok ((next, j + 1), d) ∧
          send addr net arp nextHopList u v = .ok (.reception (next, j + 1)) := by
  have hb := build_built hbuild
  obtain ⟨arp, hrun, harp⟩ := @populateArpCaches_ok _ addr net hb.numbered
  refine ⟨arp, hrun, fun u v l hl hset => ?_⟩
  obtain ⟨rfl, rfl, hc, nextHopList, hrow, hentry⟩ := h.holds.last hl
  obtain ⟨next, j, d, hnext, hj, hother, hsend⟩ := send_checked hb harp hc hset hentry fun k d₀ d₁ hk _ _ => by
    obtain ⟨e₀, e₁, hatt, -, hisl⟩ := hb.ends k _ hk
    simp only [List.cons.injEq, and_true] at hatt
    rw [hatt.1, hatt.2]
    exact hisls _ (List.mem_of_getElem? hisl)
  exact ⟨nextHopList, next, j, d, hrow, hnext, hj, hother, hsend⟩

end Delivery

theorem send_line_twoSatellites : ∃ arp, populateArpCaches pairAddresses twoSatellites = .ok arp ∧
    ∀ (u v : Nat) (l : Line), lastLine twoSatellitesLines u v = some l → l.nextHopNodeId ≠ -1 →
      ∃ (nextHopList : List Entry) (next j : Nat) (d : NetDevice), twoSatellitesState[u]? = some nextHopList ∧
        l.nextHopNodeId = next ∧ l.nextIfId = j ∧
        Node.netDevice twoSatellites.nodes next (j + 1) = .ok ((next, j + 1), d) ∧
        send pairAddresses twoSatellites arp nextHopList u v = .ok (.reception (next, j + 1)) :=
  send_line build_twoSatellites (by decide) loaded_twoSatellites

end SatNet.Satellite
