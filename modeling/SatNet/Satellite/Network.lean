/-
The satellite network that `topology-satellite-network.cc` builds from the contents of its files: every
ISL puts a laser device on both of its satellites and joins the two by a channel of their own; every node
gets its GSL devices, all on one channel. Whatever the mix of ISLs and GSL interfaces, interface `i` of a
node is its device `i`, and each channel knows exactly the devices that were attached to it.
-/
import SatNet.Base.Memory
import SatNet.Base.Node
import SatNet.Device.Channel
import Mathlib.Data.Nat.Pairing

namespace SatNet.Satellite

open SatNet.Loop SatNet.Device

/-! ## The data -/

inductive NetDevice where
  | loopback
  | gsl
  | laser (channel : Nat)
  deriving Repr, DecidableEq

/-- The addresses of the devices and of the interfaces on them. Only the loopback devices, which have
index 0, share theirs. -/
structure Addresses (M : Type) where
  mac : End → M
  ip : End → Nat
  mac_inj : ∀ e e', e.2 ≠ 0 → e'.2 ≠ 0 → mac e = mac e' → e = e'
  ip_inj : ∀ e e', e.2 ≠ 0 → e'.2 ≠ 0 → ip e = ip e' → e = e'

structure Network (M : Type) where
  nodes : List (Node NetDevice)
  lasers : List (PointToPointLaserChannel End)
  gslChannel : GSLChannel M End
  deriving Repr, DecidableEq

variable {M : Type}

/-! ## Inter-satellite links -/

/-- `PointToPointLaserHelper::Install`. -/
def installLaser (net : Network M) (a b : Nat) : Res (Network M × End × End) := do
  let (nodes, devA) ← Node.addDevice net.nodes a (.laser net.lasers.length)
  let (nodes, devB) ← Node.addDevice nodes b (.laser net.lasers.length)
  let channel ← PointToPointLaserChannel.empty.attach devA
  let channel ← channel.attach devB
  .ok ({ net with nodes := nodes, lasers := net.lasers ++ [channel] }, devA, devB)

/-- `m_satellites.at(id)`. -/
def satelliteAt (numSatellites id : Nat) : Res Unit :=
  if id < numSatellites then .ok () else .error (.outOfRange "vector::_M_range_check")

/-- One round of the loop of `ReadISLs`, after its line is read. -/
def readISL (numSatellites : Nat) (net : Network M) (isl : Nat × Nat) : Res (Network M) := do
  satelliteAt numSatellites isl.1
  satelliteAt numSatellites isl.2
  let (net, devA, devB) ← installLaser net isl.1 isl.2
  let nodes ← Node.assign net.nodes [devA, devB]
  .ok { net with nodes := nodes }

/-! ## Ground-to-satellite links -/

variable (addr : Addresses M)

/-- `GSLHelper::Install` for one device, which is collected. -/
def installGSL (node : Nat) (s : Network M × List End) : Res (Network M × List End) := do
  let (nodes, dev) ← Node.addDevice s.1.nodes node .gsl
  .ok ({ s.1 with nodes := nodes, gslChannel := s.1.gslChannel.attach (addr.mac dev) dev }, s.2 ++ [dev])

/-- `GSLHelper::Install`: the devices of the satellites, then those of the ground stations. -/
def installGSLs (numSatellites numGroundStations : Nat) (nodeGslIfInfo : List Nat) (net : Network M) :
    Res (Network M × List End) := do
  let s ← forRange numSatellites (fun sid s => do
    let numIfs ← index nodeGslIfInfo sid
    forRange numIfs (fun _ => installGSL addr sid) s) (net, [])
  forRange numGroundStations (fun gid s => do
    let numIfs ← index nodeGslIfInfo (numSatellites + gid)
    forRange numIfs (fun _ => installGSL addr (numSatellites + gid)) s) s

/-- `CreateGSLs`, after its file is read: the number of interfaces of each node. The two numbers that
are compared at the end are of 32 bits. -/
def createGSLs (numSatellites numGroundStations : Nat) (nodeGslIfInfo : List Nat) (net : Network M) :
    Res (Network M) := do
  let (net, devices) ← installGSLs addr numSatellites numGroundStations nodeGslIfInfo net
  let nodes ← Node.assign net.nodes devices
  if toUInt32 nodeGslIfInfo.sum ≠ toUInt32 devices.length then
    .error (.abort "Not the expected amount of interfaces has been created.")
  else .ok { net with nodes := nodes }

/-- The nodes with their Internet stacks. -/
def installInternetStacks (numNodes : Nat) : Network M :=
  ⟨List.replicate numNodes ⟨[.loopback], [0]⟩, [], GSLChannel.empty⟩

/-- `Build`. -/
def build (numSatellites numGroundStations : Nat) (isls : List (Nat × Nat)) (nodeGslIfInfo : List Nat) :
    Res (Network M) := do
  let net ← forEach (readISL numSatellites) isls (installInternetStacks (numSatellites + numGroundStations))
  createGSLs addr numSatellites numGroundStations nodeGslIfInfo net

/-! ## What is built -/

/-- The network after the ISLs `done`, when addresses are still to be assigned to the devices `pending`. -/
structure Built [DecidableEq M] (addr : Addresses M) (n : Nat) (done : List (Nat × Nat)) (pending : List End) (net : Network M) :
    Prop where
  length : net.nodes.length = n
  numbered : Node.Numbered .loopback pending net.nodes
  links : net.lasers.length = done.length
  ends : ∀ (k : Nat) (ch : PointToPointLaserChannel End), net.lasers[k]? = some ch →
    ∃ e₀ e₁ : End, ch.attached = [e₀, e₁] ∧ e₀ ≠ e₁ ∧ done[k]? = some (e₀.1, e₁.1)
  laser : ∀ (e : End) (k : Nat), Node.deviceAt net.nodes e = some (.laser k) ↔
    ∃ ch, net.lasers[k]? = some ch ∧ e ∈ ch.attached
  gsl : ∀ e : End, Node.deviceAt net.nodes e = some .gsl → net.gslChannel.link.lookup (addr.mac e) = some e

section Built

variable [DecidableEq M] {addr} {n : Nat} {done : List (Nat × Nat)} {pending : List End} {net net' : Network M}

theorem built_init (n : Nat) : Built addr n [] [] (installInternetStacks n) := by
  refine ⟨List.length_replicate, Node.numbered_init _ _, rfl, nofun, fun e k => ?_, fun e he => ?_⟩
  · constructor
    · intro he
      cases (Node.deviceAt_init he).1
    · rintro ⟨ch, hch, -⟩
      cases hch
  · cases (Node.deviceAt_init he).1

/-- A device other than the loopback does not have its index. -/
theorem Built.pos (h : Built addr n done pending net) {e : End} {d : NetDevice}
    (he : Node.deviceAt net.nodes e = some d) (hd : d ≠ .loopback) : e.2 ≠ 0 := by
  obtain ⟨u, i⟩ := e
  rintro rfl
  rw [h.numbered.deviceAt_zero he] at he
  exact hd (Option.some.inj he).symm

/-- A device is on one channel only. -/
theorem Built.channel_unique (h : Built addr n done pending net) {e : End} {k : Nat}
    {ch ch' : PointToPointLaserChannel End} (hk : net.lasers[k]? = some ch) (he : e ∈ ch.attached)
    (hm : ch' ∈ net.lasers) (he' : e ∈ ch'.attached) : ch' = ch := by
  obtain ⟨k', hk'⟩ := List.getElem?_of_mem hm
  have hdev := (h.laser e k).2 ⟨ch, hk, he⟩
  rw [(h.laser e k').2 ⟨ch', hk', he'⟩] at hdev
  cases hdev
  exact Option.some.inj (hk'.symm.trans hk)

/-- One more ISL. -/
theorem readISL_built {numSatellites : Nat} {isl : Nat × Nat} (h : Built addr n done [] net)
    (hrun : readISL numSatellites net isl = .ok net') : Built addr n (done ++ [isl]) [] net' := by
  obtain ⟨-, -, hrun⟩ := bind_ok hrun
  obtain ⟨-, -, hrun⟩ := bind_ok hrun
  obtain ⟨⟨net₂, e₀, e₁⟩, hinst, hrun⟩ := bind_ok hrun
  obtain ⟨nodes', hassign, hrun⟩ := bind_ok hrun
  obtain ⟨⟨nodes₁, e₀'⟩, hadd₀, hinst⟩ := bind_ok hinst
  obtain ⟨⟨nodes₂, e₁'⟩, hadd₁, hinst⟩ := bind_ok hinst
  cases hinst
  cases hrun
  obtain ⟨hu₀, hu₁, hj⟩ := Node.joined h.numbered hadd₀ hadd₁ hassign
  refine ⟨?_, ?_, ?_, fun k ch hk => ?_, fun e k => ?_, fun e he => ?_⟩
  · exact hj.length.trans h.length
  · exact hj.numbered
  · simp [h.links]
  · have hk' : (net.lasers ++ [⟨[e₀, e₁]⟩])[k]? = some ch := hk
    rcases getElem?_concat_iff.1 hk' with hk' | ⟨rfl, rfl⟩
    · obtain ⟨d₀, d₁, hch, hd, hdone⟩ := h.ends k ch hk'
      exact ⟨d₀, d₁, hch, hd, getElem?_concat_iff.2 (.inl hdone)⟩
    · exact ⟨e₀, e₁, rfl, hj.ne, getElem?_concat_iff.2 (.inr ⟨h.links, by rw [hu₀, hu₁]⟩)⟩
  · show Node.deviceAt nodes' e = some (.laser k) ↔ ∃ ch, (net.lasers ++ [⟨[e₀, e₁]⟩])[k]? = some ch ∧ e ∈ ch.attached
    rw [hj.device]
    constructor
    · intro he
      split at he
      · rename_i hnew
        cases he
        exact ⟨⟨[e₀, e₁]⟩, List.getElem?_concat_length, by simpa [or_comm] using hnew⟩
      · obtain ⟨ch, hk, hm⟩ := (h.laser e k).1 he
        exact ⟨ch, getElem?_concat_iff.2 (.inl hk), hm⟩
    · rintro ⟨ch, hk, hm⟩
      rcases getElem?_concat_iff.1 hk with hk | ⟨rfl, rfl⟩
      · have he := (h.laser e k).2 ⟨ch, hk, hm⟩
        rw [if_neg (hj.old e _ he), he]
      · rw [if_pos (by simpa [or_comm] using hm)]
  · have he' : Node.deviceAt nodes' e = some .gsl := he
    rw [hj.device] at he'
    split at he'
    · cases he'
    · exact h.gsl e he'

/-- One more GSL device. -/
theorem installGSL_built {node : Nat} {s s' : Network M × List End} (h : Built addr n done s.2 s.1)
    (hrun : installGSL addr node s = .ok s') : Built addr n done s'.2 s'.1 := by
  obtain ⟨⟨nodes, e⟩, hadd, hrun⟩ := bind_ok hrun
  cases hrun
  obtain ⟨-, ha⟩ := Node.addDevice_ok .loopback hadd
  obtain ⟨hnum, hpos⟩ := ha.numbered _ h.numbered
  refine ⟨ha.length.trans h.length, hnum, h.links, h.ends, fun e' k => ?_, fun e' he => ?_⟩
  · rw [← h.laser e' k, ha.device]
    split
    · rename_i hee
      subst hee
      simp [ha.fresh]
    · rfl
  · show ((addr.mac e, e) :: s.1.gslChannel.link).lookup (addr.mac e') = some e'
    have he' : Node.deviceAt nodes e' = some .gsl := he
    rw [ha.device] at he'
    split at he'
    · rename_i hee
      subst hee
      exact List.lookup_cons_self
    · rename_i hee
      have hmac : addr.mac e' ≠ addr.mac e := fun hm =>
        hee (addr.mac_inj e' e (h.pos he' nofun) (Nat.pos_iff_ne_zero.1 hpos) hm)
      rw [List.lookup_cons, beq_false_of_ne hmac]
      exact h.gsl e' he'

theorem installGSLs_built {numSatellites numGroundStations : Nat} {nodeGslIfInfo : List Nat}
    {s : Network M × List End} (h : Built addr n done [] net)
    (hrun : installGSLs addr numSatellites numGroundStations nodeGslIfInfo net = .ok s) :
    Built addr n done s.2 s.1 := by
  obtain ⟨s₁, hrun₁, hrun₂⟩ := bind_ok hrun
  -- the devices of one node
  have hnode : ∀ (node numIfs : Nat) (s s' : Network M × List End), Built addr n done s.2 s.1 →
      forRange numIfs (fun _ => installGSL addr node) s = .ok s' → Built addr n done s'.2 s'.1 :=
    fun node numIfs s s' => forRange_pre _ (fun s => Built addr n done s.2 s.1)
      (fun _ _ _ hs hr => installGSL_built hs hr) numIfs s s'
  have hloop : ∀ (m : Nat) (node : Nat → Nat) (s s' : Network M × List End), Built addr n done s.2 s.1 →
      forRange m (fun i s => do
        let numIfs ← index nodeGslIfInfo (node i)
        forRange numIfs (fun _ => installGSL addr (node i)) s) s = .ok s' → Built addr n done s'.2 s'.1 := by
    intro m node s s'
    refine forRange_pre _ (fun s => Built addr n done s.2 s.1) (fun i s s' hs hr => ?_) m s s'
    obtain ⟨numIfs, -, hr⟩ := bind_ok hr
    exact hnode (node i) numIfs s s' hs hr
  exact hloop _ (fun gid => numSatellites + gid) s₁ s (hloop _ id (net, []) s₁ h hrun₁) hrun₂

/-- The network that `Build` leaves. -/
theorem build_built {numSatellites numGroundStations : Nat} {isls : List (Nat × Nat)} {nodeGslIfInfo : List Nat}
    (hrun : build addr numSatellites numGroundStations isls nodeGslIfInfo = .ok net) :
    Built addr (numSatellites + numGroundStations) isls [] net := by
  obtain ⟨net₁, hisls, hrun⟩ := bind_ok hrun
  have h₁ := forEach_pre (readISL numSatellites)
    (fun done net => Built addr (numSatellites + numGroundStations) done [] net)
    (fun done net isl net' h hr => readISL_built h hr) isls [] _ net₁ (built_init _) hisls
  rw [List.nil_append] at h₁
  obtain ⟨⟨net₂, devices⟩, hgsls, hrun⟩ := bind_ok hrun
  have h₂ : Built addr _ isls devices net₂ := installGSLs_built h₁ hgsls
  obtain ⟨nodes, hassign, hrun⟩ := bind_ok hrun
  obtain ⟨hn, hl, hd⟩ := Node.assign_ok h₂.numbered hassign
  split at hrun
  · cases hrun
  · cases hrun
    exact ⟨hl.trans h₂.length, hn, h₂.links, h₂.ends, fun e k => by rw [← h₂.laser e k]; simp only [hd],
      fun e he => h₂.gsl e (by rw [← hd e]; exact he)⟩

end Built

/-! ## What the installation of the GSL devices does -/

/-- The number of GSL devices of a node. -/
def gslCount (nodes : List (Node NetDevice)) (u : Nat) : Nat := (Node.devicesOf nodes u).count .gsl

theorem gslCount_addDevice {nodes nodes' : List (Node NetDevice)} {v : Nat} {d : NetDevice} {e : End}
    (h : Node.addDevice nodes v d = .ok (nodes', e)) (u : Nat) :
    gslCount nodes' u = gslCount nodes u + if u = v ∧ d = .gsl then 1 else 0 := by
  unfold gslCount
  rw [Node.addDevice_devicesOf h]
  by_cases hu : u = v
  · subst hu
    rw [if_pos rfl, List.count_append, List.count_singleton]
    simp
  · simp [hu]

theorem gslCount_assign {nodes nodes' : List (Node NetDevice)} {devices : List End}
    (h : Node.assign nodes devices = .ok nodes') (u : Nat) : gslCount nodes' u = gslCount nodes u := by
  unfold gslCount
  rw [(Node.assign_devicesOf h).2]

theorem gslCount_init (n u : Nat) : gslCount (installInternetStacks n : Network M).nodes u = 0 := by
  unfold gslCount Node.devicesOf installInternetStacks
  rw [List.getElem?_replicate]
  split <;> rfl

/-- An ISL between two satellites is installed. -/
theorem readISL_total {numSatellites : Nat} {net : Network M} {isl : Nat × Nat} (h₁ : isl.1 < numSatellites)
    (h₂ : isl.2 < numSatellites) (hn : numSatellites ≤ net.nodes.length) :
    ∃ net', readISL numSatellites net isl = .ok net' := by
  obtain ⟨nodes₁, nodes₂, nodes', a, b, hadd₀, hadd₁, hassign⟩ := Node.join_total (show isl.1 < net.nodes.length by omega)
    (show isl.2 < net.nodes.length by omega) (.laser net.lasers.length)
  have hinstall : installLaser net isl.1 isl.2 =
      .ok ({ net with nodes := nodes₂, lasers := net.lasers ++ [⟨[a, b]⟩] }, a, b) := by
    unfold installLaser
    rw [hadd₀, ok_bind]
    simp only
    rw [hadd₁, ok_bind]
    rfl
  refine ⟨{ net with nodes := nodes', lasers := net.lasers ++ [⟨[a, b]⟩] }, ?_⟩
  unfold readISL satelliteAt
  rw [if_pos h₁, ok_bind, if_pos h₂, ok_bind, hinstall, ok_bind]
  simp only
  rw [hassign, ok_bind]

theorem satelliteAt_lt {numSatellites id : Nat} {u : Unit} (h : satelliteAt numSatellites id = .ok u) : id < numSatellites := by
  unfold satelliteAt at h
  split at h
  · assumption
  · cases h

theorem readISL_lt {numSatellites : Nat} {net net' : Network M} {isl : Nat × Nat}
    (h : readISL numSatellites net isl = .ok net') : isl.1 < numSatellites ∧ isl.2 < numSatellites := by
  obtain ⟨u, h₁, h⟩ := bind_ok h
  obtain ⟨v, h₂, -⟩ := bind_ok h
  exact ⟨satelliteAt_lt h₁, satelliteAt_lt h₂⟩

/-- The identifiers are checked before they are used. -/
theorem readISL_reports {numSatellites : Nat} {net : Network M} (isl : Nat × Nat) (hn : numSatellites ≤ net.nodes.length) :
    Reports (readISL numSatellites net isl) := by
  by_cases h₁ : isl.1 < numSatellites
  · by_cases h₂ : isl.2 < numSatellites
    · obtain ⟨net', hrun⟩ := readISL_total h₁ h₂ hn
      rw [hrun]
      exact trivial
    · unfold readISL satelliteAt
      rw [if_pos h₁, ok_bind, if_neg h₂]
      exact rfl
  · unfold readISL satelliteAt
    rw [if_neg h₁]
    exact rfl

theorem gslCount_readISL {numSatellites : Nat} {net net' : Network M} {isl : Nat × Nat}
    (h : readISL numSatellites net isl = .ok net') (u : Nat) : gslCount net'.nodes u = gslCount net.nodes u := by
  obtain ⟨-, -, h⟩ := bind_ok h
  obtain ⟨-, -, h⟩ := bind_ok h
  obtain ⟨⟨net₂, a, b⟩, hinstall, h⟩ := bind_ok h
  obtain ⟨nodes', hassign, h⟩ := bind_ok h
  obtain ⟨⟨nodes₁, a'⟩, hadd₀, hinstall⟩ := bind_ok hinstall
  obtain ⟨⟨nodes₂, b'⟩, hadd₁, hinstall⟩ := bind_ok hinstall
  cases hinstall
  cases h
  have hlaser : ∀ (v k : Nat), ¬(u = v ∧ NetDevice.laser k = .gsl) := fun v k h => (by cases h.2)
  show gslCount nodes' u = gslCount net.nodes u
  rw [gslCount_assign hassign, gslCount_addDevice hadd₁, gslCount_addDevice hadd₀, if_neg (hlaser _ _),
    if_neg (hlaser _ _), Nat.add_zero]

/-- What was installed on `net`: `count u` GSL devices on node `u`, `total` in all, which were collected. -/
structure Installed (net : Network M) (count : Nat → Nat) (total : Nat) (s : Network M × List End) : Prop where
  lasers : s.1.lasers = net.lasers
  length : s.1.nodes.length = net.nodes.length
  nodes : ∀ e ∈ s.2, e.1 < net.nodes.length
  total : s.2.length = total
  count : ∀ u, gslCount s.1.nodes u = gslCount net.nodes u + count u

section Installed

variable {net : Network M} {count : Nat → Nat} {total : Nat} {s : Network M × List End}

theorem installGSL_installed (h : Installed net count total s) {node : Nat} (hnode : node < net.nodes.length) :
    ∃ s', installGSL addr node s = .ok s' ∧
      Installed net (fun u => count u + if u = node then 1 else 0) (total + 1) s' := by
  obtain ⟨nodes, dev, hadd, hu, hlength⟩ := Node.addDevice_total (show node < s.1.nodes.length by rw [h.length]; exact hnode)
    NetDevice.gsl
  have hrun : installGSL addr node s = .ok ({ s.1 with nodes := nodes, gslChannel := s.1.gslChannel.attach (addr.mac dev) dev },
      s.2 ++ [dev]) := by
    unfold installGSL
    rw [hadd]
    rfl
  refine ⟨_, hrun, h.lasers, hlength.trans h.length, fun e he => ?_, ?_, fun u => ?_⟩
  · rcases List.mem_append.1 he with he | he
    · exact h.nodes e he
    · rw [List.mem_singleton.1 he, hu]
      exact hnode
  · rw [List.length_append, h.total, List.length_singleton]
  · rw [gslCount_addDevice hadd u, h.count u, Nat.add_assoc]
    simp

/-- All devices of one node. -/
theorem installNode_installed (h : Installed net count total s) {node : Nat} (hnode : node < net.nodes.length) (numIfs : Nat) :
    ∃ s', forRange numIfs (fun _ => installGSL addr node) s = .ok s' ∧
      Installed net (fun u => count u + if u = node then numIfs else 0) (total + numIfs) s' := by
  refine forRange_inv (fun i s => Installed net (fun u => count u + if u = node then i else 0) (total + i) s) _ numIfs s
    (by simpa using h) fun i _ s hs => ?_
  obtain ⟨s', hr, hs'⟩ := installGSL_installed addr hs hnode
  refine ⟨s', hr, hs'.lasers, hs'.length, hs'.nodes, hs'.total, fun u => ?_⟩
  rw [hs'.count u]
  split <;> omega

/-- The satellites and the ground stations are one loop over the nodes. -/
theorem installGSLs_eq (a b : Nat) (nodeGslIfInfo : List Nat) (net : Network M) :
    installGSLs addr a b nodeGslIfInfo net = forRange (a + b) (fun u s => do
      let numIfs ← index nodeGslIfInfo u
      forRange numIfs (fun _ => installGSL addr u) s) (net, []) := (forRange_add _ a b _).symm

/-- The devices of the first `k` nodes, for which there is an entry. -/
theorem installNodes_installed {nodeGslIfInfo : List Nat} {k : Nat} (hk : k ≤ nodeGslIfInfo.length)
    (hn : k ≤ net.nodes.length) : ∃ s, forRange k (fun u s => do
        let numIfs ← index nodeGslIfInfo u
        forRange numIfs (fun _ => installGSL addr u) s) (net, []) = .ok s ∧
      Installed net (fun u => if u < k then nodeGslIfInfo.getD u 0 else 0) (nodeGslIfInfo.take k).sum s := by
  refine forRange_inv (fun i s => Installed net (fun u => if u < i then nodeGslIfInfo.getD u 0 else 0)
    (nodeGslIfInfo.take i).sum s) _ k (net, []) ⟨rfl, rfl, nofun, by simp, by simp⟩ fun i hi s hs => ?_
  obtain ⟨s', hr, hs'⟩ := installNode_installed addr hs (show i < net.nodes.length by omega) nodeGslIfInfo[i]
  refine ⟨s', by rw [index_lt (by omega), ok_bind, hr], hs'.lasers, hs'.length, hs'.nodes, ?_, fun u => ?_⟩
  · rw [hs'.total, List.take_succ_eq_append_getElem (by omega), List.sum_append, List.sum_singleton]
  · rw [hs'.count u]
    rcases Nat.lt_trichotomy u i with hu | rfl | hu
    · rw [if_pos hu, if_neg (by omega), if_pos (by omega), Nat.add_zero]
    · rw [if_neg (by omega), if_pos rfl, if_pos (by omega), List.getD_eq_getElem?_getD, List.getElem?_eq_getElem (by omega),
        Option.getD_some]
      omega
    · rw [if_neg (by omega), if_neg (by omega), if_neg (by omega)]

/-- Every node has its entry. -/
theorem installGSLs_installed {a b : Nat} {nodeGslIfInfo : List Nat} (hk : a + b ≤ nodeGslIfInfo.length)
    (hn : a + b ≤ net.nodes.length) : ∃ s, installGSLs addr a b nodeGslIfInfo net = .ok s ∧
      Installed net (fun u => if u < a + b then nodeGslIfInfo.getD u 0 else 0) (nodeGslIfInfo.take (a + b)).sum s := by
  rw [installGSLs_eq]
  exact installNodes_installed addr hk hn

/-- A node has no entry. -/
theorem installGSLs_undefined {a b : Nat} {nodeGslIfInfo : List Nat} (hk : nodeGslIfInfo.length < a + b)
    (hn : a + b ≤ net.nodes.length) :
    installGSLs addr a b nodeGslIfInfo net = .error (.undefined "vector index out of range") := by
  obtain ⟨s, hr, -⟩ := @installNodes_installed _ addr net nodeGslIfInfo _ (Nat.le_refl _) (by omega)
  obtain ⟨k, hab⟩ := Nat.exists_eq_add_of_lt hk
  rw [installGSLs_eq, show a + b = nodeGslIfInfo.length + 1 + k by omega]
  apply forRange_error hr
  unfold index
  rw [List.getElem?_eq_none (Nat.le_refl _)]
  rfl

end Installed

/-! ## Two networks -/

/-- Addresses that are the identities of the devices. -/
def pairAddresses : Addresses End where
  mac := id
  ip e := Nat.pair e.1 e.2
  mac_inj _ _ _ _ h := h
  ip_inj e e' _ _ h := by
    obtain ⟨h₁, h₂⟩ := Nat.pair_eq_pair.1 h
    exact Prod.ext h₁ h₂

/-- Two satellites with an ISL and two ground stations. -/
def twoSatellites : Network End where
  nodes := [⟨[.loopback, .laser 0, .gsl], [0, 1, 2]⟩, ⟨[.loopback, .laser 0, .gsl], [0, 1, 2]⟩,
    ⟨[.loopback, .gsl], [0, 1]⟩, ⟨[.loopback, .gsl], [0, 1]⟩]
  lasers := [⟨[(0, 1), (1, 1)]⟩]
  gslChannel := ⟨[((3, 1), (3, 1)), ((2, 1), (2, 1)), ((1, 2), (1, 2)), ((0, 2), (0, 2))],
    [(0, 2), (1, 2), (2, 1), (3, 1)]⟩

theorem build_twoSatellites : build pairAddresses 2 2 [(0, 1)] [1, 1, 1, 1] = .ok twoSatellites := rfl

/-- A satellite with an ISL to itself and a ground station. -/
def selfLoop : Network End where
  nodes := [⟨[.loopback, .laser 0, .laser 0, .gsl], [0, 1, 2, 3]⟩, ⟨[.loopback, .gsl], [0, 1]⟩]
  lasers := [⟨[(0, 1), (0, 2)]⟩]
  gslChannel := ⟨[((1, 1), (1, 1)), ((0, 3), (0, 3))], [(0, 3), (1, 1)]⟩

theorem build_selfLoop : build pairAddresses 1 1 [(0, 0)] [1, 1] = .ok selfLoop := rfl

end SatNet.Satellite
