/-
The single forwarding state of a satellite network: the files that `ArbiterSingleForwardHelper` loads
into it line by line, with the checks of each line, and the decision of `ArbiterSatnet` from it. The
checks make every entry one that the decision can use, and pair the two ends of every ISL; only on an
ISL that joins a satellite to itself do they pair an end with itself.
-/
import SatNet.Base.ExpUtil
import SatNet.Ptop.ArbiterPtop
import SatNet.Satellite.Network

namespace SatNet.Satellite

open SatNet.Loop SatNet.Device SatNet.ExpUtil

variable {M : Type}

/-! ## The arbiter -/

/-- Next node, own interface, next interface. The numbers are of 32 bits in the source, far more than
there are nodes or interfaces. -/
abbrev Entry := Int × Int × Int

/-- `m_next_hop_list` of the arbiter of every node. -/
abbrev ForwardingState := List (List Entry)

def initialEmptyForwardingState (numNodes : Nat) : ForwardingState :=
  -- -2 indicates an invalid entry
  List.replicate numNodes (List.replicate numNodes (-2, -2, -2))

/-- `SetSingleForwardState`, on the list of one arbiter. -/
def setSingleForwardState (nextHopList : List Entry) (targetNodeId : Nat) (entry : Entry) : Res (List Entry) :=
  if entry.1 = -2 ∨ entry.2.1 = -2 ∨ entry.2.2 = -2 then .error (.abort "Not permitted to set invalid (-2).")
  else setIndex nextHopList targetNodeId entry

def topologySatelliteNetworkDecide (nextHopList : List Entry) (targetNodeId : Nat) : Res Entry :=
  index nextHopList targetNodeId

/-- `GetObject<Ipv4>()->GetAddress(ifIdx, 0).GetLocal()`. -/
def localAddress (addr : Addresses M) (net : Network M) (node ifIdx : Nat) : Res Nat := do
  let (e, _) ← Node.netDevice net.nodes node ifIdx
  .ok (addr.ip e)

def ArbiterSatnet.decide (addr : Addresses M) (net : Network M) (nextHopList : List Entry) (targetNodeId : Nat) :
    Res Ptop.ArbiterResult := do
  let (nextNodeId, ownIfId, nextIfId) ← topologySatelliteNetworkDecide nextHopList targetNodeId
  if nextNodeId = -2 ∨ ownIfId = -2 ∨ nextIfId = -2 then
    .error (.abort "Forwarding state is not set for this node to this target node (invalid).")
  else if nextNodeId ≠ -1 then do
    let selectIpGateway ← localAddress addr net nextNodeId.toNat nextIfId.toNat
    .ok ⟨false, ownIfId.toNat, selectIpGateway⟩
  else .ok ⟨true, 0, 0⟩

/-! ## Lines -/

structure Line where
  currentNodeId : Nat
  targetNodeId : Nat
  nextHopNodeId : Int
  myIfId : Int
  nextIfId : Int
  deriving Repr, DecidableEq

def readLine (line : Str) : Res Line := do
  let commaSplit ← splitStringExpected line ",".toList 5
  let current ← index commaSplit 0
  let currentNodeId ← parsePositiveInt64 current
  let target ← index commaSplit 1
  let targetNodeId ← parsePositiveInt64 target
  let nextHop ← index commaSplit 2
  let nextHopNodeId ← parseInt64 nextHop
  let myIf ← index commaSplit 3
  let myIfId ← parseInt64 myIf
  let nextIf ← index commaSplit 4
  let nextIfId ← parseInt64 nextIf
  .ok ⟨currentNodeId, targetNodeId, nextHopNodeId, myIfId, nextIfId⟩

/-- The interface that a line means exists, or none is meant. -/
def interfaceExists (net : Network M) (node ifId : Int) : Res Bool :=
  if ifId = -1 then .ok true
  else if ifId < 0 then .ok false
  else do
    let shifted ← int64 (ifId + 1)
    let n ← Node.nInterfaces net.nodes node.toNat
    .ok (shifted < n)

/-- `GetChannel()->GetDevice(i)` of a laser device. -/
def laserDevice (net : Network M) (channel i : Nat) : Res End := do
  let ch ← index net.lasers channel
  index ch.attached i

/-- The checks of the two devices, for a line that is not a drop. -/
def checkDevices (net : Network M) (l : Line) : Res Unit := do
  let (_, source) ← Node.netDevice net.nodes l.currentNodeId (1 + l.myIfId).toNat
  match source with
  | .loopback => .error (.abort "Only GSL and ISL network devices are supported")
  | .gsl => do
    let (_, dest) ← Node.netDevice net.nodes l.nextHopNodeId.toNat (1 + l.nextIfId).toNat
    if dest ≠ .gsl then .error (.abort "Destination interface must be attached to a GSL network device")
    else .ok ()
  | .laser channel => do
    let (_, dest) ← Node.netDevice net.nodes l.nextHopNodeId.toNat (1 + l.nextIfId).toNat
    match dest with
    | .laser _ => do
      let device0 ← laserDevice net channel 0
      let device1 ← laserDevice net channel 1
      let otherDevice := if device0.1 = l.currentNodeId then device1 else device0
      if (otherDevice.1 : Int) ≠ l.nextHopNodeId then .error (.abort "Next hop node id across does not match")
      else if (otherDevice.2 : Int) ≠ 1 + l.nextIfId then
        .error (.abort "Next hop interface id across does not match")
      else .ok ()
    | _ => .error (.abort "Destination interface must be an ISL network device")

def checkLine (net : Network M) (l : Line) : Res Unit :=
  let n := net.nodes.length
  if l.currentNodeId ≥ n then .error (.abort "Invalid current node id.")
  else if l.targetNodeId ≥ n then .error (.abort "Invalid target node id.")
  else if l.nextHopNodeId < -1 ∨ l.nextHopNodeId ≥ n then .error (.abort "Invalid next hop node id.")
  else if ¬(l.nextHopNodeId = -1 ∧ l.myIfId = -1 ∧ l.nextIfId = -1) ∧
      ¬(l.nextHopNodeId ≠ -1 ∧ l.myIfId ≠ -1 ∧ l.nextIfId ≠ -1) then
    .error (.abort "All three must be -1 for it to signify a drop.")
  else do
    let currentExists ← interfaceExists net l.currentNodeId l.myIfId
    if currentExists = false then .error (.abort "Invalid current interface")
    else do
      let nextExists ← interfaceExists net l.nextHopNodeId l.nextIfId
      if nextExists = false then .error (.abort "Invalid next hop interface")
      else if l.nextHopNodeId ≠ -1 ∧ l.myIfId ≠ -1 ∧ l.nextIfId ≠ -1 then checkDevices net l
      else .ok ()

/-- What a line sets: the interface ids skip the loop-back interface. -/
def Line.entry (l : Line) : Entry := (l.nextHopNodeId, 1 + l.myIfId, 1 + l.nextIfId)

/-- `m_arbiters.at(nodeId)`. -/
def arbiterAt (state : ForwardingState) (nodeId : Nat) : Res (List Entry) :=
  match state[nodeId]? with
  | some nextHopList => .ok nextHopList
  | none => .error (.outOfRange "vector::_M_range_check")

/-- One round of the loop over the lines. -/
def updateLine (net : Network M) (state : ForwardingState) (line : Str) : Res ForwardingState := do
  let l ← readLine line
  checkLine net l
  let nextHopList ← arbiterAt state l.currentNodeId
  let nextHopList ← setSingleForwardState nextHopList l.targetNodeId l.entry
  .ok (state.set l.currentNodeId nextHopList)

/-! ## Files -/

inductive File where
  | missing
  | unreadable
  | lines (lines : List Str)
  deriving Repr, DecidableEq

/-- What the helper uses of the simulation. -/
structure BasicSimulation where
  runDir : String
  config : Config
  simulationEndTimeNs : Int
  file : String → File

/-- The lines of the forwarding-state file for time `t`. -/
def fstateLines (sim : BasicSimulation) (t : Int) : Res (List Str) := do
  let routesDir ← getParamOrFail "satellite_network_routes_dir" sim.config
  let filename := s!"{sim.runDir}/{String.ofList routesDir}/fstate_{t}.txt"
  match sim.file filename with
  | .missing => .error (.runtimeError s!"File {filename} does not exist.")
  | .unreadable => .error (.runtimeError s!"File {filename} could not be read.")
  | .lines lines => .ok lines

/-- `UpdateForwardingState(t)`: the new state, and the time of the update that it schedules. -/
def updateForwardingState (sim : BasicSimulation) (net : Network M) (dynamicStateUpdateIntervalNs t : Int)
    (state : ForwardingState) : Res (ForwardingState × Option Int) := do
  let lines ← fstateLines sim t
  let state ← forEach (updateLine net) lines state
  let forceStatic ← parseBoolean (getParamOrDefault "satellite_network_force_static" "false" sim.config)
  if forceStatic then .ok (state, none)
  else do
    let nextUpdateNs ← int64 (t + dynamicStateUpdateIntervalNs)
    .ok (state, if nextUpdateNs < sim.simulationEndTimeNs then some nextUpdateNs else none)

/-- The states after any sequence of accepted files, with all lines that were loaded. -/
inductive Loaded (sim : BasicSimulation) (net : Network M) : List Str → ForwardingState → Prop where
  | init : Loaded sim net [] (initialEmptyForwardingState net.nodes.length)
  | update {written state} (intervalNs t : Int) (lines : List Str) (state' : ForwardingState) (next : Option Int) :
      Loaded sim net written state → fstateLines sim t = .ok lines →
      updateForwardingState sim net intervalNs t state = .ok (state', next) →
      Loaded sim net (written ++ lines) state'

/-! ## The state after all lines -/

def entryAt (state : ForwardingState) (u v : Nat) : Option Entry := state[u]?.bind fun nextHopList => nextHopList[v]?

/-- The last line that was written for the pair. -/
def lastLine (written : List Str) (u v : Nat) : Option Line :=
  ((written.filterMap fun s => (readLine s).toOption).filter fun l => l.currentNodeId = u ∧ l.targetNodeId = v).getLast?

theorem lastLine_concat {written : List Str} {s : Str} {l : Line} (h : readLine s = .ok l) (u v : Nat) :
    lastLine (written ++ [s]) u v =
      if l.currentNodeId = u ∧ l.targetNodeId = v then some l else lastLine written u v := by
  unfold lastLine
  have hone : [s].filterMap (fun s => (readLine s).toOption) = [l] := by simp [h, Except.toOption]
  rw [List.filterMap_append, hone, List.filter_append]
  split
  · rename_i hl
    rw [List.filter_cons_of_pos (by simpa using hl), List.filter_nil, List.getLast?_concat]
  · rename_i hl
    rw [List.filter_cons_of_neg (by simpa using hl), List.filter_nil, List.append_nil]

theorem lastLine_mem {written : List Str} {u v : Nat} {l : Line} (h : lastLine written u v = some l) :
    (∃ s ∈ written, readLine s = .ok l) ∧ l.currentNodeId = u ∧ l.targetNodeId = v := by
  obtain ⟨hm, hl⟩ := List.mem_filter.1 (List.mem_of_getLast? h)
  obtain ⟨s, hs, hread⟩ := List.mem_filterMap.1 hm
  refine ⟨⟨s, hs, ?_⟩, by simpa using hl⟩
  cases hr : readLine s with
  | error e => rw [hr] at hread; cases hread
  | ok l' => rw [hr] at hread; cases hread; rfl

/-- The state after the lines `written`: all of them are accepted, and every entry is what the last line
for its pair set. -/
structure Holds (net : Network M) (written : List Str) (state : ForwardingState) : Prop where
  length : state.length = net.nodes.length
  row : ∀ row ∈ state, row.length = net.nodes.length
  entry : ∀ u < net.nodes.length, ∀ v < net.nodes.length,
    entryAt state u v = some (((lastLine written u v).map Line.entry).getD (-2, -2, -2))
  accepted : ∀ s ∈ written, ∀ l, readLine s = .ok l → checkLine net l = .ok ()

section Loaded

variable {sim : BasicSimulation} {net : Network M} {written : List Str} {state state' : ForwardingState}

theorem holds_init (net : Network M) : Holds net [] (initialEmptyForwardingState net.nodes.length) := by
  refine ⟨List.length_replicate, fun row hrow => ?_, fun u hu v hv => ?_, nofun⟩
  · rw [List.eq_of_mem_replicate hrow]
    exact List.length_replicate
  · unfold entryAt initialEmptyForwardingState
    rw [List.getElem?_replicate, if_pos hu, Option.bind_some, List.getElem?_replicate, if_pos hv]
    rfl

/-- What a line does: it is accepted, and sets its own entry. -/
theorem updateLine_ok {s : Str} (h : updateLine net state s = .ok state') :
    ∃ l nextHopList, readLine s = .ok l ∧ checkLine net l = .ok () ∧ state[l.currentNodeId]? = some nextHopList ∧
      l.targetNodeId < nextHopList.length ∧
      state' = state.set l.currentNodeId (nextHopList.set l.targetNodeId l.entry) := by
  obtain ⟨l, hread, h⟩ := bind_ok h
  obtain ⟨_, hcheck, h⟩ := bind_ok h
  obtain ⟨nextHopList, hat, h⟩ := bind_ok h
  obtain ⟨nextHopList', hset, h⟩ := bind_ok h
  cases h
  refine ⟨l, nextHopList, hread, hcheck, ?_, ?_⟩
  · unfold arbiterAt at hat
    cases hs : state[l.currentNodeId]? with
    | none => rw [hs] at hat; cases hat
    | some row => rw [hs] at hat; cases hat; rfl
  · unfold setSingleForwardState at hset
    split at hset
    · cases hset
    · obtain ⟨hlt, rfl⟩ := setIndex_ok.1 hset
      exact ⟨hlt, rfl⟩

theorem Holds.line (h : Holds net written state) {s : Str} (hrun : updateLine net state s = .ok state') :
    Holds net (written ++ [s]) state' := by
  obtain ⟨l, row, hread, hcheck, hrow, hlt, rfl⟩ := updateLine_ok hrun
  have hcur := (List.getElem?_eq_some_iff.1 hrow).1
  refine ⟨by rw [List.length_set]; exact h.length, fun row' hm => ?_, fun u hu v hv => ?_, fun s' hs' l' hread' => ?_⟩
  · rcases List.mem_or_eq_of_mem_set hm with hm | rfl
    · exact h.row row' hm
    · rw [List.length_set]
      exact h.row row (List.mem_of_getElem? hrow)
  · rw [lastLine_concat hread]
    have hold := h.entry u hu v hv
    unfold entryAt at hold ⊢
    by_cases hlu : l.currentNodeId = u
    · subst hlu
      rw [hrow, Option.bind_some] at hold
      rw [List.getElem?_set_self hcur, Option.bind_some]
      by_cases hlv : l.targetNodeId = v
      · subst hlv
        rw [List.getElem?_set_self hlt, if_pos ⟨rfl, rfl⟩]
        rfl
      · rw [List.getElem?_set_ne hlv, if_neg fun he => hlv he.2]
        exact hold
    · rw [List.getElem?_set_ne hlu, if_neg fun he => hlu he.1]
      exact hold
  · rcases List.mem_append.1 hs' with hs' | hs'
    · exact h.accepted s' hs' l' hread'
    · rw [List.mem_singleton.1 hs', hread] at hread'
      cases hread'
      exact hcheck

/-- What every accepted line keeps holds after any sequence of accepted files. -/
theorem Loaded.keeps {P : List Str → ForwardingState → Prop}
    (hinit : P [] (initialEmptyForwardingState net.nodes.length))
    (hline : ∀ written state s state', P written state → updateLine net state s = .ok state' →
      P (written ++ [s]) state')
    (h : Loaded sim net written state) : P written state := by
  induction h with
  | init => exact hinit
  | update intervalNs t lines state' next _ hlines hrun ih =>
    obtain ⟨lines', hlines', hrun⟩ := bind_ok hrun
    rw [hlines] at hlines'
    cases hlines'
    obtain ⟨state₁, heach, hrun⟩ := bind_ok hrun
    obtain ⟨forceStatic, -, hrun⟩ := bind_ok hrun
    have h₁ := forEach_pre (updateLine net) P hline _ _ _ _ ih heach
    split at hrun
    · cases hrun
      exact h₁
    · obtain ⟨nextUpdateNs, -, hrun⟩ := bind_ok hrun
      cases hrun
      exact h₁

/-- After any sequence of accepted files, every entry is what the last line for its pair set. -/
theorem Loaded.holds (h : Loaded sim net written state) : Holds net written state :=
  h.keeps (holds_init net) fun _ _ _ _ hs hr => hs.line hr

/-- All lines of accepted files can be read. -/
theorem Loaded.read (h : Loaded sim net written state) :
    ∃ ls, List.Forall₂ (fun s l => readLine s = .ok l) written ls := by
  refine h.keeps (P := fun written _ => ∃ ls, List.Forall₂ (fun s l => readLine s = .ok l) written ls) ⟨[], .nil⟩ ?_
  rintro done state s state' ⟨ls, hls⟩ hrun
  obtain ⟨l, -, hread, -⟩ := updateLine_ok hrun
  exact ⟨ls ++ [l], List.rel_append hls (.cons hread .nil)⟩

end Loaded

/-! ## What the checks accept -/

/-- The two interfaces are the two ends of a laser link. -/
def Peer (net : Network M) (e e' : End) : Prop := ∃ ch ∈ net.lasers, ch.attached = [e, e'] ∨ ch.attached = [e', e]

/-- The interface is the second end of an ISL that joins a satellite to itself. -/
def SecondOfLoop (net : Network M) (e : End) : Prop :=
  ∃ ch ∈ net.lasers, ∃ e₀, ch.attached = [e₀, e] ∧ e₀.1 = e.1

/-- An entry that node `u` can use: a drop, or a next node with two existing interfaces which are not
the loopback, both of them GSL interfaces or the two ends of a laser link. -/
inductive ValidEntry (net : Network M) (u : Nat) : Entry → Prop where
  | drop : ValidEntry net u (-1, 0, 0)
  | gsl (next i j : Nat) : next < net.nodes.length → 0 < i → 0 < j →
      Node.netDevice net.nodes u i = .ok ((u, i), .gsl) →
      Node.netDevice net.nodes next j = .ok ((next, j), .gsl) → ValidEntry net u (next, i, j)
  | laser (next i j k : Nat) : next < net.nodes.length → 0 < i → 0 < j →
      Node.netDevice net.nodes u i = .ok ((u, i), .laser k) →
      Node.netDevice net.nodes next j = .ok ((next, j), .laser k) →
      Peer net (u, i) (next, j) → ValidEntry net u (next, i, j)

section Checks

variable {net : Network M} {l : Line}

/-- The checks before those of the devices: a drop, or natural numbers. -/
theorem checkLine_ok (h : checkLine net l = .ok ()) :
    l.currentNodeId < net.nodes.length ∧ l.targetNodeId < net.nodes.length ∧
    (l.entry = (-1, 0, 0) ∨
      ∃ next i j : Nat, l.nextHopNodeId = next ∧ l.myIfId = i ∧ l.nextIfId = j ∧ next < net.nodes.length ∧
        checkDevices net l = .ok ()) := by
  -- an interface id that is not negative, or none
  have hexists : ∀ (node ifId : Int) (b : Bool), interfaceExists net node ifId = .ok b → b ≠ false → -1 ≤ ifId := by
    intro node ifId b hrun hb
    unfold interfaceExists at hrun
    split at hrun
    · omega
    · split at hrun
      · cases hrun
        exact absurd rfl hb
      · omega
  unfold checkLine at h
  simp only at h
  split at h
  · cases h
  rename_i hcur
  split at h
  · cases h
  rename_i htarget
  split at h
  · cases h
  rename_i hnext
  split at h
  · cases h
  rename_i hdrop
  obtain ⟨own, hown, h⟩ := bind_ok h
  split at h
  · cases h
  rename_i hown'
  obtain ⟨nextIf, hnextIf, h⟩ := bind_ok h
  split at h
  · cases h
  rename_i hnextIf'
  have hmy := hexists _ _ _ hown hown'
  have hif := hexists _ _ _ hnextIf hnextIf'
  refine ⟨by omega, by omega, ?_⟩
  split at h
  · rename_i hall
    obtain ⟨next, hn⟩ := Int.eq_ofNat_of_zero_le (show 0 ≤ l.nextHopNodeId by omega)
    obtain ⟨i, hi⟩ := Int.eq_ofNat_of_zero_le (show 0 ≤ l.myIfId by omega)
    obtain ⟨j, hj⟩ := Int.eq_ofNat_of_zero_le (show 0 ≤ l.nextIfId by omega)
    exact .inr ⟨next, i, j, hn, hi, hj, by omega, h⟩
  · rename_i hall
    obtain ⟨h₁, h₂, h₃⟩ : l.nextHopNodeId = -1 ∧ l.myIfId = -1 ∧ l.nextIfId = -1 := by
      by_contra hno
      exact hdrop ⟨hno, hall⟩
    left
    unfold Line.entry
    rw [h₁, h₂, h₃]
    rfl

variable [DecidableEq M] {addr : Addresses M} {n : Nat} {isls : List (Nat × Nat)}

/-- The checks of the devices: two GSL interfaces, or one end of a laser link with what the comparison of
node ids takes for the other end. -/
theorem checkDevices_ok (hb : Built addr n isls [] net) {next i j : Nat} (hnext : l.nextHopNodeId = next)
    (hi : l.myIfId = i) (hj : l.nextIfId = j) (h : checkDevices net l = .ok ()) :
    (Node.netDevice net.nodes l.currentNodeId (i + 1) = .ok ((l.currentNodeId, i + 1), .gsl) ∧
      Node.netDevice net.nodes next (j + 1) = .ok ((next, j + 1), .gsl)) ∨
    ∃ (k : Nat) (d₀ d₁ : End), net.lasers[k]? = some ⟨[d₀, d₁]⟩ ∧ d₀ ≠ d₁ ∧
      Node.netDevice net.nodes l.currentNodeId (i + 1) = .ok ((l.currentNodeId, i + 1), .laser k) ∧
      Node.netDevice net.nodes next (j + 1) = .ok ((next, j + 1), .laser k) ∧
      ((l.currentNodeId, i + 1) = d₀ ∨ (l.currentNodeId, i + 1) = d₁) ∧
      (next, j + 1) = if d₀.1 = l.currentNodeId then d₁ else d₀ := by
  have hown : (1 + l.myIfId).toNat = i + 1 := by omega
  have hother : (1 + l.nextIfId).toNat = j + 1 := by omega
  have hnode : l.nextHopNodeId.toNat = next := by omega
  unfold checkDevices at h
  rw [hown, hother, hnode] at h
  obtain ⟨⟨e, source⟩, hsource, h⟩ := bind_ok h
  obtain ⟨rfl, hat⟩ := hb.numbered.netDevice_iff.1 hsource
  cases source with
  | loopback => cases h
  | gsl =>
    obtain ⟨⟨e', dest⟩, hdest, h⟩ := bind_ok h
    obtain ⟨rfl, -⟩ := hb.numbered.netDevice_iff.1 hdest
    simp only at h
    split at h
    · cases h
    · rename_i hgsl
      rw [not_not] at hgsl
      subst hgsl
      exact .inl ⟨hsource, hdest⟩
  | laser k =>
    obtain ⟨⟨e', dest⟩, hdest, h⟩ := bind_ok h
    obtain ⟨rfl, -⟩ := hb.numbered.netDevice_iff.1 hdest
    cases dest with
    | loopback => cases h
    | gsl => cases h
    | laser k' =>
      obtain ⟨⟨attached⟩, hch, hmem⟩ := (hb.laser _ k).1 hat
      obtain ⟨d₀, d₁, hatt, hne, -⟩ := hb.ends k _ hch
      simp only at hatt hmem
      subst hatt
      have hdev : ∀ (m : Nat) (d : End), [d₀, d₁][m]? = some d → laserDevice net k m = .ok d := by
        intro m d hd
        unfold laserDevice
        rw [index_ok.2 hch, ok_bind, index_ok.2 hd]
      simp only [hdev 0 d₀ rfl, hdev 1 d₁ rfl, ok_bind] at h
      generalize hdef : (if d₀.1 = l.currentNodeId then d₁ else d₀) = otherDevice at h
      split at h
      · cases h
      rename_i hid
      split at h
      · cases h
      rename_i hif
      have hpeer : (next, j + 1) = if d₀.1 = l.currentNodeId then d₁ else d₀ := by
        rw [hdef]
        apply Prod.ext
        · show next = otherDevice.1
          omega
        · show j + 1 = otherDevice.2
          omega
      -- what was compared is a device of the same channel
      have hk : Node.deviceAt net.nodes (next, j + 1) = some (.laser k) := by
        refine (hb.laser _ k).2 ⟨_, hch, ?_⟩
        rw [hpeer]
        split <;> simp
      exact .inr ⟨k, d₀, d₁, hch, hne, hsource, hb.numbered.netDevice_iff.2 ⟨rfl, hk⟩, by simpa using hmem, hpeer⟩

omit [DecidableEq M] in
theorem entry_eq {next i j : Nat} (hnext : l.nextHopNodeId = next) (hi : l.myIfId = i) (hj : l.nextIfId = j) :
    l.entry = ((next : Int), ((i + 1 : Nat) : Int), ((j + 1 : Nat) : Int)) := by
  unfold Line.entry
  rw [hnext, hi, hj, Nat.cast_succ, Nat.cast_succ, add_comm 1, add_comm 1]

omit [DecidableEq M] in
/-- A valid entry with a laser interface has its peer. -/
theorem ValidEntry.peer {u next i j k : Nat} (h : ValidEntry net u (next, i, j))
    (hd : Node.netDevice net.nodes u i = .ok ((u, i), .laser k)) : Peer net (u, i) (next, j) := by
  generalize he : ((next : Int), (i : Int), (j : Int)) = e at h
  cases h with
  | drop => simp at he
  | gsl next' i' j' _ _ _ hown _ =>
    simp only [Prod.mk.injEq, Nat.cast_inj] at he
    obtain ⟨rfl, rfl, rfl⟩ := he
    rw [hd] at hown
    cases hown
  | laser next' i' j' k' _ _ _ _ _ hpeer =>
    simp only [Prod.mk.injEq, Nat.cast_inj] at he
    obtain ⟨rfl, rfl, rfl⟩ := he
    exact hpeer

/-- Only a laser interface is the second end of a loop. -/
theorem SecondOfLoop.device (hb : Built addr n isls [] net) {e : End} (h : SecondOfLoop net e) :
    ∃ k, Node.deviceAt net.nodes e = some (.laser k) := by
  obtain ⟨ch, hm, e₀, hatt, -⟩ := h
  obtain ⟨k, hk⟩ := List.getElem?_of_mem hm
  exact ⟨k, (hb.laser e k).2 ⟨ch, hk, by rw [hatt]; simp⟩⟩

/-- The entry of an accepted line is valid, unless its own interface is the second end of a loop: the
comparison of node ids takes that end for its own peer. -/
theorem checkLine_valid (hb : Built addr n isls [] net) (h : checkLine net l = .ok ()) :
    ValidEntry net l.currentNodeId l.entry ↔ ¬ SecondOfLoop net (l.currentNodeId, l.entry.2.1.toNat) := by
  obtain ⟨-, -, hdrop | ⟨next, i, j, hnext, hi, hj, hlt, hdevices⟩⟩ := checkLine_ok h
  · rw [hdrop]
    refine iff_of_true .drop fun hloop => ?_
    obtain ⟨k, hk⟩ := hloop.device hb
    exact hb.pos hk nofun rfl
  · rw [entry_eq hnext hi hj, Int.toNat_natCast]
    rcases checkDevices_ok hb hnext hi hj hdevices with ⟨hown, hother⟩ | ⟨k, d₀, d₁, hk, hne, hown, hother, hmem, hpeer⟩
    · refine iff_of_true (.gsl next (i + 1) (j + 1) hlt (Nat.succ_pos i) (Nat.succ_pos j) hown hother) fun hloop => ?_
      obtain ⟨k, hk⟩ := hloop.device hb
      rw [(hb.numbered.netDevice_iff.1 hown).2] at hk
      cases hk
    · have hchannel := List.mem_of_getElem? hk
      -- a channel with the own interface on it is this one
      have hsame : ∀ ch ∈ net.lasers, (l.currentNodeId, i + 1) ∈ ch.attached → ch.attached = [d₀, d₁] := by
        intro ch hm he
        rw [hb.channel_unique hk (by simpa using hmem) hm he]
      have hvalid := fun hp => ValidEntry.laser next (i + 1) (j + 1) k hlt (Nat.succ_pos i) (Nat.succ_pos j) hown hother hp
      by_cases hd : d₀.1 = l.currentNodeId
      · rw [if_pos hd] at hpeer
        rcases hmem with hmem | hmem
        · refine iff_of_true (hvalid ⟨_, hchannel, .inl (by rw [hmem, hpeer])⟩) ?_
          rintro ⟨ch, hm, e₀, hatt, -⟩
          have heq := hsame ch hm (by rw [hatt]; simp)
          rw [hatt, hmem] at heq
          simp only [List.cons.injEq, and_true] at heq
          exact hne heq.2
        · refine iff_of_false (fun hv => ?_) fun hno => hno ⟨_, hchannel, d₀, by rw [hmem], hd⟩
          obtain ⟨ch, hm, hatt⟩ := hv.peer hown
          rw [hpeer, hmem, or_self] at hatt
          have heq := hsame ch hm (by rw [hatt, hmem]; simp)
          rw [hatt] at heq
          simp only [List.cons.injEq, and_true] at heq
          exact hne heq.symm
      · rw [if_neg hd] at hpeer
        have hmem : (l.currentNodeId, i + 1) = d₁ := hmem.resolve_left fun he => hd (congrArg Prod.fst he).symm
        refine iff_of_true (hvalid ⟨_, hchannel, .inr (by rw [hmem, hpeer])⟩) ?_
        rintro ⟨ch, hm, e₀, hatt, he₀⟩
        have heq := hsame ch hm (by rw [hatt]; simp)
        rw [hatt] at heq
        simp only [List.cons.injEq, and_true] at heq
        rw [heq.1] at he₀
        exact hd he₀

/-- The decision from the entry of an accepted line: no route for a drop, else an existing interface and the
address of an existing one. -/
theorem decide_line (hb : Built addr n isls [] net) (h : checkLine net l = .ok ()) {nextHopList : List Entry}
    (hentry : nextHopList[l.targetNodeId]? = some l.entry) :
    l.entry = (-1, 0, 0) ∧ ArbiterSatnet.decide addr net nextHopList l.targetNodeId = .ok ⟨true, 0, 0⟩ ∨
    ∃ (next i j : Nat) (d d' : NetDevice), l.entry = ((next : Int), (i : Int), (j : Int)) ∧
      ArbiterSatnet.decide addr net nextHopList l.targetNodeId = .ok ⟨false, i, addr.ip (next, j)⟩ ∧
      Node.netDevice net.nodes l.currentNodeId i = .ok ((l.currentNodeId, i), d) ∧
      Node.netDevice net.nodes next j = .ok ((next, j), d') := by
  unfold ArbiterSatnet.decide topologySatelliteNetworkDecide
  rw [index_ok.2 hentry, ok_bind]
  obtain ⟨-, -, hdrop | ⟨next, i, j, hnext, hi, hj, -, hdevices⟩⟩ := checkLine_ok h
  · rw [hdrop]
    exact .inl ⟨rfl, rfl⟩
  · obtain ⟨d, d', hown, hother⟩ : ∃ d d',
        Node.netDevice net.nodes l.currentNodeId (i + 1) = .ok ((l.currentNodeId, i + 1), d) ∧
        Node.netDevice net.nodes next (j + 1) = .ok ((next, j + 1), d') := by
      rcases checkDevices_ok hb hnext hi hj hdevices with ⟨h₁, h₂⟩ | ⟨k, d₀, d₁, -, -, h₁, h₂, -⟩
      · exact ⟨_, _, h₁, h₂⟩
      · exact ⟨_, _, h₁, h₂⟩
    refine .inr ⟨next, i + 1, j + 1, d, d', entry_eq hnext hi hj, ?_, hown, hother⟩
    rw [entry_eq hnext hi hj]
    simp only
    rw [if_neg (by omega), if_pos (by omega), Int.toNat_natCast, Int.toNat_natCast, Int.toNat_natCast]
    unfold localAddress
    rw [hother]
    rfl

end Checks

/-! ## After loading -/

/-- The last line of a pair is an accepted line, and its entry is in force. -/
theorem Holds.last {net : Network M} {written : List Str} {state : ForwardingState} (h : Holds net written state)
    {u v : Nat} {l : Line} (hl : lastLine written u v = some l) :
    l.currentNodeId = u ∧ l.targetNodeId = v ∧ checkLine net l = .ok () ∧
      ∃ nextHopList, state[u]? = some nextHopList ∧ nextHopList[v]? = some l.entry := by
  obtain ⟨⟨s, hs, hread⟩, rfl, rfl⟩ := lastLine_mem hl
  have hc := h.accepted s hs l hread
  obtain ⟨hu, hv, -⟩ := checkLine_ok hc
  have hentry := h.entry _ hu _ hv
  rw [hl] at hentry
  unfold entryAt at hentry
  obtain ⟨nextHopList, hrow⟩ : ∃ nextHopList, state[l.currentNodeId]? = some nextHopList :=
    ⟨_, List.getElem?_eq_getElem (by rw [h.length]; exact hu)⟩
  rw [hrow] at hentry
  exact ⟨rfl, rfl, hc, nextHopList, hrow, hentry⟩

section Faithful

variable (addr : Addresses M) (net : Network M)

/-- What the state is after loading the lines `written`: every entry is that of the last line for its pair,
or unset if there is none; every entry that is set is valid; and the decision from it is no route for a
drop, else its own interface and the address of its next interface. -/
structure Faithful (written : List Str) (state : ForwardingState) : Prop where
  unset : ∀ u < net.nodes.length, ∀ v < net.nodes.length, lastLine written u v = none →
    entryAt state u v = some (-2, -2, -2)
  isSet : ∀ (u v : Nat) (l : Line), lastLine written u v = some l →
    u < net.nodes.length ∧ v < net.nodes.length ∧ entryAt state u v = some l.entry
  valid : ∀ (u v : Nat) (l : Line), lastLine written u v = some l → ValidEntry net u l.entry
  decision : ∀ (u v : Nat) (l : Line) (nextHopList : List Entry), lastLine written u v = some l →
    state[u]? = some nextHopList →
    l.entry = (-1, 0, 0) ∧ ArbiterSatnet.decide addr net nextHopList v = .ok ⟨true, 0, 0⟩ ∨
    ∃ (next i j : Nat) (d d' : NetDevice), l.entry = ((next : Int), (i : Int), (j : Int)) ∧
      ArbiterSatnet.decide addr net nextHopList v = .ok ⟨false, i, addr.ip (next, j)⟩ ∧
      Node.netDevice net.nodes u i = .ok ((u, i), d) ∧ Node.netDevice net.nodes next j = .ok ((next, j), d')

variable [DecidableEq M] {addr net} {numSatellites numGroundStations : Nat} {isls : List (Nat × Nat)}
    {nodeGslIfInfo : List Nat}
  {sim : BasicSimulation} {written : List Str} {state : ForwardingState}

/-- For every satellite network and every sequence of accepted files, the state is faithful to the lines that
were loaded if and only if no pair's last line has as own interface the second end of an ISL that joins
a satellite to itself. -/
theorem loaded_faithful_iff (hbuild : build addr numSatellites numGroundStations isls nodeGslIfInfo = .ok net)
    (h : Loaded sim net written state) :
    Faithful addr net written state ↔
      ∀ (u v : Nat) (l : Line), lastLine written u v = some l → ¬ SecondOfLoop net (u, l.entry.2.1.toNat) := by
  have hb := build_built hbuild
  have hh := h.holds
  constructor
  · intro hf u v l hl
    obtain ⟨rfl, rfl, hc, -⟩ := hh.last hl
    exact (checkLine_valid hb hc).1 (hf.valid _ _ l hl)
  · intro hno
    have hset : ∀ (u v : Nat) (l : Line), lastLine written u v = some l →
        u < net.nodes.length ∧ v < net.nodes.length ∧ entryAt state u v = some l.entry := by
      intro u v l hl
      obtain ⟨rfl, rfl, hc, nextHopList, hrow, hentry⟩ := hh.last hl
      obtain ⟨hu, hv, -⟩ := checkLine_ok hc
      exact ⟨hu, hv, by rw [entryAt, hrow, Option.bind_some, hentry]⟩
    refine ⟨fun u hu v hv hl => ?_, hset, fun u v l hl => ?_, fun u v l nextHopList hl hrow => ?_⟩
    · rw [hh.entry u hu v hv, hl]
      rfl
    · obtain ⟨rfl, rfl, hc, -⟩ := hh.last hl
      exact (checkLine_valid hb hc).2 (hno _ _ l hl)
    · obtain ⟨rfl, rfl, hc, nextHopList', hrow', hentry⟩ := hh.last hl
      rw [hrow] at hrow'
      cases hrow'
      exact decide_line hb hc hentry

end Faithful

/-- A simulation in which every forwarding-state file has these lines. -/
def simulation (lines : List Str) : BasicSimulation :=
  ⟨"run", [("satellite_network_routes_dir".toList, "routes".toList)], 1000, fun _ => .lines lines⟩

/-- From ground station 2 over both satellites to ground station 3, whose way back is a drop that is
written over. -/
def twoSatellitesLines : List Str :=
  ["2,3,0,0,1".toList, "0,3,1,0,0".toList, "3,2,-1,-1,-1".toList, "1,3,3,1,0".toList, "3,2,1,0,1".toList]

def twoSatellitesState : ForwardingState :=
  [[(-2, -2, -2), (-2, -2, -2), (-2, -2, -2), (1, 1, 1)],
    [(-2, -2, -2), (-2, -2, -2), (-2, -2, -2), (3, 2, 1)],
    [(-2, -2, -2), (-2, -2, -2), (-2, -2, -2), (0, 1, 2)],
    [(-2, -2, -2), (-2, -2, -2), (1, 1, 2), (-2, -2, -2)]]

theorem loaded_twoSatellites :
    Loaded (simulation twoSatellitesLines) twoSatellites twoSatellitesLines twoSatellitesState :=
  .update 100 0 twoSatellitesLines twoSatellitesState (some 100) .init rfl (by decide +kernel)

theorem loaded_faithful_iff_twoSatellites :
    Faithful pairAddresses twoSatellites twoSatellitesLines twoSatellitesState := by
  apply (loaded_faithful_iff build_twoSatellites loaded_twoSatellites).2
  rintro u v l _ ⟨ch, hm, e₀, hatt, he⟩
  obtain rfl := List.mem_singleton.1 hm
  simp only [List.cons.injEq, and_true] at hatt
  rw [← hatt.1, ← hatt.2] at he
  cases he

/-- The second interface of an ISL that joins a satellite to itself is accepted as its own peer. -/
theorem loaded_selfLoop : build pairAddresses 1 1 [(0, 0)] [1, 1] = .ok selfLoop ∧
    Loaded (simulation ["0,1,0,1,1".toList]) selfLoop ["0,1,0,1,1".toList]
      [[(-2, -2, -2), (0, 2, 2)], [(-2, -2, -2), (-2, -2, -2)]] ∧
    ¬ Faithful pairAddresses selfLoop ["0,1,0,1,1".toList] [[(-2, -2, -2), (0, 2, 2)],
      [(-2, -2, -2), (-2, -2, -2)]] := by
  refine ⟨build_selfLoop, .update 100 0 _ _ (some 100) .init rfl (by decide +kernel), fun h => ?_⟩
  have hv : ValidEntry selfLoop 0 (((0 : Nat) : Int), ((2 : Nat) : Int), ((2 : Nat) : Int)) :=
    h.valid 0 1 ⟨0, 1, 0, 1, 1⟩ (by decide +kernel)
  obtain ⟨ch, hm, hatt⟩ := hv.peer (k := 0) rfl
  obtain rfl := List.mem_singleton.1 hm
  simp at hatt

end SatNet.Satellite
