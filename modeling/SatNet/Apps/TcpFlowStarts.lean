/-
The chain of flow starts: every flow of a system's share of the schedule is started once, in order and
at its time, and the applications stand in the order of the schedule, exactly if all the nodes that the
share names are there with a first address, and an `int` counts its flows.
-/
import SatNet.Apps.TcpFlowSchedule
import SatNet.Apps.Endpoints

namespace SatNet.Apps

open SatNet.ExpUtil SatNet.Loop SatNet.Events

variable {b : BasicSimulation} {topology : Topology}

/-! ## What is to be -/

/-- The share of the schedule whose flows start at a node of this system. -/
def tcpShare (b : BasicSimulation) (l : List TcpFlowScheduleEntry) : List TcpFlowScheduleEntry :=
  l.filter fun e => b.owns e.fromNodeId

/-- The application of an entry: it is on the from-node, its remote is the first address of the to-node. -/
structure AppOf (topology : Topology) (e : TcpFlowScheduleEntry) (app : TcpFlowApp) : Prop where
  node : app.node = e.fromNodeId
  from_lt : e.fromNodeId < topology.nodes.length
  remote : ∃ n, topology.nodes[e.toNodeId]? = some n ∧ n[1]? = some app.remote
  flowId : app.tcpFlowId = e.tcpFlowId
  size : app.attributes.maxBytes = e.sizeByte

/-- The run has started every flow once, in order and at its time. -/
structure Started (topology : Topology) (share : List TcpFlowScheduleEntry) (s : TcpFlowScheduler) : Prop where
  schedule : s.schedule = share
  started : s.started = share.zipIdx.map fun p => (p.1.startTimeNs, (p.2 : Int))
  apps_length : s.apps.length = share.length
  apps : ∀ (i : Nat) e app, share[i]? = some e → s.apps[i]? = some app → AppOf topology e app
  lookup : ∀ flowOf, writeTcpResults s flowOf ≠ .error rangeCheck

/-- The from-nodes are there, also those of the entries this system only looks at, the to-nodes have an
address, and an `int` counts the flows. -/
structure Startable (b : BasicSimulation) (topology : Topology) (l : List TcpFlowScheduleEntry) : Prop where
  assigned : b.distributedEnabled = true → ∀ e ∈ l, e.fromNodeId < topology.nodes.length
  from_lt : ∀ e ∈ tcpShare b l, e.fromNodeId < topology.nodes.length
  to_up : ∀ e ∈ tcpShare b l, HasAddress topology e.toNodeId
  few : (tcpShare b l).length < 2 ^ 31

/-! ## One start -/

theorem parseTcpFlow_ok {n : Nat} {line : Str} {e : TcpFlowScheduleEntry} (h : parseTcpFlow n line = .ok e) :
    e.tcpFlowId = n ∧ e.sizeByte < 2 ^ 63 := by
  obtain ⟨spl, -, h⟩ := bind_ok h
  obtain ⟨id, -, h⟩ := bind_ok h
  split at h
  · cases h
  · rename_i hid
    obtain ⟨fromId, -, h⟩ := bind_ok h
    obtain ⟨toId, -, h⟩ := bind_ok h
    obtain ⟨size, hsize, h⟩ := bind_ok h
    obtain ⟨start, -, h⟩ := bind_ok h
    obtain ⟨params, -, h⟩ := bind_ok h
    obtain ⟨metadata, -, h⟩ := bind_ok h
    cases h
    obtain ⟨s, -, hsize⟩ := bind_ok hsize
    exact ⟨not_not.1 hid, parsePositiveInt64_lt hsize⟩

theorem readTcpFlowSchedule_ok {filename : Str} {file : File} {endNs : Nat} {l : List TcpFlowScheduleEntry}
    (h : readTcpFlowSchedule filename file topology endNs = .ok l) :
    Accepted TcpFlowScheduleEntry.header topology endNs l ∧ ∀ e ∈ l, e.sizeByte < 2 ^ 63 := by
  refine ⟨readSchedule_accepted (fun n line e he => (parseTcpFlow_ok he).1) h, fun e he => ?_⟩
  obtain ⟨n, line, hp⟩ := readSchedule_parsed h e he
  exact (parseTcpFlow_ok hp).2

/-- What a start that succeeds leaves: one application more, and at most the next start on the agenda. -/
theorem startNextFlow_ok {i : Int} {w w' : Sim Int TcpFlowScheduler} (h : startNextFlow topology i w = .ok w') :
    i + 1 < 2 ^ 31 ∧ (∃ app, w'.state.apps = w.state.apps ++ [app]) ∧
      (w'.agenda = w.agenda ∨ ∃ t, w'.agenda = enqueue ⟨t, i + 1⟩ w.agenda) := by
  unfold startNextFlow at h
  obtain ⟨entry, -, h⟩ := bind_ok h
  split at h
  · cases h
  · obtain ⟨remote, -, h⟩ := bind_ok h
    obtain ⟨_, -, h⟩ := bind_ok h
    obtain ⟨next, hnext, h⟩ := bind_ok h
    obtain ⟨hr, rfl⟩ := int32_ok_iff.1 hnext
    refine ⟨hr.2, ?_⟩
    split at h
    · obtain ⟨nextEntry, -, h⟩ := bind_ok h
      obtain ⟨t, -, -, rfl⟩ := schedule_ok h
      exact ⟨⟨_, rfl⟩, .inr ⟨t, rfl⟩⟩
    · cases h
      exact ⟨⟨_, rfl⟩, .inl rfl⟩

/-- The application `StartNextFlow` installs for an entry. -/
def appFor (s : TcpFlowScheduler) (e : TcpFlowScheduleEntry) (remote : Address) : TcpFlowApp where
  node := toUInt32 e.fromNodeId
  remote := remote
  tcpFlowId := e.tcpFlowId
  attributes := flowAttributes e.sizeByte (s.enableLoggingForTcpFlowIds.contains e.tcpFlowId)
  additionalParameters := e.additionalParameters

theorem appFor_appOf {s : TcpFlowScheduler} {e : TcpFlowScheduleEntry} {n : Node} {remote : Address}
    (hfrom : e.fromNodeId < topology.nodes.length) (hn : topology.nodes[e.toNodeId]? = some n)
    (hremote : n[1]? = some remote) (hsize : e.sizeByte < 2 ^ 63) : AppOf topology e (appFor s e remote) where
  node := toUInt32_eq (Nat.lt_trans hfrom topology.nodes_lt)
  from_lt := hfrom
  remote := ⟨n, hn, hremote⟩
  flowId := rfl
  size := Nat.mod_eq_of_lt (by omega)

/-- A start at its time, of a flow between nodes that are there: the application is installed, and the next
start is put on the agenda if there is one. -/
theorem startNextFlow_eq {k : Nat} {w : Sim Int TcpFlowScheduler} {e : TcpFlowScheduleEntry} {n : Node}
    {remote : Address} (he : w.state.schedule[k]? = some e) (hnow : w.now = e.startTimeNs)
    (hfrom : e.fromNodeId < topology.nodes.length) (hn : topology.nodes[e.toNodeId]? = some n)
    (hremote : n[1]? = some remote) (hfew : w.state.schedule.length < 2 ^ 31) :
    startNextFlow topology k w =
      let w' : Sim Int TcpFlowScheduler :=
        { w with state := { w.state with started := w.state.started ++ [(w.now, (k : Int))],
                                         apps := w.state.apps ++ [appFor w.state e remote] } }
      match w.state.schedule[k + 1]? with
      | some e' => SatNet.schedule (e'.startTimeNs - w.now) ((k : Int) + 1) w'
      | none => .ok w' := by
  have hlen : k < w.state.schedule.length := (List.getElem?_eq_some_iff.1 he).1
  have hnode : topology.node e.toNodeId >>= firstAddress = .ok remote := by
    obtain ⟨hl, rfl⟩ := List.getElem?_eq_some_iff.1 hn
    rw [topology.node_eq hl, ok_bind]
    unfold firstAddress
    rw [hremote]
  unfold startNextFlow
  simp only [Int.toNat_natCast, index_ok.2 he, ok_bind, hnode, topology.node_eq hfrom, hnow, ne_eq, not_true_eq_false,
    if_false, int32_eq (x := (k : Int) + 1) (by omega) (by omega),
    toInt32_eq (x := (w.state.schedule.length : Int)) (by omega) (by omega)]
  by_cases hlast : k + 1 = w.state.schedule.length
  · rw [if_neg (by omega), List.getElem?_eq_none (by omega)]
    rfl
  · have hnext : k + 1 < w.state.schedule.length := by omega
    have htoNat : ((k : Int) + 1).toNat = k + 1 := by omega
    rw [if_pos (by omega), htoNat, index_lt hnext, ok_bind, List.getElem?_eq_getElem hnext]
    rfl

/-! ## The chain -/

/-- Between two starts: as many flows were started as there are applications, and only the start of the
next one is on the agenda. -/
structure Chain (topology : Topology) (share : List TcpFlowScheduleEntry) (w : Sim Int TcpFlowScheduler) : Prop where
  schedule : w.state.schedule = share
  count : w.state.apps.length ≤ share.length
  started : w.state.started =
    (share.take w.state.apps.length).zipIdx.map fun p => (p.1.startTimeNs, (p.2 : Int))
  apps : ∀ (i : Nat) e app, share[i]? = some e → w.state.apps[i]? = some app → AppOf topology e app
  agenda : w.agenda = (share[w.state.apps.length]?.map fun e => ⟨e.startTimeNs, (w.state.apps.length : Int)⟩).toList
  clock : ∀ e, share[w.state.apps.length]? = some e → w.now ≤ e.startTimeNs

/-- What the chain needs of a share of the schedule. -/
structure Runnable (topology : Topology) (endNs : Nat) (share : List TcpFlowScheduleEntry) : Prop where
  start_lt : ∀ e ∈ share, e.startTimeNs < endNs
  ascending : (share.map fun e => e.startTimeNs).Pairwise (· ≤ ·)
  size_lt : ∀ e ∈ share, e.sizeByte < 2 ^ 63
  from_lt : ∀ e ∈ share, e.fromNodeId < topology.nodes.length
  to_up : ∀ e ∈ share, HasAddress topology e.toNodeId
  few : share.length < 2 ^ 31

/-- One start of the chain succeeds, and leaves the chain one start further. -/
theorem Chain.start {share : List TcpFlowScheduleEntry} {w : Sim Int TcpFlowScheduler} {e : TcpFlowScheduleEntry}
    {endNs : Nat} (hend : endNs < 2 ^ 63) (hr : Runnable topology endNs share) (hc : Chain topology share w)
    (he : share[w.state.apps.length]? = some e) :
    ∃ w', startNextFlow topology w.state.apps.length { w with now := e.startTimeNs, agenda := [] } = .ok w' ∧
      Chain topology share w' ∧ w'.state.apps.length = w.state.apps.length + 1 := by
  have hmem := List.mem_of_getElem? he
  obtain ⟨n, remote, hn, hremote⟩ := hr.to_up e hmem
  have hlen : w.state.apps.length < share.length := (List.getElem?_eq_some_iff.1 he).1
  have hsched := hc.schedule
  have happ : ∀ (i : Nat) e' app, share[i]? = some e' → (w.state.apps ++ [appFor w.state e remote])[i]? = some app →
      AppOf topology e' app := by
    intro i e' app hi happ
    rw [List.getElem?_append] at happ
    split at happ
    · exact hc.apps i e' app hi happ
    · rename_i hge
      obtain rfl : i = w.state.apps.length := by
        by_contra hne
        rw [List.getElem?_eq_none (by simp; omega)] at happ
        cases happ
      rw [he] at hi
      cases hi
      simp only [Nat.sub_self, List.getElem?_cons_zero, Option.some.injEq] at happ
      subst happ
      exact appFor_appOf (hr.from_lt _ hmem) hn hremote (hr.size_lt _ hmem)
  have hstarted : w.state.started ++ [(e.startTimeNs, (w.state.apps.length : Int))] =
      (share.take (w.state.apps.length + 1)).zipIdx.map fun p => (p.1.startTimeNs, (p.2 : Int)) := by
    rw [List.take_add_one, he, hc.started]
    simp [List.zipIdx_append, Nat.min_eq_left hc.count]
  rw [startNextFlow_eq (by rw [hsched]; exact he) rfl (hr.from_lt e hmem) hn hremote (by rw [hsched]; exact hr.few)]
  simp only [hsched]
  cases hnext : share[w.state.apps.length + 1]? with
  | none =>
    refine ⟨_, rfl, ⟨rfl, ?_, ?_, happ, ?_, ?_⟩, by simp⟩
    · rw [List.length_append]; exact hlen
    · simpa using hstarted
    · simp [hnext]
    · simp [hnext]
  | some e' =>
    have hle : e.startTimeNs ≤ e'.startTimeNs := by
      obtain ⟨hl', rfl⟩ := List.getElem?_eq_some_iff.1 hnext
      obtain ⟨hl, rfl⟩ := List.getElem?_eq_some_iff.1 he
      have h := List.pairwise_iff_getElem.1 hr.ascending w.state.apps.length (w.state.apps.length + 1)
        (by simpa using hl) (by simpa using hl') (by omega)
      simpa using h
    have hlt := hr.start_lt e' (List.mem_of_getElem? hnext)
    simp only
    rw [schedule_eq (t := e'.startTimeNs) (by simp) hle (by omega)]
    refine ⟨_, rfl, ⟨rfl, ?_, ?_, happ, ?_, ?_⟩, by simp⟩
    · rw [List.length_append]; exact hlen
    · simpa using hstarted
    · simp [hnext, enqueue]
    · simpa [hnext] using hle

theorem accepted_runnable {l : List TcpFlowScheduleEntry} {endNs : Nat}
    (ha : Accepted TcpFlowScheduleEntry.header topology endNs l) (hsize : ∀ e ∈ l, e.sizeByte < 2 ^ 63)
    (hs : Startable b topology l) : Runnable topology endNs (tcpShare b l) where
  start_lt e he := ha.start_lt e (List.mem_of_mem_filter he)
  ascending := ha.ascending.sublist (List.filter_sublist.map _)
  size_lt e he := hsize e (List.mem_of_mem_filter he)
  from_lt := hs.from_lt
  to_up := hs.to_up
  few := hs.few

/-- The chain runs to its end before the simulation does. -/
theorem Chain.run {share : List TcpFlowScheduleEntry} {endNs : Nat} (hend : endNs < 2 ^ 63)
    (hr : Runnable topology endNs share) {w : Sim Int TcpFlowScheduler} (hc : Chain topology share w) {fuel : Nat}
    (hf : share.length - w.state.apps.length ≤ fuel) :
    ∃ w', runTcpFlows topology endNs fuel w = .ok w' ∧ Chain topology share w' ∧
      w'.state.apps.length = share.length := by
  have hstep : ∀ w p l, Chain topology share w → w.agenda = p :: l → p.time < endNs →
      ∃ w', startNextFlow topology p.event { w with now := p.time, agenda := l } = .ok w' ∧ Chain topology share w' ∧
        share.length - w'.state.apps.length < share.length - w.state.apps.length := by
    intro w p l hc hp _
    have hag := hc.agenda
    cases he : share[w.state.apps.length]? with
    | none =>
      rw [hp, he] at hag
      cases hag
    | some e =>
      rw [hp, he] at hag
      cases hag
      obtain ⟨w', h, hc', hl⟩ := hc.start hend hr he
      have hlen : w.state.apps.length < share.length := (List.getElem?_eq_some_iff.1 he).1
      exact ⟨w', h, hc', by omega⟩
  obtain ⟨w', hrun, hc', hdue⟩ := run_inv .diverges (startNextFlow topology) endNs _ _ hstep hc hf
  refine ⟨w', hrun, hc', ?_⟩
  -- a start that is left would be due, as every flow starts before the end
  by_contra hne
  have hcount := hc'.count
  have hlt : w'.state.apps.length < share.length := by omega
  have hag := hc'.agenda
  rw [List.getElem?_eq_getElem hlt] at hag
  simp only [due, hag, Option.map_some, Option.toList_some, decide_eq_false_iff_not] at hdue
  exact hdue (hr.start_lt _ (List.getElem_mem hlt))

/-! ## The constructor and the results -/

/-- The event that starts the first flow of a share. -/
def startOfFirst : List TcpFlowScheduleEntry → List (Pending Int)
  | [] => []
  | first :: _ => [⟨first.startTimeNs, 0⟩]

/-- The scheduler before its first start. -/
def preparedScheduler (b : BasicSimulation) (topology : Topology) (loggingIds : List Nat)
    (l : List TcpFlowScheduleEntry) : TcpFlowScheduler :=
  { simulationEndTimeNs := b.simulationEndTimeNs, enableLoggingForTcpFlowIds := loggingIds, schedule := tcpShare b l
    apps := [], sinks := topology.endpoints.filter fun e => b.owns e, started := [] }

/-- The constructor succeeds exactly if the flows to be logged are there and the nodes are assigned. -/
theorem prepareTcpFlows_ok {loggingIds : List Nat} {l : List TcpFlowScheduleEntry} {w : Sim Int TcpFlowScheduler}
    (hstart : ∀ e ∈ l, e.startTimeNs < 2 ^ 63) :
    prepareTcpFlows b topology loggingIds l = .ok w ↔ (∀ id ∈ loggingIds, id < l.length) ∧
      (b.distributedEnabled = true → (∀ e ∈ l, e.fromNodeId < b.distributedNodeSystemIdAssignment.length) ∧
        ∀ e ∈ topology.endpoints, e < b.distributedNodeSystemIdAssignment.length) ∧
      w = ⟨0, startOfFirst (tcpShare b l), preparedScheduler b topology loggingIds l⟩ := by
  have hshare : ∀ share, (if b.distributedEnabled then keepResponsible b TcpFlowScheduleEntry.fromNodeId l
      else .ok l) = .ok share ↔
      (b.distributedEnabled = true → ∀ e ∈ l, e.fromNodeId < b.distributedNodeSystemIdAssignment.length) ∧
        share = tcpShare b l := by
    intro share
    split
    · exact keepResponsible_ok
    · rename_i hd
      simp [tcpShare, BasicSimulation.owns, hd, eq_comm]
  have hfirst : (match tcpShare b l with
      | [] => .ok ⟨0, [], preparedScheduler b topology loggingIds l⟩
      | first :: _ => SatNet.schedule (first.startTimeNs : Int) 0 ⟨0, [], preparedScheduler b topology loggingIds l⟩ :
        Res (Sim Int TcpFlowScheduler)) =
      .ok ⟨0, startOfFirst (tcpShare b l), preparedScheduler b topology loggingIds l⟩ := by
    cases hs : tcpShare b l with
    | nil => rfl
    | cons first rest =>
      have hmem : first ∈ tcpShare b l := by rw [hs]; exact List.mem_cons_self ..
      exact schedule_eq (by simp) (Nat.zero_le _) (hstart first (List.mem_of_mem_filter hmem))
  unfold prepareTcpFlows
  rw [bind_eq_ok]
  simp only [bind_eq_ok, hshare, keepResponsible_ok, id_eq]
  constructor
  · rintro ⟨_, hids, _, ⟨hlt, rfl⟩, _, ⟨hend, rfl⟩, _, -, h⟩
    refine ⟨checkLoggingIds_ok.1 hids, fun hd => ⟨hlt hd, hend hd⟩, ?_⟩
    exact (Except.ok.inj (hfirst.symm.trans h)).symm
  · rintro ⟨hids, hlt, rfl⟩
    exact ⟨(), checkLoggingIds_ok.2 hids, _, ⟨fun hd => (hlt hd).1, rfl⟩, _, ⟨fun hd => (hlt hd).2, rfl⟩, (),
      installOnEndpoints topology _, hfirst⟩

theorem prepareTcpFlows_chain {loggingIds : List Nat} {l : List TcpFlowScheduleEntry}
    (hassign : b.distributedEnabled = true →
      b.distributedNodeSystemIdAssignment.length = topology.nodes.length)
    (hstart : ∀ e ∈ l, e.startTimeNs < 2 ^ 63) (hids : ∀ id ∈ loggingIds, id < l.length)
    (hs : Startable b topology l) :
    ∃ w, prepareTcpFlows b topology loggingIds l = .ok w ∧ Chain topology (tcpShare b l) w ∧ w.state.apps = [] := by
  refine ⟨_, (prepareTcpFlows_ok hstart).2 ⟨hids, fun hd => ?_, rfl⟩, ?_, rfl⟩
  · rw [hassign hd]
    exact ⟨hs.assigned hd, topology.endpoints_lt⟩
  · refine ⟨rfl, Nat.zero_le _, by simp [preparedScheduler], by simp [preparedScheduler], ?_, by simp⟩
    cases h : tcpShare b l <;> simp [preparedScheduler, startOfFirst]

theorem getAckedBytes_error {flow : Flow} {f : Fail} (h : getAckedBytes flow = .error f) : f = nullPointer := by
  unfold getAckedBytes at h
  split at h
  · cases h
  · split at h
    · cases h
    · cases h; rfl

theorem flowRow_error {endNs : Nat} {e : TcpFlowScheduleEntry} {a : FlowAttributes} {flow : Flow} {f : Fail}
    (h : flowRow endNs e a flow = .error f) : f = nullPointer := by
  unfold flowRow finalizeDetailedLogs at h
  cases hl : insertProgressLog a flow with
  | error f' =>
    rw [hl] at h
    cases h
    unfold insertProgressLog at hl
    split at hl
    · cases hg : getAckedBytes flow with
      | error f' =>
        rw [hg] at hl
        cases hl
        exact getAckedBytes_error hg
      | ok n => rw [hg] at hl; cases hl
    · cases hl
  | ok flow' =>
    rw [hl, ok_bind] at h
    cases hg : getAckedBytes flow' with
    | error f' =>
      rw [hg] at h
      cases h
      exact getAckedBytes_error hg
    | ok n => rw [hg] at h; cases h

/-- With as many applications as entries, the lookup of an application never throws. -/
theorem writeTcpResults_lookup {s : TcpFlowScheduler} (hl : s.apps.length = s.schedule.length)
    (hfew : s.schedule.length < 2 ^ 31) (flowOf : Nat → Flow) : writeTcpResults s flowOf ≠ .error rangeCheck := by
  have hnull : nullPointer ≠ rangeCheck := by simp [nullPointer, rangeCheck]
  suffices h : ∀ (l : List TcpFlowScheduleEntry) (k : Nat) (rows : List FlowRow), k + l.length = s.apps.length →
      forEach (fun (st : Nat × List FlowRow) entry => do
        let app ← s.appAt st.1
        let row ← flowRow s.simulationEndTimeNs entry app.attributes (flowOf st.1)
        .ok (toUInt32 (st.1 + 1 : Nat), st.2 ++ [row])) l (k, rows) ≠ .error rangeCheck by
    intro hw
    unfold writeTcpResults at hw
    cases hloop : forEach (fun (st : Nat × List FlowRow) entry => do
        let app ← s.appAt st.1
        let row ← flowRow s.simulationEndTimeNs entry app.attributes (flowOf st.1)
        .ok (toUInt32 (st.1 + 1 : Nat), st.2 ++ [row])) s.schedule (0, []) with
    | error f =>
      rw [hloop] at hw
      cases hw
      exact h s.schedule 0 [] (by omega) hloop
    | ok st => rw [hloop] at hw; cases hw
  intro l
  induction l with
  | nil => simp [forEach]
  | cons e l ih =>
    intro k rows hk
    have hlt : k < s.apps.length := by rw [← hk]; simp
    have happ : s.appAt k = .ok s.apps[k] := by
      unfold TcpFlowScheduler.appAt
      rw [List.getElem?_eq_getElem hlt]
    unfold forEach
    simp only [happ, ok_bind]
    cases hrow : flowRow s.simulationEndTimeNs e s.apps[k].attributes (flowOf k) with
    | error f =>
      rw [error_bind, error_bind, flowRow_error hrow]
      simpa using hnull
    | ok row =>
      rw [ok_bind, ok_bind, toUInt32_eq (by omega)]
      exact ih (k + 1) _ (by simp only [List.length_cons] at hk; omega)

/-! ## The flows start as they should, exactly if they can -/

/-- The run of this system: its constructor, and the events until the end of the simulation. -/
def StartsFlows (b : BasicSimulation) (topology : Topology) (loggingIds : List Nat)
    (l : List TcpFlowScheduleEntry) : Prop :=
  ∃ w₀ fuel w, prepareTcpFlows b topology loggingIds l = .ok w₀ ∧
    runTcpFlows topology b.simulationEndTimeNs fuel w₀ = .ok w ∧ Started topology (tcpShare b l) w.state

/-- The next start counts the flows that were started, and an `int` does. -/
structure CountedStarts (w : Sim Int TcpFlowScheduler) : Prop where
  few : w.state.apps.length < 2 ^ 31
  next : w.agenda = [] ∨ ∃ t, w.agenda = [⟨t, w.state.apps.length⟩]

theorem CountedStarts.start {w w' : Sim Int TcpFlowScheduler} {p : Pending Int} {l : List (Pending Int)}
    (hc : CountedStarts w)
    (hw : w.agenda = p :: l) (h : startNextFlow topology p.event { w with now := p.time, agenda := l } = .ok w') :
    CountedStarts w' := by
  obtain ⟨-, hnext⟩ := hc
  rw [hw] at hnext
  rcases hnext with hnext | ⟨t, hnext⟩
  · cases hnext
  · cases hnext
    obtain ⟨hi, ⟨app, happ⟩, hag⟩ := startNextFlow_ok h
    have hlen : (w'.state.apps.length : Int) = w.state.apps.length + 1 := by
      rw [happ]
      simp
    simp only at hi
    refine ⟨by omega, ?_⟩
    rw [hlen]
    rcases hag with hag | ⟨t, hag⟩
    · exact .inl hag
    · exact .inr ⟨t, hag⟩

/-- However a run goes, an `int` counts the flows it starts. -/
theorem runTcpFlows_few {endNs fuel : Nat} {w w' : Sim Int TcpFlowScheduler} (hc : CountedStarts w)
    (h : runTcpFlows topology endNs fuel w = .ok w') : w'.state.apps.length < 2 ^ 31 :=
  (run_keeps Fail.diverges (startNextFlow topology) endNs CountedStarts (fun _ _ _ _ hc hw _ h => hc.start hw h) hc h).1.few

/-- For every schedule that is read, in every system: the flows of its share start once each, in order and
at their times, and stand in the order of the schedule, exactly if they can. -/
theorem startsFlows_iff {filename : Str} {file : File} {loggingIds : List Nat} {l : List TcpFlowScheduleEntry}
    (hassign : b.distributedEnabled = true → b.distributedNodeSystemIdAssignment.length = topology.nodes.length)
    (hread : readTcpFlowSchedule filename file topology b.simulationEndTimeNs = .ok l)
    (hids : ∀ id ∈ loggingIds, id < l.length) :
    StartsFlows b topology loggingIds l ↔ Startable b topology l := by
  obtain ⟨hacc, hsize⟩ := readTcpFlowSchedule_ok hread
  have hstart : ∀ e ∈ l, e.startTimeNs < 2 ^ 63 := fun e he =>
    Nat.lt_trans (hacc.start_lt e he) b.simulationEndTimeNs_lt
  constructor
  · rintro ⟨w₀, fuel, w, hprep, hrun, hst⟩
    obtain ⟨-, hall, rfl⟩ := (prepareTcpFlows_ok hstart).1 hprep
    have hfew := runTcpFlows_few ⟨by simp [preparedScheduler], by
      cases tcpShare b l <;> simp [preparedScheduler, startOfFirst]⟩ hrun
    have happ : ∀ e ∈ tcpShare b l, ∃ app, AppOf topology e app := by
      intro e he
      obtain ⟨i, hi, rfl⟩ := List.getElem_of_mem he
      have hi' : i < w.state.apps.length := by rw [hst.apps_length]; exact hi
      exact ⟨_, hst.apps i _ _ (List.getElem?_eq_getElem hi) (List.getElem?_eq_getElem hi')⟩
    refine ⟨fun hd e he => ?_, fun e he => ?_, fun e he => ?_, by rw [← hst.apps_length]; exact hfew⟩
    · rw [← hassign hd]
      exact (hall hd).1 e he
    · obtain ⟨app, ha⟩ := happ e he
      exact ha.from_lt
    · obtain ⟨app, ha⟩ := happ e he
      obtain ⟨n, hn, hr⟩ := ha.remote
      exact ⟨n, app.remote, hn, hr⟩
  · intro hs
    have hr := accepted_runnable hacc hsize hs
    obtain ⟨w₀, hprep, hc, -⟩ := prepareTcpFlows_chain hassign hstart hids hs
    have hfuel : (tcpShare b l).length - w₀.state.apps.length ≤ (tcpShare b l).length := Nat.sub_le ..
    obtain ⟨w, hrun, hc', hlen⟩ := hc.run b.simulationEndTimeNs_lt hr hfuel
    refine ⟨w₀, _, w, hprep, hrun, hc'.schedule, ?_, hlen, hc'.apps, ?_⟩
    · rw [hc'.started, hlen, List.take_length]
    · exact writeTcpResults_lookup (by rw [hc'.schedule]; exact hlen) (by rw [hc'.schedule]; exact hs.few)

/-- Two flows that start at once, one each way. -/
def bothWays : List TcpFlowScheduleEntry :=
  [⟨0, 0, 1, 100, 5, [], []⟩, ⟨1, 1, 0, 0, 5, [], []⟩]

theorem startsFlows_iff_bothWays : StartsFlows pairSimulation (pair false).topology [1] bothWays := by
  have hread : readTcpFlowSchedule [] (.lines ["0,0,1,100,5,,".toList, "1,1,0,0,5,,".toList]) (pair false).topology
      pairSimulation.simulationEndTimeNs = .ok bothWays := by decide +kernel
  refine (startsFlows_iff (fun h => Bool.noConfusion h) hread (by decide)).2 ?_
  refine ⟨fun h => Bool.noConfusion h, by decide, fun e he => ?_, by decide⟩
  have he' : e ∈ bothWays := List.mem_of_mem_filter he
  simp only [bothWays, List.mem_cons, List.not_mem_nil, or_false] at he'
  rcases he' with rfl | rfl
  · exact ⟨_, _, rfl, rfl⟩
  · exact ⟨_, _, rfl, rfl⟩

/-- Where all nodes are endpoints, the reader accepts a flow to a node that is not there. -/
theorem startsFlows_counterexample :
    readTcpFlowSchedule [] (.lines ["0,0,2,100,5,,".toList]) (pair true).topology 1000000000 =
        .ok [⟨0, 0, 2, 100, 5, [], []⟩] ∧
      ¬ StartsFlows pairSimulation (pair true).topology [] [⟨0, 0, 2, 100, 5, [], []⟩] := by
  refine ⟨by decide +kernel, ?_⟩
  rintro ⟨w₀, fuel, w, -, -, hst⟩
  have hlen : w.state.apps.length = 1 := hst.apps_length
  obtain ⟨n, hn, -⟩ := (hst.apps 0 _ _ rfl (List.getElem?_eq_getElem (by omega))).remote
  cases hn

end SatNet.Apps
