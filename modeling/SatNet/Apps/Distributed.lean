/-
What the systems of a distributed run of `main_full.cc` handle: the link trackers and the traffic of the three
schedulers are divided among them, and together they make up those of the run that is not distributed.
-/
import SatNet.Apps.LinkTrackers
import SatNet.Apps.Pingmesh
import SatNet.Apps.Systems
import SatNet.Apps.TcpFlowStarts
import SatNet.Apps.UdpBurstSchedule
import SatNet.Ptop.Links

namespace SatNet.Apps

open SatNet.ExpUtil SatNet.Loop SatNet.Events SatNet.Partition

variable {ρ : Type}

/-! ## The set-up of a system -/

structure Setup (ρ : Type) where
  trackers : Option (LinkTrackers End)
  tcp : Option (Sim Int TcpFlowScheduler)
  bursts : Option (UdpBurstScheduler ρ)
  pings : Option PingmeshScheduler

/-- The trackers and schedulers, in the order of `main_full.cc`; the links are set up with the topology. -/
def setup (rates : RateReader ρ) (b : BasicSimulation) (p : PtopNetwork) : Res (Setup ρ) := do
  let net ← Ptop.setupLinks p.graph
  let trackers ← linkUtilizationTrackers b p.graph net.channels
  let tcp ← tcpFlowScheduler b p.topology
  let bursts ← udpBurstScheduler rates b p.topology
  let pings ← pingmeshScheduler b p.topology
  .ok { trackers, tcp, bursts, pings }

/-! ### What it handles -/

def Setup.links (s : Setup ρ) : List ((Nat × Nat) × End) := s.trackers.elim [] fun t => t.trackers

def Setup.tcpFlows (s : Setup ρ) : List TcpFlowScheduleEntry := s.tcp.elim [] fun w => w.state.schedule

def Setup.outgoingBursts (s : Setup ρ) : List (UdpBurstInfo ρ) :=
  (s.bursts.elim [] fun u => u.responsibleForOutgoingBursts).map Prod.fst

def Setup.incomingBursts (s : Setup ρ) : List (UdpBurstInfo ρ) :=
  (s.bursts.elim [] fun u => u.responsibleForIncomingBursts).map Prod.fst

def Setup.pingPairs (s : Setup ρ) : List (Nat × Nat) := s.pings.elim [] fun m => m.pingmeshEndpointPairs

/-- The ping pairs with the start offsets of their clients. -/
def PingmeshScheduler.starts (m : PingmeshScheduler) : List ((Nat × Nat) × Int) :=
  m.pingmeshEndpointPairs.zip (m.apps.map fun app => app.startNs)

def Setup.pingStarts (s : Setup ρ) : List ((Nat × Nat) × Int) := s.pings.elim [] PingmeshScheduler.starts

/-! ### What there is to handle -/

/-- The directed links of the topology, where they are tracked. -/
def trackedLinks (b : BasicSimulation) (t : Ptop.TopologyPtop) : Res (List (Nat × Nat)) := do
  let enabled ← parseBoolean (getParamOrDefault "enable_link_utilization_tracking" "false" b.config)
  .ok (if enabled then t.undirectedEdges.flatMap fun e => [e, (e.2, e.1)] else [])

/-- The schedule of a scheduler that may not be enabled, from its file. -/
def specifiedSchedule {α : Type} (enableKey filenameKey : String) (read : Str → File → Res (List α))
    (b : BasicSimulation) : Res (List α) := do
  let enabled ← parseBoolean (getParamOrDefault enableKey "false" b.config)
  if !enabled then .ok []
  else do
    let filename ← getParamOrFail filenameKey b.config
    read (b.path filename) (b.file (b.path filename))

def specifiedTcpFlows (b : BasicSimulation) (topology : Topology) : Res (List TcpFlowScheduleEntry) :=
  specifiedSchedule "enable_tcp_flow_scheduler" "tcp_flow_schedule_filename"
    (fun filename file => readTcpFlowSchedule filename file topology b.simulationEndTimeNs) b

def specifiedBursts (rates : RateReader ρ) (b : BasicSimulation) (topology : Topology) : Res (List (UdpBurstInfo ρ)) :=
  specifiedSchedule "enable_udp_burst_scheduler" "udp_burst_schedule_filename"
    (fun filename file => readUdpBurstSchedule rates filename file topology b.simulationEndTimeNs) b

def specifiedPings (b : BasicSimulation) (topology : Topology) : Res (List (Nat × Nat)) := do
  let enabled ← parseBoolean (getParamOrDefault "enable_pingmesh_scheduler" "false" b.config)
  if !enabled then .ok []
  else specifiedPairs topology (getParamOrDefault "pingmesh_endpoint_pairs" "all" b.config)

/-- The work that a configuration names. -/
structure Traffic (ρ : Type) where
  links : List (Nat × Nat)
  tcpFlows : List TcpFlowScheduleEntry
  bursts : List (UdpBurstInfo ρ)
  pingPairs : List (Nat × Nat)

def readTraffic (rates : RateReader ρ) (b : BasicSimulation) (p : PtopNetwork) : Res (Traffic ρ) := do
  let links ← trackedLinks b p.graph
  let tcpFlows ← specifiedTcpFlows b p.topology
  let bursts ← specifiedBursts rates b p.topology
  let pingPairs ← specifiedPings b p.topology
  .ok { links, tcpFlows, bursts, pingPairs }

/-- Everything is handled by exactly one of the systems, and together they handle what the whole run does, every
ping pair with the same start offset. -/
structure DividesWork (systemsCount : Nat) (traffic : Traffic ρ) (whole : Setup ρ) (part : Nat → Setup ρ) : Prop where
  links_once : Once systemsCount traffic.links fun i => (part i).links.map Prod.fst
  links_union : (union systemsCount fun i => (part i).links).Perm whole.links
  tcpFlows_once : Once systemsCount traffic.tcpFlows fun i => (part i).tcpFlows
  tcpFlows_union : (union systemsCount fun i => (part i).tcpFlows).Perm whole.tcpFlows
  outgoing_once : Once systemsCount traffic.bursts fun i => (part i).outgoingBursts
  outgoing_union : (union systemsCount fun i => (part i).outgoingBursts).Perm whole.outgoingBursts
  incoming_once : Once systemsCount traffic.bursts fun i => (part i).incomingBursts
  incoming_union : (union systemsCount fun i => (part i).incomingBursts).Perm whole.incomingBursts
  pings_once : Once systemsCount traffic.pingPairs fun i => (part i).pingPairs
  pings_union : (union systemsCount fun i => (part i).pingPairs).Perm whole.pingPairs
  starts_pairs : ∀ i < systemsCount, (part i).pingStarts.map Prod.fst = (part i).pingPairs
  starts_union : (union systemsCount fun i => (part i).pingStarts).Perm whole.pingStarts

/-- The schedules name nodes where a system is looked up or an application is looked for. -/
structure NamesNodes (numNodes : Nat) (traffic : Traffic ρ) : Prop where
  tcpFlows : ∀ e ∈ traffic.tcpFlows, e.fromNodeId < numNodes
  bursts : ∀ e ∈ traffic.bursts, e.fromNodeId < numNodes ∧ e.toNodeId < numNodes
  pings : ∀ q ∈ traffic.pingPairs, q.1 < numNodes

/-! ## The share of a system -/

variable {p : PtopNetwork} {b : BasicSimulation}

theorem owns_whole (hb : b.distributedEnabled = false) (x : Nat) : b.owns x = true := by
  simp [BasicSimulation.owns, hb]

theorem filter_whole {α : Type} (hb : b.distributedEnabled = false) (key : α → Nat) (l : List α) :
    l.filter (fun x => b.owns (key x)) = l :=
  List.filter_eq_self.2 fun x _ => owns_whole hb (key x)

theorem Distribution.endpoints_lt (d : Distribution p) : ∀ e ∈ p.topology.endpoints, e < d.assignment.length := by
  rw [d.assigned]
  exact Ptop.getEndpoints_lt p.parsed p.allNodesAreEndpoints

/-- What a constructor leaves that may not be enabled. -/
theorem enabled_cases {α : Type} {enabled : Res Bool} {x : Res α} {none' r : α} :
    (do let on ← enabled; if !on then .ok none' else x) = .ok r ↔
      enabled = .ok false ∧ r = none' ∨ enabled = .ok true ∧ x = .ok r := by
  rw [bind_eq_ok]
  constructor
  · rintro ⟨on, hon, h⟩
    cases on with
    | false =>
      cases h
      exact .inl ⟨hon, rfl⟩
    | true => exact .inr ⟨hon, h⟩
  · rintro (⟨hon, rfl⟩ | ⟨hon, h⟩)
    · exact ⟨false, hon, rfl⟩
    · exact ⟨true, hon, h⟩

/-! ### Links -/

theorem directedLinks_fst {δ : Type} : ∀ (edges : List (Nat × Nat)) (devices : List (δ × δ)),
    edges.length ≤ devices.length →
      (directedLinks edges devices).map Prod.fst = edges.flatMap fun e => [e, (e.2, e.1)]
  | [], _, _ => rfl
  | _ :: _, [], h => absurd h (by simp)
  | e :: edges, x :: devices, h => by
    have ih := directedLinks_fst edges devices (by simpa using h)
    simpa [directedLinks] using ih

theorem linkUtilizationTrackers_ok {δ : Type} {graph : Ptop.TopologyPtop} {devices : List (δ × δ)}
    {r : Option (LinkTrackers δ)} :
    linkUtilizationTrackers b graph devices = .ok r ↔
      parseBoolean (getParamOrDefault "enable_link_utilization_tracking" "false" b.config) = .ok false ∧ r = none ∨
      parseBoolean (getParamOrDefault "enable_link_utilization_tracking" "false" b.config) = .ok true ∧
        ∃ interval, getParamOrFail "link_utilization_tracking_interval_ns" b.config >>= parseGeqOneInt64 =
            .ok interval ∧
          ∃ trackers, forRange graph.numUndirectedEdges (trackEdge b graph.undirectedEdges devices) [] =
              .ok trackers ∧ some ⟨interval, trackers⟩ = r := by
  unfold linkUtilizationTrackers
  rw [enabled_cases]
  simp only [bind_eq_ok, Except.ok.injEq]

theorem linkUtilizationTrackers_share {δ : Type} {devices : List (δ × δ)} {links : List (Nat × Nat)}
    {whole : Option (LinkTrackers δ)} (d : Distribution p) (hb : b.distributedEnabled = false)
    (ht : trackedLinks b p.graph = .ok links) (hw : linkUtilizationTrackers b p.graph devices = .ok whole) :
    (whole.elim [] fun t => t.trackers).map Prod.fst = links ∧
      (∀ x ∈ whole.elim [] (fun t => t.trackers), x.1.1 < p.graph.numNodes) ∧
      ∀ i, ∃ part, linkUtilizationTrackers (d.system b i) p.graph devices = .ok part ∧
        part.elim [] (fun t => t.trackers) =
          (whole.elim [] fun t => t.trackers).filter fun x => (d.system b i).owns x.1.1 := by
  have hacc := Ptop.parseTopologyGraph_accepted p.parsed
  unfold trackedLinks at ht
  rcases linkUtilizationTrackers_ok.1 hw with ⟨hon, rfl⟩ | ⟨hon, interval, hint, trackers, htr, rfl⟩
  · rw [hon] at ht
    cases ht
    exact ⟨rfl, by simp, fun i => ⟨none, linkUtilizationTrackers_ok.2 (.inl ⟨hon, rfl⟩), rfl⟩⟩
  · rw [hon] at ht
    cases ht
    obtain ⟨-, hdev, hn, -, rfl⟩ := trackEdges_ok.1 htr
    rw [← hacc.length] at hdev hn
    simp only [← hacc.length, List.take_length, Option.elim, filter_whole hb fun x : (Nat × Nat) × δ => x.1.1]
    have hall := directedLinks_fst p.graph.undirectedEdges
      (devices.take p.graph.undirectedEdges.length) (by rw [List.length_take]; omega)
    refine ⟨hall, fun x hx => ?_, fun i => ⟨_, linkUtilizationTrackers_ok.2 (.inr ⟨hon, interval, hint, _,
      trackEdges_ok.2 ⟨by rw [hacc.length], by rw [← hacc.length]; exact hdev, by rw [← hacc.length]; exact hn,
        fun _ e he => ?_, rfl⟩, rfl⟩), by simp [← hacc.length]⟩⟩
    · have hmem := List.mem_map_of_mem (f := Prod.fst) hx
      rw [hall, List.mem_flatMap] at hmem
      obtain ⟨e, he, hmem⟩ := hmem
      obtain ⟨h₁, h₂⟩ := hacc.edge e he
      rcases List.mem_pair.1 hmem with h | h
      · rw [h]
        omega
      · rw [h]
        exact h₂
    · have hedge := hacc.edge e (List.mem_of_mem_take he)
      change e.1 < d.assignment.length ∧ e.2 < d.assignment.length
      rw [d.assigned]
      omega

/-! ### TCP flows -/

theorem specifiedSchedule_ok {α : Type} {enableKey filenameKey : String} {read : Str → File → Res (List α)}
    {l : List α} :
    specifiedSchedule enableKey filenameKey read b = .ok l ↔
      parseBoolean (getParamOrDefault enableKey "false" b.config) = .ok false ∧ l = [] ∨
      parseBoolean (getParamOrDefault enableKey "false" b.config) = .ok true ∧
        ∃ filename, getParamOrFail filenameKey b.config = .ok filename ∧
          read (b.path filename) (b.file (b.path filename)) = .ok l := by
  unfold specifiedSchedule
  rw [enabled_cases, bind_eq_ok]

theorem tcpFlowScheduler_ok {topology : Topology} {r : Option (Sim Int TcpFlowScheduler)} :
    tcpFlowScheduler b topology = .ok r ↔
      parseBoolean (getParamOrDefault "enable_tcp_flow_scheduler" "false" b.config) = .ok false ∧ r = none ∨
      parseBoolean (getParamOrDefault "enable_tcp_flow_scheduler" "false" b.config) = .ok true ∧
        ∃ ids, parseSetPositiveInt64
            (getParamOrDefault "tcp_flow_enable_logging_for_tcp_flow_ids" "set()" b.config) = .ok ids ∧
          ∃ filename, getParamOrFail "tcp_flow_schedule_filename" b.config = .ok filename ∧
            ∃ l, readTcpFlowSchedule (b.path filename) (b.file (b.path filename)) topology b.simulationEndTimeNs =
                .ok l ∧
              ∃ w, prepareTcpFlows b topology ids l = .ok w ∧ some w = r := by
  unfold tcpFlowScheduler
  rw [enabled_cases]
  simp only [bind_eq_ok, Except.ok.injEq]

theorem tcpFlowScheduler_share {l : List TcpFlowScheduleEntry} {whole : Option (Sim Int TcpFlowScheduler)}
    (d : Distribution p) (hb : b.distributedEnabled = false) (ht : specifiedTcpFlows b p.topology = .ok l)
    (hw : tcpFlowScheduler b p.topology = .ok whole) :
    (whole.elim [] fun w => w.state.schedule) = l ∧
      ∀ i, (∀ part, tcpFlowScheduler (d.system b i) p.topology = .ok part →
          ∀ e ∈ l, e.fromNodeId < p.graph.numNodes) ∧
        ((∀ e ∈ l, e.fromNodeId < p.graph.numNodes) →
          ∃ part, tcpFlowScheduler (d.system b i) p.topology = .ok part ∧
            (part.elim [] fun w => w.state.schedule) = l.filter fun e => (d.system b i).owns e.fromNodeId) := by
  rcases tcpFlowScheduler_ok.1 hw with ⟨hon, rfl⟩ | ⟨hon, ids, hids, filename, hname, l', hread, w, hprep, rfl⟩
  · obtain ⟨-, rfl⟩ := (specifiedSchedule_ok.1 ht).resolve_right fun h => by rw [hon] at h; cases h.1
    exact ⟨rfl, fun i => ⟨fun _ _ => by simp, fun _ => ⟨none, tcpFlowScheduler_ok.2 (.inl ⟨hon, rfl⟩), rfl⟩⟩⟩
  · obtain ⟨-, filename', hname', hread'⟩ := (specifiedSchedule_ok.1 ht).resolve_left fun h => by rw [hon] at h; cases h.1
    obtain rfl := Except.ok.inj (hname.symm.trans hname')
    obtain rfl := Except.ok.inj (hread.symm.trans hread')
    have hstart : ∀ e ∈ l', e.startTimeNs < 2 ^ 63 := fun e he =>
      Nat.lt_trans ((readTcpFlowSchedule_ok hread).1.start_lt e he) b.simulationEndTimeNs_lt
    obtain ⟨hlog, -, rfl⟩ := (prepareTcpFlows_ok hstart).1 hprep
    refine ⟨filter_whole hb TcpFlowScheduleEntry.fromNodeId l', fun i => ⟨fun part hpart => ?_, fun hlt => ?_⟩⟩
    · rcases tcpFlowScheduler_ok.1 hpart with ⟨hoff, -⟩ | ⟨-, ids', -, filename', hname', l, hl, w, hw, -⟩
      · cases hon.symm.trans hoff
      · obtain rfl := Except.ok.inj (hname.symm.trans hname')
        obtain rfl := Except.ok.inj (hread.symm.trans hl)
        rw [← d.assigned]
        exact (((prepareTcpFlows_ok hstart).1 hw).2.1 rfl).1
    · rw [← d.assigned] at hlt
      exact ⟨_, tcpFlowScheduler_ok.2 (.inr ⟨hon, ids, hids, filename, hname, l', hread, _,
        (prepareTcpFlows_ok hstart).2 ⟨hlog, fun _ => ⟨hlt, d.endpoints_lt⟩, rfl⟩, rfl⟩), rfl⟩

/-! ### UDP bursts -/

theorem udpBurstScheduler_ok {rates : RateReader ρ} {topology : Topology} {r : Option (UdpBurstScheduler ρ)} :
    udpBurstScheduler rates b topology = .ok r ↔
      parseBoolean (getParamOrDefault "enable_udp_burst_scheduler" "false" b.config) = .ok false ∧ r = none ∨
      parseBoolean (getParamOrDefault "enable_udp_burst_scheduler" "false" b.config) = .ok true ∧
        ∃ ids, parseSetPositiveInt64
            (getParamOrDefault "udp_burst_enable_logging_for_udp_burst_ids" "set()" b.config) = .ok ids ∧
          ∃ filename, getParamOrFail "udp_burst_schedule_filename" b.config = .ok filename ∧
            ∃ l, readUdpBurstSchedule rates (b.path filename) (b.file (b.path filename)) topology
                b.simulationEndTimeNs = .ok l ∧
              ∃ s, prepareUdpBursts b topology ids l = .ok s ∧ some s = r := by
  unfold udpBurstScheduler
  rw [enabled_cases]
  simp only [bind_eq_ok, Except.ok.injEq]

/-- The bursts of the applications on some nodes, where each application has those with its node as key. -/
theorem mem_responsible {l : List (UdpBurstInfo ρ)} (key : UdpBurstInfo ρ → Nat)
    (bursts : UdpBurstApplication ρ → List (UdpBurstInfo ρ)) {nodes : List Nat}
    {apps : List (Nat × UdpBurstApplication ρ)}
    (h : List.Forall₂ (fun e q => q.1 = e ∧ bursts q.2 = l.filter fun x => key x = e) nodes apps)
    (x : UdpBurstInfo ρ × Nat) :
    x ∈ apps.flatMap (fun q => (bursts q.2).map fun e => (e, q.1)) ↔ x.1 ∈ l ∧ x.2 = key x.1 ∧ x.2 ∈ nodes := by
  simp only [List.mem_flatMap, List.mem_map]
  constructor
  · rintro ⟨q, hq, e, he, rfl⟩
    obtain ⟨n, hn, rfl, hbursts⟩ := forall₂_mem_right h q hq
    rw [hbursts, List.mem_filter] at he
    exact ⟨he.1, (of_decide_eq_true he.2).symm, hn⟩
  · rintro ⟨hl, hkey, hn⟩
    obtain ⟨q, hq, hq₁, hbursts⟩ := forall₂_mem_left h x.2 hn
    refine ⟨q, hq, x.1, ?_, by rw [hq₁]⟩
    rw [hbursts, List.mem_filter]
    exact ⟨hl, decide_eq_true hkey.symm⟩

/-- What a scheduler is responsible for: the bursts of the schedule at the endpoints of its system. -/
theorem prepareUdpBursts_responsible {topology : Topology} {ids : List Nat} {l : List (UdpBurstInfo ρ)}
    {s : UdpBurstScheduler ρ} (h : prepareUdpBursts b topology ids l = .ok s) :
    (∀ x, x ∈ s.responsibleForOutgoingBursts ↔
      x.1 ∈ l ∧ x.2 = x.1.fromNodeId ∧ x.2 ∈ topology.endpoints.filter fun e => b.owns e) ∧
    ∀ x, x ∈ s.responsibleForIncomingBursts ↔
      x.1 ∈ l ∧ x.2 = x.1.toNodeId ∧ x.2 ∈ topology.endpoints.filter fun e => b.owns e := by
  obtain ⟨-, -, apps, happs, rfl⟩ := prepareUdpBursts_ok.1 h
  have hout := mem_responsible (fun e => e.fromNodeId) (fun app => app.outgoingBursts.map Prod.fst)
    (happs.imp fun e q hq => ⟨hq.1, (installBurstApp_holds hq.2).outgoing⟩)
  have hin := mem_responsible (fun e => e.toNodeId) (fun app => app.incomingBursts)
    (happs.imp fun e q hq => ⟨hq.1, (installBurstApp_holds hq.2).incoming⟩)
  simp only [List.map_map, Function.comp_def] at hout
  exact ⟨hout, hin⟩

theorem udpBurstScheduler_share {rates : RateReader ρ} {l : List (UdpBurstInfo ρ)}
    {whole : Option (UdpBurstScheduler ρ)} (d : Distribution p) (hb : b.distributedEnabled = false)
    (ht : specifiedBursts rates b p.topology = .ok l) (hw : udpBurstScheduler rates b p.topology = .ok whole) :
    (∀ x, x ∈ whole.elim [] (fun u => u.responsibleForOutgoingBursts) ↔
      x.1 ∈ l ∧ x.2 = x.1.fromNodeId ∧ x.2 ∈ p.topology.endpoints) ∧
    (∀ x, x ∈ whole.elim [] (fun u => u.responsibleForIncomingBursts) ↔
      x.1 ∈ l ∧ x.2 = x.1.toNodeId ∧ x.2 ∈ p.topology.endpoints) ∧
    ∀ i, ∃ part, udpBurstScheduler rates (d.system b i) p.topology = .ok part ∧
      (part.elim [] fun u => u.responsibleForOutgoingBursts) =
        (whole.elim [] fun u => u.responsibleForOutgoingBursts).filter (fun x => (d.system b i).owns x.2) ∧
      (part.elim [] fun u => u.responsibleForIncomingBursts) =
        (whole.elim [] fun u => u.responsibleForIncomingBursts).filter fun x => (d.system b i).owns x.2 := by
  rcases udpBurstScheduler_ok.1 hw with ⟨hon, rfl⟩ | ⟨hon, ids, hids, filename, hname, l', hread, s, hprep, rfl⟩
  · obtain ⟨-, rfl⟩ := (specifiedSchedule_ok.1 ht).resolve_right fun h => by rw [hon] at h; cases h.1
    exact ⟨by simp, by simp, fun i => ⟨none, udpBurstScheduler_ok.2 (.inl ⟨hon, rfl⟩), rfl, rfl⟩⟩
  · obtain ⟨-, filename', hname', hread'⟩ := (specifiedSchedule_ok.1 ht).resolve_left fun h => by
      rw [hon] at h; cases h.1
    obtain rfl := Except.ok.inj (hname.symm.trans hname')
    obtain rfl := Except.ok.inj (hread.symm.trans hread')
    have hall : p.topology.endpoints.filter (fun e => b.owns e) = p.topology.endpoints := filter_whole hb id _
    obtain ⟨hout, hin⟩ := prepareUdpBursts_responsible hprep
    rw [hall] at hout hin
    obtain ⟨hlog, -, apps, happs, rfl⟩ := prepareUdpBursts_ok.1 hprep
    rw [hall] at happs
    refine ⟨hout, hin, fun i => ?_⟩
    have hpart : List.Forall₂ (fun e q => q.1 = e ∧ installBurstApp p.topology ids l' e = .ok q.2)
        (p.topology.endpoints.filter fun e => (d.system b i).owns e)
        (apps.filter fun q => (d.system b i).owns q.1) :=
      List.rel_filter (fun e q hq => by simp only [hq.1]) happs
    refine ⟨_, udpBurstScheduler_ok.2 (.inr ⟨hon, ids, hids, filename, hname, l', hread, _,
      prepareUdpBursts_ok.2 ⟨hlog, fun _ => d.endpoints_lt, _, hpart, rfl⟩, rfl⟩), ?_, ?_⟩
    · refine (flatMap_filter _ _ _ (fun q x hx => ?_) apps).symm
      obtain ⟨o, -, rfl⟩ := List.mem_map.1 hx
      rfl
    · refine (flatMap_filter _ _ _ (fun q x hx => ?_) apps).symm
      obtain ⟨info, -, rfl⟩ := List.mem_map.1 hx
      rfl

/-! ### Pings -/

theorem pingmeshScheduler_ok {topology : Topology} {r : Option PingmeshScheduler} :
    pingmeshScheduler b topology = .ok r ↔
      parseBoolean (getParamOrDefault "enable_pingmesh_scheduler" "false" b.config) = .ok false ∧ r = none ∨
      parseBoolean (getParamOrDefault "enable_pingmesh_scheduler" "false" b.config) = .ok true ∧
        ∃ intervalNs, getParamOrFail "pingmesh_interval_ns" b.config >>= parsePositiveInt64 = .ok intervalNs ∧
          ∃ s, preparePingmesh b topology intervalNs (getParamOrDefault "pingmesh_endpoint_pairs" "all" b.config) =
              .ok s ∧ some s = r := by
  unfold pingmeshScheduler
  rw [enabled_cases]
  simp only [bind_eq_ok, Except.ok.injEq]

theorem specifiedPings_ok {topology : Topology} {all : List (Nat × Nat)} :
    specifiedPings b topology = .ok all ↔
      parseBoolean (getParamOrDefault "enable_pingmesh_scheduler" "false" b.config) = .ok false ∧ all = [] ∨
      parseBoolean (getParamOrDefault "enable_pingmesh_scheduler" "false" b.config) = .ok true ∧
        specifiedPairs topology (getParamOrDefault "pingmesh_endpoint_pairs" "all" b.config) = .ok all :=
  enabled_cases

theorem zip_starts {topology : Topology} {intervalNs : Nat} {inBetween : Int} {l : List ((Nat × Nat) × Nat)}
    {apps : List PingClient}
    (h : List.Forall₂ (fun x app => numberedClient topology intervalNs inBetween x = .ok app) l apps) :
    (l.map Prod.fst).zip (apps.map fun app => app.startNs) = l.map fun x => (x.1, x.2 * inBetween) := by
  induction h with
  | nil => rfl
  | cons hx _ ih => simp only [List.map_cons, List.zip_cons_cons, ih, numberedClient_start hx]

/-- What a scheduler starts, of all pairs numbered. -/
theorem starts_eq {topology : Topology} {intervalNs : Nat} {inBetween : Int} {all : List (Nat × Nat)}
    {keep : Nat → Bool} (servers : List Nat) {apps : List PingClient}
    (h : List.Forall₂ (fun x app => numberedClient topology intervalNs inBetween x = .ok app)
      ((numbered [] (Ptop.sortEdges all)).filter fun x => keep x.1.1) apps) :
    PingmeshScheduler.starts ⟨intervalNs, (Ptop.sortEdges all).filter fun q => keep q.1, servers, apps⟩ =
      ((numbered [] (Ptop.sortEdges all)).map fun x => (x.1, x.2 * inBetween)).filter fun x => keep x.1.1 := by
  have hpairs : (Ptop.sortEdges all).filter (fun q => keep q.1) =
      ((numbered [] (Ptop.sortEdges all)).filter fun x => keep x.1.1).map Prod.fst := by
    conv_lhs => rw [← numbered_fst (Ptop.sortEdges all) []]
    rw [List.filter_map]
    rfl
  unfold PingmeshScheduler.starts
  simp only [hpairs, zip_starts h, List.filter_map]
  rfl

theorem pingmeshScheduler_share {all : List (Nat × Nat)} {whole : Option PingmeshScheduler}
    (d : Distribution p) (hb : b.distributedEnabled = false) (ht : specifiedPings b p.topology = .ok all)
    (hw : pingmeshScheduler b p.topology = .ok whole) :
    (∀ q, q ∈ whole.elim [] (fun m => m.pingmeshEndpointPairs) ↔ q ∈ all) ∧
      (whole.elim [] PingmeshScheduler.starts).map Prod.fst = whole.elim [] (fun m => m.pingmeshEndpointPairs) ∧
      ∀ i, (∀ part, pingmeshScheduler (d.system b i) p.topology = .ok part → ∀ q ∈ all, q.1 < p.graph.numNodes) ∧
        ((∀ q ∈ all, q.1 < p.graph.numNodes) →
          ∃ part, pingmeshScheduler (d.system b i) p.topology = .ok part ∧
            (part.elim [] fun m => m.pingmeshEndpointPairs) =
              (whole.elim [] fun m => m.pingmeshEndpointPairs).filter (fun q => (d.system b i).owns q.1) ∧
            part.elim [] PingmeshScheduler.starts =
              (whole.elim [] PingmeshScheduler.starts).filter fun x => (d.system b i).owns x.1.1) := by
  rcases pingmeshScheduler_ok.1 hw with ⟨hon, rfl⟩ | ⟨hon, intervalNs, hint, s, hprep, rfl⟩
  · obtain ⟨-, rfl⟩ := (specifiedPings_ok.1 ht).resolve_right fun h => by rw [hon] at h; cases h.1
    exact ⟨by simp, rfl, fun i => ⟨fun _ _ => by simp,
      fun _ => ⟨none, pingmeshScheduler_ok.2 (.inl ⟨hon, rfl⟩), rfl, rfl⟩⟩⟩
  · obtain ⟨-, hall⟩ := (specifiedPings_ok.1 ht).resolve_left fun h => by rw [hon] at h; cases h.1
    obtain ⟨all', inBetween, apps, hall', hbetween, -, happs, rfl⟩ := preparePingmesh_ok.1 hprep
    obtain rfl := Except.ok.inj (hall.symm.trans hall')
    have hstarts := starts_eq (p.topology.endpoints.filter fun e => b.owns e) happs
    have hpairs : (Ptop.sortEdges all).filter (fun q => b.owns q.1) = Ptop.sortEdges all :=
      filter_whole hb Prod.fst _
    rw [filter_whole hb fun x : (Nat × Nat) × Int => x.1.1, hpairs] at hstarts
    rw [filter_whole hb fun x : (Nat × Nat) × Nat => x.1.1] at happs
    refine ⟨fun q => ?_, ?_, fun i => ⟨fun part hpart => ?_, fun hlt => ?_⟩⟩
    · simp only [Option.elim, hpairs, Ptop.mem_sortEdges]
    · simp only [Option.elim, hpairs, hstarts, List.map_map]
      exact numbered_fst _ []
    · rcases pingmeshScheduler_ok.1 hpart with ⟨hoff, -⟩ | ⟨-, _, -, s, hs, -⟩
      · cases hon.symm.trans hoff
      · obtain ⟨all', _, _, hall', -, hlt, -, -⟩ := preparePingmesh_ok.1 hs
        obtain rfl := Except.ok.inj (hall.symm.trans hall')
        rw [← d.assigned]
        exact (hlt rfl).1
    · rw [← d.assigned] at hlt
      obtain ⟨apps', hpart⟩ := forall₂_filter happs fun x => (d.system b i).owns x.1.1
      refine ⟨_, pingmeshScheduler_ok.2 (.inr ⟨hon, intervalNs, hint, _, preparePingmesh_ok.2
        ⟨all, inBetween, _, hall, hbetween, fun _ => ⟨hlt, d.endpoints_lt⟩, hpart, rfl⟩, rfl⟩), ?_, ?_⟩
      · simp only [Option.elim, hpairs]
      · simp only [Option.elim, hpairs, hstarts]
        exact starts_eq _ hpart

/-! ## The whole set-up -/

theorem setup_ok {rates : RateReader ρ} {s : Setup ρ} :
    setup rates b p = .ok s ↔ ∃ net, Ptop.setupLinks p.graph = .ok net ∧
      linkUtilizationTrackers b p.graph net.channels = .ok s.trackers ∧ tcpFlowScheduler b p.topology = .ok s.tcp ∧
      udpBurstScheduler rates b p.topology = .ok s.bursts ∧ pingmeshScheduler b p.topology = .ok s.pings := by
  unfold setup
  rw [bind_eq_ok]
  simp only [bind_eq_ok, Except.ok.injEq]
  refine exists_congr fun net => and_congr_right fun _ => ?_
  constructor
  · rintro ⟨trackers, h₁, tcp, h₂, bursts, h₃, pings, h₄, rfl⟩
    exact ⟨h₁, h₂, h₃, h₄⟩
  · rintro ⟨h₁, h₂, h₃, h₄⟩
    exact ⟨_, h₁, _, h₂, _, h₃, _, h₄, rfl⟩

theorem readTraffic_ok {rates : RateReader ρ} {traffic : Traffic ρ} (h : readTraffic rates b p = .ok traffic) :
    trackedLinks b p.graph = .ok traffic.links ∧ specifiedTcpFlows b p.topology = .ok traffic.tcpFlows ∧
      specifiedBursts rates b p.topology = .ok traffic.bursts ∧
      specifiedPings b p.topology = .ok traffic.pingPairs := by
  obtain ⟨links, h₁, h⟩ := bind_ok h
  obtain ⟨tcpFlows, h₂, h⟩ := bind_ok h
  obtain ⟨bursts, h₃, h⟩ := bind_ok h
  obtain ⟨pingPairs, h₄, h⟩ := bind_ok h
  cases h
  exact ⟨h₁, h₂, h₃, h₄⟩

theorem specifiedBursts_accepted {rates : RateReader ρ} {l : List (UdpBurstInfo ρ)}
    (h : specifiedBursts rates b p.topology = .ok l) :
    Accepted UdpBurstInfo.header p.topology b.simulationEndTimeNs l := by
  rcases specifiedSchedule_ok.1 h with ⟨-, rfl⟩ | ⟨-, filename, -, hread⟩
  · constructor <;> simp
  · exact readUdpBurstSchedule_ok hread

theorem mem_endpoints_iff {id : Nat} (hv : p.topology.isValidEndpoint id = true) :
    id ∈ p.topology.endpoints ↔ id < p.graph.numNodes := by
  constructor
  · exact Ptop.getEndpoints_lt p.parsed p.allNodesAreEndpoints id
  · intro hlt
    refine p.topology.valid_endpoint id ?_ hv
    change id < p.nodes.length
    rw [p.created]
    exact hlt

section Bursts

variable {d : Distribution p} {l : List (UdpBurstInfo ρ)} {key : UdpBurstInfo ρ → Nat}
  {whole : List (UdpBurstInfo ρ × Nat)} {part : Nat → List (UdpBurstInfo ρ × Nat)}

theorem responsible_once (hwhole : ∀ x, x ∈ whole ↔ x.1 ∈ l ∧ x.2 = key x.1 ∧ x.2 ∈ p.topology.endpoints)
    (hpart : ∀ i < d.systemsCount, part i = whole.filter fun x => (d.system b i).owns x.2)
    (hl : ∀ e ∈ l, key e ∈ p.topology.endpoints) : Once d.systemsCount l fun i => (part i).map Prod.fst := by
  intro e he
  have hmem : ∀ i < d.systemsCount, e ∈ (part i).map Prod.fst ↔ (d.system b i).owns (key e) = true := by
    intro i hi
    rw [hpart i hi, List.mem_map]
    constructor
    · rintro ⟨x, hx, rfl⟩
      obtain ⟨hx, hown⟩ := List.mem_filter.1 hx
      rw [← ((hwhole x).1 hx).2.1]
      exact hown
    · intro hown
      exact ⟨(e, key e), List.mem_filter.2 ⟨(hwhole _).2 ⟨he, rfl, hl e he⟩, hown⟩, rfl⟩
  have hlt : key e < p.graph.numNodes := Ptop.getEndpoints_lt p.parsed p.allNodesAreEndpoints _ (hl e he)
  obtain ⟨i, ⟨hi, hown⟩, hu⟩ := d.owner b hlt
  exact ⟨i, ⟨hi, (hmem i hi).2 hown⟩, fun j ⟨hj, hm⟩ => hu j ⟨hj, (hmem j hj).1 hm⟩⟩

theorem responsible_union (hwhole : ∀ x, x ∈ whole ↔ x.1 ∈ l ∧ x.2 = key x.1 ∧ x.2 ∈ p.topology.endpoints)
    (hpart : ∀ i < d.systemsCount, part i = whole.filter fun x => (d.system b i).owns x.2) :
    (union d.systemsCount fun i => (part i).map Prod.fst).Perm (whole.map Prod.fst) := by
  rw [union_map]
  refine (d.share_union b Prod.snd (fun x hx => ?_) hpart).map Prod.fst
  exact Ptop.getEndpoints_lt p.parsed p.allNodesAreEndpoints _ ((hwhole x).1 hx).2.2

end Bursts

/-- What the set-up of a system handles, as the share of the whole. -/
structure ShareOf (s : BasicSimulation) (traffic : Traffic ρ) (whole part : Setup ρ) : Prop where
  links : part.links = whole.links.filter fun x => s.owns x.1.1
  tcpFlows : part.tcpFlows = traffic.tcpFlows.filter fun e => s.owns e.fromNodeId
  outgoing : (part.bursts.elim [] fun u => u.responsibleForOutgoingBursts) =
    (whole.bursts.elim [] fun u => u.responsibleForOutgoingBursts).filter fun x => s.owns x.2
  incoming : (part.bursts.elim [] fun u => u.responsibleForIncomingBursts) =
    (whole.bursts.elim [] fun u => u.responsibleForIncomingBursts).filter fun x => s.owns x.2
  pingPairs : part.pingPairs = whole.pingPairs.filter fun q => s.owns q.1
  pingStarts : part.pingStarts = whole.pingStarts.filter fun x => s.owns x.1.1

section Divides

variable {rates : RateReader ρ} {traffic : Traffic ρ} {whole : Setup ρ} (d : Distribution p)
  (hb : b.distributedEnabled = false) (ht : readTraffic rates b p = .ok traffic) (hw : setup rates b p = .ok whole)

include hb ht hw

/-- Over schedules that name nodes every system can set up its share. -/
theorem setup_share (hn : NamesNodes p.graph.numNodes traffic) (i : Nat) :
    ∃ part, setup rates (d.system b i) p = .ok part ∧ ShareOf (d.system b i) traffic whole part := by
  obtain ⟨net, hnet, hlinks, htcp, hbursts, hpings⟩ := setup_ok.1 hw
  obtain ⟨tlinks, ttcp, tbursts, tpings⟩ := readTraffic_ok ht
  obtain ⟨trackers, htrackers, hl⟩ := (linkUtilizationTrackers_share d hb tlinks hlinks).2.2 i
  obtain ⟨tcp, htcp', hf⟩ := ((tcpFlowScheduler_share d hb ttcp htcp).2 i).2 hn.tcpFlows
  obtain ⟨bursts, hbursts', ho, hin⟩ := (udpBurstScheduler_share d hb tbursts hbursts).2.2 i
  obtain ⟨pings, hpings', hq, hs⟩ := ((pingmeshScheduler_share d hb tpings hpings).2.2 i).2 hn.pings
  exact ⟨⟨trackers, tcp, bursts, pings⟩, setup_ok.2 ⟨net, hnet, htrackers, htcp', hbursts', hpings'⟩,
    hl, hf, ho, hin, hq, hs⟩

/-- Shares of all systems divide the work. -/
theorem dividesWork_of_shares (hn : NamesNodes p.graph.numNodes traffic) {part : Nat → Setup ρ}
    (hpart : ∀ i < d.systemsCount, ShareOf (d.system b i) traffic whole (part i)) :
    DividesWork d.systemsCount traffic whole part := by
  obtain ⟨net, hnet, hlinks, htcp, hbursts, hpings⟩ := setup_ok.1 hw
  obtain ⟨tlinks, ttcp, tbursts, tpings⟩ := readTraffic_ok ht
  obtain ⟨hfst, hlt, -⟩ := linkUtilizationTrackers_share d hb tlinks hlinks
  have hwhole : whole.tcpFlows = traffic.tcpFlows := (tcpFlowScheduler_share d hb ttcp htcp).1
  obtain ⟨hout, hin, -⟩ := udpBurstScheduler_share d hb tbursts hbursts
  obtain ⟨hmem, hstarts, -⟩ := pingmeshScheduler_share d hb tpings hpings
  have hacc := specifiedBursts_accepted tbursts
  have hfrom : ∀ e ∈ traffic.bursts, e.fromNodeId ∈ p.topology.endpoints := fun e he =>
    (mem_endpoints_iff (hacc.from_valid e he)).2 (hn.bursts e he).1
  have hto : ∀ e ∈ traffic.bursts, e.toNodeId ∈ p.topology.endpoints := fun e he =>
    (mem_endpoints_iff (hacc.to_valid e he)).2 (hn.bursts e he).2
  have hpairs : ∀ q ∈ whole.pingPairs, q.1 < p.graph.numNodes := fun q hq => hn.pings q ((hmem q).1 hq)
  have hpingStarts : ∀ x ∈ whole.pingStarts, x.1.1 < p.graph.numNodes := by
    intro x hx
    refine hpairs x.1 ?_
    have hx' : x.1 ∈ whole.pingStarts.map Prod.fst := List.mem_map_of_mem hx
    rw [show whole.pingStarts.map Prod.fst = whole.pingPairs from hstarts] at hx'
    exact hx'
  exact {
    links_once := by
      refine d.share_once b Prod.fst (fun q hq => ?_) fun i hi => ?_
      · rw [← hfst] at hq
        obtain ⟨x, hx, rfl⟩ := List.mem_map.1 hq
        exact hlt x hx
      · rw [(hpart i hi).links, ← hfst, List.filter_map]
        rfl
    links_union := d.share_union b (fun x : (Nat × Nat) × End => x.1.1) hlt fun i hi => (hpart i hi).links
    tcpFlows_once := d.share_once b (fun e => e.fromNodeId) hn.tcpFlows fun i hi => (hpart i hi).tcpFlows
    tcpFlows_union := by
      rw [hwhole]
      exact d.share_union b (fun e => e.fromNodeId) hn.tcpFlows fun i hi => (hpart i hi).tcpFlows
    outgoing_once := responsible_once hout (fun i hi => (hpart i hi).outgoing) hfrom
    outgoing_union := responsible_union hout fun i hi => (hpart i hi).outgoing
    incoming_once := responsible_once hin (fun i hi => (hpart i hi).incoming) hto
    incoming_union := responsible_union hin fun i hi => (hpart i hi).incoming
    pings_once := fun q hq =>
      d.share_once b Prod.fst hpairs (fun i hi => (hpart i hi).pingPairs) q ((hmem q).2 hq)
    pings_union := d.share_union b Prod.fst hpairs fun i hi => (hpart i hi).pingPairs
    starts_pairs := by
      intro i hi
      rw [(hpart i hi).pingStarts, (hpart i hi).pingPairs,
        ← show whole.pingStarts.map Prod.fst = whole.pingPairs from hstarts, List.filter_map]
      rfl
    starts_union := d.share_union b (fun x : (Nat × Nat) × Int => x.1.1) hpingStarts fun i hi => (hpart i hi).pingStarts }

/-- Whatever a system can set up and handle is at nodes. -/
theorem namesNodes_of_divides {part : Nat → Setup ρ}
    (hpart : ∀ i < d.systemsCount, setup rates (d.system b i) p = .ok (part i))
    (hd : DividesWork d.systemsCount traffic whole part) : NamesNodes p.graph.numNodes traffic := by
  obtain ⟨net, hnet, hlinks, htcp, hbursts, hpings⟩ := setup_ok.1 hw
  obtain ⟨tlinks, ttcp, tbursts, tpings⟩ := readTraffic_ok ht
  obtain ⟨hout, hin, hb'⟩ := udpBurstScheduler_share d hb tbursts hbursts
  have hlt := Ptop.getEndpoints_lt p.parsed p.allNodesAreEndpoints
  -- the bursts that a system handles are at endpoints
  have hresp : ∀ i < d.systemsCount, ∀ e,
      (e ∈ (part i).outgoingBursts → e.fromNodeId < p.graph.numNodes) ∧
        (e ∈ (part i).incomingBursts → e.toNodeId < p.graph.numNodes) := by
    intro i hi e
    obtain ⟨-, -, -, -, hpi, -⟩ := setup_ok.1 (hpart i hi)
    obtain ⟨bursts, hbi, ho, hn⟩ := hb' i
    obtain rfl := Except.ok.inj (hpi.symm.trans hbi)
    constructor
    · intro he
      obtain ⟨x, hx, rfl⟩ := List.mem_map.1 he
      rw [ho] at hx
      obtain ⟨-, hkey, hmem⟩ := (hout x).1 (List.mem_of_mem_filter hx)
      rw [← hkey]
      exact hlt _ hmem
    · intro he
      obtain ⟨x, hx, rfl⟩ := List.mem_map.1 he
      rw [hn] at hx
      obtain ⟨-, hkey, hmem⟩ := (hin x).1 (List.mem_of_mem_filter hx)
      rw [← hkey]
      exact hlt _ hmem
  refine ⟨fun e he => ?_, fun e he => ⟨?_, ?_⟩, fun q hq => ?_⟩
  · obtain ⟨i, ⟨hi, -⟩, -⟩ := hd.tcpFlows_once e he
    obtain ⟨-, -, -, hti, -, -⟩ := setup_ok.1 (hpart i hi)
    exact ((tcpFlowScheduler_share d hb ttcp htcp).2 i).1 _ hti e he
  · obtain ⟨i, ⟨hi, hmem⟩, -⟩ := hd.outgoing_once e he
    exact (hresp i hi e).1 hmem
  · obtain ⟨i, ⟨hi, hmem⟩, -⟩ := hd.incoming_once e he
    exact (hresp i hi e).2 hmem
  · obtain ⟨i, ⟨hi, -⟩, -⟩ := hd.pings_once q hq
    obtain ⟨-, -, -, -, -, hpi⟩ := setup_ok.1 (hpart i hi)
    exact ((pingmeshScheduler_share d hb tpings hpings).2.2 i).1 _ hpi q hq

/-- The systems divide the work exactly if the schedules name nodes. -/
theorem setup_divides_iff :
    (∃ part : Nat → Setup ρ, (∀ i < d.systemsCount, setup rates (d.system b i) p = .ok (part i)) ∧
        DividesWork d.systemsCount traffic whole part) ↔ NamesNodes p.graph.numNodes traffic := by
  constructor
  · rintro ⟨part, hpart, hd⟩
    exact namesNodes_of_divides d hb ht hw hpart hd
  · intro hn
    choose part hpart hshare using setup_share d hb ht hw hn
    exact ⟨part, fun i _ => hpart i, dividesWork_of_shares d hb ht hw hn fun i _ => hshare i⟩

end Divides

/-! ### Two systems -/

/-- Two systems with a node each. -/
def pairDistribution (allNodesAreEndpoints : Bool) : Distribution (pair allNodesAreEndpoints) where
  config :=
    [("enable_distributed".toList, "true".toList),
     ("distributed_simulator_implementation_type".toList, "default".toList),
     ("distributed_systems_count".toList, "2".toList),
     ("distributed_node_system_id_assignment".toList, "list(0,1)".toList)]
  systemsCount := 2
  assignment := [0, 1]
  configured := fun _ => rfl
  parsed := by
    change Ptop.parseTopologyGraph ⟨true, [0, 1]⟩ (pairConfig allNodesAreEndpoints) = .ok pairGraph
    cases allNodesAreEndpoints <;> decide +kernel

/-- A run with all schedulers and trackers, all endpoints pinging each other. -/
def pairTraffic (tcpFlows udpBursts : List String) : BasicSimulation :=
  { pairSimulation with
    config :=
      [("enable_tcp_flow_scheduler".toList, "true".toList), ("tcp_flow_schedule_filename".toList, "tcp".toList),
       ("enable_udp_burst_scheduler".toList, "true".toList), ("udp_burst_schedule_filename".toList, "udp".toList),
       ("enable_pingmesh_scheduler".toList, "true".toList), ("pingmesh_interval_ns".toList, "1000".toList),
       ("enable_link_utilization_tracking".toList, "true".toList),
       ("link_utilization_tracking_interval_ns".toList, "100".toList)]
    file := fun path => .lines ((if path = "run/tcp".toList then tcpFlows else udpBursts).map String.toList) }

def pairBurst : UdpBurstInfo Nat :=
  { udpBurstId := 0, fromNodeId := 0, toNodeId := 1, targetRate := 10, startTimeNs := 0, durationNs := 1000
    additionalParameters := [], metadata := [] }

theorem setup_divides_iff_pair :
    ∃ whole part, setup wholeRates (pairTraffic ["0,0,1,100,5,,", "1,1,0,0,5,,"] ["0,0,1,10,0,1000,,"]) (pair false) =
        .ok whole ∧
      DividesWork 2 ⟨[(0, 1), (1, 0)], bothWays, [pairBurst], [(0, 1), (1, 0)]⟩ whole part := by
  obtain ⟨whole, hw⟩ := ok_of_isOk (x := setup wholeRates
    (pairTraffic ["0,0,1,100,5,,", "1,1,0,0,5,,"] ["0,0,1,10,0,1000,,"]) (pair false)) (by decide +kernel)
  have ht : readTraffic wholeRates (pairTraffic ["0,0,1,100,5,,", "1,1,0,0,5,,"] ["0,0,1,10,0,1000,,"]) (pair false) =
      .ok ⟨[(0, 1), (1, 0)], bothWays, [pairBurst], [(0, 1), (1, 0)]⟩ := rfl
  obtain ⟨part, -, hd⟩ := (setup_divides_iff (pairDistribution false) rfl ht hw).2
    ⟨by decide, by decide, by decide⟩
  exact ⟨whole, part, hw, hd⟩

/-- Where all nodes are endpoints, a flow from a node that is not there is set up by the whole run and by no
system of a distributed one. -/
theorem setup_divides_counterexample :
    ∃ whole traffic, setup wholeRates (pairTraffic ["0,2,0,100,5,,"] []) (pair true) = .ok whole ∧
      readTraffic wholeRates (pairTraffic ["0,2,0,100,5,,"] []) (pair true) = .ok traffic ∧
      ¬ ∃ part : Nat → Setup Nat,
        (∀ i < 2, setup wholeRates ((pairDistribution true).system (pairTraffic ["0,2,0,100,5,,"] []) i) (pair true) =
          .ok (part i)) ∧ DividesWork 2 traffic whole part := by
  obtain ⟨whole, hw⟩ := ok_of_isOk (x := setup wholeRates (pairTraffic ["0,2,0,100,5,,"] []) (pair true))
    (by decide +kernel)
  have ht : readTraffic wholeRates (pairTraffic ["0,2,0,100,5,,"] []) (pair true) =
      .ok ⟨[(0, 1), (1, 0)], [⟨0, 2, 0, 100, 5, [], []⟩], [], [(0, 1), (1, 0)]⟩ := rfl
  refine ⟨whole, _, hw, ht, ?_⟩
  rintro ⟨part, hpart, hd⟩
  have hn := (namesNodes_of_divides (pairDistribution true) rfl ht hw hpart hd).tcpFlows
  exact absurd (hn ⟨0, 2, 0, 100, 5, [], []⟩ (by simp)) (by decide)

end SatNet.Apps
