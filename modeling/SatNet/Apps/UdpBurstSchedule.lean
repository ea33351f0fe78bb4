/-
`UdpBurstScheduler` of `udp-burst-scheduler.cc`: the schedule of bursts, and the applications on the
endpoints, with every burst registered where it is sent from and where it goes to.
-/
import SatNet.Apps.UdpBurstRuns

namespace SatNet.Apps

open SatNet.Binary64 SatNet.ExpUtil SatNet.Loop

variable {ρ : Type}

/-! ## The schedule -/

def UdpBurstInfo.header (e : UdpBurstInfo ρ) : Header := ⟨e.udpBurstId, e.fromNodeId, e.toNodeId, e.startTimeNs⟩

/-- What the reader does with a target rate: `parse_positive_double`, and the comparison with 0.0. -/
structure RateReader (ρ : Type) where
  parsePositiveDouble : Str → Res ρ
  isZero : ρ → Bool

def parseUdpBurst (rates : RateReader ρ) (lineCounter : Nat) (line : Str) : Res (UdpBurstInfo ρ) := do
  let commaSplit ← splitStringExpected line ",".toList 8
  let udpBurstId ← index commaSplit 0 >>= parsePositiveInt64
  if udpBurstId ≠ lineCounter then
    .error (.invalidArgument s!"UDP burst ID is not ascending by one each line (violation: {udpBurstId})\n")
  else do
    let fromNodeId ← index commaSplit 1 >>= parsePositiveInt64
    let toNodeId ← index commaSplit 2 >>= parsePositiveInt64
    let targetRate ← index commaSplit 3 >>= rates.parsePositiveDouble
    let startTimeNs ← index commaSplit 4 >>= parsePositiveInt64
    let durationNs ← index commaSplit 5 >>= parsePositiveInt64
    let additionalParameters ← index commaSplit 6
    let metadata ← index commaSplit 7
    if rates.isZero targetRate then .error (.invalidArgument "UDP burst target rate is zero.")
    else .ok { udpBurstId, fromNodeId, toNodeId, targetRate, startTimeNs, durationNs, additionalParameters, metadata }

def readUdpBurstSchedule (rates : RateReader ρ) (filename : Str) (file : File) (topology : Topology)
    (simulationEndTimeNs : Nat) : Res (List (UdpBurstInfo ρ)) :=
  readSchedule "UDP burst" (parseUdpBurst rates) UdpBurstInfo.header filename file topology simulationEndTimeNs

/-- Target rates as the code has them. -/
def doubleRates (stod : Stod) : RateReader Double where
  parsePositiveDouble := ExpUtil.parsePositiveDouble stod
  isZero := fun rate => rate.eq .zero

/-- Rates in whole Mbit/s. -/
def wholeRates : RateReader Nat where
  parsePositiveDouble := parsePositiveInt64
  isZero := fun rate => rate == 0

/-! ## The constructor -/

/-- The applications by the endpoint they are on, and the bursts this system sends and receives, each with
the endpoint of its application. -/
structure UdpBurstScheduler (ρ : Type) where
  schedule : List (UdpBurstInfo ρ)
  apps : List (Nat × UdpBurstApplication ρ)
  responsibleForOutgoingBursts : List (UdpBurstInfo ρ × Nat)
  responsibleForIncomingBursts : List (UdpBurstInfo ρ × Nat)

/-- The registrations of one entry with the application of an endpoint. -/
def registerEntry (topology : Topology) (loggingIds : List Nat) (endpoint : Nat) (app : UdpBurstApplication ρ)
    (entry : UdpBurstInfo ρ) : Res (UdpBurstApplication ρ) := do
  let precise := loggingIds.contains entry.udpBurstId
  let app ← (if entry.fromNodeId = endpoint then do
      let target ← topology.node entry.toNodeId >>= firstAddress
      registerOutgoingBurst endpoint entry target precise app
    else .ok app)
  if entry.toNodeId = endpoint then registerIncomingBurst endpoint entry precise app else .ok app

/-- The application on an endpoint; the id of a node is its place in the container. -/
def installBurstApp (topology : Topology) (loggingIds : List Nat) (schedule : List (UdpBurstInfo ρ)) (endpoint : Nat) :
    Res (UdpBurstApplication ρ) := do
  let _ ← topology.node endpoint
  forEach (registerEntry topology loggingIds endpoint) schedule .initial

/-- The lists of responsibilities grow as the bursts are registered, so by the endpoint and the schedule. -/
def UdpBurstScheduler.install (s : UdpBurstScheduler ρ) (endpoint : Nat) (app : UdpBurstApplication ρ) :
    UdpBurstScheduler ρ :=
  { s with
    apps := s.apps ++ [(endpoint, app)]
    responsibleForOutgoingBursts :=
      s.responsibleForOutgoingBursts ++ app.outgoingBursts.map fun o => (o.1, endpoint)
    responsibleForIncomingBursts :=
      s.responsibleForIncomingBursts ++ app.incomingBursts.map fun info => (info, endpoint) }

/-- The constructor after the schedule was read. -/
def prepareUdpBursts (b : BasicSimulation) (topology : Topology) (loggingIds : List Nat)
    (schedule : List (UdpBurstInfo ρ)) : Res (UdpBurstScheduler ρ) := do
  checkLoggingIds "UDP burst" "udp_burst_enable_logging_for_udp_burst_ids" loggingIds schedule.length
  let endpoints ← keepResponsible b id topology.endpoints
  forEach (fun s endpoint => do
    let app ← installBurstApp topology loggingIds schedule endpoint
    .ok (s.install endpoint app)) endpoints ⟨schedule, [], [], []⟩

/-- `UdpBurstScheduler(basicSimulation, topology)`; `none` where it is not enabled. -/
def udpBurstScheduler (rates : RateReader ρ) (b : BasicSimulation) (topology : Topology) :
    Res (Option (UdpBurstScheduler ρ)) := do
  let enabled ← parseBoolean (getParamOrDefault "enable_udp_burst_scheduler" "false" b.config)
  if !enabled then .ok none
  else do
    let loggingIds ← parseSetPositiveInt64
      (getParamOrDefault "udp_burst_enable_logging_for_udp_burst_ids" "set()" b.config)
    let filename ← getParamOrFail "udp_burst_schedule_filename" b.config
    let schedule ← readUdpBurstSchedule rates (b.path filename) (b.file (b.path filename)) topology
      b.simulationEndTimeNs
    let s ← prepareUdpBursts b topology loggingIds schedule
    .ok (some s)

/-! ## What the application of an endpoint holds -/

variable {topology : Topology} {loggingIds : List Nat} {endpoint : Nat} {b : BasicSimulation}

theorem parseUdpBurst_ok {rates : RateReader ρ} {n : Nat} {line : Str} {e : UdpBurstInfo ρ}
    (h : parseUdpBurst rates n line = .ok e) : e.udpBurstId = n ∧
      (∃ str, rates.parsePositiveDouble str = .ok e.targetRate) ∧ rates.isZero e.targetRate = false := by
  obtain ⟨spl, -, h⟩ := bind_ok h
  obtain ⟨id, -, h⟩ := bind_ok h
  split at h
  · cases h
  · rename_i hid
    obtain ⟨fromId, -, h⟩ := bind_ok h
    obtain ⟨toId, -, h⟩ := bind_ok h
    obtain ⟨rate, hrate, h⟩ := bind_ok h
    obtain ⟨start, -, h⟩ := bind_ok h
    obtain ⟨duration, -, h⟩ := bind_ok h
    obtain ⟨params, -, h⟩ := bind_ok h
    obtain ⟨metadata, -, h⟩ := bind_ok h
    split at h
    · cases h
    · rename_i hzero
      cases h
      obtain ⟨str, -, hstr⟩ := bind_ok hrate
      exact ⟨not_not.1 hid, ⟨str, hstr⟩, Bool.eq_false_iff.2 hzero⟩

theorem readUdpBurstSchedule_ok {rates : RateReader ρ} {filename : Str} {file : File} {endNs : Nat}
    {l : List (UdpBurstInfo ρ)} (h : readUdpBurstSchedule rates filename file topology endNs = .ok l) :
    Accepted UdpBurstInfo.header topology endNs l :=
  readSchedule_accepted (fun _ _ _ he => (parseUdpBurst_ok he).1) h

/-- The application of an endpoint, once the entries `done` are registered with it. -/
structure HoldsEntries (topology : Topology) (endpoint : Nat) (done : List (UdpBurstInfo ρ))
    (app : UdpBurstApplication ρ) : Prop where
  registered : Registered app
  outgoing : app.outgoingBursts.map Prod.fst = done.filter fun e => e.fromNodeId = endpoint
  targets : ∀ o ∈ app.outgoingBursts, topology.node o.1.toNodeId >>= firstAddress = .ok o.2
  incoming : app.incomingBursts = done.filter fun e => e.toNodeId = endpoint
  counters : ∀ id, app.receivedCounter id = if ∃ e ∈ app.incomingBursts, e.udpBurstId = id then some 0 else none

theorem holdsEntries_initial : HoldsEntries (ρ := ρ) topology endpoint [] .initial where
  registered := registered_initial
  outgoing := rfl
  targets := by simp [UdpBurstApplication.initial]
  incoming := rfl
  counters := by simp [UdpBurstApplication.initial]

theorem registerOutgoingBurst_ok {info : UdpBurstInfo ρ} {target : Address} {precise : Bool}
    {app app' : UdpBurstApplication ρ} (h : registerOutgoingBurst endpoint info target precise app = .ok app') :
    app'.outgoingBursts = app.outgoingBursts ++ [(info, target)] ∧ app'.incomingBursts = app.incomingBursts ∧
      app'.receivedCounter = app.receivedCounter := by
  unfold registerOutgoingBurst at h
  split at h
  · cases h
  · split at h
    · cases h
    · cases h
      exact ⟨rfl, rfl, rfl⟩

theorem registerIncomingBurst_ok {info : UdpBurstInfo ρ} {precise : Bool} {app app' : UdpBurstApplication ρ}
    (h : registerIncomingBurst endpoint info precise app = .ok app') :
    app'.outgoingBursts = app.outgoingBursts ∧ app'.incomingBursts = app.incomingBursts ++ [info] ∧
      app'.receivedCounter = fun id => if id = info.udpBurstId then some 0 else app.receivedCounter id := by
  unfold registerIncomingBurst at h
  split at h
  · cases h
  · cases h
    exact ⟨rfl, rfl, rfl⟩

theorem registerEntry_holds {done : List (UdpBurstInfo ρ)} {app app' : UdpBurstApplication ρ} {e : UdpBurstInfo ρ}
    (hh : HoldsEntries topology endpoint done app) (h : registerEntry topology loggingIds endpoint app e = .ok app') :
    HoldsEntries topology endpoint (done ++ [e]) app' := by
  unfold registerEntry at h
  obtain ⟨app₁, h₁, h⟩ := bind_ok h
  have hout : Registered app₁ ∧ app₁.outgoingBursts.map Prod.fst = (done ++ [e]).filter (·.fromNodeId = endpoint) ∧
      (∀ o ∈ app₁.outgoingBursts, topology.node o.1.toNodeId >>= firstAddress = .ok o.2) ∧
      app₁.incomingBursts = app.incomingBursts ∧ app₁.receivedCounter = app.receivedCounter := by
    split at h₁
    · rename_i hfrom
      obtain ⟨target, ht, h₁⟩ := bind_ok h₁
      obtain ⟨ho, hi, hc⟩ := registerOutgoingBurst_ok h₁
      refine ⟨register_registered (r := .outgoing e target _) hh.registered h₁, ?_, ?_, hi, hc⟩
      · simp [ho, hh.outgoing, hfrom]
      · intro o hmem
        rw [ho] at hmem
        rcases List.mem_append.1 hmem with hmem | hmem
        · exact hh.targets o hmem
        · rw [List.mem_singleton.1 hmem]
          exact ht
    · rename_i hfrom
      cases h₁
      exact ⟨hh.registered, by simp [hh.outgoing, hfrom], hh.targets, rfl, rfl⟩
  obtain ⟨hreg, hout, htargets, hin, hcnt⟩ := hout
  split at h
  · rename_i hto
    obtain ⟨ho, hi, hc⟩ := registerIncomingBurst_ok h
    refine ⟨register_registered (r := .incoming e _) hreg h, by rw [ho, hout], by rw [ho]; exact htargets, ?_, ?_⟩
    · simp [hi, hin, hh.incoming, hto]
    · intro id
      rw [hc, hi, hin, hcnt]
      simp only [hh.counters]
      by_cases hid : id = e.udpBurstId
      · rw [if_pos hid, if_pos ⟨e, by simp, hid.symm⟩]
      · rw [if_neg hid]
        refine if_congr ⟨fun ⟨x, hx, he⟩ => ⟨x, List.mem_append_left _ hx, he⟩, ?_⟩ rfl rfl
        rintro ⟨x, hx, he⟩
        rcases List.mem_append.1 hx with hx | hx
        · exact ⟨x, hx, he⟩
        · rw [List.mem_singleton.1 hx] at he
          exact absurd he.symm hid
  · rename_i hto
    cases h
    refine ⟨hreg, hout, htargets, ?_, ?_⟩
    · simp [hin, hh.incoming, hto]
    · rw [hcnt, hin]
      exact hh.counters

theorem installBurstApp_holds {schedule : List (UdpBurstInfo ρ)} {app : UdpBurstApplication ρ}
    (h : installBurstApp topology loggingIds schedule endpoint = .ok app) :
    HoldsEntries topology endpoint schedule app := by
  obtain ⟨_, -, h⟩ := bind_ok h
  exact forEach_pre _ (fun done app => HoldsEntries topology endpoint done app)
    (fun _ _ _ _ hh hb => registerEntry_holds hh hb) schedule [] .initial app holdsEntries_initial h

/-- An entry can be registered after those that do not start later, exactly if the target of a burst from here is
found. -/
theorem registerEntry_ends_iff {done : List (UdpBurstInfo ρ)} {app : UdpBurstApplication ρ} {e : UdpBurstInfo ρ}
    (hh : HoldsEntries topology endpoint done app) (hle : ∀ x ∈ done, x.startTimeNs ≤ e.startTimeNs) :
    (∃ app', registerEntry topology loggingIds endpoint app e = .ok app') ↔
      (e.fromNodeId = endpoint → ∃ a, topology.node e.toNodeId >>= firstAddress = .ok a) := by
  have hbefore : app.startsBefore e = false := by
    unfold UdpBurstApplication.startsBefore
    split
    · rename_i last _ hlast
      have hmem := List.mem_map_of_mem (f := Prod.fst) (List.mem_of_getLast? hlast)
      rw [hh.outgoing] at hmem
      simpa using hle last (List.mem_of_mem_filter hmem)
    · rfl
  have hincoming : ∀ app₁, ∃ app', (if e.toNodeId = endpoint then
      registerIncomingBurst endpoint e (loggingIds.contains e.udpBurstId) app₁ else .ok app₁) = .ok app' := by
    intro app₁
    split
    · rename_i hto
      unfold registerIncomingBurst
      rw [if_neg (not_not.2 hto)]
      exact ⟨_, rfl⟩
    · exact ⟨_, rfl⟩
  unfold registerEntry
  constructor
  · rintro ⟨app', h⟩ hfrom
    obtain ⟨app₁, h₁, -⟩ := bind_ok h
    rw [if_pos hfrom] at h₁
    obtain ⟨a, ha, -⟩ := bind_ok h₁
    exact ⟨a, ha⟩
  · intro ht
    by_cases hfrom : e.fromNodeId = endpoint
    · obtain ⟨a, ha⟩ := ht hfrom
      simp only [if_pos hfrom, ha, ok_bind, registerOutgoingBurst, not_not.2 hfrom, hbefore, if_false,
        Bool.false_eq_true]
      exact hincoming _
    · simp only [if_neg hfrom, ok_bind]
      exact hincoming _

/-- On an endpoint an application is installed exactly if the targets of its bursts are found. -/
theorem installBurstApp_ends_iff {endNs : Nat} {schedule : List (UdpBurstInfo ρ)}
    (hacc : Accepted UdpBurstInfo.header topology endNs schedule) (he : endpoint < topology.nodes.length) :
    (∃ app, installBurstApp topology loggingIds schedule endpoint = .ok app) ↔
      ∀ e ∈ schedule, e.fromNodeId = endpoint → ∃ a, topology.node e.toNodeId >>= firstAddress = .ok a := by
  unfold installBurstApp
  rw [topology.node_eq he, ok_bind]
  have hle : ∀ {done x rest}, schedule = done ++ x :: rest → ∀ y ∈ done, y.startTimeNs ≤ x.startTimeNs := by
    intro done x rest hl y hy
    have hasc := hacc.ascending
    rw [hl, List.map_append, List.map_cons] at hasc
    exact (List.pairwise_append.1 hasc).2.2 _ (List.mem_map_of_mem hy) _ (List.mem_cons_self ..)
  constructor
  · rintro ⟨app, h⟩ e hmem
    obtain ⟨done, rest, hl⟩ := List.append_of_mem hmem
    rw [hl, forEach_append] at h
    obtain ⟨app₁, h₁, h⟩ := bind_ok h
    obtain ⟨app₂, h₂, -⟩ := bind_ok h
    have hh := forEach_pre _ (fun done app => HoldsEntries topology endpoint done app)
      (fun _ _ _ _ hh hb => registerEntry_holds hh hb) done [] .initial app₁ holdsEntries_initial h₁
    exact (registerEntry_ends_iff hh (hle hl)).1 ⟨app₂, h₂⟩
  · intro h
    obtain ⟨app, happ, -⟩ := forEach_ends (registerEntry topology loggingIds endpoint)
      (fun done app => HoldsEntries topology endpoint done app) (l := schedule)
      (fun done x rest app hl hh => by
        obtain ⟨app', happ'⟩ := (registerEntry_ends_iff hh (hle hl)).2 (h x (by rw [hl]; simp))
        exact ⟨app', happ', registerEntry_holds hh happ'⟩) schedule [] .initial rfl holdsEntries_initial
    exact ⟨app, happ⟩

/-! ## What the constructor leaves -/

theorem foldl_install (apps : List (Nat × UdpBurstApplication ρ)) : ∀ s : UdpBurstScheduler ρ,
    apps.foldl (fun s p => s.install p.1 p.2) s =
      { schedule := s.schedule
        apps := s.apps ++ apps
        responsibleForOutgoingBursts :=
          s.responsibleForOutgoingBursts ++ apps.flatMap fun p => p.2.outgoingBursts.map fun o => (o.1, p.1)
        responsibleForIncomingBursts :=
          s.responsibleForIncomingBursts ++ apps.flatMap fun p => p.2.incomingBursts.map fun info => (info, p.1) } := by
  induction apps with
  | nil => simp
  | cons p apps ih =>
    intro s
    rw [List.foldl_cons, ih]
    simp [UdpBurstScheduler.install]

/-- The constructor succeeds exactly if the application of every endpoint of this system can be installed. -/
theorem prepareUdpBursts_ok {schedule : List (UdpBurstInfo ρ)} {s : UdpBurstScheduler ρ} :
    prepareUdpBursts b topology loggingIds schedule = .ok s ↔
      (∀ id ∈ loggingIds, id < schedule.length) ∧
      (b.distributedEnabled = true → ∀ e ∈ topology.endpoints, e < b.distributedNodeSystemIdAssignment.length) ∧
      ∃ apps, List.Forall₂
          (fun e p => p.1 = e ∧ installBurstApp topology loggingIds schedule e = .ok p.2)
          (topology.endpoints.filter fun e => b.owns e) apps ∧
        s = ⟨schedule, apps, apps.flatMap fun p => p.2.outgoingBursts.map fun o => (o.1, p.1),
          apps.flatMap fun p => p.2.incomingBursts.map fun info => (info, p.1)⟩ := by
  have hread : ∀ endpoints, forEach (fun (s : UdpBurstScheduler ρ) endpoint => do
        let app ← installBurstApp topology loggingIds schedule endpoint
        .ok (s.install endpoint app)) endpoints ⟨schedule, [], [], []⟩ = .ok s ↔
      ∃ apps, List.Forall₂ (fun e p => p.1 = e ∧ installBurstApp topology loggingIds schedule e = .ok p.2)
          endpoints apps ∧ s = ⟨schedule, apps, apps.flatMap fun p => p.2.outgoingBursts.map fun o => (o.1, p.1),
            apps.flatMap fun p => p.2.incomingBursts.map fun info => (info, p.1)⟩ := by
    intro endpoints
    have h := forEach_read
      (fun e => do let app ← installBurstApp topology loggingIds schedule e; .ok (e, app))
      (fun (s : UdpBurstScheduler ρ) p => s.install p.1 p.2) endpoints ⟨schedule, [], [], []⟩ s
    refine Iff.trans (Eq.to_iff ?_) (h.trans (exists_congr fun apps => and_congr (Eq.to_iff ?_) ?_))
    · congr 1
      refine congrFun (congrArg (forEach · endpoints) (funext₂ fun s e => ?_)) _
      cases installBurstApp topology loggingIds schedule e <;> rfl
    · congr 1
      funext e p
      rw [eq_iff_iff, bind_eq_ok]
      constructor
      · rintro ⟨app, happ, hp⟩
        cases hp
        exact ⟨rfl, happ⟩
      · rintro ⟨rfl, happ⟩
        exact ⟨p.2, happ, rfl⟩
    · rw [foldl_install]
      simp
  unfold prepareUdpBursts
  rw [bind_eq_ok]
  simp only [bind_eq_ok, keepResponsible_ok, hread]
  constructor
  · rintro ⟨_, hids, _, ⟨hlt, rfl⟩, happs⟩
    exact ⟨checkLoggingIds_ok.1 hids, hlt, happs⟩
  · rintro ⟨hids, hlt, happs⟩
    exact ⟨(), checkLoggingIds_ok.2 hids, _, ⟨hlt, rfl⟩, happs⟩

/-- For an accepted schedule the constructor ends exactly if the ids to log are there, the endpoints are assigned, and
the target of every burst from an endpoint of this system is found. -/
theorem prepareUdpBursts_ends_iff {endNs : Nat} {schedule : List (UdpBurstInfo ρ)}
    (hacc : Accepted UdpBurstInfo.header topology endNs schedule) :
    (∃ s, prepareUdpBursts b topology loggingIds schedule = .ok s) ↔
      (∀ id ∈ loggingIds, id < schedule.length) ∧
      (b.distributedEnabled = true → ∀ e ∈ topology.endpoints, e < b.distributedNodeSystemIdAssignment.length) ∧
      ∀ e ∈ schedule, e.fromNodeId ∈ topology.endpoints → b.owns e.fromNodeId = true →
        ∃ a, topology.node e.toNodeId >>= firstAddress = .ok a := by
  constructor
  · rintro ⟨s, hs⟩
    obtain ⟨hids, hassigned, apps, happs, -⟩ := prepareUdpBursts_ok.1 hs
    refine ⟨hids, hassigned, fun e he hmem hown => ?_⟩
    obtain ⟨p, -, -, hp⟩ := forall₂_mem_left happs e.fromNodeId (List.mem_filter.2 ⟨hmem, hown⟩)
    exact (installBurstApp_ends_iff hacc (topology.endpoints_lt _ hmem)).1 ⟨_, hp⟩ e he rfl
  · rintro ⟨hids, hassigned, htargets⟩
    obtain ⟨apps, happs⟩ : ∃ apps, List.Forall₂
        (fun e (p : Nat × UdpBurstApplication ρ) => p.1 = e ∧
          installBurstApp topology loggingIds schedule e = .ok p.2)
        (topology.endpoints.filter fun e => b.owns e) apps := by
      refine forall₂_exists fun endpoint hmem => ?_
      obtain ⟨hmem, hown⟩ := List.mem_filter.1 hmem
      obtain ⟨app, happ⟩ : ∃ app, installBurstApp topology loggingIds schedule endpoint = .ok app :=
        (installBurstApp_ends_iff hacc (topology.endpoints_lt endpoint hmem)).2
          fun e he hfrom => htargets e he (hfrom ▸ hmem) (hfrom ▸ hown)
      exact ⟨(endpoint, app), rfl, happ⟩
    exact ⟨_, prepareUdpBursts_ok.2 ⟨hids, hassigned, apps, happs, rfl⟩⟩

/-- Every application that a scheduler has installed holds the entries of its endpoint. -/
theorem prepareUdpBursts_holds {schedule : List (UdpBurstInfo ρ)} {s : UdpBurstScheduler ρ} {node : Nat}
    {app : UdpBurstApplication ρ} (h : prepareUdpBursts b topology loggingIds schedule = .ok s)
    (happ : s.apps.lookup node = some app) : HoldsEntries topology node schedule app := by
  obtain ⟨-, -, apps, happs, rfl⟩ := prepareUdpBursts_ok.1 h
  obtain ⟨l₁, l₂, hl, -⟩ := List.lookup_eq_some_iff.1 happ
  simp only at hl
  obtain ⟨e, -, rfl, hinst⟩ := forall₂_mem_right happs (node, app) (by rw [hl]; simp)
  exact installBurstApp_holds hinst

/-- Every endpoint of its system has an application. -/
theorem prepareUdpBursts_installed {schedule : List (UdpBurstInfo ρ)} {s : UdpBurstScheduler ρ}
    (h : prepareUdpBursts b topology loggingIds schedule = .ok s) {e : Nat} (he : e ∈ topology.endpoints)
    (hown : b.owns e = true) : s.apps.lookup e ≠ none := by
  obtain ⟨-, -, apps, happs, rfl⟩ := prepareUdpBursts_ok.1 h
  obtain ⟨p, hp, rfl, -⟩ := forall₂_mem_left happs e (List.mem_filter.2 ⟨he, hown⟩)
  intro hnone
  simpa using List.lookup_eq_none_iff.1 hnone p hp

end SatNet.Apps
