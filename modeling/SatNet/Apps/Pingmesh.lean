/-
`PingmeshScheduler` of `pingmesh-scheduler.cc`: the pairs of endpoints that ping each other, a server on every
endpoint, and a client for every pair, the clients of one source one after the other.
-/
import SatNet.Apps.Schedule
import SatNet.Lib.Partition

namespace SatNet.Apps

open SatNet.ExpUtil SatNet.Loop

/-! ## The pairs -/

/-- One of the select pairs, `a->b`. -/
def parsePingPair (topology : Topology) (s : Str) : Res (Nat × Nat) := do
  let spl ← splitStringExpected s "->".toList 2
  let a ← index spl 0 >>= parsePositiveInt64
  let b ← index spl 1 >>= parsePositiveInt64
  if a = b then .error (.invalidArgument s!"Cannot have pingmesh pair to itself on node {a}")
  else if !topology.isValidEndpoint a then
    .error (.invalidArgument s!"Left node identifier in pingmesh pair is not a valid endpoint: {a}")
  else if !topology.isValidEndpoint b then
    .error (.invalidArgument s!"Right node identifier in pingmesh pair is not a valid endpoint: {b}")
  else .ok (a, b)

/-- The pairs of one source with every other endpoint. -/
def pairsFrom (endpoints : List Nat) (i : Nat) : List (Nat × Nat) := (endpoints.filter (· ≠ i)).map fun j => (i, j)

/-- `m_pingmesh_endpoint_pairs` before it is sorted. -/
def pingmeshEndpointPairs (b : BasicSimulation) (topology : Topology) (pairStr : Str) : Res (List (Nat × Nat)) :=
  if pairStr = "all".toList then
    forEach (fun pairs i => do
      let mine ← b.responsible i
      .ok (if mine then pairs ++ pairsFrom topology.endpoints i else pairs)) topology.endpoints []
  else do
    let stringSet ← parseSetString pairStr
    forEach (fun pairs s => do
      let p ← parsePingPair topology s
      let mine ← b.responsible p.1
      .ok (if mine then pairs ++ [p] else pairs)) stringSet []

/-! ## The clients -/

/-- The application that `UdpRttClientHelper` installs: the node it is on, its remote and attributes, and when
it starts. The helper takes the two ids as `uint32_t`. -/
structure PingClient where
  node : Nat
  remote : Address
  fromNodeId : Nat
  toNodeId : Nat
  intervalNs : Nat
  startNs : Int
  deriving Repr, DecidableEq

/-- `m_interval_ns / (endpoints.size() - 1)`, a division of `size_t`. -/
def inBetweenNs (intervalNs endpoints : Nat) : Res Int :=
  let divisor := toUInt64 ((endpoints : Int) - 1)
  if divisor = 0 then .error (.undefined "division by zero") else .ok (toInt64 (intervalNs / divisor : Nat))

/-- The client of a pair that is the `counter`-th of its source. -/
def newPingClient (topology : Topology) (intervalNs : Nat) (inBetween counter : Int) (p : Nat × Nat) :
    Res PingClient := do
  let remote ← topology.node p.2 >>= firstAddress
  let _ ← topology.node p.1
  let startNs ← int64 (counter * inBetween)
  .ok { node := toUInt32 p.1, remote, fromNodeId := toUInt32 p.1, toNodeId := toUInt32 p.2, intervalNs, startNs }

/-- What the loop over the pairs changes. -/
structure PingClients where
  prevI : Int
  counter : Int
  apps : List PingClient

/-- One round of the loop over the pairs. -/
def installPingClient (topology : Topology) (intervalNs : Nat) (inBetween : Int) (st : PingClients) (p : Nat × Nat) :
    Res PingClients := do
  let st := if (p.1 : Int) ≠ st.prevI then { st with prevI := (p.1 : Int), counter := 0 } else st
  let app ← newPingClient topology intervalNs inBetween st.counter p
  let counter ← int32 (st.counter + 1)
  .ok { st with counter, apps := st.apps ++ [app] }

/-! ## The constructor -/

/-- The fields of the scheduler, with the nodes it has installed a server on. -/
structure PingmeshScheduler where
  intervalNs : Nat
  pingmeshEndpointPairs : List (Nat × Nat)
  servers : List Nat
  apps : List PingClient

/-- The constructor after the parameters were read. -/
def preparePingmesh (b : BasicSimulation) (topology : Topology) (intervalNs : Nat) (pairStr : Str) :
    Res PingmeshScheduler := do
  let unsorted ← pingmeshEndpointPairs b topology pairStr
  let pairs := Ptop.sortEdges unsorted
  let servers ← keepResponsible b id topology.endpoints
  let _ ← forEach (fun _ endpoint => topology.node endpoint >>= fun _ => .ok ()) servers ()
  let inBetween ← inBetweenNs intervalNs topology.endpoints.length
  let st ← forEach (installPingClient topology intervalNs inBetween) pairs ⟨-1, 0, []⟩
  .ok { intervalNs, pingmeshEndpointPairs := pairs, servers, apps := st.apps }

/-- `PingmeshScheduler(basicSimulation, topology)`; `none` where it is not enabled. -/
def pingmeshScheduler (b : BasicSimulation) (topology : Topology) : Res (Option PingmeshScheduler) := do
  let enabled ← parseBoolean (getParamOrDefault "enable_pingmesh_scheduler" "false" b.config)
  if !enabled then .ok none
  else do
    let intervalNs ← getParamOrFail "pingmesh_interval_ns" b.config >>= parsePositiveInt64
    let pairStr := getParamOrDefault "pingmesh_endpoint_pairs" "all" b.config
    let s ← preparePingmesh b topology intervalNs pairStr
    .ok (some s)

/-! ## The pairs of a system -/

/-- The pairs that a specification names, of whatever system, in its order. -/
def specifiedPairs (topology : Topology) (pairStr : Str) : Res (List (Nat × Nat)) :=
  if pairStr = "all".toList then .ok (topology.endpoints.flatMap (pairsFrom topology.endpoints))
  else do
    let stringSet ← parseSetString pairStr
    forEach (fun pairs s => do
      let p ← parsePingPair topology s
      .ok (pairs ++ [p])) stringSet []

variable {b : BasicSimulation} {topology : Topology} {pairStr : Str}

theorem parsePingPair_ok {s : Str} {p : Nat × Nat} (h : parsePingPair topology s = .ok p) :
    p.1 ≠ p.2 ∧ topology.isValidEndpoint p.1 = true ∧ topology.isValidEndpoint p.2 = true := by
  obtain ⟨spl, -, h⟩ := bind_ok h
  obtain ⟨a, -, h⟩ := bind_ok h
  obtain ⟨c, -, h⟩ := bind_ok h
  split at h
  · cases h
  · rename_i hne
    split at h
    · cases h
    · rename_i ha
      split at h
      · cases h
      · rename_i hc
        cases h
        exact ⟨hne, by simpa using ha, by simpa using hc⟩

theorem mem_pairsFrom {endpoints : List Nat} {i : Nat} {p : Nat × Nat} :
    p ∈ pairsFrom endpoints i ↔ p.1 = i ∧ p.2 ∈ endpoints ∧ p.2 ≠ i := by
  unfold pairsFrom
  simp only [List.mem_map, List.mem_filter, decide_eq_true_eq]
  constructor
  · rintro ⟨j, ⟨hj, hne⟩, rfl⟩
    exact ⟨rfl, hj, hne⟩
  · rintro ⟨rfl, hj, hne⟩
    exact ⟨p.2, ⟨hj, hne⟩, rfl⟩

/-- The strings of a set, each parsed. -/
theorem specifiedPairs_select (hne : pairStr ≠ "all".toList) {pairs : List (Nat × Nat)} :
    specifiedPairs topology pairStr = .ok pairs ↔
      ∃ strings, parseSetString pairStr = .ok strings ∧
        List.Forall₂ (fun s p => parsePingPair topology s = .ok p) strings pairs := by
  unfold specifiedPairs
  rw [if_neg hne, bind_eq_ok]
  refine exists_congr fun strings => and_congr_right fun _ => ?_
  rw [forEach_read (parsePingPair topology) (fun s p => s ++ [p]) strings [] pairs]
  simp only [foldl_collect, List.nil_append]
  exact ⟨fun ⟨vs, hvs, he⟩ => he ▸ hvs, fun h => ⟨pairs, h, rfl⟩⟩

/-- A system keeps the pairs whose source is one of its nodes; it looks up every source, and for all pairs
every endpoint. -/
theorem pingmeshEndpointPairs_ok {pairs : List (Nat × Nat)} :
    pingmeshEndpointPairs b topology pairStr = .ok pairs ↔
      ∃ all, specifiedPairs topology pairStr = .ok all ∧
        (b.distributedEnabled = true → (∀ p ∈ all, p.1 < b.distributedNodeSystemIdAssignment.length) ∧
          (pairStr = "all".toList → ∀ e ∈ topology.endpoints, e < b.distributedNodeSystemIdAssignment.length)) ∧
        pairs = all.filter fun p => b.owns p.1 := by
  by_cases hall : pairStr = "all".toList
  · have hread : ∀ vs, List.Forall₂ (fun x v => (.ok x : Res Nat) = .ok v) topology.endpoints vs ↔
        topology.endpoints = vs := by
      simp [← List.forall₂_eq_eq_eq]
    have h := forEach_responsible (b := b) (.ok : Nat → Res Nat) id (pairsFrom topology.endpoints)
      topology.endpoints [] pairs
    have hfilter := Partition.flatMap_filter (pairsFrom topology.endpoints) b.owns (fun p => b.owns p.1)
      (fun _ _ hp => by rw [(mem_pairsFrom.1 hp).1]) topology.endpoints
    simp only [hread, ok_bind, id_eq, exists_eq_left', List.nil_append] at h
    unfold pingmeshEndpointPairs specifiedPairs
    rw [if_pos hall, if_pos hall, h]
    simp only [Except.ok.injEq, exists_eq_left', hfilter, hall, true_implies]
    refine and_congr_left fun _ => imp_congr_right fun _ => ⟨fun hlt => ⟨fun p hp => ?_, hlt⟩, fun hlt => hlt.2⟩
    obtain ⟨e, he, hp⟩ := List.mem_flatMap.1 hp
    rw [(mem_pairsFrom.1 hp).1]
    exact hlt e he
  · unfold pingmeshEndpointPairs
    rw [if_neg hall, bind_eq_ok]
    simp only [forEach_responsible (parsePingPair topology) Prod.fst (fun p => [p]), specifiedPairs_select hall, hall,
      false_implies, and_true, List.nil_append, List.flatMap_singleton']
    constructor
    · rintro ⟨strings, hset, all, hpairs, hlt, rfl⟩
      exact ⟨all, ⟨strings, hset, hpairs⟩, hlt, rfl⟩
    · rintro ⟨all, ⟨strings, hset, hpairs⟩, hlt, rfl⟩
      exact ⟨strings, hset, all, hpairs, hlt, rfl⟩

/-! ## The place of a pair among those of its source -/

/-- Every pair with the number of pairs before it that have the same source. -/
def numbered : List (Nat × Nat) → List (Nat × Nat) → List ((Nat × Nat) × Nat)
  | _, [] => []
  | done, p :: l => (p, done.countP fun q => q.1 = p.1) :: numbered (done ++ [p]) l

/-- A system that keeps all pairs of a source or none numbers them as the whole run does. -/
theorem numbered_filter (keep : Nat → Bool) : ∀ l done : List (Nat × Nat),
    numbered (done.filter fun p => keep p.1) (l.filter fun p => keep p.1) =
      (numbered done l).filter fun x => keep x.1.1
  | [], _ => rfl
  | p :: l, done => by
    have ih := numbered_filter keep l (done ++ [p])
    rw [List.filter_append] at ih
    cases hp : keep p.1 with
    | false => simpa [hp, numbered] using ih
    | true =>
      have hcount : (done.filter fun p => keep p.1).countP (fun q => q.1 = p.1) = done.countP fun q => q.1 = p.1 := by
        rw [List.countP_filter]
        refine List.countP_congr fun q _ => ?_
        by_cases hq : q.1 = p.1 <;> simp [hq, hp]
      simpa [hp, numbered, hcount] using ih

/-- The client of a numbered pair; the counter goes on in an `int`. -/
def numberedClient (topology : Topology) (intervalNs : Nat) (inBetween : Int) (x : (Nat × Nat) × Nat) :
    Res PingClient := do
  let app ← newPingClient topology intervalNs inBetween x.2 x.1
  let _ ← int32 (x.2 + 1)
  .ok app

theorem numbered_fst : ∀ l done : List (Nat × Nat), (numbered done l).map Prod.fst = l
  | [], _ => rfl
  | p :: l, done => by rw [numbered, List.map_cons, numbered_fst l]

/-- Clients of a source start a fixed time after one another. -/
theorem numberedClient_start {topology : Topology} {intervalNs : Nat} {inBetween : Int} {x : (Nat × Nat) × Nat}
    {app : PingClient} (h : numberedClient topology intervalNs inBetween x = .ok app) :
    app.startNs = x.2 * inBetween := by
  obtain ⟨app', happ, h⟩ := bind_ok h
  obtain ⟨_, -, h⟩ := bind_ok h
  cases h
  obtain ⟨remote, -, happ⟩ := bind_ok happ
  obtain ⟨_, -, happ⟩ := bind_ok happ
  obtain ⟨start, hstart, happ⟩ := bind_ok happ
  cases happ
  exact int64_ok hstart

/-- The loop over the sorted pairs after `done`. -/
structure Counting (done : List (Nat × Nat)) (st : PingClients) : Prop where
  le : ∀ q ∈ done, (q.1 : Int) ≤ st.prevI
  source : st.prevI = -1 ∨ ∃ q ∈ done, (q.1 : Int) = st.prevI
  counter : st.counter = (done.countP fun q => (q.1 : Int) = st.prevI : Nat)

theorem counting_initial : Counting [] ⟨-1, 0, []⟩ := ⟨by simp, .inl rfl, rfl⟩

variable {intervalNs : Nat} {inBetween : Int}

/-- A round installs the numbered client. -/
theorem installPingClient_ok {done : List (Nat × Nat)} {st st' : PingClients} {p : Nat × Nat} (hc : Counting done st)
    (hle : ∀ q ∈ done, q.1 ≤ p.1) :
    installPingClient topology intervalNs inBetween st p = .ok st' ↔
      ∃ app, numberedClient topology intervalNs inBetween (p, done.countP fun q => q.1 = p.1) = .ok app ∧
        st' = ⟨p.1, (done.countP fun q => q.1 = p.1 : Nat) + 1, st.apps ++ [app]⟩ := by
  have hnow : (if (p.1 : Int) ≠ st.prevI then { st with prevI := (p.1 : Int), counter := 0 } else st) =
      ⟨p.1, (done.countP fun q => q.1 = p.1 : Nat), st.apps⟩ := by
    split
    · rename_i hne
      have hzero : done.countP (fun q => q.1 = p.1) = 0 := by
        rw [List.countP_eq_zero]
        intro q hq he
        have hq₁ := hc.le q hq
        have hq₂ := of_decide_eq_true he
        rcases hc.source with hs | ⟨r, hr, hs⟩
        · omega
        · have := hle r hr
          omega
      rw [hzero]
      rfl
    · rename_i he
      have hcount : done.countP (fun q => (q.1 : Int) = st.prevI) = done.countP fun q => q.1 = p.1 :=
        List.countP_congr fun q _ => by rw [decide_eq_true_eq, decide_eq_true_eq, ← not_not.1 he, Int.natCast_inj]
      rw [← hcount, ← hc.counter, not_not.1 he]
  unfold installPingClient numberedClient
  simp only [hnow, bind_eq_ok, Except.ok.injEq]
  constructor
  · rintro ⟨app, happ, c, hcnt, rfl⟩
    exact ⟨app, ⟨app, happ, c, hcnt, rfl⟩, by rw [int32_ok hcnt]⟩
  · rintro ⟨app, ⟨_, happ, c, hcnt, rfl⟩, rfl⟩
    exact ⟨_, happ, c, hcnt, by rw [int32_ok hcnt]⟩

theorem Counting.next {done : List (Nat × Nat)} {p : Nat × Nat} {apps : List PingClient}
    (hle : ∀ q ∈ done, q.1 ≤ p.1) :
    Counting (done ++ [p]) ⟨p.1, (done.countP fun q => q.1 = p.1 : Nat) + 1, apps⟩ where
  le := by
    intro q hq
    rcases List.mem_append.1 hq with hq | hq
    · exact Int.ofNat_le.2 (hle q hq)
    · rw [List.mem_singleton.1 hq]
  source := .inr ⟨p, by simp, rfl⟩
  counter := by simp

/-- The loop over sorted pairs installs the numbered clients. -/
theorem installPingClients_ok {apps : List PingClient} : ∀ {l done : List (Nat × Nat)} {st : PingClients},
    (done ++ l).Pairwise (fun p q => p.1 ≤ q.1) → Counting done st →
    ((∃ st', forEach (installPingClient topology intervalNs inBetween) l st = .ok st' ∧ st'.apps = apps) ↔
      ∃ new, List.Forall₂ (fun x app => numberedClient topology intervalNs inBetween x = .ok app)
        (numbered done l) new ∧ apps = st.apps ++ new)
  | [], done, st, _, _ => by simp [forEach, numbered, eq_comm]
  | p :: l, done, st, hs, hc => by
    have hle : ∀ q ∈ done, q.1 ≤ p.1 := fun q hq => (List.pairwise_append.1 hs).2.2 q hq p (by simp)
    have hs' : ((done ++ [p]) ++ l).Pairwise fun p q => p.1 ≤ q.1 := by simpa using hs
    unfold forEach
    simp only [bind_eq_ok, installPingClient_ok hc hle, numbered, List.forall₂_cons_left_iff]
    constructor
    · rintro ⟨st', ⟨_, ⟨app, happ, rfl⟩, hl⟩, rfl⟩
      obtain ⟨new, hnew, he⟩ := (installPingClients_ok hs' (Counting.next hle)).1 ⟨st', hl, rfl⟩
      exact ⟨app :: new, ⟨app, new, happ, hnew, rfl⟩, by simpa using he⟩
    · rintro ⟨_, ⟨app, new, happ, hnew, rfl⟩, rfl⟩
      obtain ⟨st', hl, he⟩ := (installPingClients_ok hs' (Counting.next hle)).2
        ⟨new, hnew, (List.append_assoc st.apps [app] new).symm⟩
      exact ⟨st', ⟨_, ⟨app, happ, rfl⟩, hl⟩, by rw [he]; simp⟩

theorem sortEdges_sources (l : List (Nat × Nat)) : (Ptop.sortEdges l).Pairwise fun p q => p.1 ≤ q.1 := by
  refine (Ptop.sortEdges_pairwise l).imp fun {p q} h => ?_
  unfold Ptop.edgeLt at h
  omega

/-! ## What the constructor leaves -/

/-- The constructor succeeds exactly if the pairs are accepted, their sources and the endpoints are assigned, and
every client of this system can be installed. -/
theorem preparePingmesh_ok {s : PingmeshScheduler} :
    preparePingmesh b topology intervalNs pairStr = .ok s ↔
      ∃ all inBetween apps, specifiedPairs topology pairStr = .ok all ∧
        inBetweenNs intervalNs topology.endpoints.length = .ok inBetween ∧
        (b.distributedEnabled = true → (∀ p ∈ all, p.1 < b.distributedNodeSystemIdAssignment.length) ∧
          ∀ e ∈ topology.endpoints, e < b.distributedNodeSystemIdAssignment.length) ∧
        List.Forall₂ (fun x app => numberedClient topology intervalNs inBetween x = .ok app)
          ((numbered [] (Ptop.sortEdges all)).filter fun x => b.owns x.1.1) apps ∧
        s = ⟨intervalNs, (Ptop.sortEdges all).filter fun p => b.owns p.1,
          topology.endpoints.filter fun e => b.owns e, apps⟩ := by
  have hclients : ∀ all inBetween apps,
      (∃ st', forEach (installPingClient topology intervalNs inBetween)
        ((Ptop.sortEdges all).filter fun p => b.owns p.1) ⟨-1, 0, []⟩ = .ok st' ∧ st'.apps = apps) ↔
      List.Forall₂ (fun x app => numberedClient topology intervalNs inBetween x = .ok app)
        ((numbered [] (Ptop.sortEdges all)).filter fun x => b.owns x.1.1) apps := by
    intro all inBetween apps
    have hs : (([] : List (Nat × Nat)) ++ (Ptop.sortEdges all).filter fun p => b.owns p.1).Pairwise
        fun p q => p.1 ≤ q.1 := (sortEdges_sources all).filter _
    rw [installPingClients_ok hs counting_initial, ← numbered_filter b.owns (Ptop.sortEdges all) [], List.filter_nil]
    simp
  unfold preparePingmesh
  rw [bind_eq_ok]
  simp only [bind_eq_ok, pingmeshEndpointPairs_ok, keepResponsible_ok, id_eq, Except.ok.injEq]
  constructor
  · rintro ⟨_, ⟨all, hall, hlt, rfl⟩, _, ⟨hend, rfl⟩, _, -, inBetween, hbetween, st, hst, rfl⟩
    rw [Ptop.sortEdges_filter] at hst
    refine ⟨all, inBetween, st.apps, hall, hbetween, fun hd => ⟨(hlt hd).1, hend hd⟩,
      (hclients all inBetween st.apps).1 ⟨st, hst, rfl⟩, ?_⟩
    rw [Ptop.sortEdges_filter]
  · rintro ⟨all, inBetween, apps, hall, hbetween, hlt, happs, rfl⟩
    obtain ⟨st, hst, rfl⟩ := (hclients all inBetween apps).2 happs
    refine ⟨_, ⟨all, hall, fun hd => ⟨(hlt hd).1, fun _ => (hlt hd).2⟩, rfl⟩, _, ⟨fun hd => (hlt hd).2, rfl⟩, (),
      installOnEndpoints topology _, inBetween, hbetween, st, ?_, ?_⟩
    · rw [Ptop.sortEdges_filter]
      exact hst
    · rw [Ptop.sortEdges_filter]

/-! ## Which set-ups end -/

/-- In a distributed run every source that is listed and every endpoint is assigned to a system. -/
def Assigned (b : BasicSimulation) (topology : Topology) (all : List (Nat × Nat)) : Prop :=
  b.distributedEnabled = true → (∀ p ∈ all, p.1 < b.distributedNodeSystemIdAssignment.length) ∧
    ∀ e ∈ topology.endpoints, e < b.distributedNodeSystemIdAssignment.length

/-- The listed pairs whose source is of this system, sorted. -/
def ownPairs (b : BasicSimulation) (all : List (Nat × Nat)) : List (Nat × Nat) :=
  (Ptop.sortEdges all).filter fun p => b.owns p.1

/-- The number of the listed pairs with a source. -/
def pairsOf (i : Nat) (l : List (Nat × Nat)) : Nat := l.countP fun q => q.1 = i

/-- Every client can be installed: the nodes are found, the target has an address, and no source has so many pairs that
their counter leaves its `int` or the last start time its `int64_t`. -/
structure Installable (b : BasicSimulation) (topology : Topology) (intervalNs : Nat) (all : List (Nat × Nat)) :
    Prop where
  nodes : ∀ q ∈ ownPairs b all, ∃ n, topology.node q.1 = .ok n
  address : ∀ q ∈ ownPairs b all, ∃ remote, topology.node q.2 >>= firstAddress = .ok remote
  few : ∀ i, pairsOf i (ownPairs b all) < 2 ^ 31
  within : ∀ i, (pairsOf i (ownPairs b all) - 1) * (intervalNs / (topology.endpoints.length - 1)) < 2 ^ 63

section Ends

variable {all : List (Nat × Nat)}

theorem mem_ownPairs {q : Nat × Nat} : q ∈ ownPairs b all ↔ q ∈ all ∧ b.owns q.1 = true := by
  unfold ownPairs
  rw [List.mem_filter, Ptop.mem_sortEdges]

/-- The numbered pairs of a system. -/
theorem numbered_ownPairs : (numbered [] (Ptop.sortEdges all)).filter (fun x => b.owns x.1.1) =
    numbered [] (ownPairs b all) := by
  have h := numbered_filter b.owns (Ptop.sortEdges all) []
  rw [List.filter_nil] at h
  exact h.symm

theorem endpoints_nodup (topology : Topology) : topology.endpoints.Nodup := topology.endpoints_sorted.imp Nat.ne_of_lt

theorem endpoints_length_lt (topology : Topology) : topology.endpoints.length < 2 ^ 32 := by
  have hsub : topology.endpoints ⊆ List.range topology.nodes.length := fun e he =>
    List.mem_range.2 (topology.endpoints_lt e he)
  have hle := (List.subperm_of_subset (endpoints_nodup topology) hsub).length_le
  rw [List.length_range] at hle
  exact Nat.lt_of_le_of_lt hle topology.nodes_lt

/-- What an `int64_t` interval is divided into; without endpoints the divisor is too large for it. -/
theorem inBetweenNs_eq (hi : intervalNs < 2 ^ 63) {n : Nat} (hn : n < 2 ^ 32) (h1 : n ≠ 1) :
    inBetweenNs intervalNs n = .ok ((intervalNs / (n - 1) : Nat) : Int) := by
  have hd : toUInt64 ((n : Int) - 1) = if n = 0 then 2 ^ 64 - 1 else n - 1 := by
    unfold toUInt64
    split <;> omega
  have hquotient : intervalNs / toUInt64 ((n : Int) - 1) = intervalNs / (n - 1) := by
    rw [hd]
    split
    · rename_i h0
      rw [h0, Nat.div_eq_of_lt (by omega), Nat.zero_sub, Nat.div_zero]
    · rfl
  have hle := Nat.div_le_self intervalNs (n - 1)
  unfold inBetweenNs
  simp only
  rw [if_neg (by rw [hd]; split <;> omega), hquotient]
  generalize intervalNs / (n - 1) = q at hle ⊢
  rw [toInt64_eq (by omega) (by omega)]

theorem numberedClient_ok {inBetween : Int} (h0 : 0 ≤ inBetween) {x : (Nat × Nat) × Nat} {app : PingClient} :
    numberedClient topology intervalNs inBetween x = .ok app ↔
      (∃ n, topology.node x.1.1 = .ok n) ∧ x.2 + 1 < 2 ^ 31 ∧ x.2 * inBetween < 2 ^ 63 ∧
        ∃ remote, topology.node x.1.2 >>= firstAddress = .ok remote ∧
          app = ⟨toUInt32 x.1.1, remote, toUInt32 x.1.1, toUInt32 x.1.2, intervalNs, x.2 * inBetween⟩ := by
  have hmul : 0 ≤ x.2 * inBetween := mul_nonneg (Int.natCast_nonneg _) h0
  have h64 : ∀ y, int64 (x.2 * inBetween) = .ok y ↔ x.2 * inBetween < 2 ^ 63 ∧ y = x.2 * inBetween := fun y => by
    rw [int64_ok_iff]
    omega
  have h32 : ∀ y, int32 (x.2 + 1) = .ok y ↔ x.2 + 1 < 2 ^ 31 ∧ y = x.2 + 1 := fun y => by
    rw [int32_ok_iff]
    omega
  unfold numberedClient newPingClient
  simp only [bind_eq_ok, h64, h32, Except.ok.injEq]
  constructor
  · rintro ⟨_, ⟨remote, hremote, n, hn, _, ⟨hlt, rfl⟩, rfl⟩, _, ⟨hcount, rfl⟩, rfl⟩
    exact ⟨⟨n, hn⟩, hcount, hlt, remote, hremote, rfl⟩
  · rintro ⟨⟨n, hn⟩, hcount, hlt, remote, hremote, rfl⟩
    exact ⟨_, ⟨remote, hremote, n, hn, _, ⟨hlt, rfl⟩, rfl⟩, _, ⟨hcount, rfl⟩, rfl⟩

/-- The number of a pair is below that of the pairs of its source. -/
theorem numbered_lt : ∀ {l done : List (Nat × Nat)} {x : (Nat × Nat) × Nat}, x ∈ numbered done l →
    x.1 ∈ l ∧ x.2 + 1 ≤ pairsOf x.1.1 (done ++ l)
  | p :: l, done, x, h => by
    rcases List.mem_cons.1 h with rfl | h
    · refine ⟨List.mem_cons_self .., ?_⟩
      simp [pairsOf, List.countP_append]
    · obtain ⟨hmem, hle⟩ := numbered_lt h
      exact ⟨List.mem_cons_of_mem _ hmem, by simpa using hle⟩

/-- The last pair of a source has the number before that of its pairs. -/
theorem numbered_last {i : Nat} : ∀ {l done : List (Nat × Nat)}, 0 < pairsOf i l →
    ∃ x ∈ numbered done l, x.2 + 1 = pairsOf i (done ++ l)
  | [], _, h => absurd h (by simp [pairsOf])
  | p :: l, done, h => by
    by_cases hl : 0 < pairsOf i l
    · obtain ⟨x, hx, hcount⟩ := @numbered_last i l (done ++ [p]) hl
      exact ⟨x, List.mem_cons_of_mem _ hx, by simpa using hcount⟩
    · have hp : p.1 = i := by
        by_contra hne
        exact hl (by simpa [pairsOf, hne] using h)
      have hzero : pairsOf i l = 0 := by omega
      refine ⟨_, List.mem_cons_self .., ?_⟩
      unfold pairsOf at hzero ⊢
      rw [List.countP_append, List.countP_cons, hzero]
      simp [hp]

theorem numbered_last_first {i : Nat} {l : List (Nat × Nat)} (h : 0 < pairsOf i l) :
    ∃ x ∈ numbered [] l, x.2 + 1 = pairsOf i l :=
  @numbered_last i l [] h

/-- The clients of a system can be installed one after the other exactly if each can. -/
theorem installable_iff_clients : Installable b topology intervalNs all ↔
    ∃ apps, List.Forall₂ (fun x app => numberedClient topology intervalNs
      ((intervalNs / (topology.endpoints.length - 1) : Nat) : Int) x = .ok app) (numbered [] (ownPairs b all)) apps := by
  constructor
  · intro hinst
    refine forall₂_exists fun x hx => ?_
    obtain ⟨hmem, hle⟩ := numbered_lt hx
    rw [List.nil_append] at hle
    obtain ⟨remote, hremote⟩ := hinst.address x.1 hmem
    have hlt : x.2 * (intervalNs / (topology.endpoints.length - 1)) < 2 ^ 63 :=
      Nat.lt_of_le_of_lt (Nat.mul_le_mul_right _ (by omega)) (hinst.within x.1.1)
    exact ⟨_, (numberedClient_ok (Int.natCast_nonneg _)).2
      ⟨hinst.nodes x.1 hmem, Nat.lt_of_le_of_lt hle (hinst.few x.1.1), by exact_mod_cast hlt, remote, hremote, rfl⟩⟩
  · rintro ⟨apps, happs⟩
    have hclient : ∀ x ∈ numbered [] (ownPairs b all), (∃ n, topology.node x.1.1 = .ok n) ∧ x.2 + 1 < 2 ^ 31 ∧
        x.2 * ((intervalNs / (topology.endpoints.length - 1) : Nat) : Int) < 2 ^ 63 ∧
        ∃ remote, topology.node x.1.2 >>= firstAddress = .ok remote := by
      intro x hx
      obtain ⟨c, -, hc⟩ := forall₂_mem_left happs x hx
      obtain ⟨hnode, hcount, hlt, remote, hremote, -⟩ := (numberedClient_ok (Int.natCast_nonneg _)).1 hc
      exact ⟨hnode, hcount, hlt, remote, hremote⟩
    have hpair : ∀ q ∈ ownPairs b all, ∃ x ∈ numbered [] (ownPairs b all), x.1 = q := fun q hq =>
      List.mem_map.1 ((numbered_fst (ownPairs b all) []).symm ▸ hq)
    refine ⟨fun q hq => ?_, fun q hq => ?_, fun i => ?_, fun i => ?_⟩
    · obtain ⟨x, hx, rfl⟩ := hpair q hq
      exact (hclient x hx).1
    · obtain ⟨x, hx, rfl⟩ := hpair q hq
      exact (hclient x hx).2.2.2
    -- the bounds of a source are those of its last client
    · rcases Nat.eq_zero_or_pos (pairsOf i (ownPairs b all)) with h0 | hpos
      · rw [h0]
        decide
      · obtain ⟨x, hx, hcount⟩ := numbered_last_first hpos
        rw [← hcount]
        exact (hclient x hx).2.1
    · rcases Nat.eq_zero_or_pos (pairsOf i (ownPairs b all)) with h0 | hpos
      · rw [h0]
        simp
      · obtain ⟨x, hx, hcount⟩ := numbered_last_first hpos
        rw [← hcount, Nat.add_sub_cancel]
        exact_mod_cast (hclient x hx).2.2.1

/-- The set-up ends exactly if there is not a single endpoint, the nodes are assigned, and the clients can be
installed. -/
theorem preparePingmesh_ends_iff (hi : intervalNs < 2 ^ 63) (hall : specifiedPairs topology pairStr = .ok all) :
    (∃ s, preparePingmesh b topology intervalNs pairStr = .ok s) ↔
      topology.endpoints.length ≠ 1 ∧ Assigned b topology all ∧ Installable b topology intervalNs all := by
  rw [installable_iff_clients, ← numbered_ownPairs]
  constructor
  · rintro ⟨s, hs⟩
    obtain ⟨all', inBetween, apps, hall', hbetween, ha, happs, rfl⟩ := preparePingmesh_ok.1 hs
    cases hall.symm.trans hall'
    have hn : topology.endpoints.length ≠ 1 := by
      intro h
      rw [h] at hbetween
      cases hbetween
    cases hbetween.symm.trans (inBetweenNs_eq hi (endpoints_length_lt topology) hn)
    exact ⟨hn, ha, apps, happs⟩
  · rintro ⟨hn, ha, apps, happs⟩
    exact ⟨_, preparePingmesh_ok.2 ⟨all, _, apps, hall, inBetweenNs_eq hi (endpoints_length_lt topology) hn, ha, happs,
      rfl⟩⟩

end Ends

end SatNet.Apps
