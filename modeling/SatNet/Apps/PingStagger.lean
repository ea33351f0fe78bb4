/-
How the pingmesh scheduler staggers the pings of a source: its pairs start one after the other within one interval,
exactly if there is not a single endpoint, no pair is spelled twice and every id is a node that can be reached.
-/
import SatNet.Apps.Endpoints
import SatNet.Apps.Pingmesh

namespace SatNet.Apps

open SatNet.ExpUtil SatNet.Loop

/-! ## What is claimed -/

/-- The failure of `inBetweenNs`. -/
def divisionByZero : Fail := .undefined "division by zero"

def PingClient.pair (c : PingClient) : Nat × Nat := (c.fromNodeId, c.toNodeId)

/-- The clients are those of the listed pairs whose source is of this system, each once. Those of one source start in
the order of their targets, a fixed time after one another and before the interval is over; none at the same time as
another one if the interval has that many nanoseconds. -/
structure Staggered (b : BasicSimulation) (endpoints intervalNs : Nat) (all : List (Nat × Nat)) (apps : List PingClient) :
    Prop where
  nodup : (apps.map PingClient.pair).Nodup
  ne : ∀ c ∈ apps, c.fromNodeId ≠ c.toNodeId
  mem : ∀ q, q ∈ apps.map PingClient.pair ↔ q ∈ all ∧ b.owns q.1 = true
  start : ∃ inBetween, inBetweenNs intervalNs endpoints = .ok inBetween ∧ ∀ c ∈ apps, c.startNs =
    (apps.countP fun c' => c'.fromNodeId = c.fromNodeId ∧ c'.toNodeId < c.toNodeId : Nat) * inBetween
  lt : ∀ c ∈ apps, 0 ≤ c.startNs ∧ c.startNs < intervalNs
  distinct : endpoints ≤ intervalNs + 1 → ∀ c ∈ apps, ∀ c' ∈ apps, c.fromNodeId = c'.fromNodeId →
    c.startNs = c'.startNs → c.pair = c'.pair

/-- The set-up divides by no zero, and for pairs that are accepted it ends with them staggered. -/
structure StaggersPings (b : BasicSimulation) (topology : Topology) (intervalNs : Nat) (pairStr : Str) : Prop where
  divides : preparePingmesh b topology intervalNs pairStr ≠ .error divisionByZero
  staggered : ∀ all, specifiedPairs topology pairStr = .ok all →
    ∃ s, preparePingmesh b topology intervalNs pairStr = .ok s ∧
      Staggered b topology.endpoints.length intervalNs all s.apps

/-- What the pairs of a system must be for it: apart as pairs of integers, no more of a source than an `int` counts, and
between nodes, of which the target has an address. -/
structure Staggerable (b : BasicSimulation) (topology : Topology) (all : List (Nat × Nat)) : Prop where
  several : topology.endpoints.length ≠ 1
  assigned : Assigned b topology all
  nodup : (ownPairs b all).Nodup
  few : ∀ i, pairsOf i (ownPairs b all) < 2 ^ 31
  source : ∀ q ∈ ownPairs b all, q.1 < topology.nodes.length
  target : ∀ q ∈ ownPairs b all, HasAddress topology q.2

/-! ## Places -/

/-- In sorted pairs the place of a pair is the number of the pairs of its source with a smaller target. -/
theorem numbered_rank : ∀ {l done : List (Nat × Nat)}, (done ++ l).Pairwise Ptop.edgeLt → ∀ x ∈ numbered done l,
    x.2 = (done ++ l).countP fun q => q.1 = x.1.1 ∧ q.2 < x.1.2
  | [], _, _ => nofun
  | p :: l, done, hs => by
    intro x hx
    rcases List.mem_cons.1 hx with rfl | hx
    · obtain ⟨-, hl, hcross⟩ := List.pairwise_append.1 hs
      have hpl := (List.pairwise_cons.1 hl).1
      have hdone : done.countP (fun q => q.1 = p.1 ∧ q.2 < p.2) = done.countP fun q => q.1 = p.1 := by
        refine List.countP_congr fun q hq => ?_
        have hlt := hcross q hq p (List.mem_cons_self ..)
        unfold Ptop.edgeLt at hlt
        simp only [decide_eq_true_eq]
        omega
      have hrest : (p :: l).countP (fun q => q.1 = p.1 ∧ q.2 < p.2) = 0 := by
        rw [List.countP_eq_zero]
        intro q hq
        simp only [decide_eq_true_eq]
        rcases List.mem_cons.1 hq with rfl | hq
        · omega
        · have hlt := hpl q hq
          unfold Ptop.edgeLt at hlt
          omega
      rw [List.countP_append, hdone, hrest]
      rfl
    · have hs' : ((done ++ [p]) ++ l).Pairwise Ptop.edgeLt := by simpa using hs
      have h := numbered_rank hs' x hx
      simpa using h

/-- The pairs before a target are those before a smaller one and those from there on. -/
theorem rank_split (i : Nat) {j k : Nat} (hjk : j ≤ k) (l : List (Nat × Nat)) :
    l.countP (fun r => r.1 = i ∧ r.2 < k) =
      l.countP (fun r => r.1 = i ∧ r.2 < j) + l.countP fun r => r.1 = i ∧ j ≤ r.2 ∧ r.2 < k := by
  induction l with
  | nil => rfl
  | cons r l ih =>
    simp only [List.countP_cons, ih, decide_eq_true_eq]
    split_ifs <;> omega

/-- Pairs of one source with different targets have different places. -/
theorem rank_inj {l : List (Nat × Nat)} {p q : Nat × Nat} (hp : p ∈ l) (hq : q ∈ l) (hpq : p.1 = q.1)
    (h : l.countP (fun r => r.1 = p.1 ∧ r.2 < p.2) = l.countP fun r => r.1 = q.1 ∧ r.2 < q.2) : p = q := by
  have hlt : ∀ {p q : Nat × Nat}, p ∈ l → p.1 = q.1 → p.2 < q.2 →
      l.countP (fun r => r.1 = p.1 ∧ r.2 < p.2) < l.countP fun r => r.1 = q.1 ∧ r.2 < q.2 := by
    intro p q hp hpq hlt
    -- the pair with the smaller target is counted for the other one only
    have hpos : 0 < l.countP fun r => r.1 = p.1 ∧ p.2 ≤ r.2 ∧ r.2 < q.2 :=
      List.countP_pos_iff.2 ⟨p, hp, by simpa using hlt⟩
    rw [← hpq, rank_split p.1 hlt.le]
    omega
  rcases Nat.lt_trichotomy p.2 q.2 with h₂ | h₂ | h₂
  · exact absurd h (hlt hp hpq h₂).ne
  · exact Prod.ext hpq h₂
  · exact absurd h.symm (hlt hq hpq.symm h₂).ne

/-! ## The clients -/

variable {b : BasicSimulation} {topology : Topology} {intervalNs : Nat} {pairStr : Str} {all : List (Nat × Nat)}

/-- What is installed for a numbered pair. -/
def IsClient (inBetween : Int) (x : (Nat × Nat) × Nat) (c : PingClient) : Prop :=
  c.pair = (toUInt32 x.1.1, toUInt32 x.1.2) ∧ c.startNs = x.2 * inBetween

/-- A listed pair goes from an endpoint or an id that passes the test to another one. -/
theorem specifiedPairs_mem (h : specifiedPairs topology pairStr = .ok all) : ∀ p ∈ all, p.1 ≠ p.2 ∧
    (p.1 ∈ topology.endpoints ∨ topology.isValidEndpoint p.1 = true) ∧
    (p.2 ∈ topology.endpoints ∨ topology.isValidEndpoint p.2 = true) := by
  by_cases hall : pairStr = "all".toList
  · unfold specifiedPairs at h
    rw [if_pos hall] at h
    cases h
    intro p hp
    obtain ⟨e, he, hp⟩ := List.mem_flatMap.1 hp
    obtain ⟨rfl, hmem, hne⟩ := mem_pairsFrom.1 hp
    exact ⟨hne.symm, .inl he, .inl hmem⟩
  · obtain ⟨strings, -, hpairs⟩ := (specifiedPairs_select hall).1 h
    intro p hp
    obtain ⟨s, -, hs⟩ := forall₂_mem_right hpairs p hp
    obtain ⟨hne, hfrom, hto⟩ := parsePingPair_ok hs
    exact ⟨hne, .inr hfrom, .inr hto⟩

/-- What the set-up leaves, if there is not a single endpoint. -/
theorem preparePingmesh_clients (hi : intervalNs < 2 ^ 63) (hn : topology.endpoints.length ≠ 1)
    (hall : specifiedPairs topology pairStr = .ok all) {s : PingmeshScheduler}
    (hs : preparePingmesh b topology intervalNs pairStr = .ok s) :
    List.Forall₂ (IsClient ((intervalNs / (topology.endpoints.length - 1) : Nat) : Int)) (numbered [] (ownPairs b all))
      s.apps := by
  obtain ⟨all', inBetween, apps, hall', hbetween, -, happs, rfl⟩ := preparePingmesh_ok.1 hs
  cases hall.symm.trans hall'
  cases hbetween.symm.trans (inBetweenNs_eq hi (endpoints_length_lt topology) hn)
  rw [numbered_ownPairs] at happs
  refine happs.imp fun x c hc => ?_
  obtain ⟨-, -, -, remote, -, rfl⟩ := (numberedClient_ok (Int.natCast_nonneg _)).1 hc
  exact ⟨rfl, rfl⟩

/-- The clients have the ids of the listed pairs in 32 bits. -/
theorem clients_pairs {inBetween : Int} {l : List (Nat × Nat)} {apps : List PingClient}
    (h : List.Forall₂ (IsClient inBetween) (numbered [] l) apps) :
    apps.map PingClient.pair = l.map fun q => (toUInt32 q.1, toUInt32 q.2) := by
  have h' : List.Forall₂ Eq (apps.map PingClient.pair)
      ((numbered [] l).map fun x => (toUInt32 x.1.1, toUInt32 x.1.2)) := by
    rw [List.forall₂_map_left_iff, List.forall₂_map_right_iff]
    exact (h.imp fun x c h => h.1).flip
  rw [List.forall₂_eq_eq_eq] at h'
  rw [h', ← numbered_fst l [], List.map_map, numbered_fst]
  rfl

/-! ## Division -/

-- what the set-up runs before the division and after it fails in other ways

theorem index_ne {α : Type} (v : List α) (i : Nat) : index v i ≠ .error divisionByZero := by
  unfold index divisionByZero
  split
  · exact fun h => by cases h
  · simp

theorem stoll_ne (s : Str) : stoll s ≠ .error divisionByZero := by
  unfold stoll divisionByZero
  simp only
  split
  · simp
  · generalize (if (signOf (leftTrim s)).1 = true then _ else _ : Int) = val
    split <;> simp

theorem parsePositiveInt64_ne (s : Str) : parsePositiveInt64 s ≠ .error divisionByZero := by
  refine bind_ne_error ?_ fun v => by split <;> exact fun h => by cases h
  unfold parseInt64
  split
  · exact fun h => by cases h
  · rename_i e _ hs
    intro h
    cases h
    exact stoll_ne s hs
  · split <;> exact fun h => by cases h

theorem splitString_ne (line delimiter : Str) : splitString line delimiter ≠ .error divisionByZero := by
  unfold splitString
  split <;> exact fun h => by cases h

theorem parsePingPair_ne (s : Str) : parsePingPair topology s ≠ .error divisionByZero := by
  refine bind_ne_error (bind_ne_error (splitString_ne _ _) fun l => ?_) fun spl =>
    bind_ne_error (bind_ne_error (index_ne _ _) parsePositiveInt64_ne) fun a =>
    bind_ne_error (bind_ne_error (index_ne _ _) parsePositiveInt64_ne) fun c => ?_
  · split <;> exact fun h => by cases h
  · split
    · exact fun h => by cases h
    · split
      · exact fun h => by cases h
      · split <;> exact fun h => by cases h

theorem parseSetString_ne (s : Str) : parseSetString s ≠ .error divisionByZero := by
  unfold parseSetString
  split
  · exact fun h => by cases h
  · simp only
    split
    · exact fun h => by cases h
    · refine bind_ne_error (splitString_ne _ _) fun l => ?_
      split <;> exact fun h => by cases h

theorem responsible_ne (i : Nat) : b.responsible i ≠ .error divisionByZero := by
  unfold BasicSimulation.responsible
  split
  · exact bind_ne_error (index_ne _ _) fun _ h => by cases h
  · exact fun h => by cases h

theorem pingmeshEndpointPairs_ne : pingmeshEndpointPairs b topology pairStr ≠ .error divisionByZero := by
  unfold pingmeshEndpointPairs
  split
  · exact forEach_ne_error fun _ i _ => bind_ne_error (responsible_ne i) fun _ h => by cases h
  · exact bind_ne_error (parseSetString_ne _) fun _ => forEach_ne_error fun _ s _ =>
      bind_ne_error (parsePingPair_ne s) fun p => bind_ne_error (responsible_ne p.1) fun _ h => by cases h

theorem int64_ne (x : Int) : int64 x ≠ .error divisionByZero := by
  unfold int64 divisionByZero
  split
  · exact fun h => by cases h
  · simp

theorem int32_ne (x : Int) : int32 x ≠ .error divisionByZero := by
  unfold int32 divisionByZero
  split
  · exact fun h => by cases h
  · simp

theorem installPingClient_ne {inBetween : Int} (st : PingClients) (p : Nat × Nat) :
    installPingClient topology intervalNs inBetween st p ≠ .error divisionByZero := by
  have haddress : ∀ n, firstAddress n ≠ .error divisionByZero := by
    intro n
    unfold firstAddress nullPointer divisionByZero
    split
    · exact fun h => by cases h
    · simp
  exact bind_ne_error
    (bind_ne_error (bind_ne_error (index_ne _ _) haddress) fun _ =>
      bind_ne_error (index_ne _ _) fun _ => bind_ne_error (int64_ne _) fun _ h => by cases h)
    fun _ => bind_ne_error (int32_ne _) fun _ h => by cases h

/-- The set-up divides by zero exactly if it gets as far as to install the clients, for a single endpoint. -/
theorem preparePingmesh_divides : preparePingmesh b topology intervalNs pairStr ≠ .error divisionByZero ↔
    ∀ all, specifiedPairs topology pairStr = .ok all → Assigned b topology all →
      inBetweenNs intervalNs topology.endpoints.length ≠ .error divisionByZero := by
  constructor
  · intro h all hall ha hzero
    refine h ?_
    have hpairs : pingmeshEndpointPairs b topology pairStr = .ok (all.filter fun p => b.owns p.1) :=
      pingmeshEndpointPairs_ok.2 ⟨all, hall, fun hd => ⟨(ha hd).1, fun _ => (ha hd).2⟩, rfl⟩
    have hservers : keepResponsible b id topology.endpoints = .ok (topology.endpoints.filter fun e => b.owns e) :=
      keepResponsible_ok.2 ⟨fun hd => (ha hd).2, rfl⟩
    unfold preparePingmesh
    rw [hpairs, ok_bind, hservers, ok_bind, installOnEndpoints, ok_bind, hzero]
    rfl
  · intro h
    unfold preparePingmesh
    cases hpairs : pingmeshEndpointPairs b topology pairStr with
    | error e =>
      intro he
      cases he
      exact pingmeshEndpointPairs_ne hpairs
    | ok pairs =>
      obtain ⟨all, hall, hlt, rfl⟩ := pingmeshEndpointPairs_ok.1 hpairs
      rw [ok_bind]
      cases hservers : keepResponsible b id topology.endpoints with
      | error e =>
        intro he
        cases he
        exact forEach_ne_error (fun _ i _ => bind_ne_error (responsible_ne i) fun _ h => by cases h) hservers
      | ok servers =>
        obtain ⟨hend, rfl⟩ := keepResponsible_ok.1 hservers
        rw [ok_bind]
        refine bind_ne_error ?_ fun _ => bind_ne_error (h all hall fun hd => ⟨(hlt hd).1, hend hd⟩) fun _ =>
          bind_ne_error (forEach_ne_error fun st p _ => installPingClient_ne st p) fun _ h => by cases h
        rw [installOnEndpoints]
        exact fun h => by cases h

/-! ## Which set-ups are staggered -/

theorem ownPairs_sorted (hn : (ownPairs b all).Nodup) : (ownPairs b all).Pairwise Ptop.edgeLt := by
  unfold ownPairs at hn ⊢
  refine (((Ptop.sortEdges_pairwise all).filter _).and hn).imp ?_
  rintro ⟨i, j⟩ ⟨i', j'⟩ ⟨hle, hne⟩
  unfold Ptop.edgeLt at hle ⊢
  rw [Ne, Prod.mk.injEq] at hne
  simp only at hle ⊢
  omega

theorem hasAddress_lt {i : Nat} (h : HasAddress topology i) : i < topology.nodes.length := by
  obtain ⟨n, -, hn, -⟩ := h
  exact (List.getElem?_eq_some_iff.1 hn).1

/-- The pairs of a system go from an endpoint to another one. -/
theorem Staggerable.endpoints (hs : Staggerable b topology all) (hall : specifiedPairs topology pairStr = .ok all) :
    ∀ r ∈ ownPairs b all, r.1 ≠ r.2 ∧ r.1 ∈ topology.endpoints ∧ r.2 ∈ topology.endpoints := by
  intro r hr
  obtain ⟨hne, hfrom, hto⟩ := specifiedPairs_mem hall r (mem_ownPairs.1 hr).1
  exact ⟨hne, hfrom.elim id (topology.valid_endpoint _ (hs.source r hr)),
    hto.elim id (topology.valid_endpoint _ (hasAddress_lt (hs.target r hr)))⟩

/-- A source has at most as many pairs before one as there are further endpoints. -/
theorem rank_le (hs : Staggerable b topology all) (hall : specifiedPairs topology pairStr = .ok all) {q : Nat × Nat}
    (hq : q ∈ ownPairs b all) :
    ((ownPairs b all).countP fun r => r.1 = q.1 ∧ r.2 < q.2) + 2 ≤ topology.endpoints.length := by
  have hend := hs.endpoints hall
  let before := (ownPairs b all).filter fun r => r.1 = q.1 ∧ r.2 < q.2
  have hbefore : ∀ r ∈ before, r ∈ ownPairs b all ∧ r.1 = q.1 ∧ r.2 < q.2 := fun r hr => by
    simpa [before] using hr
  have hnodup : (before.map Prod.snd).Nodup := by
    refine (hs.nodup.filter _).map_on fun r hr r' hr' h => ?_
    exact Prod.ext ((hbefore r hr).2.1.trans (hbefore r' hr').2.1.symm) h
  -- the source, the target and the targets before it are different endpoints
  have hn : (q.1 :: q.2 :: before.map Prod.snd).Nodup := by
    refine List.nodup_cons.2 ⟨?_, List.nodup_cons.2 ⟨?_, hnodup⟩⟩
    · rw [List.mem_cons, not_or]
      refine ⟨(hend q hq).1, fun h => ?_⟩
      obtain ⟨r, hr, he⟩ := List.mem_map.1 h
      exact (hend r (hbefore r hr).1).1 ((hbefore r hr).2.1.trans he.symm)
    · intro h
      obtain ⟨r, hr, he⟩ := List.mem_map.1 h
      exact (hbefore r hr).2.2.ne he
  have hsub : q.1 :: q.2 :: before.map Prod.snd ⊆ topology.endpoints := by
    refine List.cons_subset.2 ⟨(hend q hq).2.1, List.cons_subset.2 ⟨(hend q hq).2.2, fun j hj => ?_⟩⟩
    obtain ⟨r, hr, rfl⟩ := List.mem_map.1 hj
    exact (hend r (hbefore r hr).1).2.2
  have hle := (List.subperm_of_subset hn hsub).length_le
  rwa [List.length_cons, List.length_cons, List.length_map, ← List.countP_eq_length_filter] at hle

theorem rank_mul_lt (hi : 1 ≤ intervalNs) {k d : Nat} (hk : k < d) : k * (intervalNs / d) < intervalNs := by
  rcases Nat.eq_zero_or_pos (intervalNs / d) with h | h
  · rw [h]
    omega
  · calc k * (intervalNs / d) < d * (intervalNs / d) := Nat.mul_lt_mul_of_pos_right hk h
      _ ≤ intervalNs := Nat.mul_div_le ..

/-- The place of a pair leaves one for the target and one for the source. -/
theorem numbered_place (hs : Staggerable b topology all) (hall : specifiedPairs topology pairStr = .ok all) :
    ∀ x ∈ numbered [] (ownPairs b all), x.2 + 2 ≤ topology.endpoints.length := by
  intro x hx
  have hrank := numbered_rank (by simpa using ownPairs_sorted hs.nodup) x hx
  rw [List.nil_append] at hrank
  rw [hrank]
  exact rank_le hs hall (numbered_lt hx).1

/-- All clients can be installed, the last one of a source within the interval. -/
theorem Staggerable.installable (h1 : 1 ≤ intervalNs) (hi : intervalNs < 2 ^ 63) (hs : Staggerable b topology all)
    (hall : specifiedPairs topology pairStr = .ok all) : Installable b topology intervalNs all where
  nodes := fun q hq => ⟨_, topology.node_eq (hs.source q hq)⟩
  address := fun q hq =>
    (hasAddress_iff (Nat.lt_trans (hasAddress_lt (hs.target q hq)) topology.nodes_lt)).2 (hs.target q hq)
  few := hs.few
  within := by
    intro i
    rcases Nat.eq_zero_or_pos (pairsOf i (ownPairs b all)) with h0 | hpos
    · rw [h0]
      simp
    · obtain ⟨x, hx, hcount⟩ := numbered_last_first hpos
      have hplace := numbered_place hs hall x hx
      rw [← hcount, Nat.add_sub_cancel]
      exact Nat.lt_trans (rank_mul_lt h1 (by omega)) hi

/-- What is left for such pairs is staggered. -/
theorem staggered_of_clients (h1 : 1 ≤ intervalNs) (hi : intervalNs < 2 ^ 63) (hs : Staggerable b topology all)
    (hall : specifiedPairs topology pairStr = .ok all) {apps : List PingClient}
    (happs : List.Forall₂ (IsClient ((intervalNs / (topology.endpoints.length - 1) : Nat) : Int))
      (numbered [] (ownPairs b all)) apps) :
    Staggered b topology.endpoints.length intervalNs all apps := by
  have hid : ∀ q ∈ ownPairs b all, (toUInt32 q.1, toUInt32 q.2) = q := fun q hq => by
    rw [toUInt32_eq (Nat.lt_trans (hs.source q hq) topology.nodes_lt),
      toUInt32_eq (Nat.lt_trans (hasAddress_lt (hs.target q hq)) topology.nodes_lt)]
  have hpairs : apps.map PingClient.pair = ownPairs b all := by
    rw [clients_pairs happs, List.map_congr_left hid, List.map_id']
  have hclient : ∀ c ∈ apps, c.pair ∈ ownPairs b all ∧ c.startNs =
      ((ownPairs b all).countP fun q => q.1 = c.fromNodeId ∧ q.2 < c.toNodeId : Nat) *
        ((intervalNs / (topology.endpoints.length - 1) : Nat) : Int) := by
    intro c hc
    obtain ⟨x, hx, hpair, hstart⟩ := forall₂_mem_right happs c hc
    rw [hid _ (numbered_lt hx).1] at hpair
    have hrank := numbered_rank (by simpa using ownPairs_sorted hs.nodup) x hx
    rw [List.nil_append, ← hpair] at hrank
    exact ⟨hpair ▸ (numbered_lt hx).1, by rw [hstart, hrank]; rfl⟩
  have hrank : ∀ c ∈ apps, ((ownPairs b all).countP fun r => r.1 = c.fromNodeId ∧ r.2 < c.toNodeId) + 2 ≤
      topology.endpoints.length := fun c hc => rank_le hs hall (hclient c hc).1
  exact
    { nodup := hpairs ▸ hs.nodup
      ne := fun c hc => (hs.endpoints hall _ (hclient c hc).1).1
      mem := fun q => by rw [hpairs, mem_ownPairs]
      start := by
        refine ⟨_, inBetweenNs_eq hi (endpoints_length_lt topology) hs.several, fun c hc => ?_⟩
        rw [(hclient c hc).2, ← hpairs, List.countP_map]
        rfl
      lt := by
        intro c hc
        have hr := hrank c hc
        rw [(hclient c hc).2]
        have hlt := rank_mul_lt h1 (Nat.lt_sub_of_add_lt (Nat.lt_of_succ_le hr))
        exact ⟨by positivity, by exact_mod_cast hlt⟩
      distinct := by
        intro hmany c hc c' hc' hfrom hstart
        have hr := hrank c hc
        have hpos : 0 < intervalNs / (topology.endpoints.length - 1) := Nat.div_pos (by omega) (by omega)
        rw [(hclient c hc).2, (hclient c' hc').2] at hstart
        refine rank_inj (hclient c hc).1 (hclient c' hc').1 hfrom ?_
        exact Nat.eq_of_mul_eq_mul_right hpos (by exact_mod_cast hstart) }

/-- Where the set-up ends with the pairs staggered, they are apart and go between nodes. -/
theorem staggerable_of_staggers (hi : intervalNs < 2 ^ 63) (hall : specifiedPairs topology pairStr = .ok all)
    {s : PingmeshScheduler} (hs : preparePingmesh b topology intervalNs pairStr = .ok s)
    (hst : Staggered b topology.endpoints.length intervalNs all s.apps) : Staggerable b topology all := by
  obtain ⟨hn, ha, hinst⟩ := (preparePingmesh_ends_iff hi hall).1 ⟨s, hs⟩
  have hpairs := clients_pairs (preparePingmesh_clients hi hn hall hs)
  have hlt : ∀ q ∈ ownPairs b all, q.1 < 2 ^ 32 ∧ q.2 < 2 ^ 32 := by
    intro q hq
    have hmem := (hst.mem q).2 (mem_ownPairs.1 hq)
    rw [hpairs] at hmem
    obtain ⟨r, -, rfl⟩ := List.mem_map.1 hmem
    exact ⟨toUInt32_lt r.1, toUInt32_lt r.2⟩
  exact
    { several := hn
      assigned := ha
      nodup := List.Nodup.of_map _ (hpairs ▸ hst.nodup)
      few := hinst.few
      source := by
        intro q hq
        obtain ⟨n, hnode⟩ := hinst.nodes q hq
        unfold Topology.node at hnode
        rw [toUInt32_eq (hlt q hq).1, index_ok, List.getElem?_eq_some_iff] at hnode
        exact hnode.1
      target := fun q hq => (hasAddress_iff (hlt q hq).2).1 (hinst.address q hq) }

/-- The set-up ends with the pings of every source staggered exactly if there is not a single endpoint, the nodes are
assigned, and the pairs of this system are spelled once each, go between nodes and are few enough to count. -/
theorem preparePingmesh_staggers_iff (h1 : 1 ≤ intervalNs) (hi : intervalNs < 2 ^ 63) :
    StaggersPings b topology intervalNs pairStr ↔
      ∀ all, specifiedPairs topology pairStr = .ok all → Staggerable b topology all := by
  constructor
  · intro h all hall
    obtain ⟨s, hs, hst⟩ := h.staggered all hall
    exact staggerable_of_staggers hi hall hs hst
  · intro h
    constructor
    · refine preparePingmesh_divides.2 fun all hall ha => ?_
      rw [inBetweenNs_eq hi (endpoints_length_lt topology) (h all hall).several]
      exact fun he => by cases he
    · intro all hall
      have hs := h all hall
      obtain ⟨s, hok⟩ := (preparePingmesh_ends_iff hi hall).2 ⟨hs.several, hs.assigned, hs.installable h1 hi hall⟩
      exact ⟨s, hok, staggered_of_clients h1 hi hs hall (preparePingmesh_clients hi hs.several hall hok)⟩

/-- Two endpoints that ping each other. -/
theorem preparePingmesh_staggers_iff_pair :
    StaggersPings pairSimulation (pair true).topology 100 "all".toList := by
  refine (preparePingmesh_staggers_iff (by decide) (by decide)).2 fun all hall => ?_
  have hpairs : specifiedPairs (pair true).topology "all".toList = .ok [(0, 1), (1, 0)] := by decide
  cases hpairs.symm.trans hall
  have hown : ownPairs pairSimulation [(0, 1), (1, 0)] = [(0, 1), (1, 0)] := rfl
  exact
    { several := by decide
      assigned := nofun
      nodup := by decide
      few := fun i => Nat.lt_of_le_of_lt List.countP_le_length (by decide)
      source := by decide
      target := by
        rw [hown]
        intro q hq
        rcases List.mem_pair.1 hq with rfl | rfl
        · exact ⟨_, _, rfl, rfl⟩
        · exact ⟨_, _, rfl, rfl⟩ }

def singleConfig : Config :=
  [("num_nodes".toList, "1".toList), ("num_undirected_edges".toList, "0".toList), ("switches".toList, "set(0)".toList),
   ("switches_which_are_tors".toList, "set(0)".toList), ("servers".toList, "set()".toList),
   ("undirected_edges".toList, "set()".toList)]

/-- A network of a single node. -/
def single : PtopNetwork where
  sim := ⟨false, []⟩
  config := singleConfig
  graph :=
    { numNodes := 1
      numUndirectedEdges := 0
      switches := [0]
      switchesWhichAreTors := [0]
      servers := []
      allNodeIds := [0]
      undirectedEdges := []
      undirectedEdgesSet := []
      adjacencyList := [[]]
      hasZeroServers := true }
  allNodesAreEndpoints := false
  nodes := [[0x7f000001]]
  configured := by decide +kernel
  parsed := by decide +kernel
  created := rfl

/-- A single endpoint is divided by zero for; a pair that is spelled twice has two clients; an accepted id that is no
node is looked up. -/
theorem preparePingmesh_counterexample :
    ¬ StaggersPings pairSimulation single.topology 100 "all".toList ∧
      ¬ StaggersPings pairSimulation (pair true).topology 100 "set(0->1,00->1)".toList ∧
      ¬ StaggersPings pairSimulation (pair true).topology 100 "set(0->5)".toList := by
  refine ⟨fun h => h.divides rfl, fun h => ?_, fun h => ?_⟩
  · obtain ⟨s, hs, hst⟩ := h.staggered [(0, 1), (0, 1)] rfl
    obtain ⟨s', hs', hpairs⟩ : ∃ s, preparePingmesh pairSimulation (pair true).topology 100 "set(0->1,00->1)".toList =
        .ok s ∧ s.apps.map PingClient.pair = [(0, 1), (0, 1)] := ⟨_, rfl, rfl⟩
    cases hs.symm.trans hs'
    have hn := hst.nodup
    rw [hpairs] at hn
    exact absurd hn (by decide)
  · obtain ⟨s, hs, -⟩ := h.staggered [(0, 5)] rfl
    cases hs

end SatNet.Apps
