/-
What `path_truth.csv` says of a simulation. The helper loads the files of the forwarding state at the instants of its
updates, the script in the order of the times in their names, so that at every instant of every run the arbiters have the
next hops of the script's dictionary after as many files, and the row of the last update has the way that packets take.
-/
import SatNet.Satellite.PathTruth
import SatNet.Satellite.UpdateRuns

namespace SatNet.Satellite

open SatNet.Loop SatNet.Device SatNet.ExpUtil SatNet.Apps SatNet.Periodic

variable {M : Type}

/-! ## The next node -/

section NextNode

variable [DecidableEq M] {addr : Addresses M} {net : Network M} {arp : ArpCache M} {state : ForwardingState} {n : Nat}
  {isls : List (Nat × Nat)} {written : List Str} {ls : List Line}

/-- A packet goes to the node that the last line names, also over an ISL that joins a satellite to itself. -/
theorem nextNode_line (hb : Built addr n isls [] net)
    (harp : ∀ (e : End) (d : NetDevice), Node.deviceAt net.nodes e = some d → e.2 ≠ 0 →
      e ∈ arp.users ∧ arp.entries.lookup (addr.ip e) = some (addr.mac e))
    (hholds : Holds net written state) {u b next : Nat} {l : Line} (hub : u ≠ b) (hl : lastLine written u b = some l)
    (hnext : l.nextHopNodeId = next) : nextNode addr net arp state b u = some next := by
  obtain ⟨rfl, rfl, hc, nextHopList, hrow, hentry⟩ := hholds.last hl
  suffices h : ∃ device, send addr net arp nextHopList l.currentNodeId l.targetNodeId = .ok (.reception device) ∧
      device.1 = next by
    obtain ⟨device, hsend, hdevice⟩ := h
    unfold nextNode arbiterAt
    rw [if_neg hub, hrow, ok_bind, hsend]
    simp only [hdevice]
  obtain ⟨-, -, hdrop | ⟨next', i, j, hnext', hi, hj, -, hdevices⟩⟩ := checkLine_ok hc
  · have hminus : l.nextHopNodeId = -1 := congrArg Prod.fst hdrop
    omega
  cases Int.natCast_inj.1 (hnext.symm.trans hnext')
  have hdecide : ArbiterSatnet.decide addr net nextHopList l.targetNodeId =
      .ok ⟨false, i + 1, addr.ip (next, j + 1)⟩ := by
    rcases decide_line hb hc hentry with ⟨hdrop, -⟩ | ⟨next', i', j', d, d', he, hdec, -⟩
    · have hminus : l.nextHopNodeId = -1 := congrArg Prod.fst hdrop
      omega
    · rw [entry_eq hnext hi hj] at he
      simp only [Prod.mk.injEq, Nat.cast_inj] at he
      obtain ⟨rfl, rfl, rfl⟩ := he
      exact hdec
  rcases checkDevices_ok hb hnext hi hj hdevices with ⟨hown, hother⟩ | ⟨k, d₀, d₁, hk, -, hown, -, hmem, hpeer⟩
  · exact ⟨_, send_gsl hb harp hdecide hown (hb.numbered.netDevice_iff.1 hother).2, rfl⟩
  · refine ⟨if (l.currentNodeId, i + 1) = d₀ then d₁ else d₀, ?_, ?_⟩
    · unfold send
      rw [hdecide, ok_bind]
      simp only [Bool.false_eq_true, if_false]
      rw [hown, ok_bind]
      simp only [index_ok.2 hk, ok_bind, PointToPointLaserChannel.transmitStart]
    · have hnode : next = (if d₀.1 = l.currentNodeId then d₁ else d₀).1 := congrArg Prod.fst hpeer
      -- on a loop both ends are on the node
      have hend : (l.currentNodeId, i + 1) = d₁ → l.currentNodeId = d₁.1 := congrArg Prod.fst
      rw [hnode]
      by_cases hd : (l.currentNodeId, i + 1) = d₀
      · rw [if_pos hd, if_pos (congrArg Prod.fst hd).symm]
      · have hother := hend (hmem.resolve_left hd)
        rw [if_neg hd]
        split
        · omega
        · rfl

/-- It goes nowhere where the entry is unset or a drop. -/
theorem nextNode_none (hholds : Holds net written state) {u b : Nat}
    (h : ∀ l, lastLine written u b = some l → l.entry = (-1, 0, 0)) : nextNode addr net arp state b u = none := by
  unfold nextNode
  split
  · rfl
  · unfold arbiterAt
    cases hrow : state[u]? with
    | none => rfl
    | some row =>
      rw [ok_bind]
      unfold send ArbiterSatnet.decide topologySatelliteNetworkDecide
      cases hat : row[b]? with
      | none =>
        unfold index
        rw [hat]
        rfl
      | some entry =>
        have hu : u < net.nodes.length := by
          rw [← hholds.length]
          exact (List.getElem?_eq_some_iff.1 hrow).1
        have hv : b < net.nodes.length := by
          rw [← hholds.row _ (List.mem_of_getElem? hrow)]
          exact (List.getElem?_eq_some_iff.1 hat).1
        have hentry := hholds.entry u hu b hv
        unfold entryAt at hentry
        rw [hrow, Option.bind_some, hat, Option.some.injEq] at hentry
        rw [index_ok.2 hat]
        cases hl : lastLine written u b with
        | none =>
          rw [hl] at hentry
          rw [hentry]
          rfl
        | some l =>
          rw [hl, Option.map_some, Option.getD_some, h l hl] at hentry
          rw [hentry]
          rfl

/-- The next node is the next hop of the dictionary, unless the packet has arrived. -/
theorem nextNode_iff (hb : Built addr n isls [] net)
    (harp : ∀ (e : End) (d : NetDevice), Node.deviceAt net.nodes e = some d → e.2 ≠ 0 →
      e ∈ arp.users ∧ arp.entries.lookup (addr.ip e) = some (addr.mac e))
    (hholds : Holds net written state) (h : List.Forall₂ (fun s l => readLine s = .ok l) written ls) {u b w : Nat} :
    nextNode addr net arp state b u = some w ↔
      u ≠ b ∧ (table (ls.map Line.hop)).lookup ((u : Int), (b : Int)) = some (w : Int) := by
  rw [lookup_lines h, Option.map_eq_some_iff]
  constructor
  · intro hw
    have hub : u ≠ b := by
      rintro rfl
      have hend : nextNode addr net arp state u u = none := if_pos rfl
      rw [hend] at hw
      cases hw
    refine ⟨hub, ?_⟩
    by_contra hno
    suffices hnone : nextNode addr net arp state b u = none by
      rw [hnone] at hw
      cases hw
    refine nextNode_none hholds fun l hl => ?_
    obtain ⟨-, -, hc, -⟩ := hholds.last hl
    obtain ⟨-, -, hdrop | ⟨next, -, -, hnext, -⟩⟩ := checkLine_ok hc
    · exact hdrop
    · rw [nextNode_line hb harp hholds hub hl hnext] at hw
      cases hw
      exact absurd ⟨l, hl, hnext⟩ hno
  · rintro ⟨hub, l, hl, hnext⟩
    exact nextNode_line hb harp hholds hub hl hnext

/-- The nodes that a packet visits are those that the next hops of the dictionary lead through. -/
theorem visits_iff (hb : Built addr n isls [] net)
    (harp : ∀ (e : End) (d : NetDevice), Node.deviceAt net.nodes e = some d → e.2 ≠ 0 →
      e ∈ arp.users ∧ arp.entries.lookup (addr.ip e) = some (addr.mac e))
    (hholds : Holds net written state) (h : List.Forall₂ (fun s l => readLine s = .ok l) written ls) {b : Nat} :
    ∀ {a : Nat} {nodes : List Nat}, Visits addr net arp state a b nodes ↔
      Reaches (table (ls.map Line.hop)) b a (nodes.map Nat.cast)
  | a, [] => by
    constructor
    · intro hv
      cases hv.head
    · intro hr
      cases hr
  | a, [x] => by
    constructor
    · rintro ⟨hhead, hlast, -⟩
      cases hhead
      cases hlast
      exact .arrived
    · intro hr
      have hx : a = x ∧ a = b := by
        generalize ha : (a : Int) = c at hr
        cases hr with
        | arrived => exact ⟨by omega, by omega⟩
        | hop _ _ _ hrest => cases hrest
      obtain ⟨rfl, rfl⟩ := hx
      exact ⟨rfl, rfl, List.isChain_singleton a⟩
  | a, x :: y :: rest => by
    have ih := @visits_iff hb harp hholds h b y (y :: rest)
    constructor
    · rintro ⟨hhead, hlast, halong⟩
      cases hhead
      obtain ⟨hxy, hrest⟩ := List.isChain_cons_cons.1 halong
      obtain ⟨hab, hlookup⟩ := (nextNode_iff hb harp hholds h).1 hxy
      exact .hop (by omega) hlookup (by omega) (ih.1 ⟨rfl, by rwa [List.getLast?_cons_cons] at hlast, hrest⟩)
    · intro hr
      generalize ha : (a : Int) = c at hr
      cases hr with
      | hop hab hlookup _ hrest =>
        cases Int.natCast_inj.1 ha
        obtain ⟨_, hcons⟩ := hrest.head
        cases hcons
        obtain ⟨_, hlast, halong⟩ := ih.2 hrest
        exact ⟨rfl, by rwa [List.getLast?_cons_cons],
          List.isChain_cons_cons.2 ⟨(nextNode_iff hb harp hholds h).2 ⟨by omega, hlookup⟩, halong⟩⟩

end NextNode

/-! ## The rows of the script -/

namespace PathTruth

variable {φ : Type} {maxStrDigits : Nat} {rttPropMs : Int → List Int → List Int → Except Python.Error φ} {src dst : Int}

/-- The row is that of a file: its time, and the two paths in the dictionary after this file. -/
structure RowOf (maxStrDigits : Nat) (src dst : Int) (done : List (Int × Str)) (row : Row φ) : Prop where
  time : done.getLast?.map Prod.fst = some row.tNs
  paths : ∃ fstate, replay .pathTruth maxStrDigits (done.map Prod.snd) = .ok fstate ∧
    row.paths.map (fun x => (x.1, x.2.1, x.2.2.2)) =
      (bothPaths (walk .pathTruth fstate src dst, walk .pathTruth fstate dst src)).map fun p =>
        (p.1.length - 1, p.2.length - 1, p.1)

theorem step_row {st st' : State φ} {file : Int × Str} {done : List (Int × Str)}
    (hreplay : replay .pathTruth maxStrDigits (done.map Prod.snd) = .ok st.fstate)
    (h : step maxStrDigits rttPropMs src dst st file = .ok st') :
    replay .pathTruth maxStrDigits ((done ++ [file]).map Prod.snd) = .ok st'.fstate ∧
      ∃ row, st'.rows = st.rows ++ [row] ∧ RowOf maxStrDigits src dst (done ++ [file]) row := by
  obtain ⟨fstate, hload, h⟩ := bind_ok h
  have hnow : replay .pathTruth maxStrDigits ((done ++ [file]).map Prod.snd) = .ok fstate := by
    unfold replay at hreplay ⊢
    rw [List.map_append, forEach_append, hreplay, ok_bind, List.map_singleton, forEach, hload]
    rfl
  have htime : (done ++ [file]).getLast?.map Prod.fst = some file.1 := by rw [List.getLast?_concat, Option.map_some]
  cases hboth : bothPaths (walk .pathTruth fstate src dst, walk .pathTruth fstate dst src) with
  | none =>
    simp only [hboth] at h
    cases h
    exact ⟨hnow, _, rfl, htime, fstate, hnow, by rw [hboth]; rfl⟩
  | some paths =>
    simp only [hboth] at h
    obtain ⟨rtt, -, h⟩ := bind_ok h
    cases h
    exact ⟨hnow, _, rfl, htime, fstate, hnow, by rw [hboth]; rfl⟩

/-- The script writes one row for each file. -/
theorem main_rows {files : List (Int × Str)} {rows : List (Row φ)}
    (h : main maxStrDigits rttPropMs src dst files = .ok rows) : rows.length = files.length ∧
      ∀ k row, rows[k]? = some row → RowOf maxStrDigits src dst (files.take (k + 1)) row := by
  obtain ⟨st, hloop, hrows⟩ := bind_ok h
  cases hrows
  obtain ⟨-, hlength, hall⟩ := forEach_pre _ (fun done st =>
    replay .pathTruth maxStrDigits (done.map Prod.snd) = .ok st.fstate ∧ st.rows.length = done.length ∧
      ∀ k row, st.rows[k]? = some row → RowOf maxStrDigits src dst (done.take (k + 1)) row)
    (fun done st file st' ⟨hreplay, hlength, hall⟩ hstep => by
      obtain ⟨hreplay', row, hrow, hof⟩ := step_row hreplay hstep
      refine ⟨hreplay', by rw [hrow, List.length_append, List.length_append, hlength]; rfl, fun k row' hk => ?_⟩
      rw [hrow] at hk
      rcases getElem?_concat_iff.1 hk with hk | ⟨rfl, rfl⟩
      · have hlt := (List.getElem?_eq_some_iff.1 hk).1
        rw [List.take_append_of_le_length (by omega)]
        exact hall k row' hk
      · rw [hlength, List.take_of_length_le (by simp)]
        exact hof) files [] _ st ⟨rfl, rfl, fun k row hk => by simp at hk⟩ hloop
  exact ⟨hlength, hall⟩

end PathTruth

/-! ## The files of a run -/

variable {D R : Type}

/-- The files in the order of their times, one for each step: they are those that the helper opens. -/
structure Directory (sim : BasicSimulation) (stepNs : Nat) (files : List (Int × Str)) : Prop where
  times : ∀ (k : Nat) (file : Int × Str), files[k]? = some file → file.1 = (k * stepNs : Nat)
  read : ∀ (k : Nat) lines, k = 0 ∨ ((k * stepNs : Nat) : Int) < sim.simulationEndTimeNs →
    fstateLines sim (k * stepNs : Nat) = .ok lines → ∃ file, files[k]? = some file ∧ lines = Python.getlines file.2

/-- The state of the arbiters is that after as many files as there were updates. -/
structure LoadsInOrder (u : Updates M D R) (files : List (Int × Str)) (s : UpdateRun R) : Prop where
  begun : 0 < s.forwardingUpdates.length
  loaded : LoadedFiles u.sim u.net ((files.take s.forwardingUpdates.length).map Prod.snd) s.forwarding
  enough : s.forwardingUpdates.length ≤ files.length

section Run

variable {u : Updates M D R} {files : List (Int × Str)} {s s' : UpdateRun R} {pings : List PingClient}

/-- The next file is loaded. -/
theorem LoadedFiles.next {sim : BasicSimulation} {net : Network M} {k intervalNs stepNs : Nat} {t : Int}
    {state state' : ForwardingState} {next : Option Int} (hdir : Directory sim stepNs files)
    (h : LoadedFiles sim net ((files.take k).map Prod.snd) state) (ht : t = (k * stepNs : Nat))
    (hin : k = 0 ∨ t < sim.simulationEndTimeNs) (hrun : updateForwardingState sim net intervalNs t state = .ok (state', next)) :
    LoadedFiles sim net ((files.take (k + 1)).map Prod.snd) state' ∧ k + 1 ≤ files.length := by
  subst ht
  obtain ⟨lines, hlines, -⟩ := bind_ok hrun
  obtain ⟨file, hfile, rfl⟩ := hdir.read k lines hin hlines
  have htake : (files.take (k + 1)).map Prod.snd = (files.take k).map Prod.snd ++ [file.2] := by
    rw [List.take_add_one, hfile, List.map_append]
    rfl
  rw [htake]
  exact ⟨.update intervalNs _ file.2 state' next h hlines hrun, (List.getElem?_eq_some_iff.1 hfile).1⟩

theorem LoadsInOrder.step {stepNs : Nat} (hdir : Directory u.sim stepNs files)
    (hstep : ¬ Static u.sim → u.dynamicStateUpdateIntervalNs = stepNs) (hi : RunInv u pings s)
    (h : LoadsInOrder u files s) {e : RunEvent} (he : RunPermitted u s e) (hs' : s.step u e = .ok s') :
    LoadsInOrder u files s' := by
  obtain ⟨time, htime, -, he⟩ := he
  cases e with
  | wait t =>
    cases hs'
    exact ⟨h.begun, h.loaded, h.enough⟩
  | updateForwardingState =>
    obtain ⟨event, hevent, rfl⟩ := Option.map_eq_some_iff.1 htime
    simp only [UpdateRun.step, hevent] at hs'
    obtain ⟨⟨forwarding, next⟩, hrun, hs'⟩ := bind_ok hs'
    obtain ⟨forwardingEvent, -, hs'⟩ := bind_ok hs'
    cases hs'
    have hf := hi.forwarding
    rw [hevent] at hf
    have hdynamic : ¬ Static u.sim := fun hstatic => by cases (hf.static hstatic).2
    have hdue := ((hf.ticks hdynamic).due event.time rfl).1
    rw [List.length_map, Nat.zero_add, hstep hdynamic] at hdue
    have ht : event.t = (s.forwardingUpdates.length * stepNs : Nat) := by rw [hf.next event rfl, hdue]
    obtain ⟨hloaded, henough⟩ := h.loaded.next hdir ht (.inr (by rw [hf.next event rfl]; exact he)) hrun
    have hlength : (s.forwardingUpdates ++ [event]).length = s.forwardingUpdates.length + 1 := List.length_append
    exact ⟨by rw [hlength]; omega, by rw [hlength]; exact hloaded, by rw [hlength]; exact henough⟩
  | updateGslIfBandwidth =>
    obtain ⟨event, hevent, rfl⟩ := Option.map_eq_some_iff.1 htime
    simp only [UpdateRun.step, hevent] at hs'
    obtain ⟨⟨gsl, next⟩, -, hs'⟩ := bind_ok hs'
    obtain ⟨bandwidthEvent, -, hs'⟩ := bind_ok hs'
    cases hs'
    exact ⟨h.begun, h.loaded, h.enough⟩
  | client i =>
    obtain ⟨c, hc, rfl⟩ := Option.map_eq_some_iff.1 htime
    simp only [UpdateRun.step, hc] at hs'
    obtain ⟨c', -, hs'⟩ := bind_ok hs'
    cases hs'
    exact ⟨h.begun, h.loaded, h.enough⟩

theorem startUpdates_loads {sim : BasicSimulation} {net : Network M} {rates : DataRates D R} {stepNs : Nat}
    (hdir : Directory sim stepNs files) (h : startUpdates sim net rates pings = .ok (u, s)) :
    u.sim = sim ∧ u.net = net ∧ LoadsInOrder u files s := by
  obtain ⟨intervalNs, -, h⟩ := bind_ok h
  obtain ⟨⟨forwarding, next⟩, hrun, h⟩ := bind_ok h
  obtain ⟨forwardingEvent, -, h⟩ := bind_ok h
  obtain ⟨rate, -, h⟩ := bind_ok h
  obtain ⟨⟨gsl, next'⟩, -, h⟩ := bind_ok h
  obtain ⟨bandwidthEvent, -, h⟩ := bind_ok h
  obtain ⟨clients, -, h⟩ := bind_ok h
  cases h
  obtain ⟨hloaded, henough⟩ := LoadedFiles.next (k := 0) hdir .init (by rw [Nat.zero_mul]; rfl) (.inl rfl) hrun
  exact ⟨rfl, rfl, Nat.one_pos, hloaded, henough⟩

theorem ReachesRun.loads {s₀ : UpdateRun R} {stepNs : Nat} (hdir : Directory u.sim stepNs files)
    (hstep : ¬ Static u.sim → u.dynamicStateUpdateIntervalNs = stepNs)
    (hforce : ∃ b, parseBoolean (getParamOrDefault "satellite_network_force_static" "false" u.sim.config) = .ok b)
    (hadv : AllAdvance u pings) (hi : RunInv u pings s₀) (h₀ : LoadsInOrder u files s₀) (h : ReachesRun u s₀ s) :
    LoadsInOrder u files s := by
  induction h with
  | refl => exact h₀
  | tail hreach hnext ih =>
    obtain ⟨e, he, hs'⟩ := hnext
    exact ih.step hdir hstep (ReachesRun.inv hforce hadv hi hreach) he hs'

/-- When the last update was, of which there is one at least. -/
theorem UpdateInv.last {sim : BasicSimulation} {intervalNs now stepNs : Nat} {updates : List Update} {event : Option Update}
    (h : UpdateInv sim intervalNs now updates event) (hstep : ¬ Static sim → intervalNs = stepNs) {k : Nat}
    (hk : updates.length = k + 1) : (Static sim ∧ k = 0 ∨ ¬ Static sim ∧ (now ≤ (k + 1) * stepNs ∨
      sim.simulationEndTimeNs ≤ ((k + 1) * stepNs : Nat))) ∧ k * stepNs ≤ now := by
  by_cases hs : Static sim
  · obtain ⟨rfl, -⟩ := h.static hs
    cases hk
    exact ⟨.inl ⟨hs, rfl⟩, by rw [Nat.zero_mul]; exact Nat.zero_le now⟩
  · have ht := h.ticks hs
    rw [hstep hs] at ht
    refine ⟨.inr ⟨hs, ?_⟩, ht.past _ ((ht.mem_iff _).2 ⟨k, by rw [List.length_map]; omega, by rw [Nat.zero_add]⟩)⟩
    cases event with
    | some e =>
      obtain ⟨hdue, hle⟩ := ht.due e.time rfl
      rw [List.length_map, hk, Nat.zero_add] at hdue
      rw [hdue] at hle
      exact .inl hle
    | none =>
      have hlast := ht.last rfl
      rw [List.length_map, hk, Nat.zero_add] at hlast
      exact .inr (by omega)

end Run

/-! ## The rows and the routes -/

section Tells

variable {φ : Type} [DecidableEq M] (addr : Addresses M) (net : Network M)

/-- The row has the ways that packets take between the two nodes, there and back; it has none only if one of the two is
longer than the script looks or leads nowhere. -/
structure Tells (arp : ArpCache M) (state : ForwardingState) (src dst : Nat) (row : PathTruth.Row φ) : Prop where
  found : ∀ hopsFwd hopsRev rtt pathFwd, row.paths = some (hopsFwd, hopsRev, rtt, pathFwd) → ∃ there back : List Nat,
    pathFwd = there.map Nat.cast ∧ hopsFwd + 1 = there.length ∧ hopsRev + 1 = back.length ∧
      Visits addr net arp state src dst there ∧ Visits addr net arp state dst src back
  missing : row.paths = none → ∀ there back, Visits addr net arp state src dst there →
    Visits addr net arp state dst src back → 201 < there.length ∨ 201 < back.length

variable {addr net} {arp : ArpCache M} {state : ForwardingState} {n : Nat} {isls : List (Nat × Nat)}
  {written : List Str} {ls : List Line}

/-- A path of the script is one that packets visit, and each of these that is not too long is found. -/
theorem walk_visits (hb : Built addr n isls [] net)
    (harp : ∀ (e : End) (d : NetDevice), Node.deviceAt net.nodes e = some d → e.2 ≠ 0 →
      e ∈ arp.users ∧ arp.entries.lookup (addr.ip e) = some (addr.mac e))
    (hholds : Holds net written state) (h : List.Forall₂ (fun s l => readLine s = .ok l) written ls) (a b : Nat) :
    (∀ path, walk .pathTruth (table (ls.map Line.hop)) a b = some path →
      ∃ nodes : List Nat, path = nodes.map Nat.cast ∧ Visits addr net arp state a b nodes) ∧
    (walk .pathTruth (table (ls.map Line.hop)) a b = none → ∀ nodes, Visits addr net arp state a b nodes →
      201 < nodes.length) := by
  have hvalue : ∀ (u : Nat) (w : Int), (table (ls.map Line.hop)).lookup ((u : Int), (b : Int)) = some w →
      w = -1 ∨ ∃ n : Nat, w = n := by
    intro u w hlookup
    rw [lookup_lines h] at hlookup
    obtain ⟨l, hl, rfl⟩ := Option.map_eq_some_iff.1 hlookup
    obtain ⟨-, -, hc, -⟩ := hholds.last hl
    obtain ⟨-, -, hdrop | ⟨next, i, j, hnext, -⟩⟩ := checkLine_ok hc
    · exact .inl (congrArg Prod.fst hdrop)
    · exact .inr ⟨next, hnext⟩
  constructor
  · intro path hwalk
    obtain ⟨rest, rfl, halong, hlast⟩ := walkFrom_along hvalue
      (fun u w hub _ hlookup => (nextNode_iff hb harp hholds h).2 ⟨hub, hlookup⟩) hwalk
    exact ⟨a :: rest, rfl, rfl, hlast, halong⟩
  · intro hnone nodes hv
    by_contra hle
    have hlength : (nodes.map (Nat.cast : Nat → Int)).length ≤ Script.pathTruth.maxLength + 1 := by
      rw [List.length_map]
      exact Nat.not_lt.1 hle
    have hsome := walk_iff.2 ⟨(visits_iff hb harp hholds h).1 hv, hlength⟩
    rw [hnone] at hsome
    cases hsome

theorem PathTruth.RowOf.tells {sim : BasicSimulation} {maxStrDigits src dst : Nat} {done : List (Int × Str)}
    {row : PathTruth.Row φ} (hb : Built addr n isls [] net)
    (harp : ∀ (e : End) (d : NetDevice), Node.deviceAt net.nodes e = some d → e.2 ≠ 0 →
      e ∈ arp.users ∧ arp.entries.lookup (addr.ip e) = some (addr.mac e))
    (hloaded : LoadedFiles sim net (done.map Prod.snd) state) (h : PathTruth.RowOf maxStrDigits src dst done row) :
    Tells addr net arp state src dst row := by
  have hholds := hloaded.loaded.holds
  obtain ⟨ls, hread⟩ := hloaded.loaded.read
  obtain ⟨fstate, hreplay, hpaths⟩ := h.paths
  obtain ⟨-, rfl⟩ := (replay_read hread).1 hreplay
  obtain ⟨hthere, hnothere⟩ := walk_visits hb harp hholds hread src dst
  obtain ⟨hback, hnoback⟩ := walk_visits hb harp hholds hread dst src
  constructor
  · intro hopsFwd hopsRev rtt pathFwd hrow
    rw [hrow, Option.map_some, eq_comm, Option.map_eq_some_iff] at hpaths
    obtain ⟨⟨pf, pr⟩, hboth, heq⟩ := hpaths
    simp only [Prod.mk.injEq] at heq
    obtain ⟨rfl, rfl, rfl⟩ := heq
    have hwalks := bothPaths_eq_some.1 hboth
    simp only [Prod.mk.injEq] at hwalks
    obtain ⟨there, rfl, hvthere⟩ := hthere _ hwalks.1
    obtain ⟨back, rfl, hvback⟩ := hback _ hwalks.2
    have hpos : ∀ {a b : Nat} {nodes : List Nat}, Visits addr net arp state a b nodes → 0 < nodes.length := by
      intro a b nodes hv
      cases nodes with
      | nil => cases hv.head
      | cons => exact Nat.succ_pos _
    refine ⟨there, back, rfl, ?_, ?_, hvthere, hvback⟩
    · rw [List.length_map, Nat.sub_add_cancel (hpos hvthere)]
    · rw [List.length_map, Nat.sub_add_cancel (hpos hvback)]
  · intro hrow there back hvthere hvback
    rw [hrow, Option.map_none, eq_comm, Option.map_eq_none_iff] at hpaths
    cases hpf : walk .pathTruth (table (ls.map Line.hop)) src dst with
    | none => exact .inl (hnothere hpf there hvthere)
    | some pf =>
      cases hpr : walk .pathTruth (table (ls.map Line.hop)) dst src with
      | none => exact .inr (hnoback hpr back hvback)
      | some pr =>
        rw [hpf, hpr] at hpaths
        cases hpaths

variable {D R : Type} {sim : BasicSimulation} {rates : DataRates D R} {pingmesh : Option PingmeshScheduler}
  {u : Updates M D R} {s₀ s : UpdateRun R} {files : List (Int × Str)} {stepNs : Nat} {numSatellites numGroundStations : Nat}
  {nodeGslIfInfo : List Nat} {maxStrDigits : Nat} {rttPropMs : Int → List Int → List Int → Except Python.Error φ}
  {src dst : Nat} {rows : List (PathTruth.Row φ)}

/-- At every instant of every run that updates at the step of the files, the row of the file of the last update tells the
ways that packets take; in a static network it is the first row throughout. -/
theorem pathTruth_tells {b : Apps.BasicSimulation} {topology : Topology}
    (hbuild : build addr numSatellites numGroundStations isls nodeGslIfInfo = .ok net)
    (hpings : pingmeshScheduler b topology = .ok pingmesh)
    (hstart : startUpdates sim net rates (pingClients pingmesh) = .ok (u, s₀)) (hadv : AllAdvance u (pingClients pingmesh))
    (h : ReachesRun u s₀ s) (hdir : Directory sim stepNs files)
    (hstep : ¬ Static sim → u.dynamicStateUpdateIntervalNs = stepNs)
    (hmain : PathTruth.main maxStrDigits rttPropMs src dst files = .ok rows) :
    ∃ arp, populateArpCaches addr net = .ok arp ∧ ∃ (k : Nat) (row : PathTruth.Row φ),
      s.forwardingUpdates.length = k + 1 ∧ rows[k]? = some row ∧ row.tNs = (k * stepNs : Nat) ∧ row.tNs ≤ s.now ∧
      (Static sim ∧ k = 0 ∨ ¬ Static sim ∧
        (s.now ≤ row.tNs + stepNs ∨ sim.simulationEndTimeNs ≤ row.tNs + stepNs)) ∧
      Tells addr net arp s.forwarding src dst row := by
  obtain ⟨hsim, hnet, hloads₀⟩ := startUpdates_loads hdir hstart
  obtain ⟨hforce, h₀⟩ := startUpdates_inv (pingClients_range hpings) hstart hadv
  have hb := build_built hbuild
  obtain ⟨arp, harp, hresolved⟩ := @populateArpCaches_ok _ addr net hb.numbered
  rw [← hsim] at hdir hstep
  have hloads := h.loads hdir hstep hforce hadv h₀ hloads₀
  have hupdates := (h.inv hforce hadv h₀).forwarding
  obtain ⟨hlength, hrows⟩ := PathTruth.main_rows hmain
  obtain ⟨k, hk⟩ := Nat.exists_eq_add_of_le' hloads.begun
  obtain ⟨hnow, hle⟩ := hupdates.last hstep hk
  have hlt : k < rows.length := by
    have henough := hloads.enough
    omega
  have hrow := List.getElem?_eq_getElem hlt
  generalize rows[k] = row at hrow
  have hof := hrows k row hrow
  have htime : row.tNs = (k * stepNs : Nat) := by
    have htime := hof.time
    rw [List.getLast?_take, if_neg (Nat.succ_ne_zero k), Nat.add_sub_cancel, List.getElem?_eq_getElem (by omega),
      Option.some_or, Option.map_some, Option.some.injEq] at htime
    rw [← htime]
    exact hdir.times k _ (List.getElem?_eq_getElem (by omega))
  have hloaded := hloads.loaded
  rw [hk, hsim, hnet] at hloaded
  refine ⟨arp, harp, k, row, hk, hrow, htime, by rw [htime]; exact_mod_cast hle, ?_, hof.tells hb hresolved hloaded⟩
  rw [← hsim, htime]
  rw [Nat.succ_mul] at hnow
  exact_mod_cast hnow

end Tells

/-! ### A way that is dropped by the second file -/

def bothWaysText : Str := "2,3,0,0,1\n0,3,1,0,0\n1,3,3,1,0\n3,2,1,0,1\n1,2,0,0,0\n0,2,2,1,0\n".toList

def severedFiles : List (Int × Str) := [(0, bothWaysText), (100, "2,3,-1,-1,-1\n".toList)]

def severed : BasicSimulation where
  runDir := "run"
  config := (moving "100").config
  simulationEndTimeNs := 150
  file name :=
    if name = "run/routes/fstate_0.txt" then .lines (Python.getlines bothWaysText)
    else if name = "run/routes/fstate_100.txt" then .lines ["2,3,-1,-1,-1".toList]
    else if name = "run/routes/gsl_if_bandwidth_0.txt" then .lines []
    else .missing

def severedUpdates : Updates End Nat Nat := ⟨severed, twoSatellites, wholeDataRates, 100, 10⟩

def bothWaysState : ForwardingState :=
  [[(-2, -2, -2), (-2, -2, -2), (2, 2, 1), (1, 1, 1)],
    [(-2, -2, -2), (-2, -2, -2), (0, 1, 1), (3, 2, 1)],
    [(-2, -2, -2), (-2, -2, -2), (-2, -2, -2), (0, 1, 2)],
    [(-2, -2, -2), (-2, -2, -2), (1, 1, 2), (-2, -2, -2)]]

def severedStart : UpdateRun Nat := { atStart 100 1 [] with forwarding := bothWaysState }

theorem directory_severed : Directory severed 100 severedFiles where
  times k file h := by
    obtain ⟨hk, rfl⟩ := List.getElem?_eq_some_iff.1 h
    match k, hk with
    | 0, _ => rfl
    | 1, _ => rfl
  read k lines hk h := by
    have hend : severed.simulationEndTimeNs = 150 := rfl
    obtain rfl | rfl : k = 0 ∨ k = 1 := by omega
    · have hfirst : fstateLines severed 0 = .ok (Python.getlines bothWaysText) := by decide +kernel
      rw [Nat.zero_mul, Nat.cast_zero, hfirst] at h
      exact ⟨_, rfl, (Except.ok.inj h).symm⟩
    · have hsecond : fstateLines severed 100 = .ok (Python.getlines "2,3,-1,-1,-1\n".toList) := by decide +kernel
      rw [Nat.one_mul, Nat.cast_ofNat, hsecond] at h
      exact ⟨_, rfl, (Except.ok.inj h).symm⟩

theorem startUpdates_severed :
    startUpdates severed twoSatellites wholeDataRates [] = .ok (severedUpdates, severedStart) := by
  have hinterval : getParamOrFail "dynamic_state_update_interval_ns" severed.config >>= parsePositiveInt64 = .ok 100 := by
    decide +kernel
  have hforwarding : updateForwardingState severed twoSatellites 100 0 (initialEmptyForwardingState 4) =
      .ok (bothWaysState, some 100) := by decide +kernel
  have hrate : getParamOrFail "gsl_data_rate_megabit_per_s" severed.config >>= wholeDataRates.parsePositiveDouble = .ok 10 := by
    change _ >>= parsePositiveInt64 = _
    decide +kernel
  have hgsl : updateGslIfBandwidth wholeDataRates severed twoSatellites 10 100 0 (fun _ => none) =
      .ok (fun _ => none, some 100) :=
    rfl
  have hschedule : scheduleUpdate 0 100 (some 100) = .ok (some ⟨100, 100⟩) := rfl
  have hnodes : twoSatellites.nodes.length = 4 := rfl
  unfold startUpdates
  rw [hinterval, ok_bind, hnodes, Nat.cast_ofNat, hforwarding, ok_bind]
  simp only [hschedule, ok_bind, hrate]
  rw [hgsl, ok_bind]
  simp only [hschedule, ok_bind]
  rfl

namespace PathTruth

def bothWaysTable : Fstate :=
  ((((((∅ : Fstate).insert (2, 3) 0).insert (0, 3) 1).insert (1, 3) 3).insert (3, 2) 1).insert (1, 2) 0).insert (0, 2) 2

def severedTable : Fstate := bothWaysTable.insert (2, 3) (-1)

theorem walk_bothWays : walk .pathTruth bothWaysTable 2 3 = some [2, 0, 1, 3] ∧
    walk .pathTruth bothWaysTable 3 2 = some [3, 1, 0, 2] := by
  constructor
  · exact walk_iff.2 ⟨.hop (by decide) rfl (by decide) (.hop (by decide) rfl (by decide)
      (.hop (by decide) rfl (by decide) .arrived)), by decide⟩
  · exact walk_iff.2 ⟨.hop (by decide) rfl (by decide) (.hop (by decide) rfl (by decide)
      (.hop (by decide) rfl (by decide) .arrived)), by decide⟩

theorem walk_severed : walk .pathTruth severedTable 2 3 = none := by
  have hlookup : (severedTable.lookup (2, 3)).getD (-1) = -1 := rfl
  unfold walk
  rw [walkFrom, if_neg (by decide)]
  simp only [hlookup, true_or, if_true]

theorem main_severed : main 4300 (fun _ _ _ => .ok ()) 2 3 severedFiles =
    .ok [⟨0, some (3, 3, (), [2, 0, 1, 3]), 0⟩, ⟨100, none, 1⟩] := by
  have hfirst : loadFile .pathTruth 4300 ∅ bothWaysText = .ok bothWaysTable := rfl
  have hsecond : loadFile .pathTruth 4300 bothWaysTable "2,3,-1,-1,-1\n".toList = .ok severedTable := rfl
  have hnone : bothPaths (walk .pathTruth severedTable 2 3, walk .pathTruth severedTable 3 2) = none := by
    rw [walk_severed]
    rfl
  have hboth : bothPaths (some [2, 0, 1, 3], some [3, 1, 0, 2]) = some ([2, 0, 1, 3], [3, 1, 0, 2]) := rfl
  unfold main severedFiles
  simp only [forEach, step, hfirst, ok_bind, walk_bothWays.1, walk_bothWays.2, hboth, hsecond, hnone]
  rfl

end PathTruth

theorem advances_severed : Advances 0 100 150 := by
  refine ⟨by decide, fun k hk => ?_⟩
  rw [Nat.succ_mul]
  omega

/-- The first row has the ways of the start, and the second one that there is none after the update. -/
theorem pathTruth_tells_severed : ∃ (arp : ArpCache End) (s : UpdateRun Nat), ReachesRun severedUpdates severedStart s ∧
    Tells pairAddresses twoSatellites arp severedStart.forwarding 2 3
      (⟨0, some (3, 3, (), [2, 0, 1, 3]), 0⟩ : PathTruth.Row Unit) ∧
    Tells pairAddresses twoSatellites arp s.forwarding 2 3 (⟨100, none, 1⟩ : PathTruth.Row Unit) := by
  have hpings : pingClients none = [] := rfl
  have hstart := startUpdates_severed
  rw [← hpings] at hstart
  have hadv : AllAdvance severedUpdates (pingClients none) :=
    ⟨fun _ => ⟨by decide, advances_severed⟩, nofun⟩
  obtain ⟨s, hs, hupdates⟩ : ∃ s, severedStart.step severedUpdates .updateForwardingState = .ok s ∧
      s.forwardingUpdates = [⟨0, 0⟩, ⟨100, 100⟩] := ⟨_, rfl, rfl⟩
  have hnext : ReachesRun severedUpdates severedStart s :=
    .single ⟨.updateForwardingState, ⟨100, rfl, by decide, by decide⟩, hs⟩
  have hnone : pingmeshScheduler { pinging with config := [] } pingedPair = .ok none := rfl
  have htells := fun s h => pathTruth_tells (s := s) build_twoSatellites hnone hstart hadv h directory_severed (fun _ => rfl)
    PathTruth.main_severed
  obtain ⟨arp, harp, k, row, hk, hrow, -, -, -, hfirst⟩ := htells severedStart .refl
  obtain ⟨arp', harp', k', row', hk', hrow', -, -, -, hsecond⟩ := htells s hnext
  cases harp.symm.trans harp'
  rw [hupdates] at hk'
  cases hk
  cases hk'
  cases hrow
  cases hrow'
  exact ⟨arp, s, hnext, hfirst, hsecond⟩

end SatNet.Satellite
