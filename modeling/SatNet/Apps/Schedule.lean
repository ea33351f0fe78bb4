/-
What the traffic schedulers share: the topology and the simulation as they see them, and the reading
of a schedule, one entry a line, each checked against the entry before it and the topology.
-/
import SatNet.Ptop.Topology

namespace SatNet.Apps

open SatNet.ExpUtil SatNet.Loop

/-! ## The topology -/

/-- An IPv4 address. -/
abbrev Address := Nat

/-- A node: the first address of each interface of its IPv4 stack, of which interface 0 is the loopback. -/
abbrev Node := List Address

/-- A `Topology`. `NodeContainer` counts nodes in a `uint32_t`, the endpoints are nodes, and a node that passes
the test is one of them. -/
structure Topology where
  nodes : List Node
  isValidEndpoint : Int → Bool
  endpoints : List Nat
  nodes_lt : nodes.length < 2 ^ 32
  endpoints_lt : ∀ e ∈ endpoints, e < nodes.length
  endpoints_sorted : endpoints.Pairwise (· < ·)
  valid_endpoint : ∀ i < nodes.length, isValidEndpoint i = true → i ∈ endpoints

/-- `m_nodes.Get(i)`, whose argument is a `uint32_t`. -/
def Topology.node (t : Topology) (i : Nat) : Res Node := index t.nodes (toUInt32 i)

/-- `GetObject<Ipv4>()->GetAddress(1,0).GetLocal()`. -/
def firstAddress (n : Node) : Res Address :=
  match n[1]? with
  | some a => .ok a
  | none => .error nullPointer

theorem Topology.node_eq (t : Topology) {i : Nat} (h : i < t.nodes.length) : t.node i = .ok t.nodes[i] := by
  unfold Topology.node
  rw [toUInt32_eq (Nat.lt_trans h t.nodes_lt), index_lt h]

/-- The node is there, and so is its first interface. -/
def HasAddress (topology : Topology) (nodeId : Nat) : Prop :=
  ∃ n a, topology.nodes[nodeId]? = some n ∧ n[1]? = some a

/-- Of an id of 32 bits the address is found exactly if there is such a node with one. -/
theorem hasAddress_iff {t : Topology} {i : Nat} (hi : i < 2 ^ 32) :
    (∃ a, t.node i >>= firstAddress = .ok a) ↔ HasAddress t i := by
  unfold HasAddress Topology.node firstAddress
  simp only [toUInt32_eq hi, bind_eq_ok, index_ok]
  constructor
  · rintro ⟨a, n, hn, ha⟩
    split at ha
    · rename_i a' ha'
      exact ⟨n, a', hn, ha'⟩
    · cases ha
  · rintro ⟨n, a, hn, ha⟩
    exact ⟨a, n, hn, by rw [ha]⟩

/-! ## The simulation -/

/-- What is found under a file name. -/
inductive File where
  | missing
  | unreadable
  | lines (lines : List Str)

/-- What the schedulers use of `BasicSimulation`. -/
structure BasicSimulation extends Ptop.BasicSimulation where
  systemId : Nat
  simulationEndTimeNs : Nat
  simulationEndTimeNs_lt : simulationEndTimeNs < 2 ^ 63
  runDir : Str
  config : Config
  file : Str → File

/-- `m_basicSimulation->GetRunDir() + "/" + filename`. -/
def BasicSimulation.path (b : BasicSimulation) (filename : Str) : Str := b.runDir ++ '/' :: filename

/-! ## Reading a schedule -/

/-- What every kind of schedule entry has. -/
structure Header where
  id : Nat
  fromNodeId : Nat
  toNodeId : Nat
  startTimeNs : Nat
  deriving Repr, DecidableEq

variable {α : Type}

/-- The checks of an entry, in the order of the source; `kind` is the name the messages use. -/
def checkEntry (kind : String) (topology : Topology) (endNs prevStartTimeNs : Nat) (h : Header) : Res Unit :=
  if prevStartTimeNs > h.startTimeNs then
    .error (.invalidArgument s!"Start time is not weakly ascending (on line with {kind} ID: {h.id}, violation: {h.startTimeNs})\n")
  else if h.fromNodeId = h.toNodeId then
    .error (.invalidArgument s!"{kind} to itself at node ID: {h.toNodeId}.")
  else if !topology.isValidEndpoint h.fromNodeId then
    .error (.invalidArgument s!"Invalid from-endpoint for a schedule entry based on topology: {h.fromNodeId}")
  else if !topology.isValidEndpoint h.toNodeId then
    .error (.invalidArgument s!"Invalid to-endpoint for a schedule entry based on topology: {h.toNodeId}")
  else if h.startTimeNs ≥ endNs then
    .error (.invalidArgument s!"{kind} {h.id} has invalid start time {h.startTimeNs} >= {endNs}.")
  else .ok ()

/-- One round of the loop over the lines, with the start time of the line before and the schedule so far;
`parse` is told the number of the line. -/
def readLine (kind : String) (parse : Nat → Str → Res α) (header : α → Header) (topology : Topology) (endNs : Nat)
    (st : Nat × List α) (line : Str) : Res (Nat × List α) := do
  let entry ← parse st.2.length line
  checkEntry kind topology endNs st.1 (header entry)
  .ok ((header entry).startTimeNs, st.2 ++ [entry])

def readSchedule (kind : String) (parse : Nat → Str → Res α) (header : α → Header) (filename : Str) (file : File)
    (topology : Topology) (endNs : Nat) : Res (List α) :=
  match file with
  | .missing => .error (.runtimeError s!"File {String.ofList filename} does not exist.")
  | .unreadable => .error (.runtimeError s!"File {String.ofList filename} could not be read.")
  | .lines lines => do
    let (_, schedule) ← forEach (readLine kind parse header topology endNs) lines (0, [])
    .ok schedule

/-! ## The share of a system -/

/-- `!m_enable_distributed || m_distributed_node_system_id_assignment[nodeId] == m_system_id`. -/
def BasicSimulation.responsible (b : BasicSimulation) (nodeId : Nat) : Res Bool :=
  if b.distributedEnabled then do
    let systemId ← index b.distributedNodeSystemIdAssignment nodeId
    .ok (systemId = b.systemId)
  else .ok true

/-- The entries whose key is a node of this system. -/
def keepResponsible (b : BasicSimulation) (key : α → Nat) (l : List α) : Res (List α) :=
  forEach (fun kept x => do
    let mine ← b.responsible (key x)
    .ok (if mine then kept ++ [x] else kept)) l []

/-- "Check that the TCP flow IDs exist in the logging". -/
def checkLoggingIds (kind param : String) (ids : List Nat) (size : Nat) : Res Unit :=
  forEach (fun _ id =>
    if id ≥ size then .error (.invalidArgument s!"Invalid {kind} ID in {param}: {id}") else .ok ()) ids ()

theorem checkLoggingIds_ok {kind param : String} {ids : List Nat} {size : Nat} :
    checkLoggingIds kind param ids size = .ok () ↔ ∀ id ∈ ids, id < size := by
  refine (forEach_check (p := (· ≥ size)) _ ids).trans ?_
  simp

/-- The node belongs to this system, or the run is not distributed. -/
def BasicSimulation.owns (b : BasicSimulation) (nodeId : Nat) : Bool :=
  !b.distributedEnabled || b.distributedNodeSystemIdAssignment[nodeId]? == some b.systemId

theorem BasicSimulation.responsible_ok {b : BasicSimulation} {nodeId : Nat} {mine : Bool} :
    b.responsible nodeId = .ok mine ↔
      (b.distributedEnabled = true → nodeId < b.distributedNodeSystemIdAssignment.length) ∧ mine = b.owns nodeId := by
  unfold BasicSimulation.responsible BasicSimulation.owns
  cases hd : b.distributedEnabled with
  | false => simp [eq_comm]
  | true =>
    unfold index
    cases hx : b.distributedNodeSystemIdAssignment[nodeId]? with
    | none =>
      rw [List.getElem?_eq_none_iff] at hx
      simp [error_bind]
      omega
    | some systemId =>
      obtain ⟨hlt, -⟩ := List.getElem?_eq_some_iff.1 hx
      simp [ok_bind, hlt, eq_comm, beq_eq_decide]

/-- A loop that reads a value of each element and uses those of the nodes of this system. -/
theorem forEach_responsible {β γ : Type} {b : BasicSimulation} (read : α → Res β) (key : β → Nat) (use : β → List γ)
    (l : List α) (s s' : List γ) :
    forEach (fun s x => do
      let v ← read x
      let mine ← b.responsible (key v)
      .ok (if mine then s ++ use v else s)) l s = .ok s' ↔
      ∃ vs, List.Forall₂ (fun x v => read x = .ok v) l vs ∧
        (b.distributedEnabled = true → ∀ v ∈ vs, key v < b.distributedNodeSystemIdAssignment.length) ∧
        s' = s ++ (vs.filter fun v => b.owns (key v)).flatMap use := by
  induction l generalizing s with
  | nil =>
    simp only [forEach, Except.ok.injEq, List.forall₂_nil_left_iff, exists_eq_left, List.not_mem_nil, false_implies,
      implies_true, true_and, List.filter_nil, List.flatMap_nil, List.append_nil]
    exact eq_comm
  | cons x l ih =>
    have hkeep : ∀ v (vs : List β), (if b.owns (key v) = true then s ++ use v else s) ++
        (vs.filter fun v => b.owns (key v)).flatMap use =
          s ++ ((v :: vs).filter fun v => b.owns (key v)).flatMap use := by
      intro v vs
      cases hm : b.owns (key v) <;> simp [hm]
    unfold forEach
    simp only [bind_eq_ok, Except.ok.injEq, ih, BasicSimulation.responsible_ok, List.forall₂_cons_left_iff]
    constructor
    · rintro ⟨_, ⟨v, hv, _, ⟨hlt, rfl⟩, rfl⟩, vs, hvs, hlts, rfl⟩
      exact ⟨v :: vs, ⟨v, vs, hv, hvs, rfl⟩,
        fun hd => List.forall_mem_cons.2 ⟨hlt hd, hlts hd⟩, hkeep v vs⟩
    · rintro ⟨_, ⟨v, vs, hv, hvs, rfl⟩, hlts, rfl⟩
      exact ⟨_, ⟨v, hv, _, ⟨fun hd => (List.forall_mem_cons.1 (hlts hd)).1, rfl⟩, rfl⟩, vs, hvs,
        fun hd => (List.forall_mem_cons.1 (hlts hd)).2, (hkeep v vs).symm⟩

/-- The share of this system: of a run that is not distributed, everything. -/
theorem keepResponsible_ok {b : BasicSimulation} {key : α → Nat} {l kept : List α} :
    keepResponsible b key l = .ok kept ↔
      (b.distributedEnabled = true → ∀ x ∈ l, key x < b.distributedNodeSystemIdAssignment.length) ∧
        kept = l.filter fun x => b.owns (key x) := by
  have hread : ∀ vs, List.Forall₂ (fun x v => (.ok x : Res α) = .ok v) l vs ↔ l = vs := by
    simp [← List.forall₂_eq_eq_eq]
  have h := forEach_responsible (b := b) (.ok : α → Res α) key (fun x => [x]) l [] kept
  simpa [hread, ok_bind, keepResponsible] using h

/-- Every endpoint is a node that something can be installed on. -/
theorem installOnEndpoints (topology : Topology) (keep : Nat → Bool) :
    forEach (fun _ endpoint => topology.node endpoint >>= fun _ => Except.ok ()) (topology.endpoints.filter keep) () =
      (.ok () : Res Unit) := by
  refine forEach_unit.2 fun e he => ?_
  rw [topology.node_eq (topology.endpoints_lt e (List.mem_of_mem_filter he)), ok_bind]

/-! ## What an accepted schedule is -/

/-- The promises of the reader: entries are numbered by their place, start in order and before the end, and
go from one valid endpoint to another. -/
structure Accepted (header : α → Header) (topology : Topology) (endNs : Nat) (l : List α) : Prop where
  id : ∀ i e, l[i]? = some e → (header e).id = i
  ascending : (l.map fun e => (header e).startTimeNs).Pairwise (· ≤ ·)
  start_lt : ∀ e ∈ l, (header e).startTimeNs < endNs
  distinct : ∀ e ∈ l, (header e).fromNodeId ≠ (header e).toNodeId
  from_valid : ∀ e ∈ l, topology.isValidEndpoint (header e).fromNodeId = true
  to_valid : ∀ e ∈ l, topology.isValidEndpoint (header e).toNodeId = true

theorem Accepted.ids {header : α → Header} {topology : Topology} {endNs : Nat} {l : List α}
    (h : Accepted header topology endNs l) : l.map (fun e => (header e).id) = List.range l.length := by
  refine List.ext_getElem (by simp) fun i hi _ => ?_
  simp only [List.getElem_map, List.getElem_range]
  exact h.id i _ (List.getElem?_eq_getElem (by simpa using hi))

/-- Entries with the same id are the same entry. -/
theorem Accepted.eq_of_id {header : α → Header} {topology : Topology} {endNs : Nat} {l : List α}
    (h : Accepted header topology endNs l) {e e' : α} (he : e ∈ l) (he' : e' ∈ l)
    (hid : (header e).id = (header e').id) : e = e' := by
  have hnodup : (l.map fun e => (header e).id).Nodup := by
    rw [h.ids]
    exact List.nodup_range
  exact List.inj_on_of_nodup_map hnodup he he' hid

theorem checkEntry_ok {kind : String} {topology : Topology} {endNs prev : Nat} {h : Header} :
    checkEntry kind topology endNs prev h = .ok () ↔ prev ≤ h.startTimeNs ∧ h.fromNodeId ≠ h.toNodeId ∧
      topology.isValidEndpoint h.fromNodeId = true ∧ topology.isValidEndpoint h.toNodeId = true ∧
      h.startTimeNs < endNs := by
  unfold checkEntry
  split
  · simp; omega
  · split
    · simp_all
    · split
      · simp_all
      · split
        · simp_all
        · split
          · simp_all
          · simp_all

theorem readLine_ok {kind : String} {parse : Nat → Str → Res α} {header : α → Header} {topology : Topology}
    {endNs : Nat} {st st' : Nat × List α} {line : Str} (h : readLine kind parse header topology endNs st line = .ok st') :
    ∃ e, parse st.2.length line = .ok e ∧ checkEntry kind topology endNs st.1 (header e) = .ok () ∧
      st' = ((header e).startTimeNs, st.2 ++ [e]) := by
  obtain ⟨e, he, h⟩ := bind_ok h
  obtain ⟨_, hc, h⟩ := bind_ok h
  cases h
  exact ⟨e, he, hc, rfl⟩

/-- The schedule read so far keeps its promises, and no entry of it starts after the last one. -/
structure ReadInv (header : α → Header) (topology : Topology) (endNs : Nat) (st : Nat × List α) : Prop where
  accepted : Accepted header topology endNs st.2
  last : ∀ e ∈ st.2, (header e).startTimeNs ≤ st.1

theorem readLine_inv {kind : String} {parse : Nat → Str → Res α} {header : α → Header} {topology : Topology}
    {endNs : Nat} (hparse : ∀ n line e, parse n line = .ok e → (header e).id = n) {st st' : Nat × List α} {line : Str}
    (hi : ReadInv header topology endNs st) (h : readLine kind parse header topology endNs st line = .ok st') :
    ReadInv header topology endNs st' := by
  obtain ⟨e, he, hc, rfl⟩ := readLine_ok h
  obtain ⟨hprev, hne, hfrom, hto, hend⟩ := checkEntry_ok.1 hc
  have hlast : ∀ x ∈ st.2, (header x).startTimeNs ≤ (header e).startTimeNs := fun x hx => le_trans (hi.last x hx) hprev
  obtain ⟨hid, hasc, hlt, hdis, hf, ht⟩ := hi.accepted
  refine ⟨⟨?_, ?_, ?_, ?_, ?_, ?_⟩, ?_⟩
  · intro i x hx
    rw [List.getElem?_append] at hx
    split at hx
    · exact hid i x hx
    · rename_i hge
      obtain rfl : i = st.2.length := by
        by_contra hn
        rw [List.getElem?_eq_none (by simp; omega)] at hx
        cases hx
      simp only [Nat.sub_self, List.getElem?_cons_zero, Option.some.injEq] at hx
      subst hx
      exact hparse _ _ _ he
  · simp only [List.map_append, List.map_cons, List.map_nil, List.pairwise_append, List.pairwise_singleton, true_and]
    refine ⟨hasc, fun a ha b hb => ?_⟩
    obtain ⟨x, hx, rfl⟩ := List.mem_map.1 ha
    rw [List.mem_singleton] at hb
    subst hb
    exact hlast x hx
  · simpa [or_imp, forall_and] using ⟨hlt, hend⟩
  · simpa [or_imp, forall_and] using ⟨hdis, hne⟩
  · simpa [or_imp, forall_and] using ⟨hf, hfrom⟩
  · simpa [or_imp, forall_and] using ⟨ht, hto⟩
  · simpa [or_imp, forall_and] using hlast

/-- Every entry of a schedule that is read comes from a line. -/
theorem readSchedule_parsed {kind : String} {parse : Nat → Str → Res α} {header : α → Header} {topology : Topology}
    {endNs : Nat} {filename : Str} {file : File} {l : List α}
    (h : readSchedule kind parse header filename file topology endNs = .ok l) :
    ∀ e ∈ l, ∃ n line, parse n line = .ok e := by
  cases file with
  | missing => cases h
  | unreadable => cases h
  | lines lines =>
    obtain ⟨st, hst, h⟩ := bind_ok h
    cases h
    refine forEach_pre _ (fun _ st => ∀ e ∈ st.2, ∃ n line, parse n line = .ok e) (fun _ _ line _ hi hb => ?_)
      lines [] (0, []) st (by simp) hst
    obtain ⟨e, he, -, rfl⟩ := readLine_ok hb
    rintro x hx
    rcases List.mem_append.1 hx with hx | hx
    · exact hi x hx
    · rw [List.mem_singleton] at hx
      subst hx
      exact ⟨_, line, he⟩

/-- Every schedule that is read keeps the promises of the reader. -/
theorem readSchedule_accepted {kind : String} {parse : Nat → Str → Res α} {header : α → Header} {topology : Topology}
    {endNs : Nat} {filename : Str} {file : File} {l : List α}
    (hparse : ∀ n line e, parse n line = .ok e → (header e).id = n)
    (h : readSchedule kind parse header filename file topology endNs = .ok l) : Accepted header topology endNs l := by
  cases file with
  | missing => cases h
  | unreadable => cases h
  | lines lines =>
    obtain ⟨st, hst, h⟩ := bind_ok h
    cases h
    have hinit : ReadInv header topology endNs (0, []) := by
      constructor
      · constructor <;> simp
      · simp
    exact (forEach_pre _ (fun _ st => ReadInv header topology endNs st)
      (fun _ _ _ _ hi hb => readLine_inv hparse hi hb) lines [] (0, []) st hinit hst).accepted

end SatNet.Apps
