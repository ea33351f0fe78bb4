/-
The systems of a distributed run: `ConfigureSimulation` of `basic-simulation.cc` reads which system each node is
assigned to, and every node of an accepted topology is then owned by exactly one system.
-/
import SatNet.Apps.Endpoints
import SatNet.Lib.Partition

namespace SatNet.Apps

open SatNet.ExpUtil SatNet.Loop

/-! ## The configuration -/

/-- What `ConfigureSimulation` sets. -/
structure Systems where
  distributedEnabled : Bool
  distributedNodeSystemIdAssignment : List Nat
  systemId : Nat
  systemsCount : Nat
  deriving Repr, DecidableEq

/-- "Check node-to-system-id assignment". -/
def checkAssignment (systemsCount : Nat) (assignment : List Nat) : Res Unit :=
  forEach (fun _ x =>
    if x.1 ≥ systemsCount then
      .error (.invalidArgument s!"Node {x.2} is assigned to an invalid system id {x.1} (k={systemsCount})")
    else .ok ()) assignment.zipIdx ()

/-- `ConfigureSimulation()`, with the system id and the number of systems that MPI tells. -/
def configureSimulation (config : Config) (mpiSystemId mpiSize : Nat) : Res Systems := do
  let distributedEnabled ← parseBoolean (getParamOrDefault "enable_distributed" "false" config)
  if !distributedEnabled then .ok ⟨false, [], 0, 1⟩
  else do
    let implementation ← getParamOrFail "distributed_simulator_implementation_type" config
    if implementation ≠ "nullmsg".toList ∧ implementation ≠ "default".toList then
      .error (.runtimeError s!"Unknown distributed simulator implementation type: {String.ofList implementation}")
    else do
      let count ← getParamOrFail "distributed_systems_count" config >>= parsePositiveInt64
      let configSystemsCount := toUInt32 count
      if mpiSize ≠ configSystemsCount then
        .error (.runtimeError s!"Systems count in configuration ({configSystemsCount}) does not match up with MPI systems count ({mpiSize})")
      else do
        let assignment ← getParamOrFail "distributed_node_system_id_assignment" config >>= parseListPositiveInt64
        checkAssignment mpiSize assignment
        .ok ⟨true, assignment, mpiSystemId, mpiSize⟩

theorem checkAssignment_ok {systemsCount : Nat} {assignment : List Nat} :
    checkAssignment systemsCount assignment = .ok () ↔ ∀ i ∈ assignment, i < systemsCount := by
  refine (forEach_check (p := fun x : Nat × Nat => x.1 ≥ systemsCount) _ assignment.zipIdx).trans ?_
  simp only [ge_iff_le, not_le]
  constructor
  · intro h i hi
    obtain ⟨j, hj⟩ := List.getElem?_of_mem hi
    exact h (i, j) (List.mem_zipIdx_iff_getElem?.2 hj)
  · rintro h ⟨i, j⟩ hx
    exact h i (List.mem_of_getElem? (List.mem_zipIdx_iff_getElem?.1 hx))

/-- A distributed run is configured with an assignment to its systems only. -/
theorem configureSimulation_assigned {config : Config} {mpiSystemId mpiSize : Nat} {s : Systems}
    (h : configureSimulation config mpiSystemId mpiSize = .ok s) (hd : s.distributedEnabled = true) :
    ∀ i ∈ s.distributedNodeSystemIdAssignment, i < s.systemsCount := by
  obtain ⟨enabled, -, h⟩ := bind_ok h
  split at h
  · cases h
    cases hd
  · obtain ⟨implementation, -, h⟩ := bind_ok h
    split at h
    · cases h
    · obtain ⟨count, -, h⟩ := bind_ok h
      simp only at h
      split at h
      · cases h
      · obtain ⟨assignment, -, h⟩ := bind_ok h
        obtain ⟨_, hcheck, h⟩ := bind_ok h
        cases h
        exact checkAssignment_ok.1 hcheck

/-! ## A distributed run -/

/-- What the program accepts for a distributed run over a topology: all systems read one configuration, and the
topology is parsed with its assignment. -/
structure Distribution (p : PtopNetwork) where
  config : Config
  systemsCount : Nat
  assignment : List Nat
  configured : ∀ i, configureSimulation config i systemsCount = .ok ⟨true, assignment, i, systemsCount⟩
  parsed : Ptop.parseTopologyGraph ⟨true, assignment⟩ p.config = .ok p.graph

variable {p : PtopNetwork}

/-- System `i` of a distributed run of a simulation. -/
def Distribution.system (d : Distribution p) (b : BasicSimulation) (i : Nat) : BasicSimulation :=
  { b with toBasicSimulation := ⟨true, d.assignment⟩, systemId := i }

theorem Distribution.assigned (d : Distribution p) : d.assignment.length = p.graph.numNodes := by
  obtain ⟨strings, st, hp⟩ := Ptop.parseTopologyGraph_ok.1 d.parsed
  exact hp.assigned rfl

theorem Distribution.owns (d : Distribution p) (b : BasicSimulation) (i x : Nat) :
    (d.system b i).owns x = true ↔ d.assignment[x]? = some i := by
  unfold BasicSimulation.owns Distribution.system
  simp

/-- Every node is owned by exactly one system. -/
theorem Distribution.owner (d : Distribution p) (b : BasicSimulation) {x : Nat} (hx : x < p.graph.numNodes) :
    ∃! i, i < d.systemsCount ∧ (d.system b i).owns x = true := by
  have hlt : x < d.assignment.length := by rw [d.assigned]; exact hx
  have hk : d.assignment[x] < d.systemsCount :=
    configureSimulation_assigned (d.configured 0) rfl _ (List.getElem_mem hlt)
  simp only [d.owns, List.getElem?_eq_getElem hlt, Option.some.injEq]
  exact ⟨d.assignment[x], ⟨hk, rfl⟩, fun i hi => hi.2.symm⟩

section Share

variable {α : Type} {d : Distribution p} (b : BasicSimulation) {whole : List α} (key : α → Nat) {part : Nat → List α}

/-- The systems divide a list among them where each has those whose node it owns. -/
theorem Distribution.share_union (h : ∀ x ∈ whole, key x < p.graph.numNodes)
    (hpart : ∀ i < d.systemsCount, part i = whole.filter fun x => (d.system b i).owns (key x)) :
    (Partition.union d.systemsCount part).Perm whole := by
  rw [Partition.union_congr hpart]
  exact Partition.union_filter fun x hx => d.owner b (h x hx)

theorem Distribution.share_once (h : ∀ x ∈ whole, key x < p.graph.numNodes)
    (hpart : ∀ i < d.systemsCount, part i = whole.filter fun x => (d.system b i).owns (key x)) :
    Partition.Once d.systemsCount whole part :=
  (Partition.once_filter fun x hx => d.owner b (h x hx)).congr hpart

end Share

end SatNet.Apps
