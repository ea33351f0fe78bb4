/-
`PtopLinkUtilizationTrackerHelper` of `ptop-link-utilization-tracker-helper.cc`: a tracker for each direction of
every link whose sending node is of this system.
-/
import SatNet.Apps.Schedule
import SatNet.Lib.Partition

namespace SatNet.Apps

open SatNet.ExpUtil SatNet.Loop

variable {δ : Type}

/-- The trackers: each follows the device of the sending node of a directed link. -/
structure LinkTrackers (δ : Type) where
  utilizationIntervalNs : Nat
  trackers : List ((Nat × Nat) × δ)

/-- One round of the loop over the edges, which counts in an `int`. -/
def trackEdge (b : BasicSimulation) (undirectedEdges : List (Nat × Nat)) (netDevicesForEdges : List (δ × δ)) (i : Nat)
    (trackers : List ((Nat × Nat) × δ)) : Res (List ((Nat × Nat) × δ)) := do
  let edge ← index undirectedEdges i
  let edgeNetDevices ← index netDevicesForEdges i
  let mine ← b.responsible edge.1
  let trackers := if mine then trackers ++ [(edge, edgeNetDevices.1)] else trackers
  let mine ← b.responsible edge.2
  let trackers := if mine then trackers ++ [((edge.2, edge.1), edgeNetDevices.2)] else trackers
  let _ ← int32 (i + 1)
  .ok trackers

/-- `PtopLinkUtilizationTrackerHelper(basicSimulation, topology)`; `none` where it is not enabled. -/
def linkUtilizationTrackers (b : BasicSimulation) (t : Ptop.TopologyPtop) (netDevicesForEdges : List (δ × δ)) :
    Res (Option (LinkTrackers δ)) := do
  let enabled ← parseBoolean (getParamOrDefault "enable_link_utilization_tracking" "false" b.config)
  if !enabled then .ok none
  else do
    let utilizationIntervalNs ← getParamOrFail "link_utilization_tracking_interval_ns" b.config >>= parseGeqOneInt64
    let trackers ← forRange t.numUndirectedEdges (trackEdge b t.undirectedEdges netDevicesForEdges) []
    .ok (some { utilizationIntervalNs, trackers })

/-! ## The trackers of a system -/

/-- The directed links of the first edges, each with its device. -/
def directedLinks (edges : List (Nat × Nat)) (devices : List (δ × δ)) : List ((Nat × Nat) × δ) :=
  (edges.zip devices).flatMap fun x => [(x.1, x.2.1), ((x.1.2, x.1.1), x.2.2)]

variable {b : BasicSimulation} {edges : List (Nat × Nat)} {devices : List (δ × δ)}

/-- A round puts the trackers of its edge that are of this system. -/
theorem trackEdge_ok {i : Nat} {trackers trackers' : List ((Nat × Nat) × δ)} :
    trackEdge b edges devices i trackers = .ok trackers' ↔
      ∃ edge ends, edges[i]? = some edge ∧ devices[i]? = some ends ∧ i + 1 < 2 ^ 31 ∧
        (b.distributedEnabled = true → edge.1 < b.distributedNodeSystemIdAssignment.length ∧
          edge.2 < b.distributedNodeSystemIdAssignment.length) ∧
        trackers' = trackers ++
          [(edge, ends.1), ((edge.2, edge.1), ends.2)].filter fun x => b.owns x.1.1 := by
  have hint : ∀ c : Int, int32 ((i : Int) + 1) = .ok c ↔ i + 1 < 2 ^ 31 ∧ c = i + 1 := by
    intro c
    rw [int32_ok_iff]
    omega
  unfold trackEdge
  rw [bind_eq_ok]
  simp only [bind_eq_ok, index_ok, BasicSimulation.responsible_ok, hint, Except.ok.injEq]
  constructor
  · rintro ⟨edge, he, ends, hends, _, ⟨h₁, rfl⟩, _, ⟨h₂, rfl⟩, _, ⟨hi, -⟩, rfl⟩
    refine ⟨edge, ends, he, hends, hi, fun hd => ⟨h₁ hd, h₂ hd⟩, ?_⟩
    cases h₁ : b.owns edge.1 <;> cases h₂ : b.owns edge.2 <;> simp [h₁, h₂]
  · rintro ⟨edge, ends, he, hends, hi, hlt, rfl⟩
    refine ⟨edge, he, ends, hends, _, ⟨fun hd => (hlt hd).1, rfl⟩, _, ⟨fun hd => (hlt hd).2, rfl⟩, _, ⟨hi, rfl⟩, ?_⟩
    cases h₁ : b.owns edge.1 <;> cases h₂ : b.owns edge.2 <;> simp [h₁, h₂]

theorem directedLinks_take_succ {n : Nat} {edge : Nat × Nat} {ends : δ × δ} (he : edges[n]? = some edge)
    (hends : devices[n]? = some ends) :
    directedLinks (edges.take (n + 1)) (devices.take (n + 1)) =
      directedLinks (edges.take n) (devices.take n) ++ [(edge, ends.1), ((edge.2, edge.1), ends.2)] := by
  have hlt := (List.getElem?_eq_some_iff.1 he).1
  have hlt' := (List.getElem?_eq_some_iff.1 hends).1
  have hlen : (edges.take n).length = (devices.take n).length := by
    rw [List.length_take, List.length_take]
    omega
  unfold directedLinks
  rw [List.take_add_one, List.take_add_one, he, hends, Option.toList_some, Option.toList_some, List.zip_append hlen]
  simp

/-- The loop ends exactly if every edge has devices and, in a distributed run, systems. -/
theorem trackEdges_ok : ∀ {n : Nat} {trackers : List ((Nat × Nat) × δ)},
    forRange n (trackEdge b edges devices) [] = .ok trackers ↔
      n ≤ edges.length ∧ n ≤ devices.length ∧ n < 2 ^ 31 ∧
        (b.distributedEnabled = true → ∀ e ∈ edges.take n, e.1 < b.distributedNodeSystemIdAssignment.length ∧
          e.2 < b.distributedNodeSystemIdAssignment.length) ∧
        trackers = (directedLinks (edges.take n) (devices.take n)).filter fun x => b.owns x.1.1
  | 0, trackers => by simp [forRange, directedLinks]
  | n + 1, trackers => by
    unfold forRange
    simp only [bind_eq_ok, trackEdges_ok (n := n), trackEdge_ok]
    constructor
    · rintro ⟨_, ⟨-, -, -, hlt, rfl⟩, edge, ends, he, hends, hint, hlt', rfl⟩
      refine ⟨(List.getElem?_eq_some_iff.1 he).1, (List.getElem?_eq_some_iff.1 hends).1, hint, fun hd e hmem => ?_, ?_⟩
      · rw [List.take_add_one, he, Option.toList_some] at hmem
        rcases List.mem_append.1 hmem with hmem | hmem
        · exact hlt hd e hmem
        · rw [List.mem_singleton.1 hmem]
          exact hlt' hd
      · rw [directedLinks_take_succ he hends, List.filter_append]
    · rintro ⟨hn, hn', hint, hlt, rfl⟩
      have he : edges[n]? = some edges[n] := List.getElem?_eq_getElem hn
      have hends : devices[n]? = some devices[n] := List.getElem?_eq_getElem hn'
      have hmem : ∀ e ∈ edges.take n, e ∈ edges.take (n + 1) := fun e h =>
        (List.take_subset_take_left edges (Nat.le_succ n)) h
      refine ⟨_, ⟨by omega, by omega, by omega, fun hd e h => hlt hd e (hmem e h), rfl⟩, edges[n], devices[n], he,
        hends, hint, fun hd => hlt hd _ ?_, ?_⟩
      · rw [List.take_add_one, he, Option.toList_some]
        exact List.mem_append_right _ (List.mem_singleton_self _)
      · rw [directedLinks_take_succ he hends, List.filter_append]

end SatNet.Apps
