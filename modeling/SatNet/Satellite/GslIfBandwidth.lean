/-
`GslIfBandwidthHelper`: the files that set the data rates of the GSL interfaces, read and checked like those of the
forwarding state and scheduled in the same way.
-/
import SatNet.Satellite.SingleForward
import Mathlib.Logic.Function.Basic

namespace SatNet.Satellite

open SatNet.Loop SatNet.ExpUtil

variable {M D R : Type}

/-- What the helper does with doubles: `parse_positive_double`, and `DataRate(std::to_string(a * b) + "Mbps")`. -/
structure DataRates (D R : Type) where
  parsePositiveDouble : Str → Res D
  dataRate : D → D → Res R

/-- The rates set at the GSL devices. -/
abbrev GslRates (R : Type) := End → Option R

variable (rates : DataRates D R)

/-- One round of the loop over the lines. -/
def updateRateLine (net : Network M) (gslDataRateMegabitPerS : D) (gsl : GslRates R) (line : Str) : Res (GslRates R) := do
  let commaSplit ← splitStringExpected line ",".toList 3
  let nodeId ← index commaSplit 0 >>= parsePositiveInt64
  let ifId ← index commaSplit 1 >>= parsePositiveInt64
  let bandwidthFraction ← index commaSplit 2 >>= rates.parsePositiveDouble
  if nodeId ≥ net.nodes.length then .error (.abort "Invalid node id.")
  else do
    let shifted ← int64 (ifId + 1)
    let n ← Node.nInterfaces net.nodes nodeId
    if shifted ≥ n then .error (.abort "Invalid interface")
    else do
      let (e, device) ← Node.netDevice net.nodes nodeId (1 + ifId)
      match device with
      | .gsl => do
        let r ← rates.dataRate gslDataRateMegabitPerS bandwidthFraction
        .ok (Function.update gsl e (some r))
      -- `GetObject<GSLNetDevice>()` fails on every other device
      | _ => .error nullPointer

/-- The lines of the bandwidth file for time `t`. -/
def gslIfBandwidthLines (sim : BasicSimulation) (t : Int) : Res (List Str) := do
  let routesDir ← getParamOrFail "satellite_network_routes_dir" sim.config
  let filename := s!"{sim.runDir}/{String.ofList routesDir}/gsl_if_bandwidth_{t}.txt"
  match sim.file filename with
  | .missing => .error (.runtimeError s!"File {filename} does not exist.")
  | .unreadable => .error (.runtimeError s!"File {filename} could not be read.")
  | .lines lines => .ok lines

/-- The end of both updates: the time of the next one, unless the network is static or the simulation ends before. -/
def planNextUpdate (sim : BasicSimulation) (dynamicStateUpdateIntervalNs t : Int) : Res (Option Int) := do
  let forceStatic ← parseBoolean (getParamOrDefault "satellite_network_force_static" "false" sim.config)
  if forceStatic then .ok none
  else do
    let nextUpdateNs ← int64 (t + dynamicStateUpdateIntervalNs)
    .ok (if nextUpdateNs < sim.simulationEndTimeNs then some nextUpdateNs else none)

/-- `UpdateGslIfBandwidth(t)`: the new rates, and the time of the update that it schedules. -/
def updateGslIfBandwidth (sim : BasicSimulation) (net : Network M) (gslDataRateMegabitPerS : D)
    (dynamicStateUpdateIntervalNs t : Int) (gsl : GslRates R) : Res (GslRates R × Option Int) := do
  let lines ← gslIfBandwidthLines sim t
  let gsl ← forEach (updateRateLine rates net gslDataRateMegabitPerS) lines gsl
  let next ← planNextUpdate sim dynamicStateUpdateIntervalNs t
  .ok (gsl, next)

/-- The first part of both updates: the file for time `t` is loaded. -/
def loadForwardingState (sim : BasicSimulation) (net : Network M) (t : Int) (state : ForwardingState) :
    Res ForwardingState := do
  let lines ← fstateLines sim t
  forEach (updateLine net) lines state

def loadGslIfBandwidth (sim : BasicSimulation) (net : Network M) (gslDataRateMegabitPerS : D) (t : Int)
    (gsl : GslRates R) :
    Res (GslRates R) := do
  let lines ← gslIfBandwidthLines sim t
  forEach (updateRateLine rates net gslDataRateMegabitPerS) lines gsl

theorem updateForwardingState_eq (sim : BasicSimulation) (net : Network M) (intervalNs t : Int)
    (state : ForwardingState) :
    updateForwardingState sim net intervalNs t state =
      loadForwardingState sim net t state >>= fun state =>
        planNextUpdate sim intervalNs t >>= fun next => .ok (state, next) := by
  unfold updateForwardingState loadForwardingState planNextUpdate
  simp only [bind_assoc]
  refine congrArg _ (funext fun lines => congrArg _ (funext fun state => congrArg _ (funext fun forceStatic => ?_)))
  cases forceStatic with
  | true => rfl
  | false => simp only [Bool.false_eq_true, if_false, bind_assoc, ok_bind]

theorem updateGslIfBandwidth_eq (sim : BasicSimulation) (net : Network M) (d : D) (intervalNs t : Int)
    (gsl : GslRates R) :
    updateGslIfBandwidth rates sim net d intervalNs t gsl =
      loadGslIfBandwidth rates sim net d t gsl >>= fun gsl =>
        planNextUpdate sim intervalNs t >>= fun next => .ok (gsl, next) := by
  unfold updateGslIfBandwidth loadGslIfBandwidth
  simp only [bind_assoc]

end SatNet.Satellite
