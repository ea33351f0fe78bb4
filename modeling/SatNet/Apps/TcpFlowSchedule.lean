/-
`TcpFlowScheduler` of `tcp-flow-scheduler.cc`: the flows of the schedule start one after the other, each
start scheduling the next, and the results are written by position.
-/
import SatNet.Apps.Schedule
import SatNet.Apps.TcpFlowSend
import SatNet.Base.Simulator

namespace SatNet.Apps

open SatNet.ExpUtil SatNet.Loop SatNet.Events

/-! ## The schedule -/

structure TcpFlowScheduleEntry where
  tcpFlowId : Nat
  fromNodeId : Nat
  toNodeId : Nat
  sizeByte : Nat
  startTimeNs : Nat
  additionalParameters : Str
  metadata : Str
  deriving Repr, DecidableEq

def TcpFlowScheduleEntry.header (e : TcpFlowScheduleEntry) : Header :=
  ⟨e.tcpFlowId, e.fromNodeId, e.toNodeId, e.startTimeNs⟩

def parseTcpFlow (lineCounter : Nat) (line : Str) : Res TcpFlowScheduleEntry := do
  let commaSplit ← splitStringExpected line ",".toList 7
  let tcpFlowId ← index commaSplit 0 >>= parsePositiveInt64
  if tcpFlowId ≠ lineCounter then
    .error (.invalidArgument s!"TCP flow ID is not ascending by one each line (violation: {tcpFlowId})\n")
  else do
    let fromNodeId ← index commaSplit 1 >>= parsePositiveInt64
    let toNodeId ← index commaSplit 2 >>= parsePositiveInt64
    let sizeByte ← index commaSplit 3 >>= parsePositiveInt64
    let startTimeNs ← index commaSplit 4 >>= parsePositiveInt64
    let additionalParameters ← index commaSplit 5
    let metadata ← index commaSplit 6
    .ok { tcpFlowId, fromNodeId, toNodeId, sizeByte, startTimeNs, additionalParameters, metadata }

def readTcpFlowSchedule (filename : Str) (file : File) (topology : Topology) (simulationEndTimeNs : Nat) :
    Res (List TcpFlowScheduleEntry) :=
  readSchedule "TCP flow" parseTcpFlow TcpFlowScheduleEntry.header filename file topology simulationEndTimeNs

/-! ## The scheduler -/

/-- The application that `TcpFlowSendHelper` installs: the node it is on, its remote, and its attributes. -/
structure TcpFlowApp where
  node : Nat
  remote : Address
  tcpFlowId : Nat
  attributes : FlowAttributes
  additionalParameters : Str

/-- The fields of the scheduler, with the nodes it has installed a sink on and the calls of `StartNextFlow`
so far (the time and the argument of each). -/
structure TcpFlowScheduler where
  simulationEndTimeNs : Nat
  enableLoggingForTcpFlowIds : List Nat
  schedule : List TcpFlowScheduleEntry
  apps : List TcpFlowApp
  sinks : List Nat
  started : List (Nat × Int)

theorem defaultSendSize_pos : 0 < 100000 := by decide

theorem defaultSendSize_lt : 100000 < 2 ^ 32 := by decide

/-- The attributes of the application of a flow; the helper leaves `SendSize` at its default. -/
def flowAttributes (sizeByte : Nat) (enableLogging : Bool) : FlowAttributes where
  sendSize := 100000
  maxBytes := sizeByte % 2 ^ 64
  enableDetailedLogging := enableLogging
  sendSize_pos := defaultSendSize_pos
  sendSize_lt := defaultSendSize_lt
  maxBytes_lt := Nat.mod_lt _ (by decide)

/-- `StartNextFlow(i)`. -/
def startNextFlow (topology : Topology) (i : Int) (w : Sim Int TcpFlowScheduler) : Res (Sim Int TcpFlowScheduler) := do
  let s := { w.state with started := w.state.started ++ [(w.now, i)] }
  let entry ← index s.schedule i.toNat
  if w.now ≠ entry.startTimeNs then .error (.assertion "now_ns == entry.GetStartTimeNs()")
  else do
    let remote ← topology.node entry.toNodeId >>= firstAddress
    let _ ← topology.node entry.fromNodeId
    let app :=
      { node := toUInt32 entry.fromNodeId
        remote
        tcpFlowId := entry.tcpFlowId
        attributes := flowAttributes entry.sizeByte (s.enableLoggingForTcpFlowIds.contains entry.tcpFlowId)
        additionalParameters := entry.additionalParameters }
    let w := { w with state := { s with apps := s.apps ++ [app] } }
    let next ← int32 (i + 1)
    if next ≠ toInt32 s.schedule.length then do
      let nextEntry ← index s.schedule next.toNat
      schedule (nextEntry.startTimeNs - w.now) next w
    else .ok w

/-! ## The constructor -/

/-- The constructor after the complete schedule was read: the state of the simulation it leaves. -/
def prepareTcpFlows (b : BasicSimulation) (topology : Topology) (loggingIds : List Nat)
    (completeSchedule : List TcpFlowScheduleEntry) : Res (Sim Int TcpFlowScheduler) := do
  checkLoggingIds "TCP flow" "tcp_flow_enable_logging_for_tcp_flow_ids" loggingIds completeSchedule.length
  let schedule ← (if b.distributedEnabled then keepResponsible b TcpFlowScheduleEntry.fromNodeId completeSchedule
    else .ok completeSchedule)
  let sinks ← keepResponsible b id topology.endpoints
  let _ ← forEach (fun _ endpoint => topology.node endpoint >>= fun _ => .ok ()) sinks ()
  let s : TcpFlowScheduler :=
    { simulationEndTimeNs := b.simulationEndTimeNs, enableLoggingForTcpFlowIds := loggingIds, schedule, apps := []
      sinks, started := [] }
  let w : Sim Int TcpFlowScheduler := ⟨0, [], s⟩
  match schedule with
  | [] => .ok w
  | first :: _ => SatNet.schedule first.startTimeNs 0 w

/-- `TcpFlowScheduler(basicSimulation, topology)`; `none` where it is not enabled. -/
def tcpFlowScheduler (b : BasicSimulation) (topology : Topology) : Res (Option (Sim Int TcpFlowScheduler)) := do
  let enabled ← parseBoolean (getParamOrDefault "enable_tcp_flow_scheduler" "false" b.config)
  if !enabled then .ok none
  else do
    let loggingIds ← parseSetPositiveInt64
      (getParamOrDefault "tcp_flow_enable_logging_for_tcp_flow_ids" "set()" b.config)
    let filename ← getParamOrFail "tcp_flow_schedule_filename" b.config
    let completeSchedule ← readTcpFlowSchedule (b.path filename) (b.file (b.path filename)) topology b.simulationEndTimeNs
    let w ← prepareTcpFlows b topology loggingIds completeSchedule
    .ok (some w)

/-- The events of the scheduler until the end of the simulation. -/
def runTcpFlows (topology : Topology) (simulationEndTimeNs fuel : Nat) (w : Sim Int TcpFlowScheduler) :
    Res (Sim Int TcpFlowScheduler) :=
  Events.run .diverges (startNextFlow topology) simulationEndTimeNs fuel w

/-! ## The results -/

/-- A line of `tcp_flows.csv`. -/
structure FlowRow where
  tcpFlowId : Nat
  fromNodeId : Nat
  toNodeId : Nat
  sizeByte : Nat
  startTimeNs : Nat
  endTimeNs : Int
  durationNs : Int
  sentByte : Int
  finished : String
  metadata : Str
  deriving Repr, DecidableEq

def finishedState (app : TcpFlowSendApplication) : String :=
  if app.IsCompleted then "YES"
  else if app.IsConnFailed then "NO_CONN_FAIL"
  else if app.IsClosedNormally then "NO_BAD_CLOSE"
  else if app.IsClosedByError then "NO_ERR_CLOSE"
  else "NO_ONGOING"

/-- The line of an entry, from the application of its flow as it is at the end. -/
def flowRow (simulationEndTimeNs : Nat) (entry : TcpFlowScheduleEntry) (a : FlowAttributes) (flow : Flow) :
    Res FlowRow := do
  let flow ← finalizeDetailedLogs a flow
  let sentByte ← getAckedBytes flow
  let fctNs : Int :=
    if flow.app.IsCompleted then flow.app.completionTimeNs - entry.startTimeNs
    else simulationEndTimeNs - entry.startTimeNs
  .ok { tcpFlowId := entry.tcpFlowId, fromNodeId := entry.fromNodeId, toNodeId := entry.toNodeId
        sizeByte := entry.sizeByte, startTimeNs := entry.startTimeNs, endTimeNs := entry.startTimeNs + fctNs
        durationNs := fctNs, sentByte, finished := finishedState flow.app, metadata := entry.metadata }

/-- What `vector::at` throws. -/
def rangeCheck : Fail := .outOfRange "vector::_M_range_check"

def TcpFlowScheduler.appAt (s : TcpFlowScheduler) (i : Nat) : Res TcpFlowApp :=
  match s.apps[i]? with
  | some app => .ok app
  | none => .error rangeCheck

/-- `WriteResults()`, with the application of each flow as it is at the end; `app_idx` is a `uint32_t`. -/
def writeTcpResults (s : TcpFlowScheduler) (flowOf : Nat → Flow) : Res (List FlowRow) := do
  let (_, rows) ← forEach (fun (st : Nat × List FlowRow) entry => do
    let app ← s.appAt st.1
    let row ← flowRow s.simulationEndTimeNs entry app.attributes (flowOf st.1)
    .ok (toUInt32 (st.1 + 1 : Nat), st.2 ++ [row])) s.schedule (0, [])
  .ok rows

end SatNet.Apps
