/-
`UdpBurstApplication` of `udp-burst-application.cc`: the bursts registered with the application of a node,
the events that send their packets, and the counting of the packets that arrive.
-/
import SatNet.Apps.Schedule
import SatNet.Base.Doubles
import SatNet.Base.Simulator

namespace SatNet.Apps

open SatNet.Binary64 SatNet.Events SatNet.ExpUtil SatNet.Loop

/-! ## The data -/

/-- A burst; `ρ` is the type of its target rate, a `double`. -/
structure UdpBurstInfo (ρ : Type) where
  udpBurstId : Nat
  fromNodeId : Nat
  toNodeId : Nat
  targetRate : ρ
  startTimeNs : Nat
  durationNs : Nat
  additionalParameters : Str
  metadata : Str
  deriving Repr, DecidableEq

/-- The header of every packet. -/
structure IdSeq where
  id : Nat
  seq : Nat
  deriving Repr, DecidableEq

/-- A packet and the address it is sent to. -/
structure Datagram where
  idSeq : IdSeq
  target : Address
  deriving Repr, DecidableEq

/-- A line of a file `udp_burst_[id]_outgoing.csv` or `udp_burst_[id]_incoming.csv`. -/
structure LogLine where
  idSeq : IdSeq
  timeNs : Nat
  deriving Repr, DecidableEq

/-- The fields of the application; of `m_socket` only whether it is set. The vectors run in parallel, and no
run is long enough for a `uint64_t` counter to overflow. -/
structure UdpBurstApplication (ρ : Type) where
  socket : Bool
  outgoingBursts : List (UdpBurstInfo ρ × Address)
  packetsSentCounter : List Nat
  outgoingPreciseLogging : List Bool
  nextInternalBurstIdx : Nat
  incomingBursts : List (UdpBurstInfo ρ)
  receivedCounter : Nat → Option Nat
  incomingPreciseLogging : Nat → Bool
  outgoingLog : List LogLine
  incomingLog : List LogLine

variable {ρ : Type}

def UdpBurstApplication.initial : UdpBurstApplication ρ where
  socket := false
  outgoingBursts := []
  packetsSentCounter := []
  outgoingPreciseLogging := []
  nextInternalBurstIdx := 0
  incomingBursts := []
  receivedCounter := fun _ => none
  incomingPreciseLogging := fun _ => false
  outgoingLog := []
  incomingLog := []

/-! ## Registration -/

/-- The burst is to start before the last one that was registered. -/
def UdpBurstApplication.startsBefore (app : UdpBurstApplication ρ) (info : UdpBurstInfo ρ) : Bool :=
  match app.outgoingBursts.getLast? with
  | some (last, _) => info.startTimeNs < last.startTimeNs
  | none => false

/-- `RegisterOutgoingBurst` of the application of node `nodeId`; a file that is logged to is emptied. -/
def registerOutgoingBurst (nodeId : Nat) (info : UdpBurstInfo ρ) (target : Address) (precise : Bool)
    (app : UdpBurstApplication ρ) : Res (UdpBurstApplication ρ) :=
  if info.fromNodeId ≠ nodeId then .error (.abort "Source node identifier is not that of this node.")
  else if app.startsBefore info then
    .error (.runtimeError "Bursts must be added weakly ascending on start time")
  else .ok { app with
    outgoingBursts := app.outgoingBursts ++ [(info, target)]
    packetsSentCounter := app.packetsSentCounter ++ [0]
    outgoingPreciseLogging := app.outgoingPreciseLogging ++ [precise]
    outgoingLog := if precise then app.outgoingLog.filter (·.idSeq.id ≠ info.udpBurstId) else app.outgoingLog }

def registerIncomingBurst (nodeId : Nat) (info : UdpBurstInfo ρ) (precise : Bool) (app : UdpBurstApplication ρ) :
    Res (UdpBurstApplication ρ) :=
  if info.toNodeId ≠ nodeId then .error (.abort "Destination node identifier is not that of this node.")
  else .ok { app with
    incomingBursts := app.incomingBursts ++ [info]
    receivedCounter := fun id => if id = info.udpBurstId then some 0 else app.receivedCounter id
    incomingPreciseLogging := fun id => if id = info.udpBurstId then precise else app.incomingPreciseLogging id
    incomingLog := if precise then app.incomingLog.filter (·.idSeq.id ≠ info.udpBurstId) else app.incomingLog }

/-! ## Sending and receiving -/

/-- `TransmitFullPacket`: the packet that the socket is given. -/
def transmitFullPacket (now idx : Nat) (app : UdpBurstApplication ρ) : Res (UdpBurstApplication ρ × Datagram) := do
  let (info, target) ← index app.outgoingBursts idx
  let seq ← index app.packetsSentCounter idx
  let precise ← index app.outgoingPreciseLogging idx
  let idSeq : IdSeq := ⟨info.udpBurstId, seq⟩
  let app := { app with
    packetsSentCounter := app.packetsSentCounter.set idx (seq + 1)
    outgoingLog := if precise then app.outgoingLog ++ [⟨idSeq, now⟩] else app.outgoingLog }
  if app.socket then .ok (app, ⟨idSeq, target⟩) else .error nullPointer

/-- What `map::at` throws. -/
def mapAt : Fail := .outOfRange "map::at"

/-- `HandleRead` of one packet. -/
def handleBurstRead (now : Nat) (idSeq : IdSeq) (app : UdpBurstApplication ρ) : Res (UdpBurstApplication ρ) :=
  match app.receivedCounter idSeq.id with
  | none => .error mapAt
  | some n => .ok { app with
      receivedCounter := fun id => if id = idSeq.id then some (n + 1) else app.receivedCounter id
      incomingLog :=
        if app.incomingPreciseLogging idSeq.id then app.incomingLog ++ [⟨idSeq, now⟩] else app.incomingLog }

/-- A packet of the burst at place `k` was given to the socket, with the number the burst had counted to. -/
structure Transmitted (k : Nat) (app app' : UdpBurstApplication ρ) (d : Datagram) : Prop where
  sent : ∃ o c, app.outgoingBursts[k]? = some o ∧ app.packetsSentCounter[k]? = some c ∧
    d = ⟨⟨o.1.udpBurstId, c⟩, o.2⟩ ∧ app'.packetsSentCounter = app.packetsSentCounter.set k (c + 1)
  bursts : app'.outgoingBursts = app.outgoingBursts
  logging : app'.outgoingPreciseLogging = app.outgoingPreciseLogging
  next : app'.nextInternalBurstIdx = app.nextInternalBurstIdx
  received : app'.receivedCounter = app.receivedCounter

theorem transmitFullPacket_ok {now k : Nat} {app app' : UdpBurstApplication ρ} {d : Datagram}
    (h : transmitFullPacket now k app = .ok (app', d)) : Transmitted k app app' d := by
  unfold transmitFullPacket at h
  obtain ⟨⟨info, target⟩, ho, h⟩ := bind_ok h
  obtain ⟨seq, hseq, h⟩ := bind_ok h
  obtain ⟨precise, -, h⟩ := bind_ok h
  simp only at h
  split at h
  · cases h
    exact ⟨⟨_, _, index_ok.1 ho, index_ok.1 hseq, rfl, rfl⟩, rfl, rfl, rfl, rfl⟩
  · cases h

/-- The packet of a known burst was counted. -/
structure Counted (idSeq : IdSeq) (app app' : UdpBurstApplication ρ) : Prop where
  counter : ∃ n, app.receivedCounter idSeq.id = some n ∧
    app'.receivedCounter = fun id => if id = idSeq.id then some (n + 1) else app.receivedCounter id
  bursts : app'.outgoingBursts = app.outgoingBursts
  counters : app'.packetsSentCounter = app.packetsSentCounter
  logging : app'.outgoingPreciseLogging = app.outgoingPreciseLogging

theorem handleBurstRead_ok {now : Nat} {idSeq : IdSeq} {app app' : UdpBurstApplication ρ}
    (h : handleBurstRead now idSeq app = .ok app') : Counted idSeq app app' := by
  unfold handleBurstRead at h
  split at h
  · cases h
  · rename_i n hn
    cases h
    exact ⟨⟨n, hn, rfl⟩, rfl, rfl, rfl⟩

/-! ## The events of one application -/

inductive BurstEvent where
  | startApplication
  | startNextBurst
  | burstSendOut (internalBurstIdx : Nat)
  deriving Repr, DecidableEq

/-- A packet given to the socket: when, and by which burst. -/
structure SentPacket where
  timeNs : Nat
  internalBurstIdx : Nat
  datagram : Datagram
  deriving Repr, DecidableEq

/-- An application, with the packets it has given to the socket. -/
structure BurstSender (ρ : Type) where
  app : UdpBurstApplication ρ
  sent : List SentPacket

abbrev BurstSim (ρ : Type) := Sim BurstEvent (BurstSender ρ)

/-- "No next burst available". -/
def noNextBurst : Fail := .runtimeError "No next burst available; this function should not have been called."

/-- `now_ns + packet_gap_nanoseconds < (uint64_t) (info.GetStartTimeNs() + info.GetDurationNs())`. -/
def UdpBurstInfo.hasNext (info : UdpBurstInfo ρ) (nowNs packetGapNs : Nat) : Res Bool := do
  let stop ← int64 (info.startTimeNs + info.durationNs)
  .ok (toUInt64 (nowNs + packetGapNs) < toUInt64 stop)

/-- `uint64_t packet_gap_nanoseconds = std::ceil(1500.0 / (info.GetTargetRateMegabitPerSec() / 8000.0))`. -/
def packetGapNanoseconds (targetRate : Double) : Res UInt64 :=
  doubleToUInt64 ((Double.ofInt 1500).div (targetRate.div (.ofInt 8000))).ceil

/-- Packet gaps that are given for all rates. -/
def given (gap : ρ → UInt64) (rate : ρ) : Res UInt64 := .ok (gap rate)

/-- `BurstSendOut(idx)`; `packetGap` gives the packet gap of a rate, `packetGapNanoseconds` where it is a `double`. -/
def burstSendOut (packetGap : ρ → Res UInt64) (idx : Nat) (w : BurstSim ρ) : Res (BurstSim ρ) := do
  let (app, datagram) ← transmitFullPacket w.now idx w.state.app
  let w := { w with state := ⟨app, w.state.sent ++ [⟨w.now, idx, datagram⟩]⟩ }
  let (info, _) ← index app.outgoingBursts idx
  let packetGapNs ← packetGap info.targetRate
  let hasNext ← info.hasNext w.now packetGapNs.toNat
  if hasNext then schedule (toInt64 packetGapNs.toNat) (.burstSendOut idx) w else .ok w

def startNextBurst (packetGap : ρ → Res UInt64) (w : BurstSim ρ) : Res (BurstSim ρ) :=
  let idx := w.state.app.nextInternalBurstIdx
  match w.state.app.outgoingBursts[idx]? with
  | none => .error noNextBurst
  | some (info, _) =>
    if info.startTimeNs ≠ w.now then .error noNextBurst
    else do
      let w ← burstSendOut packetGap idx w
      let next := w.state.app.nextInternalBurstIdx + 1
      let w := { w with state := { w.state with app := { w.state.app with nextInternalBurstIdx := next } } }
      match w.state.app.outgoingBursts[next]? with
      | some (nextInfo, _) => schedule (nextInfo.startTimeNs - w.now) .startNextBurst w
      | none => .ok w

def startBurstApplication (w : BurstSim ρ) : Res (BurstSim ρ) :=
  let w := { w with state := { w.state with app := { w.state.app with socket := true } } }
  match w.state.app.outgoingBursts with
  | (first, _) :: _ => schedule first.startTimeNs .startNextBurst w
  | [] => .ok w

def handleBurstEvent (packetGap : ρ → Res UInt64) : BurstEvent → BurstSim ρ → Res (BurstSim ρ)
  | .startApplication => startBurstApplication
  | .startNextBurst => startNextBurst packetGap
  | .burstSendOut idx => burstSendOut packetGap idx

/-- The application is started at time zero. -/
def burstSim (app : UdpBurstApplication ρ) : BurstSim ρ := ⟨0, [⟨0, .startApplication⟩], ⟨app, []⟩⟩

/-- The events of the application until the end of the simulation. -/
def runBursts (packetGap : ρ → Res UInt64) (endNs fuel : Nat) (app : UdpBurstApplication ρ) : Res (BurstSim ρ) :=
  Events.run .diverges (handleBurstEvent packetGap) endNs fuel (burstSim app)

end SatNet.Apps
