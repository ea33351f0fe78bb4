/-
What the two kinds of device of the satellite network share, and their channels: the ground-to-satellite
channel, which looks the destination address up among all devices attached to it, and the laser channel
between two devices.
-/
import SatNet.Base.Fail

namespace SatNet.Device

/-! ## Devices -/

inductive TxMachineState where
  | ready
  | busy
  deriving Repr, DecidableEq

/-- A packet behind its point to point protocol header. -/
structure Frame (P : Type) where
  protocol : UInt16
  packet : P
  deriving Repr, DecidableEq

def etherToPpp (proto : UInt16) : Res UInt16 :=
  if proto = 0x0800 then .ok 0x0021
  else if proto = 0x86DD then .ok 0x0057
  else .error (.assertion "PPP Protocol number not defined!")

def addHeader {P : Type} (p : P) (protocolNumber : UInt16) : Res (Frame P) := do
  let protocol ← etherToPpp protocolNumber
  return ⟨protocol, p⟩

def pppToEther (proto : UInt16) : Res UInt16 :=
  if proto = 0x0021 then .ok 0x0800
  else if proto = 0x0057 then .ok 0x86DD
  else .error (.assertion "PPP Protocol number not defined!")

/-- The protocol number for the receive callback, and the packet without its header. -/
def processHeader {P : Type} (p : Frame P) : Res (UInt16 × P) := do
  let protocol ← pppToEther p.protocol
  return (protocol, p.packet)

/-! ## Ground to satellite -/

/-- `m_link` maps an address to the device attached last with it, so the newest entry counts. -/
structure GSLChannel (A D : Type) where
  link : List (A × D)
  netDevices : List D
  deriving Repr, DecidableEq

namespace GSLChannel

variable {A D : Type}

def empty : GSLChannel A D := ⟨[], []⟩

def attach (ch : GSLChannel A D) (address : A) (device : D) : GSLChannel A D :=
  ⟨(address, device) :: ch.link, ch.netDevices ++ [device]⟩

variable [DecidableEq A]

/-- `TransmitStart`: the device at which the reception is scheduled. It never returns false. -/
def transmitStart (ch : GSLChannel A D) (sameSystem : D → Bool) (dstAddress : A) : Res D :=
  match ch.link.lookup dstAddress with
  | some dst =>
    if sameSystem dst then .ok dst
    else .error (.abort "MPI distributed mode is currently not supported by the GSL channel.")
  | none => .error (.abort "MAC address could not be mapped to a network device.")

/-- The only failures are the two aborts. -/
theorem transmitStart_error {ch : GSLChannel A D} {sameSystem : D → Bool} {dst : A} {e : Fail}
    (h : ch.transmitStart sameSystem dst = .error e) : ∃ message, e = .abort message := by
  unfold transmitStart at h
  split at h
  · split at h <;> cases h
    exact ⟨_, rfl⟩
  · cases h
    exact ⟨_, rfl⟩

end GSLChannel

/-! ## Laser -/

/-- The devices attached so far, in order: `m_link[0].m_src` and `m_link[1].m_src`. -/
structure PointToPointLaserChannel (D : Type) where
  attached : List D
  deriving Repr, DecidableEq

namespace PointToPointLaserChannel

variable {D : Type}

def empty : PointToPointLaserChannel D := ⟨[]⟩

def attach (ch : PointToPointLaserChannel D) (device : D) : Res (PointToPointLaserChannel D) :=
  if ch.attached.length < 2 then .ok ⟨ch.attached ++ [device]⟩
  else .error (.assertion "Only two devices permitted")

/-- `TransmitStart`: the device at the other end of the wire of `src`. It never returns false. -/
def transmitStart [DecidableEq D] (ch : PointToPointLaserChannel D) (src : D) : Res D :=
  match ch.attached with
  | [d₀, d₁] => .ok (if src = d₀ then d₁ else d₀)
  | _ => .error (.assertion "m_link[0].m_state != INITIALIZING")

end PointToPointLaserChannel

end SatNet.Device
