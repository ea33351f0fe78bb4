/-
`GSLNetDevice`: a transmitter with a packet queue and, beside it, a queue of the destinations of the
packets in it, which `Send` and `TransmitComplete` advance by hand. The device is a server whose jobs
are the packets with their destinations: the two queues never come apart.
-/
import SatNet.Device.Channel
import SatNet.Lib.Call
import SatNet.Lib.Server

namespace SatNet.Device

/-! ## The device -/

/-- The members of the device, and what it asked of others: the pending `TransmitComplete` events with
their argument, and the calls of `TransmitStart` of the channel. -/
structure GSLNetDevice (P A : Type) where
  txMachineState : TxMachineState
  linkUp : Bool
  currentPkt : Option (Frame P)
  queue : List (Frame P)
  queueDests : List A
  scheduled : List A
  transmitted : List (Frame P × A)
  deriving Repr, DecidableEq

namespace GSLNetDevice

variable {P A D : Type}

def init : GSLNetDevice P A := ⟨.ready, false, none, [], [], [], []⟩

/-- What surrounds a device: when its queue refuses a packet, and its channel. A DropTail queue drops
only on enqueue. -/
structure Setting (P A D : Type) where
  full : List (Frame P) → Frame P → Bool
  channel : GSLChannel A D
  sameSystem : D → Bool

/-- `m_queue->Dequeue()`. -/
def dequeue : Call Fail (GSLNetDevice P A) (Option (Frame P)) := do
  let dev ← Call.get
  match dev.queue with
  | [] => pure none
  | p :: queue => do
    Call.set { dev with queue := queue }
    pure (some p)

/-- `m_queueDests.front()` and `m_queueDests.pop()`, which are undefined on an empty queue. -/
def popDest : Call Fail (GSLNetDevice P A) A := do
  let dev ← Call.get
  match dev.queueDests with
  | [] => Call.throw (.undefined "front of an empty queue")
  | dest :: queueDests => do
    Call.set { dev with queueDests := queueDests }
    pure dest

variable [DecidableEq A] (env : Setting P A D)

def transmitStart (p : Frame P) (dest : A) : Call Fail (GSLNetDevice P A) Bool := do
  let dev ← Call.get
  if dev.txMachineState ≠ .ready then Call.throw (.assertion "Must be READY to transmit")
  else do
    Call.set { dev with
      txMachineState := .busy
      currentPkt := some p
      scheduled := dev.scheduled ++ [dest]
      transmitted := dev.transmitted ++ [(p, dest)] }
    let _ ← Call.lift (env.channel.transmitStart env.sameSystem dest)
    pure true

def transmitComplete : Call Fail (GSLNetDevice P A) Unit := do
  let dev ← Call.get
  if dev.txMachineState ≠ .busy then Call.throw (.assertion "Must be BUSY if transmitting")
  else do
    Call.set { dev with txMachineState := .ready }
    if dev.currentPkt.isNone then
      Call.throw (.assertion "GSLNetDevice::TransmitComplete(): m_currentPkt zero")
    else do
      Call.set { dev with txMachineState := .ready, currentPkt := none }
      match ← dequeue with
      | none => pure ()
      | some p => do
        let nextDest ← popDest
        let _ ← transmitStart env p nextDest
        pure ()

def send (packet : P) (dest : A) (protocolNumber : UInt16) : Call Fail (GSLNetDevice P A) Bool := do
  let dev ← Call.get
  if dev.linkUp = false then pure false
  else do
    let packet ← Call.lift (addHeader packet protocolNumber)
    if env.full dev.queue packet then pure false
    else do
      Call.set { dev with queue := dev.queue ++ [packet], queueDests := dev.queueDests ++ [dest] }
      if dev.txMachineState = .ready then do
        match ← dequeue with
        | none => Call.throw (.undefined "null packet")
        | some packet => do
          let nextDest ← popDest
          transmitStart env packet nextDest
      else pure true

def notifyLinkUp (dev : GSLNetDevice P A) : GSLNetDevice P A := { dev with linkUp := true }

/-! ## Runs -/

/-- The states of the device in any interleaving of calls of `Send` and of its pending events, with the
packets that `Send` accepted. A call that aborts ends the run. -/
inductive Reach : GSLNetDevice P A → List (Frame P × A) → Prop where
  | init : Reach init []
  | linkUp {dev accepted} : Reach dev accepted → Reach dev.notifyLinkUp accepted
  | accept {dev accepted} (p : P) (dest : A) (proto : UInt16) (frame : Frame P) (dev' : GSLNetDevice P A) :
      Reach dev accepted → addHeader p proto = .ok frame →
      (send env p dest proto).run dev = (.ok true, dev') → Reach dev' (accepted ++ [(frame, dest)])
  | refuse {dev accepted} (p : P) (dest : A) (proto : UInt16) (dev' : GSLNetDevice P A) : Reach dev accepted →
      (send env p dest proto).run dev = (.ok false, dev') → Reach dev' accepted
  | complete {dev accepted} (i : Nat) (dest : A) (dev' : GSLNetDevice P A) : Reach dev accepted →
      dev.scheduled[i]? = some dest →
      (transmitComplete env).run { dev with scheduled := dev.scheduled.eraseIdx i } = (.ok (), dev') →
      Reach dev' accepted

/-- The device does what the server does, whose jobs are packets with their destinations. -/
inductive Serves : GSLNetDevice P A → Server (Frame P × A) → Prop where
  | ready (up : Bool) (started : List (Frame P × A)) :
      Serves ⟨.ready, up, none, [], [], [], started⟩ ⟨none, [], started⟩
  | busy (up : Bool) (p : Frame P) (dest : A) (line started : List (Frame P × A)) :
      Serves ⟨.busy, up, some p, line.map Prod.fst, line.map Prod.snd, [dest], started⟩ ⟨some (p, dest), line, started⟩

variable {dev dev' : GSLNetDevice P A} {srv : Server (Frame P × A)}

/-- Starting to transmit on a ready device: it is busy then, or the channel aborts. -/
theorem run_transmitStart (up : Bool) (cur : Option (Frame P)) (p : Frame P) (dest : A)
    (line started : List (Frame P × A)) :
    (∃ m dev', (transmitStart env p dest).run ⟨.ready, up, cur, line.map Prod.fst, line.map Prod.snd, [], started⟩ =
      (.error (.abort m), dev')) ∨
    (transmitStart env p dest).run ⟨.ready, up, cur, line.map Prod.fst, line.map Prod.snd, [], started⟩ =
      (.ok true, ⟨.busy, up, some p, line.map Prod.fst, line.map Prod.snd, [dest], started ++ [(p, dest)]⟩) := by
  have hrun : (transmitStart env p dest).run ⟨.ready, up, cur, line.map Prod.fst, line.map Prod.snd, [], started⟩ =
      (Call.lift (env.channel.transmitStart env.sameSystem dest) >>= fun _ => pure true).run
        ⟨.busy, up, some p, line.map Prod.fst, line.map Prod.snd, [dest], started ++ [(p, dest)]⟩ := rfl
  rw [hrun]
  cases hch : env.channel.transmitStart env.sameSystem dest with
  | error e =>
    obtain ⟨m, rfl⟩ := GSLChannel.transmitStart_error hch
    exact .inl ⟨m, _, rfl⟩
  | ok d => exact .inr rfl

/-- What `Send` does: it refuses the packet and changes nothing, has no header for it, accepts it as the
server does, or the channel aborts. -/
theorem Serves.send (h : Serves dev srv) (p : P) (dest : A) (proto : UInt16) :
    (GSLNetDevice.send env p dest proto).run dev = (.ok false, dev) ∨
    (∃ e, addHeader p proto = .error e ∧ (GSLNetDevice.send env p dest proto).run dev = (.error e, dev)) ∨
    (∃ m dev', (GSLNetDevice.send env p dest proto).run dev = (.error (.abort m), dev')) ∨
    ∃ frame dev', addHeader p proto = .ok frame ∧
      (GSLNetDevice.send env p dest proto).run dev = (.ok true, dev') ∧ Serves dev' (srv.submit (frame, dest)) := by
  unfold GSLNetDevice.send
  rw [Call.run_get_bind]
  by_cases hup : dev.linkUp = false
  · rw [if_pos hup]; exact .inl rfl
  rw [if_neg hup]
  cases hf : addHeader p proto with
  | error e => exact .inr (.inl ⟨e, rfl, rfl⟩)
  | ok frame =>
    rw [Call.run_lift_ok_bind]
    by_cases hfull : env.full dev.queue frame = true
    · rw [if_pos hfull]; exact .inl rfl
    rw [if_neg hfull, Call.run_set_bind]
    right; right
    cases h with
    | ready up started =>
      -- both queues hold one element, which is taken out again
      rcases run_transmitStart env up none frame dest [] started with hrun | hrun
      · exact .inl hrun
      · exact .inr ⟨frame, _, rfl, hrun, .busy up frame dest [] (started ++ [(frame, dest)])⟩
    | busy up q d line started =>
      refine .inr ⟨frame, _, rfl, rfl, ?_⟩
      have hsub := Serves.busy up q d (line ++ [(frame, dest)]) started
      rw [List.map_append, List.map_append] at hsub
      exact hsub

/-- What `TransmitComplete` does: it goes on as the server does, or the channel aborts. -/
theorem Serves.complete (h : Serves dev srv) {i : Nat} {dest : A} (hi : dev.scheduled[i]? = some dest) :
    srv.serving ≠ none ∧
    ((∃ m dev', (transmitComplete env).run { dev with scheduled := dev.scheduled.eraseIdx i } =
      (.error (.abort m), dev')) ∨
    ∃ dev', (transmitComplete env).run { dev with scheduled := dev.scheduled.eraseIdx i } = (.ok (), dev') ∧
      Serves dev' srv.finish) := by
  cases h with
  | ready up started => simp at hi
  | busy up q d line started =>
    obtain rfl : i = 0 := by
      have := (List.getElem?_eq_some_iff.1 hi).1
      simp only [List.length_singleton] at this; omega
    refine ⟨nofun, ?_⟩
    cases line with
    | nil => exact .inr ⟨_, rfl, .ready up started⟩
    | cons j line =>
      obtain ⟨p, nextDest⟩ := j
      have hrun : (transmitComplete env).run (⟨.busy, up, some q, ((p, nextDest) :: line).map Prod.fst,
          ((p, nextDest) :: line).map Prod.snd, [], started⟩ : GSLNetDevice P A) =
          (transmitStart env p nextDest >>= fun _ => pure ()).run
            ⟨.ready, up, none, line.map Prod.fst, line.map Prod.snd, [], started⟩ := rfl
      show (∃ m dev', (transmitComplete env).run (⟨.busy, up, some q, _, _, [], started⟩ : GSLNetDevice P A) = _) ∨
        ∃ dev', (transmitComplete env).run (⟨.busy, up, some q, _, _, [], started⟩ : GSLNetDevice P A) = _ ∧ _
      rw [hrun, Call.run_bind]
      rcases run_transmitStart env up none p nextDest line started with ⟨m, dev', ht⟩ | ht
      · rw [ht]; exact .inl ⟨m, dev', rfl⟩
      · rw [ht]; exact .inr ⟨_, rfl, .busy up p nextDest line (started ++ [(p, nextDest)])⟩

variable {env}

/-- Every run of the device is a run of the server on the accepted packets. -/
theorem Reach.serves {accepted : List (Frame P × A)} (h : Reach env dev accepted) :
    ∃ srv, Serves dev srv ∧ Server.Run srv accepted := by
  induction h with
  | init => exact ⟨_, .ready false [], .idle⟩
  | linkUp _ ih =>
    obtain ⟨srv, hs, hr⟩ := ih
    cases hs with
    | ready up started => exact ⟨_, .ready true started, hr⟩
    | busy up p dest line started => exact ⟨_, .busy true p dest line started, hr⟩
  | accept p dest proto frame dev' _ hframe hrun ih =>
    obtain ⟨srv, hs, hr⟩ := ih
    rcases hs.send env p dest proto with h | ⟨e, -, h⟩ | ⟨m, dev₁, h⟩ | ⟨frame', dev₁, hf, h, hs'⟩ <;>
      rw [hrun] at h <;> cases h
    rw [hframe] at hf
    cases hf
    exact ⟨_, hs', hr.submit _⟩
  | refuse p dest proto dev' _ hrun ih =>
    obtain ⟨srv, hs, hr⟩ := ih
    rcases hs.send env p dest proto with h | ⟨e, -, h⟩ | ⟨m, dev₁, h⟩ | ⟨frame', dev₁, -, h, -⟩ <;>
      rw [hrun] at h <;> cases h
    exact ⟨srv, hs, hr⟩
  | complete i dest dev' _ hi hrun ih =>
    obtain ⟨srv, hs, hr⟩ := ih
    obtain ⟨hserving, ⟨m, dev₁, h⟩ | ⟨dev₁, h, hs'⟩⟩ := hs.complete env hi <;> rw [hrun] at h <;> cases h
    exact ⟨_, hs', hr.finish hserving⟩

/-! ## What holds in every state -/

/-- The two queues go together, the transmitter is busy with one packet or idle with empty queues, and
what went to the channel and what waits are the accepted packets in order. -/
structure Consistent (dev : GSLNetDevice P A) (accepted : List (Frame P × A)) : Prop where
  length : dev.queueDests.length = dev.queue.length
  busy : dev.txMachineState = .busy ↔ (∃ p, dev.currentPkt = some p) ∧ dev.scheduled.length = 1
  ready : dev.txMachineState = .ready → dev.currentPkt = none ∧ dev.scheduled = [] ∧ dev.queue = [] ∧
    dev.queueDests = []
  inOrder : dev.transmitted ++ dev.queue.zip dev.queueDests = accepted
  current : ∀ p, dev.currentPkt = some p → ∃ dest, dev.scheduled = [dest] ∧ dev.transmitted.getLast? = some (p, dest)

omit [DecidableEq A] in
theorem Serves.consistent (h : Serves dev srv) {accepted : List (Frame P × A)} (hr : Server.Run srv accepted) :
    Consistent dev accepted := by
  have hc := hr.conserved
  cases h with
  | ready up started =>
    exact ⟨rfl, ⟨nofun, fun ⟨⟨p, hp⟩, _⟩ => by cases hp⟩, fun _ => ⟨rfl, rfl, rfl, rfl⟩, hc, nofun⟩
  | busy up p dest line started =>
    refine ⟨by simp, ⟨fun _ => ⟨⟨p, rfl⟩, rfl⟩, fun _ => rfl⟩, nofun, ?_, fun q hq => ?_⟩
    · show started ++ (line.map Prod.fst).zip (line.map Prod.snd) = accepted
      have hzip : (line.map Prod.fst).zip (line.map Prod.snd) = line := by
        rw [List.zip_map']
        exact List.map_id line
      rw [hzip]
      exact hc
    · cases hq
      exact ⟨dest, rfl, hr.serving_last rfl⟩

/-- For every interleaving of `Send` and the pending `TransmitComplete` events: the state of the device is
consistent, so that every accepted packet goes to the channel once, in the order of `Send` and with its own
destination; a call that fails is one whose protocol has no header or one that the channel aborts, in
particular no destination is taken from an empty queue; and a packet that is refused changes nothing. -/
theorem reach_consistent {accepted : List (Frame P × A)} (h : Reach env dev accepted) :
    Consistent dev accepted ∧
    (∀ p dest proto e dev', (GSLNetDevice.send env p dest proto).run dev = (.error e, dev') →
      addHeader p proto = .error e ∨ ∃ m, e = .abort m) ∧
    (∀ p dest proto dev', (GSLNetDevice.send env p dest proto).run dev = (.ok false, dev') → dev' = dev) ∧
    ∀ (i : Nat) (dest : A) e dev', dev.scheduled[i]? = some dest →
      (transmitComplete env).run { dev with scheduled := dev.scheduled.eraseIdx i } = (.error e, dev') →
      ∃ m, e = .abort m := by
  obtain ⟨srv, hs, hr⟩ := h.serves
  refine ⟨hs.consistent hr, fun p dest proto e dev' hrun => ?_, fun p dest proto dev' hrun => ?_,
    fun i dest e dev' hi hrun => ?_⟩
  · rcases hs.send env p dest proto with h | ⟨e', he, h⟩ | ⟨m, dev₁, h⟩ | ⟨frame, dev₁, -, h, -⟩ <;>
      rw [hrun] at h <;> cases h
    · exact .inl he
    · exact .inr ⟨m, rfl⟩
  · rcases hs.send env p dest proto with h | ⟨e', -, h⟩ | ⟨m, dev₁, h⟩ | ⟨frame, dev₁, -, h, -⟩ <;>
      rw [hrun] at h <;> cases h
    rfl
  · obtain ⟨-, ⟨m, dev₁, h⟩ | ⟨dev₁, h, -⟩⟩ := hs.complete env hi <;> rw [hrun] at h <;> cases h
    exact ⟨m, rfl⟩

/-- Two devices on the channel, under the addresses 7 and 8, and a queue for two packets. -/
def twoPeers : Setting Nat Nat Nat :=
  ⟨fun queue _ => 2 ≤ queue.length, (GSLChannel.empty.attach 7 1).attach 8 2, fun _ => true⟩

/-- Four packets, of which the last is refused, and the first one's completion. -/
theorem reach_twoPeers : Reach twoPeers
    ⟨.busy, true, some ⟨0x21, 11⟩, [⟨0x21, 12⟩], [7], [8], [(⟨0x21, 10⟩, 7), (⟨0x21, 11⟩, 8)]⟩
    [(⟨0x21, 10⟩, 7), (⟨0x21, 11⟩, 8), (⟨0x21, 12⟩, 7)] :=
  .complete 0 7 _ (.refuse 13 8 0x800 _ (.accept 12 7 0x800 _ _ (.accept 11 8 0x800 _ _ (.accept 10 7 0x800 _ _
    (.linkUp .init) rfl rfl) rfl rfl) rfl rfl) rfl) rfl rfl

theorem reach_consistent_twoPeers : Consistent
    (⟨.busy, true, some ⟨0x21, 11⟩, [⟨0x21, 12⟩], [7], [8], [(⟨0x21, 10⟩, 7), (⟨0x21, 11⟩, 8)]⟩ : GSLNetDevice Nat Nat)
    [(⟨0x21, 10⟩, 7), (⟨0x21, 11⟩, 8), (⟨0x21, 12⟩, 7)] :=
  (reach_consistent reach_twoPeers).1

end GSLNetDevice

end SatNet.Device
