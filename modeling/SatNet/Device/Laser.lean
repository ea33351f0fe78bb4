/-
`PointToPointLaserNetDevice`: a transmitter with a packet queue that measures its own utilization. The
device is a server whose jobs are the packets; it tells its counter of every change between idle and
busy, so that the counter is never wrong about the state since the last call.
-/
import SatNet.Device.Channel
import SatNet.Lib.Call
import SatNet.Lib.Server
import SatNet.Track.Utilization
import Mathlib.Data.Rat.Defs

namespace SatNet.Device

open SatNet.Track SatNet.Count

/-! ## The device -/

/-- The members of the device, and what it asked of others: how many `TransmitComplete` events are
pending, the calls of `TransmitStart` of the channel, and the calls of `TrackUtilization`. -/
structure PointToPointLaserNetDevice (P : Type) where
  txMachineState : TxMachineState
  linkUp : Bool
  currentPkt : Option (Frame P)
  queue : List (Frame P)
  utilizationTrackingEnabled : Bool
  intervalNs : Int
  utilization : Counter ℚ
  scheduled : Nat
  transmitted : List (Frame P)
  tracked : List (Int × Bool)
  deriving Repr, DecidableEq

namespace PointToPointLaserNetDevice

variable {P D : Type}

/-- What surrounds a device: when its queue refuses a packet, its channel, and which end of it the
device is. A DropTail queue drops only on enqueue. -/
structure Setting (P D : Type) where
  full : List (Frame P) → Frame P → Bool
  channel : PointToPointLaserChannel D
  self : D

/-- `m_utilization` takes the busy share of each interval. -/
def recorder (intervalNs : Int) : Recorder ℚ where
  record _ _ busy := (busy : ℚ) / (intervalNs : ℚ)
  mismatch := .abort "Not all time is accounted for"

def init : PointToPointLaserNetDevice P := ⟨.ready, false, none, [], false, 0, Counter.init 0, 0, [], []⟩

def enableUtilizationTracking (intervalNs : Int) (dev : PointToPointLaserNetDevice P) : PointToPointLaserNetDevice P :=
  { dev with
    utilizationTrackingEnabled := true
    intervalNs := intervalNs
    utilization := { (Counter.init intervalNs : Counter ℚ) with rows := dev.utilization.rows } }

def trackUtilization (now : Int) (nextStateIsOn : Bool) : Call Fail (PointToPointLaserNetDevice P) Unit := do
  let dev ← Call.get
  if dev.utilizationTrackingEnabled then do
    let utilization ← Call.lift
      (dev.utilization.trackUtilization (recorder dev.intervalNs) dev.intervalNs now nextStateIsOn)
    Call.set { dev with utilization := utilization, tracked := dev.tracked ++ [(now, nextStateIsOn)] }
  else Call.set { dev with tracked := dev.tracked ++ [(now, nextStateIsOn)] }

/-- The utilization that is returned is `m_utilization`. -/
def finalizeUtilization (now : Int) : Call Fail (PointToPointLaserNetDevice P) (List ℚ) := do
  let dev ← Call.get
  trackUtilization now (!dev.utilization.currentStateIsOn)
  let dev ← Call.get
  pure dev.utilization.rows

/-- `m_queue->Dequeue()`. -/
def dequeue : Call Fail (PointToPointLaserNetDevice P) (Option (Frame P)) := do
  let dev ← Call.get
  match dev.queue with
  | [] => pure none
  | p :: queue => do
    Call.set { dev with queue := queue }
    pure (some p)

variable [DecidableEq D] (env : Setting P D)

def transmitStart (now : Int) (p : Frame P) : Call Fail (PointToPointLaserNetDevice P) Bool := do
  let dev ← Call.get
  if dev.txMachineState ≠ .ready then Call.throw (.assertion "Must be READY to transmit")
  else do
    Call.set { dev with txMachineState := .busy, currentPkt := some p }
    trackUtilization now true
    let dev ← Call.get
    Call.set { dev with scheduled := dev.scheduled + 1, transmitted := dev.transmitted ++ [p] }
    let _ ← Call.lift (env.channel.transmitStart env.self)
    pure true

def transmitComplete (now : Int) : Call Fail (PointToPointLaserNetDevice P) Unit := do
  let dev ← Call.get
  if dev.txMachineState ≠ .busy then Call.throw (.assertion "Must be BUSY if transmitting")
  else do
    Call.set { dev with txMachineState := .ready }
    if dev.currentPkt.isNone then
      Call.throw (.assertion "PointToPointLaserNetDevice::TransmitComplete(): m_currentPkt zero")
    else do
      trackUtilization now false
      let dev ← Call.get
      Call.set { dev with currentPkt := none }
      match ← dequeue with
      | none => pure ()
      | some p => do
        let _ ← transmitStart env now p
        pure ()

/-- `Send`, which does not look at the destination. -/
def send (now : Int) (packet : P) (protocolNumber : UInt16) : Call Fail (PointToPointLaserNetDevice P) Bool := do
  let dev ← Call.get
  if dev.linkUp = false then pure false
  else do
    let packet ← Call.lift (addHeader packet protocolNumber)
    if env.full dev.queue packet then pure false
    else do
      Call.set { dev with queue := dev.queue ++ [packet] }
      if dev.txMachineState = .ready then do
        match ← dequeue with
        | none => Call.throw (.undefined "null packet")
        | some packet => transmitStart env now packet
      else pure true

def notifyLinkUp (dev : PointToPointLaserNetDevice P) : PointToPointLaserNetDevice P := { dev with linkUp := true }

/-! ## Runs -/

/-- The states of the device at each time of any interleaving of calls of `Send` and of its pending
events, with the packets that `Send` accepted and the instants during which the device was BUSY. A call
that aborts ends the run. -/
inductive Reach (intervalNs : Int) : Int → PointToPointLaserNetDevice P → List (Frame P) → (Int → Bool) → Prop where
  | init : Reach intervalNs 0 (init.enableUtilizationTracking intervalNs) [] fun _ => false
  | wait {now dev accepted busyAt} (t : Int) : Reach intervalNs now dev accepted busyAt → now ≤ t →
      Reach intervalNs t dev accepted fun x => if now ≤ x ∧ x < t then dev.txMachineState == .busy else busyAt x
  | linkUp {now dev accepted busyAt} : Reach intervalNs now dev accepted busyAt →
      Reach intervalNs now dev.notifyLinkUp accepted busyAt
  | accept {now dev accepted busyAt} (p : P) (proto : UInt16) (frame : Frame P) (dev' : PointToPointLaserNetDevice P) :
      Reach intervalNs now dev accepted busyAt → addHeader p proto = .ok frame →
      (send env now p proto).run dev = (.ok true, dev') → Reach intervalNs now dev' (accepted ++ [frame]) busyAt
  | refuse {now dev accepted busyAt} (p : P) (proto : UInt16) (dev' : PointToPointLaserNetDevice P) :
      Reach intervalNs now dev accepted busyAt → (send env now p proto).run dev = (.ok false, dev') →
      Reach intervalNs now dev' accepted busyAt
  | complete {now dev accepted busyAt} (pending : Nat) (dev' : PointToPointLaserNetDevice P) :
      Reach intervalNs now dev accepted busyAt → dev.scheduled = pending + 1 →
      (transmitComplete env now).run { dev with scheduled := pending } = (.ok (), dev') →
      Reach intervalNs now dev' accepted busyAt

/-! ## The counter follows the device -/

/-- The counter after the calls `tracked`, of which the last one said that the device is `on`. -/
structure Follows (intervalNs now : Int) (on : Bool) (tracked : List (Int × Bool)) (c : Counter ℚ) : Prop where
  tracks : Counter.Tracks (recorder intervalNs) intervalNs tracked c
  current : c.currentStateIsOn = on
  prev : c.prevTimeNs ≤ now
  next : ∀ es, Counter.Alternating (!on) es → Counter.Alternating true (tracked ++ es)
  ascending : tracked.Pairwise fun e f => e.1 ≤ f.1
  bounds : ∀ e ∈ tracked, 0 ≤ e.1 ∧ e.1 ≤ now

section Follows

variable {intervalNs now : Int} {on : Bool} {tracked : List (Int × Bool)} {c : Counter ℚ}

theorem follows_init (hi : 1 ≤ intervalNs) (hmax : intervalNs < 2 ^ 63) :
    Follows intervalNs 0 false [] (Counter.init intervalNs) :=
  ⟨Counter.tracks_init hi hmax, rfl, le_rfl, fun _ h => h, .nil, nofun⟩

theorem Follows.wait (h : Follows intervalNs now on tracked c) {t : Int} (ht : now ≤ t) :
    Follows intervalNs t on tracked c :=
  ⟨h.tracks, h.current, h.prev.trans ht, h.next, h.ascending,
    fun e he => ⟨(h.bounds e he).1, (h.bounds e he).2.trans ht⟩⟩

/-- A call with the other state is counted, or fails because the open interval does not end within the range. -/
theorem Follows.step (h : Follows intervalNs now on tracked c) (hi : 1 ≤ intervalNs) (hnow : 0 ≤ now) :
    (∃ c', c.trackUtilization (recorder intervalNs) intervalNs now (!on) = .ok c' ∧
      Follows intervalNs now (!on) (tracked ++ [(now, !on)]) c') ∨
    ¬ Counter.Fits intervalNs now ∧ ∃ e, c.trackUtilization (recorder intervalNs) intervalNs now (!on) = .error e := by
  have hstep := h.tracks.step_or hi h.prev
  rw [h.current] at hstep
  rcases hstep with ⟨c', hrun, ht, hprev, hon⟩ | hover
  · refine .inl ⟨c', hrun, ⟨ht, hon, le_of_eq hprev, fun es hes => ?_, ?_, fun e he => ?_⟩⟩
    · rw [List.append_assoc]
      exact h.next _ ⟨rfl, hes⟩
    · refine List.pairwise_append.2 ⟨h.ascending, List.pairwise_singleton .., fun e he f hf => ?_⟩
      rw [List.mem_singleton.1 hf]
      exact (h.bounds e he).2
    · rcases List.mem_append.1 he with he | he
      · exact h.bounds e he
      · rw [List.mem_singleton.1 he]
        exact ⟨hnow, le_rfl⟩
  · exact .inr hover

end Follows

/-! ## The device as a server -/

/-- The device does what the server does, whose jobs are the packets, and its counter follows it. -/
inductive Serves (intervalNs now : Int) : PointToPointLaserNetDevice P → Server (Frame P) → Prop where
  | ready (up : Bool) (c : Counter ℚ) (started : List (Frame P)) (tracked : List (Int × Bool)) :
      Follows intervalNs now false tracked c →
      Serves intervalNs now ⟨.ready, up, none, [], true, intervalNs, c, 0, started, tracked⟩ ⟨none, [], started⟩
  | busy (up : Bool) (p : Frame P) (line : List (Frame P)) (c : Counter ℚ) (started : List (Frame P))
      (tracked : List (Int × Bool)) : Follows intervalNs now true tracked c →
      Serves intervalNs now ⟨.busy, up, some p, line, true, intervalNs, c, 1, started, tracked⟩ ⟨some p, line, started⟩

variable {intervalNs now : Int} {dev dev' : PointToPointLaserNetDevice P} {srv : Server (Frame P)}

omit [DecidableEq D] in
/-- A call of `TrackUtilization` that the counter takes. -/
theorem run_trackUtilization (hen : dev.utilizationTrackingEnabled = true) {on : Bool} {c' : Counter ℚ}
    (hc : dev.utilization.trackUtilization (recorder dev.intervalNs) dev.intervalNs now on = .ok c') :
    (trackUtilization now on).run dev =
      (.ok (), { dev with utilization := c', tracked := dev.tracked ++ [(now, on)] }) := by
  unfold trackUtilization
  rw [Call.run_get_bind, if_pos hen, hc]
  rfl

omit [DecidableEq D] in
/-- A call that the counter does not take. -/
theorem run_trackUtilization_error (hen : dev.utilizationTrackingEnabled = true) {on : Bool} {e : Fail}
    (hc : dev.utilization.trackUtilization (recorder dev.intervalNs) dev.intervalNs now on = .error e) :
    (trackUtilization now on).run dev = (.error e, dev) := by
  unfold trackUtilization
  rw [Call.run_get_bind, if_pos hen, hc]
  rfl

/-- Starting to transmit on a ready device: it is busy then, or the channel is not initialized, or the time does not
fit into the counter. -/
theorem run_transmitStart (hi : 1 ≤ intervalNs) (hnow : 0 ≤ now) (up : Bool) (cur : Option (Frame P)) (p : Frame P)
    (line : List (Frame P)) {c : Counter ℚ} (started : List (Frame P)) {tracked : List (Int × Bool)}
    (h : Follows intervalNs now false tracked c) :
    (∃ e dev', (env.channel.transmitStart env.self = .error e ∨ ¬ Counter.Fits intervalNs now) ∧
      (transmitStart env now p).run ⟨.ready, up, cur, line, true, intervalNs, c, 0, started, tracked⟩ =
        (.error e, dev')) ∨
    ∃ c', (transmitStart env now p).run ⟨.ready, up, cur, line, true, intervalNs, c, 0, started, tracked⟩ =
        (.ok true, ⟨.busy, up, some p, line, true, intervalNs, c', 1, started ++ [p], tracked ++ [(now, true)]⟩) ∧
      Follows intervalNs now true (tracked ++ [(now, true)]) c' := by
  rcases h.step hi hnow with ⟨c', hc, hfollows⟩ | ⟨hfit, e, hc⟩
  · have htrack : (trackUtilization now true).run
        (⟨.busy, up, some p, line, true, intervalNs, c, 0, started, tracked⟩ : PointToPointLaserNetDevice P) =
        (.ok (), ⟨.busy, up, some p, line, true, intervalNs, c', 0, started, tracked ++ [(now, true)]⟩) :=
      run_trackUtilization rfl hc
    have hrun : (transmitStart env now p).run ⟨.ready, up, cur, line, true, intervalNs, c, 0, started, tracked⟩ =
        (Call.lift (env.channel.transmitStart env.self) >>= fun _ => pure true).run
          ⟨.busy, up, some p, line, true, intervalNs, c', 1, started ++ [p], tracked ++ [(now, true)]⟩ := by
      show (trackUtilization now true >>= _).run _ = _
      rw [Call.run_bind_eq htrack]
      rfl
    rw [hrun]
    cases hch : env.channel.transmitStart env.self with
    | error e => exact .inl ⟨e, _, .inl rfl, rfl⟩
    | ok d => exact .inr ⟨c', rfl, hfollows⟩
  · have htrack : (trackUtilization now true).run
        (⟨.busy, up, some p, line, true, intervalNs, c, 0, started, tracked⟩ : PointToPointLaserNetDevice P) =
        (.error e, _) := run_trackUtilization_error rfl hc
    exact .inl ⟨e, _, .inr hfit, Call.run_bind_error htrack _⟩

/-- What `Send` does: it refuses the packet and changes nothing, has no header for it, accepts it as the
server does, finds the channel not initialized, or the time does not fit into the counter. -/
theorem Serves.send (h : Serves intervalNs now dev srv) (hi : 1 ≤ intervalNs) (hnow : 0 ≤ now) (p : P)
    (proto : UInt16) :
    (PointToPointLaserNetDevice.send env now p proto).run dev = (.ok false, dev) ∨
    (∃ e dev', (addHeader p proto = .error e ∨ env.channel.transmitStart env.self = .error e ∨
        ¬ Counter.Fits intervalNs now) ∧
      (PointToPointLaserNetDevice.send env now p proto).run dev = (.error e, dev')) ∨
    ∃ frame dev', addHeader p proto = .ok frame ∧
      (PointToPointLaserNetDevice.send env now p proto).run dev = (.ok true, dev') ∧
      Serves intervalNs now dev' (srv.submit frame) ∧
      ∀ x < now, Counter.isOn dev'.tracked x = Counter.isOn dev.tracked x := by
  unfold PointToPointLaserNetDevice.send
  rw [Call.run_get_bind]
  by_cases hup : dev.linkUp = false
  · rw [if_pos hup]; exact .inl rfl
  rw [if_neg hup]
  cases hf : addHeader p proto with
  | error e => exact .inr (.inl ⟨e, _, .inl rfl, rfl⟩)
  | ok frame =>
    rw [Call.run_lift_ok_bind]
    by_cases hfull : env.full dev.queue frame = true
    · rw [if_pos hfull]; exact .inl rfl
    rw [if_neg hfull, Call.run_set_bind]
    right
    cases h with
    | ready up c started tracked hfol =>
      -- the queue holds one packet, which is taken out again
      rcases run_transmitStart env hi hnow up none frame [] started hfol with ⟨e, dev', he, hrun⟩ | ⟨c', hrun, hfol'⟩
      · exact .inl ⟨e, dev', .inr he, hrun⟩
      · exact .inr ⟨frame, _, rfl, hrun, .busy up frame [] c' (started ++ [frame]) _ hfol',
          fun x hx => Counter.isOn_concat_lt hx _⟩
    | busy up q line c started tracked hfol =>
      exact .inr ⟨frame, _, rfl, rfl, .busy up q (line ++ [frame]) c started tracked hfol, fun _ _ => rfl⟩

/-- What `TransmitComplete` does: it goes on as the server does, finds the channel not initialized, or the time does
not fit into the counter. -/
theorem Serves.complete (h : Serves intervalNs now dev srv) (hi : 1 ≤ intervalNs) (hnow : 0 ≤ now) {pending : Nat}
    (hpending : dev.scheduled = pending + 1) :
    srv.serving ≠ none ∧
    ((∃ e dev', (env.channel.transmitStart env.self = .error e ∨ ¬ Counter.Fits intervalNs now) ∧
      (transmitComplete env now).run { dev with scheduled := pending } = (.error e, dev')) ∨
    ∃ dev', (transmitComplete env now).run { dev with scheduled := pending } = (.ok (), dev') ∧
      Serves intervalNs now dev' srv.finish ∧
      ∀ x < now, Counter.isOn dev'.tracked x = Counter.isOn dev.tracked x) := by
  cases h with
  | ready up c started tracked hfol => cases hpending
  | busy up q line c started tracked hfol =>
    obtain rfl : pending = 0 := by
      have h0 : 1 = pending + 1 := hpending
      omega
    refine ⟨nofun, ?_⟩
    rcases hfol.step hi hnow with ⟨c', hc, hfol'⟩ | ⟨hfit, e, hc⟩
    · have htrack : (trackUtilization now false).run
          (⟨.ready, up, some q, line, true, intervalNs, c, 0, started, tracked⟩ : PointToPointLaserNetDevice P) =
          (.ok (), ⟨.ready, up, some q, line, true, intervalNs, c', 0, started, tracked ++ [(now, false)]⟩) :=
        run_trackUtilization rfl hc
      cases line with
      | nil =>
        refine .inr ⟨_, ?_, .ready up c' started _ hfol', fun x hx => Counter.isOn_concat_lt hx _⟩
        show (trackUtilization now false >>= _).run _ = _
        rw [Call.run_bind_eq htrack]
        rfl
      | cons p line =>
        -- the next packet is started at the same instant
        have hrun : (transmitComplete env now).run
            ⟨.busy, up, some q, p :: line, true, intervalNs, c, 0, started, tracked⟩ =
            (transmitStart env now p >>= fun _ => pure ()).run
              ⟨.ready, up, none, line, true, intervalNs, c', 0, started, tracked ++ [(now, false)]⟩ := by
          show (trackUtilization now false >>= _).run _ = _
          rw [Call.run_bind_eq htrack]
          rfl
        rcases run_transmitStart env hi hnow up none p line started hfol' with ⟨e, dev', he, ht⟩ | ⟨c'', ht, hfol''⟩
        · exact .inl ⟨e, dev', he, hrun.trans (Call.run_bind_error ht _)⟩
        · refine .inr ⟨_, hrun.trans (Call.run_bind_eq ht _), .busy up p line c'' (started ++ [p]) _ hfol'', ?_⟩
          intro x hx
          exact (Counter.isOn_concat_lt hx _).trans (Counter.isOn_concat_lt hx _)
    · have htrack : (trackUtilization now false).run
          (⟨.ready, up, some q, line, true, intervalNs, c, 0, started, tracked⟩ : PointToPointLaserNetDevice P) =
          (.error e, _) := run_trackUtilization_error rfl hc
      exact .inl ⟨e, _, .inr hfit, Call.run_bind_error htrack _⟩

omit [DecidableEq D] in
theorem Serves.follows (h : Serves intervalNs now dev srv) : dev.utilizationTrackingEnabled = true ∧
    dev.intervalNs = intervalNs ∧ Follows intervalNs now (dev.txMachineState == .busy) dev.tracked dev.utilization := by
  cases h with
  | ready up c started tracked hfol => exact ⟨rfl, rfl, hfol⟩
  | busy up p line c started tracked hfol => exact ⟨rfl, rfl, hfol⟩

theorem Serves.wait (h : Serves intervalNs now dev srv) {t : Int} (ht : now ≤ t) : Serves intervalNs t dev srv := by
  cases h with
  | ready up c started tracked hfol => exact .ready up c started tracked (hfol.wait ht)
  | busy up p line c started tracked hfol => exact .busy up p line c started tracked (hfol.wait ht)

theorem Serves.linkUp (h : Serves intervalNs now dev srv) : Serves intervalNs now dev.notifyLinkUp srv := by
  cases h with
  | ready up c started tracked hfol => exact .ready true c started tracked hfol
  | busy up p line c started tracked hfol => exact .busy true p line c started tracked hfol

variable {env} {accepted : List (Frame P)} {busyAt : Int → Bool}

/-- Every run of the device is a run of the server on the accepted packets, and the calls of
`TrackUtilization` tell when it was busy. -/
theorem Reach.serves (hi : 1 ≤ intervalNs) (hmax : intervalNs < 2 ^ 63) (h : Reach env intervalNs now dev accepted busyAt) :
    0 ≤ now ∧ (∃ srv, Serves intervalNs now dev srv ∧ Server.Run srv accepted) ∧
      ∀ x < now, Counter.isOn dev.tracked x = busyAt x := by
  induction h with
  | init => exact ⟨le_rfl, ⟨_, .ready false _ [] [] (follows_init hi hmax), .idle⟩, fun _ _ => rfl⟩
  | @wait now dev accepted busyAt t _ ht ih =>
    obtain ⟨hnow, ⟨srv, hs, hr⟩, hbusy⟩ := ih
    refine ⟨hnow.trans ht, ⟨srv, hs.wait ht, hr⟩, fun x hx => ?_⟩
    obtain ⟨-, -, hfol⟩ := hs.follows
    show _ = if now ≤ x ∧ x < t then dev.txMachineState == .busy else busyAt x
    by_cases hlt : x < now
    · rw [if_neg fun hle => absurd hle.1 (not_le.2 hlt)]
      exact hbusy x hlt
    · have hle : now ≤ x := by omega
      rw [if_pos ⟨hle, hx⟩, hfol.tracks.after x (hfol.prev.trans hle)]
      exact hfol.current
  | linkUp _ ih =>
    obtain ⟨hnow, ⟨srv, hs, hr⟩, hbusy⟩ := ih
    exact ⟨hnow, ⟨srv, hs.linkUp, hr⟩, hbusy⟩
  | accept p proto frame dev' _ hframe hrun ih =>
    obtain ⟨hnow, ⟨srv, hs, hr⟩, hbusy⟩ := ih
    rcases hs.send env hi hnow p proto with h | ⟨e, dev₁, -, h⟩ | ⟨frame', dev₁, hf, h, hs', hold⟩ <;>
      rw [hrun] at h <;> cases h
    rw [hframe] at hf
    cases hf
    exact ⟨hnow, ⟨_, hs', hr.submit _⟩, fun x hx => (hold x hx).trans (hbusy x hx)⟩
  | refuse p proto dev' _ hrun ih =>
    obtain ⟨hnow, ⟨srv, hs, hr⟩, hbusy⟩ := ih
    rcases hs.send env hi hnow p proto with h | ⟨e, dev₁, -, h⟩ | ⟨frame', dev₁, -, h, -⟩ <;> rw [hrun] at h <;> cases h
    exact ⟨hnow, ⟨srv, hs, hr⟩, hbusy⟩
  | complete pending dev' _ hpending hrun ih =>
    obtain ⟨hnow, ⟨srv, hs, hr⟩, hbusy⟩ := ih
    obtain ⟨hserving, ⟨e, dev₁, -, h⟩ | ⟨dev₁, h, hs', hold⟩⟩ := hs.complete env hi hnow hpending <;>
      rw [hrun] at h <;> cases h
    exact ⟨hnow, ⟨_, hs', hr.finish hserving⟩, fun x hx => (hold x hx).trans (hbusy x hx)⟩

/-! ## What holds in every state -/

/-- The transmitter is busy with one packet or idle with an empty queue, and what went to the channel and
what waits are the accepted packets in order. -/
structure Consistent (dev : PointToPointLaserNetDevice P) (accepted : List (Frame P)) : Prop where
  busy : dev.txMachineState = .busy ↔ (∃ p, dev.currentPkt = some p) ∧ dev.scheduled = 1
  ready : dev.txMachineState = .ready → dev.currentPkt = none ∧ dev.scheduled = 0 ∧ dev.queue = []
  inOrder : dev.transmitted ++ dev.queue = accepted
  current : ∀ p, dev.currentPkt = some p → dev.transmitted.getLast? = some p

theorem Serves.consistent (h : Serves intervalNs now dev srv) (hr : Server.Run srv accepted) :
    Consistent dev accepted := by
  have hc := hr.conserved
  cases h with
  | ready up c started tracked hfol =>
    exact ⟨⟨nofun, fun ⟨⟨p, hp⟩, _⟩ => by cases hp⟩, fun _ => ⟨rfl, rfl, rfl⟩, hc, nofun⟩
  | busy up p line c started tracked hfol =>
    refine ⟨⟨fun _ => ⟨⟨p, rfl⟩, rfl⟩, fun _ => rfl⟩, nofun, hc, ?_⟩
    rintro q ⟨⟩
    exact hr.serving_last rfl

/-- What finalizing the device returns: the share of each complete interval during which the calls say
that it was busy. -/
theorem Serves.finalize (h : Serves intervalNs now dev srv) (hi : 1 ≤ intervalNs) (hfit : Counter.Fits intervalNs now) :
    ∃ dev', (finalizeUtilization now).run dev = (.ok dev'.utilization.rows, dev') ∧
      dev'.utilization.rows = (List.range (now / intervalNs).toNat).map (fun k : Nat =>
        (count (Counter.isOn dev.tracked) (k * intervalNs) ((k + 1) * intervalNs) : ℚ) / intervalNs) := by
  obtain ⟨hen, hint, hfol⟩ := h.follows
  obtain ⟨c, hrun, hc, hprev, hlt⟩ := hfol.tracks.finalize hi hfol.prev hfit
  rw [← hint] at hrun
  have htrack : (trackUtilization now (!dev.utilization.currentStateIsOn)).run dev = _ := run_trackUtilization hen hrun
  refine ⟨_, Call.run_bind_eq htrack _, ?_⟩
  rw [← hprev, ← hc.accounted.closed_eq (hprev ▸ hlt)]
  exact hc.rows

/-- Finalizing returns only while the open interval ends within the range. -/
theorem Serves.fits (h : Serves intervalNs now dev srv) {rows : List ℚ} {dev' : PointToPointLaserNetDevice P}
    (hrun : (finalizeUtilization now).run dev = (.ok rows, dev')) : Counter.Fits intervalNs now := by
  obtain ⟨hen, hint, hfol⟩ := h.follows
  cases hc : dev.utilization.trackUtilization (recorder dev.intervalNs) dev.intervalNs now
      (!dev.utilization.currentStateIsOn) with
  | error e =>
    have hcall : (finalizeUtilization now).run dev = (.error e, dev) :=
      Call.run_bind_error (run_trackUtilization_error hen hc) _
    rw [hrun] at hcall
    cases hcall
  | ok c =>
    rw [hint] at hc
    obtain ⟨hacc, rfl, hend⟩ := hfol.tracks.counts.accounted.returned hfol.prev hc
    exact hacc.fits_now hend

/-- The separate tracker, given the same calls, has the same busy times. -/
theorem Follows.tracker {on : Bool} {tracked : List (Int × Bool)} {c : Counter ℚ}
    (h : Follows intervalNs now on tracked c) (hi : 1 ≤ intervalNs) (hnow : 0 ≤ now) (hfit : Counter.Fits intervalNs now) :
    ∃ c' c'', PtopLinkUtilizationTracker.callbacks intervalNs tracked (Counter.init intervalNs) = .ok c' ∧
      PtopLinkUtilizationTracker.finalizeUtilization intervalNs now c' = .ok c'' ∧
      ∀ k : Nat, (k : Int) < now / intervalNs → c''.rows[k]? = some ⟨k * intervalNs, (k + 1) * intervalNs,
        count (Counter.isOn tracked) (k * intervalNs) ((k + 1) * intervalNs)⟩ := by
  have halt := h.next [] trivial
  rw [List.append_nil] at halt
  obtain ⟨c', hrun, htracks, hprev⟩ := Counter.Tracks.run hi hfit
    (@Counter.tracks_init _ PtopLinkUtilizationTracker.recorder _ hi (h.tracks.counts.accounted.interval_lt)) halt h.bounds
    h.ascending hnow
  rw [List.nil_append] at htracks
  obtain ⟨c'', hfin, hrows⟩ := PtopLinkUtilizationTracker.finalize_complete hi htracks hprev hfit
  exact ⟨c', c'', by rw [PtopLinkUtilizationTracker.callbacks_eq]; exact hrun, hfin, hrows⟩

/-- An interval that is complete at `now` lies before it. -/
theorem complete_le (hi : 1 ≤ intervalNs) {k : Nat} (hk : (k : Int) < now / intervalNs) :
    ((k : Int) + 1) * intervalNs ≤ now := by
  have hle : (k : Int) + 1 ≤ now / intervalNs := by omega
  exact (Int.le_ediv_iff_mul_le (by omega)).1 hle

/-- In every reachable state the state of the device is consistent, so that every accepted packet goes to the channel
once and in order, and the calls of `TrackUtilization` alternate, at ascending times. -/
theorem Reach.consistent (hi : 1 ≤ intervalNs) (hmax : intervalNs < 2 ^ 63) (h : Reach env intervalNs now dev accepted busyAt) :
    Consistent dev accepted ∧ Counter.Alternating true dev.tracked ∧ dev.tracked.Pairwise fun e f => e.1 ≤ f.1 := by
  obtain ⟨-, ⟨srv, hs, hr⟩, -⟩ := h.serves hi hmax
  obtain ⟨-, -, hfol⟩ := hs.follows
  have halt := hfol.next [] trivial
  rw [List.append_nil] at halt
  exact ⟨hs.consistent hr, halt, hfol.ascending⟩

variable (env) in
/-- The device measures its utilization: it is consistent and tells the counter of its changes in turn; a call of the
device fails only for a protocol without a header or for a channel that is not initialized, in particular all time is
accounted for; and finalizing returns the exact share of each complete interval during which the device was BUSY, as
`PtopLinkUtilizationTracker` counts it from the same calls. -/
structure Measures (intervalNs now : Int) (dev : PointToPointLaserNetDevice P) (accepted : List (Frame P))
    (busyAt : Int → Bool) : Prop where
  consistent : Consistent dev accepted
  alternating : Counter.Alternating true dev.tracked ∧ dev.tracked.Pairwise fun e f => e.1 ≤ f.1
  send : ∀ p proto e dev', (PointToPointLaserNetDevice.send env now p proto).run dev = (.error e, dev') →
    addHeader p proto = .error e ∨ env.channel.transmitStart env.self = .error e
  complete : ∀ pending e dev', dev.scheduled = pending + 1 →
    (transmitComplete env now).run { dev with scheduled := pending } = (.error e, dev') →
    env.channel.transmitStart env.self = .error e
  finalized : ∃ dev' c c', (finalizeUtilization now).run dev = (.ok dev'.utilization.rows, dev') ∧
    dev'.utilization.rows = (List.range (now / intervalNs).toNat).map (fun k : Nat =>
      (count busyAt (k * intervalNs) ((k + 1) * intervalNs) : ℚ) / intervalNs) ∧
    PtopLinkUtilizationTracker.callbacks intervalNs dev.tracked (Counter.init intervalNs) = .ok c ∧
    PtopLinkUtilizationTracker.finalizeUtilization intervalNs now c = .ok c' ∧
    ∀ k : Nat, (k : Int) < now / intervalNs → c'.rows[k]? = some ⟨k * intervalNs, (k + 1) * intervalNs,
      count busyAt (k * intervalNs) ((k + 1) * intervalNs)⟩

/-- For every interval length and every interleaving of `Send` and the pending `TransmitComplete` events: the device
measures its utilization if and only if the end of the interval that is open is an `int64_t`. -/
theorem reach_measures_iff (hi : 1 ≤ intervalNs) (hmax : intervalNs < 2 ^ 63)
    (h : Reach env intervalNs now dev accepted busyAt) :
    Measures env intervalNs now dev accepted busyAt ↔ (now / intervalNs + 1) * intervalNs < 2 ^ 63 := by
  obtain ⟨hconsistent, halt⟩ := h.consistent hi hmax
  obtain ⟨hnow, ⟨srv, hs, hr⟩, hbusy⟩ := h.serves hi hmax
  obtain ⟨-, -, hfol⟩ := hs.follows
  constructor
  · intro hm
    obtain ⟨dev', c, c', hrun, -⟩ := hm.finalized
    exact hs.fits hrun
  · intro hfit
    -- the calls tell the state of the device at every instant of a complete interval
    have hcount : ∀ k : Nat, (k : Int) < now / intervalNs →
        count (Counter.isOn dev.tracked) (k * intervalNs) ((k + 1) * intervalNs) =
          count busyAt (k * intervalNs) ((k + 1) * intervalNs) := by
      intro k hk
      apply count_congr
      intro x _ hx
      exact hbusy x (lt_of_lt_of_le hx (complete_le hi hk))
    refine ⟨hconsistent, halt, fun p proto e dev' hrun => ?_, fun pending e dev' hp hrun => ?_, ?_⟩
    · rcases hs.send env hi hnow p proto with h | ⟨e', dev₁, he, h⟩ | ⟨frame, dev₁, -, h, -⟩ <;>
        rw [hrun] at h <;> cases h
      rcases he with he | he | he
      · exact .inl he
      · exact .inr he
      · exact absurd hfit he
    · obtain ⟨-, ⟨e', dev₁, he, h⟩ | ⟨dev₁, h, -⟩⟩ := hs.complete env hi hnow hp <;> rw [hrun] at h <;> cases h
      exact he.resolve_right (not_not_intro hfit)
    · obtain ⟨dev', hrun, hrows⟩ := hs.finalize hi hfit
      obtain ⟨c, c', hcalls, hfin, hrows'⟩ := hfol.tracker hi hnow hfit
      refine ⟨dev', c, c', hrun, ?_, hcalls, hfin, ?_⟩
      · rw [hrows]
        apply List.map_congr_left
        intro k hk
        rw [hcount k (by have := List.mem_range.1 hk; omega)]
      · intro k hk
        rw [hrows' k hk, hcount k hk]

/-- The first of two devices on a channel, with a queue for two packets. -/
def laserPair : Setting Nat Nat := ⟨fun queue _ => 2 ≤ queue.length, ⟨[1, 2]⟩, 1⟩

/-- A device that has sent nothing by 2^62 ns cannot close its first interval of 2^62 ns. -/
theorem reach_measures_counterexample : ∃ dev busyAt, Reach laserPair (2 ^ 62) (2 ^ 62) dev [] busyAt ∧
    ¬ Measures laserPair (2 ^ 62) (2 ^ 62) dev [] busyAt := by
  refine ⟨_, _, Reach.wait (2 ^ 62) Reach.init (by decide), ?_⟩
  intro hm
  obtain ⟨dev', c, c', hrun, -⟩ := hm.finalized
  have hover : ((finalizeUtilization (2 ^ 62)).run
      ((init : PointToPointLaserNetDevice Nat).enableUtilizationTracking (2 ^ 62))).1 =
      .error (.undefined "int64 overflow") := rfl
  rw [hrun] at hover
  cases hover

/-- Two packets one after the other, on the border of an interval and across another one. -/
theorem reach_laserPair : ∃ dev busyAt, Reach laserPair 10 25 dev [(⟨0x21, 7⟩ : Frame Nat), ⟨0x21, 8⟩] busyAt ∧
    count busyAt 0 10 = 6 ∧ count busyAt 10 20 = 10 := by
  have h₁ := Reach.accept 8 0x800 _ _ (Reach.accept 7 0x800 _ _
    (Reach.wait 4 (Reach.linkUp (@Reach.init _ _ _ laserPair 10)) (by decide)) rfl rfl) rfl rfl
  have h₂ := Reach.wait 25 (Reach.complete 0 _ (Reach.wait 10 h₁ (by decide)) rfl rfl) (by decide)
  exact ⟨_, _, h₂, by decide, by decide⟩

theorem reach_measures_laserPair : ∃ dev dev' busyAt,
    Reach laserPair 10 25 dev [(⟨0x21, 7⟩ : Frame Nat), ⟨0x21, 8⟩] busyAt ∧
    (finalizeUtilization 25).run dev = (.ok [3 / 5, 1], dev') := by
  obtain ⟨dev, busyAt, h, h₀, h₁⟩ := reach_laserPair
  obtain ⟨dev', c, c', hrun, hrows, -⟩ := ((reach_measures_iff (by decide) (by decide) h).2 (by decide)).finalized
  refine ⟨dev, dev', busyAt, h, ?_⟩
  have hrange : List.range ((25 : Int) / 10).toNat = [0, 1] := rfl
  rw [hrun, hrows, hrange]
  simp only [List.map_cons, List.map_nil, Nat.cast_zero, Nat.cast_one, zero_mul, one_mul, zero_add, one_add_one_eq_two]
  rw [h₀, show (2 : Int) * 10 = 20 from rfl, h₁]
  norm_num

end PointToPointLaserNetDevice

end SatNet.Device
