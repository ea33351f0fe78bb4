/-
The events of a satellite network simulation that schedule their own successors: the updates of the forwarding state
and of the GSL bandwidths, and the pings of every client. Between them anything else may happen, which neither
schedules nor cancels one of them.
-/
import SatNet.Apps.Pingmesh
import SatNet.Apps.UdpRtt
import SatNet.Base.Simulator
import SatNet.Lib.Periodic
import SatNet.Satellite.GslIfBandwidth

namespace SatNet.Satellite

open SatNet.Loop SatNet.ExpUtil SatNet.Apps SatNet.Periodic

variable {M D R : Type}

/-! ## The data -/

/-- An update that is scheduled: when it is due, and its argument. -/
structure Update where
  time : Nat
  t : Int
  deriving Repr, DecidableEq

inductive ClientEvent where
  | startApplication
  | send
  deriving Repr, DecidableEq

/-- A ping client and its next event. -/
structure RttClient where
  app : UdpRttClient
  intervalNs : Nat
  event : ClientEvent
  time : Nat
  deriving Repr, DecidableEq

/-- The simulation, with the updates that were made: each with the clock and with the time its file is named with. -/
structure UpdateRun (R : Type) where
  now : Nat
  forwarding : ForwardingState
  gsl : GslRates R
  forwardingEvent : Option Update
  bandwidthEvent : Option Update
  clients : List RttClient
  forwardingUpdates : List Update
  bandwidthUpdates : List Update

/-- The parameters that the events read. -/
structure Updates (M D R : Type) where
  sim : BasicSimulation
  net : Network M
  rates : DataRates D R
  dynamicStateUpdateIntervalNs : Nat
  gslDataRateMegabitPerS : D

/-! ## The events -/

/-- `Simulator::Schedule(NanoSeconds(interval), .., next)`, if there is a next update. -/
def scheduleUpdate (now intervalNs : Nat) : Option Int → Res (Option Update)
  | none => .ok none
  | some next => do
    let time ← scheduledTime now intervalNs
    .ok (some ⟨time, next⟩)

variable (u : Updates M D R)

def updateForwarding (event : Update) (s : UpdateRun R) : Res (UpdateRun R) := do
  let (forwarding, next) ← updateForwardingState u.sim u.net u.dynamicStateUpdateIntervalNs event.t s.forwarding
  let forwardingEvent ← scheduleUpdate event.time u.dynamicStateUpdateIntervalNs next
  .ok { s with
    now := event.time
    forwarding := forwarding
    forwardingEvent := forwardingEvent
    forwardingUpdates := s.forwardingUpdates ++ [event] }

def updateBandwidth (event : Update) (s : UpdateRun R) : Res (UpdateRun R) := do
  let (gsl, next) ← updateGslIfBandwidth u.rates u.sim u.net u.gslDataRateMegabitPerS u.dynamicStateUpdateIntervalNs event.t s.gsl
  let bandwidthEvent ← scheduleUpdate event.time u.dynamicStateUpdateIntervalNs next
  .ok { s with
    now := event.time
    gsl := gsl
    bandwidthEvent := bandwidthEvent
    bandwidthUpdates := s.bandwidthUpdates ++ [event] }

/-- The event of a client. -/
def RttClient.run (c : RttClient) : Res RttClient :=
  match c.event with
  | .startApplication => do
    -- `ScheduleTransmit(Seconds(0.))`
    let time ← scheduledTime c.time 0
    .ok { c with event := .send, time }
  | .send => do
    let time ← scheduledTime c.time c.intervalNs
    .ok { c with app := (c.app.send c.time).1, time }

/-- `wait`: something else happens. -/
inductive RunEvent where
  | wait (t : Nat)
  | updateForwardingState
  | updateGslIfBandwidth
  | client (i : Nat)
  deriving Repr, DecidableEq

def UpdateRun.step (s : UpdateRun R) : RunEvent → Res (UpdateRun R)
  | .wait t => .ok { s with now := t }
  | .updateForwardingState =>
    match s.forwardingEvent with
    | none => .ok s
    | some event => updateForwarding u event s
  | .updateGslIfBandwidth =>
    match s.bandwidthEvent with
    | none => .ok s
    | some event => updateBandwidth u event s
  | .client i =>
    match s.clients[i]? with
    | none => .ok s
    | some c => do
      let c' ← c.run
      .ok { s with now := c.time, clients := s.clients.set i c' }

/-- The time of an event that is scheduled. -/
def UpdateRun.timeOf (s : UpdateRun R) : RunEvent → Option Nat
  | .wait t => some t
  | .updateForwardingState => s.forwardingEvent.map (·.time)
  | .updateGslIfBandwidth => s.bandwidthEvent.map (·.time)
  | .client i => s.clients[i]?.map (·.time)

/-- The times of all that is scheduled. -/
def UpdateRun.pending (s : UpdateRun R) : List Nat :=
  (s.forwardingEvent.map (·.time)).toList ++ ((s.bandwidthEvent.map (·.time)).toList ++ s.clients.map (·.time))

/-- The simulator takes an event before the end, none before another one that is due earlier; the clock of something
else does not go back, nor past what is scheduled or the end. -/
def RunPermitted (s : UpdateRun R) (e : RunEvent) : Prop :=
  ∃ time, s.timeOf e = some time ∧ (∀ p ∈ s.pending, time ≤ p) ∧
    match e with
    | .wait t => s.now ≤ t ∧ t ≤ u.sim.simulationEndTimeNs
    | _ => time < u.sim.simulationEndTimeNs

def NextRun (s s' : UpdateRun R) : Prop := ∃ e, RunPermitted u s e ∧ s.step u e = .ok s'

def ReachesRun : UpdateRun R → UpdateRun R → Prop := Relation.ReflTransGen (NextRun u)

/-! ## The start -/

/-- `app.Start(NanoSeconds(..))` of a client. -/
def startClient (p : PingClient) : Res RttClient := do
  let time ← scheduledTime 0 p.startNs
  .ok ⟨UdpRttClient.initial, p.intervalNs, .startApplication, time⟩

/-- The two helpers, which make the updates for time 0 themselves, and the clients. -/
def startUpdates (sim : BasicSimulation) (net : Network M) (rates : DataRates D R) (pings : List PingClient) :
    Res (Updates M D R × UpdateRun R) := do
  let intervalNs ← getParamOrFail "dynamic_state_update_interval_ns" sim.config >>= parsePositiveInt64
  let (forwarding, next) ← updateForwardingState sim net intervalNs 0 (initialEmptyForwardingState net.nodes.length)
  let forwardingEvent ← scheduleUpdate 0 intervalNs next
  let gslDataRateMegabitPerS ← getParamOrFail "gsl_data_rate_megabit_per_s" sim.config >>= rates.parsePositiveDouble
  let (gsl, next) ← updateGslIfBandwidth rates sim net gslDataRateMegabitPerS intervalNs 0 fun _ => none
  let bandwidthEvent ← scheduleUpdate 0 intervalNs next
  let clients ← forEach (fun clients p => do
    let c ← startClient p
    .ok (clients ++ [c])) pings []
  .ok (⟨sim, net, rates, intervalNs, gslDataRateMegabitPerS⟩,
    { now := 0, forwarding, gsl, forwardingEvent, bandwidthEvent, clients,
      forwardingUpdates := [⟨0, 0⟩], bandwidthUpdates := [⟨0, 0⟩] })

/-! ## When the events advance -/

/-- The network does not move. -/
def Static (sim : BasicSimulation) : Prop :=
  parseBoolean (getParamOrDefault "satellite_network_force_static" "false" sim.config) = .ok true

/-- An event that happens every `intervalNs` from `first` on: the interval is not zero, and the time after the last one
before the end is an `int64_t`. -/
def Advances (first intervalNs : Nat) (endNs : Int) : Prop :=
  0 < intervalNs ∧ ∀ k : Nat, (first + k * intervalNs : Nat) < endNs → first + (k + 1) * intervalNs < 2 ^ 63

structure AllAdvance (u : Updates M D R) (pings : List PingClient) : Prop where
  updates : ¬ Static u.sim → 0 < u.sim.simulationEndTimeNs ∧
    Advances 0 u.dynamicStateUpdateIntervalNs u.sim.simulationEndTimeNs
  pings : ∀ p ∈ pings, p.startNs < u.sim.simulationEndTimeNs →
    Advances p.startNs.toNat p.intervalNs u.sim.simulationEndTimeNs

/-! ## One update -/

variable {u} {sim : BasicSimulation}

/-- The next update is planned and scheduled for one interval later, unless the simulation ends before. -/
theorem planNextUpdate_schedule
    (hforce : parseBoolean (getParamOrDefault "satellite_network_force_static" "false" sim.config) = .ok false)
    {time intervalNs : Nat} (h : time + intervalNs < 2 ^ 63) :
    (planNextUpdate sim intervalNs time >>= scheduleUpdate time intervalNs) =
      .ok (if ((time + intervalNs : Nat) : Int) < sim.simulationEndTimeNs then
        some ⟨time + intervalNs, (time + intervalNs : Nat)⟩
        else none) := by
  unfold planNextUpdate
  rw [hforce, ok_bind]
  simp only [Bool.false_eq_true, if_false]
  rw [int64_eq (by omega) (by omega), ok_bind, ok_bind, ← Nat.cast_add]
  split
  · simp only [scheduleUpdate, scheduledTime_eq h, ok_bind]
  · rfl

theorem planNextUpdate_static (hstatic : Static sim) (time intervalNs : Nat) (t : Int) :
    (planNextUpdate sim intervalNs t >>= scheduleUpdate time intervalNs) = .ok none := by
  unfold planNextUpdate
  rw [show parseBoolean (getParamOrDefault "satellite_network_force_static" "false" sim.config) = .ok true from hstatic,
    ok_bind]
  rfl

theorem updateForwarding_eq (event : Update) (s : UpdateRun R) :
    updateForwarding u event s = loadForwardingState u.sim u.net event.t s.forwarding >>= fun forwarding =>
      (planNextUpdate u.sim u.dynamicStateUpdateIntervalNs event.t >>= scheduleUpdate event.time u.dynamicStateUpdateIntervalNs) >>=
        fun forwardingEvent => .ok { s with
          now := event.time
          forwarding := forwarding
          forwardingEvent := forwardingEvent
          forwardingUpdates := s.forwardingUpdates ++ [event] } := by
  unfold updateForwarding
  rw [updateForwardingState_eq]
  simp only [bind_assoc, ok_bind]

theorem updateBandwidth_eq (event : Update) (s : UpdateRun R) :
    updateBandwidth u event s = loadGslIfBandwidth u.rates u.sim u.net u.gslDataRateMegabitPerS event.t s.gsl >>= fun gsl =>
      (planNextUpdate u.sim u.dynamicStateUpdateIntervalNs event.t >>= scheduleUpdate event.time u.dynamicStateUpdateIntervalNs) >>=
        fun bandwidthEvent => .ok { s with
          now := event.time
          gsl := gsl
          bandwidthEvent := bandwidthEvent
          bandwidthUpdates := s.bandwidthUpdates ++ [event] } := by
  unfold updateBandwidth
  rw [updateGslIfBandwidth_eq]
  simp only [bind_assoc, ok_bind]

/-- An update that is made when it is due, before the end: the next one is scheduled as it should be. -/
theorem update_tick (hforce : parseBoolean (getParamOrDefault "satellite_network_force_static" "false" sim.config) = .ok false)
    {intervalNs now time : Nat} {times : List Nat} (hadv : Advances 0 intervalNs sim.simulationEndTimeNs)
    (h : Ticks 0 intervalNs sim.simulationEndTimeNs.toNat now times (some time))
    (hend : time < sim.simulationEndTimeNs) :
    ∃ event, (planNextUpdate sim intervalNs time >>= scheduleUpdate time intervalNs) = .ok event ∧
      Ticks 0 intervalNs sim.simulationEndTimeNs.toNat time (times ++ [time]) (event.map (·.time)) ∧
      ∀ e, event = some e → e.t = e.time := by
  have hdue := (h.due time rfl).1
  have hlt : time + intervalNs < 2 ^ 63 := by
    have hnext := hadv.2 times.length (by omega)
    rw [Nat.succ_mul] at hnext
    omega
  refine ⟨_, planNextUpdate_schedule hforce hlt, h.tick (by omega) ?_ ?_, ?_⟩ <;> split
  · rintro t' ⟨⟩
    rfl
  · nofun
  · nofun
  · rintro -
    omega
  · rintro e ⟨⟩
    rfl
  · nofun

/-! ## What every run keeps -/

/-- The updates of one kind so far, and the next one. -/
structure UpdateInv (sim : BasicSimulation) (intervalNs now : Nat) (updates : List Update) (event : Option Update) : Prop where
  ticks : ¬ Static sim → Ticks 0 intervalNs sim.simulationEndTimeNs.toNat now (updates.map (·.time)) (event.map (·.time))
  static : Static sim → updates = [⟨0, 0⟩] ∧ event = none
  named : ∀ x ∈ updates, x.t = x.time
  next : ∀ e, event = some e → e.t = e.time

/-- The pings of one client so far, and its next event. -/
def ClientInv (endNs : Int) (now : Nat) (p : PingClient) (c : RttClient) : Prop :=
  c.intervalNs = p.intervalNs ∧ ∃ times : List Nat, c.app.sendRequestTimestamps = times.map (fun t : Nat => (t : Int)) ∧
    Ticks p.startNs.toNat p.intervalNs endNs.toNat now times (some c.time)

structure RunInv (u : Updates M D R) (pings : List PingClient) (s : UpdateRun R) : Prop where
  forwarding : UpdateInv u.sim u.dynamicStateUpdateIntervalNs s.now s.forwardingUpdates s.forwardingEvent
  bandwidth : UpdateInv u.sim u.dynamicStateUpdateIntervalNs s.now s.bandwidthUpdates s.bandwidthEvent
  clients : List.Forall₂ (ClientInv u.sim.simulationEndTimeNs s.now) pings s.clients

section Invariant

variable {intervalNs now now' : Nat} {updates : List Update} {event : Option Update}

theorem UpdateInv.wait (h : UpdateInv sim intervalNs now updates event) (hle : now ≤ now')
    (hnext : ∀ e, event = some e → now' ≤ e.time) : UpdateInv sim intervalNs now' updates event := by
  refine ⟨fun hs => (h.ticks hs).wait hle fun t ht => ?_, h.static, h.named, h.next⟩
  obtain ⟨e, he, rfl⟩ := Option.map_eq_some_iff.1 ht
  exact hnext e he

/-- The clock has not gone past an update that is scheduled. -/
theorem UpdateInv.le {e : Update} (h : UpdateInv sim intervalNs now updates (some e)) : now ≤ e.time := by
  by_cases hs : Static sim
  · cases (h.static hs).2
  · exact ((h.ticks hs).due e.time rfl).2

theorem UpdateInv.tick {e : Update}
    (hforce : ∃ b, parseBoolean (getParamOrDefault "satellite_network_force_static" "false" sim.config) = .ok b)
    (hadv : ¬ Static sim → Advances 0 intervalNs sim.simulationEndTimeNs)
    (h : UpdateInv sim intervalNs now updates (some e))
    (hend : e.time < sim.simulationEndTimeNs) :
    ∃ event, (planNextUpdate sim intervalNs e.t >>= scheduleUpdate e.time intervalNs) = .ok event ∧
      UpdateInv sim intervalNs e.time (updates ++ [e]) event := by
  have hs : ¬ Static sim := fun hs => by cases (h.static hs).2
  obtain ⟨b, hb⟩ := hforce
  have hb : b = false := by
    cases b with
    | true => exact absurd hb hs
    | false => rfl
  subst hb
  obtain ⟨event, hevent, hticks, hnext⟩ := update_tick hb (hadv hs) (h.ticks hs) hend
  rw [h.next e rfl]
  refine ⟨event, hevent, fun _ => ?_, fun hs' => absurd hs' hs, fun x hx => ?_, hnext⟩
  · rw [List.map_append]
    exact hticks
  · rcases List.mem_append.1 hx with hx | hx
    · exact h.named x hx
    · rw [List.mem_singleton.1 hx]
      exact h.next e rfl

variable {endNs : Int} {p : PingClient} {c : RttClient}

theorem ClientInv.wait (h : ClientInv endNs now p c) (hle : now ≤ now') (hnext : now' ≤ c.time) :
    ClientInv endNs now' p c := by
  obtain ⟨hint, times, hsent, hticks⟩ := h
  refine ⟨hint, times, hsent, hticks.wait hle fun t ht => ?_⟩
  cases ht
  exact hnext

theorem ClientInv.le (h : ClientInv endNs now p c) : now ≤ c.time := by
  obtain ⟨-, _, -, hticks⟩ := h
  exact (hticks.due c.time rfl).2

theorem ClientInv.run (hadv : p.startNs < endNs → Advances p.startNs.toNat p.intervalNs endNs)
    (h : ClientInv endNs now p c)
    (hend : c.time < endNs) : ∃ c', c.run = .ok c' ∧ ClientInv endNs c.time p c' := by
  have hle := h.le
  obtain ⟨app, _, event, time⟩ := c
  obtain ⟨rfl, times, hsent, hticks⟩ := h
  simp only at hend hle hsent hticks ⊢
  have hdue := (hticks.due time rfl).1
  have hlt : time + p.intervalNs < 2 ^ 63 := by
    have hnext := (hadv (by omega)).2 times.length (by omega)
    rw [Nat.succ_mul] at hnext
    omega
  unfold RttClient.run
  cases event with
  | startApplication =>
    have htime := @scheduledTime_eq time 0 (by omega)
    rw [Nat.cast_zero, Nat.add_zero] at htime
    refine ⟨⟨app, p.intervalNs, .send, time⟩, ?_, rfl, times, hsent, hticks.wait hle fun t ht => ?_⟩
    · simp only [htime, ok_bind]
    · cases ht
      exact le_rfl
  | send =>
    refine ⟨⟨(app.send time).1, p.intervalNs, .send, time + p.intervalNs⟩, ?_, rfl, times ++ [time], ?_, ?_⟩
    · simp only [scheduledTime_eq hlt, ok_bind]
    · rw [List.map_append, ← hsent]
      rfl
    · refine hticks.tick (by omega) (fun t ht => ?_) nofun
      cases ht
      rfl

end Invariant

section Run

variable {pings : List PingClient} {s s' : UpdateRun R} {e : RunEvent}

theorem RunInv.wait {t : Nat} (h : RunInv u pings s) (hle : s.now ≤ t) (hpending : ∀ p ∈ s.pending, t ≤ p) :
    RunInv u pings { s with now := t } := by
  have hp : ∀ x, x ∈ s.pending ↔ (∃ e, s.forwardingEvent = some e ∧ e.time = x) ∨
      (∃ e, s.bandwidthEvent = some e ∧ e.time = x) ∨ ∃ c ∈ s.clients, c.time = x := by
    intro x
    simp only [UpdateRun.pending, List.mem_append, Option.mem_toList, Option.map_eq_some_iff, List.mem_map]
  refine ⟨h.forwarding.wait hle fun e he => ?_, h.bandwidth.wait hle fun e he => ?_, ?_⟩
  · exact hpending _ ((hp _).2 (.inl ⟨e, he, rfl⟩))
  · exact hpending _ ((hp _).2 (.inr (.inl ⟨e, he, rfl⟩)))
  · have hall : ∀ c ∈ s.clients, t ≤ c.time := fun c hc => hpending _ ((hp _).2 (.inr (.inr ⟨c, hc, rfl⟩)))
    rw [List.forall₂_iff_get]
    refine ⟨h.clients.length_eq, fun i hi hi' => ?_⟩
    exact ((List.forall₂_iff_get.1 h.clients).2 i hi hi').wait hle (hall _ (List.get_mem _ _))

/-- The file of the event cannot be loaded. -/
def LoadFails (u : Updates M D R) (s : UpdateRun R) (f : Fail) : RunEvent → Prop
  | .updateForwardingState =>
    ∃ event, s.forwardingEvent = some event ∧ loadForwardingState u.sim u.net event.t s.forwarding = .error f
  | .updateGslIfBandwidth =>
    ∃ event, s.bandwidthEvent = some event ∧
      loadGslIfBandwidth u.rates u.sim u.net u.gslDataRateMegabitPerS event.t s.gsl = .error f
  | _ => False

/-- What an event does: it ends on its file, or keeps the invariant. -/
theorem RunInv.step (hforce : ∃ b, parseBoolean (getParamOrDefault "satellite_network_force_static" "false" u.sim.config) = .ok b)
    (hadv : AllAdvance u pings) (h : RunInv u pings s) (he : RunPermitted u s e) :
    (∃ f, s.step u e = .error f ∧ LoadFails u s f e) ∨ ∃ s', s.step u e = .ok s' ∧ RunInv u pings s' := by
  have hupdates := fun hs => (hadv.updates hs).2
  obtain ⟨time, htime, hpending, he⟩ := he
  cases e with
  | wait t =>
    cases htime
    exact .inr ⟨_, rfl, h.wait he.1 hpending⟩
  | updateForwardingState =>
    obtain ⟨event, hevent, rfl⟩ := Option.map_eq_some_iff.1 htime
    have hf := h.forwarding
    rw [hevent] at hf
    obtain ⟨next, hnext, hinv⟩ := hf.tick hforce hupdates he
    simp only [UpdateRun.step, hevent, updateForwarding_eq, hnext]
    cases hload : loadForwardingState u.sim u.net event.t s.forwarding with
    | error f => exact .inl ⟨f, rfl, event, hevent, hload⟩
    | ok forwarding =>
      have hwait := h.wait hf.le hpending
      exact .inr ⟨_, rfl, hinv, hwait.bandwidth, hwait.clients⟩
  | updateGslIfBandwidth =>
    obtain ⟨event, hevent, rfl⟩ := Option.map_eq_some_iff.1 htime
    have hb := h.bandwidth
    rw [hevent] at hb
    obtain ⟨next, hnext, hinv⟩ := hb.tick hforce hupdates he
    simp only [UpdateRun.step, hevent, updateBandwidth_eq, hnext]
    cases hload : loadGslIfBandwidth u.rates u.sim u.net u.gslDataRateMegabitPerS event.t s.gsl with
    | error f => exact .inl ⟨f, rfl, event, hevent, hload⟩
    | ok gsl =>
      have hwait := h.wait hb.le hpending
      exact .inr ⟨_, rfl, hwait.forwarding, hinv, hwait.clients⟩
  | client i =>
    obtain ⟨c, hc, rfl⟩ := Option.map_eq_some_iff.1 htime
    obtain ⟨p, hp, hinv⟩ := forall₂_getElem? h.clients hc
    obtain ⟨c', hrun, hinv'⟩ := hinv.run (hadv.pings p (List.mem_of_getElem? hp)) he
    have hwait := h.wait hinv.le hpending
    simp only [UpdateRun.step, hc, hrun, ok_bind]
    exact .inr ⟨_, rfl, hwait.forwarding, hwait.bandwidth, forall₂_set hwait.clients hp hinv'⟩

theorem ReachesRun.inv {s₀ : UpdateRun R}
    (hforce : ∃ b, parseBoolean (getParamOrDefault "satellite_network_force_static" "false" u.sim.config) = .ok b)
    (hadv : AllAdvance u pings) (h₀ : RunInv u pings s₀) (h : ReachesRun u s₀ s) : RunInv u pings s := by
  induction h with
  | refl => exact h₀
  | tail _ hnext ih =>
    obtain ⟨e, he, hstep⟩ := hnext
    rcases ih.step hforce hadv he with ⟨f, hf, -⟩ | ⟨s', hs', hinv⟩
    · rw [hf] at hstep
      cases hstep
    · rw [hs'] at hstep
      cases hstep
      exact hinv

/-! ## The start -/

theorem startClient_inv {p : PingClient} {c : RttClient} {endNs : Int} (hlt : p.startNs < 2 ^ 63)
    (hge : -2 ^ 63 ≤ p.startNs)
    (h : startClient p = .ok c) : ClientInv endNs 0 p c := by
  obtain ⟨time, htime, h⟩ := bind_ok h
  cases h
  have hstart : time = p.startNs.toNat := by
    unfold scheduledTime at htime
    rw [Nat.cast_zero, Int.zero_add, toInt64_eq hge hlt] at htime
    simp only [ite_error_eq_ok, Except.ok.injEq] at htime
    exact htime.2.symm
  subst hstart
  exact ⟨rfl, [], rfl, Ticks.start (fun t ht => by cases ht; rfl) (Nat.zero_le _) nofun⟩

/-- The update for time 0 that a helper makes itself. -/
theorem start_updateInv {intervalNs : Nat} {event : Option Update}
    (hforce : ∃ b, parseBoolean (getParamOrDefault "satellite_network_force_static" "false" sim.config) = .ok b)
    (hadv : ¬ Static sim → 0 < sim.simulationEndTimeNs ∧ Advances 0 intervalNs sim.simulationEndTimeNs)
    (h : (planNextUpdate sim intervalNs 0 >>= scheduleUpdate 0 intervalNs) = .ok event) :
    UpdateInv sim intervalNs 0 [⟨0, 0⟩] event := by
  have hnamed : ∀ x ∈ [(⟨0, 0⟩ : Update)], x.t = x.time := by
    intro x hx
    rw [List.mem_singleton.1 hx]
    rfl
  obtain ⟨b, hb⟩ := hforce
  cases b with
  | true =>
    rw [planNextUpdate_static hb] at h
    cases h
    exact ⟨fun hs => absurd hb hs, fun _ => ⟨rfl, rfl⟩, hnamed, nofun⟩
  | false =>
    have hs : ¬ Static sim := fun hs => by
      rw [show parseBoolean _ = _ from hs] at hb
      cases hb
    obtain ⟨hend, hadv⟩ := hadv hs
    have hbegin : Ticks 0 intervalNs sim.simulationEndTimeNs.toNat 0 [] (some 0) :=
      Ticks.start (fun t ht => by cases ht; rfl) le_rfl nofun
    obtain ⟨event', hevent', hticks, hnext⟩ := update_tick hb hadv hbegin hend
    rw [Nat.cast_zero, h] at hevent'
    cases hevent'
    exact ⟨fun _ => hticks, fun hs' => absurd hs' hs, hnamed, hnext⟩

theorem startUpdates_inv {net : Network M} {rates : DataRates D R}
    (hpings : ∀ p ∈ pings, p.startNs < 2 ^ 63 ∧ -2 ^ 63 ≤ p.startNs)
    (h : startUpdates sim net rates pings = .ok (u, s)) (hadv : AllAdvance u pings) :
    (∃ b, parseBoolean (getParamOrDefault "satellite_network_force_static" "false" u.sim.config) = .ok b) ∧
      RunInv u pings s := by
  obtain ⟨intervalNs, -, h⟩ := bind_ok h
  obtain ⟨⟨forwarding, next⟩, hforwarding, h⟩ := bind_ok h
  obtain ⟨forwardingEvent, hfe, h⟩ := bind_ok h
  obtain ⟨rate, -, h⟩ := bind_ok h
  obtain ⟨⟨gsl, next'⟩, hgsl, h⟩ := bind_ok h
  obtain ⟨bandwidthEvent, hbe, h⟩ := bind_ok h
  obtain ⟨clients, hclients, h⟩ := bind_ok h
  cases h
  rw [updateForwardingState_eq] at hforwarding
  obtain ⟨_, -, hforwarding⟩ := bind_ok hforwarding
  obtain ⟨_, hplan, hforwarding⟩ := bind_ok hforwarding
  cases hforwarding
  rw [updateGslIfBandwidth_eq] at hgsl
  obtain ⟨_, -, hgsl⟩ := bind_ok hgsl
  obtain ⟨_, hplan', hgsl⟩ := bind_ok hgsl
  cases hgsl
  have hforce : ∃ b, parseBoolean (getParamOrDefault "satellite_network_force_static" "false" sim.config) = .ok b := by
    obtain ⟨b, hb, -⟩ := bind_ok hplan
    exact ⟨b, hb⟩
  rw [forEach_read] at hclients
  obtain ⟨cs, hcs, rfl⟩ := hclients
  refine ⟨hforce, start_updateInv hforce hadv.updates (by rw [hplan, ok_bind]; exact hfe),
    start_updateInv hforce hadv.updates (by rw [hplan', ok_bind]; exact hbe), ?_⟩
  simp only [foldl_collect, List.nil_append]
  rw [List.forall₂_iff_get] at hcs ⊢
  refine ⟨hcs.1, fun i hi hi' => ?_⟩
  have hp := hpings _ (List.get_mem pings ⟨i, hi⟩)
  exact startClient_inv hp.1 hp.2 (hcs.2 i hi hi')

end Run

/-! ## On time -/

/-- How many of the events happened at an instant. -/
def UpdateRun.executedAt (s : UpdateRun R) (x : Nat) : Nat :=
  (s.forwardingUpdates.map (·.time)).count x + (s.bandwidthUpdates.map (·.time)).count x +
    (s.clients.map fun c => c.app.sendRequestTimestamps.count (x : Int)).sum

/-- Each update is made with the file of its time; in a static network the only one is that of the start. -/
structure UpdatesOnTime (sim : BasicSimulation) (intervalNs now : Nat) (updates : List Update) : Prop where
  dynamic : ¬ Static sim → OnTime 0 intervalNs sim.simulationEndTimeNs.toNat now (updates.map (·.time))
  static : Static sim → updates = [⟨0, 0⟩]
  named : ∀ x ∈ updates, x.t = x.time

/-- The pings of a client. -/
def PingsOnTime (endNs : Int) (now : Nat) (p : PingClient) (c : RttClient) : Prop :=
  ∃ times : List Nat, c.app.sendRequestTimestamps = times.map (fun t : Nat => (t : Int)) ∧
    OnTime p.startNs.toNat p.intervalNs endNs.toNat now times

/-- All events happen on time, few at an instant, none fails but on its file, and as long as one is due before the end
one can happen. -/
structure RunOnTime (u : Updates M D R) (pings : List PingClient) (s : UpdateRun R) : Prop where
  forwarding : UpdatesOnTime u.sim u.dynamicStateUpdateIntervalNs s.now s.forwardingUpdates
  bandwidth : UpdatesOnTime u.sim u.dynamicStateUpdateIntervalNs s.now s.bandwidthUpdates
  clients : List.Forall₂ (PingsOnTime u.sim.simulationEndTimeNs s.now) pings s.clients
  few : ∀ x, s.executedAt x ≤ 2 + pings.length
  fails : ∀ e f, RunPermitted u s e → s.step u e = .error f → LoadFails u s f e
  progress : (∀ p ∈ s.pending, u.sim.simulationEndTimeNs ≤ p) ∨ ∃ e, (∀ t, e ≠ .wait t) ∧ RunPermitted u s e

section OnTime

variable {pings : List PingClient} {s : UpdateRun R}

theorem UpdateInv.onTime {intervalNs now : Nat} {updates : List Update} {event : Option Update}
    (hadv : ¬ Static sim → Advances 0 intervalNs sim.simulationEndTimeNs)
    (h : UpdateInv sim intervalNs now updates event) :
    UpdatesOnTime sim intervalNs now updates :=
  ⟨fun hs => (h.ticks hs).onTime (hadv hs).1, fun hs => (h.static hs).1, h.named⟩

theorem ClientInv.onTime {endNs : Int} {now : Nat} {p : PingClient} {c : RttClient}
    (hadv : p.startNs < endNs → Advances p.startNs.toNat p.intervalNs endNs) (h : ClientInv endNs now p c) :
    PingsOnTime endNs now p c := by
  obtain ⟨-, times, hsent, hticks⟩ := h
  by_cases hstart : p.startNs < endNs
  · exact ⟨times, hsent, hticks.onTime (hadv hstart).1⟩
  · exact ⟨times, hsent, hticks.onTime_of_le (by omega)⟩

theorem UpdatesOnTime.count_le {intervalNs now : Nat} {updates : List Update}
    (h : UpdatesOnTime sim intervalNs now updates)
    (x : Nat) : (updates.map (·.time)).count x ≤ 1 := by
  by_cases hs : Static sim
  · rw [h.static hs]
    exact List.count_le_length
  · exact (h.dynamic hs).count_le x

theorem PingsOnTime.count_le {endNs : Int} {now : Nat} {p : PingClient} {c : RttClient} (h : PingsOnTime endNs now p c)
    (x : Nat) :
    c.app.sendRequestTimestamps.count (x : Int) ≤ 1 := by
  obtain ⟨times, hsent, htimes⟩ := h
  rw [hsent, List.count_map_of_injective times _ Nat.cast_injective]
  exact htimes.count_le x

theorem sum_counts_le {endNs : Int} {now : Nat} {cs : List RttClient}
    (h : List.Forall₂ (PingsOnTime endNs now) pings cs) (x : Nat) :
    (cs.map fun c => c.app.sendRequestTimestamps.count (x : Int)).sum ≤ pings.length := by
  induction h with
  | nil => exact le_rfl
  | cons hpc _ ih =>
    have hone := hpc.count_le x
    rw [List.map_cons, List.sum_cons, List.length_cons]
    omega

/-- Of the scheduled events one is due first. -/
theorem exists_first {l : List Nat} (h : l ≠ []) : ∃ m ∈ l, ∀ p ∈ l, m ≤ p := by
  cases hm : l.min? with
  | none => exact absurd (List.min?_eq_none_iff.1 hm) h
  | some m => exact ⟨m, List.min?_eq_some_iff.1 hm⟩

/-- A scheduled time is that of an event. -/
theorem exists_event {x : Nat} (h : x ∈ s.pending) : ∃ e, (∀ t, e ≠ .wait t) ∧ s.timeOf e = some x := by
  simp only [UpdateRun.pending, List.mem_append, Option.mem_toList, List.mem_map] at h
  rcases h with h | h | ⟨c, hc, rfl⟩
  · exact ⟨.updateForwardingState, nofun, h⟩
  · exact ⟨.updateGslIfBandwidth, nofun, h⟩
  · obtain ⟨i, hi⟩ := List.mem_iff_getElem?.1 hc
    refine ⟨.client i, nofun, ?_⟩
    unfold UpdateRun.timeOf
    simp only [hi, Option.map_some]

theorem exists_permitted (h : ¬ ∀ p ∈ s.pending, u.sim.simulationEndTimeNs ≤ p) :
    ∃ e, (∀ t, e ≠ .wait t) ∧ RunPermitted u s e := by
  simp only [not_forall] at h
  obtain ⟨p, hp, hlt⟩ := h
  obtain ⟨m, hm, hle⟩ := exists_first (List.ne_nil_of_mem hp)
  obtain ⟨e, hwait, htime⟩ := exists_event hm
  have hmp := hle p hp
  refine ⟨e, hwait, m, htime, hle, ?_⟩
  cases e with
  | wait t => exact absurd rfl (hwait t)
  | updateForwardingState => omega
  | updateGslIfBandwidth => omega
  | client i => omega

theorem RunInv.onTime (hforce : ∃ b, parseBoolean (getParamOrDefault "satellite_network_force_static" "false" u.sim.config) = .ok b)
    (hadv : AllAdvance u pings) (h : RunInv u pings s) : RunOnTime u pings s := by
  have hforwarding := h.forwarding.onTime fun hs => (hadv.updates hs).2
  have hbandwidth := h.bandwidth.onTime fun hs => (hadv.updates hs).2
  have hpings : List.Forall₂ (PingsOnTime u.sim.simulationEndTimeNs s.now) pings s.clients := by
    have hclients := h.clients
    rw [List.forall₂_iff_get] at hclients ⊢
    exact ⟨hclients.1, fun i hi hi' => (hclients.2 i hi hi').onTime (hadv.pings _ (List.get_mem _ _))⟩
  refine ⟨hforwarding, hbandwidth, hpings, fun x => ?_, fun e f he hf => ?_, or_iff_not_imp_left.2 exists_permitted⟩
  · have h₁ := hforwarding.count_le x
    have h₂ := hbandwidth.count_le x
    have h₃ := sum_counts_le hpings x
    unfold UpdateRun.executedAt
    omega
  · rcases h.step hforce hadv he with ⟨f', hf', hload⟩ | ⟨s', hs', -⟩
    · rw [hf] at hf'
      cases hf'
      exact hload
    · rw [hf] at hs'
      cases hs'

end OnTime

/-- The clients that the scheduler installs, if it is enabled. -/
def pingClients (pingmesh : Option PingmeshScheduler) : List PingClient := (pingmesh.map (·.apps)).getD []

/-- Their start times are `int64_t`. -/
theorem pingClients_range {b : Apps.BasicSimulation} {topology : Topology} {pingmesh : Option PingmeshScheduler}
    (h : pingmeshScheduler b topology = .ok pingmesh) : ∀ p ∈ pingClients pingmesh, p.startNs < 2 ^ 63 ∧
      -2 ^ 63 ≤ p.startNs := by
  obtain ⟨enabled, -, h⟩ := bind_ok h
  cases enabled with
  | false =>
    cases h
    nofun
  | true =>
    obtain ⟨intervalNs, -, h⟩ := bind_ok h
    obtain ⟨s, hs, h⟩ := bind_ok h
    cases h
    obtain ⟨_, inBetween, apps, -, -, -, hall, rfl⟩ := preparePingmesh_ok.1 hs
    intro p hp
    obtain ⟨x, -, hx⟩ := forall₂_mem_right hall p hp
    obtain ⟨app, happ, hx⟩ := bind_ok hx
    obtain ⟨_, -, hx⟩ := bind_ok hx
    cases hx
    obtain ⟨_, -, happ⟩ := bind_ok happ
    obtain ⟨_, -, happ⟩ := bind_ok happ
    obtain ⟨start, hstart, happ⟩ := bind_ok happ
    cases happ
    obtain ⟨hrange, rfl⟩ := int64_ok_iff.1 hstart
    exact ⟨hrange.2, hrange.1⟩

/-- In every run in which the intervals are not zero and no time after the last event passes the clock, all events are
on time. -/
theorem updates_onTime {net : Network M} {rates : DataRates D R} {b : Apps.BasicSimulation} {topology : Topology}
    {pingmesh : Option PingmeshScheduler} {s₀ s : UpdateRun R} (hpings : pingmeshScheduler b topology = .ok pingmesh)
    (hstart : startUpdates sim net rates (pingClients pingmesh) = .ok (u, s₀))
    (hadv : AllAdvance u (pingClients pingmesh))
    (h : ReachesRun u s₀ s) : RunOnTime u (pingClients pingmesh) s := by
  obtain ⟨hforce, h₀⟩ := startUpdates_inv (pingClients_range hpings) hstart hadv
  exact (h.inv hforce hadv h₀).onTime hforce hadv

/-! ## Two simulations -/

/-- A simulation of 1000 ns whose files are all empty. -/
def moving (intervalNs : String) : BasicSimulation where
  runDir := "run"
  config := [("satellite_network_routes_dir".toList, "routes".toList), ("dynamic_state_update_interval_ns".toList,
    intervalNs.toList),
    ("gsl_data_rate_megabit_per_s".toList, "10".toList)]
  simulationEndTimeNs := 1000
  file := fun _ => .lines []

/-- Whole numbers for the doubles. -/
def wholeDataRates : DataRates Nat Nat := ⟨parsePositiveInt64, fun a b => .ok (a * b)⟩

def movingUpdates (intervalNs : String) (n : Nat) : Updates End Nat Nat :=
  ⟨moving intervalNs, twoSatellites, wholeDataRates, n, 10⟩

/-- The simulation after some updates of the forwarding state at time 0. -/
def atStart (intervalNs updates : Nat) (clients : List RttClient) : UpdateRun Nat where
  now := 0
  forwarding := initialEmptyForwardingState 4
  gsl := fun _ => none
  forwardingEvent := some ⟨intervalNs, intervalNs⟩
  bandwidthEvent := some ⟨intervalNs, intervalNs⟩
  clients := clients
  forwardingUpdates := List.replicate updates ⟨0, 0⟩
  bandwidthUpdates := [⟨0, 0⟩]

theorem loadForwardingState_moving (intervalNs : String) (t : Int) (state : ForwardingState) :
    loadForwardingState (moving intervalNs) twoSatellites t state = .ok state := by
  have hdir : getParamOrFail "satellite_network_routes_dir" (moving intervalNs).config = .ok "routes".toList := rfl
  unfold loadForwardingState fstateLines
  rw [hdir]
  rfl

theorem loadGslIfBandwidth_moving (intervalNs : String) (t : Int) (gsl : GslRates Nat) :
    loadGslIfBandwidth wholeDataRates (moving intervalNs) twoSatellites 10 t gsl = .ok gsl := by
  have hdir : getParamOrFail "satellite_network_routes_dir" (moving intervalNs).config = .ok "routes".toList := rfl
  unfold loadGslIfBandwidth gslIfBandwidthLines
  rw [hdir]
  rfl

theorem startUpdates_moving {intervalNs : String} {n : Nat} {pings : List PingClient} {clients : List RttClient}
    (hn : getParamOrFail "dynamic_state_update_interval_ns" (moving intervalNs).config >>= parsePositiveInt64 = .ok n)
    (hplan : (planNextUpdate (moving intervalNs) n 0) = .ok (some n))
    (hsched : scheduleUpdate 0 n (some n) = .ok (some ⟨n, n⟩))
    (hpings : List.Forall₂ (fun p c => startClient p = .ok c) pings clients) :
    startUpdates (moving intervalNs) twoSatellites wholeDataRates pings =
      .ok (movingUpdates intervalNs n, atStart n 1 clients) := by
  have hclients : forEach (fun clients p => do
      let c ← startClient p
      .ok (clients ++ [c])) pings [] = .ok clients :=
    (forEach_read _ _ _ _ _).2 ⟨clients, hpings, by rw [foldl_collect, List.nil_append]⟩
  have hrate : getParamOrFail "gsl_data_rate_megabit_per_s" (moving intervalNs).config >>= wholeDataRates.parsePositiveDouble =
      .ok 10 := by
    change .ok "10".toList >>= parsePositiveInt64 = _
    decide +kernel
  unfold startUpdates
  simp only [hn, ok_bind, updateForwardingState_eq, loadForwardingState_moving, hplan, hsched, hrate,
    updateGslIfBandwidth_eq,
    loadGslIfBandwidth_moving, hclients]
  rfl

def pingedPair : Topology where
  nodes := [[0, 10], [0, 20]]
  isValidEndpoint i := 0 ≤ i ∧ i < 2
  endpoints := [0, 1]
  nodes_lt := by decide
  endpoints_lt := by decide
  endpoints_sorted := by decide
  valid_endpoint i hi _ := by
    simp only [List.length_cons, List.length_nil] at hi
    simp only [List.mem_cons, List.not_mem_nil, or_false]
    omega

def pinging : Apps.BasicSimulation :=
  { distributedEnabled := false, distributedNodeSystemIdAssignment := [], systemId := 0, simulationEndTimeNs := 1000
    simulationEndTimeNs_lt := by decide
    runDir := "run".toList
    config := [("enable_pingmesh_scheduler".toList, "true".toList), ("pingmesh_interval_ns".toList, "300".toList)]
    file := fun _ => .missing }

def pairClients : List PingClient := [⟨0, 20, 0, 1, 300, 0⟩, ⟨1, 10, 1, 0, 300, 0⟩]

theorem pingmeshScheduler_pair :
    pingmeshScheduler pinging pingedPair = .ok (some ⟨300, [(0, 1), (1, 0)], [0, 1], pairClients⟩) := by
  rfl

/-- The clients, the first of which has sent a ping or not. -/
def pairRtt (sent : Bool) : List RttClient :=
  [if sent then ⟨(UdpRttClient.initial.send 0).1, 300, .send, 300⟩ else ⟨.initial, 300, .startApplication, 0⟩,
   ⟨.initial, 300, .startApplication, 0⟩]

theorem advances_moving {first intervalNs : Nat} (hpos : 0 < intervalNs) (hlt : intervalNs < 2 ^ 62) :
    Advances first intervalNs 1000 := by
  refine ⟨hpos, fun k hk => ?_⟩
  rw [Nat.succ_mul]
  omega

theorem updates_onTime_pair :
    ∃ s, ReachesRun (movingUpdates "100" 100) (atStart 100 1 (pairRtt false)) s ∧ s.clients = pairRtt true ∧
      RunOnTime (movingUpdates "100" 100) pairClients s := by
  have hstart : startUpdates (moving "100") twoSatellites wholeDataRates pairClients =
      .ok (movingUpdates "100" 100, atStart 100 1 (pairRtt false)) :=
    startUpdates_moving (by decide +kernel) (by decide +kernel) (by decide +kernel) (.cons rfl (.cons rfl .nil))
  have hbegin : RttClient.run ⟨.initial, 300, .startApplication, 0⟩ = .ok ⟨.initial, 300, .send, 0⟩ := by decide +kernel
  have hsend : RttClient.run ⟨.initial, 300, .send, 0⟩ = .ok ⟨(UdpRttClient.initial.send 0).1, 300, .send, 300⟩ := by
    decide +kernel
  have hstarted : NextRun (movingUpdates "100" 100) (atStart 100 1 (pairRtt false))
      (atStart 100 1 [⟨.initial, 300, .send, 0⟩, ⟨.initial, 300, .startApplication, 0⟩]) := by
    refine ⟨.client 0, ⟨0, rfl, by decide, by decide⟩, ?_⟩
    change (RttClient.run ⟨.initial, 300, .startApplication, 0⟩ >>= fun c' => _) = _
    rw [hbegin]
    rfl
  have hsent : NextRun (movingUpdates "100" 100)
      (atStart 100 1 [⟨.initial, 300, .send, 0⟩, ⟨.initial, 300, .startApplication, 0⟩])
        (atStart 100 1 (pairRtt true)) := by
    refine ⟨.client 0, ⟨0, rfl, by decide, by decide⟩, ?_⟩
    change (RttClient.run ⟨.initial, 300, .send, 0⟩ >>= fun c' => _) = _
    rw [hsend]
    rfl
  have hreach : ReachesRun (movingUpdates "100" 100) (atStart 100 1 (pairRtt false)) (atStart 100 1 (pairRtt true)) :=
    .head hstarted (.single hsent)
  refine ⟨_, hreach, rfl, updates_onTime pingmeshScheduler_pair hstart ⟨fun _ => ⟨by decide, ?_⟩,
    fun p hp _ => ?_⟩ hreach⟩
  · exact advances_moving (by decide) (by decide)
  · rcases List.mem_pair.1 hp with rfl | rfl <;> exact advances_moving (by decide) (by decide)

/-- With the interval 0, which is accepted, the clock never leaves time 0. -/
theorem reachesRun_stuck : ∀ n, ReachesRun (movingUpdates "0" 0) (atStart 0 1 []) (atStart 0 (n + 1) [])
  | 0 => .refl
  | n + 1 => by
    have hpending : ∀ p ∈ (atStart 0 (n + 1) []).pending, 0 ≤ p := fun p _ => Nat.zero_le p
    have hend : (0 : Int) < (movingUpdates "0" 0).sim.simulationEndTimeNs := by decide
    refine (reachesRun_stuck n).tail ⟨.updateForwardingState, ⟨0, rfl, hpending, hend⟩, ?_⟩
    have hplan : (planNextUpdate (moving "0") 0 0 >>= scheduleUpdate 0 0) = .ok (some ⟨0, 0⟩) := by decide +kernel
    change updateForwarding (movingUpdates "0" 0) ⟨0, 0⟩ (atStart 0 (n + 1) []) = _
    rw [updateForwarding_eq]
    change loadForwardingState (moving "0") twoSatellites 0 (initialEmptyForwardingState 4) >>= (fun forwarding =>
      (planNextUpdate (moving "0") 0 0 >>= scheduleUpdate 0 0) >>= fun event => _) = _
    rw [loadForwardingState_moving, ok_bind, hplan, ok_bind]
    unfold atStart
    rw [@List.replicate_succ' (n + 1)]
    rfl

theorem updates_counterexample :
    ¬ ∀ (sim : BasicSimulation) (net : Network End) (rates : DataRates Nat Nat) (pings : List PingClient)
      (u : Updates End Nat Nat) (s₀ : UpdateRun Nat), startUpdates sim net rates pings = .ok (u, s₀) →
      ∀ x, ∃ bound, ∀ s, ReachesRun u s₀ s → s.executedAt x ≤ bound := by
  intro h
  have hstart : startUpdates (moving "0") twoSatellites wholeDataRates [] = .ok (movingUpdates "0" 0, atStart 0 1 []) :=
    startUpdates_moving (by decide +kernel) (by decide +kernel) (by decide +kernel) .nil
  obtain ⟨bound, hbound⟩ := h _ _ _ _ _ _ hstart 0
  have hcount := hbound _ (reachesRun_stuck bound)
  unfold UpdateRun.executedAt atStart at hcount
  rw [List.map_replicate, List.count_replicate_self] at hcount
  omega

end SatNet.Satellite
