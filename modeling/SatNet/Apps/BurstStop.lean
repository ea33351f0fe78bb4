/-
How `StopApplication` of `UdpBurstApplication` cancels: through the event ids that the application has stored. In every
state these are the ids of all its pending events, so a stopped application is silent.
-/
import SatNet.Apps.UdpBurst
import SatNet.Lib.EventIds
import Mathlib.Logic.Relation

namespace SatNet.Apps

open SatNet.Loop SatNet.Events

variable {ρ : Type}

/-! ## The application with its event ids -/

/-- The events that ns-3 has for an application: those of its bursts, and the stop. -/
inductive AppEvent where
  | burst (e : BurstEvent)
  | stopApplication
  deriving Repr, DecidableEq

/-- The application with its fields for event ids, where `none` is `EventId()`, and whether its socket calls
`HandleRead`; and the id that the simulator gives next. -/
structure BurstNode (ρ : Type) where
  sender : BurstSender ρ
  startNextBurstEvent : Option Nat
  outgoingBurstsEventId : List (Option Nat)
  recvCallback : Bool
  nextUid : Nat

abbrev BurstNodeSim (ρ : Type) := Sim (Issued AppEvent) (BurstNode ρ)

namespace BurstNode

/-- `Simulator::Schedule` with the id that it returns. -/
def scheduleWithId (delay : Int) (e : BurstEvent) (w : BurstNodeSim ρ) : Res (Nat × BurstNodeSim ρ) := do
  let id := w.state.nextUid
  let w ← schedule delay ⟨id, .burst e⟩ w
  .ok (id, { w with state := { w.state with nextUid := id + 1 } })

/-- `m_outgoing_bursts_event_id.at(idx) = id`. -/
def storeSendOut (idx id : Nat) (w : BurstNodeSim ρ) : Res (BurstNodeSim ρ) :=
  if idx < w.state.outgoingBurstsEventId.length then
    .ok { w with
      state := { w.state with outgoingBurstsEventId := w.state.outgoingBurstsEventId.set idx (some id) } }
  else .error (.outOfRange "vector::at")

def burstSendOut (packetGap : ρ → Res UInt64) (idx : Nat) (w : BurstNodeSim ρ) : Res (BurstNodeSim ρ) := do
  let (app, datagram) ← transmitFullPacket w.now idx w.state.sender.app
  let w := { w with state := { w.state with sender := ⟨app, w.state.sender.sent ++ [⟨w.now, idx, datagram⟩]⟩ } }
  let (info, _) ← index app.outgoingBursts idx
  let packetGapNs ← packetGap info.targetRate
  let hasNext ← info.hasNext w.now packetGapNs.toNat
  if hasNext then do
    let (id, w) ← scheduleWithId (toInt64 packetGapNs.toNat) (.burstSendOut idx) w
    storeSendOut idx id w
  else .ok w

/-- `m_startNextBurstEvent = Simulator::Schedule(delay, ..)`. -/
def scheduleStartNext (delay : Int) (w : BurstNodeSim ρ) : Res (BurstNodeSim ρ) := do
  let (id, w) ← scheduleWithId delay .startNextBurst w
  .ok { w with state := { w.state with startNextBurstEvent := some id } }

def setNextInternalBurstIdx (next : Nat) (w : BurstNodeSim ρ) : BurstNodeSim ρ :=
  { w with state := { w.state with
      sender := { w.state.sender with app := { w.state.sender.app with nextInternalBurstIdx := next } } } }

def startNextBurst (packetGap : ρ → Res UInt64) (w : BurstNodeSim ρ) : Res (BurstNodeSim ρ) :=
  let idx := w.state.sender.app.nextInternalBurstIdx
  match w.state.sender.app.outgoingBursts[idx]? with
  | none => .error noNextBurst
  | some (info, _) =>
    if info.startTimeNs ≠ w.now then .error noNextBurst
    else do
      let w ← burstSendOut packetGap idx w
      let next := w.state.sender.app.nextInternalBurstIdx + 1
      let w := setNextInternalBurstIdx next w
      match w.state.sender.app.outgoingBursts[next]? with
      | some (nextInfo, _) => scheduleStartNext (nextInfo.startTimeNs - w.now) w
      | none => .ok w

def startApplication (w : BurstNodeSim ρ) : Res (BurstNodeSim ρ) :=
  let w := { w with state := { w.state with
    sender := { w.state.sender with app := { w.state.sender.app with socket := true } }
    recvCallback := true } }
  match w.state.sender.app.outgoingBursts with
  | (first, _) :: _ => scheduleStartNext first.startTimeNs w
  | [] => .ok w

def stopApplication (w : BurstNodeSim ρ) : BurstNodeSim ρ :=
  if w.state.sender.app.socket then
    { w with
      agenda := cancelAll w.state.outgoingBurstsEventId (cancel w.state.startNextBurstEvent w.agenda)
      state := { w.state with recvCallback := false } }
  else w

/-- A packet comes to the socket, which tells the application of it if there is a callback. -/
def receive (idSeq : IdSeq) (w : BurstNodeSim ρ) : Res (BurstNodeSim ρ) :=
  if w.state.recvCallback then do
    let app ← handleBurstRead w.now idSeq w.state.sender.app
    .ok { w with state := { w.state with sender := { w.state.sender with app } } }
  else .ok w

def handle (packetGap : ρ → Res UInt64) : AppEvent → BurstNodeSim ρ → Res (BurstNodeSim ρ)
  | .burst .startApplication => startApplication
  | .burst .startNextBurst => startNextBurst packetGap
  | .burst (.burstSendOut idx) => burstSendOut packetGap idx
  | .stopApplication => fun w => .ok (stopApplication w)

/-! ## Runs -/

/-- The application that is started at time zero, and stopped at a time unless that is zero. -/
def initial (app : UdpBurstApplication ρ) (stopNs : Nat) : BurstNodeSim ρ where
  now := 0
  agenda := ⟨0, ⟨0, .burst .startApplication⟩⟩ :: if stopNs ≠ 0 then [⟨stopNs, ⟨1, .stopApplication⟩⟩] else []
  state :=
    { sender := ⟨app, []⟩
      startNextBurstEvent := none
      outgoingBurstsEventId := List.replicate app.outgoingBursts.length none
      recvCallback := false
      nextUid := 2 }

/-- What happens in a simulation: the next event of the application is taken, a packet comes, or others are busy, which
takes time and ids. -/
inductive Step (packetGap : ρ → Res UInt64) (w : BurstNodeSim ρ) : BurstNodeSim ρ → Prop
  | event {p : Pending (Issued AppEvent)} {l : List (Pending (Issued AppEvent))} {w' : BurstNodeSim ρ}
      (hp : w.agenda = p :: l) (h : handle packetGap p.event.event { w with now := p.time, agenda := l } = .ok w') :
      Step packetGap w w'
  | packet {idSeq : IdSeq} {w' : BurstNodeSim ρ} (h : receive idSeq w = .ok w') : Step packetGap w w'
  | others {t next : Nat} (ht : ∀ p ∈ w.agenda, t ≤ p.time) (hnow : w.now ≤ t) (hnext : w.state.nextUid ≤ next) :
      Step packetGap w { w with now := t, state := { w.state with nextUid := next } }

def Reaches (packetGap : ρ → Res UInt64) : BurstNodeSim ρ → BurstNodeSim ρ → Prop :=
  Relation.ReflTransGen (Step packetGap)

/-- The pending events of a kind. -/
def pending (e : AppEvent) (w : BurstNodeSim ρ) : List (Pending (Issued AppEvent)) :=
  w.agenda.filter fun p => p.event.event = e

/-! ## What an event does to the ids -/

variable {packetGap : ρ → Res UInt64} {w w' : BurstNodeSim ρ}

/-- An event is put on the agenda under the next id. -/
theorem scheduleWithId_ok {delay : Int} {e : BurstEvent} {id : Nat} (h : scheduleWithId delay e w = .ok (id, w')) :
    id = w.state.nextUid ∧ ∃ t, scheduledTime w.now delay = .ok t ∧
      w' = { w with
        agenda := enqueue ⟨t, ⟨w.state.nextUid, .burst e⟩⟩ w.agenda
        state := { w.state with nextUid := w.state.nextUid + 1 } } := by
  unfold scheduleWithId at h
  obtain ⟨w₁, h₁, h⟩ := bind_ok h
  rw [schedule_eq_scheduledTime] at h₁
  obtain ⟨t, ht, h₁⟩ := bind_ok h₁
  cases h₁
  cases h
  exact ⟨rfl, t, ht, rfl⟩

theorem transmitFullPacket_socket {now k : Nat} {app app' : UdpBurstApplication ρ} {d : Datagram}
    (h : transmitFullPacket now k app = .ok (app', d)) : app'.socket = true := by
  unfold transmitFullPacket at h
  obtain ⟨_, -, h⟩ := bind_ok h
  obtain ⟨_, -, h⟩ := bind_ok h
  obtain ⟨_, -, h⟩ := bind_ok h
  simp only at h
  split at h
  · rename_i hs
    cases h
    exact hs
  · cases h

/-- What a call of `BurstSendOut` does to the events: none is new, or one for the same burst, whose id is stored. -/
structure SendOutStep (packetGap : ρ → Res UInt64) (k : Nat) (w w' : BurstNodeSim ρ) : Prop where
  now : w'.now = w.now
  socket : w'.state.sender.app.socket = true
  next : w'.state.sender.app.nextInternalBurstIdx = w.state.sender.app.nextInternalBurstIdx
  bursts : w'.state.sender.app.outgoingBursts = w.state.sender.app.outgoingBursts
  startNext : w'.state.startNextBurstEvent = w.state.startNextBurstEvent
  events : (w'.agenda = w.agenda ∧ w'.state.nextUid = w.state.nextUid ∧
      w'.state.outgoingBurstsEventId = w.state.outgoingBurstsEventId) ∨
    ∃ t, w'.agenda = enqueue ⟨t, ⟨w.state.nextUid, .burst (.burstSendOut k)⟩⟩ w.agenda ∧
      w'.state.nextUid = w.state.nextUid + 1 ∧ k < w.state.outgoingBurstsEventId.length ∧
      w'.state.outgoingBurstsEventId = w.state.outgoingBurstsEventId.set k (some w.state.nextUid)

theorem burstSendOut_ok {k : Nat} (h : burstSendOut packetGap k w = .ok w') : SendOutStep packetGap k w w' := by
  unfold burstSendOut at h
  obtain ⟨⟨app, datagram⟩, htr, h⟩ := bind_ok h
  obtain ⟨⟨info, target⟩, hinfo, h⟩ := bind_ok h
  simp only at hinfo h
  obtain ⟨packetGapNs, -, h⟩ := bind_ok h
  obtain ⟨hasNext, hmore, h⟩ := bind_ok h
  have hsocket := transmitFullPacket_socket htr
  have htr' := transmitFullPacket_ok htr
  cases hasNext with
  | false =>
    cases h
    exact ⟨rfl, hsocket, htr'.next, htr'.bursts, rfl, .inl ⟨rfl, rfl, rfl⟩⟩
  | true =>
    rw [if_pos rfl] at h
    obtain ⟨⟨id, w₁⟩, hsched, h⟩ := bind_ok h
    obtain ⟨rfl, t, ht, rfl⟩ := scheduleWithId_ok hsched
    unfold storeSendOut at h
    simp only at h
    split at h
    · rename_i hlt
      cases h
      exact ⟨rfl, hsocket, htr'.next, htr'.bursts, rfl, .inr ⟨t, rfl, rfl, hlt, rfl⟩⟩
    · cases h

/-- The start of the next burst is put on the agenda, and its id is stored. -/
theorem scheduleStartNext_cases {delay : Int} (h : scheduleStartNext delay w = .ok w') :
    ∃ t, scheduledTime w.now delay = .ok t ∧ w' = { w with
      agenda := enqueue ⟨t, ⟨w.state.nextUid, .burst .startNextBurst⟩⟩ w.agenda
      state := { w.state with nextUid := w.state.nextUid + 1, startNextBurstEvent := some w.state.nextUid } } := by
  unfold scheduleStartNext at h
  obtain ⟨⟨id, w₁⟩, hsched, h⟩ := bind_ok h
  obtain ⟨rfl, t, htime, rfl⟩ := scheduleWithId_ok hsched
  cases h
  exact ⟨t, htime, rfl⟩

/-! ## The invariant -/

/-- The ids that the application has stored are those of its pending events. -/
structure Tracked (w : BurstNodeSim ρ) : Prop where
  fresh : Fresh w.state.nextUid w.agenda
  ordered : Ordered w.agenda
  sends : ∀ k, ∀ p ∈ w.agenda, p.event.event = .burst (.burstSendOut k) →
    w.state.outgoingBurstsEventId[k]? = some (some p.event.id)
  starts : ∀ p ∈ w.agenda, p.event.event = .burst .startNextBurst → w.state.startNextBurstEvent = some p.event.id
  stops : ∀ p ∈ w.agenda, ∀ q ∈ w.agenda, p.event.event = .stopApplication → q.event.event = .stopApplication → p = q

/-- The application was started: only bursts that have begun have a packet pending. -/
structure Started (w : BurstNodeSim ρ) : Prop where
  socket : w.state.sender.app.socket = true
  once : ∀ p ∈ w.agenda, p.event.event ≠ .burst .startApplication
  begun : ∀ k, ∀ p ∈ w.agenda, p.event.event = .burst (.burstSendOut k) → k < w.state.sender.app.nextInternalBurstIdx

/-- The start of the application comes first, and then at most its stop. -/
def Waiting (w : BurstNodeSim ρ) : Prop :=
  ∃ p l, w.agenda = p :: l ∧ p.event.event = .burst .startApplication ∧ ∀ q ∈ l, q.event.event = .stopApplication

/-- The application has no event, and will get none. -/
structure Silent (w : BurstNodeSim ρ) : Prop where
  agenda : w.agenda = []
  recvCallback : w.state.recvCallback = false

/-- The first event is taken off the agenda. -/
theorem Tracked.take {p : Pending (Issued AppEvent)} {l : List (Pending (Issued AppEvent))} (h : Tracked w)
    (hp : w.agenda = p :: l) : Tracked { w with now := p.time, agenda := l } := by
  have hmem : ∀ q ∈ l, q ∈ w.agenda := fun q hq => hp ▸ List.mem_cons_of_mem _ hq
  have hfresh := h.fresh
  have hordered := h.ordered
  rw [hp] at hfresh hordered
  exact ⟨hfresh.tail, (List.pairwise_cons.1 hordered).2, fun k q hq => h.sends k q (hmem q hq),
    fun q hq => h.starts q (hmem q hq), fun q hq r hr => h.stops q (hmem q hq) r (hmem r hr)⟩

/-- The event that is taken was the only one under its id. -/
theorem Tracked.not_mem_tail {p q : Pending (Issued AppEvent)} {l : List (Pending (Issued AppEvent))} (h : Tracked w)
    (hp : w.agenda = p :: l) (hq : q ∈ l) : q.event.id ≠ p.event.id := by
  have hfresh := h.fresh
  rw [hp] at hfresh
  exact hfresh.not_mem_tail hq

/-- A call of `BurstSendOut` for a burst that has nothing pending. -/
theorem SendOutStep.tracked {k : Nat} (h : SendOutStep packetGap k w w') (ht : Tracked w)
    (hoff : ∀ p ∈ w.agenda, p.event.event ≠ .burst (.burstSendOut k)) : Tracked w' := by
  rcases h.events with ⟨hagenda, huid, hids⟩ | ⟨t, hagenda, huid, hlt, hids⟩
  · refine ⟨?_, ?_, ?_, ?_, ?_⟩
    all_goals rw [hagenda]
    · rw [huid]
      exact ht.fresh
    · exact ht.ordered
    · rw [hids]
      exact ht.sends
    · rw [h.startNext]
      exact ht.starts
    · exact ht.stops
  · refine ⟨?_, ?_, fun j p hp he => ?_, fun p hp he => ?_, fun p hp q hq hpe hqe => ?_⟩
    · rw [hagenda, huid]
      exact ht.fresh.enqueue t _
    · rw [hagenda]
      exact enqueue_ordered _ ht.ordered
    · rw [hagenda, mem_enqueue] at hp
      rw [hids, List.getElem?_set]
      rcases hp with rfl | hp
      · cases he
        rw [if_pos rfl, if_pos hlt]
      · -- the other events are of other bursts
        rw [if_neg fun hkj : k = j => hoff p hp (by rw [he, hkj])]
        exact ht.sends j p hp he
    · rw [hagenda, mem_enqueue] at hp
      rw [h.startNext]
      rcases hp with rfl | hp
      · cases he
      · exact ht.starts p hp he
    · rw [hagenda, mem_enqueue] at hp hq
      rcases hp with rfl | hp
      · cases hpe
      · rcases hq with rfl | hq
        · cases hqe
        · exact ht.stops p hp q hq hpe hqe

/-- The bursts with a packet pending are those of before, and this one. -/
theorem SendOutStep.mem {k : Nat} (h : SendOutStep packetGap k w w') {p : Pending (Issued AppEvent)} (hp : p ∈ w'.agenda) :
    p ∈ w.agenda ∨ p.event.event = .burst (.burstSendOut k) := by
  rcases h.events with ⟨hagenda, -, -⟩ | ⟨t, hagenda, -, -, -⟩
  · exact .inl (hagenda ▸ hp)
  · rw [hagenda, mem_enqueue] at hp
    rcases hp with rfl | hp
    · exact .inr rfl
    · exact .inl hp

/-- With no start of the next burst pending, the stored id is that of the new one. -/
theorem scheduleStartNext_ok {delay : Int} (h : scheduleStartNext delay w = .ok w') (ht : Tracked w)
    (hoff : ∀ p ∈ w.agenda, p.event.event ≠ .burst .startNextBurst) : Tracked w' ∧
      w'.state.sender = w.state.sender ∧
      ∀ p ∈ w'.agenda, p ∈ w.agenda ∨ p.event.event = .burst .startNextBurst := by
  obtain ⟨t, htime, rfl⟩ := scheduleStartNext_cases h
  refine ⟨⟨ht.fresh.enqueue t _, enqueue_ordered _ ht.ordered, fun j p hp he => ?_, fun p hp he => ?_,
    fun p hp q hq hpe hqe => ?_⟩, rfl, fun p hp => ?_⟩
  all_goals simp only [mem_enqueue] at *
  · rcases hp with rfl | hp
    · cases he
    · exact ht.sends j p hp he
  · rcases hp with rfl | hp
    · rfl
    · exact absurd he (hoff p hp)
  · rcases hp with rfl | hp
    · cases hpe
    · rcases hq with rfl | hq
      · cases hqe
      · exact ht.stops p hp q hq hpe hqe
  · rcases hp with rfl | hp
    · exact .inr rfl
    · exact .inl hp

/-! ## What each event keeps -/

theorem started_of_waiting {p : Pending (Issued AppEvent)} {l : List (Pending (Issued AppEvent))} (ht : Tracked w)
    (hw : Waiting w) (hp : w.agenda = p :: l)
    (h : handle packetGap p.event.event { w with now := p.time, agenda := l } = .ok w') : Tracked w' ∧ Started w' := by
  obtain ⟨p', l', hp', hstart, hstop⟩ := hw
  obtain ⟨rfl, rfl⟩ := List.cons_eq_cons.1 (hp'.symm.trans hp)
  have htake := ht.take hp
  have hoff : ∀ q ∈ l', ∀ e, q.event.event ≠ .burst e := fun q hq e he => by
    rw [hstop q hq] at he
    cases he
  rw [hstart] at h
  unfold handle startApplication at h
  simp only at h
  split at h
  · obtain ⟨ht', hsender, hmem⟩ := scheduleStartNext_ok h
      ⟨htake.fresh, htake.ordered, htake.sends, htake.starts, htake.stops⟩ fun q hq => hoff q hq _
    refine ⟨ht', by rw [hsender], fun q hq he => ?_, fun k q hq he => ?_⟩
    all_goals
      rcases hmem q hq with hq | hq
      · exact absurd he (hoff q hq _)
      · rw [hq] at he
        cases he
  · cases h
    exact ⟨⟨htake.fresh, htake.ordered, htake.sends, htake.starts, htake.stops⟩, rfl, fun q hq => hoff q hq _,
      fun k q hq he => absurd he (hoff q hq _)⟩

/-- A packet of a burst, and the next one is pending instead. -/
theorem burstSendOut_started {p : Pending (Issued AppEvent)} {l : List (Pending (Issued AppEvent))} {k : Nat}
    (ht : Tracked w) (hs : Started w) (hp : w.agenda = p :: l) (he : p.event.event = .burst (.burstSendOut k))
    (h : burstSendOut packetGap k { w with now := p.time, agenda := l } = .ok w') : Tracked w' ∧ Started w' := by
  have hstep := burstSendOut_ok h
  have hmem : ∀ q ∈ l, q ∈ w.agenda := fun q hq => hp ▸ List.mem_cons_of_mem _ hq
  have hhead : p ∈ w.agenda := hp ▸ List.mem_cons_self ..
  refine ⟨hstep.tracked (ht.take hp) fun q hq hqe => ?_, hstep.socket, fun q hq => ?_, fun j q hq hqe => ?_⟩
  · -- another one of this burst would have its id
    have hid := (ht.sends k q (hmem q hq) hqe).symm.trans (ht.sends k p hhead he)
    exact ht.not_mem_tail hp hq (Option.some.inj (Option.some.inj hid))
  · rcases hstep.mem hq with hq | hq
    · exact hs.once q (hmem q hq)
    · rw [hq]
      exact fun he => by cases he
  · rw [hstep.next]
    rcases hstep.mem hq with hq | hq
    · exact hs.begun j q (hmem q hq) hqe
    · rw [hq] at hqe
      cases hqe
      exact hs.begun k p hhead he

/-- The first packet of a burst, and the start of the next one is pending instead. -/
theorem startNextBurst_started {p : Pending (Issued AppEvent)} {l : List (Pending (Issued AppEvent))}
    (ht : Tracked w) (hs : Started w) (hp : w.agenda = p :: l) (he : p.event.event = .burst .startNextBurst)
    (h : startNextBurst packetGap { w with now := p.time, agenda := l } = .ok w') : Tracked w' ∧ Started w' := by
  have hmem : ∀ q ∈ l, q ∈ w.agenda := fun q hq => hp ▸ List.mem_cons_of_mem _ hq
  have hhead : p ∈ w.agenda := hp ▸ List.mem_cons_self ..
  unfold startNextBurst at h
  simp only at h
  split at h
  · cases h
  · split at h
    · cases h
    · obtain ⟨w₁, h₁, h⟩ := bind_ok h
      have hstep := burstSendOut_ok h₁
      -- the burst that begins has nothing pending yet
      have ht₁ : Tracked w₁ := hstep.tracked (ht.take hp) fun q hq hqe =>
        absurd (hs.begun _ q (hmem q hq) hqe) (Nat.lt_irrefl _)
      have hmem₁ : ∀ q ∈ w₁.agenda, q.event.event ≠ .burst .startApplication ∧ q.event.event ≠ .burst .startNextBurst ∧
          ∀ k, q.event.event = .burst (.burstSendOut k) → k < w₁.state.sender.app.nextInternalBurstIdx + 1 := by
        intro q hq
        rw [hstep.next]
        rcases hstep.mem hq with hq | hq
        · refine ⟨hs.once q (hmem q hq), fun hqe => ?_, fun k hqe => ?_⟩
          · have hid := (ht.starts q (hmem q hq) hqe).symm.trans (ht.starts p hhead he)
            exact ht.not_mem_tail hp hq (Option.some.inj hid)
          · exact Nat.lt_succ_of_lt (hs.begun k q (hmem q hq) hqe)
        · rw [hq]
          refine ⟨fun he => (by cases he), fun he => (by cases he), fun k he => ?_⟩
          cases he
          exact Nat.lt_succ_self _
      split at h
      · obtain ⟨ht', hsender, hmem'⟩ := scheduleStartNext_ok h
          ⟨ht₁.fresh, ht₁.ordered, ht₁.sends, ht₁.starts, ht₁.stops⟩ fun q hq => (hmem₁ q hq).2.1
        refine ⟨ht', by rw [hsender]; exact hstep.socket, fun q hq => ?_, fun k q hq hqe => ?_⟩
        · rcases hmem' q hq with hq | hq
          · exact (hmem₁ q hq).1
          · rw [hq]
            exact fun he => by cases he
        · rw [hsender]
          rcases hmem' q hq with hq | hq
          · exact (hmem₁ q hq).2.2 k hqe
          · rw [hq] at hqe
            cases hqe
      · cases h
        exact ⟨⟨ht₁.fresh, ht₁.ordered, ht₁.sends, ht₁.starts, ht₁.stops⟩, hstep.socket, fun q hq => (hmem₁ q hq).1,
          fun k q hq => (hmem₁ q hq).2.2 k⟩

/-- The stop of a started application cancels all that is pending. -/
theorem stopApplication_silent {p : Pending (Issued AppEvent)} {l : List (Pending (Issued AppEvent))}
    (ht : Tracked w) (hs : Started w) (hp : w.agenda = p :: l) (he : p.event.event = .stopApplication) :
    Silent (stopApplication { w with now := p.time, agenda := l }) := by
  have hmem : ∀ q ∈ l, q ∈ w.agenda := fun q hq => hp ▸ List.mem_cons_of_mem _ hq
  have hhead : p ∈ w.agenda := hp ▸ List.mem_cons_self ..
  unfold stopApplication
  rw [if_pos hs.socket]
  refine ⟨List.eq_nil_iff_forall_not_mem.2 fun q hq => ?_, rfl⟩
  obtain ⟨hq, hall⟩ := mem_cancelAll.1 hq
  obtain ⟨hq, hnext⟩ := mem_cancel.1 hq
  cases hqe : q.event.event with
  | stopApplication => exact ht.not_mem_tail hp hq (ht.stops q (hmem q hq) p hhead hqe he ▸ rfl)
  | burst e =>
    cases e with
    | startApplication => exact hs.once q (hmem q hq) hqe
    | startNextBurst => exact hnext (ht.starts q (hmem q hq) hqe).symm
    | burstSendOut k => exact hall _ (List.mem_of_getElem? (ht.sends k q (hmem q hq) hqe)) rfl

/-! ## Runs -/

/-- The invariant of every run. -/
structure Inv (w : BurstNodeSim ρ) : Prop where
  tracked : Tracked w
  phase : Waiting w ∨ Started w

/-- Without events there is nothing to track. -/
theorem Silent.started (h : Silent w) (hsocket : w.state.sender.app.socket = true) : Tracked w ∧ Started w := by
  refine ⟨⟨⟨?_, ?_⟩, ?_, ?_, ?_, ?_⟩, hsocket, ?_, ?_⟩
  all_goals
    rw [h.agenda]
    simp [Ordered]

theorem inv_initial (app : UdpBurstApplication ρ) (stopNs : Nat) : Inv (initial app stopNs) := by
  have hw : Waiting (initial app stopNs) := by
    refine ⟨_, _, rfl, rfl, ?_⟩
    split <;> simp
  refine ⟨⟨⟨?_, ?_⟩, ?_, ?_, ?_, ?_⟩, .inl hw⟩
  all_goals
    simp only [initial]
    split <;> simp [Ordered]

/-- A packet changes no event. -/
theorem receive_ok {idSeq : IdSeq} (h : receive idSeq w = .ok w') :
    w'.agenda = w.agenda ∧ w'.state.nextUid = w.state.nextUid ∧
      w'.state.startNextBurstEvent = w.state.startNextBurstEvent ∧
      w'.state.outgoingBurstsEventId = w.state.outgoingBurstsEventId ∧
      w'.state.sender.app.socket = w.state.sender.app.socket ∧
      w'.state.sender.app.nextInternalBurstIdx = w.state.sender.app.nextInternalBurstIdx := by
  unfold receive at h
  split at h
  · obtain ⟨app, happ, h⟩ := bind_ok h
    cases h
    unfold handleBurstRead at happ
    split at happ
    · cases happ
    · cases happ
      exact ⟨rfl, rfl, rfl, rfl, rfl, rfl⟩
  · cases h
    exact ⟨rfl, rfl, rfl, rfl, rfl, rfl⟩

theorem inv_step (hi : Inv w) (h : Step packetGap w w') : Inv w' := by
  cases h with
  | @event p l _ hp h =>
    rcases hi.phase with hw | hs
    · obtain ⟨ht', hs'⟩ := started_of_waiting hi.tracked hw hp h
      exact ⟨ht', .inr hs'⟩
    · suffices hboth : Tracked w' ∧ Started w' from ⟨hboth.1, .inr hboth.2⟩
      cases he : p.event.event with
      | stopApplication =>
        rw [he] at h
        cases h
        refine (stopApplication_silent hi.tracked hs hp he).started ?_
        unfold stopApplication
        rw [if_pos hs.socket]
        exact hs.socket
      | burst e =>
        rw [he] at h
        cases e with
        | startApplication => exact absurd he (hs.once p (hp ▸ List.mem_cons_self ..))
        | startNextBurst => exact startNextBurst_started hi.tracked hs hp he h
        | burstSendOut k => exact burstSendOut_started hi.tracked hs hp he h
  | packet h =>
    obtain ⟨hagenda, huid, hstart, hids, hsocket, hnext⟩ := receive_ok h
    have ht := hi.tracked
    refine ⟨⟨by rw [hagenda, huid]; exact ht.fresh, by rw [hagenda]; exact ht.ordered, ?_, ?_, ?_⟩, ?_⟩
    · rw [hagenda, hids]
      exact ht.sends
    · rw [hagenda, hstart]
      exact ht.starts
    · rw [hagenda]
      exact ht.stops
    · rcases hi.phase with hw | hs
      · refine .inl ?_
        unfold Waiting
        rw [hagenda]
        exact hw
      · exact .inr ⟨by rw [hsocket]; exact hs.socket, by rw [hagenda]; exact hs.once,
          by rw [hagenda, hnext]; exact hs.begun⟩
  | others hto hnow hnext =>
    have ht := hi.tracked
    exact ⟨⟨ht.fresh.mono hnext, ht.ordered, ht.sends, ht.starts, ht.stops⟩,
      hi.phase.imp id fun hs => ⟨hs.socket, hs.once, hs.begun⟩⟩

theorem inv_reaches (hi : Inv w) (h : Reaches packetGap w w') : Inv w' := by
  induction h with
  | refl => exact hi
  | tail _ hstep ih => exact inv_step ih hstep

/-- Nothing happens to a silent application: it sends nothing and hears nothing. -/
theorem silent_reaches (hs : Silent w) (h : Reaches packetGap w w') :
    Silent w' ∧ w'.state.sender = w.state.sender := by
  induction h with
  | refl => exact ⟨hs, rfl⟩
  | @tail w₁ w₂ _ hstep ih =>
    obtain ⟨hs₁, hsender⟩ := ih
    cases hstep with
    | event hp h =>
      rw [hs₁.agenda] at hp
      cases hp
    | packet h =>
      unfold receive at h
      rw [hs₁.recvCallback] at h
      cases h
      exact ⟨hs₁, hsender⟩
    | others hto hnow hnext => exact ⟨⟨hs₁.agenda, hs₁.recvCallback⟩, hsender⟩

/-- Of every kind there is at most one event pending, the one whose id is stored. -/
theorem Inv.pending_sendOut (hi : Inv w) (k : Nat) : (pending (.burst (.burstSendOut k)) w).length ≤ 1 ∧
    ∀ p ∈ pending (.burst (.burstSendOut k)) w, w.state.outgoingBurstsEventId[k]? = some (some p.event.id) := by
  have hid : ∀ p ∈ w.agenda, decide (p.event.event = .burst (.burstSendOut k)) = true →
      w.state.outgoingBurstsEventId[k]? = some (some p.event.id) := fun p hp he =>
    hi.tracked.sends k p hp (of_decide_eq_true he)
  have hjoin : ∀ p ∈ w.agenda, decide (p.event.event = .burst (.burstSendOut k)) = true →
      some p.event.id = w.state.outgoingBurstsEventId[k]?.join := by
    intro p hp he
    rw [hid p hp he]
    rfl
  refine ⟨hi.tracked.fresh.length_le_one hjoin, ?_⟩
  · intro p hp
    obtain ⟨hp, he⟩ := List.mem_filter.1 hp
    exact hid p hp he

theorem Inv.pending_startNext (hi : Inv w) : (pending (.burst .startNextBurst) w).length ≤ 1 ∧
    ∀ p ∈ pending (.burst .startNextBurst) w, w.state.startNextBurstEvent = some p.event.id := by
  have hid : ∀ p ∈ w.agenda, decide (p.event.event = .burst .startNextBurst) = true →
      w.state.startNextBurstEvent = some p.event.id := fun p hp he => hi.tracked.starts p hp (of_decide_eq_true he)
  refine ⟨hi.tracked.fresh.length_le_one fun p hp he => (hid p hp he).symm, fun p hp => ?_⟩
  obtain ⟨hp, he⟩ := List.mem_filter.1 hp
  exact hid p hp he

/-- In every state that can be reached at most one packet of each burst and at most one start are pending, under the
stored ids, and after the stop nothing of the application happens any more. -/
theorem stopApplication_silences (packetGap : ρ → Res UInt64) (app : UdpBurstApplication ρ) (stopNs : Nat)
    (h : Reaches packetGap (initial app stopNs) w) :
    (∀ k, (pending (.burst (.burstSendOut k)) w).length ≤ 1 ∧
      ∀ p ∈ pending (.burst (.burstSendOut k)) w, w.state.outgoingBurstsEventId[k]? = some (some p.event.id)) ∧
    ((pending (.burst .startNextBurst) w).length ≤ 1 ∧
      ∀ p ∈ pending (.burst .startNextBurst) w, w.state.startNextBurstEvent = some p.event.id) ∧
    ∀ p l, w.agenda = p :: l → p.event.event = .stopApplication →
      ∀ w', Reaches packetGap (stopApplication { w with now := p.time, agenda := l }) w' →
        w'.agenda = [] ∧ w'.state.sender = w.state.sender := by
  have hi := inv_reaches (inv_initial app stopNs) h
  refine ⟨hi.pending_sendOut, hi.pending_startNext, fun p l hp he w' hw' => ?_⟩
  have hs : Started w := by
    refine hi.phase.resolve_left ?_
    -- the start comes before the stop
    rintro ⟨q, m, hq, hstart, -⟩
    obtain ⟨rfl, -⟩ := List.cons_eq_cons.1 (hq.symm.trans hp)
    rw [hstart] at he
    cases he
  obtain ⟨hsilent, hsender⟩ := silent_reaches (stopApplication_silent hi.tracked hs hp he) hw'
  refine ⟨hsilent.agenda, ?_⟩
  rw [hsender]
  unfold stopApplication
  rw [if_pos hs.socket]

/-- The loop of the simulator takes the events of the application one after the other. -/
theorem run_reaches {endNs fuel : Nat}
    (h : Events.run .diverges (fun e => handle packetGap e.event) endNs fuel w = .ok w') : Reaches packetGap w w' :=
  (run_keeps Fail.diverges _ endNs (Reaches packetGap w) (fun _ _ _ _ hr hp _ h => hr.tail (.event hp h)) .refl h).1

/-- A burst from 5 ns on and one from 10 ns on, of 100 ns each. -/
def twoBursts : UdpBurstApplication Unit :=
  { UdpBurstApplication.initial with
    outgoingBursts :=
      [(⟨0, 0, 1, (), 5, 100, [], []⟩, 0x0a000002), (⟨1, 0, 2, (), 10, 100, [], []⟩, 0x0a000003)]
    packetsSentCounter := [0, 0]
    outgoingPreciseLogging := [false, false] }

/-- With packets 10 ns apart both bursts have one pending when the application is stopped at 17 ns. -/
theorem stopApplication_silences_twoBursts : ∃ w,
    Events.run .diverges (fun e => handle (given fun _ => 10) e.event) 17 10 (initial twoBursts 17) = .ok w ∧
      (pending (.burst (.burstSendOut 0)) w).length = 1 ∧ (pending (.burst (.burstSendOut 1)) w).length = 1 ∧
      ∃ p l, w.agenda = p :: l ∧ p.event.event = .stopApplication ∧
        ∀ w', Reaches (given fun _ => 10) (stopApplication { w with now := p.time, agenda := l }) w' →
          w'.agenda = [] ∧ w'.state.sender = w.state.sender := by
  have hagenda : (do
      let w ← Events.run .diverges (fun e => handle (given fun _ => 10) e.event) 17 10 (initial twoBursts 17)
      .ok w.agenda : Res (List (Pending (Issued AppEvent)))) =
        .ok [⟨17, 1, .stopApplication⟩, ⟨20, 5, .burst (.burstSendOut 1)⟩, ⟨25, 6, .burst (.burstSendOut 0)⟩] := by
    decide +kernel
  obtain ⟨w, hrun, hw⟩ := bind_ok hagenda
  have hw := Except.ok.inj hw
  refine ⟨w, hrun, ?_, ?_, _, _, hw, rfl, ?_⟩
  · unfold pending
    rw [hw]
    rfl
  · unfold pending
    rw [hw]
    rfl
  · exact (stopApplication_silences _ twoBursts 17 (run_reaches hrun)).2.2 _ _ hw rfl

end BurstNode

end SatNet.Apps
