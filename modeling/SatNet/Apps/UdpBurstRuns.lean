/-
The packets of the bursts of a node: each burst sends its packets at its own times, whatever the other
bursts do, exactly if no burst is so slow that the time of its second packet leaves a `uint64_t`.
-/
import SatNet.Apps.UdpBurst
import SatNet.Lib.Count
import Mathlib.Algebra.Order.BigOperators.Group.List
import Mathlib.Algebra.Order.Field.Rat
import Mathlib.Tactic.Linarith
import Mathlib.Tactic.Ring

namespace SatNet.Apps

open SatNet.Loop SatNet.Events SatNet.Count

variable {ρ : Type} {gap : ρ → UInt64} {endNs nodeId : Nat} {app app' : UdpBurstApplication ρ}

/-! ## Registered bursts -/

/-- A registration of the scheduler. -/
inductive Registration (ρ : Type) where
  | outgoing (info : UdpBurstInfo ρ) (target : Address) (precise : Bool)
  | incoming (info : UdpBurstInfo ρ) (precise : Bool)

def register (nodeId : Nat) (app : UdpBurstApplication ρ) : Registration ρ → Res (UdpBurstApplication ρ)
  | .outgoing info target precise => registerOutgoingBurst nodeId info target precise app
  | .incoming info precise => registerIncomingBurst nodeId info precise app

/-- What the registrations leave of the sending side: the bursts in order, and nothing sent. -/
structure Registered (app : UdpBurstApplication ρ) : Prop where
  socket : app.socket = false
  counters : app.packetsSentCounter = List.replicate app.outgoingBursts.length 0
  logging : app.outgoingPreciseLogging.length = app.outgoingBursts.length
  next : app.nextInternalBurstIdx = 0
  ascending : (app.outgoingBursts.map fun b => b.1.startTimeNs).Pairwise (· ≤ ·)

theorem registered_initial : Registered (ρ := ρ) .initial := by
  constructor <;> simp [UdpBurstApplication.initial]

/-- The last burst starts last. -/
theorem Registered.le_of_not_startsBefore (hr : Registered app) {info : UdpBurstInfo ρ}
    (h : app.startsBefore info = false) : ∀ b ∈ app.outgoingBursts, b.1.startTimeNs ≤ info.startTimeNs := by
  intro b hb
  unfold UdpBurstApplication.startsBefore at h
  cases hlast : app.outgoingBursts.getLast? with
  | none =>
    rw [List.getLast?_eq_none_iff.1 hlast] at hb
    cases hb
  | some last =>
    rw [hlast] at h
    simp only [decide_eq_false_iff_not, Nat.not_lt] at h
    have hasc := hr.ascending
    rw [← List.dropLast_append_getLast? last hlast] at hasc hb
    simp only [List.map_append, List.map_cons, List.map_nil, List.pairwise_append] at hasc
    rcases List.mem_append.1 hb with hb | hb
    · exact le_trans (hasc.2.2 _ (List.mem_map_of_mem hb) _ (List.mem_singleton_self _)) h
    · rw [List.mem_singleton.1 hb]
      exact h

theorem register_registered {r : Registration ρ} (hr : Registered app) (h : register nodeId app r = .ok app') :
    Registered app' := by
  cases r with
  | incoming info precise =>
    simp only [register, registerIncomingBurst] at h
    split at h
    · cases h
    · cases h
      exact ⟨hr.socket, hr.counters, hr.logging, hr.next, hr.ascending⟩
  | outgoing info target precise =>
    simp only [register, registerOutgoingBurst] at h
    split at h
    · cases h
    · split at h
      · cases h
      · rename_i hbefore
        cases h
        have hle := hr.le_of_not_startsBefore (by simpa using hbefore)
        refine ⟨hr.socket, ?_, ?_, hr.next, ?_⟩
        · simp only [hr.counters, List.length_append, List.length_cons, List.length_nil, Nat.zero_add,
            List.replicate_succ']
        · simp only [List.length_append, List.length_cons, List.length_nil, hr.logging]
        · simp only [List.map_append, List.map_cons, List.map_nil, List.pairwise_append, List.pairwise_singleton,
            List.mem_singleton, true_and, List.mem_map]
          refine ⟨hr.ascending, ?_⟩
          rintro _ ⟨b, hb, rfl⟩ _ rfl
          exact hle b hb

theorem registered_of_forEach {regs : List (Registration ρ)}
    (h : forEach (register nodeId) regs .initial = .ok app) : Registered app :=
  forEach_pre (register nodeId) (fun _ app => Registered app) (fun _ _ _ _ hr hb => register_registered hr hb)
    regs [] .initial app registered_initial h

/-! ## One packet -/

/-- A burst as it was registered, with the address it is sent to. -/
abbrev Outgoing (ρ : Type) := UdpBurstInfo ρ × Address

/-- The packet gap of a burst in nanoseconds. -/
def gapNs (gap : ρ → UInt64) (b : Outgoing ρ) : Nat := (gap b.1.targetRate).toNat

/-- Packet `i` of the burst registered at place `k`. -/
def packetAt (gap : ρ → UInt64) (b : Outgoing ρ) (k i : Nat) : SentPacket :=
  ⟨b.1.startTimeNs + i * gapNs gap b, k, ⟨⟨b.1.udpBurstId, i⟩, b.2⟩⟩

/-- Packet `i` is to be sent: the first one always, another one while the burst lasts, both before the end. -/
def DueAt (gap : ρ → UInt64) (endNs : Nat) (b : Outgoing ρ) (i : Nat) : Prop :=
  (i = 0 ∨ i * gapNs gap b < b.1.durationNs) ∧ b.1.startTimeNs + i * gapNs gap b < endNs

/-- How many packets the burst at place `k` has sent. -/
def UdpBurstApplication.count (app : UdpBurstApplication ρ) (k : Nat) : Nat := app.packetsSentCounter.getD k 0

/-- The application has started with these bursts. -/
structure Running (bs : List (Outgoing ρ)) (app : UdpBurstApplication ρ) : Prop where
  bursts : app.outgoingBursts = bs
  counters : app.packetsSentCounter.length = bs.length
  logging : app.outgoingPreciseLogging.length = bs.length
  socket : app.socket = true

/-- What `w'` is after the burst at place `k` has sent a packet. -/
structure OneSent (gap : ρ → UInt64) (bs : List (Outgoing ρ)) (k : Nat) (b : Outgoing ρ) (w w' : BurstSim ρ) : Prop where
  now : w'.now = w.now
  running : Running bs w'.state.app
  next : w'.state.app.nextInternalBurstIdx = w.state.app.nextInternalBurstIdx
  counters : w'.state.app.packetsSentCounter = w.state.app.packetsSentCounter.set k (w.state.app.count k + 1)
  sent : w'.state.sent = w.state.sent ++ [packetAt gap b k (w.state.app.count k)]
  agenda : w'.agenda =
    if (w.state.app.count k + 1) * gapNs gap b < b.1.durationNs then
      enqueue ⟨b.1.startTimeNs + (w.state.app.count k + 1) * gapNs gap b, .burstSendOut k⟩ w.agenda
    else w.agenda

theorem lt_of_getElem?_eq_some {α : Type} {l : List α} {k : Nat} {x : α} (h : l[k]? = some x) : k < l.length :=
  (List.getElem?_eq_some_iff.1 h).1

/-- `TransmitFullPacket` of a running application sends the next packet of the burst, and counts it. -/
theorem transmitFullPacket_eq {bs : List (Outgoing ρ)} (now : Nat) {k : Nat} {b : Outgoing ρ} (hr : Running bs app)
    (hb : bs[k]? = some b) : ∃ app', transmitFullPacket now k app = .ok (app', ⟨⟨b.1.udpBurstId, app.count k⟩, b.2⟩) ∧
      Running bs app' ∧ app'.nextInternalBurstIdx = app.nextInternalBurstIdx ∧
      app'.packetsSentCounter = app.packetsSentCounter.set k (app.count k + 1) := by
  have hk := lt_of_getElem?_eq_some hb
  have hseq : app.packetsSentCounter[k]? = some (app.count k) := by
    rw [List.getElem?_eq_getElem (by rw [hr.counters]; exact hk)]
    simp [UdpBurstApplication.count, hr.counters, hk]
  have hlog : k < app.outgoingPreciseLogging.length := by rw [hr.logging]; exact hk
  unfold transmitFullPacket
  simp only [index_ok.2 (show app.outgoingBursts[k]? = some b by rw [hr.bursts]; exact hb), index_ok.2 hseq,
    index_lt hlog, ok_bind, hr.socket, if_true]
  exact ⟨_, rfl, ⟨hr.bursts, by simpa using hr.counters, hr.logging, rfl⟩, rfl, rfl⟩

/-- Where no time leaves a `uint64_t`, the code asks whether the burst lasts until the next packet. -/
theorem hasNext_eq {info : UdpBurstInfo ρ} {now g : Nat} (hstop : info.startTimeNs + info.durationNs < 2 ^ 63)
    (hnow : now + g < 2 ^ 64) :
    info.hasNext now g = .ok (decide (now + g < info.startTimeNs + info.durationNs)) := by
  have h₁ := toUInt64_eq hnow
  have h₂ := toUInt64_eq (x := info.startTimeNs + info.durationNs) (by omega)
  push_cast at h₁ h₂
  unfold UdpBurstInfo.hasNext
  rw [int64_eq (by omega) (by omega), ok_bind, h₁, h₂]

/-- A burst that sends at its time schedules its next packet exactly if the burst lasts until then. -/
theorem burstSendOut_eq {bs : List (Outgoing ρ)} {k : Nat} {b : Outgoing ρ} {w : BurstSim ρ}
    (hr : Running bs w.state.app) (hb : bs[k]? = some b)
    (hnow : w.now = b.1.startTimeNs + w.state.app.count k * gapNs gap b)
    (hlast : w.state.app.count k = 0 ∨ w.state.app.count k * gapNs gap b < b.1.durationNs)
    (hstop : b.1.startTimeNs + b.1.durationNs < 2 ^ 63) (hwrap : b.1.startTimeNs + gapNs gap b < 2 ^ 64) :
    ∃ w', burstSendOut (given gap) k w = .ok w' ∧ OneSent gap bs k b w w' := by
  obtain ⟨app', htr, hr', hnext, hcnt⟩ := transmitFullPacket_eq w.now hr hb
  have hmul : (w.state.app.count k + 1) * gapNs gap b = w.state.app.count k * gapNs gap b + gapNs gap b :=
    Nat.succ_mul ..
  -- the second packet leaves no `uint64_t` by assumption, a later one not before the burst is over
  have hnowrap : w.now + gapNs gap b < 2 ^ 64 := by
    rcases Nat.eq_zero_or_pos (w.state.app.count k) with h0 | hpos
    · rw [hnow, h0, Nat.zero_mul]
      exact hwrap
    · have := Nat.le_mul_of_pos_left (gapNs gap b) hpos
      omega
  have hmore : b.1.hasNext w.now (gap b.1.targetRate).toNat =
      .ok (decide ((w.state.app.count k + 1) * gapNs gap b < b.1.durationNs)) := by
    rw [show (gap b.1.targetRate).toNat = gapNs gap b from rfl, hasNext_eq hstop hnowrap, hnow, hmul]
    congr 2
    rw [eq_iff_iff]
    omega
  have hpacket : (⟨w.now, k, ⟨⟨b.1.udpBurstId, w.state.app.count k⟩, b.2⟩⟩ : SentPacket) =
      packetAt gap b k (w.state.app.count k) := by
    rw [hnow]
    rfl
  unfold burstSendOut
  simp only [htr, ok_bind, index_ok.2 (show app'.outgoingBursts[k]? = some b by rw [hr'.bursts]; exact hb), given,
    hmore, decide_eq_true_eq]
  split
  · rename_i hlasts
    have hg : toInt64 (gap b.1.targetRate).toNat = gapNs gap b := by
      unfold gapNs at hmul hlasts ⊢
      exact toInt64_eq (by omega) (by omega)
    rw [hg, schedule_eq (t := b.1.startTimeNs + (w.state.app.count k + 1) * gapNs gap b) (by simp only; omega)
      (by simp only; omega) (by omega)]
    exact ⟨_, rfl, rfl, hr', hnext, hcnt, by rw [hpacket], by rw [if_pos hlasts]⟩
  · rename_i hlasts
    exact ⟨_, rfl, rfl, hr', hnext, hcnt, by rw [hpacket], by rw [if_neg hlasts]⟩

/-! ## The invariant of a run -/

/-- What is asked of the bursts of a node. -/
structure Sendable (gap : ρ → UInt64) (endNs : Nat) (bs : List (Outgoing ρ)) : Prop where
  ascending : (bs.map fun b => b.1.startTimeNs).Pairwise (· ≤ ·)
  start_lt : ∀ b ∈ bs, b.1.startTimeNs < endNs
  stop_lt : ∀ b ∈ bs, b.1.startTimeNs + b.1.durationNs < 2 ^ 63
  gap_pos : ∀ b ∈ bs, 1 ≤ gapNs gap b
  no_wrap : ∀ b ∈ bs, b.1.startTimeNs + gapNs gap b < 2 ^ 64

/-- Of the burst at place `k` the packets counted were given to the socket, each when it was due. -/
structure SentSoFar (gap : ρ → UInt64) (endNs k : Nat) (b : Outgoing ρ) (s : BurstSender ρ) : Prop where
  log : s.sent.filter (fun p => p.internalBurstIdx = k) = (List.range (s.app.count k)).map (packetAt gap b k)
  due : ∀ i < s.app.count k, DueAt gap endNs b i

/-- The burst at place `k` has sent a packet, and its next one is due at `t`. -/
def SendPending (gap : ρ → UInt64) (bs : List (Outgoing ρ)) (app : UdpBurstApplication ρ) (k t : Nat) : Prop :=
  ∃ b, bs[k]? = some b ∧ 1 ≤ app.count k ∧ t = b.1.startTimeNs + app.count k * gapNs gap b ∧
    app.count k * gapNs gap b < b.1.durationNs

/-- The start of the next burst is due at `t`. -/
def StartPending (bs : List (Outgoing ρ)) (app : UdpBurstApplication ρ) (t : Nat) : Prop :=
  ∃ b, bs[app.nextInternalBurstIdx]? = some b ∧ t = b.1.startTimeNs

/-- What does not depend on which event was taken off the agenda. -/
structure Steady (gap : ρ → UInt64) (endNs : Nat) (bs : List (Outgoing ρ)) (w : BurstSim ρ) : Prop where
  running : Running bs w.state.app
  once : Once w.agenda
  ordered : Ordered w.agenda
  started : ∀ t, ⟨t, .startApplication⟩ ∉ w.agenda
  bursts : ∀ k b, bs[k]? = some b → SentSoFar gap endNs k b w.state

/-- The first event is taken off the agenda. -/
theorem Steady.tail {bs : List (Outgoing ρ)} {w : BurstSim ρ} {p : Pending BurstEvent} {l : List (Pending BurstEvent)}
    (h : Steady gap endNs bs w) (hp : w.agenda = p :: l) (t : Nat) :
    Steady gap endNs bs { w with now := t, agenda := l } :=
  { h with
    once := (hp ▸ h.once).tail
    ordered := (List.pairwise_cons.1 (hp ▸ h.ordered)).2
    started := fun t ht => h.started t (by rw [hp]; exact List.mem_cons_of_mem _ ht) }

/-- Between two events: the agenda is the start of the next burst and the next packet of each burst that
has started and lasts. -/
structure Sending (gap : ρ → UInt64) (endNs : Nat) (bs : List (Outgoing ρ)) (w : BurstSim ρ) : Prop
    extends Steady gap endNs bs w where
  next : ∀ t, ⟨t, .startNextBurst⟩ ∈ w.agenda ↔ StartPending bs w.state.app t
  sends : ∀ t k, ⟨t, .burstSendOut k⟩ ∈ w.agenda ↔ SendPending gap bs w.state.app k t
  begun : ∀ k < bs.length, k < w.state.app.nextInternalBurstIdx ↔ 1 ≤ w.state.app.count k

theorem OneSent.count {bs : List (Outgoing ρ)} {k : Nat} {b : Outgoing ρ} {w w' : BurstSim ρ}
    (h : OneSent gap bs k b w w') (hr : Running bs w.state.app) (hk : k < bs.length) (j : Nat) :
    w'.state.app.count j = if j = k then w.state.app.count k + 1 else w.state.app.count j := by
  have hlen : k < w.state.app.packetsSentCounter.length := by rw [hr.counters]; exact hk
  show w'.state.app.packetsSentCounter.getD j 0 = _
  rw [h.counters, List.getD_eq_getElem?_getD, List.getElem?_set]
  by_cases hj : j = k
  · subst hj
    simp [hlen]
  · rw [if_neg fun he => hj he.symm, if_neg hj]
    simp [UdpBurstApplication.count]

/-- One packet more of one burst, sent when it is due, disturbs no other burst. -/
theorem OneSent.steady {bs : List (Outgoing ρ)} {k : Nat} {b : Outgoing ρ} {w w' : BurstSim ρ}
    (h : OneSent gap bs k b w w') (hs : Steady gap endNs bs w) (hb : bs[k]? = some b)
    (hoff : ∀ t, ⟨t, .burstSendOut k⟩ ∉ w.agenda) (hdue : DueAt gap endNs b (w.state.app.count k)) :
    Steady gap endNs bs w' := by
  have hcount := h.count hs.running (lt_of_getElem?_eq_some hb)
  refine ⟨h.running, ?_, ?_, ?_, ?_⟩
  · rw [h.agenda]
    split
    · refine enqueue_once hs.once ?_
      rintro ⟨t, e⟩ hq he
      cases he
      exact hoff t hq
    · exact hs.once
  · rw [h.agenda]
    split
    · exact enqueue_ordered _ hs.ordered
    · exact hs.ordered
  · intro t
    rw [h.agenda]
    split
    · simp [hs.started t]
    · exact hs.started t
  · intro j b' hb'
    by_cases hj : j = k
    · subst hj
      rw [hb] at hb'
      cases hb'
      have hc : w'.state.app.count j = w.state.app.count j + 1 := by rw [hcount, if_pos rfl]
      refine ⟨?_, ?_⟩
      · rw [h.sent, hc, List.filter_append, (hs.bursts j b hb).log, List.range_succ, List.map_append]
        simp [packetAt]
      · intro i hi
        rw [hc] at hi
        rcases Nat.lt_succ_iff_lt_or_eq.1 hi with hi | rfl
        · exact (hs.bursts j b hb).due i hi
        · exact hdue
    · have hc : w'.state.app.count j = w.state.app.count j := by rw [hcount, if_neg hj]
      refine ⟨?_, ?_⟩
      · rw [h.sent, hc, List.filter_append, (hs.bursts j b' hb').log]
        simp [packetAt, show ¬ k = j from fun he => hj he.symm]
      · rw [hc]
        exact (hs.bursts j b' hb').due

/-- After a packet of the burst at place `k`, which had none pending: what is pending of all bursts. -/
theorem OneSent.sends {bs : List (Outgoing ρ)} {k : Nat} {b : Outgoing ρ} {w w' : BurstSim ρ}
    (h : OneSent gap bs k b w w') (hr : Running bs w.state.app) (hb : bs[k]? = some b)
    (hsends : ∀ t j, ⟨t, .burstSendOut j⟩ ∈ w.agenda ↔ j ≠ k ∧ SendPending gap bs w.state.app j t) (t j : Nat) :
    ⟨t, .burstSendOut j⟩ ∈ w'.agenda ↔ SendPending gap bs w'.state.app j t := by
  have hcount := h.count hr (lt_of_getElem?_eq_some hb)
  have hmem : ⟨t, BurstEvent.burstSendOut j⟩ ∈ w'.agenda ↔ ⟨t, .burstSendOut j⟩ ∈ w.agenda ∨
      j = k ∧ t = b.1.startTimeNs + (w.state.app.count k + 1) * gapNs gap b ∧
        (w.state.app.count k + 1) * gapNs gap b < b.1.durationNs := by
    rw [h.agenda]
    split
    · rename_i hlasts
      simp only [mem_enqueue, Pending.mk.injEq, BurstEvent.burstSendOut.injEq, hlasts]
      tauto
    · rename_i hlasts
      simp [hlasts]
  rw [hmem, hsends]
  unfold SendPending
  by_cases hj : j = k
  · subst hj
    simp [hcount, hb]
  · simp [hcount, hj]

/-! ## Each event keeps it -/

theorem SentSoFar.le {k : Nat} {b : Outgoing ρ} {s : BurstSender ρ} (h : SentSoFar gap endNs k b s)
    (hg : 1 ≤ gapNs gap b) : s.app.count k ≤ endNs := by
  rcases Nat.eq_zero_or_pos (s.app.count k) with h0 | hpos
  · omega
  · have hdue := (h.due (s.app.count k - 1) (by omega)).2
    have := Nat.le_mul_of_pos_right (s.app.count k - 1) hg
    omega

/-- A packet that is due before the end is sent, and the next one of its burst is pending if there is one. -/
theorem Sending.burstSendOut {bs : List (Outgoing ρ)} {w : BurstSim ρ} {l : List (Pending BurstEvent)} {t k : Nat}
    (hb : Sendable gap endNs bs) (hw : Sending gap endNs bs w) (hp : w.agenda = ⟨t, .burstSendOut k⟩ :: l)
    (ht : t < endNs) :
    ∃ w', Apps.burstSendOut (given gap) k { w with now := t, agenda := l } = .ok w' ∧ Sending gap endNs bs w' ∧
      ∃ b, bs[k]? = some b ∧ OneSent gap bs k b { w with now := t, agenda := l } w' := by
  have honce : Once (⟨t, .burstSendOut k⟩ :: l) := by rw [← hp]; exact hw.once
  have htail : ∀ q, q ∈ l ↔ q ∈ w.agenda ∧ q.event ≠ .burstSendOut k := by
    intro q
    rw [hp]
    exact honce.mem_tail
  obtain ⟨b, hbk, hpos, rfl, hlasts⟩ := (hw.sends t k).1 (by rw [hp]; exact List.mem_cons_self ..)
  have hmem := List.mem_of_getElem? hbk
  obtain ⟨w', hrun, hone⟩ := burstSendOut_eq
    (w := { w with now := b.1.startTimeNs + w.state.app.count k * gapNs gap b, agenda := l })
    hw.running hbk rfl (.inr hlasts) (hb.stop_lt b hmem) (hb.no_wrap b hmem)
  have hsteady := hw.toSteady.tail hp (b.1.startTimeNs + w.state.app.count k * gapNs gap b)
  have hoff : ∀ t, ⟨t, .burstSendOut k⟩ ∉ l := fun t h => ((htail _).1 h).2 rfl
  have hcount := hone.count hw.running (lt_of_getElem?_eq_some hbk)
  refine ⟨w', hrun, ⟨hone.steady hsteady hbk hoff ⟨.inr hlasts, ht⟩, ?_, ?_, ?_⟩, b, hbk, hone⟩
  · intro t
    have hsame : ⟨t, BurstEvent.startNextBurst⟩ ∈ w'.agenda ↔ ⟨t, .startNextBurst⟩ ∈ w.agenda := by
      rw [hone.agenda]
      split <;> simp [htail]
    rw [hsame, hw.next]
    unfold StartPending
    rw [hone.next]
  · refine hone.sends hw.running hbk fun t j => ?_
    rw [htail, hw.sends]
    simp [and_comm]
  · intro j hj
    rw [hone.next, hcount]
    simp only
    rw [hw.begun j hj]
    split
    · rename_i he
      subst he
      omega
    · rfl

theorem Running.counter {bs : List (Outgoing ρ)} {k : Nat} (hr : Running bs app) (hk : k < bs.length) :
    app.packetsSentCounter[k]? = some (app.count k) := by
  rw [List.getElem?_eq_getElem (by rw [hr.counters]; exact hk)]
  simp [UdpBurstApplication.count, hr.counters, hk]

/-- The first packet of a burst that starts: no other start is pending, and the burst counts as begun. -/
structure FirstSent (gap : ρ → UInt64) (endNs : Nat) (bs : List (Outgoing ρ)) (k : Nat) (b : Outgoing ρ)
    (w w' : BurstSim ρ) : Prop where
  one : OneSent gap bs k b w w'
  steady : Steady gap endNs bs w'
  none : ∀ t, ⟨t, .startNextBurst⟩ ∉ w'.agenda
  sends : ∀ t j, ⟨t, .burstSendOut j⟩ ∈ w'.agenda ↔ SendPending gap bs w'.state.app j t
  begun : ∀ j < bs.length, j < k + 1 ↔ 1 ≤ w'.state.app.count j

theorem Sending.firstPacket {bs : List (Outgoing ρ)} {w : BurstSim ρ} {l : List (Pending BurstEvent)} {t : Nat}
    (hb : Sendable gap endNs bs) (hw : Sending gap endNs bs w) (hp : w.agenda = ⟨t, .startNextBurst⟩ :: l)
    (ht : t < endNs) :
    ∃ b w', bs[w.state.app.nextInternalBurstIdx]? = some b ∧ t = b.1.startTimeNs ∧
      Apps.burstSendOut (given gap) w.state.app.nextInternalBurstIdx { w with now := t, agenda := l } = .ok w' ∧
      FirstSent gap endNs bs w.state.app.nextInternalBurstIdx b { w with now := t, agenda := l } w' := by
  have honce : Once (⟨t, .startNextBurst⟩ :: l) := by rw [← hp]; exact hw.once
  have htail : ∀ q, q ∈ l ↔ q ∈ w.agenda ∧ q.event ≠ .startNextBurst := by
    intro q
    rw [hp]
    exact honce.mem_tail
  obtain ⟨b, hbk, rfl⟩ := (hw.next t).1 (by rw [hp]; exact List.mem_cons_self ..)
  have hmem := List.mem_of_getElem? hbk
  have hk := lt_of_getElem?_eq_some hbk
  -- the burst has not begun, so nothing of it was sent
  have hzero : w.state.app.count w.state.app.nextInternalBurstIdx = 0 := by
    have := hw.begun _ hk
    omega
  obtain ⟨w₁, hrun, hone⟩ := burstSendOut_eq (w := { w with now := b.1.startTimeNs, agenda := l })
    hw.running hbk (by simp only; rw [hzero]; omega) (.inl hzero) (hb.stop_lt b hmem) (hb.no_wrap b hmem)
  have hoff : ∀ t, ⟨t, .burstSendOut w.state.app.nextInternalBurstIdx⟩ ∉ l := by
    intro t h
    obtain ⟨_, -, hpos, -⟩ := (hw.sends _ _).1 ((htail _).1 h).1
    omega
  have hdue : DueAt gap endNs b (w.state.app.count w.state.app.nextInternalBurstIdx) := by
    rw [hzero]
    exact ⟨.inl rfl, by rw [Nat.zero_mul]; exact ht⟩
  have hcount := hone.count hw.running hk
  refine ⟨b, w₁, hbk, rfl, hrun, hone, hone.steady (hw.toSteady.tail hp _) hbk hoff hdue, ?_, ?_, ?_⟩
  · intro t
    rw [hone.agenda]
    split <;> simp [htail]
  · refine hone.sends hw.running hbk fun t j => ?_
    rw [htail, hw.sends]
    constructor
    · rintro ⟨h, -⟩
      refine ⟨?_, h⟩
      rintro rfl
      obtain ⟨_, -, hpos, -⟩ := h
      omega
    · rintro ⟨-, h⟩
      exact ⟨h, by simp⟩
  · intro j hj
    rw [hcount]
    split
    · omega
    · have := hw.begun j hj
      simp only
      omega

/-- The start of a burst sends its first packet, and puts the start of the burst after it on the agenda. -/
theorem Sending.startNextBurst {bs : List (Outgoing ρ)} {w : BurstSim ρ} {l : List (Pending BurstEvent)} {t : Nat}
    (hb : Sendable gap endNs bs) (hw : Sending gap endNs bs w) (hp : w.agenda = ⟨t, .startNextBurst⟩ :: l)
    (ht : t < endNs) :
    ∃ w', Apps.startNextBurst (given gap) { w with now := t, agenda := l } = .ok w' ∧ Sending gap endNs bs w' ∧
      ∃ k < bs.length, w'.state.app.packetsSentCounter = w.state.app.packetsSentCounter.set k (w.state.app.count k + 1) := by
  obtain ⟨b, w₁, hbk, rfl, hrun, hone, hs₁, hnone, hsends, hbegun⟩ := hw.firstPacket hb hp ht
  have hk := lt_of_getElem?_eq_some hbk
  have hnow : w₁.now = b.1.startTimeNs := hone.now
  have hnext : w₁.state.app.nextInternalBurstIdx = w.state.app.nextInternalBurstIdx := hone.next
  unfold Apps.startNextBurst
  simp only [hw.running.bursts, hbk, ne_eq, not_true_eq_false, if_false, hrun, ok_bind, hone.running.bursts, hnext]
  cases hlater : bs[w.state.app.nextInternalBurstIdx + 1]? with
  | none =>
    refine ⟨_, rfl, ⟨⟨?_, hs₁.once, hs₁.ordered, hs₁.started, ?_⟩, ?_, hsends, hbegun⟩, _, hk, hone.counters⟩
    · exact ⟨rfl, hs₁.running.counters, hs₁.running.logging, hs₁.running.socket⟩
    · exact fun j b' hb' => ⟨(hs₁.bursts j b' hb').log, (hs₁.bursts j b' hb').due⟩
    · intro t
      simp [hnone t, StartPending, hlater]
  | some b' =>
    have hle : b.1.startTimeNs ≤ b'.1.startTimeNs := by
      obtain ⟨hl', rfl⟩ := List.getElem?_eq_some_iff.1 hlater
      obtain ⟨hl, rfl⟩ := List.getElem?_eq_some_iff.1 hbk
      have h := List.pairwise_iff_getElem.1 hb.ascending _ _ (by simpa using hl) (by simpa using hl')
        (Nat.lt_succ_self _)
      simpa using h
    have hstop := hb.stop_lt b' (List.mem_of_getElem? hlater)
    simp only [hnow]
    rw [schedule_eq (t := b'.1.startTimeNs) (by simp only; omega) hle (by omega)]
    refine ⟨_, rfl, ⟨⟨?_, ?_, enqueue_ordered _ hs₁.ordered, ?_, ?_⟩, ?_, ?_, hbegun⟩, _, hk, hone.counters⟩
    · exact ⟨rfl, hs₁.running.counters, hs₁.running.logging, hs₁.running.socket⟩
    · refine enqueue_once hs₁.once ?_
      rintro ⟨t, e⟩ hq he
      cases he
      exact hnone t hq
    · intro t
      simp [hs₁.started t]
    · exact fun j b' hb' => ⟨(hs₁.bursts j b' hb').log, (hs₁.bursts j b' hb').due⟩
    · intro t
      simp [hnone t, StartPending, hlater]
    · intro t j
      simp only [mem_enqueue, Pending.mk.injEq, reduceCtorEq, and_false, false_or]
      exact hsends t j

/-- The start of the application puts the start of the first burst on the agenda. -/
theorem startBurstApplication_sending (hr : Registered app) (hb : Sendable gap endNs app.outgoingBursts) :
    ∃ w, startBurstApplication ⟨0, [], ⟨app, []⟩⟩ = .ok w ∧ Sending gap endNs app.outgoingBursts w ∧
      w.state.app.packetsSentCounter = app.packetsSentCounter := by
  have hcount : ∀ k, app.count k = 0 := by
    intro k
    simp [UdpBurstApplication.count, hr.counters, List.getD_eq_getElem?_getD, List.getElem?_replicate]
    split <;> rfl
  have hcounters : app.packetsSentCounter.length = app.outgoingBursts.length := by
    rw [hr.counters, List.length_replicate]
  have hlog : ∀ k b, SentSoFar gap endNs k b ⟨{ app with socket := true }, []⟩ := by
    intro k b
    have hk : ({ app with socket := true } : UdpBurstApplication ρ).count k = 0 := hcount k
    constructor
    · rw [hk]
      rfl
    · intro i hi
      rw [hk] at hi
      cases hi
  have hidle : ∀ k t, ¬ SendPending gap app.outgoingBursts { app with socket := true } k t := by
    rintro k t ⟨b, -, hpos, -⟩
    have : ({ app with socket := true } : UdpBurstApplication ρ).count k = 0 := hcount k
    omega
  have hbegun : ∀ k, k < app.nextInternalBurstIdx ↔ 1 ≤ app.count k := by
    intro k
    rw [hr.next, hcount]
    omega
  have hsteady : ∀ w : BurstSim ρ, w.state = ⟨{ app with socket := true }, []⟩ → Once w.agenda → Ordered w.agenda →
      (∀ t, ⟨t, .startApplication⟩ ∉ w.agenda) → Steady gap endNs app.outgoingBursts w := by
    rintro ⟨now, agenda, state⟩ rfl honce hordered hstarted
    exact ⟨⟨rfl, hcounters, hr.logging, rfl⟩, honce, hordered, hstarted, fun k b _ => hlog k b⟩
  unfold startBurstApplication
  simp only
  split
  · rename_i first target rest hbs
    have hstop := hb.stop_lt (first, target) (by rw [hbs]; exact List.mem_cons_self ..)
    rw [schedule_eq (t := first.startTimeNs) (by simp) (Nat.zero_le _) (by simp only at hstop; omega)]
    refine ⟨_, rfl, ⟨hsteady _ rfl (by simp [Once, enqueue]) (by simp [Ordered, enqueue]) (by simp [enqueue]), ?_, ?_,
      fun k _ => hbegun k⟩, rfl⟩
    · simp [StartPending, enqueue, hr.next, hbs]
    · simp [hidle, enqueue]
  · rename_i hbs
    refine ⟨_, rfl, ⟨hsteady _ rfl (by simp [Once]) (by simp [Ordered]) (by simp), ?_, ?_, fun k _ => hbegun k⟩, rfl⟩
    · simp [StartPending, hbs]
    · simp [hidle]

/-! ## A whole run -/

/-- An upper bound for the events that are left. -/
def eventsLeft (endNs : Nat) (w : BurstSim ρ) : Nat :=
  (if w.state.app.socket then 0 else 1) +
    (w.state.app.outgoingBursts.length * endNs - w.state.app.packetsSentCounter.sum)

theorem Sending.sum_le {bs : List (Outgoing ρ)} {w : BurstSim ρ} (hb : Sendable gap endNs bs)
    (hw : Sending gap endNs bs w) : w.state.app.packetsSentCounter.sum ≤ bs.length * endNs := by
  rw [← hw.running.counters, ← Nat.nsmul_eq_mul]
  refine List.sum_le_card_nsmul _ _ fun c hc => ?_
  obtain ⟨k, hk, rfl⟩ := List.getElem_of_mem hc
  have hk' : k < bs.length := by rw [← hw.running.counters]; exact hk
  have hle := (hw.bursts k bs[k] (List.getElem?_eq_getElem hk')).le (hb.gap_pos _ (List.getElem_mem hk'))
  simpa [UdpBurstApplication.count, hk] using hle

/-- An event that sends a packet leaves one event less. -/
theorem Sending.fewer {bs : List (Outgoing ρ)} {w w' : BurstSim ρ} {k : Nat} (hb : Sendable gap endNs bs)
    (hw : Sending gap endNs bs w) (hw' : Sending gap endNs bs w') (hk : k < bs.length)
    (hcnt : w'.state.app.packetsSentCounter = w.state.app.packetsSentCounter.set k (w.state.app.count k + 1)) :
    eventsLeft endNs w' < eventsLeft endNs w := by
  have hsum : w'.state.app.packetsSentCounter.sum = w.state.app.packetsSentCounter.sum + 1 := by
    rw [hcnt]
    exact sum_set_succ (hw.running.counter hk)
  have := hw'.sum_le hb
  unfold eventsLeft
  rw [hw.running.bursts, hw'.running.bursts, hw.running.socket, hw'.running.socket]
  omega

/-- With bursts that can be sent, the run ends, with no event due any more. -/
theorem runBursts_sending (hr : Registered app) (hb : Sendable gap endNs app.outgoingBursts) :
    ∃ fuel w, runBursts (given gap) endNs fuel app = .ok w ∧ due endNs w = false ∧
      (w = burstSim app ∨ Sending gap endNs app.outgoingBursts w) := by
  have hstep : ∀ w p l, (w = burstSim app ∨ Sending gap endNs app.outgoingBursts w) → w.agenda = p :: l →
      p.time < endNs → ∃ w', handleBurstEvent (given gap) p.event { w with now := p.time, agenda := l } = .ok w' ∧
        (w' = burstSim app ∨ Sending gap endNs app.outgoingBursts w') ∧ eventsLeft endNs w' < eventsLeft endNs w := by
    rintro w ⟨t, e⟩ l (rfl | hw) hp ht
    · cases hp
      obtain ⟨w', hrun, hw', hcnt⟩ := startBurstApplication_sending hr hb
      refine ⟨w', hrun, .inr hw', ?_⟩
      unfold eventsLeft burstSim
      rw [hw'.running.socket, hw'.running.bursts, hcnt]
      simp only [hr.socket, Bool.false_eq_true, if_false, if_true]
      omega
    · cases e with
      | startApplication =>
        exact absurd (by rw [hp]; exact List.mem_cons_self ..) (hw.started t)
      | startNextBurst =>
        obtain ⟨w', hrun, hw', k, hk, hcnt⟩ := hw.startNextBurst hb hp ht
        exact ⟨w', hrun, .inr hw', hw.fewer hb hw' hk hcnt⟩
      | burstSendOut k =>
        obtain ⟨w', hrun, hw', b, hbk, hone⟩ := hw.burstSendOut hb hp ht
        exact ⟨w', hrun, .inr hw', hw.fewer hb hw' (lt_of_getElem?_eq_some hbk) hone.counters⟩
  obtain ⟨w, hrun, hw, hdue⟩ := run_inv .diverges (handleBurstEvent (given gap)) endNs _ _ hstep
    (w := burstSim app) (.inl rfl) le_rfl
  exact ⟨_, w, hrun, hdue, hw⟩

/-! ## What a burst is to send -/

/-- Of the burst at place `k` exactly the packets that are due were sent, numbered in order at their times, as
many as it counts, and no window holds more than one packet above the target rate. A packet has 1500 bytes
with its headers, and a Mbit/s is 1/8000 byte per nanosecond. -/
structure SendsBurst (gap : ρ → UInt64) (value : ρ → ℚ) (endNs k : Nat) (b : Outgoing ρ) (s : BurstSender ρ) : Prop where
  sends : ∃ n, s.app.packetsSentCounter[k]? = some n ∧
    s.sent.filter (fun p => p.internalBurstIdx = k) = (List.range n).map (packetAt gap b k) ∧
    ∀ i, i < n ↔ DueAt gap endNs b i
  rate : ∀ t₁ t₂ : Nat, t₁ ≤ t₂ →
    8000 * 1500 * ((s.sent.countP fun p => p.internalBurstIdx = k ∧ t₁ ≤ p.timeNs ∧ p.timeNs ≤ t₂ : Nat) : ℚ) ≤
      value b.1.targetRate * (t₂ - t₁) + 8000 * 1500

/-- The run to the end of the simulation never finds no next burst, and each burst sends what it is to send. -/
def BurstsSend (gap : ρ → UInt64) (value : ρ → ℚ) (endNs : Nat) (app : UdpBurstApplication ρ) : Prop :=
  (∀ fuel, runBursts (given gap) endNs fuel app ≠ .error noNextBurst) ∧
    ∃ fuel w, runBursts (given gap) endNs fuel app = .ok w ∧
      ∀ (k : Nat) b, app.outgoingBursts[k]? = some b → SendsBurst gap value endNs k b w.state

/-- When no event is due any more, a burst has sent all its packets. -/
theorem Sending.lt_count_iff {bs : List (Outgoing ρ)} {w : BurstSim ρ} {k : Nat} {b : Outgoing ρ}
    (hb : Sendable gap endNs bs) (hw : Sending gap endNs bs w) (hdue : due endNs w = false) (hbk : bs[k]? = some b)
    (i : Nat) : i < w.state.app.count k ↔ DueAt gap endNs b i := by
  have hlate := not_due hw.ordered hdue
  refine ⟨(hw.bursts k b hbk).due i, fun ⟨hlasts, hlt⟩ => ?_⟩
  by_contra hi
  have hk := lt_of_getElem?_eq_some hbk
  rcases Nat.eq_zero_or_pos (w.state.app.count k) with h0 | hpos
  · -- the burst has not started, so the start of the next one is still on the agenda
    have hn : w.state.app.nextInternalBurstIdx < bs.length := by
      have := hw.begun k hk
      omega
    have := hlate _ ((hw.next _).2 ⟨bs[w.state.app.nextInternalBurstIdx], List.getElem?_eq_getElem hn, rfl⟩)
    have := hb.start_lt _ (List.getElem_mem hn)
    simp only at *
    omega
  · have hle := Nat.mul_le_mul_right (gapNs gap b) (Nat.not_lt.1 hi)
    have := hlate _ ((hw.sends _ k).2 ⟨b, hbk, hpos, rfl, by omega⟩)
    simp only at this
    omega

/-- A gap of at least the time of a packet at the target rate keeps to that rate. -/
theorem window_rate {n : Nat} {b : Outgoing ρ} {k : Nat} {sent : List SentPacket} {rate : ℚ} (hg : 1 ≤ gapNs gap b)
    (hrate : 1500 * 8000 ≤ gapNs gap b * rate)
    (hsent : sent.filter (fun p => p.internalBurstIdx = k) = (List.range n).map (packetAt gap b k))
    {t₁ t₂ : Nat} (ht : t₁ ≤ t₂) :
    8000 * 1500 * ((sent.countP fun p => p.internalBurstIdx = k ∧ t₁ ≤ p.timeNs ∧ p.timeNs ≤ t₂ : Nat) : ℚ) ≤
      rate * (t₂ - t₁) + 8000 * 1500 := by
  have hcount : sent.countP (fun p => p.internalBurstIdx = k ∧ t₁ ≤ p.timeNs ∧ p.timeNs ≤ t₂) =
      Nat.count (fun i => t₁ ≤ b.1.startTimeNs + i * gapNs gap b ∧ b.1.startTimeNs + i * gapNs gap b ≤ t₂) n := by
    have hsplit : sent.countP (fun p => p.internalBurstIdx = k ∧ t₁ ≤ p.timeNs ∧ p.timeNs ≤ t₂) =
        (sent.filter fun p => p.internalBurstIdx = k).countP fun p => t₁ ≤ p.timeNs ∧ p.timeNs ≤ t₂ := by
      rw [List.countP_filter]
      exact List.countP_congr fun p _ => by simp [and_comm]
    rw [hsplit, hsent, List.countP_map]
    rfl
  have hwin := spaced_window b.1.startTimeNs (gapNs gap b) ht n
  rw [← hcount] at hwin
  generalize sent.countP (fun p => p.internalBurstIdx = k ∧ t₁ ≤ p.timeNs ∧ p.timeNs ≤ t₂) = m at hwin ⊢
  have hg' : (1 : ℚ) ≤ gapNs gap b := by exact_mod_cast hg
  have hpos : 0 ≤ rate := by
    by_contra hneg
    have := mul_le_mul_of_nonneg_right hg' (by linarith : 0 ≤ -rate)
    linarith
  have hwin' : (m : ℚ) * gapNs gap b ≤ (t₂ - t₁) + gapNs gap b := by
    have : ((m * gapNs gap b : Nat) : ℚ) ≤ ((t₂ - t₁ + gapNs gap b : Nat) : ℚ) := by exact_mod_cast hwin
    push_cast [Nat.cast_sub ht] at this
    exact this
  -- all but one packet of the window take a gap each
  rcases Nat.eq_zero_or_pos m with rfl | hm
  · have := mul_nonneg hpos (sub_nonneg.2 (by exact_mod_cast ht : (t₁ : ℚ) ≤ t₂))
    simp only [Nat.cast_zero, mul_zero]
    linarith
  · have hm' : (0 : ℚ) ≤ m - 1 := by
      have : (1 : ℚ) ≤ m := by exact_mod_cast hm
      linarith
    have h₁ := mul_le_mul_of_nonneg_left hrate hm'
    have h₂ := mul_le_mul_of_nonneg_left (by linarith : ((m : ℚ) - 1) * gapNs gap b ≤ t₂ - t₁) hpos
    nlinarith

/-! ## A burst whose second packet leaves the `uint64_t` -/

/-- A packet that was sent: which one, and what it may have put on the agenda. -/
structure SendOutOk (gap : ρ → UInt64) (k : Nat) (w w' : BurstSim ρ) : Prop where
  bursts : w'.state.app.outgoingBursts = w.state.app.outgoingBursts
  next : w'.state.app.nextInternalBurstIdx = w.state.app.nextInternalBurstIdx
  sent : ∃ datagram, w'.state.sent = w.state.sent ++ [⟨w.now, k, datagram⟩]
  agenda : w'.agenda = w.agenda ∨ ∃ t, w'.agenda = enqueue ⟨t, .burstSendOut k⟩ w.agenda
  no_wrap : ∀ b, w.state.app.outgoingBursts[k]? = some b → b.1.startTimeNs = w.now →
    b.1.startTimeNs + b.1.durationNs < 2 ^ 63 → b.1.startTimeNs + gapNs gap b < 2 ^ 64

/-- Past the end of the `uint64_t` the next packet seems due at once. -/
theorem hasNext_wrap {info : UdpBurstInfo ρ} {g : Nat} (hg : g < 2 ^ 64)
    (hstop : info.startTimeNs + info.durationNs < 2 ^ 63) (hwrap : 2 ^ 64 ≤ info.startTimeNs + g) :
    info.hasNext info.startTimeNs g = .ok true := by
  have h := toUInt64_eq (x := info.startTimeNs + info.durationNs) (by omega)
  push_cast at h
  unfold UdpBurstInfo.hasNext
  rw [int64_eq (by omega) (by omega), ok_bind, h, Except.ok.injEq, decide_eq_true_eq]
  unfold toUInt64
  omega

/-- Then the gap, taken for an `int64_t`, goes back in time. -/
theorem schedule_wrap {info : UdpBurstInfo ρ} {g : Nat} {e : BurstEvent} {w : BurstSim ρ} (hg : g < 2 ^ 64)
    (hnow : info.startTimeNs = w.now) (hstop : info.startTimeNs + info.durationNs < 2 ^ 63)
    (hwrap : 2 ^ 64 ≤ info.startTimeNs + g) :
    info.hasNext w.now g = .ok true ∧ ∀ w', schedule (toInt64 g) e w ≠ .ok w' := by
  constructor
  · rw [← hnow]
    exact hasNext_wrap hg hstop hwrap
  · intro w' h
    have hback : toInt64 (w.now + toInt64 g) = w.now + g - 2 ^ 64 := by
      have : toInt64 g = g - 2 ^ 64 := by
        unfold toInt64
        rw [Int.bmod_def]
        omega
      rw [this, toInt64_eq (by omega) (by omega)]
      omega
    unfold schedule at h
    rw [hback] at h
    simp only at h
    rw [if_pos (by omega)] at h
    cases h

theorem burstSendOut_ok {k : Nat} {w w' : BurstSim ρ} (h : burstSendOut (given gap) k w = .ok w') :
    SendOutOk gap k w w' := by
  unfold burstSendOut at h
  obtain ⟨⟨app, d⟩, htr, h⟩ := bind_ok h
  have hbursts := (transmitFullPacket_ok htr).bursts
  have hnext := (transmitFullPacket_ok htr).next
  obtain ⟨⟨info, target⟩, hb, h⟩ := bind_ok h
  obtain ⟨g, hg, h⟩ := bind_ok h
  cases hg
  obtain ⟨more, hmore, h⟩ := bind_ok h
  have hnowrap : ∀ b, w.state.app.outgoingBursts[k]? = some b → b.1.startTimeNs = w.now →
      b.1.startTimeNs + b.1.durationNs < 2 ^ 63 → b.1.startTimeNs + gapNs gap b < 2 ^ 64 := by
    intro b hbk hnow hstop
    rw [← hbursts, index_ok.1 hb, Option.some.injEq] at hbk
    subst hbk
    by_contra hwrap
    obtain ⟨htrue, hsched⟩ := schedule_wrap (e := .burstSendOut k)
      (w := { w with state := ⟨app, w.state.sent ++ [⟨w.now, k, d⟩]⟩ }) (gap info.targetRate).toNat_lt hnow hstop
      (Nat.not_lt.1 hwrap)
    rw [show info.hasNext w.now (gap info.targetRate).toNat = .ok true from htrue] at hmore
    cases hmore
    rw [if_pos rfl] at h
    exact hsched w' h
  split at h
  · obtain ⟨t, -, -, rfl⟩ := schedule_ok h
    exact ⟨hbursts, hnext, ⟨d, rfl⟩, .inr ⟨t, rfl⟩, hnowrap⟩
  · cases h
    exact ⟨hbursts, hnext, ⟨d, rfl⟩, .inl rfl, hnowrap⟩

/-- Behind a packet of a burst only that burst may have another one on the agenda. -/
theorem SendOutOk.mem_agenda {k j t : Nat} {w w' : BurstSim ρ} (h : SendOutOk gap k w w')
    (hq : ⟨t, .burstSendOut j⟩ ∈ w'.agenda) : j = k ∨ ⟨t, .burstSendOut j⟩ ∈ w.agenda := by
  rcases h.agenda with ha | ⟨t', ha⟩
  · rw [ha] at hq
    exact .inr hq
  · rw [ha, mem_enqueue] at hq
    rcases hq with hq | hq
    · cases hq
      exact .inl rfl
    · exact .inr hq

theorem SendOutOk.mem_sent {k : Nat} {w w' : BurstSim ρ} (h : SendOutOk gap k w w') {p : SentPacket}
    (hp : p ∈ w'.state.sent) : p.internalBurstIdx = k ∨ p ∈ w.state.sent := by
  obtain ⟨d, hs⟩ := h.sent
  rw [hs, List.mem_append, List.mem_singleton] at hp
  rcases hp with hp | rfl
  · exact .inr hp
  · exact .inl rfl

/-- In every run: only bursts that have started send, and none of them wraps. -/
structure Begun (gap : ρ → UInt64) (bs : List (Outgoing ρ)) (w : BurstSim ρ) : Prop where
  bursts : w.state.app.outgoingBursts = bs
  no_wrap : ∀ k < w.state.app.nextInternalBurstIdx, ∀ b, bs[k]? = some b → b.1.startTimeNs + gapNs gap b < 2 ^ 64
  sends : ∀ t k, ⟨t, .burstSendOut k⟩ ∈ w.agenda → k < w.state.app.nextInternalBurstIdx
  sent : ∀ p ∈ w.state.sent, p.internalBurstIdx < w.state.app.nextInternalBurstIdx

theorem begun_handle {bs : List (Outgoing ρ)} {w w' : BurstSim ρ} {p : Pending BurstEvent}
    {l : List (Pending BurstEvent)}
    (hstop : ∀ b ∈ bs, b.1.startTimeNs + b.1.durationNs < 2 ^ 63) (hw : Begun gap bs w) (hp : w.agenda = p :: l)
    (h : handleBurstEvent (given gap) p.event { w with now := p.time, agenda := l } = .ok w') : Begun gap bs w' := by
  obtain ⟨hbursts, hwrap, hsends, hsent⟩ := hw
  rw [hp] at hsends
  obtain ⟨t, e⟩ := p
  have hl : ∀ t k, ⟨t, .burstSendOut k⟩ ∈ l → k < w.state.app.nextInternalBurstIdx :=
    fun t k hq => hsends t k (List.mem_cons_of_mem _ hq)
  cases e with
  | startApplication =>
    simp only [handleBurstEvent, startBurstApplication] at h
    split at h
    · obtain ⟨t, -, -, rfl⟩ := schedule_ok h
      exact ⟨hbursts, hwrap, fun t k hq => hl t k (by simpa using hq), hsent⟩
    · cases h
      exact ⟨hbursts, hwrap, hl, hsent⟩
  | burstSendOut k =>
    have hok := burstSendOut_ok h
    have hk := hsends t k (List.mem_cons_self ..)
    refine ⟨hok.bursts.trans hbursts, by rw [hok.next]; exact hwrap, ?_, ?_⟩
    · intro t' j hq
      rw [hok.next]
      rcases hok.mem_agenda hq with rfl | hq
      · exact hk
      · exact hl _ _ hq
    · intro q hq
      rw [hok.next]
      rcases hok.mem_sent hq with heq | hq
      · rw [heq]
        exact hk
      · exact hsent q hq
  | startNextBurst =>
    simp only [handleBurstEvent, startNextBurst] at h
    split at h
    · cases h
    · rename_i info target hbk
      split at h
      · cases h
      · rename_i hnow
        obtain ⟨w₁, h₁, h⟩ := bind_ok h
        have hok := burstSendOut_ok h₁
        have hnext : w₁.state.app.nextInternalBurstIdx = w.state.app.nextInternalBurstIdx := hok.next
        rw [hbursts] at hbk
        -- the burst that starts does not wrap, as its first packet was sent
        have hfirst := hok.no_wrap _ (hbursts ▸ hbk) (not_not.1 hnow) (hstop _ (List.mem_of_getElem? hbk))
        have hwrap' : ∀ k < w.state.app.nextInternalBurstIdx + 1, ∀ b, bs[k]? = some b →
            b.1.startTimeNs + gapNs gap b < 2 ^ 64 := by
          intro k hk b hkb
          rcases Nat.lt_succ_iff_lt_or_eq.1 hk with hk | rfl
          · exact hwrap k hk b hkb
          · cases hbk.symm.trans hkb
            exact hfirst
        have hagenda : ∀ t k, ⟨t, .burstSendOut k⟩ ∈ w₁.agenda → k < w.state.app.nextInternalBurstIdx + 1 := by
          intro t' k hq
          rcases hok.mem_agenda hq with rfl | hq
          · exact Nat.lt_succ_self _
          · exact Nat.lt_succ_of_lt (hl _ _ hq)
        have hsent' : ∀ p ∈ w₁.state.sent, p.internalBurstIdx < w.state.app.nextInternalBurstIdx + 1 := by
          intro q hq
          rcases hok.mem_sent hq with heq | hq
          · rw [heq]
            exact Nat.lt_succ_self _
          · exact Nat.lt_succ_of_lt (hsent q hq)
        simp only [hnext] at h
        split at h
        · obtain ⟨t', -, -, rfl⟩ := schedule_ok h
          exact ⟨hok.bursts.trans hbursts, hwrap', fun t k hq => hagenda t k (by simpa using hq), hsent'⟩
        · cases h
          exact ⟨hok.bursts.trans hbursts, hwrap', hagenda, hsent'⟩

theorem runBursts_begun {fuel : Nat} {w : BurstSim ρ} (hr : Registered app)
    (hstop : ∀ b ∈ app.outgoingBursts, b.1.startTimeNs + b.1.durationNs < 2 ^ 63)
    (h : runBursts (given gap) endNs fuel app = .ok w) : Begun gap app.outgoingBursts w := by
  refine (run_keeps Fail.diverges (handleBurstEvent (given gap)) endNs (Begun gap app.outgoingBursts)
    (fun _ _ _ _ hw hp _ h => begun_handle hstop hw hp h) ⟨rfl, ?_, ?_, ?_⟩ h).1
  · intro k hk
    rw [show (burstSim app).state.app.nextInternalBurstIdx = 0 from hr.next] at hk
    cases hk
  · simp [burstSim]
  · simp [burstSim]

/-! ## The bursts of a node send as they should, exactly if none is that slow -/

theorem sendsBurst_of_sending {value : ρ → ℚ} {bs : List (Outgoing ρ)} {w : BurstSim ρ} {k : Nat} {b : Outgoing ρ}
    (hb : Sendable gap endNs bs) (hrate : ∀ b ∈ bs, 1500 * 8000 ≤ gapNs gap b * value b.1.targetRate)
    (hw : Sending gap endNs bs w) (hdue : due endNs w = false) (hbk : bs[k]? = some b) :
    SendsBurst gap value endNs k b w.state := by
  have hmem := List.mem_of_getElem? hbk
  have hlog := (hw.bursts k b hbk).log
  refine ⟨⟨_, hw.running.counter (lt_of_getElem?_eq_some hbk), hlog, hw.lt_count_iff hb hdue hbk⟩, ?_⟩
  exact fun t₁ t₂ ht => window_rate (hb.gap_pos b hmem) (hrate b hmem) hlog ht

/-- For all bursts registered with the application of a node: they send exactly their packets at their times
and rates, exactly if no gap leads from the start of its burst out of the `uint64_t`. -/
theorem burstsSend_iff {value : ρ → ℚ} {regs : List (Registration ρ)}
    (hreg : forEach (register nodeId) regs .initial = .ok app)
    (hstart : ∀ b ∈ app.outgoingBursts, b.1.startTimeNs < endNs)
    (hstop : ∀ b ∈ app.outgoingBursts, b.1.startTimeNs + b.1.durationNs < 2 ^ 63)
    (hgap : ∀ b ∈ app.outgoingBursts, 1 ≤ gapNs gap b)
    (hrate : ∀ b ∈ app.outgoingBursts, 1500 * 8000 ≤ gapNs gap b * value b.1.targetRate) :
    BurstsSend gap value endNs app ↔ ∀ b ∈ app.outgoingBursts, b.1.startTimeNs + gapNs gap b < 2 ^ 64 := by
  have hr := registered_of_forEach hreg
  constructor
  · rintro ⟨-, fuel, w, hrun, hsends⟩ b hb
    obtain ⟨k, hk, rfl⟩ := List.getElem_of_mem hb
    have hbk := List.getElem?_eq_getElem hk
    have hbegun := runBursts_begun hr hstop hrun
    obtain ⟨n, -, hlog, hdue⟩ := (hsends k _ hbk).sends
    have hfirst : packetAt gap app.outgoingBursts[k] k 0 ∈ w.state.sent := by
      have h : packetAt gap app.outgoingBursts[k] k 0 ∈ w.state.sent.filter fun p => p.internalBurstIdx = k := by
        rw [hlog]
        refine List.mem_map_of_mem (List.mem_range.2 ((hdue 0).2 ⟨.inl rfl, ?_⟩))
        rw [Nat.zero_mul]
        exact hstart _ hb
      exact List.mem_of_mem_filter h
    exact hbegun.no_wrap k (hbegun.sent _ hfirst) _ hbk
  · intro hwrap
    have hb : Sendable gap endNs app.outgoingBursts := ⟨hr.ascending, hstart, hstop, hgap, hwrap⟩
    obtain ⟨fuel, w, hrun, hdue, hw⟩ := runBursts_sending hr hb
    refine ⟨fun fuel' h => ?_, fuel, w, hrun, fun k b hbk => ?_⟩
    · rcases run_ok_or hrun fuel' with h' | h'
      · rw [show runBursts (given gap) endNs fuel' app = .ok w from h'] at h
        cases h
      · rw [show runBursts (given gap) endNs fuel' app = .error .diverges from h'] at h
        cases h
    · rcases hw with rfl | hw
      · -- the application did not start, so nothing starts before the end
        simp only [due, burstSim, decide_eq_false_iff_not, Nat.not_lt] at hdue
        have := hstart b (List.mem_of_getElem? hbk)
        omega
      · exact sendsBurst_of_sending hb hrate hw hdue hbk

/-! ### Two bursts that start at once, and a slow one -/

/-- The packet gap of a rate in Mbit/s, without rounding before the last step. -/
def exactGap (rate : ℚ) : UInt64 := UInt64.ofNat (12000000 / rate).ceil.toNat

def burst (udpBurstId : Nat) (rate : ℚ) (startTimeNs durationNs : Nat) : UdpBurstInfo ℚ where
  udpBurstId := udpBurstId
  fromNodeId := 0
  toNodeId := 1
  targetRate := rate
  startTimeNs := startTimeNs
  durationNs := durationNs
  additionalParameters := []
  metadata := []

/-- The application of node 0 with bursts registered that go to node 1. -/
def senderOf (bursts : List (UdpBurstInfo ℚ)) : UdpBurstApplication ℚ :=
  { UdpBurstApplication.initial with
    outgoingBursts := bursts.map fun info => (info, 0x0a000002)
    packetsSentCounter := bursts.map fun _ => 0
    outgoingPreciseLogging := bursts.map fun _ => false }

/-- Both start at once, and the second one lasts for its first packet only. -/
theorem burstsSend_iff_twoBursts :
    BurstsSend exactGap id 1000000000 (senderOf [burst 0 100 5 300000, burst 1 50 5 0]) := by
  have hreg : forEach (register 0) [.outgoing (burst 0 100 5 300000) 0x0a000002 false,
      .outgoing (burst 1 50 5 0) 0x0a000002 false] .initial =
        .ok (senderOf [burst 0 100 5 300000, burst 1 50 5 0]) := rfl
  refine (burstsSend_iff hreg ?_ ?_ ?_ ?_).2 ?_ <;> decide +kernel

/-- A burst with a gap of 2^64 - 2048 ns that starts 4096 ns into the run. -/
theorem burstsSend_counterexample :
    forEach (register 0) [.outgoing (burst 0 (12000000 / (2 ^ 64 - 2048)) 4096 0) 0x0a000002 false] .initial =
        .ok (senderOf [burst 0 (12000000 / (2 ^ 64 - 2048)) 4096 0]) ∧
      ¬ BurstsSend exactGap id 1000000000 (senderOf [burst 0 (12000000 / (2 ^ 64 - 2048)) 4096 0]) := by
  refine ⟨rfl, ?_⟩
  rintro ⟨-, fuel, w, hrun, -⟩
  have hfails : (match runBursts (given exactGap) 1000000000 2 (senderOf [burst 0 (12000000 / (2 ^ 64 - 2048)) 4096 0]) with
    | .error (.assertion _) => true
    | _ => false) = true := by decide +kernel
  rcases run_ok_or hrun 2 with h | h
  · rw [show runBursts _ _ 2 _ = _ from h] at hfails
    cases hfails
  · rw [show runBursts _ _ 2 _ = _ from h] at hfails
    cases hfails

end SatNet.Apps
