/-
The journeys of packets through a satellite network, in every order of the events of its data plane. Each packet that was
sent is at one place, and got there hop by hop along the lines that were loaded at the time; it is delivered only where it
is addressed to, and dropped only for a reason. While the files do not change, it takes the path that `path_truth.py`
finds, and if there is one and no queue is full, it arrives.
-/
import SatNet.Satellite.DataPlane
import SatNet.Satellite.PathTruth

namespace SatNet.Satellite

open SatNet.Loop SatNet.Device

variable {P K M : Type} [DecidableEq M]

/-! ## Journeys -/

section Journeys

variable (s : Scenario P K M) (initial : List Str)

/-- The packet that a node sent has reached a device, hop by hop by the lines that were loaded at the time, and is passed
on only where it is not addressed to. The path has the nodes that it was at. -/
inductive Journey (x : Nat × P) : List Str → List Nat → End → P → Prop where
  | first {written d} : initial <+: written → Hop s written x.1 (s.ip.destination x.2) d →
      Journey x written [x.1, d.1] d x.2
  | later {written path d q} (lines : List Str) : Journey x written path d q → Journey x (written ++ lines) path d q
  | next {written path d q q' d'} : Journey x written path d q →
      s.ip.isDestinationAddress d.1 (s.ip.destination q) = false → s.ip.forward q = some q' →
      Hop s written d.1 (s.ip.destination q') d' → Journey x written (path ++ [d'.1]) d' q'

/-- The packet that a node sent is about to be received by a device. -/
def Arriving (x : Nat × P) (w : Plane P M) (written : List Str) (d : End) (q : P) : Prop :=
  ∃ frame path, (d, frame) ∈ w.receptions ∧ frame.packet = q ∧ Journey s initial x written path d q

/-- Why a packet that a node sent is dropped as `q` in the state `w`, in which the lines `written` are loaded. -/
inductive Reason (x : Nat × P) (w : Plane P M) (written : List Str) : P → Prop where
  | unsent : Unrouted s written x.1 (s.ip.destination x.2) ∨ Overflows s w written x.1 x.2 → Reason x w written x.2
  | unrouted {d q} : Arriving s initial x w written d q → s.ip.isDestinationAddress d.1 (s.ip.destination q) = false →
      Unrouted s written d.1 (s.ip.destination q) → Reason x w written q
  | overflow {d q q'} : Arriving s initial x w written d q → s.ip.isDestinationAddress d.1 (s.ip.destination q) = false →
      s.ip.forward q = some q' → Overflows s w written d.1 q' → Reason x w written q'
  | expired {d q} : Arriving s initial x w written d q → s.ip.isDestinationAddress d.1 (s.ip.destination q) = false →
      s.ip.timeToLive q ≤ 1 → Reason x w written q
  | corrupted {d q} : Arriving s initial x w written d q → s.errorModel d = true → Reason x w written q

/-- The job is one of the packets that were sent, on its journey. -/
def OnJourney (written : List Str) (sent : List (Nat × P)) (job : End × Frame P) : Prop :=
  ∃ x ∈ sent, ∃ path, Journey s initial x written path job.1 job.2.packet

/-- A packet that was delivered at a node is one of those that were sent, and it is addressed to the node. -/
def Arrived (written : List Str) (sent : List (Nat × P)) (y : Nat × P) : Prop :=
  ∃ x ∈ sent, ∃ path d, d.1 = y.1 ∧ Journey s initial x written path d y.2 ∧
    s.ip.isDestinationAddress y.1 (s.ip.destination y.2) = true

/-- The packet that was dropped after the packets `earlier` is one of those that were sent, and when it was dropped, in a
state that the run has gone through, there was a reason. -/
def Lost (w : Plane P M) (written : List Str) (sent : List (Nat × P)) (earlier : List P) (q : P) : Prop :=
  ∃ x ∈ sent, s.ip.key q = s.ip.key x.2 ∧ ∃ w₀ before sent₀ n₀, Plane.Reach s initial w₀ before sent₀ n₀ ∧
    w₀.dropped = earlier ∧ Reason s initial x w₀ before q ∧ Plane.Continues s w₀ before w written

variable {s initial} {x : Nat × P} {written : List Str} {sent : List (Nat × P)} {path : List Nat} {d : End} {q : P}

/-- A packet on its journey is still the one that was sent, less one of its time to live for each hop but the first. -/
theorem Journey.keeps (h : Journey s initial x written path d q) :
    s.ip.key q = s.ip.key x.2 ∧ s.ip.source q = s.ip.source x.2 ∧ s.ip.destination q = s.ip.destination x.2 ∧
      s.ip.timeToLive q + path.length = s.ip.timeToLive x.2 + 2 ∧ path.head? = some x.1 ∧ path.getLast? = some d.1 := by
  induction h with
  | first => exact ⟨rfl, rfl, rfl, rfl, rfl, rfl⟩
  | later lines _ ih => exact ih
  | next _ _ hforward _ ih =>
    obtain ⟨hkey, hsource, hdest, httl, hhead, -⟩ := ih
    obtain ⟨hkey', hsource', hdest', httl'⟩ := s.ip.forwarded _ _ hforward
    refine ⟨hkey'.trans hkey, hsource'.trans hsource, hdest'.trans hdest, ?_, ?_, List.getLast?_concat⟩
    · rw [List.length_append, List.length_singleton]
      omega
    · rw [List.head?_append, hhead]
      rfl

theorem OnJourney.later {job : End × Frame P} (h : OnJourney s initial written sent job) (lines : List Str) :
    OnJourney s initial (written ++ lines) sent job := by
  obtain ⟨x, hx, path, hj⟩ := h
  exact ⟨x, hx, path, hj.later lines⟩

theorem OnJourney.more {job : End × Frame P} (h : OnJourney s initial written sent job) (y : Nat × P) :
    OnJourney s initial written (sent ++ [y]) job := by
  obtain ⟨x, hx, hj⟩ := h
  exact ⟨x, List.mem_append_left _ hx, hj⟩

theorem Arrived.later {y : Nat × P} (h : Arrived s initial written sent y) (lines : List Str) :
    Arrived s initial (written ++ lines) sent y := by
  obtain ⟨x, hx, path, d, hd, hj, hown⟩ := h
  exact ⟨x, hx, path, d, hd, hj.later lines, hown⟩

theorem Arrived.more {y : Nat × P} (h : Arrived s initial written sent y) (z : Nat × P) :
    Arrived s initial written (sent ++ [z]) y := by
  obtain ⟨x, hx, hj⟩ := h
  exact ⟨x, List.mem_append_left _ hx, hj⟩

end Journeys

/-! ## What every run keeps -/

section Runs

variable (s : Scenario P K M) (initial : List Str)

def jobKey (job : End × Frame P) : K := s.ip.key job.2.packet

def jobRank (job : End × Frame P) : Nat := s.ip.timeToLive job.2.packet

/-- The events that the packets may still cause when they are sent. -/
def budget (sent : List (Nat × P)) : Nat := (sent.map fun x => 2 * s.ip.timeToLive x.2 + 2).sum

structure Tracks (w : Plane P M) (written : List Str) (sent : List (Nat × P)) (n : Nat)
    (r : Relay End (End × Frame P) K) (arrived : End → List (End × Frame P)) : Prop where
  loaded : Loaded s.sim s.net written w.state
  grows : initial <+: written
  simulates : Simulates s w r
  run : Relay.Run s.net.ends (jobKey s) r arrived (sent.map fun x => s.ip.key x.2)
  work : r.work s.net.ends (jobRank s) + n ≤ budget s sent
  journeys : Relay.All (OnJourney s initial written sent) r
  delivered : ∀ y ∈ w.delivered, Arrived s initial written sent y

variable {s initial} {w w' : Plane P M} {written : List Str} {sent : List (Nat × P)} {n : Nat}
  {r : Relay End (End × Frame P) K} {arrived : End → List (End × Frame P)}

theorem budget_concat (x : Nat × P) : budget s (sent ++ [x]) = budget s sent + (2 * s.ip.timeToLive x.2 + 2) := by
  unfold budget
  rw [List.map_append, List.sum_append]
  rfl

theorem Tracks.update (h : Tracks s initial w written sent n r arrived) {lines : List Str} {state' : ForwardingState}
    (hl : Loaded s.sim s.net (written ++ lines) state') :
    Tracks s initial { w with state := state' } (written ++ lines) sent n r arrived :=
  ⟨hl, h.grows.trans (List.prefix_append ..),
    ⟨h.simulates.works, h.simulates.flight, h.simulates.gone, h.simulates.arrives⟩, h.run, h.work,
    h.journeys.mono fun _ hj => hj.later lines, fun y hy => (h.delivered y hy).later lines⟩

/-- A packet is sent and refused. -/
theorem Tracks.refuse (h : Tracks s initial w written sent n r arrived) (u : Nat) (p : P) :
    Tracks s initial (w.drop p) written (sent ++ [(u, p)]) n (r.leave (s.ip.key p)) arrived := by
  refine ⟨h.loaded, h.grows, h.simulates.drop p, ?_, ?_, ?_, fun y hy => (h.delivered y hy).more _⟩
  · rw [List.map_append]
    exact h.run.refuse _
  · show r.work s.net.ends (jobRank s) + n ≤ _
    rw [budget_concat]
    have := h.work
    omega
  · exact ⟨fun e j hj => (h.journeys.waiting e j hj).more _, fun j hj => (h.journeys.flight j hj).more _⟩

/-- A packet is sent and leaves its node. -/
theorem Tracks.enter (h : Tracks s initial w written sent n r arrived) {u : Nat} {p : P} {via : Option End} {peer : End}
    {frame : Frame P} (hl : Leaves s written w r u p w' via peer frame) :
    Tracks s initial w' written (sent ++ [(u, p)]) n (r.offer via (peer, frame))
      (Relay.arrive arrived via (peer, frame)) := by
  have hjourney : OnJourney s initial written (sent ++ [(u, p)]) (peer, frame) := by
    refine ⟨(u, p), by simp, [u, peer.1], ?_⟩
    rw [hl.packet]
    exact .first h.grows hl.hop
  refine ⟨by rw [hl.state]; exact h.loaded, h.grows, hl.simulates, ?_, ?_, ?_, ?_⟩
  · have henter := h.run.enter via (peer, frame) hl.station
    rw [List.map_append]
    unfold jobKey at henter
    rw [hl.packet] at henter
    exact henter
  · have hwork := @Relay.offer_work _ _ _ _ _ r (jobRank s) (nodup_ends s.net) via hl.station (peer, frame)
    rw [show jobRank s (peer, frame) = s.ip.timeToLive p by unfold jobRank; rw [hl.packet]] at hwork
    rw [budget_concat]
    show _ ≤ budget s sent + (2 * s.ip.timeToLive p + 2)
    have := h.work
    omega
  · exact (h.journeys.mono fun _ hj => hj.more _).offer hjourney via
  · rw [hl.delivered]
    exact fun y hy => (h.delivered y hy).more _

theorem Tracks.complete (h : Tracks s initial w written sent n r arrived) {e : End} (he : e ∈ s.net.ends)
    (hs : (r.stations e).serving ≠ none) (hstate : w'.state = w.state) (hd : w'.delivered = w.delivered)
    (hsim : Simulates s w' (r.finish e)) :
    Tracks s initial w' written sent (n + 1) (r.finish e) arrived := by
  refine ⟨by rw [hstate]; exact h.loaded, h.grows, hsim, h.run.finish e he hs, ?_, h.journeys.finish e,
    by rw [hd]; exact h.delivered⟩
  have hwork := @Relay.finish_work _ _ _ _ _ r (jobRank s) (nodup_ends s.net) e he hs
  have := h.work
  omega

variable {k : Nat} {d : End} {frame : Frame P}

/-- A packet under way is delivered. -/
theorem Tracks.deliver (h : Tracks s initial w written sent n r arrived) (hk : w.receptions[k]? = some (d, frame))
    (hown : s.ip.isDestinationAddress d.1 (s.ip.destination frame.packet) = true) :
    Tracks s initial ((w.land k).deliver d.1 frame.packet) written sent (n + 1)
      ((r.land k).leave (s.ip.key frame.packet)) arrived := by
  rw [← h.simulates.flight] at hk
  refine ⟨h.loaded, h.grows, (h.simulates.land k).deliver d.1 frame.packet, h.run.leave k (d, frame) hk, ?_,
    ⟨(h.journeys.land k).waiting, (h.journeys.land k).flight⟩, fun y hy => ?_⟩
  · have hwork := @Relay.leave_work _ _ _ s.net.ends r (jobRank s) k (d, frame) hk (s.ip.key frame.packet)
    have := h.work
    omega
  · rcases List.mem_append.1 hy with hy | hy
    · exact h.delivered y hy
    · rw [List.mem_singleton.1 hy]
      obtain ⟨x, hx, path, hj⟩ := h.journeys.flight _ (List.mem_of_getElem? hk)
      exact ⟨x, hx, path, d, rfl, hj, hown⟩

/-- A packet under way is dropped, maybe after it was made ready to be passed on. -/
theorem Tracks.lose (h : Tracks s initial w written sent n r arrived) (hk : w.receptions[k]? = some (d, frame)) {q : P}
    (hq : s.ip.key q = s.ip.key frame.packet) :
    Tracks s initial ((w.land k).drop q) written sent (n + 1) ((r.land k).leave (s.ip.key q)) arrived := by
  rw [← h.simulates.flight] at hk
  refine ⟨h.loaded, h.grows, (h.simulates.land k).drop q, ?_, ?_, ⟨(h.journeys.land k).waiting, (h.journeys.land k).flight⟩,
    h.delivered⟩
  · rw [hq]
    exact h.run.leave k (d, frame) hk
  · have hwork := @Relay.leave_work _ _ _ s.net.ends r (jobRank s) k (d, frame) hk (s.ip.key q)
    have := h.work
    omega

/-- A packet under way is passed on. -/
theorem Tracks.pass (h : Tracks s initial w written sent n r arrived) (hk : w.receptions[k]? = some (d, frame))
    (hown : s.ip.isDestinationAddress d.1 (s.ip.destination frame.packet) = false) {p' : P}
    (hforward : s.ip.forward frame.packet = some p') {via : Option End} {peer : End} {frame' : Frame P}
    (hl : Leaves s written (w.land k) (r.land k) d.1 p' w' via peer frame') :
    Tracks s initial w' written sent (n + 1) ((r.land k).offer via (peer, frame'))
      (Relay.arrive arrived via (peer, frame')) := by
  rw [← h.simulates.flight] at hk
  obtain ⟨hkey, -, -, httl⟩ := s.ip.forwarded _ _ hforward
  refine ⟨by rw [hl.state]; exact h.loaded, h.grows, hl.simulates, ?_, ?_, ?_, by rw [hl.delivered]; exact h.delivered⟩
  · refine h.run.pass k via (d, frame) (peer, frame') hk ?_ hl.station
    show s.ip.key frame'.packet = s.ip.key frame.packet
    rw [hl.packet, hkey]
  · have hrank : jobRank s (peer, frame') < jobRank s (d, frame) := by
      show s.ip.timeToLive frame'.packet < s.ip.timeToLive frame.packet
      rw [hl.packet]
      omega
    have hwork := Relay.pass_work (nodup_ends s.net) hk hl.station hrank
    have := h.work
    omega
  · obtain ⟨x, hx, path, hj⟩ := h.journeys.flight _ (List.mem_of_getElem? hk)
    refine (h.journeys.land k).offer ⟨x, hx, path ++ [peer.1], ?_⟩ via
    rw [hl.packet]
    exact hj.next hown hforward hl.hop

/-- What a step drops: nothing, or one of the packets that were sent, for a reason. -/
def Drops (s : Scenario P K M) (initial : List Str) (w w' : Plane P M) (written : List Str) (sent : List (Nat × P)) : Prop :=
  w'.dropped = w.dropped ∨ ∃ q, w'.dropped = w.dropped ++ [q] ∧
    ∃ x ∈ sent, s.ip.key q = s.ip.key x.2 ∧ Reason s initial x w written q

/-- A packet that is dropped when it is received is one that was sent. -/
theorem Tracks.drops (h : Tracks s initial w written sent n r arrived) (hk : w.receptions[k]? = some (d, frame)) {q : P}
    (hq : s.ip.key q = s.ip.key frame.packet) (hd : w'.dropped = w.dropped ++ [q])
    (hreason : ∀ x, Arriving s initial x w written d frame.packet → Reason s initial x w written q) :
    Drops s initial w w' written sent := by
  have hmem := List.mem_of_getElem? hk
  obtain ⟨x, hx, path, hj⟩ := h.journeys.flight (d, frame) (by rw [h.simulates.flight]; exact hmem)
  exact .inr ⟨q, hd, x, hx, hq.trans hj.keeps.1, hreason x ⟨frame, path, hmem, rfl, hj⟩⟩

theorem Tracks.send (h : Tracks s initial w written sent n r arrived) {u source : Nat} {p : P}
    (hrun : w.send s u source p = .ok w') :
    (∃ r' arrived', Tracks s initial w' written (sent ++ [(u, p)]) n r' arrived') ∧
      Drops s initial w w' written (sent ++ [(u, p)]) := by
  rcases h.simulates.send h.loaded.holds hrun with ⟨hr, rfl⟩ | ⟨via, peer, frame, hl⟩
  · exact ⟨⟨_, _, h.refuse u p⟩, .inr ⟨p, rfl, (u, p), by simp, rfl, .unsent hr⟩⟩
  · exact ⟨⟨_, _, h.enter hl⟩, .inl hl.dropped⟩

theorem Tracks.event (h : Tracks s initial w written sent n r arrived) (hevent : Plane.Event s w w') :
    (∃ r' arrived', Tracks s initial w' written sent (n + 1) r' arrived') ∧ Drops s initial w w' written sent := by
  cases hevent with
  | complete e i w' hi hrun =>
    obtain ⟨he, hs, ⟨-, err, hrun'⟩ | ⟨w₁, hrun', hstate, hd, hdr, hsim⟩⟩ := h.simulates.complete hi <;>
      cases hrun'.symm.trans hrun
    exact ⟨⟨_, _, h.complete he hs hstate hd hsim⟩, .inl hdr⟩
  | receive k d frame w' hk hrun =>
    rcases h.simulates.receive h.loaded.holds hk hrun with ⟨hown, rfl⟩ |
      ⟨hown, ⟨hr | httl, rfl⟩ | ⟨p', hforward, ⟨hr, rfl⟩ | ⟨via, peer, frame', hl⟩⟩⟩
    · exact ⟨⟨_, _, h.deliver hk hown⟩, .inl rfl⟩
    · exact ⟨⟨_, _, h.lose hk rfl⟩, h.drops hk rfl rfl fun x hx => .unrouted hx hown hr⟩
    · exact ⟨⟨_, _, h.lose hk rfl⟩, h.drops hk rfl rfl fun x hx => .expired hx hown httl⟩
    · have hkey := (s.ip.forwarded _ _ hforward).1
      exact ⟨⟨_, _, h.lose hk hkey⟩, h.drops hk hkey rfl fun x hx => .overflow hx hown hforward hr⟩
    · exact ⟨⟨_, _, h.pass hk hown hforward hl⟩, .inl hl.dropped⟩
  | corrupt k d frame hk he =>
    exact ⟨⟨_, _, h.lose hk rfl⟩, h.drops hk rfl rfl fun x hx => .corrupted hx he⟩

/-- What every order of the events keeps. -/
theorem Plane.Reach.tracks (h : Plane.Reach s initial w written sent n) :
    ∃ r arrived, Tracks s initial w written sent n r arrived := by
  induction h with
  | start hl =>
    refine ⟨Relay.idle, fun _ => [], hl, List.prefix_refl _, simulates_start s _, .idle, ?_, Relay.all_idle,
      List.forall_mem_nil _⟩
    rw [Relay.work_idle]
    exact Nat.zero_le _
  | wait t _ ht ih =>
    obtain ⟨r, arrived, h⟩ := ih
    exact ⟨r, arrived, h.loaded, h.grows, h.simulates.wait ht, h.run, h.work, h.journeys, h.delivered⟩
  | update intervalNs t lines state' next _ hlines hrun ih =>
    obtain ⟨r, arrived, h⟩ := ih
    exact ⟨r, arrived, h.update (.update intervalNs t lines state' next h.loaded hlines hrun)⟩
  | send u source p w' _ hrun ih =>
    obtain ⟨r, arrived, h⟩ := ih
    exact (h.send hrun).1
  | event _ hevent ih =>
    obtain ⟨r, arrived, h⟩ := ih
    exact (h.event hevent).1

/-- A step to a later state keeps what was lost, and adds what it drops. -/
theorem lost_step {written' : List Str} {sent' : List (Nat × P)} (h : Plane.Reach s initial w written sent n)
    (hsent : sent ⊆ sent')
    (hstep : ∀ w₀ before, Plane.Continues s w₀ before w written → Plane.Continues s w₀ before w' written')
    (hdrops : Drops s initial w w' written sent')
    (ih : ∀ earlier q, earlier ++ [q] <+: w.dropped → Lost s initial w written sent earlier q) :
    ∀ earlier q, earlier ++ [q] <+: w'.dropped → Lost s initial w' written' sent' earlier q := by
  intro earlier q hq
  have hold : earlier ++ [q] <+: w.dropped → Lost s initial w' written' sent' earlier q := by
    intro hq
    obtain ⟨x, hx, hkey, w₀, before, sent₀, n₀, hreach, hd, hreason, hcontinues⟩ := ih earlier q hq
    exact ⟨x, hsent hx, hkey, w₀, before, sent₀, n₀, hreach, hd, hreason, hstep w₀ before hcontinues⟩
  rcases hdrops with hsame | ⟨q', hmore, x, hx, hkey, hreason⟩
  · rw [hsame] at hq
    exact hold hq
  · rw [hmore] at hq
    rcases List.prefix_concat_iff.1 hq with hlast | hq
    · obtain ⟨hearlier, hsingle⟩ := List.append_inj' hlast rfl
      obtain rfl : q = q' := List.singleton_inj.1 hsingle
      subst hearlier
      exact ⟨x, hx, hkey, w, written, sent, n, h, rfl, hreason, hstep w written .here⟩
    · exact hold hq

/-- Every packet that was dropped was dropped for a reason. -/
theorem Plane.Reach.lost (h : Plane.Reach s initial w written sent n) :
    ∀ earlier q, earlier ++ [q] <+: w.dropped → Lost s initial w written sent earlier q := by
  induction h with
  | start hl =>
    intro earlier q hq
    exact absurd (List.prefix_nil.1 hq) (by simp)
  | wait t h ht ih => exact lost_step h (List.Subset.refl _) (fun _ _ hc => hc.wait t ht) (.inl rfl) ih
  | update intervalNs t lines state' next h hlines hrun ih =>
    exact lost_step h (List.Subset.refl _) (fun _ _ hc => hc.update intervalNs t lines state' next hlines hrun) (.inl rfl) ih
  | send u source p w' h hrun ih =>
    obtain ⟨r, arrived, ht⟩ := h.tracks
    exact lost_step h (List.subset_append_left ..) (fun _ _ hc => hc.send u source p w' hrun) (ht.send hrun).2 ih
  | event h hevent ih =>
    obtain ⟨r, arrived, ht⟩ := h.tracks
    exact lost_step h (List.Subset.refl _) (fun _ _ hc => hc.event hevent) (ht.event hevent).2 ih

/-! ## In every order of the events -/

/-- The names of the packets that wait in a queue or are between two devices. -/
def underWay (s : Scenario P K M) (w : Plane P M) : List K :=
  (s.net.ends.flatMap fun e => (w.devices e).queue.map fun frame => s.ip.key frame.packet) ++
    w.receptions.map fun job => s.ip.key job.2.packet

/-- The names of the packets that were delivered or dropped. -/
def ended (s : Scenario P K M) (w : Plane P M) : List K :=
  w.delivered.map (fun y => s.ip.key y.2) ++ w.dropped.map s.ip.key

theorem Tracks.underWay (h : Tracks s initial w written sent n r arrived) : underWay s w =
    (s.net.ends.flatMap fun e => (r.stations e).waiting.map (jobKey s)) ++ r.flight.map (jobKey s) := by
  have hqueue : ∀ e, (w.devices e).queue.map (fun frame => s.ip.key frame.packet) =
      (r.stations e).waiting.map (jobKey s) := by
    intro e
    rw [(h.simulates.works e).queue, List.map_map]
    rfl
  unfold Satellite.underWay
  simp only [hqueue]
  rw [h.simulates.flight]
  rfl

theorem Tracks.conserved (h : Tracks s initial w written sent n r arrived) :
    (Satellite.underWay s w ++ ended s w).Perm (sent.map fun x => s.ip.key x.2) := by
  rw [h.underWay]
  exact (h.simulates.gone.symm.append_left _).trans (h.run.conserved (nodup_ends s.net))

/-- A packet between two devices is on its journey. -/
theorem Tracks.onJourney (h : Tracks s initial w written sent n r arrived) {job : End × Frame P} (hjob : job ∈ w.receptions) :
    OnJourney s initial written sent job :=
  h.journeys.flight job (by rw [h.simulates.flight]; exact hjob)

theorem Tracks.bounded (h : Tracks s initial w written sent n r arrived) : n ≤ budget s sent := by
  have := h.work
  omega

/-- With no event left, all packets have left the network. -/
theorem Tracks.dry (h : Tracks s initial w written sent n r arrived) (hquiet : w.Quiet) :
    (ended s w).Perm (sent.map fun x => s.ip.key x.2) := by
  obtain ⟨hpending, hreceptions⟩ := hquiet
  refine h.simulates.gone.symm.trans (h.run.dry (nodup_ends s.net) (fun e _ => ?_) ?_)
  · have hserving := (h.simulates.works e).pending
    rw [hpending e] at hserving
    cases hs : (r.stations e).serving with
    | none => rfl
    | some j =>
      rw [hs] at hserving
      cases hserving
  · rw [h.simulates.flight, hreceptions]

theorem Tracks.completes (h : Tracks s initial w written sent n r arrived) (hin : InTime s.tracking w.now) {e : End} {i : Nat}
    (hi : i < (w.devices e).pending) : ∃ w', w.complete s e i = .ok w' := by
  obtain ⟨-, -, ⟨hlate, -⟩ | ⟨w', hw', -⟩⟩ := h.simulates.complete hi
  · exact absurd hin hlate
  · exact ⟨w', hw'⟩

/-- A reception in time fails only for a line that was not loaded. -/
theorem Tracks.receives (h : Tracks s initial w written sent n r arrived) (ha : ∀ x ∈ sent, Addressed s x.2)
    (hin : InTime s.tracking w.now) {k : Nat} {d : End} {frame : Frame P} (hk : w.receptions[k]? = some (d, frame)) :
    (∃ w', (w.land k).receive s d frame = .ok w') ∨
      s.ip.isDestinationAddress d.1 (s.ip.destination frame.packet) = false ∧ Unset s written d.1 frame.packet ∧
        (w.land k).receive s d frame = .error unsetFail := by
  obtain ⟨x, hx, path, hj⟩ := h.onJourney (List.mem_of_getElem? hk)
  have haddressed : Addressed s frame.packet := by
    have hx := ha x hx
    unfold Addressed at hx ⊢
    rwa [hj.keeps.2.1, hj.keeps.2.2.1]
  exact h.simulates.receive_total h.loaded.holds hk haddressed hin

/-- Every packet that was sent is at exactly one place: it waits in a queue, is between two devices, or was delivered or
dropped. -/
theorem packets_conserved (h : Plane.Reach s initial w written sent n) :
    (underWay s w ++ ended s w).Perm (sent.map fun x => s.ip.key x.2) := by
  obtain ⟨r, arrived, ht⟩ := h.tracks
  exact ht.conserved

theorem packets_conserved_pairScenario : ∃ w n, Plane.Reach (pairScenario Nat) twoSatellitesLines w twoSatellitesLines
    [(2, pairDatagram)] n ∧ w.delivered = [(3, { pairDatagram with timeToLive := 62 })] ∧
    (underWay (pairScenario Nat) w ++ ended (pairScenario Nat) w).Perm [7] := by
  obtain ⟨w, n, h, hd⟩ := reach_pairScenario
  exact ⟨w, n, h, hd, packets_conserved h⟩

/-- At most as many events happen in the network as the times to live of the packets allow; and when a time comes at which
none is left, all packets have been delivered or dropped. -/
theorem network_runs_dry (h : Plane.Reach s initial w written sent n) :
    n ≤ budget s sent ∧ (w.Quiet → (ended s w).Perm (sent.map fun x => s.ip.key x.2)) := by
  obtain ⟨r, arrived, ht⟩ := h.tracks
  exact ⟨ht.bounded, ht.dry⟩

theorem network_runs_dry_pairScenario : ∃ w n, Plane.Reach (pairScenario Nat) twoSatellitesLines w twoSatellitesLines
    [(2, pairDatagram)] n ∧ n ≤ 130 := by
  obtain ⟨w, n, h, -⟩ := reach_pairScenario
  exact ⟨w, n, h, (network_runs_dry h).1⟩

/-- If the packets that were sent are for a loopback or for an interface from a source that every arbiter knows, then as
long as the counters can count the time, no event fails but for a line that was not loaded. -/
theorem events_succeed (h : Plane.Reach s initial w written sent n) (ha : ∀ x ∈ sent, Addressed s x.2)
    (hin : InTime s.tracking w.now) :
    (∀ e i, i < (w.devices e).pending → ∃ w', w.complete s e i = .ok w') ∧
    ∀ k d frame, w.receptions[k]? = some (d, frame) → (∃ w', (w.land k).receive s d frame = .ok w') ∨
      s.ip.isDestinationAddress d.1 (s.ip.destination frame.packet) = false ∧ Unset s written d.1 frame.packet ∧
        (w.land k).receive s d frame = .error unsetFail := by
  obtain ⟨r, arrived, ht⟩ := h.tracks
  exact ⟨fun e i hi => ht.completes hin hi, fun k d frame hk => ht.receives ha hin hk⟩

theorem addressed_pairDatagram : Addressed (pairScenario Nat) pairDatagram :=
  .inr ⟨⟨(3, 1), ⟨by decide, .gsl, rfl⟩, rfl⟩, fun _ => ⟨2, rfl⟩⟩

theorem events_succeed_pairScenario : ∃ w n, Plane.Reach (pairScenario Nat) twoSatellitesLines w twoSatellitesLines
    [(2, pairDatagram)] n ∧ ∀ e i, i < (w.devices e).pending → ∃ w', w.complete (pairScenario Nat) e i = .ok w' := by
  obtain ⟨w, n, h, -⟩ := reach_pairScenario
  exact ⟨w, n, h, (events_succeed h (List.forall_mem_singleton.2 addressed_pairDatagram) nofun).1⟩

end Runs

/-! ## While the files do not change -/

section Static

variable {s : Scenario P K M} {initial written : List Str} {x : Nat × P} {path : List Nat} {d : End} {q : P}

theorem Journey.grows (h : Journey s initial x written path d q) : initial <+: written := by
  induction h with
  | first hi => exact hi
  | later lines _ ih => exact ih.trans (List.prefix_append ..)
  | next _ _ _ _ ih => exact ih

theorem Journey.static {lines : List Str} (h : Journey s initial x written path d q) (hw : written ++ lines = initial) :
    written = initial := by
  have hlen := congrArg List.length hw
  rw [List.length_append] at hlen
  exact (h.grows.eq_of_length_le (by omega)).symm

omit [DecidableEq M] in
/-- The dictionary of a script that has read the loaded files. -/
theorem replay_lookup {sim : BasicSimulation} {net : Network M} {texts : List Str} {state : ForwardingState}
    {script : Script} {maxStrDigits : Nat} {fstate : Fstate} (h : Loaded sim net (texts.flatMap Python.getlines) state)
    (hr : replay script maxStrDigits texts = .ok fstate) (u v : Nat) :
    fstate.lookup ((u : Int), (v : Int)) =
      (lastLine (texts.flatMap Python.getlines) u v).map Line.nextHopNodeId := by
  obtain ⟨ls, hls⟩ := h.read
  obtain ⟨-, rfl⟩ := (replay_read hls).1 hr
  exact lookup_lines hls u v

variable {fstate : Fstate} {e : End}

/-- The next hops lead along at most one path. -/
theorem Reaches.unique {b a : Int} {path path' : List Int} (h : Reaches fstate b a path) (h' : Reaches fstate b a path') :
    path = path' := by
  induction h generalizing path' with
  | arrived =>
    cases h' with
    | arrived => rfl
    | hop hne => exact absurd rfl hne
  | hop hne hlookup hnext _ ih =>
    cases h' with
    | arrived => exact absurd rfl hne
    | hop _ hlookup' _ hrest =>
      cases hlookup.symm.trans hlookup'
      rw [ih hrest]

/-- Where a path that has not arrived goes on. -/
theorem Reaches.step {b a : Int} {path : List Int} (h : Reaches fstate b a path) (hne : a ≠ b) :
    ∃ next rest, fstate.lookup (a, b) = some next ∧ path = a :: next :: rest ∧ next ≠ -1 ∧
      Reaches fstate b next (next :: rest) := by
  cases h with
  | arrived => exact absurd rfl hne
  | hop _ hlookup hnext hrest =>
    obtain ⟨rest, rfl⟩ := hrest.head
    exact ⟨_, rest, hlookup, rfl, hnext, hrest⟩

/-- A hop for an interface goes to the next hop of the dictionary. -/
theorem Hop.lookup (hlookup : ∀ u v : Nat, fstate.lookup ((u : Int), (v : Int)) =
      (lastLine written u v).map Line.nextHopNodeId) (hi : IsInterface s.net e) {u : Nat}
    (h : Hop s written u (s.addr.ip e) d) : fstate.lookup ((u : Int), (e.1 : Int)) = some (d.1 : Int) := by
  generalize hdest : s.addr.ip e = destination at h
  cases h with
  | loopback hloop =>
    rw [← hdest, (s.unicast e hi).loopback] at hloop
    cases hloop
  | @line e' _ l hi' he hl hnode =>
    cases s.addr.ip_inj e e' hi.1 hi'.1 (hdest.trans he)
    rw [hlookup, hl, Option.map_some, hnode]

/-- A node that forwards a packet is not the one that it is addressed to, and its next hop is that of the files. -/
theorem Journey.forwards {q' : P} {d' : End} (hlookup : ∀ u v : Nat, fstate.lookup ((u : Int), (v : Int)) =
      (lastLine written u v).map Line.nextHopNodeId) (hi : IsInterface s.net e) (hdest : s.ip.destination x.2 = s.addr.ip e)
    (h : Journey s initial x written path d q) (hown : s.ip.isDestinationAddress d.1 (s.ip.destination q) = false)
    (hforward : s.ip.forward q = some q') (hhop : Hop s written d.1 (s.ip.destination q') d') :
    d.1 ≠ e.1 ∧ fstate.lookup ((d.1 : Int), (e.1 : Int)) = some (d'.1 : Int) := by
  have hdest' : s.ip.destination q = s.addr.ip e := h.keeps.2.2.1.trans hdest
  rw [(s.ip.forwarded _ _ hforward).2.2.1, hdest'] at hhop
  refine ⟨fun he => ?_, hhop.lookup hlookup hi⟩
  rw [hdest', (s.isDestinationAddress_iff e hi d.1).2 he] at hown
  cases hown

/-- The path of a packet is the beginning of the one that the next hops lead along, from the node that it has reached on. -/
theorem Journey.reaches (hlookup : ∀ u v : Nat, fstate.lookup ((u : Int), (v : Int)) =
      (lastLine initial u v).map Line.nextHopNodeId) (hi : IsInterface s.net e) (hdest : s.ip.destination x.2 = s.addr.ip e)
    (hne : x.1 ≠ e.1) (h : Journey s initial x written path d q) (hstatic : written = initial) {rest : List Int}
    (hrest : Reaches fstate e.1 d.1 (d.1 :: rest)) :
    Reaches fstate e.1 x.1 (path.map Nat.cast ++ rest) := by
  induction h generalizing rest with
  | first _ hhop =>
    subst hstatic
    rw [hdest] at hhop
    exact .hop (by omega) (hhop.lookup hlookup hi) (by omega) hrest
  | later lines hj ih => exact ih (hj.static hstatic) hrest
  | @next written path d q q' d' hj hown hforward hhop ih =>
    subst hstatic
    obtain ⟨hne', hnext⟩ := hj.forwards hlookup hi hdest hown hforward hhop
    rw [List.map_append, List.append_assoc]
    exact ih rfl (.hop (by omega) hnext (by omega) hrest)

/-- Where the next hops lead on from the node that a packet has reached. -/
theorem Journey.rest (hlookup : ∀ u v : Nat, fstate.lookup ((u : Int), (v : Int)) =
      (lastLine initial u v).map Line.nextHopNodeId) (hi : IsInterface s.net e) (hdest : s.ip.destination x.2 = s.addr.ip e)
    (hne : x.1 ≠ e.1) (h : Journey s initial x written path d q) (hstatic : written = initial) {full : List Int}
    (hfull : Reaches fstate e.1 x.1 full) :
    ∃ rest, full = path.map Nat.cast ++ rest ∧ Reaches fstate e.1 d.1 (d.1 :: rest) := by
  induction h with
  | first _ hhop =>
    subst hstatic
    rw [hdest] at hhop
    obtain ⟨next, rest, hlookup', rfl, -, hrest⟩ := hfull.step (by omega)
    cases (hhop.lookup hlookup hi).symm.trans hlookup'
    exact ⟨rest, rfl, hrest⟩
  | later lines hj ih => exact ih (hj.static hstatic)
  | @next written path d q q' d' hj hown hforward hhop ih =>
    subst hstatic
    obtain ⟨hne', hnext⟩ := hj.forwards hlookup hi hdest hown hforward hhop
    obtain ⟨rest, rfl, hreaches⟩ := ih rfl
    obtain ⟨next, rest', hlookup', hcons, -, hreaches'⟩ := hreaches.step (by omega)
    cases hnext.symm.trans hlookup'
    cases hcons
    refine ⟨rest', ?_, hreaches'⟩
    rw [List.map_append, List.append_assoc]
    rfl

variable {w : Plane P M} {sent : List (Nat × P)} {n : Nat} {texts : List Str} {script : Script} {maxStrDigits : Nat}

theorem getlines_twoSatellites : [twoSatellitesText].flatMap Python.getlines = twoSatellitesLines := by decide +kernel

/-- The dictionary of the scripts. -/
def pairTable : Fstate :=
  ((((∅ : Fstate).insert (2, 3) 0).insert (0, 3) 1).insert (3, 2) (-1) |>.insert (1, 3) 3).insert (3, 2) 1

theorem replay_pairTable : replay .pathTruth 4300 [twoSatellitesText] = .ok pairTable := rfl

/-- A script finds a path for the packet, for which its time to live is enough. -/
def HasPath (s : Scenario P K M) (script : Script) (fstate : Fstate) (x : Nat × P) : Prop :=
  Sourced s.ipToNodeId (s.ip.source x.2) ∧ ∃ e path, IsInterface s.net e ∧ s.ip.destination x.2 = s.addr.ip e ∧
    x.1 ≠ e.1 ∧ walk script fstate x.1 e.1 = some path ∧ path.length ≤ s.ip.timeToLive x.2 + 1

/-- With a path, and where nothing is refused or corrupted, there is no reason to drop a packet. -/
theorem HasPath.no_reason (hlookup : ∀ u v : Nat, fstate.lookup ((u : Int), (v : Int)) =
      (lastLine initial u v).map Line.nextHopNodeId) (hfull : ∀ e queue frame, s.full e queue frame = false)
    (herror : ∀ d, s.errorModel d = false) (hp : HasPath s script fstate x) (w : Plane P M) (q : P) :
    ¬ Reason s initial x w initial q := by
  obtain ⟨-, e, full, hi, hdest, hne, hwalk, httl⟩ := hp
  have hreaches := (walk_iff.1 hwalk).1
  -- from a node that is not the target, the next hops lead on
  have hrouted : ∀ {u : Nat} {rest : List Int}, u ≠ e.1 → Reaches fstate e.1 u rest →
      ¬ Unrouted s initial u (s.addr.ip e) := by
    intro u rest hu hrest hr
    obtain ⟨next, -, hnext, -, hne, -⟩ := hrest.step (by omega)
    cases hr with
    | any h0 => exact (s.unicast e hi).any h0
    | @line e' l hi' he hl hdrop =>
      cases s.addr.ip_inj e e' hi.1 hi'.1 he
      rw [hlookup, hl, Option.map_some, hdrop] at hnext
      exact hne (Option.some.inj hnext).symm
  have hroom : ∀ {u : Nat} {p : P}, ¬ Overflows s w initial u p := by
    rintro u p ⟨e', l, -, -, -, -, hq⟩
    rw [hfull] at hq
    cases hq
  -- a packet on its way is at a node of the path, and has time to live for the rest
  have hway : ∀ {d q}, Arriving s initial x w initial d q → s.ip.isDestinationAddress d.1 (s.ip.destination q) = false →
      d.1 ≠ e.1 ∧ s.ip.destination q = s.addr.ip e ∧ 1 < s.ip.timeToLive q ∧ ∃ rest, Reaches fstate e.1 d.1 rest := by
    rintro d q ⟨frame, path, -, -, hj⟩ hown
    obtain ⟨-, -, hdestq, httlq, -, -⟩ := hj.keeps
    rw [hdest] at hdestq
    have hd : d.1 ≠ e.1 := by
      intro he
      rw [hdestq, (s.isDestinationAddress_iff e hi d.1).2 he] at hown
      cases hown
    obtain ⟨rest, rfl, hrest⟩ := hj.rest hlookup hi hdest hne rfl hreaches
    obtain ⟨next, rest', -, hcons, -, -⟩ := hrest.step (by omega)
    cases hcons
    rw [List.length_append, List.length_map, List.length_cons] at httl
    exact ⟨hd, hdestq, by omega, _, hrest⟩
  intro hreason
  cases hreason with
  | unsent hr =>
    rw [hdest] at hr
    exact hrouted hne hreaches (hr.resolve_right hroom)
  | unrouted ha hown hr =>
    obtain ⟨hd, hdestq, -, rest, hrest⟩ := hway ha hown
    rw [hdestq] at hr
    exact hrouted hd hrest hr
  | overflow _ _ _ hr => exact hroom hr
  | expired ha hown httl' =>
    obtain ⟨-, -, hlt, -⟩ := hway ha hown
    omega
  | corrupted _ he =>
    rw [herror] at he
    cases he

/-- Nothing stands in the way of the packets: no queue is full, nothing is corrupted, and a script finds a path for each. -/
structure Unhindered (s : Scenario P K M) (script : Script) (fstate : Fstate) (sent : List (Nat × P)) : Prop where
  full : ∀ e queue frame, s.full e queue frame = false
  error : ∀ d, s.errorModel d = false
  path : ∀ x ∈ sent, HasPath s script fstate x

theorem Unhindered.addressed (hu : Unhindered s script fstate sent) : ∀ x ∈ sent, Addressed s x.2 := by
  intro x hx
  obtain ⟨hs, e, path, hi, hdest, -⟩ := hu.path x hx
  exact .inr ⟨⟨e, hi, hdest⟩, hs⟩

theorem Unhindered.dropped (hu : Unhindered s script fstate sent) (hreplay : replay script maxStrDigits texts = .ok fstate)
    (h : Plane.Reach s (texts.flatMap Python.getlines) w (texts.flatMap Python.getlines) sent n) : w.dropped = [] := by
  obtain ⟨r, arrived, ht⟩ := h.tracks
  cases hd : w.dropped with
  | nil => rfl
  | cons q rest =>
    obtain ⟨x, hx, -, w₀, before, sent₀, n₀, hreach, -, hreason, hcontinues⟩ := h.lost [] q (by simp [hd])
    obtain ⟨r₀, arrived₀, ht₀⟩ := hreach.tracks
    cases hcontinues.lines.eq_of_length_le ht₀.grows.length_le
    exact absurd hreason ((hu.path x hx).no_reason (replay_lookup ht.loaded hreplay) hu.full hu.error w₀ q)

/-- A reception would fail only where the path ends. -/
theorem Unhindered.receives (hu : Unhindered s script fstate sent) (hreplay : replay script maxStrDigits texts = .ok fstate)
    (h : Plane.Reach s (texts.flatMap Python.getlines) w (texts.flatMap Python.getlines) sent n)
    (hin : InTime s.tracking w.now) {k : Nat} {d : End}
    {frame : Frame P} (hk : w.receptions[k]? = some (d, frame)) : ∃ w', (w.land k).receive s d frame = .ok w' := by
  obtain ⟨r, arrived, ht⟩ := h.tracks
  rcases ht.receives hu.addressed hin hk with hok | ⟨hown, ⟨e', hi', he', hunset⟩, -⟩
  · exact hok
  exfalso
  have hlookup := replay_lookup ht.loaded hreplay
  obtain ⟨x, hx, path, hj⟩ := ht.onJourney (List.mem_of_getElem? hk)
  change Journey s _ x _ path d frame.packet at hj
  obtain ⟨-, e, full, hi, hdest, hne, hwalk, -⟩ := hu.path x hx
  have hdestq : s.ip.destination frame.packet = s.addr.ip e := hj.keeps.2.2.1.trans hdest
  rw [← s.addr.ip_inj e e' hi.1 hi'.1 (hdestq.symm.trans he')] at hunset
  have hd : d.1 ≠ e.1 := by
    intro he
    rw [hdestq, (s.isDestinationAddress_iff e hi d.1).2 he] at hown
    cases hown
  obtain ⟨rest, -, hrest⟩ := hj.rest hlookup hi hdest hne rfl (walk_iff.1 hwalk).1
  obtain ⟨next, -, hnext, -⟩ := hrest.step (by omega)
  rw [hlookup, hunset] at hnext
  cases hnext

/-- Some event happens as long as one is left. -/
theorem Unhindered.event (hu : Unhindered s script fstate sent) (hreplay : replay script maxStrDigits texts = .ok fstate)
    (h : Plane.Reach s (texts.flatMap Python.getlines) w (texts.flatMap Python.getlines) sent n)
    (hin : InTime s.tracking w.now) (hquiet : ¬ w.Quiet) : ∃ w', Plane.Event s w w' := by
  by_cases hpending : ∀ e, (w.devices e).pending = 0
  · obtain ⟨⟨d, frame⟩, rest, hrest⟩ := List.exists_cons_of_ne_nil fun hr => hquiet ⟨hpending, hr⟩
    have hk : w.receptions[0]? = some (d, frame) := by rw [hrest]; rfl
    obtain ⟨w₁, hw₁⟩ := hu.receives hreplay h hin hk
    exact ⟨w₁, .receive 0 d frame w₁ hk hw₁⟩
  · simp only [not_forall] at hpending
    obtain ⟨e, he⟩ := hpending
    obtain ⟨r, arrived, ht⟩ := h.tracks
    obtain ⟨w₁, hw₁⟩ := ht.completes hin (Nat.pos_of_ne_zero he)
    exact ⟨w₁, .complete e 0 w₁ (Nat.pos_of_ne_zero he) hw₁⟩

/-- While the files stay the same, no queue is full and nothing is corrupted, packets for which a script finds a path are
never dropped, and as long as the counters can count the time, no event fails, and from every state on the events come to
an end, at which all packets are delivered. -/
theorem packets_arrive (hreplay : replay script maxStrDigits texts = .ok fstate)
    (hfull : ∀ e queue frame, s.full e queue frame = false) (herror : ∀ d, s.errorModel d = false)
    (hp : ∀ x ∈ sent, HasPath s script fstate x)
    (h : Plane.Reach s (texts.flatMap Python.getlines) w (texts.flatMap Python.getlines) sent n)
    (hin : InTime s.tracking w.now) :
    w.dropped = [] ∧ (∀ e i, i < (w.devices e).pending → ∃ w', w.complete s e i = .ok w') ∧
    (∀ k d frame, w.receptions[k]? = some (d, frame) → ∃ w', (w.land k).receive s d frame = .ok w') ∧
    (∃ w', Relation.ReflTransGen (Plane.Event s) w w' ∧ w'.Quiet) ∧
    (w.Quiet → (w.delivered.map fun y => s.ip.key y.2).Perm (sent.map fun x => s.ip.key x.2)) := by
  have hu : Unhindered s script fstate sent := ⟨hfull, herror, hp⟩
  obtain ⟨r, arrived, ht⟩ := h.tracks
  refine ⟨hu.dropped hreplay h, fun e i hi => ht.completes hin hi, fun k d frame hk => hu.receives hreplay h hin hk, ?_,
    fun hquiet => ?_⟩
  · refine comes_to_rest (fun w n => Plane.Reach s _ w _ sent n ∧ InTime s.tracking w.now) (budget s sent)
      (fun w n h => ?_) (fun w n h hquiet => ?_) ⟨h, hin⟩
    · obtain ⟨r, arrived, ht⟩ := h.1.tracks
      exact ht.bounded
    · obtain ⟨w', hevent⟩ := hu.event hreplay h.1 h.2 hquiet
      exact ⟨w', hevent, h.1.event hevent, by rw [hevent.extends.now]; exact h.2⟩
  · have hended := ht.dry hquiet
    unfold ended at hended
    rwa [hu.dropped hreplay h, List.map_nil, List.append_nil] at hended

theorem hasPath_pairDatagram : HasPath (pairScenario Nat) .pathTruth pairTable (2, pairDatagram) := by
  refine ⟨fun _ => ⟨2, rfl⟩, (3, 1), [2, 0, 1, 3], ⟨by decide, .gsl, rfl⟩, rfl, by decide, ?_, by decide⟩
  exact walk_iff.2 ⟨.hop (by decide) (by decide) (by decide) (.hop (by decide) (by decide) (by decide)
    (.hop (by decide) (by decide) (by decide) .arrived)), by decide⟩

theorem packets_arrive_pairScenario : ∃ w n, Plane.Reach (pairScenario Nat) ([twoSatellitesText].flatMap Python.getlines) w
    ([twoSatellitesText].flatMap Python.getlines) [(2, pairDatagram)] n ∧ w.dropped = [] ∧
    ∃ w', Relation.ReflTransGen (Plane.Event (pairScenario Nat)) w w' ∧ w'.Quiet := by
  obtain ⟨w, n, h, -⟩ := reach_pairScenario
  rw [← getlines_twoSatellites] at h
  obtain ⟨hdropped, -, -, hquiet, -⟩ := packets_arrive replay_pairTable (fun _ _ _ => rfl) (fun _ => rfl)
    (List.forall_mem_singleton.2 hasPath_pairDatagram) h nofun
  exact ⟨w, n, h, hdropped, hquiet⟩

end Static

end SatNet.Satellite
