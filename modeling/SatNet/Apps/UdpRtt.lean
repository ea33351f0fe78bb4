/-
A ping of `pingmesh-scheduler.cc`: the `UdpRttClient` of a pair and the `UdpRttServer` that echoes it, over
a network that may lose, reorder and duplicate their packets, and the rows of results.
-/
import SatNet.Base.Memory
import Mathlib.Logic.Relation

namespace SatNet.Apps

open SatNet.Loop

/-! ## The data -/

/-- A `SeqTsHeader`: a `uint32_t` sequence number and the time it was created. -/
structure SeqTs where
  seq : Nat
  ts : Nat
  deriving Repr, DecidableEq

/-- The fields of the client that its pings change. -/
structure UdpRttClient where
  sent : Nat
  sendRequestTimestamps : List Int
  replyTimestamps : List Int
  receiveReplyTimestamps : List Int
  deriving Repr, DecidableEq

def UdpRttClient.initial : UdpRttClient := ⟨0, [], [], []⟩

/-! ## The calls -/

/-- `Send()`: the request, and the client after it; `m_sent` is a `uint32_t`. -/
def UdpRttClient.send (now : Nat) (c : UdpRttClient) : UdpRttClient × SeqTs :=
  ({ sent := toUInt32 (c.sent + 1 : Nat)
     sendRequestTimestamps := c.sendRequestTimestamps ++ [(now : Int)]
     replyTimestamps := c.replyTimestamps ++ [-1]
     receiveReplyTimestamps := c.receiveReplyTimestamps ++ [-1] },
   ⟨c.sent, now⟩)

/-- `HandleRead` of one reply at the client. -/
def UdpRttClient.handleRead (now : Nat) (incoming : SeqTs) (c : UdpRttClient) : Res UdpRttClient := do
  let reply ← setIndex c.replyTimestamps incoming.seq (incoming.ts : Int)
  let receive ← setIndex c.receiveReplyTimestamps incoming.seq (now : Int)
  .ok { c with replyTimestamps := reply, receiveReplyTimestamps := receive }

/-- `HandleRead` of one request at the server: the reply, with the time of the server on it. -/
def serverHandleRead (now : Nat) (incoming : SeqTs) : SeqTs := ⟨incoming.seq, now⟩

/-! ## The results -/

/-- A line of `pingmesh.csv`. -/
structure PingRow where
  fromNodeId : Nat
  toNodeId : Nat
  j : Nat
  sendRequestTimestamp : Int
  replyTimestamp : Int
  receiveReplyTimestamp : Int
  latencyToThereNs : Int
  latencyFromThereNs : Int
  rttNs : Int
  replyArrived : String
  deriving Repr, DecidableEq

/-- The line of ping `j`, whose times are `int64_t`. -/
def pingRow (fromNodeId toNodeId : Nat) (c : UdpRttClient) (j : Nat) : Res PingRow := do
  let send ← index c.sendRequestTimestamps j
  let reply ← index c.replyTimestamps j
  let receive ← index c.receiveReplyTimestamps j
  let arrived := reply ≠ -1
  let there ← (if arrived then int64 (reply - send) else .ok (-1))
  let back ← (if arrived then int64 (receive - reply) else .ok (-1))
  let rtt ← (if arrived then int64 (there + back) else .ok (-1))
  .ok { fromNodeId, toNodeId, j, sendRequestTimestamp := send, replyTimestamp := reply
        receiveReplyTimestamp := receive, latencyToThereNs := there, latencyFromThereNs := back, rttNs := rtt
        replyArrived := if arrived then "YES" else "LOST" }

/-- The loop of `WriteResults` over the pings of a client. -/
def pingRows (fromNodeId toNodeId : Nat) (c : UdpRttClient) : Res (List PingRow) :=
  forRange c.sent (fun j rows => do
    let row ← pingRow fromNodeId toNodeId c j
    .ok (rows ++ [row])) []

/-! ## Runs -/

/-- The clock, the client, and the requests and replies that were ever sent: any of them may arrive at any
later time, any number of times, or never. -/
structure Ping where
  now : Nat
  client : UdpRttClient
  requests : List SeqTs
  replies : List SeqTs
  deriving Repr, DecidableEq

def Ping.initial : Ping := ⟨0, .initial, [], []⟩

inductive PingEvent where
  /-- The clock goes on. -/
  | wait (t : Nat)
  | send
  | serverRead (request : SeqTs)
  | clientRead (reply : SeqTs)
  deriving Repr, DecidableEq

def Ping.step (s : Ping) : PingEvent → Res Ping
  | .wait t => .ok { s with now := t }
  | .send => .ok { s with client := (s.client.send s.now).1, requests := s.requests ++ [(s.client.send s.now).2] }
  | .serverRead request => .ok { s with replies := s.replies ++ [serverHandleRead s.now request] }
  | .clientRead reply => do
    let client ← s.client.handleRead s.now reply
    .ok { s with client }

/-- The clock of nanoseconds is an `int64_t` that never goes back, the pings stay below 2^32, and what
arrives was sent. -/
def PingPermitted (s : Ping) : PingEvent → Prop
  | .wait t => s.now ≤ t ∧ t < 2 ^ 63
  | .send => s.client.sendRequestTimestamps.length + 1 < 2 ^ 32
  | .serverRead request => request ∈ s.requests
  | .clientRead reply => reply ∈ s.replies

instance (s : Ping) : (e : PingEvent) → Decidable (PingPermitted s e)
  | .wait t => inferInstanceAs (Decidable (s.now ≤ t ∧ t < 2 ^ 63))
  | .send => inferInstanceAs (Decidable (s.client.sendRequestTimestamps.length + 1 < 2 ^ 32))
  | .serverRead request => inferInstanceAs (Decidable (request ∈ s.requests))
  | .clientRead reply => inferInstanceAs (Decidable (reply ∈ s.replies))

def NextPing (s s' : Ping) : Prop := ∃ e, PingPermitted s e ∧ s.step e = .ok s'

def ReachesPing : Ping → Ping → Prop := Relation.ReflTransGen NextPing

/-! ## What every run keeps -/

/-- The times of a ping: no reply so far, or the request, its echo and its return in this order. -/
def PingTimes (now : Nat) (send reply receive : Int) : Prop :=
  0 ≤ send ∧ send ≤ now ∧ (reply = -1 ∧ receive = -1 ∨ send ≤ reply ∧ reply ≤ receive ∧ receive ≤ now)

structure PingInv (s : Ping) : Prop where
  now_lt : s.now < 2 ^ 63
  send_length : s.client.sendRequestTimestamps.length = s.client.sent
  reply_length : s.client.replyTimestamps.length = s.client.sent
  receive_length : s.client.receiveReplyTimestamps.length = s.client.sent
  times : ∀ (i : Nat) send reply receive, s.client.sendRequestTimestamps[i]? = some send →
    s.client.replyTimestamps[i]? = some reply → s.client.receiveReplyTimestamps[i]? = some receive →
    PingTimes s.now send reply receive
  requests_length : s.requests.length = s.client.sent
  requests : ∀ m ∈ s.requests, m.seq < s.client.sent
  replies : ∀ m ∈ s.replies, m.seq < s.client.sent ∧ m.ts ≤ s.now ∧
    ∀ send, s.client.sendRequestTimestamps[m.seq]? = some send → send ≤ m.ts

theorem pingInv_initial : PingInv .initial := by
  constructor <;> simp [Ping.initial, UdpRttClient.initial]

theorem PingTimes.mono {now now' : Nat} {send reply receive : Int} (h : PingTimes now send reply receive)
    (hle : now ≤ now') : PingTimes now' send reply receive := by
  unfold PingTimes at *
  omega

variable {s s' : Ping}

/-- A ping was sent by now. -/
theorem PingInv.send_le (hi : PingInv s) {i : Nat} {send : Int}
    (h : s.client.sendRequestTimestamps[i]? = some send) : send ≤ s.now := by
  have hlt := (List.getElem?_eq_some_iff.1 h).1
  rw [hi.send_length] at hlt
  have hr : i < s.client.replyTimestamps.length := by rw [hi.reply_length]; exact hlt
  have hv : i < s.client.receiveReplyTimestamps.length := by rw [hi.receive_length]; exact hlt
  exact (hi.times i send _ _ h (List.getElem?_eq_getElem hr) (List.getElem?_eq_getElem hv)).2.1

theorem PingInv.wait {t : Nat} (hi : PingInv s) (h : s.now ≤ t) (ht : t < 2 ^ 63) : PingInv { s with now := t } :=
  { hi with
    now_lt := ht
    times := fun i send reply receive h₁ h₂ h₃ => (hi.times i send reply receive h₁ h₂ h₃).mono h
    replies := fun m hm => ⟨(hi.replies m hm).1, le_trans (hi.replies m hm).2.1 h, (hi.replies m hm).2.2⟩ }

theorem PingInv.send (hi : PingInv s) (hn : s.client.sendRequestTimestamps.length + 1 < 2 ^ 32) :
    PingInv { s with client := (s.client.send s.now).1, requests := s.requests ++ [(s.client.send s.now).2] } := by
  have hsent : toUInt32 (s.client.sent + 1 : Nat) = s.client.sent + 1 :=
    toUInt32_eq (by rw [← hi.send_length]; exact hn)
  constructor <;> simp only [UdpRttClient.send, hsent]
  · exact hi.now_lt
  · simp [hi.send_length]
  · simp [hi.reply_length]
  · simp [hi.receive_length]
  · intro i send reply receive h₁ h₂ h₃
    rcases getElem?_concat_iff.1 h₁ with h₁ | ⟨rfl, rfl⟩
    · have hlt := (List.getElem?_eq_some_iff.1 h₁).1
      rw [hi.send_length] at hlt
      have h₂' := (getElem?_concat_iff.1 h₂).resolve_right fun h => by rw [h.1, hi.reply_length] at hlt; omega
      have h₃' := (getElem?_concat_iff.1 h₃).resolve_right fun h => by rw [h.1, hi.receive_length] at hlt; omega
      exact hi.times i send reply receive h₁ h₂' h₃'
    · -- the new ping has no reply yet
      rw [hi.send_length, ← hi.reply_length, List.getElem?_concat_length] at h₂
      rw [hi.send_length, ← hi.receive_length, List.getElem?_concat_length] at h₃
      obtain rfl := (Option.some.injEq ..).mp h₂
      obtain rfl := (Option.some.injEq ..).mp h₃
      exact ⟨by omega, le_refl _, .inl ⟨rfl, rfl⟩⟩
  · simp [hi.requests_length]
  · intro m hm
    rcases List.mem_append.1 hm with hm | hm
    · exact Nat.lt_succ_of_lt (hi.requests m hm)
    · obtain rfl := List.mem_singleton.1 hm
      exact Nat.lt_succ_self _
  · intro m hm
    obtain ⟨hlt, hts, hsend⟩ := hi.replies m hm
    refine ⟨Nat.lt_succ_of_lt hlt, hts, fun send h => ?_⟩
    refine hsend send ((getElem?_concat_iff.1 h).resolve_right fun he => ?_)
    rw [he.1, hi.send_length] at hlt
    exact lt_irrefl _ hlt

/-- The server echoes the number of a request and stamps its own time. -/
theorem PingInv.serverRead {request : SeqTs} (hi : PingInv s) (h : request ∈ s.requests) :
    PingInv { s with replies := s.replies ++ [serverHandleRead s.now request] } :=
  { hi with
    replies := by
      intro m hm
      rcases List.mem_append.1 hm with hm | hm
      · exact hi.replies m hm
      · obtain rfl := List.mem_singleton.1 hm
        exact ⟨hi.requests request h, le_refl _, fun send hs => hi.send_le hs⟩ }

theorem handleRead_ok {now : Nat} {m : SeqTs} {c c' : UdpRttClient} :
    c.handleRead now m = .ok c' ↔ m.seq < c.replyTimestamps.length ∧ m.seq < c.receiveReplyTimestamps.length ∧
      c' = { c with
        replyTimestamps := c.replyTimestamps.set m.seq m.ts
        receiveReplyTimestamps := c.receiveReplyTimestamps.set m.seq now } := by
  unfold UdpRttClient.handleRead
  simp only [bind_eq_ok, setIndex_ok, Except.ok.injEq]
  constructor
  · rintro ⟨_, ⟨h₁, rfl⟩, _, ⟨h₂, rfl⟩, rfl⟩
    exact ⟨h₁, h₂, rfl⟩
  · rintro ⟨h₁, h₂, rfl⟩
    exact ⟨_, ⟨h₁, rfl⟩, _, ⟨h₂, rfl⟩, rfl⟩

/-- A reply has the number of a ping that was sent, so that the client can write its times. -/
theorem PingInv.handleRead {m : SeqTs} (hi : PingInv s) (h : m ∈ s.replies) :
    ∃ c, s.client.handleRead s.now m = .ok c := by
  have hlt := (hi.replies m h).1
  exact ⟨_, handleRead_ok.2 ⟨by rw [hi.reply_length]; exact hlt, by rw [hi.receive_length]; exact hlt, rfl⟩⟩

/-- The times of a reply, also of one that overwrites an earlier reply, come after the ping. -/
theorem PingInv.clientRead {m : SeqTs} {c : UdpRttClient} (hi : PingInv s) (h : m ∈ s.replies)
    (hc : s.client.handleRead s.now m = .ok c) : PingInv { s with client := c } := by
  obtain ⟨hr, hv, rfl⟩ := handleRead_ok.1 hc
  obtain ⟨-, hts, hsend⟩ := hi.replies m h
  refine { hi with
    reply_length := by simp [hi.reply_length]
    receive_length := by simp [hi.receive_length]
    times := fun i send reply receive h₁ h₂ h₃ => ?_ }
  simp only [List.getElem?_set] at h₂ h₃
  by_cases hseq : m.seq = i
  · subst hseq
    simp only [if_pos, hr, hv, Option.some.injEq] at h₂ h₃
    subst h₂ h₃
    have hle := hsend send h₁
    have hold := hi.times m.seq send _ _ h₁ (List.getElem?_eq_getElem hr) (List.getElem?_eq_getElem hv)
    exact ⟨hold.1, hold.2.1, .inr ⟨hle, by omega, le_refl _⟩⟩
  · rw [if_neg hseq] at h₂ h₃
    exact hi.times i send reply receive h₁ h₂ h₃

theorem PingInv.next (hi : PingInv s) (h : NextPing s s') : PingInv s' := by
  obtain ⟨e, hp, he⟩ := h
  cases e with
  | wait t => cases he; exact hi.wait hp.1 hp.2
  | send => cases he; exact hi.send hp
  | serverRead request => cases he; exact hi.serverRead hp
  | clientRead reply =>
    obtain ⟨c, hc, he⟩ := bind_ok he
    cases he
    exact hi.clientRead hp hc

theorem ReachesPing.inv (h : ReachesPing .initial s) : PingInv s := by
  induction h with
  | refl => exact pingInv_initial
  | tail _ hn ih => exact ih.next hn

/-! ## The results of a run -/

/-- What the row of a ping says once its reply arrived. -/
def RowTimes (row : PingRow) : Prop :=
  row.replyArrived = "YES" →
    0 ≤ row.latencyToThereNs ∧ 0 ≤ row.latencyFromThereNs ∧
      row.rttNs = row.latencyToThereNs + row.latencyFromThereNs

theorem PingInv.pingRow (hi : PingInv s) (fromNodeId toNodeId : Nat) {j : Nat} (hj : j < s.client.sent) :
    ∃ row, pingRow fromNodeId toNodeId s.client j = .ok row ∧ RowTimes row := by
  have h₁ : j < s.client.sendRequestTimestamps.length := by rw [hi.send_length]; exact hj
  have h₂ : j < s.client.replyTimestamps.length := by rw [hi.reply_length]; exact hj
  have h₃ : j < s.client.receiveReplyTimestamps.length := by rw [hi.receive_length]; exact hj
  have ht := hi.times j _ _ _ (List.getElem?_eq_getElem h₁) (List.getElem?_eq_getElem h₂)
    (List.getElem?_eq_getElem h₃)
  have hnow := hi.now_lt
  unfold Apps.pingRow RowTimes
  simp only [index_lt h₁, index_lt h₂, index_lt h₃, ok_bind]
  generalize s.client.sendRequestTimestamps[j] = send at *
  generalize s.client.replyTimestamps[j] = reply at *
  generalize s.client.receiveReplyTimestamps[j] = receive at *
  obtain ⟨h0, -, ⟨rfl, rfl⟩ | ⟨hr, hv, hle⟩⟩ := ht
  · refine ⟨_, rfl, fun h => ?_⟩
    simp only [ne_eq, not_true_eq_false, if_false] at h
    exact absurd h (by decide)
  · have hne : reply ≠ -1 := by omega
    simp only [if_pos hne]
    rw [int64_eq (by omega) (by omega), ok_bind, int64_eq (by omega) (by omega), ok_bind,
      int64_eq (by omega) (by omega), ok_bind]
    exact ⟨_, rfl, fun _ => ⟨by simp only; omega, by simp only; omega, rfl⟩⟩

theorem PingInv.pingRows (hi : PingInv s) (fromNodeId toNodeId : Nat) :
    ∃ rows, pingRows fromNodeId toNodeId s.client = .ok rows ∧ rows.length = s.client.sent ∧
      ∀ row ∈ rows, RowTimes row := by
  refine forRange_inv (fun j (rows : List PingRow) => rows.length = j ∧ ∀ row ∈ rows, RowTimes row) _ _ _
    ⟨rfl, by simp⟩ ?_
  rintro j hj rows ⟨hlen, hrows⟩
  obtain ⟨row, hrow, hok⟩ := hi.pingRow fromNodeId toNodeId hj
  refine ⟨rows ++ [row], by rw [hrow, ok_bind], by simp [hlen], fun r hr => ?_⟩
  rcases List.mem_append.1 hr with hr | hr
  · exact hrows r hr
  · exact (List.mem_singleton.1 hr) ▸ hok

/-- In every run each ping has no reply or its times in order, and the rows of results agree. -/
theorem reachesPing_times (h : ReachesPing .initial s) :
    (s.client.sent = s.requests.length ∧ s.client.sendRequestTimestamps.length = s.client.sent ∧
      s.client.replyTimestamps.length = s.client.sent ∧ s.client.receiveReplyTimestamps.length = s.client.sent) ∧
    (∀ reply ∈ s.replies, reply.seq < s.client.sent ∧ ∃ c, s.client.handleRead s.now reply = .ok c) ∧
    (∀ (j : Nat) send reply receive, s.client.sendRequestTimestamps[j]? = some send →
      s.client.replyTimestamps[j]? = some reply → s.client.receiveReplyTimestamps[j]? = some receive →
      reply = -1 ∧ receive = -1 ∨ send ≤ reply ∧ reply ≤ receive ∧ receive ≤ s.now) ∧
    ∀ fromNodeId toNodeId, ∃ rows, pingRows fromNodeId toNodeId s.client = .ok rows ∧
      rows.length = s.client.sent ∧
      (∀ row ∈ rows, row.replyArrived = "YES" →
        0 ≤ row.latencyToThereNs ∧ 0 ≤ row.latencyFromThereNs ∧
          row.rttNs = row.latencyToThereNs + row.latencyFromThereNs) ∧
      (rows.filter (·.replyArrived = "YES")).length ≤ s.client.sent := by
  have hi := h.inv
  refine ⟨⟨hi.requests_length.symm, hi.send_length, hi.reply_length, hi.receive_length⟩,
    fun reply hr => ⟨(hi.replies reply hr).1, hi.handleRead hr⟩,
    fun j send reply receive h₁ h₂ h₃ => (hi.times j send reply receive h₁ h₂ h₃).2.2,
    fun fromNodeId toNodeId => ?_⟩
  obtain ⟨rows, hrows, hlen, htimes⟩ := hi.pingRows fromNodeId toNodeId
  exact ⟨rows, hrows, hlen, htimes, hlen ▸ List.length_filter_le ..⟩

/-- Two pings of which the second is answered first. -/
def crossedPings : Ping :=
  { now := 12
    client := ⟨2, [5, 7], [-1, 9], [-1, 12]⟩
    requests := [⟨0, 5⟩, ⟨1, 7⟩]
    replies := [⟨1, 9⟩] }

theorem reachesPing_times_crossed :
    ∃ rows, pingRows 0 1 crossedPings.client = .ok rows ∧ (rows.filter (·.replyArrived = "YES")).length ≤ 2 := by
  have hreach : ReachesPing .initial crossedPings :=
    .head ⟨.wait 5, by decide, rfl⟩ (.head ⟨.send, by decide, rfl⟩ (.head ⟨.wait 7, by decide, rfl⟩
      (.head ⟨.send, by decide, rfl⟩ (.head ⟨.wait 9, by decide, rfl⟩
        (.head ⟨.serverRead ⟨1, 7⟩, by decide, rfl⟩ (.head ⟨.wait 12, by decide, rfl⟩
          (.single ⟨.clientRead ⟨1, 9⟩, by decide, rfl⟩)))))))
  obtain ⟨-, -, -, hrows⟩ := reachesPing_times hreach
  obtain ⟨rows, h, -, -, hle⟩ := hrows 0 1
  exact ⟨rows, h, hle⟩

end SatNet.Apps
