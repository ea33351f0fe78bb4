/-
`TcpFlowSendApplication` of `tcp-flow-send-application.cc`: the application of one TCP flow over the
ns-3 socket it creates. What the socket does is open: its callbacks come in any order, and what it
accepts of each `Send` is up to it.
-/
import SatNet.Base.Memory
import Mathlib.Logic.Relation

namespace SatNet.Apps

open SatNet.Loop

/-! ## The data -/

/-- The attributes of the application that its code reads, in the ranges their checkers allow. -/
structure FlowAttributes where
  sendSize : Nat
  maxBytes : Nat
  enableDetailedLogging : Bool
  sendSize_pos : 1 ≤ sendSize
  sendSize_lt : sendSize < 2 ^ 32
  maxBytes_lt : maxBytes < 2 ^ 64

/-- The fields of the application; of `m_socket` only whether it is set. -/
structure TcpFlowSendApplication where
  socket : Bool
  connected : Bool
  totBytes : Nat
  completionTimeNs : Int
  connFailed : Bool
  closedNormally : Bool
  closedByError : Bool
  ackedBytes : Nat
  isCompleted : Bool
  deriving Repr, DecidableEq

/-- The socket: how many bytes it has accepted, and how many of them were acknowledged. -/
structure TcpSocket where
  accepted : Nat
  acked : Nat
  deriving Repr, DecidableEq

/-- `GetTxBuffer()->Size()`. -/
def TcpSocket.txBufferSize (k : TcpSocket) : Nat := k.accepted - k.acked

/-- The application and its socket, with the history of the run: whether the application was started,
whether the socket has told the outcome of its connect and whether it has told that it was closed, and
`m_totBytes` at each `Close` of `SendData`. -/
structure Flow where
  app : TcpFlowSendApplication
  sock : TcpSocket
  started : Bool
  outcomeTold : Bool
  closeTold : Bool
  closes : List Nat
  deriving Repr, DecidableEq

/-- The constructor, and no socket yet. -/
def Flow.initial : Flow where
  app := { socket := false, connected := false, totBytes := 0, completionTimeNs := -1, connFailed := false,
           closedNormally := false, closedByError := false, ackedBytes := 0, isCompleted := false }
  sock := ⟨0, 0⟩
  started := false
  outcomeTold := false
  closeTold := false
  closes := []

def TcpFlowSendApplication.IsConnFailed (a : TcpFlowSendApplication) : Bool := a.connFailed

def TcpFlowSendApplication.IsClosedNormally (a : TcpFlowSendApplication) : Bool := a.closedNormally

def TcpFlowSendApplication.IsClosedByError (a : TcpFlowSendApplication) : Bool := a.closedByError

def TcpFlowSendApplication.IsCompleted (a : TcpFlowSendApplication) : Bool := a.isCompleted

/-- One of the three ways a flow ends was recorded. -/
def TcpFlowSendApplication.ended (a : TcpFlowSendApplication) : Bool :=
  a.connFailed || a.closedNormally || a.closedByError

/-! ## Sending -/

/-- The answer of the socket to a `Send`: `none` for -1, or the room it has. -/
abbrev Answer := Option Nat

/-- `int actual = m_socket->Send(packet)`: no more than the packet has, and than an `int` can tell. -/
def sent (answer : Answer) (toSend : Nat) : Int :=
  match answer with
  | none => -1
  | some room => min (min room toSend) (2 ^ 31 - 1)

variable (a : FlowAttributes)

/-- The condition of the loop of `SendData`. -/
def Flow.timeToSend (s : Flow) : Bool := a.maxBytes = 0 || s.app.totBytes < a.maxBytes

def Flow.toSend (s : Flow) : Nat :=
  if a.maxBytes > 0 then min a.sendSize (a.maxBytes - s.app.totBytes) else a.sendSize

/-- The socket accepted `n` bytes, and `m_totBytes += n`. -/
def Flow.handOver (s : Flow) (n : Nat) : Flow :=
  { s with app := { s.app with totBytes := (s.app.totBytes + n) % 2 ^ 64 },
           sock := { s.sock with accepted := s.sock.accepted + n } }

/-- The loop of `SendData`, given what the socket answers to the first calls of `Send`; it diverges where
it wants one answer more. -/
def sendLoop (answers : List Answer) (s : Flow) : Res Flow :=
  if s.timeToSend a then
    if s.app.socket then
      match answers with
      | [] => .error .diverges
      | answer :: rest =>
        let actual := sent answer (s.toSend a)
        let s' := if actual > 0 then s.handOver actual.toNat else s
        -- the send buffer is full, `DataSend` comes when there is room again
        if toUInt32 actual ≠ s.toSend a then .ok s' else sendLoop rest s'
    else .error nullPointer
  else .ok s

def sendData (answers : List Answer) (s : Flow) : Res Flow := do
  let s ← sendLoop a answers s
  if s.app.totBytes = a.maxBytes ∧ s.app.connected = true then
    if s.app.socket then
      .ok { s with app := { s.app with connected := false }, closes := s.closes ++ [s.app.totBytes] }
    else .error nullPointer
  else .ok s

/-! ## The callbacks -/

/-- `m_totBytes - GetTxBuffer()->Size()`. -/
def Flow.acknowledged (s : Flow) : Nat := (s.app.totBytes + 2 ^ 64 - s.sock.txBufferSize) % 2 ^ 64

def getAckedBytes (s : Flow) : Res Int :=
  if s.app.ended then .ok (toInt64 s.app.ackedBytes)
  else if s.app.socket then .ok (toInt64 s.acknowledged)
  else .error nullPointer

/-- What is written to the progress log is not kept, only that it is computed. -/
def insertProgressLog (s : Flow) : Res Flow :=
  if a.enableDetailedLogging then do
    let _ ← getAckedBytes s
    .ok s
  else .ok s

/-- A new socket where there is none. -/
def Flow.createSocket (s : Flow) : Flow :=
  { s with app := { s.app with socket := true }, sock := ⟨0, 0⟩, started := true }

def startApplication (answers : List Answer) (s : Flow) : Res Flow := do
  let s ← (if s.app.socket then .ok { s with started := true } else insertProgressLog a s.createSocket)
  if s.app.connected then sendData a answers s else .ok s

def stopApplication (s : Flow) : Flow :=
  if s.app.socket then { s with app := { s.app with connected := false } } else s

def connectionSucceeded (answers : List Answer) (s : Flow) : Res Flow :=
  sendData a answers { s with app := { s.app with connected := true }, outcomeTold := true }

def connectionFailed (now : Int) (s : Flow) : Flow :=
  { s with
    app := { s.app with
      completionTimeNs := now, connFailed := true, closedByError := false, closedNormally := false,
      ackedBytes := 0, isCompleted := false, socket := false }
    outcomeTold := true }

def dataSend (answers : List Answer) (s : Flow) : Res Flow := do
  let s ← (if s.app.connected then sendData a answers s else .ok s)
  insertProgressLog a s

def socketClosedNormal (now : Int) (s : Flow) : Res Flow :=
  if s.app.socket then
    if s.sock.txBufferSize ≠ 0 then
      .error (.runtimeError "Socket closed normally but send buffer is not empty")
    else
      .ok { s with
        app := { s.app with
          completionTimeNs := now, connFailed := false, closedByError := false, closedNormally := true,
          ackedBytes := s.acknowledged, isCompleted := s.acknowledged = a.maxBytes, socket := false }
        closeTold := true }
  else .error nullPointer

def socketClosedError (now : Int) (s : Flow) : Res Flow :=
  if s.app.socket then
    .ok { s with
      app := { s.app with
        completionTimeNs := now, connFailed := false, closedByError := true, closedNormally := false,
        ackedBytes := s.acknowledged, isCompleted := false, socket := false }
      closeTold := true }
  else .error nullPointer

def finalizeDetailedLogs (s : Flow) : Res Flow := insertProgressLog a s

/-! ## Runs -/

inductive Event where
  | start (answers : List Answer)
  | stop
  | connectionSucceeded (answers : List Answer)
  | connectionFailed (now : Int)
  | dataSend (answers : List Answer)
  | socketClosedNormal (now : Int)
  | socketClosedError (now : Int)
  /-- Up to so many bytes of the send buffer are acknowledged. -/
  | acknowledge (bytes : Nat)
  | getAckedBytes
  | finalizeDetailedLogs
  deriving Repr, DecidableEq

def step (s : Flow) : Event → Res Flow
  | .start answers => startApplication a answers s
  | .stop => .ok (stopApplication s)
  | .connectionSucceeded answers => Apps.connectionSucceeded a answers s
  | .connectionFailed now => .ok (Apps.connectionFailed now s)
  | .dataSend answers => Apps.dataSend a answers s
  | .socketClosedNormal now => Apps.socketClosedNormal a now s
  | .socketClosedError now => Apps.socketClosedError now s
  | .acknowledge bytes =>
    .ok { s with sock := { s.sock with acked := min (s.sock.acked + bytes) s.sock.accepted } }
  | .getAckedBytes => do
    let _ ← Apps.getAckedBytes s
    .ok s
  | .finalizeDetailedLogs => Apps.finalizeDetailedLogs a s

/-- ns-3 starts an application once; the socket calls back, and is asked, only after that. -/
def Delivered (s : Flow) : Event → Prop
  | .start _ => s.started = false
  | .stop => True
  | _ => s.started = true

/-! ## What sending does -/

section Sending

variable {a : FlowAttributes} {s s' : Flow}

/-- `m_totBytes` is `t`, and the socket has accepted `n` bytes. -/
def Flow.total (s : Flow) (t n : Nat) : Flow :=
  { s with app := { s.app with totBytes := t }, sock := { s.sock with accepted := n } }

theorem sent_range (answer : Answer) (n : Nat) :
    -1 ≤ sent answer n ∧ sent answer n ≤ n ∧ sent answer n < 2 ^ 31 := by
  cases answer with
  | none => simp [sent]
  | some room => simp only [sent]; omega

theorem toSend_pos (h : s.timeToSend a = true) : 1 ≤ s.toSend a := by
  have := a.sendSize_pos
  simp only [Flow.timeToSend, Bool.or_eq_true, decide_eq_true_eq] at h
  unfold Flow.toSend
  split <;> omega

theorem toSend_le_sendSize : s.toSend a ≤ a.sendSize := by
  unfold Flow.toSend
  split <;> omega

theorem toSend_le (hm : 0 < a.maxBytes) (ht : s.app.totBytes ≤ a.maxBytes) :
    s.app.totBytes + s.toSend a ≤ a.maxBytes := by
  unfold Flow.toSend
  rw [if_pos hm]
  omega

/-- `s'` is `s` after `SendData` has handed some bytes over to the socket, if there is one. -/
def HandedOver (a : FlowAttributes) (s s' : Flow) : Prop :=
  s' = s ∨ s.app.socket = true ∧ ∃ t n, s' = s.total t n ∧ s.sock.accepted ≤ n ∧
    (0 < a.maxBytes → s.app.totBytes ≤ a.maxBytes →
      s.app.totBytes ≤ t ∧ t ≤ a.maxBytes ∧ t + s.sock.accepted = s.app.totBytes + n)

theorem HandedOver.trans {s₁ : Flow} (h₁ : HandedOver a s s₁) (h₂ : HandedOver a s₁ s') : HandedOver a s s' := by
  rcases h₁ with rfl | ⟨hs, t, n, rfl, hn, hb⟩
  · exact h₂
  · rcases h₂ with rfl | ⟨-, t', n', rfl, hn', hb'⟩
    · exact .inr ⟨hs, t, n, rfl, hn, hb⟩
    · refine .inr ⟨hs, t', n', rfl, le_trans hn hn', fun hm ht => ?_⟩
      obtain ⟨h₁, h₂, h₃⟩ := hb hm ht
      obtain ⟨h₁', h₂', h₃'⟩ := hb' hm h₂
      simp only [Flow.total] at h₁' h₃' hn'
      omega

/-- One `Send` hands over what the socket accepts. -/
theorem handOver_handedOver (hs : s.app.socket = true) {n : Nat} (hn : n ≤ s.toSend a) :
    HandedOver a s (s.handOver n) := by
  refine .inr ⟨hs, (s.app.totBytes + n) % 2 ^ 64, s.sock.accepted + n, rfl, by omega, fun hm ht => ?_⟩
  have := toSend_le hm ht
  have := a.maxBytes_lt
  omega

theorem sendLoop_ok (answers : List Answer) :
    ∀ s s' : Flow, sendLoop a answers s = .ok s' → HandedOver a s s' := by
  induction answers with
  | nil =>
    intro s s' h
    unfold sendLoop at h
    split at h
    · split at h <;> cases h
    · cases h; exact .inl rfl
  | cons answer rest ih =>
    intro s s' h
    unfold sendLoop at h
    split at h
    · split at h
      · rename_i hs
        have hone : HandedOver a s
            (if sent answer (s.toSend a) > 0 then s.handOver (sent answer (s.toSend a)).toNat else s) := by
          have := sent_range answer (s.toSend a)
          split
          · exact handOver_handedOver hs (by omega)
          · exact .inl rfl
        simp only at h
        split at h
        · cases h; exact hone
        · exact hone.trans (ih _ _ h)
      · cases h
    · cases h; exact .inl rfl

/-- `SendData` hands bytes over, and closes the socket in case these were the last ones. -/
theorem sendData_ok {answers : List Answer} (h : sendData a answers s = .ok s') :
    ∃ s₁, HandedOver a s s₁ ∧ (s' = s₁ ∨ s₁.app.totBytes = a.maxBytes ∧
      s' = { s₁ with app := { s₁.app with connected := false }, closes := s₁.closes ++ [a.maxBytes] }) := by
  unfold sendData at h
  obtain ⟨s₁, h₁, h⟩ := bind_ok h
  refine ⟨s₁, sendLoop_ok answers s s₁ h₁, ?_⟩
  split at h
  · rename_i hc
    split at h
    · cases h; exact .inr ⟨hc.1, by rw [hc.1]⟩
    · cases h
  · cases h; exact .inl rfl

theorem HandedOver.socket (h : HandedOver a s s') : s'.app.socket = s.app.socket := by
  rcases h with rfl | ⟨-, t, n, rfl, -⟩ <;> rfl

/-- A set socket pointer is not null in any call of `Send`. -/
theorem sendLoop_safe (answers : List Answer) :
    ∀ s : Flow, s.app.socket = true → sendLoop a answers s ≠ .error nullPointer := by
  induction answers with
  | nil =>
    intro s hs
    unfold sendLoop
    simp only [hs]
    split <;> simp [nullPointer]
  | cons answer rest ih =>
    intro s hs
    unfold sendLoop
    simp only [hs, if_true]
    split
    · split
      · simp
      · apply ih
        split
        · exact hs
        · exact hs
    · simp

theorem sendData_safe {answers : List Answer} (hs : s.app.socket = true) :
    sendData a answers s ≠ .error nullPointer := by
  unfold sendData
  cases h : sendLoop a answers s with
  | error e =>
    rintro he
    cases he
    exact sendLoop_safe answers s hs h
  | ok s₁ =>
    have hs₁ : s₁.app.socket = true := by rw [(sendLoop_ok answers s s₁ h).socket, hs]
    rw [ok_bind, hs₁]
    split <;> simp

/-- A connected application that calls `SendData` uses the socket: it sends or it closes. -/
theorem sendData_null {answers : List Answer} (hs : s.app.socket = false) (hc : s.app.connected = true)
    (ht : 0 < a.maxBytes → s.app.totBytes ≤ a.maxBytes) : sendData a answers s = .error nullPointer := by
  unfold sendData sendLoop
  by_cases hmore : s.timeToSend a = true
  · simp only [hmore, hs, if_true]
    rfl
  · have hall : s.app.totBytes = a.maxBytes := by
      simp only [Flow.timeToSend, Bool.or_eq_true, decide_eq_true_eq] at hmore
      omega
    rw [if_neg hmore, ok_bind, if_pos ⟨hall, hc⟩, hs]
    rfl

/-- Once the socket has answered as often as there are bytes left, the loop of `SendData` is over:
a `Send` that does not end it hands a byte over. -/
theorem sendLoop_ends (hm : 0 < a.maxBytes) (hsize : a.sendSize < 2 ^ 32 - 1) (answers : List Answer) :
    ∀ s : Flow, s.app.totBytes ≤ a.maxBytes → a.maxBytes ≤ s.app.totBytes + answers.length →
      sendLoop a answers s ≠ .error .diverges := by
  induction answers with
  | nil =>
    intro s ht hl
    have hall : s.timeToSend a = false := by
      simp only [List.length_nil] at hl
      simp [Flow.timeToSend]
      omega
    unfold sendLoop
    simp [hall]
  | cons answer rest ih =>
    intro s ht hl
    unfold sendLoop
    split
    · rename_i hmore
      split
      · simp only
        split
        · simp
        · rename_i hall
          have hone := toSend_pos hmore
          have hsome := toSend_le hm ht
          have := @toSend_le_sendSize a s
          have hr := sent_range answer (s.toSend a)
          -- an answer that converts to the size of the packet is that size
          have hfull : sent answer (s.toSend a) = s.toSend a := by
            unfold toUInt32 at hall
            omega
          have hlt := a.maxBytes_lt
          rw [hfull, if_pos (by omega), Int.toNat_natCast]
          simp only [List.length_cons] at hl
          have htot : (s.app.totBytes + s.toSend a) % 2 ^ 64 = s.app.totBytes + s.toSend a :=
            Nat.mod_eq_of_lt (by omega)
          apply ih
          · simp only [Flow.handOver, htot]
            exact hsome
          · simp only [Flow.handOver, htot]
            omega
      · simp [nullPointer]
    · simp

end Sending

end SatNet.Apps
