/-
Runs of a TCP flow: what every order of callbacks keeps of the byte counts and of the way the flow
ended, and which orders leave the application using a socket it has released.
-/
import SatNet.Apps.TcpFlowSend

namespace SatNet.Apps

open SatNet.Loop

variable {a : FlowAttributes} {s s' : Flow}

/-! ## Runs -/

/-- One event that the environment may bring, with the call it makes returning. -/
def Next (a : FlowAttributes) (allowed : Flow → Event → Prop) (s s' : Flow) : Prop :=
  ∃ e, allowed s e ∧ step a s e = .ok s'

def Reaches (a : FlowAttributes) (allowed : Flow → Event → Prop) : Flow → Flow → Prop :=
  Relation.ReflTransGen (Next a allowed)

/-- Each event of the run has the property in the state that it finds. -/
def Along (a : FlowAttributes) (P : Flow → Event → Prop) : List Event → Flow → Prop
  | [], _ => True
  | e :: l, s => P s e ∧ ∀ s', step a s e = .ok s' → Along a P l s'

instance Along.decidable {P : Flow → Event → Prop} [∀ s e, Decidable (P s e)] : ∀ l s, Decidable (Along a P l s)
  | [], _ => isTrue trivial
  | e :: l, s =>
    match h : step a s e with
    | .error _ => decidable_of_iff (P s e) (by simp [Along, h])
    | .ok s' =>
      have := Along.decidable (P := P) l s'
      decidable_of_iff (P s e ∧ Along a P l s') (by simp [Along, h])

theorem reaches_of_along {allowed : Flow → Event → Prop} : ∀ (l : List Event) (s : Flow), Along a allowed l s →
    forEach (step a) l s = .ok s' → Reaches a allowed s s'
  | [], s, _, h => by cases h; exact .refl
  | e :: l, s, ⟨he, hl⟩, h => by
    obtain ⟨s₁, h₁, h⟩ := bind_ok h
    exact .head ⟨e, he, h₁⟩ (reaches_of_along l s₁ (hl s₁ h₁) h)

/-! ## The invariant of every run -/

structure FlowInv (a : FlowAttributes) (s : Flow) : Prop where
  socket_eq : s.app.socket = (s.started && !s.app.ended)
  unstarted : s.started = false →
    s.app.connected = false ∧ s.app.totBytes = 0 ∧ s.sock.accepted = 0 ∧ s.app.ended = false
  tot_le : 0 < a.maxBytes → s.app.totBytes ≤ a.maxBytes
  accepted_eq : 0 < a.maxBytes → s.sock.accepted = s.app.totBytes
  acked_le : s.sock.acked ≤ s.sock.accepted
  exclusive : (s.app.connFailed && s.app.closedNormally) = false ∧
    (s.app.connFailed && s.app.closedByError) = false ∧ (s.app.closedNormally && s.app.closedByError) = false
  cached_le : 0 < a.maxBytes → s.app.ended = true → s.app.ackedBytes ≤ s.app.totBytes
  normal : 0 < a.maxBytes → s.app.closedNormally = true →
    s.sock.acked = s.sock.accepted ∧ s.app.ackedBytes = s.app.totBytes
  completed : s.app.isCompleted = (s.app.closedNormally && s.app.ackedBytes == a.maxBytes)
  closes : ∀ c ∈ s.closes, c = a.maxBytes

theorem flowInv_initial : FlowInv a Flow.initial := by
  constructor <;> simp [Flow.initial, TcpFlowSendApplication.ended]

/-- What the socket acknowledged, as the application computes it. -/
theorem FlowInv.acknowledged (hi : FlowInv a s) (hm : 0 < a.maxBytes) : s.acknowledged = s.sock.acked := by
  have := hi.tot_le hm
  have := hi.accepted_eq hm
  have := hi.acked_le
  have := a.maxBytes_lt
  unfold Flow.acknowledged TcpSocket.txBufferSize
  omega

theorem FlowInv.not_ended (hi : FlowInv a s) (hs : s.app.socket = true) : s.started = true ∧ s.app.ended = false := by
  have h := hi.socket_eq
  rw [hs] at h
  simpa using h.symm

theorem FlowInv.handedOver (hi : FlowInv a s) (h : HandedOver a s s') : FlowInv a s' := by
  rcases h with rfl | ⟨hs, t, n, rfl, hn, hb⟩
  · exact hi
  · obtain ⟨hst, hend⟩ := hi.not_ended hs
    have hflags := hend
    simp only [TcpFlowSendApplication.ended, Bool.or_eq_false_iff] at hflags
    refine ⟨hi.socket_eq, ?_, ?_, ?_, le_trans hi.acked_le hn, hi.exclusive, ?_, ?_, hi.completed, hi.closes⟩
    · intro hf
      rw [show s.started = false from hf] at hst
      cases hst
    · intro hm
      exact (hb hm (hi.tot_le hm)).2.1
    · intro hm
      have := hb hm (hi.tot_le hm)
      have := hi.accepted_eq hm
      simp only [Flow.total]
      omega
    · intro _ he
      rw [show s.app.ended = true from he] at hend
      cases hend
    · intro _ hc
      rw [show s.app.closedNormally = true from hc] at hflags
      cases hflags.1.2

theorem FlowInv.sendData {answers : List Answer} (hi : FlowInv a s) (h : sendData a answers s = .ok s') :
    FlowInv a s' := by
  obtain ⟨s₁, h₁, rfl | ⟨-, rfl⟩⟩ := sendData_ok h
  · exact hi.handedOver h₁
  · have hi₁ := hi.handedOver h₁
    refine { hi₁ with unstarted := ?_, closes := ?_ }
    · rintro hf
      exact ⟨rfl, (hi₁.unstarted hf).2⟩
    · simp only [List.mem_append, List.mem_singleton]
      rintro c (hc | rfl)
      · exact hi₁.closes c hc
      · rfl

theorem insertProgressLog_ok (h : insertProgressLog a s = .ok s') : s' = s := by
  unfold insertProgressLog at h
  split at h
  · obtain ⟨_, -, h⟩ := bind_ok h
    cases h; rfl
  · cases h; rfl

theorem FlowInv.createSocket (hi : FlowInv a s) (hs : s.started = false) : FlowInv a s.createSocket := by
  obtain ⟨-, ht, -, he⟩ := hi.unstarted hs
  have hflags := he
  simp only [TcpFlowSendApplication.ended, Bool.or_eq_false_iff] at hflags
  refine { hi with socket_eq := ?_, unstarted := ?_, accepted_eq := ?_, acked_le := ?_, normal := ?_ }
  · show true = (true && !s.app.ended)
    rw [he]; rfl
  · rintro ⟨⟩
  · intro _
    exact ht.symm
  · exact le_rfl
  · intro _ hcn
    rw [show s.app.closedNormally = true from hcn] at hflags
    cases hflags.1.2

theorem FlowInv.socket_iff (hi : FlowInv a s) (hs : s.started = true) : s.app.socket = !s.app.ended := by
  rw [hi.socket_eq, hs, Bool.true_and]

theorem FlowInv.query (hi : FlowInv a s) (hs : s.started = true) :
    getAckedBytes s = .ok (toInt64 (if s.app.ended then s.app.ackedBytes else s.acknowledged)) := by
  have hsock := hi.socket_iff hs
  unfold getAckedBytes
  cases he : s.app.ended <;> simp [hsock, he]

theorem FlowInv.log (hi : FlowInv a s) (hs : s.started = true) : insertProgressLog a s = .ok s := by
  unfold insertProgressLog
  rw [hi.query hs, ok_bind, ite_self]

/-- The start makes the socket, and sends nothing before the connection stands. -/
theorem FlowInv.start_eq {answers : List Answer} (hi : FlowInv a s) (hs : s.started = false) :
    startApplication a answers s = .ok s.createSocket := by
  have hnull : s.app.socket = false := by rw [hi.socket_eq, hs]; rfl
  have hconn : s.createSocket.app.connected = false := (hi.unstarted hs).1
  unfold startApplication
  rw [hnull, if_neg (by simp), (hi.createSocket hs).log rfl, ok_bind, hconn]
  rfl

theorem FlowInv.connectionSucceeded {answers : List Answer} (hi : FlowInv a s) (hs : s.started = true)
    (h : Apps.connectionSucceeded a answers s = .ok s') : FlowInv a s' := by
  have hi' : FlowInv a { s with app := { s.app with connected := true }, outcomeTold := true } := by
    refine { hi with unstarted := ?_ }
    intro hf
    rw [show s.started = false from hf] at hs
    cases hs
  exact hi'.sendData h

theorem FlowInv.connectionFailed (now : Int) (hi : FlowInv a s) (hs : s.started = true) :
    FlowInv a (Apps.connectionFailed now s) := by
  refine { hi with socket_eq := ?_, unstarted := ?_, exclusive := ?_, cached_le := ?_, normal := ?_, completed := ?_ }
  · simp [Apps.connectionFailed, TcpFlowSendApplication.ended]
  · intro hf
    rw [show s.started = false from hf] at hs
    cases hs
  · simp [Apps.connectionFailed]
  · intro _ _
    exact Nat.zero_le _
  · rintro _ ⟨⟩
  · rfl

theorem FlowInv.dataSend {answers : List Answer} (hi : FlowInv a s) (h : Apps.dataSend a answers s = .ok s') :
    FlowInv a s' := by
  unfold Apps.dataSend at h
  obtain ⟨s₁, h₁, h⟩ := bind_ok h
  obtain rfl := insertProgressLog_ok h
  split at h₁
  · exact hi.sendData h₁
  · cases h₁; exact hi

theorem FlowInv.socketClosedNormal {now : Int} (hi : FlowInv a s) (h : Apps.socketClosedNormal a now s = .ok s') :
    FlowInv a s' := by
  unfold Apps.socketClosedNormal at h
  split at h
  · rename_i hs
    obtain ⟨hst, -⟩ := hi.not_ended hs
    split at h
    · cases h
    · rename_i hempty
      cases h
      have hack := hi.acked_le
      have hall : s.sock.acked = s.sock.accepted := by
        unfold TcpSocket.txBufferSize at hempty
        omega
      refine { hi with
        socket_eq := ?_, unstarted := ?_, exclusive := ?_, cached_le := ?_, normal := ?_, completed := ?_ }
      · simp [TcpFlowSendApplication.ended]
      · intro hf
        rw [show s.started = false from hf] at hst
        cases hst
      · simp
      · intro hm _
        simp only [hi.acknowledged hm, hall, hi.accepted_eq hm, le_refl]
      · intro hm _
        exact ⟨hall, by simp only [hi.acknowledged hm, hall, hi.accepted_eq hm]⟩
      · simp [beq_eq_decide]
  · cases h

theorem FlowInv.socketClosedError {now : Int} (hi : FlowInv a s) (h : Apps.socketClosedError now s = .ok s') :
    FlowInv a s' := by
  unfold Apps.socketClosedError at h
  split at h
  · rename_i hs
    obtain ⟨hst, -⟩ := hi.not_ended hs
    cases h
    refine { hi with socket_eq := ?_, unstarted := ?_, exclusive := ?_, cached_le := ?_, normal := ?_, completed := ?_ }
    · simp [TcpFlowSendApplication.ended]
    · intro hf
      rw [show s.started = false from hf] at hst
      cases hst
    · simp
    · intro hm _
      simp only [hi.acknowledged hm, ← hi.accepted_eq hm]
      exact hi.acked_le
    · rintro _ ⟨⟩
    · simp
  · cases h

theorem FlowInv.stop (hi : FlowInv a s) : FlowInv a (stopApplication s) := by
  unfold stopApplication
  split
  · refine { hi with unstarted := ?_ }
    intro hf
    exact ⟨rfl, (hi.unstarted hf).2⟩
  · exact hi

theorem FlowInv.acknowledge (bytes : Nat) (hi : FlowInv a s) :
    FlowInv a { s with sock := { s.sock with acked := min (s.sock.acked + bytes) s.sock.accepted } } := by
  refine { hi with acked_le := Nat.min_le_right .., normal := ?_ }
  intro hm hc
  obtain ⟨hall, hcached⟩ := hi.normal hm hc
  refine ⟨?_, hcached⟩
  simp only at hall ⊢
  omega

/-- Every callback and every query keeps the invariant. -/
theorem step_inv {e : Event} (hi : FlowInv a s) (hd : Delivered s e) (h : step a s e = .ok s') : FlowInv a s' := by
  cases e with
  | start answers =>
    rw [show step a s (.start answers) = _ from hi.start_eq hd] at h
    cases h
    exact hi.createSocket hd
  | stop => cases h; exact hi.stop
  | connectionSucceeded answers => exact hi.connectionSucceeded hd h
  | connectionFailed now => cases h; exact hi.connectionFailed now hd
  | dataSend answers => exact hi.dataSend h
  | socketClosedNormal now => exact hi.socketClosedNormal h
  | socketClosedError now => exact hi.socketClosedError h
  | acknowledge bytes => cases h; exact hi.acknowledge bytes
  | getAckedBytes =>
    obtain ⟨_, -, h⟩ := bind_ok h
    cases h; exact hi
  | finalizeDetailedLogs =>
    obtain rfl := insertProgressLog_ok h
    exact hi

theorem reaches_inv {allowed : Flow → Event → Prop} (hd : ∀ s e, allowed s e → Delivered s e)
    (hi : FlowInv a s) (h : Reaches a allowed s s') : FlowInv a s' := by
  induction h with
  | refl => exact hi
  | tail _ hn ih =>
    obtain ⟨e, he, hstep⟩ := hn
    exact step_inv ih (hd _ _ he) hstep

/-! ## After the end -/

theorem getAckedBytes_ended (he : s.app.ended = true) : getAckedBytes s = .ok (toInt64 s.app.ackedBytes) := by
  unfold getAckedBytes
  rw [if_pos he]

theorem FlowInv.getAckedBytes (hi : FlowInv a s) (hm : 0 < a.maxBytes) (hs : s.started = true) :
    ∃ n ≤ s.app.totBytes, Apps.getAckedBytes s = .ok (toInt64 n) := by
  by_cases he : s.app.ended = true
  · exact ⟨s.app.ackedBytes, hi.cached_le hm he, getAckedBytes_ended he⟩
  · have hsock : s.app.socket = true := by simp [hi.socket_eq, hs, he]
    refine ⟨s.sock.acked, ?_, ?_⟩
    · rw [← hi.accepted_eq hm]
      exact hi.acked_le
    · unfold Apps.getAckedBytes
      rw [if_neg he, if_pos hsock, hi.acknowledged hm]

/-- The application has let its socket go, so only a connection failure still changes it. -/
theorem step_ended {e : Event} (hi : FlowInv a s) (hd : Delivered s e) (he : s.app.ended = true)
    (h : step a s e = .ok s') : s'.app = s.app ∨ ∃ now, e = .connectionFailed now ∧ s' = connectionFailed now s := by
  have hnull : s.app.socket = false := by simp [hi.socket_eq, he]
  cases e with
  | start answers =>
    rw [(hi.unstarted hd).2.2.2] at he
    cases he
  | stop =>
    cases h
    simp [stopApplication, hnull]
  | connectionSucceeded answers =>
    rw [show step a s (.connectionSucceeded answers) = .error nullPointer from sendData_null hnull rfl hi.tot_le] at h
    cases h
  | connectionFailed now => cases h; exact .inr ⟨now, rfl, rfl⟩
  | dataSend answers =>
    obtain ⟨s₁, h₁, h⟩ := bind_ok h
    obtain rfl := insertProgressLog_ok h
    split at h₁
    · rename_i hc
      rw [sendData_null hnull hc hi.tot_le] at h₁
      cases h₁
    · cases h₁; exact .inl rfl
  | socketClosedNormal now => simp [step, socketClosedNormal, hnull] at h
  | socketClosedError now => simp [step, socketClosedError, hnull] at h
  | acknowledge bytes => cases h; exact .inl rfl
  | getAckedBytes =>
    obtain ⟨_, -, h⟩ := bind_ok h
    cases h; exact .inl rfl
  | finalizeDetailedLogs =>
    obtain rfl := insertProgressLog_ok h
    exact .inl rfl

/-! ## A socket that keeps its promises -/

/-- The socket tells at most one outcome of its connect, and that it was closed at most once. -/
def Promised (s : Flow) : Event → Prop
  | .connectionSucceeded _ => s.started = true ∧ s.outcomeTold = false
  | .connectionFailed _ => s.started = true ∧ s.outcomeTold = false
  | .socketClosedNormal _ => s.started = true ∧ s.closeTold = false
  | .socketClosedError _ => s.started = true ∧ s.closeTold = false
  | e => Delivered s e

instance (s : Flow) : ∀ e, Decidable (Promised s e)
  | .start _ => inferInstanceAs (Decidable (s.started = false))
  | .stop => inferInstanceAs (Decidable True)
  | .connectionSucceeded _ => inferInstanceAs (Decidable (s.started = true ∧ s.outcomeTold = false))
  | .connectionFailed _ => inferInstanceAs (Decidable (s.started = true ∧ s.outcomeTold = false))
  | .dataSend _ => inferInstanceAs (Decidable (s.started = true))
  | .socketClosedNormal _ => inferInstanceAs (Decidable (s.started = true ∧ s.closeTold = false))
  | .socketClosedError _ => inferInstanceAs (Decidable (s.started = true ∧ s.closeTold = false))
  | .acknowledge _ => inferInstanceAs (Decidable (s.started = true))
  | .getAckedBytes => inferInstanceAs (Decidable (s.started = true))
  | .finalizeDetailedLogs => inferInstanceAs (Decidable (s.started = true))

theorem Promised.delivered {e : Event} (h : Promised s e) : Delivered s e := by
  cases e <;> first | exact h | exact h.1

instance (s : Flow) : ∀ e, Decidable (Delivered s e)
  | .start _ => inferInstanceAs (Decidable (s.started = false))
  | .stop => inferInstanceAs (Decidable True)
  | .connectionSucceeded _ => inferInstanceAs (Decidable (s.started = true))
  | .connectionFailed _ => inferInstanceAs (Decidable (s.started = true))
  | .dataSend _ => inferInstanceAs (Decidable (s.started = true))
  | .socketClosedNormal _ => inferInstanceAs (Decidable (s.started = true))
  | .socketClosedError _ => inferInstanceAs (Decidable (s.started = true))
  | .acknowledge _ => inferInstanceAs (Decidable (s.started = true))
  | .getAckedBytes => inferInstanceAs (Decidable (s.started = true))
  | .finalizeDetailedLogs => inferInstanceAs (Decidable (s.started = true))

/-- Before the outcome of the connect, and after its failure, nothing was sent. -/
structure OutcomeInv (s : Flow) : Prop where
  untold : s.outcomeTold = false → s.app.connected = false ∧ s.app.totBytes = 0 ∧ s.app.connFailed = false
  failed : s.app.connFailed = true → s.app.connected = false ∧ s.app.totBytes = 0

theorem HandedOver.flags (h : HandedOver a s s') : s'.started = s.started ∧ s'.outcomeTold = s.outcomeTold ∧
    s'.app.connFailed = s.app.connFailed := by
  rcases h with rfl | ⟨-, t, n, rfl, -⟩ <;> exact ⟨rfl, rfl, rfl⟩

theorem sendData_flags {answers : List Answer} (h : sendData a answers s = .ok s') :
    s'.started = s.started ∧ s'.outcomeTold = s.outcomeTold ∧ s'.app.connFailed = s.app.connFailed := by
  obtain ⟨s₁, h₁, rfl | ⟨-, rfl⟩⟩ := sendData_ok h
  · exact h₁.flags
  · exact h₁.flags

theorem OutcomeInv.told (ho : s'.outcomeTold = true) (hf : s'.app.connFailed = false) : OutcomeInv s' := by
  constructor
  · intro h
    rw [ho] at h
    cases h
  · intro h
    rw [hf] at h
    cases h

theorem step_outcomeInv {e : Event} (hi : FlowInv a s) (ho : OutcomeInv s) (hp : Promised s e)
    (h : step a s e = .ok s') : OutcomeInv s' := by
  cases e with
  | start answers =>
    rw [show step a s (.start answers) = _ from hi.start_eq hp] at h
    cases h
    exact ⟨ho.untold, ho.failed⟩
  | stop =>
    cases h
    unfold stopApplication
    split
    · exact ⟨fun h => ⟨rfl, (ho.untold h).2⟩, fun h => ⟨rfl, (ho.failed h).2⟩⟩
    · exact ho
  | connectionSucceeded answers =>
    obtain ⟨-, h₁, h₂⟩ := sendData_flags h
    exact OutcomeInv.told h₁ (h₂.trans (ho.untold hp.2).2.2)
  | connectionFailed now =>
    cases h
    obtain ⟨hc, ht, -⟩ := ho.untold hp.2
    constructor
    · rintro ⟨⟩
    · rintro -
      exact ⟨hc, ht⟩
  | dataSend answers =>
    obtain ⟨s₁, h₁, h⟩ := bind_ok h
    obtain rfl := insertProgressLog_ok h
    split at h₁
    · rename_i hc
      obtain ⟨-, hout, hfail⟩ := sendData_flags h₁
      apply OutcomeInv.told
      · rw [hout]
        by_contra hf
        rw [(ho.untold (by simpa using hf)).1] at hc
        cases hc
      · rw [hfail]
        by_contra hf
        rw [(ho.failed (by simpa using hf)).1] at hc
        cases hc
    · cases h₁; exact ho
  | socketClosedNormal now =>
    simp only [step, socketClosedNormal] at h
    split at h
    · split at h
      · cases h
      · cases h
        exact ⟨fun h => ⟨(ho.untold h).1, (ho.untold h).2.1, rfl⟩, by rintro ⟨⟩⟩
    · cases h
  | socketClosedError now =>
    simp only [step, socketClosedError] at h
    split at h
    · cases h
      exact ⟨fun h => ⟨(ho.untold h).1, (ho.untold h).2.1, rfl⟩, by rintro ⟨⟩⟩
    · cases h
  | acknowledge bytes => cases h; exact ⟨ho.untold, ho.failed⟩
  | getAckedBytes =>
    obtain ⟨_, -, h⟩ := bind_ok h
    cases h; exact ho
  | finalizeDetailedLogs =>
    obtain rfl := insertProgressLog_ok h
    exact ho

/-- Once the flow has ended, what it acknowledged stays, and the time of its end changes only where a
connection failure is told after the socket was closed. -/
structure EndKept (s s' : Flow) : Prop where
  ended : s'.app.ended = true
  acked : getAckedBytes s' = getAckedBytes s
  time : s'.app.completionTimeNs = s.app.completionTimeNs ∧ s'.app.IsConnFailed = s.app.IsConnFailed ∨
    s.app.IsConnFailed = false ∧ s'.app.IsConnFailed = true

theorem EndKept.trans {s₁ : Flow} (h₁ : EndKept s s₁) (h₂ : EndKept s₁ s') : EndKept s s' := by
  refine ⟨h₂.ended, h₂.acked.trans h₁.acked, ?_⟩
  rcases h₁.time with ⟨ht₁, hf₁⟩ | ⟨hf, hf₁⟩
  · rcases h₂.time with ⟨ht₂, hf₂⟩ | ⟨hf₂, hf'⟩
    · exact .inl ⟨ht₂.trans ht₁, hf₂.trans hf₁⟩
    · exact .inr ⟨hf₁.symm.trans hf₂, hf'⟩
  · rcases h₂.time with ⟨-, hf₂⟩ | ⟨-, hf'⟩
    · exact .inr ⟨hf, hf₂.trans hf₁⟩
    · exact .inr ⟨hf, hf'⟩

theorem step_endKept {e : Event} (hm : 0 < a.maxBytes) (hi : FlowInv a s) (ho : OutcomeInv s) (hp : Promised s e)
    (he : s.app.ended = true) (h : step a s e = .ok s') : EndKept s s' := by
  rcases step_ended hi hp.delivered he h with happ | ⟨now, rfl, rfl⟩
  · have he' : s'.app.ended = true := by rw [happ, he]
    refine ⟨he', ?_, .inl (by rw [happ]; exact ⟨rfl, rfl⟩)⟩
    rw [getAckedBytes_ended he', getAckedBytes_ended he, happ]
  · -- a failure that is told now was not told before, so nothing was ever sent
    obtain ⟨-, ht, hf⟩ := ho.untold hp.2
    have hcached := hi.cached_le hm he
    have hzero : s.app.ackedBytes = 0 := by omega
    refine ⟨rfl, ?_, .inr ⟨hf, rfl⟩⟩
    rw [getAckedBytes_ended he, hzero]
    rfl

theorem reaches_promised (hm : 0 < a.maxBytes) (hi : FlowInv a s) (ho : OutcomeInv s) (h : Reaches a Promised s s') :
    FlowInv a s' ∧ OutcomeInv s' ∧ (s.app.ended = true → EndKept s s') := by
  induction h with
  | refl => exact ⟨hi, ho, fun he => ⟨he, rfl, .inl ⟨rfl, rfl⟩⟩⟩
  | tail _ hn ih =>
    obtain ⟨e, hp, hstep⟩ := hn
    obtain ⟨hi₁, ho₁, hk⟩ := ih
    refine ⟨step_inv hi₁ hp.delivered hstep, step_outcomeInv hi₁ ho₁ hp hstep, fun he => ?_⟩
    exact (hk he).trans (step_endKept hm hi₁ ho₁ hp (hk he).ended hstep)

theorem outcomeInv_initial : OutcomeInv Flow.initial := ⟨fun _ => ⟨rfl, rfl, rfl⟩, by rintro ⟨⟩⟩

/-- The accounting of a flow, over a socket that keeps its promises. -/
theorem reaches_accounting (hm : 0 < a.maxBytes) (h : Reaches a Promised Flow.initial s) :
    s.app.totBytes ≤ a.maxBytes ∧
    (s.started = true → ∃ n ≤ s.app.totBytes, getAckedBytes s = .ok (toInt64 n) ∧
      (a.maxBytes < 2 ^ 63 → getAckedBytes s = .ok (n : Int))) ∧
    ((s.app.IsConnFailed && s.app.IsClosedNormally) = false ∧ (s.app.IsConnFailed && s.app.IsClosedByError) = false ∧
      (s.app.IsClosedNormally && s.app.IsClosedByError) = false) ∧
    ((s.app.IsConnFailed || s.app.IsClosedNormally || s.app.IsClosedByError) = true →
      ∀ s', Reaches a Promised s s' → EndKept s s') ∧
    (s.app.IsCompleted = true ↔ s.app.IsClosedNormally = true ∧ s.sock.acked = a.maxBytes) ∧
    ∀ c ∈ s.closes, c = a.maxBytes := by
  obtain ⟨hi, ho, -⟩ := reaches_promised hm flowInv_initial outcomeInv_initial h
  refine ⟨hi.tot_le hm, fun hs => ?_, hi.exclusive, fun he s' h' => (reaches_promised hm hi ho h').2.2 he, ?_,
    hi.closes⟩
  · obtain ⟨n, hn, hget⟩ := hi.getAckedBytes hm hs
    refine ⟨n, hn, hget, fun hlt => ?_⟩
    have := hi.tot_le hm
    rw [hget, toInt64_eq (by omega) (by omega)]
  · have hc := hi.completed
    unfold TcpFlowSendApplication.IsCompleted TcpFlowSendApplication.IsClosedNormally
    rw [hc, Bool.and_eq_true, beq_iff_eq]
    constructor
    · rintro ⟨hn, hall⟩
      obtain ⟨hack, hcached⟩ := hi.normal hm hn
      exact ⟨hn, by rw [hack, hi.accepted_eq hm, ← hcached, hall]⟩
    · rintro ⟨hn, hall⟩
      obtain ⟨hack, hcached⟩ := hi.normal hm hn
      exact ⟨hn, by rw [hcached, ← hi.accepted_eq hm, ← hack, hall]⟩

/-! ### One flow of 1000 bytes -/

def flow1000 : FlowAttributes where
  sendSize := 100000
  maxBytes := 1000
  enableDetailedLogging := true
  sendSize_pos := by decide
  sendSize_lt := by decide
  maxBytes_lt := by decide

/-- All bytes were sent at once and acknowledged, and then the socket closed. -/
def flow1000Done : Flow where
  app := { socket := false, connected := false, totBytes := 1000, completionTimeNs := 7, connFailed := false,
           closedNormally := true, closedByError := false, ackedBytes := 1000, isCompleted := true }
  sock := ⟨1000, 1000⟩
  started := true
  outcomeTold := true
  closeTold := true
  closes := [1000]

theorem reaches_flow1000Done : Reaches flow1000 Promised Flow.initial flow1000Done := by
  exact reaches_of_along
    [.start [], .connectionSucceeded [some 5000], .acknowledge 1000, .socketClosedNormal 7] _
    (by decide +kernel) (by decide +kernel)

theorem reaches_accounting_flow1000 :
    flow1000Done.app.IsCompleted = true ↔
      flow1000Done.app.IsClosedNormally = true ∧ flow1000Done.sock.acked = flow1000.maxBytes :=
  (reaches_accounting (by decide) reaches_flow1000Done).2.2.2.2.1

/-- The application was stopped before the connection stood, and the socket closed at once. -/
def flow1000Stopped : Flow where
  app := { Flow.initial.app with completionTimeNs := 5, closedNormally := true }
  sock := ⟨0, 0⟩
  started := true
  outcomeTold := false
  closeTold := true
  closes := []

/-! ### A flow of more bytes than an `int64_t` counts -/

def flowHuge : FlowAttributes where
  sendSize := 2 ^ 31
  maxBytes := 2 ^ 63 + 2 ^ 31
  enableDetailedLogging := false
  sendSize_pos := by decide
  sendSize_lt := by decide
  maxBytes_lt := by decide

/-- The socket has accepted half a packet of each of `k` calls of `Send`. -/
def flowHugeAt (k : Nat) : Flow where
  app := { Flow.initial.app with socket := true, connected := true, totBytes := k * 2 ^ 30 }
  sock := ⟨k * 2 ^ 30, 0⟩
  started := true
  outcomeTold := true
  closeTold := false
  closes := []

theorem step_flowHugeAt {k : Nat} (hk : k < 2 ^ 33) :
    step flowHuge (flowHugeAt k) (.dataSend [some (2 ^ 30)]) = .ok (flowHugeAt (k + 1)) := by
  have hmore : (flowHugeAt k).timeToSend flowHuge = true := by
    have hlt : (flowHugeAt k).app.totBytes < flowHuge.maxBytes := by
      simp only [flowHuge, flowHugeAt]
      omega
    simp [Flow.timeToSend, hlt]
  have hsize : (flowHugeAt k).toSend flowHuge = 2 ^ 31 := by
    simp [Flow.toSend, flowHuge, flowHugeAt]
    omega
  have hover : (flowHugeAt k).handOver (2 ^ 30) = flowHugeAt (k + 1) := by
    have htot : (k * 2 ^ 30 + 2 ^ 30) % 2 ^ 64 = (k + 1) * 2 ^ 30 := by omega
    have hacc : k * 2 ^ 30 + 2 ^ 30 = (k + 1) * 2 ^ 30 := by omega
    unfold Flow.handOver flowHugeAt
    rw [htot, hacc]
  have hloop : sendLoop flowHuge [some (2 ^ 30)] (flowHugeAt k) = .ok (flowHugeAt (k + 1)) := by
    have hsent : sent (some (2 ^ 30)) (2 ^ 31) = 2 ^ 30 := by decide
    unfold sendLoop
    simp only [hmore, hsize, hsent, if_true]
    rw [← hover]; rfl
  have hleft : ¬ ((flowHugeAt (k + 1)).app.totBytes = flowHuge.maxBytes ∧
    (flowHugeAt (k + 1)).app.connected = true) := by
    rintro ⟨h, -⟩
    simp only [flowHuge, flowHugeAt] at h
    omega
  show (sendData flowHuge [some (2 ^ 30)] (flowHugeAt k) >>= insertProgressLog flowHuge) = _
  unfold sendData
  rw [hloop, ok_bind, if_neg hleft]
  rfl

theorem reaches_flowHugeAt : ∀ k ≤ 2 ^ 33, Reaches flowHuge Promised Flow.initial (flowHugeAt k)
  | 0, _ => reaches_of_along [.start [], .connectionSucceeded [none]] _ (by decide +kernel) (by decide +kernel)
  | k + 1, hk => (reaches_flowHugeAt k (by omega)).tail ⟨.dataSend [some (2 ^ 30)], rfl, step_flowHugeAt (by omega)⟩

/-- A connection failure told after the close sets the time of the end anew, and a count above the
range of `int64_t` comes back negative. -/
theorem accounting_counterexample :
    (∃ s s', Reaches flow1000 Promised Flow.initial s ∧ s.app.IsClosedNormally = true ∧
      Reaches flow1000 Promised s s' ∧ s'.app.completionTimeNs ≠ s.app.completionTimeNs) ∧
    ∃ s v, Reaches flowHuge Promised Flow.initial s ∧ getAckedBytes s = .ok v ∧ v < 0 := by
  refine ⟨⟨flow1000Stopped, connectionFailed 7 flow1000Stopped, ?_, rfl, ?_, by decide⟩, ?_⟩
  · exact reaches_of_along [.start [], .stop, .socketClosedNormal 5] _ (by decide +kernel) (by decide +kernel)
  · exact .single ⟨.connectionFailed 7, by decide, rfl⟩
  · refine ⟨_, -2 ^ 63, (reaches_flowHugeAt (2 ^ 33) le_rfl).tail ⟨.acknowledge (2 ^ 63), rfl, rfl⟩, ?_, by decide⟩
    decide +kernel

/-! ## A released socket -/

/-- Once the flow has ended, no connect success and no close is told any more, and data-sent only where
the application no longer takes itself for connected. -/
def InTime (s : Flow) : Event → Prop
  | .connectionSucceeded _ => s.app.ended = false
  | .dataSend _ => s.app.ended = false ∨ s.app.connected = false
  | .socketClosedNormal _ => s.app.ended = false
  | .socketClosedError _ => s.app.ended = false
  | _ => True

theorem FlowInv.sendData_null_iff {answers : List Answer} (hi : FlowInv a s) (hs : s.started = true)
    (hc : s.app.connected = true) : Apps.sendData a answers s = .error nullPointer ↔ s.app.ended = true := by
  have hsock := hi.socket_iff hs
  cases he : s.app.ended with
  | true => simp [sendData_null (by rw [hsock, he]; rfl) hc hi.tot_le]
  | false => simp [sendData_safe (by rw [hsock, he]; rfl)]

/-- A callback uses the null pointer exactly where it comes too late. -/
theorem step_null_iff {e : Event} (hi : FlowInv a s) (hd : Delivered s e) :
    step a s e = .error nullPointer ↔ ¬ InTime s e := by
  cases e with
  | start answers => simp [step, hi.start_eq hd, InTime]
  | stop => simp [step, InTime]
  | connectionSucceeded answers =>
    have hi' : FlowInv a { s with app := { s.app with connected := true }, outcomeTold := true } :=
      { hi with unstarted := fun hf => by rw [show s.started = true from hd] at hf; cases hf }
    exact (hi'.sendData_null_iff hd rfl).trans (iff_of_eq (Bool.not_eq_false _)).symm
  | connectionFailed now => simp [step, InTime]
  | dataSend answers =>
    simp only [step, dataSend, InTime]
    cases hc : s.app.connected with
    | false => simp [ok_bind, hi.log hd]
    | true =>
      have hnull : Apps.sendData a answers s = .error nullPointer ↔ s.app.ended = true := hi.sendData_null_iff hd hc
      cases h : Apps.sendData a answers s with
      | error e =>
        rw [h] at hnull
        simpa [h, error_bind] using hnull
      | ok s₁ =>
        rw [h] at hnull
        have hst := (sendData_flags h).1.trans hd
        simp only [if_true, ok_bind, (hi.sendData h).log hst]
        simpa using hnull
  | socketClosedNormal now =>
    have hsock := hi.socket_iff hd
    simp only [step, socketClosedNormal, InTime, hsock]
    cases s.app.ended <;> simp
    split <;> simp [nullPointer]
  | socketClosedError now =>
    have hsock := hi.socket_iff hd
    simp only [step, socketClosedError, InTime, hsock]
    cases s.app.ended <;> simp
  | acknowledge bytes => simp [step, InTime]
  | getAckedBytes => simp [step, hi.query hd, ok_bind, InTime]
  | finalizeDetailedLogs => simp [step, finalizeDetailedLogs, hi.log hd, InTime]

/-- A run never uses the null pointer exactly if every event of it comes in time. -/
theorem run_null_iff : ∀ (l : List Event) (s : Flow), FlowInv a s → Along a Delivered l s →
    (forEach (step a) l s ≠ .error nullPointer ↔ Along a InTime l s)
  | [], _, _, _ => by simp [forEach, Along]
  | e :: l, s, hi, ⟨hd, hl⟩ => by
    have hstep := step_null_iff hi hd
    unfold Along forEach
    cases h : step a s e with
    | error f =>
      rw [h] at hstep
      simp only [error_bind, ne_eq, reduceCtorEq, false_implies, implies_true, and_true, hstep, not_not]
    | ok s₁ =>
      have hin : InTime s e := by
        by_contra hn
        rw [h] at hstep
        cases hstep.2 hn
      rw [ok_bind, run_null_iff l s₁ (step_inv hi hd h) (hl s₁ h)]
      simp [hin]

theorem run_releasedSocket_iff (l : List Event) (hd : Along a Delivered l Flow.initial) :
    forEach (step a) l Flow.initial ≠ .error nullPointer ↔ Along a InTime l Flow.initial :=
  run_null_iff l Flow.initial flowInv_initial hd

/-- The last data-sent callback was on its way when the connection was reset. -/
theorem run_releasedSocket_counterexample :
    Along flow1000 Delivered
        [.start [], .connectionSucceeded [none], .socketClosedError 5, .dataSend [none]] Flow.initial ∧
      forEach (step flow1000)
        [.start [], .connectionSucceeded [none], .socketClosedError 5, .dataSend [none]] Flow.initial =
          .error nullPointer := by
  decide +kernel

theorem run_releasedSocket_iff_flow1000 :
    forEach (step flow1000) [.start [], .connectionSucceeded [none], .socketClosedError 5] Flow.initial ≠
        .error nullPointer ↔
      Along flow1000 InTime [.start [], .connectionSucceeded [none], .socketClosedError 5] Flow.initial :=
  run_releasedSocket_iff _ (by decide +kernel)

end SatNet.Apps
