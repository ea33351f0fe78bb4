/-
The detailed logs of `TcpFlowSendApplication` over whole runs: what the congestion window, RTT and progress logs of a
flow have in them once `FinalizeDetailedLogs` has written their last rows.
-/
import SatNet.Apps.TcpFlowRuns

namespace SatNet.Apps

open SatNet.Loop

/-! ## The application with its logs -/

/-- The application with the rows of its logs, each at a time. The constructor leaves the two last values without
one. -/
structure LoggedFlow where
  flow : Flow
  currentCwndByte : Option UInt32
  currentRttNs : Option Int
  progress : List (Int × Int)
  cwnd : List (Int × UInt32)
  rtt : List (Int × Int)

/-- What the simulation and the socket call after the start, and what is asked in between. -/
inductive Callback where
  | stop
  | connectionSucceeded (answers : List Answer)
  | connectionFailed
  | dataSend (answers : List Answer)
  | socketClosedNormal
  | socketClosedError
  | acknowledge (bytes : Nat)
  | getAckedBytes
  | cwndChange (oldCwnd newCwnd : UInt32)
  | rttChange (oldRtt newRtt : Int)

/-- The reading of a field that may not have been assigned. -/
def assigned {α : Type} : Option α → Res α
  | some x => .ok x
  | none => .error (.undefined "read of an uninitialised field")

namespace LoggedFlow

def initial : LoggedFlow := ⟨Flow.initial, none, none, [], [], []⟩

def insertCwndLog (timestamp : Int) (cwndByte : UInt32) (s : LoggedFlow) : LoggedFlow :=
  { s with cwnd := s.cwnd ++ [(timestamp, cwndByte)], currentCwndByte := some cwndByte }

def insertRttLog (timestamp rttNs : Int) (s : LoggedFlow) : LoggedFlow :=
  { s with rtt := s.rtt ++ [(timestamp, rttNs)], currentRttNs := some rttNs }

def insertProgressLog (timestamp progressByte : Int) (s : LoggedFlow) : LoggedFlow :=
  { s with progress := s.progress ++ [(timestamp, progressByte)] }

/-- A call that writes no row. -/
def onFlow (s : LoggedFlow) (r : Res Flow) : Res LoggedFlow := do
  let flow ← r
  .ok { s with flow }

variable (a : FlowAttributes)

/-- The log files are opened anew: the progress log has one row, the two others none. -/
def startApplication (now : Int) (answers : List Answer) (s : LoggedFlow) : Res LoggedFlow := do
  let s ← (if s.flow.app.socket then .ok { s with flow := { s.flow with started := true } }
    else if a.enableDetailedLogging then do
      let acked ← getAckedBytes s.flow.createSocket
      .ok { s with flow := s.flow.createSocket, progress := [(now, acked)], cwnd := [], rtt := [] }
    else .ok { s with flow := s.flow.createSocket })
  if s.flow.app.connected then s.onFlow (sendData a answers s.flow) else .ok s

def dataSend (now : Int) (answers : List Answer) (s : LoggedFlow) : Res LoggedFlow := do
  let flow ← (if s.flow.app.connected then sendData a answers s.flow else .ok s.flow)
  if a.enableDetailedLogging then do
    let acked ← getAckedBytes flow
    .ok ({ s with flow }.insertProgressLog now acked)
  else .ok { s with flow }

def cwndChange (now : Int) (newCwnd : UInt32) (s : LoggedFlow) : LoggedFlow := s.insertCwndLog now newCwnd

def rttChange (now newRtt : Int) (s : LoggedFlow) : LoggedFlow := s.insertRttLog now newRtt

/-- At the time of completion, or of the end of the simulation. -/
def finalizeDetailedLogs (now : Int) (s : LoggedFlow) : Res LoggedFlow :=
  if a.enableDetailedLogging then do
    let timestamp := if s.flow.app.ended then s.flow.app.completionTimeNs else now
    let cwndByte ← assigned s.currentCwndByte
    let s := s.insertCwndLog timestamp cwndByte
    let rttNs ← assigned s.currentRttNs
    let s := s.insertRttLog timestamp rttNs
    let acked ← getAckedBytes s.flow
    .ok (s.insertProgressLog timestamp acked)
  else .ok s

def step (now : Int) (s : LoggedFlow) : Callback → Res LoggedFlow
  | .stop => s.onFlow (.ok (stopApplication s.flow))
  | .connectionSucceeded answers => s.onFlow (connectionSucceeded a answers s.flow)
  | .connectionFailed => s.onFlow (.ok (connectionFailed now s.flow))
  | .dataSend answers => s.dataSend a now answers
  | .socketClosedNormal => s.onFlow (socketClosedNormal a now s.flow)
  | .socketClosedError => s.onFlow (socketClosedError now s.flow)
  | .acknowledge bytes => s.onFlow (Apps.step a s.flow (.acknowledge bytes))
  | .getAckedBytes => s.onFlow (Apps.step a s.flow .getAckedBytes)
  | .cwndChange _ newCwnd => .ok (s.cwndChange now newCwnd)
  | .rttChange _ newRtt => .ok (s.rttChange now newRtt)

end LoggedFlow

/-! ## Runs -/

/-- The life of a flow: it is started, the callbacks come at their times, and the simulation ends. -/
structure FlowRun where
  startNs : Int
  answers : List Answer
  callbacks : List (Int × Callback)
  endNs : Int
  ascending : (startNs :: callbacks.map Prod.fst).Pairwise (· ≤ ·)
  le_end : ∀ t ∈ startNs :: callbacks.map Prod.fst, t ≤ endNs

/-- The application when the simulation is over. -/
def FlowRun.logged (r : FlowRun) (a : FlowAttributes) : Res LoggedFlow := do
  let s ← LoggedFlow.initial.startApplication a r.startNs r.answers
  forEach (fun s c => s.step a c.1 c.2) r.callbacks s

def Callback.cwnd : Callback → Option UInt32
  | .cwndChange _ newCwnd => some newCwnd
  | _ => none

def Callback.rtt : Callback → Option Int
  | .rttChange _ newRtt => some newRtt
  | _ => none

/-- The connection failed, or the socket was closed. -/
def Callback.ends : Callback → Bool
  | .connectionFailed => true
  | .socketClosedNormal => true
  | .socketClosedError => true
  | _ => false

def Callback.isDataSend : Callback → Bool
  | .dataSend _ => true
  | _ => false

/-- The values that the trace sources of the socket have reported, in their order. -/
def reportedCwnd (l : List (Int × Callback)) : List UInt32 := l.filterMap fun c => c.2.cwnd

def reportedRtt (l : List (Int × Callback)) : List Int := l.filterMap fun c => c.2.rtt

/-- The times of the callbacks that end the flow, and of those for data that was sent. -/
def endTimes (l : List (Int × Callback)) : List Int := (l.filter fun c => c.2.ends).map Prod.fst

def dataSendTimes (l : List (Int × Callback)) : List Int := (l.filter fun c => c.2.isDataSend).map Prod.fst

/-! ## What a callback does -/

variable {a : FlowAttributes} {now : Int} {c : Callback}

/-- The callback as an event of the flow without its logs. -/
def Callback.event (now : Int) : Callback → Option Event
  | .stop => some .stop
  | .connectionSucceeded answers => some (.connectionSucceeded answers)
  | .connectionFailed => some (.connectionFailed now)
  | .dataSend answers => some (.dataSend answers)
  | .socketClosedNormal => some (.socketClosedNormal now)
  | .socketClosedError => some (.socketClosedError now)
  | .acknowledge bytes => some (.acknowledge bytes)
  | .getAckedBytes => some .getAckedBytes
  | .cwndChange _ _ => none
  | .rttChange _ _ => none

/-- A callback does to the flow what it does without logs; it adds its row and keeps its value. -/
structure Stepped (a : FlowAttributes) (now : Int) (c : Callback) (s s' : LoggedFlow) : Prop where
  flow : ∀ e, c.event now = some e → Apps.step a s.flow e = .ok s'.flow
  frame : c.event now = none → s'.flow = s.flow
  cwnd : s'.cwnd = s.cwnd ++ c.cwnd.toList.map fun v => (now, v)
  currentCwnd : s'.currentCwndByte = c.cwnd.or s.currentCwndByte
  rtt : s'.rtt = s.rtt ++ c.rtt.toList.map fun v => (now, v)
  currentRtt : s'.currentRttNs = c.rtt.or s.currentRttNs
  progress : s'.progress.map Prod.fst = s.progress.map Prod.fst ++ if c.isDataSend then [now] else []

theorem stepped_onFlow {s s' : LoggedFlow} {e : Event} (he : c.event now = some e) (hc : c.cwnd = none)
    (hr : c.rtt = none) (hd : c.isDataSend = false) (h : s.onFlow (Apps.step a s.flow e) = .ok s') :
    Stepped a now c s s' := by
  obtain ⟨flow, hflow, h⟩ := bind_ok h
  cases h
  constructor
  · intro e' he'
    cases he.symm.trans he'
    exact hflow
  · intro hn
    cases he.symm.trans hn
  all_goals simp [hc, hr, hd]

theorem step_ok (hlog : a.enableDetailedLogging = true) {s s' : LoggedFlow} (h : s.step a now c = .ok s') :
    Stepped a now c s s' := by
  cases c with
  | stop => exact stepped_onFlow rfl rfl rfl rfl h
  | connectionSucceeded answers => exact stepped_onFlow rfl rfl rfl rfl h
  | connectionFailed => exact stepped_onFlow rfl rfl rfl rfl h
  | socketClosedNormal => exact stepped_onFlow rfl rfl rfl rfl h
  | socketClosedError => exact stepped_onFlow rfl rfl rfl rfl h
  | acknowledge bytes => exact stepped_onFlow rfl rfl rfl rfl h
  | getAckedBytes => exact stepped_onFlow rfl rfl rfl rfl h
  | dataSend answers =>
    obtain ⟨flow, hflow, h⟩ := bind_ok h
    rw [if_pos hlog] at h
    obtain ⟨acked, hacked, h⟩ := bind_ok h
    cases h
    refine ⟨fun e he => ?_, fun hn => (by cases hn), ?_, rfl, ?_, rfl, ?_⟩
    · cases he
      show Apps.dataSend a answers s.flow = _
      unfold Apps.dataSend insertProgressLog
      rw [hflow, ok_bind, if_pos hlog, hacked]
      rfl
    all_goals simp [LoggedFlow.insertProgressLog, Callback.cwnd, Callback.rtt, Callback.isDataSend]
  | cwndChange oldCwnd newCwnd =>
    cases h
    refine ⟨fun e he => (by cases he), fun _ => rfl, rfl, rfl, ?_, rfl, ?_⟩
    all_goals simp [LoggedFlow.cwndChange, LoggedFlow.insertCwndLog, Callback.rtt, Callback.isDataSend]
  | rttChange oldRtt newRtt =>
    cases h
    refine ⟨fun e he => (by cases he), fun _ => rfl, ?_, rfl, rfl, rfl, ?_⟩
    all_goals simp [LoggedFlow.rttChange, LoggedFlow.insertRttLog, Callback.cwnd, Callback.isDataSend]

/-- The flow stays started, and only a callback that ends it changes how and when it ended. -/
structure EndStep (now : Int) (ends : Bool) (s s' : Flow) : Prop where
  started : s'.started = s.started
  ended : s'.app.ended = (s.app.ended || ends)
  completionTimeNs : s'.app.completionTimeNs = if ends then now else s.app.completionTimeNs

theorem EndStep.refl (s : Flow) : EndStep now false s s := ⟨rfl, by simp, rfl⟩

theorem sendData_endStep {answers : List Answer} {s s' : Flow} (h : sendData a answers s = .ok s') :
    EndStep now false s s' := by
  obtain ⟨s₁, h₁, h⟩ := sendData_ok h
  have h₁' : EndStep now false s s₁ := by
    rcases h₁ with rfl | ⟨-, t, n, rfl, -⟩
    · exact .refl _
    · exact ⟨rfl, by simp [Flow.total, TcpFlowSendApplication.ended], rfl⟩
  rcases h with rfl | ⟨-, rfl⟩
  · exact h₁'
  · exact ⟨h₁'.started, h₁'.ended, h₁'.completionTimeNs⟩

theorem event_endStep {e : Event} {s s' : Flow} (he : c.event now = some e) (h : step a s e = .ok s') :
    EndStep now c.ends s s' := by
  cases c with
  | stop =>
    cases he
    cases h
    unfold stopApplication
    split
    · exact ⟨rfl, by simp [TcpFlowSendApplication.ended, Callback.ends], rfl⟩
    · exact .refl _
  | connectionSucceeded answers =>
    cases he
    have hs' : EndStep now false _ s' := sendData_endStep (show sendData a answers _ = .ok s' from h)
    exact ⟨hs'.started, hs'.ended, hs'.completionTimeNs⟩
  | connectionFailed =>
    cases he
    cases h
    exact ⟨rfl, by simp [connectionFailed, TcpFlowSendApplication.ended, Callback.ends], rfl⟩
  | dataSend answers =>
    cases he
    obtain ⟨s₁, h₁, h⟩ := bind_ok h
    obtain rfl := insertProgressLog_ok h
    split at h₁
    · exact sendData_endStep h₁
    · cases h₁
      exact .refl _
  | socketClosedNormal =>
    cases he
    simp only [step, socketClosedNormal] at h
    split at h
    · split at h
      · cases h
      · cases h
        exact ⟨rfl, by simp [TcpFlowSendApplication.ended, Callback.ends], rfl⟩
    · cases h
  | socketClosedError =>
    cases he
    simp only [step, socketClosedError] at h
    split at h
    · cases h
      exact ⟨rfl, by simp [TcpFlowSendApplication.ended, Callback.ends], rfl⟩
    · cases h
  | acknowledge bytes =>
    cases he
    cases h
    exact ⟨rfl, (Bool.or_false _).symm, rfl⟩
  | getAckedBytes =>
    cases he
    obtain ⟨_, -, h⟩ := bind_ok h
    cases h
    exact .refl _
  | cwndChange => cases he
  | rttChange => cases he

/-! ## The invariant of a run -/

/-- The logs after the callbacks `done`: the reported values, and the progress at the start and whenever data was
sent. -/
structure LogsInv (a : FlowAttributes) (startNs : Int) (done : List (Int × Callback)) (s : LoggedFlow) : Prop where
  inv : FlowInv a s.flow
  started : s.flow.started = true
  cwnd : s.cwnd.map Prod.snd = reportedCwnd done
  currentCwnd : s.currentCwndByte = (reportedCwnd done).getLast?
  rtt : s.rtt.map Prod.snd = reportedRtt done
  currentRtt : s.currentRttNs = (reportedRtt done).getLast?
  progress : s.progress.map Prod.fst = startNs :: dataSendTimes done
  ended : (endTimes done).getLast? = if s.flow.app.ended then some s.flow.app.completionTimeNs else none

theorem logsInv_start (hlog : a.enableDetailedLogging = true) {answers : List Answer} {s : LoggedFlow}
    (h : LoggedFlow.initial.startApplication a now answers = .ok s) : LogsInv a now [] s := by
  have hi : FlowInv a Flow.initial.createSocket := flowInv_initial.createSocket rfl
  unfold LoggedFlow.startApplication at h
  obtain ⟨s₁, h₁, h⟩ := bind_ok h
  rw [if_neg (by decide), if_pos hlog] at h₁
  obtain ⟨acked, -, h₁⟩ := bind_ok h₁
  cases h₁
  -- not connected yet
  cases h
  exact ⟨hi, rfl, rfl, rfl, rfl, rfl, rfl, rfl⟩

theorem getLast?_concat_toList {α : Type} (l : List α) (x : Option α) : (l ++ x.toList).getLast? = x.or l.getLast? := by
  cases x <;> simp

theorem step_logsInv (hlog : a.enableDetailedLogging = true) {startNs : Int} {done : List (Int × Callback)}
    {s s' : LoggedFlow} (hi : LogsInv a startNs done s) (h : s.step a now c = .ok s') :
    LogsInv a startNs (done ++ [(now, c)]) s' := by
  have hs := step_ok hlog h
  have hcwnd : reportedCwnd (done ++ [(now, c)]) = reportedCwnd done ++ c.cwnd.toList := by
    cases hc : c.cwnd <;> simp [reportedCwnd, hc]
  have hrtt : reportedRtt (done ++ [(now, c)]) = reportedRtt done ++ c.rtt.toList := by
    cases hc : c.rtt <;> simp [reportedRtt, hc]
  have hdata : dataSendTimes (done ++ [(now, c)]) = dataSendTimes done ++ if c.isDataSend then [now] else [] := by
    cases hc : c.isDataSend <;> simp [dataSendTimes, hc]
  have hends : endTimes (done ++ [(now, c)]) = endTimes done ++ if c.ends then [now] else [] := by
    cases hc : c.ends <;> simp [endTimes, hc]
  have hflow : FlowInv a s'.flow ∧ EndStep now c.ends s.flow s'.flow := by
    cases he : c.event now with
    | none =>
      have hnone : c.ends = false := by cases c <;> first | rfl | cases he
      rw [hs.frame he, hnone]
      exact ⟨hi.inv, .refl _⟩
    | some e =>
      refine ⟨step_inv hi.inv ?_ (hs.flow e he), event_endStep he (hs.flow e he)⟩
      cases c <;> cases he <;> first | trivial | exact hi.started
  refine ⟨hflow.1, hflow.2.started.trans hi.started, ?_, ?_, ?_, ?_, ?_, ?_⟩
  · rw [hs.cwnd, List.map_append, hi.cwnd, hcwnd, List.map_map]
    simp
  · rw [hs.currentCwnd, hcwnd, getLast?_concat_toList, hi.currentCwnd]
  · rw [hs.rtt, List.map_append, hi.rtt, hrtt, List.map_map]
    simp
  · rw [hs.currentRtt, hrtt, getLast?_concat_toList, hi.currentRtt]
  · rw [hs.progress, hi.progress, hdata, List.cons_append]
  · rw [hends, hflow.2.ended, hflow.2.completionTimeNs]
    cases hc : c.ends
    · simpa [hc] using hi.ended
    · simp

theorem run_logsInv (hlog : a.enableDetailedLogging = true) {r : FlowRun} {s : LoggedFlow} (h : r.logged a = .ok s) :
    LogsInv a r.startNs r.callbacks s := by
  obtain ⟨s₀, h₀, h⟩ := bind_ok h
  exact forEach_pre _ (LogsInv a r.startNs) (fun done s c s' hi h => step_logsInv hlog hi h) r.callbacks [] s₀ s
    (logsInv_start hlog h₀) h

/-! ## What the logs end with -/

/-- The logs that the finalisation leaves: reported values only, the last one in the last row, and a progress that
is logged in the order of time and ends with what is acknowledged. -/
structure LogsReported (r : FlowRun) (s final : LoggedFlow) : Prop where
  cwnd_mem : ∀ row ∈ final.cwnd, row.2 ∈ reportedCwnd r.callbacks
  cwnd_last : ∃ t v, final.cwnd = s.cwnd ++ [(t, v)] ∧ (reportedCwnd r.callbacks).getLast? = some v
  rtt_mem : ∀ row ∈ final.rtt, row.2 ∈ reportedRtt r.callbacks
  rtt_last : ∃ t v, final.rtt = s.rtt ++ [(t, v)] ∧ (reportedRtt r.callbacks).getLast? = some v
  progress_ascending : (final.progress.map Prod.fst).Pairwise (· ≤ ·)
  progress_last : ∃ t v, final.progress = s.progress ++ [(t, v)] ∧ getAckedBytes s.flow = .ok v

/-- The time of the last rows. -/
def FlowRun.finalNs (r : FlowRun) : Int := (endTimes r.callbacks).getLast?.getD r.endNs

/-- The finalisation reads only what was assigned if both trace sources have reported a value. -/
theorem finalize_ok (hlog : a.enableDetailedLogging = true) {r : FlowRun} {s final : LoggedFlow}
    (hi : LogsInv a r.startNs r.callbacks s) :
    s.finalizeDetailedLogs a r.endNs = .ok final ↔
      ∃ cwndByte rttNs acked, (reportedCwnd r.callbacks).getLast? = some cwndByte ∧
        (reportedRtt r.callbacks).getLast? = some rttNs ∧ getAckedBytes s.flow = .ok acked ∧
        final = (s.insertCwndLog r.finalNs cwndByte |>.insertRttLog r.finalNs rttNs
          |>.insertProgressLog r.finalNs acked) := by
  have htime : (if s.flow.app.ended then s.flow.app.completionTimeNs else r.endNs) = r.finalNs := by
    unfold FlowRun.finalNs
    rw [hi.ended]
    cases s.flow.app.ended <;> rfl
  have hassigned : ∀ {α : Type} {x : Option α} {v : α}, assigned x = .ok v ↔ x = some v := by
    intro α x v
    cases x <;> simp [assigned]
  unfold LoggedFlow.finalizeDetailedLogs
  rw [if_pos hlog, htime]
  simp only [bind_eq_ok, hassigned, LoggedFlow.insertCwndLog, LoggedFlow.insertRttLog, hi.currentCwnd, hi.currentRtt,
    Except.ok.injEq, exists_and_left]
  constructor
  · rintro ⟨v, hv, w, hw, acked, hacked, rfl⟩
    exact ⟨v, hv, w, hw, acked, hacked, rfl⟩
  · rintro ⟨v, hv, w, hw, acked, hacked, rfl⟩
    exact ⟨v, hv, w, hw, acked, hacked, rfl⟩

/-- No data is told to be sent at a later time than the flow ended last. -/
def FlowRun.QuietAfterEnd (r : FlowRun) : Prop :=
  ∀ t ∈ (endTimes r.callbacks).getLast?, ∀ d ∈ dataSendTimes r.callbacks, d ≤ t

/-- The progress rows and the last one are in order exactly if it is quiet after the end. -/
theorem progress_ascending_iff (r : FlowRun) :
    (r.startNs :: dataSendTimes r.callbacks ++ [r.finalNs]).Pairwise (· ≤ ·) ↔ r.QuietAfterEnd := by
  have hsub : List.Sublist (r.startNs :: dataSendTimes r.callbacks) (r.startNs :: r.callbacks.map Prod.fst) :=
    (List.filter_sublist.map Prod.fst).cons_cons _
  have hends : ∀ t ∈ endTimes r.callbacks, t ∈ r.callbacks.map Prod.fst := fun t ht =>
    (List.filter_sublist.map Prod.fst).subset ht
  rw [List.pairwise_append, and_iff_right (r.ascending.sublist hsub), and_iff_right (List.pairwise_singleton ..)]
  simp only [List.mem_singleton, forall_eq, List.forall_mem_cons]
  unfold FlowRun.QuietAfterEnd FlowRun.finalNs
  cases hlast : (endTimes r.callbacks).getLast? with
  | none =>
    -- the flow has not ended: the last row is at the end of the simulation
    simp only [Option.getD_none, Option.mem_def, reduceCtorEq, false_implies, implies_true, iff_true]
    exact ⟨r.le_end _ (List.mem_cons_self ..), fun d hd => r.le_end d (hsub.subset (List.mem_cons_of_mem _ hd))⟩
  | some t =>
    have hstart : r.startNs ≤ t :=
      (List.pairwise_cons.1 r.ascending).1 t (hends t (List.mem_of_getLast? hlast))
    simp [hstart]

/-- The logs of a run have reported values only, up to their last rows, exactly if both trace sources reported one and
no data was told to be sent after the flow had ended. -/
theorem finalizeDetailedLogs_reported_iff (hlog : a.enableDetailedLogging = true) (r : FlowRun) {s : LoggedFlow}
    (h : r.logged a = .ok s) :
    (∃ final, s.finalizeDetailedLogs a r.endNs = .ok final ∧ LogsReported r s final) ↔
      reportedCwnd r.callbacks ≠ [] ∧ reportedRtt r.callbacks ≠ [] ∧ r.QuietAfterEnd := by
  have hi := run_logsInv hlog h
  have hprogress : ∀ v : Int, ((s.progress ++ [(r.finalNs, v)]).map Prod.fst) =
      r.startNs :: dataSendTimes r.callbacks ++ [r.finalNs] := fun v => by simp [hi.progress]
  constructor
  · rintro ⟨final, hfinal, hreported⟩
    obtain ⟨cwndByte, rttNs, acked, hcwnd, hrtt, -, rfl⟩ := (finalize_ok hlog hi).1 hfinal
    refine ⟨List.ne_nil_of_mem (List.mem_of_getLast? hcwnd), List.ne_nil_of_mem (List.mem_of_getLast? hrtt), ?_⟩
    have hasc := hreported.progress_ascending
    rw [show LoggedFlow.progress _ = s.progress ++ [(r.finalNs, acked)] from rfl, hprogress] at hasc
    exact (progress_ascending_iff r).1 hasc
  · rintro ⟨hcwnd, hrtt, hquiet⟩
    have hlastCwnd := List.getLast?_eq_some_getLast hcwnd
    have hlastRtt := List.getLast?_eq_some_getLast hrtt
    obtain ⟨acked, hacked⟩ : ∃ acked, getAckedBytes s.flow = .ok acked := ⟨_, hi.inv.query hi.started⟩
    refine ⟨_, (finalize_ok hlog hi).2 ⟨_, _, acked, hlastCwnd, hlastRtt, hacked, rfl⟩, ?_⟩
    constructor
    · intro row hrow
      rcases List.mem_append.1 hrow with hrow | hrow
      · exact hi.cwnd ▸ List.mem_map_of_mem hrow
      · rw [List.mem_singleton.1 hrow]
        exact List.getLast_mem hcwnd
    · exact ⟨_, _, rfl, hlastCwnd⟩
    · intro row hrow
      rcases List.mem_append.1 hrow with hrow | hrow
      · exact hi.rtt ▸ List.mem_map_of_mem hrow
      · rw [List.mem_singleton.1 hrow]
        exact List.getLast_mem hrtt
    · exact ⟨_, _, rfl, hlastRtt⟩
    · rw [show LoggedFlow.progress _ = s.progress ++ [(r.finalNs, acked)] from rfl, hprogress]
      exact (progress_ascending_iff r).2 hquiet
    · exact ⟨_, _, rfl, hacked⟩

/-- The connection of a flow stands, both values are reported, and all its bytes are sent and acknowledged. -/
def flow1000Run : FlowRun where
  startNs := 0
  answers := []
  callbacks :=
    [(1, .cwndChange 0 536), (1, .rttChange 0 1000), (1, .connectionSucceeded [some 5000]), (2, .acknowledge 1000),
     (2, .cwndChange 536 1072), (2, .dataSend []), (3, .socketClosedNormal)]
  endNs := 10
  ascending := by decide
  le_end := by decide

theorem finalizeDetailedLogs_reported_iff_flow1000 : ∃ s final, flow1000Run.logged flow1000 = .ok s ∧
    s.finalizeDetailedLogs flow1000 flow1000Run.endNs = .ok final ∧ LogsReported flow1000Run s final := by
  obtain ⟨s, hs⟩ := ok_of_isOk (show (flow1000Run.logged flow1000).isOk = true by decide)
  obtain ⟨final, hfinal, hreported⟩ := (finalizeDetailedLogs_reported_iff rfl flow1000Run hs).2
    ⟨by decide, by decide, by unfold FlowRun.QuietAfterEnd; decide⟩
  exact ⟨s, final, hs, hfinal, hreported⟩

/-- A connection that fails before any value was reported. -/
def failedRun : FlowRun where
  startNs := 0
  answers := []
  callbacks := [(5, .connectionFailed)]
  endNs := 10
  ascending := by decide
  le_end := by decide

/-- The socket is closed, and tells of sent data when the last acknowledgement comes. -/
def lateRun : FlowRun where
  startNs := 0
  answers := []
  callbacks :=
    [(1, .cwndChange 0 536), (1, .rttChange 0 1000), (1, .connectionSucceeded [some 5000]), (2, .acknowledge 1000),
     (3, .socketClosedNormal), (4, .dataSend [])]
  endNs := 10
  ascending := by decide
  le_end := by decide

/-- The finalisation of the one reads fields without a value; the other's progress ends with a row of an earlier time. -/
theorem finalizeDetailedLogs_counterexample :
    (∃ s, failedRun.logged flow1000 = .ok s ∧
      s.finalizeDetailedLogs flow1000 failedRun.endNs = .error (.undefined "read of an uninitialised field")) ∧
    ∃ s final, lateRun.logged flow1000 = .ok s ∧ s.finalizeDetailedLogs flow1000 lateRun.endNs = .ok final ∧
      final.progress = [(0, 0), (4, 1000), (3, 1000)] ∧ ¬ LogsReported lateRun s final := by
  refine ⟨⟨_, rfl, rfl⟩, ?_⟩
  have hrows : (do
      let s ← lateRun.logged flow1000
      let final ← s.finalizeDetailedLogs flow1000 lateRun.endNs
      .ok final.progress) = (.ok [(0, 0), (4, 1000), (3, 1000)] : Res (List (Int × Int))) := by
    decide +kernel
  obtain ⟨s, hs, h⟩ := bind_ok hrows
  obtain ⟨final, hfinal, h⟩ := bind_ok h
  have hprogress := Except.ok.inj h
  refine ⟨s, final, hs, hfinal, hprogress, fun hreported => ?_⟩
  have hasc := hreported.progress_ascending
  rw [hprogress] at hasc
  exact absurd hasc (by decide)

end SatNet.Apps
