/-
The size of a flow from its line in the schedule to its line in the results: `size_byte` becomes the
`MaxBytes` of the application, for which zero means that there is no limit.
-/
import SatNet.Apps.TcpFlowRuns
import SatNet.Apps.TcpFlowStarts

namespace SatNet.Apps

open SatNet.ExpUtil SatNet.Loop SatNet.Events

variable {a : FlowAttributes} {s : Flow} {topology : Topology} {endNs : Nat}

/-! ## What it is to honour a size -/

/-- In every run of the application: no more bytes are handed to the socket than the entry says, `SendData`
returns whatever the socket answers, and "YES" is reported exactly of a flow that closed normally with all
bytes acknowledged. -/
structure HonoursSize (a : FlowAttributes) (endNs : Nat) (e : TcpFlowScheduleEntry) : Prop where
  handed : ∀ s, Reaches a Delivered Flow.initial s → s.sock.accepted ≤ e.sizeByte
  ends : ∀ s, Reaches a Delivered Flow.initial s → ∀ answers : Nat → Answer,
    ∃ n, sendData a ((List.range n).map answers) s ≠ .error .diverges
  reported : ∀ s, Reaches a Delivered Flow.initial s → s.started = true →
    ∃ row, flowRow endNs e a s = .ok row ∧
      (row.finished = "YES" ↔ s.app.IsClosedNormally = true ∧ s.sock.acked = e.sizeByte)

/-! ## Sizes that are not zero -/

/-- The close after the loop of `SendData` does not run on. -/
theorem sendData_ends {answers : List Answer} (h : sendLoop a answers s ≠ .error .diverges) :
    sendData a answers s ≠ .error .diverges := by
  unfold sendData
  cases hl : sendLoop a answers s with
  | error f =>
    intro he
    cases he
    exact h hl
  | ok s' =>
    rw [ok_bind]
    split
    · split <;> simp [nullPointer]
    · simp

theorem finishedState_yes {app : TcpFlowSendApplication} : finishedState app = "YES" ↔ app.IsCompleted = true := by
  unfold finishedState
  split
  · simp [*]
  · rename_i h
    simp only [h]
    split
    · decide
    · split
      · decide
      · split <;> decide

/-- The flow counts as completed when it closed normally with all its bytes acknowledged. -/
theorem FlowInv.completed_iff (hi : FlowInv a s) (hm : 0 < a.maxBytes) :
    s.app.IsCompleted = true ↔ s.app.IsClosedNormally = true ∧ s.sock.acked = a.maxBytes := by
  unfold TcpFlowSendApplication.IsCompleted TcpFlowSendApplication.IsClosedNormally
  rw [hi.completed]
  cases hc : s.app.closedNormally with
  | false => simp
  | true =>
    obtain ⟨hall, hcached⟩ := hi.normal hm hc
    simp [hcached, hall, hi.accepted_eq hm]

/-- The line of a flow that was started can be written. -/
theorem FlowInv.flowRow_eq (hi : FlowInv a s) (hs : s.started = true) (e : TcpFlowScheduleEntry) :
    ∃ row, flowRow endNs e a s = .ok row ∧ row.finished = finishedState s.app := by
  unfold flowRow finalizeDetailedLogs
  rw [hi.log hs, ok_bind, hi.query hs, ok_bind]
  exact ⟨_, rfl, rfl⟩

theorem honoursSize_of_pos {e : TcpFlowScheduleEntry} (hm : 0 < a.maxBytes) (hsize : a.maxBytes = e.sizeByte)
    (hsend : a.sendSize < 2 ^ 32 - 1) : HonoursSize a endNs e := by
  have hinv : ∀ s, Reaches a Delivered Flow.initial s → FlowInv a s :=
    fun s hr => reaches_inv (fun _ _ h => h) flowInv_initial hr
  refine ⟨fun s hr => ?_, fun s hr answers => ⟨a.maxBytes, ?_⟩, fun s hr hs => ?_⟩
  · rw [(hinv s hr).accepted_eq hm, ← hsize]
    exact (hinv s hr).tot_le hm
  · apply sendData_ends
    refine sendLoop_ends hm hsend _ s ((hinv s hr).tot_le hm) ?_
    rw [List.length_map, List.length_range]
    omega
  · obtain ⟨row, hrow, hfin⟩ : ∃ row, flowRow endNs e a s = .ok row ∧ row.finished = finishedState s.app :=
      (hinv s hr).flowRow_eq hs e
    refine ⟨row, hrow, ?_⟩
    rw [hfin, finishedState_yes, (hinv s hr).completed_iff hm, hsize]

/-! ## Size zero -/

/-- Without a limit the first `Send` is one of `SendSize` bytes. -/
theorem not_honoursSize_zero {e : TcpFlowScheduleEntry} {logging : Bool} (h : e.sizeByte = 0) :
    ¬ HonoursSize (flowAttributes e.sizeByte logging) endNs e := by
  intro hh
  have hstart : step (flowAttributes 0 logging) Flow.initial (.start []) = .ok Flow.initial.createSocket := by
    cases logging <;> decide +kernel
  obtain ⟨s, hs, hfive⟩ : ∃ s, step (flowAttributes 0 logging) Flow.initial.createSocket
      (.connectionSucceeded [some 5]) = .ok s ∧ s.sock.accepted = 5 := by
    cases logging <;> exact ⟨_, rfl, rfl⟩
  rw [h] at hh
  have hd₁ : Delivered Flow.initial (.start []) := rfl
  have hd₂ : Delivered Flow.initial.createSocket (.connectionSucceeded [some 5]) := rfl
  have hle := hh.handed s ((Relation.ReflTransGen.single ⟨_, hd₁, hstart⟩).tail ⟨_, hd₂, hs⟩)
  omega

/-! ## The flows of a schedule -/

/-- What `StartNextFlow` installs for the entry it starts. -/
theorem startNextFlow_app {i : Int} {w w' : Sim Int TcpFlowScheduler} (h : startNextFlow topology i w = .ok w') :
    ∃ e app, w.state.schedule[i.toNat]? = some e ∧ w'.state.apps = w.state.apps ++ [app] ∧
      app.tcpFlowId = e.tcpFlowId ∧ ∃ logging, app.attributes = flowAttributes e.sizeByte logging := by
  unfold startNextFlow at h
  obtain ⟨e, he, h⟩ := bind_ok h
  split at h
  · cases h
  · obtain ⟨remote, -, h⟩ := bind_ok h
    obtain ⟨_, -, h⟩ := bind_ok h
    obtain ⟨next, -, h⟩ := bind_ok h
    split at h
    · obtain ⟨nextEntry, -, h⟩ := bind_ok h
      obtain ⟨t, -, -, rfl⟩ := schedule_ok h
      exact ⟨e, _, index_ok.1 he, rfl, rfl, _, rfl⟩
    · cases h
      exact ⟨e, _, index_ok.1 he, rfl, rfl, _, rfl⟩

/-- For every entry of a schedule that is read, the application that is started for it honours the size of
the entry exactly if that is not zero. -/
theorem startNextFlow_honoursSize_iff {filename : Str} {file : File} {l : List TcpFlowScheduleEntry}
    (hread : readTcpFlowSchedule filename file topology endNs = .ok l) {e : TcpFlowScheduleEntry} (he : e ∈ l)
    {i : Int} {w w' : Sim Int TcpFlowScheduler} (hi : w.state.schedule[i.toNat]? = some e)
    (h : startNextFlow topology i w = .ok w') :
    ∃ app, w'.state.apps = w.state.apps ++ [app] ∧ app.tcpFlowId = e.tcpFlowId ∧
      (HonoursSize app.attributes endNs e ↔ e.sizeByte ≠ 0) := by
  obtain ⟨e', app, he', happ, hid, logging, hattr⟩ := startNextFlow_app h
  rw [hi] at he'
  cases he'
  refine ⟨app, happ, hid, ?_⟩
  rw [hattr]
  constructor
  · intro hh h0
    exact not_honoursSize_zero h0 hh
  · intro hne
    have hlt := (readTcpFlowSchedule_ok hread).2 e he
    have hmax : (flowAttributes e.sizeByte logging).maxBytes = e.sizeByte := Nat.mod_eq_of_lt (by omega)
    exact honoursSize_of_pos (by omega) hmax (by decide : (100000 : Nat) < 2 ^ 32 - 1)

/-- The scheduler at the first start of a schedule. -/
def firstStart (schedule : List TcpFlowScheduleEntry) : Sim Int TcpFlowScheduler where
  now := 5
  agenda := []
  state := { simulationEndTimeNs := 1000000000, enableLoggingForTcpFlowIds := [], schedule, apps := []
             sinks := [0, 1], started := [] }

theorem startNextFlow_honoursSize_iff_bothWays :
    ∃ w' app, startNextFlow (pair false).topology 0 (firstStart bothWays) = .ok w' ∧ w'.state.apps = [app] ∧
      HonoursSize app.attributes 1000000000 ⟨0, 0, 1, 100, 5, [], []⟩ := by
  have hread : readTcpFlowSchedule [] (.lines ["0,0,1,100,5,,".toList, "1,1,0,0,5,,".toList]) (pair false).topology
      1000000000 = .ok bothWays := by decide +kernel
  obtain ⟨w', h⟩ := ok_of_isOk (x := startNextFlow (pair false).topology 0 (firstStart bothWays)) (by decide +kernel)
  obtain ⟨app, happ, -, hiff⟩ :=
    startNextFlow_honoursSize_iff hread (e := ⟨0, 0, 1, 100, 5, [], []⟩) (by decide) rfl h
  exact ⟨w', app, h, happ, hiff.2 (by decide)⟩

/-- A flow of no bytes is read, and the socket of its application is handed five. -/
theorem honoursSize_counterexample :
    readTcpFlowSchedule [] (.lines ["0,0,1,0,5,,".toList]) (pair false).topology 1000000000 =
        .ok [⟨0, 0, 1, 0, 5, [], []⟩] ∧
      ∃ w' app, startNextFlow (pair false).topology 0 (firstStart [⟨0, 0, 1, 0, 5, [], []⟩]) = .ok w' ∧
        w'.state.apps = [app] ∧ ∃ s, Reaches app.attributes Delivered Flow.initial s ∧ s.sock.accepted = 5 := by
  refine ⟨by decide +kernel, ?_⟩
  obtain ⟨w', h⟩ := ok_of_isOk
    (x := startNextFlow (pair false).topology 0 (firstStart [⟨0, 0, 1, 0, 5, [], []⟩])) (by decide +kernel)
  obtain ⟨e, app, he, happ, -, logging, hattr⟩ := startNextFlow_app h
  cases he
  have hreach : ∀ s, forEach (step (flowAttributes 0 logging)) [.start [], .connectionSucceeded [some 5]]
      Flow.initial = .ok s → Reaches (flowAttributes 0 logging) Delivered Flow.initial s :=
    fun s => reaches_of_along _ _ (by cases logging <;> decide +kernel)
  refine ⟨w', app, h, happ, ?_⟩
  rw [hattr]
  cases logging with
  | false => exact ⟨_, hreach _ rfl, rfl⟩
  | true => exact ⟨_, hreach _ rfl, rfl⟩

end SatNet.Apps
