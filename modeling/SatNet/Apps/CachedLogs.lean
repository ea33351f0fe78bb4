/-
The detailed logs of `TcpFlowSendApplication`: `CachedLogStream` keeps the stream of every log file open for the life of
the process, where the code before it opened the file anew for each row. The two leave the same files as long as no row
goes to a stream whose file is no longer the one at its path.
-/
import SatNet.Base.Fail
import SatNet.Lib.FileSystem
import SatNet.Lib.Lockstep

namespace SatNet.Apps

open SatNet.FileSystem

/-! ## The files -/

/-- The directory of a path: what stands before its last `/`. -/
def dirOf (path : Str) : Str := ((path.reverse.dropWhile (· ≠ '/')).drop 1).reverse

abbrev LogFiles := Files Str Str Char

/-- The fields of an application that its detailed logs use. -/
structure DetailedLogs where
  baseLogsDir : Str
  tcpFlowId : UInt64
  currentCwndByte : UInt32
  currentRttNs : Int

namespace DetailedLogs

def progressPath (a : DetailedLogs) : Str := a.baseLogsDir ++ "/".toList ++ s!"tcp_flow_{a.tcpFlowId}_progress.csv".toList

def cwndPath (a : DetailedLogs) : Str := a.baseLogsDir ++ "/".toList ++ s!"tcp_flow_{a.tcpFlowId}_cwnd.csv".toList

def rttPath (a : DetailedLogs) : Str := a.baseLogsDir ++ "/".toList ++ s!"tcp_flow_{a.tcpFlowId}_rtt.csv".toList

/-- A row of a log with its `std::endl`, which also flushes it. -/
def row (a : DetailedLogs) (timestamp value : Int) : Str :=
  s!"{a.tcpFlowId},{timestamp},{value}".toList ++ "\n".toList

theorem row_ne_nil (a : DetailedLogs) (timestamp value : Int) : a.row timestamp value ≠ [] := by
  apply List.append_ne_nil_of_right_ne_nil
  decide

end DetailedLogs

/-! ## The two versions -/

/-- A way to write the rows: the state of the process, how a row gets to the file of a path, and how all else that
happens to files does. -/
structure LogWriter (σ : Type) where
  write : Str → Str → σ → σ
  onFiles : (LogFiles → LogFiles) → σ → σ

/-- The files, and the streams that the process keeps. -/
structure Process where
  files : LogFiles
  streams : List (Str × Stream)

/-- `CachedLogStream`, whose map lives as long as the process. -/
def cachedLogStream (path : Str) (s : Process) : Stream × Process :=
  match s.streams.lookup path with
  | some stream => (stream, s)
  | none =>
    let (stream, files) := s.files.openAppend dirOf path
    (stream, ⟨files, (path, stream) :: s.streams⟩)

def cached : LogWriter Process where
  write path text s :=
    let (stream, s) := cachedLogStream path s
    { s with files := s.files.write stream text }
  onFiles f s := { s with files := f s.files }

/-- The version before: the path is opened in append mode, the row is written and the stream closed. -/
def reopened : LogWriter LogFiles where
  write path text files := files.writeAppend dirOf path text
  onFiles f files := f files

namespace DetailedLogs

variable {σ : Type} (a : DetailedLogs) (w : LogWriter σ)

/-- The detailed logging of `StartApplication`: streams of its own, which truncate the files. -/
def startApplication (now ackedBytes : Int) : σ → σ :=
  w.onFiles fun files =>
    let files := files.writeNew dirOf a.progressPath (a.row now ackedBytes)
    let files := files.writeNew dirOf a.cwndPath []
    files.writeNew dirOf a.rttPath []

def insertCwndLog (timestamp : Int) (cwndByte : UInt32) (s : σ) : DetailedLogs × σ :=
  ({ a with currentCwndByte := cwndByte }, w.write a.cwndPath (a.row timestamp cwndByte.toNat) s)

def insertRttLog (timestamp rttNs : Int) (s : σ) : DetailedLogs × σ :=
  ({ a with currentRttNs := rttNs }, w.write a.rttPath (a.row timestamp rttNs) s)

def insertProgressLog (timestamp progressByte : Int) (s : σ) : σ :=
  w.write a.progressPath (a.row timestamp progressByte) s

end DetailedLogs

/-- What happens to the files in a process: applications start and insert rows, those of `FinalizeDetailedLogs` among
them, in any number of simulations, and files and directories are removed and made again. -/
inductive LogEvent where
  | startApplication (a : DetailedLogs) (now ackedBytes : Int)
  | insertCwndLog (a : DetailedLogs) (timestamp : Int) (cwndByte : UInt32)
  | insertRttLog (a : DetailedLogs) (timestamp rttNs : Int)
  | insertProgressLog (a : DetailedLogs) (timestamp progressByte : Int)
  | removeFile (path : Str)
  | removeDir (dir : Str)
  | makeDir (dir : Str)

def logStep {σ : Type} (w : LogWriter σ) : LogEvent → σ → σ
  | .startApplication a now ackedBytes => a.startApplication w now ackedBytes
  | .insertCwndLog a timestamp cwndByte => fun s => (a.insertCwndLog w timestamp cwndByte s).2
  | .insertRttLog a timestamp rttNs => fun s => (a.insertRttLog w timestamp rttNs s).2
  | .insertProgressLog a timestamp progressByte => a.insertProgressLog w timestamp progressByte
  | .removeFile path => w.onFiles fun files => files.remove path
  | .removeDir dir => w.onFiles fun files => files.removeDir dirOf dir
  | .makeDir dir => w.onFiles fun files => files.makeDir dir

/-- The state of a process that starts on these files. -/
def Process.start (files : LogFiles) : Process := ⟨files, []⟩

/-! ## The rows -/

/-- The path and the text of the row that an event writes. -/
def LogEvent.row : LogEvent → Option (Str × Str)
  | .insertCwndLog a timestamp cwndByte => some (a.cwndPath, a.row timestamp cwndByte.toNat)
  | .insertRttLog a timestamp rttNs => some (a.rttPath, a.row timestamp rttNs)
  | .insertProgressLog a timestamp progressByte => some (a.progressPath, a.row timestamp progressByte)
  | _ => none

variable {e : LogEvent} {path text : Str} {s : Process} {files : LogFiles}

theorem LogEvent.row_text_ne_nil (h : e.row = some (path, text)) : text ≠ [] := by
  cases e <;> cases h <;> exact DetailedLogs.row_ne_nil _ _ _

/-- An insert does no more than write its row. -/
theorem logStep_row {σ : Type} (w : LogWriter σ) (h : e.row = some (path, text)) (s : σ) :
    logStep w e s = w.write path text s := by
  cases e <;> cases h <;> rfl

/-- The stream that the process keeps for the path of the row, if it keeps one, does what opening the path now would. -/
def RowFollows (e : LogEvent) (s : Process) : Prop :=
  ∀ path text, e.row = some (path, text) → ∀ stream, s.streams.lookup path = some stream →
    Files.Follows dirOf s.files path stream

theorem cached_write_of_none (h : s.streams.lookup path = none) (text : Str) :
    (cached.write path text s).files = s.files.writeAppend dirOf path text := by
  simp only [cached, cachedLogStream, h]
  rfl

theorem cached_write_of_some {stream : Stream} (h : s.streams.lookup path = some stream) (text : Str) :
    (cached.write path text s).files = s.files.write stream text := by
  simp only [cached, cachedLogStream, h]

/-! ## One event -/

theorem logStep_agree (h : s.files.Agree files) (hrow : RowFollows e s) :
    (logStep cached e s).files.Agree (logStep reopened e files) := by
  cases he : e.row with
  | some r =>
    obtain ⟨path, text⟩ := r
    rw [logStep_row _ he, logStep_row _ he]
    cases hstream : s.streams.lookup path with
    | none =>
      rw [cached_write_of_none hstream]
      exact h.writeAppend path text
    | some stream =>
      rw [cached_write_of_some hstream]
      exact (hrow path text he stream hstream).agree h text
  | none =>
    cases e with
    | startApplication a now ackedBytes =>
      apply Files.Agree.writeNew
      apply Files.Agree.writeNew
      exact h.writeNew _ _
    | removeFile path => exact h.remove path
    | removeDir dir => exact h.removeDir dir
    | makeDir dir => exact h.makeDir dir
    | insertCwndLog => cases he
    | insertRttLog => cases he
    | insertProgressLog => cases he

/-- A row that goes elsewhere shows at once. -/
theorem logStep_differs (h : s.files.Agree files) (hrow : ¬ RowFollows e s) :
    ¬ ∀ path, (logStep cached e s).files.found path = (logStep reopened e files).found path := by
  unfold RowFollows at hrow
  simp only [not_forall] at hrow
  obtain ⟨path, text, he, stream, hstream, hno⟩ := hrow
  obtain ⟨q, hq⟩ := Files.not_follows hno h (LogEvent.row_text_ne_nil he)
  rw [logStep_row _ he, logStep_row _ he]
  intro hall
  apply hq
  rw [← cached_write_of_some hstream]
  exact hall q

/-! ## Every run -/

/-- Whatever happens in a process, the files that the cached streams leave are, at every path and after every event,
those that opening the path for every row leaves, exactly if no row goes to a stream that no longer follows its path. -/
theorem cachedLogs_iff (files : LogFiles) (events : List LogEvent) :
    (∀ done, done <+: events → ∀ path, (Lockstep.run (logStep cached) done (Process.start files)).files.found path =
        (Lockstep.run (logStep reopened) done files).found path) ↔
      Lockstep.Throughout RowFollows (logStep cached) events (Process.start files) := by
  apply Lockstep.run_iff (fun (s : Process) files => s.files.Agree files) fun s files => ∀ path,
    s.files.found path = files.found path
  · exact fun s files h => h.found
  · exact fun e s files => logStep_agree
  · exact fun e s files => logStep_differs
  · exact Files.Agree.refl files

def flowZero : DetailedLogs := ⟨"run/logs_ns3".toList, 0, 0, 0⟩

/-- Two simulations in one process, the second after the logs of the first were removed. -/
def twoSimulations : List LogEvent :=
  [.makeDir "run/logs_ns3".toList, .startApplication flowZero 0 0, .insertCwndLog flowZero 5 1380,
   .removeFile flowZero.progressPath, .removeFile flowZero.cwndPath, .removeFile flowZero.rttPath,
   .removeDir "run/logs_ns3".toList,
   .makeDir "run/logs_ns3".toList, .startApplication flowZero 0 0, .insertCwndLog flowZero 5 1380]

/-- The row of the second simulation is missing. -/
theorem cachedLogs_counterexample :
    ¬ ∀ (files : LogFiles) (events : List LogEvent) (path : Str),
      (Lockstep.run (logStep cached) events (Process.start files)).files.found path =
        (Lockstep.run (logStep reopened) events files).found path := by
  intro h
  have hrow := h ⟨fun _ => false, fun _ => none, fun _ => [], 0⟩ twoSimulations flowZero.cwndPath
  have hcached : (Lockstep.run (logStep cached) twoSimulations
      (Process.start ⟨fun _ => false, fun _ => none, fun _ => [], 0⟩)).files.found flowZero.cwndPath = some [] := by
    decide +kernel
  have hreopened : (Lockstep.run (logStep reopened) twoSimulations
      ⟨fun _ => false, fun _ => none, fun _ => [], 0⟩).found flowZero.cwndPath = some "0,5,1380\n".toList := by
    decide +kernel
  rw [hcached, hreopened] at hrow
  cases hrow

end SatNet.Apps
