/-
The loops of the plotting scripts that add up data by intervals: `sum_up_into_intervals` of `plot_udp_burst.py` for
entries with their values, and the one of `generate_tcp_flow_rate_csv.py` for the progress of a flow.
-/
import SatNet.Lib.Buckets
import Mathlib.Data.List.Induction

namespace SatNet.Apps.Plotting

open SatNet.Loop SatNet.Buckets

/-- How a script can fail. -/
inductive PlotError where
  | valueError (text : String)
  | indexError
  | diverges
  deriving Repr, DecidableEq

abbrev Plot := Except PlotError

/-! ## Entries -/

/-- The loop over the entries from the one on whose time stands first. -/
def sumUpEntries (intervalNs : Int) : List Int → List Int → State Int → Plot (State Int)
  | [], _, b => .ok b
  | timeNs :: timeNsList, dataList, b => do
    -- Continue to fast-forward intervals until the next entry is in it
    let b ← fastForward .diverges intervalNs timeNs b
    match dataList with
    | [] => .error .indexError
    | data :: dataList => sumUpEntries intervalNs timeNsList dataList (add data b)

def sumUpIntoIntervals (intervalNs : Int) (timeNsList dataList : List Int) : Plot (List (IntervalSum Int)) := do
  let b ← sumUpEntries intervalNs timeNsList dataList (first intervalNs)
  .ok (b.intervals ++ [b.current])

/-! ## Progress -/

/-- A line of the progress file. -/
structure ProgressRow where
  tcpFlowId : Int
  timeNs : Int
  progressByte : Int
  deriving Repr, DecidableEq

/-- One round of the loop, with the last progress. -/
def progressRound (intervalNs : Int) (st : State Int × Int) (row : ProgressRow) : Plot (State Int × Int) := do
  let b ← fastForward .diverges intervalNs row.timeNs st.1
  .ok (add (row.progressByte - st.2) b, row.progressByte)

/-- `generate_tcp_flow_rate_csv` up to the intervals that it writes, each as two points of its rate. -/
def generateTcpFlowRateCsv (tcpFlowId intervalNs : Int) (rows : List ProgressRow) : Plot (List (IntervalSum Int)) := do
  -- TCP Flow ID list must be all exactly tcp_flow_id
  forEach (fun _ row =>
    if row.tcpFlowId ≠ tcpFlowId then
      .error (.valueError "The flow identifier does not match (it must be the same in the entire progress file)")
    else .ok ()) rows ()
  let (b, _) ← forEach (progressRound intervalNs) rows (first intervalNs, 0)
  -- Add the last interval if it is not empty
  .ok (if b.current.amount ≠ 0 then b.intervals ++ [b.current] else b.intervals)

/-! ## The two loops as one -/

theorem sumUpEntries_eq (intervalNs : Int) : ∀ (entries : List (Int × Int)) (b : State Int),
    sumUpEntries intervalNs (entries.map Prod.fst) (entries.map Prod.snd) b =
      forEach (place .diverges intervalNs) entries b
  | [], _ => rfl
  | e :: entries, b => by
    rw [List.map_cons, List.map_cons, sumUpEntries, forEach, place]
    cases fastForward PlotError.diverges intervalNs e.1 b with
    | error err => rfl
    | ok b' => exact sumUpEntries_eq intervalNs entries (add e.2 b')

/-- What each value adds to the one before it. -/
def differences : Int → List Int → List Int
  | _, [] => []
  | last, p :: ps => (p - last) :: differences p ps

theorem differences_sum : ∀ (ps : List Int) (last : Int), (differences last ps).sum = ps.getLast?.getD last - last
  | [], last => by simp [differences]
  | p :: ps, last => by
    rw [differences, List.sum_cons, differences_sum ps p, List.getLast?_cons]
    simp only [Option.getD_some]
    omega

theorem length_differences : ∀ (ps : List Int) (last : Int), (differences last ps).length = ps.length
  | [], _ => rfl
  | p :: ps, _ => congrArg Nat.succ (length_differences ps p)

/-- The rows of a flow with the given times and progress values. -/
def progressRows (tcpFlowId : Int) (entries : List (Int × Int)) : List ProgressRow :=
  entries.map fun e => ⟨tcpFlowId, e.1, e.2⟩

/-- The entries with the differences for values. -/
def deltas (last : Int) (entries : List (Int × Int)) : List (Int × Int) :=
  (entries.map Prod.fst).zip (differences last (entries.map Prod.snd))

theorem deltas_map_fst (last : Int) (entries : List (Int × Int)) :
    (deltas last entries).map Prod.fst = entries.map Prod.fst :=
  List.map_fst_zip (by rw [length_differences, List.length_map, List.length_map])

theorem deltas_map_snd (last : Int) (entries : List (Int × Int)) :
    (deltas last entries).map Prod.snd = differences last (entries.map Prod.snd) :=
  List.map_snd_zip (by rw [length_differences, List.length_map, List.length_map])

/-- The loop over the progress values is the one over their differences. -/
theorem forEach_progressRound (tcpFlowId intervalNs : Int) : ∀ (entries : List (Int × Int)) (b : State Int) (last : Int)
    {b' : State Int}, forEach (place PlotError.diverges intervalNs) (deltas last entries) b = .ok b' →
      forEach (progressRound intervalNs) (progressRows tcpFlowId entries) (b, last) =
        .ok (b', ((entries.map Prod.snd).getLast?).getD last)
  | [], b, last, b', h => by
    cases h
    rfl
  | e :: entries, b, last, b', h => by
    obtain ⟨b₁, hplace, hloop⟩ := bind_ok (show place PlotError.diverges intervalNs b (e.1, e.2 - last) >>=
      forEach (place PlotError.diverges intervalNs) (deltas e.2 entries) = .ok b' from h)
    obtain ⟨b₀, hrun, hadd⟩ := bind_ok hplace
    cases hadd
    have hround : progressRound intervalNs (b, last) ⟨tcpFlowId, e.1, e.2⟩ = .ok (add (e.2 - last) b₀, e.2) := by
      unfold progressRound
      simp only [hrun, ok_bind]
    rw [progressRows, List.map_cons, forEach, hround, ok_bind]
    have ih := forEach_progressRound tcpFlowId intervalNs entries _ e.2 hloop
    rw [List.map_cons, List.getLast?_cons, Option.getD_some]
    exact ih

/-! ## What is summed up -/

/-- The loop over entries in the order of their times ends with their tally. -/
theorem forEach_place_tally {intervalNs : Int} (hlen : 1 ≤ intervalNs) {entries : List (Int × Int)}
    (hpos : ∀ t ∈ entries.map Prod.fst, 0 ≤ t) (hasc : (entries.map Prod.fst).Pairwise (· ≤ ·)) :
    ∃ b, forEach (place PlotError.diverges intervalNs) entries (first intervalNs) = .ok b ∧
      Tally entries intervalNs (b.intervals ++ [b.current]) := by
  obtain ⟨time, b, hloop, hfilled⟩ :=
    (@Filled.first Int _ intervalNs 0 le_rfl).forEach_place PlotError.diverges hlen entries le_rfl
      (List.forall_mem_map.1 hpos) hasc
  exact ⟨b, hloop, hfilled.tally hlen⟩

/-- The intervals without the last one if there is nothing in it. -/
def dropEmptyLast (intervals : List (IntervalSum Int)) : List (IntervalSum Int) :=
  if intervals.getLast?.map IntervalSum.amount = some 0 then intervals.dropLast else intervals

theorem dropEmptyLast_concat (intervals : List (IntervalSum Int)) (last : IntervalSum Int) :
    dropEmptyLast (intervals ++ [last]) = if last.amount ≠ 0 then intervals ++ [last] else intervals := by
  unfold dropEmptyLast
  rw [List.getLast?_concat, List.dropLast_concat]
  by_cases h : last.amount = 0
  · simp [h]
  · simp [h]

theorem dropEmptyLast_sum (intervals : List (IntervalSum Int)) :
    ((dropEmptyLast intervals).map IntervalSum.amount).sum = (intervals.map IntervalSum.amount).sum := by
  induction intervals using List.reverseRecOn with
  | nil => rfl
  | append_singleton intervals last _ =>
    rw [dropEmptyLast_concat]
    by_cases h : last.amount = 0
    · simp [h]
    · simp [h]

/-- `sum_up_into_intervals` makes the tally of its entries. What `generate_tcp_flow_rate_csv` makes of progress values
is the tally of their differences, without its last interval if that is empty, and adds up to the last value. -/
theorem sumUpIntoIntervals_conserves {intervalNs : Int} (hlen : 1 ≤ intervalNs) {entries : List (Int × Int)}
    (hpos : ∀ e ∈ entries, 0 ≤ e.1) (hasc : (entries.map Prod.fst).Pairwise (· ≤ ·)) :
    (∃ intervals, sumUpIntoIntervals intervalNs (entries.map Prod.fst) (entries.map Prod.snd) = .ok intervals ∧
      Tally entries intervalNs intervals) ∧
    ∀ tcpFlowId, ∃ intervals,
      sumUpIntoIntervals intervalNs (entries.map Prod.fst) (differences 0 (entries.map Prod.snd)) = .ok intervals ∧
      generateTcpFlowRateCsv tcpFlowId intervalNs (progressRows tcpFlowId entries) = .ok (dropEmptyLast intervals) ∧
      ((dropEmptyLast intervals).map IntervalSum.amount).sum = ((entries.map Prod.snd).getLast?).getD 0 := by
  have htimes : ∀ t ∈ entries.map Prod.fst, 0 ≤ t := List.forall_mem_map.2 hpos
  constructor
  · obtain ⟨b, hloop, htally⟩ := forEach_place_tally hlen htimes hasc
    refine ⟨_, ?_, htally⟩
    unfold sumUpIntoIntervals
    rw [sumUpEntries_eq, hloop, ok_bind]
  · intro tcpFlowId
    rw [← deltas_map_fst 0] at htimes hasc
    obtain ⟨b, hloop, htally⟩ := forEach_place_tally hlen htimes hasc
    refine ⟨b.intervals ++ [b.current], ?_, ?_, ?_⟩
    · unfold sumUpIntoIntervals
      rw [← deltas_map_fst 0, ← deltas_map_snd, sumUpEntries_eq, hloop, ok_bind]
    · have hcheck : forEach (fun _ row => if row.tcpFlowId ≠ tcpFlowId then
          .error (PlotError.valueError "The flow identifier does not match (it must be the same in the entire progress file)")
          else .ok ()) (progressRows tcpFlowId entries) () = .ok () := by
        refine (forEach_check (p := fun row : ProgressRow => row.tcpFlowId ≠ tcpFlowId) _ _).2 fun row hrow => ?_
        obtain ⟨e, -, rfl⟩ := List.mem_map.1 hrow
        exact not_not.2 rfl
      unfold generateTcpFlowRateCsv
      rw [hcheck, ok_bind, forEach_progressRound tcpFlowId intervalNs entries _ 0 hloop, ok_bind, dropEmptyLast_concat]
    · rw [dropEmptyLast_sum, htally.total, deltas_map_snd, differences_sum, sub_zero]

/-- An entry on the border of an interval, intervals without entries, and a last value that adds nothing. -/
theorem sumUpIntoIntervals_conserves_borders : ∃ intervals,
    sumUpIntoIntervals 10 [0, 10, 35] (differences 0 [5, 7, 7]) = .ok intervals ∧
      generateTcpFlowRateCsv 3 10 [⟨3, 0, 5⟩, ⟨3, 10, 7⟩, ⟨3, 35, 7⟩] = .ok (dropEmptyLast intervals) ∧
      ((dropEmptyLast intervals).map IntervalSum.amount).sum = 7 :=
  (@sumUpIntoIntervals_conserves 10 (by decide) [(0, 5), (10, 7), (35, 7)] (by decide) (by decide)).2 3

end SatNet.Apps.Plotting
