/-
`PtopLinkUtilizationTrackerHelper::WriteResults`: the intervals of every tracker, and the compressed rows in which
consecutive intervals of about the same utilization are one. The utilizations are compared exactly.
-/
import SatNet.Base.Memory
import SatNet.Lib.RunLength
import SatNet.Track.Utilization
import Mathlib.Algebra.BigOperators.Group.List.Basic
import Mathlib.Algebra.Order.AbsoluteValue.Basic
import Mathlib.Algebra.Order.Field.Rat

namespace SatNet.Track

open SatNet.Loop SatNet.RunLength SatNet.Step

namespace PtopLinkUtilizationTrackerHelper

open PtopLinkUtilizationTracker (Interval)

/-! ## One tracker -/

/-- `UTILIZATION_TRACKER_COMPRESSION_APPROXIMATELY_NOT_EQUAL`. -/
def compressionApproximatelyNotEqual : ℚ := 1 / 1000000

def utilization (x : Interval) : ℚ := x.value / (x.right - x.left : Int)

/-- The two utilizations are not approximately equal. -/
def differ (x y : Interval) : Bool := |utilization x - utilization y| ≥ compressionApproximatelyNotEqual

/-- The variables of the loop over the intervals, with the rows it has written to the compressed file. -/
structure Compression where
  intervalLeftSideNs : Int
  utilizationBusySumNs : Int
  runningBusySumNs : Int
  rows : List Interval
  deriving Repr, DecidableEq

/-- One round of the loop over the intervals. -/
def compressInterval (st : Compression) (x : Interval) (rest : List Interval) : Res Compression := do
  let utilizationBusySumNs ← int64 (st.utilizationBusySumNs + x.value)
  let runningBusySumNs ← int64 (st.runningBusySumNs + x.value)
  if closes differ x rest then
    .ok ⟨x.right, utilizationBusySumNs, 0, st.rows ++ [⟨st.intervalLeftSideNs, x.right, runningBusySumNs⟩]⟩
  else .ok { st with utilizationBusySumNs, runningBusySumNs }

def compress (intervals : List Interval) : Res Compression := lookahead compressInterval intervals ⟨0, 0, 0, []⟩

/-! ## The files -/

/-- A line of one of the two CSV files. -/
structure Line where
  fromNodeId : Int
  toNodeId : Int
  interval : Interval
  deriving Repr, DecidableEq

/-- A line of the summary, with the two numbers of which it has the quotient. -/
structure SummaryLine where
  fromNodeId : Int
  toNodeId : Int
  utilizationBusySumNs : Int
  endNs : Int
  deriving Repr, DecidableEq

structure Files where
  csv : List Line
  compressedCsv : List Line
  summary : List SummaryLine
  deriving Repr, DecidableEq

/-- The id of a node as it is printed, an `int`. -/
def line (directedEdge : Int × Int) (x : Interval) : Line := ⟨toInt32 directedEdge.1, toInt32 directedEdge.2, x⟩

/-- What is written for a tracker, of the directed edge and the intervals that finalizing it returned. -/
def writeTracker (files : Files) (tracker : (Int × Int) × List Interval) : Res Files := do
  let st ← compress tracker.2
  let last ← index tracker.2 (toUInt64 ((tracker.2.length : Int) - 1))
  .ok {
    csv := files.csv ++ tracker.2.map (line tracker.1)
    compressedCsv := files.compressedCsv ++ st.rows.map (line tracker.1)
    summary := files.summary ++
      [⟨toInt32 tracker.1.1, toInt32 tracker.1.2, st.utilizationBusySumNs, last.right⟩] }

/-- `ascending_by_directed_link`. -/
def ascendingByDirectedLink (a b : (Int × Int) × List Interval) : Bool :=
  if a.1.1 = b.1.1 then a.1.2 < b.1.2 else a.1.1 < b.1.1

/-- The trackers are of different directed links, so that their order is fixed. -/
def writeResults (trackers : List ((Int × Int) × List Interval)) : Res Files :=
  forEach writeTracker (trackers.insertionSort fun a b => !ascendingByDirectedLink b a) ⟨[], [], []⟩

/-! ## What the compression keeps -/

/-- The intervals of a tracker: they follow one another from 0 on, and none is busy for longer than it lasts. -/
structure Contiguous (l : List Interval) (stop : Int) : Prop where
  nonempty : l ≠ []
  tiles : Tiles l 0 stop
  stop_lt : stop < 2 ^ 63
  busy : ∀ x ∈ l, 0 ≤ x.value ∧ x.value ≤ x.right - x.left

/-- The row goes from the start of the first interval to the end of the last one, and is as busy as all of them. -/
def Merges (row : Interval) (g : List Interval) : Prop :=
  ∃ first last, g.head? = some first ∧ g.getLast? = some last ∧ row.left = first.left ∧ row.right = last.right ∧
    row.value = (g.map (·.value)).sum

/-- Nothing is lost: the rows are contiguous, each merges intervals of its own that together are all of them, a row ends
at the last interval and wherever two utilizations differ, and nowhere else. -/
structure Compressed (l : List Interval) (stop : Int) (rows : List Interval) : Prop where
  tiles : Tiles rows 0 stop
  merges : ∃ gs : List (List Interval), gs.flatten = l ∧ List.Forall₂ Merges rows gs ∧
    (∀ g ∈ gs, g.IsChain fun x y => differ x y = false) ∧
    gs.IsChain fun g h => ∃ x ∈ g.getLast?, ∃ y ∈ h.head?, differ x y = true
  busy : (rows.map (·.value)).sum = (l.map (·.value)).sum

/-- Intervals are busy for no longer than they last together. -/
theorem sum_busy_le : ∀ {l : List Interval} {a b : Int}, Tiles l a b →
    (∀ x ∈ l, 0 ≤ x.value ∧ x.value ≤ x.right - x.left) →
    0 ≤ (l.map (·.value)).sum ∧ (l.map (·.value)).sum ≤ b - a
  | [], a, b, h, _ => by
    have hab : a = b := h
    simp [hab]
  | x :: l, a, b, ⟨hleft, _, ht⟩, hb => by
    obtain ⟨h0, hle⟩ := hb x (List.mem_cons_self ..)
    obtain ⟨hs0, hsle⟩ := sum_busy_le ht fun y hy => hb y (List.mem_cons_of_mem _ hy)
    rw [List.map_cons, List.sum_cons]
    omega

/-- The loop has written a row for each closed run, and has summed up the open one. -/
structure Written (closed : List (List Interval)) (pre : List Interval) (st : Compression) : Prop where
  done : Tiles closed.flatten 0 st.intervalLeftSideNs
  tiles : Tiles st.rows 0 st.intervalLeftSideNs
  merges : List.Forall₂ Merges st.rows closed
  busy : (st.rows.map (·.value)).sum = (closed.flatten.map (·.value)).sum
  running : st.runningBusySumNs = (pre.map (·.value)).sum
  total : st.utilizationBusySumNs = ((closed.flatten ++ pre).map (·.value)).sum

section Written

variable {l pre rest : List Interval} {stop : Int} {closed : List (List Interval)} {x : Interval} {st : Compression}

theorem written_init : Written [] [] ⟨0, 0, 0, []⟩ := ⟨rfl, rfl, .nil, rfl, rfl, rfl⟩

/-- What is left to write goes on where the rows end. -/
theorem Written.left (h : Written closed pre st) (hl : Contiguous l stop)
    (hall : closed.flatten ++ (pre ++ x :: rest) = l) : Tiles (pre ++ x :: rest) st.intervalLeftSideNs stop := by
  have ht := hl.tiles
  rw [← hall, tiles_append] at ht
  obtain ⟨b, h₁, h₂⟩ := ht
  rwa [h.done.unique h₁]

/-- One round: no sum overflows, and the interval is merged into the open run. -/
theorem Written.round (h : Written closed pre st) (hl : Contiguous l stop)
    (hall : closed.flatten ++ (pre ++ x :: rest) = l) :
    ∃ st', compressInterval st x rest = .ok st' ∧
      if closes differ x rest then Written (closed ++ [pre ++ [x]]) [] st' else Written closed (pre ++ [x]) st' := by
  have hleft := h.left hl hall
  have hbusy : ∀ y ∈ pre ++ [x], 0 ≤ y.value ∧ y.value ≤ y.right - y.left := fun y hy =>
    hl.busy y (by rw [← hall]; simp only [List.mem_append, List.mem_cons] at hy ⊢; tauto)
  have hsplit : pre ++ x :: rest = (pre ++ [x]) ++ rest := by simp
  rw [hsplit] at hleft
  obtain ⟨m, hrun, hrest⟩ := tiles_append.1 hleft
  obtain ⟨hpre, hlt, hm⟩ := tiles_concat.1 hrun
  obtain ⟨hr0, hrle⟩ := sum_busy_le hrun hbusy
  obtain ⟨hd0, hdle⟩ := sum_busy_le h.done fun y hy => hl.busy y (by rw [← hall]; exact List.mem_append_left _ hy)
  have hstop := hrest.le
  have hlim := hl.stop_lt
  have hrunning : st.runningBusySumNs + x.value = ((pre ++ [x]).map (·.value)).sum := by
    rw [h.running, List.map_append, List.sum_append, List.map_singleton, List.sum_singleton]
  have htotal : st.utilizationBusySumNs + x.value =
      (closed.flatten.map (·.value)).sum + ((pre ++ [x]).map (·.value)).sum := by
    rw [h.total, List.map_append, List.sum_append, List.map_append, List.sum_append, List.map_singleton,
      List.sum_singleton, add_assoc]
  unfold compressInterval
  rw [htotal, hrunning, int64_eq (by omega) (by omega), ok_bind, int64_eq (by omega) (by omega), ok_bind]
  by_cases hc : closes differ x rest = true
  · rw [if_pos hc]
    refine ⟨_, rfl, ?_⟩
    rw [if_pos hc]
    refine ⟨?_, ?_, ?_, ?_, rfl, ?_⟩
    · rw [List.flatten_append, List.flatten_singleton, tiles_append]
      exact ⟨_, h.done, hm ▸ hrun⟩
    · exact tiles_concat.2 ⟨h.tiles, lt_of_le_of_lt hpre.le hlt, rfl⟩
    · refine List.rel_append h.merges (.cons ?_ .nil)
      refine ⟨(pre ++ [x]).head (by simp), x, List.head?_eq_some_head _, List.getLast?_concat, ?_, rfl, rfl⟩
      cases pre with
      | nil => exact hpre
      | cons y pre => exact hpre.1.symm
    · simp [h.busy]
    · simp
  · rw [if_neg hc]
    refine ⟨_, rfl, ?_⟩
    rw [if_neg hc]
    refine ⟨h.done, h.tiles, h.merges, h.busy, rfl, ?_⟩
    simp

end Written

/-- Compressing the intervals of a tracker loses nothing, and leaves the sum of all of them for the summary. -/
theorem compress_compressed {l : List Interval} {stop : Int} (hl : Contiguous l stop) :
    ∃ st, compress l = .ok st ∧ Compressed l stop st.rows ∧ st.utilizationBusySumNs = (l.map (·.value)).sum := by
  obtain ⟨st, hrun, hw⟩ := lookahead_runs differ compressInterval Written l
    (fun closed pre x rest s hall h => h.round hl hall) written_init
  obtain ⟨hflat, hne, hinside, hbetween⟩ := runs_eq_iff.1 (rfl : runs differ l = runs differ l)
  have hstop : st.intervalLeftSideNs = stop := hw.done.unique (hflat ▸ hl.tiles)
  refine ⟨st, hrun, ⟨hstop ▸ hw.tiles, ⟨runs differ l, hflat.symm, hw.merges, hinside, hbetween.imp ?_⟩, ?_⟩, ?_⟩
  · rintro g h ⟨hg, hh, hcut⟩
    exact ⟨_, List.getLast?_eq_getLast_of_ne_nil hg, _, List.head?_eq_some_head hh, hcut⟩
  · rw [hw.busy, ← hflat]
  · rw [hw.total, List.append_nil, ← hflat]

/-- There are no more intervals than nanoseconds. -/
theorem length_le : ∀ {l : List Interval} {a b : Int}, Tiles l a b → (l.length : Int) ≤ b - a
  | [], a, b, h => by
    have hab : a = b := h
    simp [hab]
  | x :: l, a, b, ⟨hleft, hlt, ht⟩ => by
    have := length_le ht
    rw [List.length_cons]
    omega

/-- The last interval ends where they all do. -/
theorem Contiguous.last {l : List Interval} {stop : Int} (hl : Contiguous l stop) :
    ∃ last, l[l.length - 1]? = some last ∧ last.right = stop := by
  refine ⟨l.getLast hl.nonempty, ?_, ?_⟩
  · rw [← List.getLast?_eq_getElem?, List.getLast?_eq_getLast_of_ne_nil]
  · have ht := hl.tiles
    rw [← List.dropLast_append_getLast hl.nonempty] at ht
    exact (tiles_concat.1 ht).2.2

/-- For every tracker: the rows that are written to the compressed file lose nothing of its intervals, and their busy
times add up to the numerator of the line of the summary. -/
theorem writeTracker_compressed {l : List Interval} {stop : Int} (hl : Contiguous l stop)
    (directedEdge : Int × Int) (files : Files) :
    ∃ rows summary, writeTracker files (directedEdge, l) = .ok
        ⟨files.csv ++ l.map (line directedEdge), files.compressedCsv ++ rows.map (line directedEdge),
          files.summary ++ [summary]⟩ ∧
      Compressed l stop rows ∧ summary.utilizationBusySumNs = (rows.map (·.value)).sum ∧ summary.endNs = stop := by
  obtain ⟨st, hrun, hc, hsum⟩ := compress_compressed hl
  obtain ⟨last, hlast, hright⟩ := hl.last
  have hpos := List.length_pos_iff.2 hl.nonempty
  have hlen := length_le hl.tiles
  have hlt := hl.stop_lt
  have hidx : toUInt64 ((l.length : Int) - 1) = l.length - 1 := by
    unfold toUInt64
    omega
  refine ⟨st.rows, ⟨toInt32 directedEdge.1, toInt32 directedEdge.2, st.utilizationBusySumNs, last.right⟩, ?_, hc, ?_,
    hright⟩
  · unfold writeTracker
    simp only
    rw [hrun, ok_bind, hidx, index_ok.2 hlast, ok_bind]
  · rw [hc.busy]
    exact hsum

/-- Compressed lines and a line of the summary for a tracker: the rows of the former lose nothing of its intervals, and
the numerator of the latter is the sum of their busy times. -/
structure WrittenFor (tracker : (Int × Int) × List Interval) (w : List Line × SummaryLine) : Prop where
  compressed : ∃ rows stop, w.1 = rows.map (line tracker.1) ∧ Compressed tracker.2 stop rows ∧
    w.2.utilizationBusySumNs = (rows.map (·.value)).sum ∧ w.2.endNs = stop
  busy : w.2.utilizationBusySumNs = (tracker.2.map (·.value)).sum

theorem writeTracker_writtenFor {tracker : (Int × Int) × List Interval} {stop : Int} (h : Contiguous tracker.2 stop)
    (files : Files) : ∃ w, WrittenFor tracker w ∧ writeTracker files tracker = .ok
      ⟨files.csv ++ tracker.2.map (line tracker.1), files.compressedCsv ++ w.1, files.summary ++ [w.2]⟩ := by
  obtain ⟨rows, summary, hrun, hc, hsum, hend⟩ := writeTracker_compressed h tracker.1 files
  exact ⟨(rows.map (line tracker.1), summary), ⟨⟨rows, stop, rfl, hc, hsum, hend⟩, hsum.trans hc.busy⟩, hrun⟩

/-- The trackers one after the other. -/
theorem forEach_writeTracker : ∀ (trackers : List ((Int × Int) × List Interval)) (files : Files),
    (∀ t ∈ trackers, ∃ stop, Contiguous t.2 stop) → ∃ ws, List.Forall₂ WrittenFor trackers ws ∧
      forEach writeTracker trackers files = .ok ⟨files.csv ++ trackers.flatMap fun t => t.2.map (line t.1),
        files.compressedCsv ++ ws.flatMap (·.1), files.summary ++ ws.map (·.2)⟩
  | [], files, _ => ⟨[], .nil, by simp [forEach]⟩
  | t :: trackers, files, h => by
    obtain ⟨stop, ht⟩ := h t (List.mem_cons_self ..)
    obtain ⟨w, hw, hrun⟩ := writeTracker_writtenFor ht files
    obtain ⟨ws, hws, hrest⟩ := forEach_writeTracker trackers _ fun u hu => h u (List.mem_cons_of_mem _ hu)
    refine ⟨w :: ws, .cons hw hws, ?_⟩
    unfold forEach
    rw [hrun, ok_bind, hrest]
    simp

/-- For all trackers that returned intervals: nothing overflows, and what is written for each of them, in the order of
the directed links, loses nothing. -/
theorem writeResults_compressed {trackers : List ((Int × Int) × List Interval)}
    (h : ∀ t ∈ trackers, ∃ stop, Contiguous t.2 stop) :
    ∃ sorted ws, sorted.Perm trackers ∧ List.Forall₂ WrittenFor sorted ws ∧ writeResults trackers = .ok
      ⟨sorted.flatMap fun t => t.2.map (line t.1), ws.flatMap (·.1), ws.map (·.2)⟩ := by
  have hperm := List.perm_insertionSort (fun a b => (!ascendingByDirectedLink b a) = true) trackers
  obtain ⟨ws, hws, hrun⟩ := forEach_writeTracker _ ⟨[], [], []⟩ fun t ht => h t (hperm.mem_iff.1 ht)
  exact ⟨_, ws, hperm, hws, by unfold writeResults; rw [hrun]; rfl⟩

/-- What finalizing a tracker returns after time 0 is contiguous. -/
theorem contiguous_of_utilization {g : Int → Bool} {intervalNs now : Int} {rows : List Interval}
    (h : PtopLinkUtilizationTracker.Utilization g intervalNs now rows) (hpos : 0 < now) (hlt : now < 2 ^ 63) :
    Contiguous rows now := by
  refine ⟨?_, h.tiles, hlt, fun x hx => ?_⟩
  · rintro rfl
    exact hpos.ne h.tiles
  · rw [h.busy x hx]
    exact Count.count_bounds (h.tiles.left_lt x hx).le

/-- Two links, the second one busy in the first interval and a part of the last one, which is shorter. -/
theorem writeResults_compressed_twoLinks : ∃ c c', PtopLinkUtilizationTracker.callbacks 10
      [(0, true), (10, false), (23, true)] (Counter.init 10) = .ok c ∧
    PtopLinkUtilizationTracker.finalizeUtilization 10 25 c = .ok c' ∧
    ∃ sorted ws, sorted.Perm [((1, 0), c'.rows), ((0, 1), [⟨0, 10, 0⟩, ⟨10, 20, 0⟩, ⟨20, 25, 5⟩])] ∧
      List.Forall₂ WrittenFor sorted ws ∧
      writeResults [((1, 0), c'.rows), ((0, 1), [⟨0, 10, 0⟩, ⟨10, 20, 0⟩, ⟨20, 25, 5⟩])] = .ok
        ⟨sorted.flatMap fun t => t.2.map (line t.1), ws.flatMap (·.1), ws.map (·.2)⟩ := by
  obtain ⟨c, c', hrun, hfin, hu⟩ : PtopLinkUtilizationTracker.Exact 10 25 [(0, true), (10, false), (23, true)] :=
    PtopLinkUtilizationTracker.exact_of_fits (by decide) (by decide) ⟨rfl, rfl, rfl, trivial⟩ (by decide) (by decide)
      (by decide) (by decide)
  refine ⟨c, c', hrun, hfin, writeResults_compressed ?_⟩
  intro t ht
  simp only [List.mem_cons, List.not_mem_nil, or_false] at ht
  rcases ht with rfl | rfl
  · exact ⟨25, contiguous_of_utilization hu (by decide) (by decide)⟩
  · exact ⟨25, by decide, by simp [Tiles], by decide, by decide⟩

end PtopLinkUtilizationTrackerHelper

end SatNet.Track
