/-
The pings that `plot_ping.py` counts as out of order: a pass from the last ping to the first one finds them with the
lowest time of a reply so far, and a pass forward counts them by the intervals that they were sent in.
-/
import SatNet.Apps.RateIntervals

namespace SatNet.Apps.Plotting

open SatNet.Loop SatNet.Buckets

/-- An entry of `ping_results`. -/
structure PingResult where
  sendRequestTimestamp : Int
  receiveReplyTimestamp : Int
  isLost : Bool
  deriving Repr, DecidableEq

/-- What `current_lowest_timestamp` starts with. -/
def initialLowestTimestamp : Int := 1000000000000000

/-- The pass over the pings from the last one on: `is_out_of_order`, and `current_lowest_timestamp` behind it. -/
def backwardPass : List PingResult → List Bool × Int
  | [] => ([], initialLowestTimestamp)
  | entry :: rest =>
    let (isOutOfOrder, currentLowestTimestamp) := backwardPass rest
    -- (a) It is marked as lost
    if entry.isLost then (true :: isOutOfOrder, currentLowestTimestamp)
    -- (b) Its reply arrives after that of the reply of one of the next pings
    else (decide (entry.receiveReplyTimestamp > currentLowestTimestamp) :: isOutOfOrder,
      min currentLowestTimestamp entry.receiveReplyTimestamp)

/-- One round of the pass forward. -/
def countRound (intervalNs : Int) (b : State Int) (entry : PingResult × Bool) : Plot (State Int) := do
  let b ← fastForward .diverges intervalNs entry.1.sendRequestTimestamp b
  .ok (if entry.2 then add 1 b else b)

/-- `plot_ping` from the ping results on: what is out of order, and the intervals that are written. -/
def plotPing (intervalNs : Int) (pingResults : List PingResult) : Plot (List Bool × List (IntervalSum Int)) := do
  let (isOutOfOrder, _) := backwardPass pingResults
  let b ← forEach (countRound intervalNs) (pingResults.zip isOutOfOrder) (first intervalNs)
  .ok (isOutOfOrder, b.intervals ++ [b.current])

/-! ## The pass backward -/

theorem backwardPass_length : ∀ pings : List PingResult, (backwardPass pings).1.length = pings.length
  | [] => rfl
  | entry :: rest => by
    unfold backwardPass
    simp only
    split <;> simp [backwardPass_length rest]

/-- The lowest timestamp is that of a ping that arrived, or the initial one. -/
theorem backwardPass_lt_iff {x : Int} : ∀ {pings : List PingResult}, (backwardPass pings).2 < x ↔
    initialLowestTimestamp < x ∨ ∃ p ∈ pings, p.isLost = false ∧ p.receiveReplyTimestamp < x
  | [] => by simp [backwardPass]
  | entry :: rest => by
    have ih := @backwardPass_lt_iff x rest
    unfold backwardPass
    simp only
    by_cases hlost : entry.isLost = true
    · rw [if_pos hlost, ih]
      simp [hlost]
    · rw [if_neg hlost, min_lt_iff, ih]
      simp only [Bool.not_eq_true] at hlost
      simp only [List.mem_cons, exists_eq_or_imp, hlost, true_and]
      exact or_assoc.trans (or_congr_right or_comm)

theorem backwardPass_marks : ∀ {pings : List PingResult} {i : Nat}, (backwardPass pings).1[i]? = some true ↔
    ∃ e, pings[i]? = some e ∧ (e.isLost = true ∨ initialLowestTimestamp < e.receiveReplyTimestamp ∨
      ∃ p ∈ pings.drop (i + 1), p.isLost = false ∧ p.receiveReplyTimestamp < e.receiveReplyTimestamp)
  | [], i => by simp [backwardPass]
  | entry :: rest, 0 => by
    unfold backwardPass
    simp only
    by_cases hlost : entry.isLost = true
    · rw [if_pos hlost]
      simp [hlost]
    · rw [if_neg hlost]
      simp only [List.getElem?_cons_zero, Option.some.injEq, decide_eq_true_eq, gt_iff_lt, backwardPass_lt_iff,
        exists_eq_left', hlost, false_or, List.drop_succ_cons, List.drop_zero, Bool.false_eq_true]
  | entry :: rest, i + 1 => by
    have ih := @backwardPass_marks rest i
    unfold backwardPass
    simp only
    split <;> simpa using ih

/-- Lost, or behind the reply of a later ping. -/
def OutOfOrder (pings : List PingResult) (i : Nat) : Prop :=
  ∃ e, pings[i]? = some e ∧ (e.isLost = true ∨
    ∃ p ∈ pings.drop (i + 1), p.isLost = false ∧ p.receiveReplyTimestamp < e.receiveReplyTimestamp)

/-- The last ping that is not lost. -/
def lastArrived (pings : List PingResult) : Option PingResult := pings.reverse.find? fun p => !p.isLost

theorem lastArrived_split {pings : List PingResult} {p : PingResult} (h : lastArrived pings = some p) :
    ∃ before after, pings = before ++ p :: after ∧ p.isLost = false ∧ ∀ q ∈ after, q.isLost = true := by
  obtain ⟨hp, after, before, hsplit, hafter⟩ := List.find?_eq_some_iff_append.1 h
  refine ⟨before.reverse, after.reverse, ?_, by simpa using hp, fun q hq => by simpa using hafter q (List.mem_reverse.1 hq)⟩
  rw [← List.reverse_reverse pings, hsplit, List.reverse_append, List.reverse_cons, List.append_assoc,
    List.singleton_append]

theorem lastArrived_isSome {pings : List PingResult} {e : PingResult} (he : e ∈ pings) (hlost : e.isLost = false) :
    ∃ p, lastArrived pings = some p := by
  unfold lastArrived
  cases h : pings.reverse.find? fun p => !p.isLost with
  | none =>
    have hnone := List.find?_eq_none.1 h e (List.mem_reverse.2 he)
    simp [hlost] at hnone
  | some p => exact ⟨p, rfl⟩

/-- The initial timestamp makes no difference exactly if the last ping that arrives does so by then. -/
theorem marks_iff {pings : List PingResult} : (∀ i, (backwardPass pings).1[i]? = some true ↔ OutOfOrder pings i) ↔
    ∀ p, lastArrived pings = some p → p.receiveReplyTimestamp ≤ initialLowestTimestamp := by
  constructor
  · intro h p hp
    obtain ⟨before, after, rfl, hlost, hafter⟩ := lastArrived_split hp
    by_contra hlate
    -- that ping is marked, but those behind it are all lost
    have hget : (before ++ p :: after)[before.length]? = some p := by simp
    obtain ⟨e, he, hmark⟩ := (h before.length).1 (backwardPass_marks.2 ⟨p, hget, .inr (.inl (by omega))⟩)
    cases hget.symm.trans he
    have hdrop : (before ++ p :: after).drop (before.length + 1) = after := by
      rw [← List.drop_drop, List.drop_left]
      rfl
    rcases hmark with hmark | ⟨q, hq, hql, -⟩
    · rw [hlost] at hmark
      cases hmark
    · rw [hdrop] at hq
      rw [hafter q hq] at hql
      cases hql
  · intro h i
    rw [backwardPass_marks]
    refine ⟨?_, fun ⟨e, he, hmark⟩ => ⟨e, he, hmark.imp_right .inr⟩⟩
    rintro ⟨e, he, hmark⟩
    refine ⟨e, he, ?_⟩
    by_cases hlost : e.isLost = true
    · exact .inl hlost
    · rw [Bool.not_eq_true] at hlost
      rcases hmark with hmark | hlate | hlater
      · exact .inl hmark
      · -- the last ping that arrives comes later, and earlier than the initial timestamp
        obtain ⟨p, hp⟩ := lastArrived_isSome (List.mem_of_getElem? he) hlost
        have hle := h p hp
        obtain ⟨before, after, rfl, hpl, hafter⟩ := lastArrived_split hp
        refine .inr ⟨p, ?_, hpl, by omega⟩
        -- a ping behind the last one that arrives is lost
        rcases Nat.lt_trichotomy i before.length with hi | hi | hi
        · rw [List.drop_append_of_le_length hi]
          exact List.mem_append_right _ (List.mem_cons_self ..)
        · subst hi
          rw [List.getElem?_append_right le_rfl, Nat.sub_self, List.getElem?_cons_zero] at he
          cases he
          omega
        · obtain ⟨k, rfl⟩ := Nat.exists_eq_add_of_lt hi
          rw [Nat.add_assoc, List.getElem?_append_right (Nat.le_add_right ..), Nat.add_sub_cancel_left,
            List.getElem?_cons_succ] at he
          rw [hafter e (List.mem_of_getElem? he)] at hlost
          cases hlost
      · exact .inr hlater

/-! ## The pass forward -/

/-- When each ping was sent, with 1 if it is counted. -/
def counted (pings : List PingResult) (isOutOfOrder : List Bool) : List (Int × Int) :=
  (pings.zip isOutOfOrder).map fun entry => (entry.1.sendRequestTimestamp, if entry.2 then 1 else 0)

theorem countRound_eq (intervalNs : Int) (b : State Int) (entry : PingResult × Bool) : countRound intervalNs b entry =
    place .diverges intervalNs b (entry.1.sendRequestTimestamp, if entry.2 then 1 else 0) := by
  unfold countRound place
  cases entry.2 with
  | true => rfl
  | false => simp [add]

theorem forEach_countRound (intervalNs : Int) : ∀ (entries : List (PingResult × Bool)) (b : State Int),
    forEach (countRound intervalNs) entries b = forEach (place .diverges intervalNs)
      (entries.map fun entry => (entry.1.sendRequestTimestamp, if entry.2 then 1 else 0)) b
  | [], _ => rfl
  | entry :: entries, b => by
    rw [List.map_cons, forEach, forEach, countRound_eq]
    exact congrArg _ (funext fun b' => forEach_countRound intervalNs entries b')

theorem counted_map_fst {pings : List PingResult} {marks : List Bool} (h : marks.length = pings.length) :
    (counted pings marks).map Prod.fst = pings.map PingResult.sendRequestTimestamp := by
  have hfst : (pings.zip marks).map Prod.fst = pings := List.map_fst_zip (by omega)
  conv_rhs => rw [← hfst]
  unfold counted
  rw [List.map_map, List.map_map]
  rfl

theorem counted_sum : ∀ {pings : List PingResult} {marks : List Bool}, marks.length = pings.length →
    ((counted pings marks).map Prod.snd).sum = marks.count true
  | [], [], _ => rfl
  | p :: pings, m :: marks, h => by
    have ih := @counted_sum pings marks (Nat.succ.inj h)
    unfold counted at ih ⊢
    rw [List.zip_cons_cons, List.map_cons, List.map_cons, List.sum_cons, ih, List.count_cons]
    cases m with
    | true => simp [add_comm]
    | false => simp

/-- What the plot is to show: the pings out of order, and of each interval how many of those sent in it are. -/
def Detects (intervalNs : Int) (pings : List PingResult) : Prop :=
  ∃ isOutOfOrder intervals, plotPing intervalNs pings = .ok (isOutOfOrder, intervals) ∧
    isOutOfOrder.length = pings.length ∧ (∀ i, isOutOfOrder[i]? = some true ↔ OutOfOrder pings i) ∧
    Tally (counted pings isOutOfOrder) intervalNs intervals ∧
    (intervals.map IntervalSum.amount).sum = isOutOfOrder.count true

/-- A ping whose reply arrives later than the initial timestamp is out of order for the script, although no other one
was sent. -/
theorem plotPing_counterexample : ¬ ∀ (intervalNs : Int) (pings : List PingResult), 1 ≤ intervalNs →
    (∀ p ∈ pings, 0 ≤ p.sendRequestTimestamp ∧ (p.isLost = false → 0 ≤ p.receiveReplyTimestamp)) →
    (pings.map PingResult.sendRequestTimestamp).Pairwise (· ≤ ·) → Detects intervalNs pings := by
  intro h
  have hrun : plotPing 10000000 [⟨0, 1000000000000001, false⟩] = .ok ([true], [⟨0, 10000000, 1⟩]) := by decide
  obtain ⟨isOutOfOrder, intervals, hplot, -, hmarks, -⟩ :=
    h 10000000 [⟨0, 1000000000000001, false⟩] (by decide) (by decide) (by decide)
  cases hrun.symm.trans hplot
  obtain ⟨e, he, hlost | ⟨p, hp, -⟩⟩ := (hmarks 0).1 rfl
  · cases he
    cases hlost
  · cases hp

/-- If the intervals have no length, the loop never gets behind the first ping. -/
theorem plotPing_diverges {intervalNs : Int} (hlen : intervalNs ≤ 0) {p : PingResult} (hp : 0 ≤ p.sendRequestTimestamp)
    (pings : List PingResult) : plotPing intervalNs (p :: pings) = .error .diverges := by
  have hmarks : (backwardPass (p :: pings)).1 ≠ [] := by
    intro h
    have hlength := backwardPass_length (p :: pings)
    rw [h] at hlength
    cases hlength
  obtain ⟨mark, marks, hcons⟩ := List.exists_cons_of_ne_nil hmarks
  have hforward : fastForward PlotError.diverges intervalNs p.sendRequestTimestamp (first (A := Int) intervalNs) =
      .error .diverges := fastForward_diverges _ hlen (le_trans hlen hp)
  unfold plotPing
  simp only [hcons, List.zip_cons_cons, forEach, countRound, hforward, error_bind]

/-- The plot shows what it is to show exactly if the last ping that arrives does so by the initial timestamp, and the
intervals have a length if there is a ping. -/
theorem plotPing_detects_iff {intervalNs : Int} {pings : List PingResult} (hpos : ∀ p ∈ pings, 0 ≤ p.sendRequestTimestamp)
    (hasc : (pings.map PingResult.sendRequestTimestamp).Pairwise (· ≤ ·)) : Detects intervalNs pings ↔
      (pings = [] ∨ 1 ≤ intervalNs) ∧
        ∀ p, lastArrived pings = some p → p.receiveReplyTimestamp ≤ 1000000000000000 := by
  have hlength := backwardPass_length pings
  constructor
  · rintro ⟨isOutOfOrder, intervals, hplot, -, hmarks, -⟩
    constructor
    · by_contra hno
      rw [not_or] at hno
      obtain ⟨p, rest, rfl⟩ := List.exists_cons_of_ne_nil hno.1
      rw [plotPing_diverges (by omega) (hpos p (List.mem_cons_self ..))] at hplot
      cases hplot
    · obtain ⟨b, -, hplot⟩ := bind_ok (show (forEach (countRound intervalNs) (pings.zip (backwardPass pings).1)
        (first intervalNs) >>= fun b => .ok ((backwardPass pings).1, b.intervals ++ [b.current])) =
          .ok (isOutOfOrder, intervals) from hplot)
      cases hplot
      exact marks_iff.1 hmarks
  · rintro ⟨hlen, hlast⟩
    suffices hrun : ∃ b, forEach (place PlotError.diverges intervalNs) (counted pings (backwardPass pings).1)
        (first intervalNs) = .ok b ∧ Tally (counted pings (backwardPass pings).1) intervalNs (b.intervals ++ [b.current]) by
      obtain ⟨b, hloop, htally⟩ := hrun
      refine ⟨(backwardPass pings).1, _, ?_, hlength, marks_iff.2 hlast, htally, ?_⟩
      · unfold plotPing
        simp only
        rw [forEach_countRound]
        unfold counted at hloop
        rw [hloop, ok_bind]
      · rw [htally.total, counted_sum hlength]
    by_cases hone : 1 ≤ intervalNs
    · refine forEach_place_tally hone ?_ ?_
      · rw [counted_map_fst hlength]
        exact List.forall_mem_map.2 hpos
      · rwa [counted_map_fst hlength]
    · obtain rfl : pings = [] := hlen.resolve_right hone
      exact ⟨first intervalNs, rfl, by simp [first, histogram, bucket, amountIn, counted], nofun, rfl⟩

/-- A lost ping, and one whose reply arrives behind that of the next. -/
theorem plotPing_detects_iff_three : Detects 10 [⟨0, -1, true⟩, ⟨5, 40, false⟩, ⟨12, 30, false⟩] :=
  (plotPing_detects_iff (by decide) (by decide)).2 ⟨.inr (by decide), by
    rintro p ⟨⟩
    decide⟩

end SatNet.Apps.Plotting
