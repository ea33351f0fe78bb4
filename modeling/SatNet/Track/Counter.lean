/-
The busy-time counter that `PtopLinkUtilizationTracker` and `PointToPointLaserNetDevice` both contain:
a call with the next state accounts the time since the last call to the opposite state, closing every
interval that ended meanwhile. As long as the calls tell the truth about that state, the counter never
loses a nanosecond: each closed interval is recorded with exactly its busy time. It counts in `int64_t`, which
overflows if and only if the end of the current interval does.
-/
import SatNet.Base.Memory
import SatNet.Lib.Count
import SatNet.Lib.Step
import Mathlib.Tactic.Linarith
import Mathlib.Tactic.Ring

namespace SatNet.Track

open SatNet.Loop SatNet.Count

/-! ## The counter -/

/-- The counters of the current interval, and what was recorded of the closed ones. -/
structure Counter (R : Type) where
  prevTimeNs : Int
  currentIntervalStart : Int
  currentIntervalEnd : Int
  idleTimeCounterNs : Int
  busyTimeCounterNs : Int
  currentStateIsOn : Bool
  rows : List R
  deriving Repr, DecidableEq

/-- How an interval is recorded, from its start, end and busy time, and what happens if the two
counters do not add up to its length. -/
structure Recorder (R : Type) where
  record : Int → Int → Int → R
  mismatch : Fail

namespace Counter

variable {R : Type} (rec : Recorder R) (intervalNs : Int)

def init : Counter R := ⟨0, 0, intervalNs, 0, 0, false, []⟩

/-- The time until `now` goes to the counter of the state before the call. -/
def account (now : Int) (nextStateIsOn : Bool) (c : Counter R) : Counter R :=
  if nextStateIsOn then { c with idleTimeCounterNs := c.idleTimeCounterNs + (now - c.prevTimeNs) }
  else { c with busyTimeCounterNs := c.busyTimeCounterNs + (now - c.prevTimeNs) }

@[simp] theorem account_rows (c : Counter R) (now : Int) (next : Bool) : (c.account now next).rows = c.rows := by
  cases next <;> rfl

@[simp] theorem account_start (c : Counter R) (now : Int) (next : Bool) :
    (c.account now next).currentIntervalStart = c.currentIntervalStart := by
  cases next <;> rfl

@[simp] theorem account_end (c : Counter R) (now : Int) (next : Bool) :
    (c.account now next).currentIntervalEnd = c.currentIntervalEnd := by
  cases next <;> rfl

/-- What `TrackUtilization` adds in `int64_t` before the loop or after it. -/
def account64 (now : Int) (nextStateIsOn : Bool) (c : Counter R) : Res (Counter R) := do
  let passed ← int64 (now - c.prevTimeNs)
  if nextStateIsOn then do
    let idle ← int64 (c.idleTimeCounterNs + passed)
    .ok { c with idleTimeCounterNs := idle }
  else do
    let busy ← int64 (c.busyTimeCounterNs + passed)
    .ok { c with busyTimeCounterNs := busy }

/-- One round of the loop over the intervals that have ended. -/
def closeInterval64 (nextStateIsOn : Bool) (c : Counter R) : Res (Counter R) := do
  let c ← c.account64 c.currentIntervalEnd nextStateIsOn
  let c := { c with rows := c.rows ++ [rec.record c.currentIntervalStart c.currentIntervalEnd c.busyTimeCounterNs] }
  let total ← int64 (c.idleTimeCounterNs + c.busyTimeCounterNs)
  if total ≠ intervalNs then .error rec.mismatch
  else do
    let start ← int64 (c.currentIntervalStart + intervalNs)
    let stop ← int64 (c.currentIntervalEnd + intervalNs)
    .ok { c with
      idleTimeCounterNs := 0
      busyTimeCounterNs := 0
      prevTimeNs := c.currentIntervalEnd
      currentIntervalStart := start
      currentIntervalEnd := stop }

/-- `TrackUtilization(nextStateIsOn)` at time `now`, whose loop is cut off after `fuel` rounds. -/
def trackUtilization64 (fuel : Nat) (now : Int) (nextStateIsOn : Bool) (c : Counter R) : Res (Counter R) := do
  let c ← whileLoop .diverges (fun c => decide (now ≥ c.currentIntervalEnd))
    (closeInterval64 rec intervalNs nextStateIsOn) fuel c
  let c ← c.account64 now nextStateIsOn
  .ok { c with currentStateIsOn := nextStateIsOn, prevTimeNs := now }

/-- `TrackUtilization(nextStateIsOn)` at time `now`. Every round of the loop moves the end of the current
interval, by at least one if the interval is positive, so it has as many rounds as it can need. -/
def trackUtilization (now : Int) (nextStateIsOn : Bool) (c : Counter R) : Res (Counter R) :=
  trackUtilization64 rec intervalNs (now - c.currentIntervalEnd + 1).toNat now nextStateIsOn c

/-! ## What every call keeps -/

/-- The interval that is open at `now` ends within the range of `int64_t`. -/
def Fits (intervalNs now : Int) : Prop := (now / intervalNs + 1) * intervalNs < 2 ^ 63

instance (intervalNs now : Int) : Decidable (Fits intervalNs now) := inferInstanceAs (Decidable (_ < _))

theorem Fits.now_lt {intervalNs now : Int} (h : Fits intervalNs now) (hi : 1 ≤ intervalNs) : now < 2 ^ 63 :=
  lt_of_lt_of_le (Int.lt_ediv_add_one_mul_self now (by omega)) h.le

/-- If the interval that is open at some time ends within the range, so does that of any time before. -/
theorem Fits.mono {intervalNs t now : Int} (h : Fits intervalNs now) (hi : 1 ≤ intervalNs) (ht : t ≤ now) :
    Fits intervalNs t := by
  have hdiv : t / intervalNs ≤ now / intervalNs := Int.ediv_le_ediv (by omega) ht
  exact lt_of_le_of_lt (mul_le_mul_of_nonneg_right (by omega) (by omega)) h

/-- All of the time since the start of the current interval is accounted for, whatever the calls said, and every
interval before it has a record. -/
structure Accounted (c : Counter R) : Prop where
  closed : c.rows.length * intervalNs = c.currentIntervalStart
  stop : c.currentIntervalEnd = c.currentIntervalStart + intervalNs
  fits : c.currentIntervalEnd < 2 ^ 63
  start : 0 ≤ c.currentIntervalStart
  lower : c.currentIntervalStart ≤ c.prevTimeNs
  upper : c.prevTimeNs ≤ c.currentIntervalEnd
  idle : 0 ≤ c.idleTimeCounterNs
  busy : 0 ≤ c.busyTimeCounterNs
  total : c.idleTimeCounterNs + c.busyTimeCounterNs = c.prevTimeNs - c.currentIntervalStart

/-- The counter when an interval was closed in which the state was the opposite of the next one. -/
def close (nextStateIsOn : Bool) (c : Counter R) : Counter R :=
  { c.account c.currentIntervalEnd nextStateIsOn with
    rows := c.rows ++ [rec.record c.currentIntervalStart c.currentIntervalEnd
      (c.account c.currentIntervalEnd nextStateIsOn).busyTimeCounterNs]
    idleTimeCounterNs := 0
    busyTimeCounterNs := 0
    prevTimeNs := c.currentIntervalEnd
    currentIntervalStart := c.currentIntervalEnd
    currentIntervalEnd := c.currentIntervalEnd + intervalNs }

section Accounted

variable {rec intervalNs} {c c' : Counter R} {now : Int} {next : Bool}

theorem accounted_init (h : 0 ≤ intervalNs) (hlt : intervalNs < 2 ^ 63) :
    Accounted intervalNs (init intervalNs : Counter R) := by
  constructor <;> simp only [init, List.length_nil, Nat.cast_zero, zero_mul, zero_add, sub_self, le_refl, h, hlt]

theorem Accounted.interval_lt (h : Accounted intervalNs c) : intervalNs < 2 ^ 63 := by
  have hstart := h.start
  have hstop := h.stop
  have hfits := h.fits
  omega

/-- The time until `now` is accounted for without an overflow. -/
theorem Accounted.account (h : Accounted intervalNs c) (hle : c.prevTimeNs ≤ now) (hlt : now < 2 ^ 63) (next : Bool) :
    c.account64 now next = .ok (c.account now next) ∧
      0 ≤ (c.account now next).idleTimeCounterNs ∧ 0 ≤ (c.account now next).busyTimeCounterNs ∧
      (c.account now next).idleTimeCounterNs + (c.account now next).busyTimeCounterNs =
        now - c.currentIntervalStart := by
  have hstart := h.start
  have hlower := h.lower
  have hidle := h.idle
  have hbusy := h.busy
  have htotal := h.total
  unfold account64 Counter.account
  rw [int64_eq (by omega) (by omega), ok_bind]
  cases next with
  | true =>
    simp only [if_true]
    rw [int64_eq (by omega) (by omega), ok_bind]
    exact ⟨rfl, by omega, hbusy, by omega⟩
  | false =>
    simp only [Bool.false_eq_true, if_false]
    rw [int64_eq (by omega) (by omega), ok_bind]
    exact ⟨rfl, hidle, by omega, by omega⟩

/-- The two counters always add up to the length of an interval, so a round of the loop closes it unless the end of
the next one overflows. -/
theorem Accounted.close_eq (h : Accounted intervalNs c) (rec : Recorder R) (next : Bool) :
    closeInterval64 rec intervalNs next c =
      (int64 (c.currentIntervalEnd + intervalNs) >>= fun _ => .ok (c.close rec intervalNs next)) := by
  have hstart := h.start
  have hstop := h.stop
  have hfits := h.fits
  have hlower := h.lower
  have hupper := h.upper
  obtain ⟨hacc, -, -, htotal⟩ := h.account h.upper h.fits next
  have hsum : (c.account c.currentIntervalEnd next).idleTimeCounterNs +
      (c.account c.currentIntervalEnd next).busyTimeCounterNs = intervalNs := by omega
  unfold closeInterval64
  rw [hacc, ok_bind]
  simp only [account_rows, account_start, account_end, hsum]
  rw [int64_eq (by omega) (by omega), ok_bind, if_neg (fun hne => hne rfl), int64_eq (by omega) (by omega), ok_bind]
  cases hend : int64 (c.currentIntervalEnd + intervalNs) with
  | error e => rfl
  | ok stop =>
    rw [ok_bind, ok_bind, int64_ok hend, ← hstop]
    rfl

theorem Accounted.close (h : Accounted intervalNs c) (rec : Recorder R) (next : Bool)
    (hfit : c.currentIntervalEnd + intervalNs < 2 ^ 63) : Accounted intervalNs (c.close rec intervalNs next) := by
  have hstart := h.start
  have hstop := h.stop
  have hlower := h.lower
  have hupper := h.upper
  constructor <;> simp only [Counter.close, List.length_append, List.length_singleton, Nat.cast_add, Nat.cast_one,
    add_mul, one_mul, h.closed] <;> omega

/-- While the open interval ends within the range, so do all that end before now. -/
theorem Accounted.fits_close (h : Accounted intervalNs c) (hi : 1 ≤ intervalNs) (hge : c.currentIntervalEnd ≤ now)
    (hfit : Fits intervalNs now) : c.currentIntervalEnd + intervalNs < 2 ^ 63 := by
  have hend : c.currentIntervalEnd = ((c.rows.length : Int) + 1) * intervalNs := by rw [h.stop, ← h.closed]; ring
  have hk : (c.rows.length : Int) + 1 ≤ now / intervalNs := (Int.le_ediv_iff_mul_le (by omega)).2 (hend ▸ hge)
  have hmul := mul_le_mul_of_nonneg_right hk (by omega : (0 : Int) ≤ intervalNs)
  unfold Fits at hfit
  rw [add_mul, one_mul] at hfit
  omega

/-- A call returns if the open interval then ends within the range, and keeps what closing an interval that is over
keeps. -/
theorem Accounted.call {I : Counter R → Prop} (h : Accounted intervalNs c) (hi : 1 ≤ intervalNs)
    (hle : c.prevTimeNs ≤ now) (hfit : Fits intervalNs now) (hc : I c)
    (hI : ∀ c, c.currentIntervalEnd ≤ now → c.currentIntervalEnd + intervalNs < 2 ^ 63 → I c →
      I (c.close rec intervalNs next)) :
    ∃ c₁, trackUtilization rec intervalNs now next c =
        .ok { c₁.account now next with currentStateIsOn := next, prevTimeNs := now } ∧
      Accounted intervalNs { c₁.account now next with currentStateIsOn := next, prevTimeNs := now } ∧
      I c₁ ∧ c₁.prevTimeNs ≤ now ∧ now < c₁.currentIntervalEnd := by
  have hlt := hfit.now_lt hi
  obtain ⟨c₁, hloop, ⟨h₁, hp₁, hc₁⟩, hend⟩ := whileLoop_inv .diverges
    (fun c : Counter R => decide (now ≥ c.currentIntervalEnd)) (closeInterval64 rec intervalNs next)
    (fun c => Accounted intervalNs c ∧ c.prevTimeNs ≤ now ∧ I c) (fun c => (now - c.currentIntervalEnd + 1).toNat)
    (by
      rintro c ⟨h, hp, hc⟩ hcond
      have hge : c.currentIntervalEnd ≤ now := of_decide_eq_true hcond
      have hnext := h.fits_close hi hge hfit
      have hstart := h.start
      have hstop := h.stop
      have hrun : closeInterval64 rec intervalNs next c = .ok (c.close rec intervalNs next) := by
        rw [h.close_eq, int64_eq (by omega) hnext, ok_bind]
      refine ⟨_, hrun, ⟨h.close rec next hnext, hge, hI c hge hnext hc⟩, ?_⟩
      show (now - (c.currentIntervalEnd + intervalNs) + 1).toNat < _
      omega)
    (now - c.currentIntervalEnd + 1).toNat c ⟨h, hle, hc⟩ le_rfl
  have hupper : now < c₁.currentIntervalEnd := not_le.1 (of_decide_eq_false hend)
  obtain ⟨hacc, hidle, hbusy, htotal⟩ := h₁.account hp₁ hlt next
  refine ⟨c₁, ?_, ⟨?_, ?_, ?_, ?_, ?_, ?_, hidle, hbusy, ?_⟩, hc₁, hp₁, hupper⟩
  · unfold trackUtilization trackUtilization64
    rw [hloop, ok_bind, hacc, ok_bind]
  · simpa using h₁.closed
  · simpa using h₁.stop
  · simpa using h₁.fits
  · simpa using h₁.start
  · simpa using h₁.lower.trans hp₁
  · simpa using hupper.le
  · simpa using htotal

/-- A call that returned has accounted for the time until now, and the open interval ends after it. -/
theorem Accounted.returned (h : Accounted intervalNs c) (hle : c.prevTimeNs ≤ now) {fuel : Nat}
    (hrun : trackUtilization64 rec intervalNs fuel now next c = .ok c') :
    Accounted intervalNs c' ∧ c'.prevTimeNs = now ∧ now < c'.currentIntervalEnd := by
  obtain ⟨c₁, hloop, hrun⟩ := bind_ok hrun
  obtain ⟨⟨h₁, hprev⟩, hend⟩ := whileLoop_keeps .diverges (fun c => decide (now ≥ c.currentIntervalEnd))
    (closeInterval64 rec intervalNs next) (fun c => Accounted intervalNs c ∧ c.prevTimeNs ≤ now)
    (fun c c' hc hge hb => by
      rw [hc.1.close_eq] at hb
      obtain ⟨stop, hstop, hb⟩ := bind_ok hb
      cases hb
      exact ⟨hc.1.close rec next (int64_lt hstop), of_decide_eq_true hge⟩) fuel c c₁ ⟨h, hle⟩ hloop
  have hupper : now < c₁.currentIntervalEnd := not_le.1 (of_decide_eq_false hend)
  obtain ⟨hacc, hidle, hbusy, htotal⟩ := h₁.account hprev (hupper.trans h₁.fits) next
  rw [hacc, ok_bind] at hrun
  cases hrun
  refine ⟨⟨?_, ?_, ?_, ?_, ?_, ?_, hidle, hbusy, ?_⟩, rfl, by simpa using hupper⟩
  · simpa using h₁.closed
  · simpa using h₁.stop
  · simpa using h₁.fits
  · simpa using h₁.start
  · simpa using h₁.lower.trans hprev
  · simpa using hupper.le
  · simpa using htotal

/-- The open interval of a counter is that of the time of the last call. -/
theorem Accounted.closed_eq (h : Accounted intervalNs c) (hlt : c.prevTimeNs < c.currentIntervalEnd) :
    (c.rows.length : Int) = c.prevTimeNs / intervalNs := by
  have hlower := h.lower
  have hstop := h.stop
  have hi : 0 < intervalNs := by omega
  rw [← h.closed] at hlower hstop
  rw [hstop, ← add_one_mul] at hlt
  exact le_antisymm ((Int.le_ediv_iff_mul_le hi).2 hlower)
    (Int.lt_add_one_iff.1 ((Int.ediv_lt_iff_lt_mul hi).2 hlt))

/-- After a call that returned it ends within the range. -/
theorem Accounted.fits_now (h : Accounted intervalNs c) (hlt : c.prevTimeNs < c.currentIntervalEnd) :
    Fits intervalNs c.prevTimeNs := by
  have hfits := h.fits
  rw [h.stop, ← h.closed, h.closed_eq hlt, ← add_one_mul] at hfits
  exact hfits

end Accounted

/-! ## What it counts -/

/-- The records of the first `k` intervals, for a device whose state is `g`. -/
def records (g : Int → Bool) (k : Nat) : List R :=
  (List.range k).map fun i : Nat =>
    rec.record (i * intervalNs) ((i + 1) * intervalNs) (count g (i * intervalNs) ((i + 1) * intervalNs))

@[simp] theorem length_records (g : Int → Bool) (k : Nat) : (records rec intervalNs g k).length = k := by
  unfold records
  rw [List.length_map, List.length_range]

/-- The counter has accounted for the state `g` up to the time of the last call. -/
structure Counts (g : Int → Bool) (c : Counter R) : Prop where
  accounted : Accounted intervalNs c
  rows : c.rows = records rec intervalNs g c.rows.length
  counted : c.busyTimeCounterNs = count g c.currentIntervalStart c.prevTimeNs

section Counts

variable {rec intervalNs} {g g' : Int → Bool} {c : Counter R}

theorem counts_init (h : 0 ≤ intervalNs) (hlt : intervalNs < 2 ^ 63) (g : Int → Bool) :
    Counts rec intervalNs g (init intervalNs) :=
  ⟨accounted_init h hlt, rfl, (count_self g 0).symm⟩

/-- Only the state before the last call was counted. -/
theorem Counts.congr (h : Counts rec intervalNs g c) (hi : 0 ≤ intervalNs) (hg : ∀ x < c.prevTimeNs, g' x = g x) :
    Counts rec intervalNs g' c := by
  have hlower := h.accounted.lower
  have hstart := h.accounted.closed
  refine ⟨h.accounted, ?_, ?_⟩
  · refine h.rows.trans ?_
    apply List.map_congr_left
    intro i hik
    have hle : ((i : Int) + 1) * intervalNs ≤ c.rows.length * intervalNs := by
      have : i < c.rows.length := List.mem_range.1 hik
      exact mul_le_mul_of_nonneg_right (by omega) hi
    rw [count_congr]
    intro x _ hx
    exact (hg x (by omega)).symm
  · rw [h.counted, count_congr]
    intro x _ hx
    exact (hg x hx).symm

/-- Accounting for the time until `now`, when the state was the opposite of the next one. -/
theorem Counts.account (h : Counts rec intervalNs g c) {now : Int} (hnow : c.prevTimeNs ≤ now) {next : Bool}
    (hg : ∀ x, c.prevTimeNs ≤ x → x < now → g x = !next) :
    (c.account now next).busyTimeCounterNs = count g c.currentIntervalStart now := by
  have hadd := count_add (g := g) h.accounted.lower hnow
  have hbusy := h.counted
  unfold Counter.account
  cases next with
  | true =>
    have hoff : count g c.prevTimeNs now = 0 := count_off hg
    show c.busyTimeCounterNs = _
    omega
  | false =>
    have hon : count g c.prevTimeNs now = now - c.prevTimeNs := count_on hnow hg
    show c.busyTimeCounterNs + _ = _
    omega

/-- Closing an interval records its busy time. -/
theorem Counts.close (h : Counts rec intervalNs g c) {next : Bool}
    (hg : ∀ x, c.prevTimeNs ≤ x → x < c.currentIntervalEnd → g x = !next)
    (hfit : c.currentIntervalEnd + intervalNs < 2 ^ 63) : Counts rec intervalNs g (c.close rec intervalNs next) := by
  have hend : c.currentIntervalEnd = ((c.rows.length : Int) + 1) * intervalNs := by
    rw [h.accounted.stop, ← h.accounted.closed]; ring
  refine ⟨h.accounted.close rec next hfit, ?_, (count_self g _).symm⟩
  show c.rows ++ [_] = records rec intervalNs g (c.rows ++ [_]).length
  rw [h.account h.accounted.upper hg, List.length_append, List.length_singleton]
  unfold records
  rw [List.range_succ, List.map_append]
  congr 1
  · exact h.rows
  · rw [hend, ← h.accounted.closed]
    rfl

/-- A call that is true about the time since the last one ends, having counted that time. -/
theorem Counts.track (h : Counts rec intervalNs g c) (hi : 1 ≤ intervalNs) {now : Int} (hnow : c.prevTimeNs ≤ now)
    (hfit : Fits intervalNs now) {next : Bool} (hg : ∀ x, c.prevTimeNs ≤ x → x < now → g x = !next) :
    ∃ c', trackUtilization rec intervalNs now next c = .ok c' ∧ Counts rec intervalNs g c' ∧
      c'.prevTimeNs = now ∧ now < c'.currentIntervalEnd ∧ c'.currentStateIsOn = next := by
  -- The loop keeps the counts; the device was in the same state in all the time it closes.
  obtain ⟨c₁, hrun, hacc, ⟨h₁, hg₁⟩, hp₁, hend⟩ := @Accounted.call _ rec _ _ _ next
    (fun c => Counts rec intervalNs g c ∧ ∀ x, c.prevTimeNs ≤ x → x < now → g x = !next) h.accounted hi hnow hfit ⟨h, hg⟩
    (by
      rintro c hge hnext ⟨hc, hg⟩
      have hupper := hc.accounted.upper
      exact ⟨hc.close (fun x hx hlt => hg x hx (by omega)) hnext, fun x hx hlt => hg x (hupper.trans hx) hlt⟩)
  refine ⟨_, hrun, ⟨hacc, ?_, ?_⟩, rfl, ?_, rfl⟩
  · simpa using h₁.rows
  · simpa using h₁.account hp₁ hg₁
  · simpa using hend

end Counts

/-! ## Runs -/

/-- The state of the device at an instant, when `events` are its changes: off before the first one. -/
def isOn (events : List (Int × Bool)) (x : Int) : Bool := (Step.valueAt events x).getD false

/-- The calls of a device that turns to `next` first and then to and fro. -/
def Alternating : Bool → List (Int × Bool) → Prop
  | _, [] => True
  | next, e :: events => e.2 = next ∧ Alternating (!next) events

/-- The calls of `TrackUtilization` for a list of times with next states. -/
def trackAll (events : List (Int × Bool)) (c : Counter R) : Res (Counter R) :=
  forEach (fun c e => trackUtilization rec intervalNs e.1 e.2 c) events c

/-- The counter after the changes `events`. -/
structure Tracks (events : List (Int × Bool)) (c : Counter R) : Prop where
  counts : Counts rec intervalNs (isOn events) c
  within : c.prevTimeNs < c.currentIntervalEnd
  after : ∀ x, c.prevTimeNs ≤ x → isOn events x = c.currentStateIsOn

section Runs

variable {rec intervalNs} {c c' : Counter R} {events : List (Int × Bool)}

theorem tracks_init (h : 1 ≤ intervalNs) (hlt : intervalNs < 2 ^ 63) : Tracks rec intervalNs [] (init intervalNs) :=
  ⟨counts_init (by omega) hlt _, by show 0 < intervalNs; omega, fun _ _ => rfl⟩

theorem isOn_concat_lt {t x : Int} (h : x < t) (b : Bool) : isOn (events ++ [(t, b)]) x = isOn events x := by
  unfold isOn; rw [Step.valueAt_concat_lt h]

theorem isOn_concat_le {t x : Int} (h : t ≤ x) (b : Bool) : isOn (events ++ [(t, b)]) x = b := by
  unfold isOn; rw [Step.valueAt_concat_le h]; rfl

/-- The next change of the device is counted. -/
theorem Tracks.step (h : Tracks rec intervalNs events c) (hi : 1 ≤ intervalNs) {t : Int} (ht : c.prevTimeNs ≤ t)
    (hfit : Fits intervalNs t) :
    ∃ c', trackUtilization rec intervalNs t (!c.currentStateIsOn) c = .ok c' ∧
      Tracks rec intervalNs (events ++ [(t, !c.currentStateIsOn)]) c' ∧ c'.prevTimeNs = t ∧
      c'.currentStateIsOn = !c.currentStateIsOn := by
  have hc := h.counts.congr (by omega) fun x hx => isOn_concat_lt (lt_of_lt_of_le hx ht) (!c.currentStateIsOn)
  obtain ⟨c', hrun, hc', hprev, hlt, hon⟩ := @Counts.track _ _ _ _ _ hc hi _ ht hfit (!c.currentStateIsOn) fun x hx hlt => by
    rw [isOn_concat_lt hlt, h.after x hx, Bool.not_not]
  refine ⟨c', hrun, ⟨hc', hprev ▸ hlt, fun x hx => ?_⟩, hprev, hon⟩
  rw [isOn_concat_le (hprev ▸ hx), hon]

/-- It is counted, or the call fails because the open interval does not end within the range. -/
theorem Tracks.step_or (h : Tracks rec intervalNs events c) (hi : 1 ≤ intervalNs) {t : Int} (ht : c.prevTimeNs ≤ t) :
    (∃ c', trackUtilization rec intervalNs t (!c.currentStateIsOn) c = .ok c' ∧
      Tracks rec intervalNs (events ++ [(t, !c.currentStateIsOn)]) c' ∧ c'.prevTimeNs = t ∧
      c'.currentStateIsOn = !c.currentStateIsOn) ∨
    ¬ Fits intervalNs t ∧ ∃ e, trackUtilization rec intervalNs t (!c.currentStateIsOn) c = .error e := by
  cases hrun : trackUtilization rec intervalNs t (!c.currentStateIsOn) c with
  | error e =>
    refine .inr ⟨fun hfit => ?_, e, rfl⟩
    obtain ⟨c', hok, -⟩ := h.step hi ht hfit
    rw [hrun] at hok
    cases hok
  | ok c' =>
    obtain ⟨hacc, rfl, hend⟩ := h.counts.accounted.returned ht hrun
    obtain ⟨c'', hok, hstep⟩ := h.step hi ht (hacc.fits_now hend)
    rw [hrun] at hok
    cases hok
    exact .inl ⟨c', rfl, hstep⟩

/-- A whole run of changes is counted, without a mismatch. -/
theorem Tracks.run (hi : 1 ≤ intervalNs) {now : Int} (hfit : Fits intervalNs now) :
    ∀ {es events : List (Int × Bool)} {c : Counter R}, Tracks rec intervalNs events c →
    Alternating (!c.currentStateIsOn) es → (∀ e ∈ es, c.prevTimeNs ≤ e.1 ∧ e.1 ≤ now) →
    es.Pairwise (fun e f => e.1 ≤ f.1) → c.prevTimeNs ≤ now →
    ∃ c', trackAll rec intervalNs es c = .ok c' ∧ Tracks rec intervalNs (events ++ es) c' ∧ c'.prevTimeNs ≤ now
  | [], events, c, h, _, _, _, hprev => ⟨c, rfl, by rw [List.append_nil]; exact h, hprev⟩
  | (t, b) :: es, events, c, h, ⟨hb, halt⟩, hle, hs, _ => by
    obtain ⟨hfirst, hrest⟩ := List.pairwise_cons.1 hs
    obtain ⟨hfrom, hnow⟩ := hle (t, b) (List.mem_cons_self ..)
    obtain rfl : b = !c.currentStateIsOn := hb
    obtain ⟨c₁, hrun₁, h₁, hprev₁, hon₁⟩ := h.step hi hfrom (hfit.mono hi hnow)
    obtain ⟨c', hrun, h', hprev⟩ := Tracks.run hi hfit h₁ (by rw [hon₁]; exact halt)
      (fun e he => ⟨by rw [hprev₁]; exact hfirst e he, (hle e (List.mem_cons_of_mem _ he)).2⟩) hrest (hprev₁ ▸ hnow)
    refine ⟨c', ?_, by simpa using h', hprev⟩
    show (trackUtilization rec intervalNs t (!c.currentStateIsOn) c >>= trackAll rec intervalNs es) = _
    rw [hrun₁, ok_bind]
    exact hrun

/-- The call that finalizing makes, with the opposite of the current state, only counts the time until
then. -/
theorem Tracks.finalize (h : Tracks rec intervalNs events c) (hi : 1 ≤ intervalNs) {now : Int}
    (hnow : c.prevTimeNs ≤ now) (hfit : Fits intervalNs now) :
    ∃ c', trackUtilization rec intervalNs now (!c.currentStateIsOn) c = .ok c' ∧
      Counts rec intervalNs (isOn events) c' ∧ c'.prevTimeNs = now ∧ now < c'.currentIntervalEnd := by
  obtain ⟨c', hrun, hc', hprev, hlt, -⟩ := @Counts.track _ _ _ _ _ h.counts hi _ hnow hfit (!c.currentStateIsOn)
    fun x hx _ => by rw [h.after x hx, Bool.not_not]
  exact ⟨c', hrun, hc', hprev, hlt⟩

/-- Calls that returned have accounted for the time, whatever they said. -/
theorem Accounted.trackAll {now : Int} : ∀ {es : List (Int × Bool)} {c c' : Counter R},
    Accounted intervalNs c → (∀ e ∈ es, c.prevTimeNs ≤ e.1 ∧ e.1 ≤ now) → es.Pairwise (fun e f => e.1 ≤ f.1) →
    c.prevTimeNs ≤ now → trackAll rec intervalNs es c = .ok c' → Accounted intervalNs c' ∧ c'.prevTimeNs ≤ now
  | [], c, c', h, _, _, hprev, hrun => by
    cases hrun
    exact ⟨h, hprev⟩
  | (t, b) :: es, c, c', h, hle, hs, _, hrun => by
    obtain ⟨hfirst, hrest⟩ := List.pairwise_cons.1 hs
    obtain ⟨hfrom, hnow⟩ := hle (t, b) (List.mem_cons_self ..)
    obtain ⟨c₁, hrun₁, hrun⟩ := bind_ok hrun
    obtain ⟨h₁, hprev₁, -⟩ := h.returned hfrom hrun₁
    exact Accounted.trackAll h₁
      (fun e he => ⟨by rw [hprev₁]; exact hfirst e he, (hle e (List.mem_cons_of_mem _ he)).2⟩) hrest (hprev₁ ▸ hnow) hrun

end Runs

end Counter

end SatNet.Track
