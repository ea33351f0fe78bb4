/-
When the loop of `TrackUtilization` is over. A round moves the end of the current interval by the length of an
interval and nothing else decides when the loop is over, so a call returns exactly if that length is not zero; and
before 2^62 ns no sum of it leaves an `int64_t`.
-/
import SatNet.Track.Counter

namespace SatNet.Track

open SatNet.Loop

namespace Counter

variable {R : Type} (rec : Recorder R) (intervalNs : Int)

/-! ## The calls -/

/-- The call of `TrackUtilization` that finalizing makes, with the opposite of the current state. -/
def finalizeUtilization64 (fuel : Nat) (now : Int) (c : Counter R) : Res (Counter R) :=
  trackUtilization64 rec intervalNs fuel now (!c.currentStateIsOn) c

/-- The counters of a device whose tracking was enabled at time 0, after any calls that returned, at the time of the
last one. -/
inductive Reached : Int → Counter R → Prop where
  | enabled : Reached 0 (init intervalNs)
  | call {now c c'} (t : Int) (next : Bool) (fuel : Nat) : Reached now c → now ≤ t → t < 2 ^ 63 →
      trackUtilization64 rec intervalNs fuel t next c = .ok c' → Reached t c'

/-- The loop closes finitely many intervals, the call returns, and the current interval ends after now. -/
def Terminates (now : Int) (nextStateIsOn : Bool) (c : Counter R) : Prop :=
  ∃ fuel c', trackUtilization64 rec intervalNs fuel now nextStateIsOn c = .ok c' ∧ now < c'.currentIntervalEnd

/-! ## When the loop is over -/

section Terminates

variable {rec intervalNs} {c c' : Counter R} {now : Int} {next : Bool}

theorem Reached.accounted (h : Reached rec intervalNs now c) (hi : 0 ≤ intervalNs) (hmax : intervalNs < 2 ^ 63) :
    Accounted intervalNs c ∧ c.prevTimeNs = now := by
  induction h with
  | enabled => exact ⟨accounted_init hi hmax, rfl⟩
  | call t next fuel _ hle hlt hrun ih =>
    obtain ⟨hacc, rfl⟩ := ih
    obtain ⟨hacc', hprev, -⟩ := hacc.returned hle hrun
    exact ⟨hacc', hprev⟩

/-- With an interval of no length a round leaves the end of the interval where it is. -/
theorem Accounted.diverges (h : Accounted 0 c) (hle : c.prevTimeNs ≤ now) (fuel : Nat) :
    trackUtilization64 rec 0 fuel now next c = .error .diverges := by
  have hstop := h.stop
  have hlower := h.lower
  have hupper := h.upper
  unfold trackUtilization64
  rw [whileLoop_diverges .diverges _ (closeInterval64 rec 0 next)
    (fun c => Accounted 0 c ∧ c.currentIntervalEnd ≤ now) (fun c hc => ?_) fuel c ⟨h, by omega⟩]
  · rfl
  · have hstart := hc.1.start
    have hend := hc.1.stop
    have hfits := hc.1.fits
    have hrun : closeInterval64 rec 0 next c = .ok (c.close rec 0 next) := by
      rw [hc.1.close_eq, int64_eq (by omega) (by omega), ok_bind]
    refine ⟨decide_eq_true hc.2, _, hrun, hc.1.close rec next (by omega), ?_⟩
    show c.currentIntervalEnd + 0 ≤ now
    exact (add_zero c.currentIntervalEnd).trans_le hc.2

/-- In the first half of the range of the times no interval can end past it. -/
theorem fits_half (hi : 1 ≤ intervalNs) (hmax : intervalNs < 2 ^ 63) (hnow : 0 ≤ now) (hlt : now < 2 ^ 62) :
    Fits intervalNs now := by
  unfold Fits
  by_cases hle : intervalNs ≤ now
  · have hmul := Int.ediv_mul_le now (by omega : intervalNs ≠ 0)
    rw [add_mul, one_mul]
    omega
  · rw [Int.ediv_eq_zero_of_lt hnow (by omega), zero_add, one_mul]
    exact hmax

/-- In every reachable state a call returns exactly if the intervals have a length. -/
theorem Reached.terminates_iff (h : Reached rec intervalNs now c) (hi : 0 ≤ intervalNs) (hmax : intervalNs < 2 ^ 63)
    {t : Int} (hle : now ≤ t) (hlt : t < 2 ^ 62) (next : Bool) : Terminates rec intervalNs t next c ↔ intervalNs ≠ 0 := by
  obtain ⟨hacc, rfl⟩ := h.accounted hi hmax
  constructor
  · rintro ⟨fuel, c', hrun, -⟩ rfl
    rw [hacc.diverges hle fuel] at hrun
    cases hrun
  · intro hne
    have hstart := hacc.start
    have hlower := hacc.lower
    have hfit := fits_half (by omega) hmax (by omega : 0 ≤ t) hlt
    obtain ⟨c₁, hrun, -, -, -, hend⟩ := @Accounted.call _ rec _ _ _ next (fun _ => True) hacc (by omega) hle hfit trivial
      fun _ _ _ _ => trivial
    exact ⟨_, _, hrun, by simpa using hend⟩

/-- A call that returned was made with intervals that have a length, and has recorded those that are over. -/
theorem Reached.returned (h : Reached rec intervalNs now c) (hi : 0 ≤ intervalNs) (hmax : intervalNs < 2 ^ 63) {t : Int}
    (hle : now ≤ t) {fuel : Nat} (hrun : trackUtilization64 rec intervalNs fuel t next c = .ok c') :
    0 < intervalNs ∧ c'.rows.length * intervalNs ≤ t := by
  obtain ⟨hacc, rfl⟩ := h.accounted hi hmax
  constructor
  · refine lt_of_le_of_ne hi ?_
    rintro rfl
    rw [hacc.diverges hle fuel] at hrun
    cases hrun
  · obtain ⟨hacc', rfl, -⟩ := hacc.returned hle hrun
    rw [hacc'.closed]
    exact hacc'.lower

end Terminates

end Counter

end SatNet.Track
