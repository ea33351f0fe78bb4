/-
`PtopLinkUtilizationTracker`: the utilization intervals of a point-to-point link device, from the
begin and end of each of its transmissions.
-/
import SatNet.Track.Counter
import SatNet.Lib.Step

namespace SatNet.Track

open SatNet.Loop SatNet.Count SatNet.Step

namespace PtopLinkUtilizationTracker

/-! ## The tracker -/

/-- An interval: start, end, busy time in nanoseconds. -/
abbrev Interval := Row Int Int

def recorder : Recorder Interval where
  record start stop busy := ⟨start, stop, busy⟩
  mismatch := .assertion "m_idle_time_counter_ns + m_busy_time_counter_ns == m_interval_ns"

variable (intervalNs : Int)

def trackUtilization (nowNs : Int) (nextStateIsOn : Bool) (c : Counter Interval) : Res (Counter Interval) :=
  c.trackUtilization recorder intervalNs nowNs nextStateIsOn

def netDevicePhyTxBeginCallback (nowNs : Int) (c : Counter Interval) : Res (Counter Interval) :=
  trackUtilization intervalNs nowNs true c

def netDevicePhyTxEndCallback (nowNs : Int) (c : Counter Interval) : Res (Counter Interval) :=
  trackUtilization intervalNs nowNs false c

/-- The intervals that are returned, and the counter they are left with. -/
def finalizeUtilization (nowNs : Int) (c : Counter Interval) : Res (Counter Interval) := do
  -- end the remaining completed intervals
  let c ← trackUtilization intervalNs nowNs (!c.currentStateIsOn) c
  if nowNs ≠ c.currentIntervalStart then
    .ok { c with rows := c.rows ++ [⟨c.currentIntervalStart, nowNs, c.busyTimeCounterNs⟩] }
  else .ok c

/-- The callbacks for the begins (`true`) and ends (`false`) of transmissions at their times. -/
def callbacks (events : List (Int × Bool)) (c : Counter Interval) : Res (Counter Interval) :=
  forEach (fun c e =>
    if e.2 then netDevicePhyTxBeginCallback intervalNs e.1 c else netDevicePhyTxEndCallback intervalNs e.1 c) events c

theorem callbacks_eq (events : List (Int × Bool)) (c : Counter Interval) :
    callbacks intervalNs events c = c.trackAll recorder intervalNs events := by
  unfold callbacks Counter.trackAll
  congr 1
  funext c e
  obtain ⟨t, b⟩ := e
  cases b <;> rfl

/-! ## The intervals -/

variable {intervalNs} {g : Int → Bool}

/-- The records of the closed intervals tile the time until the last of them ends. -/
theorem tiles_records (hi : 1 ≤ intervalNs) : ∀ k : Nat,
    Tiles (Counter.records recorder intervalNs g k) 0 (k * intervalNs)
  | 0 => by show (0 : Int) = ((0 : Nat) : Int) * intervalNs; rw [Nat.cast_zero, zero_mul]
  | k + 1 => by
    have hk : ((k + 1 : Nat) : Int) = k + 1 := by push_cast; rfl
    unfold Counter.records
    rw [List.range_succ, List.map_append]
    refine tiles_concat.2 ⟨tiles_records hi k, ?_, ?_⟩
    · show (k : Int) * intervalNs < (k + 1) * intervalNs
      rw [add_mul, one_mul]; omega
    · show ((k : Int) + 1) * intervalNs = ((k + 1 : Nat) : Int) * intervalNs
      rw [hk]

/-- Each of them has the length of an interval and the busy time of the device in it. -/
theorem mem_records {k : Nat} {r : Interval} (hr : r ∈ Counter.records recorder intervalNs g k) :
    r.right - r.left = intervalNs ∧ r.value = count g r.left r.right := by
  obtain ⟨i, -, rfl⟩ := List.mem_map.1 hr
  refine ⟨?_, rfl⟩
  show ((i : Int) + 1) * intervalNs - i * intervalNs = intervalNs
  ring

/-- What finalizing returns for the state `g`: intervals that tile the time until `now`, all of them
of the given length except that the last one may be shorter, and each with the busy time in it. -/
structure Utilization (g : Int → Bool) (intervalNs now : Int) (rows : List Interval) : Prop where
  tiles : Tiles rows 0 now
  full : ∀ (k : Nat) (r : Interval), rows[k]? = some r → k + 1 < rows.length → r.right - r.left = intervalNs
  short : ∀ r ∈ rows, r.right - r.left ≤ intervalNs
  busy : ∀ r ∈ rows, r.value = count g r.left r.right

/-- What finalizing adds to the records of the closed intervals: the open one, unless it is empty. -/
def openInterval (g : Int → Bool) (start now : Int) : List Interval :=
  if now ≠ start then [⟨start, now, count g start now⟩] else []

/-- Finalizing a tracker that has followed the device. -/
theorem finalize_rows (hi : 1 ≤ intervalNs) {events : List (Int × Bool)} {c : Counter Interval}
    (h : Counter.Tracks recorder intervalNs events c) {now : Int} (hnow : c.prevTimeNs ≤ now)
    (hfit : Counter.Fits intervalNs now) :
    ∃ (k : Nat) (c' : Counter Interval), finalizeUtilization intervalNs now c = .ok c' ∧
      (k : Int) = now / intervalNs ∧ k * intervalNs ≤ now ∧ now < k * intervalNs + intervalNs ∧
      c'.rows = Counter.records recorder intervalNs (Counter.isOn events) k ++
        openInterval (Counter.isOn events) (k * intervalNs) now := by
  obtain ⟨c₁, hrun, hc, rfl, hlt⟩ := h.finalize hi hnow hfit
  have hstart := hc.accounted.closed
  have hlower := hc.accounted.lower
  have hstop := hc.accounted.stop
  have hbusy := hc.counted
  rw [← hstart] at hlower hstop hbusy
  unfold finalizeUtilization trackUtilization
  rw [hrun, ok_bind, ← hstart, hbusy]
  unfold openInterval
  by_cases hne : c₁.prevTimeNs ≠ c₁.rows.length * intervalNs
  · rw [if_pos hne]
    refine ⟨c₁.rows.length, _, rfl, hc.accounted.closed_eq hlt, hlower, hstop ▸ hlt, ?_⟩
    rw [if_pos hne, ← hc.rows]
  · rw [if_neg hne]
    refine ⟨c₁.rows.length, c₁, rfl, hc.accounted.closed_eq hlt, hlower, hstop ▸ hlt, ?_⟩
    rw [if_neg hne, List.append_nil]
    exact hc.rows

/-- What is returned is the utilization of the device. -/
theorem finalize_spec (hi : 1 ≤ intervalNs) {events : List (Int × Bool)} {c : Counter Interval}
    (h : Counter.Tracks recorder intervalNs events c) {now : Int} (hnow : c.prevTimeNs ≤ now)
    (hfit : Counter.Fits intervalNs now) :
    ∃ c', finalizeUtilization intervalNs now c = .ok c' ∧
      Utilization (Counter.isOn events) intervalNs now c'.rows := by
  obtain ⟨k, c', hrun, -, hle, hlt, hrows⟩ := finalize_rows hi h hnow hfit
  refine ⟨c', hrun, ?_⟩
  have htiles := tiles_records (g := Counter.isOn events) hi k
  rw [hrows]
  unfold openInterval
  by_cases hne : now ≠ k * intervalNs
  · rw [if_pos hne]
    constructor
    · exact tiles_concat.2 ⟨htiles, lt_of_le_of_ne hle hne.symm, rfl⟩
    · intro j r hj hlast
      have hlt : j < k := by simpa using hlast
      rw [List.getElem?_append_left (by rwa [Counter.length_records])] at hj
      exact (mem_records (List.mem_of_getElem? hj)).1
    · intro r hr
      rcases List.mem_append.1 hr with hr | hr
      · exact le_of_eq (mem_records hr).1
      · rw [List.mem_singleton.1 hr]
        show now - k * intervalNs ≤ intervalNs
        omega
    · intro r hr
      rcases List.mem_append.1 hr with hr | hr
      · exact (mem_records hr).2
      · rw [List.mem_singleton.1 hr]
  · rw [if_neg hne, List.append_nil]
    rw [not_not] at hne
    constructor
    · rw [hne]
      exact htiles
    · intro j r hj _
      exact (mem_records (List.mem_of_getElem? hj)).1
    · intro r hr
      exact le_of_eq (mem_records hr).1
    · intro r hr
      exact (mem_records hr).2

/-- The intervals that are complete when a tracker is finalized. -/
theorem finalize_complete (hi : 1 ≤ intervalNs) {events : List (Int × Bool)} {c : Counter Interval}
    (h : Counter.Tracks recorder intervalNs events c) {now : Int} (hnow : c.prevTimeNs ≤ now)
    (hfit : Counter.Fits intervalNs now) :
    ∃ c', finalizeUtilization intervalNs now c = .ok c' ∧ ∀ k : Nat, (k : Int) < now / intervalNs →
      c'.rows[k]? = some ⟨k * intervalNs, (k + 1) * intervalNs,
        count (Counter.isOn events) (k * intervalNs) ((k + 1) * intervalNs)⟩ := by
  obtain ⟨m, c', hrun, hm, -, -, hrows⟩ := finalize_rows hi h hnow hfit
  refine ⟨c', hrun, ?_⟩
  intro k hk
  have hlt : k < m := by omega
  rw [hrows, List.getElem?_append_left (by rwa [Counter.length_records])]
  unfold Counter.records
  rw [List.getElem?_map, List.getElem?_range hlt]
  rfl

/-- The callbacks and finalizing end without a failed assertion, and the intervals tile the time until then with the
exact busy times. -/
def Exact (intervalNs now : Int) (events : List (Int × Bool)) : Prop :=
  ∃ c c', callbacks intervalNs events (Counter.init intervalNs) = .ok c ∧
    finalizeUtilization intervalNs now c = .ok c' ∧ Utilization (Counter.isOn events) intervalNs now c'.rows

/-- A run of transmissions of a device that is idle at time 0, and that fits into the clock, is measured exactly. -/
theorem exact_of_fits (hi : 1 ≤ intervalNs) (hlt : intervalNs < 2 ^ 63) {events : List (Int × Bool)} {now : Int}
    (halt : Counter.Alternating true events) (hs : events.Pairwise fun e f => e.1 ≤ f.1)
    (hnn : ∀ e ∈ events, 0 ≤ e.1 ∧ e.1 ≤ now) (hnow : 0 ≤ now) (hfit : Counter.Fits intervalNs now) :
    Exact intervalNs now events := by
  obtain ⟨c, hrun, htracks, hprev⟩ := Counter.Tracks.run hi hfit (@Counter.tracks_init _ recorder _ hi hlt) halt hnn hs
    hnow
  rw [List.nil_append] at htracks
  obtain ⟨c', hfin, hu⟩ := finalize_spec hi htracks hprev hfit
  exact ⟨c, c', by rw [callbacks_eq]; exact hrun, hfin, hu⟩

/-- For every interval length and every run of transmissions of a device that is idle at time 0: the utilization is
exact if and only if the end of the interval in which the tracker is finalized is an `int64_t`. -/
theorem finalizeUtilization_exact_iff (hi : 1 ≤ intervalNs) (hlt : intervalNs < 2 ^ 63) {events : List (Int × Bool)}
    {now : Int} (halt : Counter.Alternating true events) (hs : events.Pairwise fun e f => e.1 ≤ f.1)
    (hnn : ∀ e ∈ events, 0 ≤ e.1 ∧ e.1 ≤ now) (hnow : 0 ≤ now) :
    Exact intervalNs now events ↔ (now / intervalNs + 1) * intervalNs < 2 ^ 63 := by
  have hinit : Counter.Accounted intervalNs (Counter.init intervalNs : Counter Interval) :=
    Counter.accounted_init (by omega) hlt
  constructor
  · rintro ⟨c, c', hrun, hfin, -⟩
    rw [callbacks_eq] at hrun
    obtain ⟨hacc, hprev⟩ := hinit.trackAll hnn hs hnow hrun
    obtain ⟨c₁, hcall, -⟩ := bind_ok hfin
    obtain ⟨hacc₁, rfl, hend⟩ := hacc.returned hprev hcall
    exact hacc₁.fits_now hend
  · exact exact_of_fits hi hlt halt hs hnn hnow

/-- The next end of an interval of 2^62 ns is past the range when the first one is closed. -/
theorem finalizeUtilization_exact_counterexample : ¬ Exact (2 ^ 62) (2 ^ 62) [] := by
  rintro ⟨c, c', hrun, hfin, -⟩
  cases hrun
  have hover : finalizeUtilization (2 ^ 62) (2 ^ 62) (Counter.init (2 ^ 62)) = .error (.undefined "int64 overflow") := rfl
  rw [hover] at hfin
  cases hfin

/-- Transmissions on interval borders, an empty one, and one that goes on at the end. -/
theorem finalizeUtilization_exact_run :
    Exact 10 45 [(3, true), (10, false), (10, true), (10, false), (20, true), (37, false), (40, true)] :=
  Iff.mpr (finalizeUtilization_exact_iff (by decide) (by decide) ⟨rfl, rfl, rfl, rfl, rfl, rfl, rfl, trivial⟩ (by decide)
    (by decide) (by decide)) (by decide)

end PtopLinkUtilizationTracker

end SatNet.Track
