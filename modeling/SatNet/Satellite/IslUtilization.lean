/-
The utilization of the ISLs: the settings that `Build` reads, the devices and their (from, to) pairs that `ReadISLs`
collects, and the rows that `CollectUtilizationStatistics` writes, in which equal values that follow one another are
one row, with six digits after the point.
-/
import SatNet.Base.Doubles
import SatNet.Device.Laser
import SatNet.Lib.RunLength
import SatNet.Satellite.Network
import SatNet.Track.Termination

namespace SatNet.Satellite

open SatNet.Binary64 SatNet.Loop SatNet.Device SatNet.ExpUtil SatNet.RunLength SatNet.Step SatNet.Track

/-! ## The length of an interval -/

/-- The utilization tracking settings of `Build`: the length of an interval, if tracking is enabled. -/
def utilizationTrackingSettings (config : Config) : Res (Option Nat) := do
  let enableIslUtilizationTracking ← getParamOrFail "enable_isl_utilization_tracking" config
  let enable ← parseBoolean enableIslUtilizationTracking
  if enable then do
    let islUtilizationTrackingIntervalNs ← getParamOrFail "isl_utilization_tracking_interval_ns" config
    let intervalNs ← parsePositiveInt64 islUtilizationTrackingIntervalNs
    .ok (some intervalNs)
  else .ok none

section Terminates

/-- The tracker of the point-to-point links takes its interval from a parser that refuses only the length zero of the
ones that are taken here. -/
theorem parseGeqOneInt64_iff {str : Str} {v : Nat} (h : parsePositiveInt64 str = .ok v) :
    parseGeqOneInt64 str = .ok v ↔ v ≠ 0 := by
  unfold parseGeqOneInt64
  rw [h, ok_bind]
  split
  · rename_i hv
    simp only [reduceCtorEq, ne_eq, false_iff, not_not]
    omega
  · rename_i hv
    simp only [true_iff]
    omega

theorem utilizationTrackingSettings_some {config : Config} {intervalNs : Nat}
    (h : utilizationTrackingSettings config = .ok (some intervalNs)) :
    ∃ text, getParamOrFail "isl_utilization_tracking_interval_ns" config = .ok text ∧
      parsePositiveInt64 text = .ok intervalNs ∧ (intervalNs : Int) < 2 ^ 63 := by
  obtain ⟨enabled, -, h⟩ := bind_ok h
  obtain ⟨enable, -, h⟩ := bind_ok h
  cases enable with
  | false => cases h
  | true =>
    obtain ⟨text, hget, h⟩ := bind_ok h
    obtain ⟨v, hparse, h⟩ := bind_ok h
    cases h
    exact ⟨text, hget, hparse, by exact_mod_cast parsePositiveInt64_lt hparse⟩

/-- For every interval that the topology accepts, in every state that the calls of `TrackUtilization` can reach and at
every later time: the loop of the next call ends, with an interval that ends after now, exactly if the interval is one
that `parse_geq_one_int64` accepts too. -/
theorem trackUtilization_terminates_iff {config : Config} {intervalNs : Nat}
    (h : utilizationTrackingSettings config = .ok (some intervalNs)) {now : Int} {c : Counter ℚ}
    (hr : Counter.Reached (PointToPointLaserNetDevice.recorder intervalNs) intervalNs now c) {t : Int} (hle : now ≤ t)
    (hlt : t < 2 ^ 62) (next : Bool) :
    c.Terminates (PointToPointLaserNetDevice.recorder intervalNs) intervalNs t next ↔
      (getParamOrFail "isl_utilization_tracking_interval_ns" config >>= parseGeqOneInt64) = .ok intervalNs := by
  obtain ⟨text, hget, hparse, hmax⟩ := utilizationTrackingSettings_some h
  rw [hr.terminates_iff (Int.natCast_nonneg _) hmax hle hlt next, hget, ok_bind, parseGeqOneInt64_iff hparse]
  omega

/-- Tracking with intervals of no length. -/
def zeroInterval : Config :=
  [("enable_isl_utilization_tracking".toList, "true".toList), ("isl_utilization_tracking_interval_ns".toList, "0".toList)]

/-- Tracking with intervals of a tenth of a second. -/
def tenthOfASecond : Config :=
  [("enable_isl_utilization_tracking".toList, "true".toList),
    ("isl_utilization_tracking_interval_ns".toList, "100000000".toList)]

theorem trackUtilization_terminates_counterexample : ∃ intervalNs : Nat,
    utilizationTrackingSettings zeroInterval = .ok (some intervalNs) ∧
    Counter.Reached (PointToPointLaserNetDevice.recorder intervalNs) intervalNs 0 (Counter.init intervalNs) ∧
    ¬ (Counter.init intervalNs).Terminates (PointToPointLaserNetDevice.recorder intervalNs) intervalNs 7 true := by
  refine ⟨0, by decide, .enabled, ?_⟩
  intro hterm
  exact (Counter.Reached.terminates_iff .enabled le_rfl (by decide) (by decide) (by decide) true).1 hterm rfl

theorem trackUtilization_terminates_tenthOfASecond :
    (Counter.init 100000000).Terminates (PointToPointLaserNetDevice.recorder 100000000) 100000000 7000000000 true :=
  (trackUtilization_terminates_iff (show utilizationTrackingSettings tenthOfASecond = .ok (some 100000000) by decide)
    .enabled (by decide) (by decide) true).2 (by decide)

end Terminates

/-! ## The devices -/

section ReadISLs

variable {M : Type}

/-- The network with the devices of the ISLs, `m_islNetDevices` and `m_islFromTo`. -/
structure IslNetwork (M : Type) where
  net : Network M
  islNetDevices : List End
  islFromTo : List (Nat × Nat)
  deriving Repr, DecidableEq

/-- One round of the loop of `ReadISLs`, with what it does for the utilization tracking. -/
def readTrackedISL (numSatellites : Nat) (enableIslUtilizationTracking : Bool) (st : IslNetwork M) (isl : Nat × Nat) :
    Res (IslNetwork M) := do
  satelliteAt numSatellites isl.1
  satelliteAt numSatellites isl.2
  let (net, devA, devB) ← installLaser st.net isl.1 isl.2
  let nodes ← Node.assign net.nodes [devA, devB]
  if enableIslUtilizationTracking then
    .ok ⟨{ net with nodes := nodes }, st.islNetDevices ++ [devA, devB], st.islFromTo ++ [isl, (isl.2, isl.1)]⟩
  else .ok { st with net := { net with nodes := nodes } }

/-- `ReadISLs` on the nodes of a network with `numSatellites` satellites. -/
def readTrackedISLs (numSatellites numGroundStations : Nat) (enableIslUtilizationTracking : Bool)
    (isls : List (Nat × Nat)) : Res (IslNetwork M) :=
  forEach (readTrackedISL numSatellites enableIslUtilizationTracking) isls
    ⟨installInternetStacks (numSatellites + numGroundStations), [], []⟩

/-- The device is on the node `fromTo.1`, and the other end of its channel on the node `fromTo.2`. -/
def Joins (net : Network M) (dev : End) (fromTo : Nat × Nat) : Prop :=
  ∃ ch ∈ net.lasers, ∃ other, ch.transmitStart dev = .ok other ∧ dev.1 = fromTo.1 ∧ other.1 = fromTo.2

/-- The two containers hold the devices of all channels and their pairs, in the same order. -/
structure Tracked (st : IslNetwork M) : Prop where
  devices : st.islNetDevices = st.net.lasers.flatMap (·.attached)
  fromTo : List.Forall₂ (Joins st.net) st.islNetDevices st.islFromTo

theorem readTrackedISL_net {numSatellites : Nat} {enable : Bool} {st st' : IslNetwork M} {isl : Nat × Nat}
    (h : readTrackedISL numSatellites enable st isl = .ok st') : readISL numSatellites st.net isl = .ok st'.net := by
  obtain ⟨⟨⟩, h₀, h⟩ := bind_ok h
  obtain ⟨⟨⟩, h₁, h⟩ := bind_ok h
  obtain ⟨⟨net, devA, devB⟩, hinst, h⟩ := bind_ok h
  obtain ⟨nodes, hassign, h⟩ := bind_ok h
  unfold readISL
  rw [h₀, ok_bind, h₁, ok_bind, hinst, ok_bind]
  simp only
  rw [hassign, ok_bind]
  cases enable <;> cases h <;> rfl

/-- One more ISL adds its two devices with a pair each. -/
theorem Tracked.step {numSatellites : Nat} {st st' : IslNetwork M} {isl : Nat × Nat} (h : Tracked st)
    (hrun : readTrackedISL numSatellites true st isl = .ok st') : Tracked st' := by
  obtain ⟨-, -, hrun⟩ := bind_ok hrun
  obtain ⟨-, -, hrun⟩ := bind_ok hrun
  obtain ⟨⟨net, devA, devB⟩, hinst, hrun⟩ := bind_ok hrun
  obtain ⟨nodes, -, hrun⟩ := bind_ok hrun
  cases hrun
  obtain ⟨⟨nodes₁, devA'⟩, hadd₀, hinst⟩ := bind_ok hinst
  obtain ⟨⟨nodes₂, devB'⟩, hadd₁, hinst⟩ := bind_ok hinst
  cases hinst
  obtain ⟨hu, ha₀⟩ := Node.addDevice_ok .loopback hadd₀
  obtain ⟨hv, ha₁⟩ := Node.addDevice_ok .loopback hadd₁
  have hne : devB ≠ devA := by
    rintro rfl
    have hfresh := ha₁.fresh
    rw [ha₀.device, if_pos rfl] at hfresh
    cases hfresh
  have hmem : (⟨[devA, devB]⟩ : PointToPointLaserChannel End) ∈ st.net.lasers ++ [⟨[devA, devB]⟩] := by simp
  constructor
  · show st.islNetDevices ++ [devA, devB] =
      (st.net.lasers ++ [(⟨[devA, devB]⟩ : PointToPointLaserChannel End)]).flatMap (·.attached)
    rw [h.devices, List.flatMap_append, List.flatMap_singleton]
  · refine List.rel_append (h.fromTo.imp ?_) (.cons ?_ (.cons ?_ .nil))
    · rintro dev fromTo ⟨ch, hch, hjoins⟩
      exact ⟨ch, List.mem_append_left _ hch, hjoins⟩
    · exact ⟨_, hmem, devB, by simp [PointToPointLaserChannel.transmitStart], hu, hv⟩
    · exact ⟨_, hmem, devA, by simp [PointToPointLaserChannel.transmitStart, hne], hv, hu⟩

/-- For every number and order of ISLs: every device is labelled with its own pair, and no device is there twice. -/
theorem readTrackedISLs_tracked [DecidableEq M] (addr : Addresses M) {numSatellites numGroundStations : Nat}
    {isls : List (Nat × Nat)} {st : IslNetwork M}
    (hrun : readTrackedISLs numSatellites numGroundStations true isls = .ok st) :
    Tracked st ∧ Built addr (numSatellites + numGroundStations) isls [] st.net := by
  have h := forEach_pre (readTrackedISL numSatellites true)
    (fun done (st : IslNetwork M) => Tracked st ∧ Built addr (numSatellites + numGroundStations) done [] st.net)
    (fun done st isl st' h hr => ⟨h.1.step hr, readISL_built h.2 (readTrackedISL_net hr)⟩) isls [] _ st
    ⟨⟨rfl, .nil⟩, built_init _⟩ hrun
  rwa [List.nil_append] at h

/-- The devices that are collected are those of the ISLs, each once. -/
theorem Tracked.isl_iff [DecidableEq M] {addr : Addresses M} {n : Nat} {isls : List (Nat × Nat)} {st : IslNetwork M}
    (h : Tracked st) (hb : Built addr n isls [] st.net) (e : End) :
    e ∈ st.islNetDevices ↔ ∃ k, Node.deviceAt st.net.nodes e = some (.laser k) := by
  rw [h.devices, List.mem_flatMap]
  constructor
  · rintro ⟨ch, hch, he⟩
    obtain ⟨k, hk⟩ := List.getElem?_of_mem hch
    exact ⟨k, (hb.laser e k).2 ⟨ch, hk, he⟩⟩
  · rintro ⟨k, hk⟩
    obtain ⟨ch, hch, he⟩ := (hb.laser e k).1 hk
    exact ⟨ch, List.mem_of_getElem? hch, he⟩

theorem Tracked.nodup [DecidableEq M] {addr : Addresses M} {n : Nat} {isls : List (Nat × Nat)} {st : IslNetwork M}
    (h : Tracked st) (hb : Built addr n isls [] st.net) : st.islNetDevices.Nodup := by
  rw [h.devices, List.nodup_flatMap]
  constructor
  · intro ch hch
    obtain ⟨k, hk⟩ := List.getElem?_of_mem hch
    obtain ⟨e₀, e₁, hatt, hne, -⟩ := hb.ends k ch hk
    simp [hatt, hne]
  · rw [List.pairwise_iff_getElem]
    intro i j hi hj hij e he he'
    have h₁ := (hb.laser e i).2 ⟨_, List.getElem?_eq_getElem hi, he⟩
    rw [(hb.laser e j).2 ⟨_, List.getElem?_eq_getElem hj, he'⟩] at h₁
    cases h₁
    exact absurd hij (lt_irrefl _)

end ReadISLs

/-! ## The rows -/

section Collect

variable {M V : Type}

/-- What `TrackUtilization` adds to `m_utilization`: the busy share of the interval, as a `double`. -/
def utilizationRecorder (intervalNs : Int) : Recorder Double where
  record _ _ busy := (Double.ofInt busy).div (.ofInt intervalNs)
  mismatch := (PointToPointLaserNetDevice.recorder intervalNs).mismatch

/-- The loop over the elements of `utilization`: its index, the left side of the open row, and the rows written. -/
structure RowWriter where
  j : Nat
  intervalLeftSideNs : Int
  rows : List (Row Int Double)
  deriving Repr, DecidableEq

/-- One round of that loop. The product is of an unsigned and a signed number of 64 bits, so it is modulo 2^64. -/
def writeUtilization (intervalNs : Int) (st : RowWriter) (x : Double) (rest : List Double) : Res RowWriter :=
  if closes (fun x y => !x.eq y) x rest then
    let right := toInt64 ((st.j + 1) * intervalNs)
    .ok ⟨st.j + 1, right, st.rows ++ [⟨st.intervalLeftSideNs, right, x⟩]⟩
  else .ok { st with j := st.j + 1 }

/-- A line of the file, which has its value as text. -/
structure UtilizationLine where
  src : Nat
  dst : Nat
  row : Row Int Str
  deriving Repr, DecidableEq

def utilizationLine (srcDst : Nat × Nat) (row : Row Int Double) : UtilizationLine :=
  ⟨srcDst.1, srcDst.2, ⟨row.left, row.right, formatF row.value⟩⟩

/-- One round of the loop over the devices, at time `now`: the counters and the lines so far. -/
def collectDevice (intervalNs : Int) (fuel : Nat) (now : Int) (st : IslNetwork M) (i : Nat)
    (s : (End → Counter Double) × List UtilizationLine) : Res ((End → Counter Double) × List UtilizationLine) := do
  let dev ← index st.islNetDevices i
  let c ← (s.1 dev).finalizeUtilization64 (utilizationRecorder intervalNs) intervalNs fuel now
  let srcDst ← index st.islFromTo i
  let w ← lookahead (writeUtilization intervalNs) c.rows ⟨0, 0, []⟩
  .ok (fun e => if e = dev then c else s.1 e, s.2 ++ w.rows.map (utilizationLine srcDst))

/-- `CollectUtilizationStatistics` at time `now`, when the devices have the counters `counters`: the counters that it
leaves and the lines of the file. -/
def collectUtilizationStatistics (enableIslUtilizationTracking : Bool) (intervalNs : Int) (fuel : Nat) (now : Int)
    (st : IslNetwork M) (counters : End → Counter Double) : Res ((End → Counter Double) × List UtilizationLine) :=
  if enableIslUtilizationTracking then
    forRange st.islNetDevices.length (collectDevice intervalNs fuel now st) (counters, [])
  else .ok (counters, [])

/-- The elements that the rows stand for, one for each interval. -/
def expand (intervalNs : Int) (rows : List (Row Int V)) : List V :=
  rows.flatMap fun r => List.replicate ((r.right - r.left) / intervalNs).toNat r.value

/-- The rows are a run-length code of the list, with values compared as `double`s are. -/
structure RunLengthCode (intervalNs : Int) (l : List Double) (rows : List (Row Int Double)) : Prop where
  tiles : Tiles rows 0 (l.length * intervalNs)
  whole : ∀ r ∈ rows, ∃ n : Nat, r.right - r.left = n * intervalNs
  changing : rows.IsChain fun r s => r.value.eq s.value = false
  expand : expand intervalNs rows = l

/-- A run without a change holds one value. -/
theorem eq_replicate_of_isChain : ∀ {g : List V} {v : V}, g.IsChain (· = ·) → g.getLast? = some v →
    g = List.replicate g.length v
  | [x], v, _, hv => by
    cases hv
    rfl
  | x :: y :: g, v, hc, hv => by
    obtain ⟨rfl, hc⟩ := List.isChain_cons_cons.1 hc
    rw [List.getLast?_cons_cons] at hv
    have ih := eq_replicate_of_isChain hc hv
    have hx : x = v := List.eq_of_mem_replicate (ih ▸ List.mem_cons_self ..)
    rw [List.length_cons, List.replicate_succ, ← ih, hx]

theorem eq_of_isChain {g : List V} {v : V} (hc : g.IsChain (· = ·)) (hv : g.getLast? = some v) : ∀ x ∈ g, x = v := by
  rw [eq_replicate_of_isChain hc hv]
  intro x
  exact List.eq_of_mem_replicate

/-- A row for a run: as long as it, with the value that it ends with. -/
def RowOf (intervalNs : Int) (r : Row Int V) (g : List V) : Prop :=
  r.right - r.left = g.length * intervalNs ∧ g.getLast? = some r.value

/-- The loop has written a row for each closed run. -/
structure RowsWritten (intervalNs : Int) (closed : List (List Double)) (pre : List Double) (st : RowWriter) : Prop where
  j : st.j = closed.flatten.length + pre.length
  left : st.intervalLeftSideNs = closed.flatten.length * intervalNs
  tiles : Tiles st.rows 0 st.intervalLeftSideNs
  rows : List.Forall₂ (RowOf intervalNs) st.rows closed

variable {intervalNs : Int} {l pre rest : List Double} {closed : List (List Double)} {x : Double} {st : RowWriter}

theorem RowsWritten.round (h : RowsWritten intervalNs closed pre st) (hi : 0 < intervalNs)
    (hlen : l.length * intervalNs < 2 ^ 63) (hall : closed.flatten ++ (pre ++ x :: rest) = l) :
    ∃ st', writeUtilization intervalNs st x rest = .ok st' ∧
      if closes (fun x y => !x.eq y) x rest then RowsWritten intervalNs (closed ++ [pre ++ [x]]) [] st'
      else RowsWritten intervalNs closed (pre ++ [x]) st' := by
  unfold writeUtilization
  by_cases hc : closes (fun x y => !x.eq y) x rest = true
  · rw [if_pos hc]
    refine ⟨_, rfl, ?_⟩
    rw [if_pos hc]
    have hj : st.j + 1 = closed.flatten.length + (pre ++ [x]).length := by
      rw [h.j, List.length_append, List.length_singleton, add_assoc]
    have hle : ((st.j : Int) + 1) * intervalNs ≤ l.length * intervalNs := by
      refine mul_le_mul_of_nonneg_right ?_ hi.le
      rw [← hall, List.length_append, List.length_append, List.length_cons, h.j]
      push_cast
      omega
    have hright : toInt64 (((st.j : Int) + 1) * intervalNs) =
        closed.flatten.length * intervalNs + (pre ++ [x]).length * intervalNs := by
      rw [toInt64_eq (by nlinarith) (by omega), ← add_mul]
      exact_mod_cast congrArg (fun k : Nat => (k : Int) * intervalNs) hj
    have hpos : 0 < ((pre ++ [x]).length : Int) * intervalNs := by
      refine mul_pos ?_ hi
      rw [List.length_append, List.length_singleton]
      omega
    constructor
    · simpa using hj
    · simp only [hright, List.flatten_append, List.flatten_singleton]
      rw [← add_mul, ← Nat.cast_add, ← List.length_append]
    · refine tiles_concat.2 ⟨h.tiles, ?_, rfl⟩
      simp only [hright, h.left]
      omega
    · refine List.rel_append h.rows (.cons ⟨?_, List.getLast?_concat⟩ .nil)
      simp only [hright, h.left]
      omega
  · rw [if_neg hc]
    refine ⟨_, rfl, ?_⟩
    rw [if_neg hc]
    refine ⟨?_, h.left, h.tiles, h.rows⟩
    show st.j + 1 = _
    rw [h.j, List.length_append, List.length_singleton, add_assoc]

/-- Rows of runs that differ from one another are changing. -/
theorem changing_of_rows : ∀ {rows : List (Row Int Double)} {gs : List (List Double)},
    List.Forall₂ (RowOf intervalNs) rows gs → (∀ g ∈ gs, g.IsChain (· = ·)) →
    gs.IsChain (fun g h => ∃ hg hh, (g.getLast hg).eq (h.head hh) = false) →
    rows.IsChain fun r s => r.value.eq s.value = false
  | [], _, _, _, _ => .nil
  | [r], _, _, _, _ => List.isChain_singleton r
  | r :: s :: rows, g :: h :: gs, .cons hr (.cons hs hrest), hc, hd => by
    obtain ⟨⟨hg, hh, hne⟩, hd'⟩ := List.isChain_cons_cons.1 hd
    refine List.isChain_cons_cons.2 ⟨?_, changing_of_rows (.cons hs hrest) (fun k hk => hc k (List.mem_cons_of_mem _ hk))
      hd'⟩
    have hlast := hr.2
    rw [List.getLast?_eq_getLast_of_ne_nil hg] at hlast
    have hhead : h.head hh = s.value := eq_of_isChain (hc h (by simp)) hs.2 _ (List.head_mem hh)
    rw [Option.some.inj hlast, hhead] at hne
    exact hne

/-- Expanding the rows of runs gives the runs. -/
theorem expand_rows (hi : 0 < intervalNs) {rows : List (Row Int V)} {gs : List (List V)}
    (h : List.Forall₂ (RowOf intervalNs) rows gs) (hc : ∀ g ∈ gs, g.IsChain (· = ·)) :
    expand intervalNs rows = gs.flatten := by
  induction h with
  | nil => rfl
  | @cons r g rows gs hr hrest ih =>
    unfold expand at ih ⊢
    rw [List.flatMap_cons, List.flatten_cons, ih fun k hk => hc k (List.mem_cons_of_mem _ hk), hr.1,
      Int.mul_ediv_cancel _ hi.ne', Int.toNat_natCast, ← eq_replicate_of_isChain (hc g (by simp)) hr.2]

/-- The rows that are written for a device are a run-length code of its list. -/
theorem writeUtilization_runLengthCode (hi : 0 < intervalNs) (hlen : l.length * intervalNs < 2 ^ 63) :
    ∃ w, lookahead (writeUtilization intervalNs) l ⟨0, 0, []⟩ = .ok w ∧ RunLengthCode intervalNs l w.rows := by
  obtain ⟨w, hrun, hw⟩ := lookahead_runs (fun x y => !x.eq y) (writeUtilization intervalNs) (RowsWritten intervalNs) l
    (fun closed pre x rest s hall h => h.round hi hlen hall)
    (s := ⟨0, 0, []⟩) ⟨rfl, by simp, rfl, .nil⟩
  obtain ⟨hflat, -, hinside, hbetween⟩ := runs_eq_iff.1 (rfl : runs (fun x y : Double => !x.eq y) l = runs _ l)
  have hc : ∀ g ∈ runs (fun x y : Double => !x.eq y) l, g.IsChain (· = ·) := fun g hg =>
    (hinside g hg).imp fun x y h => Double.eq_of_eq (by simpa using h)
  refine ⟨w, hrun, ?_, ?_, ?_, ?_⟩
  · have htiles := hw.tiles
    rwa [hw.left, ← hflat] at htiles
  · intro r hr
    obtain ⟨g, -, hg⟩ := forall₂_mem_left hw.rows r hr
    exact ⟨g.length, hg.1⟩
  · refine changing_of_rows hw.rows hc (hbetween.imp ?_)
    rintro g h ⟨hg, hh, hcut⟩
    exact ⟨hg, hh, by simpa using hcut⟩
  · rw [expand_rows hi hw.rows hc, ← hflat]

/-- What is written for a device: rows that are a run-length code of its list, under its own pair, with the text of
their values. -/
structure DeviceWritten (intervalNs : Int) (net : Network M) (finalized : End → Counter Double) (dev : End)
    (lines : List UtilizationLine) : Prop where
  code : ∃ srcDst rows, lines = rows.map (utilizationLine srcDst) ∧ Joins net dev srcDst ∧
    RunLengthCode intervalNs (finalized dev).rows rows
  tiles : Tiles (lines.map (·.row)) 0 ((finalized dev).rows.length * intervalNs)
  expand : expand intervalNs (lines.map (·.row)) = (finalized dev).rows.map formatF

/-- Their text takes nothing from the rows but the digits of their values. -/
theorem RunLengthCode.deviceWritten {net : Network M} {finalized : End → Counter Double} {dev : End} {srcDst : Nat × Nat}
    {rows : List (Row Int Double)} (h : RunLengthCode intervalNs (finalized dev).rows rows) (hj : Joins net dev srcDst) :
    DeviceWritten intervalNs net finalized dev (rows.map (utilizationLine srcDst)) := by
  refine ⟨⟨srcDst, rows, rfl, hj, h⟩, ?_, ?_⟩
  · rw [List.map_map]
    exact (tiles_mapValue formatF).2 h.tiles
  · rw [← h.expand]
    unfold Satellite.expand
    simp only [List.flatMap_map, List.map_flatMap, List.map_replicate]
    rfl

/-- The loop over the devices: those before index `i` are finalized, and their lines are written. -/
structure Collected (intervalNs : Int) (st : IslNetwork M) (counters finalized : End → Counter Double) (i : Nat)
    (s : (End → Counter Double) × List UtilizationLine) : Prop where
  counters : ∀ e, s.1 e = if e ∈ st.islNetDevices.take i then finalized e else counters e
  lines : ∃ blocks, s.2 = blocks.flatten ∧
    List.Forall₂ (DeviceWritten intervalNs st.net finalized) (st.islNetDevices.take i) blocks

/-- One more device, which has not been finalized before. -/
theorem Collected.round {st : IslNetwork M} {counters finalized : End → Counter Double} {i : Nat}
    {s : (End → Counter Double) × List UtilizationLine} (h : Collected intervalNs st counters finalized i s)
    (hnodup : st.islNetDevices.Nodup) {fuel : Nat} {now : Int} {dev : End}
    (hdev : st.islNetDevices[i]? = some dev) {srcDst : Nat × Nat} (hsrcDst : st.islFromTo[i]? = some srcDst)
    (hjoins : Joins st.net dev srcDst)
    (hfin : (counters dev).finalizeUtilization64 (utilizationRecorder intervalNs) intervalNs fuel now =
      .ok (finalized dev)) (hi : 0 < intervalNs)
    (hlen : (finalized dev).rows.length * intervalNs < 2 ^ 63) :
    ∃ s', collectDevice intervalNs fuel now st i s = .ok s' ∧
      Collected intervalNs st counters finalized (i + 1) s' := by
  obtain ⟨w, hw, hcode⟩ := writeUtilization_runLengthCode hi hlen
  have hfresh : dev ∉ st.islNetDevices.take i := by
    intro hin
    obtain ⟨k, hk⟩ := List.getElem?_of_mem hin
    rw [List.getElem?_take] at hk
    split at hk
    · rename_i hki
      have hlt := (List.getElem?_eq_some_iff.1 hk).1
      exact hki.ne ((List.getElem?_inj hlt hnodup).1 (hk.trans hdev.symm))
    · cases hk
  have htake : st.islNetDevices.take (i + 1) = st.islNetDevices.take i ++ [dev] := by
    rw [List.take_add_one, hdev, Option.toList_some]
  obtain ⟨blocks, hlines, hblocks⟩ := h.lines
  unfold collectDevice
  rw [index_ok.2 hdev, ok_bind, h.counters dev, if_neg hfresh, hfin, ok_bind, index_ok.2 hsrcDst, ok_bind, hw, ok_bind]
  refine ⟨_, rfl, ?_, blocks ++ [w.rows.map (utilizationLine srcDst)], ?_, ?_⟩
  · intro e
    simp only [htake, List.mem_append, List.mem_singleton, h.counters e]
    by_cases he : e = dev
    · simp [he]
    · simp [he]
  · rw [hlines, List.flatten_append, List.flatten_singleton]
  · rw [htake]
    exact List.rel_append hblocks (.cons (hcode.deviceWritten hjoins) .nil)

/-- For every number and order of ISLs, and every list that finalizing the devices returns, at any time after any calls
of `TrackUtilization`: the lines of the file are those of the devices, one after the other; those of a device are a
run-length code of its list, printed, and are labelled with its own pair. The devices are all those of the ISLs, each
once. -/
theorem collectUtilizationStatistics_printed [DecidableEq M] (addr : Addresses M)
    {numSatellites numGroundStations : Nat} {isls : List (Nat × Nat)} {st : IslNetwork M}
    (hread : readTrackedISLs numSatellites numGroundStations true isls = .ok st) (hi : 0 ≤ intervalNs)
    (hmax : intervalNs < 2 ^ 63) {now : Int} (hnow : now < 2 ^ 63) {fuel : Nat}
    {counters finalized : End → Counter Double}
    (hreached : ∀ e ∈ st.islNetDevices,
      ∃ last ≤ now, Counter.Reached (utilizationRecorder intervalNs) intervalNs last (counters e))
    (hfin : ∀ e ∈ st.islNetDevices,
      (counters e).finalizeUtilization64 (utilizationRecorder intervalNs) intervalNs fuel now = .ok (finalized e)) :
    (∃ counters' blocks, collectUtilizationStatistics true intervalNs fuel now st counters =
        .ok (counters', blocks.flatten) ∧
      List.Forall₂ (DeviceWritten intervalNs st.net finalized) st.islNetDevices blocks) ∧
    st.islNetDevices.Nodup ∧ ∀ e, e ∈ st.islNetDevices ↔ ∃ k, Node.deviceAt st.net.nodes e = some (.laser k) := by
  obtain ⟨htracked, hbuilt⟩ := readTrackedISLs_tracked addr hread
  have hnodup := htracked.nodup hbuilt
  refine ⟨?_, hnodup, htracked.isl_iff hbuilt⟩
  have hround : ∀ i < st.islNetDevices.length, ∀ s, Collected intervalNs st counters finalized i s →
      ∃ s', collectDevice intervalNs fuel now st i s = .ok s' ∧
        Collected intervalNs st counters finalized (i + 1) s' := by
    intro i hlt s h
    have hdev := List.getElem?_eq_getElem hlt
    have hmem := List.getElem_mem hlt
    obtain ⟨srcDst, hsrcDst, hjoins⟩ := forall₂_getElem? htracked.fromTo.flip hdev
    obtain ⟨last, hlast, hr⟩ := hreached _ hmem
    have hdone := hfin _ hmem
    obtain ⟨hpos, hlen⟩ := hr.returned hi hmax hlast hdone
    exact h.round hnodup hdev hsrcDst hjoins hdone hpos (by omega)
  obtain ⟨⟨counters', lines⟩, hrun, -, blocks, hlines, hblocks⟩ := forRange_inv
    (Collected intervalNs st counters finalized) (collectDevice intervalNs fuel now st) st.islNetDevices.length
    (counters, []) ⟨fun e => by simp, [], rfl, by simp⟩ hround
  rw [List.take_length] at hblocks
  refine ⟨counters', blocks, ?_, hblocks⟩
  unfold collectUtilizationStatistics
  rw [if_pos rfl, hrun]
  exact congrArg (fun lines => Except.ok (counters', lines)) hlines

/-- The share of an interval of 10 ns that was busy for `busy` ns, as the device records it. -/
def shareOfTen (busy : Int) : Double := (utilizationRecorder 10).record 0 10 busy

/-- Two satellites with an ISL to a third one, and the device of the first of them busy in the first of three
intervals. -/
theorem collectUtilizationStatistics_printed_star : ∃ st : IslNetwork End,
    readTrackedISLs 3 1 true [(0, 2), (1, 2)] = .ok st ∧
    ∃ counters' blocks, collectUtilizationStatistics true 10 4 35 st
        (fun e => if e = (0, 1) then ⟨10, 10, 20, 0, 0, false, [shareOfTen 10]⟩ else Counter.init 10) =
          .ok (counters', blocks.flatten) ∧
      List.Forall₂ (DeviceWritten 10 st.net fun e => if e = (0, 1) then
        ⟨35, 30, 40, 5, 0, true, [shareOfTen 10, shareOfTen 0, shareOfTen 0]⟩
        else ⟨35, 30, 40, 5, 0, true, [shareOfTen 0, shareOfTen 0, shareOfTen 0]⟩) st.islNetDevices blocks := by
  obtain ⟨st, hread⟩ := ok_of_isOk (x := (readTrackedISLs 3 1 true [(0, 2), (1, 2)] : Res (IslNetwork End))) rfl
  refine ⟨st, hread, ?_⟩
  refine (collectUtilizationStatistics_printed pairAddresses hread (by decide) (by decide) (by decide) (fun e _ => ?_)
    fun e _ => ?_).1
  · by_cases he : e = (0, 1)
    · have hon : Counter.Reached (utilizationRecorder 10) 10 0 ⟨0, 0, 10, 0, 0, true, []⟩ :=
        .call 0 true 4 .enabled (by decide) (by decide) rfl
      rw [if_pos he]
      exact ⟨10, by decide, .call 10 false 4 hon (by decide) (by decide) rfl⟩
    · rw [if_neg he]
      exact ⟨0, by decide, .enabled⟩
  · by_cases he : e = (0, 1)
    · rw [if_pos he, if_pos he]
      rfl
    · rw [if_neg he, if_neg he]
      rfl

/-- A device that was busy for the first 3333333 ns of an interval of 10 ms, and for the first 3333334 ns of the next
one. -/
def busyThirds : Counter Double where
  prevTimeNs := 13333334
  currentIntervalStart := 10000000
  currentIntervalEnd := 20000000
  idleTimeCounterNs := 0
  busyTimeCounterNs := 3333334
  currentStateIsOn := false
  rows := [(utilizationRecorder 10000000).record 0 10000000 3333333]

/-- Two values that differ, in two rows with the same text. -/
theorem collectUtilizationStatistics_counterexample : ∃ st : IslNetwork End,
    readTrackedISLs 2 0 true [(0, 1)] = .ok st ∧
    Counter.Reached (utilizationRecorder 10000000) 10000000 13333334 busyThirds ∧
    ∃ counters', collectUtilizationStatistics true 10000000 4 20000000 st
        (fun e => if e = (0, 1) then busyThirds else Counter.init 10000000) =
          .ok (counters', [⟨0, 1, ⟨0, 10000000, "0.333333".toList⟩⟩, ⟨0, 1, ⟨10000000, 20000000, "0.333333".toList⟩⟩,
            ⟨1, 0, ⟨0, 20000000, "0.000000".toList⟩⟩]) ∧
      ∃ x y, (counters' (0, 1)).rows = [x, y] ∧ x ≠ y := by
  have hreached : Counter.Reached (utilizationRecorder 10000000) 10000000 13333334 busyThirds := by
    have h₁ : Counter.Reached (utilizationRecorder 10000000) 10000000 0 ⟨0, 0, 10000000, 0, 0, true, []⟩ :=
      .call 0 true 1 .enabled (by decide) (by decide) rfl
    have h₂ : Counter.Reached (utilizationRecorder 10000000) 10000000 3333333
        ⟨3333333, 0, 10000000, 0, 3333333, false, []⟩ := .call 3333333 false 1 h₁ (by decide) (by decide) rfl
    have h₃ : Counter.Reached (utilizationRecorder 10000000) 10000000 10000000
        ⟨10000000, 10000000, 20000000, 0, 0, true, [(utilizationRecorder 10000000).record 0 10000000 3333333]⟩ :=
      .call 10000000 true 2 h₂ (by decide) (by decide) rfl
    exact .call 13333334 false 1 h₃ (by decide) (by decide) rfl
  have hrun : (do
      let st ← (readTrackedISLs 2 0 true [(0, 1)] : Res (IslNetwork End))
      let (counters', lines) ← collectUtilizationStatistics true 10000000 4 20000000 st
        (fun e => if e = (0, 1) then busyThirds else Counter.init 10000000)
      .ok ((counters' (0, 1)).rows, lines)) =
        .ok ([(utilizationRecorder 10000000).record 0 10000000 3333333,
            (utilizationRecorder 10000000).record 10000000 20000000 3333334],
          [⟨0, 1, ⟨0, 10000000, "0.333333".toList⟩⟩, ⟨0, 1, ⟨10000000, 20000000, "0.333333".toList⟩⟩,
            ⟨1, 0, ⟨0, 20000000, "0.000000".toList⟩⟩]) := by
    decide +kernel
  obtain ⟨st, hread, hrun⟩ := bind_ok hrun
  obtain ⟨⟨counters', lines⟩, hcollect, hrun⟩ := bind_ok hrun
  obtain ⟨hrows, rfl⟩ := Prod.mk.inj (Except.ok.inj hrun)
  exact ⟨st, hread, hreached, counters', hcollect, _, _, hrows, by decide +kernel⟩

end Collect

end SatNet.Satellite
