/-
The link properties of a topology configuration and `EstimateWorstCaseRtt`: the highest link delay, the lowest data
rate, the highest maximum queue size in bytes, from sizes that are `uint32_t`, and the delay of a hop, in `double`s.
-/
import SatNet.Base.Doubles
import SatNet.Ptop.EdgeMap

namespace SatNet.Ptop

open SatNet.Binary64 SatNet.ExpUtil SatNet.Loop

/-! ## Queues -/

inductive QueueSizeUnit where
  | packets
  | bytes
  deriving Repr, DecidableEq

structure QueueSize where
  unit : QueueSizeUnit
  value : UInt32
  deriving Repr, DecidableEq

/-- `TopologyPtopQueueSelectorDefault::ParseQueueValue`, where `queueSize` is the constructor of `QueueSize`. The
factory that is returned with the size makes drop-tail queues of it. -/
def parseQueueValue (queueSize : Str → Res QueueSize) (value : Str) : Res QueueSize :=
  -- First-in-first-out = drop-tail
  if startsWith value "drop_tail(".toList && endsWith value ")".toList then do
    let fifoMaxQueueSizeValue := (value.drop 10).take (value.length - 11)
    if !endsWith fifoMaxQueueSizeValue "p".toList && !endsWith fifoMaxQueueSizeValue "B".toList then
      .error (.runtimeError s!"Invalid maximum drop-tail queue size value: {String.ofList fifoMaxQueueSizeValue}")
    else do
      let _ ← parseGeqOneInt64 (fifoMaxQueueSizeValue.take (fifoMaxQueueSizeValue.length - 1))
      queueSize fifoMaxQueueSizeValue
  else .error (.runtimeError s!"Invalid queue value: {String.ofList value}")

/-! ## Link properties -/

/-- A `std::map` from links to what is set for them. -/
abbrev LinkMap (β : Type) := List (Edge × β)

/-- What the three properties have in common: one value for all links, or a mapping. -/
def parseLinkProperty {β : Type} (kind : EdgeKind) (links : Edge → List Edge) (parse : Str → Res β) (paramKey : String)
    (t : TopologyPtop) (config : Config) : Res (LinkMap β) := do
  let value ← getParamOrFail paramKey config
  if !startsWith (trim value) "map".toList then do
    let v ← parse value
    .ok (OrdSet.ofEntries edgeLt ((t.undirectedEdgesSet.flatMap links).map fun e => (e, v)))
  else do
    let mapping ← parseEdgeMap kind t.undirectedEdgesSet value
    forEach (fun m entry => do
      let v ← parse entry.2
      .ok (OrdSet.put edgeLt entry.1 v m)) mapping []

def parseLinkChannelDelayNsProperty : TopologyPtop → Config → Res (LinkMap Nat) :=
  parseLinkProperty undirected (fun p => [p]) parsePositiveInt64 "link_channel_delay_ns"

def parseLinkDeviceDataRateMegabitPerSecProperty (stod : Stod) : TopologyPtop → Config → Res (LinkMap Double) :=
  parseLinkProperty directed (fun p => [p, p.swap]) (parsePositiveDouble stod) "link_device_data_rate_megabit_per_s"

def parseLinkDeviceQueueProperty (queueSize : Str → Res QueueSize) : TopologyPtop → Config → Res (LinkMap QueueSize) :=
  parseLinkProperty directed (fun p => [p, p.swap]) (parseQueueValue queueSize) "link_device_queue"

/-- The mappings that `EstimateWorstCaseRtt` goes over. -/
structure LinkProperties where
  linkChannelDelayNs : LinkMap Nat
  linkDeviceDataRateMegabitPerS : LinkMap Double
  linkDeviceQueue : LinkMap QueueSize
  deriving Repr, DecidableEq

/-- The topology and the properties of its links that the configuration gives. -/
def parseTopology (stod : Stod) (queueSize : Str → Res QueueSize) (sim : BasicSimulation) (config : Config) :
    Res (TopologyPtop × LinkProperties) := do
  let t ← parseTopologyGraph sim config
  let linkChannelDelayNs ← parseLinkChannelDelayNsProperty t config
  let linkDeviceDataRateMegabitPerS ← parseLinkDeviceDataRateMegabitPerSecProperty stod t config
  let linkDeviceQueue ← parseLinkDeviceQueueProperty queueSize t config
  .ok (t, { linkChannelDelayNs, linkDeviceDataRateMegabitPerS, linkDeviceQueue })

/-! ## The estimate -/

/-- The size of a queue in the loop, as an `int64_t`; the arithmetic on it is that of `uint32_t`. -/
def queueSizeByte (a : QueueSize) : Int :=
  match a.unit with
  | .packets => ((a.value + 2) * 1502).toNat
  | .bytes => (a.value + 2 * 1502).toNat

/-- What the loops of the estimate find, the rate it divides by, and the delay of a hop; the estimate is that of at most
20 hops, as an `int64_t`. -/
structure RttEstimate where
  highestDelayNs : Int
  lowestDataRateMegabitPerS : Double
  highestMaxQueueSizeByte : Int
  dataRateBytePerNs : Double
  worstCasePerHopDelayNs : Double
  deriving Repr, DecidableEq

def estimateWorstCaseRtt (p : LinkProperties) : RttEstimate :=
  let highestDelayNs := p.linkChannelDelayNs.foldl (fun highest entry => max highest (entry.2 : Int)) 0
  let lowestDataRateMegabitPerS :=
    p.linkDeviceDataRateMegabitPerS.foldl (fun lowest entry => Double.min lowest entry.2) (Double.ofInt 1000000)
  let highestMaxQueueSizeByte := p.linkDeviceQueue.foldl (fun highest entry => max highest (queueSizeByte entry.2)) 0
  let dataRateBytePerNs := (lowestDataRateMegabitPerS.mul (.ofInt 125000)).div (.ofInt 1000000000)
  { highestDelayNs, lowestDataRateMegabitPerS, highestMaxQueueSizeByte, dataRateBytePerNs
    worstCasePerHopDelayNs :=
      ((Double.ofInt highestMaxQueueSizeByte).div dataRateBytePerNs).add (.ofInt highestDelayNs) }

/-! ## What it should bound -/

/-- The bytes of a full queue, with a packet in transmission and one in the queueing discipline. -/
def QueueSize.fullByte (a : QueueSize) : Int :=
  match a.unit with
  | .packets => (a.value.toNat + 2) * 1502
  | .bytes => a.value.toNat + 2 * 1502

/-- The bytes of a full queue fit into an `uint32_t`. -/
def QueueSize.Fits (a : QueueSize) : Prop :=
  match a.unit with
  | .packets => a.value.toNat ≤ 2859496
  | .bytes => a.value.toNat ≤ 4294964291

/-- `queues'` are `queues` with the queue of one link enlarged. -/
def Enlarged (queues queues' : LinkMap QueueSize) : Prop :=
  ∃ link size size', (link, size) ∈ queues ∧ size'.unit = size.unit ∧ size.value ≤ size'.value ∧
    queues' = queues.map fun entry => if entry = (link, size) then (link, size') else entry

/-- The largest rate, in Mbit/s, that is zero in bytes per nanosecond. -/
def lostDataRate : Double :=
  .finite ((4000 : ℤ) * 2 ^ (-1074 : ℤ)) (representable_zpow (by norm_num) le_rfl (by norm_num))

/-- The estimate bounds every queue, is not less than with any queue smaller, and the rate by which it divides is not
zero. -/
structure SoundEstimate (p : LinkProperties) : Prop where
  bound : ∀ entry ∈ p.linkDeviceQueue, entry.2.fullByte ≤ (estimateWorstCaseRtt p).highestMaxQueueSizeByte
  monotone : ∀ queues, Enlarged queues p.linkDeviceQueue →
    (estimateWorstCaseRtt { p with linkDeviceQueue := queues }).highestMaxQueueSizeByte ≤
      (estimateWorstCaseRtt p).highestMaxQueueSizeByte
  dataRate : (estimateWorstCaseRtt p).dataRateBytePerNs ≠ .zero

theorem fits_iff {a : QueueSize} : a.Fits ↔ a.fullByte < 2 ^ 32 := by
  unfold QueueSize.Fits QueueSize.fullByte
  cases a.unit <;> simp only <;> omega

/-- A size that fits is computed as it is. -/
theorem queueSizeByte_eq {a : QueueSize} (h : a.Fits) : queueSizeByte a = a.fullByte := by
  unfold QueueSize.Fits at h
  unfold queueSizeByte QueueSize.fullByte
  cases hu : a.unit with
  | packets =>
    simp only [hu] at h
    simp only [UInt32.toNat_mul, UInt32.toNat_add, UInt32.reduceToNat]
    omega
  | bytes =>
    simp only [hu] at h
    simp only [UInt32.toNat_add, UInt32.toNat_mul, UInt32.reduceToNat]
    omega

theorem queueSizeByte_lt (a : QueueSize) : 0 ≤ queueSizeByte a ∧ queueSizeByte a < 2 ^ 32 := by
  unfold queueSizeByte
  cases a.unit with
  | packets =>
    have := ((a.value + 2) * 1502).toNat_lt
    simp only
    omega
  | bytes =>
    have := (a.value + 2 * 1502).toNat_lt
    simp only
    omega

/-- The highest of the sizes. -/
theorem highest_le_iff {queues : LinkMap QueueSize} {highest c : Int} :
    queues.foldl (fun highest entry => max highest (queueSizeByte entry.2)) highest ≤ c ↔
      highest ≤ c ∧ ∀ entry ∈ queues, queueSizeByte entry.2 ≤ c := by
  induction queues generalizing highest with
  | nil => simp
  | cons entry queues ih =>
    rw [List.foldl_cons, ih, max_le_iff, List.forall_mem_cons, and_assoc]

/-- If all sizes fit, no queue is estimated lower than it is. -/
theorem bound_iff {p : LinkProperties} :
    (∀ entry ∈ p.linkDeviceQueue, entry.2.fullByte ≤ (estimateWorstCaseRtt p).highestMaxQueueSizeByte) ↔
      ∀ entry ∈ p.linkDeviceQueue, entry.2.Fits := by
  have hhighest := @highest_le_iff p.linkDeviceQueue 0 (estimateWorstCaseRtt p).highestMaxQueueSizeByte
  obtain ⟨-, hle⟩ := hhighest.1 le_rfl
  have hlt : (estimateWorstCaseRtt p).highestMaxQueueSizeByte ≤ 2 ^ 32 - 1 := by
    refine highest_le_iff.2 ⟨by decide, fun entry _ => ?_⟩
    have := queueSizeByte_lt entry.2
    omega
  constructor
  · intro h entry he
    have := h entry he
    exact fits_iff.2 (by omega)
  · intro h entry he
    rw [← queueSizeByte_eq (h entry he)]
    exact hle entry he

/-- Enlarging a queue to one that fits does not lower the estimate. -/
theorem monotone_of_fits {p : LinkProperties} (h : ∀ entry ∈ p.linkDeviceQueue, entry.2.Fits)
    {queues : LinkMap QueueSize} (hq : Enlarged queues p.linkDeviceQueue) :
    (estimateWorstCaseRtt { p with linkDeviceQueue := queues }).highestMaxQueueSizeByte ≤
      (estimateWorstCaseRtt p).highestMaxQueueSizeByte := by
  obtain ⟨h0, hle⟩ := (@highest_le_iff p.linkDeviceQueue 0 (estimateWorstCaseRtt p).highestMaxQueueSizeByte).1 le_rfl
  obtain ⟨link, size, size', hmem, hunit, hvalue, heq⟩ := hq
  refine highest_le_iff.2 ⟨h0, fun entry he => ?_⟩
  have hnew : (if entry = (link, size) then (link, size') else entry) ∈ p.linkDeviceQueue := by
    rw [heq]
    exact List.mem_map_of_mem he
  split at hnew
  · rename_i hentry
    have hfits := h _ hnew
    have hfull := hle _ hnew
    rw [queueSizeByte_eq hfits] at hfull
    have hlt : size.value.toNat ≤ size'.value.toNat := UInt32.le_iff_toNat_le.1 hvalue
    have hsmaller : size.fullByte ≤ size'.fullByte := by
      unfold QueueSize.fullByte
      rw [hunit]
      cases size.unit <;> simp only <;> omega
    rw [hentry, queueSizeByte_eq (fits_iff.2 (lt_of_le_of_lt hsmaller (fits_iff.1 hfits)))]
    exact hsmaller.trans hfull
  · exact hle entry hnew

/-- The lowest of the data rates is finite; those that are not numbers do not count. -/
theorem lowest_spec {rates : LinkMap Double} (h : ∀ entry ∈ rates, entry.2.lt .zero = false) {q : ℚ}
    (hq : Representable q) (h0 : 0 ≤ q) : ∃ r hr,
      rates.foldl (fun lowest entry => Double.min lowest entry.2) (Double.finite q hq) = .finite r hr ∧
      0 ≤ r ∧ r ≤ q ∧ ∀ l hl, l < r ↔ l < q ∧ ∀ entry ∈ rates, entry.2 ≠ .nan → (Double.finite l hl).lt entry.2 := by
  induction rates generalizing q with
  | nil => exact ⟨q, hq, rfl, h0, le_rfl, by simp⟩
  | cons entry rates ih =>
    obtain ⟨hentry, hrest⟩ := List.forall_mem_cons.1 h
    have ih := fun {q} hq h0 => @ih hrest q hq h0
    rw [List.foldl_cons]
    simp only [List.forall_mem_cons]
    generalize entry.2 = rate at hentry ⊢
    cases rate with
    | nan => simpa [Double.min, Double.lt] using ih hq h0
    | inf negative =>
      cases negative with
      | false => simpa [Double.min, Double.lt] using ih hq h0
      | true =>
        rw [Double.zero_eq] at hentry
        cases hentry
    | finite v hv =>
      have hv0 : 0 ≤ v := by simpa using hentry
      by_cases hlt : v < q
      · have hmin : Double.min (.finite q hq) (.finite v hv) = .finite v hv := if_pos (by simpa [Double.lt] using hlt)
        obtain ⟨r, hr, heq, hr0, hle, hiff⟩ := ih hv hv0
        refine ⟨r, hr, by rw [hmin, heq], hr0, hle.trans hlt.le, fun l hl => ?_⟩
        rw [hiff l hl]
        simp only [Double.lt, ne_eq, reduceCtorEq, not_false_eq_true, decide_eq_true_eq, forall_const]
        constructor
        · rintro ⟨hlv, hall⟩
          exact ⟨hlv.trans hlt, hlv, hall⟩
        · rintro ⟨-, hlv, hall⟩
          exact ⟨hlv, hall⟩
      · have hmin : Double.min (.finite q hq) (.finite v hv) = .finite q hq := if_neg (by simpa [Double.lt] using hlt)
        obtain ⟨r, hr, heq, hr0, hle, hiff⟩ := ih hq h0
        refine ⟨r, hr, by rw [hmin, heq], hr0, hle, fun l hl => ?_⟩
        rw [hiff l hl]
        simp only [Double.lt, ne_eq, reduceCtorEq, not_false_eq_true, decide_eq_true_eq, forall_const]
        constructor
        · rintro ⟨hlq, hall⟩
          exact ⟨hlq, hlq.trans_le (not_lt.1 hlt), hall⟩
        · rintro ⟨hlq, -, hall⟩
          exact ⟨hlq, hall⟩

/-- Rounding the product with 125000 does not lead past the number whose share of 10^9 is rounded to zero. -/
theorem lt_nearest_mul_iff {r : ℚ} (hr : OnGrid r) (h0 : 0 ≤ r) :
    (500000000 : ℤ) * 2 ^ (-1074 : ℤ) < nearest (r * 125000) ↔ (4000 : ℤ) * 2 ^ (-1074 : ℤ) < r := by
  have hleast : (0 : ℚ) < 2 ^ (-1074 : ℤ) := zpow_pos (by norm_num) _
  have hgrid : ∀ {m : ℤ}, |m| ≤ 2 ^ 53 → OnGrid (m * 2 ^ (-1074 : ℤ)) := fun hm => onGrid_zpow hm le_rfl
  have h₁ := @hgrid 500000000 (by norm_num)
  have h₂ := @hgrid 500125000 (by norm_num)
  rcases h0.eq_or_lt with rfl | hpos
  · rw [zero_mul, nearest_zero, Int.cast_ofNat, Int.cast_ofNat]
    exact ⟨fun h => by linarith, fun h => by linarith⟩
  rw [Int.cast_ofNat] at h₁ h₂ ⊢
  rw [Int.cast_ofNat]
  constructor
  · intro h
    by_contra hle
    have := h₁.nearest_le (x := r * 125000) (by positivity) (by linarith [not_lt.1 hle])
    linarith
  · -- the next rate is a whole multiple of the least number more
    intro h
    obtain ⟨k, rfl⟩ := hr.multiple_least
    have hk : (4000 : ℚ) < k := lt_of_mul_lt_mul_right h hleast.le
    have hk' : 4000 + 1 ≤ k := by exact_mod_cast hk
    have hkq : (4000 + 1 : ℚ) ≤ k := by exact_mod_cast hk'
    have := h₂.le_nearest (x := k * 2 ^ (-1074 : ℤ) * 125000) (by positivity) (by nlinarith)
    linarith

theorem bytePerNs_ne_zero_iff {r : ℚ} (hr : Representable r) (h0 : 0 ≤ r) (hle : r ≤ 1000000) :
    (((Double.finite r hr).mul (.ofInt 125000)).div (.ofInt 1000000000)) ≠ .zero ↔
      (4000 : ℤ) * 2 ^ (-1074 : ℤ) < r := by
  have hx0 : 0 ≤ r * 125000 := by positivity
  have hbig := representable_intCast (n := 125000000000) (by norm_num)
  obtain ⟨hx, hmul⟩ := Double.round_of_le hx0 hbig (by rw [Int.cast_ofNat]; linarith)
  have hn0 := nearest_nonneg hx0
  have hnle : nearest (r * 125000) ≤ (125000000000 : ℤ) := by
    rcases hx0.eq_or_lt with heq | hpos
    · rw [← heq, nearest_zero]
      norm_num
    · exact hbig.1.nearest_le hpos (by rw [Int.cast_ofNat]; linarith)
  rw [Int.cast_ofNat] at hnle
  obtain ⟨hy, hdiv⟩ := Double.round_of_le (x := nearest (r * 125000) / 1000000000) (by positivity) hbig
    (by rw [Int.cast_ofNat]; linarith)
  have hhalf : (2 : ℚ) ^ (-1075 : ℤ) * 1000000000 = (500000000 : ℤ) * 2 ^ (-1074 : ℤ) := by
    rw [show (-1075 : ℤ) = -1 + -1074 by norm_num, zpow_add₀ (by norm_num), zpow_neg_one, Int.cast_ofNat]
    ring
  rw [Double.ofInt_eq (n := 125000) (by norm_num) (by norm_num),
    Double.ofInt_eq (n := 1000000000) (by norm_num) (by norm_num)]
  simp only [Double.mul, Double.div, Int.cast_ofNat, hmul]
  rw [if_pos (by norm_num), hdiv, ne_eq, Double.finite_eq_zero_iff, nearest_eq_zero_iff (by positivity), not_le,
    lt_div_iff₀ (by norm_num), hhalf, lt_nearest_mul_iff hr.1 h0, Int.cast_ofNat]

/-- Every value of a property was parsed. -/
theorem parseLinkProperty_values {β : Type} {kind : EdgeKind} {links : Edge → List Edge} {parse : Str → Res β}
    {paramKey : String} {t : TopologyPtop} {config : Config} {m : LinkMap β}
    (h : parseLinkProperty kind links parse paramKey t config = .ok m) : ∀ entry ∈ m, ∃ str, parse str = .ok entry.2 := by
  obtain ⟨value, -, h⟩ := bind_ok h
  split at h
  · obtain ⟨v, hv, h⟩ := bind_ok h
    cases h
    refine OrdSet.of_mem_ofEntries (P := fun v => ∃ str, parse str = .ok v) fun p hp => ?_
    obtain ⟨e, -, rfl⟩ := List.mem_map.1 hp
    exact ⟨value, hv⟩
  · obtain ⟨mapping, -, h⟩ := bind_ok h
    refine forEach_pre _ (fun _ (m : LinkMap β) => ∀ entry ∈ m, ∃ str, parse str = .ok entry.2) ?_
      mapping [] [] m (List.forall_mem_nil _) h
    intro done m entry m' hm hrun x hx
    obtain ⟨v, hv, hrun⟩ := bind_ok hrun
    cases hrun
    rcases OrdSet.of_mem_put hx with hvalue | hx
    · exact ⟨entry.2, by rw [hvalue]; exact hv⟩
    · exact hm x hx

/-- `QueueSize(str)` without the multiples of bytes. -/
def plainQueueSize (str : Str) : Res QueueSize :=
  let value := decimal (str.takeWhile Char.isDigit)
  let unit := str.dropWhile Char.isDigit
  if (str.takeWhile Char.isDigit).isEmpty || 2 ^ 32 ≤ value then
    .error (.abort s!"Could not parse queue size: {String.ofList str}")
  else if unit = "p".toList then .ok ⟨.packets, UInt32.ofNat value⟩
  else if unit = "B".toList then .ok ⟨.bytes, UInt32.ofNat value⟩
  else .error (.abort s!"Could not parse queue size: {String.ofList str}")

/-- Two pairs of nodes with this data rate and this queue on all links. -/
def linkConfig (dataRate queue : String) : Config :=
  twoPairsConfig ++ [("link_channel_delay_ns".toList, "10000".toList),
    ("link_device_data_rate_megabit_per_s".toList, dataRate.toList), ("link_device_queue".toList, queue.toList)]

def linkProperties (dataRate : Double) (queue : QueueSize) : LinkProperties where
  linkChannelDelayNs := [((0, 1), 10000), ((2, 3), 10000)]
  linkDeviceDataRateMegabitPerS := [(0, 1), (1, 0), (2, 3), (3, 2)].map fun e => (e, dataRate)
  linkDeviceQueue := [(0, 1), (1, 0), (2, 3), (3, 2)].map fun e => (e, queue)

theorem parseTopology_100p : parseTopology wholeStod plainQueueSize ⟨false, []⟩
    (linkConfig "100" "drop_tail(100p)") = .ok (twoPairs, linkProperties (.ofInt 100) ⟨.packets, 100⟩) := by
  decide +kernel

end SatNet.Ptop
