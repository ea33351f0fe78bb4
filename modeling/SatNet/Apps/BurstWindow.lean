/-
The window of a burst: the sum of its start and its duration, which the sending loop and the results each compute, and
what they decide with it. Both are right for every accepted entry exactly if that sum can be represented and the rate is
not so low that the time of the second packet cannot be.
-/
import SatNet.Apps.Endpoints
import SatNet.Apps.UdpBurstSchedule

namespace SatNet.Apps

open SatNet.Binary64 SatNet.Events SatNet.ExpUtil SatNet.Loop

variable {endNs : Nat}

/-! ## The two uses -/

/-- `effective_duration_ns` of `WriteResults`, for outgoing and for incoming bursts. -/
def UdpBurstInfo.effectiveDurationNs {ρ : Type} (info : UdpBurstInfo ρ) (simulationEndTimeNs : Nat) : Res Int := do
  let stop ← int64 (info.startTimeNs + info.durationNs)
  if stop ≥ simulationEndTimeNs then int64 (simulationEndTimeNs - info.startTimeNs) else .ok info.durationNs

/-- The times at which the sending loop of a burst makes a round, by its own decisions. -/
inductive SendsAt (endNs : Nat) (info : UdpBurstInfo Double) : Nat → Prop where
  | start : info.startTimeNs < endNs → SendsAt endNs info info.startTimeNs
  | next {now t : Nat} {packetGapNs : UInt64} : SendsAt endNs info now →
      packetGapNanoseconds info.targetRate = .ok packetGapNs → info.hasNext now packetGapNs.toNat = .ok true →
      scheduledTime now (toInt64 packetGapNs.toNat) = .ok t → t < endNs → SendsAt endNs info t

/-- The packets of the burst are sent, in every run of an application, at the times of its loop; in each round the packet
gap is an integer with which the loop decides as over the integers; and the results take the part of the burst that lies
within the simulation. -/
structure WindowExact (endNs : Nat) (info : UdpBurstInfo Double) : Prop where
  rounds : ∀ fuel app w, runBursts packetGapNanoseconds endNs fuel app = .ok w → ∀ p ∈ w.state.sent, ∀ target,
    app.outgoingBursts[p.internalBurstIdx]? = some (info, target) → SendsAt endNs info p.timeNs
  sends : ∀ now, SendsAt endNs info now → ∃ packetGapNs, packetGapNanoseconds info.targetRate = .ok packetGapNs ∧
    info.hasNext now packetGapNs.toNat = .ok (decide (now + packetGapNs.toNat < info.startTimeNs + info.durationNs))
  effective : info.effectiveDurationNs endNs = .ok (min (info.durationNs : Int) (endNs - info.startTimeNs))

/-! ## The sending loop in a run -/

/-- A packet that was sent, and when the next one is, by the decision of the loop. -/
theorem burstSendOut_next {k : Nat} {w w' : BurstSim Double} (h : burstSendOut packetGapNanoseconds k w = .ok w') :
    ∃ b d, w.state.app.outgoingBursts[k]? = some b ∧
      w'.state.app.outgoingBursts = w.state.app.outgoingBursts ∧ w'.state.sent = w.state.sent ++ [⟨w.now, k, d⟩] ∧
      (w'.agenda = w.agenda ∨ ∃ g t, packetGapNanoseconds b.1.targetRate = .ok g ∧
        b.1.hasNext w.now g.toNat = .ok true ∧ scheduledTime w.now (toInt64 g.toNat) = .ok t ∧
        w'.agenda = enqueue ⟨t, .burstSendOut k⟩ w.agenda) := by
  unfold burstSendOut at h
  obtain ⟨⟨app, d⟩, htr, h⟩ := bind_ok h
  have hbursts := (transmitFullPacket_ok htr).bursts
  obtain ⟨⟨info, target⟩, hb, h⟩ := bind_ok h
  obtain ⟨g, hg, h⟩ := bind_ok h
  obtain ⟨more, hmore, h⟩ := bind_ok h
  have hbk : w.state.app.outgoingBursts[k]? = some (info, target) := by
    rw [← hbursts]
    exact index_ok.1 hb
  refine ⟨(info, target), d, hbk, ?_⟩
  cases more with
  | false =>
    rw [if_neg Bool.false_ne_true] at h
    cases h
    exact ⟨hbursts, rfl, .inl rfl⟩
  | true =>
    rw [if_pos rfl, schedule_eq_scheduledTime] at h
    obtain ⟨t, ht, h⟩ := bind_ok h
    cases h
    exact ⟨hbursts, rfl, .inr ⟨g, t, hg, hmore, ht, rfl⟩⟩

/-- In every run: whatever is sent, or is to be sent before the end, is sent at a time of its loop. -/
structure SendsInTime (endNs : Nat) (bs : List (Outgoing Double)) (w : BurstSim Double) : Prop where
  bursts : w.state.app.outgoingBursts = bs
  sends : ∀ t k, ⟨t, .burstSendOut k⟩ ∈ w.agenda → ∀ b, bs[k]? = some b → t < endNs → SendsAt endNs b.1 t
  sent : ∀ p ∈ w.state.sent, ∀ b, bs[p.internalBurstIdx]? = some b → SendsAt endNs b.1 p.timeNs

variable {bs : List (Outgoing Double)} {w w' : BurstSim Double}

/-- A packet that is sent at a time of its loop leaves the next one at the next time. -/
theorem SendsInTime.burstSendOut {k : Nat} (hw : SendsInTime endNs bs w)
    (hnow : ∀ b, bs[k]? = some b → SendsAt endNs b.1 w.now) (h : burstSendOut packetGapNanoseconds k w = .ok w') :
    SendsInTime endNs bs w' := by
  obtain ⟨b, d, hbk, hbursts, hsent, ha⟩ := burstSendOut_next h
  rw [hw.bursts] at hbk hbursts
  refine ⟨hbursts, ?_, ?_⟩
  · intro t j hq b' hbj hlt
    rcases ha with ha | ⟨g, t', hg, hmore, ht, ha⟩
    · rw [ha] at hq
      exact hw.sends t j hq b' hbj hlt
    · rw [ha, mem_enqueue] at hq
      rcases hq with hq | hq
      · cases hq
        cases hbk.symm.trans hbj
        exact .next (hnow b hbk) hg hmore ht hlt
      · exact hw.sends t j hq b' hbj hlt
  · rw [hsent]
    intro p hp
    rcases List.mem_append.1 hp with hp | hp
    · exact hw.sent p hp
    · rw [List.mem_singleton.1 hp]
      exact hnow

/-- Other events on the agenda. -/
theorem SendsInTime.schedule {delay : Int} {e : BurstEvent} (hw : SendsInTime endNs bs w)
    (he : ∀ k, e ≠ .burstSendOut k) (h : schedule delay e w = .ok w') : SendsInTime endNs bs w' := by
  obtain ⟨t, -, -, rfl⟩ := schedule_ok h
  refine ⟨hw.bursts, fun t' k hq => hw.sends t' k ?_, hw.sent⟩
  rcases mem_enqueue.1 hq with hq | hq
  · cases hq
    exact absurd rfl (he k)
  · exact hq

/-- The first packet of a burst is sent when it starts, the others when the loop decides. -/
theorem SendsInTime.handle {p : Pending BurstEvent} {l : List (Pending BurstEvent)} (hw : SendsInTime endNs bs w)
    (hp : w.agenda = p :: l) (ht : p.time < endNs)
    (h : handleBurstEvent packetGapNanoseconds p.event { w with now := p.time, agenda := l } = .ok w') :
    SendsInTime endNs bs w' := by
  obtain ⟨t, e⟩ := p
  have hl : SendsInTime endNs bs { w with now := t, agenda := l } :=
    ⟨hw.bursts, fun t k hq => hw.sends t k (by rw [hp]; exact List.mem_cons_of_mem _ hq), hw.sent⟩
  cases e with
  | startApplication =>
    simp only [handleBurstEvent, startBurstApplication] at h
    have hl' : SendsInTime endNs bs
        { w with now := t, agenda := l, state := { w.state with app := { w.state.app with socket := true } } } :=
      ⟨hl.bursts, hl.sends, hl.sent⟩
    split at h
    · exact hl'.schedule (fun _ he => by cases he) h
    · cases h
      exact hl'
  | burstSendOut k =>
    exact hl.burstSendOut (fun b hb => hw.sends t k (by rw [hp]; exact List.mem_cons_self ..) b hb ht) h
  | startNextBurst =>
    simp only [handleBurstEvent, startNextBurst] at h
    split at h
    · cases h
    · rename_i info target hbk
      split at h
      · cases h
      · rename_i hnow
        obtain ⟨w₁, h₁, h⟩ := bind_ok h
        have hfirst := hl.burstSendOut (fun b hb => ?_) h₁
        · have h₂ : SendsInTime endNs bs { w₁ with state := { w₁.state with
              app := { w₁.state.app with nextInternalBurstIdx := w₁.state.app.nextInternalBurstIdx + 1 } } } :=
            ⟨hfirst.bursts, hfirst.sends, hfirst.sent⟩
          split at h
          · exact h₂.schedule (fun _ he => by cases he) h
          · cases h
            exact h₂
        · rw [← hw.bursts, hbk, Option.some.injEq] at hb
          subst hb
          have hstart : info.startTimeNs = t := not_not.1 hnow
          exact hstart ▸ .start (hstart ▸ ht)

/-- Every packet of a run is sent at a time of the loop of its burst. -/
theorem runBursts_sendsAt {fuel : Nat} {app : UdpBurstApplication Double}
    (h : runBursts packetGapNanoseconds endNs fuel app = .ok w) : SendsInTime endNs app.outgoingBursts w := by
  refine (run_keeps Fail.diverges (handleBurstEvent packetGapNanoseconds) endNs (SendsInTime endNs app.outgoingBursts)
    (fun _ _ _ _ hw hp ht h => hw.handle hp ht h) ⟨rfl, ?_, ?_⟩ h).1
  · simp [burstSim]
  · simp [burstSim]

/-! ## The packet gap -/

/-- A rate up to this one, in Mbit/s, has a packet gap that leads from the start of the burst out of the `uint64_t`: it
is 12000000 / (2^64 - start), but for the rounding of both divisions. -/
def wrapRate (startTimeNs : Nat) : ℚ := 8000 * boundary (1500 / boundary (2 ^ 64 - 1 - startTimeNs))

/-- The gap to be represented is the second quotient, which is rounded. -/
theorem doubleToUInt64_div_iff {y : ℚ} (hy : Representable y) (h0 : 0 ≤ y) {startTimeNs : Nat}
    (hstart : startTimeNs < 2 ^ 64) :
    (∃ g, doubleToUInt64 ((Double.ofInt 1500).div (.finite y hy)).ceil = .ok g ∧ startTimeNs + g.toNat < 2 ^ 64) ↔
      0 < y ∧ nearest (1500 / y) ≤ 2 ^ 64 - 1 - startTimeNs := by
  rw [Double.ofInt_eq (n := 1500) (by norm_num) (by norm_num)]
  rcases h0.eq_or_lt with rfl | hpos
  · simp [Double.div, Double.ceil, Double.trunc, doubleToUInt64]
  have hx0 : (0 : ℚ) ≤ 1500 / y := by positivity
  rw [Double.div_finite hpos.ne', Int.cast_ofNat, and_iff_right hpos]
  rcases lt_or_ge (nearest (1500 / y)) (2 ^ 1024) with hlt | hbig
  · have hq0 := nearest_nonneg hx0
    obtain ⟨hc, hceil⟩ := Double.ceil_eq hq0 (h := representable_nearest hx0 hlt)
    have hc0 := Int.ceil_nonneg hq0
    rw [Double.round_of_nonneg hx0 hlt, hceil]
    clear hlt hceil
    have hiff : nearest (1500 / y) ≤ 2 ^ 64 - 1 - startTimeNs ↔
        ⌈nearest (1500 / y)⌉ ≤ 2 ^ 64 - 1 - (startTimeNs : ℤ) := by
      rw [Int.ceil_le]
      norm_num
    simp only [doubleToUInt64_ok hc0, hiff]
    constructor
    · rintro ⟨g, hg, hlt⟩
      omega
    · intro hle
      refine ⟨UInt64.ofNat ⌈nearest (1500 / y)⌉.toNat, ?_⟩
      rw [UInt64.toNat_ofNat_of_lt' (by simp only [UInt64.size]; omega)]
      omega
  · rw [Double.round_of_large hx0 hbig]
    refine iff_of_false ?_ fun hle => ?_
    · rintro ⟨g, hg, -⟩
      cases hg
    have hpow : (2 : ℚ) ^ 64 < 2 ^ 1024 := pow_lt_pow_right₀ (by norm_num) (by norm_num)
    have hlt := hpow.trans_le (hbig.trans hle)
    clear hbig hpow
    have : (0 : ℚ) ≤ startTimeNs := Nat.cast_nonneg _
    linarith

/-- Neither the gap nor the rate that it is of is subnormal. -/
theorem normal_of_gap {n : ℚ} (h₀ : 2 ^ 63 ≤ n) (h₁ : n < 2 ^ 64) :
    2 ^ (-1022 : ℤ) ≤ n ∧ 2 ^ (-1022 : ℤ) ≤ 1500 / boundary n := by
  have hpos : 0 < n := lt_of_lt_of_le (by norm_num) h₀
  have hgrid : ∀ e : ℕ, OnGrid (2 ^ e) := fun e => by
    simpa using onGrid_zpow (m := 1) (e := e) (by norm_num) (by omega)
  have hbound : 0 < boundary n :=
    lt_of_lt_of_le (by norm_num) (((hgrid 63).le_below hpos h₀).trans (below_lt_boundary n).le)
  have hlt : boundary n < 2 ^ 64 := lt_of_lt_of_le (boundary_lt_above n) ((hgrid 64).above_le hpos h₁)
  refine ⟨(zpow_le_one_of_nonpos₀ (by norm_num) (by norm_num)).trans (le_trans (by norm_num) h₀), ?_⟩
  calc (2 : ℚ) ^ (-1022 : ℤ) ≤ 2 ^ (-64 : ℤ) := zpow_le_zpow_right₀ (by norm_num) (by norm_num)
    _ = 1 / 2 ^ 64 := by norm_num
    _ ≤ 1500 / boundary n := div_le_div₀ (by norm_num) (by norm_num) hbound hlt.le

/-- For every rate that is accepted: the packet gap is an integer, and leads from the start of the burst not out of the
`uint64_t`, exactly if the rate is above the limit. -/
theorem packetGapNanoseconds_iff {rate : Double} (hnonneg : rate.lt .zero = false) (hne : rate.eq .zero = false)
    {startTimeNs : Nat} (hstart : startTimeNs < 2 ^ 63) :
    (∃ g, packetGapNanoseconds rate = .ok g ∧ startTimeNs + g.toNat < 2 ^ 64) ↔
      rate.exceeds (wrapRate startTimeNs) = true := by
  unfold packetGapNanoseconds
  cases rate with
  | nan => simp [Double.div, Double.ceil, Double.trunc, doubleToUInt64, Double.exceeds]
  | inf negative =>
    cases negative with
    | true =>
      rw [Double.zero_eq] at hnonneg
      cases hnonneg
    | false =>
      have hzero : doubleToUInt64 ((Double.ofInt 1500).div ((Double.inf false).div (.ofInt 8000))).ceil = .ok 0 := by
        decide +kernel
      refine iff_of_true ⟨0, hzero, ?_⟩ rfl
      exact lt_trans hstart (by norm_num)
  | finite v hv =>
    have hv0 : 0 ≤ v := by simpa using hnonneg
    have hvne : v ≠ 0 := by simpa [Double.eq] using hne
    have hvpos : 0 < v := lt_of_le_of_ne hv0 hvne.symm
    have hx0 : 0 ≤ v / 8000 := by positivity
    obtain ⟨hy, hdiv⟩ := Double.round_of_le hx0 hv (div_le_self hv0 (by norm_num))
    have hfirst : (Double.finite v hv).div (.ofInt 8000) = .finite (nearest (v / 8000)) hy := by
      rw [Double.ofInt_eq (n := 8000) (by norm_num) (by norm_num), Double.div_finite (by norm_num), Int.cast_ofNat, hdiv]
    have hn : (2 : ℚ) ^ 63 ≤ 2 ^ 64 - 1 - startTimeNs := by
      have : (startTimeNs : ℚ) + 1 ≤ 2 ^ 63 := by exact_mod_cast hstart
      linarith
    have hn' : (2 : ℚ) ^ 64 - 1 - startTimeNs < 2 ^ 64 := by
      have : (0 : ℚ) ≤ startTimeNs := Nat.cast_nonneg _
      linarith
    rw [hfirst, doubleToUInt64_div_iff hy (nearest_nonneg hx0) (hstart.trans (by norm_num))]
    unfold Double.exceeds wrapRate
    generalize (2 : ℚ) ^ 64 - 1 - startTimeNs = n at hn hn'
    obtain ⟨hnormal, hquotient⟩ := normal_of_gap hn hn'
    have h8000 := onGrid_intCast (n := 8000) (by norm_num)
    have h1500 := onGrid_intCast (n := 1500) (by norm_num)
    rw [Int.cast_ofNat] at h8000 h1500
    rw [decide_eq_true_eq, ← lt_div_iff₀' (by norm_num),
      ← hv.1.lt_nearest_div_iff hvpos h8000 (by norm_num) hquotient]
    constructor
    · rintro ⟨hypos, hle⟩
      exact (h1500.nearest_div_le_iff (by norm_num) hy.1 hypos hnormal).1 hle
    · intro hlt
      have hypos := lt_trans (lt_of_lt_of_le (zpow_pos (by norm_num) _) hquotient) hlt
      exact ⟨hypos, (h1500.nearest_div_le_iff (by norm_num) hy.1 hypos hnormal).2 hlt⟩

/-! ## When they are right -/

/-- If the sums can be represented, every round is at a time from which they can still be. -/
theorem SendsAt.in_range {info : UdpBurstInfo Double} {packetGapNs : UInt64}
    (hstop : info.startTimeNs + info.durationNs < 2 ^ 63)
    (hgap : packetGapNanoseconds info.targetRate = .ok packetGapNs)
    (hwrap : info.startTimeNs + packetGapNs.toNat < 2 ^ 64) {now : Nat} (h : SendsAt endNs info now) :
    now + packetGapNs.toNat < 2 ^ 64 := by
  induction h with
  | start _ => exact hwrap
  | @next now t g _ hg hmore ht _ ih =>
    rw [hgap, Except.ok.injEq] at hg
    subst hg
    rw [hasNext_eq hstop ih, Except.ok.injEq, decide_eq_true_eq] at hmore
    have hg : toInt64 packetGapNs.toNat = packetGapNs.toNat := toInt64_eq (by omega) (by omega)
    rw [hg, scheduledTime_eq (by omega)] at ht
    cases ht
    omega

theorem effectiveDurationNs_eq {info : UdpBurstInfo Double} (hstop : info.startTimeNs + info.durationNs < 2 ^ 63)
    (hstart : info.startTimeNs < endNs) (hend : endNs < 2 ^ 63) :
    info.effectiveDurationNs endNs = .ok (min (info.durationNs : Int) (endNs - info.startTimeNs)) := by
  unfold UdpBurstInfo.effectiveDurationNs
  rw [int64_eq (by omega) (by omega), ok_bind]
  split
  · rename_i hge
    rw [int64_eq (by omega) (by omega), min_eq_right (by omega)]
  · rename_i hlt
    rw [min_eq_left (by omega)]

/-- The rates of a schedule that is read are not negative and not zero. -/
theorem readUdpBurstSchedule_rate {stod : Stod} {filename : Str} {file : File} {topology : Topology}
    {schedule : List (UdpBurstInfo Double)}
    (hread : readUdpBurstSchedule (doubleRates stod) filename file topology endNs = .ok schedule) :
    ∀ info ∈ schedule, info.targetRate.lt .zero = false ∧ info.targetRate.eq .zero = false := by
  intro info he
  obtain ⟨n, line, h⟩ := readSchedule_parsed hread info he
  obtain ⟨-, ⟨str, hrate⟩, hzero⟩ := parseUdpBurst_ok h
  exact ⟨parsePositiveDouble_nonneg hrate, hzero⟩

/-- For every entry of every schedule that is read: the window is exact exactly if the burst ends within an `int64_t`,
and its rate is above that with which its second packet would be due out of the `uint64_t`. -/
theorem readUdpBurstSchedule_window_iff {stod : Stod} {filename : Str} {file : File} {topology : Topology}
    {schedule : List (UdpBurstInfo Double)}
    (hread : readUdpBurstSchedule (doubleRates stod) filename file topology endNs = .ok schedule)
    (hend : endNs < 2 ^ 63) {info : UdpBurstInfo Double} (he : info ∈ schedule) :
    WindowExact endNs info ↔ info.startTimeNs + info.durationNs < 2 ^ 63 ∧
      info.targetRate.exceeds (wrapRate info.startTimeNs) = true := by
  have hstart : info.startTimeNs < endNs := (readUdpBurstSchedule_ok hread).start_lt info he
  obtain ⟨hnonneg, hne⟩ := readUdpBurstSchedule_rate hread info he
  rw [← packetGapNanoseconds_iff hnonneg hne (hstart.trans hend)]
  constructor
  · rintro ⟨-, hsends, heffective⟩
    have hstop : info.startTimeNs + info.durationNs < 2 ^ 63 := by
      obtain ⟨stop, hstop, -⟩ := bind_ok heffective
      exact_mod_cast int64_lt hstop
    obtain ⟨g, hg, hfirst⟩ := hsends _ (.start hstart)
    refine ⟨hstop, g, hg, ?_⟩
    by_contra hwrap
    rw [hasNext_wrap g.toNat_lt hstop (Nat.not_lt.1 hwrap), Except.ok.injEq, eq_comm, decide_eq_true_eq] at hfirst
    omega
  · rintro ⟨hstop, g, hg, hwrap⟩
    exact ⟨fun fuel app w h p hp target hb => (runBursts_sendsAt h).sent p hp _ hb,
      fun now h => ⟨g, hg, hasNext_eq hstop (h.in_range hstop hg hwrap)⟩, effectiveDurationNs_eq hstop hstart hend⟩

/-! ### Bursts between two nodes -/

def oneBurst (startTimeNs durationNs : Nat) : UdpBurstInfo Double :=
  ⟨0, 0, 1, .ofInt 100, startTimeNs, durationNs, [], []⟩

/-- A burst that goes on after the end of the simulation. -/
theorem readUdpBurstSchedule_window_iff_oneBurst : WindowExact 1000000000 (oneBurst 5 1000000000) := by
  have hread : readUdpBurstSchedule (doubleRates wholeStod) [] (.lines ["0,0,1,100,5,1000000000,,".toList])
      (pair false).topology 1000000000 = .ok [oneBurst 5 1000000000] := by decide +kernel
  exact (readUdpBurstSchedule_window_iff hread (by decide) (List.mem_singleton_self _)).2
    ⟨by decide, by decide +kernel⟩

/-- The longest duration, from 1 ns on. -/
theorem window_counterexample :
    readUdpBurstSchedule (doubleRates wholeStod) [] (.lines ["0,0,1,100,1,9223372036854775807,,".toList])
        (pair false).topology 1000000000 = .ok [oneBurst 1 9223372036854775807] ∧
      ¬ WindowExact 1000000000 (oneBurst 1 9223372036854775807) := by
  refine ⟨by decide +kernel, fun h => ?_⟩
  have heffective := h.effective
  simp [UdpBurstInfo.effectiveDurationNs, oneBurst, int64, error_bind] at heffective

end SatNet.Apps
