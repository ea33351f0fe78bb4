/-
The time scales of `julian-date.cc`: the offsets from UTC to a scale and back. The way back has to guess from
the shifted clock on which side of a leap second the instant was; for which instants the guess is right is
stated exactly.
-/
import SatNet.Satellite.LeapSeconds

namespace SatNet.Satellite

open SatNet.LowerBound Time JulianDate

/-! ## The offsets -/

/-- TT - TAI. -/
def ttToTai : Int := milliSeconds 32184

/-- TAI - GPST. -/
def taiToGps : Int := milliSeconds 19000

def offsetFromUtc (data : IersData) (daysInPosix : UInt32) (ts : TimeSystem) : Int :=
  match ts with
  | .ut1 => data.dut1 daysInPosix
  | .tai => data.taiMinusUtc daysInPosix
  | .tt => ttToTai + data.taiMinusUtc daysInPosix
  | .gpst => data.taiMinusUtc daysInPosix - taiToGps
  -- already in sync for UTC and POSIX
  | .utc => milliSeconds 0
  | .posix => milliSeconds 0

def offsetToUtc (data : IersData) (daysInPosix msDay : UInt32) (ts : TimeSystem) : Int :=
  -- already in sync
  if ts = .utc ∨ ts = .posix then milliSeconds 0
  else
    let taiUtc := data.taiMinusUtc daysInPosix
    let offset := if ts = .tt then ttToTai else milliSeconds 0
    -- if it is not the same day in UTC, check the leap secs for the previous day
    let taiUtc := if msDay.toNat < getMilliSeconds (offset + taiUtc) then data.taiMinusUtc (daysInPosix - 1) else taiUtc
    let offset :=
      match ts with
      | .ut1 => data.dut1 daysInPosix
      | .tai => taiUtc
      | .tt => ttToTai + taiUtc
      | .gpst => taiUtc - taiToGps
      | .utc => offset
      | .posix => offset
    -- return the offset as negative
    milliSeconds (-getMilliSeconds offset)

/-- `*this + OffsetFromUtc ()`. -/
def JulianDate.fromUtc (data : IersData) (jd : JulianDate) : JulianDate :=
  jd.add (offsetFromUtc data jd.days jd.timeScale)

/-- `*this + OffsetToUtc ()`. -/
def JulianDate.toUtc (data : IersData) (jd : JulianDate) : JulianDate :=
  jd.add (offsetToUtc data jd.days jd.msDay jd.timeScale)

/-! ## The guess -/

/-- The day whose leap seconds the way back uses, when the clock shows the millisecond `M` of day `D`. -/
def guess (v : List Nat) (base slack D M : Nat) : Nat := if M < (below v D + base) * 1000 + slack then D - 1 else D

/-- At the millisecond `ms` of day `d` the clock of a scale that is `slack - gap` ahead of TAI shows the millisecond
`M` of day `D`. -/
structure Clock (v : List Nat) (d ms base slack gap D M : Nat) : Prop where
  day_pos : 0 < d
  ms_lt : ms < 86400000
  gap_le : gap + 1000 ≤ 86400000
  M_lt : M < 86400000
  shows : (D : Int) * 86400000 + M = d * 86400000 + ms + (below v d + base) * 1000 + slack - gap

section Guess

variable {v : List Nat} {d ms base slack gap D M : Nat}

/-- The guess is right unless it passes over an entry of the table. -/
theorem guess_iff (hv : v.Nodup) (h : Clock v d ms base slack gap D M) :
    below v (guess v base slack D M) = below v d ↔ (∀ e ∈ v, d ≤ e → D ≤ e + 1) ∧ (D ≤ d → ms < gap → d - 1 ∉ v) := by
  obtain ⟨hd, hms, hgap, hM, hn⟩ := h
  unfold guess
  have hprev : below v (d - 1) = below v d ↔ d - 1 ∉ v := by
    have hs := below_succ hv (d - 1)
    rw [Nat.sub_add_cancel hd] at hs
    split at hs
    · rename_i hmem
      simp only [hmem, not_true_eq_false, iff_false]
      omega
    · rename_i hmem
      simp only [hmem, not_false_eq_true, iff_true]
      omega
  rcases Nat.lt_trichotomy D d with hD | rfl | hD
  · -- the clock is behind UTC and shows the day before
    have hmono := @below_mono v D d (by omega)
    obtain rfl : D = d - 1 := by omega
    rw [if_neg (by omega), hprev]
    constructor
    · intro hno
      exact ⟨fun e _ he => by omega, fun _ _ => hno⟩
    · intro h
      exact h.2 (by omega) (by omega)
  · by_cases hlt : ms < gap
    · rw [if_pos (by omega), hprev]
      constructor
      · intro hno
        exact ⟨fun e _ he => by omega, fun _ _ => hno⟩
      · intro h
        exact h.2 (le_refl _) hlt
    · rw [if_neg (by omega)]
      refine ⟨fun _ => ⟨fun e _ he => by omega, fun _ h => absurd h hlt⟩, fun _ => rfl⟩
  · -- a later day: the clock shows less than the offset
    have hmono := @below_mono v d D (by omega)
    rw [if_pos (by omega)]
    obtain ⟨k, rfl⟩ : ∃ k, D = d + k + 1 := ⟨D - d - 1, by omega⟩
    rw [Nat.add_sub_cancel, below_add_eq_iff hv]
    constructor
    · intro hno
      exact ⟨fun e he hde => by have := hno e he hde; omega, fun h => by omega⟩
    · intro h e he hde
      have := h.1 e he hde
      omega

/-- The day before is only looked up if there is one. -/
theorem Clock.pos (h : Clock v d ms base slack gap D M) (hlt : M < (below v D + base) * 1000 + slack) : 0 < D := by
  obtain ⟨hd, hms, hgap, hM, hn⟩ := h
  rcases Nat.eq_zero_or_pos D with rfl | hpos
  · have hmono := @below_mono v 0 d (by omega)
    omega
  · exact hpos

/-- The guess moves the instant by less than would leave the range of the dates. -/
theorem Clock.range (hv : v.Nodup) (h : Clock v d ms base slack gap D M) (hd : d < 2 ^ 32) (hbase : base < 2 ^ 32)
    (hslack : slack < 86400000) :
    0 ≤ (d : Int) * 86400000 + ms + (below v d - below v (guess v base slack D M)) * 1000 ∧
      (d : Int) * 86400000 + ms + (below v d - below v (guess v base slack D M)) * 1000 < 2 ^ 32 * 86400000 := by
  obtain ⟨hd, hms, hgap, hM, hn⟩ := h
  have hzero : below v 0 = 0 := by simp [below]
  have hall := below_add_le hv 0 d
  rw [Nat.zero_add, hzero] at hall
  have hstep := below_add_le hv (d - 1) 1
  rw [Nat.sub_add_cancel hd] at hstep
  have hprev := @below_mono v (d - 1) d (by omega)
  unfold guess
  rcases Nat.lt_trichotomy D d with hD | rfl | hD
  · obtain rfl : D = d - 1 := by omega
    rw [if_neg (by omega)]
    omega
  · split <;> omega
  · have hmono := @below_mono v d D (by omega)
    obtain ⟨k, rfl⟩ : ∃ k, D = d + k + 1 := ⟨D - d - 1, by omega⟩
    have hk := below_add_le hv d k
    have hkm := @below_mono v d (d + k) (by omega)
    rw [if_pos (by omega), Nat.add_sub_cancel]
    omega

end Guess

/-! ## There and back -/

/-- By how much a scale is ahead of TAI, in milliseconds, as far as the guess knows. -/
def slackMs : TimeSystem → Nat
  | .tt => 32184
  | _ => 0

/-- By how much a scale is behind TAI. -/
def gapMs : TimeSystem → Nat
  | .gpst => 19000
  | _ => 0

/-- The scales that differ from UTC by whole seconds. -/
def Atomic (ts : TimeSystem) : Prop := ts = .tai ∨ ts = .tt ∨ ts = .gpst

instance (ts : TimeSystem) : Decidable (Atomic ts) := inferInstanceAs (Decidable (ts = .tai ∨ ts = .tt ∨ ts = .gpst))

section RoundTrip

variable {data : IersData} {ts : TimeSystem}

/-- The leap seconds before a day, with the base. -/
def IersData.secondsBefore (data : IersData) (d : Nat) : Nat :=
  below (entries data.leapSeconds) d + data.baseLeapSeconds.toNat

/-- By how much a scale is ahead of UTC on a day, in milliseconds. -/
def offsetMs (data : IersData) (d : Nat) (ts : TimeSystem) : Int := data.secondsBefore d * 1000 + slackMs ts - gapMs ts

theorem offsetFromUtc_eq (h : Increasing data.leapSeconds) (hts : Atomic ts) (d : UInt32) :
    offsetFromUtc data d ts = milliSeconds (offsetMs data d.toNat ts) := by
  unfold offsetFromUtc offsetMs IersData.secondsBefore
  rcases hts with rfl | rfl | rfl <;>
    simp only [taiMinusUtc_eq h, ttToTai, taiToGps, slackMs, gapMs, milliSeconds] <;> push_cast <;> ring

/-- The way back subtracts the leap seconds of the guessed day. -/
theorem offsetToUtc_eq (h : Increasing data.leapSeconds) (hts : Atomic ts) {D M : UInt32}
    (hpos : M.toNat < data.secondsBefore D.toNat * 1000 + slackMs ts → 0 < D.toNat) :
    offsetToUtc data D M ts = milliSeconds (-offsetMs data
      (guess (entries data.leapSeconds) data.baseLeapSeconds.toNat (slackMs ts) D.toNat M.toNat) ts) := by
  have hoff : (if ts = .tt then ttToTai else milliSeconds 0) = milliSeconds (slackMs ts) := by
    rcases hts with rfl | rfl | rfl <;> rfl
  have hsum : milliSeconds (slackMs ts) + data.taiMinusUtc D = milliSeconds ((data.secondsBefore D.toNat * 1000 + slackMs ts : Nat)) := by
    rw [taiMinusUtc_eq h, ← milliSeconds_add]
    unfold IersData.secondsBefore
    congr 1
    push_cast
    ring
  have hused : (if (M.toNat : Int) < getMilliSeconds (milliSeconds (slackMs ts) + data.taiMinusUtc D)
      then data.taiMinusUtc (D - 1) else data.taiMinusUtc D) = milliSeconds (data.secondsBefore
        (guess (entries data.leapSeconds) data.baseLeapSeconds.toNat (slackMs ts) D.toNat M.toNat) * 1000) := by
    rw [hsum, getMilliSeconds_milliSeconds]
    unfold guess
    by_cases hlt : M.toNat < data.secondsBefore D.toNat * 1000 + slackMs ts
    · have hD := hpos hlt
      have hsub : (D - 1).toNat = D.toNat - 1 := by
        have hDlt := D.toNat_lt
        rw [UInt32.toNat_sub, UInt32.toNat_one]
        omega
      rw [if_pos (Int.ofNat_lt.2 hlt), taiMinusUtc_eq h, hsub]
      unfold IersData.secondsBefore at hlt ⊢
      rw [if_pos hlt]
      push_cast
      rfl
    · rw [if_neg (Int.ofNat_lt.not.2 hlt), taiMinusUtc_eq h]
      unfold IersData.secondsBefore at hlt ⊢
      rw [if_neg hlt]
      push_cast
      rfl
  unfold offsetToUtc
  rw [if_neg (by rcases hts with rfl | rfl | rfl <;> decide)]
  simp only [hoff, hused, offsetMs]
  rcases hts with rfl | rfl | rfl <;>
    simp only [ttToTai, taiToGps, slackMs, gapMs, ← milliSeconds_add, ← milliSeconds_sub, getMilliSeconds_milliSeconds]
  · exact congrArg milliSeconds (by push_cast; ring)
  · exact congrArg milliSeconds (by push_cast; ring)
  · exact congrArg milliSeconds (by push_cast; ring)

section Instant

variable {jd : JulianDate}

theorem slackMs_lt (ts : TimeSystem) : slackMs ts < 86400000 := by
  cases ts <;> decide

theorem gapMs_le (ts : TimeSystem) : gapMs ts + 1000 ≤ 86400000 := by
  cases ts <;> decide

theorem fromUtc_eq (h : Increasing data.leapSeconds) (hjd : jd.Valid) (hts : Atomic jd.timeScale)
    (hr : InRange (jd.total + offsetMs data jd.days.toNat jd.timeScale)) :
    jd.fromUtc data = ofTotal (jd.total + offsetMs data jd.days.toNat jd.timeScale) jd.timeScale := by
  unfold JulianDate.fromUtc
  rw [offsetFromUtc_eq h hts]
  exact add_eq hjd hr

theorem fromUtc_spec (h : Increasing data.leapSeconds) (hjd : jd.Valid) (hts : Atomic jd.timeScale)
    (hr : InRange (jd.total + offsetMs data jd.days.toNat jd.timeScale)) :
    (jd.fromUtc data).Valid ∧ (jd.fromUtc data).timeScale = jd.timeScale ∧
      (jd.fromUtc data).total = jd.total + offsetMs data jd.days.toNat jd.timeScale := by
  rw [fromUtc_eq h hjd hts hr]
  exact ⟨valid_ofTotal, rfl, total_ofTotal hr⟩

/-- What the clock of the scale shows. -/
theorem clock_shown (h : Increasing data.leapSeconds) (hjd : jd.Valid) (hts : Atomic jd.timeScale) (hday : 0 < jd.days)
    (hr : InRange (jd.total + offsetMs data jd.days.toNat jd.timeScale)) :
    Clock (entries data.leapSeconds) jd.days.toNat jd.msDay.toNat data.baseLeapSeconds.toNat (slackMs jd.timeScale)
      (gapMs jd.timeScale) (jd.fromUtc data).days.toNat (jd.fromUtc data).msDay.toNat := by
  obtain ⟨hv, -, htot⟩ := fromUtc_spec h hjd hts hr
  rw [valid_iff] at hjd hv
  constructor
  · exact UInt32.lt_iff_toNat_lt.1 hday
  · exact hjd
  · exact gapMs_le _
  · exact hv
  · unfold total offsetMs IersData.secondsBefore at htot
    push_cast at htot
    omega

/-- The way back is off by the leap seconds between the day and the guessed day. -/
theorem toUtc_fromUtc (h : Increasing data.leapSeconds) (hjd : jd.Valid) (hts : Atomic jd.timeScale)
    (hday : 0 < jd.days)
    (hr : InRange (jd.total + offsetMs data jd.days.toNat jd.timeScale)) {used : Nat}
    (hused : guess (entries data.leapSeconds) data.baseLeapSeconds.toNat (slackMs jd.timeScale)
      (jd.fromUtc data).days.toNat (jd.fromUtc data).msDay.toNat = used) :
    (jd.fromUtc data).toUtc data = jd ↔
      below (entries data.leapSeconds) used = below (entries data.leapSeconds) jd.days.toNat := by
  obtain ⟨hv, hscale, htot⟩ := fromUtc_spec h hjd hts hr
  have hclock := clock_shown h hjd hts hday hr
  have hrange := hclock.range h.nodup jd.days.toNat_lt data.baseLeapSeconds.toNat_lt (slackMs_lt _)
  have hback : (jd.fromUtc data).total + -offsetMs data used jd.timeScale = jd.total +
      (below (entries data.leapSeconds) jd.days.toNat - below (entries data.leapSeconds) used) * 1000 := by
    rw [htot]
    unfold offsetMs IersData.secondsBefore
    push_cast
    ring
  have hin : InRange (jd.total +
      (below (entries data.leapSeconds) jd.days.toNat - below (entries data.leapSeconds) used) * 1000) := by
    rw [hused] at hrange
    exact hrange
  rw [JulianDate.toUtc, hscale, offsetToUtc_eq h hts hclock.pos, hused, add_eq hv (by rwa [hback]), hback, hscale,
    ofTotal_eq_iff hjd hin]
  omega

/-- The day that the clock of the scale shows at the instant. -/
def shownDay (data : IersData) (jd : JulianDate) : Int :=
  (jd.total + offsetMs data jd.days.toNat jd.timeScale) / 86400000

/-- Adding the offset and then the offset back restores a UTC instant exactly if no leap second is passed over:
none takes effect between its day and the day before the one the clock shows, and in GPST, whose first 19 seconds
of a day look like the day before, none on the day before. -/
theorem toUtc_fromUtc_iff (h : Increasing data.leapSeconds) (hjd : jd.Valid) (hts : Atomic jd.timeScale)
    (hday : 0 < jd.days)
    (hr : InRange (jd.total + offsetMs data jd.days.toNat jd.timeScale)) :
    (jd.fromUtc data).toUtc data = jd ↔
      (∀ e ∈ data.leapSeconds, jd.days ≤ e → shownDay data jd ≤ e.toNat + 1) ∧
      (jd.timeScale = .gpst → shownDay data jd ≤ jd.days.toNat → jd.msDay.toNat < 19000 →
        jd.days - 1 ∉ data.leapSeconds) := by
  have hshown : shownDay data jd = (jd.fromUtc data).days.toNat := by
    obtain ⟨hv, -, htot⟩ := fromUtc_spec h hjd hts hr
    rw [valid_iff] at hv
    unfold shownDay
    rw [← htot]
    unfold total
    omega
  have hprev : (jd.days - 1).toNat = jd.days.toNat - 1 := by
    have hlt := jd.days.toNat_lt
    have hpos := UInt32.lt_iff_toNat_lt.1 hday
    rw [UInt32.toNat_zero] at hpos
    rw [UInt32.toNat_sub, UInt32.toNat_one]
    omega
  have hgap : ∀ x : Nat, x < gapMs jd.timeScale ↔ jd.timeScale = .gpst ∧ x < 19000 := by
    intro x
    rcases hts with hts | hts | hts <;> rw [hts] <;> simp [gapMs]
  rw [toUtc_fromUtc h hjd hts hday hr rfl, guess_iff h.nodup (clock_shown h hjd hts hday hr), hshown, ← hprev,
    mem_entries]
  apply and_congr
  · unfold entries
    simp only [List.forall_mem_map, UInt32.le_iff_toNat_le]
    norm_cast
  · simp only [hgap]
    norm_cast
    tauto

end Instant

end RoundTrip

/-- A day after the leap second of 1 July 2015, midnight in UTC. -/
def dayAfterLeap (ts : TimeSystem) : JulianDate := ⟨16618, 0, ts⟩

theorem toUtc_fromUtc_tai : ((dayAfterLeap .tai).fromUtc (iersData fun _ => 0)).toUtc (iersData fun _ => 0) = dayAfterLeap .tai := by
  have hpast : (iersData fun _ => 0).leapSeconds.all (· < 16618) = true := by decide
  refine (toUtc_fromUtc_iff (by decide) (by decide) (by decide) (by decide) (by decide)).2 ⟨fun e he hle => ?_, nofun⟩
  exact absurd hle (UInt32.not_le.2 (of_decide_eq_true (List.all_eq_true.1 hpast e he)))

/-- In GPST a second of the day after a leap second is not restored. -/
theorem toUtc_fromUtc_gpst :
    ¬ ∀ (data : IersData) (jd : JulianDate), Increasing data.leapSeconds →
      data.leapSeconds.Pairwise (fun a b => a.toNat + 2 ≤ b.toNat) → jd.Valid → Atomic jd.timeScale → 730 ≤ jd.days →
      InRange (jd.total + offsetMs data jd.days.toNat jd.timeScale) → (jd.fromUtc data).toUtc data = jd := by
  intro h
  have hback := h (iersData fun _ => 0) (dayAfterLeap .gpst) (by decide) (by decide) (by decide) (by decide) (by decide)
    (by decide)
  rw [toUtc_fromUtc (by decide) (by decide) (by decide) (by decide) (by decide) rfl,
    fromUtc_eq (by decide) (by decide) (by decide) (by decide)] at hback
  exact absurd hback (by decide)

end SatNet.Satellite
