/-
`JulianDate` of `julian-date.cc`: the day and the millisecond of the day, moved by durations and compared.
The arithmetic runs on 32-bit counts that wrap; every date with a proper millisecond of the day is the same
thing as its total number of milliseconds, and moving it by a duration adds to that number as long as the
count of days does not leave its range.
-/
import SatNet.Base.Memory

namespace SatNet.Satellite

/-! ## Durations -/

namespace Time

/-- An ns-3 `Time` is a number of nanoseconds. -/
def milliSeconds (x : Int) : Int := x * 1000000

def seconds (x : Int) : Int := x * 1000000000

def minutes (x : Int) : Int := x * 60000000000

def hours (x : Int) : Int := x * 3600000000000

def days (x : Int) : Int := x * 86400000000000

/-- `GetMilliSeconds`, which rounds towards zero. -/
def getMilliSeconds (t : Int) : Int := t.tdiv 1000000

/-- `GetSeconds`, `GetMinutes`, `GetHours` and `GetDays`, as they are cast to an integer. -/
def getSeconds (t : Int) : Int := t.tdiv 1000000000

def getMinutes (t : Int) : Int := t.tdiv 60000000000

def getHours (t : Int) : Int := t.tdiv 3600000000000

def getDays (t : Int) : Int := t.tdiv 86400000000000

@[simp] theorem getMilliSeconds_milliSeconds (x : Int) : getMilliSeconds (milliSeconds x) = x := by
  unfold getMilliSeconds milliSeconds
  exact Int.mul_tdiv_cancel x (by decide)

theorem getDays_milliSeconds {x : Int} (h : 0 ≤ x) : getDays (milliSeconds x) = x / 86400000 := by
  unfold getDays milliSeconds
  rw [Int.tdiv_eq_ediv_of_nonneg (by omega)]
  omega

theorem getHours_milliSeconds {x : Int} (h : 0 ≤ x) : getHours (milliSeconds x) = x / 3600000 := by
  unfold getHours milliSeconds
  rw [Int.tdiv_eq_ediv_of_nonneg (by omega)]
  omega

theorem getMinutes_milliSeconds {x : Int} (h : 0 ≤ x) : getMinutes (milliSeconds x) = x / 60000 := by
  unfold getMinutes milliSeconds
  rw [Int.tdiv_eq_ediv_of_nonneg (by omega)]
  omega

theorem getSeconds_milliSeconds {x : Int} (h : 0 ≤ x) : getSeconds (milliSeconds x) = x / 1000 := by
  unfold getSeconds milliSeconds
  rw [Int.tdiv_eq_ediv_of_nonneg (by omega)]
  omega

theorem milliSeconds_lt_zero {x : Int} : milliSeconds x < 0 ↔ x < 0 := by
  unfold milliSeconds
  omega

/-- The opposite of a negative duration is not negative. -/
theorem milliSeconds_neg_not_lt {t : Int} (h : t < 0) : ¬ milliSeconds (-getMilliSeconds t) < 0 := by
  have hms : 0 ≤ (-t).tdiv 1000000 := Int.tdiv_nonneg (by omega) (by decide)
  rw [milliSeconds_lt_zero]
  unfold getMilliSeconds
  rw [← Int.neg_tdiv]
  omega

theorem milliSeconds_neg (x : Int) : milliSeconds (-x) = -milliSeconds x := by
  unfold milliSeconds
  omega

theorem milliSeconds_sub (x y : Int) : milliSeconds (x - y) = milliSeconds x - milliSeconds y := by
  unfold milliSeconds
  omega

theorem milliSeconds_add (x y : Int) : milliSeconds (x + y) = milliSeconds x + milliSeconds y := by
  unfold milliSeconds
  omega

end Time

open Time

/-! ## The date -/

/-- Conversion to `uint32_t`. -/
def uint32 (x : Int) : UInt32 := UInt32.ofNat (toUInt32 x)

theorem uint32_toNat {x : Int} (h₀ : 0 ≤ x) (h : x < 2 ^ 32) : ((uint32 x).toNat : Int) = x := by
  unfold uint32 toUInt32
  rw [UInt32.toNat_ofNat']
  omega

/-- `DateTime::TimeSystem`. -/
inductive TimeSystem where
  | utc
  | ut1
  | tai
  | tt
  | gpst
  | posix
  deriving Repr, DecidableEq

def hourToMs : UInt32 := 3600000

def dayToMs : UInt32 := hourToMs * 24

@[simp] theorem dayToMs_toNat : dayToMs.toNat = 86400000 := rfl

@[ext] structure JulianDate where
  days : UInt32
  msDay : UInt32
  timeScale : TimeSystem
  deriving Repr, DecidableEq

namespace JulianDate

mutual

/-- `operator+` with a duration. -/
def add (jd : JulianDate) (t : Int) : JulianDate :=
  -- if time is negative, call operator- with a positive time
  if t < 0 then sub jd (milliSeconds (-getMilliSeconds t))
  else
    let ms := uint32 (getMilliSeconds t % dayToMs.toNat) + jd.msDay
    ⟨uint32 (getDays t) + (jd.days + ms / dayToMs), ms % dayToMs, jd.timeScale⟩
termination_by (if t < 0 then 1 else 0)
decreasing_by
  rename_i h
  rw [if_neg (milliSeconds_neg_not_lt h), if_pos h]
  decide

/-- `operator-` with a duration. -/
def sub (jd : JulianDate) (t : Int) : JulianDate :=
  -- if time is negative, call operator+ with a positive time
  if t < 0 then add jd (milliSeconds (-getMilliSeconds t))
  else
    let ms := uint32 (getMilliSeconds t % dayToMs.toNat)
    let days := uint32 (getDays t)
    if ms > jd.msDay then ⟨jd.days - (days + 1), dayToMs - (ms - jd.msDay), jd.timeScale⟩
    else ⟨jd.days - days, jd.msDay - ms, jd.timeScale⟩
termination_by (if t < 0 then 1 else 0)
decreasing_by
  rename_i h
  rw [if_neg (milliSeconds_neg_not_lt h), if_pos h]
  decide

end

/-- `operator-` with a date. -/
def since (jd jd' : JulianDate) : Int :=
  (Time.days jd.days.toNat + milliSeconds jd.msDay.toNat) - (Time.days jd'.days.toNat + milliSeconds jd'.msDay.toNat)

/-- `operator<`. -/
def lt (jd jd' : JulianDate) : Bool := if jd.days ≠ jd'.days then jd.days < jd'.days else jd.msDay < jd'.msDay

/-- `operator<=`. -/
def le (jd jd' : JulianDate) : Bool := if jd.days ≠ jd'.days then jd.days < jd'.days else jd.msDay ≤ jd'.msDay

/-- `operator>`. -/
def gt (jd jd' : JulianDate) : Bool := if jd.days ≠ jd'.days then jd.days > jd'.days else jd.msDay > jd'.msDay

/-- `operator>=`. -/
def ge (jd jd' : JulianDate) : Bool := if jd.days ≠ jd'.days then jd.days > jd'.days else jd.msDay ≥ jd'.msDay

/-- `operator==`, which does not look at the time scale. -/
def eq (jd jd' : JulianDate) : Bool := if jd.days ≠ jd'.days then false else jd.msDay == jd'.msDay

/-- `operator!=`. -/
def ne (jd jd' : JulianDate) : Bool := if jd.days ≠ jd'.days then true else jd.msDay != jd'.msDay

/-! ## The number of milliseconds -/

/-- The millisecond of the day is one of a day. -/
def Valid (jd : JulianDate) : Prop := jd.msDay < dayToMs

instance (jd : JulianDate) : Decidable jd.Valid := inferInstanceAs (Decidable (jd.msDay < dayToMs))

/-- The milliseconds since the epoch. -/
def total (jd : JulianDate) : Int := jd.days.toNat * 86400000 + jd.msDay.toNat

/-- A number of milliseconds whose day is a `uint32_t`. -/
def InRange (n : Int) : Prop := 0 ≤ n ∧ n < 2 ^ 32 * 86400000

instance (n : Int) : Decidable (InRange n) := inferInstanceAs (Decidable (0 ≤ n ∧ n < 2 ^ 32 * 86400000))

/-- The date with the given number of milliseconds. -/
def ofTotal (n : Int) (ts : TimeSystem) : JulianDate := ⟨uint32 (n / 86400000), uint32 (n % 86400000), ts⟩

theorem valid_iff {jd : JulianDate} : jd.Valid ↔ jd.msDay.toNat < 86400000 := by
  unfold Valid
  rw [UInt32.lt_iff_toNat_lt, dayToMs_toNat]

theorem inRange_total {jd : JulianDate} (h : jd.Valid) : InRange jd.total := by
  have hd := jd.days.toNat_lt
  rw [valid_iff] at h
  unfold InRange total
  omega

section OfTotal

variable {n : Int} {ts : TimeSystem}

theorem ofTotal_days (h : InRange n) : ((ofTotal n ts).days.toNat : Int) = n / 86400000 := by
  unfold InRange at h
  exact uint32_toNat (by omega) (by omega)

theorem ofTotal_msDay : ((ofTotal n ts).msDay.toNat : Int) = n % 86400000 :=
  uint32_toNat (by omega) (by omega)

theorem valid_ofTotal : (ofTotal n ts).Valid := by
  have hm := @ofTotal_msDay n ts
  rw [valid_iff]
  omega

theorem total_ofTotal (h : InRange n) : (ofTotal n ts).total = n := by
  unfold total
  rw [ofTotal_days h, ofTotal_msDay]
  omega

/-- The number of milliseconds and the time scale say which date it is. -/
theorem eq_ofTotal {jd : JulianDate} (h : jd.Valid) (hn : jd.total = n) (hts : jd.timeScale = ts) :
    jd = ofTotal n ts := by
  have hr := inRange_total h
  rw [hn] at hr
  have hd := @ofTotal_days n ts hr
  have hm := @ofTotal_msDay n ts
  rw [valid_iff] at h
  unfold total at hn
  apply JulianDate.ext
  · rw [← UInt32.toNat_inj]
    omega
  · rw [← UInt32.toNat_inj]
    omega
  · exact hts

end OfTotal

/-! ## Moving a date -/

section Move

variable {jd : JulianDate}

/-- Adding a duration that is not negative. -/
theorem add_nonneg {t : Int} (h : jd.Valid) (ht : 0 ≤ t) (hr : InRange (jd.total + t)) :
    jd.add (milliSeconds t) = ofTotal (jd.total + t) jd.timeScale := by
  have hd := jd.days.toNat_lt
  rw [valid_iff] at h
  unfold InRange total at hr
  have hms := @uint32_toNat (t % 86400000) (by omega) (by omega)
  have hdays := @uint32_toNat (t / 86400000) (by omega) (by omega)
  symm
  unfold add
  rw [if_neg (by rw [milliSeconds_lt_zero]; omega)]
  simp only [getMilliSeconds_milliSeconds, getDays_milliSeconds ht, dayToMs_toNat, Nat.cast_ofNat]
  symm
  apply eq_ofTotal
  · rw [valid_iff]
    simp only [UInt32.toNat_mod, dayToMs_toNat]
    omega
  · unfold total
    simp only [UInt32.toNat_add, UInt32.toNat_mod, UInt32.toNat_div, dayToMs_toNat]
    omega
  · rfl

/-- Subtracting a duration that is not negative, with the borrow from the day. -/
theorem sub_nonneg {t : Int} (h : jd.Valid) (ht : 0 ≤ t) (hr : InRange (jd.total - t)) :
    jd.sub (milliSeconds t) = ofTotal (jd.total - t) jd.timeScale := by
  have hd := jd.days.toNat_lt
  rw [valid_iff] at h
  unfold InRange total at hr
  have hms := @uint32_toNat (t % 86400000) (by omega) (by omega)
  have hdays := @uint32_toNat (t / 86400000) (by omega) (by omega)
  unfold sub
  rw [if_neg (by rw [milliSeconds_lt_zero]; omega)]
  simp only [getMilliSeconds_milliSeconds, getDays_milliSeconds ht, dayToMs_toNat, Nat.cast_ofNat]
  split
  · rename_i hlt
    rw [gt_iff_lt, UInt32.lt_iff_toNat_lt] at hlt
    apply eq_ofTotal
    · rw [valid_iff]
      simp only [UInt32.toNat_sub, dayToMs_toNat]
      omega
    · unfold total
      simp only [UInt32.toNat_add, UInt32.toNat_sub, dayToMs_toNat, UInt32.toNat_one]
      omega
    · rfl
  · rename_i hle
    rw [gt_iff_lt, UInt32.lt_iff_toNat_lt] at hle
    apply eq_ofTotal
    · rw [valid_iff]
      simp only [UInt32.toNat_sub]
      omega
    · unfold total
      simp only [UInt32.toNat_sub]
      omega
    · rfl

theorem add_of_neg {t : Int} (h : t < 0) (jd : JulianDate) : jd.add (milliSeconds t) = jd.sub (milliSeconds (-t)) := by
  rw [add, if_pos (milliSeconds_lt_zero.2 h), getMilliSeconds_milliSeconds]

theorem sub_of_neg {t : Int} (h : t < 0) (jd : JulianDate) : jd.sub (milliSeconds t) = jd.add (milliSeconds (-t)) := by
  rw [sub, if_pos (milliSeconds_lt_zero.2 h), getMilliSeconds_milliSeconds]

/-- Adding a duration of either sign adds to the number of milliseconds. -/
theorem add_eq {t : Int} (h : jd.Valid) (hr : InRange (jd.total + t)) :
    jd.add (milliSeconds t) = ofTotal (jd.total + t) jd.timeScale := by
  rcases lt_or_ge t 0 with ht | ht
  · rw [add_of_neg ht, sub_nonneg h (by omega) (by rwa [Int.sub_neg]), Int.sub_neg]
  · exact add_nonneg h ht hr

/-- Adding the opposite of a duration subtracts it. -/
theorem add_neg (h : jd.Valid) (t : Int) : jd.add (milliSeconds (-t)) = jd.sub (milliSeconds t) := by
  rcases lt_trichotomy t 0 with ht | rfl | ht
  · exact (sub_of_neg ht jd).symm
  · have hr := inRange_total h
    rw [Int.neg_zero, add_nonneg h (le_refl 0) (by rwa [Int.add_zero]),
      sub_nonneg h (le_refl 0) (by rwa [Int.sub_zero]), Int.add_zero, Int.sub_zero]
  · rw [add_of_neg (by omega), Int.neg_neg]

theorem sub_eq {t : Int} (h : jd.Valid) (hr : InRange (jd.total - t)) :
    jd.sub (milliSeconds t) = ofTotal (jd.total - t) jd.timeScale := by
  rw [← add_neg h]
  exact add_eq h hr

/-- What adding a duration comes to, as long as the day stays in its range. -/
theorem add_spec {t : Int} (h : jd.Valid) (hr : InRange (jd.total + t)) :
    (jd.add (milliSeconds t)).Valid ∧ (jd.add (milliSeconds t)).timeScale = jd.timeScale ∧
      (jd.add (milliSeconds t)).total = jd.total + t := by
  rw [add_eq h hr]
  exact ⟨valid_ofTotal, rfl, total_ofTotal hr⟩

theorem sub_spec {t : Int} (h : jd.Valid) (hr : InRange (jd.total - t)) :
    (jd.sub (milliSeconds t)).Valid ∧ (jd.sub (milliSeconds t)).timeScale = jd.timeScale ∧
      (jd.sub (milliSeconds t)).total = jd.total - t := by
  rw [sub_eq h hr]
  exact ⟨valid_ofTotal, rfl, total_ofTotal hr⟩

theorem ofTotal_total (h : jd.Valid) : ofTotal jd.total jd.timeScale = jd :=
  (eq_ofTotal h rfl rfl).symm

theorem ofTotal_eq_iff {n : Int} (h : jd.Valid) (hn : InRange n) : ofTotal n jd.timeScale = jd ↔ n = jd.total := by
  constructor
  · intro he
    rw [← @total_ofTotal n jd.timeScale hn, he]
  · rintro rfl
    exact ofTotal_total h

theorem add_sub_cancel {t : Int} (h : jd.Valid) (hr : InRange (jd.total + t)) :
    (jd.add (milliSeconds t)).sub (milliSeconds t) = jd := by
  obtain ⟨hv, hts, htot⟩ := add_spec h hr
  have hback : (jd.add (milliSeconds t)).total - t = jd.total := by omega
  have hr₀ := inRange_total h
  rw [sub_eq hv (by rwa [hback]), hback, hts]
  exact ofTotal_total h

/-- The time between two dates is the difference of their numbers of milliseconds. -/
theorem since_eq (jd jd' : JulianDate) : jd.since jd' = milliSeconds (jd.total - jd'.total) := by
  unfold since total Time.days milliSeconds
  omega

theorem add_add {t₁ t₂ : Int} (h : jd.Valid) (h₁ : InRange (jd.total + t₁)) (h₂ : InRange (jd.total + (t₁ + t₂))) :
    (jd.add (milliSeconds t₁)).add (milliSeconds t₂) = jd.add (milliSeconds (t₁ + t₂)) := by
  obtain ⟨hv, hts, htot⟩ := add_spec h h₁
  have hsum : (jd.add (milliSeconds t₁)).total + t₂ = jd.total + (t₁ + t₂) := by omega
  rw [add_eq hv (by rwa [hsum]), hsum, hts, add_eq h h₂]

end Move

/-! ## Comparing dates -/

section Compare

variable {jd jd' : JulianDate}

/-- Dates on the same day. -/
theorem total_of_days_eq (h : jd.days = jd'.days) : jd.total - jd'.total = jd.msDay.toNat - jd'.msDay.toNat := by
  unfold total
  rw [h]
  omega

/-- Dates on different days. -/
theorem total_lt_of_days_ne (h : jd.Valid) (h' : jd'.Valid) (hne : jd.days ≠ jd'.days) :
    jd.total < jd'.total ↔ jd.days < jd'.days := by
  rw [valid_iff] at h h'
  rw [ne_eq, ← UInt32.toNat_inj] at hne
  rw [UInt32.lt_iff_toNat_lt]
  unfold total
  omega

theorem lt_iff (h : jd.Valid) (h' : jd'.Valid) : jd.lt jd' ↔ jd.total < jd'.total := by
  unfold lt
  split
  · rename_i hne
    rw [decide_eq_true_iff, total_lt_of_days_ne h h' hne]
  · rename_i heq
    have hd := total_of_days_eq (not_not.1 heq)
    rw [decide_eq_true_iff, UInt32.lt_iff_toNat_lt]
    omega

theorem le_iff (h : jd.Valid) (h' : jd'.Valid) : jd.le jd' ↔ jd.total ≤ jd'.total := by
  unfold le
  split
  · rename_i hne
    have hlt := total_lt_of_days_ne h h' hne
    have hgt := total_lt_of_days_ne h' h hne.symm
    rw [UInt32.lt_iff_toNat_lt] at hlt hgt
    rw [ne_eq, ← UInt32.toNat_inj] at hne
    rw [decide_eq_true_iff, UInt32.lt_iff_toNat_lt]
    omega
  · rename_i heq
    have hd := total_of_days_eq (not_not.1 heq)
    rw [decide_eq_true_iff, UInt32.le_iff_toNat_le]
    omega

theorem gt_eq (jd jd' : JulianDate) : jd.gt jd' = jd'.lt jd := by
  unfold gt lt
  simp only [ne_comm, gt_iff_lt]

theorem ge_eq (jd jd' : JulianDate) : jd.ge jd' = jd'.le jd := by
  unfold ge le
  simp only [ne_comm, gt_iff_lt, ge_iff_le]

/-- Dates are equal to the code when they have the same number of milliseconds, whatever their time scales. -/
theorem eq_iff (h : jd.Valid) (h' : jd'.Valid) : jd.eq jd' ↔ jd.total = jd'.total := by
  unfold eq
  split
  · rename_i hne
    rw [valid_iff] at h h'
    rw [ne_eq, ← UInt32.toNat_inj] at hne
    unfold total
    simp only [Bool.false_eq_true, false_iff]
    omega
  · rename_i heq
    have hd := total_of_days_eq (not_not.1 heq)
    rw [beq_iff_eq, ← UInt32.toNat_inj]
    omega

theorem ne_eq_not (jd jd' : JulianDate) : jd.ne jd' = !jd.eq jd' := by
  unfold ne eq
  split <;> rfl

end Compare

/-! ## Durations act on dates -/

/-- Durations of whole milliseconds act on the dates whose day is in range: moving keeps a date valid and its
time scale, moving back undoes it, the time between the two dates is the duration, durations of any signs add
up, and the comparisons are those of the number of milliseconds. -/
theorem duration_action :
    (∀ (jd : JulianDate) (t : Int), jd.Valid → InRange (jd.total + t) →
      (jd.add (milliSeconds t)).Valid ∧ (jd.add (milliSeconds t)).timeScale = jd.timeScale ∧
      (jd.add (milliSeconds t)).sub (milliSeconds t) = jd ∧ (jd.add (milliSeconds t)).since jd = milliSeconds t) ∧
    (∀ (jd : JulianDate) (t : Int), jd.Valid → InRange (jd.total - t) →
      (jd.sub (milliSeconds t)).Valid ∧ (jd.sub (milliSeconds t)).timeScale = jd.timeScale) ∧
    (∀ (jd : JulianDate) (t₁ t₂ : Int), jd.Valid → InRange (jd.total + t₁) → InRange (jd.total + (t₁ + t₂)) →
      (jd.add (milliSeconds t₁)).add (milliSeconds t₂) = jd.add (milliSeconds t₁ + milliSeconds t₂)) ∧
    (∀ (jd : JulianDate) (t : Int), jd.Valid → jd.add (-milliSeconds t) = jd.sub (milliSeconds t)) ∧
    (∀ jd jd' : JulianDate, jd.Valid → jd'.Valid →
      (jd.lt jd' ↔ jd.total < jd'.total) ∧ (jd.le jd' ↔ jd.total ≤ jd'.total) ∧
      (jd.gt jd' ↔ jd.total > jd'.total) ∧ (jd.ge jd' ↔ jd.total ≥ jd'.total) ∧
      (jd.eq jd' ↔ jd.total = jd'.total) ∧ (jd.ne jd' ↔ jd.total ≠ jd'.total)) := by
  refine ⟨?_, ?_, ?_, ?_, ?_⟩
  · intro jd t h hr
    obtain ⟨hv, hts, htot⟩ := add_spec h hr
    refine ⟨hv, hts, add_sub_cancel h hr, ?_⟩
    rw [since_eq, htot, add_sub_cancel_left]
  · intro jd t h hr
    obtain ⟨hv, hts, -⟩ := sub_spec h hr
    exact ⟨hv, hts⟩
  · intro jd t₁ t₂ h h₁ h₂
    rw [add_add h h₁ h₂, milliSeconds_add]
  · intro jd t h
    rw [← milliSeconds_neg, add_neg h]
  · intro jd jd' h h'
    refine ⟨lt_iff h h', le_iff h h', ?_, ?_, eq_iff h h', ?_⟩
    · rw [gt_eq]
      exact lt_iff h' h
    · rw [ge_eq]
      exact le_iff h' h
    · rw [ne_eq_not, Bool.not_eq_true', ← Bool.not_eq_true, eq_iff h h']

def beforeMidnight : JulianDate := ⟨8035, 86399500, .utc⟩

def afterMidnight : JulianDate := ⟨8036, 500, .utc⟩

/-- A second over midnight, forth and back. -/
theorem duration_action_midnight :
    (beforeMidnight.add (milliSeconds 1000)).sub (milliSeconds 1000) = beforeMidnight ∧
      (afterMidnight.sub (milliSeconds 1000)).Valid ∧
      (beforeMidnight.add (milliSeconds 1000)).add (milliSeconds (-600)) =
        beforeMidnight.add (milliSeconds 1000 + milliSeconds (-600)) ∧
      afterMidnight.add (-milliSeconds 1000) = afterMidnight.sub (milliSeconds 1000) ∧
      beforeMidnight.lt afterMidnight := by
  obtain ⟨hmove, hsub, hadd, hneg, hcmp⟩ := duration_action
  exact ⟨(hmove beforeMidnight 1000 (by decide) (by decide)).2.2.1, (hsub afterMidnight 1000 (by decide) (by decide)).1,
    hadd beforeMidnight 1000 (-600) (by decide) (by decide) (by decide), hneg afterMidnight 1000 (by decide),
    (hcmp beforeMidnight afterMidnight (by decide) (by decide)).1.2 (by decide)⟩

end JulianDate

end SatNet.Satellite
