/-
The calendar of `julian-date.cc`: the day number that `SetDate` computes from a date, and the date that
`GregorianDate` computes from a day number. The two are inverse to each other on the supported years after the
first; in 1992 the count of leap years before the year wraps below zero.
-/
import SatNet.Satellite.JulianDate
import Mathlib.Algebra.BigOperators.Group.List.Basic
import Mathlib.Tactic.IntervalCases

namespace SatNet.Satellite

open Time

/-! ## The source -/

@[ext] structure DateTime where
  year : UInt32
  month : UInt32
  day : UInt32
  hours : UInt32
  minutes : UInt32
  seconds : UInt32
  millisecs : UInt32
  deriving Repr, DecidableEq

def minYear : UInt32 := 1992

def posix1992 : UInt32 := 8035

/-- This works because only dates between 1992 and 2099 are considered. -/
def isLeapYear (year : UInt32) : Bool := year &&& 3 = 0

/-- The loop over the months, from month `i + 1` on: what is left of the days of the year, and the month, unless
none is found. -/
def findMonth : List UInt32 → UInt32 → UInt32 → UInt32 × Option UInt32
  | [], _, daysOfYear => (daysOfYear, none)
  | monthDays :: rest, i, daysOfYear =>
    if daysOfYear ≤ monthDays then (daysOfYear, some (i + 1)) else findMonth rest (i + 1) (daysOfYear - monthDays)

/-- The days of the months; if it is a leap year, February has 29 days. -/
def monthDays (leap : Bool) : List UInt32 := [31, if leap then 28 + 1 else 28, 31, 30, 31, 30, 31, 31, 30, 31, 30, 31]

/-- `GregorianDate`, whose `DateTime` starts out with the values `dt`. The division by 365.25 is one of doubles,
which are wide enough for its integer part to be exact. -/
def gregorianDate (dt : DateTime) (days msDay : UInt32) : DateTime :=
  let d := days - posix1992
  let t := milliSeconds msDay.toNat
  -- this formula only works if we consider an year that is multiple of 4
  let year := UInt32.ofNat (4 * d.toNat / 1461) + minYear
  let leapYears := (year - (minYear + 1)) / 4
  let daysOfYear := d - ((year - minYear) * 365 + leapYears)
  let (day, month) := findMonth (monthDays (isLeapYear year)) 0 daysOfYear
  let hours := uint32 (getHours t)
  let t := t - Time.hours hours.toNat
  let minutes := uint32 (getMinutes t)
  let t := t - Time.minutes minutes.toNat
  let seconds := uint32 (getSeconds t)
  let t := t - Time.seconds seconds.toNat
  ⟨year, month.getD dt.month, day, hours, minutes, seconds, uint32 (getMilliSeconds t)⟩

/-- The days that `SetDate` computes from a date. -/
def setDateDays (dt : DateTime) : UInt32 :=
  367 * dt.year - 7 * (dt.year + (dt.month + 9) / 12) / 4 + 275 * dt.month / 9 + dt.day - 719574

/-- The milliseconds of the day. -/
def setDateMs (dt : DateTime) : UInt32 := (dt.hours * 3600 + dt.minutes * 60 + dt.seconds) * 1000 + dt.millisecs

/-! ## The calendar -/

/-- The rule of the Gregorian calendar. -/
def leap (year : Nat) : Bool := year % 4 = 0 ∧ (year % 100 ≠ 0 ∨ year % 400 = 0)

def monthLength (leap : Bool) : Nat → Nat
  | 2 => if leap then 29 else 28
  | 4 => 30
  | 6 => 30
  | 9 => 30
  | 11 => 30
  | _ => 31

/-- A date of the supported years at which the month has the day, with a time of the day. -/
structure InCalendar (dt : DateTime) : Prop where
  year : 1992 ≤ dt.year.toNat ∧ dt.year.toNat ≤ 2099
  month : 1 ≤ dt.month.toNat ∧ dt.month.toNat ≤ 12
  day : 1 ≤ dt.day.toNat ∧ dt.day.toNat ≤ monthLength (leap dt.year.toNat) dt.month.toNat
  hours : dt.hours.toNat < 24
  minutes : dt.minutes.toNat < 60
  seconds : dt.seconds.toNat < 60
  millisecs : dt.millisecs.toNat < 1000

/-- The days from the first of the supported range to the first day of a year. -/
def yearStart (year : Nat) : Nat := 365 * (year - 1992) + (year - 1989) / 4

/-- The days of a year before a month. -/
def monthStart (leap : Bool) (month : Nat) : Nat := (((monthDays leap).take (month - 1)).map (·.toNat)).sum

/-- In the supported years every fourth year is a leap year. -/
theorem leap_eq {year : Nat} (h₁ : 1992 ≤ year) (h₂ : year ≤ 2099) : leap year = decide (year % 4 = 0) := by
  unfold leap
  rw [decide_eq_decide]
  omega

theorem isLeapYear_eq {year : UInt32} (h₁ : 1992 ≤ year.toNat) (h₂ : year.toNat ≤ 2099) :
    isLeapYear year = leap year.toNat := by
  rw [leap_eq h₁ h₂]
  unfold isLeapYear
  rw [decide_eq_decide, ← UInt32.toNat_inj, UInt32.toNat_and]
  exact Eq.congr_left (Nat.and_two_pow_sub_one_eq_mod year.toNat 2)

theorem monthDays_getElem (b : Bool) {m : Nat} (h₁ : 1 ≤ m) (h₂ : m ≤ 12) :
    (monthDays b)[m - 1]? = some (UInt32.ofNat (monthLength b m)) := by
  interval_cases m <;> cases b <;> rfl

/-! ## The months of a year -/

/-- The loop finds the month in which the day lies, and its day. -/
theorem findMonth_eq {e m : UInt32} (he : 0 < e.toNat) (hem : e ≤ m) : ∀ {l : List UInt32} {j : Nat} (i d : UInt32),
    l[j]? = some m → d.toNat = ((l.take j).map (·.toNat)).sum + e.toNat →
    findMonth l i d = (e, some (i + UInt32.ofNat j + 1))
  | [], j, i, d, hm, _ => by cases hm
  | m₀ :: l, 0, i, d, hm, hd => by
    cases hm
    have hde : d = e := by
      rw [← UInt32.toNat_inj]
      simpa using hd
    subst hde
    unfold findMonth
    rw [if_pos hem]
    simp
  | m₀ :: l, j + 1, i, d, hm, hd => by
    rw [List.getElem?_cons_succ] at hm
    rw [List.take_succ_cons, List.map_cons, List.sum_cons] at hd
    have hlt := d.toNat_lt
    have hgt : ¬ d ≤ m₀ := by
      rw [UInt32.le_iff_toNat_le]
      omega
    have hsub : (d - m₀).toNat = ((l.take j).map (·.toNat)).sum + e.toNat := by
      rw [UInt32.toNat_sub]
      omega
    unfold findMonth
    rw [if_neg hgt, findMonth_eq he hem (i + 1) (d - m₀) hm hsub, UInt32.add_assoc i, UInt32.add_comm 1,
      UInt32.ofNat_add]
    rfl

/-- Every day of a list of months lies in one of them. -/
theorem exists_month : ∀ {l : List UInt32} {d : Nat}, 0 < d → d ≤ (l.map (·.toNat)).sum →
    ∃ (j : Nat) (m : UInt32) (e : Nat), l[j]? = some m ∧ 0 < e ∧ e ≤ m.toNat ∧ d = ((l.take j).map (·.toNat)).sum + e
  | [], d, hpos, hle => by
    simp at hle
    omega
  | m₀ :: l, d, hpos, hle => by
    rw [List.map_cons, List.sum_cons] at hle
    by_cases hm : d ≤ m₀.toNat
    · exact ⟨0, m₀, d, rfl, hpos, hm, by simp⟩
    · obtain ⟨j, m, e, hj, he, hem, hd⟩ := @exists_month l (d - m₀.toNat) (by omega) (by omega)
      refine ⟨j + 1, m, e, hj, he, hem, ?_⟩
      rw [List.take_succ_cons, List.map_cons, List.sum_cons]
      omega

/-- A number beyond the days of the year lies in no month. -/
theorem findMonth_none : ∀ {l : List UInt32} (i d : UInt32), (l.map (·.toNat)).sum < d.toNat →
    (findMonth l i d).2 = none ∧ (findMonth l i d).1.toNat = d.toNat - (l.map (·.toNat)).sum
  | [], i, d, _ => ⟨rfl, rfl⟩
  | m₀ :: l, i, d, h => by
    rw [List.map_cons, List.sum_cons] at h ⊢
    have hgt : ¬ d ≤ m₀ := by
      rw [UInt32.le_iff_toNat_le]
      omega
    have hsub : (d - m₀).toNat = d.toNat - m₀.toNat :=
      UInt32.toNat_sub_of_le _ _ (UInt32.le_iff_toNat_le.2 (by omega))
    obtain ⟨hnone, hrest⟩ := findMonth_none (l := l) (i + 1) (d - m₀) (by omega)
    unfold findMonth
    rw [if_neg hgt]
    exact ⟨hnone, by omega⟩

/-! ## Day numbers -/

/-- What the division by 9 in the formula of `SetDate` counts: two days too many from March on, one in a leap year. -/
theorem monthStart_eq (b : Bool) {m : Nat} (h₁ : 1 ≤ m) (h₂ : m ≤ 12) :
    monthStart b m + 30 + (if m ≤ 2 then 0 else if b then 1 else 2) = 275 * m / 9 := by
  interval_cases m <;> cases b <;> rfl

/-- Nothing wraps in the formula of `SetDate`. -/
theorem setDateDays_sum (dt : DateTime) (hy₁ : 1992 ≤ dt.year.toNat) (hy₂ : dt.year.toNat ≤ 2099)
    (hm : dt.month.toNat ≤ 12)
    (hd : dt.day.toNat ≤ 31) :
    (setDateDays dt).toNat + 7 * (dt.year.toNat + (dt.month.toNat + 9) / 12) / 4 + 719574 =
      367 * dt.year.toNat + 275 * dt.month.toNat / 9 + dt.day.toNat := by
  have h367 : (367 * dt.year).toNat = 367 * dt.year.toNat := by
    simp only [UInt32.toNat_mul, UInt32.reduceToNat]
    omega
  have h12 : (dt.year + (dt.month + 9) / 12).toNat = dt.year.toNat + (dt.month.toNat + 9) / 12 := by
    simp only [UInt32.toNat_add, UInt32.toNat_div, UInt32.reduceToNat]
    omega
  have h7 : (7 * (dt.year + (dt.month + 9) / 12) / 4).toNat = 7 * (dt.year.toNat + (dt.month.toNat + 9) / 12) / 4 := by
    simp only [UInt32.toNat_div, UInt32.toNat_mul, h12, UInt32.reduceToNat]
    omega
  have h275 : (275 * dt.month / 9).toNat = 275 * dt.month.toNat / 9 := by
    simp only [UInt32.toNat_div, UInt32.toNat_mul, UInt32.reduceToNat]
    omega
  have hsub : (367 * dt.year - 7 * (dt.year + (dt.month + 9) / 12) / 4).toNat =
      367 * dt.year.toNat - 7 * (dt.year.toNat + (dt.month.toNat + 9) / 12) / 4 := by
    rw [UInt32.toNat_sub_of_le _ _ (by rw [UInt32.le_iff_toNat_le, h367, h7]; omega), h367, h7]
  unfold setDateDays
  simp only [UInt32.toNat_sub (_ + _), UInt32.toNat_add, hsub, h275, UInt32.reduceToNat]
  omega

theorem monthLength_le (b : Bool) (m : Nat) : monthLength b m ≤ 31 := by
  unfold monthLength
  cases b <;> split <;> decide

/-- The formula of `SetDate` counts the days. -/
theorem setDateDays_toNat {dt : DateTime} (h : InCalendar dt) : (setDateDays dt).toNat + 1 =
    8035 + yearStart dt.year.toNat + monthStart (leap dt.year.toNat) dt.month.toNat + dt.day.toNat := by
  obtain ⟨⟨hy₁, hy₂⟩, ⟨hm₁, hm₂⟩, ⟨hd₁, hd₂⟩, -⟩ := h
  have hlen := monthLength_le (leap dt.year.toNat) dt.month.toNat
  have hmonth := monthStart_eq (leap dt.year.toNat) hm₁ hm₂
  have hsum := setDateDays_sum dt hy₁ hy₂ hm₂ (by omega)
  unfold yearStart
  have hleap : leap dt.year.toNat = decide (dt.year.toNat % 4 = 0) := leap_eq hy₁ hy₂
  have hfour : dt.year.toNat % 4 = 0 ∨ dt.year.toNat % 4 = 1 ∨ dt.year.toNat % 4 = 2 ∨ dt.year.toNat % 4 = 3 := by omega
  generalize leap dt.year.toNat = b at *
  by_cases hm : dt.month.toNat ≤ 2
  · have hc : (dt.month.toNat + 9) / 12 = 0 := by omega
    rw [if_pos hm] at hmonth
    rw [hc] at hsum
    rcases hfour with hy | hy | hy | hy <;> omega
  · have hc : (dt.month.toNat + 9) / 12 = 1 := by omega
    rw [if_neg hm] at hmonth
    rw [hc] at hsum
    cases b with
    | true =>
      have hy : dt.year.toNat % 4 = 0 := of_decide_eq_true hleap.symm
      rw [if_pos rfl] at hmonth
      omega
    | false =>
      have hy : dt.year.toNat % 4 ≠ 0 := of_decide_eq_false hleap.symm
      rw [if_neg Bool.false_ne_true] at hmonth
      rcases hfour with hy | hy | hy | hy <;> omega

/-- The days of a year. -/
def yearLength (leap : Bool) : Nat := if leap then 366 else 365

theorem monthStart_add_le (b : Bool) {m : Nat} (h₁ : 1 ≤ m) (h₂ : m ≤ 12) :
    monthStart b m + monthLength b m ≤ yearLength b := by
  interval_cases m <;> cases b <;> decide

/-- The division by 365.25 finds the year. -/
theorem year_eq {y n : Nat} (h₁ : 1992 ≤ y) (h₂ : y ≤ 2099) (hn₁ : 1 ≤ n) (hn₂ : n ≤ yearLength (leap y)) :
    4 * (yearStart y + n - 1) / 1461 + 1992 = y := by
  have hleap := leap_eq h₁ h₂
  have hfour : y % 4 = 0 ∨ y % 4 = 1 ∨ y % 4 = 2 ∨ y % 4 = 3 := by omega
  unfold yearLength at hn₂
  unfold yearStart
  rcases hfour with hy | hy | hy | hy <;> rw [hleap, hy] at hn₂ <;> simp at hn₂ <;> omega

/-- From 1993 on the date of a day number is found. -/
theorem gregorianDate_day (uninit : DateTime) {dt : DateTime} (h : InCalendar dt) (hy : 1993 ≤ dt.year.toNat)
    (msDay : UInt32) :
    (gregorianDate uninit (setDateDays dt) msDay).year = dt.year ∧
      (gregorianDate uninit (setDateDays dt) msDay).month = dt.month ∧
      (gregorianDate uninit (setDateDays dt) msDay).day = dt.day := by
  have hdays := setDateDays_toNat h
  obtain ⟨⟨hy₁, hy₂⟩, ⟨hm₁, hm₂⟩, ⟨hd₁, hd₂⟩, -⟩ := h
  have hlen := monthStart_add_le (leap dt.year.toNat) hm₁ hm₂
  have hlen' : yearLength (leap dt.year.toNat) ≤ 366 := by unfold yearLength; split <;> decide
  obtain ⟨n, hn⟩ : ∃ n, n = monthStart (leap dt.year.toNat) dt.month.toNat + dt.day.toNat := ⟨_, rfl⟩
  have hstart : yearStart dt.year.toNat ≤ 39447 := by unfold yearStart; omega
  have hd : (setDateDays dt - posix1992).toNat = yearStart dt.year.toNat + n - 1 := by
    rw [UInt32.toNat_sub, show posix1992.toNat = 8035 from rfl]
    omega
  have hyear : UInt32.ofNat (4 * (setDateDays dt - posix1992).toNat / 1461) + minYear = dt.year := by
    have hdiv := year_eq hy₁ hy₂ (n := n) (by omega) (by omega)
    rw [← UInt32.toNat_inj, UInt32.toNat_add, UInt32.toNat_ofNat', hd, show minYear.toNat = 1992 from rfl]
    omega
  have hbefore : ((dt.year - minYear) * 365 + (dt.year - (minYear + 1)) / 4).toNat =
      365 * (dt.year.toNat - 1992) + (dt.year.toNat - 1993) / 4 := by
    have h92 : (dt.year - minYear).toNat = dt.year.toNat - 1992 :=
      UInt32.toNat_sub_of_le _ _ (UInt32.le_iff_toNat_le.2 hy₁)
    have h93 : (dt.year - (minYear + 1)).toNat = dt.year.toNat - 1993 :=
      UInt32.toNat_sub_of_le _ _ (UInt32.le_iff_toNat_le.2 hy)
    rw [UInt32.toNat_add, UInt32.toNat_mul, UInt32.toNat_div, h92, h93]
    simp only [UInt32.reduceToNat]
    omega
  have hdoy : (setDateDays dt - posix1992 - ((dt.year - minYear) * 365 + (dt.year - (minYear + 1)) / 4)).toNat = n := by
    unfold yearStart at hd
    have hle : 365 * (dt.year.toNat - 1992) + (dt.year.toNat - 1993) / 4 ≤ (setDateDays dt - posix1992).toNat := by omega
    rw [UInt32.toNat_sub_of_le _ _ (UInt32.le_iff_toNat_le.2 (hbefore.trans_le hle)), hbefore, hd]
    omega
  have hmonth : (0 : UInt32) + UInt32.ofNat (dt.month.toNat - 1) + 1 = dt.month := by
    rw [← UInt32.toNat_inj, UInt32.zero_add, UInt32.toNat_add, UInt32.toNat_ofNat', UInt32.toNat_one]
    omega
  have hfits : dt.day ≤ UInt32.ofNat (monthLength (leap dt.year.toNat) dt.month.toNat) := by
    have hmonth := monthLength_le (leap dt.year.toNat) dt.month.toNat
    rw [UInt32.le_iff_toNat_le, UInt32.toNat_ofNat']
    omega
  have hfind := findMonth_eq hd₁ hfits 0 _ (monthDays_getElem (leap dt.year.toNat) hm₁ hm₂) (hdoy.trans hn)
  unfold gregorianDate
  simp only [hyear, isLeapYear_eq hy₁ hy₂, hfind, hmonth, Option.getD_some, and_self]

/-- In 1992 the leap years before the year are counted below zero: no month is found, and what is left as the day
is far too large. -/
theorem gregorianDate_1992 (uninit : DateTime) {days : UInt32} (h₁ : 8035 ≤ days.toNat) (h₂ : days.toNat < 8401)
    (msDay : UInt32) :
    (gregorianDate uninit days msDay).month = uninit.month ∧ 31 < (gregorianDate uninit days msDay).day.toNat := by
  have hd : (days - posix1992).toNat = days.toNat - 8035 := UInt32.toNat_sub_of_le _ _ (UInt32.le_iff_toNat_le.2 h₁)
  have hyear : UInt32.ofNat (4 * (days - posix1992).toNat / 1461) + minYear = 1992 := by
    have hdiv : 4 * (days - posix1992).toNat / 1461 = 0 := by omega
    rw [hdiv]
    rfl
  have hdoy : (days - posix1992 - (((1992 : UInt32) - minYear) * 365 + (1992 - (minYear + 1)) / 4)).toNat =
      days.toNat - 8035 + 3221225473 := by
    rw [UInt32.toNat_sub, hd, show (((1992 : UInt32) - minYear) * 365 + (1992 - (minYear + 1)) / 4).toNat = 1073741823 from rfl]
    omega
  obtain ⟨hnone, hrest⟩ := findMonth_none (l := monthDays (isLeapYear 1992)) 0
    (days - posix1992 - (((1992 : UInt32) - minYear) * 365 + (1992 - (minYear + 1)) / 4))
    (by rw [hdoy]; exact lt_of_lt_of_le (by decide : _ < 367) (by omega))
  unfold gregorianDate
  simp only [hyear, hnone, Option.getD_none, true_and]
  rw [hrest, hdoy, show ((monthDays (isLeapYear 1992)).map (·.toNat)).sum = 366 from rfl]
  omega

/-! ## The time of the day -/

theorem setDateMs_toNat {dt : DateTime} (h : InCalendar dt) : (setDateMs dt).toNat =
    ((dt.hours.toNat * 60 + dt.minutes.toNat) * 60 + dt.seconds.toNat) * 1000 + dt.millisecs.toNat := by
  obtain ⟨-, -, -, hh, hm, hs, hms⟩ := h
  unfold setDateMs
  simp only [UInt32.toNat_add, UInt32.toNat_mul, UInt32.reduceToNat]
  omega

/-- The hours, minutes, seconds and milliseconds are taken off one after the other. -/
theorem gregorianDate_time (dt : DateTime) (days : UInt32) {msDay : UInt32} (h : msDay < dayToMs) :
    (gregorianDate dt days msDay).hours.toNat = msDay.toNat / 3600000 ∧
      (gregorianDate dt days msDay).minutes.toNat = msDay.toNat % 3600000 / 60000 ∧
      (gregorianDate dt days msDay).seconds.toNat = msDay.toNat % 60000 / 1000 ∧
      (gregorianDate dt days msDay).millisecs.toNat = msDay.toNat % 1000 := by
  rw [UInt32.lt_iff_toNat_lt, dayToMs_toNat] at h
  have hh := @uint32_toNat (msDay.toNat / 3600000) (by omega) (by omega)
  have hm := @uint32_toNat (msDay.toNat % 3600000 / 60000) (by omega) (by omega)
  have hs := @uint32_toNat (msDay.toNat % 60000 / 1000) (by omega) (by omega)
  have hms := @uint32_toNat (msDay.toNat % 1000) (by omega) (by omega)
  have hours_eq : milliSeconds msDay.toNat - Time.hours (msDay.toNat / 3600000) = milliSeconds (msDay.toNat % 3600000) := by
    unfold milliSeconds Time.hours
    omega
  have minutes_eq : milliSeconds (msDay.toNat % 3600000) - Time.minutes (msDay.toNat % 3600000 / 60000) =
      milliSeconds (msDay.toNat % 60000) := by
    unfold milliSeconds Time.minutes
    omega
  have seconds_eq : milliSeconds (msDay.toNat % 60000) - Time.seconds (msDay.toNat % 60000 / 1000) =
      milliSeconds (msDay.toNat % 1000) := by
    unfold milliSeconds Time.seconds
    omega
  unfold gregorianDate
  simp only [getHours_milliSeconds (Int.natCast_nonneg _), hh, hours_eq,
    getMinutes_milliSeconds (Int.emod_nonneg (msDay.toNat : Int) (by decide : (3600000 : Int) ≠ 0)), hm, minutes_eq,
    getSeconds_milliSeconds (Int.emod_nonneg (msDay.toNat : Int) (by decide : (60000 : Int) ≠ 0)), hs, seconds_eq,
    getMilliSeconds_milliSeconds]
  omega

/-! ## Both ways -/

theorem gregorianDate_setDate (uninit : DateTime) {dt : DateTime} (h : InCalendar dt) (hy : 1993 ≤ dt.year.toNat) :
    gregorianDate uninit (setDateDays dt) (setDateMs dt) = dt := by
  obtain ⟨hyear, hmonth, hday⟩ := gregorianDate_day uninit h hy (setDateMs dt)
  have hms := setDateMs_toNat h
  obtain ⟨-, -, -, hh, hm, hs, hmilli⟩ := h
  have hlt : setDateMs dt < dayToMs := by
    rw [UInt32.lt_iff_toNat_lt, dayToMs_toNat]
    omega
  obtain ⟨th, tm, ts, tms⟩ := gregorianDate_time uninit (setDateDays dt) hlt
  apply DateTime.ext
  · exact hyear
  · exact hmonth
  · exact hday
  · rw [← UInt32.toNat_inj]
    omega
  · rw [← UInt32.toNat_inj]
    omega
  · rw [← UInt32.toNat_inj]
    omega
  · rw [← UInt32.toNat_inj]
    omega

/-- Every day of the supported years after the first lies in a year. -/
theorem exists_year {N : Nat} (h₁ : 8401 ≤ N) (h₂ : N ≤ 47481) :
    ∃ y n, 1993 ≤ y ∧ y ≤ 2099 ∧ 1 ≤ n ∧ n ≤ yearLength (leap y) ∧ N + 1 = 8035 + yearStart y + n := by
  obtain ⟨a, ha⟩ : ∃ a, a = 4 * (N - 8035) / 1461 := ⟨_, rfl⟩
  have hleap : leap (a + 1992) = decide ((a + 1992) % 4 = 0) := leap_eq (by omega) (by omega)
  have hfour : (a + 1992) % 4 = 0 ∨ (a + 1992) % 4 = 1 ∨ (a + 1992) % 4 = 2 ∨ (a + 1992) % 4 = 3 := by omega
  refine ⟨a + 1992, N - 8034 - yearStart (a + 1992), by omega, by omega, ?_, ?_, ?_⟩
  · unfold yearStart
    rcases hfour with hy | hy | hy | hy <;> omega
  · unfold yearStart yearLength
    rcases hfour with hy | hy | hy | hy <;> rw [hleap, hy] <;> simp <;> omega
  · unfold yearStart
    rcases hfour with hy | hy | hy | hy <;> omega

/-- Every day of the supported years after the first, and every millisecond of it, is that of a date. -/
theorem exists_date {days msDay : UInt32} (h₁ : 8401 ≤ days.toNat) (h₂ : days.toNat ≤ 47481) (hms : msDay < dayToMs) :
    ∃ dt, InCalendar dt ∧ 1993 ≤ dt.year.toNat ∧ setDateDays dt = days ∧ setDateMs dt = msDay := by
  rw [UInt32.lt_iff_toNat_lt, dayToMs_toNat] at hms
  obtain ⟨y, n, hy₁, hy₂, hn₁, hn₂, hdays⟩ := exists_year h₁ h₂
  have hsum : n ≤ ((monthDays (leap y)).map (·.toNat)).sum := by
    cases hl : leap y <;> rw [hl] at hn₂ <;> exact hn₂
  obtain ⟨j, m, e, hj, he, hem, rfl⟩ := exists_month (by omega) hsum
  have hj₂ : j < 12 := (List.getElem?_eq_some_iff.1 hj).1
  have hm : m = UInt32.ofNat (monthLength (leap y) (j + 1)) := by
    have hget := monthDays_getElem (leap y) (m := j + 1) (by omega) (by omega)
    rw [Nat.add_sub_cancel, hj] at hget
    exact Option.some.inj hget
  have hlen := monthLength_le (leap y) (j + 1)
  rw [hm, UInt32.toNat_ofNat'] at hem
  have small : ∀ x : Nat, x < 2 ^ 32 → (UInt32.ofNat x).toNat = x := fun x hx => UInt32.toNat_ofNat_of_lt' hx
  have hdate : InCalendar ⟨UInt32.ofNat y, UInt32.ofNat (j + 1), UInt32.ofNat e, UInt32.ofNat (msDay.toNat / 3600000),
      UInt32.ofNat (msDay.toNat % 3600000 / 60000), UInt32.ofNat (msDay.toNat % 60000 / 1000),
      UInt32.ofNat (msDay.toNat % 1000)⟩ := by
    constructor <;> simp only <;> repeat rw [small _ (by omega)]
    all_goals omega
  have hd := setDateDays_toNat hdate
  have hms' := setDateMs_toNat hdate
  refine ⟨_, hdate, ?_, ?_, ?_⟩
  · simp only
    rw [small _ (by omega)]
    exact hy₁
  · rw [← UInt32.toNat_inj]
    simp only at hd ⊢
    rw [small y (by omega), small (j + 1) (by omega), small e (by omega), monthStart, Nat.add_sub_cancel] at hd
    omega
  · rw [← UInt32.toNat_inj, hms']
    simp only
    rw [small _ (by omega), small _ (by omega), small _ (by omega), small _ (by omega)]
    omega

/-- The formula of `SetDate` and `GregorianDate` are inverse to each other on every date and every day number of
the supported years but those of 1992, whatever the `DateTime` holds before it is filled. -/
theorem gregorian_roundTrip_iff (uninit : DateTime) :
    (∀ dt, InCalendar dt → (gregorianDate uninit (setDateDays dt) (setDateMs dt) = dt ↔ dt.year ≠ 1992)) ∧
    ∀ days msDay : UInt32, 8035 ≤ days → days ≤ 47481 → msDay < dayToMs →
      (setDateDays (gregorianDate uninit days msDay) = days ∧ setDateMs (gregorianDate uninit days msDay) = msDay ∧
        InCalendar (gregorianDate uninit days msDay) ↔ 8401 ≤ days) := by
  constructor
  · intro dt h
    constructor
    · intro hback hy
      -- the day that comes back is in no month
      have hdays := setDateDays_toNat h
      have hlen := monthStart_add_le (leap dt.year.toNat) h.month.1 h.month.2
      have hlen' : yearLength (leap dt.year.toNat) ≤ 366 := by unfold yearLength; split <;> decide
      have hday := h.day
      have hmonth := monthLength_le (leap dt.year.toNat) dt.month.toNat
      have hstart : yearStart dt.year.toNat = 0 := by rw [hy]; rfl
      have hbad := (@gregorianDate_1992 uninit (setDateDays dt) (by omega) (by omega) (setDateMs dt)).2
      rw [hback] at hbad
      omega
    · intro hy
      apply gregorianDate_setDate uninit h
      have hne : dt.year.toNat ≠ 1992 := fun he => hy (UInt32.toNat_inj.1 he)
      have hle := h.year.1
      omega
  · intro days msDay h₁ h₂ hms
    rw [UInt32.le_iff_toNat_le] at h₁ h₂
    constructor
    · rintro ⟨-, -, hcal⟩
      rw [UInt32.le_iff_toNat_le]
      by_contra hlt
      have hbad := (gregorianDate_1992 uninit h₁ (not_le.1 hlt) msDay).2
      have hday := hcal.day
      have hmonth := monthLength_le (leap (gregorianDate uninit days msDay).year.toNat)
        (gregorianDate uninit days msDay).month.toNat
      omega
    · intro hge
      obtain ⟨dt, hdt, hy, rfl, rfl⟩ := exists_date (UInt32.le_iff_toNat_le.1 hge) h₂ hms
      rw [gregorianDate_setDate uninit hdt hy]
      exact ⟨rfl, rfl, hdt⟩

def leapDay2000 : DateTime := ⟨2000, 2, 29, 23, 59, 59, 999⟩

theorem leapDay2000_inCalendar : InCalendar leapDay2000 :=
  ⟨by decide, by decide, by decide, by decide, by decide, by decide, by decide⟩

theorem gregorian_roundTrip_2000 :
    gregorianDate ⟨0, 0, 0, 0, 0, 0, 0⟩ (setDateDays leapDay2000) (setDateMs leapDay2000) = leapDay2000 ∧
      setDateDays (gregorianDate ⟨0, 0, 0, 0, 0, 0, 0⟩ 11016 86399999) = 11016 :=
  ⟨((gregorian_roundTrip_iff ⟨0, 0, 0, 0, 0, 0, 0⟩).1 leapDay2000 leapDay2000_inCalendar).2 (by decide),
    (((gregorian_roundTrip_iff ⟨0, 0, 0, 0, 0, 0, 0⟩).2 11016 86399999 (by decide) (by decide) (by decide)).2 (by decide)).1⟩

def newYear1992 : DateTime := ⟨1992, 1, 1, 0, 0, 0, 0⟩

/-- The first day of the supported range does not come back. -/
theorem gregorian_roundTrip_1992 :
    ¬ ∀ (uninit dt : DateTime), InCalendar dt → gregorianDate uninit (setDateDays dt) (setDateMs dt) = dt := by
  intro h
  have hback := h ⟨0, 0, 0, 0, 0, 0, 0⟩ newYear1992
    ⟨by decide, by decide, by decide, by decide, by decide, by decide, by decide⟩
  exact absurd hback (by decide)

end SatNet.Satellite
