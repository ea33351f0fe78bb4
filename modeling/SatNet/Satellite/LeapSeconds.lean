/-
The leap seconds of `julian-date.cc`: how `constants-gen.cc` reads their days from `tai-utc.dat`, and TAI - UTC,
which a binary search in the table of these days finds. The search counts the days before the given one, so a
leap second is missing on the day on which it takes effect, and on no other.
-/
import SatNet.Base.Spelling
import SatNet.Lib.LowerBound
import SatNet.Satellite.JulianDate

namespace SatNet.Satellite

open SatNet.LowerBound SatNet.ExpUtil SatNet.Loop Time

/-! ## The table -/

structure IersData where
  leapSeconds : List UInt32
  baseLeapSeconds : UInt32
  /-- `Dut1`: what UT1 - UTC is on a day. -/
  dut1 : UInt32 → Int

/-- `TaiMinusUtc`. -/
def IersData.taiMinusUtc (data : IersData) (daysInPosix : UInt32) : Int :=
  milliSeconds ((lowerBound (· < daysInPosix) data.leapSeconds + data.baseLeapSeconds.toNat) * 1000)

/-- The table of `iers-data.cc`. -/
def leapSeconds : List UInt32 :=
  [912, 1096, 1461, 1826, 2191, 2557, 2922, 3287, 3652, 4199, 4564, 4929, 5660, 6574, 7305, 7670, 8217, 8582, 8947,
    9496, 10043, 10592, 13149, 14245, 15522, 16617]

/-! ## Reading the table -/

/-- `iss.ignore(line.size(), delim)`: what stands before the first `delim` goes, and it too. -/
def ignore (delim : Char) (s : Str) : Str := (s.dropWhile (· ≠ delim)).tail

/-- `iss >> jd` into a variable without a value, which it keeps if nothing is left to read. -/
def extractUInt32 (s : Str) : Res UInt32 :=
  if leftTrim s = [] then .error (.undefined "read of an uninitialised variable")
  else
    let (negative, body) := signOf (leftTrim s)
    let n := decimal (body.takeWhile Char.isDigit)
    if n ≥ 2 ^ 32 then .ok 4294967295
    else .ok (if negative then -UInt32.ofNat n else UInt32.ofNat n)

/-- What `ReadLeapSeconds` pushes for a line. -/
def leapDay (line : Str) : Res UInt32 := do
  let iss := ignore ' ' line
  let iss := ignore ' ' iss
  let iss := ignore '=' iss
  let iss := ignore ' ' iss
  let jd ← extractUInt32 iss
  -- time relative to Unix epoch for when leap second was introduced
  .ok (jd - 2440587)

/-- The loop of `ReadLeapSeconds` after `linenum` lines. -/
def readLeapLines : Nat → List Str → Res (List UInt32)
  | _, [] => .ok []
  | linenum, line :: lines =>
    -- ignore the first 14 lines
    if linenum + 1 ≤ 14 then readLeapLines (linenum + 1) lines
    else if line = [] then .ok []
    else do
      let d ← leapDay line
      let v ← readLeapLines (linenum + 1) lines
      .ok (d :: v)

def readLeapSeconds (lines : List Str) : Res (List UInt32) := readLeapLines 0 lines

/-- A line of `tai-utc.dat` from 1972 on: behind the date and `=JD` it gives a Julian date and half a day, the
midnight with which day `d` since the epoch starts. -/
def TakesEffect (line : Str) (d : UInt32) : Prop :=
  ∃ a year month jd digits rest,
    line = a ++ ' ' :: (year ++ ' ' :: (month ++ '=' :: (jd ++ ' ' :: (digits ++ '.' :: rest)))) ∧
      ' ' ∉ a ∧ ' ' ∉ year ∧ '=' ∉ month ∧ ' ' ∉ jd ∧ digits ≠ [] ∧ (∀ c ∈ digits, c.isDigit = true) ∧
      decimal digits = 2440587 + d.toNat ∧ decimal digits < 2 ^ 32

theorem ignore_append {delim : Char} {l : Str} (h : delim ∉ l) (r : Str) : ignore delim (l ++ delim :: r) = r := by
  unfold ignore
  rw [List.dropWhile_append_of_pos]
  · simp
  · intro c hc
    simp only [ne_eq, decide_eq_true_eq]
    rintro rfl
    exact h hc

theorem extractUInt32_digits {digits : Str} (hne : digits ≠ []) (hd : ∀ c ∈ digits, c.isDigit = true)
    (hlt : decimal digits < 2 ^ 32) (rest : Str) :
    extractUInt32 (digits ++ '.' :: rest) = .ok (UInt32.ofNat (decimal digits)) := by
  have htake : (digits ++ '.' :: rest).takeWhile Char.isDigit = digits := by
    rw [List.takeWhile_append_of_pos hd]
    simp
  obtain ⟨c, ds, rfl⟩ := List.exists_cons_of_ne_nil hne
  obtain ⟨hblank, hplus, hminus⟩ := isDigit_not_blank (hd c (List.mem_cons_self ..))
  have htrim : leftTrim ((c :: ds) ++ '.' :: rest) = (c :: ds) ++ '.' :: rest := by
    unfold leftTrim
    rw [List.cons_append, List.dropWhile_cons_of_neg (by simp [hblank])]
  have hsign : signOf ((c :: ds) ++ '.' :: rest) = (false, (c :: ds) ++ '.' :: rest) := by
    rw [List.cons_append]
    unfold signOf
    split
    · simp_all
    · simp_all
    · rfl
  unfold extractUInt32
  rw [htrim, hsign, if_neg (by simp)]
  simp only [htake]
  rw [if_neg (by omega)]
  simp

theorem leapDay_eq {line : Str} {d : UInt32} (h : TakesEffect line d) : leapDay line = .ok d := by
  obtain ⟨a, year, month, jd, digits, rest, rfl, ha, hyear, hmonth, hjd, hne, hd, hval, hlt⟩ := h
  unfold leapDay
  simp only [ignore_append ha, ignore_append hyear, ignore_append hmonth, ignore_append hjd,
    extractUInt32_digits hne hd hlt, ok_bind, hval]
  congr 1
  rw [← UInt32.toNat_inj, UInt32.toNat_sub, UInt32.toNat_ofNat']
  simp only [UInt32.reduceToNat]
  omega

theorem TakesEffect.ne_nil {line : Str} {d : UInt32} (h : TakesEffect line d) : line ≠ [] := by
  obtain ⟨a, year, month, jd, digits, rest, rfl, -⟩ := h
  simp

/-- Behind the header the days of the lines are read, in order. -/
theorem readLeapLines_rows {rows : List Str} {days : List UInt32} (h : List.Forall₂ TakesEffect rows days) :
    ∀ n, 14 ≤ n → readLeapLines n rows = .ok days := by
  induction h with
  | nil => intro n _; rfl
  | cons hrow _ ih =>
    intro n hn
    unfold readLeapLines
    rw [if_neg (by omega), if_neg hrow.ne_nil, leapDay_eq hrow, ok_bind, ih (n + 1) (by omega), ok_bind]

theorem readLeapLines_header (rows : List Str) : ∀ (header : List Str) (n : Nat), n + header.length ≤ 14 →
    readLeapLines n (header ++ rows) = readLeapLines (n + header.length) rows
  | [], n, _ => rfl
  | line :: header, n, h => by
    rw [List.length_cons] at h ⊢
    rw [List.cons_append, readLeapLines, if_pos (by omega), readLeapLines_header rows header (n + 1) (by omega)]
    congr 1
    omega

/-- The numbers written into the table are the days on which the leap seconds of the file take effect. -/
theorem readLeapSeconds_eq {header rows : List Str} {days : List UInt32} (hh : header.length = 14)
    (h : List.Forall₂ TakesEffect rows days) : readLeapSeconds (header ++ rows) = .ok days := by
  unfold readLeapSeconds
  rw [readLeapLines_header rows header 0 (by omega)]
  exact readLeapLines_rows h _ (by omega)

/-! ## What the search counts -/

/-- The entries of the table are in order. -/
def Increasing (v : List UInt32) : Prop := v.Pairwise (· < ·)

instance (v : List UInt32) : Decidable (Increasing v) := inferInstanceAs (Decidable (v.Pairwise (· < ·)))

/-- The days of the table. -/
def entries (v : List UInt32) : List Nat := v.map (·.toNat)

section Search

variable {v : List UInt32}

theorem Increasing.sorted (h : Increasing v) : (entries v).Pairwise (· < ·) := by
  apply List.pairwise_map.2
  apply h.imp
  intro a b hab
  exact UInt32.lt_iff_toNat_lt.1 hab

theorem Increasing.nodup (h : Increasing v) : (entries v).Nodup := h.sorted.imp Nat.ne_of_lt

theorem mem_entries {d : UInt32} : d.toNat ∈ entries v ↔ d ∈ v := by
  unfold entries
  rw [List.mem_map]
  constructor
  · rintro ⟨e, he, heq⟩
    rwa [← UInt32.toNat_inj.1 heq]
  · intro hd
    exact ⟨d, hd, rfl⟩

theorem lowerBound_lt (h : Increasing v) (d : UInt32) : lowerBound (· < d) v = below (entries v) d.toNat := by
  rw [lowerBound_eq]
  · unfold below entries
    rw [List.countP_map]
    apply List.countP_congr
    intro e _
    simp [UInt32.lt_iff_toNat_lt]
  · apply List.Pairwise.imp _ h
    intro a b hab hb
    simp only [decide_eq_true_eq, UInt32.lt_iff_toNat_lt] at hab hb ⊢
    omega

/-- The search counts the entries before the day. -/
theorem taiMinusUtc_eq {data : IersData} (h : Increasing data.leapSeconds) (d : UInt32) :
    data.taiMinusUtc d = milliSeconds ((below (entries data.leapSeconds) d.toNat + data.baseLeapSeconds.toNat) * 1000) := by
  unfold IersData.taiMinusUtc
  rw [lowerBound_lt h]

/-- The leap seconds that are in effect on a day: those whose day it is, or an earlier one. -/
def IersData.inEffect (data : IersData) (d : UInt32) : Nat := data.leapSeconds.countP (· ≤ d)

theorem inEffect_eq (data : IersData) (d : UInt32) : data.inEffect d = below (entries data.leapSeconds) (d.toNat + 1) := by
  unfold IersData.inEffect below entries
  rw [List.countP_map]
  apply List.countP_congr
  intro e _
  simp only [decide_eq_true_eq, Function.comp_apply, UInt32.le_iff_toNat_le]
  omega

/-- The search leaves out the leap second of the day itself: it gives TAI - UTC of every day but those on
which a leap second takes effect. -/
theorem taiMinusUtc_inEffect_iff {data : IersData} (h : Increasing data.leapSeconds) (d : UInt32) :
    data.taiMinusUtc d = milliSeconds ((data.baseLeapSeconds.toNat + data.inEffect d) * 1000) ↔
      d ∉ data.leapSeconds := by
  rw [taiMinusUtc_eq h, inEffect_eq, below_succ h.nodup]
  simp only [mem_entries, milliSeconds]
  by_cases hd : d ∈ data.leapSeconds
  · simp only [hd, if_true, not_true_eq_false, iff_false]
    push_cast
    omega
  · simp only [hd, if_false, not_false_eq_true, iff_true]
    push_cast
    ring

end Search

/-- The data of `iers-data.cc`. -/
def iersData (dut1 : UInt32 → Int) : IersData := ⟨leapSeconds, 10, dut1⟩

/-- TAI - UTC is the base with the leap seconds in effect on every day but those of the table, and a table made from a
file holds the days on which the leap seconds of the file take effect. -/
theorem leapSeconds_effective {data : IersData} (h : Increasing data.leapSeconds) (d : UInt32) :
    (data.taiMinusUtc d = milliSeconds ((data.baseLeapSeconds.toNat + data.inEffect d) * 1000) ↔ d ∉ data.leapSeconds) ∧
    ∀ (header rows : List Str) (days : List UInt32), header.length = 14 → List.Forall₂ TakesEffect rows days →
      readLeapSeconds (header ++ rows) = .ok days :=
  ⟨taiMinusUtc_inEffect_iff h d, fun _ _ _ => readLeapSeconds_eq⟩

theorem takesEffect_1972 : TakesEffect " 1972 JUL  1 =JD 2441499.5  TAI-UTC=  11.0".toList 912 :=
  ⟨[], "1972".toList, "JUL  1 ".toList, "JD".toList, "2441499".toList, "5  TAI-UTC=  11.0".toList, by decide, by decide,
    by decide, by decide, by decide, by decide, List.all_eq_true.1 (by decide), by decide, by decide⟩

theorem leapSeconds_effective_2015 :
    readLeapSeconds (List.replicate 14 [] ++ [" 1972 JUL  1 =JD 2441499.5  TAI-UTC=  11.0".toList]) = .ok [912] ∧
      (iersData fun _ => 0).taiMinusUtc 16618 = milliSeconds ((10 + (iersData fun _ => 0).inEffect 16618) * 1000) := by
  have hpast : (16618 : UInt32) ∉ leapSeconds := by decide
  have hincreasing : Increasing (iersData fun _ => 0).leapSeconds := by decide
  obtain ⟨hin, hread⟩ := leapSeconds_effective hincreasing 16618
  exact ⟨hread _ _ _ List.length_replicate (.cons takesEffect_1972 .nil), hin.2 hpast⟩

/-- On 1 July 2015 the leap second of that day is missing. -/
theorem leapSeconds_effective_fails :
    ¬ ∀ (data : IersData) (d : UInt32), Increasing data.leapSeconds →
      data.taiMinusUtc d = milliSeconds ((data.baseLeapSeconds.toNat + data.inEffect d) * 1000) := by
  intro h
  have hmissing := h (iersData fun _ => 0) 16617 (by decide)
  rw [taiMinusUtc_eq (by decide)] at hmissing
  exact absurd hmissing (by decide)

end SatNet.Satellite
