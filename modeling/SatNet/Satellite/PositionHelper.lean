/-
`SatellitePositionHelper` of `satellite-position-helper.cc` as text: what `operator<<` prints, and what
`operator>>` makes of a text. The reader extracts one word, and what is printed always has a blank behind its
first word, so the reader never gets to the end of it; when already the first TLE line has a blank, as those of
real satellites do, it pops from an empty vector of tokens.
-/
import SatNet.Satellite.Gregorian
import SatNet.Satellite.TimeScale
import Mathlib.Data.Rat.Floor

namespace SatNet.Satellite

open SatNet.ExpUtil SatNet.Loop

/-! ## Dates as text -/

def TimeSystem.text : TimeSystem → String
  | .utc => "UTC"
  | .tai => "TAI"
  | .tt => "TT"
  | .ut1 => "UT1"
  | .gpst => "GPS"
  -- POSIX is printed as UTC
  | .posix => "UTC"

/-- `std::setw (n)` with `std::setfill ('0')`. -/
def setw (n : Nat) (x : UInt32) : Str :=
  let digits := Nat.toDigits 10 x.toNat
  List.replicate (n - digits.length) '0' ++ digits

/-- What the code does not fix: the leap seconds, what a `DateTime` and a `double` hold before they are written,
and the prefix of a text that `%lf` reads. -/
structure Environment where
  data : IersData
  dateTime : DateTime
  seconds : Rat
  strtod : Str → Option Rat

/-- `JulianDate::ToString`. -/
def JulianDate.toText (env : Environment) (jd : JulianDate) : Str :=
  let date := jd.fromUtc env.data
  let dt := gregorianDate env.dateTime date.days date.msDay
  setw 4 dt.year ++ "-".toList ++ setw 2 dt.month ++ "-".toList ++ setw 2 dt.day ++ " ".toList ++ setw 2 dt.hours ++
    ":".toList ++ setw 2 dt.minutes ++ ":".toList ++ setw 2 dt.seconds ++ ".".toList ++ setw 3 dt.millisecs ++
    " ".toList ++ jd.timeScale.text.toList

/-! ## Text as a date -/

/-- `%0<width>d` of `std::sscanf`. -/
def scanInt (width : Nat) (s : Str) : Option (UInt32 × Str) :=
  let word := leftTrim s
  let (negative, body) := signOf (word.take width)
  let ds := body.takeWhile Char.isDigit
  if ds = [] then none
  else
    let sign := (word.take width).length - body.length
    some (uint32 (if negative then -(decimal ds : Int) else decimal ds), word.drop (sign + ds.length))

/-- `%*c`. -/
def scanChar : Str → Option Str
  | [] => none
  | _ :: s => some s

/-- What `std::sscanf` stores with "%04d%*c%02d%*c%02d %02d%*c%02d%*c%lf", up to where the text ends or does not
match. -/
def scanDate (env : Environment) (date : Str) : DateTime × Rat :=
  let dt := env.dateTime
  match scanInt 4 date with
  | none => (dt, env.seconds)
  | some (year, s) =>
    let dt := { dt with year := year }
    match scanChar s >>= scanInt 2 with
    | none => (dt, env.seconds)
    | some (month, s) =>
      let dt := { dt with month := month }
      match scanChar s >>= scanInt 2 with
      | none => (dt, env.seconds)
      | some (day, s) =>
        let dt := { dt with day := day }
        match scanInt 2 s with
        | none => (dt, env.seconds)
        | some (hours, s) =>
          let dt := { dt with hours := hours }
          match scanChar s >>= scanInt 2 with
          | none => (dt, env.seconds)
          | some (minutes, s) =>
            let dt := { dt with minutes := minutes }
            match scanChar s >>= env.strtod with
            | none => (dt, env.seconds)
            | some seconds => (dt, seconds)

/-- `JulianDate::SetDate` with a text. -/
def setDate (env : Environment) (date : Str) (ts : TimeSystem) : Res JulianDate := do
  if ts = .posix then .error (.assertion "ts != DateTime::POSIX")
  let (dt, seconds) := scanDate env date
  if ¬ dt.year ≥ minYear then .error (.assertion "dt.year >= MinYear")
  if ¬ dt.year ≤ 2099 then .error (.assertion "dt.year <= MaxYear")
  let dt := { dt with seconds := uint32 ⌊seconds⌋ }
  let dt := { dt with millisecs := uint32 ⌊(seconds - dt.seconds.toNat) * 1000 + 1 / 2⌋ }
  .ok (JulianDate.toUtc env.data ⟨setDateDays dt, setDateMs dt, ts⟩)

/-! ## The helper -/

/-- What `GetTleInfo` returns: the two TLE lines of a `Satellite`. -/
structure TleInfo where
  first : Str
  second : Str
  deriving Repr, DecidableEq

/-- `Satellite::SetTleInfo`. -/
def setTleInfo (line1 line2 : Str) : Res TleInfo :=
  if line1.length = 69 ∧ line2.length = 69 then
    .ok ⟨line1.takeWhile (· ≠ '\x00'), line2.takeWhile (· ≠ '\x00')⟩
  else .error (.assertion "line1.size () == TleSatInfoWidth && line2.size () == TleSatInfoWidth")

structure SatellitePositionHelper where
  sat : Option TleInfo
  start : JulianDate
  deriving Repr, DecidableEq

/-- `operator<<`. -/
def SatellitePositionHelper.print (env : Environment) (h : SatellitePositionHelper) : Str :=
  match h.sat with
  | some sat => sat.first ++ "|".toList ++ sat.second ++ "|".toList ++ h.start.toText env
  | none => "satellite not yet initialized".toList

/-- `is >> str`: the next word, and what is left of the stream. -/
def extractWord (is : Str) : Str × Str :=
  let word := leftTrim is
  (word.takeWhile (! isBlank ·), word.dropWhile (! isBlank ·))

/-- What `std::getline` reads one after the other: no token behind a last delimiter. -/
def getTokens (delim : Char) (s : Str) : List Str :=
  let parts := s.splitOn delim
  if parts.getLast? = some [] then parts.dropLast else parts

/-- `tokens.back ()` and `tokens.pop_back ()`. -/
def popToken (tokens : List Str) : Res (Str × List Str) :=
  match tokens.getLast? with
  | some token => .ok (token, tokens.dropLast)
  | none => .error (.undefined "back of an empty vector")

/-- `operator>>`: the helper, and what is left of the stream. -/
def SatellitePositionHelper.read (env : Environment) (is : Str) : Res (SatellitePositionHelper × Str) := do
  let (str, is) := extractWord is
  let tokens := getTokens '|' str
  let (time, tokens) ← popToken tokens
  let (tle2, tokens) ← popToken tokens
  let (tle1, _) ← popToken tokens
  let satellite ← setTleInfo tle1 tle2
  let startTime ← setDate env time .utc
  .ok (⟨some satellite, startTime⟩, is)

/-! ## Reading back -/

/-- A blank behind another character ends the word, so something is left of the stream. -/
theorem extractWord_rest {l x : Str} {c : Char} (hc : isBlank c = false) (hx : ' ' ∈ x) :
    (extractWord (l ++ c :: x)).2 ≠ [] := by
  have hmem : ' ' ∈ leftTrim (l ++ c :: x) := by
    unfold leftTrim
    rw [List.dropWhile_append]
    split
    · rw [List.dropWhile_cons_of_neg (by simp [hc])]
      exact List.mem_cons_of_mem c hx
    · exact List.mem_append_right _ (List.mem_cons_of_mem c hx)
  unfold extractWord
  simp only [ne_eq, List.dropWhile_eq_nil_iff]
  intro hall
  have hblank := hall _ hmem
  simp [isBlank] at hblank

theorem blank_mem_toText (env : Environment) (jd : JulianDate) : ' ' ∈ jd.toText env := by
  unfold JulianDate.toText
  apply List.mem_append_left
  apply List.mem_append_right
  rw [show " ".toList = [' '] from rfl]
  exact List.mem_singleton_self ' '

/-- What is left after reading is what is left behind the first word. -/
theorem read_rest {env : Environment} {is rest : Str} {h : SatellitePositionHelper}
    (hread : SatellitePositionHelper.read env is = .ok (h, rest)) : rest = (extractWord is).2 := by
  unfold SatellitePositionHelper.read at hread
  simp only at hread
  obtain ⟨⟨time, tokens₁⟩, -, hread⟩ := bind_ok hread
  obtain ⟨⟨tle2, tokens₂⟩, -, hread⟩ := bind_ok hread
  obtain ⟨⟨tle1, tokens₃⟩, -, hread⟩ := bind_ok hread
  obtain ⟨satellite, -, hread⟩ := bind_ok hread
  obtain ⟨startTime, -, hread⟩ := bind_ok hread
  cases hread
  rfl

/-- A blank in the first line, before any `|`: there is one token, and the second pop finds none. -/
theorem read_of_blank {env : Environment} {a b : Str} {c : Char} (ha : a ≠ []) (hword : ∀ x ∈ a, isBlank x = false)
    (hbar : '|' ∉ a) (hc : isBlank c = true) :
    SatellitePositionHelper.read env (a ++ c :: b) = .error (.undefined "back of an empty vector") := by
  have htrim : leftTrim (a ++ c :: b) = a ++ c :: b := by
    obtain ⟨d, ds, rfl⟩ := List.exists_cons_of_ne_nil ha
    unfold leftTrim
    rw [List.cons_append, List.dropWhile_cons_of_neg (by simp [hword d (List.mem_cons_self ..)])]
  have hstr : (extractWord (a ++ c :: b)).1 = a := by
    unfold extractWord
    simp only [htrim]
    rw [List.takeWhile_append_of_pos (by simpa using hword), List.takeWhile_cons_of_neg (by simp [hc]), List.append_nil]
  have htokens : getTokens '|' a = [a] := by
    unfold getTokens
    rw [List.splitOn_eq_singleton hbar]
    simp [ha]
  unfold SatellitePositionHelper.read
  simp only [hstr, htokens]
  rfl

/-- What is printed is read back: the same TLE lines and the same start time, to the end of the text. -/
def ReadsBack (env : Environment) (h : SatellitePositionHelper) : Prop :=
  ∃ h', SatellitePositionHelper.read env (h.print env) = .ok (h', []) ∧ h'.sat = h.sat ∧ h'.start = h.start

/-- No helper with a satellite is read back from what is printed of it. -/
theorem readsBack_never (env : Environment) (sat : TleInfo) (start : JulianDate) :
    ¬ ReadsBack env ⟨some sat, start⟩ := by
  rintro ⟨h', hread, -⟩
  have hrest := read_rest hread
  have hprint : SatellitePositionHelper.print env ⟨some sat, start⟩ =
      sat.first ++ '|' :: (sat.second ++ "|".toList ++ start.toText env) := by
    unfold SatellitePositionHelper.print
    simp
  rw [hprint] at hrest
  exact extractWord_rest (by decide) (List.mem_append_right _ (blank_mem_toText env start)) hrest.symm

def issTle : TleInfo :=
  ⟨'1' :: ' ' :: "25544U 98067A   08264.51782528 -.00002182  00000-0 -11606-4 0  2927".toList,
    "2 25544  51.6416 247.4627 0006703 130.5360 325.0288 15.72125391563537".toList⟩

def zeroEnvironment : Environment := ⟨iersData fun _ => 0, ⟨0, 0, 0, 0, 0, 0, 0⟩, 0, fun _ => none⟩

/-- With the lines of a real satellite the reader fails on the blank behind the line number. -/
theorem readsBack_iss :
    ¬ ∀ (env : Environment) (sat : TleInfo) (start : JulianDate), sat.first.length = 69 → sat.second.length = 69 →
      (∀ c ∈ sat.first ++ sat.second, c ≠ '|' ∧ c ≠ '\n') → start.timeScale = .utc → 8035 ≤ start.days →
      start.days ≤ 47481 → start.Valid → ReadsBack env ⟨some sat, start⟩ := by
  intro hall
  have hall' : (issTle.first ++ issTle.second).all (fun c => c ≠ '|' ∧ c ≠ '\n') = true := by decide +kernel
  have hchars : ∀ c ∈ issTle.first ++ issTle.second, c ≠ '|' ∧ c ≠ '\n' := fun c hc =>
    of_decide_eq_true (List.all_eq_true.1 hall' c hc)
  obtain ⟨h', hread, -⟩ := hall zeroEnvironment issTle 
    ⟨10957, 0, .utc⟩ rfl rfl hchars rfl (by decide) (by decide) (by decide)
  have hprint : SatellitePositionHelper.print zeroEnvironment ⟨some issTle, ⟨10957, 0, .utc⟩⟩ =
      ['1'] ++ ' ' :: ("25544U 98067A   08264.51782528 -.00002182  00000-0 -11606-4 0  2927".toList ++ "|".toList ++
        issTle.second ++ "|".toList ++ JulianDate.toText zeroEnvironment ⟨10957, 0, .utc⟩) := rfl
  rw [hprint, read_of_blank (by simp) (by simp [isBlank]) (by simp) rfl] at hread
  cases hread

end SatNet.Satellite
