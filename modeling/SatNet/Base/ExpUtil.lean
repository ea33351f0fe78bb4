/-
The string functions of `exp-util.cc` that the topology and routing code reads its input with:
trimming, splitting, integers, sets, and parameter lookup.
-/
import SatNet.Base.Memory
import SatNet.Lib.OrdSet
import Mathlib.Data.Char
import Mathlib.Data.List.DropRight
import Mathlib.Data.List.Lex

namespace SatNet.ExpUtil

open SatNet.Loop

/-! ## Trimming -/

/-- The characters of `" \t\n\r\f\v"`, which are also those `isspace` accepts. -/
def isBlank (c : Char) : Bool :=
  c = ' ' || c = '\t' || c = '\n' || c = '\r' || c = '\x0c' || c = '\x0b'

def rightTrim (s : Str) : Str := s.rdropWhile isBlank

def leftTrim (s : Str) : Str := s.dropWhile isBlank

def trim (s : Str) : Str := leftTrim (rightTrim s)

def endsWith (str suffix : Str) : Bool := suffix.isSuffixOf str

def startsWith (str pfx : Str) : Bool := pfx.isPrefixOf str

/-! ## Splitting -/

/-- `s.find(delimiter)`: the position of the leftmost occurrence. -/
def find (delimiter : Str) : Str → Option Nat
  | [] => if delimiter.isPrefixOf [] then some 0 else none
  | c :: s => if delimiter.isPrefixOf (c :: s) then some 0 else (find delimiter s).map (· + 1)

/-- The loop of `split_string` on what remains of the line; `none` when the fuel runs out. -/
def splitLoop (delimiter : Str) : Nat → Str → Option (List Str)
  | 0, _ => none
  | fuel + 1, remainder =>
    match find delimiter remainder with
    | none => some [remainder]
    | some idx =>
      (splitLoop delimiter fuel (remainder.drop (idx + delimiter.length))).map (remainder.take idx :: ·)

/-- `split_string(line, delimiter)`. Each round takes at least the delimiter away, so one round more
than the line has characters is enough for a delimiter that is not empty. -/
def splitString (line delimiter : Str) : Res (List Str) :=
  match splitLoop delimiter (line.length + 1) line with
  | some l => .ok l
  | none => .error .diverges

/-- `split_string(line, delimiter, expected)`. -/
def splitStringExpected (line delimiter : Str) (expected : Nat) : Res (List Str) := do
  let theSplit ← splitString line delimiter
  if theSplit.length ≠ expected then
    .error (.invalidArgument s!"String {String.ofList line} has a {String.ofList delimiter}-split of {theSplit.length} != {expected}")
  else
    .ok theSplit

theorem splitStringExpected_length {line delimiter : Str} {k : Nat} {l : List Str}
    (h : splitStringExpected line delimiter k = .ok l) : l.length = k := by
  unfold splitStringExpected at h
  obtain ⟨l', -, h⟩ := bind_ok h
  split at h
  · cases h
  · rename_i hk; cases h; omega

/-! ## Integers -/

/-- The value of a string of decimal digits. -/
def decimal (ds : Str) : Nat := ds.foldl (fun n c => 10 * n + (c.toNat - '0'.toNat)) 0

/-- The sign of what `strtoll` reads after the blanks, and the rest. -/
def signOf : Str → Bool × Str
  | '-' :: r => (true, r)
  | '+' :: r => (false, r)
  | r => (false, r)

/-- `std::stoll(str, &i)`: the value and how many characters were read. -/
def stoll (str : Str) : Res (Int × Nat) :=
  let (negative, body) := signOf (leftTrim str)
  let ds := body.takeWhile Char.isDigit
  if ds = [] then .error (.invalidArgument "stoll")
  else
    let val : Int := if negative then -(decimal ds : Int) else decimal ds
    if val < -2 ^ 63 ∨ 2 ^ 63 ≤ val then .error (.outOfRange "stoll")
    else .ok (val, str.length - body.length + ds.length)

/-- Only `std::invalid_argument` is caught and thrown again with the text of the input. -/
def parseInt64 (str : Str) : Res Int :=
  match stoll str with
  | .error (.invalidArgument _) => .error (.invalidArgument s!"Could not convert to int64: {String.ofList str}")
  | .error e => .error e
  | .ok (val, i) =>
    if i ≠ str.length then .error (.invalidArgument s!"Could not convert to int64: {String.ofList str}")
    else .ok val

/-- The result is never negative, so it is a `Nat`. -/
def parsePositiveInt64 (str : Str) : Res Nat := do
  let val ← parseInt64 str
  if val < 0 then .error (.invalidArgument s!"Negative int64 value not permitted: {val}")
  else .ok val.toNat

def parseGeqOneInt64 (str : Str) : Res Nat := do
  let val ← parsePositiveInt64 str
  if val < 1 then .error (.invalidArgument s!"Value must be >= 1: {val}") else .ok val

theorem parseInt64_range {str : Str} {v : Int} (h : parseInt64 str = .ok v) : -2 ^ 63 ≤ v ∧ v < 2 ^ 63 := by
  unfold parseInt64 stoll at h
  generalize signOf (leftTrim str) = p at h
  obtain ⟨neg, body⟩ := p
  simp only at h
  by_cases hd : body.takeWhile Char.isDigit = []
  · simp [hd] at h
  · rw [if_neg hd] at h
    generalize (if neg = true then -(decimal (body.takeWhile Char.isDigit) : Int)
      else decimal (body.takeWhile Char.isDigit)) = val at h
    by_cases hr : val < -2 ^ 63 ∨ 2 ^ 63 ≤ val
    · rw [if_pos hr] at h; cases h
    · rw [if_neg hr] at h
      simp only at h
      split at h
      · cases h
      · cases h; omega

theorem parsePositiveInt64_lt {str : Str} {v : Nat} (h : parsePositiveInt64 str = .ok v) : v < 2 ^ 63 := by
  obtain ⟨val, hval, h⟩ := bind_ok h
  have := parseInt64_range hval
  split at h
  · cases h
  · cases h; omega

/-! ## Booleans -/

def parseBoolean (str : Str) : Res Bool :=
  if str = "true".toList ∨ str = "1".toList then .ok true
  else if str = "false".toList ∨ str = "0".toList then .ok false
  else .error (.invalidArgument s!"Value could not be converted to bool: {String.ofList str}")

/-! ## Lists -/

def parseListString (str : Str) : Res (List Str) := do
  if !startsWith str "list(".toList || !endsWith str ")".toList then
    .error (.invalidArgument s!"List {String.ofList str} is not encased in list(...)")
  else
    let onlyInside := (str.drop 5).take (str.length - 6)
    if trim onlyInside = [] then .ok []
    else
      let prelimList ← splitString onlyInside ",".toList
      .ok (prelimList.map trim)

def parseListPositiveInt64 (str : Str) : Res (List Nat) := do
  let stringList ← parseListString str
  forEach (fun int64List s => do
    let v ← parsePositiveInt64 s
    .ok (int64List ++ [v])) stringList []

/-! ## Sets -/

theorem nat_lt : OrdSet.StrictTotal (fun a b : Nat => a < b) := OrdSet.strictTotal_lt

/-- A `std::set<std::string>` is the increasing list of its elements. -/
def parseSetString (str : Str) : Res (List Str) := do
  if !startsWith str "set(".toList || !endsWith str ")".toList then
    .error (.invalidArgument s!"Set {String.ofList str} is not encased in set(...)")
  else
    let onlyInside := (str.drop 4).take (str.length - 5)
    if trim onlyInside = [] then .ok []
    else
      let final ← splitString onlyInside ",".toList
      let finalSet := OrdSet.ofList (· < ·) (final.map trim)
      if final.length ≠ finalSet.length then
        .error (.invalidArgument s!"Set {String.ofList str} contains duplicates")
      else .ok finalSet

def parseSetPositiveInt64 (str : Str) : Res (List Nat) := do
  let stringSet ← parseSetString str
  let int64Set ← forEach (fun set s => do
    let v ← parsePositiveInt64 s
    .ok (OrdSet.insert (· < ·) v set)) stringSet []
  if stringSet.length ≠ int64Set.length then
    .error (.invalidArgument s!"Set {String.ofList str} contains int64 duplicates")
  else .ok int64Set

theorem parseSetPositiveInt64_sorted {str : Str} {set : List Nat}
    (h : parseSetPositiveInt64 str = .ok set) : set.Pairwise (· < ·) := by
  unfold parseSetPositiveInt64 at h
  obtain ⟨strings, -, h⟩ := bind_ok h
  obtain ⟨ints, hi, h⟩ := bind_ok h
  have hs : ints.Pairwise (· < ·) := by
    refine forEach_pre _ (fun _ set => set.Pairwise (· < ·)) (fun done s x s' hs hb => ?_) strings [] [] ints
      List.Pairwise.nil hi
    obtain ⟨v, -, hb⟩ := bind_ok hb
    cases hb
    exact OrdSet.insert_sorted nat_lt hs
  split at h
  · cases h
  · cases h; exact hs

/-- The message prints the two numbers as the source does, with `>` for "at least". -/
def allItemsAreLessThan (s : List Nat) (number : Nat) : Res Unit :=
  forEach (fun _ val =>
    if val ≥ number then .error (.invalidArgument s!"Value {val} > {number}") else .ok ()) s ()

theorem allItemsAreLessThan_ok (number : Nat) (s : List Nat) :
    allItemsAreLessThan s number = .ok () ↔ ∀ x ∈ s, x < number := by
  refine (forEach_check (p := (· ≥ number)) _ s).trans ?_
  simp

def directSetIntersection (s₁ s₂ : List Nat) : List Nat := s₁.filter (· ∈ s₂)

def directSetUnion (s₁ s₂ : List Nat) : List Nat := s₂.foldl (fun s a => OrdSet.insert (· < ·) a s) s₁

/-! ## Maps -/

/-- One round of the loop of `parse_map_string`. -/
def addPair (st : List (Str × Str) × List Str) (s : Str) : Res (List (Str × Str) × List Str) := do
  let colonSplitList ← splitStringExpected s ":".toList 2
  let key ← index colonSplitList 0
  let value ← index colonSplitList 1
  let result := st.1 ++ [(trim key, trim value)]
  let keySet := OrdSet.insert (· < ·) (trim key) st.2
  if result.length ≠ keySet.length then .error (.invalidArgument s!"Duplicate key: {String.ofList (trim key)}")
  else .ok (result, keySet)

def parseMapString (str : Str) : Res (List (Str × Str)) := do
  if !startsWith str "map(".toList || !endsWith str ")".toList then
    .error (.invalidArgument s!"Map {String.ofList str} is not encased in map(...)")
  else
    let onlyInside := (str.drop 4).take (str.length - 5)
    if trim onlyInside = [] then .ok []
    else
      let commaSplitList ← splitString onlyInside ",".toList
      let (result, _) ← forEach addPair commaSplitList ([], [])
      .ok result

/-! ## Parameters -/

/-- A configuration map: the keys with their values, each key once. -/
abbrev Config := List (Str × Str)

def getParamOrFail (paramKey : String) (config : Config) : Res Str :=
  match config.lookup paramKey.toList with
  | some v => .ok v
  | none => .error (.invalidArgument s!"Necessary parameter '{paramKey}' is not set.")

def getParamOrDefault (paramKey defaultValue : String) (config : Config) : Str :=
  (config.lookup paramKey.toList).getD defaultValue.toList

end SatNet.ExpUtil
