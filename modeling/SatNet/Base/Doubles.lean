/-
The functions of `exp-util.cc` that read a `double`, and what C++ does with one that leaves the `double`s: its
conversion to an integer, and the text that `printf` makes of it.
-/
import SatNet.Base.ExpUtil
import SatNet.Lib.Binary64

namespace SatNet.ExpUtil

open SatNet.Loop SatNet.Binary64

/-! ## Conversions -/

/-- The conversion to `uint64_t`, which is undefined where the integer is not in its range. -/
def doubleToUInt64 (a : Double) : Res UInt64 :=
  match a.trunc with
  | none => .error (.undefined "conversion to uint64_t")
  | some n => if 0 ≤ n ∧ n < 2 ^ 64 then .ok (UInt64.ofNat n.toNat) else .error (.undefined "conversion to uint64_t")

/-- An integer of a `double` is converted if it is in the range. -/
theorem doubleToUInt64_ok {n : ℤ} {h : Representable n} (h₀ : 0 ≤ n) {g : UInt64} :
    doubleToUInt64 (.finite n h) = .ok g ↔ (g.toNat : ℤ) = n := by
  have htrunc : Double.trunc (.finite n h) = some n := by
    unfold Double.trunc
    simp only
    rw [if_neg (by exact_mod_cast h₀.not_gt), Int.floor_intCast]
  have hg := g.toNat_lt
  unfold doubleToUInt64
  rw [htrunc]
  simp only
  by_cases hlt : n < 2 ^ 64
  · rw [if_pos ⟨h₀, hlt⟩, Except.ok.injEq, ← UInt64.toNat_inj,
      UInt64.toNat_ofNat_of_lt' (by simp only [UInt64.size]; omega)]
    omega
  · rw [if_neg fun h => hlt h.2]
    simp only [reduceCtorEq, false_iff]
    omega

/-- A number in millionths, of which `%f` writes the digits. -/
def millionths (a : ℚ) : Nat := (roundHalfEven (|a| * 1000000)).toNat

/-- `%f`: with six digits after the point. -/
def formatF : Double → Str
  | .nan => "nan".toList
  | .inf negative => (if negative then "-inf" else "inf").toList
  | .finite a _ => (if a < 0 then ['-'] else []) ++ Nat.toDigits 10 (millionths a / 1000000) ++
      '.' :: (Nat.toDigits 10 (millionths a % 1000000)).leftpad 6 '0'

/-! ## Parsing -/

/-- `std::stod(str, &i)`, with how many characters were read. -/
abbrev Stod := Str → Res (Double × Nat)

/-- Only `std::invalid_argument` is caught and thrown again with the text of the input. -/
def parseDouble (stod : Stod) (str : Str) : Res Double :=
  match stod str with
  | .error (.invalidArgument _) => .error (.invalidArgument s!"Could not convert to double: {String.ofList str}")
  | .error e => .error e
  | .ok (val, i) =>
    if i ≠ str.length then .error (.invalidArgument s!"Could not convert to double: {String.ofList str}") else .ok val

def parsePositiveDouble (stod : Stod) (str : Str) : Res Double := do
  let val ← parseDouble stod str
  if val.lt .zero then
    .error (.invalidArgument s!"Negative double value not permitted: {String.ofList (formatF val)}")
  else .ok val

theorem parsePositiveDouble_nonneg {stod : Stod} {str : Str} {x : Double} (h : parsePositiveDouble stod str = .ok x) :
    x.lt .zero = false := by
  obtain ⟨val, -, h⟩ := bind_ok h
  split at h
  · cases h
  · rename_i hlt
    cases h
    simpa using hlt

/-- Text of whole numbers, as `std::stod` reads it. -/
def wholeStod : Stod := fun str => do
  let (val, i) ← stoll str
  .ok (.ofInt val, i)

end SatNet.ExpUtil
