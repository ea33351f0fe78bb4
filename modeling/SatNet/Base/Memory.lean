/-
Signed machine integers and a heap array of them: arithmetic out of the range of its type is
undefined, and so is reading a cell before it was written or a cell outside the array.
-/
import SatNet.Base.Fail
import Mathlib.Data.Int.Order.Basic
import Mathlib.Tactic.Ring
import Mathlib.Tactic.Linarith

namespace SatNet

open SatNet.Loop

/-! ## Integers -/

/-- The result of an `int32_t` operation. -/
def int32 (x : Int) : Res Int :=
  if -2 ^ 31 ≤ x ∧ x < 2 ^ 31 then .ok x else .error (.undefined "int32 overflow")

/-- The result of an `int64_t` operation. -/
def int64 (x : Int) : Res Int :=
  if -2 ^ 63 ≤ x ∧ x < 2 ^ 63 then .ok x else .error (.undefined "int64 overflow")

theorem int32_eq {x : Int} (h₁ : -2 ^ 31 ≤ x) (h₂ : x < 2 ^ 31) : int32 x = .ok x := if_pos ⟨h₁, h₂⟩

theorem int64_eq {x : Int} (h₁ : -2 ^ 63 ≤ x) (h₂ : x < 2 ^ 63) : int64 x = .ok x := if_pos ⟨h₁, h₂⟩

theorem int32_ok_iff {x y : Int} : int32 x = .ok y ↔ (-2 ^ 31 ≤ x ∧ x < 2 ^ 31) ∧ y = x := by
  unfold int32
  split
  · rename_i hx
    rw [Except.ok.injEq, and_iff_right hx, eq_comm]
  · rename_i hx
    exact iff_of_false nofun fun h => hx h.1

theorem int64_ok_iff {x y : Int} : int64 x = .ok y ↔ (-2 ^ 63 ≤ x ∧ x < 2 ^ 63) ∧ y = x := by
  unfold int64
  split
  · rename_i hx
    rw [Except.ok.injEq, and_iff_right hx, eq_comm]
  · rename_i hx
    exact iff_of_false nofun fun h => hx h.1

theorem int32_ok {x y : Int} (h : int32 x = .ok y) : y = x := (int32_ok_iff.1 h).2

theorem int64_ok {x y : Int} (h : int64 x = .ok y) : y = x := (int64_ok_iff.1 h).2

theorem int64_lt {x y : Int} (h : int64 x = .ok y) : x < 2 ^ 63 := (int64_ok_iff.1 h).1.2

/-- Conversion to `int32_t`, which keeps the value modulo 2^32. -/
def toInt32 (x : Int) : Int := x.bmod (2 ^ 32)

/-- Conversion to `int64_t`. -/
def toInt64 (x : Int) : Int := x.bmod (2 ^ 64)

/-- Conversion to `uint32_t`. -/
def toUInt32 (x : Int) : Nat := (x % 2 ^ 32).toNat

/-- Conversion to `uint64_t`. -/
def toUInt64 (x : Int) : Nat := (x % 2 ^ 64).toNat

theorem toInt32_eq {x : Int} (h₁ : -2 ^ 31 ≤ x) (h₂ : x < 2 ^ 31) : toInt32 x = x := by
  unfold toInt32; rw [Int.bmod_def]; omega

theorem toInt64_eq {x : Int} (h₁ : -2 ^ 63 ≤ x) (h₂ : x < 2 ^ 63) : toInt64 x = x := by
  unfold toInt64; rw [Int.bmod_def]; omega

theorem toUInt32_lt (x : Int) : toUInt32 x < 2 ^ 32 := by
  unfold toUInt32; omega

theorem toUInt32_eq {x : Nat} (h : x < 2 ^ 32) : toUInt32 x = x := by
  unfold toUInt32; omega

theorem toUInt64_eq {x : Nat} (h : x < 2 ^ 64) : toUInt64 x = x := by
  unfold toUInt64; omega

/-! ## Arrays -/

/-- A heap array; a cell that was never written holds no value. -/
abbrev Cells := List (Option Int)

/-- `new int32_t[n]`. -/
def newCells (n : Int) : Res Cells :=
  if n < 0 then .error (.runtimeError "std::bad_array_new_length") else .ok (List.replicate n.toNat none)

def readCell (d : Cells) (i : Int) : Res Int :=
  if i < 0 then .error (.undefined "array index out of range")
  else match d[i.toNat]? with
    | some (some x) => .ok x
    | some none => .error (.undefined "read of an uninitialised cell")
    | none => .error (.undefined "array index out of range")

def writeCell (d : Cells) (i x : Int) : Res Cells :=
  if 0 ≤ i ∧ i < d.length then .ok (d.set i.toNat (some x))
  else .error (.undefined "array index out of range")

theorem readCell_eq {d : Cells} {i : Nat} {x : Int} (h : d[i]? = some (some x)) : readCell d i = .ok x := by
  unfold readCell
  rw [if_neg (by omega), Int.toNat_natCast, h]

theorem writeCell_eq {d : Cells} {i : Nat} (x : Int) (h : i < d.length) :
    writeCell d i x = .ok (d.set i (some x)) := by
  unfold writeCell
  rw [if_pos (by omega), Int.toNat_natCast]

/-! ## A square matrix in an array -/

section Matrix

variable {n : Nat}

theorem mul_add_lt {i j : Nat} (hi : i < n) (hj : j < n) : n * i + j < n * n := by
  have : n * (i + 1) ≤ n * n := Nat.mul_le_mul_left n hi
  rw [Nat.mul_succ] at this; omega

theorem mul_add_inj {i j a b : Nat} (hj : j < n) (hb : b < n) : n * i + j = n * a + b ↔ i = a ∧ j = b := by
  constructor
  · intro h
    have hd := congrArg (· / n) h
    have hm := congrArg (· % n) h
    have hn : 0 < n := by omega
    simp only [Nat.mul_add_div hn, Nat.mul_add_mod, Nat.div_eq_of_lt hj, Nat.div_eq_of_lt hb,
      Nat.mod_eq_of_lt hj, Nat.mod_eq_of_lt hb, Nat.add_zero] at hd hm
    exact ⟨hd, hm⟩
  · rintro ⟨rfl, rfl⟩; rfl

/-- `n * i + j` in `int64_t`. -/
def matIndex (n i j : Int) : Res Int := do
  let row ← int64 (n * i)
  int64 (row + j)

theorem matIndex_eq {i j : Nat} (hn : n ≤ 40000) (hi : i < n) (hj : j < n) :
    matIndex n i j = .ok ((n * i + j : Nat) : Int) := by
  have h : n * i + j < 40000 * 40000 :=
    lt_of_lt_of_le (mul_add_lt hi hj) (Nat.mul_le_mul hn hn)
  have hrow : 0 ≤ (n : Int) * i := by positivity
  have hcast : ((n * i + j : Nat) : Int) = n * i + j := by push_cast; rfl
  unfold matIndex
  rw [int64_eq (by omega) (by omega), ok_bind, int64_eq (by omega) (by omega), hcast]

/-- The array `d` holds the entries of `D` at the pairs of `S`. -/
def Holds (n : Nat) (d : Cells) (S : Nat → Nat → Prop) (D : Nat → Nat → Int) : Prop :=
  d.length = n * n ∧ ∀ i < n, ∀ j < n, S i j → d[n * i + j]? = some (some (D i j))

theorem Holds.read {d : Cells} {S : Nat → Nat → Prop} {D : Nat → Nat → Int} (h : Holds n d S D)
    {i j : Nat} (hi : i < n) (hj : j < n) (hs : S i j) : readCell d ((n * i + j : Nat) : Int) = .ok (D i j) :=
  readCell_eq (h.2 i hi j hj hs)

/-- Writing the entry at `(i, j)` changes that entry and no other. -/
theorem Holds.write {d : Cells} {S : Nat → Nat → Prop} {D : Nat → Nat → Int} (h : Holds n d S D)
    {i j : Nat} (hi : i < n) (hj : j < n) (x : Int) :
    ∃ d', writeCell d ((n * i + j : Nat) : Int) x = .ok d' ∧
      Holds n d' (fun a b => S a b ∨ a = i ∧ b = j) fun a b => if a = i ∧ b = j then x else D a b := by
  refine ⟨_, writeCell_eq x (by rw [h.1]; exact mul_add_lt hi hj), by simpa using h.1, fun a ha b hb hs => ?_⟩
  rw [List.getElem?_set]
  by_cases hab : a = i ∧ b = j
  · obtain ⟨rfl, rfl⟩ := hab
    rw [if_pos rfl, if_pos (by rw [h.1]; exact mul_add_lt hi hj)]
    simp
  · rw [if_neg (fun he => hab (((mul_add_inj hj hb).1 he).imp Eq.symm Eq.symm))]
    simp only [if_neg hab]
    exact h.2 a ha b hb (hs.resolve_right hab)

end Matrix

end SatNet
