/-
A text file that is read line by line. A line can be read as long as the stream is good: it is no longer good
once the end of the file was met, and then `getline` leaves the string it was given as it is.
-/
import SatNet.Base.Fail
import Mathlib.Data.List.TakeWhile

namespace SatNet

/-- A `std::ifstream`: what is left to read, and whether no end of file was met so far. -/
structure InputStream where
  rest : Str
  good : Bool
  deriving Repr, DecidableEq

namespace InputStream

/-- The file after `open`. -/
def ofText (text : Str) : InputStream := ⟨text, true⟩

/-- `std::getline(fs, line)`: the string is erased before anything is read into it, and the stream fails if there was
nothing to read. -/
def getline (fs : InputStream) (line : Str) : InputStream × Str × Bool :=
  if fs.good then
    let read := fs.rest.takeWhile (· ≠ '\n')
    match fs.rest.dropWhile (· ≠ '\n') with
    | _ :: rest => (⟨rest, true⟩, read, true)
    | [] => (⟨[], false⟩, read, !read.isEmpty)
  else (fs, line, false)

/-- What can still be read from the stream, counting its end. -/
def size (fs : InputStream) : Nat := fs.rest.length + fs.good.toNat

theorem getline_size (fs : InputStream) (line : Str) :
    (fs.getline line).1.size + (fs.getline line).2.2.toNat ≤ fs.size := by
  unfold getline size
  split
  · rename_i hgood
    have hrest := congrArg List.length (List.takeWhile_append_dropWhile (p := (· ≠ '\n')) (l := fs.rest))
    rw [List.length_append] at hrest
    split
    · rename_i c rest hdrop
      rw [hdrop] at hrest
      simp only [hgood, Bool.toNat_true, List.length_cons] at hrest ⊢
      omega
    · rename_i hdrop
      simp only [hgood, Bool.toNat_true, Bool.toNat_false, List.length_nil]
      have hle := Bool.toNat_le (!(fs.rest.takeWhile (· ≠ '\n')).isEmpty)
      omega
  · simp

/-- `while (getline(fs, line))` around a body that gets the line. -/
def eachLine {σ : Type} (body : σ → Str → Res σ) : Nat → InputStream → σ → Res σ
  | 0, _, _ => .error .diverges
  | fuel + 1, fs, s =>
    match fs.getline [] with
    | (_, _, false) => .ok s
    | (fs', line, true) => do
      let s' ← body s line
      eachLine body fuel fs' s'

theorem noNewline {l : Str} (hl : '\n' ∉ l) : ∀ c ∈ l, decide (c ≠ '\n') = true := by
  intro c hc
  rw [decide_eq_true_eq]
  rintro rfl
  exact hl hc

theorem getline_newline {l : Str} (hl : '\n' ∉ l) (r line : Str) :
    getline ⟨l ++ '\n' :: r, true⟩ line = (⟨r, true⟩, l, true) := by
  have htake : (l ++ '\n' :: r).takeWhile (· ≠ '\n') = l := by
    rw [List.takeWhile_append_of_pos (noNewline hl)]
    simp
  have hdrop : (l ++ '\n' :: r).dropWhile (· ≠ '\n') = '\n' :: r := by
    rw [List.dropWhile_append_of_pos (noNewline hl)]
    simp
  unfold getline
  simp only [if_true, htake, hdrop]

theorem getline_last {l : Str} (hl : '\n' ∉ l) (line : Str) :
    getline ⟨l, true⟩ line = (⟨[], false⟩, l, !l.isEmpty) := by
  have hdrop : l.dropWhile (· ≠ '\n') = [] := List.dropWhile_eq_nil_iff.2 (noNewline hl)
  unfold getline
  simp only [if_true, List.takeWhile_eq_self_iff.2 (noNewline hl), hdrop]

end InputStream

end SatNet
