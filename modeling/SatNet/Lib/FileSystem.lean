/-
A file system as a process sees it that keeps streams open: a path names a file, a stream is bound to the file that it
opened, and goes on writing to it when the path names another file or none. What can be seen of the files is what is
found at the paths; with it, exactly when a stream that was opened earlier does what opening the path anew would do.
-/
import Mathlib.Logic.Function.Basic
import Mathlib.Order.Basic

namespace SatNet.FileSystem

/-- The directories that exist, the file that each path names, the contents of the files, also of those that no path
names any more, and how many files were made so far. -/
structure Files (P D C : Type) where
  dirs : D → Bool
  names : P → Option Nat
  contents : Nat → List C
  made : Nat

/-- What an output stream writes to: a file, or nothing if it could not be opened. -/
abbrev Stream := Option Nat

variable {P D C : Type} (dirOf : P → D)

namespace Files

/-- What is found at a path. -/
def found (fs : Files P D C) (p : P) : Option (List C) := (fs.names p).map fs.contents

/-- The path can be opened for writing: it names a file, or one can be made there. -/
def Openable (fs : Files P D C) (p : P) : Prop := fs.names p ≠ none ∨ fs.dirs (dirOf p) = true

instance (fs : Files P D C) (p : P) : Decidable (fs.Openable dirOf p) :=
  inferInstanceAs (Decidable (fs.names p ≠ none ∨ fs.dirs (dirOf p) = true))

/-- Make an empty file at the path. -/
def make [DecidableEq P] (fs : Files P D C) (p : P) : Files P D C :=
  { fs with
    names := Function.update fs.names p (some fs.made)
    contents := Function.update fs.contents fs.made []
    made := fs.made + 1 }

/-- Open a path to append to its file, which is made if it is not there. -/
def openAppend [DecidableEq P] (fs : Files P D C) (p : P) : Stream × Files P D C :=
  match fs.names p with
  | some i => (some i, fs)
  | none => if fs.dirs (dirOf p) then (some fs.made, fs.make p) else (none, fs)

/-- Write at the end of the file of a stream. -/
def write (fs : Files P D C) (stream : Stream) (text : List C) : Files P D C :=
  match stream with
  | none => fs
  | some i => { fs with contents := Function.update fs.contents i (fs.contents i ++ text) }

def truncate (fs : Files P D C) (stream : Stream) : Files P D C :=
  match stream with
  | none => fs
  | some i => { fs with contents := Function.update fs.contents i [] }

/-- Open a path for writing, write a text and close it. -/
def writeNew [DecidableEq P] (fs : Files P D C) (p : P) (text : List C) : Files P D C :=
  let (stream, fs) := fs.openAppend dirOf p
  (fs.truncate stream).write stream text

/-- Open a path to append to its file, write a text and close it. -/
def writeAppend [DecidableEq P] (fs : Files P D C) (p : P) (text : List C) : Files P D C :=
  let (stream, fs) := fs.openAppend dirOf p
  fs.write stream text

def remove [DecidableEq P] (fs : Files P D C) (p : P) : Files P D C :=
  { fs with names := Function.update fs.names p none }

/-- Remove a directory with the files in it. -/
def removeDir [DecidableEq D] (fs : Files P D C) (d : D) : Files P D C :=
  { fs with
    dirs := Function.update fs.dirs d false
    names := fun p => if dirOf p = d then none else fs.names p }

def makeDir [DecidableEq D] (fs : Files P D C) (d : D) : Files P D C :=
  { fs with dirs := Function.update fs.dirs d true }

/-- Two file systems that cannot be told apart from now on: they differ at most in files that no path names. -/
structure Agree (fs fs' : Files P D C) : Prop where
  dirs : fs.dirs = fs'.dirs
  names : fs.names = fs'.names
  contents : ∀ p i, fs.names p = some i → fs.contents i = fs'.contents i
  made : fs.made = fs'.made

variable {dirOf} {fs fs' : Files P D C}

/-! ## What is found -/

theorem openAppend_of_some [DecidableEq P] {p : P} {i : Nat} (h : fs.names p = some i) :
    fs.openAppend dirOf p = (some i, fs) := by
  unfold openAppend
  rw [h]

theorem openAppend_of_dir [DecidableEq P] {p : P} (h : fs.names p = none) (hd : fs.dirs (dirOf p) = true) :
    fs.openAppend dirOf p = (some fs.made, fs.make p) := by
  unfold openAppend
  rw [h]
  exact if_pos hd

theorem openAppend_of_not [DecidableEq P] {p : P} (h : ¬ fs.Openable dirOf p) : fs.openAppend dirOf p = (none, fs) := by
  unfold Openable at h
  rw [not_or, not_not] at h
  unfold openAppend
  rw [h.1]
  exact if_neg h.2

theorem found_write {q : P} {i : Nat} (h : fs.names q = some i) (text : List C) :
    (fs.write (some i) text).found q = some (fs.contents i ++ text) := by
  simp [found, write, h]

theorem found_write_of_ne {q : P} {i : Nat} (h : fs.names q ≠ some i) (text : List C) :
    (fs.write (some i) text).found q = fs.found q := by
  unfold found write
  cases hq : fs.names q with
  | none => rfl
  | some j =>
    have hij : j ≠ i := fun hij => h (by rw [hq, hij])
    simp only [Option.map_some, Function.update_of_ne hij]

/-- A path that can be opened shows the text behind what it showed before. -/
theorem found_writeAppend [DecidableEq P] {p : P} (h : fs.Openable dirOf p) (text : List C) :
    (fs.writeAppend dirOf p text).found p = some ((fs.found p).getD [] ++ text) := by
  unfold writeAppend
  cases hp : fs.names p with
  | some i =>
    rw [openAppend_of_some hp]
    change (fs.write (some i) text).found p = _
    rw [found_write hp, found, hp]
    rfl
  | none =>
    have hd : fs.dirs (dirOf p) = true := h.resolve_left fun hne => hne hp
    rw [openAppend_of_dir hp hd]
    change ((fs.make p).write (some fs.made) text).found p = _
    rw [found_write (by simp [make]), found, hp]
    simp [make]

/-! ## Agreement -/

theorem Agree.refl (fs : Files P D C) : Agree fs fs := ⟨rfl, rfl, fun _ _ _ => rfl, rfl⟩

theorem Agree.found (h : Agree fs fs') (p : P) : fs.found p = fs'.found p := by
  unfold Files.found
  rw [← h.names]
  cases hp : fs.names p with
  | none => rfl
  | some i => exact congrArg some (h.contents p i hp)

theorem Agree.openable (h : Agree fs fs') (p : P) : fs.Openable dirOf p ↔ fs'.Openable dirOf p := by
  unfold Openable
  rw [h.names, h.dirs]

/-- Opening a path gives the same stream, and the file systems still agree. -/
theorem Agree.openAppend [DecidableEq P] (dirOf : P → D) (h : Agree fs fs') (p : P) :
    (fs.openAppend dirOf p).1 = (fs'.openAppend dirOf p).1 ∧
      Agree (fs.openAppend dirOf p).2 (fs'.openAppend dirOf p).2 := by
  by_cases ho : fs.Openable dirOf p
  · cases hp : fs.names p with
    | some i =>
      rw [openAppend_of_some hp, openAppend_of_some (h.names ▸ hp)]
      exact ⟨rfl, h⟩
    | none =>
      have hd := ho.resolve_left fun hne => hne hp
      rw [openAppend_of_dir hp hd, openAppend_of_dir (h.names ▸ hp) (h.dirs ▸ hd)]
      refine ⟨congrArg some h.made, h.dirs, ?_, fun q j hq => ?_, congrArg Nat.succ h.made⟩
      · simp only [make, h.names, h.made]
      · simp only [make, ← h.made] at hq ⊢
        by_cases hj : j = fs.made
        · rw [hj, Function.update_self, Function.update_self]
        · rw [Function.update_of_ne hj, Function.update_of_ne hj]
          by_cases hqp : q = p
          · rw [hqp, Function.update_self] at hq
            exact absurd (Option.some.inj hq).symm hj
          · rw [Function.update_of_ne hqp] at hq
            exact h.contents q j hq
  · rw [openAppend_of_not ho, openAppend_of_not (mt (h.openable p).2 ho)]
    exact ⟨rfl, h⟩

/-- One file gets new contents, which agree if the file has a name. -/
theorem Agree.update (h : Agree fs fs') {i : Nat} {c c' : List C} (hc : ∀ q, fs.names q = some i → c = c') :
    Agree { fs with contents := Function.update fs.contents i c }
      { fs' with contents := Function.update fs'.contents i c' } := by
  refine ⟨h.dirs, h.names, fun q j hq => ?_, h.made⟩
  simp only
  by_cases hj : j = i
  · subst hj
    rw [Function.update_self, Function.update_self, hc q hq]
  · rw [Function.update_of_ne hj, Function.update_of_ne hj]
    exact h.contents q j hq

theorem Agree.write (h : Agree fs fs') (stream : Stream) (text : List C) :
    Agree (fs.write stream text) (fs'.write stream text) := by
  cases stream with
  | none => exact h
  | some i => exact h.update fun q hq => by rw [h.contents q i hq]

theorem Agree.truncate (h : Agree fs fs') (stream : Stream) : Agree (fs.truncate stream) (fs'.truncate stream) := by
  cases stream with
  | none => exact h
  | some i => exact h.update fun _ _ => rfl

theorem Agree.writeNew [DecidableEq P] (h : Agree fs fs') (p : P) (text : List C) :
    Agree (fs.writeNew dirOf p text) (fs'.writeNew dirOf p text) := by
  obtain ⟨hstream, hopen⟩ := h.openAppend dirOf p
  unfold Files.writeNew
  simp only [← hstream]
  exact (hopen.truncate _).write _ text

theorem Agree.writeAppend [DecidableEq P] (h : Agree fs fs') (p : P) (text : List C) :
    Agree (fs.writeAppend dirOf p text) (fs'.writeAppend dirOf p text) := by
  obtain ⟨hstream, hopen⟩ := h.openAppend dirOf p
  unfold Files.writeAppend
  simp only [← hstream]
  exact hopen.write _ text

theorem Agree.remove [DecidableEq P] (h : Agree fs fs') (p : P) : Agree (fs.remove p) (fs'.remove p) := by
  refine ⟨h.dirs, by simp only [Files.remove, h.names], fun q j hq => ?_, h.made⟩
  by_cases hqp : q = p
  · rw [hqp] at hq
    simp [Files.remove] at hq
  · exact h.contents q j (by simpa [Files.remove, hqp] using hq)

theorem Agree.removeDir [DecidableEq D] (h : Agree fs fs') (d : D) :
    Agree (fs.removeDir dirOf d) (fs'.removeDir dirOf d) := by
  refine ⟨by simp only [Files.removeDir, h.dirs], by simp only [Files.removeDir, h.names], fun q j hq => ?_, h.made⟩
  by_cases hqd : dirOf q = d
  · simp [Files.removeDir, hqd] at hq
  · exact h.contents q j (by simpa [Files.removeDir, hqd] using hq)

theorem Agree.makeDir [DecidableEq D] (h : Agree fs fs') (d : D) : Agree (fs.makeDir d) (fs'.makeDir d) :=
  ⟨by simp only [Files.makeDir, h.dirs], h.names, h.contents, h.made⟩

/-! ## A stream that was opened earlier -/

/-- A stream does what a new one for the path would do: it writes to the file that the path names now, or neither of the
two writes to anything that can be found. -/
def Follows (dirOf : P → D) (fs : Files P D C) (p : P) (stream : Stream) : Prop :=
  match stream with
  | none => ¬ fs.Openable dirOf p
  | some i => fs.names p = some i ∨ ¬ fs.Openable dirOf p ∧ ∀ q, fs.names q ≠ some i

variable [DecidableEq P]

theorem writeAppend_of_not {p : P} (h : ¬ fs.Openable dirOf p) (text : List C) : fs.writeAppend dirOf p text = fs := by
  unfold writeAppend
  rw [openAppend_of_not h]
  rfl

theorem Follows.agree {p : P} {stream : Stream} (hf : Follows dirOf fs p stream) (h : Agree fs fs') (text : List C) :
    Agree (fs.write stream text) (fs'.writeAppend dirOf p text) := by
  cases stream with
  | none =>
    rw [writeAppend_of_not (mt (h.openable p).2 hf)]
    exact h
  | some i =>
    rcases hf with hp | ⟨hno, hnone⟩
    · unfold writeAppend
      rw [openAppend_of_some (h.names ▸ hp)]
      exact h.write (some i) text
    · rw [writeAppend_of_not (mt (h.openable p).2 hno)]
      refine ⟨h.dirs, h.names, fun q j hq => ?_, h.made⟩
      have hj : j ≠ i := fun hj => hnone q (hj ▸ hq)
      exact (Function.update_of_ne hj _ _).trans (h.contents q j hq)

/-- Otherwise the two can be told apart, at the path or where the file of the stream is named. -/
theorem not_follows {p : P} {stream : Stream} (hf : ¬ Follows dirOf fs p stream) (h : Agree fs fs') {text : List C}
    (ht : text ≠ []) : ∃ q, (fs.write stream text).found q ≠ (fs'.writeAppend dirOf p text).found q := by
  -- what is found has become longer on one side only
  have hlonger : ∀ c : Option (List C), c ≠ some (c.getD [] ++ text) := by
    intro c hc
    have hlen := congrArg List.length (congrArg (fun o => o.getD []) hc)
    simp only [Option.getD_some, List.length_append] at hlen
    exact ht (List.length_eq_zero_iff.1 (by omega))
  have hleft : fs.Openable dirOf p → (∀ i, stream = some i → fs.names p ≠ some i) →
      (fs.write stream text).found p ≠ (fs'.writeAppend dirOf p text).found p := by
    intro ho hne
    have hsame : (fs.write stream text).found p = fs.found p := by
      cases stream with
      | none => rfl
      | some i => exact found_write_of_ne (hne i rfl) text
    rw [hsame, found_writeAppend ((h.openable p).1 ho), ← h.found]
    exact hlonger _
  cases stream with
  | none => exact ⟨p, hleft (not_not.1 hf) nofun⟩
  | some i =>
    unfold Follows at hf
    simp only [not_or, not_and, not_forall, not_not] at hf
    obtain ⟨hne, hf⟩ := hf
    by_cases ho : fs.Openable dirOf p
    · exact ⟨p, hleft ho fun j hj => by cases hj; exact hne⟩
    · obtain ⟨q, hq⟩ := hf ho
      refine ⟨q, ?_⟩
      rw [writeAppend_of_not (mt (h.openable p).2 ho), found_write hq, ← h.found]
      intro he
      exact hlonger (fs.found q) (by rw [found, hq]; exact (he.trans (by rw [found, hq])).symm)

end Files

end SatNet.FileSystem
