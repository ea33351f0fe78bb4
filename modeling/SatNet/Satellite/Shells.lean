/-
Constellations of several shells in `gen_state.py`: `write_shells` numbers the satellites shell by shell, and
`read_tles_with_limits` finds the shell of each satellite again, to give the satellite the limits of its shell.
-/
import SatNet.Base.Python
import Mathlib.Combinatorics.Enumerative.Composition

namespace SatNet.Satellite.GenState

open SatNet.Loop SatNet.Python

/-! ## Shells -/

/-- How the script can fail. -/
inductive ScriptError where
  | indexError
  | keyError
  | valueError
  | diverges
  deriving Repr, DecidableEq

abbrev Script := Except ScriptError

/-- `l[i]`. -/
def itemAt {α : Type} (l : List α) (i : Nat) : Script α :=
  match l[i]? with
  | some x => .ok x
  | none => .error .indexError

/-- What `shell_params` makes of a `--shell`; `φ` is the type of a `float`. -/
structure Shell (φ : Type) where
  orbits : Nat
  spo : Nat
  incl : φ
  meanMotion : φ
  maxGsl : φ
  maxIsl : φ
  orbits_ge : 3 ≤ orbits
  spo_ge : 3 ≤ spo

variable {φ : Type}

def Shell.size (sh : Shell φ) : Nat := sh.orbits * sh.spo

/-- The functions of satgen: the text that the two generators write for a shell, a checksum, and the satellite objects
that are read from a text. An object is known by its `id`. -/
structure Satgen (φ : Type) where
  generateTlesFromScratchManual : (name : Str) → (orbits spo : Nat) → (phaseDiff : Bool) →
    (incl eccentricity argOfPerigeeDegree meanMotion : φ) → Str
  generatePlusGridIsls : (orbits spo islShift idxOffset : Nat) → Str
  calculateTleLineChecksum : Str → Nat
  readTles : Str → Script (List Nat)
  eccentricity : φ
  argOfPerigeeDegree : φ

/-! ## Writing -/

/-- `f.read().splitlines()`. -/
def readLines (text : Str) : List Str := splitlines (universalNewlines text)

/-- `range(0, n, 3)`. -/
def rangeByThree (n : Nat) : List Nat := (List.range ((n + 2) / 3)).map (3 * ·)

/-- `"Shell%d" % k` and the name of a satellite in it. -/
def shellName (k : Nat) : Str := "Shell".toList ++ formatD k

def satelliteName (k sid : Nat) : Str := shellName k ++ ' ' :: formatD sid

/-- How the two lines of a satellite begin. -/
def line1Start (sid : Nat) : Str := "1 ".toList ++ format05d (sid + 1) ++ ['U']

def line2Start (sid : Nat) : Str := "2 ".toList ++ format05d (sid + 1)

variable (g : Satgen φ)

/-- The three lines of the satellite whose lines in the shell's own file begin at `i`. -/
def tleEntry (k offset : Nat) (lines : List Str) (i : Nat) : Script (List Str) := do
  let sid := offset + i / 3
  let line1 ← itemAt lines (i + 1)
  let line2 ← itemAt lines (i + 2)
  let l1 := line1Start sid ++ sliceButLast line1 8
  let l2 := line2Start sid ++ sliceButLast line2 7
  .ok [satelliteName k sid, l1 ++ formatD (g.calculateTleLineChecksum l1), l2 ++ formatD (g.calculateTleLineChecksum l2)]

/-- What the loop over the shells changes. -/
structure ShellFiles where
  tleLines : List Str
  islLines : List Str
  offset : Nat

def writeShell (files : ShellFiles) (shell : Shell φ × Nat) : Script ShellFiles := do
  let (sh, k) := shell
  let tles := g.generateTlesFromScratchManual (shellName k) sh.orbits sh.spo true sh.incl g.eccentricity
    g.argOfPerigeeDegree sh.meanMotion
  let lines := (readLines tles).drop 1
  let tleLines ← forEach (fun tleLines i => do
    let entry ← tleEntry g k files.offset lines i
    .ok (tleLines ++ entry)) (rangeByThree lines.length) files.tleLines
  let isls := g.generatePlusGridIsls sh.orbits sh.spo 0 files.offset
  .ok ⟨tleLines, files.islLines ++ readLines isls, files.offset + sh.orbits * sh.spo⟩

/-- The texts of `tles.txt` and `isls.txt`, and the number of satellites. -/
def writeShells (shells : List (Shell φ)) : Script (Str × Str × Nat) := do
  let files ← forEach (writeShell g) shells.zipIdx ⟨[], [], 0⟩
  .ok ("1 ".toList ++ formatD files.offset ++ '\n' :: joinLines files.tleLines, joinLines files.islLines, files.offset)

/-! ## Reading -/

/-- `_SAT_GSL_LIMIT` and `_SAT_ISL_LIMIT`. -/
structure SatLimits (φ : Type) where
  gsl : Nat → Option φ
  isl : Nat → Option φ

def SatLimits.set (limits : SatLimits φ) (satellite : Nat) (sh : Shell φ) : SatLimits φ where
  gsl s := if s = satellite then some sh.maxGsl else limits.gsl s
  isl s := if s = satellite then some sh.maxIsl else limits.isl s

/-- What the loop over the satellites changes. -/
structure Reading (φ : Type) where
  k : Nat
  left : Nat
  limits : SatLimits φ

/-- The body of the loop `while left == 0`, on `(k, left)`. -/
def nextShell (shells : List (Shell φ)) (st : Nat × Nat) : Script (Nat × Nat) := do
  let sh ← itemAt shells (st.1 + 1)
  .ok (st.1 + 1, sh.orbits * sh.spo)

/-- The loop cannot go on for more rounds than there are shells. -/
def limitSatellite (shells : List (Shell φ)) (st : Reading φ) (satellite : Nat) : Script (Reading φ) := do
  let (k, left) ← whileLoop .diverges (fun st => st.2 = 0) (nextShell shells) (shells.length + 1) (st.k, st.left)
  let sh ← itemAt shells k
  .ok ⟨k, left - 1, st.limits.set satellite sh⟩

def readTlesWithLimits (shells : List (Shell φ)) (text : Str) (limits : SatLimits φ) :
    Script (List Nat × SatLimits φ) := do
  let satellites ← g.readTles text
  let first ← itemAt shells 0
  let st ← forEach (limitSatellite shells) satellites ⟨0, first.orbits * first.spo, limits⟩
  .ok (satellites, st.limits)

/-! ## The limits in use -/

section Distance

variable [LE φ] [LT φ] [DecidableLE φ] [DecidableLT φ]

/-- The wrapper `gsl`, for the distance `d` to the satellite. -/
def gslDistance (inf : φ) (limits : SatLimits φ) (d : φ) (satellite : Nat) : Script φ :=
  match limits.gsl satellite with
  | some lim => .ok (if d ≤ lim then d else inf)
  | none => .error .keyError

/-- The wrapper `isl`, for the distance `d` between the satellites; the limit is that of the first one. -/
def islDistance (limits : SatLimits φ) (d : φ) (sat1 : Nat) : Script φ :=
  match limits.isl sat1 with
  | some lim => if d > lim then .error .valueError else .ok d
  | none => .error .keyError

end Distance

/-! ## What is relied on -/

/-- A line of `isls.txt`. -/
def islLine (p : Nat × Nat) : Str := formatD p.1 ++ ' ' :: formatD p.2

/-- The generators write a header and three lines for each satellite, and ISLs between satellites of the range that is
asked for; the reader makes an object of its own for each three lines after the header. -/
structure SatgenLaws (g : Satgen φ) : Prop where
  tles : ∀ name orbits spo phaseDiff incl eccentricity argOfPerigee meanMotion, Unbroken name → 3 ≤ orbits → 3 ≤ spo →
    ∃ header lines, readLines (g.generateTlesFromScratchManual name orbits spo phaseDiff incl eccentricity argOfPerigee
      meanMotion) = header :: lines ∧ lines.length = 3 * (orbits * spo)
  isls : ∀ orbits spo idxOffset, 3 ≤ orbits → 3 ≤ spo → ∃ pairs : List (Nat × Nat),
    readLines (g.generatePlusGridIsls orbits spo 0 idxOffset) = pairs.map islLine ∧
      ∀ p ∈ pairs, (idxOffset ≤ p.1 ∧ p.1 < idxOffset + orbits * spo) ∧ idxOffset ≤ p.2 ∧ p.2 < idxOffset + orbits * spo
  read : ∀ text satellites, '\r' ∉ text → g.readTles text = .ok satellites →
    satellites.Nodup ∧ (getlines text).length = 1 + 3 * satellites.length

/-! ## The ranges of the shells -/

theorem Shell.size_pos (sh : Shell φ) : 0 < sh.size :=
  Nat.mul_pos (Nat.lt_of_lt_of_le (by decide) sh.orbits_ge) (Nat.lt_of_lt_of_le (by decide) sh.spo_ge)

/-- All satellites, divided into shells. -/
def constellation (shells : List (Shell φ)) : Composition (shells.map Shell.size).sum where
  blocks := shells.map Shell.size
  blocks_pos := by
    intro n hn
    obtain ⟨sh, -, rfl⟩ := List.mem_map.1 hn
    exact sh.size_pos
  blocks_sum := rfl

/-- Satellite `i` is in the range of the shell at place `k`. -/
def InShell (shells : List (Shell φ)) (k i : Nat) : Prop :=
  k < shells.length ∧ (constellation shells).sizeUpTo k ≤ i ∧ i < (constellation shells).sizeUpTo (k + 1)

section InShell

variable {shells rest : List (Shell φ)} {k k' i : Nat}

theorem constellation_length : (constellation shells).length = shells.length := List.length_map ..

theorem sizeUpTo_length : (constellation shells).sizeUpTo shells.length = (shells.map Shell.size).sum := by
  rw [← constellation_length, Composition.sizeUpTo_length]

theorem sizeUpTo_append (hk : k ≤ shells.length) :
    (constellation (shells ++ rest)).sizeUpTo k = (constellation shells).sizeUpTo k := by
  unfold Composition.sizeUpTo constellation
  rw [← List.map_take, ← List.map_take, List.take_append_of_le_length hk]

theorem InShell.append (h : InShell shells k i) : InShell (shells ++ rest) k i := by
  obtain ⟨hk, hlo, hhi⟩ := h
  refine ⟨by rw [List.length_append]; omega, ?_, ?_⟩
  · rw [sizeUpTo_append hk.le]
    exact hlo
  · rw [sizeUpTo_append hk]
    exact hhi

/-- The range of one more shell begins where those before it end. -/
theorem inShell_concat {sh : Shell φ} (hlo : (shells.map Shell.size).sum ≤ i)
    (hhi : i < (shells.map Shell.size).sum + sh.size) : InShell (shells ++ [sh]) shells.length i := by
  refine ⟨by simp, ?_, ?_⟩
  · rw [sizeUpTo_append le_rfl, sizeUpTo_length]
    exact hlo
  · have hall := (@sizeUpTo_length _ (shells ++ [sh])).trans
      (show ((shells ++ [sh]).map Shell.size).sum = (shells.map Shell.size).sum + sh.size by simp)
    rw [List.length_append, List.length_singleton] at hall
    rw [hall]
    exact hhi

theorem exists_inShell (h : i < (shells.map Shell.size).sum) : ∃ k, InShell shells k i := by
  refine ⟨(constellation shells).index ⟨i, h⟩, ?_, Composition.sizeUpTo_index_le _ ⟨i, h⟩,
    Composition.lt_sizeUpTo_index_succ _ ⟨i, h⟩⟩
  rw [← constellation_length]
  exact ((constellation shells).index ⟨i, h⟩).isLt

/-- No satellite is in two ranges. -/
theorem InShell.unique (h : InShell shells k i) (h' : InShell shells k' i) : k = k' := by
  have hle : ∀ {k k' : Nat}, InShell shells k i → InShell shells k' i → k ≤ k' := by
    intro k k' h h'
    by_contra hlt
    have hmono := (constellation shells).monotone_sizeUpTo (show k' + 1 ≤ k by omega)
    exact absurd (Nat.lt_of_lt_of_le h'.2.2 (hmono.trans h.2.1)) (Nat.lt_irrefl i)
  exact le_antisymm (hle h h') (hle h' h)

end InShell

/-! ## What is written -/

variable {g : Satgen φ}

/-- The three lines of satellite `i`, of the shell at place `k`. -/
def IsEntry (k i : Nat) (entry : List Str) : Prop :=
  ∃ rest₁ rest₂, entry = [satelliteName k i, line1Start i ++ rest₁, line2Start i ++ rest₂] ∧
    Unbroken rest₁ ∧ Unbroken rest₂

theorem itemAt_lt {α : Type} {l : List α} {i : Nat} (h : i < l.length) : itemAt l i = .ok l[i] := by
  unfold itemAt
  rw [List.getElem?_eq_getElem h]

theorem tleEntry_ok {k offset m j : Nat} {lines : List Str} (hlen : lines.length = 3 * m)
    (hlines : ∀ l ∈ lines, Unbroken l) (hj : j < m) :
    ∃ entry, tleEntry g k offset lines (3 * j) = .ok entry ∧ IsEntry k (offset + j) entry := by
  unfold tleEntry
  rw [itemAt_lt (by omega), ok_bind, itemAt_lt (by omega), ok_bind, Nat.mul_div_cancel_left j (by decide)]
  refine ⟨_, rfl, _, _, by rw [List.append_assoc, List.append_assoc], ?_, ?_⟩
  · exact ((hlines _ (List.getElem_mem _)).slice 8).append (unbroken_formatD _)
  · exact ((hlines _ (List.getElem_mem _)).slice 7).append (unbroken_formatD _)

/-- The loop over the lines of a shell's own file. -/
theorem tleEntries_ok {k offset m : Nat} {lines : List Str} (hlen : lines.length = 3 * m)
    (hlines : ∀ l ∈ lines, Unbroken l) (tleLines : List Str) :
    ∃ entries : List (List Str), forEach (fun tleLines i => do
        let entry ← tleEntry g k offset lines i
        .ok (tleLines ++ entry)) (rangeByThree lines.length) tleLines = .ok (tleLines ++ entries.flatten) ∧
      entries.length = m ∧ ∀ j e, entries[j]? = some e → IsEntry k (offset + j) e := by
  have hrange : rangeByThree lines.length = (List.range m).map (3 * ·) := by
    unfold rangeByThree
    rw [hlen, show (3 * m + 2) / 3 = m by omega]
  obtain ⟨entries, hentries⟩ := forall₂_exists (R := fun i e => tleEntry g k offset lines i = .ok e)
    (l := rangeByThree lines.length) (by
      rw [hrange]
      intro i hi
      obtain ⟨j, hj, rfl⟩ := List.mem_map.1 hi
      obtain ⟨e, he, -⟩ : ∃ e, tleEntry g k offset lines (3 * j) = .ok e ∧ IsEntry k (offset + j) e :=
        tleEntry_ok hlen hlines (List.mem_range.1 hj)
      exact ⟨e, he⟩)
  refine ⟨entries, ?_, ?_, fun j e he => ?_⟩
  · rw [forEach_read (tleEntry g k offset lines) (fun tleLines entry => tleLines ++ entry)]
    exact ⟨entries, hentries, by rw [List.foldl_append_eq_append, List.map_id']⟩
  · rw [← hentries.length_eq, hrange, List.length_map, List.length_range]
  · obtain ⟨i, hi, hread⟩ := forall₂_getElem? hentries he
    rw [hrange, List.getElem?_map, Option.map_eq_some_iff] at hi
    obtain ⟨j', hj', rfl⟩ := hi
    obtain ⟨hj, rfl⟩ := List.getElem?_eq_some_iff.1 hj'
    rw [List.length_range] at hj
    rw [List.getElem_range] at hread
    obtain ⟨e', he', hentry⟩ : ∃ e, tleEntry g k offset lines (3 * j) = .ok e ∧ IsEntry k (offset + j) e :=
      tleEntry_ok hlen hlines hj
    cases he'.symm.trans hread
    exact hentry

/-- The loop over the shells has written the first ones. -/
structure Written (shells : List (Shell φ)) (files : ShellFiles) : Prop where
  offset : files.offset = (shells.map Shell.size).sum
  tles : ∃ entries : List (List Str), files.tleLines = entries.flatten ∧ entries.length = files.offset ∧
    ∀ i e, entries[i]? = some e → ∃ k, InShell shells k i ∧ IsEntry k i e
  isls : ∃ pairs : List (Nat × Nat), files.islLines = pairs.map islLine ∧
    ∀ p ∈ pairs, ∃ k, InShell shells k p.1 ∧ InShell shells k p.2

theorem unbroken_shellName (k : Nat) : Unbroken (shellName k) :=
  Unbroken.append (List.forall_iff_forall_mem.1 (by decide)) (unbroken_formatD k)

/-- The ISLs of one more shell do not leave it, either. -/
theorem pairs_inShell {shells : List (Shell φ)} {sh : Shell φ} {lo hi : Nat} {pairs₀ pairs : List (Nat × Nat)}
    (hlast : ∀ i, lo ≤ i → i < hi → InShell (shells ++ [sh]) shells.length i)
    (h₀ : ∀ p ∈ pairs₀, ∃ k, InShell shells k p.1 ∧ InShell shells k p.2)
    (h : ∀ p ∈ pairs, (lo ≤ p.1 ∧ p.1 < hi) ∧ lo ≤ p.2 ∧ p.2 < hi) :
    ∀ p ∈ pairs₀ ++ pairs, ∃ k, InShell (shells ++ [sh]) k p.1 ∧ InShell (shells ++ [sh]) k p.2 := by
  intro p hp
  rcases List.mem_append.1 hp with hp | hp
  · obtain ⟨k, h₁, h₂⟩ := h₀ p hp
    exact ⟨k, h₁.append, h₂.append⟩
  · obtain ⟨⟨hlo₁, hhi₁⟩, hlo₂, hhi₂⟩ := h p hp
    exact ⟨shells.length, hlast _ hlo₁ hhi₁, hlast _ hlo₂ hhi₂⟩

/-- One more shell is written after the others. -/
theorem writeShell_ok (hg : SatgenLaws g) {shells : List (Shell φ)} {files : ShellFiles} (hw : Written shells files)
    (sh : Shell φ) : ∃ files', writeShell g files (sh, shells.length) = .ok files' ∧ Written (shells ++ [sh]) files' := by
  obtain ⟨header, lines, htles, hlen⟩ := hg.tles (shellName shells.length) sh.orbits sh.spo true sh.incl g.eccentricity
    g.argOfPerigeeDegree sh.meanMotion (unbroken_shellName _) sh.orbits_ge sh.spo_ge
  obtain ⟨pairs, hisls, hpairs⟩ := hg.isls sh.orbits sh.spo files.offset sh.orbits_ge sh.spo_ge
  have hlines : ∀ l ∈ lines, Unbroken l := fun l hl =>
    unbroken_splitlines _ l (show l ∈ readLines _ from htles ▸ List.mem_cons_of_mem _ hl)
  obtain ⟨entries, hloop, hcount, hentries⟩ := @tleEntries_ok _ g shells.length files.offset _ _ hlen hlines
    files.tleLines
  obtain ⟨entries₀, htle₀, hcount₀, hentries₀⟩ := hw.tles
  obtain ⟨pairs₀, hisl₀, hpairs₀⟩ := hw.isls
  have hlast : ∀ i, files.offset ≤ i → i < files.offset + sh.orbits * sh.spo →
      InShell (shells ++ [sh]) shells.length i := fun i hlo hhi =>
    inShell_concat (hw.offset ▸ hlo) (hw.offset ▸ hhi)
  have hwrite : writeShell g files (sh, shells.length) = .ok ⟨files.tleLines ++ entries.flatten,
      files.islLines ++ pairs.map islLine, files.offset + sh.orbits * sh.spo⟩ := by
    unfold writeShell
    simp only [htles, hisls, List.drop_one, List.tail_cons]
    rw [hloop, ok_bind]
  refine ⟨_, hwrite, ?_, ⟨entries₀ ++ entries, ?_, ?_, fun i e he => ?_⟩, ⟨pairs₀ ++ pairs, ?_, fun p hp => ?_⟩⟩
  · simp [hw.offset, Shell.size]
  · simp [htle₀]
  · simp [hcount₀, hcount]
  · rcases Nat.lt_or_ge i entries₀.length with hi | hi
    · rw [List.getElem?_append_left hi] at he
      obtain ⟨k, hk, hentry⟩ := hentries₀ i e he
      exact ⟨k, hk.append, hentry⟩
    · rw [List.getElem?_append_right hi] at he
      have hentry := hentries _ e he
      obtain ⟨hj, -⟩ := List.getElem?_eq_some_iff.1 he
      rw [hcount₀] at hi hj hentry
      rw [Nat.add_sub_cancel' hi] at hentry
      exact ⟨shells.length, hlast i hi (by omega), hentry⟩
  · simp [hisl₀]
  · exact pairs_inShell hlast hpairs₀ hpairs p hp

/-- The loop over the shells ends. -/
theorem writeShell_loop (hg : SatgenLaws g) (shells : List (Shell φ)) :
    ∃ files, forEach (writeShell g) shells.zipIdx ⟨[], [], 0⟩ = .ok files ∧ Written shells files := by
  have hstart : Written (φ := φ) [] ⟨[], [], 0⟩ := ⟨rfl, ⟨[], rfl, rfl, nofun⟩, ⟨[], rfl, nofun⟩⟩
  have hstep : ∀ (done : List (Shell φ × Nat)) (x : Shell φ × Nat) (rest : List (Shell φ × Nat)) (files : ShellFiles),
      shells.zipIdx = done ++ x :: rest → Written (done.map Prod.fst) files →
      ∃ files', writeShell g files x = .ok files' ∧ Written ((done ++ [x]).map Prod.fst) files' := by
    intro done x rest files hl hw
    have hx : shells.zipIdx[done.length]? = some x := by simp [hl]
    obtain ⟨sh, k⟩ := x
    -- the place of the shell is the number of those before it
    have hk : k = (done.map Prod.fst).length := by
      rw [List.getElem?_zipIdx, Option.map_eq_some_iff] at hx
      obtain ⟨_, -, he⟩ := hx
      cases he
      simp
    rw [hk, List.map_append]
    exact writeShell_ok hg hw sh
  obtain ⟨files, hloop, hw⟩ := forEach_ends (writeShell g) (fun done => Written (done.map Prod.fst)) hstep
    shells.zipIdx [] _ rfl hstart
  rw [List.zipIdx_map_fst] at hw
  exact ⟨files, hloop, hw⟩

/-! ## What is read -/

/-- The satellite has the limits of the shell. -/
structure LimitedBy (limits : SatLimits φ) (satellite : Nat) (sh : Shell φ) : Prop where
  gsl : limits.gsl satellite = some sh.maxGsl
  isl : limits.isl satellite = some sh.maxIsl

/-- The reader has given the first satellites their limits, and is at a place within the range of its shell. -/
structure ReadSoFar (shells : List (Shell φ)) (done : List Nat) (st : Reading φ) : Prop where
  k_lt : st.k < shells.length
  left : (constellation shells).sizeUpTo (st.k + 1) = done.length + st.left
  lo : (constellation shells).sizeUpTo st.k ≤ done.length
  limits : ∀ i s k sh, done[i]? = some s → InShell shells k i → shells[k]? = some sh → LimitedBy st.limits s sh

/-- The countdown goes on to the shell of the next satellite, if there is one. -/
theorem nextShell_loop {shells : List (Shell φ)} {done : List Nat} {st : Reading φ} (hr : ReadSoFar shells done st)
    (hlt : done.length < (shells.map Shell.size).sum) :
    ∃ k left, whileLoop .diverges (fun st : Nat × Nat => st.2 = 0) (nextShell shells) (shells.length + 1)
        (st.k, st.left) = .ok (k, left) ∧ 0 < left ∧ InShell shells k done.length ∧
      (constellation shells).sizeUpTo (k + 1) = done.length + left := by
  have hk := hr.k_lt
  have hleft := hr.left
  rcases Nat.eq_zero_or_pos st.left with h0 | hpos
  · rw [h0, Nat.add_zero] at hleft
    have hnext : st.k + 1 < shells.length := by
      by_contra hlast
      have hend := (constellation shells).sizeUpTo_ofLength_le (st.k + 1) (by rw [constellation_length]; omega)
      omega
    have hsize := (shells[st.k + 1]).size_pos
    have hsucc : (constellation shells).sizeUpTo (st.k + 1 + 1) = done.length + (shells[st.k + 1]).size := by
      rw [Composition.sizeUpTo_succ _ (by rw [constellation_length]; exact hnext), hleft]
      simp [constellation]
    refine ⟨st.k + 1, (shells[st.k + 1]).size, ?_, hsize, ⟨hnext, hleft.le, by omega⟩, hsucc⟩
    obtain ⟨m, hm⟩ := Nat.exists_eq_succ_of_ne_zero (show shells.length ≠ 0 by omega)
    have hround : nextShell shells (st.k, st.left) = .ok (st.k + 1, (shells[st.k + 1]).size) := by
      unfold nextShell
      rw [itemAt_lt hnext]
      rfl
    rw [whileLoop, if_pos (by simpa using h0), hround, ok_bind, hm, whileLoop, if_neg (by simpa using hsize.ne')]
  · refine ⟨st.k, st.left, ?_, hpos, ⟨hk, hr.lo, by omega⟩, hleft⟩
    rw [whileLoop, if_neg (by simpa using hpos.ne')]

/-- One more satellite gets the limits of its shell, and no other satellite other ones. -/
theorem limitSatellite_ok {shells : List (Shell φ)} {done : List Nat} {st : Reading φ} {s : Nat}
    (hr : ReadSoFar shells done st) (hlt : done.length < (shells.map Shell.size).sum) (hs : s ∉ done) :
    ∃ st', limitSatellite shells st s = .ok st' ∧ ReadSoFar shells (done ++ [s]) st' := by
  obtain ⟨k, left, hloop, hpos, hin, hend⟩ := nextShell_loop hr hlt
  have hk := hin.1
  refine ⟨⟨k, left - 1, st.limits.set s shells[k]⟩, ?_, hin.1, ?_, ?_, fun i s' k' sh hi hk' hsh => ?_⟩
  · unfold limitSatellite
    rw [hloop, ok_bind]
    simp only
    rw [itemAt_lt hin.1]
    rfl
  · rw [hend, List.length_append, List.length_singleton]
    simp only
    omega
  · have hlo := hin.2.1
    rw [List.length_append, List.length_singleton]
    simp only
    omega
  · rcases getElem?_concat_iff.1 hi with hi | ⟨rfl, rfl⟩
    · have hne : s' ≠ s := fun he => hs (he ▸ List.mem_of_getElem? hi)
      obtain ⟨hgsl, hisl⟩ := hr.limits i s' k' sh hi hk' hsh
      exact ⟨by simpa [SatLimits.set, hne] using hgsl, by simpa [SatLimits.set, hne] using hisl⟩
    · obtain rfl := hk'.unique hin
      rw [List.getElem?_eq_getElem hin.1] at hsh
      cases hsh
      exact ⟨by simp [SatLimits.set], by simp [SatLimits.set]⟩

/-- The reader runs to its end, and every satellite gets the limits of its shell. -/
theorem readTlesWithLimits_ok {shells : List (Shell φ)} (hne : shells ≠ []) {text : Str} {satellites : List Nat}
    (hread : g.readTles text = .ok satellites) (hn : satellites.Nodup)
    (hlen : satellites.length = (shells.map Shell.size).sum) (limits : SatLimits φ) :
    ∃ limits', readTlesWithLimits g shells text limits = .ok (satellites, limits') ∧
      ∀ i s k sh, satellites[i]? = some s → InShell shells k i → shells[k]? = some sh → LimitedBy limits' s sh := by
  have hpos := List.length_pos_iff.2 hne
  have hstart : ReadSoFar shells [] ⟨0, (shells[0]).size, limits⟩ := by
    refine ⟨hpos, ?_, ?_, nofun⟩
    · rw [Composition.sizeUpTo_succ _ (by rw [constellation_length]; exact hpos)]
      simp [constellation]
    · rw [Composition.sizeUpTo_zero]
      exact Nat.zero_le _
  have hstep : ∀ (done : List Nat) (s : Nat) (rest : List Nat) (st : Reading φ), satellites = done ++ s :: rest →
      ReadSoFar shells done st → ∃ st', limitSatellite shells st s = .ok st' ∧ ReadSoFar shells (done ++ [s]) st' := by
    intro done s rest st hl hr
    rw [hl] at hn hlen
    refine limitSatellite_ok hr ?_ fun hs => ?_
    · rw [← hlen, List.length_append, List.length_cons]
      omega
    · exact (List.nodup_append.1 hn).2.2 s hs s (List.mem_cons_self ..) rfl
  obtain ⟨st, hloop, hr⟩ := forEach_ends (limitSatellite shells) (ReadSoFar shells) hstep satellites [] _ rfl hstart
  refine ⟨st.limits, ?_, hr.limits⟩
  unfold readTlesWithLimits
  rw [hread, ok_bind, itemAt_lt hpos, ok_bind, show (shells[0]).orbits * (shells[0]).spo = (shells[0]).size from rfl, hloop]
  rfl

/-- What the wrappers make of the limits. -/
theorem LimitedBy.distances [LE φ] [LT φ] [DecidableLE φ] [DecidableLT φ] {limits : SatLimits φ} {s : Nat}
    {sh : Shell φ} (h : LimitedBy limits s sh) (inf d : φ) :
    gslDistance inf limits d s = .ok (if d ≤ sh.maxGsl then d else inf) ∧
      islDistance limits d s = if d > sh.maxIsl then .error .valueError else .ok d := by
  unfold gslDistance islDistance
  rw [h.gsl, h.isl]
  exact ⟨rfl, rfl⟩

/-! ## Both -/

/-- The two files of a constellation of `n` satellites, each of one shell: the header, then satellite 0, 1, … with its
three lines under the name of its shell, and ISLs that do not leave a shell. -/
structure Numbered (shells : List (Shell φ)) (tles isls : Str) (n : Nat) : Prop where
  count : n = (shells.map Shell.size).sum
  shell : ∀ i < n, ∃! k, InShell shells k i
  tles : ∃ entries : List (List Str), getlines tles = ("1 ".toList ++ formatD n) :: entries.flatten ∧
    entries.length = n ∧ ∀ i e, entries[i]? = some e → ∃ k, InShell shells k i ∧ IsEntry k i e
  isls : ∃ pairs : List (Nat × Nat), isls = joinLines (pairs.map islLine) ∧
    ∀ p ∈ pairs, ∃ k, InShell shells k p.1 ∧ InShell shells k p.2

theorem unbroken_literal {s : Str} (h : s.all (fun c => !isLineBreak c) = true) : Unbroken s := fun c hc => by
  simpa using List.all_eq_true.1 h c hc

theorem IsEntry.unbroken {k i : Nat} {e : List Str} (h : IsEntry k i e) : ∀ l ∈ e, Unbroken l := by
  obtain ⟨rest₁, rest₂, rfl, h₁, h₂⟩ := h
  have hname : Unbroken (satelliteName k i) :=
    (unbroken_shellName k).append (List.forall_mem_cons.2 ⟨by decide, unbroken_formatD i⟩)
  have hline₁ : Unbroken (line1Start i) :=
    ((unbroken_literal (by decide)).append (unbroken_format05d _)).append (unbroken_literal (by decide))
  have hline₂ : Unbroken (line2Start i) := (unbroken_literal (by decide)).append (unbroken_format05d _)
  simp only [List.mem_cons, List.not_mem_nil, or_false, forall_eq_or_imp, forall_eq]
  exact ⟨hname, hline₁.append h₁, hline₂.append h₂⟩

/-- A text of a header and three lines for each satellite. -/
theorem getlines_tles {header : Str} (hheader : Unbroken header) {entries : List (List Str)} (hne : entries ≠ [])
    (h : ∀ e ∈ entries, ∃ k i, IsEntry k i e) :
    getlines (header ++ '\n' :: joinLines entries.flatten) = header :: entries.flatten ∧
      '\r' ∉ header ++ '\n' :: joinLines entries.flatten := by
  have hlines : ∀ l ∈ entries.flatten, Unbroken l := by
    intro l hl
    obtain ⟨e, he, hl⟩ := List.mem_flatten.1 hl
    obtain ⟨k, i, hentry⟩ := h e he
    exact hentry.unbroken l hl
  have hflat : entries.flatten ≠ [] := by
    obtain ⟨e, rest, rfl⟩ := List.exists_cons_of_ne_nil hne
    obtain ⟨k, i, rest₁, rest₂, rfl, -⟩ := h e (List.mem_cons_self ..)
    simp
  constructor
  · rw [getlines_line (hheader.not_mem rfl), getlines_joinLines hflat fun l hl => (hlines l hl).not_mem rfl]
  · rw [List.mem_append, List.mem_cons]
    rintro (hr | hr | hr)
    · exact hheader.not_mem rfl hr
    · cases hr
    · rcases mem_joinLines hr with hr | ⟨l, hl, hr⟩
      · cases hr
      · exact (hlines l hl).not_mem rfl hr

theorem length_flatten_entries : ∀ {entries : List (List Str)}, (∀ e ∈ entries, ∃ k i, IsEntry k i e) →
    entries.flatten.length = 3 * entries.length
  | [], _ => rfl
  | e :: entries, h => by
    obtain ⟨⟨k, i, rest₁, rest₂, rfl, -⟩, hrest⟩ := List.forall_mem_cons.1 h
    rw [List.flatten_cons, List.length_append, length_flatten_entries hrest]
    simp only [List.length_cons, List.length_nil]
    omega

/-- The writer numbers the satellites shell by shell, and the reader gives each the limits of the shell it is in. -/
theorem writeShells_numbered (hg : SatgenLaws g) {shells : List (Shell φ)} (hne : shells ≠ []) :
    ∃ tles isls n, writeShells g shells = .ok (tles, isls, n) ∧ Numbered shells tles isls n ∧
      ∀ satellites limits, g.readTles tles = .ok satellites → satellites.length = n ∧
        ∃ limits', readTlesWithLimits g shells tles limits = .ok (satellites, limits') ∧
          ∀ i s k sh, satellites[i]? = some s → InShell shells k i → shells[k]? = some sh → LimitedBy limits' s sh := by
  obtain ⟨files, hloop, hw⟩ := writeShell_loop hg shells
  obtain ⟨entries, htles, hcount, hentries⟩ := hw.tles
  obtain ⟨pairs, hisls, hpairs⟩ := hw.isls
  have hsum : 0 < (shells.map Shell.size).sum := by
    obtain ⟨sh, rest, rfl⟩ := List.exists_cons_of_ne_nil hne
    have := sh.size_pos
    simp only [List.map_cons, List.sum_cons]
    omega
  have hall : ∀ e ∈ entries, ∃ k i, IsEntry k i e := by
    intro e he
    obtain ⟨i, hi⟩ := List.mem_iff_getElem?.1 he
    obtain ⟨k, -, hentry⟩ := hentries i e hi
    exact ⟨k, i, hentry⟩
  have hsome : entries ≠ [] := by
    rintro rfl
    have := hw.offset
    simp only [List.length_nil] at hcount
    omega
  obtain ⟨hlines, hreturn⟩ := getlines_tles
    (show Unbroken ("1 ".toList ++ formatD files.offset) from (unbroken_literal (by decide)).append (unbroken_formatD _))
    hsome hall
  have hshell : ∀ i < files.offset, ∃! k, InShell shells k i := by
    intro i hi
    obtain ⟨k, hk⟩ := exists_inShell (hw.offset ▸ hi)
    exact ⟨k, hk, fun k' hk' => hk'.unique hk⟩
  refine ⟨_, _, _, by unfold writeShells; rw [hloop, ok_bind], ⟨hw.offset, hshell, ⟨entries, ?_, hcount, hentries⟩,
    ⟨pairs, by rw [hisls], hpairs⟩⟩, fun satellites limits hread => ?_⟩
  · rw [htles]
    exact hlines
  · rw [htles] at hread ⊢
    obtain ⟨hn, hlen⟩ := hg.read _ satellites hreturn hread
    rw [hlines, List.length_cons, length_flatten_entries hall] at hlen
    have hsat : satellites.length = files.offset := by omega
    exact ⟨hsat, readTlesWithLimits_ok hne hread hn (hsat.trans hw.offset) limits⟩

/-! ### A satgen and two shells -/

/-- What is written line by line is read line by line. -/
theorem readLines_joinLines {lines : List Str} (hne : lines ≠ []) (h : ∀ l ∈ lines, Unbroken l) :
    readLines (joinLines lines) = lines := by
  unfold readLines
  rw [universalNewlines_eq fun hr => by
    rcases mem_joinLines hr with hr | ⟨l, hl, hr⟩
    · cases hr
    · exact (h l hl).not_mem rfl hr]
  rw [joinLines_eq hne, ← List.append_nil (lines.flatMap _), read_flatMap (fun _ rest hl => splitlines_line hl rest) h,
    splitlines, List.append_nil]

/-- The two ISLs of satellite `j` of orbit `i`: to the next one of the orbit, and to that of the next orbit. -/
def gridIsls (orbits spo idxOffset i j : Nat) : List (Nat × Nat) :=
  let sat := i * spo + j
  [i * spo + (j + 1) % spo, (i + 1) % orbits * spo + j].map fun other =>
    (idxOffset + min sat other, idxOffset + max sat other)

/-- A satgen whose distances are whole metres. -/
def gridSatgen : Satgen Nat where
  generateTlesFromScratchManual name orbits spo _ _ _ _ _ :=
    joinLines ((formatD orbits ++ ' ' :: formatD spo) :: (List.range (orbits * spo)).flatMap fun i =>
      [name ++ ' ' :: formatD i, "1 00001U 00000ABC 00001.00000000 04".toList, "2 00001 53.0000 06".toList])
  generatePlusGridIsls orbits spo _ idxOffset :=
    joinLines (((List.range orbits).flatMap fun i => (List.range spo).flatMap (gridIsls orbits spo idxOffset i)).map islLine)
  calculateTleLineChecksum l := (l.map fun c => if c.isDigit then c.toNat - 48 else if c = '-' then 1 else 0).sum % 10
  readTles text :=
    let count := (getlines text).length
    if 1 ≤ count ∧ (count - 1) % 3 = 0 then .ok (List.range ((count - 1) / 3)) else .error .valueError
  eccentricity := 0
  argOfPerigeeDegree := 0

theorem gridIsls_range {orbits spo idxOffset i j : Nat} (hi : i < orbits) (hj : j < spo) :
    ∀ p ∈ gridIsls orbits spo idxOffset i j, (idxOffset ≤ p.1 ∧ p.1 < idxOffset + orbits * spo) ∧
      idxOffset ≤ p.2 ∧ p.2 < idxOffset + orbits * spo := by
  have hcell : ∀ {i j : Nat}, i < orbits → j < spo → i * spo + j < orbits * spo := by
    intro i j hi hj
    calc i * spo + j < i * spo + spo := Nat.add_lt_add_left hj _
      _ = (i + 1) * spo := (Nat.succ_mul i spo).symm
      _ ≤ orbits * spo := Nat.mul_le_mul_right spo hi
  have h₀ := hcell hi hj
  have h₁ := hcell hi (Nat.mod_lt (j + 1) (Nat.lt_of_le_of_lt (Nat.zero_le j) hj))
  have h₂ := hcell (Nat.mod_lt (i + 1) (Nat.lt_of_le_of_lt (Nat.zero_le i) hi)) hj
  intro p hp
  simp only [gridIsls, List.map_cons, List.map_nil, List.mem_cons, List.not_mem_nil, or_false] at hp
  rcases hp with rfl | rfl <;> simp only <;> omega

theorem unbroken_islLine (p : Nat × Nat) : Unbroken (islLine p) :=
  (unbroken_formatD _).append (List.forall_mem_cons.2 ⟨by decide, unbroken_formatD _⟩)

theorem gridSatgen_laws : SatgenLaws gridSatgen where
  tles name orbits spo _ _ _ _ _ hname _ _ := by
    refine ⟨_, _, readLines_joinLines (List.cons_ne_nil _ _) ?_, ?_⟩
    · refine List.forall_mem_cons.2 ⟨unbroken_islLine (orbits, spo), fun l hl => ?_⟩
      obtain ⟨i, -, hl⟩ := List.mem_flatMap.1 hl
      simp only [List.mem_cons, List.not_mem_nil, or_false] at hl
      rcases hl with rfl | rfl | rfl
      · exact hname.append (List.forall_mem_cons.2 ⟨by decide, unbroken_formatD i⟩)
      · exact unbroken_literal (by decide)
      · exact unbroken_literal (by decide)
    · simp [List.length_flatMap, Nat.mul_comm]
  isls orbits spo idxOffset ho hs := by
    refine ⟨_, readLines_joinLines ?_ ?_, ?_⟩
    · obtain ⟨o, rfl⟩ := Nat.exists_eq_add_of_le' ho
      obtain ⟨n, rfl⟩ := Nat.exists_eq_add_of_le' hs
      simp [List.range_succ_eq_map, gridIsls]
    · intro l hl
      obtain ⟨p, -, rfl⟩ := List.mem_map.1 hl
      exact unbroken_islLine p
    · intro p hp
      obtain ⟨i, hi, hp⟩ := List.mem_flatMap.1 hp
      obtain ⟨j, hj, hp⟩ := List.mem_flatMap.1 hp
      exact gridIsls_range (List.mem_range.1 hi) (List.mem_range.1 hj) p hp
  read text satellites _ h := by
    simp only [gridSatgen] at h
    split at h
    · cases h
      refine ⟨List.nodup_range, ?_⟩
      rw [List.length_range]
      omega
    · cases h

def shell3x3 : Shell Nat := ⟨3, 3, 53, 15, 1000, 5000, by decide, by decide⟩

def shell4x3 : Shell Nat := ⟨4, 3, 70, 14, 2000, 6000, by decide, by decide⟩

/-- Satellite 8 is the last one of the first shell, and satellite 9 the first one of the second. -/
theorem writeShells_numbered_twoShells : ∃ tles isls limits,
    writeShells gridSatgen [shell3x3, shell4x3] = .ok (tles, isls, 21) ∧
      Numbered [shell3x3, shell4x3] tles isls 21 ∧
      readTlesWithLimits gridSatgen [shell3x3, shell4x3] tles ⟨fun _ => none, fun _ => none⟩ =
        .ok (List.range 21, limits) ∧ LimitedBy limits 8 shell3x3 ∧ LimitedBy limits 9 shell4x3 := by
  obtain ⟨tles, isls, n, hwrite, hnum, hread⟩ := writeShells_numbered gridSatgen_laws
    (List.cons_ne_nil shell3x3 [shell4x3])
  obtain rfl : n = 21 := hnum.count
  have hobjects : gridSatgen.readTles tles = .ok (List.range 21) := by
    obtain ⟨entries, hlines, hcount, hentries⟩ := hnum.tles
    have hlen := length_flatten_entries fun e he => by
      obtain ⟨i, hi⟩ := List.mem_iff_getElem?.1 he
      obtain ⟨k, -, hentry⟩ := hentries i e hi
      exact ⟨k, i, hentry⟩
    simp only [gridSatgen, hlines, List.length_cons, hlen, hcount]
    rfl
  obtain ⟨-, limits, hlimits, hall⟩ := hread _ ⟨fun _ => none, fun _ => none⟩ hobjects
  exact ⟨tles, isls, limits, hwrite, hnum, hlimits,
    hall 8 8 0 shell3x3 (by decide) ⟨by decide, by decide, by decide⟩ rfl,
    hall 9 9 1 shell4x3 (by decide) ⟨by decide, by decide, by decide⟩ rfl⟩

end SatNet.Satellite.GenState
