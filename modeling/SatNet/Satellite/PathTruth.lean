/-
The paths that `path_truth.py` and `viz_path.py` find, and the column `path_changed` of the former. Both follow the next
hops and give a path up at a length of their own, so that they differ where a destination is further away than the lower
of the two; and the flag of a step is computed against a variable that is reset while there is no path.
-/
import SatNet.Satellite.PathReplay

namespace SatNet.Satellite

open SatNet.Loop

/-! ## Following the next hops -/

section Walk

variable {fstate : Fstate} {b : Int} {maxLength : Nat}

/-- The nodes from one on that the next hops to `b` lead through; an entry of -1 drops, and a missing one. -/
inductive Reaches (fstate : Fstate) (b : Int) : Int → List Int → Prop where
  | arrived : Reaches fstate b b [b]
  | hop {cur next : Int} {path : List Int} (hne : cur ≠ b) (hlookup : fstate.lookup (cur, b) = some next)
      (hnext : next ≠ -1) (hrest : Reaches fstate b next path) : Reaches fstate b cur (cur :: path)

theorem Reaches.head {a : Int} {path : List Int} (h : Reaches fstate b a path) : ∃ rest, path = a :: rest := by
  cases h with
  | arrived => exact ⟨[], rfl⟩
  | hop => exact ⟨_, rfl⟩

/-- The loop finds the nodes that the next hops lead through, if they fit in. -/
theorem walkFrom_iff {path : List Int} {cur : Int} (hle : path.length ≤ maxLength + 1) {full : List Int} :
    walkFrom maxLength fstate b path cur = some full ↔
      ∃ rest, Reaches fstate b cur (cur :: rest) ∧ full = path ++ rest ∧ full.length ≤ maxLength + 1 := by
  fun_induction walkFrom maxLength fstate b path cur with
  | case1 path =>
    constructor
    · rintro ⟨⟩
      exact ⟨[], .arrived, (List.append_nil _).symm, hle⟩
    · rintro ⟨rest, hreaches, rfl, -⟩
      cases hreaches with
      | arrived => rw [List.append_nil]
      | hop hne => exact absurd rfl hne
  | case2 path cur hne next hend =>
    simp only [reduceCtorEq, false_iff]
    rintro ⟨rest, hreaches, rfl, hlen⟩
    cases hreaches with
    | arrived => exact hne rfl
    | hop _ hlookup hnext hrest =>
      obtain ⟨rest', rfl⟩ := hrest.head
      -- the loop gives up for a drop or for the length, neither of which a path that fits has
      rcases hend with hdrop | hlong
      · refine hnext (Eq.trans ?_ hdrop)
        show _ = (fstate.lookup (cur, b)).getD (-1)
        rw [hlookup]
        rfl
      · rw [List.length_append, List.length_cons] at hlen
        omega
  | case3 path cur hne next hgo ih =>
    rw [not_or] at hgo
    have hlookup : fstate.lookup (cur, b) = some next := by
      have hnext : next = (fstate.lookup (cur, b)).getD (-1) := rfl
      cases hl : fstate.lookup (cur, b) with
      | none =>
        rw [hl] at hnext
        exact absurd hnext hgo.1
      | some value =>
        rw [hl] at hnext
        rw [hnext]
        rfl
    rw [ih (by rw [List.length_append, List.length_singleton]; omega)]
    constructor
    · rintro ⟨rest, hreaches, rfl, hlen⟩
      exact ⟨next :: rest, .hop hne hlookup hgo.1 hreaches, by rw [List.append_assoc]; rfl, hlen⟩
    · rintro ⟨rest, hreaches, rfl, hlen⟩
      cases hreaches with
      | arrived => exact absurd rfl hne
      | hop _ hlookup' _ hrest =>
        cases hlookup.symm.trans hlookup'
        obtain ⟨rest', rfl⟩ := hrest.head
        exact ⟨rest', hrest, by rw [List.append_assoc]; rfl, hlen⟩

/-- A script finds the path to a node exactly if the next hops lead there on a path that is not too long. -/
theorem walk_iff {script : Script} {a : Int} {path : List Int} : walk script fstate a b = some path ↔
    Reaches fstate b a path ∧ path.length ≤ script.maxLength + 1 := by
  unfold walk
  rw [walkFrom_iff (by rw [List.length_singleton]; omega)]
  constructor
  · rintro ⟨rest, hreaches, rfl, hlen⟩
    exact ⟨hreaches, hlen⟩
  · rintro ⟨hreaches, hlen⟩
    obtain ⟨rest, rfl⟩ := hreaches.head
    exact ⟨rest, hreaches, rfl, hlen⟩

/-- The two scripts find the same path from `a` to `b`, and each finds exactly the one that the next hops lead along. -/
def WalkersAgree (fstate : Fstate) (a b : Int) : Prop :=
  walk .pathTruth fstate a b = walk .vizPath fstate a b ∧
    ∀ script path, walk script fstate a b = some path ↔ Reaches fstate b a path

/-- They do so exactly if the destination is not more than 200 hops away. -/
theorem walkersAgree_iff (fstate : Fstate) (a b : Int) :
    WalkersAgree fstate a b ↔ ∀ path, Reaches fstate b a path → path.length ≤ 200 + 1 := by
  constructor
  · rintro ⟨-, hcomplete⟩ path hreaches
    exact (walk_iff.1 ((hcomplete .pathTruth path).2 hreaches)).2
  · intro hshort
    have hcomplete : ∀ script path, walk script fstate a b = some path ↔ Reaches fstate b a path := by
      intro script path
      rw [walk_iff, and_iff_left_iff_imp]
      intro hreaches
      have hlen := hshort path hreaches
      cases script with
      | pathTruth => exact hlen
      | vizPath => exact Nat.le_trans hlen (by decide)
    refine ⟨?_, hcomplete⟩
    cases h : walk .vizPath fstate a b with
    | some path => exact (hcomplete .pathTruth path).2 ((hcomplete .vizPath path).1 h)
    | none =>
      rw [Option.eq_none_iff_forall_not_mem]
      intro path hpath
      rw [(hcomplete .vizPath path).2 ((hcomplete .pathTruth path).1 hpath)] at h
      cases h

/-- The nodes 0, 1, 2 and so on, each with the one after it as its next hop to `b`. -/
def lineTable (b : Int) : Nat → Fstate
  | 0 => ∅
  | n + 1 => (lineTable b n).insert ((n : Int), b) (n + 1)

theorem lookup_lineTable {n i : Nat} (h : i < n) : (lineTable b n).lookup ((i : Int), b) = some ((i : Int) + 1) := by
  induction n with
  | zero => omega
  | succ n ih =>
    unfold lineTable
    by_cases hi : i = n
    · subst hi
      exact AList.lookup_insert _
    · rw [AList.lookup_insert_ne (by simpa using hi)]
      exact ih (by omega)

theorem reaches_lineTable (n : Nat) : ∀ k, k ≤ n →
    ∃ path, Reaches (lineTable n n) n ((n - k : Nat) : Int) path ∧ path.length = k + 1
  | 0, _ => ⟨[(n : Int)], .arrived, rfl⟩
  | k + 1, hk => by
    obtain ⟨path, hpath, hlen⟩ := reaches_lineTable n k (by omega)
    have hcast : (((n - (k + 1) : Nat) : Int) + 1) = ((n - k : Nat) : Int) := by omega
    refine ⟨((n - (k + 1) : Nat) : Int) :: path, .hop (by omega) (lookup_lineTable (by omega)) (by omega) ?_, ?_⟩
    · rw [hcast]
      exact hpath
    · rw [List.length_cons, hlen]

/-- A line of 202 nodes: the destination is 201 hops away. -/
theorem walkersAgree_counterexample : ¬ WalkersAgree (lineTable 201 201) 0 201 := by
  rintro ⟨-, hcomplete⟩
  obtain ⟨path, hreaches, hlen⟩ := reaches_lineTable 201 201 le_rfl
  have hshort := (walk_iff.1 ((hcomplete .pathTruth path).2 hreaches)).2
  rw [hlen] at hshort
  exact absurd hshort (by decide)

end Walk

/-! ## The column `path_changed` -/

/-- What `walk` gives for the two directions. -/
abbrev PathPair := Option (List Int) × Option (List Int)

/-- The two paths, unless one is missing. -/
def bothPaths (pair : PathPair) : Option (List Int × List Int) := pair.1.bind fun pf => pair.2.map fun pr => (pf, pr)

theorem bothPaths_eq_some {pair : PathPair} {paths : List Int × List Int} :
    bothPaths pair = some paths ↔ pair = (some paths.1, some paths.2) := by
  obtain ⟨pf, pr⟩ := pair
  obtain ⟨qf, qr⟩ := paths
  cases pf <;> cases pr <;> simp [bothPaths]

namespace PathTruth

/-- A line of the output: with both paths also the hops forward and back, the RTT, and the path forward. -/
structure Row (φ : Type) where
  tNs : Int
  paths : Option (Nat × Nat × φ × List Int)
  pathChanged : Nat
  deriving Repr, DecidableEq

/-- The variables of `main`, and the lines written so far. -/
structure State (φ : Type) where
  fstate : Fstate
  prev : Option (List Int × List Int)
  rows : List (Row φ)

section Main

variable {φ : Type} (maxStrDigits : Nat) (rttPropMs : Int → List Int → List Int → Except Python.Error φ) (src dst : Int)

/-- One round of the loop of `main`, for the file of a time. -/
def step (st : State φ) (file : Int × Str) : Except Python.Error (State φ) := do
  let fstate ← loadFile .pathTruth maxStrDigits st.fstate file.2
  let pf := walk .pathTruth fstate src dst
  let pr := walk .pathTruth fstate dst src
  match bothPaths (pf, pr) with
  -- the variable is reset, so the next step has nothing to compare with
  | none => .ok ⟨fstate, none, st.rows ++ [⟨file.1, none, 1⟩]⟩
  | some (pf, pr) =>
    let rtt ← rttPropMs file.1 pf pr
    let changed := if st.prev ≠ none ∧ st.prev ≠ some (pf, pr) then 1 else 0
    .ok ⟨fstate, some (pf, pr), st.rows ++ [⟨file.1, some (pf.length - 1, pr.length - 1, rtt, pf), changed⟩]⟩

/-- The lines that `main` writes for the files in the order of their times. -/
def main (files : List (Int × Str)) : Except Python.Error (List (Row φ)) := do
  let st ← forEach (step maxStrDigits rttPropMs src dst) files ⟨∅, none, []⟩
  .ok st.rows

/-- The two paths at one more step. -/
def recordPair (st : Fstate × List PathPair) (file : Int × Str) : Except Python.Error (Fstate × List PathPair) := do
  let fstate ← loadFile .pathTruth maxStrDigits st.1 file.2
  .ok (fstate, st.2 ++ [(walk .pathTruth fstate src dst, walk .pathTruth fstate dst src)])

/-- The two paths at every step, or none. -/
def pathPairs (files : List (Int × Str)) : Except Python.Error (List PathPair) := do
  let (_, pairs) ← forEach (recordPair maxStrDigits src dst) files (∅, [])
  .ok pairs

end Main

/-- The flag of a step, from its paths and those of the step before. -/
def flag (before : Option PathPair) (pair : PathPair) : Nat :=
  match bothPaths pair with
  | none => 1
  | some paths => if before.bind bothPaths ≠ none ∧ before.bind bothPaths ≠ some paths then 1 else 0

/-- The paths of the step before. -/
def before (pairs : List PathPair) (i : Nat) : Option PathPair := if i = 0 then none else pairs[i - 1]?

/-- The lines are those of the steps so far. -/
structure Follows {φ : Type} (pairs : List PathPair) (st : State φ) : Prop where
  length : st.rows.length = pairs.length
  prev : st.prev = pairs.getLast?.bind bothPaths
  flags : ∀ i row pair, st.rows[i]? = some row → pairs[i]? = some pair → row.pathChanged = flag (before pairs i) pair

variable {φ : Type} {maxStrDigits : Nat} {rttPropMs : Int → List Int → List Int → Except Python.Error φ} {src dst : Int}

theorem before_append {pairs : List PathPair} {i : Nat} (hi : i ≤ pairs.length) (pair : PathPair) :
    before (pairs ++ [pair]) i = before pairs i := by
  unfold before
  split
  · rfl
  · rw [List.getElem?_append_left (by omega)]

theorem before_length (pairs : List PathPair) : before pairs pairs.length = pairs.getLast? := by
  unfold before
  rw [List.getLast?_eq_getElem?]
  split
  · rename_i h
    rw [List.length_eq_zero_iff.1 h]
    rfl
  · rfl

theorem Follows.append {pairs : List PathPair} {st st' : State φ} (h : Follows pairs st) {pair : PathPair}
    {row : Row φ} (hrows : st'.rows = st.rows ++ [row]) (hprev : st'.prev = bothPaths pair)
    (hflag : row.pathChanged = flag (pairs.getLast?) pair) : Follows (pairs ++ [pair]) st' := by
  refine ⟨?_, ?_, ?_⟩
  · rw [hrows, List.length_append, List.length_append, h.length]
    rfl
  · rw [hprev, List.getLast?_concat]
    rfl
  · intro i row' pair' hrow hpair
    rw [hrows] at hrow
    rcases Nat.lt_trichotomy i pairs.length with hi | hi | hi
    · rw [before_append (by omega)]
      rw [List.getElem?_append_left (by rw [h.length]; exact hi)] at hrow
      rw [List.getElem?_append_left hi] at hpair
      exact h.flags i row' pair' hrow hpair
    · -- the new line
      subst hi
      rw [← h.length, List.getElem?_concat_length] at hrow
      rw [List.getElem?_concat_length] at hpair
      cases hrow
      cases hpair
      rw [before_append le_rfl, before_length, hflag]
    · rw [List.getElem?_eq_none (by rw [List.length_append, List.length_singleton]; omega)] at hpair
      cases hpair

theorem Follows.step {pairs : List PathPair} {st st' : State φ} {file : Int × Str} (h : Follows pairs st)
    (hstep : step maxStrDigits rttPropMs src dst st file = .ok st') :
    ∃ pair, recordPair maxStrDigits src dst (st.fstate, pairs) file = .ok (st'.fstate, pairs ++ [pair]) ∧
      Follows (pairs ++ [pair]) st' := by
  unfold PathTruth.step at hstep
  obtain ⟨fstate, hload, hstep⟩ := bind_ok hstep
  have hrecord : recordPair maxStrDigits src dst (st.fstate, pairs) file =
      .ok (fstate, pairs ++ [(walk .pathTruth fstate src dst, walk .pathTruth fstate dst src)]) := by
    unfold recordPair
    rw [hload, ok_bind]
  cases hboth : bothPaths (walk .pathTruth fstate src dst, walk .pathTruth fstate dst src) with
  | none =>
    simp only [hboth] at hstep
    cases hstep
    refine ⟨_, hrecord, h.append rfl hboth.symm ?_⟩
    unfold flag
    rw [hboth]
  | some paths =>
    simp only [hboth] at hstep
    obtain ⟨rtt, -, hstep⟩ := bind_ok hstep
    cases hstep
    refine ⟨_, hrecord, h.append rfl hboth.symm ?_⟩
    unfold flag
    rw [hboth, ← h.prev]

theorem follows_main {files : List (Int × Str)} {rows : List (Row φ)}
    (h : main maxStrDigits rttPropMs src dst files = .ok rows) : ∃ pairs,
      pathPairs maxStrDigits src dst files = .ok pairs ∧ rows.length = pairs.length ∧
      ∀ i row pair, rows[i]? = some row → pairs[i]? = some pair → row.pathChanged = flag (before pairs i) pair := by
  obtain ⟨st, hloop, hrows⟩ := bind_ok h
  cases hrows
  obtain ⟨pairs, hpairs, hfollows⟩ := forEach_pre _ (fun done st => ∃ pairs,
    forEach (recordPair maxStrDigits src dst) done (∅, []) = .ok (st.fstate, pairs) ∧ Follows pairs st)
    (fun done st file st' ⟨pairs, hpairs, hfollows⟩ hstep => by
      obtain ⟨pair, hrecord, hfollows'⟩ := hfollows.step hstep
      refine ⟨pairs ++ [pair], ?_, hfollows'⟩
      rw [forEach_append, hpairs, ok_bind, forEach, hrecord]
      rfl) files [] _ st ⟨[], rfl, ⟨rfl, rfl, nofun⟩⟩ hloop
  refine ⟨pairs, ?_, hfollows.length, hfollows.flags⟩
  rw [List.nil_append] at hpairs
  unfold pathPairs
  rw [hpairs, ok_bind]

/-- The paths are not those of the step before. -/
def ChangedAt (pairs : List PathPair) (i : Nat) : Prop := 0 < i ∧ pairs[i - 1]? ≠ pairs[i]?

/-- A path is missing in one direction. -/
def OutageAt (pairs : List PathPair) (i : Nat) : Prop := ∃ pair, pairs[i]? = some pair ∧ bothPaths pair = none

/-- The flag says what it is to say exactly if a step without a path is not the first one and has not the same paths as
the one before it, and a step with both paths is the first one or comes after another one with both. -/
theorem flag_iff {pairs : List PathPair} {i : Nat} {pair : PathPair} (hpair : pairs[i]? = some pair) :
    (flag (before pairs i) pair = 1 ↔ ChangedAt pairs i) ↔
      (OutageAt pairs i → ChangedAt pairs i) ∧ (¬ OutageAt pairs i → i = 0 ∨ ¬ OutageAt pairs (i - 1)) := by
  have hlt : i < pairs.length := (List.getElem?_eq_some_iff.1 hpair).1
  have houtage : OutageAt pairs i ↔ bothPaths pair = none := by
    unfold OutageAt
    rw [hpair]
    simp
  unfold flag
  cases hboth : bothPaths pair with
  | none => simp [houtage, hboth]
  | some paths =>
    simp only [houtage, hboth, reduceCtorEq, false_imp_iff, true_and, not_false_eq_true, true_imp_iff]
    by_cases hi : i = 0
    · subst hi
      simp [before, ChangedAt]
    · have hprev : pairs[i - 1]? = some pairs[i - 1] := List.getElem?_eq_getElem (by omega)
      have hbefore : OutageAt pairs (i - 1) ↔ bothPaths pairs[i - 1] = none := by
        unfold OutageAt
        rw [hprev]
        simp
      have hchanged : ChangedAt pairs i ↔ pairs[i - 1] ≠ pair := by
        unfold ChangedAt
        rw [hprev, hpair]
        simp [Nat.pos_iff_ne_zero, hi]
      unfold before
      rw [if_neg hi, hprev, hbefore, hchanged, Option.bind_some]
      cases hq : bothPaths pairs[i - 1] with
      | none =>
        -- the paths have come back, and the flag is 0
        have hne : pairs[i - 1] ≠ pair := by
          intro heq
          rw [heq, hboth] at hq
          cases hq
        simp [hne, hi]
      | some paths' =>
        have heq : paths' = paths ↔ pairs[i - 1] = pair := by
          constructor
          · rintro rfl
            exact (bothPaths_eq_some.1 hq).trans (bothPaths_eq_some.1 hboth).symm
          · rintro heq
            rw [heq, hboth] at hq
            cases hq
            rfl
        simp [heq]

/-- In every run, a line's flag says what the column is for exactly if a step without a path is not the first one and
has not the paths of the step before it, and a step with both paths does not follow one without. -/
theorem pathChanged_iff {files : List (Int × Str)} {rows : List (Row φ)}
    (h : main maxStrDigits rttPropMs src dst files = .ok rows) : ∃ pairs,
      pathPairs maxStrDigits src dst files = .ok pairs ∧ rows.length = pairs.length ∧
      ∀ i row, rows[i]? = some row → ((row.pathChanged = 1 ↔ ChangedAt pairs i) ↔
        (OutageAt pairs i → ChangedAt pairs i) ∧ (¬ OutageAt pairs i → i = 0 ∨ ¬ OutageAt pairs (i - 1))) := by
  obtain ⟨pairs, hpairs, hlength, hflags⟩ := follows_main h
  refine ⟨pairs, hpairs, hlength, fun i row hrow => ?_⟩
  have hlt : i < pairs.length := by
    rw [← hlength]
    exact (List.getElem?_eq_some_iff.1 hrow).1
  rw [hflags i row pairs[i] hrow (List.getElem?_eq_getElem hlt)]
  exact flag_iff (List.getElem?_eq_getElem hlt)

/-- Two neighbours that drop each other's packets at first, and then have their link. -/
def recoveryFiles : List (Int × Str) :=
  [(0, "0,1,-1,-1,-1\n1,0,-1,-1,-1\n".toList), (100000000, "0,1,1,0,0\n1,0,0,0,0\n".toList)]

def droppedTable : Fstate := ((∅ : Fstate).insert (0, 1) (-1)).insert (1, 0) (-1)

def linkedTable : Fstate := (droppedTable.insert (0, 1) 1).insert (1, 0) 0

theorem loadFile_recovery :
    loadFile .pathTruth 4300 ∅ "0,1,-1,-1,-1\n1,0,-1,-1,-1\n".toList = .ok droppedTable ∧
      loadFile .pathTruth 4300 droppedTable "0,1,1,0,0\n1,0,0,0,0\n".toList = .ok linkedTable :=
  ⟨rfl, rfl⟩

theorem walk_dropped : walk .pathTruth droppedTable 0 1 = none := by
  have hlookup : (droppedTable.lookup (0, 1)).getD (-1) = -1 := by decide
  unfold walk
  rw [walkFrom, if_neg (by decide)]
  simp only [hlookup, true_or, if_true]

theorem walk_linked : walk .pathTruth linkedTable 0 1 = some [0, 1] ∧ walk .pathTruth linkedTable 1 0 = some [1, 0] :=
  ⟨walk_iff.2 ⟨.hop (by decide) (by decide) (by decide) .arrived, by decide⟩,
    walk_iff.2 ⟨.hop (by decide) (by decide) (by decide) .arrived, by decide⟩⟩

theorem main_recovery : main 4300 (fun _ _ _ => .ok ()) 0 1 recoveryFiles =
    .ok [⟨0, none, 1⟩, ⟨100000000, some (1, 1, (), [0, 1]), 0⟩] := by
  have hnone : bothPaths (walk .pathTruth droppedTable 0 1, walk .pathTruth droppedTable 1 0) = none := by
    rw [walk_dropped]
    rfl
  unfold main recoveryFiles
  simp only [forEach, step, loadFile_recovery.1, loadFile_recovery.2, ok_bind, hnone, walk_linked.1, walk_linked.2]
  rfl

/-- The first step is flagged although there is none before it, and the recovery is not although it has new paths. -/
theorem pathChanged_counterexample : ∃ pairs, pathPairs 4300 0 1 recoveryFiles = .ok pairs ∧
    ¬ ChangedAt pairs 0 ∧ ChangedAt pairs 1 ∧
    main 4300 (fun _ _ _ => .ok ()) 0 1 recoveryFiles =
      .ok [⟨0, none, 1⟩, ⟨100000000, some (1, 1, (), [0, 1]), 0⟩] := by
  refine ⟨[(none, walk .pathTruth droppedTable 1 0), (some [0, 1], some [1, 0])], ?_, fun h => absurd h.1 (by decide),
    ⟨by decide, by simp⟩, main_recovery⟩
  unfold pathPairs recoveryFiles
  simp only [forEach, recordPair, loadFile_recovery.1, loadFile_recovery.2, ok_bind, walk_dropped, walk_linked.1,
    walk_linked.2]
  rfl

theorem pathChanged_iff_recovery : ∃ pairs, pathPairs 4300 0 1 recoveryFiles = .ok pairs ∧ 2 = pairs.length ∧
    ∀ i row, [(⟨0, none, 1⟩ : Row Unit), ⟨100000000, some (1, 1, (), [0, 1]), 0⟩][i]? = some row →
      ((row.pathChanged = 1 ↔ ChangedAt pairs i) ↔
        (OutageAt pairs i → ChangedAt pairs i) ∧ (¬ OutageAt pairs i → i = 0 ∨ ¬ OutageAt pairs (i - 1))) :=
  pathChanged_iff main_recovery

end PathTruth

end SatNet.Satellite
