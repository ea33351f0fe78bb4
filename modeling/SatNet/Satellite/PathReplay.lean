/-
The offline replay of the forwarding-state files by the scripts `path_truth.py` and `viz_path.py`. Both load the files
into a dictionary line by line, as the simulator loads them into its arbiters, and follow the next hops from there. They
read a file exactly if no line has a carriage return, which the simulator takes for a blank in front of a number, and no
number has more digits than the interpreter converts; then the dictionary has the next hops of the arbiters, and a path
that is found is the way that a packet goes.
-/
import SatNet.Base.Python
import SatNet.Lib.Hops
import SatNet.Satellite.Delivery
import Mathlib.Data.List.AList

namespace SatNet.Satellite

open SatNet.Loop SatNet.Device SatNet.ExpUtil

variable {M : Type}

/-! ## The scripts -/

/-- The dictionary `fstate`: the next hop of a node to a target. -/
abbrev Fstate := AList fun _ : Int × Int => Int

/-- `a, d, nh, _, _ = line.strip().split(",")` -/
def PathTruth.unpack (line : Str) : Except Python.Error (Str × Str × Str) :=
  match Python.split (Python.strip line) ',' with
  | [a, d, nh, _, _] => .ok (a, d, nh)
  | _ => .error .valueError

/-- `cur, dst, nh = line.strip().split(",")[:3]` -/
def VizPath.unpack (line : Str) : Except Python.Error (Str × Str × Str) :=
  match (Python.split (Python.strip line) ',').take 3 with
  | [cur, dst, nh] => .ok (cur, dst, nh)
  | _ => .error .valueError

inductive Script where
  | pathTruth
  | vizPath
  deriving Repr, DecidableEq

def Script.unpack : Script → Str → Except Python.Error (Str × Str × Str)
  | .pathTruth => PathTruth.unpack
  | .vizPath => VizPath.unpack

/-- The length from which on a path is given up. -/
def Script.maxLength : Script → Nat
  | .pathTruth => 200
  | .vizPath => 500

section Load

variable (script : Script) (maxStrDigits : Nat)

/-- The key and the value of a line. -/
def readHop (line : Str) : Except Python.Error ((Int × Int) × Int) := do
  let (a, d, nh) ← script.unpack line
  let nh ← Python.int maxStrDigits nh
  let a ← Python.int maxStrDigits a
  let d ← Python.int maxStrDigits d
  .ok ((a, d), nh)

def loadLine (fstate : Fstate) (line : Str) : Except Python.Error Fstate := do
  let hop ← readHop script maxStrDigits line
  .ok (fstate.insert hop.1 hop.2)

def loadFile (fstate : Fstate) (text : Str) : Except Python.Error Fstate :=
  forEach (loadLine script maxStrDigits) (Python.fileLines text) fstate

/-- The files in the order of their times. -/
def replay (texts : List Str) : Except Python.Error Fstate := forEach (loadFile script maxStrDigits) texts ∅

end Load

/-- The loop of `walk`, at `cur` at the end of `path`. -/
def walkFrom (maxLength : Nat) (fstate : Fstate) (b : Int) (path : List Int) (cur : Int) : Option (List Int) :=
  if cur = b then some path
  else
    let next := (fstate.lookup (cur, b)).getD (-1)
    if next = -1 ∨ maxLength < path.length then none
    else walkFrom maxLength fstate b (path ++ [next]) next
termination_by maxLength + 1 - path.length
decreasing_by
  rw [List.length_append, List.length_singleton]
  omega

def walk (script : Script) (fstate : Fstate) (a b : Int) : Option (List Int) :=
  walkFrom script.maxLength fstate b [a] a

/-! ## Lines -/

/-- The scripts can read the line: no carriage return ends it early, and none of its numbers has too many digits. -/
def Readable (maxStrDigits : Nat) (line : Str) : Prop :=
  '\r' ∉ line ∧ ∀ field ∈ (line.splitOn ',').take 3, maxStrDigits = 0 ∨
    (field.filter Char.isDigit).length ≤ maxStrDigits

/-- What a line of the simulator sets in the dictionary. -/
def Line.hop (l : Line) : (Int × Int) × Int := ((l.currentNodeId, l.targetNodeId), l.nextHopNodeId)

theorem readLine_ok {s : Str} {l : Line} (h : readLine s = .ok l) : ∃ (f₀ f₁ f₂ f₃ f₄ : Str) (v : Int),
    s.splitOn ',' = [f₀, f₁, f₂, f₃, f₄] ∧ parseInt64 f₀ = .ok (l.currentNodeId : Int) ∧
      parseInt64 f₁ = .ok (l.targetNodeId : Int) ∧ parseInt64 f₂ = .ok l.nextHopNodeId ∧ parseInt64 f₄ = .ok v := by
  have hpositive : ∀ {f : Str} {n : Nat}, parsePositiveInt64 f = .ok n → parseInt64 f = .ok (n : Int) := by
    intro f n hf
    obtain ⟨v, hv, hf⟩ := bind_ok hf
    split at hf
    · cases hf
    · cases hf
      rw [hv, Int.toNat_of_nonneg (by omega)]
  obtain ⟨commaSplit, hsplit, h⟩ := bind_ok h
  obtain ⟨hsep, hlen⟩ := splitStringExpected_ok.1 hsplit
  match commaSplit, hlen with
  | [f₀, f₁, f₂, f₃, f₄], _ =>
    obtain ⟨current, hcurrent, h⟩ := bind_ok h
    cases hcurrent
    obtain ⟨currentNodeId, h₀, h⟩ := bind_ok h
    obtain ⟨target, htarget, h⟩ := bind_ok h
    cases htarget
    obtain ⟨targetNodeId, h₁, h⟩ := bind_ok h
    obtain ⟨nextHop, hnextHop, h⟩ := bind_ok h
    cases hnextHop
    obtain ⟨nextHopNodeId, h₂, h⟩ := bind_ok h
    obtain ⟨myIf, hmyIf, h⟩ := bind_ok h
    cases hmyIf
    obtain ⟨myIfId, h₃, h⟩ := bind_ok h
    obtain ⟨nextIf, hnextIf, h⟩ := bind_ok h
    cases hnextIf
    obtain ⟨nextIfId, h₄, h⟩ := bind_ok h
    cases h
    exact ⟨f₀, f₁, f₂, f₃, f₄, nextIfId, (separates_iff.1 hsep).symm, hpositive h₀, hpositive h₁, h₂, h₄⟩

/-- An accepted line ends with a digit. -/
theorem readLine_last {s : Str} {l : Line} (h : readLine s = .ok l) : s.getLast? ≠ some '\r' := by
  obtain ⟨f₀, f₁, f₂, f₃, f₄, v, hsplit, -, -, -, h₄⟩ := readLine_ok h
  obtain ⟨blanks, sign, digits, rfl, -, -, hne, hd, -⟩ := parseInt64_spelled h₄
  obtain ⟨x, rfl⟩ : ∃ x, s = x ++ digits := by
    have hs := @List.intercalate_splitOn Char s _ _ ','
    rw [hsplit] at hs
    exact ⟨f₀ ++ ',' :: (f₁ ++ ',' :: (f₂ ++ ',' :: (f₃ ++ ',' :: (blanks ++ sign)))),
      by simpa [List.intercalate] using hs.symm⟩
  rw [List.getLast?_append_of_ne_nil _ hne]
  exact fun hlast => absurd (hd _ (List.mem_of_getLast? hlast)) (by simp)

section Lines

variable {script : Script} {maxStrDigits : Nat}

/-- Both scripts take the first three parts of five. -/
theorem unpack_five {s f₀ f₁ f₂ f₃ f₄ : Str} (h : s.splitOn ',' = [f₀, f₁, f₂, f₃, f₄]) :
    script.unpack s = .ok (f₀.dropWhile Python.isSpace, f₁, f₂) := by
  have hparts : Python.split (Python.strip s) ',' =
      [f₀.dropWhile Python.isSpace, f₁, f₂, f₃, f₄.rdropWhile Python.isSpace] := by
    obtain ⟨r₀, rfl, h₀, h⟩ := splitOn_cons_cons h
    obtain ⟨r₁, rfl, h₁, h⟩ := splitOn_cons_cons h
    obtain ⟨r₂, rfl, h₂, h⟩ := splitOn_cons_cons h
    obtain ⟨r₃, rfl, h₃, h⟩ := splitOn_cons_cons h
    obtain ⟨h₄, rfl⟩ := splitOn_singleton h
    rw [Python.strip_parts rfl, Python.rdropWhile_append_cons rfl, Python.rdropWhile_append_cons rfl]
    unfold Python.split
    rw [List.splitOn_append_cons_self_of_not_mem fun hm => h₀ ((List.dropWhile_suffix _).mem hm),
      List.splitOn_append_cons_self_of_not_mem h₁, List.splitOn_append_cons_self_of_not_mem h₂,
      List.splitOn_append_cons_self_of_not_mem h₃,
      List.splitOn_eq_singleton fun hm => h₄ ((List.rdropWhile_prefix _ _).mem hm)]
  cases script with
  | pathTruth =>
    show PathTruth.unpack s = _
    unfold PathTruth.unpack
    rw [hparts]
  | vizPath =>
    show VizPath.unpack s = _
    unfold VizPath.unpack
    rw [hparts]
    rfl

/-- What is unpacked are the first three parts, of three or more. -/
theorem unpack_ok {s a d nh : Str} (h : script.unpack s = .ok (a, d, nh)) :
    ∃ rest, Python.split (Python.strip s) ',' = a :: d :: nh :: rest := by
  cases script with
  | pathTruth =>
    change PathTruth.unpack s = _ at h
    unfold PathTruth.unpack at h
    split at h
    · rename_i hsplit
      cases h
      exact ⟨_, hsplit⟩
    · cases h
  | vizPath =>
    change VizPath.unpack s = _ at h
    unfold VizPath.unpack at h
    match hsplit : Python.split (Python.strip s) ',' with
    | [] => simp [hsplit] at h
    | [_] => simp [hsplit] at h
    | [_, _] => simp [hsplit] at h
    | a' :: d' :: nh' :: rest =>
      simp only [hsplit, List.take_succ_cons, List.take_zero] at h
      cases h
      exact ⟨rest, rfl⟩

/-- Of an accepted line, a script reads the same numbers if they do not have too many digits. -/
theorem readHop_line {s : Str} {l : Line} (h : readLine s = .ok l) {hop : (Int × Int) × Int} :
    readHop script maxStrDigits s = .ok hop ↔
      (∀ field ∈ (s.splitOn ',').take 3, maxStrDigits = 0 ∨ (field.filter Char.isDigit).length ≤ maxStrDigits) ∧
        hop = l.hop := by
  obtain ⟨f₀, f₁, f₂, f₃, f₄, v, hsplit, h₀, h₁, h₂, -⟩ := readLine_ok h
  obtain ⟨hint₀, hdrop⟩ := @Python.int_parseInt64 maxStrDigits _ _ h₀
  obtain ⟨hint₁, -⟩ := @Python.int_parseInt64 maxStrDigits _ _ h₁
  obtain ⟨hint₂, -⟩ := @Python.int_parseInt64 maxStrDigits _ _ h₂
  have hshort : ∀ n : Nat, (maxStrDigits = 0 ∨ n ≤ maxStrDigits) ↔ ¬ (maxStrDigits ≠ 0 ∧ maxStrDigits < n) := by omega
  unfold readHop
  rw [unpack_five hsplit, ok_bind]
  simp only [hdrop, hint₀, hint₁, hint₂, hsplit, List.take_succ_cons, List.take_zero, List.mem_cons, List.not_mem_nil,
    or_false, forall_eq_or_imp, forall_eq, hshort]
  constructor
  · intro hread
    obtain ⟨nh, hnh, hread⟩ := bind_ok hread
    obtain ⟨a, ha, hread⟩ := bind_ok hread
    obtain ⟨d, hd, hread⟩ := bind_ok hread
    obtain ⟨hs₂, hnh⟩ := ite_error_eq_ok.1 hnh
    obtain ⟨hs₀, ha⟩ := ite_error_eq_ok.1 ha
    obtain ⟨hs₁, hd⟩ := ite_error_eq_ok.1 hd
    cases hnh
    cases ha
    cases hd
    cases hread
    exact ⟨⟨hs₀, hs₁, hs₂⟩, rfl⟩
  · rintro ⟨⟨hs₀, hs₁, hs₂⟩, rfl⟩
    rw [if_neg hs₀, if_neg hs₁, if_neg hs₂]
    rfl

/-- A line that a script reads has two commas or more. -/
theorem readHop_commas {s : Str} {hop : (Int × Int) × Int} (h : readHop script maxStrDigits s = .ok hop) :
    2 ≤ s.count ',' := by
  obtain ⟨⟨a, d, nh⟩, hunpack, -⟩ := bind_ok h
  obtain ⟨rest, hsplit⟩ := unpack_ok hunpack
  have hlen := @Python.length_split ',' (Python.strip s)
  rw [hsplit, Python.count_strip rfl, List.length_cons, List.length_cons, List.length_cons] at hlen
  omega

/-- A line that ends in the blanks before its third number cannot be read. -/
theorem readHop_blank {f g blanks : Str} (hf : ',' ∉ f) (hg : ',' ∉ g) (hb : ∀ c ∈ blanks, isBlank c = true)
    (hop : (Int × Int) × Int) : readHop script maxStrDigits (f ++ ',' :: (g ++ ',' :: blanks)) ≠ .ok hop := by
  have hparts : Python.split (Python.strip (f ++ ',' :: (g ++ ',' :: blanks))) ',' = 
      [f.dropWhile Python.isSpace, g, []] := by
    rw [Python.strip_parts rfl, List.rdropWhile_eq_nil_iff.2 fun c hc => Python.isSpace_of_isBlank (hb c hc)]
    unfold Python.split
    rw [List.splitOn_append_cons_self_of_not_mem fun hm => hf ((List.dropWhile_suffix _).mem hm),
      List.splitOn_append_cons_self_of_not_mem hg, List.splitOn_nil]
  intro h
  obtain ⟨⟨a, d, nh⟩, hunpack, h⟩ := bind_ok h
  obtain ⟨nh', hnh, -⟩ := bind_ok h
  obtain ⟨rest, hsplit⟩ := unpack_ok hunpack
  rw [hparts] at hsplit
  cases hsplit
  rw [Python.int_blanks (by simp)] at hnh
  cases hnh

/-- Of an accepted line with a carriage return, one of the pieces cannot be read: each needs two of the four commas, and
then the first one ends in the blanks before the third number. -/
theorem readHop_return {s : Str} {l : Line} (h : readLine s = .ok l) (hcr : '\r' ∈ s) :
    ∃ piece ∈ s.splitOn '\r', ∀ hop, readHop script maxStrDigits piece ≠ .ok hop := by
  obtain ⟨f₀, f₁, f₂, f₃, f₄, v, hsplit, -, -, h₂, -⟩ := readLine_ok h
  have hcount : s.count ',' = 4 := by
    have hlen := @Python.length_split ',' s
    unfold Python.split at hlen
    rw [hsplit] at hlen
    simpa using hlen.symm
  obtain ⟨first, r, rfl, hfirst⟩ := List.eq_append_cons_of_mem hcr
  rw [List.splitOn_append_cons_self_of_not_mem hfirst]
  by_contra hall
  push Not at hall
  obtain ⟨hop₁, hread₁⟩ := hall first (List.mem_cons_self ..)
  -- the second piece is the beginning of the rest, whose commas are those that the first one leaves
  obtain ⟨second, rest, hrest⟩ := List.exists_cons_of_ne_nil (List.splitOn_ne_nil '\r' r)
  obtain ⟨hop₂, hread₂⟩ := hall second (by rw [hrest]; simp)
  have hle : second.count ',' ≤ r.count ',' := (prefix_of_splitOn hrest).sublist.count_le _
  have hthree : (first.splitOn ',').length = 3 := by
    have hcommas₁ := readHop_commas hread₁
    have hcommas₂ := readHop_commas hread₂
    have hlen := @Python.length_split ',' first
    unfold Python.split at hlen
    rw [List.count_append, List.count_cons_of_ne (by simp)] at hcount
    omega
  obtain ⟨g₀, g₁, g₂, hg⟩ := List.length_eq_three.1 hthree
  obtain ⟨r₀, rfl, h₀, hg⟩ := splitOn_cons_cons hg
  obtain ⟨r₁, rfl, h₁, hg⟩ := splitOn_cons_cons hg
  have hno : ',' ∉ g₂ ∧ r₁ = g₂ := splitOn_singleton hg
  obtain ⟨hno, rfl⟩ := hno
  -- so the third part of the line starts with what the first piece has behind its commas
  obtain ⟨third, parts, hr⟩ := List.exists_cons_of_ne_nil (List.splitOn_ne_nil ',' r)
  have hthird : f₂ = r₁ ++ '\r' :: third := by
    rw [List.append_assoc, List.cons_append, List.append_assoc, List.cons_append,
      List.splitOn_append_cons_self_of_not_mem h₀,
      List.splitOn_append_cons_self_of_not_mem h₁, splitOn_append_of_not_mem hno, List.splitOn_cons_eq_if_modifyHead,
        if_neg (by simp), hr] at hsplit
    simp only [List.modifyHead_cons, List.cons.injEq] at hsplit
    exact hsplit.2.2.1.symm
  rw [hthird] at h₂
  exact readHop_blank h₀ h₁ (Python.parseInt64_return h₂) hop₁ hread₁

end Lines

/-! ## Files -/

/-- The states after any sequence of accepted files, with the texts of the files. -/
inductive LoadedFiles (sim : BasicSimulation) (net : Network M) : List Str → ForwardingState → Prop where
  | init : LoadedFiles sim net [] (initialEmptyForwardingState net.nodes.length)
  | update {texts state} (intervalNs t : Int) (text : Str) (state' : ForwardingState) (next : Option Int) :
      LoadedFiles sim net texts state → fstateLines sim t = .ok (Python.getlines text) →
      updateForwardingState sim net intervalNs t state = .ok (state', next) →
      LoadedFiles sim net (texts ++ [text]) state'

theorem LoadedFiles.loaded {sim : BasicSimulation} {net : Network M} {texts : List Str} {state : ForwardingState}
    (h : LoadedFiles sim net texts state) : Loaded sim net (texts.flatMap Python.getlines) state := by
  induction h with
  | init => exact .init
  | update intervalNs t text state' next _ hlines hrun ih =>
    rw [List.flatMap_append, List.flatMap_singleton]
    exact .update intervalNs t _ state' next ih hlines hrun

/-- The dictionary after some lines were read. -/
def table (hops : List ((Int × Int) × Int)) : Fstate := hops.foldl (fun fstate hop => fstate.insert hop.1 hop.2) ∅

theorem lookup_table (hops : List ((Int × Int) × Int)) (key : Int × Int) :
    (table hops).lookup key = ((hops.filter fun hop => hop.1 = key).getLast?).map Prod.snd := by
  induction hops using List.reverseRecOn with
  | nil => rfl
  | append_singleton hops hop ih =>
    have htable : table (hops ++ [hop]) = (table hops).insert hop.1 hop.2 := List.foldl_concat ..
    rw [htable, List.filter_append]
    by_cases hkey : hop.1 = key
    · subst hkey
      rw [AList.lookup_insert, List.filter_cons_of_pos (by simp), List.filter_nil, List.getLast?_concat]
      rfl
    · rw [AList.lookup_insert_ne (Ne.symm hkey), ih, List.filter_cons_of_neg (by simpa using hkey), List.filter_nil,
        List.append_nil]

section Read

variable {script : Script} {maxStrDigits : Nat} {texts : List Str} {ls : List Line}

/-- A loop over the lines reads all of them. -/
theorem replay_ok {fstate : Fstate} : replay script maxStrDigits texts = .ok fstate ↔
    ∃ hops, List.Forall₂ (fun line hop => readHop script maxStrDigits line = .ok hop) (texts.flatMap Python.fileLines) hops ∧
      fstate = table hops := by
  have hloop : replay script maxStrDigits texts = forEach (loadLine script maxStrDigits) (texts.flatMap Python.fileLines) ∅ :=
    (forEach_flatMap ..).symm
  rw [hloop]
  exact forEach_read (readHop script maxStrDigits) _ _ _ _

/-- The lines of the accepted files for a script: those of the simulator, cut at each carriage return. -/
theorem fileLines_read (h : List.Forall₂ (fun s l => readLine s = .ok l) (texts.flatMap Python.getlines) ls) :
    List.Forall₂ Python.SameLine (texts.flatMap Python.fileLines)
      ((texts.flatMap Python.getlines).flatMap (·.splitOn '\r')) := by
  have hlast : ∀ text ∈ texts, ∀ s ∈ Python.getlines text, s.getLast? ≠ some '\r' := by
    intro text htext s hs
    obtain ⟨l, -, hl⟩ := forall₂_mem_left h s (List.mem_flatMap.2 ⟨text, htext, hs⟩)
    exact readLine_last hl
  clear h
  induction texts with
  | nil => exact .nil
  | cons text texts ih =>
    rw [List.flatMap_cons, List.flatMap_cons, List.flatMap_append]
    exact List.rel_append (Python.fileLines_sameLine (hlast text (List.mem_cons_self ..)))
      (ih fun t ht => hlast t (List.mem_cons_of_mem _ ht))

theorem readHop_sameLine {line l : Str} (h : Python.SameLine line l) :
    readHop script maxStrDigits line = readHop script maxStrDigits l := by
  have hunpack : script.unpack line = script.unpack l := by
    cases script with
    | pathTruth =>
      show PathTruth.unpack line = PathTruth.unpack l
      unfold PathTruth.unpack
      rw [h.strip]
    | vizPath =>
      show VizPath.unpack line = VizPath.unpack l
      unfold VizPath.unpack
      rw [h.strip]
  unfold readHop
  rw [hunpack]

/-- Readable lines give what the simulator reads. -/
theorem forall₂_readHop {lines written : List Str} (hsame : List.Forall₂ Python.SameLine lines written)
    (hread : List.Forall₂ (fun s l => readLine s = .ok l) written ls) (h : ∀ s ∈ written, Readable maxStrDigits s)
    {hops : List ((Int × Int) × Int)} :
    List.Forall₂ (fun line hop => readHop script maxStrDigits line = .ok hop) lines hops ↔ hops = ls.map Line.hop := by
  induction hsame generalizing ls hops with
  | nil =>
    cases hread
    rw [List.forall₂_nil_left_iff, List.map_nil]
  | @cons line s lines written hline _ ih =>
    cases hread with
    | @cons _ l _ ls hl hrest =>
      have hhop : ∀ hop, readHop script maxStrDigits line = .ok hop ↔ hop = l.hop := fun hop => by
        rw [readHop_sameLine hline, readHop_line hl]
        exact and_iff_right (h s (List.mem_cons_self ..)).2
      simp only [List.forall₂_cons_left_iff, hhop, ih hrest fun s hs => h s (List.mem_cons_of_mem _ hs), List.map_cons]
      constructor
      · rintro ⟨_, _, rfl, rfl, rfl⟩
        rfl
      · rintro rfl
        exact ⟨_, _, rfl, rfl, rfl⟩

/-- Of accepted files, a script reads all or raises a `ValueError`; what it reads is what the simulator reads. -/
theorem replay_read (h : List.Forall₂ (fun s l => readLine s = .ok l) (texts.flatMap Python.getlines) ls)
    {fstate : Fstate} :
    replay script maxStrDigits texts = .ok fstate ↔
      (∀ s ∈ texts.flatMap Python.getlines, Readable maxStrDigits s) ∧ fstate = table (ls.map Line.hop) := by
  have hsame := fileLines_read h
  have hwhole (hreadable : ∀ s ∈ texts.flatMap Python.getlines, Readable maxStrDigits s) :
      (texts.flatMap Python.getlines).flatMap (·.splitOn '\r') = texts.flatMap Python.getlines := by
    have hone : ∀ s ∈ texts.flatMap Python.getlines, s.splitOn '\r' = [s] := fun s hs =>
      List.splitOn_eq_singleton (hreadable s hs).1
    rw [List.flatMap_congr hone, List.flatMap_singleton']
  rw [replay_ok]
  constructor
  · rintro ⟨hops, hread, rfl⟩
    -- every piece of every line is read
    have hpiece : ∀ s ∈ texts.flatMap Python.getlines, ∀ piece ∈ s.splitOn '\r', ∃ hop,
      readHop script maxStrDigits piece = .ok hop := by
      intro s hs piece hp
      obtain ⟨line, hline, hsl⟩ := forall₂_mem_right hsame piece (List.mem_flatMap.2 ⟨s, hs, hp⟩)
      obtain ⟨hop, -, hhop⟩ := forall₂_mem_left hread line hline
      exact ⟨hop, by rw [← readHop_sameLine hsl, hhop]⟩
    have hreadable : ∀ s ∈ texts.flatMap Python.getlines, Readable maxStrDigits s := by
      intro s hs
      obtain ⟨l, -, hl⟩ := forall₂_mem_left h s hs
      have hcr : '\r' ∉ s := by
        intro hcr
        obtain ⟨piece, hp, hno⟩ := @readHop_return script maxStrDigits s l hl hcr
        obtain ⟨hop, hhop⟩ := hpiece s hs piece hp
        exact hno hop hhop
      obtain ⟨hop, hhop⟩ := hpiece s hs s (by rw [List.splitOn_eq_singleton hcr]; exact List.mem_singleton_self s)
      exact ⟨hcr, ((readHop_line hl).1 hhop).1⟩
    rw [hwhole hreadable] at hsame
    exact ⟨hreadable, congrArg table ((forall₂_readHop hsame h hreadable).1 hread)⟩
  · rintro ⟨hreadable, rfl⟩
    rw [hwhole hreadable] at hsame
    exact ⟨ls.map Line.hop, (forall₂_readHop hsame h hreadable).2 rfl, rfl⟩

end Read

/-! ## The dictionary and the arbiters -/

/-- The next hops of the dictionary are those of the arbiters: none where an entry is unset, -1 where it is a drop. -/
structure SameNextHops (net : Network M) (fstate : Fstate) (state : ForwardingState) : Prop where
  keys : ∀ key ∈ fstate, ∃ u v : Nat, key = ((u : Int), (v : Int)) ∧ u < net.nodes.length ∧ v < net.nodes.length
  absent : ∀ (u v : Nat) (entry : Entry), entryAt state u v = some entry →
    (fstate.lookup ((u : Int), (v : Int)) = none ↔ entry = (-2, -2, -2))
  drop : ∀ (u v : Nat) (entry : Entry), entryAt state u v = some entry →
    (fstate.lookup ((u : Int), (v : Int)) = some (-1) ↔ entry = (-1, 0, 0))
  nextHop : ∀ (u v next : Nat) (entry : Entry), entryAt state u v = some entry →
    (fstate.lookup ((u : Int), (v : Int)) = some (next : Int) ↔ entry.1 = next)

section Dictionary

variable {net : Network M} {written : List Str} {state : ForwardingState} {ls : List Line}

/-- The value of a pair is what its last line sets. -/
theorem lookup_lines (h : List.Forall₂ (fun s l => readLine s = .ok l) written ls) (u v : Nat) :
    (table (ls.map Line.hop)).lookup ((u : Int), (v : Int)) = (lastLine written u v).map Line.nextHopNodeId := by
  have hls : written.filterMap (fun s => (readLine s).toOption) = ls := by
    induction h with
    | nil => rfl
    | cons hl _ ih => rw [List.filterMap_cons_some (by rw [hl]; rfl), ih]
  have hpair : ((fun hop : (Int × Int) × Int => decide (hop.1 = ((u : Int), (v : Int)))) ∘ Line.hop) =
      fun l : Line => decide (l.currentNodeId = u ∧ l.targetNodeId = v) := by
    funext l
    simp [Line.hop]
  unfold lastLine
  rw [lookup_table, List.filter_map, List.getLast?_map, hls, hpair, Option.map_map]
  rfl

/-- An entry with its value in the dictionary: both unset, or both from an accepted line. -/
theorem lookup_entry (h : List.Forall₂ (fun s l => readLine s = .ok l) written ls) (hholds : Holds net written state)
    {u v : Nat} {entry : Entry} (he : entryAt state u v = some entry) :
    (table (ls.map Line.hop)).lookup ((u : Int), (v : Int)) = none ∧ entry = (-2, -2, -2) ∨
    ∃ l, (table (ls.map Line.hop)).lookup ((u : Int), (v : Int)) = some l.nextHopNodeId ∧ entry = l.entry ∧
      lastLine written u v = some l ∧ (l.entry = (-1, 0, 0) ∨ ∃ next : Nat, l.nextHopNodeId = next) := by
  obtain ⟨nextHopList, hrow, hat⟩ := Option.bind_eq_some_iff.1 he
  have hu : u < net.nodes.length := by
    rw [← hholds.length]
    exact (List.getElem?_eq_some_iff.1 hrow).1
  have hv : v < net.nodes.length := by
    rw [← hholds.row _ (List.mem_of_getElem? hrow)]
    exact (List.getElem?_eq_some_iff.1 hat).1
  have hentry := hholds.entry u hu v hv
  rw [he, Option.some.injEq] at hentry
  rw [lookup_lines h]
  cases hl : lastLine written u v with
  | none =>
    rw [hl] at hentry
    exact .inl ⟨rfl, hentry⟩
  | some l =>
    rw [hl] at hentry
    obtain ⟨-, -, hc, -⟩ := hholds.last hl
    obtain ⟨-, -, hdrop | ⟨next, i, j, hnext, -⟩⟩ := checkLine_ok hc
    · exact .inr ⟨l, rfl, hentry, rfl, .inl hdrop⟩
    · exact .inr ⟨l, rfl, hentry, rfl, .inr ⟨next, hnext⟩⟩

theorem sameNextHops (h : List.Forall₂ (fun s l => readLine s = .ok l) written ls) (hholds : Holds net written state) :
    SameNextHops net (table (ls.map Line.hop)) state := by
  refine ⟨fun key hkey => ?_, fun u v entry he => ?_, fun u v entry he => ?_, fun u v next entry he => ?_⟩
  · obtain ⟨value, hvalue⟩ := Option.isSome_iff_exists.1 (AList.lookup_isSome.2 hkey)
    rw [lookup_table] at hvalue
    obtain ⟨hop, hlast, -⟩ := Option.map_eq_some_iff.1 hvalue
    obtain ⟨hmem, hhop⟩ := List.mem_filter.1 (List.mem_of_getLast? hlast)
    obtain ⟨l, hl, rfl⟩ := List.mem_map.1 hmem
    obtain ⟨s, hs, hread⟩ := forall₂_mem_right h l hl
    obtain ⟨hu, hv, -⟩ := checkLine_ok (hholds.accepted s hs l hread)
    exact ⟨_, _, (of_decide_eq_true hhop).symm, hu, hv⟩
  · rcases lookup_entry h hholds he with ⟨hnone, hunset⟩ | ⟨l, hsome, rfl, -, hkind⟩
    · exact iff_of_true hnone hunset
    · rw [hsome]
      refine iff_of_false nofun fun hunset => ?_
      have hnext : l.nextHopNodeId = -2 := congrArg Prod.fst hunset
      rcases hkind with hdrop | ⟨next, hnat⟩
      · rw [hdrop] at hunset
        cases hunset
      · omega
  · rcases lookup_entry h hholds he with ⟨hnone, rfl⟩ | ⟨l, hsome, rfl, -, hkind⟩
    · rw [hnone]
      exact iff_of_false nofun (by simp)
    · rw [hsome, Option.some.injEq]
      refine ⟨fun hnext => hkind.resolve_right ?_, fun hdrop => congrArg Prod.fst hdrop⟩
      rintro ⟨next, hnat⟩
      omega
  · rcases lookup_entry h hholds he with ⟨hnone, rfl⟩ | ⟨l, hsome, rfl, -⟩
    · rw [hnone]
      exact iff_of_false nofun (by simp only; omega)
    · rw [hsome, Option.some.injEq]
      exact Iff.rfl

end Dictionary

/-! ## Paths -/

section Walk

variable {maxLength : Nat} {fstate : Fstate}

/-- From a node that is its own next hop no path is found. -/
theorem walkFrom_stuck {b cur : Int} {path : List Int} (h : fstate.lookup (cur, b) = some cur) (hne : cur ≠ b) :
    walkFrom maxLength fstate b path cur = none := by
  fun_induction walkFrom maxLength fstate b path cur with
  | case1 path => exact absurd rfl hne
  | case2 path cur _ next hend => rfl
  | case3 path cur _ next hend ih =>
    have hself : next = cur := by
      show (fstate.lookup (cur, b)).getD (-1) = cur
      rw [h]
      rfl
    rw [hself] at ih ⊢
    exact ih h hne

/-- A path that is found goes along the next hops, if these are nodes or drops. -/
theorem walkFrom_along {nextNode : Nat → Option Nat} {b : Nat}
    (hvalue : ∀ (u : Nat) (w : Int), fstate.lookup ((u : Int), (b : Int)) = some w → w = -1 ∨ ∃ n : Nat, w = n)
    (hnext : ∀ u w : Nat, u ≠ b → w ≠ u → fstate.lookup ((u : Int), (b : Int)) = some (w : Int) → nextNode u = some w)
    {path full : List Int} {cur : Nat} (h : walkFrom maxLength fstate b path cur = some full) :
    ∃ rest : List Nat, full = path ++ rest.map Nat.cast ∧ Hops.Along nextNode (cur :: rest) ∧
      (cur :: rest).getLast? = some b := by
  generalize hcur : (cur : Int) = c at h
  fun_induction walkFrom maxLength fstate b path c generalizing cur with
  | case1 path =>
    cases h
    exact ⟨[], by simp, List.isChain_singleton cur, by rw [Nat.cast_inj.1 hcur]; rfl⟩
  | case2 path => cases h
  | case3 path =>
    rename_i c harrived next hend ih
    subst hcur
    have hne : cur ≠ b := fun he => harrived (by rw [he])
    obtain ⟨w, hlookup, hw⟩ : ∃ w : Nat, fstate.lookup ((cur : Int), (b : Int)) = some (w : Int) ∧
      (w : Int) = next := by
      have hdef : next = (fstate.lookup ((cur : Int), (b : Int))).getD (-1) := rfl
      cases hl : fstate.lookup ((cur : Int), (b : Int)) with
      | none =>
        rw [hl] at hdef
        exact absurd (.inl hdef) hend
      | some value =>
        rw [hl, Option.getD_some] at hdef
        rcases hvalue cur value hl with hdrop | ⟨w, hw⟩
        · exact absurd (.inl (hdef.trans hdrop)) hend
        · exact ⟨w, by rw [hw], by rw [hdef, hw]⟩
    rw [← hw] at h
    have hself : w ≠ cur := by
      rintro rfl
      rw [walkFrom_stuck hlookup harrived] at h
      cases h
    obtain ⟨rest, hfull, halong, hlast⟩ := ih hw (by rw [← hw]; exact h)
    refine ⟨w :: rest, ?_, List.isChain_cons_cons.2 ⟨hnext cur w hne hself hlookup, halong⟩, ?_⟩
    · rw [hfull, ← hw, List.append_assoc]
      rfl
    · rw [List.getLast?_cons_cons]
      exact hlast

end Walk

section Visits

variable [DecidableEq M] (addr : Addresses M) (net : Network M)

/-- The node that receives a packet of node `u` to the target, unless it has arrived. -/
def nextNode (arp : ArpCache M) (state : ForwardingState) (target u : Nat) : Option Nat :=
  if u = target then none
  else
    match arbiterAt state u >>= fun nextHopList => send addr net arp nextHopList u target with
    | .ok (.reception device) => some device.1
    | _ => none

/-- The nodes that a packet from `a` to `b` visits, hop by hop. -/
structure Visits (arp : ArpCache M) (state : ForwardingState) (a b : Nat) (path : List Nat) : Prop where
  head : path.head? = some a
  last : path.getLast? = some b
  along : Hops.Along (nextNode addr net arp state b) path

variable {addr net} {arp : ArpCache M} {state : ForwardingState}

theorem Visits.unique {a b : Nat} {p q : List Nat} (hp : Visits addr net arp state a b p)
    (hq : Visits addr net arp state a b q) :
    p = q := by
  have hend : nextNode addr net arp state b b = none := if_pos rfl
  exact hp.along.eq_of_ended hq.along (hp.head.trans hq.head.symm) hp.last hend hq.last hend

variable {n : Nat} {isls : List (Nat × Nat)} {written : List Str} {ls : List Line}

/-- A packet goes to the next hop of the dictionary, where that is another node. -/
theorem nextNode_lookup (hb : Built addr n isls [] net)
    (harp : ∀ (e : End) (d : NetDevice), Node.deviceAt net.nodes e = some d → e.2 ≠ 0 →
      e ∈ arp.users ∧ arp.entries.lookup (addr.ip e) = some (addr.mac e))
    (hholds : Holds net written state) (h : List.Forall₂ (fun s l => readLine s = .ok l) written ls)
    {b u w : Nat} (hub : u ≠ b) (hwu : w ≠ u) (hlookup : (table (ls.map Line.hop)).lookup ((u : Int), (b : Int)) =
      some (w : Int)) :
    nextNode addr net arp state b u = some w := by
  rw [lookup_lines h] at hlookup
  obtain ⟨l, hl, hw⟩ := Option.map_eq_some_iff.1 hlookup
  obtain ⟨rfl, rfl, hc, nextHopList, hrow, hentry⟩ := hholds.last hl
  obtain ⟨next, j, d, hnext, -, -, hsend⟩ := send_checked hb harp hc (by omega) hentry fun k d₀ d₁ _ hmem hpeer => by
    split at hpeer
    · omega
    · omega
  unfold nextNode arbiterAt
  rw [if_neg hub, hrow, ok_bind, hsend]
  simp only
  congr 1
  omega

variable {numSatellites numGroundStations : Nat} {nodeGslIfInfo : List Nat} {sim : BasicSimulation} {texts : List Str}

/-- For every satellite network and every sequence of accepted files: a script reads the files without a `ValueError`
exactly if all lines are readable; then its dictionary has the next hops of the arbiters, and every path that it finds
is the one that a packet takes. -/
theorem replay_agrees (script : Script) (maxStrDigits : Nat)
    (hbuild : build addr numSatellites numGroundStations isls nodeGslIfInfo = .ok net)
    (h : LoadedFiles sim net texts state) :
    ((∃ fstate, replay script maxStrDigits texts = .ok fstate) ↔
      ∀ s ∈ texts.flatMap Python.getlines, Readable maxStrDigits s) ∧
    ∃ arp, populateArpCaches addr net = .ok arp ∧ ∀ fstate, replay script maxStrDigits texts = .ok fstate →
      SameNextHops net fstate state ∧
      ∀ (a b : Nat) (path : List Int), walk script fstate a b = some path →
        ∃ nodes : List Nat, path = nodes.map Nat.cast ∧ ∀ nodes', Visits addr net arp state a b nodes' ↔
          nodes' = nodes := by
  have hb := build_built hbuild
  have hholds := h.loaded.holds
  obtain ⟨ls, hread⟩ := h.loaded.read
  have hreplay := fun fstate => @replay_read script maxStrDigits texts ls hread fstate
  obtain ⟨arp, hrun, harp⟩ := @populateArpCaches_ok _ addr net hb.numbered
  refine ⟨⟨?_, ?_⟩, arp, hrun, fun fstate hok => ?_⟩
  · rintro ⟨fstate, hok⟩
    exact ((hreplay fstate).1 hok).1
  · intro hreadable
    exact ⟨_, (hreplay _).2 ⟨hreadable, rfl⟩⟩
  · obtain ⟨-, rfl⟩ := (hreplay fstate).1 hok
    refine ⟨sameNextHops hread hholds, fun a b path hwalk => ?_⟩
    have hvalue : ∀ (u : Nat) (w : Int), (table (ls.map Line.hop)).lookup ((u : Int), (b : Int)) = some w →
        w = -1 ∨ ∃ n : Nat, w = n := by
      intro u w hlookup
      rw [lookup_lines hread] at hlookup
      obtain ⟨l, hl, rfl⟩ := Option.map_eq_some_iff.1 hlookup
      obtain ⟨-, -, hc, -⟩ := hholds.last hl
      obtain ⟨-, -, hdrop | ⟨next, i, j, hnext, -⟩⟩ := checkLine_ok hc
      · exact .inl (congrArg Prod.fst hdrop)
      · exact .inr ⟨next, hnext⟩
    obtain ⟨rest, hpath, halong, hlast⟩ := walkFrom_along hvalue
      (fun u w hub hwu hlookup => nextNode_lookup hb harp hholds hread hub hwu hlookup) hwalk
    have hvisits : Visits addr net arp state a b (a :: rest) := ⟨rfl, hlast, halong⟩
    refine ⟨a :: rest, hpath, fun nodes' => ⟨fun hv => hv.unique hvisits, ?_⟩⟩
    rintro rfl
    exact hvisits

end Visits

/-- The file of `twoSatellitesLines`. -/
def twoSatellitesText : Str := "2,3,0,0,1\n0,3,1,0,0\n3,2,-1,-1,-1\n1,3,3,1,0\n3,2,1,0,1\n".toList

theorem loadedFiles_twoSatellites : LoadedFiles (simulation twoSatellitesLines) twoSatellites [twoSatellitesText] twoSatellitesState :=
  .update 100 0 twoSatellitesText twoSatellitesState (some 100) .init (by decide +kernel) (by decide +kernel)

theorem replay_agrees_twoSatellites :
    ((∃ fstate, replay .pathTruth 4300 [twoSatellitesText] = .ok fstate) ↔
      ∀ s ∈ [twoSatellitesText].flatMap Python.getlines, Readable 4300 s) ∧
    ∃ arp, populateArpCaches pairAddresses twoSatellites = .ok arp ∧
      ∀ fstate, replay .pathTruth 4300 [twoSatellitesText] = .ok fstate →
        SameNextHops twoSatellites fstate twoSatellitesState ∧
        ∀ (a b : Nat) (path : List Int), walk .pathTruth fstate a b = some path →
          ∃ nodes : List Nat, path = nodes.map Nat.cast ∧
            ∀ nodes', Visits pairAddresses twoSatellites arp twoSatellitesState a b nodes' ↔ nodes' = nodes :=
  replay_agrees .pathTruth 4300 build_twoSatellites loadedFiles_twoSatellites

/-- A carriage return in front of a number is a blank for the simulator and the end of a line for the script. -/
def returnText : Str := "2,3,\r0,0,1\n".toList

theorem replay_counterexample :
    (∃ state, LoadedFiles (simulation (Python.getlines returnText)) twoSatellites [returnText] state) ∧
    ∀ fstate, replay .pathTruth 4300 [returnText] ≠ .ok fstate := by
  constructor
  · exact ⟨_, .update 100 0 returnText
      [[(-2, -2, -2), (-2, -2, -2), (-2, -2, -2), (-2, -2, -2)], [(-2, -2, -2), (-2, -2, -2), (-2, -2, -2),
        (-2, -2, -2)],
        [(-2, -2, -2), (-2, -2, -2), (-2, -2, -2), (0, 1, 2)], [(-2, -2, -2), (-2, -2, -2), (-2, -2, -2), (-2, -2, -2)]]
      (some 100) .init rfl (by decide +kernel)⟩
  · have hfails : (replay .pathTruth 4300 [returnText]).isOk = false := by decide +kernel
    intro fstate hok
    rw [hok] at hfails
    cases hfails

end SatNet.Satellite
