/-
`split_string` and joining with the delimiter. The pieces joined give the line back, no piece has the delimiter in it,
and the line is cut at those occurrences of the delimiter that a search from the left meets.
-/
import SatNet.Base.Spelling
import SatNet.Lib.Occurrences

namespace SatNet.ExpUtil

open SatNet.Loop SatNet.Occurrences

variable {d : Str}

/-- `find` gives the first occurrence. -/
theorem find_firstAt : ∀ {s : Str} {i : Nat}, find d s = some i → FirstAt d s i
  | [], i, h => by
    unfold find at h
    split at h
    · rename_i hd
      cases h
      exact firstAt_zero (List.isPrefixOf_iff_prefix.1 hd)
    · cases h
  | c :: s, i, h => by
    unfold find at h
    split at h
    · rename_i hd
      cases h
      exact firstAt_zero (List.isPrefixOf_iff_prefix.1 hd)
    · rename_i hd
      obtain ⟨k, hk, rfl⟩ := Option.map_eq_some_iff.1 h
      obtain ⟨hocc, hfirst⟩ := find_firstAt hk
      refine ⟨occursAt_succ.2 hocc, ?_⟩
      intro j hj hoccj
      -- the search went on, so it does not start here
      cases j with
      | zero => exact hd (List.isPrefixOf_iff_prefix.2 (occursAt_zero.1 hoccj))
      | succ j => exact hfirst j (Nat.lt_of_succ_lt_succ hj) (occursAt_succ.1 hoccj)

theorem not_occursAt_of_find : ∀ {s : Str}, find d s = none → ∀ i, ¬ OccursAt d s i
  | [], h, i, hocc => by
    unfold find at h
    split at h
    · cases h
    · rename_i hd
      obtain ⟨l, r, hs, -⟩ := hocc
      rw [eq_comm, List.append_eq_nil_iff, List.append_eq_nil_iff] at hs
      exact hd (by rw [hs.2.1]; rfl)
  | c :: s, h, i, hocc => by
    unfold find at h
    split at h
    · cases h
    · rename_i hd
      cases i with
      | zero => exact hd (List.isPrefixOf_iff_prefix.2 (occursAt_zero.1 hocc))
      | succ i => exact not_occursAt_of_find (Option.map_eq_none_iff.1 h) i (occursAt_succ.1 hocc)

/-- What is known of the pieces of a line: `r` stands in the line behind `l`, and is cut where the search from there
on meets the delimiter. -/
structure SplitAt (d l r : Str) (pieces : List Str) : Prop where
  join : d.intercalate pieces = r
  free : ∀ piece ∈ pieces, ¬ d <:+: piece
  occurrences : ∃ ps, LeftmostFrom d (l ++ r) l.length ps ∧ pieces.length = ps.length + 1

theorem SplitAt.of_none {l r : Str} (h : find d r = none) : SplitAt d l r [r] := by
  have hnone := not_occursAt_of_find h
  refine ⟨List.intercalate_singleton .., ?_, [], .done ?_, rfl⟩
  · intro piece hpiece
    rw [List.mem_singleton.1 hpiece, infix_iff_occursAt]
    exact fun ⟨i, hi⟩ => hnone i hi
  · intro j hj hocc
    obtain ⟨k, rfl⟩ := Nat.exists_eq_add_of_le hj
    exact hnone k (occursAt_append_left.1 hocc)

theorem SplitAt.cons {l first r : Str} {pieces : List Str} (hd : d ≠ [])
    (h : find d (first ++ (d ++ r)) = some first.length) (hrest : SplitAt d (l ++ (first ++ d)) r pieces) :
    SplitAt d l (first ++ (d ++ r)) (first :: pieces) := by
  have hfirst := find_firstAt h
  obtain ⟨ps, hps, hlen⟩ := hrest.occurrences
  have hne : pieces ≠ [] := List.length_pos_iff.1 (by omega)
  refine ⟨?_, List.forall_mem_cons.2 ⟨hfirst.not_infix hd, hrest.free⟩, (l.length + first.length) :: ps,
    .next (Nat.le_add_right ..) (occursAt_append_left.2 hfirst.1) ?_ ?_, by rw [List.length_cons, hlen]; rfl⟩
  · obtain ⟨second, rest, rfl⟩ := List.exists_cons_of_ne_nil hne
    rw [List.intercalate_cons_cons, hrest.join, List.append_assoc]
  · intro j hj hlt hocc
    -- an occurrence of the line from there on is one of the rest
    obtain ⟨k, rfl⟩ := Nat.exists_eq_add_of_le hj
    exact hfirst.2 k (by omega) (occursAt_append_left.1 hocc)
  · simpa only [List.append_assoc, List.length_append, Nat.add_assoc] using hps

theorem splitLoop_splitAt (hd : d ≠ []) : ∀ (fuel : Nat) (l r : Str), r.length < fuel →
    ∃ pieces, splitLoop d fuel r = some pieces ∧ SplitAt d l r pieces
  | 0, _, _, h => absurd h (Nat.not_lt_zero _)
  | fuel + 1, l, r, h => by
    unfold splitLoop
    cases hf : find d r with
    | none => exact ⟨[r], rfl, .of_none hf⟩
    | some i =>
      obtain ⟨first, rest, rfl, rfl⟩ := find_some hf
      have hpos := List.length_pos_iff.2 hd
      rw [List.length_append, List.length_append] at h
      obtain ⟨pieces, hloop, hpieces⟩ := splitLoop_splitAt hd fuel (l ++ (first ++ d)) rest (by omega)
      refine ⟨first :: pieces, ?_, hpieces.cons hd hf⟩
      simp only [← List.drop_drop, List.drop_left, List.take_left, hloop, Option.map_some]

/-- Splitting is the inverse of joining: the loop ends, the pieces joined give the line, no piece has the delimiter in
it, and there is one piece more than occurrences from the left. With one character as the delimiter, every list of
pieces without it comes back from its join. -/
theorem splitString_inverse :
    (∀ line d : Str, d ≠ [] → ∃ pieces, splitString line d = .ok pieces ∧ d.intercalate pieces = line ∧
      (∀ piece ∈ pieces, ¬ d <:+: piece) ∧
      ∃ ps, (∀ qs, LeftmostFrom d line 0 qs ↔ qs = ps) ∧ pieces.length = ps.length + 1) ∧
      ∀ (c : Char) (pieces : List Str), pieces ≠ [] → (∀ piece ∈ pieces, ¬ [c] <:+: piece) →
        splitString ([c].intercalate pieces) [c] = .ok pieces := by
  constructor
  · intro line d hd
    obtain ⟨pieces, hloop, hjoin, hfree, ps, hps, hlen⟩ :=
      splitLoop_splitAt hd (line.length + 1) [] line (Nat.lt_succ_self _)
    refine ⟨pieces, ?_, hjoin, hfree, ps, fun qs => ⟨fun hqs => hqs.unique hps, ?_⟩, hlen⟩
    · unfold splitString
      rw [hloop]
    · rintro rfl
      exact hps
  · intro c pieces hne hfree
    refine splitString_ok.2 ⟨hne, rfl, fun piece hpiece hc => hfree piece hpiece ?_⟩
    obtain ⟨l, r, rfl⟩ := List.append_of_mem hc
    exact ⟨l, r, by rw [List.append_assoc]; rfl⟩

/-- A delimiter that overlaps itself: it is met once. -/
theorem splitString_inverse_overlap : splitString "aaa".toList "aa".toList = .ok ["".toList, "a".toList] ∧
    ∃ ps, (∀ qs, LeftmostFrom "aa".toList "aaa".toList 0 qs ↔ qs = ps) ∧ 2 = ps.length + 1 := by
  have hsplit : splitString "aaa".toList "aa".toList = .ok ["".toList, "a".toList] := by decide
  obtain ⟨pieces, hpieces, -, -, hps⟩ := splitString_inverse.1 "aaa".toList "aa".toList (by decide)
  cases hpieces.symm.trans hsplit
  exact ⟨hsplit, hps⟩

end SatNet.ExpUtil
