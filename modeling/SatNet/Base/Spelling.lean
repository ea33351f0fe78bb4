/-
What the strings of a configuration spell: an integer, a set of strings, a set of integers. Each is a
relation between a string and its value that does not say how the string is read; the parsers accept
exactly the strings that spell something.
-/
import SatNet.Base.ExpUtil

namespace SatNet.ExpUtil

open SatNet.Loop

/-! ## Integers -/

/-- Blanks, a sign and digits, and nothing after them; the only integer with a minus is 0. -/
def SpellsNat (s : Str) (n : Nat) : Prop :=
  ∃ blanks sign digits, s = blanks ++ (sign ++ digits) ∧ (∀ c ∈ blanks, isBlank c = true) ∧
    (sign = [] ∨ sign = ['+'] ∨ sign = ['-'] ∧ n = 0) ∧ digits ≠ [] ∧ (∀ c ∈ digits, c.isDigit = true) ∧
    decimal digits = n ∧ n < 2 ^ 63

theorem isDigit_not_blank {c : Char} (h : c.isDigit = true) : isBlank c = false ∧ c ≠ '+' ∧ c ≠ '-' := by
  refine ⟨?_, ?_, ?_⟩
  · by_contra hb
    simp only [isBlank, Bool.not_eq_false, Bool.or_eq_true, decide_eq_true_eq] at hb
    rcases hb with ((((rfl | rfl) | rfl) | rfl) | rfl) | rfl <;> simp at h
  · rintro rfl; simp at h
  · rintro rfl; simp at h

theorem signOf_append (r : Str) : ∃ sign, r = sign ++ (signOf r).2 ∧
    ((signOf r).1 = false ∧ (sign = [] ∨ sign = ['+']) ∨ (signOf r).1 = true ∧ sign = ['-']) := by
  unfold signOf
  split
  · exact ⟨['-'], rfl, .inr ⟨rfl, rfl⟩⟩
  · exact ⟨['+'], rfl, .inl ⟨rfl, .inr rfl⟩⟩
  · exact ⟨[], rfl, .inl ⟨rfl, .inl rfl⟩⟩

theorem signOf_digits {digits : Str} (h : ∀ c ∈ digits, c.isDigit = true) : signOf digits = (false, digits) := by
  unfold signOf
  split
  · exact absurd rfl (isDigit_not_blank (h _ (List.mem_cons_self ..))).2.2
  · exact absurd rfl (isDigit_not_blank (h _ (List.mem_cons_self ..))).2.1
  · rfl

theorem signOf_sign {sign digits : Str} (hs : sign = [] ∨ sign = ['+'] ∨ sign = ['-'])
    (hd : ∀ c ∈ digits, c.isDigit = true) : signOf (sign ++ digits) = (decide (sign = ['-']), digits) := by
  rcases hs with rfl | rfl | rfl
  · simpa using signOf_digits hd
  · rfl
  · rfl

/-- What `stoll` finds behind the blanks of a string that spells an integer. -/
theorem leftTrim_append {blanks sign digits : Str} (hb : ∀ c ∈ blanks, isBlank c = true)
    (hs : sign = [] ∨ sign = ['+'] ∨ sign = ['-']) (hne : digits ≠ []) (hd : ∀ c ∈ digits, c.isDigit = true) :
    leftTrim (blanks ++ (sign ++ digits)) = sign ++ digits := by
  unfold leftTrim
  rw [List.dropWhile_append_of_pos hb]
  cases digits with
  | nil => cases hne rfl
  | cons c rest =>
    have hc := (isDigit_not_blank (hd c (List.mem_cons_self ..))).1
    rcases hs with rfl | rfl | rfl
    · simp [hc]
    · rfl
    · rfl

/-- `parse_int64` accepts where the digits behind blanks and sign are there, end the string, and stay in the
range of `int64_t`. -/
theorem parseInt64_eq {s : Str} {v : Int} :
    parseInt64 s = .ok v ↔ (signOf (leftTrim s)).2 ≠ [] ∧ (∀ c ∈ (signOf (leftTrim s)).2, c.isDigit = true) ∧
      v = (if (signOf (leftTrim s)).1 then -(decimal (signOf (leftTrim s)).2 : Int)
        else decimal (signOf (leftTrim s)).2) ∧ -2 ^ 63 ≤ v ∧ v < 2 ^ 63 := by
  obtain ⟨sign, hsign, -⟩ := signOf_append (leftTrim s)
  have hlen : (signOf (leftTrim s)).2.length ≤ s.length := by
    have h₁ : (leftTrim s).length ≤ s.length := (List.dropWhile_suffix _).length_le
    rw [hsign, List.length_append] at h₁
    omega
  unfold parseInt64 stoll
  generalize signOf (leftTrim s) = p at *
  obtain ⟨negative, body⟩ := p
  simp only at hlen ⊢
  have hall : body.takeWhile Char.isDigit = body ↔ ∀ c ∈ body, c.isDigit = true := List.takeWhile_eq_self_iff
  have hpre := List.takeWhile_prefix (l := body) Char.isDigit
  by_cases hds : body.takeWhile Char.isDigit = []
  · rw [if_pos hds]
    simp only [reduceCtorEq, false_iff, not_and]
    intro hne hd
    exact absurd ((hall.2 hd).symm.trans hds) hne
  · rw [if_neg hds]
    by_cases hfull : body.takeWhile Char.isDigit = body
    · have hd := hall.1 hfull
      have hi : s.length - body.length + body.length = s.length := by omega
      rw [hfull] at hds ⊢
      generalize (if negative = true then -(decimal body : Int) else decimal body) = val
      by_cases hr : val < -2 ^ 63 ∨ 2 ^ 63 ≤ val
      · rw [if_pos hr]
        simp only [reduceCtorEq, false_iff]
        rintro ⟨-, -, rfl, h₁, h₂⟩
        omega
      · rw [if_neg hr]
        simp only [hi, ne_eq, not_true_eq_false, if_false, Except.ok.injEq]
        constructor
        · rintro rfl
          exact ⟨hds, hd, rfl, by omega⟩
        · rintro ⟨-, -, hv, -⟩
          exact hv.symm
    · -- something stands behind the digits
      have hshort : (body.takeWhile Char.isDigit).length < body.length := by
        have hle := hpre.length_le
        by_contra hge
        exact hfull (hpre.eq_of_length (by omega))
      have hnot : ¬ ∀ c ∈ body, c.isDigit = true := fun hd => hfull (hall.2 hd)
      have hi : s.length - body.length + (body.takeWhile Char.isDigit).length ≠ s.length := by omega
      generalize (if negative = true then -(decimal (body.takeWhile Char.isDigit) : Int)
        else decimal (body.takeWhile Char.isDigit)) = val
      by_cases hr : val < -2 ^ 63 ∨ 2 ^ 63 ≤ val
      · rw [if_pos hr]
        simp [hnot]
      · rw [if_neg hr]
        simp only [hi, ne_eq, not_false_eq_true, if_true]
        simp [hnot]

/-- What `parse_int64` accepts is blanks, a sign and digits. -/
theorem parseInt64_spelled {s : Str} {v : Int} (h : parseInt64 s = .ok v) :
    ∃ blanks sign digits, s = blanks ++ (sign ++ digits) ∧ (∀ c ∈ blanks, isBlank c = true) ∧
      (sign = [] ∨ sign = ['+'] ∨ sign = ['-']) ∧ digits ≠ [] ∧ (∀ c ∈ digits, c.isDigit = true) ∧
      v = if sign = ['-'] then -(decimal digits : Int) else decimal digits := by
  obtain ⟨hne, hd, hval, -⟩ := parseInt64_eq.1 h
  obtain ⟨sign, hsign, hneg⟩ := signOf_append (leftTrim s)
  refine ⟨s.takeWhile isBlank, sign, (signOf (leftTrim s)).2, ?_, fun c hc => List.mem_takeWhile_imp hc, ?_, hne, hd, ?_⟩
  · rw [← hsign, leftTrim, List.takeWhile_append_dropWhile]
  · rcases hneg with ⟨-, rfl | rfl⟩ | ⟨-, rfl⟩ <;> simp
  · rcases hneg with ⟨hpos, rfl | rfl⟩ | ⟨hneg, rfl⟩
    · simpa [hpos] using hval
    · simpa [hpos] using hval
    · simpa [hneg] using hval

/-- `parse_positive_int64` accepts exactly the strings that spell a non-negative integer. -/
theorem parsePositiveInt64_ok {s : Str} {n : Nat} : parsePositiveInt64 s = .ok n ↔ SpellsNat s n := by
  unfold parsePositiveInt64
  rw [bind_eq_ok]
  constructor
  · rintro ⟨v, hv, h⟩
    obtain ⟨blanks, sign, digits, hs, hb, hsign, hne, hd, hval⟩ := parseInt64_spelled hv
    have hrange := parseInt64_range hv
    split at h
    · cases h
    · rename_i hpos
      cases h
      refine ⟨blanks, sign, digits, hs, hb, ?_, hne, hd, ?_, by omega⟩
      · rcases hsign with rfl | rfl | rfl
        · exact .inl rfl
        · exact .inr (.inl rfl)
        · rw [if_pos rfl] at hval
          exact .inr (.inr ⟨rfl, by omega⟩)
      · split at hval <;> omega
  · rintro ⟨blanks, sign, digits, rfl, hb, hs, hne, hd, hn, hlt⟩
    have hs' : sign = [] ∨ sign = ['+'] ∨ sign = ['-'] := hs.imp id fun h => h.imp id And.left
    refine ⟨n, parseInt64_eq.2 ?_, ?_⟩
    · rw [leftTrim_append hb hs' hne hd, signOf_sign hs' hd]
      refine ⟨hne, hd, ?_, by omega, by omega⟩
      rcases hs with rfl | rfl | ⟨rfl, hz⟩
      · simp [hn]
      · simp [hn]
      · simp only [hn, hz]
        rfl
    · rw [if_neg (by omega), Int.toNat_natCast]

/-- What spells a number has no `>`. -/
theorem SpellsNat.not_mem_gt {s : Str} {n : Nat} (h : SpellsNat s n) : '>' ∉ s := by
  obtain ⟨blanks, sign, digits, rfl, hb, hs, -, hd, -⟩ := h
  intro hmem
  rw [List.mem_append, List.mem_append] at hmem
  rcases hmem with hmem | hmem | hmem
  · exact absurd (hb _ hmem) (by simp [isBlank])
  · rcases hs with rfl | rfl | ⟨rfl, -⟩ <;> simp at hmem
  · exact absurd (hd _ hmem) (by decide)

theorem SpellsNat.unique {s : Str} {m n : Nat} (hm : SpellsNat s m) (hn : SpellsNat s n) : m = n := by
  rw [← parsePositiveInt64_ok] at hm hn
  rw [hm] at hn
  cases hn
  rfl

/-! ## Splitting -/

theorem find_of_not_mem {c : Char} : ∀ {s : Str}, c ∉ s → find [c] s = none
  | [], _ => rfl
  | d :: s, h => by
    rw [List.mem_cons, not_or] at h
    unfold find
    rw [if_neg (by simpa using h.1), find_of_not_mem h.2]
    rfl

theorem find_append {c : Char} : ∀ {l r : Str}, c ∉ l → find [c] (l ++ c :: r) = some l.length
  | [], r, _ => by simp [find]
  | d :: l, r, h => by
    rw [List.mem_cons, not_or] at h
    rw [List.cons_append, find, if_neg (by simpa using h.1), find_append h.2]
    rfl

theorem splitLoop_eq {c : Char} : ∀ (fuel : Nat) (s : Str), s.length < fuel → splitLoop [c] fuel s = some (s.splitOn c)
  | 0, _, h => absurd h (Nat.not_lt_zero _)
  | fuel + 1, s, h => by
    unfold splitLoop
    by_cases hc : c ∈ s
    · obtain ⟨l, r, rfl, hl⟩ := List.eq_append_cons_of_mem hc
      rw [List.length_append, List.length_cons] at h
      have hdrop : (l ++ c :: r).drop (l.length + [c].length) = r := by
        rw [List.length_singleton, ← List.drop_drop, List.drop_left]
        rfl
      simp only [find_append hl, hdrop, List.take_left, splitLoop_eq fuel r (by omega),
        List.splitOn_append_cons_self_of_not_mem hl, Option.map_some]
    · simp only [find_of_not_mem hc, List.splitOn_eq_singleton hc]

theorem splitString_char (s : Str) (c : Char) : splitString s [c] = .ok (s.splitOn c) := by
  unfold splitString
  rw [splitLoop_eq _ _ (Nat.lt_succ_self _)]

theorem not_mem_of_mem_splitOn {c : Char} {part : Str} : ∀ {s : Str}, part ∈ s.splitOn c → c ∉ part
  | [], h => by
    rw [List.splitOn_nil, List.mem_singleton] at h
    subst h
    exact List.not_mem_nil
  | d :: s, h => by
    rw [List.splitOn_cons_eq_if_modifyHead] at h
    split at h
    · rcases List.mem_cons.1 h with rfl | h
      · exact List.not_mem_nil
      · exact not_mem_of_mem_splitOn h
    · rename_i hd
      cases hsp : s.splitOn c with
      | nil => exact absurd hsp (List.splitOn_ne_nil _ _)
      | cons first rest =>
        have ih : ∀ q ∈ first :: rest, c ∉ q := fun q hq => not_mem_of_mem_splitOn (by rw [hsp]; exact hq)
        rw [hsp, List.modifyHead_cons, List.mem_cons] at h
        rcases h with rfl | h
        · rw [List.mem_cons, not_or]
          exact ⟨fun he => hd (by simp [he]), ih first (List.mem_cons_self ..)⟩
        · exact ih part (List.mem_cons_of_mem _ h)

theorem mem_of_mem_splitOn {c d : Char} : ∀ {s part : Str}, part ∈ s.splitOn c → d ∈ part → d ∈ s
  | [], part, h, hd => by
    rw [List.splitOn_nil, List.mem_singleton] at h
    exact h ▸ hd
  | e :: s, part, h, hd => by
    rw [List.splitOn_cons_eq_if_modifyHead] at h
    split at h
    · rcases List.mem_cons.1 h with rfl | h
      · cases hd
      · exact List.mem_cons_of_mem _ (mem_of_mem_splitOn h hd)
    · cases hsp : s.splitOn c with
      | nil => exact absurd hsp (List.splitOn_ne_nil _ _)
      | cons first rest =>
        have ih : ∀ q ∈ first :: rest, d ∈ q → d ∈ s := fun q hq => mem_of_mem_splitOn (hsp ▸ hq)
        rw [hsp, List.modifyHead_cons, List.mem_cons] at h
        rcases h with rfl | h
        · rcases List.mem_cons.1 hd with rfl | hd
          · exact List.mem_cons_self ..
          · exact List.mem_cons_of_mem _ (ih first (List.mem_cons_self ..) hd)
        · exact List.mem_cons_of_mem _ (ih part (List.mem_cons_of_mem _ h) hd)

/-- The first of two or more parts. -/
theorem splitOn_cons_cons {c : Char} {s first second : Str} {rest : List Str}
    (h : s.splitOn c = first :: second :: rest) :
    ∃ r, s = first ++ c :: r ∧ c ∉ first ∧ r.splitOn c = second :: rest := by
  by_cases hc : c ∈ s
  · obtain ⟨l, r, rfl, hl⟩ := List.eq_append_cons_of_mem hc
    rw [List.splitOn_append_cons_self_of_not_mem hl] at h
    obtain ⟨rfl, hr⟩ := List.cons.inj h
    exact ⟨r, rfl, hl, hr⟩
  · rw [List.splitOn_eq_singleton hc] at h
    cases h

theorem splitOn_singleton {c : Char} {s part : Str} (h : s.splitOn c = [part]) : c ∉ part ∧ s = part := by
  have hs := @List.intercalate_splitOn Char s _ _ c
  rw [h, List.intercalate_singleton] at hs
  exact ⟨not_mem_of_mem_splitOn (by rw [h]; exact List.mem_singleton_self part), hs.symm⟩

/-- A beginning without the separator belongs to the first part. -/
theorem splitOn_append_of_not_mem {c : Char} {r : Str} : ∀ {l : Str}, c ∉ l →
    (l ++ r).splitOn c = (r.splitOn c).modifyHead (l ++ ·)
  | [], _ => (congrFun List.modifyHead_id (r.splitOn c)).symm
  | d :: l, h => by
    rw [List.mem_cons, not_or] at h
    rw [List.cons_append, List.splitOn_cons_eq_if_modifyHead, if_neg (by simpa using Ne.symm h.1),
      splitOn_append_of_not_mem h.2, List.modifyHead_modifyHead]
    rfl

theorem prefix_of_splitOn {c : Char} {s first : Str} {rest : List Str} (h : s.splitOn c = first :: rest) :
    first <+: s := by
  cases rest with
  | nil =>
    obtain ⟨-, rfl⟩ := splitOn_singleton h
    exact List.prefix_rfl
  | cons second rest =>
    obtain ⟨r, rfl, -⟩ := splitOn_cons_cons h
    exact List.prefix_append first (c :: r)

/-- The parts of a string between its commas, or another separator. -/
def Separates (c : Char) (s : Str) (parts : List Str) : Prop :=
  parts ≠ [] ∧ s = [c].intercalate parts ∧ ∀ part ∈ parts, c ∉ part

theorem separates_iff {c : Char} {s : Str} {parts : List Str} : Separates c s parts ↔ parts = s.splitOn c := by
  constructor
  · rintro ⟨hne, rfl, hc⟩
    exact (List.splitOn_intercalate c hc hne).symm
  · rintro rfl
    exact ⟨List.splitOn_ne_nil _ _, (List.intercalate_splitOn c).symm, fun _ => not_mem_of_mem_splitOn⟩

theorem intercalate_pair (c : Char) (k v : Str) : [c].intercalate [k, v] = k ++ c :: v := by
  rw [List.intercalate_cons_cons, List.intercalate_singleton, List.append_assoc, List.singleton_append]

theorem separates_pair {c : Char} {k v : Str} (hk : c ∉ k) (hv : c ∉ v) : Separates c (k ++ c :: v) [k, v] := by
  refine ⟨List.cons_ne_nil k [v], (intercalate_pair c k v).symm, ?_⟩
  rw [List.forall_mem_cons, List.forall_mem_singleton]
  exact ⟨hk, hv⟩

theorem splitString_ok {c : Char} {s : Str} {parts : List Str} :
    splitString s [c] = .ok parts ↔ Separates c s parts := by
  rw [splitString_char, separates_iff, Except.ok.injEq, eq_comm]

theorem splitStringExpected_ok {c : Char} {s : Str} {k : Nat} {parts : List Str} :
    splitStringExpected s [c] k = .ok parts ↔ Separates c s parts ∧ parts.length = k := by
  unfold splitStringExpected
  simp only [bind_eq_ok, splitString_ok]
  constructor
  · rintro ⟨parts', hs, h⟩
    split at h
    · cases h
    · rename_i hk
      cases h
      exact ⟨hs, not_not.1 hk⟩
  · rintro ⟨hs, hk⟩
    exact ⟨parts, hs, by rw [if_neg (not_not.2 hk)]⟩

/-- A text that is split in two, and its parts read. -/
theorem twoParts_ok {α : Type} {s d : Str} {f : Str → Str → Res α} {x : α} : (do
      let spl ← splitStringExpected s d 2
      let l ← index spl 0
      let r ← index spl 1
      f l r) = .ok x ↔ ∃ l r, splitString s d = .ok [l, r] ∧ f l r = .ok x := by
  constructor
  · intro h
    obtain ⟨spl, hspl, h⟩ := bind_ok h
    obtain ⟨l, r, rfl⟩ := List.length_eq_two.1 (splitStringExpected_length hspl)
    obtain ⟨parts, hparts, hlen⟩ := bind_ok hspl
    obtain ⟨-, hlen⟩ := ite_error_eq_ok.1 hlen
    cases hlen
    exact ⟨l, r, hparts, h⟩
  · rintro ⟨l, r, hparts, h⟩
    unfold splitStringExpected
    rw [hparts]
    exact h

theorem twoNats_ok {α : Type} {s d : Str} {f : Nat → Nat → Res α} {x : α} : (do
      let spl ← splitStringExpected s d 2
      let l ← index spl 0
      let r ← index spl 1
      let a ← parsePositiveInt64 l
      let b ← parsePositiveInt64 r
      f a b) = .ok x ↔
      ∃ l r a b, splitString s d = .ok [l, r] ∧ SpellsNat l a ∧ SpellsNat r b ∧ f a b = .ok x := by
  refine twoParts_ok.trans ?_
  constructor
  · rintro ⟨l, r, hparts, h⟩
    obtain ⟨a, ha, h⟩ := bind_ok h
    obtain ⟨b, hb, h⟩ := bind_ok h
    exact ⟨l, r, a, b, hparts, parsePositiveInt64_ok.1 ha, parsePositiveInt64_ok.1 hb, h⟩
  · rintro ⟨l, r, a, b, hparts, ha, hb, h⟩
    refine ⟨l, r, hparts, ?_⟩
    rw [parsePositiveInt64_ok.2 ha, ok_bind, parsePositiveInt64_ok.2 hb, ok_bind, h]

/-! ## Sets -/

/-- The pieces listed in a set, in the order of the list and without the blanks around them: none between
parentheses with nothing but blanks, else those between the commas. -/
def SpellsList (s : Str) (pieces : List Str) : Prop :=
  ∃ inside, s = "set(".toList ++ (inside ++ ")".toList) ∧
    (trim inside = [] ∧ pieces = [] ∨
      trim inside ≠ [] ∧ ∃ parts, Separates ',' inside parts ∧ pieces = parts.map trim)

theorem list_lt : OrdSet.StrictTotal (fun a b : Str => a < b) := OrdSet.strictTotal_lt

theorem encased_iff {s opening : Str} (ho : opening.getLast? ≠ some ')') :
    (!startsWith s opening || !endsWith s ")".toList) = false ↔
      ∃ inside, s = opening ++ (inside ++ ")".toList) := by
  simp only [startsWith, endsWith, Bool.or_eq_false_iff, Bool.not_eq_false', List.isPrefixOf_iff_prefix,
    List.isSuffixOf_iff_suffix]
  constructor
  · rintro ⟨⟨r, rfl⟩, hend⟩
    rcases List.eq_nil_or_concat r with rfl | ⟨inside, c, rfl⟩
    · obtain ⟨l, hl⟩ := hend
      have hlast := congrArg List.getLast? hl
      rw [List.append_nil] at hlast
      exact absurd (hlast.symm.trans List.getLast?_concat) ho
    · obtain ⟨l, hl⟩ := hend
      rw [List.concat_eq_append, ← List.append_assoc] at hl
      exact ⟨inside, by rw [List.concat_eq_append, (List.append_inj' hl rfl).2]⟩
  · rintro ⟨inside, rfl⟩
    exact ⟨⟨_, rfl⟩, ⟨opening ++ inside, by rw [List.append_assoc]⟩⟩

theorem inside_eq {opening : Str} {n m : Nat} (ho : opening.length = n) (hm : m = n + 1) (inside : Str) :
    ((opening ++ (inside ++ ")".toList)).drop n).take ((opening ++ (inside ++ ")".toList)).length - m) = inside := by
  have hlen : (opening ++ (inside ++ ")".toList)).length - m = inside.length := by
    simp only [List.length_append, ho, hm, show ")".toList.length = 1 from rfl]
    omega
  rw [hlen, ← ho, List.drop_left]
  exact List.take_left

theorem encased_inj {opening closing inside inside' : Str}
    (h : opening ++ (inside ++ closing) = opening ++ (inside' ++ closing)) : inside = inside' :=
  List.append_cancel_right (List.append_cancel_left h)

/-- `parse_set_string` accepts exactly the lists without a duplicate. -/
theorem parseSetString_ok {s : Str} {set : List Str} :
    parseSetString s = .ok set ↔ ∃ pieces, SpellsList s pieces ∧ pieces.Nodup ∧ set = OrdSet.ofList (· < ·) pieces := by
  unfold parseSetString
  by_cases henc : (!startsWith s "set(".toList || !endsWith s ")".toList) = true
  · rw [if_pos henc]
    simp only [reduceCtorEq, false_iff]
    rintro ⟨pieces, ⟨inside, hs, -⟩, -⟩
    rw [(encased_iff (by decide)).2 ⟨inside, hs⟩] at henc
    cases henc
  · obtain ⟨inside, rfl⟩ := (encased_iff (by decide)).1 (Bool.not_eq_true _ ▸ henc)
    rw [if_neg henc]
    simp only [inside_eq (show "set(".toList.length = 4 from rfl) (show 5 = 4 + 1 from rfl)]
    by_cases hblank : trim inside = []
    · rw [if_pos hblank]
      constructor
      · rintro ⟨⟩
        exact ⟨[], ⟨inside, rfl, .inl ⟨hblank, rfl⟩⟩, List.nodup_nil, rfl⟩
      · rintro ⟨pieces, ⟨inside', hs, h⟩, -, rfl⟩
        obtain rfl := encased_inj hs
        rcases h with ⟨-, rfl⟩ | ⟨hne, -⟩
        · rfl
        · exact absurd hblank hne
    · rw [if_neg hblank, show ",".toList = [','] from rfl, splitString_char, ok_bind]
      have hnodup := OrdSet.length_ofList_eq_iff list_lt ((inside.splitOn ',').map trim)
      rw [List.length_map] at hnodup
      constructor
      · intro h
        split at h
        · cases h
        · rename_i hlen
          cases h
          exact ⟨_, ⟨inside, rfl, .inr ⟨hblank, _, separates_iff.2 rfl, rfl⟩⟩, hnodup.1 (not_not.1 hlen).symm, rfl⟩
      · rintro ⟨pieces, ⟨inside', hs, h⟩, hn, rfl⟩
        obtain rfl := encased_inj hs
        rcases h with ⟨he, -⟩ | ⟨-, parts, hparts, rfl⟩
        · exact absurd he hblank
        · obtain rfl := separates_iff.1 hparts
          rw [if_neg (not_not.2 (hnodup.2 hn).symm)]

/-- The integers listed in a set, in the order of the list. -/
def SpellsNats (s : Str) (ids : List Nat) : Prop := ∃ pieces, SpellsList s pieces ∧ List.Forall₂ SpellsNat pieces ids

/-- `parse_set_positive_int64` accepts exactly the lists of integers without a duplicate, however spelled. -/
theorem parseSetPositiveInt64_ok {s : Str} {set : List Nat} :
    parseSetPositiveInt64 s = .ok set ↔ ∃ ids, SpellsNats s ids ∧ ids.Nodup ∧ set = OrdSet.ofList (· < ·) ids := by
  unfold parseSetPositiveInt64
  have hread : ∀ strings ints, forEach (fun set s => do
      let v ← parsePositiveInt64 s
      .ok (OrdSet.insert (· < ·) v set)) strings [] = .ok ints ↔
        ∃ vs, List.Forall₂ SpellsNat strings vs ∧ ints = OrdSet.ofList (· < ·) vs := by
    intro strings ints
    simp only [forEach_read parsePositiveInt64 (fun set v => OrdSet.insert (· < ·) v set), parsePositiveInt64_ok]
    rfl
  constructor
  · intro h
    obtain ⟨strings, hstrings, h⟩ := bind_ok h
    obtain ⟨ints, hints, h⟩ := bind_ok h
    obtain ⟨pieces, hpieces, hn, rfl⟩ := parseSetString_ok.1 hstrings
    obtain ⟨vs, hvs, rfl⟩ := (hread _ _).1 hints
    obtain ⟨ids, hids, hperm⟩ := List.perm_comp_forall₂ (OrdSet.ofList_perm_self list_lt hn).symm hvs
    split at h
    · cases h
    · rename_i hlen
      cases h
      rw [not_not, hvs.length_eq, eq_comm, OrdSet.length_ofList_eq_iff nat_lt] at hlen
      exact ⟨ids, ⟨pieces, hpieces, hids⟩, hperm.nodup_iff.2 hlen, OrdSet.ofList_perm nat_lt hperm.symm⟩
  · rintro ⟨ids, ⟨pieces, hpieces, hids⟩, hn, rfl⟩
    have hpn := OrdSet.nodup_of_forall₂ (r := SpellsNat) (fun _ _ _ => SpellsNat.unique) hids hn
    obtain ⟨vs, hvs, hperm⟩ := List.perm_comp_forall₂ (OrdSet.ofList_perm_self list_lt hpn) hids
    have hset := OrdSet.ofList_perm nat_lt hperm
    rw [parseSetString_ok.2 ⟨pieces, hpieces, hpn, rfl⟩, ok_bind, (hread _ _).2 ⟨vs, hvs, rfl⟩, ok_bind, if_neg, hset]
    rw [not_not, hvs.length_eq, eq_comm, OrdSet.length_ofList_eq_iff nat_lt]
    exact hperm.nodup_iff.2 hn

/-! ## Maps -/

/-- A key and a value with one colon between them, without the blanks around either. -/
def SpellsPair (part : Str) (p : Str × Str) : Prop := ∃ k v, Separates ':' part [k, v] ∧ p = (trim k, trim v)

/-- The pairs listed in a map, in the order of the list. -/
def SpellsMap (s : Str) (pairs : List (Str × Str)) : Prop :=
  ∃ inside, s = "map(".toList ++ (inside ++ ")".toList) ∧
    (trim inside = [] ∧ pairs = [] ∨
      trim inside ≠ [] ∧ ∃ parts, Separates ',' inside parts ∧ List.Forall₂ SpellsPair parts pairs)

theorem addPair_ok {st st' : List (Str × Str) × List Str} {s : Str} :
    addPair st s = .ok st' ↔ ∃ p, SpellsPair s p ∧
      (st.1 ++ [p]).length = (OrdSet.insert (· < ·) p.1 st.2).length ∧
      st' = (st.1 ++ [p], OrdSet.insert (· < ·) p.1 st.2) := by
  unfold addPair
  refine twoParts_ok.trans ?_
  constructor
  · rintro ⟨k, v, hsplit, h⟩
    simp only [ite_error_eq_ok, ne_eq, not_not, Except.ok.injEq] at h
    obtain ⟨hsize, rfl⟩ := h
    exact ⟨_, ⟨k, v, splitString_ok.1 hsplit, rfl⟩, hsize, rfl⟩
  · rintro ⟨_, ⟨k, v, hsep, rfl⟩, hsize, rfl⟩
    exact ⟨k, v, splitString_ok.2 hsep, if_neg (not_not.2 hsize)⟩

/-- The loop of `parse_map_string` ends exactly if every part is a pair and no key is there twice. -/
theorem forEach_addPair {parts : List Str} {done : List (Str × Str)} (hdone : (done.map Prod.fst).Nodup)
    {st' : List (Str × Str) × List Str} :
    forEach addPair parts (done, OrdSet.ofList (· < ·) (done.map Prod.fst)) = .ok st' ↔
      ∃ pairs, List.Forall₂ SpellsPair parts pairs ∧ ((done ++ pairs).map Prod.fst).Nodup ∧
        st' = (done ++ pairs, OrdSet.ofList (· < ·) ((done ++ pairs).map Prod.fst)) := by
  induction parts generalizing done with
  | nil => simp [forEach, eq_comm, hdone]
  | cons part parts ih =>
    unfold forEach
    simp only [bind_eq_ok, addPair_ok, List.forall₂_cons_left_iff]
    have hset : ∀ p : Str × Str, OrdSet.insert (· < ·) p.1 (OrdSet.ofList (· < ·) (done.map Prod.fst)) =
        OrdSet.ofList (· < ·) ((done ++ [p]).map Prod.fst) := fun p => by
      rw [List.map_append, List.map_singleton, OrdSet.ofList_concat]
    have hnodup : ∀ p : Str × Str, (done ++ [p]).length = (OrdSet.ofList (· < ·) ((done ++ [p]).map Prod.fst)).length ↔
        ((done ++ [p]).map Prod.fst).Nodup := fun p => by
      rw [← OrdSet.length_ofList_eq_iff list_lt, List.length_map, eq_comm]
    simp only [hset, hnodup]
    constructor
    · rintro ⟨_, ⟨p, hp, hn, rfl⟩, h⟩
      obtain ⟨pairs, hpairs, hall, rfl⟩ := (ih hn).1 h
      rw [List.append_assoc] at hall
      exact ⟨p :: pairs, ⟨p, pairs, hp, hpairs, rfl⟩, hall, by rw [List.append_assoc]; rfl⟩
    · rintro ⟨_, ⟨p, pairs, hp, hpairs, rfl⟩, hall, hst⟩
      rw [List.append_cons] at hall hst
      have hn : ((done ++ [p]).map Prod.fst).Nodup := by
        rw [List.map_append] at hall
        exact hall.of_append_left
      exact ⟨_, ⟨p, hp, hn, rfl⟩, (ih hn).2 ⟨pairs, hpairs, hall, hst⟩⟩

/-- `parse_map_string` accepts exactly the maps without a duplicate key. -/
theorem parseMapString_ok {s : Str} {pairs : List (Str × Str)} :
    parseMapString s = .ok pairs ↔ SpellsMap s pairs ∧ (pairs.map Prod.fst).Nodup := by
  have ho : ("map(".toList).getLast? ≠ some ')' := by decide
  unfold parseMapString
  by_cases henc : (!startsWith s "map(".toList || !endsWith s ")".toList) = true
  · rw [if_pos henc]
    simp only [reduceCtorEq, false_iff]
    rintro ⟨⟨inside, hs, -⟩, -⟩
    rw [(encased_iff ho).2 ⟨inside, hs⟩] at henc
    cases henc
  · obtain ⟨inside, rfl⟩ := (encased_iff ho).1 (Bool.not_eq_true _ ▸ henc)
    rw [if_neg henc]
    simp only [inside_eq (show "map(".toList.length = 4 from rfl) (show 5 = 4 + 1 from rfl)]
    by_cases hblank : trim inside = []
    · rw [if_pos hblank]
      constructor
      · rintro ⟨⟩
        exact ⟨⟨inside, rfl, .inl ⟨hblank, rfl⟩⟩, List.nodup_nil⟩
      · rintro ⟨⟨inside', hs, h⟩, -⟩
        obtain rfl := encased_inj hs
        rcases h with ⟨-, rfl⟩ | ⟨hne, -⟩
        · rfl
        · exact absurd hblank hne
    · rw [if_neg hblank, show ",".toList = [','] from rfl, splitString_char, ok_bind]
      have hloop := @forEach_addPair (inside.splitOn ',') [] List.nodup_nil
      constructor
      · intro h
        obtain ⟨⟨result, keySet⟩, hrun, h⟩ := bind_ok h
        cases h
        obtain ⟨pairs', hpairs, hn, heq⟩ := hloop.1 hrun
        cases heq
        exact ⟨⟨inside, rfl, .inr ⟨hblank, _, separates_iff.2 rfl, hpairs⟩⟩, hn⟩
      · rintro ⟨⟨inside', hs, h⟩, hn⟩
        obtain rfl := encased_inj hs
        rcases h with ⟨he, -⟩ | ⟨-, parts, hparts, hpairs⟩
        · exact absurd he hblank
        · obtain rfl := separates_iff.1 hparts
          have hrun := hloop.2 ⟨pairs, hpairs, hn, rfl⟩
          rw [show (([], []) : List (Str × Str) × List Str) = ([], OrdSet.ofList (· < ·) ([].map Prod.fst)) from rfl, hrun]
          rfl

/-! ## Delimiters of more than one character -/

/-- What is found is there. -/
theorem find_some {d : Str} : ∀ {s : Str} {i : Nat}, find d s = some i → ∃ l r, s = l ++ (d ++ r) ∧ l.length = i
  | [], i, h => by
    unfold find at h
    split at h
    · rename_i hd
      cases h
      exact ⟨[], [], by simpa using hd, rfl⟩
    · cases h
  | c :: s, i, h => by
    unfold find at h
    split at h
    · rename_i hd
      cases h
      obtain ⟨r, hr⟩ := List.isPrefixOf_iff_prefix.1 hd
      exact ⟨[], r, hr.symm, rfl⟩
    · rw [Option.map_eq_some_iff] at h
      obtain ⟨k, hk, rfl⟩ := h
      obtain ⟨l, r, rfl, rfl⟩ := find_some hk
      exact ⟨c :: l, r, rfl, rfl⟩

section TwoCharacters

variable {c d : Char}

theorem find_two_none : ∀ {s : Str}, d ∉ s → find [c, d] s = none
  | [], _ => rfl
  | x :: s, h => by
    rw [List.mem_cons, not_or] at h
    have hno : ([c, d].isPrefixOf (x :: s)) = false := by
      cases s with
      | nil => simp [List.isPrefixOf]
      | cons y s =>
        have hy := h.2
        rw [List.mem_cons, not_or] at hy
        simp [List.isPrefixOf, hy.1]
    unfold find
    rw [if_neg (by rw [hno]; exact Bool.false_ne_true), find_two_none h.2]
    rfl

theorem find_two (hcd : c ≠ d) {r : Str} : ∀ {l : Str}, d ∉ l → find [c, d] (l ++ c :: d :: r) = some l.length
  | [], _ => by simp [find]
  | x :: l, h => by
    rw [List.mem_cons, not_or] at h
    have hno : ([c, d].isPrefixOf (x :: (l ++ c :: d :: r))) = false := by
      cases l with
      | nil => simp [List.isPrefixOf, hcd.symm]
      | cons y l =>
        have hy := h.2
        rw [List.mem_cons, not_or] at hy
        simp [List.isPrefixOf, hy.1]
    rw [List.cons_append]
    unfold find
    rw [if_neg (by rw [hno]; exact Bool.false_ne_true), find_two hcd h.2]
    rfl

/-- A string with the delimiter once, and its second character nowhere else, is split there. -/
theorem splitString_two (hcd : c ≠ d) {l r : Str} (hl : d ∉ l) (hr : d ∉ r) :
    splitString (l ++ c :: d :: r) [c, d] = .ok [l, r] := by
  have hdrop : (l ++ c :: d :: r).drop (l.length + [c, d].length) = r := by
    rw [← List.drop_drop, List.drop_left]
    rfl
  unfold splitString
  rw [List.length_append, List.length_cons, List.length_cons]
  simp only [splitLoop, find_two hcd hl, hdrop, find_two_none hr, List.take_left, Option.map_some]

end TwoCharacters

theorem splitLoop_singleton {d r : Str} : ∀ {fuel : Nat} {s : Str}, splitLoop d fuel s = some [r] → r = s
  | 0, _, h => by cases h
  | fuel + 1, s, h => by
    unfold splitLoop at h
    split at h
    · cases h
      rfl
    · rename_i idx _
      obtain ⟨rest, hrest, h⟩ := Option.map_eq_some_iff.1 h
      cases h
      cases fuel with
      | zero => cases hrest
      | succ fuel =>
        unfold splitLoop at hrest
        split at hrest
        · cases hrest
        · obtain ⟨_, -, hrest⟩ := Option.map_eq_some_iff.1 hrest
          cases hrest

/-- The two parts of a string that is split in two, with the delimiter between them. -/
theorem splitString_pair {s d l r : Str} (h : splitString s d = .ok [l, r]) : s = l ++ (d ++ r) := by
  unfold splitString at h
  cases hloop : splitLoop d (s.length + 1) s with
  | none =>
    rw [hloop] at h
    cases h
  | some parts =>
    rw [hloop] at h
    cases h
    unfold splitLoop at hloop
    cases hf : find d s with
    | none =>
      rw [hf] at hloop
      cases hloop
    | some i =>
      rw [hf] at hloop
      obtain ⟨rest, hrest, hparts⟩ := Option.map_eq_some_iff.1 hloop
      cases hparts
      obtain ⟨l, r', rfl, rfl⟩ := find_some hf
      have hr := splitLoop_singleton hrest
      rw [← List.drop_drop, List.drop_left, List.drop_left] at hr
      rw [List.take_left, hr]

/-- The loop has rounds enough. -/
theorem splitLoop_ne_none {d : Str} (hd : d ≠ []) : ∀ (fuel : Nat) (s : Str), s.length < fuel →
    splitLoop d fuel s ≠ none
  | 0, _, h => absurd h (Nat.not_lt_zero _)
  | fuel + 1, s, h => by
    unfold splitLoop
    cases hf : find d s with
    | none => simp
    | some i =>
      obtain ⟨l, r, rfl, rfl⟩ := find_some hf
      have hpos := List.length_pos_iff.2 hd
      rw [List.length_append, List.length_append] at h
      simp only [ne_eq, Option.map_eq_none_iff]
      apply splitLoop_ne_none hd fuel
      rw [List.length_drop, List.length_append, List.length_append]
      omega

theorem defined_splitString (s : Str) {d : Str} (hd : d ≠ []) : Defined (splitString s d) := by
  unfold splitString
  cases h : splitLoop d (s.length + 1) s with
  | none => exact absurd h (splitLoop_ne_none hd _ _ (Nat.lt_succ_self _))
  | some l => exact defined_ok l

theorem defined_splitStringExpected (s : Str) {d : Str} (hd : d ≠ []) (k : Nat) :
    Defined (splitStringExpected s d k) := by
  apply (defined_splitString s hd).bind
  intro l _
  split
  · exact defined_error rfl
  · exact defined_ok l

/-! ## What the parsers throw -/

theorem defined_parseInt64 (s : Str) : Defined (parseInt64 s) := by
  unfold parseInt64 stoll
  generalize signOf (leftTrim s) = p
  obtain ⟨negative, body⟩ := p
  simp only
  by_cases hds : body.takeWhile Char.isDigit = []
  · rw [if_pos hds]
    exact defined_error rfl
  · rw [if_neg hds]
    generalize (if negative = true then -(decimal (body.takeWhile Char.isDigit) : Int)
      else decimal (body.takeWhile Char.isDigit)) = val
    by_cases hr : val < -2 ^ 63 ∨ 2 ^ 63 ≤ val
    · rw [if_pos hr]
      exact defined_error rfl
    · rw [if_neg hr]
      simp only
      split
      · exact defined_error rfl
      · exact defined_ok val

theorem defined_parsePositiveInt64 (s : Str) : Defined (parsePositiveInt64 s) := by
  apply (defined_parseInt64 s).bind
  intro v _
  split
  · exact defined_error rfl
  · exact defined_ok _

/-- The two parts of a split into two are there. -/
theorem defined_twoParts {α : Type} {s d : Str} (hd : d ≠ []) {f : Str → Str → Res α} (hf : ∀ l r, Defined (f l r)) :
    Defined (do
      let spl ← splitStringExpected s d 2
      let l ← index spl 0
      let r ← index spl 1
      f l r) := by
  apply (defined_splitStringExpected s hd 2).bind
  intro spl hspl
  obtain ⟨l, r, rfl⟩ := List.length_eq_two.1 (splitStringExpected_length hspl)
  exact hf l r

theorem defined_parseMapString (s : Str) : Defined (parseMapString s) := by
  unfold parseMapString
  split
  · exact defined_error rfl
  · simp only
    split
    · exact defined_ok []
    · apply (defined_splitString _ (by decide)).bind
      intro parts _
      apply Defined.bind
      · apply defined_forEach
        intro part _ st
        apply defined_twoParts (by decide)
        intro l r
        simp only
        split
        · exact defined_error rfl
        · exact defined_ok _
      · intro st _
        exact defined_ok _

end SatNet.ExpUtil
