/-
What the scripts use of Python to read a text file: its lines, `str.strip`, `str.split` and `int`, on ASCII text. In
text mode a carriage return also ends a line; for `getline` it is a blank like others. Otherwise the two languages see
the same lines, and every string that `parse_int64` accepts is the same number to `int`, up to its limit on digits.
-/
import SatNet.Base.Spelling

namespace SatNet.Python

open SatNet.Loop SatNet.ExpUtil

inductive Error where
  | valueError
  deriving Repr, DecidableEq

/-! ## Strings -/

/-- `c.isspace()`: the blanks of C and the four separators. -/
def isSpace (c : Char) : Bool := isBlank c || (28 ≤ c.toNat && c.toNat ≤ 31)

def strip (s : Str) : Str := (s.rdropWhile isSpace).dropWhile isSpace

/-- `s.split(sep)`, for a separator of one character. -/
def split (s : Str) (sep : Char) : List Str := s.splitOn sep

/-- `int(s)`: blanks, a sign, and digits that single underscores may separate, but no more digits than the
interpreter converts; it has no limit if that is 0. -/
def int (maxStrDigits : Nat) (s : Str) : Except Error Int :=
  let (negative, body) := signOf (trim s)
  let groups := body.splitOn '_'
  if groups.any fun g => g.isEmpty || !g.all Char.isDigit then .error .valueError
  else if maxStrDigits ≠ 0 ∧ maxStrDigits < groups.flatten.length then .error .valueError
  else .ok (if negative then -(decimal groups.flatten : Int) else decimal groups.flatten)

theorem isSpace_of_isBlank {c : Char} (h : isBlank c = true) : isSpace c = true := by
  simp [isSpace, h]

theorem isDigit_not_space {c : Char} (h : c.isDigit = true) : isSpace c = false := by
  have hb := (isDigit_not_blank h).1
  simp only [Char.isDigit, Bool.and_eq_true, decide_eq_true_eq] at h
  have h48 : 48 ≤ c.toNat := h.1
  simp only [isSpace, hb, Bool.false_or, Bool.and_eq_false_iff, decide_eq_false_iff_not]
  omega

section Strip

variable {p : Char → Bool}

theorem rdropWhile_append_cons {c : Char} (hc : p c = false) (l r : Str) :
    (l ++ c :: r).rdropWhile p = l ++ c :: r.rdropWhile p := by
  induction r using List.reverseRecOn with
  | nil => rw [List.rdropWhile_concat_neg _ _ _ (by simp [hc]), List.rdropWhile_nil]
  | append_singleton r d ih =>
    rw [← List.cons_append, ← List.append_assoc]
    by_cases hd : p d = true
    · rw [List.rdropWhile_concat_pos _ _ _ hd, List.rdropWhile_concat_pos _ _ _ hd, ih]
    · rw [List.rdropWhile_concat_neg _ _ _ hd, List.rdropWhile_concat_neg _ _ _ hd, List.append_assoc, List.cons_append]

theorem dropWhile_append_cons {c : Char} (hc : p c = false) (l r : Str) :
    (l ++ c :: r).dropWhile p = l.dropWhile p ++ c :: r := by
  induction l with
  | nil => simp [hc]
  | cons d l ih =>
    by_cases hd : p d = true
    · simpa [hd] using ih
    · simp [hd]

end Strip

/-- A string that starts with two parts and their separators: `strip` changes only the first one, and the rest. -/
theorem strip_parts {c : Char} (hc : isSpace c = false) (f g r : Str) :
    strip (f ++ c :: (g ++ c :: r)) = f.dropWhile isSpace ++ c :: (g ++ c :: r.rdropWhile isSpace) := by
  unfold strip
  rw [rdropWhile_append_cons hc, rdropWhile_append_cons hc, dropWhile_append_cons hc]

theorem mem_of_mem_strip {c : Char} {s : Str} (h : c ∈ strip s) : c ∈ s :=
  (List.rdropWhile_prefix _ _).subset ((List.dropWhile_suffix _).subset h)

theorem count_strip {c : Char} (hc : isSpace c = false) (s : Str) : (strip s).count c = s.count c := by
  have hleft : ∀ t : Str, (t.dropWhile isSpace).count c = t.count c := by
    intro t
    induction t with
    | nil => rfl
    | cons d t ih =>
      by_cases hd : isSpace d = true
      · have hne : d ≠ c := by
          rintro rfl
          rw [hc] at hd
          cases hd
        rw [List.dropWhile_cons_of_pos hd, ih, List.count_cons_of_ne hne]
      · rw [List.dropWhile_cons_of_neg hd]
  unfold strip List.rdropWhile
  rw [hleft, List.count_reverse, hleft, List.count_reverse]

theorem length_split {c : Char} (s : Str) : (split s c).length = s.count c + 1 := by
  unfold split
  induction s with
  | nil => rfl
  | cons d s ih =>
    rw [List.splitOn_cons_eq_if_modifyHead, List.count_cons]
    by_cases hd : (d == c) = true
    · rw [if_pos hd, if_pos hd, List.length_cons, ih]
    · rw [if_neg hd, if_neg hd, List.length_modifyHead, ih, Nat.add_zero]

/-! ## Integers -/

section Int

variable {blanks sign digits : Str} {maxStrDigits : Nat}

theorem trim_spelled (hb : ∀ c ∈ blanks, isBlank c = true) (hs : sign = [] ∨ sign = ['+'] ∨ sign = ['-'])
    (hne : digits ≠ [])
    (hd : ∀ c ∈ digits, c.isDigit = true) : trim (blanks ++ (sign ++ digits)) = sign ++ digits := by
  have hright : rightTrim (blanks ++ (sign ++ digits)) = blanks ++ (sign ++ digits) := by
    unfold rightTrim
    rw [List.rdropWhile_eq_self_iff]
    intro hl
    rw [List.getLast_append_of_right_ne_nil _ _ (by simp [hne]), List.getLast_append_of_right_ne_nil _ _ hne]
    simp [(isDigit_not_blank (hd _ (List.getLast_mem hne))).1]
  unfold trim
  rw [hright, leftTrim_append hb hs hne hd]

theorem int_spelled (hb : ∀ c ∈ blanks, isBlank c = true) (hs : sign = [] ∨ sign = ['+'] ∨ sign = ['-'])
    (hne : digits ≠ [])
    (hd : ∀ c ∈ digits, c.isDigit = true) : int maxStrDigits (blanks ++ (sign ++ digits)) =
      if maxStrDigits ≠ 0 ∧ maxStrDigits < digits.length then .error .valueError
      else .ok (if sign = ['-'] then -(decimal digits : Int) else decimal digits) := by
  have hgroups : digits.splitOn '_' = [digits] := List.splitOn_eq_singleton fun hm => absurd (hd _ hm) (by decide)
  have hall : digits.all Char.isDigit = true := List.all_eq_true.2 hd
  unfold int
  rw [trim_spelled hb hs hne hd, signOf_sign hs hd]
  simp [hgroups, hall, hne]

/-- The blanks in front make no difference. -/
theorem dropWhile_spelled (hb : ∀ c ∈ blanks, isBlank c = true) (hs : sign = [] ∨ sign = ['+'] ∨ sign = ['-'])
    (hne : digits ≠ []) (hd : ∀ c ∈ digits, c.isDigit = true) :
    (blanks ++ (sign ++ digits)).dropWhile isSpace = sign ++ digits := by
  rw [List.dropWhile_append_of_pos fun c hc => isSpace_of_isBlank (hb c hc)]
  obtain ⟨d, rest, rfl⟩ := List.exists_cons_of_ne_nil hne
  have hfirst := isDigit_not_space (hd d (List.mem_cons_self ..))
  rcases hs with rfl | rfl | rfl
  · simp [hfirst]
  · rfl
  · rfl

theorem filter_spelled (hb : ∀ c ∈ blanks, isBlank c = true) (hs : sign = [] ∨ sign = ['+'] ∨ sign = ['-'])
    (hd : ∀ c ∈ digits, c.isDigit = true) : (blanks ++ (sign ++ digits)).filter Char.isDigit = digits := by
  have hblanks : blanks.filter Char.isDigit = [] := List.filter_eq_nil_iff.2 fun c hc hdigit => by
    exact absurd (hb c hc) (by simp [(isDigit_not_blank hdigit).1])
  have hsign : sign.filter Char.isDigit = [] := by rcases hs with rfl | rfl | rfl <;> rfl
  rw [List.filter_append, List.filter_append, hblanks, hsign, List.filter_eq_self.2 hd]
  rfl

/-- Of what `parse_int64` accepts, `int` makes the same number unless it has too many digits, with or without the blanks
in front. -/
theorem int_parseInt64 {s : Str} {v : Int} (h : parseInt64 s = .ok v) :
    int maxStrDigits s = (if maxStrDigits ≠ 0 ∧ maxStrDigits < (s.filter Char.isDigit).length then .error .valueError else .ok v) ∧
      int maxStrDigits (s.dropWhile isSpace) = int maxStrDigits s := by
  obtain ⟨blanks, sign, digits, rfl, hb, hs, hne, hd, hv⟩ := parseInt64_spelled h
  rw [dropWhile_spelled hb hs hne hd, int_spelled hb hs hne hd, filter_spelled hb hs hd, ← hv]
  refine ⟨rfl, ?_⟩
  have hnone := @int_spelled [] sign digits maxStrDigits nofun hs hne hd
  rw [List.nil_append, ← hv] at hnone
  exact hnone

/-- Only blanks stand before a carriage return. -/
theorem parseInt64_return {x r : Str} {v : Int} (h : parseInt64 (x ++ '\r' :: r) = .ok v) :
    ∀ c ∈ x, isBlank c = true := by
  obtain ⟨blanks, sign, digits, heq, hb, hs, -, hd, -⟩ := parseInt64_spelled h
  rcases List.append_eq_append_iff.1 heq with ⟨rest, rfl, -⟩ | ⟨rest, -, hrest⟩
  · exact fun c hc => hb c (List.mem_append_left _ hc)
  · have hm : '\r' ∈ sign ++ digits := by simp [hrest]
    rcases List.mem_append.1 hm with hm | hm
    · rcases hs with rfl | rfl | rfl <;> simp at hm
    · exact absurd (hd _ hm) (by simp)

theorem int_blanks (hb : ∀ c ∈ blanks, isBlank c = true) : int maxStrDigits blanks = .error .valueError := by
  have htrim : trim blanks = [] := by
    unfold trim rightTrim
    rw [List.rdropWhile_eq_nil_iff.2 hb]
    rfl
  unfold int
  rw [htrim]
  rfl

end Int

/-! ## Lines -/

/-- A character in front of the first of the lines. -/
def consLine (c : Char) : List Str → List Str
  | [] => [[c]]
  | line :: lines => (c :: line) :: lines

/-- The lines that `getline` of C++ finds in a text; the last one may lack its end. -/
def getlines : Str → List Str
  | [] => []
  | c :: s => if c = '\n' then [] :: getlines s else consLine c (getlines s)

/-- A text as it is read in text mode: every kind of end of line is one `\n`. -/
def universalNewlines : Str → Str
  | [] => []
  | '\r' :: '\n' :: s => '\n' :: universalNewlines s
  | '\r' :: s => '\n' :: universalNewlines s
  | c :: s => c :: universalNewlines s

/-- A text cut behind each `\n`. -/
def keepEnds : Str → List Str
  | [] => []
  | c :: s => if c = '\n' then [c] :: keepEnds s else consLine c (keepEnds s)

/-- `for line in f`. -/
def fileLines (text : Str) : List Str := keepEnds (universalNewlines text)

/-- A line with or without its end. -/
def SameLine (line l : Str) : Prop := line = l ∨ line = l ++ ['\n']

theorem SameLine.strip {line l : Str} (h : SameLine line l) : strip line = strip l := by
  rcases h with rfl | rfl
  · rfl
  · unfold Python.strip
    rw [List.rdropWhile_concat_pos _ _ _ (by decide)]

theorem forall₂_consLine {lines ls : List Str} (c : Char) (h : List.Forall₂ SameLine lines ls) :
    List.Forall₂ SameLine (consLine c lines) (consLine c ls) := by
  cases h with
  | nil => exact .cons (.inl rfl) .nil
  | cons hline hrest =>
    refine .cons ?_ hrest
    rcases hline with rfl | rfl
    · exact .inl rfl
    · exact .inr rfl

/-- A character other than the separator goes to the first piece of the first line. -/
theorem flatMap_consLine {c d : Char} (hc : c ≠ d) : ∀ ls : List Str,
    (consLine c ls).flatMap (·.splitOn d) = consLine c (ls.flatMap (·.splitOn d))
  | [] => by simp [consLine, List.splitOn_cons_eq_if_modifyHead, hc]
  | l :: ls => by
    cases hsp : l.splitOn d with
    | nil => exact absurd hsp (List.splitOn_ne_nil _ _)
    | cons first rest => simp [consLine, List.splitOn_cons_eq_if_modifyHead, hc, hsp]

theorem getlines_cons {c : Char} (hc : c ≠ '\n') (s : Str) : getlines (c :: s) = consLine c (getlines s) := by
  rw [getlines, if_neg hc]

/-- If the lines of `consLine` do not end with a carriage return, neither did those before. -/
theorem noReturn_of_consLine {c : Char} {ls : List Str} (h : ∀ l ∈ consLine c ls, l.getLast? ≠ some '\r') :
    ∀ l ∈ ls, l.getLast? ≠ some '\r' := by
  cases ls with
  | nil => simp
  | cons first rest =>
    intro l hl
    rcases List.mem_cons.1 hl with rfl | hl
    · cases l with
      | nil => simp
      | cons d l =>
        have hlast := h (c :: d :: l) (List.mem_cons_self ..)
        rwa [List.getLast?_cons_cons] at hlast
    · exact h l (List.mem_cons_of_mem _ hl)

/-- The lines of a file in text mode: those of `getline`, cut at each carriage return, if none is at their end. -/
theorem fileLines_sameLine {text : Str} (h : ∀ l ∈ getlines text, l.getLast? ≠ some '\r') :
    List.Forall₂ SameLine (fileLines text) ((getlines text).flatMap (·.splitOn '\r')) := by
  unfold fileLines
  induction text using universalNewlines.induct with
  | case1 => exact .nil
  | case2 s ih => exact absurd rfl (h ['\r'] (by simp [getlines, consLine]))
  | case3 s hs ih =>
    rw [getlines_cons (by decide)] at h ⊢
    have ih := ih (noReturn_of_consLine h)
    have hu : universalNewlines ('\r' :: s) = '\n' :: universalNewlines s := by
      rw [universalNewlines]
      exact hs
    rw [hu, keepEnds, if_pos rfl]
    cases hls : getlines s with
    | nil =>
      rw [hls] at h
      exact absurd rfl (h ['\r'] (by simp [consLine]))
    | cons l ls =>
      rw [hls] at ih
      rw [consLine, List.flatMap_cons, List.splitOn_cons_eq_if_modifyHead, if_pos (by decide)]
      exact .cons (.inr rfl) ih
  | case4 c s hcrlf hcr ih =>
    have hu : universalNewlines (c :: s) = c :: universalNewlines s := by
      rw [universalNewlines]
      · exact hcrlf
      · exact hcr
    rw [hu, keepEnds]
    by_cases hc : c = '\n'
    · subst hc
      rw [getlines, if_pos rfl] at h ⊢
      rw [if_pos rfl, List.flatMap_cons, List.splitOn_nil]
      exact .cons (.inr rfl) (ih fun l hl => h l (List.mem_cons_of_mem _ hl))
    · rw [getlines_cons hc] at h ⊢
      rw [if_neg hc, flatMap_consLine (fun he => hcr he)]
      exact forall₂_consLine c (ih (noReturn_of_consLine h))

theorem return_not_mem_universalNewlines (s : Str) : '\r' ∉ universalNewlines s := by
  induction s using universalNewlines.induct with
  | case1 => exact List.not_mem_nil
  | case2 s ih => simpa [universalNewlines] using ih
  | case3 s hs ih =>
    rw [universalNewlines]
    · simpa using ih
    · exact hs
  | case4 c s hcrlf hcr ih =>
    rw [universalNewlines]
    · rw [List.mem_cons, not_or]
      exact ⟨fun h => hcr h.symm, ih⟩
    · exact hcrlf
    · exact hcr

/-- Of the ends of lines a cut text has the last character of a line at most. -/
theorem keepEnds_sameLine (s : Str) : ∀ l ∈ keepEnds s, (∀ c ∈ l, c ∈ s) ∧ ∃ body, SameLine l body ∧ '\n' ∉ body := by
  induction s with
  | nil => exact nofun
  | cons c s ih =>
    rw [keepEnds]
    split
    · rename_i hc
      refine List.forall_mem_cons.2 ⟨⟨by simp, [], .inr (by simp [hc]), by simp⟩, fun l hl => ?_⟩
      exact ⟨fun d hd => List.mem_cons_of_mem _ ((ih l hl).1 d hd), (ih l hl).2⟩
    · rename_i hc
      cases hs : keepEnds s with
      | nil => simpa [consLine] using ⟨[c], .inl rfl, by simpa using Ne.symm hc⟩
      | cons first rest =>
        rw [hs] at ih
        obtain ⟨⟨hsub, body, hsame, hbody⟩, hrest⟩ := List.forall_mem_cons.1 ih
        refine List.forall_mem_cons.2 ⟨⟨?_, c :: body, ?_, by simp [Ne.symm hc, hbody]⟩, fun l hl => ?_⟩
        · exact List.forall_mem_cons.2 ⟨List.mem_cons_self .., fun d hd => List.mem_cons_of_mem _ (hsub d hd)⟩
        · rcases hsame with rfl | rfl
          · exact .inl rfl
          · exact .inr rfl
        · exact ⟨fun d hd => List.mem_cons_of_mem _ ((hrest l hl).1 d hd), (hrest l hl).2⟩

/-! ## Formatting -/

/-- `"%d" % n` of a number that is not negative. -/
def formatD (n : Nat) : Str := Nat.toDigits 10 n

/-- `"%05d" % n`. -/
def format05d (n : Nat) : Str := (formatD n).leftpad 5 '0'

/-- `s[i:-1]`. -/
def sliceButLast (s : Str) (i : Nat) : Str := s.dropLast.drop i

/-- `"\n".join(lines) + "\n"`. -/
def joinLines (lines : List Str) : Str := ['\n'].intercalate lines ++ ['\n']

/-- A character at which `str.splitlines` cuts. -/
def isLineBreak (c : Char) : Bool := (10 ≤ c.toNat && c.toNat ≤ 13) || (28 ≤ c.toNat && c.toNat ≤ 30)

/-- `s.splitlines()`. -/
def splitlines : Str → List Str
  | [] => []
  | '\r' :: '\n' :: s => [] :: splitlines s
  | c :: s => if isLineBreak c then [] :: splitlines s else consLine c (splitlines s)

/-- Text within a line. -/
def Unbroken (s : Str) : Prop := ∀ c ∈ s, isLineBreak c = false

theorem Unbroken.append {s t : Str} (hs : Unbroken s) (ht : Unbroken t) : Unbroken (s ++ t) :=
  fun c hc => (List.mem_append.1 hc).elim (hs c) (ht c)

theorem Unbroken.slice {s : Str} (hs : Unbroken s) (i : Nat) : Unbroken (sliceButLast s i) :=
  fun c hc => hs c (List.dropLast_subset _ (List.mem_of_mem_drop hc))

theorem isDigit_not_lineBreak {c : Char} (h : c.isDigit = true) : isLineBreak c = false := by
  simp only [Char.isDigit, Bool.and_eq_true, decide_eq_true_eq] at h
  have h48 : 48 ≤ c.toNat := h.1
  simp only [isLineBreak, Bool.or_eq_false_iff, Bool.and_eq_false_iff, decide_eq_false_iff_not]
  omega

theorem unbroken_formatD (n : Nat) : Unbroken (formatD n) :=
  fun _ hc => isDigit_not_lineBreak (Nat.isDigit_of_mem_toDigits (by decide) (by decide) hc)

theorem not_mem_formatD {c : Char} (hc : c.isDigit = false) (n : Nat) : c ∉ formatD n := fun h => by
  rw [Nat.isDigit_of_mem_toDigits (by decide) (by decide) h] at hc
  cases hc

/-- What is written of a number is read as that number. -/
theorem parsePositiveInt64_formatD {n : Nat} (h : n < 2 ^ 63) : parsePositiveInt64 (formatD n) = .ok n :=
  parsePositiveInt64_ok.2 ⟨[], [], formatD n, rfl, nofun, .inl rfl, List.ne_nil_of_length_pos Nat.length_toDigits_pos,
    fun _ hc => Nat.isDigit_of_mem_toDigits (by decide) (by decide) hc, Nat.ofDigitChars_toDigits (by decide) (by decide), h⟩

/-- A number as `str` writes it, and `PRId64`. -/
def formatInt : Int → Str
  | .ofNat n => formatD n
  | .negSucc n => '-' :: formatD (n + 1)

theorem parseInt64_formatInt {x : Int} (h₁ : -2 ^ 63 ≤ x) (h₂ : x < 2 ^ 63) : parseInt64 (formatInt x) = .ok x := by
  have hread : ∀ {sign : Str} {n : Nat}, (sign = [] ∨ sign = ['+'] ∨ sign = ['-']) →
      x = (if sign = ['-'] then -(n : Int) else n) → parseInt64 ([] ++ (sign ++ formatD n)) = .ok x := by
    intro sign n hs hx
    have hne : formatD n ≠ [] := List.ne_nil_of_length_pos Nat.length_toDigits_pos
    have hd : ∀ c ∈ formatD n, c.isDigit = true := fun _ hc => Nat.isDigit_of_mem_toDigits (by decide) (by decide) hc
    have hdecimal : decimal (formatD n) = n := Nat.ofDigitChars_toDigits (by decide) (by decide)
    have hb : ∀ c ∈ ([] : Str), isBlank c = true := nofun
    rw [parseInt64_eq, leftTrim_append hb hs hne hd, signOf_sign hs hd]
    refine ⟨hne, hd, ?_, h₁, h₂⟩
    simpa [hdecimal] using hx
  cases x with
  | ofNat n => exact hread (.inl rfl) rfl
  | negSucc n => exact hread (.inr (.inr rfl)) (Int.negSucc_eq n)

theorem not_mem_formatInt {c : Char} (hc : c.isDigit = false) (hminus : c ≠ '-') : ∀ x : Int, c ∉ formatInt x
  | .ofNat n => not_mem_formatD hc n
  | .negSucc n => by
    rw [formatInt, List.mem_cons, not_or]
    exact ⟨hminus, not_mem_formatD hc _⟩

theorem unbroken_format05d (n : Nat) : Unbroken (format05d n) := by
  unfold format05d List.leftpad
  refine Unbroken.append (fun c hc => ?_) (unbroken_formatD n)
  rw [List.eq_of_mem_replicate hc]
  rfl

theorem unbroken_consLine {c : Char} (hc : isLineBreak c = false) {ls : List Str} (h : ∀ l ∈ ls, Unbroken l) :
    ∀ l ∈ consLine c ls, Unbroken l := by
  cases ls with
  | nil => simpa [consLine, Unbroken] using hc
  | cons first rest =>
    intro l hl
    rcases List.mem_cons.1 hl with rfl | hl
    · exact List.forall_mem_cons.2 ⟨hc, h first (List.mem_cons_self ..)⟩
    · exact h l (List.mem_cons_of_mem _ hl)

theorem unbroken_splitlines (s : Str) : ∀ l ∈ splitlines s, Unbroken l := by
  induction s using splitlines.induct with
  | case1 => exact nofun
  | case2 s ih => exact List.forall_mem_cons.2 ⟨nofun, ih⟩
  | case3 c s hcrlf hc ih =>
    rw [splitlines, if_pos hc]
    · exact List.forall_mem_cons.2 ⟨nofun, ih⟩
    · exact hcrlf
  | case4 c s hcrlf hc ih =>
    rw [splitlines, if_neg hc]
    · exact unbroken_consLine (by simpa using hc) ih
    · exact hcrlf

theorem getlines_line {l : Str} (h : '\n' ∉ l) (s : Str) : getlines (l ++ '\n' :: s) = l :: getlines s := by
  induction l with
  | nil => rfl
  | cons c l ih =>
    rw [List.mem_cons, not_or] at h
    rw [List.cons_append, getlines_cons (Ne.symm h.1), ih h.2]
    rfl

/-- The last line may lack its end. -/
theorem getlines_last {l : Str} (h : '\n' ∉ l) (hne : l ≠ []) : getlines l = [l] := by
  induction l with
  | nil => exact absurd rfl hne
  | cons c l ih =>
    rw [List.mem_cons, not_or] at h
    rw [getlines_cons (Ne.symm h.1)]
    cases l with
    | nil => rfl
    | cons d l =>
      rw [ih h.2 (List.cons_ne_nil d l)]
      rfl

theorem joinLines_cons_cons (l l' : Str) (rest : List Str) :
    joinLines (l :: l' :: rest) = l ++ '\n' :: joinLines (l' :: rest) := by
  simp [joinLines, List.intercalate]

theorem Unbroken.not_mem {s : Str} (hs : Unbroken s) {c : Char} (hc : isLineBreak c = true) : c ∉ s := by
  intro h
  rw [hs c h] at hc
  cases hc

theorem mem_joinLines {c : Char} {lines : List Str} (h : c ∈ joinLines lines) : c = '\n' ∨ ∃ l ∈ lines, c ∈ l := by
  induction lines with
  | nil => simpa [joinLines] using h
  | cons l rest ih =>
    cases rest with
    | nil =>
      rw [joinLines, List.intercalate_singleton, List.mem_append, List.mem_singleton] at h
      rcases h with h | h
      · exact .inr ⟨l, List.mem_cons_self .., h⟩
      · exact .inl h
    | cons l' rest =>
      rw [joinLines_cons_cons, List.mem_append, List.mem_cons] at h
      rcases h with h | h | h
      · exact .inr ⟨l, List.mem_cons_self .., h⟩
      · exact .inl h
      · exact (ih h).imp id fun ⟨m, hm, hc⟩ => ⟨m, List.mem_cons_of_mem _ hm, hc⟩

theorem joinLines_eq {lines : List Str} (hne : lines ≠ []) : joinLines lines = lines.flatMap (· ++ ['\n']) := by
  induction lines with
  | nil => exact absurd rfl hne
  | cons l rest ih =>
    cases rest with
    | nil => simp [joinLines]
    | cons l' rest =>
      rw [joinLines_cons_cons, ih (List.cons_ne_nil l' rest), List.flatMap_cons (x := l), List.append_assoc,
        List.singleton_append]

/-- A reader that takes one line off the text takes all of them off. -/
theorem read_flatMap {read : Str → List Str} {P : Str → Prop}
    (hread : ∀ l rest, P l → read (l ++ '\n' :: rest) = l :: read rest) {lines : List Str} (h : ∀ l ∈ lines, P l)
    (rest : Str) : read (lines.flatMap (· ++ ['\n']) ++ rest) = lines ++ read rest := by
  induction lines with
  | nil => rfl
  | cons l lines ih =>
    obtain ⟨hl, hlines⟩ := List.forall_mem_cons.1 h
    rw [List.flatMap_cons, List.append_assoc, List.append_assoc, List.singleton_append, hread l _ hl, ih hlines,
      List.cons_append]

/-- What is written line by line is read line by line. -/
theorem getlines_joinLines {lines : List Str} (hne : lines ≠ []) (h : ∀ l ∈ lines, '\n' ∉ l) :
    getlines (joinLines lines) = lines := by
  rw [joinLines_eq hne, ← List.append_nil (lines.flatMap _), read_flatMap (fun _ rest hl => getlines_line hl rest) h,
    getlines, List.append_nil]

/-- Lines of which each has its end. -/
def writeLines (lines : List Str) : Str := lines.flatMap (· ++ ['\n'])

theorem getlines_writeLines {lines : List Str} (h : ∀ l ∈ lines, '\n' ∉ l) : getlines (writeLines lines) = lines := by
  rw [writeLines, ← List.append_nil (lines.flatMap _), read_flatMap (fun _ rest hl => getlines_line hl rest) h, getlines,
    List.append_nil]

/-- A text with no carriage return is read as it is. -/
theorem universalNewlines_eq : ∀ {s : Str}, '\r' ∉ s → universalNewlines s = s
  | [], _ => rfl
  | c :: s, h => by
    rw [List.mem_cons, not_or] at h
    rw [universalNewlines, universalNewlines_eq h.2]
    · rintro s' rfl
      exact absurd rfl h.1
    · rintro rfl
      exact absurd rfl h.1

theorem splitlines_line : ∀ {l : Str}, Unbroken l → ∀ s, splitlines (l ++ '\n' :: s) = l :: splitlines s
  | [], _, s => by
    rw [List.nil_append, splitlines, if_pos (by decide)]
    exact nofun
  | c :: l, h, s => by
    obtain ⟨hc, hl⟩ := List.forall_mem_cons.1 h
    rw [List.cons_append, splitlines, if_neg (by simp [hc]), splitlines_line hl]
    · rfl
    · rintro s' rfl
      cases hc

end SatNet.Python
