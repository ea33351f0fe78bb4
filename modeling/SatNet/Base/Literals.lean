/-
Collections as they are written in a configuration: `list(...)`, `set(...)` and `map(...)` around elements with commas
between them and blanks around them. What is written is what the parsers read, but for a single blank element, which
reads as none.
-/
import SatNet.Base.Spelling

namespace SatNet.ExpUtil

open SatNet.Loop

/-! ## Blanks -/

/-- No blank at either end. -/
def Trimmed (s : Str) : Prop := (∀ c, s.head? = some c → isBlank c = false) ∧ ∀ c, s.getLast? = some c → isBlank c = false

/-- The text with blanks around it. -/
def Padded (s padded : Str) : Prop :=
  ∃ l r, padded = l ++ (s ++ r) ∧ (∀ c ∈ l, isBlank c = true) ∧ ∀ c ∈ r, isBlank c = true

theorem rightTrim_append {s r : Str} (hr : ∀ c ∈ r, isBlank c = true) : rightTrim (s ++ r) = rightTrim s := by
  unfold rightTrim List.rdropWhile
  rw [List.reverse_append, List.dropWhile_append_of_pos (fun c hc => hr c (List.mem_reverse.1 hc))]

theorem rightTrim_eq_self {s : Str} (h : ∀ c, s.getLast? = some c → isBlank c = false) : rightTrim s = s := by
  unfold rightTrim
  rw [List.rdropWhile_eq_self_iff]
  intro hne
  rw [h _ (List.getLast?_eq_some_getLast hne)]
  exact Bool.false_ne_true

theorem leftTrim_eq_self {s : Str} (h : ∀ c, s.head? = some c → isBlank c = false) : leftTrim s = s := by
  unfold leftTrim
  cases s with
  | nil => rfl
  | cons c s => rw [List.dropWhile_cons_of_neg (by rw [h c rfl]; exact Bool.false_ne_true)]

theorem trim_blanks {s : Str} (h : ∀ c ∈ s, isBlank c = true) : trim s = [] := by
  unfold trim rightTrim
  rw [List.rdropWhile_eq_nil_iff.2 h]
  rfl

theorem Padded.trim_eq {s padded : Str} (h : Padded s padded) (hs : Trimmed s) : trim padded = s := by
  obtain ⟨l, r, rfl, hl, hr⟩ := h
  cases s with
  | nil =>
    -- nothing but blanks is left
    refine trim_blanks fun c hc => ?_
    rcases List.mem_append.1 hc with hc | hc
    · exact hl c hc
    · exact hr c hc
  | cons c s =>
    have hright : rightTrim (l ++ (c :: s)) = l ++ (c :: s) := by
      refine rightTrim_eq_self fun d hd => hs.2 d ?_
      rwa [List.getLast?_append_of_ne_nil _ (List.cons_ne_nil c s)] at hd
    unfold trim
    rw [← List.append_assoc, rightTrim_append hr, hright]
    unfold leftTrim
    rw [List.dropWhile_append_of_pos hl]
    exact leftTrim_eq_self hs.1

/-- What is no blank is still there after trimming. -/
theorem trim_ne_nil {s : Str} {c : Char} (hc : c ∈ s) (hb : isBlank c = false) : trim s ≠ [] := by
  intro h
  have hleft := List.dropWhile_eq_nil_iff.1 h
  -- the left side can only lose it if the right side has kept it
  have hsplit : c ∈ rightTrim s := by
    unfold rightTrim List.rdropWhile
    have hmem := List.mem_reverse.2 hc
    rw [← List.takeWhile_append_dropWhile (p := isBlank) (l := s.reverse), List.mem_append] at hmem
    rcases hmem with hmem | hmem
    · rw [List.mem_takeWhile_imp hmem] at hb
      cases hb
    · exact List.mem_reverse.2 hmem
  rw [hleft c hsplit] at hb
  cases hb

theorem Padded.not_mem {s padded : Str} (h : Padded s padded) {c : Char} (hc : c ∉ s) (hb : isBlank c = false) :
    c ∉ padded := by
  obtain ⟨l, r, rfl, hl, hr⟩ := h
  simp only [List.mem_append, not_or]
  refine ⟨fun hm => ?_, hc, fun hm => ?_⟩
  · rw [hl c hm] at hb
    cases hb
  · rw [hr c hm] at hb
    cases hb

/-! ## Elements -/

/-- The opening, the parts with commas between them, and the closing parenthesis. -/
def literal (opening : String) (parts : List Str) : Str := opening.toList ++ ([','].intercalate parts ++ ")".toList)

/-- The elements as they are read: a single blank one is none. -/
def asRead (elements : List Str) : List Str := if elements = [[]] then [] else elements

section Parts

variable {elements parts : List Str}

theorem map_trim (hparts : List.Forall₂ Padded elements parts) (htrim : ∀ e ∈ elements, Trimmed e) :
    parts.map trim = elements := by
  induction hparts with
  | nil => rfl
  | cons hpart _ ih =>
    obtain ⟨he, hrest⟩ := List.forall_mem_cons.1 htrim
    rw [List.map_cons, hpart.trim_eq he, ih hrest]

theorem not_mem_parts (hparts : List.Forall₂ Padded elements parts) {c : Char} (hc : ∀ e ∈ elements, c ∉ e)
    (hb : isBlank c = false) : ∀ part ∈ parts, c ∉ part := by
  intro part hpart
  obtain ⟨e, he, hpadded⟩ := forall₂_mem_right hparts part hpart
  exact hpadded.not_mem (hc e he) hb

/-- Between the parentheses there are nothing but blanks, and no element is read, or the parts stand there. -/
theorem inside_cases (hparts : List.Forall₂ Padded elements parts) (htrim : ∀ e ∈ elements, Trimmed e)
    (hcomma : ∀ e ∈ elements, ',' ∉ e) :
    trim ([','].intercalate parts) = [] ∧ asRead elements = [] ∨
      trim ([','].intercalate parts) ≠ [] ∧ Separates ',' ([','].intercalate parts) parts ∧
        asRead elements = elements := by
  have hfree := not_mem_parts hparts hcomma (by decide)
  unfold asRead
  cases hparts with
  | nil => exact .inl ⟨rfl, rfl⟩
  | cons hpart hrest =>
    rename_i e part elements parts
    have hsep : Separates ',' ([','].intercalate (part :: parts)) (part :: parts) :=
      ⟨List.cons_ne_nil part parts, rfl, hfree⟩
    cases hrest with
    | nil =>
      -- of a single part the text alone says whether it is an element
      rw [List.intercalate_singleton, hpart.trim_eq (htrim e (List.mem_cons_self ..))]
      by_cases he : e = []
      · exact .inl ⟨he, by rw [he, if_pos rfl]⟩
      · rw [List.intercalate_singleton] at hsep
        exact .inr ⟨he, hsep, if_neg (by simpa using he)⟩
    | cons hpart' hrest =>
      -- the comma is no blank
      refine .inr ⟨trim_ne_nil (c := ',') ?_ (by decide), hsep, if_neg (by simp)⟩
      rw [List.intercalate_cons_cons]
      simp

end Parts

/-! ## Reading what was written -/

section Literal

variable {elements parts : List Str} (hparts : List.Forall₂ Padded elements parts)
  (htrim : ∀ e ∈ elements, Trimmed e) (hcomma : ∀ e ∈ elements, ',' ∉ e)

include hparts htrim hcomma

theorem parseListString_literal : parseListString (literal "list(" parts) = .ok (asRead elements) := by
  have henc := (@encased_iff (literal "list(" parts) "list(".toList (by decide)).2 ⟨_, rfl⟩
  unfold parseListString
  rw [if_neg (by rw [henc]; exact Bool.false_ne_true)]
  unfold literal
  simp only [inside_eq (show "list(".toList.length = 5 from rfl) (show 6 = 5 + 1 from rfl)]
  rcases inside_cases hparts htrim hcomma with ⟨hblank, hnone⟩ | ⟨hblank, hsep, hall⟩
  · rw [if_pos hblank, hnone]
  · rw [if_neg hblank, show ",".toList = [','] from rfl, splitString_ok.2 hsep, ok_bind, map_trim hparts htrim, hall]

theorem spellsList_literal {pieces : List Str} : SpellsList (literal "set(" parts) pieces ↔ pieces = asRead elements := by
  constructor
  · rintro ⟨inside, hs, h⟩
    obtain rfl := encased_inj hs
    rcases inside_cases hparts htrim hcomma with ⟨hblank, hnone⟩ | ⟨hblank, hsep, hall⟩
    · rcases h with ⟨-, rfl⟩ | ⟨hne, -⟩
      · exact hnone.symm
      · exact absurd hblank hne
    · rcases h with ⟨he, -⟩ | ⟨-, parts', hparts', rfl⟩
      · exact absurd he hblank
      · rw [separates_iff.1 hparts', ← separates_iff.1 hsep, map_trim hparts htrim, hall]
  · rintro rfl
    refine ⟨_, rfl, ?_⟩
    rcases inside_cases hparts htrim hcomma with ⟨hblank, hnone⟩ | ⟨hblank, hsep, hall⟩
    · exact .inl ⟨hblank, hnone⟩
    · exact .inr ⟨hblank, parts, hsep, by rw [map_trim hparts htrim, hall]⟩

omit hparts htrim hcomma in
theorem nodup_asRead : (asRead elements).Nodup ↔ elements.Nodup := by
  unfold asRead
  split
  · rename_i h
    simp [h]
  · exact Iff.rfl

/-- A set is read unless an element is there twice. -/
theorem parseSetString_literal {set : List Str} : parseSetString (literal "set(" parts) = .ok set ↔
    elements.Nodup ∧ set = OrdSet.ofList (· < ·) (asRead elements) := by
  rw [parseSetString_ok, ← nodup_asRead]
  simp only [spellsList_literal hparts htrim hcomma, exists_eq_left]

theorem parseSetPositiveInt64_literal {set : List Nat} : parseSetPositiveInt64 (literal "set(" parts) = .ok set ↔
    ∃ ids, List.Forall₂ SpellsNat (asRead elements) ids ∧ ids.Nodup ∧ set = OrdSet.ofList (· < ·) ids := by
  rw [parseSetPositiveInt64_ok]
  unfold SpellsNats
  simp only [spellsList_literal hparts htrim hcomma, exists_eq_left]

end Literal

/-- The key and the value of an entry with a colon between them, and blanks around both. -/
def PaddedPair (p : Str × Str) (part : Str) : Prop :=
  ∃ key value, Padded p.1 key ∧ Padded p.2 value ∧ part = key ++ ':' :: value

/-- A text that can stand in a map. -/
structure Word (s : Str) : Prop where
  trimmed : Trimmed s
  comma : ',' ∉ s
  colon : ':' ∉ s

section Map

variable {pairs : List (Str × Str)} {p : Str × Str} {part : Str} {parts : List Str}

theorem PaddedPair.spells (h : PaddedPair p part) (hkey : Word p.1) (hvalue : Word p.2) {q : Str × Str} :
    SpellsPair part q ↔ q = p := by
  obtain ⟨key, value, hk, hv, rfl⟩ := h
  have hsep := separates_pair (hk.not_mem hkey.colon (by decide)) (hv.not_mem hvalue.colon (by decide))
  constructor
  · rintro ⟨k, v, hkv, rfl⟩
    have heq := (separates_iff.1 hkv).trans (separates_iff.1 hsep).symm
    cases heq
    rw [hk.trim_eq hkey.trimmed, hv.trim_eq hvalue.trimmed]
  · rintro rfl
    exact ⟨key, value, hsep, by rw [hk.trim_eq hkey.trimmed, hv.trim_eq hvalue.trimmed]⟩

theorem PaddedPair.not_comma (h : PaddedPair p part) (hkey : Word p.1) (hvalue : Word p.2) : ',' ∉ part := by
  obtain ⟨key, value, hk, hv, rfl⟩ := h
  simp only [List.mem_append, List.mem_cons, not_or]
  exact ⟨hk.not_mem hkey.comma (by decide), by decide, hv.not_mem hvalue.comma (by decide)⟩

theorem forall₂_spellsPair (h : List.Forall₂ PaddedPair pairs parts) (hwords : ∀ p ∈ pairs, Word p.1 ∧ Word p.2)
    {qs : List (Str × Str)} : List.Forall₂ SpellsPair parts qs ↔ qs = pairs := by
  induction h generalizing qs with
  | nil => simp
  | cons hp _ ih =>
    obtain ⟨⟨hkey, hvalue⟩, hrest⟩ := List.forall_mem_cons.1 hwords
    simp only [List.forall₂_cons_left_iff, hp.spells hkey hvalue, ih hrest]
    constructor
    · rintro ⟨_, _, rfl, rfl, rfl⟩
      rfl
    · rintro rfl
      exact ⟨_, _, rfl, rfl, rfl⟩

/-- A map is read unless a key is there twice. -/
theorem parseMapString_literal (h : List.Forall₂ PaddedPair pairs parts) (hwords : ∀ p ∈ pairs, Word p.1 ∧ Word p.2)
    {result : List (Str × Str)} : parseMapString (literal "map(" parts) = .ok result ↔
      (pairs.map Prod.fst).Nodup ∧ result = pairs := by
  have hspells : SpellsMap (literal "map(" parts) result ↔ result = pairs := by
    rw [← forall₂_spellsPair h hwords]
    by_cases hparts : parts = []
    · subst hparts
      constructor
      · rintro ⟨inside, hs, hr⟩
        obtain rfl := encased_inj hs
        rcases hr with ⟨-, rfl⟩ | ⟨hne, -⟩
        · exact .nil
        · exact absurd rfl hne
      · rintro ⟨⟩
        exact ⟨[], rfl, .inl ⟨rfl, rfl⟩⟩
    · have hsep : Separates ',' ([','].intercalate parts) parts := by
        refine ⟨hparts, rfl, fun part hpart => ?_⟩
        obtain ⟨p, hp, hpadded⟩ := forall₂_mem_right h part hpart
        exact hpadded.not_comma (hwords p hp).1 (hwords p hp).2
      -- the colon of the first entry is no blank
      have hcolon : ':' ∈ [','].intercalate parts := by
        obtain ⟨part, rest, rfl⟩ := List.exists_cons_of_ne_nil hparts
        obtain ⟨p, -, key, value, -, -, rfl⟩ := forall₂_mem_right h part (List.mem_cons_self ..)
        cases rest with
        | nil => simp [List.intercalate_singleton]
        | cons part' rest => simp [List.intercalate_cons_cons]
      have hne := trim_ne_nil hcolon (by decide)
      constructor
      · rintro ⟨inside, hs, hr⟩
        obtain rfl := encased_inj hs
        rcases hr with ⟨he, -⟩ | ⟨-, parts', hparts', hr⟩
        · exact absurd he hne
        · rwa [separates_iff.1 hparts', ← separates_iff.1 hsep] at hr
      · intro hr
        exact ⟨_, rfl, .inr ⟨hne, parts, hsep, hr⟩⟩
  rw [parseMapString_ok, hspells]
  constructor
  · rintro ⟨rfl, hn⟩
    exact ⟨hn, rfl⟩
  · rintro ⟨hn, rfl⟩
    exact ⟨rfl, hn⟩

end Map

theorem defined_parseSetString (s : Str) : Defined (parseSetString s) := by
  unfold parseSetString
  split
  · exact defined_error rfl
  · simp only
    split
    · exact defined_ok []
    · apply (defined_splitString _ (by decide)).bind
      intro parts _
      split
      · exact defined_error rfl
      · exact defined_ok _

theorem defined_parseSetPositiveInt64 (s : Str) : Defined (parseSetPositiveInt64 s) := by
  apply (defined_parseSetString s).bind
  intro strings _
  apply Defined.bind
  · apply defined_forEach
    intro s _ set
    exact (defined_parsePositiveInt64 s).bind fun v _ => defined_ok _
  · intro set _
    split
    · exact defined_error rfl
    · exact defined_ok _

/-- What is written as a list, a set or a map with blanks anywhere around the elements is what is read, but for the
single blank element. Only an element, a key or an integer that is there twice is rejected, and of the sets of integers
those with something else in them; a set that is read has an integer for each element. -/
theorem literals_roundtrip :
    (∀ elements parts, List.Forall₂ Padded elements parts → (∀ e ∈ elements, Trimmed e ∧ ',' ∉ e) →
      parseListString (literal "list(" parts) = .ok (asRead elements) ∧
      (elements.Nodup → ∃ set, parseSetString (literal "set(" parts) = .ok set ∧ set.Pairwise (· < ·) ∧
        set.Perm (asRead elements)) ∧
      (¬ elements.Nodup → Throws (parseSetString (literal "set(" parts))) ∧
      (∀ ids, List.Forall₂ SpellsNat (asRead elements) ids → ids.Nodup →
        ∃ set, parseSetPositiveInt64 (literal "set(" parts) = .ok set ∧ set.Pairwise (· < ·) ∧ set.Perm ids) ∧
      ((¬ ∃ ids, List.Forall₂ SpellsNat (asRead elements) ids ∧ ids.Nodup) →
        Throws (parseSetPositiveInt64 (literal "set(" parts)))) ∧
      ∀ pairs parts, List.Forall₂ PaddedPair pairs parts → (∀ p ∈ pairs, Word p.1 ∧ Word p.2) →
        ((pairs.map Prod.fst).Nodup → parseMapString (literal "map(" parts) = .ok pairs) ∧
        (¬ (pairs.map Prod.fst).Nodup → Throws (parseMapString (literal "map(" parts))) := by
  constructor
  · intro elements parts hparts hall
    have htrim : ∀ e ∈ elements, Trimmed e := fun e he => (hall e he).1
    have hcomma : ∀ e ∈ elements, ',' ∉ e := fun e he => (hall e he).2
    have hset := @parseSetString_literal _ _ hparts htrim hcomma
    have hints := @parseSetPositiveInt64_literal _ _ hparts htrim hcomma
    refine ⟨parseListString_literal hparts htrim hcomma, ?_, ?_, ?_, ?_⟩
    · intro hn
      exact ⟨_, hset.2 ⟨hn, rfl⟩, OrdSet.ofList_sorted list_lt _, OrdSet.ofList_perm_self list_lt (nodup_asRead.2 hn)⟩
    · intro hn
      exact (defined_parseSetString _).throws fun set h => hn (hset.1 h).1
    · intro ids hids hn
      exact ⟨_, hints.2 ⟨ids, hids, hn, rfl⟩, OrdSet.ofList_sorted nat_lt _, OrdSet.ofList_perm_self nat_lt hn⟩
    · intro hno
      refine (defined_parseSetPositiveInt64 _).throws fun set h => hno ?_
      obtain ⟨ids, hids, hn, -⟩ := hints.1 h
      exact ⟨ids, hids, hn⟩
  · intro pairs parts hpairs hwords
    have hmap := @parseMapString_literal _ _ hpairs hwords
    exact ⟨fun hn => hmap.2 ⟨hn, rfl⟩, fun hn => (defined_parseMapString _).throws fun _ h => hn (hmap.1 h).1⟩

/-- A blank element beside another one, an element with a parenthesis, signs, and blanks at the colon. -/
theorem literals_roundtrip_two :
    parseListString "list( ,b) )".toList = .ok [[], "b)".toList] ∧
      (∃ set, parseSetPositiveInt64 "set(+5 ,-0)".toList = .ok set ∧ set.Pairwise (· < ·) ∧ set.Perm [5, 0]) ∧
      parseMapString "map(a : 1)".toList = .ok [("a".toList, "1".toList)] := by
  have hblank : ∀ c ∈ [' '], isBlank c = true := List.all_eq_true.1 (by decide)
  have hpadded : ∀ s : Str, Padded s (s ++ [' ']) := fun s => ⟨[], [' '], rfl, nofun, hblank⟩
  refine ⟨?_, ?_, ?_⟩
  · refine (literals_roundtrip.1 [[], "b)".toList] [" ".toList, "b) ".toList] ?_ ?_).1
    · exact .cons (hpadded []) (.cons (hpadded _) .nil)
    · simp [Trimmed, isBlank]
  · refine (literals_roundtrip.1 ["+5".toList, "-0".toList] ["+5 ".toList, "-0".toList] ?_ ?_).2.2.2.1 [5, 0] ?_ ?_
    · exact .cons (hpadded _) (.cons ⟨[], [], by simp, nofun, nofun⟩ .nil)
    · simp [Trimmed, isBlank]
    · exact .cons (parsePositiveInt64_ok.1 (by decide)) (.cons (parsePositiveInt64_ok.1 (by decide)) .nil)
    · decide
  · refine (literals_roundtrip.2 [("a".toList, "1".toList)] ["a : 1".toList] ?_ ?_).1 ?_
    · exact .cons ⟨"a ".toList, " 1".toList, hpadded _, ⟨[' '], [], rfl, hblank, nofun⟩, rfl⟩ .nil
    · rw [List.forall_mem_singleton]
      exact ⟨⟨by simp [Trimmed, isBlank], by decide, by decide⟩, ⟨by simp [Trimmed, isBlank], by decide, by decide⟩⟩
    · decide

end SatNet.ExpUtil
