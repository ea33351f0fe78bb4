/-
`read_config`: a file of lines `key=value`. A line that is blank or starts with `#` is skipped; of every other one the
two sides of its `=` are trimmed, and the quotes around the value are removed.
-/
import SatNet.Base.InputStream
import SatNet.Base.Literals
import SatNet.Base.Python

namespace SatNet.ExpUtil

open SatNet.Loop SatNet.Python

def removeStartEndDoubleQuoteIfPresent (s : Str) : Str :=
  if s.length ≥ 2 && startsWith s "\"".toList && endsWith s "\"".toList then (s.drop 1).take (s.length - 2) else s

/-- One round of the loop of `read_config`; the `std::map` is kept by increasing keys. -/
def readConfigLine (config : Config) (line : Str) : Res Config := do
  -- Skip commented lines
  if trim line = [] ∨ line.head? = some '#' then .ok config
  else
    -- Split on =
    let equalsSplit ← splitStringExpected line "=".toList 2
    let left ← index equalsSplit 0
    let right ← index equalsSplit 1
    -- Trim whitespace
    let key := trim left
    let value := removeStartEndDoubleQuoteIfPresent (trim right)
    -- Check key does not exist yet
    if (config.lookup key).isSome then .error (.runtimeError s!"Duplicate property key: {String.ofList key}")
    else .ok (OrdSet.put (· < ·) key value config)

inductive ConfigFile where
  | missing
  | unreadable
  | contents (text : Str)
  deriving Repr, DecidableEq

/-- `read_config(filename)`. Each round of the loop takes a line from the file, so one round more than there are
characters and an end of file is enough. -/
def readConfig (filename : String) (file : ConfigFile) : Res Config :=
  match file with
  | .missing => .error (.runtimeError s!"File {filename} does not exist.")
  | .unreadable => .error (.runtimeError s!"File {filename} could not be read.")
  | .contents text => (InputStream.ofText text).eachLine readConfigLine (text.length + 2) []

/-! ## Lines -/

/-- The loop over a stream goes through the lines of its text. -/
theorem eachLine_eq {σ : Type} (body : σ → Str → Res σ) : ∀ (fuel : Nat) (text : Str) (s : σ), text.length + 1 < fuel →
    InputStream.eachLine body fuel ⟨text, true⟩ s = forEach body (getlines text) s
  | 0, _, _, h => absurd h (Nat.not_lt_zero _)
  | fuel + 1, text, s, h => by
    unfold InputStream.eachLine
    by_cases hn : '\n' ∈ text
    · obtain ⟨l, r, rfl, hl⟩ := List.eq_append_cons_of_mem hn
      rw [List.length_append, List.length_cons] at h
      simp only [InputStream.getline_newline hl, getlines_line hl, forEach]
      -- the round takes the line off the text
      cases body s l with
      | error e => rfl
      | ok s' => exact eachLine_eq body fuel r s' (by omega)
    · -- without an end of line the rest is the last line, unless there is none
      rw [InputStream.getline_last hn]
      cases text with
      | nil => rfl
      | cons c text =>
        rw [getlines_last hn (List.cons_ne_nil c text)]
        simp only [List.isEmpty_cons, Bool.not_false, forEach]
        cases body s (c :: text) with
        | error e => rfl
        | ok s' =>
          rw [List.length_cons] at h
          obtain ⟨k, rfl⟩ : ∃ k, fuel = k + 1 := ⟨fuel - 1, by omega⟩
          rfl

theorem readConfig_contents (filename : String) (text : Str) :
    readConfig filename (.contents text) = forEach readConfigLine (getlines text) [] :=
  eachLine_eq readConfigLine _ text [] (Nat.lt_succ_self _)

/-- A line that says nothing. -/
def Skipped (line : Str) : Prop := (∀ c ∈ line, isBlank c = true) ∨ line.head? = some '#'

instance (line : Str) : Decidable (Skipped line) :=
  inferInstanceAs (Decidable ((∀ c ∈ line, isBlank c = true) ∨ line.head? = some '#'))

theorem trim_eq_nil_iff {s : Str} : trim s = [] ↔ ∀ c ∈ s, isBlank c = true := by
  constructor
  · intro h c hc
    by_contra hb
    exact trim_ne_nil hc (Bool.not_eq_true _ ▸ hb) h
  · exact trim_blanks

theorem skipped_iff {line : Str} : trim line = [] ∨ line.head? = some '#' ↔ Skipped line :=
  or_congr_left trim_eq_nil_iff

theorem readConfigLine_skipped {line : Str} (h : Skipped line) (config : Config) :
    readConfigLine config line = .ok config := by
  unfold readConfigLine
  rw [if_pos (skipped_iff.2 h)]

/-- The key and the value of a line: what stands before and behind its only `=`. -/
def SpellsProperty (line : Str) (p : Str × Str) : Prop :=
  ∃ k v, Separates '=' line [k, v] ∧ p = (trim k, removeStartEndDoubleQuoteIfPresent (trim v))

theorem lookup_isSome {key : Str} : ∀ {config : Config}, (config.lookup key).isSome = true ↔ key ∈ config.map Prod.fst
  | [] => by simp
  | (k, v) :: config => by
    rw [List.lookup_cons, List.map_cons, List.mem_cons]
    by_cases hk : key = k
    · simp [hk]
    · have hne : (key == k) = false := by simpa using hk
      rw [hne, lookup_isSome]
      simp [hk]

theorem readConfigLine_ok {line : Str} (h : ¬ Skipped line) {config config' : Config} :
    readConfigLine config line = .ok config' ↔
      ∃ p, SpellsProperty line p ∧ p.1 ∉ config.map Prod.fst ∧ config' = OrdSet.put (· < ·) p.1 p.2 config := by
  unfold readConfigLine
  rw [if_neg (mt skipped_iff.1 h)]
  refine twoParts_ok.trans ?_
  simp only [ite_error_eq_ok, lookup_isSome, Except.ok.injEq]
  constructor
  · rintro ⟨k, v, hsplit, hnew, rfl⟩
    exact ⟨_, ⟨k, v, splitString_ok.1 hsplit, rfl⟩, hnew, rfl⟩
  · rintro ⟨_, ⟨k, v, hsep, rfl⟩, hnew, rfl⟩
    exact ⟨k, v, splitString_ok.2 hsep, hnew, rfl⟩

/-- The lines that are not skipped. -/
def propertyLines (lines : List Str) : List Str := lines.filter fun line => ¬ Skipped line

/-- The loop ends exactly if every line that counts has one `=` and no key is there twice. -/
theorem forEach_readConfigLine {lines : List Str} {done : List (Str × Str)} (hdone : (done.map Prod.fst).Nodup)
    {config : Config} : forEach readConfigLine lines (OrdSet.ofEntries (· < ·) done) = .ok config ↔
      ∃ entries, List.Forall₂ SpellsProperty (propertyLines lines) entries ∧
        ((done ++ entries).map Prod.fst).Nodup ∧ config = OrdSet.ofEntries (· < ·) (done ++ entries) := by
  induction lines generalizing done with
  | nil => simp [forEach, propertyLines, eq_comm, hdone]
  | cons line lines ih =>
    unfold forEach
    by_cases hs : Skipped line
    · have hfilter : propertyLines (line :: lines) = propertyLines lines := List.filter_cons_of_neg (by simpa using hs)
      rw [readConfigLine_skipped hs, ok_bind, ih hdone, hfilter]
    · have hfilter : propertyLines (line :: lines) = line :: propertyLines lines :=
        List.filter_cons_of_pos (by simpa using hs)
      simp only [hfilter, bind_eq_ok, readConfigLine_ok hs, List.forall₂_cons_left_iff]
      have hkeys : ∀ p : Str × Str, p.1 ∉ (OrdSet.ofEntries (· < ·) done).map Prod.fst ↔
          ((done ++ [p]).map Prod.fst).Nodup := by
        intro p
        rw [OrdSet.ofEntries_keys, OrdSet.mem_ofList list_lt, List.map_append, List.map_singleton,
          ← List.concat_eq_append, List.nodup_concat]
        exact ⟨fun h => ⟨h, hdone⟩, fun h => h.1⟩
      simp only [hkeys, ← OrdSet.ofEntries_concat]
      constructor
      · rintro ⟨_, ⟨p, hp, hn, rfl⟩, h⟩
        obtain ⟨entries, hentries, hall, rfl⟩ := (ih hn).1 h
        rw [List.append_assoc] at hall
        exact ⟨p :: entries, ⟨p, entries, hp, hentries, rfl⟩, hall, by rw [List.append_assoc]; rfl⟩
      · rintro ⟨_, ⟨p, entries, hp, hentries, rfl⟩, hall, hst⟩
        rw [List.append_cons] at hall hst
        have hn : ((done ++ [p]).map Prod.fst).Nodup := by
          rw [List.map_append] at hall
          exact hall.of_append_left
        exact ⟨_, ⟨p, hp, hn, rfl⟩, (ih hn).2 ⟨entries, hentries, hall, hst⟩⟩

/-- `read_config` of a file returns the map of its properties, if they are properties with different keys. -/
theorem readConfig_ok {filename : String} {text : Str} {config : Config} :
    readConfig filename (.contents text) = .ok config ↔
      ∃ entries, List.Forall₂ SpellsProperty (propertyLines (getlines text)) entries ∧
        (entries.map Prod.fst).Nodup ∧ config = OrdSet.ofEntries (· < ·) entries := by
  rw [readConfig_contents]
  exact @forEach_readConfigLine _ [] List.nodup_nil _

/-! ## Reading what was written -/

/-- `key="value"` with blanks around the key and around the quotes. -/
def Assigns (p : Str × Str) (line : Str) : Prop :=
  ∃ k v, Padded p.1 k ∧ Padded ('"' :: (p.2 ++ ['"'])) v ∧ line = k ++ '=' :: v

/-- A key and a value that can be written. -/
structure Writable (p : Str × Str) : Prop where
  nonempty : p.1 ≠ []
  trimmed : Trimmed p.1
  comment : p.1.head? ≠ some '#'
  key : '=' ∉ p.1
  value : '=' ∉ p.2

/-- Lines that assign the entries, in their order, between lines that say nothing. -/
inductive Written : List (Str × Str) → List Str → Prop where
  | nil : Written [] []
  | skip {entries lines line} : Skipped line → Written entries lines → Written entries (line :: lines)
  | assign {p entries lines line} : Assigns p line → Written entries lines → Written (p :: entries) (line :: lines)

/-- A file of these lines; the last one may lack its end. -/
def TextOf (lines : List Str) (text : Str) : Prop :=
  text = lines.flatMap (· ++ ['\n']) ∨
    ∃ init last, lines = init ++ [last] ∧ last ≠ [] ∧ text = init.flatMap (· ++ ['\n']) ++ last

theorem getlines_flatMap {lines : List Str} (h : ∀ l ∈ lines, '\n' ∉ l) (rest : Str) :
    getlines (lines.flatMap (· ++ ['\n']) ++ rest) = lines ++ getlines rest :=
  read_flatMap (fun _ rest hl => getlines_line hl rest) h rest

theorem TextOf.getlines_eq {lines : List Str} {text : Str} (ht : TextOf lines text) (h : ∀ l ∈ lines, '\n' ∉ l) :
    getlines text = lines := by
  rcases ht with rfl | ⟨init, last, rfl, hne, rfl⟩
  · have hlines := getlines_flatMap h []
    rwa [List.append_nil, getlines, List.append_nil] at hlines
  · rw [List.forall_mem_append, List.forall_mem_singleton] at h
    rw [getlines_flatMap h.1, getlines_last h.2 hne]

theorem removeQuotes (value : Str) : removeStartEndDoubleQuoteIfPresent ('"' :: (value ++ ['"'])) = value := by
  have hend : endsWith ('"' :: (value ++ ['"'])) "\"".toList = true :=
    List.isSuffixOf_iff_suffix.2 ⟨'"' :: value, rfl⟩
  have hstart : startsWith ('"' :: (value ++ ['"'])) "\"".toList = true :=
    List.isPrefixOf_iff_prefix.2 ⟨value ++ ['"'], rfl⟩
  have hlen : ('"' :: (value ++ ['"'])).length = value.length + 2 := by simp
  unfold removeStartEndDoubleQuoteIfPresent
  rw [hend, hstart, hlen, if_pos (by simp)]
  simp

/-- Neither a comment nor blank, and the property is the one that was written. -/
theorem Assigns.spells {p : Str × Str} {line : Str} (h : Assigns p line) (hp : Writable p) :
    ¬ Skipped line ∧ SpellsProperty line p := by
  obtain ⟨k, v, hk, hv, rfl⟩ := h
  have hequals : '=' ∉ ('"' :: (p.2 ++ ['"'])) := by simpa using hp.value
  have hquoted : Trimmed ('"' :: (p.2 ++ ['"'])) := by
    constructor
    · rintro c ⟨⟩
      decide
    · intro c hc
      rw [← List.cons_append, List.getLast?_concat] at hc
      cases hc
      decide
  constructor
  · rintro (hblank | hcomment)
    · exact absurd (hblank '=' (by simp)) (by decide)
    · -- the line starts with a blank or with the key
      obtain ⟨l, r, rfl, hl, -⟩ := hk
      obtain ⟨c, key, hkey⟩ := List.exists_cons_of_ne_nil hp.nonempty
      have hc := hp.comment
      rw [hkey] at hcomment hc
      cases l with
      | nil => exact hc hcomment
      | cons b l =>
        cases hcomment
        exact absurd (hl '#' (List.mem_cons_self ..)) (by decide)
  · refine ⟨k, v, separates_pair (hk.not_mem hp.key (by decide)) (hv.not_mem hequals (by decide)), ?_⟩
    rw [hk.trim_eq hp.trimmed, hv.trim_eq hquoted, removeQuotes]

theorem Written.spells {entries : List (Str × Str)} {lines : List Str} (h : Written entries lines)
    (hp : ∀ p ∈ entries, Writable p) : List.Forall₂ SpellsProperty (propertyLines lines) entries := by
  induction h with
  | nil => exact .nil
  | skip hs _ ih =>
    unfold propertyLines
    rw [List.filter_cons_of_neg (by simpa using hs)]
    exact ih hp
  | assign ha _ ih =>
    obtain ⟨hfirst, hrest⟩ := List.forall_mem_cons.1 hp
    obtain ⟨hs, hspells⟩ := ha.spells hfirst
    unfold propertyLines
    rw [List.filter_cons_of_pos (by simpa using hs)]
    exact .cons hspells (ih hrest)

/-! ## Files that are rejected -/

/-- What stands before the first `=` of a line, without the blanks around it. -/
def keyOf (line : Str) : Str := trim (line.takeWhile (· ≠ '='))

theorem SpellsProperty.keyOf_eq {line : Str} {p : Str × Str} (h : SpellsProperty line p) : keyOf line = p.1 := by
  obtain ⟨k, v, ⟨-, rfl, hfree⟩, rfl⟩ := h
  have hk : ∀ c ∈ k, decide (c ≠ '=') = true := by
    intro c hc
    rw [decide_eq_true_eq]
    rintro rfl
    exact hfree k (List.mem_cons_self ..) hc
  unfold keyOf
  rw [intercalate_pair, List.takeWhile_append_of_pos hk]
  simp

theorem map_keyOf {lines : List Str} {entries : List (Str × Str)} (h : List.Forall₂ SpellsProperty lines entries) :
    entries.map Prod.fst = lines.map keyOf := by
  induction h with
  | nil => rfl
  | cons hp _ ih => rw [List.map_cons, List.map_cons, hp.keyOf_eq, ih]

theorem spellsProperty_iff_count {line : Str} : (∃ p, SpellsProperty line p) ↔ line.count '=' = 1 := by
  have hlength := @length_split '=' line
  unfold Python.split at hlength
  constructor
  · rintro ⟨_, k, v, hsep, -⟩
    rw [← separates_iff.1 hsep] at hlength
    exact (Nat.succ.inj hlength).symm
  · intro hcount
    rw [hcount] at hlength
    obtain ⟨k, v, hkv⟩ := List.length_eq_two.1 hlength
    exact ⟨_, k, v, separates_iff.2 hkv.symm, rfl⟩

/-- The first element that some earlier one does not go with. -/
theorem not_pairwise_iff {α : Type} {r : α → α → Prop} {l : List α} :
    ¬ l.Pairwise r ↔ ∃ before x after, l = before ++ x :: after ∧ ∃ y ∈ before, ¬ r y x := by
  constructor
  · intro h
    induction l using List.reverseRecOn with
    | nil => exact absurd List.Pairwise.nil h
    | append_singleton l x ih =>
      by_cases hl : l.Pairwise r
      · have hlast : ¬ ∀ y ∈ l, r y x := fun hall => h (List.pairwise_append.2
          ⟨hl, List.pairwise_singleton r x, fun y hy z hz => List.mem_singleton.1 hz ▸ hall y hy⟩)
        push Not at hlast
        exact ⟨l, x, [], rfl, hlast⟩
      · obtain ⟨before, y, after, rfl, hy⟩ := ih hl
        exact ⟨before, y, after ++ [x], by simp, hy⟩
  · rintro ⟨before, x, after, rfl, y, hy, hyx⟩ h
    exact hyx ((List.pairwise_append.1 h).2.2 y hy x (List.mem_cons_self ..))

theorem defined_readConfigLine (config : Config) (line : Str) : Defined (readConfigLine config line) := by
  unfold readConfigLine
  split
  · exact defined_ok config
  · apply defined_twoParts (by decide)
    intro l r
    simp only
    split
    · exact defined_error rfl
    · exact defined_ok _

theorem defined_readConfig (filename : String) (text : Str) : Defined (readConfig filename (.contents text)) := by
  rw [readConfig_contents]
  exact defined_forEach _ _ fun line _ config => defined_readConfigLine config line

/-- A file is rejected exactly for a line that counts and has not one `=`, or the key of an earlier one. -/
theorem readConfig_throws_iff {filename : String} {text : Str} :
    Throws (readConfig filename (.contents text)) ↔
      ∃ before line after, getlines text = before ++ line :: after ∧ ¬ Skipped line ∧
        (line.count '=' ≠ 1 ∨ ∃ earlier ∈ before, ¬ Skipped earlier ∧ keyOf earlier = keyOf line) := by
  have hmem : ∀ line, line ∈ propertyLines (getlines text) ↔ line ∈ getlines text ∧ ¬ Skipped line := fun line => by
    simp [propertyLines]
  have hkeys : ((propertyLines (getlines text)).map keyOf).Nodup ↔
      (getlines text).Pairwise fun a b => ¬ Skipped a → ¬ Skipped b → keyOf a ≠ keyOf b := by
    simp [propertyLines, List.Nodup, List.pairwise_map, List.pairwise_filter]
  constructor
  · rintro ⟨e, he, -⟩
    -- without such a line every line that counts is a property, and their keys differ
    by_contra hno
    have hcount : ∀ line ∈ propertyLines (getlines text), line.count '=' = 1 := by
      intro line hline
      obtain ⟨hline, hs⟩ := (hmem line).1 hline
      obtain ⟨before, after, hsplit⟩ := List.append_of_mem hline
      by_contra hne
      exact hno ⟨before, line, after, hsplit, hs, .inl hne⟩
    obtain ⟨entries, hentries⟩ := forall₂_exists fun line hline => spellsProperty_iff_count.2 (hcount line hline)
    have hnodup : (entries.map Prod.fst).Nodup := by
      rw [map_keyOf hentries, hkeys]
      by_contra hpairs
      obtain ⟨before, line, after, hsplit, earlier, hearlier, hsame⟩ := not_pairwise_iff.1 hpairs
      push Not at hsame
      exact hno ⟨before, line, after, hsplit, hsame.2.1, .inr ⟨earlier, hearlier, hsame.1, hsame.2.2⟩⟩
    rw [readConfig_ok.2 ⟨entries, hentries, hnodup, rfl⟩] at he
    cases he
  · rintro ⟨before, line, after, hsplit, hs, hbad⟩
    refine (defined_readConfig filename text).throws fun config hok => ?_
    obtain ⟨entries, hentries, hnodup, -⟩ := readConfig_ok.1 hok
    have hline : line ∈ propertyLines (getlines text) := (hmem line).2 ⟨by rw [hsplit]; simp, hs⟩
    rcases hbad with hcount | ⟨earlier, hearlier, hse, hsame⟩
    · obtain ⟨p, -, hp⟩ := forall₂_mem_left hentries line hline
      exact hcount (spellsProperty_iff_count.1 ⟨p, hp⟩)
    · rw [map_keyOf hentries, hkeys] at hnodup
      exact not_pairwise_iff.2 ⟨before, line, after, hsplit, earlier, hearlier, fun h => h hse hs hsame⟩ hnodup

/-- Every map that can be written is read back, whatever its order, the blanks and the lines between its entries; and
every file is read or rejected, the latter exactly for a line that counts and has not one `=`, or the key of an earlier
one. -/
theorem readConfig_roundtrip (filename : String) :
    (∀ entries lines text, (entries.map Prod.fst).Nodup → (∀ p ∈ entries, Writable p) → Written entries lines →
      (∀ l ∈ lines, '\n' ∉ l) → TextOf lines text → ∃ config, readConfig filename (.contents text) = .ok config ∧
        (config.map Prod.fst).Pairwise (· < ·) ∧ config.Perm entries) ∧
      ∀ text, Defined (readConfig filename (.contents text)) ∧ (Throws (readConfig filename (.contents text)) ↔
        ∃ before line after, getlines text = before ++ line :: after ∧ ¬ Skipped line ∧
          (line.count '=' ≠ 1 ∨ ∃ earlier ∈ before, ¬ Skipped earlier ∧ keyOf earlier = keyOf line)) := by
  constructor
  · intro entries lines text hn hp hw hl ht
    have hentries := hw.spells hp
    rw [← ht.getlines_eq hl] at hentries
    have hkeys : ((OrdSet.ofEntries (· < ·) entries).map Prod.fst).Pairwise (· < ·) := by
      rw [OrdSet.ofEntries_keys]
      exact OrdSet.ofList_sorted list_lt _
    refine ⟨_, readConfig_ok.2 ⟨entries, hentries, hn, rfl⟩, hkeys, ?_⟩
    rw [List.perm_ext_iff_of_nodup (List.Nodup.of_map _ (OrdSet.sorted_nodup list_lt hkeys)) (List.Nodup.of_map _ hn)]
    exact fun x => OrdSet.mem_ofEntries list_lt hn
  · exact fun text => ⟨defined_readConfig filename text, readConfig_throws_iff⟩

/-- A value of blanks and quotes, behind a comment and a blank line, in a file that lacks its last end of line. -/
theorem readConfig_roundtrip_quotes : ∃ config,
    readConfig "config.ini" (.contents "#x\n \n b = \" \"\" \"".toList) = .ok config ∧
      (config.map Prod.fst).Pairwise (· < ·) ∧ config.Perm [("b".toList, " \"\" ".toList)] := by
  have hblank : ∀ c ∈ [' '], isBlank c = true := List.all_eq_true.1 (by decide)
  refine (readConfig_roundtrip "config.ini").1 _ ["#x".toList, [' '], " b = \" \"\" \"".toList] _ (by decide) ?_ ?_ ?_ ?_
  · rw [List.forall_mem_singleton]
    exact ⟨by decide, by simp [Trimmed, isBlank], by decide, by decide, by decide⟩
  · exact .skip (.inr rfl) (.skip (.inl hblank) (.assign ⟨" b ".toList, " \" \"\" \"".toList,
      ⟨[' '], [' '], rfl, hblank, hblank⟩, ⟨[' '], [], rfl, hblank, List.forall_mem_nil _⟩, rfl⟩ .nil))
  · simp
  · exact .inr ⟨["#x".toList, [' ']], _, rfl, by decide, rfl⟩

end SatNet.ExpUtil
