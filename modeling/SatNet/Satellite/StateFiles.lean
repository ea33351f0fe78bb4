/-
What `main` of `gen_state.py` writes for the shells and the ground stations it is given: the arguments as it takes them apart,
the files of the directory `state`, and the satellites in them, each with the width of lines that satgen gave it.
-/
import SatNet.Satellite.Shells
import SatNet.Satellite.TopologyBuild

namespace SatNet.Satellite.GenState

open SatNet.Loop SatNet.Device SatNet.ExpUtil SatNet.Python

variable {φ D S M : Type}

/-! ## The arguments -/

/-- The parts of a `--gs`, which were cut at the commas. -/
structure Station where
  name : Str
  lat : Str
  lon : Str
  name_noComma : ',' ∉ name
  lat_noComma : ',' ∉ lat
  lon_noComma : ',' ∉ lon

theorem noComma_strip {x part : Str} (h : part ∈ (split x ',').map strip) : ',' ∉ part := by
  obtain ⟨piece, hpiece, rfl⟩ := List.mem_map.1 h
  intro hm
  exact not_mem_of_mem_splitOn hpiece (mem_of_mem_strip hm)

/-- One round of the loop over `specs`; the script ends with an error otherwise. `isFloat` is whether `float()` accepts a
text. -/
def parseStation (isFloat : Str → Bool) (x : Str) : Option Station :=
  match h : (split x ',').map strip with
  | [name, lat, lon] =>
    if isFloat lat && isFloat lon then
      some ⟨name, lat, lon, noComma_strip (x := x) (by simp [h]), noComma_strip (x := x) (by simp [h]),
        noComma_strip (x := x) (by simp [h])⟩
    else none
  | _ => none

/-- The lines of a `--gs-file` that are stations. -/
def specsOfFile (text : Str) : List Str :=
  ((fileLines text).filter fun l => !(strip l).isEmpty && l.head? ≠ some '#').map strip

def defaultGs : List Str := ["Seoul,37.56826,126.97783".toList, "London,51.50853,-0.12574".toList]

/-- The stations that `parse_args` returns. -/
def parseStations (isFloat : Str → Bool) (gs : List Str) (gsFile : Option Str) : Option (List Station) := do
  let specs := gs ++ gsFile.elim [] specsOfFile
  let specs := if specs = [] then defaultGs else specs
  let gss ← specs.mapM (parseStation isFloat)
  if gss.length < 2 then none else some gss

/-- Each part is text within a line. -/
def Station.OneLine (st : Station) : Prop := ∀ s ∈ [st.name, st.lat, st.lon], '\n' ∉ s ∧ '\r' ∉ s

theorem oneLine_specsOfFile {text x : Str} (h : x ∈ specsOfFile text) : '\n' ∉ x ∧ '\r' ∉ x := by
  obtain ⟨l, hl, rfl⟩ := List.mem_map.1 h
  obtain ⟨hsub, body, hsame, hbody⟩ := keepEnds_sameLine _ l (List.mem_of_mem_filter hl)
  constructor
  · rw [hsame.strip]
    exact fun hm => hbody (mem_of_mem_strip hm)
  · exact fun hm => return_not_mem_universalNewlines text (hsub _ (mem_of_mem_strip hm))

theorem parseStation_oneLine {isFloat : Str → Bool} {x : Str} {st : Station} (h : parseStation isFloat x = some st)
    (hx : '\n' ∉ x ∧ '\r' ∉ x) : st.OneLine := by
  have hpart : ∀ part ∈ (split x ',').map strip, '\n' ∉ part ∧ '\r' ∉ part := by
    intro part hm
    obtain ⟨piece, hpiece, rfl⟩ := List.mem_map.1 hm
    have hsub : ∀ c ∈ strip piece, c ∈ x := fun c hc => mem_of_mem_splitOn hpiece (mem_of_mem_strip hc)
    exact ⟨fun hc => hx.1 (hsub _ hc), fun hc => hx.2 (hsub _ hc)⟩
  unfold parseStation at h
  split at h
  · rename_i name lat lon hparts
    rw [hparts] at hpart
    split at h
    · cases h
      exact hpart
    · cases h
  · cases h

theorem exists_of_mem_mapM {α β : Type} {f : α → Option β} {y : β} : ∀ {xs : List α} {ys : List β}, xs.mapM f = some ys →
    y ∈ ys → ∃ x ∈ xs, f x = some y
  | [], ys, h, hy => by
    cases h
    cases hy
  | x :: xs, ys, h, hy => by
    simp only [List.mapM_cons, Option.bind_eq_bind, Option.bind_eq_some_iff, Option.pure_def, Option.some.injEq] at h
    obtain ⟨y', hx, ys', hxs, rfl⟩ := h
    rcases List.mem_cons.1 hy with rfl | hy
    · exact ⟨x, List.mem_cons_self .., hx⟩
    · obtain ⟨x', hx', hf⟩ := exists_of_mem_mapM hxs hy
      exact ⟨x', List.mem_cons_of_mem _ hx', hf⟩

/-- A station is text of one line if the `--gs` is that it comes from. -/
theorem parseStations_oneLine {isFloat : Str → Bool} {gs : List Str} {gsFile : Option Str} {gss : List Station}
    (h : parseStations isFloat gs gsFile = some gss) (hgs : ∀ x ∈ gs, '\n' ∉ x ∧ '\r' ∉ x) : ∀ st ∈ gss, st.OneLine := by
  unfold parseStations at h
  simp only [Option.bind_eq_bind, Option.bind_eq_some_iff] at h
  obtain ⟨gss', hmap, h⟩ := h
  have hspecs : ∀ x ∈ gs ++ gsFile.elim [] specsOfFile, '\n' ∉ x ∧ '\r' ∉ x := by
    intro x hx
    rcases List.mem_append.1 hx with hx | hx
    · exact hgs x hx
    · cases gsFile with
      | none => cases hx
      | some text => exact oneLine_specsOfFile hx
  split at h
  · cases h
  · cases h
    intro st hst
    obtain ⟨x, hx, hparse⟩ := exists_of_mem_mapM hmap hst
    refine parseStation_oneLine hparse ?_
    split at hx
    · have hdefault : ∀ y ∈ defaultGs, '\n' ∉ y ∧ '\r' ∉ y := by decide
      exact hdefault x hx
    · exact hspecs x hx

/-! ## The files -/

def commaSeparated (fields : List Str) : Str := [','].intercalate fields

/-- A line of `ground_stations.basic.txt`. -/
def basicLine (st : Station × Nat) : Str :=
  commaSeparated [formatD st.2, st.1.name, st.1.lat, st.1.lon, ['0']]

def groundStationsBasic (gss : List Station) : Str := writeLines (gss.zipIdx.map basicLine)

/-- The functions of satgen that take the ground stations from one file to the other and write the GSL interfaces. -/
structure SatgenStations where
  extendGroundStations : Str → Script Str
  generateSimpleGslInterfacesInfo : (numSatellites numGroundStations numIfsSatellite numIfsGroundStation
    aggMaxBandwidthSatellite aggMaxBandwidthGroundStation : Nat) → Str

/-- What is in the directory `state` before the dynamic state. -/
structure StateFiles where
  groundStationsBasic : Str
  groundStations : Str
  tles : Str
  isls : Str
  gslInterfacesInfo : Str
  nodeIds : Str

/-- The files that `TopologySatelliteNetwork` reads. -/
def StateFiles.topology (files : StateFiles) : TopologyFiles where
  tles := files.tles
  groundStations := files.groundStations
  isls := files.isls
  gslInterfacesInfo := files.gslInterfacesInfo

def nodeIdsHeader (nsat : Nat) : Str := "# node_id,name,lat,lon   (satellites are 0..".toList ++ formatD (nsat - 1) ++ [')']

def nodeIdsLine (nsat : Nat) (st : Station × Nat) : Str :=
  commaSeparated [formatD (nsat + st.2), st.1.name, st.1.lat, st.1.lon]

variable (g : Satgen φ) (f : SatgenStations)

/-- `NICE_NAME`. -/
def niceName : Str := "Starlink-550".toList

/-- `tles.txt`, `isls.txt` and the number of satellites: of the shells, or of the default one if there are none. -/
def writeSatellites (defaultShell : Shell φ) (shells : List (Shell φ)) : Script (Str × Str × Nat) :=
  if shells ≠ [] then writeShells g shells
  else .ok (g.generateTlesFromScratchManual niceName defaultShell.orbits defaultShell.spo true defaultShell.incl g.eccentricity
    g.argOfPerigeeDegree defaultShell.meanMotion, g.generatePlusGridIsls defaultShell.orbits defaultShell.spo 0 0,
    defaultShell.orbits * defaultShell.spo)

/-- `main` up to `help_dynamic_state`. -/
def main (defaultShell : Shell φ) (shells : List (Shell φ)) (gss : List Station) : Script StateFiles := do
  let basic := groundStationsBasic gss
  let groundStations ← f.extendGroundStations basic
  let (tles, isls, nsat) ← writeSatellites g defaultShell shells
  let gslInterfacesInfo := f.generateSimpleGslInterfacesInfo nsat gss.length 1 1 1 1
  let nodeIds := writeLines (nodeIdsHeader nsat :: gss.zipIdx.map (nodeIdsLine nsat))
  .ok ⟨basic, groundStations, tles, isls, gslInterfacesInfo, nodeIds⟩

/-! ## What is not in the repository -/

/-- A text within a field that the simulator reads as a number. -/
def IsNumber (parse : Str → Res D) (t : Str) : Prop := ',' ∉ t ∧ '\n' ∉ t ∧ ∃ x, parse t = .ok x

/-- The two lines of a satellite: they have the width that the simulator checks, and behind the numbers of the satellite
and before the checksums they have the elements of an orbit. -/
structure IsTle (elements : Str → Str → Prop) (tle1 tle2 : Str) : Prop where
  width₁ : tle1.length = 69
  width₂ : tle2.length = 69
  unbroken₁ : Unbroken tle1
  unbroken₂ : Unbroken tle2
  elements : elements (sliceButLast tle1 8) (sliceButLast tle2 7)

/-- The lines of a group. -/
def groupLines (group : TleGroup) : List Str := [group.1, group.2.1, group.2.2]

/-- What satgen writes for a shell: the numbers of orbits and of satellites of each, then the satellites, numbered from 0,
as long as their numbers have five digits; and the ISLs of its grid. -/
structure SatgenFormat (g : Satgen φ) (elements : Str → Str → Prop) : Prop where
  tles : ∀ name orbits spo phaseDiff incl eccentricity argOfPerigee meanMotion, Unbroken name → 3 ≤ orbits → 3 ≤ spo →
    orbits * spo < 100000 → ∃ groups : List TleGroup,
      g.generateTlesFromScratchManual name orbits spo phaseDiff incl eccentricity argOfPerigee meanMotion =
        writeLines ((formatD orbits ++ ' ' :: formatD spo) :: groups.flatMap groupLines) ∧
      groups.length = orbits * spo ∧ ∀ i group, groups[i]? = some group →
        group.1 = name ++ ' ' :: formatD i ∧ IsTle elements group.2.1 group.2.2
  isls : ∀ orbits spo idxOffset, 3 ≤ orbits → 3 ≤ spo → ∃ pairs : List (Nat × Nat), pairs ≠ [] ∧
    g.generatePlusGridIsls orbits spo 0 idxOffset = writeLines (pairs.map islLine) ∧
      ∀ p ∈ pairs, (idxOffset ≤ p.1 ∧ p.1 < idxOffset + orbits * spo) ∧ idxOffset ≤ p.2 ∧ p.2 < idxOffset + orbits * spo
  checksum : ∀ line, g.calculateTleLineChecksum line < 10

/-- A line of `ground_stations.txt`. -/
def stationLine (numbers : Nat → List Str) (st : Station × Nat) : Str :=
  commaSeparated (formatD st.2 :: st.1.name :: numbers st.2)

/-- The ground stations keep their numbers and names, and get an elevation and a position; each node gets a line with its
interfaces. -/
structure StationsFormat (f : SatgenStations) (doubles : DoubleParsers D) : Prop where
  stations : ∀ (gss : List Station) (text : Str), (∀ st ∈ gss, st.OneLine) →
    f.extendGroundStations (groundStationsBasic gss) = .ok text → ∃ numbers : Nat → List Str,
      (∀ i < gss.length, (numbers i).length = 6 ∧ ∀ t ∈ numbers i, IsNumber doubles.parseDouble t) ∧
      text = writeLines (gss.zipIdx.map (stationLine numbers))
  interfaces : ∀ n m a b c d, ∃ t u, IsNumber doubles.parsePositiveDouble t ∧ IsNumber doubles.parsePositiveDouble u ∧
    f.generateSimpleGslInterfacesInfo n m a b c d = writeLines
      ((List.range n).map (fun i => commaSeparated [formatD i, formatD a, t]) ++
        (List.range m).map fun i => commaSeparated [formatD (n + i), formatD b, u])

/-- The simulator makes a satellite of every name and two lines with the elements of an orbit. -/
def LoadsElements (setup : SatelliteSetup S) (elements : Str → Str → Prop) : Prop :=
  ∀ name tle1 tle2, name ≠ [] → IsTle elements tle1 tle2 → Loads setup (name, tle1, tle2)

/-! ## The satellites -/

variable {g} {elements : Str → Str → Prop}

/-- Satellite `i` of the shell with the name. -/
def IsSatellite (elements : Str → Str → Prop) (name : Str) (i : Nat) (group : TleGroup) : Prop :=
  group.1 = name ++ ' ' :: formatD i ∧ IsTle elements group.2.1 group.2.2

theorem IsSatellite.unbroken {name : Str} {i : Nat} {group : TleGroup} (h : IsSatellite elements name i group)
    (hname : Unbroken name) : ∀ l ∈ groupLines group, Unbroken l := by
  simp only [groupLines, List.mem_cons, List.not_mem_nil, or_false, forall_eq_or_imp, forall_eq]
  refine ⟨?_, h.2.unbroken₁, h.2.unbroken₂⟩
  rw [h.1]
  exact hname.append (List.forall_mem_cons.2 ⟨by decide, unbroken_formatD i⟩)

/-- The satellites that satgen writes for a shell under the name. -/
def satgenSatellites (g : Satgen φ) (name : Str) (sh : Shell φ) : List TleGroup :=
  satelliteGroups (g.generateTlesFromScratchManual name sh.orbits sh.spo true sh.incl g.eccentricity g.argOfPerigeeDegree
    sh.meanMotion)

/-- The lines that satgen writes for the grids of the shells, the first of which has its satellites from the offset on. -/
def gridLines (g : Satgen φ) (offset : Nat) : List (Shell φ) → List Str
  | [] => []
  | sh :: rest => getlines (g.generatePlusGridIsls sh.orbits sh.spo 0 offset) ++ gridLines g (offset + sh.size) rest

/-- The group is satellite `i`, which is of shell `k`, and has the elements that satgen gave to it in the shell. -/
structure OfShell (g : Satgen φ) (elements : Str → Str → Prop) (shells : List (Shell φ)) (names : Nat → Str) (k i : Nat)
    (group : TleGroup) : Prop where
  inShell : InShell shells k i
  satellite : IsSatellite elements (names k) i group
  given : ∃ sh made, shells[k]? = some sh ∧
    (satgenSatellites g (names k) sh)[i - (constellation shells).sizeUpTo k]? = some made ∧
    sliceButLast group.2.1 8 = sliceButLast made.2.1 8 ∧ sliceButLast group.2.2 7 = sliceButLast made.2.2 7

/-- What is in the two files about the satellites of the shells, under the names of theirs. -/
structure SatelliteFiles (g : Satgen φ) (elements : Str → Str → Prop) (shells : List (Shell φ)) (names : Nat → Str)
    (tles isls : Str) (n : Nat) : Prop where
  count : n = (shells.map Shell.size).sum
  tles : ∃ (a b : Nat) (groups : List TleGroup), a * b = n ∧
    tles = writeLines ((formatD a ++ ' ' :: formatD b) :: groups.flatMap groupLines) ∧ groups.length = n ∧
    ∀ i group, groups[i]? = some group → ∃ k, OfShell g elements shells names k i group
  isls : ∃ pairs : List (Nat × Nat), isls = writeLines (pairs.map islLine) ∧ pairs.map islLine = gridLines g 0 shells ∧
    ∀ p ∈ pairs, ∃ k, InShell shells k p.1 ∧ InShell shells k p.2

theorem OfShell.append {shells : List (Shell φ)} {names : Nat → Str} {k i : Nat} {group : TleGroup}
    (h : OfShell g elements shells names k i group) (rest : List (Shell φ)) :
    OfShell g elements (shells ++ rest) names k i group := by
  obtain ⟨sh, made, hsh, hmade, hslices⟩ := h.given
  refine ⟨h.inShell.append, h.satellite, sh, made, ?_, ?_, hslices⟩
  · rw [List.getElem?_append_left h.inShell.1]
    exact hsh
  · rw [sizeUpTo_append h.inShell.1.le]
    exact hmade

theorem gridLines_concat (sh : Shell φ) : ∀ (shells : List (Shell φ)) (offset : Nat), gridLines g offset (shells ++ [sh]) =
    gridLines g offset shells ++ getlines (g.generatePlusGridIsls sh.orbits sh.spo 0 (offset + (shells.map Shell.size).sum))
  | [], offset => by simp [gridLines]
  | first :: rest, offset => by
    simp only [List.cons_append, gridLines, gridLines_concat sh rest, List.map_cons, List.sum_cons, List.append_assoc,
      Nat.add_assoc]

/-- The lines of pairs are read one by one. -/
theorem getlines_islLines (pairs : List (Nat × Nat)) : getlines (writeLines (pairs.map islLine)) = pairs.map islLine :=
  getlines_writeLines (List.forall_mem_map.2 fun p _ => Unbroken.not_mem (unbroken_islLine p) rfl)

theorem tleGroups_writeLines : ∀ {groups : List TleGroup}, (∀ group ∈ groups, ∀ l ∈ groupLines group, '\n' ∉ l) →
    ∀ tle1 tle2, tleGroups ⟨writeLines (groups.flatMap groupLines), true⟩ tle1 tle2 = groups
  | [], _, tle1, tle2 => tleGroups_end rfl tle1 tle2
  | (name, line1, line2) :: groups, h, tle1, tle2 => by
    obtain ⟨hgroup, hrest⟩ := List.forall_mem_cons.1 h
    simp only [groupLines, List.mem_cons, List.not_mem_nil, or_false, forall_eq_or_imp, forall_eq] at hgroup
    obtain ⟨hname, hline1, hline2⟩ := hgroup
    have htext : writeLines (((name, line1, line2) :: groups).flatMap groupLines) =
        name ++ '\n' :: (line1 ++ '\n' :: (line2 ++ '\n' :: writeLines (groups.flatMap groupLines))) := by
      simp [writeLines, groupLines]
    rw [htext, tleGroups_group (InputStream.getline_newline hname _ _)]
    simp only [InputStream.getline_newline hline1, InputStream.getline_newline hline2, tleGroups_writeLines hrest]

/-- The header and the groups behind it. -/
theorem satelliteGroups_writeLines {header : Str} {groups : List TleGroup} (hheader : '\n' ∉ header)
    (h : ∀ group ∈ groups, ∀ l ∈ groupLines group, '\n' ∉ l) :
    satelliteGroups (writeLines (header :: groups.flatMap groupLines)) = groups ∧
      announced (writeLines (header :: groups.flatMap groupLines)) = parseTwo header := by
  have htext : writeLines (header :: groups.flatMap groupLines) = header ++ '\n' :: writeLines (groups.flatMap groupLines) := by
    simp [writeLines]
  have hread : tlesHeader (header ++ '\n' :: writeLines (groups.flatMap groupLines)) =
      (⟨writeLines (groups.flatMap groupLines), true⟩, header) := by
    unfold tlesHeader InputStream.ofText
    rw [InputStream.getline_newline hheader]
  unfold satelliteGroups announced
  rw [htext, hread]
  exact ⟨tleGroups_writeLines h [] [], rfl⟩

/-- The groups of a file of satgen are its satellites. -/
theorem satgenSatellites_eq {name : Str} {sh : Shell φ} {groups : List TleGroup}
    (htles : g.generateTlesFromScratchManual name sh.orbits sh.spo true sh.incl g.eccentricity g.argOfPerigeeDegree
      sh.meanMotion = writeLines ((formatD sh.orbits ++ ' ' :: formatD sh.spo) :: groups.flatMap groupLines))
    (hname : Unbroken name) (h : ∀ i group, groups[i]? = some group → IsSatellite elements name i group) :
    satgenSatellites g name sh = groups := by
  have hheader : '\n' ∉ formatD sh.orbits ++ ' ' :: formatD sh.spo :=
    Unbroken.not_mem (unbroken_islLine (sh.orbits, sh.spo)) rfl
  unfold satgenSatellites
  rw [htles]
  refine (satelliteGroups_writeLines hheader fun group hgroup l hl => ?_).1
  obtain ⟨i, hi⟩ := List.mem_iff_getElem?.1 hgroup
  exact ((h i group hi).unbroken hname l hl).not_mem rfl

theorem length_groupLines (groups : List TleGroup) : (groups.flatMap groupLines).length = 3 * groups.length := by
  induction groups with
  | nil => rfl
  | cons group groups ih =>
    rw [List.flatMap_cons, List.length_append, ih, List.length_cons]
    simp only [groupLines, List.length_cons, List.length_nil]
    omega

theorem getElem?_groupLines {r : Nat} (hr : r < 3) : ∀ (groups : List TleGroup) (j : Nat),
    (groups.flatMap groupLines)[3 * j + r]? = groups[j]?.bind fun group => (groupLines group)[r]?
  | [], j => rfl
  | group :: groups, 0 => by
    rw [List.flatMap_cons, List.getElem?_append_left (by simpa [groupLines] using hr)]
    simp
  | group :: groups, j + 1 => by
    rw [List.flatMap_cons, List.getElem?_append_right (by simp only [groupLines, List.length_cons, List.length_nil]; omega),
      List.getElem?_cons_succ, ← getElem?_groupLines hr groups j]
    simp only [groupLines, List.length_cons, List.length_nil]
    congr 1
    omega

/-- What becomes of the lines of a satellite. -/
def renumber (g : Satgen φ) (k sid : Nat) (group : TleGroup) : TleGroup :=
  let l1 := line1Start sid ++ sliceButLast group.2.1 8
  let l2 := line2Start sid ++ sliceButLast group.2.2 7
  (satelliteName k sid, l1 ++ formatD (g.calculateTleLineChecksum l1), l2 ++ formatD (g.calculateTleLineChecksum l2))

theorem length_format05d {n : Nat} (h : n < 100000) : (format05d n).length = 5 := by
  have hle : (formatD n).length ≤ 5 := (Nat.length_toDigits_le_iff (by decide) (by decide)).2 h
  unfold format05d
  rw [List.length_leftpad]
  omega

/-- A line keeps its width and its elements when the number of the satellite and the checksum are written anew. -/
theorem renumberLine {start line : Str} {i checksum : Nat} (hstart : start.length = i) (hi : i < 69)
    (hline : line.length = 69) (hchecksum : checksum < 10) :
    (start ++ sliceButLast line i ++ formatD checksum).length = 69 ∧
      sliceButLast (start ++ sliceButLast line i ++ formatD checksum) i = sliceButLast line i := by
  have hdigit : ∃ c, formatD checksum = [c] :=
    List.length_eq_one_iff.1 (Nat.le_antisymm ((Nat.length_toDigits_le_iff (by decide) (by decide)).2 hchecksum)
      Nat.length_toDigits_pos)
  obtain ⟨c, hc⟩ := hdigit
  rw [hc]
  constructor
  · simp only [List.length_append, hstart, sliceButLast, List.length_drop, List.length_dropLast, hline, List.length_singleton]
    omega
  · rw [sliceButLast, List.dropLast_concat, ← hstart, List.drop_left]

/-- It is the satellite with that number, and its elements stay. -/
theorem IsTle.renumber (hchecksum : ∀ line, g.calculateTleLineChecksum line < 10) (k : Nat) {sid : Nat}
    {group : TleGroup} (hsid : sid + 1 < 100000) (h : IsTle elements group.2.1 group.2.2) :
    IsSatellite elements (shellName k) sid (renumber g k sid group) ∧
      sliceButLast (renumber g k sid group).2.1 8 = sliceButLast group.2.1 8 ∧
      sliceButLast (renumber g k sid group).2.2 7 = sliceButLast group.2.2 7 := by
  have hstart₁ : (line1Start sid).length = 8 := by
    rw [line1Start, List.length_append, List.length_append, length_format05d hsid]
    rfl
  have hstart₂ : (line2Start sid).length = 7 := by
    rw [line2Start, List.length_append, length_format05d hsid]
    rfl
  obtain ⟨hwidth₁, hslice₁⟩ := renumberLine hstart₁ (by decide) h.width₁ (hchecksum (line1Start sid ++ sliceButLast group.2.1 8))
  obtain ⟨hwidth₂, hslice₂⟩ := renumberLine hstart₂ (by decide) h.width₂ (hchecksum (line2Start sid ++ sliceButLast group.2.2 7))
  refine ⟨⟨rfl, hwidth₁, hwidth₂, ?_, ?_, ?_⟩, hslice₁, hslice₂⟩
  · have hline : Unbroken (line1Start sid) :=
      ((unbroken_literal (by decide)).append (unbroken_format05d _)).append (unbroken_literal (by decide))
    exact (hline.append (h.unbroken₁.slice 8)).append (unbroken_formatD _)
  · have hline : Unbroken (line2Start sid) := (unbroken_literal (by decide)).append (unbroken_format05d _)
    exact (hline.append (h.unbroken₂.slice 7)).append (unbroken_formatD _)
  · have helements := h.elements
    rw [← hslice₁, ← hslice₂] at helements
    exact helements

/-- The loop over the lines of a shell's own file. -/
theorem tleEntries_renumber {k offset : Nat} (groups : List TleGroup) (tleLines : List Str) :
    forEach (fun tleLines i => do
        let entry ← tleEntry g k offset (groups.flatMap groupLines) i
        .ok (tleLines ++ entry)) (rangeByThree (groups.flatMap groupLines).length) tleLines =
      .ok (tleLines ++ (groups.mapIdx fun j group => renumber g k (offset + j) group).flatMap groupLines) := by
  have hrange : rangeByThree (groups.flatMap groupLines).length = (List.range groups.length).map (3 * ·) := by
    rw [length_groupLines, rangeByThree, show (3 * groups.length + 2) / 3 = groups.length by omega]
  rw [forEach_read (tleEntry g k offset (groups.flatMap groupLines)) (fun tleLines entry => tleLines ++ entry), hrange]
  refine ⟨(groups.mapIdx fun j group => renumber g k (offset + j) group).map groupLines, ?_, ?_⟩
  · refine List.forall₂_iff_get.2 ⟨by simp, fun j h₁ h₂ => ?_⟩
    rw [List.length_map, List.length_range] at h₁
    simp only [List.get_eq_getElem, List.getElem_map, List.getElem_range, List.getElem_mapIdx]
    have hitem : ∀ r < 3, itemAt (groups.flatMap groupLines) (3 * j + r) = itemAt (groupLines groups[j]) r := fun r hr => by
      unfold itemAt
      rw [getElem?_groupLines hr, List.getElem?_eq_getElem h₁, Option.bind_some]
    unfold tleEntry
    rw [hitem 1 (by decide), hitem 2 (by decide), Nat.mul_div_cancel_left j (by decide)]
    rfl
  · rw [List.foldl_append_eq_append, List.map_id', List.flatMap_def]

/-- The loop over the shells has written the first ones. -/
structure WrittenGroups (g : Satgen φ) (elements : Str → Str → Prop) (shells : List (Shell φ)) (files : ShellFiles) : Prop where
  offset : files.offset = (shells.map Shell.size).sum
  tles : ∃ groups : List TleGroup, files.tleLines = groups.flatMap groupLines ∧ groups.length = files.offset ∧
    ∀ i group, groups[i]? = some group → ∃ k, OfShell g elements shells shellName k i group
  isls : ∃ pairs : List (Nat × Nat), files.islLines = pairs.map islLine ∧ pairs.map islLine = gridLines g 0 shells ∧
    (shells ≠ [] → pairs ≠ []) ∧
    ∀ p ∈ pairs, ∃ k, InShell shells k p.1 ∧ InShell shells k p.2

theorem readLines_writeLines {lines : List Str} (hne : lines ≠ []) (h : ∀ l ∈ lines, Unbroken l) :
    readLines (writeLines lines) = lines := by
  rw [writeLines, ← joinLines_eq hne, readLines_joinLines hne h]

/-- One more shell is written after the others. -/
theorem writeShell_groups (hg : SatgenFormat g elements) {shells : List (Shell φ)} {files : ShellFiles}
    (hw : WrittenGroups g elements shells files) (sh : Shell φ) (hlt : files.offset + sh.orbits * sh.spo < 100000) :
    ∃ files', writeShell g files (sh, shells.length) = .ok files' ∧ WrittenGroups g elements (shells ++ [sh]) files' := by
  obtain ⟨groups, htles, hcount, hgroups⟩ := hg.tles (shellName shells.length) sh.orbits sh.spo true sh.incl g.eccentricity
    g.argOfPerigeeDegree sh.meanMotion (unbroken_shellName _) sh.orbits_ge sh.spo_ge (by omega)
  obtain ⟨pairs, hne, hisls, hpairs⟩ := hg.isls sh.orbits sh.spo files.offset sh.orbits_ge sh.spo_ge
  obtain ⟨groups₀, htle₀, hcount₀, hgroups₀⟩ := hw.tles
  obtain ⟨pairs₀, hisl₀, hgrid₀, -, hpairs₀⟩ := hw.isls
  have hlines : ∀ l ∈ (formatD sh.orbits ++ ' ' :: formatD sh.spo) :: groups.flatMap groupLines, Unbroken l := by
    refine List.forall_mem_cons.2 ⟨unbroken_islLine (sh.orbits, sh.spo), fun l hl => ?_⟩
    obtain ⟨group, hgroup, hl⟩ := List.mem_flatMap.1 hl
    obtain ⟨i, hi⟩ := List.mem_iff_getElem?.1 hgroup
    exact IsSatellite.unbroken (hgroups i group hi) (unbroken_shellName _) l hl
  have hmade := satgenSatellites_eq htles (unbroken_shellName _) hgroups
  have hlast : ∀ i, files.offset ≤ i → i < files.offset + sh.orbits * sh.spo →
      InShell (shells ++ [sh]) shells.length i := fun i hlo hhi =>
    inShell_concat (hw.offset ▸ hlo) (hw.offset ▸ hhi)
  have hwrite : writeShell g files (sh, shells.length) = .ok ⟨files.tleLines ++
      (groups.mapIdx fun j group => renumber g shells.length (files.offset + j) group).flatMap groupLines,
      files.islLines ++ pairs.map islLine, files.offset + sh.orbits * sh.spo⟩ := by
    unfold writeShell
    simp only [htles, hisls]
    rw [readLines_writeLines (List.cons_ne_nil _ _) hlines, List.drop_one, List.tail_cons, tleEntries_renumber, ok_bind,
      readLines_writeLines (by simpa using hne) (List.forall_mem_map.2 fun p _ => unbroken_islLine p)]
  refine ⟨_, hwrite, ?_, ⟨groups₀ ++ groups.mapIdx fun j group => renumber g shells.length (files.offset + j) group, ?_, ?_,
    fun i group hi => ?_⟩, ⟨pairs₀ ++ pairs, ?_, ?_, fun _ => by simp [hne], fun p hp => ?_⟩⟩
  · simp [hw.offset, Shell.size]
  · simp [htle₀]
  · simp [hcount₀, hcount]
  · rcases Nat.lt_or_ge i groups₀.length with hlt | hge
    · rw [List.getElem?_append_left hlt] at hi
      obtain ⟨k, hsat⟩ := hgroups₀ i group hi
      exact ⟨k, hsat.append [sh]⟩
    · rw [List.getElem?_append_right hge, List.getElem?_mapIdx, Option.map_eq_some_iff] at hi
      obtain ⟨group', hgroup', rfl⟩ := hi
      obtain ⟨hj, -⟩ := List.getElem?_eq_some_iff.1 hgroup'
      rw [hcount₀] at hge hj hgroup'
      rw [hcount] at hj
      rw [hcount₀, Nat.add_sub_cancel' hge]
      have hsid : i + 1 < 100000 := by omega
      obtain ⟨hsat, hslices⟩ := (hgroups _ group' hgroup').2.renumber hg.checksum shells.length hsid
      refine ⟨shells.length, hlast i hge (by omega), hsat, sh, group', List.getElem?_concat_length, ?_, hslices⟩
      rw [sizeUpTo_append le_rfl, sizeUpTo_length, ← hw.offset, hmade]
      exact hgroup'
  · simp [hisl₀]
  · rw [List.map_append, hgrid₀, gridLines_concat, Nat.zero_add, ← hw.offset, hisls, getlines_islLines]
  · exact pairs_inShell hlast hpairs₀ hpairs p hp

theorem writeShell_groups_loop (hg : SatgenFormat g elements) {shells : List (Shell φ)}
    (hlt : (shells.map Shell.size).sum < 100000) :
    ∃ files, forEach (writeShell g) shells.zipIdx ⟨[], [], 0⟩ = .ok files ∧ WrittenGroups g elements shells files := by
  refine forEach_zipIdx (writeShell g) (WrittenGroups g elements)
    ⟨rfl, ⟨[], rfl, rfl, nofun⟩, ⟨[], rfl, rfl, (absurd rfl ·), nofun⟩⟩
    fun done sh rest files hl hw => writeShell_groups hg hw sh ?_
  rw [hl, List.map_append, List.map_cons, List.sum_append, List.sum_cons] at hlt
  rw [hw.offset]
  unfold Shell.size at hlt ⊢
  omega

/-- The shells that there are satellites of, and their names. -/
def writtenShells (defaultShell : Shell φ) (shells : List (Shell φ)) : List (Shell φ) :=
  if shells = [] then [defaultShell] else shells

def writtenNames (shells : List (Shell φ)) (k : Nat) : Str := if shells = [] then niceName else shellName k

theorem inShell_single {sh : Shell φ} {i : Nat} (h : i < sh.orbits * sh.spo) : InShell [sh] 0 i := by
  have hsize : i < (List.map Shell.size ([] : List (Shell φ))).sum + sh.size := by simpa [Shell.size] using h
  exact inShell_concat (Nat.zero_le i) hsize

/-- Both ways to write the satellites leave files of the same kind. -/
theorem writeSatellites_ok (hg : SatgenFormat g elements) (defaultShell : Shell φ) (shells : List (Shell φ))
    (hlt : ((writtenShells defaultShell shells).map Shell.size).sum < 100000) :
    ∃ tles isls n, writeSatellites g defaultShell shells = .ok (tles, isls, n) ∧
      SatelliteFiles g elements (writtenShells defaultShell shells) (writtenNames shells) tles isls n := by
  unfold writeSatellites writtenShells writtenNames at *
  by_cases hne : shells = []
  · simp only [hne, if_true, ne_eq, not_true_eq_false, if_false] at hlt ⊢
    obtain ⟨groups, htles, hcount, hgroups⟩ := hg.tles niceName defaultShell.orbits defaultShell.spo true defaultShell.incl
      g.eccentricity g.argOfPerigeeDegree defaultShell.meanMotion (unbroken_literal (by decide)) defaultShell.orbits_ge
      defaultShell.spo_ge (by simpa [Shell.size] using hlt)
    obtain ⟨pairs, -, hisls, hpairs⟩ := hg.isls defaultShell.orbits defaultShell.spo 0 defaultShell.orbits_ge defaultShell.spo_ge
    refine ⟨_, _, _, rfl, by simp [Shell.size], ⟨_, _, groups, rfl, htles, hcount, fun i group hi => ?_⟩,
      ⟨pairs, hisls, ?_, fun p hp => ?_⟩⟩
    · obtain ⟨hi', -⟩ := List.getElem?_eq_some_iff.1 hi
      refine ⟨0, inShell_single (hcount ▸ hi'), hgroups i group hi, defaultShell, group, rfl, ?_, rfl, rfl⟩
      show (satgenSatellites g niceName defaultShell)[i]? = some group
      rw [satgenSatellites_eq htles (unbroken_literal (by decide)) hgroups]
      exact hi
    · rw [gridLines, gridLines, List.append_nil, hisls, getlines_islLines]
    · obtain ⟨⟨-, h₁⟩, -, h₂⟩ := hpairs p hp
      exact ⟨0, inShell_single (by simpa using h₁), inShell_single (by simpa using h₂)⟩
  · simp only [hne, if_false, ne_eq, not_false_eq_true, if_true] at hlt ⊢
    obtain ⟨files, hloop, hw⟩ := writeShell_groups_loop hg hlt
    obtain ⟨groups, htles, hcount, hgroups⟩ := hw.tles
    obtain ⟨pairs, hisls, hgrid, hsome, hpairs⟩ := hw.isls
    have hpos : 0 < groups.length := by
      obtain ⟨sh, rest, rfl⟩ := List.exists_cons_of_ne_nil hne
      have hsize := sh.size_pos
      rw [hcount, hw.offset, List.map_cons, List.sum_cons]
      omega
    have hlines : groups.flatMap groupLines ≠ [] := by
      refine List.ne_nil_of_length_pos ?_
      rw [length_groupLines]
      omega
    refine ⟨_, _, _, by unfold writeShells; rw [hloop, ok_bind], hw.offset, ⟨1, files.offset, groups, Nat.one_mul _, ?_, hcount,
      hgroups⟩, ⟨pairs, ?_, hgrid, hpairs⟩⟩
    · rw [htles, joinLines_eq hlines, writeLines, List.flatMap_cons, List.append_assoc, List.append_assoc]
      rfl
    · rw [hisls, joinLines_eq (by simpa using hsome hne), writeLines]

end SatNet.Satellite.GenState
