/-
The files that `topology-satellite-network.cc` reads: the satellites with their TLEs, the ground stations, the ISLs and
the GSL interfaces of every node. Each is read line by line with an exception at the first line that is not as it has to
be; what a file has to contain for its loop to end is said here for each of them, on the text alone.
-/
import SatNet.Base.InputStream
import SatNet.Base.Python
import SatNet.Base.Spelling
import SatNet.Satellite.Network

namespace SatNet.Satellite

open SatNet.Loop SatNet.ExpUtil SatNet.Python

/-- `NodeContainer::Get(i)`: unchecked. -/
def nodeContainerGet (numNodes i : Nat) : Res Unit :=
  if i < numNodes then .ok () else .error (.undefined "node container index out of range")

/-- The two numbers of a line. -/
def parseTwo (line : Str) : Res (Nat × Nat) := do
  let res ← splitStringExpected line " ".toList 2
  let first ← index res 0 >>= parsePositiveInt64
  let second ← index res 1 >>= parsePositiveInt64
  .ok (first, second)

/-! ## Satellites -/

/-- What is done with the lines of a satellite. `CreateObject<Satellite>`, `SetName` and `SetTleInfo` come before its
node is taken from the container, and so does the `SatellitePositionHelper` of the dynamic mode; the mobility model is
installed on the node. Neither does anything but return or report a failure. -/
structure SatelliteSetup (S : Type) where
  createSatellite : Str → Str → Str → Res S
  installMobility : S → Res Unit
  createSatellite_reports : ∀ name tle1 tle2, Reports (createSatellite name tle1 tle2)
  installMobility_reports : ∀ satellite, Reports (installMobility satellite)

/-- The name and the two lines of a TLE. -/
abbrev TleGroup := Str × Str × Str

/-- The rounds of the loop of `ReadSatellites`, from the values that `tle1` and `tle2` have. In the last one the file may
end early: the first string after the last line is empty, and what is not read at all is left from the round before. -/
def tleGroups (fs : InputStream) (tle1 tle2 : Str) : List TleGroup :=
  match _h : fs.getline [] with
  | (_, _, false) => []
  | (fs₁, name, true) =>
    let first := fs₁.getline tle1
    let second := first.1.getline tle2
    (name, first.2.1, second.2.1) :: tleGroups second.1 first.2.1 second.2.1
termination_by fs.size
decreasing_by
  have hname : fs₁.size + 1 ≤ fs.size := by
    have hsize := InputStream.getline_size fs []
    rwa [‹fs.getline [] = _›] at hsize
  have hfirst := InputStream.getline_size fs₁ tle1
  have hsecond := InputStream.getline_size (fs₁.getline tle1).1 tle2
  omega

theorem tleGroups_end {fs fs' : InputStream} {line : Str} (h : fs.getline [] = (fs', line, false)) (tle1 tle2 : Str) :
    tleGroups fs tle1 tle2 = [] := by
  rw [tleGroups]
  split
  · rfl
  · rename_i hread
    rw [h] at hread
    cases hread

theorem tleGroups_group {fs fs₁ : InputStream} {name : Str} (h : fs.getline [] = (fs₁, name, true)) (tle1 tle2 : Str) :
    tleGroups fs tle1 tle2 = (name, (fs₁.getline tle1).2.1, ((fs₁.getline tle1).1.getline tle2).2.1) ::
      tleGroups ((fs₁.getline tle1).1.getline tle2).1 (fs₁.getline tle1).2.1 ((fs₁.getline tle1).1.getline tle2).2.1 := by
  rw [tleGroups]
  split
  · rename_i hread
    rw [h] at hread
    cases hread
  · rename_i hread
    rw [h] at hread
    cases hread
    rfl

variable {S : Type} (setup : SatelliteSetup S)

/-- The first line of `tles.txt`, and the stream behind it. -/
def tlesHeader (tles : Str) : InputStream × Str :=
  let (fs, orbitsAndNSatsPerOrbit, _) := (InputStream.ofText tles).getline []
  (fs, orbitsAndNSatsPerOrbit)

/-- The groups behind the first line. -/
def satelliteGroups (tles : Str) : List TleGroup := tleGroups (tlesHeader tles).1 [] []

/-- The numbers of orbits and of satellites per orbit that `tles.txt` announces. -/
def announced (tles : Str) : Res (Nat × Nat) := parseTwo (tlesHeader tles).2

/-- One round of the loop of `ReadSatellites`; `counter` is the number of satellites so far. -/
def readSatellite (numNodes : Nat) (satellites : List S) (group : TleGroup) : Res (List S) := do
  let satellite ← setup.createSatellite group.1 group.2.1 group.2.2
  nodeContainerGet numNodes (toUInt32 satellites.length)
  setup.installMobility satellite
  .ok (satellites ++ [satellite])

/-- `ReadSatellites`: the number of nodes that were created, which has 32 bits, and the satellites. -/
def readSatellites (tles : Str) : Res (Nat × List S) := do
  let (numOrbits, satellitesPerOrbit) ← announced tles
  let product ← int64 (numOrbits * satellitesPerOrbit)
  let numNodes := toUInt32 product
  let satellites ← forEach (readSatellite setup numNodes) (satelliteGroups tles) []
  if (satellites.length : Int) ≠ product then
    .error (.runtimeError "Number of satellites defined in the TLEs does not match")
  else .ok (numNodes, satellites)

/-! ## Ground stations -/

/-- `parse_double` and `parse_positive_double`. -/
structure DoubleParsers (D : Type) where
  parseDouble : Str → Res D
  parsePositiveDouble : Str → Res D
  parseDouble_defined : ∀ str, Defined (parseDouble str)
  parsePositiveDouble_defined : ∀ str, Defined (parsePositiveDouble str)

structure GroundStation (D : Type) where
  gid : Nat
  name : Str
  latitude : D
  longitude : D
  elevation : D
  cartesianPosition : D × D × D
  deriving Repr, DecidableEq

variable {D : Type} (doubles : DoubleParsers D)

/-- The eight values of a line of `ground_stations.txt`. -/
def parseGroundStation (line : Str) : Res (GroundStation D) := do
  let res ← splitStringExpected line ",".toList 8
  let gid ← index res 0 >>= parsePositiveInt64
  let name ← index res 1
  let latitude ← index res 2 >>= doubles.parseDouble
  let longitude ← index res 3 >>= doubles.parseDouble
  let elevation ← index res 4 >>= doubles.parseDouble
  let cartesianX ← index res 5 >>= doubles.parseDouble
  let cartesianY ← index res 6 >>= doubles.parseDouble
  let cartesianZ ← index res 7 >>= doubles.parseDouble
  .ok ⟨toUInt32 gid, name, latitude, longitude, elevation, cartesianX, cartesianY, cartesianZ⟩

/-- One round of the loop of `ReadGroundStations`. Every ground station comes with one node. -/
def readGroundStation (groundStations : List (GroundStation D)) (line : Str) : Res (List (GroundStation D)) := do
  let gs ← parseGroundStation doubles line
  let groundStations := groundStations ++ [gs]
  if toUInt32 groundStations.length ≠ toUInt32 (gs.gid + 1) then
    .error (.runtimeError "GID is not incremented each line")
  else do
    nodeContainerGet groundStations.length gs.gid
    .ok groundStations

/-- `ReadGroundStations`. -/
def readGroundStations (text : Str) : Res (List (GroundStation D)) :=
  forEach (readGroundStation doubles) (getlines text) []

/-! ## ISLs -/

/-- The identifiers `sat0_id` and `sat1_id` of a line of `isls.txt`. -/
def parseISL (line : Str) : Res (Nat × Nat) := parseTwo line

/-- A `int64_t` that is kept as a `int32_t` and used as a `size_t` then. -/
def narrow (x : Nat) : Nat := toUInt64 (toInt32 x)

variable {M : Type}

/-- One round of the loop of `ReadISLs`. -/
def readISLLine (numSatellites : Nat) (net : Network M) (line : Str) : Res (Network M) := do
  let (sat0Id, sat1Id) ← parseISL line
  readISL numSatellites net (narrow sat0Id, narrow sat1Id)

/-- `ReadISLs`. -/
def readISLs (numSatellites : Nat) (text : Str) (net : Network M) : Res (Network M) :=
  forEach (readISLLine numSatellites) (getlines text) net

/-! ## GSL interfaces -/

/-- The node, the number of interfaces and the bandwidth of a line of `gsl_interfaces_info.txt`. -/
def parseGslInterfaces (line : Str) : Res (Nat × Nat × D) := do
  let commaSplit ← splitStringExpected line ",".toList 3
  let nodeId ← index commaSplit 0 >>= parsePositiveInt64
  let numIfs ← index commaSplit 1 >>= parsePositiveInt64
  let aggBandwidth ← index commaSplit 2 >>= doubles.parsePositiveDouble
  .ok (nodeId, numIfs, aggBandwidth)

/-- One round of the loop over the lines: `node_gsl_if_info`, as long as `line_counter`, and the total number of interfaces,
to which a `int64_t` is added. -/
def readGslInterfacesLine (st : List (Int × D) × Nat) (line : Str) : Res (List (Int × D) × Nat) := do
  let (nodeId, numIfs, aggBandwidth) ← parseGslInterfaces doubles line
  if nodeId ≠ st.1.length then
    .error (.runtimeError "Node id must be incremented each line in GSL interfaces info")
  else do
    let totalNumGslIfs ← int64 (st.2 + numIfs)
    .ok (st.1 ++ [(toInt32 numIfs, aggBandwidth)], toUInt32 totalNumGslIfs)

def readGslInterfacesInfo (text : Str) : Res (List (Int × D) × Nat) :=
  forEach (readGslInterfacesLine doubles) (getlines text) ([], 0)

/-! ## Failures of single lines -/

theorem nodeContainerGet_ok {numNodes i : Nat} (h : i < numNodes) : nodeContainerGet numNodes i = .ok () := if_pos h

/-- A field of a line that was split into as many fields as expected. -/
theorem reports_field {α : Type} {line delimiter : Str} {k i : Nat} {res : List Str}
    (h : splitStringExpected line delimiter k = .ok res) (hi : i < k) {f : Str → Res α} (hf : ∀ s, Defined (f s)) :
    Reports (index res i >>= f) := by
  rw [index_lt (by rw [splitStringExpected_length h]; exact hi), ok_bind]
  exact (hf _).reports

theorem parseTwo_reports (line : Str) : Reports (parseTwo line) := by
  apply (defined_splitStringExpected _ (by decide) 2).reports.bind
  intro res hres
  apply (reports_field hres (by decide) defined_parsePositiveInt64).bind
  intro first _
  apply (reports_field hres (by decide) defined_parsePositiveInt64).bind
  intro second _
  exact trivial

theorem parseGroundStation_reports (line : Str) : Reports (parseGroundStation doubles line) := by
  apply (defined_splitStringExpected _ (by decide) 8).reports.bind
  intro res hres
  apply (reports_field hres (by decide) defined_parsePositiveInt64).bind
  intro gid _
  have hname : Reports (index res 1) := by
    rw [index_lt (by rw [splitStringExpected_length hres]; decide)]
    exact trivial
  apply hname.bind
  intro name _
  have hdouble : ∀ i < 8, Reports (index res i >>= doubles.parseDouble) := fun i hi =>
    reports_field hres hi doubles.parseDouble_defined
  apply (hdouble 2 (by decide)).bind
  intro latitude _
  apply (hdouble 3 (by decide)).bind
  intro longitude _
  apply (hdouble 4 (by decide)).bind
  intro elevation _
  apply (hdouble 5 (by decide)).bind
  intro x _
  apply (hdouble 6 (by decide)).bind
  intro y _
  apply (hdouble 7 (by decide)).bind
  intro z _
  exact trivial

theorem parseGslInterfaces_reports (line : Str) : Reports (parseGslInterfaces doubles line) := by
  apply (defined_splitStringExpected _ (by decide) 3).reports.bind
  intro res hres
  apply (reports_field hres (by decide) defined_parsePositiveInt64).bind
  intro nodeId _
  apply (reports_field hres (by decide) defined_parsePositiveInt64).bind
  intro numIfs _
  apply (reports_field hres (by decide) doubles.parsePositiveDouble_defined).bind
  intro aggBandwidth _
  exact trivial

/-! ## Narrowed numbers -/

theorem narrow_eq (x : Nat) : narrow x = toUInt64 (toInt32 x) := rfl

theorem narrow_mod (x : Nat) : narrow x % 2 ^ 32 = x % 2 ^ 32 := by
  unfold narrow toUInt64 toInt32
  rw [Int.bmod_def]
  omega

theorem narrow_eq_iff {x : Nat} (h : x < 2 ^ 63) : narrow x = x ↔ x < 2 ^ 31 := by
  unfold narrow toUInt64 toInt32
  rw [Int.bmod_def]
  omega

theorem narrow_sum_mod : ∀ l : List Nat, (l.map narrow).sum % 2 ^ 32 = l.sum % 2 ^ 32
  | [] => rfl
  | x :: l => by
    have hx := narrow_mod x
    have hl := narrow_sum_mod l
    rw [List.map_cons, List.sum_cons, List.sum_cons]
    omega

/-- An identifier that is accepted is the one of the file if it has at most 32 bits. -/
theorem narrow_lt_iff {x n : Nat} (h : x < 2 ^ 63) (hn : narrow x < n) (hlt : n < 2 ^ 32) : narrow x = x ↔ x < 2 ^ 32 := by
  unfold narrow toUInt64 toInt32 at *
  rw [Int.bmod_def] at *
  omega

theorem parseISL_lt {line : Str} {sat0Id sat1Id : Nat} (h : parseISL line = .ok (sat0Id, sat1Id)) :
    sat0Id < 2 ^ 63 ∧ sat1Id < 2 ^ 63 := by
  obtain ⟨res, -, h⟩ := bind_ok h
  obtain ⟨first, hfirst, h⟩ := bind_ok h
  obtain ⟨second, hsecond, h⟩ := bind_ok h
  cases h
  obtain ⟨s, -, hfirst⟩ := bind_ok hfirst
  obtain ⟨t, -, hsecond⟩ := bind_ok hsecond
  exact ⟨parsePositiveInt64_lt hfirst, parsePositiveInt64_lt hsecond⟩

/-! ## What makes a loop end -/

/-- The lines of a satellite are accepted before its node is looked up. -/
def Created (group : TleGroup) : Prop := ∃ satellite, setup.createSatellite group.1 group.2.1 group.2.2 = .ok satellite

/-- The lines of a satellite are accepted. -/
def Loads (group : TleGroup) : Prop :=
  ∃ satellite, setup.createSatellite group.1 group.2.1 group.2.2 = .ok satellite ∧
    setup.installMobility satellite = .ok ()

/-- No satellite is left when all nodes have theirs. -/
def Fits (numNodes : Nat) (groups : List TleGroup) : Prop :=
  ∀ group, groups[numNodes]? = some group → (∀ g ∈ groups.take numNodes, Loads setup g) → ¬Created setup group

section Satellites

variable {setup} {numNodes : Nat}

theorem readSatellite_ok {satellites satellites' : List S} {group : TleGroup}
    (hle : satellites.length ≤ numNodes) (hlt : numNodes < 2 ^ 32)
    (h : readSatellite setup numNodes satellites group = .ok satellites') :
    satellites'.length = satellites.length + 1 ∧ satellites'.length ≤ numNodes ∧ Loads setup group := by
  obtain ⟨satellite, hcreate, h⟩ := bind_ok h
  obtain ⟨u, hget, h⟩ := bind_ok h
  obtain ⟨⟨⟩, hinstall, h⟩ := bind_ok h
  cases h
  unfold nodeContainerGet at hget
  rw [toUInt32_eq (by omega)] at hget
  split at hget
  · rename_i hspace
    exact ⟨List.length_append, by rw [List.length_append]; exact hspace, satellite, hcreate, hinstall⟩
  · cases hget

theorem readSatellite_total {satellites : List S} {group : TleGroup} (h : satellites.length < numNodes)
    (hlt : numNodes < 2 ^ 32) (hload : Loads setup group) :
    ∃ satellites', readSatellite setup numNodes satellites group = .ok satellites' ∧
      satellites'.length = satellites.length + 1 := by
  obtain ⟨satellite, hcreate, hinstall⟩ := hload
  refine ⟨satellites ++ [satellite], ?_, List.length_append⟩
  unfold readSatellite
  rw [hcreate, ok_bind, toUInt32_eq (by omega), nodeContainerGet_ok h, ok_bind, hinstall, ok_bind]

theorem readSatellite_reports {satellites : List S} {group : TleGroup} (hlt : satellites.length < 2 ^ 32) :
    Reports (readSatellite setup numNodes satellites group) ↔ (Created setup group → satellites.length < numNodes) := by
  unfold readSatellite Created
  rw [toUInt32_eq hlt]
  have hcreates := setup.createSatellite_reports group.1 group.2.1 group.2.2
  cases hcreate : setup.createSatellite group.1 group.2.1 group.2.2 with
  | error e =>
    rw [hcreate] at hcreates
    refine iff_of_true hcreates ?_
    rintro ⟨_, ⟨⟩⟩
  | ok satellite =>
    rw [ok_bind]
    by_cases hspace : satellites.length < numNodes
    · rw [nodeContainerGet_ok hspace, ok_bind]
      exact iff_of_true ((setup.installMobility_reports satellite).bind fun _ _ => trivial) fun _ => hspace
    · unfold nodeContainerGet
      rw [if_neg hspace]
      exact iff_of_false nofun fun h => hspace (h ⟨satellite, rfl⟩)

theorem forEach_readSatellite_ok {groups : List TleGroup} {satellites : List S} (hlt : numNodes < 2 ^ 32)
    (h : forEach (readSatellite setup numNodes) groups [] = .ok satellites) :
    satellites.length = groups.length ∧ groups.length ≤ numNodes ∧ ∀ g ∈ groups, Loads setup g := by
  have hend := forEach_pre (readSatellite setup numNodes)
    (fun done satellites => satellites.length = done.length ∧ satellites.length ≤ numNodes ∧ ∀ g ∈ done, Loads setup g)
    (fun done satellites group satellites' hs hr => ?_) groups [] [] satellites ⟨rfl, Nat.zero_le _, nofun⟩ h
  · rw [List.nil_append] at hend
    exact ⟨hend.1, hend.1 ▸ hend.2.1, hend.2.2⟩
  · obtain ⟨hlength, hle, hload⟩ := readSatellite_ok hs.2.1 hlt hr
    refine ⟨by rw [hlength, hs.1, List.length_append, List.length_singleton], hle, fun g hg => ?_⟩
    rcases List.mem_append.1 hg with hg | hg
    · exact hs.2.2 g hg
    · rwa [List.mem_singleton.1 hg]

theorem forEach_readSatellite_total {groups : List TleGroup} (hlt : numNodes < 2 ^ 32) (hle : groups.length ≤ numNodes)
    (hload : ∀ g ∈ groups, Loads setup g) :
    ∃ satellites, forEach (readSatellite setup numNodes) groups [] = .ok satellites := by
  have hround : ∀ (done : List TleGroup) (group : TleGroup) (rest : List TleGroup) (satellites : List S),
      groups = done ++ group :: rest → satellites.length = done.length →
        ∃ satellites', readSatellite setup numNodes satellites group = .ok satellites' ∧
          satellites'.length = (done ++ [group]).length := by
    rintro done group rest satellites rfl hs
    rw [List.length_append, List.length_cons] at hle
    obtain ⟨satellites', hr, hlength⟩ := readSatellite_total (show satellites.length < numNodes by omega) hlt
      (hload group (List.mem_append_right _ (List.mem_cons_self ..)))
    exact ⟨satellites', hr, by rw [hlength, hs, List.length_append, List.length_singleton]⟩
  obtain ⟨satellites, h, -⟩ := forEach_ends _ (fun done satellites => satellites.length = done.length) hround groups [] [] rfl rfl
  exact ⟨satellites, h⟩

/-- A satellite more than there are nodes left. -/
theorem fits_zero {group : TleGroup} {groups : List TleGroup} :
    Fits setup 0 (group :: groups) ↔ ¬Created setup group := by
  unfold Fits
  simp

theorem fits_succ {k : Nat} {group : TleGroup} {groups : List TleGroup} :
    Fits setup (k + 1) (group :: groups) ↔ (Loads setup group → Fits setup k groups) := by
  unfold Fits
  simp only [List.getElem?_cons_succ, List.take_succ_cons, List.forall_mem_cons]
  constructor
  · intro h hload g hg hloads
    exact h g hg ⟨hload, hloads⟩
  · rintro h g hg ⟨hload, hloads⟩
    exact h hload g hg hloads

/-- The loop goes wrong exactly if it gets to a satellite without a node. -/
theorem forEach_readSatellite_reports (hlt : numNodes < 2 ^ 32) : ∀ {groups : List TleGroup} {satellites : List S} {k : Nat},
    satellites.length + k = numNodes →
      (Reports (forEach (readSatellite setup numNodes) groups satellites) ↔ Fits setup k groups)
  | [], satellites, k, _ => ⟨fun _ _ h => (by cases h), fun _ => trivial⟩
  | group :: groups, satellites, k, hk => by
    rw [forEach, reports_bind, readSatellite_reports (by omega)]
    cases k with
    | zero =>
      rw [fits_zero]
      constructor
      · rintro ⟨hspace, -⟩ hcreate
        exact absurd (hspace hcreate) (by omega)
      · intro hnot
        refine ⟨fun hcreate => absurd hcreate hnot, fun satellites' hr => ?_⟩
        obtain ⟨-, -, satellite, hcreate, -⟩ := readSatellite_ok (by omega) hlt hr
        exact absurd ⟨satellite, hcreate⟩ hnot
    | succ k =>
      have hspace : satellites.length < numNodes := by omega
      rw [fits_succ]
      constructor
      · rintro ⟨-, hrest⟩ hload
        obtain ⟨satellites', hr, hlength⟩ := readSatellite_total hspace hlt hload
        exact (forEach_readSatellite_reports hlt (by omega)).1 (hrest satellites' hr)
      · intro hfits
        refine ⟨fun _ => hspace, fun satellites' hr => ?_⟩
        obtain ⟨hlength, -, hload⟩ := readSatellite_ok (by omega) hlt hr
        exact (forEach_readSatellite_reports hlt (by omega)).2 (hfits hload)

/-- What `tles.txt` has to contain for `n` satellites to be read. -/
structure SatellitesAccepted (setup : SatelliteSetup S) (tles : Str) (n : Nat) : Prop where
  announced : ∃ numOrbits satellitesPerOrbit, Satellite.announced tles = .ok (numOrbits, satellitesPerOrbit) ∧
    n = numOrbits * satellitesPerOrbit
  length : (satelliteGroups tles).length = n
  lt : n < 2 ^ 32
  loads : ∀ g ∈ satelliteGroups tles, Loads setup g

theorem readSatellites_announced {tles : Str} {numOrbits satellitesPerOrbit : Nat}
    (h : announced tles = .ok (numOrbits, satellitesPerOrbit)) : Reports (readSatellites setup tles) ↔
      numOrbits * satellitesPerOrbit < 2 ^ 63 ∧
        Fits setup (toUInt32 ↑(numOrbits * satellitesPerOrbit)) (satelliteGroups tles) := by
  unfold readSatellites
  rw [h, ok_bind]
  simp only [← Nat.cast_mul]
  generalize numOrbits * satellitesPerOrbit = product
  by_cases hproduct : product < 2 ^ 63
  · rw [int64_eq (by omega) (by omega), ok_bind, reports_bind,
      forEach_readSatellite_reports (toUInt32_lt _) (Nat.zero_add _)]
    refine ⟨fun h => ⟨hproduct, h.1⟩, fun h => ⟨h.2, fun satellites _ => ?_⟩⟩
    split
    · exact rfl
    · exact trivial
  · unfold int64
    rw [if_neg (by omega)]
    exact iff_of_false nofun fun h => hproduct h.1

theorem readSatellites_reports (tles : Str) : Reports (readSatellites setup tles) ↔
    ∀ numOrbits satellitesPerOrbit : Nat, announced tles = .ok (numOrbits, satellitesPerOrbit) →
      numOrbits * satellitesPerOrbit < 2 ^ 63 ∧
        Fits setup (toUInt32 ↑(numOrbits * satellitesPerOrbit)) (satelliteGroups tles) := by
  have hannounces : Reports (announced tles) := parseTwo_reports _
  cases hannounced : announced tles with
  | error e =>
    rw [hannounced] at hannounces
    unfold readSatellites
    rw [hannounced]
    exact iff_of_true hannounces nofun
  | ok p =>
    rw [readSatellites_announced hannounced]
    constructor
    · rintro h _ _ ⟨⟩
      exact h
    · intro h
      exact h _ _ rfl

theorem readSatellites_ok {tles : Str} {satellites : List S} (h : readSatellites setup tles = .ok (numNodes, satellites)) :
    satellites.length = numNodes ∧ SatellitesAccepted setup tles numNodes := by
  obtain ⟨⟨numOrbits, satellitesPerOrbit⟩, hannounced, h⟩ := bind_ok h
  obtain ⟨product, hproduct, h⟩ := bind_ok h
  obtain ⟨satellites', hloop, h⟩ := bind_ok h
  obtain ⟨hlength, hle, hloads⟩ := forEach_readSatellite_ok (toUInt32_lt _) hloop
  obtain rfl := int64_ok hproduct
  obtain ⟨hmatch, h⟩ := ite_error_eq_ok.1 h
  cases h
  have hlt := toUInt32_lt (numOrbits * satellitesPerOrbit)
  have hn : satellites.length = numOrbits * satellitesPerOrbit := by
    have := not_not.1 hmatch
    exact_mod_cast this
  have hnodes : toUInt32 (numOrbits * satellitesPerOrbit) = satellites.length := by
    rw [← Nat.cast_mul, ← hn]
    exact toUInt32_eq (by omega)
  exact ⟨hnodes.symm, ⟨_, _, hannounced, hnodes.trans hn⟩, hlength.symm.trans hnodes.symm, hlt, hloads⟩

theorem SatellitesAccepted.readSatellites {tles : Str} {n : Nat} (h : SatellitesAccepted setup tles n) :
    ∃ satellites, Satellite.readSatellites setup tles = .ok (n, satellites) := by
  obtain ⟨numOrbits, satellitesPerOrbit, hannounced, hn⟩ := h.announced
  have hlt := h.lt
  have hnodes : toUInt32 n = n := toUInt32_eq hlt
  obtain ⟨satellites, hloop⟩ := forEach_readSatellite_total hlt h.length.le h.loads
  obtain ⟨hlength, -⟩ := forEach_readSatellite_ok hlt hloop
  refine ⟨satellites, ?_⟩
  unfold Satellite.readSatellites
  rw [hannounced, ok_bind]
  simp only
  rw [← Nat.cast_mul, ← hn, int64_eq (by omega) (by omega), ok_bind]
  simp only [hnodes, hloop, ok_bind]
  rw [if_neg (by rw [hlength, h.length]; exact fun h => h rfl)]

end Satellites

section GroundStations

variable {doubles}

/-- What line `i` of `ground_stations.txt` has to be. -/
def StationAccepted (doubles : DoubleParsers D) (i : Nat) (line : Str) : Prop :=
  ∃ gs, parseGroundStation doubles line = .ok gs ∧ toUInt32 (i + 1 : Nat) = toUInt32 (gs.gid + 1)

/-- What `ground_stations.txt` has to contain for `m` ground stations to be read. -/
structure StationsAccepted (doubles : DoubleParsers D) (text : Str) (m : Nat) : Prop where
  length : (getlines text).length = m
  lines : ∀ i line, (getlines text)[i]? = some line → StationAccepted doubles i line

theorem parseGroundStation_gid {line : Str} {gs : GroundStation D} (h : parseGroundStation doubles line = .ok gs) :
    gs.gid < 2 ^ 32 := by
  obtain ⟨res, -, h⟩ := bind_ok h
  obtain ⟨gid, -, h⟩ := bind_ok h
  obtain ⟨name, -, h⟩ := bind_ok h
  obtain ⟨latitude, -, h⟩ := bind_ok h
  obtain ⟨longitude, -, h⟩ := bind_ok h
  obtain ⟨elevation, -, h⟩ := bind_ok h
  obtain ⟨x, -, h⟩ := bind_ok h
  obtain ⟨y, -, h⟩ := bind_ok h
  obtain ⟨z, -, h⟩ := bind_ok h
  cases h
  exact toUInt32_lt gid

/-- The node of the ground station is there once its identifier was compared with their number. -/
theorem readGroundStation_eq (groundStations : List (GroundStation D)) (line : Str) :
    readGroundStation doubles groundStations line = (do
      let gs ← parseGroundStation doubles line
      if toUInt32 (groundStations.length + 1 : Nat) ≠ toUInt32 (gs.gid + 1) then
        .error (.runtimeError "GID is not incremented each line")
      else .ok (groundStations ++ [gs])) := by
  unfold readGroundStation
  cases hgs : parseGroundStation doubles line with
  | error e => rfl
  | ok gs =>
    rw [ok_bind, ok_bind]
    simp only [List.length_append, List.length_singleton]
    split
    · rfl
    · rename_i hgid
      have hlt := parseGroundStation_gid hgs
      rw [nodeContainerGet_ok (by unfold toUInt32 at hgid; omega), ok_bind]

theorem readGroundStation_ok {groundStations groundStations' : List (GroundStation D)} {line : Str} :
    readGroundStation doubles groundStations line = .ok groundStations' ↔
      ∃ gs, parseGroundStation doubles line = .ok gs ∧
        toUInt32 (groundStations.length + 1 : Nat) = toUInt32 (gs.gid + 1) ∧ groundStations' = groundStations ++ [gs] := by
  rw [readGroundStation_eq, bind_eq_ok]
  simp only [ite_error_eq_ok, not_not, Except.ok.injEq, @eq_comm _ groundStations']

theorem readGroundStations_reports (text : Str) : Reports (readGroundStations doubles text) := by
  refine reports_forEach (fun _ => True) (fun groundStations line _ => ?_) (fun _ _ _ _ _ => trivial) _ _ trivial
  rw [readGroundStation_eq]
  apply (parseGroundStation_reports doubles line).bind
  intro gs _
  split
  · exact rfl
  · exact trivial

theorem readGroundStations_ok {text : Str} {groundStations : List (GroundStation D)}
    (h : readGroundStations doubles text = .ok groundStations) : StationsAccepted doubles text groundStations.length := by
  have hend := forEach_pre (readGroundStation doubles)
    (fun done groundStations => done.length = groundStations.length ∧
      ∀ i line, done[i]? = some line → StationAccepted doubles i line)
    (fun done groundStations line groundStations' hs hr => ?_) (getlines text) [] [] groundStations ⟨rfl, nofun⟩ h
  · exact ⟨hend.1, hend.2⟩
  · obtain ⟨gs, hgs, hgid, rfl⟩ := readGroundStation_ok.1 hr
    refine ⟨by simp [hs.1], fun i l hl => ?_⟩
    rcases getElem?_concat_iff.1 hl with hl | ⟨rfl, rfl⟩
    · exact hs.2 i l hl
    · exact ⟨gs, hgs, by rw [hs.1]; exact hgid⟩

theorem StationsAccepted.readGroundStations {text : Str} {m : Nat} (h : StationsAccepted doubles text m) :
    ∃ groundStations, Satellite.readGroundStations doubles text = .ok groundStations ∧ groundStations.length = m := by
  have hround : ∀ (done : List Str) (line : Str) (rest : List Str) (groundStations : List (GroundStation D)),
      getlines text = done ++ line :: rest → groundStations.length = done.length →
        ∃ groundStations', readGroundStation doubles groundStations line = .ok groundStations' ∧
          groundStations'.length = (done ++ [line]).length := by
    intro done line rest groundStations hlines hs
    obtain ⟨gs, hgs, hgid⟩ := h.lines done.length line (by rw [hlines]; simp)
    exact ⟨_, readGroundStation_ok.2 ⟨gs, hgs, by rw [hs]; exact hgid, rfl⟩, by simp [hs]⟩
  obtain ⟨groundStations, hloop, hlength⟩ :=
    forEach_ends _ (fun done groundStations => groundStations.length = done.length) hround (getlines text) [] [] rfl rfl
  exact ⟨groundStations, hloop, hlength.trans h.length⟩

end GroundStations

section ISLs

variable {addr : Addresses M} {n numNodes : Nat} {isls : List (Nat × Nat)} {net net' : Network M}

/-- What a line of `isls.txt` has to be when there are `n` satellites. -/
def ISLAccepted (n : Nat) (line : Str) : Prop :=
  ∃ sat0Id sat1Id, parseISL line = .ok (sat0Id, sat1Id) ∧ narrow sat0Id < n ∧ narrow sat1Id < n

/-- The satellites that a line joins. -/
def LineJoins (line : Str) (isl : Nat × Nat) : Prop :=
  ∃ sat0Id sat1Id, parseISL line = .ok (sat0Id, sat1Id) ∧ isl = (narrow sat0Id, narrow sat1Id)

theorem readISLLine_ok {line : Str} (h : readISLLine n net line = .ok net') : ISLAccepted n line ∧
    ∃ isl, LineJoins line isl ∧ readISL n net isl = .ok net' := by
  obtain ⟨⟨sat0Id, sat1Id⟩, hparse, h⟩ := bind_ok h
  have hlt := readISL_lt h
  simp only at hlt
  exact ⟨⟨sat0Id, sat1Id, hparse, hlt⟩, _, ⟨sat0Id, sat1Id, hparse, rfl⟩, h⟩

theorem readISLLine_total {line : Str} (h : ISLAccepted n line) (hn : n ≤ net.nodes.length) :
    ∃ net', readISLLine n net line = .ok net' := by
  obtain ⟨sat0Id, sat1Id, hparse, hlt⟩ := h
  unfold readISLLine
  rw [hparse, ok_bind]
  simp only
  generalize narrow sat0Id = a at hlt
  generalize narrow sat1Id = b at hlt
  exact readISL_total hlt.1 hlt.2 hn

theorem readISLLine_reports (line : Str) (hn : n ≤ net.nodes.length) : Reports (readISLLine n net line) := by
  apply (parseTwo_reports line).bind
  rintro ⟨sat0Id, sat1Id⟩ -
  exact readISL_reports _ hn

variable [DecidableEq M]

theorem readISLs_reports (text : Str) (h : Built addr numNodes isls [] net) (hn : n ≤ numNodes) :
    Reports (readISLs n text net) := by
  refine reports_forEach (fun net => ∃ isls, Built addr numNodes isls [] net) (fun net line hs => ?_) (fun net line net' hs hr => ?_)
    _ _ ⟨isls, h⟩
  · obtain ⟨isls, hs⟩ := hs
    exact readISLLine_reports line (by rw [hs.length]; exact hn)
  · obtain ⟨isls, hs⟩ := hs
    obtain ⟨-, isl, -, hr⟩ := readISLLine_ok hr
    exact ⟨_, readISL_built hs hr⟩

/-- The ISLs of the file are those of the network, and no node got a GSL device. -/
theorem readISLs_ok (addr : Addresses M) {text : Str} (h : readISLs n text (installInternetStacks numNodes) = .ok net) :
    (∀ line ∈ getlines text, ISLAccepted n line) ∧ ∃ isls, List.Forall₂ LineJoins (getlines text) isls ∧
      Built addr numNodes isls [] net ∧ ∀ u, gslCount net.nodes u = 0 := by
  have hend := forEach_pre (readISLLine n)
    (fun done net => (∀ line ∈ done, ISLAccepted n line) ∧ ∃ isls, List.Forall₂ LineJoins done isls ∧
      Built addr numNodes isls [] net ∧ ∀ u, gslCount net.nodes u = 0)
    (fun done net line net' hs hr => ?_) (getlines text) [] _ net
    ⟨nofun, [], .nil, built_init _, gslCount_init _⟩ h
  · exact hend
  · obtain ⟨haccepted, isls, hjoins, hbuilt, hcount⟩ := hs
    obtain ⟨hline, isl, hjoin, hr⟩ := readISLLine_ok hr
    refine ⟨fun l hl => ?_, isls ++ [isl], List.rel_append hjoins (.cons hjoin .nil), readISL_built hbuilt hr, fun u => ?_⟩
    · rcases List.mem_append.1 hl with hl | hl
      · exact haccepted l hl
      · rwa [List.mem_singleton.1 hl]
    · rw [gslCount_readISL hr, hcount]

theorem readISLs_total {text : Str} (h : Built addr numNodes isls [] net) (hn : n ≤ numNodes)
    (haccepted : ∀ line ∈ getlines text, ISLAccepted n line) : ∃ net', readISLs n text net = .ok net' := by
  obtain ⟨net', hrun, -⟩ := forEach_inv (readISLLine n) (fun _ net => ∃ isls, Built addr numNodes isls [] net) (getlines text) []
    net ⟨isls, h⟩ fun line hline done net hs => by
      obtain ⟨isls, hs⟩ := hs
      obtain ⟨net', hr⟩ := readISLLine_total (haccepted line hline) (show n ≤ net.nodes.length by rw [hs.length]; exact hn)
      obtain ⟨-, isl, -, hr'⟩ := readISLLine_ok hr
      exact ⟨net', hr, _, readISL_built hs hr'⟩
  exact ⟨net', hrun⟩

end ISLs

section GslInterfaces

variable {doubles}

/-- The numbers of interfaces in the lines of the nodes from `node` on, up to the first line that is not accepted. -/
def listed (doubles : DoubleParsers D) : Nat → List Str → List Nat
  | _, [] => []
  | node, line :: lines =>
    match parseGslInterfaces doubles line with
    | .ok (nodeId, numIfs, _) => if nodeId = node then numIfs :: listed doubles (node + 1) lines else []
    | .error _ => []

/-- Every number can be added to the total of 32 bits in an `int64_t`. -/
def SumFits : Nat → List Nat → Prop
  | _, [] => True
  | total, numIfs :: counts => total + numIfs < 2 ^ 63 ∧ SumFits (toUInt32 ↑(total + numIfs)) counts

theorem SumFits.lt : ∀ {counts : List Nat} {total : Nat}, SumFits total counts → ∀ c ∈ counts, c < 2 ^ 63
  | [], _, _, _, hc => (by cases hc)
  | numIfs :: counts, total, h, c, hc => by
    rcases List.mem_cons.1 hc with rfl | hc
    · have hlt := h.1
      omega
    · exact SumFits.lt h.2 c hc

/-- A line is either not accepted, or its number is the next one. -/
theorem readGslInterfacesLine_cases (st : List (Int × D) × Nat) (line : Str) (lines : List Str) :
    (∃ e, readGslInterfacesLine doubles st line = .error e ∧ e.isReported = true ∧
      listed doubles st.1.length (line :: lines) = []) ∨
    ∃ (numIfs : Nat) (aggBandwidth : D), listed doubles st.1.length (line :: lines) = numIfs :: listed doubles (st.1.length + 1) lines ∧
      readGslInterfacesLine doubles st line = (do
        let totalNumGslIfs ← int64 ↑(st.2 + numIfs)
        .ok (st.1 ++ [(toInt32 numIfs, aggBandwidth)], toUInt32 totalNumGslIfs)) := by
  unfold readGslInterfacesLine
  rw [listed]
  have hparses := parseGslInterfaces_reports doubles line
  cases hparse : parseGslInterfaces doubles line with
  | error e =>
    rw [hparse] at hparses
    exact .inl ⟨e, rfl, hparses, rfl⟩
  | ok p =>
    obtain ⟨nodeId, numIfs, aggBandwidth⟩ := p
    by_cases hnode : nodeId = st.1.length
    · refine .inr ⟨numIfs, aggBandwidth, by simp only [if_pos hnode], ?_⟩
      rw [ok_bind]
      simp only [hnode, ne_eq, not_true_eq_false, if_false, Nat.cast_add]
    · refine .inl ⟨.runtimeError "Node id must be incremented each line in GSL interfaces info", ?_, rfl,
        by simp only [if_neg hnode]⟩
      rw [ok_bind]
      simp only [ne_eq, hnode, not_false_eq_true, if_true]

theorem forEach_readGslInterfaces_reports (lines : List Str) (st : List (Int × D) × Nat) :
    Reports (forEach (readGslInterfacesLine doubles) lines st) ↔ SumFits st.2 (listed doubles st.1.length lines) := by
  induction lines generalizing st with
  | nil => exact Iff.rfl
  | cons line lines ih =>
    unfold forEach
    obtain ⟨e, hr, he, hlisted⟩ | ⟨numIfs, aggBandwidth, hlisted, hr⟩ := @readGslInterfacesLine_cases _ doubles st line lines
    · rw [hr, hlisted]
      exact iff_of_true he trivial
    · rw [hr, hlisted, SumFits]
      by_cases hsum : st.2 + numIfs < 2 ^ 63
      · rw [int64_eq (by omega) (by omega), ok_bind, ok_bind, ih]
        simp only [List.length_append, List.length_singleton, hsum, true_and]
      · unfold int64
        rw [if_neg (by omega)]
        exact iff_of_false (fun h => by cases h) fun h => hsum h.1

theorem forEach_readGslInterfaces_ok : ∀ {lines : List Str} {st st' : List (Int × D) × Nat}, st.2 < 2 ^ 32 →
    forEach (readGslInterfacesLine doubles) lines st = .ok st' →
      (listed doubles st.1.length lines).length = lines.length ∧
      st'.1.map Prod.fst = st.1.map Prod.fst ++ (listed doubles st.1.length lines).map (fun numIfs : Nat => toInt32 numIfs) ∧
      st'.2 = toUInt32 ↑(st.2 + (listed doubles st.1.length lines).sum)
  | [], st, st', hlt, h => by
    cases h
    exact ⟨rfl, (List.append_nil _).symm, (toUInt32_eq hlt).symm⟩
  | line :: lines, st, st', hlt, h => by
    unfold forEach at h
    obtain ⟨e, hr, -, -⟩ | ⟨numIfs, aggBandwidth, hlisted, hr⟩ := @readGslInterfacesLine_cases _ doubles st line lines
    · rw [hr] at h
      cases h
    · rw [hr] at h
      obtain ⟨st₁, hst₁, h⟩ := bind_ok h
      obtain ⟨total, htotal, hst₁⟩ := bind_ok hst₁
      obtain rfl := int64_ok htotal
      cases hst₁
      obtain ⟨hlength, hinfo, hsum⟩ := forEach_readGslInterfaces_ok (by simp only; exact toUInt32_lt _) h
      simp only [List.length_append, List.length_singleton] at hlength hinfo hsum
      rw [hlisted]
      refine ⟨by rw [List.length_cons, hlength, List.length_cons], by rw [hinfo]; simp, ?_⟩
      rw [hsum, List.sum_cons]
      unfold toUInt32
      omega

theorem forEach_readGslInterfaces_total : ∀ {lines : List Str} {st : List (Int × D) × Nat},
    (listed doubles st.1.length lines).length = lines.length → SumFits st.2 (listed doubles st.1.length lines) →
      ∃ st', forEach (readGslInterfacesLine doubles) lines st = .ok st'
  | [], st, _, _ => ⟨st, rfl⟩
  | line :: lines, st, hlength, hsum => by
    unfold forEach
    obtain ⟨e, -, -, hlisted⟩ | ⟨numIfs, aggBandwidth, hlisted, hr⟩ := @readGslInterfacesLine_cases _ doubles st line lines
    · rw [hlisted] at hlength
      cases hlength
    · rw [hlisted] at hlength hsum
      have hlt := hsum.1
      rw [hr, int64_eq (by omega) (by omega), ok_bind, ok_bind]
      refine forEach_readGslInterfaces_total ?_ ?_
      · simpa using hlength
      · simpa using hsum.2

end GslInterfaces

end SatNet.Satellite
