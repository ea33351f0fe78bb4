/-
`TopologySatelliteNetwork::Build` on the contents of its four files. It checks the number of satellites when they are
all read and the number of GSL devices when they are all installed, the identifiers of an ISL after they were narrowed
to 32 bits, and the number of lines of `gsl_interfaces_info.txt` never. The files for which it nevertheless either reports
an error or builds what they say are described here, and nothing else is.
-/
import SatNet.Satellite.TopologyFiles

namespace SatNet.Satellite

open SatNet.Loop SatNet.Device SatNet.ExpUtil SatNet.Python

/-- The contents of the files. -/
structure TopologyFiles where
  tles : Str
  groundStations : Str
  isls : Str
  gslInterfacesInfo : Str

/-- What `Build` leaves in the fields of the topology: node `sid` is that of satellite `sid`, and those of the ground
stations follow. -/
structure TopologySatelliteNetwork (S D M : Type) where
  satellites : List S
  groundStations : List (GroundStation D)
  network : Network M

namespace TopologySatelliteNetwork

variable {S D M : Type} (setup : SatelliteSetup S) (doubles : DoubleParsers D) (addr : Addresses M)

/-- `CreateGSLs`. The number of ground stations and that of the devices have 32 bits where they bound a loop. -/
def createGSLs (numSatellites numGroundStations : Nat) (text : Str) (net : Network M) : Res (Network M) := do
  let (nodeGslIfInfo, totalNumGslIfs) ← readGslInterfacesInfo doubles text
  let numIfs := nodeGslIfInfo.map fun info => toUInt64 info.1
  let (net, devices) ← installGSLs addr numSatellites (toUInt32 numGroundStations) numIfs net
  let nodes ← Node.assign net.nodes (devices.take (toUInt32 devices.length))
  if totalNumGslIfs ≠ toUInt32 devices.length then
    .error (.abort "Not the expected amount of interfaces has been created.")
  else .ok { net with nodes := nodes }

/-- `Build`, with the settings of the links read. -/
def build (files : TopologyFiles) : Res (TopologySatelliteNetwork S D M) := do
  let (numNodes, satellites) ← readSatellites setup files.tles
  let groundStations ← readGroundStations doubles files.groundStations
  let net ← readISLs satellites.length files.isls (installInternetStacks (numNodes + groundStations.length))
  let net ← createGSLs doubles addr numNodes groundStations.length files.gslInterfacesInfo net
  .ok ⟨satellites, groundStations, net⟩

/-! ## GSL devices -/

section GSLs

variable {doubles} {numSatellites numGroundStations : Nat} {text : Str} {net net' : Network M}

/-- What `CreateGSLs` leaves, when `counts` are the numbers of the file and `k` the number of nodes that get devices. -/
structure Created (counts : List Nat) (k : Nat) (net net' : Network M) : Prop where
  lasers : net'.lasers = net.lasers
  length : net'.nodes.length = net.nodes.length
  count : ∀ u, gslCount net'.nodes u = gslCount net.nodes u + if u < k then narrow (counts.getD u 0) else 0

/-- The run of `CreateGSLs` once the file is read. -/
theorem createGSLs_read {st : List (Int × D) × Nat} (hread : readGslInterfacesInfo doubles text = .ok st)
    (hn : numSatellites + toUInt32 numGroundStations ≤ net.nodes.length) {counts : List Nat}
    (hcounts : counts = listed doubles 0 (getlines text)) :
    counts.length = (getlines text).length ∧
      (counts.length < numSatellites + toUInt32 numGroundStations →
        createGSLs doubles addr numSatellites numGroundStations text net = .error (.undefined "vector index out of range")) ∧
      (numSatellites + toUInt32 numGroundStations ≤ counts.length →
        ∃ net', Created counts (numSatellites + toUInt32 numGroundStations) net net' ∧
          createGSLs doubles addr numSatellites numGroundStations text net =
            if (counts.drop (numSatellites + toUInt32 numGroundStations)).sum % 2 ^ 32 ≠ 0 then
              .error (.abort "Not the expected amount of interfaces has been created.")
            else .ok net') := by
  obtain ⟨infos, total⟩ := st
  obtain ⟨hlength, hinfos, htotal⟩ := forEach_readGslInterfaces_ok (Nat.two_pow_pos 32) hread
  simp only [List.length_nil, List.map_nil, List.nil_append, Nat.zero_add, ← hcounts] at hlength hinfos htotal
  have hifs : (infos.map fun info => toUInt64 info.1) = counts.map narrow := by
    have hfst : (infos.map fun info => toUInt64 info.1) = (infos.map Prod.fst).map toUInt64 := by
      rw [List.map_map]
      rfl
    rw [hfst, hinfos, List.map_map]
    refine List.map_congr_left fun c _ => ?_
    rw [narrow_eq, Function.comp_apply]
  refine ⟨hlength, fun hlt => ?_, fun hle => ?_⟩
  · unfold createGSLs
    rw [hread, ok_bind]
    simp only [hifs]
    rw [installGSLs_undefined addr (by simpa using hlt) hn, error_bind]
  · obtain ⟨⟨net₁, devices⟩, hinstall, hinstalled⟩ :=
      @installGSLs_installed _ addr net numSatellites (toUInt32 numGroundStations) (counts.map narrow) (by simpa using hle) hn
    obtain ⟨nodes', hassign⟩ := @Node.assign_total _ (devices.take (toUInt32 devices.length)) net₁.nodes fun e he => by
      have hlen := hinstalled.length
      simp only at hlen
      rw [hlen]
      exact hinstalled.nodes e (List.mem_of_mem_take he)
    refine ⟨{ net₁ with nodes := nodes' }, ⟨hinstalled.lasers, ?_, fun u => ?_⟩, ?_⟩
    · exact (Node.assign_devicesOf hassign).1.trans hinstalled.length
    · show gslCount nodes' u = _
      rw [gslCount_assign hassign, hinstalled.count]
      by_cases hu : u < numSatellites + toUInt32 numGroundStations
      · rw [if_pos hu, if_pos hu, List.getD_eq_getElem?_getD, List.getElem?_map, List.getD_eq_getElem?_getD,
          List.getElem?_eq_getElem (by omega), Option.map_some, Option.getD_some, Option.getD_some]
      · rw [if_neg hu, if_neg hu]
    · -- the narrowed numbers of the nodes add up to the total if those of the other lines do to nothing
      have hcheck : total = toUInt32 devices.length ↔
          (counts.drop (numSatellites + toUInt32 numGroundStations)).sum % 2 ^ 32 = 0 := by
        have htake := narrow_sum_mod (counts.take (numSatellites + toUInt32 numGroundStations))
        have hsum := congrArg List.sum (List.take_append_drop (numSatellites + toUInt32 numGroundStations) counts)
        rw [List.sum_append] at hsum
        rw [htotal, hinstalled.total, ← List.map_take]
        unfold toUInt32 at *
        omega
      unfold createGSLs
      rw [hread, ok_bind]
      simp only [hifs, hinstall, ok_bind, hassign, ne_eq, hcheck]

theorem readGslInterfacesInfo_reports (text : Str) :
    Reports (readGslInterfacesInfo doubles text) ↔ SumFits 0 (listed doubles 0 (getlines text)) :=
  forEach_readGslInterfaces_reports (getlines text) ([], 0)

theorem createGSLs_total {counts : List Nat} (hcounts : counts = listed doubles 0 (getlines text))
    (hn : numSatellites + toUInt32 numGroundStations ≤ net.nodes.length) (hfits : SumFits 0 counts)
    (hlength : counts.length = (getlines text).length) (hle : numSatellites + toUInt32 numGroundStations ≤ counts.length)
    (hdrop : (counts.drop (numSatellites + toUInt32 numGroundStations)).sum % 2 ^ 32 = 0) :
    ∃ net', Created counts (numSatellites + toUInt32 numGroundStations) net net' ∧
      createGSLs doubles addr numSatellites numGroundStations text net = .ok net' := by
  obtain ⟨st, hread⟩ := @forEach_readGslInterfaces_total _ doubles (getlines text) ([], 0) (hcounts ▸ hlength) (hcounts ▸ hfits)
  obtain ⟨-, -, hcreated⟩ := createGSLs_read addr hread hn hcounts
  obtain ⟨net', hnet', hrun⟩ := hcreated hle
  rw [if_neg (not_not.2 hdrop)] at hrun
  exact ⟨net', hnet', hrun⟩

/-- What the end of `CreateGSLs` depends on. -/
theorem createGSLs_iff (Q : Network M → Prop) {counts : List Nat} (hcounts : counts = listed doubles 0 (getlines text))
    (hn : numSatellites + toUInt32 numGroundStations ≤ net.nodes.length) :
    ReportsOr Q (createGSLs doubles addr numSatellites numGroundStations text net) ↔
      SumFits 0 counts ∧ (counts.length = (getlines text).length →
        numSatellites + toUInt32 numGroundStations ≤ counts.length ∧
          ((counts.drop (numSatellites + toUInt32 numGroundStations)).sum % 2 ^ 32 = 0 →
            ∃ net', Created counts (numSatellites + toUInt32 numGroundStations) net net' ∧
              createGSLs doubles addr numSatellites numGroundStations text net = .ok net' ∧ Q net')) := by
  have hreads := @readGslInterfacesInfo_reports _ doubles text
  rw [← hcounts] at hreads
  constructor
  · intro h
    have hsum : SumFits 0 counts := hreads.1 (reportsOr_bind.1 h).reports
    refine ⟨hsum, fun hlength => ?_⟩
    obtain ⟨st, hread⟩ := @forEach_readGslInterfaces_total _ doubles (getlines text) ([], 0) (hcounts ▸ hlength) (hcounts ▸ hsum)
    have hle : numSatellites + toUInt32 numGroundStations ≤ counts.length := by
      by_contra hlt
      rw [(createGSLs_read addr hread hn hcounts).2.1 (by omega)] at h
      cases h
    refine ⟨hle, fun hdrop => ?_⟩
    obtain ⟨net', hnet', hrun⟩ := createGSLs_total addr hcounts hn hsum hlength hle hdrop
    rw [hrun] at h
    exact ⟨net', hnet', hrun, h⟩
  · rintro ⟨hsum, h⟩
    cases hread : readGslInterfacesInfo doubles text with
    | error e =>
      have he := hreads.2 hsum
      unfold createGSLs
      rw [hread] at he ⊢
      exact he
    | ok st =>
      obtain ⟨hlength, -, hcreated⟩ := createGSLs_read addr hread hn hcounts
      obtain ⟨hle, h⟩ := h hlength
      obtain ⟨net', -, hrun⟩ := hcreated hle
      by_cases hdrop : (counts.drop (numSatellites + toUInt32 numGroundStations)).sum % 2 ^ 32 = 0
      · obtain ⟨net₁, -, hrun₁, hq⟩ := h hdrop
        rw [hrun₁]
        exact hq
      · rw [hrun, if_pos hdrop]
        exact rfl

end GSLs

/-! ## The files and the network -/

/-- Laser channel `k` joins the two satellites that the line names, and nothing else. -/
def JoinsNamed (numSatellites : Nat) (lasers : List (PointToPointLaserChannel End)) (k : Nat) (line : Str) : Prop :=
  ∃ (sat0Id sat1Id : Nat) (ch : PointToPointLaserChannel End) (e₀ e₁ : End), parseISL line = .ok (sat0Id, sat1Id) ∧
    lasers[k]? = some ch ∧ ch.attached = [e₀, e₁] ∧ e₀.1 = sat0Id ∧ e₁.1 = sat1Id ∧
    sat0Id < numSatellites ∧ sat1Id < numSatellites

/-- The network is what the files say. -/
structure Consistent (doubles : DoubleParsers D) (files : TopologyFiles) (t : TopologySatelliteNetwork S D M) : Prop where
  satellites : ∃ numOrbits satellitesPerOrbit, announced files.tles = .ok (numOrbits, satellitesPerOrbit) ∧
    t.satellites.length = numOrbits * satellitesPerOrbit
  nodes : t.network.nodes.length = t.satellites.length + t.groundStations.length
  interfaces : ∀ u < t.network.nodes.length,
    (listed doubles 0 (getlines files.gslInterfacesInfo))[u]? = some (gslCount t.network.nodes u)
  links : t.network.lasers.length = (getlines files.isls).length
  isls : ∀ (k : Nat) (line : Str), (getlines files.isls)[k]? = some line →
    JoinsNamed t.satellites.length t.network.lasers k line

/-- What the files have to be when those of the `n` satellites and `m` ground stations and the ISLs are accepted: the numbers of
interfaces can be added up, there is a line for every node, and when the last check passes, no identifier of an ISL has
more than 32 bits and no number of interfaces of a node more than 31. -/
structure InterfacesSound (doubles : DoubleParsers D) (files : TopologyFiles) (n m : Nat) (counts : List Nat) : Prop where
  fits : SumFits 0 counts
  enough : counts.length = (getlines files.gslInterfacesInfo).length → n + toUInt32 m ≤ counts.length
  narrowed : counts.length = (getlines files.gslInterfacesInfo).length → (counts.drop (n + toUInt32 m)).sum % 2 ^ 32 = 0 →
    (∀ line ∈ getlines files.isls, ∀ sat0Id sat1Id, parseISL line = .ok (sat0Id, sat1Id) →
      sat0Id < 2 ^ 32 ∧ sat1Id < 2 ^ 32) ∧
    ∀ u < n + m, ∃ c, counts[u]? = some c ∧ c < 2 ^ 31 ∧ (u < n + toUInt32 m ∨ c = 0)

/-- What the files have to be for `Build` to report an error or to build what they say. -/
structure Sound (setup : SatelliteSetup S) (doubles : DoubleParsers D) (files : TopologyFiles) : Prop where
  satellites : ∀ numOrbits satellitesPerOrbit : Nat, announced files.tles = .ok (numOrbits, satellitesPerOrbit) →
    numOrbits * satellitesPerOrbit < 2 ^ 63 ∧
      Fits setup (toUInt32 ↑(numOrbits * satellitesPerOrbit)) (satelliteGroups files.tles)
  interfaces : ∀ n m, SatellitesAccepted setup files.tles n → StationsAccepted doubles files.groundStations m →
    (∀ line ∈ getlines files.isls, ISLAccepted n line) →
      InterfacesSound doubles files n m (listed doubles 0 (getlines files.gslInterfacesInfo))

section Consistent

variable {setup} {doubles} {addr} {files : TopologyFiles} {n m : Nat} {counts : List Nat} {net net' : Network M}

/-- Every node has the listed number of devices if none of the numbers was changed on the way. -/
theorem interfaces_iff {k : Nat} (hcreated : Created counts k net net') (hzero : ∀ u, gslCount net.nodes u = 0)
    (hfits : SumFits 0 counts) (u : Nat) : counts[u]? = some (gslCount net'.nodes u) ↔
      ∃ c, counts[u]? = some c ∧ c < 2 ^ 31 ∧ (u < k ∨ c = 0) := by
  rw [hcreated.count, hzero, Nat.zero_add, List.getD_eq_getElem?_getD]
  cases hc : counts[u]? with
  | none => simp
  | some c =>
    have hlt := hfits.lt c (List.mem_of_getElem? hc)
    rw [Option.getD_some, Option.some.injEq]
    simp only [Option.some.injEq, exists_eq_left']
    by_cases hu : u < k
    · rw [if_pos hu, eq_comm, narrow_eq_iff hlt]
      simp [hu]
    · rw [if_neg hu]
      constructor
      · rintro rfl
        exact ⟨Nat.two_pow_pos 31, .inr rfl⟩
      · rintro ⟨-, hk | rfl⟩
        · exact absurd hk hu
        · rfl

variable [DecidableEq M]

/-- Every line joins the satellites that it names if none of the identifiers was changed on the way. -/
theorem isls_iff {isls : List (Nat × Nat)} {numNodes : Nat} (hlasers : net'.lasers = net.lasers)
    (haccepted : ∀ line ∈ getlines files.isls, ISLAccepted n line) (hjoins : List.Forall₂ LineJoins (getlines files.isls) isls)
    (hbuilt : Built addr numNodes isls [] net) (hlt : n < 2 ^ 32) :
    (∀ (k : Nat) (line : Str), (getlines files.isls)[k]? = some line → JoinsNamed n net'.lasers k line) ↔
      ∀ line ∈ getlines files.isls, ∀ sat0Id sat1Id, parseISL line = .ok (sat0Id, sat1Id) →
        sat0Id < 2 ^ 32 ∧ sat1Id < 2 ^ 32 := by
  constructor
  · intro h line hline sat0Id sat1Id hparse
    obtain ⟨k, hk⟩ := List.getElem?_of_mem hline
    obtain ⟨a, b, -, -, -, hparse', -, -, -, -, ha, hb⟩ := h k line hk
    rw [hparse'] at hparse
    cases hparse
    omega
  · intro h k line hk
    have hline := List.mem_of_getElem? hk
    obtain ⟨a, b, hparse, ha, hb⟩ := haccepted line hline
    obtain ⟨ha32, hb32⟩ := h line hline a b hparse
    obtain ⟨ha63, hb63⟩ := parseISL_lt hparse
    have hka : k < net'.lasers.length := by
      rw [hlasers, hbuilt.links, ← hjoins.length_eq]
      exact (List.getElem?_eq_some_iff.1 hk).1
    have hch := List.getElem?_eq_getElem hka
    obtain ⟨e₀, e₁, hattached, -, hisl⟩ := hbuilt.ends k net'.lasers[k] (by rw [← hlasers]; exact hch)
    obtain ⟨line', hk', a', b', hparse', hpair⟩ := forall₂_getElem? hjoins hisl
    obtain rfl : line = line' := Option.some.inj (hk.symm.trans hk')
    rw [hparse] at hparse'
    cases hparse'
    obtain ⟨h₀, h₁⟩ := Prod.mk.inj hpair
    rw [(narrow_lt_iff ha63 ha hlt).2 ha32] at h₀ ha
    rw [(narrow_lt_iff hb63 hb hlt).2 hb32] at h₁ hb
    exact ⟨a, b, _, e₀, e₁, hparse, hch, hattached, h₀, h₁, ha, hb⟩

/-- `CreateGSLs` on the network with its ISLs. -/
theorem createGSLs_sound_iff {satellites : List S} {groundStations : List (GroundStation D)}
    (haccepted : SatellitesAccepted setup files.tles n) (hsatellites : satellites.length = n)
    (hisls : readISLs n files.isls (installInternetStacks (n + groundStations.length)) = .ok net) :
    ReportsOr (fun net' => Consistent doubles files ⟨satellites, groundStations, net'⟩)
        (createGSLs doubles addr n groundStations.length files.gslInterfacesInfo net) ↔
      InterfacesSound doubles files n groundStations.length (listed doubles 0 (getlines files.gslInterfacesInfo)) := by
  obtain ⟨hlines, isls, hjoins, hbuilt, hzero⟩ := readISLs_ok addr hisls
  have hm : toUInt32 groundStations.length ≤ groundStations.length := by
    unfold toUInt32
    omega
  rw [createGSLs_iff addr _ rfl (by rw [hbuilt.length]; omega)]
  generalize hcounts : listed doubles 0 (getlines files.gslInterfacesInfo) = counts
  -- a network that was created says the same as the files if the numbers were not changed
  have hiff : ∀ net', SumFits 0 counts → Created counts (n + toUInt32 groundStations.length) net net' →
      (Consistent doubles files ⟨satellites, groundStations, net'⟩ ↔
        (∀ line ∈ getlines files.isls, ∀ sat0Id sat1Id, parseISL line = .ok (sat0Id, sat1Id) →
          sat0Id < 2 ^ 32 ∧ sat1Id < 2 ^ 32) ∧
        ∀ u < n + groundStations.length, ∃ c, counts[u]? = some c ∧ c < 2 ^ 31 ∧
          (u < n + toUInt32 groundStations.length ∨ c = 0)) := by
    intro net' hfits hcreated
    have hnodes : net'.nodes.length = n + groundStations.length := hcreated.length.trans hbuilt.length
    rw [← isls_iff hcreated.lasers hlines hjoins hbuilt haccepted.lt]
    simp only [← interfaces_iff hcreated hzero hfits]
    constructor
    · intro h
      refine ⟨fun k line hk => hsatellites ▸ h.isls k line hk, fun u hu => ?_⟩
      rw [← hcounts]
      exact h.interfaces u (by simpa [hnodes] using hu)
    · rintro ⟨hjoined, hinterfaces⟩
      obtain ⟨numOrbits, satellitesPerOrbit, hannounced, hn⟩ := haccepted.announced
      refine ⟨⟨numOrbits, satellitesPerOrbit, hannounced, hsatellites.trans hn⟩, ?_, fun u hu => ?_, ?_, fun k line hk => ?_⟩
      · rw [hsatellites]
        exact hnodes
      · rw [hcounts]
        exact hinterfaces u (by simpa [hnodes] using hu)
      · rw [hjoins.length_eq, ← hbuilt.links]
        exact congrArg List.length hcreated.lasers
      · rw [hsatellites]
        exact hjoined k line hk
  constructor
  · rintro ⟨hfits, h⟩
    refine ⟨hfits, fun hlength => (h hlength).1, fun hlength hdrop => ?_⟩
    obtain ⟨net', hcreated, -, hconsistent⟩ := (h hlength).2 hdrop
    exact (hiff net' hfits hcreated).1 hconsistent
  · intro h
    refine ⟨h.fits, fun hlength => ⟨h.enough hlength, fun hdrop => ?_⟩⟩
    obtain ⟨net', hcreated, hrun⟩ := createGSLs_total addr hcounts.symm (by rw [hbuilt.length]; omega) h.fits hlength
      (h.enough hlength) hdrop
    exact ⟨net', hcreated, hrun, (hiff net' h.fits hcreated).2 (h.narrowed hlength hdrop)⟩

/-- `Build` reports an error or builds what the files say, exactly if the files are sound. -/
theorem build_reportsOr_consistent_iff (files : TopologyFiles) :
    ReportsOr (Consistent doubles files) (build setup doubles addr files) ↔ Sound setup doubles files := by
  constructor
  · intro h
    refine ⟨(readSatellites_reports files.tles).1 (reportsOr_bind.1 h).reports, fun n m hn hm hlines => ?_⟩
    obtain ⟨satellites, hread⟩ := hn.readSatellites
    obtain ⟨groundStations, hstations, rfl⟩ := hm.readGroundStations
    obtain ⟨net, hisls⟩ := readISLs_total (built_init (n + groundStations.length) : Built addr _ _ _ _) (Nat.le_add_right n _) hlines
    obtain ⟨hsatellites, -⟩ := readSatellites_ok hread
    unfold build at h
    rw [hread, ok_bind] at h
    simp only [hstations, ok_bind, hsatellites, hisls] at h
    exact (createGSLs_sound_iff hn hsatellites hisls).1 (reportsOr_bind.1 h)
  · intro h
    refine reportsOr_bind.2 (((readSatellites_reports files.tles).2 h.satellites).reportsOr.2 ?_)
    rintro ⟨n, satellites⟩ hread
    obtain ⟨hsatellites, hn⟩ := readSatellites_ok hread
    refine reportsOr_bind.2 ((readGroundStations_reports files.groundStations).reportsOr.2 fun groundStations hstations => ?_)
    have hisls := readISLs_reports files.isls (built_init (n + groundStations.length) : Built addr _ _ _ _) (Nat.le_add_right n _)
    simp only [hsatellites]
    refine reportsOr_bind.2 (hisls.reportsOr.2 fun net hnet => ?_)
    refine reportsOr_bind.2 ((createGSLs_sound_iff hn hsatellites hnet).2 (h.interfaces n _ hn ?_ ?_))
    · exact readGroundStations_ok hstations
    · exact (readISLs_ok addr hnet).1

end Consistent

/-! ## A file with too few lines -/

/-- A satellite that keeps its lines, which `SetName` and `SetTleInfo` check. -/
def checkedSetup : SatelliteSetup TleGroup where
  createSatellite name tle1 tle2 :=
    if name = [] then .error (.assertion "Name cannot be empty!")
    else if tle1.length ≠ 69 ∨ tle2.length ≠ 69 then
      .error (.assertion "Two-Line Element info lines must be of length69!")
    else .ok (name, tle1, tle2)
  installMobility _ := .ok ()
  createSatellite_reports name tle1 tle2 := by
    split
    · exact rfl
    · split
      · exact rfl
      · exact trivial
  installMobility_reports _ := trivial

/-- Doubles that are written without a point. -/
def wholeDoubles : DoubleParsers Int where
  parseDouble := parseInt64
  parsePositiveDouble str := do
    let val ← parsePositiveInt64 str
    .ok val
  parseDouble_defined := defined_parseInt64
  parsePositiveDouble_defined str := (defined_parsePositiveInt64 str).bind fun _ _ => defined_ok _

def tle1 : Str := "1 00001U 00000ABC 00001.00000000  .00000000  00000-0  00000+0 0    04".toList
def tle2 : Str := "2 00001  53.0000   0.0000 0000001   0.0000   0.0000 15.19000000    04".toList

/-- One satellite and one ground station, of which only the satellite has its line in `gsl_interfaces_info.txt`. -/
def missingLine : TopologyFiles where
  tles := "1 1\nSatellite 0\n".toList ++ tle1 ++ '\n' :: tle2 ++ ['\n']
  groundStations := "0,Tokyo,0,0,0,0,0,0\n".toList
  isls := []
  gslInterfacesInfo := "0,1,1\n".toList

theorem satelliteGroups_missingLine : satelliteGroups missingLine.tles = [("Satellite 0".toList, tle1, tle2)] := by
  unfold satelliteGroups
  rw [tleGroups_group rfl, tleGroups_end rfl]
  rfl

theorem readSatellites_missingLine :
    readSatellites checkedSetup missingLine.tles = .ok (1, [("Satellite 0".toList, tle1, tle2)]) := by
  have hannounced : announced missingLine.tles = .ok (1, 1) := rfl
  have hproduct : int64 ((1 : Nat) * (1 : Nat)) = .ok 1 := int64_eq (by decide) (by decide)
  unfold readSatellites
  rw [hannounced, satelliteGroups_missingLine, ok_bind]
  simp only [hproduct, ok_bind]
  rfl

theorem createGSLs_missingLine : createGSLs wholeDoubles pairAddresses 1 1
    missingLine.gslInterfacesInfo (installInternetStacks 2) = .error (.undefined "vector index out of range") := by
  have hparse : parseGslInterfaces wholeDoubles "0,1,1".toList = .ok (0, 1, 1) := rfl
  have htotal : int64 ((0 : Nat) + (1 : Nat)) = .ok 1 := int64_eq (by decide) (by decide)
  have hread : readGslInterfacesInfo wholeDoubles missingLine.gslInterfacesInfo = .ok ([(1, 1)], 1) := by
    show forEach _ ["0,1,1".toList] _ = _
    unfold forEach readGslInterfacesLine
    rw [hparse, ok_bind]
    simp only [List.length_nil, ne_eq, not_true_eq_false, if_false, htotal, ok_bind]
    rfl
  unfold createGSLs
  rw [hread, ok_bind]
  rfl

theorem build_missingLine : build checkedSetup wholeDoubles pairAddresses missingLine =
    .error (.undefined "vector index out of range") := by
  have hstations : readGroundStations wholeDoubles missingLine.groundStations = .ok [⟨0, "Tokyo".toList, 0, 0, 0, 0, 0, 0⟩] := rfl
  have hisls : readISLs 1 missingLine.isls (installInternetStacks (1 + 1) : Network End) = .ok (installInternetStacks 2) := rfl
  unfold build
  rw [readSatellites_missingLine, ok_bind]
  simp only [hstations, ok_bind, List.length_singleton, hisls, createGSLs_missingLine, error_bind]

theorem build_counterexample : ¬ReportsOr (Consistent wholeDoubles missingLine)
    (build checkedSetup wholeDoubles pairAddresses missingLine) := by
  rw [build_missingLine]
  exact nofun

end TopologySatelliteNetwork

end SatNet.Satellite
