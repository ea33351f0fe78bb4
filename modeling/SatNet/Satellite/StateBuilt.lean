/-
What the simulator builds from the files of `gen_state.py`: they are accepted, satellite `i` of the shells is node `i`, the
ground stations follow in their order under the numbers that `node_ids.txt` gives them, and no ISL leaves its shell.
-/
import SatNet.Satellite.StateFiles

namespace SatNet.Satellite.GenState

open SatNet.Loop SatNet.Device SatNet.ExpUtil SatNet.Python

variable {φ D S M : Type} {g : Satgen φ} {elements : Str → Str → Prop}

/-! ## What the simulator reads -/

theorem parseTwo_islLine {p : Nat × Nat} (h₁ : p.1 < 2 ^ 63) (h₂ : p.2 < 2 ^ 63) : parseTwo (islLine p) = .ok p := by
  have hsplit : splitStringExpected (islLine p) " ".toList 2 = .ok [formatD p.1, formatD p.2] :=
    splitStringExpected_ok.2 ⟨separates_pair (not_mem_formatD rfl _) (not_mem_formatD rfl _), rfl⟩
  unfold parseTwo
  rw [hsplit, ok_bind]
  simp only [index, List.getElem?_cons_zero, List.getElem?_cons_succ, ok_bind, parsePositiveInt64_formatD h₁,
    parsePositiveInt64_formatD h₂]

variable {setup : SatelliteSetup S} {doubles : DoubleParsers D}

/-- Every satellite is made of the lines of its group. -/
theorem readSatellites_created {tles : Str} {n : Nat} {satellites : List S}
    (h : readSatellites setup tles = .ok (n, satellites)) :
    List.Forall₂ (fun group sat => setup.createSatellite group.1 group.2.1 group.2.2 = .ok sat) (satelliteGroups tles)
      satellites := by
  obtain ⟨⟨numOrbits, satellitesPerOrbit⟩, -, h⟩ := bind_ok h
  obtain ⟨product, -, h⟩ := bind_ok h
  obtain ⟨satellites', hloop, h⟩ := bind_ok h
  obtain ⟨-, h⟩ := ite_error_eq_ok.1 h
  cases h
  refine forEach_pre (readSatellite setup (toUInt32 product))
    (fun done satellites => List.Forall₂
      (fun (group : TleGroup) sat => setup.createSatellite group.1 group.2.1 group.2.2 = .ok sat) done satellites)
    (fun done satellites group satellites' hs hr => ?_) _ [] [] satellites .nil hloop
  obtain ⟨sat, hcreate, hr⟩ := bind_ok hr
  obtain ⟨-, -, hr⟩ := bind_ok hr
  obtain ⟨-, -, hr⟩ := bind_ok hr
  cases hr
  exact List.rel_append hs (.cons hcreate .nil)

/-- The files about the satellites are accepted. -/
theorem SatelliteFiles.read (hload : LoadsElements setup elements) {shells : List (Shell φ)} {names : Nat → Str}
    {tles isls : Str} {n : Nat} (h : SatelliteFiles g elements shells names tles isls n) (hpos : 0 < n) (hlt : n < 2 ^ 32)
    (hnames : ∀ k, Unbroken (names k)) :
    ∃ satellites, readSatellites setup tles = .ok (n, satellites) ∧ satellites.length = n ∧
      ∀ i < n, ∃ k group sat, OfShell g elements shells names k i group ∧ (satelliteGroups tles)[i]? = some group ∧
        satellites[i]? = some sat ∧ setup.createSatellite group.1 group.2.1 group.2.2 = .ok sat := by
  obtain ⟨a, b, groups, hab, htles, hcount, hgroups⟩ := h.tles
  have ha : a ≤ n := Nat.le_of_dvd hpos ⟨b, hab.symm⟩
  have hb : b ≤ n := Nat.le_of_dvd hpos ⟨a, by rw [← hab, Nat.mul_comm]⟩
  have hlines : ∀ group ∈ groups, ∀ l ∈ groupLines group, '\n' ∉ l := by
    intro group hgroup l hl
    obtain ⟨i, hi⟩ := List.mem_iff_getElem?.1 hgroup
    obtain ⟨k, hsat⟩ := hgroups i group hi
    exact (hsat.satellite.unbroken (hnames k) l hl).not_mem rfl
  obtain ⟨hread, hannounced⟩ := satelliteGroups_writeLines (Unbroken.not_mem (unbroken_islLine (a, b)) rfl) hlines
  rw [show formatD a ++ ' ' :: formatD b = islLine (a, b) from rfl] at htles
  rw [← htles] at hread hannounced
  have haccepted : SatellitesAccepted setup tles n := by
    refine ⟨⟨a, b, ?_, hab.symm⟩, by rw [hread, hcount], hlt, fun group hgroup => ?_⟩
    · rw [hannounced, parseTwo_islLine (by simp only; omega) (by simp only; omega)]
    · obtain ⟨i, hi⟩ := List.mem_iff_getElem?.1 (hread ▸ hgroup)
      obtain ⟨k, hsat⟩ := hgroups i group hi
      exact hload _ _ _ (by rw [hsat.satellite.1]; simp) hsat.satellite.2
  obtain ⟨satellites, hsatellites⟩ := haccepted.readSatellites
  obtain ⟨hlength, -⟩ := readSatellites_ok hsatellites
  refine ⟨satellites, hsatellites, hlength, fun i hi => ?_⟩
  obtain ⟨group, hgroup, hcreate⟩ := forall₂_getElem? (readSatellites_created hsatellites)
    (List.getElem?_eq_getElem (hlength.symm ▸ hi))
  obtain ⟨k, hsat⟩ := hgroups i group (hread ▸ hgroup)
  exact ⟨k, group, _, hsat, hgroup, List.getElem?_eq_getElem (hlength.symm ▸ hi), hcreate⟩

/-- A line whose fields have no comma is cut into them. -/
theorem splitStringExpected_commaSeparated {fields : List Str} (hne : fields ≠ []) (h : ∀ field ∈ fields, ',' ∉ field) :
    splitStringExpected (commaSeparated fields) ",".toList fields.length = .ok fields :=
  splitStringExpected_ok.2 ⟨⟨hne, rfl, h⟩, rfl⟩

theorem noNewline_commaSeparated {fields : List Str} (h : ∀ field ∈ fields, '\n' ∉ field) : '\n' ∉ commaSeparated fields := by
  unfold commaSeparated
  induction fields with
  | nil => exact List.not_mem_nil
  | cons field rest ih =>
    obtain ⟨hfield, hrest⟩ := List.forall_mem_cons.1 h
    cases rest with
    | nil => simpa using hfield
    | cons field' rest =>
      rw [List.intercalate_cons_cons, List.mem_append, List.mem_append]
      rintro ((hm | hm) | hm)
      · exact hfield hm
      · exact absurd hm (by decide)
      · exact ih hrest hm

theorem parseGroundStation_written {i : Nat} {name : Str} {numbers : List Str} (hi : i < 2 ^ 32) (hname : ',' ∉ name)
    (hlength : numbers.length = 6) (h : ∀ t ∈ numbers, IsNumber doubles.parseDouble t) :
    ∃ gs, parseGroundStation doubles (commaSeparated (formatD i :: name :: numbers)) = .ok gs ∧ gs.gid = i ∧ gs.name = name := by
  have hsplit : splitStringExpected (commaSeparated (formatD i :: name :: numbers)) ",".toList 8 =
      .ok (formatD i :: name :: numbers) := by
    have height : (formatD i :: name :: numbers).length = 8 := by rw [List.length_cons, List.length_cons, hlength]
    rw [← height]
    exact splitStringExpected_commaSeparated (List.cons_ne_nil _ _)
      (List.forall_mem_cons.2 ⟨not_mem_formatD rfl i, List.forall_mem_cons.2 ⟨hname, fun t ht => (h t ht).1⟩⟩)
  have hnumber : ∀ j < 6, ∃ x, (index (formatD i :: name :: numbers) (j + 2) >>= doubles.parseDouble) = .ok x := by
    intro j hj
    obtain ⟨-, -, x, hx⟩ := h numbers[j] (List.getElem_mem _)
    refine ⟨x, ?_⟩
    have hat : (formatD i :: name :: numbers)[j + 2]? = some numbers[j] := by
      rw [List.getElem?_cons_succ, List.getElem?_cons_succ, List.getElem?_eq_getElem]
    rw [index_ok.2 hat, ok_bind, hx]
  obtain ⟨latitude, hlatitude⟩ := hnumber 0 (by decide)
  obtain ⟨longitude, hlongitude⟩ := hnumber 1 (by decide)
  obtain ⟨elevation, helevation⟩ := hnumber 2 (by decide)
  obtain ⟨cartesianX, hcartesianX⟩ := hnumber 3 (by decide)
  obtain ⟨cartesianY, hcartesianY⟩ := hnumber 4 (by decide)
  obtain ⟨cartesianZ, hcartesianZ⟩ := hnumber 5 (by decide)
  have hgid : (index (formatD i :: name :: numbers) 0 >>= parsePositiveInt64) = .ok i :=
    parsePositiveInt64_formatD (by omega)
  have hat : index (formatD i :: name :: numbers) 1 = .ok name := rfl
  refine ⟨⟨toUInt32 i, name, latitude, longitude, elevation, cartesianX, cartesianY, cartesianZ⟩, ?_, toUInt32_eq hi, rfl⟩
  unfold parseGroundStation
  rw [hsplit, ok_bind, hgid, ok_bind, hat, ok_bind, hlatitude, ok_bind, hlongitude, ok_bind, helevation, ok_bind,
    hcartesianX, ok_bind, hcartesianY, ok_bind, hcartesianZ, ok_bind]

/-- A file whose lines have the numbers of their places is read line by line. -/
theorem readGroundStations_parsed {text : Str}
    (h : ∀ i line, (getlines text)[i]? = some line → ∃ gs, parseGroundStation doubles line = .ok gs ∧ gs.gid = i) :
    ∃ groundStations, readGroundStations doubles text = .ok groundStations ∧
      List.Forall₂ (fun line gs => parseGroundStation doubles line = .ok gs) (getlines text) groundStations := by
  refine forEach_ends (readGroundStation doubles)
    (fun done groundStations => List.Forall₂ (fun line gs => parseGroundStation doubles line = .ok gs) done groundStations)
    (fun done line rest groundStations hl hs => ?_) _ [] [] rfl .nil
  obtain ⟨gs, hgs, hgid⟩ := h done.length line (by simp [hl])
  refine ⟨groundStations ++ [gs], readGroundStation_ok.2 ⟨gs, hgs, ?_, rfl⟩, List.rel_append hs (.cons hgs .nil)⟩
  rw [hgid, hs.length_eq, Nat.cast_add, Nat.cast_one]

/-- The ground stations are read in their order, with their names. -/
theorem stations_read {f : SatgenStations} (hf : StationsFormat f doubles) {gss : List Station} {text : Str}
    (hlt : gss.length < 2 ^ 32) (hline : ∀ st ∈ gss, st.OneLine)
    (hrun : f.extendGroundStations (groundStationsBasic gss) = .ok text) :
    ∃ groundStations, readGroundStations doubles text = .ok groundStations ∧ groundStations.length = gss.length ∧
      ∀ i st, gss[i]? = some st → ∃ gs : GroundStation D, groundStations[i]? = some gs ∧ gs.gid = i ∧ gs.name = st.name := by
  obtain ⟨numbers, hnumbers, rfl⟩ := hf.stations gss text hline hrun
  have hlines : getlines (writeLines (gss.zipIdx.map (stationLine numbers))) = gss.zipIdx.map (stationLine numbers) := by
    refine getlines_writeLines (List.forall_mem_map.2 fun st hst => noNewline_commaSeparated ?_)
    obtain ⟨hi, hat⟩ := List.mem_zipIdx' hst
    refine List.forall_mem_cons.2 ⟨not_mem_formatD rfl _, List.forall_mem_cons.2 ⟨?_, fun t ht => ?_⟩⟩
    · exact (hline st.1 (hat ▸ List.getElem_mem hi) st.1.name (by simp)).1
    · exact ((hnumbers st.2 hi).2 t ht).2.1
  have hparse : ∀ i st, gss[i]? = some st → ∃ gs, parseGroundStation doubles (stationLine numbers (st, i)) = .ok gs ∧
      gs.gid = i ∧ gs.name = st.name := by
    intro i st hst
    obtain ⟨hi, -⟩ := List.getElem?_eq_some_iff.1 hst
    exact parseGroundStation_written (by omega) st.name_noComma (hnumbers i hi).1 (hnumbers i hi).2
  have hat : ∀ i line, (gss.zipIdx.map (stationLine numbers))[i]? = some line →
      ∃ st, gss[i]? = some st ∧ line = stationLine numbers (st, i) := by
    intro i line hi
    simp only [List.getElem?_map, List.getElem?_zipIdx, Option.map_map, Option.map_eq_some_iff, Nat.zero_add] at hi
    obtain ⟨st, hst, rfl⟩ := hi
    exact ⟨st, hst, rfl⟩
  obtain ⟨groundStations, hread, hall⟩ := @readGroundStations_parsed _ doubles
    (writeLines (gss.zipIdx.map (stationLine numbers))) (by
      rw [hlines]
      intro i line hi
      obtain ⟨st, hst, rfl⟩ := hat i line hi
      obtain ⟨gs, hgs, hgid, -⟩ := hparse i st hst
      exact ⟨gs, hgs, hgid⟩)
  rw [hlines] at hall
  have hlength : groundStations.length = gss.length := by
    rw [← hall.length_eq, List.length_map, List.length_zipIdx]
  refine ⟨groundStations, hread, hlength, fun i st hst => ?_⟩
  obtain ⟨hi, -⟩ := List.getElem?_eq_some_iff.1 hst
  have hgs := List.getElem?_eq_getElem (hlength.symm ▸ hi)
  obtain ⟨line, hl, hparsed⟩ := forall₂_getElem? hall hgs
  obtain ⟨st', hst', rfl⟩ := hat i line hl
  obtain ⟨gs, hgs', hgid, hname⟩ := hparse i st' hst'
  obtain rfl := Option.some.inj (hst.symm.trans hst')
  obtain rfl := Except.ok.inj (hgs'.symm.trans hparsed)
  exact ⟨_, hgs, hgid, hname⟩

/-! ## What is built -/

theorem listed_ones : ∀ {lines : List Str} {node : Nat},
    (∀ i line, lines[i]? = some line → ∃ bandwidth, parseGslInterfaces doubles line = .ok (node + i, 1, bandwidth)) →
      listed doubles node lines = List.replicate lines.length 1
  | [], _, _ => rfl
  | line :: lines, node, h => by
    obtain ⟨bandwidth, hparse⟩ := h 0 line rfl
    have hrest := @listed_ones lines (node + 1) fun i l hl => by
      obtain ⟨bandwidth, hparse⟩ := h (i + 1) l hl
      exact ⟨bandwidth, by rw [hparse, Nat.add_right_comm, Nat.add_assoc]⟩
    rw [listed, hparse]
    simp only [Nat.add_zero, if_true, hrest, List.length_cons, List.replicate_succ]

theorem sumFits_ones : ∀ {k total : Nat}, total < 2 ^ 32 → SumFits total (List.replicate k 1)
  | 0, _, _ => trivial
  | k + 1, total, h => ⟨by omega, sumFits_ones (toUInt32_lt _)⟩

theorem parseGslInterfaces_written {u numIfs : Nat} {t : Str} (hu : u < 2 ^ 63) (hnumIfs : numIfs < 2 ^ 63)
    (ht : IsNumber doubles.parsePositiveDouble t) :
    ∃ bandwidth, parseGslInterfaces doubles (commaSeparated [formatD u, formatD numIfs, t]) = .ok (u, numIfs, bandwidth) := by
  obtain ⟨hcomma, -, bandwidth, hbandwidth⟩ := ht
  have hsplit : splitStringExpected (commaSeparated [formatD u, formatD numIfs, t]) ",".toList 3 =
      .ok [formatD u, formatD numIfs, t] :=
    splitStringExpected_commaSeparated (List.cons_ne_nil _ _) (by simp [not_mem_formatD, hcomma])
  refine ⟨bandwidth, ?_⟩
  unfold parseGslInterfaces
  rw [hsplit, ok_bind]
  simp only [index, List.getElem?_cons_zero, List.getElem?_cons_succ, ok_bind, parsePositiveInt64_formatD hu,
    parsePositiveInt64_formatD hnumIfs, hbandwidth]

/-- The file of the interfaces has one line with one interface for every node. -/
theorem interfaces_read {f : SatgenStations} (hf : StationsFormat f doubles) {n m : Nat} (hlt : n + m < 2 ^ 32) (c d : Nat) :
    ∃ infos : List (Int × D), readGslInterfacesInfo doubles (f.generateSimpleGslInterfacesInfo n m 1 1 c d) = .ok (infos, n + m) ∧
      (infos.map fun info => toUInt64 info.1) = List.replicate (n + m) 1 := by
  obtain ⟨t, u, ht, hu, htext⟩ := hf.interfaces n m 1 1 c d
  have hline : ∀ {i : Nat} {s : Str}, i < 2 ^ 32 → IsNumber doubles.parsePositiveDouble s →
      '\n' ∉ commaSeparated [formatD i, formatD 1, s] ∧
        ∃ bandwidth, parseGslInterfaces doubles (commaSeparated [formatD i, formatD 1, s]) = .ok (i, 1, bandwidth) := by
    intro i s hi hs
    exact ⟨noNewline_commaSeparated (by simp [not_mem_formatD, hs.2.1]), parseGslInterfaces_written (by omega) (by decide) hs⟩
  generalize hlines : (List.range n).map (fun i => commaSeparated [formatD i, formatD 1, t]) ++
    (List.range m).map (fun i => commaSeparated [formatD (n + i), formatD 1, u]) = lines at htext
  have hlength : lines.length = n + m := by simp [← hlines]
  have hat : ∀ i line, lines[i]? = some line → '\n' ∉ line ∧
      ∃ bandwidth, parseGslInterfaces doubles line = .ok (i, 1, bandwidth) := by
    intro i line hi
    rw [← hlines] at hi
    rcases Nat.lt_or_ge i n with hin | hin
    · rw [List.getElem?_append_left (by simpa using hin), List.getElem?_map, List.getElem?_range hin, Option.map_some,
        Option.some.injEq] at hi
      exact hi ▸ hline (by omega) ht
    · rw [List.getElem?_append_right (by simpa using hin), List.getElem?_map, List.length_map, List.length_range,
        Option.map_eq_some_iff] at hi
      obtain ⟨j, hj, rfl⟩ := hi
      obtain ⟨hjm, rfl⟩ := List.getElem?_eq_some_iff.1 hj
      rw [List.length_range] at hjm
      rw [List.getElem_range, Nat.add_sub_cancel' hin]
      exact hline (by omega) hu
  have hread : getlines (f.generateSimpleGslInterfacesInfo n m 1 1 c d) = lines := by
    rw [htext]
    refine getlines_writeLines fun l hl => ?_
    obtain ⟨i, hi⟩ := List.mem_iff_getElem?.1 hl
    exact (hat i l hi).1
  have hlisted : listed doubles 0 lines = List.replicate (n + m) 1 := by
    rw [← hlength]
    refine listed_ones fun i line hi => ?_
    obtain ⟨bandwidth, hparse⟩ := (hat i line hi).2
    exact ⟨bandwidth, by rw [hparse, Nat.zero_add]⟩
  obtain ⟨⟨infos, total⟩, hrun⟩ := @forEach_readGslInterfaces_total _ doubles lines ([], 0)
    (by rw [List.length_nil, hlisted, List.length_replicate, hlength]) (by
      rw [List.length_nil, hlisted]
      exact sumFits_ones (Nat.two_pow_pos 32))
  obtain ⟨-, hinfos, htotal⟩ := forEach_readGslInterfaces_ok (Nat.two_pow_pos 32) hrun
  simp only [List.length_nil, List.map_nil, List.nil_append, Nat.zero_add, hlisted, List.map_replicate,
    List.sum_replicate, smul_eq_mul, Nat.mul_one] at hinfos htotal
  have hsum : total = n + m := by rw [htotal, toUInt32_eq hlt]
  refine ⟨infos, ?_, ?_⟩
  · unfold readGslInterfacesInfo
    rw [hread, hrun, hsum]
  · have hfst : (infos.map fun info => toUInt64 info.1) = (infos.map Prod.fst).map toUInt64 := by
      rw [List.map_map]
      rfl
    rw [hfst, hinfos, List.map_replicate]
    rfl

variable (addr : Addresses M)

/-- From here on both levels do the same. -/
theorem createGSLs_eq {n m : Nat} {text : Str} {net : Network M} {infos : List (Int × D)} {counts : List Nat}
    (hread : readGslInterfacesInfo doubles text = .ok (infos, counts.sum))
    (hinfos : (infos.map fun info => toUInt64 info.1) = counts) (hcounts : counts.length = n + m)
    (hnet : net.nodes.length = n + m) (hm : m < 2 ^ 32) (hsum : counts.sum < 2 ^ 32) :
    TopologySatelliteNetwork.createGSLs doubles addr n m text net = Satellite.createGSLs addr n m counts net := by
  obtain ⟨⟨net₁, devices⟩, hrun, hinstalled⟩ := @installGSLs_installed _ addr net n m counts hcounts.ge hnet.ge
  have hdevices : devices.length = counts.sum := by
    have htotal := hinstalled.total
    rwa [← hcounts, List.take_length] at htotal
  have hall : toUInt32 devices.length = devices.length := toUInt32_eq (hdevices ▸ hsum)
  unfold TopologySatelliteNetwork.createGSLs Satellite.createGSLs
  rw [hread, ok_bind]
  simp only [hinfos, toUInt32_eq hm, hrun, ok_bind, hall, List.take_length, toUInt32_eq hsum]

/-- All nodes have their one device. -/
theorem createGSLs_ones {n m : Nat} {net : Network M} (hnet : net.nodes.length = n + m) :
    ∃ net', Satellite.createGSLs addr n m (List.replicate (n + m) 1) net = .ok net' ∧ net'.lasers = net.lasers ∧
      net'.nodes.length = n + m ∧ ∀ u < n + m, gslCount net'.nodes u = gslCount net.nodes u + 1 := by
  obtain ⟨⟨net₁, devices⟩, hrun, hinstalled⟩ := @installGSLs_installed _ addr net n m (List.replicate (n + m) 1)
    (List.length_replicate ..).ge hnet.ge
  have hdevices : devices.length = (List.replicate (n + m) 1).sum := by
    have htotal := hinstalled.total
    rwa [List.take_of_length_le (List.length_replicate ..).le] at htotal
  obtain ⟨nodes', hassign⟩ := @Node.assign_total _ devices net₁.nodes fun e he => by
    rw [hinstalled.length]
    exact hinstalled.nodes e he
  refine ⟨{ net₁ with nodes := nodes' }, ?_, hinstalled.lasers, ?_, fun u hu => ?_⟩
  · unfold Satellite.createGSLs
    rw [hrun, ok_bind]
    simp only [hassign, ok_bind, hdevices, ne_eq, not_true_eq_false, if_false]
  · exact (Node.assign_devicesOf hassign).1.trans (hinstalled.length.trans hnet)
  · show gslCount nodes' u = _
    rw [gslCount_assign hassign, hinstalled.count, if_pos hu, List.getD_eq_getElem?_getD, List.getElem?_replicate, if_pos hu]
    rfl

theorem InShell.lt {shells : List (Shell φ)} {k i : Nat} (h : InShell shells k i) : i < (shells.map Shell.size).sum :=
  Nat.lt_of_lt_of_le h.2.2 (Composition.sizeUpTo_le _ _)

/-- The network of the shells: that of the ISLs in the file, each within its shell and with a channel of its own, with one
GSL device on every node. -/
structure ShellNetwork (shells : List (Shell φ)) (isls : Str) (n m : Nat) (net : Network M) : Prop where
  build : ∃ pairs, getlines isls = pairs.map islLine ∧
    Satellite.build addr n m pairs (List.replicate (n + m) 1) = .ok net
  lasers : List.Forall₂ (fun line ch => ∃ e₀ e₁ : End, ch.attached = [e₀, e₁] ∧ line = islLine (e₀.1, e₁.1)) (getlines isls)
    net.lasers
  nodes : net.nodes.length = n + m
  interfaces : ∀ u < n + m, gslCount net.nodes u = 1
  isls : ∀ ch ∈ net.lasers, ∃ k e₀ e₁, ch.attached = [e₀, e₁] ∧ InShell shells k e₀.1 ∧ InShell shells k e₁.1

theorem narrow_of_lt {id : Nat} (h : id < 2 ^ 31) : narrow id = id := (narrow_eq_iff (by omega)).2 h

theorem parseISL_islLine {n : Nat} (hlt : n < 2 ^ 31) {p : Nat × Nat} (h : p.1 < n ∧ p.2 < n) :
    parseISL (islLine p) = .ok p ∧ narrow p.1 = p.1 ∧ narrow p.2 = p.2 :=
  ⟨parseTwo_islLine (by omega) (by omega), narrow_of_lt (by omega), narrow_of_lt (by omega)⟩

/-- The lines of pairs of satellites are accepted. -/
theorem islAccepted_islLines {n : Nat} (hlt : n < 2 ^ 31) {isls : Str} {pairs : List (Nat × Nat)}
    (hlines : getlines isls = pairs.map islLine) (hid : ∀ p ∈ pairs, p.1 < n ∧ p.2 < n) :
    ∀ line ∈ getlines isls, ISLAccepted n line := by
  rw [hlines]
  refine List.forall_mem_map.2 fun p hp => ?_
  obtain ⟨hparse, h₁, h₂⟩ := parseISL_islLine hlt (hid p hp)
  refine ⟨p.1, p.2, hparse, ?_⟩
  rw [h₁, h₂]
  exact hid p hp

/-- Line by line a file of ISLs is the list of its pairs. -/
theorem readISLs_islLines {n : Nat} (hlt : n < 2 ^ 31) {isls : Str} {pairs : List (Nat × Nat)}
    (hlines : getlines isls = pairs.map islLine) (hid : ∀ p ∈ pairs, p.1 < n ∧ p.2 < n) (net : Network M) :
    readISLs n isls net = forEach (readISL n) pairs net := by
  unfold readISLs
  rw [hlines]
  clear hlines
  induction pairs generalizing net with
  | nil => rfl
  | cons p pairs ih =>
    obtain ⟨hp, hpairs⟩ := List.forall_mem_cons.1 hid
    obtain ⟨hparse, h₁, h₂⟩ := parseISL_islLine hlt hp
    have hline : readISLLine n net (islLine p) = readISL n net p := by
      unfold readISLLine
      rw [hparse, ok_bind]
      simp only [h₁, h₂]
    rw [List.map_cons, forEach, forEach, hline]
    exact bind_congr (ih hpairs)

theorem SatelliteFiles.getlines_isls {shells : List (Shell φ)} {names : Nat → Str} {tles isls : Str} {n : Nat}
    (h : SatelliteFiles g elements shells names tles isls n) : getlines isls = gridLines g 0 shells := by
  obtain ⟨pairs, rfl, hgrid, -⟩ := h.isls
  rw [getlines_islLines, hgrid]

variable [DecidableEq M]

/-- The ISLs of the file are installed, and then the GSL devices. -/
theorem SatelliteFiles.network {shells : List (Shell φ)} {names : Nat → Str} {tles isls : Str} {n m : Nat}
    (h : SatelliteFiles g elements shells names tles isls n) (hlt : n < 2 ^ 31) (hm : n + m < 2 ^ 32)
    {f : SatgenStations} (hf : StationsFormat f doubles) (c d : Nat) :
    ∃ net₁ net, readISLs n isls (installInternetStacks (n + m)) = .ok net₁ ∧
      TopologySatelliteNetwork.createGSLs doubles addr n m (f.generateSimpleGslInterfacesInfo n m 1 1 c d) net₁ = .ok net ∧
      ShellNetwork addr shells isls n m net := by
  obtain ⟨pairs, hisls, -, hpairs⟩ := h.isls
  have hid : ∀ p ∈ pairs, p.1 < n ∧ p.2 < n := by
    intro p hp
    obtain ⟨k, h₁, h₂⟩ := hpairs p hp
    rw [h.count]
    exact ⟨h₁.lt, h₂.lt⟩
  have hlines : getlines isls = pairs.map islLine := by
    rw [hisls, getlines_islLines]
  obtain ⟨net₁, hnet₁⟩ := readISLs_total (built_init (n + m) : Built addr _ _ _ _) (Nat.le_add_right n m)
    (islAccepted_islLines hlt hlines hid)
  obtain ⟨-, _, -, hbuilt₁, hzero⟩ := readISLs_ok addr hnet₁
  obtain ⟨infos, hread, hinfos⟩ := interfaces_read hf hm c d
  obtain ⟨net, hcreate, hlasers, hnodes, hcount⟩ := createGSLs_ones addr hbuilt₁.length
  have hbuild : Satellite.build addr n m pairs (List.replicate (n + m) 1) = .ok net := by
    unfold Satellite.build
    rw [← readISLs_islLines hlt hlines hid, hnet₁, ok_bind, hcreate]
  have hbuilt := build_built hbuild
  refine ⟨net₁, net, hnet₁, ?_, ⟨pairs, hlines, hbuild⟩, ?_, hnodes, fun u hu => by rw [hcount u hu, hzero], fun ch hch => ?_⟩
  · have hsum : (List.replicate (n + m) 1).sum = n + m := by simp
    rw [createGSLs_eq addr (by rw [hsum]; exact hread) hinfos (List.length_replicate ..) hbuilt₁.length (by omega)
      (by rw [hsum]; exact hm), hcreate]
  · rw [hlines]
    refine List.forall₂_map_left_iff.2 (List.forall₂_iff_get.2 ⟨hbuilt.links.symm, fun j hj hj' => ?_⟩)
    obtain ⟨e₀, e₁, hattached, -, hpair⟩ := hbuilt.ends j _ (List.getElem?_eq_getElem hj')
    exact ⟨e₀, e₁, hattached, congrArg islLine (Option.some.inj ((List.getElem?_eq_getElem hj).symm.trans hpair))⟩
  · obtain ⟨j, hj⟩ := List.getElem?_of_mem hch
    obtain ⟨e₀, e₁, hattached, -, hpair⟩ := hbuilt.ends j ch hj
    obtain ⟨k, h₁, h₂⟩ := hpairs _ (List.mem_of_getElem? hpair)
    exact ⟨k, e₀, e₁, hattached, h₁, h₂⟩

/-- What the simulator makes of the files is what was asked for: satellite `i` is of its shell, is made of the lines of its
group in the file and has the elements that it got there; ground station `i` has its name, and is the node whose number
`node_ids.txt` has beside the name; the ISLs are the grids of the shells, and the network is that of the ISLs. -/
structure AsAsked (g : Satgen φ) (elements : Str → Str → Prop) (setup : SatelliteSetup S) (addr : Addresses M)
    (shells : List (Shell φ)) (names : Nat → Str) (gss : List Station) (files : StateFiles)
    (t : TopologySatelliteNetwork S D M) : Prop where
  numSatellites : t.satellites.length = (shells.map Shell.size).sum
  numGroundStations : t.groundStations.length = gss.length
  satellites : ∀ i < t.satellites.length, ∃ k group sat, OfShell g elements shells names k i group ∧
    (satelliteGroups files.tles)[i]? = some group ∧ t.satellites[i]? = some sat ∧
    setup.createSatellite group.1 group.2.1 group.2.2 = .ok sat
  groundStations : ∀ i st, gss[i]? = some st → (∃ gs : GroundStation D, t.groundStations[i]? = some gs ∧ gs.gid = i ∧
    gs.name = st.name) ∧ (getlines files.nodeIds)[i + 1]? = some (nodeIdsLine t.satellites.length (st, i))
  grid : getlines files.isls = gridLines g 0 shells
  network : ShellNetwork addr shells files.isls t.satellites.length t.groundStations.length t.network

theorem noNewline_nodeIds {n : Nat} {gss : List Station} (hline : ∀ st ∈ gss, st.OneLine) :
    ∀ l ∈ nodeIdsHeader n :: gss.zipIdx.map (nodeIdsLine n), '\n' ∉ l := by
  refine List.forall_mem_cons.2 ⟨?_, List.forall_mem_map.2 fun st hst => noNewline_commaSeparated ?_⟩
  · exact Unbroken.not_mem (((unbroken_literal (by decide)).append (unbroken_formatD _)).append
      (unbroken_literal (by decide))) rfl
  · obtain ⟨hi, hat⟩ := List.mem_zipIdx' hst
    refine List.forall_mem_cons.2 ⟨not_mem_formatD rfl _, fun t ht => ?_⟩
    exact (hline st.1 (hat ▸ List.getElem_mem hi) t ht).1

/-- Whatever shells and ground stations the script is asked for, what it writes is built by the simulator as it was asked for, as
long as the numbers of the satellites have five digits. -/
theorem state_built {f : SatgenStations} (hg : SatgenFormat g elements) (hf : StationsFormat f doubles)
    (hload : LoadsElements setup elements) {isFloat : Str → Bool} {gs : List Str} {gsFile : Option Str} {gss : List Station}
    (hargs : parseStations isFloat gs gsFile = some gss) (hgs : ∀ x ∈ gs, '\n' ∉ x ∧ '\r' ∉ x) (hgss : gss.length < 2 ^ 31)
    {defaultShell : Shell φ} {shells : List (Shell φ)}
    (hlt : ((writtenShells defaultShell shells).map Shell.size).sum < 100000) {text : Str}
    (hextend : f.extendGroundStations (groundStationsBasic gss) = .ok text) :
    ∃ files t, main g f defaultShell shells gss = .ok files ∧
      TopologySatelliteNetwork.build setup doubles addr files.topology = .ok t ∧
      AsAsked g elements setup addr (writtenShells defaultShell shells) (writtenNames shells) gss files t := by
  have hline := parseStations_oneLine hargs hgs
  obtain ⟨tles, isls, n, hwrite, hfiles⟩ := writeSatellites_ok hg defaultShell shells hlt
  have hn := hfiles.count
  have hpos : 0 < n := by
    obtain ⟨sh, rest, hshells⟩ : ∃ sh rest, writtenShells defaultShell shells = sh :: rest := by
      unfold writtenShells
      split
      · exact ⟨_, _, rfl⟩
      · exact List.exists_cons_of_ne_nil ‹_›
    have hsize := sh.size_pos
    rw [hn, hshells, List.map_cons, List.sum_cons]
    omega
  have hnames : ∀ k, Unbroken (writtenNames shells k) := by
    intro k
    unfold writtenNames
    split
    · exact unbroken_literal (by decide)
    · exact unbroken_shellName k
  obtain ⟨satellites, hsatellites, hlength, hcreated⟩ := hfiles.read hload hpos (by omega) hnames
  obtain ⟨groundStations, hstations, hcount, hnamed⟩ := stations_read hf (by omega) hline hextend
  obtain ⟨net₁, net, hisls, hgsls, hnetwork⟩ := hfiles.network addr (show n < 2 ^ 31 by omega)
    (show n + gss.length < 2 ^ 32 by omega) hf 1 1
  refine ⟨⟨groundStationsBasic gss, text, tles, isls, f.generateSimpleGslInterfacesInfo n gss.length 1 1 1 1,
    writeLines (nodeIdsHeader n :: gss.zipIdx.map (nodeIdsLine n))⟩, ⟨satellites, groundStations, net⟩, ?_, ?_,
    hlength.trans hn, hcount,
    ?_, ?_, ?_, ?_⟩
  · unfold main
    simp only [hextend, ok_bind, hwrite]
  · unfold TopologySatelliteNetwork.build StateFiles.topology
    simp only [hsatellites, hstations, ok_bind, hlength, hcount, hisls, hgsls]
  · intro i hi
    exact hcreated i (hlength ▸ hi)
  · intro i st hst
    refine ⟨hnamed i st hst, ?_⟩
    simp only [hlength, getlines_writeLines (noNewline_nodeIds hline), List.getElem?_cons_succ, List.getElem?_map,
      List.getElem?_zipIdx, hst, Option.map_some, Nat.zero_add]
  · exact hfiles.getlines_isls
  · simp only [hlength, hcount]
    exact hnetwork

/-! ### Two shells and two stations -/

/-- Satellite `i` on an orbit that is the same for all. -/
def sameOrbit (name : Str) (i : Nat) : TleGroup :=
  let group := renumber gridSatgen 0 i ([], TopologySatelliteNetwork.tle1, TopologySatelliteNetwork.tle2)
  (name ++ ' ' :: formatD i, group.2)

def SameElements (elements₁ elements₂ : Str) : Prop :=
  elements₁ = sliceButLast TopologySatelliteNetwork.tle1 8 ∧ elements₂ = sliceButLast TopologySatelliteNetwork.tle2 7

/-- The grid with lines of the width that they have. -/
def wideSatgen : Satgen Nat :=
  { gridSatgen with
    generateTlesFromScratchManual := fun name orbits spo _ _ _ _ _ =>
      writeLines ((formatD orbits ++ ' ' :: formatD spo) :: ((List.range (orbits * spo)).map (sameOrbit name)).flatMap groupLines) }

theorem gridSatgen_checksum (line : Str) : gridSatgen.calculateTleLineChecksum line < 10 := Nat.mod_lt _ (by decide)

theorem wideSatgen_format : SatgenFormat wideSatgen SameElements where
  tles name orbits spo _ _ _ _ _ _ _ _ hlt := by
    refine ⟨_, rfl, by rw [List.length_map, List.length_range], fun i group hi => ?_⟩
    rw [List.getElem?_map, Option.map_eq_some_iff] at hi
    obtain ⟨j, hj, rfl⟩ := hi
    obtain ⟨hi, rfl⟩ := List.getElem?_eq_some_iff.1 hj
    rw [List.length_range] at hi
    rw [List.getElem_range]
    have htle : IsTle SameElements TopologySatelliteNetwork.tle1 TopologySatelliteNetwork.tle2 :=
      ⟨rfl, rfl, unbroken_literal (by decide), unbroken_literal (by decide), rfl, rfl⟩
    have hsame : IsSatellite SameElements (shellName 0) i
        (renumber gridSatgen 0 i ([], TopologySatelliteNetwork.tle1, TopologySatelliteNetwork.tle2)) :=
      (IsTle.renumber gridSatgen_checksum _ (by omega) htle).1
    exact ⟨rfl, hsame.2⟩
  isls orbits spo idxOffset ho hs := by
    have hne : ((List.range orbits).flatMap fun i => (List.range spo).flatMap (gridIsls orbits spo idxOffset i)) ≠ [] := by
      obtain ⟨o, rfl⟩ := Nat.exists_eq_add_of_le' ho
      obtain ⟨n, rfl⟩ := Nat.exists_eq_add_of_le' hs
      simp [List.range_succ_eq_map, gridIsls]
    refine ⟨_, hne, joinLines_eq (by rwa [ne_eq, List.map_eq_nil_iff]), fun p hp => ?_⟩
    obtain ⟨i, hi, hp⟩ := List.mem_flatMap.1 hp
    obtain ⟨j, hj, hp⟩ := List.mem_flatMap.1 hp
    exact gridIsls_range (List.mem_range.1 hi) (List.mem_range.1 hj) p hp
  checksum := gridSatgen_checksum

theorem loadsElements_checked : LoadsElements TopologySatelliteNetwork.checkedSetup SameElements := by
  intro name tle1 tle2 hname htle
  refine ⟨(name, tle1, tle2), ?_, rfl⟩
  simp [TopologySatelliteNetwork.checkedSetup, hname, htle.width₁, htle.width₂]

/-- Whether the latitude and the longitude of a line are whole. -/
def wholeCoordinates (line : Str) : Bool :=
  match line.splitOn ',' with
  | [_, _, lat, lon, _] => (parseInt64 lat).isOk && (parseInt64 lon).isOk
  | _ => false

/-- Every station is at the centre of the earth. -/
def centredStations : SatgenStations where
  extendGroundStations text :=
    if (getlines text).all wholeCoordinates then .ok (writeLines ((getlines text).map (· ++ ",0,0,0".toList)))
    else .error .valueError
  generateSimpleGslInterfacesInfo n m a b c d := writeLines
    ((List.range n).map (fun i => commaSeparated [formatD i, formatD a, formatD (c % 2 ^ 63)]) ++
      (List.range m).map fun i => commaSeparated [formatD (n + i), formatD b, formatD (d % 2 ^ 63)])

theorem isNumber_formatD {parse : Str → Res D} {i : Nat} (h : ∃ x, parse (formatD i) = .ok x) : IsNumber parse (formatD i) :=
  ⟨not_mem_formatD rfl i, not_mem_formatD rfl i, h⟩

theorem splitOn_basicLine (st : Station × Nat) :
    (basicLine st).splitOn ',' = [formatD st.2, st.1.name, st.1.lat, st.1.lon, ['0']] :=
  List.splitOn_intercalate ',' (by
    simp [not_mem_formatD, st.1.name_noComma, st.1.lat_noComma, st.1.lon_noComma]) (List.cons_ne_nil _ _)

theorem centredStations_format : StationsFormat centredStations TopologySatelliteNetwork.wholeDoubles where
  stations gss text hline h := by
    have hlines : getlines (groundStationsBasic gss) = gss.zipIdx.map basicLine := by
      refine getlines_writeLines (List.forall_mem_map.2 fun st hst => noNewline_commaSeparated ?_)
      obtain ⟨hi, hat⟩ := List.mem_zipIdx' hst
      have hst := hline st.1 (hat ▸ List.getElem_mem hi)
      simp only [List.mem_cons, List.not_mem_nil, or_false, forall_eq_or_imp, forall_eq]
      exact ⟨not_mem_formatD rfl _, (hst _ (by simp)).1, (hst _ (by simp)).1, (hst _ (by simp)).1, by decide⟩
    simp only [centredStations, hlines] at h
    obtain ⟨hwhole, h⟩ : (gss.zipIdx.map basicLine).all wholeCoordinates = true ∧ _ := by
      split at h
      · exact ⟨‹_›, h⟩
      · cases h
    cases h
    let zeros : List Str := List.replicate 4 ['0']
    refine ⟨fun i => (gss[i]?.map fun st => st.lat :: st.lon :: zeros).getD [], fun i hi => ?_, ?_⟩
    · simp only [List.getElem?_eq_getElem hi, Option.map_some, Option.getD_some]
      refine ⟨rfl, ?_⟩
      have hst := hline gss[i] (List.getElem_mem hi)
      have hparse := List.all_eq_true.1 hwhole (basicLine (gss[i], i)) (List.mem_map.2 ⟨(gss[i], i),
        List.mem_zipIdx_iff_getElem?.2 (List.getElem?_eq_getElem hi), rfl⟩)
      simp only [wholeCoordinates, splitOn_basicLine, Bool.and_eq_true] at hparse
      refine List.forall_mem_cons.2 ⟨⟨gss[i].lat_noComma, (hst _ (by simp)).1, ok_of_isOk hparse.1⟩,
        List.forall_mem_cons.2 ⟨⟨gss[i].lon_noComma, (hst _ (by simp)).1, ok_of_isOk hparse.2⟩, fun t ht => ?_⟩⟩
      rw [List.eq_of_mem_replicate ht]
      exact ⟨by decide, by decide, 0, rfl⟩
    · rw [List.map_map]
      congr 1
      refine List.map_congr_left fun st hst => ?_
      obtain ⟨hi, hat⟩ := List.mem_zipIdx' hst
      simp [stationLine, basicLine, commaSeparated, List.intercalate, hi, ← hat, zeros, List.replicate]
  interfaces n m a b c d := by
    have hnumber : ∀ i, IsNumber TopologySatelliteNetwork.wholeDoubles.parsePositiveDouble (formatD (i % 2 ^ 63)) := fun i => by
      refine isNumber_formatD ⟨(i % 2 ^ 63 : Nat), ?_⟩
      simp only [TopologySatelliteNetwork.wholeDoubles, parsePositiveInt64_formatD (Nat.mod_lt i (Nat.two_pow_pos 63)), ok_bind]
    exact ⟨_, _, hnumber c, hnumber d, rfl⟩

def tokyo : Station := ⟨"Tokyo".toList, "35".toList, "139".toList, by decide, by decide, by decide⟩

def sydney : Station := ⟨"Sydney".toList, "-33".toList, "151".toList, by decide, by decide, by decide⟩

theorem state_built_twoShells : ∃ (files : StateFiles) (t : TopologySatelliteNetwork TleGroup Int End),
    parseStations (fun s => (parseInt64 s).isOk) ["Tokyo,35,139".toList, "Sydney, -33, 151".toList] none = some [tokyo, sydney] ∧
      main wideSatgen centredStations shell3x3 [shell3x3, shell4x3] [tokyo, sydney] = .ok files ∧
      TopologySatelliteNetwork.build TopologySatelliteNetwork.checkedSetup TopologySatelliteNetwork.wholeDoubles pairAddresses
        files.topology = .ok t ∧
      AsAsked wideSatgen SameElements TopologySatelliteNetwork.checkedSetup pairAddresses
        [shell3x3, shell4x3] shellName [tokyo, sydney] files t := by
  have hargs : parseStations (fun s => (parseInt64 s).isOk) ["Tokyo,35,139".toList, "Sydney, -33, 151".toList] none =
      some [tokyo, sydney] := rfl
  obtain ⟨files, t, hmain, hbuild, hasked⟩ := state_built pairAddresses wideSatgen_format centredStations_format
    loadsElements_checked hargs (by decide) (by decide) (show ((writtenShells shell3x3 [shell3x3, shell4x3]).map
      Shell.size).sum < 100000 by decide) rfl
  exact ⟨files, t, hargs, hmain, hbuild, hasked⟩

end SatNet.Satellite.GenState
