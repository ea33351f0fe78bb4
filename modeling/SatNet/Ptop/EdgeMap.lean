/-
The edge mappings of a topology configuration: `ParseUndirectedEdgeMap` and `ParseDirectedEdgeMap` of
`topology-ptop.cc`. Each accepts exactly the maps that give a value for each of its links once, however the
node ids are spelled: the entries are checked one by one, and that none is missing follows from their number.
-/
import SatNet.Ptop.WellFormed

namespace SatNet.Ptop

open SatNet.ExpUtil SatNet.Loop

/-! ## Parsing -/

/-- A `std::map` from links to strings, as the list of its entries. -/
abbrev EdgeMap := List (Edge × Str)

/-- The key `a-b` of an undirected edge. -/
def readUndirected (key : Str) : Res Edge := do
  let dashSplitList ← splitStringExpected key "-".toList 2
  let l ← index dashSplitList 0
  let r ← index dashSplitList 1
  let a ← parsePositiveInt64 l
  let b ← parsePositiveInt64 r
  if b < a then
    .error (.invalidArgument s!"As a convention, the left node id must be smaller than the right node id: {a}-{b}")
  else .ok (a, b)

/-- The key `a->b` of a directed edge. -/
def readDirected (key : Str) : Res Edge := do
  let dashSplitList ← splitStringExpected key "->".toList 2
  let l ← index dashSplitList 0
  let r ← index dashSplitList 1
  let a ← parsePositiveInt64 l
  let b ← parsePositiveInt64 r
  .ok (a, b)

/-- What the two kinds of mapping differ in: how a key is read, the undirected edge it belongs to, how many keys belong
to an undirected edge, and the texts of the exceptions. -/
structure EdgeKind where
  read : Str → Res Edge
  edge : Edge → Edge
  perEdge : Nat
  duplicate : String
  unknown : String
  missing : String

def undirected : EdgeKind where
  read := readUndirected
  edge e := e
  perEdge := 1
  duplicate := "Duplicate key in undirected edge mapping: "
  unknown := "Unknown undirected edge: "
  missing := "Not all undirected edges were covered"

def directed : EdgeKind where
  read := readDirected
  edge e := (if e.1 < e.2 then e.1 else e.2, if e.2 > e.1 then e.2 else e.1)
  perEdge := 2
  duplicate := "Duplicate key in directed edge mapping: "
  unknown := "Does not belong to an undirected edge: "
  missing := "Not all directed edges were covered"

/-- One round of the loop over the pairs. -/
def addEntry (kind : EdgeKind) (edges : List Edge) (result : EdgeMap) (p : Str × Str) : Res EdgeMap := do
  let e ← kind.read p.1
  -- No duplicates in the mapping
  if (result.map Prod.fst).contains e then .error (.runtimeError s!"{kind.duplicate}{String.ofList p.1}")
  -- Must be present
  else if !edges.contains (kind.edge e) then .error (.runtimeError s!"{kind.unknown}{String.ofList p.1}")
  else .ok (OrdSet.put edgeLt e p.2 result)

def parseEdgeMap (kind : EdgeKind) (edges : List Edge) (value : Str) : Res EdgeMap := do
  let pairList ← parseMapString value
  let result ← forEach (addEntry kind edges) pairList []
  if edges.length * kind.perEdge ≠ result.length then .error (.runtimeError kind.missing) else .ok result

def parseUndirectedEdgeMap (t : TopologyPtop) (value : Str) : Res EdgeMap :=
  parseEdgeMap undirected t.undirectedEdgesSet value

def parseDirectedEdgeMap (t : TopologyPtop) (value : Str) : Res EdgeMap :=
  parseEdgeMap directed t.undirectedEdgesSet value

/-! ## Keys -/

/-- A link `a->b`. -/
def SpellsArrow (s : Str) (e : Edge) : Prop := ∃ l r, s = l ++ ("->".toList ++ r) ∧ SpellsNat l e.1 ∧ SpellsNat r e.2

theorem readUndirected_ok {key : Str} {e : Edge} : readUndirected key = .ok e ↔ SpellsEdge key e ∧ e.1 ≤ e.2 := by
  unfold readUndirected
  refine twoNats_ok.trans ?_
  simp only [ite_error_eq_ok, Except.ok.injEq]
  constructor
  · rintro ⟨l, r, a, b, hsplit, hl, hr, hle, rfl⟩
    exact ⟨⟨l, r, splitString_ok.1 hsplit, hl, hr⟩, not_lt.1 hle⟩
  · rintro ⟨⟨l, r, hsep, hl, hr⟩, hle⟩
    exact ⟨l, r, e.1, e.2, splitString_ok.2 hsep, hl, hr, not_lt.2 hle, rfl⟩

theorem SpellsArrow.unique {s : Str} {e f : Edge} (he : SpellsArrow s e) (hf : SpellsArrow s f) : e = f := by
  obtain ⟨l, r, rfl, hl, hr⟩ := he
  obtain ⟨l', r', hs, hl', hr'⟩ := hf
  have hsplit := splitString_two (c := '-') (by decide) hl.not_mem_gt hr.not_mem_gt
  have hsplit' := splitString_two (c := '-') (by decide) hl'.not_mem_gt hr'.not_mem_gt
  have hparts := hsplit.symm.trans ((congrArg (splitString · "->".toList) hs).trans hsplit')
  cases hparts
  exact Prod.ext (hl.unique hl') (hr.unique hr')

theorem readDirected_ok {key : Str} {e : Edge} : readDirected key = .ok e ↔ SpellsArrow key e := by
  unfold readDirected
  refine twoNats_ok.trans ?_
  constructor
  · rintro ⟨l, r, a, b, hsplit, hl, hr, h⟩
    cases h
    exact ⟨l, r, splitString_pair hsplit, hl, hr⟩
  · rintro ⟨l, r, rfl, hl, hr⟩
    exact ⟨l, r, e.1, e.2, splitString_two (by decide) hl.not_mem_gt hr.not_mem_gt, hl, hr, rfl⟩

theorem defined_readUndirected (key : Str) : Defined (readUndirected key) := by
  apply defined_twoParts (by decide)
  intro l r
  apply (defined_parsePositiveInt64 l).bind
  intro a _
  apply (defined_parsePositiveInt64 r).bind
  intro b _
  split
  · exact defined_error rfl
  · exact defined_ok _

theorem defined_readDirected (key : Str) : Defined (readDirected key) := by
  apply defined_twoParts (by decide)
  intro l r
  apply (defined_parsePositiveInt64 l).bind
  intro a _
  apply (defined_parsePositiveInt64 r).bind
  exact fun b _ => defined_ok _

/-! ## The loop -/

/-- A pair and the entry that it is read to. -/
def ReadsTo (kind : EdgeKind) (p : Str × Str) (q : Edge × Str) : Prop := kind.read p.1 = .ok q.1 ∧ p.2 = q.2

section Kind

variable {kind : EdgeKind} {edges links : List Edge}

theorem ReadsTo.unique {p : Str × Str} {q q' : Edge × Str} (h : ReadsTo kind p q) (h' : ReadsTo kind p q') :
    q = q' := by
  refine Prod.ext ?_ (h.2.symm.trans h'.2)
  exact Except.ok.inj (h.1.symm.trans h'.1)

theorem addEntry_ok {m m' : EdgeMap} {p : Str × Str} :
    addEntry kind edges m p = .ok m' ↔
      ∃ q, ReadsTo kind p q ∧ q.1 ∉ m.map Prod.fst ∧ kind.edge q.1 ∈ edges ∧ m' = OrdSet.put edgeLt q.1 q.2 m := by
  unfold addEntry
  simp only [bind_eq_ok, ite_error_eq_ok, List.contains_iff_mem, Bool.not_eq_true', Bool.not_eq_false, Except.ok.injEq]
  constructor
  · rintro ⟨e, he, hnew, hedge, rfl⟩
    exact ⟨(e, p.2), ⟨he, rfl⟩, hnew, hedge, rfl⟩
  · rintro ⟨q, ⟨he, hvalue⟩, hnew, hedge, rfl⟩
    exact ⟨q.1, he, hnew, hedge, by rw [hvalue]⟩

/-- The loop goes through exactly if the keys can be read, to different links of the topology. -/
theorem forEach_addEntry {pairs : List (Str × Str)} {done : EdgeMap} (hdone : (done.map Prod.fst).Nodup) {m : EdgeMap} :
    forEach (addEntry kind edges) pairs (OrdSet.ofEntries edgeLt done) = .ok m ↔
      ∃ entries, List.Forall₂ (ReadsTo kind) pairs entries ∧ ((done ++ entries).map Prod.fst).Nodup ∧
        (∀ q ∈ entries, kind.edge q.1 ∈ edges) ∧ m = OrdSet.ofEntries edgeLt (done ++ entries) := by
  induction pairs generalizing done with
  | nil => simp [forEach, eq_comm, hdone]
  | cons p pairs ih =>
    have hnext : ∀ q : Edge × Str, q.1 ∉ (OrdSet.ofEntries edgeLt done).map Prod.fst ↔
      ((done ++ [q]).map Prod.fst).Nodup := by
      intro q
      rw [OrdSet.ofEntries_keys, OrdSet.mem_ofList edge_lt, List.map_append, List.map_singleton, List.nodup_append_comm,
        List.singleton_append, List.nodup_cons]
      exact (and_iff_left hdone).symm
    unfold forEach
    simp only [bind_eq_ok, addEntry_ok, List.forall₂_cons_left_iff]
    constructor
    · rintro ⟨_, ⟨q, hq, hnew, hedge, rfl⟩, hrest⟩
      rw [← OrdSet.ofEntries_concat, ih ((hnext q).1 hnew)] at hrest
      obtain ⟨entries, hentries, hn, hedges, rfl⟩ := hrest
      rw [List.append_assoc, List.singleton_append] at hn ⊢
      exact ⟨q :: entries, ⟨q, entries, hq, hentries, rfl⟩, hn, List.forall_mem_cons.2 ⟨hedge, hedges⟩, rfl⟩
    · rintro ⟨_, ⟨q, entries, hq, hentries, rfl⟩, hn, hedges, rfl⟩
      rw [List.append_cons] at hn
      have hnew := hn.sublist ((List.sublist_append_left _ _).map Prod.fst)
      refine ⟨_, ⟨q, hq, (hnext q).2 hnew, hedges q (List.mem_cons_self ..), rfl⟩, ?_⟩
      rw [← OrdSet.ofEntries_concat, ih hnew]
      exact ⟨entries, hentries, hn, fun x hx => hedges x (List.mem_cons_of_mem _ hx), by rw [List.append_cons]⟩

/-- A mapping is accepted exactly if its keys are the links, each once, whatever their order. -/
theorem parseEdgeMap_ok (hmem : ∀ e, e ∈ links ↔ kind.edge e ∈ edges) (hlinks : links.Nodup)
    (hlen : edges.length * kind.perEdge = links.length) {value : Str} {m : EdgeMap} :
    parseEdgeMap kind edges value = .ok m ↔
      ∃ pairs entries, SpellsMap value pairs ∧ List.Forall₂ (ReadsTo kind) pairs entries ∧
        (entries.map Prod.fst).Perm links ∧ m = OrdSet.ofEntries edgeLt entries := by
  have hloop : ∀ pairs m, forEach (addEntry kind edges) pairs [] = .ok m ↔ _ := fun pairs m =>
    @forEach_addEntry kind edges pairs [] List.nodup_nil m
  have hlength : ∀ entries : EdgeMap, (entries.map Prod.fst).Nodup →
      (OrdSet.ofEntries edgeLt entries).length = (entries.map Prod.fst).length := by
    intro entries hn
    rw [← (OrdSet.length_ofList_eq_iff edge_lt _).2 hn, ← OrdSet.ofEntries_keys, List.length_map]
  unfold parseEdgeMap
  simp only [bind_eq_ok, ite_error_eq_ok, not_not, Except.ok.injEq, parseMapString_ok, hloop, List.nil_append]
  constructor
  · rintro ⟨pairs, ⟨hpairs, -⟩, _, ⟨entries, hentries, hn, hedges, rfl⟩, hcount, rfl⟩
    refine ⟨pairs, entries, hpairs, hentries, ?_, rfl⟩
    have hsub : ∀ e ∈ entries.map Prod.fst, e ∈ links := by
      intro e he
      obtain ⟨q, hq, rfl⟩ := List.mem_map.1 he
      exact (hmem q.1).2 (hedges q hq)
    apply (OrdSet.length_eq_iff_perm hn hsub).1
    rw [← hlength entries hn, ← hcount, hlen]
  · rintro ⟨pairs, entries, hpairs, hentries, hperm, rfl⟩
    have hn := hperm.nodup_iff.2 hlinks
    -- pairs with one key would be read to one link
    have hpn : (pairs.map Prod.fst).Nodup := by
      have hkeys : List.Forall₂ (fun s e => kind.read s = .ok e) (pairs.map Prod.fst) (entries.map Prod.fst) := by
        rw [List.forall₂_map_left_iff, List.forall₂_map_right_iff]
        exact hentries.imp fun _ _ h => h.1
      refine OrdSet.nodup_of_forall₂ (fun s e e' he he' => ?_) hkeys hn
      rw [he] at he'
      exact Except.ok.inj he'
    refine ⟨pairs, ⟨hpairs, hpn⟩, _, ⟨entries, hentries, hn, fun q hq => ?_, rfl⟩, ?_, rfl⟩
    · exact (hmem q.1).1 (hperm.mem_iff.1 (List.mem_map_of_mem hq))
    · rw [hlength entries hn, hperm.length_eq, hlen]

theorem defined_parseEdgeMap (hread : ∀ key, Defined (kind.read key)) (value : Str) :
    Defined (parseEdgeMap kind edges value) := by
  apply (defined_parseMapString value).bind
  intro pairs _
  refine (defined_forEach pairs [] fun p _ m => (hread p.1).bind fun e _ => ?_).bind fun m _ => ?_
  · split
    · exact defined_error rfl
    · split
      · exact defined_error rfl
      · exact defined_ok _
  · split
    · exact defined_error rfl
    · exact defined_ok _

end Kind

/-! ## The mappings of a topology -/

/-- The entries that a mapping spells, in the order of the string. -/
def SpellsEntries (spells : Str → Edge → Prop) (value : Str) (entries : EdgeMap) : Prop :=
  ∃ pairs, SpellsMap value pairs ∧ List.Forall₂ (fun p q => spells p.1 q.1 ∧ p.2 = q.2) pairs entries

/-- A parser that returns the map of the spelled entries, in the order of the links, if they give a value for each link
once, and throws in every other case. -/
structure ParsesTo (r : Res EdgeMap) (spelled : EdgeMap → Prop) (links : List Edge) : Prop where
  accepts : (∃ m, r = .ok m) ↔ ∃ entries, spelled entries ∧ (entries.map Prod.fst).Perm links
  result : ∀ m, r = .ok m ↔ ∃ entries, spelled entries ∧ (entries.map Prod.fst).Perm links ∧
    (m.map Prod.fst).Pairwise edgeLt ∧ ∀ q, q ∈ m ↔ q ∈ entries
  keys : ∀ m, r = .ok m → ∀ e, e ∈ m.map Prod.fst ↔ e ∈ links
  throws : (∀ entries, spelled entries → ¬ (entries.map Prod.fst).Perm links) → ∃ e, r = .error e ∧ e.isException = true

/-- A map is given by its entries. -/
theorem eq_ofEntries {m entries : EdgeMap} (hn : (entries.map Prod.fst).Nodup) :
    m = OrdSet.ofEntries edgeLt entries ↔ (m.map Prod.fst).Pairwise edgeLt ∧ ∀ q, q ∈ m ↔ q ∈ entries := by
  have hsorted : ((OrdSet.ofEntries edgeLt entries).map Prod.fst).Pairwise edgeLt := by
    rw [OrdSet.ofEntries_keys]
    exact OrdSet.ofList_sorted edge_lt _
  have hmem : ∀ q, q ∈ OrdSet.ofEntries edgeLt entries ↔ q ∈ entries := fun q => OrdSet.mem_ofEntries edge_lt hn
  constructor
  · rintro rfl
    exact ⟨hsorted, hmem⟩
  · rintro ⟨hm, hall⟩
    have hnodup : ∀ l : EdgeMap, (l.map Prod.fst).Pairwise edgeLt → l.Nodup := fun l hl =>
      (OrdSet.sorted_nodup edge_lt hl).of_map Prod.fst
    have hperm : m.Perm (OrdSet.ofEntries edgeLt entries) := by
      rw [List.perm_ext_iff_of_nodup (hnodup _ hm) (hnodup _ hsorted)]
      intro q
      rw [hall, hmem]
    rw [List.pairwise_map] at hm hsorted
    exact hperm.eq_of_pairwise (fun a b _ _ hab hba => absurd (edge_lt.trans hab hba) (edge_lt.irrefl a.1)) hm hsorted

/-- The spec of the parser, over what the keys spell. -/
theorem parseEdgeMap_parsesTo {kind : EdgeKind} {edges links : List Edge} {spells : Str → Edge → Prop}
    (hread : ∀ key e, kind.read key = .ok e ∧ e ∈ links ↔ spells key e ∧ e ∈ links)
    (hdefined : ∀ key, Defined (kind.read key)) (hmem : ∀ e, e ∈ links ↔ kind.edge e ∈ edges) (hlinks : links.Nodup)
    (hlen : edges.length * kind.perEdge = links.length) (value : Str) :
    ParsesTo (parseEdgeMap kind edges value) (SpellsEntries spells value) links := by
  -- the keys of an accepted mapping are read as they are spelled
  have hreads : ∀ pairs (entries : EdgeMap), (entries.map Prod.fst).Perm links →
      (List.Forall₂ (ReadsTo kind) pairs entries ↔
        List.Forall₂ (fun p q => spells p.1 q.1 ∧ p.2 = q.2) pairs entries) := by
    intro pairs entries hperm
    have hlink : ∀ q ∈ entries, q.1 ∈ links := fun q hq => hperm.mem_iff.1 (List.mem_map_of_mem hq)
    have hpoint : ∀ (p : Str × Str) (q : Edge × Str), q.1 ∈ links →
        (ReadsTo kind p q ↔ spells p.1 q.1 ∧ p.2 = q.2) := by
      intro p q hq
      have he := hread p.1 q.1
      rw [and_iff_left hq, and_iff_left hq] at he
      exact and_congr_left fun _ => he
    rw [List.forall₂_iff_get, List.forall₂_iff_get]
    refine and_congr_right fun _ => forall_congr' fun i => forall_congr' fun hp => forall_congr' fun hq => ?_
    exact hpoint _ _ (hlink _ (List.get_mem _ _))
  have hresult : ∀ m, parseEdgeMap kind edges value = .ok m ↔ ∃ entries, SpellsEntries spells value entries ∧
      (entries.map Prod.fst).Perm links ∧ (m.map Prod.fst).Pairwise edgeLt ∧ ∀ q, q ∈ m ↔ q ∈ entries := by
    intro m
    rw [parseEdgeMap_ok hmem hlinks hlen]
    constructor
    · rintro ⟨pairs, entries, hpairs, hentries, hperm, hm⟩
      exact ⟨entries, ⟨pairs, hpairs, (hreads pairs entries hperm).1 hentries⟩, hperm,
        (eq_ofEntries (hperm.nodup_iff.2 hlinks)).1 hm⟩
    · rintro ⟨entries, ⟨pairs, hpairs, hentries⟩, hperm, hm⟩
      exact ⟨pairs, entries, hpairs, (hreads pairs entries hperm).2 hentries, hperm,
        (eq_ofEntries (hperm.nodup_iff.2 hlinks)).2 hm⟩
  have haccepts : (∃ m, parseEdgeMap kind edges value = .ok m) ↔
      ∃ entries, SpellsEntries spells value entries ∧ (entries.map Prod.fst).Perm links := by
    constructor
    · rintro ⟨m, hm⟩
      obtain ⟨entries, hspells, hperm, -⟩ := (hresult m).1 hm
      exact ⟨entries, hspells, hperm⟩
    · rintro ⟨entries, hspells, hperm⟩
      exact ⟨_, (hresult _).2 ⟨entries, hspells, hperm, (eq_ofEntries (hperm.nodup_iff.2 hlinks)).1 rfl⟩⟩
  refine ⟨haccepts, hresult, fun m hm e => ?_, fun hnone => ?_⟩
  · obtain ⟨entries, -, hperm, -, hall⟩ := (hresult m).1 hm
    rw [← hperm.mem_iff, List.mem_map, List.mem_map]
    simp only [hall]
  · cases hr : parseEdgeMap kind edges value with
    | ok m =>
      obtain ⟨entries, hspells, hperm⟩ := haccepts.1 ⟨m, hr⟩
      exact absurd hperm (hnone entries hspells)
    | error e => exact ⟨e, rfl, defined_parseEdgeMap hdefined value e hr⟩

/-- The two directions of every edge. -/
def directions (edges : List Edge) : List Edge := edges ++ edges.map Prod.swap

theorem mem_directions {edges : List Edge} (hlt : ∀ e ∈ edges, e.1 < e.2) (e : Edge) :
    e ∈ directions edges ↔ directed.edge e ∈ edges := by
  obtain ⟨a, b⟩ := e
  have hswap : (a, b) ∈ edges.map Prod.swap ↔ (b, a) ∈ edges := by
    rw [List.mem_map]
    constructor
    · rintro ⟨⟨x, y⟩, hxy, heq⟩
      cases heq
      exact hxy
    · exact fun h => ⟨_, h, rfl⟩
  rw [directions, List.mem_append, hswap]
  simp only [directed, gt_iff_lt]
  rcases Nat.lt_trichotomy a b with hab | rfl | hab
  · rw [if_pos hab, if_pos hab]
    exact or_iff_left fun h => absurd (hlt _ h) (Nat.lt_asymm hab)
  · simp
  · rw [if_neg (Nat.lt_asymm hab), if_neg (Nat.lt_asymm hab)]
    exact or_iff_right fun h => absurd (hlt _ h) (Nat.lt_asymm hab)

theorem directions_nodup {edges : List Edge} (hlt : ∀ e ∈ edges, e.1 < e.2) (hn : edges.Nodup) :
    (directions edges).Nodup := by
  refine hn.append (hn.map Prod.swap_injective) fun e he hswap => ?_
  obtain ⟨f, hf, rfl⟩ := List.mem_map.1 hswap
  exact absurd (hlt _ he) (Nat.lt_asymm (hlt f hf))

/-- Both parsers accept exactly the maps that give each link of the topology a value once, however the ids are spelled,
and throw otherwise. -/
theorem parseEdgeMaps_parsesTo {sim : BasicSimulation} {config : Config} {t : TopologyPtop}
    (ht : parseTopologyGraph sim config = .ok t) (value : Str) :
    ParsesTo (parseUndirectedEdgeMap t value) (SpellsEntries SpellsEdge value) t.undirectedEdges ∧
      ParsesTo (parseDirectedEdgeMap t value) (SpellsEntries SpellsArrow value) (directions t.undirectedEdges) := by
  obtain ⟨strings, st, h⟩ := parseTopologyGraph_ok.1 ht
  have hset := h.edgesAgree.set
  have hn := OrdSet.sorted_nodup edge_lt h.edgesAgree.sorted
  have hlt : ∀ e ∈ t.undirectedEdges, e.1 < e.2 := fun e he => ((parseTopologyGraph_accepted ht).edge e he).1
  unfold parseUndirectedEdgeMap parseDirectedEdgeMap
  rw [← hset]
  constructor
  · refine parseEdgeMap_parsesTo (fun key e => ?_) defined_readUndirected (fun e => Iff.rfl) hn (Nat.mul_one _) value
    change readUndirected key = .ok e ∧ _ ↔ _
    rw [readUndirected_ok, and_assoc]
    exact and_congr_right fun _ => and_iff_right_of_imp fun he => le_of_lt (hlt e he)
  · refine parseEdgeMap_parsesTo (fun key e => and_congr_left fun _ => readDirected_ok) defined_readDirected
      (mem_directions hlt) (directions_nodup hlt hn) ?_ value
    rw [directions, List.length_append, List.length_map]
    exact Nat.mul_two _

theorem parseEdgeMaps_parsesTo_twoPairs :
    ParsesTo (parseUndirectedEdgeMap twoPairs "map(2-3:4, 00-1:5)".toList)
        (SpellsEntries SpellsEdge "map(2-3:4, 00-1:5)".toList) twoPairs.undirectedEdges ∧
      ParsesTo (parseDirectedEdgeMap twoPairs "map(2-3:4, 00-1:5)".toList)
        (SpellsEntries SpellsArrow "map(2-3:4, 00-1:5)".toList) (directions twoPairs.undirectedEdges) :=
  parseEdgeMaps_parsesTo parseTopologyGraph_twoPairs _

end SatNet.Ptop
