/-
`ArbiterEcmpHelper::CalculateGlobalState`: Floyd–Warshall in a flat `int32_t` array with the value
100000000 for "no distance", and from it the candidate next hops of every node for every target.
The computation never overflows or leaves an array, its matrix holds the distances of the graph,
and the candidates are exactly the neighbours that are one hop closer.
-/
import SatNet.Base.Memory
import SatNet.Lib.FloydWarshall
import SatNet.Ptop.Graph
import Mathlib.Data.List.Nodup

namespace SatNet.Ptop

open SatNet.Loop

/-! ## The computation -/

/-- The distance that stands for "not connected". -/
def infinity : Int := 100000000

def initCell (n i j : Nat) (dist : Cells) : Res Cells := do
  let ij ← matIndex n i j
  writeCell dist ij (if i = j then 0 else infinity)

def initDist (n : Nat) (dist : Cells) : Res Cells :=
  forRange n (fun i dist => forRange n (initCell n i) dist) dist

def setEdge (n : Nat) (dist : Cells) (edge : Edge) : Res Cells := do
  let ab ← matIndex n edge.1 edge.2
  let dist ← writeCell dist ab 1
  let ba ← matIndex n edge.2 edge.1
  writeCell dist ba 1

def setEdges (n : Nat) (edges : List Edge) (dist : Cells) : Res Cells := forEach (setEdge n) edges dist

/-- The body of the three Floyd–Warshall loops. -/
def relaxCell (n k i j : Nat) (dist : Cells) : Res Cells := do
  let ij ← matIndex n i j
  let dij ← readCell dist ij
  let ik ← matIndex n i k
  let dik ← readCell dist ik
  let kj ← matIndex n k j
  let dkj ← readCell dist kj
  let sum ← int32 (dik + dkj)
  if dij > sum then writeCell dist ij sum else .ok dist

def floydWarshall (n : Nat) (dist : Cells) : Res Cells :=
  forRange n (fun k dist => forRange n (fun i dist => forRange n (relaxCell n k i) dist) dist) dist

/-- `candidate_list[current][destination]`. -/
abbrev CandidateList := List (List (List Nat))

/-- `global_candidate_list[a][j].push_back(b)`, where `b` becomes a `uint32_t`. -/
def pushCandidate (g : CandidateList) (a j b : Nat) : Res CandidateList := do
  let row ← index g a
  let l ← index row j
  .ok (g.set a (row.set j (l ++ [toUInt32 b])))

/-- One side of an edge: `b` is a candidate of `a` for `j` if it is one closer. -/
def addCandidate (n : Nat) (dist : Cells) (a b j : Nat) (g : CandidateList) : Res CandidateList := do
  let aj ← matIndex n a j
  let daj ← readCell dist aj
  let closer ← int32 (daj - 1)
  let bj ← matIndex n b j
  let dbj ← readCell dist bj
  if closer = dbj then pushCandidate g a j b else .ok g

/-- Both sides of an edge for the destination `j`. -/
def addBothCandidates (n : Nat) (dist : Cells) (edge : Edge) (j : Nat) (g : CandidateList) : Res CandidateList := do
  let g ← addCandidate n dist edge.1 edge.2 j g
  addCandidate n dist edge.2 edge.1 j g

def addCandidates (n : Nat) (dist : Cells) (edges : List Edge) (g : CandidateList) : Res CandidateList :=
  forEach (fun g edge => forRange n (addBothCandidates n dist edge) g) edges g

def calculateGlobalState (t : TopologyPtop) : Res CandidateList := do
  let n := t.numNodes
  if n > 40000 then .error (.runtimeError "Cannot handle more than 40000 nodes")
  else do
    let square ← int64 (n * n)
    let dist ← newCells (toInt32 square)
    let dist ← initDist n dist
    let dist ← setEdges n t.undirectedEdges dist
    let dist ← floydWarshall n dist
    addCandidates n dist t.undirectedEdges (List.replicate n (List.replicate n []))

/-! ## The distance matrix -/

/-- The matrix before the first round. -/
def initial (edges : List Edge) (i j : Nat) : Int :=
  if (i, j) ∈ edges ∨ (j, i) ∈ edges then 1 else if i = j then 0 else infinity

/-- The matrix after the last round. -/
def distances (t : TopologyPtop) : Nat → Nat → Int :=
  FloydWarshall.run (List.range t.numNodes) (initial t.undirectedEdges)

/-- A length of a walk between two nodes. -/
def WalkLength (t : TopologyPtop) (i j l : Nat) : Prop := ∃ w : t.graph.Walk i j, w.length = l

theorem walkLength_add {t : TopologyPtop} {i k j l m : Nat} (h₁ : WalkLength t i k l) (h₂ : WalkLength t k j m) :
    WalkLength t i j (l + m) := by
  obtain ⟨w₁, rfl⟩ := h₁
  obtain ⟨w₂, rfl⟩ := h₂
  exact ⟨w₁.append w₂, SimpleGraph.Walk.length_append ..⟩

section Distances

variable {t : TopologyPtop}

theorem initial_sound (h : Accepted t) :
    FloydWarshall.Sound (WalkLength t) infinity (initial t.undirectedEdges) := by
  refine ⟨fun i j => ?_, fun i j => ?_, fun i j => ?_⟩ <;> unfold initial
  · split
    · decide
    · split <;> decide
  · split
    · decide
    · split <;> decide
  · split
    · rename_i he
      exact fun _ => ⟨1, rfl, (h.adj_iff.2 he).toWalk, rfl⟩
    · split
      · rename_i he
        subst he
        exact fun _ => ⟨0, rfl, .nil, rfl⟩
      · intro hlt; exact absurd hlt (lt_irrefl _)

theorem distances_sound (h : Accepted t) : FloydWarshall.Sound (WalkLength t) infinity (distances t) :=
  (initial_sound h).run walkLength_add _

/-- A walk between nodes of the topology goes through nodes of the topology. -/
theorem thru_of_walk (h : Accepted t) {i j : Nat} (w : t.graph.Walk i j) :
    FloydWarshall.Thru t.graph.Adj (List.range t.numNodes).reverse i j w.length := by
  induction w with
  | nil => exact .refl _
  | cons hadj w ih =>
    exact .step hadj (by simpa using (h.adj_lt hadj).2) ih

theorem distances_le (h : Accepted t) {i j : Nat} (hi : i < t.numNodes) (hj : j < t.numNodes)
    (w : t.graph.Walk i j) : distances t i j ≤ w.length := by
  refine @FloydWarshall.complete_run Nat _ t.graph.Adj _ _ ?_ ?_ i (List.mem_range.2 hi) j (List.mem_range.2 hj) _
    (thru_of_walk h w)
  · intro i _
    unfold initial
    rw [if_neg, if_pos rfl]
    rintro (he | he) <;> exact absurd (h.edge _ he).1 (lt_irrefl _)
  · intro i _ j _ ha
    unfold initial
    rw [if_pos (h.adj_iff.1 ha)]

/-- The matrix holds the distances of the graph, and `infinity` where there is no walk. -/
theorem distances_spec (h : Accepted t) (hn : t.numNodes ≤ 40000) {i j : Nat} (hi : i < t.numNodes)
    (hj : j < t.numNodes) :
    (t.graph.Reachable i j → distances t i j = t.graph.dist i j) ∧
      (¬ t.graph.Reachable i j → distances t i j = infinity) := by
  have hs := distances_sound h
  constructor
  · intro hr
    obtain ⟨w, hw⟩ := hr.exists_walk_length_eq_dist
    have hle := distances_le h hi hj w
    have hlt := h.dist_lt hi hr
    obtain ⟨l, hl, w', hw'⟩ := hs.attained i j (by unfold infinity; omega)
    have := SimpleGraph.dist_le w'
    omega
  · intro hr
    by_contra hne
    obtain ⟨l, hl, w', hw'⟩ := hs.attained i j (lt_of_le_of_ne (hs.le_inf i j) hne)
    exact hr w'.reachable

end Distances

/-! ## The array -/

section Array

variable {n : Nat} {d : Cells}

/-- The array holds the whole matrix `D`. -/
abbrev HoldsAll (n : Nat) (d : Cells) (D : Nat → Nat → Int) : Prop := Holds n d (fun _ _ => True) D

theorem HoldsAll.write {D : Nat → Nat → Int} (h : HoldsAll n d D) {i j : Nat} (hi : i < n) (hj : j < n) (x : Int) :
    ∃ d', writeCell d ((n * i + j : Nat) : Int) x = .ok d' ∧
      HoldsAll n d' fun a b => if a = i ∧ b = j then x else D a b := by
  obtain ⟨d', hd, hl, hc⟩ := Holds.write h hi hj x
  exact ⟨d', hd, hl, fun a ha b hb _ => hc a ha b hb (.inl trivial)⟩

theorem HoldsAll.congr {D D' : Nat → Nat → Int} (h : HoldsAll n d D)
    (he : ∀ i < n, ∀ j < n, D' i j = D i j) : HoldsAll n d D' :=
  ⟨h.1, fun i hi j hj hs => by rw [he i hi j hj]; exact h.2 i hi j hj hs⟩

/-- The first loops write every cell, row by row. -/
theorem initDist_spec (hn : n ≤ 40000) (hd : d.length = n * n) :
    ∃ d', initDist n d = .ok d' ∧ HoldsAll n d' fun i j => if i = j then 0 else infinity := by
  let D₀ : Nat → Nat → Int := fun i j => if i = j then 0 else infinity
  have hcell : ∀ i < n, ∀ j < n, ∀ d, Holds n d (fun a b => a < i ∨ a = i ∧ b < j) D₀ →
      ∃ d', initCell n i j d = .ok d' ∧ Holds n d' (fun a b => a < i ∨ a = i ∧ b < j + 1) D₀ := by
    intro i hi j hj d h
    obtain ⟨d', hw, hl, hc⟩ := h.write hi hj (D₀ i j)
    refine ⟨d', by unfold initCell; rw [matIndex_eq hn hi hj]; exact hw, hl, fun a ha b hb hs => ?_⟩
    rw [hc a ha b hb (by omega)]
    by_cases hab : a = i ∧ b = j
    · obtain ⟨rfl, rfl⟩ := hab; simp
    · simp only [if_neg hab]
  have hrow : ∀ i < n, ∀ d, Holds n d (fun a _ => a < i) D₀ →
      ∃ d', forRange n (initCell n i) d = .ok d' ∧ Holds n d' (fun a _ => a < i + 1) D₀ := by
    intro i hi d h0
    obtain ⟨d', h₁, hl, hc⟩ := forRange_inv (fun j d => Holds n d (fun a b => a < i ∨ a = i ∧ b < j) D₀)
      (initCell n i) n d ⟨h0.1, fun a ha b hb hs => h0.2 a ha b hb (by omega)⟩ (hcell i hi)
    exact ⟨d', h₁, hl, fun a ha b hb hs => hc a ha b hb (by omega)⟩
  obtain ⟨d', h₁, hl, hc⟩ := forRange_inv (fun i d => Holds n d (fun a _ => a < i) D₀) _ n d
    ⟨hd, fun a _ b _ hs => absurd hs (Nat.not_lt_zero a)⟩ hrow
  exact ⟨d', h₁, hl, fun a ha b hb _ => hc a ha b hb ha⟩

theorem setEdge_spec (hn : n ≤ 40000) {done : List Edge} {e : Edge} (ha : e.1 < n) (hb : e.2 < n)
    (h : HoldsAll n d (initial done)) :
    ∃ d', setEdge n d e = .ok d' ∧ HoldsAll n d' (initial (done ++ [e])) := by
  obtain ⟨d₁, hw₁, h₁⟩ := h.write ha hb 1
  obtain ⟨d₂, hw₂, h₂⟩ := h₁.write hb ha 1
  refine ⟨d₂, ?_, h₂.congr fun i _ j _ => ?_⟩
  · unfold setEdge
    rw [matIndex_eq hn ha hb, ok_bind, hw₁, ok_bind, matIndex_eq hn hb ha]
    exact hw₂
  · simp only [initial, List.mem_append, List.mem_singleton, Prod.ext_iff]
    by_cases hba : i = e.2 ∧ j = e.1
    · rw [if_pos hba, if_pos (.inr (.inr ⟨hba.2, hba.1⟩))]
    · rw [if_neg hba]
      by_cases hab : i = e.1 ∧ j = e.2
      · rw [if_pos hab, if_pos (.inl (.inr hab))]
      · rw [if_neg hab]
        congr 1
        simp only [hab, or_false, eq_iff_iff]
        constructor
        · rintro (h | h | h); exacts [.inl h, .inr h, absurd ⟨h.2, h.1⟩ hba]
        · rintro (h | h); exacts [.inl h, .inr (.inl h)]

theorem setEdges_spec (hn : n ≤ 40000) {edges : List Edge} (he : ∀ e ∈ edges, e.1 < n ∧ e.2 < n)
    (hd : HoldsAll n d fun i j => if i = j then 0 else infinity) :
    ∃ d', setEdges n edges d = .ok d' ∧ HoldsAll n d' (initial edges) := by
  obtain ⟨d', h₁, h₂⟩ := forEach_inv (setEdge n) (fun done d => HoldsAll n d (initial done)) edges [] d
    (hd.congr fun i _ j _ => by simp [initial])
    (fun e hm done d h => setEdge_spec hn (he e hm).1 (he e hm).2 h)
  exact ⟨d', h₁, by simpa using h₂⟩

/-- The array follows the matrix through one step, as long as the entries lie in `[0, infinity]`: the
sum of two of them fits in an `int32_t`. -/
theorem relaxCell_spec (hn : n ≤ 40000) {D : Nat → Nat → Int} (h : HoldsAll n d D)
    (hb : ∀ i j, 0 ≤ D i j ∧ D i j ≤ infinity) {k i j : Nat} (hk : k < n) (hi : i < n) (hj : j < n) :
    ∃ d', relaxCell n k i j d = .ok d' ∧ HoldsAll n d' (FloydWarshall.relax k i j D) := by
  have hik := hb i k
  have hkj := hb k j
  have hsum : int32 (D i k + D k j) = .ok (D i k + D k j) := by
    unfold infinity at hik hkj; exact int32_eq (by omega) (by omega)
  have hread : relaxCell n k i j d = if D i j > D i k + D k j then
      writeCell d ((n * i + j : Nat) : Int) (D i k + D k j) else .ok d := by
    unfold relaxCell
    simp only [matIndex_eq hn hi hj, matIndex_eq hn hi hk, matIndex_eq hn hk hj, ok_bind,
      h.read hi hj trivial, h.read hi hk trivial, h.read hk hj trivial, hsum]
  rw [hread]
  unfold FloydWarshall.relax
  split
  · exact h.write hi hj _
  · exact ⟨d, rfl, h⟩

/-- The three loops run Floyd–Warshall on the matrix in the array. -/
theorem floydWarshall_spec (hn : n ≤ 40000) {R : Nat → Nat → Nat → Prop} {D : Nat → Nat → Int}
    (hR : ∀ {i k j l m}, R i k l → R k j m → R i j (l + m)) (h : HoldsAll n d D)
    (hs : FloydWarshall.Sound R infinity D) :
    ∃ d', floydWarshall n d = .ok d' ∧ HoldsAll n d' (FloydWarshall.run (List.range n) D) := by
  let Rel : Cells → (Nat → Nat → Int) → Prop := fun d D => HoldsAll n d D ∧ FloydWarshall.Sound R infinity D
  have hcell : ∀ k < n, ∀ i < n, ∀ j < n, ∀ d D, Rel d D →
      ∃ d', relaxCell n k i j d = .ok d' ∧ Rel d' (FloydWarshall.relax k i j D) := by
    rintro k hk i hi j hj d D ⟨h, hs⟩
    obtain ⟨d', h₁, h₂⟩ := relaxCell_spec hn h (fun i j => ⟨hs.nonneg i j, hs.le_inf i j⟩) hk hi hj
    exact ⟨d', h₁, h₂, hs.relax hR k i j⟩
  have hrow := fun k hk i hi d D (h : Rel d D) =>
    forRange_sim Rel (relaxCell n k i) (fun j D => FloydWarshall.relax k i j D) n d D h (hcell k hk i hi)
  have hround := fun k hk d D (h : Rel d D) => forRange_sim Rel
    (fun i dist => forRange n (relaxCell n k i) dist)
    (fun i D => iterRange n (fun j D => FloydWarshall.relax k i j D) D) n d D h (hrow k hk)
  obtain ⟨d', h₁, h₂, -⟩ := forRange_sim Rel
    (fun k dist => forRange n (fun i dist => forRange n (relaxCell n k i) dist) dist)
    (fun k D => iterRange n (fun i D => iterRange n (fun j D => FloydWarshall.relax k i j D) D) D) n d D ⟨h, hs⟩ hround
  simp only [iterRange_eq_foldl] at h₂
  exact ⟨d', h₁, h₂⟩

end Array

/-! ## The candidates -/

/-- What one side of an edge contributes to the candidates of `a` for `j`. -/
def contribution (D : Nat → Nat → Int) (a j : Nat) (x b : Nat) : List Nat :=
  if x = a ∧ D x j - 1 = D b j then [toUInt32 b] else []

/-- The candidates of `a` for `j` after some edges, in the order of the edges. -/
def candidates (D : Nat → Nat → Int) (edges : List Edge) (a j : Nat) : List Nat :=
  edges.flatMap fun e => contribution D a j e.1 e.2 ++ contribution D a j e.2 e.1

/-- The two-dimensional list holds `C a j` at every position. -/
structure Table (n : Nat) (g : CandidateList) (C : Nat → Nat → List Nat) : Prop where
  length : g.length = n
  row : ∀ a < n, ∃ row, g[a]? = some row ∧ row.length = n ∧ ∀ j < n, row[j]? = some (C a j)

section Candidates

variable {n : Nat} {g : CandidateList} {C : Nat → Nat → List Nat}

theorem Table.congr {C' : Nat → Nat → List Nat} (h : Table n g C)
    (he : ∀ a < n, ∀ j < n, C' a j = C a j) : Table n g C' :=
  ⟨h.length, fun a ha => by
    obtain ⟨row, h₁, h₂, h₃⟩ := h.row a ha
    exact ⟨row, h₁, h₂, fun j hj => by rw [he a ha j hj]; exact h₃ j hj⟩⟩

theorem table_replicate (n : Nat) : Table n (List.replicate n (List.replicate n [])) fun _ _ => [] :=
  ⟨List.length_replicate, fun a ha => ⟨List.replicate n [], by rw [List.getElem?_replicate, if_pos ha],
    List.length_replicate, fun j hj => by rw [List.getElem?_replicate, if_pos hj]⟩⟩

theorem pushCandidate_spec (h : Table n g C) {a j : Nat} (ha : a < n) (hj : j < n) (b : Nat) :
    ∃ g', pushCandidate g a j b = .ok g' ∧
      Table n g' fun x k => if x = a ∧ k = j then C a j ++ [toUInt32 b] else C x k := by
  obtain ⟨row, h₁, h₂, h₃⟩ := h.row a ha
  refine ⟨g.set a (row.set j (C a j ++ [toUInt32 b])), ?_, by simpa using h.length, fun x hx => ?_⟩
  · unfold pushCandidate
    rw [index_ok.2 h₁, ok_bind, index_ok.2 (h₃ j hj), ok_bind]
  · by_cases hxa : x = a
    · subst hxa
      refine ⟨row.set j (C x j ++ [toUInt32 b]), ?_, by simpa using h₂, fun k hk => ?_⟩
      · rw [List.getElem?_set_self (by rw [h.length]; exact hx)]
      · rw [List.getElem?_set]
        by_cases hkj : j = k
        · subst hkj; rw [if_pos rfl, if_pos (by omega)]; simp
        · rw [if_neg hkj, if_neg (fun h => hkj h.2.symm)]; exact h₃ k hk
    · obtain ⟨row', h₁', h₂', h₃'⟩ := h.row x hx
      refine ⟨row', by rw [List.getElem?_set_ne (Ne.symm hxa)]; exact h₁', h₂', fun k hk => ?_⟩
      rw [if_neg (fun h => hxa h.1)]; exact h₃' k hk

theorem addCandidate_spec (hn : n ≤ 40000) {d : Cells} {D : Nat → Nat → Int} (hd : HoldsAll n d D)
    (hb : ∀ i j, 0 ≤ D i j ∧ D i j ≤ infinity) (h : Table n g C) {a b j : Nat} (ha : a < n) (hbn : b < n)
    (hj : j < n) :
    ∃ g', addCandidate n d a b j g = .ok g' ∧
      Table n g' fun x k => if k = j then C x k ++ contribution D x k a b else C x k := by
  have haj := hb a j
  unfold infinity at haj
  have hread : addCandidate n d a b j g = if D a j - 1 = D b j then pushCandidate g a j b else .ok g := by
    unfold addCandidate
    simp only [matIndex_eq hn ha hj, matIndex_eq hn hbn hj, ok_bind, hd.read ha hj trivial,
      hd.read hbn hj trivial, int32_eq (show -2 ^ 31 ≤ D a j - 1 by omega) (show D a j - 1 < 2 ^ 31 by omega)]
  rw [hread]
  split
  · rename_i hc
    obtain ⟨g', h₁, h₂⟩ := pushCandidate_spec h ha hj b
    refine ⟨g', h₁, h₂.congr fun x _ k _ => ?_⟩
    unfold contribution
    by_cases hk : k = j
    · subst hk
      by_cases hx : x = a
      · subst hx; simp [hc]
      · simp [hx, Ne.symm hx]
    · simp [hk]
  · rename_i hc
    refine ⟨g, rfl, h.congr fun x _ k _ => ?_⟩
    unfold contribution
    by_cases hk : k = j
    · subst hk; simp [hc]
    · simp [hk]

theorem addBothCandidates_spec (hn : n ≤ 40000) {d : Cells} {D : Nat → Nat → Int} (hd : HoldsAll n d D)
    (hb : ∀ i j, 0 ≤ D i j ∧ D i j ≤ infinity) {e : Edge} (h₁ : e.1 < n) (h₂ : e.2 < n) {done : List Edge}
    {j : Nat} (hj : j < n)
    (h : Table n g fun x k => if k < j then candidates D (done ++ [e]) x k else candidates D done x k) :
    ∃ g', addBothCandidates n d e j g = .ok g' ∧
      Table n g' fun x k => if k < j + 1 then candidates D (done ++ [e]) x k else candidates D done x k := by
  obtain ⟨g₁, hg₁, ht₁⟩ := addCandidate_spec hn hd hb h h₁ h₂ hj
  obtain ⟨g₂, hg₂, ht₂⟩ := addCandidate_spec hn hd hb ht₁ h₂ h₁ hj
  have hrun : addBothCandidates n d e j g = .ok g₂ := by
    unfold addBothCandidates
    rw [hg₁, ok_bind]
    exact hg₂
  refine ⟨g₂, hrun, ht₂.congr fun x _ k _ => ?_⟩
  by_cases hk : k = j
  · subst hk; simp [candidates]
  · simp only [if_neg hk]
    by_cases hlt : k < j
    · rw [if_pos hlt, if_pos (by omega)]
    · rw [if_neg hlt, if_neg (by omega)]

/-- The loop over the edges appends the contributions of each edge to every list. -/
theorem addCandidates_spec (hn : n ≤ 40000) {d : Cells} {D : Nat → Nat → Int} (hd : HoldsAll n d D)
    (hb : ∀ i j, 0 ≤ D i j ∧ D i j ≤ infinity) {edges : List Edge} (he : ∀ e ∈ edges, e.1 < n ∧ e.2 < n) :
    ∃ g, addCandidates n d edges (List.replicate n (List.replicate n [])) = .ok g ∧
      Table n g (candidates D edges) := by
  have hedge : ∀ e ∈ edges, ∀ done g, Table n g (candidates D done) →
      ∃ g', forRange n (addBothCandidates n d e) g = .ok g' ∧ Table n g' (candidates D (done ++ [e])) := by
    intro e hm done g h
    obtain ⟨g', hg, ht⟩ := forRange_inv
      (fun j g => Table n g fun x k => if k < j then candidates D (done ++ [e]) x k else candidates D done x k)
      (addBothCandidates n d e) n g (h.congr fun x _ k _ => by simp)
      (fun j hj g h => addBothCandidates_spec hn hd hb (he e hm).1 (he e hm).2 hj h)
    exact ⟨g', hg, ht.congr fun x _ k hk => by rw [if_pos hk]⟩
  obtain ⟨g, hg, ht⟩ := forEach_inv _ (fun done g => Table n g (candidates D done)) edges [] _
    ((table_replicate n).congr fun _ _ _ _ => rfl) hedge
  exact ⟨g, hg, by simpa using ht⟩

end Candidates

/-! ## The result -/

section Result

variable {t : TopologyPtop}

/-- On an accepted topology the whole computation succeeds: no addition, index or array size leaves
its range, and every cell is written before it is read. -/
theorem calculateGlobalState_table (h : Accepted t) (hn : t.numNodes ≤ 40000) :
    ∃ g, calculateGlobalState t = .ok g ∧ Table t.numNodes g (candidates (distances t) t.undirectedEdges) := by
  have he : ∀ e ∈ t.undirectedEdges, e.1 < t.numNodes ∧ e.2 < t.numNodes := fun e hm => by
    have := h.edge e hm; exact ⟨by omega, this.2⟩
  have hsq : t.numNodes * t.numNodes ≤ 40000 * 40000 := Nat.mul_le_mul hn hn
  have hcast : (t.numNodes : Int) * t.numNodes = ((t.numNodes * t.numNodes : Nat) : Int) := by push_cast; rfl
  have hnew : newCells (toInt32 ((t.numNodes : Int) * t.numNodes)) =
      .ok (List.replicate (t.numNodes * t.numNodes) none) := by
    unfold newCells
    rw [hcast, toInt32_eq (by omega) (by omega), if_neg (by omega), Int.toNat_natCast]
  have hs := distances_sound h
  obtain ⟨d₁, h₁, hd₁⟩ := initDist_spec hn (List.length_replicate (n := t.numNodes * t.numNodes) (a := none))
  obtain ⟨d₂, h₂, hd₂⟩ := setEdges_spec hn he hd₁
  obtain ⟨d₃, h₃, hd₃⟩ := floydWarshall_spec hn walkLength_add hd₂ (initial_sound h)
  obtain ⟨g, hg, ht⟩ := addCandidates_spec hn hd₃ (fun i j => ⟨hs.nonneg i j, hs.le_inf i j⟩) he
  refine ⟨g, ?_, ht⟩
  unfold calculateGlobalState
  rw [if_neg (by omega), int64_eq (by rw [hcast]; omega) (by rw [hcast]; omega), ok_bind, hnew, ok_bind, h₁,
    ok_bind, h₂, ok_bind, h₃, ok_bind, hg]

theorem mem_contribution {D : Nat → Nat → Int} {a j x b c : Nat} :
    c ∈ contribution D a j x b ↔ x = a ∧ D x j - 1 = D b j ∧ c = toUInt32 b := by
  unfold contribution
  split
  · rename_i h
    rw [List.mem_singleton]
    constructor
    · intro hc; exact ⟨h.1, h.2, hc⟩
    · rintro ⟨-, -, hc⟩; exact hc
  · rename_i h
    simp only [List.not_mem_nil, false_iff]
    rintro ⟨hx, hd, -⟩
    exact h ⟨hx, hd⟩

/-- The candidates are the neighbours whose matrix entry is one less. -/
theorem mem_candidates (h : Accepted t) (hn : t.numNodes ≤ 40000) {D : Nat → Nat → Int} {a j b : Nat} :
    b ∈ candidates D t.undirectedEdges a j ↔ t.graph.Adj a b ∧ D a j - 1 = D b j := by
  have hu : ∀ e ∈ t.undirectedEdges, toUInt32 e.1 = e.1 ∧ toUInt32 e.2 = e.2 := fun e hm => by
    have := h.edge e hm; exact ⟨toUInt32_eq (by omega), toUInt32_eq (by omega)⟩
  unfold candidates
  simp only [List.mem_flatMap, List.mem_append, mem_contribution]
  constructor
  · rintro ⟨e, hm, ⟨rfl, hd, rfl⟩ | ⟨rfl, hd, rfl⟩⟩
    · rw [(hu e hm).2]; exact ⟨h.adj_iff.2 (.inl hm), hd⟩
    · rw [(hu e hm).1]; exact ⟨h.adj_iff.2 (.inr hm), hd⟩
  · rintro ⟨hadj, hd⟩
    rcases h.adj_iff.1 hadj with hm | hm
    · exact ⟨(a, b), hm, .inl ⟨rfl, hd, (hu _ hm).2.symm⟩⟩
    · exact ⟨(b, a), hm, .inr ⟨rfl, hd, (hu _ hm).1.symm⟩⟩

/-- No candidate is listed twice: only one edge joins two nodes. -/
theorem nodup_candidates (h : Accepted t) (hn : t.numNodes ≤ 40000) (D : Nat → Nat → Int) (a j : Nat) :
    (candidates D t.undirectedEdges a j).Nodup := by
  have hu : ∀ e ∈ t.undirectedEdges, toUInt32 e.1 = e.1 ∧ toUInt32 e.2 = e.2 := fun e hm => by
    have := h.edge e hm; exact ⟨toUInt32_eq (by omega), toUInt32_eq (by omega)⟩
  have hone : ∀ x b, (contribution D a j x b).Nodup := fun x b => by unfold contribution; split <;> simp
  have hmem : ∀ e ∈ t.undirectedEdges, ∀ c, c ∈ contribution D a j e.1 e.2 ++ contribution D a j e.2 e.1 →
      e = (a, c) ∨ e = (c, a) := by
    intro e hm c hc
    rcases List.mem_append.1 hc with hc | hc
    · obtain ⟨rfl, -, rfl⟩ := mem_contribution.1 hc; rw [(hu e hm).2]; exact .inl rfl
    · obtain ⟨rfl, -, rfl⟩ := mem_contribution.1 hc; rw [(hu e hm).1]; exact .inr rfl
  unfold candidates
  apply List.nodup_flatMap.2
  constructor
  · intro e hm
    apply List.nodup_append.2
    refine ⟨hone _ _, hone _ _, ?_⟩
    intro c hc c' hc' heq
    obtain ⟨h₁, -, -⟩ := mem_contribution.1 hc
    obtain ⟨h₂, -, -⟩ := mem_contribution.1 hc'
    have := (h.edge e hm).1; omega
  · apply h.sorted.imp_of_mem
    intro e e' hm hm' hlt
    rw [Function.onFun, List.disjoint_left]
    intro c hc hc'
    have h₁ := (h.edge e hm).1
    have h₂ := (h.edge e' hm').1
    unfold edgeLt at hlt
    rcases hmem e hm c hc with rfl | rfl <;> rcases hmem e' hm' c hc' with rfl | rfl <;>
      simp only at h₁ h₂ hlt <;> omega

/-- Being one less in the matrix means being one hop closer; `infinity` is one less than nothing. -/
theorem closer_iff (h : Accepted t) (hn : t.numNodes ≤ 40000) {a b j : Nat} (hadj : t.graph.Adj a b)
    (hj : j < t.numNodes) :
    distances t a j - 1 = distances t b j ↔
      t.graph.Reachable a j ∧ t.graph.dist b j + 1 = t.graph.dist a j := by
  obtain ⟨ha, hb⟩ := h.adj_lt hadj
  obtain ⟨ra, ua⟩ := distances_spec h hn ha hj
  obtain ⟨rb, ub⟩ := distances_spec h hn hb hj
  by_cases hr : t.graph.Reachable a j
  · rw [ra hr, rb (hadj.reachable.symm.trans hr)]
    constructor
    · intro he; exact ⟨hr, by omega⟩
    · rintro ⟨-, he⟩; omega
  · rw [ua hr, ub fun hrb => hr (hadj.reachable.trans hrb)]
    constructor
    · intro he; unfold infinity at he; omega
    · rintro ⟨h, -⟩; exact absurd h hr

/-- From a node connected to another one some neighbour is one hop closer. -/
theorem exists_closer {a j : Nat} (hr : t.graph.Reachable a j) (hne : a ≠ j) :
    ∃ b, t.graph.Adj a b ∧ t.graph.dist b j + 1 = t.graph.dist a j := by
  obtain ⟨w, hw⟩ := hr.exists_walk_length_eq_dist
  cases w with
  | nil => exact absurd rfl hne
  | @cons _ b _ hadj w =>
    refine ⟨b, hadj, ?_⟩
    rw [SimpleGraph.Walk.length_cons] at hw
    have h₁ := SimpleGraph.dist_le w
    obtain ⟨w', hw'⟩ := w.reachable.exists_walk_length_eq_dist
    have h₂ := SimpleGraph.dist_le (SimpleGraph.Walk.cons hadj w')
    rw [SimpleGraph.Walk.length_cons] at h₂
    omega

/-- The entry of the routing state for a node and a target. -/
def CandidateList.entry (g : CandidateList) (current target : Nat) : Option (List Nat) :=
  g[current]?.bind (·[target]?)

/-- What the routing state holds for every two nodes: the neighbours one hop closer, each once. -/
structure Exact (t : TopologyPtop) (current target : Nat) (l : List Nat) : Prop where
  nodup : l.Nodup
  mem : ∀ b, b ∈ l ↔ t.graph.Adj current b ∧ t.graph.Reachable current target ∧
    t.graph.dist b target + 1 = t.graph.dist current target
  empty : l = [] ↔ current = target ∨ ¬ t.graph.Reachable current target

theorem exact_candidates (h : Accepted t) (hn : t.numNodes ≤ 40000) {a j : Nat} (hj : j < t.numNodes) :
    Exact t a j (candidates (distances t) t.undirectedEdges a j) := by
  have hmem : ∀ b, b ∈ candidates (distances t) t.undirectedEdges a j ↔ t.graph.Adj a b ∧
      t.graph.Reachable a j ∧ t.graph.dist b j + 1 = t.graph.dist a j := by
    intro b
    rw [mem_candidates h hn]
    apply and_congr_right
    intro hadj
    exact closer_iff h hn hadj hj
  refine ⟨nodup_candidates h hn _ _ _, hmem, ?_⟩
  rw [List.eq_nil_iff_forall_not_mem]
  constructor
  · intro hno
    by_contra hc
    rw [not_or, not_not] at hc
    obtain ⟨b, hadj, hd⟩ := exists_closer hc.2 hc.1
    exact hno b ((hmem b).2 ⟨hadj, hc.2, hd⟩)
  · rintro (rfl | hr) b hb
    · have := ((hmem b).1 hb).2.2
      rw [SimpleGraph.dist_self] at this; omega
    · exact hr ((hmem b).1 hb).2.1

/-- `CalculateGlobalState` on an accepted topology of at most 40000 nodes: it ends without leaving the
range of any type or array, and its entry for every two nodes is exactly the neighbours that are one
hop closer to the target, empty exactly for the node itself and for unreachable targets. -/
theorem calculateGlobalState_exact {sim : BasicSimulation} {config : ExpUtil.Config}
    (hp : parseTopologyGraph sim config = .ok t) (hn : t.numNodes ≤ 40000) :
    toInt32 (t.numNodes * t.numNodes) = t.numNodes * t.numNodes ∧
    ∃ g, calculateGlobalState t = .ok g ∧ g.length = t.numNodes ∧
      ∀ current < t.numNodes, ∀ target < t.numNodes,
        ∃ l, g.entry current target = some l ∧ Exact t current target l := by
  have h := parseTopologyGraph_accepted hp
  obtain ⟨g, hg, ht⟩ := calculateGlobalState_table h hn
  have hsq : t.numNodes * t.numNodes ≤ 40000 * 40000 := Nat.mul_le_mul hn hn
  have hcast : (t.numNodes : Int) * t.numNodes = ((t.numNodes * t.numNodes : Nat) : Int) := by push_cast; rfl
  refine ⟨by rw [hcast]; exact toInt32_eq (by omega) (by omega), g, hg, ht.length, fun a ha j hj => ?_⟩
  obtain ⟨row, h₁, -, h₃⟩ := ht.row a ha
  refine ⟨_, ?_, exact_candidates h hn hj⟩
  unfold CandidateList.entry
  rw [h₁]; exact h₃ j hj

theorem calculateGlobalState_exact_twoPairs :
    toInt32 (twoPairs.numNodes * twoPairs.numNodes) = twoPairs.numNodes * twoPairs.numNodes ∧
    ∃ g, calculateGlobalState twoPairs = .ok g ∧ g.length = twoPairs.numNodes ∧
      ∀ current < twoPairs.numNodes, ∀ target < twoPairs.numNodes,
        ∃ l, g.entry current target = some l ∧ Exact twoPairs current target l :=
  calculateGlobalState_exact parseTopologyGraph_twoPairs (by decide)

end Result

end SatNet.Ptop
