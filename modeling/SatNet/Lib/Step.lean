/-
Step functions and their run-length encodings: a sequence of timed values, the value it has at an
instant, and rows that tile an interval of time with those values. There is only one encoding of a
step function whose adjacent rows differ.
-/
import Mathlib.Data.List.Chain
import Mathlib.Data.List.Basic
import Mathlib.Order.Lattice

namespace SatNet.Step

variable {T V : Type} [LinearOrder T]

/-! ## Step functions -/

/-- The value at an instant: that of the last update not after it. -/
def valueAt (us : List (T × V)) (x : T) : Option V := ((us.filter (·.1 ≤ x)).getLast?).map Prod.snd

theorem valueAt_concat_lt {us : List (T × V)} {t x : T} (h : x < t) (v : V) :
    valueAt (us ++ [(t, v)]) x = valueAt us x := by
  unfold valueAt
  rw [List.filter_append, List.filter_cons_of_neg (by simpa using h), List.filter_nil, List.append_nil]

theorem valueAt_concat_le {us : List (T × V)} {t x : T} (h : t ≤ x) (v : V) :
    valueAt (us ++ [(t, v)]) x = some v := by
  unfold valueAt
  rw [List.filter_append, List.filter_cons_of_pos (by simpa using h), List.filter_nil, List.getLast?_concat]
  rfl

/-! ## Rows -/

/-- A value from `left` on until before `right`. -/
structure Row (T V : Type) where
  left : T
  right : T
  value : V
  deriving Repr, DecidableEq

/-- Rows that are not empty and follow one another without a gap, from `a` to `b`. -/
def Tiles : List (Row T V) → T → T → Prop
  | [], a, b => a = b
  | r :: rows, a, b => r.left = a ∧ r.left < r.right ∧ Tiles rows r.right b

/-- In every row the function has the value of the row. -/
def Carries (rows : List (Row T V)) (f : T → Option V) : Prop :=
  ∀ r ∈ rows, ∀ x, r.left ≤ x → x < r.right → f x = some r.value

/-- No two adjacent rows have the same value. -/
def Changing (rows : List (Row T V)) : Prop := rows.IsChain fun r s => r.value ≠ s.value

/-- The rows are the run-length encoding of `f` between `a` and `b`. -/
structure Canonical (rows : List (Row T V)) (a b : T) (f : T → Option V) : Prop where
  tiles : Tiles rows a b
  carries : Carries rows f
  changing : Changing rows

theorem tiles_append : ∀ {l m : List (Row T V)} {a c : T}, Tiles (l ++ m) a c ↔ ∃ b, Tiles l a b ∧ Tiles m b c
  | [], m, a, c => by simp [Tiles]
  | r :: l, m, a, c => by
    simp only [List.cons_append, Tiles, tiles_append]
    constructor
    · rintro ⟨hl, hr, b, h₁, h₂⟩; exact ⟨b, ⟨hl, hr, h₁⟩, h₂⟩
    · rintro ⟨b, ⟨hl, hr, h₁⟩, h₂⟩; exact ⟨hl, hr, b, h₁, h₂⟩

theorem tiles_concat {l : List (Row T V)} {r : Row T V} {a c : T} :
    Tiles (l ++ [r]) a c ↔ Tiles l a r.left ∧ r.left < r.right ∧ r.right = c := by
  rw [tiles_append]
  constructor
  · rintro ⟨b, h, hl, hr, he⟩
    exact ⟨hl ▸ h, hr, he⟩
  · rintro ⟨h, hr, he⟩
    exact ⟨r.left, h, rfl, hr, he⟩

theorem Tiles.le : ∀ {rows : List (Row T V)} {a b : T}, Tiles rows a b → a ≤ b
  | [], _, _, h => le_of_eq h
  | _ :: _, _, _, ⟨hl, hr, ht⟩ => hl ▸ le_trans hr.le ht.le

/-- Whether rows tile does not depend on their values. -/
theorem tiles_mapValue {W : Type} (f : V → W) : ∀ {rows : List (Row T V)} {a b : T},
    Tiles (rows.map fun r => ⟨r.left, r.right, f r.value⟩) a b ↔ Tiles rows a b
  | [], _, _ => Iff.rfl
  | _ :: _, _, _ => and_congr_right' (and_congr_right' (tiles_mapValue f))

/-- Rows have one end. -/
theorem Tiles.unique : ∀ {rows : List (Row T V)} {a b c : T}, Tiles rows a b → Tiles rows a c → b = c
  | [], _, _, _, h, h' => h.symm.trans h'
  | _ :: _, _, _, _, ⟨_, _, ht⟩, ⟨_, _, ht'⟩ => ht.unique ht'

theorem Tiles.left_lt : ∀ {rows : List (Row T V)} {a b : T}, Tiles rows a b → ∀ r ∈ rows, r.left < r.right
  | [], _, _, _ => nofun
  | _ :: _, _, _, ⟨_, hr, ht⟩ => by
    intro s hs
    rcases List.mem_cons.1 hs with rfl | hs
    · exact hr
    · exact ht.left_lt s hs

theorem Tiles.right_le : ∀ {rows : List (Row T V)} {a b : T}, Tiles rows a b → ∀ r ∈ rows, r.right ≤ b
  | [], _, _, _ => nofun
  | _ :: _, _, _, ⟨_, _, ht⟩ => by
    intro s hs
    rcases List.mem_cons.1 hs with rfl | hs
    · exact ht.le
    · exact ht.right_le s hs

/-- Rows without extent are none. -/
theorem Tiles.eq_nil_iff {rows : List (Row T V)} {a b : T} (h : Tiles rows a b) : rows = [] ↔ a = b := by
  cases rows with
  | nil =>
    constructor
    · intro _; exact h
    · intro _; rfl
  | cons r rows =>
    obtain ⟨hl, hr, ht⟩ := h
    constructor
    · rintro ⟨⟩
    intro he
    have hlt : a < b := hl ▸ lt_of_lt_of_le hr ht.le
    exact absurd he hlt.ne

namespace Canonical

variable {rows : List (Row T V)} {a b : T} {f g : T → Option V}

theorem nil (a : T) (f : T → Option V) : Canonical ([] : List (Row T V)) a a f := ⟨rfl, nofun, .nil⟩

theorem single {v : V} (h : a < b) (hv : ∀ x, a ≤ x → x < b → f x = some v) : Canonical [⟨a, b, v⟩] a b f :=
  ⟨⟨rfl, h, rfl⟩, fun r hr => by rw [List.mem_singleton] at hr; subst hr; exact hv, List.isChain_singleton _⟩

/-- Only the values before the end matter. -/
theorem congr (h : Canonical rows a b f) (hfg : ∀ x < b, g x = f x) : Canonical rows a b g :=
  ⟨h.tiles, fun r hr x hl hx => by
    rw [hfg x (lt_of_lt_of_le hx (h.tiles.right_le r hr))]; exact h.carries r hr x hl hx, h.changing⟩

/-- The last row goes on as long as the function keeps its value. -/
theorem extend {l m c : T} {v : V} (h : Canonical (rows ++ [⟨l, m, v⟩]) a m f) (hmc : m ≤ c)
    (hv : ∀ x, m ≤ x → x < c → f x = some v) : Canonical (rows ++ [⟨l, c, v⟩]) a c f := by
  obtain ⟨ht, hlm, -⟩ := tiles_concat.1 h.tiles
  refine ⟨tiles_concat.2 ⟨ht, lt_of_lt_of_le hlm hmc, rfl⟩, fun r hr x hl hx => ?_, ?_⟩
  · rcases List.mem_append.1 hr with hr | hr
    · exact h.carries r (List.mem_append_left _ hr) x hl hx
    · rw [List.mem_singleton] at hr
      subst hr
      rcases lt_or_ge x m with hxm | hxm
      · exact h.carries ⟨l, m, v⟩ (by simp) x hl hxm
      · exact hv x hxm hx
  · obtain ⟨h₁, -, h₂⟩ := List.isChain_append.1 h.changing
    refine List.isChain_append.2 ⟨h₁, List.isChain_singleton _, fun r hr s hs => ?_⟩
    cases hs
    exact h₂ r hr ⟨l, m, v⟩ rfl

/-- A row of another value is added where the function changes. -/
theorem append {l m c : T} {v w : V} (h : Canonical (rows ++ [⟨l, m, v⟩]) a m f) (hmc : m < c) (hvw : v ≠ w)
    (hw : ∀ x, m ≤ x → x < c → f x = some w) :
    Canonical (rows ++ [⟨l, m, v⟩] ++ [⟨m, c, w⟩]) a c f := by
  refine ⟨tiles_concat.2 ⟨h.tiles, hmc, rfl⟩, fun r hr => ?_, ?_⟩
  · rcases List.mem_append.1 hr with hr | hr
    · exact h.carries r hr
    · rw [List.mem_singleton] at hr
      subst hr; exact hw
  · refine List.isChain_append.2 ⟨h.changing, List.isChain_singleton _, fun r hr s hs => ?_⟩
    rw [List.getLast?_concat] at hr
    cases hr; cases hs
    exact hvw

/-- The first row does not end while another encoding still carries its value. -/
theorem first_not_lt {l m m' : T} {v : V} {rows rows' : List (Row T V)} (h : Canonical (⟨l, m, v⟩ :: rows) l b f)
    (h' : Canonical (⟨l, m', v⟩ :: rows') l b f) : ¬ m < m' := by
  intro hlt
  obtain ⟨-, hlm, ht⟩ := h.tiles
  obtain ⟨-, -, ht'⟩ := h'.tiles
  simp only at hlm ht ht'
  cases rows with
  | nil =>
    have hmb : m = b := ht
    exact absurd ht'.le (not_le.2 (hmb ▸ hlt))
  | cons s rows =>
    obtain ⟨rfl, hsr, -⟩ := ht
    have h₁ := h.carries s (by simp) s.left le_rfl hsr
    have h₂ := h'.carries ⟨l, m', v⟩ (by simp) s.left hlm.le hlt
    exact (List.isChain_cons_cons.1 h.changing).1 (Option.some.inj (h₂.symm.trans h₁))

/-- A function has one run-length encoding between two instants. -/
theorem unique : ∀ {rows rows' : List (Row T V)} {a : T}, Canonical rows a b f → Canonical rows' a b f → rows = rows'
  | [], _, _, h, h' => (h'.tiles.eq_nil_iff.2 h.tiles).symm
  | _ :: _, [], _, h, h' => h.tiles.eq_nil_iff.2 h'.tiles
  | ⟨l, m, v⟩ :: rows, ⟨l', m', v'⟩ :: rows', a, h, h' => by
    obtain ⟨hl, hlm, ht⟩ := h.tiles
    obtain ⟨hl', hlm', ht'⟩ := h'.tiles
    simp only at hl hlm ht hl' hlm' ht'
    subst hl hl'
    have hv : v = v' := Option.some.inj ((h.carries ⟨l', m, v⟩ (by simp) l' le_rfl hlm).symm.trans
      (h'.carries ⟨l', m', v'⟩ (by simp) l' le_rfl hlm'))
    subst hv
    have hm : m = m' := le_antisymm (not_lt.1 (first_not_lt h' h)) (not_lt.1 (first_not_lt h h'))
    subst hm
    rw [unique ⟨ht, fun s hs => h.carries s (List.mem_cons_of_mem _ hs), h.changing.tail⟩
      ⟨ht', fun s hs => h'.carries s (List.mem_cons_of_mem _ hs), h'.changing.tail⟩]

end Canonical

end SatNet.Step
