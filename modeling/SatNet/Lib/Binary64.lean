/-
Floating-point numbers of 64 bits, as rationals: the numbers of 53 binary digits none of which is below 2^-1074, and
the rounding of every result to the nearest of them, with an even last digit where two are equally near. What is
rounded up is decided by the midpoint between the two neighbours of a number, its boundary.
-/
import Mathlib.Algebra.Order.Field.Power
import Mathlib.Algebra.Order.Floor.Ring
import Mathlib.Data.Int.Log
import Mathlib.Data.Rat.Floor
import Mathlib.RingTheory.Coprime.Lemmas
import Mathlib.Tactic.FieldSimp
import Mathlib.Tactic.Linarith
import Mathlib.Tactic.NormNum
import Mathlib.Tactic.Positivity
import Mathlib.Tactic.Ring

namespace SatNet.Binary64

/-! ## The grid -/

/-- A number of at most 53 binary digits, none of them below 2^-1074. -/
def OnGrid (g : ℚ) : Prop := ∃ m e : ℤ, |m| < 2 ^ 53 ∧ -1074 ≤ e ∧ g = m * 2 ^ e

theorem OnGrid.neg {g : ℚ} (h : OnGrid g) : OnGrid (-g) := by
  obtain ⟨m, e, hm, he, rfl⟩ := h
  exact ⟨-m, e, by rwa [abs_neg], he, by push_cast; ring⟩

theorem onGrid_zpow {m e : ℤ} (hm : |m| ≤ 2 ^ 53) (he : -1074 ≤ e) : OnGrid (m * 2 ^ e) := by
  rcases lt_or_eq_of_le hm with hlt | heq
  · exact ⟨m, e, hlt, he, rfl⟩
  · -- a power of two has one digit
    rcases abs_eq (by norm_num) |>.1 heq with rfl | rfl
    · refine ⟨2 ^ 52, e + 1, by norm_num, by omega, ?_⟩
      rw [zpow_add_one₀ (by norm_num)]
      push_cast
      ring
    · refine ⟨-2 ^ 52, e + 1, by norm_num, by omega, ?_⟩
      rw [zpow_add_one₀ (by norm_num)]
      push_cast
      ring

theorem onGrid_intCast {n : ℤ} (h : |n| ≤ 2 ^ 53) : OnGrid n := by
  have := onGrid_zpow (e := 0) h (by norm_num)
  rwa [zpow_zero, mul_one] at this

/-- Every number of the grid is a multiple of the least positive one. -/
theorem OnGrid.multiple_least {g : ℚ} (h : OnGrid g) : ∃ k : ℤ, g = k * 2 ^ (-1074 : ℤ) := by
  obtain ⟨m, e, -, he, rfl⟩ := h
  refine ⟨m * 2 ^ (e + 1074).toNat, ?_⟩
  rw [Int.cast_mul, Int.cast_pow, Int.cast_ofNat, mul_assoc, ← zpow_natCast, ← zpow_add₀ (by norm_num),
    Int.toNat_of_nonneg (by omega), add_neg_cancel_right]

/-! ## Neighbours -/

/-- The place of the last digit of the numbers around `x`. -/
def exponent (x : ℚ) : ℤ := max (Int.log 2 x - 52) (-1074)

def quantum (x : ℚ) : ℚ := 2 ^ exponent x

/-- The largest number of the grid that is not above `x`. -/
def below (x : ℚ) : ℚ := ⌊x / quantum x⌋ * quantum x

/-- The least one above it. -/
def above (x : ℚ) : ℚ := (⌊x / quantum x⌋ + 1 : ℤ) * quantum x

/-- The midpoint between them. -/
def boundary (x : ℚ) : ℚ := (⌊x / quantum x⌋ + 1 / 2) * quantum x

theorem quantum_pos (x : ℚ) : 0 < quantum x := zpow_pos (by norm_num) _

theorem above_eq (x : ℚ) : above x = below x + quantum x := by
  unfold above below
  push_cast
  ring

theorem boundary_eq (x : ℚ) : boundary x = (below x + above x) / 2 := by
  rw [above_eq]
  unfold boundary below
  ring

theorem below_le (x : ℚ) : below x ≤ x := (le_div_iff₀ (quantum_pos x)).1 (Int.floor_le _)

theorem lt_above (x : ℚ) : x < above x := by
  rw [above, ← div_lt_iff₀ (quantum_pos x)]
  push_cast
  exact Int.lt_floor_add_one _

theorem below_lt_boundary (x : ℚ) : below x < boundary x := by
  have := quantum_pos x
  rw [boundary_eq, above_eq]
  linarith

theorem boundary_lt_above (x : ℚ) : boundary x < above x := by
  have := quantum_pos x
  rw [boundary_eq, above_eq]
  linarith

theorem floor_nonneg {x : ℚ} (hx : 0 ≤ x) : 0 ≤ ⌊x / quantum x⌋ :=
  Int.floor_nonneg.2 (div_nonneg hx (quantum_pos x).le)

/-- Every number has at most 53 digits down to its last place. -/
theorem floor_lt {x : ℚ} (hx : 0 ≤ x) : ⌊x / quantum x⌋ < 2 ^ 53 := by
  rcases hx.eq_or_lt with rfl | hpos
  · simp
  have hlog := Int.lt_zpow_succ_log_self (b := 2) one_lt_two x
  rw [Int.floor_lt, div_lt_iff₀ (quantum_pos x)]
  push_cast at hlog ⊢
  calc x < 2 ^ (Int.log 2 x + 1) := hlog
    _ ≤ 2 ^ (53 + exponent x) := zpow_le_zpow_right₀ (by norm_num) (by unfold exponent; omega)
    _ = 2 ^ 53 * quantum x := by rw [zpow_add₀ (by norm_num)]; rfl

theorem onGrid_below {x : ℚ} (hx : 0 ≤ x) : OnGrid (below x) := by
  have h₀ := floor_nonneg hx
  have h₁ := floor_lt hx
  exact onGrid_zpow (abs_le.2 ⟨by omega, by omega⟩) (le_max_right _ _)

theorem onGrid_above {x : ℚ} (hx : 0 ≤ x) : OnGrid (above x) := by
  have h₀ := floor_nonneg hx
  have h₁ := floor_lt hx
  exact onGrid_zpow (abs_le.2 ⟨by omega, by omega⟩) (le_max_right _ _)

/-- A number of the grid has no digit below the last place around `x`, or is smaller than every number that has as many
digits as `x`. -/
theorem OnGrid.multiple_or {g x : ℚ} (hg : OnGrid g) (hx : 0 < x) :
    (∃ k : ℤ, g = k * quantum x) ∨ g < (2 ^ 52 : ℤ) * quantum x ∧ (2 ^ 52 : ℤ) * quantum x ≤ x := by
  obtain ⟨m, e, hm, he, rfl⟩ := hg
  by_cases hle : exponent x ≤ e
  · refine .inl ⟨m * 2 ^ (e - exponent x).toNat, ?_⟩
    have hpow : (2 : ℚ) ^ e = 2 ^ (e - exponent x).toNat * 2 ^ exponent x := by
      rw [← zpow_natCast, ← zpow_add₀ (by norm_num), Int.toNat_of_nonneg (by omega), sub_add_cancel]
    unfold quantum
    push_cast
    rw [hpow]
    ring
  · -- the last place is set by the first digit
    have hexp : exponent x = Int.log 2 x - 52 := by
      unfold exponent at hle ⊢
      omega
    have hpow : ((2 ^ 52 : ℤ) : ℚ) * quantum x = 2 ^ Int.log 2 x := by
      unfold quantum
      rw [hexp, zpow_sub₀ (by norm_num)]
      push_cast
      field_simp
    have hlog := Int.zpow_log_le_self (b := 2) one_lt_two hx
    rw [hpow]
    refine .inr ⟨?_, by exact_mod_cast hlog⟩
    have hm' : (m : ℚ) < 2 ^ 53 := by exact_mod_cast lt_of_le_of_lt (le_abs_self m) hm
    calc (m : ℚ) * 2 ^ e < 2 ^ 53 * 2 ^ e := mul_lt_mul_of_pos_right hm' (zpow_pos (by norm_num) _)
      _ = 2 ^ (53 + e) := by rw [zpow_add₀ (by norm_num)]; rfl
      _ ≤ 2 ^ Int.log 2 x := zpow_le_zpow_right₀ (by norm_num) (by omega)

theorem OnGrid.le_below {g x : ℚ} (hg : OnGrid g) (hx : 0 < x) (h : g ≤ x) : g ≤ below x := by
  have hq := quantum_pos x
  rcases hg.multiple_or hx with ⟨k, rfl⟩ | ⟨hlt, hle⟩
  · refine mul_le_mul_of_nonneg_right ?_ hq.le
    exact_mod_cast Int.le_floor.2 ((le_div_iff₀ hq).2 h)
  · refine hlt.le.trans (mul_le_mul_of_nonneg_right ?_ hq.le)
    exact_mod_cast Int.le_floor.2 ((le_div_iff₀ hq).2 hle)

theorem OnGrid.above_le {g x : ℚ} (hg : OnGrid g) (hx : 0 < x) (h : x < g) : above x ≤ g := by
  have hq := quantum_pos x
  rcases hg.multiple_or hx with ⟨k, rfl⟩ | ⟨hlt, hle⟩
  · refine mul_le_mul_of_nonneg_right ?_ hq.le
    exact_mod_cast Int.floor_lt.2 ((div_lt_iff₀ hq).2 h)
  · exact absurd h (hlt.trans_le hle).le.not_gt

/-- What is not subnormal has 53 digits down to its last place. -/
theorem le_floor {x : ℚ} (h : 2 ^ (-1022 : ℤ) ≤ x) : 2 ^ 52 ≤ ⌊x / quantum x⌋ := by
  have hpos : 0 < x := lt_of_lt_of_le (zpow_pos (by norm_num) _) h
  have hlog := Int.zpow_log_le_self (b := 2) one_lt_two hpos
  have hmin : -1022 ≤ Int.log 2 x := by
    rw [← Int.zpow_le_iff_le_log one_lt_two hpos]
    exact_mod_cast h
  have hexp : 52 + exponent x = Int.log 2 x := by
    unfold exponent
    omega
  rw [Int.le_floor, le_div_iff₀ (quantum_pos x)]
  push_cast at hlog ⊢
  calc (2 : ℚ) ^ 52 * quantum x = 2 ^ (52 + exponent x) := by rw [zpow_add₀ (by norm_num)]; rfl
    _ = 2 ^ Int.log 2 x := by rw [hexp]
    _ ≤ x := hlog

/-- An odd factor divides the digits of a number, whatever their place. -/
theorem odd_dvd {k m n i j : ℤ} (h : ((2 * k + 1 : ℤ) : ℚ) * m * 2 ^ i = n * 2 ^ j) : 2 * k + 1 ∣ n := by
  -- both sides as integers, in units of their smaller power of two
  have hunit : (0 : ℚ) < 2 ^ min i j := zpow_pos (by norm_num) _
  have hpow : ∀ l : ℤ, min i j ≤ l → (2 : ℚ) ^ l = 2 ^ (l - min i j).toNat * 2 ^ min i j := by
    intro l hl
    rw [← zpow_natCast, ← zpow_add₀ (by norm_num), Int.toNat_of_nonneg (by omega), sub_add_cancel]
  rw [hpow i (min_le_left _ _), hpow j (min_le_right _ _), ← mul_assoc, ← mul_assoc] at h
  have hint : (2 * k + 1) * m * 2 ^ (i - min i j).toNat = n * 2 ^ (j - min i j).toNat := by
    exact_mod_cast mul_right_cancel₀ hunit.ne' h
  have hcoprime : IsCoprime (2 * k + 1) ((2 : ℤ) ^ (j - min i j).toNat) := IsCoprime.pow_right ⟨1, -k, by ring⟩
  refine hcoprime.dvd_of_dvd_mul_right ?_
  rw [← hint, mul_assoc]
  exact Dvd.intro _ rfl

/-- A boundary has 54 digits of which the last one is set, so no product with it is on the grid. -/
theorem OnGrid.boundary_mul_ne {t y g : ℚ} (ht : 2 ^ (-1022 : ℤ) ≤ t) (hy : OnGrid y) (hg : OnGrid g) (h0 : g ≠ 0) :
    boundary t * y ≠ g := by
  intro h
  obtain ⟨m, e, -, -, rfl⟩ := hy
  obtain ⟨n, i, hn, -, rfl⟩ := hg
  have hk := le_floor ht
  have hbound : boundary t = (2 * ⌊t / quantum t⌋ + 1 : ℤ) * 2 ^ (exponent t - 1) := by
    unfold boundary
    rw [show quantum t = 2 ^ (exponent t - 1) * 2 by rw [← zpow_add_one₀ (by norm_num), sub_add_cancel]; rfl]
    push_cast
    ring
  have hdvd : 2 * ⌊t / quantum t⌋ + 1 ∣ n := by
    refine odd_dvd (m := m) (i := exponent t - 1 + e) (j := i) ?_
    rw [← h, hbound, zpow_add₀ (by norm_num)]
    ring
  have hne : n ≠ 0 := by
    rintro rfl
    exact h0 (by simp)
  have := Int.le_of_dvd (abs_pos.2 hne) ((dvd_abs _ _).2 hdvd)
  omega

/-- Between two neighbours all numbers have the same. -/
theorem neighbours_eq {x y : ℚ} (hx : 0 < x) (hy : 0 < y) (hlow : below x < y) (hhigh : y < above x) :
    below y = below x ∧ above y = above x := by
  have hb := onGrid_below hy.le
  have ha := onGrid_above hy.le
  have hbx := onGrid_below hx.le
  have hax := onGrid_above hx.le
  constructor
  · refine le_antisymm (hb.le_below hx ?_) (hbx.le_below hy hlow.le)
    by_contra hlt
    exact absurd (hb.above_le hx (not_le.1 hlt)) (not_le.2 ((below_le y).trans_lt hhigh))
  · refine le_antisymm (hax.above_le hy hhigh) (ha.above_le hx ?_)
    by_contra hle
    exact absurd (ha.le_below hx (not_lt.1 hle)) (not_le.2 (hlow.trans (lt_above y)))

/-! ## Rounding -/

/-- The nearest integer, and the even one of two. -/
def roundHalfEven (y : ℚ) : ℤ :=
  if y - ⌊y⌋ < 1 / 2 ∨ y - ⌊y⌋ = 1 / 2 ∧ ⌊y⌋ % 2 = 0 then ⌊y⌋ else ⌊y⌋ + 1

theorem roundHalfEven_cases (y : ℚ) : roundHalfEven y = ⌊y⌋ ∧ y ≤ ⌊y⌋ + 1 / 2 ∨
    roundHalfEven y = ⌊y⌋ + 1 ∧ ⌊y⌋ + 1 / 2 ≤ y := by
  unfold roundHalfEven
  split
  · rename_i h
    exact .inl ⟨rfl, by rcases h with h | h <;> linarith [h]⟩
  · rename_i h
    have hle := not_lt.1 fun hlt => h (.inl hlt)
    exact .inr ⟨rfl, by linarith⟩

/-- What is rounded to zero. -/
theorem roundHalfEven_eq_zero_iff {y : ℚ} (hy : 0 ≤ y) : roundHalfEven y = 0 ↔ y ≤ 1 / 2 := by
  have hf := Int.floor_nonneg.2 hy
  constructor
  · intro h
    rcases roundHalfEven_cases y with ⟨heq, hle⟩ | ⟨heq, -⟩
    · rw [heq] at h
      rw [h] at hle
      simpa using hle
    · omega
  · intro h
    have hzero : ⌊y⌋ = 0 := Int.floor_eq_iff.2 ⟨by simpa using hy, by push_cast; linarith⟩
    unfold roundHalfEven
    rw [hzero, Int.cast_zero, sub_zero, if_pos]
    rcases h.lt_or_eq with hlt | heq
    · exact .inl hlt
    · exact .inr ⟨heq, rfl⟩

/-- The number that a result `x` is rounded to, if no number is too large. -/
def nearest (x : ℚ) : ℚ := roundHalfEven (x / quantum x) * quantum x

theorem nearest_cases (x : ℚ) : nearest x = below x ∧ x ≤ boundary x ∨ nearest x = above x ∧ boundary x ≤ x := by
  have hq := quantum_pos x
  unfold nearest below above boundary
  rcases roundHalfEven_cases (x / quantum x) with ⟨heq, hle⟩ | ⟨heq, hle⟩
  · exact .inl ⟨by rw [heq], (div_le_iff₀ hq).1 hle⟩
  · exact .inr ⟨by rw [heq], (le_div_iff₀ hq).1 hle⟩

theorem onGrid_nearest {x : ℚ} (hx : 0 ≤ x) : OnGrid (nearest x) := by
  rcases nearest_cases x with ⟨h, -⟩ | ⟨h, -⟩
  · exact h ▸ onGrid_below hx
  · exact h ▸ onGrid_above hx

@[simp] theorem nearest_zero : nearest 0 = 0 := by
  simp [nearest, roundHalfEven]

/-- Rounding never goes past a number of the grid. -/
theorem OnGrid.le_nearest {g x : ℚ} (hg : OnGrid g) (hx : 0 < x) (h : g ≤ x) : g ≤ nearest x := by
  have hle := hg.le_below hx h
  rcases nearest_cases x with ⟨heq, -⟩ | ⟨heq, -⟩
  · rwa [heq]
  · rw [heq]
    exact hle.trans ((below_le x).trans (lt_above x).le)

theorem OnGrid.nearest_le {g x : ℚ} (hg : OnGrid g) (hx : 0 < x) (h : x ≤ g) : nearest x ≤ g := by
  rcases nearest_cases x with ⟨heq, -⟩ | ⟨heq, hbound⟩
  · exact heq ▸ (below_le x).trans h
  · rw [heq]
    rcases h.lt_or_eq with hlt | rfl
    · exact hg.above_le hx hlt
    · exact absurd (hg.le_below hx le_rfl) (not_le.2 ((below_lt_boundary x).trans_le hbound))

theorem OnGrid.nearest_eq {g : ℚ} (hg : OnGrid g) (h : 0 ≤ g) : nearest g = g := by
  rcases h.eq_or_lt with rfl | hpos
  · exact nearest_zero
  · exact le_antisymm (hg.nearest_le hpos le_rfl) (hg.le_nearest hpos le_rfl)

theorem nearest_nonneg {x : ℚ} (hx : 0 ≤ x) : 0 ≤ nearest x := by
  rcases hx.eq_or_lt with rfl | hpos
  · rw [nearest_zero]
  · exact (onGrid_intCast (n := 0) (by norm_num)).le_nearest hpos hx

/-- A result is rounded to more than `t` exactly if it is above the boundary of `t`, unless it is that boundary. -/
theorem lt_nearest_iff {t x : ℚ} (ht : 0 < t) (hx : 0 < x) (hne : x ≠ boundary t) :
    t < nearest x ↔ boundary t < x := by
  have hbelow := onGrid_below ht.le
  have habove := onGrid_above ht.le
  constructor
  · intro h
    refine lt_of_le_of_ne (not_lt.1 fun hlt => ?_) hne.symm
    rcases le_or_gt x (below t) with hle | hlow
    · exact absurd h (((hbelow.nearest_le hx hle).trans (below_le t)).not_gt)
    · obtain ⟨hb, ha⟩ := neighbours_eq ht hx hlow (hlt.trans (boundary_lt_above t))
      have hbound : boundary x = boundary t := by rw [boundary_eq, boundary_eq, hb, ha]
      rcases nearest_cases x with ⟨heq, -⟩ | ⟨-, hle⟩
      · exact absurd h (by rw [heq, hb]; exact (below_le t).not_gt)
      · exact absurd hlt (hbound ▸ hle).not_gt
  · intro h
    rcases le_or_gt (above t) x with hle | hhigh
    · exact (lt_above t).trans_le (habove.le_nearest hx hle)
    · obtain ⟨hb, ha⟩ := neighbours_eq ht hx ((below_lt_boundary t).trans h) hhigh
      have hbound : boundary x = boundary t := by rw [boundary_eq, boundary_eq, hb, ha]
      rcases nearest_cases x with ⟨-, hle⟩ | ⟨heq, -⟩
      · exact absurd h (hbound ▸ hle).not_gt
      · rw [heq, ha]
        exact lt_above t

/-- A quotient of numbers of the grid is on no boundary. -/
theorem OnGrid.lt_nearest_div_iff {a b t : ℚ} (ha : OnGrid a) (ha0 : 0 < a) (hb : OnGrid b) (hb0 : 0 < b)
    (ht : 2 ^ (-1022 : ℤ) ≤ t) : t < nearest (a / b) ↔ boundary t < a / b := by
  refine lt_nearest_iff (lt_of_lt_of_le (zpow_pos (by norm_num) _) ht) (by positivity) fun htie => ?_
  refine hb.boundary_mul_ne ht ha ha0.ne' ?_
  rw [← htie, div_mul_cancel₀ _ hb0.ne']

/-- A quotient is not rounded to more than `t` exactly if the divisor is above that of the boundary. -/
theorem OnGrid.nearest_div_le_iff {a b t : ℚ} (ha : OnGrid a) (ha0 : 0 < a) (hb : OnGrid b) (hb0 : 0 < b)
    (ht : 2 ^ (-1022 : ℤ) ≤ t) : nearest (a / b) ≤ t ↔ a / boundary t < b := by
  have htpos : 0 < t := lt_of_lt_of_le (zpow_pos (by norm_num) _) ht
  have hbound : 0 < boundary t :=
    lt_of_le_of_lt (mul_nonneg (by exact_mod_cast floor_nonneg htpos.le) (quantum_pos t).le) (below_lt_boundary t)
  rw [div_lt_comm₀ hbound hb0, ← not_lt, ha.lt_nearest_div_iff ha0 hb hb0 ht, not_lt]
  refine ⟨fun hle => lt_of_le_of_ne hle fun htie => ?_, le_of_lt⟩
  refine hb.boundary_mul_ne ht ha ha0.ne' ?_
  rw [← htie, div_mul_cancel₀ _ hb0.ne']

theorem exponent_of_lt {x : ℚ} (hx : 0 < x) (h : x < 2 ^ (-1021 : ℤ)) : exponent x = -1074 := by
  have hlog := Int.zpow_log_le_self (b := 2) one_lt_two hx
  push_cast at hlog
  have := (zpow_lt_zpow_iff_right₀ (by norm_num : (1 : ℚ) < 2)).1 (hlog.trans_lt h)
  unfold exponent
  omega

/-- Half of the least positive number is rounded to zero, with all that is below. -/
theorem nearest_eq_zero_iff {x : ℚ} (hx : 0 ≤ x) : nearest x = 0 ↔ x ≤ 2 ^ (-1075 : ℤ) := by
  rcases hx.eq_or_lt with rfl | hpos
  · simp only [nearest_zero, true_iff]
    positivity
  have hhalf : (2 : ℚ) ^ (-1075 : ℤ) = 1 / 2 * 2 ^ (-1074 : ℤ) := by
    rw [show (-1075 : ℤ) = -1 + -1074 by norm_num, zpow_add₀ (by norm_num)]
    norm_num
  have hleast : (0 : ℚ) < 2 ^ (-1074 : ℤ) := zpow_pos (by norm_num) _
  have hone : OnGrid (2 ^ (-1074 : ℤ)) := by
    simpa using onGrid_zpow (m := 1) (e := -1074) (by norm_num) le_rfl
  rcases le_or_gt (2 ^ (-1074 : ℤ)) x with hle | hlt
  · have := hone.le_nearest hpos hle
    constructor
    · intro h
      linarith
    · intro h
      linarith
  · have hexp : quantum x = 2 ^ (-1074 : ℤ) := by
      unfold quantum
      rw [exponent_of_lt hpos (hlt.trans (zpow_lt_zpow_right₀ (by norm_num) (by norm_num)))]
    unfold nearest
    rw [hexp, mul_eq_zero, or_iff_left hleast.ne', Int.cast_eq_zero,
      roundHalfEven_eq_zero_iff (div_nonneg hx hleast.le), div_le_iff₀ hleast, hhalf]

/-! ## Values -/

/-- The finite values of a `double`. -/
def Representable (x : ℚ) : Prop := OnGrid x ∧ |x| < 2 ^ 1024

theorem Representable.neg {x : ℚ} (h : Representable x) : Representable (-x) := ⟨h.1.neg, by rw [abs_neg]; exact h.2⟩

theorem representable_nearest {x : ℚ} (hx : 0 ≤ x) (h : nearest x < 2 ^ 1024) : Representable (nearest x) :=
  ⟨onGrid_nearest hx, by rwa [abs_of_nonneg (nearest_nonneg hx)]⟩

theorem representable_intCast {n : ℤ} (h : |n| ≤ 2 ^ 53) : Representable n := by
  refine ⟨onGrid_intCast h, ?_⟩
  calc |(n : ℚ)| ≤ 2 ^ 53 := by exact_mod_cast h
    _ < 2 ^ 1024 := pow_lt_pow_right₀ (by norm_num) (by norm_num)

theorem representable_zero : Representable 0 := by
  simpa using representable_intCast (n := 0) (by norm_num)

theorem representable_zpow {m e : ℤ} (hm : |m| ≤ 2 ^ 53) (h₀ : -1074 ≤ e) (h₁ : e ≤ 0) : Representable (m * 2 ^ e) := by
  refine ⟨onGrid_zpow hm h₀, lt_of_le_of_lt ?_ (representable_intCast hm).2⟩
  rw [abs_mul, abs_of_pos (zpow_pos (by norm_num : (0 : ℚ) < 2) e)]
  exact mul_le_of_le_one_right (abs_nonneg _) (zpow_le_one_of_nonpos₀ (by norm_num) h₁)

/-- The value of a `double`; the sign of a zero and of a NaN are not kept. -/
inductive Double where
  | nan
  | inf (negative : Bool)
  | finite (value : ℚ) (representable : Representable value)
  deriving Repr, DecidableEq

namespace Double

/-- The `double` of an exact result. -/
def round (x : ℚ) : Double :=
  if h : nearest |x| < 2 ^ 1024 then
    if x < 0 then .finite (-nearest |x|) (representable_nearest (abs_nonneg x) h).neg
    else .finite (nearest |x|) (representable_nearest (abs_nonneg x) h)
  else .inf (x < 0)

/-- The conversion of an integer. -/
def ofInt (n : ℤ) : Double := round n

def zero : Double := ofInt 0

/-- `a < b`. -/
def lt : Double → Double → Bool
  | .finite a _, .finite b _ => a < b
  | .finite _ _, .inf negative => !negative
  | .inf negative, .finite _ _ => negative
  | .inf negative, .inf negative' => negative && !negative'
  | _, _ => false

/-- `a == b`. -/
def eq : Double → Double → Bool
  | .nan, _ => false
  | a, b => a = b

/-- The value is above a number. -/
def exceeds (q : ℚ) : Double → Bool
  | .nan => false
  | .inf negative => !negative
  | .finite a _ => q < a

/-- `std::min(a, b)`. -/
def min (a b : Double) : Double := if lt b a then b else a

/-- `a * b`. -/
def mul : Double → Double → Double
  | .finite a _, .finite b _ => round (a * b)
  | .finite a _, .inf negative => if a = 0 then .nan else .inf (negative ^^ decide (a < 0))
  | .inf negative, .finite b _ => if b = 0 then .nan else .inf (negative ^^ decide (b < 0))
  | .inf negative, .inf negative' => .inf (negative ^^ negative')
  | _, _ => .nan

/-- `a + b`. -/
def add : Double → Double → Double
  | .finite a _, .finite b _ => round (a + b)
  | .finite _ _, .inf negative => .inf negative
  | .inf negative, .finite _ _ => .inf negative
  | .inf negative, .inf negative' => if negative = negative' then .inf negative else .nan
  | _, _ => .nan

/-- `a / b`, where a zero is that without a sign. -/
def div : Double → Double → Double
  | .finite a _, .finite b _ => if b ≠ 0 then round (a / b) else if a = 0 then .nan else .inf (a < 0)
  | .finite _ _, .inf _ => zero
  | .inf negative, .finite b _ => .inf (negative ^^ decide (b < 0))
  | _, _ => .nan

/-- `std::ceil(a)`. -/
def ceil : Double → Double
  | .finite a _ => ofInt ⌈a⌉
  | a => a

/-- The integer that a `double` is converted to: what is after the point is dropped. -/
def trunc : Double → Option ℤ
  | .finite a _ => some (if a < 0 then ⌈a⌉ else ⌊a⌋)
  | _ => none

theorem round_of_nonneg {x : ℚ} (hx : 0 ≤ x) (h : nearest x < 2 ^ 1024) :
    round x = .finite (nearest x) (representable_nearest hx h) := by
  have habs := abs_of_nonneg hx
  unfold round
  rw [dif_pos (by rwa [habs]), if_neg hx.not_gt]
  simp only [habs]

theorem round_of_large {x : ℚ} (hx : 0 ≤ x) (h : 2 ^ 1024 ≤ nearest x) : round x = .inf false := by
  have habs := abs_of_nonneg hx
  unfold round
  rw [dif_neg (by rw [habs]; exact h.not_gt), decide_eq_false hx.not_gt]

/-- A result that is not above a value is not rounded to infinity. -/
theorem round_of_le {x b : ℚ} (hx : 0 ≤ x) (hb : Representable b) (h : x ≤ b) :
    ∃ hr, round x = .finite (nearest x) hr := by
  have hlt : nearest x < 2 ^ 1024 := by
    refine lt_of_le_of_lt ?_ (lt_of_le_of_lt (le_abs_self b) hb.2)
    rcases hx.eq_or_lt with rfl | hpos
    · rwa [nearest_zero]
    · exact hb.1.nearest_le hpos h
  exact ⟨_, round_of_nonneg hx hlt⟩

/-- A result that is a value is not rounded. -/
theorem round_eq {x : ℚ} (hx : 0 ≤ x) (h : Representable x) : round x = .finite x h := by
  have hnearest := h.1.nearest_eq hx
  have hlt := h.2
  rw [abs_of_nonneg hx] at hlt
  rw [round_of_nonneg hx (by rwa [hnearest])]
  simp only [hnearest]

theorem ofInt_eq {n : ℤ} (h₀ : 0 ≤ n) (h : |n| ≤ 2 ^ 53) : ofInt n = .finite n (representable_intCast h) :=
  round_eq (by exact_mod_cast h₀) _

/-- Rounding up to an integer takes no digits. -/
theorem ceil_eq {a : ℚ} (h₀ : 0 ≤ a) {h : Representable a} : ∃ hc, ceil (finite a h) = .finite ⌈a⌉ hc := by
  have hceil : Representable ⌈a⌉ := by
    obtain ⟨⟨m, e, hm, he, rfl⟩, hlt⟩ := h
    by_cases hneg : e < 0
    · -- fewer than 53 digits are before the point
      refine representable_intCast (abs_le.2 ⟨by have := Int.ceil_nonneg h₀; omega, Int.ceil_le.2 ?_⟩)
      have hm' : (m : ℚ) ≤ 2 ^ 53 := by exact_mod_cast (lt_of_le_of_lt (le_abs_self m) hm).le
      have hpow : (2 : ℚ) ^ e ≤ 1 := zpow_le_one_of_nonpos₀ (by norm_num) hneg.le
      have hpos : (0 : ℚ) < 2 ^ e := zpow_pos (by norm_num) e
      push_cast
      nlinarith
    · have hint : (m : ℚ) * 2 ^ e = (m * 2 ^ e.toNat : ℤ) := by
        push_cast
        rw [← zpow_natCast, Int.toNat_of_nonneg (not_lt.1 hneg)]
      have hself : ((⌈(m : ℚ) * 2 ^ e⌉ : ℤ) : ℚ) = m * 2 ^ e := by rw [hint, Int.ceil_intCast]
      rw [hself]
      exact ⟨⟨m, e, hm, he, rfl⟩, hlt⟩
  exact ⟨hceil, round_eq (by exact_mod_cast Int.ceil_nonneg h₀) hceil⟩

theorem eq_of_eq {a b : Double} (h : a.eq b = true) : a = b := by
  cases a with
  | nan => cases h
  | inf negative => simpa [eq] using h
  | finite a ha => simpa [eq] using h

theorem div_finite {a b : ℚ} {ha : Representable a} {hb : Representable b} (h : b ≠ 0) :
    (finite a ha).div (finite b hb) = round (a / b) := if_pos h

theorem zero_eq : zero = .finite 0 representable_zero := by
  have := ofInt_eq (n := 0) le_rfl (by norm_num)
  simpa [zero] using this

@[simp] theorem lt_zero_iff {a : ℚ} {h : Representable a} : (finite a h).lt zero = decide (a < 0) := by
  rw [zero_eq]
  rfl

@[simp] theorem finite_eq_zero_iff {a : ℚ} {h : Representable a} : finite a h = zero ↔ a = 0 := by
  rw [zero_eq, finite.injEq]

end Double

end SatNet.Binary64
