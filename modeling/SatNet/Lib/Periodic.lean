/-
An event that schedules its own successor: the instants it happened at, one interval after the other from a first one
on, and the instant it is due next. As long as the interval is not zero it happens at every instant of its grid before
the stop, and at each of them once.
-/
import Mathlib.Data.List.Range
import Mathlib.Data.List.Nodup
import Mathlib.Data.List.Count
import Mathlib.Tactic.Ring

namespace SatNet.Periodic

/-- The instants so far are the first ones of the grid, the clock has not gone past the next, and no event is due only
if the next would not be before the stop. -/
structure Ticks (first interval stop now : Nat) (times : List Nat) (next : Option Nat) : Prop where
  grid : times = (List.range times.length).map fun k => first + k * interval
  before : ∀ t ∈ times, t < stop
  past : ∀ t ∈ times, t ≤ now
  due : ∀ t, next = some t → t = first + times.length * interval ∧ now ≤ t
  last : next = none → stop ≤ first + times.length * interval

variable {first interval stop now now' : Nat} {times : List Nat} {next next' : Option Nat}

theorem Ticks.mem_iff (h : Ticks first interval stop now times next) (t : Nat) :
    t ∈ times ↔ ∃ k < times.length, t = first + k * interval := by
  constructor
  · intro ht
    rw [h.grid, List.mem_map] at ht
    obtain ⟨k, hk, rfl⟩ := ht
    exact ⟨k, List.mem_range.1 hk, rfl⟩
  · rintro ⟨k, hk, rfl⟩
    rw [h.grid, List.mem_map]
    exact ⟨k, List.mem_range.2 hk, rfl⟩

/-! ## Steps -/

theorem Ticks.start (hnext : ∀ t, next = some t → t = first) (hnow : now ≤ first)
    (hnone : next = none → stop ≤ first) : Ticks first interval stop now [] next := by
  refine ⟨rfl, nofun, nofun, fun t ht => ?_, fun hn => ?_⟩
  · rw [hnext t ht, List.length_nil, Nat.zero_mul, Nat.add_zero]
    exact ⟨rfl, hnow⟩
  · rw [List.length_nil, Nat.zero_mul, Nat.add_zero]
    exact hnone hn

/-- The clock goes on, not past the next event. -/
theorem Ticks.wait (h : Ticks first interval stop now times next) (hle : now ≤ now')
    (hnext : ∀ t, next = some t → now' ≤ t) :
    Ticks first interval stop now' times next :=
  ⟨h.grid, h.before, fun t ht => Nat.le_trans (h.past t ht) hle, fun t ht => ⟨(h.due t ht).1, hnext t ht⟩, h.last⟩

/-- The event happens when it is due, and the next one is due an interval later, unless that is not before the stop. -/
theorem Ticks.tick {t : Nat} (h : Ticks first interval stop now times (some t)) (hstop : t < stop)
    (hnext : ∀ t', next' = some t' → t' = t + interval) (hnone : next' = none → stop ≤ t + interval) :
    Ticks first interval stop t (times ++ [t]) next' := by
  obtain ⟨hdue, hle⟩ := h.due t rfl
  have hafter : t + interval = first + (times ++ [t]).length * interval := by
    rw [hdue, List.length_append, List.length_singleton]
    ring
  refine ⟨?_, ?_, ?_, fun t' ht' => ⟨?_, ?_⟩, fun hn => ?_⟩
  · rw [List.length_append, List.length_singleton, List.range_succ, List.map_append, ← h.grid, List.map_singleton, ← hdue]
  · intro u hu
    rcases List.mem_append.1 hu with hu | hu
    · exact h.before u hu
    · rw [List.mem_singleton.1 hu]
      exact hstop
  · intro u hu
    rcases List.mem_append.1 hu with hu | hu
    · exact Nat.le_trans (h.past u hu) hle
    · rw [List.mem_singleton.1 hu]
  · rw [hnext t' ht', hafter]
  · rw [hnext t' ht']
    exact Nat.le_add_right t interval
  · rw [← hafter]
    exact hnone hn

/-! ## What the instants are -/

/-- No instant comes twice. -/
theorem Ticks.nodup (h : Ticks first interval stop now times next) (hpos : 0 < interval) : times.Nodup := by
  rw [h.grid]
  apply List.nodup_range.map
  intro j k hjk
  exact Nat.eq_of_mul_eq_mul_right hpos (Nat.add_left_cancel hjk)

/-- Every instant of the grid that lies in the past is there. -/
theorem Ticks.mem_of_lt (h : Ticks first interval stop now times next) {k : Nat} (hlt : first + k * interval < now)
    (hstop : first + k * interval < stop) : first + k * interval ∈ times := by
  refine (h.mem_iff _).2 ⟨k, ?_, rfl⟩
  by_contra hge
  have hmul : times.length * interval ≤ k * interval := Nat.mul_le_mul_right interval (Nat.not_lt.1 hge)
  cases hn : next with
  | some t =>
    obtain ⟨hdue, hle⟩ := h.due t hn
    omega
  | none =>
    have hlast := h.last hn
    omega

/-- Up to now the event happened at every instant of the grid before the stop, the present one perhaps not yet, and at
no other. -/
structure OnTime (first interval stop now : Nat) (times : List Nat) : Prop where
  sound : ∀ t ∈ times, t < stop ∧ t ≤ now ∧ ∃ k, t = first + k * interval
  once : times.Nodup
  complete : ∀ k, first + k * interval < stop → first + k * interval < now → first + k * interval ∈ times
  ended : stop ≤ now → ∀ k, first + k * interval < stop → first + k * interval ∈ times

theorem Ticks.onTime (h : Ticks first interval stop now times next) (hpos : 0 < interval) :
    OnTime first interval stop now times := by
  refine ⟨fun t ht => ⟨h.before t ht, h.past t ht, ?_⟩, h.nodup hpos, fun k hstop hlt => h.mem_of_lt hlt hstop, ?_⟩
  · obtain ⟨k, -, hk⟩ := (h.mem_iff t).1 ht
    exact ⟨k, hk⟩
  · intro hend k hstop
    exact h.mem_of_lt (Nat.lt_of_lt_of_le hstop hend) hstop

/-- An event whose first instant is not before the stop never happens. -/
theorem Ticks.onTime_of_le (h : Ticks first interval stop now times next) (hle : stop ≤ first) :
    OnTime first interval stop now times := by
  have hno : ∀ k, ¬ first + k * interval < stop := fun k hk =>
    absurd (Nat.le_trans hle (Nat.le_add_right first (k * interval))) (Nat.not_le.2 hk)
  have hnil : times = [] := by
    apply List.eq_nil_iff_forall_not_mem.2
    intro t ht
    obtain ⟨k, -, rfl⟩ := (h.mem_iff t).1 ht
    exact hno k (h.before _ ht)
  subst hnil
  exact ⟨nofun, List.nodup_nil, fun k hk => absurd hk (hno k), fun _ k hk => absurd hk (hno k)⟩

/-- It happens at most once at an instant. -/
theorem OnTime.count_le (h : OnTime first interval stop now times) (x : Nat) : times.count x ≤ 1 :=
  List.nodup_iff_count_le_one.1 h.once x

end SatNet.Periodic
