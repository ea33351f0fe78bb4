/-
Amounts that are added up by intervals of one length, for entries in the order of their times: an interval is closed
when an entry comes that does not lie in it any more, and so are the empty ones up to the interval of that entry.
-/
import SatNet.Lib.Loop
import Mathlib.Algebra.BigOperators.Group.List.Basic
import Mathlib.Data.Int.Order.Basic
import Mathlib.Tactic.Abel
import Mathlib.Tactic.Linarith
import Mathlib.Tactic.Ring

namespace SatNet.Buckets

open SatNet.Loop

/-- From `start` on and before `stop`, with the amount in it. -/
structure IntervalSum (A : Type) where
  start : Int
  stop : Int
  amount : A
  deriving Repr, DecidableEq

/-- The intervals that are closed, and the one behind them that is open. -/
structure State (A : Type) where
  intervals : List (IntervalSum A)
  current : IntervalSum A
  deriving Repr, DecidableEq

variable {A ε : Type} [AddCommMonoid A]

/-! ## The loops -/

def first (length : Int) : State A := ⟨[], ⟨0, length, 0⟩⟩

/-- Close the open interval and open the next one. -/
def advance (length : Int) (b : State A) : State A :=
  ⟨b.intervals ++ [b.current], ⟨b.current.stop, b.current.stop + length, 0⟩⟩

/-- Close intervals until the time lies before the end of the open one. -/
def fastForward (diverged : ε) (length time : Int) (b : State A) : Except ε (State A) :=
  whileLoop diverged (fun b => time ≥ b.current.stop) (fun b => .ok (advance length b))
    (time - b.current.stop + 1).toNat b

def add (amount : A) (b : State A) : State A :=
  ⟨b.intervals, { b.current with amount := b.current.amount + amount }⟩

/-- One entry. -/
def place (diverged : ε) (length : Int) (b : State A) (e : Int × A) : Except ε (State A) := do
  let b ← fastForward diverged length e.1 b
  .ok (add e.2 b)

/-! ## Histograms -/

/-- The sum of what has its time in the interval. -/
def amountIn (entries : List (Int × A)) (start stop : Int) : A :=
  ((entries.filter fun e => start ≤ e.1 ∧ e.1 < stop).map Prod.snd).sum

def bucket (entries : List (Int × A)) (length : Int) (k : Nat) : IntervalSum A :=
  ⟨k * length, (k + 1) * length, amountIn entries (k * length) ((k + 1) * length)⟩

/-- The first `n` intervals from 0 on. -/
def histogram (entries : List (Int × A)) (length : Int) (n : Nat) : List (IntervalSum A) :=
  (List.range n).map (bucket entries length)

variable {entries : List (Int × A)} {length time : Int} {b : State A}

theorem histogram_succ (n : Nat) :
    histogram entries length (n + 1) = histogram entries length n ++ [bucket entries length n] := by
  unfold histogram
  rw [List.range_succ, List.map_append, List.map_singleton]

theorem amountIn_cons (e : Int × A) (start stop : Int) :
    amountIn (e :: entries) start stop = (if start ≤ e.1 ∧ e.1 < stop then e.2 else 0) + amountIn entries start stop := by
  unfold amountIn
  by_cases h : start ≤ e.1 ∧ e.1 < stop
  · rw [List.filter_cons_of_pos (by simpa using h), if_pos h, List.map_cons, List.sum_cons]
  · rw [List.filter_cons_of_neg (by simpa using h), if_neg h, zero_add]

theorem amountIn_concat (e : Int × A) (start stop : Int) :
    amountIn (entries ++ [e]) start stop = amountIn entries start stop + if start ≤ e.1 ∧ e.1 < stop then e.2 else 0 := by
  unfold amountIn
  by_cases h : start ≤ e.1 ∧ e.1 < stop
  · simp [List.filter_append, h]
  · rw [List.filter_append, List.filter_cons_of_neg (by simpa using h), if_neg h]
    simp

theorem amountIn_eq_zero {start stop : Int} (h : ∀ e ∈ entries, ¬ (start ≤ e.1 ∧ e.1 < stop)) :
    amountIn entries start stop = 0 := by
  unfold amountIn
  rw [List.filter_eq_nil_iff.2 (by simpa using h)]
  rfl

theorem amountIn_eq_sum {start stop : Int} (h : ∀ e ∈ entries, start ≤ e.1 ∧ e.1 < stop) :
    amountIn entries start stop = (entries.map Prod.snd).sum := by
  unfold amountIn
  rw [List.filter_eq_self.2 (by simpa using h)]

/-- Intervals that follow one another. -/
theorem amountIn_add (entries : List (Int × A)) {x y z : Int} (hxy : x ≤ y) (hyz : y ≤ z) :
    amountIn entries x z = amountIn entries x y + amountIn entries y z := by
  induction entries with
  | nil => exact (add_zero 0).symm
  | cons e entries ih =>
    rw [amountIn_cons, amountIn_cons, amountIn_cons, ih]
    -- an entry before `y` can only lie in the first interval, and one from `y` on only in the second
    have hcases : (if x ≤ e.1 ∧ e.1 < z then e.2 else 0) =
        (if x ≤ e.1 ∧ e.1 < y then e.2 else 0) + if y ≤ e.1 ∧ e.1 < z then e.2 else 0 := by
      rcases lt_or_ge e.1 y with hlt | hge
      · rw [if_neg (fun h : y ≤ e.1 ∧ e.1 < z => absurd h.1 (not_le.2 hlt)), add_zero]
        exact if_congr (by omega) rfl rfl
      · rw [if_neg (fun h : x ≤ e.1 ∧ e.1 < y => absurd h.2 (not_lt.2 hge)), zero_add]
        exact if_congr (by omega) rfl rfl
    rw [hcases]
    abel

/-- Nothing is lost if every entry lies in one of the intervals. -/
theorem histogram_sum (hlen : 0 ≤ length) : ∀ n : Nat,
    ((histogram entries length n).map IntervalSum.amount).sum = amountIn entries 0 (n * length)
  | 0 => by
    rw [Nat.cast_zero, zero_mul, amountIn_eq_zero fun e _ => by omega]
    rfl
  | n + 1 => by
    have hn : 0 ≤ (n : Int) * length := mul_nonneg (Int.natCast_nonneg n) hlen
    rw [histogram_succ, List.map_append, List.sum_append, histogram_sum hlen n, List.map_singleton, List.sum_singleton,
      Nat.cast_succ, amountIn_add entries hn (show (n : Int) * length ≤ (n + 1) * length by linarith)]
    rfl

/-! ## The invariant -/

/-- The intervals are those of the entries so far, up to the one that is open; all entries lie before its end, and it
begins by the given time. -/
structure Filled (entries : List (Int × A)) (length time : Int) (b : State A) : Prop where
  all : b.intervals ++ [b.current] = histogram entries length (b.intervals.length + 1)
  within : ∀ e ∈ entries, 0 ≤ e.1 ∧ e.1 < b.current.stop
  begun : b.current.start ≤ time

theorem Filled.first (htime : 0 ≤ time) : Filled (A := A) [] length time (first length) := by
  refine ⟨?_, nofun, htime⟩
  simp [Buckets.first, histogram, bucket, amountIn]

theorem Filled.split (h : Filled entries length time b) : b.intervals = histogram entries length b.intervals.length ∧
    b.current = bucket entries length b.intervals.length := by
  have hall := h.all
  rw [histogram_succ] at hall
  obtain ⟨hintervals, hcurrent⟩ := List.append_inj' hall rfl
  exact ⟨hintervals, (List.cons.inj hcurrent).1⟩

theorem Filled.stop_eq (h : Filled entries length time b) :
    b.current.stop = ((b.intervals.length : Int) + 1) * length := by
  rw [h.split.2]
  rfl

theorem Filled.mono (h : Filled entries length time b) {time' : Int} (hle : time ≤ time') :
    Filled entries length time' b := ⟨h.all, h.within, le_trans h.begun hle⟩

theorem Filled.advance (h : Filled entries length time b) (hlen : 0 ≤ length) (htime : time ≥ b.current.stop) :
    Filled entries length time (advance length b) := by
  refine ⟨?_, fun e he => ⟨(h.within e he).1, ?_⟩, htime⟩
  · -- no entry lies behind the open interval so far
    have hnone : amountIn entries b.current.stop (b.current.stop + length) = 0 :=
      amountIn_eq_zero fun e he hin => absurd (h.within e he).2 (not_lt.2 hin.1)
    have hnext : bucket entries length (b.intervals.length + 1) = ⟨b.current.stop, b.current.stop + length, 0⟩ := by
      unfold bucket
      rw [Nat.cast_succ, ← h.stop_eq, add_mul, one_mul, ← h.stop_eq, hnone]
    simp only [Buckets.advance, List.length_append, List.length_singleton]
    rw [h.all, histogram_succ (b.intervals.length + 1), hnext]
  · have hlt := (h.within e he).2
    simp only [Buckets.advance]
    omega

theorem Filled.add (h : Filled entries length time b) (hlen : 0 ≤ length) (hpos : 0 ≤ time)
    (htime : time < b.current.stop) (amount : A) :
    Filled (entries ++ [(time, amount)]) length time (add amount b) := by
  obtain ⟨hintervals, hcurrent⟩ := h.split
  have hstart : (b.intervals.length : Int) * length ≤ time := by
    have hbegun := h.begun
    rwa [hcurrent] at hbegun
  refine ⟨?_, ?_, h.begun⟩
  · -- the closed intervals end before the entry, the open one gets it
    have hclosed : histogram (entries ++ [(time, amount)]) length b.intervals.length = b.intervals := by
      conv_rhs => rw [hintervals]
      refine List.map_congr_left fun k hk => ?_
      have hk : ((k : Int) + 1) * length ≤ b.intervals.length * length :=
        mul_le_mul_of_nonneg_right (by exact_mod_cast List.mem_range.1 hk) hlen
      unfold bucket
      rw [amountIn_concat, if_neg (by simp only; omega), add_zero]
    have hopen : bucket (entries ++ [(time, amount)]) length b.intervals.length =
        { b.current with amount := b.current.amount + amount } := by
      rw [h.stop_eq] at htime
      conv_rhs => rw [hcurrent]
      unfold bucket
      rw [amountIn_concat, if_pos ⟨hstart, htime⟩]
    simp only [Buckets.add]
    rw [histogram_succ, hclosed, hopen]
  · intro e he
    rcases List.mem_append.1 he with he | he
    · exact h.within e he
    · rw [List.mem_singleton.1 he]
      exact ⟨hpos, htime⟩

/-- The loop ends, since every round takes the end of the open interval further. -/
theorem Filled.fastForward (diverged : ε) (h : Filled entries length time b) (hlen : 1 ≤ length) :
    ∃ b', fastForward diverged length time b = .ok b' ∧ Filled entries length time b' ∧ time < b'.current.stop := by
  obtain ⟨b', hrun, hfilled, hstop⟩ := whileLoop_inv diverged (fun b : State A => time ≥ b.current.stop)
    (fun b => .ok (Buckets.advance length b)) (Filled entries length time)
    (fun b => (time - b.current.stop + 1).toNat) (fun b hb hc => by
      rw [decide_eq_true_eq] at hc
      refine ⟨_, rfl, hb.advance (by omega) hc, ?_⟩
      simp only [Buckets.advance]
      omega) _ b h le_rfl
  exact ⟨b', hrun, hfilled, by simpa using hstop⟩

/-- Entries in the order of their times, none before those placed so far. -/
theorem Filled.forEach_place (diverged : ε) (hlen : 1 ≤ length) : ∀ (rest : List (Int × A)) {entries : List (Int × A)}
    {time : Int} {b : State A}, Filled entries length time b → 0 ≤ time → (∀ e ∈ rest, time ≤ e.1) →
    (rest.map Prod.fst).Pairwise (· ≤ ·) →
    ∃ time' b', forEach (place diverged length) rest b = .ok b' ∧ Filled (entries ++ rest) length time' b'
  | [], entries, time, b, h, _, _, _ => ⟨time, b, rfl, by rwa [List.append_nil]⟩
  | e :: rest, entries, time, b, h, hpos, hle, hasc => by
    obtain ⟨hfirst, hrest⟩ := List.forall_mem_cons.1 hle
    rw [List.map_cons, List.pairwise_cons] at hasc
    obtain ⟨b₁, hrun, hfilled, hstop⟩ := (h.mono hfirst).fastForward diverged hlen
    have hplace : place diverged length b e = .ok (Buckets.add e.2 b₁) := by
      unfold place
      rw [hrun, ok_bind]
    obtain ⟨time', b', hloop, hend⟩ := (hfilled.add (by omega) (by omega) hstop e.2).forEach_place diverged hlen rest
      (by omega) (fun e' he' => hasc.1 e'.1 (List.mem_map_of_mem he')) hasc.2
    refine ⟨time', b', ?_, by rwa [List.append_assoc] at hend⟩
    rw [forEach, hplace, ok_bind, hloop]

/-- The entries summed up: intervals of the length that follow one another from 0 on, each with the sum of what lies in
it, and every entry lies in one. -/
structure Tally (entries : List (Int × A)) (length : Int) (intervals : List (IntervalSum A)) : Prop where
  each : intervals = histogram entries length intervals.length
  covered : ∀ e ∈ entries, ∃ interval ∈ intervals, interval.start ≤ e.1 ∧ e.1 < interval.stop
  total : (intervals.map IntervalSum.amount).sum = (entries.map Prod.snd).sum

theorem Filled.tally (h : Filled entries length time b) (hlen : 1 ≤ length) :
    Tally entries length (b.intervals ++ [b.current]) := by
  refine ⟨?_, fun e he => ?_, ?_⟩
  · conv_rhs => rw [List.length_append, List.length_singleton]
    exact h.all
  · -- the number of its interval is the time divided by the length
    obtain ⟨hpos, hlt⟩ := h.within e he
    have hk : 0 ≤ e.1 / length := Int.ediv_nonneg hpos (by omega)
    have hle : e.1 / length * length ≤ e.1 := Int.ediv_mul_le e.1 (by omega)
    have hnext : e.1 < (e.1 / length + 1) * length := Int.lt_ediv_add_one_mul_self e.1 (by omega)
    have hbound : e.1 / length < b.intervals.length + 1 :=
      Int.ediv_lt_of_lt_mul (by omega) (by rw [← h.stop_eq]; exact hlt)
    have hcast : (((e.1 / length).toNat : Nat) : Int) = e.1 / length := Int.toNat_of_nonneg hk
    refine ⟨bucket entries length (e.1 / length).toNat, ?_, ?_, ?_⟩
    · rw [h.all]
      exact List.mem_map_of_mem (List.mem_range.2 (by omega))
    · simp only [bucket, hcast]
      exact hle
    · simp only [bucket, hcast]
      exact hnext
  · have hall : ∀ e ∈ entries, 0 ≤ e.1 ∧ e.1 < ((b.intervals.length + 1 : Nat) : Int) * length := by
      intro e he
      rw [Nat.cast_succ, ← h.stop_eq]
      exact h.within e he
    rw [h.all, histogram_sum (by omega), amountIn_eq_sum hall]

/-- No interval, however many, ends behind the time if they have no length. -/
theorem fastForward_diverges (diverged : ε) (hlen : length ≤ 0) (htime : time ≥ b.current.stop) :
    fastForward diverged length time b = .error diverged := by
  refine whileLoop_diverges diverged _ _ (fun b : State A => time ≥ b.current.stop) (fun b hb => ?_) _ b htime
  refine ⟨decide_eq_true hb, _, rfl, ?_⟩
  simp only [advance]
  omega

end SatNet.Buckets
