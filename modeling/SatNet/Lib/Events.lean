/-
A discrete-event simulation: an agenda of events by time, first come first served among those of one
time, and the loop that takes one event after the other until a stop time.
-/
import SatNet.Lib.Loop
import Mathlib.Data.List.Perm.Basic
import Mathlib.Data.List.Nodup

namespace SatNet.Events

open SatNet.Loop

variable {ε σ err : Type}

/-! ## The agenda -/

/-- An event and the time it is due. -/
structure Pending (ε : Type) where
  time : Nat
  event : ε
  deriving Repr, DecidableEq

/-- Puts an event behind those that are due no later. -/
def enqueue (p : Pending ε) : List (Pending ε) → List (Pending ε)
  | [] => [p]
  | q :: l => if q.time ≤ p.time then q :: enqueue p l else p :: q :: l

/-- The times of an agenda never go back. -/
def Ordered (l : List (Pending ε)) : Prop := l.Pairwise fun p q => p.time ≤ q.time

theorem enqueue_perm (p : Pending ε) : ∀ l, (enqueue p l).Perm (p :: l)
  | [] => List.Perm.refl _
  | q :: l => by
    unfold enqueue
    split
    · exact ((enqueue_perm p l).cons q).trans (List.Perm.swap p q l)
    · exact List.Perm.refl _

@[simp] theorem mem_enqueue {p q : Pending ε} {l : List (Pending ε)} : q ∈ enqueue p l ↔ q = p ∨ q ∈ l := by
  rw [(enqueue_perm p l).mem_iff, List.mem_cons]

theorem enqueue_ordered (p : Pending ε) : ∀ {l : List (Pending ε)}, Ordered l → Ordered (enqueue p l)
  | [], _ => by simp [enqueue, Ordered]
  | q :: l, hl => by
    obtain ⟨hq, hl'⟩ := List.pairwise_cons.1 hl
    unfold enqueue
    split
    · rename_i hle
      refine List.pairwise_cons.2 ⟨fun r hr => ?_, enqueue_ordered p hl'⟩
      rcases mem_enqueue.1 hr with rfl | hr
      · exact hle
      · exact hq r hr
    · rename_i hlt
      refine List.pairwise_cons.2 ⟨fun r hr => ?_, hl⟩
      rcases List.mem_cons.1 hr with rfl | hr
      · omega
      · have := hq r hr
        omega

/-- No event is on the agenda twice. -/
def Once (l : List (Pending ε)) : Prop := (l.map Pending.event).Nodup

theorem enqueue_once {p : Pending ε} {l : List (Pending ε)} (hl : Once l) (hp : ∀ q ∈ l, q.event ≠ p.event) :
    Once (enqueue p l) := by
  unfold Once
  rw [((enqueue_perm p l).map Pending.event).nodup_iff, List.map_cons, List.nodup_cons]
  refine ⟨fun h => ?_, hl⟩
  obtain ⟨q, hq, he⟩ := List.mem_map.1 h
  exact hp q hq he

/-- What is left on the agenda when its first event is taken. -/
theorem Once.mem_tail {p q : Pending ε} {l : List (Pending ε)} (h : Once (p :: l)) :
    q ∈ l ↔ q ∈ p :: l ∧ q.event ≠ p.event := by
  obtain ⟨hp, -⟩ := List.nodup_cons.1 (show ((p :: l).map Pending.event).Nodup from h)
  constructor
  · intro hq
    refine ⟨List.mem_cons_of_mem _ hq, fun he => hp ?_⟩
    rw [← he]
    exact List.mem_map_of_mem hq
  · rintro ⟨hq, hne⟩
    rcases List.mem_cons.1 hq with rfl | hq
    · cases hne rfl
    · exact hq

theorem Once.tail {p : Pending ε} {l : List (Pending ε)} (h : Once (p :: l)) : Once l :=
  (List.nodup_cons.1 (show ((p :: l).map Pending.event).Nodup from h)).2

/-! ## The simulation -/

/-- The clock, the agenda, and the state the events work on. -/
structure Sim (ε σ : Type) where
  now : Nat
  agenda : List (Pending ε)
  state : σ

/-- An event is due before the stop. -/
def due (stop : Nat) (w : Sim ε σ) : Bool :=
  match w.agenda with
  | [] => false
  | p :: _ => p.time < stop

/-- The clock goes to the first event of the agenda, which is then handled. -/
def advance (handle : ε → Sim ε σ → Except err (Sim ε σ)) (w : Sim ε σ) : Except err (Sim ε σ) :=
  match w.agenda with
  | [] => .ok w
  | p :: l => handle p.event { w with now := p.time, agenda := l }

/-- The loop over the events before the stop, given how many it may take. -/
def run (diverged : err) (handle : ε → Sim ε σ → Except err (Sim ε σ)) (stop fuel : Nat) (w : Sim ε σ) :
    Except err (Sim ε σ) :=
  whileLoop diverged (due stop) (advance handle) fuel w

theorem not_due {stop : Nat} {w : Sim ε σ} (ho : Ordered w.agenda) (h : due stop w = false) :
    ∀ p ∈ w.agenda, stop ≤ p.time := by
  unfold due at h
  cases hw : w.agenda with
  | nil => simp
  | cons q l =>
    rw [hw] at h ho
    simp only [decide_eq_false_iff_not, Nat.not_lt] at h
    rintro p hp
    rcases List.mem_cons.1 hp with rfl | hp
    · exact h
    · exact Nat.le_trans h ((List.pairwise_cons.1 ho).1 p hp)

/-- A simulation whose events never fail on the invariant and lower a measure ends in the invariant,
with no event due any more. -/
theorem run_inv (diverged : err) (handle : ε → Sim ε σ → Except err (Sim ε σ)) (stop : Nat) (I : Sim ε σ → Prop)
    (μ : Sim ε σ → Nat)
    (hb : ∀ w p l, I w → w.agenda = p :: l → p.time < stop →
      ∃ w', handle p.event { w with now := p.time, agenda := l } = .ok w' ∧ I w' ∧ μ w' < μ w)
    {fuel : Nat} {w : Sim ε σ} (hi : I w) (hf : μ w ≤ fuel) :
    ∃ w', run diverged handle stop fuel w = .ok w' ∧ I w' ∧ due stop w' = false := by
  refine whileLoop_inv diverged (due stop) (advance handle) I μ (fun w hi hd => ?_) fuel w hi hf
  unfold due at hd
  unfold advance
  cases hw : w.agenda with
  | nil => simp [hw] at hd
  | cons p l =>
    rw [hw] at hd
    exact hb w p l hi hw (by simpa using hd)

/-- A simulation that ended keeps what each of its events keeps. -/
theorem run_keeps (diverged : err) (handle : ε → Sim ε σ → Except err (Sim ε σ)) (stop : Nat) (I : Sim ε σ → Prop)
    (hb : ∀ w p l w', I w → w.agenda = p :: l → p.time < stop →
      handle p.event { w with now := p.time, agenda := l } = .ok w' → I w')
    {fuel : Nat} {w w' : Sim ε σ} (hi : I w) (h : run diverged handle stop fuel w = .ok w') :
    I w' ∧ due stop w' = false := by
  refine whileLoop_keeps diverged (due stop) (advance handle) I (fun w w' hi hd h => ?_) fuel w w' hi h
  unfold due at hd
  unfold advance at h
  cases hw : w.agenda with
  | nil => simp [hw] at hd
  | cons p l =>
    rw [hw] at hd h
    exact hb w p l w' hi hw (by simpa using hd) h

/-- However many events a simulation is given, it does not end in another way than this. -/
theorem run_ok_or {diverged : err} {handle : ε → Sim ε σ → Except err (Sim ε σ)} {stop fuel : Nat} {w w' : Sim ε σ}
    (h : run diverged handle stop fuel w = .ok w') (fuel' : Nat) :
    run diverged handle stop fuel' w = .ok w' ∨ run diverged handle stop fuel' w = .error diverged :=
  whileLoop_ok_or diverged (due stop) (advance handle) fuel fuel' w w' h

end SatNet.Events
