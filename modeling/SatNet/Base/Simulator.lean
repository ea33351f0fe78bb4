/-
`Simulator::Schedule` over an agenda of events. The clock counts nanoseconds in an `int64_t`.
-/
import SatNet.Lib.Events
import SatNet.Base.Memory

namespace SatNet

open SatNet.Events

variable {ε σ : Type}

/-- `Simulator::Schedule(delay, e)`. A delay that goes back in time, also by an overflow of the clock,
fails the assertion of the simulator. -/
def schedule (delay : Int) (e : ε) (w : Sim ε σ) : Res (Sim ε σ) :=
  let tAbsolute := toInt64 (w.now + delay)
  if tAbsolute < w.now then .error (.assertion "tAbsolute >= TimeStep (m_currentTs)")
  else .ok { w with agenda := enqueue ⟨tAbsolute.toNat, e⟩ w.agenda }

theorem schedule_eq {delay : Int} {e : ε} {w : Sim ε σ} {t : Nat} (hd : w.now + delay = t) (hle : w.now ≤ t)
    (ht : t < 2 ^ 63) : schedule delay e w = .ok { w with agenda := enqueue ⟨t, e⟩ w.agenda } := by
  unfold schedule
  rw [hd, toInt64_eq (by omega) (by omega)]
  simp only [Int.toNat_natCast]
  rw [if_neg (by omega)]

theorem schedule_ok {delay : Int} {e : ε} {w w' : Sim ε σ} (h : schedule delay e w = .ok w') :
    ∃ t, w.now ≤ t ∧ t < 2 ^ 63 ∧ w' = { w with agenda := enqueue ⟨t, e⟩ w.agenda } := by
  unfold schedule at h
  simp only at h
  split at h
  · cases h
  · rename_i hle
    cases h
    refine ⟨_, ?_, ?_, rfl⟩
    · omega
    · have : toInt64 (w.now + delay) < 2 ^ 63 := by
        unfold toInt64
        rw [Int.bmod_def]
        omega
      omega

/-- The time at which `Simulator::Schedule(delay, ..)` puts an event. -/
def scheduledTime (now : Nat) (delay : Int) : Res Nat :=
  let tAbsolute := toInt64 (now + delay)
  if tAbsolute < now then .error (.assertion "tAbsolute >= TimeStep (m_currentTs)") else .ok tAbsolute.toNat

theorem schedule_eq_scheduledTime (delay : Int) (e : ε) (w : Sim ε σ) :
    schedule delay e w = scheduledTime w.now delay >>= fun t => .ok { w with agenda := enqueue ⟨t, e⟩ w.agenda } := by
  unfold schedule scheduledTime
  simp only
  split <;> rfl

theorem scheduledTime_eq {now : Nat} {delay : Nat} (h : now + delay < 2 ^ 63) :
    scheduledTime now delay = .ok (now + delay) := by
  unfold scheduledTime
  rw [toInt64_eq (by omega) (by omega)]
  simp only
  rw [if_neg (by omega)]
  exact congrArg Except.ok (by omega)

end SatNet
