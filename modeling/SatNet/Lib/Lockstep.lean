/-
Two machines that run through the same events in lockstep. If one event keeps what they have in common exactly under a
condition on the first machine, a run keeps it in every state exactly if all its events meet the condition.
-/
import Mathlib.Data.List.Infix

namespace SatNet.Lockstep

variable {E S T : Type}

/-- A run through the events. -/
def run (step : E → S → S) (events : List E) (s : S) : S := events.foldl (fun s e => step e s) s

/-- Every event of the run meets the condition on the state before it. -/
def Throughout (meets : E → S → Prop) (step : E → S → S) (events : List E) (s : S) : Prop :=
  ∀ done e, done ++ [e] <+: events → meets e (run step done s)

theorem throughout_cons {meets : E → S → Prop} {step : E → S → S} {e : E} {events : List E} {s : S} :
    Throughout meets step (e :: events) s ↔ meets e s ∧ Throughout meets step events (step e s) := by
  constructor
  · intro h
    refine ⟨h [] e (List.prefix_append [e] events), fun done e' hpre => ?_⟩
    exact h (e :: done) e' ((List.prefix_cons_inj e).2 hpre)
  · rintro ⟨hfirst, hrest⟩ done e' hpre
    cases done with
    | nil =>
      obtain ⟨rfl, -⟩ := List.cons_prefix_cons.1 hpre
      exact hfirst
    | cons d done =>
      obtain ⟨rfl, htail⟩ := List.cons_prefix_cons.1 hpre
      exact hrest done e' htail

variable {step₁ : E → S → S} {step₂ : E → T → T} {meets : E → S → Prop}

/-- The run lemma: the states look the same after every part of the run exactly if every event meets the condition. -/
theorem run_iff (related looksSame : S → T → Prop) (hlook : ∀ s t, related s t → looksSame s t)
    (hkeep : ∀ e s t, related s t → meets e s → related (step₁ e s) (step₂ e t))
    (hbreak : ∀ e s t, related s t → ¬ meets e s → ¬ looksSame (step₁ e s) (step₂ e t)) :
    ∀ {events : List E} {s : S} {t : T}, related s t →
      ((∀ done, done <+: events → looksSame (run step₁ done s) (run step₂ done t)) ↔ Throughout meets step₁ events s)
  | [], s, t, h => by
    constructor
    · intro _ done e hpre
      exact absurd (List.prefix_nil.1 hpre) (by simp)
    · intro _ done hpre
      rw [List.prefix_nil.1 hpre]
      exact hlook s t h
  | e :: events, s, t, h => by
    rw [throughout_cons]
    constructor
    · intro hall
      have hmeets : meets e s := by
        by_contra hno
        exact hbreak e s t h hno (hall [e] (List.prefix_append [e] events))
      refine ⟨hmeets, (run_iff related looksSame hlook hkeep hbreak (hkeep e s t h hmeets)).1 fun done hpre => ?_⟩
      exact hall (e :: done) ((List.prefix_cons_inj e).2 hpre)
    · rintro ⟨hmeets, hrest⟩ done hpre
      cases done with
      | nil => exact hlook s t h
      | cons d done =>
        obtain ⟨rfl, htail⟩ := List.cons_prefix_cons.1 hpre
        exact (run_iff related looksSame hlook hkeep hbreak (hkeep d s t h hmeets)).2 hrest done htail

end SatNet.Lockstep
