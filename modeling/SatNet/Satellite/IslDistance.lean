/-
The distance of two satellites in `gen_state.py`. `_fast_isl_distance` keeps the positions of the satellites for the epoch
and date that it was called for last, under the identity of the satellite; other code computes the same satellites for
other observers in between. Every call has the result of computing both satellites anew.
-/
import SatNet.Lib.Call
import SatNet.Lib.Loop
import Mathlib.Logic.Function.Basic

namespace SatNet.Satellite.IslDistance

open Loop (ok_bind error_bind)

/-! ## The script -/

/-- What is read of a satellite after `compute`. -/
structure Attributes (φ : Type) where
  aRa : φ
  aDec : φ
  range : φ
  deriving Repr, DecidableEq

/-- What the script uses of `ephem` and of floating-point arithmetic. What `compute` sets depends on the elements of the
satellite and the observer alone; what it leaves of the attributes when it fails may also depend on them. -/
structure Ephem (Elements Observer φ ε : Type) where
  /-- The observer at the origin with an epoch and a date. -/
  observer : String → String → Except ε Observer
  compute : Elements → Observer → Except ε (Attributes φ)
  afterError : Elements → Observer → Attributes φ → Attributes φ
  /-- `separation` and the law of cosines. -/
  distance : φ × φ × φ → φ × φ × φ → Except ε φ
  exceeds : φ → φ → Bool

inductive PyError (φ ε : Type) where
  | raised (e : ε)
  | keyError
  | islTooLong (d lim : φ)
  deriving Repr, DecidableEq

/-- The attributes of the satellites, and `_cache`. A satellite that is alive is the only one with its `id`. -/
structure World (Id φ : Type) where
  attributes : Id → Attributes φ
  key : Option (String × String)
  pos : Id → Option (φ × φ × φ)

variable {Id Elements Observer φ ε : Type}

def raise {α : Type} : Except ε α → Except (PyError φ ε) α
  | .ok a => .ok a
  | .error e => .error (.raised e)

section Calls

variable [DecidableEq Id] (E : Ephem Elements Observer φ ε) (elements : Id → Elements)

/-- `s.compute(obs)` -/
def compute (s : Id) (obs : Observer) : Call (PyError φ ε) (World Id φ) Unit :=
  ⟨fun w =>
    match E.compute (elements s) obs with
    | .ok a => (.ok (), { w with attributes := Function.update w.attributes s a })
    | .error e => (.error (.raised e), { w with
        attributes := Function.update w.attributes s (E.afterError (elements s) obs (w.attributes s)) })⟩

/-- `(s.a_ra, s.a_dec, s.range)` -/
def position (w : World Id φ) (s : Id) : φ × φ × φ :=
  ((w.attributes s).aRa, (w.attributes s).aDec, (w.attributes s).range)

/-- One round of the loop of `_fast_isl_distance`. -/
def ensure (epochStr dateStr : String) (s : Id) : Call (PyError φ ε) (World Id φ) Unit := do
  let w ← Call.get
  match w.pos s with
  | some _ => pure ()
  | none =>
    let obs ← Call.lift (raise (E.observer epochStr dateStr))
    compute E elements s obs
    -- the attributes are those that the line above has set
    let w ← Call.get
    Call.set { w with pos := Function.update w.pos s (some (position w s)) }

/-- `pos[id(s)]` -/
def lookup (w : World Id φ) (s : Id) : Except (PyError φ ε) (φ × φ × φ) :=
  match w.pos s with
  | some p => .ok p
  | none => .error .keyError

/-- `_fast_isl_distance(sat1, sat2, epoch_str, date_str)` -/
def fastIslDistance (sat1 sat2 : Id) (epochStr dateStr : String) : Call (PyError φ ε) (World Id φ) φ := do
  let w ← Call.get
  -- another epoch or date empties the cache
  Call.set (if w.key = some (epochStr, dateStr) then w
    else { w with key := some (epochStr, dateStr), pos := fun _ => none })
  ensure E elements epochStr dateStr sat1
  ensure E elements epochStr dateStr sat2
  let w ← Call.get
  let p₁ ← Call.lift (lookup w sat1)
  let p₂ ← Call.lift (lookup w sat2)
  Call.lift (raise (E.distance p₁ p₂))

/-- What `isl` does with a distance; `limit` is `_SAT_ISL_LIMIT`. -/
def checkLimit (limit : Id → Option φ) (sat1 : Id) (d : φ) : Except (PyError φ ε) φ :=
  match limit sat1 with
  | none => .error .keyError
  | some lim => if E.exceeds d lim then .error (.islTooLong d lim) else .ok d

/-- `isl` of `install_per_shell_limits`, around the distance that was installed before. -/
def isl (limit : Id → Option φ) (sat1 sat2 : Id) (epochStr dateStr : String) : Call (PyError φ ε) (World Id φ) φ := do
  let d ← fastIslDistance E elements sat1 sat2 epochStr dateStr
  Call.lift (checkLimit E limit sat1 d)

/-- The distance without the cache: both satellites are computed for the epoch and the date. -/
def distanceAfresh (sat1 sat2 : Id) (epochStr dateStr : String) : Call (PyError φ ε) (World Id φ) φ := do
  let obs ← Call.lift (raise (E.observer epochStr dateStr))
  compute E elements sat1 obs
  compute E elements sat2 obs
  let w ← Call.get
  Call.lift (raise (E.distance (position w sat1) (position w sat2)))

/-- What happens in a run: the two functions are called, and other code computes a satellite for some observer. -/
inductive Event (Id Observer : Type) where
  | distance (sat1 sat2 : Id) (epochStr dateStr : String)
  | isl (sat1 sat2 : Id) (epochStr dateStr : String)
  | compute (s : Id) (obs : Observer)

/-- The world after an event, whether it raises or not. -/
def step (limit : Id → Option φ) (w : World Id φ) : Event Id Observer → World Id φ
  | .distance sat1 sat2 epochStr dateStr => ((fastIslDistance E elements sat1 sat2 epochStr dateStr).run w).2
  | .isl sat1 sat2 epochStr dateStr => ((isl E elements limit sat1 sat2 epochStr dateStr).run w).2
  | .compute s obs => ((compute E elements s obs).run w).2

/-- The world after a run of the module, from when it was imported. -/
def run (limit : Id → Option φ) (attributes : Id → Attributes φ) (events : List (Event Id Observer)) : World Id φ :=
  events.foldl (step E elements limit) ⟨attributes, none, fun _ => none⟩

end Calls

/-! ## Positions -/

section Positions

variable (E : Ephem Elements Observer φ ε) (elements : Id → Elements)

/-- The position of a satellite for an epoch and a date. -/
def positionFor (epochStr dateStr : String) (s : Id) : Except (PyError φ ε) (φ × φ × φ) := do
  let obs ← raise (E.observer epochStr dateStr)
  let a ← raise (E.compute (elements s) obs)
  .ok (a.aRa, a.aDec, a.range)

/-- The distance of two positions. -/
def distanceFor (sat1 sat2 : Id) (epochStr dateStr : String) : Except (PyError φ ε) φ := do
  let p₁ ← positionFor E elements epochStr dateStr sat1
  let p₂ ← positionFor E elements epochStr dateStr sat2
  raise (E.distance p₁ p₂)

/-- Every cached position is the one for the key. -/
def Valid (w : World Id φ) : Prop :=
  ∀ s p, w.pos s = some p → ∃ epochStr dateStr, w.key = some (epochStr, dateStr) ∧
    positionFor E elements epochStr dateStr s = .ok p

end Positions

variable {E : Ephem Elements Observer φ ε} {elements : Id → Elements} {w : World Id φ} {epochStr dateStr : String}
  {sat1 sat2 s : Id}

theorem positionFor_ok {obs : Observer} {a : Attributes φ} (hobs : E.observer epochStr dateStr = .ok obs)
    (h : E.compute (elements s) obs = .ok a) :
    positionFor E elements epochStr dateStr s = .ok (a.aRa, a.aDec, a.range) := by
  unfold positionFor
  simp only [hobs, h, raise, ok_bind]

theorem positionFor_error {obs : Observer} {e : ε} (hobs : E.observer epochStr dateStr = .ok obs)
    (h : E.compute (elements s) obs = .error e) : positionFor E elements epochStr dateStr s = .error (.raised e) := by
  unfold positionFor
  simp only [hobs, h, raise, ok_bind, error_bind]

theorem positionFor_observer {e : ε} (hobs : E.observer epochStr dateStr = .error e) (elements : Id → Elements) (s : Id) :
    positionFor E elements epochStr dateStr s = .error (.raised e) := by
  unfold positionFor
  rw [hobs]
  rfl

theorem lookup_some {p : φ × φ × φ} (h : w.pos s = some p) : lookup (ε := ε) w s = .ok p := by
  unfold lookup
  rw [h]

variable [DecidableEq Id]

theorem compute_ok {obs : Observer} {a : Attributes φ} (h : E.compute (elements s) obs = .ok a) (w : World Id φ) :
    (compute E elements s obs).run w = (.ok (), { w with attributes := Function.update w.attributes s a }) := by
  unfold compute
  simp only [h]

theorem compute_error {obs : Observer} {e : ε} (h : E.compute (elements s) obs = .error e) (w : World Id φ) :
    ∃ attributes, (compute E elements s obs).run w = (.error (.raised e), { w with attributes }) := by
  unfold compute
  simp only [h]
  exact ⟨_, rfl⟩

/-- Without the cache the distance does not depend on the world. -/
theorem distanceAfresh_run (w : World Id φ) :
    ((distanceAfresh E elements sat1 sat2 epochStr dateStr).run w).1 = distanceFor E elements sat1 sat2 epochStr dateStr := by
  unfold distanceAfresh distanceFor
  cases hobs : E.observer epochStr dateStr with
  | error e =>
    rw [positionFor_observer hobs elements sat1]
    rfl
  | ok obs =>
    simp only [raise, Call.run_lift_ok_bind]
    cases h₁ : E.compute (elements sat1) obs with
    | error e =>
      obtain ⟨attributes, hrun⟩ := compute_error h₁ w
      rw [Call.run_bind_error hrun, positionFor_error hobs h₁, error_bind]
    | ok a₁ =>
      rw [Call.run_bind_eq (compute_ok h₁ w), positionFor_ok hobs h₁, ok_bind]
      cases h₂ : E.compute (elements sat2) obs with
      | error e =>
        obtain ⟨attributes, hrun⟩ := compute_error h₂ { w with attributes := Function.update w.attributes sat1 a₁ }
        rw [Call.run_bind_error hrun, positionFor_error hobs h₂, error_bind]
      | ok a₂ =>
        rw [Call.run_bind_eq (compute_ok h₂ _), positionFor_ok hobs h₂, ok_bind]
        by_cases hs : sat1 = sat2
        · -- the second computation repeats the first
          subst hs
          cases h₁.symm.trans h₂
          simp only [Call.run_get_bind, position, Function.update_self]
          rfl
        · simp only [Call.run_get_bind, position, Function.update_self, Function.update_of_ne hs]
          rfl

/-! ## The cache -/

theorem Valid.cache {p : φ × φ × φ} (hv : Valid E elements w) (hk : w.key = some (epochStr, dateStr))
    (hpos : positionFor E elements epochStr dateStr s = .ok p) (attributes : Id → Attributes φ) :
    Valid E elements { w with attributes, pos := Function.update w.pos s (some p) } := by
  intro s' q hq
  by_cases hs : s' = s
  · subst hs
    simp only [Function.update_self, Option.some.injEq] at hq
    subst hq
    exact ⟨epochStr, dateStr, hk, hpos⟩
  · simp only [Function.update_of_ne hs] at hq
    exact hv s' q hq

/-- Once the key is set, a round of the loop ends as the position does; it caches the position and keeps the others. -/
theorem ensure_run (hv : Valid E elements w) (hk : w.key = some (epochStr, dateStr)) (s : Id) :
    ∃ w', (ensure E elements epochStr dateStr s).run w
        = ((positionFor E elements epochStr dateStr s).map fun _ => (), w') ∧ Valid E elements w' ∧
      w'.key = w.key ∧ (∀ p, positionFor E elements epochStr dateStr s = .ok p → w'.pos s = some p) ∧
      ∀ s' p, w.pos s' = some p → w'.pos s' = some p := by
  unfold ensure
  rw [Call.run_get_bind]
  cases hp : w.pos s with
  | some p =>
    obtain ⟨e', d', hk', hpos⟩ := hv s p hp
    cases hk.symm.trans hk'
    -- it is cached, for the key by validity
    refine ⟨w, by rw [hpos]; rfl, hv, rfl, fun q hq => ?_, fun _ _ h => h⟩
    cases hpos.symm.trans hq
    exact hp
  | none =>
    cases hobs : E.observer epochStr dateStr with
    | error e =>
      have hpos := positionFor_observer hobs elements s
      refine ⟨w, by rw [hpos]; rfl, hv, rfl, fun q hq => ?_, fun _ _ h => h⟩
      rw [hpos] at hq
      cases hq
    | ok obs =>
      simp only [raise, Call.run_lift_ok_bind]
      cases hc : E.compute (elements s) obs with
      | error e =>
        have hpos := positionFor_error hobs hc
        obtain ⟨attributes, hrun⟩ := compute_error hc w
        refine ⟨{ w with attributes }, by rw [Call.run_bind_error hrun, hpos]; rfl, hv, rfl, fun q hq => ?_,
          fun _ _ h => h⟩
        rw [hpos] at hq
        cases hq
      | ok a =>
        have hpos := positionFor_ok hobs hc
        rw [Call.run_bind_eq (compute_ok hc w), Call.run_get_bind, hpos]
        refine ⟨_, rfl, ?_, rfl, ?_, ?_⟩
        · have hvalid := hv.cache hk hpos (Function.update w.attributes s a)
          simpa only [position, Function.update_self] using hvalid
        · intro q hq
          cases hq
          simp only [position, Function.update_self]
        · intro s' q hq
          have hs : s' ≠ s := by
            rintro rfl
            rw [hp] at hq
            cases hq
          simp only [Function.update_of_ne hs]
          exact hq

/-- With a valid cache the distance is the one of the positions, and the cache stays valid. -/
theorem fastIslDistance_run (hv : Valid E elements w) (sat1 sat2 : Id) (epochStr dateStr : String) :
    ∃ w', (fastIslDistance E elements sat1 sat2 epochStr dateStr).run w
        = (distanceFor E elements sat1 sat2 epochStr dateStr, w') ∧ Valid E elements w' := by
  unfold fastIslDistance distanceFor
  rw [Call.run_get_bind, Call.run_set_bind]
  generalize hw₀ : (if w.key = some (epochStr, dateStr) then w
    else { w with key := some (epochStr, dateStr), pos := fun _ => none }) = w₀
  have h₀ : Valid E elements w₀ ∧ w₀.key = some (epochStr, dateStr) := by
    by_cases hk : w.key = some (epochStr, dateStr)
    · rw [if_pos hk] at hw₀
      subst hw₀
      exact ⟨hv, hk⟩
    · rw [if_neg hk] at hw₀
      subst hw₀
      exact ⟨fun s p hp => (by cases hp), rfl⟩
  obtain ⟨w₁, hrun₁, hv₁, hk₁, hpos₁, -⟩ := ensure_run h₀.1 h₀.2 sat1
  cases hp₁ : positionFor E elements epochStr dateStr sat1 with
  | error e =>
    rw [hp₁] at hrun₁
    exact ⟨w₁, Call.run_bind_error hrun₁ _, hv₁⟩
  | ok p₁ =>
    rw [hp₁] at hrun₁
    rw [Call.run_bind_eq hrun₁, ok_bind]
    obtain ⟨w₂, hrun₂, hv₂, -, hpos₂, hkeep₂⟩ := ensure_run hv₁ (hk₁.trans h₀.2) sat2
    cases hp₂ : positionFor E elements epochStr dateStr sat2 with
    | error e =>
      rw [hp₂] at hrun₂
      exact ⟨w₂, Call.run_bind_error hrun₂ _, hv₂⟩
    | ok p₂ =>
      rw [hp₂] at hrun₂
      -- the second round of the loop leaves the first position where it is
      have hl₁ := lookup_some (ε := ε) (hkeep₂ sat1 p₁ (hpos₁ p₁ hp₁))
      have hl₂ := lookup_some (ε := ε) (hpos₂ p₂ hp₂)
      rw [Call.run_bind_eq hrun₂, Call.run_get_bind, hl₁, Call.run_lift_ok_bind, hl₂, Call.run_lift_ok_bind, ok_bind,
        Call.run_lift]
      exact ⟨w₂, rfl, hv₂⟩

theorem isl_run (limit : Id → Option φ) (hv : Valid E elements w) (sat1 sat2 : Id) (epochStr dateStr : String) :
    ∃ w', (isl E elements limit sat1 sat2 epochStr dateStr).run w
        = (distanceFor E elements sat1 sat2 epochStr dateStr >>= checkLimit E limit sat1, w') ∧ Valid E elements w' := by
  obtain ⟨w', hrun, hv'⟩ := fastIslDistance_run hv sat1 sat2 epochStr dateStr
  unfold isl
  cases hd : distanceFor E elements sat1 sat2 epochStr dateStr with
  | error e =>
    rw [hd] at hrun
    exact ⟨w', Call.run_bind_error hrun _, hv'⟩
  | ok d =>
    rw [hd] at hrun
    rw [Call.run_bind_eq hrun]
    exact ⟨w', rfl, hv'⟩

/-! ## Runs -/

/-- Computing a satellite for another observer does not touch the cache. -/
theorem compute_cache (E : Ephem Elements Observer φ ε) (elements : Id → Elements) (s : Id) (obs : Observer)
    (w : World Id φ) :
    ((compute E elements s obs).run w).2.key = w.key ∧ ((compute E elements s obs).run w).2.pos = w.pos := by
  cases hc : E.compute (elements s) obs with
  | ok a =>
    rw [compute_ok hc w]
    exact ⟨rfl, rfl⟩
  | error e =>
    obtain ⟨attributes, hrun⟩ := compute_error hc w
    rw [hrun]
    exact ⟨rfl, rfl⟩

theorem step_valid (limit : Id → Option φ) (hv : Valid E elements w) (event : Event Id Observer) :
    Valid E elements (step E elements limit w event) := by
  cases event with
  | distance sat1 sat2 epochStr dateStr =>
    obtain ⟨w', hrun, hv'⟩ := fastIslDistance_run hv sat1 sat2 epochStr dateStr
    simp only [step, hrun]
    exact hv'
  | isl sat1 sat2 epochStr dateStr =>
    obtain ⟨w', hrun, hv'⟩ := isl_run limit hv sat1 sat2 epochStr dateStr
    simp only [step, hrun]
    exact hv'
  | compute s obs =>
    obtain ⟨hkey, hpos⟩ := compute_cache E elements s obs w
    intro s' p hp
    simp only [step] at hp ⊢
    rw [hpos] at hp
    rw [hkey]
    exact hv s' p hp

/-- In every run the cache is valid. -/
theorem run_valid (E : Ephem Elements Observer φ ε) (elements : Id → Elements) (limit : Id → Option φ)
    (attributes : Id → Attributes φ) (events : List (Event Id Observer)) :
    Valid E elements (run E elements limit attributes events) := by
  unfold run
  refine List.foldlRecOn (motive := Valid E elements) events _ ?_ ?_
  · intro s p hp
    cases hp
  · intro w hv event _
    exact step_valid limit hv event

/-- After every run a call ends as one that computes both satellites anew does, and `isl` does so below its limit. -/
theorem fastIslDistance_eq_afresh (E : Ephem Elements Observer φ ε) (elements : Id → Elements) (limit : Id → Option φ)
    (attributes : Id → Attributes φ) (events : List (Event Id Observer)) (sat1 sat2 : Id) (epochStr dateStr : String)
    (w : World Id φ) :
    ((fastIslDistance E elements sat1 sat2 epochStr dateStr).run (run E elements limit attributes events)).1
        = ((distanceAfresh E elements sat1 sat2 epochStr dateStr).run w).1 ∧
      ((isl E elements limit sat1 sat2 epochStr dateStr).run (run E elements limit attributes events)).1
        = ((distanceAfresh E elements sat1 sat2 epochStr dateStr).run w).1 >>= checkLimit E limit sat1 := by
  have hv := run_valid E elements limit attributes events
  obtain ⟨w₁, hrun₁, -⟩ := fastIslDistance_run hv sat1 sat2 epochStr dateStr
  obtain ⟨w₂, hrun₂, -⟩ := isl_run limit hv sat1 sat2 epochStr dateStr
  rw [hrun₁, hrun₂, distanceAfresh_run]
  exact ⟨rfl, rfl⟩

end SatNet.Satellite.IslDistance
