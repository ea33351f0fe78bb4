/-
`LogUpdateHelper`: the run-length encoding of the step function that a sequence of updates describes,
with two intervals (alpha and beta) held back because their values are known only one step later.
The encoding is canonical, and the only calls that throw are those with a negative time or a time
before the last update.
-/
import SatNet.Base.Fail
import SatNet.Lib.Call
import SatNet.Lib.Step
import Mathlib.Data.Int.Order.Basic

namespace SatNet.Track

open SatNet.Step

/-! ## The helper -/

/-- A row of the log: from, until before, value. -/
abbrev LogRow := Row Int Int

structure LogUpdateHelper where
  logTimeValue : List LogRow
  lastUpdateValue : Int
  intervalAlphaValue : Int
  lastIntervalCheckTime : Int
  intervalAlphaLeftTime : Int
  intervalBetaLeftTime : Int
  deriving Repr, DecidableEq

namespace LogUpdateHelper

def init : LogUpdateHelper := ⟨[], -1, -1, -1, -1, -1⟩

/-- "Check if there is a new interval once per time moment": the branches of `Update` for a time after
the last one. -/
def check (h : LogUpdateHelper) (time : Int) : LogUpdateHelper :=
  let h' :=
    if h.intervalAlphaLeftTime = -1 then { h with intervalAlphaLeftTime := time }
    else if h.intervalBetaLeftTime = -1 then
      { h with intervalBetaLeftTime := time, intervalAlphaValue := h.lastUpdateValue }
    -- the value of interval beta is now the last update value
    else if h.intervalAlphaValue = h.lastUpdateValue then { h with intervalBetaLeftTime := time }
    else
      { h with
        logTimeValue := h.logTimeValue ++ [⟨h.intervalAlphaLeftTime, h.intervalBetaLeftTime, h.intervalAlphaValue⟩]
        intervalAlphaLeftTime := h.intervalBetaLeftTime
        intervalAlphaValue := h.lastUpdateValue
        intervalBetaLeftTime := time }
  { h' with lastIntervalCheckTime := time }

section Check

variable {h : LogUpdateHelper} (time : Int)

theorem check_second (hα : h.intervalAlphaLeftTime ≠ -1) (hβ : h.intervalBetaLeftTime = -1) :
    h.check time = { h with
      intervalBetaLeftTime := time, intervalAlphaValue := h.lastUpdateValue, lastIntervalCheckTime := time } := by
  unfold check; rw [if_neg hα, if_pos hβ]

theorem check_merge (hα : h.intervalAlphaLeftTime ≠ -1) (hβ : h.intervalBetaLeftTime ≠ -1)
    (hv : h.intervalAlphaValue = h.lastUpdateValue) :
    h.check time = { h with intervalBetaLeftTime := time, lastIntervalCheckTime := time } := by
  unfold check; rw [if_neg hα, if_neg hβ, if_pos hv]

theorem check_push (hα : h.intervalAlphaLeftTime ≠ -1) (hβ : h.intervalBetaLeftTime ≠ -1)
    (hv : h.intervalAlphaValue ≠ h.lastUpdateValue) :
    h.check time =
      ⟨h.logTimeValue ++ [⟨h.intervalAlphaLeftTime, h.intervalBetaLeftTime, h.intervalAlphaValue⟩],
        h.lastUpdateValue, h.lastUpdateValue, time, h.intervalBetaLeftTime, time⟩ := by
  unfold check; rw [if_neg hα, if_neg hβ, if_neg hv]

end Check

def update (time value : Int) : Call Fail LogUpdateHelper Unit := do
  let h ← Call.get
  if time < 0 then Call.throw (.invalidArgument "Negative time is not permitted.")
  else if time < h.lastIntervalCheckTime then
    Call.throw (.invalidArgument "Cannot log a value for a time in the past.")
  else
    let h := if time > h.lastIntervalCheckTime then h.check time else h
    Call.set { h with lastUpdateValue := value }

/-- The rows that `Finalize` adds to the log. -/
def finalRows (h : LogUpdateHelper) (time : Int) : List LogRow :=
  if h.intervalAlphaLeftTime ≠ -1 ∧ h.intervalBetaLeftTime = -1 then
    if h.intervalAlphaLeftTime ≠ time then [⟨h.intervalAlphaLeftTime, time, h.lastUpdateValue⟩] else []
  else if h.intervalAlphaLeftTime ≠ -1 ∧ h.intervalBetaLeftTime ≠ -1 then
    if h.intervalAlphaValue = h.lastUpdateValue then [⟨h.intervalAlphaLeftTime, time, h.intervalAlphaValue⟩]
    else
      ⟨h.intervalAlphaLeftTime, h.intervalBetaLeftTime, h.intervalAlphaValue⟩ ::
        if h.intervalBetaLeftTime ≠ time then [⟨h.intervalBetaLeftTime, time, h.lastUpdateValue⟩] else []
  else []

def finalize (time : Int) : Call Fail LogUpdateHelper (List LogRow) := do
  let h ← Call.get
  if time < 0 then Call.throw (.invalidArgument "Negative time is not permitted.")
  else if time < h.lastIntervalCheckTime then
    Call.throw (.invalidArgument "Cannot finalize at a time in the past.")
  else
    let log := h.logTimeValue ++ h.finalRows time
    Call.set { h with logTimeValue := log }
    pure log

/-- The calls `Update(t, v)` for a list of pairs. -/
def feed : List (Int × Int) → Call Fail LogUpdateHelper Unit
  | [] => pure ()
  | u :: us => do
    update u.1 u.2
    feed us

/-! ## The calls that throw -/

/-- What an update that does not throw makes of the helper. -/
def updated (h : LogUpdateHelper) (time value : Int) : LogUpdateHelper :=
  { (if time > h.lastIntervalCheckTime then h.check time else h) with lastUpdateValue := value }

theorem run_update_ok {h : LogUpdateHelper} {time : Int} (value : Int) (h₁ : 0 ≤ time)
    (h₂ : h.lastIntervalCheckTime ≤ time) : (update time value).run h = (.ok (), h.updated time value) := by
  unfold update
  rw [Call.run_get_bind, if_neg (not_lt.2 h₁), if_neg (not_lt.2 h₂)]
  rfl

theorem run_finalize_ok {h : LogUpdateHelper} {time : Int} (h₁ : 0 ≤ time) (h₂ : h.lastIntervalCheckTime ≤ time) :
    (finalize time).run h = (.ok (h.logTimeValue ++ h.finalRows time),
      { h with logTimeValue := h.logTimeValue ++ h.finalRows time }) := by
  unfold finalize
  rw [Call.run_get_bind, if_neg (not_lt.2 h₁), if_neg (not_lt.2 h₂)]
  rfl

theorem run_update_throw {h : LogUpdateHelper} {time : Int} (value : Int)
    (ht : time < 0 ∨ time < h.lastIntervalCheckTime) : ∃ e, (update time value).run h = (.error e, h) := by
  unfold update
  rw [Call.run_get_bind]
  by_cases h₁ : time < 0
  · exact ⟨_, by rw [if_pos h₁]; rfl⟩
  · exact ⟨_, by rw [if_neg h₁, if_pos (ht.resolve_left h₁)]; rfl⟩

theorem run_finalize_throw {h : LogUpdateHelper} {time : Int} (ht : time < 0 ∨ time < h.lastIntervalCheckTime) :
    ∃ e, (finalize time).run h = (.error e, h) := by
  unfold finalize
  rw [Call.run_get_bind]
  by_cases h₁ : time < 0
  · exact ⟨_, by rw [if_pos h₁]; rfl⟩
  · exact ⟨_, by rw [if_neg h₁, if_pos (ht.resolve_left h₁)]; rfl⟩

theorem updated_lastIntervalCheckTime {h : LogUpdateHelper} {time : Int} (value : Int)
    (ht : h.lastIntervalCheckTime ≤ time) : (h.updated time value).lastIntervalCheckTime = time := by
  unfold updated
  split
  · rfl
  · show h.lastIntervalCheckTime = time; omega

/-- The states that calls in any order lead to, with the time of the last update that did not throw. -/
inductive Reach : LogUpdateHelper → Option Int → Prop where
  | init : Reach init none
  | update {h last} (time value : Int) (h' : LogUpdateHelper) :
      Reach h last → (update time value).run h = (.ok (), h') → Reach h' (some time)
  | updateThrow {h last} (time value : Int) (e : Fail) (h' : LogUpdateHelper) :
      Reach h last → (LogUpdateHelper.update time value).run h = (.error e, h') → Reach h' last
  | finalize {h last} (time : Int) (r : Res (List LogRow)) (h' : LogUpdateHelper) :
      Reach h last → (finalize time).run h = (r, h') → Reach h' last

/-- A time at which a call may be made after the last update. -/
def Permitted (last : Option Int) (time : Int) : Prop := 0 ≤ time ∧ ∀ l, last = some l → l ≤ time

/-- The helper remembers the time of the last update, and -1 before there was one. -/
theorem Reach.lastIntervalCheckTime {h : LogUpdateHelper} {last : Option Int} (hr : Reach h last) :
    h.lastIntervalCheckTime = last.getD (-1) := by
  induction hr with
  | init => rfl
  | @update h last time value h' hr hrun ih =>
    by_cases ht : time < 0 ∨ time < h.lastIntervalCheckTime
    · obtain ⟨e, he⟩ := run_update_throw value ht
      rw [hrun] at he; cases he
    · rw [not_or, not_lt, not_lt] at ht
      rw [run_update_ok value ht.1 ht.2] at hrun
      cases hrun
      exact updated_lastIntervalCheckTime value ht.2
  | @updateThrow h last time value e h' hr hrun ih =>
    by_cases ht : time < 0 ∨ time < h.lastIntervalCheckTime
    · obtain ⟨e', he⟩ := run_update_throw value ht
      rw [hrun] at he; cases he; exact ih
    · rw [not_or, not_lt, not_lt] at ht
      rw [run_update_ok value ht.1 ht.2] at hrun
      cases hrun
  | @finalize h last time r h' hr hrun ih =>
    by_cases ht : time < 0 ∨ time < h.lastIntervalCheckTime
    · obtain ⟨e', he⟩ := run_finalize_throw ht
      rw [hrun] at he; cases he; exact ih
    · rw [not_or, not_lt, not_lt] at ht
      rw [run_finalize_ok ht.1 ht.2] at hrun
      cases hrun
      exact ih

theorem Reach.permitted_iff {h : LogUpdateHelper} {last : Option Int} (hr : Reach h last) (time : Int) :
    Permitted last time ↔ ¬ (time < 0 ∨ time < h.lastIntervalCheckTime) := by
  rw [hr.lastIntervalCheckTime, not_or, not_lt, not_lt]
  unfold Permitted
  cases last with
  | none =>
    constructor
    · rintro ⟨h₁, -⟩; exact ⟨h₁, by simp only [Option.getD_none]; omega⟩
    · rintro ⟨h₁, -⟩; exact ⟨h₁, nofun⟩
  | some l => simp

/-! ## The encoding -/

/-- The instant of the first update. -/
def start (us : List (Int × Int)) : Option Int := us.head?.map Prod.fst

theorem start_concat {us : List (Int × Int)} {t₀ : Int} (h : start us = some t₀) (u : Int × Int) :
    start (us ++ [u]) = some t₀ := by
  cases us with
  | nil => cases h
  | cons w us => exact h

/-- What the helper holds after the updates `us`: nothing, one instant, or an encoding up to the last
time whose last row is interval alpha. -/
inductive Inv : List (Int × Int) → LogUpdateHelper → Prop where
  | none : Inv [] init
  | alpha {us} (t v a : Int) : 0 ≤ t → start us = some t → (∀ x, t ≤ x → valueAt us x = some v) →
      Inv us ⟨[], v, a, t, t, -1⟩
  | both {us} (t₀ l m v a : Int) (log : List LogRow) : 0 ≤ l → start us = some t₀ →
      Canonical (log ++ [⟨l, m, a⟩]) t₀ m (valueAt us) → (∀ x, m ≤ x → valueAt us x = some v) →
      Inv us ⟨log, v, a, m, l, m⟩

/-- An encoding up to `m` does not notice an update at `m` or later. -/
theorem canonical_concat {rows : List LogRow} {t₀ m t : Int} {us : List (Int × Int)}
    (h : Canonical rows t₀ m (valueAt us)) (hm : m ≤ t) (v : Int) :
    Canonical rows t₀ m (valueAt (us ++ [(t, v)])) :=
  h.congr fun _ hx => valueAt_concat_lt (lt_of_lt_of_le hx hm) v

/-- Between the last update and a new one the function keeps its value. -/
theorem valueAt_between {us : List (Int × Int)} {m t v : Int} (h : ∀ x, m ≤ x → valueAt us x = some v) (w : Int) :
    ∀ x, m ≤ x → x < t → valueAt (us ++ [(t, w)]) x = some v := fun x hx hlt => by
  rw [valueAt_concat_lt hlt, h x hx]

/-- One update keeps the invariant. -/
theorem Inv.updated {us : List (Int × Int)} {h : LogUpdateHelper} (hi : Inv us h) {t : Int} (v : Int)
    (h0 : 0 ≤ t) (ht : h.lastIntervalCheckTime ≤ t) : Inv (us ++ [(t, v)]) (h.updated t v) := by
  have hlast : ∀ x, t ≤ x → valueAt (us ++ [(t, v)]) x = some v := fun x hx => valueAt_concat_le hx v
  cases hi with
  | none =>
    show Inv [(t, v)] { (if t > -1 then init.check t else init) with lastUpdateValue := v }
    rw [if_pos (by omega)]
    exact .alpha t v (-1) h0 rfl hlast
  | alpha t₁ v₁ a h₁ hs hv =>
    replace ht : t₁ ≤ t := ht
    unfold LogUpdateHelper.updated
    simp only
    by_cases hgt : t > t₁
    · -- interval beta starts, and the value of alpha is known
      rw [if_pos hgt, check_second t (show t₁ ≠ -1 by omega) rfl]
      refine .both t₁ t₁ t v v₁ [] h₁ (start_concat hs _) ?_ hlast
      exact Canonical.single hgt (valueAt_between hv v)
    · -- the same instant: only the value changes
      obtain rfl : t = t₁ := by omega
      rw [if_neg hgt]
      exact .alpha t v a h₁ (start_concat hs _) hlast
  | both t₀ l m v₁ a log hl hs hc hv =>
    replace ht : m ≤ t := ht
    have hlm := (tiles_concat.1 hc.tiles).2.1
    simp only at hlm
    unfold LogUpdateHelper.updated
    simp only
    by_cases hgt : t > m
    · rw [if_pos hgt]
      by_cases hav : a = v₁
      · -- beta has the value of alpha: they merge
        rw [check_merge t (show l ≠ -1 by omega) (show m ≠ -1 by omega) hav]
        subst hav
        exact .both t₀ l t v a log hl (start_concat hs _)
          ((canonical_concat hc hgt.le v).extend hgt.le (valueAt_between hv v)) hlast
      · -- alpha goes to the log, beta becomes alpha
        rw [check_push t (show l ≠ -1 by omega) (show m ≠ -1 by omega) hav]
        exact .both t₀ m t v v₁ (log ++ [⟨l, m, a⟩]) (by omega) (start_concat hs _)
          ((canonical_concat hc hgt.le v).append hgt hav (valueAt_between hv v)) hlast
    · obtain rfl : t = m := by omega
      rw [if_neg hgt]
      exact .both t₀ l t v a log hl (start_concat hs _) (canonical_concat hc le_rfl v) hlast

/-- The log that `Finalize` returns is the encoding of all updates. -/
theorem Inv.final {us : List (Int × Int)} {h : LogUpdateHelper} (hi : Inv us h) {time t₀ : Int}
    (ht : h.lastIntervalCheckTime ≤ time) (hs : start us = some t₀) :
    Canonical (h.logTimeValue ++ h.finalRows time) t₀ time (valueAt us) := by
  cases hi with
  | none => cases hs
  | alpha t v a h₁ hs' hv =>
    rw [hs] at hs'; cases hs'
    replace ht : t₀ ≤ time := ht
    unfold finalRows
    simp only
    rw [if_pos ⟨by omega, trivial⟩, List.nil_append]
    by_cases he : t₀ = time
    · rw [if_neg (not_not.2 he)]
      subst he
      exact Canonical.nil _ _
    · rw [if_pos he]
      exact Canonical.single (lt_of_le_of_ne ht he) fun x hx _ => hv x hx
  | both t₁ l m v a log hl hs' hc hv =>
    rw [hs] at hs'; cases hs'
    replace ht : m ≤ time := ht
    have hlm := (tiles_concat.1 hc.tiles).2.1
    simp only at hlm
    unfold finalRows
    simp only
    rw [if_neg (fun hm => by omega), if_pos ⟨by omega, by omega⟩]
    by_cases hav : a = v
    · rw [if_pos hav]
      subst hav
      exact hc.extend ht fun x hx _ => hv x hx
    · rw [if_neg hav]
      by_cases he : m = time
      · rw [if_neg (not_not.2 he)]
        subst he
        exact hc
      · rw [if_pos he, ← List.singleton_append, ← List.append_assoc]
        exact hc.append (lt_of_le_of_ne ht he) hav fun x hx _ => hv x hx

/-- Updates at weakly ascending times never throw and keep the invariant. -/
theorem Inv.feed : ∀ {us done : List (Int × Int)} {h : LogUpdateHelper}, Inv done h →
    (∀ u ∈ us, h.lastIntervalCheckTime ≤ u.1 ∧ 0 ≤ u.1) → us.Pairwise (fun u w => u.1 ≤ w.1) →
    ∃ h', (LogUpdateHelper.feed us).run h = (.ok (), h') ∧ Inv (done ++ us) h' ∧
      ∀ T, h.lastIntervalCheckTime ≤ T → (∀ u ∈ us, u.1 ≤ T) → h'.lastIntervalCheckTime ≤ T
  | [], done, h, hi, _, _ => ⟨h, rfl, by rw [List.append_nil]; exact hi, fun T hT _ => hT⟩
  | (t, v) :: us, done, h, hi, hu, hs => by
    obtain ⟨hle, h0⟩ := hu (t, v) (List.mem_cons_self ..)
    obtain ⟨hfirst, hrest⟩ := List.pairwise_cons.1 hs
    have hcheck := updated_lastIntervalCheckTime v hle
    obtain ⟨h', hrun, hinv, hT⟩ := (hi.updated v h0 hle).feed
      (fun u hm => ⟨by rw [hcheck]; exact hfirst u hm, (hu u (List.mem_cons_of_mem _ hm)).2⟩) hrest
    refine ⟨h', ?_, by simpa using hinv, fun T _ hall => hT T
      (by rw [hcheck]; exact hall (t, v) (List.mem_cons_self ..)) fun u hm => hall u (List.mem_cons_of_mem _ hm)⟩
    show (LogUpdateHelper.update t v >>= fun _ => LogUpdateHelper.feed us).run h = _
    rw [Call.run_bind_eq (run_update_ok v h0 hle)]
    exact hrun

/-- Updates at weakly ascending times and a final time give the encoding of the updates. -/
theorem feed_finalize {us : List (Int × Int)} {T : Int} (hus : ∀ u ∈ us, 0 ≤ u.1 ∧ u.1 ≤ T)
    (hs : us.Pairwise fun u w => u.1 ≤ w.1) (hT : 0 ≤ T) :
    ∃ h h' rows, (feed us).run init = (.ok (), h) ∧ (finalize T).run h = (.ok rows, h') ∧
      (∀ t₀, start us = some t₀ → Canonical rows t₀ T (valueAt us)) ∧ (us = [] → rows = []) := by
  have h0 : ∀ u ∈ us, init.lastIntervalCheckTime ≤ u.1 ∧ 0 ≤ u.1 := fun u hm => by
    have := (hus u hm).1
    exact ⟨by show -1 ≤ u.1; omega, this⟩
  obtain ⟨h, hrun, hinv, hlast⟩ := Inv.none.feed h0 hs
  have hle := hlast T (by show -1 ≤ T; omega) fun u hm => (hus u hm).2
  rw [List.nil_append] at hinv
  refine ⟨h, _, _, hrun, run_finalize_ok hT hle, fun t₀ ht₀ => hinv.final hle ht₀, fun hnil => ?_⟩
  subst hnil
  cases hrun
  rfl

/-- Both calls throw for a time that is negative or too early, and do so before they change anything. -/
theorem guarded_update (h : LogUpdateHelper) (time value : Int) :
    Call.Guarded (time < 0 ∨ time < h.lastIntervalCheckTime) (update time value) h := by
  constructor
  · exact run_update_throw value
  · intro ht
    rw [not_or, not_lt, not_lt] at ht
    exact ⟨_, _, run_update_ok value ht.1 ht.2⟩

theorem guarded_finalize (h : LogUpdateHelper) (time : Int) :
    Call.Guarded (time < 0 ∨ time < h.lastIntervalCheckTime) (finalize time) h := by
  constructor
  · exact run_finalize_throw
  · intro ht
    rw [not_or, not_lt, not_lt] at ht
    exact ⟨_, _, run_finalize_ok ht.1 ht.2⟩

/-- For every sequence of updates with non-negative, weakly ascending times and a final time not before
the last of them, no call throws, and the rows are the one canonical run-length encoding of the step
function between the first update and the final time; they are none exactly without an update or when
the final time is that of the first one. In every reachable state a call throws exactly for a negative
time or a time before the last update, and leaves the helper as it was. -/
theorem finalize_canonical :
    (∀ (us : List (Int × Int)) (T : Int), (∀ u ∈ us, 0 ≤ u.1 ∧ u.1 ≤ T) → us.Pairwise (fun u w => u.1 ≤ w.1) → 0 ≤ T →
      ∃ h h' rows, (feed us).run init = (.ok (), h) ∧ (finalize T).run h = (.ok rows, h') ∧
        (∀ t₀, start us = some t₀ → Canonical rows t₀ T (valueAt us) ∧
          ∀ rows', Canonical rows' t₀ T (valueAt us) → rows' = rows) ∧
        (rows = [] ↔ us = [] ∨ start us = some T)) ∧
    ∀ (h : LogUpdateHelper) (last : Option Int), Reach h last → ∀ time value,
      ((∃ e h', (update time value).run h = (.error e, h')) ↔ ¬ Permitted last time) ∧
      ((∃ e h', (finalize time).run h = (.error e, h')) ↔ ¬ Permitted last time) ∧
      ∀ e h', ((update time value).run h = (.error e, h') → h' = h) ∧
        ((finalize time).run h = (.error e, h') → h' = h) := by
  constructor
  · intro us T hus hs hT
    obtain ⟨h, h', rows, hfeed, hfin, hc, hnil⟩ := feed_finalize hus hs hT
    refine ⟨h, h', rows, hfeed, hfin, fun t₀ ht₀ => ⟨hc t₀ ht₀, fun rows' hr => hr.unique (hc t₀ ht₀)⟩, ?_⟩
    cases us with
    | nil =>
      constructor
      · intro _
        exact .inl rfl
      · intro _
        exact hnil rfl
    | cons u us =>
      rw [(hc u.1 rfl).tiles.eq_nil_iff]
      simp [start]
  · intro h last hr time value
    have hpermitted : ¬ Permitted last time ↔ time < 0 ∨ time < h.lastIntervalCheckTime := by
      rw [hr.permitted_iff, not_not]
    rw [hpermitted]
    refine ⟨(guarded_update h time value).error_iff, (guarded_finalize h time).error_iff, ?_⟩
    intro e h'
    exact ⟨(guarded_update h time value).unchanged, (guarded_finalize h time).unchanged⟩

/-- A value overwritten at its own instant, one that returns and one at the final time. -/
theorem finalize_canonical_run :
    ∃ h h' rows, (feed [(2, 7), (4, 1), (4, 7), (6, 9), (9, 9), (10, 5)]).run init = (.ok (), h) ∧
      (finalize 10).run h = (.ok rows, h') ∧
      (∀ t₀, start [(2, 7), (4, 1), (4, 7), (6, 9), (9, 9), (10, 5)] = some t₀ →
        Canonical rows t₀ 10 (valueAt [(2, 7), (4, 1), (4, 7), (6, 9), (9, 9), (10, 5)]) ∧
          ∀ rows', Canonical rows' t₀ 10 (valueAt [(2, 7), (4, 1), (4, 7), (6, 9), (9, 9), (10, 5)]) → rows' = rows) ∧
      (rows = [] ↔ ([(2, 7), (4, 1), (4, 7), (6, 9), (9, 9), (10, 5)] : List (Int × Int)) = [] ∨
        start [(2, 7), (4, 1), (4, 7), (6, 9), (9, 9), (10, 5)] = some 10) :=
  finalize_canonical.1 [(2, 7), (4, 1), (4, 7), (6, 9), (9, 9), (10, 5)] 10 (by decide) (by decide) (by decide)

end LogUpdateHelper

end SatNet.Track
