/-
Servers that pass their jobs on. What a server starts is under way until it is taken up; then it is handed to another
server or leaves. In every run each job that came in is at one place, every server starts its jobs in the order in which
they reached it, and if a job loses rank whenever it is passed on, the servers run dry.
-/
import SatNet.Lib.Server
import Mathlib.Algebra.BigOperators.Group.List.Basic
import Mathlib.Algebra.Order.Ring.Nat
import Mathlib.Data.List.Count
import Mathlib.Data.List.Perm.Basic
import Mathlib.Logic.Function.Basic
import Mathlib.Logic.Relation

namespace SatNet

/-- The stations, the jobs under way, and the names of those that have left. -/
structure Relay (E J K : Type) where
  stations : E → Server J
  flight : List J
  gone : List K

namespace Relay

variable {E J K : Type} [DecidableEq E]

def idle : Relay E J K := ⟨fun _ => Server.idle, [], []⟩

/-- A station goes on; the jobs that it started are under way. -/
def turn (r : Relay E J K) (e : E) (s : Server J) : Relay E J K :=
  { r with
    stations := Function.update r.stations e s
    flight := r.flight ++ s.started.drop (r.stations e).started.length }

/-- A job is handed to a station, or is under way at once. -/
def offer (r : Relay E J K) (via : Option E) (j : J) : Relay E J K :=
  match via with
  | some e => r.turn e ((r.stations e).submit j)
  | none => { r with flight := r.flight ++ [j] }

def finish (r : Relay E J K) (e : E) : Relay E J K := r.turn e (r.stations e).finish

def land (r : Relay E J K) (i : Nat) : Relay E J K := { r with flight := r.flight.eraseIdx i }

def leave (r : Relay E J K) (k : K) : Relay E J K := { r with gone := r.gone ++ [k] }

/-- The jobs that have reached each station, with one more. -/
def arrive (arrived : E → List J) (via : Option E) (j : J) : E → List J :=
  match via with
  | some e => Function.update arrived e (arrived e ++ [j])
  | none => arrived

/-- The states of the stations `es` and the jobs between them, with the jobs that have reached each station and the
names of all that came in. A job keeps its name when it is passed on. -/
inductive Run (es : List E) (key : J → K) : Relay E J K → (E → List J) → List K → Prop where
  | idle : Run es key idle (fun _ => []) []
  | enter {r arrived entered} (via : Option E) (j : J) : Run es key r arrived entered → (∀ e ∈ via, e ∈ es) →
      Run es key (r.offer via j) (arrive arrived via j) (entered ++ [key j])
  | refuse {r arrived entered} (k : K) : Run es key r arrived entered → Run es key (r.leave k) arrived (entered ++ [k])
  | finish {r arrived entered} (e : E) : Run es key r arrived entered → e ∈ es → (r.stations e).serving ≠ none →
      Run es key (r.finish e) arrived entered
  | pass {r arrived entered} (i : Nat) (via : Option E) (j j' : J) : Run es key r arrived entered →
      r.flight[i]? = some j → key j' = key j → (∀ e ∈ via, e ∈ es) →
      Run es key ((r.land i).offer via j') (arrive arrived via j') entered
  | leave {r arrived entered} (i : Nat) (j : J) : Run es key r arrived entered → r.flight[i]? = some j →
      Run es key ((r.land i).leave (key j)) arrived entered

variable {es : List E} {key : J → K} {r : Relay E J K} {arrived : E → List J} {entered : List K}

/-! ## Order -/

theorem offer_stations (h : ∀ e, Server.Run (r.stations e) (arrived e)) (via : Option E) (j : J) (e : E) :
    Server.Run ((r.offer via j).stations e) (arrive arrived via j e) := by
  cases via with
  | none => exact h e
  | some e' =>
    show Server.Run (Function.update r.stations e' _ e) (Function.update arrived e' _ e)
    by_cases he : e = e'
    · subst he
      rw [Function.update_self, Function.update_self]
      exact (h e).submit j
    · rw [Function.update_of_ne he, Function.update_of_ne he]
      exact h e

/-- Every station is a server in the run of its own arrivals. -/
theorem Run.stations (h : Run es key r arrived entered) : ∀ e, Server.Run (r.stations e) (arrived e) := by
  induction h with
  | idle => exact fun _ => .idle
  | enter via j _ _ ih => exact offer_stations ih via j
  | refuse k _ ih => exact ih
  | @finish r arrived entered e' _ _ hs ih =>
    intro e
    show Server.Run (Function.update r.stations e' _ e) _
    by_cases he : e = e'
    · subst he
      rw [Function.update_self]
      exact (ih e).finish hs
    · rw [Function.update_of_ne he]
      exact ih e
  | @pass r arrived entered i via j j' _ _ _ _ ih => exact @offer_stations _ _ _ _ (r.land i) _ ih via j'
  | leave i j _ _ ih => exact ih

/-! ## Conservation -/

/-- The names of the jobs that wait, that are under way and that have left. -/
def census (es : List E) (key : J → K) (r : Relay E J K) : List K :=
  (es.flatMap fun e => (r.stations e).waiting.map key) ++ r.flight.map key ++ r.gone

/-- What the stations hold after one of them has changed. -/
theorem flatMap_update {S α : Type} (f : S → List α) (hn : es.Nodup) {e : E} (he : e ∈ es) (stations : E → S) (s : S) :
    ((es.flatMap fun x => f (Function.update stations e s x)) ++ f (stations e)).Perm
      ((es.flatMap fun x => f (stations x)) ++ f s) := by
  have hfirst := List.perm_cons_erase he
  have hother : ((es.erase e).flatMap fun x => f (Function.update stations e s x)) =
      (es.erase e).flatMap fun x => f (stations x) := by
    apply List.flatMap_congr
    intro x hx
    rw [Function.update_of_ne fun hxe => hn.not_mem_erase (hxe ▸ hx)]
  have hnew := hfirst.flatMap_right fun x => f (Function.update stations e s x)
  have hold := hfirst.flatMap_right fun x => f (stations x)
  rw [List.flatMap_cons, Function.update_self, hother] at hnew
  rw [List.flatMap_cons] at hold
  classical
  refine List.perm_iff_count.2 fun x => ?_
  have hnew := hnew.count_eq x
  have hold := hold.count_eq x
  simp only [List.count_append] at hnew hold ⊢
  omega

/-- What a station has started or has waiting then, it had waiting before or has got just now. -/
theorem turn_census (hn : es.Nodup) {e : E} (he : e ∈ es) {s : Server J} {l : List J}
    (hs : (s.waiting ++ s.started.drop (r.stations e).started.length).Perm ((r.stations e).waiting ++ l)) :
    ((r.turn e s).census es key).Perm (r.census es key ++ l.map key) := by
  classical
  refine List.perm_iff_count.2 fun k => ?_
  have hstations := (flatMap_update (fun s : Server J => s.waiting.map key) hn he r.stations s).count_eq k
  have hstarted := (hs.map key).count_eq k
  show (((es.flatMap fun x => (Function.update r.stations e s x).waiting.map key) ++
    (r.flight ++ s.started.drop (r.stations e).started.length).map key ++ r.gone).count k) = _
  unfold census
  simp only [List.count_append, List.map_append] at hstations hstarted ⊢
  omega

theorem submit_started (s : Server J) (j : J) : s.serving = none ∧ (s.submit j).started = s.started ++ [j] ∧
      (s.submit j).waiting = s.waiting ∨
    s.serving ≠ none ∧ (s.submit j).started = s.started ∧ (s.submit j).waiting = s.waiting ++ [j] := by
  unfold Server.submit
  cases hs : s.serving with
  | none => exact .inl ⟨rfl, rfl, rfl⟩
  | some k => exact .inr ⟨nofun, rfl, rfl⟩

theorem finish_started (s : Server J) : s.waiting = [] ∧ s.finish = { s with serving := none } ∨
    ∃ j line, s.waiting = j :: line ∧ s.finish = s.start j line := by
  unfold Server.finish
  cases s.waiting with
  | nil => exact .inl ⟨rfl, rfl⟩
  | cons j line => exact .inr ⟨j, line, rfl, rfl⟩

theorem offer_census (hn : es.Nodup) {via : Option E} (hv : ∀ e ∈ via, e ∈ es) (j : J) :
    ((r.offer via j).census es key).Perm (r.census es key ++ [key j]) := by
  cases via with
  | none =>
    classical
    refine List.perm_iff_count.2 fun k => ?_
    show ((es.flatMap fun e => (r.stations e).waiting.map key) ++ (r.flight ++ [j]).map key ++ r.gone).count k = _
    unfold census
    simp only [List.count_append, List.map_append, List.map_cons, List.map_nil]
    omega
  | some e =>
    refine turn_census (l := [j]) hn (hv e rfl) ?_
    rcases submit_started (r.stations e) j with ⟨-, hstarted, hwaiting⟩ | ⟨-, hstarted, hwaiting⟩
    · rw [hstarted, hwaiting, List.drop_left]
    · rw [hstarted, hwaiting, List.drop_length, List.append_nil]

theorem finish_census (hn : es.Nodup) {e : E} (he : e ∈ es) : ((r.finish e).census es key).Perm (r.census es key) := by
  have h := @turn_census _ _ _ _ es key r hn e he (r.stations e).finish [] ?_
  · rwa [List.map_nil, List.append_nil] at h
  rcases finish_started (r.stations e) with ⟨hwaiting, hfinish⟩ | ⟨j, line, hwaiting, hfinish⟩
  · rw [hfinish, hwaiting]
    simp
  · rw [hfinish, hwaiting]
    show (line ++ ((r.stations e).started ++ [j]).drop _).Perm _
    rw [List.drop_left, List.append_nil]
    exact List.perm_append_singleton j line

omit [DecidableEq E] in
theorem land_census {i : Nat} {j : J} (hj : r.flight[i]? = some j) :
    (key j :: (r.land i).census es key).Perm (r.census es key) := by
  obtain ⟨hi, rfl⟩ := List.getElem?_eq_some_iff.1 hj
  have hflight := ((List.getElem_cons_eraseIdx_perm hi).map key)
  classical
  refine List.perm_iff_count.2 fun k => ?_
  have hflight := hflight.count_eq k
  show (key _ :: ((es.flatMap fun e => (r.stations e).waiting.map key) ++ (r.flight.eraseIdx i).map key ++ r.gone)).count k = _
  unfold census
  simp only [List.count_append, List.map_cons, List.count_cons] at hflight ⊢
  omega

omit [DecidableEq E] in
theorem leave_census (k : K) : ((r.leave k).census es key).Perm (r.census es key ++ [k]) := by
  show ((es.flatMap fun e => (r.stations e).waiting.map key) ++ r.flight.map key ++ (r.gone ++ [k])).Perm _
  rw [← List.append_assoc]
  rfl

/-- Each job that came in is at one place, and nothing else is: it waits, is under way or has left. -/
theorem Run.conserved (hn : es.Nodup) (h : Run es key r arrived entered) : (r.census es key).Perm entered := by
  induction h with
  | idle =>
    unfold census
    simp [Relay.idle, Server.idle]
  | enter via j _ hv ih => exact (offer_census hn hv j).trans (ih.append_right _)
  | refuse k _ ih => exact (leave_census k).trans (ih.append_right _)
  | finish e _ he _ ih => exact (finish_census hn he).trans ih
  | pass i via j j' _ hj hkey hv ih =>
    refine (offer_census hn hv j').trans ((List.perm_append_singleton _ _).trans ?_)
    rw [hkey]
    exact (land_census hj).trans ih
  | leave i j _ hj ih => exact (leave_census _).trans ((List.perm_append_singleton _ _).trans ((land_census hj).trans ih))

/-- When no station is at work and nothing is under way, all that came in has left. -/
theorem Run.dry (hn : es.Nodup) (h : Run es key r arrived entered) (hs : ∀ e ∈ es, (r.stations e).serving = none)
    (hf : r.flight = []) : r.gone.Perm entered := by
  have hwaiting : (es.flatMap fun e => (r.stations e).waiting.map key) = [] := by
    rw [List.flatMap_eq_nil_iff]
    intro e he
    rw [(h.stations e).waiting_eq_nil (hs e he)]
    rfl
  have hc := h.conserved hn
  unfold census at hc
  rwa [hwaiting, hf] at hc

/-! ## What holds of every job -/

/-- All jobs that wait or are under way satisfy `Q`. -/
structure All (Q : J → Prop) (r : Relay E J K) : Prop where
  waiting : ∀ e, ∀ j ∈ (r.stations e).waiting, Q j
  flight : ∀ j ∈ r.flight, Q j

variable {Q Q' : J → Prop}

omit [DecidableEq E] in
theorem all_idle : All Q (idle : Relay E J K) := ⟨fun _ => List.forall_mem_nil _, List.forall_mem_nil _⟩

omit [DecidableEq E] in
theorem All.mono (h : All Q r) (hq : ∀ j, Q j → Q' j) : All Q' r :=
  ⟨fun e j hj => hq j (h.waiting e j hj), fun j hj => hq j (h.flight j hj)⟩

theorem All.turn (h : All Q r) {e : E} {s : Server J} (hw : ∀ j ∈ s.waiting, Q j)
    (hs : ∀ j ∈ s.started.drop (r.stations e).started.length, Q j) : All Q (r.turn e s) := by
  refine ⟨fun e' j hj => ?_, fun j hj => ?_⟩
  · change j ∈ (Function.update r.stations e s e').waiting at hj
    by_cases he : e' = e
    · subst he
      rw [Function.update_self] at hj
      exact hw j hj
    · rw [Function.update_of_ne he] at hj
      exact h.waiting e' j hj
  · rcases List.mem_append.1 hj with hj | hj
    · exact h.flight j hj
    · exact hs j hj

theorem All.offer (h : All Q r) {j : J} (hj : Q j) (via : Option E) : All Q (r.offer via j) := by
  cases via with
  | none =>
    refine ⟨h.waiting, fun k hk => ?_⟩
    rcases List.mem_append.1 hk with hk | hk
    · exact h.flight k hk
    · rw [List.mem_singleton.1 hk]
      exact hj
  | some e =>
    rcases submit_started (r.stations e) j with ⟨-, hstarted, hwaiting⟩ | ⟨-, hstarted, hwaiting⟩
    · refine h.turn (by rw [hwaiting]; exact h.waiting e) ?_
      rw [hstarted, List.drop_left]
      exact List.forall_mem_singleton.2 hj
    · refine h.turn (fun k hk => ?_) (by rw [hstarted, List.drop_length]; exact List.forall_mem_nil _)
      rw [hwaiting] at hk
      rcases List.mem_append.1 hk with hk | hk
      · exact h.waiting e k hk
      · rw [List.mem_singleton.1 hk]
        exact hj

theorem All.finish (h : All Q r) (e : E) : All Q (r.finish e) := by
  rcases finish_started (r.stations e) with ⟨-, hfinish⟩ | ⟨j, line, hwaiting, hfinish⟩
  · refine h.turn (by rw [hfinish]; exact h.waiting e) ?_
    rw [hfinish, List.drop_length]
    exact List.forall_mem_nil _
  · have hw := h.waiting e
    rw [hwaiting] at hw
    refine h.turn (fun k hk => ?_) ?_
    · rw [hfinish] at hk
      exact hw k (List.mem_cons_of_mem _ hk)
    · rw [hfinish]
      simp only [Server.start, List.drop_left]
      exact List.forall_mem_singleton.2 (hw j (List.mem_cons_self ..))

omit [DecidableEq E] in
theorem All.land (h : All Q r) (i : Nat) : All Q (r.land i) :=
  ⟨h.waiting, fun j hj => h.flight j (List.mem_of_mem_eraseIdx hj)⟩

/-! ## Running dry -/

/-- What is still to do at a station: a job that waits has to be started, and then counts as one under way. -/
def tasks (rank : J → Nat) (s : Server J) : List Nat :=
  (s.waiting.map fun j => 2 * rank j + 2) ++ if s.serving.isSome then [1] else []

def work (es : List E) (rank : J → Nat) (r : Relay E J K) : Nat :=
  ((es.flatMap fun e => tasks rank (r.stations e)) ++ r.flight.map fun j => 2 * rank j + 1).sum

variable {rank : J → Nat}

omit [DecidableEq E] in
theorem work_idle : (idle : Relay E J K).work es rank = 0 := by
  have htasks : (es.flatMap fun _ => ([] : List Nat)) = [] := List.flatMap_eq_nil_iff.2 fun _ _ => rfl
  show ((es.flatMap fun _ => ([] : List Nat)) ++ []).sum = 0
  rw [htasks]
  rfl

theorem turn_work (hn : es.Nodup) {e : E} (he : e ∈ es) (s : Server J) :
    (r.turn e s).work es rank + (tasks rank (r.stations e)).sum = r.work es rank + (tasks rank s).sum +
      ((s.started.drop (r.stations e).started.length).map fun j => 2 * rank j + 1).sum := by
  have h := (flatMap_update (tasks rank) hn he r.stations s).sum_eq
  show ((es.flatMap fun x => tasks rank (Function.update r.stations e s x)) ++
    (r.flight ++ s.started.drop (r.stations e).started.length).map fun j => 2 * rank j + 1).sum + _ = _
  unfold work
  simp only [List.sum_append, List.map_append] at h ⊢
  omega

/-- A new job makes work, at most that of one that waits. -/
theorem offer_work (hn : es.Nodup) {via : Option E} (hv : ∀ e ∈ via, e ∈ es) (j : J) :
    (r.offer via j).work es rank ≤ r.work es rank + (2 * rank j + 2) := by
  cases via with
  | none =>
    show ((es.flatMap fun x => tasks rank (r.stations x)) ++ (r.flight ++ [j]).map fun j => 2 * rank j + 1).sum ≤ _
    unfold work
    simp only [List.map_append, List.sum_append, List.map_cons, List.map_nil, List.sum_cons, List.sum_nil]
    omega
  | some e =>
    have h := @turn_work _ _ _ _ es r rank hn e (hv e rfl) ((r.stations e).submit j)
    show (r.turn e ((r.stations e).submit j)).work es rank ≤ _
    rcases submit_started (r.stations e) j with ⟨hs, hstarted, hwaiting⟩ | ⟨hs, hstarted, hwaiting⟩
    · have hserving : ((r.stations e).submit j).serving.isSome = true := by
        unfold Server.submit
        rw [hs]
        rfl
      unfold tasks at h
      rw [hstarted, hwaiting, List.drop_left, hserving, hs] at h
      simp only [List.sum_append, List.map_cons, List.map_nil, List.sum_cons, List.sum_nil, if_true, Option.isSome_none,
        Bool.false_eq_true, if_false] at h
      omega
    · have hserving : ((r.stations e).submit j).serving = (r.stations e).serving := by
        obtain ⟨k, hk⟩ := Option.ne_none_iff_exists'.1 hs
        unfold Server.submit
        rw [hk]
      unfold tasks at h
      rw [hstarted, hwaiting, List.drop_length, hserving] at h
      simp only [List.map_append, List.sum_append, List.map_cons, List.map_nil, List.sum_cons, List.sum_nil] at h
      omega

theorem finish_work (hn : es.Nodup) {e : E} (he : e ∈ es) (hs : (r.stations e).serving ≠ none) :
    (r.finish e).work es rank < r.work es rank := by
  have h := @turn_work _ _ _ _ es r rank hn e he (r.stations e).finish
  have hserving := Option.isSome_iff_ne_none.2 hs
  show (r.turn e (r.stations e).finish).work es rank < _
  generalize r.turn e (r.stations e).finish = r' at h ⊢
  unfold tasks at h
  rw [hserving] at h
  rcases finish_started (r.stations e) with ⟨hwaiting, hfinish⟩ | ⟨j, line, hwaiting, hfinish⟩
  · rw [hfinish, hwaiting, List.drop_length] at h
    simp only [List.map_nil, List.nil_append, if_true, List.sum_cons, List.sum_nil, Option.isSome_none,
      Bool.false_eq_true, if_false] at h
    omega
  · rw [hfinish, hwaiting] at h
    simp only [Server.start, List.drop_left, Option.isSome_some, if_true, List.map_cons, List.map_nil, List.sum_append,
      List.sum_cons, List.sum_nil] at h
    omega

omit [DecidableEq E] in
theorem land_work {i : Nat} {j : J} (hj : r.flight[i]? = some j) :
    (r.land i).work es rank + (2 * rank j + 1) = r.work es rank := by
  obtain ⟨hi, rfl⟩ := List.getElem?_eq_some_iff.1 hj
  have h := ((List.getElem_cons_eraseIdx_perm hi).map fun j => 2 * rank j + 1).sum_eq
  show ((es.flatMap fun e => tasks rank (r.stations e)) ++ (r.flight.eraseIdx i).map fun j => 2 * rank j + 1).sum + _ = _
  unfold work
  rw [List.map_cons, List.sum_cons] at h
  rw [List.sum_append, List.sum_append]
  omega

/-- Passing a job on takes from the work if the job loses rank. -/
theorem pass_work (hn : es.Nodup) {i : Nat} {via : Option E} {j j' : J} (hj : r.flight[i]? = some j)
    (hv : ∀ e ∈ via, e ∈ es) (hrank : rank j' < rank j) : ((r.land i).offer via j').work es rank < r.work es rank := by
  have hoffer := @offer_work _ _ _ _ es (r.land i) rank hn via hv j'
  have hland := @land_work _ _ _ es r rank i j hj
  omega

omit [DecidableEq E] in
theorem leave_work {i : Nat} {j : J} (hj : r.flight[i]? = some j) (k : K) :
    ((r.land i).leave k).work es rank < r.work es rank := by
  have hland := @land_work _ _ _ es r rank i j hj
  show (r.land i).work es rank < _
  omega

end Relay

/-! ## Coming to rest -/

/-- Where the steps so far are counted and bounded, and nothing is stuck before it rests, it comes to rest. -/
theorem comes_to_rest {α : Type} {next : α → α → Prop} {rests : α → Prop} (reached : α → Nat → Prop) (bound : Nat)
    (hbound : ∀ a n, reached a n → n ≤ bound)
    (hnext : ∀ a n, reached a n → ¬ rests a → ∃ a', next a a' ∧ reached a' (n + 1)) {a : α} {n : Nat} (h : reached a n) :
    ∃ a', Relation.ReflTransGen next a a' ∧ rests a' := by
  -- every step takes one from what is left up to the bound
  induction hm : bound - n using Nat.strong_induction_on generalizing a n with
  | _ m ih =>
    by_cases hrests : rests a
    · exact ⟨a, .refl, hrests⟩
    · obtain ⟨a₁, hstep, h₁⟩ := hnext a n h hrests
      have hle := hbound a₁ (n + 1) h₁
      obtain ⟨a', hrun, hrests'⟩ := ih (bound - (n + 1)) (by omega) h₁ rfl
      exact ⟨a', .head hstep hrun, hrests'⟩

end SatNet
