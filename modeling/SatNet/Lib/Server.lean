/-
One server with a waiting line: a job that arrives at an idle server is started, one that arrives at a
busy server waits, and a server that finishes starts the job at the front of the line. In every run the
jobs are started in the order in which they arrived, each once.
-/
import Mathlib.Data.List.Basic

namespace SatNet

structure Server (J : Type) where
  serving : Option J
  waiting : List J
  started : List J
  deriving Repr, DecidableEq

namespace Server

variable {J : Type}

def idle : Server J := ⟨none, [], []⟩

def start (s : Server J) (j : J) (line : List J) : Server J := ⟨some j, line, s.started ++ [j]⟩

def submit (s : Server J) (j : J) : Server J :=
  match s.serving with
  | none => s.start j s.waiting
  | some _ => { s with waiting := s.waiting ++ [j] }

def finish (s : Server J) : Server J :=
  match s.waiting with
  | [] => { s with serving := none }
  | j :: line => s.start j line

/-- The states of the server, with the jobs that have arrived. -/
inductive Run : Server J → List J → Prop where
  | idle : Run idle []
  | submit {s arrived} (j : J) : Run s arrived → Run (s.submit j) (arrived ++ [j])
  | finish {s arrived} : Run s arrived → s.serving ≠ none → Run s.finish arrived

/-- Nobody waits at an idle server. -/
theorem Run.waiting_eq_nil {s : Server J} {arrived : List J} (h : Run s arrived) :
    s.serving = none → s.waiting = [] := by
  induction h with
  | idle => exact fun _ => rfl
  | @submit s arrived j _ ih =>
    intro hs
    unfold Server.submit at hs
    cases hj : s.serving <;> rw [hj] at hs <;> cases hs
  | @finish s arrived _ _ ih =>
    intro hs
    unfold Server.finish at hs ⊢
    cases hw : s.waiting with
    | nil => rfl
    | cons j line => rw [hw] at hs; cases hs

/-- The jobs are started in their order of arrival, and those not yet started wait in that order. -/
theorem Run.conserved {s : Server J} {arrived : List J} (h : Run s arrived) : s.started ++ s.waiting = arrived := by
  induction h with
  | idle => rfl
  | @submit s arrived j hr ih =>
    unfold Server.submit
    cases hj : s.serving with
    | none =>
      rw [hr.waiting_eq_nil hj, List.append_nil] at ih
      simp only [Server.start, hr.waiting_eq_nil hj, List.append_nil, ih]
    | some k => simp only [← List.append_assoc, ih]
  | @finish s arrived _ _ ih =>
    unfold Server.finish
    cases hw : s.waiting with
    | nil => rw [hw] at ih; simpa using ih
    | cons j line => rw [hw] at ih; simpa [Server.start] using ih

/-- The job being served is the last one started. -/
theorem Run.serving_last {s : Server J} {arrived : List J} (h : Run s arrived) {j : J} (hj : s.serving = some j) :
    s.started.getLast? = some j := by
  induction h with
  | idle => cases hj
  | @submit s arrived k hr ih =>
    unfold Server.submit at hj ⊢
    cases hs : s.serving with
    | none => rw [hs] at hj; cases hj; exact List.getLast?_concat
    | some i => rw [hs] at hj; exact ih (hs.trans hj)
  | @finish s arrived _ _ ih =>
    unfold Server.finish at hj ⊢
    cases hw : s.waiting with
    | nil => rw [hw] at hj; cases hj
    | cons k line => rw [hw] at hj; cases hj; exact List.getLast?_concat

/-! ## Jobs by other names -/

def map {L : Type} (f : J → L) (s : Server J) : Server L := ⟨s.serving.map f, s.waiting.map f, s.started.map f⟩

variable {L : Type} (f : J → L)

theorem map_submit (s : Server J) (j : J) : (s.submit j).map f = (s.map f).submit (f j) := by
  obtain ⟨serving, waiting, started⟩ := s
  cases serving with
  | none => simp [submit, map, start]
  | some k => simp [submit, map]

theorem map_finish (s : Server J) : s.finish.map f = (s.map f).finish := by
  obtain ⟨serving, waiting, started⟩ := s
  cases waiting with
  | nil => rfl
  | cons j line => simp [finish, map, start]

end Server

end SatNet
