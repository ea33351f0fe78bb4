/-
Run-length encoders: a loop over a list that looks one element ahead and closes the current run at the last element
and wherever the next one is cut off. Its rule hands out the runs one by one; together they are `List.splitBy`.
-/
import SatNet.Lib.Loop
import Mathlib.Data.List.SplitBy

namespace SatNet.RunLength

variable {ε σ α : Type}

/-- A run ends with an element that is the last one or cut off from the next. -/
def closes (cut : α → α → Bool) (x : α) : List α → Bool
  | [] => true
  | y :: _ => cut x y

/-- The maximal runs that are not cut. -/
def runs (cut : α → α → Bool) (l : List α) : List (List α) := l.splitBy fun x y => !cut x y

/-- `for (j = 0; j < l.size(); j++) s = body(s, l[j]);`, where the body may look at what follows. -/
def lookahead (body : σ → α → List α → Except ε σ) : List α → σ → Except ε σ
  | [], s => .ok s
  | x :: rest, s => body s x rest >>= lookahead body rest

/-! ## The runs -/

section Runs

variable {cut : α → α → Bool}

/-- The runs are those lists that make up the list, are not cut anywhere, and are cut off from one another. -/
theorem runs_eq_iff {l : List α} {gs : List (List α)} :
    runs cut l = gs ↔ l = gs.flatten ∧ [] ∉ gs ∧ (∀ g ∈ gs, g.IsChain fun x y => cut x y = false) ∧
      gs.IsChain fun g h => ∃ hg hh, cut (g.getLast hg) (h.head hh) = true := by
  unfold runs
  rw [List.splitBy_eq_iff]
  simp only [Bool.not_eq_eq_eq_not, Bool.not_true, Bool.not_false]

theorem runs_concat {g : List α} {rest : List α} (hne : g ≠ []) (hg : g.IsChain fun x y => cut x y = false)
    (hc : closes cut (g.getLast hne) rest = true) : runs cut (g ++ rest) = g :: runs cut rest := by
  unfold runs
  rw [List.splitBy_append]
  · rw [List.splitBy_of_isChain hne (hg.imp fun x y h => by simp [h]), List.singleton_append]
  · intro x hx y hy
    cases rest with
    | nil => cases hy
    | cons z rest =>
      cases hy
      rw [List.getLast?_eq_getLast_of_ne_nil hne] at hx
      cases hx
      simpa [closes] using hc

end Runs

/-! ## The rule of the loop -/

/-- A loop whose state stands for the runs that are closed and the elements of the open one ends with all runs
closed. -/
theorem lookahead_runs (cut : α → α → Bool) (body : σ → α → List α → Except ε σ)
    (I : List (List α) → List α → σ → Prop) (l : List α)
    (hb : ∀ closed pre x rest s, closed.flatten ++ (pre ++ x :: rest) = l → I closed pre s →
      ∃ s', body s x rest = .ok s' ∧
        if closes cut x rest then I (closed ++ [pre ++ [x]]) [] s' else I closed (pre ++ [x]) s')
    {s : σ} (h0 : I [] [] s) : ∃ s', lookahead body l s = .ok s' ∧ I (runs cut l) [] s' := by
  -- the open run is not cut, up to the next element
  have hloop : ∀ (rest : List α) (closed : List (List α)) (pre : List α) (s : σ),
      closed.flatten ++ (pre ++ rest) = l → (rest = [] → pre = []) →
      (∀ x ∈ rest.head?, (pre ++ [x]).IsChain fun x y => cut x y = false) → I closed pre s →
      ∃ s', lookahead body rest s = .ok s' ∧ I (closed ++ runs cut (pre ++ rest)) [] s' := by
    intro rest
    induction rest with
    | nil =>
      intro closed pre s hl hpre _ hi
      obtain rfl := hpre rfl
      exact ⟨s, rfl, by simpa [runs] using hi⟩
    | cons x rest ih =>
      intro closed pre s hl _ hchain hi
      have hx := hchain x rfl
      obtain ⟨s₁, hrun, hi₁⟩ := hb closed pre x rest s hl hi
      unfold lookahead
      rw [hrun, Loop.ok_bind]
      by_cases hc : closes cut x rest = true
      · rw [if_pos hc] at hi₁
        obtain ⟨s', hloop, hi'⟩ := ih (closed ++ [pre ++ [x]]) [] s₁ (by simpa using hl) (fun _ => rfl)
          (fun y _ => List.isChain_singleton y) hi₁
        refine ⟨s', hloop, ?_⟩
        have hruns := @runs_concat _ cut (pre ++ [x]) rest (by simp) hx (by simpa using hc)
        rw [List.append_assoc, List.singleton_append] at hruns
        rw [hruns]
        simpa using hi'
      · rw [if_neg hc] at hi₁
        cases rest with
        | nil => exact absurd rfl hc
        | cons y rest =>
          have hnext : (pre ++ [x] ++ [y]).IsChain fun x y => cut x y = false := by
            refine List.isChain_append.2 ⟨hx, List.isChain_singleton y, ?_⟩
            intro a ha b hb
            rw [List.getLast?_concat] at ha
            cases ha
            cases hb
            simpa [closes] using hc
          obtain ⟨s', hloop, hi'⟩ := ih closed (pre ++ [x]) s₁ (by simpa using hl) nofun
            (fun z hz => by cases hz; exact hnext) hi₁
          exact ⟨s', hloop, by simpa using hi'⟩
  have h := hloop l [] [] s rfl (fun _ => rfl) (fun x _ => List.isChain_singleton x) h0
  simpa using h

end SatNet.RunLength
