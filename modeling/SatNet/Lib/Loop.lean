/-
Loops of an imperative program in an error monad, with one rule for each: a counted loop, a loop
over a list, and a `while` loop that is given as many rounds as its measure allows.
-/
import Mathlib.Logic.Basic
import Mathlib.Data.List.Basic
import Mathlib.Data.List.Forall2

namespace SatNet.Loop

variable {ε σ τ α : Type}

/-! ## Running in the error monad -/

theorem bind_ok {x : Except ε σ} {f : σ → Except ε τ} {b : τ} (h : x >>= f = .ok b) :
    ∃ a, x = .ok a ∧ f a = .ok b := by
  cases x with
  | error e => cases h
  | ok a => exact ⟨a, rfl, h⟩

theorem bind_eq_ok {x : Except ε σ} {f : σ → Except ε τ} {b : τ} :
    x >>= f = .ok b ↔ ∃ a, x = .ok a ∧ f a = .ok b :=
  ⟨bind_ok, fun ⟨_, ha, hf⟩ => by rw [ha]; exact hf⟩

theorem ite_error_eq_ok {c : Prop} [Decidable c] {e : ε} {x : Except ε σ} {b : σ} :
    (if c then .error e else x) = .ok b ↔ ¬ c ∧ x = .ok b := by
  split <;> simp [*]

theorem ok_of_isOk : ∀ {x : Except ε σ}, x.isOk = true → ∃ a, x = .ok a
  | .ok a, _ => ⟨a, rfl⟩

-- `rfl` is bracketed so that `simp` rewrites with these two: left to the kernel, a step can unfold both sides
theorem ok_bind (a : σ) (f : σ → Except ε τ) : ((.ok a : Except ε σ) >>= f) = f a := (rfl)

theorem error_bind (e : ε) (f : σ → Except ε τ) : ((.error e : Except ε σ) >>= f) = .error e := (rfl)

theorem bind_ne_error {x : Except ε σ} {f : σ → Except ε τ} {e : ε} (hx : x ≠ .error e)
    (hf : ∀ a, f a ≠ .error e) : x >>= f ≠ .error e := by
  cases x with
  | error e' =>
    intro h
    cases h
    exact hx rfl
  | ok a => exact hf a

/-! ## Counted loops -/

/-- `for (i = 0; i < n; i++) s = body(i, s);` -/
def forRange : Nat → (Nat → σ → Except ε σ) → σ → Except ε σ
  | 0, _, s => .ok s
  | n + 1, body, s => forRange n body s >>= body n

/-- A counted loop whose body never fails on the invariant ends, in the invariant at the bound. -/
theorem forRange_inv (P : Nat → σ → Prop) (body : Nat → σ → Except ε σ) :
    ∀ (n : Nat) (s : σ), P 0 s →
      (∀ i < n, ∀ s, P i s → ∃ s', body i s = .ok s' ∧ P (i + 1) s') →
      ∃ s', forRange n body s = .ok s' ∧ P n s'
  | 0, s, h0, _ => ⟨s, rfl, h0⟩
  | n + 1, s, h0, hb => by
    obtain ⟨s₁, h₁, p₁⟩ := forRange_inv P body n s h0 fun i hi => hb i (by omega)
    obtain ⟨s₂, h₂, p₂⟩ := hb n (by omega) s₁ p₁
    exact ⟨s₂, by rw [forRange, h₁]; exact h₂, p₂⟩

/-- A counted loop that ended keeps an invariant. -/
theorem forRange_pre (body : Nat → σ → Except ε σ) (P : σ → Prop)
    (hb : ∀ i s s', P s → body i s = .ok s' → P s') :
    ∀ (n : Nat) (s s' : σ), P s → forRange n body s = .ok s' → P s'
  | 0, s, s', h0, h => by cases h; exact h0
  | n + 1, s, s', h0, h => by
    obtain ⟨s₁, h₁, h₂⟩ := bind_ok h
    exact hb n s₁ s' (forRange_pre body P hb n s s₁ h0 h₁) h₂

/-- Two counted loops one after the other, the second of which counts on. -/
theorem forRange_add (body : Nat → σ → Except ε σ) (m : Nat) :
    ∀ (n : Nat) (s : σ), forRange (m + n) body s = forRange m body s >>= forRange n fun i => body (m + i)
  | 0, s => by
    rw [Nat.add_zero]
    cases forRange m body s <;> rfl
  | n + 1, s => by
    rw [Nat.add_succ, forRange, forRange_add body m n]
    cases forRange m body s <;> rfl

/-- A counted loop fails as the first round that fails. -/
theorem forRange_error {body : Nat → σ → Except ε σ} {m : Nat} {s s' : σ} {e : ε} (h : forRange m body s = .ok s')
    (he : body m s' = .error e) (n : Nat) : forRange (m + 1 + n) body s = .error e := by
  rw [forRange_add, forRange, h, ok_bind, he, error_bind]

/-- The pure counted loop. -/
def iterRange : Nat → (Nat → τ → τ) → τ → τ
  | 0, _, t => t
  | n + 1, f, t => f n (iterRange n f t)

/-- A counted loop follows a pure one along a relation that every round keeps. -/
theorem forRange_sim (R : σ → τ → Prop) (body : Nat → σ → Except ε σ) (f : Nat → τ → τ) :
    ∀ (n : Nat) (s : σ) (t : τ), R s t →
      (∀ i < n, ∀ s t, R s t → ∃ s', body i s = .ok s' ∧ R s' (f i t)) →
      ∃ s', forRange n body s = .ok s' ∧ R s' (iterRange n f t)
  | 0, s, t, h0, _ => ⟨s, rfl, h0⟩
  | n + 1, s, t, h0, hb => by
    obtain ⟨s₁, h₁, p₁⟩ := forRange_sim R body f n s t h0 fun i hi => hb i (by omega)
    obtain ⟨s₂, h₂, p₂⟩ := hb n (by omega) s₁ _ p₁
    exact ⟨s₂, by rw [forRange, h₁]; exact h₂, p₂⟩

theorem iterRange_eq_foldl (f : Nat → τ → τ) (t : τ) :
    ∀ n, iterRange n f t = (List.range n).foldl (fun t i => f i t) t
  | 0 => rfl
  | n + 1 => by rw [iterRange, iterRange_eq_foldl f t n, List.range_succ, List.foldl_concat]

/-! ## Loops over a list -/

/-- `for (x : l) s = body(s, x);` -/
def forEach (body : σ → α → Except ε σ) : List α → σ → Except ε σ
  | [], s => .ok s
  | x :: l, s => body s x >>= forEach body l

theorem forEach_append (body : σ → α → Except ε σ) :
    ∀ (l m : List α) (s : σ), forEach body (l ++ m) s = forEach body l s >>= forEach body m
  | [], _, _ => rfl
  | x :: l, m, s => by
    simp only [List.cons_append, forEach]
    cases h : body s x with
    | error e => rfl
    | ok s' => exact forEach_append body l m s'

theorem forEach_flatMap {β : Type} (body : σ → α → Except ε σ) (f : β → List α) :
    ∀ (l : List β) (s : σ), forEach body (l.flatMap f) s = forEach (fun s x => forEach body (f x) s) l s
  | [], _ => rfl
  | x :: l, s => by
    rw [List.flatMap_cons, forEach_append, funext (forEach_flatMap body f l)]
    rfl

/-- A loop over a list that ended keeps an invariant indexed by the processed prefix. -/
theorem forEach_pre (body : σ → α → Except ε σ) (P : List α → σ → Prop)
    (hb : ∀ done s x s', P done s → body s x = .ok s' → P (done ++ [x]) s') :
    ∀ (l done : List α) (s s' : σ), P done s → forEach body l s = .ok s' → P (done ++ l) s'
  | [], done, s, s', h0, h => by cases h; simpa using h0
  | x :: l, done, s, s', h0, h => by
    obtain ⟨s₁, h₁, h₂⟩ := bind_ok h
    simpa using forEach_pre body P hb l (done ++ [x]) s₁ s' (hb done s x s₁ h0 h₁) h₂

/-- A loop over a list whose body never fails on the invariant ends. -/
theorem forEach_inv (body : σ → α → Except ε σ) (P : List α → σ → Prop) :
    ∀ (l done : List α) (s : σ), P done s →
      (∀ x ∈ l, ∀ done s, P done s → ∃ s', body s x = .ok s' ∧ P (done ++ [x]) s') →
      ∃ s', forEach body l s = .ok s' ∧ P (done ++ l) s'
  | [], done, s, h0, _ => ⟨s, rfl, by simpa using h0⟩
  | x :: l, done, s, h0, hb => by
    obtain ⟨s₁, h₁, p₁⟩ := hb x (List.mem_cons_self ..) done s h0
    obtain ⟨s₂, h₂, p₂⟩ := forEach_inv body P l (done ++ [x]) s₁ p₁
      fun y hy => hb y (List.mem_cons_of_mem _ hy)
    exact ⟨s₂, by rw [forEach, h₁]; exact h₂, by simpa using p₂⟩

/-- A loop over a list ends in the invariant if no round fails on the invariant of what came before it. -/
theorem forEach_ends (body : σ → α → Except ε σ) (P : List α → σ → Prop) {l : List α}
    (hb : ∀ done x rest s, l = done ++ x :: rest → P done s → ∃ s', body s x = .ok s' ∧ P (done ++ [x]) s') :
    ∀ (rest done : List α) (s : σ), l = done ++ rest → P done s → ∃ s', forEach body rest s = .ok s' ∧ P l s'
  | [], done, s, hl, h0 => ⟨s, rfl, by rw [hl, List.append_nil]; exact h0⟩
  | x :: rest, done, s, hl, h0 => by
    obtain ⟨s₁, h₁, p₁⟩ := hb done x rest s hl h0
    rw [forEach, h₁, ok_bind]
    exact forEach_ends body P hb rest (done ++ [x]) s₁ (by simpa using hl) p₁

/-- A loop over the elements and their places. -/
theorem forEach_zipIdx (body : σ → α × Nat → Except ε σ) (P : List α → σ → Prop) {l : List α} {s : σ} (h0 : P [] s)
    (hb : ∀ done x rest s, l = done ++ x :: rest → P done s →
      ∃ s', body s (x, done.length) = .ok s' ∧ P (done ++ [x]) s') :
    ∃ s', forEach body l.zipIdx s = .ok s' ∧ P l s' := by
  have hround : ∀ (done : List (α × Nat)) (x : α × Nat) (rest : List (α × Nat)) (s : σ), l.zipIdx = done ++ x :: rest →
      P (done.map Prod.fst) s → ∃ s', body s x = .ok s' ∧ P ((done ++ [x]).map Prod.fst) s' := by
    intro done x rest s hl hs
    obtain ⟨x, i⟩ := x
    have hx : l.zipIdx[done.length]? = some (x, i) := by simp [hl]
    have hmap := congrArg (List.map Prod.fst) hl
    rw [List.zipIdx_map_fst, List.map_append, List.map_cons] at hmap
    obtain ⟨s', hr, hs'⟩ := hb _ _ _ s hmap hs
    rw [List.getElem?_zipIdx, Option.map_eq_some_iff] at hx
    obtain ⟨_, -, he⟩ := hx
    obtain ⟨rfl, rfl⟩ := Prod.mk.inj he
    rw [List.length_map] at hr
    exact ⟨s', by simpa using hr, by rw [List.map_append]; exact hs'⟩
  obtain ⟨s', hloop, hs'⟩ := forEach_ends body (fun done => P (done.map Prod.fst)) hround l.zipIdx [] s rfl h0
  rw [List.zipIdx_map_fst] at hs'
  exact ⟨s', hloop, hs'⟩

/-- A loop without a state ends exactly if every round does. -/
theorem forEach_unit {body : Unit → α → Except ε Unit} :
    ∀ {l : List α}, forEach body l () = .ok () ↔ ∀ x ∈ l, body () x = .ok ()
  | [] => by simp [forEach]
  | x :: l => by
    unfold forEach
    cases hx : body () x with
    | error e => simp [error_bind, hx]
    | ok u =>
      rw [ok_bind, forEach_unit]
      simp [hx]

/-- A loop of checks ends exactly if every element passes. -/
theorem forEach_check {p : α → Prop} [DecidablePred p] (e : α → ε) (l : List α) :
    forEach (fun (_ : Unit) x => if p x then .error (e x) else .ok ()) l () = .ok () ↔ ∀ x ∈ l, ¬ p x := by
  rw [forEach_unit]
  simp

/-- A loop fails only in ways that its rounds do. -/
theorem forEach_ne_error {body : σ → α → Except ε σ} {e : ε} : ∀ {l : List α} {s : σ},
    (∀ s, ∀ x ∈ l, body s x ≠ .error e) → forEach body l s ≠ .error e
  | [], _, _ => fun h => by cases h
  | x :: l, s, h => bind_ne_error (h s x (List.mem_cons_self ..)) fun _ =>
      forEach_ne_error fun s x hx => h s x (List.mem_cons_of_mem _ hx)

/-- A loop that reads a value of each element and folds it in ends exactly if all can be read. -/
theorem forEach_read {β : Type} (read : α → Except ε β) (f : σ → β → σ) :
    ∀ (l : List α) (s s' : σ), forEach (fun s x => do let v ← read x; .ok (f s v)) l s = .ok s' ↔
      ∃ vs, List.Forall₂ (fun x v => read x = .ok v) l vs ∧ s' = vs.foldl f s
  | [], s, s' => by simp [forEach, eq_comm]
  | x :: l, s, s' => by
    unfold forEach
    cases hx : read x with
    | error e =>
      simp only [error_bind, reduceCtorEq, false_iff]
      rintro ⟨_, h | ⟨h, -⟩, -⟩
      rw [hx] at h
      cases h
    | ok v =>
      simp only [ok_bind, forEach_read read f l, List.forall₂_cons_left_iff, hx, Except.ok.injEq]
      constructor
      · rintro ⟨vs, hvs, rfl⟩
        exact ⟨v :: vs, ⟨v, vs, rfl, hvs, rfl⟩, rfl⟩
      · rintro ⟨_, ⟨_, vs, rfl, hvs, rfl⟩, rfl⟩
        exact ⟨vs, hvs, rfl⟩

/-- Two lists that correspond element by element: each element of one has its partner in the other. -/
theorem forall₂_mem_left {β : Type} {R : α → β → Prop} {l : List α} {m : List β} (h : List.Forall₂ R l m) :
    ∀ x ∈ l, ∃ y ∈ m, R x y := by
  induction h with
  | nil => simp
  | cons hxy _ ih => simpa using ⟨.inl hxy, fun x hx => .inr (ih x hx)⟩

theorem forall₂_mem_right {β : Type} {R : α → β → Prop} {l : List α} {m : List β} (h : List.Forall₂ R l m) :
    ∀ y ∈ m, ∃ x ∈ l, R x y := forall₂_mem_left (R := fun y x => R x y) h.flip

theorem forall₂_exists {β : Type} {R : α → β → Prop} : ∀ {l : List α}, (∀ x ∈ l, ∃ y, R x y) →
    ∃ m, List.Forall₂ R l m
  | [], _ => ⟨[], .nil⟩
  | x :: l, h => by
    obtain ⟨y, hy⟩ := h x (List.mem_cons_self ..)
    obtain ⟨m, hm⟩ := forall₂_exists fun x hx => h x (List.mem_cons_of_mem _ hx)
    exact ⟨y :: m, .cons hy hm⟩

/-- The elements that are kept have partners of their own. -/
theorem forall₂_filter {β : Type} {R : α → β → Prop} {l : List α} {m : List β} (h : List.Forall₂ R l m)
    (keep : α → Bool) : ∃ m', List.Forall₂ R (l.filter keep) m' := by
  induction h with
  | nil => exact ⟨[], .nil⟩
  | @cons x y l m hxy _ ih =>
    obtain ⟨m', hm'⟩ := ih
    cases hk : keep x with
    | false => exact ⟨m', by simpa [hk] using hm'⟩
    | true => exact ⟨y :: m', by simpa [hk] using List.Forall₂.cons hxy hm'⟩

/-- A loop that collects the elements. -/
theorem foldl_collect (l acc : List α) : l.foldl (fun acc x => acc ++ [x]) acc = acc ++ l := by
  rw [List.foldl_append_eq_append, ← List.flatMap_def, List.flatMap_singleton']

/-- An entry of a list with one more at its end. -/
theorem getElem?_concat_iff {l : List α} {x y : α} {k : Nat} :
    (l ++ [x])[k]? = some y ↔ l[k]? = some y ∨ k = l.length ∧ x = y := by
  constructor
  · intro h
    rw [List.getElem?_append] at h
    split at h
    · exact .inl h
    · have hk := (List.getElem?_eq_some_iff.1 h).1
      obtain rfl : k = l.length := by simp only [List.length_singleton] at hk; omega
      rw [Nat.sub_self] at h
      exact .inr ⟨rfl, Option.some.inj h⟩
  · rintro (h | ⟨rfl, rfl⟩)
    · rw [List.getElem?_append_left (List.getElem?_eq_some_iff.1 h).1]
      exact h
    · exact List.getElem?_concat_length

/-- The partner of an element stands at the same place. -/
theorem forall₂_getElem? {β : Type} {R : α → β → Prop} {l : List α} {m : List β} (h : List.Forall₂ R l m) {i : Nat} {y : β}
    (hy : m[i]? = some y) : ∃ x, l[i]? = some x ∧ R x y := by
  induction h generalizing i with
  | nil => simp at hy
  | @cons x y' l m hxy _ ih =>
    cases i with
    | zero =>
      cases hy
      exact ⟨x, rfl, hxy⟩
    | succ i => exact ih hy

/-- Another partner for one element. -/
theorem forall₂_set {β : Type} {R : α → β → Prop} {l : List α} {m : List β} (h : List.Forall₂ R l m) {i : Nat} {x : α} {y : β}
    (hx : l[i]? = some x) (hxy : R x y) : List.Forall₂ R l (m.set i y) := by
  induction h generalizing i with
  | nil => exact .nil
  | @cons x' y' l m hxy' hrest ih =>
    cases i with
    | zero =>
      cases hx
      exact .cons hxy hrest
    | succ i => exact .cons hxy' (ih hx)

/-! ## While loops -/

/-- `while (cond(s)) s = body(s);`, cut off with the error `diverged` after `fuel` rounds. -/
def whileLoop (diverged : ε) (cond : σ → Bool) (body : σ → Except ε σ) : Nat → σ → Except ε σ
  | 0, s => if cond s then .error diverged else .ok s
  | fuel + 1, s => if cond s then body s >>= whileLoop diverged cond body fuel else .ok s

/-- A `while` loop whose body never fails on the invariant and lowers a measure ends in the
invariant with its condition false, as soon as the fuel is at least the measure. -/
theorem whileLoop_inv (diverged : ε) (cond : σ → Bool) (body : σ → Except ε σ) (I : σ → Prop)
    (μ : σ → Nat) (hb : ∀ s, I s → cond s = true → ∃ s', body s = .ok s' ∧ I s' ∧ μ s' < μ s) :
    ∀ (fuel : Nat) (s : σ), I s → μ s ≤ fuel →
      ∃ s', whileLoop diverged cond body fuel s = .ok s' ∧ I s' ∧ cond s' = false
  | 0, s, hi, hf => by
    cases hc : cond s with
    | false => exact ⟨s, by simp [whileLoop, hc], hi, hc⟩
    | true => obtain ⟨s', -, -, h⟩ := hb s hi hc; omega
  | fuel + 1, s, hi, hf => by
    cases hc : cond s with
    | false => exact ⟨s, by simp [whileLoop, hc], hi, hc⟩
    | true =>
      obtain ⟨s₁, h₁, i₁, hlt⟩ := hb s hi hc
      obtain ⟨s₂, h₂, i₂, c₂⟩ := whileLoop_inv diverged cond body I μ hb fuel s₁ i₁ (by omega)
      exact ⟨s₂, by simp only [whileLoop, hc, if_true, h₁]; exact h₂, i₂, c₂⟩

/-- A `while` loop that ended keeps what each of its rounds keeps, and its condition is false. -/
theorem whileLoop_keeps (diverged : ε) (cond : σ → Bool) (body : σ → Except ε σ) (I : σ → Prop)
    (hb : ∀ s s', I s → cond s = true → body s = .ok s' → I s') :
    ∀ (fuel : Nat) (s s' : σ), I s → whileLoop diverged cond body fuel s = .ok s' → I s' ∧ cond s' = false
  | 0, s, s', hi, h => by
    cases hc : cond s with
    | false =>
      rw [whileLoop, hc] at h
      cases h; exact ⟨hi, hc⟩
    | true => rw [whileLoop, hc] at h; cases h
  | fuel + 1, s, s', hi, h => by
    cases hc : cond s with
    | false =>
      rw [whileLoop, hc] at h
      cases h; exact ⟨hi, hc⟩
    | true =>
      rw [whileLoop, hc] at h
      obtain ⟨s₁, h₁, h⟩ := bind_ok h
      exact whileLoop_keeps diverged cond body I hb fuel s₁ s' (hb s s₁ hi hc h₁) h

/-- The number of rounds a `while` loop is given decides only whether it is cut off. -/
theorem whileLoop_ok_or (diverged : ε) (cond : σ → Bool) (body : σ → Except ε σ) :
    ∀ (fuel fuel' : Nat) (s s' : σ), whileLoop diverged cond body fuel s = .ok s' →
      whileLoop diverged cond body fuel' s = .ok s' ∨ whileLoop diverged cond body fuel' s = .error diverged
  | 0, fuel', s, s', h => by
    cases hc : cond s with
    | true => rw [whileLoop, hc] at h; cases h
    | false =>
      rw [whileLoop, hc] at h
      cases fuel' <;> simp only [whileLoop, hc] <;> exact .inl h
  | fuel + 1, fuel', s, s', h => by
    cases hc : cond s with
    | false =>
      rw [whileLoop, hc] at h
      cases fuel' <;> simp only [whileLoop, hc] <;> exact .inl h
    | true =>
      rw [whileLoop, hc] at h
      obtain ⟨s₁, h₁, h⟩ := bind_ok h
      cases fuel' with
      | zero => simp [whileLoop, hc]
      | succ fuel' =>
        simp only [whileLoop, hc, if_true, h₁]
        exact whileLoop_ok_or diverged cond body fuel fuel' s₁ s' h

/-- A `while` loop whose rounds never fail and keep its condition true is cut off, however many rounds it is given. -/
theorem whileLoop_diverges (diverged : ε) (cond : σ → Bool) (body : σ → Except ε σ) (I : σ → Prop)
    (hb : ∀ s, I s → cond s = true ∧ ∃ s', body s = .ok s' ∧ I s') :
    ∀ (fuel : Nat) (s : σ), I s → whileLoop diverged cond body fuel s = .error diverged
  | 0, s, hi => by simp [whileLoop, (hb s hi).1]
  | fuel + 1, s, hi => by
    obtain ⟨hc, s', hs, hi'⟩ := hb s hi
    simp only [whileLoop, hc, if_true, hs]
    exact whileLoop_diverges diverged cond body I hb fuel s' hi'

end SatNet.Loop
