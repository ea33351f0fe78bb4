/-
Calls of an object that may throw: the result or exception together with the state the object is left
in, so that what a failed call changed stays visible. Two calls are oblivious when their results do
not depend on the states they start from.
-/
import Mathlib.Logic.Basic
import Mathlib.Tactic.ByContra

namespace SatNet

/-- A call on an object of state `σ`. -/
structure Call (ε σ α : Type) where
  run : σ → Except ε α × σ

namespace Call

variable {ε σ α β : Type}

instance : Monad (Call ε σ) where
  pure a := ⟨fun s => (.ok a, s)⟩
  bind c f := ⟨fun s =>
    match c.run s with
    | (.ok a, s') => (f a).run s'
    | (.error e, s') => (.error e, s')⟩

/-- A computation that does not touch the object. -/
def lift (r : Except ε α) : Call ε σ α := ⟨fun s => (r, s)⟩

def throw (e : ε) : Call ε σ α := lift (.error e)

def get : Call ε σ σ := ⟨fun s => (.ok s, s)⟩

def set (s' : σ) : Call ε σ Unit := ⟨fun _ => (.ok (), s')⟩

/-! ## Running -/

theorem run_bind (c : Call ε σ α) (f : α → Call ε σ β) (s : σ) :
    (c >>= f).run s = match c.run s with
      | (.ok a, s') => (f a).run s'
      | (.error e, s') => (.error e, s') := rfl

@[simp] theorem run_lift (r : Except ε α) (s : σ) : (lift r : Call ε σ α).run s = (r, s) := rfl

@[simp] theorem run_get_bind (f : σ → Call ε σ β) (s : σ) : (get >>= f).run s = (f s).run s := rfl

@[simp] theorem run_set_bind (s' : σ) (f : Unit → Call ε σ β) (s : σ) : (set s' >>= f).run s = (f ()).run s' := rfl

@[simp] theorem run_lift_ok_bind (a : α) (f : α → Call ε σ β) (s : σ) :
    (lift (.ok a) >>= f).run s = (f a).run s := rfl

theorem run_bind_eq {c : Call ε σ α} {s s' : σ} {a : α} (h : c.run s = (.ok a, s')) (f : α → Call ε σ β) :
    (c >>= f).run s = (f a).run s' := by rw [run_bind, h]

theorem run_bind_error {c : Call ε σ α} {s s' : σ} {e : ε} (h : c.run s = (.error e, s')) (f : α → Call ε σ β) :
    (c >>= f).run s = (.error e, s') := by rw [run_bind, h]

/-! ## Calls that throw before they change anything -/

/-- The call throws from `s` exactly if `P`, and then leaves the object as it is. -/
structure Guarded (P : Prop) (c : Call ε σ α) (s : σ) : Prop where
  throws : P → ∃ e, c.run s = (.error e, s)
  ends : ¬ P → ∃ a s', c.run s = (.ok a, s')

theorem Guarded.error_iff {P : Prop} {c : Call ε σ α} {s : σ} (h : Guarded P c s) :
    (∃ e s', c.run s = (.error e, s')) ↔ P := by
  constructor
  · rintro ⟨e, s', he⟩
    by_contra hp
    obtain ⟨a, t, hok⟩ := h.ends hp
    rw [hok] at he
    cases he
  · intro hp
    obtain ⟨e, he⟩ := h.throws hp
    exact ⟨e, s, he⟩

theorem Guarded.unchanged {P : Prop} {c : Call ε σ α} {s s' : σ} {e : ε} (h : Guarded P c s)
    (he : c.run s = (.error e, s')) : s' = s := by
  obtain ⟨e', hthrow⟩ := h.throws (h.error_iff.1 ⟨e, s', he⟩)
  rw [hthrow] at he
  cases he
  rfl

/-! ## Results that do not depend on the state -/

/-- The two calls have the same result whatever the states they start from. -/
def Oblivious (c c' : Call ε σ α) : Prop := ∀ s s', (c.run s).1 = (c'.run s').1

theorem oblivious_lift (r : Except ε α) : Oblivious (lift r : Call ε σ α) (lift r) := fun _ _ => rfl

theorem oblivious_pure (a : α) : Oblivious (pure a : Call ε σ α) (pure a) := fun _ _ => rfl

/-- Oblivious calls in sequence are oblivious. -/
theorem Oblivious.bind {c c' : Call ε σ α} {f f' : α → Call ε σ β} (h : Oblivious c c')
    (hf : ∀ a, Oblivious (f a) (f' a)) : Oblivious (c >>= f) (c' >>= f') := by
  intro s s'
  have hc := h s s'
  rw [run_bind, run_bind]
  generalize c.run s = x at hc ⊢
  generalize c'.run s' = y at hc ⊢
  obtain ⟨r, t⟩ := x
  obtain ⟨r', t'⟩ := y
  obtain rfl : r = r' := hc
  cases r with
  | error e => rfl
  | ok a => exact hf a t t'

/-! ## What a call leaves as it is, and what it returns -/

section Keeps

variable {γ : Type} {f : σ → γ}

/-- The call leaves `f` of the object as it is, also when it throws. -/
def Keeps (f : σ → γ) (c : Call ε σ α) (s : σ) : Prop := f (c.run s).2 = f s

theorem keeps_lift (r : Except ε α) (s : σ) : Keeps f (lift r) s := rfl

theorem keeps_pure (a : α) (s : σ) : Keeps f (pure a : Call ε σ α) s := rfl

theorem keeps_set {s s' : σ} (h : f s' = f s) : Keeps f (set s' : Call ε σ Unit) s := h

theorem keeps_get_bind {g : σ → Call ε σ α} {s : σ} (h : Keeps f (g s) s) : Keeps f (get >>= g) s := h

theorem keeps_set_bind {g : Unit → Call ε σ α} {s s' : σ} (h : f s' = f s) (hg : Keeps f (g ()) s') :
    Keeps f (set s' >>= g) s := Eq.trans hg h

theorem keeps_lift_bind {r : Except ε β} {g : β → Call ε σ α} {s : σ} (h : ∀ a, Keeps f (g a) s) :
    Keeps f (lift r >>= g) s := by
  cases r with
  | error e => rfl
  | ok a => exact h a

theorem Keeps.bind {c : Call ε σ α} {g : α → Call ε σ β} {s : σ} (h : Keeps f c s) (hg : ∀ a s', Keeps f (g a) s') :
    Keeps f (c >>= g) s := by
  unfold Keeps at h ⊢
  rw [run_bind]
  generalize c.run s = x at h ⊢
  obtain ⟨r, s'⟩ := x
  cases r with
  | error e => exact h
  | ok a => exact (hg a s').trans h

/-- What the call returns, from whatever state, satisfies `P`. -/
def Returns (P : α → Prop) (c : Call ε σ α) : Prop := ∀ s a s', c.run s = (.ok a, s') → P a

theorem Returns.run {P : α → Prop} {c : Call ε σ α} {s s' : σ} {a : α} (hrun : c.run s = (.ok a, s')) (h : Returns P c) :
    P a :=
  h s a s' hrun

theorem returns_pure {P : α → Prop} {a : α} (h : P a) : Returns P (pure a : Call ε σ α) := by
  intro s b s' hb
  cases hb
  exact h

theorem returns_throw {P : α → Prop} (e : ε) : Returns P (throw e : Call ε σ α) := by
  intro s b s' hb
  cases hb

theorem Returns.bind {P : β → Prop} {c : Call ε σ α} {g : α → Call ε σ β} (h : ∀ a, Returns P (g a)) :
    Returns P (c >>= g) := by
  intro s b s' hb
  rw [run_bind] at hb
  generalize c.run s = x at hb
  obtain ⟨r, t⟩ := x
  cases r with
  | error e => cases hb
  | ok a => exact h a t b s' hb

end Keeps

end Call

end SatNet
