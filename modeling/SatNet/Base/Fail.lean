/-
How a call of the program can end without a result. Exceptions of the standard library carry
their text, `NS_ABORT_MSG` its message; what the language leaves undefined (a division by zero,
an access out of range, a signed overflow) is a failure of its own, and so is a loop that never ends.
-/
import SatNet.Lib.Loop

namespace SatNet

inductive Fail where
  | invalidArgument (what : String)
  | outOfRange (what : String)
  | runtimeError (what : String)
  | abort (message : String)
  | assertion (condition : String)
  | undefined (reason : String)
  | diverges
  deriving Repr, DecidableEq

abbrev Res := Except Fail

/-- A `std::string`: its characters, one for each byte. -/
abbrev Str := List Char

/-- The use of a null `Ptr`. -/
def nullPointer : Fail := .undefined "null pointer"

/-- `v[i]` of a `std::vector`: undefined past its end. -/
def index {α : Type} (v : List α) (i : Nat) : Res α :=
  match v[i]? with
  | some x => .ok x
  | none => .error (.undefined "vector index out of range")

/-- `v[i] = x` of a `std::vector`. -/
def setIndex {α : Type} (v : List α) (i : Nat) (x : α) : Res (List α) :=
  if i < v.length then .ok (v.set i x) else .error (.undefined "vector index out of range")

theorem index_ok {α : Type} {v : List α} {i : Nat} {x : α} : index v i = .ok x ↔ v[i]? = some x := by
  unfold index
  cases v[i]? <;> simp

theorem setIndex_ok {α : Type} {v v' : List α} {i : Nat} {x : α} :
    setIndex v i x = .ok v' ↔ i < v.length ∧ v' = v.set i x := by
  unfold setIndex
  split
  · rename_i h
    simp [h, eq_comm]
  · rename_i h
    simp [h]

theorem index_lt {α : Type} {v : List α} {i : Nat} (h : i < v.length) : index v i = .ok v[i] :=
  index_ok.2 (List.getElem?_eq_getElem h)

/-! ## Exceptions -/

/-- An exception of the standard library, which a caller can catch. -/
def Fail.isException : Fail → Bool
  | .invalidArgument _ => true
  | .outOfRange _ => true
  | .runtimeError _ => true
  | _ => false

/-- The call returns or throws: nothing in it is undefined or never ends. -/
def Defined {α : Type} (r : Res α) : Prop := ∀ e, r = .error e → e.isException = true

section Defined

variable {α β : Type}

theorem defined_ok (x : α) : Defined (.ok x : Res α) := by
  intro e he
  cases he

theorem defined_error {e : Fail} (h : e.isException = true) : Defined (.error e : Res α) := by
  intro e' he
  cases he
  exact h

theorem Defined.bind {r : Res α} {f : α → Res β} (h : Defined r) (hf : ∀ x, r = .ok x → Defined (f x)) :
    Defined (r >>= f) := by
  cases r with
  | error e => exact defined_error (h e rfl)
  | ok x => exact hf x rfl

/-- A loop is defined if every round is. -/
theorem defined_forEach {σ : Type} {body : σ → α → Res σ} : ∀ (l : List α) (s : σ), (∀ x ∈ l, ∀ s, Defined (body s x)) →
    Defined (Loop.forEach body l s)
  | [], s, _ => defined_ok s
  | x :: l, s, h => (h x (List.mem_cons_self ..) s).bind fun s' _ =>
    defined_forEach l s' fun y hy => h y (List.mem_cons_of_mem _ hy)

/-- The call throws an exception. -/
def Throws (r : Res α) : Prop := ∃ e, r = .error e ∧ e.isException = true

theorem Defined.throws {r : Res α} (h : Defined r) (hr : ∀ x, r ≠ .ok x) : Throws r := by
  cases r with
  | error e => exact ⟨e, rfl, h e rfl⟩
  | ok x => exact absurd rfl (hr x)

end Defined

/-! ## Reported failures -/

/-- The program itself stops the call: it throws, aborts, or one of its assertions fails. -/
def Fail.isReported : Fail → Bool
  | .undefined _ => false
  | .diverges => false
  | _ => true

/-- The call reports a failure or returns a value with `Q`. -/
def ReportsOr {α : Type} (Q : α → Prop) : Res α → Prop
  | .ok x => Q x
  | .error e => e.isReported = true

/-- The call reports a failure or returns. -/
def Reports {α : Type} (r : Res α) : Prop := ReportsOr (fun _ => True) r

section Reports

variable {α β : Type}

theorem reportsOr_bind {Q : β → Prop} {r : Res α} {f : α → Res β} :
    ReportsOr Q (r >>= f) ↔ ReportsOr (fun x => ReportsOr Q (f x)) r := by
  cases r <;> exact Iff.rfl

/-- Of a call that reports its failures only the value it returns is in question. -/
theorem Reports.reportsOr {r : Res α} (h : Reports r) {Q : α → Prop} : ReportsOr Q r ↔ ∀ x, r = .ok x → Q x := by
  cases r with
  | error e => exact ⟨fun _ x hx => (by cases hx), fun _ => h⟩
  | ok y =>
    constructor
    · rintro hQ x ⟨⟩
      exact hQ
    · intro hQ
      exact hQ y rfl

theorem ReportsOr.reports {Q : α → Prop} {r : Res α} (h : ReportsOr Q r) : Reports r := by
  cases r with
  | error e => exact h
  | ok x => exact trivial

theorem reports_bind {r : Res α} {f : α → Res β} :
    Reports (r >>= f) ↔ Reports r ∧ ∀ x, r = .ok x → Reports (f x) := by
  constructor
  · intro h
    have hr := (reportsOr_bind.1 h).reports
    exact ⟨hr, hr.reportsOr.1 (reportsOr_bind.1 h)⟩
  · rintro ⟨hr, hf⟩
    exact reportsOr_bind.2 (hr.reportsOr.2 hf)

theorem Reports.bind {r : Res α} {f : α → Res β} (h : Reports r) (hf : ∀ x, r = .ok x → Reports (f x)) :
    Reports (r >>= f) := reports_bind.2 ⟨h, hf⟩

/-- A loop reports its failures if every round does that starts in the invariant. -/
theorem reports_forEach {σ : Type} {body : σ → α → Res σ} (P : σ → Prop) (hb : ∀ s x, P s → Reports (body s x))
    (hp : ∀ s x s', P s → body s x = .ok s' → P s') : ∀ (l : List α) (s : σ), P s → Reports (Loop.forEach body l s)
  | [], _, _ => trivial
  | x :: l, s, h => (hb s x h).bind fun s' hs' => reports_forEach P hb hp l s' (hp s x s' h hs')

theorem Defined.reports {r : Res α} (h : Defined r) : Reports r := by
  cases r with
  | error e =>
    have he := h e rfl
    cases e with
    | undefined reason => exact he
    | diverges => exact he
    | _ => exact rfl
  | ok x => exact trivial

end Reports

end SatNet
