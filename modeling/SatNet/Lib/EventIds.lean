/-
Events with ids: an agenda on which every event has an id of its own, by which it can be cancelled.
-/
import SatNet.Lib.Events

namespace SatNet.Events

variable {ε : Type}

/-- An event with the id that it was scheduled under. -/
structure Issued (ε : Type) where
  id : Nat
  event : ε
  deriving Repr, DecidableEq

/-- The agenda without the event of an id, if it is one of an event at all. -/
def cancel (id : Option Nat) (l : List (Pending (Issued ε))) : List (Pending (Issued ε)) :=
  l.filter fun p => some p.event.id ≠ id

theorem mem_cancel {id : Option Nat} {l : List (Pending (Issued ε))} {p : Pending (Issued ε)} :
    p ∈ cancel id l ↔ p ∈ l ∧ some p.event.id ≠ id := by
  unfold cancel
  rw [List.mem_filter, decide_eq_true_eq]

def cancelAll (ids : List (Option Nat)) (l : List (Pending (Issued ε))) : List (Pending (Issued ε)) :=
  ids.foldl (fun l id => cancel id l) l

theorem mem_cancelAll {p : Pending (Issued ε)} : ∀ {ids : List (Option Nat)} {l : List (Pending (Issued ε))},
    p ∈ cancelAll ids l ↔ p ∈ l ∧ ∀ id ∈ ids, some p.event.id ≠ id
  | [], l => by simp [cancelAll]
  | id :: ids, l => by
    rw [show cancelAll (id :: ids) l = cancelAll ids (cancel id l) from rfl, mem_cancelAll, mem_cancel, and_assoc,
      List.forall_mem_cons]

/-- The ids on an agenda are different ones below the next one. -/
structure Fresh (next : Nat) (l : List (Pending (Issued ε))) : Prop where
  nodup : (l.map fun p => p.event.id).Nodup
  lt : ∀ p ∈ l, p.event.id < next

theorem Fresh.tail {next : Nat} {p : Pending (Issued ε)} {l : List (Pending (Issued ε))} (h : Fresh next (p :: l)) :
    Fresh next l :=
  ⟨(List.nodup_cons.1 h.nodup).2, fun q hq => h.lt q (List.mem_cons_of_mem _ hq)⟩

theorem Fresh.mono {next next' : Nat} {l : List (Pending (Issued ε))} (h : Fresh next l) (hle : next ≤ next') :
    Fresh next' l :=
  ⟨h.nodup, fun p hp => Nat.lt_of_lt_of_le (h.lt p hp) hle⟩

/-- An event is scheduled under the next id. -/
theorem Fresh.enqueue {next : Nat} {l : List (Pending (Issued ε))} (h : Fresh next l) (t : Nat) (e : ε) :
    Fresh (next + 1) (enqueue ⟨t, ⟨next, e⟩⟩ l) := by
  constructor
  · rw [((enqueue_perm _ l).map _).nodup_iff, List.map_cons, List.nodup_cons]
    refine ⟨fun hmem => ?_, h.nodup⟩
    obtain ⟨q, hq, he⟩ := List.mem_map.1 hmem
    exact Nat.ne_of_lt (h.lt q hq) he
  · intro p hp
    rcases mem_enqueue.1 hp with rfl | hp
    · exact Nat.lt_succ_self _
    · exact Nat.lt_succ_of_lt (h.lt p hp)

theorem Fresh.eq_of_id {next : Nat} {l : List (Pending (Issued ε))} (h : Fresh next l) {p q : Pending (Issued ε)}
    (hp : p ∈ l) (hq : q ∈ l) (hid : p.event.id = q.event.id) : p = q :=
  List.inj_on_of_nodup_map h.nodup hp hq hid

/-- Events that are all known by one id are at most one. -/
theorem Fresh.length_le_one {next : Nat} {l : List (Pending (Issued ε))} (h : Fresh next l)
    {P : Pending (Issued ε) → Bool} {id : Option Nat} (hid : ∀ p ∈ l, P p = true → some p.event.id = id) :
    (l.filter P).length ≤ 1 := by
  have hn : (l.filter P).Nodup := (List.Nodup.of_map _ h.nodup).filter _
  by_contra hlen
  have h₀ : 0 < (l.filter P).length := by omega
  have h₁ : 1 < (l.filter P).length := by omega
  obtain ⟨hm₀, hp₀⟩ := List.mem_filter.1 (List.getElem_mem h₀)
  obtain ⟨hm₁, hp₁⟩ := List.mem_filter.1 (List.getElem_mem h₁)
  have heq := h.eq_of_id hm₀ hm₁ (Option.some.inj ((hid _ hm₀ hp₀).trans (hid _ hm₁ hp₁).symm))
  exact absurd ((List.Nodup.getElem_inj_iff hn).1 heq) (by decide)

theorem Fresh.not_mem_tail {next : Nat} {p q : Pending (Issued ε)} {l : List (Pending (Issued ε))}
    (h : Fresh next (p :: l)) (hq : q ∈ l) : q.event.id ≠ p.event.id := by
  intro he
  exact (List.nodup_cons.1 h.nodup).1 (List.mem_map.2 ⟨q, hq, he⟩)

end SatNet.Events
