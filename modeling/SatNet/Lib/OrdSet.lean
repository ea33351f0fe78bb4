/-
Ordered sets and maps kept as lists with strictly increasing keys: insertion, the set of a list, the map of a
list of entries, and the counting arguments that the set of a list is as long as the list exactly when nothing
occurs twice, and that different elements of a list are all of them when there are as many.
-/
import Mathlib.Data.List.Dedup
import Mathlib.Data.List.Induction
import Mathlib.Data.List.Perm.Basic
import Mathlib.Data.List.Perm.Subperm
import Mathlib.Data.List.Nodup
import Mathlib.Order.Lattice

namespace SatNet.OrdSet

variable {α : Type}

/-- Elements whose values differ pairwise differ pairwise. -/
theorem nodup_of_forall₂ {β : Type} {r : α → β → Prop} (hr : ∀ a b c, r a b → r a c → b = c) {l : List α} {m : List β}
    (h : List.Forall₂ r l m) (hn : m.Nodup) : l.Nodup := by
  induction h with
  | nil => exact List.nodup_nil
  | cons hab hrest ih =>
    rename_i l m
    rw [List.nodup_cons] at hn ⊢
    refine ⟨fun ha => hn.1 ?_, ih hn.2⟩
    obtain ⟨i, hi, rfl⟩ := List.getElem_of_mem ha
    have hj : i < m.length := by rw [← hrest.length_eq]; exact hi
    rw [hr _ _ _ hab (List.forall₂_iff_get.1 hrest |>.2 i hi hj)]
    exact List.getElem_mem _

/-- A strict total order, as a set of the source is ordered by. -/
structure StrictTotal (lt : α → α → Prop) : Prop where
  irrefl : ∀ a, ¬ lt a a
  trans : ∀ {a b c}, lt a b → lt b c → lt a c
  total : ∀ {a b}, ¬ lt a b → ¬ lt b a → a = b

theorem strictTotal_lt [LinearOrder α] : StrictTotal (fun a b : α => a < b) :=
  ⟨lt_irrefl, lt_trans, fun h₁ h₂ => le_antisymm (not_lt.1 h₂) (not_lt.1 h₁)⟩

theorem sorted_nodup {lt : α → α → Prop} (h : StrictTotal lt) {l : List α} (hl : l.Pairwise lt) : l.Nodup :=
  hl.imp fun {a b} hab => by rintro rfl; exact h.irrefl _ hab

section Insert

variable (lt : α → α → Prop) [DecidableRel lt]

/-- Insert an element at its place, unless it is there. -/
def insert (a : α) : List α → List α
  | [] => [a]
  | b :: l => if lt a b then a :: b :: l else if lt b a then b :: insert a l else b :: l

/-- The set of the elements of a list. -/
def ofList (l : List α) : List α := l.foldl (fun s a => insert lt a s) []

variable {lt}

theorem mem_insert (h : StrictTotal lt) {a x : α} : ∀ {l : List α}, x ∈ insert lt a l ↔ x = a ∨ x ∈ l
  | [] => by simp [insert]
  | b :: l => by
    unfold insert
    split
    · simp
    · rename_i h₁
      split
      · rw [List.mem_cons, mem_insert h, List.mem_cons]; tauto
      · rename_i h₂
        rw [h.total h₁ h₂, List.mem_cons]; tauto

theorem insert_sorted (h : StrictTotal lt) {a : α} : ∀ {l : List α}, l.Pairwise lt → (insert lt a l).Pairwise lt
  | [], _ => by simp [insert]
  | b :: l, hl => by
    have hb := List.pairwise_cons.1 hl
    unfold insert
    split
    · rename_i h₁
      refine List.pairwise_cons.2 ⟨fun x hx => ?_, hl⟩
      rcases List.mem_cons.1 hx with rfl | hx
      · exact h₁
      · exact h.trans h₁ (hb.1 x hx)
    · split
      · rename_i h₂
        refine List.pairwise_cons.2 ⟨fun x hx => ?_, insert_sorted h hb.2⟩
        rcases (mem_insert h).1 hx with rfl | hx
        · exact h₂
        · exact hb.1 x hx
      · exact hl

theorem foldl_insert_spec (h : StrictTotal lt) : ∀ (l s : List α), s.Pairwise lt →
    (l.foldl (fun s a => insert lt a s) s).Pairwise lt ∧
      ∀ x, x ∈ l.foldl (fun s a => insert lt a s) s ↔ x ∈ s ∨ x ∈ l
  | [], s, hs => ⟨hs, by simp⟩
  | a :: l, s, hs => by
    obtain ⟨h₁, h₂⟩ := foldl_insert_spec h l (insert lt a s) (insert_sorted h hs)
    refine ⟨h₁, fun x => ?_⟩
    rw [List.foldl_cons, h₂, mem_insert h, List.mem_cons]
    tauto

theorem ofList_sorted (h : StrictTotal lt) (l : List α) : (ofList lt l).Pairwise lt :=
  (foldl_insert_spec h l [] List.Pairwise.nil).1

theorem mem_ofList (h : StrictTotal lt) {l : List α} {x : α} : x ∈ ofList lt l ↔ x ∈ l := by
  unfold ofList; rw [(foldl_insert_spec h l [] List.Pairwise.nil).2]; simp

theorem ofList_concat (l : List α) (a : α) : ofList lt (l ++ [a]) = insert lt a (ofList lt l) := by
  simp [ofList]

/-- The set of a list has as many elements as the list exactly when the list has no duplicates. -/
theorem length_ofList_eq_iff [DecidableEq α] (h : StrictTotal lt) (l : List α) :
    (ofList lt l).length = l.length ↔ l.Nodup := by
  have hp : (ofList lt l).Perm l.dedup := by
    rw [List.perm_ext_iff_of_nodup (sorted_nodup h (ofList_sorted h l)) (List.nodup_dedup l)]
    intro x; rw [mem_ofList h, List.mem_dedup]
  rw [hp.length_eq]
  constructor
  · intro he
    rw [← List.dedup_eq_self]
    exact (List.dedup_sublist l).eq_of_length he
  · intro hn; rw [List.dedup_eq_self.2 hn]

/-- The set of a list does not depend on the order of the list. -/
theorem ofList_perm (h : StrictTotal lt) {l m : List α} (hp : l.Perm m) : ofList lt l = ofList lt m := by
  have hl := ofList_sorted h l
  have hm := ofList_sorted h m
  have hset : (ofList lt l).Perm (ofList lt m) := by
    rw [List.perm_ext_iff_of_nodup (sorted_nodup h hl) (sorted_nodup h hm)]
    intro x
    rw [mem_ofList h, mem_ofList h, hp.mem_iff]
  exact hset.eq_of_pairwise (fun a b _ _ hab hba => absurd (h.trans hab hba) (h.irrefl a)) hl hm

/-- A set whose list has no duplicate is that list in order. -/
theorem ofList_perm_self [DecidableEq α] (h : StrictTotal lt) {l : List α} (hn : l.Nodup) : (ofList lt l).Perm l := by
  rw [List.perm_ext_iff_of_nodup (sorted_nodup h (ofList_sorted h l)) hn]
  exact fun x => mem_ofList h

end Insert

/-- Different elements of a list are all of its elements exactly if there are as many. -/
theorem length_eq_iff_perm {l m : List α} (hn : l.Nodup) (hsub : ∀ x ∈ l, x ∈ m) : l.length = m.length ↔ l.Perm m := by
  constructor
  · intro hlen
    exact (List.subperm_of_subset hn hsub).perm_of_length_le (le_of_eq hlen.symm)
  · intro hperm
    exact hperm.length_eq

/-! ## Maps -/

section Map

variable {β : Type} (lt : α → α → Prop) [DecidableRel lt]

/-- Set the value of a key. -/
def put (key : α) (value : β) : List (α × β) → List (α × β)
  | [] => [(key, value)]
  | (k, v) :: m =>
    if lt key k then (key, value) :: (k, v) :: m
    else if lt k key then (k, v) :: put key value m
    else (k, value) :: m

variable {lt}

/-- The keys are the set of the keys. -/
theorem put_keys (key : α) (value : β) : ∀ m : List (α × β),
    (put lt key value m).map Prod.fst = insert lt key (m.map Prod.fst)
  | [] => rfl
  | (k, v) :: m => by
    rw [List.map_cons, put, insert]
    split
    · rfl
    · split
      · rw [List.map_cons, put_keys key value m]
      · rfl

/-- Setting a new key adds its entry. -/
theorem mem_put (h : StrictTotal lt) {key : α} {value : β} {x : α × β} : ∀ {m : List (α × β)}, key ∉ m.map Prod.fst →
    (x ∈ put lt key value m ↔ x = (key, value) ∨ x ∈ m)
  | [], _ => by simp [put]
  | (k, v) :: m, hnew => by
    rw [List.map_cons, List.mem_cons, not_or] at hnew
    unfold put
    split
    · rw [List.mem_cons]
    · rename_i h₁
      split
      · rw [List.mem_cons, mem_put h hnew.2, List.mem_cons]
        tauto
      · rename_i h₂
        exact absurd (h.total h₁ h₂) hnew.1

/-- Setting a key brings no other value. -/
theorem of_mem_put {key : α} {value : β} {x : α × β} : ∀ {m : List (α × β)}, x ∈ put lt key value m →
    x.2 = value ∨ x ∈ m
  | [], h => .inl (by rw [List.mem_singleton.1 h])
  | (k, v) :: m, h => by
    unfold put at h
    split at h
    · rcases List.mem_cons.1 h with rfl | h
      · exact .inl rfl
      · exact .inr h
    · split at h
      · rcases List.mem_cons.1 h with rfl | h
        · exact .inr (List.mem_cons_self ..)
        · exact (of_mem_put h).imp_right (List.mem_cons_of_mem _)
      · rcases List.mem_cons.1 h with rfl | h
        · exact .inl rfl
        · exact .inr (List.mem_cons_of_mem _ h)

/-- The map of a list of entries. -/
def ofEntries (lt : α → α → Prop) [DecidableRel lt] (entries : List (α × β)) : List (α × β) :=
  entries.foldl (fun m p => put lt p.1 p.2 m) []

theorem ofEntries_concat (entries : List (α × β)) (p : α × β) :
    ofEntries lt (entries ++ [p]) = put lt p.1 p.2 (ofEntries lt entries) := by
  simp [ofEntries]

theorem of_mem_ofEntries {P : β → Prop} {entries : List (α × β)} (h : ∀ p ∈ entries, P p.2) :
    ∀ x ∈ ofEntries lt entries, P x.2 := by
  induction entries using List.reverseRecOn with
  | nil => nofun
  | append_singleton entries p ih =>
    rw [ofEntries_concat]
    intro x hx
    rcases of_mem_put hx with hvalue | hx
    · rw [hvalue]
      exact h p (by simp)
    · exact ih (fun q hq => h q (List.mem_append_left _ hq)) x hx

theorem ofEntries_keys (entries : List (α × β)) : (ofEntries lt entries).map Prod.fst = ofList lt (entries.map Prod.fst) := by
  induction entries using List.reverseRecOn with
  | nil => rfl
  | append_singleton entries p ih =>
    rw [ofEntries_concat, put_keys, ih, List.map_append, List.map_singleton, ofList_concat]

/-- The map of entries with different keys has these entries. -/
theorem mem_ofEntries (h : StrictTotal lt) {entries : List (α × β)} (hn : (entries.map Prod.fst).Nodup) {x : α × β} :
    x ∈ ofEntries lt entries ↔ x ∈ entries := by
  induction entries using List.reverseRecOn with
  | nil => rfl
  | append_singleton entries p ih =>
    rw [List.map_append, List.nodup_append] at hn
    have hnew : p.1 ∉ (ofEntries lt entries).map Prod.fst := by
      rw [ofEntries_keys, mem_ofList h]
      exact fun hmem => hn.2.2 _ hmem _ (List.mem_singleton_self _) rfl
    rw [ofEntries_concat, mem_put h hnew, ih hn.1, List.mem_append, List.mem_singleton]
    exact or_comm

end Map

end SatNet.OrdSet
