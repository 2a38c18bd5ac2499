import Mathlib.Data.List.Nodup
import Mathlib.Logic.Function.Basic

/-!
# Singly linked queues with a tail pointer

A queue is a pointer to its first cell and a pointer to its last one; a cell holds a value and the pointer to the cell
after it.  An operation that reads or writes through a pointer to no cell gives `none`.  `Spells q l` says that the
cells of `q` are those of the list `l`, in its order; the rules say what each operation does to the list.
-/

namespace TailQueue

variable {α : Type*}

structure Cell (α : Type*) where
  value : α
  next : Option Nat

/-- The two pointers, and the cells by their addresses. -/
structure Queue (α : Type*) where
  head : Option Nat := none
  tail : Option Nat := none
  cells : Nat → Option (Cell α) := fun _ => none

/-- Put a cell at the address `a`, and link it behind the last one. -/
def Queue.append (q : Queue α) (a : Nat) (x : α) : Option (Queue α) :=
  let cells := Function.update q.cells a (some ⟨x, none⟩)
  match q.head with
  | none => some ⟨some a, some a, cells⟩
  | some _ =>
    q.tail.bind fun t =>
      (cells t).map fun cell => ⟨q.head, some a, Function.update cells t (some { cell with next := some a })⟩

/-- Unlink the first cell, which is the one at the address `a`, and free it. -/
def Queue.removeHead (q : Queue α) (a : Nat) : Option (Queue α) :=
  (q.cells a).map fun cell =>
    ⟨cell.next, if cell.next = none then none else q.tail, Function.update q.cells a none⟩

/-- From the pointer on, the cells are those of the list, and the last one has no cell after it. -/
def Chain (cells : Nat → Option (Cell α)) : Option Nat → List (Nat × α) → Prop
  | p, [] => p = none
  | p, (a, x) :: l => p = some a ∧ ∃ next, cells a = some ⟨x, next⟩ ∧ Chain cells next l

/-- The cells of the queue, first to last, are those of the list, and there are no others. -/
structure Spells (q : Queue α) (l : List (Nat × α)) : Prop where
  chain : Chain q.cells q.head l
  tail : q.tail = l.getLast?.map Prod.fst
  nodup : (l.map Prod.fst).Nodup
  cells : ∀ a, (q.cells a).isSome ↔ a ∈ l.map Prod.fst

theorem spells_empty : Spells (α := α) {} [] where
  chain := rfl
  tail := rfl
  nodup := List.nodup_nil
  cells a := by simp

/-- A cell that is not one of the list may change. -/
theorem Chain.update {cells : Nat → Option (Cell α)} {l : List (Nat × α)} {a : Nat} (c : Option (Cell α))
    (ha : a ∉ l.map Prod.fst) : ∀ {p : Option Nat}, Chain cells p l → Chain (Function.update cells a c) p l := by
  induction l with
  | nil =>
    intro p h
    exact h
  | cons b l ih =>
    intro p h
    obtain ⟨hp, next, hb, hl⟩ := h
    simp only [List.map_cons, List.mem_cons, not_or] at ha
    refine ⟨hp, next, ?_, ih ha.2 hl⟩
    rw [Function.update_of_ne (Ne.symm ha.1)]
    exact hb

/-- A cell behind the last one of the list makes the list one longer. -/
theorem Chain.concat {cells : Nat → Option (Cell α)} {l : List (Nat × α)} {t a : Nat} {x y : α}
    (hlast : l.getLast? = some (t, y)) (ha : cells a = some ⟨x, none⟩) (hnodup : (l.map Prod.fst).Nodup)
    (hnew : a ∉ l.map Prod.fst) :
    ∀ {p : Option Nat}, Chain cells p l →
      Chain (Function.update cells t (some ⟨y, some a⟩)) p (l ++ [(a, x)]) := by
  induction l with
  | nil => cases hlast
  | cons b l ih =>
    intro p h
    obtain ⟨hp, next, hb, hl⟩ := h
    simp only [List.map_cons, List.mem_cons, not_or, List.nodup_cons] at hnew hnodup
    cases l with
    | nil =>
      -- the last cell of the list: it is the one that gets the new pointer
      cases hlast
      refine ⟨hp, some a, Function.update_self .., rfl, none, ?_, rfl⟩
      rw [Function.update_of_ne hnew.1]
      exact ha
    | cons b' l =>
      rw [List.getLast?_cons_cons] at hlast
      refine ⟨hp, next, ?_, ih hlast hnodup.2 hnew.2 hl⟩
      have hne : t ∈ (b' :: l).map Prod.fst := List.mem_map_of_mem (List.mem_of_getLast? hlast)
      rw [Function.update_of_ne (ne_of_mem_of_not_mem hne hnodup.1).symm]
      exact hb

/-- The last cell holds the last value. -/
theorem Chain.cells_last {cells : Nat → Option (Cell α)} {l : List (Nat × α)} {t : Nat} {y : α}
    (hlast : l.getLast? = some (t, y)) : ∀ {p : Option Nat}, Chain cells p l → ∃ next, cells t = some ⟨y, next⟩ := by
  induction l with
  | nil => cases hlast
  | cons b l ih =>
    intro p h
    obtain ⟨-, next, hb, hl⟩ := h
    cases l with
    | nil =>
      cases hlast
      exact ⟨next, hb⟩
    | cons b' l =>
      rw [List.getLast?_cons_cons] at hlast
      exact ih hlast hl

theorem Chain.head_eq {cells : Nat → Option (Cell α)} {p : Option Nat} {l : List (Nat × α)} (h : Chain cells p l) :
    p = l.head?.map Prod.fst := by
  cases l with
  | nil => exact h
  | cons b l => exact h.1

namespace Spells

variable {q : Queue α} {l : List (Nat × α)} {a : Nat} {x : α}

theorem head_eq (h : Spells q l) : q.head = l.head?.map Prod.fst := h.chain.head_eq

theorem head_eq_none (h : Spells q l) : q.head = none ↔ l = [] := by
  rw [h.head_eq, Option.map_eq_none_iff, List.head?_eq_none_iff]

theorem eq_cons (h : Spells q l) (hhead : q.head = some a) : ∃ x l', l = (a, x) :: l' := by
  rw [h.head_eq] at hhead
  cases l with
  | nil => cases hhead
  | cons b l' =>
    cases hhead
    exact ⟨b.2, l', rfl⟩

/-- The first cell holds the first value. -/
theorem cells_head (h : Spells q ((a, x) :: l)) : ∃ next, q.cells a = some ⟨x, next⟩ := by
  obtain ⟨-, next, ha, -⟩ := h.chain
  exact ⟨next, ha⟩

theorem notMem_of_free (h : Spells q l) (hfree : q.cells a = none) : a ∉ l.map Prod.fst := by
  intro ha
  have hsome := (h.cells a).2 ha
  rw [hfree] at hsome
  cases hsome

/-- Linking a new cell succeeds, and puts its value behind the others. -/
theorem append (h : Spells q l) (hfree : q.cells a = none) (x : α) :
    ∃ q', q.append a x = some q' ∧ Spells q' (l ++ [(a, x)]) := by
  have hnew := h.notMem_of_free hfree
  have hnodup : ((l ++ [(a, x)]).map Prod.fst).Nodup := by
    rw [List.map_append, List.map_singleton, ← List.concat_eq_append]
    exact List.Nodup.concat hnew h.nodup
  cases hl : l with
  | nil =>
    subst hl
    have hhead : q.head = none := h.head_eq_none.2 rfl
    refine ⟨_, by rw [Queue.append, hhead], ⟨rfl, none, Function.update_self .., rfl⟩, rfl, hnodup, ?_⟩
    intro b
    by_cases hb : b = a
    · subst hb
      simp
    · simpa [Function.update_of_ne hb, hb] using h.cells b
  | cons c l₀ =>
    rw [← hl]
    obtain ⟨⟨t, y⟩, hlast⟩ : ∃ b, l.getLast? = some b := by
      rw [hl]
      exact ⟨_, List.getLast?_cons ..⟩
    have htail : q.tail = some t := by rw [h.tail, hlast]; rfl
    have hhead : q.head = some c.1 := by rw [h.head_eq, hl]; rfl
    have hmem : t ∈ l.map Prod.fst := List.mem_map_of_mem (List.mem_of_getLast? hlast)
    have hta : t ≠ a := fun heq => hnew (heq ▸ hmem)
    obtain ⟨next, ht⟩ := h.chain.cells_last hlast
    have hchain := (h.chain.update (some ⟨x, none⟩) hnew).concat hlast (Function.update_self ..) h.nodup hnew
    refine ⟨⟨q.head, some a, Function.update (Function.update q.cells a (some ⟨x, none⟩)) t (some ⟨y, some a⟩)⟩,
      ?_, hchain, by simp, hnodup, ?_⟩
    · rw [Queue.append, hhead, htail]
      dsimp only
      rw [Option.bind_some, Function.update_of_ne hta, ht, Option.map_some]
    · intro b
      have hold := h.cells b
      by_cases hbt : b = t
      · subst hbt
        dsimp only
        rw [Function.update_self, List.map_append, List.mem_append]
        exact ⟨fun _ => .inl hmem, fun _ => rfl⟩
      · dsimp only
        rw [Function.update_of_ne hbt]
        by_cases hba : b = a
        · subst hba
          simp
        · rw [Function.update_of_ne hba, hold]
          simp [hba]

/-- Unlinking the first cell succeeds, and leaves the others. -/
theorem removeHead (h : Spells q ((a, x) :: l)) : ∃ q', q.removeHead a = some q' ∧ Spells q' l := by
  obtain ⟨hhead, next, ha, hrest⟩ := h.chain
  have hnodup := h.nodup
  rw [List.map_cons, List.nodup_cons] at hnodup
  have hnext := hrest.head_eq
  refine ⟨_, by rw [Queue.removeHead, ha]; rfl, hrest.update none hnodup.1, ?_, hnodup.2, ?_⟩
  · cases l with
    | nil => simp [hnext]
    | cons b l =>
      dsimp only
      rw [if_neg (by simp [hnext]), h.tail, List.getLast?_cons_cons]
  · intro b
    by_cases hb : b = a
    · subst hb
      simpa using hnodup.1
    · simpa [Function.update_of_ne hb, hb] using h.cells b

end Spells

end TailQueue
