import Mathlib.Data.List.Basic

/-!
# Ledgers of resources

A resource is taken, used and given back.  A ledger has the resources that are out, and those that were given back when
they were not.  Nothing is given back twice as long as there are none of the latter, and nothing is lost when there are
none of the former at the end.
-/

/-- The resources that are out, and those that were given back when they were not out. -/
structure Ledger (α : Type*) where
  live : List α := []
  stray : List α := []
  deriving DecidableEq

namespace Ledger

variable {α : Type*} {l : Ledger α} {a b : α}

def take (l : Ledger α) (a : α) : Ledger α := { l with live := a :: l.live }

@[simp] theorem take_live (l : Ledger α) (a : α) : (l.take a).live = a :: l.live := rfl
@[simp] theorem take_stray (l : Ledger α) (a : α) : (l.take a).stray = l.stray := rfl

variable [DecidableEq α]

def giveBack (l : Ledger α) (a : α) : Ledger α :=
  if a ∈ l.live then { l with live := l.live.erase a } else { l with stray := l.stray ++ [a] }

theorem giveBack_of_mem (h : a ∈ l.live) : l.giveBack a = { l with live := l.live.erase a } := if_pos h

/-- What is given back at once was not taken. -/
theorem giveBack_take (l : Ledger α) (a : α) : (l.take a).giveBack a = l := by
  rw [giveBack_of_mem (by simp), take_live, List.erase_cons_head]
  rfl

/-- One resource less is out, whatever the order is in which they were taken. -/
theorem giveBack_perm {rest : List α} (h : l.live.Perm (a :: rest)) :
    (l.giveBack a).live.Perm rest ∧ (l.giveBack a).stray = l.stray := by
  rw [giveBack_of_mem (h.mem_iff.2 List.mem_cons_self)]
  refine ⟨?_, rfl⟩
  calc (l.live.erase a).Perm ((a :: rest).erase a) := h.erase a
    _ = rest := List.erase_cons_head a rest

end Ledger
