import Mathlib.Data.List.Basic

/-!
# Machines and their reachable states

A machine has a first state and a partial function that takes a state and an input to the next state.  What the
environment decides (the order of events, the outcome of a system call) is in the input, so a statement about every
reachable state is a statement about every run.  `ReachableVia g` keeps to the steps that meet the condition `g`
on the state before the step and the input.
-/

/-- A first state and a next-state function; `none` says that the input is not possible in the state. -/
structure Machine (σ ι : Type*) where
  start : σ
  next : σ → ι → Option σ

namespace Machine

variable {σ ι : Type*} {M : Machine σ ι} {g : σ → ι → Prop}

/-- The states reached by runs whose steps all meet the condition `g`. -/
inductive ReachableVia (M : Machine σ ι) (g : σ → ι → Prop) : σ → Prop
  | start : ReachableVia M g M.start
  | step {s s' : σ} {i : ι} :
      ReachableVia M g s → g s i → M.next s i = some s' → ReachableVia M g s'

/-- The states reached by any run. -/
abbrev Reachable (M : Machine σ ι) : σ → Prop := ReachableVia M fun _ _ => True

/-- The invariant rule: what holds at first and is kept by every step that meets `g` holds in every state reached. -/
theorem ReachableVia.invariant {P : σ → Prop} (hstart : P M.start)
    (hstep : ∀ s i s', P s → g s i → M.next s i = some s' → P s') {s : σ} (h : ReachableVia M g s) : P s := by
  induction h with
  | start => exact hstart
  | step _ hg hn ih => exact hstep _ _ _ ih hg hn

/-- The machine with a record of its run, which a step may note something in but never depends on. -/
def recorded {ρ : Type*} (M : Machine σ ι) (start : ρ) (note : σ → ι → σ → ρ → ρ) : Machine (σ × ρ) ι where
  start := (M.start, start)
  next p i := (M.next p.1 i).map fun s' => (s', note p.1 i s' p.2)

/-- The invariant rule for a machine with a record. -/
theorem ReachableVia.recorded {ρ : Type*} {start : ρ} {note : σ → ι → σ → ρ → ρ} {g : σ × ρ → ι → Prop}
    {P : σ → ρ → Prop} (hstart : P M.start start)
    (hstep : ∀ s h i s', P s h → g (s, h) i → M.next s i = some s' → P s' (note s i s' h)) {p : σ × ρ}
    (hp : ReachableVia (M.recorded start note) g p) : P p.1 p.2 := by
  induction hp with
  | start => exact hstart
  | step _ hg hn ih =>
    obtain ⟨s', hs', rfl⟩ := Option.map_eq_some_iff.1 hn
    exact hstep _ _ _ _ ih hg hs'

/-- Take the inputs in their order, from the state `s`, checking `g` before each step. -/
def runFrom (M : Machine σ ι) (g : σ → ι → Prop) [∀ s i, Decidable (g s i)] : σ → List ι → Option σ
  | s, [] => some s
  | s, i :: is => if g s i then (M.next s i).bind fun s' => runFrom M g s' is else none

theorem reachableVia_of_runFrom [∀ s i, Decidable (g s i)] {is : List ι} :
    ∀ {s s' : σ}, ReachableVia M g s → runFrom M g s is = some s' → ReachableVia M g s' := by
  induction is with
  | nil =>
    intro s s' hs h
    cases h
    exact hs
  | cons i is ih =>
    intro s s' hs h
    rw [runFrom] at h
    split at h
    · rename_i hg
      obtain ⟨t, ht, h⟩ := Option.bind_eq_some_iff.1 h
      exact ih (.step hs hg ht) h
    · cases h

/-- A run that can be computed reaches its last state. -/
theorem reachableVia_get [∀ s i, Decidable (g s i)] {is : List ι} (h : (runFrom M g M.start is).isSome) :
    ReachableVia M g ((runFrom M g M.start is).get h) :=
  reachableVia_of_runFrom .start (Option.some_get h).symm

end Machine
