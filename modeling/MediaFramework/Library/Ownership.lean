import Mathlib.Data.Set.Card

/-!
# Resources with one owner each

Each of some owners may have one resource.  `Owned own live` says that the live resources are those that somebody has,
and that nobody shares one.  An owner may give up what it has for something that nobody else has, and what owners have
that are gone is lost.
-/

/-- The resources that are live are those of the owners, and no two owners have the same one. -/
structure Owned {ι α : Type*} (own : ι → Option α) (live : α → Prop) : Prop where
  apart : ∀ {i j a}, own i = some a → own j = some a → i = j
  live_iff : ∀ a, live a ↔ ∃ i, own i = some a

namespace Owned

variable {ι α : Type*} {own own' : ι → Option α} {live live' : α → Prop} {i j : ι} {a : α}

theorem is_live (h : Owned own live) (hi : own i = some a) : live a := (h.live_iff a).2 ⟨i, hi⟩

theorem ne_some (h : Owned own live) (hj : own j = some a) (hne : j ≠ i) : own i ≠ some a :=
  fun hi => hne (h.apart hj hi)

/-- What another one has is not what an owner gets. -/
theorem ne_new (h : Owned own live) (hfresh : ∀ a, own' i = some a → own i = some a ∨ ¬ live a)
    (hj : own j = some a) (hne : j ≠ i) : own' i ≠ some a := by
  intro hi
  rcases hfresh a hi with hi | hdead
  · exact h.ne_some hj hne hi
  · exact hdead (h.is_live hj)

/-- One owner gives up what it has for something that is not live, or for nothing. -/
theorem replace (h : Owned own live) (i : ι) (hother : ∀ j ≠ i, own' j = own j)
    (hfresh : ∀ a, own' i = some a → own i = some a ∨ ¬ live a)
    (hlive : ∀ a, live' a ↔ own' i = some a ∨ live a ∧ own i ≠ some a) : Owned own' live' where
  apart := by
    intro j k a hj hk
    by_cases hji : j = i <;> by_cases hki : k = i
    · rw [hji, hki]
    · rw [hother k hki] at hk
      exact absurd (hji ▸ hj) (h.ne_new hfresh hk hki)
    · rw [hother j hji] at hj
      exact absurd (hki ▸ hk) (h.ne_new hfresh hj hji)
    · exact h.apart (hother j hji ▸ hj) (hother k hki ▸ hk)
  live_iff a := by
    rw [hlive]
    constructor
    · rintro (hi | ⟨hlive, hi⟩)
      · exact ⟨i, hi⟩
      · obtain ⟨j, hj⟩ := (h.live_iff a).1 hlive
        have hne : j ≠ i := fun hji => hi (hji ▸ hj)
        exact ⟨j, (hother j hne).trans hj⟩
    · rintro ⟨j, hj⟩
      by_cases hji : j = i
      · exact .inl (hji ▸ hj)
      · rw [hother j hji] at hj
        exact .inr ⟨h.is_live hj, h.ne_some hj hji⟩

/-- When some owners are gone, as many resources are live that nobody else has. -/
theorem ncard_lost (h : Owned own live) (lost : Finset ι) (hhas : ∀ i ∈ lost, (own i).isSome) :
    {a | live a ∧ ∀ i ∉ lost, own i ≠ some a}.ncard = lost.card := by
  rw [← Set.ncard_coe_finset lost]
  symm
  refine Set.ncard_congr (fun i hi => (own i).get (hhas i hi)) ?_ ?_ ?_
  · intro i hi
    have hown : own i = some ((own i).get (hhas i hi)) := (Option.some_get _).symm
    exact ⟨h.is_live hown, fun j hj hown' => hj (h.apart hown hown' ▸ hi)⟩
  · intro i j hi hj heq
    exact h.apart (Option.some_get (hhas i hi)).symm (heq ▸ (Option.some_get (hhas j hj)).symm)
  · rintro a ⟨hlive, hnobody⟩
    obtain ⟨i, hi⟩ := (h.live_iff a).1 hlive
    have hlost : i ∈ lost := by
      by_contra hnot
      exact hnobody i hnot hi
    exact ⟨i, hlost, Option.get_of_eq_some (hhas i hlost) hi⟩

end Owned
