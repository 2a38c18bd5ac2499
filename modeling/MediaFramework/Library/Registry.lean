import Mathlib.Data.List.Basic

/-!
# Registries of objects

A registry lists objects, each with the party it refers to, if there is one.  A step that serves a party may create
an object that refers to the party, release an object, and make an object refer to nobody.

Who owns an object is not in the registry: it is whoever was served when the object was created.  `recordOwners`
keeps account of it.
-/

namespace Registry

variable {ο κ γ : Type*} {k : κ} {created released : Option ο} {before after : List (ο × Option κ)} {o : ο}

/-- The object is listed. -/
def Has (l : List (ο × Option κ)) (o : ο) : Prop := ∃ c, (o, c) ∈ l

theorem has_iff {l : List (ο × Option κ)} : Has l o ↔ o ∈ l.map Prod.fst := by
  constructor
  · rintro ⟨c, hc⟩
    exact List.mem_map.2 ⟨_, hc, rfl⟩
  · intro h
    obtain ⟨⟨_, c⟩, hc, rfl⟩ := List.mem_map.1 h
    exact ⟨c, hc⟩

instance [DecidableEq ο] (l : List (ο × Option κ)) (o : ο) : Decidable (Has l o) :=
  decidable_of_iff (o ∈ l.map Prod.fst) has_iff.symm

/-! ### Steps -/

/-- What a step that serves the party `k` does. -/
structure Effect (k : κ) (created released : Option ο) (before after : List (ο × Option κ)) : Prop where
  refers : ∀ o c, (o, some c) ∈ after → (o, some c) ∈ before ∨ created = some o ∧ c = k
  kept : ∀ o, Has before o → Has after o ∨ released = some o
  back : ∀ o, Has after o → Has before o ∨ created = some o
  created : ∀ o ∈ created, Has after o
  released : ∀ o ∈ released, ¬ Has after o

theorem Effect.refl (k : κ) (l : List (ο × Option κ)) : Effect k none none l l where
  refers _ _ h := .inl h
  kept _ h := .inl h
  back _ h := .inl h
  created _ h := by cases h
  released _ h := by cases h

theorem Effect.insert (h : ∀ p, p ∈ after ↔ p = (o, some k) ∨ p ∈ before) :
    Effect k (some o) none before after where
  refers o' c hmem := by
    rcases (h _).1 hmem with heq | hmem
    · cases heq
      exact .inr ⟨rfl, rfl⟩
    · exact .inl hmem
  kept o' := by
    rintro ⟨c, hc⟩
    exact .inl ⟨c, (h _).2 (.inr hc)⟩
  back o' := by
    rintro ⟨c, hc⟩
    rcases (h _).1 hc with heq | hc
    · cases heq
      exact .inr rfl
    · exact .inl ⟨c, hc⟩
  created o' := by
    rintro ⟨⟩
    exact ⟨some k, (h _).2 (.inl rfl)⟩
  released _ h := by cases h

theorem Effect.remove (h : ∀ p, p ∈ after ↔ p ∈ before ∧ p.1 ≠ o) : Effect k none (some o) before after where
  refers _ _ hmem := .inl ((h _).1 hmem).1
  kept o' := by
    rintro ⟨c, hc⟩
    by_cases ho : o' = o
    · exact .inr (congrArg some ho.symm)
    · exact .inl ⟨c, (h _).2 ⟨hc, ho⟩⟩
  back o' := by
    rintro ⟨c, hc⟩
    exact .inl ⟨c, ((h _).1 hc).1⟩
  created _ h := by cases h
  released o' := by
    rintro ⟨⟩ ⟨c, hc⟩
    exact ((h _).1 hc).2 rfl

/-- The object is dropped from a list of what describes the objects. -/
theorem Effect.filter {α : Type*} {f : α → ο × Option κ} {l : List α} {q : α → Bool}
    (h : ∀ a ∈ l, q a = true ↔ (f a).1 ≠ o) : Effect k none (some o) (l.map f) ((l.filter q).map f) := by
  refine .remove fun p => ?_
  simp only [List.mem_map, List.mem_filter]
  constructor
  · rintro ⟨a, ⟨ha, hq⟩, rfl⟩
    exact ⟨⟨a, ha, rfl⟩, (h a ha).1 hq⟩
  · rintro ⟨⟨a, ha, rfl⟩, hne⟩
    exact ⟨a, ⟨ha, (h a ha).2 hne⟩, rfl⟩

/-- Objects stay, but some may refer to nobody afterwards. -/
theorem Effect.replace (hsub : ∀ p ∈ after, p ∈ before ∨ p.2 = none ∧ Has before p.1)
    (hkept : ∀ p ∈ before, Has after p.1) : Effect k none none before after where
  refers o c hmem := by
    rcases hsub _ hmem with hmem | ⟨hnone, -⟩
    · exact .inl hmem
    · cases hnone
  kept o := by
    rintro ⟨c, hc⟩
    exact .inl (hkept _ hc)
  back o := by
    rintro ⟨c, hc⟩
    rcases hsub _ hc with hc | ⟨-, hhas⟩
    · exact .inl ⟨c, hc⟩
    · exact .inl hhas
  created _ h := by cases h
  released _ h := by cases h

theorem has_append {u v : List (ο × Option κ)} : Has (u ++ v) o ↔ Has u o ∨ Has v o := by
  unfold Has
  simp only [List.mem_append, exists_or]

/-- The frame rule: the rest of the registry, which does not have the object that is released, stays as it is. -/
theorem Effect.frame (h : Effect k created released before after) {u v : List (ο × Option κ)}
    (hu : ∀ o ∈ released, ¬ Has u o) (hv : ∀ o ∈ released, ¬ Has v o) :
    Effect k created released (u ++ before ++ v) (u ++ after ++ v) where
  refers o c hmem := by
    simp only [List.mem_append] at hmem ⊢
    rcases hmem with (hu | hafter) | hv
    · exact .inl (.inl (.inl hu))
    · rcases h.refers o c hafter with hbefore | hnew
      · exact .inl (.inl (.inr hbefore))
      · exact .inr hnew
    · exact .inl (.inr hv)
  kept o ho := by
    simp only [has_append] at ho ⊢
    rcases ho with (hu | hbefore) | hv
    · exact .inl (.inl (.inl hu))
    · exact (h.kept o hbefore).imp_left fun hafter => .inl (.inr hafter)
    · exact .inl (.inr hv)
  back o ho := by
    simp only [has_append] at ho ⊢
    rcases ho with (hu | hafter) | hv
    · exact .inl (.inl (.inl hu))
    · exact (h.back o hafter).imp_left fun hbefore => .inl (.inr hbefore)
    · exact .inl (.inr hv)
  created o ho := has_append.2 (.inl (has_append.2 (.inr (h.created o ho))))
  released o ho := by
    rw [has_append, has_append]
    rintro ((hhas | hhas) | hhas)
    · exact hu o ho hhas
    · exact h.released o ho hhas
    · exact hv o ho hhas

/-! ### Owners -/

/-- An object that was not listed before belongs to the client that was served. -/
def recordOwners [DecidableEq ο] (before after : List (ο × Option κ)) (client : γ) (owner : ο → γ) : ο → γ :=
  fun o => if Has after o ∧ ¬ Has before o then client else owner o

theorem recordOwners_of_has [DecidableEq ο] {client : γ} {owner : ο → γ} (h : Has before o) :
    recordOwners before after client owner o = owner o := if_neg fun hnew => hnew.2 h

/-- The objects that refer to a party of some kind belong to its client, when this was so before and the new object
belongs to the client of the party that was served. -/
theorem Effect.owners [DecidableEq ο] {owner : ο → γ} {client : γ} {opener : κ → γ} {P : κ → Prop}
    (h : Effect k created released before after) (hfresh : ∀ o ∈ created, ¬ Has before o)
    (hbefore : ∀ o c, (o, some c) ∈ before → P c → owner o = opener c)
      (hclient : created ≠ none → P k → client = opener k)
    {c : κ} (hmem : (o, some c) ∈ after) (hc : P c) : recordOwners before after client owner o = opener c := by
  rcases h.refers o c hmem with hold | ⟨hnew, rfl⟩
  · rw [recordOwners_of_has ⟨_, hold⟩]
    exact hbefore o c hold hc
  · rw [recordOwners, if_pos ⟨⟨_, hmem⟩, hfresh o hnew⟩]
    exact hclient (by rw [hnew]; exact Option.some_ne_none o) hc

end Registry
