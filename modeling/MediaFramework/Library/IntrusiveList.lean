import Mathlib.Data.List.Chain
import Mathlib.Data.List.Nodup
import Mathlib.Logic.Function.Basic

/-!
# Intrusive doubly linked lists

A circular list whose two pointers are members of the elements themselves, with one more pair of pointers for the
list head.  `Links` is the memory, `init`, `addAfter` and `delete` are the three pointer operations, and
`IsList L l` says that the pointers of `L` spell the list `l`.  Each operation is described once by what it does
to the spelled list, so that code over the pointers can be read as code over a list.
-/

namespace IntrusiveList

variable {α : Type*}

/-- The pointers of a list: a reference is the head (`none`) or the node inside the element `x` (`some x`), and a
pointer is a reference or NULL (the outer `none`). -/
structure Links (α : Type*) where
  next : Option α → Option (Option α)
  prev : Option α → Option (Option α)

/-- Memory in which no pointer is set. -/
def Links.null : Links α := ⟨fun _ => none, fun _ => none⟩

section Operations

variable [DecidableEq α]

/-- Make the node `r` a list of its own. -/
def Links.init (L : Links α) (r : Option α) : Links α :=
  ⟨Function.update L.next r (some r), Function.update L.prev r (some r)⟩

/-- Link the element `x` in right after the node `e`. -/
def Links.addAfter (L : Links α) (e : Option α) (x : α) : Links α :=
  match L.next e with
  | none => L
  | some c =>
    ⟨Function.update (Function.update L.next (some x) (some c)) e (some (some x)),
     Function.update (Function.update L.prev (some x) (some e)) c (some (some x))⟩

/-- Unlink the element `x` and clear its own pointers. -/
def Links.delete (L : Links α) (x : α) : Links α :=
  match L.next (some x), L.prev (some x) with
  | some c, some p =>
    ⟨Function.update (Function.update L.next p (some c)) (some x) none,
     Function.update (Function.update L.prev c (some p)) (some x) none⟩
  | _, _ => L

/-- The element after the node `item`, unless that is the node `list` or no element at all. -/
def Links.nextElem (L : Links α) (list item : Option α) : Option α :=
  match L.next item with
  | some r => if r = list then none else r
  | none => none

end Operations

/-- The elements met by following at most `n` next pointers from `r`, up to the head. -/
def Links.walk (L : Links α) : Nat → Option α → List α
  | 0, _ => []
  | n + 1, r =>
    match L.next r with
    | some (some x) => x :: L.walk n (some x)
    | _ => []

/-- The nodes `a` and `b` are neighbours: each points to the other. -/
def Links.Adj (L : Links α) (a b : Option α) : Prop := L.next a = some b ∧ L.prev b = some a

/-- The pointers spell the list `l`: from the head through the elements of `l`, each once, and back. -/
def IsList (L : Links α) (l : List α) : Prop :=
  l.Nodup ∧ (none :: (l.map some ++ [none])).IsChain L.Adj

/-! ### Splitting at a place in the list -/

theorem IsList.nodup {L : Links α} {l : List α} (h : IsList L l) : l.Nodup := h.1

private theorem getLast?_refs (l : List α) : (none :: l.map some).getLast? = some l.getLast? := by
  rcases List.eq_nil_or_concat l with rfl | ⟨l', b, rfl⟩
  · rfl
  · simp [List.getLast?_cons]

private theorem head?_refs (l : List α) : (l.map some ++ [none]).head? = some l.head? := by
  cases l <;> rfl

/-- The two chains on both sides of a place in the list, and the neighbours at that place. -/
private theorem isList_append {L : Links α} {l₁ l₂ : List α} :
    IsList L (l₁ ++ l₂) ↔ (l₁ ++ l₂).Nodup ∧ (none :: l₁.map some).IsChain L.Adj ∧
      (l₂.map some ++ [none]).IsChain L.Adj ∧ L.Adj l₁.getLast? l₂.head? := by
  unfold IsList
  rw [List.map_append, List.append_assoc, ← List.cons_append, List.isChain_append, getLast?_refs, head?_refs]
  simp

private theorem getLast?_ne_some {l : List α} {x : α} (hx : x ∉ l) : l.getLast? ≠ some x :=
  fun h => hx (List.mem_of_getLast? h)

private theorem head?_ne_some {l : List α} {x : α} (hx : x ∉ l) : l.head? ≠ some x :=
  fun h => hx (List.mem_of_head? h)

private theorem refs_eq_cons (l : List α) :
    l.map some ++ [none] = l.head? :: (l.map some ++ [none]).tail := by
  cases l <;> rfl

private theorem refs_nodup {l : List α} (h : l.Nodup) : (l.map some ++ [none]).Nodup := by
  rw [List.nodup_append']
  exact ⟨h.map (fun _ _ => Option.some.inj), by simp, by simp⟩

/-! ### The operations -/

section Operations

variable [DecidableEq α] {L : Links α}

/-- A head that points to itself spells the empty list. -/
theorem isList_init_head (L : Links α) : IsList (L.init none) [] := by
  refine ⟨List.nodup_nil, ?_⟩
  simp [Links.Adj, Links.init]

/-- Initializing the node of an element outside the list leaves the list alone. -/
theorem IsList.init_of_notMem {l : List α} (h : IsList L l) {x : α} (hx : x ∉ l) :
    IsList (L.init (some x)) l := by
  refine ⟨h.1, h.2.imp_of_mem_imp ?_⟩
  intro a b ha hb hab
  have ha' : a ≠ some x := by rintro rfl; exact hx (by simpa using ha)
  have hb' : b ≠ some x := by rintro rfl; exact hx (by simpa using hb)
  simpa [Links.Adj, Links.init, Function.update_of_ne ha', Function.update_of_ne hb'] using hab

private theorem adj_addAfter {e c a b : Option α} {x : α} (hec : L.Adj e c) (ha : a ≠ some x)
    (hb : b ≠ some x) (hbc : b ≠ c) (hab : L.Adj a b) : (L.addAfter e x).Adj a b := by
  have hae : a ≠ e := by
    rintro rfl
    exact hbc (Option.some.inj (hab.1.symm.trans hec.1))
  simp only [Links.Adj, Links.addAfter, hec.1]
  rw [Function.update_of_ne hae, Function.update_of_ne ha, Function.update_of_ne hbc, Function.update_of_ne hb]
  exact hab

/-- Linking `x` in after the last node of the part `l₁` puts it between `l₁` and the rest. -/
theorem IsList.addAfter {l₁ l₂ : List α} (h : IsList L (l₁ ++ l₂)) {x : α} (hx : x ∉ l₁ ++ l₂) :
    IsList (L.addAfter l₁.getLast? x) (l₁ ++ x :: l₂) := by
  obtain ⟨hnd, hP, hQ, hec⟩ := isList_append.1 h
  obtain ⟨hx₁, hx₂⟩ : x ∉ l₁ ∧ x ∉ l₂ := by simpa using hx
  obtain ⟨hnd₁, hnd₂, hdis⟩ := List.nodup_append'.1 hnd
  have he := getLast?_ne_some hx₁
  have hc := head?_ne_some hx₂
  rw [isList_append]
  refine ⟨?_, ?_, ?_, ?_⟩
  · rw [List.nodup_append']
    refine ⟨hnd₁, List.nodup_cons.2 ⟨hx₂, hnd₂⟩, ?_⟩
    simpa [List.disjoint_cons_right, hx₁] using hdis
  · refine hP.imp_of_mem_tail_imp fun a b ha hb hab => adj_addAfter hec ?_ ?_ ?_ hab
    · rintro rfl; exact hx₁ (by simpa using ha)
    · rintro rfl; exact hx₁ (by simpa using hb)
    · intro hbc
      obtain ⟨y, hy, rfl⟩ := List.mem_map.1 (show b ∈ l₁.map some from hb)
      exact hdis hy (List.mem_of_head? hbc.symm)
  · rw [List.map_cons, List.cons_append, refs_eq_cons, List.isChain_cons_cons]
    refine ⟨?_, ?_⟩
    · simp [Links.Adj, Links.addAfter, hec.1, he.symm]
    · have hQn := refs_nodup hnd₂
      rw [refs_eq_cons] at hQ hQn
      refine hQ.imp_of_mem_tail_imp fun a b ha hb hab => adj_addAfter hec ?_ ?_ ?_ hab
      · rintro rfl; rw [← refs_eq_cons] at ha; exact hx₂ (by simpa using ha)
      · rintro rfl
        have hm := List.mem_of_mem_tail (show some x ∈ (l₂.map some ++ [none]).tail from hb)
        exact hx₂ (by simpa using hm)
      · rintro rfl; exact (List.nodup_cons.1 hQn).1 hb
  · simp [Links.Adj, Links.addAfter, hec.1, hc.symm]

/-- Adding after the head puts the element first. -/
theorem IsList.addAfter_head {x : α} {l : List α} (h : IsList L l) (hx : x ∉ l) :
    IsList (L.addAfter none x) (x :: l) :=
  IsList.addAfter (show IsList L ([] ++ l) from h) hx

private theorem adj_delete {p c a b : Option α} {x : α} (hp : L.Adj p (some x)) (hc : L.Adj (some x) c)
    (ha : a ≠ some x) (hb : b ≠ some x) (hab : L.Adj a b) : (L.delete x).Adj a b := by
  have hap : a ≠ p := by
    rintro rfl
    exact hb (Option.some.inj (hab.1.symm.trans hp.1))
  have hbc : b ≠ c := by
    rintro rfl
    exact ha (Option.some.inj (hab.2.symm.trans hc.2))
  simp only [Links.Adj, Links.delete, hc.1, hp.2]
  rw [Function.update_of_ne ha, Function.update_of_ne hap, Function.update_of_ne hb, Function.update_of_ne hbc]
  exact hab

/-- Unlinking `x` takes it out of the list and leaves the others in their order. -/
theorem IsList.delete {l₁ l₂ : List α} {x : α} (h : IsList L (l₁ ++ x :: l₂)) :
    IsList (L.delete x) (l₁ ++ l₂) := by
  obtain ⟨hnd, hP, hQ, hpx⟩ := isList_append.1 h
  obtain ⟨hx, hnd'⟩ := List.nodup_cons.1 (List.nodup_middle.1 hnd)
  obtain ⟨hx₁, hx₂⟩ : x ∉ l₁ ∧ x ∉ l₂ := by simpa using hx
  have hp := getLast?_ne_some hx₁
  have hc := head?_ne_some hx₂
  rw [List.map_cons, List.cons_append, List.isChain_cons, head?_refs] at hQ
  have hxc : L.Adj (some x) l₂.head? := hQ.1 _ rfl
  rw [isList_append]
  refine ⟨hnd', ?_, ?_, ?_⟩
  · refine hP.imp_of_mem_imp fun a b ha hb hab => adj_delete hpx hxc ?_ ?_ hab
    · rintro rfl; exact hx₁ (by simpa using ha)
    · rintro rfl; exact hx₁ (by simpa using hb)
  · refine hQ.2.imp_of_mem_imp fun a b ha hb hab => adj_delete hpx hxc ?_ ?_ hab
    · rintro rfl; exact hx₂ (by simpa using ha)
    · rintro rfl; exact hx₂ (by simpa using hb)
  · simp only [List.head?_cons] at hpx
    simp only [Links.Adj, Links.delete, hxc.1, hpx.2]
    rw [Function.update_of_ne hp, Function.update_self, Function.update_of_ne hc, Function.update_self]
    exact ⟨rfl, rfl⟩

/-- Deleting the first element leaves the rest. -/
theorem IsList.delete_head {x : α} {l : List α} (h : IsList L (x :: l)) : IsList (L.delete x) l :=
  IsList.delete (show IsList L ([] ++ x :: l) from h)

end Operations

/-! ### Reading the list -/

/-- The pointer at the end of the part `l₁` of the list leads to the rest. -/
theorem IsList.next_getLast? {L : Links α} {l₁ l₂ : List α} (h : IsList L (l₁ ++ l₂)) :
    L.next l₁.getLast? = some l₂.head? :=
  (isList_append.1 h).2.2.2.1

theorem IsList.next_head {L : Links α} {l : List α} (h : IsList L l) : L.next none = some l.head? := by
  have h' : IsList L ([] ++ l) := h
  exact h'.next_getLast?

theorem IsList.next_elem {L : Links α} {l₁ l₂ : List α} {x : α} (h : IsList L (l₁ ++ x :: l₂)) :
    L.next (some x) = some l₂.head? := by
  have h' : IsList L ((l₁ ++ [x]) ++ l₂) := by simpa using h
  simpa using h'.next_getLast?

private theorem walk_of_isList {L : Links α} {l₂ : List α} :
    ∀ (l₁ : List α) {n : Nat}, IsList L (l₁ ++ l₂) → l₂.length ≤ n → L.walk n l₁.getLast? = l₂ := by
  induction l₂ with
  | nil =>
    intro l₁ n h _
    cases n with
    | zero => rfl
    | succ n => rw [Links.walk, h.next_getLast?]; rfl
  | cons x l₂ ih =>
    intro l₁ n h hn
    obtain ⟨n, rfl⟩ : ∃ m, n = m + 1 := ⟨n - 1, by simp at hn; omega⟩
    have hrest := ih (l₁ ++ [x]) (n := n) (by simpa using h) (by simpa using hn)
    rw [Links.walk, h.next_getLast?]
    simpa using hrest

/-- Following the pointers from the head gives back the list. -/
theorem IsList.walk_head {L : Links α} {l : List α} (h : IsList L l) {n : Nat} (hn : l.length ≤ n) :
    L.walk n none = l :=
  walk_of_isList [] h hn

end IntrusiveList
