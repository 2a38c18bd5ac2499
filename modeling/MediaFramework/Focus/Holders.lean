import Mathlib.Data.List.Perm.Subperm
import MediaFramework.Focus.MediaFocus

/-!
# The focus stack as a list of holders

What the focus stack is for, without slots and links: a list of holders, the one on top first.  `Holds s depth hs`
says that the stack `s` stores the holders `hs`; it is the well-formedness of the stack, and every operation of
`focus_stack.c` is described by what it does to `hs`.
-/

namespace MediaFramework

open IntrusiveList

/-- A holder of audio focus: the slot it occupies, the index of its stream, its thread and its callback. -/
structure Holder where
  slot : Nat
  level : Nat
  tid : Nat
  callback : Nat
  argv : Option Nat
  deriving DecidableEq, Repr

/-- The contents of the slot of a holder in the given state. -/
def Holder.id (h : Holder) (st : FocusState) : AppFocusId :=
  { clientId := h.slot, focusLevel := h.level, threadId := h.tid, focusState := st,
    focusCallback := some h.callback, callbackArgv := h.argv }

@[simp] theorem Holder.id_clientId (h : Holder) (st : FocusState) : (h.id st).clientId = h.slot := rfl
@[simp] theorem Holder.id_focusLevel (h : Holder) (st : FocusState) : (h.id st).focusLevel = h.level := rfl
@[simp] theorem Holder.id_threadId (h : Holder) (st : FocusState) : (h.id st).threadId = h.tid := rfl
@[simp] theorem Holder.id_focusState (h : Holder) (st : FocusState) : (h.id st).focusState = st := rfl

/-- Marking the slot of a holder changes the state of its id and nothing else. -/
theorem Holder.setState_nodeList {s : AppFocusStack} {h : Holder} {st : FocusState} (hs : s.nodeList h.slot = h.id st)
    (st' : FocusState) : (s.setState h.slot st').nodeList h.slot = h.id st' := by
  unfold AppFocusStack.setState
  rw [setId_nodeList_self, hs]
  rfl

/-- Removing a holder from the node list resets its slot. -/
theorem Holder.nodeListRemove {s : AppFocusStack} {h : Holder} {st : FocusState} (hs : s.nodeList h.slot = h.id st) :
    appFocusNodeListRemove s (s.nodeList h.slot).clientId = s.setId h.slot .unused := by
  unfold appFocusNodeListRemove
  rw [hs, Holder.id_clientId, Int.toNat_natCast, hs, Holder.id_clientId, if_pos (by omega)]

/-- The stack stores the holders `hs`, the first on top: the links spell their slots, the size is counted right, the
first slot is marked TOP and the others UNDER, and the slots outside the list are free. -/
structure Holds (s : AppFocusStack) (depth : Nat) (hs : List Holder) : Prop where
  list : IsList s.links (hs.map Holder.slot)
  slot_lt : ∀ h ∈ hs, h.slot < depth
  cur : s.curSize = hs.length
  max : s.maxSize = depth
  top : ∀ h ∈ hs.head?, s.nodeList h.slot = h.id .top
  under : ∀ h ∈ hs.tail, s.nodeList h.slot = h.id .under
  free : ∀ i, i ∉ hs.map Holder.slot → (s.nodeList i).clientId = -1

variable {s s' : AppFocusStack} {depth : Nat} {hs : List Holder}

/-! ### Reading the stack -/

theorem Holds.nodup (H : Holds s depth hs) : (hs.map Holder.slot).Nodup := H.list.nodup

theorem Holds.length_le (H : Holds s depth hs) : hs.length ≤ depth := by
  have hsub : (hs.map Holder.slot).Subperm (List.range depth) := by
    refine H.nodup.subperm fun i hi => ?_
    obtain ⟨h, hh, rfl⟩ := List.mem_map.1 hi
    exact List.mem_range.2 (H.slot_lt h hh)
  simpa using hsub.length_le

/-- The slot of a holder holds its id, in one state or the other. -/
theorem Holds.nodeList_eq (H : Holds s depth hs) {h : Holder} (hh : h ∈ hs) : ∃ st, s.nodeList h.slot = h.id st := by
  cases hs with
  | nil => cases hh
  | cons k rest =>
    rcases List.mem_cons.1 hh with rfl | hm
    · exact ⟨_, H.top h rfl⟩
    · exact ⟨_, H.under h hm⟩

/-- Every holder is in the slot that bears its number. -/
theorem Holds.clientId (H : Holds s depth hs) {h : Holder} (hh : h ∈ hs) : (s.nodeList h.slot).clientId = h.slot := by
  obtain ⟨st, hst⟩ := H.nodeList_eq hh
  rw [hst]; rfl

theorem Holds.threadId (H : Holds s depth hs) {h : Holder} (hh : h ∈ hs) : (s.nodeList h.slot).threadId = h.tid := by
  obtain ⟨st, hst⟩ := H.nodeList_eq hh
  rw [hst]; rfl

theorem Holds.focusLevel (H : Holds s depth hs) {h : Holder} (hh : h ∈ hs) :
    (s.nodeList h.slot).focusLevel = h.level := by
  obtain ⟨st, hst⟩ := H.nodeList_eq hh
  rw [hst]; rfl

theorem Holds.mem_iff (H : Holds s depth hs) (i : Nat) :
    i ∈ hs.map Holder.slot ↔ (s.nodeList i).clientId ≠ -1 := by
  constructor
  · intro hi
    obtain ⟨h, hh, rfl⟩ := List.mem_map.1 hi
    rw [H.clientId hh]
    omega
  · intro hi
    by_contra hn
    exact hi (H.free i hn)

theorem Holds.entries (H : Holds s depth hs) : s.entries = hs.map Holder.slot := by
  unfold AppFocusStack.entries
  refine H.list.walk_head ?_
  rw [H.max, List.length_map]
  exact H.length_le

theorem Holds.isEmpty (H : Holds s depth hs) : appFocusStackIsEmpty s = hs.isEmpty := by
  cases hs <;> simp [appFocusStackIsEmpty, H.cur]

theorem Holds.isFull_eq_false (H : Holds s depth hs) (hlt : hs.length < depth) : appFocusStackIsFull s = false := by
  simp only [appFocusStackIsFull, H.cur, H.max, beq_eq_false_iff_ne]
  omega

theorem Holds.nextElem_head (H : Holds s depth hs) :
    s.links.nextElem none none = hs.head?.map Holder.slot := by
  unfold Links.nextElem
  rw [H.list.next_head]
  cases hs <;> rfl

/-- The entry after a holder, looked up from the list head as the iterations do. -/
theorem Holds.nextElem_mid {l₁ l₂ : List Holder} {h : Holder} (H : Holds s depth (l₁ ++ h :: l₂)) :
    s.links.nextElem none (some h.slot) = l₂.head?.map Holder.slot := by
  have hl : IsList s.links (l₁.map Holder.slot ++ h.slot :: l₂.map Holder.slot) := by simpa using H.list
  unfold Links.nextElem
  rw [hl.next_elem]
  cases l₂ <;> rfl

theorem Holds.top_eq (H : Holds s depth hs) : appFocusStackTop s = hs.head?.map (·.id .top) := by
  unfold appFocusStackTop
  rw [H.isEmpty, H.nextElem_head]
  cases hs with
  | nil => rfl
  | cons h rest => simp [H.top h rfl]

/-- The first slot that no holder occupies. -/
def freeSlot (depth : Nat) (hs : List Holder) : Option Nat :=
  (List.range depth).find? fun i => decide (i ∉ hs.map Holder.slot)

theorem freeSlot_spec {i : Nat} (h : freeSlot depth hs = some i) : i < depth ∧ i ∉ hs.map Holder.slot := by
  have hi := List.mem_of_find?_eq_some h
  have hc := List.find?_some h
  exact ⟨List.mem_range.1 hi, by simpa using hc⟩

/-- A stack without a free slot is full. -/
theorem freeSlot_eq_none (h : freeSlot depth hs = none) : depth ≤ hs.length := by
  unfold freeSlot at h
  rw [List.find?_eq_none] at h
  have hsub : (List.range depth).Subperm (hs.map Holder.slot) := by
    refine List.nodup_range.subperm fun i hi => ?_
    have := h i hi
    simpa using this
  simpa using hsub.length_le

theorem Holds.freeSlot_eq_none_iff (H : Holds s depth hs) : freeSlot depth hs = none ↔ hs.length = depth := by
  constructor
  · intro h
    exact Nat.le_antisymm H.length_le (freeSlot_eq_none h)
  · intro hfull
    have hperm : (hs.map Holder.slot).Perm (List.range depth) := by
      have hsub : (hs.map Holder.slot).Subperm (List.range depth) := by
        refine List.Nodup.subperm H.nodup fun i hi => ?_
        obtain ⟨h, hh, rfl⟩ := List.mem_map.1 hi
        exact List.mem_range.2 (H.slot_lt h hh)
      exact hsub.perm_of_length_le (by simp [hfull])
    unfold freeSlot
    rw [List.find?_eq_none]
    intro i hi
    simpa using hperm.mem_iff.2 hi

theorem Holds.freeClientId (H : Holds s depth hs) :
    appFocusFreeClientId s = match freeSlot depth hs with | some i => (i : Int) | none => -ENODATA := by
  unfold appFocusFreeClientId
  by_cases hfull : hs.length = depth
  · have : appFocusStackIsFull s = true := by simp [appFocusStackIsFull, H.cur, H.max, hfull]
    rw [this, H.freeSlot_eq_none_iff.2 hfull]
    rfl
  · rw [H.isFull_eq_false (Nat.lt_of_le_of_ne H.length_le hfull), H.max]
    have hp : (fun i => decide ((s.nodeList i).clientId = -1)) = fun i => decide (i ∉ hs.map Holder.slot) := by
      funext i
      rw [decide_eq_decide, H.mem_iff, not_not]
    rw [hp]
    rfl

/-! ### Taking a holder out and putting one in -/

theorem holds_init (depth : Nat) : Holds (appFocusStackInit depth) depth [] where
  list := isList_init_head _
  slot_lt := by simp
  cur := rfl
  max := rfl
  top := by simp
  under := by simp
  free := fun _ _ => rfl

private theorem slot_ne_of_nodup {l₁ l₂ : List Holder} {x h : Holder}
    (hnd : ((l₁ ++ x :: l₂).map Holder.slot).Nodup) (hh : h ∈ l₁ ++ l₂) : h.slot ≠ x.slot := by
  have hnd' : (x.slot :: (l₁ ++ l₂).map Holder.slot).Nodup := by
    rw [List.map_append, List.map_cons] at hnd
    rw [List.map_append]
    exact List.nodup_middle.1 hnd
  intro he
  exact (List.nodup_cons.1 hnd').1 (he ▸ List.mem_map.2 ⟨h, hh, rfl⟩)

/-- Freeing a slot below the top keeps the others as they are. -/
theorem Holds.remove_under {l₁ l₂ : List Holder} {x : Holder} (H : Holds s depth (l₁ ++ x :: l₂)) (hne : l₁ ≠ [])
    (hlinks : s'.links = s.links.delete x.slot) (hnode : ∀ i, i ≠ x.slot → s'.nodeList i = s.nodeList i)
    (hx : (s'.nodeList x.slot).clientId = -1) (hcur : s'.curSize = s.curSize - 1) (hmax : s'.maxSize = s.maxSize) :
    Holds s' depth (l₁ ++ l₂) := by
  obtain ⟨k, l₁, rfl⟩ := List.exists_cons_of_ne_nil hne
  have hslot : ∀ h ∈ k :: l₁ ++ l₂, s'.nodeList h.slot = s.nodeList h.slot := fun h hh =>
    hnode _ (slot_ne_of_nodup H.nodup hh)
  refine ⟨?_, ?_, ?_, by rw [hmax, H.max], ?_, ?_, ?_⟩
  · rw [hlinks, List.map_append]
    exact IsList.delete (by simpa using H.list)
  · intro h hh
    refine H.slot_lt h ?_
    simp only [List.mem_append, List.mem_cons] at hh ⊢
    tauto
  · rw [hcur, H.cur]; simp; omega
  · intro h hh
    have hk : k = h := by simpa using hh
    subst hk
    rw [hslot k (by simp)]
    exact H.top k rfl
  · intro h hh
    rw [hslot h (by simp at hh ⊢; tauto)]
    refine H.under h ?_
    simp at hh ⊢; tauto
  · intro i hi
    by_cases he : i = x.slot
    · rw [he]; exact hx
    · rw [hnode i he]
      refine H.free i ?_
      simp only [List.map_append, List.map_cons, List.mem_append, List.mem_cons] at hi ⊢
      tauto

/-- Freeing the top slot makes the next holder the top one. -/
theorem Holds.remove_top {x y : Holder} {l : List Holder} (H : Holds s depth (x :: y :: l))
    (hlinks : s'.links = s.links.delete x.slot)
    (hnode : ∀ i, i ≠ x.slot → i ≠ y.slot → s'.nodeList i = s.nodeList i)
    (hx : (s'.nodeList x.slot).clientId = -1) (hy : s'.nodeList y.slot = y.id .top)
    (hcur : s'.curSize = s.curSize - 1) (hmax : s'.maxSize = s.maxSize) : Holds s' depth (y :: l) := by
  have hnd := H.nodup
  simp only [List.map_cons, List.nodup_cons] at hnd
  refine ⟨?_, fun h hh => H.slot_lt h (List.mem_cons_of_mem _ hh), ?_, by rw [hmax, H.max], ?_, ?_, ?_⟩
  · rw [hlinks]
    exact H.list.delete_head
  · rw [hcur, H.cur]; simp
  · rintro h ⟨⟩; exact hy
  · intro h hh
    have hm : h.slot ∈ l.map Holder.slot := List.mem_map.2 ⟨h, hh, rfl⟩
    have hhx : h.slot ≠ x.slot := fun he => hnd.1 (List.mem_cons_of_mem _ (he ▸ hm))
    have hhy : h.slot ≠ y.slot := fun he => hnd.2.1 (he ▸ hm)
    rw [hnode _ hhx hhy]
    exact H.under h (List.mem_cons_of_mem _ hh)
  · intro i hi
    simp only [List.map_cons, List.mem_cons, not_or] at hi
    by_cases he : i = x.slot
    · rw [he]; exact hx
    · rw [hnode i he hi.1]
      exact H.free i (by simp [he, hi])

/-- Freeing the only slot in use empties the stack. -/
theorem Holds.remove_last {x : Holder} (H : Holds s depth [x]) (hlinks : IsList s'.links [])
    (hnode : ∀ i, i ≠ x.slot → s'.nodeList i = s.nodeList i) (hx : (s'.nodeList x.slot).clientId = -1)
    (hcur : s'.curSize = s.curSize - 1) (hmax : s'.maxSize = s.maxSize) : Holds s' depth [] := by
  refine ⟨hlinks, by simp, by rw [hcur, H.cur]; rfl, by rw [hmax, H.max], by simp, by simp, fun i _ => ?_⟩
  by_cases he : i = x.slot
  · rw [he]; exact hx
  · rw [hnode i he]
    exact H.free i (by simpa using he)

/-- Filling a free slot and linking it in first makes it the top holder. -/
theorem Holds.add_top {x : Holder} (H : Holds s depth hs) (hlt : x.slot < depth) (hfree : x.slot ∉ hs.map Holder.slot)
    (hlinks : s'.links = (s.links.init (some x.slot)).addAfter none x.slot)
    (hx : s'.nodeList x.slot = x.id .top)
    (htop : ∀ h ∈ hs.head?, s'.nodeList h.slot = h.id .under)
    (hnode : ∀ i, i ≠ x.slot → (∀ h ∈ hs.head?, i ≠ h.slot) → s'.nodeList i = s.nodeList i)
    (hcur : s'.curSize = s.curSize + 1) (hmax : s'.maxSize = s.maxSize) : Holds s' depth (x :: hs) := by
  have hne : ∀ h ∈ hs, h.slot ≠ x.slot := fun h hh he => hfree (he ▸ List.mem_map.2 ⟨h, hh, rfl⟩)
  refine ⟨?_, ?_, by rw [hcur, H.cur]; rfl, by rw [hmax, H.max], ?_, ?_, ?_⟩
  · rw [hlinks]
    exact (H.list.init_of_notMem hfree).addAfter_head hfree
  · intro h hh
    rcases List.mem_cons.1 hh with rfl | hm
    · exact hlt
    · exact H.slot_lt h hm
  · rintro h ⟨⟩; exact hx
  · intro h hh
    cases hs with
    | nil => cases hh
    | cons k rest =>
      rcases List.mem_cons.1 (show h ∈ k :: rest from hh) with rfl | hm
      · exact htop h rfl
      · have hk : h.slot ≠ k.slot := by
          have hnd := H.nodup
          rw [List.map_cons, List.nodup_cons] at hnd
          exact fun he => hnd.1 (he ▸ List.mem_map.2 ⟨h, hm, rfl⟩)
        rw [hnode h.slot (hne h (List.mem_cons_of_mem _ hm)) (by rintro _ ⟨⟩; exact hk)]
        exact H.under h hm
  · intro i hi
    simp only [List.map_cons, List.mem_cons, not_or] at hi
    rw [hnode i hi.1 fun h hh he => hi.2 (he ▸ List.mem_map.2 ⟨h, List.mem_of_mem_head? hh, rfl⟩)]
    exact H.free i hi.2

/-- Filling a free slot and linking it in after a holder puts it below that holder. -/
theorem Holds.add_under {l₁ l₂ : List Holder} {x y : Holder} (H : Holds s depth (l₁ ++ y :: l₂))
    (hlt : x.slot < depth) (hfree : x.slot ∉ (l₁ ++ y :: l₂).map Holder.slot)
    (hlinks : s'.links = (s.links.init (some x.slot)).addAfter (some y.slot) x.slot)
    (hx : s'.nodeList x.slot = x.id .under) (hnode : ∀ i, i ≠ x.slot → s'.nodeList i = s.nodeList i)
    (hcur : s'.curSize = s.curSize + 1) (hmax : s'.maxSize = s.maxSize) :
    Holds s' depth (l₁ ++ y :: x :: l₂) := by
  have hne : ∀ h ∈ l₁ ++ y :: l₂, h.slot ≠ x.slot := fun h hh he => hfree (he ▸ List.mem_map.2 ⟨h, hh, rfl⟩)
  have hmem : ∀ h, h ∈ (l₁ ++ y :: x :: l₂).tail → h = x ∨ h ∈ (l₁ ++ y :: l₂).tail := by
    intro h hh
    cases l₁ <;> simp at hh ⊢ <;> tauto
  have hhead : (l₁ ++ y :: x :: l₂).head? = (l₁ ++ y :: l₂).head? := by cases l₁ <;> rfl
  refine ⟨?_, ?_, by rw [hcur, H.cur]; simp; omega, by rw [hmax, H.max], ?_, ?_, ?_⟩
  · have hl : IsList (s.links.init (some x.slot)) ((l₁.map Holder.slot ++ [y.slot]) ++ l₂.map Holder.slot) := by
      simpa using H.list.init_of_notMem hfree
    have hadd := hl.addAfter (x := x.slot) (by simpa using hfree)
    rw [hlinks]
    simpa using hadd
  · intro h hh
    rcases (by simpa using hh : h ∈ l₁ ∨ h = y ∨ h = x ∨ h ∈ l₂) with hm | rfl | rfl | hm
    · exact H.slot_lt h (by simp [hm])
    · exact H.slot_lt h (by simp)
    · exact hlt
    · exact H.slot_lt h (by simp [hm])
  · intro h hh
    rw [hhead] at hh
    rw [hnode _ (hne h (List.mem_of_mem_head? hh))]
    exact H.top h hh
  · intro h hh
    rcases hmem h hh with rfl | hm
    · exact hx
    · rw [hnode _ (hne h (List.mem_of_mem_tail hm))]
      exact H.under h hm
  · intro i hi
    have hi' : i ≠ x.slot ∧ i ∉ (l₁ ++ y :: l₂).map Holder.slot := by
      simp only [List.map_append, List.map_cons, List.mem_append, List.mem_cons] at hi ⊢
      tauto
    rw [hnode i hi'.1]
    exact H.free i hi'.2

end MediaFramework
