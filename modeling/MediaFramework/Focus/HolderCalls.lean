import MediaFramework.Focus.FocusRefine

/-!
# Requests and abandons on the list of holders

`clearHolders`, `holdersRequest` and `holdersAbandon` are `app_focus_stack_useless_clear` and the two calls of
`media_focus.c` on the list of holders.  `request_eq` and `abandon_eq` say that the code over slots and links does the
same, so a property of all runs can be proved on lists.
-/

namespace MediaFramework

open IntrusiveList

variable {t : InteractionTable} {s : AppFocusStack} {depth : Nat} {hs : List Holder} {alive : Nat → Nat → Bool}

/-! ### Clearing dead holders -/

/-- The holders kept by one pass over the list, the number of aliveness answers used, and the callbacks: while the
holder on top is dead it is removed, and the next one is told to play if it is found alive. -/
def clearHolders (alive : Nat → Nat → Bool) : Bool → List Holder → Nat → List Holder × Nat × List FocusEvent
  | _, [], now => ([], now, [])
  | isTop, h :: rest, now =>
    if alive now h.tid then
      let r := clearHolders alive false rest (now + 1)
      (h :: r.1, r.2.1, r.2.2)
    else if isTop then
      match rest with
      | [] => ([], now + 1, [])
      | k :: _ =>
        let r := clearHolders alive true rest (now + 2)
        (r.1, r.2.1, (if alive (now + 1) k.tid then [FocusEvent.suggest (k.id .top) MEDIA_FOCUS_PLAY] else []) ++ r.2.2)
    else clearHolders alive false rest (now + 1)

theorem clearHolders_of_alive {h : Holder} {now : Nat} (rest : List Holder) (isTop : Bool)
    (hal : alive now h.tid = true) : clearHolders alive isTop (h :: rest) now =
      (h :: (clearHolders alive false rest (now + 1)).1, (clearHolders alive false rest (now + 1)).2) := by
  cases rest <;> simp [clearHolders, hal]

theorem clearHolders_of_dead_under {h : Holder} {now : Nat} (rest : List Holder) (hal : ¬ alive now h.tid = true) :
    clearHolders alive false (h :: rest) now = clearHolders alive false rest (now + 1) := by
  cases rest <;> simp [clearHolders, hal]

theorem clearHolders_of_dead_last {h : Holder} {now : Nat} (hal : ¬ alive now h.tid = true) :
    clearHolders alive true [h] now = ([], now + 1, []) := by
  simp [clearHolders, hal]

theorem clearHolders_of_dead_top {h : Holder} {now : Nat} (k : Holder) (rest : List Holder)
    (hal : ¬ alive now h.tid = true) :
    clearHolders alive true (h :: k :: rest) now =
      ((clearHolders alive true (k :: rest) (now + 2)).1, (clearHolders alive true (k :: rest) (now + 2)).2.1,
        (if alive (now + 1) k.tid then [FocusEvent.suggest (k.id .top) MEDIA_FOCUS_PLAY] else []) ++
        (clearHolders alive true (k :: rest) (now + 2)).2.2) := by
  rw [clearHolders, if_neg hal, if_pos rfl]

/-- A pass removes holders and neither adds nor reorders any. -/
theorem clearHolders_sublist (alive : Nat → Nat → Bool) (isTop : Bool) (hs : List Holder) (now : Nat) :
    (clearHolders alive isTop hs now).1.Sublist hs := by
  fun_induction clearHolders alive isTop hs now with
  | case1 => exact .slnil
  | case2 isTop h rest now hal r ih => exact ih.cons_cons h
  | case3 => exact List.nil_sublist _
  | case4 h now hal k rest ih => exact ih.cons h
  | case5 isTop h rest now hal htop ih => exact ih.cons h

private theorem exists_prepend {r : AppFocusStack × Nat × List FocusEvent} {now : Nat} {ev ev' : List FocusEvent}
    {P : AppFocusStack → Prop} (h : ∃ s', r = (s', now, ev') ∧ P s') :
    ∃ s', (r.1, r.2.1, ev ++ r.2.2) = (s', now, ev ++ ev') ∧ P s' := by
  obtain ⟨s', rfl, hP⟩ := h
  exact ⟨s', rfl, hP⟩

private theorem uselessClearLoop_eq (rem : List Holder) : ∀ (kept : List Holder) (s : AppFocusStack) (now fuel : Nat),
    Holds s depth (kept ++ rem) → rem.length < fuel →
    ∃ s', appFocusStackUselessClearLoop (mediaFocusStackCallback t) alive NONBLOCK_CALLBACK_FLAG fuel
        (rem.head?.map Holder.slot) s now =
        (s', (clearHolders alive kept.isEmpty rem now).2.1, (clearHolders alive kept.isEmpty rem now).2.2) ∧
      Holds s' depth (kept ++ (clearHolders alive kept.isEmpty rem now).1) := by
  induction rem with
  | nil =>
    intro kept s now fuel H hfuel
    obtain ⟨n, rfl⟩ : ∃ n, fuel = n + 1 := ⟨fuel - 1, by simp at hfuel; omega⟩
    exact ⟨s, rfl, by simpa [clearHolders] using H⟩
  | cons h rest ih =>
    intro kept s now fuel H hfuel
    obtain ⟨n, rfl⟩ : ∃ n, fuel = n + 1 := ⟨fuel - 1, by simp at hfuel; omega⟩
    have hn : rest.length < n := by simpa using hfuel
    simp only [List.head?_cons, Option.map_some, appFocusStackUselessClearLoop, H.nextElem_mid,
      H.threadId (h := h) (by simp)]
    by_cases hal : alive now h.tid = true
    · -- an alive holder stays, and from here on the pass is below the top
      have hclear := clearHolders_of_alive rest kept.isEmpty hal
      obtain ⟨s', hs', H'⟩ := ih (kept ++ [h]) s (now + 1) n (by simpa using H) hn
      rw [show (kept ++ [h]).isEmpty = false by simp] at hs' H'
      rw [if_pos hal, hclear]
      exact ⟨s', hs', by simpa using H'⟩
    · rw [if_neg hal]
      cases kept with
      | cons k kept =>
        have hclear := clearHolders_of_dead_under rest hal
        have hund : s.nodeList h.slot = h.id .under := H.under h (by simp)
        simp only [hund, Holder.id_focusState, reduceCtorEq, ↓reduceIte, List.isEmpty_cons, hclear]
        rw [Holder.nodeListRemove (by exact Holder.setState_nodeList hund .quit)]
        refine exists_prepend (ih (k :: kept) _ (now + 1) n ?_ hn)
        refine H.remove_under (by simp) rfl (fun i hi => ?_) ?_ rfl rfl
        · exact (setId_nodeList_of_ne hi).trans (setState_nodeList_of_ne hi)
        · exact congrArg AppFocusId.clientId (setId_nodeList_self ..)
      | nil =>
        have htop : s.nodeList h.slot = h.id .top := H.top h rfl
        simp only [htop, Holder.id_focusState, ↓reduceIte, List.isEmpty_nil, List.nil_append]
        cases rest with
        | nil =>
          have hcur : s.curSize = 1 := H.cur
          have hclear : clearHolders alive true [h] now = clearHolders alive true [] (now + 1) :=
            clearHolders_of_dead_last hal
          simp only [hcur, ↓reduceIte, hclear]
          rw [Holder.nodeListRemove (by exact Holder.setState_nodeList htop .quit)]
          refine exists_prepend (ih [] _ (now + 1) n ?_ hn)
          refine H.remove_last (isList_init_head _) (fun i hi => ?_) ?_ (by simp [hcur]) rfl
          · exact (setId_nodeList_of_ne hi).trans (setState_nodeList_of_ne hi)
          · exact congrArg AppFocusId.clientId (setId_nodeList_self ..)
        | cons k rest =>
          have hkh := slot_ne_slot H
          have hcur : ¬ s.curSize = 1 := by rw [H.cur]; simp
          have hclear := clearHolders_of_dead_top k rest hal
          have hk : AppFocusStack.nodeList (AppFocusStack.setState
              { s with links := s.links.delete h.slot } k.slot .top) k.slot = k.id .top :=
            Holder.setState_nodeList (H.under k (by simp)) .top
          have hh : (s.setState k.slot .top).nodeList h.slot = h.id .top := by
            rw [setState_nodeList_of_ne hkh.symm, htop]
          simp only [hcur, ↓reduceIte, List.head?_cons, Option.map_some, hclear, hk, stackCallback_top,
            Holder.id_threadId]
          rw [Holder.nodeListRemove (by exact Holder.setState_nodeList hh .quit)]
          refine exists_prepend (ih [] _ (now + 2) n ?_ hn)
          refine H.remove_top rfl (fun i hi hik => ?_) ?_ ?_ rfl rfl
          · exact (setId_nodeList_of_ne hi).trans ((setState_nodeList_of_ne hi).trans (setState_nodeList_of_ne hik))
          · exact congrArg AppFocusId.clientId (setId_nodeList_self ..)
          · exact (setId_nodeList_of_ne hkh).trans ((setState_nodeList_of_ne hkh).trans hk)

theorem uselessClear_eq (alive : Nat → Nat → Bool) (H : Holds s depth hs) (now : Nat) :
    ∃ s', appFocusStackUselessClear (mediaFocusStackCallback t) alive s now NONBLOCK_CALLBACK_FLAG =
        (s', (clearHolders alive true hs now).2.1, (clearHolders alive true hs now).2.2) ∧
      Holds s' depth (clearHolders alive true hs now).1 := by
  unfold appFocusStackUselessClear
  rw [H.isEmpty, H.nextElem_head, H.max]
  cases hs with
  | nil => exact ⟨s, rfl, H⟩
  | cons h rest =>
    have hlen := H.length_le
    simp only [List.isEmpty_cons, Bool.false_eq_true, ↓reduceIte]
    exact uselessClearLoop_eq (h :: rest) [] s now (depth + 1) H (by omega)

/-! ### The two calls -/

/-- Result of a focus call on the holders: the holders afterwards, the aliveness answers used, the callbacks, and for
a request that returned a handle the slot and the suggestion. -/
structure HoldersResult where
  holders : List Holder
  now : Nat
  events : List FocusEvent
  reply : Option (Nat × Int)

/-- The place of a new holder: before the first holder whose level is not below its own. -/
def insertIndex (hs : List Holder) (level : Nat) : Nat := hs.findIdx fun h => decide (level ≤ h.level)

/-- A request of the stream with index `level`, once dead holders are gone and `slot` is free. -/
def admitHolder (t : InteractionTable) (hs : List Holder) (new : Holder) : List Holder × List FocusEvent × Option Int :=
  match hs with
  | [] => ([new], [], some MEDIA_FOCUS_PLAY)
  | top :: _ =>
    let v := t.proInter new.level top.level
    if v = MEDIA_FOCUS_PLAY then (new :: hs, broadcastEvents t (new :: hs), some MEDIA_FOCUS_PLAY)
    else if v = MEDIA_FOCUS_PLAY_BUT_SILENT ∨ v = MEDIA_FOCUS_PLAY_WITH_DUCK then
      if insertIndex hs new.level = 0 then (hs, [], none)
      else (hs.take (insertIndex hs new.level) ++ new :: hs.drop (insertIndex hs new.level), [], some v)
    else if v < 0 then (hs, [], none)
    else (hs, [], some MEDIA_FOCUS_STOP)

def holdersRequest (t : InteractionTable) (depth : Nat) (alive : Nat → Nat → Bool) (hs : List Holder) (now : Nat)
    (name : Option String) (callback argv : Option Nat) (tid : Nat) : HoldersResult :=
  match callback, name.bind fun n => t.streams.findIdx? (· == n) with
  | some c, some level =>
    let cl := clearHolders alive true hs now
    match freeSlot depth cl.1 with
    | none => ⟨cl.1, cl.2.1, cl.2.2, none⟩
    | some slot =>
      let r := admitHolder t cl.1 ⟨slot, level, tid, c, argv⟩
      ⟨r.1, cl.2.1, cl.2.2 ++ r.2.1, r.2.2.map (slot, ·)⟩
  | _, _ => ⟨hs, now, [], none⟩

/-- An abandon of the slot `id`, once dead holders are gone. -/
def dropHolder (t : InteractionTable) (hs : List Holder) (id : Int) : List Holder × List FocusEvent :=
  match hs with
  | [] => ([], [])
  | top :: rest =>
    if (top.slot : Int) = id then
      (rest, (rest.head?.toList.map fun k => .suggest (k.id .top) MEDIA_FOCUS_PLAY) ++ broadcastEvents t rest)
    else (top :: rest.eraseP fun h => decide ((h.slot : Int) = id), [])

def holdersAbandon (t : InteractionTable) (alive : Nat → Nat → Bool) (hs : List Holder) (now : Nat)
    (handle : BitVec 32) : HoldersResult :=
  if handle.toInt < ID_SHIFT - 1 then ⟨hs, now, [], none⟩
  else
    let cl := clearHolders alive true hs now
    let r := dropHolder t cl.1 (handleToId handle)
    ⟨r.1, cl.2.1, cl.2.2 ++ r.2, none⟩

def holdersCall (t : InteractionTable) (depth : Nat) (alive : Nat → Nat → Bool) (hs : List Holder) (now : Nat) :
    FocusCall → HoldersResult
  | .request name callback argv tid => holdersRequest t depth alive hs now name callback argv tid
  | .abandon handle => holdersAbandon t alive hs now handle

/-- Every holder is one of a stream of the table. -/
def LevelsBelow (t : InteractionTable) (hs : List Holder) : Prop := ∀ h ∈ hs, h.level < t.num

theorem LevelsBelow.sublist {l : List Holder} (h : LevelsBelow t hs) (hl : l.Sublist hs) : LevelsBelow t l :=
  fun k hk => h k (hl.subset hk)

/-! ### The code refines the calls on lists -/

private theorem insertIndex_eq (H : Holds s depth hs) (level : Nat) : ∀ (n i : Nat), hs.length ≤ i + n → i ≤ hs.length →
    (∀ j < i, ∀ h ∈ hs[j]?, ¬ level ≤ h.level) → mediaFocusInsertIndex s level n i = insertIndex hs level := by
  intro n
  induction n with
  | zero =>
    intro i hlen hi hbefore
    have : i = hs.length := by omega
    subst this
    unfold mediaFocusInsertIndex insertIndex
    symm
    rw [List.findIdx_eq_length]
    intro h hh
    obtain ⟨j, hj, rfl⟩ := List.mem_iff_getElem.1 hh
    simpa using hbefore j hj hs[j] (List.getElem?_eq_getElem hj)
  | succ n ih =>
    intro i hlen hi hbefore
    unfold mediaFocusInsertIndex appFocusStackGetIndex
    rw [H.entries, List.getElem?_map]
    rcases Nat.lt_or_ge i hs.length with hlt | hge
    · rw [List.getElem?_eq_getElem hlt]
      simp only [Option.map_some, H.focusLevel (List.getElem_mem hlt)]
      split
      · rename_i hle
        symm
        unfold insertIndex
        rw [List.findIdx_eq hlt]
        refine ⟨by simpa using hle, fun j hj => ?_⟩
        have := hbefore j hj _ (List.getElem?_eq_getElem (by omega))
        simpa using this
      · rename_i hle
        refine ih (i + 1) (by omega) hlt fun j hj h hh => ?_
        rcases Nat.lt_or_eq_of_le (Nat.lt_succ_iff.1 hj) with hj' | rfl
        · exact hbefore j hj' h hh
        · rw [List.getElem?_eq_getElem hlt] at hh
          cases hh
          exact hle
    · have : i = hs.length := by omega
      subst this
      rw [List.getElem?_eq_none hge]
      simp only [Option.map_none]
      symm
      unfold insertIndex
      rw [List.findIdx_eq_length]
      intro h hh
      obtain ⟨j, hj, rfl⟩ := List.mem_iff_getElem.1 hh
      simpa using hbefore j hj hs[j] (List.getElem?_eq_getElem hj)

/-- The result `r` of a call of the code is the result `a` of the call on the holders. -/
structure Refines (t : InteractionTable) (depth : Nat) (r : FocusResult) (a : HoldersResult) : Prop where
  holds : Holds r.focus.stack depth a.holders
  table : r.focus.table = t
  levels : LevelsBelow t a.holders
  now : r.now = a.now
  events : r.events = a.events
  handle : r.handle = a.reply.map fun p => idToHandle (if p.2 = MEDIA_FOCUS_STOP then p.1 + depth else p.1)
  returnType : ∀ p ∈ a.reply, r.returnType = some p.2

private theorem refines_same {f : MediaFocus} (H : Holds f.stack depth hs) (hl : LevelsBelow f.table hs) (now : Nat)
    (ret : Int) : Refines f.table depth ⟨none, none, ret, f, now, []⟩ ⟨hs, now, [], none⟩ :=
  ⟨H, rfl, hl, rfl, rfl, rfl, by simp⟩

private theorem findIdx?_lt {n : String} {level : Nat} (h : t.streams.findIdx? (· == n) = some level) :
    level < t.num :=
  (List.findIdx?_eq_some_iff_findIdx_eq.1 h).1

theorem request_eq {f : MediaFocus} (H : Holds f.stack depth hs) (hl : LevelsBelow f.table hs) (now : Nat)
    (name : Option String) (callback argv : Option Nat) (tid : Nat) :
    Refines f.table depth (mediaFocusRequest alive f now name callback argv tid)
      (holdersRequest f.table depth alive hs now name callback argv tid) := by
  unfold mediaFocusRequest holdersRequest
  cases callback with
  | none => exact refines_same H hl now _
  | some c =>
    cases name with
    | none => exact refines_same H hl now _
    | some n =>
      simp only [Option.bind_some]
      cases hidx : f.table.streams.findIdx? (· == n) with
      | none => exact refines_same H hl now _
      | some level =>
        obtain ⟨s₁, hclear, H₁⟩ := uselessClear_eq (t := f.table) alive H now
        have hl₁ := hl.sublist (clearHolders_sublist alive true hs now)
        have hlevel := findIdx?_lt hidx
        simp only [hclear]
        generalize clearHolders alive true hs now = cl at *
        rw [H₁.freeClientId]
        cases hfree : freeSlot depth cl.1 with
        | none =>
          simp only [show -ENODATA < 0 by decide, ↓reduceIte]
          exact ⟨H₁, rfl, hl₁, rfl, rfl, rfl, by simp⟩
        | some slot =>
          obtain ⟨hslot, hnew⟩ := freeSlot_spec hfree
          have hroom : cl.1.length < depth := by
            refine Nat.lt_of_le_of_ne H₁.length_le fun he => ?_
            rw [H₁.freeSlot_eq_none_iff.2 he] at hfree
            cases hfree
          simp only [show ¬ (slot : Int) < 0 by omega, ↓reduceIte, H₁.max, H₁.top_eq]
          have hid : (⟨slot, level, tid, .quit, some c, argv⟩ : AppFocusId) =
            Holder.id ⟨slot, level, tid, c, argv⟩ .quit := rfl
          rw [hid]
          generalize hx : (⟨slot, level, tid, c, argv⟩ : Holder) = x
          obtain rfl : slot = x.slot := by rw [← hx]
          obtain rfl : level = x.level := by rw [← hx]
          unfold admitHolder
          obtain ⟨s₂, hpush, H₂⟩ := push_eq (t := f.table) H₁ (x := x) hslot hnew hroom .quit
          have hl₂ : LevelsBelow f.table (x :: cl.1) := by
            intro h hh
            rcases List.mem_cons.1 hh with rfl | hm
            · exact hlevel
            · exact hl₁ h hm
          cases hcl : cl.1 with
          | nil =>
            rw [hcl] at H₂ hl₂
            simp only [List.head?_nil, Option.map_none, hpush]
            refine ⟨H₂, rfl, hl₂, rfl, rfl, ?_, by simp⟩
            simp [MEDIA_FOCUS_PLAY, MEDIA_FOCUS_STOP]
          | cons top rest =>
            rw [hcl] at H₁ H₂ hl₁ hl₂ hnew hroom
            have hloc : x.level * f.table.num + top.level < f.table.num * f.table.num :=
              f.table.location_lt hlevel (hl₁ top (by simp))
            have hpro : (f.table.matrix.getD (x.level * f.table.num + top.level) default).proInter =
              f.table.proInter x.level top.level := rfl
            simp only [List.head?_cons, Option.map_some, Holder.id_focusLevel, hloc, ↓reduceIte, hpro]
            generalize f.table.proInter x.level top.level = v
            by_cases hplay : v = MEDIA_FOCUS_PLAY
            · have hbc := broadcast_eq H₂ hl₂
              simp only [hplay, ↓reduceIte, hpush, hbc]
              refine ⟨H₂, rfl, hl₂, rfl, by simp, ?_, by simp⟩
              simp [MEDIA_FOCUS_PLAY, MEDIA_FOCUS_STOP]
            · simp only [hplay, ↓reduceIte]
              by_cases hbelow : v = MEDIA_FOCUS_PLAY_BUT_SILENT ∨ v = MEDIA_FOCUS_PLAY_WITH_DUCK
              · have hv : v ≠ MEDIA_FOCUS_STOP := by
                  rcases hbelow with rfl | rfl <;> decide
                simp only [hbelow, ↓reduceIte]
                unfold mediaFocusFocusIdInsert
                have hindex := insertIndex_eq H₁ x.level s₁.maxSize 0 (by rw [H₁.max]; have := H₁.length_le; omega)
                  (Nat.zero_le _) (by simp)
                have hle : insertIndex (top :: rest) x.level ≤ (top :: rest).length := List.findIdx_le_length
                obtain ⟨r, s₃, hins, hzero, hpos⟩ := insert_eq (t := f.table) H₁ (by simp) (x := x)
                  hslot hnew hroom .quit hle
                simp only [Holder.id_focusLevel, hindex, hins]
                rcases Nat.eq_zero_or_pos (insertIndex (top :: rest) x.level) with h0 | h0
                · obtain ⟨rfl, H₃⟩ := hzero h0
                  simp only [show -ENOENT < 0 by decide, show -EINVAL < 0 by decide, ↓reduceIte, h0]
                  exact ⟨H₃, rfl, hl₁, rfl, by simp, rfl, by simp⟩
                · obtain ⟨rfl, H₃⟩ := hpos h0
                  simp only [Int.lt_irrefl, ↓reduceIte, show insertIndex (top :: rest) x.level ≠ 0 by omega]
                  refine ⟨H₃, rfl, ?_, rfl, by simp, ?_, by simp⟩
                  · intro h hh
                    rcases List.mem_append.1 hh with hm | hm
                    · exact hl₁ h (List.mem_of_mem_take hm)
                    · rcases List.mem_cons.1 hm with rfl | hm
                      · exact hl₂ h (by simp)
                      · exact hl₁ h (List.mem_of_mem_drop hm)
                  · simp [hv]
              · simp only [hbelow, ↓reduceIte]
                by_cases hneg : v < 0
                · simp only [hneg, ↓reduceIte]
                  exact ⟨H₁, rfl, hl₁, rfl, by simp, rfl, by simp⟩
                · simp only [hneg, ↓reduceIte]
                  exact ⟨H₁, rfl, hl₁, rfl, by simp, by simp, by simp⟩

theorem abandon_eq {f : MediaFocus} (H : Holds f.stack depth hs) (hl : LevelsBelow f.table hs) (now : Nat)
    (handle : BitVec 32) :
    Refines f.table depth (mediaFocusAbandon alive f now handle) (holdersAbandon f.table alive hs now handle) := by
  unfold mediaFocusAbandon holdersAbandon
  by_cases hbad : handle.toInt < ID_SHIFT - 1
  · simp only [hbad, ↓reduceIte]
    exact refines_same H hl now _
  · obtain ⟨s₁, hclear, H₁⟩ := uselessClear_eq (t := f.table) alive H now
    have hl₁ := hl.sublist (clearHolders_sublist alive true hs now)
    simp only [hbad, ↓reduceIte, hclear]
    generalize clearHolders alive true hs now = cl at *
    rw [H₁.top_eq]
    unfold dropHolder
    match hcl : cl.1 with
    | [] =>
      rw [hcl] at H₁
      exact ⟨H₁, rfl, by simp [LevelsBelow], rfl, by simp, rfl, by simp⟩
    | top :: rest =>
      rw [hcl] at H₁ hl₁
      simp only [List.head?_cons, Option.map_some, Holder.id_clientId]
      by_cases heq : (top.slot : Int) = handleToId handle
      · obtain ⟨r, hr, hev, H₂⟩ := delete_top_eq (t := f.table) H₁ (top.id .top) rfl
        have hl₂ := hl₁.sublist (List.sublist_cons_self top rest)
        simp only [heq, ↓reduceIte, hr, broadcast_eq H₂ hl₂, hev]
        exact ⟨H₂, rfl, hl₂, rfl, by simp, rfl, by simp⟩
      · obtain ⟨r, hr, hev, H₂⟩ := delete_eq (t := f.table) H₁
          { top.id .top with clientId := handleToId handle } heq
        have hl₂ := hl₁.sublist
          ((List.eraseP_sublist (p := fun h : Holder => decide ((h.slot : Int) = handleToId handle))
            (l := rest)).cons_cons top)
        simp only [heq, ↓reduceIte, hr, hev]
        exact ⟨H₂, rfl, hl₂, rfl, by simp, rfl, by simp⟩

/-- Every focus call of the code is the same call on the holders. -/
theorem focusCall_eq {f : MediaFocus} (alive : Nat → Nat → Bool) (H : Holds f.stack depth hs)
    (hl : LevelsBelow f.table hs) (now : Nat)
    (call : FocusCall) :
    Refines f.table depth (focusCall alive f now call) (holdersCall f.table depth alive hs now call) := by
  cases call with
  | request name callback argv tid => exact request_eq H hl now name callback argv tid
  | abandon handle => exact abandon_eq H hl now handle

end MediaFramework
