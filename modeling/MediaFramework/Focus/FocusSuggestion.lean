import MediaFramework.Focus.FocusRuns

/-!
# Suggestions stay current

A holder acts on the value delivered to it last.  When the top of the stack changes by a push or by a pop, all other
holders are told what follows from the new top.  `app_focus_stack_useless_clear` also changes the top, when it
removes a dead holder from there, but tells only the new one.  Suggestions are current in all runs in which that
does not matter: no call leaves two or more holders behind such a change without changing the top once more.
-/

namespace MediaFramework

variable {t : InteractionTable} {s : AppFocusStack} {depth : Nat} {hs : List Holder} {alive : Nat → Nat → Bool}

/-- A thread that is dead stays dead. -/
def DeadStaysDead (alive : Nat → Nat → Bool) : Prop := ∀ m n tid, m ≤ n → alive n tid = true → alive m tid = true

/-- The holder on top was told last to play, and every other one what `pas_inter` says below this top, except that an
entry inserted below it has the `pro_inter` it was admitted with.  Only holders with a live thread count. -/
def FocusRun.SuggestionsCurrent (alive : Nat → Nat → Bool) (r : FocusRun) : Prop :=
  let id := r.focus.stack.nodeList
  ∀ top ∈ r.focus.stack.entries.head?,
    (alive r.now (id top).threadId = true → r.current top = MEDIA_FOCUS_PLAY) ∧
    ∀ i ∈ r.focus.stack.entries.tail, alive r.now (id i).threadId = true →
      r.current i = if r.fresh i then r.focus.table.proInter (id i).focusLevel (id top).focusLevel
        else r.focus.table.pasInter (id top).focusLevel (id i).focusLevel

instance (alive : Nat → Nat → Bool) (r : FocusRun) : Decidable (r.SuggestionsCurrent alive) :=
  inferInstanceAs (Decidable (∀ top ∈ r.focus.stack.entries.head?, _ ∧ ∀ i ∈ r.focus.stack.entries.tail, _))

/-! ### When the calls tell enough -/

/-- The entries whose threads are found alive, when they are asked about from the `now`-th answer on.  A dead entry
on top costs one more answer, about the entry below it. -/
def leftAlive (alive : Nat → Nat → Bool) : Bool → List AppFocusId → Nat → List AppFocusId
  | _, [], _ => []
  | isTop, id :: rest, now =>
    if alive now id.threadId then id :: leftAlive alive false rest (now + 1)
    else leftAlive alive isTop rest (if isTop ∧ rest ≠ [] then now + 2 else now + 1)

/-- The top entry is found alive, or at most one entry is left once the dead ones are gone, or `retold` holds of the
first one left and those below it. -/
def topChangeTold (alive : Nat → Nat → Bool) (r : FocusRun) (retold : AppFocusId → List AppFocusId → Bool) : Bool :=
  let ids := r.focus.stack.entries.map r.focus.stack.nodeList
  ids.head?.all (fun top => alive r.now top.threadId) ||
    match leftAlive alive true ids r.now with
    | first :: second :: rest => retold first (second :: rest)
    | _ => true

/-- The condition on a call that finds a dead entry on top: at most one entry is left, or the call changes the top
again (the request gets the top, the entry that has come to the top is abandoned), or it abandons the only entry
below the new top.  Calls that are refused before dead entries are cleared meet it. -/
def clearTellsAll (alive : Nat → Nat → Bool) (r : FocusRun) : FocusInput → Bool
  | .wait => true
  | .call (.request name callback _ _) =>
    match callback, name.bind fun n => r.focus.table.streams.findIdx? (· == n) with
    | some _, some level =>
      topChangeTold alive r fun first _ => r.focus.table.proInter level first.focusLevel = MEDIA_FOCUS_PLAY
    | _, _ => true
  | .call (.abandon handle) =>
    handle.toInt < ID_SHIFT - 1 || topChangeTold alive r fun first below =>
      first.clientId = handleToId handle || below.map (·.clientId) = [handleToId handle]

/-! ### Clearing dead holders -/

theorem clearHolders_under (hs : List Holder) : ∀ now, (clearHolders alive false hs now).2.2 = [] := by
  induction hs with
  | nil => intro now; rfl
  | cons h rest ih =>
    intro now
    by_cases hal : alive now h.tid = true
    · rw [clearHolders_of_alive rest false hal]
      exact ih (now + 1)
    · rw [clearHolders_of_dead_under rest hal]
      exact ih (now + 1)

/-- Clearing with a live holder on top keeps it there and tells nobody. -/
theorem clearHolders_alive {top : Holder} {now : Nat} (rest : List Holder) (h : alive now top.tid = true) :
    (clearHolders alive true (top :: rest) now).1 = top :: (clearHolders alive false rest (now + 1)).1 ∧
      (clearHolders alive true (top :: rest) now).2.2 = [] := by
  rw [clearHolders_of_alive rest true h]
  exact ⟨rfl, clearHolders_under rest (now + 1)⟩

/-- Clearing with a dead holder on top removes it. -/
theorem clearHolders_dead {top : Holder} {now : Nat} (rest : List Holder) (h : alive now top.tid = false) :
    (clearHolders alive true (top :: rest) now).1.Sublist rest := by
  cases rest with
  | nil => rw [clearHolders_of_dead_last (by simp [h])]
  | cons k rest =>
    rw [clearHolders_of_dead_top k rest (by simp [h])]
    exact clearHolders_sublist alive true (k :: rest) (now + 2)

/-- Whoever is on top after clearing was told last to play: nobody is passed over because it seems dead at first. -/
theorem clearHolders_told (hdead : DeadStaysDead alive) (hs : List Holder) : ∀ (now : Nat) (cur : Nat → Int),
    (∀ h ∈ hs.head?, alive now h.tid = true → cur h.slot = MEDIA_FOCUS_PLAY) →
    ∀ k ∈ (clearHolders alive true hs now).1.head?,
      (clearHolders alive true hs now).2.2.foldl deliver cur k.slot = MEDIA_FOCUS_PLAY := by
  induction hs with
  | nil =>
    intro now cur hcur k hk
    cases hk
  | cons h rest ih =>
    intro now cur hcur k hk
    by_cases hal : alive now h.tid = true
    · obtain ⟨hlist, hev⟩ := clearHolders_alive rest hal
      rw [hlist] at hk
      rw [hev]
      cases hk
      exact hcur h rfl hal
    · cases rest with
      | nil =>
        rw [clearHolders_of_dead_last hal] at hk
        cases hk
      | cons x rest =>
        rw [clearHolders_of_dead_top x rest hal] at hk ⊢
        rw [List.foldl_append]
        refine ih (now + 2) _ ?_ k hk
        rintro y ⟨⟩ hy
        rw [if_pos (hdead (now + 1) (now + 2) x.tid (by omega) hy)]
        simp [deliver]

theorem leftAlive_eq (alive : Nat → Nat → Bool) {f : Holder → AppFocusId} (hs : List Holder) :
    ∀ (isTop : Bool) (now : Nat),
    (∀ h ∈ hs, (f h).threadId = h.tid) →
    leftAlive alive isTop (hs.map f) now = (clearHolders alive isTop hs now).1.map f := by
  induction hs with
  | nil => intro isTop now _; rfl
  | cons h rest ih =>
    intro isTop now hf
    have hrest : ∀ h ∈ rest, (f h).threadId = h.tid := fun k hk => hf k (List.mem_cons_of_mem _ hk)
    rw [List.map_cons, leftAlive, hf h (List.mem_cons_self ..)]
    by_cases hal : alive now h.tid = true
    · rw [if_pos hal, clearHolders_of_alive rest isTop hal, ih false (now + 1) hrest, List.map_cons]
    · rw [if_neg hal]
      cases isTop with
      | false =>
        rw [clearHolders_of_dead_under rest hal]
        simpa using ih false (now + 1) hrest
      | true =>
        cases rest with
        | nil =>
          rw [clearHolders_of_dead_last hal]
          rfl
        | cons k rest =>
          rw [clearHolders_of_dead_top k rest hal]
          simpa using ih true (now + 2) hrest

/-! ### Telling the holders -/

/-- `Informed` is the property on the list of holders, whether they are alive or not. -/
def Informed (t : InteractionTable) (current : Nat → Int) (fresh : Nat → Bool) : List Holder → Prop
  | [] => True
  | top :: rest => current top.slot = MEDIA_FOCUS_PLAY ∧ ∀ h ∈ rest,
      current h.slot = if fresh h.slot then t.proInter h.level top.level else t.pasInter top.level h.level

private theorem informed_of_length {current : Nat → Int} {fresh : Nat → Bool} {hs : List Holder}
    (htop : ∀ h ∈ hs.head?, current h.slot = MEDIA_FOCUS_PLAY) (hlen : hs.length ≤ 1) : Informed t current fresh hs := by
  match hs, hlen with
  | [], _ => trivial
  | [h], _ => exact ⟨htop h rfl, by simp⟩

private theorem deliver_notMem {f : Holder → Int} {i : Nat} (l : List Holder) : ∀ cur : Nat → Int,
    i ∉ l.map Holder.slot →
    (l.map fun h => .suggest (h.id .under) (f h)).foldl deliver cur i = cur i := by
  induction l with
  | nil => intro cur _; rfl
  | cons h rest ih =>
    intro cur hi
    simp only [List.map_cons, List.mem_cons, not_or] at hi
    rw [List.map_cons, List.foldl_cons, ih _ hi.2]
    simp [deliver, hi.1]

private theorem deliver_mem {f : Holder → Int} (l : List Holder) : ∀ cur : Nat → Int, (l.map Holder.slot).Nodup →
    ∀ h ∈ l, (l.map fun h => .suggest (h.id .under) (f h)).foldl deliver cur h.slot = f h := by
  induction l with
  | nil => intro cur _ h hh; cases hh
  | cons k rest ih =>
    intro cur hnd h hh
    obtain ⟨hk, hnd⟩ := List.nodup_cons.1 hnd
    rw [List.map_cons, List.foldl_cons]
    rcases List.mem_cons.1 hh with rfl | hm
    · rw [deliver_notMem rest _ hk]
      simp [deliver]
    · exact ih _ hnd h hm

/-- A broadcast brings everybody up to date, if the one on top is. -/
theorem informed_broadcast {current : Nat → Int} {fresh : Nat → Bool} (hnd : (hs.map Holder.slot).Nodup)
    (htop : ∀ h ∈ hs.head?, current h.slot = MEDIA_FOCUS_PLAY) (hfresh : ∀ h ∈ hs.tail, fresh h.slot = false) :
    Informed t ((broadcastEvents t hs).foldl deliver current) fresh hs := by
  cases hs with
  | nil => trivial
  | cons top rest =>
    obtain ⟨htop', hnd⟩ := List.nodup_cons.1 hnd
    refine ⟨?_, fun h hh => ?_⟩
    · unfold broadcastEvents
      rw [deliver_notMem (f := fun h => t.pasInter top.level h.level) rest _ htop']
      exact htop top rfl
    · rw [hfresh h hh]
      exact deliver_mem (f := fun h => t.pasInter top.level h.level) rest _ hnd h hh

/-! ### One call on the holders -/

/-- What is known once dead holders are gone: the top was told to play, and either it is the old one and everybody is
informed, or the old one is gone and the rest of the call makes up for it, as `told` says. -/
def ClearedInformed (t : InteractionTable) (current : Nat → Int) (fresh : Nat → Bool) (oldTop : Option Nat)
    (hs : List Holder) (told : Prop) : Prop :=
  (∀ h ∈ hs.head?, current h.slot = MEDIA_FOCUS_PLAY) ∧
    (hs.head?.map Holder.slot = oldTop ∧ Informed t current fresh hs ∨
      (∃ i ∈ oldTop, i ∉ hs.map Holder.slot) ∧ (hs.length ≤ 1 ∨ told))

theorem Informed.cleared {current : Nat → Int} {fresh : Nat → Bool} {now : Nat} {told : Prop}
    (hdead : DeadStaysDead alive) (hnd : (hs.map Holder.slot).Nodup) (h : Informed t current fresh hs)
    (htold : (∃ top ∈ hs.head?, alive now top.tid = false) → (clearHolders alive true hs now).1.length ≤ 1 ∨ told) :
    ClearedInformed t ((clearHolders alive true hs now).2.2.foldl deliver current) fresh (hs.head?.map Holder.slot)
      (clearHolders alive true hs now).1 told := by
  refine ⟨clearHolders_told hdead hs now current fun k hk _ => ?_, ?_⟩
  · cases hs with
    | nil => cases hk
    | cons top rest =>
      cases hk
      exact h.1
  · cases hs with
    | nil => exact .inl ⟨rfl, trivial⟩
    | cons top rest =>
      by_cases hal : alive now top.tid = true
      · obtain ⟨hlist, hev⟩ := clearHolders_alive rest hal
        left
        rw [hlist, hev]
        exact ⟨rfl, h.1, fun k hk => h.2 k ((clearHolders_sublist alive false rest (now + 1)).subset hk)⟩
      · have hal' : alive now top.tid = false := by simpa using hal
        right
        refine ⟨⟨top.slot, rfl, fun hm => ?_⟩, htold ⟨top, rfl, hal'⟩⟩
        have hsub := (clearHolders_dead rest hal').map Holder.slot
        exact (List.nodup_cons.1 hnd).1 (hsub.subset hm)

/-- A call that was refused. -/
private theorem Informed.unchanged {current : Nat → Int} {fresh : Nat → Bool} (h : Informed t current fresh hs) :
    Informed t (currentAfter current [] none)
      (freshAfter fresh (hs.head?.map Holder.slot) (hs.head?.map Holder.slot) none) hs := by
  simpa [currentAfter, freshAfter] using h

/-- Nothing entered and the holders are those left after clearing: either all is as before, or too few are left for
anybody to be misinformed. -/
private theorem ClearedInformed.same {current : Nat → Int} {fresh : Nat → Bool} {oldTop : Option Nat}
    (h : ClearedInformed t current fresh oldTop hs False) :
    Informed t (currentAfter current [] none) (freshAfter fresh oldTop (hs.head?.map Holder.slot) none) hs := by
  obtain ⟨htop, ⟨hold, hinf⟩ | ⟨-, hlen | hfalse⟩⟩ := h
  · simp only [currentAfter, freshAfter, hold, ↓reduceIte]
    exact hinf
  · exact informed_of_length htop hlen
  · exact hfalse.elim

private theorem ClearedInformed.of_not {current : Nat → Int} {fresh : Nat → Bool} {oldTop : Option Nat} {told : Prop}
    (h : ClearedInformed t current fresh oldTop hs told) (hn : ¬ told) :
    ClearedInformed t current fresh oldTop hs False :=
  ⟨h.1, h.2.imp_right fun ⟨hold, htold⟩ => ⟨hold, htold.imp_right hn⟩⟩

/-- When the stack is full after clearing nobody was removed. -/
private theorem ClearedInformed.of_full {current : Nat → Int} {fresh : Nat → Bool} {now : Nat} {told : Prop}
    (h : ClearedInformed t current fresh (hs.head?.map Holder.slot) (clearHolders alive true hs now).1 told)
    (H : Holds s depth hs) (hfull : freeSlot depth (clearHolders alive true hs now).1 = none) :
    ClearedInformed t current fresh (hs.head?.map Holder.slot) (clearHolders alive true hs now).1 False := by
  obtain ⟨s', -, H'⟩ := uselessClear_eq (t := t) alive H now
  have hlen := H'.freeSlot_eq_none_iff.1 hfull
  have hall := (clearHolders_sublist alive true hs now).eq_of_length_le (hlen ▸ H.length_le)
  refine ⟨h.1, h.2.imp_right ?_⟩
  rintro ⟨⟨i, hi, hni⟩, -⟩
  rw [hall] at hni
  obtain ⟨k, hk, rfl⟩ := Option.map_eq_some_iff.1 hi
  exact absurd (List.mem_map.2 ⟨k, List.mem_of_mem_head? hk, rfl⟩) hni

private theorem currentAfter_append (current : Nat → Int) (ev ev' : List FocusEvent) (new : Option (Nat × Int)) :
    currentAfter current (ev ++ ev') new = currentAfter (ev.foldl deliver current) ev' new := by
  cases new <;> simp [currentAfter]

/-- A new top: everybody below it is told. -/
private theorem informed_push {current : Nat → Int} {fresh : Nat → Bool} {oldTop : Option Nat} {x : Holder}
    (hs : List Holder) (hnd : ((x :: hs).map Holder.slot).Nodup) :
    Informed t (currentAfter current (broadcastEvents t (x :: hs)) (some (x.slot, MEDIA_FOCUS_PLAY)))
      (freshAfter fresh oldTop (some x.slot) (some (x.slot, MEDIA_FOCUS_PLAY))) (x :: hs) := by
  obtain ⟨hx, hnd⟩ := List.nodup_cons.1 hnd
  refine ⟨by simp [currentAfter], fun h hh => ?_⟩
  have hne : h.slot ≠ x.slot := fun he => hx (he ▸ List.mem_map.2 ⟨h, hh, rfl⟩)
  have hfresh : freshAfter fresh oldTop (some x.slot) (some (x.slot, MEDIA_FOCUS_PLAY)) h.slot = false := by
    simp [freshAfter, hne]
  rw [hfresh]
  simp only [currentAfter, Function.update_of_ne hne, Bool.false_eq_true, ↓reduceIte]
  exact deliver_mem (f := fun h => t.pasInter x.level h.level) hs _ hnd h hh

/-- A new holder below the top: the others know what they knew. -/
private theorem informed_insert {current : Nat → Int} {fresh : Nat → Bool} {oldTop : Option Nat} {x top : Holder}
    {rest : List Holder} {n : Nat} (hx : x.slot ∉ (top :: rest).map Holder.slot)
    (h : ClearedInformed t current fresh oldTop (top :: rest) False) :
    Informed t (currentAfter current [] (some (x.slot, t.proInter x.level top.level)))
      (freshAfter fresh oldTop (some top.slot) (some (x.slot, t.proInter x.level top.level)))
      (top :: (rest.take n ++ x :: rest.drop n)) := by
  have htopx : top.slot ≠ x.slot := fun he => hx (by simp [he])
  refine ⟨?_, fun h' hh => ?_⟩
  · simp only [currentAfter, List.foldl_nil, Function.update_of_ne htopx]
    exact h.1 top rfl
  · by_cases he : h' = x
    · subst he
      simp [currentAfter, freshAfter, htopx]
    · have hm : h' ∈ rest := by
        rcases List.mem_append.1 hh with hm | hm
        · exact List.mem_of_mem_take hm
        · rcases List.mem_cons.1 hm with rfl | hm
          · exact absurd rfl he
          · exact List.mem_of_mem_drop hm
      have hne : h'.slot ≠ x.slot := fun hes => hx (hes ▸ List.mem_map.2 ⟨h', List.mem_cons_of_mem _ hm, rfl⟩)
      obtain ⟨hold, hinf⟩ | ⟨-, hlen | hfalse⟩ := h.2
      · have hold' : some top.slot = oldTop := hold
        have hsame : some top.slot = oldTop ∧ some top.slot ≠ some x.slot := ⟨hold', by simpa using htopx⟩
        simp only [currentAfter, freshAfter, List.foldl_nil, Function.update_of_ne hne, if_pos hsame]
        exact hinf.2 h' hm
      · have hrest : rest = [] := List.eq_nil_of_length_eq_zero (by simpa using hlen)
        subst hrest
        cases hm
      · exact hfalse.elim

/-- Admitting a new holder keeps everybody informed. -/
theorem ClearedInformed.admit {current : Nat → Int} {fresh : Nat → Bool} {oldTop : Option Nat} {x : Holder}
    (hnd : ((x :: hs).map Holder.slot).Nodup)
    (h : ClearedInformed t current fresh oldTop hs
      (∃ top ∈ hs.head?, t.proInter x.level top.level = MEDIA_FOCUS_PLAY)) :
    Informed t
      (currentAfter current (admitHolder t hs x).2.1
        (((admitHolder t hs x).2.2.map (x.slot, ·)).filter fun p => p.2 ≠ MEDIA_FOCUS_STOP))
      (freshAfter fresh oldTop ((admitHolder t hs x).1.head?.map Holder.slot)
        (((admitHolder t hs x).2.2.map (x.slot, ·)).filter fun p => p.2 ≠ MEDIA_FOCUS_STOP))
      (admitHolder t hs x).1 := by
  have hx := (List.nodup_cons.1 hnd).1
  have hplay : MEDIA_FOCUS_PLAY ≠ MEDIA_FOCUS_STOP := by decide
  cases hs with
  | nil =>
    simp only [admitHolder, Option.map_some, Option.filter_some, hplay, ne_eq, not_false_eq_true, decide_true,
      ↓reduceIte]
    exact informed_push [] hnd
  | cons top rest =>
    unfold admitHolder
    by_cases hpro : t.proInter x.level top.level = MEDIA_FOCUS_PLAY
    · simp only [hpro, ↓reduceIte, Option.map_some, Option.filter_some, hplay, ne_eq, not_false_eq_true, decide_true]
      exact informed_push _ hnd
    · have h' := h.of_not (by rintro ⟨_, ⟨⟩, he⟩; exact hpro he)
      simp only [hpro, ↓reduceIte]
      by_cases hbelow : t.proInter x.level top.level = MEDIA_FOCUS_PLAY_BUT_SILENT ∨
          t.proInter x.level top.level = MEDIA_FOCUS_PLAY_WITH_DUCK
      · have hstop : t.proInter x.level top.level ≠ MEDIA_FOCUS_STOP := by
          rcases hbelow with he | he <;> rw [he] <;> decide
        simp only [hbelow, ↓reduceIte]
        cases hidx : insertIndex (top :: rest) x.level with
        | zero => exact h'.same
        | succ n =>
          simp only [Nat.succ_ne_zero, ↓reduceIte, Option.map_some, Option.filter_some, hstop, ne_eq,
            not_false_eq_true, decide_true]
          exact informed_insert hx h'
      · simp only [hbelow, ↓reduceIte]
        split
        · exact h'.same
        · exact h'.same

/-- Dropping a holder keeps everybody informed. -/
theorem ClearedInformed.drop {current : Nat → Int} {fresh : Nat → Bool} {oldTop : Option Nat} {id : Int}
    (hnd : (hs.map Holder.slot).Nodup)
    (h : ClearedInformed t current fresh oldTop hs
      ((∃ top ∈ hs.head?, (top.slot : Int) = id) ∨ hs.tail.map (fun h => (h.slot : Int)) = [id])) :
    Informed t (currentAfter current (dropHolder t hs id).2 none)
      (freshAfter fresh oldTop ((dropHolder t hs id).1.head?.map Holder.slot) none) (dropHolder t hs id).1 := by
  cases hs with
  | nil => trivial
  | cons top rest =>
    unfold dropHolder
    obtain ⟨htop, hnd'⟩ := List.nodup_cons.1 hnd
    by_cases hid : (top.slot : Int) = id
    · simp only [hid, ↓reduceIte, currentAfter, List.foldl_append]
      refine informed_broadcast hnd' ?_ fun k hk => ?_
      · rintro k hk
        cases rest with
        | nil => cases hk
        | cons y rest =>
          cases hk
          simp [deliver]
      · -- the old top is not among those below the dropped one
        have hchanged : rest.head?.map Holder.slot ≠ oldTop := by
          cases rest with
          | nil => cases hk
          | cons y rest =>
            rintro rfl
            obtain ⟨hold, -⟩ | ⟨⟨i, hi, hni⟩, -⟩ := h.2
            · exact htop (by simpa using Or.inl (Option.some.inj hold))
            · cases hi
              exact hni (by simp)
        simp only [freshAfter, hchanged, ↓reduceIte]
    · simp only [hid, ↓reduceIte]
      by_cases hlast : rest.map (fun h => (h.slot : Int)) = [id]
      · obtain ⟨y, rfl, hy⟩ : ∃ y, rest = [y] ∧ (y.slot : Int) = id := by
          simpa [List.map_eq_singleton_iff] using hlast
        have herase : [y].eraseP (fun h => decide ((h.slot : Int) = id)) = [] := by simp [hy]
        rw [herase]
        exact informed_of_length (by rintro k ⟨⟩; exact h.1 top rfl) (by simp)
      · have h' := h.of_not (by
          rintro (⟨_, ⟨⟩, he⟩ | he)
          · exact hid he
          · exact hlast he)
        obtain ⟨htop', hinf⟩ := h'.same
        exact ⟨htop', fun k hk => hinf k (List.mem_of_mem_eraseP hk)⟩

/-! ### One call of the code -/

private theorem told_of_topChangeTold {r : FocusRun} {retold : AppFocusId → List AppFocusId → Bool} {P : Prop}
    (H : Holds r.focus.stack depth hs) (h : topChangeTold alive r retold = true)
    (hP : ∀ first rest, (clearHolders alive true hs r.now).1 = first :: rest →
      retold (r.focus.stack.nodeList first.slot) (rest.map fun h => r.focus.stack.nodeList h.slot) = true → P) :
    (∃ top ∈ hs.head?, alive r.now top.tid = false) → (clearHolders alive true hs r.now).1.length ≤ 1 ∨ P := by
  rintro ⟨top, htop, hal⟩
  have hmem : top ∈ hs := List.mem_of_mem_head? htop
  have hids : r.focus.stack.entries.map r.focus.stack.nodeList = hs.map fun h => r.focus.stack.nodeList h.slot := by
    rw [H.entries, List.map_map]
    rfl
  have hleft := leftAlive_eq alive (f := fun h => r.focus.stack.nodeList h.slot) hs true r.now fun h hh =>
    H.threadId hh
  simp only [topChangeTold, hids, hleft, List.head?_map, Option.mem_def.1 htop, Option.map_some, Option.all_some,
    H.threadId hmem, hal, Bool.false_or] at h
  match hcl : (clearHolders alive true hs r.now).1 with
  | [] => simp
  | [_] => simp
  | first :: second :: rest =>
    rw [hcl] at h
    exact .inr (hP first (second :: rest) hcl h)

/-- The slot of a reply is the one that was free once dead holders were gone. -/
private theorem reply_slot {now : Nat} {c : FocusCall} {p : Nat × Int}
    (h : (holdersCall t depth alive hs now c).reply = some p) :
    freeSlot depth (clearHolders alive true hs now).1 = some p.1 := by
  cases c with
  | request name callback argv tid =>
    simp only [holdersCall, holdersRequest] at h
    split at h
    · split at h
      · cases h
      · rename_i slot hslot
        obtain ⟨v, -, rfl⟩ := Option.map_eq_some_iff.1 h
        exact hslot
    · cases h
  | abandon handle =>
    simp only [holdersCall, holdersAbandon] at h
    split at h <;> cases h

theorem admitted_eq {r : FocusRun} (alive : Nat → Nat → Bool) (h : r.Stores t depth hs) (c : FocusCall) :
    admitted alive r.focus r.now (focusCall alive r.focus r.now c) =
      (holdersCall t depth alive hs r.now c).reply.filter fun p => p.2 ≠ MEDIA_FOCUS_STOP := by
  obtain ⟨rfl, H, hl⟩ := h
  have hc := focusCall_eq alive H hl r.now c
  unfold admitted
  rw [hc.handle]
  cases hreply : (holdersCall r.focus.table depth alive hs r.now c).reply with
  | none => rfl
  | some p =>
    obtain ⟨s', hclear, H'⟩ := uselessClear_eq (t := r.focus.table) alive H r.now
    have hslot := reply_slot hreply
    have hfree := H'.freeClientId
    rw [hslot] at hfree
    rw [hc.returnType p hreply, Option.map_some, hclear]
    simp only [hfree, Int.toNat_natCast, Option.filter_some, ne_eq, decide_not, Bool.not_eq_true',
      decide_eq_false_iff_not, ite_not]

/-- A call that meets the condition keeps everybody informed. -/
theorem Informed.call (hdead : DeadStaysDead alive) {r : FocusRun} (hst : r.Stores t depth hs)
    (h : Informed t r.current r.fresh hs) {c : FocusCall} (hg : clearTellsAll alive r (.call c) = true) :
    Informed t (r.call alive c).current (r.call alive c).fresh (holdersCall t depth alive hs r.now c).holders := by
  have hnew := admitted_eq alive hst c
  have hold : r.focus.stack.entries.head? = hs.head?.map Holder.slot := by rw [hst.2.1.entries, List.head?_map]
  have hafter : (focusCall alive r.focus r.now c).focus.stack.entries.head? =
      (holdersCall t depth alive hs r.now c).holders.head?.map Holder.slot :=
    (congrArg List.head? (hst.call c).2.1.entries).trans List.head?_map
  obtain ⟨rfl, H, hl⟩ := hst
  have hev := (focusCall_eq alive H hl r.now c).events
  have hnd := H.nodup
  simp only [FocusRun.call, hnew, hold, hafter, hev]
  cases c with
  | request name callback argv tid =>
    simp only [clearTellsAll] at hg
    simp only [holdersCall, holdersRequest]
    cases callback with
    | none => exact h.unchanged
    | some c =>
      cases hlevel : name.bind fun n => r.focus.table.streams.findIdx? (· == n) with
      | none => exact h.unchanged
      | some level =>
        rw [hlevel] at hg
        have hcl := h.cleared hdead hnd (told_of_topChangeTold H hg
          (P := ∃ top ∈ (clearHolders alive true hs r.now).1.head?,
            r.focus.table.proInter level top.level = MEDIA_FOCUS_PLAY) fun first rest hfirst hre => by
              have hm := (clearHolders_sublist alive true hs r.now).subset (by rw [hfirst]; exact List.mem_cons_self ..)
              rw [H.focusLevel hm] at hre
              exact ⟨first, by rw [hfirst]; rfl, by simpa using hre⟩)
        cases hfree : freeSlot depth (clearHolders alive true hs r.now).1 with
        | none => exact (hcl.of_full H hfree).same
        | some slot =>
          have hslot := (freeSlot_spec hfree).2
          have hnd' := hnd.sublist ((clearHolders_sublist alive true hs r.now).map Holder.slot)
          have hadmit := hcl.admit (x := ⟨slot, level, tid, c, argv⟩) (List.nodup_cons.2 ⟨hslot, hnd'⟩)
          simp only [currentAfter_append]
          exact hadmit
  | abandon handle =>
    simp only [clearTellsAll, Bool.or_eq_true, decide_eq_true_eq] at hg
    simp only [holdersCall, holdersAbandon]
    by_cases hbad : handle.toInt < ID_SHIFT - 1
    · rw [if_pos hbad]
      exact h.unchanged
    · rw [if_neg hbad]
      have hcl := h.cleared hdead hnd (told_of_topChangeTold H (hg.resolve_left hbad)
        (P := (∃ top ∈ (clearHolders alive true hs r.now).1.head?, (top.slot : Int) = handleToId handle) ∨
          (clearHolders alive true hs r.now).1.tail.map (fun h => (h.slot : Int)) = [handleToId handle])
        fun first rest hfirst hre => by
          have hsub := (clearHolders_sublist alive true hs r.now).subset
          rw [hfirst] at hsub ⊢
          have hbelow : (rest.map fun h => r.focus.stack.nodeList h.slot).map (·.clientId) =
              rest.map fun h => (h.slot : Int) := by
            rw [List.map_map]
            exact List.map_congr_left fun k hk => H.clientId (hsub (List.mem_cons_of_mem _ hk))
          rw [H.clientId (hsub (List.mem_cons_self ..)), hbelow] at hre
          simpa using hre)
      have hdrop := hcl.drop (hnd.sublist ((clearHolders_sublist alive true hs r.now).map Holder.slot))
      simp only [currentAfter_append]
      exact hdrop

/-! ### All runs -/

private theorem Informed.suggestionsCurrent {r : FocusRun} (hst : r.Stores t depth hs)
    (h : Informed t r.current r.fresh hs) : r.SuggestionsCurrent alive := by
  obtain ⟨rfl, H, -⟩ := hst
  intro top htop
  rw [H.entries, List.head?_map] at htop
  obtain ⟨k, hk, rfl⟩ := Option.map_eq_some_iff.1 htop
  cases hs with
  | nil => cases hk
  | cons k rest =>
    cases hk
    refine ⟨fun _ => h.1, fun i hi _ => ?_⟩
    rw [H.entries, List.map_cons, List.tail_cons] at hi
    obtain ⟨x, hx, rfl⟩ := List.mem_map.1 hi
    rw [H.focusLevel (List.mem_cons_of_mem _ hx), H.focusLevel (List.mem_cons_self ..)]
    exact h.2 x hx

/-- In every run in which no call leaves two or more holders behind a removed dead top without changing the top
again, every live holder was told last what follows from the present top. -/
theorem focusRun_suggestionsCurrent (hdead : DeadStaysDead alive) {r : FocusRun}
    (h : (focusMachine t depth alive).ReachableVia (fun r i => clearTellsAll alive r i = true) r) :
    r.SuggestionsCurrent alive := by
  have hinv : ∃ hs, r.Stores t depth hs ∧ Informed t r.current r.fresh hs := by
    refine h.invariant (P := fun r => ∃ hs, r.Stores t depth hs ∧ Informed t r.current r.fresh hs)
      ⟨[], ⟨rfl, holds_init depth, by simp [LevelsBelow]⟩, trivial⟩ ?_
    rintro r i r' ⟨hs, hst, hinf⟩ hg hn
    cases i with
    | call c =>
      cases hn
      exact ⟨_, hst.call c, hinf.call hdead hst hg⟩
    | wait =>
      cases hn
      exact ⟨hs, hst, hinf⟩
  obtain ⟨hs, hst, hinf⟩ := hinv
  exact hinf.suggestionsCurrent hst

private theorem ringDies_deadStaysDead : DeadStaysDead ringDies := by
  intro m n tid hmn h
  simp only [ringDies, Bool.or_eq_true, decide_eq_true_eq, bne_iff_ne] at h ⊢
  omega

/-- The phone is gone when the music player, alone below it, asks again. -/
def sampleToldRun : FocusRun :=
  (sampleMachine.runFrom (fun r i => clearTellsAll ringDies r i = true) sampleMachine.start
    (sampleRequests.drop 1 ++ [FocusInput.wait, .wait, .call (.abandon 0x0040000F#32),
      .call (.request (some "Media") (some 0) none 5)])).get (by decide)

theorem focusRun_suggestionsCurrent_sample : sampleToldRun.SuggestionsCurrent ringDies := by
  have h : sampleMachine.ReachableVia (fun r i => clearTellsAll ringDies r i = true) sampleToldRun :=
    Machine.reachableVia_get (by decide)
  exact focusRun_suggestionsCurrent ringDies_deadStaysDead h

def sampleStaleRun : FocusRun :=
  (sampleMachine.runFrom (fun _ _ => True) sampleMachine.start
    (sampleRequests ++ [FocusInput.wait, .call (.abandon 0x0040000F#32)])).get (by decide)

/-- Without the condition a suggestion can be stale: the phone is gone when some handle is abandoned, the music player
is told to play, and the media player, now below the music player, is still paused by the phone. -/
theorem focusRun_suggestion_stale : ¬ ∀ (t : InteractionTable) (depth : Nat) (alive : Nat → Nat → Bool),
    DeadStaysDead alive → ∀ r, (focusMachine t depth alive).Reachable r → r.SuggestionsCurrent alive := by
  intro h
  have hstale := h sampleTable 3 ringDies ringDies_deadStaysDead sampleStaleRun (Machine.reachableVia_get (by decide))
  revert hstale
  decide

end MediaFramework
