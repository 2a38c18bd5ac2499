import Mathlib.Algebra.Group.Nat.Defs
import MediaFramework.Focus.FocusRuns

/-!
# Focus handles

A handle is the number of a slot, shifted, with a tag.  A request that is told to stop gets a handle beyond the stack.
As long as all threads are alive and each handle is abandoned once at most, the other handles that are out and the
entries of the stack are in one-to-one correspondence.
-/

namespace MediaFramework

variable {t : InteractionTable} {s : AppFocusStack} {depth n : Nat} {hs : List Holder}

/-! ### From slots to handles and back -/

theorem idToHandle_toNat (hn : 65536 * n + 15 < 2147483648) : (idToHandle n).toNat = 65536 * n + 15 := by
  have hlow : (15 : Nat) < 2 ^ 16 := by decide
  have htag : (0x0000000F#32).toNat = 15 := by decide
  have hshift : (BitVec.ofInt 32 n <<< ID_SHIFT).toNat = n <<< 16 := by
    rw [BitVec.ofInt_natCast, BitVec.toNat_shiftLeft, BitVec.toNat_ofNat]
    simp only [ID_SHIFT, Nat.shiftLeft_eq]
    omega
  unfold idToHandle
  rw [BitVec.toNat_or, htag, hshift, ← Nat.shiftLeft_add_eq_or_of_lt hlow, Nat.shiftLeft_eq, Nat.mul_comm]

theorem idToHandle_toInt (hn : 65536 * n + 15 < 2147483648) : (idToHandle n).toInt = 65536 * (n : Int) + 15 := by
  have hnat := idToHandle_toNat hn
  rw [BitVec.toInt_eq_toNat_of_lt (by omega), hnat]
  omega

theorem handleToId_idToHandle (hn : 65536 * n + 15 < 2147483648) : handleToId (idToHandle n) = n := by
  unfold handleToId
  rw [BitVec.toInt_sshiftRight, idToHandle_toInt hn, Int.shiftRight_eq_div_pow]
  simp only [ID_SHIFT]
  omega

/-- All handles are positive numbers. -/
theorem handle_fits (hdepth : 2 * depth * 2 ^ 16 < 2 ^ 31) (hn : n < 2 * depth) : 65536 * n + 15 < 2147483648 := by
  rw [Nat.mul_comm] at hdepth
  simp only [Nat.reducePow] at hdepth
  omega

/-! ### The calls when all threads are alive -/

theorem clearHolders_allAlive {alive : Nat → Nat → Bool} (halive : ∀ now tid, alive now tid = true) (isTop : Bool)
    (hs : List Holder) (now : Nat) :
    (clearHolders alive isTop hs now).1 = hs ∧ (clearHolders alive isTop hs now).2.2 = [] := by
  induction hs generalizing isTop now with
  | nil => exact ⟨rfl, rfl⟩
  | cons h hs ih =>
    obtain ⟨hholders, hevents⟩ := ih false (now + 1)
    rw [clearHolders_of_alive hs isTop (halive now h.tid)]
    exact ⟨by rw [hholders], hevents⟩

/-- What comes of a request: the new holder, or a reply to stop, or nothing. -/
theorem admitHolder_cases (t : InteractionTable) (hs : List Holder) (new : Holder) :
    (∃ v, (admitHolder t hs new).2.2 = some v ∧ v ≠ MEDIA_FOCUS_STOP ∧ (admitHolder t hs new).1.Perm (new :: hs)) ∨
      ((admitHolder t hs new).2.2 = some MEDIA_FOCUS_STOP ∨ (admitHolder t hs new).2.2 = none) ∧
        (admitHolder t hs new).1 = hs := by
  unfold admitHolder
  cases hs with
  | nil => exact .inl ⟨_, rfl, by decide, .refl _⟩
  | cons top hs =>
    dsimp only
    by_cases hplay : t.proInter new.level top.level = MEDIA_FOCUS_PLAY
    · rw [if_pos hplay]
      exact .inl ⟨_, rfl, by decide, .refl _⟩
    · rw [if_neg hplay]
      by_cases hbelow : t.proInter new.level top.level = MEDIA_FOCUS_PLAY_BUT_SILENT ∨
          t.proInter new.level top.level = MEDIA_FOCUS_PLAY_WITH_DUCK
      · rw [if_pos hbelow]
        by_cases hfirst : insertIndex (top :: hs) new.level = 0
        · rw [if_pos hfirst]
          exact .inr ⟨.inr rfl, rfl⟩
        · rw [if_neg hfirst]
          refine .inl ⟨_, rfl, ?_, ?_⟩
          · rcases hbelow with hsilent | hduck
            · rw [hsilent]
              decide
            · rw [hduck]
              decide
          · have hperm := @List.perm_middle _ new ((top :: hs).take (insertIndex (top :: hs) new.level))
              ((top :: hs).drop (insertIndex (top :: hs) new.level))
            rwa [List.take_append_drop] at hperm
      · rw [if_neg hbelow]
        split
        · exact .inr ⟨.inr rfl, rfl⟩
        · exact .inr ⟨.inl rfl, rfl⟩

/-- What comes of a request when all threads are alive. -/
theorem holdersRequest_cases {alive : Nat → Nat → Bool} (halive : ∀ now tid, alive now tid = true)
    (t : InteractionTable) (depth : Nat) (hs : List Holder) (now : Nat) (name : Option String)
    (callback argv : Option Nat) (tid : Nat) :
    let a := holdersRequest t depth alive hs now name callback argv tid
    (∃ new v, callback = some new.callback ∧ new.argv = argv ∧ new.tid = tid ∧ freeSlot depth hs = some new.slot ∧
      a.reply = some (new.slot, v) ∧ v ≠ MEDIA_FOCUS_STOP ∧
        a.holders.Perm (new :: hs)) ∨
      ((∃ slot < depth, a.reply = some (slot, MEDIA_FOCUS_STOP)) ∨ a.reply = none) ∧ a.holders = hs := by
  unfold holdersRequest
  split
  · rename_i c level hname
    dsimp only
    obtain ⟨hholders, -⟩ := clearHolders_allAlive halive true hs now
    rw [hholders]
    cases hfree : freeSlot depth hs with
    | none => exact .inr ⟨.inr rfl, rfl⟩
    | some slot =>
      obtain ⟨hslot, -⟩ := freeSlot_spec hfree
      dsimp only
      rcases admitHolder_cases t hs ⟨slot, level, tid, c, argv⟩ with ⟨v, hreply, hv, hperm⟩ | ⟨hreply, hsame⟩
      · rw [hreply]
        exact .inl ⟨⟨slot, level, tid, c, argv⟩, v, rfl, rfl, rfl, rfl, rfl, hv, hperm⟩
      · refine .inr ⟨?_, hsame⟩
        rcases hreply with hstop | hnone
        · rw [hstop]
          exact .inl ⟨slot, hslot, rfl⟩
        · rw [hnone]
          exact .inr rfl
  · exact .inr ⟨.inr rfl, rfl⟩

/-- An abandon takes the holder of the slot off the list. -/
theorem dropHolder_eq (t : InteractionTable) (hs : List Holder) (id : Int) :
    (dropHolder t hs id).1 = hs.eraseP fun h => decide ((h.slot : Int) = id) := by
  unfold dropHolder
  cases hs with
  | nil => rfl
  | cons top hs =>
    dsimp only
    by_cases htop : (top.slot : Int) = id
    · rw [if_pos htop, List.eraseP_cons_of_pos (by simpa using htop)]
    · rw [if_neg htop, List.eraseP_cons_of_neg (by simpa using htop)]

theorem Holds.nodup_ids (H : Holds s depth hs) : (hs.map fun h => (h.slot : Int)).Nodup := by
  have hmap : (hs.map fun h => (h.slot : Int)) = (hs.map Holder.slot).map fun i : Nat => (i : Int) := by
    rw [List.map_map]
    rfl
  rw [hmap]
  exact H.nodup.map fun _ _ => Int.ofNat_inj.1

/-! ### Taking one off a list -/

theorem filter_eraseP_of_imp {α : Type*} {p q : α → Bool} {l : List α} (h : ∀ a ∈ l, p a = true → q a = true) :
    (l.eraseP p).filter q = (l.filter q).eraseP p := by
  induction l with
  | nil => rfl
  | cons a l ih =>
    have hrest := ih fun b hb => h b (List.mem_cons_of_mem _ hb)
    by_cases hp : p a = true
    · have hq := h a (List.mem_cons_self ..) hp
      rw [List.eraseP_cons_of_pos hp, List.filter_cons_of_pos hq, List.eraseP_cons_of_pos hp]
    · rw [List.eraseP_cons_of_neg hp]
      by_cases hq : q a = true
      · rw [List.filter_cons_of_pos hq, List.filter_cons_of_pos hq, List.eraseP_cons_of_neg hp, hrest]
      · rw [List.filter_cons_of_neg hq, List.filter_cons_of_neg hq, hrest]

theorem filter_eraseP_of_not {α : Type*} {p q : α → Bool} {l : List α} (h : ∀ a ∈ l, p a = true → ¬ q a = true) :
    (l.eraseP p).filter q = l.filter q := by
  induction l with
  | nil => rfl
  | cons a l ih =>
    have hrest := ih fun b hb => h b (List.mem_cons_of_mem _ hb)
    by_cases hp : p a = true
    · rw [List.eraseP_cons_of_pos hp, List.filter_cons_of_neg (h a (List.mem_cons_self ..) hp)]
    · rw [List.eraseP_cons_of_neg hp, List.filter_cons, List.filter_cons, hrest]

/-- Where values differ, taking off the first with a value takes off all. -/
theorem eraseP_eq_filter {α β : Type*} [DecidableEq β] {f : α → β} {l : List α} (hnodup : (l.map f).Nodup) (b : β) :
    (l.eraseP fun a => decide (f a = b)) = l.filter fun a => decide (f a ≠ b) := by
  induction l with
  | nil => rfl
  | cons a l ih =>
    rw [List.map_cons, List.nodup_cons] at hnodup
    by_cases ha : f a = b
    · have hall : ∀ c ∈ l, decide (f c ≠ b) = true := by
        intro c hc
        refine decide_eq_true fun heq => hnodup.1 ?_
        rw [ha, ← heq]
        exact List.mem_map_of_mem hc
      rw [List.eraseP_cons_of_pos (by simpa using ha), List.filter_cons_of_neg (by simpa using ha),
        List.filter_eq_self.2 hall]
    · rw [List.eraseP_cons_of_neg (by simpa using ha), List.filter_cons_of_pos (by simpa using ha), ih hnodup.2]

/-! ### The handles that are out -/

/-- A handle that was returned, with the suggestion and the request that it was returned for. -/
structure FocusHandle where
  handle : BitVec 32
  suggestion : Int
  callback : Option Nat
  argv : Option Nat
  tid : Nat
  deriving DecidableEq

/-- The handles that are out after a call: a request may return one, and an abandon ends one. -/
def handlesAfter (_ : FocusResult) (c : FocusCall) (r : FocusResult) (held : List FocusHandle) : List FocusHandle :=
  match c with
  | .request _ callback argv tid =>
    match r.handle, r.returnType with
    | some handle, some suggestion => ⟨handle, suggestion, callback, argv, tid⟩ :: held
    | _, _ => held
  | .abandon handle => held.eraseP fun p => decide (p.handle = handle)

/-- Requests of any threads, and abandons of handles that are out. -/
def AbandonsHeld (p : FocusResult × List FocusHandle) : FocusCall → Prop
  | .request .. => True
  | .abandon handle => ∃ q ∈ p.2, q.handle = handle

instance (p : FocusResult × List FocusHandle) (c : FocusCall) : Decidable (AbandonsHeld p c) := by
  unfold AbandonsHeld
  split
  · infer_instance
  · infer_instance

def allAlive : Nat → Nat → Bool := fun _ _ => true

theorem allAlive_eq (now tid : Nat) : allAlive now tid = true := rfl

/-- The calls of the focus module while all threads are alive. -/
def focusCalls (t : InteractionTable) (depth : Nat) : Machine FocusResult FocusCall where
  start := ⟨none, none, 0, mediaFocusInit t depth, 0, []⟩
  next r c := some (focusCall allAlive r.focus r.now c)

def focusCallsHeld (t : InteractionTable) (depth : Nat) : Machine (FocusResult × List FocusHandle) FocusCall :=
  (focusCalls t depth).recorded [] handlesAfter

/-- The handles whose requests were not told to stop. -/
def playing (held : List FocusHandle) : List FocusHandle := held.filter fun p => p.suggestion != MEDIA_FOCUS_STOP

/-- Different handles denote different entries, every handle denotes the entry of its request, and every entry is
denoted. -/
structure HandlesDenote (s : AppFocusStack) (held : List FocusHandle) : Prop where
  distinct : ((playing held).map fun p => handleToId p.handle).Nodup
  denotes : ∀ p ∈ playing held, ∃ i ∈ s.entries, handleToId p.handle = i ∧ (s.nodeList i).threadId = p.tid ∧
    (s.nodeList i).focusCallback = p.callback ∧ (s.nodeList i).callbackArgv = p.argv
  denoted : ∀ i ∈ s.entries, ∃ p ∈ playing held, handleToId p.handle = i

/-- What the handle of a holder was returned for. -/
def Holder.key (h : Holder) : BitVec 32 × Option Nat × Option Nat × Nat :=
  (idToHandle h.slot, some h.callback, h.argv, h.tid)

def FocusHandle.key (p : FocusHandle) : BitVec 32 × Option Nat × Option Nat × Nat :=
  (p.handle, p.callback, p.argv, p.tid)

/-- The handles that are out: one for each holder, and others beyond the stack. -/
structure HandlesHold (depth : Nat) (hs : List Holder) (held : List FocusHandle) : Prop where
  holders : ((playing held).map FocusHandle.key).Perm (hs.map Holder.key)
  stopped : ∀ p ∈ held, p.suggestion = MEDIA_FOCUS_STOP → ∃ n, depth ≤ n ∧ n < 2 * depth ∧ p.handle = idToHandle n

variable {held : List FocusHandle}

theorem HandlesHold.denote (hheld : HandlesHold depth hs held) (H : Holds s depth hs)
    (hdepth : 2 * depth * 2 ^ 16 < 2 ^ 31) : HandlesDenote s held := by
  have hslot : ∀ h ∈ hs, handleToId (idToHandle h.slot) = (h.slot : Int) := by
    intro h hh
    have hlt := H.slot_lt h hh
    exact handleToId_idToHandle (handle_fits hdepth (by omega))
  have hids : ((playing held).map fun p => handleToId p.handle).Perm (hs.map fun h => (h.slot : Int)) := by
    have hperm := hheld.holders.map fun key => handleToId key.1
    rw [List.map_map, List.map_map] at hperm
    have hright : hs.map ((fun key => handleToId key.1) ∘ Holder.key) = hs.map fun h => (h.slot : Int) :=
      List.map_congr_left hslot
    rwa [hright] at hperm
  constructor
  · exact hids.nodup_iff.2 H.nodup_ids
  · intro p hp
    have hkey := hheld.holders.subset (List.mem_map_of_mem hp)
    obtain ⟨h, hh, heq⟩ := List.mem_map.1 hkey
    obtain ⟨st, hst⟩ := H.nodeList_eq hh
    simp only [Holder.key, FocusHandle.key, Prod.mk.injEq] at heq
    obtain ⟨hhandle, hcallback, hargv, htid⟩ := heq
    refine ⟨h.slot, ?_, ?_, ?_⟩
    · rw [H.entries]
      exact List.mem_map_of_mem hh
    · rw [← hhandle, hslot h hh]
    · rw [hst]
      exact ⟨htid, hcallback, hargv⟩
  · intro i hi
    rw [H.entries] at hi
    obtain ⟨h, hh, rfl⟩ := List.mem_map.1 hi
    have hmem := hids.symm.subset (List.mem_map_of_mem hh)
    exact List.mem_map.1 hmem

theorem HandlesHold.request {f : MediaFocus} (hheld : HandlesHold depth hs held) (H : Holds f.stack depth hs)
    (hl : LevelsBelow f.table hs) (now : Nat) (name : Option String) (callback argv : Option Nat) (tid : Nat)
    (r : FocusResult) :
    HandlesHold depth (holdersRequest f.table depth allAlive hs now name callback argv tid).holders
      (handlesAfter r (.request name callback argv tid) (mediaFocusRequest allAlive f now name callback argv tid)
        held) := by
  have href : Refines f.table depth (mediaFocusRequest allAlive f now name callback argv tid) _ :=
    request_eq H hl now name callback argv tid
  unfold handlesAfter
  dsimp only
  rcases holdersRequest_cases allAlive_eq f.table depth hs now name callback argv tid with
    ⟨new, v, hcallback, hargv, htid, -, hreply, hv, hperm⟩ | ⟨⟨slot, hslot, hreply⟩ | hreply, hsame⟩
  · -- a new holder
    have hhandle := href.handle
    rw [hreply, Option.map_some, if_neg hv] at hhandle
    rw [hhandle, href.returnType _ hreply]
    dsimp only
    constructor
    · have hplaying : playing (⟨idToHandle new.slot, v, callback, argv, tid⟩ :: held) =
          ⟨idToHandle new.slot, v, callback, argv, tid⟩ :: playing held :=
        List.filter_cons_of_pos (by simpa using hv)
      have hkey : FocusHandle.key ⟨idToHandle new.slot, v, callback, argv, tid⟩ = new.key := by
        rw [hcallback, ← hargv, ← htid]
        rfl
      rw [hplaying, List.map_cons, hkey]
      exact (hheld.holders.cons new.key).trans (hperm.map Holder.key).symm
    · intro p hp hstop
      rcases List.mem_cons.1 hp with rfl | hp
      · exact absurd hstop hv
      · exact hheld.stopped p hp hstop
  · -- a handle beyond the stack
    have hhandle := href.handle
    rw [hreply, Option.map_some, if_pos rfl] at hhandle
    rw [hhandle, href.returnType _ hreply, hsame]
    dsimp only
    constructor
    · have hplaying : playing (⟨idToHandle (slot + depth), MEDIA_FOCUS_STOP, callback, argv, tid⟩ :: held) =
          playing held := List.filter_cons_of_neg (by simp)
      rw [hplaying]
      exact hheld.holders
    · intro p hp hstop
      rcases List.mem_cons.1 hp with rfl | hp
      · exact ⟨slot + depth, by omega, by omega, by push_cast; rfl⟩
      · exact hheld.stopped p hp hstop
  · have hhandle := href.handle
    rw [hreply, Option.map_none] at hhandle
    rw [hhandle, hsame]
    exact hheld

/-- A handle that is out is a valid one. -/
theorem HandlesHold.handle_eq (hheld : HandlesHold depth hs held) (H : Holds s depth hs) {p : FocusHandle}
    (hp : p ∈ held) : ∃ n, n < 2 * depth ∧ p.handle = idToHandle n ∧ (p.suggestion = MEDIA_FOCUS_STOP ↔ depth ≤ n) := by
  by_cases hstop : p.suggestion = MEDIA_FOCUS_STOP
  · obtain ⟨n, hle, hlt, hhandle⟩ := hheld.stopped p hp hstop
    exact ⟨n, hlt, hhandle, by simp [hstop, hle]⟩
  · have hplaying : p ∈ playing held := List.mem_filter.2 ⟨hp, by simpa using hstop⟩
    obtain ⟨h, hh, heq⟩ := List.mem_map.1 (hheld.holders.subset (List.mem_map_of_mem hplaying))
    have hlt := H.slot_lt h hh
    refine ⟨h.slot, by omega, (congrArg Prod.fst heq).symm, ?_⟩
    simp [hstop]
    omega

/-- The holders after a handle was abandoned. -/
theorem holdersAbandon_eq {alive : Nat → Nat → Bool} (halive : ∀ now tid, alive now tid = true) (t : InteractionTable)
    (hs : List Holder) (now : Nat) (hn : 65536 * n + 15 < 2147483648) :
    (holdersAbandon t alive hs now (idToHandle n)).holders = hs.eraseP fun h => decide (h.slot = n) := by
  have hvalid : ¬ (idToHandle n).toInt < ID_SHIFT - 1 := by
    rw [idToHandle_toInt hn]
    simp only [ID_SHIFT]
    omega
  unfold holdersAbandon
  rw [if_neg hvalid]
  dsimp only
  rw [dropHolder_eq, (clearHolders_allAlive halive true hs now).1, handleToId_idToHandle hn]
  simp only [Int.ofNat_inj]

theorem HandlesHold.abandon {p : FocusHandle} (hheld : HandlesHold depth hs held) (H : Holds s depth hs)
    (hdepth : 2 * depth * 2 ^ 16 < 2 ^ 31) (hn : n < 2 * depth) (hhandle : p.handle = idToHandle n) :
    HandlesHold depth (hs.eraseP fun h => decide (h.slot = n))
      (held.eraseP fun q => decide (q.handle = p.handle)) := by
  have hinj : ∀ m, m < 2 * depth → (idToHandle m = idToHandle n ↔ m = n) := by
    intro m hm
    refine ⟨fun heq => ?_, fun heq => heq ▸ rfl⟩
    have hids := congrArg handleToId heq
    rw [handleToId_idToHandle (handle_fits hdepth hm), handleToId_idToHandle (handle_fits hdepth hn)] at hids
    exact Int.ofNat_inj.1 hids
  refine ⟨?_, fun q hq hstop => hheld.stopped q (List.mem_of_mem_eraseP hq) hstop⟩
  -- the handles that are the same number as `p` are for the same place
  have hsame : ∀ q ∈ held, q.handle = p.handle → (q.suggestion = MEDIA_FOCUS_STOP ↔ depth ≤ n) := by
    intro q hq heq
    obtain ⟨m, hm, hq, hiff⟩ := hheld.handle_eq H hq
    rw [heq, hhandle] at hq
    rw [hiff, (hinj m hm).1 hq.symm]
  by_cases hbeyond : depth ≤ n
  · -- no entry is denoted
    have hplaying : playing (held.eraseP fun q => decide (q.handle = p.handle)) = playing held := by
      refine filter_eraseP_of_not fun q hq heq => ?_
      simpa using (hsame q hq (of_decide_eq_true heq)).2 hbeyond
    have hholders : (hs.eraseP fun h => decide (h.slot = n)) = hs := by
      refine List.eraseP_of_forall_not fun h hh heq => ?_
      have hlt := H.slot_lt h hh
      have hslot : h.slot = n := of_decide_eq_true heq
      omega
    rw [hplaying, hholders]
    exact hheld.holders
  · have hplaying : playing (held.eraseP fun q => decide (q.handle = p.handle)) =
        (playing held).eraseP fun q => decide (q.handle = p.handle) := by
      refine filter_eraseP_of_imp fun q hq heq => ?_
      simpa using fun hstop => hbeyond ((hsame q hq (of_decide_eq_true heq)).1 hstop)
    have hdistinct : ((playing held).map FocusHandle.handle).Nodup := by
      have hids := (hheld.denote H hdepth).distinct
      have hmap : ((playing held).map fun p => handleToId p.handle) =
          ((playing held).map FocusHandle.handle).map handleToId := by
        rw [List.map_map]
        rfl
      rw [hmap] at hids
      exact hids.of_map _
    have hholders : (hs.eraseP fun h => decide (h.slot = n)) =
        hs.filter fun h => decide (idToHandle h.slot ≠ p.handle) := by
      rw [eraseP_eq_filter H.nodup]
      refine List.filter_congr fun h hh => ?_
      have hlt := H.slot_lt h hh
      rw [hhandle]
      exact decide_eq_decide.2 (not_congr (hinj h.slot (by omega)).symm)
    rw [hplaying, hholders, eraseP_eq_filter hdistinct]
    have hperm := hheld.holders.filter fun key => decide (key.1 ≠ p.handle)
    rw [List.filter_map, List.filter_map] at hperm
    exact hperm

/-- The focus and the handles that are out after some calls. -/
def HandlesSound (t : InteractionTable) (depth : Nat) (r : FocusResult) (held : List FocusHandle) : Prop :=
  r.focus.table = t ∧ ∃ hs, Holds r.focus.stack depth hs ∧ LevelsBelow t hs ∧ HandlesHold depth hs held

theorem HandlesSound.step {r : FocusResult} {c : FocusCall} (hdepth : 2 * depth * 2 ^ 16 < 2 ^ 31)
    (hsound : HandlesSound t depth r held) (hheld : AbandonsHeld (r, held) c) :
    HandlesSound t depth (focusCall allAlive r.focus r.now c)
      (handlesAfter r c (focusCall allAlive r.focus r.now c) held) := by
  obtain ⟨rfl, hs, H, hl, hhold⟩ := hsound
  cases c with
  | request name callback argv tid =>
    have href : Refines r.focus.table depth (mediaFocusRequest allAlive r.focus r.now name callback argv tid) _ :=
      request_eq H hl r.now name callback argv tid
    exact ⟨href.table, _, href.holds, href.levels, hhold.request H hl r.now name callback argv tid r⟩
  | abandon handle =>
    have href : Refines r.focus.table depth (mediaFocusAbandon allAlive r.focus r.now handle) _ :=
      abandon_eq H hl r.now handle
    obtain ⟨p, hp, rfl⟩ := hheld
    obtain ⟨n, hn, hhandle, -⟩ := hhold.handle_eq H hp
    refine ⟨href.table, _, href.holds, href.levels, ?_⟩
    have hholders := holdersAbandon_eq allAlive_eq r.focus.table hs r.now (handle_fits hdepth hn)
    rw [hhandle, hholders]
    exact hhandle ▸ hhold.abandon H hdepth hn hhandle

theorem focusCalls_sound (hdepth : 2 * depth * 2 ^ 16 < 2 ^ 31) {p : FocusResult × List FocusHandle}
    (hp : (focusCallsHeld t depth).ReachableVia AbandonsHeld p) : HandlesSound t depth p.1 p.2 := by
  refine hp.recorded (P := HandlesSound t depth) ?_ fun r held c r' hsound hheld hnext => ?_
  · exact ⟨rfl, [], holds_init depth, by simp [LevelsBelow], ⟨.refl _, nofun⟩⟩
  · obtain rfl := Option.some.inj hnext
    exact hsound.step hdepth hheld

/-- In every run the handles that are out, other than those of requests that were told to stop, and the entries of the
stack are in one-to-one correspondence.  Abandoning such a handle takes its entry off the stack and keeps the others in
their order, and abandoning one of the other handles changes nothing. -/
theorem focusCalls_handlesDenote (hdepth : 2 * depth * 2 ^ 16 < 2 ^ 31) {p : FocusResult × List FocusHandle}
    (hp : (focusCallsHeld t depth).ReachableVia AbandonsHeld p) :
    HandlesDenote p.1.focus.stack p.2 ∧ ∀ q ∈ p.2,
      (focusCall allAlive p.1.focus p.1.now (.abandon q.handle)).focus.stack.entries =
        if q.suggestion = MEDIA_FOCUS_STOP then p.1.focus.stack.entries
        else p.1.focus.stack.entries.erase (handleToId q.handle).toNat := by
  obtain ⟨rfl, hs, H, hl, hhold⟩ := focusCalls_sound hdepth hp
  refine ⟨hhold.denote H hdepth, fun q hq => ?_⟩
  obtain ⟨n, hn, hhandle, hstop⟩ := hhold.handle_eq H hq
  have hfits := handle_fits hdepth hn
  have href : Refines p.1.focus.table depth (mediaFocusAbandon allAlive p.1.focus p.1.now q.handle) _ :=
    abandon_eq H hl p.1.now q.handle
  have hholds := href.holds
  rw [hhandle, holdersAbandon_eq allAlive_eq _ _ _ hfits] at hholds
  have hafter : (focusCall allAlive p.1.focus p.1.now (.abandon q.handle)).focus.stack.entries =
      (hs.eraseP fun h => decide (h.slot = n)).map Holder.slot := by
    rw [hhandle]
    exact hholds.entries
  rw [hafter, hhandle, handleToId_idToHandle hfits, Int.toNat_natCast, H.entries]
  by_cases hbeyond : depth ≤ n
  · rw [if_pos (hstop.2 hbeyond), List.eraseP_of_forall_not]
    intro h hh heq
    have hlt := H.slot_lt h hh
    have hslot : h.slot = n := of_decide_eq_true heq
    omega
  · rw [if_neg fun heq => hbeyond (hstop.1 heq), List.erase_eq_eraseP, List.eraseP_map]
    congr 1
    refine congrArg (List.eraseP · hs) (funext fun h => ?_)
    simp [eq_comm, beq_eq_decide]

def sampleHandleCalls : List FocusCall :=
  [.request (some "Media") (some 0) none 1, .request (some "Ring") (some 0) none 2,
   .abandon 0x0000000F#32, .request (some "Music") (some 0) none 3]

theorem focusCalls_handlesDenote_sample :
    let p := ((focusCallsHeld sampleTable 3).runFrom AbandonsHeld (focusCallsHeld sampleTable 3).start
      sampleHandleCalls).get (by decide)
    HandlesDenote p.1.focus.stack p.2 :=
  (focusCalls_handlesDenote (by decide) (Machine.reachableVia_get (by decide))).1

end MediaFramework
