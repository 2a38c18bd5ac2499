import MediaFramework.Focus.FocusRuns
import MediaFramework.Focus.FocusHandles
import MediaFramework.Focus.FocusSuggestion

/-!
# Clearing the stack and admitting a holder (`server/focus_stack.c`, `server/media_focus.c`)

What a request does to the stack, in terms of the holders before it: clearing keeps the holders that are alive, and the
new one comes where the interaction table puts it.
-/

namespace MediaFramework

open IntrusiveList

variable {t : InteractionTable} {s : AppFocusStack} {depth : Nat} {hs : List Holder} {alive : Nat → Nat → Bool}

/-! ### Clearing -/

/-- Clearing turns the stack `s` into `s'` with the callbacks `events`, where `alive` tells of each thread whether it is
alive. -/
structure KeepsAlive (alive : Nat → Bool) (s s' : AppFocusStack) (events : List FocusEvent) : Prop where
  list : IsList s'.links s'.entries
  entries : s'.entries = s.entries.filter fun i => alive (s.nodeList i).threadId
  curSize : s'.curSize = s'.entries.length
  top : ∀ i ∈ s'.entries.head?, s'.nodeList i = { s.nodeList i with focusState := .top }
  under : ∀ i ∈ s'.entries.tail, s'.nodeList i = { s.nodeList i with focusState := .under }
  freed : ∀ i ∈ s.entries, i ∉ s'.entries → (s'.nodeList i).clientId = -1
  events : events = match s.entries, s'.entries with
    | i :: _, j :: _ =>
      if alive (s.nodeList i).threadId then [] else [.suggest (s'.nodeList j) MEDIA_FOCUS_PLAY]
    | _, _ => []

/-- When no thread dies meanwhile, a pass keeps the holders that are alive. -/
theorem clearHolders_filter (a : Nat → Bool) (hs : List Holder) : ∀ (isTop : Bool) (now : Nat),
    (clearHolders (fun _ tid => a tid) isTop hs now).1 = hs.filter fun h => a h.tid := by
  induction hs with
  | nil =>
    intro isTop now
    rfl
  | cons h rest ih =>
    intro isTop now
    by_cases hal : a h.tid = true
    · rw [clearHolders_of_alive rest isTop hal, List.filter_cons_of_pos (p := fun h : Holder => a h.tid) hal, ih]
    · rw [List.filter_cons_of_neg (p := fun h : Holder => a h.tid) hal]
      cases isTop with
      | false => rw [clearHolders_of_dead_under rest hal, ih]
      | true =>
        cases rest with
        | nil => rw [clearHolders_of_dead_last hal, List.filter_nil]
        | cons k rest =>
          rw [clearHolders_of_dead_top k rest hal]
          exact ih true (now + 2)

/-- The first holder that is alive is told to play, unless it was on top before. -/
theorem clearHolders_filter_events (a : Nat → Bool) (hs : List Holder) : ∀ now,
    (clearHolders (fun _ tid => a tid) true hs now).2.2 =
      match hs, hs.filter fun h => a h.tid with
      | h :: _, k :: _ => if a h.tid then [] else [.suggest (k.id .top) MEDIA_FOCUS_PLAY]
      | _, _ => [] := by
  induction hs with
  | nil =>
    intro now
    rfl
  | cons h rest ih =>
    intro now
    by_cases hal : a h.tid = true
    · rw [(@clearHolders_alive (fun _ tid => a tid) h now rest hal).2,
        List.filter_cons_of_pos (p := fun h : Holder => a h.tid) hal]
      exact (if_pos hal).symm
    · rw [List.filter_cons_of_neg (p := fun h : Holder => a h.tid) hal]
      cases rest with
      | nil =>
        rw [clearHolders_of_dead_last hal]
        rfl
      | cons k rest =>
        rw [clearHolders_of_dead_top k rest hal]
        dsimp only
        rw [ih (now + 2)]
        by_cases hk : a k.tid = true
        · -- the holder after the dead one is the one that is told
          rw [List.filter_cons_of_pos (p := fun h : Holder => a h.tid) hk]
          dsimp only
          rw [if_pos hk, if_pos hk, if_neg hal, List.append_nil]
        · rw [List.filter_cons_of_neg (p := fun h : Holder => a h.tid) hk, if_neg hk, List.nil_append]
          cases hleft : rest.filter fun h => a h.tid with
          | nil => rfl
          | cons j left =>
            dsimp only
            rw [if_neg hk, if_neg hal]

/-- Clearing with a nonblocking flag is filtering. -/
theorem uselessClear_keepsAlive (a : Nat → Bool) (H : Holds s depth hs) (now : Nat) :
    KeepsAlive a s
      (appFocusStackUselessClear (mediaFocusStackCallback t) (fun _ tid => a tid) s now NONBLOCK_CALLBACK_FLAG).1
      (appFocusStackUselessClear (mediaFocusStackCallback t) (fun _ tid => a tid) s now
        NONBLOCK_CALLBACK_FLAG).2.2 := by
  obtain ⟨s', hclear, H'⟩ := uselessClear_eq (t := t) (fun _ tid => a tid) H now
  rw [hclear]
  rw [clearHolders_filter] at H'
  dsimp only
  have hold : ∀ h ∈ hs, ∃ st, s.nodeList h.slot = h.id st := fun h hh => H.nodeList_eq hh
  have hsub : ∀ h ∈ hs.filter fun h => a h.tid, h ∈ hs := fun h hh => List.mem_of_mem_filter hh
  constructor
  · rw [H'.entries]
    exact H'.list
  · rw [H'.entries, H.entries, List.filter_map]
    congr 1
    refine List.filter_congr fun h hh => ?_
    exact congrArg a (H.threadId hh).symm
  · rw [H'.entries, H'.cur, List.length_map]
  · rw [H'.entries, List.head?_map]
    intro i hi
    obtain ⟨h, hh, rfl⟩ := Option.map_eq_some_iff.1 hi
    obtain ⟨st, hst⟩ := hold h (hsub h (List.mem_of_head? hh))
    rw [H'.top h hh, hst]
    rfl
  · rw [H'.entries, ← List.map_tail]
    intro i hi
    obtain ⟨h, hh, rfl⟩ := List.mem_map.1 hi
    obtain ⟨st, hst⟩ := hold h (hsub h (List.mem_of_mem_tail hh))
    rw [H'.under h hh, hst]
    rfl
  · intro i _ hi
    rw [H'.entries] at hi
    exact H'.free i hi
  · rw [clearHolders_filter_events, H.entries, H'.entries]
    cases hs with
    | nil => rfl
    | cons h rest =>
      rw [List.map_cons]
      cases hleft : (h :: rest).filter fun h => a h.tid with
      | nil => rfl
      | cons k left =>
        rw [List.map_cons]
        dsimp only
        rw [H.threadId List.mem_cons_self, H'.top k (by rw [hleft]; rfl)]

/-- The stack with three holders of `sampleRequests`, the phone on top. -/
def sampleHeld : FocusRun := ((focusMachine sampleTable 3 allAlive).runFrom (fun _ _ => True)
  (focusMachine sampleTable 3 allAlive).start sampleRequests).get (by decide)

theorem uselessClear_keepsAlive_sample :
    KeepsAlive (· != 3) sampleHeld.focus.stack
      (appFocusStackUselessClear (mediaFocusStackCallback sampleTable) (fun _ tid => tid != 3) sampleHeld.focus.stack 0
        NONBLOCK_CALLBACK_FLAG).1
      (appFocusStackUselessClear (mediaFocusStackCallback sampleTable) (fun _ tid => tid != 3) sampleHeld.focus.stack 0
        NONBLOCK_CALLBACK_FLAG).2.2 := by
  have h : (focusMachine sampleTable 3 allAlive).Reachable sampleHeld := Machine.reachableVia_get (by decide)
  obtain ⟨⟨hs, -, H, -⟩, -⟩ := focusRun_stores h
  exact uselessClear_keepsAlive (· != 3) H 0

/-! ### Admission -/

/-- How the new stream gets along with what is on the stack. -/
def admissionValue (t : InteractionTable) (hs : List Holder) (level : Nat) : Int :=
  match hs with
  | [] => MEDIA_FOCUS_PLAY
  | top :: _ => t.proInter level top.level

/-- The values with which a new holder comes onto the stack. -/
def AdmitsWith (v : Int) : Prop := v = MEDIA_FOCUS_PLAY ∨ v = MEDIA_FOCUS_PLAY_BUT_SILENT ∨ v = MEDIA_FOCUS_PLAY_WITH_DUCK

instance (v : Int) : Decidable (AdmitsWith v) := inferInstanceAs (Decidable (_ ∨ _))

/-- The request returned a handle of a new holder and the suggestion `v`; the holder is on top of the others if it may
play, and below the first one otherwise. -/
def AdmittedAs (depth : Nat) (hs : List Holder) (level : Nat) (v : Int) (r : FocusResult) : Prop :=
  r.returnType = some v ∧ ∃ new : Holder, new.level = level ∧ new.slot ∉ hs.map Holder.slot ∧
    r.handle = some (idToHandle new.slot) ∧
    if v = MEDIA_FOCUS_PLAY then Holds r.focus.stack depth (new :: hs)
    else ∃ top above below, hs = top :: (above ++ below) ∧
      Holds r.focus.stack depth (top :: (above ++ new :: below))

/-- The request `r` does what the table says about a stack `s` with the holders `hs`. -/
def FollowsTable (t : InteractionTable) (depth : Nat) (s : AppFocusStack) (hs : List Holder) (level : Nat)
    (r : FocusResult) : Prop :=
  if AdmitsWith (admissionValue t hs level) then AdmittedAs depth hs level (admissionValue t hs level) r
  else r.returnType = some MEDIA_FOCUS_STOP ∧ r.focus.stack = s

/-- What the request finds when dead holders are gone. -/
structure Cleared (alive : Nat → Nat → Bool) (f : MediaFocus) (now depth : Nat) (s : AppFocusStack)
    (hs : List Holder) : Prop where
  clear : (appFocusStackUselessClear (mediaFocusStackCallback f.table) alive f.stack now NONBLOCK_CALLBACK_FLAG).1 = s
  holds : Holds s depth hs
  levels : LevelsBelow f.table hs
  room : hs.length < depth

/-- With a value that admits nobody the stack stays as it was cleared. -/
theorem mediaFocusRequest_refused {f : MediaFocus} {now level callback tid : Nat} {name : String} {argv : Option Nat}
    (h : Cleared alive f now depth s hs) (hname : f.table.streams.findIdx? (· == name) = some level)
    (hv : ¬ AdmitsWith (admissionValue f.table hs level)) :
    (mediaFocusRequest alive f now (some name) (some callback) argv tid).returnType = some MEDIA_FOCUS_STOP ∧
      (mediaFocusRequest alive f now (some name) (some callback) argv tid).focus.stack = s := by
  cases hs with
  | nil => exact absurd (.inl rfl) hv
  | cons top rest =>
    obtain ⟨slot, hslot⟩ : ∃ slot, freeSlot depth (top :: rest) = some slot := by
      rw [← Option.isSome_iff_exists, Option.isSome_iff_ne_none, ne_eq, h.holds.freeSlot_eq_none_iff]
      exact Nat.ne_of_lt h.room
    have hid := h.holds.freeClientId
    rw [hslot] at hid
    have htop := h.holds.top_eq
    have hloc : level * f.table.num + top.level < f.table.num * f.table.num :=
      f.table.location_lt (List.findIdx?_eq_some_iff_findIdx_eq.1 hname).1 (h.levels top List.mem_cons_self)
    have hpro : (f.table.matrix.getD (level * f.table.num + top.level) default).proInter =
        admissionValue f.table (top :: rest) level := rfl
    have hclear := h.clear
    unfold mediaFocusRequest
    simp only [hname]
    generalize appFocusStackUselessClear (mediaFocusStackCallback f.table) alive f.stack now
      NONBLOCK_CALLBACK_FLAG = r at hclear
    obtain ⟨s₁, now₁, ev₁⟩ := r
    cases hclear
    simp only [hid, htop, List.head?_cons, Option.map_some, Holder.id_focusLevel]
    rw [if_neg (by omega), if_pos hloc, hpro]
    unfold AdmitsWith at hv
    rw [not_or] at hv
    rw [if_neg hv.1, if_neg hv.2]
    split
    · exact ⟨rfl, rfl⟩
    · exact ⟨rfl, rfl⟩

theorem admitsWith_ne_stop {v : Int} (hv : AdmitsWith v) : v ≠ MEDIA_FOCUS_STOP := by
  rcases hv with rfl | rfl | rfl <;> decide

/-- The place of a new holder is below the one on top exactly if its level is above that of the one on top. -/
theorem insertIndex_pos {top : Holder} (rest : List Holder) {level : Nat} :
    insertIndex (top :: rest) level ≠ 0 ↔ top.level < level := by
  unfold insertIndex
  rw [List.findIdx_cons]
  by_cases hle : level ≤ top.level
  · simp [hle]
  · simp [hle]
    omega

/-- A value that admits puts the new holder where the table says, unless it is to come below a holder on top whose level
is not below its own. -/
theorem admitHolder_admitted {hs : List Holder} (new : Holder) (hv : AdmitsWith (admissionValue t hs new.level)) :
    (admissionValue t hs new.level = MEDIA_FOCUS_PLAY ∧ (admitHolder t hs new).1 = new :: hs ∧
      (admitHolder t hs new).2.2 = some (admissionValue t hs new.level)) ∨
    (admissionValue t hs new.level ≠ MEDIA_FOCUS_PLAY ∧ ∃ top rest, hs = top :: rest ∧
      if top.level < new.level then
        (admitHolder t hs new).2.2 = some (admissionValue t hs new.level) ∧
          ∃ above below, rest = above ++ below ∧ (admitHolder t hs new).1 = top :: (above ++ new :: below)
      else (admitHolder t hs new).2.2 = none) := by
  cases hs with
  | nil => exact .inl ⟨rfl, rfl, rfl⟩
  | cons top rest =>
    unfold admitHolder
    dsimp only
    change AdmitsWith (t.proInter new.level top.level) at hv
    by_cases hplay : t.proInter new.level top.level = MEDIA_FOCUS_PLAY
    · rw [if_pos hplay]
      exact .inl ⟨hplay, rfl, congrArg some hplay.symm⟩
    · rw [if_neg hplay, if_pos (hv.resolve_left hplay)]
      refine .inr ⟨hplay, top, rest, rfl, ?_⟩
      by_cases hlevel : top.level < new.level
      · have hpos := insertIndex_pos rest |>.2 hlevel
        obtain ⟨n, hn⟩ := Nat.exists_eq_succ_of_ne_zero hpos
        rw [if_pos hlevel, if_neg hpos, hn]
        exact ⟨rfl, rest.take n, rest.drop n, (List.take_append_drop n rest).symm, rfl⟩
      · have hzero : insertIndex (top :: rest) new.level = 0 := by
          by_contra hne
          exact hlevel ((insertIndex_pos rest).1 hne)
        rw [if_neg hlevel, if_pos hzero]

/-- When dead holders are gone and a slot is free, a request follows the table unless the new holder is to come below a
holder on top whose level is not below its own. -/
theorem mediaFocusRequest_followsTable {f : MediaFocus} {name : String} {level : Nat} (H : Holds f.stack depth hs)
    (hl : LevelsBelow f.table hs) (hname : f.table.streams.findIdx? (· == name) = some level) (now callback tid : Nat)
    (argv : Option Nat) (hroom : (clearHolders alive true hs now).1.length < depth) :
    let s := (appFocusStackUselessClear (mediaFocusStackCallback f.table) alive f.stack now NONBLOCK_CALLBACK_FLAG).1
    let left := (clearHolders alive true hs now).1
    let v := admissionValue f.table left level
    Holds s depth left ∧
      (FollowsTable f.table depth s left level
          (mediaFocusRequest alive f now (some name) (some callback) argv tid) ↔
        (v = MEDIA_FOCUS_PLAY_BUT_SILENT ∨ v = MEDIA_FOCUS_PLAY_WITH_DUCK → ∀ top ∈ left.head?, top.level < level)) := by
  obtain ⟨s, hclear, Hs⟩ := uselessClear_eq (t := f.table) alive H now
  dsimp only
  have hcleared : Cleared alive f now depth s (clearHolders alive true hs now).1 :=
    ⟨by rw [hclear], Hs, hl.sublist (clearHolders_sublist alive true hs now), hroom⟩
  rw [hcleared.clear]
  refine ⟨Hs, ?_⟩
  have hrefines := @request_eq depth hs alive f H hl now (some name) (some callback) argv tid
  have hrequest : ∃ slot, slot ∉ (clearHolders alive true hs now).1.map Holder.slot ∧
      (holdersRequest f.table depth alive hs now (some name) (some callback) argv tid).holders =
        (admitHolder f.table (clearHolders alive true hs now).1 ⟨slot, level, tid, callback, argv⟩).1 ∧
      (holdersRequest f.table depth alive hs now (some name) (some callback) argv tid).reply =
        (admitHolder f.table (clearHolders alive true hs now).1 ⟨slot, level, tid, callback, argv⟩).2.2.map
          (slot, ·) := by
    obtain ⟨slot, hslot⟩ : ∃ slot, freeSlot depth (clearHolders alive true hs now).1 = some slot := by
      rw [← Option.isSome_iff_exists, Option.isSome_iff_ne_none, ne_eq, Hs.freeSlot_eq_none_iff]
      exact Nat.ne_of_lt hroom
    refine ⟨slot, (freeSlot_spec hslot).2, ?_⟩
    unfold holdersRequest
    rw [Option.bind_some, hname]
    dsimp only
    rw [hslot]
    exact ⟨rfl, rfl⟩
  generalize (clearHolders alive true hs now).1 = left at *
  obtain ⟨slot, hfree, hholders, hreply⟩ := hrequest
  unfold FollowsTable
  by_cases hv : AdmitsWith (admissionValue f.table left level)
  · rw [if_pos hv]
    have hstop := admitsWith_ne_stop hv
    -- a reply that admits gives the handle of the slot
    have hadmitted : ∀ hs', (admitHolder f.table left ⟨slot, level, tid, callback, argv⟩).2.2 =
          some (admissionValue f.table left level) →
        (admitHolder f.table left ⟨slot, level, tid, callback, argv⟩).1 = hs' →
        let r := mediaFocusRequest alive f now (some name) (some callback) argv tid
        r.returnType = some (admissionValue f.table left level) ∧ r.handle = some (idToHandle slot) ∧
          Holds r.focus.stack depth hs' := by
      intro hs' hsome hlist
      rw [hsome] at hreply
      have hmem := hrefines.returnType _ hreply
      have hhandle := hrefines.handle
      rw [hreply] at hhandle
      refine ⟨hmem, ?_, ?_⟩
      · rw [hhandle]
        exact congrArg (fun x => some (idToHandle x)) (if_neg hstop)
      · rw [← hlist, ← hholders]
        exact hrefines.holds
    rcases admitHolder_admitted ⟨slot, level, tid, callback, argv⟩ hv with
      ⟨hplay, hlist, hsome⟩ | ⟨hplay, top, rest, hleft, hplace⟩
    · obtain ⟨htype, hhandle, hstack⟩ := hadmitted _ hsome hlist
      refine iff_of_true ⟨htype, ⟨slot, level, tid, callback, argv⟩, rfl, hfree, hhandle, ?_⟩ ?_
      · rw [if_pos hplay]
        exact hstack
      · intro hbelow
        change admissionValue f.table left level = MEDIA_FOCUS_PLAY at hplay
        rw [hplay] at hbelow
        exact absurd hbelow (by decide)
    · by_cases hlevel : top.level < level
      · rw [if_pos hlevel] at hplace
        obtain ⟨hsome, above, below, hrest, hlist⟩ := hplace
        obtain ⟨htype, hhandle, hstack⟩ := hadmitted _ hsome hlist
        refine iff_of_true ⟨htype, ⟨slot, level, tid, callback, argv⟩, rfl, hfree, hhandle, ?_⟩ ?_
        · rw [if_neg hplay]
          exact ⟨top, above, below, by rw [hleft, hrest], hstack⟩
        · intro _ h hh
          rw [hleft] at hh
          cases hh
          exact hlevel
      · rw [if_neg hlevel] at hplace
        rw [hplace] at hreply
        have hhandle := hrefines.handle
        rw [hreply] at hhandle
        refine iff_of_false ?_ ?_
        · rintro ⟨-, new, -, -, hsome, -⟩
          rw [hhandle] at hsome
          cases hsome
        · intro hbelow
          refine hlevel (hbelow (hv.resolve_left hplay) top ?_)
          rw [hleft]
          rfl
  · rw [if_neg hv]
    refine iff_of_true (mediaFocusRequest_refused hcleared hname hv) ?_
    intro hbelow
    exact absurd (.inr hbelow) hv

/-- Where a stream of the sample table is admitted first. -/
def sampleFirst (t : InteractionTable) (name : String) : MediaFocus :=
  (mediaFocusRequest allAlive (mediaFocusInit t 3) 0 (some name) (some 0) none 1).focus

/-- The stack holds the one that was admitted. -/
theorem sampleFirst_holds (t : InteractionTable) (name : String) (level : Nat)
    (hname : t.streams.findIdx? (· == name) = some level) :
    Holds (sampleFirst t name).stack 3 [⟨0, level, 1, 0, none⟩] ∧ (sampleFirst t name).table = t := by
  have hrefines := @request_eq 3 [] allAlive (mediaFocusInit t 3) (holds_init 3) nofun 0 (some name) (some 0) none 1
  refine ⟨?_, hrefines.table⟩
  have hholders : (holdersRequest t 3 allAlive [] 0 (some name) (some 0) none 1).holders =
      [⟨0, level, 1, 0, none⟩] := by
    unfold holdersRequest
    rw [Option.bind_some, hname]
    rfl
  have hholds := hrefines.holds
  rw [show (mediaFocusInit t 3).table = t from rfl, hholders] at hholds
  exact hholds

/-- Music that is requested while the phone rings is ducked. -/
theorem mediaFocusRequest_followsTable_sample :
    let f := sampleFirst sampleTable "Ring"
    let s := (appFocusStackUselessClear (mediaFocusStackCallback f.table) allAlive f.stack 1 NONBLOCK_CALLBACK_FLAG).1
    let left := (clearHolders allAlive true [⟨0, 0, 1, 0, none⟩] 1).1
    let v := admissionValue f.table left 1
    Holds s 3 left ∧
      (FollowsTable f.table 3 s left 1 (mediaFocusRequest allAlive f 1 (some "Music") (some 5) none 2) ↔
        (v = MEDIA_FOCUS_PLAY_BUT_SILENT ∨ v = MEDIA_FOCUS_PLAY_WITH_DUCK → ∀ top ∈ left.head?, top.level < 1)) :=
  mediaFocusRequest_followsTable (sampleFirst_holds sampleTable "Ring" 0 (by decide)).1
    (by unfold LevelsBelow; decide) (by decide) 1 5 2 none
    (by decide)

/-- A table in which a stream is to duck below a later one. -/
def sampleDuckTable : InteractionTable where
  streams := ["Ring", "Music"]
  matrix := [⟨0, 2⟩, ⟨4, 2⟩, ⟨0, 2⟩, ⟨0, 4⟩]
  streams_pos := by decide
  matrix_length := by decide

/-- A holder that is to come below one of a level not below its own is not admitted. -/
theorem mediaFocusRequest_not_followsTable : ¬ ∀ (alive : Nat → Nat → Bool) (f : MediaFocus) (depth : Nat)
    (hs left : List Holder) (name : String) (level now callback tid : Nat) (argv : Option Nat) (s : AppFocusStack),
    Holds f.stack depth hs → LevelsBelow f.table hs → f.table.streams.findIdx? (· == name) = some level →
    Cleared alive f now depth s left →
    FollowsTable f.table depth s left level (mediaFocusRequest alive f now (some name) (some callback) argv tid) := by
  intro h
  obtain ⟨H, htable⟩ := sampleFirst_holds sampleDuckTable "Music" 1 (by decide)
  have hl : LevelsBelow (sampleFirst sampleDuckTable "Music").table [⟨0, 1, 1, 0, none⟩] := by
    rw [htable]
    unfold LevelsBelow
    decide
  obtain ⟨s, hclear, Hs⟩ := uselessClear_eq (t := (sampleFirst sampleDuckTable "Music").table) allAlive H 1
  have hfollows := h allAlive (sampleFirst sampleDuckTable "Music") 3 _ _ "Ring" 0 1 5 2 none s H hl (by decide)
    ⟨by rw [hclear], Hs, hl.sublist (clearHolders_sublist ..), by decide⟩
  have hhandle :
      (mediaFocusRequest allAlive (sampleFirst sampleDuckTable "Music") 1 (some "Ring") (some 5) none 2).handle =
      none := by decide
  unfold FollowsTable at hfollows
  rw [if_pos (by decide)] at hfollows
  obtain ⟨-, new, -, -, hsome, -⟩ := hfollows
  rw [hhandle] at hsome
  cases hsome

end MediaFramework
