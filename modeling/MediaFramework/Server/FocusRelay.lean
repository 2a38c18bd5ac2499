import MediaFramework.Server.ServerSlots
import MediaFramework.Server.SessionRelay

/-!
# What focus clients are told

A client asks for the focus of a stream, or gives its handle back, and clients are told suggestions.  The server keeps
slots, links and handles for that.  What goes over the wire hangs on less: on the streams of the clients that have the
focus or wait for it, in their order, and on the interaction table.
-/

namespace MediaFramework

variable {w : SizeT} {s : MediaServer} {t : InteractionTable} {depth n k : Nat} {out : StubOutcomes}

/-! ### The requests -/

/-- The requests of a focus client, which has a connection of its own. -/
inductive FocusOp
  | ping
  | request (name : CBytes)
  | abandon

/-- The target and the command. -/
def FocusOp.message : FocusOp → Option CBytes × CBytes
  | ping => (none, ⟨bytesOf "ping".toList, by decide⟩)
  | request name => (some name, ⟨bytesOf "request".toList, by decide⟩)
  | abandon => (none, ⟨bytesOf "abandon".toList, by decide⟩)

/-- The request as `media_focus.c` makes it, or `media_uv_focus.c`. -/
def FocusOp.made (uv : Bool) (op : FocusOp) : MediaRequest :=
  if uv then .focus op.message.1 (some op.message.2)
  else .once .focus op.message.1 (some op.message.2) none 0 0

/-- A request of less than 2 GiB. -/
def FocusOp.Short (op : FocusOp) : Prop := (responseText op.message.1).length + 64 < 2 ^ 31

/-! ### What is to be -/

/-- A client that has the focus or waits for it, and the index of its stream. -/
structure FocusEntry where
  conn : Nat
  level : Nat
  deriving DecidableEq

/-- The clients in their order, the connections that have a handle, and those that gave it back. -/
structure FocusWorld where
  stack : List FocusEntry := []
  handles : List Nat := []
  gone : List Nat := []
  deriving DecidableEq

/-- The result of a request, and the clients that are told something, with the suggestions. -/
structure FocusOutcome where
  ret : Int
  world : FocusWorld
  told : List (Nat × Int) := []
  deriving DecidableEq

/-- The clients below the first one are told how their streams get along with its own. -/
def tellBelow (t : InteractionTable) (top : FocusEntry) (under : List FocusEntry) : List (Nat × Int) :=
  under.map fun e => (e.conn, t.pasInter top.level e.level)

/-- When the first one has gone the next one is told to play. -/
def tellNext (t : InteractionTable) : List FocusEntry → List (Nat × Int)
  | [] => []
  | next :: under => (next.conn, MEDIA_FOCUS_PLAY) :: tellBelow t next under

/-- A new client while there is room: the clients afterwards, who is told, and the suggestion for the new one. -/
def admitEntry (t : InteractionTable) (stack : List FocusEntry) (new : FocusEntry) :
    List FocusEntry × List (Nat × Int) × Option Int :=
  match stack with
  | [] => ([new], [], some MEDIA_FOCUS_PLAY)
  | top :: _ =>
    let v := t.proInter new.level top.level
    let index := stack.findIdx fun e => decide (new.level ≤ e.level)
    if v = MEDIA_FOCUS_PLAY then (new :: stack, tellBelow t new stack, some MEDIA_FOCUS_PLAY)
    else if v = MEDIA_FOCUS_PLAY_BUT_SILENT ∨ v = MEDIA_FOCUS_PLAY_WITH_DUCK then
      if index = 0 then (stack, [], none) else (stack.take index ++ new :: stack.drop index, [], some v)
    else if v < 0 then (stack, [], none)
    else (stack, [], some MEDIA_FOCUS_STOP)

namespace FocusWorld

variable (t : InteractionTable) (depth : Nat) (world : FocusWorld) (k : Nat)

/-- Who is not admitted is refused, or gets a handle and the suggestion to stop. -/
def request (name : Option (List UInt8)) : FocusOutcome :=
  match name.bind fun bs => t.streams.findIdx? (· == String.ofList (text bs)) with
  | none => ⟨-EPERM, world, []⟩
  | some level =>
    if world.stack.length = depth then ⟨-EPERM, world, []⟩
    else
      let r := admitEntry t world.stack ⟨k, level⟩
      match r.2.2 with
      | none => ⟨-EPERM, { world with stack := r.1 }, r.2.1⟩
      | some v => ⟨v, { world with stack := r.1, handles := k :: world.handles }, r.2.1⟩

/-- A handle that was given back is not to be used again. -/
def abandon : FocusOutcome :=
  if k ∈ world.handles then
    let left (stack : List FocusEntry) : FocusWorld := ⟨stack, world.handles.erase k, k :: world.gone⟩
    match world.stack with
    | [] => ⟨-ENOENT, left [], []⟩
    | top :: rest =>
      if top.conn = k then ⟨0, left rest, tellNext t rest⟩
      else ⟨0, left (top :: rest.eraseP fun e => decide (e.conn = k)), []⟩
  else ⟨-EINVAL, world, []⟩

end FocusWorld

namespace FocusOp

def outcome (t : InteractionTable) (depth : Nat) (world : FocusWorld) (k : Nat) : FocusOp → FocusOutcome
  | ping => ⟨0, world, []⟩
  | request name => world.request t depth k (arrived (some name))
  | abandon => world.abandon t k

/-- One of `n` connections makes the request.  Who was refused abandons all the same, but nobody gives a handle back
twice. -/
def Proper (n : Nat) (world : FocusWorld) (k : Nat) : FocusOp → Prop
  | ping => True
  | request _ => k < n ∧ k ∉ world.handles
  | abandon => k ∈ world.handles ∨ k ∉ world.gone

end FocusOp

/-- Requests one after the other: their results, the clients at the end, and what is told. -/
def FocusWorld.run (t : InteractionTable) (depth : Nat) : FocusWorld → List (Nat × FocusOp) →
    List Int × FocusWorld × List (Nat × Int)
  | world, [] => ([], world, [])
  | world, (k, op) :: rest =>
    let r := op.outcome t depth world k
    let later := run t depth r.world rest
    (r.ret :: later.1, later.2.1, r.told ++ later.2.2)

def FocusWorld.ProperRun (t : InteractionTable) (depth n : Nat) : FocusWorld → List (Nat × FocusOp) → Prop
  | _, [] => True
  | world, (k, op) :: rest => op.Proper n world k ∧ ProperRun t depth n (op.outcome t depth world k).world rest

/-! ### What the server keeps for it -/

/-- The holder of an entry, in the slot of its connection. -/
def FocusEntry.holder (slot : Nat → Nat) (e : FocusEntry) : Holder := ⟨slot e.conn, e.level, daemonTid, 0, some e.conn⟩

/-- The entries are the holders of the stack, and each connection with a handle has the one for its slot stored.  The
slot of a connection that is told to stop is beyond the stack. -/
structure FocusKeeps (t : InteractionTable) (depth n : Nat) (slot : Nat → Nat) (s : MediaServer) (world : FocusWorld) :
    Prop where
  table : s.focus.table = t
  conns : s.conns.length = n
  holds : Holds s.focus.stack depth (world.stack.map (FocusEntry.holder slot))
  levels : LevelsBelow t (world.stack.map (FocusEntry.holder slot))
  stored : ∀ k ∈ world.handles, mediaServerGetData s.conns k = some (focusWord (idToHandle (slot k)))
  bound : ∀ k ∈ world.handles, slot k < 2 * depth
  stopped : ∀ k ∈ world.handles, (∀ e ∈ world.stack, e.conn ≠ k) → depth ≤ slot k
  owns : ∀ e ∈ world.stack, e.conn ∈ world.handles
  nodup : world.handles.Nodup
  fresh : ∀ k, k ∉ world.handles → k ∉ world.gone → mediaServerGetData s.conns k = none

/-- What is told by events: to which connection, and which suggestion. -/
def heard (told : List (Option SessionTold)) : List (Option (Option Nat × BitVec 32)) :=
  told.map (Option.map fun x => (x.cookie, x.event))

/-- Suggestions as they arrive, with an `int32_t` each. -/
def suggested (told : List (Nat × Int)) : List (Option (Option Nat × BitVec 32)) :=
  told.map fun p => some (some p.1, BitVec.ofInt 32 p.2)

/-- The events tell the clients these suggestions. -/
def Tells (w : SizeT) (events : List FocusEvent) (told : List (Nat × Int)) : Prop :=
  heard ((events.filterMap focusNotice).map (·.told w)) = suggested told

namespace Tells

variable {events events' : List FocusEvent} {told told' : List (Nat × Int)}

theorem append (h : Tells w events told) (h' : Tells w events' told') :
    Tells w (events ++ events') (told ++ told') := by
  unfold Tells heard suggested at h h' ⊢
  rw [List.filterMap_append, List.map_append, List.map_append, List.map_append, h, h']

theorem suggest (e : FocusEntry) (slot : Nat → Nat) (st : FocusState) (v : Int) :
    Tells w [.suggest ((e.holder slot).id st) v] [(e.conn, v)] := by
  have htold := @Notice.told_eq w ⟨.focus (slot e.conn), some e.conn, BitVec.ofInt 32 v, 0, none⟩ none rfl (by decide)
  show [Option.map _ (Notice.told w _)] = _
  exact congrArg (fun x => [Option.map (fun x : SessionTold => (x.cookie, x.event)) x]) htold

theorem below (top : FocusEntry) (slot : Nat → Nat) (under : List FocusEntry) :
    Tells w (broadcastEvents t ((top :: under).map (FocusEntry.holder slot))) (tellBelow t top under) := by
  induction under with
  | nil => rfl
  | cons e under ih => exact (suggest e slot .under _).append ih

end Tells

/-! ### The calls on entries -/

theorem insertIndex_map (slot : Nat → Nat) (stack : List FocusEntry) (level : Nat) :
    insertIndex (stack.map (FocusEntry.holder slot)) level = stack.findIdx fun e => decide (level ≤ e.level) := by
  induction stack with
  | nil => rfl
  | cons e stack ih =>
    unfold insertIndex at ih ⊢
    rw [List.map_cons, List.findIdx_cons, List.findIdx_cons, ih]
    rfl

/-- A new holder is admitted as its entry is. -/
theorem admitHolder_map (t : InteractionTable) (slot : Nat → Nat) (stack : List FocusEntry) (new : FocusEntry) :
    (admitHolder t (stack.map (FocusEntry.holder slot)) (new.holder slot)).1 =
        (admitEntry t stack new).1.map (FocusEntry.holder slot) ∧
      Tells w (admitHolder t (stack.map (FocusEntry.holder slot)) (new.holder slot)).2.1 (admitEntry t stack new).2.1 ∧
      (admitHolder t (stack.map (FocusEntry.holder slot)) (new.holder slot)).2.2 = (admitEntry t stack new).2.2 := by
  cases stack with
  | nil => exact ⟨rfl, rfl, rfl⟩
  | cons top rest =>
    have hindex := insertIndex_map slot (top :: rest) new.level
    unfold admitHolder admitEntry
    rw [List.map_cons] at hindex ⊢
    dsimp only
    rw [show (FocusEntry.holder slot new).level = new.level from rfl,
      show (FocusEntry.holder slot top).level = top.level from rfl, hindex]
    split
    · exact ⟨rfl, Tells.below new slot (top :: rest), rfl⟩
    · split
      · split
        · exact ⟨rfl, rfl, rfl⟩
        · refine ⟨?_, rfl, rfl⟩
          rw [← List.map_cons, ← List.map_take, ← List.map_drop, List.map_append, List.map_cons]
      · split
        · exact ⟨rfl, rfl, rfl⟩
        · exact ⟨rfl, rfl, rfl⟩

/-- The entry that a holder was made for. -/
def Holder.entry (h : Holder) : FocusEntry := ⟨h.argv.getD 0, h.level⟩

theorem map_entry (slot : Nat → Nat) (stack : List FocusEntry) :
    (stack.map (FocusEntry.holder slot)).map Holder.entry = stack := by
  rw [List.map_map]
  exact List.map_id stack

theorem map_holder_update {slot : Nat → Nat} {stack : List FocusEntry} (hk : ∀ e ∈ stack, e.conn ≠ k) (i : Nat) :
    stack.map (FocusEntry.holder (Function.update slot k i)) = stack.map (FocusEntry.holder slot) := by
  refine List.map_congr_left fun e he => ?_
  rw [FocusEntry.holder, FocusEntry.holder, Function.update_of_ne (hk e he)]

/-- Who plays is new among the clients, and who does not leaves them as they are. -/
theorem admitEntry_cases (t : InteractionTable) (stack : List FocusEntry) (new : FocusEntry) :
    (∃ v, (admitEntry t stack new).2.2 = some v ∧ v ≠ MEDIA_FOCUS_STOP ∧
        (admitEntry t stack new).1.Perm (new :: stack)) ∨
      ((admitEntry t stack new).2.2 = some MEDIA_FOCUS_STOP ∨ (admitEntry t stack new).2.2 = none) ∧
        (admitEntry t stack new).1 = stack := by
  obtain ⟨hholders, -, hreply⟩ := @admitHolder_map .w64 t id stack new
  have hentries := congrArg (List.map Holder.entry) hholders
  rw [map_entry] at hentries
  rw [← hreply, ← hentries]
  rcases admitHolder_cases t (stack.map (FocusEntry.holder id)) (new.holder id) with
    ⟨v, hv, hplays, hperm⟩ | ⟨hv, hsame⟩
  · refine .inl ⟨v, hv, hplays, ?_⟩
    have hperm' := hperm.map Holder.entry
    rwa [List.map_cons, map_entry] at hperm'
  · refine .inr ⟨hv, ?_⟩
    rw [hsame, map_entry]

/-- What a request comes to in the focus module: no handle, or one for a slot of the new entry, or one beyond the
stack. -/
theorem mediaFocusRequest_entry {f : MediaFocus} {slot : Nat → Nat} {world : FocusWorld}
    (holds : Holds f.stack depth (world.stack.map (FocusEntry.holder slot)))
    (hlevels : LevelsBelow f.table (world.stack.map (FocusEntry.holder slot))) (hnew : ∀ e ∈ world.stack, e.conn ≠ k)
    (now : Nat) (name : Option (List UInt8)) {r : FocusResult} {o : FocusOutcome}
    (hr : mediaFocusRequest daemonAlive f now ((name.map text).map String.ofList) (some 0) (some k) daemonTid = r)
    (ho : world.request f.table depth k name = o) :
    r.focus.table = f.table ∧ Tells w r.events o.told ∧
      (r.handle = none ∧ o.ret = -EPERM ∧ o.world = world ∧
          Holds r.focus.stack depth (world.stack.map (FocusEntry.holder slot)) ∨
        ∃ i < 2 * depth, r.handle = some (idToHandle i) ∧ r.returnType = some o.ret ∧
          o.world.handles = k :: world.handles ∧ o.world.gone = world.gone ∧
          Holds r.focus.stack depth (o.world.stack.map (FocusEntry.holder (Function.update slot k i))) ∧
          LevelsBelow f.table (o.world.stack.map (FocusEntry.holder (Function.update slot k i))) ∧
          (depth ≤ i ∧ o.world.stack = world.stack ∨
            ∃ level, o.world.stack.Perm (⟨k, level⟩ :: world.stack))) := by
  have href : Refines f.table depth
      (mediaFocusRequest daemonAlive f now ((name.map text).map String.ofList) (some 0) (some k) daemonTid) _ :=
    request_eq holds hlevels now _ (some 0) (some k) daemonTid
  rw [hr] at href
  refine ⟨href.table, ?_⟩
  have hlevel : (((name.map text).map String.ofList).bind fun n => f.table.streams.findIdx? (· == n)) =
      name.bind fun bs => f.table.streams.findIdx? (· == String.ofList (text bs)) := by
    cases name <;> rfl
  obtain ⟨hcleared, hquiet⟩ :=
    clearHolders_allAlive daemonAlive_eq true (world.stack.map (FocusEntry.holder slot)) now
  obtain ⟨hholds, -, hbelow, -, hevents, hhandle, hreturn⟩ := href
  unfold holdersRequest at hholds hbelow hevents hhandle hreturn
  rw [hlevel] at hholds hbelow hevents hhandle hreturn
  unfold FocusWorld.request at ho
  cases hindex : name.bind fun bs => f.table.streams.findIdx? (· == String.ofList (text bs)) with
  | none =>
    rw [hindex] at hholds hevents hhandle ho
    subst ho
    dsimp only at hholds hevents hhandle
    refine ⟨?_, .inl ⟨hhandle, rfl, rfl, hholds⟩⟩
    rw [hevents]
    rfl
  | some level =>
    rw [hindex] at hholds hbelow hevents hhandle hreturn ho
    dsimp only at hholds hbelow hevents hhandle hreturn ho
    rw [hcleared] at hholds hbelow hevents hhandle hreturn
    rw [hquiet] at hevents
    by_cases hfull : world.stack.length = depth
    · have hfree : freeSlot depth (world.stack.map (FocusEntry.holder slot)) = none :=
        holds.freeSlot_eq_none_iff.2 ((List.length_map _).trans hfull)
      rw [hfree] at hholds hevents hhandle
      rw [if_pos hfull] at ho
      subst ho
      refine ⟨?_, .inl ⟨hhandle, rfl, rfl, hholds⟩⟩
      rw [hevents]
      rfl
    · obtain ⟨i, hfree⟩ : ∃ i, freeSlot depth (world.stack.map (FocusEntry.holder slot)) = some i := by
        refine Option.ne_none_iff_exists'.1 fun hnone => hfull ?_
        rw [← holds.freeSlot_eq_none_iff.1 hnone, List.length_map]
      have hi := (freeSlot_spec hfree).1
      -- the slot becomes the one of the new connection
      have hnewHolder : (⟨i, level, daemonTid, 0, some k⟩ : Holder) =
          FocusEntry.holder (Function.update slot k i) ⟨k, level⟩ := by
        rw [FocusEntry.holder, Function.update_self]
      rw [hfree] at hholds hbelow hevents hhandle hreturn
      dsimp only at hholds hbelow hevents hhandle hreturn
      rw [hnewHolder, ← map_holder_update hnew i] at hholds hbelow hevents hhandle hreturn
      obtain ⟨hstack, htells, hreply⟩ := @admitHolder_map w f.table (Function.update slot k i) world.stack ⟨k, level⟩
      rw [hstack] at hholds hbelow
      rw [hreply] at hhandle hreturn
      rw [if_neg hfull] at ho
      have htold : Tells w r.events (admitEntry f.table world.stack ⟨k, level⟩).2.1 := by
        rw [hevents, List.nil_append]
        exact htells
      rcases admitEntry_cases f.table world.stack ⟨k, level⟩ with ⟨v, hv, hplays, hperm⟩ | ⟨hv | hv, hsame⟩
      · rw [hv] at hhandle hreturn ho
        subst ho
        rw [Option.map_some, Option.map_some, if_neg hplays] at hhandle
        exact ⟨htold, .inr ⟨i, by omega, hhandle, hreturn _ rfl, rfl, rfl, hholds, hbelow, .inr ⟨level, hperm⟩⟩⟩
      · rw [hv] at hhandle hreturn ho
        subst ho
        rw [Option.map_some, Option.map_some, if_pos rfl] at hhandle
        rw [hsame, map_holder_update hnew] at hholds hbelow
        refine ⟨htold, .inr ⟨i + depth, by omega, ?_, hreturn _ rfl, rfl, rfl, ?_, ?_, .inl ⟨by omega, hsame⟩⟩⟩
        · rw [hhandle]
          push_cast
          rfl
        · rw [hsame, map_holder_update hnew]
          exact hholds
        · rw [hsame, map_holder_update hnew]
          exact hbelow
      · rw [hv] at hhandle ho
        subst ho
        rw [hsame, map_holder_update hnew] at hholds
        refine ⟨htold, .inl ⟨hhandle, rfl, ?_, hholds⟩⟩
        dsimp only
        rw [hsame]

theorem idToHandle_valid {i : Nat} (hi : 65536 * i + 15 < 2147483648) : ¬ (idToHandle i).toInt < ID_SHIFT - 1 := by
  rw [idToHandle_toInt hi]
  simp only [ID_SHIFT]
  omega

/-- An abandon finds a holder, or that there is none. -/
theorem mediaFocusAbandon_ret_of_holds {f : MediaFocus} {hs : List Holder} (H : Holds f.stack depth hs) (now : Nat)
    {i : Nat} (hi : 65536 * i + 15 < 2147483648) :
    (mediaFocusAbandon daemonAlive f now (idToHandle i)).ret = if hs = [] then -ENOENT else 0 := by
  obtain ⟨s₁, hclear, H₁⟩ := @uselessClear_eq f.table f.stack depth hs daemonAlive H now
  rw [(clearHolders_allAlive daemonAlive_eq true hs now).1] at H₁
  unfold mediaFocusAbandon
  rw [if_neg (idToHandle_valid hi)]
  dsimp only
  rw [hclear]
  dsimp only
  rw [H₁.top_eq]
  cases hs with
  | nil => rfl
  | cons top rest =>
    rw [List.head?_cons, Option.map_some, if_neg (List.cons_ne_nil _ _)]
    dsimp only
    split <;> rfl

theorem FocusWorld.abandon_stack {world : FocusWorld} (hk : k ∈ world.handles) :
    (world.abandon t k).world.stack = world.stack.eraseP fun e => decide (e.conn = k) := by
  unfold FocusWorld.abandon
  rw [if_pos hk]
  cases world.stack with
  | nil => rfl
  | cons top rest =>
    dsimp only
    by_cases htop : top.conn = k
    · rw [if_pos htop, List.eraseP_cons_of_pos (by simpa using htop)]
    · rw [if_neg htop, List.eraseP_cons_of_neg (by simpa using htop)]

theorem FocusWorld.abandon_world {world : FocusWorld} (hk : k ∈ world.handles) :
    (world.abandon t k).world.handles = world.handles.erase k ∧ (world.abandon t k).world.gone = k :: world.gone ∧
      (world.abandon t k).ret = if world.stack = [] then -ENOENT else 0 := by
  unfold FocusWorld.abandon
  rw [if_pos hk]
  cases world.stack with
  | nil => exact ⟨rfl, rfl, rfl⟩
  | cons top rest =>
    rw [if_neg (List.cons_ne_nil _ _)]
    dsimp only
    split
    · exact ⟨rfl, rfl, rfl⟩
    · exact ⟨rfl, rfl, rfl⟩

/-- The holder that goes is the one of the connection. -/
theorem dropHolder_tells {slot : Nat → Nat} {world : FocusWorld} (hk : k ∈ world.handles)
    (hslot : ∀ e ∈ world.stack, slot e.conn = slot k ↔ e.conn = k) :
    Tells w (dropHolder t (world.stack.map (FocusEntry.holder slot)) (slot k)).2 (world.abandon t k).told := by
  unfold FocusWorld.abandon
  rw [if_pos hk]
  cases hstack : world.stack with
  | nil => rfl
  | cons top rest =>
    have htop := hslot top (hstack ▸ List.mem_cons_self)
    have hholder : ((FocusEntry.holder slot top).slot : Int) = slot k ↔ top.conn = k := by
      rw [← htop]
      exact Int.ofNat_inj
    unfold dropHolder
    rw [List.map_cons]
    dsimp only
    by_cases hconn : top.conn = k
    · rw [if_pos (hholder.2 hconn), if_pos hconn]
      cases rest with
      | nil => rfl
      | cons next under => exact (Tells.suggest next slot .top _).append (Tells.below next slot under)
    · rw [if_neg fun h => hconn (hholder.1 h), if_neg hconn]
      rfl

theorem eraseP_holder {slot : Nat → Nat} {stack : List FocusEntry}
    (hslot : ∀ e ∈ stack, slot e.conn = slot k ↔ e.conn = k) :
    ((stack.map (FocusEntry.holder slot)).eraseP fun h => decide ((h.slot : Int) = slot k)) =
      (stack.eraseP fun e => decide (e.conn = k)).map (FocusEntry.holder slot) := by
  induction stack with
  | nil => rfl
  | cons e stack ih =>
    have hholder : ((FocusEntry.holder slot e).slot : Int) = slot k ↔ e.conn = k := by
      rw [← hslot e List.mem_cons_self]
      exact Int.ofNat_inj
    by_cases hconn : e.conn = k
    · rw [List.map_cons, List.eraseP_cons_of_pos (by exact decide_eq_true (hholder.2 hconn)),
        List.eraseP_cons_of_pos (by exact decide_eq_true hconn)]
    · rw [List.map_cons, List.eraseP_cons_of_neg (by simpa using mt hholder.1 hconn),
        List.eraseP_cons_of_neg (by simpa using hconn), ih fun e' he' => hslot e' (List.mem_cons_of_mem _ he'),
        List.map_cons]

/-! ### The handler -/

theorem mediaFocusHandler_request_eq (f : MediaFocus) (now cookie : Nat) (data : Option Nat) (name : Option CString)
    (res : Bool) (len : Nat) {r : FocusResult}
    (hr : mediaFocusRequest daemonAlive f now (name.map String.ofList) (some 0) (some cookie) daemonTid = r) :
    mediaFocusHandler f now cookie data name (some "request".toList) res len = some
      { ret := r.handle.elim (-EPERM) fun _ => r.returnType.getD 0, focus := r.focus, now := r.now
        events := r.events, stored := r.handle.map focusWord } := by
  unfold mediaFocusHandler
  rw [Option.bind_some, if_neg (by decide), if_pos rfl]
  dsimp only
  rw [hr]
  cases r.handle with
  | none => rfl
  | some handle => rfl

theorem mediaFocusHandler_abandon_eq (f : MediaFocus) (now cookie : Nat) (data : Option Nat) (name : Option CString)
    (res : Bool) (len : Nat) {r : FocusResult} (hr : mediaFocusAbandon daemonAlive f now (focusHandle data) = r) :
    mediaFocusHandler f now cookie data name (some "abandon".toList) res len = some
      { ret := r.ret, focus := r.focus, now := r.now, events := r.events, finalized := some cookie } := by
  unfold mediaFocusHandler
  rw [Option.bind_some, if_neg (by decide), if_neg (by decide), if_pos rfl]
  dsimp only
  rw [hr]

theorem mediaStubHandle_focus {target cmd : Option (List UInt8)} {g : FocusHandlerResult}
    (hg : mediaFocusHandler s.focus s.now k (mediaServerGetData s.conns k) (target.map text) (cmd.map text)
      (out.hasRes 0) 0 = some g) :
    mediaStubHandle s k out (.focus target cmd 0) = some
      { ret := g.ret, server := { s with focus := g.focus, now := g.now }, stored := g.stored, finalized := g.finalized
        sent := g.events.filterMap focusNotice, response := g.response } := by
  show (mediaFocusHandler _ _ _ _ _ _ (out.hasRes 0) 0).map _ = _
  rw [hg, Option.map_some]

theorem mediaServerGetData_setData (conns : MediaServerConns) (k : Nat) (word c : Nat) :
    mediaServerGetData (mediaServerSetData conns k (some word)) c =
      if k = c then conns[c]?.map fun _ => word else mediaServerGetData conns c := by
  unfold mediaServerGetData
  rw [mediaServerSetData_get]
  cases conns[c]? with
  | none => simp
  | some conn => by_cases hc : k = c <;> simp [hc]

theorem mediaServerGetData_finalize_of_ne (conns : MediaServerConns) {c : Nat} (hc : c ≠ k) :
    mediaServerGetData (mediaServerFinalize conns (some k)) c = mediaServerGetData conns c := by
  unfold mediaServerGetData
  rw [mediaServerFinalize_get]
  cases conns[c]? with
  | none => rfl
  | some conn => rw [Option.map_some, if_neg fun h => hc (Option.some.inj h).symm]

theorem mediaServerGetData_finalize_none {conns : MediaServerConns} (h : mediaServerGetData conns k = none) :
    mediaServerGetData (mediaServerFinalize conns (some k)) k = none := by
  unfold mediaServerGetData at h ⊢
  rw [mediaServerFinalize_get]
  cases hconn : conns[k]? with
  | none => rfl
  | some conn =>
    rw [hconn, Option.bind_some] at h
    rw [Option.map_some, if_pos rfl, Option.bind_some, mediaServerConnFinalize_data, h, ite_self]

namespace FocusKeeps

variable {slot : Nat → Nat} {world : FocusWorld}

/-- Slots tell the connections apart. -/
theorem slot_iff (h : FocusKeeps t depth n slot s world) {e : FocusEntry} (he : e ∈ world.stack)
    (hk : k ∈ world.handles) : slot e.conn = slot k ↔ e.conn = k := by
  refine ⟨fun heq => ?_, congrArg slot⟩
  have hlt : slot e.conn < depth := h.holds.slot_lt _ (List.mem_map_of_mem he)
  by_contra hne
  -- the slot of `k` is either beyond the stack or the one of an entry, and entries have different slots
  by_cases hin : ∀ e' ∈ world.stack, e'.conn ≠ k
  · have := h.stopped k hk hin
    omega
  · simp only [not_forall, not_not] at hin
    obtain ⟨e', he', rfl⟩ := hin
    have hnodup := h.holds.nodup
    rw [List.map_map] at hnodup
    have hsame := List.inj_on_of_nodup_map hnodup he he' heq
    exact hne (congrArg FocusEntry.conn hsame)

/-- Each connection is in the stack once. -/
theorem nodup_conns (h : FocusKeeps t depth n slot s world) : (world.stack.map FocusEntry.conn).Nodup := by
  have hnodup := h.holds.nodup
  rw [List.map_map] at hnodup
  refine List.Nodup.of_map slot ?_
  rw [List.map_map]
  exact hnodup

/-- The server does what an operation is for. -/
def Serves (w : SizeT) (t : InteractionTable) (depth n : Nat) (s : MediaServer) (k : Nat) (out : StubOutcomes)
    (world : FocusWorld) (op : FocusOp) : Prop :=
  ∃ r slot', mediaStubHandle s k out (.focus (arrived op.message.1) (some op.message.2.val) 0) = some r ∧
    r.ret = (op.outcome t depth world k).ret ∧
    heard (r.sent.map (·.told w)) = suggested (op.outcome t depth world k).told ∧
    FocusKeeps t depth n slot' { r.server with conns := r.conns k } (op.outcome t depth world k).world

theorem ping (h : FocusKeeps t depth n slot s world) : Serves w t depth n s k out world .ping :=
  ⟨_, slot, rfl, rfl, rfl, h⟩

theorem request (h : FocusKeeps t depth n slot s world) (hk : k < n) (hnew : k ∉ world.handles) (name : CBytes) :
    Serves w t depth n s k out world (.request name) := by
  obtain ⟨rfl, hconns, holds, hlevels, hstored, hbound, hstopped, howns, hnodup, hfresh⟩ := h
  have hother : ∀ e ∈ world.stack, e.conn ≠ k := fun e he heq => hnew (heq ▸ howns e he)
  generalize hr : mediaFocusRequest daemonAlive s.focus s.now (((arrived (some name)).map text).map String.ofList)
    (some 0) (some k) daemonTid = r
  generalize ho : world.request s.focus.table depth k (arrived (some name)) = o
  obtain ⟨htable, htells, hcases⟩ :=
    @mediaFocusRequest_entry w depth k s.focus slot world holds hlevels hother s.now (arrived (some name)) r o hr ho
  have hcmd : text (bytesOf "request".toList) = "request".toList := by decide
  have hhandler := mediaFocusHandler_request_eq s.focus s.now k (mediaServerGetData s.conns k) _ (out.hasRes 0) 0 hr
  rw [← hcmd] at hhandler
  have hhandle : mediaStubHandle s k out (.focus (arrived (some name)) (some (bytesOf "request".toList)) 0) = some _ :=
    mediaStubHandle_focus hhandler
  unfold Serves FocusOp.outcome
  dsimp only
  rw [ho]
  rcases hcases with ⟨hnone, hret, hworld, hholds⟩ |
    ⟨i, hi, hsome, hreturn, hhandles, hgone', hholds, hbelow, hplace⟩
  · rw [hnone] at hhandle
    rw [hworld]
    exact ⟨_, slot, hhandle, hret.symm, htells,
      htable, hconns, hholds, hlevels, hstored, hbound, hstopped, howns, hnodup, hfresh⟩
  · -- the connection was in no slot before, so those of the others are the same as they were
    rw [hsome, hreturn] at hhandle
    have hold (e : FocusEntry) (he : e ∈ world.stack) : e ∈ o.world.stack := by
      rcases hplace with ⟨-, hsame⟩ | ⟨level, hperm⟩
      · rwa [hsame]
      · exact hperm.mem_iff.2 (List.mem_cons_of_mem _ he)
    have hslot (c : Nat) (hc : c ∈ world.handles) : Function.update slot k i c = slot c :=
      Function.update_of_ne (fun heq : c = k => hnew (heq ▸ hc)) ..
    have hdata (c : Nat) : mediaServerGetData (mediaServerSetData s.conns k (some (focusWord (idToHandle i)))) c =
        if k = c then some (focusWord (idToHandle i)) else mediaServerGetData s.conns c := by
      rw [mediaServerGetData_setData]
      by_cases hc : k = c
      · subst hc
        rw [if_pos rfl, if_pos rfl, List.getElem?_eq_getElem (hconns ▸ hk), Option.map_some]
      · rw [if_neg hc, if_neg hc]
    refine ⟨_, Function.update slot k i, hhandle, rfl, htells, htable, ?_, hholds, hbelow, ?_, ?_, ?_, ?_, ?_, ?_⟩
    · show (s.conns.modify k _).length = n
      rw [List.length_modify, hconns]
    · rw [hhandles]
      refine List.forall_mem_cons.2 ⟨?_, fun c hc => ?_⟩
      · rw [Function.update_self]
        exact (hdata k).trans (if_pos rfl)
      · rw [hslot c hc, ← hstored c hc]
        exact (hdata c).trans (if_neg fun heq : k = c => hnew (heq ▸ hc))
    · rw [hhandles]
      refine List.forall_mem_cons.2 ⟨?_, fun c hc => ?_⟩
      · rwa [Function.update_self]
      · rw [hslot c hc]
        exact hbound c hc
    · rw [hhandles]
      refine List.forall_mem_cons.2 ⟨fun hstack => ?_, fun c hc hstack => ?_⟩
      · rw [Function.update_self]
        rcases hplace with ⟨hle, -⟩ | ⟨level, hperm⟩
        · exact hle
        · exact absurd rfl (hstack ⟨k, level⟩ (hperm.mem_iff.2 List.mem_cons_self))
      · rw [hslot c hc]
        exact hstopped c hc fun e he => hstack e (hold e he)
    · rw [hhandles]
      intro e he
      rcases hplace with ⟨-, hsame⟩ | ⟨level, hperm⟩
      · rw [hsame] at he
        exact List.mem_cons_of_mem _ (howns e he)
      · rcases List.mem_cons.1 (hperm.mem_iff.1 he) with rfl | hmem
        · exact List.mem_cons_self
        · exact List.mem_cons_of_mem _ (howns e hmem)
    · rw [hhandles]
      exact List.nodup_cons.2 ⟨hnew, hnodup⟩
    · rw [hhandles, hgone']
      intro c hc hc'
      rw [List.mem_cons, not_or] at hc
      exact (hdata c).trans ((if_neg (Ne.symm hc.1)).trans (hfresh c hc.2 hc'))

theorem abandon (h : FocusKeeps t depth n slot s world) (hdepth : 2 * depth * 2 ^ 16 < 2 ^ 31)
    (hproper : k ∈ world.handles ∨ k ∉ world.gone) : Serves w t depth n s k out world .abandon := by
  have hslot (hk : k ∈ world.handles) (e : FocusEntry) (he : e ∈ world.stack) := h.slot_iff he hk
  have hconn := h.nodup_conns
  obtain ⟨rfl, hconns, holds, hlevels, hstored, hbound, hstopped, howns, hnodup, hfresh⟩ := h
  generalize hr : mediaFocusAbandon daemonAlive s.focus s.now (focusHandle (mediaServerGetData s.conns k)) = r
  have hcmd : text (bytesOf "abandon".toList) = "abandon".toList := by decide
  have hhandler := mediaFocusHandler_abandon_eq s.focus s.now k (mediaServerGetData s.conns k) none (out.hasRes 0) 0 hr
  rw [← hcmd] at hhandler
  have hhandle : mediaStubHandle s k out (.focus (arrived none) (some (bytesOf "abandon".toList)) 0) = some _ :=
    mediaStubHandle_focus hhandler
  have hlength : (mediaServerFinalize s.conns (some k)).length = n := by
    show (s.conns.modify k _).length = n
    rw [List.length_modify, hconns]
  unfold Serves FocusOp.outcome
  dsimp only
  by_cases hk : k ∈ world.handles
  · have hfits := handle_fits hdepth (hbound k hk)
    rw [hstored k hk, focusHandle_focusWord] at hr
    have href : Refines s.focus.table depth (mediaFocusAbandon daemonAlive s.focus s.now (idToHandle (slot k))) _ :=
      abandon_eq holds hlevels s.now _
    have hret := mediaFocusAbandon_ret_of_holds holds s.now hfits
    rw [hr] at href hret
    obtain ⟨hcleared, hquiet⟩ :=
      clearHolders_allAlive daemonAlive_eq true (world.stack.map (FocusEntry.holder slot)) s.now
    obtain ⟨hholds, htable, hbelow, -, hevents, -, -⟩ := href
    unfold holdersAbandon at hholds hbelow hevents
    rw [if_neg (idToHandle_valid hfits), handleToId_idToHandle hfits] at hholds hbelow hevents
    dsimp only at hholds hbelow hevents
    rw [hcleared] at hholds hbelow hevents
    rw [hquiet, List.nil_append] at hevents
    rw [dropHolder_eq, eraseP_holder (hslot hk), ← FocusWorld.abandon_stack (t := s.focus.table) hk] at hholds hbelow
    have htells := @dropHolder_tells w s.focus.table k slot world hk (hslot hk)
    obtain ⟨hhandles, hleft, hret'⟩ := FocusWorld.abandon_world (t := s.focus.table) hk
    have hmem (e : FocusEntry) :
        e ∈ (world.abandon s.focus.table k).world.stack ↔ e ∈ world.stack ∧ e.conn ≠ k := by
      rw [FocusWorld.abandon_stack hk, eraseP_eq_filter hconn, List.mem_filter, decide_eq_true_iff]
    have hhas (c : Nat) : c ∈ (world.abandon s.focus.table k).world.handles ↔ c ≠ k ∧ c ∈ world.handles := by
      rw [hhandles, hnodup.mem_erase_iff]
    refine ⟨_, slot, hhandle, ?_, ?_, htable, hlength, hholds, hbelow, fun c hc => ?_, fun c hc => ?_,
      fun c hc hstack => ?_, fun e he => ?_, ?_, fun c hc hc' => ?_⟩
    · refine hret.trans (Eq.trans ?_ hret'.symm)
      simp only [List.map_eq_nil_iff]
    · rw [← hevents] at htells
      exact htells
    · obtain ⟨hne, hc⟩ := (hhas c).1 hc
      exact (mediaServerGetData_finalize_of_ne s.conns hne).trans (hstored c hc)
    · exact hbound c ((hhas c).1 hc).2
    · obtain ⟨hne, hc⟩ := (hhas c).1 hc
      refine hstopped c hc fun e he heq => ?_
      exact hstack e ((hmem e).2 ⟨he, fun h => hne (heq.symm.trans h)⟩) heq
    · obtain ⟨he, hne⟩ := (hmem e).1 he
      exact (hhas _).2 ⟨hne, howns e he⟩
    · rw [hhandles]
      exact hnodup.erase k
    · rw [hleft, List.mem_cons, not_or] at hc'
      rw [hhas, not_and] at hc
      exact (mediaServerGetData_finalize_of_ne s.conns hc'.1).trans (hfresh c (hc hc'.1) hc'.2)
  · -- a connection that was refused has no handle, and none is what it abandons
    rw [hfresh k hk (hproper.resolve_left hk)] at hr
    subst hr
    have hout : world.abandon s.focus.table k = ⟨-EINVAL, world, []⟩ := if_neg hk
    rw [hout]
    refine ⟨_, slot, hhandle, rfl, rfl, rfl, hlength, holds, hlevels, fun c hc => ?_, hbound, hstopped, howns, hnodup,
      fun c hc hc' => ?_⟩
    · exact (mediaServerGetData_finalize_of_ne s.conns fun heq : c = k => hk (heq ▸ hc)).trans (hstored c hc)
    · by_cases heq : c = k
      · subst heq
        exact mediaServerGetData_finalize_none (hfresh c hc hc')
      · exact (mediaServerGetData_finalize_of_ne s.conns heq).trans (hfresh c hc hc')

theorem serves (h : FocusKeeps t depth n slot s world) (hdepth : 2 * depth * 2 ^ 16 < 2 ^ 31) {op : FocusOp}
    (hproper : op.Proper n world k) : Serves w t depth n s k out world op := by
  cases op with
  | ping => exact h.ping
  | request name => exact h.request hproper.1 hproper.2 name
  | abandon => exact h.abandon hdepth hproper

end FocusKeeps

/-! ### Runs -/

/-- A request of a client, the connection that it comes from, whether the client waits, and what the server meets. -/
structure FocusSend where
  k : Nat
  op : FocusOp
  uv : Bool
  out : StubOutcomes

/-- The parcel is the request of a client, as the server gets it. -/
def FocusSend.Sends (w : SizeT) (send : FocusSend) (request : MediaParcel) : Prop :=
  ∃ p, (send.op.made send.uv).make w [] = some (0, p) ∧ request.payload = p.payload ∧ request.next = 0

theorem FocusOp.Short.fits {op : FocusOp} (h : op.Short) (uv : Bool) : FitsParcel w (op.made uv).args := by
  have hcmd : (responseText (some op.message.2)).length ≤ 7 := by
    cases op <;> exact Nat.le_of_ble_eq_true rfl
  have hint (v : BitVec 32) : (ParcelArg.i v).encode.length = 4 := rfl
  have hargs : (op.made uv).args = [.i ModuleId.focus.val, .s op.message.1, .s (some op.message.2), .i 0] := by
    cases uv <;> rfl
  refine fitsParcel_of_sum ?_
  rw [hargs]
  simp only [List.map_cons, List.map_nil, List.sum_cons, List.sum_nil, hint, length_encode_text]
  unfold FocusOp.Short at h
  omega

theorem FocusOp.call_made (op : FocusOp) (uv : Bool) :
    (op.made uv).call = .focus (arrived op.message.1) (some op.message.2.val) 0 := by
  have hcmd : arrived (some op.message.2) = some op.message.2.val := by
    cases op <;> rfl
  rw [← hcmd]
  cases uv <;> rfl

/-- One request on the wire. -/
theorem FocusKeeps.relay {slot : Nat → Nat} {world : FocusWorld} (h : FocusKeeps t depth n slot s world)
    (hdepth : 2 * depth * 2 ^ 16 < 2 ^ 31) {send : FocusSend} {request : MediaParcel} (hsends : send.Sends w request)
    (hshort : send.op.Short) (hproper : send.op.Proper n world send.k) :
    ∃ s' slot' told,
      sessionRelay w s send.k send.out request = some ((send.op.outcome t depth world send.k).ret, s', told) ∧
      heard told = suggested (send.op.outcome t depth world send.k).told ∧
      FocusKeeps t depth n slot' s' (send.op.outcome t depth world send.k).world := by
  obtain ⟨p, hmake, hpayload, hnext⟩ := hsends
  obtain ⟨p', hmake', hall⟩ := agrees_of_fits (hshort.fits (w := w) send.uv) [] (by simp)
  obtain ⟨-, rfl⟩ : (0 : Int) = 0 ∧ p = p' := by simpa using hmake.symm.trans hmake'
  have hread : (mediaStubRead w request).1 = some (send.op.made send.uv).call :=
    (hall request hpayload hnext (fun _ => (0, none)) none []).1
  obtain ⟨r, slot', hhandle, hret, htold, hkeeps⟩ :=
    @serves w s t depth n send.k send.out slot world h hdepth send.op hproper
  refine ⟨_, slot', _, ?_, htold, hkeeps⟩
  rw [sessionRelay, hread, Option.bind_some, FocusOp.call_made, hhandle, Option.map_some, hret]

theorem FocusKeeps.run {slot : Nat → Nat} {world : FocusWorld} {sends : List (FocusSend × MediaParcel)}
    (h : FocusKeeps t depth n slot s world) (hdepth : 2 * depth * 2 ^ 16 < 2 ^ 31)
    (hsends : ∀ send ∈ sends, send.1.Sends w send.2 ∧ send.1.op.Short) :
    let ops := sends.map fun send => (send.1.k, send.1.op)
    world.ProperRun t depth n ops → ∃ s' slot' told,
      relayRun w s (sends.map fun send => (send.1.k, send.1.out, send.2)) = some ((world.run t depth ops).1, s', told) ∧
      heard told = suggested (world.run t depth ops).2.2 ∧
      FocusKeeps t depth n slot' s' (world.run t depth ops).2.1 := by
  induction sends generalizing s slot world with
  | nil =>
    intro ops _
    exact ⟨s, slot, [], rfl, rfl, h⟩
  | cons send sends ih =>
    intro ops hrun
    obtain ⟨hproper, hlater⟩ := hrun
    obtain ⟨hsend, hshort⟩ := hsends send List.mem_cons_self
    obtain ⟨s₁, slot₁, told₁, hrelay, htold₁, hkeeps⟩ := h.relay hdepth hsend hshort hproper
    obtain ⟨s', slot', told, hrest, htold, hend⟩ :=
      ih hkeeps (fun send hmem => hsends send (List.mem_cons_of_mem _ hmem)) hlater
    refine ⟨s', slot', told₁ ++ told, ?_, ?_, hend⟩
    · rw [List.map_cons, relayRun, hrelay, Option.bind_some]
      dsimp only
      rw [hrest]
      rfl
    · unfold heard suggested at htold₁ htold ⊢
      rw [List.map_append, htold₁, htold, ← List.map_append]
      rfl

/-- Nobody has the focus of a new server. -/
theorem FocusKeeps.init (hfocus : s.focus = mediaFocusInit t depth)
    (hconns : ∀ c, mediaServerGetData s.conns c = none) : FocusKeeps t depth s.conns.length id s {} :=
  ⟨by rw [hfocus]; rfl, rfl, by rw [hfocus]; exact holds_init depth, List.forall_mem_nil _, List.forall_mem_nil _,
    List.forall_mem_nil _, List.forall_mem_nil _, List.forall_mem_nil _, List.nodup_nil, fun c _ _ => hconns c⟩

/-- Whatever focus clients ask a new server, waiting or not, in whatever order: each gets the result, and the others are
told the suggestions, that the order of the streams and the interaction table call for. -/
theorem focusRun_told {sends : List (FocusSend × MediaParcel)} (hdepth : 2 * depth * 2 ^ 16 < 2 ^ 31)
    (hfocus : s.focus = mediaFocusInit t depth) (hconns : ∀ c, mediaServerGetData s.conns c = none)
    (hsends : ∀ send ∈ sends, send.1.Sends w send.2 ∧ send.1.op.Short)
    (hproper : FocusWorld.ProperRun t depth s.conns.length {} (sends.map fun send => (send.1.k, send.1.op))) :
    ∃ s' slot told,
      relayRun w s (sends.map fun send => (send.1.k, send.1.out, send.2)) =
          some ((FocusWorld.run t depth {} (sends.map fun send => (send.1.k, send.1.op))).1, s', told) ∧
        heard told = suggested (FocusWorld.run t depth {} (sends.map fun send => (send.1.k, send.1.op))).2.2 ∧
        FocusKeeps t depth s.conns.length slot s'
          (FocusWorld.run t depth {} (sends.map fun send => (send.1.k, send.1.op))).2.1 := by
  exact (FocusKeeps.init hfocus hconns).run hdepth hsends hproper

/-- Clients can make all their requests. -/
theorem FocusSend.exists_sends (send : FocusSend) (hshort : send.op.Short) : ∃ request, send.Sends w request := by
  obtain ⟨p, hmake, -⟩ := agrees_of_fits (hshort.fits (w := w) send.uv) [] (by simp)
  exact ⟨{ p with next := 0 }, p, hmake, rfl, rfl⟩

/-- Two connections, and nobody has the focus. -/
def sampleFocusRelay : MediaServer where
  conns := [{ tranFd := 5 }, { tranFd := 6 }]
  focus := mediaFocusInit sampleTable 8

/-- There is music, and the phone rings for a while. -/
def sampleMusic : FocusSend := ⟨0, .request ⟨bytesOf "Music".toList, by decide⟩, true, {}⟩

def sampleRing : FocusSend := ⟨1, .request ⟨bytesOf "Ring".toList, by decide⟩, false, {}⟩

def sampleQuiet : FocusSend := ⟨1, .abandon, false, {}⟩

theorem focusRun_told_sample : ∃ music ring quiet s' told,
    relayRun .w64 sampleFocusRelay [(0, {}, music), (1, {}, ring), (1, {}, quiet)] = some ([0, 0, 0], s', told) ∧
      heard told = [some (some 0, 2), some (some 0, 0)] := by
  have hmusic : sampleMusic.op.Short := (by decide : 5 + 64 < 2 ^ 31)
  have hring : sampleRing.op.Short := (by decide : 4 + 64 < 2 ^ 31)
  have hquiet : sampleQuiet.op.Short := (by decide : 0 + 64 < 2 ^ 31)
  have hproper : FocusWorld.ProperRun sampleTable 8 2 {}
      [(0, sampleMusic.op), (1, sampleRing.op), (1, sampleQuiet.op)] :=
    ⟨⟨by decide, by decide⟩, ⟨by decide, by decide⟩, .inl (by decide), trivial⟩
  obtain ⟨music, hmusicSends⟩ := sampleMusic.exists_sends (w := .w64) hmusic
  obtain ⟨ring, hringSends⟩ := sampleRing.exists_sends (w := .w64) hring
  obtain ⟨quiet, hquietSends⟩ := sampleQuiet.exists_sends (w := .w64) hquiet
  obtain ⟨s', -, told, hrun, htold, -⟩ := @focusRun_told .w64 sampleFocusRelay sampleTable 8
    [(sampleMusic, music), (sampleRing, ring), (sampleQuiet, quiet)] (by decide) rfl
    (fun c => by rcases c with - | - | c <;> rfl)
    (List.forall_mem_cons.2 ⟨⟨hmusicSends, hmusic⟩,
      List.forall_mem_cons.2 ⟨⟨hringSends, hring⟩, List.forall_mem_singleton.2 ⟨hquietSends, hquiet⟩⟩⟩) hproper
  exact ⟨music, ring, quiet, s', told, hrun, htold⟩

end MediaFramework
