import MediaFramework.Focus.HolderCalls
import MediaFramework.Library.Machine

/-!
# Runs of the focus module

A run is a sequence of requests and abandons, with time passing between them.  Beside the focus itself the run keeps
what its clients saw: the callbacks made so far, the value delivered last to the owner of the entry in each slot, and
which entries were inserted below the entry that is still on top.  The stack is well formed in every state of every
run.
-/

namespace MediaFramework

open IntrusiveList

structure FocusRun where
  focus : MediaFocus
  now : Nat
  log : List FocusEvent
  /-- The value delivered last to the owner of the entry in the slot. -/
  current : Nat → Int
  /-- The entry in the slot was inserted below the top, and the top is the same since. -/
  fresh : Nat → Bool

/-- A call, or time passing without one. -/
inductive FocusInput
  | call (c : FocusCall)
  | wait
  deriving DecidableEq, Repr

/-- A callback brings its suggestion to the owner of the entry. -/
def deliver (current : Nat → Int) : FocusEvent → Nat → Int
  | .suggest holder suggestion => Function.update current holder.clientId.toNat suggestion
  | .noMatchedData => current

/-- The slot and the reply of the entry that the call with result `r` put on the stack: its slot is the id that was
valid once the dead entries were gone. -/
def admitted (alive : Nat → Nat → Bool) (focus : MediaFocus) (now : Nat) (r : FocusResult) : Option (Nat × Int) :=
  match r.handle, r.returnType with
  | some _, some v =>
    let cleared := appFocusStackUselessClear (mediaFocusStackCallback focus.table) alive focus.stack now
      NONBLOCK_CALLBACK_FLAG
    if v = MEDIA_FOCUS_STOP then none else some ((appFocusFreeClientId cleared.1).toNat, v)
  | _, _ => none

/-- The values delivered last, after the callbacks `events` and the reply to a new entry. -/
def currentAfter (current : Nat → Int) (events : List FocusEvent) (new : Option (Nat × Int)) : Nat → Int :=
  match new with
  | some (slot, reply) => Function.update (events.foldl deliver current) slot reply
  | none => events.foldl deliver current

/-- The entries inserted below the top, after a call that led from the top `oldTop` to the top `top`.  The top is
another entry when its slot is another one or was given to the new entry. -/
def freshAfter (fresh : Nat → Bool) (oldTop top : Option Nat) (new : Option (Nat × Int)) : Nat → Bool :=
  match new with
  | some (slot, _) =>
    Function.update (if top = oldTop ∧ top ≠ some slot then fresh else fun _ => false) slot (top ≠ some slot)
  | none => if top = oldTop then fresh else fun _ => false

def FocusRun.call (alive : Nat → Nat → Bool) (r : FocusRun) (c : FocusCall) : FocusRun :=
  let res := focusCall alive r.focus r.now c
  let new := admitted alive r.focus r.now res
  { focus := res.focus
    now := res.now
    log := r.log ++ res.events
    current := currentAfter r.current res.events new
    fresh := freshAfter r.fresh r.focus.stack.entries.head? res.focus.stack.entries.head? new }

/-- All runs of the focus module with table `t` and a stack of `depth` slots, where `alive` gives the answers of
`pthread_kill`. -/
def focusMachine (t : InteractionTable) (depth : Nat) (alive : Nat → Nat → Bool) : Machine FocusRun FocusInput where
  start := ⟨mediaFocusInit t depth, 0, [], fun _ => MEDIA_FOCUS_STOP, fun _ => false⟩
  next r
    | .call c => some (r.call alive c)
    | .wait => some { r with now := r.now + 1 }

/-- The stack is well formed: the pointers spell a list of different slots of the node list, the size is counted
right, each node in the list bears the number of its slot and a level of the table, a slot outside the list is free,
and the first node is marked TOP and the others UNDER. -/
structure FocusWellFormed (t : InteractionTable) (depth : Nat) (s : AppFocusStack) : Prop where
  list : IsList s.links s.entries
  slot_lt : ∀ i ∈ s.entries, i < depth
  cur : s.curSize = s.entries.length
  cur_le : s.curSize ≤ s.maxSize
  max : s.maxSize = depth
  clientId : ∀ i ∈ s.entries, (s.nodeList i).clientId = i
  free : ∀ i < depth, (s.nodeList i).clientId = -1 ↔ i ∉ s.entries
  top : ∀ i ∈ s.entries.head?, (s.nodeList i).focusState = .top
  under : ∀ i ∈ s.entries.tail, (s.nodeList i).focusState = .under
  level : ∀ i ∈ s.entries, (s.nodeList i).focusLevel < t.num

variable {t : InteractionTable} {s : AppFocusStack} {depth : Nat} {hs : List Holder} {alive : Nat → Nat → Bool}

/-- A stack that stores holders of streams of the table is well formed. -/
theorem Holds.wellFormed (H : Holds s depth hs) (hl : LevelsBelow t hs) : FocusWellFormed t depth s := by
  have hent := H.entries
  constructor
  · rw [hent]; exact H.list
  · rw [hent]
    rintro i hi
    obtain ⟨h, hh, rfl⟩ := List.mem_map.1 hi
    exact H.slot_lt h hh
  · rw [hent, H.cur, List.length_map]
  · rw [H.cur, H.max]; exact H.length_le
  · exact H.max
  · rw [hent]
    rintro i hi
    obtain ⟨h, hh, rfl⟩ := List.mem_map.1 hi
    exact H.clientId hh
  · rintro i -
    rw [hent, ← not_iff_not, not_not, H.mem_iff i]
  · rw [hent]
    rintro i hi
    rw [List.head?_map] at hi
    obtain ⟨h, hh, rfl⟩ := Option.map_eq_some_iff.1 hi
    rw [H.top h hh, Holder.id_focusState]
  · rw [hent, ← List.map_tail]
    rintro i hi
    obtain ⟨h, hh, rfl⟩ := List.mem_map.1 hi
    rw [H.under h hh, Holder.id_focusState]
  · rw [hent]
    rintro i hi
    obtain ⟨h, hh, rfl⟩ := List.mem_map.1 hi
    rw [H.focusLevel hh]
    exact hl h hh

/-! ### One call -/

private theorem broadcastEvents_suggest (t : InteractionTable) (hs : List Holder) :
    .noMatchedData ∉ broadcastEvents t hs := by
  cases hs <;> simp [broadcastEvents]

private theorem clearHolders_suggest (alive : Nat → Nat → Bool) (isTop : Bool) (hs : List Holder) (now : Nat) :
    .noMatchedData ∉ (clearHolders alive isTop hs now).2.2 := by
  fun_induction clearHolders alive isTop hs now with
  | case1 => simp
  | case2 isTop h rest now hal r ih => exact ih
  | case3 => simp
  | case4 h now hal k rest ih =>
    intro hm
    rcases List.mem_append.1 hm with hm | hm
    · split at hm <;> simp at hm
    · exact ih hm
  | case5 isTop h rest now hal htop ih => exact ih

private theorem admitHolder_suggest (t : InteractionTable) (hs : List Holder) (new : Holder) :
    .noMatchedData ∉ (admitHolder t hs new).2.1 := by
  unfold admitHolder
  split
  · simp
  · dsimp only
    split
    · exact broadcastEvents_suggest t (new :: _)
    · repeat' split
      all_goals simp

private theorem dropHolder_suggest (t : InteractionTable) (hs : List Holder) (id : Int) :
    .noMatchedData ∉ (dropHolder t hs id).2 := by
  unfold dropHolder
  split
  · simp
  · split
    · intro hm
      rcases List.mem_append.1 hm with hm | hm
      · simp at hm
      · exact broadcastEvents_suggest t _ hm
    · simp

/-- The callbacks of a call on holders are suggestions. -/
theorem holdersCall_suggest (t : InteractionTable) (depth : Nat) (alive : Nat → Nat → Bool) (hs : List Holder)
    (now : Nat) (c : FocusCall) : .noMatchedData ∉ (holdersCall t depth alive hs now c).events := by
  have hclear := clearHolders_suggest alive true hs now
  cases c with
  | request name callback argv tid =>
    simp only [holdersCall, holdersRequest]
    split
    · split
      · exact hclear
      · exact fun hm => (List.mem_append.1 hm).elim hclear (admitHolder_suggest t _ _)
    · simp
  | abandon handle =>
    simp only [holdersCall, holdersAbandon]
    split
    · simp
    · exact fun hm => (List.mem_append.1 hm).elim hclear (dropHolder_suggest t _ _)

/-- The stack of a run stores holders of streams of the table. -/
def FocusRun.Stores (t : InteractionTable) (depth : Nat) (r : FocusRun) (hs : List Holder) : Prop :=
  r.focus.table = t ∧ Holds r.focus.stack depth hs ∧ LevelsBelow t hs

/-- A call of a run does to the holders what the call on holders does. -/
theorem FocusRun.Stores.call {r : FocusRun} (h : r.Stores t depth hs) (c : FocusCall) :
    (r.call alive c).Stores t depth (holdersCall t depth alive hs r.now c).holders := by
  obtain ⟨rfl, H, hl⟩ := h
  have hc := focusCall_eq alive H hl r.now c
  exact ⟨hc.table, hc.holds, hc.levels⟩

/-! ### All runs -/

private theorem wellFormed_step {r r' : FocusRun} {i : FocusInput}
    (h : (∃ hs, r.Stores t depth hs) ∧ .noMatchedData ∉ r.log) (hn : (focusMachine t depth alive).next r i = some r') :
    (∃ hs, r'.Stores t depth hs) ∧ .noMatchedData ∉ r'.log := by
  obtain ⟨⟨hs, hst⟩, hlog⟩ := h
  cases i with
  | call c =>
    cases hn
    refine ⟨⟨_, hst.call c⟩, ?_⟩
    obtain ⟨rfl, H, hl⟩ := hst
    have hev := (focusCall_eq alive H hl r.now c).events
    intro hm
    rcases List.mem_append.1 hm with hm | hm
    · exact hlog hm
    · rw [hev] at hm
      exact holdersCall_suggest _ _ _ _ _ _ hm
  | wait =>
    cases hn
    exact ⟨⟨hs, hst⟩, hlog⟩

theorem focusRun_stores {g : FocusRun → FocusInput → Prop} {r : FocusRun}
    (h : (focusMachine t depth alive).ReachableVia g r) :
    (∃ hs, r.Stores t depth hs) ∧ .noMatchedData ∉ r.log :=
  h.invariant ⟨⟨[], rfl, holds_init depth, by simp [LevelsBelow]⟩, by simp [focusMachine]⟩
    fun _ _ _ hP _ hn => wellFormed_step hP hn

/-- In every run of requests and abandons, whatever is answered about the threads, the stack stays well formed and no
lookup leaves the interaction matrix. -/
theorem focusRun_wellFormed {r : FocusRun} (h : (focusMachine t depth alive).Reachable r) :
    FocusWellFormed t depth r.focus.stack ∧ .noMatchedData ∉ r.log := by
  obtain ⟨⟨hs, -, H, hl⟩, hlog⟩ := focusRun_stores h
  exact ⟨H.wellFormed hl, hlog⟩

/-- Three streams: a later one in the list makes way for an earlier one, which pauses the others when it is the first
and ducks them otherwise. -/
def sampleTable : InteractionTable where
  streams := ["Ring", "Music", "Media"]
  matrix := [⟨0, 2⟩, ⟨0, 2⟩, ⟨0, 2⟩, ⟨4, 4⟩, ⟨0, 4⟩, ⟨0, 4⟩, ⟨4, 4⟩, ⟨4, 4⟩, ⟨0, 4⟩]
  streams_pos := by decide
  matrix_length := by decide

/-- Requests of a media player, of a music player and of the phone, in the threads 1, 2 and 3. -/
def sampleRequests : List FocusInput :=
  [.call (.request (some "Media") (some 0) none 1), .call (.request (some "Music") (some 0) none 2),
   .call (.request (some "Ring") (some 0) none 3)]

/-- The phone dies after its request. -/
def ringDies : Nat → Nat → Bool := fun n tid => n < 4 || tid != 3

def sampleMachine : Machine FocusRun FocusInput := focusMachine sampleTable 3 ringDies

/-- The dead holder on top is removed by the next call, and its slot is used again. -/
def sampleCalls : List FocusInput :=
  sampleRequests ++ [FocusInput.wait, .call (.abandon 0x0010000F#32), .call (.request (some "Ring") (some 0) none 4)]

def sampleRun : FocusRun := (sampleMachine.runFrom (fun _ _ => True) sampleMachine.start sampleCalls).get (by decide)

theorem focusRun_wellFormed_sample :
    FocusWellFormed sampleTable 3 sampleRun.focus.stack ∧ .noMatchedData ∉ sampleRun.log := by
  have h : sampleMachine.Reachable sampleRun := Machine.reachableVia_get (by decide)
  exact focusRun_wellFormed h

end MediaFramework
