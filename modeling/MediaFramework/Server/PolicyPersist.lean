import Mathlib.Logic.Function.Basic
import MediaFramework.Library.Machine

/-!
# Saving persistent criteria (`server/media_policy.c`)

A criterion whose name begins with `persist.media.` is saved by a work item that runs some time later.  There is one
item, with one name and one value, and each save puts its own there before it queues the item.  The steps of the caller
and those of the worker are taken in any order.
-/

namespace MediaFramework

def MEDIA_PERSIST : List Char := "persist.media.".toList

/-- The name of a criterion, at most as long as the key of the work item holds. -/
structure CriterionName where
  bytes : List Char
  fits : bytes.length ≤ 63
  deriving DecidableEq

def CriterionName.Persistent (name : CriterionName) : Prop := MEDIA_PERSIST <+: name.bytes

instance (name : CriterionName) : Decidable name.Persistent := inferInstanceAs (Decidable (_ <+: _))

/-- `strlcpy` into a buffer of 64 bytes. -/
def strlcpy64 (bytes : List Char) : List Char := bytes.take 63

/-- Where the caller is in `pfw_save_criterion_cb`: not in it, before the lock, before `work_queue`. -/
inductive SaveCaller
  | idle
  | lock (name : CriterionName) (state : Int)
  | queue
  deriving DecidableEq

/-- Where the worker is in `pfw_save_criterion_work`: not in it, before the lock, with its copy before it is stored. -/
inductive SaveWorker
  | idle
  | lock
  | store (key : List Char) (value : Int)
  deriving DecidableEq

/-- The work item, whether it is pending, the properties that are stored, and the last state that was saved of each
criterion. -/
structure PolicyPersist where
  key : List Char := []
  value : Int := 0
  pending : Bool := false
  caller : SaveCaller := .idle
  worker : SaveWorker := .idle
  stored : List Char → Option Int
  saved : List Char → Option Int := fun _ => none

/-- `pfw_load_criterion_cb`. -/
def pfwLoadCriterionCb (stored : List Char → Option Int) (name : CriterionName) (state : Int) : Int :=
  if name.Persistent then (stored name.bytes).getD state else state

/-- A call of `pfw_save_criterion_cb`, a step of it, and the steps of the worker, of which the first takes the item. -/
inductive PersistInput
  | save (name : CriterionName) (state : Int)
  | callerLock
  | callerQueue
  | workerRun
  | workerLock
  | workerStore
  deriving DecidableEq

/-- One step; a mutex makes each of the two copies one step. -/
def PolicyPersist.next (s : PolicyPersist) (i : PersistInput) : Option PolicyPersist :=
  match i with
  | .save name state =>
    match s.caller with
    | .idle =>
      if name.Persistent then
        some { s with caller := .lock name state, saved := Function.update s.saved name.bytes (some state) }
      else some s
    | _ => none
  | .callerLock =>
    match s.caller with
    | .lock name state => some { s with caller := .queue, key := strlcpy64 name.bytes, value := state }
    | _ => none
  | .callerQueue =>
    match s.caller with
    | .queue => some { s with caller := .idle, pending := true }
    | _ => none
  | .workerRun =>
    match s.worker, s.pending with
    | .idle, true => some { s with worker := .lock, pending := false }
    | _, _ => none
  | .workerLock =>
    match s.worker with
    | .lock => some { s with worker := .store (strlcpy64 s.key) s.value }
    | _ => none
  | .workerStore =>
    match s.worker with
    | .store key value => some { s with worker := .idle, stored := Function.update s.stored key (some value) }
    | _ => none

/-- The policy with some stored properties, before any call. -/
def persistMachine (stored : List Char → Option Int) : Machine PolicyPersist PersistInput where
  start := { stored }
  next := PolicyPersist.next

/-- No call is in progress, and no work is pending or running. -/
def PolicyPersist.Settled (s : PolicyPersist) : Prop := s.caller = .idle ∧ s.pending = false ∧ s.worker = .idle

/-- What was saved of each criterion is what is loaded the next time. -/
def PolicyPersist.SavesKept (s : PolicyPersist) : Prop :=
  ∀ (name : CriterionName) (state default : Int), s.saved name.bytes = some state →
    pfwLoadCriterionCb s.stored name default = state

/-- Where the caller writes to the work item, the worker has already copied what is there, or it is of the same
criterion. -/
def SlotFree (s : PolicyPersist) : PersistInput → Prop
  | .callerLock => s.pending = true ∨ s.worker = .lock → ∀ name state, s.caller = .lock name state → s.key = name.bytes
  | _ => True

/-! ### What will be stored -/

/-- The work item holds a value that the worker has yet to copy. -/
def PolicyPersist.SlotLive (s : PolicyPersist) : Prop := s.caller = .queue ∨ s.pending = true ∨ s.worker = .lock

instance (s : PolicyPersist) : Decidable s.SlotLive := inferInstanceAs (Decidable (_ ∨ _))

/-- What the worker leaves of a property, apart from what is in the work item. -/
def PolicyPersist.written (s : PolicyPersist) (bytes : List Char) : Option Int :=
  match s.worker with
  | .store key value => if key = bytes then some value else s.stored bytes
  | _ => s.stored bytes

/-- What is stored in the end when there is no further call: the newest of what the caller, the work item, the worker and
the store have. -/
def PolicyPersist.eventual (s : PolicyPersist) (bytes : List Char) : Option Int :=
  let inSlot := if s.SlotLive ∧ s.key = bytes then some s.value else s.written bytes
  match s.caller with
  | .lock name state => if name.bytes = bytes then some state else inSlot
  | _ => inSlot

/-- No save is lost: what will be stored is what was saved last. -/
structure PolicyPersist.Kept (s : PolicyPersist) : Prop where
  saved : ∀ bytes state, s.saved bytes = some state → s.eventual bytes = some state
  persistent : ∀ bytes state, s.saved bytes = some state → MEDIA_PERSIST <+: bytes
  key : s.key.length ≤ 63

theorem strlcpy64_bytes (name : CriterionName) : strlcpy64 name.bytes = name.bytes := List.take_of_length_le name.fits

theorem PolicyPersist.eventual_of_settled {s : PolicyPersist} (h : s.Settled) (bytes : List Char) :
    s.eventual bytes = s.stored bytes := by
  obtain ⟨hcaller, hpending, hworker⟩ := h
  simp [eventual, SlotLive, written, hcaller, hpending, hworker]

/-- Nothing is lost where the caller writes to a work item that is free, or of the same criterion. -/
theorem PolicyPersist.eventual_callerLock {s s' : PolicyPersist} (hfree : SlotFree s .callerLock)
    (hstep : s.next .callerLock = some s') (bytes : List Char) : s'.eventual bytes = s.eventual bytes := by
  cases hcaller : s.caller with
  | lock name state =>
    simp only [next, hcaller] at hstep
    cases hstep
    have hsame := hfree
    simp only [SlotFree, hcaller, SaveCaller.lock.injEq] at hsame
    by_cases hname : name.bytes = bytes
    · subst hname
      simp [eventual, hcaller, SlotLive, strlcpy64_bytes]
    · -- the slot did not hold the other criterion
      have hslot : ¬ (s.SlotLive ∧ s.key = bytes) := by
        rintro ⟨hlive, hkey⟩
        have hlive : s.pending = true ∨ s.worker = .lock := by simpa [SlotLive, hcaller] using hlive
        exact hname ((hsame hlive name state ⟨rfl, rfl⟩).symm.trans hkey)
      simp [eventual, hcaller, hslot, strlcpy64_bytes, hname, written]
  | idle => simp [next, hcaller] at hstep
  | queue => simp [next, hcaller] at hstep

theorem PolicyPersist.eventual_callerQueue {s s' : PolicyPersist} (hstep : s.next .callerQueue = some s')
    (bytes : List Char) : s'.eventual bytes = s.eventual bytes := by
  cases hcaller : s.caller with
  | queue =>
    simp only [next, hcaller] at hstep
    cases hstep
    simp [eventual, hcaller, SlotLive, written]
  | idle => simp [next, hcaller] at hstep
  | lock name state => simp [next, hcaller] at hstep

/-- The worker takes the item, and copies what it holds. -/
theorem PolicyPersist.eventual_workerRun {s s' : PolicyPersist} (hstep : s.next .workerRun = some s')
    (bytes : List Char) : s'.eventual bytes = s.eventual bytes := by
  unfold next at hstep
  dsimp only at hstep
  split at hstep
  · rename_i hworker hpending
    cases hstep
    simp [eventual, SlotLive, written, hworker, hpending]
  · cases hstep

theorem PolicyPersist.eventual_workerLock {s s' : PolicyPersist} (hkey : s.key.length ≤ 63)
    (hstep : s.next .workerLock = some s') (bytes : List Char) : s'.eventual bytes = s.eventual bytes := by
  have hcopy : strlcpy64 s.key = s.key := List.take_of_length_le hkey
  unfold next at hstep
  dsimp only at hstep
  split at hstep
  · rename_i hworker
    cases hstep
    by_cases hbytes : s.key = bytes
    · subst hbytes
      simp [eventual, SlotLive, written, hworker, hcopy]
    · simp [eventual, written, hworker, hcopy, hbytes]
  · cases hstep

theorem PolicyPersist.eventual_workerStore {s s' : PolicyPersist} (hstep : s.next .workerStore = some s')
    (bytes : List Char) : s'.eventual bytes = s.eventual bytes := by
  unfold next at hstep
  dsimp only at hstep
  split at hstep
  · rename_i key value hworker
    cases hstep
    by_cases hbytes : key = bytes
    · subst hbytes
      simp [eventual, SlotLive, written, hworker]
    · simp [eventual, SlotLive, written, hworker, hbytes, Function.update_of_ne (Ne.symm hbytes)]
  · cases hstep

/-- A call replaces what will be stored of its criterion, and of no other. -/
theorem PolicyPersist.Kept.save {s s' : PolicyPersist} {name : CriterionName} {state : Int} (h : s.Kept)
    (hstep : s.next (.save name state) = some s') : s'.Kept := by
  unfold PolicyPersist.next at hstep
  dsimp only at hstep
  split at hstep
  · rename_i hcaller
    split at hstep
    · rename_i hpersistent
      cases hstep
      refine ⟨?_, ?_, h.key⟩
      · intro bytes value hsaved
        dsimp only at hsaved
        by_cases hbytes : bytes = name.bytes
        · subst hbytes
          rw [Function.update_self] at hsaved
          simpa [PolicyPersist.eventual] using hsaved
        · rw [Function.update_of_ne hbytes] at hsaved
          have hold := h.saved bytes value hsaved
          simpa [PolicyPersist.eventual, PolicyPersist.SlotLive, PolicyPersist.written, hcaller, Ne.symm hbytes]
            using hold
      · intro bytes value hsaved
        dsimp only at hsaved
        by_cases hbytes : bytes = name.bytes
        · rw [hbytes]
          exact hpersistent
        · rw [Function.update_of_ne hbytes] at hsaved
          exact h.persistent bytes value hsaved
    · cases hstep
      exact h
  · cases hstep

/-- The steps after a call save nothing, and keep the key short. -/
theorem PolicyPersist.next_frame {s s' : PolicyPersist} {i : PersistInput} (hsave : ∀ name state, i ≠ .save name state)
    (hstep : s.next i = some s') : s'.saved = s.saved ∧ (s.key.length ≤ 63 → s'.key.length ≤ 63) := by
  unfold next at hstep
  cases i with
  | save name state => exact absurd rfl (hsave name state)
  | callerLock =>
    dsimp only at hstep
    split at hstep
    · rename_i name _ _
      cases hstep
      exact ⟨rfl, fun _ => List.length_take_le 63 name.bytes⟩
    · cases hstep
  | callerQueue | workerRun | workerLock | workerStore =>
    dsimp only at hstep
    split at hstep
    · cases hstep
      exact ⟨rfl, id⟩
    · cases hstep

/-- Of the steps after a call only the copy into the work item can lose a save. -/
theorem PolicyPersist.Kept.step {s s' : PolicyPersist} {i : PersistInput} (h : s.Kept) (hfree : SlotFree s i)
    (hstep : s.next i = some s') : s'.Kept := by
  have hkept : (∀ name state, i ≠ .save name state) → (∀ bytes, s'.eventual bytes = s.eventual bytes) → s'.Kept := by
    intro hsave heventual
    obtain ⟨hsaved, hkey⟩ := next_frame hsave hstep
    refine ⟨?_, ?_, hkey h.key⟩
    · intro bytes state hs
      rw [heventual]
      exact h.saved bytes state (hsaved ▸ hs)
    · exact fun bytes state hs => h.persistent bytes state (hsaved ▸ hs)
  cases i with
  | save name state => exact h.save hstep
  | callerLock => exact hkept nofun (eventual_callerLock hfree hstep)
  | callerQueue => exact hkept nofun (eventual_callerQueue hstep)
  | workerRun => exact hkept nofun (eventual_workerRun hstep)
  | workerLock => exact hkept nofun (eventual_workerLock h.key hstep)
  | workerStore => exact hkept nofun (eventual_workerStore hstep)

/-! ### Runs -/

theorem persist_kept_start (stored : List Char → Option Int) : (persistMachine stored).start.Kept where
  saved bytes state hsaved := by cases hsaved
  persistent bytes state hsaved := by cases hsaved
  key := Nat.zero_le _

/-- As long as the caller writes to the work item only where it is free or of the same criterion, every criterion is
stored with the state that was saved last, whenever nothing is under way. -/
theorem persistRun_savesKept {stored : List Char → Option Int} {s : PolicyPersist}
    (h : (persistMachine stored).ReachableVia SlotFree s) (hsettled : s.Settled) : s.SavesKept := by
  have hkept : s.Kept := h.invariant (P := PolicyPersist.Kept) (persist_kept_start stored)
    fun _ _ _ hkept hfree hstep => hkept.step hfree hstep
  intro name state default hsaved
  have hstored := hkept.saved name.bytes state hsaved
  rw [PolicyPersist.eventual_of_settled hsettled] at hstored
  have hpersistent : name.Persistent := hkept.persistent name.bytes state hsaved
  unfold pfwLoadCriterionCb
  rw [if_pos hpersistent, hstored]
  rfl

instance (s : PolicyPersist) : Decidable s.Settled := inferInstanceAs (Decidable (_ ∧ _))

instance (s : PolicyPersist) : ∀ i, Decidable (SlotFree s i)
  | .callerLock =>
    match hcaller : s.caller with
    | .lock name _ =>
      decidable_of_iff (s.pending = true ∨ s.worker = .lock → s.key = name.bytes) (by
        constructor
        · intro h hlive name' state' hlock
          rw [hcaller] at hlock
          cases hlock
          exact h hlive
        · exact fun h hlive => h hlive name _ hcaller)
    | .idle => isTrue fun _ _ _ hlock => by rw [hcaller] at hlock; cases hlock
    | .queue => isTrue fun _ _ _ hlock => by rw [hcaller] at hlock; cases hlock
  | .save _ _ => isTrue trivial
  | .callerQueue => isTrue trivial
  | .workerRun => isTrue trivial
  | .workerLock => isTrue trivial
  | .workerStore => isTrue trivial

def sampleVolume : CriterionName := ⟨"persist.media.Volume".toList, by decide⟩

def sampleMute : CriterionName := ⟨"persist.media.Mute".toList, by decide⟩

/-- The steps of one call, and those of the worker. -/
def sampleSave (name : CriterionName) (state : Int) : List PersistInput :=
  [.save name state, .callerLock, .callerQueue]

def sampleWork : List PersistInput := [.workerRun, .workerLock, .workerStore]

/-- The volume is saved twice before the worker runs, then the other criterion. -/
def sampleKept : PolicyPersist :=
  ((persistMachine fun _ => none).runFrom SlotFree (persistMachine fun _ => none).start
    (sampleSave sampleVolume 5 ++ sampleSave sampleVolume 7 ++ sampleWork ++ sampleSave sampleMute 1 ++
      sampleWork)).get (by decide)

theorem persistRun_savesKept_sample : sampleKept.SavesKept := by
  have h : (persistMachine fun _ => none).ReachableVia SlotFree sampleKept := Machine.reachableVia_get (by decide)
  exact persistRun_savesKept h (by decide)

/-- Both criteria are saved before the worker runs. -/
def sampleLost : PolicyPersist :=
  ((persistMachine fun _ => none).runFrom (fun _ _ => True) (persistMachine fun _ => none).start
    (sampleSave sampleVolume 5 ++ sampleSave sampleMute 1 ++ sampleWork)).get (by decide)

/-- Without the condition a save may get lost. -/
theorem persistRun_not_savesKept : ¬ ∀ (stored : List Char → Option Int) (s : PolicyPersist),
    (persistMachine stored).Reachable s → s.Settled → s.SavesKept := by
  intro h
  have hkept := h (fun _ => none) sampleLost (Machine.reachableVia_get (by decide)) (by decide)
  have hload := hkept sampleVolume 5 0 (by decide)
  revert hload
  decide

end MediaFramework
