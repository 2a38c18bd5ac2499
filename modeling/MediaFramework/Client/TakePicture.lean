import MediaFramework.Library.Machine
import Mathlib.Data.Bool.Basic

/-!
# Taking a picture (`media_recorder_take_picture`)

The taker opens a recorder, starts it with `media_recorder_take_picture_cb` as its callback, and waits for the semaphore
that the callback posts.  The callback runs in the listener thread of the recorder, also before the taker has stored
the handle of the recorder and after it has freed the context.  Only `MEDIA_EVENT_COMPLETED` closes the recorder; an
event with an error ends the wait and leaves the recorder open.
-/

namespace MediaFramework

/-! ### The code -/

def MEDIA_EVENT_COMPLETED : Int := 6

/-- Where the taker is, once it has checked `number` and allocated its context: the calls of
`media_recorder_start_picture` with the two stores of `media_set_event_cb`, its way of an error with the `pthread_join`
of `media_proxy_disconnect`, and the rest of `media_recorder_take_picture`. -/
inductive TakerPc
  | open
  | setEventCb
  | setEvent
  | storeEvent
  | storeCookie
  | prepare
  | start
  | close
  | join
  | fail
  | failed
  | storeHandle
  | wait
  | woken
  | returned (ret : Int)
  deriving DecidableEq

/-- Where the listener thread is: in `media_parcel_recv`, in `media_event_cb`, or in `media_recorder_take_picture_cb` at
its beginning, before `media_recorder_finish_picture`, or before `sem_post`. -/
inductive ListenerPc
  | unstarted
  | recv
  | eventCb (event result : Int)
  | takePictureCb (event result : Int)
  | finishPicture (result : Int)
  | post (result : Int)
  | ended
  deriving DecidableEq

/-- The callback is called with a null cookie, or uses a context that was freed. -/
inductive TakeFault
  | nullCookie
  | useAfterFree
  deriving DecidableEq

/-- The two threads, the callback and the cookie of the recorder, the context with its handle, its result and its
semaphore, how often the recorder was closed, and with what result the event came that posted first. -/
structure TakePicture where
  taker : TakerPc := .open
  listener : ListenerPc := .unstarted
  event : Bool := false
  cookie : Bool := false
  handle : Bool := false
  result : Int := 0
  sem : Nat := 0
  freed : Bool := false
  closes : Nat := 0
  endedBy : Option Int := none
  fault : Option TakeFault := none
  deriving DecidableEq

/-- A thread goes on, where `ok` says whether its library call succeeds; or the listener thread receives an event, or
nothing more. -/
inductive TakeInput
  | take (ok : Bool)
  | listen (ok : Bool)
  | notify (event result : Int)
  | hangup
  deriving DecidableEq

/-- The taker goes on, unless it has to wait. -/
def TakePicture.take (s : TakePicture) (ok : Bool) : Option TakePicture :=
  match s.taker with
  | .open => some { s with taker := if ok then .setEventCb else .fail }
  | .setEventCb => some (if ok then { s with taker := .setEvent, listener := .recv } else { s with taker := .close })
  | .setEvent => some { s with taker := if ok then .storeEvent else .close }
  | .storeEvent => some { s with taker := .storeCookie, event := true }
  | .storeCookie => some { s with taker := .prepare, cookie := true }
  | .prepare => some { s with taker := if ok then .start else .close }
  | .start => some { s with taker := if ok then .storeHandle else .close }
  | .close => some { s with taker := if ok then .join else .fail }
  | .join =>
    if s.listener = .unstarted ∨ s.listener = .ended then some { s with taker := .fail, closes := s.closes + 1 }
    else none
  | .fail => some { s with taker := .failed, freed := true }
  | .storeHandle => some { s with taker := .wait, handle := true }
  | .wait => if 0 < s.sem then some { s with taker := .woken, sem := s.sem - 1 } else none
  | .woken => some { s with taker := .returned s.result, freed := true }
  | .failed | .returned _ => none

/-- The callback uses its context. -/
def TakePicture.use (s t : TakePicture) : TakePicture :=
  if s.freed then { s with fault := some .useAfterFree } else t

/-- The listener thread goes on. -/
def TakePicture.listen (s : TakePicture) (ok : Bool) : Option TakePicture :=
  match s.listener with
  | .eventCb event result =>
    some (if !s.event then { s with listener := .recv }
      else if s.cookie then { s with listener := .takePictureCb event result }
      else { s with fault := some .nullCookie })
  | .takePictureCb event result =>
    let t := { s with result }
    some (s.use (if result ≠ 0 then { t with listener := .post result }
      else if event = MEDIA_EVENT_COMPLETED then { t with listener := .finishPicture result }
      else { t with listener := .recv }))
  | .finishPicture result =>
    -- without a handle `media_proxy_once` fails, and so does `media_close`
    some (s.use (if s.handle && ok then { s with listener := .post result, closes := s.closes + 1 }
      else { s with listener := .post result }))
  | .post result =>
    some (s.use { s with listener := .recv, sem := s.sem + 1, endedBy := s.endedBy.or (some result) })
  | .unstarted | .recv | .ended => none

def TakePicture.next (s : TakePicture) (i : TakeInput) : Option TakePicture :=
  if s.fault.isSome then none
  else
    match i with
    | .take ok => s.take ok
    | .listen ok => s.listen ok
    | .notify event result => if s.listener = .recv then some { s with listener := .eventCb event result } else none
    | .hangup => if s.listener = .recv then some { s with listener := .ended } else none

def takePictureMachine : Machine TakePicture TakeInput where
  start := {}
  next := TakePicture.next

/-! ### How it ends -/

/-- The callback always has a context.  When the taker returns after a successful start, the recorder has been closed
once, the value is the result of the event that ended the wait, and no later event uses the context. -/
structure TakePicture.EndsCleanly (s : TakePicture) : Prop where
  called : s.fault ≠ some .nullCookie
  closed : ∀ ret, s.taker = .returned ret → s.closes = 1
  result : ∀ ret, s.taker = .returned ret → s.endedBy = some ret
  unused : ∀ ret, s.taker = .returned ret → s.fault ≠ some .useAfterFree

/-- The event ends the wait. -/
def EndsWait (event result : Int) : Prop := result ≠ 0 ∨ event = MEDIA_EVENT_COMPLETED

/-- The condition on a step where the listener thread is at `pc`. -/
def ListenerPc.Completes (s : TakePicture) (pc : ListenerPc) : TakeInput → Prop
  | .listen ok =>
    match pc with
    | .eventCb event result =>
      s.event = true → s.cookie = true ∧ s.endedBy = none ∧ (EndsWait event result → result = 0 ∧ s.handle = true)
    | .finishPicture _ => ok = true
    | _ => True
  | _ => True

/-- The condition on a step: an event that reaches the callback comes when the cookie is set and no event has ended
the wait; when it ends the wait it is `MEDIA_EVENT_COMPLETED` without an error, and the handle is stored; and the
recorder can be closed. -/
def CompletesPicture (s : TakePicture) (i : TakeInput) : Prop := s.listener.Completes s i

def TakerPc.hasHandle : TakerPc → Bool
  | .wait | .woken | .returned _ => true
  | _ => false

def TakerPc.isWoken : TakerPc → Bool
  | .woken | .returned _ => true
  | _ => false

/-- The start has failed. -/
def TakerPc.hasFailed : TakerPc → Bool
  | .fail | .failed => true
  | _ => false

/-- `media_recorder_start_picture` has not returned. -/
def TakerPc.isStarting : TakerPc → Bool
  | .fail | .failed | .wait | .woken | .returned _ => false
  | _ => true

/-- `media_recorder_finish_picture` has been called. -/
def ListenerPc.isPosting : ListenerPc → Bool
  | .post _ => true
  | _ => false

/-- Where the listener thread can be when the events meet the condition. -/
def TakePicture.Listens (s : TakePicture) : Prop :=
  match s.listener with
  | .takePictureCb event result => s.endedBy = none ∧ (EndsWait event result → result = 0 ∧ s.handle = true)
  | .finishPicture result | .post result => s.endedBy = none ∧ result = 0 ∧ s.handle = true
  | _ => True

/-- What every step that meets the condition keeps. -/
structure TakePicture.Orderly (s : TakePicture) : Prop where
  handle : s.handle = s.taker.hasHandle
  posted : s.sem + s.taker.isWoken.toNat = s.endedBy.isSome.toNat
  closes : s.taker.hasFailed = true ∨ s.closes = s.endedBy.isSome.toNat + s.listener.isPosting.toNat
  endedBy : ∀ ret ∈ s.endedBy, ret = 0 ∧ s.handle = true
  listens : s.Listens
  result : s.result = 0
  returned : ∀ ret, s.taker = .returned ret → ret = 0
  freed : s.freed = true → s.taker = .failed ∨ s.taker.isWoken = true
  fault : ∀ f ∈ s.fault, f = .useAfterFree ∧ s.taker = .failed

namespace TakePicture

variable {s s' : TakePicture} {i : TakeInput} {ok : Bool}

namespace Orderly

/-- The taker goes on without a handle. -/
private theorem move (h : s.Orderly) (taker : TakerPc) (event cookie : Bool) (hs : s.taker.isStarting = true)
    (ht : taker.isStarting = true ∨ taker = .fail) : Orderly { s with taker, event, cookie } := by
  have hpc : ∀ pc : TakerPc, pc.isStarting = true →
      pc.hasHandle = false ∧ pc.isWoken = false ∧ pc.hasFailed = false ∧ pc ≠ .failed := by
    intro pc hpc
    cases pc with
    | fail | failed | wait | woken | returned => cases hpc
    | _ => exact ⟨rfl, rfl, rfl, by simp⟩
  obtain ⟨hhandle, hwoken, hfailed, hlast⟩ := hpc _ hs
  have hnext : taker.hasHandle = false ∧ taker.isWoken = false ∧ ∀ ret, taker ≠ .returned ret := by
    rcases ht with ht | rfl
    · exact ⟨(hpc _ ht).1, (hpc _ ht).2.1, fun ret hret => by simp [hret, TakerPc.isStarting] at ht⟩
    · exact ⟨rfl, rfl, by simp⟩
  obtain ⟨hhandle', hwoken', hreturned⟩ := hnext
  refine ⟨h.handle.trans (hhandle.trans hhandle'.symm), ?_, ?_, h.endedBy, h.listens, h.result,
    fun ret hret => absurd hret (hreturned ret), fun hfreed => ?_, fun f hf => absurd (h.fault f hf).2 hlast⟩
  · have hposted := h.posted
    rw [hwoken] at hposted
    simpa only [hwoken'] using hposted
  · exact .inr (h.closes.resolve_left (by simp [hfailed]))
  · rcases h.freed hfreed with hfreed | hfreed
    · exact absurd hfreed hlast
    · simp [hwoken] at hfreed

theorem not_posting (h : s.Orderly) (hended : s.endedBy ≠ none ∨ s.handle = false) :
    s.listener.isPosting = false := by
  have hlistens := h.listens
  unfold Listens at hlistens
  cases hlistener : s.listener with
  | post result =>
    rw [hlistener] at hlistens
    rcases hended with hended | hhandle
    · exact absurd hlistens.1 hended
    · exact absurd (hhandle.symm.trans hlistens.2.2) (by decide)
  | _ => rfl

/-- Before the handle is stored nothing has ended the wait. -/
theorem unposted (h : s.Orderly) (hhandle : s.handle = false) :
    s.endedBy = none ∧ s.listener.isPosting = false := by
  refine ⟨?_, h.not_posting (.inr hhandle)⟩
  cases hended : s.endedBy with
  | none => rfl
  | some ret => exact absurd (hhandle.symm.trans (h.endedBy ret hended).2) (by decide)

theorem take (h : s.Orderly) (hn : s.take ok = some s') : s'.Orderly := by
  have hhandle := h.handle
  unfold TakePicture.take at hn
  cases htaker : s.taker with
  | «open» | setEvent | prepare | start | close =>
    simp only [htaker] at hn
    cases hn
    apply h.move _ s.event s.cookie (by simp [htaker, TakerPc.isStarting])
    split <;> simp [TakerPc.isStarting]
  | setEventCb =>
    simp only [htaker] at hn
    cases hn
    split
    · have hmoved := h.move .setEvent s.event s.cookie (by simp [htaker, TakerPc.isStarting]) (.inl rfl)
      obtain ⟨hended, hposting⟩ := h.unposted (by simp [hhandle, htaker, TakerPc.hasHandle])
      have hcloses := hmoved.closes
      simp only [hposting] at hcloses
      exact ⟨hmoved.handle, hmoved.posted, hcloses, hmoved.endedBy, trivial, hmoved.result, hmoved.returned,
        hmoved.freed, hmoved.fault⟩
    · exact h.move _ s.event s.cookie (by simp [htaker, TakerPc.isStarting]) (.inl rfl)
  | storeEvent =>
    simp only [htaker] at hn
    cases hn
    exact h.move _ true s.cookie (by simp [htaker, TakerPc.isStarting]) (.inl rfl)
  | storeCookie =>
    simp only [htaker] at hn
    cases hn
    exact h.move _ s.event true (by simp [htaker, TakerPc.isStarting]) (.inl rfl)
  | join =>
    simp only [htaker] at hn
    split at hn
    · cases hn
      have hmoved := h.move .fail s.event s.cookie (by simp [htaker, TakerPc.isStarting]) (.inr rfl)
      exact ⟨hmoved.handle, hmoved.posted, .inl rfl, hmoved.endedBy, hmoved.listens, hmoved.result, hmoved.returned,
        hmoved.freed, hmoved.fault⟩
    · cases hn
  | fail =>
    simp only [htaker] at hn
    cases hn
    have hposted := h.posted
    rw [htaker] at hposted hhandle
    refine ⟨hhandle, hposted, .inl rfl, h.endedBy, h.listens, h.result, by simp, fun _ => .inl rfl, fun f hf => ?_⟩
    have hfailed := (h.fault f hf).2
    simp [htaker] at hfailed
  | storeHandle =>
    simp only [htaker] at hn
    cases hn
    obtain ⟨hended, hposting⟩ := h.unposted (by simp [hhandle, htaker, TakerPc.hasHandle])
    have hposted := h.posted
    rw [htaker] at hposted
    refine ⟨rfl, hposted, .inr (h.closes.resolve_left (by simp [htaker, TakerPc.hasFailed])), by simp [hended], ?_,
      h.result, by simp, fun hfreed => ?_, fun f hf => ?_⟩
    · have hlistens := h.listens
      unfold Listens at hlistens ⊢
      dsimp only
      split at hlistens
      · exact ⟨hlistens.1, fun hends => ⟨(hlistens.2 hends).1, rfl⟩⟩
      · exact ⟨hlistens.1, hlistens.2.1, rfl⟩
      · exact ⟨hlistens.1, hlistens.2.1, rfl⟩
      · trivial
    · have hold := h.freed hfreed
      simp [htaker, TakerPc.isWoken] at hold
    · have hfailed := (h.fault f hf).2
      simp [htaker] at hfailed
  | wait =>
    simp only [htaker] at hn
    split at hn
    · rename_i hsem
      cases hn
      have hposted := h.posted
      rw [htaker] at hhandle hposted
      simp only [TakerPc.isWoken, Bool.toNat_false] at hposted
      refine ⟨hhandle, ?_, .inr (h.closes.resolve_left (by simp [htaker, TakerPc.hasFailed])), h.endedBy, h.listens,
        h.result, by simp, fun _ => .inr rfl, fun f hf => ?_⟩
      · simp only [TakerPc.isWoken, Bool.toNat_true]
        omega
      · have hfailed := (h.fault f hf).2
        simp [htaker] at hfailed
    · cases hn
  | woken =>
    simp only [htaker] at hn
    cases hn
    have hposted := h.posted
    rw [htaker] at hhandle hposted
    refine ⟨hhandle, hposted, .inr (h.closes.resolve_left (by simp [htaker, TakerPc.hasFailed])), h.endedBy, h.listens,
      h.result, ?_, fun _ => .inr rfl, fun f hf => ?_⟩
    · intro ret hret
      rw [← TakerPc.returned.inj hret]
      exact h.result
    · have hfailed := (h.fault f hf).2
      simp [htaker] at hfailed
  | failed | returned =>
    simp only [htaker] at hn
    cases hn

/-- The callback does not use a context that was freed, unless the start has failed. -/
private theorem use (h : s.Orderly) {t : TakePicture} (hended : s.endedBy = none)
    (ht : s.freed = false → t.Orderly) : (s.use t).Orderly := by
  unfold TakePicture.use
  split
  · rename_i hfreed
    refine ⟨h.handle, h.posted, h.closes, h.endedBy, h.listens, h.result, h.returned, h.freed, ?_⟩
    intro f hf
    obtain rfl := Option.mem_some_iff.1 hf
    refine ⟨rfl, (h.freed hfreed).resolve_right fun hwoken => ?_⟩
    have hposted := h.posted
    simp only [hwoken, hended] at hposted
    simp at hposted
  · rename_i hfreed
    exact ht (by simpa using hfreed)

theorem listen (h : s.Orderly) (hg : CompletesPicture s (.listen ok)) (hn : s.listen ok = some s') : s'.Orderly := by
  have hlistens := h.listens
  have hcloses := h.closes
  unfold TakePicture.listen at hn
  unfold Listens at hlistens
  unfold CompletesPicture ListenerPc.Completes at hg
  cases hlistener : s.listener with
  | eventCb event result =>
    simp only [hlistener] at hn hg hcloses
    cases hn
    split
    · exact ⟨h.handle, h.posted, hcloses, h.endedBy, trivial, h.result, h.returned, h.freed, h.fault⟩
    · rename_i hevent
      obtain ⟨hcookie, hended, hends⟩ := hg (by simpa using hevent)
      rw [if_pos hcookie]
      exact ⟨h.handle, h.posted, hcloses, h.endedBy, ⟨hended, hends⟩, h.result, h.returned, h.freed, h.fault⟩
  | takePictureCb event result =>
    simp only [hlistener] at hn hlistens hcloses
    cases hn
    obtain ⟨hended, hends⟩ := hlistens
    refine h.use hended fun _ => ?_
    have hresult : result = 0 := by
      by_contra hresult
      exact hresult (hends (.inl hresult)).1
    rw [if_neg (by simp [hresult])]
    split
    · rename_i hevent
      exact ⟨h.handle, h.posted, hcloses, h.endedBy, ⟨hended, hends (.inr hevent)⟩, hresult, h.returned, h.freed,
        h.fault⟩
    · exact ⟨h.handle, h.posted, hcloses, h.endedBy, trivial, hresult, h.returned, h.freed, h.fault⟩
  | finishPicture result =>
    simp only [hlistener] at hn hg hlistens hcloses
    cases hn
    obtain ⟨hended, hresult, hhandle⟩ := hlistens
    refine h.use hended fun _ => ?_
    rw [if_pos (by simp [hhandle, hg])]
    refine ⟨h.handle, h.posted, ?_, h.endedBy, ⟨hended, hresult, hhandle⟩, h.result, h.returned, h.freed, h.fault⟩
    rcases hcloses with hfailed | hcloses
    · exact .inl hfailed
    · right
      simp only [hcloses, hended, ListenerPc.isPosting, Option.isSome_none, Bool.toNat_false, Bool.toNat_true]
  | post result =>
    simp only [hlistener] at hn hlistens hcloses
    cases hn
    obtain ⟨hended, hresult, hhandle⟩ := hlistens
    refine h.use hended fun _ => ?_
    have hposted := h.posted
    simp only [hended, Option.isSome_none, Bool.toNat_false, ListenerPc.isPosting, Bool.toNat_true] at hposted hcloses
    refine ⟨h.handle, ?_, ?_, ?_, trivial, h.result, h.returned, h.freed, h.fault⟩
    · simp only [hended, Option.none_or, Option.isSome_some, Bool.toNat_true]
      omega
    · rcases hcloses with hfailed | hcloses
      · exact .inl hfailed
      · right
        simp only [hcloses, hended, Option.none_or, Option.isSome_some, Bool.toNat_true, ListenerPc.isPosting,
          Bool.toNat_false]
    · simp [hended, hresult, hhandle]
  | unstarted | recv | ended =>
    simp only [hlistener] at hn
    cases hn

theorem next (h : s.Orderly) (hg : CompletesPicture s i) (hn : s.next i = some s') : s'.Orderly := by
  unfold TakePicture.next at hn
  split at hn
  · cases hn
  · cases i with
    | take ok => exact h.take hn
    | listen ok => exact h.listen hg hn
    | notify event result =>
      simp only at hn
      split at hn
      · rename_i hlistener
        cases hn
        have hcloses := h.closes
        rw [hlistener] at hcloses
        exact ⟨h.handle, h.posted, hcloses, h.endedBy, trivial, h.result, h.returned, h.freed, h.fault⟩
      · cases hn
    | hangup =>
      simp only at hn
      split at hn
      · rename_i hlistener
        cases hn
        have hcloses := h.closes
        rw [hlistener] at hcloses
        exact ⟨h.handle, h.posted, hcloses, h.endedBy, trivial, h.result, h.returned, h.freed, h.fault⟩
      · cases hn

theorem start : Orderly {} := by
  refine ⟨rfl, rfl, .inr rfl, by simp, trivial, rfl, by simp, by simp, by simp⟩

theorem endsCleanly (h : s.Orderly) : s.EndsCleanly := by
  have hended : ∀ ret, s.taker = .returned ret → s.endedBy = some ret ∧ s.endedBy.isSome.toNat = 1 := by
    intro ret hret
    have hposted := h.posted
    rw [hret] at hposted
    simp only [TakerPc.isWoken, Bool.toNat_true] at hposted
    cases hended : s.endedBy with
    | none => simp [hended] at hposted
    | some result => simp [(h.endedBy result hended).1, h.returned ret hret]
  refine ⟨fun hf => ?_, fun ret hret => ?_, fun ret hret => (hended ret hret).1, fun ret hret hf => ?_⟩
  · have hfault := (h.fault _ hf).1
    cases hfault
  · have hcloses := h.closes.resolve_left (by simp [hret, TakerPc.hasFailed])
    rw [hcloses, (hended ret hret).2, h.not_posting (by simp [(hended ret hret).1])]
    rfl
  · have hfailed := (h.fault _ hf).2
    simp [hret] at hfailed

end Orderly

end TakePicture

/-- In every run in which the one event that ends the wait is `MEDIA_EVENT_COMPLETED` after the handle was stored, no
event reaches the callback without a cookie or later, and the recorder can be closed, taking a picture ends cleanly. -/
theorem takePicture_endsCleanly {s : TakePicture} (h : takePictureMachine.ReachableVia CompletesPicture s) :
    s.EndsCleanly := by
  have horderly : s.Orderly := by
    refine h.invariant TakePicture.Orderly.start ?_
    intro s i s' hs hg hn
    exact hs.next hg hn
  exact horderly.endsCleanly

/-! ### A picture that is taken, and one that is not -/

instance (event result : Int) : Decidable (EndsWait event result) := inferInstanceAs (Decidable (_ ∨ _))

instance (s : TakePicture) : ∀ (pc : ListenerPc) (i : TakeInput), Decidable (pc.Completes s i)
  | .eventCb event result, .listen _ => inferInstanceAs (Decidable (_ → _ ∧ _ ∧ (EndsWait event result → _ ∧ _)))
  | .finishPicture _, .listen ok => inferInstanceAs (Decidable (ok = true))
  | .unstarted, .listen _ | .recv, .listen _ | .takePictureCb _ _, .listen _ | .post _, .listen _ | .ended, .listen _
  | _, .take _ | _, .notify _ _ | _, .hangup => isTrue trivial

instance (s : TakePicture) (i : TakeInput) : Decidable (CompletesPicture s i) :=
  inferInstanceAs (Decidable (s.listener.Completes s i))

/-- `count` steps of the taker whose calls succeed. -/
def sampleTakes (count : Nat) : List TakeInput := List.replicate count (.take true)

/-- The recorder is started and tells so, completes the picture, and hangs up. -/
def samplePicture : TakePicture :=
  (takePictureMachine.runFrom CompletesPicture takePictureMachine.start
    (sampleTakes 7 ++ [TakeInput.notify 2 0, .listen true, .listen true] ++ sampleTakes 1 ++
      [TakeInput.notify MEDIA_EVENT_COMPLETED 0] ++ List.replicate 4 (.listen true) ++ sampleTakes 2 ++
      [TakeInput.hangup])).get (by decide)

theorem takePicture_endsCleanly_sample : samplePicture.EndsCleanly ∧ samplePicture.taker = .returned 0 := by
  have h : takePictureMachine.ReachableVia CompletesPicture samplePicture := Machine.reachableVia_get (by decide)
  exact ⟨takePicture_endsCleanly h, by decide⟩

/-- The recorder tells of an error while the taker waits. -/
def samplePictureFailed : TakePicture :=
  (takePictureMachine.runFrom (fun _ _ => True) takePictureMachine.start
    (sampleTakes 8 ++ [TakeInput.notify 4 (-5)] ++ List.replicate 3 (.listen true) ++ sampleTakes 2)).get (by decide)

/-- Without the condition a taker can return whose recorder is still open. -/
theorem takePicture_not_endsCleanly : ¬ ∀ s, takePictureMachine.Reachable s → s.EndsCleanly := by
  intro h
  have hclean := h samplePictureFailed (Machine.reachableVia_get (by decide))
  have hcloses := hclean.closed (-5) (by decide)
  revert hcloses
  decide

end MediaFramework
