import MediaFramework.Library.Ledger
import MediaFramework.Library.Machine

/-!
# The references to a synchronous proxy (`client/media_proxy.c`)

The user holds a reference until `media_proxy_disconnect`, and the thread that listens for events holds one until it
ends.  Whoever drops the last one calls the release callback and frees the proxy.  The user's calls do not overlap, but
the thread may make one of them in an event callback, and it may end at any moment.  `pthread_create` says with a
positive number that it has failed, and the code looks for a negative one.
-/

namespace MediaFramework

/-! ### The state -/

/-- Who makes a call: the user, or the listener in an event callback. -/
inductive Caller
  | user
  | listener
  deriving DecidableEq

/-- How far a call is: `media_proxy_set_event_cb` before `pthread_create` and after it, and `media_proxy_disconnect`
before `pthread_join`, before `close` and before `media_proxy_unref`. -/
inductive CallStage
  | creating
  | created
  | joining
  | closing
  | dropping
  deriving DecidableEq

/-- How far `media_proxy_listen_thread` is: before `accept4`, before `media_parcel_recv` or in `event_cb` with the
socket it accepted, before the last `close`, before `media_proxy_unref`, at its end. -/
inductive ListenerStage
  | accepting
  | receiving (acceptfd : Nat)
  | calling (acceptfd : Nat)
  | closing
  | dropping
  | ended
  deriving DecidableEq

/-- A `MediaClientPriv`, what its threads are doing, the descriptors that are open, how often the release callback was
called, whether the memory was freed, and whether it was used after that.  `held` says that the user has not
disconnected. -/
structure MediaClientPriv where
  fd : Nat
  listenfd : Nat
  thread : Bool
  refs : Int
  releaseCb : Bool
  held : Bool
  call : Option (Caller × CallStage)
  listener : Option ListenerStage
  fds : Ledger Nat
  released : Nat
  freed : Bool
  misused : Bool
  deriving DecidableEq

/-- After `media_proxy_connect` with the descriptor `fd`. -/
def mediaProxyConnect (fd : Nat) : MediaClientPriv :=
  ⟨fd, 0, false, 1, false, true, none, none, ⟨[fd], []⟩, 0, false, false⟩

/-- A step that uses the memory of the proxy. -/
def MediaClientPriv.use (s : MediaClientPriv) : MediaClientPriv := { s with misused := s.misused || s.freed }

def MediaClientPriv.close (s : MediaClientPriv) (fd : Nat) : MediaClientPriv := { s with fds := s.fds.giveBack fd }

def MediaClientPriv.open (s : MediaClientPriv) (fd : Nat) : MediaClientPriv := { s with fds := s.fds.take fd }

def mediaProxyRef (s : MediaClientPriv) : MediaClientPriv := { s with refs := s.refs + 1 }

def mediaProxyUnref (s : MediaClientPriv) : MediaClientPriv :=
  let t := { s with refs := s.refs - 1 }
  if s.refs = 1 then { t with released := s.released + s.releaseCb.toNat, freed := true } else t

/-! ### The calls -/

/-- The outcomes of the calls of `media_proxy_create_listenfd`. -/
structure EventOutcome where
  socket : Option Nat
  bind : Int
  listen : Int
  send : Int

/-- `media_proxy_create_listenfd`: whether there is a listening socket. -/
def mediaProxyCreateListenfd (s : MediaClientPriv) (o : EventOutcome) : Bool × MediaClientPriv :=
  match o.socket with
  | none => (false, s)
  | some listenfd =>
    let t := { s with listenfd }.open listenfd
    if o.bind < 0 ∨ o.listen < 0 ∨ o.send < 0 then (false, t.close listenfd) else (true, t)

/-- `media_proxy_set_event_cb` up to `pthread_create`. -/
def mediaProxySetEventCb (s : MediaClientPriv) (caller : Caller) (o : EventOutcome) : MediaClientPriv :=
  if s.thread then s.use
  else
    let r := mediaProxyCreateListenfd s.use o
    if r.1 then { mediaProxyRef r.2 with call := some (caller, .creating) } else r.2

/-- `pthread_create`, and what is done about its result. -/
def mediaProxySetEventCbCreate (s : MediaClientPriv) (caller : Caller) (ret : Int) : MediaClientPriv :=
  let s := { s.use with call := some (caller, .created) }
  if ret = 0 then { s with thread := true, listener := some .accepting }
  else if ret < 0 then mediaProxyUnref (s.close s.listenfd)
  else s

/-- What `media_proxy_disconnect` does after `pthread_join`. -/
def mediaProxyDisconnectClose (s : MediaClientPriv) (caller : Caller) : MediaClientPriv :=
  if 0 < s.fd then { s.use.close s.fd with fd := 0, call := some (caller, .dropping) } else { s.use with call := none }

/-- The user's reference is dropped. -/
def mediaProxyDisconnectUnref (s : MediaClientPriv) : MediaClientPriv :=
  { mediaProxyUnref s.use with held := false, call := none }

/-! ### The listener -/

/-- `accept4`. -/
def mediaProxyListenAccept (s : MediaClientPriv) (acceptfd : Option Nat) : MediaClientPriv :=
  match acceptfd with
  | none => { s.use with listener := some .closing }
  | some fd => { s.use.open fd with listener := some (if fd = 0 then .closing else .receiving fd) }

/-- The thread is done: it closes its socket. -/
def mediaProxyListenBreak (s : MediaClientPriv) (acceptfd : Nat) : MediaClientPriv :=
  { s.close acceptfd with listener := some .closing }

/-- `thread_error`. -/
def mediaProxyListenClose (s : MediaClientPriv) : MediaClientPriv :=
  { s.use.close s.listenfd with listener := some .dropping }

def mediaProxyListenUnref (s : MediaClientPriv) : MediaClientPriv :=
  { mediaProxyUnref s.use with listener := some .ended }

/-! ### Runs -/

/-- A step of a call or of the listener.  The calls are begun by the user or in an event callback; the steps of the
listener say whether it receives an event. -/
inductive ProxyStep
  | setReleaseCb (caller : Caller)
  | setEventCb (caller : Caller) (o : EventOutcome)
  | create (ret : Int)
  | created
  | disconnect (caller : Caller)
  | join
  | close
  | unref
  | accept (acceptfd : Option Nat)
  | recv (event : Bool)
  | callbackReturns
  | listenerClose
  | listenerUnref

/-- A call may begin: the user has not disconnected, no other call is being made, and the listener makes calls in an
event callback only. -/
def MediaClientPriv.mayCall (s : MediaClientPriv) (caller : Caller) : Bool :=
  s.held && s.call.isNone &&
    match caller, s.listener with
    | .user, _ | .listener, some (.calling _) => true
    | .listener, _ => false

/-- `pthread_join` returns: there is no thread, or it has ended, or it is the caller. -/
def MediaClientPriv.joins (s : MediaClientPriv) (caller : Caller) : Bool :=
  caller == .listener || s.listener == none || s.listener == some .ended

/-- The listener is not in a call that it makes itself. -/
def MediaClientPriv.returns (s : MediaClientPriv) : Bool :=
  match s.call with
  | some (.listener, _) => false
  | _ => true

def MediaClientPriv.next (s : MediaClientPriv) : ProxyStep → Option MediaClientPriv
  | .setReleaseCb caller => if s.mayCall caller then some { s.use with releaseCb := true } else none
  | .setEventCb caller o => if s.mayCall caller then some (mediaProxySetEventCb s caller o) else none
  | .create ret =>
    match s.call with
    | some (caller, .creating) => some (mediaProxySetEventCbCreate s caller ret)
    | _ => none
  | .created =>
    match s.call with
    | some (_, .created) => some { s.use with call := none }
    | _ => none
  | .disconnect caller => if s.mayCall caller then some { s.use with call := some (caller, .joining) } else none
  | .join =>
    match s.call with
    | some (caller, .joining) => if s.joins caller then some { s.use with call := some (caller, .closing) } else none
    | _ => none
  | .close =>
    match s.call with
    | some (caller, .closing) => some (mediaProxyDisconnectClose s caller)
    | _ => none
  | .unref =>
    match s.call with
    | some (_, .dropping) => some (mediaProxyDisconnectUnref s)
    | _ => none
  | .accept acceptfd =>
    match s.listener with
    | some .accepting => some (mediaProxyListenAccept s acceptfd)
    | _ => none
  | .recv event =>
    match s.listener with
    | some (.receiving acceptfd) =>
      some (if event then { s.use with listener := some (.calling acceptfd) } else mediaProxyListenBreak s acceptfd)
    | _ => none
  | .callbackReturns =>
    match s.listener with
    | some (.calling acceptfd) => if s.returns then some { s with listener := some (.receiving acceptfd) } else none
    | _ => none
  | .listenerClose =>
    match s.listener with
    | some .closing => some (mediaProxyListenClose s)
    | _ => none
  | .listenerUnref =>
    match s.listener with
    | some .dropping => some (mediaProxyListenUnref s)
    | _ => none

def proxyRefMachine (fd : Nat) : Machine MediaClientPriv ProxyStep where
  start := mediaProxyConnect fd
  next := MediaClientPriv.next

/-- What a step of the proxy does, and when it can be taken. -/
inductive MediaClientPriv.Steps (s : MediaClientPriv) : ProxyStep → MediaClientPriv → Prop
  | setReleaseCb {caller : Caller} (hcall : s.mayCall caller = true) :
    Steps s (.setReleaseCb caller) { s.use with releaseCb := true }
  | setEventCb {caller : Caller} (hcall : s.mayCall caller = true) (o : EventOutcome) :
    Steps s (.setEventCb caller o) (mediaProxySetEventCb s caller o)
  | create {caller : Caller} (hcall : s.call = some (caller, .creating)) (ret : Int) :
    Steps s (.create ret) (mediaProxySetEventCbCreate s caller ret)
  | created {caller : Caller} (hcall : s.call = some (caller, .created)) : Steps s .created { s.use with call := none }
  | disconnect {caller : Caller} (hcall : s.mayCall caller = true) :
    Steps s (.disconnect caller) { s.use with call := some (caller, .joining) }
  | join {caller : Caller} (hcall : s.call = some (caller, .joining)) (hjoins : s.joins caller = true) :
    Steps s .join { s.use with call := some (caller, .closing) }
  | close {caller : Caller} (hcall : s.call = some (caller, .closing)) :
    Steps s .close (mediaProxyDisconnectClose s caller)
  | unref {caller : Caller} (hcall : s.call = some (caller, .dropping)) :
    Steps s .unref (mediaProxyDisconnectUnref s)
  | accept (hlistener : s.listener = some .accepting) (acceptfd : Option Nat) :
    Steps s (.accept acceptfd) (mediaProxyListenAccept s acceptfd)
  | event {acceptfd : Nat} (hlistener : s.listener = some (.receiving acceptfd)) :
    Steps s (.recv true) { s.use with listener := some (.calling acceptfd) }
  | broken {acceptfd : Nat} (hlistener : s.listener = some (.receiving acceptfd)) :
    Steps s (.recv false) (mediaProxyListenBreak s acceptfd)
  | callbackReturns {acceptfd : Nat} (hlistener : s.listener = some (.calling acceptfd))
    (hreturns : s.returns = true) : Steps s .callbackReturns { s with listener := some (.receiving acceptfd) }
  | listenerClose (hlistener : s.listener = some .closing) : Steps s .listenerClose (mediaProxyListenClose s)
  | listenerUnref (hlistener : s.listener = some .dropping) : Steps s .listenerUnref (mediaProxyListenUnref s)

theorem MediaClientPriv.steps {s s' : MediaClientPriv} {i : ProxyStep} (hn : s.next i = some s') : s.Steps i s' := by
  cases i with
  | setReleaseCb caller =>
    obtain ⟨hcall, hs'⟩ := Option.ite_none_right_eq_some.1 hn
    cases hs'
    exact .setReleaseCb hcall
  | setEventCb caller o =>
    obtain ⟨hcall, hs'⟩ := Option.ite_none_right_eq_some.1 hn
    cases hs'
    exact .setEventCb hcall o
  | disconnect caller =>
    obtain ⟨hcall, hs'⟩ := Option.ite_none_right_eq_some.1 hn
    cases hs'
    exact .disconnect hcall
  | create ret =>
    simp only [next] at hn
    split at hn
    · rename_i hcall
      cases hn
      exact .create hcall ret
    · cases hn
  | created =>
    simp only [next] at hn
    split at hn
    · rename_i hcall
      cases hn
      exact .created hcall
    · cases hn
  | join =>
    simp only [next] at hn
    split at hn
    · rename_i hcall
      obtain ⟨hjoins, hs'⟩ := Option.ite_none_right_eq_some.1 hn
      cases hs'
      exact .join hcall hjoins
    · cases hn
  | close =>
    simp only [next] at hn
    split at hn
    · rename_i hcall
      cases hn
      exact .close hcall
    · cases hn
  | unref =>
    simp only [next] at hn
    split at hn
    · rename_i hcall
      cases hn
      exact .unref hcall
    · cases hn
  | accept acceptfd =>
    simp only [next] at hn
    split at hn
    · rename_i hlistener
      cases hn
      exact .accept hlistener acceptfd
    · cases hn
  | recv event =>
    simp only [next] at hn
    split at hn
    · rename_i hlistener
      cases hn
      cases event with
      | true => exact .event hlistener
      | false => exact .broken hlistener
    · cases hn
  | callbackReturns =>
    simp only [next] at hn
    split at hn
    · rename_i hlistener
      obtain ⟨hreturns, hs'⟩ := Option.ite_none_right_eq_some.1 hn
      cases hs'
      exact .callbackReturns hlistener hreturns
    · cases hn
  | listenerClose =>
    simp only [next] at hn
    split at hn
    · rename_i hlistener
      cases hn
      exact .listenerClose hlistener
    · cases hn
  | listenerUnref =>
    simp only [next] at hn
    split at hn
    · rename_i hlistener
      cases hn
      exact .listenerUnref hlistener
    · cases hn

/-! ### Who holds the proxy -/

/-- The listener holds a reference until it ends; it is taken before the thread is made. -/
def isListening : Option ListenerStage → Option (Caller × CallStage) → Bool
  | some .ended, _ => false
  | some _, _ => true
  | none, some (_, .creating) => true
  | none, _ => false

def MediaClientPriv.holders (s : MediaClientPriv) : Int := s.held.toNat + (isListening s.listener s.call).toNat

/-- The count of references is the number of the holders.  The release callback has been called once if there are none
any more, and it was set.  The memory is not used after that, and all descriptors are closed once. -/
structure MediaClientPriv.RefsExact (s : MediaClientPriv) : Prop where
  refs : s.refs = s.holders
  freed : s.freed = true ↔ s.holders = 0
  released : s.released = if s.freed then s.releaseCb.toNat else 0
  proper : s.misused = false
  once : s.fds.stray = []
  closed : s.freed = true → s.fds.live = []

instance (s : MediaClientPriv) : Decidable s.RefsExact :=
  decidable_of_iff (_ ∧ (_ ↔ _) ∧ _ ∧ _ ∧ _ ∧ (_ → _))
    ⟨fun h => ⟨h.1, h.2.1, h.2.2.1, h.2.2.2.1, h.2.2.2.2.1, h.2.2.2.2.2⟩, fun h => ⟨h.1, h.2, h.3, h.4, h.5, h.6⟩⟩

/-- `pthread_create` does not fail with a positive number. -/
def ThreadStarts : ProxyStep → Prop
  | .create ret => ret ≤ 0
  | _ => True

/-- The socket that is accepted is not 0, which the listener takes for an error. -/
def SocketKept : ProxyStep → Prop
  | .accept (some acceptfd) => acceptfd ≠ 0
  | _ => True

/-! ### What holds of every state -/

/-- The descriptors that the listener has to close. -/
def listenFds (listenfd : Nat) : Option ListenerStage → Option (Caller × CallStage) → List Nat
  | some .accepting, _ | some .closing, _ => [listenfd]
  | some (.receiving acceptfd), _ | some (.calling acceptfd), _ => [acceptfd, listenfd]
  | some .dropping, _ | some .ended, _ => []
  | none, some (_, .creating) => [listenfd]
  | none, _ => []

/-- The descriptor that the user has to close. -/
def userFds (fd : Nat) : List Nat := if fd = 0 then [] else [fd]

/-- What holds of every state, where `lost` are the sockets that were accepted and forgotten. -/
structure MediaClientPriv.Sound (s : MediaClientPriv) (lost : List Nat) : Prop where
  refs : s.refs = s.holders
  freed : s.freed = (!s.held && !isListening s.listener s.call)
  released : s.released = if s.freed then s.releaseCb.toNat else 0
  proper : s.misused = false
  once : s.fds.stray = []
  live : s.fds.live.Perm (userFds s.fd ++ (listenFds s.listenfd s.listener s.call ++ lost))
  calls : s.call ≠ none → s.held = true
  creating : ∀ caller, s.call = some (caller, .creating) → s.thread = false
  fd : s.fd = 0 ↔ s.held = false ∨ ∃ caller, s.call = some (caller, .dropping)
  thread : s.thread = false → s.listener = none

namespace MediaClientPriv

variable {s s' : MediaClientPriv} {caller : Caller} {stage : CallStage} {l : ListenerStage} {i : ProxyStep} {fd : Nat}
  {lost : List Nat}

@[simp] theorem use_of_not_freed (h : s.freed = false) : s.use = s := by
  cases s
  cases h
  simp [MediaClientPriv.use]

theorem not_freed_of_held (h : s.Sound lost) (hheld : s.held = true) : s.freed = false := by
  rw [h.freed, hheld]
  rfl

theorem not_freed_of_listening (h : s.Sound lost) (hlistening : isListening s.listener s.call = true) :
    s.freed = false := by
  rw [h.freed, hlistening, Bool.not_true, Bool.and_false]

theorem held_of_mayCall (h : s.mayCall caller = true) : s.held = true ∧ s.call = none := by
  simp only [MediaClientPriv.mayCall, Bool.and_eq_true, Option.isNone_iff_eq_none] at h
  exact h.1

theorem fd_ne_zero (h : s.Sound lost) (hheld : s.held = true) (hcall : ∀ caller, s.call ≠ some (caller, .dropping)) :
    s.fd ≠ 0 := by
  intro hfd
  rcases h.fd.1 hfd with hgone | ⟨caller, hdropping⟩
  · cases hheld.symm.trans hgone
  · exact hcall caller hdropping

theorem unref_of_one (hrefs : s.refs = 1) :
    mediaProxyUnref s = { s with refs := 0, released := s.released + s.releaseCb.toNat, freed := true } := by
  unfold mediaProxyUnref
  rw [if_pos hrefs, hrefs]
  rfl

theorem unref_of_more (hrefs : s.refs ≠ 1) : mediaProxyUnref s = { s with refs := s.refs - 1 } := if_neg hrefs

/-- A holder drops its reference: the memory is freed unless there is another one. -/
theorem unref_holder {another : Bool} (hrefs : s.refs = 1 + another.toNat) (hfreed : s.freed = false)
    (hreleased : s.released = 0) :
    mediaProxyUnref s = { s with
      refs := another.toNat, freed := !another, released := if another then 0 else s.releaseCb.toNat } := by
  cases another with
  | false =>
    rw [unref_of_one (by simpa using hrefs), hreleased]
    simp
  | true =>
    rw [unref_of_more (by simp [hrefs]), hrefs]
    simp [hfreed, hreleased]

/-! ### The calls -/

theorem Sound.setReleaseCb (h : s.Sound lost) (hcall : s.mayCall caller = true) :
    ({ s.use with releaseCb := true } : MediaClientPriv).Sound lost := by
  obtain ⟨hheld, hnone⟩ := held_of_mayCall hcall
  have hfreed := not_freed_of_held h hheld
  rw [use_of_not_freed hfreed]
  refine { h with released := ?_ }
  have hreleased := h.released
  simpa [hfreed] using hreleased

theorem Sound.setEventCb (h : s.Sound lost) (hcall : s.mayCall caller = true) (o : EventOutcome) :
    (mediaProxySetEventCb s caller o).Sound lost := by
  obtain ⟨hheld, hnone⟩ := held_of_mayCall hcall
  have hfreed := not_freed_of_held h hheld
  have hfd := fd_ne_zero h hheld (by simp [hnone])
  unfold mediaProxySetEventCb
  rw [use_of_not_freed hfreed]
  split
  · exact h
  · rename_i hthread
    have hthread : s.thread = false := by simpa using hthread
    have hlistener := h.thread hthread
    have hrefs : s.refs = 1 := by
      rw [h.refs]
      simp [MediaClientPriv.holders, isListening, hheld, hlistener, hnone]
    have hlive : s.fds.live.Perm (userFds s.fd ++ lost) := by
      have hlive := h.live
      simpa [listenFds, hlistener, hnone] using hlive
    unfold mediaProxyCreateListenfd
    cases o.socket with
    | none => exact h
    | some listenfd =>
      dsimp only [MediaClientPriv.open, MediaClientPriv.close]
      split
      · -- the socket is of no use, and is closed again
        rw [Ledger.giveBack_take]
        refine { h with live := ?_ }
        simpa [listenFds, hlistener, hnone] using hlive
      · rw [if_pos rfl]
        exact {
          refs := by simp [mediaProxyRef, MediaClientPriv.holders, isListening, hheld, hlistener, hrefs]
          freed := by simp [mediaProxyRef, hfreed, hheld]
          released := h.released
          proper := h.proper
          once := h.once
          live := by
            simp only [mediaProxyRef, hlistener, listenFds, Ledger.take_live]
            exact (hlive.cons listenfd).trans List.perm_middle.symm
          calls := fun _ => hheld
          creating := fun _ _ => hthread
          fd := by simp [mediaProxyRef, hheld, hfd]
          thread := fun _ => hlistener }

theorem Sound.create (h : s.Sound lost) (hcall : s.call = some (caller, .creating)) {ret : Int} (hret : ret ≤ 0) :
    (mediaProxySetEventCbCreate s caller ret).Sound lost := by
  have hheld := h.calls (by simp [hcall])
  have hfreed := not_freed_of_held h hheld
  have hthread := h.creating caller hcall
  have hlistener := h.thread hthread
  have hfd := fd_ne_zero h hheld (by simp [hcall])
  have hrefs : s.refs = 2 := by
    rw [h.refs]
    simp [MediaClientPriv.holders, isListening, hheld, hlistener, hcall]
  have hlive : s.fds.live.Perm (userFds s.fd ++ s.listenfd :: lost) := by
    have hlive := h.live
    simpa [listenFds, hlistener, hcall] using hlive
  unfold mediaProxySetEventCbCreate
  rw [use_of_not_freed hfreed]
  dsimp only
  by_cases hzero : ret = 0
  · rw [if_pos hzero]
    exact {
      refs := by simp [MediaClientPriv.holders, isListening, hheld, hrefs]
      freed := by simp [hfreed, hheld]
      released := h.released
      proper := h.proper
      once := h.once
      live := hlive
      calls := fun _ => hheld
      creating := fun _ hc => by cases hc
      fd := by simp [hheld, hfd]
      thread := fun ht => by cases ht }
  · -- there is no thread: the socket is closed and the reference is dropped
    rw [if_neg hzero, if_pos (by omega), unref_of_more (by simp [MediaClientPriv.close, hrefs])]
    obtain ⟨hback, hstray⟩ := Ledger.giveBack_perm (hlive.trans List.perm_middle)
    exact {
      refs := by simp [MediaClientPriv.close, MediaClientPriv.holders, isListening, hheld, hlistener, hrefs]
      freed := by simp [MediaClientPriv.close, hfreed, hheld]
      released := h.released
      proper := h.proper
      once := hstray.trans h.once
      live := by simpa [MediaClientPriv.close, listenFds, hlistener] using hback
      calls := fun _ => hheld
      creating := fun _ hc => by cases hc
      fd := by simp [MediaClientPriv.close, hheld, hfd]
      thread := fun _ => hlistener }

/-- What holds of the listener is the same when a call goes on that is not before `pthread_create`. -/
theorem listening_congr (listener : Option ListenerStage) (call call' : Option (Caller × CallStage))
    (hcall : ∀ caller, call ≠ some (caller, .creating)) (hcall' : ∀ caller, call' ≠ some (caller, .creating))
    (listenfd : Nat) : isListening listener call' = isListening listener call ∧
      listenFds listenfd listener call' = listenFds listenfd listener call := by
  have hnone : ∀ call : Option (Caller × CallStage), (∀ caller, call ≠ some (caller, .creating)) →
      isListening none call = false ∧ listenFds listenfd none call = [] := by
    intro call hcall
    rcases call with - | ⟨caller, stage⟩
    · exact ⟨rfl, rfl⟩
    · cases stage with
      | creating => exact absurd rfl (hcall caller)
      | created | joining | closing | dropping => exact ⟨rfl, rfl⟩
  cases listener with
  | some l => cases l <;> exact ⟨rfl, rfl⟩
  | none => exact ⟨(hnone _ hcall').1.trans (hnone _ hcall).1.symm, (hnone _ hcall').2.trans (hnone _ hcall).2.symm⟩

/-- A call begins, goes on or ends, outside of `pthread_create` and before the reference is dropped. -/
theorem Sound.goOn (h : s.Sound lost) (hheld : s.held = true) (hcall : ∀ caller, s.call ≠ some (caller, .creating))
    (hdropping : ∀ caller, s.call ≠ some (caller, .dropping)) {call : Option (Caller × CallStage)}
    (hcall' : ∀ caller, call ≠ some (caller, .creating)) (hdropping' : ∀ caller, call ≠ some (caller, .dropping)) :
    ({ s with call } : MediaClientPriv).Sound lost := by
  obtain ⟨hlistening, hfds⟩ := listening_congr s.listener _ _ hcall hcall' s.listenfd
  have hfd := fd_ne_zero h hheld hdropping
  exact { h with
    refs := by
      have hrefs := h.refs
      simpa only [MediaClientPriv.holders, hlistening] using hrefs
    freed := by
      have hfreed := h.freed
      simpa only [hlistening] using hfreed
    live := by
      have hlive := h.live
      simpa only [hfds] using hlive
    calls := fun _ => hheld
    creating := fun caller hc => absurd hc (hcall' caller)
    fd := by simp [hheld, hfd, hdropping'] }

theorem Sound.close (h : s.Sound lost) (hcall : s.call = some (caller, .closing)) :
    (mediaProxyDisconnectClose s caller).Sound lost := by
  have hheld := h.calls (by simp [hcall])
  have hfd := fd_ne_zero h hheld (by simp [hcall])
  obtain ⟨hlistening, hfds⟩ := listening_congr s.listener s.call (some (caller, .dropping))
    (by simp [hcall]) (by simp) s.listenfd
  have hlive := h.live
  rw [userFds, if_neg hfd, List.singleton_append, ← hfds] at hlive
  obtain ⟨hback, hstray⟩ := Ledger.giveBack_perm hlive
  unfold mediaProxyDisconnectClose
  rw [if_pos (by omega), use_of_not_freed (not_freed_of_held h hheld)]
  exact {
    refs := by
      have hrefs := h.refs
      simpa only [MediaClientPriv.close, MediaClientPriv.holders, hlistening] using hrefs
    freed := by
      have hfreed := h.freed
      simpa only [MediaClientPriv.close, hlistening] using hfreed
    released := h.released
    proper := h.proper
    once := hstray.trans h.once
    live := hback
    calls := fun _ => hheld
    creating := fun _ hc => by cases hc
    fd := by simp
    thread := h.thread }

theorem Sound.unref (h : s.Sound lost) (hcall : s.call = some (caller, .dropping)) :
    (mediaProxyDisconnectUnref s).Sound lost := by
  have hheld := h.calls (by simp [hcall])
  have hfreed := not_freed_of_held h hheld
  have hzero : s.fd = 0 := h.fd.2 (.inr ⟨caller, hcall⟩)
  obtain ⟨hlistening, hfds⟩ := listening_congr s.listener s.call none (by simp [hcall]) (by simp) s.listenfd
  have hlive := h.live
  rw [← hfds] at hlive
  have hreleased : s.released = 0 := by
    rw [h.released, hfreed]
    rfl
  have hrefs : s.refs = 1 + (isListening s.listener none).toNat := by
    rw [h.refs, MediaClientPriv.holders, hheld, ← hlistening]
    rfl
  unfold mediaProxyDisconnectUnref
  rw [use_of_not_freed hfreed, unref_holder hrefs hfreed hreleased]
  exact {
    refs := by simp [MediaClientPriv.holders]
    freed := by simp
    released := by cases isListening s.listener none <;> rfl
    proper := h.proper
    once := h.once
    live := hlive
    calls := fun hc => absurd rfl hc
    creating := fun _ hc => by cases hc
    fd := by simp [hzero]
    thread := h.thread }

/-! ### The listener -/

theorem isListening_some (hl : l ≠ .ended) (call : Option (Caller × CallStage)) :
    isListening (some l) call = true := by
  cases l with
  | ended => exact absurd rfl hl
  | accepting | receiving | calling | closing | dropping => rfl

/-- The listener goes on, with other descriptors. -/
theorem Sound.listenOn (h : s.Sound lost) {l' : ListenerStage} (hl : s.listener = some l) (hne : l ≠ .ended)
    (hne' : l' ≠ .ended) {fds : Ledger Nat} {lost' : List Nat} (hstray : fds.stray = [])
    (hlive : fds.live.Perm (userFds s.fd ++ (listenFds s.listenfd (some l') s.call ++ lost'))) :
    ({ s with listener := some l', fds } : MediaClientPriv).Sound lost' := by
  have hlistening := isListening_some hne s.call
  have hlistening' := isListening_some hne' s.call
  exact { h with
    refs := by
      have hrefs := h.refs
      simpa only [MediaClientPriv.holders, hl, hlistening, hlistening'] using hrefs
    freed := by
      have hfreed := h.freed
      simpa only [hl, hlistening, hlistening'] using hfreed
    once := hstray
    live := hlive
    thread := fun ht => absurd (hl.symm.trans (h.thread ht)) (by simp) }

/-- The descriptors before a step of the listener. -/
theorem live_of_listener (h : s.Sound lost) (hl : s.listener = some l) :
    s.fds.live.Perm (userFds s.fd ++ (listenFds s.listenfd (some l) s.call ++ lost)) := hl ▸ h.live

theorem not_freed_of_listener (h : s.Sound lost) (hl : s.listener = some l) (hne : l ≠ .ended) : s.freed = false :=
  not_freed_of_listening h (hl ▸ isListening_some hne s.call)

/-- The listener closes the first of its descriptors. -/
theorem Sound.listenClose (h : s.Sound lost) {l' : ListenerStage} (hl : s.listener = some l) (hne : l ≠ .ended)
    (hne' : l' ≠ .ended)
    (hfds : listenFds s.listenfd (some l) s.call = fd :: listenFds s.listenfd (some l') s.call) :
    ({ s.close fd with listener := some l' } : MediaClientPriv).Sound lost := by
  have hlive := live_of_listener h hl
  rw [hfds] at hlive
  obtain ⟨hback, hstray⟩ := Ledger.giveBack_perm (hlive.trans List.perm_middle)
  exact h.listenOn hl hne hne' (hstray.trans h.once) hback

/-- A socket that is 0 is lost. -/
theorem Sound.accept (h : s.Sound lost) (hl : s.listener = some .accepting) (acceptfd : Option Nat) :
    ∃ lost', (mediaProxyListenAccept s acceptfd).Sound lost' ∧ (SocketKept (.accept acceptfd) → lost' = lost) := by
  have hfreed := not_freed_of_listener h hl (by simp)
  have hlive := live_of_listener h hl
  unfold mediaProxyListenAccept
  rw [use_of_not_freed hfreed]
  cases acceptfd with
  | none => exact ⟨lost, h.listenOn hl (by simp) (by simp) h.once hlive, fun _ => rfl⟩
  | some fd =>
    dsimp only
    by_cases hfd : fd = 0
    · -- the listener breaks off without closing it
      rw [if_pos hfd]
      refine ⟨fd :: lost, h.listenOn hl (by simp) (by simp) h.once ?_, fun hkept => absurd hfd hkept⟩
      have hfirst : (fd :: s.fds.live).Perm (userFds s.fd ++ fd :: s.listenfd :: lost) :=
        (hlive.cons fd).trans List.perm_middle.symm
      exact hfirst.trans ((List.Perm.swap _ _ _).append_left _)
    · rw [if_neg hfd]
      exact ⟨lost, h.listenOn hl (by simp) (by simp) h.once ((hlive.cons fd).trans List.perm_middle.symm), fun _ => rfl⟩

theorem Sound.recvEvent (h : s.Sound lost) (hl : s.listener = some (.receiving fd)) :
    ({ s.use with listener := some (.calling fd) } : MediaClientPriv).Sound lost := by
  have hlive := live_of_listener h hl
  rw [use_of_not_freed (not_freed_of_listener h hl (by simp))]
  exact h.listenOn hl (by simp) (by simp) h.once hlive

theorem Sound.callbackReturns (h : s.Sound lost) (hl : s.listener = some (.calling fd)) :
    ({ s with listener := some (.receiving fd) } : MediaClientPriv).Sound lost := by
  have hlive := live_of_listener h hl
  exact h.listenOn hl (by simp) (by simp) h.once hlive

theorem Sound.listenerClose (h : s.Sound lost) (hl : s.listener = some .closing) :
    (mediaProxyListenClose s).Sound lost := by
  unfold mediaProxyListenClose
  rw [use_of_not_freed (not_freed_of_listener h hl (by simp))]
  exact h.listenClose hl (by simp) (by simp) rfl

theorem Sound.listenerUnref (h : s.Sound lost) (hl : s.listener = some .dropping) :
    (mediaProxyListenUnref s).Sound lost := by
  have hfreed := not_freed_of_listener h hl (by simp)
  have hlive := live_of_listener h hl
  have hreleased : s.released = 0 := by
    rw [h.released, hfreed]
    rfl
  have hrefs : s.refs = 1 + s.held.toNat := by
    rw [h.refs, MediaClientPriv.holders, hl, Int.add_comm]
    rfl
  have hthread : s.thread = true := by
    by_contra ht
    have hnone := h.thread (by simpa using ht)
    cases hl.symm.trans hnone
  unfold mediaProxyListenUnref
  rw [use_of_not_freed hfreed, unref_holder hrefs hfreed hreleased]
  exact {
    refs := by simp [MediaClientPriv.holders, isListening]
    freed := by simp [isListening]
    released := by cases s.held <;> rfl
    proper := h.proper
    once := h.once
    live := hlive
    calls := h.calls
    creating := h.creating
    fd := h.fd
    thread := fun ht => absurd ht (by simp [hthread]) }

/-! ### Runs -/

theorem Sound.start (hfd : fd ≠ 0) : (mediaProxyConnect fd).Sound [] where
  refs := rfl
  freed := rfl
  released := rfl
  proper := rfl
  once := rfl
  live := by
    have huser : userFds fd = [fd] := if_neg hfd
    dsimp only [mediaProxyConnect]
    rw [huser]
    exact List.Perm.refl _
  calls := fun _ => rfl
  creating := fun _ hc => by cases hc
  fd := by simp [mediaProxyConnect, hfd]
  thread := fun _ => rfl

/-- No socket is lost in a step unless it is accepted as 0. -/
theorem Sound.step (h : s.Sound lost) (hg : ThreadStarts i) (hn : s.next i = some s') :
    ∃ lost', s'.Sound lost' ∧ (SocketKept i → lost' = lost) := by
  cases steps hn with
  | setReleaseCb hcall => exact ⟨lost, h.setReleaseCb hcall, fun _ => rfl⟩
  | setEventCb hcall o => exact ⟨lost, h.setEventCb hcall o, fun _ => rfl⟩
  | disconnect hcall =>
    obtain ⟨hheld, hnone⟩ := held_of_mayCall hcall
    rw [use_of_not_freed (not_freed_of_held h hheld)]
    exact ⟨lost, h.goOn hheld (by simp [hnone]) (by simp [hnone]) (by simp) (by simp), fun _ => rfl⟩
  | create hcall ret => exact ⟨lost, h.create hcall hg, fun _ => rfl⟩
  | created hcall =>
    have hheld := h.calls (by simp [hcall])
    rw [use_of_not_freed (not_freed_of_held h hheld)]
    exact ⟨lost, h.goOn hheld (by simp [hcall]) (by simp [hcall]) (by simp) (by simp), fun _ => rfl⟩
  | join hcall =>
    have hheld := h.calls (by simp [hcall])
    rw [use_of_not_freed (not_freed_of_held h hheld)]
    exact ⟨lost, h.goOn hheld (by simp [hcall]) (by simp [hcall]) (by simp) (by simp), fun _ => rfl⟩
  | close hcall => exact ⟨lost, h.close hcall, fun _ => rfl⟩
  | unref hcall => exact ⟨lost, h.unref hcall, fun _ => rfl⟩
  | accept hl acceptfd => exact h.accept hl acceptfd
  | event hl => exact ⟨lost, h.recvEvent hl, fun _ => rfl⟩
  | broken hl => exact ⟨lost, h.listenClose hl (by simp) (by simp) rfl, fun _ => rfl⟩
  | callbackReturns hl => exact ⟨lost, h.callbackReturns hl, fun _ => rfl⟩
  | listenerClose hl => exact ⟨lost, h.listenerClose hl, fun _ => rfl⟩
  | listenerUnref hl => exact ⟨lost, h.listenerUnref hl, fun _ => rfl⟩

/-- When nobody holds the proxy, all descriptors are closed but those that were lost. -/
theorem live_of_freed (h : s.Sound lost) (hfreed : s.freed = true) : s.fds.live.Perm lost := by
  have hboth := h.freed
  rw [hfreed] at hboth
  have hboth : s.held = false ∧ isListening s.listener s.call = false := by simpa using hboth.symm
  have hzero : s.fd = 0 := h.fd.2 (.inl hboth.1)
  have hcall : s.call = none := by
    by_contra hcall
    cases hboth.1.symm.trans (h.calls hcall)
  have hlive := h.live
  have hlistener := hboth.2
  rw [hzero, hcall] at hlive
  rw [hcall] at hlistener
  have hnone : listenFds s.listenfd s.listener none = [] := by
    cases hl : s.listener with
    | none => rfl
    | some l =>
      rw [hl] at hlistener
      cases l with
      | ended => rfl
      | accepting | receiving | calling | closing | dropping => cases hlistener
  rw [hnone] at hlive
  exact hlive

theorem Sound.freed_iff (h : s.Sound lost) : s.freed = true ↔ s.holders = 0 := by
  rw [h.freed, holders]
  cases s.held <;> cases isListening s.listener s.call <;> decide

theorem Sound.refsExact (h : s.Sound []) : s.RefsExact where
  refs := h.refs
  freed := h.freed_iff
  released := h.released
  proper := h.proper
  once := h.once
  closed hfreed := (live_of_freed h hfreed).eq_nil

end MediaClientPriv

/-- The thread starts, and its socket is kept. -/
def ListenerKept (_ : MediaClientPriv) (i : ProxyStep) : Prop := ThreadStarts i ∧ SocketKept i

/-- The references are counted right, and the descriptors closed, as long as no thread fails to start. -/
theorem proxyRefs_exact {fd : Nat} (hfd : fd ≠ 0) {s : MediaClientPriv}
    (h : (proxyRefMachine fd).ReachableVia ListenerKept s) : s.RefsExact := by
  have hsound : s.Sound [] := by
    have hstart : (proxyRefMachine fd).start.Sound [] := MediaClientPriv.Sound.start hfd
    refine h.invariant (P := fun s => s.Sound []) hstart fun s i s' hs hg hn => ?_
    obtain ⟨lost, hs', hlost⟩ := MediaClientPriv.Sound.step hs hg.1 hn
    exact hlost hg.2 ▸ hs'
  exact hsound.refsExact

instance : (i : ProxyStep) → Decidable (ThreadStarts i)
  | .create _ => inferInstanceAs (Decidable (_ ≤ _))
  | .accept _ | .setReleaseCb _ | .setEventCb _ _ | .created | .disconnect _ | .join | .close | .unref | .recv _
  | .callbackReturns | .listenerClose | .listenerUnref => inferInstanceAs (Decidable True)

instance : (i : ProxyStep) → Decidable (SocketKept i)
  | .accept (some _) => inferInstanceAs (Decidable (_ ≠ _))
  | .accept none | .create _ | .setReleaseCb _ | .setEventCb _ _ | .created | .disconnect _ | .join | .close | .unref
  | .recv _ | .callbackReturns | .listenerClose | .listenerUnref => inferInstanceAs (Decidable True)

instance (s : MediaClientPriv) (i : ProxyStep) : Decidable (ListenerKept s i) := inferInstanceAs (Decidable (_ ∧ _))

/-- The listener gets an event, and disconnects in the callback. -/
def sampleProxySteps : List ProxyStep :=
  [.setReleaseCb .user, .setEventCb .user ⟨some 4, 0, 0, 0⟩, .create 0, .accept (some 5), .created, .recv true,
    .disconnect .listener, .join, .close, .unref, .callbackReturns, .recv false, .listenerClose, .listenerUnref]

theorem sampleProxySteps_possible :
    ((proxyRefMachine 3).runFrom ListenerKept (proxyRefMachine 3).start sampleProxySteps).isSome := by
  decide

theorem proxyRefs_exact_sample :
    (((proxyRefMachine 3).runFrom ListenerKept (proxyRefMachine 3).start sampleProxySteps).get
      sampleProxySteps_possible).RefsExact :=
  proxyRefs_exact (by decide) (Machine.reachableVia_get sampleProxySteps_possible)

/-- There are no more threads (`EAGAIN`), and the user disconnects. -/
def sampleThreadFails : List ProxyStep :=
  [.setReleaseCb .user, .setEventCb .user ⟨some 4, 0, 0, 0⟩, .create 11, .created, .disconnect .user, .join, .close,
    .unref]

theorem sampleThreadFails_possible :
    ((proxyRefMachine 3).runFrom (fun _ _ => True) (proxyRefMachine 3).start sampleThreadFails).isSome := by
  decide

theorem proxyRefs_not_exact : ¬ ∀ fd ≠ 0, ∀ s, (proxyRefMachine fd).Reachable s → s.RefsExact := by
  intro h
  have hexact := h 3 (by decide) _ (Machine.reachableVia_get sampleThreadFails_possible)
  revert hexact
  decide

end MediaFramework
