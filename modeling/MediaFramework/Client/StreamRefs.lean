import MediaFramework.Client.ProxyRefs

/-!
# The life of a synchronous stream (`client/media_graph.c`)

A call that moves data takes a reference to the handle, and `media_release_cb` drops it.  The reference of the handle
itself is dropped by nobody: `media_open` gives the proxy the callback `media_default_release_cb`, which frees the
handle at once when the proxy is released.  So the handle lives until then, whatever calls are running.
-/

namespace MediaFramework

/-! ### The state -/

/-- How far `media_process_data` is: before it takes its reference, before it drops it, at its end. -/
inductive DataStage
  | entering
  | working
  | done
  deriving DecidableEq

/-- How far `media_close` is after its request: before `media_close_socket`, before `media_proxy_disconnect`, beyond. -/
inductive CloseStage
  | socket (caller : Caller)
  | disconnect (caller : Caller)
  | done
  deriving DecidableEq

/-- A handle that threads share: its proxy and its references, the calls that move data, `media_close` if it is being
made, how often `media_release_cb` has freed the handle, and whether it was used after it was freed. -/
structure StreamHandle where
  proxy : MediaClientPriv
  refs : Int
  calls : List DataStage
  closing : Option CloseStage
  released : Nat
  misused : Bool
  deriving DecidableEq

/-- After `media_open`, where `fd` is the connection. -/
def mediaOpen (fd : Nat) : StreamHandle := ⟨{ mediaProxyConnect fd with releaseCb := true }, 1, [], none, 0, false⟩

namespace StreamHandle

/-- How often the handle was freed, by `media_default_release_cb` or by `media_release_cb`. -/
def frees (s : StreamHandle) : Nat := s.proxy.released + s.released

/-- A step that uses the memory of the handle. -/
def use (s : StreamHandle) : StreamHandle := { s with misused := s.misused || decide (s.frees ≠ 0) }

def mediaReleaseCb (s : StreamHandle) : StreamHandle :=
  let t := { s with refs := s.refs - 1 }
  if s.refs = 1 then { t with released := s.released + 1 } else t

/-! ### Runs -/

/-- A step of a thread: a call that moves data begins, takes its reference, uses the handle, drops its reference; a
call of `media_close` with the result of its request, its two other steps; or a step of the proxy and its listener. -/
inductive Step
  | begin
  | enter (k : Nat)
  | work (k : Nat)
  | leave (k : Nat)
  | close (caller : Caller) (ret : Int)
  | closeSocket
  | disconnect
  | proxy (i : ProxyStep)

/-- The steps of the proxy that are not a part of `media_open` and `media_close`.  No callback is set once the handle is
being closed, and an event callback that closes it does not return before it has disconnected. -/
def allows (closing : Option CloseStage) : ProxyStep → Bool
  | .setReleaseCb _ | .disconnect _ => false
  | .setEventCb _ _ => closing.isNone
  | .callbackReturns => closing != some (.socket .listener) && closing != some (.disconnect .listener)
  | _ => true

def next (s : StreamHandle) : Step → Option StreamHandle
  | .begin => if s.closing = none then some { s with calls := s.calls ++ [.entering] } else none
  | .enter k =>
    if s.calls[k]? = some .entering then some { s.use with refs := s.refs + 1, calls := s.calls.set k .working }
    else none
  | .work k => if s.calls[k]? = some .working then some s.use else none
  | .leave k =>
    if s.calls[k]? = some .working then some { mediaReleaseCb s.use with calls := s.calls.set k .done } else none
  | .close caller ret =>
    if s.closing = none ∧ s.proxy.mayCall caller = true then
      some (if ret < 0 then s.use else { s.use with closing := some (.socket caller) })
    else none
  | .closeSocket =>
    match s.closing with
    | some (.socket caller) => some { s.use with closing := some (.disconnect caller) }
    | _ => none
  | .disconnect =>
    match s.closing with
    | some (.disconnect caller) =>
      (s.proxy.next (.disconnect caller)).map fun proxy => { s.use with proxy, closing := some .done }
    | _ => none
  | .proxy i => if allows s.closing i then (s.proxy.next i).map fun proxy => { s with proxy } else none

def machine (fd : Nat) : Machine StreamHandle Step where
  start := mediaOpen fd
  next := next

/-- The handle is freed once, when its proxy has been released and no call is running, and is not used after that. -/
structure Outlives (s : StreamHandle) : Prop where
  freed : s.frees = if s.proxy.holders = 0 ∧ ∀ call ∈ s.calls, call = .done then 1 else 0
  proper : s.misused = false

instance (s : StreamHandle) : Decidable s.Outlives :=
  decidable_of_iff (_ ∧ _) ⟨fun h => ⟨h.1, h.2⟩, fun h => ⟨h.1, h.2⟩⟩

/-- The step drops the last reference to the proxy. -/
def DropsLast (p : MediaClientPriv) : ProxyStep → Prop
  | .unref | .listenerUnref => p.refs = 1
  | _ => False

/-- No call is running when the last reference to the proxy is dropped, and threads start. -/
def ClosedIdle (s : StreamHandle) : Step → Prop
  | .proxy i => ThreadStarts i ∧ (DropsLast s.proxy i → ∀ call ∈ s.calls, call = .done)
  | _ => True

/-! ### The steps of the proxy -/

variable {p p' : MediaClientPriv} {i : ProxyStep} {s s' : StreamHandle} {k : Nat} {caller : Caller} {lost : List Nat}

/-- `media_proxy_disconnect` is being made. -/
def disconnecting (p : MediaClientPriv) : Bool :=
  match p.call with
  | some (_, .joining) | some (_, .closing) | some (_, .dropping) => true
  | _ => false

/-- What a step of the proxy changes: the release callback stays, the user's reference is dropped in
`media_proxy_disconnect` only, and memory is freed with the last reference only. -/
structure ProxyMoves (p p' : MediaClientPriv) (i : ProxyStep) : Prop where
  releaseCb : p'.releaseCb = p.releaseCb
  held : disconnecting p = false → p'.held = p.held ∧ disconnecting p' = false
  freed : p'.freed = true → p.freed = true ∨ DropsLast p i

/-- A step that leaves these alone. -/
theorem ProxyMoves.same (hreleaseCb : p'.releaseCb = p.releaseCb) (hheld : p'.held = p.held)
    (hfreed : p'.freed = p.freed) (hcall : disconnecting p = false → disconnecting p' = false) : ProxyMoves p p' i where
  releaseCb := hreleaseCb
  held h := ⟨hheld, hcall h⟩
  freed h := .inl (hfreed ▸ h)

theorem unref_releaseCb (p : MediaClientPriv) : (mediaProxyUnref p).releaseCb = p.releaseCb := by
  unfold mediaProxyUnref
  split <;> rfl

theorem unref_held (p : MediaClientPriv) : (mediaProxyUnref p).held = p.held := by
  unfold mediaProxyUnref
  split <;> rfl

theorem unref_call (p : MediaClientPriv) : (mediaProxyUnref p).call = p.call := by
  unfold mediaProxyUnref
  split <;> rfl

theorem unref_freed (h : (mediaProxyUnref p).freed = true) : p.freed = true ∨ p.refs = 1 := by
  unfold mediaProxyUnref at h
  split at h
  · rename_i hrefs
    exact .inr hrefs
  · exact .inl h

theorem moves_setEventCb (hcall : p.mayCall caller = true) (o : EventOutcome) :
    ProxyMoves p (mediaProxySetEventCb p caller o) i := by
  obtain ⟨-, hnone⟩ := MediaClientPriv.held_of_mayCall hcall
  have hidle : disconnecting p = false := by simp [disconnecting, hnone]
  unfold mediaProxySetEventCb mediaProxyCreateListenfd
  split
  · exact .same rfl rfl rfl id
  · cases o.socket with
    | none => exact .same rfl rfl rfl id
    | some listenfd =>
      dsimp only
      split
      · exact .same rfl rfl rfl id
      · exact .same rfl rfl rfl fun _ => rfl

theorem moves_create (h : p.Sound lost) (hcall : p.call = some (caller, .creating)) (ret : Int) :
    ProxyMoves p (mediaProxySetEventCbCreate p caller ret) i := by
  have hrefs : p.refs = 2 := by
    have hheld := h.calls (by simp [hcall])
    have hlistener := h.thread (h.creating caller hcall)
    rw [h.refs]
    simp [MediaClientPriv.holders, isListening, hheld, hlistener, hcall]
  unfold mediaProxySetEventCbCreate
  dsimp only
  split
  · exact .same rfl rfl rfl fun _ => rfl
  · split
    · rw [MediaClientPriv.unref_of_more (by simp [MediaClientPriv.close, MediaClientPriv.use, hrefs])]
      exact .same rfl rfl rfl fun _ => rfl
    · exact .same rfl rfl rfl fun _ => rfl

theorem moves_unref (hcall : p.call = some (caller, .dropping)) :
    ProxyMoves p (mediaProxyDisconnectUnref p) .unref where
  releaseCb := unref_releaseCb p.use
  held h := by simp [disconnecting, hcall] at h
  freed h := unref_freed (p := p.use) h

theorem moves_listenerUnref (p : MediaClientPriv) : ProxyMoves p (mediaProxyListenUnref p) .listenerUnref where
  releaseCb := unref_releaseCb p.use
  held h := by
    refine ⟨unref_held p.use, ?_⟩
    unfold disconnecting mediaProxyListenUnref
    dsimp only
    rw [unref_call]
    exact h
  freed h := unref_freed (p := p.use) h

theorem moves_close (hcall : p.call = some (caller, .closing)) :
    ProxyMoves p (mediaProxyDisconnectClose p caller) i := by
  unfold mediaProxyDisconnectClose
  split
  · exact .same rfl rfl rfl fun h => by simp [disconnecting, hcall] at h
  · exact .same rfl rfl rfl fun h => by simp [disconnecting, hcall] at h

theorem moves_accept (p : MediaClientPriv) (acceptfd : Option Nat) :
    ProxyMoves p (mediaProxyListenAccept p acceptfd) i := by
  cases acceptfd with
  | none => exact .same rfl rfl rfl id
  | some fd => exact .same rfl rfl rfl id

theorem proxyMoves {closing : Option CloseStage} (h : p.Sound lost) (hallows : allows closing i = true)
    (hn : p.next i = some p') : ProxyMoves p p' i := by
  cases MediaClientPriv.steps hn with
  | setReleaseCb hcall => cases hallows
  | disconnect hcall => cases hallows
  | setEventCb hcall o => exact moves_setEventCb hcall o
  | create hcall ret => exact moves_create h hcall ret
  | created hcall => exact .same rfl rfl rfl fun _ => rfl
  | join hcall => exact .same rfl rfl rfl fun hidle => by simp [disconnecting, hcall] at hidle
  | close hcall => exact moves_close hcall
  | unref hcall => exact moves_unref hcall
  | accept hlistener acceptfd => exact moves_accept p acceptfd
  | event hlistener => exact .same rfl rfl rfl id
  | broken hlistener => exact .same rfl rfl rfl id
  | callbackReturns hlistener => exact .same rfl rfl rfl id
  | listenerClose hlistener => exact .same rfl rfl rfl id
  | listenerUnref hlistener => exact moves_listenerUnref p

/-! ### What holds of every state -/

/-- The calls that have a reference. -/
def working (s : StreamHandle) : Nat := s.calls.count .working

structure Sound (s : StreamHandle) : Prop where
  proxy : ∃ lost, s.proxy.Sound lost
  releaseCb : s.proxy.releaseCb = true
  refs : s.refs = 1 + s.working
  released : s.released = 0
  proper : s.misused = false
  idle : s.proxy.freed = true → ∀ call ∈ s.calls, call = .done
  held : s.closing ≠ some .done → s.proxy.held = true ∧ disconnecting s.proxy = false

/-- The handle is freed when its proxy is. -/
theorem Sound.frees (h : s.Sound) : s.frees = s.proxy.freed.toNat := by
  obtain ⟨lost, hproxy⟩ := h.proxy
  rw [StreamHandle.frees, h.released, hproxy.released, h.releaseCb]
  cases s.proxy.freed <;> rfl

theorem Sound.use (h : s.Sound) (hfreed : s.proxy.freed = false) : s.use = s := by
  have hfrees : s.frees = 0 := by rw [h.frees, hfreed]; rfl
  unfold StreamHandle.use
  rw [hfrees]
  simp

theorem Sound.running (h : s.Sound) {call : DataStage} (hk : s.calls[k]? = some call) (hcall : call ≠ .done) :
    s.proxy.freed = false := by
  by_contra hfreed
  exact hcall (h.idle (by simpa using hfreed) call (List.mem_of_getElem? hk))

theorem Sound.open (h : s.Sound) (hclosing : s.closing ≠ some .done) : s.proxy.freed = false := by
  obtain ⟨lost, hproxy⟩ := h.proxy
  exact MediaClientPriv.not_freed_of_held hproxy (h.held hclosing).1

theorem count_set (call' : DataStage) {calls : List DataStage} {call : DataStage} (hk : calls[k]? = some call) :
    (calls.set k call').count .working + (if call = .working then 1 else 0) =
      calls.count .working + if call' = .working then 1 else 0 := by
  induction calls generalizing k with
  | nil => cases hk
  | cons c calls ih =>
    cases k with
    | zero =>
      cases hk
      simp only [List.set_cons_zero, List.count_cons, beq_iff_eq]
      omega
    | succ k =>
      have hrest := ih (k := k) hk
      simp only [List.set_cons_succ, List.count_cons]
      omega

theorem Sound.begin (h : s.Sound) (hclosing : s.closing = none) :
    ({ s with calls := s.calls ++ [.entering] } : StreamHandle).Sound :=
  { h with
    refs := by
      have hrefs := h.refs
      simpa [working] using hrefs
    idle := fun hfreed => absurd (hfreed.symm.trans (h.open (by simp [hclosing]))) (by decide) }

theorem Sound.enter (h : s.Sound) (hk : s.calls[k]? = some .entering) :
    ({ s.use with refs := s.refs + 1, calls := s.calls.set k .working } : StreamHandle).Sound := by
  have hfreed := h.running hk (by simp)
  have hcount := count_set .working hk
  have hrefs := h.refs
  rw [h.use hfreed]
  refine { h with
    refs := ?_
    idle := fun hf => absurd (hfreed.symm.trans hf) (by simp) }
  simp only [reduceCtorEq, if_false, if_true, Nat.add_zero] at hcount
  dsimp only [working] at hrefs ⊢
  omega

theorem Sound.leave (h : s.Sound) (hk : s.calls[k]? = some .working) :
    ({ mediaReleaseCb s.use with calls := s.calls.set k .done } : StreamHandle).Sound := by
  have hfreed := h.running hk (by simp)
  have hcount := count_set .done hk
  have hrefs := h.refs
  simp only [reduceCtorEq, if_false, if_true, Nat.add_zero] at hcount
  dsimp only [working] at hrefs
  rw [h.use hfreed, mediaReleaseCb, if_neg (by omega)]
  refine { h with
    refs := ?_
    idle := fun hf => absurd (hfreed.symm.trans hf) (by simp) }
  dsimp only [working]
  omega

theorem Sound.close (h : s.Sound) (hclosing : s.closing ≠ some .done) {closing : Option CloseStage} :
    ({ s.use with closing } : StreamHandle).Sound := by
  rw [h.use (h.open hclosing)]
  exact { h with held := fun _ => h.held hclosing }

theorem Sound.disconnect (h : s.Sound) (hclosing : s.closing ≠ some .done)
    (hn : s.proxy.next (.disconnect caller) = some p') :
    ({ s.use with proxy := p', closing := some .done } : StreamHandle).Sound := by
  rw [h.use (h.open hclosing)]
  obtain ⟨lost, hproxy⟩ := h.proxy
  have hstarts : ThreadStarts (.disconnect caller) := trivial
  obtain ⟨lost', hproxy', -⟩ := hproxy.step hstarts hn
  obtain ⟨hcall, hs'⟩ := Option.ite_none_right_eq_some.1 hn
  cases hs'
  exact { h with
    proxy := ⟨lost', hproxy'⟩
    held := fun hdone => absurd rfl hdone }

theorem Sound.proxyStep (h : s.Sound) (hallows : allows s.closing i = true) (hn : s.proxy.next i = some p')
    (hg : ThreadStarts i ∧ (DropsLast s.proxy i → ∀ call ∈ s.calls, call = .done)) :
    ({ s with proxy := p' } : StreamHandle).Sound := by
  obtain ⟨lost, hproxy⟩ := h.proxy
  obtain ⟨lost', hproxy', -⟩ := hproxy.step hg.1 hn
  have hmoves := proxyMoves hproxy hallows hn
  exact { h with
    proxy := ⟨lost', hproxy'⟩
    releaseCb := hmoves.releaseCb.trans h.releaseCb
    idle := fun hfreed => by
      rcases hmoves.freed hfreed with hbefore | hlast
      · exact h.idle hbefore
      · exact hg.2 hlast
    held := fun hclosing => by
      obtain ⟨hheld, hidle⟩ := h.held hclosing
      obtain ⟨hsame, hidle'⟩ := hmoves.held hidle
      exact ⟨hsame.trans hheld, hidle'⟩ }

theorem Sound.step {i : Step} (h : s.Sound) (hg : ClosedIdle s i) (hn : s.next i = some s') : s'.Sound := by
  cases i with
  | begin =>
    obtain ⟨hclosing, hs'⟩ := Option.ite_none_right_eq_some.1 hn
    cases hs'
    exact h.begin hclosing
  | enter k =>
    obtain ⟨hk, hs'⟩ := Option.ite_none_right_eq_some.1 hn
    cases hs'
    exact h.enter hk
  | work k =>
    obtain ⟨hk, hs'⟩ := Option.ite_none_right_eq_some.1 hn
    cases hs'
    rw [h.use (h.running hk (by simp))]
    exact h
  | leave k =>
    obtain ⟨hk, hs'⟩ := Option.ite_none_right_eq_some.1 hn
    cases hs'
    exact h.leave hk
  | close caller ret =>
    obtain ⟨⟨hclosing, -⟩, hs'⟩ := Option.ite_none_right_eq_some.1 hn
    cases hs'
    have hopen : s.closing ≠ some .done := by simp [hclosing]
    split
    · rw [h.use (h.open hopen)]
      exact h
    · exact h.close hopen
  | closeSocket =>
    simp only [next] at hn
    split at hn
    · rename_i hclosing
      cases hn
      exact h.close (by simp [hclosing])
    · cases hn
  | disconnect =>
    simp only [next] at hn
    split at hn
    · rename_i hclosing
      obtain ⟨p', hp', rfl⟩ := Option.map_eq_some_iff.1 hn
      exact h.disconnect (by simp [hclosing]) hp'
    · cases hn
  | proxy i =>
    obtain ⟨hallows, hs'⟩ := Option.ite_none_right_eq_some.1 hn
    obtain ⟨p', hp', rfl⟩ := Option.map_eq_some_iff.1 hs'
    exact h.proxyStep hallows hp' hg

theorem Sound.start {fd : Nat} (hfd : fd ≠ 0) : (mediaOpen fd).Sound where
  proxy := ⟨[], { MediaClientPriv.Sound.start hfd with released := rfl }⟩
  releaseCb := rfl
  refs := rfl
  released := rfl
  proper := rfl
  idle := fun hfreed => by cases hfreed
  held := fun _ => ⟨rfl, rfl⟩

theorem Sound.outlives (h : s.Sound) : s.Outlives where
  freed := by
    obtain ⟨lost, hproxy⟩ := h.proxy
    rw [h.frees]
    split
    · rename_i hdone
      rw [hproxy.freed_iff.2 hdone.1]
      rfl
    · rename_i hrunning
      have hfreed : s.proxy.freed = false := by
        by_contra hfreed
        have hfreed : s.proxy.freed = true := by simpa using hfreed
        exact hrunning ⟨hproxy.freed_iff.1 hfreed, h.idle hfreed⟩
      rw [hfreed]
      rfl
  proper := h.proper

end StreamHandle

/-- The handle outlives its users as long as it is closed with no call running. -/
theorem streamHandle_outlives {fd : Nat} (hfd : fd ≠ 0) {s : StreamHandle}
    (h : (StreamHandle.machine fd).ReachableVia StreamHandle.ClosedIdle s) : s.Outlives := by
  have hsound : s.Sound := h.invariant (StreamHandle.Sound.start hfd) fun _ _ _ hs hg hn =>
    StreamHandle.Sound.step hs hg hn
  exact hsound.outlives

instance (p : MediaClientPriv) : (i : ProxyStep) → Decidable (StreamHandle.DropsLast p i)
  | .unref | .listenerUnref => inferInstanceAs (Decidable (_ = _))
  | .setReleaseCb _ | .setEventCb _ _ | .create _ | .created | .disconnect _ | .join | .close | .accept _ | .recv _
  | .callbackReturns | .listenerClose => inferInstanceAs (Decidable False)

instance (s : StreamHandle) : (i : StreamHandle.Step) → Decidable (StreamHandle.ClosedIdle s i)
  | .proxy _ => inferInstanceAs (Decidable (_ ∧ (_ → ∀ _ ∈ _, _)))
  | .begin | .enter _ | .work _ | .leave _ | .close _ _ | .closeSocket | .disconnect => inferInstanceAs (Decidable True)

/-- A call is over before the handle is closed. -/
def sampleStreamSteps : List StreamHandle.Step :=
  [.begin, .enter 0, .work 0, .leave 0, .close .user 0, .closeSocket, .disconnect, .proxy .join, .proxy .close,
    .proxy .unref]

theorem sampleStreamSteps_possible : ((StreamHandle.machine 3).runFrom StreamHandle.ClosedIdle
    (StreamHandle.machine 3).start sampleStreamSteps).isSome := by
  decide

theorem streamHandle_outlives_sample : (((StreamHandle.machine 3).runFrom StreamHandle.ClosedIdle
    (StreamHandle.machine 3).start sampleStreamSteps).get sampleStreamSteps_possible).Outlives :=
  streamHandle_outlives (by decide) (Machine.reachableVia_get sampleStreamSteps_possible)

/-- A call is in `send` when the handle is closed. -/
def sampleClosedBusy : List StreamHandle.Step :=
  [.begin, .enter 0, .close .user 0, .closeSocket, .disconnect, .proxy .join, .proxy .close, .proxy .unref, .leave 0]

theorem sampleClosedBusy_possible : ((StreamHandle.machine 3).runFrom (fun _ _ => True)
    (StreamHandle.machine 3).start sampleClosedBusy).isSome := by
  decide

theorem streamHandle_not_outlives :
    ¬ ∀ fd ≠ 0, ∀ s, (StreamHandle.machine fd).Reachable s → s.Outlives := by
  intro h
  have hlives := h 3 (by decide) _ (Machine.reachableVia_get sampleClosedBusy_possible)
  revert hlives
  decide

end MediaFramework
