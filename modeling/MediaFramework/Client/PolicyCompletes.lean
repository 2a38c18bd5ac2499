import MediaFramework.Client.MediaUvPolicy

/-!
# A policy request completes once

The context of a request is freed when its proxy is released, and only `media_uv_policy_receive_cb`, or an exhausted
list of cpus, disconnects the proxy.  A connection that fails only sets `MEDIA_PROXYFLAG_RECONNECT`, which nobody
looks at before the first reply, and a connection that ends before the reply tells nobody.
-/

namespace MediaFramework

variable {c : UvConfig} {s s' : MediaPolicyPriv} {o : Outcome} {i : UvInput} {stack : List UvFrame}
  {flags : ProxyFlags} {p : MediaPipePriv} {f : UvFrame}

/-! ### What is said about a run -/

/-- At rest the callback, if there is one, has been told once and the context is freed once.  Neither is done twice,
and the context is not used after it was freed. -/
structure CompletesOnce (s : MediaPolicyPriv) : Prop where
  told : s.proxy.Quiescent s.replied → s.told.length = s.cb.toNat
  freed : s.proxy.Quiescent s.replied → s.frees = 1
  atMost : s.told.length ≤ s.cb.toNat ∧ s.frees ≤ 1
  untouched : s.touched = false
  sound : s.proxy.fault = none ∧ s.proxy.aborted = false

/-- The connection is made (or there is no socket to connect to, and no callback), memory is there for what the
callbacks do, and the command pipe is not closed while the request waits for its answer. -/
def KeepsPolicy (s : MediaPolicyPriv) (i : UvInput × Outcome) : Prop :=
  match i.1 with
  | .connectCb _ status => 0 ≤ status ∨ status = -ENOENT ∧ s.cb = false
  | .run => i.2.writing = true ∧ i.2.req = true
  | .closeCb _ => s.proxy.writings.sentq = []
  | _ => True

/-! ### The stages of a request -/

/-- The message of the request. -/
def policyWriting : MediaWritePriv := ⟨0, MEDIA_PARCEL_SEND_ACK, true, false⟩

/-- What holds until the proxy is released: it has the command pipe `p` and has gone wrong nowhere. -/
structure MediaPolicyPriv.Running (s : MediaPolicyPriv) (p : MediaPipePriv) : Prop where
  cpu : s.proxy.cpu ≠ none
  cpipe : s.proxy.cpipe = some 0
  epipe : s.proxy.epipe = none
  pipes : s.proxy.pipes = [p]
  listening : p.listening = false
  open' : p.closed = false
  stopped : p.closing = true → p.reading = false
  pendq : s.proxy.writings.pendq = []
  freed : s.proxy.freed = false
  fault : s.proxy.fault = none
  aborted : s.proxy.aborted = false
  frees : s.frees = 0
  untouched : s.touched = false

/-- Nobody has been told. -/
structure MediaPolicyPriv.Untold (s : MediaPolicyPriv) : Prop where
  told : s.told = []
  replied : s.replied = []

/-- The request is with the server, or on its way. -/
structure MediaPolicyPriv.Waiting (s : MediaPolicyPriv) (p : MediaPipePriv) : Prop extends s.Untold where
  sentq : s.proxy.writings.sentq = [policyWriting]
  responsed : policyWriting.id ∉ s.proxy.writings.responsed
  sent : p.sent = [policyWriting]
  writes : p.writes = [] ∨ p.writes = [policyWriting]
  connected : p.connecting = false
  notShut : p.shutting = false
  reads : p.reading = true ∨ p.closing = true

/-- The code that may be left when the request is answered. -/
def UvFrame.isLate (connectRet : Option Int) : UvFrame → Bool
  | .writeCb _ | .deliveryWriting | .deliveryLoop none => true
  | .handleParcel _ pipe | .applyWritings pipe | .applyQuit pipe | .close pipe => pipe = 0
  | .restoreFlags flags => !flags.listening
  | .user (.onConnect _) => connectRet.any (· < 0)
  | _ => false

/-- Code that is left, but for a `media_uv_policy_connect_cb`. -/
theorem UvFrame.isLate_of_none (hf : f.isLate none = true) (ret : Option Int) :
    f.isLate ret = true ∧ f.isConnect = false := by
  cases f with
  | user callback => cases callback <;> simp [UvFrame.isLate] at hf
  | readStart | freeProxy => cases hf
  | deliveryLoop writing => cases writing <;> exact ⟨hf, rfl⟩
  | writeCb | handleParcel | applyWritings | applyQuit | deliveryWriting | close | restoreFlags => exact ⟨hf, rfl⟩

/-- The command pipe ends when the proxy is disconnected: it is being closed, code that will close it is on the stack,
or the read is to find out that the connection is broken. -/
def MediaPolicyPriv.Ends (s : MediaPolicyPriv) (p : MediaPipePriv) (stack : List UvFrame) : Prop :=
  p.closing = true ∨ p.shutting = true ∨ .close 0 ∈ stack ∨ .applyQuit 0 ∈ stack ∨ .applyWritings 0 ∈ stack ∨
    (s.proxy.flags.connecting = true ∧ ∃ w, .handleParcel w 0 ∈ stack) ∨
    (p.reading = true ∧ p.sent = [policyWriting] ∧ s.replied = [])

/-- The request is answered, and nothing is left to do for libuv but to end the pipe. -/
structure MediaPolicyPriv.Answered (s : MediaPolicyPriv) (p : MediaPipePriv) (stack : List UvFrame) : Prop where
  sentq : s.proxy.writings.sentq = []
  connected : p.connecting = false
  writes : p.writes = []
  quiet : s.proxy.flags.listening = false
  late : ∀ f ∈ stack, f.isLate s.connectRet = true
  once : stack.countP UvFrame.isConnect ≤ 1

/-- The stages of a request that meets `KeepsPolicy`. -/
inductive PolicyStage (s : MediaPolicyPriv) : Prop
  | connecting (p : MediaPipePriv) (hrun : s.Running p) (huntold : s.Untold) (hstack : s.proxy.stack = [])
      (hflags : s.proxy.flags = { connecting := true }) (hret : s.connectRet = none)
      (hp : p = { connecting := true }) (hq : s.proxy.writings = {})
  | connected (p : MediaPipePriv) (status : Int) (hrun : s.Running p) (huntold : s.Untold) (hstatus : 0 ≤ status)
      (hstack : s.proxy.stack = [.user (.onConnect status), .restoreFlags { connecting := true }])
      (hflags : s.proxy.flags = 0) (hret : s.connectRet = none) (hp : p = { reading := true })
      (hq : s.proxy.writings = {})
  | missing (p : MediaPipePriv) (hrun : s.Running p) (huntold : s.Untold) (hcb : s.cb = false)
      (hstack : s.proxy.stack = [.user (.onConnect (-ENOENT)), .close 0])
      (hflags : s.proxy.flags = { connecting := true }) (hret : s.connectRet = none) (hp : p = {})
      (hq : s.proxy.writings = {})
  | sent (p : MediaPipePriv) (status ret : Int) (hrun : s.Running p) (hwait : s.Waiting p) (hret' : 0 ≤ ret)
      (hstack : s.proxy.stack = [.user (.onConnect status), .restoreFlags { connecting := true }])
      (hflags : s.proxy.flags = 0) (hret : s.connectRet = some ret)
  | restoring (p : MediaPipePriv) (hrun : s.Running p) (hwait : s.Waiting p)
      (hstack : s.proxy.stack = [.restoreFlags { connecting := true }]) (hflags : s.proxy.flags = 0)
      (hret : s.connectRet = none)
  | waiting (p : MediaPipePriv) (hrun : s.Running p) (hwait : s.Waiting p) (hstack : s.proxy.stack = [])
      (hflags : s.proxy.flags = { connecting := true }) (hret : s.connectRet = none)
  | receiving (p : MediaPipePriv) (w : MediaWritePriv) (parcel : Option Nat) (stack : List UvFrame)
      (hrun : s.Running p) (htold : s.told = []) (hanswered : s.Answered p stack)
      (hstack : s.proxy.stack = .user (.onReceive w parcel) :: stack) (hlive : s.proxy.flags.disconnect = false)
      (hends : s.proxy.flags = 0 ∨ s.Ends p stack)
  | ending (p : MediaPipePriv) (hrun : s.Running p) (htold : s.told.length = s.cb.toNat)
      (hanswered : s.Answered p s.proxy.stack) (hflags : s.proxy.flags.disconnect = true)
      (hrelease : s.proxy.onRelease = true) (hends : s.Ends p s.proxy.stack)
  | released (p : MediaPipePriv) (htold : s.told.length = s.cb.toNat) (hpipes : s.proxy.pipes = [p])
      (hp : p.closed = true ∧ p.reading = false ∧ p.connecting = false ∧ p.shutting = false ∧ p.listening = false ∧
        p.writes = [])
      (hsound : s.proxy.fault = none ∧ s.proxy.aborted = false) (huntouched : s.touched = false)
      (hstack : s.proxy.stack = [.user .onRelease, .freeProxy] ∧ s.frees = 0 ∧ s.proxy.freed = false ∨
        s.proxy.stack = [.freeProxy] ∧ s.frees = 1 ∧ s.proxy.freed = false ∨ s.proxy.stack = [] ∧ s.frees = 1)

/-! ### The steps there are -/

/-- The pipe that libuv calls on. -/
def UvInput.onPipe : UvInput → Option Nat
  | .connectCb pipe _ | .writeCb pipe _ _ | .parcel pipe _ | .readErr pipe | .listenCb pipe _ | .shutdownCb pipe
  | .closeCb pipe => some pipe
  | _ => none

/-- A step is a callback of the request, code of the proxy that goes on, or a call of libuv, which answers only what
is owed. -/
theorem policyNext_cases (hn : policyNext c s (i, o) = some s') :
    (i = .run ∧ ∃ callback stack, s.proxy.stack = .user callback :: stack ∧ s' = policyCallback c s o callback) ∨
    s.proxyNext c (i, o) = some s' ∧
      (i = .run ∧ (∀ callback stack, s.proxy.stack ≠ .user callback :: stack) ∨
        ∃ pipe, i.onPipe = some pipe ∧ ∀ parcel, i = .parcel pipe parcel → s.owed pipe = true) := by
  cases i with
  | send | listen | reconnect | disconnect => cases hn
  | run =>
    simp only [policyNext] at hn
    split at hn
    · rename_i callback stack hstack
      split at hn
      · cases hn
        exact .inl ⟨rfl, callback, stack, hstack, rfl⟩
      · cases hn
    · rename_i hstack
      exact .inr ⟨hn, .inl ⟨rfl, hstack⟩⟩
  | parcel pipe parcel =>
    simp only [policyNext] at hn
    split at hn
    · rename_i howed
      refine .inr ⟨hn, .inr ⟨pipe, rfl, ?_⟩⟩
      intro _ _
      exact howed
    · cases hn
  | connectCb pipe | writeCb pipe | readErr pipe | listenCb pipe | shutdownCb pipe | closeCb pipe =>
    exact .inr ⟨hn, .inr ⟨pipe, rfl, nofun⟩⟩

/-- A step of a proxy that does not go wrong. -/
theorem MediaPolicyPriv.proxyNext_eq (hn : s.proxyNext c (i, o) = some s') (hcalls : i.callsFreed s.proxy = false)
    (hfault : (uvStep c s.proxy o i).fault = none) :
    i.ready s.proxy = true ∧
      s' = { s with proxy := uvStep c s.proxy o i, replied := noteReply s.proxy i s.replied } := by
  obtain ⟨proxy, hproxy, rfl⟩ := Option.map_eq_some_iff.1 hn
  unfold uvNext at hproxy
  rw [hcalls, hfault] at hproxy
  split at hproxy
  · rename_i hready
    simp only [Bool.and_eq_true] at hready
    cases hproxy
    exact ⟨hready.2, rfl⟩
  · cases hproxy

/-- libuv is ready to call only while none of the code runs, and then on the only pipe. -/
theorem UvInput.ready_onPipe {proxy : MediaProxyPriv} {pipe : Nat} (hready : i.ready proxy = true)
    (hpipe : i.onPipe = some pipe) (hpipes : proxy.pipes = [p]) :
    proxy.stack = [] ∧ pipe = 0 ∧ p.ready i = true := by
  cases i with
  | send | listen | reconnect | disconnect | run => cases hpipe
  | connectCb | writeCb | parcel | readErr | listenCb | shutdownCb | closeCb =>
    cases hpipe
    simp only [UvInput.ready, Bool.and_eq_true, List.isEmpty_iff, hpipes] at hready
    refine ⟨hready.1, ?_⟩
    cases pipe with
    | zero => exact ⟨rfl, by simpa using hready.2⟩
    | succ pipe => simp at hready

/-- A callback that runs while the context is there. -/
theorem policyCallback_eq (hframes : s.frees = 0) (callback : UvCallback) : policyCallback c s o callback =
    match callback with
    | .onConnect ret =>
      match s.connectRet with
      | none => mediaUvPolicyConnectCb s ret o
      | some ret => mediaUvPolicyConnectRest c s.pop ret o
    | .onReceive _ parcel => mediaUvPolicyReceiveCb s.pop parcel o
    | .onRelease => mediaUvPolicyReleaseCb s.pop
    | .onEvent _ | .onListen _ => s.pop := by
  cases s with
  | mk proxy cb connectRet told frees touched replied =>
    cases hframes
    cases touched <;> rfl

theorem MediaPolicyPriv.proxyNext_ready (hn : s.proxyNext c (i, o) = some s') : i.ready s.proxy = true := by
  obtain ⟨proxy, hproxy, -⟩ := Option.map_eq_some_iff.1 hn
  exact (uvNext_cases hproxy).1

theorem MediaPolicyPriv.Running.callsFreed (h : s.Running p) (i : UvInput) : i.callsFreed s.proxy = false := by
  cases i <;> first | rfl | exact h.freed

namespace MediaPolicyPriv

/-- A callback of the request is at the top of the stack. -/
theorem callback (hpipes : s.proxy.pipes = [p]) {callback : UvCallback} {stack : List UvFrame}
    (hstack : s.proxy.stack = .user callback :: stack) (hn : policyNext c s (i, o) = some s') :
    i = .run ∧ s' = policyCallback c s o callback := by
  rcases policyNext_cases hn with ⟨rfl, callback', stack', hcallback, hs'⟩ | ⟨hproxy, ⟨rfl, huser⟩ | ⟨pipe, hpipe, -⟩⟩
  · obtain ⟨rfl, -⟩ : callback = callback' ∧ stack = stack' := by simpa [hstack] using hcallback
    exact ⟨rfl, hs'⟩
  · exact absurd hstack (huser callback stack)
  · have hempty := (UvInput.ready_onPipe (proxyNext_ready hproxy) hpipe hpipes).1
    cases hstack.symm.trans hempty

/-- Code of the proxy is at the top of the stack. -/
theorem goesOn (hpipes : s.proxy.pipes = [p]) {f : UvFrame} {stack : List UvFrame}
    (hstack : s.proxy.stack = f :: stack) (huser : f.isUser = false) (hn : policyNext c s (i, o) = some s') :
    i = .run ∧ s.proxyNext c (i, o) = some s' := by
  rcases policyNext_cases hn with ⟨rfl, callback, stack', hcallback, -⟩ | ⟨hproxy, ⟨rfl, -⟩ | ⟨pipe, hpipe, -⟩⟩
  · obtain ⟨rfl, -⟩ : f = .user callback ∧ stack = stack' := by simpa [hstack] using hcallback
    cases huser
  · exact ⟨rfl, hproxy⟩
  · have hempty := (UvInput.ready_onPipe (proxyNext_ready hproxy) hpipe hpipes).1
    cases hstack.symm.trans hempty

/-- None of the code runs, so libuv calls. -/
theorem called (hpipes : s.proxy.pipes = [p]) (hstack : s.proxy.stack = []) (hn : policyNext c s (i, o) = some s') :
    i.onPipe = some 0 ∧ p.ready i = true ∧ (∀ parcel, i = .parcel 0 parcel → s.owed 0 = true) ∧
      s.proxyNext c (i, o) = some s' := by
  rcases policyNext_cases hn with ⟨-, callback, stack, hcallback, -⟩ | ⟨hproxy, ⟨rfl, -⟩ | ⟨pipe, hpipe, howed⟩⟩
  · cases hstack.symm.trans hcallback
  · exact absurd (proxyNext_ready hproxy) (by simp [UvInput.ready, hstack])
  · obtain ⟨-, rfl, hready⟩ := UvInput.ready_onPipe (proxyNext_ready hproxy) hpipe hpipes
    exact ⟨hpipe, hready, howed, hproxy⟩

end MediaPolicyPriv

theorem mediaUvConnectOneCb_fault (s : MediaProxyPriv) (pipe : Nat) (status : Int) :
    (mediaUvConnectOneCb s pipe status).fault = s.fault := by
  unfold mediaUvConnectOneCb
  dsimp only
  split <;> split <;> rfl

/-- Steps that may change the pipe. -/
theorem MediaPolicyPriv.Running.keep (h : s.Running p) {p' : MediaPipePriv}
    (hproxy : s'.proxy = { s.proxy with
      stack := s'.proxy.stack, flags := s'.proxy.flags, writings := s'.proxy.writings,
      onRelease := s'.proxy.onRelease, pipes := [p'] })
    (hlistening : p'.listening = false) (hopen : p'.closed = false)
    (hstopped : p'.closing = true → p'.reading = false) (hpendq : s'.proxy.writings.pendq = [])
    (hframes : s'.frees = 0) (huntouched : s'.touched = false) : s'.Running p' := by
  refine ⟨?_, ?_, ?_, ?_, hlistening, hopen, hstopped, hpendq, ?_, ?_, ?_, hframes, huntouched⟩
  all_goals rw [hproxy]
  · exact h.cpu
  · exact h.cpipe
  · exact h.epipe
  · exact h.freed
  · exact h.fault
  · exact h.aborted

namespace PolicyStage

open MediaPolicyPriv (proxyNext_eq callback goesOn called)

/-- The connection is made or refused. -/
theorem of_connectCb {status : Int} (hrun : s.Running p) (huntold : s.Untold) (hstack : s.proxy.stack = [])
    (hflags : s.proxy.flags = { connecting := true }) (hret : s.connectRet = none)
    (hp : p = { connecting := true }) (hq : s.proxy.writings = {})
    (hg : 0 ≤ status ∨ status = -ENOENT ∧ s.cb = false)
    (hs' : s' = { s with proxy := mediaUvConnectOneCb s.proxy 0 status }) : PolicyStage s' := by
  subst hs' hp
  have hpipes := hrun.pipes
  by_cases hstatus : 0 ≤ status
  · have hproxy : mediaUvConnectOneCb s.proxy 0 status = { s.proxy with
        stack := [.user (.onConnect status), .restoreFlags { connecting := true }], flags := 0,
        pipes := [{ reading := true }] } := by
      simp [mediaUvConnectOneCb, MediaProxyPriv.modifyPipe, MediaProxyPriv.push, hflags, hpipes, hstack,
        Int.not_lt.2 hstatus]
    rw [hproxy]
    exact .connected { reading := true } status
      (hrun.keep rfl rfl rfl (by rintro ⟨⟩) hrun.pendq hrun.frees hrun.untouched)
      ⟨huntold.told, huntold.replied⟩ hstatus rfl rfl hret rfl hq
  · obtain ⟨rfl, hcb⟩ := hg.resolve_left hstatus
    have hproxy : mediaUvConnectOneCb s.proxy 0 (-ENOENT) = { s.proxy with
        stack := [.user (.onConnect (-ENOENT)), .close 0], pipes := [{}] } := by
      simp [mediaUvConnectOneCb, MediaProxyPriv.modifyPipe, MediaProxyPriv.push, hflags, hpipes, hstack, ENOENT]
    rw [hproxy]
    exact .missing {}
      (hrun.keep rfl rfl rfl (by rintro ⟨⟩) hrun.pendq hrun.frees hrun.untouched)
      ⟨huntold.told, huntold.replied⟩ hcb rfl hflags hret rfl hq

/-- The request is sent, or `uv_write` fails at once and `on_receive` is called. -/
theorem of_send {status : Int} (hrun : s.Running p) (huntold : s.Untold)
    (hstack : s.proxy.stack = [.user (.onConnect status), .restoreFlags { connecting := true }])
    (hflags : s.proxy.flags = 0) (hp : p = { reading := true })
    (hq : s.proxy.writings = {}) (hwriting : o.writing = true)
    (hs' : s' = { s.after (mediaUvSend s.proxy true o) with connectRet := some (mediaUvSend s.proxy true o).1 }) :
    PolicyStage s' := by
  obtain ⟨cpu, hcpu⟩ := Option.ne_none_iff_exists'.1 hrun.cpu
  have hpipes := hrun.pipes
  subst hs' hp
  by_cases hwrite : 0 ≤ o.write
  · have hsend : mediaUvSend s.proxy true o = (o.write, { s.proxy with
        writings := { ({} : Writings) with
          nextId := 1, sentq := [policyWriting], handed := [policyWriting], accepted := [policyWriting] }
        pipes := [{ reading := true, writes := [policyWriting], sent := [policyWriting] }] }) := by
      simp [mediaUvSend, hcpu, hflags, hwriting, mediaUvAllocWriting, mediaUvQueueWriting, mediaUvSendWriting,
        hrun.cpipe, hq, hstack, UvFrame.isConnect, UvFrame.isListen, Writings.accept, Writings.hand, hwrite,
        Int.not_lt.2 hwrite, MediaProxyPriv.modifyPipe, hpipes, sendCode, policyWriting]
    rw [hsend]
    refine .sent { reading := true, writes := [policyWriting], sent := [policyWriting] } status o.write
      (hrun.keep rfl rfl rfl (by rintro ⟨⟩) rfl hrun.frees hrun.untouched) ?_ hwrite hstack hflags rfl
    exact { told := huntold.told, replied := huntold.replied, sentq := rfl,
            responsed := by simp [MediaPolicyPriv.after], sent := rfl, writes := .inr rfl,
            connected := rfl, notShut := rfl, reads := .inl rfl }
  · have hsend : mediaUvSend s.proxy true o = (o.write, { s.proxy with
        writings := { ({} : Writings) with
          nextId := 1, handed := [policyWriting], answers := [(policyWriting, none)] }
        stack := .user (.onReceive policyWriting none) :: .writeCb policyWriting :: s.proxy.stack }) := by
      simp [mediaUvSend, hcpu, hflags, hwriting, mediaUvAllocWriting, mediaUvQueueWriting, mediaUvSendWriting,
        hrun.cpipe, hq, hstack, UvFrame.isConnect, UvFrame.isListen, Writings.accept, Writings.hand, hwrite,
        Int.not_le.1 hwrite, mediaUvWriteCb, Writings.isFreed, Writings.cancel, MediaProxyPriv.push, sendCode,
        policyWriting]
    rw [hsend]
    refine .receiving { reading := true } policyWriting none (.writeCb policyWriting :: s.proxy.stack)
      (hrun.keep (by simp [MediaPolicyPriv.after, hpipes]) rfl rfl (by rintro ⟨⟩) rfl hrun.frees hrun.untouched)
      huntold.told ?_ rfl (by simp [MediaPolicyPriv.after, hflags]; rfl) (.inl hflags)
    refine ⟨rfl, rfl, rfl, by simp [MediaPolicyPriv.after, hflags]; rfl, ?_,
      by simp [hstack, List.countP_cons, UvFrame.isConnect]⟩
    intro f hf
    rw [hstack] at hf
    simp only [List.mem_cons, List.not_mem_nil, or_false] at hf
    rcases hf with rfl | rfl | rfl <;> simp [UvFrame.isLate, Int.not_le.1 hwrite]

/-- There is no socket to connect to, and nobody to tell. -/
theorem of_missing (hrun : s.Running p) (huntold : s.Untold) (hcb : s.cb = false)
    (hstack : s.proxy.stack = [.user (.onConnect (-ENOENT)), .close 0])
    (hflags : s.proxy.flags = { connecting := true }) (hp : p = {}) (hq : s.proxy.writings = {})
    (hs' : s' = { s.after (mediaUvDisconnect s.proxy true o) with connectRet := some (-ENOENT) }) :
    PolicyStage s' := by
  subst hs' hp
  have hdisconnect : mediaUvDisconnect s.proxy true o = (0, { s.proxy with
      onRelease := true, flags := { connecting := true, disconnect := true } }) := by
    have hne : ({ connecting := true } : ProxyFlags) ≠ 0 := by decide
    simp [mediaUvDisconnect, hflags, hne, mediaUvFreeProxy, hrun.cpipe]
  rw [hdisconnect]
  refine .ending {} (hrun.keep (by simp [MediaPolicyPriv.after, hrun.pipes]) rfl rfl (by rintro ⟨⟩)
    (by rw [MediaPolicyPriv.after, hq]) hrun.frees hrun.untouched)
    (by simp [MediaPolicyPriv.after, huntold.told, hcb]) ?_ rfl rfl
    (.inr (.inr (.inl (by simp [MediaPolicyPriv.after, hstack]))))
  refine ⟨by simp [MediaPolicyPriv.after, hq], rfl, rfl, rfl, ?_,
    by simp [MediaPolicyPriv.after, hstack, List.countP_cons, UvFrame.isConnect]⟩
  intro f hf
  simp only [MediaPolicyPriv.after, hstack, List.mem_cons, List.not_mem_nil, or_false] at hf
  rcases hf with rfl | rfl
  · simp [UvFrame.isLate, ENOENT]
  · rfl

/-- `on_receive` tells the callback and disconnects. -/
theorem of_receiving {stack : List UvFrame} {w : MediaWritePriv} {parcel : Option Nat} (hrun : s.Running p)
    (htold : s.told = []) (hanswered : s.Answered p stack)
    (hstack : s.proxy.stack = .user (.onReceive w parcel) :: stack) (hlive : s.proxy.flags.disconnect = false)
    (hends : s.proxy.flags = 0 ∨ s.Ends p stack) (hreq : o.req = true)
    (hs' : s' = mediaUvPolicyReceiveCb s.pop parcel o) : PolicyStage s' := by
  have htell : s' = { s with
      proxy := (mediaUvDisconnect { s.proxy with stack } true o).2
      told := if s.cb then [parcel] else [] } := by
    subst hs'
    cases hcb : s.cb <;> simp [mediaUvPolicyReceiveCb, MediaPolicyPriv.pop, MediaPolicyPriv.after, hstack, htold, hcb]
  have htold' : (if s.cb = true then [parcel] else []).length = s.cb.toNat := by cases s.cb <;> rfl
  rw [htell]
  by_cases hflags : s.proxy.flags = 0
  · obtain ⟨p', hp', hdisconnect⟩ : ∃ p' : MediaPipePriv,
        (p' = { p with shutting := true } ∨ p' = { p with reading := false, closing := true }) ∧
        (mediaUvDisconnect { s.proxy with stack } true o).2 =
          { s.proxy with stack, onRelease := true, flags := { disconnect := true }, pipes := [p'] } := by
      have hoff : (0 : ProxyFlags).disconnect = false := rfl
      by_cases hshut : o.shutdown < 0
      · refine ⟨_, .inr rfl, ?_⟩
        simp [mediaUvDisconnect, hflags, hoff, mediaUvShutdown, hreq, hrun.cpipe, hshut, mediaUvClose,
          MediaProxyPriv.modifyPipe, hrun.pipes, mediaUvFreeProxy]
        exact ⟨rfl, rfl, rfl⟩
      · refine ⟨_, .inl rfl, ?_⟩
        simp [mediaUvDisconnect, hflags, hoff, mediaUvShutdown, hreq, hrun.cpipe, hshut,
          MediaProxyPriv.modifyPipe, hrun.pipes, mediaUvFreeProxy]
        exact ⟨rfl, rfl, rfl⟩
    have hopen : p'.listening = false ∧ p'.closed = false ∧ p'.connecting = false ∧ p'.writes = [] ∧
        (p'.closing = true → p'.reading = false) := by
      rcases hp' with rfl | rfl
      · exact ⟨hrun.listening, hrun.open', hanswered.connected, hanswered.writes, hrun.stopped⟩
      · exact ⟨hrun.listening, hrun.open', hanswered.connected, hanswered.writes, fun _ => rfl⟩
    rw [hdisconnect]
    refine .ending p' (hrun.keep rfl hopen.1 hopen.2.1 hopen.2.2.2.2 hrun.pendq hrun.frees hrun.untouched) htold'
      ⟨hanswered.sentq, hopen.2.2.1, hopen.2.2.2.1, rfl, hanswered.late, hanswered.once⟩ rfl rfl ?_
    rcases hp' with rfl | rfl
    · exact .inr (.inl rfl)
    · exact .inl rfl
  · have hdisconnect : (mediaUvDisconnect { s.proxy with stack } true o).2 =
        { s.proxy with stack, onRelease := true, flags := { s.proxy.flags with disconnect := true } } := by
      simp [mediaUvDisconnect, hlive, hflags, mediaUvFreeProxy, hrun.cpipe]
    rw [hdisconnect]
    exact .ending p (hrun.keep (by simp [hrun.pipes]) hrun.listening hrun.open' hrun.stopped hrun.pendq hrun.frees
      hrun.untouched) htold'
      ⟨hanswered.sentq, hanswered.connected, hanswered.writes, hanswered.quiet, hanswered.late, hanswered.once⟩
      rfl rfl (hends.resolve_left hflags)

/-- The request waits: `uv_write` completes or fails, the answer comes, or the connection ends. -/
theorem of_waiting (hrun : s.Running p) (hwait : s.Waiting p) (hstack : s.proxy.stack = [])
    (hflags : s.proxy.flags = { connecting := true }) (hret : s.connectRet = none) (hpipe : i.onPipe = some 0)
    (hready : p.ready i = true) (howed : ∀ parcel, i = .parcel 0 parcel → s.owed 0 = true)
    (hg : KeepsPolicy s (i, o)) : (uvStep c s.proxy o i).fault = none ∧
      PolicyStage { s with proxy := uvStep c s.proxy o i, replied := noteReply s.proxy i s.replied } := by
  cases i with
  | send | listen | reconnect | disconnect | run => cases hpipe
  | connectCb => simp [MediaPipePriv.ready, hwait.connected] at hready
  | listenCb => simp [MediaPipePriv.ready, hrun.listening] at hready
  | shutdownCb => simp [MediaPipePriv.ready, hwait.notShut] at hready
  | closeCb =>
    cases hwait.sentq.symm.trans hg
  | readErr =>
    cases hpipe
    have hclose : uvStep c s.proxy o (.readErr 0) =
        { s.proxy with pipes := [{ p with reading := false, closing := true }] } := by
      simp [uvStep, mediaUvClose, MediaProxyPriv.modifyPipe, hrun.pipes]
    rw [hclose]
    refine ⟨hrun.fault, ?_⟩
    refine .waiting { p with reading := false, closing := true }
      (hrun.keep rfl hrun.listening hrun.open' (fun _ => rfl) hrun.pendq hrun.frees hrun.untouched) ?_ hstack hflags
      hret
    exact { hwait with reads := .inr rfl }
  | parcel pipe parcel =>
    cases hpipe
    have hwrites : p.writes = [] := by
      refine hwait.writes.resolve_right fun hwrites => ?_
      have hnot := howed parcel rfl
      simp [MediaPolicyPriv.owed, hrun.pipes, hwait.sentq, hwrites] at hnot
    have hanswer : uvStep c s.proxy o (.parcel 0 parcel) = { s.proxy with
        writings := s.proxy.writings.answer policyWriting parcel
        stack := [.user (.onReceive policyWriting (some parcel)), .handleParcel policyWriting 0] } := by
      simp [uvStep, mediaUvHandleParcel, hrun.epipe, hwait.sentq, MediaProxyPriv.push, hstack]
    rw [hanswer]
    refine ⟨hrun.fault, ?_⟩
    refine .receiving p policyWriting (some parcel) [.handleParcel policyWriting 0]
      (hrun.keep (by simp [hrun.pipes]) hrun.listening hrun.open' hrun.stopped hrun.pendq hrun.frees hrun.untouched)
      hwait.told
      ⟨by simp [Writings.answer, hwait.sentq], hwait.connected, hwrites, by simp [hflags], ?_,
        by simp [UvFrame.isConnect]⟩
      rfl (by simp [hflags]) (.inr ?_)
    · intro f hf
      cases List.mem_singleton.1 hf
      rfl
    · exact .inr (.inr (.inr (.inr (.inr (.inl ⟨by simp [hflags], _, List.mem_cons_self⟩)))))
  | writeCb pipe writing status =>
    cases hpipe
    have hwriting : writing ∈ p.writes := by simpa [MediaPipePriv.ready] using hready
    have hwrites : p.writes = [policyWriting] :=
      hwait.writes.resolve_left fun hwrites => by simp [hwrites] at hwriting
    obtain rfl : writing = policyWriting := by simpa [hwrites] using hwriting
    have hlive : s.proxy.writings.isFreed policyWriting = false := by simp [Writings.isFreed, hwait.responsed]
    by_cases hstatus : status < 0
    · have hcancel : uvStep c s.proxy o (.writeCb 0 policyWriting status) = { s.proxy with
          writings := s.proxy.writings.cancel policyWriting
          pipes := [{ p with writes := [] }]
          stack := [.user (.onReceive policyWriting none), .writeCb policyWriting] } := by
        have hcode : policyWriting.code = MEDIA_PARCEL_SEND_ACK := rfl
        simp [uvStep, mediaUvWriteCb, MediaProxyPriv.modifyPipe, hrun.pipes, hlive, hstatus, hcode,
          MediaProxyPriv.push, hstack, hwrites]
      rw [hcancel]
      refine ⟨hrun.fault, ?_⟩
      refine .receiving { p with writes := [] } policyWriting none [.writeCb policyWriting]
        (hrun.keep rfl hrun.listening hrun.open' hrun.stopped hrun.pendq hrun.frees hrun.untouched) hwait.told
        ⟨by simp [Writings.cancel, hwait.sentq], hwait.connected, rfl, by simp [hflags], ?_,
          by simp [UvFrame.isConnect]⟩
        rfl (by simp [hflags]) (.inr ?_)
      · intro f hf
        cases List.mem_singleton.1 hf
        rfl
      · rcases hwait.reads with hreads | hcloses
        · exact .inr (.inr (.inr (.inr (.inr (.inr ⟨hreads, hwait.sent, hwait.replied⟩)))))
        · exact .inl hcloses
    · have hwritten : uvStep c s.proxy o (.writeCb 0 policyWriting status) = { s.proxy with
          writings := s.proxy.writings.setWritten policyWriting
          pipes := [{ p with writes := [] }] } := by
        simp [uvStep, mediaUvWriteCb, MediaProxyPriv.modifyPipe, hrun.pipes, hlive, hstatus, hwrites]
      rw [hwritten]
      refine ⟨hrun.fault, ?_⟩
      refine .waiting { p with writes := [] }
        (hrun.keep rfl hrun.listening hrun.open' hrun.stopped hrun.pendq hrun.frees hrun.untouched) ?_ hstack hflags
        hret
      exact { hwait with writes := .inl rfl }

/-- The code of the proxy that is left goes on. -/
theorem of_endingRun {f : UvFrame} {stack : List UvFrame} (hrun : s.Running p) (htold : s.told.length = s.cb.toNat)
    (hanswered : s.Answered p s.proxy.stack) (hflags : s.proxy.flags.disconnect = true)
    (hrelease : s.proxy.onRelease = true) (hends : s.Ends p s.proxy.stack) (hstack : s.proxy.stack = f :: stack)
    (huser : f.isUser = false) : (uvStep c s.proxy o .run).fault = none ∧
      PolicyStage { s with proxy := uvStep c s.proxy o .run } := by
  have hstep : uvStep c s.proxy o .run = runFrame c { s.proxy with stack } o f := by
    simp [uvStep, hstack, hrun.freed]
  have hlate : ∀ g ∈ stack, g.isLate s.connectRet = true := fun g hg => hanswered.late g (by simp [hstack, hg])
  have honce : stack.countP UvFrame.isConnect ≤ 1 := by
    have honce := hanswered.once
    rw [hstack, List.countP_cons] at honce
    omega
  have hf := hanswered.late f (by simp [hstack])
  -- What is left to show where the code only goes on, with new flags and with other code in the place of `f`.
  have hgoes : ∀ (frames : List UvFrame) {proxy : MediaProxyPriv}, runFrame c { s.proxy with stack } o f = proxy →
      proxy = { s.proxy with
        stack := frames ++ stack, flags := proxy.flags, writings := proxy.writings, pipes := [p] } →
      proxy.writings.pendq = s.proxy.writings.pendq → proxy.writings.sentq = s.proxy.writings.sentq →
      proxy.flags.disconnect = true → proxy.flags.listening = false →
      (∀ g ∈ frames, g.isLate none = true) →
      ({ s with proxy } : MediaPolicyPriv).Ends p (frames ++ stack) →
      (uvStep c s.proxy o .run).fault = none ∧ PolicyStage { s with proxy := uvStep c s.proxy o .run } := by
    intro frames proxy hproxy hkeeps hpendq hsentq hdisconnect hlistening hframes hends'
    have hstack' : proxy.stack = frames ++ stack := by rw [hkeeps]
    have hnone : frames.countP UvFrame.isConnect = 0 :=
      List.countP_eq_zero.2 fun g hg => by simp [(UvFrame.isLate_of_none (hframes g hg) none).2]
    rw [hstep, hproxy]
    refine ⟨by rw [hkeeps]; exact hrun.fault, ?_⟩
    refine .ending p (hrun.keep ?_ hrun.listening hrun.open' hrun.stopped (hpendq.trans hrun.pendq) hrun.frees
      hrun.untouched) htold ⟨hsentq.trans hanswered.sentq, hanswered.connected, hanswered.writes, hlistening, ?_, ?_⟩
      hdisconnect (by rw [hkeeps]; exact hrelease) (by rw [hstack']; exact hends')
    · rw [hkeeps]
    · rw [hstack']
      intro g hg
      exact (List.mem_append.1 hg).elim (fun hg => (UvFrame.isLate_of_none (hframes g hg) _).1) (hlate g)
    · rw [hstack', List.countP_append, hnone, Nat.zero_add]
      exact honce
  cases f with
  | user => cases huser
  | readStart | freeProxy => cases hf
  | writeCb w =>
    refine hgoes [] rfl (by simp [runFrame, hrun.pipes]) rfl rfl hflags hanswered.quiet (by rintro _ ⟨⟩) ?_
    simpa [MediaPolicyPriv.Ends, hstack, runFrame] using hends
  | restoreFlags flags =>
    have hflags' : flags.listening = false := by simpa [UvFrame.isLate] using hf
    have hor : (s.proxy.flags ||| flags).disconnect = true ∧ (s.proxy.flags ||| flags).listening = false ∧
        (s.proxy.flags ||| flags).connecting = (s.proxy.flags.connecting || flags.connecting) := by
      refine ⟨?_, ?_, rfl⟩
      · change (s.proxy.flags.disconnect || flags.disconnect) = true
        simp [hflags]
      · change (s.proxy.flags.listening || flags.listening) = false
        simp [hanswered.quiet, hflags']
    refine hgoes [] rfl (by simp [runFrame, hrun.pipes]) rfl rfl hor.1 hor.2.1 (by rintro _ ⟨⟩) ?_
    simp only [MediaPolicyPriv.Ends, hstack, List.mem_cons, reduceCtorEq, false_or] at hends
    simp only [MediaPolicyPriv.Ends, List.nil_append, runFrame, hor.2.2, Bool.or_eq_true]
    exact hends.imp id (.imp id (.imp id (.imp id (.imp id (.imp (fun h => ⟨.inl h.1, h.2⟩) id)))))
  | handleParcel w pipe =>
    obtain rfl : pipe = 0 := by simpa [UvFrame.isLate] using hf
    by_cases hconnecting : s.proxy.flags.connecting = true
    · refine hgoes [.applyWritings 0] rfl ?_ ?_ ?_ ?_ ?_ (by simp [UvFrame.isLate]) ?_
      all_goals simp [runFrame, hconnecting, MediaProxyPriv.push, hrun.pipes, Writings.setResponsed, hflags,
        hanswered.quiet, MediaPolicyPriv.Ends]
    · have hdone : runFrame c { s.proxy with stack } o (.handleParcel w 0) =
          { s.proxy with stack, writings := s.proxy.writings.setResponsed w } := by
        simp [runFrame, hconnecting]
      refine hgoes [] hdone (by simp [hrun.pipes]) rfl rfl hflags hanswered.quiet (by rintro _ ⟨⟩) ?_
      simpa [MediaPolicyPriv.Ends, hstack, hconnecting] using hends
  | applyWritings pipe =>
    obtain rfl : pipe = 0 := by simpa [UvFrame.isLate] using hf
    by_cases hreconnect : s.proxy.flags.reconnect = true
    · refine hgoes [.applyQuit 0] rfl ?_ ?_ ?_ ?_ ?_ (by simp [UvFrame.isLate]) ?_
      all_goals simp [runFrame, hreconnect, MediaProxyPriv.push, hrun.pipes, hflags, hanswered.quiet,
        MediaPolicyPriv.Ends]
    · refine hgoes [.deliveryWriting, .applyQuit 0] rfl ?_ ?_ ?_ ?_ ?_ (by simp [UvFrame.isLate]) ?_
      all_goals simp [runFrame, hreconnect, MediaProxyPriv.push, hrun.pipes, hflags, hanswered.quiet,
        MediaPolicyPriv.Ends]
  | applyQuit pipe =>
    obtain rfl : pipe = 0 := by simpa [UvFrame.isLate] using hf
    refine hgoes [.deliveryWriting, .close 0] rfl
      (by simp [runFrame, hrun.pipes, hflags, MediaProxyPriv.push]) ?_ ?_ ?_ ?_ (by simp [UvFrame.isLate]) ?_
    all_goals simp [runFrame, hflags, MediaProxyPriv.push, hanswered.quiet, MediaPolicyPriv.Ends]
  | deliveryWriting =>
    refine hgoes [.deliveryLoop none] rfl
      (by simp [runFrame, hrun.pipes, hrun.pendq, MediaProxyPriv.push]) rfl rfl hflags hanswered.quiet
      (by simp [UvFrame.isLate]) ?_
    simpa [MediaPolicyPriv.Ends, hstack, runFrame, MediaProxyPriv.push] using hends
  | deliveryLoop writing =>
    cases writing with
    | some => cases hf
    | none =>
      refine hgoes [] rfl (by simp [runFrame, hrun.pipes]) rfl rfl hflags hanswered.quiet (by rintro _ ⟨⟩) ?_
      simpa [MediaPolicyPriv.Ends, hstack, runFrame] using hends
  | close pipe =>
    obtain rfl : pipe = 0 := by simpa [UvFrame.isLate] using hf
    have hclose : runFrame c { s.proxy with stack } o (.close 0) =
        { s.proxy with stack, pipes := [{ p with reading := false, closing := true }] } := by
      simp [runFrame, mediaUvClose, MediaProxyPriv.modifyPipe, hrun.pipes]
    rw [hstep, hclose]
    refine ⟨hrun.fault, ?_⟩
    exact .ending { p with reading := false, closing := true }
      (hrun.keep rfl hrun.listening hrun.open' (fun _ => rfl) hrun.pendq hrun.frees hrun.untouched) htold
      ⟨hanswered.sentq, hanswered.connected, hanswered.writes, hanswered.quiet, hlate, honce⟩ hflags hrelease
      (.inl rfl)

/-- The rest of `media_uv_policy_connect_cb`, after `on_receive` was called in it. -/
theorem of_connectRest {ret r : Int} {stack : List UvFrame} (hrun : s.Running p) (htold : s.told.length = s.cb.toNat)
    (hanswered : s.Answered p s.proxy.stack) (hflags : s.proxy.flags.disconnect = true)
    (hrelease : s.proxy.onRelease = true) (hends : s.Ends p s.proxy.stack)
    (hstack : s.proxy.stack = .user (.onConnect ret) :: stack) (hret : s.connectRet = some r)
    (hs' : s' = mediaUvPolicyConnectRest c s.pop r o) : PolicyStage s' := by
  have hneg : r < 0 := by
    simpa [UvFrame.isLate, hret] using hanswered.late (.user (.onConnect ret)) (by simp [hstack])
  have hne : s.proxy.flags ≠ 0 := fun h => by rw [h] at hflags; cases hflags
  have hreconnect : s' = { s with
      proxy := { s.proxy with stack, flags := { s.proxy.flags with reconnect := true } }, connectRet := none } := by
    simp [hs', mediaUvPolicyConnectRest, hneg, MediaPolicyPriv.pop, MediaPolicyPriv.after, mediaUvReconnect,
      hrun.epipe, hne, hstack]
  have honce : stack.countP UvFrame.isConnect = 0 := by
    have honce := hanswered.once
    rw [hstack, List.countP_cons_of_pos rfl] at honce
    omega
  rw [hreconnect]
  refine .ending p (hrun.keep (by simp [hrun.pipes]) hrun.listening hrun.open' hrun.stopped hrun.pendq hrun.frees
    hrun.untouched) htold
    ⟨hanswered.sentq, hanswered.connected, hanswered.writes, hanswered.quiet, ?_, honce.le.trans ?_⟩ hflags hrelease ?_
  · intro f hf
    have hconnect := List.countP_eq_zero.1 honce f hf
    have hlate := hanswered.late f (by simp [hstack, hf])
    cases f with
    | user callback => cases callback <;> simp_all [UvFrame.isLate, UvFrame.isConnect]
    | deliveryLoop writing => cases writing <;> exact hlate
    | readStart | freeProxy => exact hlate
    | writeCb | handleParcel | applyWritings | applyQuit | deliveryWriting | close | restoreFlags => exact hlate
  · exact Nat.zero_le 1
  · simpa [MediaPolicyPriv.Ends, hstack] using hends

/-- libuv ends the command pipe of a proxy that is disconnected. -/
theorem of_endingCall (hrun : s.Running p) (htold : s.told.length = s.cb.toNat)
    (hanswered : s.Answered p s.proxy.stack) (hflags : s.proxy.flags.disconnect = true)
    (hrelease : s.proxy.onRelease = true) (hstack : s.proxy.stack = [])
    (hpipe : i.onPipe = some 0) (hready : p.ready i = true)
    (howed : ∀ parcel, i = .parcel 0 parcel → s.owed 0 = true) : (uvStep c s.proxy o i).fault = none ∧
      PolicyStage { s with proxy := uvStep c s.proxy o i, replied := noteReply s.proxy i s.replied } := by
  cases i with
  | send | listen | reconnect | disconnect | run => cases hpipe
  | connectCb => simp [MediaPipePriv.ready, hanswered.connected] at hready
  | listenCb => simp [MediaPipePriv.ready, hrun.listening] at hready
  | writeCb => simp [MediaPipePriv.ready, hanswered.writes] at hready
  | parcel pipe parcel =>
    cases hpipe
    have hnot := howed parcel rfl
    simp [MediaPolicyPriv.owed, hrun.pipes, hanswered.sentq] at hnot
  | readErr =>
    cases hpipe
    have hclose : uvStep c s.proxy o (.readErr 0) =
        { s.proxy with pipes := [{ p with reading := false, closing := true }] } := by
      simp [uvStep, mediaUvClose, MediaProxyPriv.modifyPipe, hrun.pipes]
    rw [hclose]
    refine ⟨hrun.fault, ?_⟩
    exact .ending { p with reading := false, closing := true }
      (hrun.keep rfl hrun.listening hrun.open' (fun _ => rfl) hrun.pendq hrun.frees hrun.untouched) htold
      ⟨hanswered.sentq, hanswered.connected, hanswered.writes, hanswered.quiet, hanswered.late, hanswered.once⟩
      hflags hrelease (.inl rfl)
  | shutdownCb =>
    cases hpipe
    have hclose : uvStep c s.proxy o (.shutdownCb 0) =
        { s.proxy with pipes := [{ p with shutting := false, reading := false, closing := true }] } := by
      simp [uvStep, mediaUvClose, MediaProxyPriv.modifyPipe, hrun.pipes]
    rw [hclose]
    refine ⟨hrun.fault, ?_⟩
    exact .ending { p with shutting := false, reading := false, closing := true }
      (hrun.keep rfl hrun.listening hrun.open' (fun _ => rfl) hrun.pendq hrun.frees hrun.untouched) htold
      ⟨hanswered.sentq, hanswered.connected, hanswered.writes, hanswered.quiet, hanswered.late, hanswered.once⟩
      hflags hrelease (.inl rfl)
  | closeCb =>
    cases hpipe
    simp only [MediaPipePriv.ready, Bool.and_eq_true, Bool.not_eq_true'] at hready
    have hfree : uvStep c s.proxy o (.closeCb 0) = { s.proxy with
        cpipe := none, pipes := [{ p with closed := true }], writings := s.proxy.writings.clear, released := true
        stack := [.user .onRelease, .freeProxy] } := by
      simp [uvStep, mediaUvCloseCb, MediaProxyPriv.modifyPipe, hrun.pipes, hrun.cpipe, mediaUvFreeProxy, hrun.epipe,
        hflags, hrelease, mediaUvClearQueue, MediaProxyPriv.push, hstack]
    rw [hfree]
    refine ⟨hrun.fault, ?_⟩
    exact .released { p with closed := true } htold rfl
      ⟨rfl, hrun.stopped hready.1.1.1.1, hanswered.connected, hready.1.2, hrun.listening, hanswered.writes⟩
      ⟨hrun.fault, hrun.aborted⟩ hrun.untouched (.inl ⟨rfl, hrun.frees, hrun.freed⟩)

/-- One step of a request that meets `KeepsPolicy`. -/
theorem next (h : PolicyStage s) (hg : KeepsPolicy s (i, o)) (hn : policyNext c s (i, o) = some s') :
    PolicyStage s' := by
  cases h with
  | connecting p hrun huntold hstack hflags hret hp hq =>
    obtain ⟨hpipe, hready, -, hproxy⟩ := called hrun.pipes hstack hn
    cases i with
    | connectCb pipe status =>
      cases hpipe
      have hfault := (mediaUvConnectOneCb_fault s.proxy 0 status).trans hrun.fault
      exact of_connectCb hrun huntold hstack hflags hret hp hq hg (proxyNext_eq hproxy hrun.freed hfault).2
    | send | listen | reconnect | disconnect | run => cases hpipe
    | writeCb | parcel | readErr | listenCb | shutdownCb | closeCb => simp [MediaPipePriv.ready, hp] at hready
  | connected p status hrun huntold hstatus hstack hflags hret hp hq =>
    obtain ⟨rfl, hs'⟩ := callback hrun.pipes hstack hn
    have hne : status ≠ -ENOENT := by
      intro h
      rw [h] at hstatus
      exact absurd hstatus (by decide)
    rw [policyCallback_eq hrun.frees] at hs'
    simp only [hret, mediaUvPolicyConnectCb, hne, hstatus, if_true, if_false] at hs'
    exact of_send hrun huntold hstack hflags hp hq hg.1 hs'
  | missing p hrun huntold hcb hstack hflags hret hp hq =>
    obtain ⟨-, hs'⟩ := callback hrun.pipes hstack hn
    rw [policyCallback_eq hrun.frees] at hs'
    simp only [hret, mediaUvPolicyConnectCb, if_true] at hs'
    exact of_missing hrun huntold hcb hstack hflags hp hq hs'
  | sent p status ret hrun hwait hpos hstack hflags hret =>
    obtain ⟨-, hs'⟩ := callback hrun.pipes hstack hn
    rw [policyCallback_eq hrun.frees] at hs'
    simp only [hret, mediaUvPolicyConnectRest, Int.not_lt.2 hpos, if_false] at hs'
    rw [hs']
    refine .restoring p (hrun.keep (by simp [MediaPolicyPriv.pop, hrun.pipes]) hrun.listening hrun.open' hrun.stopped
      hrun.pendq hrun.frees hrun.untouched) ?_ (by simp [MediaPolicyPriv.pop, hstack]) hflags rfl
    exact { hwait with }
  | restoring p hrun hwait hstack hflags hret =>
    obtain ⟨rfl, hproxy⟩ := goesOn hrun.pipes hstack rfl hn
    have hstep : uvStep c s.proxy o .run = { s.proxy with stack := [], flags := { connecting := true } } := by
      simp only [uvStep, hstack, hrun.freed, Bool.false_and, runFrame, hflags]
      rfl
    rw [(proxyNext_eq hproxy rfl (by rw [hstep]; exact hrun.fault)).2, hstep]
    refine .waiting p (hrun.keep (by simp [hrun.pipes]) hrun.listening hrun.open' hrun.stopped hrun.pendq hrun.frees
      hrun.untouched) ?_ rfl rfl hret
    exact { hwait with }
  | waiting p hrun hwait hstack hflags hret =>
    obtain ⟨hpipe, hready, howed, hproxy⟩ := called hrun.pipes hstack hn
    obtain ⟨hfault, hstage⟩ := of_waiting (c := c) (o := o) hrun hwait hstack hflags hret hpipe hready howed hg
    rw [(proxyNext_eq hproxy (hrun.callsFreed i) hfault).2]
    exact hstage
  | receiving p w parcel stack hrun htold hanswered hstack hlive hends =>
    obtain ⟨rfl, hs'⟩ := callback hrun.pipes hstack hn
    rw [policyCallback_eq hrun.frees] at hs'
    exact of_receiving hrun htold hanswered hstack hlive hends hg.2 hs'
  | ending p hrun htold hanswered hflags hrelease hends =>
    cases hstack : s.proxy.stack with
    | nil =>
      obtain ⟨hpipe, hready, howed, hproxy⟩ := called hrun.pipes hstack hn
      obtain ⟨hfault, hstage⟩ :=
        of_endingCall (c := c) (o := o) hrun htold hanswered hflags hrelease hstack hpipe hready howed
      rw [(proxyNext_eq hproxy (hrun.callsFreed i) hfault).2]
      exact hstage
    | cons f stack =>
      cases huser : f.isUser with
      | false =>
        obtain ⟨rfl, hproxy⟩ := goesOn hrun.pipes hstack huser hn
        obtain ⟨hfault, hstage⟩ :=
          of_endingRun (c := c) (o := o) hrun htold hanswered hflags hrelease hends hstack huser
        rw [(proxyNext_eq hproxy rfl hfault).2]
        exact hstage
      | true =>
        have hlate := hanswered.late f (by simp [hstack])
        obtain ⟨ret, rfl⟩ : ∃ ret, f = .user (.onConnect ret) := by
          cases f with
          | user callback =>
            cases callback with
            | onConnect ret => exact ⟨ret, rfl⟩
            | _ => cases hlate
          | _ => cases huser
        obtain ⟨r, hr⟩ : ∃ r, s.connectRet = some r := by
          cases hr : s.connectRet with
          | none => simp [UvFrame.isLate, hr] at hlate
          | some r => exact ⟨r, rfl⟩
        obtain ⟨-, hs'⟩ := callback hrun.pipes hstack hn
        rw [policyCallback_eq hrun.frees] at hs'
        simp only [hr] at hs'
        exact of_connectRest hrun htold hanswered hflags hrelease hends hstack hr hs'
  | released p htold hpipes hp hsound huntouched hstack =>
    rcases hstack with ⟨hstack, hframes, hfreed⟩ | ⟨hstack, hframes, hfreed⟩ | ⟨hstack, hframes⟩
    · obtain ⟨rfl, hs'⟩ := callback hpipes hstack hn
      rw [policyCallback_eq hframes] at hs'
      rw [hs']
      refine .released p htold hpipes hp hsound huntouched (.inr (.inl ⟨?_, ?_, hfreed⟩))
      · simp [mediaUvPolicyReleaseCb, MediaPolicyPriv.pop, hstack]
      · simp [mediaUvPolicyReleaseCb, MediaPolicyPriv.pop, hframes]
    · obtain ⟨rfl, hproxy⟩ := goesOn hpipes hstack rfl hn
      have hstep : uvStep c s.proxy o .run = { s.proxy with stack := [], freed := true } := by
        simp [uvStep, hstack, hfreed, runFrame]
      rw [(proxyNext_eq hproxy rfl (by rw [hstep]; exact hsound.1)).2, hstep]
      exact .released p htold hpipes hp hsound huntouched (.inr (.inr ⟨rfl, hframes⟩))
    · obtain ⟨hpipe, hready, -, -⟩ := called hpipes hstack hn
      obtain ⟨hclosed, hreading, hconnecting, hshutting, hlistening, hwrites⟩ := hp
      cases i with
      | send | listen | reconnect | disconnect | run => cases hpipe
      | connectCb | writeCb | parcel | readErr | listenCb | shutdownCb | closeCb =>
        simp [MediaPipePriv.ready, hclosed, hreading, hconnecting, hshutting, hlistening, hwrites] at hready

/-- The request as it is when the function returns 0. -/
theorem start {cpus : List String} {cb : Bool} (hs : mediaUvPolicyRequest c cpus cb o = some s) : PolicyStage s := by
  cases cpus with
  | nil => cases hs
  | cons cpu cpus =>
    simp only [mediaUvPolicyRequest] at hs
    split at hs
    · cases hs
    · rename_i hret
      cases hs
      have hconnect : (mediaUvConnectOne c { cpu := some cpu, cpus } o).2 = ({
          cpu := some cpu, cpus, cpipe := some 0, flags := { connecting := true },
          pipes := [{ connecting := true }] } : MediaProxyPriv) := by
        unfold mediaUvConnectOne at hret ⊢
        split at hret
        · exact absurd hret (by simp [ENOMEM])
        · split at hret
          · exact absurd hret (by simp [ENOMEM])
          · dsimp only at hret
            split at hret
            · rename_i hreq hpipe hsupported
              simp [hreq, hpipe, hsupported, mediaUvAllocPipe, MediaProxyPriv.modifyPipe]
              exact ⟨rfl, rfl, rfl⟩
            · exact absurd hret (by simp [ENOSYS])
      rw [hconnect]
      refine .connecting { connecting := true } ?_ ⟨rfl, rfl⟩ rfl rfl rfl rfl rfl
      exact ⟨(by rintro ⟨⟩), rfl, rfl, rfl, rfl, rfl, (by rintro ⟨⟩), rfl, rfl, rfl, rfl, rfl, rfl⟩

/-- A request that is not released is not at rest. -/
theorem completesOnce (h : PolicyStage s) : CompletesOnce s := by
  have hopen : ∀ {p}, s.Running p → s.told.length ≤ s.cb.toNat → ¬ s.proxy.Quiescent s.replied → CompletesOnce s :=
    fun hrun htold hbusy => ⟨(absurd · hbusy), (absurd · hbusy), ⟨htold, by simp [hrun.frees]⟩, hrun.untouched,
      hrun.fault, hrun.aborted⟩
  have hidle : ∀ {p}, s.Running p → s.proxy.Quiescent s.replied → p.Idle s.replied 0 :=
    fun hrun hrest => hrest.idle 0 _ (by simp [hrun.pipes])
  cases h with
  | connecting p hrun huntold hstack hflags hret hp hq =>
    refine hopen hrun (by simp [huntold.told]) fun hrest => ?_
    have hconnected := (hidle hrun hrest).connected
    rw [hp] at hconnected
    cases hconnected
  | connected p status hrun huntold hstatus hstack =>
    exact hopen hrun (by simp [huntold.told]) fun hrest => nomatch hstack.symm.trans hrest.stack
  | missing p hrun huntold hcb hstack =>
    exact hopen hrun (by simp [huntold.told]) fun hrest => nomatch hstack.symm.trans hrest.stack
  | sent p status ret hrun hwait hpos hstack =>
    exact hopen hrun (by simp [hwait.told]) fun hrest => nomatch hstack.symm.trans hrest.stack
  | restoring p hrun hwait hstack =>
    exact hopen hrun (by simp [hwait.told]) fun hrest => nomatch hstack.symm.trans hrest.stack
  | waiting p hrun hwait =>
    refine hopen hrun (by simp [hwait.told]) fun hrest => ?_
    have hp := hidle hrun hrest
    rcases hwait.reads with hreads | hcloses
    · have hanswered := hp.answered hreads
      simp [hwait.sent, hwait.replied, policyWriting] at hanswered
    · cases hrun.open'.symm.trans (hp.closed hcloses)
  | receiving p w parcel stack hrun htold hanswered hstack =>
    exact hopen hrun (by simp [htold]) fun hrest => nomatch hstack.symm.trans hrest.stack
  | ending p hrun htold hanswered hflags hrelease hends =>
    refine hopen hrun htold.le fun hrest => ?_
    have hp := hidle hrun hrest
    simp only [MediaPolicyPriv.Ends, hrest.stack, List.not_mem_nil, false_or, exists_false, and_false] at hends
    rcases hends with hcloses | hshuts | ⟨hreads, hsent, hreplied⟩
    · cases hrun.open'.symm.trans (hp.closed hcloses)
    · cases hp.shut.symm.trans hshuts
    · have hanswered := hp.answered hreads
      simp [hsent, hreplied, policyWriting] at hanswered
  | released p htold hpipes hp hsound huntouched hstack =>
    refine ⟨fun _ => htold, fun hrest => ?_, ⟨htold.le, ?_⟩, huntouched, hsound⟩
    · rcases hstack with ⟨hstack, -⟩ | ⟨hstack, -⟩ | ⟨-, hframes⟩
      · cases hstack.symm.trans hrest.stack
      · cases hstack.symm.trans hrest.stack
      · exact hframes
    · rcases hstack with ⟨-, hframes, -⟩ | ⟨-, hframes, -⟩ | ⟨-, hframes⟩ <;> omega

end PolicyStage

/-! ### Runs -/

/-- In every run that meets `KeepsPolicy` the request completes once. -/
theorem policyRun_completesOnce {cpus : List String} {cb : Bool} {start : MediaPolicyPriv}
    (hstart : mediaUvPolicyRequest c cpus cb o = some start)
    (h : (policyMachine c start).ReachableVia KeepsPolicy s) : CompletesOnce s := by
  have hstage : PolicyStage s :=
    h.invariant (.start hstart) fun _ _ _ hstage hg hn => hstage.next hg hn
  exact hstage.completesOnce

instance (s : MediaPolicyPriv) : (i : UvInput × Outcome) → Decidable (KeepsPolicy s i)
  | (.connectCb _ _, _) => inferInstanceAs (Decidable (_ ∨ _ ∧ _))
  | (.run, _) => inferInstanceAs (Decidable (_ ∧ _))
  | (.closeCb _, _) => inferInstanceAs (Decidable (_ = _))
  | (.send _, _) | (.listen _, _) | (.reconnect, _) | (.disconnect _, _) | (.writeCb _ _ _, _) | (.parcel _ _, _)
  | (.readErr _, _) | (.listenCb _ _, _) | (.shutdownCb _, _) => inferInstanceAs (Decidable True)

/-- A request to the cpu `ap`, which is this one, and then to `audio`. -/
def samplePolicy : MediaPolicyPriv := (mediaUvPolicyRequest ⟨"ap", true⟩ ["ap", "audio"] true {}).get (by decide)

/-- The state after the inputs, if every step meets the condition. -/
def samplePolicyRunFrom (g : MediaPolicyPriv → UvInput × Outcome → Prop) [∀ s i, Decidable (g s i)]
    (inputs : List UvInput) : Option MediaPolicyPriv :=
  (policyMachine ⟨"ap", true⟩ samplePolicy).runFrom g samplePolicy (inputs.map fun i => (i, {}))

/-- The request is sent and answered. -/
def samplePolicyAnswered : MediaPolicyPriv :=
  (samplePolicyRunFrom KeepsPolicy
    ([UvInput.connectCb 0 0] ++ List.replicate 3 UvInput.run ++ [UvInput.writeCb 0 policyWriting 0, .parcel 0 7] ++
      List.replicate 9 UvInput.run ++ [UvInput.closeCb 0] ++
      List.replicate 2 UvInput.run)).get (by decide)

theorem policyRun_completesOnce_sample : CompletesOnce samplePolicyAnswered := by
  have h : (policyMachine ⟨"ap", true⟩ samplePolicy).ReachableVia KeepsPolicy samplePolicyAnswered :=
    Machine.reachableVia_get (by decide)
  have hstart : mediaUvPolicyRequest ⟨"ap", true⟩ ["ap", "audio"] true {} = some samplePolicy :=
    (Option.some_get _).symm
  exact policyRun_completesOnce hstart h

/-- The first cpu refuses the connection. -/
def samplePolicyRefused : MediaPolicyPriv :=
  (samplePolicyRunFrom (fun _ _ => True)
    ([UvInput.connectCb 0 (-111)] ++ List.replicate 3 UvInput.run ++ [UvInput.closeCb 0])).get (by decide)

/-- A request whose first connection is refused never completes. -/
theorem policyRun_not_completesOnce : ¬ ∀ (c : UvConfig) (o : Outcome) (cpus : List String) (cb : Bool)
    (start s : MediaPolicyPriv), mediaUvPolicyRequest c cpus cb o = some start →
      (policyMachine c start).Reachable s → CompletesOnce s := by
  intro h
  have hcompletes := h ⟨"ap", true⟩ {} ["ap", "audio"] true samplePolicy samplePolicyRefused (Option.some_get _).symm
    (Machine.reachableVia_get (by decide))
  have hrest : samplePolicyRefused.proxy.Quiescent samplePolicyRefused.replied :=
    MediaProxyPriv.quiescent_of_idle (by decide) (by decide) (by decide) (by decide)
  have htold := hcompletes.told hrest
  revert htold
  decide

end MediaFramework
