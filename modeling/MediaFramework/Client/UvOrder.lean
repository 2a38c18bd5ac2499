import Mathlib.Data.List.Chain
import MediaFramework.Client.UvRequests

/-!
# Queued messages keep their order and are delivered

A message is queued while `proxy->flags` is not zero, and whoever clears the last flag delivers the queue.  Three
branches of the code do not: `media_uv_listen_one_cb` on its way of an error, a reconnection that fails for want of
memory, and the loop of `media_uv_delivery_writing`, in which a failed `uv_write` lets the user send past the queue.
-/

namespace MediaFramework

variable {c : UvConfig} {s s' : MediaProxyPriv} {o : Outcome} {i : UvInput} {w : MediaWritePriv} {f : UvFrame}
  {flags flags' : ProxyFlags} {pendq pendq' : List MediaWritePriv} {stack frames : List UvFrame}

/-- The message was sent outside of `on_connect` and `on_listen`. -/
def MediaWritePriv.outside (w : MediaWritePriv) : Bool := !w.inConnect && !w.inListen

/-- The accepted messages from outside of `on_connect` and `on_listen` are handed to `uv_write` in the order of
acceptance, those that are queued are to follow in this order, and none is queued when no flag is set and no callback of
the proxy is running. -/
structure KeepsOrder (s : MediaProxyPriv) : Prop where
  order : ((s.writings.handed ++ s.writings.pendq).filter fun w =>
    w.outside && decide (w ∈ s.writings.accepted)).Sublist s.writings.accepted
  delivered : s.stack = [] → s.flags = 0 → s.writings.pendq = []

/-- The condition on a step: `uv_write` takes the queued requests, and a failure of the listener or of a reconnection
for want of memory finds the queue empty or leaves another flag set. -/
def OrderKept (s : MediaProxyPriv) (i : UvInput × Outcome) : Prop :=
  match i.1 with
  | .run =>
    match s.stack.head? with
    | some (.deliveryLoop (some w)) => w.code = MEDIA_PARCEL_SEND_ACK → 0 ≤ i.2.write
    | some (.applyQuit _) =>
      s.flags.disconnect = false ∧ s.flags.reconnect = true ∧ s.cpus ≠ [] ∧ (i.2.req = false ∨ i.2.pipe = false) →
        s.writings.pendq = [] ∨ ({ s.flags with reconnect := false } : ProxyFlags) ≠ 0
    | _ => True
  | .listenCb _ status =>
    ListenFails s status i.2 → s.writings.pendq = [] ∨ ({ s.flags with listening := false } : ProxyFlags) ≠ 0
  | _ => True

/-! ### Continuations that deliver -/

theorem ProxyFlags.or_eq_zero : flags ||| flags' = 0 ↔ flags = 0 ∧ flags' = 0 := by
  obtain ⟨a, b, c, d⟩ := flags
  obtain ⟨a', b', c', d'⟩ := flags'
  revert a b c d a' b' c' d'
  decide

/-- The continuation sees to it that queued messages are delivered or a flag is set. -/
def UvFrame.delivers : UvFrame → Bool
  | .restoreFlags flags => decide (flags ≠ 0)
  | .applyWritings _ | .deliveryWriting | .deliveryLoop _ => true
  | _ => false

def UvFrame.isLoop : UvFrame → Bool
  | .deliveryLoop _ => true
  | _ => false

def UvFrame.isInside (f : UvFrame) : Bool := f.isConnect || f.isListen

/-- Right above a continuation that delivers there is only a callback `on_connect` or `on_listen`, and above the loop
there is nothing. -/
def StackedOn (f g : UvFrame) : Prop := g.delivers = true → f.isInside = true ∧ g.isLoop = false

/-- With no flag set and messages queued there is a continuation that delivers. -/
structure Drains (flags : ProxyFlags) (pendq : List MediaWritePriv) (stack : List UvFrame) : Prop where
  chain : stack.IsChain StackedOn
  delivers : flags = 0 → pendq ≠ [] → ∃ f ∈ stack, f.delivers = true
  loop : ∀ next rest, stack = .deliveryLoop next :: rest → next = pendq.head?

/-- A callback or nothing is on top of the stack, or a continuation that does not deliver. -/
def Quiet (stack : List UvFrame) : Prop := ∀ f ∈ stack.head?, f.delivers = false

namespace Drains

/-- Frames that do not deliver are put on the stack. -/
theorem push (h : Drains flags pendq stack) (frames : List UvFrame) (hstack : Quiet stack)
    (hframes : ∀ f ∈ frames, f.delivers = false) (hcalm : flags' = 0 → pendq' ≠ [] → flags = 0 ∧ pendq ≠ []) :
    Drains flags' pendq' (frames ++ stack) := by
  induction frames with
  | nil =>
    refine ⟨h.chain, fun hf hp => h.delivers (hcalm hf hp).1 (hcalm hf hp).2, fun next rest hrest => ?_⟩
    have := hstack (.deliveryLoop next) (by simp [show stack = _ from hrest])
    cases this
  | cons f frames ih =>
    have ih := ih fun g hg => hframes g (List.mem_cons_of_mem _ hg)
    refine ⟨List.isChain_cons.2 ⟨fun g hg hdelivers => ?_, ih.chain⟩, fun hf hp => ?_, fun next rest hrest => ?_⟩
    · cases frames with
      | nil => exact absurd (hstack g hg) (by simp [hdelivers])
      | cons g' frames =>
        obtain rfl : g' = g := by simpa using hg
        exact absurd (hframes g' (by simp)) (by simp [hdelivers])
    · obtain ⟨g, hg, hdelivers⟩ := ih.delivers hf hp
      exact ⟨g, List.mem_cons_of_mem _ hg, hdelivers⟩
    · obtain ⟨rfl, -⟩ := List.cons.inj hrest
      cases hframes (.deliveryLoop next) (by simp)

/-- A continuation that does not deliver is taken off the stack. -/
theorem pop (h : Drains flags pendq (f :: stack)) (hf : f.delivers = false) : Drains flags pendq stack := by
  refine ⟨(List.isChain_cons.1 h.chain).2, fun hflags hp => ?_, fun next rest hrest => ?_⟩
  · obtain ⟨g, hg, hdelivers⟩ := h.delivers hflags hp
    rcases List.mem_cons.1 hg with rfl | hg
    · exact absurd hf (by simp [hdelivers])
    · exact ⟨g, hg, hdelivers⟩
  · have := (List.isChain_cons.1 h.chain).1 (.deliveryLoop next) (by simp [hrest]) rfl
    cases this.2

/-- What is below a continuation other than `on_connect` and `on_listen` does not deliver. -/
theorem settled (h : Drains flags pendq (f :: stack)) (hf : f.isInside = false) : Quiet stack := by
  intro g hg
  by_contra hdelivers
  have := (List.isChain_cons.1 h.chain).1 g hg (by simpa using hdelivers)
  exact absurd hf (by simp [this.1])

/-- When the user may call the proxy outside of `on_connect` and `on_listen` with no flag set, nothing is queued. -/
theorem empty (h : Drains flags pendq stack) (huser : stack.head?.all UvFrame.isUser = true)
    (houtside : stack.any UvFrame.isInside = false) (hflags : flags = 0) : pendq = [] := by
  by_contra hp
  obtain ⟨f, hf, hdelivers⟩ := h.delivers hflags hp
  obtain ⟨pre, post, rfl⟩ := List.append_of_mem hf
  rcases List.eq_nil_or_concat pre with rfl | ⟨pre, g, rfl⟩
  · cases f <;> simp [UvFrame.isUser, UvFrame.delivers] at huser hdelivers
  · have hchain := h.chain
    simp only [List.concat_eq_append, List.append_assoc, List.singleton_append] at hchain
    have hinside := (List.isChain_append.1 hchain).2.1
    have := (List.isChain_cons.1 hinside).1 f (by simp) hdelivers
    simp [this.1] at houtside

end Drains

/-! ### What the functions put on the stack -/

/-- The function puts `frames` on the stack and keeps the flags and `pendq`. -/
structure Calls (s t : MediaProxyPriv) (frames : List UvFrame) : Prop where
  stack : t.stack = frames ++ s.stack
  flags : t.flags = s.flags
  pendq : t.writings.pendq = s.writings.pendq

private theorem mediaUvWriteCb_calls (s : MediaProxyPriv) (w : MediaWritePriv) (ret : Int) :
    ∃ frames, Calls s (mediaUvWriteCb s w ret) frames ∧ (∀ f ∈ frames, f.delivers = false) ∧
      ((w.code = MEDIA_PARCEL_SEND_ACK → 0 ≤ ret) → frames = []) := by
  unfold mediaUvWriteCb
  split
  · exact ⟨[], ⟨rfl, rfl, rfl⟩, by simp, fun _ => rfl⟩
  · split
    · rename_i hack
      refine ⟨[.user (.onReceive w none), .writeCb w], ⟨rfl, rfl, rfl⟩, by simp [UvFrame.delivers], fun hret => ?_⟩
      have := hret hack.2
      omega
    · exact ⟨[], ⟨rfl, rfl, rfl⟩, by simp, fun _ => rfl⟩

private theorem Writings.accept_pendq (q : Writings) (w : MediaWritePriv) (ret : Int) :
    (q.accept w ret).pendq = q.pendq := by
  unfold Writings.accept
  split <;> rfl

@[simp] private theorem Writings.hand_pendq (q : Writings) (w : MediaWritePriv) : (q.hand w).pendq = q.pendq := by
  unfold Writings.hand
  split <;> rfl

private theorem mediaUvSendWriting_calls (s : MediaProxyPriv) (w : MediaWritePriv) (ret : Int) :
    ∃ frames, Calls s (mediaUvSendWriting s w ret) frames ∧ (∀ f ∈ frames, f.delivers = false) ∧
      ((w.code = MEDIA_PARCEL_SEND_ACK → 0 ≤ ret) → frames = []) := by
  unfold mediaUvSendWriting
  split
  · exact ⟨[], ⟨rfl, rfl, rfl⟩, by simp, fun _ => rfl⟩
  · dsimp only
    split
    · obtain ⟨frames, hcalls, hframes⟩ := mediaUvWriteCb_calls { s with writings := s.writings.hand w } w ret
      exact ⟨frames, ⟨hcalls.stack, hcalls.flags, by simpa using hcalls.pendq⟩, hframes⟩
    · exact ⟨[], ⟨rfl, rfl, Writings.hand_pendq ..⟩, by simp, fun _ => rfl⟩

private theorem mediaUvCreateNotify_calls (s : MediaProxyPriv) (o : Outcome) :
    Calls s (mediaUvCreateNotify s o).2 [] := by
  unfold mediaUvCreateNotify
  split
  · exact ⟨rfl, rfl, rfl⟩
  · obtain ⟨frames, hcalls, -, hnone⟩ := mediaUvSendWriting_calls
      (mediaUvAllocWriting s MEDIA_PARCEL_CREATE_NOTIFY).2 (mediaUvAllocWriting s MEDIA_PARCEL_CREATE_NOTIFY).1 o.write
    obtain rfl := hnone fun hack => absurd
      (show MEDIA_PARCEL_CREATE_NOTIFY = MEDIA_PARCEL_SEND_ACK from hack) (by decide)
    exact ⟨hcalls.stack, hcalls.flags, hcalls.pendq⟩

private theorem push_stack {t : MediaProxyPriv} (h : t.stack = stack) : (t.push frames).stack = frames ++ stack := by
  rw [← h]
  rfl

private theorem listenFrames_eq (s : MediaProxyPriv) (ret : Int) :
    listenFrames s ret [] = [] ∨ listenFrames s ret [] = [.user (.onListen ret)] := by
  unfold listenFrames
  split
  · exact .inr rfl
  · exact .inl rfl

private theorem mediaUvListenOne_calls (c : UvConfig) (s : MediaProxyPriv) (o : Outcome) :
    ∃ flags frames, (flags = s.flags ∨ flags = { s.flags with listening := true }) ∧
      (frames = [] ∨ ∃ ret, frames = [.user (.onListen ret)]) ∧
      Calls { s with flags } (mediaUvListenOne c s o).2 frames := by
  unfold mediaUvListenOne
  simp only [callOnListen_eq]
  have hframes : ∀ (t : MediaProxyPriv) ret,
      listenFrames t ret [] = [] ∨ ∃ ret', listenFrames t ret [] = [.user (.onListen ret')] :=
    fun t ret => (listenFrames_eq t ret).imp_right fun h => ⟨ret, h⟩
  split
  · exact ⟨_, _, .inl rfl, hframes _ _, ⟨rfl, rfl, rfl⟩⟩
  · split
    · exact ⟨_, [], .inl rfl, .inl rfl, ⟨rfl, rfl, rfl⟩⟩
    · split_ifs
      · exact ⟨_, _, .inl rfl, hframes _ _, ⟨rfl, rfl, rfl⟩⟩
      · exact ⟨_, _, .inl rfl, hframes _ _, ⟨rfl, rfl, rfl⟩⟩
      all_goals
        rename_i cpu hcpu _ _ _
        obtain ⟨hstack, hflags, hpendq⟩ := mediaUvCreateNotify_calls
          ({ s with epipe := some s.pipes.length, pipes := s.pipes ++ [mediaUvAllocPipe] }.modifyPipe s.pipes.length
            fun p => { p with listening := true }) o
      · exact ⟨_, _, .inl rfl, hframes _ _, ⟨push_stack (t := mediaUvClose _ _) hstack, hflags, hpendq⟩⟩
      · refine ⟨_, [], .inr rfl, .inl rfl, ⟨hstack, ?_, hpendq⟩⟩
        exact congrArg (fun flags : ProxyFlags => { flags with listening := true }) hflags

private theorem mediaUvFreeProxy_calls (s : MediaProxyPriv) :
    ∃ frames, (∀ f ∈ frames, f.delivers = false) ∧ (mediaUvFreeProxy s).stack = frames ++ s.stack ∧
      (mediaUvFreeProxy s).flags = s.flags ∧
      ((mediaUvFreeProxy s).writings.pendq = s.writings.pendq ∨ (mediaUvFreeProxy s).writings.pendq = []) := by
  unfold mediaUvFreeProxy
  split
  · exact ⟨[], by simp, rfl, rfl, .inl rfl⟩
  · split
    · dsimp only
      split
      · exact ⟨[.user .onRelease, .freeProxy], by simp [UvFrame.delivers], rfl, rfl, .inr rfl⟩
      · exact ⟨[.freeProxy], by simp [UvFrame.delivers], rfl, rfl, .inr rfl⟩
    · exact ⟨[], by simp, rfl, rfl, .inl rfl⟩

private theorem mediaUvShutdown_calls (s : MediaProxyPriv) (o : Outcome) : Calls s (mediaUvShutdown s o) [] := by
  unfold mediaUvShutdown
  split
  · exact ⟨rfl, rfl, rfl⟩
  · split
    · exact ⟨rfl, rfl, rfl⟩
    · split <;> exact ⟨rfl, rfl, rfl⟩

private theorem mediaUvConnectOne_calls (c : UvConfig) (s : MediaProxyPriv) (o : Outcome) :
    ∃ flags, Calls { s with flags } (mediaUvConnectOne c s o).2 [] ∧
      (flags = s.flags ∧ (o.req = false ∨ o.pipe = false) ∨ flags = { s.flags with connecting := true }) := by
  unfold mediaUvConnectOne
  split_ifs with hreq hpipe
  · exact ⟨s.flags, ⟨rfl, rfl, rfl⟩, .inl ⟨rfl, .inl (by simpa using hreq)⟩⟩
  · exact ⟨s.flags, ⟨rfl, rfl, rfl⟩, .inl ⟨rfl, .inr (by simpa using hpipe)⟩⟩
  · refine ⟨_, ?_, .inr rfl⟩
    dsimp only
    split
    · exact ⟨rfl, rfl, rfl⟩
    · split <;> exact ⟨rfl, rfl, rfl⟩

private theorem closeCpipe_calls (s : MediaProxyPriv) : Calls s (closeCpipe s) [] := by
  unfold closeCpipe
  split <;> exact ⟨rfl, rfl, rfl⟩

private theorem mediaUvReconnectOne_calls (c : UvConfig) (s : MediaProxyPriv) (o : Outcome) :
    ∃ frames, (∀ f ∈ frames, f.delivers = false) ∧ (mediaUvReconnectOne c s o).stack = frames ++ s.stack ∧
      ((mediaUvReconnectOne c s o).writings.pendq = [] ∨
        (mediaUvReconnectOne c s o).writings.pendq = s.writings.pendq ∧
          ((mediaUvReconnectOne c s o).flags = s.flags ∧ s.cpus ≠ [] ∧ (o.req = false ∨ o.pipe = false) ∨
            (mediaUvReconnectOne c s o).flags ≠ 0)) := by
  unfold mediaUvReconnectOne
  split
  · exact ⟨[.user (.onConnect (-ENOENT))], by simp [UvFrame.delivers], rfl, .inl rfl⟩
  · rename_i cpu cpus hcpus
    obtain ⟨hstack, hflags, hpendq⟩ := closeCpipe_calls { s with cpu := some cpu, cpus }
    obtain ⟨flags, hcalls, hcases⟩ := mediaUvConnectOne_calls c (closeCpipe { s with cpu := some cpu, cpus }) o
    rw [hflags] at hcases
    have hend : (mediaUvConnectOne c (closeCpipe { s with cpu := some cpu, cpus }) o).2.flags = s.flags ∧
        s.cpus ≠ [] ∧ (o.req = false ∨ o.pipe = false) ∨
          (mediaUvConnectOne c (closeCpipe { s with cpu := some cpu, cpus }) o).2.flags ≠ 0 := by
      rw [hcalls.flags]
      rcases hcases with ⟨rfl, hfail⟩ | rfl
      · exact .inl ⟨rfl, by simp [hcpus], hfail⟩
      · refine .inr fun hzero => ?_
        cases congrArg ProxyFlags.connecting hzero
    generalize mediaUvConnectOne c (closeCpipe { s with cpu := some cpu, cpus }) o = r at hcalls hend ⊢
    dsimp only
    split
    · refine ⟨[.user (.onConnect r.1)], by simp [UvFrame.delivers], ?_, .inr ⟨hcalls.pendq.trans hpendq, hend⟩⟩
      exact push_stack (hcalls.stack.trans hstack)
    · exact ⟨[], by simp, hcalls.stack.trans hstack, .inr ⟨hcalls.pendq.trans hpendq, hend⟩⟩

/-! ### The steps -/

/-- Every message that is queued will be delivered. -/
abbrev Draining (s : MediaProxyPriv) : Prop := Drains s.flags s.writings.pendq s.stack

namespace Drains

private theorem calls {t : MediaProxyPriv} (h : Drains flags pendq stack) (hstack : Quiet stack)
    (ht : t.stack = frames ++ stack) (hframes : ∀ f ∈ frames, f.delivers = false)
    (hcalm : t.flags = 0 → t.writings.pendq ≠ [] → flags = 0 ∧ pendq ≠ []) : Draining t := by
  unfold Draining
  rw [ht]
  exact h.push _ hstack hframes hcalm

/-- A continuation that delivers is put on top, or nothing is left to deliver. -/
private theorem deliver (hchain : stack.IsChain StackedOn) (hstack : Quiet stack) (hf : f.delivers = true)
    (hloop : ∀ next, f = .deliveryLoop next → next = pendq.head?) : Drains flags pendq (f :: stack) := by
  refine ⟨List.isChain_cons.2 ⟨fun g hg hdelivers => ?_, hchain⟩, fun _ _ => ⟨f, by simp, hf⟩, fun next rest hrest => ?_⟩
  · exact absurd (hstack g hg) (by simp [hdelivers])
  · exact hloop next (List.cons.inj hrest).1

/-- `on_connect` or `on_listen` is called before a continuation that delivers. -/
private theorem inside {g : UvFrame} (h : Drains flags pendq (f :: stack)) (hloop : f.isLoop = false)
    (hg : g.isInside = true) : Drains flags pendq (g :: f :: stack) := by
  refine ⟨List.isChain_cons.2 ⟨fun f' hf' _ => ?_, h.chain⟩, fun hf hp => ?_, fun next rest hrest => ?_⟩
  · obtain rfl : f = f' := by simpa using hf'
    exact ⟨hg, hloop⟩
  · obtain ⟨f', hf', hdelivers⟩ := h.delivers hf hp
    exact ⟨f', List.mem_cons_of_mem _ hf', hdelivers⟩
  · obtain rfl : g = .deliveryLoop next := (List.cons.inj hrest).1
    cases hg

end Drains

theorem Draining.run (h : Draining s) (hs : s.stack = f :: stack) (hg : OrderKept s (.run, o)) :
    Draining (runFrame c { s with stack } o f) := by
  rw [Draining, hs] at h
  simp only [OrderKept, hs, List.head?_cons] at hg
  have hchain := (List.isChain_cons.1 h.chain).2
  cases f with
  | user callback => exact h.pop rfl
  | writeCb writing => exact h.pop rfl
  | close pipe => exact h.pop rfl
  | freeProxy => exact h.pop rfl
  | readStart =>
    have hpop := h.pop rfl
    simp only [runFrame]
    split <;> exact hpop
  | handleParcel writing pipe =>
    have hstack := h.settled rfl
    simp only [runFrame]
    split_ifs
    · obtain ⟨flags, frames, -, hframes, hcalls⟩ := mediaUvListenOne_calls c
        (MediaProxyPriv.push { s with
          stack
          writings := s.writings.setResponsed writing
          flags := { s.flags with connecting := false } } [.applyWritings pipe]) o
      unfold Draining
      rw [hcalls.stack, hcalls.flags, hcalls.pendq]
      have hdeliver : Drains flags s.writings.pendq (.applyWritings pipe :: stack) :=
        Drains.deliver hchain hstack rfl (by rintro _ ⟨⟩)
      rcases hframes with rfl | ⟨ret, rfl⟩
      · exact hdeliver
      · exact hdeliver.inside rfl rfl
    · exact Drains.deliver hchain hstack rfl (by rintro _ ⟨⟩)
    · exact h.pop rfl
  | applyWritings pipe =>
    have hstack := h.settled rfl
    simp only [runFrame]
    split_ifs with hdeliver
    · have hquit : (UvFrame.applyQuit pipe :: stack).IsChain StackedOn :=
        List.isChain_cons.2 ⟨fun g hg hdelivers => absurd (hstack g hg) (by simp [hdelivers]), hchain⟩
      exact Drains.deliver hquit (by simp [Quiet, UvFrame.delivers]) rfl (by rintro _ ⟨⟩)
    · -- one of the two flags is set
      have hset : s.flags ≠ 0 := by
        rintro hzero
        rw [hzero] at hdeliver
        exact hdeliver rfl
      have hquiet : Drains s.flags s.writings.pendq stack :=
        ⟨hchain, fun hzero => absurd hzero hset, fun next rest hrest =>
          absurd (hstack (.deliveryLoop next) (by simp [hrest])) (by simp [UvFrame.delivers])⟩
      exact hquiet.push [.applyQuit pipe] hstack (by simp [UvFrame.delivers]) fun hzero => absurd hzero hset
  | applyQuit pipe =>
    have hpop := h.pop rfl
    have hstack := h.settled rfl
    have hclose : Drains s.flags s.writings.pendq ([.close pipe] ++ stack) :=
      hpop.push [.close pipe] hstack (by simp [UvFrame.delivers]) fun hf hp => ⟨hf, hp⟩
    simp only [runFrame]
    split_ifs with hdisconnect hreconnect
    · exact Drains.deliver hclose.chain (by simp [Quiet, UvFrame.delivers]) rfl (by rintro _ ⟨⟩)
    · obtain ⟨frames, hframes, hcalls, hend⟩ := mediaUvReconnectOne_calls c
        (MediaProxyPriv.push { s with stack, flags := { s.flags with reconnect := false } } [.close pipe]) o
      refine hclose.calls (by simp [Quiet, UvFrame.delivers]) hcalls hframes fun hf hp => ?_
      rcases hend with hnone | ⟨hsame, ⟨hflags, hcpus, hfail⟩ | hset⟩
      · exact absurd hnone hp
      · rw [hsame] at hp
        rw [hflags] at hf
        rcases hg ⟨by simpa using hdisconnect, hreconnect, hcpus, hfail⟩ with hnone | hset
        · exact absurd hnone hp
        · exact absurd hf hset
      · exact absurd hf hset
    · exact hpop
  | deliveryWriting =>
    exact Drains.deliver hchain (h.settled rfl) rfl fun next hnext => (UvFrame.deliveryLoop.inj hnext).symm
  | deliveryLoop writing =>
    have hstack := h.settled rfl
    have hhead := h.loop writing stack rfl
    cases writing with
    | none =>
      have hempty : s.writings.pendq = [] := by simpa [eq_comm] using hhead
      refine ⟨hchain, fun _ hp => absurd hempty hp, fun next rest hrest => ?_⟩
      exact absurd (hstack (.deliveryLoop next) (by simp [show stack = _ from hrest])) (by simp [UvFrame.delivers])
    | some w =>
      obtain ⟨rest, hrest⟩ := List.head?_eq_some_iff.1 hhead.symm
      simp only [runFrame, mediaUvDeliveryLoop]
      rw [if_pos (by simp [hrest])]
      obtain ⟨frames, hcalls, -, hnone⟩ := mediaUvSendWriting_calls (MediaProxyPriv.push { s with
        stack
        writings := { s.writings with pendq := s.writings.pendq.erase w } }
        [.deliveryLoop (s.writings.pendq.dropWhile (· ≠ w)).tail.head?]) w o.write
      obtain rfl := hnone hg
      unfold Draining
      rw [hcalls.stack, hcalls.flags, hcalls.pendq]
      refine Drains.deliver hchain hstack rfl fun next hnext => ?_
      rw [← UvFrame.deliveryLoop.inj hnext]
      simp [hrest, MediaProxyPriv.push]
  | restoreFlags flags =>
    refine ⟨hchain, fun hf hp => ?_, fun next rest hrest => ?_⟩
    · obtain ⟨hzero, hsaved⟩ : s.flags = 0 ∧ flags = 0 := ProxyFlags.or_eq_zero.1 hf
      obtain ⟨g, hg, hdelivers⟩ := h.delivers hzero hp
      rcases List.mem_cons.1 hg with rfl | hg
      · simp [UvFrame.delivers, hsaved] at hdelivers
      · exact ⟨g, hg, hdelivers⟩
    · exact absurd (h.settled rfl (.deliveryLoop next) (by simp [show stack = _ from hrest]))
        (by simp [UvFrame.delivers])

/-- Apart from the continuations, everything is called from a callback of the user or from the loop. -/
theorem UvInput.userRuns_of_ready (h : i.ready s = true) (hi : i ≠ .run) : s.userRuns = true := by
  cases i with
  | run => exact absurd rfl hi
  | send | listen | reconnect | disconnect =>
    simp only [UvInput.ready, Bool.and_eq_true] at h
    exact h.1
  | connectCb | writeCb | parcel | readErr | listenCb | shutdownCb | closeCb =>
    simp only [UvInput.ready, Bool.and_eq_true, List.isEmpty_iff] at h
    simp [MediaProxyPriv.userRuns, h.1]

theorem quiet_of_userRuns (h : s.userRuns = true) : Quiet s.stack := by
  intro f hf
  rw [MediaProxyPriv.userRuns, Option.mem_def.1 hf] at h
  cases f with
  | user => rfl
  | _ => cases h

private theorem Draining.send (h : Draining s) (hquiet : Quiet s.stack) (ack : Bool) :
    Draining (uvStep c s o (.send ack)) := by
  simp only [uvStep, mediaUvSend]
  split_ifs
  · exact h
  · exact h
  · exact h
  · unfold mediaUvQueueWriting
    split_ifs with hflags
    · dsimp only
      generalize hw : (mediaUvAllocWriting s (sendCode ack)).1 = w
      obtain ⟨frames, hcalls, hframes, -⟩ := mediaUvSendWriting_calls
        { (mediaUvAllocWriting s (sendCode ack)).2 with
          writings := (mediaUvAllocWriting s (sendCode ack)).2.writings.accept w o.write } w o.write
      refine h.calls hquiet hcalls.stack hframes fun hf hp => ?_
      rw [hcalls.flags] at hf
      rw [hcalls.pendq, Writings.accept_pendq] at hp
      exact ⟨hf, hp⟩
    · refine ⟨h.chain, fun hf => absurd hf hflags, fun next rest hrest => ?_⟩
      exact absurd (hquiet (.deliveryLoop next) (by simp [show s.stack = _ from hrest])) (by simp [UvFrame.delivers])

private theorem Draining.listen (h : Draining s) (hquiet : Quiet s.stack) (onListen : Bool) :
    Draining (uvStep c s o (.listen onListen)) := by
  simp only [uvStep, mediaUvListen]
  split_ifs with hcan hflags
  · exact h
  · obtain ⟨flags, frames, hflags', hframes, hcalls⟩ := mediaUvListenOne_calls c { s with onListen } o
    refine h.calls hquiet hcalls.stack ?_ fun hf hp => ?_
    · rcases hframes with rfl | ⟨ret, rfl⟩
      · simp
      · simp [UvFrame.delivers]
    · rw [hcalls.flags] at hf
      rw [hcalls.pendq] at hp
      exact ⟨hflags, hp⟩
  · exact h.push [] hquiet (by simp) fun hf => by cases congrArg ProxyFlags.listening hf

private theorem Draining.reconnect (h : Draining s) (hquiet : Quiet s.stack) : Draining (uvStep c s o .reconnect) := by
  simp only [uvStep, mediaUvReconnect]
  split_ifs with hepipe hflags
  · exact h
  · obtain ⟨frames, hframes, hcalls, hend⟩ := mediaUvReconnectOne_calls c s o
    refine h.calls hquiet hcalls hframes fun hf hp => ?_
    rcases hend with hnone | ⟨hsame, -⟩
    · exact absurd hnone hp
    · exact ⟨hflags, hsame ▸ hp⟩
  · exact h.push [] hquiet (by simp) fun hf => by cases congrArg ProxyFlags.reconnect hf

private theorem Draining.disconnect (h : Draining s) (hquiet : Quiet s.stack) (onRelease : Bool) :
    Draining (uvStep c s o (.disconnect onRelease)) := by
  have hfree : ∀ t : MediaProxyPriv, t.stack = s.stack →
      Draining (mediaUvFreeProxy { t with flags := { t.flags with disconnect := true } }) := by
    intro t ht
    obtain ⟨frames, hframes, hstack, hflags, -⟩ :=
      mediaUvFreeProxy_calls { t with flags := { t.flags with disconnect := true } }
    refine h.calls hquiet (hstack.trans (by rw [← ht])) hframes fun hf => ?_
    rw [hflags] at hf
    cases congrArg ProxyFlags.disconnect hf
  simp only [uvStep, mediaUvDisconnect]
  split_ifs
  · exact h
  · exact hfree _ (mediaUvShutdown_calls { s with onRelease } o).stack
  · exact hfree _ rfl

private theorem Draining.connectCb (h : Draining s) (hquiet : Quiet s.stack) (hstack : s.stack = []) (pipe : Nat)
    (status : Int) : Draining (uvStep c s o (.connectCb pipe status)) := by
  have hfail : ∀ (t : MediaProxyPriv) ret, t.stack = s.stack → t.flags = s.flags → t.writings = s.writings →
      Draining (t.push [.user (.onConnect ret), .close pipe]) := by
    intro t ret ht hflags hw
    refine h.calls hquiet (push_stack ht) (by simp [UvFrame.delivers]) fun hf hp => ⟨hflags ▸ hf, hw ▸ hp⟩
  have hconnected : ∀ (t : MediaProxyPriv) ret, t.stack = s.stack → t.flags = 0 → t.writings = s.writings →
      Draining (t.push [.user (.onConnect ret), .restoreFlags s.flags]) := by
    intro t ret ht hflags hw
    unfold Draining
    rw [push_stack (ht.trans hstack)]
    have hrestore : Drains 0 s.writings.pendq [.restoreFlags s.flags] := by
      refine ⟨by simp, fun _ hp => ⟨.restoreFlags s.flags, by simp, ?_⟩, (by rintro _ _ ⟨⟩)⟩
      -- nothing was queued if no flag was set
      have hset : s.flags ≠ 0 := by
        intro hzero
        obtain ⟨f, hf, -⟩ := h.delivers hzero hp
        rw [hstack] at hf
        simp at hf
      simpa [UvFrame.delivers] using hset
    have hinside := hrestore.inside (g := .user (.onConnect ret)) rfl rfl
    rwa [← hflags, ← hw] at hinside
  simp only [uvStep, mediaUvConnectOneCb]
  split_ifs with hdisconnect hneg hneg
  · exact hfail _ _ rfl rfl rfl
  · exact absurd (show -ECANCELED < 0 by decide) hneg
  · exact hfail _ _ rfl rfl rfl
  · exact hconnected _ _ rfl rfl rfl

private theorem Draining.parcel (h : Draining s) (hquiet : Quiet s.stack) (pipe : Nat) (parcel : Nat) :
    Draining (uvStep c s o (.parcel pipe parcel)) := by
  simp only [uvStep, mediaUvHandleParcel]
  split
  · exact h.push [.user (.onEvent parcel)] hquiet (by simp [UvFrame.delivers]) fun hf hp => ⟨hf, hp⟩
  · split
    · exact h
    · rename_i w rest hsentq
      exact h.push [.user (.onReceive w (some parcel)), .handleParcel w pipe] hquiet
        (by simp [UvFrame.delivers]) fun hf hp => ⟨hf, hp⟩

/-- A round of listening that fails leaves nothing queued, or a flag is still set. -/
private theorem Draining.listenCb (h : Draining s) (hquiet : Quiet s.stack) (hstack : s.stack = []) (pipe : Nat)
    (status : Int) (hg : OrderKept s (.listenCb pipe status, o)) : Draining (uvStep c s o (.listenCb pipe status)) := by
  have hfail : ∀ (t : MediaProxyPriv) ret, ListenFails s status o → t.stack = s.stack →
      t.flags = { s.flags with listening := false } → t.writings = s.writings →
      Draining (t.push (listenFrames t ret [])) := by
    intro t ret hfails ht hflags hw
    refine h.calls hquiet (push_stack ht) ?_ fun hf hp => ?_
    · rcases listenFrames_eq t ret with hframes | hframes <;> simp [hframes, UvFrame.delivers]
    · rcases hg hfails with hnone | hset
      · exact absurd (hw ▸ hnone) hp
      · exact absurd (hflags ▸ hf) hset
  have haccepted : ∀ (t : MediaProxyPriv) ret, t.stack = s.stack →
      Draining (t.push (listenFrames t ret [.deliveryWriting, .readStart])) := by
    intro t ret ht
    unfold Draining
    rw [push_stack (ht.trans hstack)]
    have hread : [UvFrame.readStart].IsChain StackedOn := by simp
    have hdeliver : Drains t.flags t.writings.pendq [.deliveryWriting, .readStart] :=
      Drains.deliver hread (by simp [Quiet, UvFrame.delivers]) rfl (by rintro _ ⟨⟩)
    unfold listenFrames
    split
    · exact hdeliver.inside rfl rfl
    · exact hdeliver
  simp only [uvStep, mediaUvListenOneCb, callOnListen_eq]
  split_ifs with hstatus hdisconnect hpipe haccept
  · exact hfail _ _ (.inl hstatus) rfl rfl rfl
  · exact hfail _ _ (.inr (.inl hdisconnect)) rfl rfl rfl
  · exact hfail _ _ (.inr (.inr (.inl (by simpa using hpipe)))) rfl rfl rfl
  · exact hfail _ _ (.inr (.inr (.inr haccept))) rfl rfl rfl
  · exact haccepted _ _ rfl

private theorem Draining.closeCb (h : Draining s) (hquiet : Quiet s.stack) (pipe : Nat) :
    Draining (uvStep c s o (.closeCb pipe)) := by
  have hfree : ∀ t : MediaProxyPriv, t.stack = s.stack → t.flags = s.flags → t.writings = s.writings →
      Draining (mediaUvFreeProxy t) := by
    intro t ht hflags hw
    obtain ⟨frames, hframes, hstack, hflags', hpendq⟩ := mediaUvFreeProxy_calls t
    refine h.calls hquiet (hstack.trans (by rw [ht])) hframes fun hf hp => ?_
    rcases hpendq with hpendq | hnone
    · exact ⟨hflags ▸ hflags' ▸ hf, hw ▸ hpendq ▸ hp⟩
    · exact absurd hnone hp
  simp only [uvStep, mediaUvCloseCb]
  split_ifs <;> exact hfree _ rfl rfl rfl

/-- A step other than a continuation that meets the condition. -/
theorem Draining.call (h : Draining s) (hready : i.ready s = true) (hi : i ≠ .run) (hg : OrderKept s (i, o)) :
    Draining (uvStep c s o i) := by
  have hquiet := quiet_of_userRuns (UvInput.userRuns_of_ready hready hi)
  cases i with
  | run => exact absurd rfl hi
  | send ack => exact h.send hquiet ack
  | listen onListen => exact h.listen hquiet onListen
  | reconnect => exact h.reconnect hquiet
  | disconnect onRelease => exact h.disconnect hquiet onRelease
  | connectCb pipe status =>
    simp only [UvInput.ready, Bool.and_eq_true, List.isEmpty_iff] at hready
    exact h.connectCb hquiet hready.1 pipe status
  | writeCb pipe writing status =>
    obtain ⟨frames, hcalls, hframes, -⟩ := mediaUvWriteCb_calls
      (s.modifyPipe pipe fun p => { p with writes := p.writes.erase writing }) writing status
    refine h.calls hquiet hcalls.stack hframes fun hf hp => ?_
    exact ⟨hcalls.flags ▸ hf, hcalls.pendq ▸ hp⟩
  | parcel pipe parcel => exact h.parcel hquiet pipe parcel
  | readErr pipe => exact h
  | listenCb pipe status =>
    simp only [UvInput.ready, Bool.and_eq_true, List.isEmpty_iff] at hready
    exact h.listenCb hquiet hready.1 pipe status hg
  | shutdownCb pipe => exact h
  | closeCb pipe => exact h.closeCb hquiet pipe

/-! ### The order -/

/-- The message was accepted, and outside of `on_connect` and `on_listen`. -/
def Writings.counted (q : Writings) (w : MediaWritePriv) : Bool := w.outside && decide (w ∈ q.accepted)

/-- What was handed over, followed by what is queued, is in the order of acceptance. -/
structure Writings.Ordered (q : Writings) : Prop where
  fresh : ∀ w ∈ q.handed ++ q.pendq ++ q.accepted, w.id < q.nextId
  order : ((q.handed ++ q.pendq).filter q.counted).Sublist q.accepted

namespace Writings.Ordered

variable {q q' : Writings}

/-- A step that leaves the order alone. -/
private theorem keep (h : q.Ordered) (hhanded : q'.handed ++ q'.pendq = q.handed ++ q.pendq)
    (haccepted : q'.accepted = q.accepted) (hnext : q'.nextId = q.nextId) : q'.Ordered := by
  refine ⟨?_, ?_⟩
  · rw [hhanded, haccepted, hnext]
    exact h.fresh
  · rw [hhanded, show q'.counted = q.counted by unfold Writings.counted; rw [haccepted], haccepted]
    exact h.order

/-- A writing that does not count is handed over. -/
private theorem uncounted (h : q.Ordered) (hw : w.id = q.nextId) (hhanded : q'.handed = q.handed ++ [w])
    (hpendq : q'.pendq = q.pendq) (hnext : q'.nextId = q.nextId + 1)
    (haccepted : q'.accepted = q.accepted ∨ q'.accepted = q.accepted ++ [w] ∧ w.outside = false) : q'.Ordered := by
  have hnew : w ∉ q.accepted := fun hm => by
    have := h.fresh w (List.mem_append_right _ hm)
    omega
  have hcounted : ∀ v ∈ q.handed ++ q.pendq, q'.counted v = q.counted v := by
    intro v hv
    have hne : v ≠ w := by
      rintro rfl
      have := h.fresh v (List.mem_append_left _ hv)
      omega
    unfold Writings.counted
    rcases haccepted with haccepted | ⟨haccepted, -⟩ <;> simp [haccepted, hne]
  have hout : q'.counted w = false := by
    unfold Writings.counted
    rcases haccepted with haccepted | ⟨-, hinside⟩
    · simp [haccepted, hnew]
    · simp [hinside]
  refine ⟨fun v hv => ?_, ?_⟩
  · have hv' : v ∈ q.handed ++ q.pendq ++ q.accepted ∨ v = w := by
      rcases haccepted with haccepted | ⟨haccepted, -⟩ <;>
        (simp only [hhanded, hpendq, haccepted, List.mem_append, List.mem_singleton] at hv ⊢; tauto)
    rw [hnext]
    rcases hv' with hv' | rfl
    · exact Nat.lt_succ_of_lt (h.fresh v hv')
    · omega
  · have hfilter : (q'.handed ++ q'.pendq).filter q'.counted = (q.handed ++ q.pendq).filter q.counted := by
      rw [← List.filter_congr hcounted, hhanded, hpendq]
      simp [hout]
    rw [hfilter]
    rcases haccepted with haccepted | ⟨haccepted, -⟩ <;> rw [haccepted]
    · exact h.order
    · exact h.order.trans (List.sublist_append_left ..)

/-- A message is accepted after everything that was handed over or is queued. -/
private theorem accepted (h : q.Ordered) (hw : w.id = q.nextId)
    (hhanded : q'.handed ++ q'.pendq = q.handed ++ q.pendq ++ [w]) (hnext : q'.nextId = q.nextId + 1)
    (haccepted : q'.accepted = q.accepted ++ [w]) : q'.Ordered := by
  have hcounted : ∀ v ∈ q.handed ++ q.pendq, q'.counted v = q.counted v := by
    intro v hv
    have hne : v ≠ w := by
      rintro rfl
      have := h.fresh v (List.mem_append_left _ hv)
      omega
    simp [Writings.counted, haccepted, hne]
  refine ⟨fun v hv => ?_, ?_⟩
  · have hv' : v ∈ q.handed ++ q.pendq ++ q.accepted ∨ v = w := by
      rw [hhanded, haccepted] at hv
      simp only [List.mem_append, List.mem_singleton] at hv ⊢
      tauto
    rw [hnext]
    rcases hv' with hv' | rfl
    · exact Nat.lt_succ_of_lt (h.fresh v hv')
    · omega
  · rw [hhanded, haccepted, List.filter_append, List.filter_congr hcounted]
    exact h.order.append List.filter_sublist

theorem step (h : s.writings.Ordered) (hdraining : Draining s) (hready : i.ready s = true) (hg : OrderKept s (i, o))
    (hq : WritingsStep s o i q) : q.Ordered := by
  cases hq with
  | mark => exact h.keep rfl rfl rfl
  | pend ack hcpu hdisconnect hflags =>
    exact h.accepted (w := newWriting s ack) rfl (by simp [Writings.pend, Writings.accept, Writings.next]) rfl rfl
  | send ack hcpu hwriting hflags =>
    obtain ⟨hhanded, hpendq, haccepted, hnext⟩ :=
      (s.writings.next.accept (newWriting s ack) o.write).write_kept (newWriting s ack) o.write
    have hbase : (s.writings.next.accept (newWriting s ack) o.write).handed = s.writings.handed ∧
        (s.writings.next.accept (newWriting s ack) o.write).pendq = s.writings.pendq ∧
        (s.writings.next.accept (newWriting s ack) o.write).nextId = s.writings.nextId + 1 := by
      unfold Writings.accept
      split <;> exact ⟨rfl, rfl, rfl⟩
    rw [hbase.1] at hhanded
    rw [hbase.2.1] at hpendq
    rw [hbase.2.2] at hnext
    by_cases hret : 0 ≤ o.write
    · have hnew : (s.writings.next.accept (newWriting s ack) o.write).accepted =
          s.writings.accepted ++ [newWriting s ack] := by
        rw [Writings.accept, if_pos hret]
        rfl
      rw [hnew] at haccepted
      cases houtside : (newWriting s ack).outside with
      | false => exact h.uncounted (w := newWriting s ack) rfl hhanded hpendq hnext (.inr ⟨haccepted, houtside⟩)
      | true =>
        -- outside of the callbacks nothing is queued when no flag is set
        have hinside : s.stack.any UvFrame.isInside = false := by
          have : s.stack.any UvFrame.isConnect = false ∧ s.stack.any UvFrame.isListen = false := by
            simpa [MediaWritePriv.outside, newWriting, mediaUvAllocWriting] using houtside
          simp only [List.any_eq_false] at this ⊢
          intro f hf
          simp [UvFrame.isInside, this.1 f hf, this.2 f hf]
        have hempty := hdraining.empty (UvInput.userRuns_of_ready hready (by rintro ⟨⟩)) hinside hflags
        exact h.accepted (w := newWriting s ack) rfl (by rw [hhanded, hpendq, hempty]; simp) hnext haccepted
    · have hnew : (s.writings.next.accept (newWriting s ack) o.write).accepted = s.writings.accepted := by
        rw [Writings.accept, if_neg hret]
        rfl
      exact h.uncounted (w := newWriting s ack) rfl hhanded hpendq hnext (.inl (haccepted.trans hnew))
  | notify i w responsed hcpu hid hcode =>
    obtain ⟨hhanded, hpendq, haccepted, hnext⟩ :=
      ({ s.writings with responsed } : Writings).next.write_kept w o.write
    exact h.uncounted hid hhanded hpendq hnext (.inl haccepted)
  | clear i hclears =>
    have hsub : (s.writings.clear.handed ++ s.writings.clear.pendq).Sublist
        (s.writings.handed ++ s.writings.pendq) := by simp [Writings.clear]
    refine ⟨fun v hv => h.fresh v ?_, (hsub.filter _).trans h.order⟩
    rcases List.mem_append.1 hv with hv | hv
    · exact List.mem_append_left _ (hsub.subset hv)
    · exact List.mem_append_right _ hv
  | deliver w hs hw =>
    obtain ⟨hhanded, hpendq, haccepted, hnext⟩ :=
      ({ s.writings with pendq := s.writings.pendq.erase w } : Writings).write_kept w o.write
    obtain ⟨stack, hstack⟩ := List.head?_eq_some_iff.1 hs
    obtain ⟨rest, hrest⟩ := List.head?_eq_some_iff.1 (hdraining.loop (some w) stack hstack).symm
    refine h.keep ?_ haccepted hnext
    rw [hhanded, hpendq]
    simp [hrest]
  | cancel pipe w status hstatus hcode => exact h.keep rfl rfl rfl
  | answer pipe parcel w hepipe hw => exact h.keep rfl rfl rfl

end Writings.Ordered

/-! ### The runs -/

/-- What every step that meets the condition keeps. -/
structure UvOrder (s : MediaProxyPriv) : Prop where
  draining : Draining s
  ordered : s.writings.Ordered

theorem UvOrder.keepsOrder (h : UvOrder s) : KeepsOrder s where
  order := h.ordered.order
  delivered hstack hflags := h.draining.empty (by simp [hstack]) (by simp [hstack]) hflags

theorem UvOrder.next (h : UvOrder s) (hg : OrderKept s (i, o)) (hn : uvNext c s (i, o) = some s') : UvOrder s' := by
  obtain ⟨hready, ⟨fault, rfl⟩ | ⟨rfl, hfault⟩⟩ := uvNext_cases hn
  · exact ⟨h.draining, h.ordered⟩
  · refine ⟨?_, h.ordered.step h.draining hready hg (uvStep_writings hfault)⟩
    by_cases hi : i = .run
    · subst hi
      simp only [uvStep] at hfault ⊢
      split at hfault
      · exact h.draining
      · rename_i f stack hs
        split_ifs at hfault ⊢
        · cases hfault
        · exact h.draining.run hs hg
    · exact h.draining.call hready hi hg

theorem uvOrder_start (c : UvConfig) (cpu : String) (cpus : List String) :
    UvOrder (mediaUvConnect c cpu cpus {}) := by
  have hwritings := mediaUvConnectOne_writings c { cpu := some cpu, cpus } {}
  obtain ⟨flags, hcalls, -⟩ := mediaUvConnectOne_calls c { cpu := some cpu, cpus } {}
  unfold mediaUvConnect
  refine ⟨?_, ?_⟩
  · unfold Draining
    rw [hcalls.stack, hwritings]
    exact ⟨.nil, fun _ hp => absurd rfl hp, nofun⟩
  · rw [hwritings]
    exact ⟨nofun, List.Sublist.slnil⟩

/-- In every run in which `uv_write` takes the queued requests and no failure of the listener or of a reconnection
leaves messages behind, messages keep their order and are delivered. -/
theorem uvRun_keepsOrder {cpu : String} {cpus : List String}
    (h : (uvMachine c cpu cpus).ReachableVia OrderKept s) : KeepsOrder s := by
  have horder : UvOrder s := by
    refine h.invariant (uvOrder_start c cpu cpus) ?_
    rintro s ⟨i, o⟩ s' hs hg hn
    exact hs.next hg hn
  exact horder.keepsOrder

/-! ### A run that meets the condition, and one that does not -/

/-- The condition on the continuation that runs next. -/
instance (s : MediaProxyPriv) (o : Outcome) : (frame : Option UvFrame) → Decidable
    (match frame with
      | some (.deliveryLoop (some w)) => w.code = MEDIA_PARCEL_SEND_ACK → 0 ≤ o.write
      | some (.applyQuit _) =>
        s.flags.disconnect = false ∧ s.flags.reconnect = true ∧ s.cpus ≠ [] ∧ (o.req = false ∨ o.pipe = false) →
          s.writings.pendq = [] ∨ ({ s.flags with reconnect := false } : ProxyFlags) ≠ 0
      | _ => True)
  | some (.deliveryLoop (some _)) => inferInstanceAs (Decidable (_ → _))
  | some (.applyQuit _) => inferInstanceAs (Decidable (_ ∧ _ ∧ _ ∧ _ → _ ∨ _))
  | some (.deliveryLoop none) | some (.user _) | some (.writeCb _) | some (.handleParcel _ _)
  | some (.applyWritings _) | some .deliveryWriting | some (.close _) | some (.restoreFlags _) | some .readStart
  | some .freeProxy | none => inferInstanceAs (Decidable True)

instance (s : MediaProxyPriv) : (i : UvInput × Outcome) → Decidable (OrderKept s i)
  | (.run, o) => inferInstanceAs (Decidable (match s.stack.head? with
      | some (.deliveryLoop (some w)) => w.code = MEDIA_PARCEL_SEND_ACK → 0 ≤ o.write
      | some (.applyQuit _) =>
        s.flags.disconnect = false ∧ s.flags.reconnect = true ∧ s.cpus ≠ [] ∧ (o.req = false ∨ o.pipe = false) →
          s.writings.pendq = [] ∨ ({ s.flags with reconnect := false } : ProxyFlags) ≠ 0
      | _ => True))
  | (.listenCb _ _, _) => inferInstanceAs (Decidable (_ → _ ∨ _))
  | (.send _, _) | (.listen _, _) | (.reconnect, _) | (.disconnect _, _) | (.connectCb _ _, _) | (.writeCb _ _ _, _)
  | (.parcel _ _, _) | (.readErr _, _) | (.shutdownCb _, _) | (.closeCb _, _) => inferInstanceAs (Decidable True)

instance (s : MediaProxyPriv) : Decidable (KeepsOrder s) :=
  decidable_of_iff (_ ∧ _) ⟨fun h => ⟨h.1, h.2⟩, fun h => ⟨h.1, h.2⟩⟩

/-- Two messages are queued while the listener is made, and a third one is sent when they have been delivered. -/
def sampleUvQueuedRun : MediaProxyPriv :=
  (sampleUvRunFrom OrderKept []
    (sampleUvConnected ++ [UvInput.listen true, .send true, .send false, .listenCb 1 0] ++ sampleUvSteps 6 ++
      [UvInput.send true])).get (by decide)

theorem uvRun_keepsOrder_sample : KeepsOrder sampleUvQueuedRun := by
  have h : (uvMachine sampleUvConfig "ap" []).ReachableVia OrderKept sampleUvQueuedRun :=
    Machine.reachableVia_get (by decide)
  exact uvRun_keepsOrder h

/-- A message is queued while the listener is made, which fails. -/
def sampleUvStrandedRun : MediaProxyPriv :=
  (sampleUvRunFrom (fun _ _ => True) []
    (sampleUvConnected ++ [UvInput.listen true, .send true, .listenCb 1 (-12)] ++ sampleUvSteps 1)).get (by decide)

/-- Without the condition a message can be left in the queue. -/
theorem uvRun_not_keepsOrder : ¬ ∀ (c : UvConfig) (cpu : String) (cpus : List String) (s : MediaProxyPriv),
    (uvMachine c cpu cpus).Reachable s → KeepsOrder s := by
  intro h
  have hkeeps := h sampleUvConfig "ap" [] sampleUvStrandedRun (Machine.reachableVia_get (by decide))
  revert hkeeps
  decide

end MediaFramework
