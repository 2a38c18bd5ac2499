import MediaFramework.Client.UvRequests

/-!
# The command pipe is there when it is used

`media_uv_close_cb` and a reconnection without memory set `proxy->cpipe` to NULL, while the code decides by the flags
whether it writes to the pipe or shuts it down.  A client whose server has closed the connection has no flag set, and
its next call uses the pipe that is gone.  Everything the code does by itself is safe, apart from the messages and the
listening that it has put off.
-/

namespace MediaFramework

variable {c : UvConfig} {s s' t : MediaProxyPriv} {o : Outcome} {i : UvInput} {w : MediaWritePriv} {f : UvFrame}
  {stack frames : List UvFrame}

/-- `media_uv_delivery_writing` has a further message to send. -/
def UvFrame.hasNext : UvFrame → Bool
  | .deliveryLoop (some _) => true
  | _ => false

/-- `media_uv_listen_one` gets as far as writing `MEDIA_PARCEL_CREATE_NOTIFY`. -/
def SendsNotify (c : UvConfig) (s : MediaProxyPriv) (o : Outcome) : Prop :=
  o.pipe = true ∧ o.writing = true ∧ 0 ≤ o.listen ∧ ∃ cpu ∈ s.cpu, 0 ≤ bindServer c cpu o

/-- The condition on a step: the command pipe is there whenever the client sends, listens or disconnects with no flag
set, when queued messages begin to be delivered, and when the proxy listens because the client asked for it before
the first reply; and no reconnection in the middle of a delivery fails to allocate its pipe. -/
def CommandKept (c : UvConfig) (s : MediaProxyPriv) (i : UvInput × Outcome) : Prop :=
  match i.1 with
  | .send _ => s.flags = 0 ∧ s.cpu ≠ none ∧ i.2.writing = true → s.cpipe ≠ none
  | .listen _ => s.flags = 0 ∧ s.epipe = none ∧ SendsNotify c s i.2 → s.cpipe ≠ none
  | .disconnect _ => s.flags = 0 → s.cpipe ≠ none
  | .reconnect =>
    s.flags = 0 ∧ s.epipe = none ∧ s.cpus ≠ [] ∧ i.2.req = true ∧ i.2.pipe = false →
      ∀ f ∈ s.stack, f.hasNext = false
  | .run =>
    match s.stack.head? with
    | some .deliveryWriting => s.writings.pendq ≠ [] → s.cpipe ≠ none
    | some (.handleParcel _ _) =>
      s.flags = { connecting := true, listening := true } ∧ SendsNotify c s i.2 → s.cpipe ≠ none
    | _ => True
  | _ => True

/-! ### The stack -/

/-- A callback of the user or of libuv, or a continuation that may stand above any other. -/
def UvFrame.isCall : UvFrame → Bool
  | .user _ | .writeCb _ | .close _ | .freeProxy => true
  | _ => false

/-- What is left of a callback of libuv. -/
inductive CallbackRest : List UvFrame → Prop
  | done : CallbackRest []
  | connect (flags : ProxyFlags) : CallbackRest [.restoreFlags flags]
  | parcel (w : MediaWritePriv) (pipe : Nat) : CallbackRest [.handleParcel w pipe]
  | apply (pipe : Nat) : CallbackRest [.applyWritings pipe]
  | quit (pipe : Nat) : CallbackRest [.applyQuit pipe]
  | read : CallbackRest [.readStart]
  | deliver {rest : List UvFrame} : CallbackRest rest → CallbackRest (.deliveryWriting :: rest)
  | loop {rest : List UvFrame} (next : Option MediaWritePriv) :
      CallbackRest rest → CallbackRest (.deliveryLoop next :: rest)
  | close (pipe : Nat) : CallbackRest [.close pipe]

/-- The calls on top of what is left of a callback. -/
def Stacked (stack : List UvFrame) : Prop :=
  ∃ calls rest, stack = calls ++ rest ∧ (∀ f ∈ calls, f.isCall = true) ∧ CallbackRest rest

namespace Stacked

theorem of_rest (h : CallbackRest stack) : Stacked stack := ⟨[], stack, rfl, by simp, h⟩

theorem push (h : Stacked stack) (hframes : ∀ f ∈ frames, f.isCall = true) : Stacked (frames ++ stack) := by
  obtain ⟨calls, rest, rfl, hcalls, hrest⟩ := h
  refine ⟨frames ++ calls, rest, by rw [List.append_assoc], fun f hf => ?_, hrest⟩
  exact (List.mem_append.1 hf).elim (hframes f) (hcalls f)

/-- Either a call is on top, or the callback goes on. -/
theorem top (h : Stacked (f :: stack)) : f.isCall = true ∧ Stacked stack ∨ CallbackRest (f :: stack) := by
  obtain ⟨calls, rest, heq, hcalls, hrest⟩ := h
  cases calls with
  | nil =>
    rw [List.nil_append] at heq
    exact .inr (heq ▸ hrest)
  | cons g calls =>
    obtain ⟨rfl, rfl⟩ := List.cons.inj heq
    exact .inl ⟨hcalls f (by simp), calls, rest, rfl, fun g hg => hcalls g (by simp [hg]), hrest⟩

end Stacked

/-! ### What the functions do with the pipes -/

/-- The function puts `frames` on the stack, keeps the pipes and does not go wrong with a pipe. -/
structure KeepsPipes (s t : MediaProxyPriv) (frames : List UvFrame) : Prop where
  stack : t.stack = frames ++ s.stack
  calls : ∀ f ∈ frames, f.isCall = true
  cpipe : t.cpipe = s.cpipe
  epipe : t.epipe = s.epipe
  safe : s.fault ≠ some .nullPipe → t.fault ≠ some .nullPipe

namespace KeepsPipes

theorem same (hstack : t.stack = s.stack) (hcpipe : t.cpipe = s.cpipe) (hepipe : t.epipe = s.epipe)
    (hfault : t.fault = s.fault) : KeepsPipes s t [] :=
  ⟨hstack, by simp, hcpipe, hepipe, fun h => hfault ▸ h⟩

theorem push (h : KeepsPipes s t frames) {frames' : List UvFrame} (hcalls : ∀ f ∈ frames', f.isCall = true) :
    KeepsPipes s (t.push frames') (frames' ++ frames) where
  stack := by rw [List.append_assoc, ← h.stack]; rfl
  calls f hf := (List.mem_append.1 hf).elim (hcalls f) (h.calls f)
  cpipe := h.cpipe
  epipe := h.epipe
  safe := h.safe

private theorem writeCb (s : MediaProxyPriv) (w : MediaWritePriv) (ret : Int) :
    ∃ frames, KeepsPipes s (mediaUvWriteCb s w ret) frames := by
  unfold mediaUvWriteCb
  split
  · exact ⟨[], rfl, by simp, rfl, rfl, fun _ => by simp [MediaProxyPriv.crash]⟩
  · split
    · exact ⟨[.user (.onReceive w none), .writeCb w], rfl, by simp [UvFrame.isCall], rfl, rfl, id⟩
    · exact ⟨[], same rfl rfl rfl rfl⟩

private theorem sendWriting (hcpipe : s.cpipe ≠ none) (w : MediaWritePriv) (ret : Int) :
    ∃ frames, KeepsPipes s (mediaUvSendWriting s w ret) frames := by
  unfold mediaUvSendWriting
  split
  · rename_i hnone
    exact absurd hnone hcpipe
  · dsimp only
    split
    · obtain ⟨frames, hstack, hcalls, hc, he, hsafe⟩ := writeCb { s with writings := s.writings.hand w } w ret
      exact ⟨frames, hstack, hcalls, hc, he, hsafe⟩
    · exact ⟨[], same rfl rfl rfl rfl⟩

private theorem createNotify (hcpipe : o.writing = true → s.cpipe ≠ none) :
    ∃ frames, KeepsPipes s (mediaUvCreateNotify s o).2 frames := by
  unfold mediaUvCreateNotify
  split
  · exact ⟨[], same rfl rfl rfl rfl⟩
  · rename_i hwriting
    obtain ⟨frames, hstack, hcalls, hc, he, hsafe⟩ :=
      sendWriting (s := (mediaUvAllocWriting s MEDIA_PARCEL_CREATE_NOTIFY).2) (hcpipe (by simpa using hwriting))
        (mediaUvAllocWriting s MEDIA_PARCEL_CREATE_NOTIFY).1 o.write
    exact ⟨frames, hstack, hcalls, hc, he, hsafe⟩

private theorem listenFrames_calls (s : MediaProxyPriv) (ret : Int) :
    ∀ f ∈ listenFrames s ret [], f.isCall = true := by
  unfold listenFrames
  split <;> simp [UvFrame.isCall]

/-- Listening replaces the event pipe only. -/
private theorem listenOne (hcpipe : SendsNotify c s o → s.cpipe ≠ none) :
    ∃ epipe frames, KeepsPipes { s with epipe } (mediaUvListenOne c s o).2 frames := by
  unfold mediaUvListenOne
  simp only [callOnListen_eq]
  split
  · exact ⟨none, _, rfl, listenFrames_calls _ _, rfl, rfl, id⟩
  · rename_i hpipe
    split
    · exact ⟨some s.pipes.length, [], rfl, by simp, rfl, rfl, fun _ => by simp [MediaProxyPriv.crash]⟩
    · rename_i cpu hcpu
      split_ifs with hbind hlisten
      · exact ⟨some s.pipes.length, _, rfl, listenFrames_calls _ _, rfl, rfl, id⟩
      · exact ⟨some s.pipes.length, _, rfl, listenFrames_calls _ _, rfl, rfl, id⟩
      all_goals
        obtain ⟨frames, hstack, hcalls, hc, he, hsafe⟩ := createNotify (o := o)
          (s := MediaProxyPriv.modifyPipe { s with
            epipe := some s.pipes.length, pipes := s.pipes ++ [mediaUvAllocPipe] } s.pipes.length
              fun p => { p with listening := true })
          fun hwriting => hcpipe ⟨by simpa using hpipe, hwriting, by omega, cpu, hcpu, by omega⟩
      · have hkept : KeepsPipes { s with epipe := some s.pipes.length } (mediaUvClose (mediaUvCreateNotify
            (MediaProxyPriv.modifyPipe { s with
              epipe := some s.pipes.length, pipes := s.pipes ++ [mediaUvAllocPipe] } s.pipes.length
                fun p => { p with listening := true }) o).2 s.pipes.length) frames := ⟨hstack, hcalls, hc, he, hsafe⟩
        exact ⟨_, _, hkept.push (listenFrames_calls _ _)⟩
      · exact ⟨some s.pipes.length, frames, hstack, hcalls, hc, he, hsafe⟩

private theorem freeProxy (s : MediaProxyPriv) : ∃ frames, KeepsPipes s (mediaUvFreeProxy s) frames := by
  unfold mediaUvFreeProxy
  split
  · exact ⟨[], same rfl rfl rfl rfl⟩
  · split
    · dsimp only
      split
      · exact ⟨[.user .onRelease, .freeProxy], rfl, by simp [UvFrame.isCall], rfl, rfl, id⟩
      · exact ⟨[.freeProxy], rfl, by simp [UvFrame.isCall], rfl, rfl, id⟩
    · exact ⟨[], same rfl rfl rfl rfl⟩

private theorem shutdown (hcpipe : s.cpipe ≠ none) : KeepsPipes s (mediaUvShutdown s o) [] := by
  unfold mediaUvShutdown
  split
  · rename_i hnone
    exact absurd hnone hcpipe
  · split
    · exact same rfl rfl rfl rfl
    · split <;> exact same rfl rfl rfl rfl

/-- Connecting makes a new command pipe, unless there is no memory for it. -/
private theorem connectOne (c : UvConfig) (s : MediaProxyPriv) (o : Outcome) :
    ∃ cpipe, KeepsPipes { s with cpipe } (mediaUvConnectOne c s o).2 [] ∧
      (cpipe = none → s.cpipe = none ∨ o.req = true ∧ o.pipe = false) := by
  unfold mediaUvConnectOne
  split_ifs with hreq hpipe
  · exact ⟨s.cpipe, same rfl rfl rfl rfl, .inl⟩
  · exact ⟨none, same rfl rfl rfl rfl, fun _ => .inr ⟨by simpa using hreq, by simpa using hpipe⟩⟩
  · refine ⟨some s.pipes.length, ?_, nofun⟩
    dsimp only
    split
    · exact ⟨rfl, by simp, rfl, rfl, fun _ => by simp [MediaProxyPriv.crash]⟩
    · split <;> exact same rfl rfl rfl rfl

private theorem reconnectOne (c : UvConfig) (s : MediaProxyPriv) (o : Outcome) :
    ∃ cpipe frames, KeepsPipes { s with cpipe } (mediaUvReconnectOne c s o) frames ∧
      (cpipe = none → s.cpipe = none ∨ s.cpus ≠ [] ∧ o.req = true ∧ o.pipe = false) := by
  unfold mediaUvReconnectOne
  split
  · exact ⟨s.cpipe, _, ⟨rfl, by simp [UvFrame.isCall], rfl, rfl, id⟩, .inl⟩
  · rename_i cpu cpus hcpus
    have hclosed : KeepsPipes s (closeCpipe { s with cpu := some cpu, cpus }) [] := by
      unfold closeCpipe
      split <;> exact same rfl rfl rfl rfl
    obtain ⟨cpipe, ⟨hstack, -, hc, he, hsafe⟩, hnone⟩ := connectOne c (closeCpipe { s with cpu := some cpu, cpus }) o
    have hgone : cpipe = none → s.cpipe = none ∨ s.cpus ≠ [] ∧ o.req = true ∧ o.pipe = false :=
      fun h => (hnone h).imp (fun hn => hclosed.cpipe ▸ hn) fun hn => ⟨by simp [hcpus], hn⟩
    have hsafe' := fun h => hsafe (hclosed.safe h)
    generalize mediaUvConnectOne c (closeCpipe { s with cpu := some cpu, cpus }) o = r at hstack hc he hsafe'
    dsimp only
    split
    · refine ⟨cpipe, [.user (.onConnect r.1)], ⟨?_, by simp [UvFrame.isCall], hc, he.trans hclosed.epipe, hsafe'⟩, hgone⟩
      exact congrArg (.user (.onConnect r.1) :: ·) (hstack.trans hclosed.stack)
    · exact ⟨cpipe, [], ⟨hstack.trans hclosed.stack, by simp, hc, he.trans hclosed.epipe, hsafe'⟩, hgone⟩

end KeepsPipes

/-! ### The steps -/

/-- What every step that meets the condition keeps: a message is delivered only while the command pipe is there, and
the event pipe that will be read is there. -/
structure PipesSound (s : MediaProxyPriv) : Prop where
  stacked : Stacked s.stack
  loop : ∀ w, .deliveryLoop (some w) ∈ s.stack → s.cpipe ≠ none
  reads : .readStart ∈ s.stack → s.epipe ≠ none
  safe : s.fault ≠ some .nullPipe

namespace PipesSound

/-- Calls are put on the stack, and the pipes are there where they are needed. -/
private theorem call (h : PipesSound s) (hstack : t.stack = frames ++ s.stack) (hcalls : ∀ f ∈ frames, f.isCall = true)
    (hcpipe : ∀ w, .deliveryLoop (some w) ∈ s.stack → t.cpipe ≠ none)
    (hepipe : .readStart ∈ s.stack → t.epipe ≠ none) (hsafe : t.fault ≠ some .nullPipe) : PipesSound t where
  stacked := hstack ▸ h.stacked.push hcalls
  loop w hw := by
    rw [hstack] at hw
    refine (List.mem_append.1 hw).elim (fun hm => ?_) (hcpipe w)
    cases hcalls _ hm
  reads hr := by
    rw [hstack] at hr
    refine (List.mem_append.1 hr).elim (fun hm => ?_) hepipe
    cases hcalls _ hm
  safe := hsafe

private theorem keeps (h : PipesSound s) (ht : KeepsPipes s t frames) : PipesSound t :=
  h.call ht.stack ht.calls (fun w hw => ht.cpipe ▸ h.loop w hw) (fun hr => ht.epipe ▸ h.reads hr) (ht.safe h.safe)

/-- On an empty stack nothing is needed of the pipes. -/
private theorem idle (frames : List UvFrame) (hstack : t.stack = frames) (hcalls : ∀ f ∈ frames, f.isCall = true)
    (hsafe : t.fault ≠ some .nullPipe) : PipesSound t := by
  subst hstack
  refine ⟨⟨t.stack, [], by simp, hcalls, .done⟩, fun w hw => ?_, fun hr => ?_, hsafe⟩
  · cases hcalls _ hw
  · cases hcalls _ hr

/-- A frame is taken off the stack. -/
private theorem pop (h : PipesSound s) (hs : s.stack = f :: stack) (hstack : Stacked stack) :
    PipesSound { s with stack } where
  stacked := hstack
  loop w hw := h.loop w (by rw [hs]; exact List.mem_cons_of_mem _ hw)
  reads hr := h.reads (by rw [hs]; exact List.mem_cons_of_mem _ hr)
  safe := h.safe

/-- A continuation runs. -/
private theorem run (h : PipesSound s) (hs : s.stack = f :: stack) (hg : CommandKept c s (.run, o)) :
    PipesSound (runFrame c { s with stack } o f) := by
  have hstacked := h.stacked
  rw [hs] at hstacked
  simp only [CommandKept, hs, List.head?_cons] at hg
  rcases hstacked.top with ⟨hcall, hbelow⟩ | hrest
  · have hpop := h.pop hs hbelow
    cases f with
    | user | writeCb | close | freeProxy => exact ⟨hpop.stacked, hpop.loop, hpop.reads, hpop.safe⟩
    | _ => cases hcall
  · cases hrest with
    | connect flags => exact idle (t := { s with stack := [], flags := s.flags ||| flags }) [] rfl (by simp) h.safe
    | close pipe => exact idle (t := mediaUvClose { s with stack := [] } pipe) [] rfl (by simp) h.safe
    | parcel w pipe =>
      simp only [runFrame]
      split_ifs with hconnecting hflags
      · obtain ⟨epipe, frames, hkeeps⟩ := KeepsPipes.listenOne (c := c) (o := o) (s := MediaProxyPriv.push { s with
            stack := [], writings := s.writings.setResponsed w, flags := { s.flags with connecting := false } }
            [.applyWritings pipe]) fun hsends => by
          refine hg ⟨?_, hsends⟩
          simp only [MediaProxyPriv.push, ProxyFlags.mk.injEq] at hflags
          rcases hall : s.flags with ⟨connecting, listening, reconnect, disconnect⟩
          simp_all
        refine ⟨hkeeps.stack ▸ (Stacked.of_rest (.apply pipe)).push hkeeps.calls, fun v hv => ?_, fun hr => ?_,
          hkeeps.safe h.safe⟩
        · rw [hkeeps.stack] at hv
          rcases List.mem_append.1 hv with hv | hv
          · cases hkeeps.calls _ hv
          · cases List.mem_singleton.1 hv
        · rw [hkeeps.stack] at hr
          rcases List.mem_append.1 hr with hr | hr
          · cases hkeeps.calls _ hr
          · cases List.mem_singleton.1 hr
      · exact ⟨.of_rest (.apply pipe), by simp [MediaProxyPriv.push], by simp [MediaProxyPriv.push], h.safe⟩
      · exact ⟨.of_rest .done, by simp, by simp, h.safe⟩
    | apply pipe =>
      simp only [runFrame]
      split
      · exact ⟨.of_rest (.deliver (.quit pipe)), by simp [MediaProxyPriv.push], by simp [MediaProxyPriv.push], h.safe⟩
      · exact ⟨.of_rest (.quit pipe), by simp [MediaProxyPriv.push], by simp [MediaProxyPriv.push], h.safe⟩
    | quit pipe =>
      simp only [runFrame]
      split_ifs
      · exact ⟨.of_rest (.deliver (.close pipe)), by simp [MediaProxyPriv.push], by simp [MediaProxyPriv.push], h.safe⟩
      · obtain ⟨cpipe, frames, hkeeps, -⟩ := KeepsPipes.reconnectOne c
          (MediaProxyPriv.push { s with stack := [], flags := { s.flags with reconnect := false } } [.close pipe]) o
        refine idle _ hkeeps.stack (fun f hf => ?_) (hkeeps.safe h.safe)
        rcases List.mem_append.1 hf with hf | hf
        · exact hkeeps.calls f hf
        · rw [List.mem_singleton.1 hf]
          rfl
      · exact idle (t := { s with stack := [] }) [] rfl (by simp) h.safe
    | read =>
      simp only [runFrame]
      split
      · rename_i hnone
        exact absurd hnone (h.reads (by simp [hs]))
      · exact ⟨.of_rest .done, by simp [MediaProxyPriv.modifyPipe], by simp [MediaProxyPriv.modifyPipe], h.safe⟩
    | deliver hbelow =>
      have hpop := h.pop hs (.of_rest hbelow)
      refine ⟨.of_rest (.loop _ hbelow), fun w hw => ?_, fun hr => ?_, h.safe⟩
      · rcases List.mem_cons.1 hw with hw | hw
        · -- the first queued message will be delivered
          refine hg fun hnone => ?_
          simp [hnone] at hw
        · exact hpop.loop w hw
      · exact hpop.reads ((List.mem_cons.1 hr).resolve_left (by rintro ⟨⟩))
    | loop next hbelow =>
      have hpop := h.pop hs (.of_rest hbelow)
      cases next with
      | none => exact hpop
      | some w =>
        have hcpipe : s.cpipe ≠ none := h.loop w (by simp [hs])
        simp only [runFrame, mediaUvDeliveryLoop]
        split_ifs
        · have hnext : PipesSound (MediaProxyPriv.push { s with
              stack, writings := { s.writings with pendq := s.writings.pendq.erase w } }
              [.deliveryLoop (s.writings.pendq.dropWhile (· ≠ w)).tail.head?]) := by
            refine ⟨.of_rest (.loop _ hbelow), fun _ _ => hcpipe, fun hr => ?_, h.safe⟩
            exact hpop.reads ((List.mem_cons.1 hr).resolve_left (by rintro ⟨⟩))
          obtain ⟨frames, hkeeps⟩ := KeepsPipes.sendWriting (s := MediaProxyPriv.push { s with
              stack, writings := { s.writings with pendq := s.writings.pendq.erase w } }
              [.deliveryLoop (s.writings.pendq.dropWhile (· ≠ w)).tail.head?]) hcpipe w o.write
          exact hnext.keeps hkeeps
        · exact ⟨hpop.stacked, hpop.loop, hpop.reads, by simp [MediaProxyPriv.crash]⟩

private theorem send {ack : Bool} (h : PipesSound s) (hg : CommandKept c s (.send ack, o)) :
    PipesSound (uvStep c s o (.send ack)) := by
  simp only [uvStep, mediaUvSend]
  split_ifs with hcpu hdisconnect hwriting
  · exact h
  · exact h
  · exact h
  · unfold mediaUvQueueWriting
    split_ifs with hflags
    · obtain ⟨frames, hstack, hcalls, hc, he, hsafe⟩ := KeepsPipes.sendWriting (s := { s with
          writings := s.writings.next.accept (newWriting s ack) o.write })
          (hg ⟨hflags, hcpu, by simpa using hwriting⟩) (newWriting s ack) o.write
      exact h.keeps ⟨hstack, hcalls, hc, he, hsafe⟩
    · exact ⟨h.stacked, h.loop, h.reads, h.safe⟩

private theorem listen {onListen : Bool} (h : PipesSound s) (hg : CommandKept c s (.listen onListen, o)) :
    PipesSound (uvStep c s o (.listen onListen)) := by
  simp only [uvStep, mediaUvListen]
  split_ifs with hlistens hflags
  · exact h
  · have hepipe : s.epipe = none := by
      simp only [Bool.or_eq_true, not_or, Bool.not_eq_true, Option.isSome_eq_false_iff, Option.isNone_iff_eq_none]
        at hlistens
      exact hlistens.2
    obtain ⟨epipe, frames, hstack, hcalls, hc, -, hsafe⟩ := KeepsPipes.listenOne (c := c) (o := o)
      (s := { s with onListen }) fun hsends => hg ⟨hflags, hepipe, hsends⟩
    exact h.call hstack hcalls (fun w hw => ne_of_eq_of_ne hc (h.loop w hw))
      (fun hr => absurd hepipe (h.reads hr)) (hsafe h.safe)
  · exact ⟨h.stacked, h.loop, h.reads, h.safe⟩

private theorem reconnect (h : PipesSound s) (hg : CommandKept c s (.reconnect, o)) :
    PipesSound (uvStep c s o .reconnect) := by
  simp only [uvStep, mediaUvReconnect]
  split_ifs with hepipe hflags
  · exact h
  · obtain ⟨cpipe, frames, hkeeps, hnone⟩ := KeepsPipes.reconnectOne c s o
    refine h.call hkeeps.stack hkeeps.calls (fun w hw => ?_) (fun hr => hkeeps.epipe ▸ h.reads hr)
      (hkeeps.safe h.safe)
    rw [hkeeps.cpipe]
    intro hgone
    rcases hnone hgone with hsame | hfails
    · exact h.loop w hw hsame
    · cases hg ⟨hflags, by simpa using hepipe, hfails⟩ _ hw
  · exact ⟨h.stacked, h.loop, h.reads, h.safe⟩

/-- `media_uv_disconnect` shuts down the command pipe, which the condition says is there. -/
private theorem disconnect {onRelease : Bool} (h : PipesSound s) (hg : CommandKept c s (.disconnect onRelease, o)) :
    PipesSound (uvStep c s o (.disconnect onRelease)) := by
  simp only [uvStep, mediaUvDisconnect]
  split_ifs with hdisconnect hflags
  · exact h
  · have hshut := KeepsPipes.shutdown (o := o) (s := { s with onRelease }) (hg hflags)
    obtain ⟨frames, hkeeps⟩ := KeepsPipes.freeProxy { mediaUvShutdown { s with onRelease } o with
      flags := { (mediaUvShutdown { s with onRelease } o).flags with disconnect := true } }
    exact h.keeps ⟨hkeeps.stack.trans (congrArg (frames ++ ·) hshut.stack), hkeeps.calls,
      hkeeps.cpipe.trans hshut.cpipe, hkeeps.epipe.trans hshut.epipe, fun hsafe => hkeeps.safe (hshut.safe hsafe)⟩
  · obtain ⟨frames, hkeeps⟩ := KeepsPipes.freeProxy { s with
      onRelease, flags := { s.flags with disconnect := true } }
    exact h.keeps ⟨hkeeps.stack, hkeeps.calls, hkeeps.cpipe, hkeeps.epipe, hkeeps.safe⟩

private theorem connectCb {pipe : Nat} {status : Int} (h : PipesSound s) (hidle : s.stack = []) :
    PipesSound (uvStep c s o (.connectCb pipe status)) := by
  simp only [uvStep, mediaUvConnectOneCb]
  have hfailed : ∀ {t : MediaProxyPriv} (ret : Int), t.stack = [] → t.fault = s.fault →
      PipesSound (t.push [.user (.onConnect ret), .close pipe]) := by
    intro t ret hstack hfault
    refine idle [.user (.onConnect ret), .close pipe] ?_ (by simp [UvFrame.isCall]) (ne_of_eq_of_ne hfault h.safe)
    simp [MediaProxyPriv.push, hstack]
  split_ifs with hdisconnect hneg hneg
  · exact hfailed _ hidle rfl
  · exact absurd (show -ECANCELED < 0 by decide) hneg
  · exact hfailed _ hidle rfl
  · refine ⟨⟨[.user (.onConnect status)], [.restoreFlags s.flags], ?_, by simp [UvFrame.isCall], .connect _⟩,
      ?_, ?_, h.safe⟩ <;> simp [MediaProxyPriv.push, MediaProxyPriv.modifyPipe, hidle]

private theorem parcel {pipe parcel : Nat} (h : PipesSound s) (hidle : s.stack = []) :
    PipesSound (uvStep c s o (.parcel pipe parcel)) := by
  simp only [uvStep, mediaUvHandleParcel]
  split
  · refine idle [.user (.onEvent parcel)] ?_ (by simp [UvFrame.isCall]) h.safe
    simp [MediaProxyPriv.push, hidle]
  · split
    · exact ⟨h.stacked, h.loop, h.reads, h.safe⟩
    · rename_i w rest hsentq
      refine ⟨⟨[.user (.onReceive w (some parcel))], [.handleParcel w pipe], ?_, by simp [UvFrame.isCall],
        .parcel w pipe⟩, ?_, ?_, h.safe⟩ <;> simp [MediaProxyPriv.push, hidle]

/-- A connection that is taken is read after what is queued has been delivered. -/
private theorem listenCb {pipe : Nat} {status : Int} (h : PipesSound s) (hidle : s.stack = []) :
    PipesSound (uvStep c s o (.listenCb pipe status)) := by
  have hfailed : ∀ {t : MediaProxyPriv} (ret : Int), t.stack = [] → t.fault = s.fault →
      PipesSound (t.push (listenFrames t ret [])) := by
    intro t ret hstack hfault
    refine idle (listenFrames t ret []) ?_ (KeepsPipes.listenFrames_calls t ret) (ne_of_eq_of_ne hfault h.safe)
    simp [MediaProxyPriv.push, hstack]
  simp only [uvStep, mediaUvListenOneCb, callOnListen_eq]
  split_ifs
  · exact hfailed _ hidle rfl
  · exact hfailed _ hidle rfl
  · exact hfailed _ hidle rfl
  · exact hfailed _ hidle rfl
  · unfold listenFrames
    split
    · refine ⟨⟨[.user (.onListen o.accept)], [.deliveryWriting, .readStart], ?_, by simp [UvFrame.isCall],
        .deliver .read⟩, ?_, ?_, h.safe⟩ <;>
        simp [MediaProxyPriv.push, mediaUvClose, MediaProxyPriv.modifyPipe, hidle]
    · refine ⟨.of_rest ?_, ?_, ?_, h.safe⟩
      · simpa [MediaProxyPriv.push, mediaUvClose, MediaProxyPriv.modifyPipe, hidle] using
          CallbackRest.deliver .read
      all_goals simp [MediaProxyPriv.push, mediaUvClose, MediaProxyPriv.modifyPipe, hidle]

private theorem closeCb {pipe : Nat} (h : PipesSound s) (hidle : s.stack = []) :
    PipesSound (uvStep c s o (.closeCb pipe)) := by
  have hclosed : ∀ {t : MediaProxyPriv}, t.stack = [] → t.fault = s.fault → PipesSound (mediaUvFreeProxy t) := by
    intro t hstack hfault
    obtain ⟨frames, hkeeps⟩ := KeepsPipes.freeProxy t
    refine idle frames ?_ hkeeps.calls (hkeeps.safe (ne_of_eq_of_ne hfault h.safe))
    rw [hkeeps.stack, hstack, List.append_nil]
  simp only [uvStep, mediaUvCloseCb]
  split_ifs
  · exact hclosed hidle rfl
  · exact hclosed hidle rfl
  · exact hclosed hidle rfl

/-- A step that meets the condition. -/
theorem step (h : PipesSound s) (hready : i.ready s = true) (hg : CommandKept c s (i, o)) :
    PipesSound (uvStep c s o i) := by
  cases i with
  | send ack => exact h.send hg
  | listen onListen => exact h.listen hg
  | reconnect => exact h.reconnect hg
  | disconnect onRelease => exact h.disconnect hg
  | run =>
    simp only [uvStep]
    split
    · exact h
    · rename_i f stack hs
      split
      · exact ⟨h.stacked, h.loop, h.reads, by simp [MediaProxyPriv.crash]⟩
      · exact h.run hs hg
  | connectCb pipe status =>
    simp only [UvInput.ready, Bool.and_eq_true, List.isEmpty_iff] at hready
    exact h.connectCb hready.1
  | writeCb pipe writing status =>
    obtain ⟨frames, hkeeps⟩ := KeepsPipes.writeCb
      (s.modifyPipe pipe fun p => { p with writes := p.writes.erase writing }) writing status
    exact h.keeps ⟨hkeeps.stack, hkeeps.calls, hkeeps.cpipe, hkeeps.epipe, hkeeps.safe⟩
  | parcel pipe parcel =>
    simp only [UvInput.ready, Bool.and_eq_true, List.isEmpty_iff] at hready
    exact h.parcel hready.1
  | readErr pipe => exact ⟨h.stacked, h.loop, h.reads, h.safe⟩
  | listenCb pipe status =>
    simp only [UvInput.ready, Bool.and_eq_true, List.isEmpty_iff] at hready
    exact h.listenCb hready.1
  | shutdownCb pipe => exact ⟨h.stacked, h.loop, h.reads, h.safe⟩
  | closeCb pipe =>
    simp only [UvInput.ready, Bool.and_eq_true, List.isEmpty_iff] at hready
    exact h.closeCb hready.1

private theorem next (h : PipesSound s) (hg : CommandKept c s (i, o)) (hn : uvNext c s (i, o) = some s') :
    PipesSound s' := by
  have hready := (uvNext_cases hn).1
  have hstep := h.step hready hg
  have hcrash : ∀ fault, fault ≠ .nullPipe → PipesSound (s.crash fault) := fun fault hfault =>
    ⟨h.stacked, h.loop, h.reads, by simpa [MediaProxyPriv.crash] using hfault⟩
  unfold uvNext at hn
  split at hn
  · split at hn
    · cases hn
      exact hcrash _ (by decide)
    · split at hn
      · cases hn
        exact hstep
      · rename_i fault hfault
        cases hn
        exact hcrash fault fun hnull => hstep.safe (hfault.trans (congrArg some hnull))
  · cases hn

private theorem start (c : UvConfig) (cpu : String) (cpus : List String) : PipesSound (mediaUvConnect c cpu cpus {}) := by
  obtain ⟨cpipe, hkeeps, -⟩ := KeepsPipes.connectOne c { cpu := some cpu, cpus } {}
  exact idle [] hkeeps.stack (by simp) (hkeeps.safe nofun)

end PipesSound

instance (c : UvConfig) (s : MediaProxyPriv) (o : Outcome) : Decidable (SendsNotify c s o) :=
  inferInstanceAs (Decidable (_ ∧ _ ∧ _ ∧ _))

/-- The condition on the continuation that runs next. -/
instance (c : UvConfig) (s : MediaProxyPriv) (o : Outcome) : (frame : Option UvFrame) → Decidable
    (match frame with
      | some .deliveryWriting => s.writings.pendq ≠ [] → s.cpipe ≠ none
      | some (.handleParcel _ _) =>
        s.flags = { connecting := true, listening := true } ∧ SendsNotify c s o → s.cpipe ≠ none
      | _ => True)
  | some .deliveryWriting => inferInstanceAs (Decidable (_ → _))
  | some (.handleParcel _ _) => inferInstanceAs (Decidable (_ ∧ _ → _))
  | none | some (.user _) | some (.writeCb _) | some (.applyWritings _) | some (.applyQuit _) | some (.deliveryLoop _)
  | some (.close _) | some (.restoreFlags _) | some .readStart | some .freeProxy => inferInstanceAs (Decidable True)

instance (c : UvConfig) (s : MediaProxyPriv) : (i : UvInput × Outcome) → Decidable (CommandKept c s i)
  | (.send _, _) | (.listen _, _) => inferInstanceAs (Decidable (_ ∧ _ ∧ _ → _))
  | (.disconnect _, _) => inferInstanceAs (Decidable (_ → _))
  | (.reconnect, _) => inferInstanceAs (Decidable (_ ∧ _ ∧ _ ∧ _ ∧ _ → ∀ _ ∈ _, _))
  | (.run, o) => inferInstanceAs (Decidable (match s.stack.head? with
      | some .deliveryWriting => s.writings.pendq ≠ [] → s.cpipe ≠ none
      | some (.handleParcel _ _) =>
        s.flags = { connecting := true, listening := true } ∧ SendsNotify c s o → s.cpipe ≠ none
      | _ => True))
  | (.connectCb _ _, _) | (.writeCb _ _ _, _) | (.parcel _ _, _) | (.readErr _, _) | (.listenCb _ _, _)
  | (.shutdownCb _, _) | (.closeCb _, _) => inferInstanceAs (Decidable True)

end MediaFramework
