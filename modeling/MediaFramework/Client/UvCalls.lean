import MediaFramework.Client.UvDisconnect

/-!
# The callbacks of a step

A step of a proxy calls at most one callback of the user, which is on the top of the stack after it, and an `on_receive`
is called for what is noted as answered.  So a callback that is called begins before anything else happens.
-/

namespace MediaFramework

variable {c : UvConfig} {s s' t u : MediaProxyPriv} {o : Outcome} {i : UvInput} {f : UvFrame}
  {stack frames frames' : List UvFrame} {w : MediaWritePriv} {k n : Nat}

/-! ### The functions -/

/-- What is noted of an `on_receive`. -/
def UvFrame.answer? : UvFrame → Option (MediaWritePriv × Option Nat)
  | .user (.onReceive w parcel) => some (w, parcel)
  | _ => none

/-- The function puts `frames` on the stack, of which only the first may be a callback; an `on_receive` is noted. -/
structure Adds (s t : MediaProxyPriv) (frames : List UvFrame) : Prop where
  stack : t.stack = frames ++ s.stack
  single : ∀ f ∈ frames.tail, f.isUser = false
  answers : t.writings.answers = s.writings.answers ++ (frames.head?.bind UvFrame.answer?).toList
  release : frames.head? = some (.user .onRelease) → 2 ≤ frames.length
  onRelease : t.onRelease = s.onRelease

/-- The code that is on the stack in a step, without the continuation that runs. -/
def baseStack (s : MediaProxyPriv) : UvInput → List UvFrame
  | .run => s.stack.tail
  | _ => s.stack

/-- The callback for the release, when a call of `media_uv_disconnect` sets it. -/
def baseRelease (s : MediaProxyPriv) : UvInput → Bool
  | .disconnect onRelease => if s.flags.disconnect then s.onRelease else onRelease
  | _ => s.onRelease

namespace Adds

theorem same (hstack : t.stack = s.stack) (hanswers : t.writings.answers = s.writings.answers)
    (honRelease : t.onRelease = s.onRelease) : Adds s t [] :=
  ⟨hstack, by simp, by simp [hanswers], by simp, honRelease⟩

/-- Code that is no callback goes on the stack. -/
theorem plain (hstack : t.stack = frames ++ s.stack) (hanswers : t.writings.answers = s.writings.answers)
    (honRelease : t.onRelease = s.onRelease) (hframes : ∀ f ∈ frames, f.isUser = false) : Adds s t frames := by
  refine ⟨hstack, fun f hf => hframes f (List.mem_of_mem_tail hf), ?_, fun hhead => ?_, honRelease⟩
  · cases frames with
    | nil => simp [hanswers]
    | cons f frames =>
      have hf := hframes f List.mem_cons_self
      cases f with
      | user callback => cases hf
      | _ => simp [hanswers, UvFrame.answer?]
  · have := hframes _ (List.mem_of_mem_head? hhead)
    cases this

/-- A callback is called after code was put on the stack. -/
theorem after (hs : Adds s t frames) (hframes : ∀ f ∈ frames, f.isUser = false) (ht : Adds t u frames') :
    Adds s u (frames' ++ frames) := by
  have hanswers : t.writings.answers = s.writings.answers := by
    rw [hs.answers]
    cases frames with
    | nil => simp
    | cons f frames =>
      have hf := hframes f List.mem_cons_self
      cases f with
      | user callback => cases hf
      | _ => simp [UvFrame.answer?]
  cases frames' with
  | nil =>
    refine plain (by rw [ht.stack, hs.stack]; rfl) ?_ (ht.onRelease.trans hs.onRelease) hframes
    simpa [hanswers] using ht.answers
  | cons f frames' =>
    refine ⟨by rw [ht.stack, hs.stack, List.append_assoc], fun g hg => ?_, ?_, fun hhead => ?_,
      ht.onRelease.trans hs.onRelease⟩
    · rcases List.mem_append.1 hg with hg | hg
      · exact ht.single g hg
      · exact hframes g hg
    · rw [ht.answers, hanswers]
      rfl
    · have := ht.release hhead
      simp only [List.length_append]
      omega

/-- After something that neither calls nor notes. -/
theorem of_eq (ht : Adds t u frames) (hstack : t.stack = s.stack) (hanswers : t.writings.answers = s.writings.answers)
    (honRelease : t.onRelease = s.onRelease) : Adds s u frames :=
  ⟨hstack ▸ ht.stack, ht.single, hanswers ▸ ht.answers, ht.release, ht.onRelease.trans honRelease⟩

private theorem writeCb (s : MediaProxyPriv) (w : MediaWritePriv) (ret : Int) :
    ∃ frames, Adds s (mediaUvWriteCb s w ret) frames ∧ (w.code ≠ MEDIA_PARCEL_SEND_ACK → frames = []) := by
  unfold mediaUvWriteCb
  split
  · exact ⟨[], same rfl rfl rfl, fun _ => rfl⟩
  · split
    · rename_i hack
      exact ⟨[.user (.onReceive w none), .writeCb w], ⟨rfl, by simp [UvFrame.isUser], rfl, by simp, rfl⟩,
        fun hcode => absurd hack.2 hcode⟩
    · exact ⟨[], same rfl rfl rfl, fun _ => rfl⟩

theorem hand_answers (q : Writings) (w : MediaWritePriv) : (q.hand w).answers = q.answers := by
  unfold Writings.hand
  split <;> rfl

private theorem sendWriting (s : MediaProxyPriv) (w : MediaWritePriv) (ret : Int) :
    ∃ frames, Adds s (mediaUvSendWriting s w ret) frames ∧ (w.code ≠ MEDIA_PARCEL_SEND_ACK → frames = []) := by
  unfold mediaUvSendWriting
  split
  · exact ⟨[], same rfl rfl rfl, fun _ => rfl⟩
  · dsimp only
    split
    · obtain ⟨frames, hframes, hack⟩ := writeCb { s with writings := s.writings.hand w } w ret
      exact ⟨frames, hframes.of_eq rfl (hand_answers ..) rfl, hack⟩
    · exact ⟨[], same rfl (hand_answers ..) rfl, fun _ => rfl⟩

theorem accept_answers (q : Writings) (w : MediaWritePriv) (ret : Int) : (q.accept w ret).answers = q.answers := by
  unfold Writings.accept
  split <;> rfl

theorem send (s : MediaProxyPriv) (ack : Bool) (o : Outcome) : ∃ frames, Adds s (mediaUvSend s ack o).2 frames := by
  unfold mediaUvSend
  split_ifs
  · exact ⟨[], same rfl rfl rfl⟩
  · exact ⟨[], same rfl rfl rfl⟩
  · exact ⟨[], same rfl rfl rfl⟩
  · dsimp only [mediaUvQueueWriting]
    split
    · obtain ⟨frames, hframes, -⟩ := sendWriting
        { (mediaUvAllocWriting s (sendCode ack)).2 with
          writings := (mediaUvAllocWriting s (sendCode ack)).2.writings.accept
            (mediaUvAllocWriting s (sendCode ack)).1 o.write }
        (mediaUvAllocWriting s (sendCode ack)).1 o.write
      exact ⟨frames, hframes.of_eq rfl (accept_answers ..) rfl⟩
    · exact ⟨[], same rfl (accept_answers ..) rfl⟩

private theorem createNotify (s : MediaProxyPriv) (o : Outcome) : Adds s (mediaUvCreateNotify s o).2 [] := by
  unfold mediaUvCreateNotify
  split
  · exact same rfl rfl rfl
  · obtain ⟨frames, hframes, hnone⟩ := sendWriting (mediaUvAllocWriting s MEDIA_PARCEL_CREATE_NOTIFY).2
      (mediaUvAllocWriting s MEDIA_PARCEL_CREATE_NOTIFY).1 o.write
    have hcode : MEDIA_PARCEL_CREATE_NOTIFY ≠ MEDIA_PARCEL_SEND_ACK := by decide
    obtain rfl := hnone hcode
    exact hframes.of_eq rfl rfl rfl

private theorem callOnListen (hstack : t.stack = s.stack) (hanswers : t.writings.answers = s.writings.answers)
    (honRelease : t.onRelease = s.onRelease) (ret : Int) {rest : List UvFrame} (hrest : ∀ f ∈ rest, f.isUser = false) :
    ∃ frames, Adds s (callOnListen t ret rest) frames := by
  unfold MediaFramework.callOnListen
  split
  · refine ⟨.user (.onListen ret) :: rest, ?_, hrest, ?_, by simp, honRelease⟩
    · simp [MediaProxyPriv.push, hstack]
    · simp [MediaProxyPriv.push, hanswers, UvFrame.answer?]
  · exact ⟨rest, plain (by simp [MediaProxyPriv.push, hstack]) hanswers honRelease hrest⟩

theorem listenOne (c : UvConfig) (s : MediaProxyPriv) (o : Outcome) :
    ∃ frames, Adds s (mediaUvListenOne c s o).2 frames := by
  unfold mediaUvListenOne
  split
  · dsimp only
    refine callOnListen ?_ ?_ ?_ _ ?_ <;> first | rfl | simp
  · dsimp only
    split
    · exact ⟨[], same rfl rfl rfl⟩
    · split_ifs
      · dsimp only
        refine callOnListen ?_ ?_ ?_ _ ?_ <;> first | rfl | simp
      · dsimp only
        refine callOnListen ?_ ?_ ?_ _ ?_ <;> first | rfl | simp
      all_goals
        have hnotify := createNotify (MediaProxyPriv.modifyPipe { s with
          epipe := some s.pipes.length, pipes := s.pipes ++ [mediaUvAllocPipe] } s.pipes.length
          fun p => { p with listening := true }) o
        have hanswers := hnotify.answers
        simp only [List.head?_nil, Option.bind_none, Option.toList_none, List.append_nil] at hanswers
      · refine callOnListen ?_ ?_ ?_ _ ?_
        · exact hnotify.stack
        · exact hanswers
        · exact hnotify.onRelease
        · simp
      · exact ⟨[], hnotify.stack, by simp, hnotify.answers, by simp, hnotify.onRelease⟩

theorem listenOneCb (s : MediaProxyPriv) (server : Nat) (status : Int) (o : Outcome) :
    ∃ frames, Adds s (mediaUvListenOneCb s server status o) frames := by
  unfold mediaUvListenOneCb
  dsimp only
  split_ifs
  · refine callOnListen ?_ ?_ ?_ _ ?_ <;> first | rfl | simp
  · refine callOnListen ?_ ?_ ?_ _ ?_ <;> first | rfl | simp
  · refine callOnListen ?_ ?_ ?_ _ ?_ <;> first | rfl | simp
  · refine callOnListen ?_ ?_ ?_ _ ?_ <;> first | rfl | simp
  · refine callOnListen ?_ ?_ ?_ _ ?_ <;> first | rfl | simp [UvFrame.isUser]

theorem freeProxy (s : MediaProxyPriv) : ∃ frames, Adds s (mediaUvFreeProxy s) frames := by
  unfold mediaUvFreeProxy
  split
  · exact ⟨[], same rfl rfl rfl⟩
  · split
    · dsimp only
      split
      · exact ⟨[.user .onRelease, .freeProxy], rfl, by simp [UvFrame.isUser], by
          simp [MediaProxyPriv.push, mediaUvClearQueue, Writings.clear, UvFrame.answer?], fun _ => Nat.le_refl 2, rfl⟩
      · exact ⟨[.freeProxy], plain rfl rfl rfl (by simp [UvFrame.isUser])⟩
    · exact ⟨[], same rfl rfl rfl⟩

private theorem connectOne (c : UvConfig) (s : MediaProxyPriv) (o : Outcome) :
    Adds s (mediaUvConnectOne c s o).2 [] := by
  refine same (mediaUvConnectOne_flags c s o).2.2 (congrArg Writings.answers (mediaUvConnectOne_writings c s o)) ?_
  unfold mediaUvConnectOne
  split
  · rfl
  · split
    · rfl
    · dsimp only
      split
      · rfl
      · split <;> rfl

theorem reconnectOne (c : UvConfig) (s : MediaProxyPriv) (o : Outcome) :
    ∃ frames, Adds s (mediaUvReconnectOne c s o) frames := by
  unfold mediaUvReconnectOne
  split
  · exact ⟨[.user (.onConnect (-ENOENT))], rfl, by simp, by
      simp [MediaProxyPriv.push, mediaUvClearQueue, Writings.clear, UvFrame.answer?], by simp, rfl⟩
  · rename_i cpu cpus _
    have hclosed : Adds s (closeCpipe { s with cpu := some cpu, cpus }) [] := by
      unfold closeCpipe
      split <;> exact same rfl rfl rfl
    have hconnects := hclosed.after (by simp) (connectOne c (closeCpipe { s with cpu := some cpu, cpus }) o)
    generalize mediaUvConnectOne c (closeCpipe { s with cpu := some cpu, cpus }) o = r at hconnects
    dsimp only
    split
    · refine ⟨[UvFrame.user (.onConnect r.1)], ?_, by simp, ?_, by simp, hconnects.onRelease⟩
      · rw [MediaProxyPriv.push, hconnects.stack]
        rfl
      · simpa [MediaProxyPriv.push, UvFrame.answer?] using hconnects.answers
    · exact ⟨[], hconnects⟩

private theorem runFrame (c : UvConfig) (s : MediaProxyPriv) (o : Outcome) (f : UvFrame) :
    ∃ frames, Adds s (MediaFramework.runFrame c s o f) frames := by
  cases f with
  | user callback | writeCb writing | close pipe | restoreFlags flags | freeProxy => exact ⟨[], same rfl rfl rfl⟩
  | handleParcel w pipe =>
    simp only [MediaFramework.runFrame]
    split
    · have hpush : Adds s (MediaProxyPriv.push { s with
          writings := s.writings.setResponsed w, flags := { s.flags with connecting := false } }
          [.applyWritings pipe]) [.applyWritings pipe] := plain rfl rfl rfl (by simp [UvFrame.isUser])
      split
      · obtain ⟨frames, hframes⟩ := listenOne c (MediaProxyPriv.push { s with
          writings := s.writings.setResponsed w, flags := { s.flags with connecting := false } }
          [.applyWritings pipe]) o
        exact ⟨_, hpush.after (by simp [UvFrame.isUser]) hframes⟩
      · exact ⟨_, hpush⟩
    · exact ⟨[], same rfl rfl rfl⟩
  | applyWritings pipe =>
    simp only [MediaFramework.runFrame]
    split
    · exact ⟨[.deliveryWriting, .applyQuit pipe], plain rfl rfl rfl (by simp [UvFrame.isUser])⟩
    · exact ⟨[.applyQuit pipe], plain rfl rfl rfl (by simp [UvFrame.isUser])⟩
  | applyQuit pipe =>
    simp only [MediaFramework.runFrame]
    split_ifs
    · exact ⟨[.deliveryWriting, .close pipe], plain rfl rfl rfl (by simp [UvFrame.isUser])⟩
    · obtain ⟨frames, hframes⟩ := reconnectOne c (MediaProxyPriv.push { s with
        flags := { s.flags with reconnect := false } } [.close pipe]) o
      have hpush : Adds s (MediaProxyPriv.push { s with flags := { s.flags with reconnect := false } } [.close pipe])
          [.close pipe] := plain rfl rfl rfl (by simp [UvFrame.isUser])
      exact ⟨_, hpush.after (by simp [UvFrame.isUser]) hframes⟩
    · exact ⟨[], same rfl rfl rfl⟩
  | deliveryWriting => exact ⟨[_], plain rfl rfl rfl (by simp [UvFrame.isUser])⟩
  | deliveryLoop writing =>
    cases writing with
    | none => exact ⟨[], same rfl rfl rfl⟩
    | some w =>
      simp only [MediaFramework.runFrame, mediaUvDeliveryLoop]
      split
      · obtain ⟨frames, hframes, -⟩ := sendWriting (MediaProxyPriv.push
          { s with writings := { s.writings with pendq := s.writings.pendq.erase w } }
          [.deliveryLoop (s.writings.pendq.dropWhile (· ≠ w)).tail.head?]) w o.write
        have hpush : Adds s (MediaProxyPriv.push
            { s with writings := { s.writings with pendq := s.writings.pendq.erase w } }
            [.deliveryLoop (s.writings.pendq.dropWhile (· ≠ w)).tail.head?]) [_] :=
          plain rfl rfl rfl (by simp [UvFrame.isUser])
        exact ⟨_, hpush.after (by simp [UvFrame.isUser]) hframes⟩
      · exact ⟨[], same rfl rfl rfl⟩
  | readStart =>
    simp only [MediaFramework.runFrame]
    split <;> exact ⟨[], same rfl rfl rfl⟩

/-- A step calls one callback at most. -/
theorem step (c : UvConfig) (s : MediaProxyPriv) (o : Outcome) (i : UvInput) (hi : ¬ (i = .run ∧ s.stack = []))
    (hfault : (uvStep c s o i).fault = none) :
    ∃ frames, Adds { s with stack := baseStack s i, onRelease := baseRelease s i } (uvStep c s o i) frames := by
  cases i with
  | send ack => exact send s ack o
  | listen onListen =>
    simp only [uvStep, mediaUvListen]
    split
    · exact ⟨[], same rfl rfl rfl⟩
    · split
      · obtain ⟨frames, hframes⟩ := listenOne c { s with onListen } o
        exact ⟨frames, hframes.of_eq rfl rfl rfl⟩
      · exact ⟨[], same rfl rfl rfl⟩
  | reconnect =>
    simp only [uvStep, mediaUvReconnect]
    split
    · exact ⟨[], same rfl rfl rfl⟩
    · split
      · exact reconnectOne c s o
      · exact ⟨[], same rfl rfl rfl⟩
  | disconnect onRelease =>
    simp only [uvStep, mediaUvDisconnect, baseRelease]
    split
    · exact ⟨[], same rfl rfl rfl⟩
    · dsimp only
      have hshut : ∀ s : MediaProxyPriv, (mediaUvShutdown s o).stack = s.stack ∧
          (mediaUvShutdown s o).writings = s.writings ∧ (mediaUvShutdown s o).onRelease = s.onRelease := by
        intro s
        unfold mediaUvShutdown
        split
        · exact ⟨rfl, rfl, rfl⟩
        · split
          · exact ⟨rfl, rfl, rfl⟩
          · split <;> exact ⟨rfl, rfl, rfl⟩
      split
      · obtain ⟨frames, hframes⟩ := freeProxy { mediaUvShutdown { s with onRelease } o with
          flags := { (mediaUvShutdown { s with onRelease } o).flags with disconnect := true } }
        exact ⟨frames, hframes.of_eq (hshut { s with onRelease }).1
          (congrArg Writings.answers (hshut { s with onRelease }).2.1) (hshut { s with onRelease }).2.2⟩
      · obtain ⟨frames, hframes⟩ := freeProxy { s with onRelease, flags := { s.flags with disconnect := true } }
        exact ⟨frames, hframes.of_eq rfl rfl rfl⟩
  | run =>
    cases hstack : s.stack with
    | nil => exact absurd ⟨rfl, hstack⟩ hi
    | cons f stack =>
      simp only [uvStep, hstack] at hfault ⊢
      split at hfault
      · cases hfault
      · rename_i htouch
        rw [if_neg htouch]
        simp only [baseStack, baseRelease, hstack, List.tail_cons]
        exact runFrame c { s with stack } o f
  | connectCb pipe status =>
    simp only [uvStep, mediaUvConnectOneCb]
    split
    all_goals split
    · exact ⟨[.user (.onConnect (-ECANCELED)), .close pipe], rfl, by simp [UvFrame.isUser], by
        simp [MediaProxyPriv.push, MediaProxyPriv.modifyPipe, UvFrame.answer?], by simp, rfl⟩
    · exact ⟨[.user (.onConnect (-ECANCELED)), .restoreFlags s.flags], rfl, by simp [UvFrame.isUser], by
        simp [MediaProxyPriv.push, MediaProxyPriv.modifyPipe, UvFrame.answer?], by simp, rfl⟩
    · exact ⟨[.user (.onConnect status), .close pipe], rfl, by simp [UvFrame.isUser], by
        simp [MediaProxyPriv.push, MediaProxyPriv.modifyPipe, UvFrame.answer?], by simp, rfl⟩
    · exact ⟨[.user (.onConnect status), .restoreFlags s.flags], rfl, by simp [UvFrame.isUser], by
        simp [MediaProxyPriv.push, MediaProxyPriv.modifyPipe, UvFrame.answer?], by simp, rfl⟩
  | writeCb pipe w status =>
    obtain ⟨frames, hframes, -⟩ := writeCb (s.modifyPipe pipe fun p => { p with writes := p.writes.erase w }) w status
    exact ⟨frames, hframes.of_eq rfl rfl rfl⟩
  | parcel pipe parcel =>
    simp only [uvStep, mediaUvHandleParcel]
    split
    · exact ⟨[.user (.onEvent parcel)], rfl, by simp, by simp [MediaProxyPriv.push, UvFrame.answer?], by simp, rfl⟩
    · split
      · exact ⟨[], same rfl rfl rfl⟩
      · rename_i w rest _
        exact ⟨[.user (.onReceive w (some parcel)), .handleParcel w pipe], rfl, by simp [UvFrame.isUser], rfl, by simp,
          rfl⟩
  | readErr pipe => exact ⟨[], same rfl rfl rfl⟩
  | listenCb pipe status => exact listenOneCb s pipe status o
  | shutdownCb pipe => exact ⟨[], same rfl rfl rfl⟩
  | closeCb pipe =>
    simp only [uvStep, mediaUvCloseCb]
    split_ifs
    · obtain ⟨frames, hframes⟩ := freeProxy { s.modifyPipe pipe fun p => { p with closed := true } with cpipe := none }
      exact ⟨frames, hframes.of_eq rfl rfl rfl⟩
    · obtain ⟨frames, hframes⟩ := freeProxy { s.modifyPipe pipe fun p => { p with closed := true } with epipe := none }
      exact ⟨frames, hframes.of_eq rfl rfl rfl⟩
    · obtain ⟨frames, hframes⟩ := freeProxy (s.modifyPipe pipe fun p => { p with closed := true })
      exact ⟨frames, hframes.of_eq rfl rfl rfl⟩

end Adds

/-! ### The steps -/

def UvFrame.isRelease (f : UvFrame) : Bool := f = .user .onRelease

/-- A step in which the proxy calls `callback`, if there is one, and no callback returns. -/
structure Called (s : MediaProxyPriv) (i : UvInput) (t : MediaProxyPriv) (callback : Option UvCallback) : Prop where
  users : t.stack.countP UvFrame.isUser = s.stack.countP UvFrame.isUser + callback.isSome.toNat
  releases : t.stack.countP UvFrame.isRelease =
    s.stack.countP UvFrame.isRelease + (decide (callback = some .onRelease)).toNat
  top : ∀ cb ∈ callback, ∃ rest, t.stack = .user cb :: rest
  answers : t.writings.answers = s.writings.answers ++ (callback.bind fun cb => UvFrame.answer? (.user cb)).toList
  calls : CallsRelease s t = decide (callback = some .onRelease)
  onRelease : t.fault = none → t.onRelease = baseRelease s i

/-- The callback that was put on the stack. -/
def topCallback : List UvFrame → Option UvCallback
  | .user callback :: _ => some callback
  | _ => none

theorem Adds.called {base : MediaProxyPriv} (h : Adds base t frames) (hlength : base.stack.length ≤ s.stack.length)
    (hlong : s.stack.length ≤ base.stack.length + 1)
    (husers : base.stack.countP UvFrame.isUser = s.stack.countP UvFrame.isUser)
    (hreleases : base.stack.countP UvFrame.isRelease = s.stack.countP UvFrame.isRelease)
    (hanswers : base.writings.answers = s.writings.answers)
    (honRelease : t.fault = none → base.onRelease = baseRelease s i) :
    Called s i t (topCallback frames) := by
  have hnone : ∀ frames : List UvFrame, (∀ f ∈ frames, f.isUser = false) →
      frames.countP UvFrame.isUser = 0 ∧ frames.countP UvFrame.isRelease = 0 := by
    intro frames hframes
    refine ⟨List.countP_eq_zero.2 fun f hf => by simp [hframes f hf], List.countP_eq_zero.2 fun f hf hrelease => ?_⟩
    obtain rfl : f = .user .onRelease := by simpa [UvFrame.isRelease] using hrelease
    cases hframes _ hf
  have hkept : t.fault = none → t.onRelease = baseRelease s i := by
    rw [h.onRelease]
    exact honRelease
  have hanswers' := h.answers
  rw [hanswers] at hanswers'
  cases frames with
  | nil =>
    have hstack : t.stack = base.stack := h.stack
    refine ⟨by rw [hstack, husers]; rfl, by rw [hstack, hreleases]; rfl, by simp [topCallback], hanswers', ?_, hkept⟩
    simp only [CallsRelease, hstack, topCallback]
    simp only [reduceCtorEq, decide_false, Bool.and_eq_false_imp, decide_eq_true_eq]
    omega
  | cons f frames =>
    obtain ⟨hplain, hplain'⟩ := hnone frames h.single
    have hstack : t.stack = f :: (frames ++ base.stack) := h.stack
    cases f with
    | user callback =>
      refine ⟨?_, ?_, fun cb hcb => ?_, hanswers', ?_, hkept⟩
      · rw [hstack, List.countP_cons, List.countP_append, hplain, husers]
        simp [topCallback, UvFrame.isUser]
      · rw [hstack, List.countP_cons, List.countP_append, hplain', hreleases]
        by_cases hrelease : callback = .onRelease <;> simp [topCallback, UvFrame.isRelease, hrelease]
      · obtain rfl : callback = cb := by simpa [topCallback] using hcb
        exact ⟨_, hstack⟩
      · simp only [CallsRelease, hstack, topCallback, List.length_cons, List.length_append, List.head?_cons,
          Option.some.injEq, UvFrame.user.injEq]
        by_cases hrelease : callback = .onRelease
        · have hlong' := h.release (by rw [hrelease]; rfl)
          simp only [List.length_cons] at hlong'
          simp only [hrelease, decide_true, Bool.and_true, decide_eq_true_eq]
          omega
        · simp [hrelease]
    | _ =>
      refine ⟨?_, ?_, by simp [topCallback], hanswers', ?_, hkept⟩
      · rw [hstack, List.countP_cons, List.countP_append, hplain, husers]
        simp [topCallback, UvFrame.isUser]
      · rw [hstack, List.countP_cons, List.countP_append, hplain', hreleases]
        simp [topCallback, UvFrame.isRelease]
      · simp [CallsRelease, hstack, topCallback]

/-- A step in which no callback returns. -/
theorem uvNext_called (hn : uvNext c s (i, o) = some s')
    (htop : i = .run → ∀ callback rest, s.stack ≠ .user callback :: rest) : ∃ callback, Called s i s' callback := by
  obtain ⟨hready, ⟨fault, rfl⟩ | ⟨rfl, hfault⟩⟩ := uvNext_cases hn
  · have hcrash : Adds s (s.crash fault) [] := .same rfl rfl rfl
    exact ⟨_, hcrash.called (Nat.le_refl _) (Nat.le_succ _) rfl rfl rfl (by simp [MediaProxyPriv.crash])⟩
  · have hrun : ¬ (i = .run ∧ s.stack = []) := by
      rintro ⟨rfl, hstack⟩
      simp [UvInput.ready, hstack] at hready
    obtain ⟨frames, hframes⟩ := Adds.step c s o i hrun hfault
    refine ⟨_, hframes.called ?_ ?_ ?_ ?_ rfl fun _ => rfl⟩
    all_goals
      by_cases hi : i = .run
      · subst hi
        cases hstack : s.stack with
        | nil => exact absurd ⟨rfl, hstack⟩ hrun
        | cons f stack =>
          have hf : f.isUser = false := by
            cases f with
            | user callback => exact absurd hstack (htop rfl callback stack)
            | _ => rfl
          have hf' : f.isRelease = false := by
            cases f with
            | user callback => cases hf
            | _ => rfl
          simp [baseStack, hstack, hf, hf']
      · have hbase : baseStack s i = s.stack := by cases i <;> first | rfl | exact absurd rfl hi
        simp [hbase]

/-- A callback returns. -/
theorem uvNext_returns {callback : UvCallback} (hstack : s.stack = .user callback :: stack)
    (hn : uvNext c s (.run, o) = some s') : s' = { s with stack } := by
  have hstep : uvStep c s o .run = { s with stack } := by
    simp [uvStep, hstack, UvFrame.touchesProxy, runFrame]
  unfold uvNext at hn
  split at hn
  · rename_i hgoes
    simp only [Bool.and_eq_true, Option.isNone_iff_eq_none] at hgoes
    rw [if_neg (by simp [UvInput.callsFreed])] at hn
    split at hn
    · exact (Option.some.inj hn).symm.trans hstep
    · rename_i hfault
      rw [hstep] at hfault
      cases hgoes.1.1.symm.trans hfault
  · cases hn

/-! ### The open command pipe -/

/-- The requests that were sent on a pipe. -/
def MediaPipePriv.asked (p : MediaPipePriv) : Nat := p.sent.countP fun w => w.code = MEDIA_PARCEL_SEND_ACK

/-- The command pipe `k`, when it is read, stays so, and a request that comes to `sentq` is sent on it. -/
def KeepsOpen (k : Nat) (s t : MediaProxyPriv) : Prop :=
  s.cpipe = some k → t.cpipe = some k ∧ ∀ p, s.pipes[k]? = some p → p.reading = true → p.closing = false →
    ∃ p', t.pipes[k]? = some p' ∧ p'.reading = true ∧ p'.closing = false ∧
      t.writings.sentq.length + p.asked ≤ s.writings.sentq.length + p'.asked

namespace KeepsOpen

theorem same (hcpipe : t.cpipe = s.cpipe) (hpipes : t.pipes = s.pipes)
    (hsentq : t.writings.sentq.length ≤ s.writings.sentq.length) : KeepsOpen k s t := fun hk =>
  ⟨hcpipe.trans hk, fun p hp hreading hclosing => ⟨p, hpipes ▸ hp, hreading, hclosing, by omega⟩⟩

theorem trans (hs : KeepsOpen k s t) (ht : KeepsOpen k t u) : KeepsOpen k s u := fun hk => by
  obtain ⟨hk', hpipe⟩ := hs hk
  obtain ⟨hk'', hpipe'⟩ := ht hk'
  refine ⟨hk'', fun p hp hreading hclosing => ?_⟩
  obtain ⟨p', hp', hreading', hclosing', hle⟩ := hpipe p hp hreading hclosing
  obtain ⟨p'', hp'', hreading'', hclosing'', hle'⟩ := hpipe' p' hp' hreading' hclosing'
  exact ⟨p'', hp'', hreading'', hclosing'', by omega⟩

/-- Another pipe changes, or this one where it does not matter. -/
theorem modifyPipe (s : MediaProxyPriv) (j : Nat) (g : MediaPipePriv → MediaPipePriv)
    (hg : j = k → ∀ p : MediaPipePriv, p.reading = true → p.closing = false →
      (g p).reading = true ∧ (g p).closing = false ∧ (g p).sent = p.sent) : KeepsOpen k s (s.modifyPipe j g) := by
  intro hk
  refine ⟨hk, fun p hp hreading hclosing => ?_⟩
  simp only [MediaProxyPriv.modifyPipe, List.getElem?_modify, hp, Option.map_eq_map, Option.map_some]
  by_cases heq : j = k
  · obtain ⟨hreading', hclosing', hsent⟩ := hg heq p hreading hclosing
    refine ⟨g p, by simp [heq], hreading', hclosing', ?_⟩
    unfold MediaPipePriv.asked
    rw [hsent]
  · exact ⟨p, by simp [heq], hreading, hclosing, Nat.le_refl _⟩

theorem close (s : MediaProxyPriv) {j : Nat} (hj : j ≠ k) : KeepsOpen k s (mediaUvClose s j) :=
  modifyPipe s j _ fun heq => absurd heq hj

theorem newPipe (s : MediaProxyPriv) (epipe : Option Nat) (p₀ : MediaPipePriv) :
    KeepsOpen k s { s with epipe, pipes := s.pipes ++ [p₀] } := fun hk =>
  ⟨hk, fun p hp hreading hclosing =>
    ⟨p, List.getElem?_append_left (List.getElem?_eq_some_iff.1 hp).1 ▸ hp, hreading, hclosing, Nat.le_refl _⟩⟩

/-- A new pipe is another one. -/
theorem closeNew {s₀ : MediaProxyPriv} (hnew : ∀ p, s₀.pipes[k]? = some p → k < n) (h : KeepsOpen k s₀ t) :
    KeepsOpen k s₀ (mediaUvClose t n) := by
  by_cases hn : n = k
  · subst hn
    intro hk
    refine ⟨(h hk).1, fun p hp => ?_⟩
    exact absurd (hnew p hp) (Nat.lt_irrefl _)
  · exact h.trans (close t hn)

private theorem write_sentq (q : Writings) (w : MediaWritePriv) (ret : Int) :
    (q.write w ret).sentq.length ≤
      q.sentq.length + if 0 ≤ ret ∧ w.code = MEDIA_PARCEL_SEND_ACK then 1 else 0 := by
  unfold Writings.write Writings.hand
  by_cases hret : ret < 0
  · by_cases hack : w.code = MEDIA_PARCEL_SEND_ACK
    · have hmem : w ∈ q.sentq ++ [w] := by simp
      simp [hret, hack, Writings.cancel, List.length_erase_of_mem hmem]
    · simp [hret, hack, Writings.setWritten]
  · by_cases hack : w.code = MEDIA_PARCEL_SEND_ACK
    · have hnonneg : 0 ≤ ret := by omega
      simp [hret, hack, hnonneg]
    · simp [hret, hack]

private theorem sendWriting (w : MediaWritePriv) (ret : Int) (hfault : (mediaUvSendWriting s w ret).fault = none) :
    KeepsOpen k s (mediaUvSendWriting s w ret) := by
  have hwritings := mediaUvSendWriting_writings hfault
  have hlength := write_sentq s.writings w ret
  intro hk
  revert hwritings
  unfold mediaUvSendWriting
  split
  · rename_i hnone
    cases hk.symm.trans hnone
  rename_i pipe hpipe
  obtain rfl : k = pipe := Option.some.inj (hk.symm.trans hpipe)
  dsimp only
  intro hwritings
  by_cases hret : ret < 0
  · rw [if_pos hret] at hwritings ⊢
    have hpipes : (mediaUvWriteCb { s with writings := s.writings.hand w } w ret).pipes = s.pipes ∧
        (mediaUvWriteCb { s with writings := s.writings.hand w } w ret).cpipe = s.cpipe := by
      unfold mediaUvWriteCb
      split
      · exact ⟨rfl, rfl⟩
      · split <;> exact ⟨rfl, rfl⟩
    rw [if_neg (by omega)] at hlength
    refine same hpipes.2 hpipes.1 ?_ hk
    rw [hwritings]
    omega
  · rw [if_neg hret] at hwritings ⊢
    refine ⟨hk, fun p hp hreading hclosing => ?_⟩
    refine ⟨{ p with writes := p.writes ++ [w], sent := p.sent ++ [w] }, ?_, hreading, hclosing, ?_⟩
    · simp [MediaProxyPriv.modifyPipe, hp]
    · rw [hwritings]
      simp only [MediaPipePriv.asked, List.countP_append, List.countP_singleton, decide_eq_true_eq]
      split at hlength <;> split <;> omega

theorem send (s : MediaProxyPriv) (ack : Bool) (o : Outcome) (hfault : (mediaUvSend s ack o).2.fault = none) :
    KeepsOpen k s (mediaUvSend s ack o).2 := by
  unfold mediaUvSend at hfault ⊢
  have haccept : ∀ (q : Writings) (w : MediaWritePriv) (ret : Int), (q.accept w ret).sentq = q.sentq := by
    intro q w ret
    unfold Writings.accept
    split <;> rfl
  split_ifs at hfault ⊢
  · exact same rfl rfl (Nat.le_refl _)
  · exact same rfl rfl (Nat.le_refl _)
  · exact same rfl rfl (Nat.le_refl _)
  · dsimp only [mediaUvQueueWriting] at hfault ⊢
    split at hfault
    · rename_i hzero
      rw [if_pos hzero]
      refine trans ?_ (sendWriting _ _ hfault)
      exact same rfl rfl (by simp [haccept, mediaUvAllocWriting])
    · rename_i hflags
      rw [if_neg hflags]
      exact same rfl rfl (by simp [haccept, Writings.pend, mediaUvAllocWriting])

private theorem createNotify (hfault : (mediaUvCreateNotify s o).2.fault = none) :
    KeepsOpen k s (mediaUvCreateNotify s o).2 := by
  unfold mediaUvCreateNotify at hfault ⊢
  split at hfault
  · rename_i hwriting
    rw [if_pos hwriting]
    exact same rfl rfl (Nat.le_refl _)
  · rename_i hwriting
    rw [if_neg hwriting]
    refine trans ?_ (sendWriting _ _ hfault)
    exact same rfl rfl (Nat.le_refl _)

private theorem callOnListen (h : KeepsOpen k s t) (ret : Int) (rest : List UvFrame) :
    KeepsOpen k s (callOnListen t ret rest) := by
  rw [callOnListen_eq]
  exact h

theorem listenOne (c : UvConfig) (s : MediaProxyPriv) (o : Outcome) (hfault : (mediaUvListenOne c s o).2.fault = none) :
    KeepsOpen k s (mediaUvListenOne c s o).2 := by
  have hnew : ∀ p, s.pipes[k]? = some p → k < s.pipes.length := fun p hp => (List.getElem?_eq_some_iff.1 hp).1
  have hpipe : KeepsOpen k s { s with epipe := some s.pipes.length, pipes := s.pipes ++ [mediaUvAllocPipe] } :=
    newPipe s (some s.pipes.length) mediaUvAllocPipe
  revert hfault
  unfold mediaUvListenOne
  split
  · intro _
    refine callOnListen ?_ _ _
    exact same rfl rfl (Nat.le_refl _)
  · dsimp only
    split
    · intro _
      exact hpipe
    · have hlistens : KeepsOpen k s (MediaProxyPriv.modifyPipe { s with
          epipe := some s.pipes.length, pipes := s.pipes ++ [mediaUvAllocPipe] } s.pipes.length
          fun p => { p with listening := true }) := by
        refine hpipe.trans (modifyPipe _ _ _ fun _ p hreading hclosing => ?_)
        exact ⟨hreading, hclosing, rfl⟩
      split_ifs
      · intro _
        exact callOnListen (hpipe.closeNew hnew) _ _
      · intro _
        exact callOnListen (hpipe.closeNew hnew) _ _
      · intro hfault
        dsimp only at hfault
        rw [callOnListen_eq] at hfault
        exact callOnListen ((hlistens.trans (createNotify hfault)).closeNew hnew) _ _
      · intro hfault
        exact hlistens.trans (createNotify hfault)

theorem listenOneCb (s : MediaProxyPriv) (server : Nat) (status : Int) (o : Outcome) (hserver : server ≠ k) :
    KeepsOpen k s (mediaUvListenOneCb s server status o) := by
  have hnew : ∀ p, s.pipes[k]? = some p → k < s.pipes.length := fun p hp => (List.getElem?_eq_some_iff.1 hp).1
  have hflags : KeepsOpen k s { s with flags := { s.flags with listening := false } } :=
    same rfl rfl (Nat.le_refl _)
  have hpipe := hflags.trans (newPipe { s with flags := { s.flags with listening := false } } (some s.pipes.length)
    mediaUvAllocPipe)
  unfold mediaUvListenOneCb
  dsimp only
  split_ifs
  · exact callOnListen (hflags.trans (close _ hserver)) _ _
  · exact callOnListen (hflags.trans (close _ hserver)) _ _
  · refine callOnListen (trans ?_ (close _ hserver)) _ _
    exact same rfl rfl (Nat.le_refl _)
  · exact callOnListen ((hpipe.closeNew hnew).trans (close _ hserver)) _ _
  · exact callOnListen (hpipe.trans (close _ hserver)) _ _

private theorem writeCb (s : MediaProxyPriv) (w : MediaWritePriv) (ret : Int) :
    KeepsOpen k s (mediaUvWriteCb s w ret) := by
  unfold mediaUvWriteCb
  split
  · exact same rfl rfl (Nat.le_refl _)
  · split
    · refine same rfl rfl ?_
      exact (List.erase_sublist).length_le
    · exact same rfl rfl (Nat.le_refl _)

private theorem runFrame (c : UvConfig) (s : MediaProxyPriv) (o : Outcome) (f : UvFrame) (hclose : f ≠ .close k)
    (hquit : ∀ pipe, f = .applyQuit pipe → s.flags.reconnect = false)
    (hfault : (MediaFramework.runFrame c s o f).fault = none) : KeepsOpen k s (MediaFramework.runFrame c s o f) := by
  have hsame : ∀ {t : MediaProxyPriv}, t.cpipe = s.cpipe → t.pipes = s.pipes → t.writings.sentq = s.writings.sentq →
      KeepsOpen k s t := fun hcpipe hpipes hsentq => same hcpipe hpipes (Nat.le_of_eq (congrArg List.length hsentq))
  cases f with
  | user callback | writeCb writing | restoreFlags flags | freeProxy | deliveryWriting => exact hsame rfl rfl rfl
  | close pipe =>
    refine close s fun heq => hclose ?_
    rw [heq]
  | handleParcel w pipe =>
    simp only [MediaFramework.runFrame] at hfault ⊢
    split
    · rename_i hset
      rw [if_pos hset] at hfault
      split
      · rename_i hlisten
        rw [if_pos hlisten] at hfault
        have hpush : KeepsOpen k s (MediaProxyPriv.push { s with
          writings := s.writings.setResponsed w, flags := { s.flags with connecting := false } }
          [.applyWritings pipe]) := hsame rfl rfl rfl
        exact hpush.trans (listenOne c _ o hfault)
      · exact hsame rfl rfl rfl
    · exact hsame rfl rfl rfl
  | applyWritings pipe =>
    simp only [MediaFramework.runFrame]
    split <;> exact hsame rfl rfl rfl
  | applyQuit pipe =>
    simp only [MediaFramework.runFrame, hquit pipe rfl, Bool.false_eq_true, if_false]
    split <;> exact hsame rfl rfl rfl
  | deliveryLoop writing =>
    cases writing with
    | none => exact hsame rfl rfl rfl
    | some w =>
      simp only [MediaFramework.runFrame, mediaUvDeliveryLoop] at hfault ⊢
      split
      · rename_i hmem
        rw [if_pos hmem] at hfault
        refine trans ?_ (sendWriting w o.write hfault)
        exact hsame rfl rfl rfl
      · exact hsame rfl rfl rfl
  | readStart =>
    simp only [MediaFramework.runFrame]
    split
    · exact hsame rfl rfl rfl
    · refine modifyPipe s _ _ fun _ p hreading hclosing => ?_
      simp [hclosing]

end KeepsOpen

/-- The step closes or replaces the command pipe. -/
def EndsCommand (s : MediaProxyPriv) : UvInput → Prop
  | .reconnect => s.epipe = none ∧ s.flags = 0
  | .run => (∃ k ∈ s.cpipe, s.stack.head? = some (.close k)) ∨
      s.flags.reconnect = true ∧ ∃ f ∈ s.stack.head?, (f matches .applyQuit _) = true
  | .readErr k | .shutdownCb k | .listenCb k _ | .closeCb k => s.cpipe = some k
  | _ => False

/-- A step that neither reads a reply nor closes the command pipe. -/
theorem KeepsOpen.step (hk : s.cpipe = some k) (hends : ¬ EndsCommand s i) (hi : ∀ onRelease, i ≠ .disconnect onRelease)
    (hparcel : ∀ pipe parcel, i ≠ .parcel pipe parcel) (hlive : s.flags.disconnect = false)
    (hfault : (uvStep c s o i).fault = none) : KeepsOpen k s (uvStep c s o i) := by
  cases i with
  | send ack => exact .send s ack o hfault
  | disconnect onRelease => exact absurd rfl (hi onRelease)
  | parcel pipe parcel => exact absurd rfl (hparcel pipe parcel)
  | listen onListen =>
    simp only [uvStep, mediaUvListen] at hfault ⊢
    split
    · exact .same rfl rfl (Nat.le_refl _)
    · rename_i hnone
      rw [if_neg hnone] at hfault
      split
      · rename_i hzero
        rw [if_pos hzero] at hfault
        exact KeepsOpen.trans (.same rfl rfl (Nat.le_refl _)) (.listenOne c _ o hfault)
      · exact .same rfl rfl (Nat.le_refl _)
  | reconnect =>
    simp only [uvStep, mediaUvReconnect]
    split
    · exact .same rfl rfl (Nat.le_refl _)
    · rename_i hnone
      split
      · rename_i hzero
        refine absurd ⟨?_, hzero⟩ hends
        simpa using hnone
      · exact .same rfl rfl (Nat.le_refl _)
  | run =>
    cases hstack : s.stack with
    | nil =>
      simp only [uvStep, hstack]
      exact .same rfl rfl (Nat.le_refl _)
    | cons f stack =>
      simp only [uvStep, hstack] at hfault ⊢
      split
      · exact .same rfl rfl (Nat.le_refl _)
      · rename_i htouch
        rw [if_neg htouch] at hfault
        refine KeepsOpen.trans (t := { s with stack }) (.same rfl rfl (Nat.le_refl _)) (.runFrame c _ o f ?_ ?_ hfault)
        · rintro rfl
          exact hends (.inl ⟨k, hk, by rw [hstack]; rfl⟩)
        · rintro pipe rfl
          rw [← Bool.not_eq_true]
          intro hset
          exact hends (.inr ⟨hset, .applyQuit pipe, by rw [hstack]; rfl, rfl⟩)
  | connectCb pipe status =>
    have hdone : KeepsOpen k s (s.modifyPipe pipe fun p => { p with connecting := false }) :=
      .modifyPipe s pipe _ fun _ p hreading hclosing => ⟨hreading, hclosing, rfl⟩
    have hread : KeepsOpen k s (MediaProxyPriv.modifyPipe
        { s.modifyPipe pipe fun p => { p with connecting := false } with flags := 0 } pipe
        fun p => { p with reading := !p.closing }) := by
      refine (hdone.trans (.same rfl rfl (Nat.le_refl _))).trans (.modifyPipe _ pipe _ fun _ p hreading hclosing => ?_)
      simp [hclosing]
    simp only [uvStep, mediaUvConnectOneCb]
    split
    all_goals split
    · exact hdone
    · exact hread
    · exact hdone
    · exact hread
  | writeCb pipe w status =>
    have herase : KeepsOpen k s (s.modifyPipe pipe fun p => { p with writes := p.writes.erase w }) :=
      .modifyPipe s pipe _ fun _ p hreading hclosing => ⟨hreading, hclosing, rfl⟩
    exact herase.trans (.writeCb _ w status)
  | readErr pipe =>
    refine .close s fun heq => hends ?_
    rw [heq]
    exact hk
  | listenCb pipe status =>
    refine .listenOneCb s pipe status o fun heq => hends ?_
    rw [heq]
    exact hk
  | shutdownCb pipe =>
    have hpipe : pipe ≠ k := by
      rintro rfl
      exact hends hk
    exact KeepsOpen.trans (.modifyPipe s pipe _ fun heq => absurd heq hpipe) (.close _ hpipe)
  | closeCb pipe =>
    have hpipe : s.cpipe ≠ some pipe := hends
    have hne : pipe ≠ k := by
      rintro rfl
      exact hpipe hk
    have hclosed : KeepsOpen k s (s.modifyPipe pipe fun p => { p with closed := true }) :=
      .modifyPipe s pipe _ fun heq => absurd heq hne
    simp only [uvStep, mediaUvCloseCb]
    split
    · rename_i heq
      exact absurd heq hpipe
    · split
      all_goals
        rw [mediaUvFreeProxy_of_live (by exact hlive)]
        exact hclosed

/-- The command pipe is read, and the requests in `sentq` were sent on it and have no reply. -/
def MediaProxyPriv.CommandOpen (s : MediaProxyPriv) (replied : List Nat) : Prop :=
  ∃ k ∈ s.cpipe, ∃ p ∈ s.pipes[k]?, p.reading = true ∧ p.closing = false ∧
    replied.count k + s.writings.sentq.length ≤ p.asked

/-- There are replies to come on an open command pipe with requests. -/
theorem MediaProxyPriv.CommandOpen.not_quiescent {replied : List Nat} (h : s.CommandOpen replied)
    (hw : w ∈ s.writings.sentq) : ¬ s.Quiescent replied := by
  intro hrest
  obtain ⟨k, -, p, hp, hreading, -, hcount⟩ := h
  have hanswered : p.asked ≤ replied.count k := (hrest.idle k p hp).answered hreading
  have hpos := List.length_pos_of_mem hw
  omega

/-- The command pipe stays open in a step that does not close it. -/
theorem MediaProxyPriv.CommandOpen.step {replied : List Nat} (h : s.CommandOpen replied) (hends : ¬ EndsCommand s i)
    (hi : ∀ onRelease, i ≠ .disconnect onRelease) (hlive : s.flags.disconnect = false)
    (hfault : (uvStep c s o i).fault = none) (haborted : (uvStep c s o i).aborted = false) :
    (uvStep c s o i).CommandOpen (noteReply s i replied) := by
  obtain ⟨k, hk, p, hp, hreading, hclosing, hcount⟩ := h
  by_cases hparcel : ∃ pipe parcel, i = .parcel pipe parcel
  · obtain ⟨pipe, parcel, rfl⟩ := hparcel
    simp only [uvStep, mediaUvHandleParcel, noteReply] at haborted ⊢
    split
    · exact ⟨k, hk, p, hp, hreading, hclosing, hcount⟩
    · rename_i hevent
      rw [if_neg hevent] at haborted
      split
      · rename_i hnone
        simp only [hnone] at haborted
        cases haborted
      · rename_i w rest hsentq
        refine ⟨k, hk, p, hp, hreading, hclosing, ?_⟩
        have hcons : (pipe :: replied).count k ≤ replied.count k + 1 := by
          rw [List.count_cons]
          split <;> omega
        simp only [MediaProxyPriv.push, Writings.answer, hsentq, List.tail_cons, List.length_cons] at hcount ⊢
        omega
  · have hnote : noteReply s i replied = replied := by
      cases i <;> first | rfl | exact absurd ⟨_, _, rfl⟩ hparcel
    obtain ⟨hk', hpipe⟩ := KeepsOpen.step hk hends hi (fun pipe parcel heq => hparcel ⟨pipe, parcel, heq⟩) hlive hfault
      hk
    obtain ⟨p', hp', hreading', hclosing', hle⟩ := hpipe p hp hreading hclosing
    rw [hnote]
    exact ⟨k, hk', p', hp', hreading', hclosing', by omega⟩

/-- A request leaves `sentq` in such a step when it is answered or cancelled. -/
theorem sentq_step (hw : w ∈ s.writings.sentq) (hends : ¬ EndsCommand s i)
    (hi : ∀ onRelease, i ≠ .disconnect onRelease) (hlive : s.flags.disconnect = false)
    (hfault : (uvStep c s o i).fault = none) : w ∈ (uvStep c s o i).writings.sentq ∨
      ∃ parcel, (uvStep c s o i).writings.answers = s.writings.answers ++ [(w, parcel)] := by
  have hwrite : ∀ (q : Writings) (w' : MediaWritePriv) (ret : Int), w ∈ q.sentq → w ∈ (q.write w' ret).sentq := by
    intro q w' ret hq
    unfold Writings.write Writings.hand
    split_ifs
    · simp only [Writings.cancel]
      by_cases heq : w = w'
      · subst heq
        have hcount : 0 < ((q.sentq ++ [w]).erase w).count w := by
          rw [List.count_erase_self, List.count_append]
          have := List.count_pos_iff.2 hq
          simp
          omega
        exact List.count_pos_iff.1 hcount
      · exact (List.mem_erase_of_ne heq).2 (List.mem_append_left _ hq)
    · exact hq
    · exact List.mem_append_left _ hq
    · exact hq
  have haccept : ∀ (q : Writings) (w' : MediaWritePriv) (ret : Int), (q.accept w' ret).sentq = q.sentq := by
    intro q w' ret
    unfold Writings.accept
    split <;> rfl
  generalize hq : (uvStep c s o i).writings = q
  have hstep := uvStep_writings hfault
  rw [hq] at hstep
  cases hstep with
  | mark i written responsed => exact .inl hw
  | pend ack => exact .inl (by simp [Writings.pend, haccept, Writings.next, hw])
  | send ack => exact .inl (hwrite _ _ _ (by simp [haccept, Writings.next, hw]))
  | notify i w' responsed => exact .inl (hwrite _ _ _ hw)
  | clear i hclear =>
    cases i with
    | reconnect => exact absurd ⟨hclear.1, hclear.2.1⟩ hends
    | disconnect onRelease => exact absurd rfl (hi onRelease)
    | run =>
      obtain ⟨hquit, -, hset, -⟩ := hclear
      rw [Option.any_eq_true] at hquit
      exact absurd (.inr ⟨hset, hquit⟩) hends
    | closeCb pipe => cases hlive.symm.trans hclear.1
    | _ => exact absurd hclear id
  | deliver w' => exact .inl (hwrite _ _ _ hw)
  | cancel pipe w' status =>
    by_cases heq : w = w'
    · subst heq
      exact .inr ⟨none, rfl⟩
    · exact .inl ((List.mem_erase_of_ne heq).2 hw)
  | answer pipe parcel w' _ hhead =>
    obtain ⟨rest, hsentq⟩ : ∃ rest, s.writings.sentq = w' :: rest := List.head?_eq_some_iff.1 hhead
    rw [hsentq] at hw
    rcases List.mem_cons.1 hw with rfl | hw
    · exact .inr ⟨some parcel, rfl⟩
    · exact .inl (by simpa [Writings.answer, hsentq] using hw)

end MediaFramework
