import MediaFramework.Client.UvRequests

/-!
# What a proxy waits for

A proxy does nothing by itself: it goes on when libuv calls it.  Nothing is to come when no connection is under way, no
write, shutdown or close is, and the server has answered every request that it has got.  `Spares` says what the
functions of the proxy leave alone while a connection is waited for.
-/

namespace MediaFramework

variable {c : UvConfig} {s s' t u : MediaProxyPriv} {o : Outcome} {i : UvInput} {w : MediaWritePriv} {f : UvFrame}
  {stack frames : List UvFrame} {spared : Nat → Prop} {k : Nat} {p p' : MediaPipePriv}

/-- A step that does not go wrong is the step of the code. -/
theorem uvNext_step (hn : uvNext c s (i, o) = some s') (hfault : s'.fault = none) :
    (s.fault = none ∧ s.aborted = false) ∧ i.ready s = true ∧ i.callsFreed s = false ∧ s' = uvStep c s o i := by
  unfold uvNext at hn
  split at hn
  · rename_i hready
    simp only [Bool.and_eq_true, Option.isNone_iff_eq_none, Bool.not_eq_true'] at hready
    split at hn
    · cases hn
      cases hfault
    · rename_i hcalls
      split at hn
      · cases hn
        exact ⟨hready.1, hready.2, by simpa using hcalls, rfl⟩
      · cases hn
        cases hfault
  · cases hn

/-! ### What has come -/

/-- The pipes on which replies were read, one entry for each reply. -/
def noteReply (s : MediaProxyPriv) (i : UvInput) (replied : List Nat) : List Nat :=
  match i with
  | .parcel pipe _ => if s.epipe = some pipe then replied else pipe :: replied
  | _ => replied

variable {replied : List Nat}

/-- Nothing is to come on a pipe: nothing is under way in libuv, and if it is read, every request has its reply.  (A
request whose write failed has none, but then the connection is broken, which the read is to find out.) -/
structure MediaPipePriv.Idle (p : MediaPipePriv) (replied : List Nat) (k : Nat) : Prop where
  connected : p.connecting = false
  shut : p.shutting = false
  written : p.writes = []
  closed : p.closing = true → p.closed = true
  answered : p.reading = true → p.sent.countP (fun w => w.code = MEDIA_PARCEL_SEND_ACK) ≤ replied.count k

/-- No callback of libuv is to come, and none is running; the proxy has not crashed. -/
structure MediaProxyPriv.Quiescent (s : MediaProxyPriv) (replied : List Nat) : Prop where
  stack : s.stack = []
  fault : s.fault = none
  aborted : s.aborted = false
  idle : ∀ (k : Nat) (p : MediaPipePriv), s.pipes[k]? = some p → p.Idle replied k

instance (p : MediaPipePriv) (replied : List Nat) (k : Nat) : Decidable (p.Idle replied k) :=
  decidable_of_iff (_ ∧ _ ∧ _ ∧ _ ∧ _)
    ⟨fun h => ⟨h.1, h.2.1, h.2.2.1, h.2.2.2.1, h.2.2.2.2⟩, fun h => ⟨h.1, h.2, h.3, h.4, h.5⟩⟩

theorem MediaProxyPriv.quiescent_of_idle (hstack : s.stack = []) (hfault : s.fault = none) (haborted : s.aborted = false)
    (hidle : ∀ k < s.pipes.length, ∀ p ∈ s.pipes[k]?, p.Idle replied k) : s.Quiescent replied :=
  ⟨hstack, hfault, haborted, fun k p hp => hidle k (List.getElem?_eq_some_iff.1 hp).1 p hp⟩

/-! ### What is waited for -/

/-- The pipe is open, and is being connected or has a request to be answered. -/
structure MediaPipePriv.Awaits (p : MediaPipePriv) : Prop where
  closing : p.closing = false
  listening : p.listening = false
  shutting : p.shutting = false
  await : p.connecting = true ∨ p.reading = true ∧ ∃ w ∈ p.sent, w.code = MEDIA_PARCEL_SEND_ACK

/-- The command pipe is to be connected, or has a request to be answered, and none of the code at work closes it. -/
def MediaProxyPriv.Awaited (s : MediaProxyPriv) (k : Nat) : Prop :=
  s.cpipe = some k ∧ .close k ∉ s.stack ∧ ∃ p ∈ s.pipes[k]?, p.Awaits

/-- The first reply of the command pipe is still to come, or the connection before it. -/
def MediaProxyPriv.Expects (s : MediaProxyPriv) (replied : List Nat) : Prop :=
  ∃ k ∈ s.cpipe, s.Awaited k ∧ k ∉ replied

/-- The frame is the rest of `media_uv_handle_parcel`, which will look at the flags. -/
def UvFrame.handles (flags : ProxyFlags) : UvFrame → Bool
  | .handleParcel _ _ => flags.connecting
  | .applyWritings _ | .applyQuit _ => true
  | _ => false

/-- The first reply is being handled, and the flags will be looked at. -/
def MediaProxyPriv.Handling (s : MediaProxyPriv) : Prop := ∃ f ∈ s.stack, f.handles s.flags = true

instance (p : MediaPipePriv) : Decidable p.Awaits :=
  decidable_of_iff (_ ∧ _ ∧ _ ∧ _) ⟨fun h => ⟨h.1, h.2.1, h.2.2.1, h.2.2.2⟩, fun h => ⟨h.1, h.2, h.3, h.4⟩⟩

instance (s : MediaProxyPriv) (k : Nat) : Decidable (s.Awaited k) := inferInstanceAs (Decidable (_ ∧ _ ∧ _))

instance (s : MediaProxyPriv) (replied : List Nat) : Decidable (s.Expects replied) :=
  inferInstanceAs (Decidable (∃ k ∈ s.cpipe, _))

instance (s : MediaProxyPriv) : Decidable s.Handling := inferInstanceAs (Decidable (∃ f ∈ s.stack, _))

/-- On a quiet pipe that is read, requests have replies. -/
theorem MediaPipePriv.Idle.mem_replied (hidle : p.Idle replied k) (hreading : p.reading = true) (hw : w ∈ p.sent)
    (hrequest : w.code = MEDIA_PARCEL_SEND_ACK) : k ∈ replied := by
  have hcount := hidle.answered hreading
  have hpos : 0 < p.sent.countP (fun w => w.code = MEDIA_PARCEL_SEND_ACK) :=
    List.countP_pos_iff.2 ⟨w, hw, by simpa using hrequest⟩
  rw [← List.count_pos_iff]
  omega

theorem MediaPipePriv.Awaits.not_idle (hp : p.Awaits) (hnone : k ∉ replied) : ¬ p.Idle replied k := by
  intro hidle
  rcases hp.await with hconnecting | ⟨hreading, w, hw, hrequest⟩
  · rw [hidle.connected] at hconnecting
    cases hconnecting
  · exact hnone (hidle.mem_replied hreading hw hrequest)

theorem MediaProxyPriv.Expects.not_quiescent (hexpects : s.Expects replied) : ¬ s.Quiescent replied := by
  intro hquiescent
  obtain ⟨k, -, ⟨-, -, p, hp, hawaits⟩, hnone⟩ := hexpects
  exact hawaits.not_idle hnone (hquiescent.idle k p hp)

theorem MediaProxyPriv.Handling.not_quiescent (hhandling : s.Handling) : ¬ s.Quiescent replied := by
  intro hquiescent
  obtain ⟨f, hf, -⟩ := hhandling
  rw [hquiescent.stack] at hf
  cases hf

theorem MediaProxyPriv.Awaited.pop (hk : s.Awaited k) (hs : s.stack = f :: stack) : { s with stack }.Awaited k := by
  refine ⟨hk.1, fun hclose => hk.2.1 ?_, hk.2.2⟩
  rw [hs]
  exact List.mem_cons_of_mem _ hclose

/-! ### What is left alone -/

/-- The pipe is as before, apart from what is written to it. -/
structure MediaPipePriv.Continues (p p' : MediaPipePriv) : Prop where
  connecting : p'.connecting = p.connecting
  listening : p'.listening = p.listening
  shutting : p'.shutting = p.shutting
  closing : p'.closing = p.closing
  closed : p'.closed = p.closed
  reading : p.closing = false → p.reading = true → p'.reading = true
  sent : p.sent ⊆ p'.sent

theorem MediaPipePriv.Continues.refl (p : MediaPipePriv) : p.Continues p :=
  ⟨rfl, rfl, rfl, rfl, rfl, fun _ => id, fun _ => id⟩

theorem MediaPipePriv.Continues.trans {p'' : MediaPipePriv} (hp : p.Continues p') (hp' : p'.Continues p'') :
    p.Continues p'' where
  connecting := hp'.connecting.trans hp.connecting
  listening := hp'.listening.trans hp.listening
  shutting := hp'.shutting.trans hp.shutting
  closing := hp'.closing.trans hp.closing
  closed := hp'.closed.trans hp.closed
  reading hclosing hreading := hp'.reading (hp.closing.trans hclosing) (hp.reading hclosing hreading)
  sent := List.Subset.trans hp.sent hp'.sent

theorem MediaPipePriv.Continues.awaits (hp : p.Continues p') (hawaits : p.Awaits) : p'.Awaits where
  closing := hp.closing.trans hawaits.closing
  listening := hp.listening.trans hawaits.listening
  shutting := hp.shutting.trans hawaits.shutting
  await := by
    rcases hawaits.await with hconnecting | ⟨hreading, w, hw, hrequest⟩
    · exact .inl (hp.connecting.trans hconnecting)
    · exact .inr ⟨hp.reading hawaits.closing hreading, w, hp.sent hw, hrequest⟩

/-- A frame that neither looks at the flags, nor restores them, nor releases the proxy. -/
def UvFrame.isPlain : UvFrame → Bool
  | .handleParcel _ _ | .applyWritings _ | .applyQuit _ | .restoreFlags _ | .user .onRelease | .freeProxy => false
  | _ => true

/-- A frame of the code that writes. -/
def UvFrame.isWriting : UvFrame → Bool
  | .user (.onReceive _ _) | .writeCb _ | .deliveryLoop _ => true
  | _ => false

theorem UvFrame.isPlain_of_isWriting (hf : f.isWriting = true) : f.isPlain = true := by
  cases f with
  | user callback => cases callback <;> first | rfl | cases hf
  | _ => first | rfl | cases hf

/-- The code has only written: it has put `frames` on the stack and left the pipes as they are, apart from what is
written to them. -/
structure Writes (s t : MediaProxyPriv) (frames : List UvFrame) : Prop where
  rest : t = { s with writings := t.writings, pipes := t.pipes, stack := frames ++ s.stack, fault := t.fault }
  writing : ∀ f ∈ frames, f.isWriting = true
  pipe : ∀ (k : Nat) (p : MediaPipePriv), s.pipes[k]? = some p → ∃ p', t.pipes[k]? = some p' ∧ p.Continues p'

namespace Writes

theorem stack_eq (ht : Writes s t frames) : t.stack = frames ++ s.stack := by
  rw [ht.rest]

theorem flags (ht : Writes s t frames) : t.flags = s.flags := by
  rw [ht.rest]

theorem cpipe (ht : Writes s t frames) : t.cpipe = s.cpipe := by
  rw [ht.rest]

theorem epipe (ht : Writes s t frames) : t.epipe = s.epipe := by
  rw [ht.rest]

theorem modifyPipe (s : MediaProxyPriv) (k : Nat) (g : MediaPipePriv → MediaPipePriv)
    (hg : ∀ p : MediaPipePriv, p.Continues (g p)) :
    Writes s (s.modifyPipe k g) [] where
  rest := rfl
  writing := by simp
  pipe j p hp := by
    simp only [MediaProxyPriv.modifyPipe, List.getElem?_modify, hp, Option.map_eq_map, Option.map_some]
    by_cases heq : k = j
    · exact ⟨g p, by simp [heq], hg p⟩
    · exact ⟨p, by simp [heq], .refl p⟩

theorem writeCb (s : MediaProxyPriv) (w : MediaWritePriv) (ret : Int) :
    ∃ frames, Writes s (mediaUvWriteCb s w ret) frames := by
  unfold mediaUvWriteCb
  split
  · exact ⟨[], rfl, by simp, fun k p hp => ⟨p, hp, .refl p⟩⟩
  · split
    · exact ⟨[.user (.onReceive w none), .writeCb w], rfl, by simp [UvFrame.isWriting], fun k p hp => ⟨p, hp, .refl p⟩⟩
    · exact ⟨[], rfl, by simp, fun k p hp => ⟨p, hp, .refl p⟩⟩

/-- The code writes after some change of the writings. -/
theorem after {q : Writings} (ht : Writes { s with writings := q } t frames) : Writes s t frames :=
  ⟨ht.rest, ht.writing, ht.pipe⟩

theorem trans {frames' : List UvFrame} (hs : Writes s t frames) (ht : Writes t u frames') :
    Writes s u (frames' ++ frames) where
  rest := by
    rw [ht.rest, hs.rest]
    simp
  writing f hf := (List.mem_append.1 hf).elim (ht.writing f) (hs.writing f)
  pipe k p hp := by
    obtain ⟨p', hp', hcontinues⟩ := hs.pipe k p hp
    obtain ⟨p'', hp'', hcontinues'⟩ := ht.pipe k p' hp'
    exact ⟨p'', hp'', hcontinues.trans hcontinues'⟩

theorem sendWriting (s : MediaProxyPriv) (w : MediaWritePriv) (ret : Int) :
    ∃ frames, Writes s (mediaUvSendWriting s w ret) frames := by
  unfold mediaUvSendWriting
  split
  · exact ⟨[], rfl, by simp, fun k p hp => ⟨p, hp, .refl p⟩⟩
  · rename_i pipe _
    dsimp only
    split
    · obtain ⟨frames, hframes⟩ := writeCb { s with writings := s.writings.hand w } w ret
      exact ⟨frames, hframes.after⟩
    · refine ⟨[], (modifyPipe { s with writings := s.writings.hand w } pipe _ fun p => ?_).after⟩
      exact ⟨rfl, rfl, rfl, rfl, rfl, fun _ => id, List.subset_append_left ..⟩

/-- libuv has completed a write. -/
theorem completed (s : MediaProxyPriv) (pipe : Nat) (w : MediaWritePriv) (status : Int) : ∃ frames, Writes s
    (mediaUvWriteCb (s.modifyPipe pipe fun p => { p with writes := p.writes.erase w }) w status) frames := by
  obtain ⟨frames, hframes⟩ := writeCb (s.modifyPipe pipe fun p => { p with writes := p.writes.erase w }) w status
  have herase : Writes s (s.modifyPipe pipe fun p => { p with writes := p.writes.erase w }) [] :=
    modifyPipe s pipe _ fun p => ⟨rfl, rfl, rfl, rfl, rfl, fun _ => id, fun _ => id⟩
  exact ⟨_, herase.trans hframes⟩

theorem createNotify (s : MediaProxyPriv) (o : Outcome) : ∃ frames, Writes s (mediaUvCreateNotify s o).2 frames := by
  unfold mediaUvCreateNotify
  split
  · exact ⟨[], rfl, by simp, fun k p hp => ⟨p, hp, .refl p⟩⟩
  · obtain ⟨frames, hframes⟩ := sendWriting (mediaUvAllocWriting s MEDIA_PARCEL_CREATE_NOTIFY).2
      (mediaUvAllocWriting s MEDIA_PARCEL_CREATE_NOTIFY).1 o.write
    exact ⟨frames, hframes.after⟩

theorem send (s : MediaProxyPriv) (ack : Bool) (o : Outcome) : ∃ frames, Writes s (mediaUvSend s ack o).2 frames := by
  have hsame : Writes s s [] := ⟨rfl, by simp, fun k p hp => ⟨p, hp, .refl p⟩⟩
  unfold mediaUvSend
  split_ifs
  · exact ⟨[], hsame⟩
  · exact ⟨[], hsame⟩
  · exact ⟨[], hsame⟩
  · dsimp only [mediaUvQueueWriting]
    split
    · obtain ⟨frames, hframes⟩ := sendWriting
        { (mediaUvAllocWriting s (sendCode ack)).2 with
          writings := (mediaUvAllocWriting s (sendCode ack)).2.writings.accept
            (mediaUvAllocWriting s (sendCode ack)).1 o.write }
        (mediaUvAllocWriting s (sendCode ack)).1 o.write
      exact ⟨frames, hframes.rest, hframes.writing, hframes.pipe⟩
    · exact ⟨[], rfl, by simp, fun k p hp => ⟨p, hp, .refl p⟩⟩

theorem deliveryLoop (s : MediaProxyPriv) (w : MediaWritePriv) (o : Outcome) :
    ∃ frames, Writes s (mediaUvDeliveryLoop s w o) frames := by
  unfold mediaUvDeliveryLoop
  split
  · have hloop : Writes s (MediaProxyPriv.push
        { s with writings := { s.writings with pendq := s.writings.pendq.erase w } }
        [.deliveryLoop (s.writings.pendq.dropWhile (· ≠ w)).tail.head?]) [_] :=
      ⟨rfl, by simp [UvFrame.isWriting], fun k p hp => ⟨p, hp, .refl p⟩⟩
    obtain ⟨frames, hframes⟩ := sendWriting (MediaProxyPriv.push
      { s with writings := { s.writings with pendq := s.writings.pendq.erase w } }
      [.deliveryLoop (s.writings.pendq.dropWhile (· ≠ w)).tail.head?]) w o.write
    exact ⟨_, hloop.trans hframes⟩
  · exact ⟨[], rfl, by simp, fun k p hp => ⟨p, hp, .refl p⟩⟩

end Writes

/-- The code has put `frames` on the stack and left alone the flags, apart from that of listening, and the pipes in
`spared`. -/
structure Spares (spared : Nat → Prop) (s t : MediaProxyPriv) (frames : List UvFrame) : Prop where
  stack : t.stack = frames ++ s.stack
  plain : ∀ f ∈ frames, f.isPlain = true
  closes : ∀ k, .close k ∈ frames → ¬ spared k
  connecting : t.flags.connecting = s.flags.connecting
  reconnect : t.flags.reconnect = s.flags.reconnect
  disconnect : t.flags.disconnect = s.flags.disconnect
  cpipe : ∀ k, spared k → s.cpipe = some k → t.cpipe = some k
  pipe : ∀ k, spared k → ∀ p, s.pipes[k]? = some p → ∃ p', t.pipes[k]? = some p' ∧ p.Continues p'

/-- The proxy is not released before the client disconnects. -/
theorem mediaUvFreeProxy_of_live (hlive : s.flags.disconnect = false) : mediaUvFreeProxy s = s := by
  unfold mediaUvFreeProxy
  rw [hlive]
  split <;> rfl

namespace Spares

theorem awaited (ht : Spares spared s t frames) (hspared : spared k) (hk : s.Awaited k) : t.Awaited k := by
  obtain ⟨hcpipe, hclose, p, hp, hawaits⟩ := hk
  obtain ⟨p', hp', hcontinues⟩ := ht.pipe k hspared p hp
  refine ⟨ht.cpipe k hspared hcpipe, ?_, p', hp', hcontinues.awaits hawaits⟩
  rw [ht.stack, List.mem_append]
  exact not_or.2 ⟨fun hframes => ht.closes k hframes hspared, hclose⟩

theorem expects (ht : Spares spared s t frames) (hspared : ∀ k, s.Awaited k → spared k) (hs : s.Expects replied) :
    t.Expects replied := by
  obtain ⟨k, hcpipe, hk, hnone⟩ := hs
  exact ⟨k, ht.cpipe k (hspared k hk) hcpipe, ht.awaited (hspared k hk) hk, hnone⟩

theorem handling (ht : Spares spared s t frames) (hs : s.Handling) : t.Handling := by
  obtain ⟨f, hf, hhandles⟩ := hs
  refine ⟨f, ht.stack ▸ List.mem_append_right _ hf, ?_⟩
  cases f with
  | handleParcel => exact ht.connecting.trans hhandles
  | _ => exact hhandles

/-- Nothing is called and the pipes stay. -/
theorem same (hstack : t.stack = s.stack) (hconnecting : t.flags.connecting = s.flags.connecting)
    (hreconnect : t.flags.reconnect = s.flags.reconnect) (hdisconnect : t.flags.disconnect = s.flags.disconnect)
    (hcpipe : t.cpipe = s.cpipe) (hpipes : t.pipes = s.pipes) : Spares spared s t [] where
  stack := hstack
  plain := by simp
  closes := by simp
  connecting := hconnecting
  reconnect := hreconnect
  disconnect := hdisconnect
  cpipe k _ hk := hcpipe.trans hk
  pipe k _ p hp := ⟨p, (congrArg (·[k]?) hpipes).trans hp, .refl p⟩

theorem trans {frames' : List UvFrame} (hs : Spares spared s t frames) (ht : Spares spared t u frames') :
    Spares spared s u (frames' ++ frames) where
  stack := by rw [ht.stack, hs.stack, List.append_assoc]
  plain f hf := (List.mem_append.1 hf).elim (ht.plain f) (hs.plain f)
  closes k hk := (List.mem_append.1 hk).elim (ht.closes k) (hs.closes k)
  connecting := ht.connecting.trans hs.connecting
  reconnect := ht.reconnect.trans hs.reconnect
  disconnect := ht.disconnect.trans hs.disconnect
  cpipe k hk hcpipe := ht.cpipe k hk (hs.cpipe k hk hcpipe)
  pipe k hk p hp := by
    obtain ⟨p', hp', hcontinues⟩ := hs.pipe k hk p hp
    obtain ⟨p'', hp'', hcontinues'⟩ := ht.pipe k hk p' hp'
    exact ⟨p'', hp'', hcontinues.trans hcontinues'⟩

/-- Further frames are put on the stack. -/
theorem push {frames' : List UvFrame} (hs : Spares spared s t frames) (hplain : ∀ f ∈ frames', f.isPlain = true)
    (hcloses : ∀ k, .close k ∈ frames' → ¬ spared k) : Spares spared s (t.push frames') (frames' ++ frames) where
  stack := by rw [MediaProxyPriv.push, hs.stack, List.append_assoc]
  plain f hf := (List.mem_append.1 hf).elim (hplain f) (hs.plain f)
  closes k hk := (List.mem_append.1 hk).elim (hcloses k) (hs.closes k)
  connecting := hs.connecting
  reconnect := hs.reconnect
  disconnect := hs.disconnect
  cpipe := hs.cpipe
  pipe := hs.pipe

/-- Another pipe changes, or something is written to a pipe. -/
theorem modifyPipe (s : MediaProxyPriv) (k : Nat) (g : MediaPipePriv → MediaPipePriv)
    (hg : spared k → ∀ p, s.pipes[k]? = some p → p.Continues (g p)) : Spares spared s (s.modifyPipe k g) [] where
  stack := rfl
  plain := by simp
  closes := by simp
  connecting := rfl
  reconnect := rfl
  disconnect := rfl
  cpipe _ _ hk := hk
  pipe j hj p hp := by
    simp only [MediaProxyPriv.modifyPipe, List.getElem?_modify, hp, Option.map_eq_map, Option.map_some]
    by_cases heq : k = j
    · subst heq
      exact ⟨g p, by simp, hg hj p hp⟩
    · exact ⟨p, by simp [heq], .refl p⟩

/-- A pipe closes that is not spared, or is not there yet. -/
theorem close (s : MediaProxyPriv) (hk : spared k → s.pipes[k]? = none) : Spares spared s (mediaUvClose s k) [] :=
  modifyPipe s k _ fun hspared p hp => by
    rw [hk hspared] at hp
    cases hp

/-- There is a new pipe, which may be the event pipe. -/
theorem newPipe (s : MediaProxyPriv) (epipe : Option Nat) (p₀ : MediaPipePriv) :
    Spares spared s { s with epipe, pipes := s.pipes ++ [p₀] } [] where
  stack := rfl
  plain := by simp
  closes := by simp
  connecting := rfl
  reconnect := rfl
  disconnect := rfl
  cpipe _ _ hk := hk
  pipe k _ p hp := ⟨p, List.getElem?_append_left (List.getElem?_eq_some_iff.1 hp).1 ▸ hp, .refl p⟩

/-- Writing spares every pipe. -/
theorem of_writes (ht : Writes s t frames) : Spares spared s t frames where
  stack := ht.stack_eq
  plain f hf := UvFrame.isPlain_of_isWriting (ht.writing f hf)
  closes k hk := by cases ht.writing _ hk
  connecting := congrArg ProxyFlags.connecting ht.flags
  reconnect := congrArg ProxyFlags.reconnect ht.flags
  disconnect := congrArg ProxyFlags.disconnect ht.flags
  cpipe _ _ hk := ht.cpipe.trans hk
  pipe k _ := ht.pipe k

/-- `on_listen` is called, before plain frames. -/
theorem callOnListen (hs : Spares spared s t frames) (ret : Int) {rest : List UvFrame}
    (hplain : ∀ f ∈ rest, f.isPlain = true) (hcloses : ∀ k, .close k ∉ rest) :
    ∃ frames, Spares spared s (callOnListen t ret rest) frames := by
  unfold MediaFramework.callOnListen
  split
  · refine ⟨_, hs.push (fun f hf => ?_) fun k hk => ?_⟩
    · rcases List.mem_cons.1 hf with rfl | hf
      · rfl
      · exact hplain f hf
    · exact absurd ((List.mem_cons.1 hk).resolve_left nofun) (hcloses k)
  · exact ⟨_, hs.push hplain fun k hk => absurd hk (hcloses k)⟩

/-- Whether the server pipe is spared: it is a new one that no caller knows. -/
theorem listenOne (spared : Nat → Prop) (c : UvConfig) (s : MediaProxyPriv) (o : Outcome)
    (hnew : ∀ k, spared k → k < s.pipes.length) :
    ∃ frames, Spares spared s (mediaUvListenOne c s o).2 frames := by
  have hlast : ¬ spared s.pipes.length := fun hspared => Nat.lt_irrefl _ (hnew _ hspared)
  have hpipe : Spares spared s { s with epipe := some s.pipes.length, pipes := s.pipes ++ [mediaUvAllocPipe] } [] :=
    newPipe s (some s.pipes.length) mediaUvAllocPipe
  have hfailed : ∀ {t : MediaProxyPriv} {frames : List UvFrame} (ret : Int), Spares spared s t frames →
      ∃ frames, Spares spared s (MediaFramework.callOnListen (mediaUvClose t s.pipes.length) ret []) frames := by
    intro t frames ret ht
    exact (ht.trans (close t fun hspared => absurd hspared hlast)).callOnListen ret (by simp) (by simp)
  unfold mediaUvListenOne
  split
  · have hnone : Spares spared s { s with epipe := none } [] := same rfl rfl rfl rfl rfl rfl
    exact hnone.callOnListen _ (by simp) (by simp)
  · dsimp only
    split
    · exact ⟨_, hpipe.trans (same rfl rfl rfl rfl rfl rfl)⟩
    · split_ifs
      · exact hfailed _ hpipe
      · exact hfailed _ hpipe
      all_goals
        have hlistens := hpipe.trans (modifyPipe { s with
          epipe := some s.pipes.length, pipes := s.pipes ++ [mediaUvAllocPipe] } s.pipes.length
          (fun p => { p with listening := true }) fun hspared => absurd hspared hlast)
        obtain ⟨frames, hframes⟩ := Writes.createNotify (MediaProxyPriv.modifyPipe { s with
          epipe := some s.pipes.length, pipes := s.pipes ++ [mediaUvAllocPipe] } s.pipes.length
          fun p => { p with listening := true }) o
        have hsent := hlistens.trans (of_writes hframes)
      · exact hfailed _ hsent
      · exact ⟨_, hsent.trans (same rfl rfl rfl rfl rfl rfl)⟩

theorem listenOneCb (spared : Nat → Prop) (s : MediaProxyPriv) (server : Nat) (status : Int) (o : Outcome)
    (hserver : ¬ spared server) (hnew : ∀ k, spared k → k < s.pipes.length) :
    ∃ frames, Spares spared s (mediaUvListenOneCb s server status o) frames := by
  have hlast : ¬ spared s.pipes.length := fun hspared => Nat.lt_irrefl _ (hnew _ hspared)
  have hflags : Spares spared s { s with flags := { s.flags with listening := false } } [] :=
    same rfl rfl rfl rfl rfl rfl
  have hclosed : ∀ {t : MediaProxyPriv} {frames rest : List UvFrame} (ret : Int), Spares spared s t frames →
      (∀ f ∈ rest, f.isPlain = true) → (∀ k, .close k ∉ rest) →
        ∃ frames, Spares spared s (MediaFramework.callOnListen (mediaUvClose t server) ret rest) frames := by
    intro t frames rest ret ht hplain hcloses
    exact (ht.trans (close t fun hspared => absurd hspared hserver)).callOnListen ret hplain hcloses
  unfold mediaUvListenOneCb
  dsimp only
  split_ifs
  · exact hclosed _ hflags (by simp) (by simp)
  · exact hclosed _ hflags (by simp) (by simp)
  · have hnone : Spares spared s { s with flags := { s.flags with listening := false }, epipe := none } [] :=
      same rfl rfl rfl rfl rfl rfl
    exact hclosed _ hnone (by simp) (by simp)
  · refine hclosed _ ((hflags.trans (newPipe _ (some s.pipes.length) mediaUvAllocPipe)).trans (close _ ?_)) (by simp)
      (by simp)
    exact fun hspared => absurd hspared hlast
  · refine hclosed _ (hflags.trans (newPipe _ (some s.pipes.length) mediaUvAllocPipe)) ?_ (by simp)
    simp [UvFrame.isPlain]

theorem closeCb (s : MediaProxyPriv) (k : Nat) (hlive : s.flags.disconnect = false) (hk : ¬ spared k) :
    Spares spared s (mediaUvCloseCb s k) [] := by
  have hfree : ∀ {t : MediaProxyPriv}, t.flags = s.flags → Spares spared s t [] →
      Spares spared s (mediaUvFreeProxy t) [] := by
    intro t hflags ht
    rwa [mediaUvFreeProxy_of_live (hflags ▸ hlive)]
  have hclosed : Spares spared s (s.modifyPipe k fun p => { p with closed := true }) [] :=
    modifyPipe s k _ fun hspared => absurd hspared hk
  unfold mediaUvCloseCb
  dsimp only
  split_ifs with hcpipe
  · refine hfree rfl ⟨hclosed.stack, hclosed.plain, hclosed.closes, hclosed.connecting, hclosed.reconnect,
      hclosed.disconnect, fun j hj hcj => ?_, hclosed.pipe⟩
    cases hcpipe.symm.trans hcj
    exact absurd hj hk
  · exact hfree rfl ⟨hclosed.stack, hclosed.plain, hclosed.closes, hclosed.connecting, hclosed.reconnect,
      hclosed.disconnect, hclosed.cpipe, hclosed.pipe⟩
  · exact hfree rfl hclosed

theorem listen (spared : Nat → Prop) (c : UvConfig) (s : MediaProxyPriv) (onListen : Bool) (o : Outcome)
    (hnew : ∀ k, spared k → k < s.pipes.length) : ∃ frames, Spares spared s (mediaUvListen c s onListen o).2 frames := by
  unfold mediaUvListen
  split
  · exact ⟨[], same rfl rfl rfl rfl rfl rfl⟩
  · dsimp only
    split
    · have hset : Spares spared s { s with onListen } [] := same rfl rfl rfl rfl rfl rfl
      obtain ⟨frames, hframes⟩ := listenOne spared c { s with onListen } o hnew
      exact ⟨_, hset.trans hframes⟩
    · exact ⟨[], same rfl rfl rfl rfl rfl rfl⟩

end Spares

/-! ### Connecting -/

theorem mediaUvConnectOne_flags (c : UvConfig) (s : MediaProxyPriv) (o : Outcome) :
    (mediaUvConnectOne c s o).2.flags.reconnect = s.flags.reconnect ∧
      (mediaUvConnectOne c s o).2.flags.disconnect = s.flags.disconnect ∧
        (mediaUvConnectOne c s o).2.stack = s.stack := by
  unfold mediaUvConnectOne
  split
  · exact ⟨rfl, rfl, rfl⟩
  · split
    · exact ⟨rfl, rfl, rfl⟩
    · dsimp only
      split
      · exact ⟨rfl, rfl, rfl⟩
      · split <;> exact ⟨rfl, rfl, rfl⟩

/-- `media_uv_reconnect_one` takes the next name or reports that there is none. -/
theorem mediaUvReconnectOne_attempts (c : UvConfig) (s : MediaProxyPriv) (o : Outcome) :
    (mediaUvReconnectOne c s o).flags.reconnect = s.flags.reconnect ∧
      (mediaUvReconnectOne c s o).flags.disconnect = s.flags.disconnect ∧
        ∃ frames, (mediaUvReconnectOne c s o).stack = frames ++ s.stack ∧ (∀ f ∈ frames, f.isPlain = true) ∧
          ((mediaUvReconnectOne c s o).cpus.length < s.cpus.length ∨ frames = [.user (.onConnect (-ENOENT))]) := by
  unfold mediaUvReconnectOne
  split
  · exact ⟨rfl, rfl, [.user (.onConnect (-ENOENT))], rfl, by simp [UvFrame.isPlain], .inr rfl⟩
  · rename_i name names hnames
    have hclose : ∀ s : MediaProxyPriv, (closeCpipe s).flags = s.flags ∧ (closeCpipe s).stack = s.stack ∧
        (closeCpipe s).cpus = s.cpus := by
      intro s
      unfold closeCpipe
      split <;> exact ⟨rfl, rfl, rfl⟩
    obtain ⟨hflags, hstack, hcpus⟩ := hclose { s with cpu := some name, cpus := names }
    obtain ⟨hreconnect, hdisconnect, hstack'⟩ :=
      mediaUvConnectOne_flags c (closeCpipe { s with cpu := some name, cpus := names }) o
    have hcpus' : (mediaUvConnectOne c (closeCpipe { s with cpu := some name, cpus := names }) o).2.cpus = names :=
      (congrArg UvControl.cpus (mediaUvConnectOne_control c _ o)).trans hcpus
    rw [hflags] at hreconnect hdisconnect
    rw [hstack] at hstack'
    dsimp only
    split
    · refine ⟨hreconnect, hdisconnect, [.user (.onConnect _)], congrArg _ hstack', by simp [UvFrame.isPlain], .inl ?_⟩
      rw [MediaProxyPriv.push, hcpus', hnames]
      exact Nat.lt_succ_self _
    · refine ⟨hreconnect, hdisconnect, [], hstack', by simp, .inl ?_⟩
      rw [hcpus', hnames]
      exact Nat.lt_succ_self _

theorem mediaUvConnectOneCb_of_neg (s : MediaProxyPriv) (pipe : Nat) {status : Int} (hstatus : status < 0) :
    mediaUvConnectOneCb s pipe status = (s.modifyPipe pipe fun p => { p with connecting := false }).push
      [.user (.onConnect status), .close pipe] := by
  have hgiven : ∀ flag, ¬ (0 ≤ status ∧ flag = true) := by
    rintro flag ⟨hle, -⟩
    omega
  simp only [mediaUvConnectOneCb, hgiven, if_false, if_pos hstatus]

theorem mediaUvConnectOneCb_of_nonneg (hlive : s.flags.disconnect = false) (pipe : Nat) {status : Int}
    (hstatus : 0 ≤ status) :
    (mediaUvConnectOneCb s pipe status).flags = 0 ∧ (mediaUvConnectOneCb s pipe status).stack =
      [UvFrame.user (.onConnect status), .restoreFlags s.flags] ++ s.stack := by
  have hlive' : ¬ (0 ≤ status ∧ (s.modifyPipe pipe fun p => { p with connecting := false }).flags.disconnect = true) := by
    rintro ⟨-, hdisconnect⟩
    cases hlive.symm.trans hdisconnect
  unfold mediaUvConnectOneCb
  dsimp only
  rw [if_neg hlive', if_neg (by omega)]
  exact ⟨rfl, rfl⟩

end MediaFramework
