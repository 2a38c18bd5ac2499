import MediaFramework.Client.UvLive

/-!
# A disconnected proxy is released

`media_uv_disconnect` only shuts the command pipe down when no flag is set.  Otherwise it sets
`MEDIA_PROXYFLAG_DISCONNECT` and leaves the rest to the callbacks that are still to come.  The proxy is released when
its two pipes are closed: the command pipe has to end by itself, and the server then ends the event pipe.
-/

namespace MediaFramework

variable {c : UvConfig} {s s' t : MediaProxyPriv} {o : Outcome} {i : UvInput} {w : MediaWritePriv} {f : UvFrame}
  {stack frames popped : List UvFrame} {k : Nat} {p p' : MediaPipePriv} {replied : List Nat}

/-! ### What is said about a run -/

/-- The record of a run: the replies, whether a call of `media_uv_disconnect` has returned 0, and the number of calls
of `on_release`. -/
structure ReleaseRecord where
  replied : List Nat := []
  disconnected : Bool := false
  releases : Nat := 0

variable {h : ReleaseRecord}

/-- The step is a call of `media_uv_disconnect` that returns 0. -/
def AcceptsDisconnect (s : MediaProxyPriv) (o : Outcome) : UvInput → Bool
  | .disconnect onRelease => (mediaUvDisconnect s onRelease o).1 = 0
  | _ => false

def ReleaseRecord.note (s : MediaProxyPriv) (i : UvInput × Outcome) (s' : MediaProxyPriv) (h : ReleaseRecord) :
    ReleaseRecord where
  replied := noteReply s i.1 h.replied
  disconnected := h.disconnected || AcceptsDisconnect s i.2 i.1
  releases := h.releases + (CallsRelease s s').toNat

/-- A proxy with the record of its release. -/
def uvReleaseMachine (c : UvConfig) (cpu : String) (cpus : List String) :
    Machine (MediaProxyPriv × ReleaseRecord) (UvInput × Outcome) :=
  (uvMachine c cpu cpus).recorded {} ReleaseRecord.note

/-- No callback of libuv is to come, when the server connects back to a pipe that listens, and closes the event socket
of a client that has closed its command socket. -/
structure MediaProxyPriv.AtRest (s : MediaProxyPriv) (replied : List Nat) : Prop where
  quiescent : s.Quiescent replied
  listened : ∀ (k : Nat) (p : MediaPipePriv), s.pipes[k]? = some p → p.listening = true → p.closing = true
  ended : s.cpipe = none → ∀ k ∈ s.epipe, ∀ p ∈ s.pipes[k]?, p.reading = false

/-- A proxy that was disconnected is released: at rest it is freed, and `on_release`, if there is one, has been called.
It is never called twice. -/
structure ReleasedOnce (s : MediaProxyPriv) (h : ReleaseRecord) : Prop where
  released : h.disconnected = true → s.AtRest h.replied → s.freed = true ∧ h.releases = s.onRelease.toNat
  atMost : h.releases ≤ 1

/-! ### How the command pipe ends -/

/-- The frame closes the pipe when `MEDIA_PROXYFLAG_DISCONNECT` is set. -/
def UvFrame.quits (pipe : Nat) : UvFrame → Bool
  | .close k | .applyWritings k | .applyQuit k => k = pipe
  | _ => false

/-- The pipe of the reply whose `on_receive` is running. -/
def UvFrame.handledPipe : UvFrame → Option Nat
  | .handleParcel _ pipe => some pipe
  | _ => none

def UvFrame.restoresConnecting : UvFrame → Bool
  | .restoreFlags flags => flags.connecting
  | _ => false

/-- The reply being handled is the first one, on the pipe `k`. -/
def MediaProxyPriv.HandlesFirst (s : MediaProxyPriv) (k : Nat) : Prop :=
  s.flags.connecting = true ∧ (∃ f ∈ s.stack, f.handledPipe = some k) ∧ ∀ f ∈ s.stack, ∀ j ∈ f.handledPipe, j = k

/-- `MEDIA_PROXYFLAG_CONNECTING` is set, or will be when the flags are restored. -/
def MediaProxyPriv.IsConnecting (s : MediaProxyPriv) : Prop :=
  s.flags.connecting = true ∨ ∃ f ∈ s.stack, f.restoresConnecting = true

/-- The first reply is still to come on the pipe `k`. -/
def MediaProxyPriv.AwaitsFirst (s : MediaProxyPriv) (replied : List Nat) (k : Nat) (p : MediaPipePriv) : Prop :=
  s.IsConnecting ∧ (∀ f ∈ s.stack, f.handledPipe = none) ∧ p.reading = true ∧
    (∃ w ∈ p.sent, w.code = MEDIA_PARCEL_SEND_ACK) ∧ k ∉ replied

/-- With `MEDIA_PROXYFLAG_DISCONNECT` set, the command pipe `k` ends. -/
def MediaProxyPriv.CommandEnds (s : MediaProxyPriv) (replied : List Nat) (k : Nat) (p : MediaPipePriv) : Prop :=
  p.closing = true ∨ p.shutting = true ∨ p.connecting = true ∨ (∃ f ∈ s.stack, f.quits k = true) ∨ s.HandlesFirst k ∨
    s.AwaitsFirst replied k p

/-- The client disconnects when the command pipe is shut down by the call or ends anyway, and then replies come on the
current pipes only. -/
def EndsAfterDisconnect (p : MediaProxyPriv × ReleaseRecord) (i : UvInput × Outcome) : Prop :=
  match i.1 with
  | .disconnect _ => p.1.flags.disconnect = false → ∀ k ∈ p.1.cpipe, ∀ pipe ∈ p.1.pipes[k]?,
      p.1.flags = 0 ∧ i.2.req = true ∨ p.1.CommandEnds p.2.replied k pipe
  | .parcel k _ => p.2.disconnected = true → p.1.cpipe = some k ∨ p.1.epipe = some k
  | _ => True

/-! ### A proxy that is about to end -/

/-- The client has disconnected, and the proxy is not yet released: a pipe is left, and the command pipe ends. -/
structure Ending (s : MediaProxyPriv) (replied : List Nat) : Prop where
  flagged : s.flags.disconnect = true
  left : s.cpipe ≠ none ∨ s.epipe ≠ none
  command : ∀ k p, s.cpipe = some k → s.pipes[k]? = some p → s.CommandEnds replied k p

/-- A proxy that is about to end is not at rest. -/
theorem Ending.not_atRest (h : Ending s replied) (hlive : PipesLive s) : ¬ s.AtRest replied := by
  intro hrest
  have hidle := hrest.quiescent.idle
  have hstack := hrest.quiescent.stack
  have hcpipe : s.cpipe = none := by
    rw [← Option.not_isSome_iff_eq_none]
    intro hsome
    obtain ⟨k, hk⟩ := Option.isSome_iff_exists.1 hsome
    obtain ⟨p, hp, hopen⟩ := hlive.command k hk
    have hpipe := hidle k p hp
    rcases h.command k p hk hp with hclosing | hshutting | hconnecting | ⟨f, hf, -⟩ | ⟨-, ⟨f, hf, -⟩, -⟩ |
      ⟨-, -, hreading, ⟨w, hw, hrequest⟩, hnone⟩
    · cases hopen.symm.trans (hpipe.closed hclosing)
    · cases hpipe.shut.symm.trans hshutting
    · cases hpipe.connected.symm.trans hconnecting
    · rw [hstack] at hf
      cases hf
    · rw [hstack] at hf
      cases hf
    · exact hnone (hpipe.mem_replied hreading hw hrequest)
  rcases h.left with hleft | hleft
  · exact hleft hcpipe
  · obtain ⟨k, hk⟩ := Option.ne_none_iff_exists'.1 hleft
    obtain ⟨p, hp, hopen, hends⟩ := hlive.event k hk
    have hclosing : p.closing ≠ true := by
      intro hclosing
      cases hopen.symm.trans ((hidle k p hp).closed hclosing)
    rcases hends with hends | hreading | hlistening | hread
    · exact hclosing hends
    · cases (hrest.ended hcpipe k hk p hp).symm.trans hreading
    · exact hclosing (hrest.listened k p hp hlistening)
    · rw [hstack] at hread
      cases hread

namespace Ending

/-- The code goes on: it takes frames off the stack and puts others on it, keeps the two pipes, and closes the command
pipe where it no longer waits for something. -/
private theorem go (popped frames : List UvFrame) (h : Ending s replied) (hlive : PipesLive s)
  (hs : s.stack = popped ++ stack)
    (ht : t.stack = frames ++ stack) (hflag : t.flags.disconnect = true)
    (hconnecting : s.flags.connecting = true → t.flags.connecting = true) (hcpipe : t.cpipe = s.cpipe)
    (hepipe : t.epipe = s.epipe)
    (hpipe : ∀ k p, s.cpipe = some k → s.pipes[k]? = some p → ∃ p', t.pipes[k]? = some p' ∧
      (p.Continues p' ∨ p'.closing = true ∨ ∃ f ∈ frames, f.quits k = true))
    (hquit : ∀ f ∈ popped, ∀ k, s.cpipe = some k → f.quits k = true → (∃ f' ∈ frames, f'.quits k = true) ∨
      ∀ p', t.pipes[k]? = some p' → p'.closing = true)
    (hrestore : ∀ f ∈ popped, f.restoresConnecting = true → t.flags.connecting = true)
    (hhandled : ∀ f ∈ popped ++ frames, f.handledPipe = none) : Ending t replied := by
  refine ⟨hflag, by rw [hcpipe, hepipe]; exact h.left, fun k p' hk hp' => ?_⟩
  rw [hcpipe] at hk
  obtain ⟨p, hp, -⟩ := hlive.command k hk
  obtain ⟨p'', hp'', hends⟩ := hpipe k p hk hp
  cases hp'.symm.trans hp''
  have hquits : (∃ f ∈ frames, f.quits k = true) → t.CommandEnds replied k p' := by
    rintro ⟨f, hf, hquits⟩
    exact .inr (.inr (.inr (.inl ⟨f, ht ▸ List.mem_append_left _ hf, hquits⟩)))
  have hold : ∀ f ∈ s.stack, f ∈ popped ∨ f ∈ stack := fun f hf => List.mem_append.1 (hs ▸ hf)
  have hnew : ∀ f ∈ t.stack, f ∈ frames ∨ f ∈ stack := fun f hf => List.mem_append.1 (ht ▸ hf)
  have hstays : ∀ f ∈ stack, f ∈ t.stack := fun f hf => ht ▸ List.mem_append_right _ hf
  have hfrom : ∀ f ∈ stack, f ∈ s.stack := fun f hf => hs ▸ List.mem_append_right _ hf
  have hreply : ∀ f ∈ t.stack, ∀ j ∈ f.handledPipe, f ∈ s.stack := by
    intro f hf j hj
    rcases hnew f hf with hf | hf
    · rw [hhandled f (List.mem_append_right _ hf)] at hj
      cases hj
    · exact hfrom f hf
  rcases hends with hcontinues | hclosing | hframes
  · rcases h.command k p hk hp with hclosing | hshutting | hconnects | ⟨f, hf, hquits'⟩ | ⟨hset, ⟨f, hf, hfk⟩, hall⟩ |
      ⟨hwill, hnone, hreading, ⟨w, hw, hrequest⟩, hreplied⟩
    · exact .inl (hcontinues.closing.trans hclosing)
    · exact .inr (.inl (hcontinues.shutting.trans hshutting))
    · exact .inr (.inr (.inl (hcontinues.connecting.trans hconnects)))
    · rcases hold f hf with hf | hf
      · exact (hquit f hf k hk hquits').elim hquits fun hclosing => .inl (hclosing p' hp')
      · exact .inr (.inr (.inr (.inl ⟨f, hstays f hf, hquits'⟩)))
    · -- the reply that is being handled stays on the stack
      have hfstays : f ∈ stack := by
        refine (hold f hf).resolve_left fun hpopped => ?_
        rw [hhandled f (List.mem_append_left _ hpopped)] at hfk
        cases hfk
      refine .inr (.inr (.inr (.inr (.inl ⟨hconnecting hset, ⟨f, hstays f hfstays, hfk⟩, fun g hg j hj => ?_⟩))))
      exact hall g (hreply g hg j hj) j hj
    · cases hclosing : p.closing with
      | true => exact .inl (hcontinues.closing.trans hclosing)
      | false =>
        refine .inr (.inr (.inr (.inr (.inr ⟨?_, fun g hg => ?_, hcontinues.reading hclosing hreading,
          ⟨w, hcontinues.sent hw, hrequest⟩, hreplied⟩))))
        · rcases hwill with hset | ⟨f, hf, hrestores⟩
          · exact .inl (hconnecting hset)
          · rcases hold f hf with hf | hf
            · exact .inl (hrestore f hf hrestores)
            · exact .inr ⟨f, hstays f hf, hrestores⟩
        · rcases hnew g hg with hg | hg
          · exact hhandled g (List.mem_append_right _ hg)
          · exact hnone g (hfrom g hg)
  · exact .inl hclosing
  · exact hquits hframes

/-- The frame `f` is taken off the stack, and the code keeps the pipes. -/
private theorem pop (frames : List UvFrame) (h : Ending s replied) (hlive : PipesLive s) (hs : s.stack = f :: stack)
    (ht : t.stack = frames ++ stack) (hflag : t.flags.disconnect = true)
    (hconnecting : s.flags.connecting = true → t.flags.connecting = true) (hcpipe : t.cpipe = s.cpipe)
    (hepipe : t.epipe = s.epipe)
    (hpipe : ∀ k p, s.cpipe = some k → s.pipes[k]? = some p → ∃ p', t.pipes[k]? = some p' ∧ p.Continues p')
    (hquit : ∀ k, f.quits k = true → ∃ f' ∈ frames, f'.quits k = true)
    (hrestore : f.restoresConnecting = true → t.flags.connecting = true) (hf : f.handledPipe = none)
    (hframes : ∀ g ∈ frames, g.handledPipe = none) : Ending t replied := by
  refine h.go [f] frames hlive hs ht hflag hconnecting hcpipe hepipe (fun k p hk hp => ?_)
    (fun g hg k _ hquits => ?_) (fun g hg hrestores => ?_) fun g hg => ?_
  · obtain ⟨p', hp', hcontinues⟩ := hpipe k p hk hp
    exact ⟨p', hp', .inl hcontinues⟩
  · rw [List.mem_singleton.1 hg] at hquits
    exact .inl (hquit k hquits)
  · rw [List.mem_singleton.1 hg] at hrestores
    exact hrestore hrestores
  · rcases List.mem_cons.1 hg with rfl | hg
    · exact hf
    · exact hframes g hg

/-- A frame that concerns no pipe is done. -/
private theorem done (h : Ending s replied) (hlive : PipesLive s) (hs : s.stack = f :: stack) (ht : t.stack = stack)
    (hflags : t.flags = s.flags) (hcpipe : t.cpipe = s.cpipe) (hepipe : t.epipe = s.epipe) (hpipes : t.pipes = s.pipes)
    (hquit : ∀ k, f.quits k = false) (hrestore : f.restoresConnecting = false) (hf : f.handledPipe = none) :
    Ending t replied := by
  refine h.pop [] hlive hs ht (by rw [hflags]; exact h.flagged) (by rw [hflags]; exact id) hcpipe hepipe
    (fun k p _ hp => ⟨p, hpipes ▸ hp, .refl p⟩) (fun k hquits => ?_) (fun hrestores => ?_) hf (by simp)
  · rw [hquit k] at hquits
    cases hquits
  · rw [hrestore] at hrestores
    cases hrestores

/-- The code only writes. -/
private theorem writes (h : Ending s replied) (hlive : PipesLive s) (ht : Writes s t frames) : Ending t replied := by
  have hflags := ht.flags
  refine h.go [] frames hlive rfl ht.stack_eq (by rw [hflags]; exact h.flagged) (by rw [hflags]; exact id) ht.cpipe
    ht.epipe (fun k p _ hp => ?_) nofun nofun fun g hg => ?_
  · obtain ⟨p', hp', hcontinues⟩ := ht.pipe k p hp
    exact ⟨p', hp', .inl hcontinues⟩
  · have hwriting := ht.writing g hg
    cases g <;> first | rfl | cases hwriting

/-- Nothing changes that matters here. -/
private theorem same (h : Ending s replied) (hlive : PipesLive s) (hstack : t.stack = s.stack)
    (hconnecting : t.flags.connecting = s.flags.connecting) (hflag : t.flags.disconnect = true)
    (hcpipe : t.cpipe = s.cpipe) (hepipe : t.epipe = s.epipe) (hpipes : t.pipes = s.pipes) : Ending t replied := by
  refine h.go [] [] hlive rfl hstack hflag (fun hset => hconnecting.trans hset) hcpipe hepipe
    (fun k p _ hp => ?_) nofun nofun nofun
  exact ⟨p, hpipes ▸ hp, .inl (.refl p)⟩

/-- A pipe closes while libuv calls. -/
private theorem closes (h : Ending s replied) (hlive : PipesLive s) (k : Nat) : Ending (mediaUvClose s k) replied := by
  refine h.go [] [] hlive rfl rfl h.flagged id rfl rfl (fun j p _ hp => ?_) nofun nofun nofun
  by_cases hj : k = j
  · exact ⟨{ p with reading := false, closing := true }, by simp [mediaUvClose, MediaProxyPriv.modifyPipe, hp, hj],
      .inr (.inl rfl)⟩
  · exact ⟨p, by simp [mediaUvClose, MediaProxyPriv.modifyPipe, hp, hj], .inl (.refl p)⟩

/-- Calm calls of the user are put on the stack. -/
private theorem push (h : Ending s replied) (hlive : PipesLive s) (hframes : ∀ g ∈ frames, g.handledPipe = none) :
    Ending (s.push frames) replied :=
  h.go [] frames hlive rfl rfl h.flagged id rfl rfl (fun _ p _ hp => ⟨p, hp, .inl (.refl p)⟩) nofun nofun hframes

/-- The rest of `media_uv_handle_parcel`: after the first reply, the pipe will be closed. -/
private theorem handle {pipe : Nat} (frames : List UvFrame) (h : Ending s replied)
  (hs : s.stack = .handleParcel w pipe :: stack)
    (ht : t.stack = frames ++ stack) (hflag : t.flags.disconnect = true) (hcpipe : t.cpipe = s.cpipe)
    (hepipe : t.epipe = s.epipe) (hpipes : t.pipes = s.pipes)
    (hfirst : s.flags.connecting = true → .applyWritings pipe ∈ frames) : Ending t replied := by
  have hmem : .handleParcel w pipe ∈ s.stack := hs ▸ List.mem_cons_self
  refine ⟨hflag, by rw [hcpipe, hepipe]; exact h.left, fun k p hk hp => ?_⟩
  rw [hcpipe] at hk
  rw [hpipes] at hp
  rcases h.command k p hk hp with hclosing | hshutting | hconnects | ⟨f, hf, hquits⟩ | ⟨hset, -, hall⟩ | ⟨-, hnone, -⟩
  · exact .inl hclosing
  · exact .inr (.inl hshutting)
  · exact .inr (.inr (.inl hconnects))
  · rw [hs] at hf
    rcases List.mem_cons.1 hf with rfl | hf
    · cases hquits
    · exact .inr (.inr (.inr (.inl ⟨f, ht ▸ List.mem_append_right _ hf, hquits⟩)))
  · obtain rfl : pipe = k := hall _ hmem pipe rfl
    refine .inr (.inr (.inr (.inl ⟨.applyWritings pipe, ht ▸ List.mem_append_left _ (hfirst hset), ?_⟩)))
    simp [UvFrame.quits]
  · cases hnone _ hmem

/-- A frame runs. -/
private theorem runFrame (h : Ending s replied) (hlive : PipesLive s) (hs : s.stack = f :: stack) :
    Ending (MediaFramework.runFrame c { s with stack } o f) replied := by
  have hpipes : ∀ k p, s.cpipe = some k → s.pipes[k]? = some p → ∃ p', s.pipes[k]? = some p' ∧ p.Continues p' :=
    fun _ p _ hp => ⟨p, hp, .refl p⟩
  cases f with
  | user callback => exact h.done hlive hs rfl rfl rfl rfl rfl (fun _ => rfl) rfl rfl
  | writeCb w => exact h.done hlive hs rfl rfl rfl rfl rfl (fun _ => rfl) rfl rfl
  | handleParcel w pipe =>
    simp only [MediaFramework.runFrame]
    split
    · split
      · rename_i hlistening
        have hoff := congrArg ProxyFlags.disconnect hlistening
        cases h.flagged.symm.trans hoff
      · exact h.handle [.applyWritings pipe] hs rfl h.flagged rfl rfl rfl fun _ => by simp
    · rename_i hconnecting
      exact h.handle [] hs rfl h.flagged rfl rfl rfl fun hset => absurd hset hconnecting
  | applyWritings pipe =>
    -- Whatever is delivered between, the pipe is closed at the end: `applyQuit` stays on the stack for it.
    simp only [MediaFramework.runFrame]
    split
    · exact h.pop [.deliveryWriting, .applyQuit pipe] hlive hs rfl h.flagged id rfl rfl hpipes
        (fun k hk => ⟨.applyQuit pipe, by simp, hk⟩) (by rintro ⟨⟩) rfl (by simp [UvFrame.handledPipe])
    · exact h.pop [.applyQuit pipe] hlive hs rfl h.flagged id rfl rfl hpipes
        (fun k hk => ⟨.applyQuit pipe, by simp, hk⟩) (by rintro ⟨⟩) rfl (by simp [UvFrame.handledPipe])
  | applyQuit pipe =>
    simp only [MediaFramework.runFrame, if_pos h.flagged]
    exact h.pop [.deliveryWriting, .close pipe] hlive hs rfl h.flagged id rfl rfl hpipes
      (fun k hk => ⟨.close pipe, by simp, hk⟩) (by rintro ⟨⟩) rfl (by simp [UvFrame.handledPipe])
  | deliveryWriting =>
    exact h.pop [_] hlive hs rfl h.flagged id rfl rfl hpipes (by rintro _ ⟨⟩) (by rintro ⟨⟩) rfl
      (by simp [UvFrame.handledPipe])
  | deliveryLoop w =>
    cases w with
    | none => exact h.done hlive hs rfl rfl rfl rfl rfl (fun _ => rfl) rfl rfl
    | some w =>
      obtain ⟨frames, hframes⟩ := Writes.deliveryLoop { s with stack } w o
      have hflags := hframes.flags
      refine h.pop _ hlive hs hframes.stack_eq ?_ (fun hset => ?_) hframes.cpipe hframes.epipe
        (fun k p _ hp => hframes.pipe k p hp) (by rintro _ ⟨⟩) (by rintro ⟨⟩) rfl fun g hg => ?_
      · exact (congrArg ProxyFlags.disconnect hflags).trans h.flagged
      · exact (congrArg ProxyFlags.connecting hflags).trans hset
      · have hwriting := hframes.writing g hg
        cases g <;> first | rfl | cases hwriting
  | close pipe =>
    refine h.go [.close pipe] [] hlive hs rfl h.flagged id rfl rfl (fun k p _ hp => ?_)
      (fun g hg k _ hquits => .inr fun p' hp' => ?_) (by simp [UvFrame.restoresConnecting])
      (by simp [UvFrame.handledPipe])
    · by_cases hk : pipe = k
      · exact ⟨{ p with reading := false, closing := true },
          by simp [MediaFramework.runFrame, mediaUvClose, MediaProxyPriv.modifyPipe, hp, hk], .inr (.inl rfl)⟩
      · exact ⟨p, by simp [MediaFramework.runFrame, mediaUvClose, MediaProxyPriv.modifyPipe, hp, hk], .inl (.refl p)⟩
    · rw [List.mem_singleton.1 hg] at hquits
      obtain rfl : pipe = k := by simpa [UvFrame.quits] using hquits
      simp only [MediaFramework.runFrame, mediaUvClose, MediaProxyPriv.modifyPipe, List.getElem?_modify_eq,
        Option.map_eq_map, Option.map_eq_some_iff] at hp'
      obtain ⟨q, -, rfl⟩ := hp'
      rfl
  | restoreFlags flags =>
    -- The saved flags are joined with those set since, so that neither DISCONNECT nor CONNECTING is lost.
    refine h.pop [] hlive hs rfl (Bool.or_eq_true_iff.2 (.inl h.flagged))
      (fun hset => Bool.or_eq_true_iff.2 (.inl hset)) rfl rfl hpipes (by rintro _ ⟨⟩)
      (fun hset => Bool.or_eq_true_iff.2 (.inr hset)) rfl (by rintro _ ⟨⟩)
  | readStart =>
    -- Reading starts on the event pipe, which is not the command pipe.
    simp only [MediaFramework.runFrame]
    split
    · exact h.done hlive hs rfl rfl rfl rfl rfl (fun _ => rfl) rfl rfl
    · rename_i pipe hepipe
      refine h.pop [] hlive hs rfl h.flagged id rfl rfl (fun k p hk hp => ⟨p, ?_, .refl p⟩) (by rintro _ ⟨⟩)
        (by rintro ⟨⟩) rfl (by rintro _ ⟨⟩)
      have hother : pipe ≠ k := by
        rintro rfl
        exact hlive.apart pipe hk hepipe
      simp [MediaProxyPriv.modifyPipe, hp, hother]
  | freeProxy => exact h.done hlive hs rfl rfl rfl rfl rfl (fun _ => rfl) rfl rfl

end Ending

/-! ### The release -/

/-- The step releases the proxy: it calls `on_release`, if there is one, and will free the proxy. -/
structure Releases (s t : MediaProxyPriv) : Prop where
  flagged : t.flags.disconnect = true
  stack : t.onRelease = false ∧ t.stack = .freeProxy :: s.stack ∨
    t.onRelease = true ∧ t.stack = .user .onRelease :: .freeProxy :: s.stack

theorem Releases.calls (h : Releases s t) : CallsRelease s t = t.onRelease := by
  rcases h.stack with ⟨hnone, hstack⟩ | ⟨hsome, hstack⟩
  · rw [hnone, CallsRelease, hstack]
    simp
  · rw [hsome, CallsRelease, hstack]
    simp only [List.length_cons, List.head?_cons, decide_true, Bool.and_true, decide_eq_true_eq]
    omega

/-- With `MEDIA_PROXYFLAG_DISCONNECT` set, the proxy is released unless a pipe is left. -/
theorem mediaUvFreeProxy_flagged (hflag : t.flags.disconnect = true) (hstack : t.stack = s.stack) :
    (t.cpipe ≠ none ∨ t.epipe ≠ none) ∧ mediaUvFreeProxy t = t ∨ Releases s (mediaUvFreeProxy t) := by
  unfold mediaUvFreeProxy
  split
  · rename_i hleft
    exact .inl ⟨by simpa [← Option.isSome_iff_ne_none] using hleft, rfl⟩
  · dsimp only
    split
    · rename_i hsome
      exact .inr ⟨hflag, .inr ⟨hsome, by rw [← hstack]; rfl⟩⟩
    · rename_i hnone
      exact .inr ⟨hflag, .inl ⟨Bool.eq_false_iff.2 hnone, by rw [← hstack]; rfl⟩⟩

theorem callsRelease_of_stack (hstack : t.stack = s.stack) : CallsRelease s t = false := by
  simp [CallsRelease, hstack]

/-- `media_uv_free_proxy`, when the client has disconnected and the command pipe ends. -/
private theorem ends_of_freeProxy (hflag : t.flags.disconnect = true) (hstack : t.stack = s.stack)
    (hcommand : ∀ k p, t.cpipe = some k → t.pipes[k]? = some p → t.CommandEnds replied k p) :
    Ending (mediaUvFreeProxy t) replied ∧ CallsRelease s (mediaUvFreeProxy t) = false ∨
      Releases s (mediaUvFreeProxy t) := by
  rcases mediaUvFreeProxy_flagged hflag hstack with ⟨hleft, heq⟩ | hreleases
  · rw [heq]
    exact .inl ⟨⟨hflag, hleft, hcommand⟩, callsRelease_of_stack hstack⟩
  · exact .inr hreleases

/-- A client that disconnects, with a command pipe that ends. -/
theorem ending_of_disconnect (onRelease : Bool) (hoff : s.flags.disconnect = false)
    (hends : ∀ k ∈ s.cpipe, ∀ p ∈ s.pipes[k]?, s.flags = 0 ∧ o.req = true ∨ s.CommandEnds replied k p) :
    Ending (uvStep c s o (.disconnect onRelease)) replied ∧
        CallsRelease s (uvStep c s o (.disconnect onRelease)) = false ∨
      Releases s (uvStep c s o (.disconnect onRelease)) := by
  simp only [uvStep, mediaUvDisconnect, hoff, Bool.false_eq_true, if_false]
  split
  · rename_i hzero
    unfold mediaUvShutdown
    split
    · rename_i hnone
      refine ends_of_freeProxy rfl rfl fun k p hk => ?_
      cases hnone.symm.trans hk
    · rename_i pipe hpipe
      split
      · rename_i hreq
        refine ends_of_freeProxy rfl rfl fun k p hk hp => (hends k hk p hp).resolve_left ?_
        rintro ⟨-, hset⟩
        simp [hset] at hreq
      · split
        · refine ends_of_freeProxy rfl rfl fun k p hk hp => .inl ?_
          cases hpipe.symm.trans hk
          simp only [mediaUvClose, MediaProxyPriv.modifyPipe, List.getElem?_modify_eq, Option.map_eq_map,
            Option.map_eq_some_iff] at hp
          obtain ⟨q, -, rfl⟩ := hp
          rfl
        · refine ends_of_freeProxy rfl rfl fun k p hk hp => .inr (.inl ?_)
          cases hpipe.symm.trans hk
          simp only [MediaProxyPriv.modifyPipe, List.getElem?_modify_eq, Option.map_eq_map,
            Option.map_eq_some_iff] at hp
          obtain ⟨q, -, rfl⟩ := hp
          rfl
  · rename_i hset
    refine ends_of_freeProxy rfl rfl fun k p hk hp => (hends k hk p hp).resolve_left ?_
    rintro ⟨hzero, -⟩
    exact hset hzero

/-- A connection that is established after the client has disconnected is closed again. -/
private theorem Ending.connectCb (h : Ending s replied) (hlive : PipesLive s) (pipe : Nat) (status : Int) :
    Ending (uvStep c s o (.connectCb pipe status)) replied := by
  have hfails : (if 0 ≤ status ∧ (s.modifyPipe pipe fun p => { p with connecting := false }).flags.disconnect = true
      then -ECANCELED else status) < 0 := by
    split
    · decide
    · rename_i hstatus
      have hneg : ¬ 0 ≤ status := fun hle => hstatus ⟨hle, h.flagged⟩
      omega
  simp only [uvStep, mediaUvConnectOneCb, if_pos hfails]
  refine h.go [] [_, .close pipe] hlive rfl rfl h.flagged id rfl rfl (fun k p _ hp => ?_) (by rintro _ ⟨⟩)
    (by rintro _ ⟨⟩) (by simp [UvFrame.handledPipe])
  by_cases hk : pipe = k
  · refine ⟨{ p with connecting := false }, by simp [MediaProxyPriv.push, MediaProxyPriv.modifyPipe, hp, hk],
      .inr (.inr ⟨.close pipe, by simp, by simp [UvFrame.quits, hk]⟩)⟩
  · exact ⟨p, by simp [MediaProxyPriv.push, MediaProxyPriv.modifyPipe, hp, hk], .inl (.refl p)⟩

private theorem Ending.parcel (h : Ending s replied) (hlive : PipesLive s) {pipe parcel : Nat} (hstack : s.stack = [])
    (hg : s.cpipe = some pipe ∨ s.epipe = some pipe) :
    (uvStep c s o (.parcel pipe parcel)).aborted = true ∨
      Ending (uvStep c s o (.parcel pipe parcel)) (noteReply s (.parcel pipe parcel) replied) ∧
        CallsRelease s (uvStep c s o (.parcel pipe parcel)) = false := by
  have hcalm : CallsRelease s (uvStep c s o (.parcel pipe parcel)) = false :=
    (Calm.step c s o (by rintro _ ⟨⟩) (.inr (by rintro _ ⟨⟩))).callsRelease
  simp only [uvStep, mediaUvHandleParcel] at hcalm ⊢
  split
  · rename_i hepipe
    have hsame : noteReply s (.parcel pipe parcel) replied = replied := if_pos hepipe
    rw [hsame]
    refine .inr ⟨h.push hlive (by simp [UvFrame.handledPipe]), ?_⟩
    simpa [hepipe] using hcalm
  · rename_i hepipe
    split
    · exact .inl rfl
    · rename_i w _ hsentq
      have hcpipe : s.cpipe = some pipe := hg.resolve_right hepipe
      refine .inr ⟨⟨h.flagged, h.left, fun k p hk hp => ?_⟩, by simp [CallsRelease, MediaProxyPriv.push]⟩
      cases hcpipe.symm.trans hk
      rcases h.command pipe p hcpipe hp with hclosing | hshutting | hconnects | ⟨f, hf, -⟩ | ⟨-, ⟨f, hf, -⟩, -⟩ |
        ⟨hconnecting, -⟩
      · exact .inl hclosing
      · exact .inr (.inl hshutting)
      · exact .inr (.inr (.inl hconnects))
      · rw [hstack] at hf
        cases hf
      · rw [hstack] at hf
        cases hf
      · -- the first reply is being handled now
        have hset : s.flags.connecting = true := by
          refine hconnecting.resolve_right ?_
          rintro ⟨f, hf, -⟩
          rw [hstack] at hf
          cases hf
        refine .inr (.inr (.inr (.inr (.inl ⟨hset, ⟨.handleParcel w pipe, by simp [MediaProxyPriv.push], rfl⟩, ?_⟩))))
        simp [MediaProxyPriv.push, hstack, UvFrame.handledPipe]

/-- A client that has disconnected takes no listener's connection. -/
private theorem Ending.listenCb (h : Ending s replied) (hlive : PipesLive s) (pipe : Nat) (status : Int) :
    Ending (uvStep c s o (.listenCb pipe status)) replied := by
  have hflags : Ending { s with flags := { s.flags with listening := false } } replied :=
    h.same hlive rfl rfl h.flagged rfl rfl rfl
  have hlive' : PipesLive { s with flags := { s.flags with listening := false } } :=
    hlive.keep (.same rfl) rfl rfl id
  have hcalls : ∀ ret, Ending (callOnListen (mediaUvClose { s with flags := { s.flags with listening := false } } pipe)
      ret []) replied := by
    intro ret
    unfold callOnListen
    split
    · exact (hflags.closes hlive' pipe).push (hlive'.close pipe) (by simp [UvFrame.handledPipe])
    · exact (hflags.closes hlive' pipe).push (hlive'.close pipe) (by rintro _ ⟨⟩)
  simp only [uvStep, mediaUvListenOneCb, if_pos h.flagged]
  split
  · exact hcalls _
  · exact hcalls _

private theorem Ending.shutdownCb (h : Ending s replied) (hlive : PipesLive s) (pipe : Nat) :
    Ending (uvStep c s o (.shutdownCb pipe)) replied := by
  simp only [uvStep]
  refine h.go [] [] hlive rfl rfl h.flagged id rfl rfl (fun j p _ hp => ?_) (by rintro _ ⟨⟩) (by rintro _ ⟨⟩)
    (by rintro _ ⟨⟩)
  by_cases hj : pipe = j
  · exact ⟨{ p with reading := false, closing := true, shutting := false },
      by simp [mediaUvClose, MediaProxyPriv.modifyPipe, hp, hj], .inr (.inl rfl)⟩
  · exact ⟨p, by simp [mediaUvClose, MediaProxyPriv.modifyPipe, hp, hj], .inl (.refl p)⟩

/-- `media_uv_close_cb` releases the proxy when it was the last pipe. -/
private theorem Ending.closeCb (h : Ending s replied) (pipe : Nat) :
    Ending (uvStep c s o (.closeCb pipe)) replied ∧ CallsRelease s (uvStep c s o (.closeCb pipe)) = false ∨
      Releases s (uvStep c s o (.closeCb pipe)) := by
  have hpipe : ∀ {k : Nat} {p : MediaPipePriv}, k ≠ pipe →
      (s.modifyPipe pipe fun p => { p with closed := true }).pipes[k]? = some p → s.pipes[k]? = some p := by
    intro k p hk hp
    simpa [MediaProxyPriv.modifyPipe, Ne.symm hk] using hp
  simp only [uvStep, mediaUvCloseCb]
  split_ifs with hcpipe hepipe
  · exact ends_of_freeProxy h.flagged rfl (by rintro _ _ ⟨⟩)
  · refine ends_of_freeProxy h.flagged rfl fun k p hk hp => h.command k p hk (hpipe ?_ hp)
    rintro rfl
    exact hcpipe hk
  · refine ends_of_freeProxy h.flagged rfl fun k p hk hp => h.command k p hk (hpipe ?_ hp)
    rintro rfl
    exact hcpipe hk

/-- A step of a proxy that is about to end. -/
theorem Ending.step (h : Ending s replied) (hlive : PipesLive s) (hready : i.ready s = true)
    (hg : ∀ k parcel, i = .parcel k parcel → s.cpipe = some k ∨ s.epipe = some k) :
    (uvStep c s o i).aborted = true ∨
      Ending (uvStep c s o i) (noteReply s i replied) ∧ CallsRelease s (uvStep c s o i) = false ∨
        Releases s (uvStep c s o i) := by
  have hcalm : (∀ onRelease, i ≠ .disconnect onRelease) → (∀ pipe, i ≠ .closeCb pipe) →
      CallsRelease s (uvStep c s o i) = false := fun hi hclose => (Calm.step c s o hi (.inr hclose)).callsRelease
  cases i with
  | send ack =>
    obtain ⟨frames, hframes⟩ := Writes.send s ack o
    exact .inr (.inl ⟨h.writes hlive hframes, hcalm (by rintro _ ⟨⟩) (by rintro _ ⟨⟩)⟩)
  | listen onListen =>
    refine .inr (.inl ⟨?_, hcalm (by rintro _ ⟨⟩) (by rintro _ ⟨⟩)⟩)
    simp only [uvStep, mediaUvListen]
    split
    · exact h
    · split
      · rename_i hzero
        have hoff := congrArg ProxyFlags.disconnect hzero
        cases h.flagged.symm.trans hoff
      · exact h.same hlive rfl rfl h.flagged rfl rfl rfl
  | reconnect =>
    refine .inr (.inl ⟨?_, hcalm (by rintro _ ⟨⟩) (by rintro _ ⟨⟩)⟩)
    simp only [uvStep, mediaUvReconnect]
    split
    · exact h
    · split
      · rename_i hzero
        have hoff := congrArg ProxyFlags.disconnect hzero
        cases h.flagged.symm.trans hoff
      · exact h.same hlive rfl rfl h.flagged rfl rfl rfl
  | disconnect onRelease =>
    -- A second disconnection is refused.
    simp only [uvStep, mediaUvDisconnect, if_pos h.flagged]
    exact .inr (.inl ⟨h, callsRelease_of_stack rfl⟩)
  | run =>
    refine .inr (.inl ⟨?_, hcalm (by rintro _ ⟨⟩) (by rintro _ ⟨⟩)⟩)
    simp only [uvStep]
    split
    · exact h
    · rename_i f stack hs
      split
      · exact h.same hlive rfl rfl h.flagged rfl rfl rfl
      · exact h.runFrame hlive hs
  | connectCb pipe status =>
    exact .inr (.inl ⟨h.connectCb hlive pipe status, hcalm (by rintro _ ⟨⟩) (by rintro _ ⟨⟩)⟩)
  | writeCb pipe w status =>
    obtain ⟨frames, hframes⟩ := Writes.completed s pipe w status
    exact .inr (.inl ⟨h.writes hlive hframes, hcalm (by rintro _ ⟨⟩) (by rintro _ ⟨⟩)⟩)
  | parcel pipe parcel =>
    have hstack : s.stack = [] := List.isEmpty_iff.1 (Bool.and_eq_true_iff.1 hready).1
    exact (h.parcel hlive hstack (hg pipe parcel rfl)).imp_right .inl
  | readErr pipe => exact .inr (.inl ⟨h.closes hlive pipe, hcalm (by rintro _ ⟨⟩) (by rintro _ ⟨⟩)⟩)
  | listenCb pipe status =>
    exact .inr (.inl ⟨h.listenCb hlive pipe status, hcalm (by rintro _ ⟨⟩) (by rintro _ ⟨⟩)⟩)
  | shutdownCb pipe => exact .inr (.inl ⟨h.shutdownCb hlive pipe, hcalm (by rintro _ ⟨⟩) (by rintro _ ⟨⟩)⟩)
  | closeCb pipe => exact .inr (h.closeCb pipe)

/-! ### A released proxy -/

/-- The proxy is freed, or will be when `on_release` returns. -/
structure Releasing (s : MediaProxyPriv) (h : ReleaseRecord) : Prop where
  flagged : s.flags.disconnect = true
  freeing : s.freed = true ∨ ∃ stack, s.stack = .freeProxy :: stack ∨ s.stack = .user .onRelease :: .freeProxy :: stack
  once : h.releases = s.onRelease.toNat

/-- A step of a released proxy that does not go wrong. -/
theorem Releasing.step (h₀ : Releasing s h) (hready : i.ready s = true) (hcalls : i.callsFreed s = false) :
    Releasing (uvStep c s o i) (h.note s (i, o) (uvStep c s o i)) := by
  have hkeep : ∀ {t : MediaProxyPriv}, t.stack = s.stack → t.flags.disconnect = true → t.freed = s.freed →
      t.onRelease = s.onRelease → Releasing t (h.note s (i, o) t) := by
    intro t hstack hflag hfreed honRelease
    refine ⟨hflag, by rw [hfreed, hstack]; exact h₀.freeing, ?_⟩
    rw [ReleaseRecord.note, callsRelease_of_stack hstack, honRelease]
    exact h₀.once
  have hlibuv : s.stack.isEmpty = true → s.freed = false → False := by
    intro hempty hfreed
    rcases h₀.freeing with hset | ⟨stack, hstack | hstack⟩
    · cases hfreed.symm.trans hset
    · rw [hstack] at hempty
      cases hempty
    · rw [hstack] at hempty
      cases hempty
  cases i with
  | send ack =>
    simp only [uvStep, mediaUvSend, if_pos h₀.flagged]
    split
    · exact hkeep rfl h₀.flagged rfl rfl
    · exact hkeep rfl h₀.flagged rfl rfl
  | listen onListen =>
    simp only [uvStep, mediaUvListen]
    split
    · exact hkeep rfl h₀.flagged rfl rfl
    · split
      · rename_i hzero
        have hoff := congrArg ProxyFlags.disconnect hzero
        cases h₀.flagged.symm.trans hoff
      · exact hkeep rfl h₀.flagged rfl rfl
  | reconnect =>
    simp only [uvStep, mediaUvReconnect]
    split
    · exact hkeep rfl h₀.flagged rfl rfl
    · split
      · rename_i hzero
        have hoff := congrArg ProxyFlags.disconnect hzero
        cases h₀.flagged.symm.trans hoff
      · exact hkeep rfl h₀.flagged rfl rfl
  | disconnect onRelease =>
    simp only [uvStep, mediaUvDisconnect, if_pos h₀.flagged]
    exact hkeep rfl h₀.flagged rfl rfl
  | run =>
    have hcalm := (Calm.step (i := .run) c s o (by rintro _ ⟨⟩) (.inr (by rintro _ ⟨⟩))).callsRelease
    simp only [uvStep] at hcalm ⊢
    split
    · exact hkeep rfl h₀.flagged rfl rfl
    · rename_i f stack hs
      simp only [hs] at hcalm
      split
      · exact hkeep rfl h₀.flagged rfl rfl
      · rename_i htouches
        rw [if_neg htouches] at hcalm
        have honce : ∀ {t : MediaProxyPriv}, CallsRelease s t = false → t.onRelease = s.onRelease →
            (h.note s (.run, o) t).releases = t.onRelease.toNat := by
          intro t hcalm honRelease
          rw [ReleaseRecord.note, hcalm, honRelease]
          exact h₀.once
        rcases h₀.freeing with hfreed | ⟨rest, hrest | hrest⟩
        · -- a frame that is left and does not touch the proxy
          cases f with
          | user callback => exact ⟨h₀.flagged, .inl hfreed, honce hcalm rfl⟩
          | writeCb w => exact ⟨h₀.flagged, .inl hfreed, honce hcalm rfl⟩
          | close pipe => exact ⟨h₀.flagged, .inl hfreed, honce hcalm rfl⟩
          | _ => exact absurd (by rw [hfreed]; rfl) htouches
        · cases hs.symm.trans hrest
          exact ⟨h₀.flagged, .inl rfl, honce hcalm rfl⟩
        · cases hs.symm.trans hrest
          exact ⟨h₀.flagged, .inr ⟨rest, .inl rfl⟩, honce hcalm rfl⟩
  | connectCb pipe status => exact absurd hcalls fun hfreed => hlibuv (Bool.and_eq_true_iff.1 hready).1 hfreed
  | writeCb pipe w status => exact absurd hcalls fun hfreed => hlibuv (Bool.and_eq_true_iff.1 hready).1 hfreed
  | parcel pipe parcel => exact absurd hcalls fun hfreed => hlibuv (Bool.and_eq_true_iff.1 hready).1 hfreed
  | readErr pipe => exact absurd hcalls fun hfreed => hlibuv (Bool.and_eq_true_iff.1 hready).1 hfreed
  | listenCb pipe status => exact absurd hcalls fun hfreed => hlibuv (Bool.and_eq_true_iff.1 hready).1 hfreed
  | shutdownCb pipe => exact absurd hcalls fun hfreed => hlibuv (Bool.and_eq_true_iff.1 hready).1 hfreed
  | closeCb pipe => exact absurd hcalls fun hfreed => hlibuv (Bool.and_eq_true_iff.1 hready).1 hfreed

/-! ### Every run -/

/-- What holds in every state of a run: before the client disconnects, from then until the release, and after it. -/
structure UvReleases (s : MediaProxyPriv) (h : ReleaseRecord) : Prop where
  live : s.fault = none → PipesLive s
  atMost : h.releases ≤ 1
  phase : s.fault ≠ none ∨ s.aborted = true ∨
    h.disconnected = false ∧ h.releases = 0 ∧ NotDisconnected s ∨
    h.disconnected = true ∧ h.releases = 0 ∧ Ending s h.replied ∨
    h.disconnected = true ∧ Releasing s h

theorem UvReleases.releasedOnce (h₀ : UvReleases s h) : ReleasedOnce s h := by
  refine ⟨fun hdisconnected hrest => ?_, h₀.atMost⟩
  rcases h₀.phase with hfault | haborted | ⟨hconnected, -⟩ | ⟨-, -, hending⟩ | ⟨-, hreleasing⟩
  · exact absurd hrest.quiescent.fault hfault
  · cases hrest.quiescent.aborted.symm.trans haborted
  · cases hdisconnected.symm.trans hconnected
  · exact absurd hrest (hending.not_atRest (h₀.live hrest.quiescent.fault))
  · refine ⟨?_, hreleasing.once⟩
    refine hreleasing.freeing.resolve_right ?_
    rintro ⟨stack, hstack | hstack⟩
    · cases hrest.quiescent.stack.symm.trans hstack
    · cases hrest.quiescent.stack.symm.trans hstack

/-- The release of a proxy that was about to end. -/
private theorem releasing_of_releases (ht : Releases s t) (hnone : h.releases = 0) :
    (h.note s (i, o) t).releases ≤ 1 ∧ Releasing t (h.note s (i, o) t) := by
  have honce : (h.note s (i, o) t).releases = t.onRelease.toNat := by
    rw [ReleaseRecord.note, hnone, ht.calls, Nat.zero_add]
  refine ⟨honce ▸ Bool.toNat_le _, ht.flagged, .inr ⟨s.stack, ?_⟩, honce⟩
  exact ht.stack.imp And.right And.right

theorem UvReleases.next (h₀ : UvReleases s h) (hg : EndsAfterDisconnect (s, h) (i, o))
    (hn : uvNext c s (i, o) = some s') : UvReleases s' (h.note s (i, o) s') := by
  have hkept : ∀ {t : MediaProxyPriv}, CallsRelease s t = false → (h.note s (i, o) t).releases = h.releases := by
    intro t hcalm
    rw [ReleaseRecord.note, hcalm]
    rfl
  cases hs' : s'.fault with
  | some fault =>
    obtain ⟨-, ⟨fault, rfl⟩ | ⟨rfl, hfault⟩⟩ := uvNext_cases hn
    · have hsame : CallsRelease s (s.crash fault) = false := callsRelease_of_stack rfl
      exact ⟨nofun, by rw [hkept hsame]; exact h₀.atMost, .inl nofun⟩
    · cases hfault.symm.trans hs'
  | none =>
    obtain ⟨hgoes, hready, hcalls, rfl⟩ := uvNext_step hn hs'
    have hlive := h₀.live hgoes.1
    have hlive' : PipesLive (uvStep c s o i) := hlive.step hs'
    have hzero : h.releases = 0 → (h.note s (i, o) (uvStep c s o i)).releases ≤ 1 := by
      intro hnone
      rw [ReleaseRecord.note, hnone, Nat.zero_add]
      exact Bool.toNat_le _
    have hdisconnected : h.disconnected = true → (h.note s (i, o) (uvStep c s o i)).disconnected = true := by
      intro hset
      rw [ReleaseRecord.note, hset, Bool.true_or]
    rcases h₀.phase with hfault | haborted | ⟨hconnected, hnone, hoff⟩ | ⟨hset, hnone, hending⟩ | ⟨hset, hreleasing⟩
    · exact absurd hgoes.1 hfault
    · cases hgoes.2.symm.trans haborted
    · by_cases hi : ∃ onRelease, i = .disconnect onRelease
      · -- the call that counts
        obtain ⟨onRelease, rfl⟩ := hi
        have haccepts : (h.note s (.disconnect onRelease, o) (uvStep c s o (.disconnect onRelease))).disconnected =
            true := by
          simp [ReleaseRecord.note, AcceptsDisconnect, mediaUvDisconnect, hoff.flag]
        rcases ending_of_disconnect (c := c) onRelease hoff.flag (hg hoff.flag) with
          ⟨hends, hcalm⟩ | hreleases
        · exact ⟨fun _ => hlive', hzero hnone,
            .inr (.inr (.inr (.inl ⟨haccepts, (hkept hcalm).trans hnone, hends⟩)))⟩
        · obtain ⟨hmost, hreleasing⟩ := releasing_of_releases (i := .disconnect onRelease) (o := o) hreleases hnone
          exact ⟨fun _ => hlive', hmost, .inr (.inr (.inr (.inr ⟨haccepts, hreleasing⟩)))⟩
      · have hcalm : Calm s (uvStep c s o i) := Calm.step c s o (fun onRelease heq => hi ⟨onRelease, heq⟩)
          (.inl hoff.flag)
        have haccepts : AcceptsDisconnect s o i = false := by
          cases i <;> first | rfl | exact absurd ⟨_, rfl⟩ hi
        refine ⟨fun _ => hlive', hzero hnone, .inr (.inr (.inl ⟨?_, ?_, hoff.calm hcalm⟩))⟩
        · rw [ReleaseRecord.note, haccepts, hconnected]
          rfl
        · exact (hkept hcalm.callsRelease).trans hnone
    · have hparcel : ∀ k parcel, i = .parcel k parcel → s.cpipe = some k ∨ s.epipe = some k := by
        rintro k parcel rfl
        exact hg hset
      rcases hending.step (c := c) (o := o) hlive hready hparcel with haborted | ⟨hends, hcalm⟩ | hreleases
      · exact ⟨fun _ => hlive', hzero hnone, .inr (.inl haborted)⟩
      · exact ⟨fun _ => hlive', hzero hnone,
          .inr (.inr (.inr (.inl ⟨hdisconnected hset, (hkept hcalm).trans hnone, hends⟩)))⟩
      · obtain ⟨hmost, hreleasing⟩ := releasing_of_releases (i := i) (o := o) hreleases hnone
        exact ⟨fun _ => hlive', hmost, .inr (.inr (.inr (.inr ⟨hdisconnected hset, hreleasing⟩)))⟩
    · have hreleasing' := hreleasing.step (c := c) (o := o) hready hcalls
      refine ⟨fun _ => hlive', ?_, .inr (.inr (.inr (.inr ⟨hdisconnected hset, hreleasing'⟩)))⟩
      rw [hreleasing'.once]
      exact Bool.toNat_le _

/-- In every run in which the client disconnects only when the command pipe is shut down or ends anyway, a proxy that
was disconnected is released, once. -/
theorem uvRun_releasedOnce {cpu : String} {cpus : List String} {p : MediaProxyPriv × ReleaseRecord}
    (h : (uvReleaseMachine c cpu cpus).ReachableVia EndsAfterDisconnect p) : ReleasedOnce p.1 p.2 := by
  have hsound : UvReleases p.1 p.2 := by
    refine Machine.ReachableVia.recorded (P := UvReleases) ?_ ?_ h
    · exact ⟨fun _ => PipesLive.start c cpu cpus, Nat.zero_le 1,
        .inr (.inr (.inl ⟨rfl, rfl, NotDisconnected.start c cpu cpus⟩))⟩
    · rintro s h ⟨i, o⟩ s' hs hg hn
      exact hs.next hg hn
  exact hsound.releasedOnce

/-! ### A run that meets the condition, and one that does not -/

instance (s : MediaProxyPriv) (k : Nat) : Decidable (s.HandlesFirst k) := inferInstanceAs (Decidable (_ ∧ _ ∧ _))

instance (s : MediaProxyPriv) (replied : List Nat) (k : Nat) (p : MediaPipePriv) :
    Decidable (s.AwaitsFirst replied k p) :=
  inferInstanceAs (Decidable ((_ ∨ _) ∧ _ ∧ _ ∧ _ ∧ _))

instance (s : MediaProxyPriv) (replied : List Nat) (k : Nat) (p : MediaPipePriv) :
    Decidable (s.CommandEnds replied k p) :=
  inferInstanceAs (Decidable (_ ∨ _ ∨ _ ∨ _ ∨ _ ∨ _))

instance (p : MediaProxyPriv × ReleaseRecord) : (i : UvInput × Outcome) → Decidable (EndsAfterDisconnect p i)
  | (.disconnect _, _) => inferInstanceAs (Decidable (_ → ∀ _ ∈ _, ∀ _ ∈ _, _))
  | (.parcel _ _, _) => inferInstanceAs (Decidable (_ → _ ∨ _))
  | (.run, _) | (.send _, _) | (.listen _, _) | (.reconnect, _) | (.connectCb _ _, _) | (.writeCb _ _ _, _)
  | (.readErr _, _) | (.listenCb _ _, _) | (.shutdownCb _, _) | (.closeCb _, _) => inferInstanceAs (Decidable True)

/-- The state and the record after the inputs, if every step meets the condition. -/
def sampleUvReleases (g : MediaProxyPriv × ReleaseRecord → UvInput × Outcome → Prop) [∀ p i, Decidable (g p i)]
    (inputs : List UvInput) : Option (MediaProxyPriv × ReleaseRecord) :=
  (uvReleaseMachine sampleUvConfig "ap" []).runFrom g (uvReleaseMachine sampleUvConfig "ap" []).start
    (inputs.map fun i => (i, {}))

/-- The client disconnects before the first reply. -/
def sampleUvReleased : MediaProxyPriv × ReleaseRecord :=
  (sampleUvReleases EndsAfterDisconnect
    ([UvInput.connectCb 0 0, .send true] ++ sampleUvSteps 2 ++ [UvInput.disconnect true,
      .writeCb 0 ⟨0, MEDIA_PARCEL_SEND_ACK, true, false⟩ 0, .parcel 0 7] ++ sampleUvSteps 9 ++ [UvInput.closeCb 0] ++
      sampleUvSteps 2)).get (by decide)

theorem uvRun_releasedOnce_sample : ReleasedOnce sampleUvReleased.1 sampleUvReleased.2 := by
  have h : (uvReleaseMachine sampleUvConfig "ap" []).ReachableVia EndsAfterDisconnect sampleUvReleased :=
    Machine.reachableVia_get (by decide)
  exact uvRun_releasedOnce h

/-- A connected client disconnects while it listens, and then the server connects back. -/
def sampleUvLeaked : MediaProxyPriv × ReleaseRecord :=
  (sampleUvReleases (fun _ _ => True)
    (sampleUvConnected ++ [UvInput.writeCb 0 ⟨0, MEDIA_PARCEL_SEND_ACK, true, false⟩ 0, .listen true, .disconnect true,
      .writeCb 0 ⟨1, MEDIA_PARCEL_CREATE_NOTIFY, false, false⟩ 0, .listenCb 1 0] ++ sampleUvSteps 1 ++
      [UvInput.closeCb 1])).get (by decide)

/-- Without the condition a disconnected proxy may never be released. -/
theorem uvRun_not_releasedOnce : ¬ ∀ (c : UvConfig) (cpu : String) (cpus : List String)
    (p : MediaProxyPriv × ReleaseRecord), (uvReleaseMachine c cpu cpus).Reachable p → ReleasedOnce p.1 p.2 := by
  intro h
  have hreleased := h sampleUvConfig "ap" [] sampleUvLeaked (Machine.reachableVia_get (by decide))
  have hrest : sampleUvLeaked.1.AtRest sampleUvLeaked.2.replied := by
    refine ⟨MediaProxyPriv.quiescent_of_idle (by decide) (by decide) (by decide) (by decide), ?_, by decide⟩
    have hclosing : ∀ k < sampleUvLeaked.1.pipes.length, ∀ p ∈ sampleUvLeaked.1.pipes[k]?,
        p.listening = true → p.closing = true := by decide
    exact fun k p hp => hclosing k (List.getElem?_eq_some_iff.1 hp).1 p hp
  have hfreed := (hreleased.released (by decide) hrest).1
  revert hfreed
  decide

end MediaFramework
