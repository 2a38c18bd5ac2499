import MediaFramework.Client.UvLive
import MediaFramework.Client.UvPipes
import MediaFramework.Library.MessageLife

/-!
# Messages are freed once

`media_uv_free_writing` frees a message when it has been written and there is no response to come.  The two flags are
set by the callbacks of libuv, by `media_uv_handle_parcel` and by `media_uv_send_writing`; but `media_uv_clear_queue`
sets both for all that is queued, also for what is still being written, and does not know of the code that is running.
-/

namespace MediaFramework

open MessageLife

variable {c : UvConfig} {s s' t : MediaProxyPriv} {o : Outcome} {i : UvInput} {w : MediaWritePriv} {f : UvFrame}
  {stack frames : List UvFrame} {k : Nat} {p : MediaPipePriv} {frees : List Nat}

/-! ### Where the messages of a proxy are -/

/-- The `on_receive` of the message is called because it was written in vain. -/
@[simp]
def UvFrame.failing? : UvFrame → Option Nat
  | .writeCb w => some w.id
  | _ => none

/-- The `on_receive` of the message is called with its reply. -/
@[simp]
def UvFrame.answering? : UvFrame → Option Nat
  | .handleParcel w _ => some w.id
  | _ => none

/-- The messages that are being written. -/
def MediaPipePriv.flight (pipes : List MediaPipePriv) : List Nat :=
  (pipes.flatMap MediaPipePriv.writes).map MediaWritePriv.id

def MediaProxyPriv.life (s : MediaProxyPriv) : MessageLife Nat where
  allocated := List.range s.writings.nextId
  pending := s.writings.pendq.map MediaWritePriv.id
  sent := s.writings.sentq.map MediaWritePriv.id
  flight := MediaPipePriv.flight s.pipes
  failing := s.stack.filterMap UvFrame.failing?
  answering := s.stack.filterMap UvFrame.answering?
  written := s.writings.written
  responsed := s.writings.responsed
  closed := s.released

/-- A proxy, and the messages that `media_uv_free_writing` has freed.  It is called whenever a flag is set. -/
def uvFreesMachine (c : UvConfig) (cpu : String) (cpus : List String) :
    Machine (MediaProxyPriv × List Nat) (UvInput × Outcome) :=
  (uvMachine c cpu cpus).recorded [] fun s _ s' frees => frees ++ freedIn s.life s'.life

/-- The code that is still to run uses the message. -/
def UvFrame.uses : UvFrame → Option Nat
  | .writeCb w | .handleParcel w _ | .deliveryLoop (some w) => some w.id
  | _ => none

/-- No message is freed twice, or while it is queued, being written or in use; and when the proxy is released, all are
freed. -/
structure FreedOnce (s : MediaProxyPriv) (frees : List Nat) : Prop where
  once : frees.Nodup
  unlinked : ∀ w ∈ s.writings.pendq ++ s.writings.sentq, w.id ∉ frees
  completed : ∀ id ∈ MediaPipePriv.flight s.pipes, id ∉ frees
  unused : ∀ f ∈ s.stack, ∀ id ∈ f.uses, id ∉ frees
  released : s.released = true → ∀ id < s.writings.nextId, id ∈ frees

/-- The step calls `on_release`, unless a pipe that is not there is shut down. -/
def ReleasesProxy (s : MediaProxyPriv) : UvInput → Prop
  | .disconnect onRelease => ClearsQueue s (.disconnect onRelease)
  | .closeCb pipe => ClearsQueue s (.closeCb pipe)
  | _ => False

/-- The condition on a step: the queues are cleared only when no request in `sentq` is still being written and no
message is about to be delivered; when the proxy is released, nothing is being written, and no reply or failure is
being told; and a write fails only for a request that is still in `sentq`, as `TAILQ_REMOVE` demands. -/
def WritingsDone (s : MediaProxyPriv) (i : UvInput × Outcome) : Prop :=
  (ClearsQueue s i.1 → (∀ w ∈ s.writings.sentq, w.id ∉ MediaPipePriv.flight s.pipes) ∧
      ∀ f ∈ s.stack, f.hasNext = false) ∧
    (ReleasesProxy s i.1 → MediaPipePriv.flight s.pipes = [] ∧ ∀ f ∈ s.stack, f.uses = none) ∧
    match i.1 with
    | .writeCb _ w status => status < 0 ∧ w.code = MEDIA_PARCEL_SEND_ACK → w ∈ s.writings.sentq
    | _ => True

/-! ### What leaves the messages where they are -/

/-- The continuation is not about a message. -/
@[simp]
def UvFrame.isFree (f : UvFrame) : Bool := f.failing?.isNone && f.answering?.isNone

theorem filterMap_free {β : Type} {g : UvFrame → Option β} (hg : ∀ f, f.isFree = true → g f = none)
    (hfree : ∀ f ∈ frames, f.isFree = true) (stack : List UvFrame) :
    (frames ++ stack).filterMap g = stack.filterMap g := by
  have hnone : frames.filterMap g = [] := by simpa using fun f hf => hg f (hfree f hf)
  rw [List.filterMap_append, hnone, List.nil_append]

theorem life_push (s : MediaProxyPriv) (hfree : ∀ f ∈ frames, f.isFree = true) : (s.push frames).life = s.life := by
  have hfailing := filterMap_free (g := UvFrame.failing?) (fun f hf => by simp_all [UvFrame.isFree]) hfree s.stack
  have hanswering := filterMap_free (g := UvFrame.answering?) (fun f hf => by simp_all [UvFrame.isFree]) hfree s.stack
  simp only [MediaProxyPriv.life, MediaProxyPriv.push, hfailing, hanswering]

/-- The writings of one pipe change. -/
theorem flight_modify {pipes : List MediaPipePriv} (hp : pipes[k]? = some p) (g : MediaPipePriv → MediaPipePriv) :
    (MediaPipePriv.flight (pipes.modify k g) ++ p.writes.map MediaWritePriv.id).Perm
      (MediaPipePriv.flight pipes ++ (g p).writes.map MediaWritePriv.id) := by
  obtain ⟨hk, rfl⟩ := List.getElem?_eq_some_iff.1 hp
  have hpipes : pipes = pipes.take k ++ pipes[k] :: pipes.drop (k + 1) := by
    rw [List.getElem_cons_drop, List.take_append_drop]
  have hmodify : pipes.modify k g = pipes.take k ++ g pipes[k] :: pipes.drop (k + 1) :=
    List.modify_eq_take_cons_drop hk
  rw [List.perm_iff_count]
  intro x
  have hflight : (MediaPipePriv.flight pipes).count x =
      (MediaPipePriv.flight (pipes.take k ++ pipes[k] :: pipes.drop (k + 1))).count x := by rw [← hpipes]
  rw [hmodify, List.count_append, List.count_append, hflight]
  simp only [MediaPipePriv.flight, List.flatMap_append, List.flatMap_cons, List.map_append, List.count_append]
  omega

theorem flight_modify_same (pipes : List MediaPipePriv) (k : Nat) {g : MediaPipePriv → MediaPipePriv}
    (hg : ∀ p, (g p).writes = p.writes) : MediaPipePriv.flight (pipes.modify k g) = MediaPipePriv.flight pipes := by
  unfold MediaPipePriv.flight
  rw [List.flatMap_def, List.flatMap_def]
  congr 2
  apply List.ext_getElem?
  intro j
  simp only [List.getElem?_map, List.getElem?_modify]
  cases pipes[j]? with
  | none => rfl
  | some p => by_cases hj : k = j <;> simp [hj, hg]

theorem life_modifyPipe (s : MediaProxyPriv) (k : Nat) {g : MediaPipePriv → MediaPipePriv}
    (hg : ∀ p, (g p).writes = p.writes) : (s.modifyPipe k g).life = s.life := by
  simp only [MediaProxyPriv.life, MediaProxyPriv.modifyPipe, flight_modify_same _ _ hg]

theorem life_close (s : MediaProxyPriv) (k : Nat) : (mediaUvClose s k).life = s.life := life_modifyPipe s k fun _ => rfl

theorem life_newPipe (s : MediaProxyPriv) : { s with pipes := s.pipes ++ [mediaUvAllocPipe] }.life = s.life := by
  have hflight : MediaPipePriv.flight (s.pipes ++ [mediaUvAllocPipe]) = MediaPipePriv.flight s.pipes := by
    simp [MediaPipePriv.flight, mediaUvAllocPipe]
  simp only [MediaProxyPriv.life, hflight]

theorem life_callOnListen (s : MediaProxyPriv) (ret : Int) (hfree : ∀ f ∈ frames, f.isFree = true) :
    (callOnListen s ret frames).life = s.life := by
  unfold callOnListen
  split
  · apply life_push
    intro f hf
    rcases List.mem_cons.1 hf with rfl | hf
    · rfl
    · exact hfree f hf
  · exact life_push s hfree

theorem life_shutdown (s : MediaProxyPriv) (o : Outcome) : (mediaUvShutdown s o).life = s.life := by
  unfold mediaUvShutdown
  split
  · rfl
  · split
    · rfl
    · split
      · exact life_close ..
      · exact life_modifyPipe _ _ fun _ => rfl

/-- `media_uv_shutdown` does at most something to the command pipe. -/
theorem shutdown_same (s : MediaProxyPriv) (o : Outcome) :
    (mediaUvShutdown s o).stack = s.stack ∧ (mediaUvShutdown s o).writings = s.writings ∧
      (mediaUvShutdown s o).cpipe = s.cpipe ∧ (mediaUvShutdown s o).epipe = s.epipe := by
  unfold mediaUvShutdown
  split
  · exact ⟨rfl, rfl, rfl, rfl⟩
  · split
    · exact ⟨rfl, rfl, rfl, rfl⟩
    · split <;> exact ⟨rfl, rfl, rfl, rfl⟩

theorem life_connectOne (c : UvConfig) (s : MediaProxyPriv) (o : Outcome) :
    (mediaUvConnectOne c s o).2.life = s.life := by
  unfold mediaUvConnectOne
  split
  · rfl
  · split
    · rfl
    · dsimp only
      have hnew : { s with
          cpipe := some s.pipes.length
          pipes := s.pipes ++ [mediaUvAllocPipe]
          flags := { s.flags with connecting := true } }.life = s.life := life_newPipe s
      split
      · exact hnew
      · split
        · exact (life_modifyPipe (g := fun p => { p with connecting := true }) _ _ fun _ => rfl).trans hnew
        · exact (life_close _ _).trans hnew

theorem life_closeCpipe (s : MediaProxyPriv) : (closeCpipe s).life = s.life := by
  unfold closeCpipe
  split
  · exact life_close ..
  · rfl

theorem life_listenOneCb (s : MediaProxyPriv) (server : Nat) (status : Int) (o : Outcome) :
    (mediaUvListenOneCb s server status o).life = s.life := by
  unfold mediaUvListenOneCb
  dsimp only
  have hnone : ∀ f ∈ ([] : List UvFrame), f.isFree = true := by simp
  split
  · exact (life_callOnListen _ _ hnone).trans (life_close _ _)
  · split
    · exact (life_callOnListen _ _ hnone).trans (life_close _ _)
    · split
      · exact (life_callOnListen _ _ hnone).trans (life_close _ _)
      · split
        · exact (life_callOnListen _ _ hnone).trans ((life_close _ _).trans ((life_close _ _).trans (life_newPipe s)))
        · refine (life_callOnListen _ _ ?_).trans ((life_close _ _).trans (life_newPipe s))
          simp

/-! ### What moves the messages -/

/-- The continuation may deliver what is queued, now or later. -/
def UvFrame.mayDeliver : UvFrame → Bool
  | .handleParcel _ _ | .applyWritings _ | .applyQuit _ | .deliveryWriting | .deliveryLoop _ => true
  | _ => false

/-- The code has moved the messages, put other continuations on the stack, and taken nothing from `pendq`. -/
structure Steps (b : MessageLife Nat) (s t : MediaProxyPriv) : Prop where
  moves : Moves b t.life
  stack : ∃ frames, t.stack = frames ++ s.stack ∧ ∀ f ∈ frames, f.mayDeliver = false
  pendq : s.writings.pendq ⊆ t.writings.pendq

namespace Steps

variable {b : MessageLife Nat}

theorem same (hlife : t.life = b) (hstack : t.stack = s.stack) (hpendq : t.writings.pendq = s.writings.pendq) :
    Steps b s t :=
  ⟨hlife ▸ .refl, ⟨[], hstack, by simp⟩, hpendq ▸ List.Subset.refl _⟩

/-- Calls are put on the stack. -/
theorem push (h : Steps b s t) (hfree : ∀ f ∈ frames, f.isFree = true) (hframes : ∀ f ∈ frames, f.mayDeliver = false) :
    Steps b s (t.push frames) := by
  obtain ⟨frames', hstack, hcalls⟩ := h.stack
  refine ⟨life_push t hfree ▸ h.moves, ⟨frames ++ frames', ?_, fun f hf => ?_⟩, h.pendq⟩
  · rw [List.append_assoc, ← hstack]
    rfl
  · exact (List.mem_append.1 hf).elim (hframes f) (hcalls f)

/-- Only the pipes, the flags and the like change. -/
theorem keep {u : MediaProxyPriv} (h : Steps b s t) (hlife : u.life = t.life) (hstack : u.stack = t.stack)
    (hpendq : u.writings.pendq = t.writings.pendq) : Steps b s u :=
  ⟨hlife ▸ h.moves, hstack ▸ h.stack, hpendq ▸ h.pendq⟩

theorem of {s' : MediaProxyPriv} (h : Steps b s' t) (hstack : s'.stack = s.stack)
    (hpendq : s'.writings.pendq = s.writings.pendq) : Steps b s t :=
  ⟨h.moves, hstack ▸ h.stack, hpendq ▸ h.pendq⟩

theorem close (h : Steps b s t) (k : Nat) : Steps b s (mediaUvClose t k) := h.keep (life_close t k) rfl rfl

theorem callOnListen (h : Steps b s t) (ret : Int) : Steps b s (callOnListen t ret []) := by
  unfold MediaFramework.callOnListen
  split
  · exact h.push (by simp) (by simp [UvFrame.mayDeliver])
  · exact h

/-- A reconnection, if there is a server left. -/
theorem reconnectOne (c : UvConfig) (s : MediaProxyPriv) (o : Outcome) (hcpus : s.cpus ≠ []) :
    Steps s.life s (mediaUvReconnectOne c s o) := by
  unfold mediaUvReconnectOne
  split
  · rename_i hnone
    exact absurd hnone hcpus
  · rename_i cpu cpus _
    obtain ⟨hstack, hpendq⟩ : (mediaUvConnectOne c (closeCpipe { s with cpu := some cpu, cpus }) o).2.stack = s.stack ∧
        (mediaUvConnectOne c (closeCpipe { s with cpu := some cpu, cpus }) o).2.writings.pendq = s.writings.pendq := by
      rw [mediaUvConnectOne_writings, (mediaUvConnectOne_flags _ _ _).2.2]
      unfold closeCpipe
      split <;> exact ⟨rfl, rfl⟩
    have hsame : Steps s.life s (mediaUvConnectOne c (closeCpipe { s with cpu := some cpu, cpus }) o).2 :=
      same ((life_connectOne c _ o).trans (life_closeCpipe _)) hstack hpendq
    dsimp only
    split
    · exact hsame.push (by simp) (by simp [UvFrame.mayDeliver])
    · exact hsame

end Steps

/-- The message is in the hands of the code. -/
def MediaProxyPriv.holding (s : MediaProxyPriv) (id : Nat) : MessageLife Nat := { s.life with held := [id] }

theorem holding_notMem (h : (s.holding w.id).Sound) : w ∉ s.writings.sentq := by
  intro hw
  have hcount := h.unanswered w.id
  have hsent := List.count_pos_iff.2 (List.mem_map_of_mem (f := MediaWritePriv.id) hw)
  have hle := flag_le_one (s.holding w.id).allocated w.id
  simp only [places, MediaProxyPriv.holding, MediaProxyPriv.life, List.count_append,
    List.count_singleton_self] at hcount hle
  omega

/-- The command pipe is one of the pipes. -/
def MediaProxyPriv.HasCommand (s : MediaProxyPriv) : Prop := ∀ k ∈ s.cpipe, k < s.pipes.length

theorem PipesLive.hasCommand (h : PipesLive s) : s.HasCommand := by
  intro k hk
  obtain ⟨p, hp, -⟩ := h.command k hk
  exact (List.getElem?_eq_some_iff.1 hp).1

/-- `media_uv_write_cb` for a write that `uv_write` has not taken. -/
theorem sendFails {ret : Int} (hret : ret < 0) (hsentq : w ∉ s.writings.sentq)
    (hfault : (mediaUvWriteCb { s with writings := s.writings.hand w } w ret).fault = none) :
    Steps (s.holding w.id) s (mediaUvWriteCb { s with writings := s.writings.hand w } w ret) := by
  unfold mediaUvWriteCb at hfault ⊢
  split
  · rename_i hfreed
    rw [if_pos hfreed] at hfault
    cases hfault
  · split
    · rename_i hack
      have hmove := @Move.fail _ (s.holding w.id) w.id [] rfl
      have herase : (s.writings.sentq ++ [w]).erase w = s.writings.sentq := by
        rw [List.erase_append_right _ hsentq, List.erase_cons_head, List.append_nil]
      refine ⟨.single ?_, ⟨[.user (.onReceive w none), .writeCb w], rfl, by simp [UvFrame.mayDeliver]⟩, ?_⟩
      · convert hmove using 1
        simp only [MediaProxyPriv.life, MediaProxyPriv.holding, MediaProxyPriv.push, Writings.cancel, Writings.hand,
          if_pos hack.2, herase]
        rfl
      · simp [MediaProxyPriv.push, Writings.cancel, Writings.hand, hack.2]
    · rename_i hack
      have hcode : w.code ≠ MEDIA_PARCEL_SEND_ACK := fun hcode => hack ⟨hret, hcode⟩
      have hmove := @Move.failPlain _ (s.holding w.id) w.id [] rfl
      refine ⟨.single ?_, ⟨[], rfl, by simp⟩, ?_⟩
      · convert hmove using 1
        simp only [MediaProxyPriv.life, MediaProxyPriv.holding, Writings.setWritten, Writings.hand, if_neg hcode]
      · simp [Writings.setWritten, Writings.hand, hcode]

/-- `uv_write` has taken the message. -/
theorem sendStarts (hk : k < s.pipes.length) (w : MediaWritePriv) : Steps (s.holding w.id) s
    (MediaProxyPriv.modifyPipe { s with writings := s.writings.hand w } k fun p =>
      { p with writes := p.writes ++ [w], sent := p.sent ++ [w] }) := by
  let g := fun p : MediaPipePriv => { p with writes := p.writes ++ [w], sent := p.sent ++ [w] }
  have hflight : (MediaPipePriv.flight (s.pipes.modify k g)).Perm (w.id :: MediaPipePriv.flight s.pipes) := by
    have hperm := flight_modify (List.getElem?_eq_getElem hk) g
    rw [List.perm_iff_count] at hperm ⊢
    intro x
    have hcount := hperm x
    simp only [g, List.map_append, List.map_cons, List.map_nil, List.count_append, List.count_cons,
      List.count_nil] at hcount ⊢
    omega
  by_cases hcode : w.code = MEDIA_PARCEL_SEND_ACK
  · have hmove := @Move.start _ (s.holding w.id) w.id [] _ rfl hflight
    refine ⟨.single ?_, ⟨[], rfl, by simp⟩, by simp [MediaProxyPriv.modifyPipe, Writings.hand, hcode]⟩
    convert hmove using 1
    simp only [MediaProxyPriv.life, MediaProxyPriv.holding, MediaProxyPriv.modifyPipe, Writings.hand, if_pos hcode,
      List.map_append]
    rfl
  · have hmove := @Move.startPlain _ (s.holding w.id) w.id [] _ rfl hflight
    refine ⟨.single ?_, ⟨[], rfl, by simp⟩, by simp [MediaProxyPriv.modifyPipe, Writings.hand, hcode]⟩
    convert hmove using 1
    simp only [MediaProxyPriv.life, MediaProxyPriv.holding, MediaProxyPriv.modifyPipe, Writings.hand, if_neg hcode]
    rfl

/-- `media_uv_send_writing` starts the write, tells the failure, or frees the message. -/
theorem sendWriting_goes (hcommand : s.HasCommand) (hsound : (s.holding w.id).Sound) {ret : Int}
    (hfault : (mediaUvSendWriting s w ret).fault = none) : Steps (s.holding w.id) s (mediaUvSendWriting s w ret) := by
  unfold mediaUvSendWriting at hfault ⊢
  split
  · rename_i hnone
    simp [hnone, MediaProxyPriv.crash] at hfault
  · rename_i k hk
    simp only [hk] at hfault
    by_cases hret : ret < 0
    · simp only [if_pos hret] at hfault ⊢
      have hfails := sendFails hret (holding_notMem hsound) (s := { s with cpipe := some k }) hfault
      rw [← hk] at hfails
      exact hfails
    · simp only [if_neg hret]
      have hstarts := sendStarts (hcommand k hk) w
      exact hstarts

/-- A new message is in the hands of the code. -/
theorem alloc_moves (hreleased : s.released = false) (code : Nat) :
    Moves s.life ((mediaUvAllocWriting s code).2.holding (mediaUvAllocWriting s code).1.id) := by
  apply Relation.ReflTransGen.single
  have hmove := @Move.alloc _ s.life s.writings.nextId hreleased (by simp [MediaProxyPriv.life])
  convert hmove using 1
  simp only [MediaProxyPriv.holding, MediaProxyPriv.life, mediaUvAllocWriting, List.range_succ]

theorem createNotify_goes (hcommand : s.HasCommand) (hsound : s.life.Sound) (hreleased : s.released = false)
    (hfault : (mediaUvCreateNotify s o).2.fault = none) : Steps s.life s (mediaUvCreateNotify s o).2 := by
  unfold mediaUvCreateNotify at hfault ⊢
  split
  · exact .same rfl rfl rfl
  · rename_i hwriting
    rw [if_neg hwriting] at hfault
    have halloc := alloc_moves hreleased MEDIA_PARCEL_CREATE_NOTIFY
    obtain ⟨hmoves, hstack, hpendq⟩ := sendWriting_goes (s := (mediaUvAllocWriting s MEDIA_PARCEL_CREATE_NOTIFY).2)
      hcommand (hsound.moves halloc) hfault
    exact ⟨halloc.trans hmoves, hstack, hpendq⟩

/-- `media_uv_listen_one`, which makes a message to tell the server. -/
theorem listenOne_goes (hcommand : s.HasCommand) (hsound : s.life.Sound) (hreleased : s.cpu ≠ none → s.released = false)
    (hfault : (mediaUvListenOne c s o).2.fault = none) : Steps s.life s (mediaUvListenOne c s o).2 := by
  have hnew : Steps s.life s { s with
      epipe := some s.pipes.length, pipes := s.pipes ++ [mediaUvAllocPipe] } := .same (life_newPipe s) rfl rfl
  have hlisten : (MediaProxyPriv.modifyPipe
      { s with epipe := some s.pipes.length, pipes := s.pipes ++ [mediaUvAllocPipe] }
      s.pipes.length fun p => { p with listening := true }).life = s.life :=
    (life_modifyPipe (g := fun p => { p with listening := true }) _ _ fun _ => rfl).trans (life_newPipe s)
  have hcommand' : (MediaProxyPriv.modifyPipe { s with
      epipe := some s.pipes.length, pipes := s.pipes ++ [mediaUvAllocPipe] } s.pipes.length
      fun p => { p with listening := true }).HasCommand := by
    intro k hk
    have hlt := hcommand k hk
    simp only [MediaProxyPriv.modifyPipe, List.length_modify, List.length_append]
    omega
  have hnotify := fun hcpu hfault =>
    (createNotify_goes (o := o) hcommand' (hlisten ▸ hsound) (hreleased hcpu) hfault).of
    (s := s) rfl rfl
  rw [hlisten] at hnotify
  unfold mediaUvListenOne at hfault ⊢
  revert hfault
  split
  · intro _
    exact (Steps.same (s := s) (t := { s with epipe := none }) rfl rfl rfl).callOnListen _
  · dsimp only
    split
    · intro _
      exact hnew.keep rfl rfl rfl
    · rename_i cpu hcpu
      have hcpu : s.cpu ≠ none := by simp [hcpu]
      split_ifs
      · intro _
        exact (hnew.close _).callOnListen _
      · intro _
        exact (hnew.close _).callOnListen _
      · intro hfault
        rw [callOnListen_eq] at hfault
        exact ((hnotify hcpu hfault).close _).callOnListen _
      · intro hfault
        exact (hnotify hcpu hfault).keep rfl rfl rfl

/-- `media_uv_clear_queue` frees what is queued. -/
theorem clearQueue_moves (hapart : ∀ w ∈ s.writings.sentq, w.id ∉ MediaPipePriv.flight s.pipes) :
    Moves s.life (mediaUvClearQueue s).life := by
  apply Relation.ReflTransGen.single
  have hmove := Move.clear s.life (by
    intro id hid
    obtain ⟨w, hw, rfl⟩ := List.mem_map.1 hid
    exact hapart w hw)
  convert hmove using 1
  simp only [MediaProxyPriv.life, mediaUvClearQueue, Writings.clear, List.map_append]
  rfl

/-! ### What is about to be delivered -/

/-- The message that is delivered next is in `pendq`, and only one loop delivers. -/
structure Loops (s : MediaProxyPriv) : Prop where
  next : ∀ w, .deliveryLoop (some w) ∈ s.stack → w ∈ s.writings.pendq
  apart : s.stack.Pairwise fun f g => f.mayDeliver = true → g.hasNext = false

namespace Loops

theorem of_none (h : ∀ f ∈ s.stack, f.hasNext = false) : Loops s where
  next w hw := by cases h _ hw
  apart := List.pairwise_of_forall_mem_list fun _ _ g hg _ => h g hg

theorem goes {b : MessageLife Nat} (h : Loops s) (ht : Steps b s t) : Loops t := by
  obtain ⟨frames, hstack, hframes⟩ := ht.stack
  refine ⟨fun w hw => ?_, ?_⟩
  · rw [hstack] at hw
    rcases List.mem_append.1 hw with hw | hw
    · cases hframes _ hw
    · exact ht.pendq (h.next w hw)
  · rw [hstack, List.pairwise_append]
    refine ⟨List.pairwise_of_forall_mem_list fun f hf _ _ hdelivers => ?_, h.apart, fun f hf _ _ hdelivers => ?_⟩
    · cases (hframes f hf).symm.trans hdelivers
    · cases (hframes f hf).symm.trans hdelivers

theorem pop (h : Loops s) (hs : s.stack = f :: stack) : Loops { s with stack } where
  next w hw := h.next w (hs ▸ List.mem_cons_of_mem _ hw)
  apart := by
    have hapart := h.apart
    rw [hs] at hapart
    exact (List.pairwise_cons.1 hapart).2

/-- Below a continuation that may deliver there is no other one that has a next message. -/
theorem below (h : Loops s) (hs : s.stack = f :: stack) (hf : f.mayDeliver = true) :
    ∀ g ∈ stack, g.hasNext = false := by
  intro g hg
  have hapart := h.apart
  rw [hs] at hapart
  exact (List.pairwise_cons.1 hapart).1 g hg hf

theorem push (h : ∀ f ∈ s.stack, f.hasNext = false) (hframes : ∀ f ∈ frames, f.hasNext = false) :
    Loops (s.push frames) :=
  of_none fun f hf => (List.mem_append.1 hf).elim (hframes f) (h f)

end Loops

/-! ### The steps -/

theorem callOnListen_next (hstack : ∀ f ∈ s.stack, f.hasNext = false) (hframes : ∀ f ∈ frames, f.hasNext = false)
    (ret : Int) : ∀ f ∈ (callOnListen s ret frames).stack, f.hasNext = false := by
  intro f hf
  unfold callOnListen at hf
  split at hf
  · rcases List.mem_append.1 hf with hf | hf
    · rcases List.mem_cons.1 hf with rfl | hf
      · rfl
      · exact hframes f hf
    · exact hstack f hf
  · exact (List.mem_append.1 hf).elim (hframes f) (hstack f)

theorem listenOneCb_next (s : MediaProxyPriv) (server : Nat) (status : Int) (o : Outcome)
    (hstack : ∀ f ∈ s.stack, f.hasNext = false) :
    ∀ f ∈ (mediaUvListenOneCb s server status o).stack, f.hasNext = false := by
  have hnone : ∀ f ∈ ([] : List UvFrame), f.hasNext = false := by simp
  unfold mediaUvListenOneCb
  dsimp only
  split
  · refine callOnListen_next ?_ hnone _
    exact hstack
  · split
    · refine callOnListen_next ?_ hnone _
      exact hstack
    · split
      · refine callOnListen_next ?_ hnone _
        exact hstack
      · split
        · refine callOnListen_next ?_ hnone _
          exact hstack
        · refine callOnListen_next ?_ (by simp [UvFrame.hasNext]) _
          exact hstack

/-- What every step that meets the condition keeps. -/
structure UvFrees (s : MediaProxyPriv) (frees : List Nat) : Prop where
  live : PipesLive s
  settled : UvSettled s.control s.writings
  sound : s.life.Sound
  recorded : s.life.Recorded frees
  loops : Loops s

/-- The messages make moves, and what is about to be delivered is still in `pendq`. -/
def Steps.Kept (b : MessageLife Nat) (t : MediaProxyPriv) : Prop := Moves b t.life ∧ Loops t

theorem Steps.kept {b : MessageLife Nat} (h : Steps b s t) (hloops : Loops s) : Kept b t := ⟨h.moves, hloops.goes h⟩

namespace Steps.Kept

variable {b : MessageLife Nat}

theorem same (hloops : Loops s) (hlife : t.life = b) (hstack : t.stack = s.stack)
    (hpendq : t.writings.pendq = s.writings.pendq) : Kept b t :=
  (Steps.same hlife hstack hpendq).kept hloops

/-- Continuations are put on the stack, which may deliver but have no next message. -/
theorem push (hmoves : Moves b s.life) (hnext : ∀ f ∈ s.stack, f.hasNext = false)
    (hframes : ∀ f ∈ frames, f.isFree = true ∧ f.hasNext = false) : Kept b (s.push frames) := by
  refine ⟨?_, Loops.push hnext fun f hf => (hframes f hf).2⟩
  rw [life_push s fun f hf => (hframes f hf).1]
  exact hmoves

end Steps.Kept

/-- A continuation that is not about a message is done. -/
theorem life_pop (hs : s.stack = f :: stack) (hf : f.isFree = true) : { s with stack }.life = s.life := by
  have hpush : (({ s with stack } : MediaProxyPriv).push [f]).life = _ := life_push _ (by simpa using hf)
  rw [← hpush]
  simp only [MediaProxyPriv.push, List.singleton_append, ← hs]

/-- The writing after one in the queue stays in it. -/
theorem mem_erase_of_next {l : List MediaWritePriv} {v : MediaWritePriv}
    (h : (l.dropWhile (· ≠ w)).tail.head? = some v) : v ∈ l.erase w := by
  induction l with
  | nil => simp at h
  | cons a l ih =>
    by_cases ha : a = w
    · subst ha
      have hhead : l.head? = some v := by simpa using h
      rw [List.erase_cons_head]
      exact List.mem_of_head? hhead
    · rw [List.dropWhile_cons_of_pos (by simpa using ha)] at h
      rw [List.erase_cons_tail (by simpa using ha)]
      exact List.mem_cons_of_mem _ (ih h)

/-- `media_uv_free_proxy`. -/
theorem freeProxy_kept (hloops : Loops s)
    (hclears : s.cpipe = none ∧ s.epipe = none ∧ s.flags.disconnect = true →
      MediaPipePriv.flight s.pipes = [] ∧ (∀ f ∈ s.stack, f.uses = none) ∧ ∀ f ∈ s.stack, f.hasNext = false) :
    Steps.Kept s.life (mediaUvFreeProxy s) := by
  have hsame : Steps.Kept s.life s := ⟨.refl, hloops⟩
  unfold mediaUvFreeProxy
  split
  · exact hsame
  · rename_i hpipes
    split
    · rename_i hdisconnect
      obtain ⟨hflight, huses, hnext⟩ := hclears ⟨by simp_all, by simp_all, hdisconnect⟩
      have hclear : Moves s.life (mediaUvClearQueue s).life := by
        apply clearQueue_moves
        simp [hflight]
      have hfailing : s.stack.filterMap UvFrame.failing? = [] := by
        rw [List.filterMap_eq_nil_iff]
        intro f hf
        have hnone := huses f hf
        cases f with
        | writeCb w => cases hnone
        | _ => rfl
      have hanswering : s.stack.filterMap UvFrame.answering? = [] := by
        rw [List.filterMap_eq_nil_iff]
        intro f hf
        have hnone := huses f hf
        cases f with
        | handleParcel w pipe => cases hnone
        | _ => rfl
      have hplaces : (mediaUvClearQueue s).life.places = [] := by
        simp only [places, MediaProxyPriv.life, mediaUvClearQueue, Writings.clear, hfailing, hanswering]
        rfl
      have hmoves : Moves s.life { mediaUvClearQueue s with released := true }.life :=
        hclear.tail (Move.close _ hplaces hflight)
      dsimp only
      split
      · exact .push hmoves hnext (by simp [UvFrame.hasNext])
      · exact .push hmoves hnext (by simp [UvFrame.hasNext])
    · exact hsame

/-- `media_uv_reconnect_one`, also when there is no server left. -/
theorem reconnectOne_kept (c : UvConfig) (o : Outcome) (hloops : Loops s)
    (hclears : s.cpus = [] → (∀ w ∈ s.writings.sentq, w.id ∉ MediaPipePriv.flight s.pipes) ∧
      ∀ f ∈ s.stack, f.hasNext = false) :
    Steps.Kept s.life (mediaUvReconnectOne c s o) := by
  by_cases hcpus : s.cpus = []
  · obtain ⟨hapart, hnext⟩ := hclears hcpus
    unfold mediaUvReconnectOne
    simp only [hcpus]
    exact .push (clearQueue_moves hapart) hnext (by simp [UvFrame.hasNext])
  · exact (Steps.reconnectOne c s o hcpus).kept hloops

/-- libuv has completed the write of a message, or has failed to. -/
theorem writeCb_kept {pipe : Nat} {status : Int} (hg : WritingsDone s (.writeCb pipe w status, o))
    (hready : UvInput.ready s (.writeCb pipe w status) = true)
    (hfault : (uvStep c s o (.writeCb pipe w status)).fault = none) :
    Steps.Kept s.life (uvStep c s o (.writeCb pipe w status)) := by
  simp only [UvInput.ready, Bool.and_eq_true, List.isEmpty_iff] at hready
  obtain ⟨hstack, hpipe⟩ := hready
  obtain ⟨p, hp, hw⟩ := (Option.any_eq_true _ _).1 hpipe
  have hw : w ∈ p.writes := of_decide_eq_true hw
  let t : MediaProxyPriv := s.modifyPipe pipe fun p => { p with writes := p.writes.erase w }
  have hflight : s.life.flight.Perm (w.id :: t.life.flight) := by
    have hperm := flight_modify hp fun p => { p with writes := p.writes.erase w }
    have herase := (List.perm_cons_erase hw).map MediaWritePriv.id
    rw [List.perm_iff_count] at hperm herase ⊢
    intro x
    have hcount := hperm x
    have hcount' := herase x
    simp only [t, MediaProxyPriv.life, MediaProxyPriv.modifyPipe, List.count_append, List.map_cons,
      List.count_cons] at hcount hcount' ⊢
    omega
  simp only [uvStep] at hfault ⊢
  unfold mediaUvWriteCb at hfault ⊢
  split
  · rename_i hfreed
    rw [if_pos hfreed] at hfault
    cases hfault
  · split
    · rename_i hfails
      have hsent : w ∈ s.writings.sentq := hg.2.2 hfails
      have hmove := Move.breaks s.life hflight ((List.perm_cons_erase hsent).map MediaWritePriv.id)
      refine ⟨.single ?_, Loops.push (by simp [MediaProxyPriv.modifyPipe, hstack]) (by simp [UvFrame.hasNext])⟩
      convert hmove using 1
      simp only [MediaProxyPriv.life, MediaProxyPriv.modifyPipe, MediaProxyPriv.push, Writings.cancel, hstack]
      rfl
    · have hmove := Move.complete s.life hflight
      refine ⟨.single ?_, Loops.of_none (by simp [MediaProxyPriv.modifyPipe, hstack])⟩
      convert hmove using 1
      simp only [MediaProxyPriv.life, MediaProxyPriv.modifyPipe, Writings.setWritten]
      rfl

namespace UvFrees

theorem released_of_cpu (h : UvFrees s frees) (hdisconnect : s.flags.disconnect = false) (hcpu : s.cpu ≠ none) :
    s.released = false := by
  by_contra hreleased
  rcases h.settled.refuses (.inl (by simpa [MediaProxyPriv.control] using hreleased)) with hnone | hset
  · exact hcpu hnone
  · exact absurd (hdisconnect.symm.trans hset) (by decide)

/-- The loop of `media_uv_delivery_writing` takes a message out of `pendq` and sends it. -/
theorem deliveryLoop_kept (h : UvFrees s frees) (hs : s.stack = .deliveryLoop (some w) :: stack)
    (hfault : (mediaUvDeliveryLoop { s with stack } w o).fault = none) :
    Steps.Kept s.life (mediaUvDeliveryLoop { s with stack } w o) := by
  have hw : w ∈ s.writings.pendq := h.loops.next w (by simp [hs])
  have hbelow := h.loops.below hs rfl
  let q : Writings := { s.writings with pendq := s.writings.pendq.erase w }
  let next := UvFrame.deliveryLoop (s.writings.pendq.dropWhile (· ≠ w)).tail.head?
  let t := MediaProxyPriv.push { s with stack, writings := q } [next]
  have heq : mediaUvDeliveryLoop { s with stack } w o = mediaUvSendWriting t w o.write := by
    unfold mediaUvDeliveryLoop
    rw [if_pos hw]
  rw [heq] at hfault ⊢
  have htake : Moves s.life (t.holding w.id) := by
    apply Relation.ReflTransGen.single
    have hperm : s.life.pending.Perm (w.id :: (s.writings.pendq.erase w).map MediaWritePriv.id) :=
      (List.perm_cons_erase hw).map MediaWritePriv.id
    have hmove := Move.take s.life hperm
    convert hmove using 1
    simp only [MediaProxyPriv.holding, MediaProxyPriv.life, t, q, next, MediaProxyPriv.push, hs,
      List.singleton_append, List.filterMap_cons, UvFrame.failing?, UvFrame.answering?]
  have hloops : Loops t := by
    refine ⟨fun v hv => ?_, ?_⟩
    · rcases List.mem_cons.1 hv with hv | hv
      · exact mem_erase_of_next (UvFrame.deliveryLoop.inj hv).symm
      · cases hbelow _ hv
    · refine List.pairwise_cons.2 ⟨fun g hg _ => hbelow g hg, ?_⟩
      exact List.pairwise_of_forall_mem_list fun _ _ g hg _ => hbelow g hg
  have hcommand : t.HasCommand := h.live.hasCommand
  obtain ⟨hmoves, hstack, hpendq⟩ := sendWriting_goes hcommand (h.sound.moves htake) hfault
  exact Steps.kept ⟨htake.trans hmoves, hstack, hpendq⟩ hloops

/-- A continuation goes on. -/
theorem runFrame_kept (h : UvFrees s frees) (hg : WritingsDone s (.run, o)) (hs : s.stack = f :: stack)
    (hfault : (runFrame c { s with stack } o f).fault = none) :
    Steps.Kept s.life (runFrame c { s with stack } o f) := by
  have hpop : Loops { s with stack } := h.loops.pop hs
  have hlife : f.isFree = true → { s with stack }.life = s.life := life_pop hs
  have hsame : f.isFree = true → Moves s.life { s with stack }.life := fun hf => hlife hf ▸ .refl
  cases f with
  | user callback => exact Steps.Kept.same hpop (hlife rfl) rfl rfl
  | writeCb w =>
    have hmove := @Move.failed _ s.life w.id (stack.filterMap UvFrame.failing?)
      (by simp [MediaProxyPriv.life, hs, UvFrame.failing?])
    refine ⟨.single ?_, hpop.next, hpop.apart⟩
    convert hmove using 1
    simp only [runFrame, MediaProxyPriv.life, Writings.setResponsed, Writings.setWritten, hs, List.filterMap_cons,
      UvFrame.answering?]
  | handleParcel w pipe =>
    -- The message was answered and goes if it was written; a listening proxy then listens, and that may free more.
    have hbelow := h.loops.below hs rfl
    let t : MediaProxyPriv := { s with stack, writings := s.writings.setResponsed w }
    have hanswered : Moves s.life t.life := by
      apply Relation.ReflTransGen.single
      have hmove := @Move.answered _ s.life w.id (stack.filterMap UvFrame.answering?)
        (by simp [MediaProxyPriv.life, hs, UvFrame.answering?])
      convert hmove using 1
      simp only [t, MediaProxyPriv.life, Writings.setResponsed, hs, List.filterMap_cons, UvFrame.failing?]
    have hloops : Loops t := ⟨hpop.next, hpop.apart⟩
    simp only [runFrame] at hfault ⊢
    split
    · rename_i hconnecting
      rw [if_pos hconnecting] at hfault
      let u := MediaProxyPriv.push { t with flags := { t.flags with connecting := false } } [.applyWritings pipe]
      have hu : u.life = t.life := life_push _ (by simp)
      have hu' : Loops u := Loops.push hbelow (by simp [UvFrame.hasNext])
      split
      · rename_i hlistening
        rw [if_pos hlistening] at hfault
        have hdisconnect : s.flags.disconnect = false := congrArg ProxyFlags.disconnect hlistening
        have hlisten := listenOne_goes (c := c) (o := o) (s := u) h.live.hasCommand (hu ▸ h.sound.moves hanswered)
          (h.released_of_cpu hdisconnect) hfault
        obtain ⟨hmoves, hstack, hpendq⟩ := hlisten
        rw [hu] at hmoves
        exact Steps.kept ⟨hanswered.trans hmoves, hstack, hpendq⟩ hu'
      · exact ⟨hu ▸ hanswered, hu'⟩
    · exact ⟨hanswered, hloops⟩
  | applyWritings pipe =>
    have hbelow := h.loops.below hs rfl
    simp only [runFrame]
    split
    · exact .push (hsame rfl) hbelow (by simp [UvFrame.hasNext])
    · exact .push (hsame rfl) hbelow (by simp [UvFrame.hasNext])
  | applyQuit pipe =>
    have hbelow := h.loops.below hs rfl
    simp only [runFrame]
    split
    · exact .push (hsame rfl) hbelow (by simp [UvFrame.hasNext])
    · rename_i hdisconnect
      split
      · rename_i hreconnect
        -- Of the frames only this one can clear the queue: `media_uv_reconnect_one` may find no CPU left.
        let t := MediaProxyPriv.push { s with stack, flags := { s.flags with reconnect := false } } [.close pipe]
        have ht : t.life = s.life :=
          (life_push _ (by simp)).trans (hlife rfl)
        have hkept := reconnectOne_kept (s := t) c o (Loops.push hbelow (by simp [UvFrame.hasNext])) fun hcpus => by
          have hclears : ClearsQueue s .run :=
            ⟨by rw [hs]; rfl, by simpa using hdisconnect, hreconnect, hcpus⟩
          refine ⟨(hg.1 hclears).1, fun f hf => ?_⟩
          rcases List.mem_append.1 hf with hf | hf
          · simp [List.mem_singleton.1 hf, UvFrame.hasNext]
          · exact hbelow f hf
        rw [ht] at hkept
        exact hkept
      · exact Steps.Kept.same hpop (hlife rfl) rfl rfl
  | deliveryWriting =>
    have hbelow := h.loops.below hs rfl
    refine ⟨?_, fun v hv => ?_, ?_⟩
    · simp only [runFrame]
      rw [life_push _ (by simp)]
      exact hsame rfl
    · rcases List.mem_cons.1 hv with hv | hv
      · exact List.mem_of_head? (UvFrame.deliveryLoop.inj hv).symm
      · cases hbelow _ hv
    · refine List.pairwise_cons.2 ⟨fun g hg _ => hbelow g hg, ?_⟩
      exact List.pairwise_of_forall_mem_list fun _ _ g hg _ => hbelow g hg
  | deliveryLoop next =>
    cases next with
    | none => exact Steps.Kept.same hpop (hlife rfl) rfl rfl
    | some w => exact h.deliveryLoop_kept hs hfault
  | close pipe => exact Steps.Kept.same hpop ((life_close _ _).trans (hlife rfl)) rfl rfl
  | restoreFlags flags => exact Steps.Kept.same hpop (hlife rfl) rfl rfl
  | readStart =>
    simp only [runFrame] at hfault ⊢
    split
    · exact Steps.Kept.same hpop (hlife rfl) rfl rfl
    · refine Steps.Kept.same hpop ?_ rfl rfl
      exact (life_modifyPipe (g := fun p => { p with reading := !p.closing }) _ _ fun _ => rfl).trans (hlife rfl)
  | freeProxy => exact Steps.Kept.same hpop (hlife rfl) rfl rfl

/-- `media_uv_send` sends a new message, or puts it into `pendq`. -/
theorem send_kept (h : UvFrees s frees) (ack : Bool) (hfault : (mediaUvSend s ack o).2.fault = none) :
    Steps.Kept s.life (mediaUvSend s ack o).2 := by
  have hsame : Steps.Kept s.life s := ⟨.refl, h.loops⟩
  unfold mediaUvSend at hfault ⊢
  split
  · exact hsame
  · rename_i hcpu
    split
    · exact hsame
    · rename_i hdisconnect
      split
      · exact hsame
      · rename_i hwriting
        rw [if_neg hcpu, if_neg hdisconnect, if_neg hwriting] at hfault
        have halloc := alloc_moves (h.released_of_cpu (by simpa using hdisconnect) hcpu) (sendCode ack)
        have hsound := h.sound.moves halloc
        unfold mediaUvQueueWriting at hfault ⊢
        dsimp only at hfault ⊢
        split
        · rename_i hflags
          rw [if_pos hflags] at hfault
          -- `accept` only notes that the message was accepted
          let t : MediaProxyPriv := { (mediaUvAllocWriting s (sendCode ack)).2 with
            writings := (mediaUvAllocWriting s (sendCode ack)).2.writings.accept
              (mediaUvAllocWriting s (sendCode ack)).1 o.write }
          have ht : t.life = (mediaUvAllocWriting s (sendCode ack)).2.life ∧ t.writings.pendq = s.writings.pendq := by
            simp only [t, MediaProxyPriv.life, Writings.accept]
            split <;> exact ⟨rfl, rfl⟩
          have hholding : t.holding (mediaUvAllocWriting s (sendCode ack)).1.id =
              (mediaUvAllocWriting s (sendCode ack)).2.holding (mediaUvAllocWriting s (sendCode ack)).1.id := by
            simp only [MediaProxyPriv.holding, ht.1]
          have hcommand : t.HasCommand := h.live.hasCommand
          obtain ⟨hmoves, hstack, hpendq⟩ := sendWriting_goes hcommand (hholding ▸ hsound) hfault
          rw [hholding] at hmoves
          have hfrom : Steps s.life t (mediaUvSendWriting t (mediaUvAllocWriting s (sendCode ack)).1 o.write) :=
            ⟨halloc.trans hmoves, hstack, hpendq⟩
          have hgoes : Steps s.life s (mediaUvSendWriting t (mediaUvAllocWriting s (sendCode ack)).1 o.write) :=
            hfrom.of rfl ht.2
          exact hgoes.kept h.loops
        · refine Steps.kept ⟨halloc.tail ?_, ⟨[], rfl, by simp⟩, ?_⟩ h.loops
          · have hmove := @Move.pend _ ((mediaUvAllocWriting s (sendCode ack)).2.holding
              (mediaUvAllocWriting s (sendCode ack)).1.id) _ [] rfl
            convert hmove using 1
            simp only [MediaProxyPriv.holding, MediaProxyPriv.life, Writings.pend, Writings.accept, List.map_append]
            rfl
          · simp [Writings.pend, Writings.accept, mediaUvAllocWriting]

/-- The reply to a message is read. -/
theorem parcel_kept (h : UvFrees s frees) {pipe parcel : Nat} (hstack : s.stack = []) :
    Steps.Kept s.life (mediaUvHandleParcel s pipe parcel) := by
  have hnext : ∀ f ∈ s.stack, f.hasNext = false := by simp [hstack]
  unfold mediaUvHandleParcel
  split
  · exact .push .refl hnext (by simp [UvFrame.hasNext])
  · split
    · exact ⟨.refl, h.loops.next, h.loops.apart⟩
    · rename_i w sentq hsentq
      have hmove := @Move.answer _ s.life w.id (sentq.map MediaWritePriv.id)
        (by simp [MediaProxyPriv.life, hsentq])
      refine ⟨.single ?_, Loops.push hnext (by simp [UvFrame.hasNext])⟩
      convert hmove using 1
      simp only [MediaProxyPriv.life, MediaProxyPriv.push, Writings.answer, hstack, hsentq]
      rfl

/-- `media_uv_disconnect` frees what is queued only when the proxy is released. -/
private theorem disconnect_kept {onRelease : Bool} (h : UvFrees s frees)
    (hg : WritingsDone s (.disconnect onRelease, o)) : Steps.Kept s.life (uvStep c s o (.disconnect onRelease)) := by
  simp only [uvStep, mediaUvDisconnect]
  split
  · exact ⟨.refl, h.loops⟩
  · rename_i hdisconnect
    have hshut : ∀ t, t = (if s.flags = 0 then mediaUvShutdown { s with onRelease } o else { s with onRelease }) →
        t.life = s.life ∧ t.stack = s.stack ∧ t.writings = s.writings ∧ t.cpipe = s.cpipe ∧ t.epipe = s.epipe := by
      rintro t rfl
      split
      · exact ⟨life_shutdown _ o, shutdown_same _ o⟩
      · exact ⟨rfl, rfl, rfl, rfl, rfl⟩
    obtain ⟨hlife, hstack, hwritings, hcpipe, hepipe⟩ := hshut _ rfl
    generalize (if s.flags = 0 then mediaUvShutdown { s with onRelease } o else { s with onRelease }) = t at *
    have hflight : MediaPipePriv.flight t.pipes = MediaPipePriv.flight s.pipes := congrArg MessageLife.flight hlife
    have hkept := freeProxy_kept (s := { t with flags := { t.flags with disconnect := true } })
      ⟨by rw [hstack, hwritings]; exact h.loops.next, by rw [hstack]; exact h.loops.apart⟩ fun hclears => by
        have hclears : ClearsQueue s (.disconnect onRelease) :=
          ⟨by simpa using hdisconnect, hcpipe ▸ hclears.1, hepipe ▸ hclears.2.1⟩
        rw [hflight, hstack]
        exact ⟨(hg.2.1 hclears).1, (hg.2.1 hclears).2, (hg.1 hclears).2⟩
    rw [← hlife]
    exact hkept

private theorem listen_kept {onListen : Bool} (h : UvFrees s frees)
    (hfault : (uvStep c s o (.listen onListen)).fault = none) :
    Steps.Kept s.life (uvStep c s o (.listen onListen)) := by
  simp only [uvStep, mediaUvListen] at hfault ⊢
  split
  · exact ⟨.refl, h.loops⟩
  · rename_i hfree
    rw [if_neg hfree] at hfault
    split
    · rename_i hflags
      rw [if_pos hflags] at hfault
      have hgoes : Steps s.life s (mediaUvListenOne c { s with onListen } o).2 :=
        .of (listenOne_goes (s := { s with onListen }) h.live.hasCommand h.sound
          (h.released_of_cpu (congrArg ProxyFlags.disconnect hflags)) hfault) rfl rfl
      exact hgoes.kept h.loops
    · exact ⟨.refl, h.loops.next, h.loops.apart⟩

private theorem connectCb_kept {pipe : Nat} {status : Int} (hstack : s.stack = []) :
    Steps.Kept s.life (uvStep c s o (.connectCb pipe status)) := by
  have hends : (s.modifyPipe pipe fun p => { p with connecting := false }).life = s.life :=
    life_modifyPipe (g := fun p => { p with connecting := false }) _ _ fun _ => rfl
  have hnext : ∀ f ∈ s.stack, f.hasNext = false := by simp [hstack]
  simp only [uvStep, mediaUvConnectOneCb]
  generalize (if 0 ≤ status ∧ (s.modifyPipe pipe fun p => { p with connecting := false }).flags.disconnect = true
    then -ECANCELED else status) = status
  split
  · exact .push (hends ▸ .refl) hnext (by simp [UvFrame.hasNext])
  · refine .push ?_ hnext (by simp [UvFrame.hasNext])
    rw [life_modifyPipe (g := fun p => { p with reading := !p.closing }) _ _ fun _ => rfl]
    exact hends ▸ .refl

/-- `media_uv_close_cb` releases the proxy with its last pipe. -/
private theorem closeCb_kept {pipe : Nat} (h : UvFrees s frees) (hg : WritingsDone s (.closeCb pipe, o))
    (hstack : s.stack = []) : Steps.Kept s.life (uvStep c s o (.closeCb pipe)) := by
  have hcloses : (s.modifyPipe pipe fun p => { p with closed := true }).life = s.life :=
    life_modifyPipe (g := fun p => { p with closed := true }) _ _ fun _ => rfl
  have hflight := congrArg MessageLife.flight hcloses
  have hreleases : s.flags.disconnect = true → (s.cpipe = none ∨ s.cpipe = some pipe) →
      (s.epipe = none ∨ s.epipe = some pipe) → s.life.flight = [] ∧ (∀ f ∈ s.stack, f.uses = none) ∧
        ∀ f ∈ s.stack, f.hasNext = false := by
    intro hdisconnect hcpipe hepipe
    have hclears : ReleasesProxy s (.closeCb pipe) := ⟨hdisconnect, hcpipe, hepipe⟩
    exact ⟨(hg.2.1 hclears).1, (hg.2.1 hclears).2, by simp [hstack]⟩
  rw [← hflight] at hreleases
  rw [← hcloses]
  simp only [uvStep, mediaUvCloseCb]
  split_ifs with hcpipe hepipe
  · exact freeProxy_kept (s := { s.modifyPipe pipe fun p => { p with closed := true } with cpipe := none })
      ⟨h.loops.next, h.loops.apart⟩ fun hclears => hreleases hclears.2.2 (.inr hcpipe) (.inl hclears.2.1)
  · exact freeProxy_kept (s := { s.modifyPipe pipe fun p => { p with closed := true } with epipe := none })
      ⟨h.loops.next, h.loops.apart⟩ fun hclears => hreleases hclears.2.2 (.inl hclears.1) (.inr hepipe)
  · exact freeProxy_kept (s := s.modifyPipe pipe fun p => { p with closed := true })
      ⟨h.loops.next, h.loops.apart⟩ fun hclears => hreleases hclears.2.2 (.inl hclears.1) (.inl hclears.2.1)

/-- Every step. -/
theorem step (h : UvFrees s frees) (hg : WritingsDone s (i, o)) (hready : i.ready s = true)
    (hfault : (uvStep c s o i).fault = none) : Steps.Kept s.life (uvStep c s o i) := by
  have hsame : Steps.Kept s.life s := ⟨.refl, h.loops⟩
  cases i with
  | send ack => exact h.send_kept ack hfault
  | listen onListen => exact h.listen_kept hfault
  | reconnect =>
    simp only [uvStep, mediaUvReconnect]
    split
    · exact hsame
    · rename_i hepipe
      split
      · rename_i hflags
        exact reconnectOne_kept c o h.loops fun hcpus => hg.1 ⟨by simpa using hepipe, hflags, hcpus⟩
      · exact ⟨.refl, h.loops.next, h.loops.apart⟩
  | disconnect onRelease => exact h.disconnect_kept hg
  | run =>
    simp only [uvStep] at hfault ⊢
    split
    · exact hsame
    · rename_i f stack hs
      simp only [hs] at hfault
      split
      · rename_i hfreed
        rw [if_pos hfreed] at hfault
        cases hfault
      · rename_i hfreed
        rw [if_neg hfreed] at hfault
        exact h.runFrame_kept hg hs hfault
  | writeCb pipe w status => exact writeCb_kept hg hready hfault
  | connectCb pipe status =>
    simp only [UvInput.ready, Bool.and_eq_true, List.isEmpty_iff] at hready
    exact connectCb_kept hready.1
  | parcel pipe parcel =>
    simp only [UvInput.ready, Bool.and_eq_true, List.isEmpty_iff] at hready
    exact h.parcel_kept hready.1
  | readErr pipe => exact .same h.loops (life_close s pipe) rfl rfl
  | listenCb pipe status =>
    simp only [UvInput.ready, Bool.and_eq_true, List.isEmpty_iff] at hready
    refine ⟨?_, Loops.of_none (listenOneCb_next s pipe status o (by simp [hready.1]))⟩
    have hlife := life_listenOneCb s pipe status o
    exact hlife ▸ .refl
  | shutdownCb pipe =>
    refine .same h.loops ?_ rfl rfl
    exact (life_close _ _).trans (life_modifyPipe (g := fun p => { p with shutting := false }) _ _ fun _ => rfl)
  | closeCb pipe =>
    simp only [UvInput.ready, Bool.and_eq_true, List.isEmpty_iff] at hready
    exact h.closeCb_kept hg hready.1

theorem next (h : UvFrees s frees) (hg : WritingsDone s (i, o)) (hn : uvNext c s (i, o) = some s') :
    UvFrees s' (frees ++ freedIn s.life s'.life) := by
  obtain ⟨hready, ⟨fault, rfl⟩ | ⟨rfl, hfault⟩⟩ := uvNext_cases hn
  · exact ⟨h.live.keep (.same rfl) rfl rfl id, h.settled, h.sound, h.recorded.moves h.sound .refl, h.loops.next,
      h.loops.apart⟩
  · obtain ⟨hmoves, hloops⟩ := h.step hg hready hfault
    exact ⟨h.live.step hfault, h.settled.step (uvStep_writings hfault) (uvStep_control c s o i), h.sound.moves hmoves,
      h.recorded.moves h.sound hmoves, hloops⟩

theorem start (c : UvConfig) (cpu : String) (cpus : List String) : UvFrees (mediaUvConnect c cpu cpus {}) [] := by
  have hlife : (mediaUvConnect c cpu cpus {}).life = {} := life_connectOne c { cpu := some cpu, cpus } {}
  have hstack : (mediaUvConnect c cpu cpus {}).stack = [] :=
    (mediaUvConnectOne_flags c { cpu := some cpu, cpus } {}).2.2
  refine ⟨.start c cpu cpus, (uvRequests_start c cpu cpus).settled, ?_, ?_, .of_none (by simp [hstack])⟩
  · rw [hlife]
    exact ⟨List.nodup_nil, fun x => by simp [places, flag], fun x => by simp [keeps, flag], by simp⟩
  · rw [hlife]
    exact ⟨List.nodup_nil, fun x => by simp [Freed]⟩

theorem freedOnce (h : UvFrees s frees) : FreedOnce s frees where
  once := h.recorded.1
  unlinked w hw hfreed := by
    apply (h.sound.notMem_of_freed ((h.recorded.2 _).1 hfreed)).1
    rcases List.mem_append.1 hw with hw | hw
    · simp [places, MediaProxyPriv.life, List.mem_map_of_mem hw]
    · simp [places, MediaProxyPriv.life, List.mem_map_of_mem hw]
  completed id hid hfreed := by
    apply (h.sound.notMem_of_freed ((h.recorded.2 _).1 hfreed)).2
    simp [keeps, MediaProxyPriv.life, hid]
  unused f hf id hid hfreed := by
    apply (h.sound.notMem_of_freed ((h.recorded.2 _).1 hfreed)).1
    cases f with
    | writeCb w =>
      cases hid
      simp only [places, MediaProxyPriv.life, List.mem_append, List.mem_filterMap]
      exact .inl (.inr ⟨_, hf, rfl⟩)
    | handleParcel w pipe =>
      cases hid
      simp only [places, MediaProxyPriv.life, List.mem_append, List.mem_filterMap]
      exact .inr ⟨_, hf, rfl⟩
    | deliveryLoop next =>
      cases next with
      | none => cases hid
      | some w =>
        cases hid
        simp [places, MediaProxyPriv.life, List.mem_map_of_mem (h.loops.next w hf)]
    | _ => cases hid
  released hreleased id hid :=
    (h.recorded.2 id).2 (h.sound.freed_of_closed hreleased (List.mem_range.2 hid))

end UvFrees

/-- In every run in which no message is cleared that is being written or about to be delivered, none is being written
or told about when the proxy is released, and only requests without an answer are written in vain, every message is
freed once. -/
theorem uvRun_freedOnce {cpu : String} {cpus : List String} {p : MediaProxyPriv × List Nat}
    (h : (uvFreesMachine c cpu cpus).ReachableVia (fun p i => WritingsDone p.1 i) p) : FreedOnce p.1 p.2 := by
  have hfrees : UvFrees p.1 p.2 := by
    refine h.recorded (UvFrees.start c cpu cpus) ?_
    intro s frees i s' hs hg hn
    exact hs.next hg hn
  exact hfrees.freedOnce

/-! ### A run that meets the condition, and one that does not -/

instance (s : MediaProxyPriv) : ∀ i, Decidable (ReleasesProxy s i)
  | .disconnect onRelease => inferInstanceAs (Decidable (ClearsQueue s (.disconnect onRelease)))
  | .closeCb pipe => inferInstanceAs (Decidable (ClearsQueue s (.closeCb pipe)))
  | .send _ | .listen _ | .reconnect | .run | .connectCb _ _ | .writeCb _ _ _ | .parcel _ _ | .readErr _
  | .listenCb _ _ | .shutdownCb _ => isFalse id

instance (s : MediaProxyPriv) : (i : UvInput × Outcome) → Decidable (WritingsDone s i)
  | (.writeCb _ _ _, _) => inferInstanceAs (Decidable (_ ∧ _ ∧ (_ → _)))
  | (.send _, _) | (.run, _) | (.listen _, _) | (.reconnect, _) | (.disconnect _, _) | (.connectCb _ _, _)
  | (.parcel _ _, _) | (.readErr _, _) | (.listenCb _ _, _) | (.shutdownCb _, _) | (.closeCb _, _) =>
    inferInstanceAs (Decidable (_ ∧ _ ∧ True))

/-- The inputs with library calls that succeed. -/
def sampleUvFreesRun (g : MediaProxyPriv → UvInput × Outcome → Prop) [∀ s i, Decidable (g s i)]
    (inputs : List UvInput) : Option (MediaProxyPriv × List Nat) :=
  (uvFreesMachine sampleUvConfig "ap" []).runFrom (fun p i => g p.1 i) (uvFreesMachine sampleUvConfig "ap" []).start
    (inputs.map fun i => (i, {}))

/-- A request has its reply, another one is written in vain, and the proxy is released. -/
def sampleUvFreed : MediaProxyPriv × List Nat :=
  (sampleUvFreesRun WritingsDone
    (sampleUvConnected ++
      [UvInput.send true, .writeCb 0 ⟨1, MEDIA_PARCEL_SEND_ACK, false, false⟩ (-32)] ++ sampleUvSteps 2 ++
      [UvInput.disconnect true, .writeCb 0 ⟨0, MEDIA_PARCEL_SEND_ACK, true, false⟩ 0, .shutdownCb 0, .closeCb 0] ++
      sampleUvSteps 2)).get (by decide)

theorem uvRun_freedOnce_sample : FreedOnce sampleUvFreed.1 sampleUvFreed.2 := by
  have h : (uvFreesMachine sampleUvConfig "ap" []).ReachableVia (fun p i => WritingsDone p.1 i) sampleUvFreed :=
    Machine.reachableVia_get (by decide)
  exact uvRun_freedOnce h

/-- `on_connect` sends a request and gives up the only server. -/
def sampleUvClearedRun : MediaProxyPriv × List Nat :=
  (sampleUvFreesRun (fun _ _ => True) [UvInput.connectCb 0 0, .send true, .reconnect]).get (by decide)

/-- Without the condition a message can be freed that is being written. -/
theorem uvRun_not_freedOnce : ¬ ∀ (c : UvConfig) (cpu : String) (cpus : List String) (p : MediaProxyPriv × List Nat),
    (uvFreesMachine c cpu cpus).Reachable p → FreedOnce p.1 p.2 := by
  intro h
  have hfreed := h sampleUvConfig "ap" [] sampleUvClearedRun (Machine.reachableVia_get (by decide))
  have hdone := hfreed.completed
  revert hdone
  decide

end MediaFramework
