import MediaFramework.Client.MediaUvGraph

/-!
# Where the code of the data pipe is

Most of the code of a stream leaves the data pipe alone: it neither calls `on_connection` nor clears it.  What does so
are three frames.  They stand on the stack at few places, and so there are few stages of the pipe.
-/

namespace MediaFramework

/-! ### Code that leaves the pipe alone -/

variable {s t : StreamRun} {o : StreamOutcome} {f : StreamFrame} {frames stack : List StreamFrame}

/-- The frame neither calls `on_connection` nor clears it, and does not close the proxy. -/
def StreamFrame.isQuiet : StreamFrame → Bool
  | .closePipe | .connectionTold | .closeFailed => false
  | _ => true

/-- The code puts the frames on the stack and leaves `on_connection` as it is; only a stream that is closed loses its
proxy. -/
structure PassesOn (s t : StreamRun) (frames : List StreamFrame) : Prop where
  stack : t.stack = frames ++ s.stack
  quiet : ∀ f ∈ frames, f.isQuiet = true
  onConnection : t.priv.onConnection = s.priv.onConnection
  closed : t.closed = s.closed
  freed : t.freed = s.freed
  proxy : t.priv.proxy = false → s.priv.proxy = false ∨ s.closed = true
  disconnect : t.disconnect = true → s.disconnect = true ∨ s.closed = true
  freeing : .freeStream ∈ frames → s.priv.proxy = false ∨ s.closed = true

def Passes (s t : StreamRun) : Prop := ∃ frames, PassesOn s t frames

namespace Passes

theorem push (hframes : ∀ f ∈ frames, f.isQuiet = true ∧ f ≠ .freeStream) : Passes s (s.push frames) :=
  ⟨frames, rfl, fun f hf => (hframes f hf).1, rfl, rfl, rfl, .inl, .inl, fun hmem => absurd rfl (hframes _ hmem).2⟩

theorem refl (s : StreamRun) : Passes s s := ⟨[], rfl, by simp, rfl, rfl, rfl, .inl, .inl, by simp⟩

theorem trans {u : StreamRun} (h : Passes s t) (h' : Passes t u) : Passes s u := by
  obtain ⟨frames, h⟩ := h
  obtain ⟨frames', h'⟩ := h'
  have hproxy : t.priv.proxy = false ∨ t.closed = true → s.priv.proxy = false ∨ s.closed = true := by
    rintro (hgone | hclosed)
    · exact h.proxy hgone
    · exact .inr (h.closed.symm.trans hclosed)
  refine ⟨frames' ++ frames, ?_, ?_, h'.onConnection.trans h.onConnection, h'.closed.trans h.closed,
    h'.freed.trans h.freed, fun hgone => hproxy (h'.proxy hgone), fun hset => ?_, fun hmem => ?_⟩
  · rw [h'.stack, h.stack, List.append_assoc]
  · intro f hf
    rcases List.mem_append.1 hf with hf | hf
    · exact h'.quiet f hf
    · exact h.quiet f hf
  · rcases h'.disconnect hset with hdis | hclosed
    · exact h.disconnect hdis
    · exact .inr (h.closed.symm.trans hclosed)
  · rcases List.mem_append.1 hmem with hmem | hmem
    · exact hproxy (h'.freeing hmem)
    · exact h.freeing hmem

/-- Only other data is changed. -/
theorem set (hstack : t.stack = s.stack) (honConnection : t.priv.onConnection = s.priv.onConnection)
    (hclosed : t.closed = s.closed) (hfreed : t.freed = s.freed) (hproxy : t.priv.proxy = s.priv.proxy)
    (hdisconnect : t.disconnect = s.disconnect) : Passes s t :=
  ⟨[], hstack, by simp, honConnection, hclosed, hfreed, fun hgone => .inl (hproxy ▸ hgone),
    fun hset => .inl (hdisconnect ▸ hset), by simp⟩

theorem call (cb : Bool) : Passes s (s.call cb) := by
  cases cb with
  | false => exact .refl s
  | true => exact .push (by simp [StreamFrame.isQuiet])

theorem release (s : StreamRun) : Passes s (mediaUvStreamRelease s) := by
  unfold mediaUvStreamRelease
  split
  · rename_i hgone
    split
    · exact ⟨_, rfl, by simp [StreamFrame.isQuiet], rfl, rfl, rfl, .inl, .inl, fun _ => .inl hgone.1⟩
    · exact ⟨_, rfl, by simp [StreamFrame.isQuiet], rfl, rfl, rfl, .inl, .inl, fun _ => .inl hgone.1⟩
  · exact .refl s

theorem disconnectCb (hclosed : s.closed = true) : Passes s (mediaUvStreamDisconnectCb s) := by
  have hgone : Passes s { s with priv := { s.priv with proxy := false } } :=
    ⟨[], rfl, by simp, rfl, rfl, rfl, fun _ => .inr hclosed, .inl, by simp⟩
  exact hgone.trans (release _)

theorem closeCb (hclosed : s.closed = true) : Passes s (mediaUvStreamCloseCb s) := by
  have hset : Passes s { s with disconnect := true } :=
    ⟨[], rfl, by simp, rfl, rfl, rfl, .inl, fun _ => .inr hclosed, by simp⟩
  unfold mediaUvStreamCloseCb
  split
  · exact .refl s
  · split
    · exact hset
    · exact hset.trans (disconnectCb hclosed)

theorem openCb (ret : Int) : Passes s (mediaUvStreamOpenCb s ret o) := by
  unfold mediaUvStreamOpenCb
  split
  · split
    · have hset : Passes s { s with pipes := o.pipes } := .set rfl rfl rfl rfl rfl rfl
      exact hset.trans (.call _)
    · exact .refl s
  · exact .call _

theorem queryCb (s : StreamRun) (field : QueryField) : Passes s (mediaUvPlayerQueryCb s field) := by
  have hset : Passes s
      { s with priv := { s.priv with query := s.priv.query.map fun expected => expected.filter (· ≠ field) } } :=
    .set rfl rfl rfl rfl rfl rfl
  unfold mediaUvPlayerQueryCb mediaUvPlayerQueryComplete
  split
  · exact hset.trans (push (by simp [StreamFrame.isQuiet]))
  · exact hset.trans (release _)

theorem receive (ret : Int) (reply : StreamReply) (hreply : reply = .closed → s.closed = true) :
    Passes s (mediaUvStreamReceive s ret o reply) := by
  cases reply with
  | opened => exact openCb ret
  | closed => exact closeCb (hreply rfl)
  | queried field => exact queryCb s field
  | user => exact .push (by simp [StreamFrame.isQuiet])

theorem send (reply : Option StreamReply) (hreply : reply = some .closed → s.closed = true)
    (hframes : ∀ f ∈ frames, f.isQuiet = true ∧ f ≠ .freeStream) : Passes s (s.mediaUvStreamSend reply o frames) := by
  cases reply with
  | none => exact .push hframes
  | some reply =>
    unfold StreamRun.mediaUvStreamSend
    dsimp only
    split
    · exact Passes.trans (.push hframes) (receive _ reply fun heq => hreply (congrArg some heq))
    · exact .push hframes

theorem connectCb (ret : Int) : Passes s (mediaUvStreamConnectCb s ret o) := by
  unfold mediaUvStreamConnectCb
  split
  · exact send _ (by simp) (by simp [StreamFrame.isQuiet])
  · exact .call _

theorem eventCb (completed : Bool) : Passes s (mediaUvStreamEventCb s completed o) := by
  unfold mediaUvStreamEventCb
  refine Passes.trans (.call o.user) (.push ?_)
  cases completed <;> simp [StreamFrame.isQuiet]

theorem queryOne (s : StreamRun) (field : QueryField) (rest : List QueryField) :
    Passes s (mediaUvPlayerQueryOne s field o [.query rest]) := by
  have hpush : ∀ t : StreamRun, Passes t (t.push [.query rest]) := fun t => .push (by simp [StreamFrame.isQuiet])
  have hexpect : ∀ t : StreamRun, Passes t (expect t field) := fun t => .set rfl rfl rfl rfl rfl rfl
  unfold mediaUvPlayerQueryOne
  split
  · split
    · have hvolumes : Passes s { s with volumes := s.volumes + 1 } := .set rfl rfl rfl rfl rfl rfl
      exact (hvolumes.trans (hexpect _)).trans (hpush _)
    · exact hpush s
  · split
    · exact (hexpect s).trans (hpush _)
    · exact send _ (by simp) (by simp [StreamFrame.isQuiet])

theorem listenInit (s : StreamRun) : Passes s (mediaUvStreamListenInit s o).2 := by
  unfold mediaUvStreamListenInit
  split
  · exact .refl s
  · exact .set rfl rfl rfl rfl rfl rfl

theorem startAuto (cb : Bool) : Passes s (mediaUvStreamStartAuto s cb o) := by
  unfold mediaUvStreamStartAuto
  split
  · exact .push (by simp [StreamFrame.isQuiet])
  · split
    · exact .set rfl rfl rfl rfl rfl rfl
    · exact .refl s

theorem query (s : StreamRun) : Passes s (mediaUvPlayerQuery s o) := by
  unfold mediaUvPlayerQuery
  split
  · exact .refl s
  · have hset : Passes s { s with priv := { s.priv with query := some [] } } := .set rfl rfl rfl rfl rfl rfl
    exact hset.trans (push (by simp [StreamFrame.isQuiet]))

theorem listen (s : StreamRun) : Passes s (mediaUvStreamListen s o) := by
  unfold mediaUvStreamListen
  split
  · exact .refl s
  · exact .set rfl rfl rfl rfl rfl rfl

/-- The frames other than those of the pipe; the last one frees the stream. -/
theorem runFrame (hquiet : f.isQuiet = true) (hfree : f ≠ .freeStream) : Passes s (runStreamFrame s o f) := by
  cases f with
  | user => exact .refl s
  | connectSent ret => exact .call _
  | closeFailed => cases hquiet
  | closePipe => cases hquiet
  | connectionTold => cases hquiet
  | listenClear => exact .set rfl rfl rfl rfl rfl rfl
  | abandonFocus =>
    unfold runStreamFrame
    dsimp only
    split
    · exact .set rfl rfl rfl rfl rfl rfl
    · exact .refl s
  | sendCommand cb =>
    refine send _ ?_ (by simp)
    cases cb <;> simp
  | query rest =>
    cases rest with
    | nil => exact .refl s
    | cons field rest => exact queryOne s field rest
  | queryComplete => exact release s
  | freeStream => exact absurd rfl hfree

end Passes

/-! ### Where the code of the pipe is -/

/-- None of the code of the pipe runs next: `on_connection` may be running, and it is there until it has returned; or
the stream was released while no `on_connection` was kept. -/
inductive PipeOpen (s : StreamRun) : Prop
  | calm (hquiet : ∀ f ∈ s.stack, f.isQuiet = true) (hclosed : s.closed = true → s.priv.onConnection = false)
  | telling (frames rest : List StreamFrame) (hstack : s.stack = frames ++ .connectionTold :: rest)
    (hframes : ∀ f ∈ frames, f.isQuiet = true) (hrest : ∀ f ∈ rest, f.isQuiet = true)
    (hkept : s.priv.onConnection = true) (hclosed : s.closed = true → ∀ f ∈ frames, f = .user)
  | released (hclosed : s.closed = true) (hnone : s.priv.onConnection = false)
    (htold : .connectionTold ∉ s.stack ∧ .closeFailed ∉ s.stack)

/-- The pipe is being closed, or the code of a close whose request failed comes before that. -/
inductive PipeStage (s : StreamRun) : Prop
  | opened (hopen : PipeOpen s)
  | cancel (rest : List StreamFrame) (hstack : s.stack = .closePipe :: rest) (hquiet : ∀ f ∈ rest, f.isQuiet = true)
  | close (rest : List StreamFrame) (hstack : s.stack = .closeFailed :: .closePipe :: rest)
    (hquiet : ∀ f ∈ rest, f.isQuiet = true) (hclosed : s.closed = true)

theorem not_told {stack : List StreamFrame} (hquiet : ∀ f ∈ stack, f.isQuiet = true) : .connectionTold ∉ stack :=
  fun hmem => absurd (hquiet _ hmem) (by decide)

theorem not_failed {stack : List StreamFrame} (hquiet : ∀ f ∈ stack, f.isQuiet = true) : .closeFailed ∉ stack :=
  fun hmem => absurd (hquiet _ hmem) (by decide)

/-- A frame that leaves the pipe alone is above the one that clears `on_connection`. -/
theorem above_told {rest : List StreamFrame} (hstack : frames ++ .connectionTold :: rest = f :: stack)
    (hf : f.isQuiet = true) : ∃ frames', frames = f :: frames' ∧ frames' ++ .connectionTold :: rest = stack := by
  cases frames with
  | nil =>
    rw [List.nil_append, List.cons.injEq] at hstack
    rw [← hstack.1] at hf
    cases hf
  | cons g frames =>
    rw [List.cons_append, List.cons.injEq] at hstack
    exact ⟨frames, by rw [hstack.1], hstack.2⟩

namespace PipeOpen

theorem congr (hs : PipeOpen s) (hstack : t.stack = s.stack)
    (honConnection : t.priv.onConnection = s.priv.onConnection) (hclosed : t.closed = s.closed) : PipeOpen t := by
  cases hs with
  | calm hquiet hc => exact .calm (hstack ▸ hquiet) fun hset => honConnection.trans (hc (hclosed.symm.trans hset))
  | telling frames rest hold hframes hrest hkept hc =>
    exact .telling frames rest (hstack.trans hold) hframes hrest (honConnection.trans hkept) fun hset =>
      hc (hclosed.symm.trans hset)
  | released hc hnone htold =>
    exact .released (hclosed.trans hc) (honConnection.trans hnone) (hstack ▸ htold)

theorem pop (hs : PipeOpen s) (hstack : s.stack = f :: stack) (hf : f.isQuiet = true) :
    PipeOpen { s with stack } := by
  cases hs with
  | calm hquiet hclosed => exact .calm (fun g hg => hquiet g (hstack ▸ List.mem_cons_of_mem _ hg)) hclosed
  | telling frames rest hold hframes hrest hkept hclosed =>
    obtain ⟨frames, rfl, hbelow⟩ := above_told (hold.symm.trans hstack) hf
    exact .telling frames rest hbelow.symm (fun g hg => hframes g (List.mem_cons_of_mem _ hg)) hrest hkept
      fun hc g hg => hclosed hc g (List.mem_cons_of_mem _ hg)
  | released hclosed hnone htold =>
    rw [hstack] at htold
    exact .released hclosed hnone ⟨fun hmem => htold.1 (List.mem_cons_of_mem _ hmem), fun hmem =>
      htold.2 (List.mem_cons_of_mem _ hmem)⟩

theorem passes (hs : PipeOpen s) (hidle : s.closed = true → s.priv.onConnection = false)
    (ht : PassesOn s t frames) : PipeOpen t := by
  cases hs with
  | calm hquiet hclosed =>
    refine .calm (fun f hf => ?_) fun hc => ht.onConnection.trans (hclosed (ht.closed.symm.trans hc))
    rw [ht.stack] at hf
    rcases List.mem_append.1 hf with hf | hf
    · exact ht.quiet f hf
    · exact hquiet f hf
  | telling frames' rest hstack hframes hrest hkept hclosed =>
    refine .telling (frames ++ frames') rest ?_ (fun f hf => ?_) hrest (ht.onConnection.trans hkept) fun hc => ?_
    · rw [ht.stack, hstack, List.append_assoc]
    · rcases List.mem_append.1 hf with hf | hf
      · exact ht.quiet f hf
      · exact hframes f hf
    · cases hkept.symm.trans (hidle (ht.closed.symm.trans hc))
  | released hclosed hnone htold =>
    refine .released (ht.closed.trans hclosed) (ht.onConnection.trans hnone) ?_
    rw [ht.stack, List.mem_append, List.mem_append]
    exact ⟨fun hmem => hmem.elim (not_told ht.quiet) htold.1, fun hmem => hmem.elim (not_failed ht.quiet) htold.2⟩

/-- Code of a closed stream that is not the user's runs while none of `on_connection` does. -/
theorem idle (hs : PipeOpen s) (hstack : s.stack = f :: stack) (hf : f.isQuiet = true) (huser : f ≠ .user) :
    s.closed = true → s.priv.onConnection = false := by
  intro hc
  cases hs with
  | calm hquiet hclosed => exact hclosed hc
  | telling frames rest hold hframes hrest hkept hclosed =>
    obtain ⟨frames, rfl, -⟩ := above_told (hold.symm.trans hstack) hf
    exact absurd (hclosed hc f List.mem_cons_self) huser
  | released hclosed hnone htold => exact hnone

/-- When code of the pipe runs next, `on_connection` has returned, or the stream was released. -/
theorem loud (hs : PipeOpen s) (hstack : s.stack = f :: stack) (hf : f.isQuiet = false) :
    (f = .connectionTold ∧ ∀ g ∈ stack, g.isQuiet = true) ∨
      s.closed = true ∧ s.priv.onConnection = false ∧ .connectionTold ∉ f :: stack ∧ .closeFailed ∉ f :: stack := by
  have hnot : ∀ frames : List StreamFrame, (∀ g ∈ frames, g.isQuiet = true) → f ∉ frames := by
    intro frames hframes hmem
    cases hf.symm.trans (hframes f hmem)
  cases hs with
  | calm hquiet hclosed => exact absurd (hstack ▸ List.mem_cons_self) (hnot s.stack hquiet)
  | telling frames rest hold hframes hrest hkept hclosed =>
    cases frames with
    | nil =>
      rw [hold, List.nil_append, List.cons.injEq] at hstack
      exact .inl ⟨hstack.1.symm, hstack.2 ▸ hrest⟩
    | cons g frames =>
      rw [hold, List.cons_append, List.cons.injEq] at hstack
      exact absurd (hstack.1 ▸ List.mem_cons_self) (hnot _ hframes)
  | released hclosed hnone htold => exact .inr ⟨hclosed, hnone, hstack ▸ htold.1, hstack ▸ htold.2⟩

end PipeOpen

/-! ### What is below the frames of the pipe -/

namespace PipeStage

theorem below_closePipe (hs : PipeStage s) (hstack : s.stack = .closePipe :: stack) :
    (∀ f ∈ stack, f.isQuiet = true) ∨
      s.closed = true ∧ s.priv.onConnection = false ∧ .connectionTold ∉ stack ∧ .closeFailed ∉ stack := by
  cases hs with
  | opened hopen =>
    rcases hopen.loud hstack rfl with htold | ⟨hclosed, hnone, htold, hfailed⟩
    · cases htold.1
    · exact .inr ⟨hclosed, hnone, List.not_mem_of_not_mem_cons htold, List.not_mem_of_not_mem_cons hfailed⟩
  | cancel rest hold hquiet =>
    rw [hold, List.cons.injEq] at hstack
    exact .inl (hstack.2 ▸ hquiet)
  | close rest hold => simp [hold] at hstack

theorem below_connectionTold (hs : PipeStage s) (hstack : s.stack = .connectionTold :: stack) :
    ∀ f ∈ stack, f.isQuiet = true := by
  cases hs with
  | opened hopen =>
    rcases hopen.loud hstack rfl with htold | ⟨-, -, htold, -⟩
    · exact htold.2
    · exact absurd List.mem_cons_self htold
  | cancel rest hold => simp [hold] at hstack
  | close rest hold => simp [hold] at hstack

/-- A close whose request failed closes the pipe next. -/
theorem below_closeFailed (hs : PipeStage s) (hstack : s.stack = .closeFailed :: stack) :
    ∃ rest, stack = .closePipe :: rest ∧ (∀ f ∈ rest, f.isQuiet = true) ∧ s.closed = true := by
  cases hs with
  | opened hopen =>
    rcases hopen.loud hstack rfl with htold | ⟨-, -, -, hfailed⟩
    · cases htold.1
    · exact absurd List.mem_cons_self hfailed
  | cancel rest hold => simp [hold] at hstack
  | close rest hold hquiet hclosed =>
    rw [hold, List.cons.injEq] at hstack
    exact ⟨rest, hstack.2.symm, hquiet, hclosed⟩

/-- Code that leaves the pipe alone runs while none of the code of the pipe does. -/
theorem of_quiet (hs : PipeStage s) (hstack : s.stack = f :: stack) (hf : f.isQuiet = true) : PipeOpen s := by
  cases hs with
  | opened hopen => exact hopen
  | cancel rest hold =>
    rw [hold, List.cons.injEq] at hstack
    rw [← hstack.1] at hf
    cases hf
  | close rest hold =>
    rw [hold, List.cons.injEq] at hstack
    rw [← hstack.1] at hf
    cases hf

end PipeStage

/-- The user may call while none of the code of the pipe runs next. -/
theorem PipeStage.of_user (hs : PipeStage s) (huser : s.userRuns = true) : PipeOpen s := by
  cases hs with
  | opened hopen => exact hopen
  | cancel rest hstack hquiet =>
    rw [StreamRun.userRuns, hstack] at huser
    cases huser
  | close rest hstack hquiet hclosed =>
    rw [StreamRun.userRuns, hstack] at huser
    cases huser

end MediaFramework
