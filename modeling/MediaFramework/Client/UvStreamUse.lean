import MediaFramework.Client.UvRequests
import MediaFramework.Client.MediaUvGraph

/-!
# A stream is not used after it was freed

A stream is held by its proxy, its listeners and its query.  While code of the stream is still to run it must be held;
then the frame that frees it is the last one, and nobody is left who calls.  Code that runs without that: what
`media_uv_player_close` does after `media_uv_disconnect` has released the proxy at once, a second reply of the policy
whose flag the first one has cleared, and a suggestion for a focus that could not be abandoned.
-/

namespace MediaFramework

variable {s t : StreamRun} {o : StreamOutcome} {f : StreamFrame} {stack frames : List StreamFrame}

/-! ### What holds the stream -/

/-- `media_uv_stream_release` does not free the stream. -/
def StreamRun.Held (s : StreamRun) : Prop := s.priv.proxy = true ∨ s.priv.listeners ≠ [] ∨ s.priv.expected ≠ []

/-- The frame is code of the stream that does not belong to its release. -/
def StreamFrame.isCode : StreamFrame → Bool
  | .user | .queryComplete | .freeStream => false
  | _ => true

/-- The frame that frees the stream is the last one, and so is `queryComplete` unless there is code below. -/
def Layered : List StreamFrame → Prop
  | [] => True
  | f :: stack =>
    (f = .queryComplete → stack = [] ∨ ∃ g ∈ stack, g.isCode = true) ∧ (f = .freeStream → stack = []) ∧ Layered stack

theorem Layered.append (h : Layered stack) (hframes : ∀ f ∈ frames, f.isCode = true ∨ f = .user) :
    Layered (frames ++ stack) := by
  induction frames with
  | nil => exact h
  | cons f frames ih =>
    have hf := hframes f List.mem_cons_self
    refine ⟨?_, ?_, ih fun g hg => hframes g (List.mem_cons_of_mem _ hg)⟩
    · rintro rfl
      rcases hf with hf | hf <;> cases hf
    · rintro rfl
      rcases hf with hf | hf <;> cases hf

/-- What holds of a stream that was not freed. -/
structure StreamRun.Live (s : StreamRun) : Prop where
  freed : s.freed = false
  few : s.volumes ≤ 1
  volume : 0 < s.volumes → .volume ∈ s.priv.expected
  proxy : s.priv.proxy = false → s.closed = true
  disconnect : s.disconnect = true → s.closed = true
  failed : .closeFailed ∈ s.stack → s.closed = true
  focus : s.closed = true → s.priv.focus = false ∨ .abandonFocus ∈ s.stack
  held : ∀ f ∈ s.stack, f.isCode = true → s.Held
  freeing : .freeStream ∈ s.stack → ¬ s.Held
  layered : Layered s.stack

/-- Nothing is left that uses the stream. -/
structure StreamRun.Dead (s : StreamRun) : Prop where
  proxy : s.priv.proxy = false
  listeners : s.priv.listeners = []
  volumes : s.volumes = 0
  focus : s.priv.focus = false
  closed : s.closed = true
  stack : s.stack = []

theorem StreamRun.Dead.next (h : s.Dead) (i : StreamInput × StreamOutcome) : streamNext s i = none := by
  have hready : i.1.ready s = false := by
    unfold StreamInput.ready
    split <;> simp [h.proxy, h.listeners, h.volumes, h.focus, h.closed, h.stack]
  rw [streamNext, hready]
  rfl

/-! ### The code goes on -/

/-- The code puts the frames on the stack, and gives nothing up that holds the stream. -/
structure GoesOn (s t : StreamRun) (frames : List StreamFrame) : Prop where
  stack : t.stack = frames ++ s.stack
  plain : ∀ f ∈ frames, (f.isCode = true ∨ f = .user) ∧ f ≠ .closeFailed
  freed : t.freed = s.freed
  volumes : t.volumes = s.volumes
  closed : t.closed = s.closed
  disconnect : t.disconnect = s.disconnect
  proxy : t.priv.proxy = s.priv.proxy
  listeners : s.priv.listeners ≠ [] → t.priv.listeners ≠ []
  expected : ∀ field ∈ s.priv.expected, field ∈ t.priv.expected
  focus : t.closed = true → t.priv.focus = true → s.priv.focus = true

theorem GoesOn.held (ht : GoesOn s t frames) (h : s.Held) : t.Held := by
  rcases h with h | h | h
  · exact .inl (ht.proxy.trans h)
  · exact .inr (.inl (ht.listeners h))
  · obtain ⟨field, hfield⟩ := List.exists_mem_of_ne_nil _ h
    exact .inr (.inr (List.ne_nil_of_mem (ht.expected field hfield)))

/-- Code that goes on while the stream is held keeps the invariant. -/
theorem StreamRun.Live.goesOn (h : s.Live) (hheld : s.Held) (ht : GoesOn s t frames) : t.Live where
  freed := ht.freed.trans h.freed
  few := ht.volumes ▸ h.few
  volume hpos := ht.expected _ (h.volume (ht.volumes ▸ hpos))
  proxy hproxy := ht.closed.trans (h.proxy (ht.proxy.symm.trans hproxy))
  disconnect hset := ht.closed.trans (h.disconnect (ht.disconnect.symm.trans hset))
  failed hmem := by
    rw [ht.stack] at hmem
    rcases List.mem_append.1 hmem with hmem | hmem
    · exact absurd rfl (ht.plain _ hmem).2
    · exact ht.closed.trans (h.failed hmem)
  focus hclosed := by
    rcases h.focus (ht.closed.symm.trans hclosed) with hfocus | hmem
    · refine .inl (Bool.eq_false_iff.2 fun hset => ?_)
      cases hfocus.symm.trans (ht.focus hclosed hset)
    · exact .inr (ht.stack ▸ List.mem_append_right _ hmem)
  held _ _ _ := ht.held hheld
  freeing hmem := by
    rw [ht.stack] at hmem
    rcases List.mem_append.1 hmem with hmem | hmem
    · rcases (ht.plain _ hmem).1 with hcode | huser
      · cases hcode
      · cases huser
    · exact absurd hheld (h.freeing hmem)
  layered := ht.stack ▸ h.layered.append fun f hf => (ht.plain f hf).1

/-- A frame is taken off the stack. -/
theorem StreamRun.Live.pop (h : s.Live) (hs : s.stack = f :: stack) (hf : f ≠ .abandonFocus) :
    StreamRun.Live { s with stack } where
  freed := h.freed
  few := h.few
  volume := h.volume
  proxy := h.proxy
  disconnect := h.disconnect
  failed hmem := h.failed (hs ▸ List.mem_cons_of_mem _ hmem)
  focus hclosed := by
    refine (h.focus hclosed).imp id fun hmem => ?_
    rw [hs] at hmem
    exact (List.mem_cons.1 hmem).resolve_left (Ne.symm hf)
  held g hg := h.held g (hs ▸ List.mem_cons_of_mem _ hg)
  freeing hmem := h.freeing (hs ▸ List.mem_cons_of_mem _ hmem)
  layered := (hs ▸ h.layered : Layered (f :: stack)).2.2

/-! ### Releasing -/

theorem mediaUvStreamRelease_of_held (h : s.Held) : mediaUvStreamRelease s = s := by
  unfold mediaUvStreamRelease
  refine if_neg ?_
  rintro ⟨hproxy, hlisteners, hexpected⟩
  rcases h with h | h | h
  · cases hproxy.symm.trans h
  · exact h hlisteners
  · exact h hexpected

theorem not_held (h : ¬ s.Held) : s.priv.proxy = false ∧ s.priv.listeners = [] ∧ s.priv.expected = [] := by
  unfold StreamRun.Held at h
  rw [not_or, not_or, Bool.not_eq_true, not_not, not_not] at h
  exact h

/-- A stream that nothing holds is freed when its code has ended. -/
theorem StreamRun.Live.release (h : s.Live) (hstack : ¬ s.Held → s.stack = []) : (mediaUvStreamRelease s).Live := by
  by_cases hheld : s.Held
  · rw [mediaUvStreamRelease_of_held hheld]
    exact h
  · have hempty := hstack hheld
    have hclosed := h.proxy (not_held hheld).1
    have hfocus : s.priv.focus = false := by
      rcases h.focus hclosed with hfocus | hmem
      · exact hfocus
      · rw [hempty] at hmem
        cases hmem
    have hpush : ∀ frames, frames = [.freeStream] ∨ frames = [.user, .freeStream] → (s.push frames).Live := by
      intro frames hframes
      refine ⟨h.freed, h.few, h.volume, h.proxy, h.disconnect, fun _ => hclosed, fun _ => .inl hfocus, ?_,
        fun _ => hheld, ?_⟩
      · intro f hf hcode
        rw [StreamRun.push, hempty, List.append_nil] at hf
        rcases hframes with rfl | rfl
        · rw [List.mem_singleton.1 hf] at hcode
          cases hcode
        · rcases List.mem_cons.1 hf with rfl | hf
          · cases hcode
          · rw [List.mem_singleton.1 hf] at hcode
            cases hcode
      · rw [StreamRun.push, hempty, List.append_nil]
        rcases hframes with rfl | rfl <;> simp [Layered]
    unfold mediaUvStreamRelease
    rw [if_pos (not_held hheld)]
    split
    · exact hpush _ (.inr rfl)
    · exact hpush _ (.inl rfl)

/-! ### What keeps the stream as it is -/

/-- The code goes on with some frames. -/
def Goes (s t : StreamRun) : Prop := ∃ frames, GoesOn s t frames

theorem Goes.push (hframes : ∀ f ∈ frames, (f.isCode = true ∨ f = .user) ∧ f ≠ .closeFailed) : Goes s (s.push frames) :=
  ⟨frames, rfl, hframes, rfl, rfl, rfl, rfl, rfl, id, fun _ => id, fun _ => id⟩

theorem Goes.refl (s : StreamRun) : Goes s s :=
  ⟨[], rfl, nofun, rfl, rfl, rfl, rfl, rfl, id, fun _ => id, fun _ => id⟩

theorem Goes.trans {u : StreamRun} (h : Goes s t) (h' : Goes t u) : Goes s u := by
  obtain ⟨frames, h⟩ := h
  obtain ⟨frames', h'⟩ := h'
  refine ⟨frames' ++ frames, ?_, ?_, h'.freed.trans h.freed, h'.volumes.trans h.volumes, h'.closed.trans h.closed,
    h'.disconnect.trans h.disconnect, h'.proxy.trans h.proxy, fun hne => h'.listeners (h.listeners hne),
    fun field hmem => h'.expected field (h.expected field hmem), fun hclosed hset => ?_⟩
  · rw [h'.stack, h.stack, List.append_assoc]
  · intro f hf
    rcases List.mem_append.1 hf with hf | hf
    · exact h'.plain f hf
    · exact h.plain f hf
  · exact h.focus (h'.closed.symm.trans hclosed) (h'.focus hclosed hset)

theorem Goes.call (cb : Bool) : Goes s (s.call cb) := by
  cases cb with
  | false => exact .refl s
  | true => exact .push (by simp)

/-- Only data that does not hold the stream is changed. -/
theorem Goes.set (hstack : t.stack = s.stack) (hfreed : t.freed = s.freed) (hvolumes : t.volumes = s.volumes)
    (hclosed : t.closed = s.closed) (hdisconnect : t.disconnect = s.disconnect)
    (hproxy : t.priv.proxy = s.priv.proxy) (hlisteners : s.priv.listeners ≠ [] → t.priv.listeners ≠ [])
    (hquery : t.priv.query = s.priv.query) (hfocus : t.priv.focus = true → s.priv.focus = true) : Goes s t := by
  refine ⟨[], hstack, nofun, hfreed, hvolumes, hclosed, hdisconnect, hproxy, hlisteners, fun field hmem => ?_,
    fun _ => hfocus⟩
  rw [MediaStreamPriv.expected, hquery]
  exact hmem

theorem mediaUvStreamOpenCb_goes (ret : Int) : Goes s (mediaUvStreamOpenCb s ret o) := by
  unfold mediaUvStreamOpenCb
  split
  · split
    · have hset : Goes s { s with pipes := o.pipes } := .set rfl rfl rfl rfl rfl rfl id rfl id
      exact hset.trans (.call _)
    · exact .refl s
  · exact .call _

/-- A request whose reply is not about the query or the close. -/
theorem mediaUvStreamSend_goes {reply : Option StreamReply} (hreply : ∀ r ∈ reply, r = .opened ∨ r = .user)
    (hframes : ∀ f ∈ frames, (f.isCode = true ∨ f = .user) ∧ f ≠ .closeFailed) :
    Goes s (s.mediaUvStreamSend reply o frames) := by
  cases reply with
  | none => exact .push hframes
  | some reply =>
    have hpush : Goes s (s.push frames) := .push hframes
    unfold StreamRun.mediaUvStreamSend
    dsimp only
    split
    · rcases hreply _ rfl with rfl | rfl
      · exact hpush.trans (mediaUvStreamOpenCb_goes _)
      · exact hpush.trans (.push (by simp))
    · exact hpush

theorem mediaUvStreamConnectCb_goes (ret : Int) : Goes s (mediaUvStreamConnectCb s ret o) := by
  unfold mediaUvStreamConnectCb
  split
  · exact mediaUvStreamSend_goes (by simp) (by simp [StreamFrame.isCode])
  · exact .call _

theorem suggestFrames_plain (player : Bool) (suggest : Int) :
    ∀ f ∈ suggestFrames player suggest, (f.isCode = true ∨ f = .user) ∧ f ≠ .closeFailed := by
  unfold suggestFrames
  split_ifs <;> simp [StreamFrame.isCode]

theorem mediaUvStreamListenInit_goes : Goes s (mediaUvStreamListenInit s o).2 := by
  unfold mediaUvStreamListenInit
  split
  · exact .refl s
  · rename_i hempty
    exact .set rfl rfl rfl rfl rfl rfl (fun hne => absurd hne hempty) rfl id

theorem mediaUvStreamPrepare_goes (dataPipe options cb : Bool) :
    Goes s (mediaUvStreamPrepare s dataPipe options cb o) := by
  unfold mediaUvStreamPrepare
  split
  · exact .refl s
  · have hinit : Goes s (if dataPipe = true then mediaUvStreamListenInit s o else (0, s)).2 := by
      split
      · exact mediaUvStreamListenInit_goes
      · exact .refl s
    dsimp only
    generalize (if dataPipe = true then mediaUvStreamListenInit s o else (0, s)) = r at hinit ⊢
    by_cases hret : r.1 < 0
    · rw [if_pos hret]
      exact hinit
    · rw [if_neg hret]
      have hset : Goes s { r.2 with priv := { r.2.priv with onConnection := r.2.priv.onConnection || dataPipe } } :=
        hinit.trans (.set rfl rfl rfl rfl rfl rfl id rfl id)
      split
      · exact hset
      · exact hset.trans (.push (by simp [StreamFrame.isCode]))

theorem mediaUvStreamListenConnectionCb_goes (k : Nat) (ret : Int) :
    Goes s (mediaUvStreamListenConnectionCb s k ret o) := by
  have hset : ∀ pipe listeners, (s.priv.listeners ≠ [] → listeners ≠ []) →
      Goes s { s with priv := { s.priv with pipe, listeners } } :=
    fun pipe listeners hne => .set rfl rfl rfl rfl rfl rfl hne rfl id
  unfold mediaUvStreamListenConnectionCb
  split
  · exact hset _ _ (by simp [List.modify_eq_nil_iff])
  · split
    · exact hset _ _ (by simp)
    · split
      · exact (hset true s.priv.listeners id).trans (.push (by simp [StreamFrame.isCode]))
      · have haccepted := hset true ((s.priv.listeners.map .close).modify k fun _ => { closing := false })
          (by simp [List.modify_eq_nil_iff])
        dsimp only
        split
        · exact haccepted.trans (.push (by simp [StreamFrame.isCode]))
        · exact haccepted.trans (.push (by simp [StreamFrame.isCode]))

/-! ### Queries and the close -/

namespace StreamRun.Live

/-- A callback of the query: its flag is taken away, and the user is told when none is left. -/
theorem queryCb (h : s.Live) (field : QueryField) (hproxy : s.stack = [] ∨ s.priv.proxy = true)
    (hvolume : field = .volume → s.volumes = 0) (hcode : s.stack = [] ∨ ∃ g ∈ s.stack, g.isCode = true) :
    (mediaUvPlayerQueryCb s field).Live := by
  unfold mediaUvPlayerQueryCb
  generalize ht : ({ s with
    priv := { s.priv with query := s.priv.query.map fun expected => expected.filter (· ≠ field) } } : StreamRun) = t
  have hexpected : t.priv.expected = s.priv.expected.filter (· ≠ field) := by
    subst ht
    unfold MediaStreamPriv.expected
    cases s.priv.query <;> rfl
  have hlive : t.Live := by
    subst ht
    refine ⟨h.freed, h.few, fun hpos => ?_, h.proxy, h.disconnect, h.failed, h.focus, fun f hf _ => ?_, fun hmem => ?_,
      h.layered⟩
    · rw [hexpected]
      refine List.mem_filter.2 ⟨h.volume hpos, ?_⟩
      simp only [decide_eq_true_eq]
      rintro rfl
      exact absurd (hvolume rfl) (Nat.pos_iff_ne_zero.1 hpos)
    · rcases hproxy with hempty | hproxy
      · cases hempty ▸ hf
      · exact .inl hproxy
    · rcases hproxy with hempty | hproxy
      · cases hempty ▸ hmem
      · exact absurd (.inl hproxy) (h.freeing hmem)
  have hstack : t.stack = s.stack := by rw [← ht]
  unfold mediaUvPlayerQueryComplete
  split
  · -- the user is told; what follows is code of the release
    refine ⟨hlive.freed, hlive.few, hlive.volume, hlive.proxy, hlive.disconnect, fun hmem => hlive.failed ?_,
      fun hclosed => (hlive.focus hclosed).imp id fun hmem => ?_, fun f hf hcode' => hlive.held f ?_ hcode',
      fun hmem => hlive.freeing ?_, nofun, nofun, fun _ => ?_, nofun, hlive.layered⟩
    · simpa [StreamRun.push] using hmem
    · simp [StreamRun.push, hmem]
    · simp only [StreamRun.push, List.cons_append, List.nil_append, List.mem_cons] at hf
      rcases hf with rfl | rfl | hf
      · cases hcode'
      · cases hcode'
      · exact hf
    · simpa [StreamRun.push] using hmem
    · rw [hstack]
      exact hcode
  · rename_i hne
    rw [mediaUvStreamRelease_of_held (.inr (.inr hne))]
    exact hlive

/-- The proxy is released, and nothing else holds the stream only if no code is left. -/
theorem disconnectCb (h : s.Live) (hclosed : s.closed = true) (hproxy : s.priv.proxy = true)
    (hkeeps : s.stack = [] ∨ s.priv.listeners ≠ [] ∨ s.priv.expected ≠ []) : (mediaUvStreamDisconnectCb s).Live := by
  refine StreamRun.Live.release ⟨h.freed, h.few, h.volume, fun _ => hclosed, h.disconnect, h.failed, h.focus,
    fun f hf _ => ?_, fun hmem => absurd (.inl hproxy) (h.freeing hmem), h.layered⟩ fun hheld => ?_
  · rcases hkeeps with hempty | hkeeps
    · cases hempty ▸ hf
    · exact .inr hkeeps
  · rcases hkeeps with hempty | hkeeps
    · exact hempty
    · exact absurd (.inr hkeeps) hheld

/-- The close goes on: the proxy is disconnected, if it was not. -/
theorem closeCb (h : s.Live) (hclosed : s.closed = true)
    (hkeeps : s.disconnect = false → s.pipes = true ∨ s.stack = [] ∨ s.priv.listeners ≠ [] ∨ s.priv.expected ≠ []) :
    (mediaUvStreamCloseCb s).Live := by
  unfold mediaUvStreamCloseCb
  split
  · exact h
  · rename_i hopen
    rw [not_or, Bool.not_eq_false, Bool.not_eq_true] at hopen
    have hset : StreamRun.Live { s with disconnect := true } :=
      ⟨h.freed, h.few, h.volume, h.proxy, fun _ => hclosed, h.failed, h.focus, h.held, h.freeing, h.layered⟩
    split
    · exact hset
    · rename_i hpipes
      exact hset.disconnectCb hclosed hopen.1 ((hkeeps hopen.2).resolve_left hpipes)

/-- One of the requests of a query. -/
theorem queryOne (h : s.Live) (hheld : s.Held) (field : QueryField) (rest : List QueryField)
    (hvolume : field = .volume → 0 ≤ o.volume → s.volumes = 0) :
    (mediaUvPlayerQueryOne s field o [.query rest]).Live := by
  have hplain : ∀ f ∈ [StreamFrame.query rest], (f.isCode = true ∨ f = .user) ∧ f ≠ .closeFailed := by
    simp [StreamFrame.isCode]
  have hexpect : GoesOn s (expect s field) [] :=
    ⟨rfl, nofun, rfl, rfl, rfl, rfl, rfl, id, fun _ hmem => List.mem_cons_of_mem _ hmem, fun _ => id⟩
  have hpush : ∀ t : StreamRun, t.Live → t.Held → (t.push [.query rest]).Live := by
    intro t ht hheld
    obtain ⟨frames, hgoes⟩ := Goes.push (s := t) hplain
    exact ht.goesOn hheld hgoes
  unfold mediaUvPlayerQueryOne
  split
  · rename_i hfield
    split
    · rename_i hasked
      have hnone := hvolume hfield hasked
      have hlive := h.goesOn hheld hexpect
      refine hpush _ ⟨h.freed, ?_, fun _ => ?_, h.proxy, h.disconnect, h.failed, h.focus, hlive.held, hlive.freeing,
        h.layered⟩ (hexpect.held hheld)
      · exact Nat.le_of_eq (congrArg (· + 1) hnone)
      · rw [hfield]
        exact List.mem_cons_self
    · exact hpush _ h hheld
  · split
    · exact hpush _ (h.goesOn hheld hexpect) (hexpect.held hheld)
    · unfold StreamRun.mediaUvStreamSend
      dsimp only
      split
      · rename_i hfield _ hcanceled
        exact (hpush _ h hheld).queryCb field (.inr hcanceled.1) (fun heq => absurd heq hfield)
          (.inr ⟨.query rest, List.mem_cons_self, rfl⟩)
      · exact hpush _ h hheld

/-- Code that goes on while the stream is held. -/
theorem goes (h : s.Live) (hheld : s.Held) (ht : Goes s t) : t.Live := by
  obtain ⟨frames, ht⟩ := ht
  exact h.goesOn hheld ht

end StreamRun.Live

/-! ### The condition -/

/-- The frame asks the policy for the volume. -/
def StreamFrame.asksVolume : StreamFrame → Bool
  | .query (.volume :: _) => true
  | _ => false

/-- The step is in order: a close whose request fails finds a pipe, a listener or a query that keeps the stream; after
close the focus can be abandoned; and no query is made while the policy still owes a reply to an earlier one. -/
structure StreamOrderly (s : StreamRun) (i : StreamInput × StreamOutcome) : Prop where
  close : i.1 = .run → s.stack.head? = some .closeFailed → s.disconnect = false →
    s.pipes = true ∨ s.priv.listeners ≠ [] ∨ s.priv.expected ≠ []
  abandon : i.1 = .run → s.stack.head? = some .abandonFocus → s.closed = true → s.priv.focus = true → 0 ≤ i.2.abandon
  query : i.1 = .query → s.volumes = 0
  volume : i.1 = .run → s.stack.head?.any StreamFrame.asksVolume = true → 0 ≤ i.2.volume → s.volumes = 0

set_option synthInstance.maxSize 1000 in
instance (s : StreamRun) (i : StreamInput × StreamOutcome) : Decidable (StreamOrderly s i) :=
  decidable_of_iff
    ((i.1 = .run → s.stack.head? = some .closeFailed → s.disconnect = false →
        s.pipes = true ∨ s.priv.listeners ≠ [] ∨ s.priv.expected ≠ []) ∧
      (i.1 = .run → s.stack.head? = some .abandonFocus → s.closed = true → s.priv.focus = true → 0 ≤ i.2.abandon) ∧
      (i.1 = .query → s.volumes = 0) ∧
      (i.1 = .run → s.stack.head?.any StreamFrame.asksVolume = true → 0 ≤ i.2.volume → s.volumes = 0))
    ⟨fun h => ⟨h.1, h.2.1, h.2.2.1, h.2.2.2⟩, fun h => ⟨h.close, h.abandon, h.query, h.volume⟩⟩

/-! ### Steps -/

/-- The stream was not freed, or nothing is left that uses it. -/
def StreamRun.Sound (s : StreamRun) : Prop := s.Live ∨ s.Dead

/-- The rest of the code runs. -/
theorem StreamRun.Live.run (h : s.Live) (hs : s.stack = f :: stack) (hg : StreamOrderly s (.run, o)) :
    (runStreamFrame { s with stack } o f).Sound := by
  have hhead : s.stack.head? = some f := by rw [hs]; rfl
  have hmem : f ∈ s.stack := by rw [hs]; exact List.mem_cons_self
  have hpop : f ≠ .abandonFocus → StreamRun.Live { s with stack } := h.pop hs
  have hheld : f.isCode = true → StreamRun.Held { s with stack } := h.held f hmem
  cases f with
  | user => exact .inl (hpop nofun)
  | connectSent ret => exact .inl ((hpop nofun).goes (hheld rfl) (.call _))
  | closeFailed =>
    refine .inl ((hpop nofun).closeCb (h.failed hmem) fun hopen => ?_)
    exact (hg.close rfl hhead hopen).imp id .inr
  | closePipe =>
    refine .inl ((hpop nofun).goes (hheld rfl) ?_)
    have hset : Goes { s with stack } { s with stack, priv := { s.priv with pipe := false } } :=
      .set rfl rfl rfl rfl rfl rfl id rfl id
    simp only [runStreamFrame]
    split
    · exact hset.trans (.push (by simp [StreamFrame.isCode]))
    · exact hset
  | connectionTold => exact .inl ((hpop nofun).goes (hheld rfl) (.set rfl rfl rfl rfl rfl rfl id rfl id))
  | listenClear =>
    refine .inl ((hpop nofun).goes (hheld rfl) (.set rfl rfl rfl rfl rfl rfl (fun hne => ?_) rfl id))
    simpa [runStreamFrame] using hne
  | abandonFocus =>
    -- after close the focus is gone, as it could be abandoned
    have hfocus : s.closed = true → ¬ 0 ≤ o.abandon → s.priv.focus = false := by
      intro hclosed hfails
      by_contra hfocus
      exact hfails (hg.abandon rfl hhead hclosed (Bool.not_eq_false _ ▸ hfocus))
    have hlayered : Layered stack := (hs ▸ h.layered : Layered (.abandonFocus :: stack)).2.2
    have hfailed : .closeFailed ∈ stack → s.closed = true := fun hin => h.failed (hs ▸ List.mem_cons_of_mem _ hin)
    have hrest : ∀ f ∈ stack, f.isCode = true → s.Held := fun g hg' => h.held g (hs ▸ List.mem_cons_of_mem _ hg')
    have hfreeing : .freeStream ∈ stack → ¬ s.Held := fun hin => h.freeing (hs ▸ List.mem_cons_of_mem _ hin)
    left
    simp only [runStreamFrame]
    split
    · exact ⟨h.freed, h.few, h.volume, h.proxy, h.disconnect, hfailed, fun _ => .inl rfl, hrest, hfreeing, hlayered⟩
    · rename_i hfails
      exact ⟨h.freed, h.few, h.volume, h.proxy, h.disconnect, hfailed, fun hclosed => .inl (hfocus hclosed hfails),
        hrest, hfreeing, hlayered⟩
  | sendCommand cb =>
    refine .inl ((hpop nofun).goes (hheld rfl) (mediaUvStreamSend_goes (fun r hr => ?_) nofun))
    cases cb with
    | false => cases hr
    | true =>
      cases hr
      exact .inr rfl
  | query fields =>
    cases fields with
    | nil => exact .inl (hpop nofun)
    | cons field rest =>
      refine .inl ((hpop nofun).queryOne (hheld rfl) field rest ?_)
      rintro rfl hasked
      exact hg.volume rfl (by rw [hhead]; rfl) hasked
  | queryComplete =>
    refine .inl ((hpop nofun).release fun hnot => ?_)
    rcases (hs ▸ h.layered : Layered (.queryComplete :: stack)).1 rfl with hempty | ⟨g, hg', hcode⟩
    · exact hempty
    · exact absurd (h.held g (hs ▸ List.mem_cons_of_mem _ hg') hcode) hnot
  | freeStream =>
    -- nothing holds the stream, and no code is left
    right
    obtain ⟨hproxy, hlisteners, hexpected⟩ := not_held (h.freeing hmem)
    have hempty : stack = [] := (hs ▸ h.layered : Layered (.freeStream :: stack)).2.1 rfl
    have hclosed := h.proxy hproxy
    refine ⟨hproxy, hlisteners, ?_, ?_, hclosed, hempty⟩
    · by_contra hne
      have hvolume := h.volume (Nat.pos_of_ne_zero hne)
      rw [hexpected] at hvolume
      cases hvolume
    · rcases h.focus hclosed with hfocus | habandon
      · exact hfocus
      · rw [hs, hempty] at habandon
        cases List.mem_singleton.1 habandon

/-- Close puts its own frames on the stack; where the request is canceled at once, the proxy has a pipe. -/
theorem StreamRun.Live.close (h : s.Live) (hheld : s.Held) : (mediaUvStreamClose s o).Live := by
  have hpush : ∀ rest, (∀ f ∈ rest, f.isCode = true) → .abandonFocus ∈ rest →
      (StreamRun.push { s with closed := true, priv := { s.priv with onClose := o.user } } rest).Live := by
    intro rest hcode hmem
    refine ⟨h.freed, h.few, h.volume, fun _ => rfl, fun _ => rfl, fun _ => rfl,
      fun _ => .inr (List.mem_append_left _ hmem), fun _ _ _ => hheld, fun hfree => ?_,
      h.layered.append fun f hf => .inl (hcode f hf)⟩
    rcases List.mem_append.1 hfree with hfree | hfree
    · cases hcode _ hfree
    · exact absurd hheld (h.freeing hfree)
  unfold mediaUvStreamClose StreamRun.mediaUvStreamSend
  dsimp only
  have hlive := hpush ((if sendRet { s with closed := true, priv := { s.priv with onClose := o.user } } o < 0 then
    [StreamFrame.closeFailed] else []) ++ [StreamFrame.closePipe, .listenClear, .abandonFocus])
    (by split <;> simp [StreamFrame.isCode]) (by simp)
  split
  · rename_i hcanceled
    exact hlive.closeCb rfl fun _ => .inl hcanceled.2.1
  · exact hlive

/-- A stream that is not closed is held by its proxy. -/
private theorem StreamRun.Live.proxy_of_open (h : s.Live) (hopen : s.closed = false) : s.priv.proxy = true := by
  by_contra hproxy
  cases hopen.symm.trans (h.proxy (Bool.not_eq_true _ ▸ hproxy))

private theorem StreamRun.Live.held_of_open (h : s.Live) (hopen : s.closed = false) : s.Held :=
  .inl (h.proxy_of_open hopen)

private theorem StreamRun.Live.receive {reply : StreamReply} {ret : Int} (h : s.Live)
    (hready : (StreamInput.receive reply ret).ready s = true) : (streamStep s o (.receive reply ret)).Live := by
  cases reply with
  | opened =>
    simp only [StreamInput.ready, Bool.and_eq_true] at hready
    exact h.goes (.inl hready.2) (mediaUvStreamOpenCb_goes ret)
  | closed =>
    simp only [StreamInput.ready, Bool.and_eq_true, List.isEmpty_iff] at hready
    exact h.closeCb hready.2 fun _ => .inr (.inl hready.1.1)
  | queried field =>
    simp only [StreamInput.ready, Bool.and_eq_true, List.isEmpty_iff, bne_iff_ne, ne_eq] at hready
    exact h.queryCb field (.inl hready.1.1.1) (fun heq => absurd heq hready.2) (.inl hready.1.1.1)
  | user =>
    simp only [StreamInput.ready, Bool.and_eq_true] at hready
    exact h.goes (.inl hready.2) (.push (by simp))

private theorem StreamRun.Live.listenCloseCb {k : Nat} (h : s.Live)
    (hready : (StreamInput.listenCloseCb k).ready s = true) : (streamStep s o (.listenCloseCb k)).Live := by
  simp only [StreamInput.ready, Bool.and_eq_true, List.isEmpty_iff] at hready
  have hempty := hready.1
  refine StreamRun.Live.release ⟨h.freed, h.few, h.volume, h.proxy, h.disconnect, h.failed, h.focus, ?_, ?_,
    h.layered⟩ fun _ => hempty
  · intro f hf
    cases hempty ▸ hf
  · intro hf
    cases hempty ▸ hf

/-- The last reply of the policy is received. -/
private theorem StreamRun.Live.volumeCb (h : s.Live) (hready : StreamInput.volumeCb.ready s = true) :
    (streamStep s o .volumeCb).Live := by
  simp only [StreamInput.ready, Bool.and_eq_true, List.isEmpty_iff, decide_eq_true_eq] at hready
  have hnone : s.volumes - 1 = 0 := by
    have hfew := h.few
    omega
  have hlive : StreamRun.Live { s with volumes := s.volumes - 1 } :=
    ⟨h.freed, Nat.le_trans (Nat.sub_le _ _) h.few, fun hpos => absurd hnone (Nat.pos_iff_ne_zero.1 hpos), h.proxy,
      h.disconnect, h.failed, h.focus, h.held, h.freeing, h.layered⟩
  exact hlive.queryCb .volume (.inl hready.1) (fun _ => hnone) (.inl hready.1)

private theorem StreamRun.Live.startAuto {cb : Bool} (h : s.Live) (hopen : s.closed = false) :
    (streamStep s o (.startAuto cb)).Live := by
  simp only [streamStep]
  unfold mediaUvStreamStartAuto
  split
  · exact h.goes (h.held_of_open hopen) (.push (by simp [StreamFrame.isCode]))
  · split
    · -- only before close a focus is requested
      have hfocus : GoesOn s { s with priv := { s.priv with focus := true } } [] :=
        ⟨rfl, nofun, rfl, rfl, rfl, rfl, rfl, id, fun _ => id, fun hset => by cases hopen.symm.trans hset⟩
      exact h.goesOn (h.held_of_open hopen) hfocus
    · exact h

/-- No reply of the policy is to come, so the flags of the query may be cleared. -/
private theorem StreamRun.Live.query (h : s.Live) (hopen : s.closed = false) (hnone : s.volumes = 0) :
    (streamStep s o .query).Live := by
  simp only [streamStep]
  unfold mediaUvPlayerQuery
  split
  · exact h
  · have hproxy := h.proxy_of_open hopen
    have hcleared : StreamRun.Live { s with priv := { s.priv with query := some [] } } :=
      ⟨h.freed, h.few, fun hpos => absurd hnone (Nat.pos_iff_ne_zero.1 hpos), h.proxy, h.disconnect, h.failed,
        h.focus, fun _ _ _ => .inl hproxy, fun hfree => absurd (.inl hproxy) (h.freeing hfree), h.layered⟩
    exact hcleared.goes (.inl hproxy) (.push (by simp [StreamFrame.isCode]))

/-- A step that is in order keeps the invariant. -/
theorem StreamRun.Live.step {i : StreamInput} (h : s.Live) (hready : i.ready s = true) (hg : StreamOrderly s (i, o)) :
    (streamStep s o i).Sound := by
  have hplain : ∀ frames, (∀ f ∈ frames, f.isCode = true ∧ f ≠ .closeFailed) → Goes s (s.push frames) :=
    fun frames hframes => .push fun f hf => ⟨.inl (hframes f hf).1, (hframes f hf).2⟩
  cases i with
  | run =>
    -- Most of what `hg` asks for is about these frames, the rest is about a query.
    cases hs : s.stack with
    | nil => simp [StreamInput.ready, hs] at hready
    | cons f stack =>
      simp only [streamStep, hs]
      exact h.run hs hg
  | userReturns =>
    cases hs : s.stack with
    | nil => simp [StreamInput.ready, hs] at hready
    | cons f stack =>
      simp only [StreamInput.ready, hs, List.head?_cons, beq_iff_eq, Option.some.injEq] at hready
      simp only [streamStep, hs, List.tail_cons]
      exact .inl (h.pop hs (by rw [hready]; nofun))
  | connectCb ret =>
    simp only [StreamInput.ready, Bool.and_eq_true] at hready
    exact .inl (h.goes (.inl hready.2) (mediaUvStreamConnectCb_goes ret))
  | receive reply ret => exact .inl (h.receive hready)
  | eventCb completed =>
    simp only [StreamInput.ready, Bool.and_eq_true] at hready
    have hevent : Goes s (mediaUvStreamEventCb s completed o) :=
      (Goes.call o.user).trans (.push (by cases completed <;> simp [StreamFrame.isCode]))
    exact .inl (h.goes (.inl hready.2) hevent)
  | releaseCb =>
    simp only [StreamInput.ready, Bool.and_eq_true, List.isEmpty_iff] at hready
    obtain ⟨⟨⟨hempty, hproxy⟩, hset⟩, -⟩ := hready
    exact .inl (h.disconnectCb (h.disconnect hset) hproxy (.inl hempty))
  | proxyPipes pipes =>
    simp only [StreamInput.ready, Bool.and_eq_true] at hready
    exact .inl (h.goes (.inl hready.2) (.set rfl rfl rfl rfl rfl rfl id rfl id))
  | connectionCb k ret =>
    simp only [StreamInput.ready, Bool.and_eq_true, Option.any_eq_true] at hready
    obtain ⟨-, l, hl, -⟩ := hready
    have hlisteners : s.priv.listeners ≠ [] := List.ne_nil_of_mem (List.mem_of_getElem? hl)
    exact .inl (h.goes (.inr (.inl hlisteners)) (mediaUvStreamListenConnectionCb_goes k ret))
  | listenCloseCb k => exact .inl (h.listenCloseCb hready)
  | volumeCb => exact .inl (h.volumeCb hready)
  | suggestCb suggest =>
    -- A focus that still suggests was not abandoned, so the stream was not closed.
    simp only [StreamInput.ready, Bool.and_eq_true, List.isEmpty_iff] at hready
    have hheld : s.Held := by
      refine h.held_of_open (Bool.not_eq_true _ ▸ fun hclosed => ?_)
      rcases h.focus hclosed with hfocus | hmem
      · cases hfocus.symm.trans hready.2
      · cases hready.1 ▸ hmem
    exact .inl (h.goes hheld ((Goes.call o.user).trans (.push (suggestFrames_plain _ suggest))))
  | listen =>
    simp only [StreamInput.ready, Bool.and_eq_true, Bool.not_eq_true'] at hready
    refine .inl (h.goes (h.held_of_open hready.2) ?_)
    simp only [streamStep]
    unfold mediaUvStreamListen
    split
    · exact .refl s
    · exact .set rfl rfl rfl rfl rfl rfl id rfl id
  | prepare dataPipe options cb =>
    simp only [StreamInput.ready, Bool.and_eq_true, Bool.not_eq_true'] at hready
    exact .inl (h.goes (h.held_of_open hready.2) (mediaUvStreamPrepare_goes dataPipe options cb))
  | stop cb =>
    simp only [StreamInput.ready, Bool.and_eq_true, Bool.not_eq_true'] at hready
    exact .inl (h.goes (h.held_of_open hready.2) (hplain _ (by simp [StreamFrame.isCode])))
  | pause cb =>
    simp only [StreamInput.ready, Bool.and_eq_true, Bool.not_eq_true'] at hready
    exact .inl (h.goes (h.held_of_open hready.2) (hplain _ (by simp [StreamFrame.isCode])))
  | startAuto cb =>
    simp only [StreamInput.ready, Bool.and_eq_true, Bool.not_eq_true'] at hready
    exact .inl (h.startAuto hready.2)
  | send cb =>
    simp only [StreamInput.ready, Bool.and_eq_true, Bool.not_eq_true'] at hready
    exact .inl (h.goes (h.held_of_open hready.2) (hplain _ (by simp [StreamFrame.isCode])))
  | query =>
    simp only [StreamInput.ready, Bool.and_eq_true, Bool.not_eq_true'] at hready
    exact .inl (h.query hready.1.2 (hg.query rfl))
  | close =>
    simp only [StreamInput.ready, Bool.and_eq_true, Bool.not_eq_true'] at hready
    exact .inl (h.close (h.held_of_open hready.2))

/-! ### Runs -/

theorem streamNext_sound {i : StreamInput × StreamOutcome} (h : s.touched = false ∧ s.Sound) (hg : StreamOrderly s i)
    (hn : streamNext s i = some t) : t.touched = false ∧ t.Sound := by
  obtain ⟨huntouched, hlive | hdead⟩ := h
  · unfold streamNext at hn
    split at hn
    · rename_i hready
      cases hn
      refine ⟨by simp [huntouched, hlive.freed], ?_⟩
      rcases hlive.step hready hg with h | h
      · exact .inl ⟨h.freed, h.few, h.volume, h.proxy, h.disconnect, h.failed, h.focus, h.held, h.freeing, h.layered⟩
      · exact .inr ⟨h.proxy, h.listeners, h.volumes, h.focus, h.closed, h.stack⟩
    · cases hn
  · rw [hdead.next] at hn
    cases hn

theorem mediaUvStreamOpen_sound (player onOpen connected : Bool) :
    (mediaUvStreamOpen player onOpen connected).touched = false ∧
      (mediaUvStreamOpen player onOpen connected).Sound := by
  cases connected with
  | true =>
    refine ⟨rfl, .inl ⟨rfl, Nat.zero_le 1, nofun, nofun, nofun, nofun, nofun, nofun, nofun, trivial⟩⟩
  | false =>
    refine ⟨by cases player <;> cases onOpen <;> rfl, .inl ?_⟩
    have hlive : StreamRun.Live
        { player, priv := { proxy := true, onOpen }, pipes := false, closed := true } :=
      ⟨rfl, Nat.zero_le 1, nofun, nofun, nofun, nofun, fun _ => .inl rfl, nofun, nofun, trivial⟩
    exact hlive.disconnectCb rfl rfl (.inl rfl)

/-- In a run whose steps are in order the stream is not used after it was freed. -/
theorem streamRun_untouched {player onOpen connected : Bool}
    (h : (streamMachine player onOpen connected).ReachableVia StreamOrderly s) : s.touched = false :=
  (h.invariant (P := fun s => s.touched = false ∧ s.Sound) (mediaUvStreamOpen_sound player onOpen connected)
    fun _ _ _ hs hg hn => streamNext_sound hs hg hn).1

/-- A player is opened and closed; it is freed when its proxy is gone. -/
def sampleStreamClosed : StreamRun :=
  ((streamMachine true true true).runFrom StreamOrderly (streamMachine true true true).start
    [(.connectCb 0, {}), (.run, {}), (.receive .opened 0, {}), (.userReturns, {}), (.close, {}), (.run, {}), (.run, {}),
      (.run, {}), (.receive .closed 0, {}), (.proxyPipes false, {}), (.releaseCb, {}), (.userReturns, {}),
      (.run, {})]).get (by decide)

theorem streamRun_untouched_sample : sampleStreamClosed.freed = true ∧ sampleStreamClosed.touched = false := by
  have h : (streamMachine true true true).ReachableVia StreamOrderly sampleStreamClosed :=
    Machine.reachableVia_get (by decide)
  exact ⟨by decide, streamRun_untouched h⟩

/-- A player listens, no server takes it, and it is closed when the last connection is gone. -/
def sampleStreamExhausted : StreamRun :=
  ((streamMachine true true true).runFrom (fun _ _ => True) (streamMachine true true true).start
    [(.listen, {}), (.connectCb 0, {}), (.run, {}), (.receive .opened (-EINVAL), {}), (.connectCb (-ENOENT), {}),
      (.userReturns, {}), (.proxyPipes false, {}), (.close, { send := -ECANCELED, user := false }), (.run, {}),
      (.run, {}), (.run, {})]).get (by decide)

/-- Without the condition the code of close uses a stream that was freed. -/
theorem streamRun_not_untouched : ¬ ∀ (player onOpen connected : Bool) (s : StreamRun),
    (streamMachine player onOpen connected).Reachable s → s.touched = false := by
  intro h
  have huntouched := h true true true sampleStreamExhausted (Machine.reachableVia_get (by decide))
  revert huntouched
  decide

/-- A connected player is closed in order and freed, and then there is one more call. -/
def sampleStreamEnd (abandon : Int) (late : StreamInput) : List (StreamInput × StreamOutcome) :=
  [(.close, { user := false }), (.run, {}), (.run, {}), (.run, { abandon }), (.receive .closed 0, {}),
    (.proxyPipes false, {}), (.releaseCb, {}), (.run, {}), (late, {})]

/-- A query with its four requests. -/
def sampleStreamQuery : List (StreamInput × StreamOutcome) := (.query, {}) :: List.replicate 5 (.run, {})

/-- The replies to a query, the last of the policy. -/
def sampleStreamReplies : List (StreamInput × StreamOutcome) :=
  [(.receive (.queried .state) 0, {}), (.receive (.queried .duration) 0, {}), (.receive (.queried .position) 0, {}),
    (.volumeCb, {}), (.userReturns, {}), (.run, {})]

/-- What a connected player comes to. -/
def sampleStreamRun (inputs : List (StreamInput × StreamOutcome)) : Option StreamRun :=
  (streamMachine true false true).runFrom (fun _ _ => True) (streamMachine true false true).start inputs

-- Two queries at once: the second reply of the policy comes when the stream was freed.
example : (sampleStreamRun (sampleStreamQuery ++ sampleStreamQuery ++ sampleStreamReplies ++
    sampleStreamEnd 0 .volumeCb)).any StreamRun.touched = true := by decide

-- A focus that could not be abandoned makes a suggestion.
example : (sampleStreamRun ((.startAuto false, {}) :: sampleStreamEnd (-ENOMEM) (.suggestCb MEDIA_FOCUS_STOP))).any
    StreamRun.touched = true := by decide

/-! ### The proxy of a stream -/

theorem mediaUvShutdown_stack (p : MediaProxyPriv) (o : Outcome) :
    (mediaUvShutdown p o).stack = p.stack ∧ (mediaUvShutdown p o).cpipe = p.cpipe ∧
      (mediaUvShutdown p o).epipe = p.epipe := by
  unfold mediaUvShutdown
  split
  · exact ⟨rfl, rfl, rfl⟩
  · split
    · exact ⟨rfl, rfl, rfl⟩
    · split <;> exact ⟨rfl, rfl, rfl⟩

/-- As in `mediaUvStreamCloseCb`: `media_uv_disconnect` calls `on_release` at once exactly if both pipes are gone. -/
theorem mediaUvDisconnect_stack {p : MediaProxyPriv} (o : Outcome) (hset : p.flags.disconnect = false) :
    (mediaUvDisconnect p true o).2.stack =
      if p.cpipe.isSome || p.epipe.isSome then p.stack else .user .onRelease :: .freeProxy :: p.stack := by
  unfold mediaUvDisconnect
  rw [if_neg (by simp [hset])]
  dsimp only
  obtain ⟨hstack, hcpipe, hepipe⟩ := mediaUvShutdown_stack { p with onRelease := true } o
  have hgoes : ∀ t : MediaProxyPriv, t.stack = p.stack → t.cpipe = p.cpipe → t.epipe = p.epipe → t.onRelease = true →
      (mediaUvFreeProxy { t with flags := { t.flags with disconnect := true } }).stack =
        if p.cpipe.isSome || p.epipe.isSome then p.stack else .user .onRelease :: .freeProxy :: p.stack := by
    intro t ht hcpipe hepipe hrelease
    unfold mediaUvFreeProxy
    simp only [hcpipe, hepipe]
    split
    · exact ht
    · simp [mediaUvClearQueue, MediaProxyPriv.push, hrelease, ht]
  split
  · refine hgoes _ hstack hcpipe hepipe ?_
    unfold mediaUvShutdown
    split
    · rfl
    · split
      · rfl
      · split <;> rfl
  · exact hgoes _ rfl rfl rfl rfl

/-- The proxy of that stream: `media_uv_listen` was called before the first reply, which is answered with
`media_uv_reconnect`, and there is no other name to try. -/
def sampleUvExhausted : MediaProxyPriv :=
  (sampleUvRunFrom (fun _ _ => True) []
    ([UvInput.send false, .listen false, .connectCb 0 0, .send true] ++ sampleUvSteps 2 ++
      [UvInput.writeCb 0 ⟨1, MEDIA_PARCEL_SEND_ACK, true, false⟩ 0, .parcel 0 7, .reconnect] ++ sampleUvSteps 6 ++
      [UvInput.closeCb 0])).get (by decide)

/-- It refuses requests and is released at once when it is disconnected. -/
example : (uvMachine sampleUvConfig "ap" []).Reachable sampleUvExhausted ∧
    (mediaUvSend sampleUvExhausted true {}).1 = -ECANCELED ∧
      (mediaUvDisconnect sampleUvExhausted true {}).2.stack = [.user .onRelease, .freeProxy] := by
  refine ⟨Machine.reachableVia_get (by decide), by decide, ?_⟩
  rw [mediaUvDisconnect_stack {} (by decide)]
  decide

end MediaFramework
