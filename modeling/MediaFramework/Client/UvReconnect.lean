import MediaFramework.Client.UvAwaits

/-!
# Reconnections are not forgotten

`media_uv_reconnect` tries the next name of the list at once when no flag is set.  Otherwise it sets
`MEDIA_PROXYFLAG_RECONNECT`, which is only looked at when the first reply of a connection has been handled: the flag is
of use only as long as that reply is to come.
-/

namespace MediaFramework

variable {c : UvConfig} {s s' t : MediaProxyPriv} {o : Outcome} {i : UvInput} {f : UvFrame} {stack frames : List UvFrame}
  {k : Nat} {spared : Nat → Prop}

/-! ### What is said about a run -/

/-- The record of a run: the replies, the names that were tried, whether a call of `media_uv_reconnect` that returned 0
has not been followed by an attempt, and whether `media_uv_disconnect` was called. -/
structure ReconnectRecord where
  replied : List Nat := []
  tried : List String
  owed : Bool := false
  disconnected : Bool := false

variable {h : ReconnectRecord}

/-- The step is a call of `media_uv_reconnect` that returns 0. -/
def AsksReconnect (c : UvConfig) (s : MediaProxyPriv) (o : Outcome) : UvInput → Bool
  | .reconnect => (mediaUvReconnect c s o).1 = 0
  | _ => false

/-- `on_connect` is called with `-ENOENT`, which does not come from libuv. -/
def ReportsExhausted (s : MediaProxyPriv) (i : UvInput) (s' : MediaProxyPriv) : Bool :=
  match i with
  | .connectCb _ _ => false
  | _ => s.stack.length < s'.stack.length && s'.stack.head? = some (.user (.onConnect (-ENOENT)))

/-- The step takes the next name of the list, or reports that there is none. -/
def Attempts (s : MediaProxyPriv) (i : UvInput) (s' : MediaProxyPriv) : Bool :=
  s'.cpus.length < s.cpus.length || ReportsExhausted s i s'

def ReconnectRecord.note (c : UvConfig) (s : MediaProxyPriv) (i : UvInput × Outcome) (s' : MediaProxyPriv)
    (h : ReconnectRecord) : ReconnectRecord where
  replied := noteReply s i.1 h.replied
  tried := if s'.cpus.length < s.cpus.length then h.tried ++ s'.cpu.toList else h.tried
  owed := (h.owed || AsksReconnect c s i.2 i.1) && !Attempts s i.1 s'
  disconnected := h.disconnected || i.1 matches .disconnect _

/-- A proxy with the record of its reconnections. -/
def uvReconnectMachine (c : UvConfig) (cpu : String) (cpus : List String) :
    Machine (MediaProxyPriv × ReconnectRecord) (UvInput × Outcome) :=
  (uvMachine c cpu cpus).recorded { tried := [cpu] } (ReconnectRecord.note c)

/-- No reconnection is forgotten: unless the client disconnects, nothing is owed and no flag is pending when nothing is
to come.  The names are tried in their order, each of them at most once. -/
structure NoneForgotten (cpu : String) (cpus : List String) (s : MediaProxyPriv) (h : ReconnectRecord) : Prop where
  attempted : h.disconnected = false → s.Quiescent h.replied → h.owed = false
  applied : h.disconnected = false → s.Quiescent h.replied → s.flags.reconnect = false
  inOrder : h.tried ++ s.cpus = cpu :: cpus

/-- The flag `MEDIA_PROXYFLAG_RECONNECT` would be of use: the first reply is to come or is being handled. -/
def MediaProxyPriv.HeedsReconnect (s : MediaProxyPriv) (replied : List Nat) : Prop :=
  s.Handling ∨ s.flags.connecting = true ∧ s.Expects replied

/-- The flag is set or restored only where it is of use, and while it is set the connection neither fails nor ends. -/
def ReconnectsHeeded (p : MediaProxyPriv × ReconnectRecord) (i : UvInput × Outcome) : Prop :=
  p.2.disconnected = false →
    match i.1 with
    | .reconnect => p.1.epipe = none → p.1.flags ≠ 0 → p.1.HeedsReconnect p.2.replied
    | .run =>
      match p.1.stack with
      | .restoreFlags flags :: _ => flags.reconnect = true → p.1.Expects p.2.replied
      | _ => True
    | .connectCb pipe status => p.1.flags.reconnect = true → p.1.cpipe = some pipe → 0 ≤ status
    | .readErr pipe => p.1.flags.reconnect = true → p.1.cpipe ≠ some pipe
    | _ => True

/-! ### The names of the list -/

private theorem tried_step {cpu : String} {cpus : List String} (hs : h.tried ++ s.cpus = cpu :: cpus) (q : Writings)
    (fails : Prop) (hstep : ControlStep s.control q fails s'.control) (i : UvInput × Outcome) :
    (h.note c s i s').tried ++ s'.cpus = cpu :: cpus := by
  have hsame : s'.cpus = s.cpus → (h.note c s i s').tried ++ s'.cpus = cpu :: cpus := by
    intro hcpus
    simp only [ReconnectRecord.note, hcpus, Nat.lt_irrefl, if_false]
    exact hs
  generalize ht : s'.control = t at hstep
  have hcpus : s'.cpus = t.cpus := congrArg UvControl.cpus ht
  have hcpu : s'.cpu = t.cpu := congrArg UvControl.cpu ht
  cases hstep with
  | next name names hnames =>
    replace hnames : s.cpus = name :: names := hnames
    simp only [ReconnectRecord.note, hcpus, hcpu, hnames, List.length_cons, Nat.lt_succ_self, if_true, Option.toList]
    rw [← hs, hnames, List.append_assoc]
    rfl
  | same => exact hsame hcpus
  | exhaust => exact hsame hcpus
  | disconnect => exact hsame hcpus
  | release => exact hsame hcpus
  | abort => exact hsame hcpus

/-! ### An attempt -/

theorem attempts_reconnectOne (c : UvConfig) {s₀ : MediaProxyPriv} (o : Outcome)
    (hi : ∀ pipe status, i ≠ .connectCb pipe status)
    (hcpus : s₀.cpus = s.cpus) (hstack : s₀.stack.length = s.stack.length) :
    Attempts s i (mediaUvReconnectOne c s₀ o) = true := by
  obtain ⟨-, -, frames, hframes, -, hattempts⟩ := mediaUvReconnectOne_attempts c s₀ o
  unfold Attempts
  rcases hattempts with hshorter | rfl
  · rw [hcpus] at hshorter
    simp [hshorter]
  · have hreports : ReportsExhausted s i (mediaUvReconnectOne c s₀ o) = true := by
      unfold ReportsExhausted
      split
      · exact absurd rfl (hi _ _)
      · simp [hframes, hstack]
    rw [hreports, Bool.or_true]

/-! ### The flag while the code runs -/

/-- What holds until the client disconnects: the flag is of use while it is set or about to be restored, and a
reconnection that is owed has its flag. -/
structure FlagHeeded (s : MediaProxyPriv) (h : ReconnectRecord) : Prop where
  live : s.flags.disconnect = false
  saved : ∀ flags, .restoreFlags flags ∈ s.stack →
    flags.disconnect = false ∧ (flags.reconnect = true → flags.connecting = true)
  pending : s.flags.reconnect = true → s.HeedsReconnect h.replied
  owed : h.owed = true → s.flags.reconnect = true ∨ ∃ flags, .restoreFlags flags ∈ s.stack ∧ flags.reconnect = true

variable {h' : ReconnectRecord}

theorem Spares.heeds (ht : Spares spared s t frames) (hspared : ∀ k, s.Awaited k → spared k) {replied : List Nat}
    (hs : s.HeedsReconnect replied) : t.HeedsReconnect replied := by
  rcases hs with hhandling | ⟨hconnecting, hexpects⟩
  · exact .inl (ht.handling hhandling)
  · exact .inr ⟨ht.connecting.trans hconnecting, ht.expects hspared hexpects⟩

namespace FlagHeeded

/-- The flag stays as it is, or is of use, and no flags are saved. -/
private theorem keep (h₀ : FlagHeeded s h) (hstack : ∀ f, .restoreFlags f ∈ t.stack → .restoreFlags f ∈ s.stack)
    (hdisconnect : t.flags.disconnect = s.flags.disconnect) (hreconnect : t.flags.reconnect = s.flags.reconnect)
    (hpending : s.flags.reconnect = true → t.HeedsReconnect h'.replied)
    (hsaved : ∀ f, .restoreFlags f ∈ s.stack → .restoreFlags f ∈ t.stack) (howed : h'.owed = true → h.owed = true) :
    FlagHeeded t h' where
  live := hdisconnect.trans h₀.live
  saved flags hflags := h₀.saved flags (hstack flags hflags)
  pending hflag := hpending (hreconnect.symm.trans hflag)
  owed how := (h₀.owed (howed how)).imp hreconnect.trans fun ⟨flags, hmem, hflag⟩ => ⟨flags, hsaved flags hmem, hflag⟩

/-- The code has put plain frames on the stack and left alone what is waited for. -/
private theorem spares (h₀ : FlagHeeded s h) (ht : Spares spared s t frames)
    (hspared : s.flags.reconnect = true → ∀ k, s.Awaited k → spared k) (hreplied : h'.replied = h.replied)
    (howed : h'.owed = true → h.owed = true) : FlagHeeded t h' := by
  refine h₀.keep (fun f hf => ?_) ht.disconnect ht.reconnect (fun hflag => ?_) (fun f hf => ?_) howed
  · rw [ht.stack, List.mem_append] at hf
    rcases hf with hf | hf
    · cases ht.plain _ hf
    · exact hf
  · rw [hreplied]
    exact ht.heeds (hspared hflag) (h₀.pending hflag)
  · rw [ht.stack]
    exact List.mem_append_right _ hf

/-- A frame is taken off the stack that neither handles a reply nor restores flags, and it leaves alone what is waited
for. -/
private theorem run (h₀ : FlagHeeded s h) (hs : s.stack = f :: stack) (hf : f.handles s.flags = false)
    (hrestore : ∀ flags, f ≠ .restoreFlags flags) (ht : Spares s.Awaited { s with stack } t frames)
    (hreplied : h'.replied = h.replied) (howed : h'.owed = true → h.owed = true) : FlagHeeded t h' := by
  refine h₀.keep (fun g hg => ?_) ht.disconnect ht.reconnect (fun hflag => ?_) (fun g hg => ?_) howed
  · rw [ht.stack, List.mem_append] at hg
    rcases hg with hg | hg
    · cases ht.plain _ hg
    · rw [hs]
      exact List.mem_cons_of_mem _ hg
  · rw [hreplied]
    rcases h₀.pending hflag with ⟨g, hg, hhandles⟩ | ⟨hconnecting, k, hcpipe, hk, hnone⟩
    · rw [hs] at hg
      rcases List.mem_cons.1 hg with rfl | hg
      · rw [hf] at hhandles
        cases hhandles
      · exact .inl (ht.handling ⟨g, hg, hhandles⟩)
    · exact .inr ⟨ht.connecting.trans hconnecting, k, ht.cpipe k hk hcpipe, ht.awaited hk (hk.pop hs), hnone⟩
  · rw [hs] at hg
    rw [ht.stack]
    exact List.mem_append_right _ ((List.mem_cons.1 hg).resolve_left fun heq => hrestore g heq.symm)

/-- Whatever handles the reply is on the stack. -/
private theorem handles (frames : List UvFrame) (h₀ : FlagHeeded s h) (hs : s.stack = f :: stack)
  (hrestore : ∀ flags, f ≠ .restoreFlags flags)
    (hstack : t.stack = frames ++ stack) (hframes : ∀ flags, .restoreFlags flags ∉ frames)
    (hdisconnect : t.flags.disconnect = s.flags.disconnect) (hreconnect : t.flags.reconnect = s.flags.reconnect)
    (hhandling : t.Handling) (howed : h'.owed = true → h.owed = true) : FlagHeeded t h' := by
  refine h₀.keep (fun g hg => ?_) hdisconnect hreconnect (fun _ => .inl hhandling) (fun g hg => ?_) howed
  · rw [hstack, List.mem_append] at hg
    rw [hs]
    exact List.mem_cons_of_mem _ (hg.resolve_left (hframes g))
  · rw [hs] at hg
    rw [hstack]
    exact List.mem_append_right _ ((List.mem_cons.1 hg).resolve_left fun heq => hrestore g heq.symm)

/-- A connection is attempted, and nothing is owed. -/
private theorem reconnectOne (c : UvConfig) (s : MediaProxyPriv) (o : Outcome) (hlive : s.flags.disconnect = false)
    (hreconnect : s.flags.reconnect = false)
    (hsaved : ∀ flags, .restoreFlags flags ∈ s.stack →
      flags.disconnect = false ∧ (flags.reconnect = true → flags.connecting = true))
    (howed : h'.owed = false) : FlagHeeded (mediaUvReconnectOne c s o) h' := by
  obtain ⟨hsame, hdisconnect, frames, hframes, husers, -⟩ := mediaUvReconnectOne_attempts c s o
  refine ⟨hdisconnect.trans hlive, fun flags hflags => hsaved flags ?_, fun hset => ?_, fun how => ?_⟩
  · rw [hframes, List.mem_append] at hflags
    rcases hflags with hflags | hflags
    · cases husers _ hflags
    · exact hflags
  · rw [hsame, hreconnect] at hset
    cases hset
  · rw [howed] at how
    cases how

/-- A reply is handled: the first one lets a listening begin that was put off. -/
private theorem handleParcel {w : MediaWritePriv} {pipe : Nat} (h₀ : FlagHeeded s h)
    (hs : s.stack = .handleParcel w pipe :: stack) (hreplied : h'.replied = h.replied)
    (howed : h'.owed = true → h.owed = true) :
    FlagHeeded (MediaFramework.runFrame c { s with stack } o (.handleParcel w pipe)) h' := by
  simp only [MediaFramework.runFrame]
  split
  · split
    · -- the deferred listening does not touch what handles the reply
      obtain ⟨frames, hframes⟩ := Spares.listenOne (fun _ => False) c (MediaProxyPriv.push
        { s with
          stack
          writings := s.writings.setResponsed w
          flags := { s.flags with connecting := false } } [.applyWritings pipe]) o (by rintro _ ⟨⟩)
      have hmem : .applyWritings pipe ∈ (mediaUvListenOne c (MediaProxyPriv.push
          { s with
            stack
            writings := s.writings.setResponsed w
            flags := { s.flags with connecting := false } } [.applyWritings pipe]) o).2.stack := by
        rw [hframes.stack]
        exact List.mem_append_right _ List.mem_cons_self
      refine h₀.handles (frames ++ [.applyWritings pipe]) hs (by rintro _ ⟨⟩) ?_ ?_ hframes.disconnect
        hframes.reconnect ⟨_, hmem, rfl⟩ howed
      · rw [hframes.stack, List.append_assoc]
        rfl
      · intro flags hflags
        rcases List.mem_append.1 hflags with hflags | hflags
        · cases hframes.plain _ hflags
        · simp at hflags
    · exact h₀.handles [.applyWritings pipe] hs (by rintro _ ⟨⟩) rfl (by simp) rfl rfl
        ⟨.applyWritings pipe, List.mem_cons_self, rfl⟩ howed
  · rename_i hconnecting
    exact h₀.run hs (by simpa [UvFrame.handles] using hconnecting) (by rintro _ ⟨⟩)
      (.same rfl rfl rfl rfl rfl rfl) hreplied howed

/-- The reconnection that was asked for is attempted. -/
private theorem applyQuit {pipe : Nat} (h₀ : FlagHeeded s h) (hs : s.stack = .applyQuit pipe :: stack)
    (howed : h'.owed = true → h.owed = true)
    (hattempt : Attempts s .run (MediaFramework.runFrame c { s with stack } o (.applyQuit pipe)) = true →
      h'.owed = false) :
    FlagHeeded (MediaFramework.runFrame c { s with stack } o (.applyQuit pipe)) h' := by
  have hin : ∀ flags, .restoreFlags flags ∈ stack → .restoreFlags flags ∈ s.stack := by
    intro flags hflags
    rw [hs]
    exact List.mem_cons_of_mem _ hflags
  simp only [MediaFramework.runFrame, h₀.live, Bool.false_eq_true, if_false] at hattempt ⊢
  split
  · rename_i hflag
    rw [if_pos hflag] at hattempt
    have howes := hattempt (attempts_reconnectOne c o (by rintro _ _ ⟨⟩) rfl (by rw [hs]; rfl))
    refine reconnectOne c _ o rfl rfl (fun flags hflags => h₀.saved flags (hin flags ?_)) howes
    exact (List.mem_cons.1 hflags).resolve_left (by rintro ⟨⟩)
  · rename_i hflag
    refine ⟨h₀.live, fun flags hflags => h₀.saved flags (hin flags hflags), fun hset => absurd hset hflag,
      fun how => ?_⟩
    obtain ⟨flags, hmem, hset⟩ := (h₀.owed (howed how)).resolve_left hflag
    rw [hs] at hmem
    exact .inr ⟨flags, (List.mem_cons.1 hmem).resolve_left (by rintro ⟨⟩), hset⟩

/-- The flags are set again, as they were when the connection came. -/
private theorem restoreFlags {flags : ProxyFlags} (h₀ : FlagHeeded s h) (hs : s.stack = .restoreFlags flags :: stack)
    (hg : flags.reconnect = true → s.Expects h.replied) (hreplied : h'.replied = h.replied)
    (howed : h'.owed = true → h.owed = true) :
    FlagHeeded (MediaFramework.runFrame c { s with stack } o (.restoreFlags flags)) h' := by
  have hmem : .restoreFlags flags ∈ s.stack := by
    rw [hs]
    exact List.mem_cons_self
  obtain ⟨hoff, hconnecting⟩ := h₀.saved flags hmem
  have hexpects : s.Expects h.replied → { s with stack }.Expects h'.replied := by
    rintro ⟨k, hcpipe, hk, hnone⟩
    exact ⟨k, hcpipe, hk.pop hs, hreplied ▸ hnone⟩
  refine ⟨?_, fun g hin => h₀.saved g ?_, fun hset => ?_, fun how => ?_⟩
  · change (s.flags.disconnect || flags.disconnect) = false
    rw [h₀.live, hoff]
    rfl
  · rw [hs]
    exact List.mem_cons_of_mem _ hin
  · replace hset : (s.flags.reconnect || flags.reconnect) = true := hset
    rcases Bool.or_eq_true_iff.1 hset with hset | hset
    · rcases h₀.pending hset with ⟨g, hin, hhandles⟩ | ⟨hset, hheeds⟩
      · rw [hs] at hin
        refine .inl ⟨g, (List.mem_cons.1 hin).resolve_left ?_, ?_⟩
        · rintro rfl
          cases hhandles
        · cases g with
          | handleParcel => exact Bool.or_eq_true_iff.2 (.inl hhandles)
          | _ => exact hhandles
      · exact .inr ⟨Bool.or_eq_true_iff.2 (.inl hset), hexpects hheeds⟩
    · exact .inr ⟨Bool.or_eq_true_iff.2 (.inr (hconnecting hset)), hexpects (hg hset)⟩
  · rcases h₀.owed (howed how) with hset | ⟨g, hin, hset⟩
    · exact .inl (Bool.or_eq_true_iff.2 (.inl hset))
    · rw [hs] at hin
      rcases List.mem_cons.1 hin with heq | hin
      · cases heq
        exact .inl (Bool.or_eq_true_iff.2 (.inr hset))
      · exact .inr ⟨g, hin, hset⟩

/-- A frame runs. -/
private theorem runFrame (h₀ : FlagHeeded s h) (hs : s.stack = f :: stack)
    (hg : ∀ flags, f = .restoreFlags flags → flags.reconnect = true → s.Expects h.replied)
    (hreplied : h'.replied = h.replied) (howed : h'.owed = true → h.owed = true)
    (hattempt : Attempts s .run (MediaFramework.runFrame c { s with stack } o f) = true → h'.owed = false) :
    FlagHeeded (MediaFramework.runFrame c { s with stack } o f) h' := by
  have hplain : ∀ {t : MediaProxyPriv} {frames : List UvFrame}, f.handles s.flags = false →
      (∀ flags, f ≠ .restoreFlags flags) → Spares s.Awaited { s with stack } t frames → FlagHeeded t h' := by
    intro t frames hf hrestore ht
    exact h₀.run hs hf hrestore ht hreplied howed
  cases f with
  | user callback => exact hplain rfl (by rintro _ ⟨⟩) (.same rfl rfl rfl rfl rfl rfl)
  | writeCb w => exact hplain rfl (by rintro _ ⟨⟩) (.same rfl rfl rfl rfl rfl rfl)
  | deliveryWriting =>
    have hsame : Spares s.Awaited { s with stack } { s with stack } [] := .same rfl rfl rfl rfl rfl rfl
    exact hplain rfl (by rintro _ ⟨⟩) (hsame.push (by simp [UvFrame.isPlain]) (by simp))
  | deliveryLoop w =>
    cases w with
    | none => exact hplain rfl (by rintro _ ⟨⟩) (.same rfl rfl rfl rfl rfl rfl)
    | some w =>
      obtain ⟨frames, hframes⟩ := Writes.deliveryLoop { s with stack } w o
      exact hplain rfl (by rintro _ ⟨⟩) (.of_writes hframes)
  | close pipe =>
    have hpipe : ¬ s.Awaited pipe := fun hk => hk.2.1 (hs ▸ List.mem_cons_self)
    exact hplain rfl (by rintro _ ⟨⟩) (.modifyPipe _ pipe _ fun hk => absurd hk hpipe)
  | readStart =>
    simp only [MediaFramework.runFrame]
    split
    · exact hplain rfl (by rintro _ ⟨⟩) (.same rfl rfl rfl rfl rfl rfl)
    · refine hplain rfl (by rintro _ ⟨⟩) (.modifyPipe _ _ _ fun _ p _ => ?_)
      exact ⟨rfl, rfl, rfl, rfl, rfl, fun hclosing _ => by simp [hclosing], fun _ => id⟩
  | freeProxy => exact hplain rfl (by rintro _ ⟨⟩) (.same rfl rfl rfl rfl rfl rfl)
  | handleParcel w pipe => exact h₀.handleParcel hs hreplied howed
  | applyWritings pipe =>
    simp only [MediaFramework.runFrame]
    split
    · exact h₀.handles [.deliveryWriting, .applyQuit pipe] hs (by rintro _ ⟨⟩) rfl (by simp) rfl rfl
        ⟨.applyQuit pipe, by simp [MediaProxyPriv.push], rfl⟩ howed
    · exact h₀.handles [.applyQuit pipe] hs (by rintro _ ⟨⟩) rfl (by simp) rfl rfl
        ⟨.applyQuit pipe, by simp [MediaProxyPriv.push], rfl⟩ howed
  | applyQuit pipe => exact h₀.applyQuit hs howed hattempt
  | restoreFlags flags => exact h₀.restoreFlags hs (hg flags rfl) hreplied howed

/-- What the record says of a step other than a call of `media_uv_reconnect`. -/
private theorem owed_note (hi : i ≠ .reconnect) (how : (h.note c s (i, o) s').owed = true) :
    h.owed = true ∧ Attempts s i s' = false := by
  have hasks : AsksReconnect c s o i = false := by
    cases i <;> first | rfl | exact absurd rfl hi
  simpa [ReconnectRecord.note, hasks] using how

/-- Nothing is on the stack while libuv waits. -/
private theorem stack_of_ready {pipe : Nat} {g : MediaPipePriv → Bool}
    (hready : (s.stack.isEmpty && s.pipes[pipe]?.any g) = true) :
    s.stack = [] ∧ ∃ p, s.pipes[pipe]? = some p ∧ g p = true := by
  obtain ⟨hstack, hpipe⟩ := Bool.and_eq_true_iff.1 hready
  exact ⟨List.isEmpty_iff.1 hstack, (Option.any_eq_true _ _).1 hpipe⟩

private theorem awaited_lt {k : Nat} (hk : s.Awaited k) : k < s.pipes.length := by
  obtain ⟨-, -, p, hp, -⟩ := hk
  exact (List.getElem?_eq_some_iff.1 hp).1

/-- A pipe that does not await the first reply. -/
private theorem not_awaited {pipe : Nat} {p : MediaPipePriv} (hp : s.pipes[pipe]? = some p) (hp' : ¬ p.Awaits) :
    ¬ s.Awaited pipe := by
  rintro ⟨-, -, p', hsome, hawaits⟩
  cases hp.symm.trans hsome
  exact hp' hawaits

/-- A step that spares the pipe of the attempt, other than a call of `media_uv_reconnect`. -/
private theorem step_spares (h₀ : FlagHeeded s h) (hi : i ≠ .reconnect) (hreplied : noteReply s i h.replied = h.replied)
    (ht : Spares s.Awaited s t frames) : FlagHeeded t (h.note c s (i, o) t) :=
  h₀.spares ht (fun _ _ hk => hk) hreplied fun how => (owed_note hi how).1

private theorem step_reconnect (h₀ : FlagHeeded s h) (hg : ReconnectsHeeded (s, h) (.reconnect, o))
    (hlive : h.disconnected = false) :
    FlagHeeded (uvStep c s o .reconnect) (h.note c s (.reconnect, o) (uvStep c s o .reconnect)) := by
  simp only [uvStep]
  unfold mediaUvReconnect
  split
  · rename_i hepipe
    have hsame : Spares s.Awaited s s [] := .same rfl rfl rfl rfl rfl rfl
    refine h₀.spares hsame (fun _ _ hk => hk) rfl fun how => ?_
    have hasks : AsksReconnect c s o .reconnect = false := by simp [AsksReconnect, mediaUvReconnect, hepipe, EINVAL]
    rw [ReconnectRecord.note, hasks, Bool.or_false] at how
    exact (Bool.and_eq_true_iff.1 how).1
  · rename_i hepipe
    split
    · rename_i hflags
      refine reconnectOne c s o h₀.live (by rw [hflags]; rfl) h₀.saved ?_
      simp [ReconnectRecord.note, attempts_reconnectOne c (s := s) o (i := .reconnect) (by rintro _ _ ⟨⟩) rfl rfl]
    · rename_i hflags
      have hheeds := hg hlive (by simpa using hepipe) hflags
      exact ⟨h₀.live, h₀.saved, fun _ => hheeds, fun _ => .inl rfl⟩

private theorem step_run (h₀ : FlagHeeded s h) (hg : ReconnectsHeeded (s, h) (.run, o))
    (hlive : h.disconnected = false) : FlagHeeded (uvStep c s o .run) (h.note c s (.run, o) (uvStep c s o .run)) := by
  simp only [uvStep]
  split
  · exact h₀.step_spares (by rintro ⟨⟩) rfl (.same rfl rfl rfl rfl rfl rfl)
  · rename_i f stack hs
    split
    · exact h₀.step_spares (by rintro ⟨⟩) rfl (.same rfl rfl rfl rfl rfl rfl)
    · refine h₀.runFrame hs ?_ rfl (fun how => (owed_note (i := .run) (by rintro ⟨⟩) how).1) fun hattempts => ?_
      · rintro flags rfl hset
        have hrestores := hg hlive
        simp only [hs] at hrestores
        exact hrestores hset
      · simp [ReconnectRecord.note, hattempts]

/-- The attempt that fails is not the one that is waited for. -/
private theorem step_connectFails (h₀ : FlagHeeded s h) {pipe : Nat} {status : Int}
    (hg : ReconnectsHeeded (s, h) (.connectCb pipe status, o)) (hlive : h.disconnected = false) (hstatus : status < 0) :
    FlagHeeded (uvStep c s o (.connectCb pipe status))
      (h.note c s (.connectCb pipe status, o) (uvStep c s o (.connectCb pipe status))) := by
  simp only [uvStep, mediaUvConnectOneCb_of_neg s pipe hstatus]
  have hother : ¬ (s.flags.reconnect = true ∧ s.Awaited pipe) := by
    rintro ⟨hset, hk⟩
    have hgood := hg hlive hset hk.1
    omega
  have hfailed : Spares (fun k => s.flags.reconnect = true ∧ s.Awaited k) s
      ((s.modifyPipe pipe fun p => { p with connecting := false }).push [.user (.onConnect status), .close pipe])
      ([.user (.onConnect status), .close pipe] ++ []) := by
    refine Spares.push (.modifyPipe s pipe _ fun hk => absurd hk hother) (by simp [UvFrame.isPlain]) ?_
    intro k hk
    simp only [List.mem_cons, List.not_mem_nil, or_false, reduceCtorEq, false_or, UvFrame.close.injEq] at hk
    exact hk ▸ hother
  exact h₀.spares hfailed (fun hset _ hk => ⟨hset, hk⟩) rfl fun how =>
    (owed_note (i := .connectCb pipe status) (by rintro ⟨⟩) how).1

/-- The flags are saved while the user runs. -/
private theorem step_connects (h₀ : FlagHeeded s h) {pipe : Nat} {status : Int} (hstack : s.stack = [])
    (hstatus : 0 ≤ status) :
    FlagHeeded (uvStep c s o (.connectCb pipe status))
      (h.note c s (.connectCb pipe status, o) (uvStep c s o (.connectCb pipe status))) := by
  have howed : ∀ {t : MediaProxyPriv}, (h.note c s (.connectCb pipe status, o) t).owed = true →
      s.flags.reconnect = true := by
    intro t how
    refine (h₀.owed (owed_note (i := .connectCb pipe status) (by rintro ⟨⟩) how).1).resolve_right ?_
    rintro ⟨flags, hmem, -⟩
    rw [hstack] at hmem
    cases hmem
  have hpending : s.flags.reconnect = true → s.flags.connecting = true ∧ s.Expects h.replied := by
    intro hset
    refine (h₀.pending hset).resolve_left ?_
    rintro ⟨f, hf, -⟩
    rw [hstack] at hf
    cases hf
  obtain ⟨hflags, hframes⟩ := mediaUvConnectOneCb_of_nonneg h₀.live pipe hstatus
  simp only [uvStep]
  refine ⟨by rw [hflags]; rfl, fun flags hmem => ?_, fun hset => ?_, fun how => .inr ⟨s.flags, ?_, howed how⟩⟩
  · have hsaved : flags = s.flags := by simpa [hframes, hstack] using hmem
    rw [hsaved]
    exact ⟨h₀.live, fun hset => (hpending hset).1⟩
  · rw [hflags] at hset
    cases hset
  · rw [hframes]
    simp

private theorem step_parcel (h₀ : FlagHeeded s h) {pipe : Nat} {parcel : Nat} (hstack : s.stack = []) :
    (uvStep c s o (.parcel pipe parcel)).aborted = true ∨
      FlagHeeded (uvStep c s o (.parcel pipe parcel))
        (h.note c s (.parcel pipe parcel, o) (uvStep c s o (.parcel pipe parcel))) := by
  simp only [uvStep, mediaUvHandleParcel]
  split
  · rename_i hepipe
    have hsame : Spares s.Awaited s s [] := .same rfl rfl rfl rfl rfl rfl
    exact .inr (h₀.step_spares (by rintro ⟨⟩) (if_pos hepipe) (hsame.push (by simp [UvFrame.isPlain]) (by simp)))
  · split
    · exact .inl rfl
    · rename_i w _ _
      refine .inr (h₀.keep (fun f hf => ?_) rfl rfl (fun hset => ?_) (fun f hf => List.mem_append_right _ hf)
        fun how => (owed_note (i := .parcel pipe parcel) (by rintro ⟨⟩) how).1)
      · simpa [MediaProxyPriv.push] using hf
      · -- this reply is the first one, or another one is still to come
        rcases h₀.pending hset with ⟨f, hf, -⟩ | ⟨hconnecting, -⟩
        · rw [hstack] at hf
          cases hf
        · exact .inl ⟨.handleParcel w pipe, by simp [MediaProxyPriv.push], hconnecting⟩

private theorem step_readErr (h₀ : FlagHeeded s h) {pipe : Nat} (hg : ReconnectsHeeded (s, h) (.readErr pipe, o))
    (hlive : h.disconnected = false) :
    FlagHeeded (uvStep c s o (.readErr pipe)) (h.note c s (.readErr pipe, o) (uvStep c s o (.readErr pipe))) := by
  have hclose : Spares (fun k => s.flags.reconnect = true ∧ s.Awaited k) s (mediaUvClose s pipe) [] :=
    .modifyPipe s pipe _ fun hk => absurd hk.2.1 (hg hlive hk.1)
  exact h₀.spares hclose (fun hset _ hk => ⟨hset, hk⟩) rfl fun how =>
    (owed_note (i := .readErr pipe) (by rintro ⟨⟩) how).1

/-- A step. -/
theorem step (h₀ : FlagHeeded s h) (hready : i.ready s = true) (hg : ReconnectsHeeded (s, h) (i, o))
    (hlive : h.disconnected = false) :
    (h.note c s (i, o) (uvStep c s o i)).disconnected = true ∨ (uvStep c s o i).aborted = true ∨
      FlagHeeded (uvStep c s o i) (h.note c s (i, o) (uvStep c s o i)) := by
  cases i with
  | send ack =>
    obtain ⟨frames, hframes⟩ := Writes.send s ack o
    exact .inr (.inr (h₀.step_spares (by rintro ⟨⟩) rfl (.of_writes hframes)))
  | listen onListen =>
    obtain ⟨frames, hframes⟩ := Spares.listen s.Awaited c s onListen o fun _ => awaited_lt
    exact .inr (.inr (h₀.step_spares (by rintro ⟨⟩) rfl hframes))
  | reconnect => exact .inr (.inr (h₀.step_reconnect hg hlive))
  | disconnect onRelease => exact .inl (by simp [ReconnectRecord.note])
  | run => exact .inr (.inr (h₀.step_run hg hlive))
  | connectCb pipe status =>
    obtain ⟨hstack, -⟩ := stack_of_ready hready
    rcases Int.lt_or_le status 0 with hstatus | hstatus
    · exact .inr (.inr (h₀.step_connectFails hg hlive hstatus))
    · exact .inr (.inr (h₀.step_connects hstack hstatus))
  | writeCb pipe w status =>
    obtain ⟨frames, hframes⟩ := Writes.completed s pipe w status
    exact .inr (.inr (h₀.step_spares (by rintro ⟨⟩) rfl (.of_writes hframes)))
  | parcel pipe parcel => exact .inr (h₀.step_parcel (stack_of_ready hready).1)
  | readErr pipe => exact .inr (.inr (h₀.step_readErr hg hlive))
  | listenCb pipe status =>
    obtain ⟨-, p, hp, hlistens⟩ := stack_of_ready hready
    have hserver : ¬ s.Awaited pipe :=
      not_awaited hp fun hawaits => by simp [MediaPipePriv.ready, hawaits.listening] at hlistens
    obtain ⟨frames, hframes⟩ := Spares.listenOneCb _ s pipe status o hserver fun _ => awaited_lt
    exact .inr (.inr (h₀.step_spares (by rintro ⟨⟩) rfl hframes))
  | shutdownCb pipe =>
    obtain ⟨-, p, hp, hshuts⟩ := stack_of_ready hready
    have hpipe : ¬ s.Awaited pipe :=
      not_awaited hp fun hawaits => by simp [MediaPipePriv.ready, hawaits.shutting] at hshuts
    have hshut : Spares s.Awaited s (s.modifyPipe pipe fun p => { p with shutting := false }) [] :=
      .modifyPipe s pipe _ fun hk => absurd hk hpipe
    exact .inr (.inr (h₀.step_spares (by rintro ⟨⟩) rfl
      (hshut.trans (.modifyPipe _ pipe _ fun hk => absurd hk hpipe))))
  | closeCb pipe =>
    obtain ⟨-, p, hp, hcloses⟩ := stack_of_ready hready
    have hpipe : ¬ s.Awaited pipe :=
      not_awaited hp fun hawaits => by simp [MediaPipePriv.ready, hawaits.closing] at hcloses
    exact .inr (.inr (h₀.step_spares (by rintro ⟨⟩) rfl (.closeCb s pipe h₀.live hpipe)))

/-- The first connection has been started. -/
theorem start (c : UvConfig) (cpu : String) (cpus : List String) :
    FlagHeeded (mediaUvConnect c cpu cpus {}) { tried := [cpu] } := by
  obtain ⟨hreconnect, hdisconnect, hstack⟩ := mediaUvConnectOne_flags c { cpu := some cpu, cpus } {}
  refine ⟨hdisconnect, fun flags hflags => ?_, fun hset => ?_, nofun⟩
  · rw [mediaUvConnect, hstack] at hflags
    cases hflags
  · cases hreconnect.symm.trans hset

end FlagHeeded

/-! ### Every run -/

/-- What holds in every state of a run: the names come in their order, and the flag is of use as long as the client has
not disconnected and the proxy goes on. -/
structure UvReconnects (cpu : String) (cpus : List String) (s : MediaProxyPriv) (h : ReconnectRecord) : Prop where
  inOrder : h.tried ++ s.cpus = cpu :: cpus
  heeded : h.disconnected = true ∨ s.aborted = true ∨ s.fault ≠ none ∨ FlagHeeded s h

theorem UvReconnects.noneForgotten {cpu : String} {cpus : List String} (h₀ : UvReconnects cpu cpus s h) :
    NoneForgotten cpu cpus s h := by
  have hheeded : h.disconnected = false → s.Quiescent h.replied → FlagHeeded s h := by
    intro hlive hquiescent
    rcases h₀.heeded with hdisconnected | haborted | hfault | hheeded
    · cases hlive.symm.trans hdisconnected
    · cases hquiescent.aborted.symm.trans haborted
    · exact absurd hquiescent.fault hfault
    · exact hheeded
  have happlied : h.disconnected = false → s.Quiescent h.replied → s.flags.reconnect = false := by
    intro hlive hquiescent
    rw [← Bool.not_eq_true]
    intro hset
    rcases (hheeded hlive hquiescent).pending hset with hhandling | ⟨-, hexpects⟩
    · exact hhandling.not_quiescent hquiescent
    · exact hexpects.not_quiescent hquiescent
  refine ⟨fun hlive hquiescent => ?_, happlied, h₀.inOrder⟩
  rw [← Bool.not_eq_true]
  intro how
  rcases (hheeded hlive hquiescent).owed how with hset | ⟨flags, hmem, -⟩
  · cases (happlied hlive hquiescent).symm.trans hset
  · rw [hquiescent.stack] at hmem
    cases hmem

theorem UvReconnects.next {cpu : String} {cpus : List String} (h₀ : UvReconnects cpu cpus s h)
    (hg : ReconnectsHeeded (s, h) (i, o)) (hn : uvNext c s (i, o) = some s') :
    UvReconnects cpu cpus s' (h.note c s (i, o) s') := by
  have hgoes : s.fault = none ∧ s.aborted = false := by
    unfold uvNext at hn
    split at hn
    · rename_i hready
      simp only [Bool.and_eq_true, Option.isNone_iff_eq_none, Bool.not_eq_true'] at hready
      exact hready.1
    · cases hn
  obtain ⟨hready, ⟨fault, rfl⟩ | ⟨rfl, -⟩⟩ := uvNext_cases hn
  · exact ⟨tried_step h₀.inOrder s.writings True .same (i, o), .inr (.inr (.inl nofun))⟩
  · refine ⟨tried_step h₀.inOrder _ _ (uvStep_control c s o i) (i, o), ?_⟩
    rcases h₀.heeded with hdisconnected | haborted | hfault | hheeded
    · exact .inl (by simp [ReconnectRecord.note, hdisconnected])
    · cases hgoes.2.symm.trans haborted
    · exact absurd hgoes.1 hfault
    · cases hlive : h.disconnected with
      | true => exact .inl (by simp [ReconnectRecord.note, hlive])
      | false =>
        rcases hheeded.step hready hg hlive with hdisconnected | haborted | hstep
        · exact .inl hdisconnected
        · exact .inr (.inl haborted)
        · exact .inr (.inr (.inr hstep))

/-- In every run in which `MEDIA_PROXYFLAG_RECONNECT` is set only where it is of use, and no connection fails or ends
while it is set, no reconnection is forgotten. -/
theorem uvRun_noneForgotten {cpu : String} {cpus : List String} {p : MediaProxyPriv × ReconnectRecord}
    (h : (uvReconnectMachine c cpu cpus).ReachableVia ReconnectsHeeded p) : NoneForgotten cpu cpus p.1 p.2 := by
  have hsound : UvReconnects cpu cpus p.1 p.2 := by
    refine Machine.ReachableVia.recorded (P := UvReconnects cpu cpus) ?_ ?_ h
    · have hcpus := congrArg UvControl.cpus (mediaUvConnectOne_control c { cpu := some cpu, cpus } {})
      exact ⟨congrArg (cpu :: ·) hcpus, .inr (.inr (.inr (FlagHeeded.start c cpu cpus)))⟩
    · rintro s h ⟨i, o⟩ s' hs hg hn
      exact hs.next hg hn
  exact hsound.noneForgotten

/-! ### A run that meets the condition, and one that does not -/

instance (s : MediaProxyPriv) (replied : List Nat) : Decidable (s.HeedsReconnect replied) :=
  inferInstanceAs (Decidable (_ ∨ _))

/-- The condition on the continuation that runs next. -/
instance (s : MediaProxyPriv) (replied : List Nat) : (stack : List UvFrame) → Decidable
    (match stack with
      | .restoreFlags flags :: _ => flags.reconnect = true → s.Expects replied
      | _ => True)
  | .restoreFlags _ :: _ => inferInstanceAs (Decidable (_ → _))
  | [] | .user _ :: _ | .writeCb _ :: _ | .handleParcel _ _ :: _ | .applyWritings _ :: _ | .applyQuit _ :: _
  | .deliveryWriting :: _ | .deliveryLoop _ :: _ | .close _ :: _ | .readStart :: _ | .freeProxy :: _ =>
    inferInstanceAs (Decidable True)

instance (p : MediaProxyPriv × ReconnectRecord) : (i : UvInput × Outcome) → Decidable (ReconnectsHeeded p i)
  | (.reconnect, _) => inferInstanceAs (Decidable (_ → _ → _ → _))
  | (.run, _) => inferInstanceAs (Decidable (_ → _))
  | (.connectCb _ _, _) | (.readErr _, _) => inferInstanceAs (Decidable (_ → _ → _))
  | (.send _, _) | (.listen _, _) | (.disconnect _, _) | (.writeCb _ _ _, _) | (.parcel _ _, _) | (.listenCb _ _, _)
  | (.shutdownCb _, _) | (.closeCb _, _) => inferInstanceAs (Decidable (_ → True))

/-- The state and the record after the inputs, if every step meets the condition. -/
def sampleUvReconnects (g : MediaProxyPriv × ReconnectRecord → UvInput × Outcome → Prop) [∀ p i, Decidable (g p i)]
    (cpus : List String) (inputs : List UvInput) : Option (MediaProxyPriv × ReconnectRecord) :=
  (uvReconnectMachine sampleUvConfig "ap" cpus).runFrom g (uvReconnectMachine sampleUvConfig "ap" cpus).start
    (inputs.map fun i => (i, {}))

/-- The first server turns the client away in its reply, and the second one takes it. -/
def sampleUvTurnedAway : MediaProxyPriv × ReconnectRecord :=
  (sampleUvReconnects ReconnectsHeeded ["ap"]
    ([UvInput.connectCb 0 0, .send true] ++ sampleUvSteps 2 ++ [UvInput.parcel 0 7, .reconnect] ++ sampleUvSteps 5 ++
      [UvInput.writeCb 0 ⟨0, MEDIA_PARCEL_SEND_ACK, true, false⟩ 0, .closeCb 0, .connectCb 1 0, .send true] ++
      sampleUvSteps 2 ++ [UvInput.writeCb 1 ⟨1, MEDIA_PARCEL_SEND_ACK, true, false⟩ 0, .parcel 1 8] ++
      sampleUvSteps 6)).get (by decide)

theorem uvRun_noneForgotten_sample : NoneForgotten "ap" ["ap"] sampleUvTurnedAway.1 sampleUvTurnedAway.2 := by
  have h : (uvReconnectMachine sampleUvConfig "ap" ["ap"]).ReachableVia ReconnectsHeeded sampleUvTurnedAway :=
    Machine.reachableVia_get (by decide)
  exact uvRun_noneForgotten h

/-- The first server refuses the connection, and the client asks for the next one in `on_connect`. -/
def sampleUvRefused : MediaProxyPriv × ReconnectRecord :=
  (sampleUvReconnects (fun _ _ => True) ["ap"]
    ([UvInput.connectCb 0 (-111), .reconnect] ++ sampleUvSteps 2 ++ [UvInput.closeCb 0])).get (by decide)

/-- Without the condition a reconnection can be forgotten. -/
theorem uvRun_not_noneForgotten : ¬ ∀ (c : UvConfig) (cpu : String) (cpus : List String)
    (p : MediaProxyPriv × ReconnectRecord),
      (uvReconnectMachine c cpu cpus).Reachable p → NoneForgotten cpu cpus p.1 p.2 := by
  intro h
  have hkept := h sampleUvConfig "ap" ["ap"] sampleUvRefused (Machine.reachableVia_get (by decide))
  have hquiescent : sampleUvRefused.1.Quiescent sampleUvRefused.2.replied :=
    MediaProxyPriv.quiescent_of_idle (by decide) (by decide) (by decide) (by decide)
  have howed := hkept.attempted (by decide) hquiescent
  revert howed
  decide

end MediaFramework
