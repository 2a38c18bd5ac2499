import MediaFramework.Client.MediaUvFocus
import MediaFramework.Client.UvCalls

/-!
# Focus contexts live as long as they are used

A context is freed in the release of its proxy, which `media_uv_focus_abandon_cb` asks for.  The proxy calls one
callback at a time, so nothing is called on a context that was freed.  But whether the context is returned hangs on the
user's cookie, and a request that cannot be written is cancelled although it is refused.
-/

namespace MediaFramework

variable {c : UvConfig} {a : FocusArgs} {s t : MediaFocusPriv} {o : Outcome} {i : UvInput} {callback : UvCallback}
  {action : FocusAction} {result : Int}

/-! ### What is said about a run -/

/-- A context that was returned is freed once, at the latest when everything is at rest after a successful
`media_uv_focus_abandon`, and not before one; `on_abandon` is called once at most, and no callback reads a context that
was freed. -/
structure FocusLives (s : MediaFocusPriv) : Prop where
  freed : s.handle = true → s.abandoned = true → s.proxy.AtRest s.record.replied → s.frees = 1
  onlyAfter : s.handle = true → 0 < s.frees → s.abandoned = true
  atMost : s.frees ≤ 1
  told : s.told ≤ 1
  untouched : s.touched = false

/-- The cookie is NULL exactly where `media_uv_connect` fails. -/
def FocusArgs.CookieTells (c : UvConfig) (a : FocusArgs) : Prop :=
  a.allocates = true → (a.cookie = true ↔ a.connects c = true)

/-- An "abandon" waits for its answer. -/
def MediaFocusPriv.AbandonQueued (s : MediaFocusPriv) : Prop := ∃ w ∈ s.proxy.writings.sentq, w.id ∈ s.abandons

/-- What a step does to the proxy. -/
def MediaFocusPriv.calls (s : MediaFocusPriv) : UvFocusInput → Option UvInput
  | .call result => (s.begins result).bind FocusAction.call
  | .abandon _ => some (.send true)
  | .uv i => some i

/-- The message of an "abandon" can be made. -/
def MediaFocusPriv.Sends (s : MediaFocusPriv) (o : Outcome) : Prop :=
  s.proxy.cpu ≠ none ∧ s.proxy.flags.disconnect = false ∧ o.writing = true

/-- An "abandon" is sent while no flag is set and the command pipe is open, and `uv_write` takes it; the pipe is not
closed before the answer; and the proxy is disconnected where that ends it. -/
def FocusKept (s : MediaFocusPriv) (i : UvFocusInput × Outcome) : Prop :=
  (∀ j ∈ s.calls i.1, EndsAfterDisconnect (s.proxy, s.record) (j, i.2) ∧
      (s.record.disconnected = false → s.AbandonQueued → ¬ EndsCommand s.proxy j)) ∧
    match i.1 with
    | .abandon _ => s.Sends i.2 →
        s.proxy.flags = 0 ∧ 0 ≤ i.2.write ∧ s.proxy.CommandOpen s.record.replied
    | _ => True

/-! ### The books -/

/-- What every step keeps, apart from what an "abandon" comes to. -/
structure FocusBooks (s : MediaFocusPriv) : Prop where
  uv : UvReleases s.proxy s.record
  begun : s.begun ≤ s.proxy.stack.countP UvFrame.isUser
  once : s.proxy.stack.countP UvFrame.isUser ≤ s.begun + 1
  top : s.waiting = true → ∃ callback rest, s.proxy.stack = .user callback :: rest
  frees : s.frees + s.proxy.stack.countP UvFrame.isRelease = s.record.releases
  releases : 0 < s.record.releases → s.record.disconnected = true
  asked : s.record.disconnected = true → s.abandoned = true ∧ (s.proxy.fault = none → s.proxy.onRelease = true)
  noted : s.abandons ≠ [] → s.abandoned = true
  told : s.told ≤ s.record.releases
  untold : s.waiting = true → ∀ rest, s.proxy.stack = .user .onRelease :: rest → s.told = 0
  quiet : 0 < s.frees → s.waiting = false
  untouched : s.touched = false

@[simp] theorem MediaFocusPriv.waiting_iff (s : MediaFocusPriv) :
    s.waiting = true ↔ s.begun < s.proxy.stack.countP UvFrame.isUser := by
  simp [MediaFocusPriv.waiting]

/-- A step that is possible does not start from a proxy that went wrong. -/
theorem uvNext_sound {s s' : MediaProxyPriv} (hn : uvNext c s (i, o) = some s') :
    s.fault = none ∧ s.aborted = false := by
  unfold uvNext at hn
  split at hn
  · rename_i hgoes
    simp only [Bool.and_eq_true, Option.isNone_iff_eq_none, Bool.not_eq_true'] at hgoes
    exact hgoes.1
  · cases hn

/-- The assertion fails in a step that calls nobody. -/
theorem uvStep_aborted {s : MediaProxyPriv} (h : (uvStep c s o i).aborted = true) :
    s.aborted = true ∨ (uvStep c s o i).stack = s.stack := by
  have hcontrol := uvStep_control c s o i
  have haborted : (uvStep c s o i).control.aborted = true := h
  generalize (uvStep c s o i).control = control at hcontrol haborted
  cases hcontrol with
  | same | next | exhaust | disconnect | release => exact .inl haborted
  | abort hfails =>
    refine .inr ?_
    cases i with
    | parcel pipe parcel =>
      obtain ⟨hevent, hsentq⟩ := hfails
      simp only [uvStep, mediaUvHandleParcel, if_neg hevent, hsentq]
    | _ => cases hfails

/-- A proxy that is freed, or about to be, calls nobody. -/
theorem Called.silent {s s' : MediaProxyPriv} {callback : Option UvCallback} (h : Called s i s' callback)
    (hfreed : s.freed = true ∨ ∃ stack, s.stack = .freeProxy :: stack) (hn : uvNext c s (i, o) = some s')
    (htop : i = .run → ∀ callback rest, s.stack ≠ .user callback :: rest) : callback = none := by
  have hkept : s'.stack.countP UvFrame.isUser = s.stack.countP UvFrame.isUser → callback = none := by
    intro heq
    have husers := h.users
    cases callback with
    | none => rfl
    | some callback =>
      simp only [Option.isSome_some, Bool.toNat_true] at husers
      omega
  obtain ⟨hready, ⟨fault, rfl⟩ | ⟨rfl, hfault⟩⟩ := uvNext_cases hn
  · exact hkept rfl
  · cases i with
    | run =>
      cases hstack : s.stack with
      | nil => simp [UvInput.ready, hstack] at hready
      | cons f stack =>
        have hpop : (uvStep c s o .run).stack = stack := by
          simp only [uvStep, hstack] at hfault ⊢
          split at hfault
          · cases hfault
          · rename_i htouch
            rw [if_neg htouch]
            rcases hfreed with hfreed | ⟨stack', hstack'⟩
            · cases f <;> first | rfl | exact absurd (by rw [hfreed]; rfl) htouch
            · obtain rfl := (List.cons.inj (hstack.symm.trans hstack')).1
              rfl
        refine hkept ?_
        rw [hpop, hstack]
        cases f with
        | user callback => exact absurd hstack (htop rfl callback stack)
        | _ => rfl
    | send | listen | reconnect | disconnect =>
      simp only [UvInput.ready, MediaProxyPriv.userRuns, Bool.and_eq_true, Bool.not_eq_true'] at hready
      rcases hfreed with hfreed | ⟨stack, hstack⟩
      · cases hready.2.symm.trans hfreed
      · rw [hstack] at hready
        cases hready.1
    | connectCb | writeCb | parcel | readErr | listenCb | shutdownCb | closeCb =>
      simp only [UvInput.ready, Bool.and_eq_true, List.isEmpty_iff] at hready
      rcases hfreed with hfreed | ⟨stack, hstack⟩
      · unfold uvNext at hn
        split at hn
        · rw [if_pos (by exact hfreed)] at hn
          refine hkept ?_
          rw [← Option.some.inj hn]
          rfl
        · cases hn
      · cases hready.1.symm.trans hstack

/-- A released context has a proxy that is freed, or about to be. -/
theorem FocusBooks.freeing (h : FocusBooks s) (hfrees : 0 < s.frees) (hfault : s.proxy.fault = none)
    (haborted : s.proxy.aborted = false) : s.proxy.freed = true ∨ ∃ stack, s.proxy.stack = .freeProxy :: stack := by
  have hbooks := h.frees
  have hmost := h.uv.atMost
  rcases h.uv.phase with hset | hset | ⟨-, hnone, -⟩ | ⟨-, hnone, -⟩ | ⟨-, hreleasing⟩
  · exact absurd hfault hset
  · cases haborted.symm.trans hset
  · omega
  · omega
  · rcases hreleasing.freeing with hfreed | ⟨stack, hstack | hstack⟩
    · exact .inl hfreed
    · exact .inr ⟨stack, hstack⟩
    · have hcount : 0 < s.proxy.stack.countP UvFrame.isRelease := by
        rw [hstack]
        exact List.countP_pos_iff.2 ⟨_, List.mem_cons_self, by simp [UvFrame.isRelease]⟩
      omega

/-- `on_release` is only called when the proxy was disconnected. -/
private theorem disconnected_of_calls {s s' : MediaProxyPriv} {r : ReleaseRecord}
    (huv : UvReleases s' (r.note s (i, o) s')) (hn : uvNext c s (i, o) = some s') (hcalls : CallsRelease s s' = true) :
    (r.note s (i, o) s').disconnected = true := by
  have hmoved : s'.stack ≠ s.stack := by
    intro hsame
    rw [callsRelease_of_stack hsame] at hcalls
    cases hcalls
  have hpos : 0 < (r.note s (i, o) s').releases := by
    show 0 < r.releases + (CallsRelease s s').toNat
    rw [hcalls]
    exact Nat.succ_pos _
  rcases huv.phase with hset | hset | ⟨-, hnone, -⟩ | ⟨hset, -⟩ | ⟨hset, -⟩
  · obtain ⟨-, ⟨fault, rfl⟩ | ⟨rfl, hstep⟩⟩ := uvNext_cases hn
    · exact absurd rfl hmoved
    · exact absurd hstep hset
  · obtain ⟨-, ⟨fault, rfl⟩ | ⟨rfl, hstep⟩⟩ := uvNext_cases hn
    · exact absurd rfl hmoved
    · rcases uvStep_aborted hset with hset | hsame
      · cases (uvNext_sound hn).2.symm.trans hset
      · exact absurd hsame hmoved
  · omega
  · exact hset
  · exact hset

/-- When the proxy has been disconnected, the focus was abandoned before, and `on_release` is set. -/
private theorem FocusBooks.asked_next {proxy : MediaProxyPriv} {callback : Option UvCallback} (h : FocusBooks s)
    (hcalled : Called s.proxy i proxy callback) (hfault : s.proxy.fault = none)
    (hi : ∀ onRelease, i = .disconnect onRelease → onRelease = true ∧ s.abandoned = true)
    (hset : (s.record.disconnected || AcceptsDisconnect s.proxy o i) = true) :
    s.abandoned = true ∧ (proxy.fault = none → proxy.onRelease = true) := by
  by_cases hcall : ∃ onRelease, i = .disconnect onRelease
  · obtain ⟨onRelease, rfl⟩ := hcall
    obtain ⟨rfl, habandoned⟩ := hi onRelease rfl
    refine ⟨habandoned, fun hnone => ?_⟩
    rw [hcalled.onRelease hnone, baseRelease]
    split
    · rename_i hflag
      by_cases hold : s.record.disconnected = true
      · exact (h.asked hold).2 hfault
      · have haccepts : AcceptsDisconnect s.proxy o (.disconnect true) = true := by simpa [hold] using hset
        simp [AcceptsDisconnect, mediaUvDisconnect, hflag, EINVAL] at haccepts
    · rfl
  · have haccepts : AcceptsDisconnect s.proxy o i = false := by
      cases i <;> first | rfl | exact absurd ⟨_, rfl⟩ hcall
    rw [haccepts, Bool.or_false] at hset
    have hbase : baseRelease s.proxy i = s.proxy.onRelease := by
      cases i <;> first | rfl | exact absurd ⟨_, rfl⟩ hcall
    refine ⟨(h.asked hset).1, fun hnone => ?_⟩
    rw [hcalled.onRelease hnone, hbase]
    exact (h.asked hset).2 hfault

/-- The proxy or libuv goes on while no callback waits. -/
theorem FocusBooks.proxyNext (h : FocusBooks s) (hw : s.waiting = false)
    (htop : i = .run → ∀ callback rest, s.proxy.stack ≠ .user callback :: rest)
    (hg : EndsAfterDisconnect (s.proxy, s.record) (i, o))
    (hi : ∀ onRelease, i = .disconnect onRelease → onRelease = true ∧ s.abandoned = true)
    (hn : s.proxyNext c (i, o) = some t) : FocusBooks t ∧ ∃ callback, Called s.proxy i t.proxy callback := by
  obtain ⟨proxy, hproxy, rfl⟩ := Option.map_eq_some_iff.1 hn
  obtain ⟨callback, hcalled⟩ := uvNext_called hproxy htop
  obtain ⟨hfault, haborted⟩ := uvNext_sound hproxy
  refine ⟨?_, callback, hcalled⟩
  have huv := h.uv.next hg hproxy
  have hmost : s.record.releases + (CallsRelease s.proxy proxy).toNat ≤ 1 := huv.atMost
  have husers := hcalled.users
  have hbegun := h.begun
  have hidle : ¬ s.begun < s.proxy.stack.countP UvFrame.isUser := by
    rw [← MediaFocusPriv.waiting_iff, hw]
    exact Bool.false_ne_true
  have hsome : s.begun < proxy.stack.countP UvFrame.isUser → ∃ cb, callback = some cb := by
    intro hlt
    cases callback with
    | none =>
      simp only [Option.isSome_none, Bool.toNat_false] at husers
      omega
    | some cb => exact ⟨cb, rfl⟩
  have hlong : callback.isSome.toNat ≤ 1 := Bool.toNat_le _
  refine ⟨huv, ?_, ?_, ?_, ?_, ?_, h.asked_next hcalled hfault hi, h.noted, ?_, ?_, ?_, h.untouched⟩
  · show s.begun ≤ proxy.stack.countP UvFrame.isUser
    omega
  · show proxy.stack.countP UvFrame.isUser ≤ s.begun + 1
    omega
  · intro hwaits
    obtain ⟨cb, hcb⟩ := hsome (by simpa using hwaits)
    obtain ⟨rest, hrest⟩ := hcalled.top cb hcb
    exact ⟨cb, rest, hrest⟩
  · show s.frees + proxy.stack.countP UvFrame.isRelease = s.record.releases + (CallsRelease s.proxy proxy).toNat
    rw [hcalled.releases, hcalled.calls, ← h.frees]
    omega
  · intro hpos
    have hpos : 0 < s.record.releases + (CallsRelease s.proxy proxy).toNat := hpos
    by_cases hold : 0 < s.record.releases
    · show (s.record.disconnected || _) = true
      rw [h.releases hold, Bool.true_or]
    · -- the release is called in this step
      refine disconnected_of_calls huv hproxy ?_
      cases hcalls : CallsRelease s.proxy proxy with
      | true => rfl
      | false =>
        simp only [hcalls, Bool.toNat_false] at hpos
        omega
  · show s.told ≤ s.record.releases + (CallsRelease s.proxy proxy).toNat
    have := h.told
    omega
  · intro hwaits rest hrest
    obtain ⟨cb, hcb⟩ := hsome (by simpa using hwaits)
    obtain ⟨rest', hrest'⟩ := hcalled.top cb hcb
    obtain rfl : cb = .onRelease := by
      have := hrest'.symm.trans hrest
      simpa using (List.cons.inj this).1
    have hcalls : CallsRelease s.proxy proxy = true := by
      rw [hcalled.calls, hcb]
      rfl
    rw [hcalls] at hmost
    have := h.told
    simp only [Bool.toNat_true] at hmost
    show s.told = 0
    omega
  · intro hfrees
    have hnone := hcalled.silent (h.freeing hfrees hfault haborted) hproxy htop
    rw [← Bool.not_eq_true]
    intro hwaits
    obtain ⟨cb, hcb⟩ := hsome (by simpa using hwaits)
    cases hnone.symm.trans hcb

theorem MediaFocusPriv.waiting_begin (h : FocusBooks s) (action : FocusAction) : (s.begin action).waiting = false := by
  rw [← Bool.not_eq_true, MediaFocusPriv.waiting_iff]
  have := h.once
  show ¬ s.begun + 1 < s.proxy.stack.countP UvFrame.isUser
  omega

/-- The callback at the top of the stack begins. -/
theorem FocusBooks.begin {rest : List UvFrame} (h : FocusBooks s) (hw : s.waiting = true)
    (hstack : s.proxy.stack = .user callback :: rest) (hrelease : action = .release → callback = .onRelease) :
    FocusBooks (s.begin action) := by
  have hbegins := MediaFocusPriv.waiting_begin h action
  have hfrees : ¬ 0 < s.frees := by
    intro hfrees
    cases hw.symm.trans (h.quiet hfrees)
  have hlt := s.waiting_iff.1 hw
  refine ⟨h.uv, hlt, ?_, fun hwaits => ?_, h.frees, h.releases, h.asked, h.noted, ?_, fun hwaits => ?_,
    fun hpos => ?_, ?_⟩
  · have := h.once
    show s.proxy.stack.countP UvFrame.isUser ≤ s.begun + 1 + 1
    omega
  · cases hbegins.symm.trans hwaits
  · show (if action = .release ∧ s.onAbandon = true then s.told + 1 else s.told) ≤ s.record.releases
    have htold := h.told
    split
    · rename_i hcond
      obtain rfl := hrelease hcond.1
      have hcount : 0 < s.proxy.stack.countP UvFrame.isRelease := by
        rw [hstack]
        exact List.countP_pos_iff.2 ⟨_, List.mem_cons_self, by simp [UvFrame.isRelease]⟩
      have := h.frees
      have := h.untold hw rest hstack
      omega
    · exact htold
  · cases hbegins.symm.trans hwaits
  · exact absurd hpos hfrees
  · show (s.touched || decide (0 < s.frees)) = false
    rw [h.untouched]
    simpa using hfrees

/-- The callback at the top of the stack returns. -/
theorem FocusBooks.returns {rest : List UvFrame} (h : FocusBooks s) (hw : s.waiting = false)
    (hstack : s.proxy.stack = .user callback :: rest) (hn : s.returns c callback o = some t) :
    FocusBooks t ∧ t.proxy = { s.proxy with stack := rest } ∧ t.record = s.record ∧ t.abandons = s.abandons ∧
      t.abandoned = s.abandoned := by
  obtain ⟨u, hu, rfl⟩ := Option.map_eq_some_iff.1 hn
  obtain ⟨proxy, hproxy, rfl⟩ := Option.map_eq_some_iff.1 hu
  have huv := h.uv.next (o := o) (i := .run) trivial hproxy
  obtain rfl := uvNext_returns hstack hproxy
  -- A stack that gets shorter has no new call of `on_release`.
  have hcalls : CallsRelease s.proxy { s.proxy with stack := rest } = false := by
    rw [← Bool.not_eq_true]
    intro hset
    simp only [CallsRelease, hstack, List.length_cons, Bool.and_eq_true, decide_eq_true_eq] at hset
    omega
  have hrecord : s.record.note s.proxy (.run, o) { s.proxy with stack := rest } = s.record := by
    unfold ReleaseRecord.note
    rw [hcalls]
    show ReleaseRecord.mk s.record.replied (s.record.disconnected || false) s.record.releases = s.record
    rw [Bool.or_false]
  rw [hrecord] at huv
  rw [hrecord]
  have hbegun := h.begun
  have hidle : ¬ s.begun < s.proxy.stack.countP UvFrame.isUser := by
    rw [← MediaFocusPriv.waiting_iff, hw]
    exact Bool.false_ne_true
  have husers : s.proxy.stack.countP UvFrame.isUser = rest.countP UvFrame.isUser + 1 := by
    rw [hstack, List.countP_cons]
    rfl
  have hreleases : s.proxy.stack.countP UvFrame.isRelease =
      rest.countP UvFrame.isRelease + if callback = .onRelease then 1 else 0 := by
    rw [hstack, List.countP_cons]
    by_cases hcb : callback = .onRelease <;> simp [UvFrame.isRelease, hcb]
  have hwaits : ∀ u : MediaFocusPriv, u.proxy.stack = rest → u.begun = s.begun - 1 → u.waiting = false := by
    intro u hu hu'
    rw [← Bool.not_eq_true, MediaFocusPriv.waiting_iff, hu, hu']
    omega
  refine ⟨⟨huv, ?_, ?_, fun hwait => ?_, ?_, h.releases, h.asked, h.noted, h.told, fun hwait => ?_, fun _ => ?_,
    h.untouched⟩, rfl, rfl, rfl, rfl⟩
  · show s.begun - 1 ≤ rest.countP UvFrame.isUser
    omega
  · show rest.countP UvFrame.isUser ≤ s.begun - 1 + 1
    omega
  · cases (hwaits _ rfl rfl).symm.trans hwait
  · have hfrees := h.frees
    show (if callback = .onRelease then s.frees + 1 else s.frees) + rest.countP UvFrame.isRelease = s.record.releases
    split
    · rename_i hcb
      rw [if_pos hcb] at hreleases
      omega
    · rename_i hcb
      rw [if_neg hcb] at hreleases
      omega
  · cases (hwaits _ rfl rfl).symm.trans hwait
  · exact hwaits _ rfl rfl

/-! ### What an "abandon" comes to -/

/-- The proxy is disconnected, or an "abandon" waits for its answer on the open command pipe. -/
def MediaFocusPriv.Pends (s : MediaFocusPriv) : Prop :=
  s.record.disconnected = true ∨ s.proxy.CommandOpen s.record.replied ∧ s.AbandonQueued

/-- The answer of an "abandon" was called and has not begun. -/
def MediaFocusPriv.Answers (s : MediaFocusPriv) : Prop :=
  s.waiting = true ∧ ∃ w parcel rest, s.proxy.stack = .user (.onReceive w parcel) :: rest ∧ w.id ∈ s.abandons

/-- An "abandon" that has succeeded comes to something. -/
def MediaFocusPriv.Settles (s : MediaFocusPriv) : Prop :=
  s.proxy.fault = none → s.proxy.aborted = false → s.abandoned = true → s.Pends ∨ s.Answers

/-- The proxy of a focus that did not disconnect it is connected. -/
theorem FocusBooks.connected (h : FocusBooks s) (hfault : s.proxy.fault = none) (haborted : s.proxy.aborted = false)
    (hrecord : ¬ s.record.disconnected = true) : s.proxy.flags.disconnect = false := by
  rcases h.uv.phase with hset | hset | ⟨-, -, hoff⟩ | ⟨hset, -⟩ | ⟨hset, -⟩
  · exact absurd hfault hset
  · cases haborted.symm.trans hset
  · exact hoff.flag
  · exact absurd hset hrecord
  · exact absurd hset hrecord

/-- An "abandon" goes on waiting until it is answered, or the proxy is disconnected. -/
theorem MediaFocusPriv.Pends.proxyNext (hpends : s.Pends) (h : FocusBooks s) (hw : s.waiting = false)
    (hopen : s.record.disconnected = false → s.AbandonQueued → ¬ EndsCommand s.proxy i) (hfault : t.proxy.fault = none)
    (haborted : t.proxy.aborted = false) {callback : Option UvCallback} (hcalled : Called s.proxy i t.proxy callback)
    (hn : s.proxyNext c (i, o) = some t) : t.Pends ∨ t.Answers := by
  obtain ⟨proxy, hproxy, rfl⟩ := Option.map_eq_some_iff.1 hn
  by_cases hdisconnected : s.record.disconnected = true
  · refine .inl (.inl ?_)
    show (s.record.disconnected || _) = true
    rw [hdisconnected, Bool.true_or]
  have hconnected : s.record.disconnected = false := by simpa using hdisconnected
  obtain ⟨hcommand, w, hw', habandon⟩ := hpends.resolve_left hdisconnected
  obtain ⟨hsound, -, -, hstep⟩ := uvNext_step hproxy hfault
  have hlive := h.connected hsound.1 hsound.2 hdisconnected
  by_cases hi : ∃ onRelease, i = .disconnect onRelease
  · obtain ⟨onRelease, rfl⟩ := hi
    refine .inl (.inl ?_)
    show (s.record.disconnected || AcceptsDisconnect s.proxy o (.disconnect onRelease)) = true
    simp [AcceptsDisconnect, mediaUvDisconnect, hlive]
  have hi' : ∀ onRelease, i ≠ .disconnect onRelease := fun onRelease heq => hi ⟨onRelease, heq⟩
  have hends := hopen hconnected ⟨w, hw', habandon⟩
  dsimp only at hfault haborted hcalled
  subst hstep
  -- The message stays in `sentq`, or this step calls its callback.
  rcases sentq_step hw' hends hi' hlive hfault with hkept | ⟨parcel, hanswers⟩
  · exact .inl (.inr ⟨hcommand.step hends hi' hlive hfault haborted, w, hkept, habandon⟩)
  · have hlist := List.append_cancel_left (hcalled.answers.symm.trans hanswers)
    obtain ⟨cb, hcb, hanswer⟩ : ∃ cb, callback = some cb ∧ UvFrame.answer? (.user cb) = some (w, parcel) := by
      cases callback with
      | none => cases hlist
      | some cb =>
        refine ⟨cb, rfl, ?_⟩
        cases hcb : UvFrame.answer? (.user cb) with
        | none =>
          rw [Option.bind_some, hcb] at hlist
          cases hlist
        | some answer =>
          rw [Option.bind_some, hcb] at hlist
          rw [(List.cons.inj hlist).1]
    obtain rfl : cb = .onReceive w parcel := by
      cases cb with
      | onReceive w' parcel' =>
        simp only [UvFrame.answer?, Option.some.injEq, Prod.mk.injEq] at hanswer
        rw [hanswer.1, hanswer.2]
      | _ => cases hanswer
    obtain ⟨rest, hrest⟩ := hcalled.top _ hcb
    refine .inr ⟨?_, w, parcel, rest, hrest, habandon⟩
    rw [MediaFocusPriv.waiting_iff]
    have husers := hcalled.users
    have hbegun := h.begun
    rw [hcb] at husers
    have hidle : ¬ s.begun < s.proxy.stack.countP UvFrame.isUser := by
      rw [← MediaFocusPriv.waiting_iff, hw]
      exact Bool.false_ne_true
    have honce := h.once
    simp only [Option.isSome_some, Bool.toNat_true] at husers
    show s.begun < (uvStep c s.proxy o i).stack.countP UvFrame.isUser
    omega

/-! ### The steps -/

/-- What every step that meets the condition keeps. -/
structure FocusSound (s : MediaFocusPriv) : Prop where
  books : FocusBooks s
  settles : s.Settles

/-- A callback that begins is at the top of the stack. -/
theorem MediaFocusPriv.begins_eq (h : s.begins result = some action) :
    ∃ callback rest, s.proxy.stack = .user callback :: rest ∧ s.waiting = true ∧ s.proxy.fault = none ∧
      s.proxy.aborted = false ∧ action = s.action result callback := by
  unfold MediaFocusPriv.begins at h
  split at h
  · rename_i callback rest hstack
    split at h
    · rename_i hgoes
      simp only [Bool.and_eq_true, Option.isNone_iff_eq_none, Bool.not_eq_true'] at hgoes
      exact ⟨callback, rest, hstack, hgoes.1.1, hgoes.1.2, hgoes.2, (Option.some.inj h).symm⟩
    · cases h
  · cases h

theorem mediaUvFocusPingCb_eq (ret : Int) : mediaUvFocusPingCb ret = .reconnect ∨ mediaUvFocusPingCb ret = .listen := by
  unfold mediaUvFocusPingCb
  split
  · exact .inl rfl
  · exact .inr rfl

theorem MediaFocusPriv.action_release (h : s.action result callback = .release) : callback = .onRelease := by
  cases callback with
  | onRelease => rfl
  | onConnect ret =>
    simp only [action, mediaUvFocusConnectCb] at h
    split at h <;> cases h
  | onListen ret =>
    simp only [action, mediaUvFocusListenCb] at h
    split at h <;> cases h
  | onEvent parcel => cases h
  | onReceive w parcel =>
    simp only [action, mediaUvFocusReceiveCb] at h
    split at h
    · rcases mediaUvFocusPingCb_eq (if parcel.isSome then result else -ECANCELED) with heq | heq
      · cases heq.symm.trans h
      · cases heq.symm.trans h
    · cases h
    · cases h

/-- Only the answer of an "abandon" disconnects the proxy. -/
theorem MediaFocusPriv.action_disconnect (h : s.action result callback = .disconnect) :
    ∃ w parcel, callback = .onReceive w parcel ∧ w.id ∈ s.abandons := by
  cases callback with
  | onRelease | onEvent parcel => cases h
  | onConnect ret =>
    simp only [action, mediaUvFocusConnectCb] at h
    split at h <;> cases h
  | onListen ret =>
    simp only [action, mediaUvFocusListenCb] at h
    split at h <;> cases h
  | onReceive w parcel =>
    refine ⟨w, parcel, rfl, ?_⟩
    by_contra hnone
    simp only [action, mediaUvFocusReceiveCb, cmd, if_neg hnone] at h
    split at h
    · rcases mediaUvFocusPingCb_eq (if parcel.isSome then result else -ECANCELED) with heq | heq
      · cases heq.symm.trans h
      · cases heq.symm.trans h
    · cases h
    · rename_i heq
      split at heq <;> cases heq

theorem MediaFocusPriv.action_abandon {w : MediaWritePriv} {parcel : Option Nat} (h : w.id ∈ s.abandons) :
    s.action result (.onReceive w parcel) = .disconnect := by
  simp only [action, cmd, if_pos h]
  rfl

theorem FocusAction.call_disconnect {onRelease : Bool} (h : action.call = some (.disconnect onRelease)) :
    action = .disconnect ∧ onRelease = true := by
  cases action with
  | disconnect =>
    cases h
    exact ⟨rfl, rfl⟩
  | _ => cases h

/-- A callback begins and does what it does. -/
theorem FocusSound.act (h : FocusSound s) (hbegins : s.begins result = some action)
    (hg : ∀ j ∈ action.call, EndsAfterDisconnect (s.proxy, s.record) (j, o) ∧
      (s.record.disconnected = false → s.AbandonQueued → ¬ EndsCommand s.proxy j)) (hn : s.act c action o = some t) :
    FocusSound t := by
  obtain ⟨callback, rest, hstack, hw, hfault, haborted, haction⟩ := MediaFocusPriv.begins_eq hbegins
  have hbooks := h.books.begin hw hstack fun hrelease =>
    MediaFocusPriv.action_release (haction.symm.trans hrelease)
  have hbegun := MediaFocusPriv.waiting_begin h.books action
  -- the answer of an "abandon" disconnects the proxy
  have hsettles : s.abandoned = true → s.Pends ∨ action = .disconnect := by
    intro habandoned
    refine (h.settles hfault haborted habandoned).imp_right ?_
    rintro ⟨-, w, parcel, rest', hrest, habandon⟩
    obtain rfl : callback = .onReceive w parcel := by
      have := hstack.symm.trans hrest
      simpa using (List.cons.inj this).1
    rw [haction, MediaFocusPriv.action_abandon habandon]
  unfold MediaFocusPriv.act at hn
  cases hcall : action.call with
  | none =>
    rw [hcall] at hn
    cases hn
    refine ⟨hbooks, fun _ _ habandoned => .inl ?_⟩
    rcases hsettles habandoned with hpends | rfl
    · exact hpends
    · cases hcall
  | some call =>
    rw [hcall] at hn
    obtain ⟨u, hu, rfl⟩ := Option.map_eq_some_iff.1 hn
    obtain ⟨hends, hopen⟩ := hg call hcall
    have hi : ∀ onRelease, call = .disconnect onRelease → onRelease = true ∧ (s.begin action).abandoned = true := by
      rintro onRelease rfl
      obtain ⟨rfl, htrue⟩ := FocusAction.call_disconnect hcall
      obtain ⟨w, parcel, -, habandon⟩ := MediaFocusPriv.action_disconnect haction.symm
      exact ⟨htrue, h.books.noted (List.ne_nil_of_mem habandon)⟩
    have hrun : call = .run → ∀ callback rest, (s.begin action).proxy.stack ≠ .user callback :: rest := by
      rintro rfl
      cases action <;> cases hcall
    obtain ⟨hbooks', cb, hcalled⟩ := hbooks.proxyNext hbegun hrun hends hi hu
    have hsound : FocusSound u := by
      refine ⟨hbooks', fun hfault' haborted' habandoned => ?_⟩
      have hkept : u.abandoned = s.abandoned := by
        obtain ⟨proxy, -, rfl⟩ := Option.map_eq_some_iff.1 hu
        rfl
      rcases hsettles (hkept ▸ habandoned) with hpends | rfl
      · have hpends' : (s.begin action).Pends := hpends
        exact hpends'.proxyNext hbooks hbegun hopen hfault' haborted' hcalled hu
      · cases hcall
        refine .inl (.inl ?_)
        by_cases hold : s.record.disconnected = true
        · obtain ⟨proxy, -, rfl⟩ := Option.map_eq_some_iff.1 hu
          show (s.record.disconnected || _) = true
          rw [hold, Bool.true_or]
        · have hlive := h.books.connected hfault haborted hold
          obtain ⟨proxy, -, rfl⟩ := Option.map_eq_some_iff.1 hu
          show (s.record.disconnected || AcceptsDisconnect s.proxy o (.disconnect true)) = true
          simp [AcceptsDisconnect, mediaUvDisconnect, hlive]
    split
    · obtain ⟨⟨huv, hb, ho, htop, hf, hr, ha, hno, hto, hun, hq, hut⟩, hs⟩ := hsound
      exact ⟨⟨huv, hb, ho, htop, hf, hr, ha, hno, hto, hun, hq, hut⟩, hs⟩
    · exact hsound

/-- A message that cannot be made is refused. -/
theorem mediaUvSend_refused {ack : Bool} (h : ¬ s.Sends o) :
    (mediaUvSend s.proxy ack o).1 < 0 ∧ (mediaUvSend s.proxy ack o).2 = s.proxy := by
  unfold mediaUvSend
  split
  · exact ⟨Int.neg_neg_of_pos (by decide), rfl⟩
  · rename_i hcpu
    split
    · exact ⟨Int.neg_neg_of_pos (by decide), rfl⟩
    · rename_i hflag
      split
      · exact ⟨Int.neg_neg_of_pos (by decide), rfl⟩
      · rename_i hwriting
        exact absurd ⟨hcpu, by simpa using hflag, by simpa using hwriting⟩ h

/-- A request that `uv_write` takes is in `sentq`. -/
theorem mediaUvSend_sent (h : s.Sends o) (hflags : s.proxy.flags = 0) (hwrite : 0 ≤ o.write)
    (hfault : (mediaUvSend s.proxy true o).2.fault = none) : (mediaUvSend s.proxy true o).1 = o.write ∧
      (mediaUvSend s.proxy true o).2.writings.nextId = s.proxy.writings.nextId + 1 ∧
      ∃ w ∈ (mediaUvSend s.proxy true o).2.writings.sentq, w.id = s.proxy.writings.nextId := by
  obtain ⟨hcpu, hflag, hwriting⟩ := h
  revert hfault
  unfold mediaUvSend
  rw [if_neg hcpu, if_neg (by simp [hflag]), if_neg (by simp [hwriting])]
  dsimp only [mediaUvQueueWriting]
  have hzero : (mediaUvAllocWriting s.proxy (sendCode true)).2.flags = 0 := hflags
  rw [if_pos hzero]
  intro hfault
  have hwritings := mediaUvSendWriting_writings hfault
  refine ⟨rfl, ?_, (mediaUvAllocWriting s.proxy (sendCode true)).1, ?_, rfl⟩
  · rw [hwritings, (Writings.write_kept ..).2.2.2]
    simp only [Writings.accept, if_pos hwrite]
    rfl
  · rw [hwritings]
    have hack : (mediaUvAllocWriting s.proxy (sendCode true)).1.code = MEDIA_PARCEL_SEND_ACK := rfl
    unfold Writings.write
    rw [if_neg (by omega)]
    unfold Writings.hand
    rw [if_pos hack]
    exact List.mem_append_right _ (List.mem_singleton_self _)

/-- The user abandons the focus. -/
theorem FocusSound.abandon {onAbandon : Bool} (h : FocusSound s) (hw : s.waiting = false)
    (hg : FocusKept s (.abandon onAbandon, o)) (hn : mediaUvFocusAbandon c s onAbandon o = some t) : FocusSound t := by
  obtain ⟨u, hu, rfl⟩ := Option.map_eq_some_iff.1 hn
  obtain ⟨hcall, hsends⟩ := hg
  obtain ⟨hends, hopen⟩ := hcall (.send true) rfl
  have hrun : UvInput.send true = .run → ∀ callback rest, s.proxy.stack ≠ .user callback :: rest := nofun
  obtain ⟨hbooks, cb, hcalled⟩ := h.books.proxyNext hw hrun hends nofun hu
  have hlater : s.Pends → u.proxy.fault = none → u.proxy.aborted = false → u.Pends ∨ u.Answers :=
    fun hpends hfault haborted => hpends.proxyNext h.books hw hopen hfault haborted hcalled hu
  obtain ⟨proxy, hproxy, rfl⟩ := Option.map_eq_some_iff.1 hu
  obtain ⟨hfault, haborted⟩ := uvNext_sound hproxy
  -- a message that was made was accepted
  have hmade : s.proxy.writings.nextId < proxy.writings.nextId → 0 ≤ (mediaUvSend s.proxy true o).1 := by
    intro hlt
    obtain ⟨-, ⟨fault, rfl⟩ | ⟨rfl, hstep⟩⟩ := uvNext_cases hproxy
    · exact absurd hlt (Nat.lt_irrefl _)
    · by_cases hs : s.Sends o
      · obtain ⟨hflags, hwrite, -⟩ := hsends hs
        rw [(mediaUvSend_sent hs hflags hwrite hstep).1]
        exact hwrite
      · rw [show uvStep c s.proxy o (.send true) = s.proxy from (mediaUvSend_refused hs).2] at hlt
        exact absurd hlt (Nat.lt_irrefl _)
  obtain ⟨huv, hb, ho, htop, hf, hr, ha, hno, hto, hun, hq, hut⟩ := hbooks
  refine ⟨⟨huv, hb, ho, htop, hf, hr, fun hset => ?_, fun habandons => ?_, hto, hun, hq, hut⟩,
    fun hfault' haborted' habandoned => ?_⟩
  · have habandoned : s.abandoned = true := (ha hset).1
    refine ⟨?_, (ha hset).2⟩
    show (s.abandoned || _) = true
    rw [habandoned, Bool.true_or]
  · show (s.abandoned || decide (0 ≤ (mediaUvSend s.proxy true o).1)) = true
    by_cases hlt : s.proxy.writings.nextId < proxy.writings.nextId
    · rw [decide_eq_true (hmade hlt), Bool.or_true]
    · have hsame : s.abandons ≠ [] := by
        intro hnone
        refine habandons ?_
        simp [MediaFocusPriv.made, hlt, hnone]
      rw [h.books.noted hsame, Bool.true_or]
  · have habandoned : (s.abandoned || decide (0 ≤ (mediaUvSend s.proxy true o).1)) = true := habandoned
    by_cases hold : s.abandoned = true
    · -- an earlier one comes to something
      have hpends : s.Pends := by
        refine (h.settles hfault haborted hold).resolve_right ?_
        rintro ⟨hwaits, -⟩
        cases hw.symm.trans hwaits
      rcases hlater hpends hfault' haborted' with hpends | ⟨hwaits, w, parcel, rest, hrest, hmem⟩
      · refine .inl (hpends.imp_right fun hqueued => ⟨hqueued.1, ?_⟩)
        obtain ⟨w, hw', hmem⟩ := hqueued.2
        exact ⟨w, hw', List.mem_append_right _ hmem⟩
      · exact .inr ⟨hwaits, w, parcel, rest, hrest, List.mem_append_right _ hmem⟩
    · have hret : 0 ≤ (mediaUvSend s.proxy true o).1 := by simpa [hold] using habandoned
      have hs : s.Sends o := by
        by_contra hs
        have hrefused : (mediaUvSend s.proxy true o).1 < 0 := (mediaUvSend_refused hs).1
        omega
      obtain ⟨hflags, hwrite, hcommand⟩ := hsends hs
      obtain ⟨-, -, -, hstep⟩ := uvNext_step hproxy hfault'
      dsimp only at hfault' haborted'
      subst hstep
      obtain ⟨-, hnext, w, hw', hid⟩ := mediaUvSend_sent hs hflags hwrite hfault'
      refine .inl (.inr ⟨?_, w, hw', ?_⟩)
      · exact hcommand.step (by simp [EndsCommand]) nofun hs.2.1 hfault' haborted'
      · have hmade : s.proxy.writings.nextId < (uvStep c s.proxy o (.send true)).writings.nextId := by
          rw [show (uvStep c s.proxy o (.send true)).writings.nextId = _ from hnext]
          omega
        refine List.mem_append_left _ ?_
        rw [MediaFocusPriv.made, if_pos hmade, hid]
        exact List.mem_singleton_self _

theorem FocusSound.next {i : UvFocusInput} (h : FocusSound s) (hg : FocusKept s (i, o))
    (hn : uvFocusNext c s (i, o) = some t) : FocusSound t := by
  cases i with
  | call result =>
    obtain ⟨action, hbegins, hact⟩ := Option.bind_eq_some_iff.1 hn
    refine h.act hbegins (fun j hj => hg.1 j ?_) hact
    show (s.begins result).bind FocusAction.call = some j
    rw [hbegins]
    exact hj
  | abandon onAbandon =>
    simp only [uvFocusNext] at hn
    split at hn
    · rename_i hruns
      simp only [MediaFocusPriv.userRuns, Bool.and_eq_true, Bool.not_eq_true'] at hruns
      exact h.abandon hruns.2.1 hg hn
    · cases hn
  | uv j =>
    obtain ⟨hends, hopen⟩ := hg.1 j rfl
    simp only [uvFocusNext] at hn
    split at hn
    · cases hn
    rename_i hgoes
    simp only [Bool.or_eq_true, not_or, Bool.not_eq_true] at hgoes
    obtain ⟨hcall, hw⟩ := hgoes
    have hi : ∀ onRelease, j = .disconnect onRelease → onRelease = true ∧ s.abandoned = true := by
      rintro onRelease rfl
      cases hcall
    split at hn
    · -- a callback returns
      rename_i callback rest hstack
      obtain ⟨hbooks, hproxy, hrecord, habandons, habandoned⟩ := h.books.returns hw hstack hn
      refine ⟨hbooks, fun hfault haborted hset => .inl ?_⟩
      rw [hproxy] at hfault haborted
      have hpends : s.Pends := by
        refine (h.settles hfault haborted (habandoned ▸ hset)).resolve_right ?_
        rintro ⟨hwaits, -⟩
        cases hw.symm.trans hwaits
      unfold MediaFocusPriv.Pends MediaFocusPriv.AbandonQueued
      rw [hproxy, hrecord, habandons]
      exact hpends
    · rename_i j _ _ hreturns
      have htop : j = .run → ∀ callback rest, s.proxy.stack ≠ .user callback :: rest := by
        rintro rfl callback rest hstack
        exact hreturns callback rest rfl hstack
      obtain ⟨hbooks, cb, hcalled⟩ := h.books.proxyNext hw htop hends hi hn
      refine ⟨hbooks, fun hfault haborted hset => ?_⟩
      have hsound : (s.proxy.fault = none ∧ s.proxy.aborted = false) ∧ t.abandoned = s.abandoned := by
        obtain ⟨proxy, hproxy, rfl⟩ := Option.map_eq_some_iff.1 hn
        exact ⟨uvNext_sound hproxy, rfl⟩
      have hpends : s.Pends := by
        refine (h.settles hsound.1.1 hsound.1.2 (hsound.2 ▸ hset)).resolve_right ?_
        rintro ⟨hwaits, -⟩
        cases hw.symm.trans hwaits
      exact hpends.proxyNext h.books hw hopen hfault haborted hcalled hn

/-! ### Every run -/

theorem FocusSound.lives (h : FocusSound s) : FocusLives s := by
  have hbooks := h.books
  have hmost := hbooks.uv.atMost
  have hfrees := hbooks.frees
  refine ⟨fun _ habandoned hrest => ?_, fun _ hpos => ?_, by omega, hbooks.told.trans hmost, hbooks.untouched⟩
  · have hquiescent := hrest.quiescent
    have hdisconnected : s.record.disconnected = true := by
      rcases h.settles hquiescent.fault hquiescent.aborted habandoned with hpends | ⟨-, w, parcel, rest, hstack, -⟩
      · refine hpends.resolve_right ?_
        rintro ⟨hcommand, w, hw, -⟩
        exact hcommand.not_quiescent hw hquiescent
      · cases hquiescent.stack.symm.trans hstack
    have hreleases := (hbooks.uv.releasedOnce.released hdisconnected hrest).2
    rw [(hbooks.asked hdisconnected).2 hquiescent.fault] at hreleases
    rw [hquiescent.stack] at hfrees
    simp only [List.countP_nil, Bool.toNat_true] at hfrees hreleases
    omega
  · exact (hbooks.asked (hbooks.releases (by omega))).1

theorem FocusSound.start (hcookie : a.CookieTells c) (hconnects : (a.allocates && a.connects c) = true) :
    FocusSound (uvFocusMachine c a).start := by
  simp only [Bool.and_eq_true] at hconnects
  have hreturned : a.cookie = true := (hcookie hconnects.1).2 hconnects.2
  have hstack : (uvFocusMachine c a).start.proxy.stack = [] :=
    (mediaUvConnectOne_flags c { cpu := some (a.cpus.headD ""), cpus := a.cpus.tail } {}).2.2
  have hidle : (uvFocusMachine c a).start.waiting = false := by
    rw [MediaFocusPriv.waiting, hstack]
    rfl
  have hfrees : (uvFocusMachine c a).start.frees = 0 := by
    simp [uvFocusMachine, hreturned]
  have huv : UvReleases (mediaUvConnect c (a.cpus.headD "") a.cpus.tail {}) {} :=
    ⟨fun _ => PipesLive.start c _ _, Nat.zero_le 1, .inr (.inr (.inl ⟨rfl, rfl, NotDisconnected.start c _ _⟩))⟩
  refine ⟨⟨huv, Nat.zero_le _, ?_, fun hwaits => ?_, ?_, nofun, nofun, fun hnone => absurd rfl hnone, Nat.le_refl 0,
    fun _ _ _ => rfl, fun _ => hidle, rfl⟩, fun _ _ habandoned => ?_⟩
  · rw [hstack]
    exact Nat.zero_le 1
  · cases hidle.symm.trans hwaits
  · rw [hfrees, hstack]
    rfl
  · cases habandoned

/-- In every run of a request whose cookie tells of the connection, where each "abandon" is sent on the open command
pipe and answered there, and the proxy ends when it is disconnected, the context lives as long as it is used.  The
request returns the context exactly for a connection where the cookie tells of it. -/
theorem uvFocus_lives : (mediaUvFocusRequest a = (a.allocates && a.connects c) ↔ a.CookieTells c) ∧
    (a.CookieTells c → (uvFocusMachine c a).ReachableVia FocusKept s → FocusLives s) := by
  refine ⟨?_, fun hcookie hs => ?_⟩
  · unfold mediaUvFocusRequest FocusArgs.CookieTells
    cases a.allocates <;> cases a.cookie <;> cases a.connects c <;> simp
  · by_cases hconnects : (a.allocates && a.connects c) = true
    · have hsound : FocusSound s := by
        refine hs.invariant (FocusSound.start hcookie hconnects) ?_
        rintro s ⟨i, o⟩ s' hs hg hn
        simp only [uvFocusMachine, if_pos hconnects] at hn
        exact hs.next hg hn
      exact hsound.lives
    · -- nothing happens without a connection
      have hstart : s = (uvFocusMachine c a).start := by
        refine hs.invariant (P := fun s => s = (uvFocusMachine c a).start) rfl ?_
        intro s i s' _ _ hn
        simp only [uvFocusMachine, if_neg hconnects] at hn
        cases hn
      have hhandle : mediaUvFocusRequest a = false := by
        unfold mediaUvFocusRequest
        unfold FocusArgs.CookieTells at hcookie
        revert hconnects hcookie
        cases a.allocates <;> cases a.cookie <;> cases a.connects c <;> simp
      have hrefused : s.handle = true → False := by
        intro hset
        rw [hstart] at hset
        cases hhandle.symm.trans hset
      refine ⟨fun hset => (hrefused hset).elim, fun hset => (hrefused hset).elim, ?_, ?_, ?_⟩
      · rw [hstart]
        exact Bool.toNat_le _
      · rw [hstart]
        exact Nat.zero_le 1
      · rw [hstart]
        rfl

/-! ### A run that meets the condition, and one that does not -/

instance (s : MediaProxyPriv) : (i : UvInput) → Decidable (EndsCommand s i)
  | .reconnect => inferInstanceAs (Decidable (_ ∧ _))
  | .run => inferInstanceAs (Decidable ((∃ k ∈ s.cpipe, _) ∨ _ ∧ ∃ f ∈ s.stack.head?, _))
  | .readErr _ | .shutdownCb _ | .listenCb _ _ | .closeCb _ => inferInstanceAs (Decidable (_ = _))
  | .send _ | .listen _ | .disconnect _ | .connectCb _ _ | .writeCb _ _ _ | .parcel _ _ => isFalse id

instance (s : MediaProxyPriv) (replied : List Nat) : Decidable (s.CommandOpen replied) :=
  inferInstanceAs (Decidable (∃ k ∈ s.cpipe, ∃ p ∈ s.pipes[k]?, _))

instance (s : MediaFocusPriv) : Decidable s.AbandonQueued := inferInstanceAs (Decidable (∃ w ∈ _, _))

instance (s : MediaFocusPriv) (o : Outcome) : Decidable (s.Sends o) := inferInstanceAs (Decidable (_ ∧ _ ∧ _))

instance (s : MediaFocusPriv) : (i : UvFocusInput × Outcome) → Decidable (FocusKept s i)
  | (.abandon _, _) => inferInstanceAs (Decidable ((∀ j ∈ _, _ ∧ (_ → _ → ¬ _)) ∧ (_ → _ ∧ _ ∧ _)))
  | (.call _, _) | (.uv _, _) => inferInstanceAs (Decidable ((∀ j ∈ _, _ ∧ (_ → _ → ¬ _)) ∧ True))

def sampleFocusArgs : FocusArgs where
  name := "Music"
  cpus := ["ap"]

/-- The state after the inputs, if every step meets the condition. -/
def sampleUvFocusRun (g : MediaFocusPriv → UvFocusInput × Outcome → Prop) [∀ s i, Decidable (g s i)] (a : FocusArgs)
    (inputs : List UvFocusInput) : Option MediaFocusPriv :=
  (uvFocusMachine sampleUvConfig a).runFrom g (uvFocusMachine sampleUvConfig a).start (inputs.map fun i => (i, {}))

/-- libuv calls, the callback does what it does, and the code runs to its end. -/
def sampleUvFocusCall (i : UvInput) (result : Int) (count : Nat) : List UvFocusInput :=
  [UvFocusInput.uv i, .call result] ++ List.replicate count (.uv .run)

/-- The user gets the focus and abandons it. -/
def sampleUvFocusInputs : List UvFocusInput :=
  sampleUvFocusCall (.connectCb 0 0) 0 2 ++ sampleUvFocusCall (.parcel 0 7) 0 4 ++
    sampleUvFocusCall (.listenCb 1 0) 0 4 ++ sampleUvFocusCall (.parcel 0 8) 1 2 ++ [UvFocusInput.abandon true] ++
    sampleUvFocusCall (.parcel 0 9) 0 2 ++
    [UvFocusInput.uv (.writeCb 0 ⟨0, MEDIA_PARCEL_SEND_ACK, true, false⟩ 0),
      .uv (.writeCb 0 ⟨1, MEDIA_PARCEL_CREATE_NOTIFY, false, false⟩ 0),
      .uv (.writeCb 0 ⟨2, MEDIA_PARCEL_SEND_ACK, false, true⟩ 0),
      .uv (.writeCb 0 ⟨3, MEDIA_PARCEL_SEND_ACK, false, false⟩ 0), .uv (.shutdownCb 0), .uv (.closeCb 0),
      .uv (.closeCb 1), .uv (.readErr 2)] ++ sampleUvFocusCall (.closeCb 2) 0 2

def sampleUvFocused : MediaFocusPriv :=
  (sampleUvFocusRun FocusKept sampleFocusArgs sampleUvFocusInputs).get (by decide)

theorem uvFocus_lives_sample : FocusLives sampleUvFocused ∧ sampleUvFocused.frees = 1 := by
  have hcookie : sampleFocusArgs.CookieTells sampleUvConfig := by
    unfold FocusArgs.CookieTells
    decide
  have h : (uvFocusMachine sampleUvConfig sampleFocusArgs).ReachableVia FocusKept sampleUvFocused :=
    Machine.reachableVia_get (by decide)
  exact ⟨uvFocus_lives.2 hcookie h, by decide⟩

/-- A request without a cookie, whose connection is made. -/
def sampleUvCookieless : MediaFocusPriv :=
  (sampleUvFocusRun (fun _ _ => True) { sampleFocusArgs with cookie := false }
    [UvFocusInput.uv (.connectCb 0 0), .call 0]).get (by decide)

/-- A request without a cookie frees its context and returns NULL, and then `on_connect` is called on the context. -/
theorem uvFocus_not_lives : ¬ ∀ (c : UvConfig) (a : FocusArgs) (s : MediaFocusPriv), (uvFocusMachine c a).Reachable s →
    mediaUvFocusRequest a = (a.allocates && a.connects c) ∧ FocusLives s := by
  intro h
  have huntouched := (h sampleUvConfig { sampleFocusArgs with cookie := false } sampleUvCookieless
    (Machine.reachableVia_get (by decide))).2.untouched
  revert huntouched
  decide

end MediaFramework
