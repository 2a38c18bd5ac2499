import MediaFramework.Client.MediaUv
import MediaFramework.Focus.MediaFocus
import MediaFramework.Library.Machine

/-!
# Starting with a focus (`client/media_uv_graph.c`)

`media_uv_player_start_auto` and `media_uv_recorder_start_auto` request a focus and keep the callback in its context
until the first suggestion comes.  Most branches of the suggestion hand it on, to the start command or with an error.
A player that is to be silent, or to play with a low volume, starts without it, and it is forgotten.
-/

namespace MediaFramework

/-! ### The contexts -/

/-- The focus context of a stream: the call of `start_auto` that has made it, whether it has still its stream, and
whether it has `on_play`, which is the callback of that call. -/
structure FocusContext where
  call : Nat
  stream : Bool := true
  onPlay : Bool
  deriving DecidableEq

/-- A start command on its way that a call of `start_auto` waits for, and whether it has the callback. -/
structure StartCommand where
  call : Nat
  cb : Bool
  deriving DecidableEq

/-- The focus of a stream, the contexts that are not freed, and the start commands on their way; the number of calls of
`start_auto`, those that returned 0 and have a callback, whether their first suggestion allowed to play, the results of
their start commands, and the calls of their callbacks. -/
structure AutoStarts where
  focus : Option Nat := none
  contexts : List FocusContext := []
  starts : List StartCommand := []
  made : Nat := 0
  accepted : List Nat := []
  allowed : List (Nat × Bool) := []
  results : List (Nat × Int) := []
  told : List (Nat × Int) := []
  deriving DecidableEq

namespace AutoStarts

variable (s : AutoStarts)

/-- The callback of a call. -/
def tell (call : Nat) (ret : Int) : AutoStarts := { s with told := s.told ++ [(call, ret)] }

/-- A start command has ended. -/
def ended (call : Nat) (cb : Bool) (ret : Int) : AutoStarts :=
  let t := { s with results := s.results ++ [(call, ret)] }
  if cb then t.tell call ret else t

/-- `media_uv_player_start` and `media_uv_recorder_start`; it calls the callback at once if `uv_write` fails. -/
def start (call : Nat) (cb : Bool) : SendOutcome → AutoStarts
  | .sent => { s with starts := s.starts ++ [⟨call, cb⟩] }
  | .refused => s
  | .dropped => s.ended call cb (-ECANCELED)

end AutoStarts

/-! ### The code -/

/-- `media_uv_stream_abandon_focus`, where `done` says that `media_uv_focus_abandon` succeeds. -/
def mediaUvStreamAbandonFocus (s : AutoStarts) (done : Bool) : AutoStarts :=
  match s.focus with
  | some call =>
    if done then
      { s with
        focus := none
        contexts := s.contexts.map fun ctx => if ctx.call = call then { ctx with stream := false } else ctx }
    else s
  | none => s

/-- `media_uv_stream_request_focus`, where `request` says that there is memory and a handle. -/
def mediaUvStreamRequestFocus (s : AutoStarts) (call : Nat) (cb request : Bool) : Int × AutoStarts :=
  if request then (0, { s with focus := some call, contexts := s.contexts ++ [{ call, onPlay := cb }] })
  else (-ENOMEM, s)

/-- The outcomes of a suggestion: of the start command, and of abandoning the focus. -/
structure SuggestOutcome where
  start : SendOutcome
  abandon : Bool

/-- The switch of a suggestion, and `suggest_active`.  `quiet` says whether a start that is not to be heard, or with a
low volume, has the callback.  Only the start that answers a call of `start_auto` is kept. -/
def suggestSwitch (quiet : Bool) (s : AutoStarts) (ctx : FocusContext) (suggest : Int) (o : SuggestOutcome) :
    AutoStarts × Bool :=
  if suggest = MEDIA_FOCUS_PLAY then (if ctx.onPlay then s.start ctx.call true o.start else s, true)
  else if suggest = MEDIA_FOCUS_PLAY_BUT_SILENT ∨ suggest = MEDIA_FOCUS_PLAY_WITH_DUCK then
    (if ctx.onPlay then s.start ctx.call quiet o.start else s, true)
  else if suggest = MEDIA_FOCUS_STOP then (mediaUvStreamAbandonFocus s o.abandon, false)
  else (s, false)

/-- What follows the switch: `on_play` is called if the suggestion was not to play, and it is forgotten. -/
def suggestOut (s : AutoStarts) (ctx : FocusContext) (active : Bool) : AutoStarts :=
  if ctx.onPlay then
    let t := if active then s else s.tell ctx.call (-EPERM)
    { t with
      contexts := t.contexts.map fun c => if c.call = ctx.call then { c with onPlay := false } else c
      allowed := t.allowed ++ [(ctx.call, active)] }
  else s

/-- The callback for suggestions; a context without its stream goes to the end at once. -/
def suggestCb (quiet : Bool) (s : AutoStarts) (ctx : FocusContext) (suggest : Int) (o : SuggestOutcome) : AutoStarts :=
  if ctx.stream then
    let r := suggestSwitch quiet s ctx suggest o
    suggestOut r.1 ctx r.2
  else suggestOut s ctx false

def mediaUvPlayerSuggestCb := suggestCb false

def mediaUvRecorderSuggestCb := suggestCb true

/-- `media_uv_player_start_auto` and `media_uv_recorder_start_auto`: with a focus the start is forced.  Of its errors
there is only `-ECANCELED`. -/
def mediaUvStreamStartAutoCall (s : AutoStarts) (cb request : Bool) (send : SendOutcome) : Int × AutoStarts :=
  let t := { s with made := s.made + 1 }
  if s.focus.isSome then
    ((if send = .sent then 0 else -ECANCELED), if cb then t.start s.made true send else t)
  else mediaUvStreamRequestFocus t s.made cb request

/-! ### Runs -/

/-- A call of `start_auto`; pause, stop, reset and close, or the end of what is played, which abandon the focus; a
suggestion for a context; the reply to a start command, or its cancellation, which has the result `-ECANCELED`; the
context is freed. -/
inductive AutoStartInput
  | startAuto (cb request : Bool) (send : SendOutcome)
  | abandon (done : Bool)
  | suggest (call : Nat) (suggest : Int) (o : SuggestOutcome)
  | reply (command : StartCommand) (ret : Int)
  | free (call : Nat)

/-- One step, where `player` tells a player from a recorder.  A forced start needs no suggestion. -/
def autoStartNext (player : Bool) (s : AutoStarts) : AutoStartInput → Option AutoStarts
  | .startAuto cb request send =>
    let r := mediaUvStreamStartAutoCall s cb request send
    some (if r.1 = 0 ∧ cb = true then
      { r.2 with
        accepted := r.2.accepted ++ [s.made]
        allowed := if s.focus.isSome then r.2.allowed ++ [(s.made, true)] else r.2.allowed }
    else r.2)
  | .abandon done => some (mediaUvStreamAbandonFocus s done)
  | .suggest call suggest o =>
    (s.contexts.find? fun ctx => ctx.call = call).map fun ctx =>
      if player then mediaUvPlayerSuggestCb s ctx suggest o else mediaUvRecorderSuggestCb s ctx suggest o
  | .reply command ret =>
    if command ∈ s.starts then
      some (AutoStarts.ended { s with starts := s.starts.erase command } command.call command.cb ret)
    else none
  | .free call => some { s with contexts := s.contexts.filter fun ctx => ctx.call ≠ call }

def autoStartMachine (player : Bool) : Machine AutoStarts AutoStartInput where
  start := {}
  next := autoStartNext player

/-! ### The property -/

/-- What concerns one call of `start_auto`: what its callback was told, the results of its start commands, how many of
them are on their way with the callback and without it, and whether its first suggestion allowed to play. -/
structure StartView where
  told : List Int := []
  results : List Int := []
  asked : Nat := 0
  mute : Nat := 0
  allowed : Option Bool := none
  deriving DecidableEq

def AutoStarts.view (s : AutoStarts) (call : Nat) : StartView where
  told := (s.told.filter fun t => t.1 = call).map Prod.snd
  results := (s.results.filter fun r => r.1 = call).map Prod.snd
  asked := s.starts.count ⟨call, true⟩
  mute := s.starts.count ⟨call, false⟩
  allowed := s.allowed.lookup call

/-- The callback is called once, when it is known how the call has ended: with the result of the start command when it
was allowed to play, and with an error otherwise. -/
structure StartView.Reported (v : StartView) : Prop where
  waiting : v.allowed = none → v.told = []
  pending : v.allowed = some true → 0 < v.asked + v.mute → v.told = []
  started : v.allowed = some true → v.asked + v.mute = 0 → v.told = v.results ∧ v.told.length = 1
  denied : v.allowed = some false → v.told = [-EPERM] ∨ v.told = [-ECANCELED]

instance (v : StartView) : Decidable v.Reported :=
  decidable_of_iff ((_ → _) ∧ (_ → _ → _) ∧ (_ → _ → _) ∧ (_ → _)) ⟨fun h => ⟨h.1, h.2.1, h.2.2.1, h.2.2.2⟩,
    fun h => ⟨h.1, h.2, h.3, h.4⟩⟩

def AutoStarts.AllReported (s : AutoStarts) : Prop := ∀ call ∈ s.accepted, (s.view call).Reported

instance (s : AutoStarts) : Decidable s.AllReported := inferInstanceAs (Decidable (∀ _ ∈ _, _))

/-- The first suggestion for a call that allows to play has the start command sent or dropped, and is not one to play
in silence or with a low volume if this is a player. -/
def PlaysAloud (player : Bool) (s : AutoStarts) : AutoStartInput → Prop
  | .suggest call suggest o =>
    ∀ ctx ∈ s.contexts.find? fun ctx => ctx.call = call, ctx.stream = true → ctx.onPlay = true →
      suggest = MEDIA_FOCUS_PLAY ∨ suggest = MEDIA_FOCUS_PLAY_BUT_SILENT ∨ suggest = MEDIA_FOCUS_PLAY_WITH_DUCK →
        o.start ≠ .refused ∧ (player = true → suggest = MEDIA_FOCUS_PLAY)
  | .startAuto _ _ _ | .abandon _ | .reply _ _ | .free _ => True

instance (player : Bool) (s : AutoStarts) : (i : AutoStartInput) → Decidable (PlaysAloud player s i)
  | .suggest _ _ _ => inferInstanceAs (Decidable (∀ _ ∈ _, _ → _ → _ → _ ∧ _))
  | .startAuto _ _ _ | .abandon _ | .reply _ _ | .free _ => inferInstanceAs (Decidable True)

/-! ### What concerns one call -/

variable {s s' t : AutoStarts} {ctx : FocusContext} {call other : Nat} {cb active player quiet : Bool} {ret : Int}
  {o : SuggestOutcome} {suggest : Int} {i : AutoStartInput}

theorem view_ended_same :
    (s.ended call true ret).view call =
      { s.view call with told := (s.view call).told ++ [ret], results := (s.view call).results ++ [ret] } := by
  simp [AutoStarts.view, AutoStarts.ended, AutoStarts.tell]

theorem view_ended_other (h : other ≠ call) : (s.ended call cb ret).view other = s.view other := by
  cases cb <;> simp [AutoStarts.view, AutoStarts.ended, AutoStarts.tell, h.symm]

theorem view_start_other (h : other ≠ call) (send : SendOutcome) :
    (s.start call cb send).view other = s.view other := by
  cases send with
  | sent =>
    have hne : ∀ b, StartCommand.mk call cb ≠ ⟨other, b⟩ := fun b heq => h (congrArg StartCommand.call heq).symm
    simp [AutoStarts.view, AutoStarts.start, List.count_append, hne]
  | refused => rfl
  | dropped => exact view_ended_other h

theorem view_sent_same :
    (s.start call true .sent).view call = { s.view call with asked := (s.view call).asked + 1 } := by
  simp [AutoStarts.view, AutoStarts.start, List.count_append]

theorem view_allow_other (h : other ≠ call) (active : Bool) :
    ({ s with allowed := s.allowed ++ [(call, active)] } : AutoStarts).view other = s.view other := by
  have hne : (other == call) = false := by simpa using h
  simp [AutoStarts.view, List.lookup_append, List.lookup_cons, hne]

theorem view_allow_same (h : (s.view call).allowed = none) (active : Bool) :
    ({ s with allowed := s.allowed ++ [(call, active)] } : AutoStarts).view call =
      { s.view call with allowed := some active } := by
  have hnone : s.allowed.lookup call = none := h
  simp [AutoStarts.view, List.lookup_append, hnone]

/-- The start command changes neither the focus nor the contexts. -/
theorem start_contexts (s : AutoStarts) (call : Nat) (cb : Bool) (send : SendOutcome) :
    (s.start call cb send).contexts = s.contexts ∧ (s.start call cb send).made = s.made ∧
      (s.start call cb send).accepted = s.accepted := by
  cases send <;> cases cb <;> exact ⟨rfl, rfl, rfl⟩

/-! ### Stages of a call -/

/-- A call waits for its suggestion, or its start command is on its way, or has ended, or it was told that it may not
play. -/
inductive StartView.Stage : StartView → Prop
  | waiting : Stage {}
  | started : Stage { asked := 1, allowed := some true }
  | ended (ret : Int) : Stage { told := [ret], results := [ret], allowed := some true }
  | denied : Stage { told := [-EPERM], allowed := some false }

theorem StartView.Stage.reported {v : StartView} (h : v.Stage) : v.Reported := by
  cases h with
  | waiting => constructor <;> simp
  | started => constructor <;> simp
  | ended ret => constructor <;> simp
  | denied => constructor <;> simp

namespace AutoStarts

/-- A context that has `on_play` belongs to a call that waits; calls not made have left no trace. -/
structure Waits (s : AutoStarts) : Prop where
  known : ∀ ctx ∈ s.contexts, ctx.call < s.made
  idle : ∀ ctx ∈ s.contexts, ctx.onPlay = true → s.view ctx.call = {}
  fresh : ∀ call, s.made ≤ call → s.view call = {}
  staged : ∀ call ∈ s.accepted, call < s.made ∧ (s.view call).Stage

/-- The contexts of `s'` are contexts of `s`, which may have lost their stream or `on_play`. -/
def Narrows (s s' : AutoStarts) : Prop :=
  ∀ ctx ∈ s'.contexts, ∃ old ∈ s.contexts, old.call = ctx.call ∧ (ctx.onPlay = true → old.onPlay = true)

theorem narrows_of_contexts (hcontexts : s'.contexts = s.contexts) : s.Narrows s' :=
  fun ctx hctx => ⟨ctx, hcontexts ▸ hctx, rfl, id⟩

/-- A step that concerns only one call, which then does not wait any more. -/
theorem Waits.touch (call : Nat) (h : s.Waits) (hmade : s'.made = s.made) (haccepted : s'.accepted = s.accepted)
    (hnarrows : s.Narrows s') (hother : ∀ other, other ≠ call → s'.view other = s.view other)
    (hcall : call < s.made) (hnone : ∀ ctx ∈ s'.contexts, ctx.call = call → ctx.onPlay = false)
    (hstage : call ∈ s.accepted → (s'.view call).Stage) : s'.Waits := by
  refine ⟨fun ctx hctx => ?_, fun ctx hctx hplay => ?_, fun c hc => ?_, fun c hc => ?_⟩
  · obtain ⟨old, hold, hsame, -⟩ := hnarrows ctx hctx
    rw [hmade, ← hsame]
    exact h.known old hold
  · obtain ⟨old, hold, hsame, hwas⟩ := hnarrows ctx hctx
    have hne : ctx.call ≠ call := fun heq => by
      rw [hnone ctx hctx heq] at hplay
      cases hplay
    rw [hother _ hne, ← hsame]
    exact h.idle old hold (hwas hplay)
  · rw [hmade] at hc
    rw [hother c (by omega)]
    exact h.fresh c hc
  · rw [haccepted] at hc
    obtain ⟨hlt, hold⟩ := h.staged c hc
    rw [hmade]
    refine ⟨hlt, ?_⟩
    by_cases hne : c = call
    · exact hne ▸ hstage (hne ▸ hc)
    · rw [hother c hne]
      exact hold

/-- A step that concerns no call. -/
theorem Waits.same (h : s.Waits) (hmade : s'.made = s.made) (haccepted : s'.accepted = s.accepted)
    (hnarrows : s.Narrows s') (hview : ∀ call, s'.view call = s.view call) : s'.Waits := by
  refine ⟨fun ctx hctx => ?_, fun ctx hctx hplay => ?_, fun c hc => ?_, fun c hc => ?_⟩
  · obtain ⟨old, hold, hsame, -⟩ := hnarrows ctx hctx
    rw [hmade, ← hsame]
    exact h.known old hold
  · obtain ⟨old, hold, hsame, hwas⟩ := hnarrows ctx hctx
    rw [hview, ← hsame]
    exact h.idle old hold (hwas hplay)
  · rw [hview]
    exact h.fresh c (hmade ▸ hc)
  · rw [haccepted] at hc
    rw [hmade, hview]
    exact h.staged c hc

/-! ### Steps -/

theorem abandon_frame (s : AutoStarts) (done : Bool) :
    (mediaUvStreamAbandonFocus s done).made = s.made ∧ (mediaUvStreamAbandonFocus s done).accepted = s.accepted ∧
      s.Narrows (mediaUvStreamAbandonFocus s done) ∧
      ∀ call, (mediaUvStreamAbandonFocus s done).view call = s.view call := by
  have hself : s.Narrows s := narrows_of_contexts rfl
  unfold mediaUvStreamAbandonFocus
  cases s.focus with
  | none => exact ⟨rfl, rfl, hself, fun _ => rfl⟩
  | some call =>
    cases done with
    | false => exact ⟨rfl, rfl, hself, fun _ => rfl⟩
    | true =>
      refine ⟨rfl, rfl, fun ctx hctx => ?_, fun _ => rfl⟩
      obtain ⟨old, hold, rfl⟩ := List.mem_map.1 hctx
      refine ⟨old, hold, ?_, ?_⟩
      · split <;> rfl
      · split <;> exact id

theorem Waits.abandon (h : s.Waits) (done : Bool) : (mediaUvStreamAbandonFocus s done).Waits := by
  obtain ⟨hmade, haccepted, hnarrows, hview⟩ := abandon_frame s done
  exact h.same hmade haccepted hnarrows hview

/-- What follows the switch for a context that has `on_play`. -/
theorem suggestOut_frame (active : Bool) (honPlay : ctx.onPlay = true) (hallowed : (t.view ctx.call).allowed = none) :
    (suggestOut t ctx active).made = t.made ∧ (suggestOut t ctx active).accepted = t.accepted ∧
      t.Narrows (suggestOut t ctx active) ∧
      (∀ c ∈ (suggestOut t ctx active).contexts, c.call = ctx.call → c.onPlay = false) ∧
      (∀ other, other ≠ ctx.call → (suggestOut t ctx active).view other = t.view other) ∧
      (suggestOut t ctx active).view ctx.call = { t.view ctx.call with
        told := (t.view ctx.call).told ++ (if active then [] else [-EPERM])
        allowed := some active } := by
  have hcontexts : (suggestOut t ctx active).contexts =
      t.contexts.map fun c => if c.call = ctx.call then { c with onPlay := false } else c := by
    rw [suggestOut, if_pos honPlay]
    cases active <;> rfl
  refine ⟨?_, ?_, fun c hc => ?_, fun c hc hcall => ?_, fun other hother => ?_, ?_⟩
  · rw [suggestOut, if_pos honPlay]
    cases active <;> rfl
  · rw [suggestOut, if_pos honPlay]
    cases active <;> rfl
  · rw [hcontexts] at hc
    obtain ⟨old, hold, rfl⟩ := List.mem_map.1 hc
    refine ⟨old, hold, ?_, ?_⟩
    · split <;> rfl
    · split
      · intro hfalse
        cases hfalse
      · exact id
  · rw [hcontexts] at hc
    obtain ⟨old, -, rfl⟩ := List.mem_map.1 hc
    by_cases hsame : old.call = ctx.call
    · rw [if_pos hsame]
    · rw [if_neg hsame] at hcall
      exact absurd hcall hsame
  · have hne : (other == ctx.call) = false := by simpa using hother
    rw [suggestOut, if_pos honPlay]
    cases active <;> simp [view, tell, List.lookup_append, List.lookup_cons, hne, hother.symm]
  · have hnone : t.allowed.lookup ctx.call = none := hallowed
    rw [suggestOut, if_pos honPlay]
    cases active <;> simp [view, tell, List.lookup_append, hnone]

/-- The first suggestion to a call, where `t` is the state behind the switch. -/
theorem Waits.out (h : s.Waits) (hctx : ctx ∈ s.contexts) (honPlay : ctx.onPlay = true) (hmade : t.made = s.made)
    (haccepted : t.accepted = s.accepted) (hnarrows : s.Narrows t)
    (hother : ∀ other, other ≠ ctx.call → t.view other = s.view other) (hallowed : (t.view ctx.call).allowed = none)
    (hstage : StartView.Stage { t.view ctx.call with
      told := (t.view ctx.call).told ++ (if active then [] else [-EPERM])
      allowed := some active }) : (suggestOut t ctx active).Waits := by
  obtain ⟨hmade', haccepted', hnarrows', hnone, hother', hview⟩ := suggestOut_frame active honPlay hallowed
  refine h.touch ctx.call (hmade'.trans hmade) (haccepted'.trans haccepted) (fun c hc => ?_)
    (fun other hne => (hother' other hne).trans (hother other hne)) (h.known ctx hctx) hnone fun _ => hview ▸ hstage
  obtain ⟨old, hold, hsame, hwas⟩ := hnarrows' c hc
  obtain ⟨older, holder, hsame', hwas'⟩ := hnarrows old hold
  exact ⟨older, holder, hsame'.trans hsame, fun hplay => hwas' (hwas hplay)⟩

/-- A suggestion that does not allow to play. -/
theorem Waits.deny (h : s.Waits) (hctx : ctx ∈ s.contexts) (hmade : t.made = s.made)
    (haccepted : t.accepted = s.accepted) (hnarrows : s.Narrows t) (hview : ∀ call, t.view call = s.view call) :
    (suggestOut t ctx false).Waits := by
  by_cases honPlay : ctx.onPlay = true
  · have hidle : t.view ctx.call = {} := (hview _).trans (h.idle ctx hctx honPlay)
    refine h.out hctx honPlay hmade haccepted hnarrows (fun other _ => hview other) (by rw [hidle]) ?_
    rw [hidle]
    exact .denied
  · rw [suggestOut, if_neg honPlay]
    exact h.same hmade haccepted hnarrows hview

/-- A suggestion that allows to play, where the start command has the callback and is not refused. -/
theorem Waits.allow (h : s.Waits) (hctx : ctx ∈ s.contexts) {send : SendOutcome}
    (hsend : ctx.onPlay = true → send ≠ .refused) :
    (suggestOut (if ctx.onPlay then s.start ctx.call true send else s) ctx true).Waits := by
  by_cases honPlay : ctx.onPlay = true
  · rw [if_pos honPlay]
    have hidle := h.idle ctx hctx honPlay
    have hnarrows : s.Narrows (s.start ctx.call true send) :=
      narrows_of_contexts (start_contexts s ctx.call true send).1
    have hother : ∀ other, other ≠ ctx.call → (s.start ctx.call true send).view other = s.view other :=
      fun other hne => view_start_other hne send
    cases send with
    | sent =>
      refine h.out hctx honPlay rfl rfl hnarrows hother ?_ ?_
      · rw [view_sent_same, hidle]
      · rw [view_sent_same, hidle]
        exact .started
    | refused => exact absurd rfl (hsend honPlay)
    | dropped =>
      -- the callback is called before the start returns
      have hview : (s.start ctx.call true .dropped).view ctx.call =
          { s.view ctx.call with
            told := (s.view ctx.call).told ++ [-ECANCELED]
            results := (s.view ctx.call).results ++ [-ECANCELED] } :=
        view_ended_same
      refine h.out hctx honPlay rfl rfl hnarrows hother ?_ ?_
      · rw [hview, hidle]
      · rw [hview, hidle]
        exact .ended (-ECANCELED)
  · rw [if_neg honPlay, suggestOut, if_neg honPlay]
    exact h

/-- A suggestion, where a start that is not to be heard has the callback, or is not the first answer. -/
theorem Waits.suggested (quiet : Bool) (h : s.Waits) (hctx : ctx ∈ s.contexts)
    (hplay : ctx.stream = true → ctx.onPlay = true →
      suggest = MEDIA_FOCUS_PLAY ∨ suggest = MEDIA_FOCUS_PLAY_BUT_SILENT ∨ suggest = MEDIA_FOCUS_PLAY_WITH_DUCK →
        o.start ≠ .refused ∧ (quiet = false → suggest = MEDIA_FOCUS_PLAY)) :
    (suggestCb quiet s ctx suggest o).Waits := by
  have hself : s.Narrows s := narrows_of_contexts rfl
  unfold suggestCb
  by_cases hstream : ctx.stream = true
  · rw [if_pos hstream]
    unfold suggestSwitch
    by_cases hloud : suggest = MEDIA_FOCUS_PLAY
    · rw [if_pos hloud]
      exact h.allow hctx fun honPlay => (hplay hstream honPlay (.inl hloud)).1
    rw [if_neg hloud]
    by_cases hquiet : suggest = MEDIA_FOCUS_PLAY_BUT_SILENT ∨ suggest = MEDIA_FOCUS_PLAY_WITH_DUCK
    · rw [if_pos hquiet]
      by_cases honPlay : ctx.onPlay = true
      · obtain ⟨hsend, hcb⟩ := hplay hstream honPlay (.inr hquiet)
        -- only a recorder comes here: the callback goes with its start
        have hquiet' : quiet = true := by
          by_contra hfalse
          exact hloud (hcb (by simpa using hfalse))
        rw [hquiet']
        exact h.allow hctx fun _ => hsend
      · dsimp only
        rw [if_neg honPlay, suggestOut, if_neg honPlay]
        exact h
    rw [if_neg hquiet]
    by_cases hstop : suggest = MEDIA_FOCUS_STOP
    · rw [if_pos hstop]
      obtain ⟨hmade, haccepted, hnarrows, hview⟩ := abandon_frame s o.abandon
      exact h.deny hctx hmade haccepted hnarrows hview
    · rw [if_neg hstop]
      exact h.deny hctx rfl rfl hself fun _ => rfl
  · rw [if_neg hstream]
    exact h.deny hctx rfl rfl hself fun _ => rfl

/-- A call of `start_auto` has a number of its own. -/
theorem Waits.called (h : s.Waits) : ({ s with made := s.made + 1 } : AutoStarts).Waits where
  known ctx hctx := Nat.lt_succ_of_lt (h.known ctx hctx)
  idle := h.idle
  fresh call hcall := h.fresh call (Nat.le_of_succ_le hcall)
  staged call hcall := ⟨Nat.lt_succ_of_lt (h.staged call hcall).1, (h.staged call hcall).2⟩

/-- A call is accepted. -/
theorem Waits.accept (call : Nat) (h : s.Waits) (hcall : call < s.made) {allowed : List (Nat × Bool)}
    (hother : ∀ other, other ≠ call → ({ s with allowed } : AutoStarts).view other = s.view other)
    (hnone : ∀ ctx ∈ s.contexts, ctx.call = call → ctx.onPlay = true → allowed = s.allowed)
    (hstage : (({ s with allowed } : AutoStarts).view call).Stage) :
    ({ s with accepted := s.accepted ++ [call], allowed } : AutoStarts).Waits where
  known := h.known
  idle ctx hctx hplay := by
    by_cases hsame : ctx.call = call
    · rw [hnone ctx hctx hsame hplay]
      exact h.idle ctx hctx hplay
    · exact (hother _ hsame).trans (h.idle ctx hctx hplay)
  fresh c hc := (hother c (Nat.ne_of_gt (Nat.lt_of_lt_of_le hcall hc))).trans (h.fresh c hc)
  staged c hc := by
    by_cases hsame : c = call
    · rw [hsame]
      exact ⟨hcall, hstage⟩
    · rcases List.mem_append.1 hc with hold | hnew
      · exact ⟨(h.staged c hold).1, (hother c hsame).symm ▸ (h.staged c hold).2⟩
      · exact absurd (List.mem_singleton.1 hnew) hsame

/-- The contexts of a call that was just made. -/
theorem Waits.no_context (h : s.Waits) : ∀ ctx ∈ s.contexts, ctx.call ≠ s.made :=
  fun ctx hctx => Nat.ne_of_lt (h.known ctx hctx)

/-- A start that is forced. -/
theorem Waits.forced (h : s.Waits) (send : SendOutcome) :
    let t := ({ s with made := s.made + 1 } : AutoStarts).start s.made true send
    if send = .sent then
      ({ t with accepted := t.accepted ++ [s.made], allowed := t.allowed ++ [(s.made, true)] } : AutoStarts).Waits
    else t.Waits := by
  have hstart := start_contexts { s with made := s.made + 1 } s.made true send
  have hfresh := h.fresh s.made (Nat.le_refl _)
  have hother : ∀ other, other ≠ s.made →
      (({ s with made := s.made + 1 } : AutoStarts).start s.made true send).view other = s.view other :=
    fun other hne => view_start_other hne send
  dsimp only
  have ht : (({ s with made := s.made + 1 } : AutoStarts).start s.made true send).Waits := by
    refine h.called.touch s.made hstart.2.1 hstart.2.2 (narrows_of_contexts hstart.1) hother
      (Nat.lt_succ_self _) (fun c hc hsame => ?_) fun hacc => ?_
    · rw [hstart.1] at hc
      exact absurd hsame (h.no_context c hc)
    · exact absurd (h.staged s.made hacc).1 (Nat.lt_irrefl _)
  split
  · rename_i hsent
    subst hsent
    have hview :
        (({ s with made := s.made + 1 } : AutoStarts).start s.made true .sent).view s.made = { asked := 1 } := by
      rw [view_sent_same]
      change { s.view s.made with asked := (s.view s.made).asked + 1 } = _
      rw [hfresh]
    refine ht.accept s.made (hstart.2.1 ▸ Nat.lt_succ_self _) (fun other hne => view_allow_other hne true)
      (fun c hc hsame _ => ?_) ?_
    · rw [hstart.1] at hc
      exact absurd hsame (h.no_context c hc)
    · rw [view_allow_same (by rw [hview]), hview]
      exact .started
  · exact ht

/-- A focus is requested. -/
theorem Waits.requested (h : s.Waits) (cb : Bool) :
    ({ s with
      made := s.made + 1, focus := some s.made, contexts := s.contexts ++ [{ call := s.made, onPlay := cb }] } :
        AutoStarts).Waits where
  known ctx hctx := by
    rcases List.mem_append.1 hctx with hold | hnew
    · exact Nat.lt_succ_of_lt (h.known ctx hold)
    · rw [List.mem_singleton.1 hnew]
      exact Nat.lt_succ_self _
  idle ctx hctx hplay := by
    rcases List.mem_append.1 hctx with hold | hnew
    · exact h.idle ctx hold hplay
    · rw [List.mem_singleton.1 hnew]
      exact h.fresh s.made (Nat.le_refl _)
  fresh := h.called.fresh
  staged := h.called.staged

theorem Waits.startAuto (h : s.Waits) {request : Bool} {send : SendOutcome}
    (hs : autoStartNext player s (.startAuto cb request send) = some s') : s'.Waits := by
  have hfresh := h.fresh s.made (Nat.le_refl _)
  simp only [autoStartNext, mediaUvStreamStartAutoCall, Option.some.injEq] at hs
  by_cases hfocus : s.focus.isSome = true
  · -- the focus is there already
    simp only [if_pos hfocus] at hs
    have hforced := h.forced send
    dsimp only at hforced
    cases cb with
    | false =>
      rw [if_neg (by simp)] at hs
      exact hs ▸ h.called
    | true =>
      by_cases hsent : send = .sent
      · rw [if_pos hsent] at hforced
        rw [if_pos ⟨if_pos hsent, rfl⟩] at hs
        exact hs ▸ hforced
      · rw [if_neg hsent] at hforced
        rw [if_neg (by simp [hsent, ECANCELED])] at hs
        exact hs ▸ hforced
  · simp only [if_neg hfocus] at hs
    cases request with
    | false =>
      simp only [mediaUvStreamRequestFocus, Bool.false_eq_true, if_false] at hs
      rw [if_neg (by simp [ENOMEM])] at hs
      exact hs ▸ h.called
    | true =>
      rw [mediaUvStreamRequestFocus, if_pos rfl] at hs
      have hrequested := h.requested cb
      cases cb with
      | false =>
        rw [if_neg (by simp)] at hs
        exact hs ▸ hrequested
      | true =>
        rw [if_pos ⟨rfl, rfl⟩] at hs
        refine hs ▸ hrequested.accept s.made (Nat.lt_succ_self _) (fun _ _ => rfl) (fun _ _ _ _ => rfl) ?_
        change (s.view s.made).Stage
        rw [hfresh]
        exact .waiting

theorem Waits.replied (h : s.Waits) {command : StartCommand} (hmem : command ∈ s.starts) (ret : Int) :
    (AutoStarts.ended { s with starts := s.starts.erase command } command.call command.cb ret).Waits := by
  obtain ⟨call, cb⟩ := command
  have hcount : 0 < s.starts.count ⟨call, cb⟩ := List.count_pos_iff.2 hmem
  have hbusy : s.view call ≠ {} := by
    intro hidle
    have hasked : s.starts.count ⟨call, true⟩ = 0 := congrArg StartView.asked hidle
    have hmute : s.starts.count ⟨call, false⟩ = 0 := congrArg StartView.mute hidle
    cases cb <;> omega
  have hlt : call < s.made := by
    by_contra hge
    exact hbusy (h.fresh call (Nat.le_of_not_lt hge))
  have hframe : (AutoStarts.ended { s with starts := s.starts.erase ⟨call, cb⟩ } call cb ret).contexts = s.contexts ∧
      (AutoStarts.ended { s with starts := s.starts.erase ⟨call, cb⟩ } call cb ret).made = s.made ∧
      (AutoStarts.ended { s with starts := s.starts.erase ⟨call, cb⟩ } call cb ret).accepted = s.accepted := by
    cases cb <;> exact ⟨rfl, rfl, rfl⟩
  refine h.touch call hframe.2.1 hframe.2.2 (narrows_of_contexts hframe.1) (fun other hne => ?_)
    hlt (fun c hc hsame => ?_) fun hacc => ?_
  · rw [view_ended_other hne]
    have herase : ∀ b, (s.starts.erase ⟨call, cb⟩).count ⟨other, b⟩ = s.starts.count ⟨other, b⟩ := fun b =>
      List.count_erase_of_ne fun heq => hne (congrArg StartCommand.call heq)
    simp [view, herase]
  · rw [hframe.1] at hc
    by_contra honPlay
    exact hbusy (hsame ▸ h.idle c hc (by simpa using honPlay))
  · -- the call waits for this start command
    have hstage := (h.staged call hacc).2
    generalize hview : s.view call = v at hstage
    cases hstage with
    | waiting => exact absurd hview hbusy
    | started =>
      have hasked : s.starts.count ⟨call, true⟩ = 1 := congrArg StartView.asked hview
      have hmute : s.starts.count ⟨call, false⟩ = 0 := congrArg StartView.mute hview
      cases cb with
      | false => omega
      | true =>
        have hleft : ({ s with starts := s.starts.erase ⟨call, true⟩ } : AutoStarts).view call =
            { allowed := some true } := by
          have hasked' : (s.starts.erase ⟨call, true⟩).count ⟨call, true⟩ = 0 := by
            rw [List.count_erase_self, hasked]
          have hmute' : (s.starts.erase ⟨call, true⟩).count ⟨call, false⟩ = 0 := by
            rw [List.count_erase_of_ne (by simp), hmute]
          calc ({ s with starts := s.starts.erase ⟨call, true⟩ } : AutoStarts).view call
            _ = { s.view call with
                  asked := (s.starts.erase ⟨call, true⟩).count ⟨call, true⟩
                  mute := (s.starts.erase ⟨call, true⟩).count ⟨call, false⟩ } := rfl
            _ = _ := by rw [hview, hasked', hmute']
        dsimp only
        rw [view_ended_same, hleft]
        exact .ended ret
    | ended ret' =>
      have hasked : s.starts.count ⟨call, true⟩ = 0 := congrArg StartView.asked hview
      have hmute : s.starts.count ⟨call, false⟩ = 0 := congrArg StartView.mute hview
      cases cb <;> omega
    | denied =>
      have hasked : s.starts.count ⟨call, true⟩ = 0 := congrArg StartView.asked hview
      have hmute : s.starts.count ⟨call, false⟩ = 0 := congrArg StartView.mute hview
      cases cb <;> omega

theorem Waits.next (h : s.Waits) (hg : PlaysAloud player s i) (hs : (autoStartMachine player).next s i = some s') :
    s'.Waits := by
  change autoStartNext player s i = some s' at hs
  cases i with
  | startAuto cb request send => exact h.startAuto hs
  | abandon done =>
    cases hs
    exact h.abandon done
  | suggest call suggest o =>
    obtain ⟨ctx, hfound, rfl⟩ := Option.map_eq_some_iff.1 hs
    have hctx := List.mem_of_find?_eq_some hfound
    have hplay := hg ctx hfound
    cases player with
    | false =>
      exact h.suggested true hctx fun hstream honPlay hallow =>
        ⟨(hplay hstream honPlay hallow).1, fun hfalse => absurd hfalse (by decide)⟩
    | true =>
      exact h.suggested false hctx fun hstream honPlay hallow =>
        ⟨(hplay hstream honPlay hallow).1, fun _ => (hplay hstream honPlay hallow).2 rfl⟩
  | reply command ret =>
    simp only [autoStartNext] at hs
    split at hs
    · rename_i hmem
      cases hs
      exact h.replied hmem ret
    · cases hs
  | free call =>
    cases hs
    exact h.same rfl rfl (fun c hc => ⟨c, (List.mem_filter.1 hc).1, rfl, id⟩) fun _ => rfl

end AutoStarts

/-! ### Runs -/

/-- When a first suggestion to a player that allows to play is `MEDIA_FOCUS_PLAY`, and the start command is not
refused, each call of `start_auto` is reported once. -/
theorem autoStarts_allReported (player : Bool) (h : (autoStartMachine player).ReachableVia (PlaysAloud player) s) :
    s.AllReported := by
  have hwaits : s.Waits :=
    h.invariant ⟨by simp [autoStartMachine], by simp [autoStartMachine], fun _ _ => rfl, by simp [autoStartMachine]⟩
      fun _ _ _ hs hg hnext => hs.next hg hnext
  exact fun call hcall => (hwaits.staged call hcall).2.reported

/-- A call is allowed to play, a second one is forced, a third one is stopped before its suggestion comes. -/
def sampleAutoStarts : List AutoStartInput :=
  [.startAuto true true .sent, .suggest 0 MEDIA_FOCUS_PLAY ⟨.sent, true⟩, .startAuto true true .sent,
    .reply ⟨1, true⟩ 0, .abandon true, .startAuto true true .sent, .abandon true, .reply ⟨0, true⟩ (-ECANCELED),
    .suggest 2 MEDIA_FOCUS_PLAY_BUT_SILENT ⟨.refused, true⟩, .free 0]

theorem sampleAutoStarts_possible :
    ((autoStartMachine true).runFrom (PlaysAloud true) (autoStartMachine true).start sampleAutoStarts).isSome := by
  decide

theorem autoStarts_allReported_sample :
    (((autoStartMachine true).runFrom (PlaysAloud true) (autoStartMachine true).start sampleAutoStarts).get
      sampleAutoStarts_possible).AllReported :=
  autoStarts_allReported true (Machine.reachableVia_get sampleAutoStarts_possible)

/-- A player is to play in silence. -/
def sampleSilent : List AutoStartInput :=
  [.startAuto true true .sent, .suggest 0 MEDIA_FOCUS_PLAY_BUT_SILENT ⟨.sent, true⟩, .reply ⟨0, false⟩ 0]

theorem sampleSilent_possible :
    ((autoStartMachine true).runFrom (fun _ _ => True) (autoStartMachine true).start sampleSilent).isSome := by decide

/-- The start command has succeeded, and the callback was not called. -/
theorem autoStarts_not_allReported : ¬ ∀ player s, (autoStartMachine player).Reachable s → s.AllReported := by
  intro h
  have hall := h true _ (Machine.reachableVia_get sampleSilent_possible)
  revert hall
  decide

/-- A recorder that is to record in silence is started with the callback. -/
example : ((autoStartMachine false).runFrom (fun _ _ => True) (autoStartMachine false).start
    [.startAuto true true .sent, .suggest 0 MEDIA_FOCUS_PLAY_BUT_SILENT ⟨.sent, true⟩, .reply ⟨0, true⟩ 0]).map
      AutoStarts.told = some [(0, 0)] := by decide

end MediaFramework
