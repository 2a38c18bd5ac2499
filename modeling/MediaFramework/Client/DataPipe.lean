import MediaFramework.Client.PipeStages

/-!
# The data pipe of an asynchronous stream is reported once per prepare

A prepare in buffer mode keeps `on_connection` until a server connects, or until stop, reset or close cancel it.  It is
kept before the requests of the prepare are sent, which may fail, and it is cleared after it was called: code that
cancels while it is running calls it again, and throws away what was prepared in between.

The runs are those of the stream, with a record of the prepares.
-/

namespace MediaFramework

open Machine

/-! ### The record -/

/-- A call of `on_connection` with the number of its prepare, its result, and whether it gets a pipe. -/
structure PipeCall where
  prepare : Nat
  ret : Int
  pipe : Bool
  deriving DecidableEq

/-- The number of prepares that have set `on_connection`, the one whose callback it is, the one whose request is still
to be sent, those that returned 0 and those that returned an error, and the calls of `on_connection`. -/
structure PipeRecord where
  made : Nat := 0
  current : Option Nat := none
  sending : Option Nat := none
  accepted : List Nat := []
  failed : List Nat := []
  told : List PipeCall := []
  deriving DecidableEq

namespace PipeRecord

variable (h : PipeRecord)

/-- `on_connection` is called. -/
def tell (ret : Int) (pipe : Bool) : PipeRecord :=
  { h with told := h.told ++ h.current.toList.map fun prepare => ⟨prepare, ret, pipe⟩ }

/-- A prepare has set `on_connection`; `ret` is what its request for the options returns. -/
def prepared (ret : Int) : PipeRecord :=
  let h' := { h with made := h.made + 1, current := some h.made }
  if ret < 0 then { h' with failed := h.failed ++ [h.made] } else { h' with sending := some h.made }

/-- A command was sent, which may be that of the prepare. -/
def sent (ret : Int) : PipeRecord :=
  if ret < 0 then { h with sending := none, failed := h.failed ++ h.sending.toList }
  else { h with sending := none, accepted := h.accepted ++ h.sending.toList }

/-- What a frame does to `on_connection`. -/
def ran (s : StreamRun) (o : StreamOutcome) : StreamFrame → PipeRecord
  | .sendCommand _ => h.sent (sendRet s o)
  | .closePipe => if s.priv.onConnection then h.tell (-ECANCELED) false else h
  | .connectionTold => { h with current := none }
  | _ => h

def note (s : StreamRun) (i : StreamInput × StreamOutcome) (s' : StreamRun) (h : PipeRecord) : PipeRecord :=
  match i.1 with
  | .prepare _ options _ =>
    if s.priv.onConnection = false ∧ s'.priv.onConnection = true then
      h.prepared (if options then sendRet s i.2 else 0)
    else h
  | .run => s.stack.head?.elim h (h.ran s i.2)
  | .connectionCb _ _ => if .connectionTold ∈ s'.stack then h.tell 0 s'.priv.pipe else h
  | _ => h

/-- How often `on_connection` was called for a prepare. -/
def calls (prepare : Nat) : Nat := h.told.countP fun call => call.prepare = prepare

end PipeRecord

def dataPipeMachine (player onOpen connected : Bool) :
    Machine (StreamRun × PipeRecord) (StreamInput × StreamOutcome) :=
  (streamMachine player onOpen connected).recorded {} PipeRecord.note

/-! ### The property -/

/-- `on_connection` of an accepted prepare was called once, unless it is still to be called; it gets the pipe, or
`-ECANCELED`; when the stream is freed none is left, and a prepare that returned an error has left none. -/
structure PipeReported (p : StreamRun × PipeRecord) : Prop where
  once : ∀ prepare ∈ p.2.accepted,
    p.2.calls prepare = if p.2.current = some prepare ∧ .connectionTold ∉ p.1.stack then 0 else 1
  ended : ∀ call ∈ p.2.told, call.ret = 0 ∧ call.pipe = true ∨ call.ret = -ECANCELED ∧ call.pipe = false
  freed : p.1.freed = true → p.2.current = none
  failed : ∀ prepare ∈ p.2.failed, p.2.current ≠ some prepare

instance (p : StreamRun × PipeRecord) : Decidable (PipeReported p) :=
  decidable_of_iff ((∀ _ ∈ _, _) ∧ (∀ _ ∈ _, _) ∧ (_ → _) ∧ ∀ _ ∈ _, _) ⟨fun h => ⟨h.1, h.2.1, h.2.2.1, h.2.2.2⟩,
    fun h => ⟨h.1, h.2, h.3, h.4⟩⟩

/-- The requests of a prepare that sets `on_connection`, for it has listeners, are sent; stop, reset and close are not
called by an `on_connection` that is running; and the stream is not freed by a close whose request fails while
`on_connection` is still to be called. -/
def PipeOrderly (p : StreamRun × PipeRecord) : StreamInput × StreamOutcome → Prop
  | (.prepare dataPipe options _, o) =>
    dataPipe = true → options = true → p.1.priv.onConnection = false → 0 ≤ (mediaUvStreamListenInit p.1 o).1 →
      0 ≤ sendRet p.1 o
  | (.run, o) =>
    (p.2.sending ≠ none → 0 ≤ sendRet p.1 o) ∧
      (p.1.stack.head? = some .closeFailed → p.1.priv.onConnection = true → p.1.disconnect = false →
        p.1.pipes = true ∨ p.1.priv.listeners ≠ [] ∨ p.1.priv.expected ≠ [])
  | (.stop _, _) | (.close, _) => .connectionTold ∉ p.1.stack
  | _ => True

instance (p : StreamRun × PipeRecord) : (i : StreamInput × StreamOutcome) → Decidable (PipeOrderly p i)
  | (.prepare _ _ _, _) => inferInstanceAs (Decidable (_ → _ → _ → _ → _))
  | (.run, _) => inferInstanceAs (Decidable ((_ → _) ∧ (_ → _ → _ → _)))
  | (.stop _, _) | (.close, _) => inferInstanceAs (Decidable (_ ∉ _))
  | (.userReturns, _) | (.connectCb _, _) | (.receive _ _, _) | (.eventCb _, _) | (.releaseCb, _)
  | (.proxyPipes _, _) | (.connectionCb _ _, _) | (.listenCloseCb _, _) | (.volumeCb, _) | (.suggestCb _, _)
  | (.listen, _) | (.pause _, _) | (.startAuto _, _) | (.send _, _) | (.query, _) => inferInstanceAs (Decidable True)

/-! ### The count -/

variable {s t : StreamRun} {h : PipeRecord} {o : StreamOutcome} {f : StreamFrame} {frames stack : List StreamFrame}

theorem calls_tell (h : PipeRecord) (ret : Int) (pipe : Bool) (prepare : Nat) :
    (h.tell ret pipe).calls prepare = h.calls prepare + if h.current = some prepare then 1 else 0 := by
  rw [PipeRecord.calls, PipeRecord.tell, List.countP_append]
  cases hcurrent : h.current with
  | none => rfl
  | some current =>
    by_cases hsame : current = prepare
    · simp [PipeRecord.calls, hsame]
    · simp [PipeRecord.calls, hsame]

/-- What the record says of the stream. -/
structure Piped (s : StreamRun) (h : PipeRecord) : Prop where
  current : h.current.isSome = s.priv.onConnection
  fresh : ∀ prepare ∈ h.current, prepare < h.made
  accepted : ∀ prepare ∈ h.accepted, prepare < h.made
  told : ∀ call ∈ h.told, call.prepare < h.made
  failed : h.failed = []
  sending : ∀ prepare ∈ h.sending, h.current = some prepare ∧ ∃ cb rest, s.stack = .sendCommand cb :: rest
  ended : ∀ call ∈ h.told, call.ret = 0 ∧ call.pipe = true ∨ call.ret = -ECANCELED ∧ call.pipe = false
  past : ∀ prepare ∈ h.accepted, h.current ≠ some prepare → h.calls prepare = 1
  waiting : ∀ prepare ∈ h.current, h.calls prepare = if .connectionTold ∈ s.stack then 1 else 0
  proxy : s.priv.proxy = false → s.closed = true
  disconnect : s.disconnect = true → s.closed = true
  freeing : .freeStream ∈ s.stack ∨ s.freed = true → s.closed = true ∧ s.priv.onConnection = false
  stage : PipeStage s

namespace Piped

theorem reported (hp : Piped s h) : PipeReported (s, h) where
  once prepare hmem := by
    by_cases hcurrent : h.current = some prepare
    · rw [hp.waiting prepare hcurrent]
      by_cases htold : .connectionTold ∈ s.stack
      · rw [if_pos htold, if_neg (by simp [htold])]
      · rw [if_neg htold, if_pos ⟨hcurrent, htold⟩]
    · rw [if_neg fun hand => hcurrent hand.1]
      exact hp.past prepare hmem hcurrent
  ended := hp.ended
  freed hfreed := by
    have hnone := hp.current.trans (hp.freeing (.inr hfreed)).2
    exact Option.not_isSome_iff_eq_none.1 (by simp [hnone])
  failed prepare hmem := by
    rw [hp.failed] at hmem
    cases hmem

/-- No prepare is sending when the next frame is none that sends. -/
theorem not_sending (hp : Piped s h) (hhead : ∀ cb rest, s.stack ≠ .sendCommand cb :: rest) : h.sending = none := by
  cases hs : h.sending with
  | none => rfl
  | some prepare =>
    obtain ⟨-, cb, rest, hstack⟩ := hp.sending prepare hs
    exact absurd hstack (hhead cb rest)

theorem not_sending_of_user (hp : Piped s h) (huser : s.userRuns = true) : h.sending = none := by
  refine hp.not_sending fun cb rest hstack => ?_
  rw [StreamRun.userRuns, hstack] at huser
  cases huser

/-- Code that leaves `on_connection` as it is, and frees the stream only when none is kept. -/
theorem passTo (hp : Piped s h) (frames : List StreamFrame) (ht : PassesOn s t frames) (hsending : h.sending = none)
    (hfree : .freeStream ∈ frames → s.priv.onConnection = false) (hstage : PipeStage t) : Piped t h := by
  have htold : .connectionTold ∈ t.stack ↔ .connectionTold ∈ s.stack := by
    rw [ht.stack, List.mem_append]
    exact ⟨fun hmem => hmem.resolve_left (not_told ht.quiet), .inr⟩
  have hclosed : s.priv.proxy = false ∨ s.closed = true → t.closed = true := by
    rintro (hgone | hclosed)
    · exact ht.closed.trans (hp.proxy hgone)
    · exact ht.closed.trans hclosed
  refine ⟨hp.current.trans ht.onConnection.symm, hp.fresh, hp.accepted, hp.told, hp.failed, by simp [hsending],
    hp.ended, hp.past, fun prepare hmem => ?_, fun hgone => hclosed (ht.proxy hgone), fun hset => ?_,
    fun hgone => ?_, hstage⟩
  · rw [hp.waiting prepare hmem]
    simp only [htold]
  · rcases ht.disconnect hset with hdis | hc
    · exact ht.closed.trans (hp.disconnect hdis)
    · exact ht.closed.trans hc
  · rw [ht.stack, List.mem_append, ht.freed, or_assoc] at hgone
    rw [ht.closed, ht.onConnection]
    rcases hgone with hnew | hold
    · exact ⟨ht.closed.symm.trans (hclosed (ht.freeing hnew)), hfree hnew⟩
    · exact hp.freeing hold

theorem passOn (hp : Piped s h) (hopen : PipeOpen s) (hsending : h.sending = none)
    (hidle : s.closed = true → s.priv.onConnection = false) (ht : Passes s t) : Piped t h := by
  obtain ⟨frames, ht⟩ := ht
  refine hp.passTo frames ht hsending (fun hmem => hidle ?_) (.opened (hopen.passes hidle ht))
  rcases ht.freeing hmem with hgone | hclosed
  · exact hp.proxy hgone
  · exact hclosed

/-- A step of the user, or of somebody who calls the stream. -/
theorem passes (hp : Piped s h) (huser : s.userRuns = true) (hidle : s.closed = true → s.priv.onConnection = false)
    (ht : Passes s t) : Piped t h :=
  hp.passOn (hp.stage.of_user huser) (hp.not_sending_of_user huser) hidle ht

/-- When no code runs a stream that is closed keeps no `on_connection`. -/
theorem idle (hp : Piped s h) (hstack : s.stack = []) : s.closed = true → s.priv.onConnection = false := by
  cases hp.stage.of_user (by rw [StreamRun.userRuns, hstack]; rfl) with
  | calm hquiet hclosed => exact hclosed
  | telling frames rest hold => simp [hold] at hstack
  | released hclosed hnone htold => exact fun _ => hnone

/-! ### The frames -/

theorem popTo (hp : Piped s h) (hstack : s.stack = f :: stack) (hf : f ≠ .connectionTold) (hsending : h.sending = none)
    (hstage : PipeStage { s with stack }) : Piped { s with stack } h := by
  have htold : .connectionTold ∈ s.stack ↔ .connectionTold ∈ stack := by
    rw [hstack, List.mem_cons]
    exact ⟨fun hmem => hmem.resolve_left hf.symm, .inr⟩
  refine ⟨hp.current, hp.fresh, hp.accepted, hp.told, hp.failed, by simp [hsending], hp.ended, hp.past,
    fun prepare hmem => ?_, hp.proxy, hp.disconnect, fun hfree => ?_, hstage⟩
  · rw [hp.waiting prepare hmem]
    simp only [htold]
  · exact hp.freeing (hfree.imp_left fun hmem => hstack ▸ List.mem_cons_of_mem _ hmem)

theorem pop (hp : Piped s h) (hopen : PipeOpen s) (hstack : s.stack = f :: stack) (hf : f.isQuiet = true)
    (hsending : h.sending = none) : Piped { s with stack } h := by
  refine hp.popTo hstack ?_ hsending (.opened (hopen.pop hstack hf))
  rintro rfl
  cases hf

/-- The request of a prepare, if it is one, is sent. -/
theorem sent {ret : Int} (hp : Piped s h) (hret : h.sending ≠ none → 0 ≤ ret) :
    Piped s (h.sent ret) ∧ (h.sent ret).sending = none := by
  cases hs : h.sending with
  | none =>
    have hsame : h.sent ret = h := by
      unfold PipeRecord.sent
      rw [hs]
      cases h
      simp_all
    rw [hsame]
    exact ⟨hp, hs⟩
  | some prepare =>
    obtain ⟨hcurrent, -⟩ := hp.sending prepare hs
    have hsent : h.sent ret = { h with sending := none, accepted := h.accepted ++ [prepare] } := by
      rw [PipeRecord.sent, if_neg (Int.not_lt.2 (hret (by simp [hs]))), hs]
      rfl
    rw [hsent]
    refine ⟨⟨hp.current, hp.fresh, fun p hmem => ?_, hp.told, hp.failed, by simp, hp.ended, fun p hmem hne => ?_,
      hp.waiting, hp.proxy, hp.disconnect, hp.freeing, hp.stage⟩, rfl⟩
    · rcases List.mem_append.1 hmem with hold | hnew
      · exact hp.accepted p hold
      · rw [List.mem_singleton.1 hnew]
        exact hp.fresh prepare hcurrent
    · rcases List.mem_append.1 hmem with hold | hnew
      · exact hp.past p hold hne
      · rw [List.mem_singleton.1 hnew] at hne
        exact absurd hcurrent hne

/-- A frame runs that leaves the pipe alone. -/
theorem runQuiet (hp : Piped s h) (hopen : PipeOpen s) (hstack : s.stack = f :: stack) (hf : f.isQuiet = true)
    (huser : f ≠ .user) (hsending : h.sending = none) : Piped (runStreamFrame { s with stack } o f) h := by
  have hpop := hp.pop hopen hstack hf hsending
  by_cases hfree : f = .freeStream
  · have hgone := hp.freeing (.inl (by rw [hstack, hfree]; exact List.mem_cons_self))
    rw [hfree]
    exact ⟨hpop.current, hpop.fresh, hpop.accepted, hpop.told, hpop.failed, hpop.sending, hpop.ended, hpop.past,
      hpop.waiting, hpop.proxy, hpop.disconnect, fun _ => hgone, .opened ((hopen.pop hstack hf).congr rfl rfl rfl)⟩
  · exact hpop.passOn (hopen.pop hstack hf) hsending (hopen.idle hstack hf huser) (Passes.runFrame hf hfree)

/-- `on_connection` is called, and is not cleared yet. -/
theorem tell {ret : Int} {pipe : Bool} (stack : List StreamFrame) (hp : Piped s h) (hkept : s.priv.onConnection = true)
    (hnot : .connectionTold ∉ s.stack) (hsending : h.sending = none)
    (hend : ret = 0 ∧ pipe = true ∨ ret = -ECANCELED ∧ pipe = false)
    (hstack : t.stack = .user :: .connectionTold :: stack) (hquiet : ∀ f ∈ stack, f.isQuiet = true)
    (hfree : .freeStream ∈ stack → .freeStream ∈ s.stack) (honConnection : t.priv.onConnection = s.priv.onConnection)
    (hclosed : t.closed = s.closed) (hfreed : t.freed = s.freed) (hproxy : t.priv.proxy = s.priv.proxy)
    (hdisconnect : t.disconnect = s.disconnect) : Piped t (h.tell ret pipe) := by
  obtain ⟨prepare, hcurrent⟩ := Option.isSome_iff_exists.1 (hp.current.trans hkept)
  have htold : (h.tell ret pipe).told = h.told ++ [⟨prepare, ret, pipe⟩] := by
    rw [PipeRecord.tell, hcurrent]
    rfl
  have hmem : .connectionTold ∈ t.stack := by
    rw [hstack]
    exact List.mem_cons_of_mem _ List.mem_cons_self
  refine ⟨hp.current.trans honConnection.symm, hp.fresh, hp.accepted, fun call hcall => ?_, hp.failed,
    fun p hs => ?_, fun call hcall => ?_, fun p hp' hne => ?_, fun p hcur => ?_, fun hgone => ?_, fun hset => ?_,
    fun hgone => ?_, ?_⟩
  · rw [htold] at hcall
    rcases List.mem_append.1 hcall with hold | hnew
    · exact hp.told call hold
    · rw [List.mem_singleton.1 hnew]
      exact hp.fresh prepare hcurrent
  · cases hsending.symm.trans hs
  · rw [htold] at hcall
    rcases List.mem_append.1 hcall with hold | hnew
    · exact hp.ended call hold
    · rw [List.mem_singleton.1 hnew]
      exact hend
  · rw [calls_tell, if_neg (show ¬ h.current = some p from hne)]
    exact hp.past p hp' hne
  · have hwaiting := hp.waiting p hcur
    rw [if_neg hnot] at hwaiting
    rw [calls_tell, hwaiting, if_pos (show h.current = some p from hcur), if_pos hmem]
  · exact hclosed.trans (hp.proxy (hproxy.symm.trans hgone))
  · exact hclosed.trans (hp.disconnect (hdisconnect.symm.trans hset))
  · rw [hclosed, honConnection]
    refine hp.freeing (hgone.imp (fun hin => ?_) fun hf => hfreed.symm.trans hf)
    rw [hstack] at hin
    simp only [List.mem_cons] at hin
    rcases hin with heq | heq | hin
    · cases heq
    · cases heq
    · exact hfree hin
  · refine .opened (.telling [.user] stack hstack (by simp [StreamFrame.isQuiet]) hquiet
      (honConnection.trans hkept) fun _ => by simp)

/-- The pipe is closed. -/
theorem runClosePipe (hp : Piped s h) (hstack : s.stack = .closePipe :: stack) :
    Piped (runStreamFrame { s with stack } o .closePipe) (h.ran s o .closePipe) := by
  have hsending : h.sending = none := hp.not_sending (by simp [hstack])
  have hsame : ∀ t : StreamRun, t.stack = stack → t.priv.onConnection = false → s.priv.onConnection = false →
      t.closed = s.closed → t.freed = s.freed → t.priv.proxy = s.priv.proxy → t.disconnect = s.disconnect →
      PipeStage t → Piped t h := by
    intro t ht hnone hnone' hclosed hfreed hproxy hdisconnect hstage
    have hcurrent : h.current = none := Option.not_isSome_iff_eq_none.1 (by simp [hp.current, hnone'])
    refine ⟨hp.current.trans (hnone'.trans hnone.symm), hp.fresh, hp.accepted, hp.told, hp.failed, by simp [hsending],
      hp.ended, hp.past, by simp [hcurrent], fun hgone => hclosed.trans (hp.proxy (hproxy.symm.trans hgone)),
      fun hset => hclosed.trans (hp.disconnect (hdisconnect.symm.trans hset)), fun hfree => ?_, hstage⟩
    have hold := hp.freeing (hfree.imp (fun hmem => ?_) fun hf => hfreed.symm.trans hf)
    · exact ⟨hclosed.trans hold.1, hnone⟩
    · rw [hstack]
      exact List.mem_cons_of_mem _ (ht ▸ hmem)
  rw [PipeRecord.ran]
  unfold runStreamFrame
  dsimp only
  cases hkept : s.priv.onConnection with
  | false =>
    simp only [Bool.false_eq_true, if_false]
    refine hsame _ rfl rfl hkept rfl rfl rfl rfl (.opened ?_)
    rcases hp.stage.below_closePipe hstack with hquiet | ⟨hclosed, -, htold⟩
    · exact .calm hquiet fun _ => rfl
    · exact .released hclosed rfl htold
  | true =>
    simp only [if_true]
    have hquiet : ∀ f ∈ stack, f.isQuiet = true := by
      rcases hp.stage.below_closePipe hstack with hquiet | ⟨-, hnone, -⟩
      · exact hquiet
      · cases hkept.symm.trans hnone
    refine hp.tell stack hkept ?_ hsending (.inr ⟨rfl, rfl⟩) rfl hquiet (fun hmem => ?_) hkept.symm rfl rfl
      rfl rfl
    · rw [hstack, List.mem_cons]
      rintro (heq | hmem)
      · cases heq
      · exact not_told hquiet hmem
    · rw [hstack]
      exact List.mem_cons_of_mem _ hmem

/-- `on_connection` has returned, and is cleared. -/
theorem runConnectionTold (hp : Piped s h) (hstack : s.stack = .connectionTold :: stack) :
    Piped (runStreamFrame { s with stack } o .connectionTold) (h.ran s o .connectionTold) := by
  have hsending : h.sending = none := hp.not_sending (by simp [hstack])
  have hmem : .connectionTold ∈ s.stack := by
    rw [hstack]
    exact List.mem_cons_self
  have hquiet := hp.stage.below_connectionTold hstack
  refine ⟨rfl, by simp [PipeRecord.ran], hp.accepted, hp.told, hp.failed, by simp [PipeRecord.ran, hsending], hp.ended,
    fun prepare hacc _ => ?_, by simp [PipeRecord.ran], hp.proxy, hp.disconnect, fun hfree => ?_,
    .opened (.calm hquiet fun _ => rfl)⟩
  · -- the prepare whose callback has returned was told once, and is not the current one any more
    by_cases hcurrent : h.current = some prepare
    · exact (hp.waiting prepare hcurrent).trans (if_pos hmem)
    · exact hp.past prepare hacc hcurrent
  · exact ⟨(hp.freeing (hfree.imp_left fun hin => hstack ▸ List.mem_cons_of_mem _ hin)).1, rfl⟩

/-- The request of a close has failed, and the proxy is disconnected. -/
theorem runCloseFailed (hp : Piped s h) (hstack : s.stack = .closeFailed :: stack)
    (hheld : s.priv.onConnection = true → s.disconnect = false →
      s.pipes = true ∨ s.priv.listeners ≠ [] ∨ s.priv.expected ≠ []) :
    Piped (runStreamFrame { s with stack } o .closeFailed) h := by
  have hsending : h.sending = none := hp.not_sending (by simp [hstack])
  obtain ⟨rest, hrest, hquiet, hclosed⟩ := hp.stage.below_closeFailed hstack
  have hpop : Piped { s with stack } h := hp.popTo hstack (by simp) hsending (.cancel rest hrest hquiet)
  unfold runStreamFrame
  dsimp only
  unfold mediaUvStreamCloseCb
  dsimp only
  split
  · exact hpop
  · rename_i hthere
    split
    · -- a pipe is left, and the stream is released when it is gone
      refine hpop.passTo [] ⟨rfl, by simp, rfl, rfl, rfl, .inl, fun _ => .inr hclosed, by simp⟩ hsending
        (by simp) (.cancel rest hrest hquiet)
    · rename_i hpipes
      unfold mediaUvStreamDisconnectCb mediaUvStreamRelease
      dsimp only
      split
      · -- the stream is released at once
        rename_i hgone
        have hnone : s.priv.onConnection = false := by
          by_contra hkept
          have hset := hheld (by simpa using hkept) (by simpa using fun hdis => hthere (.inr hdis))
          rcases hset with hset | hset | hset
          · exact hpipes hset
          · exact hset hgone.2.1
          · exact hset hgone.2.2
        have hfrees : ∀ frames : List StreamFrame, (∀ f ∈ frames, f.isQuiet = true) →
            Piped (StreamRun.push { s with
              stack, disconnect := true, priv := { s.priv with proxy := false } } frames) h := by
          intro frames hframes
          refine hpop.passTo frames ⟨rfl, hframes, rfl, rfl, rfl, fun _ => .inr hclosed, fun _ => .inr hclosed,
            fun _ => .inr hclosed⟩ hsending (fun _ => hnone) (.opened (.released hclosed hnone ?_))
          simp only [StreamRun.push, hrest, List.mem_append, List.mem_cons]
          exact ⟨fun hin => hin.elim (not_told hframes) fun hin => hin.elim (by simp) (not_told hquiet),
            fun hin => hin.elim (not_failed hframes) fun hin => hin.elim (by simp) (not_failed hquiet)⟩
        split
        · exact hfrees _ (by simp [StreamFrame.isQuiet])
        · exact hfrees _ (by simp [StreamFrame.isQuiet])
      · exact hpop.passTo [] ⟨rfl, by simp, rfl, rfl, rfl, fun _ => .inr hclosed, fun _ => .inr hclosed,
          by simp⟩ hsending (by simp) (.cancel rest hrest hquiet)

/-- The rest of the code runs. -/
theorem run (hp : Piped s h) (hstack : s.stack = f :: stack) (huser : f ≠ .user) (hg : PipeOrderly (s, h) (.run, o)) :
    Piped (runStreamFrame { s with stack } o f) (h.ran s o f) := by
  have hopen := hp.stage.of_quiet hstack
  have hquiet : f.isQuiet = true → (∀ cb, f ≠ .sendCommand cb) → Piped (runStreamFrame { s with stack } o f) h := by
    intro hf hsend
    refine hp.runQuiet (hopen hf) hstack hf huser (hp.not_sending fun cb rest hhead => ?_)
    rw [hstack, List.cons.injEq] at hhead
    exact hsend cb hhead.1
  cases f with
  | user => exact absurd rfl huser
  | closePipe => exact hp.runClosePipe hstack
  | connectionTold => exact hp.runConnectionTold hstack
  | closeFailed => exact hp.runCloseFailed hstack (hg.2 (by rw [hstack]; rfl))
  | sendCommand cb =>
    -- the request may be that of a prepare, which is accepted before the frame runs
    obtain ⟨hsent, hsending⟩ := hp.sent hg.1
    exact hsent.runQuiet (hopen rfl) hstack rfl huser hsending
  | connectSent ret => exact hquiet rfl (by simp)
  | listenClear => exact hquiet rfl (by simp)
  | abandonFocus => exact hquiet rfl (by simp)
  | query rest => exact hquiet rfl (by simp)
  | queryComplete => exact hquiet rfl (by simp)
  | freeStream => exact hquiet rfl (by simp)

/-! ### The calls -/

theorem touch (hp : Piped s h) (touched : Bool) : Piped { s with touched } h := by
  refine ⟨hp.current, hp.fresh, hp.accepted, hp.told, hp.failed, hp.sending, hp.ended, hp.past, hp.waiting, hp.proxy,
    hp.disconnect, hp.freeing, ?_⟩
  cases hp.stage with
  | opened hopen => exact .opened (hopen.congr rfl rfl rfl)
  | cancel rest hstack hquiet => exact .cancel rest hstack hquiet
  | close rest hstack hquiet hclosed => exact .close rest hstack hquiet hclosed

/-- Nothing of the code of the pipe is left when `on_connection` is not running and the stream is not closed. -/
theorem quiet (hp : Piped s h) (huser : s.userRuns = true) (hopened : s.closed = false)
    (hnot : .connectionTold ∉ s.stack) : ∀ f ∈ s.stack, f.isQuiet = true := by
  cases hp.stage.of_user huser with
  | calm hquiet _ => exact hquiet
  | telling frames rest hold => exact absurd (by simp [hold]) hnot
  | released hclosed => cases hopened.symm.trans hclosed

/-- The pipe is to be closed; the stream may have been closed before that, with a request that may have failed. -/
theorem cancels (failed frames : List StreamFrame) (hp : Piped s h) (huser : s.userRuns = true)
    (hquiet : ∀ f ∈ s.stack, f.isQuiet = true) (hframes : ∀ f ∈ frames, f.isQuiet = true ∧ f ≠ .freeStream)
    (hfailed : failed = [] ∨ failed = [.closeFailed] ∧ t.closed = true)
    (hstack : t.stack = failed ++ .closePipe :: frames ++ s.stack)
    (honConnection : t.priv.onConnection = s.priv.onConnection) (hclosed : s.closed = true → t.closed = true)
    (hfreed : t.freed = s.freed)
    (hproxy : t.priv.proxy = s.priv.proxy) (hdisconnect : t.disconnect = true → t.closed = true) : Piped t h := by
  have hrest : ∀ f ∈ frames ++ s.stack, f.isQuiet = true := by
    intro f hf
    rcases List.mem_append.1 hf with hf | hf
    · exact (hframes f hf).1
    · exact hquiet f hf
  have hnot : .connectionTold ∉ t.stack := by
    rw [hstack, List.append_assoc]
    rcases hfailed with rfl | ⟨rfl, -⟩
    · simpa using not_told hrest
    · simpa using not_told hrest
  have hfree : .freeStream ∈ t.stack → .freeStream ∈ s.stack := by
    intro hmem
    have hnew : .freeStream ∉ frames := fun hin => (hframes _ hin).2 rfl
    rcases hfailed with rfl | ⟨rfl, -⟩
    · simpa [hstack, hnew] using hmem
    · simpa [hstack, hnew] using hmem
  refine ⟨hp.current.trans honConnection.symm, hp.fresh, hp.accepted, hp.told, hp.failed,
    by simp [hp.not_sending_of_user huser], hp.ended, hp.past, fun prepare hcurrent => ?_,
    fun hgone => hclosed (hp.proxy (hproxy.symm.trans hgone)), hdisconnect, fun hgone => ?_, ?_⟩
  · rw [hp.waiting prepare hcurrent, if_neg hnot, if_neg (not_told hquiet)]
  · have hold := hp.freeing (hgone.imp hfree fun hf => hfreed.symm.trans hf)
    exact ⟨hclosed hold.1, honConnection.trans hold.2⟩
  · rcases hfailed with rfl | ⟨rfl, hset⟩
    · exact .cancel (frames ++ s.stack) (by simp [hstack]) hrest
    · exact .close (frames ++ s.stack) (by simp [hstack]) hrest hset

theorem stop (hp : Piped s h) (huser : s.userRuns = true) (hopened : s.closed = false)
    (hnot : .connectionTold ∉ s.stack) (cb : Bool) :
    Piped (s.push [.closePipe, .abandonFocus, .sendCommand cb]) h :=
  hp.cancels [] [.abandonFocus, .sendCommand cb] huser (hp.quiet huser hopened hnot)
    (by simp [StreamFrame.isQuiet]) (.inl rfl) rfl rfl id rfl rfl hp.disconnect

theorem closeCb_of_pipes (hpipes : s.pipes = true) :
    mediaUvStreamCloseCb s = s ∨ mediaUvStreamCloseCb s = { s with disconnect := true } := by
  unfold mediaUvStreamCloseCb
  rw [if_pos hpipes]
  split
  · exact .inl rfl
  · exact .inr rfl

theorem close (hp : Piped s h) (huser : s.userRuns = true) (hopened : s.closed = false)
    (hnot : .connectionTold ∉ s.stack) : Piped (mediaUvStreamClose s o) h := by
  have hquiet := hp.quiet huser hopened hnot
  have hcancels : ∀ t : StreamRun, t.stack = (if sendRet s o < 0 then [StreamFrame.closeFailed] else []) ++
      [StreamFrame.closePipe, .listenClear, .abandonFocus] ++ s.stack → t.priv.onConnection = s.priv.onConnection →
      t.closed = true → t.freed = s.freed → t.priv.proxy = s.priv.proxy → Piped t h := by
    intro t hstack honConnection hclosed hfreed hproxy
    refine hp.cancels (if sendRet s o < 0 then [.closeFailed] else []) [.listenClear, .abandonFocus] huser hquiet
      (by simp [StreamFrame.isQuiet]) ?_ hstack honConnection (fun _ => hclosed) hfreed hproxy fun _ => hclosed
    split
    · exact .inr ⟨rfl, hclosed⟩
    · exact .inl rfl
  have hret : sendRet { s with closed := true, priv := { s.priv with onClose := o.user } } o = sendRet s o := rfl
  unfold mediaUvStreamClose
  dsimp only
  rw [hret]
  generalize (if sendRet s o < 0 then [StreamFrame.closeFailed] else []) ++
    [StreamFrame.closePipe, .listenClear, .abandonFocus] = frames at hcancels ⊢
  unfold StreamRun.mediaUvStreamSend
  dsimp only
  split
  · -- a close that is canceled at once finds a pipe, and releases nothing
    rename_i hcanceled
    rcases closeCb_of_pipes (s := StreamRun.push { s with closed := true, priv := { s.priv with onClose := o.user } }
      frames) hcanceled.2.1 with hsame | hset
    · rw [mediaUvStreamReceive, hsame]
      exact hcancels _ rfl rfl rfl rfl rfl
    · rw [mediaUvStreamReceive, hset]
      exact hcancels _ rfl rfl rfl rfl rfl
  · exact hcancels _ rfl rfl rfl rfl rfl

/-- A prepare keeps its callback, and sends its request next. -/
theorem keeps (cb : Bool) (hp : Piped s h) (hopened : s.closed = false) (hquiet : ∀ f ∈ s.stack, f.isQuiet = true)
    (hnone : s.priv.onConnection = false) {ret : Int} (hret : 0 ≤ ret)
    (hstack : t.stack = .sendCommand cb :: s.stack) (hkept : t.priv.onConnection = true)
    (hclosed : t.closed = s.closed) (hfreed : t.freed = s.freed) (hproxy : t.priv.proxy = s.priv.proxy)
    (hdisconnect : t.disconnect = s.disconnect) : Piped t (h.prepared ret) := by
  have hcurrent : h.current = none := Option.not_isSome_iff_eq_none.1 (by simp [hp.current, hnone])
  have hprepared : h.prepared ret = { h with made := h.made + 1, current := some h.made, sending := some h.made } := by
    rw [PipeRecord.prepared, if_neg (Int.not_lt.2 hret)]
  have hquiet' : ∀ f ∈ t.stack, f.isQuiet = true := by
    rw [hstack]
    intro f hf
    rcases List.mem_cons.1 hf with rfl | hf
    · rfl
    · exact hquiet f hf
  have hnew : h.calls h.made = 0 := by
    refine List.countP_eq_zero.2 fun call hcall => ?_
    have := hp.told call hcall
    simp
    omega
  rw [hprepared]
  refine ⟨hkept.symm, ?_, fun p hmem => Nat.lt_succ_of_lt (hp.accepted p hmem),
    fun call hcall => Nat.lt_succ_of_lt (hp.told call hcall), hp.failed, ?_, hp.ended, fun p hmem _ => ?_, ?_,
    fun hgone => hclosed.trans (hp.proxy (hproxy.symm.trans hgone)),
    fun hset => hclosed.trans (hp.disconnect (hdisconnect.symm.trans hset)), fun hgone => ?_,
    .opened (.calm hquiet' fun hset => ?_)⟩
  · rintro p ⟨⟩
    exact Nat.lt_succ_self _
  · rintro p ⟨⟩
    exact ⟨rfl, cb, s.stack, hstack⟩
  · exact hp.past p hmem (by simp [hcurrent])
  · rintro p ⟨⟩
    rw [if_neg (not_told hquiet')]
    exact hnew
  · have hold := hp.freeing (hgone.imp (fun hin => ?_) fun hf => hfreed.symm.trans hf)
    · cases hopened.symm.trans hold.1
    · rw [hstack] at hin
      simpa using hin
  · cases hopened.symm.trans (hclosed.symm.trans hset)

/-- A prepare that has not set `on_connection` passes, and one that has sends its request. -/
theorem mediaUvStreamPrepare_cases (s : StreamRun) (dataPipe options cb : Bool) (o : StreamOutcome) :
    Passes s (mediaUvStreamPrepare s dataPipe options cb o) ∨
      s.priv.onConnection = false ∧ dataPipe = true ∧ 0 ≤ (mediaUvStreamListenInit s o).1 ∧
        ∃ listeners : List MediaListenPriv, mediaUvStreamPrepare s dataPipe options cb o =
          let t := { s with priv := { s.priv with listeners, onConnection := true } }
          if options = true ∧ sendRet s o < 0 then t else t.push [.sendCommand cb] := by
  unfold mediaUvStreamPrepare
  split
  · exact .inl (.refl s)
  · rename_i hkept
    cases dataPipe with
    | false =>
      left
      have hset : Passes s { s with priv := { s.priv with onConnection := s.priv.onConnection || false } } :=
        .set rfl (by simp) rfl rfl rfl rfl
      simp only [Bool.false_eq_true, if_false]
      split
      · exact .refl s
      · split
        · exact hset
        · exact hset.trans (.push (by simp [StreamFrame.isQuiet]))
    | true =>
      simp only [if_true, Bool.or_true]
      split
      · exact .inl (Passes.listenInit s)
      · rename_i hlisten
        right
        refine ⟨by simpa using hkept, trivial, Int.not_lt.1 hlisten, ?_⟩
        unfold mediaUvStreamListenInit
        split
        · exact ⟨s.priv.listeners, rfl⟩
        · exact ⟨_, rfl⟩

theorem prepare (hp : Piped s h) (huser : s.userRuns = true) (hopened : s.closed = false)
    {dataPipe options cb : Bool} (hg : PipeOrderly (s, h) (.prepare dataPipe options cb, o)) (touched : Bool) :
    Piped { mediaUvStreamPrepare s dataPipe options cb o with touched }
      (PipeRecord.note s (.prepare dataPipe options cb, o)
        { mediaUvStreamPrepare s dataPipe options cb o with touched } h) := by
  have hidle : s.closed = true → s.priv.onConnection = false := fun hc => absurd (hopened.symm.trans hc) (by decide)
  refine touch ?_ touched
  rw [PipeRecord.note]
  dsimp only
  rcases mediaUvStreamPrepare_cases s dataPipe options cb o with hpasses | ⟨hnone, hpipe, hlisten, listeners, heq⟩
  · have hsame : ¬ (s.priv.onConnection = false ∧
        (mediaUvStreamPrepare s dataPipe options cb o).priv.onConnection = true) := by
      obtain ⟨frames, hframes⟩ := hpasses
      rw [hframes.onConnection]
      rintro ⟨hnone, hkept⟩
      cases hnone.symm.trans hkept
    rw [if_neg hsame]
    exact hp.passes huser hidle hpasses
  · have hset : (mediaUvStreamPrepare s dataPipe options cb o).priv.onConnection = true := by
      rw [heq]
      dsimp only
      split <;> rfl
    have hoptions : options = true → 0 ≤ sendRet s o := fun hasks => hg hpipe hasks hnone hlisten
    have hsends : mediaUvStreamPrepare s dataPipe options cb o =
        StreamRun.push { s with priv := { s.priv with listeners, onConnection := true } } [.sendCommand cb] := by
      rw [heq]
      dsimp only
      rw [if_neg fun hfails => absurd (hoptions hfails.1) (Int.not_le.2 hfails.2)]
    rw [if_pos ⟨hnone, hset⟩, hsends]
    have hnot : .connectionTold ∉ s.stack := by
      cases hp.stage.of_user huser with
      | calm hquiet _ => exact not_told hquiet
      | telling frames rest _ _ _ hkept _ => cases hnone.symm.trans hkept
      | released _ _ htold => exact htold.1
    refine hp.keeps cb hopened (hp.quiet huser hopened hnot) hnone ?_ rfl rfl rfl rfl rfl rfl
    split
    · exact hoptions ‹_›
    · exact Int.le_refl 0

/-- A connection comes to a listener. -/
theorem connection (hp : Piped s h) (hstack : s.stack = []) (k : Nat) (ret : Int) (touched : Bool) :
    Piped { mediaUvStreamListenConnectionCb s k ret o with touched }
      (PipeRecord.note s (.connectionCb k ret, o)
        { mediaUvStreamListenConnectionCb s k ret o with touched } h) := by
  have huser : s.userRuns = true := by
    rw [StreamRun.userRuns, hstack]
    rfl
  have hquiet : ∀ f ∈ s.stack, f.isQuiet = true := by simp [hstack]
  refine touch ?_ touched
  rw [PipeRecord.note]
  dsimp only
  unfold mediaUvStreamListenConnectionCb
  split
  · rw [if_neg (by simp [hstack])]
    exact hp.passes huser (hp.idle hstack) (.set rfl rfl rfl rfl rfl rfl)
  split
  · rw [if_neg (by simp [hstack])]
    exact hp.passes huser (hp.idle hstack) (.set rfl rfl rfl rfl rfl rfl)
  split
  · rw [if_neg (by simp [hstack, StreamRun.push])]
    exact hp.cancels [] [.listenClear] huser hquiet (by simp [StreamFrame.isQuiet]) (.inl rfl)
      rfl rfl id rfl rfl hp.disconnect
  dsimp only
  split
  · -- the pipe is handed over
    rename_i hkept
    rw [if_pos (by simp [StreamRun.push])]
    exact hp.tell [] hkept (by simp [hstack]) (hp.not_sending_of_user huser) (.inl ⟨rfl, rfl⟩)
      (by simp [StreamRun.push, hstack]) (by simp) (by simp) rfl rfl rfl rfl rfl
  · rw [if_neg (by simp [hstack, StreamRun.push])]
    exact hp.cancels [] [] huser hquiet (by simp) (.inl rfl) rfl rfl id rfl rfl hp.disconnect

theorem suggestFrames_cases (player : Bool) (suggest : Int) :
    (∀ f ∈ suggestFrames player suggest, f.isQuiet = true ∧ f ≠ .freeStream) ∨
      suggestFrames player suggest = [.closePipe, .abandonFocus, .sendCommand false] := by
  unfold suggestFrames
  split
  · left
    cases player <;> simp [StreamFrame.isQuiet]
  split
  · left
    cases player <;> simp [StreamFrame.isQuiet]
  split
  · exact .inr rfl
  · left
    split <;> simp [StreamFrame.isQuiet]

/-- A suggestion, which may be to stop. -/
theorem suggest (hp : Piped s h) (hstack : s.stack = []) (suggest : Int) :
    Piped (mediaUvStreamSuggestCb s suggest o) h := by
  have huser : s.userRuns = true := by
    rw [StreamRun.userRuns, hstack]
    rfl
  have hcall : Passes s (s.call o.user) := .call o.user
  unfold mediaUvStreamSuggestCb
  rcases suggestFrames_cases s.player suggest with hquiet | hstop
  · exact hp.passes huser (hp.idle hstack) (hcall.trans (.push hquiet))
  · have hcalled := hp.passes huser (hp.idle hstack) hcall
    have hcalls : (s.call o.user).userRuns = true ∧ ∀ f ∈ (s.call o.user).stack, f.isQuiet = true := by
      unfold StreamRun.call
      split
      · simp [StreamRun.push, StreamRun.userRuns, hstack, StreamFrame.isQuiet]
      · exact ⟨huser, by simp [hstack]⟩
    rw [hstop]
    exact hcalled.cancels [] [.abandonFocus, .sendCommand false] hcalls.1 hcalls.2
      (by simp [StreamFrame.isQuiet]) (.inl rfl) rfl rfl id rfl rfl hcalled.disconnect

/-- The user has called back. -/
theorem returns (hp : Piped s h) (hhead : s.stack.head? = some .user) : Piped { s with stack := s.stack.tail } h := by
  have huser : s.userRuns = true := by
    rw [StreamRun.userRuns, hhead]
    rfl
  have hstack : s.stack = .user :: s.stack.tail := (List.cons_head?_tail hhead).symm
  exact hp.pop (hp.stage.of_user huser) hstack rfl (hp.not_sending_of_user huser)

/-- Somebody calls the stream while none of its code runs. -/
theorem external (hp : Piped s h) (hstack : s.stack = []) (ht : Passes s t) : Piped t h :=
  hp.passes (by rw [StreamRun.userRuns, hstack]; rfl) (hp.idle hstack) ht

/-- The user calls a stream that is not closed. -/
theorem called (hp : Piped s h) (hready : (s.userRuns && !s.closed) = true) (ht : Passes s t) : Piped t h := by
  simp only [Bool.and_eq_true, Bool.not_eq_true'] at hready
  exact hp.passes hready.1 (fun hclosed => absurd (hready.2.symm.trans hclosed) (by decide)) ht

theorem next {s' : StreamRun} {i : StreamInput × StreamOutcome} (hp : Piped s h) (hg : PipeOrderly (s, h) i)
    (hs : streamNext s i = some s') : Piped s' (PipeRecord.note s i s' h) := by
  obtain ⟨i, o⟩ := i
  unfold streamNext at hs
  split at hs
  case isFalse => cases hs
  rename_i hready
  cases hs
  generalize (s.touched || s.freed && i.touches) = touched
  cases i with
  | run =>
    cases hstack : s.stack with
    | nil => simp [StreamInput.ready, hstack] at hready
    | cons f stack =>
      have huser : f ≠ .user := by simpa [StreamInput.ready, hstack] using hready
      simp only [streamStep, PipeRecord.note, hstack]
      exact (hp.run hstack huser hg).touch touched
  | userReturns => exact (hp.returns (by simpa [StreamInput.ready] using hready)).touch touched
  | connectCb ret =>
    simp only [StreamInput.ready, Bool.and_eq_true, List.isEmpty_iff] at hready
    exact (hp.external hready.1 (.connectCb ret)).touch touched
  | receive reply ret =>
    have hfacts : s.stack = [] ∧ (reply = .closed → s.closed = true) := by
      cases reply <;> simp_all [StreamInput.ready]
    exact (hp.external hfacts.1 (.receive ret reply hfacts.2)).touch touched
  | eventCb completed =>
    simp only [StreamInput.ready, Bool.and_eq_true, List.isEmpty_iff] at hready
    exact (hp.external hready.1 (.eventCb completed)).touch touched
  | releaseCb =>
    simp only [StreamInput.ready, Bool.and_eq_true, List.isEmpty_iff] at hready
    exact (hp.external hready.1.1.1 (.disconnectCb (hp.disconnect hready.1.2))).touch touched
  | proxyPipes pipes =>
    simp only [StreamInput.ready, Bool.and_eq_true, List.isEmpty_iff] at hready
    have hset : Passes s { s with pipes } := .set rfl rfl rfl rfl rfl rfl
    exact (hp.external hready.1 hset).touch touched
  | connectionCb k ret =>
    simp only [StreamInput.ready, Bool.and_eq_true, List.isEmpty_iff] at hready
    exact hp.connection hready.1 k ret touched
  | listenCloseCb k =>
    simp only [StreamInput.ready, Bool.and_eq_true, List.isEmpty_iff] at hready
    have hset : Passes s { s with priv := { s.priv with listeners := s.priv.listeners.eraseIdx k } } :=
      .set rfl rfl rfl rfl rfl rfl
    exact (hp.external hready.1 (hset.trans (.release _))).touch touched
  | volumeCb =>
    simp only [StreamInput.ready, Bool.and_eq_true, List.isEmpty_iff] at hready
    have hset : Passes s { s with volumes := s.volumes - 1 } := .set rfl rfl rfl rfl rfl rfl
    exact (hp.external hready.1 (hset.trans (.queryCb _ .volume))).touch touched
  | suggestCb suggest =>
    simp only [StreamInput.ready, Bool.and_eq_true, List.isEmpty_iff] at hready
    exact (hp.suggest hready.1 suggest).touch touched
  | listen => exact (hp.called hready (.listen s)).touch touched
  | prepare dataPipe options cb =>
    simp only [StreamInput.ready, Bool.and_eq_true, Bool.not_eq_true'] at hready
    exact hp.prepare hready.1 hready.2 hg touched
  | stop cb =>
    simp only [StreamInput.ready, Bool.and_eq_true, Bool.not_eq_true'] at hready
    exact (hp.stop hready.1 hready.2 hg cb).touch touched
  | pause cb => exact (hp.called hready (.push (by simp [StreamFrame.isQuiet]))).touch touched
  | startAuto cb => exact (hp.called hready (.startAuto cb)).touch touched
  | send cb => exact (hp.called hready (.push (by simp [StreamFrame.isQuiet]))).touch touched
  | query =>
    have huser : (s.userRuns && !s.closed) = true := by
      simp only [StreamInput.ready, Bool.and_eq_true] at hready
      simp [hready.1.1, hready.1.2]
    exact (hp.called huser (.query s)).touch touched
  | close =>
    simp only [StreamInput.ready, Bool.and_eq_true, Bool.not_eq_true'] at hready
    exact (hp.close hready.1 hready.2 hg).touch touched

/-- A stream that was just opened has no prepares. -/
theorem start (player onOpen connected : Bool) : Piped (mediaUvStreamOpen player onOpen connected) {} := by
  have hfresh : ∀ s : StreamRun, s.stack = [] → s.priv.onConnection = false → s.freed = false →
      (s.priv.proxy = false → s.closed = true) → (s.disconnect = true → s.closed = true) → Piped s {} := by
    intro s hstack hnone hfreed hproxy hdisconnect
    exact ⟨by simp [hnone], by simp, by simp, by simp, rfl, by simp, by simp, by simp, by simp, hproxy, hdisconnect,
      by simp [hstack, hfreed], .opened (.calm (by simp [hstack]) fun _ => hnone)⟩
  cases connected with
  | true => exact hfresh _ rfl rfl rfl (by simp [mediaUvStreamOpen]) (by simp [mediaUvStreamOpen])
  | false =>
    have hbase : Piped { player, priv := { proxy := true, onOpen }, pipes := false, closed := true } {} :=
      hfresh _ rfl rfl rfl (by simp) (by simp)
    exact hbase.external rfl (.disconnectCb rfl)

end Piped

/-! ### Runs -/

/-- When the requests of the prepares are sent, no `on_connection` cancels the pipe, and no close frees the stream at
once while one is kept, the data pipe is reported once per prepare. -/
theorem pipeRun_reported (player onOpen connected : Bool) {p : StreamRun × PipeRecord}
    (hp : (dataPipeMachine player onOpen connected).ReachableVia PipeOrderly p) : PipeReported p :=
  Piped.reported (ReachableVia.recorded (P := Piped) (Piped.start player onOpen connected)
    (fun _ _ _ _ hpiped hg hnext => hpiped.next hg hnext) hp)

/-- A prepare that gets a pipe, whose `on_connection` prepares in vain; one that is canceled by stop, and one by close,
before the stream is freed. -/
def samplePipes : List (StreamInput × StreamOutcome) :=
  [(.prepare true true true, { cpus := [{}, {}] }), (.run, {}), (.connectionCb 1 0, {}),
    (.prepare true false false, {}), (.userReturns, {}), (.run, {}), (.listenCloseCb 0, {}),
    (.prepare true false false, {}), (.run, {}), (.stop false, {}), (.run, {}), (.userReturns, {}), (.run, {}),
    (.run, {}), (.run, {}), (.prepare true false true, {}), (.run, {}), (.close, {}), (.run, {}), (.userReturns, {}),
    (.run, {}), (.run, {}), (.run, {}), (.listenCloseCb 0, {}), (.receive .closed 0, {}), (.proxyPipes false, {}),
    (.releaseCb, {}), (.userReturns, {}), (.run, {})]

theorem samplePipes_possible :
    ((dataPipeMachine true true true).runFrom PipeOrderly (dataPipeMachine true true true).start
      samplePipes).isSome := by
  decide

theorem pipeRun_reported_sample :
    PipeReported (((dataPipeMachine true true true).runFrom PipeOrderly (dataPipeMachine true true true).start
      samplePipes).get samplePipes_possible) :=
  pipeRun_reported true true true (Machine.reachableVia_get samplePipes_possible)

/-- `on_connection` calls stop, prepares once more and returns. -/
def sampleReentered : List (StreamInput × StreamOutcome) :=
  [(.prepare true false false, { cpus := [{}] }), (.run, {}), (.connectionCb 0 0, {}), (.stop false, {}), (.run, {})]

theorem sampleReentered_possible :
    ((dataPipeMachine true true true).runFrom (fun _ _ => True) (dataPipeMachine true true true).start
      sampleReentered).isSome := by
  decide

/-- It is called twice for one prepare. -/
theorem pipeRun_not_reported : ¬ ∀ (player onOpen connected : Bool) (p : StreamRun × PipeRecord),
    (dataPipeMachine player onOpen connected).Reachable p → PipeReported p := by
  intro hall
  have hreported := hall true true true _ (Machine.reachableVia_get sampleReentered_possible)
  revert hreported
  decide

/-- It prepares once more after stop has returned, and returns. -/
def sampleThrownAway : List (StreamInput × StreamOutcome) :=
  [(.userReturns, {}), (.run, {}), (.run, {}), (.run, {}), (.prepare true false false, {}), (.run, {}),
    (.userReturns, {}), (.run, {})]

/-- That prepare is thrown away: its callback is not kept, and was not called. -/
example : (((dataPipeMachine true true true).runFrom (fun _ _ => True) (dataPipeMachine true true true).start
    (sampleReentered ++ sampleThrownAway)).map fun p => (p.2.accepted, p.2.current, p.2.calls 1)) =
    some ([0, 1], none, 0) := by decide

/-- A prepare whose options are refused returns the error and leaves its callback. -/
example : (((dataPipeMachine true true true).runFrom (fun _ _ => True) (dataPipeMachine true true true).start
    [(.prepare true true false, { cpus := [{}], send := -EINVAL })]).map fun p => (p.2.failed, p.2.current)) =
    some ([0], some 0) := by decide

end MediaFramework
