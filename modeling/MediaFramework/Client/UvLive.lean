import MediaFramework.Client.UvAwaits

/-!
# The pipes of a proxy

The command pipe and the event pipe of a proxy are two pipes that libuv has not closed.  The event pipe is never left
alone: it listens, is read, is about to be read, or closes.
-/

namespace MediaFramework

variable {c : UvConfig} {s t u : MediaProxyPriv} {o : Outcome} {i : UvInput} {w : MediaWritePriv} {f : UvFrame}
  {stack frames : List UvFrame} {k : Nat} {p p' : MediaPipePriv}

/-! ### How pipes go on -/

/-- The pipe goes on: it does not stop listening, and is read until it closes. -/
structure MediaPipePriv.Advances (p p' : MediaPipePriv) : Prop where
  closed : p'.closed = p.closed
  closing : p.closing = true → p'.closing = true
  reading : p.reading = true → p'.reading = true ∨ p'.closing = true
  listening : p.listening = true → p'.listening = true

theorem MediaPipePriv.Advances.refl (p : MediaPipePriv) : p.Advances p := ⟨rfl, id, .inl, id⟩

theorem MediaPipePriv.Advances.trans {p'' : MediaPipePriv} (hp : p.Advances p') (hp' : p'.Advances p'') :
    p.Advances p'' where
  closed := hp'.closed.trans hp.closed
  closing hclosing := hp'.closing (hp.closing hclosing)
  reading hreading := (hp.reading hreading).elim hp'.reading fun hclosing => .inr (hp'.closing hclosing)
  listening hlistening := hp'.listening (hp.listening hlistening)

theorem MediaPipePriv.Continues.advances (hp : p.Continues p') : p.Advances p' where
  closed := hp.closed
  closing hclosing := hp.closing.trans hclosing
  reading hreading := by
    cases hclosing : p.closing with
    | true => exact .inr (hp.closing.trans hclosing)
    | false => exact .inl (hp.reading hclosing hreading)
  listening hlistening := hp.listening.trans hlistening

/-- Every pipe goes on. -/
def Advance (s t : MediaProxyPriv) : Prop :=
  ∀ (k : Nat) (p : MediaPipePriv), s.pipes[k]? = some p → ∃ p', t.pipes[k]? = some p' ∧ p.Advances p'

namespace Advance

theorem same (hpipes : t.pipes = s.pipes) : Advance s t :=
  fun k p hp => ⟨p, (congrArg (·[k]?) hpipes).trans hp, .refl p⟩

theorem trans (hs : Advance s t) (ht : Advance t u) : Advance s u := by
  intro k p hp
  obtain ⟨p', hp', hadvances⟩ := hs k p hp
  obtain ⟨p'', hp'', hadvances'⟩ := ht k p' hp'
  exact ⟨p'', hp'', hadvances.trans hadvances'⟩

theorem modifyPipe (s : MediaProxyPriv) (k : Nat) (g : MediaPipePriv → MediaPipePriv)
    (hg : ∀ p : MediaPipePriv, p.Advances (g p)) : Advance s (s.modifyPipe k g) := by
  intro j p hp
  simp only [MediaProxyPriv.modifyPipe, List.getElem?_modify, hp, Option.map_eq_map, Option.map_some]
  by_cases heq : k = j
  · exact ⟨g p, by simp [heq], hg p⟩
  · exact ⟨p, by simp [heq], .refl p⟩

theorem close (s : MediaProxyPriv) (k : Nat) : Advance s (mediaUvClose s k) :=
  modifyPipe s k _ fun _ => ⟨rfl, fun _ => rfl, fun _ => .inr rfl, id⟩

theorem newPipe (hpipes : t.pipes = s.pipes ++ [mediaUvAllocPipe]) : Advance s t := by
  intro k p hp
  rw [hpipes]
  exact ⟨p, List.getElem?_append_left (List.getElem?_eq_some_iff.1 hp).1 ▸ hp, .refl p⟩

theorem of_writes (ht : Writes s t frames) : Advance s t := by
  intro k p hp
  obtain ⟨p', hp', hcontinues⟩ := ht.pipe k p hp
  exact ⟨p', hp', hcontinues.advances⟩

end Advance

/-! ### The command pipe and the event pipe -/

/-- Something is to come on the event pipe `p`, or it is about to be read. -/
def MediaProxyPriv.EventEnds (s : MediaProxyPriv) (p : MediaPipePriv) : Prop :=
  p.closing = true ∨ p.reading = true ∨ p.listening = true ∨ .readStart ∈ s.stack

/-- The command pipe and the event pipe are there, and libuv has not closed them. -/
structure PipesLive (s : MediaProxyPriv) : Prop where
  command : ∀ k, s.cpipe = some k → ∃ p, s.pipes[k]? = some p ∧ p.closed = false
  event : ∀ k, s.epipe = some k → ∃ p, s.pipes[k]? = some p ∧ p.closed = false ∧ s.EventEnds p
  apart : ∀ k, s.cpipe = some k → s.epipe ≠ some k

namespace PipesLive

theorem keep (h : PipesLive s) (ht : Advance s t) (hcpipe : t.cpipe = s.cpipe) (hepipe : t.epipe = s.epipe)
    (hread : .readStart ∈ s.stack → .readStart ∈ t.stack) : PipesLive t where
  command k hk := by
    obtain ⟨p, hp, hclosed⟩ := h.command k (hcpipe ▸ hk)
    obtain ⟨p', hp', hadvances⟩ := ht k p hp
    exact ⟨p', hp', hadvances.closed.trans hclosed⟩
  event k hk := by
    obtain ⟨p, hp, hclosed, hends⟩ := h.event k (hepipe ▸ hk)
    obtain ⟨p', hp', hadvances⟩ := ht k p hp
    refine ⟨p', hp', hadvances.closed.trans hclosed, ?_⟩
    rcases hends with hclosing | hreading | hlistening | hreads
    · exact .inl (hadvances.closing hclosing)
    · exact (hadvances.reading hreading).elim (fun h => .inr (.inl h)) .inl
    · exact .inr (.inr (.inl (hadvances.listening hlistening)))
    · exact .inr (.inr (.inr (hread hreads)))
  apart k hk := by
    rw [hepipe]
    exact h.apart k (hcpipe ▸ hk)

/-- The command pipe is given up or is a new one. -/
theorem newCommand (h : PipesLive s) (ht : Advance s t)
    (hcpipe : ∀ k, t.cpipe = some k → k = s.pipes.length ∧ ∃ p, t.pipes[k]? = some p ∧ p.closed = false)
    (hepipe : t.epipe = s.epipe) (hread : .readStart ∈ s.stack → .readStart ∈ t.stack) : PipesLive t where
  command k hk := (hcpipe k hk).2
  event := (keep (s := { s with cpipe := none }) (t := { t with cpipe := none }) ⟨nofun, h.event, nofun⟩ ht rfl hepipe
    hread).event
  apart k hk hek := by
    obtain ⟨rfl, -⟩ := hcpipe k hk
    obtain ⟨p, hp, -⟩ := h.event _ (hepipe ▸ hek)
    exact Nat.lt_irrefl _ (List.getElem?_eq_some_iff.1 hp).1

/-- The event pipe is given up or is a new one. -/
theorem newEvent (h : PipesLive s) (ht : Advance s t) (hcpipe : t.cpipe = s.cpipe)
    (hepipe : ∀ k, t.epipe = some k → k = s.pipes.length ∧
      ∃ p, t.pipes[k]? = some p ∧ p.closed = false ∧ t.EventEnds p) : PipesLive t where
  command := (keep (s := { s with epipe := none, stack := [] }) (t := { t with epipe := none })
    ⟨h.command, nofun, nofun⟩ ht hcpipe rfl nofun).command
  event k hk := (hepipe k hk).2
  apart k hk hek := by
    obtain ⟨rfl, -⟩ := hepipe k hek
    obtain ⟨p, hp, -⟩ := h.command _ (hcpipe ▸ hk)
    exact Nat.lt_irrefl _ (List.getElem?_eq_some_iff.1 hp).1

theorem of_writes (h : PipesLive s) (ht : Writes s t frames) : PipesLive t :=
  h.keep (.of_writes ht) ht.cpipe ht.epipe fun hread => ht.stack_eq ▸ List.mem_append_right _ hread

/-- A pipe closes. -/
theorem close (h : PipesLive s) (k : Nat) : PipesLive (mediaUvClose s k) := h.keep (.close s k) rfl rfl id

/-- Frames are put on the stack. -/
theorem push (h : PipesLive s) (frames : List UvFrame) : PipesLive (s.push frames) :=
  h.keep (.same rfl) rfl rfl (List.mem_append_right _)

private theorem callOnListen (h : PipesLive s) (ret : Int) (frames : List UvFrame) :
    PipesLive (callOnListen s ret frames) := by
  unfold MediaFramework.callOnListen
  split
  · exact h.push _
  · exact h.push _

private theorem shutdown (h : PipesLive s) (o : Outcome) : PipesLive (mediaUvShutdown s o) := by
  unfold mediaUvShutdown
  split
  · exact h.keep (.same rfl) rfl rfl id
  · rename_i pipe hpipe
    split
    · exact h
    · split
      · exact h.close pipe
      · exact h.keep (.modifyPipe s pipe _ fun _ => ⟨rfl, id, .inl, id⟩) rfl rfl id

theorem freeProxy (h : PipesLive s) : PipesLive (mediaUvFreeProxy s) := by
  unfold mediaUvFreeProxy
  split
  · exact h
  · split
    · have hreleased : PipesLive { mediaUvClearQueue s with released := true } := h.keep (.same rfl) rfl rfl id
      dsimp only
      split
      · exact hreleased.push _
      · exact hreleased.push _
    · exact h

private theorem closeCb (h : PipesLive s) (k : Nat) : PipesLive (mediaUvCloseCb s k) := by
  have hpipe : ∀ j p, j ≠ k → s.pipes[j]? = some p →
      (s.modifyPipe k fun p => { p with closed := true }).pipes[j]? = some p := by
    intro j p hj hp
    simp [MediaProxyPriv.modifyPipe, hp, Ne.symm hj]
  have hcommand : ∀ j, j ≠ k → s.cpipe = some j →
      ∃ p, (s.modifyPipe k fun p => { p with closed := true }).pipes[j]? = some p ∧ p.closed = false := by
    intro j hj hcpipe
    obtain ⟨p, hp, hclosed⟩ := h.command j hcpipe
    exact ⟨p, hpipe j p hj hp, hclosed⟩
  have hevent : ∀ j, j ≠ k → s.epipe = some j →
      ∃ p, (s.modifyPipe k fun p => { p with closed := true }).pipes[j]? = some p ∧ p.closed = false ∧
        s.EventEnds p := by
    intro j hj hepipe
    obtain ⟨p, hp, hends⟩ := h.event j hepipe
    exact ⟨p, hpipe j p hj hp, hends⟩
  unfold mediaUvCloseCb
  dsimp only
  split_ifs with hcpipe hepipe
  · refine freeProxy ⟨(by rintro _ ⟨⟩), fun j hj => hevent j ?_ hj, (by rintro _ ⟨⟩)⟩
    rintro rfl
    exact h.apart j hcpipe hj
  · refine freeProxy ⟨fun j hj => hcommand j ?_ hj, (by rintro _ ⟨⟩), fun _ _ => (by rintro ⟨⟩)⟩
    rintro rfl
    exact hcpipe hj
  · refine freeProxy ⟨fun j hj => hcommand j ?_ hj, fun j hj => hevent j ?_ hj, h.apart⟩
    · rintro rfl
      exact hcpipe hj
    · rintro rfl
      exact hepipe hj

/-- A pipe that was just made. -/
private theorem last_pipe (s : MediaProxyPriv) (g : MediaPipePriv → MediaPipePriv) :
    ((s.pipes ++ [mediaUvAllocPipe]).modify s.pipes.length g)[s.pipes.length]? = some (g mediaUvAllocPipe) := by
  simp

private theorem connectOne (h : PipesLive s) (c : UvConfig) (o : Outcome) : PipesLive (mediaUvConnectOne c s o).2 := by
  have hnew : ∀ (flags : ProxyFlags) (g : MediaPipePriv → MediaPipePriv), (∀ p : MediaPipePriv, p.Advances (g p)) →
      (g mediaUvAllocPipe).closed = false →
        PipesLive (MediaProxyPriv.modifyPipe { s with
          cpipe := some s.pipes.length, pipes := s.pipes ++ [mediaUvAllocPipe], flags } s.pipes.length g) := by
    intro flags g hg hclosed
    refine h.newCommand ((Advance.newPipe rfl).trans (.modifyPipe _ _ g hg)) ?_ rfl id
    rintro k hk
    cases hk
    exact ⟨rfl, _, last_pipe s g, hclosed⟩
  unfold mediaUvConnectOne
  split_ifs
  · exact h
  · exact h.newCommand (.same rfl) nofun rfl id
  · dsimp only
    split
    · exact (hnew { s.flags with connecting := true } id .refl rfl).keep
        (.same (by simp [MediaProxyPriv.modifyPipe, MediaProxyPriv.crash])) rfl rfl id
    · split
      · exact hnew _ _ (fun _ => ⟨rfl, id, .inl, id⟩) rfl
      · exact hnew _ _ (fun _ => ⟨rfl, fun _ => rfl, fun _ => .inr rfl, id⟩) rfl

private theorem reconnectOne (h : PipesLive s) (c : UvConfig) (o : Outcome) :
    PipesLive (mediaUvReconnectOne c s o) := by
  unfold mediaUvReconnectOne
  split
  · have hcleared : PipesLive { mediaUvClearQueue s with cpu := none, exhausted := true } :=
      h.keep (.same rfl) rfl rfl id
    exact hcleared.push _
  · rename_i cpu cpus _
    have hnext : PipesLive (closeCpipe { s with cpu := some cpu, cpus }) := by
      have hnamed : PipesLive { s with cpu := some cpu, cpus } := h.keep (.same rfl) rfl rfl id
      unfold closeCpipe
      split
      · exact hnamed.close _
      · exact hnamed
    dsimp only
    split
    · exact (hnext.connectOne c o).push _
    · exact hnext.connectOne c o

/-- The event pipe is a new one that listens or closes. -/
private theorem renewed (h : PipesLive s) (ht : Advance s t) (hcpipe : t.cpipe = s.cpipe)
    (hepipe : t.epipe = some s.pipes.length) (hp : t.pipes[s.pipes.length]? = some p) (hclosed : p.closed = false)
    (hends : p.closing = true ∨ p.listening = true) : PipesLive t := by
  refine h.newEvent ht hcpipe fun k hk => ?_
  cases hepipe.symm.trans hk
  exact ⟨rfl, p, hp, hclosed, hends.imp_right fun hlistening => .inr (.inl hlistening)⟩

private theorem listenOne (h : PipesLive s) (c : UvConfig) (o : Outcome)
    (hfault : (mediaUvListenOne c s o).2.fault = none) : PipesLive (mediaUvListenOne c s o).2 := by
  have hclosed : ∀ (g : MediaPipePriv → MediaPipePriv), (∀ p : MediaPipePriv, p.Advances (g p)) →
      (g mediaUvAllocPipe).closed = false → (g mediaUvAllocPipe).closing = true ∨ (g mediaUvAllocPipe).listening = true →
        PipesLive (MediaProxyPriv.modifyPipe { s with
          epipe := some s.pipes.length, pipes := s.pipes ++ [mediaUvAllocPipe] } s.pipes.length g) := by
    intro g hg hclosed hends
    exact h.renewed ((Advance.newPipe rfl).trans (.modifyPipe _ _ g hg)) rfl rfl (last_pipe s g) hclosed hends
  have hends := hclosed (fun p => { p with reading := false, closing := true })
    (fun _ => ⟨rfl, fun _ => rfl, fun _ => .inr rfl, id⟩) rfl (.inl rfl)
  unfold mediaUvListenOne at hfault ⊢
  split
  · have hnone : PipesLive { s with epipe := none } := h.newEvent (.same rfl) rfl nofun
    exact hnone.callOnListen _ _
  · rename_i hpipe
    rw [if_neg hpipe] at hfault
    dsimp only at hfault ⊢
    split
    · rename_i hcpu
      simp only [hcpu] at hfault
      cases hfault
    · split_ifs
      · exact hends.callOnListen _ _
      · exact hends.callOnListen _ _
      all_goals
        have hlistens := hclosed (fun p => { p with listening := true }) (fun _ => ⟨rfl, id, .inl, fun _ => rfl⟩) rfl
          (.inr rfl)
        obtain ⟨frames, hframes⟩ := Writes.createNotify (MediaProxyPriv.modifyPipe { s with
          epipe := some s.pipes.length, pipes := s.pipes ++ [mediaUvAllocPipe] } s.pipes.length
          fun p => { p with listening := true }) o
        have hsent := hlistens.of_writes hframes
      · exact (hsent.close _).callOnListen _ _
      · exact hsent.keep (.same rfl) rfl rfl id

private theorem listenOneCb (h : PipesLive s) (server : Nat) (status : Int) (o : Outcome) :
    PipesLive (mediaUvListenOneCb s server status o) := by
  have hflags : PipesLive { s with flags := { s.flags with listening := false } } := h.keep (.same rfl) rfl rfl id
  unfold mediaUvListenOneCb
  dsimp only
  split_ifs
  · exact (hflags.close server).callOnListen _ _
  · exact (hflags.close server).callOnListen _ _
  · have hnone : PipesLive { s with flags := { s.flags with listening := false }, epipe := none } :=
      h.newEvent (.same rfl) rfl nofun
    exact (hnone.close server).callOnListen _ _
  · have hclosed : PipesLive (mediaUvClose { s with
        flags := { s.flags with listening := false }, epipe := some s.pipes.length
        pipes := s.pipes ++ [mediaUvAllocPipe] } s.pipes.length) :=
      hflags.renewed ((Advance.newPipe rfl).trans (.close _ _)) rfl rfl (last_pipe s _) rfl (.inl rfl)
    exact (hclosed.close server).callOnListen _ _
  · -- the pipe will be read when `on_listen` has returned
    have hpipe : ∃ p, ((s.pipes ++ [mediaUvAllocPipe]).modify server fun p =>
        { p with reading := false, closing := true })[s.pipes.length]? = some p ∧ p.closed = false := by
      by_cases hserver : server = s.pipes.length
      · rw [hserver]
        exact ⟨_, last_pipe s _, rfl⟩
      · exact ⟨mediaUvAllocPipe, by simp [hserver], rfl⟩
    have hread : ∀ {t : MediaProxyPriv}, t.cpipe = s.cpipe → t.epipe = some s.pipes.length →
        t.pipes = ((s.pipes ++ [mediaUvAllocPipe]).modify server fun p => { p with reading := false, closing := true }) →
          .readStart ∈ t.stack → PipesLive t := by
      intro t hcpipe hepipe hpipes hread
      have hadvance : Advance s t := by
        refine (Advance.newPipe (s := s) (t := { s with pipes := s.pipes ++ [mediaUvAllocPipe] }) rfl).trans ?_
        exact (Advance.close _ server).trans (.same hpipes)
      refine h.newEvent hadvance hcpipe fun k hk => ?_
      cases hepipe.symm.trans hk
      obtain ⟨p, hp, hclosed⟩ := hpipe
      exact ⟨rfl, p, hpipes ▸ hp, hclosed, .inr (.inr (.inr hread))⟩
    unfold MediaFramework.callOnListen
    split
    · exact hread rfl rfl rfl (by simp [MediaProxyPriv.push])
    · exact hread rfl rfl rfl (by simp [MediaProxyPriv.push])

/-- A frame runs. -/
private theorem runFrame (h : PipesLive s) (hs : s.stack = f :: stack)
    (hfault : (MediaFramework.runFrame c { s with stack } o f).fault = none) :
    PipesLive (MediaFramework.runFrame c { s with stack } o f) := by
  have hpop : f ≠ .readStart → PipesLive { s with stack } := by
    intro hf
    refine h.keep (.same rfl) rfl rfl fun hread => ?_
    rw [hs] at hread
    exact (List.mem_cons.1 hread).resolve_left (Ne.symm hf)
  cases f with
  | user callback => exact hpop (by rintro ⟨⟩)
  | writeCb w => exact (hpop (by rintro ⟨⟩)).keep (.same rfl) rfl rfl id
  | handleParcel w pipe =>
    have hmarked : PipesLive (MediaProxyPriv.push { s with
        stack
        writings := s.writings.setResponsed w
        flags := { s.flags with connecting := false } } [.applyWritings pipe]) :=
      (hpop (by rintro ⟨⟩)).keep (.same rfl) rfl rfl (List.mem_append_right _)
    simp only [MediaFramework.runFrame] at hfault ⊢
    split
    · rename_i hconnecting
      rw [if_pos hconnecting] at hfault
      split
      · rename_i hlistening
        rw [if_pos hlistening] at hfault
        exact hmarked.listenOne c o hfault
      · exact hmarked
    · exact (hpop (by rintro ⟨⟩)).keep (.same rfl) rfl rfl id
  | applyWritings pipe =>
    simp only [MediaFramework.runFrame]
    split
    · exact (hpop (by rintro ⟨⟩)).push _
    · exact (hpop (by rintro ⟨⟩)).push _
  | applyQuit pipe =>
    simp only [MediaFramework.runFrame]
    split
    · exact (hpop (by rintro ⟨⟩)).push _
    · split
      · have hquit : PipesLive (MediaProxyPriv.push { s with stack, flags := { s.flags with reconnect := false } }
            [.close pipe]) := (hpop (by rintro ⟨⟩)).keep (.same rfl) rfl rfl (List.mem_append_right _)
        exact hquit.reconnectOne c o
      · exact hpop (by rintro ⟨⟩)
  | deliveryWriting => exact (hpop (by rintro ⟨⟩)).push _
  | deliveryLoop w =>
    cases w with
    | none => exact hpop (by rintro ⟨⟩)
    | some w =>
      obtain ⟨frames, hframes⟩ := Writes.deliveryLoop { s with stack } w o
      exact (hpop (by rintro ⟨⟩)).of_writes hframes
  | close pipe => exact (hpop (by rintro ⟨⟩)).close pipe
  | restoreFlags flags => exact (hpop (by rintro ⟨⟩)).keep (.same rfl) rfl rfl id
  | readStart =>
    -- the event pipe is read unless it closes
    simp only [MediaFramework.runFrame] at hfault ⊢
    split
    · rename_i hepipe
      refine ⟨h.command, fun k hk => ?_, h.apart⟩
      cases hepipe.symm.trans hk
    · rename_i pipe hepipe
      refine ⟨fun k hk => ?_, fun k hk => ?_, h.apart⟩
      · obtain ⟨p, hp, hclosed⟩ := h.command k hk
        have hother : pipe ≠ k := by
          rintro rfl
          exact h.apart pipe hk hepipe
        exact ⟨p, by simp [MediaProxyPriv.modifyPipe, hp, hother], hclosed⟩
      · cases hepipe.symm.trans hk
        obtain ⟨p, hp, hclosed, -⟩ := h.event pipe hepipe
        refine ⟨{ p with reading := !p.closing }, by simp [MediaProxyPriv.modifyPipe, hp], hclosed, ?_⟩
        cases hclosing : p.closing with
        | true => exact .inl rfl
        | false => exact .inr (.inl rfl)
  | freeProxy => exact (hpop (by rintro ⟨⟩)).keep (.same rfl) rfl rfl id

/-- A step. -/
theorem step (h : PipesLive s) (hfault : (uvStep c s o i).fault = none) : PipesLive (uvStep c s o i) := by
  cases i with
  | send ack =>
    obtain ⟨frames, hframes⟩ := Writes.send s ack o
    exact h.of_writes hframes
  | listen onListen =>
    simp only [uvStep, mediaUvListen] at hfault ⊢
    split
    · exact h
    · rename_i hfree
      rw [if_neg hfree] at hfault
      have hset : PipesLive { s with onListen } := h.keep (.same rfl) rfl rfl id
      split
      · rename_i hflags
        rw [if_pos hflags] at hfault
        exact hset.listenOne c o hfault
      · exact hset.keep (.same rfl) rfl rfl id
  | reconnect =>
    simp only [uvStep, mediaUvReconnect]
    split
    · exact h
    · split
      · exact h.reconnectOne c o
      · exact h.keep (.same rfl) rfl rfl id
  | disconnect onRelease =>
    simp only [uvStep, mediaUvDisconnect]
    split
    · exact h
    · have hset : PipesLive { s with onRelease } := h.keep (.same rfl) rfl rfl id
      have hshut : PipesLive (if s.flags = 0 then mediaUvShutdown { s with onRelease } o else { s with onRelease }) := by
        split
        · exact hset.shutdown o
        · exact hset
      exact freeProxy (hshut.keep (.same rfl) rfl rfl id)
  | run =>
    simp only [uvStep] at hfault ⊢
    split
    · exact h
    · rename_i f stack hs
      simp only [hs] at hfault
      split
      · exact h.keep (.same rfl) rfl rfl id
      · rename_i hfreed
        rw [if_neg hfreed] at hfault
        exact h.runFrame hs hfault
  | connectCb pipe status =>
    have hends : PipesLive (s.modifyPipe pipe fun p => { p with connecting := false }) :=
      h.keep (.modifyPipe s pipe _ fun _ => ⟨rfl, id, .inl, id⟩) rfl rfl id
    simp only [uvStep, mediaUvConnectOneCb]
    generalize (if 0 ≤ status ∧ (s.modifyPipe pipe fun p => { p with connecting := false }).flags.disconnect = true
      then -ECANCELED else status) = status
    split
    · exact hends.push _
    · refine hends.keep (.modifyPipe _ pipe _ fun p => ⟨rfl, id, fun _ => ?_, id⟩) rfl rfl (List.mem_append_right _)
      cases hclosing : p.closing with
      | true => exact .inr rfl
      | false => exact .inl rfl
  | writeCb pipe w status =>
    obtain ⟨frames, hframes⟩ := Writes.completed s pipe w status
    exact h.of_writes hframes
  | parcel pipe parcel =>
    simp only [uvStep, mediaUvHandleParcel]
    split
    · exact h.push _
    · split
      · exact h.keep (.same rfl) rfl rfl id
      · exact h.keep (.same rfl) rfl rfl (List.mem_append_right _)
  | readErr pipe => exact h.close pipe
  | listenCb pipe status => exact h.listenOneCb pipe status o
  | shutdownCb pipe =>
    have hshut : PipesLive (s.modifyPipe pipe fun p => { p with shutting := false }) :=
      h.keep (.modifyPipe s pipe _ fun _ => ⟨rfl, id, .inl, id⟩) rfl rfl id
    exact hshut.close pipe
  | closeCb pipe => exact h.closeCb pipe

theorem start (c : UvConfig) (cpu : String) (cpus : List String) : PipesLive (mediaUvConnect c cpu cpus {}) := by
  have hnone : PipesLive { cpu := some cpu, cpus } := ⟨nofun, nofun, nofun⟩
  exact hnone.connectOne c {}

end PipesLive

/-! ### Before the client disconnects -/

/-- `on_release` is called in the step. -/
def CallsRelease (s t : MediaProxyPriv) : Bool :=
  s.stack.length < t.stack.length && t.stack.head? = some (.user .onRelease)

/-- A frame that is not a call of `on_release` and restores no flags but these. -/
def UvFrame.isCalm (flags : ProxyFlags) : UvFrame → Bool
  | .user .onRelease => false
  | .restoreFlags saved => saved = flags
  | _ => true

theorem UvFrame.isCalm_of_isPlain {flags : ProxyFlags} (hf : f.isPlain = true) : f.isCalm flags = true := by
  cases f with
  | user callback => cases callback <;> first | rfl | cases hf
  | _ => first | rfl | cases hf

/-- The step does not call `on_release`, and sets `MEDIA_PROXYFLAG_DISCONNECT` only where flags are restored. -/
structure Calm (s t : MediaProxyPriv) : Prop where
  frames : ∃ stack frames, stack <:+ s.stack ∧ t.stack = frames ++ stack ∧ ∀ f ∈ frames, f.isCalm s.flags = true
  flag : t.flags.disconnect = true →
    s.flags.disconnect = true ∨ ∃ flags, .restoreFlags flags ∈ s.stack ∧ flags.disconnect = true

namespace Calm

theorem callsRelease (h : Calm s t) : CallsRelease s t = false := by
  obtain ⟨stack, frames, hstack, ht, hframes⟩ := h.frames
  have hlength := hstack.length_le
  rw [← Bool.not_eq_true]
  intro hcalls
  simp only [CallsRelease, Bool.and_eq_true, decide_eq_true_eq, ht, List.length_append] at hcalls
  obtain ⟨hlonger, hhead⟩ := hcalls
  cases frames with
  | nil =>
    simp only [List.length_nil] at hlonger
    omega
  | cons f frames =>
    simp only [List.cons_append, List.head?_cons, Option.some.injEq] at hhead
    cases hhead
    exact absurd (hframes _ List.mem_cons_self) nofun

private theorem of_frames (frames : List UvFrame) (hstack : stack <:+ s.stack) (ht : t.stack = frames ++ stack)
    (hframes : ∀ f ∈ frames, f.isCalm s.flags = true) (hflag : t.flags.disconnect = s.flags.disconnect) : Calm s t :=
  ⟨⟨stack, frames, hstack, ht, hframes⟩, fun hset => .inl (hflag.symm.trans hset)⟩

private theorem of_spares (spared : Nat → Prop) (hstack : stack <:+ s.stack)
    (ht : Spares spared { s with stack } t frames) : Calm s t :=
  of_frames _ hstack ht.stack (fun f hf => UvFrame.isCalm_of_isPlain (ht.plain f hf)) ht.disconnect

private theorem of_reconnectOne (c : UvConfig) {s₀ : MediaProxyPriv} (o : Outcome) (frames : List UvFrame)
    (hstack : stack <:+ s.stack)
    (hs : s₀.stack = frames ++ stack) (hframes : ∀ f ∈ frames, f.isCalm s.flags = true)
    (hflag : s₀.flags.disconnect = s.flags.disconnect) : Calm s (mediaUvReconnectOne c s₀ o) := by
  obtain ⟨-, hdisconnect, frames', hframes', hplain, -⟩ := mediaUvReconnectOne_attempts c s₀ o
  refine of_frames (frames' ++ frames) hstack ?_ (fun f hf => ?_) (hdisconnect.trans hflag)
  · rw [hframes', hs, List.append_assoc]
  · rcases List.mem_append.1 hf with hf | hf
    · exact UvFrame.isCalm_of_isPlain (hplain f hf)
    · exact hframes f hf

private theorem runFrame (c : UvConfig) (o : Outcome) (hs : s.stack = f :: stack) :
    Calm s (MediaFramework.runFrame c { s with stack } o f) := by
  have hsuffix : stack <:+ s.stack := hs ▸ List.suffix_cons f stack
  have hpop : ∀ {t : MediaProxyPriv} (frames : List UvFrame), t.stack = frames ++ stack →
      (∀ f ∈ frames, f.isCalm s.flags = true) → t.flags.disconnect = s.flags.disconnect → Calm s t :=
    fun _ => of_frames _ hsuffix
  cases f with
  | user callback => exact hpop [] rfl (by simp) rfl
  | writeCb w => exact hpop [] rfl (by simp) rfl
  | handleParcel w pipe =>
    simp only [MediaFramework.runFrame]
    split
    · split
      · obtain ⟨frames, hframes⟩ := Spares.listenOne (fun _ => False) c (MediaProxyPriv.push
          { s with
            stack
            writings := s.writings.setResponsed w
            flags := { s.flags with connecting := false } } [.applyWritings pipe]) o (by rintro _ ⟨⟩)
        refine hpop (frames ++ [.applyWritings pipe]) ?_ (fun f hf => ?_) hframes.disconnect
        · rw [hframes.stack, List.append_assoc]
          rfl
        · rcases List.mem_append.1 hf with hf | hf
          · exact UvFrame.isCalm_of_isPlain (hframes.plain f hf)
          · rw [List.mem_singleton.1 hf]
            rfl
      · exact hpop [.applyWritings pipe] rfl (by simp [UvFrame.isCalm]) rfl
    · exact hpop [] rfl (by simp) rfl
  | applyWritings pipe =>
    simp only [MediaFramework.runFrame]
    split
    · exact hpop [.deliveryWriting, .applyQuit pipe] rfl (by simp [UvFrame.isCalm]) rfl
    · exact hpop [.applyQuit pipe] rfl (by simp [UvFrame.isCalm]) rfl
  | applyQuit pipe =>
    simp only [MediaFramework.runFrame]
    split
    · exact hpop [.deliveryWriting, .close pipe] rfl (by simp [UvFrame.isCalm]) rfl
    · split
      · exact of_reconnectOne c o [.close pipe] hsuffix rfl (by simp [UvFrame.isCalm]) rfl
      · exact hpop [] rfl (by simp) rfl
  | deliveryWriting => exact hpop [_] rfl (by simp [UvFrame.isCalm]) rfl
  | deliveryLoop w =>
    cases w with
    | none => exact hpop [] rfl (by simp) rfl
    | some w =>
      obtain ⟨frames, hframes⟩ := Writes.deliveryLoop { s with stack } w o
      exact of_spares (fun _ => False) hsuffix (.of_writes hframes)
  | close pipe => exact hpop [] rfl (by simp) rfl
  | restoreFlags flags =>
    refine ⟨⟨stack, [], hsuffix, rfl, (by rintro _ ⟨⟩)⟩, fun hset => ?_⟩
    rcases Bool.or_eq_true_iff.1 (show (s.flags.disconnect || flags.disconnect) = true from hset) with hset | hset
    · exact .inl hset
    · exact .inr ⟨flags, hs ▸ List.mem_cons_self, hset⟩
  | readStart =>
    simp only [MediaFramework.runFrame]
    split
    · exact hpop [] rfl (by simp) rfl
    · exact hpop [] rfl (by simp) rfl
  | freeProxy => exact hpop [] rfl (by simp) rfl

/-- Only `media_uv_disconnect` and, after it, `media_uv_close_cb` call `on_release`. -/
theorem step (c : UvConfig) (s : MediaProxyPriv) (o : Outcome) (hi : ∀ onRelease, i ≠ .disconnect onRelease)
    (hclose : s.flags.disconnect = false ∨ ∀ pipe, i ≠ .closeCb pipe) : Calm s (uvStep c s o i) := by
  have hcall : ∀ {t : MediaProxyPriv} (frames : List UvFrame), t.stack = frames ++ s.stack →
      (∀ f ∈ frames, f.isCalm s.flags = true) → t.flags.disconnect = s.flags.disconnect → Calm s t :=
    fun _ => of_frames _ List.suffix_rfl
  have hspares : ∀ {t : MediaProxyPriv} {frames : List UvFrame}, Spares (fun _ => False) s t frames → Calm s t :=
    of_spares _ List.suffix_rfl
  cases i with
  | send ack =>
    obtain ⟨frames, hframes⟩ := Writes.send s ack o
    exact hspares (.of_writes hframes)
  | listen onListen =>
    obtain ⟨frames, hframes⟩ := Spares.listen (fun _ => False) c s onListen o (by rintro _ ⟨⟩)
    exact hspares hframes
  | reconnect =>
    simp only [uvStep, mediaUvReconnect]
    split
    · exact hcall [] rfl (by simp) rfl
    · split
      · exact of_reconnectOne c o [] List.suffix_rfl rfl (by simp) rfl
      · exact hcall [] rfl (by simp) rfl
  | disconnect onRelease => exact absurd rfl (hi onRelease)
  | run =>
    simp only [uvStep]
    split
    · exact hcall [] rfl (by simp) rfl
    · rename_i f stack hs
      split
      · exact hcall [] rfl (by simp) rfl
      · exact runFrame c o hs
  | connectCb pipe status =>
    simp only [uvStep, mediaUvConnectOneCb]
    generalize (if 0 ≤ status ∧ (s.modifyPipe pipe fun p => { p with connecting := false }).flags.disconnect = true
      then -ECANCELED else status) = status
    split
    · exact hcall [.user (.onConnect status), .close pipe] rfl (by simp [UvFrame.isCalm]) rfl
    · refine ⟨⟨s.stack, [.user (.onConnect status), .restoreFlags s.flags], List.suffix_rfl, rfl, ?_⟩, (by rintro ⟨⟩)⟩
      simp [UvFrame.isCalm]
  | writeCb pipe w status =>
    obtain ⟨frames, hframes⟩ := Writes.completed s pipe w status
    exact hspares (.of_writes hframes)
  | parcel pipe parcel =>
    simp only [uvStep, mediaUvHandleParcel]
    split
    · exact hcall [_] rfl (by simp [UvFrame.isCalm]) rfl
    · split
      · exact hcall [] rfl (by simp) rfl
      · exact hcall [_, _] rfl (by simp [UvFrame.isCalm]) rfl
  | readErr pipe => exact hcall [] rfl (by simp) rfl
  | listenCb pipe status =>
    obtain ⟨frames, hframes⟩ := Spares.listenOneCb (fun _ => False) s pipe status o id (by rintro _ ⟨⟩)
    exact hspares hframes
  | shutdownCb pipe => exact hcall [] rfl (by simp) rfl
  | closeCb pipe =>
    have hlive := hclose.resolve_right fun hother => hother pipe rfl
    exact hspares (.closeCb s pipe hlive id)

end Calm

/-- `MEDIA_PROXYFLAG_DISCONNECT` is not set, and will not be when flags are restored. -/
structure NotDisconnected (s : MediaProxyPriv) : Prop where
  flag : s.flags.disconnect = false
  saved : ∀ flags, .restoreFlags flags ∈ s.stack → flags.disconnect = false

namespace NotDisconnected

theorem calm (h : NotDisconnected s) (ht : Calm s t) : NotDisconnected t := by
  obtain ⟨stack, frames, hstack, hframes, hcalm⟩ := ht.frames
  refine ⟨?_, fun flags hflags => ?_⟩
  · rw [← Bool.not_eq_true]
    intro hset
    rcases ht.flag hset with hset | ⟨flags, hmem, hset⟩
    · cases h.flag.symm.trans hset
    · cases (h.saved flags hmem).symm.trans hset
  · rw [hframes, List.mem_append] at hflags
    rcases hflags with hflags | hflags
    · obtain rfl : flags = s.flags := by simpa [UvFrame.isCalm] using hcalm _ hflags
      exact h.flag
    · exact h.saved flags (hstack.subset hflags)

theorem start (c : UvConfig) (cpu : String) (cpus : List String) : NotDisconnected (mediaUvConnect c cpu cpus {}) := by
  obtain ⟨-, hdisconnect, hstack⟩ := mediaUvConnectOne_flags c { cpu := some cpu, cpus } {}
  refine ⟨hdisconnect, fun flags hflags => ?_⟩
  rw [mediaUvConnect, hstack] at hflags
  cases hflags

end NotDisconnected

end MediaFramework
