import MediaFramework.Parcel.ParcelFraming

/-!
# The listener thread (`media_proxy_listen_thread`)

The thread reads notifications from its socket and calls `event_cb` with each.  Each round begins with a fresh parcel
and with the first byte of it: a call of `media_parcel_recv` that is interrupted is made again, and what it had
received is gone.  When the interruption comes between two parcels nothing is lost; when it comes inside a parcel the
thread reads the rest of that parcel as the beginning of another one.
-/

namespace MediaFramework

open Framing Machine

/-! ### The code -/

/-- The outcome of one `recv` of the thread: at most `max + 1` bytes, or a signal before there was any. -/
inductive ListenStep
  | data (max : Nat)
  | interrupted
  deriving DecidableEq, Repr

/-- The errno of a signal is `EINTR`. -/
def ListenStep.recv : ListenStep → RecvStep
  | .data max => .data max true
  | .interrupted => .error 3

/-- The bytes still to come, the parcels with which `event_cb` was called, and whether the thread has left its loop. -/
structure ListenRun where
  stream : List UInt8
  events : List Frame
  ended : Bool
  deriving DecidableEq

/-- One round of the loop of `media_proxy_listen_thread` after its call of `media_parcel_recv`. -/
def mediaProxyListenRound (s : ListenRun) (r : RecvResult) : ListenRun :=
  let s' := { s with stream := r.stream }
  if r.ret = -EINTR then s'
  else if r.ret < 0 then { s' with ended := true }
  else if r.parcel.code ≠ MEDIA_PARCEL_NOTIFY then { s' with ended := true }
  else { s' with events := s'.events ++ [r.parcel.frame] }

/-- What `media_parcel_recv` does in a round. -/
def mediaProxyListenRecv (w : SizeT) (s : ListenRun) (io : List ListenStep) : RecvResult :=
  mediaParcelRecv w (io.map ListenStep.recv) mediaParcelInit 0 s.stream

/-- The thread on a socket to which `ps` are written.  A step is a round whose call returns, with the outcomes that the
call uses up. -/
def listenMachine (w : SizeT) (ps : List Frame) : Machine ListenRun (List ListenStep) where
  start := ⟨ps.flatMap Frame.encode, [], false⟩
  next s io :=
    let r := mediaProxyListenRecv w s io
    if s.ended ∨ r.ret = -EAGAIN ∨ r.io ≠ [] then none else some (mediaProxyListenRound s r)

/-! ### No notification is lost or invented -/

/-- `event_cb` was called once for each of the first parcels, in their order.  What was taken from the socket is these
parcels, and a call that has not returned has not taken a whole one.  The thread leaves its loop when it has delivered
all. -/
structure ListenRun.Delivers (w : SizeT) (ps : List Frame) (s : ListenRun) : Prop where
  inOrder : s.events <+: ps
  taken : s.events.flatMap Frame.encode ++ s.stream = ps.flatMap Frame.encode
  waiting : ∀ io, (mediaProxyListenRecv w s io).ret = -EAGAIN →
    ∃ pre, s.stream = pre ++ (mediaProxyListenRecv w s io).stream ∧ Incomplete Frame.encode pre
  finished : s.ended = true → s.events = ps

/-- A call that is interrupted is interrupted before it has received a byte. -/
def BetweenParcels (io : List ListenStep) : Prop := ∀ step ∈ io.tail, step ≠ .interrupted

instance (io : List ListenStep) : Decidable (BetweenParcels io) :=
  inferInstanceAs (Decidable (∀ step ∈ io.tail, step ≠ .interrupted))

variable {w : SizeT} {ps : List Frame} {s s' : ListenRun} {io : List ListenStep}

/-- Between two rounds: the thread is at the start of a parcel of the stream, or has left the loop after the last. -/
structure ListenRun.Aligned (ps : List Frame) (s : ListenRun) : Prop where
  reading : Reading ps mediaParcelInit [] s.events s.stream
  finished : s.ended = true → s.events = ps

theorem listenMachine_start_aligned (w : SizeT) (ps : List Frame) : (listenMachine w ps).start.Aligned ps :=
  ⟨reading_start ps, nofun⟩

theorem ListenStep.recv_ok : ∀ {max : Nat} {ok : Bool} {step : ListenStep}, step.recv = .data max ok → ok = true
  | _, _, .data _, h => by cases h; rfl

theorem ListenStep.recv_error : ∀ {errno : Nat} {step : ListenStep}, step.recv = .error errno →
    step = .interrupted ∧ errno = 3
  | _, .interrupted, h => by cases h; exact ⟨rfl, rfl⟩

/-- What a call does that starts with a parcel of the stream. -/
theorem ListenRun.Aligned.recv (h : s.Aligned ps) (hfits : ∀ f ∈ ps, Fits w f.payload.length)
    (io : List ListenStep) : ∃ bs, RecvSpec mediaParcelInit [] bs s.stream (io.map ListenStep.recv)
      (mediaProxyListenRecv w s io) ∧ (mediaProxyListenRecv w s io).growFailed = false := by
  have hfit := h.reading.headerFits hfits
  obtain ⟨bs, hspec⟩ := mediaParcelRecv_spec (w := w) (io.map ListenStep.recv) receiving_init hfit
  refine ⟨bs, hspec, ?_⟩
  by_contra hgrow
  obtain ⟨max, hmem⟩ := hspec.ok (Bool.not_eq_false _ ▸ hgrow)
  obtain ⟨step, -, hstep⟩ := List.mem_map.1 hmem
  exact absurd (ListenStep.recv_ok hstep) (by decide)

theorem ListenRun.Aligned.delivers (h : s.Aligned ps) (hfits : ∀ f ∈ ps, Fits w f.payload.length) :
    s.Delivers w ps := by
  refine ⟨h.reading.isPrefix, h.reading.bytes, fun io hret => ?_, h.finished⟩
  obtain ⟨bs, hspec, hgrow⟩ := h.recv hfits io
  have hwhole : ¬ Whole ([] ++ bs) := by
    rcases hspec.not_whole (by rw [hret]; decide) with hfailed | hwhole
    · rw [hgrow] at hfailed
      cases hfailed
    · exact hwhole
  have hreceiving : Receiving (mediaProxyListenRecv w s io).parcel ([] ++ bs) := by
    simpa [hgrow] using hspec.received
  exact ⟨bs, hspec.stream_eq, hreceiving.incomplete hwhole⟩

/-! ### One round -/

/-- The first `recv` of a call is made, whatever the stream. -/
private theorem recv_interrupted (s : ListenRun) (io : List ListenStep) :
    (mediaProxyListenRecv w s (.interrupted :: io)).stream = s.stream := rfl

private theorem recv_nothing (max : Nat) (io : List ListenStep) (hs : s.stream = []) :
    (mediaProxyListenRecv w s (.data max :: io)).ret = -EPIPE := by
  have hheader : (0 : Nat) ≠ (MEDIA_PARCEL_HEADER_LEN + mediaParcelInit.len) % 2 ^ 32 := by decide
  simp only [mediaProxyListenRecv, hs, List.map_cons, ListenStep.recv, mediaParcelRecv]
  rw [mediaParcelRecvLoop, if_neg hheader]
  simp only [List.take_nil, ↓reduceIte]

/-- The outcomes of a call that was interrupted: data, then the signal. -/
theorem interrupted_last {front : List RecvStep} {errno : Nat} (hio : io.map ListenStep.recv = front ++ [.error errno])
    (hdata : ∀ step ∈ front, ∃ max ok, step = RecvStep.data max ok) :
    errno = 3 ∧ (io = [.interrupted] ∧ BetweenParcels io ∨
      (∃ max rest, io = .data max :: rest) ∧ ¬ BetweenParcels io) := by
  obtain ⟨ini, last, rfl, hini, hlast⟩ := List.map_eq_append_iff.1 hio
  obtain ⟨step, rfl, herror⟩ := List.map_eq_singleton_iff.1 hlast
  obtain ⟨rfl, herrno⟩ := ListenStep.recv_error herror
  refine ⟨herrno, ?_⟩
  cases ini with
  | nil => exact .inl ⟨rfl, nofun⟩
  | cons step ini =>
    obtain ⟨max, ok, hstep⟩ := hdata step.recv (by rw [← hini]; exact List.mem_cons_self ..)
    cases step with
    | interrupted => cases hstep
    | data max => exact .inr ⟨⟨max, _, rfl⟩, fun hbetween => hbetween .interrupted (by simp) rfl⟩

/-- The outcomes of a call that was not interrupted. -/
theorem betweenParcels_of_data (hdata : ∀ step ∈ io.map ListenStep.recv, ∃ max ok, step = RecvStep.data max ok) :
    BetweenParcels io := by
  intro step hstep hint
  obtain ⟨max, ok, hstep⟩ := hdata step.recv (List.mem_map_of_mem (List.mem_of_mem_tail hstep))
  rw [hint] at hstep
  cases hstep

/-- What a round does: it delivers the next parcel, finds the end of the stream, or begins again. -/
theorem ListenRun.Aligned.round (h : s.Aligned ps) (hnotify : ∀ f ∈ ps, f.code = MEDIA_PARCEL_NOTIFY)
    (hfits : ∀ f ∈ ps, Fits w f.payload.length) (hstep : (listenMachine w ps).next s io = some s') :
    BetweenParcels io ∧ s'.Aligned ps ∨
      ¬ BetweenParcels io ∧ s'.events = s.events ∧ s'.stream.length < s.stream.length := by
  obtain ⟨bs, hspec, hgrow⟩ := h.recv hfits io
  have hends : RecvEnds (io.map ListenStep.recv) (mediaProxyListenRecv w s io) :=
    mediaParcelRecv_ends s.stream _ mediaParcelInit (by decide)
  simp only [listenMachine] at hstep
  split at hstep
  · cases hstep
  · rename_i hnext
    obtain ⟨hopen, hreturned, hused⟩ : ¬ s.ended = true ∧ (mediaProxyListenRecv w s io).ret ≠ -EAGAIN ∧
        (mediaProxyListenRecv w s io).io = [] := by
      rw [not_or, not_or, not_not] at hnext
      exact hnext
    cases hstep
    have hbytes : Reading ps mediaParcelInit [] s.events (bs ++ (mediaProxyListenRecv w s io).stream) := by
      rw [← hspec.stream_eq]
      exact h.reading
    have hreceiving : Receiving (mediaProxyListenRecv w s io).parcel ([] ++ bs) := by
      simpa [hgrow] using hspec.received
    unfold mediaProxyListenRound
    dsimp only
    cases hends with
    | data used hdata hio hret =>
      rw [hused, List.append_nil] at hio
      subst hio
      have hbetween := betweenParcels_of_data hdata
      left
      refine ⟨hbetween, ?_⟩
      rcases hret with hzero | hfailed | ⟨hagain, -⟩ | ⟨hpipe, hend⟩
      · -- a whole parcel
        obtain ⟨hwhole, -⟩ := hspec.whole hzero
        have hdone := hbytes.complete hreceiving hwhole
        have hcode : (mediaProxyListenRecv w s io).parcel.code = MEDIA_PARCEL_NOTIFY :=
          hnotify _ (hdone.isPrefix.subset (List.mem_append_right _ (List.mem_singleton_self _)))
        rw [hzero, if_neg (by decide), if_neg (by decide), if_neg (not_not.2 hcode)]
        exact ⟨hdone, fun hended => absurd hended hopen⟩
      · rw [hgrow] at hfailed
        cases hfailed
      · exact absurd hagain hreturned
      · -- the end of the stream
        have hwhole : ¬ Whole ([] ++ bs) := by
          rcases hspec.not_whole (by rw [hpipe]; decide) with hfailed | hwhole
          · rw [hgrow] at hfailed
            cases hfailed
          · exact hwhole
        have hmore := hbytes.more hreceiving hwhole fun hnil => hspec.kept hnil
        rw [hend] at hmore
        obtain ⟨hall, hnil, -⟩ := hmore.finished
        rw [List.nil_append] at hnil
        subst hnil
        rw [hpipe, if_neg (by decide), if_pos (by decide)]
        exact ⟨hbytes, fun _ => hall⟩
    | error front errno hdata hio hret =>
      rw [hused] at hio
      obtain ⟨rfl, ⟨rfl, hbetween⟩ | ⟨⟨max, rest, rfl⟩, hinside⟩⟩ := interrupted_last hio hdata
      · -- no byte of a parcel was received
        left
        rw [hret, if_pos (by decide), recv_interrupted]
        exact ⟨hbetween, h.reading, h.finished⟩
      · right
        rw [hret, if_pos (by decide)]
        refine ⟨hinside, rfl, ?_⟩
        have hstream : s.stream ≠ [] := by
          intro hnone
          rw [recv_nothing max rest hnone] at hret
          exact absurd hret (by decide)
        have hne := hspec.progress max true _ rfl hstream h.reading.not_whole
        have hlen := congrArg List.length hspec.stream_eq
        have hpos := List.length_pos_iff.2 hne
        rw [List.length_append] at hlen
        dsimp only
        omega

/-- In every run in which the thread is interrupted only between two parcels it delivers every notification once, in
order; and the first round that is interrupted inside a parcel loses a part of that parcel. -/
theorem listenThread_delivers (hnotify : ∀ f ∈ ps, f.code = MEDIA_PARCEL_NOTIFY)
    (hfits : ∀ f ∈ ps, Fits w f.payload.length)
    (hs : ReachableVia (listenMachine w ps) (fun _ io => BetweenParcels io) s) :
    s.Delivers w ps ∧
      ∀ io s', (listenMachine w ps).next s io = some s' → (s'.Delivers w ps ↔ BetweenParcels io) := by
  have haligned : s.Aligned ps := by
    refine hs.invariant (listenMachine_start_aligned w ps) ?_
    intro s io s' h hbetween hstep
    rcases h.round hnotify hfits hstep with ⟨-, h'⟩ | ⟨hinside, -⟩
    · exact h'
    · exact absurd hbetween hinside
  refine ⟨haligned.delivers hfits, fun io s' hstep => ?_⟩
  rcases haligned.round hnotify hfits hstep with ⟨hbetween, h'⟩ | ⟨hinside, hevents, hlost⟩
  · exact iff_of_true (h'.delivers hfits) hbetween
  · refine iff_of_false (fun hdelivers => ?_) hinside
    have hlen := congrArg List.length (hdelivers.taken.trans haligned.reading.bytes.symm)
    rw [hevents, List.length_append, List.length_append, List.nil_append] at hlen
    omega

/-- A notification whose payload begins with the number 5. -/
def sampleNotices : List Frame := [⟨MEDIA_PARCEL_NOTIFY, [5, 0, 0, 0, 0, 0, 0, 0], by decide, by decide⟩]

/-- A signal comes after the header; the payload is read as a header then. -/
def sampleInterrupted : ListenRun :=
  ((listenMachine .w64 sampleNotices).runFrom (fun _ _ => True) (listenMachine .w64 sampleNotices).start
    [[.data 7, .interrupted], [.data 7]]).get (by decide)

theorem listenThread_invents : ¬ ∀ (w : SizeT) (ps : List Frame) (s : ListenRun),
    (∀ f ∈ ps, f.code = MEDIA_PARCEL_NOTIFY) → (∀ f ∈ ps, Fits w f.payload.length) →
      (listenMachine w ps).Reachable s → s.Delivers w ps := by
  intro h
  have hdelivers := h .w64 sampleNotices sampleInterrupted (by decide) (by decide) (reachableVia_get (by decide))
  have hevents : sampleInterrupted.events = [⟨MEDIA_PARCEL_NOTIFY, [], by decide, by decide⟩] := by decide
  have hprefix := hdelivers.inOrder
  rw [hevents] at hprefix
  exact absurd hprefix (by decide)

theorem listenThread_delivers_between :
    let s := ((listenMachine .w64 sampleNotices).runFrom (fun _ io => BetweenParcels io)
      (listenMachine .w64 sampleNotices).start [[.interrupted], [.data 2, .data 9, .data 3, .data 9], [.data 0]]).get
        (by decide)
    s.Delivers .w64 sampleNotices ∧ ∀ io s', (listenMachine .w64 sampleNotices).next s io = some s' →
      (s'.Delivers .w64 sampleNotices ↔ BetweenParcels io) :=
  listenThread_delivers (by decide) (by decide) (reachableVia_get (by decide))

end MediaFramework
