import MediaFramework.Parcel.ParcelFraming
import MediaFramework.Server.MediaServer

/-!
# Finalizing a connection while requests arrive (`server/media_server.c`)

`media_server_finalize` closes the socket for notifications, and it resets the offset of the parcel that is being
received as well.  Two runs of the same connection are compared: one in which it is called, by a command or by an
event between two polls, and one in which it is not.
-/

namespace MediaFramework

/-- What the handling of a parcel meets: whether a command in it calls `media_server_finalize`, and what
`media_server_create_notify` returns. -/
structure DispatchOutcome where
  finalize : Bool := false
  notifyFd : Int := -EINVAL

/-- The parcels that were handled, and the socket for notifications. -/
structure DispatchState where
  dispatched : List Frame := []
  notifyFd : Int := 0

/-- `media_server_finalize`, apart from the offset. -/
def DispatchState.finalize (s : DispatchState) : DispatchState :=
  if 0 < s.notifyFd then { s with notifyFd := 0 } else s

/-- The handling of a parcel in `media_server_receive`, by its code.  The loop sets the offset to 0 after it, so a
command that resets it changes nothing. -/
def dispatchParcel (env : Nat → DispatchOutcome) (s : DispatchState) (f : Frame) : DispatchState :=
  let o := env s.dispatched.length
  let s' := { s with dispatched := s.dispatched ++ [f] }
  if f.code = MEDIA_PARCEL_SEND ∨ f.code = MEDIA_PARCEL_SEND_ACK then if o.finalize then s'.finalize else s'
  else if f.code = MEDIA_PARCEL_CREATE_NOTIFY then { s' with notifyFd := o.notifyFd }
  else s'

/-- `media_server_finalize` between two polls. -/
def mediaServerReaderFinalize (c : ConnReader DispatchState) : ConnReader DispatchState :=
  if 0 < c.state.notifyFd then { c with offset := 0, state := c.state.finalize } else c

/-- A poll of the connection, while its socket is open. -/
def pollConn (w : SizeT) (env : Nat → DispatchOutcome) (i : ServerPoll) (c : ConnReader DispatchState) :
    ConnReader DispatchState :=
  if c.closed then c else mediaServerReceive w (dispatchParcel env) i c

inductive FinalizeInput
  | poll (i : ServerPoll)
  | finalize
  deriving DecidableEq

/-- The connection with the calls of `media_server_finalize`, and the same connection without them. -/
def finalizeMachine (w : SizeT) (env : Nat → DispatchOutcome) (stream : List UInt8) :
    Machine (ConnReader DispatchState × ConnReader DispatchState) FinalizeInput where
  start := (⟨mediaParcelInit, 0, stream, {}, false⟩, ⟨mediaParcelInit, 0, stream, {}, false⟩)
  next p i :=
    match i with
    | .poll i => some (pollConn w env i p.1, pollConn w (fun n => { env n with finalize := false }) i p.2)
    | .finalize => some (mediaServerReaderFinalize p.1, p.2)

/-- Where an event finalizes a connection with a socket for notifications, no part of a parcel has arrived. -/
def BetweenRequests (p : ConnReader DispatchState × ConnReader DispatchState) : FinalizeInput → Prop
  | .poll _ => True
  | .finalize => 0 < p.1.state.notifyFd → p.1.offset = 0

/-! ### Two connections with the same bytes -/

section Same

variable {σ τ : Type} {R : σ → τ → Prop} {handle : σ → Frame → σ} {handle' : τ → Frame → τ} {w : SizeT}

/-- Two connections that have received the same, with states that `R` relates. -/
structure SameReader (R : σ → τ → Prop) (c : ConnReader σ) (d : ConnReader τ) : Prop where
  parcel : c.parcel = d.parcel
  offset : c.offset = d.offset
  stream : c.stream = d.stream
  closed : c.closed = d.closed
  state : R c.state d.state

/-- The loop takes both through the same parcels. -/
theorem mediaServerReceiveLoop_same (hR : ∀ s t f, R s t → R (handle s f) (handle' t f)) (fuel : Nat) :
    ∀ (io : List RecvStep) (c : ConnReader σ) (d : ConnReader τ), SameReader R c d →
      (mediaServerReceiveLoop w handle fuel io c).1 = (mediaServerReceiveLoop w handle' fuel io d).1 ∧
        SameReader R (mediaServerReceiveLoop w handle fuel io c).2 (mediaServerReceiveLoop w handle' fuel io d).2 := by
  induction fuel with
  | zero => exact fun _ _ _ h => ⟨rfl, h⟩
  | succ fuel ih =>
    intro io c d h
    rw [mediaServerReceiveLoop, mediaServerReceiveLoop, ← h.parcel, ← h.offset, ← h.stream]
    dsimp only
    split
    · exact ⟨rfl, rfl, rfl, rfl, h.closed, h.state⟩
    · exact ih _ _ _ ⟨rfl, rfl, rfl, h.closed, hR _ _ _ h.state⟩

theorem SameReader.close {c : ConnReader σ} {d : ConnReader τ} (h : SameReader R c d) :
    SameReader R (mediaServerConnClose c) (mediaServerConnClose d) :=
  ⟨h.parcel, rfl, h.stream, rfl, h.state⟩

theorem SameReader.receive {c : ConnReader σ} {d : ConnReader τ} (hR : ∀ s t f, R s t → R (handle s f) (handle' t f))
    (h : SameReader R c d) (i : ServerPoll) :
    SameReader R (mediaServerReceive w handle i c) (mediaServerReceive w handle' i d) := by
  unfold mediaServerReceive
  by_cases herr : i.pollerr = true
  · rw [if_pos herr, if_pos herr]
    exact h.close
  · rw [if_neg herr, if_neg herr]
    obtain ⟨hret, hloop⟩ := mediaServerReceiveLoop_same (w := w) hR (i.io.length + 1) i.io c d h
    dsimp only
    rw [hret]
    split
    · exact hloop.close
    · exact hloop

end Same

/-! ### Runs -/

theorem DispatchState.finalize_dispatched (s : DispatchState) : s.finalize.dispatched = s.dispatched := by
  unfold DispatchState.finalize
  split <;> rfl

/-- Whatever the outcomes, the parcel is the next one that was handled. -/
theorem dispatchParcel_dispatched (env : Nat → DispatchOutcome) (s : DispatchState) (f : Frame) :
    (dispatchParcel env s f).dispatched = s.dispatched ++ [f] := by
  unfold dispatchParcel
  dsimp only
  split_ifs
  · rw [DispatchState.finalize_dispatched]
  all_goals rfl

/-- As long as an event finalizes the connection between two parcels only, the parcels that are handled are those of the
run without the calls. -/
theorem finalizeRun_sameParcels {w : SizeT} {env : Nat → DispatchOutcome} {stream : List UInt8}
    {p : ConnReader DispatchState × ConnReader DispatchState}
    (h : (finalizeMachine w env stream).ReachableVia BetweenRequests p) :
    p.1.state.dispatched = p.2.state.dispatched := by
  have hsame : SameReader (fun s t : DispatchState => s.dispatched = t.dispatched) p.1 p.2 := by
    refine h.invariant (P := fun p => SameReader (fun s t : DispatchState => s.dispatched = t.dispatched) p.1 p.2)
      ⟨rfl, rfl, rfl, rfl, rfl⟩ ?_
    intro p i p' hp hi hn
    cases i with
    | poll i =>
      cases hn
      dsimp only [pollConn]
      rw [← hp.closed]
      split
      · exact hp
      · refine hp.receive ?_ i
        intro s t f hst
        rw [dispatchParcel_dispatched, dispatchParcel_dispatched, hst]
    | finalize =>
      cases hn
      dsimp only [mediaServerReaderFinalize]
      split
      · rename_i hopen
        -- the offset was 0 already
        refine ⟨hp.parcel, ?_, hp.stream, hp.closed, ?_⟩
        · rw [← hp.offset]
          exact (hi hopen).symm
        · rw [← hp.state]
          exact DispatchState.finalize_dispatched _
      · exact hp
  exact hsame.state

/-! ### Runs that meet the condition, and one that does not -/

instance (p : ConnReader DispatchState × ConnReader DispatchState) : ∀ i, Decidable (BetweenRequests p i)
  | .poll _ => isTrue trivial
  | .finalize => inferInstanceAs (Decidable (_ → _))

/-- The client asks for a socket for notifications, and sends a request. -/
def sampleFinalizes : List UInt8 :=
  bytes32 MEDIA_PARCEL_CREATE_NOTIFY ++ bytes32 0 ++ bytes32 MEDIA_PARCEL_SEND ++ bytes32 4 ++ [1, 2, 3, 4]

def samplePoll (io : List RecvStep) : FinalizeInput := .poll ⟨true, false, false, io⟩

/-- The connection is finalized when the first parcel has been handled. -/
def sampleFinalized : ConnReader DispatchState × ConnReader DispatchState :=
  ((finalizeMachine .w32 (fun _ => { notifyFd := 5 }) sampleFinalizes).runFrom BetweenRequests
    (finalizeMachine .w32 (fun _ => { notifyFd := 5 }) sampleFinalizes).start
    [samplePoll [.data 7 true], .finalize, samplePoll [.data 7 true, .data 7 true]]).get (by decide)

theorem finalizeRun_sameParcels_sample :
    sampleFinalized.1.state.dispatched = sampleFinalized.2.state.dispatched ∧
      sampleFinalized.1.state.dispatched.length = 2 := by
  have h : (finalizeMachine .w32 (fun _ => { notifyFd := 5 }) sampleFinalizes).ReachableVia BetweenRequests
      sampleFinalized := Machine.reachableVia_get (by decide)
  exact ⟨finalizeRun_sameParcels h, by decide⟩

/-- The connection is finalized when four bytes of the request are there. -/
def sampleCut : ConnReader DispatchState × ConnReader DispatchState :=
  ((finalizeMachine .w32 (fun _ => { notifyFd := 5 }) sampleFinalizes).runFrom (fun _ _ => True)
    (finalizeMachine .w32 (fun _ => { notifyFd := 5 }) sampleFinalizes).start
    [samplePoll [.data 7 true, .data 3 true], .finalize, samplePoll [.data 7 true, .data 7 true]]).get (by decide)

/-- Without the condition a request may get lost. -/
theorem finalizeRun_not_sameParcels : ¬ ∀ (w : SizeT) (env : Nat → DispatchOutcome) (stream : List UInt8)
    (p : ConnReader DispatchState × ConnReader DispatchState),
    (finalizeMachine w env stream).Reachable p → p.1.state.dispatched = p.2.state.dispatched := by
  intro h
  have hsame := h .w32 (fun _ => { notifyFd := 5 }) sampleFinalizes sampleCut (Machine.reachableVia_get (by decide))
  have hlen := congrArg List.length hsame
  revert hlen
  decide

end MediaFramework
