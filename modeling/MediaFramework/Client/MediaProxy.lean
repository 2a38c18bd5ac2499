import MediaFramework.Parcel.ParcelFraming
import MediaFramework.Parcel.ParcelSend

/-!
# Synchronous requests (`media_proxy_send_with_ack`)

A client sends a request and reads the reply, over a connection to a server that handles requests one after the
other.  Nothing on the wire says which request a reply is for: it is the reply that comes next.  A call that fails
half way leaves a part of its request or of its reply on the connection.  As long as no call is made after such a call,
every call that succeeds has the reply to its own request.
-/

namespace MediaFramework

open Framing

/-! ### The server's side -/

/-- A request that was handled: the place in the stream where it begins, and the reply to it. -/
structure Served where
  start : Nat
  request : Frame
  reply : Frame
  deriving DecidableEq

/-- What handling parcels changes: the requests handled, all parcels handled so far, the place in the stream where the
next one begins, the bytes on the way to the client, and the outcomes of the sends to come, reply by reply. -/
structure ReplySide where
  served : List Served
  history : List Frame
  start : Nat
  toClient : List UInt8
  replyIo : List (List SendStep)

/-- The `switch` of `media_server_receive`.  The reply that `onreceive` writes may depend on everything handled
before.  Nobody looks at the result of sending it. -/
def mediaServerHandle (onreceive : List Frame → Frame → MediaParcel) (s : ReplySide) (parcel : Frame) : ReplySide :=
  let next := { s with history := s.history ++ [parcel], start := s.start + parcel.encode.length }
  if parcel.code = MEDIA_PARCEL_SEND_ACK then
    let ack := onreceive s.history parcel
    let r := mediaParcelSend ack MEDIA_PARCEL_REPLY (s.replyIo.headD [])
    { next with
      served := s.served ++ [⟨s.start, parcel, ack.frameWithCode MEDIA_PARCEL_REPLY⟩]
      toClient := s.toClient ++ r.sent
      replyIo := s.replyIo.tail }
  else next

/-! ### The client's side -/

/-- A call that returned 0: the place where its request begins, the request, and the parcel in `out`. -/
structure Completed where
  start : Nat
  request : Frame
  out : Frame
  deriving DecidableEq

/-- A connection between a client and the server.  The mutex lets one call in at a time; between its two halves,
sending and receiving, the client is `waiting` for the reply to a request that begins at some place of the stream. -/
structure AckRun where
  conn : ConnReader ReplySide
  position : Nat
  waiting : Option (Nat × Frame)
  spoiled : Bool
  results : List Completed

/-- The first half of `media_proxy_send_with_ack`.  A call that fails after some bytes were sent spoils the stream. -/
def mediaProxySendWithAckSend (s : AckRun) (parcel : MediaParcel) (io : List SendStep) : AckRun :=
  let r := mediaParcelSend parcel MEDIA_PARCEL_SEND_ACK io
  let s' := { s with
    conn := { s.conn with stream := s.conn.stream ++ r.sent }
    position := s.position + r.sent.length }
  if r.ret < 0 then { s' with spoiled := s.spoiled || decide (r.sent ≠ []) }
  else { s' with waiting := some (s.position, parcel.frameWithCode MEDIA_PARCEL_SEND_ACK) }

/-- The second half, with an initialised `out`. -/
def mediaProxySendWithAckRecv (w : SizeT) (s : AckRun) (start : Nat) (request : Frame) (io : List RecvStep) : AckRun :=
  let r := mediaParcelRecv w io mediaParcelInit 0 s.conn.state.toClient
  let s' := { s with
    conn := { s.conn with state := { s.conn.state with toClient := r.stream } }
    waiting := none }
  if r.ret < 0 then { s' with spoiled := true }
  else if r.parcel.code ≠ MEDIA_PARCEL_REPLY then { s' with spoiled := true }
  else { s' with results := s.results ++ [⟨start, request, r.parcel.frame⟩] }

/-- A thread makes a call and sends its request, the call goes on to receive, or the server polls the connection and
sends replies. -/
inductive AckInput
  | send (parcel : MediaParcel) (io : List SendStep)
  | recv (io : List RecvStep)
  | serve (poll : ServerPoll) (replyIo : List (List SendStep))

/-- Client and server, where `size_t` has the widths `wc` and `ws`.  Allocations succeed. -/
def ackMachine (wc ws : SizeT) (onreceive : List Frame → Frame → MediaParcel) : Machine AckRun AckInput where
  start := ⟨⟨mediaParcelInit, 0, [], ⟨[], [], 0, [], []⟩, false⟩, 0, none, false, []⟩
  next s
    | .send parcel io =>
      match s.waiting with
      | none => some (mediaProxySendWithAckSend s parcel io)
      | some _ => none
    | .recv io =>
      match s.waiting with
      | none => none
      | some (start, request) =>
        some (mediaProxySendWithAckRecv wc s start request (io.map RecvStep.withMemory))
    | .serve poll replyIo =>
      if s.conn.closed then none
      else some { s with
        conn := mediaServerReceive ws (mediaServerHandle onreceive)
          { poll with io := poll.io.map RecvStep.withMemory }
          { s.conn with state := { s.conn.state with replyIo } } }

/-- Every call that returned 0 has in `out` the reply that the server produced for the request of that call. -/
def AckRun.RepliesMatch (s : AckRun) : Prop :=
  ∀ c ∈ s.results, ⟨c.start, c.request, c.out⟩ ∈ s.conn.state.served

/-- The condition on a step: a call is made only if no call before failed after the first byte of its request was
sent, and the payloads of requests and replies fit into the `size_t` of those who receive them. -/
def AckAllowed (wc ws : SizeT) (s : AckRun) : AckInput → Prop
  | .send parcel _ => s.spoiled = false ∧ Fits ws parcel.len
  | .recv _ => ∀ v ∈ s.conn.state.served, Fits wc v.reply.payload.length
  | .serve _ _ => True

/-! ### The streams between two calls and during a call -/

variable {wc ws : SizeT} {onreceive : List Frame → Frame → MediaParcel}

/-- Nothing is on the way and the server is at the start of a parcel, namely of the next request. -/
def IdleSide (position : Nat) (done : List Frame) (s : ReplySide) : Prop :=
  done = [] ∧ s.start = position ∧ s.toClient = []

/-- The request has not been handled, or the reply to it, or the beginning of it, is on the way. -/
def WaitingSide (start : Nat) (request : Frame) (done : List Frame) (s : ReplySide) : Prop :=
  done = [] ∧ s.start = start ∧ s.toClient = [] ∨
    done = [request] ∧ s.start = start + request.encode.length ∧
      ∃ reply, ⟨start, request, reply⟩ ∈ s.served ∧ s.toClient <+: reply.encode

/-- The streams are as the calls expect them. -/
def AckRun.Aligned (ws : SizeT) (s : AckRun) : Prop :=
  match s.waiting with
  | none => s.conn.Reads [] (IdleSide s.position)
  | some (start, request) =>
    s.position = start + request.encode.length ∧ request.code = MEDIA_PARCEL_SEND_ACK ∧
      Fits ws request.payload.length ∧ s.conn.Reads [request] (WaitingSide start request)

/-- The streams are aligned unless a call has spoiled them, and what was returned is right. -/
structure AckRun.Sound (ws : SizeT) (s : AckRun) : Prop where
  aligned : s.spoiled = false → s.Aligned ws
  spoiled : s.spoiled = true → s.waiting = none
  matched : s.RepliesMatch

/-- A request of a call. -/
theorem AckRun.Sound.send {s : AckRun} (h : s.Sound ws) (hidle : s.waiting = none) {parcel : MediaParcel}
    (hg : s.spoiled = false ∧ Fits ws parcel.len) (io : List SendStep) :
    (mediaProxySendWithAckSend s parcel io).Sound ws := by
  obtain ⟨hspoiled, hfits⟩ := hg
  have haligned := h.aligned hspoiled
  simp only [AckRun.Aligned, hidle] at haligned
  obtain ⟨hbegin, hret, hall, -⟩ := mediaParcelSend_spec parcel MEDIA_PARCEL_SEND_ACK io
  unfold mediaProxySendWithAckSend
  generalize mediaParcelSend parcel MEDIA_PARCEL_SEND_ACK io = r at *
  dsimp only
  split
  · by_cases hsent : r.sent = []
    · -- nothing was sent
      refine ⟨fun _ => ?_, fun hs => ?_, h.matched⟩
      · simpa [AckRun.Aligned, hidle, hsent] using haligned
      · simp [hspoiled, hsent] at hs
    · exact ⟨fun hs => by simp [hsent] at hs, fun _ => hidle, h.matched⟩
  · have hsent := hall (by omega) hfits.2
    refine ⟨fun _ => ?_, fun hs => by simp [hspoiled] at hs, h.matched⟩
    obtain ⟨pre, done, hr, ⟨rfl, hstart, hclient⟩, hoffset⟩ := haligned
    obtain ⟨rfl, hrest⟩ : pre = [] ∧ s.conn.stream = [] := by simpa using hr.bytes
    have hparcel := hr.empty rfl
    refine ⟨?_, ?_, ?_, [], [], ?_, .inl ⟨rfl, hstart, hclient⟩, hoffset⟩
    · dsimp only
      rw [hsent]
    · exact MediaParcel.withCode_code parcel (by decide)
    · simpa [MediaParcel.frameWithCode] using hfits
    · dsimp only
      rw [hparcel, hrest, hsent, List.nil_append]
      simpa using reading_start [parcel.frameWithCode MEDIA_PARCEL_SEND_ACK]

/-- The server handles what has arrived. -/
theorem AckRun.Sound.serve {s : AckRun} (h : s.Sound ws) (hopen : s.conn.closed = false) (poll : ServerPoll)
    (hio : AllocationsSucceed poll.io) (replyIo : List (List SendStep)) :
    AckRun.Sound ws { s with
      conn := mediaServerReceive ws (mediaServerHandle onreceive) poll
        { s.conn with state := { s.conn.state with replyIo } } } := by
  refine ⟨fun hspoiled => ?_, h.spoiled, fun c hc => ?_⟩
  · have haligned := h.aligned hspoiled
    cases hwaiting : s.waiting with
    | none =>
      simp only [AckRun.Aligned, hwaiting] at haligned ⊢
      obtain ⟨pre, done, hr, hside, hoffset⟩ := haligned
      have hkeep : HandleKeeps [] (mediaServerHandle onreceive) (IdleSide s.position) := by
        intro done f st hd
        have := hd.length_le
        simp at this
      have hconn : ConnReader.Reads [] (IdleSide s.position)
          { s.conn with state := { s.conn.state with replyIo } } := ⟨pre, done, hr, hside, hoffset⟩
      exact hconn.receive (by simp) hkeep hopen poll hio
    | some call =>
      obtain ⟨start, request⟩ := call
      simp only [AckRun.Aligned, hwaiting] at haligned ⊢
      obtain ⟨hposition, hcode, hfits, pre, done, hr, hside, hoffset⟩ := haligned
      have hkeep : HandleKeeps [request] (mediaServerHandle onreceive) (WaitingSide start request) := by
        rintro done f st hd (⟨rfl, hstart, hclient⟩ | ⟨rfl, -⟩)
        · obtain rfl : f = request := by simpa using hd
          obtain ⟨hbegin, -⟩ := mediaParcelSend_spec (onreceive st.history f) MEDIA_PARCEL_REPLY (st.replyIo.headD [])
          right
          unfold mediaServerHandle
          rw [if_pos hcode]
          refine ⟨rfl, ?_, (onreceive st.history f).frameWithCode MEDIA_PARCEL_REPLY, ?_, ?_⟩
          · dsimp only
            rw [hstart]
          · rw [hstart]
            exact List.mem_append_right _ (List.mem_singleton_self _)
          · dsimp only
            rw [hclient, List.nil_append]
            exact hbegin
        · have := hd.length_le
          simp at this
      refine ⟨hposition, hcode, hfits, ?_⟩
      have hconn : ConnReader.Reads [request] (WaitingSide start request)
          { s.conn with state := { s.conn.state with replyIo } } := ⟨pre, done, hr, hside, hoffset⟩
      exact hconn.receive (by simpa using hfits) hkeep hopen poll hio
  · refine mediaServerReceive_state (Q := fun st : ReplySide => (⟨c.start, c.request, c.out⟩ : Served) ∈ st.served)
      (fun st f hm => ?_) _ _ (h.matched c hc)
    unfold mediaServerHandle
    dsimp only
    split
    · exact List.mem_append_left _ hm
    · exact hm

/-- The second half of a call that meets the condition. -/
theorem AckRun.Sound.recv {s : AckRun} (h : s.Sound ws) {start : Nat} {request : Frame}
    (hwaiting : s.waiting = some (start, request))
    (hg : ∀ v ∈ s.conn.state.served, Fits wc v.reply.payload.length) (io : List RecvStep) :
    (mediaProxySendWithAckRecv wc s start request io).Sound ws := by
  have hspoiled : s.spoiled = false := by
    by_contra hs
    have := h.spoiled (by simpa using hs)
    rw [hwaiting] at this
    cases this
  have haligned := h.aligned hspoiled
  simp only [AckRun.Aligned, hwaiting] at haligned
  obtain ⟨hposition, hcode, hfits, pre, done, hr, hside, hoffset⟩ := haligned
  have hheader : HeaderFits wc ([] ++ s.conn.state.toClient) := by
    intro hlen
    obtain ⟨-, -, hclient⟩ | ⟨-, -, reply, hserved, x, hx⟩ := hside
    · rw [hclient] at hlen
      simp [MEDIA_PARCEL_HEADER_LEN] at hlen
    · rw [List.nil_append] at hlen ⊢
      have hlenOf := lenOf_append hlen x
      rw [hx, ← List.append_nil reply.encode, lenOf_encode_append] at hlenOf
      rw [← hlenOf]
      exact hg _ hserved
  obtain ⟨bs, hspec⟩ := mediaParcelRecv_spec (w := wc) io receiving_init hheader
  unfold mediaProxySendWithAckRecv
  rw [List.length_nil] at hspec
  generalize mediaParcelRecv wc io mediaParcelInit 0 s.conn.state.toClient = r at *
  dsimp only
  split
  · exact ⟨(by rintro ⟨⟩), fun _ => rfl, h.matched⟩
  · split
    · exact ⟨(by rintro ⟨⟩), fun _ => rfl, h.matched⟩
    · rename_i hret _
      obtain ⟨hwhole, hgrow⟩ := hspec.whole (Int.le_antisymm hspec.ret_nonpos (by omega))
      have hreceiving : Receiving r.parcel bs := by simpa [hgrow] using hspec.received
      have hencode := hreceiving.encode_frame hwhole
      have hstream := hspec.stream_eq
      obtain ⟨-, -, hclient⟩ | ⟨rfl, hstart, reply, hserved, x, hx⟩ := hside
      · -- nothing can have been received before the request was handled
        obtain ⟨rfl, -⟩ : bs = [] ∧ r.stream = [] := by simpa [hclient] using hstream
        exact absurd hencode (prefixCode_encode.ne_nil _)
      · have hout : r.parcel.frame.encode ++ (r.stream ++ x) = reply.encode ++ [] := by
          rw [hencode, ← List.append_assoc, ← hstream, hx, List.append_nil]
        obtain rfl := prefixCode_encode.inj hout
        obtain ⟨hrest, -⟩ : r.stream = [] ∧ x = [] := by simpa using List.append_cancel_left hout
        refine ⟨fun _ => ?_, fun hs => by simp [hspoiled] at hs, fun c hc => ?_⟩
        · obtain ⟨rfl, hend⟩ : pre = [] ∧ s.conn.stream = [] := by simpa using hr.bytes
          refine ⟨[], [], ⟨by simp [hend], hr.receiving, hr.not_whole, hr.empty⟩, ⟨rfl, ?_, hrest⟩, hoffset⟩
          dsimp only
          rw [hstart, hposition]
        · rcases List.mem_append.1 hc with hm | hm
          · exact h.matched c hm
          · rw [List.mem_singleton.1 hm]
            exact hserved

/-- In every run in which no call follows one that failed after its first byte was sent, a call that returns 0 has the
reply to its own request. -/
theorem ackRun_repliesMatch {s : AckRun}
    (h : (ackMachine wc ws onreceive).ReachableVia (AckAllowed wc ws) s) : s.RepliesMatch := by
  have hsound : s.Sound ws := by
    refine h.invariant (P := AckRun.Sound ws) ⟨fun _ => ?_, fun _ => rfl, by simp [AckRun.RepliesMatch, ackMachine]⟩ ?_
    · exact ⟨[], [], reading_start [], ⟨rfl, rfl, rfl⟩, .inl rfl⟩
    · intro s i s' hs hg hn
      cases i with
      | send parcel io =>
        simp only [ackMachine] at hn
        split at hn
        · rename_i hidle
          cases hn
          exact hs.send hidle hg io
        · cases hn
      | recv io =>
        simp only [ackMachine] at hn
        split at hn
        · cases hn
        · rename_i start request hwaiting
          cases hn
          exact hs.recv hwaiting hg _
      | serve poll replyIo =>
        simp only [ackMachine] at hn
        split at hn
        · cases hn
        · rename_i hopen
          cases hn
          exact hs.serve (by simpa using hopen) _ (allocationsSucceed_withMemory poll.io) replyIo
  exact hsound.matched

/-! ### Runs that meet the condition, and one that does not -/

instance (s : AckRun) : Decidable s.RepliesMatch := inferInstanceAs (Decidable (∀ _ ∈ _, _))

instance (wc ws : SizeT) (s : AckRun) : ∀ i, Decidable (AckAllowed wc ws s i)
  | .send _ _ => inferInstanceAs (Decidable (_ ∧ _))
  | .recv _ => inferInstanceAs (Decidable (∀ _ ∈ _, _))
  | .serve _ _ => isTrue trivial

/-- A server that replies with the number of requests before. -/
def sampleCounter (history : List Frame) (_ : Frame) : MediaParcel :=
  { mediaParcelInit with mem := store (store mediaParcelInit.mem 4 (bytes32 1)) 8 [UInt8.ofNat history.length] }

/-- The server polls the connection and its sends succeed. -/
def sampleServe : AckInput := .serve ⟨true, false, false, [.data 100 true, .error 10]⟩ [[.sent 100]]

/-- A call is interrupted before its first byte, and another one then has its reply. -/
def sampleAckRun : AckRun :=
  ((ackMachine .w32 .w64 sampleCounter).runFrom (AckAllowed .w32 .w64) (ackMachine .w32 .w64 sampleCounter).start
    [.send mediaParcelInit [.error 3], .send mediaParcelInit [.sent 2, .sent 100], sampleServe,
      .recv [.data 2 true, .data 100 true, .data 100 true]]).get (by decide)

theorem ackRun_repliesMatch_sample : sampleAckRun.RepliesMatch := by
  have h : (ackMachine .w32 .w64 sampleCounter).ReachableVia (AckAllowed .w32 .w64) sampleAckRun :=
    Machine.reachableVia_get (by decide)
  exact ackRun_repliesMatch h

/-- A call is interrupted while it waits for its reply, and the next one finds that reply. -/
def sampleMismatchRun : AckRun :=
  ((ackMachine .w32 .w64 sampleCounter).runFrom (fun _ _ => True) (ackMachine .w32 .w64 sampleCounter).start
    [.send mediaParcelInit [.sent 100], sampleServe, .recv [.error 3], .send mediaParcelInit [.sent 100], sampleServe,
      .recv [.data 100 true, .data 100 true]]).get (by decide)

/-- Without the condition a call can return the reply to another request. -/
theorem ackRun_mismatch : ¬ ∀ (wc ws : SizeT) (onreceive : List Frame → Frame → MediaParcel) (s : AckRun),
    (ackMachine wc ws onreceive).Reachable s → s.RepliesMatch := by
  intro h
  have hmatch := h .w32 .w64 sampleCounter sampleMismatchRun (Machine.reachableVia_get (by decide))
  revert hmatch
  decide

end MediaFramework
