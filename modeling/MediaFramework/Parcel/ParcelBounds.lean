import MediaFramework.Library.Machine
import MediaFramework.Parcel.ParcelRecv

/-!
# Received bytes stay in the chunk

A run calls `media_parcel_recv` any number of times on the same parcel and offset, as `media_server_receive` does
after an error, and starts over with an initialised parcel when it likes.  The ranges asked for lie inside the chunk
as long as the peer announces lengths that fit and nobody goes on with a parcel that could not grow.
-/

namespace MediaFramework

/-- A parcel and its offset between two calls, with the bytes received for it so far, the bytes that are still to come
from the peer, whether growing has failed, and all calls of `recv` made so far. -/
structure RecvRun where
  parcel : MediaParcel
  offset : Nat
  received : List UInt8
  stream : List UInt8
  growFailed : Bool
  issues : List RecvIssue

/-- A call with the outcomes of the system calls in it, or the start of a new parcel. -/
inductive RecvInput
  | call (io : List RecvStep)
  | reinit
  deriving DecidableEq, Repr

def RecvRun.call (w : SizeT) (s : RecvRun) (io : List RecvStep) : RecvRun :=
  let r := mediaParcelRecv w io s.parcel s.offset s.stream
  { parcel := r.parcel
    offset := r.offset
    received := s.received ++ s.stream.take (s.stream.length - r.stream.length)
    stream := r.stream
    growFailed := s.growFailed || r.growFailed
    issues := s.issues ++ r.issues }

def recvMachine (w : SizeT) (stream : List UInt8) : Machine RecvRun RecvInput where
  start := ⟨mediaParcelInit, 0, [], stream, false, []⟩
  next s
    | .call io => some (s.call w io)
    | .reinit => some { s with parcel := mediaParcelReinit s.parcel, offset := 0, received := [], growFailed := false }

/-- The condition on a call: the length in the header sent by the peer fits, and the parcel did not fail to grow,
unless its payload fits into the parcel itself. -/
def RecvAllowed (w : SizeT) (s : RecvRun) : RecvInput → Prop
  | .call _ => HeaderFits w (s.received ++ s.stream) ∧ (s.growFailed = true → s.parcel.len ≤ MEDIA_PARCEL_DATA_LEN)
  | .reinit => True

/-- Each `recv` so far stayed inside the chunk and no total length wrapped. -/
def RecvRun.InChunk (s : RecvRun) : Prop := ∀ issue ∈ s.issues, issue.InChunk

variable {w : SizeT} {stream : List UInt8}

/-- The chunk has room for all that may come, or it could not grow and nothing may come. -/
def RecvRun.Sound (s : RecvRun) : Prop :=
  s.offset = s.received.length ∧
    (Receiving s.parcel s.received ∨ s.growFailed = true ∧ Stuck s.parcel s.received) ∧
    s.InChunk

theorem RecvRun.Sound.call {s : RecvRun} (h : s.Sound) {io : List RecvStep} (hg : RecvAllowed w s (.call io)) :
    (s.call w io).Sound := by
  obtain ⟨hoffset, hparcel, hissues⟩ := h
  obtain ⟨hfits, hretry⟩ := hg
  have hreceiving : Receiving s.parcel s.received := by
    obtain hr | ⟨hfailed, -, hlen, hbig⟩ := hparcel
    · exact hr
    · have := hretry hfailed
      omega
  obtain ⟨bs, hspec⟩ := mediaParcelRecv_spec io hreceiving hfits
  rw [← hoffset] at hspec
  have htake : s.stream.take (s.stream.length - (mediaParcelRecv w io s.parcel s.offset s.stream).stream.length) =
      bs := by
    have hstream := hspec.stream_eq
    generalize mediaParcelRecv w io s.parcel s.offset s.stream = r at hstream
    rw [hstream, List.length_append, Nat.add_sub_cancel, List.take_left]
  simp only [RecvRun.call, htake]
  refine ⟨hspec.offset_eq, ?_, ?_⟩
  · exact hspec.received.imp_right fun ⟨hf, hstuck⟩ => ⟨by simp [hf], hstuck⟩
  · intro issue hi
    rcases List.mem_append.1 hi with hi | hi
    · exact hissues issue hi
    · exact hspec.inChunk issue hi

/-- In every run whose calls meet the condition each `recv` stays inside the chunk and no total length wraps. -/
theorem recvRun_inChunk {s : RecvRun} (h : (recvMachine w stream).ReachableVia (RecvAllowed w) s) : s.InChunk := by
  have hsound : s.Sound := by
    refine h.invariant (P := RecvRun.Sound) ⟨rfl, .inl receiving_init, by simp [recvMachine, RecvRun.InChunk]⟩ ?_
    intro s i s' hs hg hn
    cases i with
    | call io =>
      cases hn
      exact hs.call hg
    | reinit =>
      cases hn
      exact ⟨rfl, .inl receiving_init, hs.2.2⟩
  exact hsound.2.2

/-! ### Runs that meet the condition, and one that does not -/

instance (w : SizeT) (s : RecvRun) : ∀ i, Decidable (RecvAllowed w s i)
  | .call _ => inferInstanceAs (Decidable (_ ∧ _))
  | .reinit => isTrue trivial

instance (issue : RecvIssue) : Decidable issue.InChunk := inferInstanceAs (Decidable (_ ∧ _))

instance (s : RecvRun) : Decidable s.InChunk := inferInstanceAs (Decidable (∀ _ ∈ _, _))

/-- A header that announces 1000 bytes, and some of them. -/
def samplePeer : List UInt8 := bytes32 MEDIA_PARCEL_SEND ++ bytes32 1000 ++ List.replicate 20 0xff

/-- The header comes in two pieces, with an error in between. -/
def sampleRecvRun : RecvRun :=
  ((recvMachine .w32 samplePeer).runFrom (RecvAllowed .w32) (recvMachine .w32 samplePeer).start
    [.call [.data 4 true, .error 10], .call [.data 4 true, .data 10 true]]).get (by decide)

theorem recvRun_inChunk_sample : sampleRecvRun.InChunk := by
  have h : (recvMachine .w32 samplePeer).ReachableVia (RecvAllowed .w32) sampleRecvRun :=
    Machine.reachableVia_get (by decide)
  exact recvRun_inChunk h

/-- There is no memory for the payload, and the server calls again. -/
def sampleRetryRun : RecvRun :=
  ((recvMachine .w64 samplePeer).runFrom (fun _ _ => True) (recvMachine .w64 samplePeer).start
    [.call [.data 7 false], .call [.data 10 true]]).get (by decide)

/-- Without the condition bytes are received outside of the chunk. -/
theorem recvRun_outOfChunk : ¬ ∀ (w : SizeT) (stream : List UInt8) (s : RecvRun),
    (recvMachine w stream).Reachable s → s.InChunk := by
  intro h
  have hin := h .w64 samplePeer sampleRetryRun (Machine.reachableVia_get (by decide))
  revert hin
  decide

end MediaFramework
