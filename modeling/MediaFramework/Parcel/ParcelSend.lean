import MediaFramework.Parcel.MediaParcel

/-!
# Sending a parcel (`media_parcel_send`)

A parcel is written by `send` after `send`, each of which may take only some of the bytes.  The loop stops at the
first error, wherever in the parcel that is.
-/

namespace MediaFramework

/-- The outcome of one `send`: at most `max + 1` bytes are taken; or there is an error with the errno `errno + 1`, such
as one that says that there is no room now. -/
inductive SendStep
  | sent (max : Nat)
  | error (errno : Nat)
  deriving DecidableEq, Repr

/-- The first `send` takes something. -/
def takesSome : List SendStep → Bool
  | .sent _ :: _ => true
  | _ => false

/-- Result of `media_parcel_send`, with the bytes that were taken and the outcomes left over. -/
structure SendResult where
  ret : Int
  sent : List UInt8
  io : List SendStep

/-- The loop of `media_parcel_send` over the bytes that are left.  When the outcomes are used up there is no room for
now. -/
def mediaParcelSendLoop : List SendStep → List UInt8 → SendResult
  | io, [] => ⟨0, [], io⟩
  | [], _ :: _ => ⟨-EAGAIN, [], []⟩
  | .error errno :: io, _ :: _ => ⟨-(errno + 1), [], io⟩
  | .sent max :: io, b :: bs =>
    let r := mediaParcelSendLoop io ((b :: bs).drop (max + 1))
    { r with sent := (b :: bs).take (max + 1) ++ r.sent }

/-- The parcel with its code filled in. -/
def MediaParcel.withCode (p : MediaParcel) (code : Nat) : MediaParcel :=
  { p with mem := store p.mem 0 (bytes32 code) }

/-- The bytes that `media_parcel_send` writes; their number is computed in 32 bits. -/
def MediaParcel.wire (p : MediaParcel) : List UInt8 :=
  (List.range ((MEDIA_PARCEL_HEADER_LEN + p.len) % 2 ^ 32)).map p.mem

def mediaParcelSend (p : MediaParcel) (code : Nat) (io : List SendStep) : SendResult :=
  mediaParcelSendLoop io (p.withCode code).wire

/-- What was taken is the beginning of the parcel, all of it when the call succeeds.  Nothing is taken unless the first
outcome is that something is. -/
theorem mediaParcelSendLoop_spec (io : List SendStep) : ∀ bytes : List UInt8,
    (mediaParcelSendLoop io bytes).sent <+: bytes ∧ (mediaParcelSendLoop io bytes).ret ≤ 0 ∧
      ((mediaParcelSendLoop io bytes).ret = 0 → (mediaParcelSendLoop io bytes).sent = bytes) ∧
      (takesSome io = false → (mediaParcelSendLoop io bytes).sent = []) := by
  induction io with
  | nil =>
    intro bytes
    cases bytes with
    | nil => simp [mediaParcelSendLoop]
    | cons b bs => simp [mediaParcelSendLoop, EAGAIN]
  | cons step io ih =>
    intro bytes
    cases bytes with
    | nil => simp [mediaParcelSendLoop]
    | cons b bs =>
      cases step with
      | error errno =>
        simp only [mediaParcelSendLoop]
        exact ⟨List.nil_prefix, by omega, by omega, fun _ => trivial⟩
      | sent max =>
        obtain ⟨hbegin, hret, hall, -⟩ := ih ((b :: bs).drop (max + 1))
        simp only [mediaParcelSendLoop]
        refine ⟨?_, hret, fun h => ?_, by simp [takesSome]⟩
        · obtain ⟨rest, hrest⟩ := hbegin
          exact ⟨rest, by rw [List.append_assoc, hrest, List.take_append_drop]⟩
        · rw [hall h, List.take_append_drop]

theorem load32_store_bytes32 (mem : Nat → UInt8) {code : Nat} (hcode : code < 2 ^ 32) (i : Nat) :
    load32 (store mem i (bytes32 code)) i = code := by
  refine load32_bytes32 hcode fun j hj => ?_
  rw [store_mid (by omega) (by rw [length_bytes32]; omega), Nat.add_sub_cancel_left]

@[simp] theorem MediaParcel.withCode_len (p : MediaParcel) (code : Nat) : (p.withCode code).len = p.len :=
  load32_congr fun j hj _ => store_ge (by rw [length_bytes32]; omega)

@[simp] theorem MediaParcel.withCode_payload (p : MediaParcel) (code : Nat) :
    (p.withCode code).payload = p.payload := by
  unfold MediaParcel.payload
  rw [p.withCode_len]
  refine List.map_congr_left fun i _ => ?_
  exact store_ge (by rw [length_bytes32, MEDIA_PARCEL_HEADER_LEN]; omega)

theorem MediaParcel.withCode_code (p : MediaParcel) {code : Nat} (hcode : code < 2 ^ 32) :
    (p.withCode code).code = code := load32_store_bytes32 p.mem hcode 0

/-- What is written is the beginning of the frame, all of it unless the number of bytes wraps. -/
theorem MediaParcel.wire_begins (p : MediaParcel) : p.wire <+: p.frame.encode := by
  rw [p.encode_frame]
  have hle : (MEDIA_PARCEL_HEADER_LEN + p.len) % 2 ^ 32 ≤ MEDIA_PARCEL_HEADER_LEN + p.len := Nat.mod_le ..
  obtain ⟨k, hk⟩ := Nat.exists_eq_add_of_le hle
  refine ⟨(List.range k).map fun i => p.mem ((MEDIA_PARCEL_HEADER_LEN + p.len) % 2 ^ 32 + i), ?_⟩
  conv_rhs => rw [hk, List.range_add, List.map_append, List.map_map]
  rfl

theorem MediaParcel.wire_eq (p : MediaParcel) (hlen : MEDIA_PARCEL_HEADER_LEN + p.len < 2 ^ 32) :
    p.wire = p.frame.encode := by
  rw [p.encode_frame, MediaParcel.wire, Nat.mod_eq_of_lt hlen]

/-- The frame that `media_parcel_send` is to write. -/
def MediaParcel.frameWithCode (p : MediaParcel) (code : Nat) : Frame := (p.withCode code).frame

/-- What one call of `media_parcel_send` does. -/
theorem mediaParcelSend_spec (p : MediaParcel) (code : Nat) (io : List SendStep) :
    (mediaParcelSend p code io).sent <+: (p.frameWithCode code).encode ∧ (mediaParcelSend p code io).ret ≤ 0 ∧
      ((mediaParcelSend p code io).ret = 0 → MEDIA_PARCEL_HEADER_LEN + p.len < 2 ^ 32 →
        (mediaParcelSend p code io).sent = (p.frameWithCode code).encode) ∧
      (takesSome io = false → (mediaParcelSend p code io).sent = []) := by
  obtain ⟨hbegin, hret, hall, hnone⟩ := mediaParcelSendLoop_spec io (p.withCode code).wire
  refine ⟨hbegin.trans (MediaParcel.wire_begins _), hret, fun hret hlen => ?_, hnone⟩
  rw [← p.withCode_len code] at hlen
  exact (hall hret).trans (MediaParcel.wire_eq _ hlen)

end MediaFramework
