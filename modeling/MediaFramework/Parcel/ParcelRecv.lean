import MediaFramework.Parcel.MediaParcel

/-!
# Receiving a parcel (`media_parcel_recv`)

The bytes of a parcel come in pieces of any size, with errors in between, and the place reached is kept in `*offset`
from one call to the next.  `Receiving` says that the chunk holds the bytes received so far and has room for all that
its header has announced.  `recv_spec` says what one call does.
-/

namespace MediaFramework

/-! ### The code -/

/-- The outcome of one `recv`: data, at most `max + 1` bytes of it, with the outcome of an allocation that may follow;
or an error with the errno `errno + 1`, such as one that says that there is no data now. -/
inductive RecvStep
  | data (max : Nat) (ok : Bool)
  | error (errno : Nat)
  deriving DecidableEq, Repr

/-- The outcome when no allocation fails. -/
def RecvStep.withMemory : RecvStep → RecvStep
  | .data max _ => .data max true
  | .error errno => .error errno

/-- One call of `recv`: where it writes to and how many bytes it asks for, beside the bytes allocated for the chunk
and the total length of the parcel before it is stored in 32 bits. -/
structure RecvIssue where
  offset : Nat
  requested : Nat
  size : Nat
  total : Nat
  deriving DecidableEq, Repr

/-- Result of `media_parcel_recv`, with the bytes and the outcomes that it left over, the calls of `recv` it made, and
whether it failed to grow the parcel. -/
structure RecvResult where
  ret : Int
  parcel : MediaParcel
  offset : Nat
  stream : List UInt8
  io : List RecvStep
  issues : List RecvIssue
  growFailed : Bool

def RecvResult.after (issue : RecvIssue) (r : RecvResult) : RecvResult := { r with issues := issue :: r.issues }

/-- The loop of `media_parcel_recv`; `len` of the source is `total` in 32 bits.  When the outcomes are used up there
is no data for now. -/
def mediaParcelRecvLoop (w : SizeT) :
    List RecvStep → MediaParcel → (offset total : Nat) → (stream : List UInt8) → RecvResult
  | io, p, offset, total, stream =>
    if offset = total % 2 ^ 32 then ⟨0, p, offset, stream, io, [], false⟩
    else
      let requested :=
        if offset < MEDIA_PARCEL_HEADER_LEN then MEDIA_PARCEL_HEADER_LEN - offset
        else (total % 2 ^ 32 + 2 ^ 32 - offset) % 2 ^ 32
      let issue : RecvIssue := ⟨offset, requested, p.size, total⟩
      match io with
      | [] => ⟨-EAGAIN, p, offset, stream, [], [issue], false⟩
      | .error errno :: io => ⟨-(errno + 1), p, offset, stream, io, [issue], false⟩
      | .data max ok :: io =>
        let bs := stream.take (min (max + 1) requested)
        if bs = [] then ⟨-EPIPE, p, offset, stream, io, [issue], false⟩
        else
          let p₁ := { p with mem := store p.mem offset bs }
          let stream₁ := stream.drop bs.length
          let offset₁ := (offset + bs.length) % 2 ^ 32
          if offset₁ = MEDIA_PARCEL_HEADER_LEN then
            let (ret, p₂) := mediaParcelGrow w p₁ 0 p₁.len ok
            if ret < 0 then ⟨ret, p₂, offset₁, stream₁, io, [issue], true⟩
            else (mediaParcelRecvLoop w io p₂ offset₁ (MEDIA_PARCEL_HEADER_LEN + p₂.len) stream₁).after issue
          else (mediaParcelRecvLoop w io p₁ offset₁ total stream₁).after issue

def mediaParcelRecv (w : SizeT) (io : List RecvStep) (p : MediaParcel) (offset : Nat) (stream : List UInt8) :
    RecvResult :=
  mediaParcelRecvLoop w io p offset (MEDIA_PARCEL_HEADER_LEN + p.len) stream

/-! ### The bytes received so far -/

/-- The length in the header of a parcel of which `pre` was received. -/
def lenOf (pre : List UInt8) : Nat := load32 (pre.getD · 0) 4

/-- Twice the payload and a header fit into `size_t`, and a payload and a header fit into 32 bits. -/
def Fits (w : SizeT) (len : Nat) : Prop :=
  MEDIA_PARCEL_HEADER_LEN + 2 * len < w.mod ∧ MEDIA_PARCEL_HEADER_LEN + len < 2 ^ 32

instance (w : SizeT) (len : Nat) : Decidable (Fits w len) := inferInstanceAs (Decidable (_ ∧ _))

/-- The chunk of `p` holds `pre`, the bytes of the parcel received so far.  While the header is not complete the parcel
is as it was initialised; after that it has room for all that is to come. -/
structure Receiving (p : MediaParcel) (pre : List UInt8) : Prop where
  mem : ∀ i, i < MEDIA_PARCEL_HEADER_LEN ∨ i < pre.length → p.mem i = pre.getD i 0
  fresh : pre.length < MEDIA_PARCEL_HEADER_LEN →
    p.size = MEDIA_PARCEL_HEADER_LEN + MEDIA_PARCEL_DATA_LEN ∧ p.cap = MEDIA_PARCEL_DATA_LEN
  room : MEDIA_PARCEL_HEADER_LEN ≤ pre.length →
    pre.length ≤ MEDIA_PARCEL_HEADER_LEN + p.len ∧ MEDIA_PARCEL_HEADER_LEN + p.len < 2 ^ 32 ∧
      MEDIA_PARCEL_HEADER_LEN + p.len ≤ p.size

theorem receiving_init : Receiving mediaParcelInit [] := by
  refine ⟨fun i _ => rfl, fun _ => ⟨rfl, rfl⟩, fun h => ?_⟩
  simp [MEDIA_PARCEL_HEADER_LEN] at h

variable {w : SizeT} {p : MediaParcel} {pre bs : List UInt8}

theorem Receiving.len_eq (h : Receiving p pre) : p.len = lenOf pre := by
  unfold MediaParcel.len lenOf
  refine load32_congr fun j hj hj' => h.mem j (.inl ?_)
  simp only [MEDIA_PARCEL_HEADER_LEN]
  omega

/-- A length of which the last byte is not there yet is small. -/
theorem lenOf_lt (h : pre.length < MEDIA_PARCEL_HEADER_LEN) : lenOf pre < 2 ^ 24 := by
  unfold MEDIA_PARCEL_HEADER_LEN at h
  have h₇ : pre.getD (4 + 3) 0 = 0 := List.getD_eq_default _ _ (by omega)
  have h₄ := (pre.getD 4 0).toNat_lt
  have h₅ := (pre.getD (4 + 1) 0).toNat_lt
  have h₆ := (pre.getD (4 + 2) 0).toNat_lt
  unfold lenOf load32
  simp only [h₇, UInt8.toNat_zero]
  omega

/-- The header is not changed by what comes after it. -/
theorem lenOf_append (h : MEDIA_PARCEL_HEADER_LEN ≤ pre.length) (bs : List UInt8) : lenOf (pre ++ bs) = lenOf pre := by
  unfold MEDIA_PARCEL_HEADER_LEN at h
  unfold lenOf
  refine load32_congr fun j hj hj' => ?_
  rw [List.getD_append _ _ _ _ (by omega)]

/-- How many bytes may come before the reader has to look at the header again. -/
def NoMoreThanNeeded (pre bs : List UInt8) : Prop :=
  if pre.length < MEDIA_PARCEL_HEADER_LEN then pre.length + bs.length ≤ MEDIA_PARCEL_HEADER_LEN
  else pre.length + bs.length ≤ MEDIA_PARCEL_HEADER_LEN + lenOf pre

private theorem store_getD (h : Receiving p pre) (i : Nat) (hi : i < MEDIA_PARCEL_HEADER_LEN ∨ i < (pre ++ bs).length) :
    store p.mem pre.length bs i = (pre ++ bs).getD i 0 := by
  rw [List.length_append] at hi
  rcases Nat.lt_or_ge i pre.length with hlt | hge
  · rw [store_lt hlt, List.getD_append _ _ _ _ hlt, h.mem i (.inr hlt)]
  · rw [List.getD_append_right _ _ _ _ hge]
    rcases Nat.lt_or_ge i (pre.length + bs.length) with hlt | hge'
    · rw [store_mid hge hlt]
    · rw [store_ge hge', h.mem i (hi.imp_right (by omega)), List.getD_eq_default _ _ hge,
        List.getD_eq_default _ _ (by omega)]

private theorem Receiving.length_lt (h : Receiving p pre) (hbs : NoMoreThanNeeded pre bs) :
    pre.length + bs.length < 2 ^ 32 := by
  unfold NoMoreThanNeeded MEDIA_PARCEL_HEADER_LEN at hbs
  split at hbs
  · omega
  · have hroom := h.room (by simp only [MEDIA_PARCEL_HEADER_LEN]; omega)
    rw [h.len_eq] at hroom
    simp only [MEDIA_PARCEL_HEADER_LEN] at hroom
    omega

/-- Bytes that do not complete the header. -/
theorem Receiving.store (h : Receiving p pre) (hbs : NoMoreThanNeeded pre bs)
    (hne : (pre ++ bs).length ≠ MEDIA_PARCEL_HEADER_LEN) :
    Receiving { p with mem := store p.mem pre.length bs } (pre ++ bs) := by
  have hmem : ∀ i, i < MEDIA_PARCEL_HEADER_LEN ∨ i < (pre ++ bs).length →
      MediaFramework.store p.mem pre.length bs i = (pre ++ bs).getD i 0 := fun i hi => store_getD h i hi
  have hlen : MediaParcel.len { p with mem := MediaFramework.store p.mem pre.length bs } = lenOf (pre ++ bs) :=
    load32_congr fun j hj hj' => hmem j (.inl (by simp only [MEDIA_PARCEL_HEADER_LEN]; omega))
  refine ⟨hmem, fun hlt => h.fresh (by rw [List.length_append] at hlt; omega), fun hge => ?_⟩
  rw [hlen]
  unfold NoMoreThanNeeded at hbs
  rw [List.length_append] at hne hge ⊢
  split at hbs
  · omega
  · rename_i hpre
    have hroom := h.room (by omega)
    rw [h.len_eq] at hroom
    rw [lenOf_append (by omega)]
    exact ⟨by omega, hroom.2⟩

/-- A fresh parcel whose header is complete grows to twice the announced length, unless it is large enough or there is
no memory. -/
theorem mediaParcelGrow_spec (hsize : p.size = MEDIA_PARCEL_HEADER_LEN + MEDIA_PARCEL_DATA_LEN)
    (hcap : p.cap = MEDIA_PARCEL_DATA_LEN) (hfits : Fits w p.len) (ok : Bool) :
    (∃ p', mediaParcelGrow w p 0 p.len ok = (0, p') ∧ (∀ i < MEDIA_PARCEL_HEADER_LEN, p'.mem i = p.mem i) ∧
        MEDIA_PARCEL_HEADER_LEN + p.len ≤ p'.size) ∨
      mediaParcelGrow w p 0 p.len ok = (-ENOMEM, p) ∧ ok = false := by
  have hmod := le_mod w
  obtain ⟨hfit, -⟩ := hfits
  simp only [MEDIA_PARCEL_HEADER_LEN, MEDIA_PARCEL_DATA_LEN] at hsize hcap hfit ⊢
  have hsum : (p.len + p.len) % w.mod = p.len + p.len := Nat.mod_eq_of_lt (by omega)
  unfold mediaParcelGrow
  simp only [hsum, hcap]
  by_cases hle : p.len + p.len ≤ 256
  · left
    rw [if_pos hle]
    exact ⟨p, rfl, fun i _ => rfl, by omega⟩
  · rw [if_neg hle]
    cases ok with
    | false => exact .inr ⟨rfl, rfl⟩
    | true =>
      left
      refine ⟨_, rfl, fun i hi => ?_, ?_⟩
      · dsimp only
        split
        · rfl
        · exact if_pos (show i < MEDIA_PARCEL_HEADER_LEN + 0 from hi)
      · dsimp only
        rw [Nat.mod_eq_of_lt]
        · simp only [MEDIA_PARCEL_HEADER_LEN]
          split <;> omega
        · simp only [MEDIA_PARCEL_HEADER_LEN]
          split <;> omega

/-- The chunk holds `pre`, but there was no memory for what the header announces, which is more than fits. -/
def Stuck (p : MediaParcel) (pre : List UInt8) : Prop :=
  pre.length = MEDIA_PARCEL_HEADER_LEN ∧ p.len = lenOf pre ∧ MEDIA_PARCEL_DATA_LEN < lenOf pre

/-- Bytes that complete the header. -/
theorem Receiving.grow (h : Receiving p pre) (hlt : pre.length < MEDIA_PARCEL_HEADER_LEN)
    (hbs : (pre ++ bs).length = MEDIA_PARCEL_HEADER_LEN) (hfits : Fits w (lenOf (pre ++ bs))) (ok : Bool) :
    let p₁ : MediaParcel := { p with mem := MediaFramework.store p.mem pre.length bs }
    (∃ p₂, mediaParcelGrow w p₁ 0 p₁.len ok = (0, p₂) ∧ Receiving p₂ (pre ++ bs)) ∨
      mediaParcelGrow w p₁ 0 p₁.len ok = (-ENOMEM, p₁) ∧ ok = false ∧
        (Receiving p₁ (pre ++ bs) ∨ Stuck p₁ (pre ++ bs)) := by
  intro p₁
  have hmem : ∀ i < MEDIA_PARCEL_HEADER_LEN, p₁.mem i = (pre ++ bs).getD i 0 := fun i hi => store_getD h i (.inl hi)
  have hlen : ∀ q : MediaParcel, (∀ i < MEDIA_PARCEL_HEADER_LEN, q.mem i = (pre ++ bs).getD i 0) →
      q.len = lenOf (pre ++ bs) := fun q hq =>
    load32_congr fun j hj hj' => hq j (by simp only [MEDIA_PARCEL_HEADER_LEN]; omega)
  have hreceiving : ∀ q : MediaParcel, (∀ i < MEDIA_PARCEL_HEADER_LEN, q.mem i = (pre ++ bs).getD i 0) →
      MEDIA_PARCEL_HEADER_LEN + lenOf (pre ++ bs) ≤ q.size → Receiving q (pre ++ bs) := by
    intro q hq hsize
    refine ⟨fun i hi => hq i (by omega), fun hn => absurd hn (by omega), fun _ => ?_⟩
    rw [hlen q hq]
    exact ⟨by omega, hfits.2, hsize⟩
  obtain ⟨hsize, hcap⟩ := h.fresh hlt
  have hp₁ := hlen p₁ hmem
  obtain ⟨p₂, hgrow, hmem₂, hsize₂⟩ | ⟨hgrow, hok⟩ :=
    mediaParcelGrow_spec (p := p₁) (w := w) hsize hcap (by rw [hp₁]; exact hfits) ok
  · left
    refine ⟨p₂, hgrow, hreceiving p₂ (fun i hi => (hmem₂ i hi).trans (hmem i hi)) ?_⟩
    rw [← hp₁]
    exact hsize₂
  · refine .inr ⟨hgrow, hok, ?_⟩
    rcases Nat.lt_or_ge MEDIA_PARCEL_DATA_LEN (lenOf (pre ++ bs)) with hbig | hsmall
    · exact .inr ⟨hbs, hp₁, hbig⟩
    · left
      refine hreceiving p₁ hmem ?_
      rw [show p₁.size = _ from hsize]
      omega

/-! ### One call -/

/-- The length that the peer announces fits, once the whole header has been sent. -/
def HeaderFits (w : SizeT) (bytes : List UInt8) : Prop :=
  MEDIA_PARCEL_HEADER_LEN ≤ bytes.length → Fits w (lenOf bytes)

instance (w : SizeT) (bytes : List UInt8) : Decidable (HeaderFits w bytes) := inferInstanceAs (Decidable (_ → _))

/-- Bytes that end with their parcel. -/
def Whole (pre : List UInt8) : Prop := pre.length = MEDIA_PARCEL_HEADER_LEN + lenOf pre

/-- The range asked for lies inside the chunk, and the total length has 32 bits. -/
def RecvIssue.InChunk (issue : RecvIssue) : Prop :=
  issue.offset + issue.requested ≤ issue.size ∧ issue.total < 2 ^ 32

/-- What a call of `media_parcel_recv` did that found the bytes `pre` in the parcel `p` and received `bs`. -/
structure RecvSpec (p : MediaParcel) (pre bs stream : List UInt8) (io : List RecvStep) (r : RecvResult) :
    Prop where
  stream_eq : stream = bs ++ r.stream
  offset_eq : r.offset = (pre ++ bs).length
  received : Receiving r.parcel (pre ++ bs) ∨ r.growFailed = true ∧ Stuck r.parcel (pre ++ bs)
  ret_nonpos : r.ret ≤ 0
  whole : r.ret = 0 → Whole (pre ++ bs) ∧ r.growFailed = false
  not_whole : r.ret ≠ 0 → r.growFailed = true ∨ ¬ Whole (pre ++ bs)
  kept : bs = [] → r.parcel = p
  inChunk : ∀ issue ∈ r.issues, issue.InChunk
  io_suffix : r.io <:+ io
  used : bs ≠ [] → r.io.length < io.length
  progress : ∀ max ok io', io = .data max ok :: io' → stream ≠ [] → ¬ Whole pre → bs ≠ []
  ok : r.growFailed = true → ∃ max, .data max false ∈ io

/-- The sum of header and payload that the loop works with: that of an initialised parcel at the least, and the right
one once the header is there. -/
def TotalFor (p : MediaParcel) (pre : List UInt8) (total : Nat) : Prop :=
  MEDIA_PARCEL_HEADER_LEN ≤ total ∧ total < 2 ^ 32 ∧
    (MEDIA_PARCEL_HEADER_LEN ≤ pre.length → total = MEDIA_PARCEL_HEADER_LEN + p.len)

theorem Receiving.totalFor (h : Receiving p pre) : TotalFor p pre (MEDIA_PARCEL_HEADER_LEN + p.len) := by
  refine ⟨by omega, ?_, fun _ => rfl⟩
  rcases Nat.lt_or_ge pre.length MEDIA_PARCEL_HEADER_LEN with hlt | hge
  · have := lenOf_lt hlt
    rw [h.len_eq]
    simp only [MEDIA_PARCEL_HEADER_LEN]
    omega
  · exact (h.room hge).2.1

private theorem requested_spec {total : Nat} (h : Receiving p pre) (ht : TotalFor p pre total)
    (hne : pre.length ≠ total % 2 ^ 32) {requested : Nat}
    (hr : requested = if pre.length < MEDIA_PARCEL_HEADER_LEN then MEDIA_PARCEL_HEADER_LEN - pre.length
      else (total % 2 ^ 32 + 2 ^ 32 - pre.length) % 2 ^ 32) :
    RecvIssue.InChunk ⟨pre.length, requested, p.size, total⟩ ∧ ¬ Whole pre ∧ 0 < requested ∧
      ∀ bs : List UInt8, bs.length ≤ requested → NoMoreThanNeeded pre bs := by
  obtain ⟨hle, hlt, htotal⟩ := ht
  rw [Nat.mod_eq_of_lt hlt] at hne hr
  unfold RecvIssue.InChunk Whole NoMoreThanNeeded
  dsimp only
  by_cases hpre : pre.length < MEDIA_PARCEL_HEADER_LEN
  · have hfresh := h.fresh hpre
    rw [if_pos hpre] at hr
    refine ⟨⟨by omega, hlt⟩, by omega, by omega, fun bs hbs => ?_⟩
    rw [if_pos hpre]
    omega
  · have hroom := h.room (by omega)
    have htotal := htotal (by omega)
    rw [if_neg hpre] at hr
    have hr : requested = total - pre.length := by omega
    rw [h.len_eq] at hroom htotal
    refine ⟨⟨by omega, hlt⟩, by omega, by omega, fun bs hbs => ?_⟩
    rw [if_neg hpre]
    omega

/-- A call that stops where it is. -/
private theorem recvSpec_stop {stream : List UInt8} {io io' : List RecvStep} {issue : RecvIssue} {ret : Int}
    (h : Receiving p pre) (hissue : issue.InChunk) (hwhole : ¬ Whole pre) (hret : ret < 0) (hio : io' <:+ io)
    (hnone : ∀ max ok io', io = .data max ok :: io' → stream = []) :
    RecvSpec p pre [] stream io ⟨ret, p, pre.length, stream, io', [issue], false⟩ where
  stream_eq := rfl
  offset_eq := by simp
  received := .inl (by simpa using h)
  ret_nonpos := by dsimp only; omega
  whole := fun h0 => by dsimp only at h0; omega
  not_whole := fun _ => .inr (by simpa using hwhole)
  kept := fun _ => rfl
  inChunk := by simpa using hissue
  io_suffix := hio
  used := by simp
  progress := fun max ok io' hd hs => absurd (hnone max ok io' hd) hs
  ok := by simp

/-- A call that goes on after one `recv`. -/
private theorem RecvSpec.after {bs bs' stream : List UInt8} {io : List RecvStep} {step : RecvStep} {issue : RecvIssue}
    {r : RecvResult} {p' : MediaParcel} (h : RecvSpec p' (pre ++ bs) bs' stream io r) (hissue : issue.InChunk)
    (hne : bs ≠ []) : RecvSpec p pre (bs ++ bs') (bs ++ stream) (step :: io) (r.after issue) where
  stream_eq := by rw [List.append_assoc]; exact congrArg _ h.stream_eq
  offset_eq := by rw [← List.append_assoc]; exact h.offset_eq
  received := by rw [← List.append_assoc]; exact h.received
  ret_nonpos := h.ret_nonpos
  whole := by rw [← List.append_assoc]; exact h.whole
  not_whole := by rw [← List.append_assoc]; exact h.not_whole
  kept := fun he => absurd (List.append_eq_nil_iff.1 he).1 hne
  inChunk := by
    intro i hi
    rcases List.mem_cons.1 hi with rfl | hi
    · exact hissue
    · exact h.inChunk i hi
  io_suffix := h.io_suffix.trans (List.suffix_cons step io)
  used := fun _ => Nat.lt_succ_of_le h.io_suffix.length_le
  progress := fun _ _ _ _ _ _ he => hne (List.append_eq_nil_iff.1 he).1
  ok := fun hf => (h.ok hf).imp fun _ hm => List.mem_cons_of_mem _ hm

/-- A call for a parcel that is there already. -/
private theorem recvSpec_whole {stream : List UInt8} {io : List RecvStep} {total : Nat} (h : Receiving p pre)
    (ht : TotalFor p pre total) (hdone : pre.length = total % 2 ^ 32) :
    RecvSpec p pre [] stream io ⟨0, p, pre.length, stream, io, [], false⟩ where
  stream_eq := rfl
  offset_eq := by simp
  received := .inl (by simpa using h)
  ret_nonpos := by simp
  whole := fun _ => by
    obtain ⟨hle, hlt, htotal⟩ := ht
    rw [Nat.mod_eq_of_lt hlt] at hdone
    rw [List.append_nil, Whole, ← h.len_eq, ← htotal (by omega)]
    exact ⟨hdone, rfl⟩
  not_whole := by simp
  kept := fun _ => rfl
  inChunk := by simp
  io_suffix := List.suffix_rfl
  used := by simp
  progress := fun _ _ _ _ _ hwhole => by
    obtain ⟨hle, hlt, htotal⟩ := ht
    rw [Nat.mod_eq_of_lt hlt] at hdone
    exact absurd (by rw [Whole, ← h.len_eq, ← htotal (by omega)]; exact hdone) hwhole
  ok := by simp

theorem mediaParcelRecvLoop_spec (io : List RecvStep) : ∀ (p : MediaParcel) (pre stream : List UInt8) (total : Nat),
    Receiving p pre → HeaderFits w (pre ++ stream) → TotalFor p pre total →
    ∃ bs, RecvSpec p pre bs stream io (mediaParcelRecvLoop w io p pre.length total stream) := by
  induction io with
  | nil =>
    intro p pre stream total h hfits ht
    rw [mediaParcelRecvLoop]
    by_cases hdone : pre.length = total % 2 ^ 32
    · rw [if_pos hdone]
      exact ⟨[], recvSpec_whole h ht hdone⟩
    · obtain ⟨hissue, hwhole, -⟩ := requested_spec h ht hdone rfl
      rw [if_neg hdone]
      exact ⟨[], recvSpec_stop h hissue hwhole (by decide) List.suffix_rfl (by simp)⟩
  | cons step io ih =>
    intro p pre stream total h hfits ht
    rw [mediaParcelRecvLoop]
    by_cases hdone : pre.length = total % 2 ^ 32
    · rw [if_pos hdone]
      exact ⟨[], recvSpec_whole h ht hdone⟩
    · obtain ⟨hissue, hwhole, hasked, hneeded⟩ := requested_spec h ht hdone rfl
      have hio := List.suffix_cons step io
      rw [if_neg hdone]
      cases step with
      | error errno => exact ⟨[], recvSpec_stop h hissue hwhole (by omega) hio (by simp)⟩
      | data max ok =>
        dsimp only
        generalize (if pre.length < MEDIA_PARCEL_HEADER_LEN then MEDIA_PARCEL_HEADER_LEN - pre.length
          else (total % 2 ^ 32 + 2 ^ 32 - pre.length) % 2 ^ 32) = requested at *
        obtain ⟨bs, rest, hbs, hrest, rfl⟩ : ∃ bs rest, stream.take (min (max + 1) requested) = bs ∧
            stream.drop bs.length = rest ∧ stream = bs ++ rest := by
          refine ⟨_, stream.drop (min (max + 1) requested), rfl, ?_, (List.take_append_drop ..).symm⟩
          rw [List.length_take]
          rcases Nat.le_total (min (max + 1) requested) stream.length with hle | hle
          · rw [Nat.min_eq_left hle]
          · rw [Nat.min_eq_right hle, List.drop_length, List.drop_eq_nil_of_le hle]
        rw [hbs, hrest]
        by_cases hnil : bs = []
        · rw [if_pos hnil]
          refine ⟨[], recvSpec_stop h hissue hwhole (by decide) hio fun _ _ _ _ => ?_⟩
          exact (List.take_eq_nil_iff.1 (hbs.trans hnil)).resolve_left (by omega)
        · have hlen : bs.length ≤ requested := by
            rw [← hbs, List.length_take]
            omega
          have hpos : 0 < bs.length := List.length_pos_iff.2 hnil
          have hneed := hneeded bs hlen
          have hoffset : (pre.length + bs.length) % 2 ^ 32 = (pre ++ bs).length := by
            rw [List.length_append]
            exact Nat.mod_eq_of_lt (h.length_lt hneed)
          rw [← List.append_assoc] at hfits
          rw [if_neg hnil, hoffset]
          by_cases hheader : (pre ++ bs).length = MEDIA_PARCEL_HEADER_LEN
          · have hpre : pre.length < MEDIA_PARCEL_HEADER_LEN := by
              rw [List.length_append] at hheader
              omega
            have hfit : Fits w (lenOf (pre ++ bs)) := by
              rw [← lenOf_append (by omega) rest]
              exact hfits (by rw [List.length_append]; omega)
            rw [if_pos hheader]
            obtain ⟨p₂, hgrow, h₂⟩ | ⟨hgrow, hok, h₂⟩ := h.grow hpre hheader hfit ok
            · obtain ⟨bs', hspec⟩ := ih p₂ (pre ++ bs) rest _ h₂ hfits h₂.totalFor
              refine ⟨bs ++ bs', ?_⟩
              simp only [hgrow, Int.lt_irrefl, ↓reduceIte]
              exact hspec.after hissue hnil
            · refine ⟨bs, ?_⟩
              simp only [hgrow, show -ENOMEM < 0 by decide, ↓reduceIte]
              exact
                { stream_eq := rfl
                  offset_eq := rfl
                  received := h₂.imp_right fun hs => ⟨rfl, hs⟩
                  ret_nonpos := show -ENOMEM ≤ 0 by decide
                  whole := fun h0 => absurd h0 (show -ENOMEM ≠ 0 by decide)
                  not_whole := fun _ => .inl rfl
                  kept := fun he => absurd he hnil
                  inChunk := by simpa using hissue
                  io_suffix := hio
                  used := fun _ => Nat.lt_succ_self _
                  progress := fun _ _ _ _ _ _ => hnil
                  ok := fun _ => ⟨max, by rw [hok]; exact List.mem_cons_self ..⟩ }
          · have h₁ := h.store hneed hheader
            have ht₁ : TotalFor { p with mem := store p.mem pre.length bs } (pre ++ bs) total := by
              refine ⟨ht.1, ht.2.1, fun hge => ?_⟩
              have hpre : MEDIA_PARCEL_HEADER_LEN ≤ pre.length := by
                unfold NoMoreThanNeeded at hneed
                rw [List.length_append] at hheader hge
                split at hneed <;> omega
              rw [ht.2.2 hpre, h₁.len_eq, h.len_eq, lenOf_append hpre]
            obtain ⟨bs', hspec⟩ := ih _ (pre ++ bs) rest total h₁ hfits ht₁
            rw [if_neg hheader]
            exact ⟨bs ++ bs', hspec.after hissue hnil⟩

/-- What one call of `media_parcel_recv` does. -/
theorem mediaParcelRecv_spec {stream : List UInt8} (io : List RecvStep) (h : Receiving p pre)
    (hfits : HeaderFits w (pre ++ stream)) :
    ∃ bs, RecvSpec p pre bs stream io (mediaParcelRecv w io p pre.length stream) :=
  mediaParcelRecvLoop_spec io p pre stream _ h hfits h.totalFor

/-! ### How a call ends -/

/-- The outcomes that a call used up and what it returned then: data only, until the parcel was there, there was no
memory, the outcomes or the stream ended; or data and then an error. -/
inductive RecvEnds (io : List RecvStep) (r : RecvResult) : Prop
  | data (used : List RecvStep) (hdata : ∀ step ∈ used, ∃ max ok, step = .data max ok) (hio : io = used ++ r.io)
      (hret : r.ret = 0 ∨ r.growFailed = true ∨ r.ret = -EAGAIN ∧ r.io = [] ∨ r.ret = -EPIPE ∧ r.stream = [])
  | error (used : List RecvStep) (errno : Nat) (hdata : ∀ step ∈ used, ∃ max ok, step = .data max ok)
      (hio : io = used ++ .error errno :: r.io) (hret : r.ret = -(errno + 1))

private theorem RecvEnds.after {io : List RecvStep} {r : RecvResult} (h : RecvEnds io r) (max : Nat) (ok : Bool)
    (issue : RecvIssue) : RecvEnds (.data max ok :: io) (r.after issue) := by
  have hcons : ∀ used : List RecvStep, (∀ step ∈ used, ∃ max ok, step = .data max ok) →
      ∀ step ∈ RecvStep.data max ok :: used, ∃ max ok, step = .data max ok := by
    intro used hdata step hstep
    rcases List.mem_cons.1 hstep with rfl | hstep
    · exact ⟨max, ok, rfl⟩
    · exact hdata step hstep
  cases h with
  | data used hdata hio hret => exact .data (.data max ok :: used) (hcons used hdata) (congrArg _ hio) hret
  | error used errno hdata hio hret => exact .error (.data max ok :: used) errno (hcons used hdata) (congrArg _ hio) hret

theorem mediaParcelRecvLoop_ends (io : List RecvStep) : ∀ (p : MediaParcel) (offset total : Nat)
    (stream : List UInt8), offset < 2 ^ 32 → RecvEnds io (mediaParcelRecvLoop w io p offset total stream) := by
  induction io with
  | nil =>
    intro p offset total stream hoffset
    rw [mediaParcelRecvLoop]
    split
    · exact .data [] (by simp) rfl (.inl rfl)
    · exact .data [] (by simp) rfl (.inr (.inr (.inl ⟨rfl, rfl⟩)))
  | cons step io ih =>
    intro p offset total stream hoffset
    rw [mediaParcelRecvLoop]
    split
    · exact .data [] (by simp) rfl (.inl rfl)
    · rename_i hne
      cases step with
      | error errno => exact .error [] errno (by simp) rfl rfl
      | data max ok =>
        have hused : ∀ step ∈ [RecvStep.data max ok], ∃ max ok, step = .data max ok :=
          fun step hstep => ⟨max, ok, List.mem_singleton.1 hstep⟩
        have hasked : 0 < if offset < MEDIA_PARCEL_HEADER_LEN then MEDIA_PARCEL_HEADER_LEN - offset
            else (total % 2 ^ 32 + 2 ^ 32 - offset) % 2 ^ 32 := by
          have hlt : total % 2 ^ 32 < 2 ^ 32 := Nat.mod_lt _ (by decide)
          split
          · omega
          · omega
        dsimp only
        generalize (if offset < MEDIA_PARCEL_HEADER_LEN then MEDIA_PARCEL_HEADER_LEN - offset
          else (total % 2 ^ 32 + 2 ^ 32 - offset) % 2 ^ 32) = requested at *
        split
        · rename_i hnone
          have hstream : stream = [] := (List.take_eq_nil_iff.1 hnone).resolve_left (by omega)
          exact .data [.data max ok] hused rfl (.inr (.inr (.inr ⟨rfl, hstream⟩)))
        · split
          · split
            · exact .data [.data max ok] hused rfl (.inr (.inl rfl))
            · exact (ih _ _ _ _ (Nat.mod_lt _ (by decide))).after max ok _
          · exact (ih _ _ _ _ (Nat.mod_lt _ (by decide))).after max ok _

/-- How a call that starts inside the parcel ends. -/
theorem mediaParcelRecv_ends {offset : Nat} (stream : List UInt8) (io : List RecvStep) (p : MediaParcel)
    (hoffset : offset < 2 ^ 32) : RecvEnds io (mediaParcelRecv w io p offset stream) :=
  mediaParcelRecvLoop_ends io p offset _ stream hoffset

end MediaFramework
