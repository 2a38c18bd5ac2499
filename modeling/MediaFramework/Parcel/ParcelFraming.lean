import MediaFramework.Library.Machine
import MediaFramework.Parcel.ParcelRecv

/-!
# Reading a stream of parcels

Three pieces of code read parcels from a stream: the server's receive loop with `media_parcel_recv`, a loop over
`media_parcel_recvfrom`, and the callbacks `media_uv_alloc_cb` and `media_uv_read_cb`.  Each finds the parcels that
were written, however the bytes arrive.  `Reading` says where a reader is in the stream; a piece of bytes either leaves
it inside the same parcel or completes the parcel.
-/

namespace MediaFramework

open Framing

variable {w : SizeT} {p : MediaParcel} {pre bs rest : List UInt8} {ps done : List Frame}

/-! ### Whole parcels -/

/-- A parcel of which all bytes are there is read as the frame that was sent. -/
theorem Receiving.encode_frame (h : Receiving p pre) (hwhole : Whole pre) : p.frame.encode = pre := by
  have hlen := h.len_eq
  have hpre : pre = (List.range (MEDIA_PARCEL_HEADER_LEN + p.len)).map p.mem := by
    unfold Whole at hwhole
    rw [hlen, ← hwhole]
    refine List.ext_getElem (by simp) fun i hi hi' => ?_
    rw [List.getElem_map, List.getElem_range, h.mem i (.inr hi), List.getD_eq_getElem _ _ hi]
  rw [hpre, p.encode_frame]

/-- The header of a stream that begins with a frame announces the length of its payload. -/
theorem lenOf_encode_append (f : Frame) (rest : List UInt8) : lenOf (f.encode ++ rest) = f.payload.length := by
  refine load32_bytes32 f.length_lt fun j hj => ?_
  simp only [Frame.encode, List.append_assoc]
  rw [List.getD_append_right _ _ _ _ (by rw [length_bytes32]; omega),
    List.getD_append _ _ _ _ (by simp only [length_bytes32]; omega)]
  congr 1
  rw [length_bytes32]
  omega

theorem Receiving.incomplete (h : Receiving p pre) (hwhole : ¬ Whole pre) : Incomplete Frame.encode pre := by
  rintro f ⟨x, rfl⟩
  have hlen : (f.encode ++ x).length = MEDIA_PARCEL_HEADER_LEN + f.payload.length + x.length := by simp
  have hroom := h.room (by omega)
  rw [h.len_eq, lenOf_encode_append] at hroom
  exact hwhole (by rw [Whole, lenOf_encode_append]; omega)

/-! ### Where a reader is -/

/-- The frames `ps` were written one after the other; the frames `done` were read, then the bytes `pre`, which are in
the parcel, and `rest` is still to come. -/
structure Reading (ps : List Frame) (p : MediaParcel) (pre : List UInt8) (done : List Frame) (rest : List UInt8) :
    Prop where
  bytes : done.flatMap Frame.encode ++ (pre ++ rest) = ps.flatMap Frame.encode
  receiving : Receiving p pre
  not_whole : ¬ Whole pre
  empty : pre = [] → p = mediaParcelInit

private theorem not_whole_nil : ¬ Whole [] := by
  simp only [Whole, MEDIA_PARCEL_HEADER_LEN, List.length_nil]
  omega

theorem reading_start (ps : List Frame) : Reading ps mediaParcelInit [] [] (ps.flatMap Frame.encode) :=
  ⟨rfl, receiving_init, not_whole_nil, fun _ => rfl⟩

/-- Some bytes more of the same parcel. -/
theorem Reading.more (h : Reading ps p pre done (bs ++ rest)) {p' : MediaParcel} (hp' : Receiving p' (pre ++ bs))
    (hwhole : ¬ Whole (pre ++ bs)) (hempty : pre ++ bs = [] → p' = mediaParcelInit) :
    Reading ps p' (pre ++ bs) done rest :=
  ⟨by rw [← h.bytes, List.append_assoc], hp', hwhole, hempty⟩

/-- The bytes that complete the parcel: the reader is at the start of the next one. -/
theorem Reading.complete (h : Reading ps p pre done (bs ++ rest)) {p' : MediaParcel} (hp' : Receiving p' (pre ++ bs))
    (hwhole : Whole (pre ++ bs)) : Reading ps mediaParcelInit [] (done ++ [p'.frame]) rest := by
  refine ⟨?_, receiving_init, not_whole_nil, fun _ => rfl⟩
  rw [← h.bytes, List.flatMap_append, List.flatMap_singleton, hp'.encode_frame hwhole]
  simp

theorem Reading.incomplete (h : Reading ps p pre done rest) : Incomplete Frame.encode pre :=
  h.receiving.incomplete h.not_whole

/-- What was read are the first of the frames. -/
theorem Reading.isPrefix (h : Reading ps p pre done rest) : done <+: ps := by
  obtain ⟨cs, rfl, -⟩ := prefixCode_encode.flatMap_append h.bytes
  exact List.prefix_append done cs

/-- A reader to which nothing more is to come has read all frames and is at the start. -/
theorem Reading.finished (h : Reading ps p pre done []) : done = ps ∧ pre = [] ∧ p = mediaParcelInit := by
  have hbytes := h.bytes
  rw [List.append_nil] at hbytes
  obtain ⟨hdone, hpre⟩ := prefixCode_encode.finished h.incomplete hbytes
  exact ⟨hdone, hpre, h.empty hpre⟩

/-- The header that is to come is that of one of the frames. -/
theorem Reading.headerFits (h : Reading ps p pre done rest) (hfits : ∀ f ∈ ps, Fits w f.payload.length) :
    HeaderFits w (pre ++ rest) := by
  intro hlen
  obtain ⟨cs, rfl, hcs⟩ := prefixCode_encode.flatMap_append h.bytes
  rw [hcs] at hlen ⊢
  cases cs with
  | nil => simp [MEDIA_PARCEL_HEADER_LEN] at hlen
  | cons c cs =>
    rw [List.flatMap_cons, lenOf_encode_append]
    exact hfits c (by simp)

/-! ### The other readers take the same steps -/

/-- The rest of the header, or of the parcel once the header is there. -/
private theorem needed_spec (h : Receiving p pre) (hwhole : ¬ Whole pre) {n : Nat}
    (hn : n = if pre.length < MEDIA_PARCEL_HEADER_LEN then MEDIA_PARCEL_HEADER_LEN - pre.length
      else (MEDIA_PARCEL_HEADER_LEN + p.len + w.mod - pre.length) % w.mod) :
    0 < n ∧ (∀ bs : List UInt8, bs.length ≤ n → NoMoreThanNeeded pre bs) ∧
      ∀ m < n, 0 < m → pre.length + m ≠ MEDIA_PARCEL_HEADER_LEN := by
  have hmod := le_mod w
  unfold Whole at hwhole
  unfold NoMoreThanNeeded
  by_cases hpre : pre.length < MEDIA_PARCEL_HEADER_LEN
  · rw [if_pos hpre] at hn
    refine ⟨by omega, fun bs hbs => ?_, by omega⟩
    rw [if_pos hpre]
    omega
  · have hroom := h.room (by omega)
    rw [h.len_eq] at hroom hn
    have hsub : MEDIA_PARCEL_HEADER_LEN + lenOf pre + w.mod - pre.length =
        (MEDIA_PARCEL_HEADER_LEN + lenOf pre - pre.length) + w.mod := by omega
    rw [if_neg hpre, hsub, Nat.add_mod_right, Nat.mod_eq_of_lt (by omega)] at hn
    refine ⟨by omega, fun bs hbs => ?_, by omega⟩
    rw [if_neg hpre]
    omega

/-- Bytes are stored, and the parcel grows when they complete the header. -/
private theorem Receiving.advance (h : Receiving p pre) (hbs : NoMoreThanNeeded pre bs) (hne : bs ≠ [])
    (hfits : HeaderFits w (pre ++ bs)) :
    let p₁ : MediaParcel := { p with mem := MediaFramework.store p.mem pre.length bs }
    if pre.length + bs.length = MEDIA_PARCEL_HEADER_LEN then
      ∃ p₂, mediaParcelGrow w p₁ 0 p₁.len true = (0, p₂) ∧ Receiving p₂ (pre ++ bs)
    else Receiving p₁ (pre ++ bs) := by
  have hpos := List.length_pos_iff.2 hne
  dsimp only
  split
  · rename_i hheader
    have hlen : (pre ++ bs).length = MEDIA_PARCEL_HEADER_LEN := by rw [List.length_append]; exact hheader
    obtain hgrow | ⟨-, hok, -⟩ := h.grow (by omega) hlen (hfits (by omega)) true
    · exact hgrow
    · cases hok
  · rename_i hheader
    exact h.store hbs (by rwa [List.length_append])

/-! ### The server's receive loop -/

/-- A connection of the server as far as receiving goes, with the bytes still to come on it, and the state `σ` that the
handling of parcels changes. -/
structure ConnReader (σ : Type) where
  parcel : MediaParcel
  offset : Nat
  stream : List UInt8
  state : σ
  closed : Bool

variable {σ : Type} {handle : σ → Frame → σ} {R : List Frame → σ → Prop}

/-- The loop of `media_server_receive`, where `handle` stands for the handling of a parcel by its code.  Every round
but the last uses up an outcome of `recv`. -/
def mediaServerReceiveLoop (w : SizeT) (handle : σ → Frame → σ) :
    Nat → List RecvStep → ConnReader σ → Int × ConnReader σ
  | 0, _, c => (-EAGAIN, c)
  | fuel + 1, io, c =>
    let r := mediaParcelRecv w io c.parcel c.offset c.stream
    let c₁ := { c with parcel := r.parcel, offset := r.offset, stream := r.stream }
    if r.ret < 0 then (r.ret, c₁)
    else mediaServerReceiveLoop w handle fuel r.io
      { c₁ with state := handle c₁.state c₁.parcel.frame, parcel := mediaParcelReinit c₁.parcel, offset := 0 }

def mediaServerConnClose (c : ConnReader σ) : ConnReader σ := { c with closed := true, offset := 0 }

/-- What the server is told about a connection: the bits POLLIN, POLLERR and POLLHUP of `revents`, and the outcomes of
the calls of `recv`. -/
structure ServerPoll where
  pollin : Bool
  pollerr : Bool
  pollhup : Bool
  io : List RecvStep
  deriving DecidableEq, Repr

def mediaServerReceive (w : SizeT) (handle : σ → Frame → σ) (i : ServerPoll) (c : ConnReader σ) : ConnReader σ :=
  if i.pollerr then mediaServerConnClose c
  else
    let r := mediaServerReceiveLoop w handle (i.io.length + 1) i.io c
    if (i.pollin ∧ r.1 = -EPIPE) ∨ i.pollhup then mediaServerConnClose r.2 else r.2

/-- Every allocation succeeds. -/
def AllocationsSucceed (io : List RecvStep) : Prop := ∀ max, .data max false ∉ io

/-- The connection has read the frames `ps` up to some place; the frames read so far and the state are as `R` says. -/
def ConnReader.Reads (ps : List Frame) (R : List Frame → σ → Prop) (c : ConnReader σ) : Prop :=
  ∃ pre done, Reading ps c.parcel pre done c.stream ∧ R done c.state ∧
    (c.offset = pre.length ∨ c.closed = true ∧ c.offset = 0)

/-- Handling the next frame keeps `R`. -/
def HandleKeeps (ps : List Frame) (handle : σ → Frame → σ) (R : List Frame → σ → Prop) : Prop :=
  ∀ done f s, done ++ [f] <+: ps → R done s → R (done ++ [f]) (handle s f)

/-- The loop keeps to the stream, and takes some bytes when the first `recv` finds any. -/
theorem serverReceiveLoop_reads (hfits : ∀ f ∈ ps, Fits w f.payload.length) (hkeep : HandleKeeps ps handle R)
    (fuel : Nat) : ∀ (io : List RecvStep) (c : ConnReader σ), AllocationsSucceed io → c.Reads ps R → c.closed = false →
      let c' := (mediaServerReceiveLoop w handle fuel io c).2
      c'.Reads ps R ∧ c'.closed = false ∧ c'.stream.length ≤ c.stream.length ∧
        (0 < fuel → c.stream ≠ [] → ∀ max ok io', io = .data max ok :: io' → c'.stream.length < c.stream.length) := by
  induction fuel with
  | zero =>
    intro io c _ h hopen
    exact ⟨h, hopen, Nat.le_refl _, by simp⟩
  | succ fuel ih =>
    rintro io c hio ⟨pre, done, h, hR, hoffset⟩ hopen
    have hoffset : c.offset = pre.length := by simpa [hopen] using hoffset
    obtain ⟨bs, hspec⟩ := mediaParcelRecv_spec (w := w) io h.receiving (h.headerFits hfits)
    rw [← hoffset] at hspec
    rw [mediaServerReceiveLoop]
    generalize mediaParcelRecv w io c.parcel c.offset c.stream = r at hspec
    have hgrow : r.growFailed = false := by
      by_contra hf
      obtain ⟨max, hm⟩ := hspec.ok (by simpa using hf)
      exact hio max hm
    have hreceiving : Receiving r.parcel (pre ++ bs) := by simpa [hgrow] using hspec.received
    have hlen : c.stream.length = bs.length + r.stream.length := by rw [hspec.stream_eq, List.length_append]
    have hprogress : c.stream ≠ [] → ∀ max ok io', io = .data max ok :: io' → 0 < bs.length := fun hs max ok io' hd =>
      List.length_pos_iff.2 (hspec.progress max ok io' hd hs h.not_whole)
    rw [hspec.stream_eq] at h
    dsimp only
    by_cases hret : r.ret < 0
    · rw [if_pos hret]
      have hwhole : ¬ Whole (pre ++ bs) := by simpa [hgrow] using hspec.not_whole (by omega)
      refine ⟨⟨pre ++ bs, done, h.more hreceiving hwhole fun he => ?_, hR, .inl hspec.offset_eq⟩, hopen, ?_, ?_⟩
      · obtain ⟨hpre, hbs⟩ := List.append_eq_nil_iff.1 he
        exact (hspec.kept hbs).trans (h.empty hpre)
      · dsimp only
        omega
      · intro _ hs max ok io' hd
        have := hprogress hs max ok io' hd
        dsimp only
        omega
    · rw [if_neg hret]
      obtain ⟨hwhole, -⟩ := hspec.whole (Int.le_antisymm hspec.ret_nonpos (by omega))
      have hnext := h.complete hreceiving hwhole
      obtain ⟨hreads, hopen', hle, -⟩ := ih r.io
        ⟨mediaParcelReinit r.parcel, 0, r.stream, handle c.state r.parcel.frame, c.closed⟩
        (fun max hm => hio max (hspec.io_suffix.subset hm))
        ⟨[], _, hnext, hkeep _ _ _ hnext.isPrefix hR, .inl rfl⟩ hopen
      refine ⟨hreads, hopen', by dsimp only at hle; omega, fun _ hs max ok io' hd => ?_⟩
      have := hprogress hs max ok io' hd
      dsimp only at hle
      omega

private theorem ConnReader.Reads.close {c : ConnReader σ} (h : c.Reads ps R) :
    (mediaServerConnClose c).Reads ps R := by
  obtain ⟨pre, done, h, hR, -⟩ := h
  exact ⟨pre, done, h, hR, .inr ⟨rfl, rfl⟩⟩

theorem ConnReader.Reads.receive {c : ConnReader σ} (hfits : ∀ f ∈ ps, Fits w f.payload.length)
    (hkeep : HandleKeeps ps handle R) (h : c.Reads ps R) (hopen : c.closed = false) (i : ServerPoll)
    (hio : AllocationsSucceed i.io) : (mediaServerReceive w handle i c).Reads ps R := by
  unfold mediaServerReceive
  split
  · exact h.close
  · have hloop := (serverReceiveLoop_reads hfits hkeep (i.io.length + 1) i.io c hio h hopen).1
    dsimp only
    split
    · exact hloop.close
    · exact hloop

theorem allocationsSucceed_withMemory (io : List RecvStep) : AllocationsSucceed (io.map RecvStep.withMemory) := by
  intro max hm
  obtain ⟨step, -, hstep⟩ := List.mem_map.1 hm
  cases step <;> simp [RecvStep.withMemory] at hstep

/-- What handling a parcel keeps is kept by a poll, whatever arrives. -/
theorem mediaServerReceive_state {Q : σ → Prop} (hQ : ∀ s f, Q s → Q (handle s f)) (i : ServerPoll)
    (c : ConnReader σ) (h : Q c.state) : Q (mediaServerReceive w handle i c).state := by
  have hloop : ∀ (fuel : Nat) (io : List RecvStep) (c : ConnReader σ), Q c.state →
      Q (mediaServerReceiveLoop w handle fuel io c).2.state := by
    intro fuel
    induction fuel with
    | zero => exact fun _ _ h => h
    | succ fuel ih =>
      intro io c h
      rw [mediaServerReceiveLoop]
      dsimp only
      split
      · exact h
      · exact ih _ _ (hQ _ _ h)
  unfold mediaServerReceive
  split
  · exact h
  · dsimp only
    split
    · exact hloop _ _ _ h
    · exact hloop _ _ _ h

/-- A poll that finds data takes some of it. -/
theorem ConnReader.Reads.progress {c : ConnReader σ} (hfits : ∀ f ∈ ps, Fits w f.payload.length)
    (hkeep : HandleKeeps ps handle R) (h : c.Reads ps R) (hopen : c.closed = false) (hs : c.stream ≠ []) (max : Nat)
    {io : List RecvStep} (hio : AllocationsSucceed (.data max true :: io)) (pollin : Bool) :
    (mediaServerReceive w handle ⟨pollin, false, false, .data max true :: io⟩ c).stream.length < c.stream.length := by
  obtain ⟨-, -, -, hlt⟩ := serverReceiveLoop_reads hfits hkeep ((RecvStep.data max true :: io).length + 1)
    (.data max true :: io) c hio h hopen
  have hlt := hlt (Nat.succ_pos _) hs max true io rfl
  unfold mediaServerReceive
  simp only [Bool.false_eq_true, ↓reduceIte, or_false]
  split
  · exact hlt
  · exact hlt

/-- A connection on which the bytes `stream` arrive; the state is the list of the parcels found. -/
def serverMachine (w : SizeT) (stream : List UInt8) : Machine (ConnReader (List Frame)) ServerPoll where
  start := ⟨mediaParcelInit, 0, stream, [], false⟩
  next c i := if c.closed then none else some (mediaServerReceive w (fun done f => done ++ [f]) i c)

private theorem handleKeeps_append (ps : List Frame) :
    HandleKeeps ps (fun done f => done ++ [f]) (fun done state => state = done) := by
  rintro done f _ _ rfl
  rfl

theorem serverMachine_reads (hfits : ∀ f ∈ ps, Fits w f.payload.length) {c : ConnReader (List Frame)}
    (h : (serverMachine w (ps.flatMap Frame.encode)).ReachableVia (fun _ i => AllocationsSucceed i.io) c) :
    c.Reads ps fun done state => state = done := by
  refine h.invariant (P := ConnReader.Reads ps fun done state => state = done)
    ⟨[], [], reading_start ps, rfl, .inl rfl⟩ ?_
  intro c i c' hc hio hn
  simp only [serverMachine] at hn
  split at hn
  · cases hn
  · rename_i hopen
    cases hn
    exact hc.receive hfits (handleKeeps_append ps) (by simpa using hopen) i hio

/-! ### `media_parcel_recvfrom` -/

/-- `media_parcel_recvfrom`; `ok` is the outcome of the allocation that may follow. -/
def mediaParcelRecvfrom (w : SizeT) (p : MediaParcel) (offset : Nat) (buf : List UInt8) (ok : Bool) :
    Int × MediaParcel × Nat :=
  let expected :=
    if offset < MEDIA_PARCEL_HEADER_LEN then MEDIA_PARCEL_HEADER_LEN - offset
    else (MEDIA_PARCEL_HEADER_LEN + p.len + w.mod - offset) % w.mod
  if expected ≤ buf.length then
    let p₁ := { p with mem := store p.mem offset (buf.take expected) }
    let offset₁ := offset + expected
    if offset₁ = MEDIA_PARCEL_HEADER_LEN then
      let (ret, p₂) := mediaParcelGrow w p₁ 0 p₁.len ok
      (if ret < 0 then ret else expected, p₂, offset₁)
    else (expected, p₁, offset₁)
  else (buf.length, { p with mem := store p.mem offset buf }, offset + buf.length)

/-- A reader over `media_parcel_recvfrom`. -/
structure BufReader where
  parcel : MediaParcel
  offset : Nat
  done : List Frame

/-- The loop that `media_parcel_recvfrom` is made for (it has no caller in the repository): hand it what is left of
the buffer, and start over when the parcel is there.  Every round takes some bytes. -/
def recvfromLoop (w : SizeT) : Nat → BufReader → List UInt8 → BufReader
  | 0, r, _ => r
  | fuel + 1, r, buf =>
    if buf = [] then r
    else
      let (ret, p, offset) := mediaParcelRecvfrom w r.parcel r.offset buf true
      if ret < 0 then { r with parcel := p, offset }
      else if offset = MEDIA_PARCEL_HEADER_LEN + p.len then
        recvfromLoop w fuel ⟨mediaParcelReinit p, 0, r.done ++ [p.frame]⟩ (buf.drop ret.toNat)
      else recvfromLoop w fuel { r with parcel := p, offset } (buf.drop ret.toNat)

/-- Buffers come one after the other. -/
def recvfromAll (w : SizeT) (bufs : List (List UInt8)) : BufReader :=
  bufs.foldl (fun r buf => recvfromLoop w buf.length r buf) ⟨mediaParcelInit, 0, []⟩

private theorem HeaderFits.of_append {x y : List UInt8} (h : HeaderFits w (x ++ y)) : HeaderFits w x := by
  intro hlen
  rw [← lenOf_append hlen y]
  exact h (by rw [List.length_append]; omega)

/-- One call takes some bytes of the buffer. -/
theorem mediaParcelRecvfrom_spec {buf : List UInt8} (h : Receiving p pre) (hwhole : ¬ Whole pre) (hbuf : buf ≠ [])
    (hfits : HeaderFits w (pre ++ buf)) :
    ∃ bs rest p', buf = bs ++ rest ∧ bs ≠ [] ∧ Receiving p' (pre ++ bs) ∧
      mediaParcelRecvfrom w p pre.length buf true = ((bs.length : Int), p', (pre ++ bs).length) := by
  obtain ⟨hpos, hneeded, hheader⟩ := needed_spec (w := w) h hwhole rfl
  unfold mediaParcelRecvfrom
  generalize (if pre.length < MEDIA_PARCEL_HEADER_LEN then MEDIA_PARCEL_HEADER_LEN - pre.length
    else (MEDIA_PARCEL_HEADER_LEN + p.len + w.mod - pre.length) % w.mod) = expected at *
  by_cases hle : expected ≤ buf.length
  · -- the buffer has all that is needed
    obtain ⟨bs, rest, hbs, rfl⟩ : ∃ bs rest, bs.length = expected ∧ buf = bs ++ rest :=
      ⟨buf.take expected, buf.drop expected, by rw [List.length_take]; omega, (List.take_append_drop ..).symm⟩
    subst hbs
    have hne : bs ≠ [] := List.length_pos_iff.1 hpos
    rw [← List.append_assoc] at hfits
    have hadv := h.advance (hneeded bs (Nat.le_refl _)) hne hfits.of_append
    simp only [hle, ↓reduceIte, List.take_left]
    dsimp only at hadv
    split at hadv
    · rename_i hlen
      obtain ⟨p₂, hgrow, h₂⟩ := hadv
      refine ⟨bs, rest, p₂, rfl, hne, h₂, ?_⟩
      simp [hlen, hgrow]
    · rename_i hlen
      refine ⟨bs, rest, _, rfl, hne, hadv, ?_⟩
      simp [hlen]
  · -- all of the buffer is needed, and more
    have hadv := h.advance (hneeded buf (by omega)) hbuf hfits
    have hlen := hheader buf.length (by omega) (List.length_pos_iff.2 hbuf)
    simp only [hle, ↓reduceIte]
    rw [if_neg hlen] at hadv
    exact ⟨buf, [], _, by simp, hbuf, hadv, by simp⟩

/-- The reader has read the frames `ps` up to a place from where `rest` is to come. -/
def BufReader.Reads (ps : List Frame) (rest : List UInt8) (r : BufReader) : Prop :=
  ∃ pre, Reading ps r.parcel pre r.done rest ∧ r.offset = pre.length

theorem recvfromLoop_reads (hfits : ∀ f ∈ ps, Fits w f.payload.length) (fuel : Nat) : ∀ (r : BufReader)
    (buf rest : List UInt8), buf.length ≤ fuel → r.Reads ps (buf ++ rest) →
      (recvfromLoop w fuel r buf).Reads ps rest := by
  induction fuel with
  | zero =>
    intro r buf rest hlen h
    obtain rfl : buf = [] := List.eq_nil_of_length_eq_zero (by omega)
    exact h
  | succ fuel ih =>
    rintro ⟨p, offset, done⟩ buf rest hlen ⟨pre, h, rfl⟩
    rw [recvfromLoop]
    by_cases hbuf : buf = []
    · subst hbuf
      exact ⟨pre, h, rfl⟩
    · have hheader := h.headerFits hfits
      rw [← List.append_assoc] at hheader
      obtain ⟨bs, buf', p', rfl, hne, hp', hcall⟩ :=
        mediaParcelRecvfrom_spec h.receiving h.not_whole hbuf hheader.of_append
      have hpos := List.length_pos_iff.2 hne
      rw [List.append_assoc] at h
      rw [List.length_append] at hlen
      rw [if_neg hbuf, hcall]
      simp only [show ¬ (bs.length : Int) < 0 by omega, ↓reduceIte, Int.toNat_natCast, List.drop_left, hp'.len_eq]
      by_cases hwhole : (pre ++ bs).length = MEDIA_PARCEL_HEADER_LEN + lenOf (pre ++ bs)
      · rw [if_pos hwhole]
        exact ih _ buf' rest (by omega) ⟨[], h.complete hp' hwhole, rfl⟩
      · rw [if_neg hwhole]
        refine ih _ buf' rest (by omega) ⟨pre ++ bs, h.more hp' hwhole fun he => ?_, rfl⟩
        exact absurd (List.append_eq_nil_iff.1 he).2 hne

theorem recvfromAll_reads (hfits : ∀ f ∈ ps, Fits w f.payload.length) (bufs : List (List UInt8)) : ∀ (r : BufReader)
    (rest : List UInt8), r.Reads ps (bufs.flatten ++ rest) →
      (bufs.foldl (fun r buf => recvfromLoop w buf.length r buf) r).Reads ps rest := by
  induction bufs with
  | nil =>
    intro r rest h
    exact h
  | cons buf bufs ih =>
    intro r rest h
    rw [List.flatten_cons, List.append_assoc] at h
    exact ih _ rest (recvfromLoop_reads hfits buf.length r buf _ (Nat.le_refl _) h)

/-! ### `media_uv_alloc_cb` and `media_uv_read_cb` -/

/-- A pipe as far as reading goes, with the bytes still to come on it and the parcels that were handed on. -/
structure PipeReader where
  parcel : MediaParcel
  offset : Nat
  stream : List UInt8
  done : List Frame
  closed : Bool

/-- The length of the buffer that `media_uv_alloc_cb` offers; it starts at the offset in the chunk. -/
def mediaUvAllocCb (w : SizeT) (pipe : PipeReader) : Nat :=
  if pipe.offset < MEDIA_PARCEL_HEADER_LEN then MEDIA_PARCEL_HEADER_LEN - pipe.offset
  else (MEDIA_PARCEL_HEADER_LEN + pipe.parcel.len + w.mod - pipe.offset) % w.mod

/-- `media_uv_read_cb` for a result that is not an error, when the bytes `bs` are in the buffer; `ok` is the outcome of
the allocation that may follow and `handled` the result of `media_uv_handle_parcel`. -/
def mediaUvReadCb (w : SizeT) (pipe : PipeReader) (bs : List UInt8) (ok : Bool) (handled : Int) : PipeReader :=
  let pipe := { pipe with parcel := { pipe.parcel with mem := store pipe.parcel.mem pipe.offset bs } }
  if bs = [] then pipe
  else
    let offset := pipe.offset + bs.length
    let (ret, parcel) :=
      if offset = MEDIA_PARCEL_HEADER_LEN then mediaParcelGrow w pipe.parcel 0 pipe.parcel.len ok
      else (0, pipe.parcel)
    if ret < 0 then { pipe with parcel, offset, closed := true }
    else if MEDIA_PARCEL_HEADER_LEN + parcel.len = offset then
      if handled < 0 then { pipe with parcel, offset, done := pipe.done ++ [parcel.frame], closed := true }
      else { pipe with parcel := mediaParcelReinit parcel, offset := 0, done := pipe.done ++ [parcel.frame] }
    else { pipe with parcel, offset }

/-- What libuv does with a pipe that is being read: it asks for a buffer and reads at most `max` bytes into it, none
when there are none for now, or it reports an error. -/
inductive PipeEvent
  | read (max : Nat) (ok : Bool) (handled : Int)
  | error
  deriving DecidableEq, Repr

def pipeMachine (w : SizeT) (stream : List UInt8) : Machine PipeReader PipeEvent where
  start := ⟨mediaParcelInit, 0, stream, [], false⟩
  next pipe
    | .read max ok handled =>
      if pipe.closed then none
      else
        let bs := pipe.stream.take (min max (mediaUvAllocCb w pipe))
        some (mediaUvReadCb w { pipe with stream := pipe.stream.drop bs.length } bs ok handled)
    | .error => if pipe.closed then none else some { pipe with closed := true }

/-- The pipe has read the frames `ps` up to some place, or was closed on the way. -/
def PipeReader.Reads (ps : List Frame) (pipe : PipeReader) : Prop :=
  (∃ pre, Reading ps pipe.parcel pre pipe.done pipe.stream ∧ pipe.offset = pre.length) ∨
    pipe.closed = true ∧ pipe.done <+: ps

theorem PipeReader.Reads.read {pipe : PipeReader} {pre : List UInt8} (hfits : ∀ f ∈ ps, Fits w f.payload.length)
    (h : Reading ps pipe.parcel pre pipe.done pipe.stream) (hoffset : pipe.offset = pre.length) (max : Nat)
    (handled : Int) :
    let bs := pipe.stream.take (min max (mediaUvAllocCb w pipe))
    (mediaUvReadCb w { pipe with stream := pipe.stream.drop bs.length } bs true handled).Reads ps := by
  obtain ⟨p, offset, stream, done, closed⟩ := pipe
  dsimp only at h hoffset ⊢
  subst hoffset
  obtain ⟨hpos, hneeded, -⟩ := needed_spec (w := w) h.receiving h.not_whole rfl
  have halloc : mediaUvAllocCb w ⟨p, pre.length, stream, done, closed⟩ =
      if pre.length < MEDIA_PARCEL_HEADER_LEN then MEDIA_PARCEL_HEADER_LEN - pre.length
      else (MEDIA_PARCEL_HEADER_LEN + p.len + w.mod - pre.length) % w.mod := rfl
  rw [← halloc] at hneeded
  generalize mediaUvAllocCb w ⟨p, pre.length, stream, done, closed⟩ = room at *
  obtain ⟨bs, rest, hbs, hlen, rfl⟩ : ∃ bs rest, stream.take (min max room) = bs ∧ bs.length ≤ room ∧
      stream = bs ++ rest :=
    ⟨_, stream.drop (min max room), rfl, by rw [List.length_take]; omega, (List.take_append_drop ..).symm⟩
  rw [hbs, List.drop_left]
  unfold mediaUvReadCb
  by_cases hne : bs = []
  · subst hne
    rw [store_nil, if_pos rfl]
    exact .inl ⟨pre, h, rfl⟩
  · have hheader := h.headerFits hfits
    rw [← List.append_assoc] at hheader
    have hadv := h.receiving.advance (hneeded bs hlen) hne hheader.of_append
    -- the parcel after the bytes were stored, and after it has grown if they completed the header
    obtain ⟨p', hp', hgrown⟩ : ∃ p', Receiving p' (pre ++ bs) ∧
        (if pre.length + bs.length = MEDIA_PARCEL_HEADER_LEN then
          mediaParcelGrow w { p with mem := store p.mem pre.length bs } 0
            (MediaParcel.len { p with mem := store p.mem pre.length bs }) true
        else (0, { p with mem := store p.mem pre.length bs })) = (0, p') := by
      dsimp only at hadv
      split at hadv
      · rename_i hheader
        obtain ⟨p₂, hgrow, h₂⟩ := hadv
        exact ⟨p₂, h₂, by rw [if_pos hheader, hgrow]⟩
      · rename_i hheader
        exact ⟨_, hadv, by rw [if_neg hheader]⟩
    simp only [hne, ↓reduceIte, hgrown, Int.lt_irrefl, hp'.len_eq]
    rw [← List.length_append]
    by_cases hwhole : MEDIA_PARCEL_HEADER_LEN + lenOf (pre ++ bs) = (pre ++ bs).length
    · have hdone := h.complete hp' hwhole.symm
      rw [if_pos hwhole]
      split
      · exact .inr ⟨rfl, hdone.isPrefix⟩
      · exact .inl ⟨[], hdone, rfl⟩
    · rw [if_neg hwhole]
      refine .inl ⟨pre ++ bs, h.more hp' (fun he => hwhole he.symm) fun he => ?_, rfl⟩
      exact absurd (List.append_eq_nil_iff.1 he).2 hne

theorem pipeMachine_reads (hfits : ∀ f ∈ ps, Fits w f.payload.length) {pipe : PipeReader}
    (h : (pipeMachine w (ps.flatMap Frame.encode)).ReachableVia (fun _ i => ∀ max handled, i ≠ .read max false handled)
      pipe) : pipe.Reads ps := by
  refine h.invariant (P := PipeReader.Reads ps) (.inl ⟨[], reading_start ps, rfl⟩) ?_
  rintro pipe i pipe' hpipe hok hn
  cases i with
  | read max ok handled =>
    simp only [pipeMachine] at hn
    obtain rfl : ok = true := by
      by_contra hf
      exact hok max handled (by simp [hf])
    split at hn
    · cases hn
    · rename_i hopen
      cases hn
      obtain ⟨pre, hr, hoffset⟩ | ⟨hclosed, -⟩ := hpipe
      · exact PipeReader.Reads.read hfits hr hoffset max handled
      · exact absurd hclosed hopen
  | error =>
    simp only [pipeMachine] at hn
    split at hn
    · cases hn
    · cases hn
      obtain ⟨pre, hr, -⟩ | ⟨-, hdone⟩ := hpipe
      · exact .inr ⟨rfl, hr.isPrefix⟩
      · exact .inr ⟨rfl, hdone⟩

private theorem mediaUvReadCb_stream (pipe : PipeReader) (bs : List UInt8) (ok : Bool) (handled : Int) :
    (mediaUvReadCb w pipe bs ok handled).stream = pipe.stream := by
  unfold mediaUvReadCb
  dsimp only
  repeat' split
  all_goals rfl

/-- A read of a pipe that has data takes some of it. -/
theorem PipeReader.progress {pipe pipe' : PipeReader} {pre : List UInt8}
    (h : Reading ps pipe.parcel pre pipe.done pipe.stream) (hoffset : pipe.offset = pre.length)
    (hs : pipe.stream ≠ []) (max : Nat) (ok : Bool) (handled : Int)
    (hn : (pipeMachine w (ps.flatMap Frame.encode)).next pipe (.read (max + 1) ok handled) = some pipe') :
    pipe'.stream.length < pipe.stream.length := by
  obtain ⟨hpos, -, -⟩ := needed_spec (w := w) h.receiving h.not_whole rfl
  rw [← hoffset] at hpos
  have hpos : 0 < mediaUvAllocCb w pipe := hpos
  have hlen := List.length_pos_iff.2 hs
  simp only [pipeMachine] at hn
  split at hn
  · cases hn
  · cases hn
    rw [mediaUvReadCb_stream, List.length_drop, List.length_take]
    omega

/-! ### All three find the same parcels -/

private theorem fits_of_le {len : Nat} (h : MEDIA_PARCEL_HEADER_LEN + 2 * len < 2 ^ 32) : Fits w len :=
  ⟨Nat.lt_of_lt_of_le h (le_mod w), by omega⟩

/-- Each of the three readers finds the frames `ps`, in their order and as they were written.  A reader to which
nothing more is to come has found all of them and is at the start of a new parcel; one to which something is to come
takes some of it when it is polled and finds data. -/
structure ReadersComplete (w : SizeT) (ps : List Frame) : Prop where
  server : ∀ c, (serverMachine w (ps.flatMap Frame.encode)).ReachableVia (fun _ i => AllocationsSucceed i.io) c →
    c.state <+: ps ∧ (c.stream = [] → c.state = ps ∧ c.offset = 0 ∧ c.parcel = mediaParcelInit) ∧
      (c.closed = false → c.stream ≠ [] → ∀ max io pollin c', AllocationsSucceed (.data max true :: io) →
        (serverMachine w (ps.flatMap Frame.encode)).next c ⟨pollin, false, false, .data max true :: io⟩ = some c' →
        c'.stream.length < c.stream.length)
  recvfrom : ∀ bufs : List (List UInt8), bufs.flatten = ps.flatMap Frame.encode →
    recvfromAll w bufs = ⟨mediaParcelInit, 0, ps⟩
  pipe : ∀ pipe, (pipeMachine w (ps.flatMap Frame.encode)).ReachableVia
      (fun _ i => ∀ max handled, i ≠ .read max false handled) pipe →
    pipe.done <+: ps ∧
      (pipe.stream = [] → pipe.closed = false → pipe.done = ps ∧ pipe.offset = 0 ∧ pipe.parcel = mediaParcelInit) ∧
      (pipe.stream ≠ [] → ∀ max ok handled pipe',
        (pipeMachine w (ps.flatMap Frame.encode)).next pipe (.read (max + 1) ok handled) = some pipe' →
        pipe'.stream.length < pipe.stream.length)

/-- Frames of which header and twice the payload have 32 bits are read completely, whatever the pieces in which the
bytes arrive. -/
theorem readers_complete (w : SizeT) (ps : List Frame)
    (hfits : ∀ f ∈ ps, MEDIA_PARCEL_HEADER_LEN + 2 * f.payload.length < 2 ^ 32) : ReadersComplete w ps := by
  have hfits : ∀ f ∈ ps, Fits w f.payload.length := fun f hf => fits_of_le (hfits f hf)
  refine ⟨fun c hc => ?_, fun bufs hbufs => ?_, fun pipe hpipe => ?_⟩
  · have hreads := serverMachine_reads hfits hc
    obtain ⟨pre, done, h, rfl, hoffset⟩ := serverMachine_reads hfits hc
    refine ⟨h.isPrefix, fun hend => ?_, fun hopen hs max io pollin c' hio hn => ?_⟩
    · rw [hend] at h
      obtain ⟨hdone, rfl, hparcel⟩ := h.finished
      exact ⟨hdone, hoffset.elim id And.right, hparcel⟩
    · simp only [serverMachine, hopen, Bool.false_eq_true, ↓reduceIte, Option.some.injEq] at hn
      subst hn
      exact hreads.progress hfits (handleKeeps_append ps) hopen hs max hio pollin
  · have hstart : BufReader.Reads ps (bufs.flatten ++ []) ⟨mediaParcelInit, 0, []⟩ :=
      ⟨[], by rw [List.append_nil, hbufs]; exact reading_start ps, rfl⟩
    obtain ⟨pre, h, hoffset⟩ := recvfromAll_reads hfits bufs _ [] hstart
    obtain ⟨hdone, rfl, hparcel⟩ := h.finished
    unfold recvfromAll
    generalize bufs.foldl (fun r buf => recvfromLoop w buf.length r buf) ⟨mediaParcelInit, 0, []⟩ = r at *
    obtain ⟨p, offset, done⟩ := r
    simp only at hdone hparcel hoffset
    rw [hdone, hparcel, hoffset, List.length_nil]
  · obtain ⟨pre, h, hoffset⟩ | ⟨hclosed, hdone⟩ := pipeMachine_reads hfits hpipe
    · refine ⟨h.isPrefix, fun hend _ => ?_, fun hs max ok handled pipe' hn =>
        PipeReader.progress h hoffset hs max ok handled hn⟩
      rw [hend] at h
      obtain ⟨hdone, rfl, hparcel⟩ := h.finished
      exact ⟨hdone, hoffset, hparcel⟩
    · refine ⟨hdone, fun _ hopen => ?_, fun _ max ok handled pipe' hn => ?_⟩
      · rw [hclosed] at hopen
        cases hopen
      · simp [pipeMachine, hclosed] at hn

/-- A command with a payload of three bytes and one with no payload. -/
def sampleFrames : List Frame :=
  [⟨MEDIA_PARCEL_SEND, [1, 2, 3], by decide, by decide⟩, ⟨MEDIA_PARCEL_SEND_ACK, [], by decide, by decide⟩]

theorem readers_complete_sample : ReadersComplete .w32 sampleFrames :=
  readers_complete .w32 sampleFrames (by decide)

end MediaFramework
