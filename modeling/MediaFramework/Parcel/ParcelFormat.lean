import MediaFramework.Parcel.ParcelAppend

/-!
# Reading a parcel (`media_parcel_read_vscanf`)

What was appended by a format is read by the same format.  An empty string and NULL are one byte on the wire, and both
are read as NULL.  A `float` is passed as a `double`, from which a signaling NaN comes back quiet.  The length of a
parcel is a 32 bit number that nobody checks, so arguments of 4 GiB are appended without an error and lost.
-/

namespace MediaFramework

instance (fmt : List Char) (args : List ParcelArg) : Decidable (Matches fmt args) :=
  inferInstanceAs (Decidable (_ = _))

/-! ### The functions -/

inductive ParcelValue
  | l (val : BitVec 64)
  | i (val : BitVec 32)
  | h (val : BitVec 16)
  | c (val : BitVec 8)
  | d (val : BitVec 64)
  | f (val : BitVec 32)
  | s (val : Option (List UInt8))
  deriving DecidableEq

/-- `media_parcel_copy`: the result, the number that was read, and the parcel. -/
def mediaParcelCopy (w : SizeT) (p : MediaParcel) (size : Nat) : Int × Nat × MediaParcel :=
  if p.len < (p.next + size) % w.mod then (-ENOSPC, 0, p)
  else
    let bytes := (List.range size).map fun i => p.mem (MEDIA_PARCEL_HEADER_LEN + p.next + i)
    (0, ofBytes bytes, { p with next := (p.next + size) % 2 ^ 32 })

/-- The string that begins at `next`, if it ends in the payload. -/
def mediaParcelReadString (p : MediaParcel) : Option (List UInt8) × MediaParcel :=
  let rest := p.payload.drop p.next
  let str := rest.takeWhile fun b => b != 0
  if str.length = rest.length then (none, p)
  else (if str = [] then none else some str, { p with next := p.next + str.length + 1 })

/-- The branch of `media_parcel_read_vscanf` for a conversion. -/
def mediaParcelReadValue (w : SizeT) (p : MediaParcel) (conv : Conversion) : Int × ParcelValue × MediaParcel :=
  let copy size (value : Nat → ParcelValue) :=
    let r := mediaParcelCopy w p size
    (r.1, value r.2.1, r.2.2)
  match conv with
  | .l => copy 8 fun n => .l (BitVec.ofNat 64 n)
  | .i => copy 4 fun n => .i (BitVec.ofNat 32 n)
  | .h => copy 2 fun n => .h (BitVec.ofNat 16 n)
  | .c => copy 1 fun n => .c (BitVec.ofNat 8 n)
  | .d => copy 8 fun n => .d (BitVec.ofNat 64 n)
  | .f => copy 4 fun n => .f (BitVec.ofNat 32 n)
  | .s => (0, .s (mediaParcelReadString p).1, (mediaParcelReadString p).2)

/-- The result, the values that were read, and the parcel. -/
def mediaParcelReadVscanf (w : SizeT) : MediaParcel → List Char → Int × List ParcelValue × MediaParcel
  | p, [] => (0, [], p)
  | p, c :: fmt =>
    match conversion c with
    | none => mediaParcelReadVscanf w p fmt
    | some conv =>
      let r := mediaParcelReadValue w p conv
      if r.1 < 0 then (r.1, [], r.2.2)
      else
        let r' := mediaParcelReadVscanf w r.2.2 fmt
        (r'.1, r.2.1 :: r'.2.1, r'.2.2)

/-! ### What is read -/

/-- What is to be read where an argument was appended: a number bit for bit, as far as its width goes. -/
def ParcelArg.value : ParcelArg → ParcelValue
  | .l val => .l val
  | .i val => .i val
  | .h val => .h (val.setWidth 16)
  | .c val => .c (val.setWidth 8)
  | .d val => .d val
  | .f val => .f val
  | .s none => .s none
  | .s (some str) => .s (if str.val = [] then none else some str.val)

/-- What is read where an argument was appended. -/
def ParcelArg.received : ParcelArg → ParcelValue
  | .f val => .f (throughDouble val)
  | arg => arg.value

/-- No argument is a `float` that is a signaling NaN. -/
def QuietFloats (args : List ParcelArg) : Prop := ∀ val, .f val ∈ args → ¬ IsSignaling val

theorem ParcelArg.received_eq_value {arg : ParcelArg} :
    arg.received = arg.value ↔ ∀ val, .f val = arg → ¬ IsSignaling val := by
  cases arg with
  | f val =>
    simp only [ParcelArg.received, ParcelArg.value, ParcelValue.f.injEq, throughDouble_eq_self]
    constructor
    · rintro hquiet _ ⟨⟩
      exact hquiet
    · intro hquiet
      exact hquiet val rfl
  | l | i | h | c | d | s => exact ⟨fun _ _ => nofun, fun _ => rfl⟩

theorem received_eq_value_iff {args : List ParcelArg} :
    args.map ParcelArg.received = args.map ParcelArg.value ↔ QuietFloats args := by
  rw [List.map_inj_left]
  constructor
  · intro h val hm
    exact ParcelArg.received_eq_value.1 (h _ hm) val rfl
  · rintro h arg hm
    refine ParcelArg.received_eq_value.2 ?_
    rintro val rfl
    exact h val hm

variable {w : SizeT} {p : MediaParcel} {fmt : List Char} {args : List ParcelArg} {arg : ParcelArg}
  {rest data : List UInt8}

/-- The parcel after `n` bytes have been read. -/
def MediaParcel.advance (p : MediaParcel) (n : Nat) : MediaParcel := { p with next := p.next + n }

@[simp] theorem MediaParcel.advance_payload (p : MediaParcel) (n : Nat) : (p.advance n).payload = p.payload := rfl
@[simp] theorem MediaParcel.advance_len (p : MediaParcel) (n : Nat) : (p.advance n).len = p.len := rfl
@[simp] theorem MediaParcel.advance_next (p : MediaParcel) (n : Nat) : (p.advance n).next = p.next + n := rfl

theorem MediaParcel.advance_advance (p : MediaParcel) (m n : Nat) : (p.advance m).advance n = p.advance (m + n) := by
  simp [MediaParcel.advance, Nat.add_assoc]

/-- What is left of the payload reaches up to its end. -/
theorem next_le (hdrop : p.payload.drop p.next = data ++ rest) (hdata : data ≠ []) : p.next + data.length ≤ p.len := by
  have hlength := congrArg List.length hdrop
  have hpos := List.length_pos_iff.2 hdata
  rw [List.length_drop, p.length_payload, List.length_append] at hlength
  omega

theorem drop_advance (hdrop : p.payload.drop p.next = data ++ rest) :
    (p.advance data.length).payload.drop (p.advance data.length).next = rest := by
  rw [p.advance_payload, p.advance_next, ← List.drop_drop, hdrop, List.drop_left]

/-- A number that was appended is copied. -/
theorem mediaParcelCopy_spec {n v : Nat} (hdrop : p.payload.drop p.next = toBytes n v ++ rest) (hpos : 0 < n)
    (hv : v < 2 ^ (8 * n)) : mediaParcelCopy w p n = (0, v, p.advance n) := by
  have hne : toBytes n v ≠ [] := List.length_pos_iff.1 (by simpa using hpos)
  have hle := next_le hdrop hne
  have hlen := p.len_lt
  rw [length_toBytes] at hle
  have hbytes : ((List.range n).map fun i => p.mem (MEDIA_PARCEL_HEADER_LEN + p.next + i)) = toBytes n v := by
    apply List.ext_getElem
    · simp
    · intro i hi hi'
      rw [length_toBytes] at hi'
      have hget : (p.payload.drop p.next)[i]? = some (toBytes n v)[i] := by
        rw [hdrop, List.getElem?_append_left (by simpa using hi'), List.getElem?_eq_getElem]
      rw [List.getElem?_drop, MediaParcel.payload, List.getElem?_map, List.getElem?_range (by omega)] at hget
      simpa [Nat.add_assoc] using hget
  have hmod : (p.next + n) % w.mod = p.next + n :=
    Nat.mod_eq_of_lt (lt_of_le_of_lt hle (lt_of_lt_of_le hlen (le_mod w)))
  unfold mediaParcelCopy
  rw [hmod, if_neg (by omega), hbytes]
  dsimp only
  rw [ofBytes_toBytes hv, Nat.mod_eq_of_lt (lt_of_le_of_lt hle hlen)]
  rfl

/-- A string that was appended is read, an empty one as NULL. -/
theorem mediaParcelReadString_spec {str : List UInt8} (hstr : (0 : UInt8) ∉ str)
    (hdrop : p.payload.drop p.next = (str ++ [0]) ++ rest) :
    mediaParcelReadString p = (if str = [] then none else some str, p.advance (str.length + 1)) := by
  have htake : ((str ++ [0]) ++ rest).takeWhile (fun b => b != 0) = str := by
    rw [List.append_assoc, List.takeWhile_append_of_pos fun b hb => by
      have hne : b ≠ 0 := fun h => hstr (h ▸ hb)
      simpa using hne]
    simp
  unfold mediaParcelReadString
  dsimp only
  rw [hdrop, htake, if_neg (by simp)]
  rfl

/-- An argument that was appended is read. -/
theorem mediaParcelReadValue_spec (hdrop : p.payload.drop p.next = arg.encode ++ rest) :
    mediaParcelReadValue w p arg.conversion = (0, arg.received, p.advance arg.encode.length) := by
  cases arg with
  | l val | i val | h val | c val | d val | f val =>
    simp only [ParcelArg.encode] at hdrop
    simp only [mediaParcelReadValue, ParcelArg.conversion, ParcelArg.received, ParcelArg.value, ParcelArg.encode,
      length_toBytes,
      mediaParcelCopy_spec hdrop (by decide) (BitVec.isLt _), BitVec.ofNat_toNat, BitVec.setWidth_eq]
  | s val =>
    cases val with
    | none =>
      have hread := mediaParcelReadString_spec (List.not_mem_nil) hdrop
      simp only [mediaParcelReadValue, ParcelArg.conversion, hread]
      rfl
    | some str =>
      have hread := mediaParcelReadString_spec str.property hdrop
      simp only [mediaParcelReadValue, ParcelArg.conversion, hread, ParcelArg.received, ParcelArg.value,
        ParcelArg.encode, Option.map_some, Option.getD_some, List.length_append, List.length_singleton]

/-- Arguments that were appended by a format are read by it, wherever they are in the payload. -/
theorem mediaParcelReadVscanf_spec (hmatch : Matches fmt args) (hdrop : p.payload.drop p.next =
      args.flatMap ParcelArg.encode ++ rest) :
    mediaParcelReadVscanf w p fmt =
      (0, args.map ParcelArg.received, p.advance (args.flatMap ParcelArg.encode).length) := by
  induction fmt generalizing p args with
  | nil =>
    obtain rfl : args = [] := List.map_eq_nil_iff.1 hmatch
    rfl
  | cons c fmt ih =>
    unfold Matches at hmatch
    unfold mediaParcelReadVscanf
    cases hconv : conversion c with
    | none =>
      rw [List.filterMap_cons_none hconv] at hmatch
      exact ih hmatch hdrop
    | some conv =>
      rw [List.filterMap_cons_some hconv] at hmatch
      obtain ⟨arg, args, rfl, rfl, hmatch'⟩ := List.map_eq_cons_iff.1 hmatch
      rw [List.flatMap_cons, List.append_assoc] at hdrop
      have hread := mediaParcelReadValue_spec (w := w) hdrop
      have hrest := ih hmatch' (drop_advance hdrop)
      simp only [hread, hrest, Int.lt_irrefl, if_false, List.map_cons, List.flatMap_cons, List.length_append,
        p.advance_advance]

/-! ### What is appended -/

/-- What the loop of `media_parcel_append_vprintf` does: it appends all arguments, or the ones before one for which
there is no memory. -/
def Appended (w : SizeT) (p : MediaParcel) (args : List ParcelArg) (ret : Int) (q : MediaParcel) : Prop :=
  q.next = p.next ∧
    (ret = 0 ∧ q.payload = p.payload ++ args.flatMap ParcelArg.encode ∨
      ret = -ENOMEM ∧ ∃ done arg more, args = done ++ arg :: more ∧
        q.payload = p.payload ++ done.flatMap ParcelArg.encode ∧ arg.append w q false = some (-ENOMEM, q))

theorem mediaParcelAppendVprintf_spec (hmatch : Matches fmt args) (h : Sized w p)
    (hfits : Appendable w p.cap p.len (args.map fun arg => arg.encode.length)) (oks : List Bool) :
    ∃ ret q, mediaParcelAppendVprintf w p fmt args oks = some (ret, q) ∧ Appended w p args ret q ∧
      (false ∉ oks → ret = 0) := by
  induction fmt generalizing p args oks with
  | nil =>
    obtain rfl : args = [] := List.map_eq_nil_iff.1 hmatch
    exact ⟨0, p, rfl, ⟨rfl, .inl ⟨rfl, by simp⟩⟩, fun _ => rfl⟩
  | cons c fmt ih =>
    unfold Matches at hmatch
    unfold mediaParcelAppendVprintf
    cases hconv : conversion c with
    | none =>
      rw [List.filterMap_cons_none hconv] at hmatch
      exact ih hmatch h hfits oks
    | some conv =>
      rw [List.filterMap_cons_some hconv] at hmatch
      obtain ⟨arg, args, rfl, rfl, hmatch'⟩ := List.map_eq_cons_iff.1 hmatch
      obtain ⟨hlen, hcap, hfits⟩ := hfits
      simp only [if_true, arg.append_eq]
      rcases mediaParcelAppend_spec h arg.encode_ne_nil hlen hcap (oks.headD true) with
        ⟨q, hq, hpayload, hsized, hnext, hqlen, hqcap⟩ | ⟨hfalse, hq⟩
      · rw [hq]
        simp only [Option.bind_some, Int.lt_irrefl, if_false]
        obtain ⟨ret, q', hq', ⟨hnext', happended⟩, hok⟩ := ih hmatch' hsized (hqlen ▸ hqcap ▸ hfits) oks.tail
        refine ⟨ret, q', hq', ⟨hnext'.trans hnext, ?_⟩, fun h => hok fun hm => h (List.mem_of_mem_tail hm)⟩
        rw [hpayload] at happended
        rcases happended with ⟨hret, hpayload'⟩ | ⟨hret, done, failed, more, rfl, hpayload', hfailed⟩
        · exact .inl ⟨hret, by rw [hpayload', List.flatMap_cons, List.append_assoc]⟩
        · refine .inr ⟨hret, arg :: done, failed, more, rfl, ?_, hfailed⟩
          rw [hpayload', List.flatMap_cons, List.append_assoc]
      · have hret : (-ENOMEM : Int) < 0 := by decide
        rw [hq]
        simp only [Option.bind_some, if_pos hret]
        refine ⟨_, _, rfl, ⟨rfl, .inr ⟨rfl, [], arg, args, rfl, by simp, ?_⟩⟩, fun hm => absurd ?_ hm⟩
        · rw [arg.append_eq, ← hfalse]
          exact hq
        · cases oks with
          | nil => cases hfalse
          | cons ok oks => exact List.mem_cons.2 (.inl hfalse.symm)

/-! ### The round trip -/

/-- Whatever the outcomes of the allocations are: when all arguments were appended, the payload is their bytes and they
are read again, up to its end; and when there was no memory for one of them, the payload is the bytes of those before
it. -/
def RoundTrips (w : SizeT) (fmt : List Char) (args : List ParcelArg) : Prop :=
  ∀ oks, ∃ ret p, mediaParcelAppendVprintf w mediaParcelInit fmt args oks = some (ret, p) ∧
    (ret = 0 → p.payload = args.flatMap ParcelArg.encode ∧
      ∃ q, mediaParcelReadVscanf w p fmt = (0, args.map ParcelArg.value, q) ∧ q.next = p.len) ∧
    (ret ≠ 0 → ret = -ENOMEM ∧ ∃ done arg more, args = done ++ arg :: more ∧
      p.payload = done.flatMap ParcelArg.encode ∧ arg.append w p false = some (-ENOMEM, p))

/-- The arguments fit into an initialised parcel. -/
def FitsParcel (w : SizeT) (args : List ParcelArg) : Prop :=
  Appendable w mediaParcelInit.cap mediaParcelInit.len (args.map fun arg => arg.encode.length)

theorem payload_init : mediaParcelInit.payload = [] := rfl

theorem roundTrips_of_fits (hmatch : Matches fmt args) (hfits : FitsParcel w args) (hquiet : QuietFloats args) :
    RoundTrips w fmt args := by
  intro oks
  obtain ⟨ret, p, happend, ⟨hnext, happended⟩, -⟩ := mediaParcelAppendVprintf_spec hmatch (sized_init w) hfits oks
  rw [payload_init] at happended
  refine ⟨ret, p, happend, fun hret => ?_, fun hret => ?_⟩
  · obtain ⟨-, hpayload⟩ | ⟨hret', -⟩ := happended
    · rw [List.nil_append] at hpayload
      have hzero : p.next = 0 := hnext
      have hdrop : p.payload.drop p.next = args.flatMap ParcelArg.encode ++ [] := by
        rw [hzero, List.drop_zero, hpayload, List.append_nil]
      have hread := mediaParcelReadVscanf_spec (w := w) hmatch hdrop
      rw [received_eq_value_iff.2 hquiet] at hread
      refine ⟨hpayload, _, hread, ?_⟩
      rw [p.advance_next, hzero, Nat.zero_add, ← hpayload, p.length_payload]
    · exact absurd (hret.symm.trans hret') (by decide)
  · obtain ⟨hret', -⟩ | ⟨hret', hfailed⟩ := happended
    · exact absurd hret' hret
    · simp only [List.nil_append] at hfailed
      exact ⟨hret', hfailed⟩

theorem mediaParcelAppend_ok {ret : Int} {q : MediaParcel} (h : mediaParcelAppend w p data true = some (ret, q)) :
    ret = 0 := by
  have hgrow : (mediaParcelGrow w p p.len data.length true).1 = 0 := by
    unfold mediaParcelGrow
    dsimp only
    split <;> rfl
  unfold mediaParcelAppend at h
  dsimp only at h
  rw [hgrow, if_neg (Int.lt_irrefl 0)] at h
  split at h
  · cases h
    rfl
  · split at h
    · cases h
      rfl
    · cases h

/-- With enough memory no append fails. -/
theorem mediaParcelAppendVprintf_ok {ret : Int} {q : MediaParcel}
    (h : mediaParcelAppendVprintf w p fmt args [] = some (ret, q)) : ret = 0 := by
  induction fmt generalizing p args with
  | nil =>
    cases h
    rfl
  | cons c fmt ih =>
    unfold mediaParcelAppendVprintf at h
    split at h
    · exact ih h
    · split at h
      · cases h
      · split at h
        · obtain ⟨r, hr, h⟩ := Option.bind_eq_some_iff.1 h
          rw [ParcelArg.append_eq] at hr
          have hzero : r.1 = 0 := mediaParcelAppend_ok hr
          rw [hzero, if_neg (Int.lt_irrefl 0)] at h
          exact ih h
        · cases h

/-- Arguments that are appended with enough memory, and are not too long altogether, fit. -/
theorem appendable_of_append (hmatch : Matches fmt args) (h : Sized w p)
    (hlen : p.len + (args.flatMap ParcelArg.encode).length < 2 ^ 32)
    (hsome : mediaParcelAppendVprintf w p fmt args [] ≠ none) :
    Appendable w p.cap p.len (args.map fun arg => arg.encode.length) := by
  induction fmt generalizing p args with
  | nil =>
    obtain rfl : args = [] := List.map_eq_nil_iff.1 hmatch
    trivial
  | cons c fmt ih =>
    unfold Matches at hmatch
    unfold mediaParcelAppendVprintf at hsome
    cases hconv : conversion c with
    | none =>
      rw [List.filterMap_cons_none hconv] at hmatch
      rw [hconv] at hsome
      exact ih hmatch h hlen hsome
    | some conv =>
      rw [List.filterMap_cons_some hconv] at hmatch
      obtain ⟨arg, args, rfl, rfl, hmatch'⟩ := List.map_eq_cons_iff.1 hmatch
      rw [List.flatMap_cons, List.length_append] at hlen
      simp only [hconv, if_true, arg.append_eq, List.headD_nil, List.tail_nil] at hsome
      have hfirst : p.len + arg.encode.length < 2 ^ 32 := by omega
      by_cases hcap : MEDIA_PARCEL_HEADER_LEN + grownCap p.cap (p.len + arg.encode.length) < w.mod
      · obtain ⟨q, hq, -, hsized, -, hqlen, hqcap⟩ | ⟨hfalse, -⟩ :=
          mediaParcelAppend_spec h arg.encode_ne_nil hfirst hcap true
        · rw [hq] at hsome
          simp only [Option.bind_some, Int.lt_irrefl, if_false] at hsome
          have hrest := ih hmatch' hsized (by omega) hsome
          rw [hqlen, hqcap] at hrest
          exact ⟨hfirst, hcap, hrest⟩
        · cases hfalse
      · rw [mediaParcelAppend_overflow h arg.encode_ne_nil hfirst hcap] at hsome
        exact absurd rfl hsome

/-- What makes the round trip fits: the payload of a parcel is always shorter than 4 GiB. -/
theorem fits_of_roundTrips (hmatch : Matches fmt args) (h : RoundTrips w fmt args) : FitsParcel w args := by
  obtain ⟨ret, p, happend, hall, -⟩ := h []
  obtain ⟨hpayload, -⟩ := hall (mediaParcelAppendVprintf_ok happend)
  refine appendable_of_append hmatch (sized_init w) ?_ (by rw [happend]; exact Option.some_ne_none _)
  have hlt := p.len_lt
  rw [← p.length_payload, hpayload] at hlt
  have hzero : mediaParcelInit.len = 0 := rfl
  rw [hzero, Nat.zero_add]
  exact hlt

/-- What makes the round trip is read bit for bit. -/
theorem quiet_of_roundTrips (hmatch : Matches fmt args) (h : RoundTrips w fmt args) : QuietFloats args := by
  obtain ⟨ret, p, happend, hall, -⟩ := h []
  obtain ⟨hpayload, q, hread, -⟩ := hall (mediaParcelAppendVprintf_ok happend)
  obtain ⟨ret', p', happend', ⟨hnext, -⟩, -⟩ :=
    mediaParcelAppendVprintf_spec hmatch (sized_init w) (fits_of_roundTrips hmatch h) []
  obtain ⟨-, rfl⟩ := Prod.mk.inj (Option.some.inj (happend.symm.trans happend'))
  have hdrop : p.payload.drop p.next = args.flatMap ParcelArg.encode ++ [] := by
    rw [show p.next = 0 from hnext, List.drop_zero, hpayload, List.append_nil]
  rw [mediaParcelReadVscanf_spec hmatch hdrop] at hread
  exact received_eq_value_iff.1 (congrArg (·.2.1) hread)

/-- For every format and its arguments the round trip is right if and only if the arguments fit into a parcel and no
`float` is a signaling NaN. -/
theorem parcel_roundTrips (w : SizeT) (hmatch : Matches fmt args) :
    RoundTrips w fmt args ↔ FitsParcel w args ∧ QuietFloats args :=
  ⟨fun h => ⟨fits_of_roundTrips hmatch h, quiet_of_roundTrips hmatch h⟩,
    fun h => roundTrips_of_fits hmatch h.1 h.2⟩

/-- A number, a string, no string, a small number, and infinity. -/
def sampleArgs : List ParcelArg :=
  [.i 7, .s (some ⟨[109, 117, 115], by decide⟩), .s none, .h 0x12345, .f 0x7f800000]

theorem parcel_roundTrips_sample : RoundTrips .w32 "%i%s%s-%h%f".toList sampleArgs := by
  refine (parcel_roundTrips .w32 (by decide)).2 ⟨?_, ?_⟩
  · exact ⟨by decide, by decide, by decide, by decide, by decide, by decide, by decide, by decide, by decide,
      by decide, trivial⟩
  · intro val hm
    simp only [sampleArgs, List.mem_cons, reduceCtorEq, ParcelArg.f.injEq, List.not_mem_nil, false_or, or_false] at hm
    rw [hm]
    decide

/-- A string of 4 GiB is appended without an error. -/
theorem parcel_not_roundTrips : ¬ ∀ (w : SizeT) (fmt : List Char) (args : List ParcelArg),
    Matches fmt args → RoundTrips w fmt args := by
  intro h
  obtain ⟨str, hlong, hnonzero⟩ : ∃ str : List UInt8, str.length = 2 ^ 32 - 1 ∧ (0 : UInt8) ∉ str :=
    ⟨List.replicate (2 ^ 32 - 1) 1, List.length_replicate, fun hm => absurd (List.mem_replicate.1 hm).2 (by decide)⟩
  have hmatch : Matches ['s'] [.s (some ⟨str, hnonzero⟩)] := rfl
  have hlen := (fits_of_roundTrips hmatch (h .w64 _ _ hmatch)).1
  simp only [ParcelArg.encode, Option.map_some, Option.getD_some, List.length_append, hlong,
    List.length_singleton] at hlen
  omega

end MediaFramework
