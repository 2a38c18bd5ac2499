import MediaFramework.Parcel.ParcelSend

/-!
# Appending to a parcel (`media_parcel_append_vprintf`)

Each argument is appended as its bytes, a string with its end.  The chunk moves to the heap, or grows there, when its
capacity does not do.
-/

namespace MediaFramework

/-! ### Bytes -/

/-- A number in `n` bytes, as it is in memory. -/
def toBytes : Nat → Nat → List UInt8
  | 0, _ => []
  | n + 1, v => UInt8.ofNat v :: toBytes n (v / 2 ^ 8)

def ofBytes : List UInt8 → Nat
  | [] => 0
  | b :: bs => b.toNat + 2 ^ 8 * ofBytes bs

@[simp] theorem length_toBytes (n v : Nat) : (toBytes n v).length = n := by
  induction n generalizing v with
  | zero => rfl
  | succ n ih => rw [toBytes, List.length_cons, ih]

theorem ofBytes_toBytes {n v : Nat} (h : v < 2 ^ (8 * n)) : ofBytes (toBytes n v) = v := by
  induction n generalizing v with
  | zero =>
    obtain rfl : v = 0 := by omega
    rfl
  | succ n ih =>
    have hdiv : v / 2 ^ 8 < 2 ^ (8 * n) := by
      rw [Nat.div_lt_iff_lt_mul (by decide), ← Nat.pow_add]
      exact h
    rw [toBytes, ofBytes, ih hdiv, UInt8.toNat_ofNat']
    omega

/-! ### Arguments -/

/-- The bytes of a C string before its end. -/
abbrev CBytes := { bs : List UInt8 // (0 : UInt8) ∉ bs }

inductive Conversion
  | l
  | i
  | h
  | c
  | d
  | f
  | s
  deriving DecidableEq

/-- The characters of a format that stand for an argument; `%` and any other one do not. -/
def conversion : Char → Option Conversion
  | 'l' => some .l
  | 'i' => some .i
  | 'h' => some .h
  | 'c' => some .c
  | 'd' => some .d
  | 'f' => some .f
  | 's' => some .s
  | _ => none

/-- A variable argument.  Small numbers are passed as 32 bits; a `double` is its 64 bits, and a `float`, which is
passed as a `double`, its 32 bits. -/
inductive ParcelArg
  | l (val : BitVec 64)
  | i (val : BitVec 32)
  | h (val : BitVec 32)
  | c (val : BitVec 32)
  | d (val : BitVec 64)
  | f (val : BitVec 32)
  | s (val : Option CBytes)
  deriving DecidableEq

def ParcelArg.conversion : ParcelArg → Conversion
  | .l _ => .l
  | .i _ => .i
  | .h _ => .h
  | .c _ => .c
  | .d _ => .d
  | .f _ => .f
  | .s _ => .s

/-- A NaN of 32 bits without the bit that makes it quiet. -/
def IsSignaling (val : BitVec 32) : Prop := val &&& 0x7fc00000 = 0x7f800000 ∧ val &&& 0x3fffff ≠ 0

instance (val : BitVec 32) : Decidable (IsSignaling val) := inferInstanceAs (Decidable (_ ∧ _))

/-- A `float` that was made a `double` and a `float` again: the same number, but a NaN is quiet. -/
def throughDouble (val : BitVec 32) : BitVec 32 := if IsSignaling val then val ||| 0x400000 else val

theorem throughDouble_eq_self {val : BitVec 32} : throughDouble val = val ↔ ¬ IsSignaling val := by
  unfold throughDouble
  split
  · rename_i hsignaling
    have hclear : val[22] = false := by simpa using congrArg (BitVec.getLsbD · 22) hsignaling.1
    refine ⟨fun heq => ?_, absurd hsignaling⟩
    have hset : val[22] = true := by simpa using congrArg (BitVec.getLsbD · 22) heq
    exact absurd (hclear.symm.trans hset) (by decide)
  · rename_i hquiet
    exact ⟨fun _ => hquiet, fun _ => rfl⟩

/-- The arguments are those that the format asks for. -/
def Matches (fmt : List Char) (args : List ParcelArg) : Prop :=
  args.map ParcelArg.conversion = fmt.filterMap conversion

/-! ### The functions -/

/-- `media_parcel_append`, with the outcome of the allocation if there is one.  There is no result when the data do
not fit into what was allocated for the chunk. -/
def mediaParcelAppend (w : SizeT) (p : MediaParcel) (data : List UInt8) (ok : Bool) : Option (Int × MediaParcel) :=
  if data.length = 0 then some (0, p)
  else
    let r := mediaParcelGrow w p p.len data.length ok
    if r.1 < 0 then some r
    else if MEDIA_PARCEL_HEADER_LEN + p.len + data.length ≤ r.2.size then
      let mem := store r.2.mem (MEDIA_PARCEL_HEADER_LEN + p.len) data
      some (0, { r.2 with mem := store mem 4 (bytes32 (p.len + data.length)) })
    else none

variable (w : SizeT) (p : MediaParcel)

def mediaParcelAppendInt8 (val : BitVec 8) (ok : Bool) : Option (Int × MediaParcel) :=
  mediaParcelAppend w p (toBytes 1 val.toNat) ok

def mediaParcelAppendInt16 (val : BitVec 16) (ok : Bool) : Option (Int × MediaParcel) :=
  mediaParcelAppend w p (toBytes 2 val.toNat) ok

def mediaParcelAppendInt32 (val : BitVec 32) (ok : Bool) : Option (Int × MediaParcel) :=
  mediaParcelAppend w p (toBytes 4 val.toNat) ok

def mediaParcelAppendInt64 (val : BitVec 64) (ok : Bool) : Option (Int × MediaParcel) :=
  mediaParcelAppend w p (toBytes 8 val.toNat) ok

def mediaParcelAppendFloat (val : BitVec 32) (ok : Bool) : Option (Int × MediaParcel) :=
  mediaParcelAppend w p (toBytes 4 val.toNat) ok

def mediaParcelAppendDouble (val : BitVec 64) (ok : Bool) : Option (Int × MediaParcel) :=
  mediaParcelAppend w p (toBytes 8 val.toNat) ok

def mediaParcelAppendString (str : Option CBytes) (ok : Bool) : Option (Int × MediaParcel) :=
  mediaParcelAppend w p ((str.map Subtype.val).getD [] ++ [0]) ok

/-- The branch of `media_parcel_append_vprintf` for an argument. -/
def ParcelArg.append (ok : Bool) : ParcelArg → Option (Int × MediaParcel)
  | .l val => mediaParcelAppendInt64 w p val ok
  | .i val => mediaParcelAppendInt32 w p val ok
  | .h val => mediaParcelAppendInt16 w p (val.setWidth 16) ok
  | .c val => mediaParcelAppendInt8 w p (val.setWidth 8) ok
  | .d val => mediaParcelAppendDouble w p val ok
  | .f val => mediaParcelAppendFloat w p (throughDouble val) ok
  | .s val => mediaParcelAppendString w p val ok

/-- `media_parcel_append_vprintf`; `oks` are the outcomes of the allocations for the arguments, good ones when they are
used up.  There is no result when an argument is not what the format says. -/
def mediaParcelAppendVprintf (w : SizeT) :
    MediaParcel → List Char → List ParcelArg → List Bool → Option (Int × MediaParcel)
  | p, [], _, _ => some (0, p)
  | p, c :: fmt, ap, oks =>
    match conversion c with
    | none => mediaParcelAppendVprintf w p fmt ap oks
    | some conv =>
      match ap with
      | [] => none
      | arg :: ap =>
        if arg.conversion = conv then
          (arg.append w p (oks.headD true)).bind fun r =>
            if r.1 < 0 then some r else mediaParcelAppendVprintf w r.2 fmt ap oks.tail
        else none

/-! ### What is appended -/

/-- The bytes of an argument. -/
def ParcelArg.encode : ParcelArg → List UInt8
  | .l val => toBytes 8 val.toNat
  | .i val => toBytes 4 val.toNat
  | .h val => toBytes 2 (val.setWidth 16).toNat
  | .c val => toBytes 1 (val.setWidth 8).toNat
  | .d val => toBytes 8 val.toNat
  | .f val => toBytes 4 (throughDouble val).toNat
  | .s val => (val.map Subtype.val).getD [] ++ [0]

theorem ParcelArg.append_eq (arg : ParcelArg) (ok : Bool) :
    arg.append w p ok = mediaParcelAppend w p arg.encode ok := by
  cases arg <;> rfl

theorem ParcelArg.encode_ne_nil (arg : ParcelArg) : arg.encode ≠ [] := by
  cases arg <;> simp [ParcelArg.encode, toBytes]

/-! ### The chunk -/

/-- The capacity after the parcel has grown for a payload of `newsz` bytes. -/
def grownCap (cap newsz : Nat) : Nat :=
  if newsz ≤ cap then cap else if newsz ≤ 2 * cap % 2 ^ 32 then 2 * cap % 2 ^ 32 else newsz

/-- The chunk has room for its capacity, and the payload is within it. -/
structure Sized (w : SizeT) (p : MediaParcel) : Prop where
  len_le : p.len ≤ p.cap
  cap_lt : MEDIA_PARCEL_HEADER_LEN + p.cap < w.mod
  size : MEDIA_PARCEL_HEADER_LEN + p.cap ≤ p.size

/-- Data of these lengths can be appended: the length of the payload stays a 32 bit number, and what is allocated for
the capacities a `size_t`. -/
def Appendable (w : SizeT) : (cap len : Nat) → List Nat → Prop
  | _, _, [] => True
  | cap, len, n :: ns =>
    len + n < 2 ^ 32 ∧ MEDIA_PARCEL_HEADER_LEN + grownCap cap (len + n) < w.mod ∧
      Appendable w (grownCap cap (len + n)) (len + n) ns

variable {w p} {data : List UInt8} {ok : Bool}

theorem sized_init (w : SizeT) : Sized w mediaParcelInit := by
  refine ⟨Nat.zero_le _, ?_, Nat.le_refl _⟩
  cases w <;> decide

/-- What growing for more data does: nothing, or a new capacity, unless there is no memory. -/
theorem mediaParcelGrow_append {n : Nat} (hlen : p.len + n < 2 ^ 32) (ok : Bool) :
    p.len + n ≤ p.cap ∧ mediaParcelGrow w p p.len n ok = (0, p) ∨
      p.cap < p.len + n ∧ mediaParcelGrow w p p.len n ok =
        if ok then
          (0, { p with
                mem := if p.heap then p.mem else fun i => if i < MEDIA_PARCEL_HEADER_LEN + p.len then p.mem i else 0
                size := (MEDIA_PARCEL_HEADER_LEN + grownCap p.cap (p.len + n)) % w.mod
                heap := true
                cap := grownCap p.cap (p.len + n) })
        else (-ENOMEM, p) := by
  have hnewsz : (n + p.len) % w.mod = p.len + n := by
    rw [Nat.add_comm, Nat.mod_eq_of_lt (lt_of_lt_of_le hlen (le_mod w))]
  unfold mediaParcelGrow
  dsimp only
  rw [hnewsz]
  by_cases hcap : p.len + n ≤ p.cap
  · rw [if_pos hcap]
    exact .inl ⟨hcap, rfl⟩
  · rw [if_neg hcap]
    have hgrown : (if p.len + n ≤ 2 * p.cap % 2 ^ 32 then 2 * p.cap % 2 ^ 32 else p.len + n) =
        grownCap p.cap (p.len + n) := by rw [grownCap, if_neg hcap]
    have hlt : grownCap p.cap (p.len + n) < 2 ^ 32 := by
      rw [← hgrown]
      split
      · exact Nat.mod_lt _ (by decide)
      · exact hlen
    rw [hgrown, Nat.mod_eq_of_lt hlt]
    exact .inr ⟨Nat.lt_of_not_le hcap, rfl⟩

/-- The payload after data have been stored behind it. -/
theorem payload_store {mem : Nat → UInt8} (hmem : ∀ i < MEDIA_PARCEL_HEADER_LEN + p.len, mem i = p.mem i)
    (hlen : p.len + data.length < 2 ^ 32) {q : MediaParcel}
    (hq : q.mem = store (store mem (MEDIA_PARCEL_HEADER_LEN + p.len) data) 4 (bytes32 (p.len + data.length))) :
    q.len = p.len + data.length ∧ q.payload = p.payload ++ data := by
  have hqlen : q.len = p.len + data.length := by
    rw [MediaParcel.len, hq]
    exact load32_store_bytes32 _ hlen 4
  refine ⟨hqlen, ?_⟩
  have hbehind : ∀ i, q.mem (MEDIA_PARCEL_HEADER_LEN + i) =
      store mem (MEDIA_PARCEL_HEADER_LEN + p.len) data (MEDIA_PARCEL_HEADER_LEN + i) := by
    intro i
    rw [hq]
    exact store_ge (by rw [length_bytes32, MEDIA_PARCEL_HEADER_LEN]; omega)
  apply List.ext_getElem
  · rw [q.length_payload, List.length_append, p.length_payload, hqlen]
  · intro i hi hi'
    rw [q.length_payload, hqlen] at hi
    simp only [MediaParcel.payload, List.getElem_map, List.getElem_range, hbehind]
    by_cases hlt : i < p.len
    · rw [store_lt (by omega), hmem _ (by omega), List.getElem_append_left (by simpa using hlt)]
      simp
    · rw [store_mid (by omega) (by omega), List.getElem_append_right (by simpa using hlt), List.getD_eq_getElem?_getD]
      have hsub : MEDIA_PARCEL_HEADER_LEN + i - (MEDIA_PARCEL_HEADER_LEN + p.len) = i - p.len := by omega
      rw [hsub]
      simp [List.getElem?_eq_getElem (show i - p.len < data.length by omega)]

private theorem append_of_grow {g : MediaParcel} (hdata : data ≠ []) (hlen : p.len + data.length < 2 ^ 32)
    (hgrow : mediaParcelGrow w p p.len data.length ok = (0, g))
    (hmem : ∀ i < MEDIA_PARCEL_HEADER_LEN + p.len, g.mem i = p.mem i)
    (hsize : MEDIA_PARCEL_HEADER_LEN + p.len + data.length ≤ g.size) :
    ∃ q, mediaParcelAppend w p data ok = some (0, q) ∧ q.payload = p.payload ++ data ∧
      q.len = p.len + data.length ∧ q.next = g.next ∧ q.cap = g.cap ∧ q.size = g.size := by
  have hpos : data.length ≠ 0 := (List.length_pos_iff.2 hdata).ne'
  unfold mediaParcelAppend
  rw [if_neg hpos, hgrow]
  dsimp only
  rw [if_neg (Int.lt_irrefl 0), if_pos hsize]
  obtain ⟨hqlen, hpayload⟩ := payload_store hmem hlen (q := { g with
    mem := store (store g.mem (MEDIA_PARCEL_HEADER_LEN + p.len) data) 4 (bytes32 (p.len + data.length)) }) rfl
  exact ⟨_, rfl, hpayload, hqlen, rfl, rfl, rfl⟩

/-- Data are put behind the payload, or there is no memory and nothing changes. -/
theorem mediaParcelAppend_spec (h : Sized w p) (hdata : data ≠ []) (hlen : p.len + data.length < 2 ^ 32)
    (hcap : MEDIA_PARCEL_HEADER_LEN + grownCap p.cap (p.len + data.length) < w.mod) (ok : Bool) :
    (∃ q, mediaParcelAppend w p data ok = some (0, q) ∧ q.payload = p.payload ++ data ∧ Sized w q ∧ q.next = p.next ∧
        q.len = p.len + data.length ∧ q.cap = grownCap p.cap (p.len + data.length)) ∨
      ok = false ∧ mediaParcelAppend w p data ok = some (-ENOMEM, p) := by
  have hsize := h.size
  rcases mediaParcelGrow_append hlen ok with ⟨hroom, hgrow⟩ | ⟨hroom, hgrow⟩
  · left
    obtain ⟨q, hq, hpayload, hqlen, hnext, hqcap, hqsize⟩ := append_of_grow hdata hlen hgrow (fun _ _ => rfl) (by omega)
    refine ⟨q, hq, hpayload, ⟨?_, ?_, ?_⟩, hnext, hqlen, ?_⟩
    · rw [hqlen, hqcap]
      exact hroom
    · rw [hqcap]
      exact h.cap_lt
    · rw [hqcap, hqsize]
      exact hsize
    · rw [hqcap, grownCap, if_pos hroom]
  · cases ok with
    | false =>
      right
      have hpos : data.length ≠ 0 := (List.length_pos_iff.2 hdata).ne'
      unfold mediaParcelAppend
      rw [if_neg hpos, hgrow]
      exact ⟨rfl, rfl⟩
    | true =>
      left
      have hle : p.len + data.length ≤ grownCap p.cap (p.len + data.length) := by
        unfold grownCap
        split_ifs <;> omega
      rw [if_pos rfl, Nat.mod_eq_of_lt hcap] at hgrow
      obtain ⟨q, hq, hpayload, hqlen, hnext, hqcap, hqsize⟩ := append_of_grow hdata hlen hgrow
        (fun i hi => by dsimp only; split <;> simp [hi]) (by dsimp only; omega)
      refine ⟨q, hq, hpayload, ⟨?_, ?_, ?_⟩, hnext, hqlen, hqcap⟩
      · rw [hqlen, hqcap]
        exact hle
      · rw [hqcap]
        exact hcap
      · rw [hqcap, hqsize]

/-- When the size of the chunk wraps, the data do not fit. -/
theorem mediaParcelAppend_overflow (h : Sized w p) (hdata : data ≠ []) (hlen : p.len + data.length < 2 ^ 32)
    (hcap : ¬ MEDIA_PARCEL_HEADER_LEN + grownCap p.cap (p.len + data.length) < w.mod) :
    mediaParcelAppend w p data true = none := by
  have hpos : data.length ≠ 0 := (List.length_pos_iff.2 hdata).ne'
  rcases mediaParcelGrow_append hlen true with ⟨hroom, hgrow⟩ | ⟨hroom, hgrow⟩
  · rw [grownCap, if_pos hroom] at hcap
    exact absurd h.cap_lt hcap
  · have hlt : grownCap p.cap (p.len + data.length) < 2 ^ 32 := by
      unfold grownCap
      split_ifs
      · omega
      · exact Nat.mod_lt _ (by decide)
      · exact hlen
    have hmod := le_mod w
    have hwraps : (MEDIA_PARCEL_HEADER_LEN + grownCap p.cap (p.len + data.length)) % w.mod <
        MEDIA_PARCEL_HEADER_LEN + p.len + data.length := by
      rw [Nat.mod_eq_sub_mod (by omega), Nat.mod_eq_of_lt]
      · omega
      · have hheader : MEDIA_PARCEL_HEADER_LEN < 2 ^ 32 := by decide
        omega
    unfold mediaParcelAppend
    rw [if_neg hpos, hgrow, if_pos rfl]
    dsimp only
    rw [if_neg (Int.lt_irrefl 0), if_neg (by omega)]

end MediaFramework
