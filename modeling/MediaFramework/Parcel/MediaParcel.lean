import Mathlib.Algebra.Group.Nat.Defs
import Mathlib.Data.List.GetD
import MediaFramework.Errno
import MediaFramework.Library.Framing

/-!
# Parcels (`utils/media_parcel.c`)

A parcel is a chunk of memory: a header of a code and a length, 32 bits each, and a payload.  The chunk is at first a
member of the parcel itself and moves to the heap when the parcel grows.  On the wire a parcel is its header and its
payload, a `Frame`.
-/

namespace MediaFramework

/-- The width of `size_t`. -/
inductive SizeT
  | w32
  | w64
  deriving DecidableEq, Repr

def SizeT.mod : SizeT → Nat
  | .w32 => 2 ^ 32
  | .w64 => 2 ^ 64

theorem le_mod (w : SizeT) : 2 ^ 32 ≤ w.mod := by
  cases w <;> decide

def MEDIA_PARCEL_HEADER_LEN : Nat := 8
def MEDIA_PARCEL_DATA_LEN : Nat := 256

def MEDIA_PARCEL_SEND : Nat := 1
def MEDIA_PARCEL_SEND_ACK : Nat := 2
def MEDIA_PARCEL_REPLY : Nat := 3
def MEDIA_PARCEL_CREATE_NOTIFY : Nat := 4
def MEDIA_PARCEL_NOTIFY : Nat := 5

/-! ### 32 bit numbers in memory -/

def load32 (mem : Nat → UInt8) (i : Nat) : Nat :=
  (mem i).toNat + 2 ^ 8 * (mem (i + 1)).toNat + 2 ^ 16 * (mem (i + 2)).toNat + 2 ^ 24 * (mem (i + 3)).toNat

def bytes32 (n : Nat) : List UInt8 :=
  [UInt8.ofNat n, UInt8.ofNat (n / 2 ^ 8), UInt8.ofNat (n / 2 ^ 16), UInt8.ofNat (n / 2 ^ 24)]

def store (mem : Nat → UInt8) (offset : Nat) (bs : List UInt8) : Nat → UInt8 :=
  fun i => if offset ≤ i ∧ i < offset + bs.length then bs.getD (i - offset) 0 else mem i

theorem load32_lt (mem : Nat → UInt8) (i : Nat) : load32 mem i < 2 ^ 32 := by
  have h₀ := (mem i).toNat_lt
  have h₁ := (mem (i + 1)).toNat_lt
  have h₂ := (mem (i + 2)).toNat_lt
  have h₃ := (mem (i + 3)).toNat_lt
  unfold load32
  omega

theorem load32_congr {mem mem' : Nat → UInt8} {i : Nat} (h : ∀ j, i ≤ j → j < i + 4 → mem j = mem' j) :
    load32 mem i = load32 mem' i := by
  unfold load32
  rw [h i (by omega) (by omega), h (i + 1) (by omega) (by omega), h (i + 2) (by omega) (by omega),
    h (i + 3) (by omega) (by omega)]

theorem store_lt {mem : Nat → UInt8} {offset i : Nat} {bs : List UInt8} (h : i < offset) :
    store mem offset bs i = mem i := by
  unfold store
  rw [if_neg (by omega)]

theorem store_ge {mem : Nat → UInt8} {offset i : Nat} {bs : List UInt8} (h : offset + bs.length ≤ i) :
    store mem offset bs i = mem i := by
  unfold store
  rw [if_neg (by omega)]

theorem store_mid {mem : Nat → UInt8} {offset i : Nat} {bs : List UInt8} (h : offset ≤ i)
    (h' : i < offset + bs.length) : store mem offset bs i = bs.getD (i - offset) 0 := by
  unfold store
  rw [if_pos ⟨h, h'⟩]

@[simp] theorem store_nil (mem : Nat → UInt8) (offset : Nat) : store mem offset [] = mem := by
  funext i
  unfold store
  rw [if_neg (by rw [List.length_nil]; omega)]

@[simp] theorem length_bytes32 (n : Nat) : (bytes32 n).length = 4 := rfl

theorem bytes32_inj {m n : Nat} (hm : m < 2 ^ 32) (hn : n < 2 ^ 32) (h : bytes32 m = bytes32 n) : m = n := by
  simp only [bytes32, List.cons.injEq, and_true, ← UInt8.toNat_inj, UInt8.toNat_ofNat'] at h
  omega

/-- A number is read back as it was written. -/
theorem load32_bytes32 {mem : Nat → UInt8} {n i : Nat} (hn : n < 2 ^ 32)
    (h : ∀ j < 4, mem (i + j) = (bytes32 n).getD j 0) : load32 mem i = n := by
  have h₀ := h 0 (by omega)
  have h₁ := h 1 (by omega)
  have h₂ := h 2 (by omega)
  have h₃ := h 3 (by omega)
  simp only [bytes32, Nat.add_zero, List.getD_cons_zero, List.getD_cons_succ] at h₀ h₁ h₂ h₃
  unfold load32
  rw [h₀, h₁, h₂, h₃]
  simp only [UInt8.toNat_ofNat']
  omega

theorem bytes32_load32 (mem : Nat → UInt8) (i : Nat) :
    bytes32 (load32 mem i) = [mem i, mem (i + 1), mem (i + 2), mem (i + 3)] := by
  have h₀ := (mem i).toNat_lt
  have h₁ := (mem (i + 1)).toNat_lt
  have h₂ := (mem (i + 2)).toNat_lt
  have h₃ := (mem (i + 3)).toNat_lt
  unfold bytes32 load32
  simp only [List.cons.injEq, ← UInt8.toNat_inj, UInt8.toNat_ofNat', and_true]
  omega

/-! ### Frames -/

/-- A parcel as it goes over the wire. -/
structure Frame where
  code : Nat
  payload : List UInt8
  code_lt : code < 2 ^ 32
  length_lt : payload.length < 2 ^ 32
  deriving DecidableEq

@[ext] theorem Frame.ext' {f g : Frame} (hcode : f.code = g.code) (hpayload : f.payload = g.payload) : f = g := by
  cases f
  cases g
  cases hcode
  cases hpayload
  rfl

def Frame.encode (f : Frame) : List UInt8 := bytes32 f.code ++ (bytes32 f.payload.length ++ f.payload)

@[simp] theorem Frame.length_encode (f : Frame) : f.encode.length = MEDIA_PARCEL_HEADER_LEN + f.payload.length := by
  simp only [Frame.encode, List.length_append, length_bytes32, MEDIA_PARCEL_HEADER_LEN]
  omega

/-- The length in the header says where a frame ends. -/
theorem prefixCode_encode : Framing.PrefixCode Frame.encode := by
  constructor
  · intro f hf
    have := congrArg List.length hf
    simp [MEDIA_PARCEL_HEADER_LEN] at this
  · intro f g u v h
    simp only [Frame.encode, List.append_assoc] at h
    obtain ⟨hcode, h⟩ := List.append_inj h (by simp)
    obtain ⟨hlen, h⟩ := List.append_inj h (by simp)
    have hlen := bytes32_inj f.length_lt g.length_lt hlen
    obtain ⟨hpayload, -⟩ := List.append_inj h hlen
    exact Frame.ext' (bytes32_inj f.code_lt g.code_lt hcode) hpayload

/-! ### Parcels -/

/-- `media_parcel`: the memory of the chunk that `chunk` points to, the bytes allocated for it, and whether it is on
the heap or the member `prealloc`. -/
structure MediaParcel where
  mem : Nat → UInt8
  size : Nat
  heap : Bool
  next : Nat
  cap : Nat

def MediaParcel.code (p : MediaParcel) : Nat := load32 p.mem 0

def MediaParcel.len (p : MediaParcel) : Nat := load32 p.mem 4

/-- The payload, as the readers of the parcel find it. -/
def MediaParcel.payload (p : MediaParcel) : List UInt8 :=
  (List.range p.len).map fun i => p.mem (MEDIA_PARCEL_HEADER_LEN + i)

theorem MediaParcel.len_lt (p : MediaParcel) : p.len < 2 ^ 32 := load32_lt ..

@[simp] theorem MediaParcel.length_payload (p : MediaParcel) : p.payload.length = p.len := by
  simp [MediaParcel.payload]

def MediaParcel.frame (p : MediaParcel) : Frame where
  code := p.code
  payload := p.payload
  code_lt := load32_lt ..
  length_lt := p.length_payload ▸ p.len_lt

@[simp] theorem MediaParcel.frame_code (p : MediaParcel) : p.frame.code = p.code := rfl
@[simp] theorem MediaParcel.frame_payload (p : MediaParcel) : p.frame.payload = p.payload := rfl

/-- The frame of a parcel is its header and its payload, as they are in memory. -/
theorem MediaParcel.encode_frame (p : MediaParcel) :
    p.frame.encode = (List.range (MEDIA_PARCEL_HEADER_LEN + p.len)).map p.mem := by
  rw [List.range_add, List.map_append, Frame.encode, p.frame_payload, p.length_payload, p.frame_code,
    MediaParcel.code]
  conv_lhs => rw [MediaParcel.len, bytes32_load32, bytes32_load32]
  rw [← List.append_assoc]
  congr 1
  simp [MediaParcel.payload, MediaParcel.len]

/-- `media_parcel_init`.  The bytes of `prealloc` that nobody has written are never read; they are 0 here. -/
def mediaParcelInit : MediaParcel :=
  { mem := fun _ => 0, size := MEDIA_PARCEL_HEADER_LEN + MEDIA_PARCEL_DATA_LEN, heap := false, next := 0
    cap := MEDIA_PARCEL_DATA_LEN }

def mediaParcelReinit (_ : MediaParcel) : MediaParcel := mediaParcelInit

/-- `media_parcel_grow`; `ok` is the outcome of `malloc` or `realloc`.  Sizes are of type `size_t`, the capacity is a
`uint32_t`. -/
def mediaParcelGrow (w : SizeT) (p : MediaParcel) (cursz newsz : Nat) (ok : Bool) : Int × MediaParcel :=
  let newsz := (newsz + p.len) % w.mod
  if newsz ≤ p.cap then (0, p)
  else
    let newsz := if newsz ≤ 2 * p.cap % 2 ^ 32 then 2 * p.cap % 2 ^ 32 else newsz
    if ok then
      (0, { p with
            mem := if p.heap then p.mem else fun i => if i < MEDIA_PARCEL_HEADER_LEN + cursz then p.mem i else 0
            size := (MEDIA_PARCEL_HEADER_LEN + newsz) % w.mod
            heap := true
            cap := newsz % 2 ^ 32 })
    else (-ENOMEM, p)

end MediaFramework
