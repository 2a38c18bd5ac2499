import MediaFramework.Library.Machine
import MediaFramework.Library.Ownership
import MediaFramework.Parcel.ParcelAppend
import MediaFramework.Parcel.ParcelSend

/-!
# Parcels on the heap (`utils/media_parcel.c`)

Many parcels share a heap.  The pointer of a parcel leads to its own `prealloc` or to a block that it has allocated; a
parcel that grows leaves one for the other, and a copy must not keep the pointer of what it was copied from.  Beside the
memory there are the texts of the parcels, which is what they are for: each parcel has its own, whatever is done to
the others.
-/

namespace MediaFramework

/-! ### Memory -/

/-- Where the pointer `chunk` of a parcel leads. -/
inductive ChunkPtr
  | prealloc (parcel : Nat)
  | block (addr : Nat)
  deriving DecidableEq

def ChunkPtr.addr : ChunkPtr → Option Nat
  | .prealloc _ => none
  | .block a => some a

structure HeapBlock where
  mem : Nat → UInt8
  size : Nat

structure ParcelStruct where
  chunk : ChunkPtr
  prealloc : Nat → UInt8
  next : Nat
  cap : Nat

/-- The memory that the parcels are in, and the blocks that are allocated. -/
structure ParcelHeap where
  parcels : Nat → ParcelStruct
  blocks : Nat → Option HeapBlock

namespace ParcelHeap

def chunk (s : ParcelHeap) (i : Nat) : ChunkPtr := (s.parcels i).chunk

/-- What a pointer leads to; a block that is not allocated must not be used. -/
def deref (s : ParcelHeap) : ChunkPtr → Option HeapBlock
  | .prealloc i => some ⟨(s.parcels i).prealloc, MEDIA_PARCEL_HEADER_LEN + MEDIA_PARCEL_DATA_LEN⟩
  | .block a => s.blocks a

/-- A parcel with what its pointer leads to. -/
def parcel (s : ParcelHeap) (i : Nat) : Option MediaParcel :=
  (s.deref (s.chunk i)).map fun b =>
    { mem := b.mem, size := b.size, heap := (s.chunk i).addr.isSome, next := (s.parcels i).next
      cap := (s.parcels i).cap }

def setParcel (s : ParcelHeap) (i : Nat) (p : ParcelStruct) : ParcelHeap :=
  { s with parcels := Function.update s.parcels i p }

def setBlock (s : ParcelHeap) (a : Nat) (b : Option HeapBlock) : ParcelHeap :=
  { s with blocks := Function.update s.blocks a b }

/-- The memory behind a pointer is written. -/
def write (s : ParcelHeap) (mem : Nat → UInt8) : ChunkPtr → ParcelHeap
  | .prealloc i => s.setParcel i { s.parcels i with prealloc := mem }
  | .block a => s.setBlock a ((s.blocks a).map fun b => { b with mem })

def free (s : ParcelHeap) (a : Nat) : Option ParcelHeap := (s.blocks a).map fun _ => s.setBlock a none

variable (s : ParcelHeap) {i j a b : Nat} (p : ParcelStruct) (o : Option HeapBlock)

@[simp] theorem setParcel_self : (s.setParcel i p).parcels i = p := Function.update_self ..
@[simp] theorem setParcel_ne (h : j ≠ i) : (s.setParcel i p).parcels j = s.parcels j := Function.update_of_ne h ..
@[simp] theorem setParcel_blocks : (s.setParcel i p).blocks = s.blocks := rfl
@[simp] theorem setParcel_chunk : (s.setParcel i p).chunk i = p.chunk :=
  congrArg ParcelStruct.chunk (s.setParcel_self p)
@[simp] theorem setBlock_self : (s.setBlock a o).blocks a = o := Function.update_self ..
@[simp] theorem setBlock_ne (h : b ≠ a) : (s.setBlock a o).blocks b = s.blocks b := Function.update_of_ne h ..
@[simp] theorem setBlock_parcels : (s.setBlock a o).parcels = s.parcels := rfl
@[simp] theorem setBlock_chunk : (s.setBlock a o).chunk i = s.chunk i := rfl

end ParcelHeap

/-! ### The functions

`addr` is what `malloc` or `realloc` returns.  There is no result when the code uses or frees what is not its own. -/

open ParcelHeap

def mediaParcelInitAt (s : ParcelHeap) (i : Nat) : ParcelHeap :=
  s.setParcel i
    { chunk := .prealloc i
      prealloc := store (store (s.parcels i).prealloc 0 (bytes32 0)) 4 (bytes32 0)
      next := 0
      cap := MEDIA_PARCEL_DATA_LEN }

def mediaParcelDeinitAt (s : ParcelHeap) (i : Nat) : Option ParcelHeap :=
  if s.chunk i = .prealloc i then some s
  else match s.chunk i with
    | .prealloc _ => none
    | .block a => s.free a

def mediaParcelReinitAt (s : ParcelHeap) (i : Nat) : Option ParcelHeap :=
  (mediaParcelDeinitAt s i).map fun s => mediaParcelInitAt s i

def mediaParcelCloneAt (w : SizeT) (s : ParcelHeap) (dst src : Nat) (addr : Option Nat) :
    Option (Int × ParcelHeap) :=
  let copied := s.setParcel dst (s.parcels src)
  if s.chunk src = .prealloc src then
    some (0, copied.setParcel dst { copied.parcels dst with chunk := .prealloc dst })
  else (s.deref (s.chunk src)).bind fun b =>
    let len := (MEDIA_PARCEL_HEADER_LEN + (s.parcels src).cap) % w.mod
    match addr with
    | none => some (-ENOMEM, mediaParcelInitAt copied dst)
    | some a =>
      if len ≤ b.size then
        let mem := fun k => if k < len then b.mem k else 0
        some (0, (copied.setParcel dst { copied.parcels dst with chunk := .block a }).setBlock a (some ⟨mem, len⟩))
      else none

def mediaParcelGrowAt (w : SizeT) (s : ParcelHeap) (i cursz newsz : Nat) (addr : Option Nat) :
    Option (Int × ParcelHeap) :=
  (s.parcel i).bind fun p =>
    let newsz := (newsz + p.len) % w.mod
    if newsz ≤ p.cap then some (0, s)
    else
      let newsz := if newsz ≤ 2 * p.cap % 2 ^ 32 then 2 * p.cap % 2 ^ 32 else newsz
      let size := (MEDIA_PARCEL_HEADER_LEN + newsz) % w.mod
      let moved (s : ParcelHeap) (a : Nat) (mem : Nat → UInt8) : ParcelHeap :=
        (s.setParcel i { s.parcels i with chunk := .block a, cap := newsz % 2 ^ 32 }).setBlock a (some ⟨mem, size⟩)
      if s.chunk i = .prealloc i then
        match addr with
        | none => some (-ENOMEM, s)
        | some a => some (0, moved s a fun k => if k < MEDIA_PARCEL_HEADER_LEN + cursz then p.mem k else 0)
      else
        match s.chunk i, addr with
        | .prealloc _, _ => none
        | .block _, none => some (-ENOMEM, s)
        -- `realloc` frees the old block and keeps what was in it
        | .block b, some a => (s.free b).map fun s => (0, moved s a p.mem)

def mediaParcelAppendAt (w : SizeT) (s : ParcelHeap) (i : Nat) (data : List UInt8) (addr : Option Nat) :
    Option (Int × ParcelHeap) :=
  if data.length = 0 then some (0, s)
  else (s.parcel i).bind fun p =>
    (mediaParcelGrowAt w s i p.len data.length addr).bind fun r =>
      if r.1 < 0 then some r
      else (r.2.parcel i).bind fun q =>
        if MEDIA_PARCEL_HEADER_LEN + p.len + data.length ≤ q.size then
          let mem := store q.mem (MEDIA_PARCEL_HEADER_LEN + p.len) data
          some (0, r.2.write (store mem 4 (bytes32 (p.len + data.length))) (r.2.chunk i))
        else none

/-- `media_parcel_send`: the code is stored, and the bytes of the chunk are sent. -/
def mediaParcelSendAt (s : ParcelHeap) (i code : Nat) (io : List SendStep) : Option (SendResult × ParcelHeap) :=
  (s.parcel i).map fun p => (mediaParcelSend p code io, s.write (p.withCode code).mem (s.chunk i))

/-! ### Runs -/

inductive ParcelOp
  | init (parcel : Nat)
  | append (parcel : Nat) (data : List UInt8) (addr : Option Nat)
  | send (parcel code : Nat) (io : List SendStep)
  | clone (dst src : Nat) (addr : Option Nat)
  | reinit (parcel : Nat)
  | deinit (parcel : Nat)

/-- What a caller sees of a call: the result, and what was sent. -/
structure ParcelTold where
  ret : Int
  sent : List UInt8 := []
  deriving DecidableEq

def ParcelHeap.call (w : SizeT) (s : ParcelHeap) : ParcelOp → Option (ParcelTold × ParcelHeap)
  | .init i => some (⟨0, []⟩, mediaParcelInitAt s i)
  | .append i data addr => (mediaParcelAppendAt w s i data addr).map fun r => (⟨r.1, []⟩, r.2)
  | .send i code io => (mediaParcelSendAt s i code io).map fun r => (⟨r.1.ret, r.1.sent⟩, r.2)
  | .clone dst src addr => (mediaParcelCloneAt w s dst src addr).map fun r => (⟨r.1, []⟩, r.2)
  | .reinit i => (mediaParcelReinitAt s i).map fun s => (⟨0, []⟩, s)
  | .deinit i => (mediaParcelDeinitAt s i).map fun s => (⟨0, []⟩, s)

/-- The memory is lost once a call has no result. -/
structure HeapRun where
  heap : Option ParcelHeap
  told : List ParcelTold := []

def HeapRun.next (w : SizeT) (s : HeapRun) (op : ParcelOp) : HeapRun :=
  match s.heap.bind fun heap => heap.call w op with
  | none => { s with heap := none }
  | some (told, heap) => { heap := some heap, told := s.told ++ [told] }

/-- At first nothing is allocated, and anything is in the memory of the parcels. -/
def parcelHeapMachine (w : SizeT) (garbage : Nat → ParcelStruct) : Machine HeapRun ParcelOp where
  start := { heap := some { parcels := garbage, blocks := fun _ => none } }
  next s op := some (s.next w op)

/-! ### The texts of the parcels -/

/-- What a parcel is for, and the capacity that its memory has. -/
structure ParcelText where
  code : Nat
  payload : List UInt8
  cap : Nat
  deriving DecidableEq

def ParcelText.empty : ParcelText := { code := 0, payload := [], cap := MEDIA_PARCEL_DATA_LEN }

def ParcelText.encode (t : ParcelText) : List UInt8 := bytes32 t.code ++ (bytes32 t.payload.length ++ t.payload)

/-- The parcels that are initialised, with their texts. -/
structure ParcelTexts where
  texts : Nat → Option ParcelText := fun _ => none
  told : List ParcelTold := []

namespace ParcelTexts

def put (v : ParcelTexts) (i : Nat) (t : Option ParcelText) (ret : Int) (sent : List UInt8) : ParcelTexts :=
  { texts := Function.update v.texts i t, told := v.told ++ [⟨ret, sent⟩] }

theorem put_texts_self (v : ParcelTexts) (i : Nat) (t : Option ParcelText) (ret : Int) (sent : List UInt8) :
    (v.put i t ret sent).texts i = t := Function.update_self ..

theorem put_texts_ne (v : ParcelTexts) {i j : Nat} (h : j ≠ i) (t : Option ParcelText) (ret : Int)
    (sent : List UInt8) : (v.put i t ret sent).texts j = v.texts j := Function.update_of_ne h ..

/-- Each call is about the text of its parcel.  Without memory nothing is appended, and a copy is empty. -/
def call (v : ParcelTexts) : ParcelOp → ParcelTexts
  | .init i | .reinit i => v.put i (some .empty) 0 []
  | .deinit i => v.put i none 0 []
  | .append i data addr =>
    match v.texts i with
    | none => v
    | some t =>
      let len := t.payload.length + data.length
      if len ≤ t.cap ∨ addr.isSome then
        v.put i (some { t with payload := t.payload ++ data, cap := grownCap t.cap len }) 0 []
      else v.put i (some t) (-ENOMEM) []
  | .send i code io =>
    match v.texts i with
    | none => v
    | some t =>
      let r := mediaParcelSendLoop io { t with code }.encode
      v.put i (some { t with code }) r.ret r.sent
  | .clone dst src addr =>
    match v.texts src with
    | none => v
    | some t =>
      if t.cap = MEDIA_PARCEL_DATA_LEN ∨ addr.isSome then v.put dst (some t) 0 []
      else v.put dst (some .empty) (-ENOMEM) []

/-- The parcels are used as they should be: what is initialised, or copied to, is not initialised, all others are, and
what is appended and sent keeps its sizes in their types. -/
def Proper (w : SizeT) (v : ParcelTexts) : ParcelOp → Prop
  | .init i => v.texts i = none
  | .append i data _ => ∃ t, v.texts i = some t ∧ t.payload.length + data.length < 2 ^ 32 ∧
      MEDIA_PARCEL_HEADER_LEN + grownCap t.cap (t.payload.length + data.length) < w.mod
  | .send i code _ =>
    code < 2 ^ 32 ∧ ∃ t, v.texts i = some t ∧ MEDIA_PARCEL_HEADER_LEN + t.payload.length < 2 ^ 32
  | .clone dst src _ => v.texts dst = none ∧ v.texts src ≠ none
  | .reinit i | .deinit i => v.texts i ≠ none

end ParcelTexts

/-- `malloc` and `realloc` return what is not allocated; `realloc` may return what it has got. -/
def ParcelHeap.Allocates (s : ParcelHeap) : ParcelOp → Prop
  | .append i _ addr => ∀ a, addr = some a → s.blocks a = none ∨ s.chunk i = .block a
  | .clone _ _ addr => ∀ a, addr = some a → s.blocks a = none
  | _ => True

/-- A run of the parcels in memory, with their texts as a record. -/
def parcelRuns (w : SizeT) (garbage : Nat → ParcelStruct) : Machine (HeapRun × ParcelTexts) ParcelOp :=
  (parcelHeapMachine w garbage).recorded {} fun _ op _ v => v.call op

/-- The calls of a run are proper, and the heap does what it should. -/
def ParcelsUsed (w : SizeT) (p : HeapRun × ParcelTexts) (op : ParcelOp) : Prop :=
  p.2.Proper w op ∧ ∀ s, p.1.heap = some s → s.Allocates op

/-! ### What the memory shows -/

/-- The block that a parcel has. -/
def blockOf (s : ParcelHeap) (v : ParcelTexts) (i : Nat) : Option Nat := (v.texts i).bind fun _ => (s.chunk i).addr

/-- A parcel has a text; it has left `prealloc` when the capacity is no longer that of `prealloc`. -/
structure HasText (w : SizeT) (p : MediaParcel) (t : ParcelText) : Prop where
  code : p.code = t.code
  payload : p.payload = t.payload
  cap : p.cap = t.cap
  heap : p.heap = decide (MEDIA_PARCEL_DATA_LEN < t.cap)
  cap_ge : MEDIA_PARCEL_DATA_LEN ≤ t.cap
  sized : Sized w p

/-- The pointer of a parcel leads to its own memory. -/
def ParcelHeap.Own (s : ParcelHeap) (i : Nat) : Prop := s.chunk i = .prealloc i ∨ ∃ a, s.chunk i = .block a

/-- The memory of a parcel is its own, and shows its text. -/
structure Shows (w : SizeT) (s : ParcelHeap) (i : Nat) (t : ParcelText) : Prop where
  own : s.Own i
  parcel : ∃ p, s.parcel i = some p ∧ HasText w p t

/-- Each initialised parcel shows its text, and the blocks that are allocated belong to one of these parcels each. -/
structure TextsKept (w : SizeT) (s : ParcelHeap) (v : ParcelTexts) : Prop where
  shows_text : ∀ i t, v.texts i = some t → Shows w s i t
  owned : Owned (blockOf s v) fun a => (s.blocks a).isSome

/-! ### What a call leaves alone -/

section

variable {w : SizeT} {s s' : ParcelHeap} {v : ParcelTexts} {i j a : Nat} {t : ParcelText} {p q : MediaParcel}

/-- Parcel `i` gives up the block `old` for what its pointer leads to afterwards, and the rest is as it was. -/
structure Replaced (s s' : ParcelHeap) (i : Nat) (old : Option Nat) : Prop where
  others : ∀ j ≠ i, s'.parcels j = s.parcels j
  fresh : ∀ a, (s'.chunk i).addr = some a → old = some a ∨ s.blocks a = none
  blocks : ∀ a, (s'.chunk i).addr ≠ some a → s'.blocks a = if old = some a then none else s.blocks a

theorem Replaced.refl (s : ParcelHeap) (i : Nat) : Replaced s s i (s.chunk i).addr where
  others _ _ := rfl
  fresh _ ha := .inl ha
  blocks _ ha := (if_neg ha).symm

theorem addr_eq_some {ptr : ChunkPtr} : ptr.addr = some a ↔ ptr = .block a := by
  cases ptr <;> simp [ChunkPtr.addr]

theorem isSome_of_parcel (hp : s.parcel i = some p) (ha : (s.chunk i).addr = some a) : (s.blocks a).isSome := by
  rw [addr_eq_some] at ha
  rw [ParcelHeap.parcel, ha, Option.map_eq_some_iff] at hp
  obtain ⟨b, hb, -⟩ := hp
  exact Option.isSome_iff_exists.2 ⟨b, hb⟩

/-- What is shown is in the parcel and in its block. -/
theorem Shows.congr (h : Shows w s i t) (hparcel : s'.parcels i = s.parcels i)
    (hblock : ∀ a, s.chunk i = .block a → s'.blocks a = s.blocks a) : Shows w s' i t := by
  have hchunk : s'.chunk i = s.chunk i := congrArg ParcelStruct.chunk hparcel
  obtain ⟨p, hp, ht⟩ := h.parcel
  have hderef : s'.deref (s.chunk i) = s.deref (s.chunk i) := by
    rcases h.own with hown | ⟨a, hown⟩
    · rw [hown, deref, deref, hparcel]
    · rw [hown]
      exact hblock a hown
  refine ⟨?_, p, ?_, ht⟩
  · rw [Own, hchunk]
    exact h.own
  · rw [ParcelHeap.parcel, hchunk, hderef, hparcel]
    exact hp

theorem blockOf_put_ne {ret : Int} {sent : List UInt8} {o : Option ParcelText} (hne : j ≠ i)
    (hother : s'.parcels j = s.parcels j) : blockOf s' (v.put i o ret sent) j = blockOf s v j := by
  rw [blockOf, blockOf, ParcelTexts.put_texts_ne v hne, ParcelHeap.chunk, ParcelHeap.chunk, hother]

/-- The step for one parcel: the others keep what they show. -/
theorem TextsKept.replace (h : TextsKept w s v) (hr : Replaced s s' i (blockOf s v i)) (hshows : Shows w s' i t)
    (ret : Int) (sent : List UInt8) : TextsKept w s' (v.put i (some t) ret sent) := by
  have hown : blockOf s' (v.put i (some t) ret sent) i = (s'.chunk i).addr := by
    rw [blockOf, ParcelTexts.put_texts_self]
    rfl
  have hfresh : ∀ a, blockOf s' (v.put i (some t) ret sent) i = some a →
      blockOf s v i = some a ∨ ¬ (s.blocks a).isSome := by
    intro a ha
    refine (hr.fresh a (hown ▸ ha)).imp id fun hdead => ?_
    rw [hdead]
    exact Bool.false_ne_true
  have hother : ∀ j ≠ i, blockOf s' (v.put i (some t) ret sent) j = blockOf s v j :=
    fun j hj => blockOf_put_ne hj (hr.others j hj)
  refine ⟨fun j u hj => ?_, h.owned.replace i hother hfresh fun a => ?_⟩
  · by_cases hji : j = i
    · subst hji
      rw [ParcelTexts.put_texts_self] at hj
      exact Option.some_inj.1 hj ▸ hshows
    · rw [ParcelTexts.put_texts_ne v hji] at hj
      refine (h.shows_text j u hj).congr (hr.others j hji) fun a ha => ?_
      have hblock : blockOf s v j = some a := by rw [blockOf, hj, Option.bind_some, ha, ChunkPtr.addr]
      rw [hr.blocks a (hown ▸ h.owned.ne_new hfresh hblock hji), if_neg (h.owned.ne_some hblock hji)]
  · rw [hown]
    by_cases ha : (s'.chunk i).addr = some a
    · obtain ⟨p, hp, -⟩ := hshows.parcel
      exact iff_of_true (isSome_of_parcel hp ha) (.inl ha)
    · rw [hr.blocks a ha]
      by_cases hold : blockOf s v i = some a <;> simp [ha, hold]

/-- The step for a parcel that is given up. -/
theorem TextsKept.release (h : TextsKept w s v) (hparcels : s'.parcels = s.parcels)
    (hblocks : ∀ a, s'.blocks a = if blockOf s v i = some a then none else s.blocks a) (ret : Int)
    (sent : List UInt8) : TextsKept w s' (v.put i none ret sent) := by
  have hown : blockOf s' (v.put i none ret sent) i = none := by
    rw [blockOf, ParcelTexts.put_texts_self]
    rfl
  have hother : ∀ j ≠ i, blockOf s' (v.put i none ret sent) j = blockOf s v j :=
    fun j hj => blockOf_put_ne hj (congrFun hparcels j)
  refine ⟨fun j u hj => ?_, h.owned.replace i hother (by simp [hown]) fun a => ?_⟩
  · have hji : j ≠ i := by
      rintro rfl
      rw [ParcelTexts.put_texts_self] at hj
      cases hj
    rw [ParcelTexts.put_texts_ne v hji] at hj
    refine (h.shows_text j u hj).congr (congrFun hparcels j) fun a ha => ?_
    have hblock : blockOf s v j = some a := by rw [blockOf, hj, Option.bind_some, ha, ChunkPtr.addr]
    rw [hblocks, if_neg (h.owned.ne_some hblock hji)]
  · rw [hown, hblocks]
    by_cases hold : blockOf s v i = some a <;> simp [hold]

/-! ### The functions, one by one -/

theorem parcel_fields (hp : s.parcel i = some p) :
    p.next = (s.parcels i).next ∧ p.cap = (s.parcels i).cap ∧ p.heap = (s.chunk i).addr.isSome := by
  obtain ⟨b, -, rfl⟩ := Option.map_eq_some_iff.1 hp
  exact ⟨rfl, rfl, rfl⟩

/-- Another memory with the same text. -/
theorem HasText.congr (h : HasText w p t) (hmem : ∀ k < MEDIA_PARCEL_HEADER_LEN + p.len, q.mem k = p.mem k)
    (hcap : q.cap = p.cap) (hheap : q.heap = p.heap) (hsize : MEDIA_PARCEL_HEADER_LEN + p.cap ≤ q.size) :
    HasText w q t := by
  have hcode : q.code = p.code := load32_congr fun k _ hk => hmem k (by rw [MEDIA_PARCEL_HEADER_LEN]; omega)
  have hlen : q.len = p.len := load32_congr fun k _ hk => hmem k (by rw [MEDIA_PARCEL_HEADER_LEN]; omega)
  have hpayload : q.payload = p.payload := by
    rw [MediaParcel.payload, MediaParcel.payload, hlen]
    refine List.map_congr_left fun k hk => hmem _ ?_
    rw [List.mem_range] at hk
    omega
  refine
    { code := hcode.trans h.code
      payload := hpayload.trans h.payload
      cap := hcap.trans h.cap
      heap := hheap.trans h.heap
      cap_ge := h.cap_ge
      sized := ⟨?_, ?_, ?_⟩ }
  · rw [hlen, hcap]
    exact h.sized.len_le
  · rw [hcap]
    exact h.sized.cap_lt
  · rw [hcap]
    exact hsize

theorem initAt_replaced {old : Option Nat} (hparcels : ∀ j ≠ i, s'.parcels j = s.parcels j)
    (hblocks : ∀ a, s'.blocks a = if old = some a then none else s.blocks a) :
    Replaced s (mediaParcelInitAt s' i) i old := by
  refine ⟨fun j hj => ?_, fun a ha => ?_, fun a _ => hblocks a⟩
  · exact (setParcel_ne s' _ hj).trans (hparcels j hj)
  · rw [mediaParcelInitAt, setParcel_chunk] at ha
    cases ha

theorem initAt_shows (w : SizeT) (s : ParcelHeap) (i : Nat) : Shows w (mediaParcelInitAt s i) i .empty := by
  have hchunk : (mediaParcelInitAt s i).chunk i = .prealloc i := setParcel_chunk s _
  refine ⟨.inl hchunk, _, by rw [ParcelHeap.parcel, hchunk, deref, Option.map_some], ?_⟩
  have hmem : ((mediaParcelInitAt s i).parcels i).prealloc =
      store (store (s.parcels i).prealloc 0 (bytes32 0)) 4 (bytes32 0) := by rw [mediaParcelInitAt, setParcel_self]
  have hcap : ((mediaParcelInitAt s i).parcels i).cap = MEDIA_PARCEL_DATA_LEN := by
    rw [mediaParcelInitAt, setParcel_self]
  have hlen : load32 ((mediaParcelInitAt s i).parcels i).prealloc 4 = 0 := by
    rw [hmem]
    exact load32_store_bytes32 _ (by decide) 4
  have hcode : load32 ((mediaParcelInitAt s i).parcels i).prealloc 0 = 0 := by
    rw [hmem]
    exact (load32_congr fun k _ hk => store_lt (by omega)).trans (load32_store_bytes32 _ (by decide) 0)
  refine
    { code := hcode
      payload := List.eq_nil_of_length_eq_zero ((MediaParcel.length_payload _).trans hlen)
      cap := hcap
      heap := rfl
      cap_ge := Nat.le_refl _
      sized := ⟨?_, ?_, ?_⟩ }
  · exact hlen.trans_le (Nat.zero_le _)
  · show MEDIA_PARCEL_HEADER_LEN + ((mediaParcelInitAt s i).parcels i).cap < w.mod
    rw [hcap]
    cases w <;> decide
  · show MEDIA_PARCEL_HEADER_LEN + ((mediaParcelInitAt s i).parcels i).cap ≤ _
    rw [hcap]

theorem setBlock_none (s : ParcelHeap) (a b : Nat) :
    (s.setBlock b none).blocks a = if some b = some a then none else s.blocks a := by
  by_cases hab : b = a
  · rw [hab, setBlock_self, if_pos rfl]
  · rw [setBlock_ne s _ (Ne.symm hab), if_neg (by simpa using hab)]

theorem deinitAt_spec (hown : s.Own i) (hp : s.parcel i = some p) :
    ∃ s', mediaParcelDeinitAt s i = some s' ∧ s'.parcels = s.parcels ∧
      ∀ a, s'.blocks a = if (s.chunk i).addr = some a then none else s.blocks a := by
  rcases hown with hown | ⟨b, hown⟩
  · refine ⟨s, if_pos hown, rfl, fun a => ?_⟩
    rw [hown, ChunkPtr.addr, if_neg nofun]
  · have hne : s.chunk i ≠ .prealloc i := by
      rw [hown]
      nofun
    obtain ⟨block, hblock⟩ := Option.isSome_iff_exists.1 (isSome_of_parcel hp (addr_eq_some.2 hown))
    refine ⟨s.setBlock b none, ?_, rfl, fun a => ?_⟩
    · rw [mediaParcelDeinitAt, if_neg hne, hown]
      exact congrArg (Option.map fun _ => s.setBlock b none) hblock
    · rw [hown, ChunkPtr.addr]
      exact setBlock_none s a b

/-- The parcel is in a block afterwards. -/
theorem moved_spec {old : Option Nat} {P : ParcelStruct} (block : HeapBlock) (hP : P.chunk = .block a)
    (hothers : ∀ j ≠ i, s'.parcels j = s.parcels j) (hfresh : old = some a ∨ s.blocks a = none)
    (hblocks : ∀ b ≠ a, s'.blocks b = if old = some b then none else s.blocks b) :
    ((s'.setParcel i P).setBlock a (some block)).parcel i = some
        { mem := block.mem, size := block.size, heap := true, next := P.next, cap := P.cap } ∧
      Replaced s ((s'.setParcel i P).setBlock a (some block)) i old ∧
      ((s'.setParcel i P).setBlock a (some block)).Own i := by
  have hchunk : ((s'.setParcel i P).setBlock a (some block)).chunk i = .block a := (setParcel_chunk s' P).trans hP
  refine ⟨?_, ⟨fun j hj => ?_, fun b hb => ?_, fun b hb => ?_⟩, .inr ⟨a, hchunk⟩⟩
  · rw [ParcelHeap.parcel, hchunk, deref, setBlock_self, setBlock_parcels, setParcel_self]
    rfl
  · exact (setParcel_ne s' P hj).trans (hothers j hj)
  · rw [hchunk, ChunkPtr.addr, Option.some_inj] at hb
    exact hb ▸ hfresh
  · have hba : b ≠ a := by
      rintro rfl
      exact hb (addr_eq_some.2 hchunk)
    exact (setBlock_ne _ _ hba).trans (hblocks b hba)

theorem write_spec {old : Option Nat} (mem : Nat → UInt8) (hown : s'.Own i) (hp : s'.parcel i = some p)
    (hr : Replaced s s' i old) :
    (s'.write mem (s'.chunk i)).parcel i = some { p with mem } ∧ Replaced s (s'.write mem (s'.chunk i)) i old ∧
      (s'.write mem (s'.chunk i)).Own i := by
  obtain ⟨b, hb, rfl⟩ := Option.map_eq_some_iff.1 hp
  rcases hown with hown | ⟨a, hown⟩
  · rw [hown, deref, Option.some_inj] at hb
    rw [hown, write]
    have hchunk : (s'.setParcel i { s'.parcels i with prealloc := mem }).chunk i = s'.chunk i := setParcel_chunk s' _
    refine ⟨?_, ⟨fun j hj => ?_, fun a ha => ?_, fun a ha => ?_⟩, .inl (hchunk.trans hown)⟩
    · rw [ParcelHeap.parcel, hchunk, hown, deref, setParcel_self, ← hb]
      rfl
    · exact (setParcel_ne s' _ hj).trans (hr.others j hj)
    · exact hr.fresh a (hchunk ▸ ha)
    · exact hr.blocks a (hchunk ▸ ha)
  · rw [hown, deref] at hb
    rw [hown, write]
    refine ⟨?_, ⟨hr.others, hr.fresh, fun c hc => ?_⟩, .inr ⟨a, hown⟩⟩
    · rw [ParcelHeap.parcel, setBlock_chunk, hown, deref, setBlock_self, hb]
      rfl
    · have hca : c ≠ a := by
        rintro rfl
        exact hc (addr_eq_some.2 hown)
      exact (setBlock_ne s' _ hca).trans (hr.blocks c hc)

/-- In memory a parcel grows as it does by itself. -/
theorem growAt_spec (w : SizeT) (cursz newsz : Nat) {addr : Option Nat} (hown : s.Own i) (hp : s.parcel i = some p)
    (hfresh : ∀ a, addr = some a → s.blocks a = none ∨ s.chunk i = .block a) :
    ∃ s', mediaParcelGrowAt w s i cursz newsz addr = some ((mediaParcelGrow w p cursz newsz addr.isSome).1, s') ∧
      s'.parcel i = some (mediaParcelGrow w p cursz newsz addr.isSome).2 ∧ Replaced s s' i (s.chunk i).addr ∧
      s'.Own i := by
  obtain ⟨hnext, -, hheap⟩ := parcel_fields hp
  have hsame := And.intro hp (And.intro (Replaced.refl s i) hown)
  unfold mediaParcelGrowAt mediaParcelGrow
  rw [hp, Option.bind_some]
  dsimp only
  by_cases hroom : (newsz + p.len) % w.mod ≤ p.cap
  · rw [if_pos hroom, if_pos hroom]
    exact ⟨s, rfl, hsame⟩
  rw [if_neg hroom, if_neg hroom]
  rcases hown with hown | ⟨b, hown⟩
  · rw [if_pos hown]
    cases addr with
    | none => exact ⟨s, rfl, hsame⟩
    | some a =>
      have hdead : s.blocks a = none := (hfresh a rfl).resolve_right (by rw [hown]; nofun)
      have hblocks : ∀ c ≠ a, s.blocks c = if (s.chunk i).addr = some c then none else s.blocks c := by
        intro c _
        rw [hown, ChunkPtr.addr, if_neg nofun]
      obtain ⟨hparcel, hr, hown'⟩ := moved_spec (P := { s.parcels i with chunk := .block a, cap := _ }) ⟨_, _⟩
        rfl (fun _ _ => rfl) (.inr hdead) hblocks
      refine ⟨_, rfl, hparcel.trans ?_, hr, hown'⟩
      rw [hnext, hheap, hown]
      rfl
  · have hne : s.chunk i ≠ .prealloc i := by
      rw [hown]
      nofun
    rw [if_neg hne, hown]
    cases addr with
    | none => exact ⟨s, rfl, hown ▸ hsame⟩
    | some a =>
      obtain ⟨block, hblock⟩ := Option.isSome_iff_exists.1 (isSome_of_parcel hp (addr_eq_some.2 hown))
      have hfresh' : some b = some a ∨ s.blocks a = none := by
        rcases hfresh a rfl with hdead | ha
        · exact .inr hdead
        · rw [hown, ChunkPtr.block.injEq] at ha
          exact .inl (congrArg some ha)
      have hfree : s.free b = some (s.setBlock b none) := congrArg (Option.map fun _ => s.setBlock b none) hblock
      dsimp only
      rw [hfree, Option.map_some]
      have hothers : ∀ j ≠ i, (s.setBlock b none).parcels j = s.parcels j := fun _ _ => rfl
      have hblocks : ∀ c ≠ a, (s.setBlock b none).blocks c = if some b = some c then none else s.blocks c :=
        fun c _ => setBlock_none s c b
      obtain ⟨hparcel, hr, hown'⟩ := moved_spec (P := { s.parcels i with chunk := .block a, cap := _ }) ⟨_, _⟩
        rfl hothers hfresh' hblocks
      refine ⟨_, rfl, hparcel.trans ?_, hr, hown'⟩
      rw [hnext, hheap, hown]
      rfl

/-- In memory data are appended as they are to the parcel by itself. -/
theorem appendAt_spec {data : List UInt8} {addr : Option Nat} {r : Int × MediaParcel} (hown : s.Own i)
    (hp : s.parcel i = some p) (hfresh : ∀ a, addr = some a → s.blocks a = none ∨ s.chunk i = .block a)
    (h : mediaParcelAppend w p data addr.isSome = some r) :
    ∃ s', mediaParcelAppendAt w s i data addr = some (r.1, s') ∧ s'.parcel i = some r.2 ∧
      Replaced s s' i (s.chunk i).addr ∧ s'.Own i := by
  unfold mediaParcelAppend at h
  unfold mediaParcelAppendAt
  by_cases hdata : data.length = 0
  · rw [if_pos hdata, Option.some_inj] at h
    rw [if_pos hdata, ← h]
    exact ⟨s, rfl, hp, .refl s i, hown⟩
  rw [if_neg hdata] at h
  rw [if_neg hdata, hp, Option.bind_some]
  obtain ⟨s', hs', hq, hr, hown'⟩ := growAt_spec w p.len data.length hown hp hfresh
  rw [hs', Option.bind_some]
  dsimp only at h ⊢
  by_cases hret : (mediaParcelGrow w p p.len data.length addr.isSome).1 < 0
  · rw [if_pos hret, Option.some_inj] at h
    rw [if_pos hret, ← h]
    exact ⟨s', rfl, hq, hr, hown'⟩
  rw [if_neg hret] at h
  rw [if_neg hret, hq, Option.bind_some]
  split at h
  · rename_i hsize
    rw [Option.some_inj] at h
    rw [if_pos hsize, ← h]
    obtain ⟨hparcel, hr, hown⟩ := write_spec (store (store
      (mediaParcelGrow w p p.len data.length addr.isSome).2.mem (MEDIA_PARCEL_HEADER_LEN + p.len) data) 4
      (bytes32 (p.len + data.length))) hown' hq hr
    exact ⟨_, rfl, hparcel, hr, hown⟩
  · cases h

/-- Where the parcel is after data were appended, and its code. -/
theorem mediaParcelAppend_place {data : List UInt8} {ok : Bool} (hlen : p.len + data.length < 2 ^ 32)
    (hle : p.len ≤ p.cap) (h : mediaParcelAppend w p data ok = some (0, q)) :
    q.code = p.code ∧ q.heap = (p.heap || decide (p.cap < p.len + data.length)) := by
  unfold mediaParcelAppend at h
  by_cases hdata : data.length = 0
  · rw [if_pos hdata, Option.some_inj, Prod.mk.injEq] at h
    obtain ⟨-, rfl⟩ := h
    rw [hdata, decide_eq_false (by omega), Bool.or_false]
    exact ⟨rfl, rfl⟩
  rw [if_neg hdata] at h
  have hcode {mem : Nat → UInt8} (hmem : ∀ k < MEDIA_PARCEL_HEADER_LEN, mem k = p.mem k) :
      load32 (store (store mem (MEDIA_PARCEL_HEADER_LEN + p.len) data) 4 (bytes32 (p.len + data.length))) 0 =
        p.code := by
    refine load32_congr fun k _ hk => ?_
    rw [store_lt (by omega), store_lt (by rw [MEDIA_PARCEL_HEADER_LEN]; omega)]
    exact hmem k (by rw [MEDIA_PARCEL_HEADER_LEN]; omega)
  rcases mediaParcelGrow_append hlen ok with ⟨hroom, hgrow⟩ | ⟨hroom, hgrow⟩
  · rw [hgrow] at h
    dsimp only at h
    rw [if_neg (Int.lt_irrefl 0)] at h
    split at h
    · rw [Option.some_inj, Prod.mk.injEq] at h
      obtain ⟨-, rfl⟩ := h
      rw [decide_eq_false (by omega), Bool.or_false]
      exact ⟨hcode fun _ _ => rfl, rfl⟩
    · cases h
  · cases ok with
    | false =>
      rw [hgrow, if_neg Bool.false_ne_true] at h
      dsimp only at h
      rw [if_pos (by decide), Option.some_inj, Prod.mk.injEq] at h
      exact absurd h.1 (by decide)
    | true =>
      rw [hgrow, if_pos rfl] at h
      dsimp only at h
      rw [if_neg (Int.lt_irrefl 0)] at h
      split at h
      · rw [Option.some_inj, Prod.mk.injEq] at h
        obtain ⟨-, rfl⟩ := h
        rw [decide_eq_true hroom, Bool.or_true]
        refine ⟨hcode fun k hk => ?_, rfl⟩
        split
        · rfl
        · exact if_pos (by omega)
      · cases h

/-- Where there is room no memory is asked for. -/
theorem mediaParcelAppend_room {data : List UInt8} (hlen : p.len + data.length < 2 ^ 32)
    (hroom : p.len + data.length ≤ p.cap) (ok : Bool) :
    mediaParcelAppend w p data ok = mediaParcelAppend w p data true := by
  have hgrow : ∀ ok, mediaParcelGrow w p p.len data.length ok = (0, p) := fun ok =>
    (mediaParcelGrow_append hlen ok).elim (fun h => h.2) fun h => absurd hroom (Nat.not_le.2 h.1)
  unfold mediaParcelAppend
  rw [hgrow ok, hgrow true]

theorem mediaParcelAppend_full {data : List UInt8} (hlen : p.len + data.length < 2 ^ 32) (hle : p.len ≤ p.cap)
    (hfull : p.cap < p.len + data.length) : mediaParcelAppend w p data false = some (-ENOMEM, p) := by
  rcases mediaParcelGrow_append hlen false with ⟨hroom, -⟩ | ⟨-, hgrow⟩
  · omega
  · unfold mediaParcelAppend
    rw [if_neg (by omega), hgrow]
    rfl

/-- The text of a parcel to which data were appended. -/
theorem HasText.append {data : List UInt8} (h : HasText w p t) (hlen : t.payload.length + data.length < 2 ^ 32)
    (hcap : MEDIA_PARCEL_HEADER_LEN + grownCap t.cap (t.payload.length + data.length) < w.mod) :
    ∃ q, mediaParcelAppend w p data true = some (0, q) ∧
      HasText w q { t with
        payload := t.payload ++ data, cap := grownCap t.cap (t.payload.length + data.length) } := by
  have hplen : p.len = t.payload.length := by rw [← h.payload, p.length_payload]
  have hple : t.payload.length ≤ t.cap := by
    rw [← hplen, ← h.cap]
    exact h.sized.len_le
  by_cases hdata : data = []
  · subst hdata
    rw [List.length_nil, Nat.add_zero, grownCap, if_pos hple, List.append_nil]
    exact ⟨p, if_pos rfl, h⟩
  have hlen' : p.len + data.length < 2 ^ 32 := hplen ▸ hlen
  have hcap' : MEDIA_PARCEL_HEADER_LEN + grownCap p.cap (p.len + data.length) < w.mod := by
    rw [hplen, h.cap]
    exact hcap
  rcases mediaParcelAppend_spec h.sized hdata hlen' hcap' true with
    ⟨q, hq, hpayload, hsized, -, -, hqcap⟩ | ⟨hfalse, -⟩
  · obtain ⟨hcode, hheap⟩ := mediaParcelAppend_place hlen' h.sized.len_le hq
    have hge : t.payload.length + data.length ≤ grownCap t.cap (t.payload.length + data.length) := by
      unfold grownCap
      split_ifs <;> omega
    have hcap_ge := h.cap_ge
    refine ⟨q, hq, ?_⟩
    refine
      { code := hcode.trans h.code
        payload := hpayload.trans (by rw [h.payload])
        cap := by rw [hqcap, h.cap, hplen]
        heap := ?_
        cap_ge := ?_
        sized := hsized }
    · rw [hheap, h.heap, h.cap, hplen, ← Bool.decide_or]
      refine decide_eq_decide.2 ?_
      dsimp only
      unfold grownCap at hge ⊢
      split_ifs at hge ⊢ <;> omega
    · dsimp only
      unfold grownCap at hge ⊢
      split_ifs at hge ⊢ <;> omega
  · cases hfalse

/-- Appending to a parcel in memory. -/
theorem Shows.append {data : List UInt8} {addr : Option Nat} (h : Shows w s i t)
    (hfresh : ∀ a, addr = some a → s.blocks a = none ∨ s.chunk i = .block a)
    (hlen : t.payload.length + data.length < 2 ^ 32)
    (hcap : MEDIA_PARCEL_HEADER_LEN + grownCap t.cap (t.payload.length + data.length) < w.mod) :
    if t.payload.length + data.length ≤ t.cap ∨ addr.isSome then
      ∃ s', mediaParcelAppendAt w s i data addr = some (0, s') ∧ Replaced s s' i (s.chunk i).addr ∧
        Shows w s' i { t with payload := t.payload ++ data, cap := grownCap t.cap (t.payload.length + data.length) }
    else
      ∃ s', mediaParcelAppendAt w s i data addr = some (-ENOMEM, s') ∧ Replaced s s' i (s.chunk i).addr ∧
        Shows w s' i t := by
  obtain ⟨p, hp, ht⟩ := h.parcel
  have hplen : p.len = t.payload.length := by rw [← ht.payload, p.length_payload]
  split
  · rename_i hroom
    obtain ⟨q, hq, hqt⟩ := ht.append hlen hcap
    have happend : mediaParcelAppend w p data addr.isSome = some (0, q) := by
      rcases hroom with hroom | hok
      · rw [← hplen, ← ht.cap] at hroom
        rw [mediaParcelAppend_room (hplen ▸ hlen) hroom]
        exact hq
      · rw [hok]
        exact hq
    obtain ⟨s', hs', hparcel, hr, hown⟩ := appendAt_spec h.own hp hfresh happend
    exact ⟨s', hs', hr, hown, q, hparcel, hqt⟩
  · rename_i hfull
    have hnone : addr.isSome = false := by
      rw [← Bool.not_eq_true]
      exact fun hok => hfull (.inr hok)
    have happend : mediaParcelAppend w p data addr.isSome = some (-ENOMEM, p) := by
      rw [hnone]
      refine mediaParcelAppend_full (hplen ▸ hlen) ht.sized.len_le ?_
      rw [hplen, ht.cap]
      exact Nat.lt_of_not_le fun hroom => hfull (.inl hroom)
    obtain ⟨s', hs', hparcel, hr, hown⟩ := appendAt_spec h.own hp hfresh happend
    exact ⟨s', hs', hr, hown, p, hparcel, ht⟩

/-- The code is stored in the chunk of a parcel. -/
theorem Shows.withCode {code : Nat} (h : Shows w s i t) (hcode : code < 2 ^ 32) (hp : s.parcel i = some p) :
    Replaced s (s.write (p.withCode code).mem (s.chunk i)) i (s.chunk i).addr ∧
      Shows w (s.write (p.withCode code).mem (s.chunk i)) i { t with code } := by
  obtain ⟨q, hq, ht⟩ := h.parcel
  obtain rfl : p = q := Option.some_inj.1 (hp.symm.trans hq)
  obtain ⟨hparcel, hr, hown⟩ := write_spec (p.withCode code).mem h.own hp (.refl s i)
  refine ⟨hr, hown, _, hparcel, ?_⟩
  exact
    { code := p.withCode_code hcode
      payload := (p.withCode_payload code).trans ht.payload
      cap := ht.cap
      heap := ht.heap
      cap_ge := ht.cap_ge
      sized := ⟨(p.withCode_len code).trans_le ht.sized.len_le, ht.sized.cap_lt, ht.sized.size⟩ }

/-- Sending a parcel stores its code and sends its text. -/
theorem Shows.send {code : Nat} (h : Shows w s i t) (hcode : code < 2 ^ 32)
    (hlen : MEDIA_PARCEL_HEADER_LEN + t.payload.length < 2 ^ 32) (io : List SendStep) :
    ∃ s', mediaParcelSendAt s i code io = some (mediaParcelSendLoop io { t with code }.encode, s') ∧
      Replaced s s' i (s.chunk i).addr ∧ Shows w s' i { t with code } := by
  obtain ⟨p, hp, ht⟩ := h.parcel
  have hwire : (p.withCode code).wire = { t with code }.encode := by
    rw [MediaParcel.wire_eq _ (by rw [p.withCode_len, ← p.length_payload, ht.payload]; exact hlen), Frame.encode,
      MediaParcel.frame_payload, MediaParcel.frame_code, p.withCode_code hcode, p.withCode_payload, ht.payload,
      ParcelText.encode]
  refine ⟨_, ?_, h.withCode hcode hp⟩
  rw [mediaParcelSendAt, hp, Option.map_some, mediaParcelSend, hwire]

/-- A copy has the text, in memory of its own. -/
theorem Shows.clone {addr : Option Nat} (h : Shows w s i t) (dst : Nat)
    (hfresh : ∀ a, addr = some a → s.blocks a = none) :
    if t.cap = MEDIA_PARCEL_DATA_LEN ∨ addr.isSome then
      ∃ s', mediaParcelCloneAt w s dst i addr = some (0, s') ∧ Replaced s s' dst none ∧ Shows w s' dst t
    else
      ∃ s', mediaParcelCloneAt w s dst i addr = some (-ENOMEM, s') ∧ Replaced s s' dst none ∧
        Shows w s' dst .empty := by
  obtain ⟨p, hp, ht⟩ := h.parcel
  obtain ⟨-, hpcap, hpheap⟩ := parcel_fields hp
  obtain ⟨b, hb, hpb⟩ := Option.map_eq_some_iff.1 hp
  have hheap := ht.heap
  rw [hpheap] at hheap
  unfold mediaParcelCloneAt
  dsimp only
  have hsrc : (s.setParcel dst (s.parcels i)).parcels dst = s.parcels i := setParcel_self s _
  have hothers : ∀ j ≠ dst, (s.setParcel dst (s.parcels i)).parcels j = s.parcels j :=
    fun j hj => setParcel_ne s _ hj
  rcases h.own with hown | ⟨c, hown⟩
  · -- the member is copied with the parcel, and only the pointer is wrong
    rw [hown, ChunkPtr.addr] at hheap
    have hle : t.cap ≤ MEDIA_PARCEL_DATA_LEN := Nat.le_of_not_lt (of_decide_eq_false hheap.symm)
    rw [if_pos (.inl (Nat.le_antisymm hle ht.cap_ge)), if_pos hown, hsrc]
    rw [hown, deref, Option.some_inj] at hb
    have hchunk : ((s.setParcel dst (s.parcels i)).setParcel dst
        { s.parcels i with chunk := .prealloc dst }).chunk dst = .prealloc dst := setParcel_chunk ..
    refine ⟨_, rfl, ⟨fun j hj => (setParcel_ne _ _ hj).trans (hothers j hj), fun a ha => ?_, fun a _ => rfl⟩,
      .inl hchunk, { p with heap := false }, ?_, ht.congr (fun _ _ => rfl) rfl ?_ ht.sized.size⟩
    · rw [hchunk] at ha
      cases ha
    · rw [ParcelHeap.parcel, hchunk, deref, setParcel_self, ← hpb, ← hb]
      rfl
    · rw [hpheap, hown]
      rfl
  · have hne' : s.chunk i ≠ .prealloc i := by
      rw [hown]
      nofun
    have hbig : t.cap ≠ MEDIA_PARCEL_DATA_LEN := by
      rw [hown, ChunkPtr.addr] at hheap
      exact (of_decide_eq_true hheap.symm).ne'
    rw [if_neg hne', hb, Option.bind_some]
    cases addr with
    | none =>
      rw [if_neg (by rintro (hcap | hsome); exacts [hbig hcap, Bool.false_ne_true hsome])]
      exact ⟨_, rfl, initAt_replaced hothers fun _ => rfl, initAt_shows w _ dst⟩
    | some a =>
      have hlen : (MEDIA_PARCEL_HEADER_LEN + (s.parcels i).cap) % w.mod = MEDIA_PARCEL_HEADER_LEN + p.cap := by
        rw [← hpcap, Nat.mod_eq_of_lt ht.sized.cap_lt]
      have hsize : MEDIA_PARCEL_HEADER_LEN + p.cap ≤ b.size := by
        have := ht.sized.size
        rwa [← hpb] at this ⊢
      rw [if_pos (.inr rfl), hsrc]
      dsimp only
      rw [hlen, if_pos hsize]
      have hblocks : ∀ b ≠ a, (s.setParcel dst (s.parcels i)).blocks b =
          if (none : Option Nat) = some b then none else s.blocks b := fun _ _ => rfl
      obtain ⟨hparcel, hr, hown'⟩ := moved_spec (P := { s.parcels i with chunk := .block a })
        ⟨fun k => if k < MEDIA_PARCEL_HEADER_LEN + p.cap then b.mem k else 0, MEDIA_PARCEL_HEADER_LEN + p.cap⟩ rfl
        hothers (.inr (hfresh a rfl)) hblocks
      refine ⟨_, rfl, hr, hown', _, hparcel, ht.congr (fun k hk => ?_) hpcap.symm ?_ (Nat.le_refl _)⟩
      · have hle := ht.sized.len_le
        exact (if_pos (by omega)).trans (congrFun (congrArg MediaParcel.mem hpb) k)
      · rw [hpheap, hown]
        rfl

/-! ### Runs -/

/-- The step: a proper call has a result, the one that is told of the texts. -/
theorem TextsKept.call {op : ParcelOp} (h : TextsKept w s v) (hproper : v.Proper w op) (hallocates : s.Allocates op) :
    ∃ told s', s.call w op = some (told, s') ∧ (v.call op).told = v.told ++ [told] ∧
      TextsKept w s' (v.call op) := by
  have hblock {i : Nat} {t : ParcelText} (ht : v.texts i = some t) : blockOf s v i = (s.chunk i).addr := by
    rw [blockOf, ht, Option.bind_some]
  cases op with
  | init i =>
    have hdead : blockOf s v i = none := by rw [blockOf, show v.texts i = none from hproper, Option.bind_none]
    refine ⟨_, _, rfl, rfl, h.replace ?_ (initAt_shows w s i) 0 []⟩
    rw [hdead]
    exact initAt_replaced (fun _ _ => rfl) fun _ => rfl
  | append i data addr =>
    obtain ⟨t, ht, hlen, hcap⟩ := hproper
    have happend := (h.shows_text i t ht).append hallocates hlen hcap
    simp only [ParcelHeap.call, ParcelTexts.call, ht]
    split at happend
    · rename_i hroom
      obtain ⟨s', hs', hr, hshows⟩ := happend
      rw [hs', if_pos hroom]
      exact ⟨_, s', rfl, rfl, h.replace (hblock ht ▸ hr) hshows 0 []⟩
    · rename_i hfull
      obtain ⟨s', hs', hr, hshows⟩ := happend
      rw [hs', if_neg hfull]
      exact ⟨_, s', rfl, rfl, h.replace (hblock ht ▸ hr) hshows (-ENOMEM) []⟩
  | send i code io =>
    obtain ⟨hcode, t, ht, hlen⟩ := hproper
    obtain ⟨s', hs', hr, hshows⟩ := (h.shows_text i t ht).send hcode hlen io
    simp only [ParcelHeap.call, ParcelTexts.call, ht, hs']
    exact ⟨_, s', rfl, rfl, h.replace (hblock ht ▸ hr) hshows _ _⟩
  | clone dst src addr =>
    obtain ⟨hdst, hsrc⟩ := hproper
    obtain ⟨t, ht⟩ := Option.ne_none_iff_exists'.1 hsrc
    have hdead : blockOf s v dst = none := by rw [blockOf, hdst, Option.bind_none]
    have hclone := (h.shows_text src t ht).clone dst hallocates
    simp only [ParcelHeap.call, ParcelTexts.call, ht]
    split at hclone
    · rename_i hroom
      obtain ⟨s', hs', hr, hshows⟩ := hclone
      rw [hs', if_pos hroom]
      exact ⟨_, s', rfl, rfl, h.replace (hdead ▸ hr) hshows 0 []⟩
    · rename_i hfull
      obtain ⟨s', hs', hr, hshows⟩ := hclone
      rw [hs', if_neg hfull]
      exact ⟨_, s', rfl, rfl, h.replace (hdead ▸ hr) hshows (-ENOMEM) []⟩
  | reinit i =>
    obtain ⟨t, ht⟩ := Option.ne_none_iff_exists'.1 hproper
    obtain ⟨p, hp, -⟩ := (h.shows_text i t ht).parcel
    obtain ⟨s', hs', hparcels, hblocks⟩ := deinitAt_spec (h.shows_text i t ht).own hp
    refine ⟨⟨0, []⟩, mediaParcelInitAt s' i, ?_, rfl, h.replace ?_ (initAt_shows w s' i) 0 []⟩
    · rw [ParcelHeap.call, mediaParcelReinitAt, hs']
      rfl
    · rw [hblock ht]
      exact initAt_replaced (fun j _ => congrFun hparcels j) hblocks
  | deinit i =>
    obtain ⟨t, ht⟩ := Option.ne_none_iff_exists'.1 hproper
    obtain ⟨p, hp, -⟩ := (h.shows_text i t ht).parcel
    obtain ⟨s', hs', hparcels, hblocks⟩ := deinitAt_spec (h.shows_text i t ht).own hp
    refine ⟨⟨0, []⟩, s', ?_, rfl, h.release hparcels (hblock ht ▸ hblocks) 0 []⟩
    rw [ParcelHeap.call, hs']
    rfl

theorem textsKept_start (w : SizeT) (garbage : Nat → ParcelStruct) :
    TextsKept w { parcels := garbage, blocks := fun _ => none } {} where
  shows_text _ _ h := by cases h
  owned :=
    { apart := fun h => by cases h
      live_iff := fun a => by simp [blockOf] }

/-- In every run of proper calls the memory of the parcels shows what their texts are: every call has its result, tells
what it tells of the texts, and leaves the other parcels alone.  No block is lost or shared. -/
theorem parcelRuns_kept (garbage : Nat → ParcelStruct) {r : HeapRun × ParcelTexts}
    (h : Machine.ReachableVia (parcelRuns w garbage) (ParcelsUsed w) r) :
    ∃ s, r.1.heap = some s ∧ r.1.told = r.2.told ∧ TextsKept w s r.2 := by
  refine Machine.ReachableVia.recorded (P := fun r v => ∃ s, r.heap = some s ∧ r.told = v.told ∧ TextsKept w s v)
    ⟨_, rfl, rfl, textsKept_start w garbage⟩ ?_ h
  rintro run v op run' ⟨s, hs, htold, hkept⟩ ⟨hproper, hallocates⟩ hnext
  obtain ⟨told, s', hcall, htold', hkept'⟩ := hkept.call hproper (hallocates s hs)
  have hrun' : run' = { heap := some s', told := run.told ++ [told] } := by
    rw [← Option.some_inj.1 hnext, HeapRun.next, hs, Option.bind_some, hcall]
  refine ⟨s', congrArg HeapRun.heap hrun', ?_, hkept'⟩
  rw [hrun', htold', ← htold]

theorem parcelRuns_step {garbage : Nat → ParcelStruct} {r : HeapRun × ParcelTexts} (op : ParcelOp)
    (h : Machine.ReachableVia (parcelRuns w garbage) (ParcelsUsed w) r) (hused : ParcelsUsed w r op) :
    Machine.ReachableVia (parcelRuns w garbage) (ParcelsUsed w) (r.1.next w op, r.2.call op) := .step h hused rfl

/-- A parcel that has left `prealloc` is copied and given up; the copy keeps its text. -/
def sampleParcelOps : List ParcelOp :=
  [.init 0, .append 0 (List.replicate 300 1) (some 7), .clone 1 0 (some 8), .deinit 0]

def sampleGarbage : Nat → ParcelStruct := fun _ => { chunk := .block 0, prealloc := fun _ => 7, next := 5, cap := 3 }

def sampleParcels : HeapRun × ParcelTexts :=
  sampleParcelOps.foldl (fun r op => (r.1.next .w64 op, r.2.call op)) (parcelRuns .w64 sampleGarbage).start

set_option maxRecDepth 4000 in
theorem parcelRuns_kept_sample : sampleParcels.2.texts 1 = some ⟨0, List.replicate 300 1, 512⟩ ∧
    ∃ s, sampleParcels.1.heap = some s ∧ sampleParcels.1.told = sampleParcels.2.told ∧
      TextsKept .w64 s sampleParcels.2 := by
  have h₀ : Machine.ReachableVia (parcelRuns .w64 sampleGarbage) (ParcelsUsed .w64) _ := .start
  have h₁ := parcelRuns_step (.init 0) h₀ ⟨rfl, fun _ _ => trivial⟩
  have h₂ := parcelRuns_step (.append 0 (List.replicate 300 1) (some 7)) h₁
    ⟨⟨_, rfl, by decide, by decide⟩, fun s hs a _ => .inl (by cases hs; rfl)⟩
  have h₃ := parcelRuns_step (.clone 1 0 (some 8)) h₂
    ⟨⟨rfl, nofun⟩, fun s hs a ha => by cases ha; cases hs; rfl⟩
  have h₄ := parcelRuns_step (.deinit 0) h₃ ⟨nofun, fun _ _ => trivial⟩
  exact ⟨rfl, parcelRuns_kept sampleGarbage h₄⟩

end

end MediaFramework
