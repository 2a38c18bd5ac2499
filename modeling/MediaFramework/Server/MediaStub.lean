import MediaFramework.Parcel.ParcelFormat

/-!
# The stub of the server (`server/media_stub.c`)

A request begins with the number of a module, which says what else is in it.  The stub reads it and calls the handler
of the module.  All modules are configured.
-/

namespace MediaFramework

def MEDIA_ID_GRAPH : BitVec 32 := 1
def MEDIA_ID_POLICY : BitVec 32 := 2
def MEDIA_ID_PLAYER : BitVec 32 := 3
def MEDIA_ID_RECORDER : BitVec 32 := 4
def MEDIA_ID_SESSION : BitVec 32 := 5
def MEDIA_ID_FOCUS : BitVec 32 := 6

/-- A call of a handler with what was read; there is a buffer for a response of `len` bytes if `len` is positive. -/
inductive StubCall
  | policy (target cmd arg : Option (List UInt8)) (flags len : BitVec 32)
  | focus (target cmd : Option (List UInt8)) (len : BitVec 32)
  | graph (target cmd arg : Option (List UInt8)) (len : BitVec 32)
  | player (target cmd arg : Option (List UInt8)) (len : BitVec 32)
  | recorder (target cmd arg : Option (List UInt8)) (len : BitVec 32)
  | session (target cmd arg : Option (List UInt8)) (len : BitVec 32)
  deriving DecidableEq

/-- The size of the buffer for the response. -/
def StubCall.len : StubCall → BitVec 32
  | policy _ _ _ _ len | focus _ _ len | graph _ _ _ len | player _ _ _ len | recorder _ _ _ len
  | session _ _ _ len => len

/-- The string that was read in a place, NULL if nothing was read. -/
def readStr (vals : List ParcelValue) (place : Nat) : Option (List UInt8) :=
  match vals[place]? with
  | some (.s val) => val
  | _ => none

def readInt (vals : List ParcelValue) (place : Nat) : BitVec 32 :=
  match vals[place]? with
  | some (.i val) => val
  | _ => 0

/-- The call that a request asks for, if its module is known, and the parcel after it was read. -/
def mediaStubRead (w : SizeT) (p : MediaParcel) : Option StubCall × MediaParcel :=
  let r := mediaParcelCopy w p 4
  let id := BitVec.ofNat 32 r.2.1
  let p := r.2.2
  if id = MEDIA_ID_POLICY then
    let r := mediaParcelReadVscanf w p "%s%s%s%i%i".toList
    (some (.policy (readStr r.2.1 0) (readStr r.2.1 1) (readStr r.2.1 2) (readInt r.2.1 3) (readInt r.2.1 4)), r.2.2)
  else if id = MEDIA_ID_FOCUS then
    let r := mediaParcelReadVscanf w p "%s%s%i".toList
    (some (.focus (readStr r.2.1 0) (readStr r.2.1 1) (readInt r.2.1 2)), r.2.2)
  else if id = MEDIA_ID_GRAPH then
    let r := mediaParcelReadVscanf w p "%s%s%s%i".toList
    (some (.graph (readStr r.2.1 0) (readStr r.2.1 1) (readStr r.2.1 2) (readInt r.2.1 3)), r.2.2)
  else if id = MEDIA_ID_PLAYER then
    let r := mediaParcelReadVscanf w p "%s%s%s%i".toList
    (some (.player (readStr r.2.1 0) (readStr r.2.1 1) (readStr r.2.1 2) (readInt r.2.1 3)), r.2.2)
  else if id = MEDIA_ID_RECORDER then
    let r := mediaParcelReadVscanf w p "%s%s%s%i".toList
    (some (.recorder (readStr r.2.1 0) (readStr r.2.1 1) (readStr r.2.1 2) (readInt r.2.1 3)), r.2.2)
  else if id = MEDIA_ID_SESSION then
    let r := mediaParcelReadVscanf w p "%s%s%s%i".toList
    (some (.session (readStr r.2.1 0) (readStr r.2.1 1) (readStr r.2.1 2) (readInt r.2.1 3)), r.2.2)
  else (none, p)

/-- What `media_stub_onreceive` does: the call of a handler, the parcel after it was read, and the reply if there is to
be one. -/
structure StubResult where
  call : Option StubCall
  parcel : MediaParcel
  out : Option (Option (Int × MediaParcel))

/-- `handle` gives what the handler returns, and the response. -/
def mediaStubOnreceive (w : SizeT) (handle : StubCall → BitVec 32 × Option CBytes) (p : MediaParcel)
    (out : Option MediaParcel) (oks : List Bool) : StubResult :=
  let r := mediaStubRead w p
  let answer := (r.1.map handle).getD (BitVec.ofInt 32 (-ENOSYS), none)
  { call := r.1
    parcel := r.2
    out := out.map fun out => mediaParcelAppendVprintf w out "%i%s".toList [.i answer.1, .s answer.2] oks }

end MediaFramework
