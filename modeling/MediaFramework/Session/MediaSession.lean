import MediaFramework.Library.Machine
import MediaFramework.Session.MediaMetadata

/-!
# The session module of the server (`server/media_session.c`)

Controllers and controllees in two lists.  Control messages and queries go to the first controllee, the most active
one, and what happens to it is told to the controllers that have asked for events.

Objects are named by their addresses.  A handler gets an address without a type from its connection; where it uses
the address as a controller or a controllee that is not in its list, the model has no result.
-/

namespace MediaFramework

def MEDIA_EVENT_CHANGED : BitVec 32 := 101
def MEDIA_EVENT_UPDATED : BitVec 32 := 102
def MEDIA_EVENT_START : BitVec 32 := 103
def MEDIA_EVENT_PAUSE : BitVec 32 := 104
def MEDIA_EVENT_STOP : BitVec 32 := 105
def MEDIA_EVENT_PREV_SONG : BitVec 32 := 106
def MEDIA_EVENT_NEXT_SONG : BitVec 32 := 107
def MEDIA_EVENT_INCREASE_VOLUME : BitVec 32 := 108
def MEDIA_EVENT_DECREASE_VOLUME : BitVec 32 := 109

/-! ### The data -/

structure MediaControllerPriv where
  addr : Nat
  cookie : Option Nat
  event : Bool := false
  deriving DecidableEq

structure MediaControlleePriv where
  addr : Nat
  cookie : Option Nat
  data : MediaMetadata := mediaMetadataInit
  deriving DecidableEq

structure MediaSessionPriv where
  controllers : List MediaControllerPriv := []
  controllees : List MediaControlleePriv := []
  deriving DecidableEq

/-- A call of `media_stub_notify_event` for an object, with its cookie. -/
structure StubNotify where
  addr : Nat
  cookie : Option Nat
  event : BitVec 32
  result : BitVec 32
  extra : Option CString
  deriving DecidableEq

/-- The commands by their names; `other` is any other one. -/
inductive SessionCmd
  | ping
  | register
  | unregister
  | event
  | update
  | open
  | close
  | setEvent
  | query
  | start
  | pause
  | stop
  | prev
  | next
  | volumeup
  | volumedown
  | other
  deriving DecidableEq

/-- A call of the handler for a connection: what it has stored in the connection, the address that `zalloc` returns,
the variables on the stack before anything is stored in them, and the arguments; `res` says that there is a buffer for
the response. -/
structure SessionCall where
  cookie : Nat
  data : Option Nat
  alloc : Option Nat := none
  stack : MetadataStack := {}
  event : BitVec 32 := 0
  result : BitVec 32 := 0
  target : Option CString := none
  cmd : SessionCmd
  arg : Option CString := none
  res : Bool := true
  len : Nat := 0

/-- What a call does.  `finalized` is the connection that was given to `media_stub_notify_finalize` first, `data` is
what the connection holds, or what was stored in it with `media_server_set_data`. -/
structure SessionResult where
  ret : Int
  session : MediaSessionPriv
  data : Option Nat
  finalized : Option Nat := none
  sent : List StubNotify := []
  response : Option CString := none

namespace MediaSessionPriv

variable (s : MediaSessionPriv)

/-- The address of the most active controllee. -/
def first : Option Nat := s.controllees.head?.map MediaControlleePriv.addr

def controllee (addr : Nat) : Option MediaControlleePriv := s.controllees.find? fun c => c.addr == addr

def controller (addr : Nat) : Option MediaControllerPriv := s.controllers.find? fun c => c.addr == addr

def removeControllee (addr : Nat) : MediaSessionPriv :=
  { s with controllees := s.controllees.filter fun c => c.addr != addr }

end MediaSessionPriv

/-! ### The functions -/

def mediaSessionCmd2event : SessionCmd → Option (BitVec 32)
  | .start => some MEDIA_EVENT_START
  | .pause => some MEDIA_EVENT_PAUSE
  | .stop => some MEDIA_EVENT_STOP
  | .prev => some MEDIA_EVENT_PREV_SONG
  | .next => some MEDIA_EVENT_NEXT_SONG
  | .volumeup => some MEDIA_EVENT_INCREASE_VOLUME
  | .volumedown => some MEDIA_EVENT_DECREASE_VOLUME
  | _ => none

def mediaSessionControllerOpen (s : MediaSessionPriv) (cookie addr : Nat) : MediaSessionPriv :=
  { s with controllers := { addr, cookie := some cookie } :: s.controllers }

/-- The result, what is written to the response, and what is sent. -/
def mediaSessionControllerTransfer (s : MediaSessionPriv) (cmd : SessionCmd) (arg : Option CString) (len : Nat) :
    Int × Option CString × List StubNotify :=
  match s.controllees with
  | [] => (-ENOENT, none, [])
  | controllee :: _ =>
    if cmd = .query then
      let r := mediaMetadataSerialize controllee.data len
      (r.1, some r.2, [])
    else
      match mediaSessionCmd2event cmd with
      | some event => (0, none, [⟨controllee.addr, controllee.cookie, event, 0, arg⟩])
      | none => (-ENOSYS, none, [])

def mediaSessionControllerClose (s : MediaSessionPriv) (addr : Nat) : MediaSessionPriv :=
  { s with controllers := s.controllers.filter fun c => c.addr != addr }

/-- The calls of `media_stub_notify_event`; `controllee` may be NULL. -/
def mediaSessionControlleeNotify (s : MediaSessionPriv) (controllee : Option Nat) (event result : BitVec 32)
    (extra : Option CString) : List StubNotify :=
  if controllee = s.first then
    (s.controllers.filter MediaControllerPriv.event).map fun c => ⟨c.addr, c.cookie, event, result, extra⟩
  else []

def mediaSessionControlleeRegister (s : MediaSessionPriv) (cookie addr : Nat) : MediaSessionPriv × List StubNotify :=
  let s : MediaSessionPriv := { s with controllees := s.controllees ++ [{ addr, cookie := some cookie }] }
  (s, mediaSessionControlleeNotify s (some addr) MEDIA_EVENT_CHANGED 0 none)

/-- The metadata has a state that says that the controllee plays. -/
def MediaMetadata.plays (data : MediaMetadata) : Bool :=
  data.has MEDIA_METAFLAG_STATE && decide (0 < data.state.toInt)

/-- The update after `media_metadata_unserialize` has made `diff`. -/
def mediaSessionControlleeUpdate (s : MediaSessionPriv) (controllee : MediaControlleePriv) (diff : MediaMetadata) :
    MediaSessionPriv × List StubNotify :=
  let updated : MediaControlleePriv := { controllee with data := mediaMetadataUpdate controllee.data diff }
  let t : MediaSessionPriv :=
    { s with controllees := s.controllees.map fun c => if c.addr = controllee.addr then updated else c }
  if some controllee.addr = t.first then
    (t, mediaSessionControlleeNotify t (some controllee.addr) MEDIA_EVENT_UPDATED diff.flags none)
  else if updated.data.plays then
    let t : MediaSessionPriv := { t with controllees := updated :: (t.removeControllee controllee.addr).controllees }
    (t, mediaSessionControlleeNotify t (some controllee.addr) MEDIA_EVENT_CHANGED diff.flags none)
  else (t, [])

def mediaSessionControlleeUnregister (s : MediaSessionPriv) (addr : Nat) : MediaSessionPriv × List StubNotify :=
  let t := s.removeControllee addr
  if some addr = s.first then
    let flags := (t.controllees.head?.map fun c => c.data.flags).getD 0
    (t, mediaSessionControlleeNotify t t.first MEDIA_EVENT_CHANGED flags none)
  else (t, [])

/-- `sscanf(arg, "%d:%d", &event, &result)`. -/
def scanEvent (call : SessionCall) (arg : CString) : BitVec 32 × BitVec 32 :=
  let vals := Scanf.scan [.num, .char ':', .num] arg
  (scannedNum vals 0 call.event, scannedNum vals 1 call.result)

/-- There is no result where the code would use an object that is not there, write to an array or a buffer that has no
room or is not there, or scan NULL. -/
def mediaSessionHandler (s : MediaSessionPriv) (call : SessionCall) : Option SessionResult :=
  match call.cmd, call.data with
  | .ping, data => some { ret := 0, session := s, data }
  | .register, data =>
    match call.alloc with
    | none => some { ret := -ENOMEM, session := s, data }
    | some addr =>
      let r := mediaSessionControlleeRegister s call.cookie addr
      some { ret := 0, session := r.1, data := some addr, sent := r.2 }
  | .open, data =>
    match call.alloc with
    | none => some { ret := -ENOMEM, session := s, data }
    | some addr => some { ret := 0, session := mediaSessionControllerOpen s call.cookie addr, data := some addr }
  | _, none => some { ret := -EINVAL, session := s, data := none }
  | .unregister, some addr =>
    (s.controllee addr).map fun controllee =>
      let r := mediaSessionControlleeUnregister s addr
      { ret := 0, session := r.1, data := some addr, finalized := controllee.cookie, sent := r.2 }
  | .event, some addr =>
    (s.controllee addr).bind fun controllee => call.arg.map fun arg =>
      let r := scanEvent call arg
      { ret := 0, session := s, data := some addr
        sent := mediaSessionControlleeNotify s (some controllee.addr) r.1 r.2 call.target }
  | .update, some addr =>
    (s.controllee addr).bind fun controllee =>
      (mediaMetadataUnserialize call.stack mediaMetadataInit call.arg).map fun diff =>
        let r := mediaSessionControlleeUpdate s controllee diff.2
        { ret := 0, session := r.1, data := some addr, sent := r.2 }
  | .close, some addr =>
    (s.controller addr).map fun controller =>
      { ret := 0, session := mediaSessionControllerClose s addr, data := some addr, finalized := controller.cookie }
  | .setEvent, some addr =>
    (s.controller addr).map fun controller =>
      { ret := 0, data := some addr
        session := { s with controllers := s.controllers.map fun c =>
          if c.addr = controller.addr then { c with event := true } else c } }
  | cmd, some addr =>
    let r := mediaSessionControllerTransfer s cmd call.arg call.len
    if r.2.1.isSome ∧ call.len ≠ 0 ∧ call.res = false then none
    else some { ret := r.1, session := s, data := some addr, sent := r.2.2, response := r.2.1 }

end MediaFramework
