import Mathlib.Data.List.Basic
import MediaFramework.Errno
import MediaFramework.Library.Machine
import MediaFramework.Parcel.MediaParcel

/-!
# The asynchronous proxy (`media_uv.c`)

A proxy queues requests, writes them to its command pipe and hands each reply to the callback of the request at the
head of `sentq`.  Its code runs in the callbacks of libuv, and it calls callbacks of the user, who may call the proxy
again before they return.  The code that is still to run when a user callback returns is kept on a stack of
continuations, so that a step of the model is what the code does from one user callback to the next.

A parcel is handed to the proxy when `media_uv_read_cb` has all of it.  The outcomes of the library calls and the
order of libuv's callbacks are inputs: libuv completes what was started once, and everything before it closes a pipe.
-/

namespace MediaFramework

/-! ### The data -/

/-- The bits `MEDIA_PROXYFLAG_*` of `proxy->flags`. -/
structure ProxyFlags where
  connecting : Bool := false
  listening : Bool := false
  reconnect : Bool := false
  disconnect : Bool := false
  deriving DecidableEq, Repr

instance : Zero ProxyFlags := ⟨{}⟩

instance : OrOp ProxyFlags where
  or f g := ⟨f.connecting || g.connecting, f.listening || g.listening, f.reconnect || g.reconnect,
    f.disconnect || g.disconnect⟩

/-- What becomes of a request that is handed to `media_uv_send`: it is queued or written; it is refused; or `uv_write`
fails, which cancels it before an error is returned. -/
inductive SendOutcome
  | sent
  | refused
  | dropped
  deriving DecidableEq

/-- A message.  Its two flags are kept in `Writings`.  `inConnect` and `inListen` record whether an `on_connect` or
an `on_listen` callback was running when it was made. -/
structure MediaWritePriv where
  id : Nat
  code : Nat
  inConnect : Bool
  inListen : Bool
  deriving DecidableEq, Repr

/-- A pipe and what libuv has under way on it: `writes` are the writings to complete, `sent` are all that `uv_write`
has taken so far. -/
structure MediaPipePriv where
  connecting : Bool := false
  listening : Bool := false
  shutting : Bool := false
  reading : Bool := false
  closing : Bool := false
  closed : Bool := false
  writes : List MediaWritePriv := []
  sent : List MediaWritePriv := []
  deriving DecidableEq, Repr

/-- The queues of a proxy, the writings that have the flags `MEDIA_MSGFLAG_WRITTEN` and `MEDIA_MSGFLAG_RESPONSED`, and
the history: what `media_uv_send` accepted, what was handed to `uv_write`, the calls of `on_receive`, and the replies
read. -/
structure Writings where
  pendq : List MediaWritePriv := []
  sentq : List MediaWritePriv := []
  written : List Nat := []
  responsed : List Nat := []
  nextId : Nat := 0
  accepted : List MediaWritePriv := []
  handed : List MediaWritePriv := []
  answers : List (MediaWritePriv × Option Nat) := []
  replies : List Nat := []

/-- A callback of the user, with what it is told. -/
inductive UvCallback
  | onConnect (ret : Int)
  | onReceive (writing : MediaWritePriv) (parcel : Option Nat)
  | onEvent (parcel : Nat)
  | onListen (ret : Int)
  | onRelease
  deriving DecidableEq

/-- A continuation: a user callback that is running, or the rest of one of the proxy's functions. -/
inductive UvFrame
  | user (callback : UvCallback)
  | writeCb (writing : MediaWritePriv)
  | handleParcel (writing : MediaWritePriv) (pipe : Nat)
  | applyWritings (pipe : Nat)
  | applyQuit (pipe : Nat)
  | deliveryWriting
  | deliveryLoop (writing : Option MediaWritePriv)
  | close (pipe : Nat)
  | restoreFlags (flags : ProxyFlags)
  | readStart
  | freeProxy
  deriving DecidableEq

/-- How the code reads memory it must not read. -/
inductive UvFault
  | nullPipe
  | nullCpu
  | useAfterFree
  deriving DecidableEq

/-- A proxy with its pipes, which are named by their places in the list.  It is `aborted` by the assertion of
`media_uv_handle_parcel`. -/
structure MediaProxyPriv where
  cpu : Option String
  cpus : List String
  cpipe : Option Nat := none
  epipe : Option Nat := none
  onRelease : Bool := false
  onListen : Bool := false
  flags : ProxyFlags := 0
  writings : Writings := {}
  pipes : List MediaPipePriv := []
  stack : List UvFrame := []
  freed : Bool := false
  fault : Option UvFault := none
  aborted : Bool := false
  exhausted : Bool := false
  released : Bool := false

/-- `CONFIG_RPMSG_LOCAL_CPUNAME` and `CONFIG_NET_RPMSG`. -/
structure UvConfig where
  localCpu : String
  netRpmsg : Bool

/-- The outcomes of the library calls in one step: whether a writing, a request and a pipe can be allocated, and what
libuv returns. -/
structure Outcome where
  writing : Bool := true
  req : Bool := true
  pipe : Bool := true
  bind : Int := 0
  listen : Int := 0
  write : Int := 0
  accept : Int := 0
  shutdown : Int := 0

def UvFrame.isUser : UvFrame → Bool
  | .user _ => true
  | _ => false

def UvFrame.isConnect : UvFrame → Bool
  | .user (.onConnect _) => true
  | _ => false

def UvFrame.isListen : UvFrame → Bool
  | .user (.onListen _) => true
  | _ => false

/-! ### What happens to writings -/

namespace Writings

variable (q : Writings) (w : MediaWritePriv)

/-- `media_uv_send` has given the writing to the proxy and returns `ret`. -/
def accept (ret : Int) : Writings :=
  if 0 ≤ ret then { q with accepted := q.accepted ++ [w] } else q

def pend : Writings := { q with pendq := q.pendq ++ [w] }

/-- `media_uv_send_writing` before `uv_write`. -/
def hand : Writings :=
  if w.code = MEDIA_PARCEL_SEND_ACK then { q with sentq := q.sentq ++ [w], handed := q.handed ++ [w] }
  else { q with responsed := w.id :: q.responsed, handed := q.handed ++ [w] }

/-- `on_receive` is called without a parcel. -/
def cancel : Writings :=
  { q with sentq := q.sentq.erase w, answers := q.answers ++ [(w, none)] }

/-- `on_receive` of the head of `sentq` is called with a parcel. -/
def answer (parcel : Nat) : Writings :=
  { q with sentq := q.sentq.tail, answers := q.answers ++ [(w, some parcel)], replies := q.replies ++ [parcel] }

def setWritten : Writings := { q with written := w.id :: q.written }

def setResponsed : Writings := { q with responsed := w.id :: q.responsed }

/-- `media_uv_send_writing`, where `uv_write` returns `ret` and takes the writing unless that is negative. -/
def write (ret : Int) : Writings :=
  if ret < 0 then
    if w.code = MEDIA_PARCEL_SEND_ACK then (q.hand w).cancel w else (q.hand w).setWritten w
  else q.hand w

/-- `media_uv_clear_queue`. -/
def clear : Writings :=
  let ids := (q.sentq ++ q.pendq).map MediaWritePriv.id
  { q with sentq := [], pendq := [], written := ids ++ q.written, responsed := ids ++ q.responsed }

/-- `media_uv_free_writing` has freed the writing. -/
def isFreed : Bool := decide (w.id ∈ q.written ∧ w.id ∈ q.responsed)

end Writings

/-! ### The functions of the proxy -/

namespace MediaProxyPriv

variable (s : MediaProxyPriv)

def push (frames : List UvFrame) : MediaProxyPriv := { s with stack := frames ++ s.stack }

def crash (fault : UvFault) : MediaProxyPriv := { s with fault := some fault }

def modifyPipe (pipe : Nat) (f : MediaPipePriv → MediaPipePriv) : MediaProxyPriv :=
  { s with pipes := s.pipes.modify pipe f }

/-- The user may call the proxy: a callback is running, or none of the proxy's code. -/
def userRuns : Bool := s.stack.head?.all UvFrame.isUser

end MediaProxyPriv

def mediaUvAllocWriting (s : MediaProxyPriv) (code : Nat) : MediaWritePriv × MediaProxyPriv :=
  (⟨s.writings.nextId, code, s.stack.any UvFrame.isConnect, s.stack.any UvFrame.isListen⟩,
    { s with writings := { s.writings with nextId := s.writings.nextId + 1 } })

/-- The pipe of `media_uv_alloc_pipe`. -/
def mediaUvAllocPipe : MediaPipePriv := {}

def mediaUvClearQueue (s : MediaProxyPriv) : MediaProxyPriv := { s with writings := s.writings.clear }

def mediaUvFreeProxy (s : MediaProxyPriv) : MediaProxyPriv :=
  if s.cpipe.isSome || s.epipe.isSome then s
  else if s.flags.disconnect then
    let s := { mediaUvClearQueue s with released := true }
    if s.onRelease then s.push [.user .onRelease, .freeProxy] else s.push [.freeProxy]
  else s

def mediaUvClose (s : MediaProxyPriv) (pipe : Nat) : MediaProxyPriv :=
  s.modifyPipe pipe fun p => { p with reading := false, closing := true }

def mediaUvCloseCb (s : MediaProxyPriv) (pipe : Nat) : MediaProxyPriv :=
  let s := s.modifyPipe pipe fun p => { p with closed := true }
  if s.cpipe = some pipe then mediaUvFreeProxy { s with cpipe := none }
  else if s.epipe = some pipe then mediaUvFreeProxy { s with epipe := none }
  else mediaUvFreeProxy s

/-- `media_uv_shutdown` on the command pipe. -/
def mediaUvShutdown (s : MediaProxyPriv) (o : Outcome) : MediaProxyPriv :=
  match s.cpipe with
  | none => s.crash .nullPipe
  | some pipe =>
    if !o.req then s
    else if o.shutdown < 0 then mediaUvClose s pipe
    else s.modifyPipe pipe fun p => { p with shutting := true }

def mediaUvConnectOne (c : UvConfig) (s : MediaProxyPriv) (o : Outcome) : Int × MediaProxyPriv :=
  if !o.req then (-ENOMEM, s)
  else if !o.pipe then (-ENOMEM, { s with cpipe := none })
  else
    let pipe := s.pipes.length
    let s := { s with
      cpipe := some pipe
      pipes := s.pipes ++ [mediaUvAllocPipe]
      flags := { s.flags with connecting := true } }
    match s.cpu with
    | none => (0, s.crash .nullCpu)
    | some cpu =>
      if cpu = c.localCpu ∨ c.netRpmsg then (0, s.modifyPipe pipe fun p => { p with connecting := true })
      else (-ENOSYS, mediaUvClose s pipe)

/-- `if (proxy->cpipe) media_uv_close(proxy->cpipe)`. -/
def closeCpipe (s : MediaProxyPriv) : MediaProxyPriv :=
  match s.cpipe with
  | some pipe => mediaUvClose s pipe
  | none => s

def mediaUvReconnectOne (c : UvConfig) (s : MediaProxyPriv) (o : Outcome) : MediaProxyPriv :=
  match s.cpus with
  | [] =>
    let s := { mediaUvClearQueue s with cpu := none, exhausted := true }
    s.push [.user (.onConnect (-ENOENT))]
  | cpu :: cpus =>
    let r := mediaUvConnectOne c (closeCpipe { s with cpu := some cpu, cpus }) o
    if r.1 < 0 then r.2.push [.user (.onConnect r.1)] else r.2

def mediaUvConnectOneCb (s : MediaProxyPriv) (pipe : Nat) (status : Int) : MediaProxyPriv :=
  let s := s.modifyPipe pipe fun p => { p with connecting := false }
  let status := if 0 ≤ status ∧ s.flags.disconnect then -ECANCELED else status
  if status < 0 then s.push [.user (.onConnect status), .close pipe]
  else
    let flags := s.flags
    let s := { s with flags := 0 }
    let s := s.modifyPipe pipe fun p => { p with reading := !p.closing }
    s.push [.user (.onConnect status), .restoreFlags flags]

/-- `media_uv_write_cb`; what follows `on_receive` is the continuation `writeCb`. -/
def mediaUvWriteCb (s : MediaProxyPriv) (writing : MediaWritePriv) (status : Int) : MediaProxyPriv :=
  if s.writings.isFreed writing then s.crash .useAfterFree
  else if status < 0 ∧ writing.code = MEDIA_PARCEL_SEND_ACK then
    let s := { s with writings := s.writings.cancel writing }
    s.push [.user (.onReceive writing none), .writeCb writing]
  else { s with writings := s.writings.setWritten writing }

/-- `media_uv_send_writing`, where `uv_write` returns `ret`. -/
def mediaUvSendWriting (s : MediaProxyPriv) (writing : MediaWritePriv) (ret : Int) : MediaProxyPriv :=
  match s.cpipe with
  | none => s.crash .nullPipe
  | some pipe =>
    let s := { s with writings := s.writings.hand writing }
    if ret < 0 then mediaUvWriteCb s writing ret
    else s.modifyPipe pipe fun p => { p with writes := p.writes ++ [writing], sent := p.sent ++ [writing] }

/-- One turn of the loop of `media_uv_delivery_writing`, which has looked up the writing after this one before it
sends this one. -/
def mediaUvDeliveryLoop (s : MediaProxyPriv) (writing : MediaWritePriv) (o : Outcome) : MediaProxyPriv :=
  if writing ∈ s.writings.pendq then
    let tmp := (s.writings.pendq.dropWhile (· ≠ writing)).tail.head?
    let s := { s with writings := { s.writings with pendq := s.writings.pendq.erase writing } }
    mediaUvSendWriting (s.push [.deliveryLoop tmp]) writing o.write
  else s.crash .useAfterFree

def mediaUvQueueWriting (s : MediaProxyPriv) (writing : MediaWritePriv) (o : Outcome) : Int × MediaProxyPriv :=
  if s.flags = 0 then
    (o.write, mediaUvSendWriting { s with writings := s.writings.accept writing o.write } writing o.write)
  else (0, { s with writings := (s.writings.accept writing 0).pend writing })

/-- `media_uv_create_notify` on the command pipe. -/
def mediaUvCreateNotify (s : MediaProxyPriv) (o : Outcome) : Int × MediaProxyPriv :=
  if !o.writing then (-ENOMEM, s)
  else
    let r := mediaUvAllocWriting s MEDIA_PARCEL_CREATE_NOTIFY
    (o.write, mediaUvSendWriting r.2 r.1 o.write)

/-- `if (proxy->on_listen) proxy->on_listen(proxy->cookie, ret)`, before `frames`. -/
def callOnListen (s : MediaProxyPriv) (ret : Int) (frames : List UvFrame) : MediaProxyPriv :=
  if s.onListen then s.push (.user (.onListen ret) :: frames) else s.push frames

/-- What binding the server pipe returns, to a local address or to one of another cpu. -/
def bindServer (c : UvConfig) (cpu : String) (o : Outcome) : Int :=
  if cpu = c.localCpu ∨ c.netRpmsg then o.bind else -ENOSYS

def mediaUvListenOne (c : UvConfig) (s : MediaProxyPriv) (o : Outcome) : Int × MediaProxyPriv :=
  if !o.pipe then (-ENOMEM, callOnListen { s with epipe := none } (-ENOMEM) [])
  else
    let pipe := s.pipes.length
    let s := { s with epipe := some pipe, pipes := s.pipes ++ [mediaUvAllocPipe] }
    match s.cpu with
    | none => (0, s.crash .nullCpu)
    | some cpu =>
      if bindServer c cpu o < 0 then
        (bindServer c cpu o, callOnListen (mediaUvClose s pipe) (bindServer c cpu o) [])
      else if o.listen < 0 then (o.listen, callOnListen (mediaUvClose s pipe) o.listen [])
      else
        let r := mediaUvCreateNotify (s.modifyPipe pipe fun p => { p with listening := true }) o
        if r.1 < 0 then (r.1, callOnListen (mediaUvClose r.2 pipe) r.1 [])
        else (r.1, { r.2 with flags := { r.2.flags with listening := true } })

/-- Whether `media_uv_listen_one_cb` takes the way of an error. -/
def ListenFails (s : MediaProxyPriv) (status : Int) (o : Outcome) : Prop :=
  status < 0 ∨ s.flags.disconnect = true ∨ o.pipe = false ∨ o.accept < 0

instance (s : MediaProxyPriv) (status : Int) (o : Outcome) : Decidable (ListenFails s status o) :=
  inferInstanceAs (Decidable (_ ∨ _ ∨ _ ∨ _))

def mediaUvListenOneCb (s : MediaProxyPriv) (server : Nat) (status : Int) (o : Outcome) : MediaProxyPriv :=
  let s := { s with flags := { s.flags with listening := false } }
  if status < 0 then callOnListen (mediaUvClose s server) status []
  else if s.flags.disconnect then callOnListen (mediaUvClose s server) (-ECANCELED) []
  else if !o.pipe then callOnListen (mediaUvClose { s with epipe := none } server) status []
  else
    let pipe := s.pipes.length
    let s := { s with epipe := some pipe, pipes := s.pipes ++ [mediaUvAllocPipe] }
    if o.accept < 0 then callOnListen (mediaUvClose (mediaUvClose s pipe) server) o.accept []
    else callOnListen (mediaUvClose s server) o.accept [.deliveryWriting, .readStart]

/-- `media_uv_handle_parcel`; what follows `on_receive` is the continuation `handleParcel`. -/
def mediaUvHandleParcel (s : MediaProxyPriv) (pipe : Nat) (parcel : Nat) : MediaProxyPriv :=
  if s.epipe = some pipe then s.push [.user (.onEvent parcel)]
  else
    match s.writings.sentq with
    | [] => { s with aborted := true }
    | writing :: _ =>
      let s := { s with writings := s.writings.answer writing parcel }
      s.push [.user (.onReceive writing (some parcel)), .handleParcel writing pipe]

/-! ### The functions for users -/

def mediaUvConnect (c : UvConfig) (cpu : String) (cpus : List String) (o : Outcome) : MediaProxyPriv :=
  (mediaUvConnectOne c { cpu := some cpu, cpus } o).2

def mediaUvDisconnect (s : MediaProxyPriv) (onRelease : Bool) (o : Outcome) : Int × MediaProxyPriv :=
  if s.flags.disconnect then (-EINVAL, s)
  else
    let s := { s with onRelease }
    let s := if s.flags = 0 then mediaUvShutdown s o else s
    (0, mediaUvFreeProxy { s with flags := { s.flags with disconnect := true } })

def mediaUvReconnect (c : UvConfig) (s : MediaProxyPriv) (o : Outcome) : Int × MediaProxyPriv :=
  if s.epipe.isSome then (-EINVAL, s)
  else if s.flags = 0 then (0, mediaUvReconnectOne c s o)
  else (0, { s with flags := { s.flags with reconnect := true } })

/-- `media_uv_listen` with an `on_event`, which it demands. -/
def mediaUvListen (c : UvConfig) (s : MediaProxyPriv) (onListen : Bool) (o : Outcome) : Int × MediaProxyPriv :=
  if s.flags.listening || s.epipe.isSome then (-EPERM, s)
  else
    let s := { s with onListen }
    if s.flags = 0 then mediaUvListenOne c s o
    else (0, { s with flags := { s.flags with listening := true } })

/-- The code of a message, where `ack` says that `on_receive` and `cookie0` are not null. -/
def sendCode (ack : Bool) : Nat :=
  if ack then MEDIA_PARCEL_SEND_ACK else MEDIA_PARCEL_SEND

def mediaUvSend (s : MediaProxyPriv) (ack : Bool) (o : Outcome) : Int × MediaProxyPriv :=
  if s.cpu = none then (-ECANCELED, s)
  else if s.flags.disconnect then (-EPERM, s)
  else if !o.writing then (-ENOMEM, s)
  else
    let r := mediaUvAllocWriting s (sendCode ack)
    mediaUvQueueWriting r.2 r.1 o

/-! ### Runs -/

/-- The continuation reads or writes the proxy. -/
def UvFrame.touchesProxy : UvFrame → Bool
  | .user _ | .writeCb _ | .close _ => false
  | _ => true

/-- Run a continuation that was taken off the stack. -/
def runFrame (c : UvConfig) (s : MediaProxyPriv) (o : Outcome) : UvFrame → MediaProxyPriv
  | .user _ => s
  | .writeCb writing => { s with writings := (s.writings.setResponsed writing).setWritten writing }
  | .handleParcel writing pipe =>
    let s := { s with writings := s.writings.setResponsed writing }
    if s.flags.connecting then
      let s := { s with flags := { s.flags with connecting := false } }
      let s := s.push [.applyWritings pipe]
      if s.flags = { listening := true } then (mediaUvListenOne c s o).2 else s
    else s
  | .applyWritings pipe =>
    if !s.flags.listening && !s.flags.reconnect then s.push [.deliveryWriting, .applyQuit pipe]
    else s.push [.applyQuit pipe]
  | .applyQuit pipe =>
    if s.flags.disconnect then s.push [.deliveryWriting, .close pipe]
    else if s.flags.reconnect then
      let s := { s with flags := { s.flags with reconnect := false } }
      mediaUvReconnectOne c (s.push [.close pipe]) o
    else s
  | .deliveryWriting => s.push [.deliveryLoop s.writings.pendq.head?]
  | .deliveryLoop none => s
  | .deliveryLoop (some writing) => mediaUvDeliveryLoop s writing o
  | .close pipe => mediaUvClose s pipe
  | .restoreFlags flags => { s with flags := s.flags ||| flags }
  | .readStart =>
    match s.epipe with
    | none => s.crash .nullPipe
    | some pipe => s.modifyPipe pipe fun p => { p with reading := !p.closing }
  | .freeProxy => { s with freed := true }

/-- The user calls the proxy, the code on the stack goes on, or libuv calls the proxy. -/
inductive UvInput
  | send (ack : Bool)
  | listen (onListen : Bool)
  | reconnect
  | disconnect (onRelease : Bool)
  | run
  | connectCb (pipe : Nat) (status : Int)
  | writeCb (pipe : Nat) (writing : MediaWritePriv) (status : Int)
  | parcel (pipe : Nat) (parcel : Nat)
  | readErr (pipe : Nat)
  | listenCb (pipe : Nat) (status : Int)
  | shutdownCb (pipe : Nat)
  | closeCb (pipe : Nat)

/-- Whether libuv may make the call on a pipe. -/
def MediaPipePriv.ready (p : MediaPipePriv) : UvInput → Bool
  | .connectCb _ status => p.connecting && (!p.closing || decide (status < 0))
  | .writeCb _ writing _ => decide (writing ∈ p.writes)
  | .parcel _ _ | .readErr _ => p.reading
  | .listenCb _ _ => p.listening && !p.closing
  | .shutdownCb _ => p.shutting && (p.closing || p.writes.isEmpty)
  | .closeCb _ => p.closing && !p.closed && !p.connecting && !p.shutting && p.writes.isEmpty
  | _ => false

/-- Whether an input is possible: the user has not been told that the proxy is gone, and libuv calls back only when
no other callback is running. -/
def UvInput.ready (s : MediaProxyPriv) (i : UvInput) : Bool :=
  match i with
  | .send _ | .listen _ | .reconnect | .disconnect _ => s.userRuns && !s.freed
  | .run => !s.stack.isEmpty
  | .connectCb pipe _ | .writeCb pipe _ _ | .parcel pipe _ | .readErr pipe | .listenCb pipe _ | .shutdownCb pipe
  | .closeCb pipe => s.stack.isEmpty && s.pipes[pipe]?.any (MediaPipePriv.ready · i)

/-- A step, as if nothing could go wrong in it. -/
def uvStep (c : UvConfig) (s : MediaProxyPriv) (o : Outcome) : UvInput → MediaProxyPriv
  | .send ack => (mediaUvSend s ack o).2
  | .listen onListen => (mediaUvListen c s onListen o).2
  | .reconnect => (mediaUvReconnect c s o).2
  | .disconnect onRelease => (mediaUvDisconnect s onRelease o).2
  | .run =>
    match s.stack with
    | [] => s
    | frame :: stack =>
      if s.freed && frame.touchesProxy then s.crash .useAfterFree else runFrame c { s with stack } o frame
  | .connectCb pipe status => mediaUvConnectOneCb s pipe status
  | .writeCb pipe writing status =>
    mediaUvWriteCb (s.modifyPipe pipe fun p => { p with writes := p.writes.erase writing }) writing status
  | .parcel pipe parcel => mediaUvHandleParcel s pipe parcel
  | .readErr pipe => mediaUvClose s pipe
  | .listenCb pipe status => mediaUvListenOneCb s pipe status o
  | .shutdownCb pipe => mediaUvClose (s.modifyPipe pipe fun p => { p with shutting := false }) pipe
  | .closeCb pipe => mediaUvCloseCb s pipe

/-- libuv calls a proxy that was freed. -/
def UvInput.callsFreed (s : MediaProxyPriv) : UvInput → Bool
  | .run => false
  | _ => s.freed

/-- A step.  Where it goes wrong, the run ends with the fault and nothing else of the step counts; it also ends when
the assertion has failed. -/
def uvNext (c : UvConfig) (s : MediaProxyPriv) (i : UvInput × Outcome) : Option MediaProxyPriv :=
  if s.fault.isNone && !s.aborted && i.1.ready s then
    if i.1.callsFreed s then some (s.crash .useAfterFree)
    else
      match (uvStep c s i.2 i.1).fault with
      | none => some (uvStep c s i.2 i.1)
      | some fault => some (s.crash fault)
  else none

/-- A proxy made by `media_uv_connect`, whose first connection has been started. -/
def uvMachine (c : UvConfig) (cpu : String) (cpus : List String) : Machine MediaProxyPriv (UvInput × Outcome) where
  start := mediaUvConnect c cpu cpus {}
  next := uvNext c

/-- The cases of a step: either it goes wrong, or it is the step of the code. -/
theorem uvNext_cases {c : UvConfig} {s s' : MediaProxyPriv} {i : UvInput} {o : Outcome}
    (h : uvNext c s (i, o) = some s') :
    i.ready s = true ∧ ((∃ fault, s' = s.crash fault) ∨ s' = uvStep c s o i ∧ (uvStep c s o i).fault = none) := by
  unfold uvNext at h
  split at h
  · rename_i hready
    simp only [Bool.and_eq_true] at hready
    refine ⟨hready.2, ?_⟩
    split at h
    · cases h
      exact .inl ⟨_, rfl⟩
    · split at h
      · rename_i hfault
        cases h
        exact .inr ⟨rfl, hfault⟩
      · cases h
        exact .inl ⟨_, rfl⟩
  · cases h

end MediaFramework
