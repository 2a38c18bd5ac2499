import Mathlib.Data.List.Basic
import MediaFramework.Errno
import MediaFramework.Library.Machine
import MediaFramework.Focus.MediaFocus

/-!
# Asynchronous players and recorders (`media_uv_graph.c`)

A stream has a proxy, listeners for data pipes, a focus and a query of metadata.  It is freed when the proxy is
released, the listeners are closed and the query is answered.  Its code calls the user, who may call the stream again,
so the code that is still to run when a callback of the user returns is kept on a stack of frames, as in the model of
the proxy.

Of the proxy there is what its code does to the stream: whether it has a pipe, whether it is being disconnected, and
the calls of its callbacks.  What it returns, and when libuv, the proxy, the policy and the focus call, are inputs;
they allow more runs than the proxy has.
-/

namespace MediaFramework

/-! ### The data -/

/-- The bits `MEDIA_METAFLAG_*` that a query asks for. -/
inductive QueryField
  | state
  | volume
  | duration
  | position
  deriving DecidableEq

/-- A listener for a data pipe, and whether `uv_close` was called on it. -/
structure MediaListenPriv where
  closing : Bool := false
  deriving DecidableEq

/-- The pointers of a stream that are not null.  `query` is `query->expected`, and `focus` is a focus whose `stream` is
this one. -/
structure MediaStreamPriv where
  proxy : Bool
  onOpen : Bool
  onClose : Bool := false
  pipe : Bool := false
  listeners : List MediaListenPriv := []
  onConnection : Bool := false
  focus : Bool := false
  query : Option (List QueryField) := none

/-- `query ? query->expected : 0`. -/
def MediaStreamPriv.expected (priv : MediaStreamPriv) : List QueryField := priv.query.getD []

/-- The `on_receive` of a request, with its cookie: `media_uv_stream_open_cb` and `media_uv_stream_close_cb` with the
stream, a callback of the query, or one of the user. -/
inductive StreamReply
  | opened
  | closed
  | queried (field : QueryField)
  | user
  deriving DecidableEq

/-- A continuation: a user callback that is running, or the rest of one of the functions of the stream. -/
inductive StreamFrame
  | user
  | connectSent (ret : Int)
  | closeFailed
  | closePipe
  | connectionTold
  | listenClear
  | abandonFocus
  | sendCommand (cb : Bool)
  | query (rest : List QueryField)
  | queryComplete
  | freeStream
  deriving DecidableEq

/-- A stream and what is around it: whether the proxy has a pipe and is being disconnected, and how many replies of the
policy are to come.  `closed` says that the user has called close, or has no handle. -/
structure StreamRun where
  player : Bool
  priv : MediaStreamPriv
  pipes : Bool := true
  disconnect : Bool := false
  volumes : Nat := 0
  stack : List StreamFrame := []
  closed : Bool := false
  freed : Bool := false
  touched : Bool := false

/-- What happens to one name of `media_get_cpuname()` in `media_uv_stream_listen_init`. -/
structure ListenOutcome where
  listener : Bool := true
  supported : Bool := true
  ret : Int := 0

/-- The outcomes of the calls in one step.  `canceled` says that `uv_write` fails at once, so that `on_receive` is
called before `media_uv_send` returns; `connectFails` that `media_uv_reconnect` calls `on_connect` before it returns;
and `pipes` whether the proxy then has a pipe. -/
structure StreamOutcome where
  send : Int := 0
  canceled : Bool := false
  connectFails : Bool := false
  pipes : Bool := true
  abandon : Int := 0
  request : Bool := true
  alloc : Bool := true
  volume : Int := 0
  accept : Int := 0
  user : Bool := true
  cpus : List ListenOutcome := []

namespace StreamRun

variable (s : StreamRun)

def push (frames : List StreamFrame) : StreamRun := { s with stack := frames ++ s.stack }

/-- `if (cb) cb(...)`. -/
def call (cb : Bool) : StreamRun := if cb then s.push [.user] else s

/-- The user may call the stream: a callback is running, or none of the stream's code. -/
def userRuns : Bool := s.stack.head?.all (· == .user)

end StreamRun

/-! ### The proxy is opened and closed -/

/-- What follows `on_close` is the frame `freeStream`. -/
def mediaUvStreamRelease (s : StreamRun) : StreamRun :=
  if s.priv.proxy = false ∧ s.priv.listeners = [] ∧ s.priv.expected = [] then
    if s.priv.onClose then s.push [.user, .freeStream] else s.push [.freeStream]
  else s

def mediaUvStreamDisconnectCb (s : StreamRun) : StreamRun :=
  mediaUvStreamRelease { s with priv := { s.priv with proxy := false } }

/-- `media_uv_stream_close_cb`, and with it `media_uv_disconnect`, which releases a proxy without pipes at once. -/
def mediaUvStreamCloseCb (s : StreamRun) : StreamRun :=
  if s.priv.proxy = false ∨ s.disconnect = true then s
  else if s.pipes then { s with disconnect := true }
  else mediaUvStreamDisconnectCb { s with disconnect := true }

/-- `media_uv_stream_open_cb`, and with it `media_uv_reconnect`, which may call `media_uv_stream_connect_cb` with an
error. -/
def mediaUvStreamOpenCb (s : StreamRun) (ret : Int) (o : StreamOutcome) : StreamRun :=
  if ret < 0 then
    if s.priv.proxy then StreamRun.call { s with pipes := o.pipes } (o.connectFails && s.priv.onOpen) else s
  else s.call s.priv.onOpen

/-! ### The metadata is queried -/

/-- What follows `on_query` is the frame `queryComplete`. -/
def mediaUvPlayerQueryComplete (s : StreamRun) : StreamRun :=
  if s.priv.expected = [] then s.push [.user, .queryComplete] else mediaUvStreamRelease s

/-- `media_uv_player_query_state_cb` and its siblings. -/
def mediaUvPlayerQueryCb (s : StreamRun) (field : QueryField) : StreamRun :=
  mediaUvPlayerQueryComplete
    { s with priv := { s.priv with query := s.priv.query.map fun expected => expected.filter (· ≠ field) } }

/-! ### Requests and replies -/

/-- `media_uv_stream_receive_cb` and its siblings. -/
def mediaUvStreamReceive (s : StreamRun) (ret : Int) (o : StreamOutcome) : StreamReply → StreamRun
  | .opened => mediaUvStreamOpenCb s ret o
  | .closed => mediaUvStreamCloseCb s
  | .queried field => mediaUvPlayerQueryCb s field
  | .user => s.push [.user]

/-- What `media_uv_stream_send` returns. -/
def sendRet (s : StreamRun) (o : StreamOutcome) : Int := if s.priv.proxy then o.send else -EINVAL

/-- `media_uv_stream_send`, which is followed by `rest`.  `on_receive` is called at once where `uv_write` fails on the
command pipe. -/
def StreamRun.mediaUvStreamSend (s : StreamRun) (reply : Option StreamReply) (o : StreamOutcome)
    (rest : List StreamFrame) :
    StreamRun :=
  match reply with
  | some reply =>
    if s.priv.proxy = true ∧ s.pipes = true ∧ o.send < 0 ∧ o.canceled = true then
      mediaUvStreamReceive (s.push rest) (-ECANCELED) o reply
    else s.push rest
  | none => s.push rest

def mediaUvStreamConnectCb (s : StreamRun) (ret : Int) (o : StreamOutcome) : StreamRun :=
  if 0 ≤ ret then s.mediaUvStreamSend (some .opened) o [.connectSent (sendRet s o)] else s.call s.priv.onOpen

/-- `media_uv_stream_event_cb`, where `on_event` is told unless the change is to be ignored. -/
def mediaUvStreamEventCb (s : StreamRun) (completed : Bool) (o : StreamOutcome) : StreamRun :=
  (s.call o.user).push (if completed then [.abandonFocus] else [])

/-- `|=` on `query->expected`. -/
def expect (s : StreamRun) (field : QueryField) : StreamRun :=
  { s with priv := { s.priv with query := some (field :: s.priv.expected) } }

/-- One of the four requests of `media_uv_player_query`: the volume is asked of the policy. -/
def mediaUvPlayerQueryOne (s : StreamRun) (field : QueryField) (o : StreamOutcome) (rest : List StreamFrame) :
    StreamRun :=
  if field = .volume then
    if 0 ≤ o.volume then (expect { s with volumes := s.volumes + 1 } field).push rest else s.push rest
  else if 0 ≤ sendRet s o then (expect s field).push rest
  else s.mediaUvStreamSend (some (.queried field)) o rest

/-! ### Data pipes -/

/-- `uv_close` is called on a listener. -/
def MediaListenPriv.close (_ : MediaListenPriv) : MediaListenPriv := { closing := true }

/-- The loop of `media_uv_stream_listen_init` over the names. -/
def listenInitLoop (listeners : List MediaListenPriv) (ret : Int) : List ListenOutcome → Int × List MediaListenPriv
  | [] => (if listeners = [] then ret else 0, listeners)
  | cpu :: cpus =>
    if !cpu.listener then (-ENOMEM, listeners)
    else if !cpu.supported then listenInitLoop ({ closing := true } :: listeners) (-ENOSYS) cpus
    else if cpu.ret < 0 then (cpu.ret, ({} :: listeners).map .close)
    else listenInitLoop ({} :: listeners) cpu.ret cpus

def mediaUvStreamListenInit (s : StreamRun) (o : StreamOutcome) : Int × StreamRun :=
  if s.priv.listeners ≠ [] then (0, s)
  else
    let r := listenInitLoop [] (-ENOENT) o.cpus
    (r.1, { s with priv := { s.priv with listeners := r.2 } })

/-- `media_uv_stream_listen_connection_cb` of the listener `k`; `o.alloc` and `o.accept` are what becomes of the new
pipe. -/
def mediaUvStreamListenConnectionCb (s : StreamRun) (k : Nat) (ret : Int) (o : StreamOutcome) : StreamRun :=
  if ret < 0 ∨ s.priv.pipe = true then
    { s with priv := { s.priv with listeners := s.priv.listeners.modify k .close } }
  else if !o.alloc then { s with priv := { s.priv with listeners := s.priv.listeners.map .close } }
  else if o.accept < 0 then
    StreamRun.push { s with priv := { s.priv with pipe := true } } [.closePipe, .listenClear]
  else
    let listeners := (s.priv.listeners.map .close).modify k fun _ => { closing := false }
    let s := { s with priv := { s.priv with pipe := true, listeners } }
    if s.priv.onConnection then s.push [.user, .connectionTold] else s.push [.closePipe]

def mediaUvStreamListenCloseCb (s : StreamRun) (k : Nat) : StreamRun :=
  mediaUvStreamRelease { s with priv := { s.priv with listeners := s.priv.listeners.eraseIdx k } }

/-! ### Focus suggestions -/

/-- What a suggestion makes a player do, and a recorder, which has no volume.  Only for `MEDIA_FOCUS_PLAY` is a player's
start told to the user. -/
def suggestFrames (player : Bool) (suggest : Int) : List StreamFrame :=
  if suggest = MEDIA_FOCUS_PLAY then if player then [.sendCommand false, .sendCommand true] else [.sendCommand true]
  else if suggest = MEDIA_FOCUS_PLAY_BUT_SILENT ∨ suggest = MEDIA_FOCUS_PLAY_WITH_DUCK then
    if player then [.sendCommand false, .sendCommand false] else [.sendCommand true]
  else if suggest = MEDIA_FOCUS_STOP then [.closePipe, .abandonFocus, .sendCommand false]
  else if suggest = MEDIA_FOCUS_PAUSE then [.sendCommand false]
  else []

/-- `media_uv_player_suggest_cb` and `media_uv_recorder_suggest_cb`; at the end `on_play` may be told. -/
def mediaUvStreamSuggestCb (s : StreamRun) (suggest : Int) (o : StreamOutcome) : StreamRun :=
  (s.call o.user).push (suggestFrames s.player suggest)

/-! ### The rest of a function -/

def runStreamFrame (s : StreamRun) (o : StreamOutcome) : StreamFrame → StreamRun
  | .user => s
  | .connectSent ret => s.call (decide (ret < 0) && s.priv.onOpen)
  | .closeFailed => mediaUvStreamCloseCb s
  | .closePipe =>
    let t := { s with priv := { s.priv with pipe := false } }
    if s.priv.onConnection then t.push [.user, .connectionTold] else t
  | .connectionTold => { s with priv := { s.priv with onConnection := false } }
  | .listenClear => { s with priv := { s.priv with listeners := s.priv.listeners.map .close } }
  | .abandonFocus => if 0 ≤ o.abandon then { s with priv := { s.priv with focus := false } } else s
  | .sendCommand cb => s.mediaUvStreamSend (if cb then some .user else none) o []
  | .query [] => s
  | .query (field :: rest) => mediaUvPlayerQueryOne s field o [.query rest]
  | .queryComplete => mediaUvStreamRelease s
  | .freeStream => { s with freed := true }

/-! ### The functions for users -/

/-- `media_uv_player_open` and `media_uv_recorder_open`, where `media_uv_connect` gives a proxy if `connected`. -/
def mediaUvStreamOpen (player onOpen connected : Bool) : StreamRun :=
  if connected then { player, priv := { proxy := true, onOpen } }
  else mediaUvStreamDisconnectCb { player, priv := { proxy := true, onOpen }, pipes := false, closed := true }

/-- `media_uv_player_close` and `media_uv_recorder_close`. -/
def mediaUvStreamClose (s : StreamRun) (o : StreamOutcome) : StreamRun :=
  let s := { s with closed := true, priv := { s.priv with onClose := o.user } }
  s.mediaUvStreamSend (some .closed) o
    ((if sendRet s o < 0 then [StreamFrame.closeFailed] else []) ++
      [StreamFrame.closePipe, .listenClear, .abandonFocus])

/-- `media_uv_player_listen` and `media_uv_recorder_listen`; `media_uv_listen` may give the proxy an event pipe. -/
def mediaUvStreamListen (s : StreamRun) (o : StreamOutcome) : StreamRun :=
  if sendRet s o < 0 then s else { s with pipes := s.pipes || (s.priv.proxy && o.pipes) }

/-- `media_uv_player_prepare` and `media_uv_recorder_prepare`, with a data pipe or with a url. -/
def mediaUvStreamPrepare (s : StreamRun) (dataPipe options cb : Bool) (o : StreamOutcome) : StreamRun :=
  if dataPipe ∧ s.priv.onConnection = true then s
  else
    let r := if dataPipe then mediaUvStreamListenInit s o else (0, s)
    if r.1 < 0 then r.2
    else
      let s := { r.2 with priv := { r.2.priv with onConnection := r.2.priv.onConnection || dataPipe } }
      if options ∧ sendRet s o < 0 then s else s.push [.sendCommand cb]

/-- `media_uv_player_start_auto` and `media_uv_recorder_start_auto`. -/
def mediaUvStreamStartAuto (s : StreamRun) (cb : Bool) (o : StreamOutcome) : StreamRun :=
  if s.priv.focus then s.push [.sendCommand cb]
  else if o.request then { s with priv := { s.priv with focus := true } }
  else s

def mediaUvPlayerQuery (s : StreamRun) (o : StreamOutcome) : StreamRun :=
  if s.priv.query = none ∧ o.alloc = false then s
  else
    StreamRun.push { s with priv := { s.priv with query := some [] } }
      [.query [.state, .volume, .duration, .position]]

/-! ### Runs -/

/-- What can happen: the rest of the code runs, a callback of the user returns; the proxy, libuv, the policy or the
focus call; the user calls.  `proxyPipes` are steps of the proxy that the stream is not told of; `stop` is also
reset. -/
inductive StreamInput
  | run
  | userReturns
  | connectCb (ret : Int)
  | receive (reply : StreamReply) (ret : Int)
  | eventCb (completed : Bool)
  | releaseCb
  | proxyPipes (pipes : Bool)
  | connectionCb (listener : Nat) (ret : Int)
  | listenCloseCb (listener : Nat)
  | volumeCb
  | suggestCb (suggest : Int)
  | listen
  | prepare (dataPipe options cb : Bool)
  | stop (cb : Bool)
  | pause (cb : Bool)
  | startAuto (cb : Bool)
  | send (cb : Bool)
  | query
  | close
  deriving DecidableEq

/-- The input can come.  The proxy calls while it is there, a listener while it is in the list, the policy while a reply
is to come, the focus while it is attached, and the user until close. -/
def StreamInput.ready (s : StreamRun) : StreamInput → Bool
  | .run => s.stack.head?.any (· != .user)
  | .userReturns => s.stack.head? == some .user
  | .receive .closed _ => s.stack.isEmpty && s.priv.proxy && s.closed
  | .receive (.queried field) _ => s.stack.isEmpty && s.priv.proxy && s.priv.query.isSome && field != .volume
  | .connectCb _ | .receive _ _ | .eventCb _ | .proxyPipes _ => s.stack.isEmpty && s.priv.proxy
  | .releaseCb => s.stack.isEmpty && s.priv.proxy && s.disconnect && !s.pipes
  | .connectionCb k _ => s.stack.isEmpty && s.priv.listeners[k]?.any fun l => !l.closing
  | .listenCloseCb k => s.stack.isEmpty && s.priv.listeners[k]?.any fun l => l.closing
  | .volumeCb => s.stack.isEmpty && decide (0 < s.volumes)
  | .suggestCb _ => s.stack.isEmpty && s.priv.focus
  | .query => s.userRuns && !s.closed && s.player
  | .listen | .prepare .. | .stop _ | .pause _ | .startAuto _ | .send _ | .close => s.userRuns && !s.closed

/-- The code of the step reads or writes the stream. -/
def StreamInput.touches : StreamInput → Bool
  | .userReturns | .proxyPipes _ => false
  | _ => true

def streamStep (s : StreamRun) (o : StreamOutcome) : StreamInput → StreamRun
  | .run =>
    match s.stack with
    | [] => s
    | f :: stack => runStreamFrame { s with stack } o f
  | .userReturns => { s with stack := s.stack.tail }
  | .connectCb ret => mediaUvStreamConnectCb s ret o
  | .receive reply ret => mediaUvStreamReceive s ret o reply
  | .eventCb completed => mediaUvStreamEventCb s completed o
  | .releaseCb => mediaUvStreamDisconnectCb s
  | .proxyPipes pipes => { s with pipes }
  | .connectionCb k ret => mediaUvStreamListenConnectionCb s k ret o
  | .listenCloseCb k => mediaUvStreamListenCloseCb s k
  | .volumeCb => mediaUvPlayerQueryCb { s with volumes := s.volumes - 1 } .volume
  | .suggestCb suggest => mediaUvStreamSuggestCb s suggest o
  | .listen => mediaUvStreamListen s o
  | .prepare dataPipe options cb => mediaUvStreamPrepare s dataPipe options cb o
  | .stop cb => s.push [.closePipe, .abandonFocus, .sendCommand cb]
  | .pause cb => s.push [.abandonFocus, .sendCommand cb]
  | .startAuto cb => mediaUvStreamStartAuto s cb o
  | .send cb => s.push [.sendCommand cb]
  | .query => mediaUvPlayerQuery s o
  | .close => mediaUvStreamClose s o

/-- One step; a step whose code uses the stream after it was freed is marked. -/
def streamNext (s : StreamRun) (i : StreamInput × StreamOutcome) : Option StreamRun :=
  if i.1.ready s then
    some { streamStep s i.2 i.1 with touched := s.touched || (s.freed && i.1.touches) }
  else none

def streamMachine (player onOpen connected : Bool) : Machine StreamRun (StreamInput × StreamOutcome) where
  start := mediaUvStreamOpen player onOpen connected
  next := streamNext

end MediaFramework
