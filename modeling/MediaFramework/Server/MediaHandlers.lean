import MediaFramework.Focus.MediaFocus
import MediaFramework.Server.MediaGraph
import MediaFramework.Server.MediaServer
import MediaFramework.Server.MediaStub
import MediaFramework.Session.SessionRuns

/-!
# The handlers of the server

The handlers of the policy module (`server/media_policy.c`) and of the focus module (`server/media_focus.c`), and the
call of the handler that a request asks for, as in `media_stub_onreceive`.  A handler may store a word in the
connection it serves, and may finalize a connection; both are in the result of a call.
-/

namespace MediaFramework

/-- The characters of the bytes of a string. -/
def text (bytes : List UInt8) : CString := bytes.map fun b => Char.ofNat b.toNat

/-! ### Policy -/

/-- A subscriber of the policy library, at the address that is the handle. -/
structure PolicySubscriber where
  addr : Nat
  name : Option CString
  cookie : Option Nat
  deriving DecidableEq

structure PolicyResult where
  ret : Int
  policy : List PolicySubscriber
  stored : Option Nat := none
  finalized : Option Nat := none
  response : Option CString := none

/-- The commands that are passed on to the library. -/
def policyCommands : List CString :=
  ["set_int".toList, "increase".toList, "decrease".toList, "set_string".toList, "include".toList, "exclude".toList,
    "contain".toList, "get_int".toList, "get_string".toList, "get_range".toList, "dump".toList]

/-- Those of them that print what they get into the response. -/
def policyPrints : List CString := ["contain".toList, "get_int".toList, "get_range".toList]

/-- `handle` is what `pfw_subscribe` returns, `ret` and `response` are what comes of another call of the library, and
`res` says that there is a buffer for the response.  There is no result where a subscriber that is not there is
unsubscribed (NULL is no subscriber), where the number to be set is NULL, and where the code would print into a buffer
that is not there. -/
def mediaPolicyHandler (handle : Option Nat) (ret : Int) (response : Option CString) (policy : List PolicySubscriber)
    (cookie : Nat) (data : Option Nat) (name cmd value : Option CString) (res : Bool) (len : Nat) :
    Option PolicyResult :=
  match cmd with
  | none => some { ret := -EINVAL, policy }
  | some cmd =>
    if cmd = "ping".toList then some { ret := 0, policy }
    else if cmd = "subscribe".toList then
      match handle with
      | none => some { ret := -EINVAL, policy }
      | some addr => some { ret := 0, policy := ⟨addr, name, some cookie⟩ :: policy, stored := some addr }
    else if cmd = "unsubscribe".toList then
      match data with
      | none => some { ret := 0, policy, finalized := some cookie }
      | some addr =>
        (policy.find? fun p => p.addr == addr).map fun _ =>
          { ret := 0, policy := policy.filter fun p => p.addr != addr, finalized := some cookie }
    else if cmd = "set_int".toList ∧ value = none then none
    else if cmd ∈ policyPrints ∧ 0 ≤ ret ∧ len ≠ 0 ∧ res = false then none
    else if cmd ∈ policyCommands then some { ret, policy, response }
    else some { ret := -ENOSYS, policy }

/-! ### Focus -/

structure FocusHandlerResult where
  ret : Int
  focus : MediaFocus
  now : Nat
  stored : Option Nat := none
  finalized : Option Nat := none
  events : List FocusEvent := []
  response : Option CString := none

/-- All requests are made by the thread of the server, which is alive when it asks. -/
def daemonTid : Nat := 0

def daemonAlive : Nat → Nat → Bool := fun _ _ => true

/-- The handle as it is stored in a connection, and as it is read from there. -/
def focusWord (handle : BitVec 32) : Nat := handle.toNat

def focusHandle (data : Option Nat) : BitVec 32 := BitVec.ofNat 32 (data.getD 0)

/-- `res` says that there is a buffer for the response.  There is no result where the code would use a command that is
NULL, or write to a buffer that is not there. -/
def mediaFocusHandler (focus : MediaFocus) (now cookie : Nat) (data : Option Nat) (name cmd : Option CString)
    (res : Bool) (len : Nat) : Option FocusHandlerResult :=
  cmd.bind fun cmd =>
    if cmd = "ping".toList then some { ret := 0, focus, now }
    else if cmd = "request".toList then
      let r := mediaFocusRequest daemonAlive focus now (name.map String.ofList) (some 0) (some cookie) daemonTid
      match r.handle with
      | none => some { ret := -EPERM, focus := r.focus, now := r.now, events := r.events }
      | some handle =>
        some { ret := r.returnType.getD 0, focus := r.focus, now := r.now, events := r.events
               stored := some (focusWord handle) }
    else if cmd = "abandon".toList then
      let r := mediaFocusAbandon daemonAlive focus now (focusHandle data)
      some { ret := r.ret, focus := r.focus, now := r.now, events := r.events, finalized := some cookie }
    else if cmd = "dump".toList then some { ret := 0, focus, now }
    else if cmd = "peek".toList then
      match appFocusStackTop focus.stack with
      | none => some { ret := -ENOENT, focus, now }
      | some top =>
        let stream := (focus.table.streams.getD top.focusLevel "").toList
        if len ≠ 0 ∧ res = false then none
        else some { ret := stream.length, focus, now, response := some (stream.take (len - 1)) }
    else some { ret := -ENOSYS, focus, now }

/-! ### The server -/

structure MediaServer where
  conns : MediaServerConns
  session : MediaSessionPriv := {}
  focus : MediaFocus
  now : Nat := 0
  graph : MediaGraphPriv := {}
  policy : List PolicySubscriber := []

/-- The objects that clients have in the modules.  An entry of the focus stack is known by its id, the others by
their addresses. -/
inductive ServerObject
  | controller (addr : Nat)
  | controllee (addr : Nat)
  | context (addr : Nat)
  | subscription (addr : Nat)
  | focus (clientId : Int)
  deriving DecidableEq

/-- A call of `media_stub_notify_event` for an object, with its cookie. -/
structure Notice where
  source : ServerObject
  cookie : Option Nat
  event : BitVec 32
  result : BitVec 32
  extra : Option CString
  deriving DecidableEq

/-- What a request meets in the modules; `alloc` is the address of a new object. -/
structure StubOutcomes where
  alloc : Option Nat := none
  response : Bool := true
  stack : MetadataStack := {}
  event : BitVec 32 := 0
  result : BitVec 32 := 0
  graph : GraphOutcomes := {}
  policyRet : Int := 0
  policyResponse : Option CString := none

/-- What a handler does; the entries of the connections are still those from before. -/
structure HandlerResult where
  ret : Int
  server : MediaServer
  stored : Option Nat := none
  finalized : Option Nat := none
  sent : List Notice := []
  response : Option CString := none

def sessionCmd (cmd : CString) : SessionCmd :=
  if cmd = "ping".toList then .ping
  else if cmd = "register".toList then .register
  else if cmd = "unregister".toList then .unregister
  else if cmd = "event".toList then .event
  else if cmd = "update".toList then .update
  else if cmd = "open".toList then .open
  else if cmd = "close".toList then .close
  else if cmd = "set_event".toList then .setEvent
  else if cmd = "query".toList then .query
  else if cmd = "start".toList then .start
  else if cmd = "pause".toList then .pause
  else if cmd = "stop".toList then .stop
  else if cmd = "prev".toList then .prev
  else if cmd = "next".toList then .next
  else if cmd = "volumeup".toList then .volumeup
  else if cmd = "volumedown".toList then .volumedown
  else .other

/-- A notification of the session module: control messages go to a controllee, all others to controllers. -/
def sessionNotice (cmd : SessionCmd) (n : StubNotify) : Notice where
  source := if (mediaSessionCmd2event cmd).isSome then .controllee n.addr else .controller n.addr
  cookie := n.cookie
  event := n.event
  result := n.result
  extra := n.extra

def contextNotice (n : StubNotify) : Notice := ⟨.context n.addr, n.cookie, n.event, n.result, n.extra⟩

/-- `media_focus_notify_cb`. -/
def focusNotice : FocusEvent → Option Notice
  | .suggest holder suggestion => some ⟨.focus holder.clientId, holder.callbackArgv, BitVec.ofInt 32 suggestion, 0, none⟩
  | .noMatchedData => none

/-- There is a buffer for a response. -/
def StubOutcomes.hasRes (out : StubOutcomes) (len : BitVec 32) : Bool := decide (0 < len.toInt) && out.response

/-- The call of the session handler for a connection. -/
def sessionCall (s : MediaServer) (k : Nat) (out : StubOutcomes) (target : Option (List UInt8)) (cmd : List UInt8)
    (arg : Option (List UInt8)) (len : BitVec 32) : SessionCall where
  cookie := k
  data := mediaServerGetData s.conns k
  alloc := out.alloc
  stack := out.stack
  event := out.event
  result := out.result
  target := target.map text
  cmd := sessionCmd (text cmd)
  arg := arg.map text
  res := out.hasRes len
  len := len.toNat

/-- The address for a new context is the one that the other modules would get. -/
def StubOutcomes.graphOutcomes (out : StubOutcomes) : GraphOutcomes := { out.graph with alloc := out.alloc }

def MediaServer.graphResult (s : MediaServer) (r : GraphResult) : HandlerResult where
  ret := r.ret
  server := { s with graph := r.graph }
  stored := r.stored
  finalized := r.finalized
  response := r.response

/-- The handler that a request of the connection `k` asks for. -/
def mediaStubHandle (s : MediaServer) (k : Nat) (out : StubOutcomes) : StubCall → Option HandlerResult
  | .policy target cmd arg _ len =>
    (mediaPolicyHandler out.alloc out.policyRet out.policyResponse s.policy k (mediaServerGetData s.conns k)
      (target.map text) (cmd.map text) (arg.map text) (out.hasRes len) len.toNat).map fun r =>
        { ret := r.ret, server := { s with policy := r.policy }, stored := r.stored, finalized := r.finalized
          response := r.response }
  | .focus target cmd len =>
    (mediaFocusHandler s.focus s.now k (mediaServerGetData s.conns k) (target.map text) (cmd.map text) (out.hasRes len)
      len.toNat).map fun r =>
      { ret := r.ret, server := { s with focus := r.focus, now := r.now }, stored := r.stored, finalized := r.finalized
        sent := r.events.filterMap focusNotice, response := r.response }
  | .graph target cmd arg len =>
    (mediaGraphHandler out.graphOutcomes s.graph (target.map text) (cmd.map text) (arg.map text)
      (out.hasRes len)).map s.graphResult
  | .player target cmd arg len =>
    (mediaCommonHandler out.graphOutcomes s.graph k (mediaServerGetData s.conns k) (target.map text) (cmd.map text)
      (arg.map text) (out.hasRes len) true).map s.graphResult
  | .recorder target cmd arg len =>
    (mediaCommonHandler out.graphOutcomes s.graph k (mediaServerGetData s.conns k) (target.map text) (cmd.map text)
      (arg.map text) (out.hasRes len) false).map s.graphResult
  | .session target cmd arg len =>
    cmd.bind fun cmd =>
      let call := sessionCall s k out target cmd arg len
      (mediaSessionHandler s.session call).map fun r =>
        { ret := r.ret, server := { s with session := r.session }, finalized := r.finalized
          stored := if call.cmd = .register ∨ call.cmd = .open then out.alloc else none
          sent := r.sent.map (sessionNotice call.cmd), response := r.response }

/-- The entries after a handler: what it stored for the connection `k`, and the connection that it finalized. -/
def HandlerResult.conns (r : HandlerResult) (k : Nat) : MediaServerConns :=
  mediaServerFinalize (match r.stored with
    | some data => mediaServerSetData r.server.conns k (some data)
    | none => r.server.conns) r.finalized

end MediaFramework
