import MediaFramework.Client.UvDisconnect

/-!
# Asynchronous focus requests (`media_uv_focus.c`)

A request has a proxy of its own and a context `MediaFocusPriv`, which the last callback of the proxy frees.  Each
callback of this file tells the user something or calls the proxy once.  The user may call `media_uv_focus_abandon` in
what is told, and whenever none of the code runs.
-/

namespace MediaFramework

/-! ### The callbacks -/

/-- The command of a request, by `cookie0` of its `on_receive`. -/
inductive FocusCmd
  | ping
  | request
  | abandon
  deriving DecidableEq

/-- What a callback does. -/
inductive FocusAction
  | suggest
  | send (cmd : FocusCmd)
  | reconnect
  | listen
  | disconnect
  | release
  deriving DecidableEq

/-- The call of the proxy.  All requests want an answer. -/
def FocusAction.call : FocusAction → Option UvInput
  | .suggest | .release => none
  | .send _ => some (.send true)
  | .reconnect => some .reconnect
  | .listen => some (.listen true)
  | .disconnect => some (.disconnect true)

def mediaUvFocusConnectCb (ret : Int) : FocusAction := if ret < 0 then .suggest else .send .ping

def mediaUvFocusPingCb (ret : Int) : FocusAction := if ret < 0 then .reconnect else .listen

def mediaUvFocusListenCb (ret : Int) : FocusAction := if ret < 0 then .suggest else .send .request

def mediaUvFocusRequestCb : FocusAction := .suggest

def mediaUvFocusAbandonCb : FocusAction := .disconnect

def mediaUvFocusEventCb : FocusAction := .suggest

/-- `media_uv_focus_release_cb`, which calls `on_abandon`; it frees the context when that returns. -/
def mediaUvFocusReleaseCb : FocusAction := .release

/-- `media_uv_focus_receive_cb`, where `result` is what it reads from a parcel. -/
def mediaUvFocusReceiveCb (cmd : FocusCmd) (parcel : Option Nat) (result : Int) : FocusAction :=
  match cmd with
  | .ping => mediaUvFocusPingCb (if parcel.isSome then result else -ECANCELED)
  | .request => mediaUvFocusRequestCb
  | .abandon => mediaUvFocusAbandonCb

/-! ### The data -/

/-- A context with its proxy, and the requests and "abandon"s among its messages.  `begun` of the callbacks on the
stack have begun.  The history: whether the user has the context, whether a `media_uv_focus_abandon` has succeeded, the
calls of `on_abandon`, the frees of the context, and a callback after them. -/
structure MediaFocusPriv where
  proxy : MediaProxyPriv
  record : ReleaseRecord := {}
  onAbandon : Bool := false
  requests : List Nat := []
  abandons : List Nat := []
  begun : Nat := 0
  handle : Bool
  abandoned : Bool := false
  told : Nat := 0
  frees : Nat := 0
  touched : Bool := false

namespace MediaFocusPriv

variable (s : MediaFocusPriv)

/-- A callback was called that has not begun. -/
def waiting : Bool := s.begun < s.proxy.stack.countP UvFrame.isUser

def cmd (w : MediaWritePriv) : FocusCmd :=
  if w.id ∈ s.abandons then .abandon else if w.id ∈ s.requests then .request else .ping

/-- The callbacks that the proxy was given. -/
def action (result : Int) : UvCallback → FocusAction
  | .onConnect ret => mediaUvFocusConnectCb ret
  | .onReceive w parcel => mediaUvFocusReceiveCb (s.cmd w) parcel result
  | .onEvent _ => mediaUvFocusEventCb
  | .onListen ret => mediaUvFocusListenCb ret
  | .onRelease => mediaUvFocusReleaseCb

/-- The user's code runs in the callback. -/
def tells (callback : UvCallback) : Bool :=
  match s.action 0 callback with
  | .suggest => true
  | .release => s.onAbandon
  | _ => false

/-- The user may call `media_uv_focus_abandon`. -/
def userRuns : Bool :=
  !s.waiting && match s.proxy.stack with
    | [] => true
    | .user callback :: _ => s.tells callback
    | _ => false

/-- The callback at the top of the stack, if it has not begun. -/
def begins (result : Int) : Option FocusAction :=
  match s.proxy.stack with
  | .user callback :: _ =>
    if s.waiting && s.proxy.fault.isNone && !s.proxy.aborted then some (s.action result callback) else none
  | _ => none

/-- A step of the proxy and of libuv. -/
def proxyNext (c : UvConfig) (i : UvInput × Outcome) : Option MediaFocusPriv :=
  (uvNext c s.proxy i).map fun proxy => { s with proxy, record := s.record.note s.proxy i proxy }

/-- The message that a step has made. -/
def made (t : MediaFocusPriv) : List Nat :=
  if s.proxy.writings.nextId < t.proxy.writings.nextId then [s.proxy.writings.nextId] else []

/-- The callback begins: it reads the context. -/
def begin (action : FocusAction) : MediaFocusPriv :=
  { s with
    begun := s.begun + 1
    touched := s.touched || decide (0 < s.frees)
    told := if action = .release ∧ s.onAbandon = true then s.told + 1 else s.told }

/-- The callback does what it does. -/
def act (c : UvConfig) (action : FocusAction) (o : Outcome) : Option MediaFocusPriv :=
  match action.call with
  | none => some (s.begin action)
  | some call => ((s.begin action).proxyNext c (call, o)).map fun t =>
      if action = .send .request then { t with requests := s.made t ++ t.requests } else t

/-- The callback returns. -/
def returns (c : UvConfig) (callback : UvCallback) (o : Outcome) : Option MediaFocusPriv :=
  (s.proxyNext c (.run, o)).map fun t => { t with
    begun := s.begun - 1
    frees := if callback = .onRelease then s.frees + 1 else s.frees }

end MediaFocusPriv

/-! ### The functions for users -/

/-- What `media_uv_focus_request` is given, and whether there is memory for the context and for the proxy. -/
structure FocusArgs where
  loop : Bool := true
  name : String
  onSuggest : Bool := true
  cookie : Bool := true
  cpus : List String
  alloc : Bool := true
  proxyAlloc : Bool := true

/-- `media_uv_connect` returns a proxy. -/
def FocusArgs.connects (c : UvConfig) (a : FocusArgs) : Bool :=
  a.loop && a.proxyAlloc && match a.cpus with
    | [] => false
    | cpu :: cpus => 0 ≤ (mediaUvConnectOne c { cpu := some cpu, cpus } {}).1

/-- The context is made, so `media_uv_connect` is called. -/
def FocusArgs.allocates (a : FocusArgs) : Bool := a.name ≠ "" && a.onSuggest && a.alloc

/-- Whether `media_uv_focus_request` returns the context; otherwise it has freed it. -/
def mediaUvFocusRequest (a : FocusArgs) : Bool := if a.allocates then a.cookie else false

/-- `media_uv_focus_abandon` of a context. -/
def mediaUvFocusAbandon (c : UvConfig) (s : MediaFocusPriv) (onAbandon : Bool) (o : Outcome) : Option MediaFocusPriv :=
  (s.proxyNext c (.send true, o)).map fun t => { t with
    onAbandon
    abandons := s.made t ++ t.abandons
    abandoned := s.abandoned || decide (0 ≤ (mediaUvSend s.proxy true o).1) }

/-! ### Runs -/

/-- A callback begins, where `result` is what it reads from a parcel; or the user calls; or the code of the proxy or
libuv goes on, or a callback returns. -/
inductive UvFocusInput
  | call (result : Int)
  | abandon (onAbandon : Bool)
  | uv (i : UvInput)

def UvInput.isCall : UvInput → Bool
  | .send _ | .listen _ | .reconnect | .disconnect _ => true
  | _ => false

def uvFocusNext (c : UvConfig) (s : MediaFocusPriv) (i : UvFocusInput × Outcome) : Option MediaFocusPriv :=
  match i.1 with
  | .call result => (s.begins result).bind fun action => s.act c action i.2
  | .abandon onAbandon => if s.handle && s.userRuns then mediaUvFocusAbandon c s onAbandon i.2 else none
  | .uv j =>
    if j.isCall || s.waiting then none
    else
      match j, s.proxy.stack with
      | .run, .user callback :: _ => s.returns c callback i.2
      | _, _ => s.proxyNext c (j, i.2)

/-- The runs of a request, where the proxy is there when a connection was started. -/
def uvFocusMachine (c : UvConfig) (a : FocusArgs) : Machine MediaFocusPriv (UvFocusInput × Outcome) where
  start := {
    proxy := mediaUvConnect c (a.cpus.headD "") a.cpus.tail {}
    handle := mediaUvFocusRequest a
    frees := (a.allocates && !a.cookie).toNat }
  next s i := if a.allocates && a.connects c then uvFocusNext c s i else none

end MediaFramework
