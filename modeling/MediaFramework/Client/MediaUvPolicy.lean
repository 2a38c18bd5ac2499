import MediaFramework.Client.UvAwaits

/-!
# Asynchronous policy requests (`media_uv_policy.c`)

A request has a proxy of its own and a one-shot context `MediaPolicyPriv`.  The callbacks of the proxy are functions of
this file: the first connection sends the request, its answer disconnects the proxy, and the release of the proxy frees
the context.  The user's callback has no handle of the request, so it is told and returns.
-/

namespace MediaFramework

/-! ### The data -/

/-- The context of a request with its proxy.  `connectRet` is `ret` in a `media_uv_policy_connect_cb` that is running,
after its first call of the proxy.  The history: the parcels that `cb` was told of, the frees of the context, a use
after them, and the pipes of the replies. -/
structure MediaPolicyPriv where
  proxy : MediaProxyPriv
  cb : Bool
  connectRet : Option Int := none
  told : List (Option Nat) := []
  frees : Nat := 0
  touched : Bool := false
  replied : List Nat := []

/-- The proxy function that is called leaves the proxy as `r.2`. -/
def MediaPolicyPriv.after (s : MediaPolicyPriv) (r : Int × MediaProxyPriv) : MediaPolicyPriv := { s with proxy := r.2 }

/-- The callback at the top of the stack returns, or makes its last call. -/
def MediaPolicyPriv.pop (s : MediaPolicyPriv) : MediaPolicyPriv :=
  { s with proxy := { s.proxy with stack := s.proxy.stack.tail } }

/-! ### The callbacks of the proxy -/

def mediaUvPolicyReleaseCb (s : MediaPolicyPriv) : MediaPolicyPriv := { s with frees := s.frees + 1 }

/-- `media_uv_policy_connect_cb` up to the first call of the proxy that it makes.  `cookie0` is `cb`, or the context
where `cb` is null, so an answer is asked for. -/
def mediaUvPolicyConnectCb (s : MediaPolicyPriv) (ret : Int) (o : Outcome) : MediaPolicyPriv :=
  if ret = -ENOENT then { s.after (mediaUvDisconnect s.proxy true o) with connectRet := some ret }
  else if 0 ≤ ret then
    { s.after (mediaUvSend s.proxy true o) with connectRet := some (mediaUvSend s.proxy true o).1 }
  else { s with connectRet := some ret }

/-- The rest of `media_uv_policy_connect_cb`. -/
def mediaUvPolicyConnectRest (c : UvConfig) (s : MediaPolicyPriv) (ret : Int) (o : Outcome) : MediaPolicyPriv :=
  let s := { s with connectRet := none }
  if ret < 0 then s.after (mediaUvReconnect c s.proxy o) else s

/-- `media_uv_policy_receive_cb` and its siblings for an int and a string, or without a callback
`media_uv_policy_receive_default_cb`. -/
def mediaUvPolicyReceiveCb (s : MediaPolicyPriv) (parcel : Option Nat) (o : Outcome) : MediaPolicyPriv :=
  let s := if s.cb then { s with told := s.told ++ [parcel] } else s
  s.after (mediaUvDisconnect s.proxy true o)

/-- The callback at the top of the stack runs.  It reads the context. -/
def policyCallback (c : UvConfig) (s : MediaPolicyPriv) (o : Outcome) (callback : UvCallback) : MediaPolicyPriv :=
  let s := { s with touched := s.touched || decide (0 < s.frees) }
  match callback with
  | .onConnect ret =>
    match s.connectRet with
    | none => mediaUvPolicyConnectCb s ret o
    | some ret => mediaUvPolicyConnectRest c s.pop ret o
  | .onReceive _ parcel => mediaUvPolicyReceiveCb s.pop parcel o
  | .onRelease => mediaUvPolicyReleaseCb s.pop
  | .onEvent _ | .onListen _ => s.pop

/-! ### The functions for users -/

/-- `media_uv_policy_set_string` and its siblings, where the cpus are the names in `media_get_cpuname()`; `none` says
that it returns `-ENOMEM`. -/
def mediaUvPolicyRequest (c : UvConfig) (cpus : List String) (cb : Bool) (o : Outcome) : Option MediaPolicyPriv :=
  match cpus with
  | [] => none
  | cpu :: cpus =>
    let r := mediaUvConnectOne c { cpu := some cpu, cpus } o
    if r.1 < 0 then none else some { proxy := r.2, cb }

/-! ### Runs -/

/-- The server answers a request that was written to it and has no answer. -/
def MediaPolicyPriv.owed (s : MediaPolicyPriv) (pipe : Nat) : Bool :=
  s.proxy.pipes[pipe]?.any fun p => s.proxy.writings.sentq.any fun w => decide (w ∈ p.sent ∧ w ∉ p.writes)

/-- A step of the proxy and of libuv. -/
def MediaPolicyPriv.proxyNext (c : UvConfig) (s : MediaPolicyPriv) (i : UvInput × Outcome) : Option MediaPolicyPriv :=
  (uvNext c s.proxy i).map fun proxy => { s with proxy, replied := noteReply s.proxy i.1 s.replied }

/-- A step: a callback of this file runs, or the proxy goes on, or libuv calls it. -/
def policyNext (c : UvConfig) (s : MediaPolicyPriv) (i : UvInput × Outcome) : Option MediaPolicyPriv :=
  match i.1 with
  | .send _ | .listen _ | .reconnect | .disconnect _ => none
  | .run =>
    match s.proxy.stack with
    | .user callback :: _ =>
      if s.proxy.fault.isNone && !s.proxy.aborted then some (policyCallback c s i.2 callback) else none
    | _ => s.proxyNext c i
  | .parcel pipe _ => if s.owed pipe then s.proxyNext c i else none
  | _ => s.proxyNext c i

def policyMachine (c : UvConfig) (start : MediaPolicyPriv) : Machine MediaPolicyPriv (UvInput × Outcome) where
  start := start
  next := policyNext c

end MediaFramework
