import MediaFramework.Server.MediaStub

/-!
# The requests of the client library

Five files of the client library put requests into parcels, each with formats of its own.  Here they are up to the
point where the parcel is sent.
-/

namespace MediaFramework

variable (w : SizeT)

/-- `media_proxy_once`. -/
def mediaProxyOnce (type : BitVec 32) (target cmd arg : Option CBytes) (apply resLen : BitVec 32) (oks : List Bool) :
    Option (Int × MediaParcel) :=
  if type = MEDIA_ID_FOCUS then
    mediaParcelAppendVprintf w mediaParcelInit "%i%s%s%i".toList [.i type, .s target, .s cmd, .i resLen] oks
  else if type = MEDIA_ID_GRAPH then
    mediaParcelAppendVprintf w mediaParcelInit "%i%s%s%s%i".toList
      [.i type, .s target, .s cmd, .s arg, .i resLen] oks
  else if type = MEDIA_ID_POLICY then
    mediaParcelAppendVprintf w mediaParcelInit "%i%s%s%s%i%i".toList
      [.i type, .s target, .s cmd, .s arg, .i apply, .i resLen] oks
  else if type = MEDIA_ID_PLAYER then
    mediaParcelAppendVprintf w mediaParcelInit "%i%s%s%s%i".toList
      [.i type, .s target, .s cmd, .s arg, .i resLen] oks
  else if type = MEDIA_ID_RECORDER then
    mediaParcelAppendVprintf w mediaParcelInit "%i%s%s%s%i".toList
      [.i type, .s target, .s cmd, .s arg, .i resLen] oks
  else if type = MEDIA_ID_SESSION then
    mediaParcelAppendVprintf w mediaParcelInit "%i%s%s%s%i".toList
      [.i type, .s target, .s cmd, .s arg, .i resLen] oks
  else some (-EINVAL, mediaParcelInit)

/-- `media_uv_stream_send`; `id` is the one of players or of recorders. -/
def mediaUvStreamSend (id : BitVec 32) (target cmd arg : Option CBytes) (resLen : BitVec 32) (oks : List Bool) :
    Option (Int × MediaParcel) :=
  mediaParcelAppendVprintf w mediaParcelInit "%i%s%s%s%i".toList [.i id, .s target, .s cmd, .s arg, .i resLen] oks

/-- `media_uv_session_send`. -/
def mediaUvSessionSend (target cmd arg : Option CBytes) (resLen : BitVec 32) (oks : List Bool) :
    Option (Int × MediaParcel) :=
  mediaParcelAppendVprintf w mediaParcelInit "%i%s%s%s%i".toList
    [.i MEDIA_ID_SESSION, .s target, .s cmd, .s arg, .i resLen] oks

/-- `media_uv_focus_send`. -/
def mediaUvFocusSend (target cmd : Option CBytes) (oks : List Bool) : Option (Int × MediaParcel) :=
  mediaParcelAppendVprintf w mediaParcelInit "%i%s%s%i".toList [.i MEDIA_ID_FOCUS, .s target, .s cmd, .i 0] oks

/-- `media_uv_policy_alloc`. -/
def mediaUvPolicyAlloc (name cmd value : Option CBytes) (apply len : BitVec 32) (oks : List Bool) :
    Option (Int × MediaParcel) :=
  mediaParcelAppendVprintf w mediaParcelInit "%i%s%s%s%i%i".toList
    [.i MEDIA_ID_POLICY, .s name, .s cmd, .s value, .i apply, .i len] oks

/-! ### What a request says -/

inductive ModuleId
  | graph
  | policy
  | player
  | recorder
  | session
  | focus
  deriving DecidableEq

def ModuleId.val : ModuleId → BitVec 32
  | .graph => MEDIA_ID_GRAPH
  | .policy => MEDIA_ID_POLICY
  | .player => MEDIA_ID_PLAYER
  | .recorder => MEDIA_ID_RECORDER
  | .session => MEDIA_ID_SESSION
  | .focus => MEDIA_ID_FOCUS

/-- A call of one of the functions that make requests. -/
inductive MediaRequest
  | once (id : ModuleId) (target cmd arg : Option CBytes) (apply resLen : BitVec 32)
  | player (target cmd arg : Option CBytes) (resLen : BitVec 32)
  | recorder (target cmd arg : Option CBytes) (resLen : BitVec 32)
  | session (target cmd arg : Option CBytes) (resLen : BitVec 32)
  | focus (target cmd : Option CBytes)
  | policy (name cmd value : Option CBytes) (apply len : BitVec 32)

/-- The parcel that is made. -/
def MediaRequest.make (oks : List Bool) : MediaRequest → Option (Int × MediaParcel)
  | .once id target cmd arg apply resLen => mediaProxyOnce w id.val target cmd arg apply resLen oks
  | .player target cmd arg resLen => mediaUvStreamSend w MEDIA_ID_PLAYER target cmd arg resLen oks
  | .recorder target cmd arg resLen => mediaUvStreamSend w MEDIA_ID_RECORDER target cmd arg resLen oks
  | .session target cmd arg resLen => mediaUvSessionSend w target cmd arg resLen oks
  | .focus target cmd => mediaUvFocusSend w target cmd oks
  | .policy name cmd value apply len => mediaUvPolicyAlloc w name cmd value apply len oks

/-- A string as the server gets it: an empty one is NULL. -/
def arrived (str : Option CBytes) : Option (List UInt8) := (str.map Subtype.val).filter fun bs => bs != []

/-- The call of a handler that a request for a module means. -/
def ModuleId.call (target cmd arg : Option CBytes) (apply len : BitVec 32) : ModuleId → StubCall
  | .graph => .graph (arrived target) (arrived cmd) (arrived arg) len
  | .policy => .policy (arrived target) (arrived cmd) (arrived arg) apply len
  | .player => .player (arrived target) (arrived cmd) (arrived arg) len
  | .recorder => .recorder (arrived target) (arrived cmd) (arrived arg) len
  | .session => .session (arrived target) (arrived cmd) (arrived arg) len
  | .focus => .focus (arrived target) (arrived cmd) len

def MediaRequest.call : MediaRequest → StubCall
  | .once id target cmd arg apply resLen => id.call target cmd arg apply resLen
  | .player target cmd arg resLen => ModuleId.player.call target cmd arg 0 resLen
  | .recorder target cmd arg resLen => ModuleId.recorder.call target cmd arg 0 resLen
  | .session target cmd arg resLen => ModuleId.session.call target cmd arg 0 resLen
  | .focus target cmd => ModuleId.focus.call target cmd none 0 0
  | .policy name cmd value apply len => ModuleId.policy.call name cmd value apply len

end MediaFramework
