import MediaFramework.Client.ProxyOnce
import MediaFramework.Focus.FocusRuns
import MediaFramework.Server.PolicyLibrary

/-!
# What goes from one session client to another

A controller controls the most active controllee, and that one notifies the controllers.  Both go by the server: a
request is read by the stub, the session module finds out whom it is for, and `media_stub_notify_event` makes a parcel
of it that the other client reads.  The number of an event and the result go as text to the server, and as numbers from
there.
-/

namespace MediaFramework

open Scanf (printNum scan)

variable {w : SizeT} {s : MediaServer} {k addr : Nat} {out : StubOutcomes} {event result : BitVec 32}
  {extra : Option CBytes}

/-! ### The requests -/

/-- `snprintf(tmp, sizeof(tmp), "%d:%d", event, result)`. -/
def printEvent (event result : BitVec 32) : CBytes :=
  ⟨bytesOf (printNum event.toInt ++ ':' :: printNum result.toInt),
    ((isPrinted_printNum _).pair (.inr rfl) (isPrinted_printNum _)).no_zero⟩

/-- `snprintf(tmp, sizeof(tmp), "%u", msec)`. -/
def printUnsigned (msec : BitVec 32) : CBytes := ⟨bytesOf (printNum msec.toNat), (isPrinted_printNum _).no_zero⟩

/-- The calls of a session client that send a message and are no question. -/
inductive SessionOp
  | start
  | pause
  | stop
  | nextSong
  | prevSong
  | increaseVolume
  | decreaseVolume
  | seek (msec : BitVec 32)
  | notify (event result : BitVec 32) (extra : Option CBytes)

structure SessionMessage where
  target : Option CBytes := none
  cmd : CBytes
  arg : Option CBytes := none

def SessionOp.message : SessionOp → SessionMessage
  | start => { cmd := ⟨bytesOf "start".toList, by decide⟩ }
  | pause => { cmd := ⟨bytesOf "pause".toList, by decide⟩ }
  | stop => { cmd := ⟨bytesOf "stop".toList, by decide⟩ }
  | nextSong => { cmd := ⟨bytesOf "next".toList, by decide⟩ }
  | prevSong => { cmd := ⟨bytesOf "prev".toList, by decide⟩ }
  | increaseVolume => { cmd := ⟨bytesOf "volumeup".toList, by decide⟩ }
  | decreaseVolume => { cmd := ⟨bytesOf "volumedown".toList, by decide⟩ }
  | seek msec => { cmd := ⟨bytesOf "seek".toList, by decide⟩, arg := some (printUnsigned msec) }
  | notify event result extra =>
    { target := extra, cmd := ⟨bytesOf "event".toList, by decide⟩, arg := some (printEvent event result) }

/-- `media_session_start` and its siblings, or `media_uv_session_start` and its own. -/
def SessionOp.request (uv : Bool) (op : SessionOp) : MediaRequest :=
  if uv then .session op.message.target (some op.message.cmd) op.message.arg 0
  else .once .session op.message.target (some op.message.cmd) op.message.arg 0 0

/-! ### The events -/

/-- A string up to its end. -/
def cStr (str : CString) : CBytes :=
  ⟨(bytesOf str).takeWhile (· != 0), fun h => by simpa using List.mem_takeWhile_imp h⟩

/-- `media_stub_notify_event` up to `media_server_notify`. -/
def mediaStubNotifyEvent (w : SizeT) (n : Notice) (oks : List Bool) : Option (Int × MediaParcel) :=
  mediaParcelAppendVprintf w mediaParcelInit "%i%i%s".toList [.i n.event, .i n.result, .s (n.extra.map cStr)] oks

/-- What a client is told, and the object and the cookie on whose account. -/
structure SessionTold where
  source : ServerObject
  cookie : Option Nat
  event : BitVec 32
  result : BitVec 32
  extra : Option (List UInt8)
  deriving DecidableEq

/-- `media_parcel_read_scanf(msg, "%i%i%s", &event, &result, &extra)` in the client that gets the parcel. -/
def Notice.told (w : SizeT) (n : Notice) : Option SessionTold :=
  (mediaStubNotifyEvent w n []).map fun r =>
    let vals := (mediaParcelReadVscanf w { r.2 with next := 0 } "%i%i%s".toList).2.1
    ⟨n.source, n.cookie, readInt vals 0, readInt vals 1, readStr vals 2⟩

/-- A request of the connection `k`: the result of the handler, the server after it, and what is told to other
clients. -/
def sessionRelay (w : SizeT) (s : MediaServer) (k : Nat) (out : StubOutcomes) (request : MediaParcel) :
    Option (Int × MediaServer × List (Option SessionTold)) :=
  (mediaStubRead w request).1.bind fun call =>
    (mediaStubHandle s k out call).map fun r => (r.ret, { r.server with conns := r.conns k }, r.sent.map (·.told w))

/-! ### What a message is for -/

/-- The event that a controllee gets for a message of a controller. -/
def SessionOp.controlEvent : SessionOp → Option (BitVec 32)
  | start => some MEDIA_EVENT_START
  | pause => some MEDIA_EVENT_PAUSE
  | stop => some MEDIA_EVENT_STOP
  | nextSong => some MEDIA_EVENT_NEXT_SONG
  | prevSong => some MEDIA_EVENT_PREV_SONG
  | increaseVolume => some MEDIA_EVENT_INCREASE_VOLUME
  | decreaseVolume => some MEDIA_EVENT_DECREASE_VOLUME
  | seek _ | notify .. => none

/-- A control message goes to the most active controllee.  What that one notifies goes to all controllers that listen,
and what another one does to nobody. -/
def SessionOp.relayed (session : MediaSessionPriv) (addr : Nat) : SessionOp → Int × List SessionTold
  | notify event result extra =>
    (0, if session.first = some addr then
      (session.controllers.filter MediaControllerPriv.event).map fun c =>
        ⟨.controller c.addr, c.cookie, event, result, arrived extra⟩
      else [])
  | op =>
    match session.controllees, op.controlEvent with
    | [], _ => (-ENOENT, [])
    | _, none => (-ENOSYS, [])
    | c :: _, some event => (0, [⟨.controllee c.addr, c.cookie, event, 0, none⟩])

/-- A connection with a handle makes the call, and it has a controllee if it notifies. -/
def SessionOp.Proper (s : MediaServer) (k addr : Nat) (op : SessionOp) : Prop :=
  mediaServerGetData s.conns k = some addr ∧
    match op with
    | notify .. => (s.session.controllee addr).isSome
    | _ => True

/-! ### The texts -/

theorem scan_printEvent (event result : BitVec 32) :
    scan [.num, .char ':', .num] (text (printEvent event result).val) = [.num event.toInt, .num result.toInt] := by
  have htext : text (printEvent event result).val = printNum event.toInt ++ ':' :: printNum result.toInt :=
    ((isPrinted_printNum _).pair (.inr rfl) (isPrinted_printNum _)).text_bytesOf
  have hcolon : Scanf.EndsNum (':' :: printNum result.toInt) := by
    intro c hc
    cases hc
    rfl
  have hend : scan [.num] (printNum result.toInt) = [.num result.toInt] := by
    have hlast := @Scanf.scan_num [] [] result.toInt (by simp [Scanf.EndsNum])
    rwa [List.append_nil] at hlast
  rw [htext, Scanf.scan_num _ hcolon, Scanf.scan_char, hend]

theorem length_printEvent (event result : BitVec 32) :
    (printEvent event result).val.length ≤ 23 ∧ (printEvent event result).val ≠ [] := by
  have hevent := (length_printInt event).1
  have hresult := (length_printInt result).1
  have hpair : (printEvent event result).val =
      (printInt event).val ++ UInt8.ofNat ':'.toNat :: (printInt result).val := by
    simp [printEvent, printInt, bytesOf]
  rw [hpair, List.length_append, List.length_cons]
  exact ⟨by omega, by simp⟩

theorem length_printUnsigned (msec : BitVec 32) : (printUnsigned msec).val.length ≤ 11 := by
  have hlt := msec.isLt
  have hle := Scanf.length_printNum_le (n := msec.toNat) (by omega) (by omega)
  have hlength : (printUnsigned msec).val.length = (printNum msec.toNat).length := List.length_map ..
  omega

theorem toNat_ofNat_byte (b : UInt8) : (Char.ofNat b.toNat).toNat = b.toNat := by
  have hvalid : b.toNat.isValidChar := .inl (Nat.lt_trans b.toNat_lt (by decide))
  rw [Char.ofNat, dif_pos hvalid]
  rfl

/-- The bytes of the characters of a string are the string. -/
theorem cStr_text {bs : List UInt8} (hbs : (0 : UInt8) ∉ bs) : cStr (text bs) = ⟨bs, hbs⟩ := by
  have hbytes : bytesOf (text bs) = bs := by
    unfold bytesOf text
    rw [List.map_map]
    refine (List.map_congr_left fun b _ => ?_).trans (List.map_id _)
    rw [Function.comp_apply, toNat_ofNat_byte]
    exact UInt8.ofNat_toNat
  refine Subtype.ext ?_
  show (bytesOf (text bs)).takeWhile (· != 0) = bs
  rw [hbytes]
  exact List.takeWhile_eq_self_iff.2 fun b hb => bne_iff_ne.2 fun hzero => hbs (hzero ▸ hb)

/-! ### Sizes -/

/-- Less than 2 GiB fit into a parcel, whatever they are made of. -/
theorem appendable_of_sum (ns : List Nat) (cap len : Nat) (hcap : MEDIA_PARCEL_HEADER_LEN + cap < 2 ^ 32)
    (hsum : len + ns.sum + 8 < 2 ^ 31) : Appendable w cap len ns := by
  induction ns generalizing cap len with
  | nil => trivial
  | cons n ns ih =>
    rw [List.sum_cons] at hsum
    have hmod := le_mod w
    have hgrown : MEDIA_PARCEL_HEADER_LEN + grownCap cap (len + n) < 2 ^ 32 := by
      unfold grownCap
      rw [MEDIA_PARCEL_HEADER_LEN] at hcap ⊢
      split
      · omega
      · split <;> omega
    exact ⟨by omega, by omega, ih _ _ hgrown (by omega)⟩

theorem fitsParcel_of_sum {args : List ParcelArg}
    (hsum : (args.map fun arg => arg.encode.length).sum + 8 < 2 ^ 31) : FitsParcel w args :=
  appendable_of_sum _ _ _ (by decide) (by
    have hlen : mediaParcelInit.len = 0 := rfl
    omega)


/-- A request of less than 2 GiB fits into a parcel, and so does an event. -/
def SessionOp.Short (op : SessionOp) : Prop := (responseText op.message.target).length + 64 < 2 ^ 31

theorem length_encode_text (str : Option CBytes) : (ParcelArg.s str).encode.length = (responseText str).length + 1 := by
  simp [ParcelArg.encode, responseText]

theorem SessionOp.Short.fits {op : SessionOp} (h : op.Short) (uv : Bool) : FitsParcel w (op.request uv).args := by
  have hcmd : (responseText (some op.message.cmd)).length ≤ 10 := by
    cases op <;> exact Nat.le_of_ble_eq_true rfl
  have harg : (responseText op.message.arg).length ≤ 23 := by
    cases op with
    | seek msec => exact (length_printUnsigned msec).trans (by decide)
    | notify event result extra => exact (length_printEvent event result).1
    | _ => exact Nat.zero_le _
  have hint (v : BitVec 32) : (ParcelArg.i v).encode.length = 4 := rfl
  have hargs : (op.request uv).args =
      [.i ModuleId.session.val, .s op.message.target, .s (some op.message.cmd), .s op.message.arg, .i 0] := by
    cases uv <;> rfl
  refine fitsParcel_of_sum ?_
  rw [hargs]
  simp only [List.map_cons, List.map_nil, List.sum_cons, List.sum_nil, hint, length_encode_text]
  unfold SessionOp.Short at h
  omega

/-! ### One message -/

/-- An event arrives as it was sent, with an empty string as NULL. -/
theorem Notice.told_eq {n : Notice} {str : Option CBytes} (hextra : n.extra = (arrived str).map text)
    (hshort : (responseText str).length + 64 < 2 ^ 31) :
    n.told w = some ⟨n.source, n.cookie, n.event, n.result, arrived str⟩ := by
  obtain ⟨sent, hsent, harrived, hlength⟩ : ∃ sent : Option CBytes, n.extra.map cStr = sent ∧
      arrived sent = arrived str ∧ (responseText sent).length = (responseText str).length := by
    rcases str with - | ⟨bs, hbs⟩
    · exact ⟨none, by rw [hextra]; rfl, rfl, rfl⟩
    · by_cases hnil : bs = []
      · subst hnil
        exact ⟨none, by rw [hextra]; rfl, rfl, rfl⟩
      · have hsome : arrived (some ⟨bs, hbs⟩) = some bs := arrived_of_ne (some ⟨bs, hbs⟩) hnil
        refine ⟨some ⟨bs, hbs⟩, ?_, rfl, rfl⟩
        rw [hextra, hsome, Option.map_some, Option.map_some, cStr_text hbs]
  have hint (v : BitVec 32) : (ParcelArg.i v).encode.length = 4 := rfl
  have hfits : FitsParcel w [.i n.event, .i n.result, .s sent] := by
    refine fitsParcel_of_sum ?_
    simp only [List.map_cons, List.map_nil, List.sum_cons, List.sum_nil, hint, length_encode_text]
    omega
  have hmatch : Matches "%i%i%s".toList [.i n.event, .i n.result, .s sent] := rfl
  obtain ⟨ret, q, hq, ⟨-, happended⟩, hok⟩ := mediaParcelAppendVprintf_spec hmatch (sized_init w) hfits []
  obtain rfl := hok (by simp)
  have hbytes := (happended.resolve_right fun hfail => absurd hfail.1 (by decide)).2
  rw [payload_init, List.nil_append] at hbytes
  let msg : MediaParcel := { q with next := 0 }
  have hdrop : msg.payload.drop msg.next =
      [ParcelArg.i n.event, .i n.result, .s sent].flatMap ParcelArg.encode ++ [] := by
    rw [List.append_nil, ← hbytes]
    rfl
  have hread := mediaParcelReadVscanf_spec (w := w) hmatch hdrop
  rw [Notice.told, mediaStubNotifyEvent, hsent, hq, Option.map_some]
  show some (SessionTold.mk _ _ (readInt (mediaParcelReadVscanf w msg _).2.1 0) _ _) = _
  rw [hread]
  simp only [List.map_cons, List.map_nil, received_s, harrived]
  rfl

/-- The session module passes a control message on. -/
theorem mediaSessionHandler_control (session : MediaSessionPriv) {call : SessionCall} {c : SessionCmd}
    (hcmd : call.cmd = c) (hc : (mediaSessionCmd2event c).isSome ∨ c = .other) (hdata : call.data = some addr) :
    mediaSessionHandler session call =
      let r := mediaSessionControllerTransfer session c call.arg call.len
      some { ret := r.1, session, data := some addr, sent := r.2.2, response := r.2.1 } := by
  unfold mediaSessionHandler
  rw [hcmd, hdata]
  cases c with
  | start | pause | stop | prev | next | volumeup | volumedown | other =>
    dsimp only
    refine if_neg fun hnull => ?_
    rw [transfer_response] at hnull
    · cases hnull.1
    · decide
  | _ => exact absurd hc (by decide)

theorem SessionOp.call_request (op : SessionOp) (uv : Bool) : (op.request uv).call =
    .session (arrived op.message.target) (some op.message.cmd.val) (arrived op.message.arg) 0 := by
  have hcmd : arrived (some op.message.cmd) = some op.message.cmd.val := by
    cases op <;> rfl
  rw [← hcmd]
  cases uv <;> rfl

/-- What `media_session_controller_transfer` makes of a message that is no question. -/
def transferred (session : MediaSessionPriv) (event : Option (BitVec 32)) : Int × List SessionTold :=
  match session.controllees, event with
  | [], _ => (-ENOENT, [])
  | _, none => (-ENOSYS, [])
  | c :: _, some event => (0, [⟨.controllee c.addr, c.cookie, event, 0, none⟩])

theorem mediaSessionControllerTransfer_told (session : MediaSessionPriv) {c : SessionCmd} {arg : Option CString}
    (hc : (mediaSessionCmd2event c).isSome ∧ arg = none ∨ c = .other) (len : Nat) (w : SizeT) :
    (mediaSessionControllerTransfer session c arg len).1 = (transferred session (mediaSessionCmd2event c)).1 ∧
      (mediaSessionControllerTransfer session c arg len).2.1 = none ∧
      ((mediaSessionControllerTransfer session c arg len).2.2.map (sessionNotice c)).map (·.told w) =
        (transferred session (mediaSessionCmd2event c)).2.map some := by
  have hquery : c ≠ .query := by
    rintro rfl
    exact absurd hc (by simp [mediaSessionCmd2event])
  unfold mediaSessionControllerTransfer transferred
  cases session.controllees with
  | nil => exact ⟨rfl, rfl, rfl⟩
  | cons controllee controllees =>
    dsimp only
    rw [if_neg hquery]
    cases hevent : mediaSessionCmd2event c with
    | none => exact ⟨rfl, rfl, rfl⟩
    | some event =>
      have harg : arg = none := by
        rcases hc with hc | rfl
        · exact hc.2
        · cases hevent
      subst harg
      have htold := @Notice.told_eq w (sessionNotice c ⟨controllee.addr, controllee.cookie, event, 0, none⟩) none rfl
        (by decide)
      refine ⟨rfl, rfl, ?_⟩
      rw [List.map_cons, List.map_nil, List.map_cons, List.map_nil, htold]
      simp only [sessionNotice, hevent, Option.isSome_some, if_true]
      rfl

/-- The handler does what a message is for, and leaves the server as it is. -/
def SessionOp.Handled (s : MediaServer) (k : Nat) (out : StubOutcomes) (w : SizeT) (told : Int × List SessionTold)
    (op : SessionOp) : Prop :=
  ∃ sent : List Notice,
    mediaStubHandle s k out
        (.session (arrived op.message.target) (some op.message.cmd.val) (arrived op.message.arg) 0) =
      some { ret := told.1, server := s, sent } ∧
    sent.map (·.told w) = told.2.map some

theorem SessionOp.handled_control (op : SessionOp) {c : SessionCmd} (hdata : mediaServerGetData s.conns k = some addr)
    (hcmd : sessionCmd (text op.message.cmd.val) = c)
    (hc : (mediaSessionCmd2event c).isSome ∧ arrived op.message.arg = none ∨ c = .other) :
    op.Handled s k out w (transferred s.session (mediaSessionCmd2event c)) := by
  let call := sessionCall s k out (arrived op.message.target) op.message.cmd.val (arrived op.message.arg) 0
  have hcall : call.cmd = c := hcmd
  have harg : (mediaSessionCmd2event c).isSome ∧ call.arg = none ∨ c = .other :=
    hc.imp (fun h => ⟨h.1, by show (arrived op.message.arg).map text = none; rw [h.2]; rfl⟩) id
  obtain ⟨hret, hresponse, htold⟩ := mediaSessionControllerTransfer_told s.session harg call.len w
  have hhandler := mediaSessionHandler_control s.session hcall (hc.imp And.left id) hdata
  have hstore : ¬ (c = .register ∨ c = .open) := by
    rintro (rfl | rfl)
    · exact absurd hc (by simp [mediaSessionCmd2event])
    · exact absurd hc (by simp [mediaSessionCmd2event])
  refine ⟨_, ?_, htold⟩
  show (mediaSessionHandler s.session call).map _ = _
  rw [hhandler, Option.map_some, hcall, if_neg hstore]
  dsimp only
  rw [hret, hresponse]

theorem scanEvent_printEvent (call : SessionCall) (event result : BitVec 32) :
    scanEvent call (text (printEvent event result).val) = (event, result) := by
  unfold scanEvent
  rw [scan_printEvent]
  simp [scannedNum]

/-- Any connection with a controllee may notify. -/
theorem SessionOp.handled_notify {controllee : MediaControlleePriv} (hdata : mediaServerGetData s.conns k = some addr)
    (hcontrollee : s.session.controllee addr = some controllee) (event result : BitVec 32)
    (hshort : (SessionOp.notify event result extra).Short) :
    (SessionOp.notify event result extra).Handled s k out w
      ((SessionOp.notify event result extra).relayed s.session addr) := by
  let arg := text (printEvent event result).val
  let m := (SessionOp.notify event result extra).message
  let call := sessionCall s k out (arrived m.target) m.cmd.val (arrived m.arg) 0
  have hcmd : call.cmd = .event := (by decide : sessionCmd (text (bytesOf "event".toList)) = .event)
  have hcalldata : call.data = some addr := hdata
  have harg : call.arg = some arg := congrArg (Option.map text) (arrived_of_ne (some (printEvent event result))
    (length_printEvent event result).2)
  have haddr : controllee.addr = addr := by simpa using List.find?_some hcontrollee
  have hhandler : mediaSessionHandler s.session call = some
      { ret := 0, session := s.session, data := some addr
        sent := mediaSessionControlleeNotify s.session (some addr) event result call.target } := by
    unfold mediaSessionHandler
    rw [hcmd, hcalldata]
    dsimp only
    rw [hcontrollee, harg, Option.bind_some, Option.map_some, scanEvent_printEvent, haddr]
  refine ⟨(mediaSessionControlleeNotify s.session (some addr) event result call.target).map (sessionNotice .event), ?_,
    ?_⟩
  · have hstore : ¬ (call.cmd = .register ∨ call.cmd = .open) := by
      rw [hcmd]
      decide
    show (mediaSessionHandler s.session call).map _ = _
    rw [hhandler, Option.map_some, if_neg hstore, show (sessionCall _ _ _ _ _ _ _).cmd = _ from hcmd]
    rfl
  · have htold (n : StubNotify) (hextra : n.extra = (arrived extra).map text) :
        (sessionNotice .event n).told w = some ⟨.controller n.addr, n.cookie, n.event, n.result, arrived extra⟩ :=
      Notice.told_eq hextra hshort
    unfold mediaSessionControlleeNotify SessionOp.relayed
    dsimp only
    by_cases hfirst : s.session.first = some addr
    · rw [if_pos hfirst.symm, if_pos hfirst, List.map_map, List.map_map, List.map_map]
      exact List.map_congr_left fun c _ => htold _ rfl
    · rw [if_neg (Ne.symm hfirst), if_neg hfirst]
      rfl

theorem SessionOp.handled {op : SessionOp} (hproper : op.Proper s k addr) (hshort : op.Short) :
    op.Handled s k out w (op.relayed s.session addr) := by
  obtain ⟨hdata, hproper⟩ := hproper
  cases op with
  | start => exact handled_control .start hdata rfl (.inl ⟨rfl, rfl⟩)
  | pause => exact handled_control .pause hdata rfl (.inl ⟨rfl, rfl⟩)
  | stop => exact handled_control .stop hdata rfl (.inl ⟨rfl, rfl⟩)
  | nextSong => exact handled_control .nextSong hdata rfl (.inl ⟨rfl, rfl⟩)
  | prevSong => exact handled_control .prevSong hdata rfl (.inl ⟨rfl, rfl⟩)
  | increaseVolume => exact handled_control .increaseVolume hdata rfl (.inl ⟨rfl, rfl⟩)
  | decreaseVolume => exact handled_control .decreaseVolume hdata rfl (.inl ⟨rfl, rfl⟩)
  | seek msec => exact handled_control (.seek msec) hdata rfl (.inr rfl)
  | notify event result extra =>
    obtain ⟨controllee, hcontrollee⟩ := Option.isSome_iff_exists.1 hproper
    exact handled_notify hdata hcontrollee event result hshort

/-! ### Runs -/

/-- A message, the connection that it comes from, the handle that this one has, whether the client waits, and what the
server meets. -/
structure SessionSend where
  k : Nat
  addr : Nat
  op : SessionOp
  uv : Bool
  out : StubOutcomes

/-- The requests arrive one after the other: their results, the server at the end, and what is told to other clients. -/
def relayRun (w : SizeT) : MediaServer → List (Nat × StubOutcomes × MediaParcel) →
    Option (List Int × MediaServer × List (Option SessionTold))
  | s, [] => some ([], s, [])
  | s, (k, out, request) :: rest =>
    (sessionRelay w s k out request).bind fun r => (relayRun w r.2.1 rest).map fun later =>
      (r.1 :: later.1, later.2.1, r.2.2 ++ later.2.2)

/-- The parcel is the request of a message, as the server gets it. -/
def SessionSend.Sends (w : SizeT) (send : SessionSend) (request : MediaParcel) : Prop :=
  ∃ p, (send.op.request send.uv).make w [] = some (0, p) ∧ request.payload = p.payload ∧ request.next = 0

theorem SessionOp.relay {send : SessionSend} {request : MediaParcel} (hsends : send.Sends w request)
    (hproper : send.op.Proper s send.k send.addr) (hshort : send.op.Short) :
    sessionRelay w s send.k send.out request = some ((send.op.relayed s.session send.addr).1, s,
      (send.op.relayed s.session send.addr).2.map some) := by
  obtain ⟨p, hmake, hpayload, hnext⟩ := hsends
  obtain ⟨p', hmake', hall⟩ := agrees_of_fits (hshort.fits (w := w) send.uv) [] (by simp)
  obtain ⟨-, rfl⟩ : (0 : Int) = 0 ∧ p = p' := by simpa using hmake.symm.trans hmake'
  have hread : (mediaStubRead w request).1 = some (send.op.request send.uv).call :=
    (hall request hpayload hnext (fun _ => (0, none)) none []).1
  obtain ⟨sent, hhandle, htold⟩ := @SessionOp.handled w s send.k send.addr send.out send.op hproper hshort
  rw [sessionRelay, hread, Option.bind_some, SessionOp.call_request, hhandle, Option.map_some, htold]
  rfl

/-- Whatever clients send, waiting or not, in whatever order: the server stays as it is, each gets its result, and the
others are told what the messages are for, in their order, with the numbers and the strings that were sent. -/
theorem relayRun_relayed {sends : List (SessionSend × MediaParcel)}
    (hsends : ∀ send ∈ sends, send.1.Sends w send.2 ∧ send.1.op.Proper s send.1.k send.1.addr ∧ send.1.op.Short) :
    relayRun w s (sends.map fun send => (send.1.k, send.1.out, send.2)) =
      some (sends.map fun send => (send.1.op.relayed s.session send.1.addr).1, s,
        (sends.flatMap fun send => (send.1.op.relayed s.session send.1.addr).2).map some) := by
  induction sends with
  | nil => rfl
  | cons send sends ih =>
    obtain ⟨hsend, hproper, hshort⟩ := hsends send List.mem_cons_self
    rw [List.map_cons, relayRun, SessionOp.relay hsend hproper hshort, Option.bind_some]
    dsimp only
    rw [ih fun send hmem => hsends send (List.mem_cons_of_mem _ hmem), Option.map_some, List.flatMap_cons,
      List.map_append]
    rfl

/-- A controllee on the first connection, and a controller that listens on the second one. -/
def sampleRelay : MediaServer where
  conns := [{ tranFd := 5, data := some 8 }, { tranFd := 6, data := some 9 }]
  session := { controllers := [⟨9, some 1, true⟩], controllees := [{ addr := 8, cookie := some 0 }] }
  focus := mediaFocusInit sampleTable 8

/-- The controllee notifies the event 5 with the result -2 and an empty string. -/
theorem relayRun_relayed_sample : ∃ request,
    relayRun .w64 sampleRelay [(0, {}, request)] =
      some ([0], sampleRelay, [some ⟨.controller 9, some 1, 5, -2, none⟩]) := by
  have hshort : (SessionOp.notify 5 (-2) (some emptyStr)).Short :=
    (by decide : 0 + 64 < 2 ^ 31)
  obtain ⟨p, hmake, -⟩ := agrees_of_fits (hshort.fits (w := .w64) true) [] (by simp)
  have hsends : SessionSend.Sends .w64 ⟨0, 8, .notify 5 (-2) (some emptyStr), true, {}⟩ { p with next := 0 } :=
    ⟨p, hmake, rfl, rfl⟩
  refine ⟨{ p with next := 0 }, ?_⟩
  exact @relayRun_relayed .w64 sampleRelay [(⟨0, 8, .notify 5 (-2) (some emptyStr), true, {}⟩, { p with next := 0 })]
    fun send hsend => List.mem_singleton.1 hsend ▸ ⟨hsends, ⟨rfl, rfl⟩, hshort⟩

end MediaFramework
