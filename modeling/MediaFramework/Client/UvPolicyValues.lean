import MediaFramework.Client.PolicyRemote

/-!
# What the callbacks of policy requests are told (`client/media_uv_policy.c`)

The functions that do not wait send the messages of those that do, with a buffer of 128 bytes where there is a response.
A callback for an int reads it in the base that its text shows.  It gets the number of characters as the result, where
the function that waits returns 0.
-/

namespace MediaFramework

open Strtol (strtol)

variable {σ : Type*} {w : SizeT} {pfw : Pfw σ} {other : Handlers} {policy : σ} {name : Option CBytes} {op : PolicyOp}
  {h : Handlers} {request out : MediaParcel} {call : StubCall}

/-! ### The requests -/

def mediaUvPolicySetString (name value : Option CBytes) (apply : BitVec 32) : MediaRequest :=
  .policy name (some cmdSetString) value apply 0

def mediaUvPolicyGetString (name : Option CBytes) : MediaRequest :=
  .policy name (some cmdGetString) none 0 128

def mediaUvPolicySetInt (name : Option CBytes) (value apply : BitVec 32) : MediaRequest :=
  .policy name (some cmdSetInt) (some (printInt value)) apply 0

def mediaUvPolicyGetInt (name : Option CBytes) : MediaRequest :=
  .policy name (some cmdGetInt) none 0 128

def mediaUvPolicyIncrease (name : Option CBytes) (apply : BitVec 32) : MediaRequest :=
  .policy name (some cmdIncrease) none apply 0

def mediaUvPolicyDecrease (name : Option CBytes) (apply : BitVec 32) : MediaRequest :=
  .policy name (some cmdDecrease) none apply 0

def mediaUvPolicyInclude (name value : Option CBytes) (apply : BitVec 32) : MediaRequest :=
  .policy name (some cmdInclude) value apply 0

def mediaUvPolicyExclude (name value : Option CBytes) (apply : BitVec 32) : MediaRequest :=
  .policy name (some cmdExclude) value apply 0

def mediaUvPolicyContain (name value : Option CBytes) : MediaRequest :=
  .policy name (some cmdContain) value 0 128

/-- The request for a call; a range cannot be asked for, and the buffer for a string has a fixed size. -/
def PolicyOp.uvRequest (name : Option CBytes) : PolicyOp → Option MediaRequest
  | setInt value apply => some (mediaUvPolicySetInt name value apply)
  | increase apply => some (mediaUvPolicyIncrease name apply)
  | decrease apply => some (mediaUvPolicyDecrease name apply)
  | setString value apply => some (mediaUvPolicySetString name value apply)
  | includes values apply => some (mediaUvPolicyInclude name values apply)
  | excludes values apply => some (mediaUvPolicyExclude name values apply)
  | contain values => some (mediaUvPolicyContain name values)
  | getInt => some (mediaUvPolicyGetInt name)
  | getRange => none
  | getString len => if len = 128 then some (mediaUvPolicyGetString name) else none

/-! ### The callbacks -/

/-- `result` after `media_parcel_read_scanf(parcel, "%i%s", &result, …)`. -/
def receivedResult (vals : List ParcelValue) : Int :=
  match vals.head? with
  | some (.i result) => result.toInt
  | _ => -ECANCELED

/-- What `media_uv_policy_receive_cb` passes on; there is no parcel if the request was cancelled. -/
def uvPolicyResult (w : SizeT) : Option MediaParcel → Int
  | none => -ECANCELED
  | some parcel => receivedResult (mediaParcelReadVscanf w parcel "%i%s".toList).2.1

/-- `strtol(response, NULL, 0)` if there is a response. -/
def responseInt (w : SizeT) : Option (List UInt8) → BitVec 32
  | none => 0
  | some response => BitVec.ofInt 32 (strtol (-(w.mod / 2 : Nat)) ((w.mod / 2 : Nat) - 1) 0 (text response))

/-- `media_uv_policy_receive_int_cb`. -/
def mediaUvPolicyReceiveIntCb (w : SizeT) : Option MediaParcel → Int × BitVec 32
  | none => (-ECANCELED, 0)
  | some parcel =>
    let vals := (mediaParcelReadVscanf w parcel "%i%s".toList).2.1
    (receivedResult vals, responseInt w (readStr vals 1))

/-- `media_uv_policy_receive_string_cb`. -/
def mediaUvPolicyReceiveStringCb (w : SizeT) : Option MediaParcel → Int × Option (List UInt8)
  | none => (-ECANCELED, none)
  | some parcel =>
    let vals := (mediaParcelReadVscanf w parcel "%i%s".toList).2.1
    (receivedResult vals, readStr vals 1)

/-- The result, and the value that the callback of a call is told. -/
def PolicyOp.uvTold (w : SizeT) (parcel : Option MediaParcel) : PolicyOp → Int × PolicyValue
  | contain _ | getInt =>
    let told := mediaUvPolicyReceiveIntCb w parcel
    (told.1, .int told.2)
  | getString _ =>
    let told := mediaUvPolicyReceiveStringCb w parcel
    (told.1, match told.2 with
      | some str => .string str
      | none => .nothing)
  | _ => (uvPolicyResult w parcel, .nothing)

/-! ### Replies -/

/-- The result and the response that a handler gave are in the reply. -/
theorem Replied.values (hr : Replied w h request call out) :
    (mediaParcelReadVscanf w out "%i%s".toList).2.1 = [.i (h.handle call).1, .s (arrived (h.handle call).2)] := by
  obtain ⟨p, hout, hpayload⟩ := hr.reply
  have hmatch : Matches "%i%s".toList [.i (h.handle call).1, .s (h.handle call).2] := rfl
  have happend : mediaParcelAppendVprintf w mediaParcelInit "%i%s".toList
      [.i (h.handle call).1, .s (h.handle call).2] [] = some (0, p) := by
    simpa only [mediaStubOnreceive, hr.read, Option.map_some, Option.getD_some, Option.some.injEq] using hout
  obtain ⟨ret, q, hq, ⟨-, happended⟩, -⟩ :=
    mediaParcelAppendVprintf_spec hmatch (sized_init w) (fitsParcel_reply (w := w) (h.short call)) []
  obtain ⟨rfl, rfl⟩ : ret = 0 ∧ q = p := by simpa using hq.symm.trans happend
  have hbytes := (happended.resolve_right fun hfail => absurd hfail.1 (by decide)).2
  rw [payload_init, List.nil_append] at hbytes
  have hdrop : out.payload.drop out.next =
      [ParcelArg.i (h.handle call).1, .s (h.handle call).2].flatMap ParcelArg.encode ++ [] := by
    rw [hr.start, List.drop_zero, List.append_nil, hpayload, hbytes]
  rw [mediaParcelReadVscanf_spec (w := w) hmatch hdrop]
  simp only [List.map_cons, List.map_nil, received_s]
  rfl

/-- What is told agrees with what a caller that waits is told: an error is the same, and without an error the value is
the same.  An empty string is NULL. -/
structure UvAgrees (told : Int × PolicyValue) (waited : Int × PolicyValue) : Prop where
  failed : told.1 < 0 ↔ waited.1 < 0
  error : waited.1 < 0 → told.1 = waited.1
  value : 0 ≤ waited.1 → told.2 = if waited.2 = .string [] then .nothing else waited.2

theorem uvAgrees_print (w : SizeT) {r : σ × BitVec 32} {value : BitVec 32} {a : LibraryAnswer σ}
    (ha : LibraryAnswer.print 128 r (printInt value) = some a) :
    UvAgrees (a.ret.toInt, .int (responseInt w (arrived a.response))) (asked r (.int value)).2 := by
  have hlength := (length_printInt value).1
  unfold LibraryAnswer.print at ha
  unfold asked
  by_cases hret : r.2.toInt < 0
  · rw [if_pos hret] at ha ⊢
    cases ha
    exact ⟨Iff.rfl, fun _ => rfl, fun hge => absurd hret (Int.not_lt.2 hge)⟩
  · rw [if_neg hret, if_neg (by decide)] at ha
    rw [if_neg hret]
    cases ha
    have hcode : (BitVec.ofNat 32 (printInt value).val.length).toInt = (printInt value).val.length := by
      rw [BitVec.toInt_ofNat', Int.bmod_eq_of_le (by omega) (by omega)]
    have hresponse : arrived (responseBuffer 128 (printInt value)) = some (printInt value).val := by
      have htext : responseText (responseBuffer 128 (printInt value)) = (printInt value).val := by
        rw [responseText_responseBuffer (by decide)]
        exact List.take_of_length_le (by show _ ≤ 127; omega)
      rw [arrived_of_ne _ (by rw [htext]; exact (length_printInt value).2), htext]
    refine ⟨?_, fun hlt => absurd hlt (show ¬ (0 : Int) < 0 by decide), fun _ => ?_⟩
    · dsimp only
      omega
    · dsimp only
      rw [hresponse, if_neg (by simp)]
      exact congrArg _ (strtol_printInt w (.inl rfl) value)

theorem uvAgrees_commit {r : σ × BitVec 32} {apply : BitVec 32} :
    UvAgrees ((LibraryAnswer.commit pfw apply 0 r).ret.toInt, .nothing) (committed pfw apply r).2 := by
  unfold LibraryAnswer.commit committed
  by_cases hret : r.2.toInt < 0
  · rw [if_pos hret, if_pos hret]
    exact ⟨Iff.rfl, fun _ => rfl, fun _ => rfl⟩
  · rw [if_neg hret, if_neg hret]
    exact ⟨Iff.rfl, fun _ => rfl, fun _ => rfl⟩

theorem uvAgrees_string (r : (σ × BitVec 32) × CBytes) (hfits : (r.2.val.length : Int) < 128) :
    UvAgrees ((if r.1.2.toInt < 0 then r.1.2 else 0 : BitVec 32).toInt,
        match arrived (responseBuffer 128 r.2) with
        | some str => .string str
        | none => .nothing)
      (asked r.1 (if (0 : Int) < (128 : BitVec 32).toInt then .string r.2.val else .nothing)).2 := by
  unfold asked
  by_cases hret : r.1.2.toInt < 0
  · rw [if_pos hret, if_pos hret]
    exact ⟨Iff.rfl, fun _ => rfl, fun hge => absurd hret (Int.not_lt.2 hge)⟩
  · rw [if_neg hret, if_neg hret, if_pos (by decide)]
    have htext : responseText (responseBuffer 128 r.2) = r.2.val := by
      rw [responseText_responseBuffer (by decide)]
      exact List.take_of_length_le (by show _ ≤ 127; omega)
    refine ⟨Iff.rfl, fun _ => rfl, fun _ => ?_⟩
    dsimp only
    by_cases hnil : r.2.val = []
    · rw [(arrived_eq_none _).2 (htext.trans hnil), hnil, if_pos rfl]
    · rw [arrived_of_ne _ (by rw [htext]; exact hnil), htext, if_neg (by simpa using hnil)]

theorem commit_policy (apply len : BitVec 32) (r : σ × BitVec 32) :
    (LibraryAnswer.commit pfw apply len r).policy = (committed pfw apply r).1 := by
  unfold LibraryAnswer.commit committed
  split <;> rfl

/-- A number is printed into a buffer of 128 bytes. -/
theorem exists_print (r : σ × BitVec 32) (value : BitVec 32) :
    ∃ a, LibraryAnswer.print 128 r (printInt value) = some a ∧ a.policy = r.1 := by
  unfold LibraryAnswer.print
  split
  · exact ⟨_, rfl, rfl⟩
  · exact ⟨_, rfl, rfl⟩

theorem policyStub_call {value : Option CBytes} {apply len : BitVec 32} {cmd : CBytes} {c : LibraryCmd}
    (hcmd : libraryCmd (text cmd.val) = some c) :
    policyStub w pfw policy (MediaRequest.policy name (some cmd) value apply len).call =
      mediaPolicyHandlerLibrary w pfw policy (arrived name) (arrived value) apply len c := by
  have hne : responseText (some cmd) ≠ [] := by
    intro hnil
    have hempty : cmd.val = [] := hnil
    rw [hempty] at hcmd
    exact absurd hcmd (by cases c <;> decide)
  show policyStub w pfw policy (.policy (arrived name) (arrived (some cmd)) (arrived value) apply len) = _
  rw [arrived_of_ne _ hne]
  show (libraryCmd (text cmd.val)).bind _ = _
  rw [hcmd, Option.bind_some]

theorem Replied.library (hr : Replied w (policyHandlers w pfw other policy) request call out) {a : LibraryAnswer σ}
    (ha : policyStub w pfw policy call = some a) :
    (mediaParcelReadVscanf w out "%i%s".toList).2.1 = [.i a.ret, .s (arrived a.response)] := by
  rw [hr.values]
  simp only [policyHandlers, ha]

theorem uvPolicy_changed (hr : Replied w (policyHandlers w pfw other policy) request call out) {apply : BitVec 32}
    {r : σ × BitVec 32} (hstub : policyStub w pfw policy call = some (.commit pfw apply 0 r)) :
    (policyStub w pfw policy call).map (·.policy) = some (committed pfw apply r).1 ∧
      UvAgrees (uvPolicyResult w (some out), .nothing) (committed pfw apply r).2 := by
  refine ⟨by rw [hstub, Option.map_some, commit_policy], ?_⟩
  rw [uvPolicyResult, hr.library hstub]
  exact uvAgrees_commit

theorem uvPolicy_number (hr : Replied w (policyHandlers w pfw other policy) request call out) {r : σ × BitVec 32}
    {value : BitVec 32} (hstub : policyStub w pfw policy call = LibraryAnswer.print 128 r (printInt value)) :
    (policyStub w pfw policy call).map (·.policy) = some (asked r (.int value)).1 ∧
      UvAgrees ((mediaUvPolicyReceiveIntCb w (some out)).1, .int (mediaUvPolicyReceiveIntCb w (some out)).2)
        (asked r (.int value)).2 := by
  obtain ⟨a, ha, hpolicy⟩ := exists_print r value
  have hlibrary := hstub.trans ha
  refine ⟨by rw [hlibrary, Option.map_some, hpolicy, asked_policy], ?_⟩
  simp only [mediaUvPolicyReceiveIntCb, hr.library hlibrary]
  exact uvAgrees_print w ha

/-- A request that does not wait does with the library of its server what the function that waits does, and its callback
is told what agrees with it. -/
theorem mediaUvPolicy_agrees {req : MediaRequest} (hreq : op.uvRequest name = some req)
    (hr : Replied w (policyHandlers w pfw other policy) request req.call out) :
    (policyStub w pfw policy req.call).map (·.policy) = some (op.onLibrary pfw policy (arrived name)).1 ∧
      UvAgrees (op.uvTold w (some out)) (op.onLibrary pfw policy (arrived name)).2 := by
  have hcmd := op.libraryCmd_message
  cases op with
  | setInt value apply =>
    cases hreq
    refine uvPolicy_changed hr ((policyStub_call hcmd).trans ?_)
    show (arrived (some (printInt value))).map _ = _
    rw [arrived_printInt, Option.map_some, atoi_printInt]
  | increase | decrease | setString | includes | excludes =>
    cases hreq
    exact uvPolicy_changed hr (policyStub_call hcmd)
  | contain | getInt =>
    cases hreq
    exact uvPolicy_number hr (policyStub_call hcmd)
  | getRange => cases hreq
  | getString len =>
    have hlen : len = 128 := by
      by_contra hlen
      rw [PolicyOp.uvRequest, if_neg hlen] at hreq
      cases hreq
    subst hlen
    cases hreq
    have hstub : policyStub w pfw policy (mediaUvPolicyGetString name).call = some _ := policyStub_call hcmd
    refine ⟨by rw [hstub, Option.map_some]; exact congrArg some (asked_policy _ _).symm, ?_⟩
    simp only [PolicyOp.uvTold, mediaUvPolicyReceiveStringCb, hr.library hstub]
    exact uvAgrees_string (pfw.pfwGetstring policy (arrived name) 128)
      (pfw.getstring_fits policy (arrived name) 128 (by decide))

/-- The value -12 is asked for. -/
theorem mediaUvPolicy_agrees_sample : ∃ out,
    UvAgrees (PolicyOp.getInt.uvTold .w64 (some out)) (PolicyOp.getInt.onLibrary counterPfw (-12) none).2 := by
  have hfits : FitsParcel .w64 (mediaUvPolicyGetInt none).args := by
    refine ⟨?_, ?_, ?_, ?_, ?_, ?_, ?_, ?_, ?_, ?_, ?_, ?_, trivial⟩ <;> decide
  obtain ⟨p, -, hall⟩ := agrees_of_fits hfits [] (by simp)
  have hread : (mediaStubRead .w64 { p with next := 0 }).1 = some (mediaUvPolicyGetInt none).call :=
    (hall { p with next := 0 } rfl rfl (fun _ => (0, none)) none []).1
  obtain ⟨-, hr⟩ := policyServe_replied (policyHandlers .w64 counterPfw silentHandlers (-12)) hread
  exact ⟨_, (mediaUvPolicy_agrees rfl hr).2⟩

end MediaFramework
