import MediaFramework.Client.MediaPolicy

/-!
# The policy of a client is that of the servers

A call of a policy function goes as a request to each CPU of the list that can be reached; the list names a CPU only
once.  Each of them does what the library does when it is called directly, with an empty string as NULL, and what the
last of them gives is what the caller gets, every number as it was.  So a run of calls is on each CPU the same run of
the library, whatever the other CPUs do.
-/

namespace MediaFramework

variable {σ : Type*} {w : SizeT} {pfw : Pfw σ} {other : Handlers} {policy : σ} {name : Option CBytes} {op : PolicyOp}
  {cpus : CBytes} {world : Nat → Option σ}

/-! ### The library without a server -/

/-- A change, and `pfw_apply` after it. -/
def committed (pfw : Pfw σ) (apply : BitVec 32) (r : σ × BitVec 32) : σ × Int × PolicyValue :=
  if r.2.toInt < 0 then (r.1, r.2.toInt, .nothing)
  else (if apply ≠ 0 then pfw.pfwApply r.1 else r.1, 0, .nothing)

/-- A question, and its answer if there is one. -/
def asked (r : σ × BitVec 32) (value : PolicyValue) : σ × Int × PolicyValue :=
  if r.2.toInt < 0 then (r.1, r.2.toInt, .nothing) else (r.1, 0, value)

theorem asked_policy (r : σ × BitVec 32) (value : PolicyValue) : (asked r value).1 = r.1 := by
  unfold asked
  split <;> rfl

/-- A call, as if the library were the caller's own. -/
def PolicyOp.onLibrary (pfw : Pfw σ) (policy : σ) (name : Option (List UInt8)) : PolicyOp → σ × Int × PolicyValue
  | setInt value apply => committed pfw apply (pfw.pfwSetint policy name value)
  | increase apply => committed pfw apply (pfw.pfwIncrease policy name)
  | decrease apply => committed pfw apply (pfw.pfwDecrease policy name)
  | setString value apply => committed pfw apply (pfw.pfwSetstring policy name (arrived value))
  | includes values apply => committed pfw apply (pfw.pfwInclude policy name (arrived values))
  | excludes values apply => committed pfw apply (pfw.pfwExclude policy name (arrived values))
  | contain values =>
    let r := pfw.pfwContain policy name (arrived values)
    asked r.1 (.int r.2)
  | getInt =>
    let r := pfw.pfwGetint policy name
    asked r.1 (.int r.2)
  | getRange =>
    let r := pfw.pfwGetrange policy name
    asked r.1 (.range (some r.2.1) (some r.2.2))
  | getString len =>
    let r := pfw.pfwGetstring policy name len
    asked r.1 (if 0 < len.toInt then .string r.2.val else .nothing)

/-! ### The handler -/

/-- The response is a string that was written into the buffer. -/
def LibraryAnswer.Buffered (len : BitVec 32) (r : LibraryAnswer σ) : Prop := ∃ str, r.response = responseBuffer len str

theorem commit_buffered (apply len : BitVec 32) (r : σ × BitVec 32) :
    (LibraryAnswer.commit pfw apply len r).Buffered len := by
  unfold LibraryAnswer.commit
  split
  · exact ⟨_, rfl⟩
  · exact ⟨_, rfl⟩

theorem print_buffered {len : BitVec 32} {r : σ × BitVec 32} {str : CBytes} {a : LibraryAnswer σ}
    (h : LibraryAnswer.print len r str = some a) : a.Buffered len := by
  unfold LibraryAnswer.print at h
  split at h
  · cases h
    exact ⟨_, rfl⟩
  · split at h
    · cases h
    · cases h
      exact ⟨_, rfl⟩

theorem mediaPolicyHandlerLibrary_buffered {name' value : Option (List UInt8)} {apply len : BitVec 32} {c : LibraryCmd}
    {a : LibraryAnswer σ} (h : mediaPolicyHandlerLibrary w pfw policy name' value apply len c = some a) :
    a.Buffered len := by
  cases c with
  | setInt =>
    obtain ⟨value, -, rfl⟩ := Option.map_eq_some_iff.1 h
    exact commit_buffered _ _ _
  | increase | decrease | setString | includes | excludes =>
    cases h
    exact commit_buffered _ _ _
  | contain | getInt | getRange => exact print_buffered h
  | getString | dump =>
    cases h
    exact ⟨_, rfl⟩

theorem responseBuffer_short {len : BitVec 32} {str response : CBytes} (h : responseBuffer len str = some response) :
    (response.val.length : Int) < len.toInt := by
  unfold responseBuffer at h
  split at h
  case isTrue hlen =>
    cases h
    have hnat := BitVec.toInt_eq_toNat_cond len
    rw [List.length_take]
    split at hnat <;> omega
  case isFalse => cases h

/-- The handlers of a server, of which the library is one. -/
def policyHandlers (w : SizeT) (pfw : Pfw σ) (other : Handlers) (policy : σ) : Handlers where
  handle call :=
    match policyStub w pfw policy call with
    | some a => (a.ret, a.response)
    | none => other.handle call
  fits call str h := by
    split at h
    case h_1 a hstub =>
      obtain ⟨target, cmd, arg, apply, len, rfl⟩ : ∃ target cmd arg apply len,
          call = .policy target (some cmd) arg apply len := by
        unfold policyStub at hstub
        split at hstub
        · exact ⟨_, _, _, _, _, rfl⟩
        · cases hstub
      obtain ⟨c, -, hlibrary⟩ := Option.bind_eq_some_iff.1 hstub
      obtain ⟨written, hwritten⟩ := mediaPolicyHandlerLibrary_buffered hlibrary
      exact responseBuffer_short (hwritten.symm.trans h)
    case h_2 => exact other.fits call str h

/-! ### What a handler gives is what a caller takes -/

def PolicyOp.cmd : PolicyOp → LibraryCmd
  | setInt .. => .setInt
  | increase _ => .increase
  | decrease _ => .decrease
  | setString .. => .setString
  | includes .. => .includes
  | excludes .. => .excludes
  | contain _ => .contain
  | getInt => .getInt
  | getRange => .getRange
  | getString _ => .getString

theorem PolicyOp.libraryCmd_message (op : PolicyOp) : libraryCmd (text op.message.cmd.val) = some op.cmd := by
  cases op with
  | setInt => exact (by decide : libraryCmd (text (bytesOf "set_int".toList)) = some .setInt)
  | increase => exact (by decide : libraryCmd (text (bytesOf "increase".toList)) = some .increase)
  | decrease => exact (by decide : libraryCmd (text (bytesOf "decrease".toList)) = some .decrease)
  | setString => exact (by decide : libraryCmd (text (bytesOf "set_string".toList)) = some .setString)
  | includes => exact (by decide : libraryCmd (text (bytesOf "include".toList)) = some .includes)
  | excludes => exact (by decide : libraryCmd (text (bytesOf "exclude".toList)) = some .excludes)
  | contain => exact (by decide : libraryCmd (text (bytesOf "contain".toList)) = some .contain)
  | getInt => exact (by decide : libraryCmd (text (bytesOf "get_int".toList)) = some .getInt)
  | getRange => exact (by decide : libraryCmd (text (bytesOf "get_range".toList)) = some .getRange)
  | getString => exact (by decide : libraryCmd (text (bytesOf "get_string".toList)) = some .getString)

/-- The buffer that a caller of `media_proxy_once` has after an answer without an error. -/
def HoldsResponse (response : Option CBytes) (len : BitVec 32) (buffer : List UInt8) : Prop :=
  0 < len.toInt → (responseText response).take (len.toNat - 1) ++ [0] <+: buffer

/-- An error arrives as it is, and what is taken from another answer is what the caller is told.  Only an empty string
cannot be taken. -/
structure PolicyOp.Delivers (w : SizeT) (op : PolicyOp) (a : LibraryAnswer σ) (told : Int × PolicyValue) : Prop where
  failed : a.ret.toInt < 0 → told = (a.ret.toInt, .nothing)
  took : 0 ≤ a.ret.toInt → ∀ buffer, HoldsResponse a.response op.message.len buffer →
    op.taken w a.ret.toInt buffer = told
  empty : 0 ≤ a.ret.toInt ∧ 0 < op.message.len.toInt ∧ responseText a.response = [] ↔ told = (0, .string [])

theorem commit_delivers {apply : BitVec 32} (r : σ × BitVec 32) (hlen : op.message.len = 0)
    (htaken : ∀ ret buffer, op.taken w ret buffer = (ret, .nothing)) :
    (LibraryAnswer.commit pfw apply 0 r).policy = (committed pfw apply r).1 ∧
      op.Delivers w (LibraryAnswer.commit pfw apply 0 r) (committed pfw apply r).2 := by
  have hnone (told : Int) : (told, PolicyValue.nothing) ≠ (0, .string []) := by simp
  unfold LibraryAnswer.commit committed
  by_cases hret : r.2.toInt < 0
  · rw [if_pos hret, if_pos hret]
    exact ⟨rfl, fun _ => rfl, fun hge => absurd hret (Int.not_lt.2 hge),
      iff_of_false (fun h => absurd h.2.1 (by rw [hlen]; decide)) (hnone _)⟩
  · rw [if_neg hret, if_neg hret]
    exact ⟨rfl, fun hlt => absurd hlt (show ¬ (0 : BitVec 32).toInt < 0 by decide), fun _ buffer _ => htaken _ buffer,
      iff_of_false (fun h => absurd h.2.1 (by rw [hlen]; decide)) (hnone _)⟩

theorem responseText_responseBuffer {len : BitVec 32} {str : CBytes} (hlen : 0 < len.toInt) :
    responseText (responseBuffer len str) = str.val.take (len.toNat - 1) := by
  rw [responseBuffer, if_pos hlen]
  rfl

/-- A text of a number, or of two, which is read by `read`. -/
theorem print_delivers (r : σ × BitVec 32) {str : CBytes} {value : PolicyValue} (read : List UInt8 → PolicyValue)
    (hlen : op.message.len = 32) (htaken : ∀ ret buffer,
      op.taken w ret buffer = if 0 ≤ ret then (0, read (bufferString buffer)) else (ret, .nothing))
    (hstr : str.val.length < 32 ∧ str.val ≠ []) (hread : read str.val = value) (hvalue : ∀ str, value ≠ .string str) :
    ∃ a, LibraryAnswer.print 32 r str = some a ∧ a.policy = (asked r value).1 ∧ op.Delivers w a (asked r value).2 := by
  have htext : responseText (responseBuffer 32 str) = str.val := by
    rw [responseText_responseBuffer (by decide)]
    exact List.take_of_length_le (by show _ ≤ 31; omega)
  unfold LibraryAnswer.print asked
  by_cases hret : r.2.toInt < 0
  · rw [if_pos hret, if_pos hret]
    refine ⟨_, rfl, rfl, fun _ => rfl, fun hge => absurd hret (Int.not_lt.2 hge), iff_of_false (fun h => ?_) (by simp)⟩
    exact absurd hret (Int.not_lt.2 h.1)
  · rw [if_neg hret, if_neg (by decide), if_neg hret]
    have hcode : (BitVec.ofNat 32 str.val.length).toInt = str.val.length := by
      rw [BitVec.toInt_ofNat', Int.bmod_eq_of_le (by omega) (by omega)]
    refine ⟨_, rfl, rfl, fun hlt => absurd hlt ?_, fun _ buffer hholds => ?_, iff_of_false (fun h => ?_) ?_⟩
    · dsimp only
      omega
    · have hprefix := hholds (by rw [hlen]; decide)
      rw [hlen] at hprefix
      dsimp only at hprefix
      rw [htext, List.take_of_length_le (by show _ ≤ 31; omega)] at hprefix
      rw [htaken, if_pos (by dsimp only; omega), bufferString_of_prefix str.2 hprefix, hread]
    · exact hstr.2 (htext.symm.trans h.2.2)
    · intro heq
      exact hvalue [] (Prod.mk.inj heq).2

theorem length_printPair (lo hi : BitVec 32) : (printPair lo hi).val.length < 32 ∧ (printPair lo hi).val ≠ [] := by
  have hlo := (length_printInt lo).1
  have hhi := (length_printInt hi).1
  have hpair : (printPair lo hi).val = (printInt lo).val ++ UInt8.ofNat ','.toNat :: (printInt hi).val := by
    simp [printPair, printInt, bytesOf]
  rw [hpair, List.length_append, List.length_cons]
  exact ⟨by omega, by simp⟩

theorem arrived_printInt (value : BitVec 32) : arrived (some (printInt value)) = some (printInt value).val :=
  arrived_of_ne (some (printInt value)) (length_printInt value).2

theorem getString_delivers (len : BitVec 32) (r : (σ × BitVec 32) × CBytes)
    (hfits : 0 < len.toInt → (r.2.val.length : Int) < len.toInt) :
    PolicyOp.Delivers w (.getString len) (LibraryAnswer.mk r.1.1 (if r.1.2.toInt < 0 then r.1.2 else 0)
        (responseBuffer len r.2)) (asked r.1 (if 0 < len.toInt then .string r.2.val else .nothing)).2 := by
  have hnat := BitVec.toInt_eq_toNat_cond len
  have hwhole (hlen : 0 < len.toInt) : r.2.val.take (len.toNat - 1) = r.2.val := by
    have hshort := hfits hlen
    refine List.take_of_length_le ?_
    split at hnat <;> omega
  unfold asked
  by_cases hret : r.1.2.toInt < 0
  · rw [if_pos hret, if_pos hret]
    exact ⟨fun _ => rfl, fun hge => absurd hret (Int.not_lt.2 hge),
      iff_of_false (fun h => absurd hret (Int.not_lt.2 h.1)) (by simp)⟩
  · rw [if_neg hret, if_neg hret]
    refine ⟨fun hlt => absurd hlt (show ¬ (0 : BitVec 32).toInt < 0 by decide), fun _ buffer hholds => ?_, ?_⟩
    · by_cases hlen : 0 < len.toInt
      · have hprefix : (responseText (responseBuffer len r.2)).take (len.toNat - 1) ++ [0] <+: buffer := hholds hlen
        rw [responseText_responseBuffer hlen, hwhole hlen, hwhole hlen] at hprefix
        have hstring := bufferString_of_prefix r.2.2 hprefix
        simp [PolicyOp.taken, hlen, hstring]
      · simp [PolicyOp.taken, hlen]
    · by_cases hlen : 0 < len.toInt
      · rw [if_pos hlen]
        dsimp only
        rw [responseText_responseBuffer hlen, hwhole hlen]
        constructor
        · intro h
          rw [h.2.2]
        · intro heq
          exact ⟨by decide, hlen, PolicyValue.string.inj (Prod.mk.inj heq).2⟩
      · rw [if_neg hlen]
        exact iff_of_false (fun h => hlen h.2.1) (by simp)

/-- The handler does with the library what the call does, and the caller is told what comes of it. -/
theorem PolicyOp.delivers (w : SizeT) (pfw : Pfw σ) (policy : σ) (name' : Option (List UInt8)) (op : PolicyOp) :
    ∃ a, mediaPolicyHandlerLibrary w pfw policy name' (arrived op.message.value) op.message.apply op.message.len
        op.cmd = some a ∧ a.policy = (op.onLibrary pfw policy name').1 ∧ op.Delivers w a (op.onLibrary pfw policy name').2 := by
  have hint (value : BitVec 32) : (printInt value).val.length < 32 ∧ (printInt value).val ≠ [] :=
    ⟨by have := (length_printInt value).1; omega, (length_printInt value).2⟩
  cases op with
  | setInt value apply =>
    refine ⟨_, ?_, commit_delivers (pfw.pfwSetint policy name' value) rfl fun _ _ => rfl⟩
    show (arrived (some (printInt value))).map _ = _
    rw [arrived_printInt, Option.map_some, atoi_printInt]
    rfl
  | increase | decrease | setString | includes | excludes =>
    exact ⟨_, rfl, commit_delivers _ rfl fun _ _ => rfl⟩
  | contain | getInt =>
    exact print_delivers _ (fun str => .int (atoi w str)) rfl (fun _ _ => rfl) (hint _)
      (congrArg _ (atoi_printInt w _)) (by simp)
  | getRange =>
    refine print_delivers _ (fun str => .range (readPair str).1 (readPair str).2) rfl (fun _ _ => rfl)
      (length_printPair _ _) ?_ (by simp)
    rw [readPair_printPair]
  | getString len =>
    exact ⟨_, rfl, (asked_policy _ _).symm, getString_delivers len (pfw.pfwGetstring policy name' len)
      (pfw.getstring_fits policy name' len)⟩

/-! ### One server -/

/-- A server that is up reads the parcel, and replies. -/
def policyServe (w : SizeT) (handlers : Handlers) (parcel : MediaParcel) : Int × MediaParcel :=
  match (mediaStubOnreceive w handlers.handle { parcel with next := 0 } (some mediaParcelInit) []).out with
  | some (some out) => (0, { out.2 with next := 0 })
  | _ => (-ENOMEM, mediaParcelInit)

/-- What a server with a policy answers to `media_proxy_once`. -/
def policyAnswer (w : SizeT) (pfw : Pfw σ) (other : Handlers) (name : Option CBytes) (message : PolicyMessage)
    (policy : σ) : Option Answer :=
  mediaProxyOnceAnswer w MEDIA_ID_POLICY name (some message.cmd) message.value message.apply message.len []
    (policyServe w (policyHandlers w pfw other policy))

/-- The policy of the server after it. -/
def policyAfter (w : SizeT) (pfw : Pfw σ) (name : Option CBytes) (message : PolicyMessage) (policy : σ) : σ :=
  match mediaProxyOnce w MEDIA_ID_POLICY name (some message.cmd) message.value message.apply message.len [] with
  | some made =>
    if made.1 < 0 then policy
    else (((mediaStubRead w { made.2 with next := 0 }).1.bind (policyStub w pfw policy)).map (·.policy)).getD policy
  | none => policy

/-- The request for a call fits into a parcel. -/
def PolicyOp.Fits (w : SizeT) (name : Option CBytes) (op : PolicyOp) : Prop :=
  FitsParcel w (MediaRequest.once .policy name (some op.message.cmd) op.message.value op.message.apply
    op.message.len).args

theorem policyServe_replied (handlers : Handlers) {request : MediaParcel} {call : StubCall}
    (hread : (mediaStubRead w { request with next := 0 }).1 = some call) :
    (policyServe w handlers request).1 = 0 ∧
      Replied w handlers { request with next := 0 } call (policyServe w handlers request).2 := by
  have hmatch : Matches "%i%s".toList [.i (handlers.handle call).1, .s (handlers.handle call).2] := rfl
  obtain ⟨ret, q, hq, -, hok⟩ := mediaParcelAppendVprintf_spec hmatch (sized_init w)
    (fitsParcel_reply (w := w) (handlers.short call)) []
  obtain rfl := hok (by simp)
  have hout : (mediaStubOnreceive w handlers.handle { request with next := 0 } (some mediaParcelInit) []).out =
      some (some (0, q)) := by
    simp only [mediaStubOnreceive, hread, Option.map_some, Option.getD_some]
    rw [hq]
  have hserve : policyServe w handlers request = (0, { q with next := 0 }) := by
    unfold policyServe
    rw [hout]
  rw [hserve]
  exact ⟨rfl, hread, ⟨q, hout, rfl⟩, rfl⟩

/-- A server answers a call with what its library gives, and its policy is what the library leaves. -/
theorem policyAnswer_onLibrary (hfits : op.Fits w name) (other : Handlers) (policy : σ) :
    policyAfter w pfw name op.message policy = (op.onLibrary pfw policy (arrived name)).1 ∧
      ∃ a : LibraryAnswer σ,
        policyAnswer w pfw other name op.message policy = some ⟨a.ret.toInt, arrived a.response⟩ ∧
        op.Delivers w a (op.onLibrary pfw policy (arrived name)).2 := by
  obtain ⟨p, hmake, hall⟩ := agrees_of_fits hfits [] (by simp)
  have hmade : mediaProxyOnce w MEDIA_ID_POLICY name (some op.message.cmd) op.message.value op.message.apply
      op.message.len [] = some (0, p) := hmake
  have hcmd : arrived (some op.message.cmd) = some op.message.cmd.val := by
    cases op <;> rfl
  have hread : (mediaStubRead w { p with next := 0 }).1 =
      some (.policy (arrived name) (some op.message.cmd.val) (arrived op.message.value) op.message.apply
        op.message.len) := by
    have hcall := (hall { p with next := 0 } rfl rfl (fun _ => (0, none)) none []).1
    rw [← hcmd]
    exact hcall
  obtain ⟨a, hlibrary, hpolicy, hdelivers⟩ := op.delivers w pfw policy (arrived name)
  have hstub : policyStub w pfw policy (.policy (arrived name) (some op.message.cmd.val) (arrived op.message.value)
      op.message.apply op.message.len) = some a := by
    rw [policyStub, op.libraryCmd_message]
    exact hlibrary
  refine ⟨?_, a, ?_, hdelivers⟩
  · rw [policyAfter, hmade]
    show (if (0 : Int) < 0 then policy else _) = _
    rw [if_neg (by decide), hread, Option.bind_some, hstub]
    exact hpolicy
  · obtain ⟨hsent, hreplied⟩ := policyServe_replied (policyHandlers w pfw other policy) hread
    have hhandle : (policyHandlers w pfw other policy).handle (.policy (arrived name) (some op.message.cmd.val)
        (arrived op.message.value) op.message.apply op.message.len) = (a.ret, a.response) := by
      simp only [policyHandlers, hstub]
    rw [policyAnswer, mediaProxyOnceAnswer, hmade, Option.map_some]
    show some (if (0 : Int) < 0 then _ else readAnswer w (policyServe w _ p).1 (policyServe w _ p).2) = _
    rw [if_neg (by decide), hreplied.answer (Int.le_of_eq hsent.symm), hhandle]

/-! ### All servers -/

/-- The policies that a call reaches, in the order of the list; `world` has the policy of the CPU in each place, if it
can be reached, and the CPUs of two places are different ones. -/
def reached (cpus : CBytes) (world : Nat → Option σ) : List σ :=
  (List.range (mediaProxyNames cpus).length).filterMap world

/-- What all CPUs of the list that can be reached do with their policy. -/
def everywhere (cpus : CBytes) (world : Nat → Option σ) (f : σ → σ) (k : Nat) : Option σ :=
  if k < (mediaProxyNames cpus).length then (world k).map f else world k

/-- `media_proxy` for the policy, without a handle. -/
def policyProxy (w : SizeT) (pfw : Pfw σ) (other : Handlers) (cpus : CBytes) (world : Nat → Option σ) :
    PolicyProxy (Nat → Option σ) := fun name cmd value apply len buffer =>
  let message := ⟨cmd, value, apply, len⟩
  let c := mediaProxy false cpus (fun k => (world k).bind (policyAnswer w pfw other name message)) len buffer
  if c.nullCopied then none else some (everywhere cpus world (policyAfter w pfw name message), c.ret, c.res)

theorem reached_everywhere (cpus : CBytes) (world : Nat → Option σ) (f : σ → σ) :
    reached cpus (everywhere cpus world f) = (reached cpus world).map f := by
  unfold reached
  rw [List.map_filterMap]
  refine List.filterMap_congr fun k hk => ?_
  rw [everywhere, if_pos (List.mem_range.1 hk)]

theorem everywhere_everywhere (cpus : CBytes) (world : Nat → Option σ) (f g : σ → σ) :
    everywhere cpus (everywhere cpus world f) g = everywhere cpus world (g ∘ f) := by
  funext k
  unfold everywhere
  by_cases hk : k < (mediaProxyNames cpus).length
  · rw [if_pos hk, if_pos hk, if_pos hk, Option.map_map]
  · rw [if_neg hk, if_neg hk, if_neg hk]

theorem answers_attemptsOf (a : σ → Answer) :
    answers (attemptsOf cpus fun k => (world k).map a) = (reached cpus world).map a := by
  unfold answers attemptsOf reached
  rw [List.map_filterMap, List.filterMap_map, List.range_eq_range', ← List.zipIdx_map_snd 0 (mediaProxyNames cpus),
    List.filterMap_map]
  rfl

/-- All CPUs that can be reached are asked, and the last answer counts. -/
theorem mediaProxy_reached (a : σ → Answer) {len : BitVec 32} (buffer : List UInt8)
    (hcopied : ∀ s ∈ reached cpus world, (a s).succeeded → (a s).Copied len) :
    let c := mediaProxy false cpus (fun k => (world k).map a) len buffer
    c.nullCopied = false ∧ (reached cpus world = [] → c.ret = -ENOSYS) ∧
      ∀ s, (reached cpus world).getLast? = some s → c.ret = (a s).ret ∧ ((a s).succeeded → (a s).HeldBy len c.res) := by
  have hanswers : answers (attemptsOf cpus fun k => (world k).map a) = (reached cpus world).map a :=
    answers_attemptsOf a
  have hclosed : (mediaProxyStart buffer).AllClosed := fun k hk => absurd hk (Nat.not_lt_zero k)
  have hall : ∀ b ∈ answers (attemptsOf cpus fun k => (world k).map a), b.succeeded → b.Copied len := by
    rw [hanswers]
    intro b hb hs
    obtain ⟨s, hs', rfl⟩ := List.mem_map.1 hb
    exact hcopied s hs' hs
  obtain ⟨hend, hlast⟩ := mediaProxyLoop_oneShot hclosed rfl hall
  refine ⟨hend.returned, fun hnil => ?_, fun s hs => hlast (a s) ?_⟩
  · show (mediaProxyLoop _ _ _ _).ret = _
    rw [mediaProxyLoop_unreached false _ (hanswers.trans (by rw [hnil]; rfl))]
    rfl
  · rw [hanswers, List.getLast?_map, hs, Option.map_some]

/-- A call ends with what the last server gives, and every server has done it.  It does not come to an end if one of
them gives an empty string. -/
theorem PolicyOp.remote_everywhere (hfits : op.Fits w name) (other : Handlers) (cpus : CBytes) (world : Nat → Option σ)
    (buffer : List UInt8) :
    op.remote w (policyProxy w pfw other cpus world) name buffer =
      if ∃ s ∈ reached cpus world, (op.onLibrary pfw s (arrived name)).2 = (0, .string []) then none
      else some (everywhere cpus world fun s => (op.onLibrary pfw s (arrived name)).1,
        ((reached cpus world).getLast?.map fun s => (op.onLibrary pfw s (arrived name)).2).getD
          (-ENOSYS, .nothing)) := by
  have hafter : policyAfter w pfw name op.message = fun s => (op.onLibrary pfw s (arrived name)).1 :=
    funext fun s => (policyAnswer_onLibrary hfits other s).1
  -- What each server that is reached would answer, whether or not the call gets to it.
  have hall : ∀ s, ∃ a : LibraryAnswer σ,
      policyAnswer w pfw other name op.message s = some ⟨a.ret.toInt, arrived a.response⟩ ∧
        op.Delivers w a (op.onLibrary pfw s (arrived name)).2 := fun s => (policyAnswer_onLibrary hfits other s).2
  choose a hanswer hdelivers using hall
  have hproxy : (fun k => (world k).bind (policyAnswer w pfw other name op.message)) =
      fun k => (world k).map fun s => ⟨(a s).ret.toInt, arrived (a s).response⟩ := by
    funext k
    cases world k with
    | none => rfl
    | some s => exact hanswer s
  -- An empty string travels as NULL, which the proxy hands to strlcpy.
  have hempty (s : σ) : (op.onLibrary pfw s (arrived name)).2 = (0, .string []) ↔
      (Answer.mk (a s).ret.toInt (arrived (a s).response)).succeeded ∧
        ¬ (Answer.mk (a s).ret.toInt (arrived (a s).response)).Copied op.message.len := by
    rw [← (hdelivers s).empty, Answer.succeeded, Answer.Copied, decide_eq_true_eq, not_or, Int.not_le, ne_eq, not_not,
      arrived_eq_none]
  rw [op.remote_eq]
  unfold policyProxy
  dsimp only
  rw [hproxy, hafter]
  by_cases hnull : ∃ s ∈ reached cpus world, (op.onLibrary pfw s (arrived name)).2 = (0, .string [])
  · obtain ⟨s, hs, hgives⟩ := hnull
    have hcopied : (mediaProxy false cpus (fun k => (world k).map fun s =>
        ⟨(a s).ret.toInt, arrived (a s).response⟩) op.message.len (op.buffer buffer)).nullCopied = true := by
      refine mediaProxyLoop_nullCopied ?_
      rw [if_neg (by decide), answers_attemptsOf]
      exact ⟨_, List.mem_map_of_mem hs, (hempty s).1 hgives⟩
    rw [if_pos hcopied, if_pos ⟨s, hs, hgives⟩, Option.map_none]
  · obtain ⟨hreturned, hnobody, hlast⟩ := mediaProxy_reached (fun s => ⟨(a s).ret.toInt, arrived (a s).response⟩)
      (op.buffer buffer) fun s hs hsucceeded => by_contra fun hnot => hnull ⟨s, hs, (hempty s).2 ⟨hsucceeded, hnot⟩⟩
    rw [if_neg (by rw [hreturned]; decide), if_neg hnull, Option.map_some]
    refine congrArg (fun told => some (_, told)) ?_
    cases hs : (reached cpus world).getLast? with
    | none =>
      rw [hnobody (List.getLast?_eq_none_iff.1 hs)]
      cases op <;> rfl
    | some s =>
      obtain ⟨hret, hheld⟩ := hlast s hs
      rw [hret, Option.map_some, Option.getD_some]
      by_cases hfailed : (a s).ret.toInt < 0
      · rw [(hdelivers s).failed hfailed]
        have hnot : ¬ 0 ≤ (a s).ret.toInt := Int.not_le.2 hfailed
        cases op <;> simp [PolicyOp.taken, hnot]
      · refine (hdelivers s).took (Int.not_lt.1 hfailed) _ fun hlen => ?_
        have hholds := hheld (decide_eq_true (Int.not_lt.1 hfailed)) hlen
        have htext : (arrived (a s).response).getD [] = responseText (a s).response := by
          by_cases hnil : responseText (a s).response = []
          · rw [(arrived_eq_none _).2 hnil, hnil]
            rfl
          · rw [arrived_of_ne _ hnil]
            rfl
        dsimp only at hholds
        rwa [htext] at hholds

/-! ### Runs of calls -/

/-- A call of a client, with what is in its buffer before. -/
structure PolicyCall where
  name : Option CBytes
  op : PolicyOp
  buffer : List UInt8 := []

/-- The calls of a client one after the other, and what it is told. -/
def remoteRun (w : SizeT) (pfw : Pfw σ) (other : Handlers) (cpus : CBytes) :
    (Nat → Option σ) → List PolicyCall → Option ((Nat → Option σ) × List (Int × PolicyValue))
  | world, [] => some (world, [])
  | world, c :: calls => do
    let r ← c.op.remote w (policyProxy w pfw other cpus world) c.name c.buffer
    let rest ← remoteRun w pfw other cpus r.1 calls
    return (rest.1, r.2 :: rest.2)

/-- The same calls of a library. -/
def localRun (pfw : Pfw σ) : σ → List PolicyCall → σ × List (Int × PolicyValue)
  | policy, [] => (policy, [])
  | policy, c :: calls =>
    let r := c.op.onLibrary pfw policy (arrived c.name)
    let rest := localRun pfw r.1 calls
    (rest.1, r.2 :: rest.2)

/-- The request of a call, as a stub reads it. -/
def PolicyCall.request (c : PolicyCall) : StubCall :=
  .policy (arrived c.name) (some c.op.message.cmd.val) (arrived c.op.message.value) c.op.message.apply c.op.message.len

/-- The policy handler of a server passes a call on to the library, and answers what comes of it. -/
def PolicyCall.Handled (w : SizeT) (pfw : Pfw σ) (c : PolicyCall) : Prop :=
  ∀ (policy : σ) (s : MediaServer) (k : Nat), ∃ a : LibraryAnswer σ, policyStub w pfw policy c.request = some a ∧
    a.policy = (c.op.onLibrary pfw policy (arrived c.name)).1 ∧
    mediaStubHandle s k a.outcomes c.request =
      some { ret := a.ret.toInt, server := s, response := a.response.map fun str => text str.val }

theorem PolicyCall.handled (w : SizeT) (pfw : Pfw σ) (c : PolicyCall) : c.Handled w pfw := by
  intro policy s k
  obtain ⟨a, hlibrary, hpolicy, -⟩ := c.op.delivers w pfw policy (arrived c.name)
  have hstub : policyStub w pfw policy c.request = some a := by
    rw [PolicyCall.request, policyStub, c.op.libraryCmd_message]
    exact hlibrary
  exact ⟨a, hstub, hpolicy, mediaStubHandle_policyStub hstub s k⟩

theorem remoteRun_eq {calls : List PolicyCall} (hfits : ∀ c ∈ calls, c.op.Fits w c.name) (other : Handlers)
    (cpus : CBytes) (world : Nat → Option σ) :
    remoteRun w pfw other cpus world calls =
      if ∃ s ∈ reached cpus world, (0, .string []) ∈ (localRun pfw s calls).2 then none
      else some (everywhere cpus world fun s => (localRun pfw s calls).1,
        ((reached cpus world).getLast?.map fun s => (localRun pfw s calls).2).getD
          (calls.map fun _ => (-ENOSYS, .nothing))) := by
  induction calls generalizing world with
  | nil =>
    have hsame : everywhere cpus world (fun s => (localRun pfw s []).1) = world := by
      funext k
      unfold everywhere
      cases world k <;> simp [localRun]
    rw [if_neg (by simp [localRun]), hsame]
    cases (reached cpus world).getLast? <;> rfl
  | cons c calls ih =>
    let f (s : σ) : σ := (c.op.onLibrary pfw s (arrived c.name)).1
    have hcall : c.op.remote w (policyProxy w pfw other cpus world) c.name c.buffer = _ :=
      PolicyOp.remote_everywhere (hfits c List.mem_cons_self) other cpus world c.buffer
    have hrest := ih (fun c hc => hfits c (List.mem_cons_of_mem _ hc)) (everywhere cpus world f)
    have hstops (s : σ) : (0, .string []) ∈ (localRun pfw s (c :: calls)).2 ↔
        (c.op.onLibrary pfw s (arrived c.name)).2 = (0, .string []) ∨
          (0, .string []) ∈ (localRun pfw (f s) calls).2 := by
      rw [localRun, List.mem_cons, eq_comm]
    rw [remoteRun, hcall]
    by_cases hnull : ∃ s ∈ reached cpus world, (c.op.onLibrary pfw s (arrived c.name)).2 = (0, .string [])
    · obtain ⟨s, hs, hempty⟩ := hnull
      rw [if_pos ⟨s, hs, hempty⟩, if_pos ⟨s, hs, (hstops s).2 (.inl hempty)⟩]
      rfl
    · rw [if_neg hnull]
      show (remoteRun w pfw other cpus (everywhere cpus world f) calls >>= _) = _
      rw [hrest, reached_everywhere, everywhere_everywhere, List.getLast?_map]
      by_cases hlater : ∃ s ∈ reached cpus world, (0, .string []) ∈ (localRun pfw (f s) calls).2
      · obtain ⟨s, hs, hempty⟩ := hlater
        rw [if_pos ⟨f s, List.mem_map_of_mem hs, hempty⟩, if_pos ⟨s, hs, (hstops s).2 (.inr hempty)⟩]
        rfl
      · have hnone : ¬ ∃ s ∈ (reached cpus world).map f, (0, .string []) ∈ (localRun pfw s calls).2 := by
          rintro ⟨s', hs', hempty⟩
          obtain ⟨s, hs, rfl⟩ := List.mem_map.1 hs'
          exact hlater ⟨s, hs, hempty⟩
        have hnever : ¬ ∃ s ∈ reached cpus world, (0, .string []) ∈ (localRun pfw s (c :: calls)).2 := by
          rintro ⟨s, hs, hempty⟩
          rcases (hstops s).1 hempty with hempty | hempty
          · exact hnull ⟨s, hs, hempty⟩
          · exact hlater ⟨s, hs, hempty⟩
        rw [if_neg hnone, if_neg hnever]
        cases (reached cpus world).getLast? <;> rfl

/-- A run of calls is a run of the library on each server that can be reached, where the policy handler passes each
call on, and the caller is told what the last of them gives.  The run does not come to an end exactly if on one of them
the library gives an empty string. -/
theorem remoteRun_local {calls : List PolicyCall} (hfits : ∀ c ∈ calls, c.op.Fits w c.name) (other : Handlers)
    (cpus : CBytes) (world : Nat → Option σ) :
    (∀ c ∈ calls, c.Handled w pfw) ∧ remoteRun w pfw other cpus world calls =
      if ∃ s ∈ reached cpus world, (0, .string []) ∈ (localRun pfw s calls).2 then none
      else some (everywhere cpus world fun s => (localRun pfw s calls).1,
        ((reached cpus world).getLast?.map fun s => (localRun pfw s calls).2).getD
          (calls.map fun _ => (-ENOSYS, .nothing))) :=
  ⟨fun c _ => c.handled w pfw, remoteRun_eq hfits other cpus world⟩

/-- A library with one criterion, which is a number. -/
def counterPfw : Pfw (BitVec 32) where
  pfwSetint _ _ value := (value, 0)
  pfwIncrease policy _ := (policy + 1, 0)
  pfwDecrease policy _ := (policy - 1, 0)
  pfwSetstring policy _ _ := (policy, BitVec.ofInt 32 (-EINVAL))
  pfwInclude policy _ _ := (policy, BitVec.ofInt 32 (-EINVAL))
  pfwExclude policy _ _ := (policy, BitVec.ofInt 32 (-EINVAL))
  pfwContain policy _ _ := ((policy, BitVec.ofInt 32 (-EINVAL)), 0)
  pfwGetint policy _ := ((policy, 0), policy)
  pfwGetstring policy _ _ := ((policy, BitVec.ofInt 32 (-EINVAL)), emptyStr)
  pfwGetrange policy _ := ((policy, BitVec.ofInt 32 (-EINVAL)), 0, 0)
  pfwApply policy := policy
  getstring_fits _ _ _ h := h

/-- A client counts up, and asks. -/
def samplePolicyCalls : List PolicyCall := [⟨none, .increase 1, []⟩, ⟨none, .getInt, List.replicate 32 1⟩]

theorem fits_samplePolicyCalls : ∀ c ∈ samplePolicyCalls, c.op.Fits .w64 c.name := by
  intro c hc
  rcases List.mem_cons.1 hc with rfl | hc
  · refine ⟨?_, ?_, ?_, ?_, ?_, ?_, ?_, ?_, ?_, ?_, ?_, ?_, trivial⟩ <;> decide
  · obtain rfl := List.mem_singleton.1 hc
    refine ⟨?_, ?_, ?_, ?_, ?_, ?_, ?_, ?_, ?_, ?_, ?_, ?_, trivial⟩ <;> decide

/-- Of two CPUs the second one is asked last. -/
theorem remoteRun_local_sample :
    (remoteRun .w64 counterPfw silentHandlers barredNames (fun k => some (BitVec.ofNat 32 (3 + 4 * k)))
      samplePolicyCalls).map Prod.snd = some [(0, .nothing), (0, .int 8)] := by
  have hnames : (mediaProxyNames barredNames).length = 2 := by
    rw [mediaProxyNames, Strtok.tokens_eq_pieces]
    decide
  have hreached (f : Nat → Option (BitVec 32)) : reached barredNames f = (List.range 2).filterMap f := by
    rw [reached, hnames]
  rw [(remoteRun_local fits_samplePolicyCalls _ _ _).2, hreached]
  decide

end MediaFramework
