import MediaFramework.Server.RpcLayout

/-!
# A synchronous call and its reply (`media_proxy_once`)

The server puts the result of a handler and its response into the reply, the client takes them out again and copies the
response for the caller.  A response that is missing and an empty one are the same on the wire, and the client reads
both as NULL.  It copies what it has read without looking.
-/

namespace MediaFramework

variable {w wc ws : SizeT} {request out : MediaParcel} {call : StubCall} {type apply resLen : BitVec 32}
  {target cmd arg : Option CBytes} {oks : List Bool} {res : List UInt8}

/-! ### The client -/

/-- `strlcpy` into a buffer of `size` bytes, if there are any. -/
def strlcpy (dst src : List UInt8) (size : Nat) : List UInt8 :=
  let text := src.take (size - 1)
  text ++ 0 :: dst.drop (text.length + 1)

/-- What `media_proxy_once` has got when it comes to copying: `ret < 0 ? ret : resp`, and `response`. -/
structure Answer where
  ret : Int
  response : Option (List UInt8)
  deriving DecidableEq

/-- `media_parcel_read_scanf(&out, "%i%s", &resp, &response)` after `media_proxy_send_with_ack` returned `sent`. -/
def readAnswer (w : SizeT) (sent : Int) (out : MediaParcel) : Answer :=
  if sent < 0 then ⟨sent, none⟩
  else
    let r := mediaParcelReadVscanf w out "%i%s".toList
    ⟨if r.1 < 0 then r.1 else (readInt r.2.1 0).toInt, readStr r.2.1 1⟩

/-- What the caller of `media_proxy_once` sees: the result, the buffer, and whether `strlcpy` was given NULL, which it
does not take. -/
structure OnceResult where
  ret : Int
  res : List UInt8
  nullCopied : Bool
  deriving DecidableEq

/-- The end of `media_proxy_once`. -/
def Answer.deliver (a : Answer) (resLen : BitVec 32) (res : List UInt8) : OnceResult :=
  if a.ret < 0 then ⟨a.ret, res, false⟩
  else if 0 < resLen.toInt then
    match a.response with
    | none => ⟨a.ret, res, true⟩
    | some response => ⟨a.ret, strlcpy res response resLen.toNat, false⟩
  else ⟨a.ret, res, false⟩

/-- What a server answers to the request of `media_proxy_once`; `transport` is `media_proxy_send_with_ack`. -/
def mediaProxyOnceAnswer (w : SizeT) (type : BitVec 32) (target cmd arg : Option CBytes) (apply resLen : BitVec 32)
    (oks : List Bool) (transport : MediaParcel → Int × MediaParcel) : Option Answer :=
  (mediaProxyOnce w type target cmd arg apply resLen oks).map fun r =>
    if r.1 < 0 then ⟨r.1, none⟩ else readAnswer w (transport r.2).1 (transport r.2).2

/-- The whole of `media_proxy_once`. -/
def mediaProxyOnceCall (w : SizeT) (type : BitVec 32) (target cmd arg : Option CBytes) (apply resLen : BitVec 32)
    (oks : List Bool) (transport : MediaParcel → Int × MediaParcel) (res : List UInt8) : Option OnceResult :=
  (mediaProxyOnceAnswer w type target cmd arg apply resLen oks transport).map fun a => a.deliver resLen res

/-! ### The server -/

/-- The handlers: each returns a result, and leaves a string in the buffer if there is one. -/
structure Handlers where
  handle : StubCall → BitVec 32 × Option CBytes
  fits : ∀ call str, (handle call).2 = some str → (str.val.length : Int) < call.len.toInt

/-- The stub has answered a request, and the client has got the reply. -/
structure Replied (w : SizeT) (h : Handlers) (request : MediaParcel) (call : StubCall) (out : MediaParcel) : Prop where
  read : (mediaStubRead w request).1 = some call
  reply : ∃ p, (mediaStubOnreceive w h.handle request (some mediaParcelInit) []).out = some (some (0, p)) ∧
    out.payload = p.payload
  start : out.next = 0

/-- The response as a string, the empty one if there is none. -/
def responseText (response : Option CBytes) : List UInt8 := (response.map Subtype.val).getD []

/-- The caller gets the result, and in the buffer the response, cut to its size, with its end. -/
def OnceResult.Faithful (r : OnceResult) (ret : BitVec 32) (response : Option CBytes) (resLen : BitVec 32)
    (res : List UInt8) : Prop :=
  r.ret = ret.toInt ∧ r.nullCopied = false ∧ r.res.length = res.length ∧
    (0 ≤ ret.toInt → 0 < resLen.toInt → (responseText response).take (resLen.toNat - 1) ++ [0] <+: r.res)

instance (r : OnceResult) (ret : BitVec 32) (response : Option CBytes) (resLen : BitVec 32) (res : List UInt8) :
    Decidable (r.Faithful ret response resLen res) := inferInstanceAs (Decidable (_ ∧ _ ∧ _))

/-- The call was refused, or wants no response, or there is one. -/
def Copies (ret : BitVec 32) (response : Option CBytes) (resLen : BitVec 32) : Prop :=
  ret.toInt < 0 ∨ resLen.toInt ≤ 0 ∨ responseText response ≠ []

instance (ret : BitVec 32) (response : Option CBytes) (resLen : BitVec 32) : Decidable (Copies ret response resLen) :=
  inferInstanceAs (Decidable (_ ∨ _ ∨ _))

/-! ### The buffer after the copy -/

theorem length_strlcpy {dst src : List UInt8} {size : Nat} (hsize : 0 < size) (hdst : dst.length = size) :
    (strlcpy dst src size).length = size := by
  unfold strlcpy
  rw [List.length_append, List.length_cons, List.length_drop, List.length_take]
  omega

/-- The buffer begins with the text that was copied, as far as there is room, and its end. -/
theorem strlcpy_prefix (dst src : List UInt8) (size : Nat) : src.take (size - 1) ++ [0] <+: strlcpy dst src size := by
  unfold strlcpy
  exact ⟨dst.drop ((src.take (size - 1)).length + 1), by simp⟩

/-! ### The reply -/

/-- A reply fits into a parcel. -/
theorem fitsParcel_reply {ret : BitVec 32} {response : Option CBytes}
    (hshort : (responseText response).length < 2 ^ 31) : FitsParcel w [.i ret, .s response] := by
  have hint : (ParcelArg.i ret).encode.length = 4 := rfl
  have hstr : (ParcelArg.s response).encode.length = (responseText response).length + 1 := by
    simp [ParcelArg.encode, responseText]
  have hmod := le_mod w
  have hcap : mediaParcelInit.cap = 256 := rfl
  have hlen : mediaParcelInit.len = 0 := rfl
  have hfirst : grownCap 256 4 = 256 := rfl
  have hsecond : grownCap 256 (4 + ((responseText response).length + 1)) < 2 ^ 31 + 5 := by
    unfold grownCap
    split
    · omega
    · split <;> omega
  simp only [FitsParcel, Appendable, List.map_cons, List.map_nil, hint, hstr, hcap, hlen, Nat.zero_add, hfirst,
    MEDIA_PARCEL_HEADER_LEN, and_true]
  omega

/-- A response is shorter than the buffer it was left in. -/
theorem Handlers.short (h : Handlers) (call : StubCall) : (responseText (h.handle call).2).length < 2 ^ 31 := by
  cases hresponse : (h.handle call).2 with
  | none => simp [responseText]
  | some str =>
    have hfits := h.fits call str hresponse
    have hlen := BitVec.toInt_lt (x := call.len)
    simp only [responseText, Option.map_some, Option.getD_some]
    omega

/-- The client reads the result, and the response as the parcel has it. -/
theorem Replied.answer {h : Handlers} {sent : Int} (hsent : 0 ≤ sent) (hr : Replied ws h request call out) :
    readAnswer wc sent out = ⟨(h.handle call).1.toInt, arrived (h.handle call).2⟩ := by
  obtain ⟨p, hout, hpayload⟩ := hr.reply
  have hmatch : Matches "%i%s".toList [.i (h.handle call).1, .s (h.handle call).2] := rfl
  have happend : mediaParcelAppendVprintf ws mediaParcelInit "%i%s".toList
      [.i (h.handle call).1, .s (h.handle call).2] [] = some (0, p) := by
    simpa only [mediaStubOnreceive, hr.read, Option.map_some, Option.getD_some, Option.some.injEq] using hout
  obtain ⟨ret, q, hq, ⟨-, happended⟩, -⟩ :=
    mediaParcelAppendVprintf_spec hmatch (sized_init ws) (fitsParcel_reply (w := ws) (h.short call)) []
  obtain ⟨rfl, rfl⟩ : ret = 0 ∧ q = p := by simpa using hq.symm.trans happend
  have hbytes := (happended.resolve_right fun hfail => absurd hfail.1 (by decide)).2
  rw [payload_init, List.nil_append] at hbytes
  have hdrop : out.payload.drop out.next =
      [ParcelArg.i (h.handle call).1, .s (h.handle call).2].flatMap ParcelArg.encode ++ [] := by
    rw [hr.start, List.drop_zero, List.append_nil, hpayload, hbytes]
  have hread := mediaParcelReadVscanf_spec (w := wc) hmatch hdrop
  unfold readAnswer
  rw [if_neg (by omega), hread]
  simp only [List.map_cons, List.map_nil, received_s]
  rfl

theorem arrived_eq_none (response : Option CBytes) : arrived response = none ↔ responseText response = [] := by
  rcases response with - | ⟨bs, hbs⟩
  · simp [arrived, responseText]
  · by_cases hnil : bs = [] <;> simp [arrived, responseText, hnil, Option.filter]

theorem arrived_of_ne (response : Option CBytes) (h : responseText response ≠ []) :
    arrived response = some (responseText response) := by
  rcases response with - | ⟨bs, hbs⟩
  · exact absurd rfl h
  · have hne : bs ≠ [] := h
    simp [arrived, responseText, hne, Option.filter]

theorem deliver_faithful {ret : BitVec 32} {response : Option CBytes}
    (hbuf : 0 < resLen.toInt → res.length = resLen.toNat) :
    ((Answer.mk ret.toInt (arrived response)).deliver resLen res).Faithful ret response resLen res ↔
      Copies ret response resLen := by
  unfold Answer.deliver OnceResult.Faithful Copies
  dsimp only
  by_cases hret : ret.toInt < 0
  · rw [if_pos hret]
    exact iff_of_true ⟨rfl, rfl, rfl, fun hpos => absurd hret (by omega)⟩ (.inl hret)
  rw [if_neg hret]
  by_cases hlen : 0 < resLen.toInt
  · rw [if_pos hlen]
    by_cases htext : responseText response = []
    · -- NULL is copied
      rw [(arrived_eq_none response).2 htext]
      refine iff_of_false (fun hall => Bool.noConfusion hall.2.1) ?_
      rintro (hneg | hle | hne)
      · exact hret hneg
      · omega
      · exact hne htext
    · rw [arrived_of_ne response htext]
      have hpos : 0 < resLen.toNat := by
        have hnat := BitVec.toInt_eq_toNat_cond resLen
        split at hnat <;> omega
      refine iff_of_true ⟨rfl, rfl, ?_, fun _ _ => strlcpy_prefix _ _ _⟩ (.inr (.inr htext))
      rw [hbuf hlen]
      exact length_strlcpy hpos (hbuf hlen)
  · rw [if_neg hlen]
    exact iff_of_true ⟨rfl, rfl, rfl, fun _ hpos => absurd hpos hlen⟩ (.inr (.inl (by omega)))

/-- A call that was answered is faithful exactly if there is something to copy, or nothing is copied. -/
theorem mediaProxyOnce_faithful {h : Handlers} {transport : MediaParcel → Int × MediaParcel} {parcel : MediaParcel}
    {sent : Int} (hmade : mediaProxyOnce wc type target cmd arg apply resLen oks = some (0, parcel))
    (htransport : transport parcel = (sent, out)) (hsent : 0 ≤ sent) (hr : Replied ws h request call out)
    (hbuf : 0 < resLen.toInt → res.length = resLen.toNat) :
    ∃ r, mediaProxyOnceCall wc type target cmd arg apply resLen oks transport res = some r ∧
      (r.Faithful (h.handle call).1 (h.handle call).2 resLen res ↔
        Copies (h.handle call).1 (h.handle call).2 resLen) := by
  refine ⟨(Answer.mk (h.handle call).1.toInt (arrived (h.handle call).2)).deliver resLen res, ?_,
    deliver_faithful hbuf⟩
  rw [mediaProxyOnceCall, mediaProxyOnceAnswer, hmade]
  simp only [Option.map_some, Int.lt_irrefl, if_false, htransport, hr.answer hsent]

/-! ### An empty response -/

/-- A request that fits into a parcel is answered. -/
theorem exists_replied {id : ModuleId} (hfits : FitsParcel w (MediaRequest.once id target cmd arg apply resLen).args)
    (h : Handlers) : ∃ parcel request out, mediaProxyOnce w id.val target cmd arg apply resLen [] = some (0, parcel) ∧
      Replied w h request (id.call target cmd arg apply resLen) out := by
  obtain ⟨p, hmake, hall⟩ := agrees_of_fits hfits [] (by simp)
  have hcall : (mediaStubRead w { p with next := 0 }).1 = some (id.call target cmd arg apply resLen) :=
    (hall { p with next := 0 } rfl rfl h.handle none []).1
  generalize id.call target cmd arg apply resLen = call at hcall
  have hmatch : Matches "%i%s".toList [.i (h.handle call).1, .s (h.handle call).2] := rfl
  obtain ⟨ret, q, hq, -, hok⟩ := mediaParcelAppendVprintf_spec hmatch (sized_init w)
    (fitsParcel_reply (w := w) (h.short call)) []
  obtain rfl := hok (by simp)
  refine ⟨p, { p with next := 0 }, { q with next := 0 }, hmake, hcall, ⟨q, ?_, rfl⟩, rfl⟩
  simp only [mediaStubOnreceive, hcall, Option.map_some, Option.getD_some]
  rw [hq]

/-- A handler that returns 0 and leaves the buffer empty. -/
def silentHandlers : Handlers where
  handle _ := (0, none)
  fits _ _ h := by cases h

theorem fits_sampleOnce : FitsParcel .w64 (MediaRequest.once .graph none none none 0 8).args := by
  refine ⟨?_, ?_, ?_, ?_, ?_, ?_, ?_, ?_, ?_, ?_, trivial⟩ <;> decide

/-- A handler that returns 0 and leaves "ok" if there is room for it. -/
def okHandlers : Handlers where
  handle call := (0, if 2 < call.len.toInt then some ⟨[111, 107], by decide⟩ else none)
  fits call str h := by
    dsimp only at h
    split at h
    · rename_i hroom
      cases h
      exact hroom
    · cases h

theorem mediaProxyOnce_faithful_sample : ∃ out r,
    mediaProxyOnceCall .w64 MEDIA_ID_GRAPH none none none 0 8 [] (fun _ => (0, out)) (List.replicate 8 1) = some r ∧
      r.Faithful 0 (some ⟨[111, 107], by decide⟩) 8 (List.replicate 8 1) := by
  obtain ⟨parcel, request, out, hmade, hr⟩ := exists_replied fits_sampleOnce okHandlers
  have htransport : (fun _ : MediaParcel => ((0 : Int), out)) parcel = (0, out) := rfl
  have hcall : ∃ r, mediaProxyOnceCall .w64 MEDIA_ID_GRAPH none none none 0 8 [] (fun _ => (0, out))
      (List.replicate 8 1) = some r ∧
        (r.Faithful 0 (some ⟨[111, 107], by decide⟩) 8 (List.replicate 8 1) ↔
          Copies 0 (some ⟨[111, 107], by decide⟩) 8) :=
    mediaProxyOnce_faithful hmade htransport (Int.le_refl 0) hr fun _ => List.length_replicate
  obtain ⟨r, hr, hfaithful⟩ := hcall
  exact ⟨out, r, hr, hfaithful.2 (by decide)⟩

/-- The response of eight bytes is asked for, the handler succeeds, and `strlcpy` is given NULL. -/
theorem mediaProxyOnce_not_faithful : ¬ ∀ (w : SizeT) (h : Handlers) (parcel request out : MediaParcel)
    (call : StubCall) (r : OnceResult) (res : List UInt8), res.length = 8 →
    mediaProxyOnce w MEDIA_ID_GRAPH none none none 0 8 [] = some (0, parcel) → Replied w h request call out →
    mediaProxyOnceCall w MEDIA_ID_GRAPH none none none 0 8 [] (fun _ => (0, out)) res = some r →
      r.Faithful (h.handle call).1 (h.handle call).2 8 res := by
  intro hall
  obtain ⟨parcel, request, out, hmade, hr⟩ := exists_replied fits_sampleOnce silentHandlers
  have hcall : mediaProxyOnceCall .w64 MEDIA_ID_GRAPH none none none 0 8 [] (fun _ => (0, out)) (List.replicate 8 1) =
      some ((Answer.mk 0 none).deliver 8 (List.replicate 8 1)) := by
    have hid : MEDIA_ID_GRAPH = ModuleId.graph.val := rfl
    rw [mediaProxyOnceCall, mediaProxyOnceAnswer, hid, hmade]
    simp only [Option.map_some, Int.lt_irrefl, if_false, hr.answer (Int.le_refl 0)]
    rfl
  have hfaithful := hall _ _ _ _ _ _ _ _ (by decide) hmade hr hcall
  exact absurd hfaithful.2.1 (by decide)

end MediaFramework
