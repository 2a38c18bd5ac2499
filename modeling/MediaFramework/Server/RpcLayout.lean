import Mathlib.Algebra.GroupWithZero.Nat
import MediaFramework.Client.MediaRequests

/-!
# Client and server agree on requests

Each request is the number of its module and the fields of the module, and the stub reads these fields.  Strings that
do not fit into the 32 bit length of a parcel are the exception.
-/

namespace MediaFramework

variable {w : SizeT} {req : MediaRequest} {id : ModuleId} {target cmd arg : Option CBytes} {apply len : BitVec 32}
  {fmt : List Char} {ap : List ParcelArg} {p q : MediaParcel} {rest data : List UInt8}

/-! ### The layout -/

/-- The fields of a module after its number. -/
def ModuleId.fields (target cmd arg : Option CBytes) (apply len : BitVec 32) : ModuleId → List ParcelArg
  | .policy => [.s target, .s cmd, .s arg, .i apply, .i len]
  | .focus => [.s target, .s cmd, .i len]
  | .graph | .player | .recorder | .session => [.s target, .s cmd, .s arg, .i len]

def ModuleId.format : ModuleId → List Char
  | .policy => "%s%s%s%i%i".toList
  | .focus => "%s%s%i".toList
  | .graph | .player | .recorder | .session => "%s%s%s%i".toList

/-- The module and the fields of a request. -/
def MediaRequest.layout : MediaRequest → ModuleId × List ParcelArg
  | .once id target cmd arg apply resLen => (id, id.fields target cmd arg apply resLen)
  | .player target cmd arg resLen => (.player, ModuleId.player.fields target cmd arg 0 resLen)
  | .recorder target cmd arg resLen => (.recorder, ModuleId.recorder.fields target cmd arg 0 resLen)
  | .session target cmd arg resLen => (.session, ModuleId.session.fields target cmd arg 0 resLen)
  | .focus target cmd => (.focus, ModuleId.focus.fields target cmd none 0 0)
  | .policy name cmd value apply len => (.policy, ModuleId.policy.fields name cmd value apply len)

def MediaRequest.args (req : MediaRequest) : List ParcelArg := .i req.layout.1.val :: req.layout.2

/-- The five files make their requests by one layout. -/
theorem MediaRequest.make_eq (w : SizeT) (req : MediaRequest) (oks : List Bool) :
    req.make w oks = mediaParcelAppendVprintf w mediaParcelInit ("%i".toList ++ req.layout.1.format) req.args oks := by
  cases req with
  | once id => cases id <;> rfl
  | _ => rfl

theorem MediaRequest.matches_args (req : MediaRequest) :
    Matches ("%i".toList ++ req.layout.1.format) req.args := by
  cases req with
  | once id => cases id <;> rfl
  | _ => rfl

theorem ModuleId.matches_fields (id : ModuleId) (target cmd arg : Option CBytes) (apply len : BitVec 32) :
    Matches id.format (id.fields target cmd arg apply len) := by
  cases id <;> rfl

theorem received_s (str : Option CBytes) : (ParcelArg.s str).received = .s (arrived str) := by
  rcases str with - | ⟨bs, hbs⟩
  · rfl
  · by_cases hnil : bs = [] <;> simp [ParcelArg.received, ParcelArg.value, arrived, hnil, Option.filter]

/-- The stub reads the fields of a request, and all of them. -/
theorem mediaStubRead_layout (id : ModuleId) (target cmd arg : Option CBytes) (apply len : BitVec 32)
    (hdrop : p.payload.drop p.next = toBytes 4 id.val.toNat ++
      ((id.fields target cmd arg apply len).flatMap ParcelArg.encode ++ rest)) :
    mediaStubRead w p = (some (id.call target cmd arg apply len),
      p.advance (4 + ((id.fields target cmd arg apply len).flatMap ParcelArg.encode).length)) := by
  have hid := mediaParcelCopy_spec (w := w) hdrop (by decide) id.val.isLt
  have hrest := drop_advance hdrop
  rw [length_toBytes] at hrest
  have hfields := mediaParcelReadVscanf_spec (w := w) (id.matches_fields target cmd arg apply len) hrest
  rw [p.advance_advance] at hfields
  generalize ((id.fields target cmd arg apply len).flatMap ParcelArg.encode).length = n at hfields ⊢
  unfold mediaStubRead
  simp only [hid, BitVec.ofNat_toNat, BitVec.setWidth_eq]
  cases id with
  | policy =>
    have hread : mediaParcelReadVscanf w (p.advance 4) "%s%s%s%i%i".toList = _ := hfields
    rw [if_pos (by decide), hread, ModuleId.fields]
    simp only [List.map_cons, received_s]
    rfl
  | focus =>
    have hread : mediaParcelReadVscanf w (p.advance 4) "%s%s%i".toList = _ := hfields
    rw [if_neg (by decide),
      if_pos (by decide), hread, ModuleId.fields]
    simp only [List.map_cons, received_s]
    rfl
  | graph =>
    have hread : mediaParcelReadVscanf w (p.advance 4) "%s%s%s%i".toList = _ := hfields
    rw [if_neg (by decide), if_neg (by decide), if_pos (by decide), hread,
      ModuleId.fields]
    simp only [List.map_cons, received_s]
    rfl
  | player =>
    have hread : mediaParcelReadVscanf w (p.advance 4) "%s%s%s%i".toList = _ := hfields
    rw [if_neg (by decide), if_neg (by decide), if_neg (by decide), if_pos (by decide), hread,
      ModuleId.fields]
    simp only [List.map_cons, received_s]
    rfl
  | recorder =>
    have hread : mediaParcelReadVscanf w (p.advance 4) "%s%s%s%i".toList = _ := hfields
    rw [if_neg (by decide), if_neg (by decide), if_neg (by decide), if_neg (by decide), if_pos (by decide), hread,
      ModuleId.fields]
    simp only [List.map_cons, received_s]
    rfl
  | session =>
    have hread : mediaParcelReadVscanf w (p.advance 4) "%s%s%s%i".toList = _ := hfields
    rw [if_neg (by decide), if_neg (by decide), if_neg (by decide), if_neg (by decide), if_neg (by decide), if_pos
      (by decide), hread,
      ModuleId.fields]
    simp only [List.map_cons, received_s]
    rfl

/-- The request arrives as it is, whatever is read into what else: the handler of the module gets its fields, and the
whole payload has been read. -/
def Agrees (w : SizeT) (req : MediaRequest) : Prop :=
  ∀ oks : List Bool, false ∉ oks → ∃ p, req.make w oks = some (0, p) ∧
    ∀ q : MediaParcel, q.payload = p.payload → q.next = 0 → ∀ handle out oks',
      (mediaStubOnreceive w handle q out oks').call = some req.call ∧
        (mediaStubOnreceive w handle q out oks').parcel.next = q.len

theorem MediaRequest.layout_eq (req : MediaRequest) : ∃ target cmd arg apply len,
    req.layout.2 = req.layout.1.fields target cmd arg apply len ∧
      req.call = req.layout.1.call target cmd arg apply len := by
  cases req with
  | once id target cmd arg apply resLen | policy target cmd arg apply resLen =>
    exact ⟨target, cmd, arg, apply, resLen, rfl, rfl⟩
  | player target cmd arg resLen | recorder target cmd arg resLen | session target cmd arg resLen =>
    exact ⟨target, cmd, arg, 0, resLen, rfl, rfl⟩
  | focus target cmd => exact ⟨target, cmd, none, 0, 0, rfl, rfl⟩

theorem agrees_of_fits (hfits : FitsParcel w req.args) : Agrees w req := by
  intro oks hoks
  obtain ⟨ret, p, hmake, ⟨-, happended⟩, hok⟩ :=
    mediaParcelAppendVprintf_spec req.matches_args (sized_init w) hfits oks
  obtain rfl := hok hoks
  rw [payload_init, List.nil_append] at happended
  have hpayload : p.payload = req.args.flatMap ParcelArg.encode :=
    (happended.resolve_right fun h => absurd h.1 (by decide)).2
  refine ⟨p, (req.make_eq w oks).trans hmake, fun q hq hnext handle out oks' => ?_⟩
  obtain ⟨target, cmd, arg, apply, len, hfields, hcall⟩ := req.layout_eq
  have hdrop : q.payload.drop q.next = toBytes 4 req.layout.1.val.toNat ++
      ((req.layout.1.fields target cmd arg apply len).flatMap ParcelArg.encode ++ []) := by
    rw [hnext, List.drop_zero, hq, hpayload, List.append_nil, ← hfields]
    rfl
  have hread := mediaStubRead_layout (w := w) _ _ _ _ _ _ hdrop
  unfold mediaStubOnreceive
  rw [hread, hcall]
  refine ⟨rfl, ?_⟩
  rw [MediaParcel.advance_next, hnext, ← q.length_payload, hq, hpayload, ← hfields, MediaRequest.args,
    List.flatMap_cons, List.length_append]
  simp [ParcelArg.encode]

/-! ### Requests that do not fit -/

theorem bytes32_mod (n : Nat) : bytes32 n = bytes32 (n % 2 ^ 32) := by
  simp only [bytes32, List.cons.injEq, and_true, ← UInt8.toNat_inj, UInt8.toNat_ofNat']
  omega

/-- The length of the payload after an append is a 32 bit number. -/
theorem mediaParcelAppend_len {ret : Int} (hdata : data ≠ [])
    (h : mediaParcelAppend w p data true = some (ret, q)) : q.len = (p.len + data.length) % 2 ^ 32 := by
  have hpos : data.length ≠ 0 := (List.length_pos_iff.2 hdata).ne'
  have hret := mediaParcelAppend_ok h
  unfold mediaParcelAppend at h
  rw [if_neg hpos] at h
  dsimp only at h
  split at h
  · rename_i hneg
    rw [Option.some.inj h, hret] at hneg
    exact absurd hneg (Int.lt_irrefl 0)
  · split at h
    · cases h
      rw [MediaParcel.len, bytes32_mod]
      exact load32_store_bytes32 _ (Nat.mod_lt _ (by decide)) 4
    · cases h

theorem mediaParcelAppendVprintf_len {ret : Int} (hmatch : Matches fmt ap)
    (h : mediaParcelAppendVprintf w p fmt ap [] = some (ret, q)) :
    q.len = (p.len + (ap.flatMap ParcelArg.encode).length) % 2 ^ 32 := by
  induction fmt generalizing p ap with
  | nil =>
    obtain rfl : ap = [] := List.map_eq_nil_iff.1 hmatch
    cases h
    exact (Nat.mod_eq_of_lt q.len_lt).symm
  | cons c fmt ih =>
    unfold Matches at hmatch
    unfold mediaParcelAppendVprintf at h
    cases hconv : conversion c with
    | none =>
      rw [List.filterMap_cons_none hconv] at hmatch
      rw [hconv] at h
      exact ih hmatch h
    | some conv =>
      rw [List.filterMap_cons_some hconv] at hmatch
      obtain ⟨arg, ap, rfl, rfl, hmatch'⟩ := List.map_eq_cons_iff.1 hmatch
      simp only [hconv, if_true, arg.append_eq, List.headD_nil, List.tail_nil] at h
      obtain ⟨r, hr, h⟩ := Option.bind_eq_some_iff.1 h
      have hzero : r.1 = 0 := mediaParcelAppend_ok hr
      rw [hzero, if_neg (Int.lt_irrefl 0)] at h
      rw [ih hmatch' h, mediaParcelAppend_len arg.encode_ne_nil hr, List.flatMap_cons, List.length_append,
        Nat.mod_add_mod, Nat.add_assoc]

/-- The bytes of a string that was read, with its end. -/
def readCost : Option (List UInt8) → Nat
  | none => 0
  | some str => str.length + 1

/-- A string that is read lies in the payload. -/
theorem mediaParcelReadString_cost (h : p.next ≤ p.len) :
    p.next + readCost (mediaParcelReadString p).1 ≤ (mediaParcelReadString p).2.next ∧
      (mediaParcelReadString p).2.next ≤ (mediaParcelReadString p).2.len ∧ (mediaParcelReadString p).2.len = p.len := by
  have hlength : (p.payload.drop p.next).length = p.len - p.next := by rw [List.length_drop, p.length_payload]
  have hle := List.IsPrefix.length_le (List.takeWhile_prefix (fun b => b != 0) (l := p.payload.drop p.next))
  unfold mediaParcelReadString
  dsimp only
  split
  · exact ⟨Nat.le_refl _, h, rfl⟩
  · rename_i hshort
    have hnext : p.next + ((p.payload.drop p.next).takeWhile fun b => b != 0).length + 1 ≤ p.len := by omega
    refine ⟨?_, hnext, rfl⟩
    split <;> simp only [readCost] <;> omega

/-- The format of some strings. -/
def strFormat (n : Nat) : List Char := (List.replicate n ['%', 's']).flatten

/-- Strings that are read one after the other lie in the payload one after the other. -/
theorem readStrings_cost (n : Nat) (fmt : List Char) (h : p.next ≤ p.len) :
    p.next + ((List.range n).map fun i =>
      readCost (readStr (mediaParcelReadVscanf w p (strFormat n ++ fmt)).2.1 i)).sum ≤ p.len := by
  induction n generalizing p with
  | zero => exact h
  | succ n ih =>
    obtain ⟨hcost, hle, hlen⟩ := mediaParcelReadString_cost h
    have hrest := ih hle
    have hread : mediaParcelReadVscanf w p (strFormat (n + 1) ++ fmt) =
        ((mediaParcelReadVscanf w (mediaParcelReadString p).2 (strFormat n ++ fmt)).1,
          .s (mediaParcelReadString p).1 ::
            (mediaParcelReadVscanf w (mediaParcelReadString p).2 (strFormat n ++ fmt)).2.1,
          (mediaParcelReadVscanf w (mediaParcelReadString p).2 (strFormat n ++ fmt)).2.2) := rfl
    rw [List.range_succ_eq_map, List.map_cons, List.map_map, List.sum_cons, hread]
    have hfirst : readStr (.s (mediaParcelReadString p).1 ::
        (mediaParcelReadVscanf w (mediaParcelReadString p).2 (strFormat n ++ fmt)).2.1) 0 =
        (mediaParcelReadString p).1 := rfl
    rw [hlen] at hrest
    dsimp only at hfirst ⊢
    rw [hfirst]
    refine Nat.le_trans ?_ hrest
    rw [← Nat.add_assoc]
    exact Nat.add_le_add_right hcost _

/-- The bytes of the strings of a call. -/
def StubCall.cost : StubCall → Nat
  | .policy target cmd arg _ _ => readCost target + readCost cmd + readCost arg
  | .focus target cmd _ => readCost target + readCost cmd
  | .graph target cmd arg _ | .player target cmd arg _ | .recorder target cmd arg _ | .session target cmd arg _ =>
    readCost target + readCost cmd + readCost arg

/-- The number of the module and the strings of a call lie in the payload. -/
theorem mediaStubRead_cost {call : StubCall} (h : (mediaStubRead w q).1 = some call) (hnext : q.next = 0) :
    4 + call.cost ≤ q.len := by
  have hmod : (q.next + 4) % w.mod = 4 := by
    rw [hnext]
    cases w <;> rfl
  unfold mediaStubRead at h
  by_cases hlen : q.len < 4
  · -- without a number there is no module
    have hcopy : mediaParcelCopy w q 4 = (-ENOSPC, 0, q) := by rw [mediaParcelCopy, hmod, if_pos hlen]
    simp only [hcopy] at h
    rw [if_neg (by decide), if_neg (by decide), if_neg (by decide), if_neg (by decide), if_neg (by decide),
      if_neg (by decide)] at h
    cases h
  · obtain ⟨v, hcopy⟩ : ∃ v, mediaParcelCopy w q 4 = (0, v, q.advance 4) := by
      rw [mediaParcelCopy, MediaParcel.advance, hmod, if_neg hlen, hnext]
      exact ⟨_, rfl⟩
    have hstart : (q.advance 4).next = 4 := by rw [q.advance_next, hnext]
    have hle : (q.advance 4).next ≤ (q.advance 4).len := by
      rw [hstart, q.advance_len]
      omega
    have hthree : ∀ fmt tail, strFormat 3 ++ tail = fmt → 4 + (
        readCost (readStr (mediaParcelReadVscanf w (q.advance 4) fmt).2.1 0) +
        readCost (readStr (mediaParcelReadVscanf w (q.advance 4) fmt).2.1 1) +
        readCost (readStr (mediaParcelReadVscanf w (q.advance 4) fmt).2.1 2)) ≤ q.len := by
      rintro fmt tail rfl
      have hcost := readStrings_cost (w := w) 3 tail hle
      simp only [hstart, q.advance_len, List.range_succ, List.range_zero, List.nil_append, List.map_append,
        List.map_singleton, List.sum_append, List.sum_singleton] at hcost
      exact hcost
    have htwo : 4 + (readCost (readStr (mediaParcelReadVscanf w (q.advance 4) "%s%s%i".toList).2.1 0) +
        readCost (readStr (mediaParcelReadVscanf w (q.advance 4) "%s%s%i".toList).2.1 1)) ≤ q.len := by
      have hcost := readStrings_cost (w := w) 2 "%i".toList hle
      simp only [hstart, q.advance_len, List.range_succ, List.range_zero, List.nil_append, List.map_append,
        List.map_singleton, List.sum_append, List.sum_singleton] at hcost
      exact hcost
    have hpolicy := hthree "%s%s%s%i%i".toList "%i%i".toList rfl
    have hother := hthree "%s%s%s%i".toList "%i".toList rfl
    simp only [hcopy] at h
    split_ifs at h
    · cases h
      exact hpolicy
    · cases h
      exact htwo
    · cases h
      exact hother
    · cases h
      exact hother
    · cases h
      exact hother
    · cases h
      exact hother

/-- What is appended for a string is at most one byte more than what is read of it. -/
theorem length_encode_s (str : Option CBytes) : (ParcelArg.s str).encode.length ≤ readCost (arrived str) + 1 := by
  rcases str with - | ⟨bs, hbs⟩
  · exact Nat.le_refl _
  · by_cases hnil : bs = []
    · simp [ParcelArg.encode, hnil]
    · simp [ParcelArg.encode, arrived, hnil, Option.filter, readCost]

theorem MediaRequest.length_args_le (req : MediaRequest) :
    (req.args.flatMap ParcelArg.encode).length ≤ req.call.cost + 15 := by
  obtain ⟨target, cmd, arg, apply, len, hfields, hcall⟩ := req.layout_eq
  have htarget := length_encode_s target
  have hcmd := length_encode_s cmd
  have harg := length_encode_s arg
  have hint : ∀ val, (ParcelArg.i val).encode.length = 4 := fun _ => rfl
  rw [MediaRequest.args, hfields, hcall]
  cases req.layout.1 <;>
    simp only [ModuleId.fields, ModuleId.call, StubCall.cost, List.flatMap_cons, List.flatMap_nil, List.length_append,
      List.length_nil, hint] <;>
    omega

theorem fits_of_agrees (h : Agrees w req) : FitsParcel w req.args := by
  obtain ⟨p, hmake, hall⟩ := h [] (by simp)
  have hread := (hall { p with next := 0 } rfl rfl (fun _ => (0, none)) none []).1
  have hcost : 4 + req.call.cost ≤ p.len := mediaStubRead_cost (w := w) (q := { p with next := 0 }) hread rfl
  rw [req.make_eq] at hmake
  have hlen := mediaParcelAppendVprintf_len req.matches_args hmake
  have htotal := req.length_args_le
  have hzero : mediaParcelInit.len = 0 := rfl
  rw [hzero, Nat.zero_add] at hlen
  refine appendable_of_append req.matches_args (sized_init w) ?_ (by rw [hmake]; exact Option.some_ne_none _)
  rw [hzero, Nat.zero_add]
  -- a payload that has wrapped is too short for the strings of the call
  omega

/-- The server calls the handler that a request is for with what is in it if and only if the request fits into a
parcel. -/
theorem rpc_agrees (w : SizeT) (req : MediaRequest) : Agrees w req ↔ FitsParcel w req.args :=
  ⟨fits_of_agrees, agrees_of_fits⟩

/-- A request with a target of 4 GiB. -/
theorem rpc_not_agrees : ¬ ∀ (w : SizeT) (req : MediaRequest), Agrees w req := by
  intro h
  obtain ⟨str, hlong, hnonzero⟩ : ∃ str : List UInt8, str.length = 2 ^ 32 - 1 ∧ (0 : UInt8) ∉ str :=
    ⟨List.replicate (2 ^ 32 - 1) 1, List.length_replicate, fun hm => absurd (List.mem_replicate.1 hm).2 (by decide)⟩
  have hlen := (fits_of_agrees (h .w64 (.focus (some ⟨str, hnonzero⟩) none))).2.2.1
  simp only [ParcelArg.encode, Option.map_some, Option.getD_some, List.length_append, hlong, length_toBytes,
    List.length_singleton] at hlen
  omega

end MediaFramework
