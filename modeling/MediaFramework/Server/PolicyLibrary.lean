import MediaFramework.Library.Strtol
import MediaFramework.Server.MediaHandlers
import MediaFramework.Server.RpcLayout

/-!
# The policy library behind the stub

The commands of `media_policy_handler` that are calls of the library `pfw`, with the numbers and texts that go in and
come out.  A number goes over the wire as the text that `%d` prints.  The library is a parameter: what its functions do
with the state of the policy, and what they return.
-/

namespace MediaFramework

open Scanf (printNum)
open Strtol (strtol)

variable {σ : Type*}

/-! ### The library -/

/-- The functions of the library.  Names and values may be NULL; `pfw_getstring` leaves a string in a buffer of a given
size if there is one. -/
structure Pfw (σ : Type*) where
  pfwSetint (policy : σ) (name : Option (List UInt8)) (value : BitVec 32) : σ × BitVec 32
  pfwIncrease (policy : σ) (name : Option (List UInt8)) : σ × BitVec 32
  pfwDecrease (policy : σ) (name : Option (List UInt8)) : σ × BitVec 32
  pfwSetstring (policy : σ) (name value : Option (List UInt8)) : σ × BitVec 32
  pfwInclude (policy : σ) (name value : Option (List UInt8)) : σ × BitVec 32
  pfwExclude (policy : σ) (name value : Option (List UInt8)) : σ × BitVec 32
  pfwContain (policy : σ) (name value : Option (List UInt8)) : (σ × BitVec 32) × BitVec 32
  pfwGetint (policy : σ) (name : Option (List UInt8)) : (σ × BitVec 32) × BitVec 32
  pfwGetstring (policy : σ) (name : Option (List UInt8)) (len : BitVec 32) : (σ × BitVec 32) × CBytes
  pfwGetrange (policy : σ) (name : Option (List UInt8)) : (σ × BitVec 32) × BitVec 32 × BitVec 32
  pfwApply (policy : σ) : σ
  getstring_fits : ∀ policy name len, 0 < len.toInt →
    ((pfwGetstring policy name len).2.val.length : Int) < len.toInt

/-! ### Numbers as texts -/

/-- The bytes of a text. -/
def bytesOf (str : CString) : List UInt8 := str.map fun c => UInt8.ofNat c.toNat

/-- The characters that `%d` prints, and those between two numbers. -/
def IsPrinted (str : CString) : Prop := ∀ c ∈ str, c.isDigit = true ∨ c = '-' ∨ c = ',' ∨ c = ':'

theorem IsPrinted.code {str : CString} (h : IsPrinted str) {c : Char} (hc : c ∈ str) : 0 < c.toNat ∧ c.toNat < 256 := by
  rcases h c hc with hdigit | rfl | rfl | rfl
  · simp only [Char.isDigit, Bool.and_eq_true, decide_eq_true_eq] at hdigit
    have hval : 48 ≤ c.toNat ∧ c.toNat ≤ 57 := hdigit
    omega
  · decide
  · decide
  · decide

theorem isPrinted_printNum (n : Int) : IsPrinted (printNum n) := by
  intro c hc
  cases n with
  | ofNat n => exact .inl (Scanf.isDigit_toDigits c hc)
  | negSucc n =>
    rcases List.mem_cons.1 hc with rfl | hc
    · exact .inr (.inl rfl)
    · exact .inl (Scanf.isDigit_toDigits c hc)

theorem IsPrinted.pair {str str' : CString} (h : IsPrinted str) {sep : Char} (hsep : sep = ',' ∨ sep = ':')
    (h' : IsPrinted str') : IsPrinted (str ++ sep :: str') := by
  intro c hc
  rcases List.mem_append.1 hc with hc | hc
  · exact h c hc
  · rcases List.mem_cons.1 hc with rfl | hc
    · exact .inr (.inr hsep)
    · exact h' c hc

theorem IsPrinted.no_zero {str : CString} (h : IsPrinted str) : (0 : UInt8) ∉ bytesOf str := by
  intro hzero
  obtain ⟨c, hc, heq⟩ := List.mem_map.1 hzero
  obtain ⟨hpos, hlt⟩ := h.code hc
  have hmod : c.toNat % 256 = 0 := by
    have hnat := congrArg UInt8.toNat heq
    rwa [UInt8.toNat_ofNat'] at hnat
  omega

theorem IsPrinted.text_bytesOf {str : CString} (h : IsPrinted str) : text (bytesOf str) = str := by
  unfold text bytesOf
  rw [List.map_map]
  refine (List.map_congr_left fun c hc => ?_).trans (List.map_id _)
  have hcode : (UInt8.ofNat c.toNat).toNat = c.toNat := by
    rw [UInt8.toNat_ofNat']
    exact Nat.mod_eq_of_lt (h.code hc).2
  rw [Function.comp_apply, hcode, Char.ofNat_toNat]
  rfl

/-- `snprintf(tmp, sizeof(tmp), "%d", value)`. -/
def printInt (value : BitVec 32) : CBytes := ⟨bytesOf (printNum value.toInt), (isPrinted_printNum _).no_zero⟩

/-- `"%d,%d"`. -/
def printPair (lo hi : BitVec 32) : CBytes :=
  ⟨bytesOf (printNum lo.toInt ++ ',' :: printNum hi.toInt),
    ((isPrinted_printNum _).pair (.inl rfl) (isPrinted_printNum _)).no_zero⟩

/-- `atoi`, where a `long` has the width of `size_t`. -/
def atoi (w : SizeT) (str : List UInt8) : BitVec 32 :=
  BitVec.ofInt 32 (strtol (-(w.mod / 2 : Nat)) ((w.mod / 2 : Nat) - 1) 10 (text str))

theorem strtol_printInt (w : SizeT) {base : Nat} (hbase : base = 0 ∨ base = 10) (value : BitVec 32) :
    BitVec.ofInt 32 (strtol (-(w.mod / 2 : Nat)) ((w.mod / 2 : Nat) - 1) base (text (printInt value).val)) = value := by
  have hmod := le_mod w
  have hlo := BitVec.le_toInt value
  have hhi := BitVec.toInt_lt (x := value)
  have htext : text (printInt value).val = printNum value.toInt := (isPrinted_printNum _).text_bytesOf
  rw [htext, Strtol.strtol_printNum hbase (by omega) (by omega), BitVec.ofInt_toInt]

/-- A number that was printed is read again. -/
theorem atoi_printInt (w : SizeT) (value : BitVec 32) : atoi w (printInt value).val = value :=
  strtol_printInt w (.inr rfl) value

theorem length_printInt (value : BitVec 32) : (printInt value).val.length ≤ 11 ∧ (printInt value).val ≠ [] := by
  have hlo := BitVec.le_toInt value
  have hhi := BitVec.toInt_lt (x := value)
  have hlength : (printInt value).val.length = (printNum value.toInt).length := List.length_map ..
  have hle := Scanf.length_printNum_le (n := value.toInt) (by omega) (by omega)
  refine ⟨by omega, fun hnil => ?_⟩
  rw [hnil] at hlength
  have hempty : printNum value.toInt = [] := List.length_eq_zero_iff.1 hlength.symm
  cases hvalue : value.toInt with
  | ofNat n => exact absurd (hvalue ▸ hempty) Nat.toDigits_ne_nil
  | negSucc n => exact absurd (hvalue ▸ hempty) (List.cons_ne_nil _ _)

/-! ### The commands -/

/-- What a command leaves: the policy, the result, and the buffer for the response, which is NULL if there is none. -/
structure LibraryAnswer (σ : Type*) where
  policy : σ
  ret : BitVec 32
  response : Option CBytes

/-- The buffer of `len` bytes that `zalloc` gives for a response, after a string was written there. -/
def responseBuffer (len : BitVec 32) (str : CBytes) : Option CBytes :=
  if 0 < len.toInt then some ⟨str.val.take (len.toNat - 1), fun h => str.2 (List.mem_of_mem_take h)⟩ else none

def emptyStr : CBytes := ⟨[], by simp⟩

/-- The end of the handler: an error, or `pfw_apply`. -/
def LibraryAnswer.commit (pfw : Pfw σ) (apply len : BitVec 32) (r : σ × BitVec 32) : LibraryAnswer σ :=
  if r.2.toInt < 0 then ⟨r.1, r.2, responseBuffer len emptyStr⟩
  else ⟨if apply ≠ 0 then pfw.pfwApply r.1 else r.1, 0, responseBuffer len emptyStr⟩

/-- `return snprintf(res, res_len, …)`, which takes no negative size. -/
def LibraryAnswer.print (len : BitVec 32) (r : σ × BitVec 32) (str : CBytes) : Option (LibraryAnswer σ) :=
  if r.2.toInt < 0 then some ⟨r.1, r.2, responseBuffer len emptyStr⟩
  else if len.toInt < 0 then none
  else some ⟨r.1, BitVec.ofNat 32 str.val.length, responseBuffer len str⟩

/-- The commands of `media_policy_handler` that the library is called for. -/
inductive LibraryCmd
  | setInt
  | increase
  | decrease
  | setString
  | includes
  | excludes
  | contain
  | getInt
  | getString
  | getRange
  | dump
  deriving DecidableEq

/-- The comparisons of the handler, but for those before. -/
def libraryCmd (cmd : CString) : Option LibraryCmd :=
  if cmd = "set_int".toList then some .setInt
  else if cmd = "increase".toList then some .increase
  else if cmd = "decrease".toList then some .decrease
  else if cmd = "set_string".toList then some .setString
  else if cmd = "include".toList then some .includes
  else if cmd = "exclude".toList then some .excludes
  else if cmd = "contain".toList then some .contain
  else if cmd = "get_int".toList then some .getInt
  else if cmd = "get_string".toList then some .getString
  else if cmd = "get_range".toList then some .getRange
  else if cmd = "dump".toList then some .dump
  else none

/-- What the handler does at such a command.  There is no result of `atoi(NULL)`, and of `snprintf` with a negative
size. -/
def mediaPolicyHandlerLibrary (w : SizeT) (pfw : Pfw σ) (policy : σ) (name value : Option (List UInt8))
    (apply len : BitVec 32) : LibraryCmd → Option (LibraryAnswer σ)
  | .setInt => value.map fun value => .commit pfw apply len (pfw.pfwSetint policy name (atoi w value))
  | .increase => some (.commit pfw apply len (pfw.pfwIncrease policy name))
  | .decrease => some (.commit pfw apply len (pfw.pfwDecrease policy name))
  | .setString => some (.commit pfw apply len (pfw.pfwSetstring policy name value))
  | .includes => some (.commit pfw apply len (pfw.pfwInclude policy name value))
  | .excludes => some (.commit pfw apply len (pfw.pfwExclude policy name value))
  | .contain =>
    let r := pfw.pfwContain policy name value
    LibraryAnswer.print len r.1 (printInt r.2)
  | .getInt =>
    let r := pfw.pfwGetint policy name
    LibraryAnswer.print len r.1 (printInt r.2)
  | .getString =>
    let r := pfw.pfwGetstring policy name len
    some ⟨r.1.1, if r.1.2.toInt < 0 then r.1.2 else 0, responseBuffer len r.2⟩
  | .getRange =>
    let r := pfw.pfwGetrange policy name
    LibraryAnswer.print len r.1 (printPair r.2.1 r.2.2)
  | .dump => some ⟨policy, 0, responseBuffer len emptyStr⟩

theorem libraryCmd_mem {cmd : CString} {c : LibraryCmd} (h : libraryCmd cmd = some c) : cmd ∈ policyCommands := by
  by_contra hnot
  simp only [policyCommands, List.mem_cons, List.not_mem_nil, or_false, not_or] at hnot
  obtain ⟨h₁, h₂, h₃, h₄, h₅, h₆, h₇, h₈, h₉, h₁₀, h₁₁⟩ := hnot
  rw [libraryCmd, if_neg h₁, if_neg h₂, if_neg h₃, if_neg h₄, if_neg h₅, if_neg h₆, if_neg h₇,
    if_neg h₈, if_neg h₉, if_neg h₁₀, if_neg h₁₁] at h
  cases h

/-- What a command prints has a buffer, or no length. -/
theorem LibraryAnswer.print_room {len : BitVec 32} {r : σ × BitVec 32} {str : CBytes} {a : LibraryAnswer σ}
    (h : LibraryAnswer.print len r str = some a) (hret : 0 ≤ a.ret.toInt) : 0 ≤ len.toInt := by
  unfold LibraryAnswer.print at h
  split at h
  · rename_i hfailed
    cases h
    exact absurd hfailed (Int.not_lt.2 hret)
  · obtain ⟨hlen, -⟩ := Option.ite_none_left_eq_some.1 h
    exact Int.not_lt.1 hlen

/-- The handler returns what the library gives. -/
theorem mediaPolicyHandler_library {w : SizeT} {pfw : Pfw σ} {policy : σ} {name value : Option (List UInt8)}
    {apply len : BitVec 32} {cmd : CString} {c : LibraryCmd} {a : LibraryAnswer σ} (h : libraryCmd cmd = some c)
    (ha : mediaPolicyHandlerLibrary w pfw policy name value apply len c = some a) (handle : Option Nat)
    (subscribers : List PolicySubscriber) (cookie : Nat) (data : Option Nat) :
    mediaPolicyHandler handle a.ret.toInt (a.response.map fun str => text str.val) subscribers cookie data
        (name.map text) (some cmd) (value.map text) (decide (0 < len.toInt)) len.toNat =
      some { ret := a.ret.toInt, policy := subscribers, response := a.response.map fun str => text str.val } := by
  have hlibrary : ∀ c ∈ policyCommands, c ≠ "ping".toList ∧ c ≠ "subscribe".toList ∧ c ≠ "unsubscribe".toList := by
    decide
  have hmem := libraryCmd_mem h
  obtain ⟨hping, hsubscribe, hunsubscribe⟩ := hlibrary cmd hmem
  have hset : ¬ (cmd = "set_int".toList ∧ value.map text = none) := by
    rintro ⟨rfl, hvalue⟩
    cases (show libraryCmd "set_int".toList = some .setInt by decide).symm.trans h
    obtain ⟨str, rfl, -⟩ := Option.map_eq_some_iff.1 ha
    cases hvalue
  have hprints : ¬ (cmd ∈ policyPrints ∧ 0 ≤ a.ret.toInt ∧ len.toNat ≠ 0 ∧ decide (0 < len.toInt) = false) := by
    rintro ⟨hcmd, hret, hlen, hnone⟩
    have hroom : 0 ≤ len.toInt := by
      simp only [policyPrints, List.mem_cons, List.not_mem_nil, or_false] at hcmd
      rcases hcmd with rfl | rfl | rfl
      · cases (show libraryCmd "contain".toList = some .contain by decide).symm.trans h
        exact LibraryAnswer.print_room ha hret
      · cases (show libraryCmd "get_int".toList = some .getInt by decide).symm.trans h
        exact LibraryAnswer.print_room ha hret
      · cases (show libraryCmd "get_range".toList = some .getRange by decide).symm.trans h
        exact LibraryAnswer.print_room ha hret
    have hnat := BitVec.toInt_eq_toNat_cond len
    have hle := of_decide_eq_false hnone
    split at hnat <;> omega
  simp only [mediaPolicyHandler]
  rw [if_neg hping, if_neg hsubscribe, if_neg hunsubscribe, if_neg hset, if_neg hprints, if_pos hmem]

/-! ### The stub -/

/-- The call of the library that a request is. -/
def policyStub (w : SizeT) (pfw : Pfw σ) (policy : σ) : StubCall → Option (LibraryAnswer σ)
  | .policy name (some cmd) value apply len =>
    (libraryCmd (text cmd)).bind fun c => mediaPolicyHandlerLibrary w pfw policy name value apply len c
  | _ => none

/-- What a request meets in a server whose library gives the answer. -/
def LibraryAnswer.outcomes (a : LibraryAnswer σ) : StubOutcomes where
  policyRet := a.ret.toInt
  policyResponse := a.response.map fun str => text str.val

/-- The stub gives such a request to the handler, which answers what the library answers and leaves the server as it
is. -/
theorem mediaStubHandle_policyStub {w : SizeT} {pfw : Pfw σ} {policy : σ} {call : StubCall} {a : LibraryAnswer σ}
    (h : policyStub w pfw policy call = some a) (s : MediaServer) (k : Nat) :
    mediaStubHandle s k a.outcomes call =
      some { ret := a.ret.toInt, server := s, response := a.response.map fun str => text str.val } := by
  unfold policyStub at h
  split at h
  · rename_i name cmd value apply len
    obtain ⟨c, hc, ha⟩ := Option.bind_eq_some_iff.1 h
    have hhandler := mediaPolicyHandler_library hc ha a.outcomes.alloc s.policy k (mediaServerGetData s.conns k)
    have hres : a.outcomes.hasRes len = decide (0 < len.toInt) := Bool.and_true _
    unfold mediaStubHandle
    simp only [hres, Option.map_some]
    rw [show a.outcomes.policyRet = a.ret.toInt from rfl,
      show a.outcomes.policyResponse = a.response.map (fun str => text str.val) from rfl, hhandler, Option.map_some]
  · cases h

end MediaFramework
