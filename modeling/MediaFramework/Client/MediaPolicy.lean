import MediaFramework.Client.ProxyAttempts
import MediaFramework.Server.PolicyLibrary

/-!
# The policy functions of a client (`client/media_policy.c`, `client/media_uv_policy.c`)

A client has no policy of its own: each function makes a request, and the result and the response of the reply are what
it returns.  The functions that wait go through `media_proxy` without a handle, the others tell a callback.  The
pointers for results are not NULL, and no callback is missing.
-/

namespace MediaFramework

open Scanf (Value scan)
open Strtol (strtol)

variable {α σ : Type*}

/-! ### Texts in buffers -/

/-- The string in a buffer. -/
def bufferString (buffer : List UInt8) : List UInt8 := buffer.takeWhile (· != 0)

/-- A string that was copied with its end is the string in the buffer. -/
theorem bufferString_of_prefix {str buffer : List UInt8} (hstr : (0 : UInt8) ∉ str) (h : str ++ [0] <+: buffer) :
    bufferString buffer = str := by
  obtain ⟨rest, rfl⟩ := h
  have hall : ∀ b ∈ str, (b != 0) = true := fun b hb => bne_iff_ne.2 fun hzero => hstr (hzero ▸ hb)
  unfold bufferString
  rw [List.append_assoc, List.singleton_append, List.takeWhile_append_of_pos hall, List.takeWhile_cons_of_neg (by simp),
    List.append_nil]

/-- What `sscanf(tmp, "%d,%d", min_value, max_value)` stores. -/
def readPair (str : List UInt8) : Option (BitVec 32) × Option (BitVec 32) :=
  match scan [.num, .char ',', .num] (text str) with
  | [.num lo, .num hi] => (some (BitVec.ofInt 32 lo), some (BitVec.ofInt 32 hi))
  | [.num lo] => (some (BitVec.ofInt 32 lo), none)
  | _ => (none, none)

theorem readPair_printPair (lo hi : BitVec 32) : readPair (printPair lo hi).val = (some lo, some hi) := by
  have hpair : text (printPair lo hi).val = Scanf.printNum lo.toInt ++ ',' :: Scanf.printNum hi.toInt :=
    ((isPrinted_printNum _).pair (.inl rfl) (isPrinted_printNum _)).text_bytesOf
  have hcomma : Scanf.EndsNum (',' :: Scanf.printNum hi.toInt) := by
    intro c hc
    cases hc
    rfl
  have hend : scan [.num] (Scanf.printNum hi.toInt) = [.num hi.toInt] := by
    have hlast := @Scanf.scan_num [] [] hi.toInt (by simp [Scanf.EndsNum])
    rwa [List.append_nil] at hlast
  unfold readPair
  rw [hpair, Scanf.scan_num _ hcomma, Scanf.scan_char, hend]
  simp only [BitVec.ofInt_toInt]

/-! ### The names of the commands -/

def cmdSetInt : CBytes := ⟨bytesOf "set_int".toList, by decide⟩
def cmdIncrease : CBytes := ⟨bytesOf "increase".toList, by decide⟩
def cmdDecrease : CBytes := ⟨bytesOf "decrease".toList, by decide⟩
def cmdSetString : CBytes := ⟨bytesOf "set_string".toList, by decide⟩
def cmdInclude : CBytes := ⟨bytesOf "include".toList, by decide⟩
def cmdExclude : CBytes := ⟨bytesOf "exclude".toList, by decide⟩
def cmdContain : CBytes := ⟨bytesOf "contain".toList, by decide⟩
def cmdGetInt : CBytes := ⟨bytesOf "get_int".toList, by decide⟩
def cmdGetRange : CBytes := ⟨bytesOf "get_range".toList, by decide⟩
def cmdGetString : CBytes := ⟨bytesOf "get_string".toList, by decide⟩

/-! ### The functions that wait -/

/-- `media_proxy(MEDIA_ID_POLICY, NULL, name, cmd, value, apply, res, len)`: what the servers are afterwards, the result
and the buffer.  There is no result if `strlcpy` is given NULL. -/
abbrev PolicyProxy (α : Type*) :=
  Option CBytes → CBytes → Option CBytes → BitVec 32 → BitVec 32 → List UInt8 → Option (α × Int × List UInt8)

/-- What a function stores for its caller. -/
inductive PolicyValue
  | nothing
  | int (value : BitVec 32)
  | range (lo hi : Option (BitVec 32))
  | string (str : List UInt8)
  deriving DecidableEq

section

variable (w : SizeT) (proxy : PolicyProxy α) (name : Option CBytes)

def mediaPolicySetInt (value apply : BitVec 32) : Option (α × Int × PolicyValue) :=
  (proxy name cmdSetInt (some (printInt value)) apply 0 []).map fun r =>
    (r.1, r.2.1, .nothing)

def mediaPolicyIncrease (apply : BitVec 32) : Option (α × Int × PolicyValue) :=
  (proxy name cmdIncrease none apply 0 []).map fun r => (r.1, r.2.1, .nothing)

def mediaPolicyDecrease (apply : BitVec 32) : Option (α × Int × PolicyValue) :=
  (proxy name cmdDecrease none apply 0 []).map fun r => (r.1, r.2.1, .nothing)

def mediaPolicySetString (value : Option CBytes) (apply : BitVec 32) : Option (α × Int × PolicyValue) :=
  (proxy name cmdSetString value apply 0 []).map fun r => (r.1, r.2.1, .nothing)

def mediaPolicyInclude (values : Option CBytes) (apply : BitVec 32) : Option (α × Int × PolicyValue) :=
  (proxy name cmdInclude values apply 0 []).map fun r => (r.1, r.2.1, .nothing)

def mediaPolicyExclude (values : Option CBytes) (apply : BitVec 32) : Option (α × Int × PolicyValue) :=
  (proxy name cmdExclude values apply 0 []).map fun r => (r.1, r.2.1, .nothing)

/-- `tmp` is the array of 32 bytes, with what is in it before. -/
def mediaPolicyContain (tmp : List UInt8) (values : Option CBytes) : Option (α × Int × PolicyValue) :=
  (proxy name cmdContain values 0 32 tmp).map fun r =>
    (r.1, if 0 ≤ r.2.1 then (0, .int (atoi w (bufferString r.2.2))) else (r.2.1, .nothing))

def mediaPolicyGetInt (tmp : List UInt8) : Option (α × Int × PolicyValue) :=
  (proxy name cmdGetInt none 0 32 tmp).map fun r =>
    (r.1, if 0 ≤ r.2.1 then (0, .int (atoi w (bufferString r.2.2))) else (r.2.1, .nothing))

def mediaPolicyGetRange (tmp : List UInt8) : Option (α × Int × PolicyValue) :=
  (proxy name cmdGetRange none 0 32 tmp).map fun r =>
    (r.1, if 0 ≤ r.2.1 then (0, .range (readPair (bufferString r.2.2)).1 (readPair (bufferString r.2.2)).2)
      else (r.2.1, .nothing))

/-- The string is looked at if the result is no error and there is a buffer for it. -/
def mediaPolicyGetString (value : List UInt8) (len : BitVec 32) : Option (α × Int × PolicyValue) :=
  (proxy name cmdGetString none 0 len value).map fun r =>
    (r.1, r.2.1, if 0 ≤ r.2.1 ∧ 0 < len.toInt then .string (bufferString r.2.2) else .nothing)

end

/-- A call of one of the functions. -/
inductive PolicyOp
  | setInt (value apply : BitVec 32)
  | increase (apply : BitVec 32)
  | decrease (apply : BitVec 32)
  | setString (value : Option CBytes) (apply : BitVec 32)
  | includes (values : Option CBytes) (apply : BitVec 32)
  | excludes (values : Option CBytes) (apply : BitVec 32)
  | contain (values : Option CBytes)
  | getInt
  | getRange
  | getString (len : BitVec 32)

/-- `buffer` is what is in the array, or in the caller's buffer, before. -/
def PolicyOp.remote (w : SizeT) (proxy : PolicyProxy α) (name : Option CBytes) (buffer : List UInt8) :
    PolicyOp → Option (α × Int × PolicyValue)
  | setInt value apply => mediaPolicySetInt proxy name value apply
  | increase apply => mediaPolicyIncrease proxy name apply
  | decrease apply => mediaPolicyDecrease proxy name apply
  | setString value apply => mediaPolicySetString proxy name value apply
  | includes values apply => mediaPolicyInclude proxy name values apply
  | excludes values apply => mediaPolicyExclude proxy name values apply
  | contain values => mediaPolicyContain w proxy name buffer values
  | getInt => mediaPolicyGetInt w proxy name buffer
  | getRange => mediaPolicyGetRange proxy name buffer
  | getString len => mediaPolicyGetString proxy name buffer len

/-- The arguments of `media_proxy`. -/
structure PolicyMessage where
  cmd : CBytes
  value : Option CBytes
  apply : BitVec 32
  len : BitVec 32

def PolicyOp.message : PolicyOp → PolicyMessage
  | setInt value apply => ⟨cmdSetInt, some (printInt value), apply, 0⟩
  | increase apply => ⟨cmdIncrease, none, apply, 0⟩
  | decrease apply => ⟨cmdDecrease, none, apply, 0⟩
  | setString value apply => ⟨cmdSetString, value, apply, 0⟩
  | includes values apply => ⟨cmdInclude, values, apply, 0⟩
  | excludes values apply => ⟨cmdExclude, values, apply, 0⟩
  | contain values => ⟨cmdContain, values, 0, 32⟩
  | getInt => ⟨cmdGetInt, none, 0, 32⟩
  | getRange => ⟨cmdGetRange, none, 0, 32⟩
  | getString len => ⟨cmdGetString, none, 0, len⟩

/-- The array or the buffer that is handed to `media_proxy`, or NULL. -/
def PolicyOp.buffer (buffer : List UInt8) : PolicyOp → List UInt8
  | contain _ | getInt | getRange | getString _ => buffer
  | _ => []

/-- What comes of the result and the buffer. -/
def PolicyOp.taken (w : SizeT) (ret : Int) (buffer : List UInt8) : PolicyOp → Int × PolicyValue
  | contain _ | getInt => if 0 ≤ ret then (0, .int (atoi w (bufferString buffer))) else (ret, .nothing)
  | getRange =>
    if 0 ≤ ret then (0, .range (readPair (bufferString buffer)).1 (readPair (bufferString buffer)).2)
    else (ret, .nothing)
  | getString len => (ret, if 0 ≤ ret ∧ 0 < len.toInt then .string (bufferString buffer) else .nothing)
  | _ => (ret, .nothing)

/-- The functions differ in their message, and in what they take from the answer. -/
theorem PolicyOp.remote_eq (w : SizeT) (proxy : PolicyProxy α) (name : Option CBytes) (buffer : List UInt8)
    (op : PolicyOp) : op.remote w proxy name buffer =
      (proxy name op.message.cmd op.message.value op.message.apply op.message.len (op.buffer buffer)).map fun r =>
        (r.1, op.taken w r.2.1 r.2.2) := by
  cases op <;> rfl

end MediaFramework
