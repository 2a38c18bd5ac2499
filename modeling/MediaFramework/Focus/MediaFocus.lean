import MediaFramework.Focus.FocusStack

/-!
# Arbitration of audio focus (`server/media_focus.c`)

A request names a stream; the interaction table says how the stream gets along with the stream of the holder on top
of the stack.  `mediaFocusRequest` and `mediaFocusAbandon` are the two calls that change the stack.
-/

namespace MediaFramework

/-! ### The interaction table -/

def MEDIA_FOCUS_PLAY : Int := 0
def MEDIA_FOCUS_STOP : Int := 1
def MEDIA_FOCUS_PAUSE : Int := 2
def MEDIA_FOCUS_PLAY_BUT_SILENT : Int := 3
def MEDIA_FOCUS_PLAY_WITH_DUCK : Int := 4

structure MediaFocusCell where
  proInter : Int
  pasInter : Int
  deriving DecidableEq, Repr, Inhabited

/-- A loaded table: at least one stream name, and one cell for every pair of streams. -/
structure InteractionTable where
  streams : List String
  matrix : List MediaFocusCell
  streams_pos : 0 < streams.length
  matrix_length : matrix.length = streams.length * streams.length

def InteractionTable.num (t : InteractionTable) : Nat := t.streams.length

/-- `media_focus`, with `CONFIG_MEDIA_FOCUS_STACK_DEPTH` in `stack.maxSize`. -/
structure MediaFocus where
  table : InteractionTable
  stack : AppFocusStack

/-! ### Handles -/

def ID_SHIFT : Nat := 16

/-- `ID_TO_HANDLE`, as the `int` that is converted to the pointer. -/
def idToHandle (x : Int) : BitVec 32 := (BitVec.ofInt 32 x <<< ID_SHIFT) ||| 0x0000000F#32

/-- `HANDLE_TO_ID` of the `int` that the pointer is converted to. -/
def handleToId (x : BitVec 32) : Int := (x.sshiftRight ID_SHIFT).toInt

/-! ### Telling the holders -/

def BLOCK_CALLBACK_FLAG : Int := 0
def NONBLOCK_CALLBACK_FLAG : Int := -1

def mediaFocusPlayArbitrate (t : InteractionTable) (topId curId : AppFocusId) : Int × List FocusEvent :=
  match curId.focusState with
  | .top => (MEDIA_FOCUS_PLAY, [])
  | .quit => (MEDIA_FOCUS_STOP, [])
  | .under =>
    let interLocation := topId.focusLevel * t.num + curId.focusLevel
    if interLocation < t.num * t.num then ((t.matrix.getD interLocation default).pasInter, [])
    else (MEDIA_FOCUS_STOP, [.noMatchedData])

def mediaFocusStackCallback (t : InteractionTable) : FocusChangeCallback := fun curId reqId callbackFlag =>
  if callbackFlag ≥ 0 then []
  else
    let (suggestion, log) := mediaFocusPlayArbitrate t curId reqId
    log ++ [.suggest reqId suggestion]

/-! ### Request and abandon -/

/-- The loop of `media_focus_focus_id_insert` that looks for the place of a new holder among the holders from the
`indexValue`-th on. -/
def mediaFocusInsertIndex (s : AppFocusStack) (newLevel : Nat) : Nat → Nat → Nat
  | 0, indexValue => indexValue
  | fuel + 1, indexValue =>
    match appFocusStackGetIndex s indexValue with
    | some focusId =>
      if newLevel ≤ focusId.focusLevel then indexValue else mediaFocusInsertIndex s newLevel fuel (indexValue + 1)
    | none => indexValue

def mediaFocusFocusIdInsert (t : InteractionTable) (s : AppFocusStack) (newFocusId : AppFocusId) :
    Int × AppFocusStack × List FocusEvent :=
  let indexValue := mediaFocusInsertIndex s newFocusId.focusLevel s.maxSize 0
  let (ret, s', events) := appFocusStackInsert (mediaFocusStackCallback t) s newFocusId indexValue
  if ret < 0 then (-EINVAL, s', events) else (0, s', events)

/-- What a focus call returns: the handle (`none` is NULL), `*return_type` if it was written, the state after the
call with the number of `pthread_kill` calls so far, and what became visible outside. -/
structure FocusResult where
  handle : Option (BitVec 32)
  returnType : Option Int
  ret : Int
  focus : MediaFocus
  now : Nat
  events : List FocusEvent

def mediaFocusRequest (alive : Nat → Nat → Bool) (focus : MediaFocus) (now : Nat) (streamType : Option String)
    (callbackMethod : Option Nat) (callbackArgv : Option Nat) (tid : Nat) : FocusResult :=
  let t := focus.table
  let cb := mediaFocusStackCallback t
  match callbackMethod, streamType with
  | none, _ => ⟨none, none, -EINVAL, focus, now, []⟩
  | some _, none => ⟨none, none, -EINVAL, focus, now, []⟩
  | some callback, some name =>
    match t.streams.findIdx? (· == name) with
    | none => ⟨none, none, -EINVAL, focus, now, []⟩
    | some newStreamType =>
      let (s₁, now₁, ev₁) := appFocusStackUselessClear cb alive focus.stack now NONBLOCK_CALLBACK_FLAG
      let validId := appFocusFreeClientId s₁
      if validId < 0 then ⟨none, none, -EINVAL, { focus with stack := s₁ }, now₁, ev₁⟩
      else
        let newId : AppFocusId :=
          { clientId := validId, focusLevel := newStreamType, threadId := tid, focusState := .quit,
            focusCallback := some callback, callbackArgv := callbackArgv }
        let handle (returnType : Int) : BitVec 32 :=
          idToHandle (if returnType = MEDIA_FOCUS_STOP then validId + s₁.maxSize else validId)
        match appFocusStackTop s₁ with
        | some tmpId =>
          let interLocation := newId.focusLevel * t.num + tmpId.focusLevel
          if interLocation < t.num * t.num then
            let ret := (t.matrix.getD interLocation default).proInter
            if ret = MEDIA_FOCUS_PLAY then
              let (_, s₂, ev₂) := appFocusStackPush cb s₁ newId BLOCK_CALLBACK_FLAG
              let (_, ev₃) := appFocusStackTopChangeBroadcast cb s₂ NONBLOCK_CALLBACK_FLAG
              ⟨some (handle ret), some ret, ret, { focus with stack := s₂ }, now₁, ev₁ ++ ev₂ ++ ev₃⟩
            else if ret = MEDIA_FOCUS_PLAY_BUT_SILENT ∨ ret = MEDIA_FOCUS_PLAY_WITH_DUCK then
              let (r, s₂, ev₂) := mediaFocusFocusIdInsert t s₁ newId
              if r < 0 then ⟨none, some ret, -EINVAL, { focus with stack := s₂ }, now₁, ev₁ ++ ev₂⟩
              else ⟨some (handle ret), some ret, ret, { focus with stack := s₂ }, now₁, ev₁ ++ ev₂⟩
            else if ret < 0 then ⟨none, some MEDIA_FOCUS_STOP, ret, { focus with stack := s₁ }, now₁, ev₁⟩
            else ⟨some (handle MEDIA_FOCUS_STOP), some MEDIA_FOCUS_STOP, ret, { focus with stack := s₁ }, now₁, ev₁⟩
          else ⟨none, some MEDIA_FOCUS_STOP, -EINVAL, { focus with stack := s₁ }, now₁, ev₁ ++ [.noMatchedData]⟩
        | none =>
          let (_, s₂, ev₂) := appFocusStackPush cb s₁ newId BLOCK_CALLBACK_FLAG
          ⟨some (handle MEDIA_FOCUS_PLAY), some MEDIA_FOCUS_PLAY, MEDIA_FOCUS_PLAY, { focus with stack := s₂ },
            now₁, ev₁ ++ ev₂⟩

def mediaFocusAbandon (alive : Nat → Nat → Bool) (focus : MediaFocus) (now : Nat) (handle : BitVec 32) :
    FocusResult :=
  let cb := mediaFocusStackCallback focus.table
  if handle.toInt < ID_SHIFT - 1 then ⟨none, none, -EINVAL, focus, now, []⟩
  else
    let appClientId := handleToId handle
    let (s₁, now₁, ev₁) := appFocusStackUselessClear cb alive focus.stack now NONBLOCK_CALLBACK_FLAG
    match appFocusStackTop s₁ with
    | none => ⟨none, none, -ENOENT, { focus with stack := s₁ }, now₁, ev₁⟩
    | some tmpId =>
      if tmpId.clientId = appClientId then
        let r := appFocusStackDelete cb s₁ tmpId NONBLOCK_CALLBACK_FLAG
        let (_, ev₃) := appFocusStackTopChangeBroadcast cb r.stack NONBLOCK_CALLBACK_FLAG
        ⟨none, none, 0, { focus with stack := r.stack }, now₁, ev₁ ++ r.events ++ ev₃⟩
      else
        let r := appFocusStackDelete cb s₁ { tmpId with clientId := appClientId } NONBLOCK_CALLBACK_FLAG
        ⟨none, none, 0, { focus with stack := r.stack }, now₁, ev₁ ++ r.events⟩

/-- `media_focus_create` with a loaded table, as far as the stack is concerned. -/
def mediaFocusInit (t : InteractionTable) (depth : Nat) : MediaFocus := ⟨t, appFocusStackInit depth⟩

/-! ### Runs -/

/-- A call of the focus module: a request by a client thread, or the abandoning of some handle. -/
inductive FocusCall
  | request (name : Option String) (callback argv : Option Nat) (tid : Nat)
  | abandon (handle : BitVec 32)
  deriving DecidableEq, Repr

def focusCall (alive : Nat → Nat → Bool) (focus : MediaFocus) (now : Nat) : FocusCall → FocusResult
  | .request name callback argv tid => mediaFocusRequest alive focus now name callback argv tid
  | .abandon handle => mediaFocusAbandon alive focus now handle

end MediaFramework
