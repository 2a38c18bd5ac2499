import MediaFramework.Errno
import MediaFramework.Library.IntrusiveList

/-!
# The focus stack (`server/focus_stack.c`)

A stack of focus holders: an intrusive list threaded through the slots of a fixed array, most important holder
first.  A holder is known by its slot number, its `client_id`; a slot with `client_id == -1` is free.  Every function
returns the callbacks it makes, in their order; the callback itself is a parameter, as in the source.  Where the
source would follow a pointer out of the list the functions stop; `FocusRefine` shows that this never happens.
-/

namespace MediaFramework

open IntrusiveList

/-- `APP_FOCUS_STATE_STACK_*`. -/
inductive FocusState
  | top
  | quit
  | under
  deriving DecidableEq, Repr

/-- `app_focus_id`: the thread is what `pthread_kill` is asked about, a callback of `none` is NULL. -/
structure AppFocusId where
  clientId : Int
  focusLevel : Nat
  threadId : Nat
  focusState : FocusState
  focusCallback : Option Nat
  callbackArgv : Option Nat
  deriving DecidableEq, Repr

/-- What a focus operation lets the outside see: a call of a holder's `focus_callback` with a suggestion, or the
error log of a lookup that leaves the interaction matrix. -/
inductive FocusEvent
  | suggest (holder : AppFocusId) (suggestion : Int)
  | noMatchedData
  deriving DecidableEq, Repr

/-- `app_focus_change_callback`: the current holder, the holder to tell, and the callback flag. -/
abbrev FocusChangeCallback := AppFocusId → AppFocusId → Int → List FocusEvent

/-- `app_focus_stack`: the links are those of `head_node` and of the `node` member of every slot, the ids those of
`node_list`. -/
structure AppFocusStack where
  links : Links Nat
  nodeList : Nat → AppFocusId
  curSize : Nat
  maxSize : Nat

/-- The contents of a slot that is not in use. -/
def AppFocusId.unused : AppFocusId :=
  { clientId := -1, focusLevel := 0, threadId := 0, focusState := .quit, focusCallback := none, callbackArgv := none }

def AppFocusStack.setId (s : AppFocusStack) (i : Nat) (id : AppFocusId) : AppFocusStack :=
  { s with nodeList := Function.update s.nodeList i id }

def AppFocusStack.setState (s : AppFocusStack) (i : Nat) (st : FocusState) : AppFocusStack :=
  s.setId i { s.nodeList i with focusState := st }

section SetId

variable (s : AppFocusStack) (i : Nat) (id : AppFocusId) (st : FocusState)

@[simp] theorem setId_links : (s.setId i id).links = s.links := rfl
@[simp] theorem setId_curSize : (s.setId i id).curSize = s.curSize := rfl
@[simp] theorem setId_maxSize : (s.setId i id).maxSize = s.maxSize := rfl
@[simp] theorem setId_nodeList_self : (s.setId i id).nodeList i = id := Function.update_self ..
@[simp] theorem setState_links : (s.setState i st).links = s.links := rfl
@[simp] theorem setState_curSize : (s.setState i st).curSize = s.curSize := rfl
@[simp] theorem setState_maxSize : (s.setState i st).maxSize = s.maxSize := rfl

variable {s i id st}

theorem setId_nodeList_of_ne {j : Nat} (h : j ≠ i) : (s.setId i id).nodeList j = s.nodeList j :=
  Function.update_of_ne h ..

theorem setState_nodeList_of_ne {j : Nat} (h : j ≠ i) : (s.setState i st).nodeList j = s.nodeList j :=
  Function.update_of_ne h ..

end SetId

/-- The slots that `list_for_every_entry` visits. -/
def AppFocusStack.entries (s : AppFocusStack) : List Nat := s.links.walk s.maxSize none

/-- Result of a function that writes its id argument back. -/
structure StackResult where
  ret : Int
  value : AppFocusId
  stack : AppFocusStack
  events : List FocusEvent

def appFocusStackIsFull (s : AppFocusStack) : Bool := s.curSize == s.maxSize

def appFocusStackIsEmpty (s : AppFocusStack) : Bool := s.curSize == 0

def appFocusNodeListRemove (s : AppFocusStack) (inputClientId : Int) : AppFocusStack :=
  if (s.nodeList inputClientId.toNat).clientId ≠ -1 then s.setId inputClientId.toNat .unused else s

def appFocusStackTop (s : AppFocusStack) : Option AppFocusId :=
  if appFocusStackIsEmpty s then none else (s.links.nextElem none none).map s.nodeList

def appFocusStackPop (cb : FocusChangeCallback) (s : AppFocusStack) (value : AppFocusId) (callbackFlag : Int) :
    StackResult :=
  if appFocusStackIsEmpty s then ⟨-ENOENT, value, s, []⟩
  else match s.links.nextElem none none with
    | none => ⟨0, value, s, []⟩
    | some head =>
      let s₁ := s.setState head .quit
      let value := s₁.nodeList head
      let (s₂, events) :=
        if s₁.curSize = 1 then (s₁, [])
        else match s₁.links.nextElem (some head) (some head) with
          | none => (s₁, [])
          | some tmp =>
            let s' := s₁.setState tmp .top
            (s', cb value (s'.nodeList tmp) callbackFlag)
      let s₃ := { s₂ with links := s₂.links.delete head, curSize := s₂.curSize - 1 }
      ⟨0, value, appFocusNodeListRemove s₃ (s₃.nodeList head).clientId, events⟩

def appFocusStackPush (cb : FocusChangeCallback) (s : AppFocusStack) (value : AppFocusId) (callbackFlag : Int) :
    Int × AppFocusStack × List FocusEvent :=
  if appFocusStackIsFull s then (-ENOSPC, s, [])
  else if value.clientId = -1 then (-EINVAL, s, [])
  else
    let location := value.clientId.toNat
    let s₁ := s.setId location value
    let s₂ := { s₁ with links := s₁.links.init (some location) }
    let (s₃, events) :=
      if appFocusStackIsEmpty s₂ then (s₂, [])
      else match s₂.links.nextElem none none with
        | none => (s₂, [])
        | some head =>
          let s' := s₂.setState head .under
          (s', cb value (s'.nodeList head) callbackFlag)
    let s₄ := { s₃ with links := s₃.links.addAfter none location, curSize := s₃.curSize + 1 }
    (0, s₄.setState location .top, events)

/-- The loop of `app_focus_stack_insert`: the entries from the `count`-th on, up to the one the new node goes after. -/
def appFocusStackInsertPlace (index : Int) : Int → List Nat → Option Nat
  | _, [] => none
  | count, tmp :: rest => if count = index - 1 then some tmp else appFocusStackInsertPlace index (count + 1) rest

def appFocusStackInsert (cb : FocusChangeCallback) (s : AppFocusStack) (value : AppFocusId) (index : Int) :
    Int × AppFocusStack × List FocusEvent :=
  if appFocusStackIsFull s then (-ENOSPC, s, [])
  else if appFocusStackIsEmpty s then appFocusStackPush cb s value index
  else if value.clientId = -1 then (-EINVAL, s, [])
  else
    let location := value.clientId.toNat
    let s₁ := s.setId location value
    let s₂ := { s₁ with links := s₁.links.init (some location) }
    match appFocusStackInsertPlace index 0 s₂.entries with
    | some tmp =>
      let s₃ := s₂.setState location .under
      (0, { s₃ with links := s₃.links.addAfter (some tmp) location, curSize := s₃.curSize + 1 }, [])
    | none => (-ENOENT, appFocusNodeListRemove s₂ location, [])

def appFocusStackDelete (cb : FocusChangeCallback) (s : AppFocusStack) (value : AppFocusId) (callbackFlag : Int) :
    StackResult :=
  if appFocusStackIsEmpty s then ⟨-ENOENT, value, s, []⟩
  else match s.links.nextElem none none with
    | none => ⟨-ENOENT, value, s, []⟩
    | some head =>
      if (s.nodeList head).clientId = value.clientId then
        appFocusStackPop cb s { value with
          focusCallback := (s.nodeList head).focusCallback, callbackArgv := (s.nodeList head).callbackArgv } callbackFlag
      else match s.entries.find? fun tmp => (s.nodeList tmp).clientId = value.clientId with
        | none => ⟨-ENOENT, value, s, []⟩
        | some tmp =>
          let s₁ := s.setState tmp .quit
          let s₂ := appFocusNodeListRemove { s₁ with links := s₁.links.delete tmp } (s₁.nodeList tmp).clientId
          ⟨0, { value with
              focusCallback := (s.nodeList tmp).focusCallback, callbackArgv := (s.nodeList tmp).callbackArgv },
            { s₂ with curSize := s₂.curSize - 1 }, []⟩

/-- The loop of `app_focus_stack_useless_clear`.  The answer of `pthread_kill` about a thread may change between two
calls: `alive n t` is the answer of the `n`-th call, and `now` counts the calls made so far.  The next entry is read
before the current one is deleted (`list_for_every_entry_safe`). -/
def appFocusStackUselessClearLoop (cb : FocusChangeCallback) (alive : Nat → Nat → Bool) (callbackFlag : Int) :
    Nat → Option Nat → AppFocusStack → Nat → AppFocusStack × Nat × List FocusEvent
  | 0, _, s, now => (s, now, [])
  | _ + 1, none, s, now => (s, now, [])
  | fuel + 1, some tmp, s, now =>
    let tmpNext := s.links.nextElem none (some tmp)
    if alive now (s.nodeList tmp).threadId then
      appFocusStackUselessClearLoop cb alive callbackFlag fuel tmpNext s (now + 1)
    else
      let s₁ := { s with links := s.links.delete tmp }
      let (s₂, now₂, events) :=
        if (s₁.nodeList tmp).focusState = .top then
          if s₁.curSize = 1 then ({ s₁ with links := s₁.links.init none }, now + 1, [])
          else match tmpNext with
            | none => (s₁, now + 1, [])
            | some next =>
              let s' := s₁.setState next .top
              (s', now + 2,
                if alive (now + 1) (s'.nodeList next).threadId then
                  cb (s'.nodeList tmp) (s'.nodeList next) callbackFlag
                else [])
        else (s₁, now + 1, [])
      let s₃ := s₂.setState tmp .quit
      let s₄ := appFocusNodeListRemove s₃ (s₃.nodeList tmp).clientId
      let r := appFocusStackUselessClearLoop cb alive callbackFlag fuel tmpNext
        { s₄ with curSize := s₄.curSize - 1 } now₂
      (r.1, r.2.1, events ++ r.2.2)

/-- The list has at most `max_size` entries, so the loop ends at the head within its fuel. -/
def appFocusStackUselessClear (cb : FocusChangeCallback) (alive : Nat → Nat → Bool) (s : AppFocusStack)
    (now : Nat) (callbackFlag : Int) : AppFocusStack × Nat × List FocusEvent :=
  if appFocusStackIsEmpty s then (s, now, [])
  else appFocusStackUselessClearLoop cb alive callbackFlag (s.maxSize + 1) (s.links.nextElem none none) s now

def appFocusStackTopChangeBroadcast (cb : FocusChangeCallback) (s : AppFocusStack) (callbackFlag : Int) :
    Int × List FocusEvent :=
  if s.curSize < 2 then (-EPERM, [])
  else match s.links.nextElem none none with
    | none => (0, [])
    | some head =>
      (0, s.entries.flatMap fun tmp =>
        if (s.nodeList tmp).focusState = .top then [] else cb (s.nodeList head) (s.nodeList tmp) callbackFlag)

def appFocusStackGetIndex (s : AppFocusStack) (index : Nat) : Option AppFocusId :=
  s.entries[index]?.map s.nodeList

def appFocusFreeClientId (s : AppFocusStack) : Int :=
  if appFocusStackIsFull s then -ENODATA
  else match (List.range s.maxSize).find? fun i => (s.nodeList i).clientId = -1 with
    | some i => i
    | none => -ENODATA

/-- `app_focus_stack_init` after successful allocations. -/
def appFocusStackInit (focusStackSize : Nat) : AppFocusStack :=
  { links := Links.null.init none
    nodeList := fun _ => .unused
    curSize := 0
    maxSize := focusStackSize }

end MediaFramework
