import Mathlib.Data.List.Basic
import MediaFramework.Errno

/-!
# The connections of the server (`server/media_server.c`)

The server has an array of entries for connections.  An entry has the socket for requests, the socket for
notifications that the client may ask for, and one word for the module that serves the client.  Objects of the
modules keep the address of their entry, here its index, as their cookie.
-/

namespace MediaFramework

/-- `media_server_conn`, without what has been received of the next request. -/
structure MediaServerConn where
  tranFd : Int := 0
  notifyFd : Int := 0
  data : Option Nat := none
  offset : Nat := 0
  deriving DecidableEq

abbrev MediaServerConns := List MediaServerConn

/-! ### The functions -/

/-- `media_server_conn_close`. -/
def MediaServerConn.close (conn : MediaServerConn) : MediaServerConn := { conn with tranFd := -EPERM, offset := 0 }

/-- The case of `MEDIA_PARCEL_CREATE_NOTIFY`; `fd` is what `media_server_create_notify` returns. -/
def MediaServerConn.createNotify (conn : MediaServerConn) (fd : Int) : MediaServerConn :=
  { conn with notifyFd := fd, offset := 0 }

def mediaServerConnInit (conn : MediaServerConn) (fd : Int) : Bool × MediaServerConn :=
  if 0 < conn.tranFd then (false, conn)
  else
    let available := if conn.tranFd = 0 then true else decide (conn.notifyFd ≤ 0)
    (available, if available then { conn with tranFd := fd, data := none, offset := 0 } else conn)

/-- The loop over the entries of `media_server_accept`. -/
def mediaServerAcceptLoop (newFd : Int) : MediaServerConns → Int × MediaServerConns
  | [] => (-EMFILE, [])
  | conn :: conns =>
    let r := mediaServerConnInit conn newFd
    if r.1 then (0, r.2 :: conns)
    else
      let rest := mediaServerAcceptLoop newFd conns
      (rest.1, r.2 :: rest.2)

/-- `newFd` is what `accept4` returns, or `-errno`. -/
def mediaServerAccept (conns : MediaServerConns) (newFd : Int) : Int × MediaServerConns :=
  if newFd < 0 then (newFd, conns) else mediaServerAcceptLoop newFd conns

def mediaServerConnFinalize (conn : MediaServerConn) : MediaServerConn :=
  if 0 < conn.notifyFd then { conn with notifyFd := 0, data := none, offset := 0 } else conn

def mediaServerFinalize (conns : MediaServerConns) : Option Nat → MediaServerConns
  | none => conns
  | some k => conns.modify k mediaServerConnFinalize

def mediaServerSetData (conns : MediaServerConns) (k : Nat) (data : Option Nat) : MediaServerConns :=
  conns.modify k fun conn => { conn with data }

def mediaServerGetData (conns : MediaServerConns) (k : Nat) : Option Nat := conns[k]?.bind MediaServerConn.data

/-! ### What they do to the entries -/

variable {conns : MediaServerConns} {conn : MediaServerConn} {k c : Nat} {fd : Int}

/-- An entry is free when it was never used, or both of its sockets are closed. -/
def MediaServerConn.Available (conn : MediaServerConn) : Prop :=
  conn.tranFd = 0 ∨ conn.tranFd < 0 ∧ conn.notifyFd ≤ 0

instance (conn : MediaServerConn) : Decidable conn.Available := inferInstanceAs (Decidable (_ ∨ _))

theorem mediaServerConnInit_eq (conn : MediaServerConn) (fd : Int) :
    mediaServerConnInit conn fd =
      if conn.Available then (true, { conn with tranFd := fd, data := none, offset := 0 }) else (false, conn) := by
  unfold mediaServerConnInit
  by_cases hbusy : 0 < conn.tranFd
  · have havailable : ¬ conn.Available := by
      unfold MediaServerConn.Available
      omega
    rw [if_pos hbusy, if_neg havailable]
  · rw [if_neg hbusy]
    by_cases hzero : conn.tranFd = 0
    · have havailable : conn.Available := .inl hzero
      rw [if_pos havailable]
      simp only [if_pos hzero, if_true]
    · have hiff : conn.Available ↔ conn.notifyFd ≤ 0 := by
        unfold MediaServerConn.Available
        omega
      simp only [if_neg hzero, hiff]
      by_cases hnotify : conn.notifyFd ≤ 0
      · simp only [hnotify, decide_true, if_true]
      · simp only [hnotify, decide_false, Bool.false_eq_true, if_false]

/-- The entry for a new connection. -/
def acceptSlot (conns : MediaServerConns) : Option Nat := conns.findIdx? fun conn => decide conn.Available

theorem acceptSlot_spec (h : acceptSlot conns = some k) : ∃ conn, conns[k]? = some conn ∧ conn.Available := by
  obtain ⟨hlt, havailable, -⟩ := List.findIdx?_eq_some_iff_getElem.1 h
  exact ⟨conns[k], List.getElem?_eq_getElem hlt, of_decide_eq_true havailable⟩

/-- A new connection gets the first free entry. -/
theorem mediaServerAccept_eq (hfd : 0 ≤ fd) :
    mediaServerAccept conns fd =
      match acceptSlot conns with
      | some k => (0, conns.modify k fun conn => { conn with tranFd := fd, data := none, offset := 0 })
      | none => (-EMFILE, conns) := by
  rw [mediaServerAccept, if_neg (Int.not_lt.2 hfd)]
  induction conns with
  | nil => rfl
  | cons conn conns ih =>
    unfold mediaServerAcceptLoop acceptSlot
    rw [mediaServerConnInit_eq, List.findIdx?_cons]
    by_cases havailable : conn.Available
    · simp only [havailable, decide_true, if_true]
      rfl
    · simp only [havailable, decide_false, Bool.false_eq_true, if_false]
      rw [ih]
      unfold acceptSlot
      cases conns.findIdx? fun conn => decide conn.Available with
      | none => rfl
      | some k => rfl

theorem mediaServerFinalize_get (conns : MediaServerConns) (cookie : Option Nat) (c : Nat) :
    (mediaServerFinalize conns cookie)[c]? =
      conns[c]?.map fun conn => if cookie = some c then mediaServerConnFinalize conn else conn := by
  cases cookie with
  | none => simp [mediaServerFinalize]
  | some k => simp only [mediaServerFinalize, List.getElem?_modify, Option.some.injEq]; rfl

theorem mediaServerSetData_get (conns : MediaServerConns) (k : Nat) (data : Option Nat) (c : Nat) :
    (mediaServerSetData conns k data)[c]? = conns[c]?.map fun conn => if k = c then { conn with data } else conn := by
  simp only [mediaServerSetData, List.getElem?_modify]
  rfl

@[simp] theorem mediaServerConnFinalize_tranFd (conn : MediaServerConn) :
    (mediaServerConnFinalize conn).tranFd = conn.tranFd := by
  unfold mediaServerConnFinalize
  split <;> rfl

/-- Afterwards the notify socket is not open. -/
theorem mediaServerConnFinalize_notifyFd (conn : MediaServerConn) : (mediaServerConnFinalize conn).notifyFd ≤ 0 := by
  unfold mediaServerConnFinalize
  split
  · exact Int.le_refl 0
  · omega

/-- Only a connection with a notify socket forgets its word. -/
theorem mediaServerConnFinalize_data (conn : MediaServerConn) :
    (mediaServerConnFinalize conn).data = if 0 < conn.notifyFd then none else conn.data := by
  unfold mediaServerConnFinalize
  split <;> rfl

theorem data_of_finalize {word : Nat} (h : (mediaServerConnFinalize conn).data = some word) :
    conn.data = some word ∧ ¬ 0 < conn.notifyFd := by
  rw [mediaServerConnFinalize_data] at h
  split at h
  · cases h
  · exact ⟨h, ‹_›⟩

end MediaFramework
