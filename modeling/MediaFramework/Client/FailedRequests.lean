import MediaFramework.Server.ServerRuns

/-!
# What failed requests leave behind

`media_focus_request` and `media_session_register` take several steps, and undo what they have done when one fails: the
first sends "abandon" and disconnects when the server agrees, the second frees its context.  But the server agrees only
to abandon a handle that it has stored, and `media_session_register` does not disconnect.
-/

namespace MediaFramework

open Registry

/-! ### The connection -/

/-- What `media_parcel_send` and `media_parcel_recv` return when a connected socket fails. -/
structure WireError where
  ret : Int
  negative : ret < 0
  notMissing : ret ≠ -ENOENT

/-- How a request goes: it is answered, or it cannot be sent, or it is served but the answer is not received; that
answer may come later. -/
inductive Exchange
  | answered
  | unsent (err : WireError)
  | lost (err : WireError) (late : Bool)

/-- A connection of a client: its server and the entry there, the answers that were not received in time, and its
proxy, with the listener thread and the calls of the release callback. -/
structure SyncClient where
  server : MediaServer
  slot : Nat
  unread : List Int := []
  connected : Bool := true
  refs : Nat := 1
  releaseCb : Bool := false
  listening : Bool := false
  releases : Nat := 0

/-- A server that accepts a connection.  An entry that was never used has no sockets. -/
structure Peer (depth : Nat) where
  server : MediaServer
  holds : server.Holds depth
  slot : Nat
  free : acceptSlot server.conns = some slot
  unused : ∀ conn ∈ server.conns, conn.tranFd = 0 → conn.notifyFd ≤ 0
  fd : Nat

/-- What `media_proxy_create_listenfd` returns and what socket the server makes of it, and what `pthread_create`
returns. -/
structure ListenerOutcome where
  listenfd : Int := 0
  notifyFd : Int := 1
  thread : Int := 0

variable {depth : Nat}

/-- `media_proxy_connect` to a server that accepts. -/
def Peer.connect (p : Peer depth) : SyncClient where
  server := { p.server with conns := (mediaServerAccept p.server.conns (p.fd + 1)).2 }
  slot := p.slot

namespace SyncClient

variable (s : SyncClient)

/-- The server handles the request. -/
def serve (out : StubOutcomes) (call : StubCall) : Int × SyncClient :=
  match mediaStubHandle s.server s.slot out call with
  | some r => (r.ret, { s with server := { r.server with conns := r.conns s.slot } })
  | none => (-ENOSYS, s)

/-- `media_proxy_once`, which takes the first answer that comes. -/
def once (e : Exchange) (out : StubOutcomes) (call : StubCall) : Int × SyncClient :=
  match e with
  | .unsent err => (err.ret, s)
  | .lost err late =>
    let r := s.serve out call
    (err.ret, { r.2 with unread := if late then s.unread ++ [r.1] else s.unread })
  | .answered =>
    let r := s.serve out call
    match s.unread with
    | [] => r
    | ret :: unread => (ret, { r.2 with unread := unread ++ [r.1] })

def unref : SyncClient :=
  { s with refs := s.refs - 1, releases := if s.refs = 1 ∧ s.releaseCb = true then s.releases + 1 else s.releases }

/-- `media_proxy_disconnect`, which waits for the listener thread to end, and what the server does then. -/
def disconnect : SyncClient :=
  let s := if s.listening then { unref s with listening := false } else s
  unref { s with
    connected := false
    server := { s.server with conns := s.server.conns.modify s.slot MediaServerConn.close } }

/-- `media_proxy_set_event_cb`, which takes only a negative result of `pthread_create` for an error. -/
def setEventCb (o : ListenerOutcome) : Int × SyncClient :=
  if o.listenfd < 0 then (o.listenfd, s)
  else
    let s := { s with
      refs := s.refs + 1
      server := { s.server with conns := s.server.conns.modify s.slot (·.createNotify o.notifyFd) } }
    (o.thread, if o.thread = 0 then { s with listening := true } else if o.thread < 0 then unref s else s)

end SyncClient

/-! ### The functions -/

/-- The connection is closed, its entry is free again, and the server holds no object that it did not hold before. -/
structure SyncClient.Undone (p : Peer depth) (s : SyncClient) : Prop where
  closed : s.connected = false
  objects : ∀ o, Has s.server.objects o → Has p.server.objects o
  entry : ∀ conn ∈ s.server.conns[s.slot]?, conn.Available

variable {p : Peer depth} {s : SyncClient} {e : Exchange} {out : StubOutcomes}

/-- The connection as the server has accepted it. -/
theorem Peer.connect_entry (p : Peer depth) : ∃ conn, p.connect.server.conns[p.slot]? = some conn ∧
    conn.notifyFd ≤ 0 ∧ conn.data = none := by
  obtain ⟨conn, hconn, havailable⟩ := acceptSlot_spec p.free
  have haccept := @mediaServerAccept_eq p.server.conns (p.fd + 1) (by omega)
  rw [p.free] at haccept
  refine ⟨{ conn with tranFd := p.fd + 1, data := none, offset := 0 }, ?_, ?_, rfl⟩
  · simp only [Peer.connect, haccept, List.getElem?_modify, hconn]
    simp
  · rcases havailable with hzero | ⟨-, hnotify⟩
    · exact p.unused conn (List.mem_of_getElem? hconn) hzero
    · exact hnotify

/-- The server has nothing new, and no socket for notifications. -/
structure SyncClient.Untouched (p : Peer depth) (s : SyncClient) : Prop where
  slot : s.slot = p.slot
  objects : ∀ o, Has s.server.objects o → Has p.server.objects o
  entry : ∃ conn, s.server.conns[s.slot]? = some conn ∧ conn.notifyFd ≤ 0

theorem Peer.untouched (p : Peer depth) : p.connect.Untouched p where
  slot := rfl
  objects _ h := h
  entry := by
    obtain ⟨conn, hconn, hnotify, -⟩ := p.connect_entry
    exact ⟨conn, hconn, hnotify⟩

@[simp] theorem SyncClient.unref_server (s : SyncClient) : s.unref.server = s.server := rfl

@[simp] theorem SyncClient.unref_connected (s : SyncClient) : s.unref.connected = s.connected := rfl

@[simp] theorem SyncClient.unref_slot (s : SyncClient) : s.unref.slot = s.slot := rfl

/-- The connection before the request: the server has done nothing for it but to open a socket. -/
structure SyncClient.Begun (p : Peer depth) (s : SyncClient) : Prop where
  slot : s.slot = p.slot
  server : ∃ conns, s.server = { p.server with conns }
  entry : ∃ conn, s.server.conns[s.slot]? = some conn ∧ conn.data = none
  unread : s.unread = []
  connected : s.connected = true

theorem Peer.begun (p : Peer depth) : p.connect.Begun p where
  slot := rfl
  server := ⟨_, rfl⟩
  entry := by
    obtain ⟨conn, hconn, -, hdata⟩ := p.connect_entry
    exact ⟨conn, hconn, hdata⟩
  unread := rfl
  connected := rfl

theorem SyncClient.Begun.setEventCb (h : s.Begun p) (o : ListenerOutcome) : (s.setEventCb o).2.Begun p := by
  obtain ⟨conns, hserver⟩ := h.server
  obtain ⟨conn, hconn, hdata⟩ := h.entry
  have hnotify : Begun p { s with
      refs := s.refs + 1
      server := { s.server with conns := s.server.conns.modify s.slot (·.createNotify o.notifyFd) } } := by
    refine ⟨h.slot, ⟨_, by rw [hserver]⟩, ⟨conn.createNotify o.notifyFd, ?_, hdata⟩, h.unread, h.connected⟩
    simp [hconn]
  unfold SyncClient.setEventCb
  split
  · exact h
  · dsimp only
    split
    · exact ⟨hnotify.slot, hnotify.server, hnotify.entry, hnotify.unread, hnotify.connected⟩
    · split
      · exact ⟨hnotify.slot, hnotify.server, hnotify.entry, hnotify.unread, hnotify.connected⟩
      · exact hnotify

/-- The connection after the server has handled the request. -/
def SyncClient.handled (s : SyncClient) (r : HandlerResult) (unread : List Int) : SyncClient :=
  { s with server := { r.server with conns := r.conns s.slot }, unread }

end MediaFramework
