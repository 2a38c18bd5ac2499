import MediaFramework.Library.Machine
import MediaFramework.Server.ServerRuns

/-!
# What a run of the server leaves on record

An entry serves one connection after the other, and an address is given to one object after the other.  The record of
a run tells them apart: the connections are numbered as they are accepted, and for each object the number of the
connection is kept that it was created for.
-/

namespace MediaFramework

open Machine Registry

/-- The functions of the record are on entries, except for `owner` and `closing`. -/
structure ServerRecord where
  /-- The number of connections that were accepted. -/
  accepted : Nat := 0
  /-- The connection that the entry was given to last. -/
  client : Nat → Nat := fun _ => 0
  /-- The connection that asked for the notify socket. -/
  opener : Nat → Nat := fun _ => 0
  /-- The kind of the handle that was stored last. -/
  stored : Nat → Option HandleKind := fun _ => none
  /-- The requests of the connection with what they returned, the last one first. -/
  answered : Nat → List (StubCall × Int) := fun _ => []
  /-- What the handle stood for is gone. -/
  stale : Nat → Bool := fun _ => false
  /-- The connection that the object was created for. -/
  owner : ServerObject → Nat := fun _ => 0
  /-- The connection has got a notify socket for its last `CREATE_NOTIFY`, and was not finalized after that. -/
  notified : Nat → Bool := fun _ => false
  /-- A command to close the context at the address was answered without an error. -/
  closing : Nat → Bool := fun _ => false

/-- The entry that a new connection gets. -/
def acceptedSlot (s : MediaServer) (newFd : Int) : Option Nat := if newFd < 0 then none else acceptSlot s.conns

namespace ServerInput

def newSlot (s : MediaServer) : ServerInput → Option Nat
  | accept newFd => acceptedSlot s newFd
  | _ => none

/-- The step stores a handle, of which kind is the command that is served. -/
def stores (r : ServerResult) (c : Nat) : ServerInput → Option (Option HandleKind)
  | message k call _ => if k = c ∧ r.stored.isSome then some call.creates else none
  | _ => none

theorem exists_of_stores {r : ServerResult} {c : Nat} {i : ServerInput} (h : (i.stores r c).isSome) :
    ∃ call out, i = message c call out ∧ i.stores r c = some call.creates := by
  cases i with
  | message k call out =>
    by_cases hk : k = c ∧ r.stored.isSome
    · obtain ⟨rfl, hsome⟩ := hk
      exact ⟨call, out, rfl, if_pos ⟨rfl, hsome⟩⟩
    · rw [stores, if_neg hk] at h
      cases h
  | _ => cases h

def answers (r : ServerResult) (c : Nat) : ServerInput → List (StubCall × Int)
  | message k call _ => if k = c then [(call, r.ret)] else []
  | _ => []

def asksNotify (c : Nat) : ServerInput → Bool
  | createNotify k _ => k == c
  | _ => false

/-- The connection asks for a notify socket: whether it gets one. -/
def getsNotify (c : Nat) : ServerInput → Option Bool
  | createNotify k fd => if k = c then some (decide (0 < fd)) else none
  | _ => none

/-- The context for which a command to close it is answered without an error. -/
def closes (s : MediaServer) (r : ServerResult) : ServerInput → Option Nat
  | message k call _ =>
    if call.closing.isSome ∧ 0 ≤ r.ret then mediaServerGetData s.conns k else none
  | _ => none

end ServerInput

namespace ServerRecord

/-- What the handle of an entry stands for. -/
def denoted (h : ServerRecord) (conns : MediaServerConns) (c : Nat) : Option ServerObject :=
  (mediaServerGetData conns c).bind fun word => (h.stored c).map fun kind => kind.object word

/-- The object was there before the step, and is gone. -/
def Gone (r r' : ServerResult) (o : ServerObject) : Prop := Has r.server.objects o ∧ ¬ Has r'.server.objects o

instance (r r' : ServerResult) (o : ServerObject) : Decidable (Gone r r' o) := inferInstanceAs (Decidable (_ ∧ _))

def note (r : ServerResult) (i : ServerInput) (r' : ServerResult) (h : ServerRecord) : ServerRecord where
  accepted := h.accepted + if (i.newSlot r.server).isSome then 1 else 0
  client c := if i.newSlot r.server = some c then h.accepted else h.client c
  opener c := if i.asksNotify c then h.client c else h.opener c
  stored c := if i.newSlot r.server = some c then none else (i.stores r' c).getD (h.stored c)
  answered c := if i.newSlot r.server = some c then [] else i.answers r' c ++ h.answered c
  stale c :=
    if i.newSlot r.server = some c ∨ (i.stores r' c).isSome then false
    else h.stale c || (h.denoted r.server.conns c).any fun o => decide (Gone r r' o)
  owner := recordOwners r.server.objects r'.server.objects (h.client i.served) h.owner
  notified c :=
    if i.newSlot r.server = some c then false
    else (i.getsNotify c).getD (h.notified c && decide (i.finalizes r.server ≠ some c))
  closing addr :=
    if ¬ Has r.server.objects (.context addr) ∧ Has r'.server.objects (.context addr) then false
    else h.closing addr || decide (i.closes r.server r' = some addr)

end ServerRecord

/-- The server, with what its last step did. -/
def mediaServerMachine (maxConn : Nat) (filters : List AVFilterContext) (t : InteractionTable) (depth : Nat) :
    Machine ServerResult ServerInput where
  start := { server := mediaServerInit maxConn filters t depth }
  next r i := serverStep r.server i

/-- The server with its record. -/
def serverRuns (maxConn : Nat) (filters : List AVFilterContext) (t : InteractionTable) (depth : Nat) :
    Machine (ServerResult × ServerRecord) ServerInput :=
  (mediaServerMachine maxConn filters t depth).recorded {} ServerRecord.note

/-! ### The entries -/

variable {s : MediaServer} {i : ServerInput} {r r' : ServerResult} {k c depth : Nat}

/-- What a step makes of the entry `c`. -/
def ServerInput.entry (s : MediaServer) (r : ServerResult) (c : Nat) (conn : MediaServerConn) :
    ServerInput → MediaServerConn
  | .accept newFd =>
    if acceptedSlot s newFd = some c then { conn with tranFd := newFd, data := none, offset := 0 } else conn
  | .message k _ _ =>
    let conn := if k = c ∧ r.stored.isSome then { conn with data := r.stored } else conn
    if r.finalized = some c then mediaServerConnFinalize conn else conn
  | .createNotify k fd => if k = c then conn.createNotify fd else conn
  | .hangup k => if k = c then conn.close else conn
  | .filterEvent .. => if r.finalized = some c then mediaServerConnFinalize conn else conn
  | .policyChange .. => conn

theorem mediaServerAccept_get (conns : MediaServerConns) (newFd : Int) (c : Nat) :
    (mediaServerAccept conns newFd).2[c]? = conns[c]?.map fun conn =>
      if (if newFd < 0 then none else acceptSlot conns) = some c then
        { conn with tranFd := newFd, data := none, offset := 0 } else conn := by
  by_cases hfd : newFd < 0
  · rw [mediaServerAccept, if_pos hfd]
    simp only [if_pos hfd, reduceCtorEq, if_false, Option.map_id']
  · rw [mediaServerAccept_eq (Int.not_lt.1 hfd)]
    simp only [if_neg hfd]
    cases acceptSlot conns with
    | none => simp
    | some k =>
      simp only [List.getElem?_modify, Option.some.injEq]
      rfl

theorem modify_get (conns : MediaServerConns) (f : MediaServerConn → MediaServerConn) (k c : Nat) :
    (conns.modify k f)[c]? = conns[c]?.map fun conn => if k = c then f conn else conn := by
  rw [List.getElem?_modify]
  rfl

theorem serverStep_entry (h : serverStep s i = some r) (hholds : s.Holds depth) (c : Nat) :
    r.server.conns[c]? = s.conns[c]?.map (i.entry s r c) := by
  cases i with
  | accept newFd =>
    obtain ⟨-, rfl⟩ := serverStep_accept h
    exact mediaServerAccept_get s.conns newFd c
  | message k call out =>
    obtain ⟨-, hfresh, g, hg, rfl⟩ := serverStep_message h
    show (g.conns k)[c]? = _
    rw [g.conns_get, (mediaStubHandle_served hholds hfresh hg).conns]
    rfl
  | createNotify k fd =>
    obtain ⟨-, rfl⟩ := serverStep_createNotify h
    exact modify_get ..
  | hangup k =>
    obtain ⟨-, rfl⟩ := serverStep_hangup h
    exact modify_get ..
  | filterEvent addr event result extra =>
    obtain ⟨g, -, rfl⟩ := Option.map_eq_some_iff.1 h
    exact mediaServerFinalize_get ..
  | policyChange addr number literal =>
    obtain ⟨p, -, rfl⟩ := Option.map_eq_some_iff.1 h
    simp [ServerInput.entry]

/-- The entry of a new connection was free. -/
theorem acceptedSlot_spec {newFd : Int} (h : acceptedSlot s newFd = some k) :
    0 ≤ newFd ∧ ∃ conn, s.conns[k]? = some conn ∧ conn.Available := by
  unfold acceptedSlot at h
  split at h
  · cases h
  · rename_i hfd
    exact ⟨Int.not_lt.1 hfd, acceptSlot_spec h⟩

theorem inUse_iff {conn : MediaServerConn} (h : s.conns[c]? = some conn) : s.InUse c ↔ 0 < conn.tranFd := by
  unfold MediaServer.InUse
  rw [h]
  simp

theorem getData_eq {conns : MediaServerConns} {conn : MediaServerConn} (h : conns[c]? = some conn) :
    mediaServerGetData conns c = conn.data := by
  unfold mediaServerGetData
  rw [h]
  rfl

theorem available_not_inUse {conn : MediaServerConn} (h : s.conns[c]? = some conn) (havailable : conn.Available) :
    ¬ s.InUse c := by
  rw [inUse_iff h]
  unfold MediaServerConn.Available at havailable
  omega

theorem entry_tranFd (conn : MediaServerConn) (hslot : i.newSlot s ≠ some c) (hhangup : i ≠ .hangup c) :
    (i.entry s r c conn).tranFd = conn.tranFd := by
  cases i with
  | accept newFd =>
    have hslot : acceptedSlot s newFd ≠ some c := hslot
    unfold ServerInput.entry
    dsimp only
    rw [if_neg hslot]
  | message k call out =>
    unfold ServerInput.entry
    dsimp only
    split
    · rw [mediaServerConnFinalize_tranFd]
      split <;> rfl
    · split <;> rfl
  | createNotify k fd =>
    unfold ServerInput.entry
    dsimp only
    split <;> rfl
  | hangup k =>
    unfold ServerInput.entry
    dsimp only
    rw [if_neg fun heq => hhangup (congrArg ServerInput.hangup heq)]
  | filterEvent addr event result extra =>
    unfold ServerInput.entry
    dsimp only
    split
    · exact mediaServerConnFinalize_tranFd conn
    · rfl
  | policyChange addr number literal => rfl

/-- An entry is in use afterwards if it is still in use, or was given to a new connection. -/
theorem serverStep_inUse (h : serverStep s i = some r) (hholds : s.Holds depth) (huse : r.server.InUse c) :
    s.InUse c ∧ i ≠ .hangup c ∧ i.newSlot s ≠ some c ∨ i.newSlot s = some c ∧ ¬ s.InUse c := by
  obtain ⟨conn', hconn', hpos⟩ := huse
  rw [Option.mem_def, serverStep_entry h hholds] at hconn'
  obtain ⟨conn, hconn, rfl⟩ := Option.map_eq_some_iff.1 hconn'
  by_cases hslot : i.newSlot s = some c
  · refine .inr ⟨hslot, ?_⟩
    cases i with
    | accept newFd =>
      obtain ⟨-, conn₁, hconn₁, havailable⟩ := acceptedSlot_spec hslot
      exact available_not_inUse hconn₁ havailable
    | _ => cases hslot
  · by_cases hhangup : i = .hangup c
    · -- the socket is closed
      subst hhangup
      simp only [ServerInput.entry, if_true, MediaServerConn.close] at hpos
      exact absurd hpos (by decide)
    · rw [entry_tranFd conn hslot hhangup] at hpos
      exact .inl ⟨(inUse_iff hconn).2 hpos, hhangup, hslot⟩

/-! ### What holds in every run -/

/-- An entry that was never used has no notify socket, and a connection in use is the one its entry was given to
last. -/
structure ServerRecord.Sound (depth : Nat) (r : ServerResult) (h : ServerRecord) : Prop where
  holds : r.server.Holds depth
  unused : ∀ (c : Nat) (conn : MediaServerConn), r.server.conns[c]? = some conn → conn.tranFd = 0 → conn.notifyFd ≤ 0
  client_lt : ∀ c, r.server.InUse c → h.client c < h.accepted
  client_inj : ∀ c c', r.server.InUse c → r.server.InUse c' → h.client c = h.client c' → c = c'

namespace ServerRecord

variable {h : ServerRecord}

/-- A socket for notifications is made for a connection in use. -/
theorem entry_unused {conn : MediaServerConn} (hstep : serverStep s i = some r) (hconn : s.conns[c]? = some conn)
    (hunused : conn.tranFd = 0 → conn.notifyFd ≤ 0) (hzero : (i.entry s r c conn).tranFd = 0) :
    (i.entry s r c conn).notifyFd ≤ 0 := by
  cases i with
  | accept newFd =>
    obtain ⟨hfd, -⟩ := serverStep_accept hstep
    unfold ServerInput.entry at hzero ⊢
    dsimp only at hzero ⊢
    split at hzero
    · exact absurd hzero hfd
    · rename_i hother
      rw [if_neg hother]
      exact hunused hzero
  | message k call out =>
    rw [entry_tranFd (i := .message k call out) conn nofun nofun] at hzero
    unfold ServerInput.entry
    dsimp only
    split
    · exact mediaServerConnFinalize_notifyFd _
    · split <;> exact hunused hzero
  | createNotify k fd =>
    obtain ⟨huse, -⟩ := serverStep_createNotify hstep
    rw [entry_tranFd (i := .createNotify k fd) conn nofun nofun] at hzero
    unfold ServerInput.entry
    dsimp only
    by_cases hk : k = c
    · subst hk
      rw [inUse_iff hconn, hzero] at huse
      exact absurd huse (by decide)
    · rw [if_neg hk]
      exact hunused hzero
  | hangup k =>
    unfold ServerInput.entry at hzero ⊢
    dsimp only at hzero ⊢
    split at hzero
    · have hclosed : conn.close.tranFd = -EPERM := rfl
      rw [hclosed] at hzero
      exact absurd hzero (by decide)
    · rename_i hother
      rw [if_neg hother]
      exact hunused hzero
  | filterEvent addr event result extra =>
    rw [entry_tranFd (i := .filterEvent addr event result extra) conn nofun nofun] at hzero
    unfold ServerInput.entry
    dsimp only
    split
    · exact mediaServerConnFinalize_notifyFd _
    · exact hunused hzero
  | policyChange addr number literal => exact hunused hzero

theorem Sound.step (hsound : Sound depth r h) (hstep : serverStep r.server i = some r') :
    Sound depth r' (note r i r' h) := by
  have hholds := hsound.holds
  refine ⟨(serverStep_served hholds hstep).holds, fun c conn' hconn' hzero => ?_, fun c huse => ?_,
    fun c c' huse huse' heq => ?_⟩
  · rw [serverStep_entry hstep hholds] at hconn'
    obtain ⟨conn, hconn, rfl⟩ := Option.map_eq_some_iff.1 hconn'
    exact entry_unused hstep hconn (hsound.unused c conn hconn) hzero
  · simp only [note]
    rcases serverStep_inUse hstep hholds huse with ⟨hold, -, hslot⟩ | ⟨hslot, -⟩
    · rw [if_neg hslot]
      exact Nat.lt_add_right _ (hsound.client_lt c hold)
    · rw [if_pos hslot, hslot]
      exact Nat.lt_succ_self _
  · -- a new connection has a number of its own
    simp only [note] at heq
    rcases serverStep_inUse hstep hholds huse with ⟨hold, -, hslot⟩ | ⟨hslot, -⟩
    · rcases serverStep_inUse hstep hholds huse' with ⟨hold', -, hslot'⟩ | ⟨hslot', -⟩
      · rw [if_neg hslot, if_neg hslot'] at heq
        exact hsound.client_inj c c' hold hold' heq
      · rw [if_neg hslot, if_pos hslot'] at heq
        exact absurd heq (Nat.ne_of_lt (hsound.client_lt c hold))
    · rcases serverStep_inUse hstep hholds huse' with ⟨hold', -, hslot'⟩ | ⟨hslot', -⟩
      · rw [if_pos hslot, if_neg hslot'] at heq
        exact absurd heq.symm (Nat.ne_of_lt (hsound.client_lt c' hold'))
      · exact Option.some.inj (hslot.symm.trans hslot')

theorem sound_init (maxConn : Nat) (filters : List AVFilterContext) (t : InteractionTable) (depth : Nat) :
    Sound depth (mediaServerMachine maxConn filters t depth).start {} where
  holds := mediaServerInit_holds ..
  unused c conn h _ := by rw [mediaServerInit_conn h]
  client_lt c h := (mediaServerInit_idle _ _ _ _ _ h).elim
  client_inj c _ h := (mediaServerInit_idle _ _ _ _ _ h).elim

end ServerRecord

/-- The invariant rule for the server with its record. -/
theorem serverRuns_invariant {maxConn : Nat} {filters : List AVFilterContext} {t : InteractionTable} {depth : Nat}
    {g : ServerResult × ServerRecord → ServerInput → Prop} {P : ServerResult → ServerRecord → Prop}
    (hstart : P (mediaServerMachine maxConn filters t depth).start {})
    (hstep : ∀ r h i r', ServerRecord.Sound depth r h → P r h → g (r, h) i → serverStep r.server i = some r' →
      P r' (ServerRecord.note r i r' h))
    {p : ServerResult × ServerRecord} (hp : ReachableVia (serverRuns maxConn filters t depth) g p) :
    ServerRecord.Sound depth p.1 p.2 ∧ P p.1 p.2 :=
  hp.recorded (P := fun r h => ServerRecord.Sound depth r h ∧ P r h) ⟨ServerRecord.sound_init .., hstart⟩
    fun r h i r' hinv hg hnext => ⟨hinv.1.step hnext, hstep r h i r' hinv.1 hinv.2 hg hnext⟩

/-! ### The handles -/

/-- An entry with a handle afterwards had it before, and was not finalized, or it was stored by the step. -/
theorem serverStep_data (h : serverStep s i = some r) (hholds : s.Holds depth) {word : Nat}
    (hdata : mediaServerGetData r.server.conns c = some word) :
    i.newSlot s ≠ some c ∧ ((i.stores r c).isSome ∧ r.stored = some word ∨
      i.stores r c = none ∧ mediaServerGetData s.conns c = some word ∧
        ∀ conn ∈ s.conns[c]?, r.finalized = some c → ¬ 0 < conn.notifyFd) := by
  unfold mediaServerGetData at hdata ⊢
  rw [serverStep_entry h hholds] at hdata
  obtain ⟨conn', hconn', hdata⟩ := Option.bind_eq_some_iff.1 hdata
  obtain ⟨conn, hconn, rfl⟩ := Option.map_eq_some_iff.1 hconn'
  simp only [hconn, Option.bind_some, Option.mem_some_iff, forall_eq']
  -- what the entry has if the step is not for it
  have hkept : i.newSlot s ≠ some c → i.stores r c = none → conn.data = some word →
      (r.finalized = some c → ¬ 0 < conn.notifyFd) → i.newSlot s ≠ some c ∧
        ((i.stores r c).isSome ∧ r.stored = some word ∨
        i.stores r c = none ∧ conn.data = some word ∧ (r.finalized = some c → ¬ 0 < conn.notifyFd)) :=
    fun hslot hstores hdata hopen => ⟨hslot, .inr ⟨hstores, hdata, hopen⟩⟩
  unfold ServerInput.entry at hdata
  cases i with
  | accept newFd =>
    obtain ⟨-, rfl⟩ := serverStep_accept h
    dsimp only at hdata
    split at hdata
    · cases hdata
    · exact hkept ‹_› rfl hdata nofun
  | message k call out =>
    dsimp only at hdata
    by_cases hstores : k = c ∧ r.stored.isSome
    · rw [if_pos hstores] at hdata
      refine ⟨nofun, .inl ⟨?_, ?_⟩⟩
      · simp [ServerInput.stores, hstores]
      · split at hdata
        · exact (data_of_finalize hdata).1
        · exact hdata
    · rw [if_neg hstores] at hdata
      have hnone : ServerInput.stores r c (.message k call out) = none := if_neg hstores
      split at hdata
      · obtain ⟨hdata, hopen⟩ := data_of_finalize hdata
        exact hkept nofun hnone hdata fun _ => hopen
      · exact hkept nofun hnone hdata fun hfinalized => absurd hfinalized ‹_›
  | createNotify k fd =>
    obtain ⟨-, rfl⟩ := serverStep_createNotify h
    refine hkept nofun rfl ?_ nofun
    dsimp only at hdata
    split at hdata <;> exact hdata
  | hangup k =>
    obtain ⟨-, rfl⟩ := serverStep_hangup h
    refine hkept nofun rfl ?_ nofun
    dsimp only at hdata
    split at hdata <;> exact hdata
  | filterEvent addr event result extra =>
    dsimp only at hdata
    split at hdata
    · obtain ⟨hdata, hopen⟩ := data_of_finalize hdata
      exact hkept nofun rfl hdata fun _ => hopen
    · exact hkept nofun rfl hdata fun hfinalized => absurd hfinalized ‹_›
  | policyChange addr number literal =>
    obtain ⟨p, -, rfl⟩ := Option.map_eq_some_iff.1 h
    exact hkept nofun rfl hdata nofun

end MediaFramework
