import MediaFramework.Server.ServerHandles

/-!
# Who gets a notification

A notification goes to the notify socket of the entry that is the cookie of its object.  The entry may have a new
client by then: the notification is for the one that the object was created for as long as no client asks for a notify
socket while an earlier client of the entry has objects.
-/

namespace MediaFramework

open Machine Registry ServerRecord

variable {maxConn depth : Nat} {filters : List AVFilterContext} {t : InteractionTable} {s : MediaServer}
  {r r' : ServerResult} {h : ServerRecord} {i : ServerInput} {k c : Nat}

/-- The entry has a notify socket. -/
def NotifyOpen (s : MediaServer) (c : Nat) : Prop := ∃ conn ∈ s.conns[c]?, 0 < conn.notifyFd

instance (s : MediaServer) (c : Nat) : Decidable (NotifyOpen s c) := inferInstanceAs (Decidable (∃ _ ∈ _, _))

/-- What the last step has sent goes to the socket of the connection that the object was created for. -/
def NoticesOwn (r : ServerResult) (h : ServerRecord) : Prop :=
  ∀ n ∈ r.sent, ∀ c, n.cookie = some c → NotifyOpen r.server c → h.opener c = h.owner n.source

/-- A client that gets a notify socket is the one that all objects which refer to its entry were created for. -/
def AsksForOwn (s : MediaServer) (h : ServerRecord) : ServerInput → Prop
  | .createNotify k fd => 0 < fd → ∀ p ∈ s.objects, p.2 = some k → h.owner p.1 = h.client k
  | _ => True

instance (s : MediaServer) (h : ServerRecord) (i : ServerInput) : Decidable (AsksForOwn s h i) := by
  unfold AsksForOwn
  split
  · infer_instance
  · infer_instance

/-- An open notify socket belongs to the client of its entry, if it is still there, and to the one that the objects
which refer to the entry were created for. -/
structure NotifyOwned (r : ServerResult) (h : ServerRecord) : Prop where
  client : ∀ c, r.server.InUse c → NotifyOpen r.server c → h.opener c = h.client c
  owner : ∀ o c, (o, some c) ∈ r.server.objects → NotifyOpen r.server c → h.owner o = h.opener c
  notices : NoticesOwn r h

theorem notifyOpen_iff {conn : MediaServerConn} (h : s.conns[c]? = some conn) :
    NotifyOpen s c ↔ 0 < conn.notifyFd := by
  unfold NotifyOpen
  rw [h]
  simp

/-- An open notify socket was open before, or has been asked for. -/
theorem serverStep_notifyOpen (hstep : serverStep s i = some r) (hholds : s.Holds depth)
    (hopen : NotifyOpen r.server c) :
    (∃ fd, 0 < fd ∧ i = .createNotify c fd) ∨ NotifyOpen s c ∧ i.asksNotify c = false := by
  obtain ⟨conn', hconn', hpos⟩ := hopen
  rw [Option.mem_def, serverStep_entry hstep hholds] at hconn'
  obtain ⟨conn, hconn, rfl⟩ := Option.map_eq_some_iff.1 hconn'
  rw [notifyOpen_iff hconn]
  unfold ServerInput.entry at hpos
  cases i with
  | accept newFd =>
    dsimp only at hpos
    exact .inr ⟨by split at hpos <;> exact hpos, rfl⟩
  | message k call out =>
    dsimp only at hpos
    split at hpos
    · exact absurd hpos (Int.not_lt.2 (mediaServerConnFinalize_notifyFd _))
    · exact .inr ⟨by split at hpos <;> exact hpos, rfl⟩
  | createNotify k fd =>
    dsimp only at hpos
    split at hpos
    · rename_i hk
      exact .inl ⟨fd, hpos, hk ▸ rfl⟩
    · rename_i hk
      exact .inr ⟨hpos, beq_eq_false_iff_ne.2 hk⟩
  | hangup k =>
    dsimp only at hpos
    exact .inr ⟨by split at hpos <;> exact hpos, rfl⟩
  | filterEvent addr event result extra =>
    dsimp only at hpos
    split at hpos
    · exact absurd hpos (Int.not_lt.2 (mediaServerConnFinalize_notifyFd _))
    · exact .inr ⟨hpos, rfl⟩
  | policyChange addr number literal => exact .inr ⟨hpos, rfl⟩

/-- An entry that gets a new client has no notify socket. -/
theorem not_notifyOpen_of_newSlot (hsound : Sound depth r h) (hslot : i.newSlot r.server = some c) :
    ¬ NotifyOpen r.server c := by
  cases i with
  | accept newFd =>
    obtain ⟨-, conn, hconn, havailable⟩ := acceptedSlot_spec hslot
    rw [notifyOpen_iff hconn, Int.not_lt]
    rcases havailable with hzero | ⟨-, hclosed⟩
    · exact hsound.unused c conn hconn hzero
    · exact hclosed
  | _ => cases hslot

theorem NotifyOwned.step (hsound : Sound depth r h) (howned : NotifyOwned r h) (hasks : AsksForOwn r.server h i)
    (hstep : serverStep r.server i = some r') : NotifyOwned r' (note r i r' h) := by
  have hserved := serverStep_served hsound.holds hstep
  obtain ⟨created, heffect, hfresh, hstored⟩ := hserved.effect
  -- the client of an entry with a notify socket asked for it
  have hclient : ∀ c, r'.server.InUse c → NotifyOpen r'.server c →
      (note r i r' h).opener c = (note r i r' h).client c := by
    intro c huse hopen
    rcases serverStep_notifyOpen hstep hsound.holds hopen with ⟨fd, -, rfl⟩ | ⟨hold, hasked⟩
    · simp [note, ServerInput.asksNotify, ServerInput.newSlot]
    · rcases serverStep_inUse hstep hsound.holds huse with ⟨huse, -, hslot⟩ | ⟨hslot, -⟩
      · simp only [note, hasked, if_neg hslot, Bool.false_eq_true, if_false]
        exact howned.client c huse hold
      · exact absurd hold (not_notifyOpen_of_newSlot hsound hslot)
  have howner : ∀ o c, (o, some c) ∈ r'.server.objects → NotifyOpen r'.server c →
      (note r i r' h).owner o = (note r i r' h).opener c := by
    intro o c hmem hopen
    rcases serverStep_notifyOpen hstep hsound.holds hopen with ⟨fd, hfd, rfl⟩ | ⟨hold, hasked⟩
    · obtain ⟨-, rfl⟩ := serverStep_createNotify hstep
      have hopener : (note r (.createNotify c fd)
          { server := { r.server with conns := r.server.conns.modify c (·.createNotify fd) } } h).opener c =
            h.client c := by
        simp [note, ServerInput.asksNotify]
      rw [hopener, ← hasks hfd (o, some c) hmem rfl]
      exact recordOwners_of_has ⟨some c, hmem⟩
    · have hopener : (note r i r' h).opener c = h.opener c := by
        simp only [note, hasked, Bool.false_eq_true, if_false]
      rw [hopener]
      refine heffect.owners hfresh howned.owner (fun hcreated hserved => ?_) hmem hold
      obtain ⟨k, call, out, rfl⟩ := ServerInput.message_of_creates (hstored.creates hcreated)
      exact (howned.client k (serverStep_message hstep).1 hserved).symm
  refine ⟨hclient, howner, fun n hn c hcookie hopen => ?_⟩
  have hbefore := hserved.sent n hn
  rw [hcookie] at hbefore
  rcases serverStep_notifyOpen hstep hsound.holds hopen with ⟨fd, -, rfl⟩ | ⟨hold, hasked⟩
  · obtain ⟨-, rfl⟩ := serverStep_createNotify hstep
    cases hn
  · have hopener : (note r i r' h).opener c = h.opener c := by
      simp only [note, hasked, Bool.false_eq_true, if_false]
    rw [hopener]
    exact ((recordOwners_of_has ⟨_, hbefore⟩).trans (howned.owner _ c hbefore hold)).symm

/-- In every run in which clients ask for a notify socket only when earlier clients of their entries have no objects,
what is sent goes to the connection that the object was created for. -/
theorem serverRuns_noticesOwn {p : ServerResult × ServerRecord}
    (hp : ReachableVia (serverRuns maxConn filters t depth) (fun p i => AsksForOwn p.1.server p.2 i) p) :
    NoticesOwn p.1 p.2 := by
  have hstart : NotifyOwned (mediaServerMachine maxConn filters t depth).start {} :=
    ⟨fun c huse => (mediaServerInit_idle _ _ _ _ _ huse).elim, fun _ _ _ _ => rfl, nofun⟩
  exact (serverRuns_invariant (P := NotifyOwned) hstart
    (fun _ _ _ _ hsound howned hasks hstep => howned.step hsound hasks hstep) hp).2.notices

/-- A client asks for the focus and leaves; another client gets its entry and a notify socket, and a third client gets
the focus. -/
def sampleFocusRun : List ServerInput :=
  [.accept 5, .message 0 (.focus (some (sampleText "Media")) (some (sampleText "request")) 0) {}, .hangup 0,
    .accept 5, .createNotify 0 6, .accept 7,
    .message 1 (.focus (some (sampleText "Ring")) (some (sampleText "request")) 0) {}]

def sampleFocusState : ServerResult × ServerRecord :=
  ((serverRuns 2 [] sampleTable 8).runFrom (fun _ _ => True) (serverRuns 2 [] sampleTable 8).start
    sampleFocusRun).get (by decide)

/-- The second client is told to pause. -/
theorem focus_notice_misdirected : ¬ ∀ maxConn filters t depth p,
    Reachable (serverRuns maxConn filters t depth) p → NoticesOwn p.1 p.2 := by
  intro h
  have hown := h 2 [] sampleTable 8 sampleFocusState (reachableVia_get (by decide))
    ⟨.focus 0, some 0, 2, 0, none⟩ (by decide) 0 rfl (by decide)
  exact absurd hown (by decide)

/-- The first client has a notify socket of its own, and does not leave. -/
def sampleDuckRun : List ServerInput :=
  [.accept 5, .createNotify 0 6, .message 0 (.focus (some (sampleText "Media")) (some (sampleText "request")) 0) {},
    .accept 7, .message 1 (.focus (some (sampleText "Ring")) (some (sampleText "request")) 0) {}]

theorem serverRuns_noticesOwn_duck :
    let p := ((serverRuns 2 [] sampleTable 8).runFrom (fun p i => AsksForOwn p.1.server p.2 i)
      (serverRuns 2 [] sampleTable 8).start sampleDuckRun).get (by decide)
    NoticesOwn p.1 p.2 :=
  serverRuns_noticesOwn (reachableVia_get (by decide))

end MediaFramework
