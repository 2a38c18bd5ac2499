import Mathlib.Logic.Relation
import MediaFramework.Server.MediaDaemon
import MediaFramework.Server.ServerSlots

/-!
# The rounds of the daemon

In a round of its main loop the daemon waits, then gives each ready descriptor to its module, then lets the graph run.
What is done for one descriptor may open, close and finalize connections, while the descriptors behind it were collected
before.
-/

namespace MediaFramework

open Machine

/-- A parcel that is received: a request to a module, with what it meets, `CREATE_NOTIFY` with the result of
`media_server_create_notify`, or something that is not handled. -/
inductive ReceivedParcel
  | request (call : StubCall) (out : StubOutcomes)
  | createNotify (fd : Int)
  | other

/-- What happens while a filter runs. -/
inductive GraphEvent
  | event (addr : Nat) (event : AVMovieAsyncEvent) (result : BitVec 32) (extra : Option CString)
  | change (addr : Nat) (number : BitVec 32) (literal : Option CString)

/-- What a descriptor that is ready meets: its `revents`, the result of `accept4`, what is received and the result that
ends it, and what happens in a filter. -/
structure ReadyOutcome where
  pollErr : Bool := false
  pollIn : Bool := false
  pollHup : Bool := false
  newFd : Int := -EAGAIN
  parcels : List ReceivedParcel := []
  ret : Int := -EAGAIN
  events : List GraphEvent := []

/-! ### The functions -/

/-- `priv->onreceive`; `zalloc` gives an address that is not in use. -/
def mediaServerOnreceive (s : MediaServer) (k : Nat) (call : StubCall) (out : StubOutcomes) : Option MediaServer :=
  if out.Fresh s then (mediaStubHandle s k out call).map fun r => { r.server with conns := r.conns k } else none

def mediaServerParcel (s : MediaServer) (k : Nat) : ReceivedParcel → Option MediaServer
  | .request call out => mediaServerOnreceive s k call out
  | .createNotify fd => some { s with conns := s.conns.modify k (·.createNotify fd) }
  | .other => some s

def mediaServerCloseFd (s : MediaServer) (k : Nat) : MediaServer :=
  { s with conns := s.conns.modify k MediaServerConn.close }

def mediaServerParcels (k : Nat) : MediaServer → List ReceivedParcel → Option MediaServer
  | s, [] => some s
  | s, p :: ps => (mediaServerParcel s k p).bind fun s => mediaServerParcels k s ps

def mediaServerReceiveFd (s : MediaServer) (fd : Int) (k : Nat) (o : ReadyOutcome) : Option MediaServer :=
  if fd ≤ 0 then some s
  else if o.pollErr then some (mediaServerCloseFd s k)
  else
    (mediaServerParcels k s o.parcels).map fun s =>
      if o.pollIn = true ∧ o.ret = -EPIPE ∨ o.pollHup = true then mediaServerCloseFd s k else s

/-- The descriptor 0 is never free. -/
def mediaServerAcceptFd (s : MediaServer) (fd : Int) (newFd : Int) : Option MediaServer :=
  if fd ≤ 0 then some s
  else if newFd = 0 then none
  else some { s with conns := (mediaServerAccept s.conns newFd).2 }

def mediaServerPollAvailable (s : MediaServer) (fd : Int) (conn : Option Nat) (o : ReadyOutcome) :
    Option MediaServer :=
  match conn with
  | some k => mediaServerReceiveFd s fd k o
  | none => mediaServerAcceptFd s fd o.newFd

/-- An event goes to the callback of its context, a change to the subscriber. -/
def graphEvent (s : MediaServer) : GraphEvent → Option MediaServer
  | .event addr event result extra => (serverStep s (.filterEvent addr event result extra)).map ServerResult.server
  | .change addr number literal => (serverStep s (.policyChange addr number literal)).map ServerResult.server

def graphEvents : MediaServer → List GraphEvent → Option MediaServer
  | s, [] => some s
  | s, e :: es => (graphEvent s e).bind fun s => graphEvents s es

/-- Without a filter only the event descriptor is read. -/
def mediaGraphPollAvailable (s : MediaServer) (filter : Option Nat) (o : ReadyOutcome) : Option MediaServer :=
  if filter.isSome then graphEvents s o.events else some s

/-- `g_media[idx].available`; the other modules have none. -/
def pollAvailable (s : MediaServer) (e : Polled) (o : ReadyOutcome) : Option MediaServer :=
  if e.idx = 1 then mediaGraphPollAvailable s e.ctx o
  else if e.idx = 4 then mediaServerPollAvailable s e.fd e.ctx o
  else none

/-- The loop over what is polled; nothing comes of a descriptor that is not ready. -/
def mainDispatch : MediaServer → List (Polled × Option ReadyOutcome) → Option MediaServer
  | s, [] => some s
  | s, (_, none) :: ready => mainDispatch s ready
  | s, (e, some o) :: ready => (pollAvailable s e o).bind fun s => mainDispatch s ready

/-- What a round meets: what the filters answer, what comes of the descriptor at each index, and what happens while the
graph runs. -/
structure RoundInput where
  filters : List PollFilter := []
  ready : Nat → Option ReadyOutcome := fun _ => none
  runOnce : List GraphEvent := []

/-- The descriptors that are polled, each with what comes of it. -/
def RoundInput.outcomes (i : RoundInput) (polled : List Polled) : List (Polled × Option ReadyOutcome) :=
  polled.zipIdx.map fun p => (p.1, i.ready p.2)

/-- One pass of `while (1)`, with the event descriptor of the graph and the listening sockets.  There is no result when
the arrays are left or the assertion fails. -/
def mainRound (size : Nat) (fd : Int) (l : ListenFds) (d : MediaServer × MediaPriv) (i : RoundInput) :
    Option (MediaServer × MediaPriv) :=
  (mainCollect size 0 (gMedia fd i.filters l d.1.conns) 0 d.2).bind fun r =>
    if 0 < r.1 ∧ r.1 < size then
      (mainDispatch d.1 (i.outcomes (r.2.polled r.1))).bind fun s =>
        (graphEvents s i.runOnce).map fun s => (s, r.2)
    else none

/-- The daemon, with the arrays as `malloc` gives them. -/
def mainLoop (size : Nat) (fd : Int) (l : ListenFds) (priv : MediaPriv) (maxConn : Nat)
    (filters : List AVFilterContext) (t : InteractionTable) (depth : Nat) :
    Machine (MediaServer × MediaPriv) RoundInput where
  start := (mediaServerInit maxConn filters t depth, priv)
  next := mainRound size fd l

/-! ### What is done for one descriptor -/

variable {depth k c : Nat} {s s' s'' : MediaServer} {o : ReadyOutcome} {fd : Int}

/-- One step of the server. -/
def ServerGoes (s s' : MediaServer) : Prop := ∃ i r, serverStep s i = some r ∧ r.server = s'

/-- The socket of an entry. -/
def tranFd (s : MediaServer) (c : Nat) : Option Int := s.conns[c]?.map MediaServerConn.tranFd

theorem inUse_tranFd : s.InUse c ↔ ∃ fd ∈ tranFd s c, 0 < fd := by
  unfold MediaServer.InUse tranFd
  cases s.conns[c]? <;> simp

/-- The server does steps, and only the entry `k`, if any, may lose its client. -/
structure DaemonServes (depth : Nat) (k : Option Nat) (s s' : MediaServer) : Prop where
  goes : Relation.ReflTransGen ServerGoes s s'
  holds : s'.Holds depth
  kept : ∀ c, k ≠ some c → s.InUse c → tranFd s' c = tranFd s c

namespace DaemonServes

variable {e : Option Nat}

theorem refl (hholds : s.Holds depth) : DaemonServes depth e s s := ⟨.refl, hholds, fun _ _ _ => rfl⟩

theorem trans (h : DaemonServes depth e s s') (h' : DaemonServes depth e s' s'') : DaemonServes depth e s s'' := by
  refine ⟨h.goes.trans h'.goes, h'.holds, fun c hc huse => ?_⟩
  have hkept := h.kept c hc huse
  have huse' : s'.InUse c := by
    rw [inUse_tranFd, hkept, ← inUse_tranFd]
    exact huse
  exact (h'.kept c hc huse').trans hkept

/-- Steps that no client is lost in are such steps for any entry. -/
theorem mono (h : DaemonServes depth none s s') : DaemonServes depth e s s' :=
  ⟨h.goes, h.holds, fun c _ huse => h.kept c (Option.some_ne_none c).symm huse⟩

theorem step {i : ServerInput} {r : ServerResult} (hholds : s.Holds depth) (h : serverStep s i = some r)
    (hi : ∀ c, e ≠ some c → i ≠ .hangup c) : DaemonServes depth e s r.server := by
  refine ⟨.single ⟨i, r, h, rfl⟩, (serverStep_served hholds h).holds, fun c hc huse => ?_⟩
  unfold tranFd
  rw [serverStep_entry h hholds]
  have hslot := not_newSlot_of_inUse (i := i) huse
  obtain ⟨conn, hconn, -⟩ := huse
  rw [Option.mem_def.1 hconn, Option.map_some, Option.map_some, Option.map_some, entry_tranFd conn hslot (hi c hc)]

end DaemonServes

theorem mediaServerParcel_serves (hholds : s.Holds depth) (huse : s.InUse k) {p : ReceivedParcel}
    (h : mediaServerParcel s k p = some s') : DaemonServes depth none s s' := by
  cases p with
  | request call out =>
    have h : mediaServerOnreceive s k call out = some s' := h
    unfold mediaServerOnreceive at h
    split at h
    · rename_i hfresh
      obtain ⟨r, hr, rfl⟩ := Option.map_eq_some_iff.1 h
      have hstep : serverStep s (.message k call out) =
          some { server := { r.server with conns := r.conns k }, ret := r.ret, stored := r.stored
                 finalized := r.finalized, sent := r.sent } := by
        show (if s.InUse k ∧ out.Fresh s then _ else none) = _
        rw [if_pos ⟨huse, hfresh⟩, hr]
        rfl
      exact .step hholds hstep fun c _ heq => by cases heq
    · cases h
  | createNotify fd =>
    cases h
    have hstep : serverStep s (.createNotify k fd) =
        some { server := { s with conns := s.conns.modify k (·.createNotify fd) } } := if_pos huse
    exact .step hholds hstep fun c _ heq => by cases heq
  | other =>
    cases h
    exact .refl hholds

theorem mediaServerParcels_serves {ps : List ReceivedParcel} (hholds : s.Holds depth) (huse : s.InUse k)
    (h : mediaServerParcels k s ps = some s') : DaemonServes depth none s s' := by
  induction ps generalizing s with
  | nil =>
    cases h
    exact .refl hholds
  | cons p ps ih =>
    obtain ⟨u, hu, h⟩ := Option.bind_eq_some_iff.1 h
    have hserves := mediaServerParcel_serves hholds huse hu
    have huse' : u.InUse k := by
      rw [inUse_tranFd, hserves.kept k (Option.some_ne_none k).symm huse, ← inUse_tranFd]
      exact huse
    exact hserves.trans (ih hserves.holds huse' h)

theorem mediaServerCloseFd_serves (hholds : s.Holds depth) (huse : s.InUse k) :
    DaemonServes depth (some k) s (mediaServerCloseFd s k) := by
  have hstep : serverStep s (.hangup k) = some { server := mediaServerCloseFd s k } := if_pos huse
  refine .step hholds hstep fun c hc heq => ?_
  cases heq
  exact hc rfl

/-- A connection that has a client is served by steps of the server, and no other one loses its client. -/
theorem mediaServerReceiveFd_serves (hholds : s.Holds depth) (huse : s.InUse k)
    (h : mediaServerReceiveFd s fd k o = some s') : DaemonServes depth (some k) s s' := by
  unfold mediaServerReceiveFd at h
  split at h
  · cases h
    exact .refl hholds
  · split at h
    · cases h
      exact mediaServerCloseFd_serves hholds huse
    · obtain ⟨u, hu, rfl⟩ := Option.map_eq_some_iff.1 h
      have hserves := mediaServerParcels_serves hholds huse hu
      split
      · have huse' : u.InUse k := by
          rw [inUse_tranFd, hserves.kept k (Option.some_ne_none k).symm huse, ← inUse_tranFd]
          exact huse
        exact hserves.mono.trans (mediaServerCloseFd_serves hserves.holds huse')
      · exact hserves.mono

theorem mediaServerAcceptFd_serves {newFd : Int} (hholds : s.Holds depth)
    (h : mediaServerAcceptFd s fd newFd = some s') : DaemonServes depth none s s' := by
  unfold mediaServerAcceptFd at h
  split at h
  · cases h
    exact .refl hholds
  · split at h
    · cases h
    · rename_i hfd
      cases h
      have hstep : serverStep s (.accept newFd) =
          some { server := { s with conns := (mediaServerAccept s.conns newFd).2 }
                 ret := (mediaServerAccept s.conns newFd).1 } := if_neg hfd
      exact .step hholds hstep fun c _ heq => by cases heq

theorem graphEvents_serves {es : List GraphEvent} (hholds : s.Holds depth) (h : graphEvents s es = some s') :
    DaemonServes depth none s s' := by
  induction es generalizing s with
  | nil =>
    cases h
    exact .refl hholds
  | cons e es ih =>
    obtain ⟨u, hu, h⟩ := Option.bind_eq_some_iff.1 h
    have hserves : DaemonServes depth none s u := by
      cases e with
      | event addr event result extra =>
        obtain ⟨r, hr, rfl⟩ := Option.map_eq_some_iff.1 hu
        exact .step hholds hr fun c _ heq => by cases heq
      | change addr number literal =>
        obtain ⟨r, hr, rfl⟩ := Option.map_eq_some_iff.1 hu
        exact .step hholds hr fun c _ heq => by cases heq
    exact hserves.trans (ih hserves.holds h)

/-- The entry that a descriptor is for. -/
def Polled.conn (e : Polled) : Option Nat := if e.idx = 4 then e.ctx else none

theorem pollAvailable_serves {e : Polled} (hholds : s.Holds depth) (huse : ∀ k ∈ e.conn, s.InUse k)
    (h : pollAvailable s e o = some s') : DaemonServes depth e.conn s s' := by
  unfold pollAvailable at h
  split at h
  · refine DaemonServes.mono ?_
    unfold mediaGraphPollAvailable at h
    split at h
    · exact graphEvents_serves hholds h
    · cases h
      exact .refl hholds
  · split at h
    · rename_i hidx
      have hconn : e.conn = e.ctx := if_pos hidx
      rw [hconn] at huse ⊢
      unfold mediaServerPollAvailable at h
      split at h
      · rename_i k hctx
        rw [hctx]
        exact mediaServerReceiveFd_serves hholds (huse k hctx) h
      · exact (mediaServerAcceptFd_serves hholds h).mono
    · cases h

/-! ### What is done in a round -/

variable {size maxConn n : Nat} {l : ListenFds} {priv priv' : MediaPriv} {filters : List AVFilterContext}
  {t : InteractionTable} {d d' : MediaServer × MediaPriv} {i : RoundInput} {polled : List Polled} {e : Polled}
  {ready pre post : List (Polled × Option ReadyOutcome)}

/-- The descriptors for connections are their open sockets, each once. -/
structure Current (s : MediaServer) (polled : List Polled) : Prop where
  module : ∀ e ∈ polled, e.idx = 1 ∨ e.idx = 4
  socket : ∀ e ∈ polled, ∀ k ∈ e.conn, tranFd s k = some e.fd ∧ 0 < e.fd
  once : polled.Pairwise fun e e' => ∀ k ∈ e.conn, e'.conn ≠ some k

theorem Current.inUse (h : Current s polled) (he : e ∈ polled) : ∀ k ∈ e.conn, s.InUse k := by
  intro k hk
  obtain ⟨htran, hpos⟩ := h.socket e he k hk
  exact inUse_tranFd.2 ⟨e.fd, htran, hpos⟩

/-- When the first one has been served, the others still are. -/
theorem Current.serves (h : Current s (e :: polled)) (hserves : DaemonServes depth e.conn s s') :
    Current s' polled := by
  refine ⟨fun e' he' => h.module e' (List.mem_cons_of_mem _ he'), fun e' he' k hk => ?_, h.once.of_cons⟩
  obtain ⟨htran, hpos⟩ := h.socket e' (List.mem_cons_of_mem _ he') k hk
  have hother : e.conn ≠ some k := fun heq => (List.pairwise_cons.1 h.once).1 e' he' k heq hk
  rw [hserves.kept k hother (h.inUse (List.mem_cons_of_mem _ he') k hk)]
  exact ⟨htran, hpos⟩

theorem mainDispatch_serves (hholds : s.Holds depth) (hcurrent : Current s ((pre ++ post).map Prod.fst))
    (h : mainDispatch s pre = some s') :
    Relation.ReflTransGen ServerGoes s s' ∧ s'.Holds depth ∧ Current s' (post.map Prod.fst) := by
  induction pre generalizing s with
  | nil =>
    cases h
    exact ⟨.refl, hholds, hcurrent⟩
  | cons p pre ih =>
    obtain ⟨e, o⟩ := p
    cases o with
    | none => exact ih hholds (hcurrent.serves (.refl hholds)) h
    | some o =>
      obtain ⟨u, hu, h⟩ := Option.bind_eq_some_iff.1 h
      have hserves := pollAvailable_serves hholds (hcurrent.inUse List.mem_cons_self) hu
      obtain ⟨hgoes, hholds', hcurrent'⟩ := ih hserves.holds (hcurrent.serves hserves) h
      exact ⟨hserves.goes.trans hgoes, hholds', hcurrent'⟩

/-- The connections are collected with their sockets, in the order of the entries. -/
theorem connPolls_spec (conns : MediaServerConns) (j : Nat) :
    (∀ p ∈ connPolls j conns, ∃ c conn, p.2 = some (j + c) ∧ conns[c]? = some conn ∧ p.1 = conn.tranFd ∧ 0 < p.1) ∧
      (connPolls j conns).Pairwise fun p q => p.2 ≠ q.2 := by
  induction conns generalizing j with
  | nil => exact ⟨fun p hp => (by cases hp), .nil⟩
  | cons conn conns ih =>
    obtain ⟨hmem, honce⟩ := ih (j + 1)
    have hrest : ∀ p ∈ connPolls (j + 1) conns, ∃ c conn', p.2 = some (j + c) ∧
        (conn :: conns)[c]? = some conn' ∧ p.1 = conn'.tranFd ∧ 0 < p.1 := by
      intro p hp
      obtain ⟨c, conn', hctx, hconn', hfd, hpos⟩ := hmem p hp
      refine ⟨c + 1, conn', ?_, hconn', hfd, hpos⟩
      rw [hctx]
      congr 1
      omega
    by_cases hconn : 0 < conn.tranFd
    · have hpolls : connPolls j (conn :: conns) = (conn.tranFd, some j) :: connPolls (j + 1) conns := by
        simp [connPolls, hconn]
      rw [hpolls]
      refine ⟨List.forall_mem_cons.2 ⟨⟨0, conn, rfl, rfl, rfl, hconn⟩, hrest⟩, List.pairwise_cons.2 ⟨?_, honce⟩⟩
      intro p hp heq
      obtain ⟨c, -, hctx, -⟩ := hmem p hp
      rw [hctx] at heq
      have := Option.some.inj heq
      omega
    · have hpolls : connPolls j (conn :: conns) = connPolls (j + 1) conns := by simp [connPolls, hconn]
      rw [hpolls]
      exact ⟨hrest, honce⟩

theorem conn_graph (p : Int × Option Nat) : Polled.conn ⟨1, p.1, p.2⟩ = none := rfl

theorem conn_server (p : Int × Option Nat) : Polled.conn ⟨4, p.1, p.2⟩ = p.2 := rfl

/-- What the daemon waits for is current. -/
theorem current_daemonPolls (size : Nat) (fd : Int) (filters : List PollFilter) (l : ListenFds) (s : MediaServer) :
    Current s (daemonPolls size fd filters l s.conns) := by
  obtain ⟨hconns, honce⟩ := connPolls_spec s.conns 0
  unfold daemonPolls
  have hserver : ∀ p ∈ serverPolls l s.conns (roomLeft size fd filters), ∀ k ∈ p.2,
      tranFd s k = some p.1 ∧ 0 < p.1 := by
    intro p hp k hk
    unfold serverPolls at hp
    split at hp
    · cases hp
    · rcases List.mem_append.1 hp with hp | hp
      · obtain ⟨fd, -, rfl⟩ := List.mem_map.1 hp
        cases hk
      · obtain ⟨c, conn, hctx, hconn, hfd, hpos⟩ := hconns p hp
        rw [hctx, Nat.zero_add] at hk
        cases hk
        refine ⟨?_, hpos⟩
        rw [tranFd, hconn, hfd]
        rfl
  have hserverOnce :
      (serverPolls l s.conns (roomLeft size fd filters)).Pairwise fun p q => ∀ k ∈ p.2, q.2 ≠ some k := by
    unfold serverPolls
    split
    · exact .nil
    · refine List.pairwise_append.2 ⟨?_, honce.imp fun hne k hk heq => hne (hk.trans heq.symm), ?_⟩
      · refine List.pairwise_map.2 (List.pairwise_of_forall fun fd fd' k hk => ?_)
        cases hk
      · intro p hp q hq k hk
        obtain ⟨fd, -, rfl⟩ := List.mem_map.1 hp
        cases hk
  refine ⟨fun e he => ?_, fun e he k hk => ?_, ?_⟩
  · rcases List.mem_append.1 he with he | he
    · obtain ⟨p, -, rfl⟩ := List.mem_map.1 he
      exact .inl rfl
    · obtain ⟨p, -, rfl⟩ := List.mem_map.1 he
      exact .inr rfl
  · rcases List.mem_append.1 he with he | he
    · obtain ⟨p, -, rfl⟩ := List.mem_map.1 he
      rw [conn_graph] at hk
      cases hk
    · obtain ⟨p, hp, rfl⟩ := List.mem_map.1 he
      rw [conn_server] at hk
      exact hserver p hp k hk
  · refine List.pairwise_append.2 ⟨?_, ?_, ?_⟩
    · refine List.pairwise_map.2 (List.pairwise_of_forall fun p q k hk => ?_)
      rw [conn_graph] at hk
      cases hk
    · exact List.pairwise_map.2 (hserverOnce.imp fun h k hk => h k hk)
    · intro e he e' he' k hk
      obtain ⟨p, -, rfl⟩ := List.mem_map.1 he
      rw [conn_graph] at hk
      cases hk

theorem outcomes_fst (i : RoundInput) (polled : List Polled) : (i.outcomes polled).map Prod.fst = polled := by
  rw [RoundInput.outcomes, List.map_map]
  exact List.zipIdx_map_fst 0 polled

/-- What is collected in a round is current. -/
theorem current_collected (hsized : d.2.Sized size)
    (h : mainCollect size 0 (gMedia fd i.filters l d.1.conns) 0 d.2 = some (n, priv')) :
    Current d.1 ((i.outcomes (priv'.polled n)).map Prod.fst) := by
  rw [outcomes_fst, ((mainCollect_polls hsized fd i.filters l d.1.conns).2 n priv' h).2]
  exact current_daemonPolls ..

/-- A round is a sequence of steps of the server. -/
theorem mainRound_goes (hholds : d.1.Holds depth) (hsized : d.2.Sized size) (h : mainRound size fd l d i = some d') :
    Relation.ReflTransGen ServerGoes d.1 d'.1 ∧ d'.1.Holds depth ∧ d'.2.Sized size := by
  obtain ⟨⟨n, priv'⟩, hcollect, h⟩ := Option.bind_eq_some_iff.1 h
  dsimp only at h
  split at h
  · obtain ⟨u, hu, h⟩ := Option.bind_eq_some_iff.1 h
    obtain ⟨s', hs', rfl⟩ := Option.map_eq_some_iff.1 h
    have hcurrent := current_collected hsized hcollect
    rw [← List.append_nil (i.outcomes _)] at hcurrent
    obtain ⟨hgoes, hholds', -⟩ := mainDispatch_serves hholds hcurrent hu
    have hserves := graphEvents_serves hholds' hs'
    exact ⟨hgoes.trans hserves.goes, hserves.holds, mainCollect_sized hsized hcollect⟩
  · cases h

theorem mainLoop_invariant (hsized : priv.Sized size)
    (hd : Reachable (mainLoop size fd l priv maxConn filters t depth) d) :
    Relation.ReflTransGen ServerGoes (mediaServerInit maxConn filters t depth) d.1 ∧ d.1.Holds depth ∧
      d.2.Sized size := by
  induction hd with
  | start => exact ⟨.refl, mediaServerInit_holds .., hsized⟩
  | step _ _ hn ih =>
    obtain ⟨hgoes, hholds, hsized'⟩ := mainRound_goes ih.2.1 ih.2.2 hn
    exact ⟨ih.1.trans hgoes, hholds, hsized'⟩

/-- A client connects to the first socket on which the server listens. -/
def sampleAcceptRound : RoundInput where
  ready k := if k = 1 then some { pollIn := true, newFd := 7 } else none

def sampleArrays : MediaPriv := ⟨List.replicate 8 0, List.replicate 8 0, List.replicate 8 none⟩

def sampleDaemon : MediaServer × MediaPriv :=
  ((mainLoop 8 3 ⟨4, 5, none⟩ sampleArrays 1 [] sampleTable 8).runFrom (fun _ _ => True)
    (mainLoop 8 3 ⟨4, 5, none⟩ sampleArrays 1 [] sampleTable 8).start [sampleAcceptRound]).get (by decide)

/-- Whatever has been done for the descriptors before it in the round, a descriptor that is given to its module is
given to one that takes it, and one that was collected for a connection is the open socket of its entry. -/
theorem mainLoop_current (hsized : priv.Sized size)
    (hd : Reachable (mainLoop size fd l priv maxConn filters t depth) d)
    (hcollect : mainCollect size 0 (gMedia fd i.filters l d.1.conns) 0 d.2 = some (n, priv'))
    (hready : i.outcomes (priv'.polled n) = pre ++ (e, some o) :: post) (hpre : mainDispatch d.1 pre = some s) :
    (e.idx = 1 ∨ e.idx = 4) ∧ ∀ k ∈ e.conn, tranFd s k = some e.fd ∧ 0 < e.fd := by
  obtain ⟨-, hholds, hsized'⟩ := mainLoop_invariant hsized hd
  have hcurrent := current_collected hsized' hcollect
  rw [hready] at hcurrent
  obtain ⟨-, -, hcurrent'⟩ := mainDispatch_serves hholds hcurrent hpre
  exact ⟨hcurrent'.module e List.mem_cons_self, hcurrent'.socket e List.mem_cons_self⟩

/-- The client that connected in the first round hangs up in the second one. -/
theorem mainLoop_current_hangup : tranFd sampleDaemon.1 0 = some 7 ∧ (0 : Int) < 7 := by
  have hcurrent := @mainLoop_current 8 sampleDaemon.1 { pollHup := true } 3 8 1 4 ⟨4, 5, none⟩ sampleArrays
    ⟨[1, 4, 4, 4, 0, 0, 0, 0], [3, 4, 5, 7, 0, 0, 0, 0], [none, none, none, some 0, none, none, none, none]⟩ []
    sampleTable sampleDaemon { ready := fun k => if k = 3 then some { pollHup := true } else none } ⟨4, 7, some 0⟩
    [(⟨1, 3, none⟩, none), (⟨4, 4, none⟩, none), (⟨4, 5, none⟩, none)] [] ⟨rfl, rfl, rfl⟩
    (reachableVia_get (by decide)) rfl rfl rfl
  exact hcurrent.2 0 rfl

end MediaFramework
