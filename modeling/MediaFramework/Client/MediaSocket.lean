import MediaFramework.Errno
import MediaFramework.Library.Ledger
import MediaFramework.Library.Machine

/-!
# The data socket of a synchronous stream (`client/media_graph.c`)

In buffer mode `media_prepare` makes a listening socket, asks the server to connect to it, and accepts the connection.
The handle has both descriptors, and `media_close_socket` closes them when it has a data socket.  A prepare that fails
after the listening socket was made leaves it open: nothing has it then, or the handle has it without a data socket.
-/

namespace MediaFramework

def ECONNRESET : Int := 104

/-! ### The functions -/

/-- The members of `MediaIOPriv` for the data socket, where 0 is no socket, and the descriptors that are open.  `left`
are those that prepares which failed have left open, and `closed` says that `media_close` has succeeded. -/
structure MediaIOPriv where
  refs : Nat
  socket : Nat
  socketFd : Nat
  fds : Ledger Nat
  left : List Nat
  closed : Bool
  deriving DecidableEq

/-- After `media_open`. -/
def mediaIOStart : MediaIOPriv := ⟨1, 0, 0, {}, [], false⟩

/-- `close`. -/
def MediaIOPriv.close (s : MediaIOPriv) (fd : Nat) : MediaIOPriv := { s with fds := s.fds.giveBack fd }

def mediaCloseSocket (s : MediaIOPriv) : MediaIOPriv :=
  if s.refs = 1 ∧ s.socket ≠ 0 then
    let t := { s with socket := 0 }.close s.socket
    if 0 < s.socketFd then t.close s.socketFd else t
  else s

/-- The outcomes of the calls of `media_prepare`: of `socket`, `bind` and `listen`, of the two requests, and of
`accept4`; a descriptor, or an error, or the result of the request. -/
structure PrepareOutcome where
  socket : Except Int Nat
  bind : Int
  listen : Int
  setOptions : Int
  prepare : Int
  accept : Except Int Nat

/-- `media_bind_socket`: a descriptor, or an error. -/
def mediaBindSocket (s : MediaIOPriv) (o : PrepareOutcome) : Except Int Nat × MediaIOPriv :=
  match o.socket with
  | .error errno => (.error (-errno), s)
  | .ok fd =>
    let t := { s with fds := s.fds.take fd }
    if o.bind < 0 then (.error o.bind, t.close fd)
    else if o.listen < 0 then (.error o.listen, t.close fd)
    else (.ok fd, t)

/-- The rest of `media_prepare`, where `fd` is 0 in url mode. -/
def mediaPrepareFrom (s : MediaIOPriv) (fd : Nat) (options : Bool) (o : PrepareOutcome) : Int × MediaIOPriv :=
  if options = true ∧ o.setOptions < 0 then (o.setOptions, s)
  else if o.prepare < 0 then (o.prepare, s)
  else if 0 < fd then
    match o.accept with
    | .ok socket => (o.prepare, { s with socketFd := fd, socket, fds := s.fds.take socket })
    | .error errno => (-errno, { s with socketFd := fd, socket := 0 })
  else (o.prepare, s)

/-- `media_prepare`, in buffer mode or not, with options or not. -/
def mediaPrepare (s : MediaIOPriv) (buffer options : Bool) (o : PrepareOutcome) : Int × MediaIOPriv :=
  if 0 < s.socket then (-EINVAL, s)
  else if buffer then
    let r := mediaBindSocket s o
    match r.1 with
    | .error ret => (ret, r.2)
    | .ok fd => mediaPrepareFrom r.2 fd options o
  else mediaPrepareFrom s 0 options o

/-- The end of `media_process_data` for a result and an `errno` that are not its way out. -/
def mediaDropSocket (s : MediaIOPriv) (errno : Int) : Int × MediaIOPriv :=
  let t := { s.close s.socket with socket := 0 }
  (-errno, if 0 < s.socketFd then t.close s.socketFd else t)

/-- `media_process_data` of a player or a recorder for `len` bytes, where `send` or `recv` returns `ret`. -/
def mediaProcessData (s : MediaIOPriv) (player : Bool) (len : Nat) (ret errno : Int) : Int × MediaIOPriv :=
  if len = 0 then (-EINVAL, s)
  else
    let s := { s with refs := s.refs + 1 }
    let r :=
      if s.socket = 0 then (-EINVAL, s)
      else if player = true ∧ ret = len ∨ player = false ∧ 0 < ret then (ret, s)
      else if ret = 0 then mediaDropSocket s ECONNRESET
      else if ret < 0 ∧ errno = EINTR then (-errno, s)
      else mediaDropSocket s errno
    (r.1, { r.2 with refs := r.2.refs - 1 })

/-- `media_close`, where `ret` is the result of the request. -/
def mediaClose (s : MediaIOPriv) (ret : Int) : Int × MediaIOPriv :=
  if ret < 0 then (ret, s) else (ret, { mediaCloseSocket s with closed := true })

/-! ### Runs -/

/-- A call on the handle. -/
inductive SocketCall
  | prepare (buffer options : Bool) (o : PrepareOutcome)
  | processData (player : Bool) (len : Nat) (ret errno : Int)
  | closeSocket
  | stop
  | reset
  | close (ret : Int)

/-- The kernel hands out descriptors that are not in use. -/
def PrepareOutcome.Unused (o : PrepareOutcome) (live : List Nat) : Prop :=
  (∀ fd ∈ o.socket.toOption, fd ∉ live ∧ o.accept.toOption ≠ some fd) ∧ ∀ fd ∈ o.accept.toOption, fd ∉ live

/-- The state after a call. -/
def SocketCall.after (s : MediaIOPriv) : SocketCall → MediaIOPriv
  | .prepare buffer options o =>
    let r := mediaPrepare s buffer options o
    if r.1 < 0 then { r.2 with left := r.2.left ++ r.2.fds.live.filter (· ∉ s.fds.live) } else r.2
  | .processData player len ret errno => (mediaProcessData s player len ret errno).2
  | .closeSocket | .stop | .reset => mediaCloseSocket s
  | .close ret => (mediaClose s ret).2

def SocketCall.Possible (s : MediaIOPriv) : SocketCall → Prop
  | .prepare _ _ o => s.closed = false ∧ o.Unused s.fds.live
  | _ => s.closed = false

instance (o : PrepareOutcome) (live : List Nat) : Decidable (o.Unused live) := inferInstanceAs (Decidable (_ ∧ _))

instance (s : MediaIOPriv) : (call : SocketCall) → Decidable (call.Possible s)
  | .prepare _ _ _ => inferInstanceAs (Decidable (_ ∧ _))
  | .processData _ _ _ _ | .closeSocket | .stop | .reset | .close _ => inferInstanceAs (Decidable (_ = _))

/-- Calls one after the other, until the handle is closed. -/
def socketMachine : Machine MediaIOPriv SocketCall where
  start := mediaIOStart
  next s call := if call.Possible s then some (call.after s) else none

/-- Nothing was closed that was not open, prepares that failed have left nothing open, and nothing is open when
`media_close` has succeeded. -/
structure MediaIOPriv.Kept (s : MediaIOPriv) : Prop where
  once : s.fds.stray = []
  failed : s.left = []
  closed : s.closed = true → s.fds.live = []

instance (s : MediaIOPriv) : Decidable s.Kept :=
  decidable_of_iff (_ ∧ _ ∧ (_ → _)) ⟨fun h => ⟨h.1, h.2.1, h.2.2⟩, fun h => ⟨h.1, h.2, h.3⟩⟩

/-- A prepare in buffer mode that has its listening socket succeeds, and no descriptor is 0. -/
def PrepareSucceeds (s : MediaIOPriv) : SocketCall → Prop
  | .prepare buffer options o =>
    buffer = true → s.socket = 0 → 0 ≤ o.bind → 0 ≤ o.listen → ∀ fd ∈ o.socket.toOption, 0 < fd ∧
      (options = true → 0 ≤ o.setOptions) ∧ 0 ≤ o.prepare ∧ ∃ socket ∈ o.accept.toOption, 0 < socket
  | _ => True

instance (s : MediaIOPriv) : (call : SocketCall) → Decidable (PrepareSucceeds s call)
  | .prepare _ _ _ => inferInstanceAs (Decidable (_ → _ → _ → _ → ∀ _ ∈ _, _ ∧ _ ∧ _ ∧ ∃ _ ∈ _, _))
  | .processData _ _ _ _ | .closeSocket | .stop | .reset | .close _ => inferInstanceAs (Decidable True)

/-! ### One call -/

variable {s : MediaIOPriv} {o : PrepareOutcome} {buffer options : Bool}

/-- The handle has no data socket and nothing is open, or it has the two descriptors that are. -/
def MediaIOPriv.Paired (s : MediaIOPriv) : Prop :=
  s.socket = 0 ∧ s.fds.live = [] ∨
    0 < s.socket ∧ 0 < s.socketFd ∧ s.fds.live = [s.socket, s.socketFd]

/-- Between two calls the handle has the only reference to itself. -/
structure MediaIOPriv.Settled (s : MediaIOPriv) : Prop where
  refs : s.refs = 1
  once : s.fds.stray = []
  failed : s.left = []
  paired : s.Paired

/-- Closing both descriptors. -/
theorem Settled.close_both (h : s.Settled) (hsocket : 0 < s.socket) :
    0 < s.socketFd ∧ ((s.fds.giveBack s.socket).giveBack s.socketFd) = {} := by
  obtain ⟨hzero, -⟩ | ⟨-, hfd, hlive⟩ := h.paired
  · omega
  · have hboth : s.fds = Ledger.take (Ledger.take {} s.socketFd) s.socket :=
      calc s.fds
        _ = ⟨s.fds.live, s.fds.stray⟩ := rfl
        _ = _ := by rw [hlive, h.once]; rfl
    rw [hboth, Ledger.giveBack_take, Ledger.giveBack_take]
    exact ⟨hfd, rfl⟩

theorem mediaCloseSocket_settled (h : s.Settled) :
    (mediaCloseSocket s).Settled ∧ (mediaCloseSocket s).fds.live = [] ∧ (mediaCloseSocket s).closed = s.closed := by
  unfold mediaCloseSocket
  by_cases hsocket : s.socket = 0
  · rw [if_neg (by simp [hsocket])]
    obtain ⟨-, hlive⟩ | ⟨hpos, -⟩ := h.paired
    · exact ⟨h, hlive, rfl⟩
    · omega
  · obtain ⟨hfd, hboth⟩ := Settled.close_both h (Nat.pos_of_ne_zero hsocket)
    rw [if_pos ⟨h.refs, hsocket⟩]
    dsimp only [MediaIOPriv.close]
    rw [if_pos hfd, hboth]
    exact ⟨⟨h.refs, rfl, h.failed, .inl ⟨rfl, rfl⟩⟩, rfl, rfl⟩

theorem mediaDropSocket_settled (h : s.Settled) (hsocket : 0 < s.socket) (n : Nat) (errno : Int) :
    { (mediaDropSocket { s with refs := n } errno).2 with refs := 1 }.Settled ∧
      (mediaDropSocket { s with refs := n } errno).2.refs = n ∧
      (mediaDropSocket { s with refs := n } errno).2.closed = s.closed := by
  obtain ⟨hfd, hboth⟩ := Settled.close_both h hsocket
  unfold mediaDropSocket
  dsimp only [MediaIOPriv.close]
  rw [if_pos hfd, hboth]
  exact ⟨⟨rfl, rfl, h.failed, .inl ⟨rfl, rfl⟩⟩, rfl, rfl⟩

theorem mediaProcessData_settled (h : s.Settled) (player : Bool) (len : Nat) (ret errno : Int) :
    (mediaProcessData s player len ret errno).2.Settled ∧
      (mediaProcessData s player len ret errno).2.closed = s.closed := by
  have hrefs := h.refs
  have hsame : { s with refs := s.refs + 1 - 1 } = s := by simp
  unfold mediaProcessData
  split
  · exact ⟨h, rfl⟩
  · dsimp only
    split
    · exact ⟨hsame.symm ▸ h, rfl⟩
    · rename_i hsocket
      have hdrop := mediaDropSocket_settled h (Nat.pos_of_ne_zero hsocket) (s.refs + 1)
      have hlast : s.refs + 1 - 1 = 1 := by omega
      split
      · exact ⟨hsame.symm ▸ h, rfl⟩
      · split
        · rw [(hdrop ECONNRESET).2.1, hlast]
          exact ⟨(hdrop ECONNRESET).1, (hdrop ECONNRESET).2.2⟩
        · split
          · exact ⟨hsame.symm ▸ h, rfl⟩
          · rw [(hdrop errno).2.1, hlast]
            exact ⟨(hdrop errno).1, (hdrop errno).2.2⟩

/-- What the requests of a prepare can do in url mode: nothing. -/
theorem mediaPrepareFrom_url (s : MediaIOPriv) (options : Bool) (o : PrepareOutcome) :
    (mediaPrepareFrom s 0 options o).2 = s := by
  unfold mediaPrepareFrom
  split
  · rfl
  · split <;> rfl

/-- A prepare fails with what was open before, or succeeds and the handle has what is open. -/
theorem mediaPrepare_settled (h : s.Settled)
    (hg : PrepareSucceeds s (.prepare buffer options o)) :
    (mediaPrepare s buffer options o).2 = s ∨
      0 ≤ (mediaPrepare s buffer options o).1 ∧ (mediaPrepare s buffer options o).2.Settled ∧
        (mediaPrepare s buffer options o).2.closed = s.closed := by
  unfold mediaPrepare
  by_cases hsocket : 0 < s.socket
  · rw [if_pos hsocket]
    exact .inl rfl
  rw [if_neg hsocket]
  have hzero : s.socket = 0 := by omega
  cases buffer with
  | false =>
    exact .inl (mediaPrepareFrom_url s options o)
  | true =>
    have hlive : s.fds.live = [] := by
      obtain ⟨-, hlive⟩ | ⟨hpos, -⟩ := h.paired
      · exact hlive
      · omega
    rw [if_pos rfl]
    unfold mediaBindSocket
    cases hbound : o.socket with
    | error errno => exact .inl rfl
    | ok fd =>
      have hback : ({ s with fds := s.fds.take fd } : MediaIOPriv).close fd = s := by
        dsimp only [MediaIOPriv.close]
        rw [Ledger.giveBack_take]
      dsimp only
      by_cases hbind : o.bind < 0
      · rw [if_pos hbind]
        exact .inl hback
      rw [if_neg hbind]
      by_cases hlisten : o.listen < 0
      · rw [if_pos hlisten]
        exact .inl hback
      rw [if_neg hlisten]
      -- the listening socket is there, and nothing fails from now on
      obtain ⟨hfd, hoptions, hprepare, socket, haccept, hpos⟩ :=
        hg rfl hzero (by omega) (by omega) fd (by simp [hbound, Except.toOption])
      have hok : o.accept = .ok socket := by
        cases ho : o.accept with
        | error errno => simp [ho, Except.toOption] at haccept
        | ok n => simpa [ho, Except.toOption] using haccept
      right
      dsimp only [mediaPrepareFrom]
      rw [if_neg (fun hfail => absurd (hoptions hfail.1) (Int.not_le.2 hfail.2)), if_neg (Int.not_lt.2 hprepare),
        if_pos hfd, hok]
      exact ⟨hprepare, ⟨h.refs, h.once, h.failed, .inr ⟨hpos, hfd, by simp [hlive]⟩⟩, rfl⟩

/-! ### Runs -/

/-- What holds of every state: the handle is settled, and nothing is open when it is closed. -/
structure MediaIOPriv.Sound (s : MediaIOPriv) : Prop where
  settled : s.Settled
  closed : s.closed = true → s.fds.live = []

theorem socketCall_sound {call : SocketCall} (h : s.Sound) (hp : call.Possible s) (hg : PrepareSucceeds s call) :
    (call.after s).Sound := by
  cases call with
  | prepare buffer options o =>
    have hopen : s.closed = false := hp.1
    dsimp only [SocketCall.after]
    rcases mediaPrepare_settled h.settled hg with hsame | ⟨hret, hsettled, hclosed⟩
    · rw [hsame]
      have hnone : s.fds.live.filter (· ∉ s.fds.live) = [] := by simp
      rw [hnone, List.append_nil]
      split
      · exact h
      · exact h
    · rw [if_neg (by omega)]
      exact ⟨hsettled, fun hc => by simp [hclosed, hopen] at hc⟩
  | processData player len ret errno =>
    obtain ⟨hsettled, hclosed⟩ := mediaProcessData_settled h.settled player len ret errno
    have hopen : s.closed = false := hp
    exact ⟨hsettled, fun hc => by simp [SocketCall.after, hclosed, hopen] at hc⟩
  | closeSocket | stop | reset =>
    obtain ⟨hsettled, hlive, -⟩ := mediaCloseSocket_settled h.settled
    exact ⟨hsettled, fun _ => hlive⟩
  | close ret =>
    obtain ⟨hsettled, hlive, -⟩ := mediaCloseSocket_settled h.settled
    dsimp only [SocketCall.after, mediaClose]
    split
    · exact h
    · exact ⟨⟨hsettled.refs, hsettled.once, hsettled.failed, hsettled.paired⟩, fun _ => hlive⟩

/-- As long as no prepare fails behind its listening socket, all descriptors are closed once. -/
theorem socketRun_kept {s : MediaIOPriv} (h : socketMachine.ReachableVia PrepareSucceeds s) : s.Kept := by
  have hsound : s.Sound := by
    refine h.invariant ⟨⟨rfl, rfl, rfl, .inl ⟨rfl, rfl⟩⟩, fun _ => rfl⟩ fun s call s' hs hg hn => ?_
    dsimp only [socketMachine] at hn
    split at hn
    · rename_i hp
      cases hn
      exact socketCall_sound hs hp hg
    · cases hn
  exact ⟨hsound.settled.once, hsound.settled.failed, hsound.closed⟩

/-- Buffer mode, a connection that the server ends, buffer mode again, and the end. -/
def sampleSocketCalls : List SocketCall :=
  [.prepare true true ⟨.ok 4, 0, 0, 0, 0, .ok 5⟩, .processData true 8 0 0,
    .prepare true false ⟨.ok 5, 0, 0, 0, 0, .ok 4⟩, .processData false 8 8 0, .close 0]

theorem sampleSocketCalls_possible :
    (socketMachine.runFrom PrepareSucceeds socketMachine.start sampleSocketCalls).isSome := by
  decide

theorem socketRun_kept_sample :
    ((socketMachine.runFrom PrepareSucceeds socketMachine.start sampleSocketCalls).get sampleSocketCalls_possible).Kept :=
  socketRun_kept (Machine.reachableVia_get sampleSocketCalls_possible)

/-- The server does not accept the options, and the handle is closed. -/
def sampleRefusedOptions : List SocketCall := [.prepare true true ⟨.ok 4, 0, 0, -EINVAL, 0, .ok 5⟩, .close 0]

theorem sampleRefusedOptions_possible :
    (socketMachine.runFrom (fun _ _ => True) socketMachine.start sampleRefusedOptions).isSome := by
  decide

theorem socketRun_not_kept : ¬ ∀ s, socketMachine.Reachable s → s.Kept := by
  intro h
  have hkept := h _ (Machine.reachableVia_get sampleRefusedOptions_possible)
  revert hkept
  decide

end MediaFramework
