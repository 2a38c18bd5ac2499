import MediaFramework.Session.MediaSession

/-!
# Players and recorders (`server/media_graph.c`)

A player or a recorder is a context that has taken a filter of the graph; commands go to its filter, or to a filter
on its links.  The filters are those of a library: what it answers is given with each call, as `GraphOutcomes`.
-/

namespace MediaFramework

/-- What the module uses of a filter; its `opaque` pointer is the address of the context that has taken it. -/
structure AVFilterContext where
  name : CString
  filterName : CString
  context : Option Nat := none
  deriving DecidableEq

/-- `filter` is the index of the filter in the graph. -/
structure MediaFilterPriv where
  addr : Nat
  filter : Nat
  cookie : Option Nat
  event : Bool := false
  deriving DecidableEq

structure MediaCommand where
  filter : Nat
  cmd : CString
  arg : Option CString
  deriving DecidableEq

/-- The graph with its waiting commands, and the contexts that are allocated. -/
structure MediaGraphPriv where
  filters : List AVFilterContext := []
  contexts : List MediaFilterPriv := []
  cmds : List MediaCommand := []
  deriving DecidableEq

def MediaGraphPriv.context (g : MediaGraphPriv) (addr : Nat) : Option MediaFilterPriv :=
  g.contexts.find? fun ctx => ctx.addr == addr

def gMediaInputs : List CString := ["amovie_async".toList, "movie_async".toList]

def gMediaOutputs : List CString := ["amoviesink_async".toList, "moviesink_async".toList]

def CONFIG_RPMSG_LOCAL_CPUNAME : CString := "local".toList

/-- What a call meets: the allocations, the name that the policy has for a stream, the answers of the filters, by their
index, and what is on the stack. -/
structure GraphOutcomes where
  alloc : Option Nat := none
  streamName : Option CString := none
  openRet : Int := 0
  setEventRet : Int := 0
  pending : BitVec 32 := 0
  link : Option Nat := none
  hasPendingStatus : Nat → Bool := fun _ => false
  cmdAlloc : Nat → Bool := fun _ => true
  processRet : Nat → Int := fun _ => 0
  response : Option CString := none
  pathMax : Nat := 256

/-- What a call does: `processed` are the commands that the filters get now, the other members are those of
`SessionResult`. -/
structure GraphResult where
  ret : Int
  graph : MediaGraphPriv
  stored : Option Nat := none
  finalized : Option Nat := none
  processed : List MediaCommand := []
  response : Option CString := none

/-! ### Commands -/

/-- `hasRes` says that there is a buffer for the response. -/
def mediaGraphQueueCommand (out : GraphOutcomes) (cmds : List MediaCommand) (command : MediaCommand) (hasRes : Bool) :
    Int × List MediaCommand × List MediaCommand :=
  if hasRes then (out.processRet command.filter, cmds, [command])
  else if cmds = [] ∧ out.hasPendingStatus command.filter = false then
    (out.processRet command.filter, cmds, [command])
  else if out.cmdAlloc command.filter then (0, cmds ++ [command], [])
  else (-ENOMEM, cmds, [])

/-- `processed` is the command that a filter gets, and `processRet` what it answers. -/
def mediaGraphDequeueCommand (process hasPendingStatus : Bool) (processRet : Int) :
    List MediaCommand → Int × List MediaCommand × List MediaCommand
  | [] => (-EAGAIN, [], [])
  | command :: cmds =>
    if process then
      if hasPendingStatus then (-EAGAIN, command :: cmds, []) else (processRet, cmds, [command])
    else (0, cmds, [])

def filterMatches (prefixName : Option CString) (input : Bool) (streamName : Option CString)
    (filter : AVFilterContext) : Bool :=
  match prefixName with
  | none => (if input then gMediaInputs else gMediaOutputs).contains filter.filterName
  | some prefixName => (streamName.getD prefixName).isPrefixOf filter.name

def mediaFindFilter (out : GraphOutcomes) (g : MediaGraphPriv) (prefixName : Option CString) (input available : Bool) :
    Int × Option Nat :=
  match g.filters.findIdx? fun f =>
    (!available || f.context.isNone) && filterMatches prefixName input out.streamName f with
  | some i => (0, some i)
  | none => (if out.streamName.isSome then -EINVAL else -ENOTSUP, none)

/-- The last member of the result is the new context. -/
def mediaCommonOpen (out : GraphOutcomes) (g : MediaGraphPriv) (arg : Option CString) (cookie : Nat) (player : Bool) :
    Int × MediaGraphPriv × List MediaCommand × Option Nat :=
  match out.alloc with
  | none => (-ENOMEM, g, [], none)
  | some addr =>
    match mediaFindFilter out g arg player true with
    | (ret, none) => (ret, g, [], none)
    | (_, some filter) =>
      let opened : List MediaCommand := [⟨filter, "open".toList, none⟩]
      if out.openRet < 0 then (out.openRet, g, opened, none)
      else
        let events := opened ++ [⟨filter, "set_event".toList, none⟩]
        if out.setEventRet < 0 then (out.setEventRet, g, events ++ [⟨filter, "close".toList, none⟩], none)
        else
          (0, { g with
            filters := g.filters.modify filter fun f => { f with context := some addr }
            contexts := { addr, filter, cookie := some cookie } :: g.contexts }, events, some addr)

/-- The URL of the data socket in buffer mode. -/
def bufferUrl (out : GraphOutcomes) (target : CString) (arg : Option CString) : CString :=
  let url :=
    if target = CONFIG_RPMSG_LOCAL_CPUNAME then "unix:".toList ++ printText arg ++ "?listen=0".toList
    else "rpmsg:".toList ++ printText arg ++ ':' :: target ++ "?listen=0".toList
  url.take (out.pathMax - 1)

/-- The number in the argument of `close`, or what was in the variable. -/
def scanPending (out : GraphOutcomes) (arg : CString) : BitVec 32 := scannedNum (Scanf.scan [.num] arg) 0 out.pending

/-- A call for a connection that holds `data`.  There is no result where the code would use a command that is NULL, or
a context that is not there. -/
def mediaCommonHandler (out : GraphOutcomes) (g : MediaGraphPriv) (cookie : Nat) (data : Option Nat)
    (target cmd arg : Option CString) (hasRes player : Bool) : Option GraphResult :=
  cmd.bind fun cmd =>
    if cmd = "open".toList then
      let r := mediaCommonOpen out g arg cookie player
      some { ret := r.1, graph := r.2.1, processed := r.2.2.1, stored := r.2.2.2 }
    else
      match data with
      | none => some { ret := -EINVAL, graph := g }
      | some addr =>
        (g.context addr).map fun ctx =>
          let set (ctx' : MediaFilterPriv) : MediaGraphPriv :=
            { g with contexts := g.contexts.map fun c => if c.addr = addr then ctx' else c }
          let queue (g : MediaGraphPriv) (filter : Nat) (arg : Option CString) (finalized : Option Nat) : GraphResult :=
            let r := mediaGraphQueueCommand out g.cmds ⟨filter, cmd, arg⟩ hasRes
            { ret := r.1, graph := { g with cmds := r.2.1 }, processed := r.2.2, finalized
              response := if hasRes then out.response else none }
          if cmd = "set_event".toList then { ret := 0, graph := set { ctx with event := true } }
          else if cmd = "prepare".toList ∧ target ≠ none then
            queue g ctx.filter (target.map fun target => bufferUrl out target arg) none
          else if cmd = "close".toList then
            if arg = none ∨ arg.map (scanPending out) = some 0 then
              queue (set { ctx with cookie := none }) ctx.filter arg ctx.cookie
            else queue g ctx.filter arg none
          else if target ≠ none then
            match out.link with
            | none => { ret := -EINVAL, graph := g }
            | some filter => queue g filter arg none
          else queue g ctx.filter arg none

/-- The loop over the filters of `media_graph_handler`; `filters` are the ones from the `i`-th on. -/
def mediaGraphHandlerLoop (out : GraphOutcomes) (target cmd : CString) (arg : Option CString) (hasRes : Bool) :
    Nat → List AVFilterContext → List MediaCommand → Int × List MediaCommand × List MediaCommand
  | _, [], cmds => (0, cmds, [])
  | i, filter :: filters, cmds =>
    let name := filter.name.dropWhile (· != '@')
    if target = filter.name ∨ name ≠ [] ∧ target.isPrefixOf name.tail then
      let r := mediaGraphQueueCommand out cmds ⟨i, cmd, arg⟩ hasRes
      if r.1 < 0 then r
      else
        let rest := mediaGraphHandlerLoop out target cmd arg hasRes (i + 1) filters r.2.1
        (rest.1, rest.2.1, r.2.2 ++ rest.2.2)
    else mediaGraphHandlerLoop out target cmd arg hasRes (i + 1) filters cmds

def mediaGraphHandler (out : GraphOutcomes) (g : MediaGraphPriv) (target cmd arg : Option CString) (hasRes : Bool) :
    Option GraphResult :=
  cmd.map fun cmd =>
    if target = none ∧ cmd = "dump".toList then { ret := 0, graph := g }
    else if cmd = "loglevel".toList then { ret := if arg = none then -EINVAL else 0, graph := g }
    else
      match target with
      | none => { ret := -EINVAL, graph := g }
      | some target =>
        let r := mediaGraphHandlerLoop out target cmd arg hasRes 0 g.filters g.cmds
        { ret := r.1, graph := { g with cmds := r.2.1 }, processed := r.2.2
          response := if hasRes then out.response else none }

/-! ### Events -/

/-- The events of a filter that the module knows, and the others. -/
inductive AVMovieAsyncEvent
  | started
  | paused
  | stopped
  | completed
  | closed
  | other (event : BitVec 32)
  deriving DecidableEq

/-- The number of an event, as clients know it. -/
def AVMovieAsyncEvent.number : AVMovieAsyncEvent → BitVec 32
  | .started => 2
  | .paused => 3
  | .stopped => 4
  | .completed => 6
  | .closed => 0
  | .other event => event

/-- What an event does: `status` is the call of `media_stub_set_stream_status`, `sent` what the client gets. -/
structure GraphEventResult where
  graph : MediaGraphPriv
  status : Option (CString × Bool) := none
  finalized : Option Nat := none
  sent : List StubNotify := []

def mediaCommonNotifyCb (ctx : MediaFilterPriv) (event : AVMovieAsyncEvent) (result : BitVec 32)
    (extra : Option CString) : List StubNotify :=
  if ctx.event then [⟨ctx.addr, ctx.cookie, event.number, result, extra⟩] else []

/-- An event for the context at an address, if it is there. -/
def mediaCommonEventCb (g : MediaGraphPriv) (addr : Nat) (event : AVMovieAsyncEvent) (result : BitVec 32)
    (extra : Option CString) : Option GraphEventResult :=
  (g.context addr).map fun ctx =>
    let name := (g.filters[ctx.filter]?.map AVFilterContext.name).getD []
    let sent := mediaCommonNotifyCb ctx event result extra
    match event with
    | .started => { graph := g, status := if result = 0 then some (name, true) else none, sent }
    | .paused | .stopped | .completed => { graph := g, status := some (name, false), sent }
    | .closed =>
      { graph := { g with
          filters := g.filters.modify ctx.filter fun f => { f with context := none }
          contexts := g.contexts.filter fun c => c.addr != addr }
        status := some (name, false)
        finalized := ctx.cookie }
    | .other _ => { graph := g, sent }

end MediaFramework
