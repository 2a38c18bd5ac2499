import MediaFramework.Library.Machine
import MediaFramework.Server.ServerObjects

/-!
# Whose stream a command acts on

A filter belongs to the context that its `opaque` pointer leads to, and a context to the connection that it was opened
for.  Commands that wait in the queue only know their filter.  When the context is closed while commands for its filter
are waiting, they act on the next stream that gets this filter.
-/

namespace MediaFramework

open Machine

/-- The module, the entries of the connections, and the commands that the filters have got in the last step. -/
structure GraphState where
  graph : MediaGraphPriv
  conns : MediaServerConns
  processed : List MediaCommand := []

/-- A command without a target, for a connection; a notify socket for a connection; one pass of the loop of
`media_graph_run_once`; and an event of the filter of a context. -/
inductive GraphInput
  | command (k : Nat) (player : Bool) (cmd arg : Option CString) (hasRes : Bool) (out : GraphOutcomes)
  | createNotify (k : Nat) (fd : Int)
  | dequeue (hasPendingStatus : Bool) (processRet : Int)
  | event (addr : Nat) (event : AVMovieAsyncEvent) (result : BitVec 32) (extra : Option CString)

/-- `zalloc` gives an address that is not in use. -/
def GraphOutcomes.NewAddress (out : GraphOutcomes) (g : MediaGraphPriv) : Prop :=
  ∀ addr ∈ out.alloc, addr ∉ g.contexts.map MediaFilterPriv.addr

instance (out : GraphOutcomes) (g : MediaGraphPriv) : Decidable (out.NewAddress g) :=
  inferInstanceAs (Decidable (∀ _ ∈ _, _))

def graphStep (s : GraphState) : GraphInput → Option GraphState
  | .command k player cmd arg hasRes out =>
    if k < s.conns.length ∧ out.NewAddress s.graph then
      (mediaCommonHandler out s.graph k (mediaServerGetData s.conns k) none cmd arg hasRes player).map fun r =>
        let conns := if r.stored.isSome then mediaServerSetData s.conns k r.stored else s.conns
        { graph := r.graph, conns := mediaServerFinalize conns r.finalized, processed := r.processed }
    else none
  | .createNotify k fd => some { graph := s.graph, conns := s.conns.modify k (·.createNotify fd) }
  | .dequeue hasPendingStatus processRet =>
    let r := mediaGraphDequeueCommand true hasPendingStatus processRet s.graph.cmds
    some { graph := { s.graph with cmds := r.2.1 }, conns := s.conns, processed := r.2.2 }
  | .event addr event result extra =>
    (mediaCommonEventCb s.graph addr event result extra).map fun r =>
      { graph := r.graph, conns := mediaServerFinalize s.conns r.finalized }

/-- The context that has taken a filter. -/
def MediaGraphPriv.occupant (g : MediaGraphPriv) (filter : Nat) : Option Nat :=
  g.filters[filter]?.bind AVFilterContext.context

/-- A command that a filter has got, for which connection, and the context that had taken the filter then. -/
structure ActedCommand where
  command : MediaCommand
  sender : Nat
  occupant : Option Nat
  deriving DecidableEq

/-- What a run leaves on record: for whom a context was opened, who has sent the commands that are waiting, which
contexts have been told to close, and what the queue has passed on in the last step. -/
structure GraphRecord where
  opener : Nat → Nat := fun _ => 0
  senders : List Nat := []
  closing : List Nat := []
  acted : List ActedCommand := []

namespace GraphRecord

def isLive (g : MediaGraphPriv) (addr : Nat) : Bool := (g.contexts.map MediaFilterPriv.addr).contains addr

def note (s : GraphState) (i : GraphInput) (s' : GraphState) (h : GraphRecord) : GraphRecord where
  opener :=
    match i with
    | .command k .. => fun addr => if isLive s'.graph addr ∧ ¬ isLive s.graph addr then k else h.opener addr
    | _ => h.opener
  senders :=
    match i with
    | .command k .. => h.senders ++ List.replicate (s'.graph.cmds.length - s.graph.cmds.length) k
    | .dequeue .. => h.senders.drop (s.graph.cmds.length - s'.graph.cmds.length)
    | _ => h.senders
  closing := h.closing.filter (isLive s'.graph) ++
    (s'.processed.filter fun command => command.cmd == "close".toList).filterMap fun command =>
      s.graph.occupant command.filter
  acted :=
    match i with
    | .command k _ cmd _ _ _ =>
      if cmd = some "open".toList then []
      else s'.processed.map fun command => ⟨command, k, s.graph.occupant command.filter⟩
    | .dequeue .. =>
      (s'.processed.zip h.senders).map fun p => ⟨p.1, p.2, s.graph.occupant p.1.filter⟩
    | _ => []

end GraphRecord

/-- At first no filter is taken. -/
def mediaGraphMachine (filters : List AVFilterContext) (count : Nat) : Machine GraphState GraphInput where
  start :=
    { graph := { filters := filters.map fun f => { f with context := none } }, conns := List.replicate count {} }
  next := graphStep

def graphRuns (filters : List AVFilterContext) (count : Nat) : Machine (GraphState × GraphRecord) GraphInput :=
  (mediaGraphMachine filters count).recorded {} GraphRecord.note

/-! ### The claims of contexts on filters -/

/-- The `opaque` pointer of a filter leads to the one context that has the filter. -/
structure FiltersTaken (g : MediaGraphPriv) : Prop where
  taken : ∀ f addr, g.occupant f = some addr ↔ ∃ ctx ∈ g.contexts, ctx.addr = addr ∧ ctx.filter = f
  distinct : (g.contexts.map MediaFilterPriv.addr).Nodup
  single : ∀ ctx ∈ g.contexts, ∀ ctx' ∈ g.contexts, ctx.filter = ctx'.filter → ctx = ctx'

/-- What the queue has passed on is for a filter that is taken by a context of the sender. -/
def ActsOnOwn (h : GraphRecord) : Prop := ∀ a ∈ h.acted, ∃ addr, a.occupant = some addr ∧ h.opener addr = a.sender

/-- A context is closed by its filter after it has been told to close. -/
def ClosedWhenTold (h : GraphRecord) : GraphInput → Prop
  | .event addr .closed _ _ => addr ∈ h.closing
  | _ => True

/-- No command waits for the filter of a context that is closed, and a context is not opened at an address that another
connection still holds. -/
def KeepsStreams (s : GraphState) : GraphInput → Prop
  | .event addr .closed _ _ => ∀ ctx ∈ s.graph.context addr, ∀ command ∈ s.graph.cmds, command.filter ≠ ctx.filter
  | .command k _ cmd _ _ out => cmd = some "open".toList → ∀ addr ∈ out.alloc, ∀ k' < s.conns.length, k' ≠ k →
      mediaServerGetData s.conns k' ≠ some addr
  | _ => True

instance (h : GraphRecord) (i : GraphInput) : Decidable (ClosedWhenTold h i) := by
  unfold ClosedWhenTold
  split <;> infer_instance

instance (s : GraphState) (i : GraphInput) : Decidable (KeepsStreams s i) := by
  unfold KeepsStreams
  split
  · exact inferInstanceAs (Decidable (∀ _ ∈ _, ∀ _ ∈ _, _))
  · exact inferInstanceAs (Decidable (_ → ∀ _ ∈ _, ∀ _ < _, _ → _))
  · infer_instance

/-! ### What a step does -/

variable {g : MediaGraphPriv} {s s' : GraphState} {h : GraphRecord} {i : GraphInput} {addr filter k c : Nat}
  {filters : List AVFilterContext} {count : Nat}

/-- The address of a context, and its filter. -/
def MediaFilterPriv.claim (ctx : MediaFilterPriv) : Nat × Nat := (ctx.addr, ctx.filter)

theorem occupant_modify (g : MediaGraphPriv) (filter f : Nat) (context : Option Nat) (hf : filter < g.filters.length) :
    MediaGraphPriv.occupant { g with filters := g.filters.modify filter fun f => { f with context } } f =
      if filter = f then context else g.occupant f := by
  unfold MediaGraphPriv.occupant
  dsimp only
  rw [List.getElem?_modify]
  by_cases hfilter : filter = f
  · subst hfilter
    rw [if_pos rfl, List.getElem?_eq_getElem hf]
    simp
  · rw [if_neg hfilter]
    simp [hfilter]

theorem mem_claims {contexts : List MediaFilterPriv} {f : Nat} :
    (addr, f) ∈ contexts.map MediaFilterPriv.claim ↔ ∃ ctx ∈ contexts, ctx.addr = addr ∧ ctx.filter = f := by
  unfold MediaFilterPriv.claim
  simp only [List.mem_map, Prod.mk.injEq]

/-- Contexts with the same filter are what its pointer leads to, and there is one context at each address. -/
theorem FiltersTaken.of_claims
    (htaken : ∀ f addr, g.occupant f = some addr ↔ (addr, f) ∈ g.contexts.map MediaFilterPriv.claim)
    (hdistinct : (g.contexts.map MediaFilterPriv.addr).Nodup) : FiltersTaken g where
  taken f addr := (htaken f addr).trans mem_claims
  distinct := hdistinct
  single ctx hctx ctx' hctx' hfilter := by
    have hoccupant : g.occupant ctx.filter = some ctx.addr := (htaken _ _).2 (List.mem_map_of_mem hctx)
    have hoccupant' : g.occupant ctx'.filter = some ctx'.addr := (htaken _ _).2 (List.mem_map_of_mem hctx')
    rw [← hfilter, hoccupant] at hoccupant'
    exact List.inj_on_of_nodup_map hdistinct hctx hctx' (Option.some.inj hoccupant')

theorem FiltersTaken.claims (H : FiltersTaken g) (f addr : Nat) :
    g.occupant f = some addr ↔ (addr, f) ∈ g.contexts.map MediaFilterPriv.claim :=
  (H.taken f addr).trans mem_claims.symm

theorem FiltersTaken.congr {g' : MediaGraphPriv} (H : FiltersTaken g) (hfilters : g'.filters = g.filters)
    (hcontexts : g'.contexts.map MediaFilterPriv.claim = g.contexts.map MediaFilterPriv.claim) : FiltersTaken g' := by
  have haddrs : ∀ contexts : List MediaFilterPriv,
      contexts.map MediaFilterPriv.addr = (contexts.map MediaFilterPriv.claim).map Prod.fst := by
    intro contexts
    rw [List.map_map]
    rfl
  refine .of_claims (fun f addr => ?_) ?_
  · have hoccupant : g'.occupant f = g.occupant f := by
      unfold MediaGraphPriv.occupant
      rw [hfilters]
    rw [hoccupant, hcontexts]
    exact H.claims f addr
  · rw [haddrs, hcontexts, ← haddrs]
    exact H.distinct

/-- A context is opened on a filter that no context has. -/
theorem FiltersTaken.open (H : FiltersTaken g) {cookie : Option Nat} (hfilter : filter < g.filters.length)
    (hidle : g.occupant filter = none) (hfresh : addr ∉ g.contexts.map MediaFilterPriv.addr) :
    FiltersTaken { g with
      filters := g.filters.modify filter fun f => { f with context := some addr }
      contexts := { addr, filter, cookie } :: g.contexts } := by
  refine .of_claims (fun f addr' => ?_) (List.nodup_cons.2 ⟨hfresh, H.distinct⟩)
  have hoccupant := occupant_modify g filter f (some addr) hfilter
  unfold MediaGraphPriv.occupant at hoccupant ⊢
  dsimp only at hoccupant ⊢
  rw [hoccupant, List.map_cons, List.mem_cons]
  by_cases hf : filter = f
  · subst hf
    rw [if_pos rfl]
    constructor
    · intro heq
      exact .inl (congrArg (·, filter) (Option.some.inj heq).symm)
    · rintro (heq | hmem)
      · exact congrArg some (congrArg Prod.fst heq).symm
      · rw [(H.claims filter addr').2 hmem] at hidle
        cases hidle
  · rw [if_neg hf]
    constructor
    · intro hold
      exact .inr ((H.claims f addr').1 hold)
    · rintro (heq | hmem)
      · exact absurd (congrArg Prod.snd heq).symm hf
      · exact (H.claims f addr').2 hmem

theorem FiltersTaken.close (H : FiltersTaken g) {ctx : MediaFilterPriv} (hctx : g.context addr = some ctx) :
    FiltersTaken { g with
      filters := g.filters.modify ctx.filter fun f => { f with context := none }
      contexts := g.contexts.filter fun c => c.addr != addr } := by
  obtain ⟨hmem, rfl⟩ := mem_of_context hctx
  have hoccupied : g.occupant ctx.filter = some ctx.addr := (H.claims _ _).2 (List.mem_map_of_mem hmem)
  have hfilter : ctx.filter < g.filters.length := by
    obtain ⟨f, hf, -⟩ := Option.bind_eq_some_iff.1 hoccupied
    exact (List.getElem?_eq_some_iff.1 hf).1
  refine .of_claims (fun f addr' => ?_) (H.distinct.sublist ((List.filter_sublist).map _))
  have hoccupant := occupant_modify g ctx.filter f none hfilter
  unfold MediaGraphPriv.occupant at hoccupant ⊢
  dsimp only at hoccupant ⊢
  rw [hoccupant, mem_claims]
  simp only [List.mem_filter, bne_iff_ne]
  by_cases hf : ctx.filter = f
  · rw [if_pos hf]
    constructor
    · intro hnone
      cases hnone
    · rintro ⟨c, ⟨hc, hother⟩, rfl, rfl⟩
      exact absurd (congrArg MediaFilterPriv.addr (H.single c hc ctx hmem hf.symm)) hother
  · rw [if_neg hf]
    refine Iff.trans (H.taken f addr') ?_
    constructor
    · rintro ⟨c, hc, rfl, rfl⟩
      refine ⟨c, ⟨hc, fun heq => hf ?_⟩, rfl, rfl⟩
      rw [List.inj_on_of_nodup_map H.distinct hc hmem heq]
    · rintro ⟨c, ⟨hc, -⟩, rfl, rfl⟩
      exact ⟨c, hc, rfl, rfl⟩

/-! ### What a command does -/

section Command

variable {out : GraphOutcomes} {data : Option Nat} {cmd arg : Option CString} {hasRes player : Bool} {r : GraphResult}

/-- A filter that is found is not taken. -/
theorem mediaFindFilter_idle {ret : Int} (hfind : mediaFindFilter out g arg player true = (ret, some filter)) :
    filter < g.filters.length ∧ g.occupant filter = none := by
  unfold mediaFindFilter at hfind
  split at hfind
  · rename_i index hindex
    cases hfind
    obtain ⟨hlt, hmatches, -⟩ := List.findIdx?_eq_some_iff_getElem.1 hindex
    refine ⟨hlt, ?_⟩
    unfold MediaGraphPriv.occupant
    rw [List.getElem?_eq_getElem hlt, Option.bind_some]
    simp only [Bool.not_true, Bool.false_or, Bool.and_eq_true, Option.isNone_iff_eq_none] at hmatches
    exact hmatches.1
  · cases hfind

/-- A command that opens a context takes a filter that is idle, or leaves everything as it is. -/
theorem mediaCommonHandler_open
    (h : mediaCommonHandler out g k data none (some "open".toList) arg hasRes player = some r) :
    r.finalized = none ∧ (r.graph = g ∧ r.stored = none ∨ ∃ addr filter, out.alloc = some addr ∧
      filter < g.filters.length ∧ g.occupant filter = none ∧ r.stored = some addr ∧
        r.graph = { g with
          filters := g.filters.modify filter fun f => { f with context := some addr }
          contexts := { addr, filter, cookie := some k } :: g.contexts }) := by
  have h : (some _ : Option GraphResult) = some r := h
  cases h
  refine ⟨rfl, ?_⟩
  dsimp only
  unfold mediaCommonOpen
  cases halloc : out.alloc with
  | none => exact .inl ⟨rfl, rfl⟩
  | some addr =>
    dsimp only
    cases hfind : mediaFindFilter out g arg player true with
    | mk ret filter =>
      cases filter with
      | none => exact .inl ⟨rfl, rfl⟩
      | some filter =>
        obtain ⟨hlt, hidle⟩ := mediaFindFilter_idle hfind
        dsimp only
        split
        · exact .inl ⟨rfl, rfl⟩
        · split
          · exact .inl ⟨rfl, rfl⟩
          · exact .inr ⟨addr, filter, rfl, hlt, hidle, rfl, rfl⟩

/-- The queue passes a command on, takes it in, or does neither. -/
theorem mediaGraphQueueCommand_cases (out : GraphOutcomes) (cmds : List MediaCommand) (command : MediaCommand)
    (hasRes : Bool) :
    let r := mediaGraphQueueCommand out cmds command hasRes
    r.2 = (cmds, [command]) ∨ r.2 = (cmds ++ [command], []) ∨ r.2 = (cmds, []) := by
  unfold mediaGraphQueueCommand
  dsimp only
  split
  · exact .inl rfl
  · split
    · exact .inl rfl
    · split
      · exact .inr (.inl rfl)
      · exact .inr (.inr rfl)

/-- Another command is for the filter of the context that the connection holds. -/
theorem mediaCommonHandler_other (hdistinct : (g.contexts.map MediaFilterPriv.addr).Nodup)
    (hopen : cmd ≠ some "open".toList)
    (h : mediaCommonHandler out g k data none cmd arg hasRes player = some r) :
    r.stored = none ∧ r.graph.filters = g.filters ∧
      r.graph.contexts.map MediaFilterPriv.claim = g.contexts.map MediaFilterPriv.claim ∧
        (r.graph.cmds = g.cmds ∧ r.processed = [] ∨
          ∃ addr ctx command, data = some addr ∧ g.context addr = some ctx ∧ command.filter = ctx.filter ∧
            (r.graph.cmds = g.cmds ∧ r.processed = [command] ∨
                r.graph.cmds = g.cmds ++ [command] ∧ r.processed = [])) := by
  unfold mediaCommonHandler at h
  obtain ⟨cmd, rfl, hcall⟩ := Option.bind_eq_some_iff.1 h
  have hother : cmd ≠ "open".toList := fun heq => hopen (congrArg some heq)
  rw [if_neg hother] at hcall
  cases data with
  | none =>
    cases hcall
    exact ⟨rfl, rfl, rfl, .inl ⟨rfl, rfl⟩⟩
  | some addr =>
    obtain ⟨ctx, hctx, hr⟩ := Option.map_eq_some_iff.1 hcall
    obtain ⟨hmem, rfl⟩ := mem_of_context hctx
    -- a context that is replaced keeps its address and its filter
    have hset : ∀ ctx' : MediaFilterPriv, ctx'.claim = ctx.claim →
        (g.contexts.map fun c => if c.addr = ctx.addr then ctx' else c).map MediaFilterPriv.claim =
          g.contexts.map MediaFilterPriv.claim := by
      intro ctx' hclaim
      rw [List.map_map]
      refine List.map_congr_left fun c hc => ?_
      show (if c.addr = ctx.addr then ctx' else c).claim = c.claim
      by_cases haddr : c.addr = ctx.addr
      · rw [if_pos haddr, hclaim, List.inj_on_of_nodup_map hdistinct hc hmem haddr]
      · rw [if_neg haddr]
    have hqueue : ∀ command : MediaCommand, command.filter = ctx.filter →
        let q := mediaGraphQueueCommand out g.cmds command hasRes
        q.2.1 = g.cmds ∧ q.2.2 = [] ∨ ∃ addr' ctx' command', some ctx.addr = some addr' ∧ g.context addr' = some ctx' ∧
          command'.filter = ctx'.filter ∧
            (q.2.1 = g.cmds ∧ q.2.2 = [command'] ∨ q.2.1 = g.cmds ++ [command'] ∧ q.2.2 = []) := by
      intro command hfilter
      rcases mediaGraphQueueCommand_cases out g.cmds command hasRes with hq | hq | hq
      · exact .inr ⟨_, ctx, command, rfl, hctx, hfilter, .inl ⟨congrArg Prod.fst hq, congrArg Prod.snd hq⟩⟩
      · exact .inr ⟨_, ctx, command, rfl, hctx, hfilter, .inr ⟨congrArg Prod.fst hq, congrArg Prod.snd hq⟩⟩
      · exact .inl ⟨congrArg Prod.fst hq, congrArg Prod.snd hq⟩
    subst hr
    dsimp only
    split
    · exact ⟨rfl, rfl, hset _ rfl, .inl ⟨rfl, rfl⟩⟩
    · rw [if_neg (fun h => h.2 rfl)]
      split
      · split
        · exact ⟨rfl, rfl, hset _ rfl, hqueue _ rfl⟩
        · exact ⟨rfl, rfl, rfl, hqueue _ rfl⟩
      · rw [if_neg (fun h => h rfl)]
        exact ⟨rfl, rfl, rfl, hqueue _ rfl⟩

end Command

/-! ### Runs -/

section Steps

variable {player hasRes hasPendingStatus : Bool} {cmd arg extra : Option CString} {out : GraphOutcomes}
  {processRet : Int} {event : AVMovieAsyncEvent} {result : BitVec 32}

theorem graphStep_command (hstep : graphStep s (.command k player cmd arg hasRes out) = some s') :
    out.NewAddress s.graph ∧ ∃ r,
      mediaCommonHandler out s.graph k (mediaServerGetData s.conns k) none cmd arg hasRes player = some r ∧
        s'.graph = r.graph ∧ s'.processed = r.processed ∧ s'.conns = mediaServerFinalize
          (if r.stored.isSome then mediaServerSetData s.conns k r.stored else s.conns) r.finalized := by
  have hstep : (if k < s.conns.length ∧ out.NewAddress s.graph then _ else none) = some s' := hstep
  by_cases hproper : k < s.conns.length ∧ out.NewAddress s.graph
  · rw [if_pos hproper] at hstep
    obtain ⟨r, hr, rfl⟩ := Option.map_eq_some_iff.1 hstep
    exact ⟨hproper.2, r, hr, rfl, rfl, rfl⟩
  · rw [if_neg hproper] at hstep
    cases hstep

/-- One pass takes the first command off the queue, or none. -/
theorem graphStep_dequeue (hstep : graphStep s (.dequeue hasPendingStatus processRet) = some s') :
    s'.graph = { s.graph with cmds := s'.graph.cmds } ∧ s'.conns = s.conns ∧
      (s'.graph.cmds = s.graph.cmds ∧ s'.processed = [] ∨
        ∃ command, s.graph.cmds = command :: s'.graph.cmds ∧ s'.processed = [command]) := by
  cases hstep
  refine ⟨rfl, rfl, ?_⟩
  dsimp only
  cases s.graph.cmds with
  | nil => exact .inl ⟨rfl, rfl⟩
  | cons command cmds =>
    cases hasPendingStatus with
    | true => exact .inl ⟨rfl, rfl⟩
    | false => exact .inr ⟨command, rfl, rfl⟩

theorem graphStep_event (hstep : graphStep s (.event addr event result extra) = some s') :
    s'.graph = s.graph ∧ s'.conns = s.conns ∨ event = .closed ∧ ∃ ctx, s.graph.context addr = some ctx ∧
      s' = { graph := { s.graph with
               filters := s.graph.filters.modify ctx.filter fun f => { f with context := none }
               contexts := s.graph.contexts.filter fun c => c.addr != addr }
             conns := mediaServerFinalize s.conns ctx.cookie } := by
  obtain ⟨r, hr, rfl⟩ := Option.map_eq_some_iff.1 hstep
  obtain ⟨ctx, hctx, rfl⟩ := Option.map_eq_some_iff.1 hr
  cases event with
  | closed => exact .inr ⟨rfl, ctx, hctx, rfl⟩
  | _ => exact .inl ⟨rfl, rfl⟩

theorem FiltersTaken.step (H : FiltersTaken s.graph) (hstep : graphStep s i = some s') : FiltersTaken s'.graph := by
  cases i with
  | command k player cmd arg hasRes out =>
    obtain ⟨hnew, r, hr, hgraph, -⟩ := graphStep_command hstep
    rw [hgraph]
    by_cases hopen : cmd = some "open".toList
    · subst hopen
      obtain ⟨-, ⟨hsame, -⟩ | ⟨addr, filter, halloc, hfilter, hidle, -, hopened⟩⟩ := mediaCommonHandler_open hr
      · rw [hsame]
        exact H
      · rw [hopened]
        exact H.open hfilter hidle (hnew addr halloc)
    · obtain ⟨-, hfilters, hclaims, -⟩ := mediaCommonHandler_other H.distinct hopen hr
      exact H.congr hfilters hclaims
  | createNotify k fd =>
    cases hstep
    exact H
  | dequeue hasPendingStatus processRet =>
    cases hstep
    exact H.congr rfl rfl
  | event addr event result extra =>
    rcases graphStep_event hstep with ⟨hsame, -⟩ | ⟨-, ctx, hctx, rfl⟩
    · exact hsame ▸ H
    · exact H.close hctx

end Steps

/-- The handles of the connections, and the commands in the queue, are for contexts of their own. -/
structure StreamsOwn (s : GraphState) (h : GraphRecord) : Prop where
  taken : FiltersTaken s.graph
  handles : ∀ k addr, mediaServerGetData s.conns k = some addr → addr ∈ s.graph.contexts.map MediaFilterPriv.addr →
    h.opener addr = k
  queue : List.Forall₂ (fun command sender => ∃ addr, s.graph.occupant command.filter = some addr ∧
    h.opener addr = sender) s.graph.cmds h.senders
  acts : ActsOnOwn h

theorem isLive_iff : GraphRecord.isLive g addr = true ↔ addr ∈ g.contexts.map MediaFilterPriv.addr := by
  unfold GraphRecord.isLive
  exact List.contains_iff_mem

theorem FiltersTaken.live (H : FiltersTaken g) (hoccupant : g.occupant filter = some addr) :
    addr ∈ g.contexts.map MediaFilterPriv.addr := by
  obtain ⟨ctx, hctx, rfl, -⟩ := (H.taken filter addr).1 hoccupant
  exact List.mem_map_of_mem hctx

theorem getData_finalize {conns : MediaServerConns} {cookie : Option Nat} {word : Nat}
    (hdata : mediaServerGetData (mediaServerFinalize conns cookie) c = some word) :
    mediaServerGetData conns c = some word := by
  unfold mediaServerGetData at hdata ⊢
  rw [mediaServerFinalize_get] at hdata
  obtain ⟨conn', hconn', hdata⟩ := Option.bind_eq_some_iff.1 hdata
  obtain ⟨conn, hconn, rfl⟩ := Option.map_eq_some_iff.1 hconn'
  rw [hconn, Option.bind_some]
  split at hdata
  · exact (data_of_finalize hdata).1
  · exact hdata

theorem getData_setData {conns : MediaServerConns} {data : Option Nat} {word : Nat}
    (hdata : mediaServerGetData (mediaServerSetData conns k data) c = some word) :
    c = k ∧ data = some word ∨ c ≠ k ∧ c < conns.length ∧ mediaServerGetData conns c = some word := by
  unfold mediaServerGetData at hdata ⊢
  rw [mediaServerSetData_get] at hdata
  obtain ⟨conn', hconn', hdata⟩ := Option.bind_eq_some_iff.1 hdata
  obtain ⟨conn, hconn, rfl⟩ := Option.map_eq_some_iff.1 hconn'
  by_cases hk : k = c
  · rw [if_pos hk] at hdata
    exact .inl ⟨hk.symm, hdata⟩
  · rw [if_neg hk] at hdata
    refine .inr ⟨fun heq => hk heq.symm, (List.getElem?_eq_some_iff.1 hconn).1, ?_⟩
    rw [hconn]
    exact hdata

/-- A context that was there keeps the connection that it was opened for. -/
theorem note_opener (hlive : addr ∈ s.graph.contexts.map MediaFilterPriv.addr) :
    (GraphRecord.note s i s' h).opener addr = h.opener addr := by
  cases i with
  | command k player cmd arg hasRes out => exact if_neg fun hnew => hnew.2 (isLive_iff.2 hlive)
  | createNotify k fd => rfl
  | dequeue hasPendingStatus processRet => rfl
  | event addr event result extra => rfl

/-- Commands stay the ones of their filters when these stay taken. -/
theorem StreamsOwn.queue_kept (hown : StreamsOwn s h)
    (hkept : ∀ command ∈ s.graph.cmds, ∀ addr, s.graph.occupant command.filter = some addr →
      s'.graph.occupant command.filter = some addr) :
    List.Forall₂ (fun command sender => ∃ addr, s'.graph.occupant command.filter = some addr ∧
      (GraphRecord.note s i s' h).opener addr = sender) s.graph.cmds h.senders := by
  have hqueue := hown.queue
  generalize s.graph.cmds = cmds at hkept hqueue ⊢
  generalize h.senders = senders at hqueue ⊢
  induction hqueue with
  | nil => exact .nil
  | @cons command sender cmds senders howned _ ih =>
    refine .cons ?_ (ih fun command' hmem => hkept command' (List.mem_cons_of_mem _ hmem))
    obtain ⟨addr, hoccupant, hopener⟩ := howned
    refine ⟨addr, hkept command (List.mem_cons_self ..) addr hoccupant, ?_⟩
    rw [note_opener (hown.taken.live hoccupant), hopener]

/-- The queue and the handles after a step that opens nothing. -/
theorem StreamsOwn.handles_kept (hown : StreamsOwn s h)
    (hdata : ∀ c word, mediaServerGetData s'.conns c = some word → mediaServerGetData s.conns c = some word)
    (hlive : ∀ addr ∈ s'.graph.contexts.map MediaFilterPriv.addr, addr ∈ s.graph.contexts.map MediaFilterPriv.addr) :
    ∀ k addr, mediaServerGetData s'.conns k = some addr → addr ∈ s'.graph.contexts.map MediaFilterPriv.addr →
      (GraphRecord.note s i s' h).opener addr = k := by
  intro k addr hword hmem
  rw [note_opener (hlive addr hmem)]
  exact hown.handles k addr (hdata k addr hword) (hlive addr hmem)

theorem StreamsOwn.open {player hasRes : Bool} {arg : Option CString} {out : GraphOutcomes} (hown : StreamsOwn s h)
    (hkeeps : KeepsStreams s (.command k player (some "open".toList) arg hasRes out))
    (hstep : graphStep s (.command k player (some "open".toList) arg hasRes out) = some s') :
    StreamsOwn s' (GraphRecord.note s (.command k player (some "open".toList) arg hasRes out) s' h) := by
  have htaken := hown.taken.step hstep
  obtain ⟨hnew, r, hr, hgraph, -, hconns⟩ := graphStep_command hstep
  obtain ⟨hfinalized, hopened⟩ := mediaCommonHandler_open hr
  rw [hfinalized] at hconns
  -- nothing is queued
  have hcmds : s'.graph.cmds = s.graph.cmds := by
    rw [hgraph]
    rcases hopened with ⟨hsame, -⟩ | ⟨addr, filter, -, -, -, -, hopened⟩
    · rw [hsame]
    · rw [hopened]
  have hsenders : (GraphRecord.note s (.command k player (some "open".toList) arg hasRes out) s' h).senders =
      h.senders := by
    simp only [GraphRecord.note, hcmds, Nat.sub_self, List.replicate_zero, List.append_nil]
  have hacts : ActsOnOwn (GraphRecord.note s (.command k player (some "open".toList) arg hasRes out) s' h) := by
    intro a ha
    simp only [GraphRecord.note, if_true] at ha
    cases ha
  rcases hopened with ⟨hsame, hstored⟩ | ⟨addr, filter, halloc, hfilter, hidle, hstored, hopened⟩
  · rw [hsame] at hgraph
    have hdata : s'.conns = s.conns := by
      rw [hconns, hstored]
      rfl
    refine ⟨htaken, hown.handles_kept ?_ ?_, ?_, hacts⟩
    · rw [hdata]
      exact fun _ _ => id
    · rw [hgraph]
      exact fun _ => id
    · rw [hsenders, hcmds]
      refine hown.queue_kept fun command _ addr hoccupant => ?_
      rw [hgraph]
      exact hoccupant
  · rw [hopened] at hgraph
    have hdata : s'.conns = mediaServerSetData s.conns k (some addr) := by
      rw [hconns, hstored]
      rfl
    refine ⟨htaken, fun c word hword hlive => ?_, ?_, hacts⟩
    · rw [hdata] at hword
      rw [hgraph, List.map_cons, List.mem_cons] at hlive
      rcases getData_setData hword with ⟨rfl, heq⟩ | ⟨hck, hlt, hword⟩
      · -- the new context
        cases heq
        refine if_pos ⟨isLive_iff.2 ?_, fun hold => hnew _ halloc (isLive_iff.1 hold)⟩
        rw [hgraph]
        exact List.mem_cons_self ..
      · have hold : word ∈ s.graph.contexts.map MediaFilterPriv.addr := by
          rcases hlive with heq | hold
          · rw [heq] at hword
            exact absurd hword (hkeeps rfl _ halloc c hlt hck)
          · exact hold
        rw [note_opener hold]
        exact hown.handles c word hword hold
    · rw [hsenders, hcmds]
      refine hown.queue_kept fun command _ addr' hoccupant => ?_
      have hother : filter ≠ command.filter := by
        intro heq
        rw [← heq, hidle] at hoccupant
        cases hoccupant
      have hoccupied := occupant_modify s.graph filter command.filter (some addr) hfilter
      rw [if_neg hother, hoccupant] at hoccupied
      rw [hgraph]
      exact hoccupied

theorem StreamsOwn.other {player hasRes : Bool} {cmd arg : Option CString} {out : GraphOutcomes} (hown : StreamsOwn s h)
    (hopen : cmd ≠ some "open".toList) (hstep : graphStep s (.command k player cmd arg hasRes out) = some s') :
    StreamsOwn s' (GraphRecord.note s (.command k player cmd arg hasRes out) s' h) := by
  have htaken := hown.taken.step hstep
  obtain ⟨-, r, hr, hgraph, hprocessed, hconns⟩ := graphStep_command hstep
  obtain ⟨hstored, hfilters, hclaims, hqueue⟩ := mediaCommonHandler_other hown.taken.distinct hopen hr
  rw [← hgraph] at hfilters hclaims hqueue
  rw [← hprocessed] at hqueue
  rw [hstored] at hconns
  have hdata : ∀ c word, mediaServerGetData s'.conns c = some word → mediaServerGetData s.conns c = some word := by
    intro c word hword
    rw [hconns] at hword
    exact getData_finalize hword
  have hlive : s'.graph.contexts.map MediaFilterPriv.addr = s.graph.contexts.map MediaFilterPriv.addr := by
    have hfst := congrArg (List.map Prod.fst) hclaims
    rwa [List.map_map, List.map_map] at hfst
  have hoccupant : ∀ f, s'.graph.occupant f = s.graph.occupant f := by
    intro f
    unfold MediaGraphPriv.occupant
    rw [hfilters]
  have hkept : ∀ command ∈ s.graph.cmds, ∀ addr, s.graph.occupant command.filter = some addr →
      s'.graph.occupant command.filter = some addr :=
    fun command _ _ hbefore => (hoccupant command.filter).trans hbefore
  have hold := hown.queue_kept (i := .command k player cmd arg hasRes out) hkept
  have hsenders : (GraphRecord.note s (.command k player cmd arg hasRes out) s' h).senders =
      h.senders ++ List.replicate (s'.graph.cmds.length - s.graph.cmds.length) k := rfl
  have hacted : (GraphRecord.note s (.command k player cmd arg hasRes out) s' h).acted =
      s'.processed.map fun command => ⟨command, k, s.graph.occupant command.filter⟩ := if_neg hopen
  -- the command is for the context that the connection holds
  have hheld : ∀ addr ctx, mediaServerGetData s.conns k = some addr → s.graph.context addr = some ctx →
      s.graph.occupant ctx.filter = some addr ∧
        (GraphRecord.note s (.command k player cmd arg hasRes out) s' h).opener addr = k := by
    intro addr ctx hword hctx
    obtain ⟨hmem, rfl⟩ := mem_of_context hctx
    have hmap : ctx.addr ∈ s.graph.contexts.map MediaFilterPriv.addr := List.mem_map_of_mem hmem
    refine ⟨(hown.taken.taken _ _).2 ⟨ctx, hmem, rfl, rfl⟩, ?_⟩
    rw [note_opener hmap]
    exact hown.handles k ctx.addr hword hmap
  refine ⟨htaken, hown.handles_kept hdata fun addr hmem => hlive ▸ hmem, ?_, ?_⟩
  · rw [hsenders]
    rcases hqueue with ⟨hsame, -⟩ | ⟨addr, ctx, command, hword, hctx, hfilter, ⟨hsame, -⟩ | ⟨hgrown, -⟩⟩
    · rw [hsame, Nat.sub_self, List.replicate_zero, List.append_nil]
      exact hold
    · rw [hsame, Nat.sub_self, List.replicate_zero, List.append_nil]
      exact hold
    · obtain ⟨hbefore, hopener⟩ := hheld addr ctx hword hctx
      rw [hgrown, List.length_append, Nat.add_sub_cancel_left]
      refine List.rel_append hold (.cons ⟨addr, ?_, hopener⟩ .nil)
      rw [hfilter, hoccupant]
      exact hbefore
  · intro a ha
    rw [hacted] at ha
    rcases hqueue with ⟨-, hnone⟩ | ⟨addr, ctx, command, hword, hctx, hfilter, ⟨-, hone⟩ | ⟨-, hnone⟩⟩
    · rw [hnone] at ha
      cases ha
    · rw [hone, List.map_singleton, List.mem_singleton] at ha
      subst ha
      obtain ⟨hbefore, hopener⟩ := hheld addr ctx hword hctx
      exact ⟨addr, hfilter ▸ hbefore, hopener⟩
    · rw [hnone] at ha
      cases ha

theorem StreamsOwn.dequeue {hasPendingStatus : Bool} {processRet : Int} (hown : StreamsOwn s h)
    (hstep : graphStep s (.dequeue hasPendingStatus processRet) = some s') :
    StreamsOwn s' (GraphRecord.note s (.dequeue hasPendingStatus processRet) s' h) := by
  have htaken := hown.taken.step hstep
  obtain ⟨hgraph, hconns, hqueue⟩ := graphStep_dequeue hstep
  have hoccupant : ∀ f, s'.graph.occupant f = s.graph.occupant f := by
    intro f
    rw [hgraph]
    rfl
  have hsenders : (GraphRecord.note s (.dequeue hasPendingStatus processRet) s' h).senders =
      h.senders.drop (s.graph.cmds.length - s'.graph.cmds.length) := rfl
  have hacted : (GraphRecord.note s (.dequeue hasPendingStatus processRet) s' h).acted =
      (s'.processed.zip h.senders).map fun p => ⟨p.1, p.2, s.graph.occupant p.1.filter⟩ := rfl
  have hkept : ∀ command ∈ s.graph.cmds, ∀ addr, s.graph.occupant command.filter = some addr →
      s'.graph.occupant command.filter = some addr :=
    fun command _ _ hbefore => (hoccupant command.filter).trans hbefore
  have hdata : ∀ c word, mediaServerGetData s'.conns c = some word → mediaServerGetData s.conns c = some word :=
    fun _ _ hword => hconns ▸ hword
  have hold := hown.queue_kept (i := .dequeue hasPendingStatus processRet) hkept
  have hhandles := hown.handles_kept (i := .dequeue hasPendingStatus processRet) hdata
    fun addr hmem => by rw [hgraph] at hmem; exact hmem
  rcases hqueue with ⟨hsame, hnone⟩ | ⟨command, hfirst, hone⟩
  · refine ⟨htaken, hhandles, ?_, fun a ha => ?_⟩
    · rw [hsenders, hsame, Nat.sub_self, List.drop_zero]
      exact hold
    · rw [hacted, hnone] at ha
      cases ha
  · -- the first command in the queue, with its sender
    rw [hfirst] at hold
    cases hsender : h.senders with
    | nil =>
      rw [hsender] at hold
      cases hold
    | cons sender senders =>
      rw [hsender] at hold
      obtain ⟨⟨addr, hbefore, hopener⟩, hrest⟩ := List.forall₂_cons.1 hold
      refine ⟨htaken, hhandles, ?_, fun a ha => ?_⟩
      · rw [hsenders, hfirst, List.length_cons, Nat.add_sub_cancel_left, hsender]
        exact hrest
      · rw [hacted, hone, hsender] at ha
        obtain rfl := List.mem_singleton.1 ha
        exact ⟨addr, (hoccupant _).symm.trans hbefore, hopener⟩

theorem StreamsOwn.event {event : AVMovieAsyncEvent} {result : BitVec 32} {extra : Option CString} (hown : StreamsOwn s h)
    (hkeeps : KeepsStreams s (.event addr event result extra))
    (hstep : graphStep s (.event addr event result extra) = some s') :
    StreamsOwn s' (GraphRecord.note s (.event addr event result extra) s' h) := by
  have htaken := hown.taken.step hstep
  have hacts : ActsOnOwn (GraphRecord.note s (.event addr event result extra) s' h) := by
    intro a ha
    cases ha
  rcases graphStep_event hstep with ⟨hgraph, hconns⟩ | ⟨rfl, ctx, hctx, rfl⟩
  · have hkept : ∀ command ∈ s.graph.cmds, ∀ addr, s.graph.occupant command.filter = some addr →
        s'.graph.occupant command.filter = some addr := by
      intro command _ addr hbefore
      rw [hgraph]
      exact hbefore
    have hqueue := hown.queue_kept (i := .event addr event result extra) hkept
    refine ⟨htaken, hown.handles_kept ?_ ?_, ?_, hacts⟩
    · exact fun _ _ hword => hconns ▸ hword
    · exact fun _ hmem => hgraph ▸ hmem
    · rw [hgraph] at hqueue ⊢
      exact hqueue
  · obtain ⟨hmem, rfl⟩ := mem_of_context hctx
    have hoccupied : s.graph.occupant ctx.filter = some ctx.addr := (hown.taken.taken _ _).2 ⟨ctx, hmem, rfl, rfl⟩
    have hfilter : ctx.filter < s.graph.filters.length := by
      obtain ⟨f, hf, -⟩ := Option.bind_eq_some_iff.1 hoccupied
      exact (List.getElem?_eq_some_iff.1 hf).1
    refine ⟨htaken, hown.handles_kept (fun _ _ => getData_finalize) (fun addr hlive => ?_), ?_, hacts⟩
    · obtain ⟨c, hc, rfl⟩ := List.mem_map.1 hlive
      exact List.mem_map_of_mem (List.mem_filter.1 hc).1
    · refine hown.queue_kept fun command hcommand addr hbefore => ?_
      have hother := hkeeps ctx hctx command hcommand
      have hafter := occupant_modify s.graph ctx.filter command.filter none hfilter
      rw [if_neg (Ne.symm hother)] at hafter
      exact hafter.trans hbefore

theorem StreamsOwn.step (hown : StreamsOwn s h) (hkeeps : KeepsStreams s i) (hstep : graphStep s i = some s') :
    StreamsOwn s' (GraphRecord.note s i s' h) := by
  cases i with
  | command k player cmd arg hasRes out =>
    by_cases hopen : cmd = some "open".toList
    · subst hopen
      exact hown.open hkeeps hstep
    · exact hown.other hopen hstep
  | createNotify k fd =>
    have htaken := hown.taken.step hstep
    cases hstep
    refine ⟨htaken, hown.handles_kept (fun c word hword => ?_) (fun _ => id), ?_, nofun⟩
    · -- the handles stay as they are
      unfold mediaServerGetData at hword ⊢
      dsimp only at hword
      rw [List.getElem?_modify] at hword
      cases hconn : s.conns[c]? with
      | none =>
        rw [hconn] at hword
        cases hword
      | some conn =>
        rw [hconn] at hword
        by_cases hk : k = c
        · simpa [hk, MediaServerConn.createNotify] using hword
        · simpa [hk] using hword
    · exact hown.queue_kept fun _ _ _ => id
  | dequeue hasPendingStatus processRet => exact hown.dequeue hstep
  | event addr event result extra => exact hown.event hkeeps hstep

theorem mediaGraphMachine_taken (filters : List AVFilterContext) (count : Nat) :
    FiltersTaken (mediaGraphMachine filters count).start.graph := by
  refine .of_claims (fun f addr => ⟨fun hoccupant => ?_, fun hmem => ?_⟩) List.nodup_nil
  · obtain ⟨filter, hfilter, hcontext⟩ := Option.bind_eq_some_iff.1 hoccupant
    have hmem := List.mem_of_getElem? hfilter
    obtain ⟨filter', -, rfl⟩ := List.mem_map.1 hmem
    cases hcontext
  · cases hmem

theorem streamsOwn_init (filters : List AVFilterContext) (count : Nat) :
    StreamsOwn (mediaGraphMachine filters count).start {} where
  taken := mediaGraphMachine_taken filters count
  handles k addr _ hlive := by cases hlive
  queue := .nil
  acts _ ha := by cases ha

/-- In every run a filter belongs to the one context that its pointer leads to; and in every run in which no command
waits for the filter of a context that is closed, what the queue passes on is for a stream of the sender. -/
theorem graphRuns_actsOnOwn :
    (∀ p, Reachable (graphRuns filters count) p → FiltersTaken p.1.graph) ∧
      ∀ p, ReachableVia (graphRuns filters count) (fun p i => KeepsStreams p.1 i) p → ActsOnOwn p.2 := by
  constructor
  · intro p hp
    exact hp.recorded (P := fun s _ => FiltersTaken s.graph) (mediaGraphMachine_taken filters count)
      fun s h i s' H _ hstep => H.step hstep
  · intro p hp
    have hown : StreamsOwn p.1 p.2 := hp.recorded (streamsOwn_init filters count)
      fun s h i s' hown hkeeps hstep => hown.step hkeeps hstep
    exact hown.acts

/-- One player filter. -/
def samplePlayerFilters : List AVFilterContext :=
  [{ name := "amovie_async@Music".toList, filterName := "amovie_async".toList }]

/-- A player is told to close, and to stop while its filter is not ready; then it is closed, and another client gets its
filter. -/
def sampleLateStop : List GraphInput :=
  [.createNotify 0 6, .command 0 true (some "open".toList) none false { alloc := some 64 },
    .command 0 true (some "close".toList) (some "1".toList) false {},
    .command 0 true (some "stop".toList) none false { hasPendingStatus := fun _ => true },
    .event 64 .closed 0 none, .command 1 true (some "open".toList) none false { alloc := some 64 }, .dequeue false 0]

def sampleLateState : GraphState × GraphRecord :=
  ((graphRuns samplePlayerFilters 2).runFrom (fun p i => ClosedWhenTold p.2 i) (graphRuns samplePlayerFilters 2).start
    sampleLateStop).get (by decide)

theorem late_stop_misdirected : ¬ ∀ filters count p,
    ReachableVia (graphRuns filters count) (fun p i => ClosedWhenTold p.2 i) p →
      FiltersTaken p.1.graph ∧ ActsOnOwn p.2 := by
  intro h
  have hacts := (h samplePlayerFilters 2 sampleLateState (reachableVia_get (by decide))).2
  obtain ⟨addr, hoccupant, hopener⟩ :=
    hacts ⟨⟨0, "stop".toList, none⟩, 0, some 64⟩ (by decide)
  cases hoccupant
  exact absurd hopener (by decide)

/-- The player is not told to stop after it was told to close. -/
def sampleEarlyStop : List GraphInput :=
  [.createNotify 0 6, .command 0 true (some "open".toList) none false { alloc := some 64 },
    .command 0 true (some "stop".toList) none false { hasPendingStatus := fun _ => true },
    .command 0 true (some "close".toList) (some "1".toList) false {}, .dequeue false 0, .dequeue false 0,
    .event 64 .closed 0 none, .command 1 true (some "open".toList) none false { alloc := some 64 },
    .command 1 true (some "start".toList) none false {}]

theorem graphRuns_actsOnOwn_early :
    let p := ((graphRuns samplePlayerFilters 2).runFrom (fun p i => KeepsStreams p.1 i)
      (graphRuns samplePlayerFilters 2).start sampleEarlyStop).get (by decide)
    ActsOnOwn p.2 :=
  graphRuns_actsOnOwn.2 _ (reachableVia_get (by decide))

end MediaFramework
