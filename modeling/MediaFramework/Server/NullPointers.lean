import MediaFramework.Server.ServerRuns

/-!
# What a message makes the server do with pointers

A string of a message that is empty or missing is NULL, and so is the buffer for a response that cannot be allocated.
`strcmp`, `strncmp`, `atoi`, `sscanf`, `strlcpy` and `memcpy` do not take NULL.  The calls of these functions are
listed here, as the handlers make them; after a call with NULL nothing is known about the program, so the list ends.
-/

namespace MediaFramework

/-- A call of a function of the C library with its source strings, and the call of a handler with its buffer. -/
inductive PointerUse
  | strcmp (s t : Option CString)
  | strncmp (s t : Option CString)
  | atoi (s : Option CString)
  | sscanf (s : Option CString)
  | strlcpy (src : Option CString)
  | memcpy (src : Option CString)
  | response (buffer : Bool) (len : BitVec 32)
  deriving DecidableEq

/-- No pointer is NULL, except for the buffer of a response without a length; a negative length is a large size. -/
def PointerUse.Safe : PointerUse → Prop
  | strcmp s t | strncmp s t => s ≠ none ∧ t ≠ none
  | atoi s | sscanf s | strlcpy s | memcpy s => s ≠ none
  | response buffer len => len ≠ 0 → buffer = true

instance (use : PointerUse) : Decidable use.Safe := by
  cases use with
  | strcmp s t | strncmp s t => exact inferInstanceAs (Decidable (_ ∧ _))
  | atoi s | sscanf s | strlcpy s | memcpy s => exact inferInstanceAs (Decidable (_ ≠ _))
  | response buffer len => exact inferInstanceAs (Decidable (_ → _))

def AllSafe (uses : List PointerUse) : Prop := ∀ use ∈ uses, use.Safe

instance (uses : List PointerUse) : Decidable (AllSafe uses) := inferInstanceAs (Decidable (∀ _ ∈ _, _))

/-- A string is compared with one name after the other; what follows is with the name that it is, or `rest`. -/
def strcmpChain (s : Option CString) : List (CString × List PointerUse) → List PointerUse → List PointerUse
  | [], rest => rest
  | (name, uses) :: chain, rest =>
    .strcmp s (some name) ::
      match s with
      | none => []
      | some str => if str = name then uses else strcmpChain s chain rest

/-- Names that nothing follows. -/
def plainly (names : List CString) : List (CString × List PointerUse) := names.map fun name => (name, [])

/-! ### The handlers -/

def mediaPolicyHandlerUses (cmd value : Option CString) : List PointerUse :=
  match cmd with
  | none => []
  | some _ =>
    strcmpChain cmd
      (plainly ["ping".toList, "subscribe".toList, "unsubscribe".toList] ++ ("set_int".toList, [.atoi value]) ::
        plainly ["increase".toList, "decrease".toList, "set_string".toList, "include".toList, "exclude".toList,
          "contain".toList, "get_int".toList, "get_string".toList, "get_range".toList, "dump".toList]) []

/-- The stream is looked for in the interaction table. -/
def mediaFocusRequestUses (focus : MediaFocus) (streamType : Option CString) : List PointerUse :=
  match streamType with
  | none => []
  | some _ => strcmpChain streamType (plainly (focus.table.streams.map String.toList)) []

def mediaFocusHandlerUses (focus : MediaFocus) (name cmd : Option CString) : List PointerUse :=
  strcmpChain cmd
    (("ping".toList, []) :: ("request".toList, mediaFocusRequestUses focus name) ::
      plainly ["abandon".toList, "dump".toList, "peek".toList]) []

/-- The loop over the filters of `media_find_filter`, which wants one that is not taken. -/
def mediaFindFilterUses (streamName prefixName : Option CString) (input : Bool) : List AVFilterContext → List PointerUse
  | [] => []
  | filter :: filters =>
    let rest := mediaFindFilterUses streamName prefixName input filters
    if filter.context.isSome then rest
    else
      match prefixName with
      | none => strcmpChain (some filter.filterName) (plainly (if input then gMediaInputs else gMediaOutputs)) rest
      | some prefixName =>
        .strncmp (some filter.name) (some (streamName.getD prefixName)) ::
          if filterMatches (some prefixName) input streamName filter then [] else rest

def mediaCommonOpenUses (out : GraphOutcomes) (g : MediaGraphPriv) (arg : Option CString) (player : Bool) :
    List PointerUse :=
  if out.alloc = none then []
  else
    mediaPolicyHandlerUses (some "get_string".toList) none ++
      mediaFindFilterUses out.streamName arg player g.filters

def mediaCommonHandlerUses (out : GraphOutcomes) (g : MediaGraphPriv) (data : Option Nat)
    (target cmd arg : Option CString) (player : Bool) : List PointerUse :=
  let close := strcmpChain cmd [("close".toList, if arg = none then [] else [.sscanf arg])] []
  strcmpChain cmd [("open".toList, mediaCommonOpenUses out g arg player)]
    (if data = none then []
    else
      strcmpChain cmd
        [("set_event".toList, []),
          ("prepare".toList, if target = none then close else [.strcmp target (some CONFIG_RPMSG_LOCAL_CPUNAME)])]
        close)

/-- The loop over the filters of `media_graph_handler`, as far as it goes. -/
def mediaGraphHandlerLoopUses (out : GraphOutcomes) (target cmd : CString) (arg : Option CString) (hasRes : Bool) :
    Nat → List AVFilterContext → List MediaCommand → List PointerUse
  | _, [], _ => []
  | i, filter :: filters, cmds =>
    let name := filter.name.dropWhile (· != '@')
    let found := target = filter.name ∨ name ≠ [] ∧ target.isPrefixOf name.tail
    let r := mediaGraphQueueCommand out cmds ⟨i, cmd, arg⟩ hasRes
    .strcmp (some target) (some filter.name) ::
      (if target = filter.name ∨ name = [] then [] else [.strncmp (some name.tail) (some target)]) ++
        if found then
          if r.1 < 0 then [] else mediaGraphHandlerLoopUses out target cmd arg hasRes (i + 1) filters r.2.1
        else mediaGraphHandlerLoopUses out target cmd arg hasRes (i + 1) filters cmds

def mediaGraphHandlerUses (out : GraphOutcomes) (g : MediaGraphPriv) (target cmd arg : Option CString) (hasRes : Bool) :
    List PointerUse :=
  let filters :=
    match target, cmd with
    | some target, some cmd => mediaGraphHandlerLoopUses out target cmd arg hasRes 0 g.filters g.cmds
    | _, _ => []
  let loglevel := strcmpChain cmd [("loglevel".toList, [])] filters
  if target = none then strcmpChain cmd [("dump".toList, [])] loglevel else loglevel

def mediaMetadataUnserializeUses (str : Option CString) : List PointerUse := if str = none then [] else [.sscanf str]

def mediaSessionControllerTransferUses (s : MediaSessionPriv) (cmd : Option CString) : List PointerUse :=
  if s.controllees = [] then []
  else
    strcmpChain cmd [("query".toList, [])]
      (strcmpChain cmd
        (plainly ["start".toList, "pause".toList, "stop".toList, "prev".toList, "next".toList, "volumeup".toList,
          "volumedown".toList]) [])

/-- The second half of `media_session_handler`, the controller methods. -/
def mediaSessionControllerUses (s : MediaSessionPriv) (data : Option Nat) (cmd : Option CString) : List PointerUse :=
  strcmpChain cmd [("open".toList, [])]
    (if data = none then []
    else strcmpChain cmd (plainly ["close".toList, "set_event".toList]) (mediaSessionControllerTransferUses s cmd))

def mediaSessionHandlerUses (s : MediaSessionPriv) (data : Option Nat) (cmd arg : Option CString) : List PointerUse :=
  strcmpChain cmd (plainly ["ping".toList, "register".toList])
    (if data = none then mediaSessionControllerUses s data cmd
    else
      strcmpChain cmd
        [("unregister".toList, []), ("event".toList, [.sscanf arg]),
          ("update".toList, mediaMetadataUnserializeUses arg)]
        (mediaSessionControllerUses s data cmd))

/-! ### The stub and the server -/

/-- `media_parcel_append_string` of a string that may be NULL. -/
def mediaParcelAppendStringUses (str : Option CString) : List PointerUse := [.memcpy (some (str.getD []))]

def StubCall.handlerUses (s : MediaServer) (k : Nat) (out : StubOutcomes) : StubCall → List PointerUse
  | policy _ cmd arg _ _ => mediaPolicyHandlerUses (cmd.map text) (arg.map text)
  | focus target cmd _ => mediaFocusHandlerUses s.focus (target.map text) (cmd.map text)
  | graph target cmd arg len =>
    mediaGraphHandlerUses out.graphOutcomes s.graph (target.map text) (cmd.map text) (arg.map text) (out.hasRes len)
  | player target cmd arg _ =>
    mediaCommonHandlerUses out.graphOutcomes s.graph (mediaServerGetData s.conns k) (target.map text) (cmd.map text)
      (arg.map text) true
  | recorder target cmd arg _ =>
    mediaCommonHandlerUses out.graphOutcomes s.graph (mediaServerGetData s.conns k) (target.map text) (cmd.map text)
      (arg.map text) false
  | session _ cmd arg _ =>
    mediaSessionHandlerUses s.session (mediaServerGetData s.conns k) (cmd.map text) (arg.map text)

/-- The handler is called with the buffer; then there are the strings of what it sends, and of the reply. -/
def mediaStubOnreceiveUses (w : SizeT) (s : MediaServer) (k : Nat) (out : StubOutcomes) (p : MediaParcel) (ack : Bool) :
    List PointerUse :=
  match (mediaStubRead w p).1 with
  | none => if ack then mediaParcelAppendStringUses none else []
  | some call =>
    let result := mediaStubHandle s k out call
    .response (out.hasRes call.len) call.len :: call.handlerUses s k out ++
      (result.elim [] fun r => r.sent.flatMap fun n => mediaParcelAppendStringUses n.extra) ++
        if ack then mediaParcelAppendStringUses (result.bind HandlerResult.response) else []

def mediaServerCreateNotifyUses (p : MediaParcel) : List PointerUse :=
  let r := mediaParcelReadString p
  let key := r.1.map text
  let cpu := (mediaParcelReadString r.2).1.map text
  if key = none then []
  else strcmpChain cpu [(CONFIG_RPMSG_LOCAL_CPUNAME, [.strlcpy key])] [.strlcpy key, .strlcpy cpu]

/-- What `media_server_receive` does with a parcel that has arrived. -/
def mediaServerReceiveUses (w : SizeT) (s : MediaServer) (k : Nat) (out : StubOutcomes) (p : MediaParcel) :
    List PointerUse :=
  if p.code = MEDIA_PARCEL_SEND then mediaStubOnreceiveUses w s k out p false
  else if p.code = MEDIA_PARCEL_SEND_ACK then mediaStubOnreceiveUses w s k out p true
  else if p.code = MEDIA_PARCEL_CREATE_NOTIFY then mediaServerCreateNotifyUses p
  else []

/-! ### Messages with all their strings -/

/-- The length of the response is not negative, there is memory for it, and the strings are there that the command
needs; only the policy module does without a command. -/
def StubCall.Complete (s : MediaServer) (k : Nat) (out : StubOutcomes) (call : StubCall) : Prop :=
  (call.len ≠ 0 → 0 < call.len.toInt ∧ out.response = true) ∧
    match call with
    | policy _ cmd arg _ _ => cmd.map text = some "set_int".toList → arg ≠ none
    | session _ cmd arg _ =>
      cmd ≠ none ∧ (mediaServerGetData s.conns k ≠ none → cmd.map text = some "event".toList → arg ≠ none)
    | focus _ cmd _ | graph _ cmd _ _ | player _ cmd _ _ | recorder _ cmd _ _ => cmd ≠ none

/-- The same for a message; to create a notify socket, a key needs a CPU. -/
def MessageComplete (w : SizeT) (s : MediaServer) (k : Nat) (out : StubOutcomes) (p : MediaParcel) : Prop :=
  (p.code = MEDIA_PARCEL_SEND ∨ p.code = MEDIA_PARCEL_SEND_ACK → ∀ call ∈ (mediaStubRead w p).1, call.Complete s k out) ∧
    (p.code = MEDIA_PARCEL_CREATE_NOTIFY → (mediaParcelReadString p).1 ≠ none →
      (mediaParcelReadString (mediaParcelReadString p).2).1 ≠ none)

section Safe

variable {uses rest : List PointerUse} {chain : List (CString × List PointerUse)} {names : List CString}
  {str name : CString} {s cmd arg target : Option CString} {use : PointerUse}

@[simp] theorem allSafe_nil : AllSafe [] := by
  intro use huse
  cases huse

@[simp] theorem allSafe_cons : AllSafe (use :: uses) ↔ use.Safe ∧ AllSafe uses := List.forall_mem_cons

@[simp] theorem allSafe_append : AllSafe (uses ++ rest) ↔ AllSafe uses ∧ AllSafe rest := List.forall_mem_append

theorem allSafe_chain_none (hchain : chain ≠ []) : ¬ AllSafe (strcmpChain none chain rest) := by
  obtain ⟨⟨name, uses⟩, chain, rfl⟩ := List.exists_cons_of_ne_nil hchain
  intro hsafe
  have hfirst : (PointerUse.strcmp none (some name)).Safe := hsafe _ (List.mem_cons_self ..)
  exact hfirst.1 rfl

theorem allSafe_chain_cons : AllSafe (strcmpChain (some str) ((name, uses) :: chain) rest) ↔
    if str = name then AllSafe uses else AllSafe (strcmpChain (some str) chain rest) := by
  have hfirst : (PointerUse.strcmp (some str) (some name)).Safe := ⟨Option.some_ne_none _, Option.some_ne_none _⟩
  have hchain : strcmpChain (some str) ((name, uses) :: chain) rest =
      .strcmp (some str) (some name) :: if str = name then uses else strcmpChain (some str) chain rest := rfl
  rw [hchain, allSafe_cons, and_iff_right hfirst]
  split <;> exact Iff.rfl

theorem allSafe_chain_plainly : AllSafe (strcmpChain (some str) (plainly names ++ chain) rest) ↔
    str ∈ names ∨ AllSafe (strcmpChain (some str) chain rest) := by
  induction names with
  | nil => simp [plainly]
  | cons name names ih =>
    show AllSafe (strcmpChain (some str) ((name, []) :: (plainly names ++ chain)) rest) ↔ _
    rw [allSafe_chain_cons, ih, List.mem_cons]
    by_cases hname : str = name
    · rw [if_pos hname]
      exact iff_of_true allSafe_nil (.inl (.inl hname))
    · rw [if_neg hname, or_iff_right hname]

theorem allSafe_chain_names : AllSafe (strcmpChain (some str) (plainly names) rest) ↔ str ∈ names ∨ AllSafe rest := by
  have hchain : plainly names = plainly names ++ [] := (List.append_nil _).symm
  rw [hchain, allSafe_chain_plainly]
  exact Iff.rfl

/-- A chain without an unsafe branch is safe, for a string that is not NULL. -/
theorem allSafe_chain (hs : s ≠ none) (hchain : ∀ p ∈ chain, AllSafe p.2) (hrest : AllSafe rest) :
    AllSafe (strcmpChain s chain rest) := by
  obtain ⟨str, rfl⟩ := Option.ne_none_iff_exists'.1 hs
  induction chain with
  | nil => exact hrest
  | cons p chain ih =>
    rw [allSafe_chain_cons]
    split
    · exact hchain p (List.mem_cons_self ..)
    · exact ih fun q hq => hchain q (List.mem_cons_of_mem _ hq)

theorem allSafe_plainly (names : List CString) (hs : s ≠ none) (hrest : AllSafe rest) :
    AllSafe (strcmpChain s (plainly names) rest) := by
  refine allSafe_chain hs (fun p hp => ?_) hrest
  obtain ⟨name, -, rfl⟩ := List.mem_map.1 hp
  exact allSafe_nil

/-! ### The handlers -/

theorem mediaPolicyHandlerUses_safe :
    AllSafe (mediaPolicyHandlerUses cmd arg) ↔ (cmd = some "set_int".toList → arg ≠ none) := by
  unfold mediaPolicyHandlerUses
  cases cmd with
  | none => exact iff_of_true allSafe_nil nofun
  | some cmd =>
    dsimp only
    rw [allSafe_chain_plainly, allSafe_chain_cons, Option.some.injEq]
    by_cases hset : cmd = "set_int".toList
    · have hfirst : cmd ∉ ["ping".toList, "subscribe".toList, "unsubscribe".toList] := by
        rw [hset]
        decide
      rw [if_pos hset, or_iff_right hfirst, allSafe_cons, and_iff_left allSafe_nil]
      exact ⟨fun hsafe _ => hsafe, fun hsafe => hsafe hset⟩
    · rw [if_neg hset]
      exact iff_of_true (.inr (allSafe_plainly _ (Option.some_ne_none _) allSafe_nil)) fun heq => absurd heq hset

theorem mediaFocusHandlerUses_safe (focus : MediaFocus) :
    AllSafe (mediaFocusHandlerUses focus target cmd) ↔ cmd ≠ none := by
  constructor
  · rintro hsafe rfl
    exact allSafe_chain_none (List.cons_ne_nil _ _) hsafe
  · intro hcmd
    refine allSafe_chain hcmd (fun p hp => ?_) allSafe_nil
    simp only [plainly, List.map_cons, List.map_nil, List.mem_cons, List.not_mem_nil, or_false] at hp
    rcases hp with rfl | rfl | rfl | rfl | rfl
    · exact allSafe_nil
    · unfold mediaFocusRequestUses
      cases target with
      | none => exact allSafe_nil
      | some target => exact allSafe_plainly _ (Option.some_ne_none _) allSafe_nil
    · exact allSafe_nil
    · exact allSafe_nil
    · exact allSafe_nil

theorem mediaFindFilterUses_safe (streamName prefixName : Option CString) (input : Bool)
    (filters : List AVFilterContext) : AllSafe (mediaFindFilterUses streamName prefixName input filters) := by
  induction filters with
  | nil => exact allSafe_nil
  | cons filter filters ih =>
    unfold mediaFindFilterUses
    dsimp only
    split
    · exact ih
    · cases prefixName with
      | none => exact allSafe_plainly _ (Option.some_ne_none _) ih
      | some prefixName =>
        rw [allSafe_cons]
        refine ⟨⟨Option.some_ne_none _, Option.some_ne_none _⟩, ?_⟩
        split
        · exact allSafe_nil
        · exact ih

theorem mediaCommonHandlerUses_safe (out : GraphOutcomes) (g : MediaGraphPriv) (data : Option Nat) (player : Bool) :
    AllSafe (mediaCommonHandlerUses out g data target cmd arg player) ↔ cmd ≠ none := by
  unfold mediaCommonHandlerUses
  dsimp only
  constructor
  · rintro hsafe rfl
    exact allSafe_chain_none (List.cons_ne_nil _ _) hsafe
  · intro hcmd
    have hopen : AllSafe (mediaCommonOpenUses out g arg player) := by
      unfold mediaCommonOpenUses
      split
      · exact allSafe_nil
      · rw [allSafe_append]
        refine ⟨mediaPolicyHandlerUses_safe.2 fun heq => ?_, mediaFindFilterUses_safe _ _ _ _⟩
        exact absurd (Option.some.inj heq) (by decide)
    have hclose : AllSafe (strcmpChain cmd [("close".toList, if arg = none then [] else [.sscanf arg])] []) := by
      refine allSafe_chain hcmd (fun p hp => ?_) allSafe_nil
      obtain rfl := List.mem_singleton.1 hp
      dsimp only
      split
      · exact allSafe_nil
      · rw [allSafe_cons]
        exact ⟨‹_›, allSafe_nil⟩
    refine allSafe_chain hcmd (fun p hp => ?_) ?_
    · obtain rfl := List.mem_singleton.1 hp
      exact hopen
    · split
      · exact allSafe_nil
      · refine allSafe_chain hcmd (fun p hp => ?_) hclose
        rcases List.mem_pair.1 hp with rfl | rfl
        · exact allSafe_nil
        · dsimp only
          split
          · exact hclose
          · rw [allSafe_cons]
            exact ⟨⟨‹_›, Option.some_ne_none _⟩, allSafe_nil⟩

theorem mediaGraphHandlerLoopUses_safe (out : GraphOutcomes) (target cmd : CString) (arg : Option CString)
    (hasRes : Bool) (i : Nat) (filters : List AVFilterContext) (cmds : List MediaCommand) :
    AllSafe (mediaGraphHandlerLoopUses out target cmd arg hasRes i filters cmds) := by
  induction filters generalizing i cmds with
  | nil => exact allSafe_nil
  | cons filter filters ih =>
    have hsome : ∀ str : CString, some str ≠ none := fun _ => Option.some_ne_none _
    unfold mediaGraphHandlerLoopUses
    dsimp only
    rw [List.cons_append, allSafe_cons, allSafe_append]
    refine ⟨⟨hsome _, hsome _⟩, ?_, ?_⟩
    · split
      · exact allSafe_nil
      · rw [allSafe_cons]
        exact ⟨⟨hsome _, hsome _⟩, allSafe_nil⟩
    · split
      · split
        · exact allSafe_nil
        · exact ih _ _
      · exact ih _ _

theorem mediaGraphHandlerUses_safe (out : GraphOutcomes) (g : MediaGraphPriv) (hasRes : Bool) :
    AllSafe (mediaGraphHandlerUses out g target cmd arg hasRes) ↔ cmd ≠ none := by
  unfold mediaGraphHandlerUses
  dsimp only
  constructor
  · rintro hsafe rfl
    split at hsafe <;> exact allSafe_chain_none (List.cons_ne_nil _ _) hsafe
  · intro hcmd
    obtain ⟨cmd, rfl⟩ := Option.ne_none_iff_exists'.1 hcmd
    have hplain : ∀ (name : CString) (rest : List PointerUse), AllSafe rest →
        AllSafe (strcmpChain (some cmd) [(name, [])] rest) := fun name rest hrest =>
      allSafe_plainly [name] hcmd hrest
    cases target with
    | none => exact hplain _ _ (hplain _ _ allSafe_nil)
    | some target => exact hplain _ _ (mediaGraphHandlerLoopUses_safe _ _ _ _ _ _ _ _)

theorem mediaSessionControllerUses_safe (session : MediaSessionPriv) (data : Option Nat) (hcmd : cmd ≠ none) :
    AllSafe (mediaSessionControllerUses session data cmd) := by
  have htransfer : AllSafe (mediaSessionControllerTransferUses session cmd) := by
    unfold mediaSessionControllerTransferUses
    split
    · exact allSafe_nil
    · exact allSafe_plainly ["query".toList] hcmd (allSafe_plainly _ hcmd allSafe_nil)
  refine allSafe_plainly ["open".toList] hcmd ?_
  split
  · exact allSafe_nil
  · exact allSafe_plainly _ hcmd htransfer

theorem mediaSessionHandlerUses_safe (session : MediaSessionPriv) (data : Option Nat) :
    AllSafe (mediaSessionHandlerUses session data cmd arg) ↔
      cmd ≠ none ∧ (data ≠ none → cmd = some "event".toList → arg ≠ none) := by
  unfold mediaSessionHandlerUses
  cases cmd with
  | none => exact iff_of_false (allSafe_chain_none (List.cons_ne_nil _ _)) fun hcmd => hcmd.1 rfl
  | some cmd =>
    have hcmd : some cmd ≠ none := Option.some_ne_none _
    have hcontroller := mediaSessionControllerUses_safe session data hcmd
    rw [and_iff_right hcmd, Option.some.injEq, allSafe_chain_names]
    by_cases hdata : data = none
    · rw [if_pos hdata]
      exact iff_of_true (.inr hcontroller) fun hsome => absurd hdata hsome
    · rw [if_neg hdata]
      by_cases hevent : cmd = "event".toList
      · -- the argument is scanned
        have hfirst : cmd ∉ ["ping".toList, "register".toList] := by
          rw [hevent]
          decide
        have hother : cmd ≠ "unregister".toList := by
          rw [hevent]
          decide
        rw [or_iff_right hfirst, allSafe_chain_cons, if_neg hother, allSafe_chain_cons, if_pos hevent, allSafe_cons,
          and_iff_left allSafe_nil]
        exact ⟨fun hsafe _ _ => hsafe, fun hsafe => hsafe hdata hevent⟩
      · refine iff_of_true (.inr ?_) fun _ heq => absurd heq hevent
        rw [allSafe_chain_cons]
        split
        · exact allSafe_nil
        · rw [allSafe_chain_cons, if_neg hevent, allSafe_chain_cons]
          split
          · unfold mediaMetadataUnserializeUses
            split
            · exact allSafe_nil
            · rw [allSafe_cons]
              exact ⟨‹_›, allSafe_nil⟩
          · exact hcontroller

end Safe

/-! ### Messages -/

variable {w : SizeT} {s : MediaServer} {k : Nat} {out : StubOutcomes} {p : MediaParcel} {call : StubCall}

theorem handlerUses_safe :
    (PointerUse.response (out.hasRes call.len) call.len).Safe ∧ AllSafe (call.handlerUses s k out) ↔
    call.Complete s k out := by
  have hresponse : (PointerUse.response (out.hasRes call.len) call.len).Safe ↔
      (call.len ≠ 0 → 0 < call.len.toInt ∧ out.response = true) := by
    unfold PointerUse.Safe StubOutcomes.hasRes
    simp only [Bool.and_eq_true, decide_eq_true_eq]
  unfold StubCall.Complete
  refine and_congr hresponse ?_
  cases call with
  | policy target cmd arg flags len =>
    exact mediaPolicyHandlerUses_safe.trans (imp_congr_right fun _ => not_congr Option.map_eq_none_iff)
  | focus target cmd len => exact (mediaFocusHandlerUses_safe _).trans (not_congr Option.map_eq_none_iff)
  | graph target cmd arg len => exact (mediaGraphHandlerUses_safe _ _ _).trans (not_congr Option.map_eq_none_iff)
  | player target cmd arg len | recorder target cmd arg len =>
    exact (mediaCommonHandlerUses_safe _ _ _ _).trans (not_congr Option.map_eq_none_iff)
  | session target cmd arg len =>
    refine (mediaSessionHandlerUses_safe _ _).trans (and_congr (not_congr Option.map_eq_none_iff) ?_)
    exact imp_congr_right fun _ => imp_congr_right fun _ => not_congr Option.map_eq_none_iff

theorem mediaParcelAppendStringUses_safe (str : Option CString) : AllSafe (mediaParcelAppendStringUses str) :=
  allSafe_cons.2 ⟨Option.some_ne_none _, allSafe_nil⟩

theorem mediaStubOnreceiveUses_safe (ack : Bool) :
    AllSafe (mediaStubOnreceiveUses w s k out p ack) ↔ ∀ call ∈ (mediaStubRead w p).1, call.Complete s k out := by
  unfold mediaStubOnreceiveUses
  cases (mediaStubRead w p).1 with
  | none =>
    refine iff_of_true ?_ nofun
    dsimp only
    split
    · exact mediaParcelAppendStringUses_safe none
    · exact allSafe_nil
  | some call =>
    dsimp only
    have hreply : AllSafe (if ack = true then
        mediaParcelAppendStringUses ((mediaStubHandle s k out call).bind HandlerResult.response) else []) := by
      split
      · exact mediaParcelAppendStringUses_safe _
      · exact allSafe_nil
    have hsent : AllSafe ((mediaStubHandle s k out call).elim []
        fun r => r.sent.flatMap fun n => mediaParcelAppendStringUses n.extra) := by
      cases mediaStubHandle s k out call with
      | none => exact allSafe_nil
      | some r =>
        intro use huse
        obtain ⟨n, -, hn⟩ := List.mem_flatMap.1 huse
        exact mediaParcelAppendStringUses_safe n.extra use hn
    simp only [Option.mem_some_iff, forall_eq']
    rw [List.cons_append, List.cons_append, allSafe_cons, allSafe_append, and_iff_left hreply, allSafe_append,
      and_iff_left hsent]
    exact handlerUses_safe

theorem mediaServerCreateNotifyUses_safe : AllSafe (mediaServerCreateNotifyUses p) ↔
    ((mediaParcelReadString p).1 ≠ none → (mediaParcelReadString (mediaParcelReadString p).2).1 ≠ none) := by
  unfold mediaServerCreateNotifyUses
  dsimp only
  cases hkey : (mediaParcelReadString p).1 with
  | none => exact iff_of_true allSafe_nil fun hsome => absurd rfl hsome
  | some key =>
    rw [Option.map_some, if_neg (Option.some_ne_none _)]
    have hkey : some (text key) ≠ none := Option.some_ne_none _
    cases (mediaParcelReadString (mediaParcelReadString p).2).1 with
    | none =>
      refine iff_of_false (allSafe_chain_none (List.cons_ne_nil _ _)) fun hcpu => ?_
      exact hcpu (Option.some_ne_none _) rfl
    | some cpu =>
      refine iff_of_true (allSafe_chain (Option.some_ne_none _) (fun q hq => ?_) ?_) fun _ => Option.some_ne_none _
      · obtain rfl := List.mem_singleton.1 hq
        exact allSafe_cons.2 ⟨hkey, allSafe_nil⟩
      · exact allSafe_cons.2 ⟨hkey, allSafe_cons.2 ⟨Option.some_ne_none _, allSafe_nil⟩⟩

/-- The number of the policy module is not NULL where its handler has a result. -/
theorem value_of_result {handle data : Option Nat} {ret : Int} {response : Option CString}
    {policy : List PolicySubscriber} {name value : Option CString} {res : Bool} {len : Nat} {r : PolicyResult}
    (h : mediaPolicyHandler handle ret response policy k data name (some "set_int".toList) value res len = some r) :
    value ≠ none := by
  rintro rfl
  unfold mediaPolicyHandler at h
  dsimp only at h
  rw [if_neg (by decide), if_neg (by decide), if_neg (by decide), if_pos ⟨rfl, rfl⟩] at h
  cases h

/-- The handlers have a result only where they use no string that is NULL. -/
theorem handlerUses_of_result {r : HandlerResult} (h : mediaStubHandle s k out call = some r) :
    AllSafe (call.handlerUses s k out) := by
  cases call with
  | policy target cmd arg flags len =>
    obtain ⟨g, hg, -⟩ := Option.map_eq_some_iff.1 h
    refine mediaPolicyHandlerUses_safe.2 fun hcmd => ?_
    rw [hcmd] at hg
    exact value_of_result hg
  | focus target cmd len =>
    obtain ⟨g, hg, -⟩ := Option.map_eq_some_iff.1 h
    obtain ⟨cmd', hcmd, -⟩ := Option.bind_eq_some_iff.1 hg
    exact (mediaFocusHandlerUses_safe _).2 (hcmd ▸ Option.some_ne_none cmd')
  | graph target cmd arg len =>
    obtain ⟨g, hg, -⟩ := Option.map_eq_some_iff.1 h
    obtain ⟨cmd', hcmd, -⟩ := Option.map_eq_some_iff.1 hg
    exact (mediaGraphHandlerUses_safe _ _ _).2 (hcmd ▸ Option.some_ne_none cmd')
  | player target cmd arg len | recorder target cmd arg len =>
    obtain ⟨g, hg, -⟩ := Option.map_eq_some_iff.1 h
    obtain ⟨cmd', hcmd, -⟩ := Option.bind_eq_some_iff.1 hg
    exact (mediaCommonHandlerUses_safe _ _ _ _).2 (hcmd ▸ Option.some_ne_none cmd')
  | session target cmd arg len =>
    obtain ⟨cmd, rfl, hcall⟩ := Option.bind_eq_some_iff.1 h
    obtain ⟨g, hg, -⟩ := Option.map_eq_some_iff.1 hcall
    refine (mediaSessionHandlerUses_safe _ _).2 ⟨Option.some_ne_none _, fun hdata hevent harg => ?_⟩
    obtain ⟨addr, hdata⟩ := Option.ne_none_iff_exists'.1 hdata
    have hcmd : (sessionCall s k out target cmd arg len).cmd = .event := by
      unfold sessionCall
      dsimp only
      rw [Option.some.inj hevent]
      decide
    unfold mediaSessionHandler at hg
    rw [hcmd] at hg
    have hdata : (sessionCall s k out target cmd arg len).data = some addr := hdata
    rw [hdata] at hg
    obtain ⟨c, -, hscan⟩ := Option.bind_eq_some_iff.1 hg
    obtain ⟨str, hstr, -⟩ := Option.map_eq_some_iff.1 hscan
    have hnone : arg.map text = some str := hstr
    rw [harg] at hnone
    cases hnone

/-- A parcel makes the server use no NULL pointer if and only if it has all its strings, the length for the response is
not negative, and there is memory for the response.  Where a handler has a result, its own uses are among the safe
ones. -/
theorem mediaServerReceive_safe_iff (w : SizeT) (s : MediaServer) (k : Nat) (out : StubOutcomes) (p : MediaParcel) :
    (AllSafe (mediaServerReceiveUses w s k out p) ↔ MessageComplete w s k out p) ∧
      ∀ call ∈ (mediaStubRead w p).1, (mediaStubHandle s k out call).isSome → AllSafe (call.handlerUses s k out) := by
  refine ⟨?_, fun call _ hsome => handlerUses_of_result (Option.some_get hsome).symm⟩
  unfold mediaServerReceiveUses MessageComplete
  by_cases hsend : p.code = MEDIA_PARCEL_SEND
  · rw [if_pos hsend, mediaStubOnreceiveUses_safe, hsend]
    exact ⟨fun hcall => ⟨fun _ => hcall, fun heq => absurd heq (by decide)⟩, fun h => h.1 (.inl rfl)⟩
  · rw [if_neg hsend]
    by_cases hack : p.code = MEDIA_PARCEL_SEND_ACK
    · rw [if_pos hack, mediaStubOnreceiveUses_safe, hack]
      exact ⟨fun hcall => ⟨fun _ => hcall, fun heq => absurd heq (by decide)⟩, fun h => h.1 (.inr rfl)⟩
    · rw [if_neg hack]
      have hnone : ¬ (p.code = MEDIA_PARCEL_SEND ∨ p.code = MEDIA_PARCEL_SEND_ACK) := not_or.2 ⟨hsend, hack⟩
      by_cases hcreate : p.code = MEDIA_PARCEL_CREATE_NOTIFY
      · rw [if_pos hcreate, mediaServerCreateNotifyUses_safe]
        exact ⟨fun hkey => ⟨fun h => absurd h hnone, fun _ => hkey⟩, fun h => h.2 hcreate⟩
      · rw [if_neg hcreate]
        exact iff_of_true allSafe_nil ⟨fun h => absurd h hnone, fun h => absurd h hcreate⟩

/-- A request to the focus module that ends after the number of the module. -/
def sampleShortRequest : MediaParcel :=
  let bytes := bytes32 MEDIA_PARCEL_SEND ++ bytes32 4 ++ bytes32 6
  { mem := fun i => bytes.getD i 0, size := MEDIA_PARCEL_HEADER_LEN + MEDIA_PARCEL_DATA_LEN, heap := false, next := 0
    cap := MEDIA_PARCEL_DATA_LEN }

/-- Its command is NULL. -/
theorem short_request_unsafe : ¬ ∀ w s k out p, AllSafe (mediaServerReceiveUses w s k out p) := by
  intro h
  have hsafe := h .w64 (mediaServerInit 1 [] sampleTable 8) 0 {} sampleShortRequest
  exact absurd (hsafe (.strcmp none (some "ping".toList)) (by decide)) (by decide)

end MediaFramework
