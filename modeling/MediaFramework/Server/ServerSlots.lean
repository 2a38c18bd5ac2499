import MediaFramework.Server.ServerNotices

/-!
# The entries of the connections and what they have

A client can release an object only as long as its entry has the handle.  No module learns that a connection has ended,
and an entry forgets its handle as soon as another one is stored.  An entry that has a notify socket is given to nobody
else, but nobody closes this socket when the client has gone.
-/

namespace MediaFramework

open Machine Registry ServerRecord

variable {maxConn depth : Nat} {filters : List AVFilterContext} {t : InteractionTable} {s : MediaServer}
  {r r' : ServerResult} {h : ServerRecord} {i : ServerInput} {k c : Nat} {o : ServerObject}

/-! ### Objects that have to be released -/

/-- Controllers, controllees and focus entries as long as they are listed, and contexts until they have let go of their
connection and a command to close them was answered without an error. -/
def ServerObject.Open (l : Objects) (closing : Nat → Bool) (o : ServerObject) : Prop :=
  match o with
  | .subscription _ => False
  | .context addr => ∃ p ∈ l, p.1 = .context addr ∧ (p.2 ≠ none ∨ closing addr = false)
  | .controller addr => Has l (.controller addr)
  | .controllee addr => Has l (.controllee addr)
  | .focus id => Has l (.focus id)

instance (l : Objects) (closing : Nat → Bool) (o : ServerObject) : Decidable (o.Open l closing) := by
  unfold ServerObject.Open
  split
  · exact instDecidableFalse
  · exact inferInstanceAs (Decidable (∃ _ ∈ _, _))
  · infer_instance
  · infer_instance
  · infer_instance

/-- The connection has the handle of an object that has to be released. -/
def HoldsOpen (s : MediaServer) (h : ServerRecord) (k : Nat) : Prop :=
  ∃ o ∈ h.denoted s.conns k, o.Open s.objects h.closing

/-- No other entry has the handle that a request would get for a new object. -/
def Unheld (s : MediaServer) (h : ServerRecord) (k : Nat) (alloc : Option Nat) (kind : HandleKind) : Prop :=
  ∀ c < s.conns.length, c ≠ k → ∀ o ∈ h.denoted s.conns c,
    if kind = .focus then o ≠ .focus (appFocusFreeClientId s.focus.stack) else some o ≠ alloc.map kind.object

/-- A context that lets go of its connection, which forgets the handle with its notify socket, is closed: the command
gets to the filter or into the queue, or one before it did. -/
def CloseTaken (s : MediaServer) (h : ServerRecord) (k : Nat) (call : StubCall) (out : StubOutcomes) : Prop :=
  ∀ p ∈ call.closing, ClosesAtOnce out.graphOutcomes p.1 →
    ∀ ctx ∈ (mediaServerGetData s.conns k).bind s.graph.context, ∀ c ∈ ctx.cookie, NotifyOpen s c →
      h.closing ctx.addr = true ∨ 0 ≤ closeRet out.graphOutcomes s.graph ctx p.1 (out.hasRes p.2)

/-- No connection ends, and no handle is overwritten, as long as it is the handle of an object that has to be released,
nor is it forgotten by a command that is about something else or by a close that fails; and an object is not put where
an old handle still leads to. -/
def KeepsHandles (s : MediaServer) (h : ServerRecord) : ServerInput → Prop
  | .hangup k => ¬ HoldsOpen s h k
  | .message k call out =>
    (∀ kind ∈ call.creates, ¬ HoldsOpen s h k ∧ Unheld s h k out.alloc kind) ∧
      (call.uses = some .focus ∨ call.uses = some .subscription → HoldsOpen s h k → NotifyOpen s k →
        h.stored k = call.uses) ∧ CloseTaken s h k call out
  | _ => True

instance (s : MediaServer) (h : ServerRecord) (k : Nat) : Decidable (HoldsOpen s h k) :=
  inferInstanceAs (Decidable (∃ _ ∈ _, _))

instance (s : MediaServer) (h : ServerRecord) (k : Nat) (alloc : Option Nat) (kind : HandleKind) :
    Decidable (Unheld s h k alloc kind) := inferInstanceAs (Decidable (∀ _ < _, _ → ∀ _ ∈ _, _))

instance (s : MediaServer) (h : ServerRecord) (k : Nat) (call : StubCall) (out : StubOutcomes) :
    Decidable (CloseTaken s h k call out) :=
  inferInstanceAs (Decidable (∀ _ ∈ _, _ → ∀ _ ∈ _, ∀ _ ∈ _, _ → _ ∨ _))

instance (s : MediaServer) (h : ServerRecord) : (i : ServerInput) → Decidable (KeepsHandles s h i)
  | .hangup _ => inferInstanceAs (Decidable (¬ _))
  | .message _ _ _ => inferInstanceAs (Decidable ((∀ _ ∈ _, _) ∧ (_ → _ → _ → _) ∧ _))
  | .accept _ | .createNotify _ _ | .filterEvent _ _ _ _ | .policyChange _ _ _ => inferInstanceAs (Decidable True)

/-- Every object that has to be released is the handle of exactly one entry, the one that its client is connected to,
and no client has two of them. -/
structure NoOrphans (r : ServerResult) (h : ServerRecord) : Prop where
  held : ∀ o : ServerObject, o.Open r.server.objects h.closing → ∃ c, r.server.InUse c ∧
    h.denoted r.server.conns c = some o ∧ h.owner o = h.client c ∧ ∀ c', h.denoted r.server.conns c' = some o → c' = c
  single : ∀ o o' : ServerObject, o.Open r.server.objects h.closing → o'.Open r.server.objects h.closing →
    h.owner o = h.owner o' → o = o'

section Open

variable {l : Objects} {closing : Nat → Bool} {addr : Nat}

theorem ServerObject.Open.has (h : o.Open l closing) : Has l o := by
  cases o with
  | subscription addr => exact h.elim
  | context addr =>
    obtain ⟨⟨_, c⟩, hp, rfl, -⟩ := h
    exact ⟨c, hp⟩
  | controller addr | controllee addr | focus id => exact h

theorem open_context : (ServerObject.context addr).Open l closing ↔
    (∃ c, (ServerObject.context addr, some c) ∈ l) ∨ Has l (.context addr) ∧ closing addr = false := by
  constructor
  · rintro ⟨⟨_, c⟩, hp, rfl, hc | hclosing⟩
    · obtain ⟨c, rfl⟩ := Option.ne_none_iff_exists'.1 hc
      exact .inl ⟨c, hp⟩
    · exact .inr ⟨⟨c, hp⟩, hclosing⟩
  · rintro (⟨c, hc⟩ | ⟨⟨c, hc⟩, hclosing⟩)
    · exact ⟨_, hc, rfl, .inl (Option.some_ne_none c)⟩
    · exact ⟨_, hc, rfl, .inr hclosing⟩

/-- What refers to an entry has to be released, unless it is a subscription. -/
theorem open_of_mem (hmem : (o, some c) ∈ l) (ho : ∀ addr, o ≠ .subscription addr) : o.Open l closing := by
  cases o with
  | subscription addr => exact (ho addr rfl).elim
  | context addr => exact open_context.2 (.inl ⟨c, hmem⟩)
  | controller addr | controllee addr | focus id => exact ⟨_, hmem⟩

/-- A context that is not being closed after a step is new, or was not being closed before. -/
theorem closing_back (hclosing : (note r i r' h).closing addr = false) :
    ¬ Has r.server.objects (.context addr) ∨ h.closing addr = false ∧ i.closes r.server r' ≠ some addr := by
  simp only [note] at hclosing
  split at hclosing
  · rename_i hnew
    exact .inl hnew.1
  · rw [Bool.or_eq_false_iff, decide_eq_false_iff_not] at hclosing
    exact .inr hclosing

/-- What has to be released after a step was created by it, or had to be released before. -/
theorem open_back {created released : Option ServerObject}
    (heffect : Effect k created released r.server.objects r'.server.objects)
    (hopen : o.Open r'.server.objects (note r i r' h).closing) :
    o.Open r.server.objects h.closing ∨ created = some o := by
  cases o with
  | subscription addr => exact hopen.elim
  | context addr =>
    rcases open_context.1 hopen with ⟨c, hc⟩ | ⟨hhas, hclosing⟩
    · rcases heffect.refers _ _ hc with hc | ⟨hcreated, -⟩
      · exact .inl (open_context.2 (.inl ⟨c, hc⟩))
      · exact .inr hcreated
    · refine (heffect.back _ hhas).imp_left fun hbefore => open_context.2 (.inr ⟨hbefore, ?_⟩)
      exact ((closing_back hclosing).resolve_left (not_not.2 hbefore)).1
  | controller addr | controllee addr | focus id => exact heffect.back _ hopen

end Open

/-! ### What a step finalizes -/

variable {call : StubCall} {out : StubOutcomes} {data : Option Nat}

/-- The object that a command gives up is what the handle of its connection is taken for. -/
theorem releases_cases (ho : call.releases data = some o) :
    (∃ addr, o = .controller addr ∨ o = .controllee addr) ∨
      call.uses = some .subscription ∧ (∃ addr, o = .subscription addr) ∨
        call.uses = some .focus ∧ focusEntry data = some o := by
  cases call with
  | graph | player | recorder => cases ho
  | session target cmd arg len =>
    obtain ⟨c, hc, ho⟩ := Option.bind_eq_some_iff.1 ho
    cases c with
    | unregister =>
      obtain ⟨addr, -, rfl⟩ := Option.map_eq_some_iff.1 ho
      exact .inl ⟨addr, .inr rfl⟩
    | close =>
      obtain ⟨addr, -, rfl⟩ := Option.map_eq_some_iff.1 ho
      exact .inl ⟨addr, .inl rfl⟩
    | _ => cases ho
  | policy target cmd arg flags len =>
    unfold StubCall.releases at ho
    unfold StubCall.uses
    dsimp only at ho ⊢
    split at ho
    · rename_i hunsubscribe
      obtain ⟨addr, -, rfl⟩ := Option.map_eq_some_iff.1 ho
      exact .inr (.inl ⟨if_pos hunsubscribe, addr, rfl⟩)
    · cases ho
  | focus target cmd len =>
    unfold StubCall.releases at ho
    unfold StubCall.uses
    dsimp only at ho ⊢
    split at ho
    · rename_i habandon
      exact .inr (.inr ⟨if_pos habandon, ho⟩)
    · cases ho

theorem releases_of_focus (huses : call.uses = some .focus) (data : Option Nat) :
    call.releases data = focusEntry data := by
  cases call with
  | graph target cmd arg len => cases huses
  | player target cmd arg len | recorder target cmd arg len =>
    unfold StubCall.uses at huses
    dsimp only at huses
    split at huses <;> cases huses
  | session target cmd arg len =>
    obtain ⟨c, -, huses⟩ := Option.bind_eq_some_iff.1 huses
    cases c <;> cases huses
  | policy target cmd arg flags len =>
    unfold StubCall.uses at huses
    dsimp only at huses
    split at huses <;> cases huses
  | focus target cmd len =>
    unfold StubCall.uses at huses
    unfold StubCall.releases
    dsimp only at huses ⊢
    split at huses
    · rename_i habandon
      exact if_pos habandon
    · cases huses

/-- A controller or controllee is finalized with its cookie. -/
theorem mem_of_finalizes (ho : ∃ addr, o = .controller addr ∨ o = .controllee addr)
    (hfinalizes : s.finalizes k o = some c) : (o, some c) ∈ s.objects := by
  obtain ⟨addr, rfl | rfl⟩ := ho
  · obtain ⟨d, hd, hcookie⟩ := Option.bind_eq_some_iff.1 hfinalizes
    have haddr : d.addr = addr := by simpa using List.find?_some hd
    refine mem_objects.2 (.inl (mem_sessionObjects.2 (.inl ⟨d, List.mem_of_find?_eq_some hd, ?_⟩)))
    rw [haddr, hcookie]
  · obtain ⟨d, hd, hcookie⟩ := Option.bind_eq_some_iff.1 hfinalizes
    have haddr : d.addr = addr := by simpa using List.find?_some hd
    refine mem_objects.2 (.inl (mem_sessionObjects.2 (.inr ⟨d, List.mem_of_find?_eq_some hd, ?_⟩)))
    rw [haddr, hcookie]

/-- A call that is about a context finalizes the connection only when it closes the context at once. -/
theorem closing_of_finalizes (huses : call.uses = some .player ∨ call.uses = some .recorder)
    (hc : call.finalizes s k out = some c) : ∃ p ∈ call.closing, ClosesAtOnce out.graphOutcomes p.1 ∧
      ((mediaServerGetData s.conns k).bind s.graph.context).bind MediaFilterPriv.cookie = some c := by
  cases call with
  | player target cmd arg len | recorder target cmd arg len =>
    have hc : (if cmd.map text = some "close".toList ∧ ClosesAtOnce out.graphOutcomes (arg.map text) then _
        else none) = some c := hc
    split at hc
    · rename_i hclose
      exact ⟨_, if_pos hclose.1, hclose.2, hc⟩
    · cases hc
  | graph target cmd arg len => rcases huses with h | h <;> cases h
  | session target cmd arg len =>
    rcases huses with h | h
    all_goals
      obtain ⟨c, -, hkind⟩ := Option.bind_eq_some_iff.1 h
      cases c <;> cases hkind
  | policy target cmd arg flags len | focus target cmd len =>
    unfold StubCall.uses at huses
    dsimp only at huses
    split at huses <;> rcases huses with h | h <;> cases h

/-- A context lets go of its connection only when it is closed. -/
theorem not_open_of_closes (hholds : r.server.Holds depth) (htaken : CloseTaken r.server h k call out)
    (hstep : serverStep r.server (.message k call out) = some r') (hc : r'.finalized = some c)
    (hnotify : NotifyOpen r.server c) {addr : Nat} (hdata : mediaServerGetData r.server.conns k = some addr)
    (huses : call.uses = some .player ∨ call.uses = some .recorder)
    (hmem : (.context addr, some c) ∈ r.server.objects)
    (hclosed : ∀ c', (ServerObject.context addr, some c') ∉ r'.server.objects) :
    ¬ (ServerObject.context addr).Open r'.server.objects (note r (.message k call out) r' h).closing := by
  intro hopen
  rcases open_context.1 hopen with ⟨c', hc'⟩ | ⟨-, hclosing⟩
  · exact hclosed c' hc'
  · rcases closing_back hclosing with hnew | ⟨hbefore, hcloses⟩
    · exact hnew ⟨_, hmem⟩
    · obtain ⟨-, -, g, hg, rfl⟩ := serverStep_message hstep
      rw [serverStep_finalizes hholds hstep] at hc
      obtain ⟨⟨arg, len⟩, hcall, hatOnce, hcookie⟩ := closing_of_finalizes huses hc
      obtain ⟨ctx, hctx, hcookie⟩ := Option.bind_eq_some_iff.1 hcookie
      have hctx' := hctx
      rw [hdata] at hctx'
      obtain ⟨-, rfl⟩ := mem_of_context hctx'
      have hret := (htaken _ hcall hatOnce ctx hctx c hcookie hnotify).resolve_left (by rw [hbefore]; nofun)
      refine hcloses ((if_pos ⟨?_, ?_⟩).trans hdata)
      · rw [Option.mem_def.1 hcall]
        rfl
      · rw [← mediaStubHandle_closing hg hcall ctx hctx] at hret
        exact hret

/-- A step with which a connection with a notify socket is finalized gives up an object that refers to this connection,
or closes its context, or serves a command of the connection that is about subscriptions or the focus. -/
theorem serverStep_finalized (hholds : r.server.Holds depth) (hkeeps : KeepsHandles r.server h i)
    (hstep : serverStep r.server i = some r') (hc : r'.finalized = some c) (hnotify : NotifyOpen r.server c) :
    (∃ o, (o, some c) ∈ r.server.objects ∧ (∀ addr, o ≠ .subscription addr) ∧
        ¬ o.Open r'.server.objects (note r i r' h).closing) ∨
      ∃ call out, i = .message c call out ∧ (call.uses = some .subscription ∨
        call.uses = some .focus ∧
          ∀ o ∈ focusEntry (mediaServerGetData r.server.conns c), ¬ Has r'.server.objects o) := by
  have hserved := serverStep_served hholds hstep
  obtain ⟨created, heffect, -⟩ := hserved.effect
  cases hreleases : i.releases r.server with
  | none =>
    -- Nothing is released, and a connection is finalized all the same: no entry found, or a "close" still to be done.
    obtain ⟨k, call, out, rfl, halone⟩ := hserved.alone hreleases c hc
    rcases halone with ⟨rfl, huses⟩ | ⟨addr, hdata, huses, hmem, hclosed⟩
    · refine .inr ⟨call, out, rfl, ?_⟩
      rcases huses with hfocus | ⟨hsubscription, -⟩
      · refine .inr ⟨hfocus, fun o ho => ?_⟩
        have hentry : call.releases (mediaServerGetData r.server.conns c) = none := Option.map_eq_none_iff.1 hreleases
        rw [releases_of_focus hfocus] at hentry
        rw [hentry] at ho
        cases ho
      · exact .inl hsubscription
    · exact .inl ⟨_, hmem, nofun, not_open_of_closes hholds hkeeps.2.2 hstep hc hnotify hdata huses hmem hclosed⟩
  | some p =>
    have hfinalized := hserved.finalized p hreleases
    have hgone : ¬ Has r'.server.objects p.1 := heffect.released p.1 (by rw [hreleases]; rfl)
    cases i with
    | message k call out =>
      -- An object of the session refers to its connection by the cookie; the other two by the connection served.
      obtain ⟨o, ho, rfl⟩ := Option.map_eq_some_iff.1 hreleases
      rw [hc] at hfinalized
      rcases releases_cases ho with hobject | ⟨huses, addr, rfl⟩ | ⟨huses, hentry⟩
      · refine .inl ⟨o, mem_of_finalizes hobject hfinalized.symm, ?_, fun hopen => hgone hopen.has⟩
        obtain ⟨addr, rfl | rfl⟩ := hobject <;> exact nofun
      · cases hfinalized
        exact .inr ⟨call, out, rfl, .inl huses⟩
      · have hk : r.server.finalizes k o = some k := by
          unfold focusEntry at hentry
          split at hentry
          · cases hentry
          · cases hentry
            rfl
        rw [hk] at hfinalized
        cases hfinalized
        refine .inr ⟨call, out, rfl, .inr ⟨huses, fun o' ho' => ?_⟩⟩
        rw [hentry] at ho'
        cases ho'
        exact hgone
    | filterEvent addr event result extra =>
      cases event with
      | closed =>
        cases hreleases
        rw [hc] at hfinalized
        obtain ⟨ctx, hctx, hcookie⟩ := Option.bind_eq_some_iff.1 hfinalized.symm
        obtain ⟨hmem, rfl⟩ := mem_of_context hctx
        refine .inl ⟨.context ctx.addr, ?_, nofun, fun hopen => hgone hopen.has⟩
        rw [← hcookie]
        exact mem_objects.2 (.inr (.inl (List.mem_map_of_mem hmem)))
      | _ => cases hreleases
    | _ => cases hreleases

/-! ### Focus handles -/

section Focus

variable {n : Nat}

theorem focusHandle_focusWord (n : Nat) : focusHandle (some (focusWord (idToHandle n))) = idToHandle n :=
  (BitVec.ofNat_toNat ..).trans (BitVec.setWidth_eq _)

theorem focusEntry_focusWord (hn : 65536 * n + 15 < 2147483648) :
    focusEntry (some (focusWord (idToHandle n))) = some (.focus n) := by
  unfold focusEntry
  rw [focusHandle_focusWord, idToHandle_toInt hn, handleToId_idToHandle hn, if_neg]
  simp only [ID_SHIFT]
  omega

theorem object_focusWord (hn : 65536 * n + 15 < 2147483648) :
    HandleKind.focus.object (focusWord (idToHandle n)) = .focus n := by
  have hword : BitVec.ofNat 32 (focusWord (idToHandle n)) = idToHandle n := focusHandle_focusWord n
  unfold HandleKind.object
  dsimp only
  rw [hword, handleToId_idToHandle hn]

/-- The entries of the stack have the numbers of its slots. -/
theorem focus_lt_depth (hholds : s.Holds depth) (hhas : Has s.objects (.focus n)) : n < depth := by
  obtain ⟨hs, H, -⟩ := hholds
  obtain ⟨c, hc⟩ := hhas
  rcases mem_objects.1 hc with h | h | h | h
  · obtain ⟨addr, h | h⟩ := of_has_sessionObjects ⟨_, h⟩ <;> cases h
  · obtain ⟨addr, h⟩ := of_has_graphObjects ⟨_, h⟩
    cases h
  · obtain ⟨addr, h⟩ := of_has_policyObjects ⟨_, h⟩
    cases h
  · rw [H.objects] at h
    obtain ⟨holder, hmem, heq⟩ := List.mem_map.1 h
    have hslot : (holder.slot : Int) = n := ServerObject.focus.inj (congrArg Prod.fst heq)
    have hlt := H.slot_lt holder hmem
    omega

end Focus

/-! ### Handles that are kept -/

theorem not_newSlot_of_inUse (huse : s.InUse c) : i.newSlot s ≠ some c := by
  intro hslot
  cases i with
  | accept newFd =>
    obtain ⟨-, conn, hconn, havailable⟩ := acceptedSlot_spec hslot
    exact available_not_inUse hconn havailable huse
  | _ => cases hslot

theorem inUse_kept (hholds : s.Holds depth) (hstep : serverStep s i = some r) (huse : s.InUse c)
    (hhangup : i ≠ .hangup c) : r.server.InUse c := by
  obtain ⟨conn, hconn, hpos⟩ := id huse
  have hentry := serverStep_entry hstep hholds c
  rw [Option.mem_def.1 hconn, Option.map_some] at hentry
  rw [inUse_iff hentry, entry_tranFd conn (not_newSlot_of_inUse huse) hhangup]
  exact hpos

theorem finalize_data {conn : MediaServerConn} (hconn : s.conns[c]? = some conn)
    (hfinalized : r.finalized = some c → ¬ NotifyOpen s c) (data : Option Nat) :
    (if r.finalized = some c then mediaServerConnFinalize { conn with data } else { conn with data }).data = data := by
  split
  · rename_i hc
    rw [mediaServerConnFinalize_data, if_neg]
    rw [← notifyOpen_iff hconn]
    exact hfinalized hc
  · rfl

/-- A connection keeps its handle if nothing else is stored, and it is not finalized with an open notify socket. -/
theorem data_kept (hholds : s.Holds depth) (hstep : serverStep s i = some r) (huse : s.InUse c)
    (hstores : i.stores r c = none) (hfinalized : r.finalized = some c → ¬ NotifyOpen s c) :
    mediaServerGetData r.server.conns c = mediaServerGetData s.conns c := by
  obtain ⟨conn, hconn, -⟩ := id huse
  have hentry := serverStep_entry hstep hholds c
  rw [Option.mem_def.1 hconn, Option.map_some] at hentry
  rw [getData_eq hentry, getData_eq hconn]
  have hfinalize := finalize_data hconn hfinalized conn.data
  unfold ServerInput.entry
  cases i with
  | accept newFd =>
    have hslot : acceptedSlot s newFd ≠ some c := not_newSlot_of_inUse (i := .accept newFd) huse
    dsimp only
    rw [if_neg hslot]
  | message k call out =>
    have hnot : ¬ (k = c ∧ r.stored.isSome) := by
      intro hstored
      unfold ServerInput.stores at hstores
      dsimp only at hstores
      rw [if_pos hstored] at hstores
      cases hstores
    dsimp only
    rw [if_neg hnot]
    exact hfinalize
  | createNotify k fd =>
    dsimp only
    split <;> rfl
  | hangup k =>
    dsimp only
    split <;> rfl
  | filterEvent addr event result extra => exact hfinalize
  | policyChange addr number literal => rfl

theorem data_stored (hholds : s.Holds depth) (hstep : serverStep s (.message k call out) = some r) {word : Nat}
    (hstored : r.stored = some word) (hfinalized : r.finalized = some k → ¬ NotifyOpen s k) :
    mediaServerGetData r.server.conns k = some word := by
  obtain ⟨conn, hconn, -⟩ := (serverStep_message hstep).1
  have hentry := serverStep_entry hstep hholds k
  rw [Option.mem_def.1 hconn, Option.map_some] at hentry
  rw [getData_eq hentry]
  have hfinalize := finalize_data hconn hfinalized r.stored
  have hserved : True ∧ r.stored.isSome := ⟨trivial, hstored ▸ rfl⟩
  unfold ServerInput.entry
  simp only [if_pos hserved]
  exact hfinalize.trans hstored

/-! ### Every object has its handle -/

/-- Objects that have to be released refer to the one entry that has their handle, and the focus handles were given
out. -/
structure HandlesOwn (depth : Nat) (r : ServerResult) (h : ServerRecord) : Prop where
  held : ∀ o : ServerObject, o.Open r.server.objects h.closing → ∃ c, r.server.InUse c ∧
    h.denoted r.server.conns c = some o ∧ h.owner o = h.client c ∧
      (∀ c', h.denoted r.server.conns c' = some o → c' = c) ∧ ∀ c', (o, some c') ∈ r.server.objects → c' = c
  words : ∀ c word, h.stored c = some .focus → mediaServerGetData r.server.conns c = some word →
    ∃ n < 2 * depth, word = focusWord (idToHandle n)

theorem denoted_eq {word : Nat} {kind : HandleKind} (hdata : mediaServerGetData s.conns c = some word)
    (hkind : h.stored c = some kind) : h.denoted s.conns c = some (kind.object word) := by
  unfold denoted
  rw [hdata, hkind]
  rfl

theorem of_denoted (hdenoted : h.denoted s.conns c = some o) :
    ∃ word kind, mediaServerGetData s.conns c = some word ∧ h.stored c = some kind ∧ o = kind.object word := by
  obtain ⟨word, hdata, hobject⟩ := Option.bind_eq_some_iff.1 hdenoted
  obtain ⟨kind, hkind, rfl⟩ := Option.map_eq_some_iff.1 hobject
  exact ⟨word, kind, hdata, hkind, rfl⟩

/-- What a handle stands for afterwards is what it stood for before, unless the step has stored it. -/
theorem denoted_back (hholds : r.server.Holds depth) (hstep : serverStep r.server i = some r')
    (hdenoted : (note r i r' h).denoted r'.server.conns c = some o) :
    (∃ call out kind word, i = .message c call out ∧ call.creates = some kind ∧ r'.stored = some word ∧
      o = kind.object word) ∨ i.stores r' c = none ∧ h.denoted r.server.conns c = some o := by
  obtain ⟨word, kind, hdata, hkind, rfl⟩ := of_denoted hdenoted
  obtain ⟨hslot, hback⟩ := serverStep_data hstep hholds hdata
  simp only [note, if_neg hslot] at hkind
  rcases hback with ⟨hstores, hstored⟩ | ⟨hstores, hdata, -⟩
  · obtain ⟨call, out, rfl, hcreates⟩ := ServerInput.exists_of_stores hstores
    rw [hcreates] at hkind
    exact .inl ⟨call, out, kind, word, rfl, hkind, hstored, rfl⟩
  · rw [hstores] at hkind
    exact .inr ⟨hstores, denoted_eq hdata hkind⟩

theorem creates_of_stores (hholds : r.server.Holds depth) (hstep : serverStep r.server i = some r')
    (hstores : i.stores r' c ≠ none) : ∃ call out kind, i = .message c call out ∧ call.creates = some kind := by
  obtain ⟨call, out, rfl, -⟩ := ServerInput.exists_of_stores (Option.isSome_iff_ne_none.2 hstores)
  have hstored : r'.stored.isSome := by
    unfold ServerInput.stores at hstores
    dsimp only at hstores
    by_contra hnone
    exact hstores (if_neg fun hand => hnone hand.2)
  obtain ⟨kind, hkind⟩ := Option.isSome_iff_exists.1 ((stores_isSome hholds hstep).1 hstored).1
  exact ⟨call, out, kind, rfl, hkind⟩

/-- A connection is only finalized with its object, when its handle is the right one for its command. -/
theorem HandlesOwn.not_open (hdepth : 2 * depth * 2 ^ 16 < 2 ^ 31) (hown : HandlesOwn depth r h)
    (hholds : r.server.Holds depth) (hkeeps : KeepsHandles r.server h i) (hstep : serverStep r.server i = some r')
    (hopen : o.Open r.server.objects h.closing) (hdenoted : h.denoted r.server.conns c = some o)
    (hfinalized : r'.finalized = some c) (hnotify : NotifyOpen r.server c) :
    ¬ o.Open r'.server.objects (note r i r' h).closing := by
  rcases serverStep_finalized hholds hkeeps hstep hfinalized hnotify with
    ⟨o', hmem, hsubscription, hclosed⟩ | ⟨call, out, rfl, huses⟩
  · -- the object refers to the connection, so it is the one of its handle
    obtain ⟨c', -, hdenoted', -, -, hrefers⟩ := hown.held o' (open_of_mem hmem hsubscription)
    obtain rfl := hrefers c hmem
    rw [hdenoted] at hdenoted'
    cases hdenoted'
    exact hclosed
  · have hkind := hkeeps.2.1 (huses.symm.imp And.left id) ⟨o, hdenoted, hopen⟩ hnotify
    obtain ⟨word, kind, hdata, hstored, rfl⟩ := of_denoted hdenoted
    rw [hstored] at hkind
    rcases huses with huses | ⟨huses, hgone⟩
    · rw [huses] at hkind
      cases hkind
      exact hopen.elim
    · rw [huses] at hkind
      cases hkind
      obtain ⟨n, hn, rfl⟩ := hown.words c word hstored hdata
      have hfits := handle_fits hdepth hn
      intro hafter
      rw [object_focusWord hfits] at hafter
      refine hgone (.focus n) ?_ hafter.has
      rw [hdata]
      exact focusEntry_focusWord hfits

/-- An object that has to be released before and after a step keeps its entry. -/
theorem HandlesOwn.held_kept (hdepth : 2 * depth * 2 ^ 16 < 2 ^ 31) (hown : HandlesOwn depth r h)
    (hholds : r.server.Holds depth) (hkeeps : KeepsHandles r.server h i) (hstep : serverStep r.server i = some r')
    (hbefore : o.Open r.server.objects h.closing) (hafter : o.Open r'.server.objects (note r i r' h).closing) :
    ∃ c, r'.server.InUse c ∧ (note r i r' h).denoted r'.server.conns c = some o ∧
      (note r i r' h).owner o = (note r i r' h).client c ∧
        (∀ c', (note r i r' h).denoted r'.server.conns c' = some o → c' = c) ∧
          ∀ c', (o, some c') ∈ r'.server.objects → c' = c := by
  obtain ⟨c, huse, hdenoted, howner, honly, hrefers⟩ := hown.held o hbefore
  obtain ⟨created, heffect, hfresh, hcreated⟩ := (serverStep_served hholds hstep).effect
  have hopen : HoldsOpen r.server h c := ⟨o, hdenoted, hbefore⟩
  have hslot : i.newSlot r.server ≠ some c := not_newSlot_of_inUse huse
  have hnew : created ≠ some o := fun heq => hfresh o heq hbefore.has
  have hhangup : i ≠ .hangup c := by
    rintro rfl
    exact hkeeps hopen
  have hstores : i.stores r' c = none := by
    by_contra hstores
    obtain ⟨call, out, kind, rfl, hkind⟩ := creates_of_stores hholds hstep hstores
    exact (hkeeps.1 kind hkind).1 hopen
  have hfinalized : r'.finalized = some c → ¬ NotifyOpen r.server c := fun hc hnotify =>
    hown.not_open hdepth hholds hkeeps hstep hbefore hdenoted hc hnotify hafter
  refine ⟨c, inUse_kept hholds hstep huse hhangup, ?_, ?_, fun c' hdenoted' => ?_, fun c' hmem => ?_⟩
  · obtain ⟨word, kind, hdata, hkind, rfl⟩ := of_denoted hdenoted
    refine denoted_eq ((data_kept hholds hstep huse hstores hfinalized).trans hdata) ?_
    simp only [note, if_neg hslot, hstores]
    exact hkind
  · simp only [note, if_neg hslot]
    rw [recordOwners_of_has hbefore.has]
    exact howner
  · rcases denoted_back hholds hstep hdenoted' with ⟨call, out, kind, word, rfl, hkind, hstored, rfl⟩ | ⟨-, hdenoted'⟩
    · -- a handle that was stored is for a new object, or for none
      rcases hcreated with ⟨-, hnone⟩ | ⟨kind', word', hkind', hstored', hcreated⟩
      · rw [hstored] at hnone
        cases hnone
      · rw [hstored] at hstored'
        cases hstored'
        cases hkind.symm.trans hkind'
        rcases hcreated with ⟨-, -, hcreated⟩ | ⟨rfl, n, hn, -, rfl, hcreated⟩
        · exact absurd hcreated hnew
        · rw [object_focusWord (handle_fits hdepth hn)] at hnew hbefore
          rw [if_pos (focus_lt_depth hholds hbefore.has)] at hcreated
          exact absurd hcreated hnew
    · exact honly c' hdenoted'
  · rcases heffect.refers o c' hmem with hmem | ⟨heq, -⟩
    · exact hrefers c' hmem
    · exact absurd heq hnew

/-- A new object has its handle at the connection that is served. -/
theorem HandlesOwn.held_new (hdepth : 2 * depth * 2 ^ 16 < 2 ^ 31) (hown : HandlesOwn depth r h)
    (hholds : r.server.Holds depth)
    (hkeeps : KeepsHandles r.server h i) (hstep : serverStep r.server i = some r') {created : Option ServerObject}
    (heffect : Effect i.served created ((i.releases r.server).map Prod.fst) r.server.objects r'.server.objects)
    (hfresh : ¬ Has r.server.objects o) (hstored : StoresCreated r.server depth i.alloc i.creates created r'.stored)
    (hcreated : created = some o) :
    ∃ c, r'.server.InUse c ∧ (note r i r' h).denoted r'.server.conns c = some o ∧
      (note r i r' h).owner o = (note r i r' h).client c ∧
        (∀ c', (note r i r' h).denoted r'.server.conns c' = some o → c' = c) ∧
          ∀ c', (o, some c') ∈ r'.server.objects → c' = c := by
  obtain ⟨k, call, out, rfl⟩ := ServerInput.message_of_creates
    (hstored.creates (hcreated ▸ Option.some_ne_none o))
  have huse : r.server.InUse k := (serverStep_message hstep).1
  rcases hstored with ⟨hnone, -⟩ | ⟨kind, word, hkind, hword, hobject⟩
  · rw [hcreated] at hnone
    cases hnone
  have hkind : call.creates = some kind := hkind
  obtain ⟨hidle, hunheld⟩ := hkeeps.1 kind hkind
  -- the handle stands for the object, and no other entry has led to it
  have hdenotes : kind.object word = o ∧ ∀ c < r.server.conns.length, c ≠ k → h.denoted r.server.conns c ≠ some o := by
    rcases hobject with ⟨hpointer, halloc, hobject⟩ | ⟨rfl, n, hn, hfree, rfl, hobject⟩
    · rw [hcreated] at hobject
      cases hobject
      refine ⟨rfl, fun c hc hck hdenoted => ?_⟩
      have hother := hunheld c hc hck _ hdenoted
      rw [if_neg hpointer] at hother
      have halloc : out.alloc = some word := halloc
      exact hother (by rw [halloc]; rfl)
    · rw [hcreated] at hobject
      by_cases hlt : n < depth
      · rw [if_pos hlt] at hobject
        cases hobject
        refine ⟨object_focusWord (handle_fits hdepth hn), fun c hc hck hdenoted => ?_⟩
        have hother := hunheld c hc hck _ hdenoted
        rw [if_pos rfl, hfree hlt] at hother
        exact hother rfl
      · rw [if_neg hlt] at hobject
        cases hobject
  obtain ⟨rfl, hother⟩ := hdenotes
  have hfinalized : r'.finalized = some k → ¬ NotifyOpen r.server k := by
    intro hk hnotify
    rcases serverStep_finalized hholds hkeeps hstep hk hnotify with
      ⟨o', hmem, hsubscription, -⟩ | ⟨call', out', heq, huses⟩
    · have hopen : o'.Open r.server.objects h.closing := open_of_mem hmem hsubscription
      obtain ⟨c, -, hdenoted, -, -, hrefers⟩ := hown.held o' hopen
      obtain rfl := hrefers k hmem
      exact absurd ⟨o', hdenoted, hopen⟩ hidle
    · cases heq
      have hnone : call.creates = none := by
        rcases huses with huses | ⟨huses, -⟩ <;> exact creates_eq_none_of_uses huses
      rw [hnone] at hkind
      cases hkind
  have hstores : ServerInput.stores r' k (.message k call out) = some (some kind) := by
    unfold ServerInput.stores
    dsimp only
    rw [if_pos ⟨rfl, hword ▸ rfl⟩, hkind]
  refine ⟨k, inUse_kept hholds hstep huse nofun, ?_, ?_, fun c' hdenoted => ?_, fun c' hmem => ?_⟩
  · refine denoted_eq (data_stored hholds hstep hword hfinalized) ?_
    simp only [note, hstores, ServerInput.newSlot, reduceCtorEq, if_false]
    rfl
  · simp only [note, ServerInput.newSlot, reduceCtorEq, if_false]
    exact if_pos ⟨heffect.created _ hcreated, hfresh⟩
  · by_contra hck
    rcases denoted_back hholds hstep hdenoted with ⟨call', out', _, _, heq, -⟩ | ⟨-, hdenoted⟩
    · cases heq
      exact hck rfl
    · obtain ⟨word', kind', hdata, -, -⟩ := of_denoted hdenoted
      obtain ⟨conn, hconn, -⟩ := Option.bind_eq_some_iff.1 hdata
      exact hother c' (List.getElem?_eq_some_iff.1 hconn).1 hck hdenoted
  · rcases heffect.refers _ c' hmem with hmem | ⟨-, rfl⟩
    · exact absurd ⟨_, hmem⟩ hfresh
    · rfl

theorem HandlesOwn.step (hdepth : 2 * depth * 2 ^ 16 < 2 ^ 31) (hsound : Sound depth r h) (hown : HandlesOwn depth r h)
    (hkeeps : KeepsHandles r.server h i) (hstep : serverStep r.server i = some r') :
    HandlesOwn depth r' (note r i r' h) := by
  have hholds := hsound.holds
  obtain ⟨created, heffect, hfresh, hstored⟩ := (serverStep_served hholds hstep).effect
  constructor
  · intro o hopen
    rcases open_back heffect hopen with hbefore | hcreated
    · exact hown.held_kept hdepth hholds hkeeps hstep hbefore hopen
    · exact hown.held_new hdepth hholds hkeeps hstep heffect (hfresh o hcreated) hstored hcreated
  · intro c word hkind hdata
    obtain ⟨hslot, hback⟩ := serverStep_data hstep hholds hdata
    simp only [note, if_neg hslot] at hkind
    rcases hback with ⟨hstores, hword⟩ | ⟨hstores, hdata, -⟩
    · obtain ⟨call, out, rfl, hcreates⟩ := ServerInput.exists_of_stores hstores
      rw [hcreates] at hkind
      have hkind : call.creates = some .focus := hkind
      rcases hstored with ⟨-, hnone⟩ | ⟨kind', word', hkind', hword', hobject⟩
      · rw [hword] at hnone
        cases hnone
      · cases hkind.symm.trans hkind'
        cases hword.symm.trans hword'
        rcases hobject with ⟨hpointer, -⟩ | ⟨-, n, hn, -, hfocus, -⟩
        · exact absurd rfl hpointer
        · exact ⟨n, hn, hfocus⟩
    · rw [hstores] at hkind
      exact hown.words c word hkind hdata

theorem HandlesOwn.noOrphans (hsound : Sound depth r h) (hown : HandlesOwn depth r h) : NoOrphans r h := by
  constructor
  · intro o hopen
    obtain ⟨c, huse, hdenoted, howner, honly, -⟩ := hown.held o hopen
    exact ⟨c, huse, hdenoted, howner, honly⟩
  · intro o o' hopen hopen' heq
    obtain ⟨c, huse, hdenoted, howner, -⟩ := hown.held o hopen
    obtain ⟨c', huse', hdenoted', howner', -⟩ := hown.held o' hopen'
    have hclient : h.client c = h.client c' := by rw [← howner, ← howner', heq]
    obtain rfl := hsound.client_inj c c' huse huse' hclient
    exact Option.some.inj (hdenoted.symm.trans hdenoted')

theorem handlesOwn_init (maxConn : Nat) (filters : List AVFilterContext) (t : InteractionTable) (depth : Nat) :
    HandlesOwn depth (mediaServerMachine maxConn filters t depth).start {} := by
  have hobjects : (mediaServerInit maxConn filters t depth).objects = [] := (holds_init depth).objects
  constructor
  · intro o hopen
    have hhas : Has (mediaServerInit maxConn filters t depth).objects o := hopen.has
    rw [hobjects] at hhas
    exact absurd hhas (not_has_nil o)
  · intro c word hkind _
    cases hkind

/-- In every run in which no handle is given away, every object that has to be released is the handle of exactly one
entry, the one of its client. -/
theorem serverRuns_noOrphans (hdepth : 2 * depth * 2 ^ 16 < 2 ^ 31) {p : ServerResult × ServerRecord}
    (hp : ReachableVia (serverRuns maxConn filters t depth) (fun p i => KeepsHandles p.1.server p.2 i) p) :
    NoOrphans p.1 p.2 := by
  obtain ⟨hsound, hown⟩ := serverRuns_invariant (P := HandlesOwn depth) (handlesOwn_init ..)
    (fun _ _ _ _ hsound hown hkeeps hstep => hown.step hdepth hsound hkeeps hstep) hp
  exact hown.noOrphans hsound

/-- A client registers a controllee and leaves. -/
def sampleOrphanRun : List ServerInput :=
  [.accept 5, .createNotify 0 6, .message 0 (.session none (some (sampleText "register")) none 0) { alloc := some 64 },
    .hangup 0]

def sampleOrphanState : ServerResult × ServerRecord :=
  ((serverRuns 1 [] sampleTable 8).runFrom (fun _ _ => True) (serverRuns 1 [] sampleTable 8).start
    sampleOrphanRun).get (by decide)

/-- The controllee stays in the list, and nobody can unregister it. -/
theorem controllee_orphaned : ¬ ∀ maxConn filters t depth p,
    Reachable (serverRuns maxConn filters t depth) p → NoOrphans p.1 p.2 := by
  intro h
  have hnone := h 1 [] sampleTable 8 sampleOrphanState (reachableVia_get (by decide))
  obtain ⟨c, huse, hdenoted, -⟩ := hnone.held (.controllee 64) (by decide)
  have hlt : c < sampleOrphanState.1.server.conns.length := by
    obtain ⟨conn, hconn, -⟩ := huse
    exact (List.getElem?_eq_some_iff.1 hconn).1
  have hidle : ∀ c < sampleOrphanState.1.server.conns.length, ¬ sampleOrphanState.1.server.InUse c := by decide
  exact hidle c hlt huse

/-- The client unregisters the controllee before it leaves; another one has the focus. -/
def sampleReleaseRun : List ServerInput :=
  [.accept 5, .createNotify 0 6, .message 0 (.session none (some (sampleText "register")) none 0) { alloc := some 64 },
    .accept 7, .message 1 (.focus (some (sampleText "Media")) (some (sampleText "request")) 0) {},
    .message 0 (.session none (some (sampleText "unregister")) none 0) {}, .hangup 0]

theorem serverRuns_noOrphans_release :
    let p := ((serverRuns 2 [] sampleTable 8).runFrom (fun p i => KeepsHandles p.1.server p.2 i)
      (serverRuns 2 [] sampleTable 8).start sampleReleaseRun).get (by decide)
    NoOrphans p.1 p.2 :=
  serverRuns_noOrphans (by decide) (reachableVia_get (by decide))

/-! ### Entries that are free again

The server does not watch the notify sockets.  `closed` says which connections have clients that close their notify
socket, or never ask for one.
-/

variable {closed : Nat → Prop}

/-- Nobody is connected: no entry has a trans socket, and the last client of each has closed its notify socket. -/
def Disconnected (closed : Nat → Prop) (r : ServerResult) (h : ServerRecord) : Prop :=
  ∀ c conn, r.server.conns[c]? = some conn → conn.tranFd ≤ 0 ∧ (conn.tranFd < 0 → closed (h.client c))

/-- The entry of a client that has closed both sockets is free, and there is an entry for a new connection when nobody is
connected. -/
structure SlotsReclaimed (closed : Nat → Prop) (r : ServerResult) (h : ServerRecord) : Prop where
  available : ∀ c conn, r.server.conns[c]? = some conn → conn.tranFd < 0 → closed (h.client c) → conn.Available
  accepts : r.server.conns ≠ [] → Disconnected closed r h → ∀ newFd, 0 ≤ newFd →
    (mediaServerAccept r.server.conns newFd).1 = 0

/-- When a client ends its connection that closes its notify socket too, it has asked for none, or the connection was
finalized after it had asked the last time. -/
def FinalizedBefore (closed : Nat → Prop) (h : ServerRecord) : ServerInput → Prop
  | .hangup k => closed (h.client k) → h.notified k = false
  | _ => True

instance [DecidablePred closed] (h : ServerRecord) : (i : ServerInput) → Decidable (FinalizedBefore closed h i)
  | .hangup _ => inferInstanceAs (Decidable (_ → _))
  | .accept _ | .message _ _ _ | .createNotify _ _ | .filterEvent _ _ _ _ | .policyChange _ _ _ =>
    inferInstanceAs (Decidable True)

/-- The entries with a notify socket are those of which the record says so. -/
def NotifiedOpen (r : ServerResult) (h : ServerRecord) : Prop :=
  ∀ c conn, r.server.conns[c]? = some conn → (0 < conn.notifyFd ↔ h.notified c = true)

theorem finalize_notifyFd (conn : MediaServerConn) (b : Prop) [Decidable b] :
    0 < (if b then mediaServerConnFinalize conn else conn).notifyFd ↔ 0 < conn.notifyFd ∧ ¬ b := by
  by_cases hb : b
  · rw [if_pos hb]
    have := mediaServerConnFinalize_notifyFd conn
    exact iff_of_false (Int.not_lt.2 this) (fun h => h.2 hb)
  · rw [if_neg hb]
    exact (and_iff_left hb).symm

/-- A socket for notifications comes of `CREATE_NOTIFY`, and goes when the connection is finalized. -/
theorem NotifiedOpen.step (hsound : Sound depth r h) (hopen : NotifiedOpen r h)
    (hstep : serverStep r.server i = some r') : NotifiedOpen r' (note r i r' h) := by
  intro c conn' hconn'
  have hfinalizes := serverStep_finalizes hsound.holds hstep
  rw [serverStep_entry hstep hsound.holds] at hconn'
  obtain ⟨conn, hconn, rfl⟩ := Option.map_eq_some_iff.1 hconn'
  have hbefore := hopen c conn hconn
  simp only [note]
  by_cases hslot : i.newSlot r.server = some c
  · -- the entry was free
    rw [if_pos hslot]
    cases i with
    | accept newFd =>
      obtain ⟨-, conn₁, hconn₁, havailable⟩ := acceptedSlot_spec hslot
      obtain rfl : conn = conn₁ := Option.some.inj (hconn.symm.trans hconn₁)
      have hfree : conn.notifyFd ≤ 0 := havailable.elim (hsound.unused c conn hconn) And.right
      have hslot : acceptedSlot r.server newFd = some c := hslot
      simp only [ServerInput.entry, if_pos hslot]
      exact iff_of_false (Int.not_lt.2 hfree) Bool.false_ne_true
    | _ => cases hslot
  · rw [if_neg hslot]
    cases i with
    | accept newFd =>
      have hslot : acceptedSlot r.server newFd ≠ some c := hslot
      simp only [ServerInput.entry, if_neg hslot, ServerInput.getsNotify, ServerInput.finalizes, hbefore]
      simp
    | message k call out =>
      simp only [ServerInput.entry, ServerInput.getsNotify, finalize_notifyFd, hfinalizes]
      split <;> simp [hbefore]
    | createNotify k fd =>
      simp only [ServerInput.entry, ServerInput.getsNotify, ServerInput.finalizes]
      by_cases hk : k = c
      · simp [hk, MediaServerConn.createNotify]
      · simp [hk, hbefore]
    | hangup k =>
      simp only [ServerInput.entry, ServerInput.getsNotify, ServerInput.finalizes]
      split <;> simp [MediaServerConn.close, hbefore]
    | filterEvent addr event result extra =>
      simp only [ServerInput.entry, ServerInput.getsNotify, finalize_notifyFd, hfinalizes]
      simp [hbefore]
    | policyChange addr number literal =>
      simp only [ServerInput.entry, ServerInput.getsNotify, ServerInput.finalizes]
      simp [hbefore]

/-- No notify socket is left behind. -/
def NoneLeft (closed : Nat → Prop) (r : ServerResult) (h : ServerRecord) : Prop :=
  ∀ c conn, r.server.conns[c]? = some conn → conn.tranFd < 0 → closed (h.client c) → conn.notifyFd ≤ 0

theorem entry_closed {conn : MediaServerConn} (hneg : (i.entry s r c conn).tranFd < 0) :
    i = .hangup c ∨ i.newSlot s ≠ some c ∧ conn.tranFd < 0 := by
  by_cases hhangup : i = .hangup c
  · exact .inl hhangup
  · by_cases hslot : i.newSlot s = some c
    · cases i with
      | accept newFd =>
        have hslot : acceptedSlot s newFd = some c := hslot
        simp only [ServerInput.entry, if_pos hslot] at hneg
        exact absurd (acceptedSlot_spec hslot).1 (Int.not_le.2 hneg)
      | _ => cases hslot
    · rw [entry_tranFd conn hslot hhangup] at hneg
      exact .inr ⟨hslot, hneg⟩

theorem NoneLeft.step (hsound : Sound depth r h) (hnotified : NotifiedOpen r h) (hnone : NoneLeft closed r h)
    (hclosed : FinalizedBefore closed h i) (hstep : serverStep r.server i = some r') :
    NoneLeft closed r' (note r i r' h) := by
  intro c conn' hconn' hneg hclient
  by_contra hpos
  have hopen : NotifyOpen r'.server c := (notifyOpen_iff hconn').2 (Int.not_le.1 hpos)
  rw [serverStep_entry hstep hsound.holds] at hconn'
  obtain ⟨conn, hconn, rfl⟩ := Option.map_eq_some_iff.1 hconn'
  rcases serverStep_notifyOpen hstep hsound.holds hopen with ⟨fd, -, rfl⟩ | ⟨hbefore, -⟩
  · -- only a connection in use gets a notify socket
    obtain ⟨huse, -⟩ := serverStep_createNotify hstep
    rw [entry_tranFd (i := .createNotify c fd) conn nofun nofun] at hneg
    rw [inUse_iff hconn] at huse
    omega
  · rcases entry_closed hneg with rfl | ⟨hslot, hneg⟩
    · have hclient : closed (h.client c) := hclient
      have hasked : h.notified c = false := hclosed hclient
      rw [notifyOpen_iff hconn, hnotified c conn hconn, hasked] at hbefore
      cases hbefore
    · simp only [note, if_neg hslot] at hclient
      rw [notifyOpen_iff hconn] at hbefore
      exact absurd hbefore (Int.not_lt.2 (hnone c conn hconn hneg hclient))

theorem NoneLeft.reclaimed (hnone : NoneLeft closed r h) : SlotsReclaimed closed r h := by
  have havailable : ∀ c conn, r.server.conns[c]? = some conn → conn.tranFd < 0 → closed (h.client c) → conn.Available :=
    fun c conn hconn hneg hclient => .inr ⟨hneg, hnone c conn hconn hneg hclient⟩
  refine ⟨havailable, fun hconns hidle newFd hfd => ?_⟩
  obtain ⟨conn, conns, hcons⟩ := List.exists_cons_of_ne_nil hconns
  have hfirst : r.server.conns[0]? = some conn := by rw [hcons]; rfl
  have hfree : conn.Available := by
    obtain ⟨hle, hclient⟩ := hidle 0 conn hfirst
    rcases Int.lt_or_eq_of_le hle with hneg | hzero
    · exact havailable 0 conn hfirst hneg (hclient hneg)
    · exact .inl hzero
  have hslot : acceptSlot r.server.conns = some 0 := by
    unfold acceptSlot
    rw [hcons, List.findIdx?_cons, if_pos (decide_eq_true hfree)]
  rw [mediaServerAccept_eq hfd, hslot]

/-- In every run in which the clients that close both sockets have asked for no notify socket, or are finalized after
that, their entries are free again. -/
theorem serverRuns_slotsReclaimed {p : ServerResult × ServerRecord}
    (hp : ReachableVia (serverRuns maxConn filters t depth) (fun p i => FinalizedBefore closed p.2 i) p) :
    SlotsReclaimed closed p.1 p.2 := by
  have hstart : NotifiedOpen (mediaServerMachine maxConn filters t depth).start {} ∧
      NoneLeft closed (mediaServerMachine maxConn filters t depth).start {} := by
    refine ⟨fun c conn hconn => ?_, fun c conn hconn hneg => ?_⟩
    · rw [mediaServerInit_conn hconn]
      exact iff_of_false (by decide) nofun
    · rw [mediaServerInit_conn hconn] at hneg
      exact absurd hneg (by decide)
  exact (serverRuns_invariant (P := fun r h => NotifiedOpen r h ∧ NoneLeft closed r h) hstart
    (fun _ _ _ _ hsound hinv hclosed hstep =>
      ⟨hinv.1.step hsound hstep, hinv.2.step hsound hinv.1 hclosed hstep⟩) hp).2.2.reclaimed

/-- A client that asks for a notify socket, and closes both sockets. -/
def sampleLostState : ServerResult × ServerRecord :=
  ((serverRuns 1 [] sampleTable 8).runFrom (fun _ _ => True) (serverRuns 1 [] sampleTable 8).start
    [.accept 5, .createNotify 0 6, .hangup 0]).get (by decide)

theorem slot_lost : ¬ ∀ closed maxConn filters t depth p,
    Reachable (serverRuns maxConn filters t depth) p → SlotsReclaimed closed p.1 p.2 := by
  intro h
  have hreclaimed := h (fun _ => True) 1 [] sampleTable 8 sampleLostState (reachableVia_get (by decide))
  exact absurd (hreclaimed.available 0 { tranFd := -EPERM, notifyFd := 6 } (by decide) (by decide) trivial) (by decide)

theorem serverRuns_slotsReclaimed_release :
    let p := ((serverRuns 2 [] sampleTable 8).runFrom (fun p i => FinalizedBefore (fun _ => True) p.2 i)
      (serverRuns 2 [] sampleTable 8).start sampleReleaseRun).get (by decide)
    SlotsReclaimed (fun _ => True) p.1 p.2 :=
  serverRuns_slotsReclaimed (reachableVia_get (by decide))

end MediaFramework
