import MediaFramework.Focus.FocusHandles
import MediaFramework.Server.SessionObjects

/-!
# The objects of the server

The objects that clients have in the modules, with the connections they refer to by their cookies, and what a request
does to them.
-/

namespace MediaFramework

open Registry

def graphObjects (g : MediaGraphPriv) : Objects := g.contexts.map fun c => (.context c.addr, c.cookie)

def policyObjects (policy : List PolicySubscriber) : Objects := policy.map fun p => (.subscription p.addr, p.cookie)

def focusObjects (s : AppFocusStack) : Objects :=
  s.entries.map fun i => (.focus (s.nodeList i).clientId, (s.nodeList i).callbackArgv)

def MediaServer.objects (s : MediaServer) : Objects :=
  sessionObjects s.session ++ graphObjects s.graph ++ policyObjects s.policy ++ focusObjects s.focus.stack

/-- The addresses of the objects that have one. -/
def MediaServer.addrs (s : MediaServer) : List Nat :=
  s.session.addrs ++ s.graph.contexts.map MediaFilterPriv.addr ++ s.policy.map PolicySubscriber.addr

/-! ### Players and recorders -/

section Graph

variable {g : MediaGraphPriv} {out : GraphOutcomes} {r : GraphResult} {k addr : Nat} {data : Option Nat}

theorem mem_of_context {ctx : MediaFilterPriv} (h : g.context addr = some ctx) : ctx ∈ g.contexts ∧ ctx.addr = addr :=
  ⟨List.mem_of_find?_eq_some h, by simpa using List.find?_some h⟩

/-- The context at an address has changed, but neither its address nor, if it has one still, its cookie. -/
theorem context_effect {ctx : MediaFilterPriv} (ctx' : MediaFilterPriv) (hctx : g.context addr = some ctx)
    (haddr : ctx'.addr = ctx.addr)
    (hcookie : ctx'.cookie = none ∨ ctx'.cookie = ctx.cookie) (k : Nat) :
    Effect k none none (graphObjects g)
      (graphObjects { g with contexts := g.contexts.map fun c => if c.addr = addr then ctx' else c }) := by
  obtain ⟨hmem, rfl⟩ := mem_of_context hctx
  have hlisted : (ServerObject.context ctx.addr, ctx.cookie) ∈ graphObjects g := List.mem_map_of_mem hmem
  refine .replace (fun p hp => ?_) fun p hp => ?_
  · simp only [graphObjects, List.map_map, List.mem_map, Function.comp] at hp
    obtain ⟨c, hc, rfl⟩ := hp
    by_cases heq : c.addr = ctx.addr
    · rw [if_pos heq, haddr]
      rcases hcookie with hnone | hsame
      · exact .inr ⟨hnone, _, hlisted⟩
      · exact .inl (hsame ▸ hlisted)
    · rw [if_neg heq]
      exact .inl (List.mem_map_of_mem hc)
  · obtain ⟨c, hc, rfl⟩ := List.mem_map.1 hp
    rw [has_iff]
    simp only [graphObjects, List.map_map, List.mem_map, Function.comp]
    refine ⟨c, hc, ?_⟩
    by_cases heq : c.addr = ctx.addr
    · rw [if_pos heq, haddr, heq]
    · rw [if_neg heq]

/-- A context without a cookie is in nobody's name. -/
theorem context_closed (ctx' : MediaFilterPriv) (hcookie : ctx'.cookie = none) (c : Nat) :
    (ServerObject.context addr, some c) ∉
      graphObjects { g with contexts := g.contexts.map fun c => if c.addr = addr then ctx' else c } := by
  simp only [graphObjects, List.map_map, List.mem_map, Function.comp]
  rintro ⟨d, -, heq⟩
  by_cases hd : d.addr = addr
  · rw [if_pos hd, hcookie] at heq
    cases congrArg Prod.snd heq
  · rw [if_neg hd] at heq
    exact hd (ServerObject.context.inj (congrArg Prod.fst heq))

/-- What a call does to the contexts: a context is made for a client that opens one, and stored; a context is in nobody's
name once its connection is finalized. -/
structure GraphServed (out : GraphOutcomes) (g : MediaGraphPriv) (k : Nat) (data : Option Nat) (cmd : Option CString)
    (r : GraphResult) : Prop where
  effect : Effect k (r.stored.map .context) none (graphObjects g) (graphObjects r.graph)
  stored : r.stored.isSome ↔ cmd = some "open".toList ∧ 0 ≤ r.ret
  alloc : ∀ addr ∈ r.stored, out.alloc = some addr
  finalized : ∀ c, r.finalized = some c → cmd ≠ none ∧ cmd ≠ some "open".toList ∧ ∃ addr, data = some addr ∧
    (.context addr, some c) ∈ graphObjects g ∧ ∀ c', (.context addr, some c') ∉ graphObjects r.graph

theorem mediaFindFilter_failed {name : Option CString} {input available : Bool} {ret : Int}
    (h : mediaFindFilter out g name input available = (ret, none)) : ret < 0 := by
  unfold mediaFindFilter at h
  split at h
  · cases h
  · cases h
    split <;> decide

/-- A context is made for the client if and only if the open succeeds. -/
theorem mediaCommonOpen_served (out : GraphOutcomes) (g : MediaGraphPriv) (arg : Option CString) (k : Nat)
    (player : Bool) :
    Effect k ((mediaCommonOpen out g arg k player).2.2.2.map .context) none (graphObjects g)
        (graphObjects (mediaCommonOpen out g arg k player).2.1) ∧
      ((mediaCommonOpen out g arg k player).2.2.2.isSome ↔ 0 ≤ (mediaCommonOpen out g arg k player).1) ∧
      ∀ addr ∈ (mediaCommonOpen out g arg k player).2.2.2, out.alloc = some addr := by
  unfold mediaCommonOpen
  cases out.alloc with
  | none => exact ⟨.refl .., by simp [ENOMEM], (by rintro _ ⟨⟩)⟩
  | some addr =>
    dsimp only
    cases hfind : mediaFindFilter out g arg player true with
    | mk ret filter =>
      cases filter with
      | none =>
        have hret := mediaFindFilter_failed hfind
        exact ⟨.refl .., by simpa using hret, (by rintro _ ⟨⟩)⟩
      | some filter =>
        dsimp only
        by_cases hopen : out.openRet < 0
        · rw [if_pos hopen]
          exact ⟨.refl .., by simpa using hopen, (by rintro _ ⟨⟩)⟩
        · rw [if_neg hopen]
          by_cases hevent : out.setEventRet < 0
          · rw [if_pos hevent]
            exact ⟨.refl .., by simpa using hevent, (by rintro _ ⟨⟩)⟩
          · rw [if_neg hevent]
            refine ⟨.insert fun p => ?_, by simp, fun _ haddr => haddr⟩
            simp only [graphObjects, List.map_cons, List.mem_cons]

theorem mediaCommonHandler_served {target cmd arg : Option CString} {hasRes player : Bool}
    (h : mediaCommonHandler out g k data target cmd arg hasRes player = some r) :
    GraphServed out g k data cmd r := by
  unfold mediaCommonHandler at h
  obtain ⟨cmd, rfl, hcall⟩ := Option.bind_eq_some_iff.1 h
  clear h
  by_cases hopen : cmd = "open".toList
  · rw [if_pos hopen] at hcall
    cases hcall
    obtain ⟨heffect, hstored, halloc⟩ := mediaCommonOpen_served out g arg k player
    exact ⟨heffect, by simpa [hopen] using hstored, halloc, nofun⟩
  · rw [if_neg hopen] at hcall
    -- no other command makes a context
    have hnone : ∀ ret : Int, (none : Option Nat).isSome ↔ some cmd = some "open".toList ∧ 0 ≤ ret := by
      intro ret
      constructor
      · intro h
        cases h
      · rintro ⟨h, -⟩
        exact absurd (Option.some.inj h) hopen
    cases data with
    | none =>
      cases hcall
      exact ⟨.refl .., hnone _, nofun, nofun⟩
    | some addr =>
      obtain ⟨ctx, hctx, rfl⟩ := Option.map_eq_some_iff.1 hcall
      have hsame : ∀ ret cmds processed response, GraphServed out g k (some addr) (some cmd)
          { ret, graph := { g with cmds }, stored := none, processed, response } :=
        fun _ _ _ _ => ⟨.refl .., hnone _, nofun, nofun⟩
      dsimp only
      split
      · exact ⟨context_effect { ctx with event := true } hctx rfl (.inr rfl) k, hnone _, nofun, nofun⟩
      · split
        · exact hsame ..
        · split
          · split
            · refine ⟨context_effect { ctx with cookie := none } hctx rfl (.inl rfl) k, hnone _, nofun,
                fun c hc => ⟨nofun, fun heq => hopen (Option.some.inj heq), addr, rfl, ?_, fun c' => ?_⟩⟩
              · obtain ⟨hmem, rfl⟩ := mem_of_context hctx
                exact hc ▸ List.mem_map_of_mem hmem
              · exact context_closed { ctx with cookie := none } rfl c'
            · exact hsame ..
          · split
            · split
              · exact hsame ..
              · exact hsame ..
            · exact hsame ..

/-- A context is closed for good unless there is something pending. -/
def ClosesAtOnce (out : GraphOutcomes) (arg : Option CString) : Prop :=
  arg = none ∨ arg.map (scanPending out) = some 0

instance (out : GraphOutcomes) (arg : Option CString) : Decidable (ClosesAtOnce out arg) :=
  inferInstanceAs (Decidable (_ ∨ _))

/-- What "close" returns for a context. -/
def closeRet (out : GraphOutcomes) (g : MediaGraphPriv) (ctx : MediaFilterPriv) (arg : Option CString)
    (hasRes : Bool) : Int :=
  (mediaGraphQueueCommand out g.cmds ⟨ctx.filter, "close".toList, arg⟩ hasRes).1

/-- Only "close" finalizes the connection of a context, whatever becomes of the command. -/
theorem mediaCommonHandler_finalized {target cmd arg : Option CString} {hasRes player : Bool}
    (h : mediaCommonHandler out g k data target cmd arg hasRes player = some r) :
    r.finalized =
        (if cmd = some "close".toList ∧ ClosesAtOnce out arg then (data.bind g.context).bind MediaFilterPriv.cookie
        else none) ∧
      (cmd = some "close".toList → ∀ ctx ∈ data.bind g.context, r.ret = closeRet out g ctx arg hasRes) := by
  unfold mediaCommonHandler at h
  obtain ⟨cmd, rfl, hcall⟩ := Option.bind_eq_some_iff.1 h
  clear h
  have hother : ∀ r : GraphResult, cmd ≠ "close".toList → r.finalized = none →
      r.finalized =
          (if some cmd = some "close".toList ∧ ClosesAtOnce out arg then
            (data.bind g.context).bind MediaFilterPriv.cookie
          else none) ∧
        (some cmd = some "close".toList → ∀ ctx ∈ data.bind g.context, r.ret = closeRet out g ctx arg hasRes) := by
    intro r hcmd hnone
    refine ⟨?_, fun hclose => absurd (Option.some.inj hclose) hcmd⟩
    rw [hnone, if_neg fun hclose => hcmd (Option.some.inj hclose.1)]
  by_cases hopen : cmd = "open".toList
  · rw [if_pos hopen] at hcall
    cases hcall
    exact hother _ (by rw [hopen]; decide) rfl
  · rw [if_neg hopen] at hcall
    cases data with
    | none =>
      cases hcall
      refine ⟨?_, nofun⟩
      split <;> rfl
    | some addr =>
      obtain ⟨ctx, hctx, rfl⟩ := Option.map_eq_some_iff.1 hcall
      dsimp only
      split
      · rename_i hevent
        exact hother _ (by rw [hevent]; decide) rfl
      · split
        · rename_i hprepare
          exact hother _ (by rw [hprepare.1]; decide) rfl
        · split
          · rename_i hclose
            subst hclose
            rw [Option.bind_some, hctx, Option.bind_some]
            -- "close" with a pending number leaves the cookie to the CLOSED event.
            by_cases hatOnce : arg = none ∨ arg.map (scanPending out) = some 0
            · have hcloses : ClosesAtOnce out arg := hatOnce
              rw [if_pos hatOnce]
              exact ⟨(if_pos ⟨rfl, hcloses⟩).symm, fun _ c hc => by cases hc; rfl⟩
            · have hcloses : ¬ ClosesAtOnce out arg := hatOnce
              rw [if_neg hatOnce]
              exact ⟨(if_neg fun hclose => hcloses hclose.2).symm, fun _ c hc => by cases hc; rfl⟩
          · rename_i hcmd
            refine hother _ hcmd ?_
            split
            · split <;> rfl
            · rfl

theorem mediaGraphHandler_served {target cmd arg : Option CString} {hasRes : Bool}
    (h : mediaGraphHandler out g target cmd arg hasRes = some r) :
    graphObjects r.graph = graphObjects g ∧ r.stored = none ∧ r.finalized = none := by
  unfold mediaGraphHandler at h
  obtain ⟨cmd, -, rfl⟩ := Option.map_eq_some_iff.1 h
  split
  · exact ⟨rfl, rfl, rfl⟩
  · split
    · exact ⟨rfl, rfl, rfl⟩
    · split <;> exact ⟨rfl, rfl, rfl⟩

/-- The context is freed by its last event, and only by that. -/
theorem mediaCommonEventCb_served {event : AVMovieAsyncEvent} {result : BitVec 32} {extra : Option CString}
    {r : GraphEventResult} (h : mediaCommonEventCb g addr event result extra = some r) :
    Effect k none (if event = .closed then some (.context addr) else none) (graphObjects g) (graphObjects r.graph) ∧
      (∀ n ∈ r.sent, (ServerObject.context n.addr, n.cookie) ∈ graphObjects g) ∧
      (event = .closed → (ServerObject.context addr, r.finalized) ∈ graphObjects g) ∧
      (event ≠ .closed → r.finalized = none) := by
  unfold mediaCommonEventCb at h
  obtain ⟨ctx, hctx, rfl⟩ := Option.map_eq_some_iff.1 h
  obtain ⟨hmem, rfl⟩ := mem_of_context hctx
  have hlisted : (ServerObject.context ctx.addr, ctx.cookie) ∈ graphObjects g := List.mem_map_of_mem hmem
  have hsent : ∀ n ∈ mediaCommonNotifyCb ctx event result extra,
      (ServerObject.context n.addr, n.cookie) ∈ graphObjects g := by
    intro n hn
    unfold mediaCommonNotifyCb at hn
    split at hn
    · obtain rfl := List.mem_singleton.1 hn
      exact hlisted
    · cases hn
  cases event with
  | closed =>
    exact ⟨.filter fun c _ => by simp, by simp, fun _ => hlisted, fun h => absurd rfl h⟩
  | started | paused | stopped | completed | other number => exact ⟨.refl .., hsent, nofun, fun _ => rfl⟩

end Graph

/-! ### Policy -/

/-- What a call does to the subscribers: one is stored when it is made, and is gone when it is unsubscribed. -/
structure PolicyServed (handle : Option Nat) (policy : List PolicySubscriber) (k : Nat) (data : Option Nat)
    (cmd : Option CString) (r : PolicyResult) : Prop where
  effect : Effect k (r.stored.map .subscription)
    (if cmd = some "unsubscribe".toList then data.map .subscription else none) (policyObjects policy)
    (policyObjects r.policy)
  stored : r.stored.isSome ↔ cmd = some "subscribe".toList ∧ 0 ≤ r.ret
  handle : ∀ addr ∈ r.stored, handle = some addr
  finalized : r.finalized = if cmd = some "unsubscribe".toList then some k else none

theorem PolicyServed.idle {handle : Option Nat} {policy : List PolicySubscriber} {k : Nat} {data : Option Nat}
    {cmd : Option CString}
    {ret : Int} (hsubscribe : cmd = some "subscribe".toList → ret < 0) (hunsubscribe : cmd ≠ some "unsubscribe".toList)
    (response : Option CString) : PolicyServed handle policy k data cmd { ret, policy, response } where
  handle := nofun
  effect := by
    rw [if_neg hunsubscribe]
    exact .refl ..
  stored := by
    constructor
    · intro h
      cases h
    · rintro ⟨h, hret⟩
      exact absurd (hsubscribe h) (Int.not_lt.2 hret)
  finalized := by rw [if_neg hunsubscribe]

theorem mediaPolicyHandler_served {handle data : Option Nat} {ret : Int} {response : Option CString}
    {policy : List PolicySubscriber} {k : Nat} {name cmd value : Option CString} {res : Bool} {len : Nat}
    {r : PolicyResult} (h : mediaPolicyHandler handle ret response policy k data name cmd value res len = some r) :
    PolicyServed handle policy k data cmd r := by
  unfold mediaPolicyHandler at h
  cases cmd with
  | none =>
    cases h
    exact .idle (fun h => by cases h) (fun h => by cases h) none
  | some cmd =>
    dsimp only at h
    by_cases hping : cmd = "ping".toList
    · rw [if_pos hping] at h
      cases h
      subst hping
      exact .idle (fun h => absurd h (by decide)) (by decide) none
    · rw [if_neg hping] at h
      by_cases hsubscribe : cmd = "subscribe".toList
      · rw [if_pos hsubscribe] at h
        subst hsubscribe
        cases handle with
        | none =>
          cases h
          exact .idle (fun _ => by decide) (by decide) none
        | some addr =>
          cases h
          refine ⟨?_, by simp, fun _ haddr => haddr, rfl⟩
          rw [if_neg (by decide)]
          refine .insert fun p => ?_
          simp only [policyObjects, List.map_cons, List.mem_cons]
      · rw [if_neg hsubscribe] at h
        by_cases hunsubscribe : cmd = "unsubscribe".toList
        · rw [if_pos hunsubscribe] at h
          subst hunsubscribe
          cases data with
          | none =>
            cases h
            exact ⟨.refl .., by simp, nofun, rfl⟩
          | some addr =>
            obtain ⟨_, -, rfl⟩ := Option.map_eq_some_iff.1 h
            refine ⟨?_, by simp, nofun, rfl⟩
            rw [if_pos rfl]
            exact .filter fun p _ => by simp
        · rw [if_neg hunsubscribe] at h
          have hother : ∀ (ret : Int) (response : Option CString),
              PolicyServed handle policy k data (some cmd) { ret, policy, response } := fun ret response =>
            .idle (fun heq => absurd (Option.some.inj heq) hsubscribe)
              (fun heq => absurd (Option.some.inj heq) hunsubscribe) response
          obtain ⟨-, h⟩ := Option.ite_none_left_eq_some.1 h
          obtain ⟨-, h⟩ := Option.ite_none_left_eq_some.1 h
          split at h <;> cases h <;> exact hother ..

/-! ### Focus -/

section Focus

variable {t : InteractionTable} {f : MediaFocus} {hs : List Holder} {depth k now : Nat}

theorem Holds.objects {s : AppFocusStack} (H : Holds s depth hs) :
    focusObjects s = hs.map fun h => (.focus h.slot, h.argv) := by
  unfold focusObjects
  rw [H.entries, List.map_map]
  refine List.map_congr_left fun h hh => ?_
  obtain ⟨st, hst⟩ := H.nodeList_eq hh
  simp only [Function.comp, hst]
  rfl

/-- No holder is dead for the server. -/
theorem daemonAlive_eq (now tid : Nat) : daemonAlive now tid = true := rfl

/-- The callbacks go to holders that are there. -/
def ToldTo (hs : List Holder) (events : List FocusEvent) : Prop :=
  ∀ (holder : AppFocusId) (suggestion : Int), .suggest holder suggestion ∈ events →
    ∃ h ∈ hs, holder.clientId = (h.slot : Int) ∧ holder.callbackArgv = h.argv

theorem toldTo_nil (hs : List Holder) : ToldTo hs [] := fun _ _ hm => by cases hm

theorem broadcastEvents_told (t : InteractionTable) (top : Holder) (hs : List Holder) :
    ToldTo hs (broadcastEvents t (top :: hs)) := by
  intro holder suggestion hm
  obtain ⟨h, hh, heq⟩ := List.mem_map.1 hm
  cases heq
  exact ⟨h, hh, rfl, rfl⟩

theorem admitHolder_told (t : InteractionTable) (hs : List Holder) (new : Holder) :
    ToldTo hs (admitHolder t hs new).2.1 ∧ ∀ v ∈ (admitHolder t hs new).2.2, 0 ≤ v := by
  unfold admitHolder
  cases hs with
  | nil => exact ⟨toldTo_nil _, by rintro _ ⟨⟩; decide⟩
  | cons top hs =>
    dsimp only
    split
    · exact ⟨broadcastEvents_told t new (top :: hs), by rintro _ ⟨⟩; decide⟩
    · split
      · rename_i hbelow
        split
        · exact ⟨toldTo_nil _, nofun⟩
        · refine ⟨toldTo_nil _, ?_⟩
          rintro _ ⟨⟩
          rcases hbelow with h | h <;> rw [h] <;> decide
      · split
        · exact ⟨toldTo_nil _, nofun⟩
        · exact ⟨toldTo_nil _, by rintro _ ⟨⟩; decide⟩

theorem dropHolder_told (t : InteractionTable) (hs : List Holder) (id : Int) : ToldTo hs (dropHolder t hs id).2 := by
  unfold dropHolder
  cases hs with
  | nil => exact toldTo_nil _
  | cons top hs =>
    dsimp only
    split
    · intro holder suggestion hm
      rcases List.mem_append.1 hm with hm | hm
      · obtain ⟨h, hh, heq⟩ := List.mem_map.1 hm
        cases heq
        exact ⟨h, List.mem_cons_of_mem _ (List.mem_of_mem_head? (Option.mem_toList.1 hh)), rfl, rfl⟩
      · cases hs with
        | nil => cases hm
        | cons next hs =>
          obtain ⟨h, hh, heq⟩ := broadcastEvents_told t next hs holder suggestion hm
          exact ⟨h, List.mem_cons_of_mem _ (List.mem_cons_of_mem _ hh), heq⟩
    · exact toldTo_nil _

theorem holdersRequest_told (t : InteractionTable) (depth : Nat) (hs : List Holder) (now : Nat) (name : Option String)
    (k : Nat) : ToldTo hs (holdersRequest t depth daemonAlive hs now name (some 0) (some k) daemonTid).events ∧
      ∀ p ∈ (holdersRequest t depth daemonAlive hs now name (some 0) (some k) daemonTid).reply, 0 ≤ p.2 := by
  obtain ⟨hclear, hevents⟩ := clearHolders_allAlive daemonAlive_eq true hs now
  unfold holdersRequest
  cases name.bind fun n => t.streams.findIdx? (· == n) with
  | none => exact ⟨toldTo_nil _, nofun⟩
  | some level =>
    dsimp only
    rw [hclear, hevents]
    cases freeSlot depth hs with
    | none => exact ⟨toldTo_nil _, nofun⟩
    | some slot =>
      obtain ⟨htold, hreply⟩ := admitHolder_told t hs ⟨slot, level, daemonTid, 0, some k⟩
      refine ⟨htold, fun p hp => ?_⟩
      obtain ⟨v, hv, rfl⟩ := Option.map_eq_some_iff.1 hp
      exact hreply v hv

theorem ToldTo.notices {events : List FocusEvent} (h : ToldTo hs events) {s : AppFocusStack} (H : Holds s depth hs) :
    ∀ n ∈ events.filterMap focusNotice, (n.source, n.cookie) ∈ focusObjects s := by
  intro n hn
  obtain ⟨e, he, hnotice⟩ := List.mem_filterMap.1 hn
  cases e with
  | noMatchedData => cases hnotice
  | suggest holder suggestion =>
    cases hnotice
    obtain ⟨h', hh, hid, hargv⟩ := h holder suggestion he
    rw [H.objects]
    refine List.mem_map.2 ⟨h', hh, ?_⟩
    rw [hid, hargv]

/-- The entry that a connection gives up with the handle that it holds. -/
def focusEntry (data : Option Nat) : Option ServerObject :=
  if (focusHandle data).toInt < ID_SHIFT - 1 then none else some (.focus (handleToId (focusHandle data)))

/-- What is stored is the handle of the new entry, or one beyond the stack. -/
def FocusStored (s : AppFocusStack) (depth : Nat) (created : Option ServerObject) (stored : Option Nat) : Prop :=
  created = none ∧ stored = none ∨
    ∃ n < 2 * depth, (n < depth → appFocusFreeClientId s = n) ∧
      created = (if n < depth then some (.focus n) else none) ∧ stored = some (focusWord (idToHandle n))

/-- What a call does to the holders, whom it tells something, and what it stores and finalizes. -/
structure FocusServed (f : MediaFocus) (depth k : Nat) (data : Option Nat) (cmd : Option CString)
    (r : FocusHandlerResult) : Prop where
  table : r.focus.table = f.table
  holds : ∃ hs, Holds r.focus.stack depth hs ∧ LevelsBelow f.table hs
  effect : ∃ created, Effect k created (if cmd = some "abandon".toList then focusEntry data else none)
      (focusObjects f.stack) (focusObjects r.focus.stack) ∧
    (∀ o ∈ created, ¬ Has (focusObjects f.stack) o) ∧ FocusStored f.stack depth created r.stored
  sent : ∀ n ∈ r.events.filterMap focusNotice, (n.source, n.cookie) ∈ focusObjects f.stack
  stored : r.stored.isSome ↔ cmd = some "request".toList ∧ 0 ≤ r.ret
  finalized : r.finalized = if cmd = some "abandon".toList then some k else none

theorem FocusServed.idle (H : Holds f.stack depth hs) (hl : LevelsBelow f.table hs) {data : Option Nat}
    {cmd : Option CString} (hrequest : cmd ≠ some "request".toList) (habandon : cmd ≠ some "abandon".toList)
    (ret : Int) (response : Option CString) :
    FocusServed f depth k data cmd { ret, focus := f, now, response } where
  table := rfl
  holds := ⟨hs, H, hl⟩
  effect := by
    rw [if_neg habandon]
    exact ⟨none, .refl .., nofun, .inl ⟨rfl, rfl⟩⟩
  sent _ hn := by cases hn
  stored := by
    constructor
    · intro h
      cases h
    · rintro ⟨h, -⟩
      exact absurd h hrequest
  finalized := by rw [if_neg habandon]

theorem FocusServed.request (H : Holds f.stack depth hs) (hl : LevelsBelow f.table hs) (now : Nat)
    (name : Option String) {data : Option Nat} {r : FocusResult}
    (hr : mediaFocusRequest daemonAlive f now name (some 0) (some k) daemonTid = r) {ret : Int} {stored : Option Nat}
    (hstored : stored = r.handle.map focusWord) (hret : 0 ≤ ret ↔ r.handle.isSome) :
    FocusServed f depth k data (some "request".toList)
      { ret, focus := r.focus, now := r.now, stored, events := r.events } := by
  have href : Refines f.table depth (mediaFocusRequest daemonAlive f now name (some 0) (some k) daemonTid) _ :=
    request_eq H hl now name (some 0) (some k) daemonTid
  rw [hr] at href
  refine ⟨href.table, ⟨_, href.holds, href.levels⟩, ?_, ?_, by simp [hstored, hret], rfl⟩
  · rw [if_neg (by decide), H.objects, href.holds.objects, hstored, href.handle]
    rcases holdersRequest_cases daemonAlive_eq f.table depth hs now name (some 0) (some k) daemonTid with
      ⟨new, v, -, hargv, -, hfree, hreply, hv, hperm⟩ | ⟨⟨slot, hslot, hreply⟩ | hreply, hsame⟩
    · -- the new entry
      obtain ⟨hslot, hnew⟩ := freeSlot_spec hfree
      have hid : appFocusFreeClientId f.stack = new.slot := by rw [H.freeClientId, hfree]
      refine ⟨some (.focus new.slot), .insert fun p => ?_, ?_,
        .inr ⟨new.slot, by omega, fun _ => hid, by rw [if_pos hslot], ?_⟩⟩
      · rw [(hperm.map _).mem_iff, List.map_cons, List.mem_cons, hargv]
      · rintro _ ⟨⟩ ⟨c, hc⟩
        obtain ⟨h, hh, heq⟩ := List.mem_map.1 hc
        have hslot : h.slot = new.slot := by
          have hid := ServerObject.focus.inj (congrArg Prod.fst heq)
          exact Int.ofNat_inj.1 hid
        exact hnew (hslot ▸ List.mem_map_of_mem hh)
      · rw [hreply, Option.map_some, if_neg hv]
        rfl
    · -- a handle beyond the stack
      rw [hsame]
      refine ⟨none, .refl .., nofun, .inr ⟨slot + depth, by omega, fun h => ?_, ?_, ?_⟩⟩
      · omega
      · rw [if_neg (by omega)]
      · rw [hreply, Option.map_some, if_pos rfl]
        push_cast
        rfl
    · rw [hsame]
      refine ⟨none, .refl .., nofun, .inl ⟨rfl, ?_⟩⟩
      rw [hreply]
      rfl
  · rw [href.events]
    exact (holdersRequest_told f.table depth hs now name k).1.notices H

theorem FocusServed.abandon (H : Holds f.stack depth hs) (hl : LevelsBelow f.table hs) (now : Nat) {data : Option Nat}
    {r : FocusResult} (hr : mediaFocusAbandon daemonAlive f now (focusHandle data) = r) :
    FocusServed f depth k data (some "abandon".toList)
      { ret := r.ret, focus := r.focus, now := r.now, events := r.events, finalized := some k } := by
  have href : Refines f.table depth (mediaFocusAbandon daemonAlive f now (focusHandle data)) _ :=
    abandon_eq H hl now (focusHandle data)
  rw [hr] at href
  obtain ⟨hclear, hevents⟩ := clearHolders_allAlive daemonAlive_eq true hs now
  refine ⟨href.table, ⟨_, href.holds, href.levels⟩, ⟨none, ?_, nofun, .inl ⟨rfl, rfl⟩⟩, ?_, by simp, rfl⟩
  · rw [H.objects, href.holds.objects, if_pos rfl, focusEntry]
    unfold holdersAbandon
    split
    · exact .refl ..
    · dsimp only
      rw [hclear, dropHolder_eq, eraseP_eq_filter H.nodup_ids]
      exact .filter fun h _ => by simp
  · rw [href.events]
    have htold : ToldTo hs (holdersAbandon f.table daemonAlive hs now (focusHandle data)).events := by
      unfold holdersAbandon
      split
      · exact toldTo_nil _
      · dsimp only
        rw [hclear, hevents, List.nil_append]
        exact dropHolder_told f.table hs _
    exact htold.notices H

theorem mediaFocusHandler_served (H : Holds f.stack depth hs) (hl : LevelsBelow f.table hs) {data : Option Nat}
    {name cmd : Option CString} {res : Bool} {len : Nat} {r : FocusHandlerResult}
    (h : mediaFocusHandler f now k data name cmd res len = some r) : FocusServed f depth k data cmd r := by
  unfold mediaFocusHandler at h
  obtain ⟨cmd, rfl, hcall⟩ := Option.bind_eq_some_iff.1 h
  clear h
  have hidle : ∀ (ret : Int) (response : Option CString), cmd ≠ "request".toList → cmd ≠ "abandon".toList →
      FocusServed f depth k data (some cmd) { ret, focus := f, now, response } := fun ret response hrequest habandon =>
    .idle H hl (fun heq => hrequest (Option.some.inj heq)) (fun heq => habandon (Option.some.inj heq)) ret response
  by_cases hping : cmd = "ping".toList
  · rw [if_pos hping] at hcall
    cases hcall
    subst hping
    exact hidle _ _ (by decide) (by decide)
  · rw [if_neg hping] at hcall
    by_cases hrequest : cmd = "request".toList
    · rw [if_pos hrequest] at hcall
      subst hrequest
      have href : Refines f.table depth
          (mediaFocusRequest daemonAlive f now (name.map String.ofList) (some 0) (some k) daemonTid) _ :=
        request_eq H hl now (name.map String.ofList) (some 0) (some k) daemonTid
      obtain ⟨-, hreply⟩ := holdersRequest_told f.table depth hs now (name.map String.ofList) k
      generalize hr : mediaFocusRequest daemonAlive f now (name.map String.ofList) (some 0) (some k) daemonTid = r
        at hcall
      rw [hr] at href
      dsimp only at hcall
      cases hhandle : r.handle with
      | none =>
        rw [hhandle] at hcall
        cases hcall
        exact .request H hl now _ hr (by simp [hhandle]) (by simp [hhandle, EPERM])
      | some handle =>
        rw [hhandle] at hcall
        cases hcall
        -- the reply says that the suggestion is one of the table
        have hsome := href.handle
        rw [hhandle] at hsome
        obtain ⟨p, hp, -⟩ := Option.map_eq_some_iff.1 hsome.symm
        have hret : 0 ≤ r.returnType.getD 0 := by
          rw [href.returnType p hp]
          exact hreply p hp
        exact .request H hl now _ hr (by simp [hhandle]) (by simpa [hhandle] using hret)
    · rw [if_neg hrequest] at hcall
      by_cases habandon : cmd = "abandon".toList
      · rw [if_pos habandon] at hcall
        cases hcall
        subst habandon
        exact .abandon H hl now rfl
      · rw [if_neg habandon] at hcall
        split at hcall
        · cases hcall
          exact hidle _ _ hrequest habandon
        · split at hcall
          · split at hcall
            · cases hcall
              exact hidle _ _ hrequest habandon
            · obtain ⟨-, hcall⟩ := Option.ite_none_left_eq_some.1 hcall
              cases hcall
              exact hidle _ _ hrequest habandon
          · cases hcall
            exact hidle _ _ hrequest habandon

end Focus

end MediaFramework
