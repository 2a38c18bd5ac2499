import MediaFramework.Server.ServerObjects

/-!
# Runs of the server

A run is a sequence of connections, of their requests, `CREATE_NOTIFY` messages and ends, of events of filters, and of
changes that the policy library reports.  A request is described by the kind of handle that its command creates or
uses, and by the object that it gives up.
-/

namespace MediaFramework

open Registry

/-! ### Handles -/

inductive HandleKind
  | controller
  | controllee
  | player
  | recorder
  | subscription
  | focus
  deriving DecidableEq

/-- The object that a handle stands for. -/
def HandleKind.object (kind : HandleKind) (word : Nat) : ServerObject :=
  match kind with
  | .controller => .controller word
  | .controllee => .controllee word
  | .player | .recorder => .context word
  | .subscription => .subscription word
  | .focus => .focus (handleToId (BitVec.ofNat 32 word))

def SessionCmd.creates : SessionCmd → Option HandleKind
  | .register => some .controllee
  | .open => some .controller
  | _ => none

def SessionCmd.uses : SessionCmd → Option HandleKind
  | .unregister | .event | .update => some .controllee
  | .close | .setEvent => some .controller
  | _ => none

namespace StubCall

/-- The kind of handle that is stored when the call succeeds. -/
def creates : StubCall → Option HandleKind
  | session _ cmd _ _ => (cmd.map fun cmd => sessionCmd (text cmd)).bind SessionCmd.creates
  | player _ cmd _ _ => if cmd.map text = some "open".toList then some .player else none
  | recorder _ cmd _ _ => if cmd.map text = some "open".toList then some .recorder else none
  | policy _ cmd _ _ _ => if cmd.map text = some "subscribe".toList then some .subscription else none
  | focus _ cmd _ => if cmd.map text = some "request".toList then some .focus else none
  | graph .. => none

/-- The kind of handle that the handler takes the word of the connection for. -/
def uses : StubCall → Option HandleKind
  | session _ cmd _ _ => (cmd.map fun cmd => sessionCmd (text cmd)).bind SessionCmd.uses
  | player _ cmd _ _ => if cmd = none ∨ cmd.map text = some "open".toList then none else some .player
  | recorder _ cmd _ _ => if cmd = none ∨ cmd.map text = some "open".toList then none else some .recorder
  | policy _ cmd _ _ _ => if cmd.map text = some "unsubscribe".toList then some .subscription else none
  | focus _ cmd _ => if cmd.map text = some "abandon".toList then some .focus else none
  | graph .. => none

/-- The object that the call gives up when the connection holds `data`. -/
def releases (data : Option Nat) : StubCall → Option ServerObject
  | session _ cmd _ _ => (cmd.map fun cmd => sessionCmd (text cmd)).bind fun cmd => cmd.releases data
  | policy _ cmd _ _ _ => if cmd.map text = some "unsubscribe".toList then data.map .subscription else none
  | focus _ cmd _ => if cmd.map text = some "abandon".toList then focusEntry data else none
  | _ => none

/-- The argument with which the call closes a context, and the size of the response. -/
def closing : StubCall → Option (Option CString × BitVec 32)
  | player _ cmd arg len | recorder _ cmd arg len =>
    if cmd.map text = some "close".toList then some (arg.map text, len) else none
  | _ => none

/-- The connection that the call of the connection `k` finalizes. -/
def finalizes (s : MediaServer) (k : Nat) (out : StubOutcomes) : StubCall → Option Nat
  | session _ cmd _ _ =>
    ((cmd.map fun cmd => sessionCmd (text cmd)).bind fun cmd => cmd.releases (mediaServerGetData s.conns k)).bind
      s.session.finalizes
  | policy _ cmd _ _ _ => if cmd.map text = some "unsubscribe".toList then some k else none
  | focus _ cmd _ => if cmd.map text = some "abandon".toList then some k else none
  | player _ cmd arg _ | recorder _ cmd arg _ =>
    if cmd.map text = some "close".toList ∧ ClosesAtOnce out.graphOutcomes (arg.map text) then
      ((mediaServerGetData s.conns k).bind s.graph.context).bind MediaFilterPriv.cookie
    else none
  | graph .. => none

end StubCall

/-! ### What a request does -/

variable {s : MediaServer} {k depth : Nat} {out : StubOutcomes} {call : StubCall} {r : HandlerResult}

/-- The stack of the focus module is well formed. -/
def MediaServer.Holds (s : MediaServer) (depth : Nat) : Prop :=
  ∃ hs, MediaFramework.Holds s.focus.stack depth hs ∧ LevelsBelow s.focus.table hs

/-- The connection that is finalized when an object is given up by the connection `k`. -/
def MediaServer.finalizes (s : MediaServer) (k : Nat) : ServerObject → Option Nat
  | .controllee addr => s.session.finalizes (.controllee addr)
  | .controller addr => s.session.finalizes (.controller addr)
  | _ => some k

/-- The address is not in use. -/
def StubOutcomes.Fresh (s : MediaServer) (out : StubOutcomes) : Prop := ∀ addr ∈ out.alloc, addr ∉ s.addrs

instance (s : MediaServer) (out : StubOutcomes) : Decidable (out.Fresh s) := inferInstanceAs (Decidable (∀ _ ∈ _, _))

/-- A handle is stored for the object that was created, at the address of `zalloc` or in the first free slot; a handle
of the focus module may be for no object, and has a number beyond the stack then. -/
def StoresCreated (s : MediaServer) (depth : Nat) (alloc : Option Nat) (kind : Option HandleKind)
    (created : Option ServerObject) (stored : Option Nat) : Prop :=
  created = none ∧ stored = none ∨ ∃ kind' word, kind = some kind' ∧ stored = some word ∧
    (kind' ≠ .focus ∧ alloc = some word ∧ created = some (kind'.object word) ∨ kind' = .focus ∧ ∃ n < 2 * depth,
      (n < depth → appFocusFreeClientId s.focus.stack = n) ∧ word = focusWord (idToHandle n) ∧
        created = if n < depth then some (.focus n) else none)

/-- The connection `c` is finalized without an object that is given up: it gives up a focus handle or has no handle to
unsubscribe, or its context is in nobody's name afterwards. -/
def FinalizedAlone (s s' : MediaServer) (k : Nat) (call : StubCall) (c : Nat) : Prop :=
  c = k ∧ (call.uses = some .focus ∨ call.uses = some .subscription ∧ mediaServerGetData s.conns k = none) ∨
    ∃ addr, mediaServerGetData s.conns k = some addr ∧ (call.uses = some .player ∨ call.uses = some .recorder) ∧
      (.context addr, some c) ∈ s.objects ∧ ∀ c', (.context addr, some c') ∉ s'.objects

/-- What a request does to the objects, whom it notifies, what it stores, and whom it finalizes. -/
structure HandlerServed (s : MediaServer) (depth k : Nat) (out : StubOutcomes) (call : StubCall) (r : HandlerResult) :
    Prop where
  conns : r.server.conns = s.conns
  holds : r.server.Holds depth
  effect : ∃ created, Effect k created (call.releases (mediaServerGetData s.conns k)) s.objects r.server.objects ∧
    (∀ o ∈ created, ¬ Has s.objects o) ∧ StoresCreated s depth out.alloc call.creates created r.stored
  sent : ∀ n ∈ r.sent, (n.source, n.cookie) ∈ s.objects
  stored : r.stored.isSome ↔ call.creates.isSome ∧ 0 ≤ r.ret
  finalized : ∀ o ∈ call.releases (mediaServerGetData s.conns k), r.finalized = s.finalizes k o
  alone : call.releases (mediaServerGetData s.conns k) = none → ∀ c, r.finalized = some c →
    FinalizedAlone s r.server k call c

theorem mem_objects {p : ServerObject × Option Nat} : p ∈ s.objects ↔ p ∈ sessionObjects s.session ∨
    p ∈ graphObjects s.graph ∨ p ∈ policyObjects s.policy ∨ p ∈ focusObjects s.focus.stack := by
  simp only [MediaServer.objects, List.mem_append, or_assoc]

/-- What has an address is not at an address that is not in use. -/
theorem not_has_of_fresh {addr : Nat} (h : addr ∉ s.addrs) {kind : HandleKind} (hkind : kind ≠ .focus) :
    ¬ Has s.objects (kind.object addr) := by
  rintro ⟨c, hc⟩
  apply h
  simp only [MediaServer.addrs, MediaSessionPriv.addrs, MediaSessionPriv.controlleeAddrs, List.mem_append, List.mem_map]
  simp only [mem_objects, mem_sessionObjects, graphObjects, policyObjects, focusObjects, List.mem_map] at hc
  cases kind with
  | focus => exact absurd rfl hkind
  | controller =>
    rcases hc with (⟨d, hd, heq⟩ | ⟨d, hd, heq⟩) | ⟨d, hd, heq⟩ | ⟨d, hd, heq⟩ | ⟨d, hd, heq⟩ <;> cases heq
    exact .inl (.inl (.inl ⟨d, hd, rfl⟩))
  | controllee =>
    rcases hc with (⟨d, hd, heq⟩ | ⟨d, hd, heq⟩) | ⟨d, hd, heq⟩ | ⟨d, hd, heq⟩ | ⟨d, hd, heq⟩ <;> cases heq
    exact .inl (.inl (.inr ⟨d, hd, rfl⟩))
  | player | recorder =>
    rcases hc with (⟨d, hd, heq⟩ | ⟨d, hd, heq⟩) | ⟨d, hd, heq⟩ | ⟨d, hd, heq⟩ | ⟨d, hd, heq⟩ <;> cases heq
    exact .inl (.inr ⟨d, hd, rfl⟩)
  | subscription =>
    rcases hc with (⟨d, hd, heq⟩ | ⟨d, hd, heq⟩) | ⟨d, hd, heq⟩ | ⟨d, hd, heq⟩ | ⟨d, hd, heq⟩ <;> cases heq
    exact .inr ⟨d, hd, rfl⟩

/-! ### The modules have different objects -/

theorem of_has_sessionObjects {session : MediaSessionPriv} {o : ServerObject} (h : Has (sessionObjects session) o) :
    ∃ addr, o = .controller addr ∨ o = .controllee addr := by
  obtain ⟨c, hc⟩ := h
  rcases mem_sessionObjects.1 hc with ⟨d, -, heq⟩ | ⟨d, -, heq⟩
  · exact ⟨d.addr, .inl (congrArg Prod.fst heq).symm⟩
  · exact ⟨d.addr, .inr (congrArg Prod.fst heq).symm⟩

theorem of_has_graphObjects {g : MediaGraphPriv} {o : ServerObject} (h : Has (graphObjects g) o) :
    ∃ addr, o = .context addr := by
  obtain ⟨c, hc⟩ := h
  obtain ⟨d, -, heq⟩ := List.mem_map.1 hc
  exact ⟨d.addr, (congrArg Prod.fst heq).symm⟩

theorem of_has_policyObjects {policy : List PolicySubscriber} {o : ServerObject} (h : Has (policyObjects policy) o) :
    ∃ addr, o = .subscription addr := by
  obtain ⟨c, hc⟩ := h
  obtain ⟨d, -, heq⟩ := List.mem_map.1 hc
  exact ⟨d.addr, (congrArg Prod.fst heq).symm⟩

theorem of_has_focusObjects {stack : AppFocusStack} {o : ServerObject} (h : Has (focusObjects stack) o) :
    ∃ id, o = .focus id := by
  obtain ⟨c, hc⟩ := h
  obtain ⟨i, -, heq⟩ := List.mem_map.1 hc
  exact ⟨_, (congrArg Prod.fst heq).symm⟩

theorem not_has_nil (o : ServerObject) : ¬ Has ([] : Objects) o := by
  rintro ⟨c, hc⟩
  cases hc

variable {session session' : MediaSessionPriv} {created released : Option ServerObject}

/-- What is done in one module leaves the objects of the others alone. -/
theorem effect_session {session' : MediaSessionPriv}
    (h : Effect k created released (sessionObjects s.session) (sessionObjects session'))
    (hreleased : ∀ o ∈ released, ∃ addr, o = .controller addr ∨ o = .controllee addr) :
    Effect k created released s.objects { s with session := session' }.objects := by
  have hframe := h.frame (u := []) (v := graphObjects s.graph ++ policyObjects s.policy ++ focusObjects s.focus.stack)
    (fun o _ => not_has_nil o) fun o ho hhas => ?_
  · simpa only [MediaServer.objects, List.append_assoc, List.nil_append] using hframe
  · obtain ⟨addr, hkind⟩ := hreleased o ho
    simp only [has_append] at hhas
    rcases hhas with (hhas | hhas) | hhas
    · obtain ⟨addr', rfl⟩ := of_has_graphObjects hhas
      rcases hkind with h | h <;> cases h
    · obtain ⟨addr', rfl⟩ := of_has_policyObjects hhas
      rcases hkind with h | h <;> cases h
    · obtain ⟨id, rfl⟩ := of_has_focusObjects hhas
      rcases hkind with h | h <;> cases h

theorem effect_graph {g : MediaGraphPriv} (h : Effect k created released (graphObjects s.graph) (graphObjects g))
    (hreleased : ∀ o ∈ released, ∃ addr, o = .context addr) :
    Effect k created released s.objects { s with graph := g }.objects := by
  have hframe := h.frame (u := sessionObjects s.session) (v := policyObjects s.policy ++ focusObjects s.focus.stack)
    (fun o ho hhas => ?_) fun o ho hhas => ?_
  · simpa only [MediaServer.objects, List.append_assoc] using hframe
  · obtain ⟨addr, rfl⟩ := hreleased o ho
    obtain ⟨addr', h | h⟩ := of_has_sessionObjects hhas <;> cases h
  · obtain ⟨addr, rfl⟩ := hreleased o ho
    rcases has_append.1 hhas with hhas | hhas
    · obtain ⟨addr', h⟩ := of_has_policyObjects hhas
      cases h
    · obtain ⟨id, h⟩ := of_has_focusObjects hhas
      cases h

theorem effect_policy {policy : List PolicySubscriber}
    (h : Effect k created released (policyObjects s.policy) (policyObjects policy))
    (hreleased : ∀ o ∈ released, ∃ addr, o = .subscription addr) :
    Effect k created released s.objects { s with policy }.objects := by
  have hframe := h.frame (u := sessionObjects s.session ++ graphObjects s.graph) (v := focusObjects s.focus.stack)
    (fun o ho hhas => ?_) fun o ho hhas => ?_
  · simpa only [MediaServer.objects, List.append_assoc] using hframe
  · obtain ⟨addr, rfl⟩ := hreleased o ho
    rcases has_append.1 hhas with hhas | hhas
    · obtain ⟨addr', h | h⟩ := of_has_sessionObjects hhas <;> cases h
    · obtain ⟨addr', h⟩ := of_has_graphObjects hhas
      cases h
  · obtain ⟨addr, rfl⟩ := hreleased o ho
    obtain ⟨id, h⟩ := of_has_focusObjects hhas
    cases h

theorem effect_focus {focus : MediaFocus} {now : Nat}
    (h : Effect k created released (focusObjects s.focus.stack) (focusObjects focus.stack))
    (hreleased : ∀ o ∈ released, ∃ id, o = .focus id) :
    Effect k created released s.objects { s with focus, now }.objects := by
  have hframe := h.frame (u := sessionObjects s.session ++ graphObjects s.graph ++ policyObjects s.policy) (v := [])
    (fun o ho hhas => ?_) fun o _ => not_has_nil o
  · simpa only [MediaServer.objects, List.append_nil] using hframe
  · obtain ⟨id, rfl⟩ := hreleased o ho
    simp only [has_append] at hhas
    rcases hhas with (hhas | hhas) | hhas
    · obtain ⟨addr', h | h⟩ := of_has_sessionObjects hhas <;> cases h
    · obtain ⟨addr', h⟩ := of_has_graphObjects hhas
      cases h
    · obtain ⟨addr', h⟩ := of_has_policyObjects hhas
      cases h

/-! ### One request -/

private theorem served_graph (hholds : s.Holds depth) (hfresh : out.Fresh s) {cmd : Option CString} {g : GraphResult}
    {kind : HandleKind} (hkind : kind = .player ∨ kind = .recorder)
    (hcreates : call.creates = if cmd = some "open".toList then some kind else none)
    (huses : call.uses = if cmd = none ∨ cmd = some "open".toList then none else some kind)
    (hreleases : ∀ data, call.releases data = none)
    (h : GraphServed out.graphOutcomes s.graph k (mediaServerGetData s.conns k) cmd g) :
    HandlerServed s depth k out call (s.graphResult g) where
  conns := rfl
  holds := hholds
  effect := by
    rw [hreleases]
    have hobject : ∀ word, kind.object word = .context word := by
      rcases hkind with rfl | rfl <;> exact fun _ => rfl
    have hpointer : kind ≠ .focus := by
      rcases hkind with rfl | rfl <;> decide
    refine ⟨g.stored.map .context, effect_graph h.effect nofun, fun o ho => ?_, ?_⟩
    · obtain ⟨addr, haddr, rfl⟩ := Option.map_eq_some_iff.1 ho
      rw [← hobject]
      exact not_has_of_fresh (hfresh addr (h.alloc addr haddr)) hpointer
    · show StoresCreated s depth out.alloc call.creates (g.stored.map .context) g.stored
      cases hstored : g.stored with
      | none => exact .inl ⟨rfl, rfl⟩
      | some word =>
        obtain ⟨hopen, -⟩ := h.stored.1 (hstored ▸ rfl)
        rw [hcreates, if_pos hopen]
        have haddr : out.alloc = some word := h.alloc word hstored
        exact .inr ⟨kind, word, rfl, rfl, .inl ⟨hpointer, haddr, congrArg some (hobject word).symm⟩⟩
  sent _ hn := by cases hn
  stored := by
    rw [hcreates]
    exact h.stored.trans (and_congr_left fun _ => Option.isSome_ite.symm)
  finalized o ho := by
    rw [hreleases] at ho
    cases ho
  alone _ c hc := by
    obtain ⟨hcmd, hopen, addr, hdata, hmem, hclosed⟩ := h.finalized c hc
    refine .inr ⟨addr, hdata, ?_, mem_objects.2 (.inr (.inl hmem)), fun c' hc' => ?_⟩
    · rw [huses, if_neg (not_or.2 ⟨hcmd, hopen⟩)]
      exact hkind.imp (congrArg some) (congrArg some)
    · rcases mem_objects.1 hc' with h | h | h | h
      · obtain ⟨addr', h | h⟩ := of_has_sessionObjects ⟨_, h⟩ <;> cases h
      · exact hclosed c' h
      · obtain ⟨addr', h⟩ := of_has_policyObjects ⟨_, h⟩
        cases h
      · obtain ⟨id, h⟩ := of_has_focusObjects ⟨_, h⟩
        cases h

/-- What a session command gives up is finalized by its own cookie. -/
private theorem session_finalizes {c : SessionCmd} {data : Option Nat} {o : ServerObject} (h : o ∈ c.releases data) :
    s.finalizes k o = s.session.finalizes o ∧ ∃ addr, o = .controller addr ∨ o = .controllee addr := by
  cases c with
  | unregister =>
    obtain ⟨addr, _, rfl⟩ := Option.map_eq_some_iff.1 h
    exact ⟨rfl, addr, .inr rfl⟩
  | close =>
    obtain ⟨addr, _, rfl⟩ := Option.map_eq_some_iff.1 h
    exact ⟨rfl, addr, .inl rfl⟩
  | _ => cases h

private theorem served_session (hholds : s.Holds depth) (hfresh : out.Fresh s) {target arg : Option (List UInt8)}
    {cmd : List UInt8} {len : BitVec 32} {g : SessionResult}
    (h : mediaSessionHandler s.session (sessionCall s k out target cmd arg len) = some g) :
    HandlerServed s depth k out (.session target (some cmd) arg len)
      { ret := g.ret, server := { s with session := g.session }, finalized := g.finalized
        stored := if sessionCmd (text cmd) = .register ∨ sessionCmd (text cmd) = .open then out.alloc else none
        sent := g.sent.map (sessionNotice (sessionCmd (text cmd))), response := g.response } := by
  have hserved := mediaSessionHandler_served h
  have hcreates : StubCall.creates (.session target (some cmd) arg len) = (sessionCmd (text cmd)).creates := rfl
  have hreleases : ∀ data, StubCall.releases data (.session target (some cmd) arg len) =
      (sessionCmd (text cmd)).releases data := fun _ => rfl
  have hcmd : (sessionCall s k out target cmd arg len).cmd = sessionCmd (text cmd) := rfl
  have hcreated : (sessionCall s k out target cmd arg len).created =
      (sessionCmd (text cmd)).creates.bind fun kind => out.alloc.map kind.object := by
    unfold SessionCall.created
    rw [hcmd]
    cases sessionCmd (text cmd) <;> rfl
  -- From here on only the kind of the command counts, not its text.
  generalize sessionCmd (text cmd) = c at *
  have hfinalized : g.finalized = (c.releases (mediaServerGetData s.conns k)).bind s.session.finalizes :=
    hcmd ▸ hserved.finalized
  refine ⟨rfl, hholds, ⟨(sessionCall s k out target cmd arg len).created, ?_, ?_, ?_⟩, ?_, ?_, ?_, ?_⟩
  · have heffect : Effect k (sessionCall s k out target cmd arg len).created (c.releases (mediaServerGetData s.conns k))
        (sessionObjects s.session) (sessionObjects g.session) := hcmd ▸ hserved.effect
    rw [hreleases]
    exact effect_session heffect fun o ho => (session_finalizes (s := s) (k := k) ho).2
  · rw [hcreated]
    intro o ho
    obtain ⟨kind, hkind, ho⟩ := Option.bind_eq_some_iff.1 ho
    obtain ⟨addr, haddr, rfl⟩ := Option.map_eq_some_iff.1 ho
    refine not_has_of_fresh (hfresh addr haddr) ?_
    rintro rfl
    cases c <;> cases hkind
  · rw [hcreates, hcreated]
    have hpointer : ∀ kind, c.creates = some kind →
        StoresCreated s depth out.alloc (some kind) (out.alloc.map kind.object) out.alloc := by
      intro kind hkind
      cases out.alloc with
      | none => exact .inl ⟨rfl, rfl⟩
      | some word =>
        refine .inr ⟨kind, word, rfl, rfl, .inl ⟨?_, rfl, rfl⟩⟩
        rintro rfl
        cases c <;> cases hkind
    cases c with
    | register => exact hpointer .controllee rfl
    | «open» => exact hpointer .controller rfl
    | _ => exact .inl ⟨rfl, rfl⟩
  · intro n hn
    obtain ⟨m, hm, rfl⟩ := List.mem_map.1 hn
    rw [← hcmd]
    exact mem_objects.2 (.inl (hserved.sent m hm))
  · rw [hcreates]
    have hret := hserved.ret
    rw [hcmd] at hret
    by_cases hc : c = .register ∨ c = .open
    · rw [if_pos hc, hret hc]
      rcases hc with rfl | rfl <;> exact ⟨fun h => ⟨rfl, h⟩, And.right⟩
    · rw [if_neg hc]
      cases c <;> simp_all [SessionCmd.creates]
  · intro o ho
    rw [hreleases] at ho
    show g.finalized = s.finalizes k o
    rw [hfinalized, Option.mem_def.1 ho, Option.bind_some, (session_finalizes ho).1]
  · intro hnone c' hc'
    have hc' : g.finalized = some c' := hc'
    rw [hreleases] at hnone
    rw [hfinalized, hnone] at hc'
    cases hc'

private theorem served_policy (hholds : s.Holds depth) (hfresh : out.Fresh s) {target cmd arg : Option (List UInt8)}
    {flags len : BitVec 32} {g : PolicyResult} (h : PolicyServed out.alloc s.policy k (mediaServerGetData s.conns k)
      (cmd.map text) g) :
    HandlerServed s depth k out (.policy target cmd arg flags len)
      { ret := g.ret, server := { s with policy := g.policy }, stored := g.stored, finalized := g.finalized
        response := g.response } := by
  have hcreates : StubCall.creates (.policy target cmd arg flags len) =
      if cmd.map text = some "subscribe".toList then some .subscription else none := rfl
  have huses : StubCall.uses (.policy target cmd arg flags len) =
      if cmd.map text = some "unsubscribe".toList then some .subscription else none := rfl
  have hreleases : StubCall.releases (mediaServerGetData s.conns k) (.policy target cmd arg flags len) =
      if cmd.map text = some "unsubscribe".toList then
        (mediaServerGetData s.conns k).map .subscription else none := rfl
  have hpointer : HandleKind.subscription ≠ .focus := by decide
  refine ⟨rfl, hholds, ⟨g.stored.map .subscription, ?_, ?_, ?_⟩, nofun, ?_, ?_, ?_⟩
  · rw [hreleases]
    refine effect_policy h.effect fun o ho => ?_
    split at ho
    · obtain ⟨addr, -, rfl⟩ := Option.map_eq_some_iff.1 ho
      exact ⟨addr, rfl⟩
    · cases ho
  · intro o ho
    obtain ⟨addr, haddr, rfl⟩ := Option.map_eq_some_iff.1 ho
    exact not_has_of_fresh (hfresh addr (h.handle addr haddr)) hpointer
  · show StoresCreated s depth out.alloc _ (g.stored.map .subscription) g.stored
    cases hstored : g.stored with
    | none => exact .inl ⟨rfl, rfl⟩
    | some word =>
      obtain ⟨hsubscribe, -⟩ := h.stored.1 (hstored ▸ rfl)
      rw [hcreates, if_pos hsubscribe]
      exact .inr ⟨.subscription, word, rfl, rfl, .inl ⟨hpointer, h.handle word hstored, rfl⟩⟩
  · rw [hcreates]
    exact h.stored.trans (and_congr_left fun _ => Option.isSome_ite.symm)
  · intro o ho
    rw [hreleases] at ho
    split at ho
    · rename_i hunsubscribe
      obtain ⟨addr, -, rfl⟩ := Option.map_eq_some_iff.1 ho
      show g.finalized = some k
      rw [h.finalized, if_pos hunsubscribe]
    · cases ho
  · intro hnone c hc
    have hc : g.finalized = some c := hc
    rw [h.finalized] at hc
    split at hc
    · rename_i hunsubscribe
      rw [hreleases, if_pos hunsubscribe] at hnone
      refine .inl ⟨(Option.some.inj hc).symm, .inr ⟨?_, Option.map_eq_none_iff.1 hnone⟩⟩
      rw [huses, if_pos hunsubscribe]
    · cases hc

private theorem served_focus {target cmd : Option (List UInt8)} {len : BitVec 32} {g : FocusHandlerResult}
    (h : FocusServed s.focus depth k (mediaServerGetData s.conns k) (cmd.map text) g) :
    HandlerServed s depth k out (.focus target cmd len)
      { ret := g.ret, server := { s with focus := g.focus, now := g.now }, stored := g.stored
        finalized := g.finalized, sent := g.events.filterMap focusNotice, response := g.response } := by
  obtain ⟨created, heffect, hnew, hstored⟩ := h.effect
  have hcreates : StubCall.creates (.focus target cmd len) =
      if cmd.map text = some "request".toList then some .focus else none := rfl
  have huses : StubCall.uses (.focus target cmd len) =
      if cmd.map text = some "abandon".toList then some .focus else none := rfl
  have hreleases : StubCall.releases (mediaServerGetData s.conns k) (.focus target cmd len) =
      if cmd.map text = some "abandon".toList then focusEntry (mediaServerGetData s.conns k) else none := rfl
  refine ⟨rfl, ?_, ⟨created, ?_, ?_, ?_⟩, ?_, ?_, ?_, ?_⟩
  · obtain ⟨hs, H, hl⟩ := h.holds
    exact ⟨hs, H, h.table ▸ hl⟩
  · rw [hreleases]
    refine effect_focus heffect fun o ho => ?_
    split at ho
    · unfold focusEntry at ho
      split at ho
      · cases ho
      · cases ho
        exact ⟨_, rfl⟩
    · cases ho
  · intro o ho hhas
    have hfocus : ∃ n : Nat, o = .focus n := by
      rcases hstored with ⟨hnone, -⟩ | ⟨n, -, -, hcreated, -⟩
      · rw [hnone] at ho
        cases ho
      · rw [hcreated] at ho
        split at ho
        · cases ho
          exact ⟨n, rfl⟩
        · cases ho
    obtain ⟨n, rfl⟩ := hfocus
    simp only [MediaServer.objects, has_append] at hhas
    -- A handle of the focus is no object of the other three modules.
    rcases hhas with ((hhas | hhas) | hhas) | hhas
    · obtain ⟨addr', h | h⟩ := of_has_sessionObjects hhas <;> cases h
    · obtain ⟨addr', h⟩ := of_has_graphObjects hhas
      cases h
    · obtain ⟨addr', h⟩ := of_has_policyObjects hhas
      cases h
    · exact hnew _ ho hhas
  · rcases hstored with ⟨hnone, hstored⟩ | ⟨n, hn, hfree, hcreated, hword⟩
    · exact .inl ⟨hnone, hstored⟩
    · have hrequest := (h.stored.1 (hword ▸ rfl)).1
      rw [hcreates, if_pos hrequest]
      exact .inr ⟨.focus, _, rfl, hword, .inr ⟨rfl, n, hn, hfree, rfl, hcreated⟩⟩
  · intro n hn
    exact mem_objects.2 (.inr (.inr (.inr (h.sent n hn))))
  · rw [hcreates]
    exact h.stored.trans (and_congr_left fun _ => Option.isSome_ite.symm)
  · intro o ho
    rw [hreleases] at ho
    split at ho
    · rename_i habandon
      unfold focusEntry at ho
      split at ho
      · cases ho
      · cases ho
        show g.finalized = some k
        rw [h.finalized, if_pos habandon]
    · cases ho
  · intro _ c hc
    have hc : g.finalized = some c := hc
    rw [h.finalized] at hc
    split at hc
    · rename_i habandon
      refine .inl ⟨(Option.some.inj hc).symm, .inl ?_⟩
      rw [huses, if_pos habandon]
    · cases hc

theorem mediaStubHandle_served (hholds : s.Holds depth) (hfresh : out.Fresh s)
    (h : mediaStubHandle s k out call = some r) : HandlerServed s depth k out call r := by
  have huses : ∀ {cmd : Option (List UInt8)} {kind : HandleKind},
      (if cmd = none ∨ cmd.map text = some "open".toList then none else some kind) =
        if cmd.map text = none ∨ cmd.map text = some "open".toList then none else some kind := by
    intro cmd kind
    simp only [Option.map_eq_none_iff]
  cases call with
  | graph target cmd arg len =>
    obtain ⟨g, hg, rfl⟩ := Option.map_eq_some_iff.1 h
    obtain ⟨hobjects, hstored, hfinalized⟩ := mediaGraphHandler_served hg
    have hsame : (s.graphResult g).server.objects = s.objects := by
      simp only [MediaServer.objects, MediaServer.graphResult, hobjects]
    refine ⟨rfl, hholds, ⟨none, ?_, nofun, .inl ⟨rfl, hstored⟩⟩, nofun, ?_, nofun, fun _ c hc => ?_⟩
    · rw [hsame]
      exact .refl ..
    · show g.stored.isSome ↔ _
      simp [hstored, StubCall.creates]
    · have hc : g.finalized = some c := hc
      rw [hfinalized] at hc
      cases hc
  | player target cmd arg len =>
    obtain ⟨g, hg, rfl⟩ := Option.map_eq_some_iff.1 h
    exact served_graph hholds hfresh (.inl rfl) rfl huses (fun _ => rfl) (mediaCommonHandler_served hg)
  | recorder target cmd arg len =>
    obtain ⟨g, hg, rfl⟩ := Option.map_eq_some_iff.1 h
    exact served_graph hholds hfresh (.inr rfl) rfl huses (fun _ => rfl) (mediaCommonHandler_served hg)
  | session target cmd arg len =>
    obtain ⟨cmd, rfl, hcall⟩ := Option.bind_eq_some_iff.1 h
    obtain ⟨g, hg, rfl⟩ := Option.map_eq_some_iff.1 hcall
    exact served_session hholds hfresh hg
  | policy target cmd arg flags len =>
    obtain ⟨g, hg, rfl⟩ := Option.map_eq_some_iff.1 h
    exact served_policy hholds hfresh (mediaPolicyHandler_served hg)
  | focus target cmd len =>
    obtain ⟨g, hg, rfl⟩ := Option.map_eq_some_iff.1 h
    obtain ⟨hs, H, hl⟩ := hholds
    exact served_focus (mediaFocusHandler_served H hl hg)

theorem mediaStubHandle_finalized (hholds : s.Holds depth) (h : mediaStubHandle s k out call = some r) :
    r.finalized = call.finalizes s k out := by
  cases call with
  | graph target cmd arg len =>
    obtain ⟨g, hg, rfl⟩ := Option.map_eq_some_iff.1 h
    exact (mediaGraphHandler_served hg).2.2
  | player target cmd arg len | recorder target cmd arg len =>
    obtain ⟨g, hg, rfl⟩ := Option.map_eq_some_iff.1 h
    exact (mediaCommonHandler_finalized hg).1
  | session target cmd arg len =>
    obtain ⟨cmd, rfl, hcall⟩ := Option.bind_eq_some_iff.1 h
    obtain ⟨g, hg, rfl⟩ := Option.map_eq_some_iff.1 hcall
    exact (mediaSessionHandler_served hg).finalized
  | policy target cmd arg flags len =>
    obtain ⟨g, hg, rfl⟩ := Option.map_eq_some_iff.1 h
    exact (mediaPolicyHandler_served hg).finalized
  | focus target cmd len =>
    obtain ⟨g, hg, rfl⟩ := Option.map_eq_some_iff.1 h
    obtain ⟨hs, H, hl⟩ := hholds
    exact (mediaFocusHandler_served H hl hg).finalized

/-- What a call that closes a context returns. -/
theorem mediaStubHandle_closing (h : mediaStubHandle s k out call = some r) {arg : Option CString} {len : BitVec 32}
    (hclosing : call.closing = some (arg, len)) :
    ∀ ctx ∈ (mediaServerGetData s.conns k).bind s.graph.context,
      r.ret = closeRet out.graphOutcomes s.graph ctx arg (out.hasRes len) := by
  have hclose : ∀ {cmd : Option (List UInt8)} {arg' : Option (List UInt8)} {len' : BitVec 32},
      (if cmd.map text = some "close".toList then some (arg'.map text, len') else none) = some (arg, len) →
        cmd.map text = some "close".toList ∧ arg'.map text = arg ∧ len' = len := by
    intro cmd arg' len' hif
    split at hif
    · cases hif
      exact ⟨‹_›, rfl, rfl⟩
    · cases hif
  cases call with
  | player target cmd arg' len' | recorder target cmd arg' len' =>
    obtain ⟨g, hg, rfl⟩ := Option.map_eq_some_iff.1 h
    obtain ⟨hcmd, rfl, rfl⟩ := hclose hclosing
    exact (mediaCommonHandler_finalized hg).2 hcmd
  | _ => cases hclosing

/-- The entries after a request: the word of the connection that was served, and what was finalized. -/
theorem HandlerResult.conns_get (r : HandlerResult) (k c : Nat) :
    (r.conns k)[c]? = r.server.conns[c]?.map fun conn =>
      let conn := if k = c ∧ r.stored.isSome then { conn with data := r.stored } else conn
      if r.finalized = some c then mediaServerConnFinalize conn else conn := by
  unfold HandlerResult.conns
  rw [mediaServerFinalize_get]
  cases hstored : r.stored with
  | none => simp
  | some word =>
    dsimp only
    rw [mediaServerSetData_get, Option.map_map]
    simp [Function.comp_def]

/-! ### Runs -/

/-- A connection, a request with what it meets, a `CREATE_NOTIFY` message with the socket that comes of it, the end of a
connection, an event of the filter of a context, and a change that is reported to a subscriber. -/
inductive ServerInput
  | accept (newFd : Int)
  | message (k : Nat) (call : StubCall) (out : StubOutcomes)
  | createNotify (k : Nat) (fd : Int)
  | hangup (k : Nat)
  | filterEvent (addr : Nat) (event : AVMovieAsyncEvent) (result : BitVec 32) (extra : Option CString)
  | policyChange (addr : Nat) (number : BitVec 32) (literal : Option CString)

/-- `stored` is what is stored for the connection that is served, `finalized` the connection that is finalized. -/
structure ServerResult where
  server : MediaServer
  ret : Int := 0
  stored : Option Nat := none
  finalized : Option Nat := none
  sent : List Notice := []

/-- The entry has a client. -/
def MediaServer.InUse (s : MediaServer) (k : Nat) : Prop := ∃ conn ∈ s.conns[k]?, 0 < conn.tranFd

instance (s : MediaServer) (k : Nat) : Decidable (s.InUse k) := inferInstanceAs (Decidable (∃ _ ∈ _, _))

/-- `zalloc` gives an address that is not in use, and the descriptor 0 is never free. -/
def serverStep (s : MediaServer) : ServerInput → Option ServerResult
  | .accept newFd =>
    if newFd = 0 then none
    else
      let r := mediaServerAccept s.conns newFd
      some { server := { s with conns := r.2 }, ret := r.1 }
  | .message k call out =>
    if s.InUse k ∧ out.Fresh s then
      (mediaStubHandle s k out call).map fun r =>
        { server := { r.server with conns := r.conns k }, ret := r.ret, stored := r.stored, finalized := r.finalized
          sent := r.sent }
    else none
  | .createNotify k fd =>
    if s.InUse k then some { server := { s with conns := s.conns.modify k (·.createNotify fd) } } else none
  | .hangup k =>
    if s.InUse k then some { server := { s with conns := s.conns.modify k MediaServerConn.close } } else none
  | .filterEvent addr event result extra =>
    (mediaCommonEventCb s.graph addr event result extra).map fun r =>
      { server := { s with graph := r.graph, conns := mediaServerFinalize s.conns r.finalized }
        finalized := r.finalized, sent := r.sent.map contextNotice }
  | .policyChange addr number literal =>
    (s.policy.find? fun p => p.addr == addr).map fun p =>
      { server := s, sent := [⟨.subscription p.addr, p.cookie, 0, number, literal⟩] }

section Inversion

variable {newFd fd : Int} {r : ServerResult}

theorem serverStep_accept (h : serverStep s (.accept newFd) = some r) :
    newFd ≠ 0 ∧ r = { server := { s with conns := (mediaServerAccept s.conns newFd).2 }
                      ret := (mediaServerAccept s.conns newFd).1 } := by
  have h : (if newFd = 0 then none else _) = some r := h
  by_cases hfd : newFd = 0
  · rw [if_pos hfd] at h
    cases h
  · rw [if_neg hfd] at h
    cases h
    exact ⟨hfd, rfl⟩

theorem serverStep_message (h : serverStep s (.message k call out) = some r) :
    s.InUse k ∧ out.Fresh s ∧ ∃ g, mediaStubHandle s k out call = some g ∧
      r = { server := { g.server with conns := g.conns k }, ret := g.ret, stored := g.stored
            finalized := g.finalized, sent := g.sent } := by
  have h : (if s.InUse k ∧ out.Fresh s then _ else none) = some r := h
  by_cases hproper : s.InUse k ∧ out.Fresh s
  · rw [if_pos hproper] at h
    obtain ⟨g, hg, rfl⟩ := Option.map_eq_some_iff.1 h
    exact ⟨hproper.1, hproper.2, g, hg, rfl⟩
  · rw [if_neg hproper] at h
    cases h

theorem serverStep_createNotify (h : serverStep s (.createNotify k fd) = some r) :
    s.InUse k ∧ r = { server := { s with conns := s.conns.modify k (·.createNotify fd) } } := by
  have h : (if s.InUse k then _ else none) = some r := h
  by_cases huse : s.InUse k
  · rw [if_pos huse] at h
    cases h
    exact ⟨huse, rfl⟩
  · rw [if_neg huse] at h
    cases h

theorem serverStep_hangup (h : serverStep s (.hangup k) = some r) :
    s.InUse k ∧ r = { server := { s with conns := s.conns.modify k MediaServerConn.close } } := by
  have h : (if s.InUse k then _ else none) = some r := h
  by_cases huse : s.InUse k
  · rw [if_pos huse] at h
    cases h
    exact ⟨huse, rfl⟩
  · rw [if_neg huse] at h
    cases h

end Inversion

/-- The server with `maxConn` entries, the given filters, and a focus stack of `depth` slots. -/
def mediaServerInit (maxConn : Nat) (filters : List AVFilterContext) (t : InteractionTable) (depth : Nat) : MediaServer :=
  { conns := List.replicate maxConn {}, focus := mediaFocusInit t depth, graph := { filters } }

/-- The object that a step gives up, and the connection that is finalized with it. -/
def ServerInput.releases (s : MediaServer) : ServerInput → Option (ServerObject × Option Nat)
  | .message k call _ => (call.releases (mediaServerGetData s.conns k)).map fun o => (o, s.finalizes k o)
  | .filterEvent addr .closed _ _ =>
    some (.context addr, (s.graph.context addr).bind MediaFilterPriv.cookie)
  | _ => none

/-- The connection that a step finalizes. -/
def ServerInput.finalizes (s : MediaServer) : ServerInput → Option Nat
  | .message k call out => call.finalizes s k out
  | .filterEvent addr .closed _ _ => (s.graph.context addr).bind MediaFilterPriv.cookie
  | _ => none

/-- The connection that a step serves. -/
def ServerInput.served : ServerInput → Nat
  | .message k _ _ => k
  | _ => 0

def ServerInput.creates : ServerInput → Option HandleKind
  | .message _ call _ => call.creates
  | _ => none

/-- What `zalloc` gives to a request. -/
def ServerInput.alloc : ServerInput → Option Nat
  | .message _ _ out => out.alloc
  | _ => none

/-- What a step does to the objects, from which objects it notifies, what it stores, and whom it finalizes. -/
structure StepServed (s : MediaServer) (depth : Nat) (i : ServerInput) (r : ServerResult) : Prop where
  holds : r.server.Holds depth
  effect : ∃ created, Effect i.served created ((i.releases s).map Prod.fst) s.objects r.server.objects ∧
    (∀ o ∈ created, ¬ Has s.objects o) ∧ StoresCreated s depth i.alloc i.creates created r.stored
  sent : ∀ n ∈ r.sent, (n.source, n.cookie) ∈ s.objects
  finalized : ∀ p ∈ i.releases s, r.finalized = p.2
  alone : i.releases s = none → ∀ c, r.finalized = some c →
    ∃ k call out, i = .message k call out ∧ FinalizedAlone s r.server k call c

theorem ServerInput.message_of_creates {i : ServerInput} (h : i.creates ≠ none) :
    ∃ k call out, i = .message k call out := by
  cases i with
  | message k call out => exact ⟨k, call, out, rfl⟩
  | _ => exact absurd rfl h

theorem StoresCreated.creates {alloc stored : Option Nat} {kind : Option HandleKind} {created : Option ServerObject}
    (h : StoresCreated s depth alloc kind created stored) (hcreated : created ≠ none) : kind ≠ none := by
  rcases h with ⟨hnone, -⟩ | ⟨kind', word, rfl, -⟩
  · exact absurd hnone hcreated
  · exact Option.some_ne_none _

/-- A step that only touches the entries of the connections. -/
theorem StepServed.idle {i : ServerInput} (hholds : s.Holds depth) (hi : i.releases s = none)
    (conns : MediaServerConns) (ret : Int) : StepServed s depth i { server := { s with conns }, ret } where
  holds := hholds
  effect := by
    rw [hi]
    exact ⟨none, .refl .., nofun, .inl ⟨rfl, rfl⟩⟩
  sent _ hn := by cases hn
  finalized p hp := by
    rw [hi] at hp
    cases hp
  alone _ c hc := by cases hc

theorem serverStep_served {i : ServerInput} {r : ServerResult} (hholds : s.Holds depth) (h : serverStep s i = some r) :
    StepServed s depth i r := by
  cases i with
  | accept newFd =>
    obtain ⟨-, rfl⟩ := serverStep_accept h
    exact .idle hholds rfl _ _
  | message k call out =>
    obtain ⟨-, hfresh, g, hg, rfl⟩ := serverStep_message h
    have hserved := mediaStubHandle_served hholds hfresh hg
    obtain ⟨created, heffect, hnew, hstored⟩ := hserved.effect
    refine ⟨hserved.holds, ⟨created, ?_, hnew, hstored⟩, hserved.sent, fun p hp => ?_, fun hnone c hc => ?_⟩
    · have hreleases : (ServerInput.releases s (.message k call out)).map Prod.fst =
          call.releases (mediaServerGetData s.conns k) := by
        simp only [ServerInput.releases, Option.map_map, Function.comp_def, Option.map_id']
      rw [hreleases]
      exact heffect
    · obtain ⟨o, ho, rfl⟩ := Option.map_eq_some_iff.1 hp
      exact hserved.finalized o ho
    · exact ⟨k, call, out, rfl, hserved.alone (Option.map_eq_none_iff.1 hnone) c hc⟩
  | createNotify k fd =>
    obtain ⟨-, rfl⟩ := serverStep_createNotify h
    exact .idle hholds rfl _ _
  | hangup k =>
    obtain ⟨-, rfl⟩ := serverStep_hangup h
    exact .idle hholds rfl _ _
  | filterEvent addr event result extra =>
    -- A context is freed with the CLOSED event only, which finalizes the connection of its cookie.
    obtain ⟨g, hg, rfl⟩ := Option.map_eq_some_iff.1 h
    obtain ⟨heffect, hsent, -, hopen⟩ := mediaCommonEventCb_served (k := 0) hg
    have hreleases : (ServerInput.releases s (.filterEvent addr event result extra)).map Prod.fst =
        if event = .closed then some (.context addr) else none := by
      cases event <;> rfl
    refine ⟨hholds, ⟨none, ?_, nofun, .inl ⟨rfl, rfl⟩⟩, fun n hn => ?_, fun p hp => ?_, fun hnone c hc => ?_⟩
    · rw [hreleases]
      refine effect_graph heffect fun o ho => ?_
      split at ho
      · cases ho
        exact ⟨addr, rfl⟩
      · cases ho
    · obtain ⟨m, hm, rfl⟩ := List.mem_map.1 hn
      exact mem_objects.2 (.inr (.inl (hsent m hm)))
    · obtain ⟨ctx, hctx, rfl⟩ := Option.map_eq_some_iff.1 hg
      cases event with
      | closed =>
        cases hp
        show ctx.cookie = _
        rw [hctx]
        rfl
      | _ => cases hp
    · have hc : g.finalized = some c := hc
      have hevent : event ≠ .closed := by
        rintro rfl
        cases hnone
      rw [hopen hevent] at hc
      cases hc
  | policyChange addr number literal =>
    obtain ⟨p, hp, rfl⟩ := Option.map_eq_some_iff.1 h
    refine ⟨hholds, ⟨none, .refl .., nofun, .inl ⟨rfl, rfl⟩⟩, fun n hn => ?_, nofun, nofun⟩
    obtain rfl := List.mem_singleton.1 hn
    have hmem : (ServerObject.subscription p.addr, p.cookie) ∈ policyObjects s.policy :=
      List.mem_map_of_mem (List.mem_of_find?_eq_some hp)
    exact mem_objects.2 (.inr (.inr (.inl hmem)))

theorem serverStep_finalizes {i : ServerInput} {r : ServerResult} (hholds : s.Holds depth)
    (h : serverStep s i = some r) : r.finalized = i.finalizes s := by
  cases i with
  | accept newFd =>
    obtain ⟨-, rfl⟩ := serverStep_accept h
    rfl
  | message k call out =>
    obtain ⟨-, -, g, hg, rfl⟩ := serverStep_message h
    exact mediaStubHandle_finalized hholds hg
  | createNotify k fd =>
    obtain ⟨-, rfl⟩ := serverStep_createNotify h
    rfl
  | hangup k =>
    obtain ⟨-, rfl⟩ := serverStep_hangup h
    rfl
  | filterEvent addr event result extra =>
    have hserved := serverStep_served hholds h
    cases event with
    | closed => exact hserved.finalized _ rfl
    | _ =>
      obtain ⟨g, hg, rfl⟩ := Option.map_eq_some_iff.1 h
      exact (mediaCommonEventCb_served (k := 0) hg).2.2.2 nofun
  | policyChange addr number literal =>
    obtain ⟨p, -, rfl⟩ := Option.map_eq_some_iff.1 h
    rfl

theorem mediaServerInit_holds (maxConn : Nat) (filters : List AVFilterContext) (t : InteractionTable) (depth : Nat) :
    (mediaServerInit maxConn filters t depth).Holds depth :=
  ⟨[], holds_init depth, by simp [LevelsBelow]⟩

theorem mediaServerInit_conn {maxConn : Nat} {filters : List AVFilterContext} {t : InteractionTable} {depth c : Nat}
    {conn : MediaServerConn} (h : (mediaServerInit maxConn filters t depth).conns[c]? = some conn) : conn = {} :=
  (List.mem_replicate.1 (List.mem_of_getElem? h)).2

theorem mediaServerInit_idle (maxConn : Nat) (filters : List AVFilterContext) (t : InteractionTable) (depth c : Nat) :
    ¬ (mediaServerInit maxConn filters t depth).InUse c := by
  rintro ⟨conn, hconn, hpos⟩
  rw [mediaServerInit_conn hconn] at hpos
  exact absurd hpos (by decide)

end MediaFramework
