import MediaFramework.Server.ServerRecord

/-!
# The handles of the connections

A connection has one word for its handle, whatever the handle is for.  A handler takes the word for what its command is
about: it can only be right about that if the client is.
-/

namespace MediaFramework

open Machine Registry ServerRecord

variable {maxConn depth : Nat} {filters : List AVFilterContext} {t : InteractionTable} {s : MediaServer}
  {r r' : ServerResult} {h : ServerRecord} {i : ServerInput} {k c : Nat} {call : StubCall} {out : StubOutcomes}

/-! ### What a handler takes the word for -/

/-- The handles of the module that a call is for. -/
def StubCall.kinds : StubCall → List HandleKind
  | policy .. => [.subscription]
  | focus .. => [.focus]
  | graph .. => []
  | player .. => [.player]
  | recorder .. => [.recorder]
  | session .. => [.controller, .controllee]

/-- Whatever is in the modules, the handler has a result only if there is an object of the kind at the word.  A focus
handle is a number: the handler finalizes the connection, and abandons the handle. -/
def TakesWord (conns : MediaServerConns) (k : Nat) (out : StubOutcomes) (call : StubCall) (word : Nat)
    (kind : HandleKind) : Prop :=
  ∀ (s : MediaServer) (g : HandlerResult), s.conns = conns → mediaStubHandle s k out call = some g →
    if kind = .focus then g.finalized = some k ∧
      g.server.focus = (mediaFocusAbandon daemonAlive s.focus s.now (focusHandle (some word))).focus
    else Has s.objects (kind.object word)

/-- With the right things in the modules, the handler goes on to the end. -/
def Serves (conns : MediaServerConns) (k : Nat) (out : StubOutcomes) (call : StubCall) : Prop :=
  ∃ s : MediaServer, s.conns = conns ∧ (mediaStubHandle s k out call).isSome = true

/-- The handler of a module that has such handles takes the word of the connection for one. -/
structure HandlerTakes (conns : MediaServerConns) (k : Nat) (out : StubOutcomes) (call : StubCall) (kind : HandleKind) :
    Prop where
  module : kind ∈ call.kinds
  served : Serves conns k out call
  takes : ∃ word, mediaServerGetData conns k = some word ∧ TakesWord conns k out call word kind

theorem mediaCommonHandler_uses {out : GraphOutcomes} {g : MediaGraphPriv} {cookie addr : Nat}
    {target cmd arg : Option CString} {hasRes player : Bool} {r : GraphResult}
    (h : mediaCommonHandler out g cookie (some addr) target cmd arg hasRes player = some r)
    (hopen : cmd ≠ some "open".toList) : Has (graphObjects g) (.context addr) := by
  unfold mediaCommonHandler at h
  obtain ⟨cmd, rfl, hcall⟩ := Option.bind_eq_some_iff.1 h
  have hother : cmd ≠ "open".toList := fun heq => hopen (congrArg some heq)
  rw [if_neg hother] at hcall
  obtain ⟨ctx, hctx, -⟩ := Option.map_eq_some_iff.1 hcall
  obtain ⟨hmem, rfl⟩ := mem_of_context hctx
  exact ⟨ctx.cookie, List.mem_map_of_mem hmem⟩

theorem mediaSessionHandler_uses {s : MediaSessionPriv} {call : SessionCall} {r : SessionResult} {addr : Nat}
    (h : mediaSessionHandler s call = some r) (hdata : call.data = some addr) {kind : HandleKind}
    (hkind : call.cmd.uses = some kind) : Has (sessionObjects s) (kind.object addr) := by
  have hcontrollee : ∀ c, s.controllee addr = some c → Has (sessionObjects s) (.controllee addr) := by
    intro c hc
    have haddr : c.addr = addr := by simpa using List.find?_some hc
    exact ⟨c.cookie, mem_sessionObjects.2 (.inr ⟨c, List.mem_of_find?_eq_some hc, haddr ▸ rfl⟩)⟩
  have hcontroller : ∀ c, s.controller addr = some c → Has (sessionObjects s) (.controller addr) := by
    intro c hc
    have haddr : c.addr = addr := by simpa using List.find?_some hc
    exact ⟨c.cookie, mem_sessionObjects.2 (.inl ⟨c, List.mem_of_find?_eq_some hc, haddr ▸ rfl⟩)⟩
  unfold mediaSessionHandler at h
  rw [hdata] at h
  cases hcmd : call.cmd with
  | unregister =>
    rw [hcmd] at h hkind
    cases hkind
    obtain ⟨c, hc, -⟩ := Option.map_eq_some_iff.1 h
    exact hcontrollee c hc
  | event | update =>
    rw [hcmd] at h hkind
    cases hkind
    obtain ⟨c, hc, -⟩ := Option.bind_eq_some_iff.1 h
    exact hcontrollee c hc
  | close | setEvent =>
    rw [hcmd] at h hkind
    cases hkind
    obtain ⟨c, hc, -⟩ := Option.map_eq_some_iff.1 h
    exact hcontroller c hc
  | _ =>
    rw [hcmd] at hkind
    cases hkind

/-- A handler that goes on has found the object that it takes the word for. -/
theorem mediaStubHandle_uses {g : HandlerResult} (h : mediaStubHandle s k out call = some g) {kind : HandleKind}
    {word : Nat} (hkind : call.uses = some kind) (hword : mediaServerGetData s.conns k = some word)
    (hfocus : kind ≠ .focus) : Has s.objects (kind.object word) := by
  have hcommon : ∀ {cmd : Option (List UInt8)} {kind' : HandleKind},
      (if cmd = none ∨ cmd.map text = some "open".toList then none else some kind') = some kind →
        cmd.map text ≠ some "open".toList ∧ kind' = kind := by
    intro cmd kind' hif
    split at hif
    · cases hif
    · rename_i hcmd
      exact ⟨fun heq => hcmd (.inr heq), Option.some.inj hif⟩
  cases call with
  | graph target cmd arg len => cases hkind
  | player target cmd arg len =>
    obtain ⟨hopen, rfl⟩ := hcommon hkind
    obtain ⟨g, hg, -⟩ := Option.map_eq_some_iff.1 h
    rw [hword] at hg
    obtain ⟨c, hc⟩ := mediaCommonHandler_uses hg hopen
    exact ⟨c, mem_objects.2 (.inr (.inl hc))⟩
  | recorder target cmd arg len =>
    obtain ⟨hopen, rfl⟩ := hcommon hkind
    obtain ⟨g, hg, -⟩ := Option.map_eq_some_iff.1 h
    rw [hword] at hg
    obtain ⟨c, hc⟩ := mediaCommonHandler_uses hg hopen
    exact ⟨c, mem_objects.2 (.inr (.inl hc))⟩
  | session target cmd arg len =>
    obtain ⟨cmd, rfl, hcall⟩ := Option.bind_eq_some_iff.1 h
    obtain ⟨g, hg, -⟩ := Option.map_eq_some_iff.1 hcall
    obtain ⟨c, hc⟩ := mediaSessionHandler_uses hg hword hkind
    exact ⟨c, mem_objects.2 (.inl hc)⟩
  | policy target cmd arg flags len =>
    obtain ⟨g, hg, -⟩ := Option.map_eq_some_iff.1 h
    rw [hword] at hg
    have hif : (if cmd.map text = some "unsubscribe".toList then some HandleKind.subscription else none) = some kind :=
      hkind
    split at hif
    · rename_i hcmd
      cases hif
      rw [hcmd] at hg
      have hg : ((s.policy.find? fun p => p.addr == word).map fun _ => _) = some g := hg
      obtain ⟨p, hp, -⟩ := Option.map_eq_some_iff.1 hg
      have haddr : p.addr = word := by simpa using List.find?_some hp
      have hmem : (ServerObject.subscription p.addr, p.cookie) ∈ policyObjects s.policy :=
        List.mem_map_of_mem (List.mem_of_find?_eq_some hp)
      exact ⟨p.cookie, mem_objects.2 (.inr (.inr (.inl (haddr ▸ hmem))))⟩
    · cases hif
  | focus target cmd len =>
    have hif : (if cmd.map text = some "abandon".toList then some HandleKind.focus else none) = some kind := hkind
    split at hif
    · cases hif
      exact absurd rfl hfocus
    · cases hif

/-- No module has an object. -/
def MediaServer.emptied (s : MediaServer) : MediaServer := { s with session := {}, graph := {}, policy := [] }

theorem not_has_emptied {kind : HandleKind} (hkind : kind ≠ .focus) (word : Nat) :
    ¬ Has s.emptied.objects (kind.object word) := by
  refine not_has_of_fresh ?_ hkind
  simp [MediaServer.emptied, MediaServer.addrs, MediaSessionPriv.addrs, MediaSessionPriv.controlleeAddrs]

/-- A handler that goes on although the modules are empty takes the word for no object. -/
theorem not_takesWord_of_emptied {word : Nat} {kind : HandleKind} (hkind : kind ≠ .focus)
    (hserved : (mediaStubHandle s.emptied k out call).isSome = true) : ¬ TakesWord s.conns k out call word kind := by
  intro htakes
  obtain ⟨g, hg⟩ := Option.isSome_iff_exists.1 hserved
  have hhas := htakes s.emptied g rfl hg
  rw [if_neg hkind] at hhas
  exact not_has_emptied hkind word hhas

theorem mediaCommonHandler_emptied {out : GraphOutcomes} {g : MediaGraphPriv} {data : Option Nat}
    {target cmd arg : Option CString} {hasRes player : Bool} (hcmd : cmd = none ∨ cmd = some "open".toList)
    (h : (mediaCommonHandler out g k data target cmd arg hasRes player).isSome = true) :
    (mediaCommonHandler out {} k data target cmd arg hasRes player).isSome = true := by
  rcases hcmd with rfl | rfl
  · cases h
  · rfl

theorem mediaPolicyHandler_isSome {handle data : Option Nat} {ret : Int} {response : Option CString}
    {policy : List PolicySubscriber} {cookie : Nat} {name cmd value : Option CString} {res : Bool} {len : Nat}
    (hcmd : cmd ≠ some "unsubscribe".toList)
    (h : (mediaPolicyHandler handle ret response policy cookie data name cmd value res len).isSome = true) :
    (mediaPolicyHandler handle ret response [] cookie data name cmd value res len).isSome = true := by
  unfold mediaPolicyHandler at h ⊢
  cases cmd with
  | none => rfl
  | some cmd =>
    have hother : cmd ≠ "unsubscribe".toList := fun heq => hcmd (congrArg some heq)
    simp only [if_neg hother] at h ⊢
    split
    · rfl
    · rename_i hping
      rw [if_neg hping] at h
      split
      · cases handle <;> rfl
      · rename_i hsubscribe
        rw [if_neg hsubscribe] at h
        split
        · rename_i hset
          rw [if_pos hset] at h
          cases h
        · rename_i hset
          rw [if_neg hset] at h
          split
          · rename_i hprints
            rw [if_pos hprints] at h
            cases h
          · split <;> rfl

theorem mediaFocusHandler_finalized {focus : MediaFocus} {now cookie : Nat} {data : Option Nat}
    {name : Option CString} {cmd : CString} {res : Bool} {len : Nat} {g : FocusHandlerResult}
    (h : mediaFocusHandler focus now cookie data name (some cmd) res len = some g) :
    (cmd = "abandon".toList → g.finalized = some cookie ∧
        g.focus = (mediaFocusAbandon daemonAlive focus now (focusHandle data)).focus) ∧
      (cmd ≠ "abandon".toList → g.finalized = none) := by
  unfold mediaFocusHandler at h
  rw [Option.bind_some] at h
  by_cases habandon : cmd = "abandon".toList
  · refine ⟨fun _ => ?_, fun hnot => absurd habandon hnot⟩
    rw [if_neg (by rw [habandon]; decide), if_neg (by rw [habandon]; decide), if_pos habandon] at h
    cases h
    exact ⟨rfl, rfl⟩
  · refine ⟨fun heq => absurd heq habandon, fun _ => ?_⟩
    rw [if_neg habandon] at h
    split at h
    · cases h
      rfl
    · split at h
      · dsimp only at h
        split at h <;> (cases h; rfl)
      · split at h
        · cases h
          rfl
        · split at h
          · split at h
            · cases h
              rfl
            · split at h
              · cases h
              · cases h
                rfl
          · cases h
            rfl

theorem not_has_controller (controllees : List MediaControlleePriv) (word : Nat) :
    ¬ Has (sessionObjects { controllees }) (.controller word) := by
  rintro ⟨c, hc⟩
  rcases mem_sessionObjects.1 hc with ⟨d, hd, -⟩ | ⟨d, -, heq⟩
  · cases hd
  · cases heq

theorem not_has_controllee (controllers : List MediaControllerPriv) (word : Nat) :
    ¬ Has (sessionObjects { controllers }) (.controllee word) := by
  rintro ⟨c, hc⟩
  rcases mem_sessionObjects.1 hc with ⟨d, -, heq⟩ | ⟨d, hd, -⟩
  · cases heq
  · cases hd

/-- A session handler that needs no object of the kind goes on without those. -/
theorem mediaSessionHandler_without {session : MediaSessionPriv} (call : SessionCall) {kind : HandleKind}
    (hkind : kind = .controller ∨ kind = .controllee) (hother : call.cmd.uses ≠ some kind)
    (h : (mediaSessionHandler session call).isSome = true) :
    ∃ session' : MediaSessionPriv, (mediaSessionHandler session' call).isSome = true ∧
      ∀ word, ¬ Has (sessionObjects session') (kind.object word) := by
  have hempty : ∀ word, ¬ Has (sessionObjects {}) (kind.object word) := fun word => not_has_nil _
  unfold mediaSessionHandler at h
  cases hcmd : call.cmd with
  | ping =>
    refine ⟨{}, ?_, hempty⟩
    unfold mediaSessionHandler
    rw [hcmd]
    rfl
  | register | «open» =>
    refine ⟨{}, ?_, hempty⟩
    unfold mediaSessionHandler
    rw [hcmd]
    cases call.alloc <;> rfl
  | unregister | event | update =>
    -- the controllers do not matter
    rw [hcmd] at hother h
    obtain rfl := hkind.resolve_right fun heq => hother (congrArg some heq.symm)
    refine ⟨{ controllees := session.controllees }, ?_, not_has_controller session.controllees⟩
    unfold mediaSessionHandler
    rw [hcmd]
    cases hdata : call.data with
    | none => rfl
    | some addr =>
      rw [hdata] at h
      have hsame : MediaSessionPriv.controllee { controllees := session.controllees } addr = session.controllee addr :=
        rfl
      dsimp only at h ⊢
      rw [hsame]
      cases hfind : session.controllee addr with
      | none =>
        rw [hfind] at h
        cases h
      | some c =>
        simp only [hfind, Option.bind_some, Option.map_some, Option.isSome_map, Option.isSome_some] at h ⊢ <;> exact h
  | close | setEvent =>
    -- the controllees do not matter
    rw [hcmd] at hother h
    obtain rfl := hkind.resolve_left fun heq => hother (congrArg some heq.symm)
    refine ⟨{ controllers := session.controllers }, ?_, not_has_controllee session.controllers⟩
    unfold mediaSessionHandler
    rw [hcmd]
    cases hdata : call.data with
    | none => rfl
    | some addr =>
      rw [hdata] at h
      have hsame : MediaSessionPriv.controller { controllers := session.controllers } addr = session.controller addr :=
        rfl
      dsimp only at h ⊢
      rw [hsame]
      simpa using h
  | query | start | pause | stop | prev | next | volumeup | volumedown | other =>
    refine ⟨{}, ?_, hempty⟩
    unfold mediaSessionHandler
    rw [hcmd]
    cases call.data <;> rfl

theorem kind_of_uses {kind : HandleKind} (h : call.uses = some kind) : kind ∈ call.kinds := by
  have hif : ∀ {p : Prop} [Decidable p] {kind' : HandleKind},
      (if p then none else some kind') = some kind ∨ (if p then some kind' else none) = some kind → kind' = kind := by
    intro p _ kind' h
    by_cases hp : p <;> simpa [hp] using h
  cases call with
  | graph target cmd arg len => cases h
  | player target cmd arg len | recorder target cmd arg len =>
    obtain rfl := hif (.inl h)
    exact List.mem_singleton_self _
  | policy target cmd arg flags len | focus target cmd len =>
    obtain rfl := hif (.inr h)
    exact List.mem_singleton_self _
  | session target cmd arg len =>
    obtain ⟨c, -, hkind⟩ := Option.bind_eq_some_iff.1 h
    cases c <;> cases hkind <;> simp [StubCall.kinds]

theorem abandon_of_uses (h : call.uses = some .focus) :
    ∃ target cmd len, call = .focus target cmd len ∧ cmd.map text = some "abandon".toList := by
  cases call with
  | focus target cmd len =>
    refine ⟨target, cmd, len, rfl, ?_⟩
    by_contra hcmd
    have h : (if cmd.map text = some "abandon".toList then some HandleKind.focus else none) = some .focus := h
    rw [if_neg hcmd] at h
    cases h
  | _ =>
    have hkind := kind_of_uses h
    simp [StubCall.kinds] at hkind

/-- A session handler that goes on without the objects of a kind has no command about them. -/
private theorem session_uses {target cmd arg : Option (List UInt8)} {len : BitVec 32} {word : Nat} {kind : HandleKind}
    (hkind : kind = .controller ∨ kind = .controllee)
    (hserved : (mediaStubHandle s k out (.session target cmd arg len)).isSome = true)
    (htakes : TakesWord s.conns k out (.session target cmd arg len) word kind) :
    (StubCall.session target cmd arg len).uses = some kind := by
  cases cmd with
  | none => cases hserved
  | some cmd =>
    by_contra huses
    have hfocus : kind ≠ .focus := by
      rcases hkind with rfl | rfl <;> decide
    obtain ⟨session, hsome, hnone⟩ := mediaSessionHandler_without (sessionCall s k out target cmd arg len) hkind
      huses ((Option.isSome_map ..).symm.trans hserved)
    obtain ⟨g, hg⟩ := Option.isSome_iff_exists.1 hsome
    have hhas := htakes { s with session, graph := {}, policy := [] } _ rfl (congrArg (Option.map _) hg)
    rw [if_neg hfocus] at hhas
    -- but nobody else has an object of the kind
    obtain ⟨c, hc⟩ := hhas
    rcases mem_objects.1 hc with hc | hc | hc | hc
    · exact hnone word ⟨c, hc⟩
    · cases hc
    · cases hc
    · obtain ⟨id, heq⟩ := of_has_focusObjects ⟨c, hc⟩
      rcases hkind with rfl | rfl <;> cases heq

/-- Only "abandon" finalizes the connection of a focus. -/
private theorem focus_uses {target cmd : Option (List UInt8)} {len : BitVec 32} {word : Nat}
    (hserved : (mediaStubHandle s k out (.focus target cmd len)).isSome = true)
    (htakes : TakesWord s.conns k out (.focus target cmd len) word .focus) :
    (StubCall.focus target cmd len).uses = some .focus := by
  by_contra huses
  have hcmd : cmd.map text ≠ some "abandon".toList := fun heq => huses (if_pos heq)
  obtain ⟨g, hg⟩ := Option.isSome_iff_exists.1 hserved
  have hfinalized := (htakes s g rfl hg).1
  obtain ⟨g', hg', rfl⟩ := Option.map_eq_some_iff.1 hg
  cases htext : cmd.map text with
  | none =>
    rw [htext] at hg'
    cases hg'
  | some cmd' =>
    rw [htext] at hg' hcmd
    have hnone := (mediaFocusHandler_finalized hg').2 fun heq => hcmd (congrArg some heq)
    cases hnone.symm.trans hfinalized

/-- A handler that takes the word for a handle has a command about such a handle: with empty modules the others go on
as well. -/
theorem uses_of_takesWord {word : Nat} {kind : HandleKind} (hkind : kind ∈ call.kinds)
    (hserved : (mediaStubHandle s k out call).isSome = true) (htakes : TakesWord s.conns k out call word kind) :
    call.uses = some kind := by
  cases call with
  | graph target cmd arg len => cases hkind
  | player target cmd arg len =>
    obtain rfl : kind = .player := List.mem_singleton.1 hkind
    refine if_neg fun hcmd => not_takesWord_of_emptied (by decide) ?_ htakes
    have hsome := (Option.isSome_map ..).symm.trans hserved
    exact (Option.isSome_map ..).trans (mediaCommonHandler_emptied (hcmd.imp_left (congrArg (Option.map text))) hsome)
  | recorder target cmd arg len =>
    obtain rfl : kind = .recorder := List.mem_singleton.1 hkind
    refine if_neg fun hcmd => not_takesWord_of_emptied (by decide) ?_ htakes
    have hsome := (Option.isSome_map ..).symm.trans hserved
    exact (Option.isSome_map ..).trans (mediaCommonHandler_emptied (hcmd.imp_left (congrArg (Option.map text))) hsome)
  | session target cmd arg len => exact session_uses (by simpa [StubCall.kinds] using hkind) hserved htakes
  | policy target cmd arg flags len =>
    obtain rfl : kind = .subscription := List.mem_singleton.1 hkind
    by_contra huses
    have hcmd : cmd.map text ≠ some "unsubscribe".toList := fun heq => huses (if_pos heq)
    refine not_takesWord_of_emptied (by decide) ?_ htakes
    have hsome := (Option.isSome_map ..).symm.trans hserved
    exact (Option.isSome_map ..).trans (mediaPolicyHandler_isSome hcmd hsome)
  | focus target cmd len =>
    obtain rfl : kind = .focus := List.mem_singleton.1 hkind
    exact focus_uses hserved htakes

/-- A handler takes the word of its connection for a handle exactly if its command is about such a handle. -/
theorem handlerTakes_iff {conns : MediaServerConns} {kind : HandleKind} : HandlerTakes conns k out call kind ↔
    call.uses = some kind ∧ mediaServerGetData conns k ≠ none ∧ Serves conns k out call := by
  constructor
  · rintro ⟨hkind, ⟨s, rfl, hserved⟩, word, hword, htakes⟩
    exact ⟨uses_of_takesWord hkind hserved htakes, by rw [hword]; nofun, s, rfl, hserved⟩
  · rintro ⟨huses, hdata, hserved⟩
    obtain ⟨word, hword⟩ := Option.ne_none_iff_exists'.1 hdata
    refine ⟨kind_of_uses huses, hserved, word, hword, fun s g hconns hg => ?_⟩
    subst hconns
    split
    · rename_i hfocus
      subst hfocus
      obtain ⟨target, cmd, len, rfl, habandon⟩ := abandon_of_uses huses
      obtain ⟨g', hg', rfl⟩ := Option.map_eq_some_iff.1 hg
      rw [hword, habandon] at hg'
      exact (mediaFocusHandler_finalized hg').1 rfl
    · rename_i hfocus
      exact mediaStubHandle_uses hg huses hword hfocus

/-! ### Handles of one kind are not taken for handles of another kind -/

/-- The kind of the handle as the client knows it: that of the last request which creates one and was not answered
with an error. -/
def lastCreated (answered : List (StubCall × Int)) : Option HandleKind :=
  answered.findSome? fun a => if 0 ≤ a.2 then a.1.creates else none

/-- Whatever the handler takes the word of the connection for was stored last. -/
def UsedAsStored (s : MediaServer) (h : ServerRecord) (k : Nat) (call : StubCall) (out : StubOutcomes) : Prop :=
  ∀ kind, HandlerTakes s.conns k out call kind → h.stored k = some kind

/-- Of the requests of the connection, the last one that creates a handle and was not answered with an error creates a
handle of the kind that the call is about. -/
def SentAfterCreator (answered : List (StubCall × Int)) (call : StubCall) : Prop :=
  ∃ newer creator older, answered = newer ++ creator :: older ∧ 0 ≤ creator.2 ∧ creator.1.creates = call.uses ∧
    ∀ a ∈ newer, 0 ≤ a.2 → a.1.creates = none

/-- The client sends no command about a handle, or the connection has none, or the handler goes wrong before it gets to
the handle, or the command is sent after the one that creates such a handle. -/
def SentRightly (s : MediaServer) (h : ServerRecord) (k : Nat) (call : StubCall) (out : StubOutcomes) : Prop :=
  call.uses ≠ none → mediaServerGetData s.conns k ≠ none → Serves s.conns k out call →
    SentAfterCreator (h.answered k) call

theorem lastCreated_eq_some {answered : List (StubCall × Int)} {kind : HandleKind} (hkind : call.uses = some kind) :
    lastCreated answered = some kind ↔ SentAfterCreator answered call := by
  unfold lastCreated SentAfterCreator
  rw [List.findSome?_eq_some_iff, hkind]
  refine exists_congr fun newer => exists_congr fun creator => exists_congr fun older => and_congr_right fun _ => ?_
  by_cases hret : 0 ≤ creator.2
  · simp [hret]
  · simp [hret]

theorem stores_isSome (hholds : r.server.Holds depth) (hstep : serverStep r.server (.message k call out) = some r') :
    r'.stored.isSome ↔ call.creates.isSome ∧ 0 ≤ r'.ret := by
  obtain ⟨-, hfresh, g, hg, rfl⟩ := serverStep_message hstep
  exact (mediaStubHandle_served hholds hfresh hg).stored

/-- A handle is stored by each request that creates one, unless it fails. -/
theorem stored_step (hsound : Sound depth r h) (hstored : ∀ k, h.stored k = lastCreated (h.answered k))
    (hstep : serverStep r.server i = some r') (k : Nat) :
    (note r i r' h).stored k = lastCreated ((note r i r' h).answered k) := by
  simp only [note]
  by_cases hslot : i.newSlot r.server = some k
  · rw [if_pos hslot, if_pos hslot]
    rfl
  · rw [if_neg hslot, if_neg hslot]
    cases i with
    | message k' call out =>
      have hcreates := stores_isSome hsound.holds hstep
      unfold ServerInput.stores ServerInput.answers
      by_cases hk : k' = k
      · simp only [hk, true_and, if_true, List.cons_append, List.nil_append, lastCreated, List.findSome?_cons]
        by_cases hsome : r'.stored.isSome
        · obtain ⟨hcall, hret⟩ := hcreates.1 hsome
          rw [if_pos hsome, if_pos hret]
          obtain ⟨kind, hkind⟩ := Option.isSome_iff_exists.1 hcall
          rw [hkind]
          rfl
        · have hnone : (if 0 ≤ r'.ret then call.creates else none) = none := by
            by_cases hret : 0 ≤ r'.ret
            · rw [if_pos hret]
              exact Option.not_isSome_iff_eq_none.1 fun hcall => hsome (hcreates.2 ⟨hcall, hret⟩)
            · rw [if_neg hret]
          rw [if_neg hsome, hnone]
          exact hstored k
      · simp only [hk, false_and, if_false, List.nil_append]
        exact hstored k
    | accept | createNotify | hangup | filterEvent | policyChange => exact hstored k

theorem serverRuns_stored {g : ServerResult × ServerRecord → ServerInput → Prop} {p : ServerResult × ServerRecord}
    (hp : ReachableVia (serverRuns maxConn filters t depth) g p) (k : Nat) :
    p.2.stored k = lastCreated (p.2.answered k) :=
  (serverRuns_invariant (P := fun _ h => ∀ k, h.stored k = lastCreated (h.answered k)) (fun _ => rfl)
    (fun _ _ _ _ hsound hstored _ hstep => stored_step hsound hstored hstep) hp).2 k

/-- In every state of every run, the handler takes the word of a connection for what was stored last if and only if the
client sends its commands in this order. -/
theorem usedAsStored_iff {p : ServerResult × ServerRecord} (hp : Reachable (serverRuns maxConn filters t depth) p)
    (k : Nat) (call : StubCall) (out : StubOutcomes) :
    UsedAsStored p.1.server p.2 k call out ↔ SentRightly p.1.server p.2 k call out := by
  unfold UsedAsStored SentRightly
  rw [serverRuns_stored hp k]
  simp only [handlerTakes_iff]
  constructor
  · intro hused huses hdata hserved
    obtain ⟨kind, hkind⟩ := Option.ne_none_iff_exists'.1 huses
    exact (lastCreated_eq_some hkind).1 (hused kind ⟨hkind, hdata, hserved⟩)
  · rintro hright kind ⟨hkind, hdata, hserved⟩
    exact (lastCreated_eq_some hkind).2 (hright (by rw [hkind]; nofun) hdata hserved)

/-- The bytes of a string that a client sends. -/
def sampleText (s : String) : List UInt8 := s.toList.map fun c => UInt8.ofNat c.toNat

def sampleFilters : List AVFilterContext := [⟨"amovie_async@Music".toList, "amovie_async".toList, none⟩]

/-- A connection opens a player. -/
def samplePlayerRun : List ServerInput :=
  [.accept 5, .message 0 (.player none (some (sampleText "open")) none 0) { alloc := some 64 }]

def samplePlayerState : ServerResult × ServerRecord :=
  ((serverRuns 1 sampleFilters sampleTable 8).runFrom (fun _ _ => True)
    (serverRuns 1 sampleFilters sampleTable 8).start samplePlayerRun).get (by decide)

/-- The handler takes the context of the player for a controllee. -/
theorem player_unregistered : ¬ ∀ maxConn filters t depth p, Reachable (serverRuns maxConn filters t depth) p →
    ∀ k call out, p.1.server.InUse k → UsedAsStored p.1.server p.2 k call out := by
  intro h
  have hused := h 1 sampleFilters sampleTable 8 samplePlayerState (reachableVia_get (by decide)) 0
    (.session none (some (sampleText "unregister")) none 0) {} (by decide)
  have hserved : Serves samplePlayerState.1.server.conns 0 {}
      (.session none (some (sampleText "unregister")) none 0) :=
    ⟨{ samplePlayerState.1.server with session := { controllees := [{ addr := 64, cookie := none }] } }, rfl, by decide⟩
  have hstored := hused .controllee (handlerTakes_iff.2 ⟨by decide, by decide, hserved⟩)
  exact absurd hstored (by decide)

theorem usedAsStored_iff_player :
    UsedAsStored samplePlayerState.1.server samplePlayerState.2 0 (.player none (some (sampleText "start")) none 0) {} ↔
      SentRightly samplePlayerState.1.server samplePlayerState.2 0
        (.player none (some (sampleText "start")) none 0) {} :=
  usedAsStored_iff (reachableVia_get (by decide)) 0 (.player none (some (sampleText "start")) none 0) {}

/-! ### Handles of objects that are gone -/

/-- What a client is for; a player and a recorder are both a context of the graph. -/
inductive ClientRole
  | stream
  | controller
  | controllee
  | subscriber
  | focusHolder
  deriving DecidableEq

def HandleKind.role : HandleKind → ClientRole
  | .player | .recorder => .stream
  | .controller => .controller
  | .controllee => .controllee
  | .subscription => .subscriber
  | .focus => .focusHolder

/-- The role of those who send the command, if it is one about a handle. -/
def StubCall.role (call : StubCall) : Option ClientRole := (call.creates <|> call.uses).map HandleKind.role

/-- The connection sends only the commands of one role. -/
def KeepsRole (h : ServerRecord) : ServerInput → Prop
  | .message k call _ => ∀ a ∈ h.answered k, ∀ role ∈ a.1.role, ∀ role' ∈ call.role, role' = role
  | _ => True

/-- The entry is finalized, and has a notify socket until then. -/
def FinalizedOpen (s : MediaServer) (cookie : Option Nat) (c : Nat) : Prop :=
  cookie = some c ∧ ∃ conn ∈ s.conns[c]?, 0 < conn.notifyFd

/-- When an object is released for which a connection in use has the handle, this connection is finalized, and its
notify socket is open until then. -/
def ReleasedInTime (s : MediaServer) (h : ServerRecord) (i : ServerInput) : Prop :=
  ∀ p ∈ i.releases s, Has s.objects p.1 → ∀ c < s.conns.length, s.InUse c → h.stale c = false →
    h.denoted s.conns c = some p.1 → FinalizedOpen s p.2 c

instance (h : ServerRecord) (i : ServerInput) : Decidable (KeepsRole h i) := by
  unfold KeepsRole
  split
  · exact inferInstanceAs (Decidable (∀ _ ∈ _, _))
  · exact inferInstanceAs (Decidable True)

instance (s : MediaServer) (cookie : Option Nat) (c : Nat) : Decidable (FinalizedOpen s cookie c) :=
  inferInstanceAs (Decidable (_ ∧ ∃ _ ∈ _, _))

instance (s : MediaServer) (h : ServerRecord) (i : ServerInput) : Decidable (ReleasedInTime s h i) :=
  inferInstanceAs (Decidable (∀ _ ∈ _, _ → ∀ _ < _, _))

/-- A connection in use with a handle has it for an object that is still there. -/
def HandlesLive (r : ServerResult) (h : ServerRecord) : Prop :=
  ∀ c word, r.server.InUse c → mediaServerGetData r.server.conns c = some word →
    h.stale c = false ∧ ∃ kind, h.stored c = some kind ∧ (kind ≠ .focus → Has r.server.objects (kind.object word))

theorem not_gone_of_releasedInTime (hholds : r.server.Holds depth) (hstep : serverStep r.server i = some r')
    (hreleased : ReleasedInTime r.server h i) (huse : r.server.InUse c) (hstale : h.stale c = false)
    (hkept : ∀ conn ∈ r.server.conns[c]?, r'.finalized = some c → ¬ 0 < conn.notifyFd) {o : ServerObject}
    (hdenoted : h.denoted r.server.conns c = some o) : ¬ Gone r r' o := by
  rintro ⟨hbefore, hafter⟩
  have hserved := serverStep_served hholds hstep
  obtain ⟨created, heffect, -⟩ := hserved.effect
  rcases heffect.kept o hbefore with hhas | hrelease
  · exact hafter hhas
  · -- the connection was finalized, so it has no handle
    obtain ⟨p, hp, rfl⟩ := Option.map_eq_some_iff.1 hrelease
    have hlt : c < r.server.conns.length := by
      obtain ⟨conn, hconn, -⟩ := huse
      exact (List.getElem?_eq_some_iff.1 hconn).1
    obtain ⟨hcookie, conn, hconn, hopen⟩ := hreleased p hp hbefore c hlt huse hstale hdenoted
    exact hkept conn hconn ((hserved.finalized p hp).trans hcookie) hopen

theorem handlesLive_step (hsound : Sound depth r h) (hlive : HandlesLive r h) (hreleased : ReleasedInTime r.server h i)
    (hstep : serverStep r.server i = some r') : HandlesLive r' (note r i r' h) := by
  intro c word huse hword
  obtain ⟨hslot, hdata⟩ := serverStep_data hstep hsound.holds hword
  simp only [note, if_neg hslot]
  rcases hdata with ⟨hstores, hstored⟩ | ⟨hstores, hdata, hkept⟩
  · -- the handle was stored for an object that was created
    rw [if_pos (.inr hstores)]
    refine ⟨rfl, ?_⟩
    obtain ⟨call, out, rfl, hcreates⟩ := ServerInput.exists_of_stores hstores
    rw [hcreates]
    obtain ⟨-, hfresh, g, hg, rfl⟩ := serverStep_message hstep
    have hserved := mediaStubHandle_served hsound.holds hfresh hg
    obtain ⟨created, heffect, -, hobject⟩ := hserved.effect
    have hsome : g.stored = some word := hstored
    rcases hobject with ⟨-, hnone⟩ | ⟨kind, word', hkind, hword', hcreated⟩
    · rw [hsome] at hnone
      cases hnone
    · rw [hsome] at hword'
      cases hword'
      refine ⟨kind, hkind, fun hfocus => ?_⟩
      rcases hcreated with ⟨-, -, hcreated⟩ | ⟨hkindFocus, -⟩
      · exact heffect.created _ hcreated
      · exact absurd hkindFocus hfocus
  · rcases serverStep_inUse hstep hsound.holds huse with ⟨hold, -, -⟩ | ⟨hnew, -⟩
    · obtain ⟨hstale, kind, hkind, hhas⟩ := hlive c word hold hdata
      have hdenoted : h.denoted r.server.conns c = some (kind.object word) := by
        unfold denoted
        rw [hdata, hkind]
        rfl
      have hgone := not_gone_of_releasedInTime hsound.holds hstep hreleased hold hstale hkept hdenoted
      have hnot : ¬ (i.newSlot r.server = some c ∨ (i.stores r' c).isSome) := by
        rw [hstores]
        rintro (hnew | hnone)
        · exact hslot hnew
        · cases hnone
      rw [if_neg hnot, hstores, hstale, hdenoted]
      refine ⟨by simpa using hgone, kind, hkind, fun hfocus => ?_⟩
      by_contra hafter
      exact hgone ⟨hhas hfocus, hafter⟩
    · exact absurd hnew hslot

theorem role_of_creates {kind : HandleKind} (hkind : call.creates = some kind) : call.role = some kind.role := by
  unfold StubCall.role
  rw [hkind]
  rfl

theorem creates_eq_none_of_uses {kind : HandleKind} (hkind : call.uses = some kind) : call.creates = none := by
  cases call with
  | graph target cmd arg len => rfl
  | player target cmd arg len | recorder target cmd arg len =>
    unfold StubCall.uses at hkind
    unfold StubCall.creates
    dsimp only at hkind ⊢
    by_cases hopen : cmd.map text = some "open".toList
    · rw [if_pos (.inr hopen)] at hkind
      cases hkind
    · rw [if_neg hopen]
  | session target cmd arg len =>
    cases cmd with
    | none => rfl
    | some cmd =>
      have hkind : (sessionCmd (text cmd)).uses = some kind := hkind
      show (sessionCmd (text cmd)).creates = none
      cases hcmd : sessionCmd (text cmd) with
      | register | «open» =>
        rw [hcmd] at hkind
        cases hkind
      | _ => rfl
  | policy target cmd arg flags len =>
    unfold StubCall.uses at hkind
    unfold StubCall.creates
    dsimp only at hkind ⊢
    split at hkind
    · rename_i hunsubscribe
      rw [hunsubscribe, if_neg (by decide)]
    · cases hkind
  | focus target cmd len =>
    unfold StubCall.uses at hkind
    unfold StubCall.creates
    dsimp only at hkind ⊢
    split at hkind
    · rename_i habandon
      rw [habandon, if_neg (by decide)]
    · cases hkind

theorem role_of_uses {kind : HandleKind} (hkind : call.uses = some kind) : call.role = some kind.role := by
  unfold StubCall.role
  rw [creates_eq_none_of_uses hkind, hkind]
  rfl

theorem object_of_role {kind kind' : HandleKind} (h : kind.role = kind'.role) (word : Nat) :
    kind.object word = kind'.object word := by
  cases kind <;> cases kind' <;> first | rfl | cases h

/-- In every run of clients that keep to their roles, and in which objects are released in time, the handle of a
connection in use is for an object that is there, also when the next command of the role is served. -/
theorem serverRuns_handlesLive {p : ServerResult × ServerRecord}
    (hp : ReachableVia (serverRuns maxConn filters t depth)
      (fun p i => KeepsRole p.2 i ∧ ReleasedInTime p.1.server p.2 i) p) :
    HandlesLive p.1 p.2 ∧ ∀ c word call out kind, p.1.server.InUse c → mediaServerGetData p.1.server.conns c = some word →
      KeepsRole p.2 (.message c call out) → call.uses = some kind → kind ≠ .focus →
        Has p.1.server.objects (kind.object word) := by
  have hlive : HandlesLive p.1 p.2 :=
    (serverRuns_invariant (P := HandlesLive) (fun c _ huse _ => (mediaServerInit_idle _ _ _ _ _ huse).elim)
      (fun _ _ _ _ hsound hlive hg hstep => handlesLive_step hsound hlive hg.2 hstep) hp).2
  refine ⟨hlive, fun c word call out kind huse hword hrole hkind hfocus => ?_⟩
  obtain ⟨-, kind', hstored, hhas⟩ := hlive c word huse hword
  -- the handle was stored by a request in the same role
  rw [serverRuns_stored hp] at hstored
  obtain ⟨a, ha, hcreates⟩ := List.exists_of_findSome?_eq_some hstored
  split at hcreates
  · have hsame : kind.role = kind'.role := hrole a ha _ (role_of_creates hcreates) _ (role_of_uses hkind)
    rw [object_of_role hsame]
    refine hhas ?_
    rintro rfl
    cases kind <;> first | exact hfocus rfl | cases hsame
  · cases hcreates

/-- A client registers a controllee, and the controllee is unregistered. -/
def sampleRegisterRun : List ServerInput :=
  [.accept 5, .message 0 (.session none (some (sampleText "register")) none 0) { alloc := some 64 },
    .message 0 (.session none (some (sampleText "unregister")) none 0) {}]

def sampleUnregistered : ServerResult × ServerRecord :=
  ((serverRuns 1 [] sampleTable 8).runFrom (fun p i => KeepsRole p.2 i) (serverRuns 1 [] sampleTable 8).start
    sampleRegisterRun).get (by decide)

theorem unregistered_handle : ¬ ∀ maxConn filters t depth p,
    ReachableVia (serverRuns maxConn filters t depth) (fun p i => KeepsRole p.2 i) p → HandlesLive p.1 p.2 := by
  intro h
  have hlive := h 1 [] sampleTable 8 sampleUnregistered (reachableVia_get (by decide)) 0 64 (by decide) (by decide)
  exact absurd hlive.1 (by decide)

/-- With a notify socket, and the address is then used for the controllee of another connection. -/
def sampleNotifiedRun : List ServerInput :=
  [.accept 5, .createNotify 0 6, .message 0 (.session none (some (sampleText "register")) none 0) { alloc := some 64 },
    .message 0 (.session none (some (sampleText "update")) none 0) {},
    .message 0 (.session none (some (sampleText "unregister")) none 0) {}, .accept 7, .createNotify 1 8,
    .message 1 (.session none (some (sampleText "register")) none 0) { alloc := some 64 }]

theorem serverRuns_handlesLive_notified :
    let p := ((serverRuns 2 [] sampleTable 8).runFrom
      (fun p i => KeepsRole p.2 i ∧ ReleasedInTime p.1.server p.2 i) (serverRuns 2 [] sampleTable 8).start
      sampleNotifiedRun).get (by decide)
    HandlesLive p.1 p.2 :=
  (serverRuns_handlesLive (reachableVia_get (by decide))).1

end MediaFramework
