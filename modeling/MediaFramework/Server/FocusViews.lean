import MediaFramework.Server.FocusRelay

/-!
# What focus clients were told last

A client is told what to do by the reply to its request, and by suggestions when the server finds that something changes
for it.  The last thing that each client was told fits the stack at any time.
-/

namespace MediaFramework

/-- A suggestion, and whether it came with the reply to a request. -/
structure LastTold where
  suggestion : BitVec 32
  isReply : Bool
  deriving DecidableEq

variable {w : SizeT} {s : MediaServer} {t : InteractionTable} {depth n k : Nat} {world : FocusWorld}
  {view : Nat → Option LastTold}

/-! ### The last thing told -/

/-- What each connection was told last, after some more suggestions. -/
def hear (view : Nat → Option LastTold) : List (Option (Option Nat × BitVec 32)) → Nat → Option LastTold
  | [] => view
  | some (some c, suggestion) :: rest => hear (Function.update view c (some ⟨suggestion, false⟩)) rest
  | _ :: rest => hear view rest

/-- A client is also told the reply to its own request, unless that fails. -/
def FocusOp.reply (k : Nat) (ret : Int) (view : Nat → Option LastTold) : FocusOp → Nat → Option LastTold
  | request _ => if 0 ≤ ret then Function.update view k (some ⟨BitVec.ofInt 32 ret, true⟩) else view
  | ping | abandon => view

/-- The server at the end, and what each client was told last. -/
def focusViewRun (w : SizeT) : MediaServer → (Nat → Option LastTold) → List (FocusSend × MediaParcel) →
    Option (MediaServer × (Nat → Option LastTold))
  | s, view, [] => some (s, view)
  | s, view, (send, request) :: rest =>
    (sessionRelay w s send.k send.out request).bind fun r =>
      focusViewRun w r.2.1 (send.op.reply send.k r.1 (hear view (heard r.2.2))) rest

/-- The first client is to play.  The others do what the table has for a stream below the first one, or still go by the
reply to their request, and then this one is what the table has for a stream that comes when the first one is there.
Clients that have a handle only were told to stop when they came, and nothing else. -/
structure Viewed (t : InteractionTable) (world : FocusWorld) (view : Nat → Option LastTold) : Prop where
  first : ∀ top ∈ world.stack.head?, ∃ isReply, view top.conn = some ⟨BitVec.ofInt 32 MEDIA_FOCUS_PLAY, isReply⟩
  below : ∀ top ∈ world.stack.head?, ∀ e ∈ world.stack.tail,
    view e.conn = some ⟨BitVec.ofInt 32 (t.pasInter top.level e.level), false⟩ ∨
      view e.conn = some ⟨BitVec.ofInt 32 (t.proInter e.level top.level), true⟩
  stopped : ∀ k ∈ world.handles, (∀ e ∈ world.stack, e.conn ≠ k) →
    view k = some ⟨BitVec.ofInt 32 MEDIA_FOCUS_STOP, true⟩

/-! ### What suggestions change -/

theorem hear_of_not_mem {told : List (Nat × Int)} {c : Nat} (hc : c ∉ told.map Prod.fst) :
    hear view (suggested told) c = view c := by
  induction told generalizing view with
  | nil => rfl
  | cons p told ih =>
    rw [List.map_cons, List.mem_cons, not_or] at hc
    exact (ih hc.2).trans (Function.update_of_ne hc.1 ..)

theorem conns_tellBelow (top : FocusEntry) (under : List FocusEntry) :
    (tellBelow t top under).map Prod.fst = under.map FocusEntry.conn := by
  rw [tellBelow, List.map_map]
  rfl

/-- Each client is told how its stream gets along with the first one. -/
theorem hear_tellBelow {top e : FocusEntry} {under : List FocusEntry} (hnodup : (under.map FocusEntry.conn).Nodup)
    (he : e ∈ under) : hear view (suggested (tellBelow t top under)) e.conn =
      some ⟨BitVec.ofInt 32 (t.pasInter top.level e.level), false⟩ := by
  induction under generalizing view with
  | nil => cases he
  | cons e' under ih =>
    rw [List.map_cons, List.nodup_cons] at hnodup
    rcases List.mem_cons.1 he with rfl | he
    · have hlast : e.conn ∉ (tellBelow t top under).map Prod.fst := by
        rw [conns_tellBelow]
        exact hnodup.1
      -- nothing later in the list is for the same connection
      exact (hear_of_not_mem hlast).trans (Function.update_self ..)
    · exact ih hnodup.2 he

theorem hear_tellNext {next : FocusEntry} {under : List FocusEntry}
    (hnodup : ((next :: under).map FocusEntry.conn).Nodup) :
    hear view (suggested (tellNext t (next :: under))) next.conn =
      some ⟨BitVec.ofInt 32 MEDIA_FOCUS_PLAY, false⟩ := by
  have hlast : next.conn ∉ (tellBelow t next under).map Prod.fst := by
    rw [conns_tellBelow]
    exact (List.nodup_cons.1 hnodup).1
  exact (hear_of_not_mem hlast).trans (Function.update_self ..)

/-! ### One request -/

namespace Viewed

theorem of_nil (hstack : world.stack = [])
    (hstopped : ∀ k ∈ world.handles, view k = some ⟨BitVec.ofInt 32 MEDIA_FOCUS_STOP, true⟩) : Viewed t world view := by
  have hhead (top : FocusEntry) (htop : top ∈ world.stack.head?) : False := by
    rw [hstack] at htop
    exact Option.not_mem_none top htop
  exact ⟨fun top htop => (hhead top htop).elim, fun top htop => (hhead top htop).elim, fun c hc _ => hstopped c hc⟩

/-- Who is beyond the stack stays there while others come. -/
theorem stopped_cons (h : Viewed t world view) {stack : List FocusEntry} {view' : Nat → Option LastTold}
    (hold : ∀ e ∈ world.stack, e ∈ stack)
    (hself : (∀ e ∈ stack, e.conn ≠ k) → view' k = some ⟨BitVec.ofInt 32 MEDIA_FOCUS_STOP, true⟩)
    (hview : ∀ c ∈ world.handles, (∀ e ∈ world.stack, e.conn ≠ c) → view' c = view c) :
    ∀ c ∈ k :: world.handles, (∀ e ∈ stack, e.conn ≠ c) → view' c = some ⟨BitVec.ofInt 32 MEDIA_FOCUS_STOP, true⟩ := by
  intro c hc hbeyond
  rcases List.mem_cons.1 hc with rfl | hc
  · exact hself hbeyond
  · have hbefore : ∀ e ∈ world.stack, e.conn ≠ c := fun e he => hbeyond e (hold e he)
    rw [hview c hc hbefore]
    exact h.stopped c hc hbefore

/-- A new first client. -/
theorem play (h : Viewed t world view) (hconn : (world.stack.map FocusEntry.conn).Nodup)
    (howns : ∀ e ∈ world.stack, e.conn ∈ world.handles) (hnew : k ∉ world.handles) (level : Nat) :
    Viewed t { world with stack := ⟨k, level⟩ :: world.stack, handles := k :: world.handles }
      (Function.update (hear view (suggested (tellBelow t ⟨k, level⟩ world.stack))) k
        (some ⟨BitVec.ofInt 32 MEDIA_FOCUS_PLAY, true⟩)) := by
  refine ⟨?_, ?_, h.stopped_cons (fun e he => List.mem_cons_of_mem _ he) ?_ ?_⟩
  · rintro top ⟨⟩
    exact ⟨true, Function.update_self ..⟩
  · rintro top ⟨⟩ e he
    refine .inl ?_
    rw [Function.update_of_ne fun heq : e.conn = k => hnew (heq ▸ howns e he)]
    exact hear_tellBelow hconn he
  · intro hbeyond
    exact absurd rfl (hbeyond ⟨k, level⟩ List.mem_cons_self)
  · intro c hc hbeyond
    rw [Function.update_of_ne fun heq : c = k => hnew (heq ▸ hc)]
    refine hear_of_not_mem ?_
    rw [conns_tellBelow]
    intro hmem
    obtain ⟨e, he, rfl⟩ := List.mem_map.1 hmem
    exact hbeyond e he rfl

/-- A new client somewhere below the first one. -/
theorem insert (h : Viewed t world view) {top : FocusEntry} {rest : List FocusEntry}
    (hstack : world.stack = top :: rest) (howns : ∀ e ∈ world.stack, e.conn ∈ world.handles)
    (hnew : k ∉ world.handles) (level i : Nat) :
    Viewed t { world with stack := top :: (rest.take i ++ ⟨k, level⟩ :: rest.drop i), handles := k :: world.handles }
      (Function.update view k (some ⟨BitVec.ofInt 32 (t.proInter level top.level), true⟩)) := by
  have hsame (c : Nat) (hc : c ∈ world.handles) : Function.update view k
      (some ⟨BitVec.ofInt 32 (t.proInter level top.level), true⟩) c = view c :=
    Function.update_of_ne (fun heq : c = k => hnew (heq ▸ hc)) ..
  have hperm : (rest.take i ++ ⟨k, level⟩ :: rest.drop i).Perm (⟨k, level⟩ :: rest) := by
    have hmiddle := @List.perm_middle _ ⟨k, level⟩ (rest.take i) (rest.drop i)
    rwa [List.take_append_drop] at hmiddle
  have hfirst : top ∈ world.stack.head? := by rw [hstack]; rfl
  have hmem (e : FocusEntry) (he : e ∈ rest) : e ∈ world.stack := hstack ▸ List.mem_cons_of_mem _ he
  have htop : top ∈ world.stack := hstack ▸ List.mem_cons_self
  refine ⟨?_, ?_, h.stopped_cons (fun e he => ?_) ?_ fun c hc _ => hsame c hc⟩
  · rintro top' ⟨⟩
    rw [hsame _ (howns top htop)]
    exact h.first top hfirst
  · rintro top' ⟨⟩ e he
    rcases List.mem_cons.1 (hperm.mem_iff.1 he) with rfl | he
    · exact .inr (Function.update_self ..)
    · rw [hsame _ (howns e (hmem e he))]
      exact h.below top hfirst e (by rwa [hstack])
  · rw [hstack] at he
    rcases List.mem_cons.1 he with rfl | he
    · exact List.mem_cons_self
    · exact List.mem_cons_of_mem _ (hperm.mem_iff.2 (List.mem_cons_of_mem _ he))
  · intro hbeyond
    exact absurd rfl (hbeyond ⟨k, level⟩ (List.mem_cons_of_mem _ (hperm.mem_iff.2 List.mem_cons_self)))

/-- A new client that is to stop. -/
theorem stop (h : Viewed t world view) (howns : ∀ e ∈ world.stack, e.conn ∈ world.handles) (hnew : k ∉ world.handles) :
    Viewed t { world with handles := k :: world.handles }
      (Function.update view k (some ⟨BitVec.ofInt 32 MEDIA_FOCUS_STOP, true⟩)) := by
  have hsame (c : Nat) (hc : c ∈ world.handles) : Function.update view k
      (some ⟨BitVec.ofInt 32 MEDIA_FOCUS_STOP, true⟩) c = view c :=
    Function.update_of_ne (fun heq : c = k => hnew (heq ▸ hc)) ..
  refine ⟨fun top htop => ?_, fun top htop e he => ?_, h.stopped_cons (fun e he => he)
    (fun _ => Function.update_self ..) fun c hc _ => hsame c hc⟩
  · rw [hsame _ (howns top (List.mem_of_mem_head? htop))]
    exact h.first top htop
  · rw [hsame _ (howns e (List.mem_of_mem_tail he))]
    exact h.below top htop e he

/-- A client that comes gets the reply, and the clients that are already there are told what changes for them. -/
theorem enter (h : Viewed t world view) (hconn : (world.stack.map FocusEntry.conn).Nodup)
    (howns : ∀ e ∈ world.stack, e.conn ∈ world.handles) (hnew : k ∉ world.handles) {level : Nat}
    {r : List FocusEntry × List (Nat × Int) × Option Int} (hr : admitEntry t world.stack ⟨k, level⟩ = r) :
    (r.2.2 = none → r.1 = world.stack ∧ r.2.1 = []) ∧
      ∀ v ∈ r.2.2, 0 ≤ v ∧ Viewed t { world with stack := r.1, handles := k :: world.handles }
        (Function.update (hear view (suggested r.2.1)) k (some ⟨BitVec.ofInt 32 v, true⟩)) := by
  have hplay := h.play hconn howns hnew level
  unfold admitEntry at hr
  cases hstack : world.stack with
  | nil =>
    rw [hstack] at hr hplay
    subst hr
    refine ⟨fun hnone => absurd hnone (Option.some_ne_none _), ?_⟩
    rintro v ⟨⟩
    exact ⟨by decide, hplay⟩
  | cons top rest =>
    rw [hstack] at hr hplay
    dsimp only at hr
    split at hr
    · subst hr
      refine ⟨fun hnone => absurd hnone (Option.some_ne_none _), ?_⟩
      rintro v ⟨⟩
      exact ⟨by decide, hplay⟩
    · split at hr
      · rename_i hbelow
        split at hr
        · subst hr
          exact ⟨fun _ => ⟨rfl, rfl⟩, fun v hv => absurd hv (Option.not_mem_none v)⟩
        · rename_i hindex
          -- the index is not 0, so the first client stays the first one
          obtain ⟨i, hi⟩ := Nat.exists_eq_succ_of_ne_zero hindex
          rw [hi] at hr
          subst hr
          refine ⟨fun hnone => absurd hnone (Option.some_ne_none _), ?_⟩
          rintro v ⟨⟩
          refine ⟨?_, h.insert hstack howns hnew level i⟩
          rcases hbelow with hsilent | hduck
          · rw [hsilent]
            decide
          · rw [hduck]
            decide
      · split at hr
        · subst hr
          exact ⟨fun _ => ⟨rfl, rfl⟩, fun v hv => absurd hv (Option.not_mem_none v)⟩
        · subst hr
          refine ⟨fun hnone => absurd hnone (Option.some_ne_none _), ?_⟩
          rintro v ⟨⟩
          have hstop := h.stop howns hnew
          rw [hstack] at hstop
          exact ⟨by decide, hstop⟩

theorem request (h : Viewed t world view) (hconn : (world.stack.map FocusEntry.conn).Nodup)
    (howns : ∀ e ∈ world.stack, e.conn ∈ world.handles) (hnew : k ∉ world.handles) (depth : Nat) (name : CBytes) :
    let o := world.request t depth k (arrived (some name))
    Viewed t o.world ((FocusOp.request name).reply k o.ret (hear view (suggested o.told))) := by
  unfold FocusWorld.request FocusOp.reply
  split
  · exact h
  · rename_i level hlevel
    split
    · exact h
    · dsimp only
      obtain ⟨hrefused, hadmitted⟩ := h.enter hconn howns hnew (rfl : admitEntry t world.stack ⟨k, level⟩ = _)
      split
      · rename_i hnone
        obtain ⟨hsame, hquiet⟩ := hrefused hnone
        rw [hsame, hquiet]
        exact h
      · rename_i v hv
        obtain ⟨hnonneg, hviewed⟩ := hadmitted v hv
        rw [if_pos hnonneg]
        exact hviewed

/-- When the first client goes, the next one is told to play, and the others how they get along with it. -/
theorem leave (h : Viewed t world view) {top : FocusEntry} {rest : List FocusEntry}
    (hstack : world.stack = top :: rest) (hconn : (rest.map FocusEntry.conn).Nodup) (hnodup : world.handles.Nodup) :
    Viewed t ⟨rest, world.handles.erase top.conn, top.conn :: world.gone⟩
      (hear view (suggested (tellNext t rest))) := by
  refine ⟨?_, ?_, fun c hc hbeyond => ?_⟩
  · intro next hnext
    cases rest with
    | nil => cases hnext
    | cons next' under =>
      cases hnext
      exact ⟨false, hear_tellNext hconn⟩
  · intro next hnext e he
    cases rest with
    | nil => cases hnext
    | cons next' under =>
      cases hnext
      exact .inl (hear_tellBelow (List.nodup_cons.1 hconn).2 he)
  · obtain ⟨hne, hc⟩ := hnodup.mem_erase_iff.1 hc
    have htold : c ∉ (tellNext t rest).map Prod.fst := by
      cases rest with
      | nil => exact List.not_mem_nil
      | cons next under =>
        intro hmem
        rw [tellNext, List.map_cons, conns_tellBelow] at hmem
        obtain ⟨e, he, heq⟩ := List.mem_map.1 (show c ∈ (next :: under).map FocusEntry.conn from hmem)
        exact hbeyond e he heq
    rw [hear_of_not_mem htold]
    refine h.stopped c hc ?_
    rw [hstack]
    exact List.forall_mem_cons.2 ⟨Ne.symm hne, hbeyond⟩

theorem abandon (h : Viewed t world view) (hconn : (world.stack.map FocusEntry.conn).Nodup)
    (hnodup : world.handles.Nodup) :
    let o := world.abandon t k
    Viewed t o.world (hear view (suggested o.told)) := by
  unfold FocusWorld.abandon
  split
  · dsimp only
    cases hstack : world.stack with
    | nil =>
      refine of_nil rfl fun c hc => h.stopped c (List.mem_of_mem_erase hc) ?_
      rw [hstack]
      exact List.forall_mem_nil _
    | cons top rest =>
      rw [hstack] at hconn
      dsimp only
      split
      · rename_i htop
        subst htop
        exact h.leave hstack (List.nodup_cons.1 hconn).2 hnodup
      · rename_i htop
        have hfirst : top ∈ world.stack.head? := by rw [hstack]; rfl
        refine ⟨?_, ?_, fun c hc hbeyond => ?_⟩
        · rintro top' ⟨⟩
          exact h.first top hfirst
        · rintro top' ⟨⟩ e he
          exact h.below top hfirst e (by rw [hstack]; exact List.mem_of_mem_eraseP he)
        · obtain ⟨hne, hc⟩ := hnodup.mem_erase_iff.1 hc
          refine h.stopped c hc fun e he heq => ?_
          rw [hstack] at he
          rcases List.mem_cons.1 he with rfl | he
          · exact hbeyond e List.mem_cons_self heq
          · refine hbeyond e (List.mem_cons_of_mem _ ?_) heq
            exact (List.mem_eraseP_of_neg (by simpa using fun hk => hne (heq.symm.trans hk))).2 he
  · exact h

theorem outcome (h : Viewed t world view) {slot : Nat → Nat} (hkeeps : FocusKeeps t depth n slot s world) {op : FocusOp}
    (hproper : op.Proper n world k) :
    let o := op.outcome t depth world k
    Viewed t o.world (op.reply k o.ret (hear view (suggested o.told))) := by
  cases op with
  | ping => exact h
  | request name => exact h.request hkeeps.nodup_conns hkeeps.owns hproper.2 depth name
  | abandon => exact h.abandon hkeeps.nodup_conns hkeeps.nodup

end Viewed

/-! ### Runs -/

theorem FocusKeeps.viewRun {slot : Nat → Nat} {sends : List (FocusSend × MediaParcel)}
    (h : FocusKeeps t depth n slot s world) (hview : Viewed t world view) (hdepth : 2 * depth * 2 ^ 16 < 2 ^ 31)
    (hsends : ∀ send ∈ sends, send.1.Sends w send.2 ∧ send.1.op.Short) :
    let ops := sends.map fun send => (send.1.k, send.1.op)
    world.ProperRun t depth n ops → ∃ s' slot' view', focusViewRun w s view sends = some (s', view') ∧
      FocusKeeps t depth n slot' s' (world.run t depth ops).2.1 ∧ Viewed t (world.run t depth ops).2.1 view' := by
  induction sends generalizing s slot world view with
  | nil =>
    intro ops _
    exact ⟨s, slot, view, rfl, h, hview⟩
  | cons send sends ih =>
    intro ops hrun
    obtain ⟨hproper, hlater⟩ := hrun
    obtain ⟨hsend, hshort⟩ := hsends send List.mem_cons_self
    obtain ⟨s₁, slot₁, told, hrelay, htold, hkeeps⟩ := h.relay hdepth hsend hshort hproper
    have hviewed := hview.outcome h hproper
    dsimp only at hviewed
    rw [← htold] at hviewed
    obtain ⟨s', slot', view', hrest, hend⟩ :=
      ih hkeeps hviewed (fun send hmem => hsends send (List.mem_cons_of_mem _ hmem)) hlater
    refine ⟨s', slot', view', ?_, hend⟩
    rw [focusViewRun, hrelay, Option.bind_some]
    exact hrest

/-- Whatever focus clients ask a new server, waiting or not, in whatever order: what each of them was told last fits the
stack of the server. -/
theorem focusRun_viewed {sends : List (FocusSend × MediaParcel)} (hdepth : 2 * depth * 2 ^ 16 < 2 ^ 31)
    (hfocus : s.focus = mediaFocusInit t depth) (hconns : ∀ c, mediaServerGetData s.conns c = none)
    (hsends : ∀ send ∈ sends, send.1.Sends w send.2 ∧ send.1.op.Short)
    (hproper : FocusWorld.ProperRun t depth s.conns.length {} (sends.map fun send => (send.1.k, send.1.op))) :
    ∃ s' slot view, focusViewRun w s (fun _ => none) sends = some (s', view) ∧
      FocusKeeps t depth s.conns.length slot s'
        (FocusWorld.run t depth {} (sends.map fun send => (send.1.k, send.1.op))).2.1 ∧
      Viewed t (FocusWorld.run t depth {} (sends.map fun send => (send.1.k, send.1.op))).2.1 view := by
  exact (FocusKeeps.init hfocus hconns).viewRun (Viewed.of_nil rfl (List.forall_mem_nil _)) hdepth hsends hproper

/-- The phone rings: its client is to play, and the one with the music pauses or ducks. -/
theorem focusRun_viewed_sample : ∃ music ring s' view,
    focusViewRun .w64 sampleFocusRelay (fun _ => none) [(sampleMusic, music), (sampleRing, ring)] = some (s', view) ∧
      (∃ isReply, view 1 = some ⟨0, isReply⟩) ∧ (view 0 = some ⟨2, false⟩ ∨ view 0 = some ⟨4, true⟩) := by
  have hmusic : sampleMusic.op.Short := (by decide : 5 + 64 < 2 ^ 31)
  have hring : sampleRing.op.Short := (by decide : 4 + 64 < 2 ^ 31)
  have hproper : FocusWorld.ProperRun sampleTable 8 2 {} [(0, sampleMusic.op), (1, sampleRing.op)] :=
    ⟨⟨by decide, by decide⟩, ⟨by decide, by decide⟩, trivial⟩
  obtain ⟨music, hmusicSends⟩ := sampleMusic.exists_sends (w := .w64) hmusic
  obtain ⟨ring, hringSends⟩ := sampleRing.exists_sends (w := .w64) hring
  obtain ⟨s', -, view, hrun, -, hview⟩ := @focusRun_viewed .w64 sampleFocusRelay sampleTable 8
    [(sampleMusic, music), (sampleRing, ring)] (by decide) rfl
    (fun c => by rcases c with - | - | c <;> rfl)
    (List.forall_mem_cons.2 ⟨⟨hmusicSends, hmusic⟩, List.forall_mem_singleton.2 ⟨hringSends, hring⟩⟩) hproper
  exact ⟨music, ring, s', view, hrun, hview.first ⟨1, 0⟩ rfl, hview.below ⟨1, 0⟩ rfl ⟨0, 1⟩ List.mem_cons_self⟩

end MediaFramework
