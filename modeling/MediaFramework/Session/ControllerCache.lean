import MediaFramework.Session.MetadataWire
import MediaFramework.Session.SessionEvents

/-!
# The metadata that a controller keeps

A controller with an event callback asks the server once and keeps the answer, until an event says that the metadata
have changed.  Answers and events come over different channels.  The event that arrives while an answer is on its way
sets `need_query`, and the end of the query clears it again, though the answer is older than the event.
-/

namespace MediaFramework

open Scanf

/-- Metadata that arrive as they are: texts are there if and only if their flags are, and are short words. -/
def Carriable (data : MediaMetadata) : Prop :=
  data.print.length ≤ 255 ∧ data.title.isSome = data.has MEDIA_METAFLAG_TITLE ∧
    data.artist.isSome = data.has MEDIA_METAFLAG_ARTIST ∧ data.album = none ∧
      ∀ text ∈ data.title.toList ++ data.artist.toList, IsWord text ∧ text.length < 128

instance (data : MediaMetadata) : Decidable (Carriable data) := inferInstanceAs (Decidable (_ ∧ _))

/-! ### The system -/

/-- Where `media_session_query` is; the answer of the server is in the trans channel. -/
inductive QueryPhase
  | idle
  | asked
  | replied (ret : Int) (response : Option CString)
  | received
  deriving DecidableEq

/-- The server, one controller, and the events in its notify channel; the first `early` of them were sent before the
server answered the query. -/
structure CacheState where
  session : MediaSessionPriv
  client : SessionClient
  query : QueryPhase
  events : List StubNotify
  early : Nat

/-- The server handles a call; the steps of a query; the listen thread handles an event. -/
inductive CacheInput
  | call (call : SessionCall)
  | query
  | serve
  | receive (stack : MetadataStack)
  | finish
  | event

def queryCall (addr cookie : Nat) : SessionCall := { cookie, data := some addr, cmd := .query, len := 256 }

/-- A controller that has just got its event callback; nothing is on its way. -/
def cacheStart (session : MediaSessionPriv) (data : MediaMetadata) : CacheState where
  session := session
  client := { event := true, data }
  query := .idle
  events := []
  early := 0

def cacheNext (addr cookie : Nat) (t : CacheState) : CacheInput → Option CacheState
  | .call call =>
    (mediaSessionHandler t.session call).map fun r =>
      { t with session := r.session, events := t.events ++ received r.sent addr }
  | .query => if t.query = .idle ∧ t.client.needQuery = true then some { t with query := .asked } else none
  | .serve =>
    if t.query = .asked then
      (mediaSessionHandler t.session (queryCall addr cookie)).map fun r =>
        { t with
          session := r.session
          query := .replied r.ret r.response
          events := t.events ++ received r.sent addr
          early := t.events.length }
    else none
  | .receive stack =>
    match t.query with
    | .replied ret response =>
      (mediaSessionQueryReceive stack t.client ret response).map fun (r : Int × SessionClient) =>
        { t with client := r.2, query := if r.1 < 0 then .idle else .received }
    | _ => none
  | .finish =>
    if t.query = .received then some { t with client := mediaSessionQueryDone t.client, query := .idle } else none
  | .event =>
    match t.events with
    | [] => none
    | n :: events => some { t with client := mediaEventCb t.client n.event, events, early := t.early - 1 }

def cacheMachine (addr cookie : Nat) (session : MediaSessionPriv) (data : MediaMetadata) :
    Machine CacheState CacheInput where
  start := cacheStart session data
  next := cacheNext addr cookie

/-- Connections make proper calls, the controller is not closed, and the metadata that are sent to it arrive. -/
def Wired (addr : Nat) (t : CacheState) : CacheInput → Prop
  | .call call => call.Proper t.session ∧ (call.cmd = .close → call.data ≠ some addr)
  | .serve => ∀ c ∈ t.session.controllees.head?, Carriable c.data
  | _ => True

/-- The event says that the metadata have changed. -/
def Invalidates (n : StubNotify) : Prop := n.event = MEDIA_EVENT_CHANGED ∨ n.event = MEDIA_EVENT_UPDATED

/-- The end of the query will undo the event: it was sent after the answer, or takes the metadata away that have been
received. -/
def Undone (t : CacheState) (n : StubNotify) : Prop :=
  match t.query with
  | .replied _ _ => t.early = 0
  | .received => t.early = 0 ∨ n.event = MEDIA_EVENT_CHANGED
  | _ => False

/-- No event is handled that the end of the query undoes. -/
def KeepsEvents (t : CacheState) : CacheInput → Prop
  | .event => ∀ n ∈ t.events.head?, Invalidates n → ¬ Undone t n
  | _ => True

/-- With nothing on its way, a controller that does not need to ask has the metadata of the first controllee. -/
def Coherent (t : CacheState) : Prop :=
  t.events = [] → t.query = .idle → t.client.needQuery = false →
    t.session.controllees.head?.map MediaControlleePriv.data = some t.client.data

/-! ### What the server sends -/

/-- The metadata of the most active controllee. -/
def MediaSessionPriv.firstData (s : MediaSessionPriv) : Option MediaMetadata :=
  s.controllees.head?.map MediaControlleePriv.data

/-- One of the events says that the metadata have changed. -/
def Pending (events : List StubNotify) : Prop := ∃ n ∈ events, Invalidates n

variable {s : MediaSessionPriv} {t t' : CacheState} {call : SessionCall} {r : SessionResult} {addr cookie : Nat}
  {i : CacheInput} {events : List StubNotify} {data : MediaMetadata}

/-- When the most active controllee goes, another one or none is the most active one. -/
theorem unregister_first {s' : MediaSessionPriv} {sent : List StubNotify} (h : SessionStep s call s' sent)
    (hcmd : call.cmd = .unregister) (hdata : call.data = s.first) : s.first ≠ s'.first := by
  intro heq
  cases h with
  | unregister c _ hc hcdata =>
    have hmem : c.addr ∈ s.controlleeAddrs.filter (· != c.addr) := by
      rw [← (unregister_addrs s c.addr).2]
      refine List.mem_of_mem_head? ?_
      rw [← MediaSessionPriv.first_eq_head, ← heq, ← hdata]
      exact hcdata
    simp at hmem
  | none _ _ hother => exact hother hcmd
  | controllers _ hother => rcases hother with hother | hother <;> cases hcmd.symm.trans hother
  | transfer _ _ _ hother hevent =>
    subst hother
    rw [hcmd] at hevent
    cases hevent
  | register _ hother | event _ _ hother | update _ _ _ hother | «open» _ hother => cases hcmd.symm.trans hother

/-- The metadata of the most active controllee stay, or the controller is told. -/
theorem firstData_or_told (h : SessionReachable s) (hproper : call.Proper s)
    (hr : mediaSessionHandler s call = some r) {c : MediaControllerPriv} (hc : c ∈ s.controllers)
    (hevent : c.event = true) : r.session.firstData = s.firstData ∨ Pending (received r.sent c.addr) := by
  have hstep := mediaSessionHandler_step h.nodup hproper hr
  have htold := hstep.discipline h.nodup hproper
  by_cases hcmd : call.cmd = .event
  · refine .inl ?_
    generalize hs : r.session = s', hsent : r.sent = sent at hstep
    cases hstep <;> simp_all
  by_cases hfirst : s.first = r.session.first
  · by_cases hupdate : call.cmd = .update ∧ call.data = s.first
    · have hupdated := htold.updated hcmd c hc hevent
      rw [if_pos hupdate] at hupdated
      have hmem : (⟨c.addr, c.cookie, MEDIA_EVENT_UPDATED, diffFlags call, none⟩ : StubNotify) ∈
          (received r.sent c.addr).filter isUpdated := by
        rw [hupdated]
        exact List.mem_singleton_self _
      exact .inr ⟨_, List.mem_of_mem_filter hmem, .inr rfl⟩
    · refine .inl ?_
      cases hhead : s.controllees.head? with
      | none =>
        have hnone : r.session.controllees.head? = none := by
          rw [MediaSessionPriv.first, hhead] at hfirst
          exact Option.map_eq_none_iff.1 hfirst.symm
        rw [MediaSessionPriv.firstData, MediaSessionPriv.firstData, hhead, hnone]
      | some d =>
        have hd : s.first = some d.addr := by rw [MediaSessionPriv.first, hhead]; rfl
        have hkept := hstep.kept (List.mem_of_mem_head? hhead) fun hdata =>
          ⟨fun hcmd => hupdate ⟨hcmd, hdata.trans hd.symm⟩, fun hcmd =>
            unregister_first hstep hcmd (hdata.trans hd.symm) hfirst⟩
        have hsame := MediaSessionPriv.head_of_first (h.next hproper hr).nodup hkept (hfirst.symm.trans hd)
        rw [MediaSessionPriv.firstData, MediaSessionPriv.firstData, hhead, hsame]
  · have hchanged := htold.changed hcmd c hc hevent
    rw [if_neg hfirst] at hchanged
    obtain ⟨n, hn, hisChanged⟩ := List.countP_pos_iff.1 (hchanged ▸ Nat.one_pos)
    exact .inr ⟨n, hn, .inl (of_decide_eq_true hisChanged)⟩

/-- The answer is what the server would answer now. -/
def Answers (s : MediaSessionPriv) (ret : Int) (response : Option CString) : Prop :=
  match s.firstData with
  | none => ret < 0
  | some data => Carriable data ∧ 0 ≤ ret ∧ response = some (data.print.take 255)

/-- The answer to a query of the controller. -/
theorem query_answers (hproper : (queryCall addr cookie).Proper s) (hcarry : ∀ c ∈ s.controllees.head?, Carriable c.data)
    (hr : mediaSessionHandler s (queryCall addr cookie) = some r) :
    r.session = s ∧ r.sent = [] ∧ Answers s r.ret r.response := by
  rw [transferred_handler hproper rfl] at hr
  cases hr
  unfold Answers MediaSessionPriv.firstData mediaSessionControllerTransfer
  cases hlist : s.controllees with
  | nil => exact ⟨rfl, rfl, by simp [ENOENT]⟩
  | cons c controllees =>
    refine ⟨rfl, rfl, hcarry c (by rw [hlist]; rfl), Int.natCast_nonneg _, rfl⟩

/-- Metadata that can be carried are received. -/
theorem receive_carriable (h : Carriable data) (stack : MetadataStack) (client : SessionClient) {ret : Int}
    (hret : 0 ≤ ret) : ∃ ret' : Int, 0 ≤ ret' ∧
      mediaSessionQueryReceive stack client ret (some (data.print.take 255)) = some (ret', { client with data }) := by
  obtain ⟨hfits, htitle, hartist, halbum, hwords⟩ := h
  have hprinted : ∀ text : Option CString, (∀ w ∈ text.toList, IsWord w ∧ w.length < 128) →
      IsWord (printText text) ∧ (printText text).length < 128 := by
    intro text htext
    cases text with
    | none => decide
    | some w => exact htext w (List.mem_singleton_self w)
  obtain ⟨htitleWord, htitleShort⟩ := hprinted data.title fun w hw => hwords w (List.mem_append_left _ hw)
  obtain ⟨hartistWord, hartistShort⟩ := hprinted data.artist fun w hw => hwords w (List.mem_append_right _ hw)
  obtain ⟨ret', hret', hread⟩ := unserialize_print data stack htitleWord hartistWord htitleShort hartistShort
  refine ⟨ret', hret', ?_⟩
  have hflagged : ∀ {text : Option CString} {flagged : Bool}, text.isSome = flagged →
      (if flagged then some (printText text) else none) = text := by
    rintro text flagged rfl
    cases text <;> rfl
  have hsame : { data with
      title := if data.has MEDIA_METAFLAG_TITLE then some (printText data.title) else none
      artist := if data.has MEDIA_METAFLAG_ARTIST then some ((printText data.artist).take data.room) else none
      album := none } = data := by
    rw [MediaMetadata.room_of_fits hfits, hflagged htitle, hflagged hartist, ← halbum]
  unfold mediaSessionQueryReceive
  rw [if_neg (Int.not_lt.2 hret)]
  simp only [List.take_take, Nat.min_self, mediaMetadataReinit, hread, hsame, Option.map_some,
    if_neg (Int.not_lt.2 hret')]

theorem receive_keeps {stack : MetadataStack} {client client' : SessionClient} {ret ret' : Int}
    {response : Option CString} (h : mediaSessionQueryReceive stack client ret response = some (ret', client')) :
    client'.event = client.event ∧ client'.needQuery = client.needQuery := by
  unfold mediaSessionQueryReceive at h
  split at h
  · cases h
    exact ⟨rfl, rfl⟩
  · split at h
    · cases h
    · obtain ⟨r, -, h⟩ := Option.map_eq_some_iff.1 h
      cases h
      exact ⟨rfl, rfl⟩

theorem eventCb_keeps (client : SessionClient) (event : BitVec 32) :
    (mediaEventCb client event).event = client.event ∧
      (client.needQuery = true → (mediaEventCb client event).needQuery = true) := by
  unfold mediaEventCb
  split
  · exact ⟨rfl, fun _ => rfl⟩
  · split
    · exact ⟨rfl, fun _ => rfl⟩
    · exact ⟨rfl, id⟩

/-! ### The invariant -/

/-- What the controller knows is right, or it will ask, or an event is still to come that makes it ask. -/
def Fresh (t : CacheState) : Prop :=
  match t.query with
  | .replied ret response => Pending (t.events.drop t.early) ∨ Answers t.session ret response
  | .received => Pending (t.events.drop t.early) ∨ t.session.firstData = some t.client.data
  | _ => t.client.needQuery = true ∨ Pending t.events ∨ t.session.firstData = some t.client.data

structure CacheInv (addr cookie : Nat) (t : CacheState) : Prop where
  reachable : SessionReachable t.session
  controller : ⟨addr, some cookie, true⟩ ∈ t.session.controllers
  event : t.client.event = true
  asking : t.query ≠ .idle → t.client.needQuery = true
  early : t.early ≤ t.events.length
  fresh : Fresh t

theorem Pending.append_left (h : Pending events) (more : List StubNotify) : Pending (events ++ more) := by
  obtain ⟨n, hn, hinvalidates⟩ := h
  exact ⟨n, List.mem_append_left _ hn, hinvalidates⟩

theorem Pending.append_right (h : Pending events) (before : List StubNotify) : Pending (before ++ events) := by
  obtain ⟨n, hn, hinvalidates⟩ := h
  exact ⟨n, List.mem_append_right _ hn, hinvalidates⟩

/-- An event that is not late, or says nothing about the metadata, is no loss. -/
theorem Pending.tail {n : StubNotify} {k : Nat} (h : Pending ((n :: events).drop k))
    (hn : Invalidates n → k ≠ 0) : Pending (events.drop (k - 1)) := by
  cases k with
  | zero =>
    obtain ⟨m, hm, hinvalidates⟩ := h
    rcases List.mem_cons.1 hm with rfl | hm
    · exact absurd rfl (hn hinvalidates)
    · exact ⟨m, hm, hinvalidates⟩
  | succ k => exact h

namespace CacheInv

variable (h : CacheInv addr cookie t)
include h

/-- The server handles a call. -/
theorem handles (hproper : call.Proper t.session) (hclose : call.cmd = .close → call.data ≠ some addr)
    (hr : mediaSessionHandler t.session call = some r) :
    CacheInv addr cookie { t with session := r.session, events := t.events ++ received r.sent addr } := by
  have hstep := mediaSessionHandler_step h.reachable.nodup hproper hr
  have htold := firstData_or_told h.reachable hproper hr h.controller rfl
  refine ⟨h.reachable.next hproper hr, hstep.kept_controller h.controller rfl hclose, h.event, h.asking, ?_, ?_⟩
  · rw [List.length_append]
    exact Nat.le_add_right_of_le h.early
  · have hfresh := h.fresh
    unfold Fresh at hfresh ⊢
    rw [List.drop_append_of_le_length h.early]
    rcases htold with hsame | hpending
    · have hanswers : ∀ ret response, Answers r.session ret response ↔ Answers t.session ret response := by
        intro ret response
        rw [Answers, Answers, hsame]
      cases hquery : t.query with
      | idle | asked =>
        simp only [hquery] at hfresh ⊢
        rw [hsame]
        exact hfresh.imp_right (Or.imp_left fun hp => hp.append_left _)
      | replied ret response =>
        simp only [hquery] at hfresh ⊢
        exact hfresh.imp (fun hp => hp.append_left _) (hanswers ret response).2
      | received =>
        simp only [hquery] at hfresh ⊢
        rw [hsame]
        exact hfresh.imp_left fun hp => hp.append_left _
    · split
      · exact .inl (hpending.append_right _)
      · exact .inl (hpending.append_right _)
      · exact .inr (.inl (hpending.append_right _))

/-- The server answers the query. -/
theorem serves (hquery : t.query = .asked) (hcarry : ∀ c ∈ t.session.controllees.head?, Carriable c.data)
    (hr : mediaSessionHandler t.session (queryCall addr cookie) = some r) :
    CacheInv addr cookie { t with
      session := r.session
      query := .replied r.ret r.response
      events := t.events ++ received r.sent addr
      early := t.events.length } := by
  have hproper : (queryCall addr cookie).Proper t.session := ⟨⟨_, h.controller, rfl, rfl⟩, fun _ => rfl⟩
  obtain ⟨hsession, hsent, hanswers⟩ := query_answers hproper hcarry hr
  rw [hsession, hsent]
  refine ⟨h.reachable, h.controller, h.event, fun _ => h.asking (by simp [hquery]), ?_, .inr hanswers⟩
  rw [List.length_append]
  exact Nat.le_add_right _ _

/-- The controller gets the answer. -/
theorem receives {ret ret' : Int} {response : Option CString} {stack : MetadataStack} {client : SessionClient}
    (hquery : t.query = .replied ret response)
    (hreceive : mediaSessionQueryReceive stack t.client ret response = some (ret', client)) :
    CacheInv addr cookie { t with client, query := if ret' < 0 then .idle else .received } := by
  obtain ⟨hevent, hneed⟩ := receive_keeps hreceive
  have hasking : client.needQuery = true := hneed.trans (h.asking (by simp [hquery]))
  refine ⟨h.reachable, h.controller, hevent.trans h.event, fun _ => hasking, h.early, ?_⟩
  have hfresh := h.fresh
  unfold Fresh at hfresh ⊢
  simp only [hquery] at hfresh
  by_cases hret : ret' < 0
  · rw [if_pos hret]
    exact .inl hasking
  · rw [if_neg hret]
    refine hfresh.imp_right fun hanswers => ?_
    unfold Answers at hanswers
    cases hfirst : t.session.firstData with
    | none =>
      -- there was no controllee, so the query has failed
      rw [hfirst] at hanswers
      unfold mediaSessionQueryReceive at hreceive
      rw [if_pos hanswers] at hreceive
      cases hreceive
      exact absurd hanswers hret
    | some data =>
      rw [hfirst] at hanswers
      obtain ⟨hcarriable, hanswer, rfl⟩ := hanswers
      obtain ⟨ret'', -, hdata⟩ := receive_carriable hcarriable stack t.client hanswer
      cases hdata.symm.trans hreceive
      rfl

/-- The query ends. -/
theorem finishes (hquery : t.query = .received) :
    CacheInv addr cookie { t with client := mediaSessionQueryDone t.client, query := .idle } := by
  have hclient : (mediaSessionQueryDone t.client).event = true := by
    rw [mediaSessionQueryDone, if_pos h.event]
    exact h.event
  refine ⟨h.reachable, h.controller, hclient, fun hidle => absurd rfl hidle, h.early, ?_⟩
  have hfresh := h.fresh
  unfold Fresh at hfresh ⊢
  simp only [hquery] at hfresh
  rw [mediaSessionQueryDone_data]
  refine .inr (hfresh.imp_left fun hpending => ?_)
  obtain ⟨n, hn, hinvalidates⟩ := hpending
  exact ⟨n, List.mem_of_mem_drop hn, hinvalidates⟩

/-- The listen thread handles an event that the end of the query does not undo. -/
theorem listens {n : StubNotify} (hevents : t.events = n :: events) (hn : Invalidates n → ¬ Undone t n) :
    CacheInv addr cookie { t with client := mediaEventCb t.client n.event, events, early := t.early - 1 } := by
  obtain ⟨hevent, hneed⟩ := eventCb_keeps t.client n.event
  have hearly := h.early
  rw [hevents, List.length_cons] at hearly
  have hless : t.early - 1 ≤ events.length := Nat.sub_le_of_le_add hearly
  refine ⟨h.reachable, h.controller, hevent.trans h.event, fun hquery => hneed (h.asking hquery), hless, ?_⟩
  have hfresh := h.fresh
  have hother : ¬ Invalidates n → mediaEventCb t.client n.event = t.client := by
    intro hnone
    rw [Invalidates, not_or] at hnone
    rw [mediaEventCb, if_neg hnone.1, if_neg hnone.2]
  have hidle : t.client.needQuery = true ∨ Pending t.events ∨ t.session.firstData = some t.client.data →
      (mediaEventCb t.client n.event).needQuery = true ∨ Pending events ∨
        t.session.firstData = some (mediaEventCb t.client n.event).data := by
    intro hfresh
    by_cases hinvalidates : Invalidates n
    · refine .inl ?_
      unfold mediaEventCb
      rcases hinvalidates with hchanged | hupdated
      · rw [if_pos hchanged]
      · rw [if_neg (by rw [hupdated]; decide), if_pos hupdated]
    · rw [hother hinvalidates]
      refine hfresh.imp_right (Or.imp_left fun hpending => ?_)
      rw [hevents] at hpending
      exact Pending.tail (k := 0) hpending fun hm => absurd hm hinvalidates
  unfold Fresh at hfresh ⊢
  cases hquery : t.query with
  | idle | asked =>
    simp only [hquery] at hfresh ⊢
    exact hidle hfresh
  | replied ret response =>
    simp only [hquery, hevents] at hfresh ⊢
    refine hfresh.imp_left fun hpending => hpending.tail fun hm hzero => hn hm ?_
    rw [Undone, hquery]
    exact hzero
  | received =>
    simp only [hquery, hevents] at hfresh ⊢
    have hnot : Invalidates n → t.early ≠ 0 ∧ n.event ≠ MEDIA_EVENT_CHANGED := by
      intro hm
      have hundone := hn hm
      rw [Undone, hquery] at hundone
      exact not_or.1 hundone
    have hdata : (mediaEventCb t.client n.event).data = t.client.data := by
      by_cases hinvalidates : Invalidates n
      · rw [mediaEventCb, if_neg (hnot hinvalidates).2]
        split <;> rfl
      · rw [hother hinvalidates]
    rw [hdata]
    exact hfresh.imp_left fun hpending => hpending.tail fun hm => (hnot hm).1

end CacheInv

/-- Every step that keeps the events keeps the invariant. -/
theorem CacheInv.step (h : CacheInv addr cookie t) (hwired : Wired addr t i) (hkeeps : KeepsEvents t i)
    (hn : cacheNext addr cookie t i = some t') : CacheInv addr cookie t' := by
  cases i with
  | call call =>
    obtain ⟨r, hr, rfl⟩ := Option.map_eq_some_iff.1 hn
    exact h.handles hwired.1 hwired.2 hr
  | query =>
    simp only [cacheNext] at hn
    split at hn
    · rename_i hquery
      cases hn
      have hfresh := h.fresh
      unfold Fresh at hfresh
      rw [hquery.1] at hfresh
      exact ⟨h.reachable, h.controller, h.event, fun _ => hquery.2, h.early, hfresh⟩
    · cases hn
  | serve =>
    simp only [cacheNext] at hn
    split at hn
    · rename_i hquery
      obtain ⟨r, hr, rfl⟩ := Option.map_eq_some_iff.1 hn
      exact h.serves hquery hwired hr
    · cases hn
  | receive stack =>
    simp only [cacheNext] at hn
    split at hn
    · rename_i ret response hquery
      obtain ⟨r, hr, rfl⟩ := Option.map_eq_some_iff.1 hn
      exact h.receives hquery hr
    · cases hn
  | finish =>
    simp only [cacheNext] at hn
    split at hn
    · rename_i hquery
      cases hn
      exact h.finishes hquery
    · cases hn
  | event =>
    simp only [cacheNext] at hn
    split at hn
    · cases hn
    · rename_i n events hevents
      cases hn
      refine h.listens hevents ?_
      exact hkeeps n (by rw [hevents]; rfl)

/-- In every run in which no event is handled that the end of a query undoes, the metadata of the controller are those
of the most active controllee. -/
theorem cacheRun_coherent (hsession : SessionReachable s) (hcontroller : ⟨addr, some cookie, true⟩ ∈ s.controllers)
    (h : (cacheMachine addr cookie s data).ReachableVia (fun t i => Wired addr t i ∧ KeepsEvents t i) t) :
    Coherent t := by
  have hinv : CacheInv addr cookie t := by
    refine h.invariant (P := CacheInv addr cookie) ?_ ?_
    · exact ⟨hsession, hcontroller, rfl, fun hidle => absurd rfl hidle, Nat.le_refl _, .inl rfl⟩
    · intro t i t' ht hguard hn
      exact ht.step hguard.1 hguard.2 hn
  intro hevents hquery hneed
  have hfresh := hinv.fresh
  unfold Fresh at hfresh
  simp only [hquery, hneed, hevents, Bool.false_eq_true, false_or] at hfresh
  refine hfresh.resolve_left ?_
  rintro ⟨n, hn, -⟩
  cases hn

/-! ### A run that is coherent, and one that is not -/

instance (addr : Nat) (t : CacheState) (i : CacheInput) : Decidable (Wired addr t i) := by
  unfold Wired
  split <;> infer_instance

instance (n : StubNotify) : Decidable (Invalidates n) := inferInstanceAs (Decidable (_ ∨ _))

instance (t : CacheState) (n : StubNotify) : Decidable (Undone t n) := by
  unfold Undone
  split <;> infer_instance

instance (t : CacheState) (i : CacheInput) : Decidable (KeepsEvents t i) := by
  unfold KeepsEvents
  split <;> infer_instance

/-- The most active controllee of the sample has stopped to play. -/
def sampleStop : CacheInput :=
  .call { cookie := 3, data := some 30, cmd := .update, arg := some "1:0:0:0:0:a\tb".toList }

/-- The controller asks, is told that the metadata have changed, and asks again. -/
def sampleCache : CacheState :=
  ((cacheMachine 10 1 sampleSession {}).runFrom (fun t i => Wired 10 t i ∧ KeepsEvents t i)
    (cacheStart sampleSession {}) [.query, .serve, .receive {}, .finish, sampleStop, .event, .query, .serve,
      .receive {}, .finish]).get (by decide)

theorem cacheRun_coherent_sample : Coherent sampleCache :=
  cacheRun_coherent sampleSession_reachable (by decide) (Machine.reachableVia_get (by decide))

/-- The metadata change after the answer, and the controller is told before it has got the answer. -/
def sampleStale : CacheState :=
  ((cacheMachine 10 1 sampleSession {}).runFrom (fun t i => Wired 10 t i) (cacheStart sampleSession {})
    [.query, .serve, sampleStop, .event, .receive {}, .finish]).get (by decide)

theorem cacheRun_not_coherent : ¬ ∀ (s : MediaSessionPriv) (addr cookie : Nat) (data : MediaMetadata) (t : CacheState),
    SessionReachable s → ⟨addr, some cookie, true⟩ ∈ s.controllers →
      (cacheMachine addr cookie s data).ReachableVia (fun t i => Wired addr t i) t → Coherent t := by
  intro h
  have hstale := h sampleSession 10 1 {} sampleStale sampleSession_reachable (by decide)
    (Machine.reachableVia_get (by decide)) (by decide) (by decide) (by decide)
  revert hstale
  decide

end MediaFramework
