import MediaFramework.Session.ControllerCache

/-!
# The metadata of an asynchronous controller (`client/media_uv_session.c`)

An asynchronous controller can have many queries on their way.  The answers are merged, flag by flag, into the metadata
that it has, and it throws them away when it is told that another controllee is the most active one.  Answers and
events come over different channels.  An answer that the server has computed before it sent an event can come after
that event, and is then merged into what was just cleared; an answer computed later can come before the event, and is
then merged into the metadata of another controllee.
-/

namespace MediaFramework

open Machine

/-! ### The code -/

/-- The reply to a query, with the cookie of the query: replies come in the order of the queries. -/
structure QueryReply where
  cookie : Nat
  ret : Int
  response : Option CString
  deriving DecidableEq

/-- A call of `on_query`. -/
structure OnQuery where
  cookie : Nat
  result : Int
  data : Option MediaMetadata
  deriving DecidableEq

/-- What the callback does before it calls the callback of the user. -/
def mediaUvSessionEventCb (client : SessionClient) (event : BitVec 32) : SessionClient := mediaEventCb client event

/-- The callback for the reply, with the calls of `on_query`.  A query that fails ends in two calls.  There is no
result when a word does not fit into its array. -/
def mediaUvControllerReceiveMetadataCb (stack : MetadataStack) (client : SessionClient) (cookie : Nat) (result : Int)
    (response : Option CString) : Option (SessionClient × List OnQuery) :=
  (mediaMetadataUnserialize stack mediaMetadataInit response).map fun (r : Int × MediaMetadata) =>
    let data := mediaMetadataUpdate client.data r.2
    ({ client with data }, (if result < 0 then [⟨cookie, result, none⟩] else []) ++ [⟨cookie, 0, some data⟩])

/-- Whether the query is sent, if `sent` says that sending succeeds; the metadata that are there are given to
`on_query` with the cookie of the controller. -/
def mediaUvSessionQuery (own : Nat) (client : SessionClient) (sent : Bool) : SessionClient × Bool × List OnQuery :=
  if client.needQuery = false then (client, false, [⟨own, 0, some client.data⟩])
  else if sent = false then (client, false, [])
  else (mediaSessionQueryDone client, true, [])

/-! ### The system -/

/-- The server and a controller with a listener: the cookies of the queries on their way to the server, the replies
and the events on their way to the controller, and the calls of `on_query` in the last step. -/
structure UvController where
  session : MediaSessionPriv
  client : SessionClient
  asked : List Nat
  replies : List QueryReply
  events : List StubNotify
  calls : List OnQuery
  deriving DecidableEq

/-- The server handles a call, which may be one of the controller; the user queries; the server answers a query; the
controller handles a reply, or is told that a query is cancelled; it handles an event. -/
inductive UvControllerInput
  | call (call : SessionCall)
  | query (cookie : Nat) (sent : Bool)
  | serve
  | receive (stack : MetadataStack)
  | cancel
  | event

/-- A controller that has just got its listener; it has asked for nothing yet. -/
def uvControllerStart (session : MediaSessionPriv) : UvController := ⟨session, { event := true }, [], [], [], []⟩

/-- The controller is the object `addr` of the connection `cookie`, and `own` is its cookie on the client. -/
def uvControllerNext (addr cookie own : Nat) (s : UvController) : UvControllerInput → Option UvController
  | .call call =>
    (mediaSessionHandler s.session call).map fun r =>
      { s with session := r.session, events := s.events ++ received r.sent addr, calls := [] }
  | .query queryCookie sent =>
    let r := mediaUvSessionQuery own s.client sent
    some { s with client := r.1, asked := if r.2.1 then s.asked ++ [queryCookie] else s.asked, calls := r.2.2 }
  | .serve =>
    match s.asked with
    | [] => none
    | queryCookie :: asked =>
      (mediaSessionHandler s.session (queryCall addr cookie)).map fun r =>
        { s with
          session := r.session
          asked := asked
          replies := s.replies ++ [⟨queryCookie, r.ret, r.response⟩]
          events := s.events ++ received r.sent addr
          calls := [] }
  | .receive stack =>
    match s.replies with
    | [] => none
    | reply :: replies =>
      (mediaUvControllerReceiveMetadataCb stack s.client reply.cookie reply.ret reply.response).map
        fun (r : SessionClient × List OnQuery) => { s with client := r.1, replies, calls := r.2 }
  | .cancel =>
    match s.replies, s.asked with
    | reply :: replies, _ =>
      (mediaUvControllerReceiveMetadataCb {} s.client reply.cookie (-ECANCELED) none).map
        fun (r : SessionClient × List OnQuery) => { s with client := r.1, replies, calls := r.2 }
    | [], queryCookie :: asked =>
      (mediaUvControllerReceiveMetadataCb {} s.client queryCookie (-ECANCELED) none).map
        fun (r : SessionClient × List OnQuery) => { s with client := r.1, asked, calls := r.2 }
    | [], [] => none
  | .event =>
    match s.events with
    | [] => none
    | n :: events => some { s with client := mediaUvSessionEventCb s.client n.event, events, calls := [] }

/-! ### The record -/

/-- The metadata of the most active controllee at some time.  The controllee is known by its address and the number of
registrations at that address; `era` is the number of events that had told the controller of a change. -/
structure Shown where
  era : Nat
  controllee : Nat × Nat
  data : MediaMetadata
  deriving DecidableEq

/-- What has happened: the addresses that were registered, the number of changes the controller was told of and the
number it has handled, what was shown, what was shown when the server computed the replies that are on their way, and
the era of the last answer with flags that was merged. -/
structure QueryRecord where
  births : List Nat := []
  era : Nat := 0
  handled : Nat := 0
  shown : List Shown := []
  answered : List (Option Shown) := []
  merged : Nat := 0
  deriving DecidableEq

/-- What the most active controllee shows now. -/
def QueryRecord.first (h : QueryRecord) (s : MediaSessionPriv) : Option Shown :=
  s.controllees.head?.map fun c => ⟨h.era, (c.addr, h.births.count c.addr), c.data⟩

/-- The server has handled a call. -/
def QueryRecord.after (h : QueryRecord) (call : SessionCall) (sent : List StubNotify) (s' : MediaSessionPriv) :
    QueryRecord :=
  let h' := { h with
    births := h.births ++ (if call.cmd = SessionCmd.register then call.alloc.toList else [])
    era := h.era + sent.countP isChanged }
  { h' with shown := h'.shown ++ (h'.first s').toList }

/-- A reply with flags was merged. -/
def QueryRecord.merge (h : QueryRecord) (shown : Shown) : QueryRecord :=
  if shown.data.flags = 0 then h else { h with merged := shown.era }

def QueryRecord.note (s : UvController) (i : UvControllerInput) (s' : UvController) (h : QueryRecord) : QueryRecord :=
  match i with
  | .call call => h.after call (s'.events.drop s.events.length) s'.session
  | .query _ _ => h
  | .serve => { h with answered := h.answered ++ [h.first s.session] }
  | .receive _ => { h.answered.head?.join.elim h h.merge with answered := h.answered.tail }
  | .cancel => { h with answered := h.answered.tail }
  | .event => { h with handled := h.handled + (s.events.take 1).countP isChanged }

def queryRuns (addr cookie own : Nat) (session : MediaSessionPriv) :
    Machine (UvController × QueryRecord) UvControllerInput :=
  Machine.recorded ⟨uvControllerStart session, uvControllerNext addr cookie own⟩
    { shown := (QueryRecord.first {} session).toList } QueryRecord.note

/-! ### The property -/

/-- The fields that flags stand for. -/
inductive MetadataField
  | state
  | volume
  | position
  | duration
  | title
  | artist
  | album
  deriving DecidableEq

namespace MetadataField

def flag : MetadataField → BitVec 32
  | state => MEDIA_METAFLAG_STATE
  | volume => MEDIA_METAFLAG_VOLUME
  | position => MEDIA_METAFLAG_POSITION
  | duration => MEDIA_METAFLAG_DURATION
  | title => MEDIA_METAFLAG_TITLE
  | artist => MEDIA_METAFLAG_ARTIST
  | album => MEDIA_METAFLAG_ALBUM

/-- The number or the text of the field. -/
def value (data : MediaMetadata) : MetadataField → BitVec 32 × Option CString
  | state => (data.state, none)
  | volume => (data.volume, none)
  | position => (data.position, none)
  | duration => (data.duration, none)
  | title => (0, data.title)
  | artist => (0, data.artist)
  | album => (0, data.album)

end MetadataField

/-- `data` are read of the reply that the server computes for `server`. -/
def ReadOf (server data : MediaMetadata) : Prop :=
  ∃ stack ret, mediaMetadataUnserialize stack mediaMetadataInit (some (server.print.take 255)) = some (ret, data)

/-- The field is flagged in the metadata `server`, and `data` have it as it is read of them. -/
def MetadataField.From (f : MetadataField) (server data : MediaMetadata) : Prop :=
  server.has f.flag = true ∧ ∃ diff, ReadOf server diff ∧ f.value diff = f.value data

/-- All flagged fields are from one controllee, each of a time when it was the most active one; and it was so at some
time after the last change that the controller has handled. -/
def QueryRecord.Unmixed (h : QueryRecord) (data : MediaMetadata) : Prop :=
  ∃ controllee, ∀ f : MetadataField, data.has f.flag = true →
    (∃ x ∈ h.shown, h.handled ≤ x.era ∧ x.controllee = controllee) ∧
      ∃ x ∈ h.shown, x.controllee = controllee ∧ f.From x.data data

/-- The metadata that `on_query` gets with success are those of one controllee. -/
def NeverMixes (p : UvController × QueryRecord) : Prop :=
  ∀ call ∈ p.1.calls, 0 ≤ call.result → ∀ data ∈ call.data, p.2.Unmixed data

/-- Connections make proper calls, and the controller is not closed. -/
def ProperlyUsed (addr : Nat) (s : UvController) : UvControllerInput → Prop
  | .call call => call.Proper s.session ∧ (call.cmd = .close → call.data ≠ some addr)
  | _ => True

/-- A reply with flags is not handled after a change that the server told of later than it computed the reply; and
when the controller has flagged metadata, the server told of no change between the answer merged last and this one. -/
def MergesInOrder (p : UvController × QueryRecord) : UvControllerInput → Prop
  | .receive _ => ∀ x ∈ p.2.answered.head?.join, x.data.flags ≠ 0 →
      p.2.handled ≤ x.era ∧ (p.1.client.data.flags ≠ 0 → x.era = p.2.merged)
  | _ => True

/-! ### What is read of a reply -/

variable {s s' : UvController} {h h' : QueryRecord} {session : MediaSessionPriv} {call : SessionCall} {r : SessionResult}
  {addr cookie own : Nat} {server data diff : MediaMetadata} {x : Shown} {i : UvControllerInput}

theorem ReadOf.numbers (hread : ReadOf server diff) : diff.flags = server.flags ∧ diff.album = none := by
  obtain ⟨stack, ret, hread⟩ := hread
  rw [server.print_eq, List.take_append, List.take_of_length_le (by have := server.length_numbers_le; omega)] at hread
  by_cases hshort : ShortWords (server.texts.take (255 - server.numbers.length))
  · obtain ⟨ret', -, hsome⟩ := unserialize_numbers server stack hshort
    rw [hsome] at hread
    cases hread
    exact ⟨rfl, rfl⟩
  · rw [unserialize_overflow server stack hshort] at hread
    cases hread

theorem ReadOf.has (hread : ReadOf server diff) (flag : BitVec 32) : diff.has flag = server.has flag := by
  rw [MediaMetadata.has, MediaMetadata.has, hread.numbers.1]

theorem has_of_flags_eq_zero (hzero : data.flags = 0) (flag : BitVec 32) : data.has flag = false := by
  simp [MediaMetadata.has, hzero]

theorem MetadataField.value_update (f : MetadataField) (halbum : data.album = none) (hdiff : diff.album = none) :
    f.value (mediaMetadataUpdate data diff) = if diff.has f.flag then f.value diff else f.value data := by
  by_cases hhas : diff.has f.flag = true
  · rw [if_pos hhas]
    cases f <;> simp_all [value, mediaMetadataUpdate, flag]
  · rw [if_neg hhas]
    cases f <;> simp_all [value, mediaMetadataUpdate, flag]

/-- A flagged field after a merge is read of the reply, or was there before. -/
theorem MetadataField.from_update {f : MetadataField} (halbum : data.album = none) (hread : ReadOf server diff)
    (hflag : (mediaMetadataUpdate data diff).has f.flag = true) :
    f.From server (mediaMetadataUpdate data diff) ∨
      data.has f.flag = true ∧ f.value (mediaMetadataUpdate data diff) = f.value data := by
  have hvalue := f.value_update halbum hread.numbers.2
  rw [mediaMetadataUpdate_has, Bool.or_eq_true] at hflag
  by_cases hdiff : diff.has f.flag = true
  · rw [if_pos hdiff] at hvalue
    exact .inl ⟨hread.has _ ▸ hdiff, diff, hread, hvalue.symm⟩
  · rw [if_neg hdiff] at hvalue
    exact .inr ⟨hflag.resolve_right hdiff, hvalue⟩

theorem MetadataField.From.congr {f : MetadataField} (hfrom : f.From server data) {data' : MediaMetadata}
    (hvalue : f.value data' = f.value data) : f.From server data' := by
  obtain ⟨hflag, diff, hread, hsame⟩ := hfrom
  exact ⟨hflag, diff, hread, hsame.trans hvalue.symm⟩

/-! ### What the server does -/

theorem query_response (hproper : (queryCall addr cookie).Proper session)
    (hr : mediaSessionHandler session (queryCall addr cookie) = some r) :
    r.session = session ∧ r.sent = [] ∧ r.response = session.firstData.map fun data => data.print.take 255 := by
  rw [transferred_handler hproper rfl] at hr
  cases hr
  unfold MediaSessionPriv.firstData mediaSessionControllerTransfer
  cases hlist : session.controllees with
  | nil => exact ⟨rfl, rfl, rfl⟩
  | cons c controllees => exact ⟨rfl, rfl, rfl⟩

/-- When the controller is not told of a change the most active controllee stays. -/
theorem first_of_not_told (hreach : SessionReachable session) (hproper : call.Proper session)
    (hr : mediaSessionHandler session call = some r) {c : MediaControllerPriv} (hc : c ∈ session.controllers)
    (hevent : c.event = true) (hnone : (received r.sent c.addr).countP isChanged = 0) :
    r.session.first = session.first := by
  have hstep := mediaSessionHandler_step hreach.nodup hproper hr
  by_cases hcmd : call.cmd = .event
  · generalize r.session = session', r.sent = sent at hstep
    cases hstep <;> simp_all
  · have htold := (hstep.discipline hreach.nodup hproper).changed hcmd c hc hevent
    rw [hnone] at htold
    by_contra hne
    rw [if_neg (Ne.symm hne)] at htold
    cases htold

theorem QueryRecord.first_controllee (h : QueryRecord) (session : MediaSessionPriv) :
    (h.first session).map Shown.controllee = session.first.map fun a => (a, h.births.count a) := by
  rw [first, MediaSessionPriv.first, Option.map_map, Option.map_map]
  rfl

theorem QueryRecord.first_era (hx : x ∈ h.first session) : x.era = h.era := by
  obtain ⟨c, -, rfl⟩ := Option.map_eq_some_iff.1 hx
  rfl

theorem QueryRecord.first_response (h : QueryRecord) (session : MediaSessionPriv) :
    session.firstData = (h.first session).map Shown.data := by
  rw [first, MediaSessionPriv.firstData, Option.map_map]
  rfl

/-- The number of registrations at the address of a controllee that is there does not change. -/
theorem count_births {births : List Nat} {a : Nat} (hproper : call.Proper session) (ha : session.first = some a) :
    (births ++ (if call.cmd = SessionCmd.register then call.alloc.toList else [])).count a = births.count a := by
  have hmem : a ∈ session.addrs := by
    refine List.mem_append_right _ (List.mem_of_mem_head? ?_)
    rw [← MediaSessionPriv.first_eq_head]
    exact ha
  split
  · rename_i hcmd
    rw [SessionCall.Proper, hcmd] at hproper
    rw [List.count_append, Nat.add_eq_left, List.count_eq_zero]
    intro hnew
    exact hproper a (Option.mem_toList.1 hnew) hmem
  · rw [List.append_nil]

/-! ### The eras -/

/-- In an era one controllee is the most active one. -/
structure Eras (session : MediaSessionPriv) (h : QueryRecord) : Prop where
  known : ∀ x ∈ h.first session, x ∈ h.shown
  past : ∀ x ∈ h.shown, x.era ≤ h.era
  current : ∀ x ∈ h.shown, x.era = h.era → (h.first session).map Shown.controllee = some x.controllee
  one : ∀ x ∈ h.shown, ∀ y ∈ h.shown, x.era = y.era → x.controllee = y.controllee

theorem eras_start (session : MediaSessionPriv) :
    Eras session { shown := (QueryRecord.first {} session).toList } := by
  refine ⟨fun x hx => ?_, fun x hx => ?_, fun x hx _ => ?_, fun x hx y hy _ => ?_⟩
  · exact Option.mem_toList.2 hx
  · exact Nat.le_of_eq (QueryRecord.first_era (Option.mem_toList.1 hx))
  · exact congrArg (Option.map Shown.controllee) (Option.mem_toList.1 hx)
  · rw [Option.mem_toList] at hx hy
    rw [Option.some.inj (hx.symm.trans hy)]

theorem Eras.congr (heras : Eras session h) (hshown : h'.shown = h.shown) (hera : h'.era = h.era)
    (hbirths : h'.births = h.births) : Eras session h' := by
  have hfirst : h'.first session = h.first session := by
    rw [QueryRecord.first, hera, hbirths]
    rfl
  obtain ⟨hknown, hpast, hcurrent, hone⟩ := heras
  rw [← hfirst, ← hshown] at hknown
  rw [← hshown, ← hera] at hpast
  rw [← hfirst, ← hshown, ← hera] at hcurrent
  rw [← hshown] at hone
  exact ⟨hknown, hpast, hcurrent, hone⟩

theorem Eras.after (heras : Eras session h) (hreach : SessionReachable session) (hproper : call.Proper session)
    (hr : mediaSessionHandler session call = some r) (hc : ⟨addr, some cookie, true⟩ ∈ session.controllers) :
    Eras r.session (h.after call (received r.sent addr) r.session) := by
  have hera : (h.after call (received r.sent addr) r.session).era =
      h.era + (received r.sent addr).countP isChanged := rfl
  have hshown : (h.after call (received r.sent addr) r.session).shown =
      h.shown ++ ((h.after call (received r.sent addr) r.session).first r.session).toList := rfl
  -- nothing new in an old era
  have hcurrent : ∀ x ∈ h.shown, x.era = (h.after call (received r.sent addr) r.session).era →
      ((h.after call (received r.sent addr) r.session).first r.session).map Shown.controllee = some x.controllee := by
    intro x hx hsame
    have hpast := heras.past x hx
    have hnone : (received r.sent addr).countP isChanged = 0 := by omega
    have hfirst := first_of_not_told hreach hproper hr hc rfl hnone
    have hold := heras.current x hx (by omega)
    rw [QueryRecord.first_controllee] at hold ⊢
    rw [hfirst]
    obtain ⟨a, ha, hxa⟩ := Option.map_eq_some_iff.1 hold
    rw [ha, Option.map_some, ← hxa]
    exact congrArg (fun n => some (a, n)) (count_births hproper ha)
  refine ⟨fun x hx => ?_, fun x hx => ?_, fun x hx hsame => ?_, fun x hx y hy hsame => ?_⟩
  · rw [hshown]
    exact List.mem_append_right _ (Option.mem_toList.2 hx)
  · rw [hshown, List.mem_append, Option.mem_toList] at hx
    rcases hx with hx | hx
    · have := heras.past x hx
      omega
    · exact Nat.le_of_eq (QueryRecord.first_era hx)
  · rw [hshown, List.mem_append, Option.mem_toList] at hx
    rcases hx with hx | hx
    · exact hcurrent x hx hsame
    · rw [Option.mem_def.1 hx, Option.map_some]
  · rw [hshown, List.mem_append, Option.mem_toList] at hx hy
    rcases hx with hx | hx <;> rcases hy with hy | hy
    · exact heras.one x hx y hy hsame
    · have hmap := hcurrent x hx (hsame.trans (QueryRecord.first_era hy))
      rw [Option.mem_def.1 hy, Option.map_some] at hmap
      exact (Option.some.inj hmap).symm
    · have hmap := hcurrent y hy (hsame.symm.trans (QueryRecord.first_era hx))
      rw [Option.mem_def.1 hx, Option.map_some] at hmap
      exact Option.some.inj hmap
    · rw [Option.some.inj (hx.symm.trans hy)]

/-! ### The metadata that the controller has -/

/-- The reply was computed when `x` was shown, or when there was no controllee. -/
def AnswerOf (shown : List Shown) (reply : QueryReply) : Option Shown → Prop
  | none => reply.response = none
  | some x => x ∈ shown ∧ reply.response = some (x.data.print.take 255)

/-- The flagged fields of the controller are from the era of the answer merged last. -/
def CachedFrom (h : QueryRecord) (data : MediaMetadata) : Prop :=
  ∀ f : MetadataField, data.has f.flag = true →
    h.handled ≤ h.merged ∧ ∃ x ∈ h.shown, x.era = h.merged ∧ f.From x.data data

structure QueryInv (addr cookie : Nat) (s : UvController) (h : QueryRecord) : Prop where
  reachable : SessionReachable s.session
  controller : ⟨addr, some cookie, true⟩ ∈ s.session.controllers
  eras : Eras s.session h
  answered : List.Forall₂ (AnswerOf h.shown) s.replies h.answered
  album : s.client.data.album = none
  cached : CachedFrom h s.client.data
  given : ∀ call ∈ s.calls, ∀ data ∈ call.data, data = s.client.data

theorem QueryInv.neverMixes (hinv : QueryInv addr cookie s h) : NeverMixes (s, h) := by
  intro call hcall _ data hdata
  rw [hinv.given call hcall data hdata]
  by_cases hflagged : ∃ f : MetadataField, s.client.data.has f.flag = true
  · obtain ⟨f, hf⟩ := hflagged
    obtain ⟨hhandled, x, hx, hera, -⟩ := hinv.cached f hf
    refine ⟨x.controllee, fun f hf => ⟨⟨x, hx, hera ▸ hhandled, rfl⟩, ?_⟩⟩
    obtain ⟨-, y, hy, hyera, hfrom⟩ := hinv.cached f hf
    exact ⟨y, hy, hinv.eras.one y hy x hx (hyera.trans hera.symm), hfrom⟩
  · exact ⟨(0, 0), fun f hf => absurd ⟨f, hf⟩ hflagged⟩

theorem CachedFrom.mono {shown : List Shown} (hcached : CachedFrom h data) (hshown : h'.shown = h.shown ++ shown)
    (hhandled : h'.handled = h.handled) (hmerged : h'.merged = h.merged) : CachedFrom h' data := by
  intro f hf
  obtain ⟨hle, x, hx, hera, hfrom⟩ := hcached f hf
  rw [hhandled, hmerged, hshown]
  exact ⟨hle, x, List.mem_append_left _ hx, hera, hfrom⟩

theorem AnswerOf.mono {shown : List Shown} {reply : QueryReply} {answer : Option Shown}
    (hanswer : AnswerOf h.shown reply answer) (hshown : h'.shown = h.shown ++ shown) :
    AnswerOf h'.shown reply answer := by
  cases answer with
  | none => exact hanswer
  | some x => exact ⟨hshown ▸ List.mem_append_left _ hanswer.1, hanswer.2⟩

theorem mediaMetadataUpdate_init (data : MediaMetadata) : mediaMetadataUpdate data mediaMetadataInit = data := by
  simp [mediaMetadataUpdate, mediaMetadataInit, MediaMetadata.has]

/-- The callback gives the metadata to the user that it leaves in the controller. -/
theorem receiveMetadataCb_given {stack : MetadataStack} {client : SessionClient} {queryCookie : Nat} {result : Int}
    {response : Option CString} {r : SessionClient × List OnQuery}
    (hr : mediaUvControllerReceiveMetadataCb stack client queryCookie result response = some r) :
    ∀ call ∈ r.2, ∀ data ∈ call.data, data = r.1.data := by
  obtain ⟨diff, -, rfl⟩ := Option.map_eq_some_iff.1 hr
  intro call hcall data hdata
  dsimp only at hcall ⊢
  rcases List.mem_append.1 hcall with hcall | hcall
  · split at hcall
    · rw [List.mem_singleton.1 hcall] at hdata
      cases hdata
    · cases hcall
  · rw [List.mem_singleton.1 hcall] at hdata
    exact (Option.some.inj hdata).symm

/-- A reply without a response leaves the metadata as they are. -/
theorem receiveMetadataCb_none {stack : MetadataStack} {client : SessionClient} {queryCookie : Nat} {result : Int}
    {r : SessionClient × List OnQuery}
    (hr : mediaUvControllerReceiveMetadataCb stack client queryCookie result none = some r) :
    r.1.data = client.data := by
  cases hr
  exact mediaMetadataUpdate_init client.data

/-- A reply that is merged in order. -/
theorem CachedFrom.merge (hcached : CachedFrom h data) (halbum : data.album = none) (hx : x ∈ h.shown)
    (hread : ReadOf x.data diff)
    (horder : x.data.flags ≠ 0 → h.handled ≤ x.era ∧ (data.flags ≠ 0 → x.era = h.merged)) :
    CachedFrom (h.merge x) (mediaMetadataUpdate data diff) := by
  intro f hf
  unfold QueryRecord.merge
  by_cases hzero : x.data.flags = 0
  · rw [if_pos hzero]
    rcases MetadataField.from_update halbum hread hf with hfrom | ⟨hold, hvalue⟩
    · have hnone := hfrom.1
      rw [has_of_flags_eq_zero hzero] at hnone
      cases hnone
    · obtain ⟨hle, y, hy, hera, hfrom⟩ := hcached f hold
      exact ⟨hle, y, hy, hera, hfrom.congr hvalue⟩
  · obtain ⟨hhandled, hsame⟩ := horder hzero
    rw [if_neg hzero]
    refine ⟨hhandled, ?_⟩
    rcases MetadataField.from_update halbum hread hf with hfrom | ⟨hold, hvalue⟩
    · exact ⟨x, hx, rfl, hfrom⟩
    · have hflags : data.flags ≠ 0 := fun hnone => by
        rw [has_of_flags_eq_zero hnone] at hold
        cases hold
      obtain ⟨-, y, hy, hera, hfrom⟩ := hcached f hold
      exact ⟨y, hy, hera.trans (hsame hflags).symm, hfrom.congr hvalue⟩

/-! ### The steps -/

namespace QueryInv

variable (hinv : QueryInv addr cookie s h)
include hinv

theorem calls (hproper : call.Proper s.session) (hclose : call.cmd = .close → call.data ≠ some addr)
    (hn : uvControllerNext addr cookie own s (.call call) = some s') :
    QueryInv addr cookie s' (QueryRecord.note s (.call call) s' h) := by
  obtain ⟨r, hr, rfl⟩ := Option.map_eq_some_iff.1 hn
  have hstep := mediaSessionHandler_step hinv.reachable.nodup hproper hr
  simp only [QueryRecord.note, List.drop_left]
  have hshown : (h.after call (received r.sent addr) r.session).shown =
      h.shown ++ ((h.after call (received r.sent addr) r.session).first r.session).toList := rfl
  refine ⟨hinv.reachable.next hproper hr, hstep.kept_controller hinv.controller rfl hclose,
    hinv.eras.after hinv.reachable hproper hr hinv.controller, ?_, hinv.album, hinv.cached.mono hshown rfl rfl, nofun⟩
  exact hinv.answered.imp fun _ _ hanswer => hanswer.mono hshown

theorem queries {queryCookie : Nat} {sent : Bool}
    (hn : uvControllerNext addr cookie own s (.query queryCookie sent) = some s') :
    QueryInv addr cookie s' (QueryRecord.note s (.query queryCookie sent) s' h) := by
  cases hn
  have hdata : (mediaUvSessionQuery own s.client sent).1.data = s.client.data := by
    unfold mediaUvSessionQuery
    split
    · rfl
    · split
      · rfl
      · exact mediaSessionQueryDone_data s.client
  refine ⟨hinv.reachable, hinv.controller, hinv.eras.congr rfl rfl rfl, hinv.answered,
    hdata ▸ hinv.album, hdata ▸ hinv.cached, ?_⟩
  intro call hcall data hgiven
  dsimp only at hcall ⊢
  unfold mediaUvSessionQuery at hcall
  rw [hdata]
  split at hcall
  · rw [List.mem_singleton.1 hcall] at hgiven
    exact (Option.some.inj hgiven).symm
  · split at hcall <;> cases hcall

theorem serves (hn : uvControllerNext addr cookie own s .serve = some s') :
    QueryInv addr cookie s' (QueryRecord.note s .serve s' h) := by
  unfold uvControllerNext at hn
  dsimp only at hn
  split at hn
  · cases hn
  · obtain ⟨r, hr, rfl⟩ := Option.map_eq_some_iff.1 hn
    obtain ⟨hsession, hsent, hresponse⟩ := query_response ⟨⟨_, hinv.controller, rfl, rfl⟩, fun _ => rfl⟩ hr
    rw [hsession]
    refine ⟨hinv.reachable, hinv.controller, hinv.eras.congr rfl rfl rfl, ?_, hinv.album, hinv.cached, nofun⟩
    refine List.rel_append hinv.answered (.cons ?_ .nil)
    rw [h.first_response s.session, Option.map_map] at hresponse
    cases hfirst : h.first s.session with
    | none =>
      rw [hfirst] at hresponse
      exact hresponse
    | some x =>
      rw [hfirst] at hresponse
      exact ⟨hinv.eras.known x hfirst, hresponse⟩

theorem receives {stack : MetadataStack} (horder : MergesInOrder (s, h) (.receive stack))
    (hn : uvControllerNext addr cookie own s (.receive stack) = some s') :
    QueryInv addr cookie s' (QueryRecord.note s (.receive stack) s' h) := by
  unfold uvControllerNext at hn
  dsimp only at hn
  split at hn
  · cases hn
  · rename_i reply replies hreplies
    obtain ⟨r, hr, rfl⟩ := Option.map_eq_some_iff.1 hn
    have hanswered := hinv.answered
    rw [hreplies] at hanswered
    cases hlist : h.answered with
    | nil =>
      rw [hlist] at hanswered
      cases hanswered
    | cons answer answers =>
      rw [hlist] at hanswered
      obtain ⟨hanswer, hrest⟩ := List.forall₂_cons.1 hanswered
      unfold MergesInOrder at horder
      simp only [hlist, List.head?_cons, Option.join_some] at horder
      simp only [QueryRecord.note, hlist, List.head?_cons, Option.join_some, List.tail_cons]
      cases answer with
      | none =>
        rw [show reply.response = none from hanswer] at hr
        have hdata := receiveMetadataCb_none hr
        exact ⟨hinv.reachable, hinv.controller, hinv.eras.congr rfl rfl rfl, hrest, hdata ▸ hinv.album,
          hdata ▸ hinv.cached,
          receiveMetadataCb_given hr⟩
      | some x =>
        obtain ⟨hx, hresponse⟩ := hanswer
        have hgiven := receiveMetadataCb_given hr
        rw [hresponse] at hr
        obtain ⟨⟨ret, diff⟩, hdiff, hr⟩ := Option.map_eq_some_iff.1 hr
        have hdata : r.1.data = mediaMetadataUpdate s.client.data diff := by
          rw [← hr]
        have hread : ReadOf x.data diff := ⟨stack, ret, hdiff⟩
        have hmerged := hinv.cached.merge hinv.album hx hread (horder x rfl)
        have hkept : (h.merge x).shown = h.shown ∧ (h.merge x).era = h.era ∧ (h.merge x).births = h.births := by
          unfold QueryRecord.merge
          split <;> exact ⟨rfl, rfl, rfl⟩
        refine ⟨hinv.reachable, hinv.controller, hinv.eras.congr hkept.1 hkept.2.1 hkept.2.2, ?_, ?_, ?_, hgiven⟩
        · rw [← hkept.1] at hrest
          exact hrest
        · rw [hdata]
          exact hinv.album
        · rw [hdata]
          exact hmerged

theorem cancels (hn : uvControllerNext addr cookie own s .cancel = some s') :
    QueryInv addr cookie s' (QueryRecord.note s .cancel s' h) := by
  have hanswered := hinv.answered
  unfold uvControllerNext at hn
  dsimp only at hn
  split at hn
  · rename_i reply replies hreplies
    obtain ⟨r, hr, rfl⟩ := Option.map_eq_some_iff.1 hn
    have hdata := receiveMetadataCb_none hr
    refine ⟨hinv.reachable, hinv.controller, hinv.eras.congr rfl rfl rfl, ?_, hdata ▸ hinv.album, hdata ▸ hinv.cached,
      receiveMetadataCb_given hr⟩
    rw [hreplies] at hanswered
    cases hlist : h.answered with
    | nil =>
      rw [hlist] at hanswered
      cases hanswered
    | cons answer answers =>
      rw [hlist] at hanswered
      simp only [QueryRecord.note, hlist, List.tail_cons]
      exact (List.forall₂_cons.1 hanswered).2
  · rename_i hreplies hasked
    obtain ⟨r, hr, rfl⟩ := Option.map_eq_some_iff.1 hn
    have hdata := receiveMetadataCb_none hr
    refine ⟨hinv.reachable, hinv.controller, hinv.eras.congr rfl rfl rfl, ?_, hdata ▸ hinv.album, hdata ▸ hinv.cached,
      receiveMetadataCb_given hr⟩
    rw [hreplies] at hanswered
    have hnone : h.answered = [] := List.forall₂_nil_left_iff.1 hanswered
    simp only [QueryRecord.note, hnone, List.tail_nil, hreplies]
    exact .nil
  · cases hn

theorem listens (hn : uvControllerNext addr cookie own s .event = some s') :
    QueryInv addr cookie s' (QueryRecord.note s .event s' h) := by
  unfold uvControllerNext at hn
  dsimp only at hn
  split at hn
  · cases hn
  · rename_i n events hevents
    cases hn
    have hnote : QueryRecord.note s .event { s with
        client := mediaUvSessionEventCb s.client n.event, events, calls := [] } h =
          { h with handled := h.handled + if isChanged n = true then 1 else 0 } := by
      simp only [QueryRecord.note, hevents, List.take_succ_cons, List.take_zero, List.countP_singleton]
    rw [hnote]
    by_cases hchanged : n.event = MEDIA_EVENT_CHANGED
    · have hdata : (mediaUvSessionEventCb s.client n.event).data = mediaMetadataInit := by
        rw [mediaUvSessionEventCb, mediaEventCb, if_pos hchanged]
        rfl
      refine ⟨hinv.reachable, hinv.controller, hinv.eras.congr rfl rfl rfl, hinv.answered, ?_, fun f hf => ?_,
        (by rintro _ ⟨⟩)⟩
      · dsimp only
        rw [hdata]
        rfl
      · dsimp only at hf
        rw [hdata, has_of_flags_eq_zero rfl] at hf
        cases hf
    · have hdata : (mediaUvSessionEventCb s.client n.event).data = s.client.data := by
        rw [mediaUvSessionEventCb, mediaEventCb, if_neg hchanged]
        split <;> rfl
      have hother : isChanged n = false := decide_eq_false hchanged
      rw [hother, if_neg Bool.false_ne_true, Nat.add_zero]
      exact ⟨hinv.reachable, hinv.controller, hinv.eras.congr rfl rfl rfl, hinv.answered, hdata ▸ hinv.album,
        hdata ▸ hinv.cached, (by rintro _ ⟨⟩)⟩

end QueryInv

theorem QueryInv.step (hinv : QueryInv addr cookie s h) (hused : ProperlyUsed addr s i)
    (horder : MergesInOrder (s, h) i) (hn : uvControllerNext addr cookie own s i = some s') :
    QueryInv addr cookie s' (QueryRecord.note s i s' h) := by
  cases i with
  | call call => exact hinv.calls hused.1 hused.2 hn
  | query queryCookie sent => exact hinv.queries hn
  | serve => exact hinv.serves hn
  | receive stack => exact hinv.receives horder hn
  | cancel => exact hinv.cancels hn
  | event => exact hinv.listens hn

/-- In every run in which replies and changes are handled in order, the controller never mixes the metadata of two
controllees, and never gives out metadata from before the last change it has handled. -/
theorem queryRuns_neverMixes {p : UvController × QueryRecord} (hsession : SessionReachable session)
    (hcontroller : ⟨addr, some cookie, true⟩ ∈ session.controllers)
    (hp : ReachableVia (queryRuns addr cookie own session) (fun p i => ProperlyUsed addr p.1 i ∧ MergesInOrder p i) p) :
    NeverMixes p := by
  have hinv : QueryInv addr cookie p.1 p.2 := by
    refine hp.recorded (P := QueryInv addr cookie) ?_ ?_
    · refine ⟨hsession, hcontroller, eras_start session, .nil, rfl, fun f hf => ?_, nofun⟩
      rw [has_of_flags_eq_zero rfl] at hf
      cases hf
    · intro s h i s' hinv hguard hn
      exact hinv.step hguard.1 hguard.2 hn
  exact hinv.neverMixes

/-! ### A run that is in order, and one that is not -/

instance (addr : Nat) (s : UvController) (i : UvControllerInput) : Decidable (ProperlyUsed addr s i) := by
  unfold ProperlyUsed
  split <;> infer_instance

instance (p : UvController × QueryRecord) (i : UvControllerInput) : Decidable (MergesInOrder p i) := by
  unfold MergesInOrder
  split <;> infer_instance

/-- The other controllee of the sample begins to play, and tells its volume but no title. -/
def sampleOther : UvControllerInput :=
  .call { cookie := 2, data := some 20, cmd := .update, arg := some "3:1:40:0:0:\t".toList }

/-- The most active controllee of the sample tells its title. -/
def sampleTitle : UvControllerInput :=
  .call { cookie := 3, data := some 30, cmd := .update, arg := some "17:1:0:0:0:a\tb".toList }

/-- Two queries; the other controllee becomes the most active one between them, and the controller is told of it before
it has got the first answer. -/
def sampleMixed : UvController × QueryRecord :=
  ((queryRuns 10 1 7 sampleSession).runFrom (fun p i => ProperlyUsed 10 p.1 i) (queryRuns 10 1 7 sampleSession).start
    [sampleTitle, .query 8 true, .serve, sampleOther, .event, .event, .query 9 true, .receive {}, .serve,
      .receive {}]).get (by decide)

theorem queryRuns_mixes : ¬ ∀ (session : MediaSessionPriv) (addr cookie own : Nat) (p : UvController × QueryRecord),
    SessionReachable session → ⟨addr, some cookie, true⟩ ∈ session.controllers →
      ReachableVia (queryRuns addr cookie own session) (fun p i => ProperlyUsed addr p.1 i) p → NeverMixes p := by
  intro h
  have hnever := h sampleSession 10 1 7 sampleMixed sampleSession_reachable (by decide) (reachableVia_get (by decide))
  obtain ⟨call, hcall, hresult, data, hdata⟩ : ∃ call ∈ sampleMixed.1.calls, 0 ≤ call.result ∧
      ∃ data ∈ call.data, data = sampleMixed.1.client.data := by decide
  obtain ⟨controllee, hfields⟩ := hnever call hcall hresult data hdata.1
  rw [hdata.2] at hfields
  -- the title is from one controllee and the volume from the other
  obtain ⟨-, x, hx, hxc, hxtitle, -⟩ := hfields .title (by decide)
  obtain ⟨-, y, hy, hyc, hyvolume, -⟩ := hfields .volume (by decide)
  have hboth : ∀ x ∈ sampleMixed.2.shown, ∀ y ∈ sampleMixed.2.shown, x.data.has MEDIA_METAFLAG_TITLE = true →
      y.data.has MEDIA_METAFLAG_VOLUME = true → x.controllee ≠ y.controllee := by decide
  exact hboth x hx y hy hxtitle hyvolume (hxc.trans hyc.symm)

theorem queryRuns_neverMixes_inOrder :
    let p := ((queryRuns 10 1 7 sampleSession).runFrom (fun p i => ProperlyUsed 10 p.1 i ∧ MergesInOrder p i)
      (queryRuns 10 1 7 sampleSession).start [sampleTitle, .query 8 true, .serve, .receive {}, sampleOther, .event,
        .event, .query 9 true, .serve, .receive {}]).get (by decide)
    NeverMixes p :=
  queryRuns_neverMixes sampleSession_reachable (by decide) (reachableVia_get (by decide))

end MediaFramework
