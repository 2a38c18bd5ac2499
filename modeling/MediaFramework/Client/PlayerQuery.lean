import MediaFramework.Client.MediaUv
import MediaFramework.Client.MediaUvGraph
import MediaFramework.Session.MediaMetadata

/-!
# The metadata query of an asynchronous player (`client/media_uv_graph.c`)

A query asks the server for the state, the duration and the position, and the policy for the volume.  The replies are
counted down in one context of the player, which `media_uv_player_query` clears: a second query while replies to the
first are to come takes the context from it.  A request that is dropped is answered before the context expects it.
-/

namespace MediaFramework

/-! ### The context -/

def QueryField.flag : QueryField → BitVec 32
  | state => MEDIA_METAFLAG_STATE
  | volume => MEDIA_METAFLAG_VOLUME
  | duration => MEDIA_METAFLAG_DURATION
  | position => MEDIA_METAFLAG_POSITION

/-- The flags of some fields. -/
def flagsOf (fields : List QueryField) : BitVec 32 := fields.foldr (fun field flags => field.flag ||| flags) 0

/-- `MediaQueryPriv`: `on_query`, which is that of the call with the number `call`, and its cookie. -/
structure MediaQueryPriv where
  call : Nat
  cookie : Nat
  expected : BitVec 32 := 0
  diff : MediaMetadata := {}
  deriving DecidableEq

/-- A request of a query that is on its way: the number of the call, and what it asks for. -/
structure SubQuery where
  call : Nat
  field : QueryField
  deriving DecidableEq

/-- A call of `media_uv_player_query` with its cookie. -/
structure PlayerCall where
  call : Nat
  cookie : Nat
  deriving DecidableEq

/-- A call of `on_query`. -/
structure PlayerAnswer where
  call : Nat
  cookie : Nat
  flags : BitVec 32
  data : MediaMetadata
  deriving DecidableEq

/-- The context and the metadata of a player, and the requests on their way; the number of calls that have taken the
context, those that returned 0, the requests that succeeded, and the calls of `on_query`. -/
structure PlayerQueries where
  query : Option MediaQueryPriv := none
  data : MediaMetadata := {}
  pending : List SubQuery := []
  made : Nat := 0
  accepted : List PlayerCall := []
  succeeded : List SubQuery := []
  answers : List PlayerAnswer := []
  deriving DecidableEq

/-! ### The code -/

/-- `media_uv_player_query_complete`; the release that follows does nothing while the player has a proxy. -/
def PlayerQueries.complete (s : PlayerQueries) (ctx : MediaQueryPriv) : PlayerQueries :=
  if ctx.expected = 0 then
    let data := mediaMetadataUpdate s.data ctx.diff
    { s with query := some ctx, data, answers := s.answers ++ [⟨ctx.call, ctx.cookie, ctx.diff.flags, data⟩] }
  else { s with query := some ctx }

/-- What the four callbacks have in common: `store` puts the value into the metadata. -/
def queryFieldCb (flag : BitVec 32) (store : MediaMetadata → BitVec 32 → MediaMetadata) (s : PlayerQueries)
    (ctx : MediaQueryPriv) (ret : Int) (value : BitVec 32) : PlayerQueries :=
  let ctx := { ctx with expected := ctx.expected &&& ~~~flag }
  s.complete
    (if 0 ≤ ret then
      let diff := store ctx.diff value
      { ctx with diff := { diff with flags := diff.flags ||| flag } }
    else ctx)

def mediaUvPlayerQueryStateCb :=
  queryFieldCb MEDIA_METAFLAG_STATE fun diff value => { diff with state := value }

def mediaUvPlayerQueryVolumeCb :=
  queryFieldCb MEDIA_METAFLAG_VOLUME fun diff value => { diff with volume := value }

def mediaUvPlayerQueryPositionCb :=
  queryFieldCb MEDIA_METAFLAG_POSITION fun diff value => { diff with position := value }

def mediaUvPlayerQueryDurationCb :=
  queryFieldCb MEDIA_METAFLAG_DURATION fun diff value => { diff with duration := value }

/-- The callback of a field. -/
def QueryField.cb : QueryField → PlayerQueries → MediaQueryPriv → Int → BitVec 32 → PlayerQueries
  | state => mediaUvPlayerQueryStateCb
  | volume => mediaUvPlayerQueryVolumeCb
  | duration => mediaUvPlayerQueryDurationCb
  | position => mediaUvPlayerQueryPositionCb

/-- The reply to a request comes, and its callback gets the context of the player. -/
def PlayerQueries.reply (s : PlayerQueries) (field : QueryField) (ret : Int) (value : BitVec 32) : PlayerQueries :=
  s.query.elim s fun ctx => field.cb s ctx ret value

/-- What becomes of the four requests.  The policy takes its request, or it does not. -/
structure QuerySends where
  state : SendOutcome
  volume : Bool
  duration : SendOutcome
  position : SendOutcome

def QuerySends.outcome (sends : QuerySends) : QueryField → SendOutcome
  | .state => sends.state
  | .volume => if sends.volume then .sent else .refused
  | .duration => sends.duration
  | .position => sends.position

/-- One of the four requests of the call with the number `call`. -/
def PlayerQueries.ask (call : Nat) (sends : QuerySends) (s : PlayerQueries) (field : QueryField) : PlayerQueries :=
  match sends.outcome field with
  | .sent =>
    { s with
      pending := s.pending ++ [⟨call, field⟩]
      query := s.query.map fun ctx => { ctx with expected := ctx.expected ||| field.flag } }
  | .refused => s
  | .dropped => s.reply field (-ECANCELED) 0

/-- The call takes the context, which `memset` clears. -/
def PlayerQueries.take (s : PlayerQueries) (cookie : Nat) : PlayerQueries :=
  { s with query := some { call := s.made, cookie }, made := s.made + 1 }

/-- The order of the requests. -/
def queryOrder : List QueryField := [.state, .volume, .duration, .position]

/-- `media_uv_player_query`: the result, where `alloc` says whether there is memory for a new context. -/
def mediaUvPlayerQueryCall (s : PlayerQueries) (cookie : Nat) (alloc : Bool) (sends : QuerySends) :
    Int × PlayerQueries :=
  if s.query = none ∧ alloc = false then (-ENOMEM, s)
  else
    let t := queryOrder.foldl (PlayerQueries.ask s.made sends) (s.take cookie)
    if t.query.all fun ctx => ctx.expected = 0 then (-EINVAL, t) else (0, t)

/-! ### Runs -/

/-- A call of `media_uv_player_query`; the reply to a request on its way, or its cancellation, which has the result
`-ECANCELED`. -/
inductive PlayerQueryInput
  | query (cookie : Nat) (alloc : Bool) (sends : QuerySends)
  | reply (sub : SubQuery) (ret : Int) (value : BitVec 32)

def playerQueryNext (s : PlayerQueries) : PlayerQueryInput → Option PlayerQueries
  | .query cookie alloc sends =>
    let r := mediaUvPlayerQueryCall s cookie alloc sends
    some (if r.1 = 0 then { r.2 with accepted := r.2.accepted ++ [⟨s.made, cookie⟩] } else r.2)
  | .reply sub ret value =>
    if sub ∈ s.pending then
      some <| PlayerQueries.reply
        { s with
          pending := s.pending.erase sub
          succeeded := if 0 ≤ ret then s.succeeded ++ [sub] else s.succeeded } sub.field ret value
    else none

def playerQueryMachine : Machine PlayerQueries PlayerQueryInput where
  start := {}
  next := playerQueryNext

/-! ### The property -/

/-- The cookies and the flags that `on_query` of a call was given. -/
def PlayerQueries.given (s : PlayerQueries) (call : Nat) : List (Nat × BitVec 32) :=
  (s.answers.filter fun a => a.call = call).map fun a => (a.cookie, a.flags)

/-- The flags of the requests of a call that succeeded. -/
def PlayerQueries.flags (s : PlayerQueries) (call : Nat) : BitVec 32 :=
  flagsOf ((s.succeeded.filter fun sub => sub.call = call).map SubQuery.field)

/-- `on_query` of an accepted call is called once, when all requests of the call are over, with its cookie and the
flags of those that succeeded. -/
def PlayerQueries.AllAnswered (s : PlayerQueries) : Prop :=
  ∀ q ∈ s.accepted,
    s.given q.call = if ∃ sub ∈ s.pending, sub.call = q.call then [] else [(q.cookie, s.flags q.call)]

instance (s : PlayerQueries) : Decidable s.AllAnswered := inferInstanceAs (Decidable (∀ _ ∈ _, _))

/-- The first request that is not refused is not dropped, or no request is sent. -/
def QuerySends.HeadSent (sends : QuerySends) : Prop :=
  (queryOrder.map sends.outcome).find? (fun o => o ≠ .refused) = some .dropped → .sent ∉ queryOrder.map sends.outcome

instance (sends : QuerySends) : Decidable sends.HeadSent := inferInstanceAs (Decidable (_ → _))

/-- A query is made when no reply is to come. -/
def AskedAlone (s : PlayerQueries) : PlayerQueryInput → Prop
  | .query _ alloc sends => s.query ≠ none ∨ alloc = true → s.pending = [] ∧ sends.HeadSent
  | .reply _ _ _ => True

instance (s : PlayerQueries) : (i : PlayerQueryInput) → Decidable (AskedAlone s i)
  | .query _ _ _ => inferInstanceAs (Decidable (_ → _))
  | .reply _ _ _ => inferInstanceAs (Decidable True)

/-! ### Flags -/

theorem QueryField.flag_ne_zero (field : QueryField) : field.flag ≠ 0 := by
  cases field <;> decide

theorem QueryField.flag_clear (field other : QueryField) :
    other.flag &&& ~~~field.flag = if other = field then 0 else other.flag := by
  cases field <;> cases other <;> rfl

theorem flagsOf_append (fields others : List QueryField) :
    flagsOf (fields ++ others) = flagsOf fields ||| flagsOf others := by
  induction fields with
  | nil => exact (BitVec.zero_or).symm
  | cons field fields ih =>
    change field.flag ||| flagsOf (fields ++ others) = (field.flag ||| flagsOf fields) ||| flagsOf others
    rw [ih, BitVec.or_assoc]

theorem flagsOf_singleton (field : QueryField) : flagsOf [field] = field.flag := BitVec.or_zero

theorem flagsOf_eq_zero {fields : List QueryField} : flagsOf fields = 0 ↔ fields = [] := by
  constructor
  · intro h
    cases fields with
    | nil => rfl
    | cons field fields => exact absurd (BitVec.or_eq_zero_iff.1 h).1 field.flag_ne_zero
  · rintro rfl
    rfl

theorem flagsOf_clear (fields : List QueryField) (field : QueryField) :
    flagsOf fields &&& ~~~field.flag = flagsOf (fields.filter (· ≠ field)) := by
  induction fields with
  | nil => exact BitVec.zero_and
  | cons other fields ih =>
    change (other.flag ||| flagsOf fields) &&& ~~~field.flag = _
    rw [BitVec.and_or_distrib_right, ih, field.flag_clear other]
    by_cases hsame : other = field
    · rw [if_pos hsame, List.filter_cons_of_neg (by simp [hsame])]
      exact BitVec.zero_or
    · rw [if_neg hsame, List.filter_cons_of_pos (by simp [hsame])]
      rfl

/-! ### The callbacks -/

variable {s s' : PlayerQueries} {ctx ctx' : MediaQueryPriv} {fields asked : List QueryField} {field : QueryField}
  {sends : QuerySends} {call cookie : Nat} {ret : Int} {value : BitVec 32} {sub : SubQuery} {q : PlayerCall}

theorem complete_open (h : ctx.expected ≠ 0) : s.complete ctx = { s with query := some ctx } := if_neg h

theorem complete_over (h : ctx.expected = 0) :
    s.complete ctx =
      { s with
        query := some ctx
        data := mediaMetadataUpdate s.data ctx.diff
        answers := s.answers ++ [⟨ctx.call, ctx.cookie, ctx.diff.flags, mediaMetadataUpdate s.data ctx.diff⟩] } :=
  if_pos h

/-- The four callbacks differ in the flag and in what they store. -/
theorem QueryField.cb_eq (field : QueryField) :
    ∃ store : MediaMetadata → BitVec 32 → MediaMetadata,
      (∀ diff value, (store diff value).flags = diff.flags) ∧ field.cb = queryFieldCb field.flag store := by
  cases field with
  | state => exact ⟨fun diff value => { diff with state := value }, fun _ _ => rfl, rfl⟩
  | volume => exact ⟨fun diff value => { diff with volume := value }, fun _ _ => rfl, rfl⟩
  | duration => exact ⟨fun diff value => { diff with duration := value }, fun _ _ => rfl, rfl⟩
  | position => exact ⟨fun diff value => { diff with position := value }, fun _ _ => rfl, rfl⟩

theorem reply_failed (hquery : s.query = some ctx) (hret : ret < 0) :
    s.reply field ret value = s.complete { ctx with expected := ctx.expected &&& ~~~field.flag } := by
  obtain ⟨store, -, hcb⟩ := field.cb_eq
  rw [PlayerQueries.reply, hquery, Option.elim_some, hcb, queryFieldCb, if_neg (Int.not_le.2 hret)]

/-- A reply clears the bit of its field, and notes the field if it is a success. -/
theorem reply_eq (field : QueryField) (ret : Int) (value : BitVec 32) (hquery : s.query = some ctx) :
    ∃ ctx' : MediaQueryPriv, s.reply field ret value = s.complete ctx' ∧ ctx'.call = ctx.call ∧
      ctx'.cookie = ctx.cookie ∧ ctx'.expected = ctx.expected &&& ~~~field.flag ∧
      ctx'.diff.flags = if 0 ≤ ret then ctx.diff.flags ||| field.flag else ctx.diff.flags := by
  by_cases hret : 0 ≤ ret
  · obtain ⟨store, hflags, hcb⟩ := field.cb_eq
    rw [if_pos hret, PlayerQueries.reply, hquery, Option.elim_some, hcb, queryFieldCb, if_pos hret]
    refine ⟨_, rfl, rfl, rfl, rfl, ?_⟩
    dsimp only
    rw [hflags]
  · rw [if_neg hret, reply_failed hquery (Int.not_le.1 hret)]
    exact ⟨_, rfl, rfl, rfl, rfl, rfl⟩

/-! ### The four requests -/

/-- The fields whose requests are sent. -/
def QuerySends.sent (sends : QuerySends) (fields : List QueryField) : List QueryField :=
  fields.filter fun field => sends.outcome field = .sent

/-- A context that expects nothing but what was asked for is left alone by requests that are dropped, unless the first
one is. -/
theorem foldl_ask (ctx : MediaQueryPriv) (asked fields : List QueryField) (sends : QuerySends) (call : Nat)
    (hquery : s.query = some { ctx with expected := flagsOf asked }) (hnodup : (asked ++ fields).Nodup)
    (hhead : (fields.map sends.outcome).find? (fun o => o ≠ .refused) = some .dropped → asked ≠ []) :
    fields.foldl (PlayerQueries.ask call sends) s =
      { s with
        query := some { ctx with expected := flagsOf (asked ++ sends.sent fields) }
        pending := s.pending ++ (sends.sent fields).map (SubQuery.mk call) } := by
  induction fields generalizing s asked with
  | nil =>
    cases s
    cases hquery
    simp [QuerySends.sent]
  | cons field fields ih =>
    rw [List.foldl_cons]
    have hmoved : (asked ++ [field] ++ fields).Nodup := by rwa [List.append_assoc]
    cases ho : sends.outcome field with
    | sent =>
      have hask : PlayerQueries.ask call sends s field =
          { s with
            pending := s.pending ++ [⟨call, field⟩]
            query := some { ctx with expected := flagsOf (asked ++ [field]) } } := by
        rw [PlayerQueries.ask, ho, hquery, flagsOf_append, flagsOf_singleton]
        rfl
      rw [hask, ih _ rfl hmoved fun _ => List.append_ne_nil_of_right_ne_nil _ (List.cons_ne_nil _ _)]
      simp [QuerySends.sent, ho]
    | refused =>
      have hask : PlayerQueries.ask call sends s field = s := by rw [PlayerQueries.ask, ho]
      have hrest : (asked ++ fields).Nodup := hnodup.sublist ((List.sublist_cons_self _ _).append_left _)
      rw [hask, ih _ hquery hrest (by simpa [ho] using hhead)]
      simp [QuerySends.sent, ho]
    | dropped =>
      have hasked : asked ≠ [] := hhead (by simp [ho])
      have hrest : (asked ++ fields).Nodup := hnodup.sublist ((List.sublist_cons_self _ _).append_left _)
      have hnew : field ∉ asked := fun hmem =>
        (List.nodup_append.1 hnodup).2.2 field hmem field List.mem_cons_self rfl
      -- the bit that is cleared was not set
      have hsame : flagsOf asked &&& ~~~field.flag = flagsOf asked := by
        rw [flagsOf_clear, List.filter_eq_self.2]
        intro other hother
        exact decide_eq_true fun (heq : other = field) => hnew (heq ▸ hother)
      have hask : PlayerQueries.ask call sends s field = s := by
        rw [PlayerQueries.ask, ho]
        dsimp only
        rw [reply_failed hquery (by decide)]
        dsimp only
        rw [hsame, complete_open (flagsOf_eq_zero.not.2 hasked), ← hquery]
      rw [hask, ih _ hquery hrest fun _ => hasked]
      simp [QuerySends.sent, ho]

/-- When no request is sent nothing is expected, and only `on_query` of this call may be called. -/
theorem foldl_ask_nothing (call : Nat) (hquery : s.query = some ctx) (hexpected : ctx.expected = 0)
    (hnone : sends.sent fields = []) :
    ∃ data answers, fields.foldl (PlayerQueries.ask call sends) s = { s with data, answers := s.answers ++ answers } ∧
      ∀ a ∈ answers, a.call = ctx.call := by
  induction fields generalizing s with
  | nil => exact ⟨s.data, [], by simp, by simp⟩
  | cons field fields ih =>
    have hnone' := List.filter_eq_nil_iff.1 hnone
    have hrest : sends.sent fields = [] := List.filter_eq_nil_iff.2 fun f hf => hnone' f (List.mem_cons_of_mem _ hf)
    rw [List.foldl_cons]
    cases ho : sends.outcome field with
    | sent => exact absurd (decide_eq_true ho) (hnone' field List.mem_cons_self)
    | refused =>
      have hask : PlayerQueries.ask call sends s field = s := by rw [PlayerQueries.ask, ho]
      rw [hask]
      exact ih hquery hrest
    | dropped =>
      have hsame : ctx.expected &&& ~~~field.flag = ctx.expected := by
        rw [hexpected]
        exact BitVec.zero_and
      have hask : PlayerQueries.ask call sends s field = s.complete ctx := by
        rw [PlayerQueries.ask, ho]
        dsimp only
        rw [reply_failed hquery (by decide), hsame]
      rw [hask, complete_over hexpected]
      obtain ⟨data, answers, heq, hanswers⟩ :=
        ih (s := { s with
          query := some ctx
          data := mediaMetadataUpdate s.data ctx.diff
          answers := s.answers ++ [⟨ctx.call, ctx.cookie, ctx.diff.flags, mediaMetadataUpdate s.data ctx.diff⟩] })
          rfl hrest
      refine ⟨data, ⟨ctx.call, ctx.cookie, ctx.diff.flags, mediaMetadataUpdate s.data ctx.diff⟩ :: answers, ?_, ?_⟩
      · rw [heq, ← hquery]
        simp
      · intro a ha
        rcases List.mem_cons.1 ha with rfl | hold
        · rfl
        · exact hanswers a hold

/-! ### The count -/

namespace PlayerQueries

/-- `on_query` of a call was called once. -/
def Answered (s : PlayerQueries) (q : PlayerCall) : Prop := s.given q.call = [(q.cookie, s.flags q.call)]

/-- Calls that have not been made are not noted. -/
structure Recorded (s : PlayerQueries) : Prop where
  accepted : ∀ q ∈ s.accepted, q.call < s.made
  succeeded : ∀ sub ∈ s.succeeded, sub.call < s.made
  answers : ∀ a ∈ s.answers, a.call < s.made

/-- The context counts down the requests for `fields` of its call, which was not answered yet. -/
structure Awaits (s : PlayerQueries) (ctx : MediaQueryPriv) (fields : List QueryField) : Prop where
  query : s.query = some ctx
  current : ctx.call < s.made
  distinct : fields.Nodup
  pending : s.pending = fields.map (SubQuery.mk ctx.call)
  expected : ctx.expected = flagsOf fields
  flags : ctx.diff.flags = s.flags ctx.call
  cookie : ∀ q ∈ s.accepted, q.call = ctx.call → q.cookie = ctx.cookie
  unanswered : s.given ctx.call = []

/-- All accepted calls are answered, or all but one that still awaits replies. -/
inductive Stage (s : PlayerQueries) : Prop
  | idle (hpending : s.pending = []) (hall : ∀ q ∈ s.accepted, s.Answered q)
  | busy (ctx : MediaQueryPriv) (fields : List QueryField) (hne : fields ≠ []) (hawaits : s.Awaits ctx fields)
    (hall : ∀ q ∈ s.accepted, q.call ≠ ctx.call → s.Answered q)

theorem Stage.allAnswered (h : s.Stage) : s.AllAnswered := by
  intro q hq
  cases h with
  | idle hpending hall =>
    rw [if_neg (by simp [hpending])]
    exact hall q hq
  | busy ctx fields hne hawaits hall =>
    by_cases hcall : q.call = ctx.call
    · obtain ⟨field, hfield⟩ := List.exists_mem_of_ne_nil fields hne
      have hmem : SubQuery.mk ctx.call field ∈ s.pending := hawaits.pending ▸ List.mem_map_of_mem hfield
      rw [if_pos ⟨_, hmem, hcall.symm⟩, hcall]
      exact hawaits.unanswered
    · have hother : ¬ ∃ sub ∈ s.pending, sub.call = q.call := by
        rintro ⟨sub, hsub, hsame⟩
        rw [hawaits.pending] at hsub
        obtain ⟨field, -, rfl⟩ := List.mem_map.1 hsub
        exact hcall hsame.symm
      rw [if_neg hother]
      exact hall q hq hcall

theorem given_of_new (h : s.Recorded) (hcall : s.made ≤ call) : s.given call = [] := by
  have hnone : s.answers.filter (fun a => a.call = call) = [] := by
    refine List.filter_eq_nil_iff.2 fun a ha => ?_
    have := h.answers a ha
    simp
    omega
  rw [given, hnone, List.map_nil]

theorem flags_of_new (h : s.Recorded) (hcall : s.made ≤ call) : s.flags call = 0 := by
  have hnone : s.succeeded.filter (fun sub => sub.call = call) = [] := by
    refine List.filter_eq_nil_iff.2 fun sub hsub => ?_
    have := h.succeeded sub hsub
    simp
    omega
  rw [flags, hnone]
  rfl

theorem given_other {answers : List PlayerAnswer} (hs : s'.answers = s.answers ++ answers)
    (hother : ∀ a ∈ answers, a.call ≠ call) : s'.given call = s.given call := by
  have hnone : answers.filter (fun a => a.call = call) = [] := by
    refine List.filter_eq_nil_iff.2 fun a ha => ?_
    simpa using hother a ha
  rw [given, hs, List.filter_append, hnone, List.append_nil]
  rfl

theorem flags_other (subs : List SubQuery) (hs : s'.succeeded = s.succeeded ++ subs)
    (hother : ∀ sub ∈ subs, sub.call ≠ call) : s'.flags call = s.flags call := by
  have hnone : subs.filter (fun sub => sub.call = call) = [] := by
    refine List.filter_eq_nil_iff.2 fun sub hsub => ?_
    simpa using hother sub hsub
  rw [flags, hs, List.filter_append, hnone, List.append_nil]
  rfl

theorem Answered.congr (h : s.Answered q) (hgiven : s'.given q.call = s.given q.call)
    (hflags : s'.flags q.call = s.flags q.call) : s'.Answered q := by
  rw [Answered, hgiven, hflags]
  exact h

/-- A call takes the context when nothing is expected. -/
theorem Stage.query (cookie : Nat) (hrec : s.Recorded) (hall : ∀ q ∈ s.accepted, s.Answered q)
    (hpending : s.pending = []) (hhead : sends.HeadSent) :
    let t := queryOrder.foldl (ask s.made sends) (s.take cookie)
    if t.query.all fun ctx => ctx.expected = 0 then t.Recorded ∧ t.Stage
    else
      let t' : PlayerQueries := { t with accepted := t.accepted ++ [⟨s.made, cookie⟩] }
      t'.Recorded ∧ t'.Stage := by
  by_cases hsent : sends.sent queryOrder = []
  · obtain ⟨data, answers, heq, hanswers⟩ :=
      foldl_ask_nothing (s := s.take cookie) s.made rfl rfl hsent
    dsimp only
    rw [heq, if_pos (show Option.all _ (s.take cookie).query = true from rfl)]
    refine ⟨⟨fun q hq => ?_, fun sub hsub => ?_, fun a ha => ?_⟩, .idle hpending fun q hq => ?_⟩
    · exact Nat.lt_succ_of_lt (hrec.accepted q hq)
    · exact Nat.lt_succ_of_lt (hrec.succeeded sub hsub)
    · rcases List.mem_append.1 ha with hold | hnew
      · exact Nat.lt_succ_of_lt (hrec.answers a hold)
      · rw [hanswers a hnew]
        exact Nat.lt_succ_self _
    · refine (hall q hq).congr (given_other rfl fun a ha hsame => ?_) rfl
      rw [hanswers a ha] at hsame
      exact Nat.ne_of_gt (hrec.accepted q hq) hsame
  · have hmem : SendOutcome.sent ∈ queryOrder.map sends.outcome := by
      obtain ⟨field, hfield⟩ := List.exists_mem_of_ne_nil _ hsent
      obtain ⟨horder, ho⟩ := List.mem_filter.1 hfield
      exact List.mem_map.2 ⟨field, horder, of_decide_eq_true ho⟩
    have heq := foldl_ask (s := s.take cookie) { call := s.made, cookie } [] queryOrder sends s.made rfl (by decide)
      fun hdropped => absurd hmem (hhead hdropped)
    dsimp only
    rw [heq, List.nil_append, if_neg (by simpa using flagsOf_eq_zero.not.2 hsent)]
    refine ⟨⟨fun q hq => ?_, fun sub hsub => ?_, fun a ha => ?_⟩,
      .busy { call := s.made, cookie, expected := flagsOf (sends.sent queryOrder) } _ hsent ?_ fun q hq hcall => ?_⟩
    · rcases List.mem_append.1 hq with hold | hnew
      · exact Nat.lt_succ_of_lt (hrec.accepted q hold)
      · rw [List.mem_singleton.1 hnew]
        exact Nat.lt_succ_self _
    · exact Nat.lt_succ_of_lt (hrec.succeeded sub hsub)
    · exact Nat.lt_succ_of_lt (hrec.answers a ha)
    · refine ⟨rfl, Nat.lt_succ_self _, ?_, ?_, rfl, (flags_of_new (s := s) hrec (Nat.le_refl _)).symm,
        fun q hq hcall => ?_, ?_⟩
      · exact (by decide : queryOrder.Nodup).filter _
      · change s.pending ++ _ = _
        rw [hpending, List.nil_append]
      · rcases List.mem_append.1 hq with hold | hnew
        · exact absurd hcall (Nat.ne_of_lt (hrec.accepted q hold))
        · rw [List.mem_singleton.1 hnew]
      · exact given_of_new (s := s) hrec (Nat.le_refl _)
    · rcases List.mem_append.1 hq with hold | hnew
      · exact hall q hold
      · rw [List.mem_singleton.1 hnew] at hcall
        exact absurd rfl hcall

/-- The reply to a request that is on its way, where `t` has noted it. -/
theorem Stage.reply (hrec : s.Recorded) (hawaits : s.Awaits ctx fields)
    (hall : ∀ q ∈ s.accepted, q.call ≠ ctx.call → s.Answered q) :
    let t := PlayerQueries.reply
      { s with
        pending := s.pending.erase ⟨ctx.call, field⟩
        succeeded := if 0 ≤ ret then s.succeeded ++ [⟨ctx.call, field⟩] else s.succeeded } field ret value
    t.Recorded ∧ t.Stage := by
  set t : PlayerQueries := { s with
    pending := s.pending.erase ⟨ctx.call, field⟩
    succeeded := if 0 ≤ ret then s.succeeded ++ [⟨ctx.call, field⟩] else s.succeeded } with ht
  obtain ⟨ctx', hreply, hcall, hcookie, hexpected, hflags⟩ := reply_eq (s := t) field ret value hawaits.query
  have htrec : t.Recorded := by
    refine ⟨hrec.accepted, fun sub hsub => ?_, hrec.answers⟩
    rw [ht] at hsub ⊢
    dsimp only at hsub ⊢
    split at hsub
    · rcases List.mem_append.1 hsub with hold | hnew
      · exact hrec.succeeded sub hold
      · rw [List.mem_singleton.1 hnew]
        exact hawaits.current
    · exact hrec.succeeded sub hsub
  have hpending : t.pending = (fields.erase field).map (SubQuery.mk ctx.call) := by
    have hinj : Function.Injective (SubQuery.mk ctx.call) := fun a b h => (SubQuery.mk.inj h).2
    rw [ht]
    dsimp only
    rw [hawaits.pending, List.map_erase hinj]
  have hleft : ctx'.expected = flagsOf (fields.erase field) := by
    rw [hexpected, hawaits.expected, flagsOf_clear, hawaits.distinct.erase_eq_filter]
    congr 1
    exact List.filter_congr fun a _ => by by_cases h : a = field <;> simp [h]
  have hnoted : ctx'.diff.flags = t.flags ctx.call := by
    rw [hflags, ht]
    by_cases hret : 0 ≤ ret
    · simp only [if_pos hret, flags, List.filter_append, List.map_append, flagsOf_append]
      rw [hawaits.flags, List.filter_cons_of_pos (by simp), List.filter_nil, List.map_singleton, flagsOf_singleton]
      rfl
    · simp only [if_neg hret]
      exact hawaits.flags
  have hold : ∀ q ∈ t.accepted, q.call ≠ ctx.call → t.Answered q := by
    intro q hq hother
    refine (hall q hq hother).congr rfl ?_
    rw [ht]
    by_cases hret : 0 ≤ ret
    · refine flags_other [⟨ctx.call, field⟩] (by simp [hret]) fun sub hsub => ?_
      rw [List.mem_singleton.1 hsub]
      exact hother.symm
    · exact flags_other [] (by simp [hret]) (by simp)
  dsimp only
  rw [hreply]
  by_cases hlast : fields.erase field = []
  · -- the call is over
    rw [complete_over (by rw [hleft, hlast]; rfl)]
    refine ⟨⟨htrec.accepted, htrec.succeeded, fun a ha => ?_⟩, .idle (by simpa [hlast] using hpending) fun q hq => ?_⟩
    · rcases List.mem_append.1 ha with hmem | hnew
      · exact htrec.answers a hmem
      · rw [List.mem_singleton.1 hnew]
        exact hcall ▸ hawaits.current
    · by_cases hsame : q.call = ctx.call
      · have hgiven : t.given ctx.call = [] := hawaits.unanswered
        rw [given, List.map_eq_nil_iff] at hgiven
        rw [Answered, given, hsame]
        dsimp only
        rw [List.filter_append, hgiven, List.nil_append, List.filter_cons_of_pos (by simp [hcall]), List.filter_nil,
          List.map_singleton, hcookie, hnoted, hawaits.cookie q hq hsame]
        rfl
      · refine (hold q hq hsame).congr (given_other rfl fun a ha hcall' => ?_) rfl
        rw [List.mem_singleton.1 ha] at hcall'
        exact hsame (hcall'.symm.trans hcall)
  · rw [complete_open (by rw [hleft]; exact flagsOf_eq_zero.not.2 hlast)]
    refine ⟨⟨htrec.accepted, htrec.succeeded, htrec.answers⟩,
      .busy ctx' (fields.erase field) hlast ⟨rfl, ?_, hawaits.distinct.erase _, ?_, hleft, ?_, fun q hq hsame => ?_, ?_⟩
        fun q hq hother => (hold q hq (hcall ▸ hother)).congr rfl rfl⟩
    · exact hcall ▸ hawaits.current
    · rw [hcall]
      exact hpending
    · rw [hcall]
      exact hnoted
    · rw [hcookie]
      exact hawaits.cookie q hq (hsame.trans hcall)
    · rw [hcall]
      exact hawaits.unanswered

theorem Stage.next {i : PlayerQueryInput} (hrec : s.Recorded) (h : s.Stage) (hg : AskedAlone s i)
    (hs : playerQueryMachine.next s i = some s') : s'.Recorded ∧ s'.Stage := by
  change playerQueryNext s i = some s' at hs
  cases i with
  | query cookie alloc sends =>
    simp only [playerQueryNext, mediaUvPlayerQueryCall, Option.some.injEq] at hs
    by_cases hmem : s.query = none ∧ alloc = false
    · rw [if_pos hmem, if_neg (show ¬ -ENOMEM = 0 by decide)] at hs
      exact hs ▸ ⟨hrec, h⟩
    · rw [if_neg hmem] at hs
      obtain ⟨hpending, hhead⟩ := hg (by
        by_cases hquery : s.query = none
        · exact .inr (by simpa using fun halloc => hmem ⟨hquery, halloc⟩)
        · exact .inl hquery)
      have hall : ∀ q ∈ s.accepted, s.Answered q := by
        cases h with
        | idle _ hall => exact hall
        | busy ctx fields hne hawaits _ => exact absurd (List.map_eq_nil_iff.1 (hawaits.pending ▸ hpending)) hne
      have hstage := Stage.query cookie hrec hall hpending hhead
      dsimp only at hstage
      split at hstage
      · rename_i hnothing
        rw [if_pos hnothing, if_neg (show ¬ -EINVAL = 0 by decide)] at hs
        exact hs ▸ hstage
      · rename_i hsome
        rw [if_neg hsome, if_pos rfl] at hs
        exact hs ▸ hstage
  | reply sub ret value =>
    simp only [playerQueryNext] at hs
    by_cases hmem : sub ∈ s.pending
    · rw [if_pos hmem] at hs
      cases hs
      cases h with
      | idle hpending _ => exact absurd hmem (by simp [hpending])
      | busy ctx fields _ hawaits hall =>
        rw [hawaits.pending] at hmem
        obtain ⟨field, -, rfl⟩ := List.mem_map.1 hmem
        exact Stage.reply hrec hawaits hall
    · rw [if_neg hmem] at hs
      cases hs

end PlayerQueries

/-! ### Runs -/

/-- When each query is made alone, and the first of its requests that is taken is not dropped, each accepted query is
answered once. -/
theorem playerQueries_allAnswered (h : playerQueryMachine.ReachableVia AskedAlone s) : s.AllAnswered :=
  (h.invariant (P := fun s : PlayerQueries => s.Recorded ∧ s.Stage)
    ⟨⟨by simp [playerQueryMachine], by simp [playerQueryMachine], by simp [playerQueryMachine]⟩,
      .idle rfl (by simp [playerQueryMachine])⟩
    fun _ _ _ hs hg hnext => hs.2.next hs.1 hg hnext).2.allAnswered

/-- The volume is refused and the position dropped; the other replies come in another order than the requests. -/
def sampleQueries : List PlayerQueryInput :=
  [.query 7 true ⟨.sent, false, .sent, .dropped⟩, .reply ⟨0, .duration⟩ 0 1000, .reply ⟨0, .state⟩ (-ECANCELED) 0,
    .query 8 false ⟨.sent, true, .refused, .sent⟩, .reply ⟨1, .position⟩ 0 20]

theorem sampleQueries_possible :
    (playerQueryMachine.runFrom AskedAlone playerQueryMachine.start sampleQueries).isSome := by decide

theorem playerQueries_allAnswered_sample :
    ((playerQueryMachine.runFrom AskedAlone playerQueryMachine.start sampleQueries).get
      sampleQueries_possible).AllAnswered :=
  playerQueries_allAnswered (Machine.reachableVia_get sampleQueries_possible)

/-- A second query is made while replies to the first one are to come. -/
def sampleOverlap : List PlayerQueryInput :=
  [.query 7 true ⟨.sent, false, .sent, .refused⟩, .query 8 true ⟨.sent, false, .refused, .refused⟩,
    .reply ⟨0, .state⟩ 0 1]

theorem sampleOverlap_possible :
    (playerQueryMachine.runFrom (fun _ _ => True) playerQueryMachine.start sampleOverlap).isSome := by decide

/-- The first reply to the first query ends the second one. -/
theorem playerQueries_not_allAnswered : ¬ ∀ s, playerQueryMachine.Reachable s → s.AllAnswered := by
  intro h
  have hall := h _ (Machine.reachableVia_get sampleOverlap_possible)
  revert hall
  decide

/-- A request that is dropped first ends the query before the others are sent. -/
example : (playerQueryMachine.runFrom (fun _ _ => True) playerQueryMachine.start
    [.query 7 true ⟨.dropped, true, .refused, .refused⟩, .reply ⟨0, .volume⟩ 0 9]).map (fun s => s.given 0) =
      some [(7, 0), (7, MEDIA_METAFLAG_VOLUME)] := by decide

end MediaFramework
