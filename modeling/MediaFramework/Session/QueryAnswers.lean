import Mathlib.Data.List.Perm.Basic
import MediaFramework.Client.MediaUv
import MediaFramework.Session.UvController

/-!
# The answers to asynchronous queries (`client/media_uv_session.c`)

A query is answered from the metadata that are there, or by the reply to it.  The flag that the metadata are there is
set when a query was sent, before it is known how it ends.  The callback for a reply goes on after an error, and calls
the callback of the user again.
-/

namespace MediaFramework

/-! ### Runs -/

/-- A call of `media_uv_session_query` that returned 0: its number, and the cookie that it was given. -/
structure AcceptedQuery where
  id : Nat
  cookie : Nat
  deriving DecidableEq

/-- A query that is over: it was answered from the cache, or its reply has come, or it was canceled, and what the
metadata are then. -/
structure FinishedQuery where
  query : AcceptedQuery
  result : Int
  data : MediaMetadata
  deriving DecidableEq

/-- The call of `on_query` that the query is to have. -/
def FinishedQuery.answer (f : FinishedQuery) : AcceptedQuery × OnQuery :=
  (f.query, if f.result < 0 then ⟨f.query.cookie, f.result, none⟩ else ⟨f.query.cookie, 0, some f.data⟩)

/-- A controller, the number of queries that were accepted, those that are sent and not answered, those that are over,
the calls of `on_query` for them, the query that has set the flag last, and whether an array has overflowed. -/
structure UvQueries where
  client : SessionClient
  accepted : Nat
  pending : List AcceptedQuery
  finished : List FinishedQuery
  calls : List (AcceptedQuery × OnQuery)
  source : Option Nat
  overflown : Bool
  deriving DecidableEq

/-- A call of `media_uv_session_query`; the reply to a query that is pending, or its cancellation, which has the result
`-ECANCELED` and no response; an event; a call of `media_uv_session_listen`. -/
inductive UvQueryInput
  | query (cookie : Nat) (outcome : SendOutcome)
  | reply (k : Nat) (stack : MetadataStack) (result : Int) (response : Option CString)
  | event (event : BitVec 32)
  | listen

/-- A query that is not answered from the cache.  The calls of `on_query` for one that is dropped are not noted, as the
call returns an error. -/
def UvQueries.send (s : UvQueries) (cookie : Nat) : SendOutcome → UvQueries
  | .sent =>
    { s with
      client := mediaSessionQueryDone s.client
      accepted := s.accepted + 1
      pending := s.pending ++ [⟨s.accepted, cookie⟩]
      source := if s.client.event then some s.accepted else s.source }
  | .refused => s
  | .dropped =>
    match mediaUvControllerReceiveMetadataCb {} s.client cookie (-ECANCELED) none with
    | some r => { s with client := r.1 }
    | none => s

/-- A query, where `own` is the cookie of the controller. -/
def UvQueries.query (own : Nat) (s : UvQueries) (cookie : Nat) (outcome : SendOutcome) : UvQueries :=
  if s.client.needQuery = false then
    { s with
      accepted := s.accepted + 1
      finished := s.finished ++ [⟨⟨s.accepted, cookie⟩, 0, s.client.data⟩]
      calls := s.calls ++ (mediaUvSessionQuery own s.client true).2.2.map fun call => (⟨s.accepted, cookie⟩, call) }
  else s.send cookie outcome

/-- The reply to a pending query. -/
def UvQueries.reply (s : UvQueries) (query : AcceptedQuery) (stack : MetadataStack) (result : Int)
    (response : Option CString) : UvQueries :=
  match mediaUvControllerReceiveMetadataCb stack s.client query.cookie result response with
  | some r =>
    { s with
      client := r.1
      finished := s.finished ++ [⟨query, result, r.1.data⟩]
      calls := s.calls ++ r.2.map fun call => (query, call) }
  | none => { s with finished := s.finished ++ [⟨query, result, s.client.data⟩], overflown := true }

def uvQueriesNext (own : Nat) (s : UvQueries) : UvQueryInput → Option UvQueries
  | .query cookie outcome => if s.overflown then none else some (s.query own cookie outcome)
  | .reply k stack result response =>
    if s.overflown then none
    else
      s.pending[k]?.map fun query =>
        { s with pending := s.pending.eraseIdx k }.reply query stack result response
  | .event event => if s.overflown then none else some { s with client := mediaUvSessionEventCb s.client event }
  | .listen => if s.overflown then none else some { s with client := { s.client with event := true } }

/-- A controller that was just opened, with the cookie `own`. -/
def uvQueryMachine (own : Nat) : Machine UvQueries UvQueryInput where
  start := ⟨{}, 0, [], [], [], none, false⟩
  next := uvQueriesNext own

/-! ### The property -/

/-- Each accepted query is pending, or it is over and has had its call of `on_query`.  The metadata that are there are
not those of a query that has failed. -/
structure UvQueries.QueriesAnswered (s : UvQueries) : Prop where
  accepted : ((s.pending ++ s.finished.map FinishedQuery.query).map AcceptedQuery.id).Perm (List.range s.accepted)
  calls : s.calls = s.finished.map FinishedQuery.answer
  cached : s.client.needQuery = false → ∀ f ∈ s.finished, s.source = some f.query.id → 0 ≤ f.result

instance (s : UvQueries) : Decidable s.QueriesAnswered :=
  decidable_of_iff (_ ∧ _ ∧ (_ → ∀ _ ∈ _, _)) ⟨fun h => ⟨h.1, h.2.1, h.2.2⟩, fun h => ⟨h.1, h.2, h.3⟩⟩

/-- The words of a response fit into their arrays. -/
def WordsFit (response : Option CString) : Prop :=
  ∀ text ∈ response, (scannedWord (Scanf.scan metadataFormat text) 5 []).length < 128 ∧
    (scannedWord (Scanf.scan metadataFormat text) 6 []).length < 128

instance (response : Option CString) : Decidable (WordsFit response) := inferInstanceAs (Decidable (∀ _ ∈ _, _))

/-- A query that is answered from the cache has the cookie of the controller, and all queries succeed. -/
def QueriesSucceed (own : Nat) (s : UvQueries) : UvQueryInput → Prop
  | .query cookie _ => s.client.needQuery = false → cookie = own
  | .reply _ _ result response => 0 ≤ result ∧ WordsFit response
  | .event _ | .listen => True

instance (own : Nat) (s : UvQueries) : (i : UvQueryInput) → Decidable (QueriesSucceed own s i)
  | .query _ _ => inferInstanceAs (Decidable (_ → _))
  | .reply _ _ _ _ => inferInstanceAs (Decidable (_ ∧ _))
  | .event _ | .listen => inferInstanceAs (Decidable True)

/-! ### Steps -/

variable {s s' : UvQueries} {own cookie k : Nat} {asked : AcceptedQuery} {stack : MetadataStack} {result : Int}
  {response : Option CString} {i : UvQueryInput}

theorem unserialize_isSome (stack : MetadataStack) (data : MediaMetadata) (h : WordsFit response) :
    (mediaMetadataUnserialize stack data response).isSome := by
  cases response with
  | none => rfl
  | some text =>
    obtain ⟨htitle, hartist⟩ := h text rfl
    unfold mediaMetadataUnserialize
    dsimp only
    rw [if_neg (by omega)]
    rfl

/-- A reply without an error ends in one call. -/
theorem receiveMetadata_of_success (stack : MetadataStack) (client : SessionClient) (cookie : Nat)
    (hresult : 0 ≤ result) (h : WordsFit response) :
    ∃ client', mediaUvControllerReceiveMetadataCb stack client cookie result response =
        some (client', [⟨cookie, 0, some client'.data⟩]) := by
  obtain ⟨r, hr⟩ := Option.isSome_iff_exists.1 (unserialize_isSome stack mediaMetadataInit h)
  refine ⟨{ client with data := mediaMetadataUpdate client.data r.2 }, ?_⟩
  rw [mediaUvControllerReceiveMetadataCb, hr, Option.map_some, if_neg (Int.not_lt.2 hresult)]
  rfl

/-- What holds in every state of a run in which all queries succeed. -/
structure UvQueries.Answering (s : UvQueries) : Prop where
  accepted : ((s.pending ++ s.finished.map FinishedQuery.query).map AcceptedQuery.id).Perm (List.range s.accepted)
  calls : s.calls = s.finished.map FinishedQuery.answer
  succeeded : ∀ f ∈ s.finished, 0 ≤ f.result

namespace UvQueries.Answering

theorem queriesAnswered (h : s.Answering) : s.QueriesAnswered where
  accepted := h.accepted
  calls := h.calls
  cached _ f hf _ := h.succeeded f hf

/-- A query that is over with success has its call. -/
theorem finish (h : s.Answering) {pending : List AcceptedQuery} {accepted : Nat} {client : SessionClient}
    {f : FinishedQuery} (hresult : 0 ≤ f.result)
    (hids : ((pending ++ (s.finished ++ [f]).map FinishedQuery.query).map AcceptedQuery.id).Perm
      (List.range accepted)) :
    ({ s with client, pending, accepted, finished := s.finished ++ [f], calls := s.calls ++ [f.answer] } :
      UvQueries).Answering := by
  refine ⟨hids, ?_, fun f' hf' => ?_⟩
  · change s.calls ++ [f.answer] = (s.finished ++ [f]).map FinishedQuery.answer
    rw [h.calls, List.map_append]
    rfl
  · rcases List.mem_append.1 hf' with hold | hnew
    · exact h.succeeded f' hold
    · rw [List.mem_singleton.1 hnew]
      exact hresult

theorem send (h : s.Answering) (cookie : Nat) (outcome : SendOutcome) : (s.send cookie outcome).Answering := by
  cases outcome with
  | sent =>
    refine ⟨?_, h.calls, h.succeeded⟩
    have hids := h.accepted
    change ((s.pending ++ [AcceptedQuery.mk s.accepted cookie] ++
      s.finished.map FinishedQuery.query).map AcceptedQuery.id).Perm (List.range (s.accepted + 1))
    rw [List.range_succ]
    simp only [List.map_append, List.append_assoc] at hids ⊢
    have hlast : ([s.accepted] ++ (s.finished.map FinishedQuery.query).map AcceptedQuery.id).Perm
        ((s.finished.map FinishedQuery.query).map AcceptedQuery.id ++ [s.accepted]) := List.perm_append_comm
    refine (hlast.append_left (s.pending.map AcceptedQuery.id)).trans ?_
    rw [← List.append_assoc]
    exact hids.append_right [s.accepted]
  | refused => exact h
  | dropped =>
    -- the call returns an error, and the metadata do not matter
    dsimp only [UvQueries.send]
    split
    · exact ⟨h.accepted, h.calls, h.succeeded⟩
    · exact h

theorem query (h : s.Answering) {outcome : SendOutcome} (hown : s.client.needQuery = false → cookie = own) :
    (s.query own cookie outcome).Answering := by
  unfold UvQueries.query
  split
  · rename_i hcached
    obtain rfl := hown hcached
    have hcall : (mediaUvSessionQuery cookie s.client true).2.2 = [⟨cookie, 0, some s.client.data⟩] := by
      rw [mediaUvSessionQuery, if_pos hcached]
    rw [hcall]
    refine h.finish (f := ⟨⟨s.accepted, cookie⟩, 0, s.client.data⟩) (Int.le_refl 0) ?_
    have hids := h.accepted.append_right [s.accepted]
    rw [← List.range_succ] at hids
    simpa only [List.map_append, List.append_assoc, List.map_cons, List.map_nil] using hids
  · exact h.send cookie outcome

theorem reply (h : s.Answering) (hpending : s.pending[k]? = some asked) (hresult : 0 ≤ result)
    (hfit : WordsFit response) :
    ({ s with pending := s.pending.eraseIdx k }.reply asked stack result response).Answering := by
  obtain ⟨client, hreply⟩ := receiveMetadata_of_success stack s.client asked.cookie hresult hfit
  have hcall : (⟨asked, result, client.data⟩ : FinishedQuery).answer =
      (asked, ⟨asked.cookie, 0, some client.data⟩) := by
    rw [FinishedQuery.answer, if_neg (Int.not_lt.2 hresult)]
  unfold UvQueries.reply
  rw [hreply]
  dsimp only
  rw [List.map_cons, List.map_nil, ← hcall]
  refine h.finish hresult ?_
  -- the query goes from the front to the end
  obtain ⟨hk, hget⟩ := List.getElem?_eq_some_iff.1 hpending
  have hmoved : (asked :: s.pending.eraseIdx k).Perm s.pending := by
    rw [← hget]
    exact List.getElem_cons_eraseIdx_perm hk
  refine List.Perm.trans (List.Perm.map _ ?_) h.accepted
  rw [List.map_append, ← List.append_assoc]
  refine List.perm_append_comm.trans ?_
  exact hmoved.append_right _

theorem next (h : s.Answering) (hgood : QueriesSucceed own s i) (hs : (uvQueryMachine own).next s i = some s') :
    s'.Answering := by
  change uvQueriesNext own s i = some s' at hs
  cases i with
  | query cookie outcome =>
    rw [uvQueriesNext] at hs
    split at hs
    · cases hs
    · cases hs
      exact h.query hgood
  | reply k stack result response =>
    rw [uvQueriesNext] at hs
    split at hs
    · cases hs
    · obtain ⟨asked, hpending, rfl⟩ := Option.map_eq_some_iff.1 hs
      exact h.reply hpending hgood.1 hgood.2
  | event event =>
    rw [uvQueriesNext] at hs
    split at hs
    · cases hs
    · cases hs
      exact ⟨h.accepted, h.calls, h.succeeded⟩
  | listen =>
    rw [uvQueriesNext] at hs
    split at hs
    · cases hs
    · cases hs
      exact ⟨h.accepted, h.calls, h.succeeded⟩

end UvQueries.Answering

/-! ### Runs -/

/-- When all queries succeed and those that are answered from the cache have the cookie of the controller, each
accepted query is answered once, to its caller, and what is in the cache was answered with success. -/
theorem uvQueries_answeredOnce (own : Nat) (h : (uvQueryMachine own).ReachableVia (QueriesSucceed own) s) :
    s.QueriesAnswered :=
  (h.invariant (P := UvQueries.Answering) ⟨List.Perm.refl _, rfl, fun _ hf => absurd hf List.not_mem_nil⟩
    fun _ _ _ hs hgood hnext => hs.next hgood hnext).queriesAnswered

/-- Two queries that are answered one after the other, an event, and a query that is answered from the cache. -/
def sampleAnswers : List UvQueryInput :=
  [.listen, .query 7 .sent, .event MEDIA_EVENT_UPDATED, .query 8 .sent, .reply 1 {} 0 (some []), .query 5 .refused,
    .reply 0 {} 0 none]

theorem sampleAnswers_possible :
    ((uvQueryMachine 5).runFrom (QueriesSucceed 5) (uvQueryMachine 5).start sampleAnswers).isSome := by decide

theorem uvQueries_answeredOnce_sample :
    (((uvQueryMachine 5).runFrom (QueriesSucceed 5) (uvQueryMachine 5).start sampleAnswers).get
      sampleAnswers_possible).QueriesAnswered :=
  uvQueries_answeredOnce 5 (Machine.reachableVia_get sampleAnswers_possible)

/-- A query is answered with an error. -/
def sampleRefusedQuery : List UvQueryInput := [.listen, .query 7 .sent, .reply 0 {} (-EPERM) none]

theorem sampleRefusedQuery_possible :
    ((uvQueryMachine 5).runFrom (fun _ _ => True) (uvQueryMachine 5).start sampleRefusedQuery).isSome := by decide

/-- The query is answered with the error, and with success; and the flag says that the metadata are there. -/
theorem uvQueries_not_answeredOnce :
    ¬ ∀ own s, (uvQueryMachine own).Reachable s → s.QueriesAnswered := by
  intro h
  have honce := h 5 _ (Machine.reachableVia_get sampleRefusedQuery_possible)
  revert honce
  decide

end MediaFramework
