import MediaFramework.Library.Recency
import MediaFramework.Session.SessionRuns

/-!
# The most active controllee

The list of controllees is in the order of their last updates in which they played: the handler only moves one
controllee at a time, and leaves the first one where it is.  It goes on after every call but for an update with a word
that is too long for its array.
-/

namespace MediaFramework

/-- A controllee by the number of registrations before it and by its address; a later one may get the same address. -/
abbrev Registration := Nat × Nat

/-- The session, and what has happened to its controllees. -/
structure SessionHistory where
  session : MediaSessionPriv
  history : List (Recency.Event Registration)

/-- The controllee that is registered and has the address. -/
def registration (history : List (Recency.Event Registration)) (addr : Nat) : Option Registration :=
  (Recency.present history).find? fun k => k.2 == addr

/-- What a call means for the controllees: an update raises the controllee if its metadata say that it plays. -/
def happened (t : SessionHistory) (call : SessionCall) (r : SessionResult) : List (Recency.Event Registration) :=
  match call.cmd with
  | .register => call.alloc.toList.map fun addr => .enter ((Recency.entered t.history).length, addr)
  | .unregister => (call.data.bind (registration t.history)).toList.map .leave
  | .update =>
    ((call.data.bind (registration t.history)).filter fun k =>
      (r.session.controllee k.2).any fun c => c.data.plays).toList.map .raise
  | _ => []

/-- The session module with its history. -/
def historyMachine : Machine SessionHistory SessionCall where
  start := { session := sessionMachine.start, history := [] }
  next t call := (mediaSessionHandler t.session call).map fun r =>
    { session := r.session, history := t.history ++ happened t call r }

abbrev HistoryReachable (t : SessionHistory) : Prop :=
  historyMachine.ReachableVia (fun t call => call.Proper t.session) t

/-- Each call is proper in the session that the calls before it have left. -/
def ProperCalls : SessionHistory → List SessionCall → Prop
  | _, [] => True
  | t, call :: calls => call.Proper t.session ∧ ∀ t' ∈ historyMachine.next t call, ProperCalls t' calls

/-- The session and its history after the calls, if the handler has gone on after each of them. -/
def historyRun (t : SessionHistory) (calls : List SessionCall) : Option SessionHistory :=
  historyMachine.runFrom (fun _ _ => True) t calls

variable {s : MediaSessionPriv} {t t' : SessionHistory} {call : SessionCall} {calls : List SessionCall}
  {r : SessionResult} {addr : Nat} {k : Registration} {history : List (Recency.Event Registration)}

theorem HistoryReachable.session (h : HistoryReachable t) : SessionReachable t.session := by
  refine h.invariant (P := fun t => SessionReachable t.session) .start ?_
  intro t call t' ht hproper hn
  obtain ⟨r, hr, rfl⟩ := Option.map_eq_some_iff.1 hn
  exact ht.next hproper hr

/-! ### The list is the order -/

/-- Registrations have the numbers 0, 1, …, and those that are there are in the list, in their order. -/
structure Recorded (s : MediaSessionPriv) (history : List (Recency.Event Registration)) : Prop where
  orderly : Recency.Orderly history
  numbered : (Recency.entered history).map Prod.fst = List.range (Recency.entered history).length
  listed : s.controlleeAddrs = (Recency.order history).map Prod.snd

private theorem filter_ne_map {α β : Type*} [DecidableEq α] [DecidableEq β] {f : α → β} {l : List α} {a : α}
    (hnodup : (l.map f).Nodup) (ha : a ∈ l) : (l.filter (· != a)).map f = (l.map f).filter (· != f a) := by
  rw [List.filter_map]
  refine congrArg _ (List.filter_congr fun b hb => ?_)
  have hinj : f b = f a → b = a := List.inj_on_of_nodup_map hnodup hb ha
  by_cases heq : b = a
  · simp [heq]
  · have hne : f b ≠ f a := fun h => heq (hinj h)
    exact (bne_iff_ne.2 heq).trans (bne_iff_ne.2 hne).symm

/-- Bringing the first one to the front changes nothing. -/
private theorem cons_filter_ne_head {l : List Nat} (hnodup : l.Nodup) (hhead : l.head? = some addr) :
    addr :: l.filter (· != addr) = l := by
  obtain ⟨rest, rfl⟩ : ∃ rest, l = addr :: rest := ⟨l.tail, List.eq_cons_of_mem_head? hhead⟩
  have hrest : rest.filter (· != addr) = rest := by
    refine List.filter_eq_self.2 fun a ha => ?_
    have hne : a ≠ addr := fun h => (List.nodup_cons.1 hnodup).1 (h ▸ ha)
    simpa using hne
  rw [List.filter_cons_of_neg (by simp), hrest]

/-- A controllee that is in the list is registered. -/
private theorem Recorded.registered (h : Recorded s history) (haddr : addr ∈ s.controlleeAddrs) :
    ∃ k ∈ Recency.order history, k.2 = addr ∧ registration history addr = some k := by
  rw [h.listed] at haddr
  obtain ⟨j, hj, hjaddr⟩ := List.mem_map.1 haddr
  have hsome : (registration history addr).isSome :=
    List.find?_isSome.2 ⟨j, Recency.mem_order.1 hj, by simpa using hjaddr⟩
  obtain ⟨k, hk⟩ := Option.isSome_iff_exists.1 hsome
  exact ⟨k, Recency.mem_order.2 (List.mem_of_find?_eq_some hk), by simpa using List.find?_some hk, hk⟩

private theorem Recorded.enter (h : Recorded s history) {s' : MediaSessionPriv}
    (hs' : s'.controlleeAddrs = s.controlleeAddrs ++ [addr]) :
    Recorded s' (history ++ [Recency.Event.enter ((Recency.entered history).length, addr)]) := by
  have hnew : ((Recency.entered history).length, addr) ∉ Recency.entered history := by
    intro hm
    have hfst := List.mem_map_of_mem (f := Prod.fst) hm
    rw [h.numbered, List.mem_range] at hfst
    exact Nat.lt_irrefl _ hfst
  have hentered : Recency.entered (history ++ [Recency.Event.enter ((Recency.entered history).length, addr)]) =
      Recency.entered history ++ [((Recency.entered history).length, addr)] := by simp [Recency.entered]
  refine ⟨h.orderly.enter hnew, ?_, ?_⟩
  · rw [hentered, List.map_append, h.numbered, List.length_append, List.length_singleton, List.range_succ]
    rfl
  · rw [Recency.order_enter h.orderly hnew, List.map_append, hs', h.listed]
    rfl

private theorem Recorded.leave (h : Recorded s history) (hnodup : s.controlleeAddrs.Nodup) {s' : MediaSessionPriv}
    (hk : k ∈ Recency.order history) (hs' : s'.controlleeAddrs = s.controlleeAddrs.filter (· != k.2)) :
    Recorded s' (history ++ [Recency.Event.leave k]) := by
  have hentered : Recency.entered (history ++ [Recency.Event.leave k]) = Recency.entered history := by
    simp [Recency.entered]
  refine ⟨h.orderly.leave (Recency.mem_present.1 (Recency.mem_order.1 hk)).1, ?_, ?_⟩
  · rw [hentered, h.numbered]
  · rw [Recency.order_leave, filter_ne_map (h.listed ▸ hnodup) hk, hs', h.listed]

private theorem Recorded.raise (h : Recorded s history) (hnodup : s.controlleeAddrs.Nodup) {s' : MediaSessionPriv}
    (hk : k ∈ Recency.order history) (hs' : s'.controlleeAddrs = k.2 :: s.controlleeAddrs.filter (· != k.2)) :
    Recorded s' (history ++ [Recency.Event.raise k]) := by
  have hpresent := Recency.mem_order.1 hk
  have hentered : Recency.entered (history ++ [Recency.Event.raise k]) = Recency.entered history := by
    simp [Recency.entered]
  refine ⟨h.orderly.raise (Recency.mem_present.1 hpresent).1, ?_, ?_⟩
  · rw [hentered, h.numbered]
  · rw [Recency.order_raise hpresent, List.map_cons, filter_ne_map (h.listed ▸ hnodup) hk, hs', h.listed]

private theorem Recorded.update (h : Recorded s history) (hnodup : s.controlleeAddrs.Nodup) {c : MediaControlleePriv}
    (hk : k ∈ Recency.order history) (hkaddr : k.2 = c.addr) (diff : MediaMetadata) :
    Recorded (mediaSessionControlleeUpdate s c diff).1
      (history ++ if (mediaMetadataUpdate c.data diff).plays = true then [.raise k] else []) := by
  obtain ⟨-, haddrs⟩ := update_addrs s c diff
  by_cases hplays : (mediaMetadataUpdate c.data diff).plays = true
  · rw [if_pos hplays]
    refine h.raise hnodup hk ?_
    rw [haddrs, hkaddr]
    by_cases hfirst : some c.addr = s.first
    · rw [if_neg fun hm => hm.1 hfirst]
      rw [MediaSessionPriv.first_eq_head] at hfirst
      exact (cons_filter_ne_head hnodup hfirst.symm).symm
    · rw [if_pos ⟨hfirst, hplays⟩]
  · rw [if_neg hplays, List.append_nil]
    refine ⟨h.orderly, h.numbered, ?_⟩
    rw [haddrs, if_neg fun hm => hplays hm.2, h.listed]

/-- What has happened to the controllees says in which order they are in the list. -/
theorem Recorded.step (h : Recorded t.session t.history) (hnodup : t.session.addrs.Nodup)
    (hproper : call.Proper t.session) (hr : mediaSessionHandler t.session call = some r) :
    Recorded r.session (t.history ++ happened t call r) := by
  have haddrs : t.session.controlleeAddrs.Nodup := (List.nodup_append.1 hnodup).2.1
  have hstep := mediaSessionHandler_step hnodup hproper hr
  have hkeep : r.session.controlleeAddrs = t.session.controlleeAddrs → happened t call r = [] →
      Recorded r.session (t.history ++ happened t call r) := by
    intro hsame hnone
    rw [hnone, List.append_nil]
    exact ⟨h.orderly, h.numbered, hsame.trans h.listed⟩
  generalize hs : r.session = s', hsent : r.sent = sent at hstep
  rw [← hs]
  cases hstep with
  | none _ hupdate hunregister hregister =>
    refine hkeep (by rw [hs]) ?_
    unfold happened
    split
    · rw [hregister ‹_›]
      rfl
    · exact absurd ‹_› hunregister
    · exact absurd ‹_› hupdate
    · rfl
  | register addr hcmd halloc =>
    have hhappened : happened t call r = [.enter ((Recency.entered t.history).length, addr)] := by
      simp [happened, hcmd, halloc]
    rw [hhappened, hs]
    exact h.enter (register_addrs ..).2
  | unregister c hcmd hc hdata =>
    -- The registration that leaves is the one at the address in `conn->data`.
    obtain ⟨k, hk, hkaddr, hreg⟩ := h.registered (List.mem_map_of_mem hc)
    have hhappened : happened t call r = [.leave k] := by simp [happened, hcmd, hdata, hreg]
    rw [hhappened, hs]
    exact h.leave haddrs hk (hkaddr ▸ (unregister_addrs ..).2)
  | update c ret diff hcmd hc hdata hdiff =>
    obtain ⟨k, hk, hkaddr, hreg⟩ := h.registered (List.mem_map_of_mem hc)
    have hhappened : happened t call r =
        if (mediaMetadataUpdate c.data diff).plays = true then [.raise k] else [] := by
      have hplays : (r.session.controllee k.2).any (fun c => c.data.plays) =
          (mediaMetadataUpdate c.data diff).plays := by
        rw [hs, hkaddr, update_controllee hc]
        rfl
      simp only [happened, hcmd, hdata, hreg, Option.bind_some, Option.filter_some, hplays]
      split <;> rfl
    rw [hhappened, hs]
    exact h.update haddrs hk hkaddr diff
  | event c arg hcmd hc hdata harg => exact hkeep (by rw [hs]) (by simp [happened, hcmd])
  | «open» addr hcmd halloc => exact hkeep (by rw [hs]; rfl) (by simp [happened, hcmd])
  | controllers controllers hcmd hsublist _ =>
    refine hkeep (by rw [hs]; rfl) ?_
    rcases hcmd with hcmd | hcmd <;> simp [happened, hcmd]
  | transfer cmd event c hcmd hcmd2event hhead =>
    refine hkeep (by rw [hs]) ?_
    rw [happened, hcmd]
    split
    · cases hcmd2event
    · cases hcmd2event
    · cases hcmd2event
    · rfl

theorem HistoryReachable.recorded (h : HistoryReachable t) : Recorded t.session t.history := by
  induction h with
  | start => exact ⟨.nil, rfl, rfl⟩
  | step hreach hproper hn ih =>
    obtain ⟨r, hr, rfl⟩ := Option.map_eq_some_iff.1 hn
    exact ih.step (HistoryReachable.session hreach).nodup hproper hr

/-! ### The first one answers -/

/-- The controllees of the session are the registrations that are there, each once, the ones that have played first,
and the first one answers the controllers. -/
structure ActiveOrder (t : SessionHistory) : Prop where
  orderly : Recency.Orderly t.history
  complete : ∀ k, k ∈ Recency.order t.history ↔ k ∈ Recency.entered t.history ∧ k ∉ Recency.left t.history
  once : (Recency.order t.history).Nodup
  listed : t.session.controlleeAddrs = (Recency.order t.history).map Prod.snd
  distinct : t.session.controlleeAddrs.Nodup
  answered : ∀ call : SessionCall, call.Proper t.session → call.cmd.isTransferred → ∃ r,
    mediaSessionHandler t.session call = some r ∧ r.session = t.session ∧
      match (Recency.order t.history).head? with
      | none => r.ret = -ENOENT ∧ r.response = none ∧ r.sent = []
      | some k => ∃ c ∈ t.session.controllees, c.addr = k.2 ∧ AnsweredBy call c r

theorem HistoryReachable.activeOrder (h : HistoryReachable t) : ActiveOrder t := by
  have hrecorded := h.recorded
  refine ⟨hrecorded.orderly, fun k => Recency.mem_order.trans Recency.mem_present,
    Recency.nodup_order hrecorded.orderly, hrecorded.listed, (List.nodup_append.1 h.session.nodup).2.1, ?_⟩
  intro call hproper htransferred
  refine ⟨_, transferred_handler hproper htransferred, rfl, ?_⟩
  have hhead : t.session.controlleeAddrs.head? = (Recency.order t.history).head?.map Prod.snd := by
    rw [hrecorded.listed, List.head?_map]
  cases hlist : t.session.controllees with
  | nil =>
    rw [MediaSessionPriv.controlleeAddrs, hlist] at hhead
    rw [Option.map_eq_none_iff.1 hhead.symm]
    simp [mediaSessionControllerTransfer, hlist]
  | cons c controllees =>
    rw [MediaSessionPriv.controlleeAddrs, hlist] at hhead
    obtain ⟨k, hk, hkaddr⟩ := Option.map_eq_some_iff.1 hhead.symm
    rw [hk]
    exact ⟨c, List.mem_cons_self, hkaddr.symm, transfer_answered hlist htransferred rfl⟩

/-! ### Histories -/

/-- Proper calls are gone through up to their end if and only if the words of all updates fit. -/
theorem historyRun_isSome_iff (h : HistoryReachable t) (hproper : ProperCalls t calls) :
    (historyRun t calls).isSome ↔ ∀ call ∈ calls, call.Fits := by
  induction calls generalizing t with
  | nil => exact iff_of_true rfl nofun
  | cons call calls ih =>
    obtain ⟨hcall, hrest⟩ := hproper
    have hfits := mediaSessionHandler_isSome_iff h.session.nodup hcall
    have hnext : historyMachine.next t call = (mediaSessionHandler t.session call).map fun r =>
        { session := r.session, history := t.history ++ happened t call r } := rfl
    rw [List.forall_mem_cons, historyRun, Machine.runFrom, if_pos trivial]
    cases hr : mediaSessionHandler t.session call with
    | none =>
      rw [hr] at hfits hnext
      rw [hnext]
      exact iff_of_false (by simp) fun hall => absurd (hfits.2 hall.1) (by decide)
    | some r =>
      rw [hr] at hfits hnext
      rw [Option.map_some] at hnext
      rw [hnext, Option.bind_some, and_iff_right (hfits.1 rfl)]
      exact ih (.step h hcall hnext) (hrest _ hnext)

theorem HistoryReachable.run (h : HistoryReachable t) (hproper : ProperCalls t calls)
    (hrun : historyRun t calls = some t') : HistoryReachable t' := by
  induction calls generalizing t with
  | nil =>
    cases hrun
    exact h
  | cons call calls ih =>
    obtain ⟨hcall, hrest⟩ := hproper
    rw [historyRun, Machine.runFrom, if_pos trivial] at hrun
    obtain ⟨u, hu, hrun⟩ := Option.bind_eq_some_iff.1 hrun
    exact ih (.step h hcall hu) (hrest u hu) hrun

/-- After every history of proper calls the controllees are in the order of their last updates in which they played,
and the first of them answers, if and only if the words of all updates fit into their arrays. -/
theorem sessionRun_activeOrder (hproper : ProperCalls historyMachine.start calls) :
    (∃ t, historyRun historyMachine.start calls = some t ∧ ActiveOrder t) ↔ ∀ call ∈ calls, call.Fits := by
  rw [← historyRun_isSome_iff .start hproper]
  constructor
  · rintro ⟨t, ht, -⟩
    rw [ht]
    rfl
  · intro hsome
    obtain ⟨t, ht⟩ := Option.isSome_iff_exists.1 hsome
    exact ⟨t, ht, HistoryReachable.activeOrder (HistoryReachable.run .start hproper ht)⟩

instance : (t : SessionHistory) → (calls : List SessionCall) → Decidable (ProperCalls t calls)
  | _, [] => inferInstanceAs (Decidable True)
  | t, call :: calls =>
    have := fun t' => instDecidableProperCalls t' calls
    inferInstanceAs (Decidable (_ ∧ ∀ t' ∈ historyMachine.next t call, ProperCalls t' calls))

/-- Two controllees play in turn, the first one goes and comes back with the same address; a third one never plays. -/
def sampleHistoryCalls : List SessionCall := [
  { cookie := 1, data := none, alloc := some 10, cmd := .open },
  { cookie := 2, data := none, alloc := some 20, cmd := .register },
  { cookie := 3, data := none, alloc := some 30, cmd := .register },
  { cookie := 4, data := none, alloc := some 40, cmd := .register },
  { cookie := 4, data := some 40, cmd := .update, arg := some "1:1:0:0:0:a\tb".toList },
  { cookie := 2, data := some 20, cmd := .update, arg := some "1:1:0:0:0:c\td".toList },
  { cookie := 2, data := some 20, cmd := .unregister },
  { cookie := 2, data := none, alloc := some 20, cmd := .register }]

theorem sessionRun_activeOrder_sample :
    ∃ t, historyRun historyMachine.start sampleHistoryCalls = some t ∧ ActiveOrder t :=
  (sessionRun_activeOrder (by decide)).2 (by decide)

example : (historyRun historyMachine.start sampleHistoryCalls).map (fun t => Recency.order t.history) =
    some [(2, 40), (1, 30), (3, 20)] := by decide

/-- A controllee whose song has a title of 128 characters. -/
def sampleLongCalls : List SessionCall := [
  { cookie := 2, data := none, alloc := some 20, cmd := .register },
  { cookie := 2, data := some 20, cmd := .update, arg := some ("1:1:0:0:0:".toList ++ List.replicate 128 'a') }]

set_option maxRecDepth 4000 in
theorem sessionRun_not_activeOrder : ¬ ∀ calls, ProperCalls historyMachine.start calls →
    ∃ t, historyRun historyMachine.start calls = some t ∧ ActiveOrder t := by
  intro h
  obtain ⟨t, ht, -⟩ := h sampleLongCalls (by decide)
  have hnone : historyRun historyMachine.start sampleLongCalls = none := by decide
  cases hnone.symm.trans ht

end MediaFramework
