import MediaFramework.Session.SessionRuns

/-!
# What controllers are told

A controller that has asked for events is told once when another controllee becomes the most active one, once when the
most active one updates its metadata, and gets what the most active one sends itself.  A controllee may send any
event, also one that says that the most active controllee has changed.
-/

namespace MediaFramework

variable {s s' t : MediaSessionPriv} {call : SessionCall} {r : SessionResult} {addr : Nat} {controllee : Option Nat}
  {event result : BitVec 32} {extra : Option CString} {c : MediaControllerPriv}

/-- What is sent to an object. -/
def received (sent : List StubNotify) (addr : Nat) : List StubNotify := sent.filter fun n => n.addr = addr

def isChanged (n : StubNotify) : Bool := decide (n.event = MEDIA_EVENT_CHANGED)

def isUpdated (n : StubNotify) : Bool := decide (n.event = MEDIA_EVENT_UPDATED)

/-- The flags of the metadata that an update brings. -/
def diffFlags (call : SessionCall) : BitVec 32 :=
  ((mediaMetadataUnserialize call.stack mediaMetadataInit call.arg).map fun r => r.2.flags).getD 0

/-- What the controllers that have asked for events are told by a call. -/
structure EventDiscipline (s : MediaSessionPriv) (call : SessionCall) (r : SessionResult) : Prop where
  changed : call.cmd ≠ .event → ∀ c ∈ s.controllers, c.event = true →
    (received r.sent c.addr).countP isChanged = if s.first = r.session.first then 0 else 1
  updated : call.cmd ≠ .event → ∀ c ∈ s.controllers, c.event = true →
    (received r.sent c.addr).filter isUpdated =
      if call.cmd = .update ∧ call.data = s.first then [⟨c.addr, c.cookie, MEDIA_EVENT_UPDATED, diffFlags call, none⟩]
      else []
  forwarded : call.cmd = .event → ∀ arg, call.arg = some arg → ∀ c ∈ s.controllers, c.event = true →
    received r.sent c.addr =
      if call.data = s.first then [⟨c.addr, c.cookie, (scanEvent call arg).1, (scanEvent call arg).2, call.target⟩]
      else []
  only : call.cmd ≠ .event → ∀ c ∈ s.controllers, ∀ n ∈ received r.sent c.addr,
    n.event = MEDIA_EVENT_CHANGED ∨ n.event = MEDIA_EVENT_UPDATED
  asked : ∀ c ∈ s.controllers, received r.sent c.addr ≠ [] → c.event = true

/-! ### Notifications -/

theorem received_notify (hnodup : (t.controllers.map MediaControllerPriv.addr).Nodup) (hc : c ∈ t.controllers) :
    received (mediaSessionControlleeNotify t controllee event result extra) c.addr =
      if controllee = t.first ∧ c.event = true then [⟨c.addr, c.cookie, event, result, extra⟩] else [] := by
  unfold mediaSessionControlleeNotify
  by_cases hfirst : controllee = t.first
  · rw [if_pos hfirst]
    simp only [hfirst, true_and]
    generalize t.controllers = controllers at hnodup hc
    induction controllers with
    | nil => cases hc
    | cons d controllers ih =>
      rw [List.map_cons, List.nodup_cons] at hnodup
      have htail : received (((d :: controllers).filter MediaControllerPriv.event).map fun c =>
          (⟨c.addr, c.cookie, event, result, extra⟩ : StubNotify)) c.addr =
          (if d.event = true ∧ d.addr = c.addr then [⟨d.addr, d.cookie, event, result, extra⟩] else []) ++
            received ((controllers.filter MediaControllerPriv.event).map fun c =>
              ⟨c.addr, c.cookie, event, result, extra⟩) c.addr := by
        by_cases hevent : d.event = true
        · by_cases haddr : d.addr = c.addr <;> simp [received, hevent, haddr]
        · simp [received, hevent]
      rw [htail]
      rcases List.mem_cons.1 hc with rfl | hc
      · have hnone : received ((controllers.filter MediaControllerPriv.event).map fun c =>
            (⟨c.addr, c.cookie, event, result, extra⟩ : StubNotify)) c.addr = [] := by
          refine List.filter_eq_nil_iff.2 fun n hn => ?_
          obtain ⟨d, hd, rfl⟩ := List.mem_map.1 hn
          have hne : d.addr ≠ c.addr :=
            fun heq => hnodup.1 (heq ▸ List.mem_map_of_mem (List.mem_of_mem_filter hd))
          simpa using hne
        rw [hnone, List.append_nil]
        simp
      · have hne : d.addr ≠ c.addr := fun heq => hnodup.1 (heq ▸ List.mem_map_of_mem hc)
        rw [ih hnodup.2 hc, if_neg fun h => hne h.2, List.nil_append]
  · rw [if_neg hfirst, if_neg fun h => hfirst h.1]
    rfl

namespace EventDiscipline

/-- Nothing is sent to controllers, and the most active controllee stays. -/
private theorem quiet (hevent : call.cmd ≠ .event) (hfirst : s.first = r.session.first)
    (hupdate : ¬ (call.cmd = .update ∧ call.data = s.first))
    (hsent : ∀ c ∈ s.controllers, received r.sent c.addr = []) : EventDiscipline s call r where
  changed _ c hc _ := by rw [hsent c hc, if_pos hfirst, List.countP_nil]
  updated _ c hc _ := by rw [hsent c hc, if_neg hupdate, List.filter_nil]
  forwarded h := absurd h hevent
  only _ c hc n hn := by
    rw [hsent c hc] at hn
    cases hn
  asked c hc hne := absurd (hsent c hc) hne

variable (hnodup : s.addrs.Nodup) (ht : t.controllers = s.controllers)
include hnodup ht

private theorem told (hsent : r.sent = mediaSessionControlleeNotify t controllee event result extra)
    {c : MediaControllerPriv} (hc : c ∈ s.controllers) : received r.sent c.addr =
      if controllee = t.first ∧ c.event = true then [⟨c.addr, c.cookie, event, result, extra⟩] else [] := by
  rw [hsent]
  refine received_notify ?_ (ht ▸ hc)
  rw [ht]
  exact (List.nodup_append.1 hnodup).1

/-- The controllers are told that the most active controllee has changed if it has. -/
private theorem of_changed (hevent : call.cmd ≠ .event) (hupdate : ¬ (call.cmd = .update ∧ call.data = s.first))
    (hsent : r.sent = mediaSessionControlleeNotify t controllee MEDIA_EVENT_CHANGED result none)
    (hfirst : controllee = t.first ↔ s.first ≠ r.session.first) : EventDiscipline s call r where
  changed _ c hc hasks := by
    rw [told hnodup ht hsent hc]
    by_cases hsame : s.first = r.session.first
    · rw [if_pos hsame, if_neg fun h => hfirst.1 h.1 hsame, List.countP_nil]
    · rw [if_neg hsame, if_pos ⟨hfirst.2 hsame, hasks⟩]
      rfl
  updated _ c hc _ := by
    rw [told hnodup ht hsent hc, if_neg hupdate]
    split <;> rfl
  forwarded h := absurd h hevent
  only _ c hc n hn := by
    rw [told hnodup ht hsent hc] at hn
    split at hn
    · rw [List.mem_singleton.1 hn]
      exact .inl rfl
    · cases hn
  asked c hc hne := by
    rw [told hnodup ht hsent hc] at hne
    by_contra hasks
    exact hne (if_neg fun h => hasks h.2)

/-- The controllers are told that the most active controllee has updated its metadata. -/
private theorem of_updated (hupdate : call.cmd = .update ∧ call.data = s.first)
    (hsent : r.sent = mediaSessionControlleeNotify t controllee MEDIA_EVENT_UPDATED (diffFlags call) none)
    (hnotify : controllee = t.first) (hfirst : s.first = r.session.first) : EventDiscipline s call r where
  changed _ c hc hasks := by
    rw [told hnodup ht hsent hc, if_pos ⟨hnotify, hasks⟩, if_pos hfirst]
    rfl
  updated _ c hc hasks := by
    rw [told hnodup ht hsent hc, if_pos ⟨hnotify, hasks⟩, if_pos hupdate]
    rfl
  forwarded h := by cases hupdate.1.symm.trans h
  only _ c hc n hn := by
    rw [told hnodup ht hsent hc] at hn
    split at hn
    · rw [List.mem_singleton.1 hn]
      exact .inr rfl
    · cases hn
  asked c hc hne := by
    rw [told hnodup ht hsent hc] at hne
    by_contra hasks
    exact hne (if_neg fun h => hasks h.2)

end EventDiscipline

/-! ### The calls -/

private theorem EventDiscipline.register (hnodup : s.addrs.Nodup) (hcmd : call.cmd = .register) (hnew : addr ∉ s.addrs)
    (hs : r.session = (mediaSessionControlleeRegister s call.cookie addr).1)
    (hsent : r.sent = (mediaSessionControlleeRegister s call.cookie addr).2) : EventDiscipline s call r := by
  obtain ⟨hcontrollers, hcontrollees⟩ := register_addrs s call.cookie addr
  refine of_changed (t := (mediaSessionControlleeRegister s call.cookie addr).1) hnodup hcontrollers (by simp [hcmd])
    (by simp [hcmd]) hsent ?_
  rw [hs, MediaSessionPriv.first_eq_head, MediaSessionPriv.first_eq_head, hcontrollees]
  cases hlist : s.controlleeAddrs with
  | nil => simp
  | cons a addrs =>
    have hne : addr ≠ a := by
      rintro rfl
      exact hnew (by simp [MediaSessionPriv.addrs, hlist])
    simp [hne]

private theorem EventDiscipline.unregister (hnodup : s.addrs.Nodup) (hcmd : call.cmd = .unregister)
    (hs : r.session = (mediaSessionControlleeUnregister s addr).1)
    (hsent : r.sent = (mediaSessionControlleeUnregister s addr).2) : EventDiscipline s call r := by
  have hremoved : (s.removeControllee addr).first = (s.controlleeAddrs.filter (· != addr)).head? := by
    rw [MediaSessionPriv.first_eq_head, MediaSessionPriv.removeControllee_addrs]
  unfold mediaSessionControlleeUnregister at hs hsent
  dsimp only at hs hsent
  split at hs
  · rename_i hfirst
    rw [if_pos hfirst] at hsent
    refine of_changed (t := s.removeControllee addr) hnodup rfl (by simp [hcmd]) (by simp [hcmd]) hsent ?_
    rw [hs, hremoved, ← hfirst]
    refine iff_of_true rfl fun heq => ?_
    have hmem : addr ∈ s.controlleeAddrs.filter (· != addr) := List.mem_of_mem_head? heq.symm
    simp at hmem
  · rename_i hfirst
    rw [if_neg hfirst] at hsent
    refine quiet (by simp [hcmd]) ?_ (by simp [hcmd]) fun c _ => by rw [hsent]; rfl
    rw [MediaSessionPriv.first_eq_head] at hfirst
    rw [hs, hremoved, MediaSessionPriv.first_eq_head]
    cases hlist : s.controlleeAddrs with
    | nil => rfl
    | cons a addrs =>
      have hne : a ≠ addr := by
        rintro rfl
        exact hfirst (by simp [hlist])
      rw [List.filter_cons_of_pos (by simpa using hne)]
      rfl

private theorem EventDiscipline.update (hnodup : s.addrs.Nodup) (hcmd : call.cmd = .update) {c : MediaControlleePriv}
    (hdata : call.data = some c.addr) {ret : Int} {diff : MediaMetadata}
    (hdiff : mediaMetadataUnserialize call.stack mediaMetadataInit call.arg = some (ret, diff))
    (hs : r.session = (mediaSessionControlleeUpdate s c diff).1)
    (hsent : r.sent = (mediaSessionControlleeUpdate s c diff).2) : EventDiscipline s call r := by
  have hflags : diffFlags call = diff.flags := by
    rw [diffFlags, hdiff]
    rfl
  have hset : (s.setData c (mediaMetadataUpdate c.data diff)).first = s.first :=
    MediaSessionPriv.first_of_addrs (MediaSessionPriv.setData_addrs ..)
  rcases update_cases s c diff with ⟨hfirst, h⟩ | ⟨hfirst, hplays, u, hcontrollers, hcontrollees, h⟩ |
    ⟨hfirst, hplays, h⟩
  · rw [h] at hs hsent
    refine of_updated (t := s.setData c (mediaMetadataUpdate c.data diff)) hnodup rfl ⟨hcmd, hdata.trans hfirst⟩ ?_
      (hfirst.trans hset.symm) (by rw [hs, hset])
    rw [hsent, hflags]
  · rw [h] at hs hsent
    have hother : call.data ≠ s.first := hdata ▸ hfirst
    have hu : u.first = some c.addr := by rw [MediaSessionPriv.first, hcontrollees]; rfl
    refine of_changed hnodup hcontrollers (by simp [hcmd]) (fun hm => hother hm.2) hsent ?_
    rw [hs, hu]
    exact iff_of_true rfl (Ne.symm hfirst)
  · rw [h] at hs hsent
    have hother : call.data ≠ s.first := hdata ▸ hfirst
    exact quiet (by simp [hcmd]) (by rw [hs, hset]) (fun hm => hother hm.2) fun d _ => by rw [hsent]; rfl

theorem SessionStep.discipline (hnodup : s.addrs.Nodup) (hproper : call.Proper s)
    (h : SessionStep s call r.session r.sent) : EventDiscipline s call r := by
  generalize hs : r.session = s', hsent : r.sent = sent at h
  cases h with
  | none hevent hupdate _ _ =>
    exact .quiet hevent (by rw [hs]) (fun h => hupdate h.1) fun c _ => by rw [hsent]; rfl
  | register addr hcmd halloc =>
    simp only [SessionCall.Proper, hcmd] at hproper
    exact .register hnodup hcmd (hproper addr halloc) hs hsent
  | unregister c hcmd hc hdata => exact .unregister hnodup hcmd hs hsent
  | event c arg hcmd hc hdata harg =>
    have htold := fun d hd => EventDiscipline.told hnodup rfl hsent (c := d) hd
    refine ⟨fun h => absurd hcmd h, fun h => absurd hcmd h, fun _ arg' harg' d hd hasks => ?_,
      fun h => absurd hcmd h, fun d hd hne => ?_⟩
    · obtain rfl : arg = arg' := Option.some.inj (harg.symm.trans harg')
      rw [htold d hd, hdata]
      simp [hasks]
    · rw [htold d hd] at hne
      by_contra hasks
      exact hne (if_neg fun h => hasks h.2)
  | update c ret diff hcmd hc hdata hdiff => exact .update hnodup hcmd hdata hdiff hs hsent
  | «open» addr hcmd halloc =>
    refine .quiet (by simp [hcmd]) (by rw [hs]; rfl) (by simp [hcmd]) fun c _ => by rw [hsent]; rfl
  | controllers controllers hcmd hsublist _ =>
    have hother : call.cmd ≠ .event ∧ call.cmd ≠ .update := by
      rcases hcmd with hcmd | hcmd <;> simp [hcmd]
    exact .quiet hother.1 (by rw [hs]; rfl) (fun h => hother.2 h.1) fun c _ => by rw [hsent]; rfl
  | transfer cmd event d hcmd hcmd2event hhead =>
    have hother : call.cmd ≠ .event ∧ call.cmd ≠ .update := by
      rw [hcmd]
      constructor <;> (rintro rfl; cases hcmd2event)
    refine .quiet hother.1 (by rw [hs]) (fun h => hother.2 h.1) fun c hc => ?_
    rw [hsent]
    have hne : d.addr ≠ c.addr := fun heq =>
      (List.nodup_append.1 hnodup).2.2 c.addr (List.mem_map_of_mem hc) d.addr
        (List.mem_map_of_mem (List.mem_of_mem_head? hhead)) heq.symm
    simp [received, hne]

/-- In every state that is reached, a proper call whose words fit tells each controller that has asked for events what it
should, and nothing else. -/
theorem sessionRun_events (h : SessionReachable s) (hproper : call.Proper s) (hfits : call.Fits) :
    ∃ r, mediaSessionHandler s call = some r ∧ EventDiscipline s call r := by
  obtain ⟨r, hr⟩ := Option.isSome_iff_exists.1 ((mediaSessionHandler_isSome_iff h.nodup hproper).2 hfits)
  exact ⟨r, hr, (mediaSessionHandler_step h.nodup hproper hr).discipline h.nodup hproper⟩

/-! ### A run, and an event that is not what it says -/

/-- The state after the calls, if all of them are proper. -/
def sampleSessionRun (calls : List SessionCall) : Option MediaSessionPriv :=
  sessionMachine.runFrom (fun s call => call.Proper s) sessionMachine.start calls

/-- A controller that has asked for events, and two controllees of which the second one plays. -/
def sampleSession : MediaSessionPriv :=
  (sampleSessionRun [
    { cookie := 1, data := none, alloc := some 10, cmd := .open },
    { cookie := 1, data := some 10, cmd := .setEvent },
    { cookie := 2, data := none, alloc := some 20, cmd := .register },
    { cookie := 3, data := none, alloc := some 30, cmd := .register },
    { cookie := 3, data := some 30, cmd := .update, arg := some "1:1:0:0:0:a\tb".toList }]).get (by decide)

theorem sampleSession_reachable : SessionReachable sampleSession := Machine.reachableVia_get (by decide)

/-- The second controllee goes. -/
def sampleUnregister : SessionCall := { cookie := 3, data := some 30, cmd := .unregister }

theorem sessionRun_events_sample : ∃ r, mediaSessionHandler sampleSession sampleUnregister = some r ∧
    EventDiscipline sampleSession sampleUnregister r :=
  sessionRun_events sampleSession_reachable (by decide) (by decide)

/-- The most active controllee sends the event 101. -/
def sampleForgedEvent : SessionCall := { cookie := 3, data := some 30, cmd := .event, arg := some "101:0".toList }

/-- A controller can be told that the most active controllee has changed when it has not. -/
theorem sessionRun_events_forged : ¬ ∀ (s : MediaSessionPriv) (call : SessionCall) (r : SessionResult),
    SessionReachable s → call.Proper s → mediaSessionHandler s call = some r → ∀ c ∈ s.controllers, c.event = true →
      ((received r.sent c.addr).countP isChanged = 1 ↔ s.first ≠ r.session.first) := by
  intro h
  have hforged := h sampleSession sampleForgedEvent
    ((mediaSessionHandler sampleSession sampleForgedEvent).get (by decide)) sampleSession_reachable (by decide)
    (Option.some_get _).symm { addr := 10, cookie := some 1, event := true } (by decide) rfl
  revert hforged
  decide

end MediaFramework
