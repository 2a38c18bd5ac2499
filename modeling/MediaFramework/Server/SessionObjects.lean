import MediaFramework.Library.Registry
import MediaFramework.Server.MediaHandlers

/-!
# What a request does to the objects of the session module

The controllers and the controllees are listed with the connections they refer to by their cookies.
-/

namespace MediaFramework

open Registry

/-- Some objects, with their cookies. -/
abbrev Objects := List (ServerObject × Option Nat)

def sessionObjects (s : MediaSessionPriv) : Objects :=
  s.controllers.map (fun c => (.controller c.addr, c.cookie)) ++
    s.controllees.map fun c => (.controllee c.addr, c.cookie)

/-- The object that a command gives up. -/
def SessionCmd.releases (cmd : SessionCmd) (data : Option Nat) : Option ServerObject :=
  match cmd with
  | .unregister => data.map .controllee
  | .close => data.map .controller
  | _ => none

variable {s : MediaSessionPriv} {call : SessionCall} {r : SessionResult} {p : ServerObject × Option Nat} {addr : Nat}

theorem mem_sessionObjects : p ∈ sessionObjects s ↔
    (∃ c ∈ s.controllers, (.controller c.addr, c.cookie) = p) ∨
      ∃ c ∈ s.controllees, (.controllee c.addr, c.cookie) = p := by
  simp only [sessionObjects, List.mem_append, List.mem_map]

theorem mem_of_removeControllee {c : MediaControlleePriv} :
    c ∈ (s.removeControllee addr).controllees ↔ c ∈ s.controllees ∧ c.addr ≠ addr := by
  simp [MediaSessionPriv.removeControllee]

theorem controlleeRegister_effect (s : MediaSessionPriv) (cookie addr : Nat) :
    Effect cookie (some (.controllee addr)) none (sessionObjects s)
      (sessionObjects (mediaSessionControlleeRegister s cookie addr).1) := by
  refine .insert fun p => ?_
  simp only [mediaSessionControlleeRegister, mem_sessionObjects, List.mem_append, List.mem_singleton]
  constructor
  · rintro (hcontroller | ⟨c, hc | rfl, hp⟩)
    · exact .inr (.inl hcontroller)
    · exact .inr (.inr ⟨c, hc, hp⟩)
    · exact .inl hp.symm
  · rintro (rfl | hcontroller | ⟨c, hc, hp⟩)
    · exact .inr ⟨_, .inr rfl, rfl⟩
    · exact .inl hcontroller
    · exact .inr ⟨c, .inl hc, hp⟩

theorem controllerOpen_effect (s : MediaSessionPriv) (cookie addr : Nat) :
    Effect cookie (some (.controller addr)) none (sessionObjects s)
      (sessionObjects (mediaSessionControllerOpen s cookie addr)) := by
  refine .insert fun p => ?_
  simp only [mediaSessionControllerOpen, mem_sessionObjects, List.mem_cons]
  constructor
  · rintro (⟨c, rfl | hc, hp⟩ | hcontrollee)
    · exact .inl hp.symm
    · exact .inr (.inl ⟨c, hc, hp⟩)
    · exact .inr (.inr hcontrollee)
  · rintro (rfl | ⟨c, hc, hp⟩ | hcontrollee)
    · exact .inl ⟨_, .inl rfl, rfl⟩
    · exact .inl ⟨c, .inr hc, hp⟩
    · exact .inr hcontrollee

theorem controlleeUnregister_effect (s : MediaSessionPriv) (k addr : Nat) :
    Effect k none (some (.controllee addr)) (sessionObjects s)
      (sessionObjects (mediaSessionControlleeUnregister s addr).1) := by
  have hsession : (mediaSessionControlleeUnregister s addr).1 = s.removeControllee addr := by
    unfold mediaSessionControlleeUnregister
    dsimp only
    split <;> rfl
  rw [hsession]
  refine .remove fun p => ?_
  rw [mem_sessionObjects, mem_sessionObjects]
  constructor
  · rintro (⟨c, hc, rfl⟩ | ⟨c, hc, rfl⟩)
    · exact ⟨.inl ⟨c, hc, rfl⟩, nofun⟩
    · obtain ⟨hc, hne⟩ := mem_of_removeControllee.1 hc
      exact ⟨.inr ⟨c, hc, rfl⟩, fun heq => hne (ServerObject.controllee.inj heq)⟩
  · rintro ⟨⟨c, hc, rfl⟩ | ⟨c, hc, rfl⟩, hne⟩
    · exact .inl ⟨c, hc, rfl⟩
    · exact .inr ⟨c, mem_of_removeControllee.2 ⟨hc, fun heq => hne (congrArg ServerObject.controllee heq)⟩, rfl⟩

theorem controllerClose_effect (s : MediaSessionPriv) (k addr : Nat) :
    Effect k none (some (.controller addr)) (sessionObjects s) (sessionObjects (mediaSessionControllerClose s addr)) := by
  have hmem : ∀ c, c ∈ (mediaSessionControllerClose s addr).controllers ↔ c ∈ s.controllers ∧ c.addr ≠ addr := by
    simp [mediaSessionControllerClose]
  refine .remove fun p => ?_
  rw [mem_sessionObjects, mem_sessionObjects]
  constructor
  · rintro (⟨c, hc, rfl⟩ | ⟨c, hc, rfl⟩)
    · obtain ⟨hc, hne⟩ := (hmem c).1 hc
      exact ⟨.inl ⟨c, hc, rfl⟩, fun heq => hne (ServerObject.controller.inj heq)⟩
    · exact ⟨.inr ⟨c, hc, rfl⟩, nofun⟩
  · rintro ⟨⟨c, hc, rfl⟩ | ⟨c, hc, rfl⟩, hne⟩
    · exact .inl ⟨c, (hmem c).2 ⟨hc, fun heq => hne (congrArg ServerObject.controller heq)⟩, rfl⟩
    · exact .inr ⟨c, hc, rfl⟩

theorem setEvent_effect (s : MediaSessionPriv) (k addr : Nat) :
    Effect k none none (sessionObjects s) (sessionObjects { s with
      controllers := s.controllers.map fun c => if c.addr = addr then { c with event := true } else c }) := by
  have hsame : sessionObjects { s with
      controllers := s.controllers.map fun c => if c.addr = addr then { c with event := true } else c } =
      sessionObjects s := by
    unfold sessionObjects
    rw [List.map_map]
    congr 1
    refine List.map_congr_left fun c _ => ?_
    simp only [Function.comp]
    split <;> rfl
  rw [hsame]
  exact .refl ..

/-- Controllees with the same addresses, some of which stand for the controllee `c` now. -/
theorem controllees_effect {t : MediaSessionPriv} {c : MediaControlleePriv} (hcontrollers : t.controllers = s.controllers)
    (hc : c ∈ s.controllees) (hsub : ∀ d ∈ t.controllees, d ∈ s.controllees ∨ d.addr = c.addr ∧ d.cookie = c.cookie)
    (hkept : ∀ d ∈ s.controllees, d.addr ∈ t.controlleeAddrs) (k : Nat) :
    Effect k none none (sessionObjects s) (sessionObjects t) := by
  refine .replace (fun p hp => .inl ?_) fun p hp => ?_
  · rw [mem_sessionObjects] at hp ⊢
    rw [hcontrollers] at hp
    rcases hp with hcontroller | ⟨d, hd, rfl⟩
    · exact .inl hcontroller
    · rcases hsub d hd with hd | ⟨haddr, hcookie⟩
      · exact .inr ⟨d, hd, rfl⟩
      · exact .inr ⟨c, hc, by rw [haddr, hcookie]⟩
  · rw [mem_sessionObjects] at hp
    rcases hp with hcontroller | ⟨d, hd, rfl⟩
    · exact ⟨p.2, mem_sessionObjects.2 (.inl (hcontrollers ▸ hcontroller))⟩
    · obtain ⟨e, he, haddr⟩ := List.mem_map.1 (hkept d hd)
      exact ⟨e.cookie, mem_sessionObjects.2 (.inr ⟨e, he, by rw [haddr]⟩)⟩

theorem controlleeUpdate_effect {c : MediaControlleePriv} (hc : c ∈ s.controllees) (diff : MediaMetadata) (k : Nat) :
    Effect k none none (sessionObjects s) (sessionObjects (mediaSessionControlleeUpdate s c diff).1) := by
  have hset : ∀ d ∈ (s.setData c (mediaMetadataUpdate c.data diff)).controllees,
      d ∈ s.controllees ∨ d.addr = c.addr ∧ d.cookie = c.cookie := by
    intro d hd
    obtain ⟨e, he, rfl⟩ := List.mem_map.1 hd
    by_cases heq : e.addr = c.addr
    · rw [if_pos heq]
      exact .inr ⟨rfl, rfl⟩
    · rw [if_neg heq]
      exact .inl he
  have haddrs : ∀ d ∈ s.controllees, d.addr ∈ (mediaSessionControlleeUpdate s c diff).1.controlleeAddrs := by
    intro d hd
    have hmem : d.addr ∈ s.controlleeAddrs := List.mem_map_of_mem hd
    rw [(update_addrs s c diff).2]
    split
    · by_cases heq : d.addr = c.addr
      · rw [heq]
        exact List.mem_cons_self
      · exact List.mem_cons_of_mem _ (List.mem_filter.2 ⟨hmem, by simpa using heq⟩)
    · exact hmem
  refine controllees_effect (update_addrs s c diff).1 hc (fun d hd => ?_) haddrs k
  rcases update_cases s c diff with ⟨-, h⟩ | ⟨-, -, u, -, hcontrollees, h⟩ | ⟨-, -, h⟩
  · rw [h] at hd
    exact hset d hd
  · rw [h] at hd
    dsimp only at hd
    rw [hcontrollees] at hd
    rcases List.mem_cons.1 hd with rfl | hd
    · exact .inr ⟨rfl, rfl⟩
    · exact hset d (mem_of_removeControllee.1 hd).1
  · rw [h] at hd
    exact hset d hd

/-- The object that a command creates. -/
def SessionCall.created (call : SessionCall) : Option ServerObject :=
  match call.cmd with
  | .register => call.alloc.map .controllee
  | .open => call.alloc.map .controller
  | _ => none

/-- The connection that is finalized when an object is given up. -/
def MediaSessionPriv.finalizes (s : MediaSessionPriv) : ServerObject → Option Nat
  | .controllee addr => (s.controllee addr).bind MediaControlleePriv.cookie
  | .controller addr => (s.controller addr).bind MediaControllerPriv.cookie
  | _ => none

/-- What a call does to the objects, whom it notifies, and whom it finalizes. -/
structure SessionServed (s : MediaSessionPriv) (call : SessionCall) (r : SessionResult) : Prop where
  effect : Effect call.cookie call.created (call.cmd.releases call.data) (sessionObjects s) (sessionObjects r.session)
  sent : ∀ n ∈ r.sent, ((sessionNotice call.cmd n).source, n.cookie) ∈ sessionObjects s
  finalized : r.finalized = (call.cmd.releases call.data).bind s.finalizes
  ret : call.cmd = .register ∨ call.cmd = .open → (0 ≤ r.ret ↔ call.alloc.isSome)

/-- What goes to the controllers comes from controllers. -/
theorem controlleeNotify_sent {t : MediaSessionPriv} (ht : t.controllers = s.controllers) {cmd : SessionCmd}
    (hcmd : mediaSessionCmd2event cmd = none) (controllee : Option Nat) (event result : BitVec 32)
    (extra : Option CString) : ∀ n ∈ mediaSessionControlleeNotify t controllee event result extra,
      ((sessionNotice cmd n).source, n.cookie) ∈ sessionObjects s := by
  intro n hn
  unfold mediaSessionControlleeNotify at hn
  split at hn
  · obtain ⟨c, hc, rfl⟩ := List.mem_map.1 hn
    rw [mem_sessionObjects]
    refine .inl ⟨c, ht ▸ (List.mem_filter.1 hc).1, ?_⟩
    simp only [sessionNotice, hcmd, Option.isSome_none, Bool.false_eq_true, if_false]
  · cases hn

theorem SessionServed.idle {ret : Int} {data : Option Nat} (hcreated : call.created = none)
    (hreleases : call.cmd.releases call.data = none)
    (hret : call.cmd = .register ∨ call.cmd = .open → (0 ≤ ret ↔ call.alloc.isSome)) :
    SessionServed s call { ret, session := s, data } where
  effect := by
    rw [hcreated, hreleases]
    exact .refl ..
  sent _ hn := by cases hn
  finalized := by rw [hreleases, Option.bind_none]
  ret := hret

/-- A control message goes to the first controllee. -/
theorem SessionServed.transfer {cmd : SessionCmd} {addr : Nat} (hcmd : call.cmd = cmd) (hcreated : call.created = none)
    (hreleases : cmd.releases call.data = none) (hother : cmd ≠ .register ∧ cmd ≠ .open) :
    SessionServed s call
      { ret := (mediaSessionControllerTransfer s cmd call.arg call.len).1, session := s, data := some addr
        sent := (mediaSessionControllerTransfer s cmd call.arg call.len).2.2
        response := (mediaSessionControllerTransfer s cmd call.arg call.len).2.1 } where
  effect := by
    rw [hcreated, hcmd, hreleases]
    exact .refl ..
  sent n hn := by
    dsimp only at hn
    unfold mediaSessionControllerTransfer at hn
    cases hcontrollees : s.controllees with
    | nil =>
      rw [hcontrollees] at hn
      cases hn
    | cons c controllees =>
      rw [hcontrollees] at hn
      dsimp only at hn
      by_cases hquery : cmd = .query
      · rw [if_pos hquery] at hn
        cases hn
      · rw [if_neg hquery] at hn
        cases hevent : mediaSessionCmd2event cmd with
        | none =>
          rw [hevent] at hn
          cases hn
        | some event =>
          rw [hevent] at hn
          obtain rfl := List.mem_singleton.1 hn
          rw [mem_sessionObjects, hcontrollees]
          refine .inr ⟨c, List.mem_cons_self, ?_⟩
          simp only [sessionNotice, hcmd, hevent, Option.isSome_some, if_true]
  finalized := by rw [hcmd, hreleases, Option.bind_none]
  ret h := by
    rw [hcmd] at h
    rcases h with h | h
    · exact absurd h hother.1
    · exact absurd h hother.2

theorem controlleeUnregister_sent {cmd : SessionCmd} (hcmd : mediaSessionCmd2event cmd = none) :
    ∀ n ∈ (mediaSessionControlleeUnregister s addr).2,
      ((sessionNotice cmd n).source, n.cookie) ∈ sessionObjects s := by
  intro n hn
  unfold mediaSessionControlleeUnregister at hn
  dsimp only at hn
  split at hn
  · exact controlleeNotify_sent (s := s) (t := s.removeControllee addr) rfl hcmd _ _ _ _ n hn
  · cases hn

theorem controlleeUpdate_sent {cmd : SessionCmd} (hcmd : mediaSessionCmd2event cmd = none) (c : MediaControlleePriv)
    (diff : MediaMetadata) : ∀ n ∈ (mediaSessionControlleeUpdate s c diff).2,
      ((sessionNotice cmd n).source, n.cookie) ∈ sessionObjects s := by
  intro n hn
  rcases update_cases s c diff with ⟨-, h⟩ | ⟨-, -, u, hcontrollers, -, h⟩ | ⟨-, -, h⟩
  · rw [h] at hn
    exact controlleeNotify_sent (s := s) (t := s.setData c (mediaMetadataUpdate c.data diff)) rfl hcmd _ _ _ _ n hn
  · rw [h] at hn
    exact controlleeNotify_sent hcontrollers hcmd _ _ _ _ n hn
  · rw [h] at hn
    cases hn

/-- A call that neither makes nor releases an object. -/
private theorem served_idle {ret : Int} {data : Option Nat} (hregister : call.cmd ≠ .register)
    (hopen : call.cmd ≠ .open) (hreleases : call.cmd.releases call.data = none) :
    SessionServed s call { ret, session := s, data } := by
  refine .idle ?_ hreleases fun hcmd => absurd hcmd (not_or.2 ⟨hregister, hopen⟩)
  unfold SessionCall.created
  split <;> simp_all

private theorem served_register (hcmd : call.cmd = .register) (h : mediaSessionHandler s call = some r) :
    SessionServed s call r := by
  unfold mediaSessionHandler at h
  simp only [hcmd] at h
  cases halloc : call.alloc with
  | none =>
    simp only [halloc, Option.some.injEq] at h
    subst h
    exact .idle (by rw [SessionCall.created, hcmd, halloc]; rfl) (by rw [hcmd]; rfl) (by simp [halloc, ENOMEM])
  | some addr =>
    simp only [halloc, Option.some.injEq] at h
    subst h
    have hnone : mediaSessionCmd2event .register = none := rfl
    refine ⟨?_, ?_, by simp [hcmd, SessionCmd.releases], by simp [halloc]⟩
    · rw [SessionCall.created, hcmd, halloc]
      exact controlleeRegister_effect s call.cookie addr
    · rw [hcmd]
      exact controlleeNotify_sent (s := s) (t := (mediaSessionControlleeRegister s call.cookie addr).1) rfl hnone
        _ _ _ _

private theorem served_open (hcmd : call.cmd = .open) (h : mediaSessionHandler s call = some r) :
    SessionServed s call r := by
  unfold mediaSessionHandler at h
  simp only [hcmd] at h
  cases halloc : call.alloc with
  | none =>
    simp only [halloc, Option.some.injEq] at h
    subst h
    exact .idle (by rw [SessionCall.created, hcmd, halloc]; rfl) (by rw [hcmd]; rfl) (by simp [halloc, ENOMEM])
  | some addr =>
    simp only [halloc, Option.some.injEq] at h
    subst h
    refine ⟨?_, by simp, by simp [hcmd, SessionCmd.releases], by simp [halloc]⟩
    rw [SessionCall.created, hcmd, halloc]
    exact controllerOpen_effect s call.cookie addr

private theorem served_unregister (hcmd : call.cmd = .unregister) (h : mediaSessionHandler s call = some r) :
    SessionServed s call r := by
  unfold mediaSessionHandler at h
  simp only [hcmd] at h
  cases hdata : call.data with
  | none =>
    simp only [hdata, Option.some.injEq] at h
    subst h
    exact served_idle (by simp [hcmd]) (by simp [hcmd]) (by rw [hcmd, hdata]; rfl)
  | some addr =>
    simp only [hdata] at h
    obtain ⟨c, hc, rfl⟩ := Option.map_eq_some_iff.1 h
    obtain ⟨-, rfl⟩ := MediaSessionPriv.mem_of_controllee hc
    have hreleases : call.cmd.releases call.data = some (.controllee c.addr) := by rw [hcmd, hdata]; rfl
    have hnone : mediaSessionCmd2event .unregister = none := rfl
    refine ⟨?_, ?_, ?_, by simp [hcmd]⟩
    · rw [hreleases, SessionCall.created, hcmd]
      exact controlleeUnregister_effect s call.cookie c.addr
    · rw [hcmd]
      exact controlleeUnregister_sent hnone
    · rw [hreleases, Option.bind_some, MediaSessionPriv.finalizes, hc, Option.bind_some]

private theorem served_event (hcmd : call.cmd = .event) (h : mediaSessionHandler s call = some r) :
    SessionServed s call r := by
  unfold mediaSessionHandler at h
  simp only [hcmd] at h
  cases hdata : call.data with
  | none =>
    simp only [hdata, Option.some.injEq] at h
    subst h
    exact served_idle (by simp [hcmd]) (by simp [hcmd]) (by rw [hcmd]; rfl)
  | some addr =>
    simp only [hdata] at h
    obtain ⟨c, -, harg⟩ := Option.bind_eq_some_iff.1 h
    obtain ⟨arg, -, rfl⟩ := Option.map_eq_some_iff.1 harg
    have hnone : mediaSessionCmd2event .event = none := rfl
    refine ⟨?_, ?_, by simp [hcmd, SessionCmd.releases], by simp [hcmd]⟩
    · rw [SessionCall.created, hcmd]
      exact .refl ..
    · rw [hcmd]
      exact controlleeNotify_sent (s := s) (t := s) rfl hnone _ _ _ _

private theorem served_update (hcmd : call.cmd = .update) (h : mediaSessionHandler s call = some r) :
    SessionServed s call r := by
  unfold mediaSessionHandler at h
  simp only [hcmd] at h
  cases hdata : call.data with
  | none =>
    simp only [hdata, Option.some.injEq] at h
    subst h
    exact served_idle (by simp [hcmd]) (by simp [hcmd]) (by rw [hcmd]; rfl)
  | some addr =>
    simp only [hdata] at h
    obtain ⟨c, hc, hread⟩ := Option.bind_eq_some_iff.1 h
    obtain ⟨diff, -, rfl⟩ := Option.map_eq_some_iff.1 hread
    obtain ⟨hmem, rfl⟩ := MediaSessionPriv.mem_of_controllee hc
    have hnone : mediaSessionCmd2event .update = none := rfl
    refine ⟨?_, ?_, by simp [hcmd, SessionCmd.releases], by simp [hcmd]⟩
    · rw [SessionCall.created, hcmd]
      exact controlleeUpdate_effect hmem ..
    · rw [hcmd]
      exact controlleeUpdate_sent hnone _ _

private theorem served_close (hcmd : call.cmd = .close) (h : mediaSessionHandler s call = some r) :
    SessionServed s call r := by
  unfold mediaSessionHandler at h
  simp only [hcmd] at h
  cases hdata : call.data with
  | none =>
    simp only [hdata, Option.some.injEq] at h
    subst h
    exact served_idle (by simp [hcmd]) (by simp [hcmd]) (by rw [hcmd, hdata]; rfl)
  | some addr =>
    simp only [hdata] at h
    obtain ⟨c, hc, rfl⟩ := Option.map_eq_some_iff.1 h
    obtain ⟨-, rfl⟩ := MediaSessionPriv.mem_of_controller hc
    have hreleases : call.cmd.releases call.data = some (.controller c.addr) := by rw [hcmd, hdata]; rfl
    refine ⟨?_, by simp, ?_, by simp [hcmd]⟩
    · rw [hreleases, SessionCall.created, hcmd]
      exact controllerClose_effect s call.cookie c.addr
    · rw [hreleases, Option.bind_some, MediaSessionPriv.finalizes, hc, Option.bind_some]

private theorem served_setEvent (hcmd : call.cmd = .setEvent) (h : mediaSessionHandler s call = some r) :
    SessionServed s call r := by
  unfold mediaSessionHandler at h
  simp only [hcmd] at h
  cases hdata : call.data with
  | none =>
    simp only [hdata, Option.some.injEq] at h
    subst h
    exact served_idle (by simp [hcmd]) (by simp [hcmd]) (by rw [hcmd]; rfl)
  | some addr =>
    simp only [hdata] at h
    obtain ⟨c, -, rfl⟩ := Option.map_eq_some_iff.1 h
    refine ⟨?_, by simp, by simp [hcmd, SessionCmd.releases], by simp [hcmd]⟩
    rw [SessionCall.created, hcmd]
    exact setEvent_effect ..

theorem mediaSessionHandler_served (h : mediaSessionHandler s call = some r) : SessionServed s call r := by
  cases hcmd : call.cmd with
  | ping =>
    simp only [mediaSessionHandler, hcmd, Option.some.injEq] at h
    subst h
    exact served_idle (by simp [hcmd]) (by simp [hcmd]) (by rw [hcmd]; rfl)
  | register => exact served_register hcmd h
  | «open» => exact served_open hcmd h
  | unregister => exact served_unregister hcmd h
  | event => exact served_event hcmd h
  | update => exact served_update hcmd h
  | close => exact served_close hcmd h
  | setEvent => exact served_setEvent hcmd h
  | query | start | pause | stop | prev | next | volumeup | volumedown | other =>
    -- these are passed on to the first controllee
    simp only [mediaSessionHandler, hcmd] at h
    cases hdata : call.data with
    | none =>
      simp only [hdata, Option.some.injEq] at h
      subst h
      exact served_idle (by simp [hcmd]) (by simp [hcmd]) (by rw [hcmd]; rfl)
    | some addr =>
      simp only [hdata] at h
      obtain ⟨-, h⟩ := Option.ite_none_left_eq_some.1 h
      cases h
      exact .transfer hcmd (by rw [SessionCall.created, hcmd]) rfl (by simp)

end MediaFramework
