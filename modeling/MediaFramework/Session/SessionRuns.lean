import Mathlib.Data.List.Nodup
import MediaFramework.Session.MetadataDecode

/-!
# Runs of the session module

Connections open, register and then use their own objects.  In every such run the objects have different addresses,
and each handler finds its object.  A call has a result unless it is an update with a word that is too long.
-/

namespace MediaFramework

variable {s s' : MediaSessionPriv} {call : SessionCall} {r : SessionResult} {addr : Nat}

namespace MediaSessionPriv

def controlleeAddrs (s : MediaSessionPriv) : List Nat := s.controllees.map MediaControlleePriv.addr

def addrs (s : MediaSessionPriv) : List Nat := s.controllers.map MediaControllerPriv.addr ++ s.controlleeAddrs

end MediaSessionPriv

namespace SessionCall

/-- The connection holds a live controllee that was registered by it. -/
def OwnsControllee (s : MediaSessionPriv) (call : SessionCall) : Prop :=
  ∃ c ∈ s.controllees, call.data = some c.addr ∧ c.cookie = some call.cookie

/-- The connection holds a live controller that was opened by it. -/
def OwnsController (s : MediaSessionPriv) (call : SessionCall) : Prop :=
  ∃ c ∈ s.controllers, call.data = some c.addr ∧ c.cookie = some call.cookie

/-- A connection uses its own live object of the right role; `zalloc` gives an address that is not in use, the text of
an event is there, and so is the buffer for the response to a query. -/
def Proper (s : MediaSessionPriv) (call : SessionCall) : Prop :=
  match call.cmd with
  | .ping => True
  | .register | .open => ∀ addr ∈ call.alloc, addr ∉ s.addrs
  | .unregister | .update => call.OwnsControllee s
  | .event => call.OwnsControllee s ∧ call.arg ≠ none
  | .query => call.OwnsController s ∧ (call.len ≠ 0 → call.res = true)
  | _ => call.OwnsController s

/-- The words of an update fit into the arrays that they are read into. -/
def Fits (call : SessionCall) : Prop :=
  call.cmd = .update → ∀ str ∈ call.arg, ∀ w, .word w ∈ supplied str → w.length < 128

instance (call : SessionCall) : Decidable call.Fits := by
  unfold Fits
  have (str : CString) : Decidable (∀ w, .word w ∈ supplied str → w.length < 128) :=
    decidable_of_iff _ short_words.symm
  infer_instance

end SessionCall

/-- The session module under calls of its handler. -/
def sessionMachine : Machine MediaSessionPriv SessionCall where
  start := {}
  next s call := (mediaSessionHandler s call).map SessionResult.session

abbrev SessionReachable (s : MediaSessionPriv) : Prop :=
  sessionMachine.ReachableVia (fun s call => call.Proper s) s

instance (s : MediaSessionPriv) (call : SessionCall) : Decidable (call.Proper s) := by
  unfold SessionCall.Proper SessionCall.OwnsControllee SessionCall.OwnsController
  split <;> infer_instance

theorem SessionReachable.next (h : SessionReachable s) (hproper : call.Proper s)
    (hr : mediaSessionHandler s call = some r) : SessionReachable r.session := by
  refine .step h hproper ?_
  show (mediaSessionHandler s call).map SessionResult.session = some r.session
  rw [hr, Option.map_some]

/-! ### The lists -/

namespace MediaSessionPriv

theorem controllee_of_mem (h : s.addrs.Nodup) {c : MediaControlleePriv} (hc : c ∈ s.controllees) :
    s.controllee c.addr = some c := by
  have hnodup := (List.nodup_append.1 h).2.1
  unfold controllee
  unfold controlleeAddrs at hnodup
  clear h
  generalize s.controllees = controllees at hc hnodup
  induction controllees with
  | nil => cases hc
  | cons d controllees ih =>
    rw [List.map_cons, List.nodup_cons] at hnodup
    rcases List.mem_cons.1 hc with rfl | hc
    · simp
    · have hne : d.addr ≠ c.addr := fun heq => hnodup.1 (heq ▸ List.mem_map_of_mem hc)
      rw [List.find?_cons_of_neg (by simpa using hne), ih hc hnodup.2]

theorem mem_of_controllee {c : MediaControlleePriv} (h : s.controllee addr = some c) :
    c ∈ s.controllees ∧ c.addr = addr :=
  ⟨List.mem_of_find?_eq_some h, by simpa using List.find?_some h⟩

theorem mem_of_controller {c : MediaControllerPriv} (h : s.controller addr = some c) :
    c ∈ s.controllers ∧ c.addr = addr :=
  ⟨List.mem_of_find?_eq_some h, by simpa using List.find?_some h⟩

theorem first_eq_head (s : MediaSessionPriv) : s.first = s.controlleeAddrs.head? := by
  rw [first, controlleeAddrs, List.head?_map]

theorem head_of_first (h : s.addrs.Nodup) {c : MediaControlleePriv} (hc : c ∈ s.controllees)
    (hfirst : s.first = some c.addr) : s.controllees.head? = some c := by
  unfold first at hfirst
  obtain ⟨d, hd, hdaddr⟩ := Option.map_eq_some_iff.1 hfirst
  have hfind := controllee_of_mem h (List.mem_of_mem_head? hd)
  rw [hdaddr, controllee_of_mem h hc] at hfind
  rw [hd, hfind]

theorem first_of_addrs (h : s'.controlleeAddrs = s.controlleeAddrs) : s'.first = s.first := by
  rw [first_eq_head, first_eq_head, h]

/-- The metadata of a controllee changes. -/
def setData (s : MediaSessionPriv) (c : MediaControlleePriv) (data : MediaMetadata) : MediaSessionPriv :=
  { s with controllees := s.controllees.map fun d => if d.addr = c.addr then { c with data } else d }

theorem setData_addrs (s : MediaSessionPriv) (c : MediaControlleePriv) (data : MediaMetadata) :
    (s.setData c data).controlleeAddrs = s.controlleeAddrs := by
  rw [setData, controlleeAddrs, controlleeAddrs, List.map_map]
  refine List.map_congr_left fun d _ => ?_
  simp only [Function.comp]
  split
  · rename_i heq
    exact heq.symm
  · rfl

theorem removeControllee_addrs (s : MediaSessionPriv) (addr : Nat) :
    (s.removeControllee addr).controlleeAddrs = s.controlleeAddrs.filter (· != addr) := by
  rw [controlleeAddrs, controlleeAddrs, List.filter_map]
  rfl

end MediaSessionPriv

/-! ### What a call does to the lists -/

theorem register_addrs (s : MediaSessionPriv) (cookie addr : Nat) :
    (mediaSessionControlleeRegister s cookie addr).1.controllers = s.controllers ∧
      (mediaSessionControlleeRegister s cookie addr).1.controlleeAddrs = s.controlleeAddrs ++ [addr] := by
  simp [mediaSessionControlleeRegister, MediaSessionPriv.controlleeAddrs]

/-- The cases of an update: the most active controllee stays, another one that plays becomes the most active one, and
any other one keeps its place. -/
theorem update_cases (s : MediaSessionPriv) (c : MediaControlleePriv) (diff : MediaMetadata) :
    let t := s.setData c (mediaMetadataUpdate c.data diff)
    some c.addr = s.first ∧
        mediaSessionControlleeUpdate s c diff =
          (t, mediaSessionControlleeNotify t (some c.addr) MEDIA_EVENT_UPDATED diff.flags none) ∨
      some c.addr ≠ s.first ∧ (mediaMetadataUpdate c.data diff).plays = true ∧
        (∃ u : MediaSessionPriv, u.controllers = s.controllers ∧
          u.controllees = { c with data := mediaMetadataUpdate c.data diff } :: (t.removeControllee c.addr).controllees ∧
          mediaSessionControlleeUpdate s c diff =
            (u, mediaSessionControlleeNotify u (some c.addr) MEDIA_EVENT_CHANGED diff.flags none)) ∨
      some c.addr ≠ s.first ∧ (mediaMetadataUpdate c.data diff).plays = false ∧
        mediaSessionControlleeUpdate s c diff = (t, []) := by
  have hfirst : (s.setData c (mediaMetadataUpdate c.data diff)).first = s.first :=
    MediaSessionPriv.first_of_addrs (MediaSessionPriv.setData_addrs ..)
  unfold mediaSessionControlleeUpdate
  dsimp only
  rw [show MediaSessionPriv.first { s with controllees := s.controllees.map fun d => if d.addr = c.addr then
    { c with data := mediaMetadataUpdate c.data diff } else d } = s.first from hfirst]
  by_cases hhead : some c.addr = s.first
  · rw [if_pos hhead]
    exact .inl ⟨hhead, rfl⟩
  · rw [if_neg hhead]
    by_cases hplays : (mediaMetadataUpdate c.data diff).plays = true
    · rw [if_pos hplays]
      exact .inr (.inl ⟨hhead, hplays, { s with
        controllees := { c with data := mediaMetadataUpdate c.data diff } ::
          ((s.setData c (mediaMetadataUpdate c.data diff)).removeControllee c.addr).controllees }, rfl, rfl, rfl⟩)
    · rw [if_neg hplays]
      exact .inr (.inr ⟨hhead, by simpa using hplays, rfl⟩)

/-- An update leaves the order, or brings a controllee that plays to the front. -/
theorem update_addrs (s : MediaSessionPriv) (c : MediaControlleePriv) (diff : MediaMetadata) :
    (mediaSessionControlleeUpdate s c diff).1.controllers = s.controllers ∧
      (mediaSessionControlleeUpdate s c diff).1.controlleeAddrs =
        if some c.addr ≠ s.first ∧ (mediaMetadataUpdate c.data diff).plays = true then
          c.addr :: s.controlleeAddrs.filter (· != c.addr)
        else s.controlleeAddrs := by
  rcases update_cases s c diff with ⟨hfirst, h⟩ | ⟨hfirst, hplays, u, hcontrollers, hcontrollees, h⟩ |
    ⟨hfirst, hplays, h⟩
  · rw [h, if_neg fun hm => hm.1 hfirst]
    exact ⟨rfl, MediaSessionPriv.setData_addrs ..⟩
  · rw [h, if_pos ⟨hfirst, hplays⟩]
    refine ⟨hcontrollers, ?_⟩
    rw [MediaSessionPriv.controlleeAddrs, hcontrollees, List.map_cons]
    congr 1
    exact (MediaSessionPriv.removeControllee_addrs ..).trans (by rw [MediaSessionPriv.setData_addrs])
  · rw [h, if_neg fun hm => by simp [hplays] at hm]
    exact ⟨rfl, MediaSessionPriv.setData_addrs ..⟩

/-- The controllee has the merged metadata after its update. -/
theorem update_controllee {c : MediaControlleePriv} (hc : c ∈ s.controllees) (diff : MediaMetadata) :
    (mediaSessionControlleeUpdate s c diff).1.controllee c.addr =
      some { c with data := mediaMetadataUpdate c.data diff } := by
  have hset : (s.setData c (mediaMetadataUpdate c.data diff)).controllee c.addr =
      some { c with data := mediaMetadataUpdate c.data diff } := by
    unfold MediaSessionPriv.controllee MediaSessionPriv.setData
    dsimp only
    generalize s.controllees = controllees at hc
    induction controllees with
    | nil => cases hc
    | cons d controllees ih =>
      rw [List.map_cons]
      by_cases hd : d.addr = c.addr
      · rw [if_pos hd, List.find?_cons_of_pos (by simp)]
      · rw [if_neg hd, List.find?_cons_of_neg (by simpa using hd)]
        refine ih ((List.mem_cons.1 hc).resolve_left ?_)
        rintro rfl
        exact hd rfl
  rcases update_cases s c diff with ⟨-, h⟩ | ⟨-, -, u, -, hcontrollees, h⟩ | ⟨-, -, h⟩
  · rw [h, hset]
  · rw [h, MediaSessionPriv.controllee, hcontrollees, List.find?_cons_of_pos (by simp)]
  · rw [h, hset]

theorem unregister_addrs (s : MediaSessionPriv) (addr : Nat) :
    (mediaSessionControlleeUnregister s addr).1.controllers = s.controllers ∧
      (mediaSessionControlleeUnregister s addr).1.controlleeAddrs = s.controlleeAddrs.filter (· != addr) := by
  unfold mediaSessionControlleeUnregister
  dsimp only
  split <;> exact ⟨rfl, s.removeControllee_addrs addr⟩

/-- The ways in which a proper call that has a result changes the session and sends events. -/
inductive SessionStep (s : MediaSessionPriv) (call : SessionCall) : MediaSessionPriv → List StubNotify → Prop
  | none : call.cmd ≠ .event → call.cmd ≠ .update → call.cmd ≠ .unregister →
      (call.cmd = .register → call.alloc = none) → SessionStep s call s []
  | register (addr : Nat) : call.cmd = .register → call.alloc = some addr →
      SessionStep s call (mediaSessionControlleeRegister s call.cookie addr).1
        (mediaSessionControlleeRegister s call.cookie addr).2
  | unregister (c : MediaControlleePriv) : call.cmd = .unregister → c ∈ s.controllees → call.data = some c.addr →
      SessionStep s call (mediaSessionControlleeUnregister s c.addr).1 (mediaSessionControlleeUnregister s c.addr).2
  | event (c : MediaControlleePriv) (arg : CString) : call.cmd = .event → c ∈ s.controllees →
      call.data = some c.addr → call.arg = some arg →
      SessionStep s call s
        (mediaSessionControlleeNotify s (some c.addr) (scanEvent call arg).1 (scanEvent call arg).2 call.target)
  | update (c : MediaControlleePriv) (ret : Int) (diff : MediaMetadata) : call.cmd = .update → c ∈ s.controllees →
      call.data = some c.addr →
      mediaMetadataUnserialize call.stack mediaMetadataInit call.arg = some (ret, diff) →
      SessionStep s call (mediaSessionControlleeUpdate s c diff).1 (mediaSessionControlleeUpdate s c diff).2
  | open (addr : Nat) : call.cmd = .open → call.alloc = some addr →
      SessionStep s call (mediaSessionControllerOpen s call.cookie addr) []
  | controllers (controllers : List MediaControllerPriv) : call.cmd = .close ∨ call.cmd = .setEvent →
      (controllers.map MediaControllerPriv.addr).Sublist (s.controllers.map MediaControllerPriv.addr) →
      (∀ c ∈ s.controllers, c.event = true → (call.cmd = .close → call.data ≠ some c.addr) → c ∈ controllers) →
      SessionStep s call { s with controllers } []
  | transfer (cmd : SessionCmd) (event : BitVec 32) (c : MediaControlleePriv) : call.cmd = cmd →
      mediaSessionCmd2event cmd = some event → s.controllees.head? = some c →
      SessionStep s call s [⟨c.addr, c.cookie, event, 0, call.arg⟩]

/-- A control message goes to the first controllee, if it has an event. -/
private theorem controllerTransfer_step {cmd : SessionCmd} (hcmd : call.cmd = cmd)
    (hother : cmd ∉ [SessionCmd.event, .update, .unregister, .register]) :
    SessionStep s call s (mediaSessionControllerTransfer s cmd call.arg call.len).2.2 := by
  have hnone : SessionStep s call s [] := by
    simp only [← hcmd, List.mem_cons, List.not_mem_nil, or_false, not_or] at hother
    exact .none hother.1 hother.2.1 hother.2.2.1 fun hregister => absurd hregister hother.2.2.2
  unfold mediaSessionControllerTransfer
  split
  · exact hnone
  · rename_i c controllees hcontrollees
    split
    · exact hnone
    · split
      · rename_i event hcmd2event
        exact .transfer cmd event c hcmd hcmd2event (by rw [hcontrollees]; rfl)
      · exact hnone

private theorem controllerClose_step (hcmd : call.cmd = .close) {addr : Nat} (hdata : call.data = some addr)
    (h : mediaSessionHandler s call = some r) : SessionStep s call r.session r.sent := by
  simp only [mediaSessionHandler, hcmd, hdata] at h
  obtain ⟨controller, -, h⟩ := Option.map_eq_some_iff.1 h
  cases h
  refine .controllers _ (.inl hcmd) (List.filter_sublist.map _) fun d hd _ hother => ?_
  have hne : d.addr ≠ addr := fun heq => hother hcmd (by rw [hdata, heq])
  exact List.mem_filter.2 ⟨hd, by simpa using hne⟩

private theorem setEvent_step (hcmd : call.cmd = .setEvent) {addr : Nat} (hdata : call.data = some addr)
    (h : mediaSessionHandler s call = some r) : SessionStep s call r.session r.sent := by
  simp only [mediaSessionHandler, hcmd, hdata] at h
  obtain ⟨controller, -, h⟩ := Option.map_eq_some_iff.1 h
  cases h
  have hsame : (s.controllers.map fun c => if c.addr = controller.addr then { c with event := true } else c).map
      MediaControllerPriv.addr = s.controllers.map MediaControllerPriv.addr := by
    rw [List.map_map]
    refine List.map_congr_left fun d _ => ?_
    simp only [Function.comp]
    split <;> rfl
  refine .controllers _ (.inr hcmd) (by rw [hsame]) fun d hd hevent _ => List.mem_map.2 ⟨d, hd, ?_⟩
  cases d
  cases hevent
  split <;> rfl

theorem mediaSessionHandler_step (hnodup : s.addrs.Nodup) (hproper : call.Proper s)
    (h : mediaSessionHandler s call = some r) : SessionStep s call r.session r.sent := by
  have howned : call.OwnsControllee s → ∃ c ∈ s.controllees, call.data = some c.addr ∧ s.controllee c.addr = some c :=
    fun ⟨c, hc, hdata, _⟩ => ⟨c, hc, hdata, MediaSessionPriv.controllee_of_mem hnodup hc⟩
  unfold SessionCall.Proper at hproper
  cases hcmd : call.cmd with
  | ping =>
    simp only [mediaSessionHandler, hcmd] at h
    cases h
    exact .none (by simp [hcmd]) (by simp [hcmd]) (by simp [hcmd]) (by simp [hcmd])
  | register =>
    simp only [mediaSessionHandler, hcmd] at h
    split at h
    · rename_i halloc
      cases h
      exact .none (by simp [hcmd]) (by simp [hcmd]) (by simp [hcmd]) fun _ => halloc
    · rename_i addr halloc
      cases h
      exact .register addr hcmd halloc
  | «open» =>
    simp only [mediaSessionHandler, hcmd] at h
    split at h
    · cases h
      exact .none (by simp [hcmd]) (by simp [hcmd]) (by simp [hcmd]) (by simp [hcmd])
    · rename_i addr halloc
      cases h
      exact .open addr hcmd halloc
  | unregister =>
    -- A controllee's own commands read `conn->data`, so the word has to be one of the list.
    simp only [hcmd] at hproper
    obtain ⟨c, hc, hdata, hfind⟩ := howned hproper
    simp only [mediaSessionHandler, hcmd, hdata, hfind, Option.map_some] at h
    cases h
    exact .unregister c hcmd hc hdata
  | event =>
    simp only [hcmd] at hproper
    obtain ⟨c, hc, hdata, hfind⟩ := howned hproper.1
    obtain ⟨arg, harg⟩ := Option.ne_none_iff_exists'.1 hproper.2
    simp only [mediaSessionHandler, hcmd, hdata, hfind, harg, Option.bind_some, Option.map_some] at h
    cases h
    exact .event c arg hcmd hc hdata harg
  | update =>
    simp only [hcmd] at hproper
    obtain ⟨c, hc, hdata, hfind⟩ := howned hproper
    simp only [mediaSessionHandler, hcmd, hdata, hfind, Option.bind_some] at h
    obtain ⟨⟨ret, diff⟩, hdiff, h⟩ := Option.map_eq_some_iff.1 h
    cases h
    exact .update c ret diff hcmd hc hdata hdiff
  | close =>
    simp only [hcmd] at hproper
    obtain ⟨c, -, hdata, -⟩ := hproper
    exact controllerClose_step hcmd hdata h
  | setEvent =>
    simp only [hcmd] at hproper
    obtain ⟨c, -, hdata, -⟩ := hproper
    exact setEvent_step hcmd hdata h
  | query =>
    simp only [hcmd] at hproper
    obtain ⟨⟨c, -, hdata, -⟩, -⟩ := hproper
    simp only [mediaSessionHandler, hcmd, hdata] at h
    obtain ⟨-, h⟩ := Option.ite_none_left_eq_some.1 h
    cases h
    exact controllerTransfer_step hcmd (by decide)
  | _ =>
    -- The remaining commands are the player's, relayed to the head of the list.
    simp only [hcmd] at hproper
    obtain ⟨c, -, hdata, -⟩ := hproper
    simp only [mediaSessionHandler, hcmd, hdata] at h
    obtain ⟨-, h⟩ := Option.ite_none_left_eq_some.1 h
    cases h
    exact controllerTransfer_step hcmd (by decide)

/-- The addresses stay different. -/
theorem SessionStep.nodup {sent : List StubNotify} (h : SessionStep s call s' sent) (hproper : call.Proper s)
    (hnodup : s.addrs.Nodup) : s'.addrs.Nodup := by
  have hsub : ∀ {t : MediaSessionPriv}, t.controllers = s.controllers →
      t.controlleeAddrs.Sublist s.controlleeAddrs → t.addrs.Nodup := by
    intro t hcontrollers ht
    refine hnodup.sublist ?_
    rw [MediaSessionPriv.addrs, hcontrollers]
    exact ht.append_left _
  cases h with
  | none | event | transfer => exact hnodup
  | register addr hcmd halloc =>
    simp only [SessionCall.Proper, hcmd] at hproper
    obtain ⟨hcontrollers, hcontrollees⟩ := register_addrs s call.cookie addr
    have hperm : ((mediaSessionControlleeRegister s call.cookie addr).1.addrs).Perm (addr :: s.addrs) := by
      rw [MediaSessionPriv.addrs, hcontrollers, hcontrollees, ← List.append_assoc]
      exact List.perm_append_singleton ..
    exact hperm.nodup_iff.2 (List.nodup_cons.2 ⟨hproper addr halloc, hnodup⟩)
  | unregister c hcmd hc hdata =>
    obtain ⟨hcontrollers, hcontrollees⟩ := unregister_addrs s c.addr
    exact hsub hcontrollers (hcontrollees ▸ List.filter_sublist)
  | update c ret diff hcmd hc hdata hdiff =>
    obtain ⟨hcontrollers, hcontrollees⟩ := update_addrs s c diff
    have hperm : (mediaSessionControlleeUpdate s c diff).1.controlleeAddrs.Perm s.controlleeAddrs := by
      rw [hcontrollees]
      split
      · have hmem : c.addr ∈ s.controlleeAddrs := List.mem_map_of_mem hc
        have hc' := (List.nodup_append.1 hnodup).2.1
        have herase := hc'.erase_eq_filter c.addr
        rw [← herase]
        exact (List.perm_cons_erase hmem).symm
      · exact .refl _
    rw [MediaSessionPriv.addrs, hcontrollers]
    exact (hperm.append_left _).nodup_iff.2 hnodup
  | «open» addr hcmd halloc =>
    simp only [SessionCall.Proper, hcmd] at hproper
    exact List.nodup_cons.2 ⟨hproper addr halloc, hnodup⟩
  | controllers controllers hcmd hsublist _ => exact hnodup.sublist (hsublist.append_right _)

/-- A call for another object leaves a controllee as it is. -/
theorem SessionStep.kept {sent : List StubNotify} (h : SessionStep s call s' sent) {c : MediaControlleePriv}
    (hc : c ∈ s.controllees) (hother : call.data = some c.addr → call.cmd ≠ .update ∧ call.cmd ≠ .unregister) :
    c ∈ s'.controllees := by
  cases h with
  | none | event | transfer | «open» | controllers => exact hc
  | register addr hcmd halloc => exact List.mem_append_left _ hc
  | unregister d hcmd hd hdata =>
    have hne : c.addr ≠ d.addr := fun heq => (hother (heq ▸ hdata)).2 hcmd
    have hmem : c ∈ (s.removeControllee d.addr).controllees := List.mem_filter.2 ⟨hc, by simpa using hne⟩
    unfold mediaSessionControlleeUnregister
    dsimp only
    split <;> exact hmem
  | update d ret diff hcmd hd hdata hdiff =>
    have hne : c.addr ≠ d.addr := fun heq => (hother (heq ▸ hdata)).1 hcmd
    have hmem : c ∈ (s.setData d (mediaMetadataUpdate d.data diff)).controllees :=
      List.mem_map.2 ⟨c, hc, if_neg hne⟩
    rcases update_cases s d diff with ⟨-, h⟩ | ⟨-, -, u, -, hcontrollees, h⟩ | ⟨-, -, h⟩
    · rw [h]
      exact hmem
    · rw [h, hcontrollees]
      exact List.mem_cons_of_mem _ (List.mem_filter.2 ⟨hmem, by simpa using hne⟩)
    · rw [h]
      exact hmem

/-- A controller that has asked for events stays until it is closed. -/
theorem SessionStep.kept_controller {sent : List StubNotify} (h : SessionStep s call s' sent) {c : MediaControllerPriv}
    (hc : c ∈ s.controllers) (hevent : c.event = true) (hother : call.cmd = .close → call.data ≠ some c.addr) :
    c ∈ s'.controllers := by
  cases h with
  | none | event | transfer | register => exact hc
  | unregister d =>
    rw [(unregister_addrs s d.addr).1]
    exact hc
  | update d ret diff =>
    rw [(update_addrs s d diff).1]
    exact hc
  | «open» => exact List.mem_cons_of_mem _ hc
  | controllers controllers hcmd hsublist hkept => exact hkept c hc hevent hother

/-- In every run the objects have different addresses. -/
theorem SessionReachable.nodup (h : SessionReachable s) : s.addrs.Nodup := by
  refine h.invariant (P := fun s => s.addrs.Nodup) List.nodup_nil ?_
  intro s call s' hs hproper hn
  obtain ⟨r, hr, rfl⟩ := Option.map_eq_some_iff.1 hn
  exact (mediaSessionHandler_step hs hproper hr).nodup hproper hs

/-! ### Who answers -/

/-- A query, or a command that becomes an event for the most active controllee. -/
def SessionCmd.isTransferred (cmd : SessionCmd) : Bool := cmd = .query || (mediaSessionCmd2event cmd).isSome

/-- What a call of a controller does when the controllee `c` is the one that it is for: a query is answered with the
metadata of `c`, and a control message goes to `c` and nobody else. -/
def AnsweredBy (call : SessionCall) (c : MediaControlleePriv) (r : SessionResult) : Prop :=
  if call.cmd = .query then
    r.ret = c.data.print.length ∧ r.response = some (c.data.print.take (call.len - 1)) ∧ r.sent = []
  else
    r.ret = 0 ∧ r.response = none ∧
      ∃ event, mediaSessionCmd2event call.cmd = some event ∧ r.sent = [⟨c.addr, c.cookie, event, 0, call.arg⟩]

/-- Only a query has a response. -/
theorem transfer_response (s : MediaSessionPriv) {cmd : SessionCmd} (hcmd : cmd ≠ .query) (arg : Option CString)
    (len : Nat) : (mediaSessionControllerTransfer s cmd arg len).2.1 = none := by
  unfold mediaSessionControllerTransfer
  split
  · rfl
  · rw [if_neg hcmd]
    split <;> rfl

theorem transferred_handler (hproper : call.Proper s) (h : call.cmd.isTransferred) :
    mediaSessionHandler s call = some
      { ret := (mediaSessionControllerTransfer s call.cmd call.arg call.len).1
        session := s
        data := call.data
        response := (mediaSessionControllerTransfer s call.cmd call.arg call.len).2.1
        sent := (mediaSessionControllerTransfer s call.cmd call.arg call.len).2.2 } := by
  unfold SessionCall.Proper at hproper
  unfold mediaSessionHandler
  cases hcmd : call.cmd with
  | query =>
    simp only [hcmd] at hproper
    obtain ⟨⟨c, -, hdata, -⟩, hres⟩ := hproper
    simp only [hdata]
    refine if_neg ?_
    rintro ⟨-, hlen, hnone⟩
    exact absurd ((hres hlen).symm.trans hnone) (by decide)
  | start | pause | stop | prev | next | volumeup | volumedown =>
    simp only [hcmd] at hproper
    obtain ⟨c, -, hdata, -⟩ := hproper
    simp only [hdata]
    refine if_neg fun hnull => ?_
    rw [transfer_response] at hnull
    · cases hnull.1
    · decide
  | _ => simp [hcmd, SessionCmd.isTransferred, mediaSessionCmd2event] at h

theorem transfer_answered {c : MediaControlleePriv} {controllees : List MediaControlleePriv}
    (hcontrollees : s.controllees = c :: controllees) (h : call.cmd.isTransferred)
    (hr : mediaSessionControllerTransfer s call.cmd call.arg call.len = (r.ret, r.response, r.sent)) :
    AnsweredBy call c r := by
  unfold mediaSessionControllerTransfer at hr
  rw [hcontrollees] at hr
  unfold AnsweredBy
  by_cases hquery : call.cmd = .query
  · simp only [if_pos hquery, mediaMetadataSerialize, Prod.mk.injEq] at hr ⊢
    exact ⟨hr.1.symm, hr.2.1.symm, hr.2.2.symm⟩
  · have hevent : (mediaSessionCmd2event call.cmd).isSome := by simpa [SessionCmd.isTransferred, hquery] using h
    obtain ⟨event, hevent⟩ := Option.isSome_iff_exists.1 hevent
    simp only [if_neg hquery, hevent, Prod.mk.injEq] at hr ⊢
    exact ⟨hr.1.symm, hr.2.1.symm, event, rfl, hr.2.2.symm⟩

/-! ### The calls that have a result -/

theorem update_isSome_iff (hnodup : s.addrs.Nodup) (howns : call.OwnsControllee s) (hcmd : call.cmd = .update) :
    (mediaSessionHandler s call).isSome ↔ call.Fits := by
  obtain ⟨c, hc, hdata, -⟩ := howns
  have hhandler : mediaSessionHandler s call =
      (mediaMetadataUnserialize call.stack mediaMetadataInit call.arg).map fun diff =>
        { ret := 0, session := (mediaSessionControlleeUpdate s c diff.2).1, data := some c.addr
          sent := (mediaSessionControlleeUpdate s c diff.2).2 } := by
    unfold mediaSessionHandler
    rw [hcmd, hdata]
    dsimp only
    rw [MediaSessionPriv.controllee_of_mem hnodup hc, Option.bind_some]
  rw [hhandler, Option.isSome_map, SessionCall.Fits]
  cases harg : call.arg with
  | none => exact iff_of_true rfl fun _ => nofun
  | some str =>
    simp only [hcmd, Option.mem_some_iff, forall_eq', true_implies]
    by_cases hshort : ∀ w, .word w ∈ supplied str → w.length < 128
    · rw [unserialize_decoded hshort]
      exact iff_of_true rfl hshort
    · rw [unserialize_long hshort]
      exact iff_of_false (by decide) hshort

/-- A proper call has a result, unless it is an update with a word that is too long. -/
theorem mediaSessionHandler_isSome_iff (hnodup : s.addrs.Nodup) (hproper : call.Proper s) :
    (mediaSessionHandler s call).isSome ↔ call.Fits := by
  have hother : call.cmd ≠ .update → (mediaSessionHandler s call).isSome →
      ((mediaSessionHandler s call).isSome ↔ call.Fits) :=
    fun hcmd hsome => iff_of_true hsome fun heq => absurd heq hcmd
  have hcontroller : call.OwnsController s → ∃ c d, call.data = some d ∧ s.controller d = some c := by
    rintro ⟨c, hc, hdata, -⟩
    have hfind : (s.controller c.addr).isSome := List.find?_isSome.2 ⟨c, hc, by simp⟩
    exact ⟨_, _, hdata, (Option.some_get hfind).symm⟩
  have hcalled := hproper
  unfold SessionCall.Proper at hproper
  cases hcmd : call.cmd with
  | update =>
    simp only [hcmd] at hproper
    exact update_isSome_iff hnodup hproper hcmd
  | ping =>
    refine hother (by simp [hcmd]) ?_
    simp [mediaSessionHandler, hcmd]
  | register | «open» =>
    refine hother (by simp [hcmd]) ?_
    unfold mediaSessionHandler
    rw [hcmd]
    cases call.alloc <;> rfl
  | unregister =>
    simp only [hcmd] at hproper
    obtain ⟨c, hc, hdata, -⟩ := hproper
    refine hother (by simp [hcmd]) ?_
    simp [mediaSessionHandler, hcmd, hdata, MediaSessionPriv.controllee_of_mem hnodup hc]
  | event =>
    simp only [hcmd] at hproper
    obtain ⟨⟨c, hc, hdata, -⟩, harg⟩ := hproper
    obtain ⟨arg, harg⟩ := Option.ne_none_iff_exists'.1 harg
    refine hother (by simp [hcmd]) ?_
    simp [mediaSessionHandler, hcmd, hdata, harg, MediaSessionPriv.controllee_of_mem hnodup hc]
  | close | setEvent =>
    simp only [hcmd] at hproper
    obtain ⟨c, d, hdata, hfind⟩ := hcontroller hproper
    refine hother (by simp [hcmd]) ?_
    simp [mediaSessionHandler, hcmd, hdata, hfind]
  | query | start | pause | stop | prev | next | volumeup | volumedown =>
    refine hother (by simp [hcmd]) ?_
    rw [transferred_handler hcalled (by rw [hcmd]; decide)]
    rfl
  | other =>
    simp only [hcmd] at hproper
    obtain ⟨c, -, hdata, -⟩ := hproper
    refine hother (by simp [hcmd]) ?_
    have hnot : SessionCmd.other ≠ .query := by decide
    have hnone := transfer_response s hnot call.arg call.len
    simp [mediaSessionHandler, hcmd, hdata, hnone]

end MediaFramework
