import MediaFramework.Client.UvWritings

/-!
# Every request is answered once

A request that `media_uv_send` accepts is in `pendq`, then in `sentq`, until its `on_receive` is called.  The code loses
this in three places: `media_uv_clear_queue` drops what is queued without a call, `media_uv_send` returns an error
after it has called `on_receive`, and a failed write is reported although the request has had its answer.  In runs
without these, every accepted request is answered once, before the proxy is gone or out of servers.
-/

namespace MediaFramework

variable {c : UvConfig} {s s' : MediaProxyPriv} {o : Outcome} {i : UvInput} {w : MediaWritePriv} {q : Writings}

/-- The requests that an `on_receive` was called for. -/
def Writings.answered (q : Writings) : List MediaWritePriv := q.answers.map Prod.fst

/-- No request is answered twice, none for which `media_uv_send` returned an error, every accepted one by the time
the proxy is gone or out of servers, and with the parcels that were read. -/
structure AnsweredOnce (s : MediaProxyPriv) : Prop where
  once : s.writings.answered.Nodup
  accepted : ∀ w ∈ s.writings.answered, w ∈ s.writings.accepted
  settled : s.released = true ∨ s.exhausted = true →
    ∀ w ∈ s.writings.accepted, w.code = MEDIA_PARCEL_SEND_ACK → w ∈ s.writings.answered
  parcels : s.writings.answers.filterMap Prod.snd = s.writings.replies

/-- The condition on a step: the queues are cleared only when they hold no request, `uv_write` takes a request that
`media_uv_send` writes itself, and a failed write is reported only for a request that has no answer yet. -/
def RequestsKept (s : MediaProxyPriv) (i : UvInput × Outcome) : Prop :=
  (ClearsQueue s i.1 → ∀ w ∈ s.writings.sentq ++ s.writings.pendq, w.code ≠ MEDIA_PARCEL_SEND_ACK) ∧
    match i.1 with
    | .send ack => ack = true ∧ s.cpu.isSome = true ∧ i.2.writing = true ∧ s.flags = 0 → 0 ≤ i.2.write
    | .writeCb _ w status => status < 0 ∧ w.code = MEDIA_PARCEL_SEND_ACK → w ∈ s.writings.sentq
    | _ => True

/-! ### Where the requests are -/

/-- The writings that are queued, answered, or in the hands of the code. -/
def Writings.kept (q : Writings) (inHand : List MediaWritePriv) : List MediaWritePriv :=
  q.pendq ++ q.sentq ++ q.answered ++ inHand

/-- Every accepted request is in one place. -/
structure Writings.Located (q : Writings) (inHand : List MediaWritePriv) : Prop where
  fresh : ∀ w ∈ q.kept inHand ++ q.accepted, w.id < q.nextId
  nodup : (q.kept inHand).Nodup
  acks : ∀ w ∈ q.sentq ++ q.answered, w.code = MEDIA_PARCEL_SEND_ACK
  located : ∀ w, w.code = MEDIA_PARCEL_SEND_ACK → (w ∈ q.accepted ↔ w ∈ q.kept inHand)
  parcels : q.answers.filterMap Prod.snd = q.replies

namespace Writings.Located

variable {inHand : List MediaWritePriv}

/-- A writing goes from one place to another. -/
private theorem move {q' : Writings} {inHand' : List MediaWritePriv} (h : q.Located inHand)
    (hkept : (q'.kept inHand').Perm (q.kept inHand)) (hnext : q'.nextId = q.nextId)
    (haccepted : q'.accepted = q.accepted) (hacks : ∀ w ∈ q'.sentq ++ q'.answered, w.code = MEDIA_PARCEL_SEND_ACK)
    (hparcels : q'.answers.filterMap Prod.snd = q'.replies) : q'.Located inHand' where
  fresh w hw := by
    rw [hnext]
    rw [haccepted, List.mem_append, hkept.mem_iff] at hw
    exact h.fresh w (List.mem_append.2 hw)
  nodup := hkept.nodup_iff.2 h.nodup
  acks := hacks
  located w hw := by rw [haccepted, hkept.mem_iff, h.located w hw]
  parcels := hparcels

/-- `media_uv_send` makes a writing, which is not a request if it is refused. -/
private theorem accept (h : q.Located []) (hw : w.id = q.nextId) (ret : Int)
    (hret : w.code = MEDIA_PARCEL_SEND_ACK → 0 ≤ ret) : (q.next.accept w ret).Located [w] := by
  have hnew : w ∉ q.kept [] ++ q.accepted := by
    intro hm
    have := h.fresh w hm
    omega
  have hkept : (q.next.accept w ret).kept [w] = q.kept [] ++ [w] := by
    unfold Writings.accept
    split <;> simp [kept, answered, next]
  have hqueues : (q.next.accept w ret).sentq = q.sentq ∧ (q.next.accept w ret).answers = q.answers ∧
      (q.next.accept w ret).replies = q.replies ∧ (q.next.accept w ret).nextId = q.nextId + 1 := by
    unfold Writings.accept
    split <;> exact ⟨rfl, rfl, rfl, rfl⟩
  obtain ⟨hsentq, hanswers, hreplies, hnext⟩ := hqueues
  have hmem : ∀ v, v.code = MEDIA_PARCEL_SEND_ACK →
      (v ∈ (q.next.accept w ret).accepted ↔ v ∈ q.accepted ∨ v = w) := by
    intro v hv
    unfold Writings.accept
    split
    · simp [next]
    · rename_i hneg
      refine ⟨.inl, fun hm => hm.resolve_right ?_⟩
      rintro rfl
      exact hneg (hret hv)
  have hsub : ∀ v, v ∈ (q.next.accept w ret).accepted → v ∈ q.accepted ∨ v = w := by
    intro v hv
    unfold Writings.accept at hv
    split at hv
    · simpa [next] using hv
    · exact .inl hv
  refine ⟨fun v hv => ?_, ?_, ?_, fun v hv => ?_, by rw [hanswers, hreplies, h.parcels]⟩
  · rw [hkept, List.mem_append, List.mem_append, List.mem_singleton] at hv
    rw [hnext]
    rcases hv with (hv | rfl) | hv
    · exact Nat.lt_succ_of_lt (h.fresh v (List.mem_append_left _ hv))
    · omega
    · rcases hsub v hv with hv | rfl
      · exact Nat.lt_succ_of_lt (h.fresh v (List.mem_append_right _ hv))
      · omega
  · rw [hkept, List.nodup_append]
    refine ⟨h.nodup, by simp, fun a ha b hb => ?_⟩
    rw [List.mem_singleton.1 hb]
    rintro rfl
    exact hnew (List.mem_append_left _ ha)
  · rw [hsentq, answered, hanswers]
    exact h.acks
  · rw [hkept, List.mem_append, List.mem_singleton, hmem v hv, h.located v hv]

private theorem pend (h : q.Located [w]) : (q.pend w).Located [] := by
  refine h.move ?_ rfl rfl h.acks h.parcels
  simp only [kept, Writings.pend, answered, List.append_nil, List.append_assoc]
  exact List.Perm.append_left _ (List.perm_append_comm.trans (by rw [List.append_assoc]))

/-- The code is done with a writing that is not a request. -/
private theorem drop {q' : Writings} (h : q.Located [w]) (hw : w.code ≠ MEDIA_PARCEL_SEND_ACK)
    (hpendq : q'.pendq = q.pendq) (hsentq : q'.sentq = q.sentq) (hanswers : q'.answers = q.answers)
    (hreplies : q'.replies = q.replies) (hnext : q'.nextId = q.nextId) (haccepted : q'.accepted = q.accepted) :
    q'.Located [] := by
  have hkept : q.kept [w] = q'.kept [] ++ [w] := by simp [kept, answered, hpendq, hsentq, hanswers]
  have hsub : ∀ v ∈ q'.kept [], v ∈ q.kept [w] := fun v hv => hkept ▸ List.mem_append_left _ hv
  refine ⟨fun v hv => ?_, ?_, ?_, fun v hv => ?_, by rw [hanswers, hreplies, h.parcels]⟩
  · rw [hnext]
    rw [haccepted] at hv
    exact h.fresh v (by rcases List.mem_append.1 hv with hv | hv <;> simp [hv, hsub])
  · exact h.nodup.sublist (hkept ▸ List.sublist_append_left ..)
  · rw [hsentq, answered, hanswers]
    exact h.acks
  · rw [haccepted, h.located v hv, hkept, List.mem_append, List.mem_singleton]
    refine ⟨fun hm => hm.resolve_right ?_, .inl⟩
    rintro rfl
    exact hw hv

private theorem write (h : q.Located [w]) (ret : Int) : (q.write w ret).Located [] := by
  unfold Writings.write Writings.hand
  by_cases hack : w.code = MEDIA_PARCEL_SEND_ACK
  · rw [if_pos hack, if_pos hack]
    have hnew : w ∉ q.sentq := by
      intro hm
      have := h.nodup
      simp only [kept, List.append_assoc, List.nodup_append] at this
      exact this.2.1.2.2 w hm w (by simp) rfl
    split
    · refine h.move ?_ rfl rfl ?_ (by simpa [cancel] using h.parcels)
      · simp [kept, answered, cancel, List.erase_append_right _ hnew]
      · intro v hv
        rcases (show v = w ∨ v ∈ q.sentq ++ q.answered by
            simp only [cancel, answered, List.erase_append_right _ hnew, List.erase_cons_head, List.append_nil,
              List.map_append, List.map_cons, List.map_nil, List.mem_append, List.mem_singleton] at hv ⊢
            tauto) with rfl | hv
        · exact hack
        · exact h.acks v hv
    · refine h.move ?_ rfl rfl ?_ h.parcels
      · simp only [kept, answered, List.append_nil, List.append_assoc]
        exact List.Perm.append_left _ (List.Perm.append_left _ List.perm_append_comm)
      · intro v hv
        rcases (show v = w ∨ v ∈ q.sentq ++ q.answered by
            simp only [answered, List.mem_append, List.mem_singleton] at hv ⊢
            tauto) with rfl | hv
        · exact hack
        · exact h.acks v hv
  · rw [if_neg hack, if_neg hack]
    split <;> exact h.drop hack rfl rfl rfl rfl rfl rfl

private theorem cancel (h : q.Located []) (hw : w ∈ q.sentq) : (q.cancel w).Located [] := by
  refine h.move ?_ rfl rfl ?_ (by simpa [Writings.cancel] using h.parcels)
  · rw [List.perm_iff_count]
    intro v
    have hcount := (List.perm_cons_erase hw).count_eq v
    simp only [kept, answered, Writings.cancel, List.map_append, List.map_cons, List.map_nil, List.append_nil,
      List.count_append, List.count_cons, List.count_nil] at hcount ⊢
    omega
  · intro v hv
    simp only [answered, Writings.cancel, List.map_append, List.map_cons, List.map_nil, List.mem_append,
      List.mem_singleton] at hv
    rcases hv with hv | hv | rfl
    · exact h.acks v (List.mem_append_left _ (List.mem_of_mem_erase hv))
    · exact h.acks v (List.mem_append_right _ hv)
    · exact h.acks v (List.mem_append_left _ hw)

private theorem answer (h : q.Located []) (hw : q.sentq.head? = some w) (parcel : Nat) :
    (q.answer w parcel).Located [] := by
  obtain ⟨rest, hrest⟩ := List.head?_eq_some_iff.1 hw
  refine h.move ?_ rfl rfl ?_ (by simp [Writings.answer, h.parcels])
  · rw [List.perm_iff_count]
    intro v
    simp only [kept, answered, Writings.answer, hrest, List.tail_cons, List.map_append, List.map_cons, List.map_nil,
      List.append_nil, List.count_append, List.count_cons, List.count_nil]
    omega
  · intro v hv
    refine h.acks v ?_
    simp only [answered, Writings.answer, hrest, List.tail_cons, List.map_append, List.map_cons, List.map_nil,
      List.mem_append, List.mem_cons, List.not_mem_nil, or_false] at hv ⊢
    tauto

private theorem clear (h : q.Located [])
    (hnone : ∀ w ∈ q.sentq ++ q.pendq, w.code ≠ MEDIA_PARCEL_SEND_ACK) : q.clear.Located [] := by
  have hkept : q.clear.kept [] = q.answered := by simp [kept, answered, Writings.clear]
  have hsub : q.answered.Sublist (q.kept []) := by simp [kept]
  refine ⟨fun v hv => h.fresh v ?_, ?_, fun v hv => h.acks v (List.mem_append_right _ hv), fun v hv => ?_, h.parcels⟩
  · rw [hkept] at hv
    rcases List.mem_append.1 hv with hv | hv
    · exact List.mem_append_left _ (hsub.subset hv)
    · exact List.mem_append_right _ hv
  · rw [hkept]
    exact h.nodup.sublist hsub
  · rw [hkept]
    refine (h.located v hv).trans ⟨fun hm => ?_, fun hm => hsub.subset hm⟩
    simp only [kept, List.append_nil, List.mem_append] at hm
    rcases hm with (hm | hm) | hm
    · exact absurd hv (hnone v (List.mem_append_right _ hm))
    · exact absurd hv (hnone v (List.mem_append_left _ hm))
    · exact hm

/-- A step that meets the condition. -/
theorem step (h : s.writings.Located []) (hg : RequestsKept s (i, o)) {q : Writings} (hq : WritingsStep s o i q) :
    q.Located [] := by
  cases hq with
  | mark => exact ⟨h.fresh, h.nodup, h.acks, h.located, h.parcels⟩
  | pend ack => exact (h.accept rfl 0 fun _ => Int.le_refl 0).pend
  | send ack hcpu hwriting hflags =>
    refine (h.accept rfl o.write fun hcode => hg.2 ⟨?_, hcpu, hwriting, hflags⟩).write _
    cases ack with
    | true => rfl
    | false => exact absurd (show MEDIA_PARCEL_SEND = MEDIA_PARCEL_SEND_ACK from hcode) (by decide)
  | notify i w responsed hcpu hid hcode =>
    have h' : ({ s.writings with responsed } : Writings).Located [] :=
      ⟨h.fresh, h.nodup, h.acks, h.located, h.parcels⟩
    have hnew := h'.accept hid (-1) fun hack => absurd (hcode.symm.trans hack) (by decide)
    exact hnew.write _
  | clear i hclears => exact h.clear (hg.1 hclears)
  | deliver w hs hw =>
    have hmoved : ({ s.writings with pendq := s.writings.pendq.erase w } : Writings).Located [w] := by
      refine h.move ?_ rfl rfl h.acks h.parcels
      rw [List.perm_iff_count]
      intro v
      have hcount := (List.perm_cons_erase hw).count_eq v
      simp only [kept, answered, List.append_nil, List.count_append, List.count_cons, List.count_nil] at hcount ⊢
      omega
    exact hmoved.write _
  | cancel pipe w status hstatus hcode => exact h.cancel (hg.2 ⟨hstatus, hcode⟩)
  | answer pipe parcel w hepipe hw => exact h.answer hw parcel

end Writings.Located

/-! ### When the proxy is gone or out of servers -/

/-- What says whether the proxy still takes messages. -/
structure UvControl where
  cpu : Option String
  cpus : List String
  exhausted : Bool
  released : Bool
  disconnect : Bool
  aborted : Bool

def MediaProxyPriv.control (s : MediaProxyPriv) : UvControl :=
  ⟨s.cpu, s.cpus, s.exhausted, s.released, s.flags.disconnect, s.aborted⟩

/-- The assertion of `media_uv_handle_parcel` fails. -/
def FailsAssert (s : MediaProxyPriv) : UvInput → Prop
  | .parcel pipe _ => s.epipe ≠ some pipe ∧ s.writings.sentq = []
  | _ => False

def Writings.Empty (q : Writings) : Prop := q.pendq = [] ∧ q.sentq = []

/-- The ways in which a step changes the control of a proxy, where `fails` says whether the assertion fails. -/
inductive ControlStep (t : UvControl) (q : Writings) (fails : Prop) : UvControl → Prop
  | same : ControlStep t q fails t
  | next (cpu : String) (cpus : List String) :
      t.cpus = cpu :: cpus → ControlStep t q fails { t with cpu := some cpu, cpus }
  | exhaust : t.cpus = [] → q.Empty → ControlStep t q fails { t with cpu := none, exhausted := true }
  | disconnect : ControlStep t q fails { t with disconnect := true }
  | release : q.Empty → ControlStep t q fails { t with disconnect := true, released := true }
  | abort : fails → ControlStep t q fails { t with aborted := true }

private theorem mediaUvWriteCb_control (s : MediaProxyPriv) (w : MediaWritePriv) (ret : Int) :
    (mediaUvWriteCb s w ret).control = s.control := by
  unfold mediaUvWriteCb
  split
  · rfl
  · split <;> rfl

private theorem mediaUvSendWriting_control (s : MediaProxyPriv) (w : MediaWritePriv) (ret : Int) :
    (mediaUvSendWriting s w ret).control = s.control := by
  unfold mediaUvSendWriting
  split
  · rfl
  · dsimp only
    split
    · exact mediaUvWriteCb_control ..
    · rfl

theorem mediaUvConnectOne_control (c : UvConfig) (s : MediaProxyPriv) (o : Outcome) :
    (mediaUvConnectOne c s o).2.control = s.control := by
  unfold mediaUvConnectOne
  split_ifs
  · rfl
  · rfl
  · dsimp only
    split
    · rfl
    · split <;> rfl

private theorem closeCpipe_control (s : MediaProxyPriv) : (closeCpipe s).control = s.control := by
  unfold closeCpipe
  split <;> rfl

private theorem mediaUvShutdown_control (s : MediaProxyPriv) (o : Outcome) :
    (mediaUvShutdown s o).control = s.control := by
  unfold mediaUvShutdown
  split
  · rfl
  · split
    · rfl
    · split <;> rfl

private theorem mediaUvCreateNotify_control (s : MediaProxyPriv) (o : Outcome) :
    (mediaUvCreateNotify s o).2.control = s.control := by
  unfold mediaUvCreateNotify
  split
  · rfl
  · exact mediaUvSendWriting_control ..

private theorem mediaUvListenOne_control (c : UvConfig) (s : MediaProxyPriv) (o : Outcome) :
    (mediaUvListenOne c s o).2.control = s.control := by
  unfold mediaUvListenOne
  simp only [callOnListen_eq]
  split
  · rfl
  · split
    · rfl
    · split_ifs
      · rfl
      · rfl
      · exact mediaUvCreateNotify_control ..
      · exact mediaUvCreateNotify_control ..

private theorem mediaUvListenOneCb_control (s : MediaProxyPriv) (server : Nat) (status : Int) (o : Outcome) :
    (mediaUvListenOneCb s server status o).control = s.control := by
  unfold mediaUvListenOneCb
  simp only [callOnListen_eq]
  split_ifs <;> rfl

private theorem mediaUvReconnectOne_control (c : UvConfig) {s t : MediaProxyPriv} (o : Outcome) {fails : Prop}
    (ht : t.control = s.control) :
    ControlStep s.control (mediaUvReconnectOne c t o).writings fails (mediaUvReconnectOne c t o).control := by
  rw [← ht]
  unfold mediaUvReconnectOne
  split
  · rename_i hcpus
    exact .exhaust hcpus ⟨rfl, rfl⟩
  · rename_i cpu cpus hcpus
    have hkept := (mediaUvConnectOne_control c _ o).trans (closeCpipe_control { t with cpu := some cpu, cpus })
    have hnext : ∀ q, ControlStep t.control q fails
        (mediaUvConnectOne c (closeCpipe { t with cpu := some cpu, cpus }) o).2.control := by
      intro q
      rw [hkept]
      exact .next cpu cpus hcpus
    dsimp only
    split
    · exact hnext _
    · exact hnext _

private theorem mediaUvFreeProxy_control (s : MediaProxyPriv) :
    (mediaUvFreeProxy s).control = s.control ∨
      s.flags.disconnect = true ∧ (mediaUvFreeProxy s).writings.Empty ∧
        (mediaUvFreeProxy s).control = { s.control with released := true } := by
  unfold mediaUvFreeProxy
  split
  · exact .inl rfl
  · split
    · rename_i hdisconnect
      dsimp only
      split <;> exact .inr ⟨hdisconnect, ⟨rfl, rfl⟩, rfl⟩
    · exact .inl rfl

private theorem runFrame_control {f : UvFrame} {stack : List UvFrame} {fails : Prop} :
    ControlStep s.control (runFrame c { s with stack } o f).writings fails
      (runFrame c { s with stack } o f).control := by
  cases f with
  | handleParcel writing pipe =>
    simp only [runFrame]
    split_ifs
    · rw [mediaUvListenOne_control]
      exact .same
    · exact .same
    · exact .same
  | applyWritings pipe =>
    simp only [runFrame]
    split <;> exact .same
  | applyQuit pipe =>
    simp only [runFrame]
    split_ifs
    · exact .same
    · exact mediaUvReconnectOne_control c o rfl
    · exact .same
  | deliveryLoop writing =>
    cases writing with
    | none => exact .same
    | some w =>
      simp only [runFrame, mediaUvDeliveryLoop]
      split_ifs
      · rw [mediaUvSendWriting_control]
        exact .same
      · exact .same
  | restoreFlags flags =>
    simp only [runFrame]
    cases hf : flags.disconnect with
    | false =>
      have hsame : ({ s with stack, flags := s.flags ||| flags } : MediaProxyPriv).control = s.control := by
        simp [MediaProxyPriv.control, OrOp.or, HOr.hOr, hf]
      rw [hsame]
      exact .same
    | true =>
      have hset : ({ s with stack, flags := s.flags ||| flags } : MediaProxyPriv).control =
          { s.control with disconnect := true } := by
        simp [MediaProxyPriv.control, OrOp.or, HOr.hOr, hf]
      rw [hset]
      exact .disconnect
  | readStart =>
    simp only [runFrame]
    split <;> exact .same
  | user | writeCb | deliveryWriting | close | freeProxy => exact .same

/-- A step changes the control in one of the ways of `ControlStep`. -/
theorem uvStep_control (c : UvConfig) (s : MediaProxyPriv) (o : Outcome) (i : UvInput) :
    ControlStep s.control (uvStep c s o i).writings (FailsAssert s i) (uvStep c s o i).control := by
  cases i with
  | send ack =>
    simp only [uvStep, mediaUvSend]
    split_ifs
    · exact .same
    · exact .same
    · exact .same
    · unfold mediaUvQueueWriting
      split
      · rw [mediaUvSendWriting_control]
        exact .same
      · exact .same
  | listen onListen =>
    simp only [uvStep, mediaUvListen]
    split_ifs
    · exact .same
    · rw [mediaUvListenOne_control]
      exact .same
    · exact .same
  | reconnect =>
    simp only [uvStep, mediaUvReconnect]
    split_ifs
    · exact .same
    · exact mediaUvReconnectOne_control c o rfl
    · exact .same
  | disconnect onRelease =>
    simp only [uvStep, mediaUvDisconnect]
    have hfree : ∀ t : MediaProxyPriv, t.control = { s.control with disconnect := true } →
        ControlStep s.control (mediaUvFreeProxy t).writings False (mediaUvFreeProxy t).control := by
      intro t ht
      rcases mediaUvFreeProxy_control t with hsame | ⟨-, hempty, hreleased⟩
      · rw [hsame, ht]
        exact .disconnect
      · rw [hreleased, ht]
        exact .release hempty
    split_ifs
    · exact .same
    · refine hfree _ ?_
      have hshut := mediaUvShutdown_control { s with onRelease } o
      simp only [MediaProxyPriv.control, UvControl.mk.injEq] at hshut ⊢
      tauto
    · exact hfree _ rfl
  | run =>
    simp only [uvStep]
    split
    · exact .same
    · split
      · exact .same
      · exact runFrame_control
  | connectCb pipe status =>
    simp only [uvStep, mediaUvConnectOneCb]
    split_ifs with hdisconnect hneg hneg
    · exact .same
    · exact absurd (show -ECANCELED < 0 by decide) hneg
    · exact .same
    · -- the flags are cleared, but `MEDIA_PROXYFLAG_DISCONNECT` was not set
      have hclear : s.flags.disconnect = false := by
        simpa [MediaProxyPriv.modifyPipe, Int.not_lt.1 hneg] using hdisconnect
      show ControlStep s.control s.writings False ⟨s.cpu, s.cpus, s.exhausted, s.released, false, s.aborted⟩
      rw [← hclear]
      exact .same
  | writeCb pipe writing status =>
    simp only [uvStep]
    rw [mediaUvWriteCb_control]
    exact .same
  | parcel pipe parcel =>
    simp only [uvStep, mediaUvHandleParcel]
    split
    · exact .same
    · rename_i hepipe
      split
      · rename_i hsentq
        exact .abort ⟨hepipe, hsentq⟩
      · exact .same
  | readErr pipe => exact .same
  | listenCb pipe status =>
    simp only [uvStep]
    rw [mediaUvListenOneCb_control]
    exact .same
  | shutdownCb pipe => exact .same
  | closeCb pipe =>
    have hfree : ∀ t : MediaProxyPriv, t.control = s.control →
        ControlStep s.control (mediaUvFreeProxy t).writings False (mediaUvFreeProxy t).control := by
      intro t ht
      rcases mediaUvFreeProxy_control t with hsame | ⟨hdisconnect, hempty, hreleased⟩
      · rw [hsame, ht]
        exact .same
      · have hset : s.control = { s.control with disconnect := true } := by
          rw [← ht, ← hdisconnect]
          rfl
        rw [hreleased, ht, hset]
        exact .release hempty
    simp only [uvStep, mediaUvCloseCb]
    split_ifs <;> exact hfree _ rfl

/-- A proxy that is gone or out of servers takes no message and has none. -/
structure UvSettled (t : UvControl) (q : Writings) : Prop where
  spent : t.cpu = none → t.cpus = []
  refuses : t.released = true ∨ t.exhausted = true → t.cpu = none ∨ t.disconnect = true
  empty : t.released = true ∨ t.exhausted = true → q.Empty

/-- Empty queues stay empty when the proxy takes no message. -/
private theorem WritingsStep.empty {q : Writings} (h : WritingsStep s o i q) (hempty : s.writings.Empty)
    (hrefuses : s.control.cpu = none ∨ s.control.disconnect = true) : q.Empty := by
  obtain ⟨hpendq, hsentq⟩ := hempty
  cases h with
  | mark => exact ⟨hpendq, hsentq⟩
  | pend ack hcpu hdisconnect hflags =>
    rcases hrefuses with hnone | hset
    · simp [show s.cpu = none from hnone] at hcpu
    · exact absurd (hdisconnect.symm.trans hset) (by decide)
  | send ack hcpu hwriting hflags =>
    rcases hrefuses with hnone | hset
    · simp [show s.cpu = none from hnone] at hcpu
    · exact absurd ((congrArg ProxyFlags.disconnect hflags).symm.trans hset) (by decide)
  | notify i w responsed hcpu hid hcode =>
    have hack : w.code ≠ MEDIA_PARCEL_SEND_ACK := by
      rw [hcode]
      decide
    unfold Writings.write Writings.hand
    rw [if_neg hack, if_neg hack]
    split <;> exact ⟨hpendq, hsentq⟩
  | clear => exact ⟨rfl, rfl⟩
  | deliver w hs hw => simp [hpendq] at hw
  | cancel pipe w status hstatus hcode => exact ⟨hpendq, by simp [Writings.cancel, hsentq]⟩
  | answer pipe parcel w hepipe hw => simp [hsentq] at hw

theorem UvSettled.step (h : UvSettled s.control s.writings) {t : UvControl} {q : Writings} {fails : Prop}
    (hw : WritingsStep s o i q) (ht : ControlStep s.control q fails t) : UvSettled t q := by
  have hempty : s.control.released = true ∨ s.control.exhausted = true → q.Empty :=
    fun hclosed => hw.empty (h.empty hclosed) (h.refuses hclosed)
  cases ht with
  | same => exact ⟨h.spent, h.refuses, hempty⟩
  | next cpu cpus hcpus =>
    have hcpu : s.control.cpu ≠ none := fun hnone => by simp [h.spent hnone] at hcpus
    exact ⟨nofun, fun hclosed => .inr ((h.refuses hclosed).resolve_left hcpu), hempty⟩
  | exhaust hcpus hq => exact ⟨fun _ => hcpus, fun _ => .inl rfl, fun _ => hq⟩
  | disconnect => exact ⟨h.spent, fun _ => .inr rfl, hempty⟩
  | release hq => exact ⟨h.spent, fun _ => .inr rfl, fun _ => hq⟩
  | abort => exact ⟨h.spent, h.refuses, hempty⟩

/-! ### The runs -/

/-- What every step that meets the condition keeps. -/
structure UvRequests (s : MediaProxyPriv) : Prop where
  located : s.writings.Located []
  settled : UvSettled s.control s.writings

theorem UvRequests.answeredOnce (h : UvRequests s) : AnsweredOnce s where
  once := h.located.nodup.sublist (by simp [Writings.kept])
  accepted w hw := by
    refine (h.located.located w (h.located.acks w (List.mem_append_right _ hw))).2 ?_
    simp [Writings.kept, hw]
  settled hclosed w hw hcode := by
    obtain ⟨hpendq, hsentq⟩ := h.settled.empty hclosed
    simpa [Writings.kept, hpendq, hsentq] using (h.located.located w hcode).1 hw
  parcels := h.located.parcels

theorem UvRequests.next (h : UvRequests s) (hg : RequestsKept s (i, o)) (hn : uvNext c s (i, o) = some s') :
    UvRequests s' := by
  obtain ⟨-, ⟨fault, rfl⟩ | ⟨rfl, hfault⟩⟩ := uvNext_cases hn
  · exact ⟨h.located, h.settled⟩
  · have hw := uvStep_writings hfault
    exact ⟨h.located.step hg hw, h.settled.step hw (uvStep_control c s o i)⟩

theorem uvRequests_start (c : UvConfig) (cpu : String) (cpus : List String) :
    UvRequests (mediaUvConnect c cpu cpus {}) := by
  have hcontrol := mediaUvConnectOne_control c { cpu := some cpu, cpus } {}
  have hwritings := mediaUvConnectOne_writings c { cpu := some cpu, cpus } {}
  refine ⟨?_, ?_⟩
  · unfold mediaUvConnect
    rw [hwritings]
    exact ⟨by simp [Writings.kept, Writings.answered], by simp [Writings.kept, Writings.answered],
      by simp [Writings.answered], by simp [Writings.kept, Writings.answered], rfl⟩
  · unfold mediaUvConnect
    rw [hcontrol]
    exact ⟨nofun, by simp [MediaProxyPriv.control], by simp [MediaProxyPriv.control]⟩

/-- In every run in which no queued request is cleared, `uv_write` takes the requests that `media_uv_send` writes
itself, and no failed write is reported for a request that has its answer, every accepted request is answered once. -/
theorem uvRun_answeredOnce {cpu : String} {cpus : List String}
    (h : (uvMachine c cpu cpus).ReachableVia RequestsKept s) : AnsweredOnce s := by
  have hrequests : UvRequests s := by
    refine h.invariant (uvRequests_start c cpu cpus) ?_
    rintro s ⟨i, o⟩ s' hs hg hn
    exact hs.next hg hn
  exact hrequests.answeredOnce

/-! ### A run that meets the condition, and two that do not -/

instance (s : MediaProxyPriv) : (i : UvInput × Outcome) → Decidable (RequestsKept s i)
  | (.send _, _) | (.writeCb _ _ _, _) => inferInstanceAs (Decidable ((_ → ∀ _ ∈ _, _) ∧ (_ → _)))
  | (.run, _) | (.listen _, _) | (.reconnect, _) | (.disconnect _, _) | (.connectCb _ _, _) | (.parcel _ _, _)
  | (.readErr _, _) | (.listenCb _ _, _) | (.shutdownCb _, _) | (.closeCb _, _) =>
    inferInstanceAs (Decidable ((_ → ∀ _ ∈ _, _) ∧ True))

instance (s : MediaProxyPriv) : Decidable (AnsweredOnce s) :=
  decidable_of_iff (_ ∧ _ ∧ _ ∧ _) ⟨fun h => ⟨h.1, h.2.1, h.2.2.1, h.2.2.2⟩, fun h => ⟨h.1, h.2, h.3, h.4⟩⟩

def sampleUvConfig : UvConfig := ⟨"ap", false⟩

/-- The state after the inputs, with library calls that succeed, if every step meets the condition. -/
def sampleUvRunFrom (g : MediaProxyPriv → UvInput × Outcome → Prop) [∀ s i, Decidable (g s i)] (cpus : List String)
    (inputs : List UvInput) : Option MediaProxyPriv :=
  (uvMachine sampleUvConfig "ap" cpus).runFrom g (uvMachine sampleUvConfig "ap" cpus).start
    (inputs.map fun i => (i, {}))

/-- `count` continuations run. -/
def sampleUvSteps (count : Nat) : List UvInput := List.replicate count .run

/-- A proxy is connected and has had the reply to the request sent in `on_connect`. -/
def sampleUvConnected : List UvInput :=
  [UvInput.connectCb 0 0, .send true] ++ sampleUvSteps 2 ++ [UvInput.parcel 0 7] ++ sampleUvSteps 6

/-- A request has its reply, another one is written in vain, and the proxy is released. -/
def sampleUvRun : MediaProxyPriv :=
  (sampleUvRunFrom RequestsKept []
    (sampleUvConnected ++
      [UvInput.send true, .writeCb 0 ⟨1, MEDIA_PARCEL_SEND_ACK, false, false⟩ (-32)] ++ sampleUvSteps 2 ++
      [UvInput.disconnect true, .writeCb 0 ⟨0, MEDIA_PARCEL_SEND_ACK, true, false⟩ 0, .shutdownCb 0, .closeCb 0] ++
      sampleUvSteps 2)).get (by decide)

theorem uvRun_answeredOnce_sample : AnsweredOnce sampleUvRun := by
  have h : (uvMachine sampleUvConfig "ap" []).ReachableVia RequestsKept sampleUvRun :=
    Machine.reachableVia_get (by decide)
  exact uvRun_answeredOnce h

/-- A request is queued while the proxy is connected to its only server, which turns the client away. -/
def sampleUvDroppedRun : MediaProxyPriv :=
  (sampleUvRunFrom (fun _ _ => True) []
    ([UvInput.send true, .connectCb 0 0, .send true] ++ sampleUvSteps 2 ++ [UvInput.parcel 0 7, .reconnect] ++
      sampleUvSteps 4)).get (by decide)

/-- Without the condition an accepted request can be left without an answer. -/
theorem uvRun_not_answeredOnce : ¬ ∀ (c : UvConfig) (cpu : String) (cpus : List String) (s : MediaProxyPriv),
    (uvMachine c cpu cpus).Reachable s → AnsweredOnce s := by
  intro h
  have hanswered := h sampleUvConfig "ap" [] sampleUvDroppedRun (Machine.reachableVia_get (by decide))
  revert hanswered
  decide

end MediaFramework
