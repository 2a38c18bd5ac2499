import MediaFramework.Client.MediaUv

/-!
# What a step does to the writings

Every step of a proxy changes its writings in one of a few ways, which `WritingsStep` lists with the conditions under
which the code takes them.  The invariants about queues and histories follow from this list.
-/

namespace MediaFramework

variable {c : UvConfig} {s s' : MediaProxyPriv} {o : Outcome} {i : UvInput} {w : MediaWritePriv} {q : Writings}

def Writings.next (q : Writings) : Writings := { q with nextId := q.nextId + 1 }

/-- What `media_uv_send_writing` does to the order of the messages. -/
theorem Writings.write_kept (q : Writings) (w : MediaWritePriv) (ret : Int) :
    (q.write w ret).handed = q.handed ++ [w] ∧ (q.write w ret).pendq = q.pendq ∧
      (q.write w ret).accepted = q.accepted ∧ (q.write w ret).nextId = q.nextId := by
  unfold Writings.write Writings.hand
  split_ifs <;> exact ⟨rfl, rfl, rfl, rfl⟩

/-- The writing that `media_uv_send` makes. -/
def newWriting (s : MediaProxyPriv) (ack : Bool) : MediaWritePriv :=
  (mediaUvAllocWriting s (sendCode ack)).1

/-- The step runs `media_uv_clear_queue`. -/
def ClearsQueue (s : MediaProxyPriv) : UvInput → Prop
  | .reconnect => s.epipe = none ∧ s.flags = 0 ∧ s.cpus = []
  | .disconnect _ => s.flags.disconnect = false ∧ s.cpipe = none ∧ s.epipe = none
  | .run =>
    (s.stack.head?.any fun f => f matches .applyQuit _) = true ∧ s.flags.disconnect = false ∧
      s.flags.reconnect = true ∧ s.cpus = []
  | .closeCb pipe =>
    s.flags.disconnect = true ∧ (s.cpipe = none ∨ s.cpipe = some pipe) ∧ (s.epipe = none ∨ s.epipe = some pipe)
  | _ => False

instance : ∀ i, Decidable (ClearsQueue s i)
  | .reconnect | .disconnect _ | .run | .closeCb _ => inferInstanceAs (Decidable (_ ∧ _))
  | .send _ | .listen _ | .connectCb _ _ | .writeCb _ _ _ | .parcel _ _ | .readErr _ | .listenCb _ _
  | .shutdownCb _ => isFalse id

/-- The ways in which a step that does not go wrong changes the writings. -/
inductive WritingsStep (s : MediaProxyPriv) (o : Outcome) : UvInput → Writings → Prop
  | mark (i : UvInput) (written responsed : List Nat) :
      WritingsStep s o i { s.writings with written, responsed }
  | pend (ack : Bool) : s.cpu.isSome → s.flags.disconnect = false → s.flags ≠ 0 →
      WritingsStep s o (.send ack) ((s.writings.next.accept (newWriting s ack) 0).pend (newWriting s ack))
  | send (ack : Bool) : s.cpu.isSome → o.writing = true → s.flags = 0 →
      WritingsStep s o (.send ack)
        ((s.writings.next.accept (newWriting s ack) o.write).write (newWriting s ack) o.write)
  | notify (i : UvInput) (w : MediaWritePriv) (responsed : List Nat) : s.cpu.isSome → w.id = s.writings.nextId →
      w.code = MEDIA_PARCEL_CREATE_NOTIFY →
      WritingsStep s o i (({ s.writings with responsed }.next).write w o.write)
  | clear (i : UvInput) : ClearsQueue s i → WritingsStep s o i s.writings.clear
  | deliver (w : MediaWritePriv) : s.stack.head? = some (.deliveryLoop (some w)) → w ∈ s.writings.pendq →
      WritingsStep s o .run ({ s.writings with pendq := s.writings.pendq.erase w }.write w o.write)
  | cancel (pipe : Nat) (w : MediaWritePriv) (status : Int) : status < 0 → w.code = MEDIA_PARCEL_SEND_ACK →
      WritingsStep s o (.writeCb pipe w status) (s.writings.cancel w)
  | answer (pipe parcel : Nat) (w : MediaWritePriv) : s.epipe ≠ some pipe → s.writings.sentq.head? = some w →
      WritingsStep s o (.parcel pipe parcel) (s.writings.answer w parcel)

theorem WritingsStep.keep (s : MediaProxyPriv) (o : Outcome) (i : UvInput) : WritingsStep s o i s.writings :=
  .mark i s.writings.written s.writings.responsed

/-! ### The functions -/

private theorem mediaUvWriteCb_writings {ret : Int} (h : (mediaUvWriteCb s w ret).fault = none) :
    (mediaUvWriteCb s w ret).writings =
      if ret < 0 ∧ w.code = MEDIA_PARCEL_SEND_ACK then s.writings.cancel w else s.writings.setWritten w := by
  unfold mediaUvWriteCb at h ⊢
  split at h
  · cases h
  · rename_i hfreed
    rw [if_neg hfreed]
    split <;> rfl

theorem mediaUvSendWriting_writings {ret : Int} (h : (mediaUvSendWriting s w ret).fault = none) :
    (mediaUvSendWriting s w ret).writings = s.writings.write w ret := by
  unfold mediaUvSendWriting at h ⊢
  split at h
  · cases h
  · dsimp only at h ⊢
    unfold Writings.write
    split at h
    · rename_i hret
      rw [if_pos hret, if_pos hret, mediaUvWriteCb_writings h]
      simp only [hret, true_and]
    · rename_i hret
      rw [if_neg hret, if_neg hret]
      rfl

/-- `on_listen` is called, if there is one, before `frames`. -/
def listenFrames (s : MediaProxyPriv) (ret : Int) (frames : List UvFrame) : List UvFrame :=
  if s.onListen then .user (.onListen ret) :: frames else frames

theorem callOnListen_eq (s : MediaProxyPriv) (ret : Int) (frames : List UvFrame) :
    callOnListen s ret frames = s.push (listenFrames s ret frames) := by
  unfold callOnListen listenFrames
  split <;> rfl

private theorem mediaUvCreateNotify_writings (h : (mediaUvCreateNotify s o).2.fault = none) :
    (mediaUvCreateNotify s o).2.writings = s.writings ∨
      (mediaUvCreateNotify s o).2.writings =
        s.writings.next.write (mediaUvAllocWriting s MEDIA_PARCEL_CREATE_NOTIFY).1 o.write := by
  unfold mediaUvCreateNotify at h ⊢
  split at h
  · rename_i hwriting
    rw [if_pos hwriting]
    exact .inl rfl
  · rename_i hwriting
    rw [if_neg hwriting]
    exact .inr (mediaUvSendWriting_writings h)

theorem mediaUvListenOne_writings (h : (mediaUvListenOne c s o).2.fault = none) :
    (mediaUvListenOne c s o).2.writings = s.writings ∨
      s.cpu.isSome ∧ (mediaUvListenOne c s o).2.writings =
        s.writings.next.write (mediaUvAllocWriting s MEDIA_PARCEL_CREATE_NOTIFY).1 o.write := by
  unfold mediaUvListenOne at h ⊢
  simp only [callOnListen_eq] at h ⊢
  cases hcpu : s.cpu with
  | none =>
    simp only [hcpu] at h ⊢
    split_ifs at h ⊢
    · exact .inl rfl
    · cases h
  | some cpu =>
    simp only [hcpu] at h ⊢
    split_ifs at h ⊢
    · exact .inl rfl
    · exact .inl rfl
    · exact .inl rfl
    · exact (mediaUvCreateNotify_writings h).imp_right fun hw => ⟨rfl, hw⟩
    · exact (mediaUvCreateNotify_writings h).imp_right fun hw => ⟨rfl, hw⟩

theorem mediaUvFreeProxy_writings (s : MediaProxyPriv) :
    (mediaUvFreeProxy s).writings = s.writings ∨
      s.cpipe = none ∧ s.epipe = none ∧ s.flags.disconnect = true ∧
        (mediaUvFreeProxy s).writings = s.writings.clear := by
  unfold mediaUvFreeProxy
  split
  · exact .inl rfl
  · rename_i hpipes
    simp only [Bool.or_eq_true, Option.isSome_iff_ne_none, not_or, not_not] at hpipes
    split
    · rename_i hdisconnect
      refine .inr ⟨hpipes.1, hpipes.2, hdisconnect, ?_⟩
      dsimp only
      split <;> rfl
    · exact .inl rfl

private theorem mediaUvShutdown_kept (s : MediaProxyPriv) (o : Outcome) :
    (mediaUvShutdown s o).writings = s.writings ∧ (mediaUvShutdown s o).cpipe = s.cpipe ∧
      (mediaUvShutdown s o).epipe = s.epipe := by
  unfold mediaUvShutdown
  split
  · exact ⟨rfl, rfl, rfl⟩
  · split
    · exact ⟨rfl, rfl, rfl⟩
    · split <;> exact ⟨rfl, rfl, rfl⟩

theorem mediaUvConnectOne_writings (c : UvConfig) (s : MediaProxyPriv) (o : Outcome) :
    (mediaUvConnectOne c s o).2.writings = s.writings := by
  unfold mediaUvConnectOne
  split
  · rfl
  · split
    · rfl
    · dsimp only
      split
      · rfl
      · split <;> rfl

private theorem closeCpipe_writings (s : MediaProxyPriv) : (closeCpipe s).writings = s.writings := by
  unfold closeCpipe
  split <;> rfl

theorem mediaUvReconnectOne_writings (c : UvConfig) (s : MediaProxyPriv) (o : Outcome) :
    (mediaUvReconnectOne c s o).writings = if s.cpus = [] then s.writings.clear else s.writings := by
  unfold mediaUvReconnectOne
  split
  · rename_i hcpus
    rw [if_pos hcpus]
    rfl
  · rename_i cpu cpus hcpus
    have hne : s.cpus ≠ [] := by simp [hcpus]
    simp only [hne, if_false]
    have hkept := (mediaUvConnectOne_writings c _ o).trans (closeCpipe_writings { s with cpu := some cpu, cpus })
    split
    · exact hkept
    · exact hkept

/-! ### The steps -/

private theorem runFrame_writings {f : UvFrame} {stack : List UvFrame} (hs : s.stack = f :: stack)
    (h : (runFrame c { s with stack } o f).fault = none) :
    WritingsStep s o .run (runFrame c { s with stack } o f).writings := by
  cases f with
  | user callback => exact .keep ..
  | writeCb writing => exact .mark ..
  | handleParcel writing pipe =>
    simp only [runFrame] at h ⊢
    split_ifs at h ⊢
    · rcases mediaUvListenOne_writings h with hw | ⟨hcpu, hw⟩
      · rw [hw]
        exact .mark ..
      · rw [hw]
        exact .notify _ _ _ hcpu rfl rfl
    · exact .mark ..
    · exact .mark ..
  | applyWritings pipe =>
    simp only [runFrame]
    split <;> exact .keep ..
  | applyQuit pipe =>
    simp only [runFrame]
    split
    · exact .keep ..
    · rename_i hdisconnect
      split
      · rename_i hreconnect
        rw [mediaUvReconnectOne_writings]
        split
        · rename_i hcpus
          refine .clear _ ⟨?_, by simpa using hdisconnect, hreconnect, hcpus⟩
          rw [hs]
          rfl
        · exact .keep ..
      · exact .keep ..
  | deliveryWriting => exact .keep ..
  | deliveryLoop writing =>
    cases writing with
    | none => exact .keep ..
    | some w =>
      simp only [runFrame, mediaUvDeliveryLoop] at h ⊢
      split_ifs at h ⊢ with hw
      · rw [mediaUvSendWriting_writings h]
        exact .deliver w (by rw [hs]; rfl) hw
      · cases h
  | close pipe => exact .keep ..
  | restoreFlags flags => exact .keep ..
  | readStart =>
    simp only [runFrame]
    split <;> exact .keep ..
  | freeProxy => exact .keep ..

/-- A step that does not go wrong changes the writings in one of the ways of `WritingsStep`. -/
theorem uvStep_writings (h : (uvStep c s o i).fault = none) : WritingsStep s o i (uvStep c s o i).writings := by
  cases i with
  | send ack =>
    simp only [uvStep, mediaUvSend] at h ⊢
    split_ifs at h ⊢ with hcpu hdisconnect hwriting
    · exact .keep ..
    · exact .keep ..
    · exact .keep ..
    · unfold mediaUvQueueWriting at h ⊢
      have hcpu := Option.isSome_iff_ne_none.2 hcpu
      split_ifs at h ⊢ with hflags
      · rw [mediaUvSendWriting_writings h]
        exact .send ack hcpu (by simpa using hwriting) hflags
      · exact .pend ack hcpu (by simpa using hdisconnect) hflags
  | listen onListen =>
    simp only [uvStep, mediaUvListen] at h ⊢
    split_ifs at h ⊢
    · exact .keep ..
    · rcases mediaUvListenOne_writings h with hw | ⟨hcpu, hw⟩
      · rw [hw]
        exact .keep ..
      · rw [hw]
        exact .notify _ _ s.writings.responsed hcpu rfl rfl
    · exact .keep ..
  | reconnect =>
    simp only [uvStep, mediaUvReconnect]
    split_ifs with hepipe hflags
    · exact .keep ..
    · dsimp only
      rw [mediaUvReconnectOne_writings]
      split
      · rename_i hcpus
        exact .clear _ ⟨by simpa using hepipe, hflags, hcpus⟩
      · exact .keep ..
    · exact .keep ..
  | disconnect onRelease =>
    simp only [uvStep, mediaUvDisconnect]
    split_ifs with hdisconnect hflags
    · exact .keep ..
    · obtain ⟨hw, hcpipe, hepipe⟩ := mediaUvShutdown_kept { s with onRelease } o
      rcases mediaUvFreeProxy_writings _ with hfree | ⟨hc, he, -, hfree⟩
      · rw [hfree, hw]
        exact .keep ..
      · rw [hfree, hw]
        exact .clear _ ⟨by simpa using hdisconnect, hcpipe ▸ hc, hepipe ▸ he⟩
    · rcases mediaUvFreeProxy_writings _ with hfree | ⟨hc, he, -, hfree⟩
      · rw [hfree]
        exact .keep ..
      · rw [hfree]
        exact .clear _ ⟨by simpa using hdisconnect, hc, he⟩
  | run =>
    simp only [uvStep] at h ⊢
    split at h
    · exact .keep ..
    · rename_i f stack hs
      split_ifs at h ⊢
      · cases h
      · exact runFrame_writings hs h
  | connectCb pipe status =>
    simp only [uvStep, mediaUvConnectOneCb]
    split_ifs <;> exact .keep ..
  | writeCb pipe writing status =>
    simp only [uvStep] at h ⊢
    rw [mediaUvWriteCb_writings h]
    split
    · rename_i hcancel
      exact .cancel pipe writing status hcancel.1 hcancel.2
    · exact .mark ..
  | parcel pipe parcel =>
    simp only [uvStep, mediaUvHandleParcel] at h ⊢
    split_ifs at h ⊢ with hepipe
    · exact .keep ..
    · split at h
      · exact .keep ..
      · rename_i w rest hsentq
        exact .answer pipe parcel w hepipe (by rw [hsentq]; rfl)
  | readErr pipe => exact .keep ..
  | listenCb pipe status =>
    simp only [uvStep, mediaUvListenOneCb]
    simp only [callOnListen_eq]
    split_ifs <;> exact .keep ..
  | shutdownCb pipe => exact .keep ..
  | closeCb pipe =>
    have hpipes : ∀ t : MediaProxyPriv, t.writings = s.writings → t.flags = s.flags →
        (t.cpipe = none → s.cpipe = none ∨ s.cpipe = some pipe) →
        (t.epipe = none → s.epipe = none ∨ s.epipe = some pipe) →
        WritingsStep s o (.closeCb pipe) (mediaUvFreeProxy t).writings := by
      intro t hw hflags hcpipe hepipe
      rcases mediaUvFreeProxy_writings t with hfree | ⟨hc, he, hd, hfree⟩
      · rw [hfree, hw]
        exact .keep ..
      · rw [hfree, hw]
        exact .clear _ ⟨hflags ▸ hd, hcpipe hc, hepipe he⟩
    simp only [uvStep, mediaUvCloseCb]
    split_ifs with hc he
    · exact hpipes _ rfl rfl (fun _ => .inr hc) .inl
    · exact hpipes _ rfl rfl .inl (fun _ => .inr he)
    · exact hpipes _ rfl rfl .inl .inl

/-! ### The queues without any condition -/

/-- No writing is queued twice, or queued again after it was handed over. -/
structure Writings.Distinct (q : Writings) : Prop where
  fresh : ∀ w ∈ q.pendq ++ q.sentq ++ q.handed, w.id < q.nextId
  nodup : (q.pendq ++ q.sentq).Nodup
  acks : ∀ w ∈ q.sentq, w.code = MEDIA_PARCEL_SEND_ACK
  pending : ∀ w ∈ q.handed, w ∉ q.pendq

namespace Writings.Distinct

private theorem accept (h : q.Distinct) (ret : Int) : (q.next.accept w ret).Distinct := by
  unfold Writings.accept
  split <;> exact ⟨fun v hv => Nat.lt_succ_of_lt (h.fresh v hv), h.nodup, h.acks, h.pending⟩

private theorem pend (h : q.Distinct) (hid : w.id < q.nextId) (hnew : w ∉ q.pendq ++ q.sentq ++ q.handed) :
    (q.pend w).Distinct := by
  simp only [List.mem_append, not_or] at hnew
  obtain ⟨⟨hpendq, hsentq⟩, hhanded⟩ := hnew
  refine ⟨fun v hv => ?_, ?_, h.acks, fun v hv hm => ?_⟩
  · have hv' : v ∈ q.pendq ++ q.sentq ++ q.handed ∨ v = w := by
      simp only [Writings.pend, List.mem_append, List.mem_singleton] at hv ⊢
      tauto
    rcases hv' with hv' | rfl
    · exact h.fresh v hv'
    · exact hid
  · have hperm : ((q.pend w).pendq ++ (q.pend w).sentq).Perm (w :: (q.pendq ++ q.sentq)) := by
      simp [Writings.pend]
    exact hperm.nodup_iff.2 (List.nodup_cons.2 ⟨by simp [hpendq, hsentq], h.nodup⟩)
  · simp only [Writings.pend, List.mem_append, List.mem_singleton] at hm
    rcases hm with hm | rfl
    · exact h.pending v hv hm
    · exact hhanded hv

private theorem write (h : q.Distinct) (hid : w.id < q.nextId) (hnew : w ∉ q.pendq ++ q.sentq) (ret : Int) :
    (q.write w ret).Distinct := by
  simp only [List.mem_append, not_or] at hnew
  obtain ⟨hpendq, hsentq⟩ := hnew
  obtain ⟨hhanded, hpendq', -, hnext⟩ := q.write_kept w ret
  have hsent : (q.write w ret).sentq = q.sentq ∨
      (q.write w ret).sentq = q.sentq ++ [w] ∧ w.code = MEDIA_PARCEL_SEND_ACK := by
    unfold Writings.write Writings.hand
    split_ifs with hret hack hack
    · left
      simp [Writings.cancel, List.erase_append_right _ hsentq]
    · exact .inl rfl
    · exact .inr ⟨rfl, hack⟩
    · exact .inl rfl
  refine ⟨fun v hv => ?_, ?_, fun v hv => ?_, fun v hv => ?_⟩
  · have hv' : v ∈ q.pendq ++ q.sentq ++ q.handed ∨ v = w := by
      rcases hsent with hsent | ⟨hsent, -⟩ <;>
        (simp only [hpendq', hsent, hhanded, List.mem_append, List.mem_singleton] at hv ⊢; tauto)
    rw [hnext]
    rcases hv' with hv' | rfl
    · exact h.fresh v hv'
    · exact hid
  · rw [hpendq']
    rcases hsent with hsent | ⟨hsent, -⟩ <;> rw [hsent]
    · exact h.nodup
    · have hperm : (q.pendq ++ (q.sentq ++ [w])).Perm (w :: (q.pendq ++ q.sentq)) := by
        rw [← List.append_assoc]
        exact List.perm_append_singleton ..
      exact hperm.nodup_iff.2 (List.nodup_cons.2 ⟨by simp [hpendq, hsentq], h.nodup⟩)
  · rcases hsent with hsent | ⟨hsent, hack⟩
    · exact h.acks v (hsent ▸ hv)
    · rw [hsent] at hv
      rcases List.mem_append.1 hv with hv | hv
      · exact h.acks v hv
      · rwa [List.mem_singleton.1 hv]
  · rw [hpendq']
    rw [hhanded] at hv
    rcases List.mem_append.1 hv with hv | hv
    · exact h.pending v hv
    · rwa [List.mem_singleton.1 hv]

theorem not_mem_of_fresh (h : q.Distinct) (hid : w.id = q.nextId) : w ∉ q.pendq ++ q.sentq ++ q.handed := by
  intro hm
  have := h.fresh w hm
  omega

theorem step (h : s.writings.Distinct) (hq : WritingsStep s o i q) : q.Distinct := by
  have haccept : ∀ (w : MediaWritePriv) ret, (s.writings.next.accept w ret).pendq = s.writings.pendq ∧
      (s.writings.next.accept w ret).sentq = s.writings.sentq ∧
      (s.writings.next.accept w ret).handed = s.writings.handed ∧
      (s.writings.next.accept w ret).nextId = s.writings.nextId + 1 := by
    intro w ret
    unfold Writings.accept
    split <;> exact ⟨rfl, rfl, rfl, rfl⟩
  cases hq with
  | mark => exact ⟨h.fresh, h.nodup, h.acks, h.pending⟩
  | pend ack =>
    obtain ⟨hpendq, hsentq, hhanded, hnext⟩ := haccept (newWriting s ack) 0
    have hnew := h.not_mem_of_fresh (w := newWriting s ack) rfl
    exact (h.accept 0).pend (by rw [hnext]; exact Nat.lt_succ_self _) (by rwa [hpendq, hsentq, hhanded])
  | send ack =>
    obtain ⟨hpendq, hsentq, -, hnext⟩ := haccept (newWriting s ack) o.write
    have hnew := h.not_mem_of_fresh (w := newWriting s ack) rfl
    refine (h.accept o.write).write (by rw [hnext]; exact Nat.lt_succ_self _) ?_ _
    rw [hpendq, hsentq]
    exact fun hm => hnew (List.mem_append_left _ hm)
  | notify i w responsed hcpu hid hcode =>
    have hnew := h.not_mem_of_fresh hid
    have h' : ({ s.writings with responsed }.next : Writings).Distinct :=
      ⟨fun v hv => Nat.lt_succ_of_lt (h.fresh v hv), h.nodup, h.acks, h.pending⟩
    refine h'.write ?_ (fun hm => hnew (List.mem_append_left _ hm)) _
    rw [hid]
    exact Nat.lt_succ_self _
  | clear i hclears =>
    refine ⟨fun v hv => h.fresh v ?_, by simp [Writings.clear], nofun, fun v _ => by simp [Writings.clear]⟩
    exact List.mem_append_right _ (by simpa [Writings.clear] using hv)
  | deliver w hs hw =>
    have hsub : (s.writings.pendq.erase w).Sublist s.writings.pendq := List.erase_sublist
    have hnodup := h.nodup
    simp only [List.nodup_append] at hnodup
    have h' : ({ s.writings with pendq := s.writings.pendq.erase w } : Writings).Distinct := by
      refine ⟨fun v hv => h.fresh v ?_, h.nodup.sublist (hsub.append_right _), h.acks,
        fun v hv hm => h.pending v hv (hsub.subset hm)⟩
      simp only [List.mem_append] at hv ⊢
      exact hv.imp_left (.imp_left (hsub.subset ·))
    refine h'.write (h.fresh w (by simp [hw])) (fun hm => ?_) _
    rcases List.mem_append.1 hm with hm | hm
    · exact (hnodup.1.not_mem_erase) hm
    · exact hnodup.2.2 w hw w hm rfl
  | cancel pipe w status hstatus hcode =>
    have hsub : (s.writings.sentq.erase w).Sublist s.writings.sentq := List.erase_sublist
    refine ⟨fun v hv => h.fresh v ?_, h.nodup.sublist (hsub.append_left _), fun v hv => h.acks v (hsub.subset hv),
      h.pending⟩
    simp only [Writings.cancel, List.mem_append] at hv ⊢
    exact hv.imp_left (.imp_right (hsub.subset ·))
  | answer pipe parcel w hepipe hw =>
    have hsub : s.writings.sentq.tail.Sublist s.writings.sentq := List.tail_sublist _
    refine ⟨fun v hv => h.fresh v ?_, h.nodup.sublist (hsub.append_left _), fun v hv => h.acks v (hsub.subset hv),
      h.pending⟩
    simp only [Writings.answer, List.mem_append] at hv ⊢
    exact hv.imp_left (.imp_right (hsub.subset ·))

end Writings.Distinct

end MediaFramework
