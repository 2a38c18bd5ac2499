import Mathlib.Data.List.Sublists
import MediaFramework.Library.Machine
import MediaFramework.Parcel.ParcelSend

/-!
# The notification stream

`media_server_notify` writes a parcel to the notify socket without waiting for room, so a parcel may be cut off at any
byte, and the next notification starts with a header of its own.  What the client receives is made of whole parcels
as long as nothing more is taken once a parcel has been cut off.
-/

namespace MediaFramework

/-- The notify socket of a connection, with the bytes it has taken, the parcels notified so far, and whether one of
them was cut off. -/
structure NotifyConn where
  notifyFd : Int
  received : List UInt8
  notified : List Frame
  cut : Bool

/-- `media_server_notify` on a connection, with the outcomes of its non-blocking sends. -/
def mediaServerNotify (conn : NotifyConn) (parcel : MediaParcel) (io : List SendStep) : Int × NotifyConn :=
  let frame := parcel.frameWithCode MEDIA_PARCEL_NOTIFY
  let conn := { conn with notified := conn.notified ++ [frame] }
  if 0 < conn.notifyFd then
    let r := mediaParcelSend parcel MEDIA_PARCEL_NOTIFY io
    (r.ret, { conn with
      received := conn.received ++ r.sent
      cut := conn.cut || decide (r.sent ≠ [] ∧ r.sent ≠ frame.encode) })
  else (-EINVAL, conn)

structure Notification where
  parcel : MediaParcel
  io : List SendStep

def notifyMachine (notifyFd : Int) : Machine NotifyConn Notification where
  start := ⟨notifyFd, [], [], false⟩
  next conn n := some (mediaServerNotify conn n.parcel n.io).2

/-- The bytes are the beginning of some of the notified parcels, whole and in their order. -/
def Framed (received : List UInt8) (notified : List Frame) : Prop :=
  ∃ sub : List Frame, sub.Sublist notified ∧ received <+: sub.flatMap Frame.encode

/-- The condition on a notification: when an earlier one was cut off, there is no room for the first byte. -/
def NoRoomAfterCut (conn : NotifyConn) (n : Notification) : Prop :=
  conn.cut = true → takesSome n.io = false

instance (conn : NotifyConn) (n : Notification) : Decidable (NoRoomAfterCut conn n) :=
  inferInstanceAs (Decidable (_ → _))

/-- Whole parcels, and the beginning of one more when one was cut off. -/
def NotifyConn.Sound (conn : NotifyConn) : Prop :=
  (conn.cut = false → ∃ sub : List Frame, sub.Sublist conn.notified ∧ conn.received = sub.flatMap Frame.encode) ∧
    (conn.cut = true → Framed conn.received conn.notified)

theorem Framed.mono {received : List UInt8} {notified : List Frame} (h : Framed received notified) (f : Frame) :
    Framed received (notified ++ [f]) := by
  obtain ⟨sub, hsub, hbegin⟩ := h
  exact ⟨sub, hsub.trans (List.sublist_append_left ..), hbegin⟩

theorem NotifyConn.Sound.framed {conn : NotifyConn} (h : conn.Sound) : Framed conn.received conn.notified := by
  cases hcut : conn.cut with
  | false =>
    obtain ⟨sub, hsub, hreceived⟩ := h.1 hcut
    exact ⟨sub, hsub, hreceived ▸ List.prefix_rfl⟩
  | true => exact h.2 hcut

theorem NotifyConn.Sound.notify {conn : NotifyConn} (h : conn.Sound) {n : Notification} (hg : NoRoomAfterCut conn n) :
    (mediaServerNotify conn n.parcel n.io).2.Sound := by
  obtain ⟨hbegin, -, -, hnone⟩ := mediaParcelSend_spec n.parcel MEDIA_PARCEL_NOTIFY n.io
  unfold mediaServerNotify
  generalize n.parcel.frameWithCode MEDIA_PARCEL_NOTIFY = f at *
  generalize mediaParcelSend n.parcel MEDIA_PARCEL_NOTIFY n.io = r at *
  dsimp only
  split
  · cases hcut : conn.cut with
    | true =>
      refine ⟨fun hc => by simp at hc, fun _ => ?_⟩
      dsimp only
      rw [hnone (hg hcut), List.append_nil]
      exact (h.2 hcut).mono f
    | false =>
      obtain ⟨sub, hsub, hreceived⟩ := h.1 hcut
      have hsub' : (sub ++ [f]).Sublist (conn.notified ++ [f]) := hsub.append (List.Sublist.refl _)
      have hencode : (sub ++ [f]).flatMap Frame.encode = conn.received ++ f.encode := by
        rw [List.flatMap_append, List.flatMap_singleton, hreceived]
      refine ⟨fun hc => ?_, fun _ => ⟨sub ++ [f], hsub', ?_⟩⟩
      · have hwhole : r.sent ≠ [] → r.sent = f.encode := by simpa using hc
        by_cases hsent : r.sent = []
        · refine ⟨sub, hsub.trans (List.sublist_append_left ..), ?_⟩
          rw [hsent, List.append_nil, hreceived]
        · exact ⟨sub ++ [f], hsub', by rw [hencode, hwhole hsent]⟩
      · rw [hencode]
        exact (List.prefix_append_right_inj _).2 hbegin
  · refine ⟨fun hc => ?_, fun hc => (h.2 hc).mono f⟩
    obtain ⟨sub, hsub, hreceived⟩ := h.1 hc
    exact ⟨sub, hsub.trans (List.sublist_append_left ..), hreceived⟩

/-- In every run in which nothing is taken after a parcel was cut off, the client receives the beginning of whole
parcels, each of them one of the notified ones, in the order of the notifications. -/
theorem notifyRun_framed {notifyFd : Int} {conn : NotifyConn}
    (h : (notifyMachine notifyFd).ReachableVia NoRoomAfterCut conn) : Framed conn.received conn.notified := by
  have hsound : conn.Sound := by
    refine h.invariant (P := NotifyConn.Sound) ⟨fun _ => ⟨[], by simp [notifyMachine]⟩, by simp [notifyMachine]⟩ ?_
    intro conn n conn' hs hg hn
    cases hn
    exact hs.notify hg
  exact hsound.framed

/-! ### Runs that meet the condition, and one that does not -/

/-- The room in the socket is used up in the middle of the second notification. -/
def sampleNotifyRun : NotifyConn :=
  ((notifyMachine 5).runFrom NoRoomAfterCut (notifyMachine 5).start
    [⟨mediaParcelInit, [.sent 2, .sent 20]⟩, ⟨mediaParcelInit, [.sent 2, .error 10]⟩,
      ⟨mediaParcelInit, [.error 10]⟩]).get (by decide)

theorem notifyRun_framed_sample : Framed sampleNotifyRun.received sampleNotifyRun.notified := by
  have h : (notifyMachine 5).ReachableVia NoRoomAfterCut sampleNotifyRun := Machine.reachableVia_get (by decide)
  exact notifyRun_framed h

/-- One byte of a notification is taken, and then a whole one. -/
def sampleCutRun : NotifyConn :=
  ((notifyMachine 5).runFrom (fun _ _ => True) (notifyMachine 5).start
    [⟨mediaParcelInit, [.sent 0, .error 10]⟩, ⟨mediaParcelInit, [.sent 20]⟩]).get (by decide)

/-- Without the condition the stream can lose its framing. -/
theorem notifyRun_not_framed : ¬ ∀ (notifyFd : Int) (conn : NotifyConn),
    (notifyMachine notifyFd).Reachable conn → Framed conn.received conn.notified := by
  intro h
  obtain ⟨sub, hsub, hbegin⟩ := h 5 sampleCutRun (Machine.reachableVia_get (by decide))
  have hall : ∀ sub ∈ sampleCutRun.notified.sublists, ¬ sampleCutRun.received <+: sub.flatMap Frame.encode := by
    decide
  exact hall sub (List.mem_sublists.2 hsub) hbegin

end MediaFramework
