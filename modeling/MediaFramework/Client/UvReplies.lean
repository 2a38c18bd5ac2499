import Mathlib.Logic.Function.Basic
import MediaFramework.Client.UvRequests
import MediaFramework.Library.Awaiting

/-!
# Replies go to the requests that caused them

A proxy and the servers behind its pipes.  Nothing on the wire says which request a reply is for: the proxy takes it
for one to the head of `sentq`.  That is right as long as `sentq` holds what was written to the current command pipe,
in that order, and what failed to be written has been taken out.  The code keeps `sentq` when it connects to the next
server, and this goes wrong when requests were written to the last one before the reconnection.

The streams keep the order of the parcels and lose none of what was written.
-/

namespace MediaFramework

variable {c : UvConfig} {s s' : MediaProxyPriv} {o : Outcome} {i : UvInput} {w : MediaWritePriv} {q : Writings}

/-! ### A proxy and its servers -/

/-- What is under way between a command pipe and a server: how many of the writings that `uv_write` took have gone
out or failed, the parcels on the way to the server, and the replies on the way back, with their requests. -/
structure UvLink where
  gone : Nat := 0
  toServer : List MediaWritePriv := []
  toClient : List (MediaWritePriv × Nat) := []

/-- A proxy with its links.  `lost` are the writings that failed, `produced` are the replies that servers produced, and
`greetings` counts the requests sent in the last `on_connect`. -/
structure UvServed where
  proxy : MediaProxyPriv
  link : Nat → UvLink := fun _ => {}
  lost : List MediaWritePriv := []
  produced : List (MediaWritePriv × Nat) := []
  greetings : Nat := 0

/-- The proxy takes a step, the next writing of a pipe goes out or fails, or the server of a pipe handles the next
parcel. -/
inductive UvServedInput
  | client (i : UvInput) (o : Outcome)
  | transmit (pipe : Nat) (arrives : Bool)
  | serve (pipe : Nat) (reply : Nat)

/-- A pipe by its place; one that was never made is as a new one. -/
def pipeOf (pipes : List MediaPipePriv) (pipe : Nat) : MediaPipePriv := pipes.getD pipe mediaUvAllocPipe

abbrev MediaProxyPriv.pipe (s : MediaProxyPriv) (pipe : Nat) : MediaPipePriv := pipeOf s.pipes pipe

namespace UvServed

variable (s : UvServed)

/-- A write is completed once its bytes are out or lost, and with an error in the second case; what the command pipe
reads is what the server has sent. -/
def agrees : UvInput → Bool
  | .writeCb pipe w status =>
    decide (w ∈ (s.proxy.pipe pipe).sent.take (s.link pipe).gone) && (decide (status < 0) == decide (w ∈ s.lost))
  | .parcel pipe parcel =>
    decide (s.proxy.epipe = some pipe) || (s.link pipe).toClient.head?.any fun a => a.2 == parcel
  | _ => true

/-- The links after a step of the proxy, which may have read a reply. -/
def linksAfter : UvInput → Nat → UvLink
  | .parcel pipe _ =>
    if s.proxy.epipe = some pipe then s.link
    else Function.update s.link pipe { s.link pipe with toClient := (s.link pipe).toClient.tail }
  | _ => s.link

def greetingsAfter : UvInput → Nat
  | .connectCb _ _ => 0
  | .send ack => if ack && s.proxy.stack.any UvFrame.isConnect then s.greetings + 1 else s.greetings
  | _ => s.greetings

def transmit (pipe : Nat) (arrives : Bool) (w : MediaWritePriv) : UvServed :=
  let link := s.link pipe
  { s with
    link := Function.update s.link pipe { link with
      gone := link.gone + 1
      toServer := if arrives then link.toServer ++ [w] else link.toServer }
    lost := if arrives then s.lost else s.lost ++ [w] }

/-- The `switch` of `media_server_receive`. -/
def serve (pipe : Nat) (w : MediaWritePriv) (reply : Nat) : UvServed :=
  let link := { s.link pipe with toServer := (s.link pipe).toServer.tail }
  if w.code = MEDIA_PARCEL_SEND_ACK then
    { s with
      link := Function.update s.link pipe { link with toClient := link.toClient ++ [(w, reply)] }
      produced := s.produced ++ [(w, reply)] }
  else { s with link := Function.update s.link pipe link }

end UvServed

def uvServedNext (c : UvConfig) (s : UvServed) : UvServedInput → Option UvServed
  | .client i o =>
    if s.agrees i then
      (uvNext c s.proxy (i, o)).map fun proxy =>
        if proxy.fault.isSome then { s with proxy }
        else { s with proxy, link := s.linksAfter i, greetings := s.greetingsAfter i }
    else none
  | .transmit pipe arrives =>
    ((s.proxy.pipe pipe).sent[(s.link pipe).gone]?).map (s.transmit pipe arrives)
  | .serve pipe reply => (s.link pipe).toServer.head?.map fun w => s.serve pipe w reply

def uvServedMachine (c : UvConfig) (cpu : String) (cpus : List String) : Machine UvServed UvServedInput where
  start := { proxy := mediaUvConnect c cpu cpus {} }
  next := uvServedNext c

/-- Every `on_receive` that was called with a parcel got the reply that a server produced for that request, and the
assertion of `media_uv_handle_parcel` has not failed. -/
structure UvServed.RepliesMatch (s : UvServed) : Prop where
  matched : ∀ a ∈ s.proxy.writings.answers, ∀ parcel ∈ a.2, (a.1, parcel) ∈ s.produced
  asserted : s.proxy.aborted = false

/-- The pipe for events that is being read. -/
def ReadsEvents (s : MediaProxyPriv) : Prop := ∃ pipe ∈ s.epipe, (s.pipe pipe).reading = true

/-- The condition on a step: a reconnection finds `sentq` empty, or there is no further server and the pipe is closed
with it; no reply is read while the head of `sentq` has failed to be written; and an event pipe that is read is not
replaced. -/
def RepliesKept (s : UvServed) : UvServedInput → Prop
  | .client .reconnect _ => s.proxy.epipe = none ∧ s.proxy.flags = 0 → s.proxy.writings.sentq = []
  | .client (.parcel pipe _) _ => s.proxy.epipe ≠ some pipe → ∀ w ∈ s.proxy.writings.sentq.head?, w ∉ s.lost
  | .client (.listenCb _ _) _ => ¬ ReadsEvents s.proxy
  | .client .run _ =>
    match s.proxy.stack.head? with
    | some (.applyQuit pipe) =>
      s.proxy.flags.disconnect = false ∧ s.proxy.flags.reconnect = true →
        s.proxy.writings.sentq = [] ∨ s.proxy.cpus = [] ∧ s.proxy.cpipe = some pipe
    | some (.handleParcel _ _) =>
      s.proxy.flags = { connecting := true, listening := true } → ¬ ReadsEvents s.proxy
    | _ => True
  | _ => True

/-! ### What is on the way -/

def MediaWritePriv.isRequest (w : MediaWritePriv) : Bool := decide (w.code = MEDIA_PARCEL_SEND_ACK)

/-- The requests under way on a pipe, the one that is answered first in front. -/
def UvLink.way (link : UvLink) (sent : List MediaWritePriv) : List MediaWritePriv :=
  link.toClient.map Prod.fst ++ (link.toServer.filter MediaWritePriv.isRequest ++
    (sent.drop link.gone).filter MediaWritePriv.isRequest)

/-- The links of `n` fit to a proxy: `sentq` awaits what is on the way on the command pipe, unless that is closing or
about to be closed. -/
structure LinksSound (n : UvServed) (cpipe epipe : Option Nat) (pipes : List MediaPipePriv) (stack : List UvFrame)
    (q : Writings) : Prop where
  bound : ∀ k ∈ cpipe, k < pipes.length
  unused : ∀ k, pipes.length ≤ k → n.link k = {}
  gone : ∀ k, (n.link k).gone ≤ (pipeOf pipes k).sent.length
  sent : ∀ k, ∀ w ∈ (pipeOf pipes k).sent, w ∈ q.handed
  lost : ∀ w ∈ n.lost, w ∈ q.handed
  others : ∀ k ∈ cpipe, ∀ k' ≠ k, ∀ w ∈ (pipeOf pipes k').sent, w ∉ q.sentq
  reading : ∀ k, (pipeOf pipes k).reading = true →
    (pipeOf pipes k).closing = false ∧ (cpipe = some k ∨ epipe = some k)
  connecting : ∀ k, (pipeOf pipes k).connecting = true → (pipeOf pipes k).closing = false → cpipe = some k
  awaiting : ∀ k ∈ cpipe, (pipeOf pipes k).closing = false → .close k ∉ stack →
    Awaiting q.sentq n.lost ((n.link k).way (pipeOf pipes k).sent)
  produced : ∀ k, ∀ a ∈ (n.link k).toClient, a ∈ n.produced
  answers : ∀ a ∈ q.answers, ∀ parcel ∈ a.2, (a.1, parcel) ∈ n.produced

def Linked (n : UvServed) (s : MediaProxyPriv) : Prop :=
  LinksSound n s.cpipe s.epipe s.pipes s.stack s.writings

/-- Nothing was written to the pipe, and it has not begun to read or to connect. -/
structure Tame (p p' : MediaPipePriv) : Prop where
  sent : p'.sent = p.sent
  closing : p.closing = true → p'.closing = true
  reading : p'.reading = true → p.reading = true ∧ (p.closing = false → p'.closing = false)
  connecting : p'.connecting = true → p.connecting = true

theorem Tame.refl (p : MediaPipePriv) : Tame p p := ⟨rfl, id, fun h => ⟨h, id⟩, id⟩

theorem pipeOf_modify (pipes : List MediaPipePriv) (j k : Nat) (f : MediaPipePriv → MediaPipePriv) :
    pipeOf (pipes.modify j f) k = if j = k ∧ k < pipes.length then f (pipeOf pipes k) else pipeOf pipes k := by
  unfold pipeOf
  rw [List.getD_eq_getElem?_getD, List.getD_eq_getElem?_getD, List.getElem?_modify]
  by_cases hk : k < pipes.length
  · rw [List.getElem?_eq_getElem hk]
    by_cases hj : j = k <;> simp [hj, hk]
  · rw [List.getElem?_eq_none (by omega)]
    simp [hk]

@[simp] theorem pipeOf_append (pipes : List MediaPipePriv) (k : Nat) :
    pipeOf (pipes ++ [mediaUvAllocPipe]) k = pipeOf pipes k := by
  unfold pipeOf
  rw [List.getD_eq_getElem?_getD, List.getD_eq_getElem?_getD, List.getElem?_append]
  split
  · rfl
  · rename_i hk
    rw [List.getElem?_eq_none (l := pipes) (i := k) (by omega)]
    rcases hlast : k - pipes.length with - | j <;> rfl

theorem tame_modify {f : MediaPipePriv → MediaPipePriv} (hf : ∀ p, Tame p (f p)) (pipes : List MediaPipePriv)
    (j k : Nat) : Tame (pipeOf pipes k) (pipeOf (pipes.modify j f) k) := by
  rw [pipeOf_modify]
  split
  · exact hf _
  · exact .refl _

theorem tame_close (p : MediaPipePriv) : Tame p { p with reading := false, closing := true } :=
  ⟨rfl, fun _ => rfl, nofun, id⟩

namespace LinksSound

variable {n : UvServed} {cpipe epipe epipe' : Option Nat} {pipes pipes' : List MediaPipePriv}
  {stack stack' frames : List UvFrame} {q' : Writings}

/-- Nothing is written and `sentq` stays as it is. -/
theorem tame (h : LinksSound n cpipe epipe pipes stack q) (hlength : pipes.length ≤ pipes'.length)
    (hpipes : ∀ k, Tame (pipeOf pipes k) (pipeOf pipes' k))
    (hepipe : ∀ k, (pipeOf pipes' k).reading = true → epipe = some k → epipe' = some k)
    (hstack : ∀ k ∈ cpipe, .close k ∈ stack → .close k ∈ stack' ∨ (pipeOf pipes' k).closing = true)
    (hsentq : q'.sentq = q.sentq) (hhanded : q.handed ⊆ q'.handed)
    (hanswers : ∀ a ∈ q'.answers, a ∈ q.answers ∨ a.2 = none) :
    LinksSound n cpipe epipe' pipes' stack' q' where
  bound k hk := Nat.lt_of_lt_of_le (h.bound k hk) hlength
  unused k hk := h.unused k (by omega)
  gone k := by
    rw [(hpipes k).sent]
    exact h.gone k
  sent k w hw := by
    rw [(hpipes k).sent] at hw
    exact hhanded (h.sent k w hw)
  lost w hw := hhanded (h.lost w hw)
  others k hk k' hk' := by
    rw [(hpipes k').sent, hsentq]
    exact h.others k hk k' hk'
  reading k hk := by
    obtain ⟨hreading, hopen⟩ := (hpipes k).reading hk
    obtain ⟨hclosing, hpipe⟩ := h.reading k hreading
    exact ⟨hopen hclosing, hpipe.imp_right (hepipe k hk)⟩
  connecting k hk hopen := by
    refine h.connecting k ((hpipes k).connecting hk) ?_
    by_contra hclosing
    rw [(hpipes k).closing (by simpa using hclosing)] at hopen
    cases hopen
  awaiting k hk hopen hclose := by
    rw [hsentq, (hpipes k).sent]
    refine h.awaiting k hk ?_ fun hm => ?_
    · by_contra hclosing
      rw [(hpipes k).closing (by simpa using hclosing)] at hopen
      cases hopen
    · rcases hstack k hk hm with hm | hclosing
      · exact hclose hm
      · rw [hopen] at hclosing
        cases hclosing
  produced := h.produced
  answers a ha parcel hparcel := by
    rcases hanswers a ha with ha | hnone
    · exact h.answers a ha parcel hparcel
    · simp [hnone] at hparcel

theorem push (h : LinksSound n cpipe epipe pipes stack q) (frames : List UvFrame) :
    LinksSound n cpipe epipe pipes (frames ++ stack) q :=
  h.tame (Nat.le_refl _) (fun _ => .refl _) (fun _ _ he => he) (fun _ _ hm => .inl (List.mem_append_right _ hm)) rfl
    (List.Subset.refl _) fun _ ha => .inl ha

/-- Only the links, what is lost and what was produced matter of the rest. -/
theorem served {n' : UvServed} (h : LinksSound n cpipe epipe pipes stack q) (hlink : n'.link = n.link)
    (hlost : n'.lost = n.lost) (hproduced : n'.produced = n.produced) :
    LinksSound n' cpipe epipe pipes stack q := by
  obtain ⟨proxy, link, lost, produced, greetings⟩ := n
  obtain ⟨proxy', link', lost', produced', greetings'⟩ := n'
  dsimp only at hlink hlost hproduced
  subst hlink hlost hproduced
  exact ⟨h.bound, h.unused, h.gone, h.sent, h.lost, h.others, h.reading, h.connecting, h.awaiting, h.produced,
    h.answers⟩

/-- Only what does not matter here changes in the writings. -/
theorem mark (h : LinksSound n cpipe epipe pipes stack q) (hsentq : q'.sentq = q.sentq)
    (hhanded : q'.handed = q.handed) (hanswers : q'.answers = q.answers) :
    LinksSound n cpipe epipe pipes stack q' :=
  h.tame (Nat.le_refl _) (fun _ => .refl _) (fun _ _ he => he) (fun _ _ hm => .inl hm) hsentq
    (hhanded ▸ List.Subset.refl _) fun _ ha => .inl (hanswers ▸ ha)

/-- A change of a pipe that is tame. -/
theorem modify (h : LinksSound n cpipe epipe pipes stack q) {f : MediaPipePriv → MediaPipePriv}
    (hf : ∀ p, Tame p (f p)) (j : Nat) : LinksSound n cpipe epipe (pipes.modify j f) stack q :=
  h.tame (by simp) (tame_modify hf pipes j) (fun _ _ he => he) (fun _ _ hm => .inl hm) rfl (List.Subset.refl _)
    fun _ ha => .inl ha

/-- `uv_write` takes a writing that was never handed over. -/
theorem taken (h : LinksSound n cpipe epipe pipes stack q) {k : Nat} (hk : cpipe = some k)
    (hnew : w ∉ q.sentq ++ q.handed) (hhanded : q'.handed = q.handed ++ [w])
    (hsentq : q'.sentq = if w.code = MEDIA_PARCEL_SEND_ACK then q.sentq ++ [w] else q.sentq)
    (hanswers : q'.answers = q.answers) :
    LinksSound n cpipe epipe
      (pipes.modify k fun p => { p with writes := p.writes ++ [w], sent := p.sent ++ [w] }) stack q' := by
  have hbound := h.bound k hk
  simp only [List.mem_append, not_or] at hnew
  have hpipe : ∀ j, pipeOf (pipes.modify k fun p => { p with writes := p.writes ++ [w], sent := p.sent ++ [w] }) j =
      if k = j then { pipeOf pipes j with
        writes := (pipeOf pipes j).writes ++ [w], sent := (pipeOf pipes j).sent ++ [w] } else pipeOf pipes j := by
    intro j
    rw [pipeOf_modify]
    by_cases hj : k = j
    · subst hj
      rw [if_pos ⟨rfl, hbound⟩, if_pos rfl]
    · rw [if_neg fun hm => hj hm.1, if_neg hj]
  have hfields : ∀ j,
      (pipeOf (pipes.modify k fun p => { p with writes := p.writes ++ [w], sent := p.sent ++ [w] }) j).reading =
        (pipeOf pipes j).reading ∧
      (pipeOf (pipes.modify k fun p => { p with writes := p.writes ++ [w], sent := p.sent ++ [w] }) j).closing =
        (pipeOf pipes j).closing ∧
      (pipeOf (pipes.modify k fun p => { p with writes := p.writes ++ [w], sent := p.sent ++ [w] }) j).connecting =
        (pipeOf pipes j).connecting := by
    intro j
    rw [hpipe]
    split <;> exact ⟨rfl, rfl, rfl⟩
  refine ⟨fun j hj => ?_, fun j hj => ?_, fun j => ?_, fun j v hv => ?_, fun v hv => ?_, fun j hj j' hj' v hv => ?_,
    fun j hj => ?_, fun j hj hopen => ?_, fun j hj hopen hclose => ?_, h.produced, hanswers ▸ h.answers⟩
  · simpa using h.bound j hj
  · exact h.unused j (by simpa using hj)
  · have := h.gone j
    rw [hpipe]
    split
    · simp only [List.length_append]
      omega
    · exact this
  · rw [hpipe] at hv
    rw [hhanded]
    split at hv
    · rcases List.mem_append.1 hv with hv | hv
      · exact List.mem_append_left _ (h.sent j v hv)
      · exact List.mem_append_right _ hv
    · exact List.mem_append_left _ (h.sent j v hv)
  · rw [hhanded]
    exact List.mem_append_left _ (h.lost v hv)
  · obtain rfl : k = j := Option.some.inj (hk.symm.trans hj)
    rw [hpipe, if_neg (Ne.symm hj')] at hv
    have hold := h.others k hj j' hj' v hv
    have hne : v ≠ w := by
      rintro rfl
      exact hnew.2 (h.sent j' v hv)
    rw [hsentq]
    split <;> simp [hold, hne]
  · rw [(hfields j).1] at hj
    rw [(hfields j).2.1]
    exact h.reading j hj
  · rw [(hfields j).2.2] at hj
    rw [(hfields j).2.1] at hopen
    exact h.connecting j hj hopen
  · obtain rfl : k = j := Option.some.inj (hk.symm.trans hj)
    rw [(hfields k).2.1] at hopen
    have hold := h.awaiting k hj hopen hclose
    have hlost : w ∉ n.lost := fun hm => hnew.2 (h.lost w hm)
    have hgone := h.gone k
    rw [hpipe, if_pos rfl, hsentq]
    simp only [UvLink.way, List.drop_append_of_le_length hgone, List.filter_append]
    split
    · rename_i hack
      have hask := hold.ask hlost
      simpa [UvLink.way, MediaWritePriv.isRequest, hack, List.append_assoc] using hask
    · rename_i hack
      simpa [UvLink.way, MediaWritePriv.isRequest, hack] using hold

/-- The command pipe is given up while no request is waiting, and perhaps a new one is made. -/
theorem renew (h : LinksSound n cpipe epipe pipes stack q) (hsentq : q.sentq = [])
    (hclosing : ∀ k ∈ cpipe, (pipeOf pipes k).closing = true) :
    LinksSound n none epipe pipes stack q ∧
      LinksSound n (some pipes.length) epipe (pipes ++ [mediaUvAllocPipe]) stack q := by
  have hreading : ∀ k, (pipeOf pipes k).reading = true → (pipeOf pipes k).closing = false ∧ epipe = some k := by
    intro k hk
    obtain ⟨hopen, hpipe⟩ := h.reading k hk
    refine ⟨hopen, hpipe.resolve_left fun hc => ?_⟩
    rw [hclosing k hc] at hopen
    cases hopen
  have hconnecting : ∀ k, (pipeOf pipes k).connecting = true → (pipeOf pipes k).closing ≠ false := by
    intro k hk hopen
    rw [hclosing k (h.connecting k hk hopen)] at hopen
    cases hopen
  constructor
  · exact ⟨nofun, h.unused, h.gone, h.sent, h.lost, nofun, fun k hk => ⟨(hreading k hk).1, .inr (hreading k hk).2⟩,
      fun k hk hopen => absurd hopen (hconnecting k hk), nofun, h.produced, h.answers⟩
  · refine ⟨fun k hk => ?_, fun k hk => ?_, fun k => ?_, fun k => ?_, h.lost, fun k hk k' hk' v hv => ?_, fun k => ?_,
      fun k => ?_, fun k hk hopen hclose => ?_, h.produced, h.answers⟩
    · rw [← Option.some.inj hk]
      simp
    · exact h.unused k (by simp at hk; omega)
    · rw [pipeOf_append]
      exact h.gone k
    · rw [pipeOf_append]
      exact h.sent k
    · simp [hsentq]
    · rw [pipeOf_append]
      exact fun hk => ⟨(hreading k hk).1, .inr (hreading k hk).2⟩
    · rw [pipeOf_append]
      exact fun hk hopen => absurd hopen (hconnecting k hk)
    · -- the new pipe has an unused link
      obtain rfl : pipes.length = k := Option.some.inj hk
      have hsent : (pipeOf pipes pipes.length).sent = [] := by simp [pipeOf, mediaUvAllocPipe]
      rw [pipeOf_append, h.unused pipes.length (Nat.le_refl _), hsentq, hsent]
      exact Awaiting.nil _

/-- The command pipe is being connected. -/
theorem connect (h : LinksSound n cpipe epipe pipes stack q) {k : Nat} (hk : cpipe = some k) :
    LinksSound n cpipe epipe (pipes.modify k fun p => { p with connecting := true }) stack q := by
  have hfields : ∀ j, (pipeOf (pipes.modify k fun p => { p with connecting := true }) j).sent =
      (pipeOf pipes j).sent ∧
      (pipeOf (pipes.modify k fun p => { p with connecting := true }) j).reading = (pipeOf pipes j).reading ∧
      (pipeOf (pipes.modify k fun p => { p with connecting := true }) j).closing = (pipeOf pipes j).closing ∧
      (k ≠ j → pipeOf (pipes.modify k fun p => { p with connecting := true }) j = pipeOf pipes j) := by
    intro j
    rw [pipeOf_modify]
    split
    · rename_i hj
      exact ⟨rfl, rfl, rfl, fun hne => absurd hj.1 hne⟩
    · exact ⟨rfl, rfl, rfl, fun _ => rfl⟩
  refine ⟨fun j hj => ?_, fun j hj => ?_, fun j => ?_, fun j => ?_, h.lost, fun j hj j' => ?_, fun j => ?_,
    fun j hj hopen => ?_, fun j => ?_, h.produced, h.answers⟩
  · simpa using h.bound j hj
  · exact h.unused j (by simpa using hj)
  · rw [(hfields j).1]
    exact h.gone j
  · rw [(hfields j).1]
    exact h.sent j
  · rw [(hfields j').1]
    exact h.others j hj j'
  · rw [(hfields j).2.1, (hfields j).2.2.1]
    exact h.reading j
  · by_cases hne : k = j
    · rw [← hne]
      exact hk
    · rw [(hfields j).2.2.2 hne] at hj hopen
      exact h.connecting j hj hopen
  · rw [(hfields j).1, (hfields j).2.2.1]
    exact h.awaiting j

/-- One of the two pipes is read. -/
theorem startReading (h : LinksSound n cpipe epipe pipes stack q) {k : Nat} (hk : cpipe = some k ∨ epipe = some k) :
    LinksSound n cpipe epipe (pipes.modify k fun p => { p with reading := !p.closing }) stack q := by
  have hfields : ∀ j, (pipeOf (pipes.modify k fun p => { p with reading := !p.closing }) j).sent =
      (pipeOf pipes j).sent ∧
      (pipeOf (pipes.modify k fun p => { p with reading := !p.closing }) j).connecting =
        (pipeOf pipes j).connecting ∧
      (pipeOf (pipes.modify k fun p => { p with reading := !p.closing }) j).closing = (pipeOf pipes j).closing ∧
      ((pipeOf (pipes.modify k fun p => { p with reading := !p.closing }) j).reading = true →
        k = j ∧ (pipeOf pipes j).closing = false ∨ (pipeOf pipes j).reading = true) := by
    intro j
    rw [pipeOf_modify]
    split
    · rename_i hj
      exact ⟨rfl, rfl, rfl, fun hr => .inl ⟨hj.1, by simpa using hr⟩⟩
    · exact ⟨rfl, rfl, rfl, .inr⟩
  refine ⟨fun j hj => ?_, fun j hj => ?_, fun j => ?_, fun j => ?_, h.lost, fun j hj j' => ?_, fun j hj => ?_,
    fun j => ?_, fun j => ?_, h.produced, h.answers⟩
  · simpa using h.bound j hj
  · exact h.unused j (by simpa using hj)
  · rw [(hfields j).1]
    exact h.gone j
  · rw [(hfields j).1]
    exact h.sent j
  · rw [(hfields j').1]
    exact h.others j hj j'
  · rw [(hfields j).2.2.1]
    rcases (hfields j).2.2.2 hj with ⟨rfl, hopen⟩ | hr
    · exact ⟨hopen, hk⟩
    · exact h.reading j hr
  · rw [(hfields j).2.1, (hfields j).2.2.1]
    exact h.connecting j
  · rw [(hfields j).1, (hfields j).2.2.1]
    exact h.awaiting j

/-- A request that is lost is taken out of `sentq`. -/
theorem withdraw (h : LinksSound n cpipe epipe pipes stack q) (hw : w ∈ n.lost) :
    LinksSound n cpipe epipe pipes stack (q.cancel w) where
  bound := h.bound
  unused := h.unused
  gone := h.gone
  sent := h.sent
  lost := h.lost
  others k hk k' hk' v hv hm := h.others k hk k' hk' v hv (List.mem_of_mem_erase hm)
  reading := h.reading
  connecting := h.connecting
  awaiting k hk hopen hclose := (h.awaiting k hk hopen hclose).withdraw hw
  produced := h.produced
  answers a ha parcel hparcel := by
    rcases List.mem_append.1 ha with ha | ha
    · exact h.answers a ha parcel hparcel
    · rw [List.mem_singleton.1 ha] at hparcel
      cases hparcel

/-- The queues are cleared while no request is waiting, or the command pipe is about to be closed. -/
theorem clear (h : LinksSound n cpipe epipe pipes stack q)
    (hclosed : q.sentq = [] ∨ ∃ k, cpipe = some k ∧ .close k ∈ stack) :
    LinksSound n cpipe epipe pipes stack q.clear where
  bound := h.bound
  unused := h.unused
  gone := h.gone
  sent := h.sent
  lost := h.lost
  others k hk k' hk' v hv := by simp [Writings.clear]
  reading := h.reading
  connecting := h.connecting
  awaiting k hk hopen hclose := by
    have hsentq : q.sentq = [] := by
      refine hclosed.resolve_right ?_
      rintro ⟨j, hj, hm⟩
      obtain rfl : j = k := Option.some.inj (hj.symm.trans hk)
      exact hclose hm
    have hold := h.awaiting k hk hopen hclose
    rwa [hsentq] at hold
  produced := h.produced
  answers := h.answers

end LinksSound

/-! ### The functions of the proxy keep the links sound -/

namespace Linked

variable {n : UvServed} {k : Nat} {frames : List UvFrame}

private theorem close (h : Linked n s) (k : Nat) : Linked n (mediaUvClose s k) := h.modify tame_close k

private theorem closing_of_close (s : MediaProxyPriv) (hk : k < s.pipes.length) :
    ((mediaUvClose s k).pipe k).closing = true := by
  simp [mediaUvClose, MediaProxyPriv.modifyPipe, MediaProxyPriv.pipe, pipeOf_modify, hk]

private theorem freeProxy (h : Linked n s) : Linked n (mediaUvFreeProxy s) := by
  unfold mediaUvFreeProxy
  split
  · exact h
  · rename_i hpipes
    simp only [Bool.or_eq_true, Option.isSome_iff_ne_none, not_or, not_not] at hpipes
    split
    · have hclear : Linked n { mediaUvClearQueue s with released := true } :=
        ⟨h.bound, h.unused, h.gone, h.sent, h.lost, by simp [mediaUvClearQueue, hpipes.1], h.reading, h.connecting,
          by simp [mediaUvClearQueue, hpipes.1], h.produced, h.answers⟩
      dsimp only
      split <;> exact hclear.push _
    · exact h

private theorem shutdown (h : Linked n s) (o : Outcome) : Linked n (mediaUvShutdown s o) := by
  unfold mediaUvShutdown
  split
  · exact h
  · split
    · exact h
    · split
      · exact h.close _
      · exact h.modify (f := fun p => { p with shutting := true }) (fun p => ⟨rfl, id, fun hp => ⟨hp, id⟩, id⟩) _

/-- A writing that was never handed over is handed over. -/
private theorem sendWriting (h : Linked n s) (hnew : w ∉ s.writings.sentq ++ s.writings.handed) {ret : Int}
    (hfault : (mediaUvSendWriting s w ret).fault = none) : Linked n (mediaUvSendWriting s w ret) := by
  have hsentq : w ∉ s.writings.sentq := fun hm => hnew (List.mem_append_left _ hm)
  have hhand : (s.writings.hand w).handed = s.writings.handed ++ [w] ∧
      (s.writings.hand w).answers = s.writings.answers ∧
      (s.writings.hand w).sentq =
        if w.code = MEDIA_PARCEL_SEND_ACK then s.writings.sentq ++ [w] else s.writings.sentq := by
    unfold Writings.hand
    split <;> exact ⟨rfl, rfl, rfl⟩
  unfold mediaUvSendWriting at hfault ⊢
  split at hfault
  · exact h
  · rename_i k hk
    dsimp only at hfault ⊢
    split_ifs at hfault ⊢ with hret
    · unfold mediaUvWriteCb at hfault ⊢
      split_ifs at hfault ⊢ with hfreed hack
      · cases hfault
      · -- the request is taken out of `sentq` again
        refine LinksSound.push (q := (s.writings.hand w).cancel w) ?_ _
        refine h.tame (Nat.le_refl _) (fun _ => .refl _) (fun _ _ he => he) (fun _ _ hm => .inl hm) ?_ ?_ fun a ha => ?_
        · simp [Writings.cancel, hhand, hack.2, List.erase_append_right _ hsentq]
        · simp [Writings.cancel, hhand]
        · simp only [Writings.cancel, hhand, List.mem_append, List.mem_singleton] at ha
          exact ha.imp_right fun ha => by rw [ha]
      · have hother : w.code ≠ MEDIA_PARCEL_SEND_ACK := fun hm => hack ⟨hret, hm⟩
        refine h.tame (Nat.le_refl _) (fun _ => .refl _) (fun _ _ he => he) (fun _ _ hm => .inl hm) ?_ ?_ fun a ha => ?_
        · simp [Writings.setWritten, hhand, hother]
        · simp [Writings.setWritten, hhand]
        · exact .inl (by simpa [Writings.setWritten, hhand] using ha)
    · exact h.taken hk hnew hhand.1 hhand.2.2 hhand.2.1

private theorem connectOne (h : Linked n s) (hsentq : s.writings.sentq = [])
    (hclosing : ∀ k ∈ s.cpipe, (s.pipe k).closing = true) (c : UvConfig) (o : Outcome) :
    Linked n (mediaUvConnectOne c s o).2 := by
  obtain ⟨hnone, hnew⟩ := h.renew hsentq hclosing
  unfold mediaUvConnectOne
  split_ifs
  · exact h
  · exact hnone
  · dsimp only
    split
    · exact hnew
    · split
      · exact hnew.connect rfl
      · exact hnew.modify tame_close _

private theorem reconnectOne (h : Linked n s) (hnext : s.cpus ≠ [] → s.writings.sentq = [])
    (hlast : s.cpus = [] → s.writings.sentq = [] ∨ ∃ k, s.cpipe = some k ∧ .close k ∈ s.stack) (c : UvConfig)
    (o : Outcome) : Linked n (mediaUvReconnectOne c s o) := by
  unfold mediaUvReconnectOne
  split
  · rename_i hcpus
    exact LinksSound.push (h.clear (hlast hcpus)) _
  · rename_i cpu cpus hcpus
    have hsentq := hnext (by simp [hcpus])
    have hclosed : Linked n (closeCpipe { s with cpu := some cpu, cpus }) ∧
        (closeCpipe { s with cpu := some cpu, cpus }).writings = s.writings ∧
        ∀ k ∈ (closeCpipe { s with cpu := some cpu, cpus }).cpipe,
          ((closeCpipe { s with cpu := some cpu, cpus }).pipe k).closing = true := by
      unfold closeCpipe
      dsimp only
      split
      · rename_i k hk
        refine ⟨h.close k, rfl, fun j hj => ?_⟩
        obtain rfl : k = j := Option.some.inj (hk.symm.trans hj)
        exact closing_of_close s (h.bound k hk)
      · rename_i hk
        refine ⟨h, rfl, fun j hj => ?_⟩
        cases hk.symm.trans hj
    have hconnected := hclosed.1.connectOne (by rw [hclosed.2.1, hsentq]) hclosed.2.2 c o
    dsimp only
    split
    · exact hconnected.push _
    · exact hconnected

private theorem createNotify (h : Linked n s) (hdistinct : s.writings.Distinct)
    (hfault : (mediaUvCreateNotify s o).2.fault = none) : Linked n (mediaUvCreateNotify s o).2 := by
  unfold mediaUvCreateNotify at hfault ⊢
  split_ifs at hfault ⊢
  · exact h
  · have hnew := hdistinct.not_mem_of_fresh
      (w := (mediaUvAllocWriting s MEDIA_PARCEL_CREATE_NOTIFY).1) rfl
    have halloc : Linked n (mediaUvAllocWriting s MEDIA_PARCEL_CREATE_NOTIFY).2 := h.mark rfl rfl rfl
    refine halloc.sendWriting (fun hm => hnew ?_) hfault
    rw [List.append_assoc]
    exact List.mem_append_right _ hm

/-- The event pipe is replaced. -/
private theorem newEpipe (h : Linked n s) (hreads : ¬ ReadsEvents s) (epipe : Option Nat) :
    Linked n { s with epipe } ∧ Linked n { s with epipe, pipes := s.pipes ++ [mediaUvAllocPipe] } := by
  have hepipe : ∀ k, (pipeOf s.pipes k).reading = true → s.epipe = some k → epipe = some k :=
    fun k hk hs => absurd ⟨k, hs, hk⟩ hreads
  constructor
  · exact h.tame (Nat.le_refl _) (fun _ => .refl _) hepipe (fun _ _ hm => .inl hm) rfl (List.Subset.refl _)
      fun _ ha => .inl ha
  · refine h.tame (by simp) (fun k => ?_) (fun k hk => ?_) (fun _ _ hm => .inl hm) rfl (List.Subset.refl _)
      fun _ ha => .inl ha
    · rw [pipeOf_append]
      exact .refl _
    · rw [pipeOf_append] at hk
      exact hepipe k hk

private theorem listenOne (h : Linked n s) (hdistinct : s.writings.Distinct) (hreads : ¬ ReadsEvents s)
    (hfault : (mediaUvListenOne c s o).2.fault = none) : Linked n (mediaUvListenOne c s o).2 := by
  obtain ⟨hnone, -⟩ := h.newEpipe hreads none
  obtain ⟨-, hnew⟩ := h.newEpipe hreads (some s.pipes.length)
  unfold mediaUvListenOne at hfault ⊢
  simp only [callOnListen_eq] at hfault ⊢
  cases hcpu : s.cpu with
  | none =>
    simp only [hcpu] at hfault ⊢
    split_ifs at hfault ⊢
    · exact hnone.push _
    · cases hfault
  | some cpu =>
    have hnotify : ∀ hf, Linked n (mediaUvCreateNotify (MediaProxyPriv.modifyPipe { s with
        cpu := some cpu, epipe := some s.pipes.length, pipes := s.pipes ++ [mediaUvAllocPipe] } s.pipes.length
          fun p => { p with listening := true }) o).2 :=
      createNotify (o := o) (hnew.modify (f := fun p => { p with listening := true })
        (fun p => ⟨rfl, id, fun hp => ⟨hp, id⟩, id⟩) s.pipes.length) hdistinct
    simp only [hcpu] at hfault ⊢
    split_ifs at hfault ⊢
    · exact hnone.push _
    · exact LinksSound.push (hnew.close _) _
    · exact LinksSound.push (hnew.close _) _
    · exact LinksSound.push ((hnotify hfault).close _) _
    · exact hnotify hfault

private theorem listenOneCb (h : Linked n s) (hreads : ¬ ReadsEvents s) (server : Nat) (status : Int) (o : Outcome) :
    Linked n (mediaUvListenOneCb s server status o) := by
  obtain ⟨hnone, -⟩ := h.newEpipe hreads none
  obtain ⟨-, hnew⟩ := h.newEpipe hreads (some s.pipes.length)
  unfold mediaUvListenOneCb
  simp only [callOnListen_eq]
  split_ifs
  · exact LinksSound.push (h.close _) _
  · exact LinksSound.push (h.close _) _
  · exact LinksSound.push (hnone.close _) _
  · exact LinksSound.push ((hnew.close _).close _) _
  · exact LinksSound.push (hnew.close _) _

private theorem deliveryLoop (h : Linked n s) (hdistinct : s.writings.Distinct) (w : MediaWritePriv)
    (hfault : (mediaUvDeliveryLoop s w o).fault = none) : Linked n (mediaUvDeliveryLoop s w o) := by
  unfold mediaUvDeliveryLoop at hfault ⊢
  split_ifs at hfault ⊢ with hw
  · have hnew : w ∉ s.writings.sentq ++ s.writings.handed := by
      intro hm
      rcases List.mem_append.1 hm with hm | hm
      · have hnodup := hdistinct.nodup
        simp only [List.nodup_append] at hnodup
        exact hnodup.2.2 w hw w hm rfl
      · exact hdistinct.pending w hm hw
    have htaken : Linked n { s with writings := { s.writings with pendq := s.writings.pendq.erase w } } :=
      h.mark rfl rfl rfl
    have hloop : Linked n (MediaProxyPriv.push { s with
        writings := { s.writings with pendq := s.writings.pendq.erase w } }
        [.deliveryLoop (s.writings.pendq.dropWhile (· ≠ w)).tail.head?]) := LinksSound.push htaken _
    exact hloop.sendWriting hnew hfault
  · cases hfault

private theorem listen (h : Linked n s) (hdistinct : s.writings.Distinct) (onListen : Bool)
    (hfault : (mediaUvListen c s onListen o).2.fault = none) : Linked n (mediaUvListen c s onListen o).2 := by
  simp only [mediaUvListen] at hfault ⊢
  split_ifs at hfault ⊢ with hlistens
  · exact h
  · have hreads : ¬ ReadsEvents { s with onListen } := by
      rintro ⟨pipe, hpipe, -⟩
      simp only [Bool.or_eq_true, not_or, Bool.not_eq_true, Option.isSome_eq_false_iff, Option.isNone_iff_eq_none]
        at hlistens
      cases hlistens.2.symm.trans hpipe
    exact listenOne (s := { s with onListen }) h hdistinct hreads hfault
  · exact h

private theorem send (h : Linked n s) (hdistinct : s.writings.Distinct) (ack : Bool)
    (hfault : (mediaUvSend s ack o).2.fault = none) : Linked n (mediaUvSend s ack o).2 := by
  have haccept : ∀ (v : MediaWritePriv) ret, (s.writings.next.accept v ret).sentq = s.writings.sentq ∧
      (s.writings.next.accept v ret).handed = s.writings.handed ∧
      (s.writings.next.accept v ret).answers = s.writings.answers := by
    intro v ret
    unfold Writings.accept
    split <;> exact ⟨rfl, rfl, rfl⟩
  simp only [mediaUvSend, mediaUvQueueWriting] at hfault ⊢
  split_ifs at hfault ⊢
  · exact h
  · exact h
  · exact h
  · obtain ⟨hsentq, hhanded, hanswers⟩ := haccept (newWriting s ack) o.write
    have hnew := hdistinct.not_mem_of_fresh (w := newWriting s ack) rfl
    have haccepted : Linked n { s with writings := s.writings.next.accept (newWriting s ack) o.write } :=
      h.mark hsentq hhanded hanswers
    refine haccepted.sendWriting ?_ hfault
    rw [hsentq, hhanded]
    simp only [List.mem_append, not_or] at hnew ⊢
    exact ⟨hnew.1.2, hnew.2⟩
  · obtain ⟨hsentq, hhanded, hanswers⟩ := haccept (newWriting s ack) 0
    exact h.mark hsentq hhanded hanswers

/-- A pipe is connected, which is the command pipe unless it is being closed. -/
private theorem connectOneCb (h : Linked n s) (hconnecting : (s.pipe k).connecting = true) {status : Int}
    (hopen : 0 ≤ status → (s.pipe k).closing = false) : Linked n (mediaUvConnectOneCb s k status) := by
  have hconnected : Linked n (s.modifyPipe k fun p => { p with connecting := false }) :=
    h.modify (f := fun p => { p with connecting := false }) (fun p => ⟨rfl, id, fun hp => ⟨hp, id⟩, nofun⟩) k
  simp only [mediaUvConnectOneCb]
  split_ifs with hdisconnect hneg hneg
  · exact LinksSound.push hconnected _
  · exact absurd (show -ECANCELED < 0 by decide) hneg
  · exact LinksSound.push hconnected _
  · have hpipe : s.cpipe = some k := h.connecting k hconnecting (hopen (Int.not_lt.1 hneg))
    exact LinksSound.push (hconnected.startReading (.inl hpipe)) _

private theorem writeCb (h : Linked n s) {status : Int} (hlost : status < 0 → w ∈ n.lost)
    (hfault : (mediaUvWriteCb s w status).fault = none) : Linked n (mediaUvWriteCb s w status) := by
  unfold mediaUvWriteCb at hfault ⊢
  split_ifs at hfault ⊢ with hfreed hcancel
  · cases hfault
  · exact LinksSound.push (h.withdraw (hlost hcancel.1)) _
  · exact h.mark rfl rfl rfl

/-- A pipe that was being closed is closed. -/
private theorem closeCb (h : Linked n s) (hclosing : (s.pipe k).closing = true) : Linked n (mediaUvCloseCb s k) := by
  have hclosed : Linked n (s.modifyPipe k fun p => { p with closed := true }) :=
    h.modify (f := fun p => { p with closed := true }) (fun p => ⟨rfl, id, fun hp => ⟨hp, id⟩, id⟩) k
  have hstill : ((s.modifyPipe k fun p => { p with closed := true }).pipe k).closing = true := by
    simp only [MediaProxyPriv.pipe, MediaProxyPriv.modifyPipe, pipeOf_modify]
    split <;> exact hclosing
  unfold mediaUvCloseCb
  dsimp only
  split_ifs with hcpipe hepipe
  · refine freeProxy ⟨(by rintro _ ⟨⟩), hclosed.unused, hclosed.gone, hclosed.sent, hclosed.lost,
      (by rintro _ ⟨⟩), fun j hj => ?_,
      fun j hj hopen => ?_, (by rintro _ ⟨⟩), hclosed.produced, hclosed.answers⟩
    · obtain ⟨hopen, hpipe⟩ := hclosed.reading j hj
      refine ⟨hopen, hpipe.imp_left fun hc => ?_⟩
      obtain rfl : k = j := Option.some.inj (hcpipe.symm.trans hc)
      cases hopen.symm.trans hstill
    · obtain rfl : k = j := Option.some.inj (hcpipe.symm.trans (hclosed.connecting j hj hopen))
      cases hopen.symm.trans hstill
  · refine freeProxy (hclosed.tame (Nat.le_refl _) (fun _ => .refl _) (fun j hj he => ?_) (fun _ _ hm => .inl hm) rfl
      (List.Subset.refl _) fun _ ha => .inl ha)
    obtain rfl : k = j := Option.some.inj (hepipe.symm.trans he)
    cases (hclosed.reading k hj).1.symm.trans hstill
  · exact freeProxy hclosed

private theorem disconnect (h : Linked n s) (onRelease : Bool) (o : Outcome) :
    Linked n (mediaUvDisconnect s onRelease o).2 := by
  have hshut : Linked n (mediaUvShutdown { s with onRelease } o) := shutdown (s := { s with onRelease }) h o
  simp only [mediaUvDisconnect]
  split_ifs
  · exact h
  · exact freeProxy hshut
  · exact freeProxy h

/-- A continuation other than `close` is taken off the stack. -/
private theorem pop (h : Linked n s) {f : UvFrame} {stack : List UvFrame} (hs : s.stack = f :: stack)
    (hf : ∀ k, f ≠ .close k) : Linked n { s with stack } := by
  refine h.tame (Nat.le_refl _) (fun _ => .refl _) (fun _ _ he => he) (fun k _ hm => .inl ?_) rfl (List.Subset.refl _)
    fun _ ha => .inl ha
  rw [hs] at hm
  exact (List.mem_cons.1 hm).resolve_left (Ne.symm (hf k))

private theorem runFrame (h : Linked n s) (hdistinct : s.writings.Distinct) {f : UvFrame} {stack : List UvFrame}
    (hs : s.stack = f :: stack) (hg : RepliesKept { n with proxy := s } (.client .run o))
    (hfault : (runFrame c { s with stack } o f).fault = none) : Linked n (runFrame c { s with stack } o f) := by
  have htop : s.stack.head? = some f := by rw [hs]; rfl
  cases f with
  | user callback => exact h.pop hs (by rintro _ ⟨⟩)
  | writeCb writing => exact (h.pop hs (by rintro _ ⟨⟩)).mark rfl rfl rfl
  | handleParcel writing pipe =>
    have hmark : Linked n { s with stack, writings := s.writings.setResponsed writing } :=
      (h.pop hs (by rintro _ ⟨⟩)).mark rfl rfl rfl
    have hpush : Linked n (MediaProxyPriv.push { s with
        stack, writings := s.writings.setResponsed writing, flags := { s.flags with connecting := false } }
        [.applyWritings pipe]) := LinksSound.push hmark _
    simp only [RepliesKept, htop] at hg
    simp only [MediaFramework.runFrame] at hfault ⊢
    split_ifs at hfault ⊢ with hconnecting hflags
    · -- `MEDIA_PROXYFLAG_LISTENING` is the only other flag
      have hreads : ¬ ReadsEvents s := by
        refine hg ?_
        simp only [MediaProxyPriv.push, ProxyFlags.mk.injEq] at hflags
        rcases hall : s.flags with ⟨connecting, listening, reconnect, disconnect⟩
        simp_all
      refine hpush.listenOne ?_ hreads hfault
      exact ⟨hdistinct.fresh, hdistinct.nodup, hdistinct.acks, hdistinct.pending⟩
    · exact hpush
    · exact hmark
  | applyWritings pipe =>
    simp only [MediaFramework.runFrame]
    split <;> exact LinksSound.push (h.pop hs (by rintro _ ⟨⟩)) _
  | applyQuit pipe =>
    have hpop := h.pop hs (by rintro _ ⟨⟩)
    simp only [RepliesKept, htop] at hg
    simp only [MediaFramework.runFrame]
    split_ifs with hdisconnect hreconnect
    · exact LinksSound.push hpop _
    · have hkept := hg ⟨by simpa using hdisconnect, hreconnect⟩
      have hpush : Linked n (MediaProxyPriv.push { s with stack, flags := { s.flags with reconnect := false } }
          [.close pipe]) := LinksSound.push hpop _
      refine hpush.reconnectOne (fun hcpus => ?_) (fun _ => ?_) c o
      · exact hkept.resolve_right fun hlast => hcpus hlast.1
      · exact hkept.imp_right fun hlast => ⟨pipe, hlast.2, List.mem_cons_self ..⟩
    · exact hpop
  | deliveryWriting => exact LinksSound.push (h.pop hs (by rintro _ ⟨⟩)) _
  | deliveryLoop writing =>
    cases writing with
    | none => exact h.pop hs (by rintro _ ⟨⟩)
    | some w => exact (h.pop hs (by rintro _ ⟨⟩)).deliveryLoop hdistinct w hfault
  | close k =>
    have hlength : s.pipes.length = (mediaUvClose s k).pipes.length := (List.length_modify ..).symm
    refine h.tame (Nat.le_of_eq hlength) (tame_modify tame_close s.pipes k) (fun _ _ he => he) (fun j hj hm => ?_) rfl
      (List.Subset.refl _) fun _ ha => .inl ha
    rw [hs] at hm
    rcases List.mem_cons.1 hm with hm | hm
    · cases hm
      exact .inr (closing_of_close s (h.bound k hj))
    · exact .inl hm
  | restoreFlags flags => exact h.pop hs (by rintro _ ⟨⟩)
  | readStart =>
    have hpop := h.pop hs (by rintro _ ⟨⟩)
    simp only [MediaFramework.runFrame]
    split
    · exact hpop
    · rename_i pipe hpipe
      exact hpop.startReading (.inr hpipe)
  | freeProxy => exact h.pop hs (by rintro _ ⟨⟩)

end Linked

private theorem pipe_of_any {f : MediaPipePriv → Bool} {k : Nat} (h : s.pipes[k]?.any f = true) :
    f (s.pipe k) = true := by
  obtain ⟨p, hp, hf⟩ := (Option.any_eq_true _ _).1 h
  rwa [MediaProxyPriv.pipe, pipeOf, List.getD_eq_getElem?_getD, hp]

/-! ### The steps of a proxy with its servers -/

/-- What every step that meets the condition keeps. -/
structure UvServed.Sound (n : UvServed) : Prop where
  linked : Linked n n.proxy
  distinct : n.proxy.writings.Distinct
  asserted : n.proxy.aborted = false

namespace UvServed.Sound

variable {n n' : UvServed} {k : Nat}

theorem repliesMatch (h : n.Sound) : n.RepliesMatch := ⟨h.linked.answers, h.asserted⟩

/-- The assertion holds when a reply is read: the request it is for is waiting. -/
private theorem awaited (h : n.Sound) {pipe parcel : Nat} (hready : (UvInput.parcel pipe parcel).ready n.proxy = true)
    (hagrees : n.agrees (.parcel pipe parcel) = true) (hg : RepliesKept n (.client (.parcel pipe parcel) o))
    (hepipe : n.proxy.epipe ≠ some pipe) : ∃ w rest replies,
      n.proxy.writings.sentq = w :: rest ∧ (n.link pipe).toClient = (w, parcel) :: replies ∧
      n.proxy.cpipe = some pipe ∧ Awaiting rest n.lost
        ({ n.link pipe with toClient := replies }.way (n.proxy.pipe pipe).sent) := by
  simp only [UvInput.ready, Bool.and_eq_true, List.isEmpty_iff] at hready
  obtain ⟨hopen, hpipe⟩ := h.linked.reading pipe (pipe_of_any hready.2)
  have hcpipe := hpipe.resolve_right hepipe
  simp only [UvServed.agrees, hepipe, decide_false, Bool.false_or] at hagrees
  obtain ⟨⟨w, parcel'⟩, hhead, hparcel⟩ := (Option.any_eq_true _ _).1 hagrees
  obtain ⟨replies, hreplies⟩ := List.head?_eq_some_iff.1 hhead
  obtain rfl : parcel' = parcel := by simpa using hparcel
  have hawaiting := h.linked.awaiting pipe hcpipe hopen (by simp [hready.1])
  simp only [UvLink.way, hreplies, List.map_cons, List.cons_append] at hawaiting
  obtain ⟨rest, hrest, hleft⟩ := hawaiting.answer (hg hepipe)
  exact ⟨w, rest, replies, hrest, hreplies, hcpipe, hleft⟩

/-- A step of the proxy other than reading a parcel. -/
private theorem step (h : n.Sound) (hready : i.ready n.proxy = true) (hagrees : n.agrees i = true)
    (hg : RepliesKept n (.client i o)) (hfault : (uvStep c n.proxy o i).fault = none)
    (hi : ∀ pipe parcel, i ≠ .parcel pipe parcel) : Linked n (uvStep c n.proxy o i) := by
  cases i with
  | send ack => exact h.linked.send h.distinct ack hfault
  | listen onListen => exact h.linked.listen h.distinct onListen hfault
  | reconnect =>
    simp only [uvStep, mediaUvReconnect] at hfault ⊢
    split_ifs with hepipe hflags
    · exact h.linked
    · have hsentq := hg ⟨by simpa using hepipe, hflags⟩
      exact h.linked.reconnectOne (fun _ => hsentq) (fun _ => .inl hsentq) c o
    · exact h.linked
  | disconnect onRelease => exact h.linked.disconnect onRelease o
  | run =>
    simp only [uvStep] at hfault ⊢
    split
    · exact h.linked
    · rename_i f stack hs
      simp only [hs] at hfault
      split_ifs at hfault ⊢
      · cases hfault
      · exact h.linked.runFrame h.distinct hs hg hfault
  | connectCb pipe status =>
    simp only [UvInput.ready, Bool.and_eq_true] at hready
    have hpipe := pipe_of_any hready.2
    simp only [MediaPipePriv.ready, Bool.and_eq_true, Bool.or_eq_true, Bool.not_eq_true', decide_eq_true_eq] at hpipe
    exact h.linked.connectOneCb hpipe.1 fun hstatus => hpipe.2.resolve_right (Int.not_lt.2 hstatus)
  | writeCb pipe w status =>
    have herased : Linked n (n.proxy.modifyPipe pipe fun p => { p with writes := p.writes.erase w }) :=
      h.linked.modify (f := fun p => { p with writes := p.writes.erase w })
        (fun p => ⟨rfl, id, fun hp => ⟨hp, id⟩, id⟩) pipe
    refine herased.writeCb (fun hstatus => ?_) hfault
    simpa [UvServed.agrees, hstatus] using (Bool.and_eq_true_iff.1 hagrees).2
  | parcel pipe parcel => exact absurd rfl (hi pipe parcel)
  | readErr pipe => exact h.linked.close pipe
  | listenCb pipe status => exact h.linked.listenOneCb hg pipe status o
  | shutdownCb pipe =>
    have hshut : Linked n (n.proxy.modifyPipe pipe fun p => { p with shutting := false }) :=
      h.linked.modify (f := fun p => { p with shutting := false }) (fun p => ⟨rfl, id, fun hp => ⟨hp, id⟩, id⟩) pipe
    exact hshut.close pipe
  | closeCb pipe =>
    simp only [UvInput.ready, Bool.and_eq_true] at hready
    have hpipe := pipe_of_any hready.2
    simp only [MediaPipePriv.ready, Bool.and_eq_true] at hpipe
    exact h.linked.closeCb hpipe.1.1.1.1

/-- The proxy reads a parcel. -/
private theorem parcel (h : n.Sound) {pipe parcel : Nat} (hready : (UvInput.parcel pipe parcel).ready n.proxy = true)
    (hagrees : n.agrees (.parcel pipe parcel) = true) (hg : RepliesKept n (.client (.parcel pipe parcel) o)) :
    Linked { n with link := n.linksAfter (.parcel pipe parcel) } (uvStep c n.proxy o (.parcel pipe parcel)) := by
  simp only [uvStep, mediaUvHandleParcel, UvServed.linksAfter]
  split_ifs with hepipe
  · exact LinksSound.push h.linked _
  · obtain ⟨w, rest, replies, hsentq, hreplies, hcpipe, hawaiting⟩ := h.awaited hready hagrees hg hepipe
    have hold := h.linked
    have hlink : ∀ k, (Function.update n.link pipe { n.link pipe with toClient := replies } k).gone =
        (n.link k).gone ∧ ∀ a ∈ (Function.update n.link pipe { n.link pipe with toClient := replies } k).toClient,
          a ∈ (n.link k).toClient := by
      intro k
      by_cases hk : k = pipe
      · subst hk
        refine ⟨by simp, fun a ha => ?_⟩
        rw [hreplies]
        exact List.mem_cons_of_mem _ (by simpa using ha)
      · simp [hk]
    simp only [hsentq, hreplies, List.tail_cons]
    have hread : LinksSound
        { n with link := Function.update n.link pipe { n.link pipe with toClient := replies } }
        n.proxy.cpipe n.proxy.epipe n.proxy.pipes n.proxy.stack (n.proxy.writings.answer w parcel) := by
      refine ⟨hold.bound, fun k hk => ?_, fun k => ?_, hold.sent, hold.lost, fun k hk k' hk' v hv hm => ?_,
        hold.reading, hold.connecting, fun k hk hopen hclose => ?_, fun k a ha => ?_, fun a ha reply hreply => ?_⟩
      · have hne : k ≠ pipe := by
          have := hold.bound pipe hcpipe
          omega
        simpa [hne] using hold.unused k hk
      · dsimp only
        rw [(hlink k).1]
        exact hold.gone k
      · exact hold.others k hk k' hk' v hv (List.mem_of_mem_tail hm)
      · obtain rfl : pipe = k := Option.some.inj (hcpipe.symm.trans hk)
        simpa [Writings.answer, hsentq] using hawaiting
      · exact hold.produced k a ((hlink k).2 a ha)
      · rcases List.mem_append.1 ha with ha | ha
        · exact hold.answers a ha reply hreply
        · rw [List.mem_singleton.1 ha] at hreply ⊢
          obtain rfl : parcel = reply := Option.some.inj hreply
          exact hold.produced pipe _ (by rw [hreplies]; exact List.mem_cons_self ..)
    exact LinksSound.push hread _

/-- The next writing of a pipe goes out or fails. -/
private theorem transmit (h : n.Sound) {k : Nat} {arrives : Bool} {w : MediaWritePriv}
    (hw : (n.proxy.pipe k).sent[(n.link k).gone]? = some w) : (n.transmit k arrives w).Sound := by
  have hold := h.linked
  obtain ⟨hlt, hget⟩ := List.getElem?_eq_some_iff.1 hw
  have hsent : w ∈ (n.proxy.pipe k).sent := hget ▸ List.getElem_mem hlt
  have hdrop : (n.proxy.pipe k).sent.drop (n.link k).gone = w :: (n.proxy.pipe k).sent.drop ((n.link k).gone + 1) := by
    rw [List.drop_eq_getElem_cons hlt, hget]
  refine ⟨⟨hold.bound, fun j hj => ?_, fun j => ?_, hold.sent, fun v hv => ?_, hold.others, hold.reading,
    hold.connecting, fun j hj hopen hclose => ?_, fun j a ha => ?_, hold.answers⟩, h.distinct, h.asserted⟩
  · have hne : j ≠ k := by
      rintro rfl
      have hnone : n.proxy.pipes[j]? = none := List.getElem?_eq_none hj
      simp [MediaProxyPriv.pipe, pipeOf, List.getD_eq_getElem?_getD, hnone, mediaUvAllocPipe] at hsent
    simpa [UvServed.transmit, hne] using hold.unused j hj
  · by_cases hj : j = k
    · subst hj
      simpa [UvServed.transmit] using Nat.succ_le_of_lt hlt
    · simpa [UvServed.transmit, hj] using hold.gone j
  · cases arrives with
    | true => exact hold.lost v hv
    | false =>
      rcases List.mem_append.1 hv with hv | hv
      · exact hold.lost v hv
      · rw [List.mem_singleton.1 hv]
        exact hold.sent k w hsent
  · have hawaiting := hold.awaiting j hj hopen hclose
    by_cases hjk : j = k
    · subst hjk
      rw [UvLink.way, hdrop] at hawaiting
      cases arrives with
      | true =>
        rw [List.filter_cons] at hawaiting
        cases hreq : w.isRequest <;> simpa [UvServed.transmit, UvLink.way, hreq] using hawaiting
      | false =>
        by_cases hack : w.code = MEDIA_PARCEL_SEND_ACK
        · rw [List.filter_cons_of_pos (by simp [MediaWritePriv.isRequest, hack]), ← List.append_assoc] at hawaiting
          have hnodup := (List.nodup_append.1 h.distinct.nodup).2.1
          simpa [UvServed.transmit, UvLink.way] using hawaiting.lose hnodup
        · rw [List.filter_cons_of_neg (by simp [MediaWritePriv.isRequest, hack])] at hawaiting
          have hother : w ∉ n.proxy.writings.sentq := fun hm => hack (h.distinct.acks w hm)
          simpa [UvServed.transmit, UvLink.way] using hawaiting.loseOther hother
    · have hother := hold.others j hj k (Ne.symm hjk) w hsent
      cases arrives with
      | true => simpa [UvServed.transmit, hjk] using hawaiting
      | false => simpa [UvServed.transmit, hjk] using hawaiting.loseOther hother
  · by_cases hj : j = k
    · subst hj
      exact hold.produced j a (by simpa [UvServed.transmit] using ha)
    · exact hold.produced j a (by simpa [UvServed.transmit, hj] using ha)

/-- The server of a pipe handles a parcel. -/
private theorem serve (h : n.Sound) {k reply : Nat} {w : MediaWritePriv} (hw : (n.link k).toServer.head? = some w) :
    (n.serve k w reply).Sound := by
  have hold := h.linked
  obtain ⟨rest, hrest⟩ := List.head?_eq_some_iff.1 hw
  have hproduced : ∀ a ∈ n.produced, a ∈ (n.serve k w reply).produced := by
    intro a ha
    unfold UvServed.serve
    dsimp only
    split
    · exact List.mem_append_left _ ha
    · exact ha
  have hkept : (n.serve k w reply).proxy = n.proxy ∧ (n.serve k w reply).lost = n.lost ∧
      (∀ j, ((n.serve k w reply).link j).gone = (n.link j).gone) ∧
      ∀ j, j ≠ k → (n.serve k w reply).link j = n.link j := by
    unfold UvServed.serve
    dsimp only
    split
    · refine ⟨rfl, rfl, fun j => ?_, fun j hj => by simp [hj]⟩
      by_cases hj : j = k
      · subst hj
        simp
      · simp [hj]
    · refine ⟨rfl, rfl, fun j => ?_, fun j hj => by simp [hj]⟩
      by_cases hj : j = k
      · subst hj
        simp
      · simp [hj]
  obtain ⟨hproxy, hlost, hgone, hothers⟩ := hkept
  have hlink : (∀ sent, ((n.serve k w reply).link k).way sent = (n.link k).way sent) ∧
      ∀ a ∈ ((n.serve k w reply).link k).toClient, a ∈ (n.serve k w reply).produced := by
    unfold UvServed.serve
    by_cases hack : w.code = MEDIA_PARCEL_SEND_ACK
    · simp only [hack, if_true]
      refine ⟨fun sent => ?_, fun a ha => ?_⟩
      · simp [UvLink.way, hrest, MediaWritePriv.isRequest, hack]
      · simp only [Function.update_self, List.mem_append, List.mem_singleton] at ha ⊢
        exact ha.imp_left (hold.produced k a)
    · simp only [hack, if_false]
      refine ⟨fun sent => ?_, fun a ha => ?_⟩
      · simp [UvLink.way, hrest, MediaWritePriv.isRequest, hack]
      · exact hold.produced k a (by simpa using ha)
  refine ⟨?_, hproxy ▸ h.distinct, hproxy ▸ h.asserted⟩
  rw [hproxy]
  refine ⟨hold.bound, fun j hj => ?_, fun j => ?_, hold.sent, hlost ▸ hold.lost, hold.others, hold.reading,
    hold.connecting, fun j hj hopen hclose => ?_, fun j a ha => ?_, fun a ha parcel hparcel => ?_⟩
  · have hne : j ≠ k := by
      rintro rfl
      simp [hold.unused j hj] at hrest
    rw [hothers j hne]
    exact hold.unused j hj
  · rw [hgone]
    exact hold.gone j
  · rw [hlost]
    by_cases hjk : j = k
    · subst hjk
      rw [hlink.1]
      exact hold.awaiting j hj hopen hclose
    · rw [hothers j hjk]
      exact hold.awaiting j hj hopen hclose
  · by_cases hj : j = k
    · subst hj
      exact hlink.2 a ha
    · rw [hothers j hj] at ha
      exact hproduced a (hold.produced j a ha)
  · exact hproduced _ (hold.answers a ha parcel hparcel)

private theorem asserted_step {t t' : UvControl} {fails : Prop} (h : ControlStep t q fails t') (hfails : ¬ fails) :
    t'.aborted = t.aborted := by
  cases h with
  | abort hf => exact absurd hf hfails
  | same | next | exhaust | disconnect | release => rfl

/-- A step of the proxy that does not go wrong. -/
private theorem client (h : n.Sound) (hready : i.ready n.proxy = true) (hagrees : n.agrees i = true)
    (hg : RepliesKept n (.client i o)) (hfault : (uvStep c n.proxy o i).fault = none) :
    UvServed.Sound { n with
      proxy := uvStep c n.proxy o i, link := n.linksAfter i, greetings := n.greetingsAfter i } := by
  have hassert : ¬ FailsAssert n.proxy i := by
    intro hfails
    cases i with
    | parcel pipe parcel =>
      obtain ⟨w, rest, -, hsentq, -⟩ := h.awaited hready hagrees hg hfails.1
      cases hsentq.symm.trans hfails.2
    | _ => exact hfails
  refine ⟨?_, h.distinct.step (uvStep_writings hfault),
    (asserted_step (uvStep_control c n.proxy o i) hassert).trans h.asserted⟩
  cases i with
  | parcel pipe parcel => exact (h.parcel (c := c) hready hagrees hg).served rfl rfl rfl
  | _ => exact (h.step hready hagrees hg hfault nofun).served rfl rfl rfl

theorem next (h : n.Sound) {i : UvServedInput} (hg : RepliesKept n i) (hn : uvServedNext c n i = some n') :
    n'.Sound := by
  cases i with
  | client i o =>
    simp only [uvServedNext] at hn
    split at hn
    · rename_i hagrees
      obtain ⟨proxy, hproxy, hn⟩ := Option.map_eq_some_iff.1 hn
      obtain ⟨hready, ⟨fault, rfl⟩ | ⟨rfl, hfault⟩⟩ := uvNext_cases hproxy
      · rw [if_pos (show (n.proxy.crash fault).fault.isSome = true from rfl)] at hn
        rw [← hn]
        exact ⟨h.linked.served rfl rfl rfl, h.distinct, h.asserted⟩
      · rw [if_neg (by simp [hfault])] at hn
        rw [← hn]
        exact h.client hready hagrees hg hfault
    · cases hn
  | transmit pipe arrives =>
    obtain ⟨w, hw, rfl⟩ := Option.map_eq_some_iff.1 hn
    exact h.transmit hw
  | serve pipe reply =>
    obtain ⟨w, hw, rfl⟩ := Option.map_eq_some_iff.1 hn
    exact h.serve hw

theorem start (c : UvConfig) (cpu : String) (cpus : List String) :
    UvServed.Sound { proxy := mediaUvConnect c cpu cpus {} } := by
  have hwritings := mediaUvConnectOne_writings c { cpu := some cpu, cpus } {}
  have hfirst : Linked { proxy := mediaUvConnect c cpu cpus {} } { cpu := some cpu, cpus } :=
    ⟨nofun, fun _ _ => rfl, fun _ => Nat.zero_le _, nofun, nofun, nofun, nofun, nofun, nofun, nofun, nofun⟩
  refine ⟨hfirst.connectOne rfl nofun c {}, ?_, ?_⟩
  · unfold mediaUvConnect
    rw [hwritings]
    exact ⟨nofun, List.nodup_nil, nofun, nofun⟩
  · exact congrArg UvControl.aborted (mediaUvConnectOne_control c { cpu := some cpu, cpus } {})

end UvServed.Sound

/-- In every run in which a reconnection finds `sentq` empty, no reply is read while the head of `sentq` has failed to
be written, and an event pipe that is read is not replaced, every reply goes to the request that caused it. -/
theorem uvRun_repliesMatch {cpu : String} {cpus : List String} {n : UvServed}
    (h : (uvServedMachine c cpu cpus).ReachableVia RepliesKept n) : n.RepliesMatch := by
  have hsound : n.Sound := by
    refine h.invariant (UvServed.Sound.start c cpu cpus) ?_
    intro n i n' hn hg hnext
    exact hn.next hg hnext
  exact hsound.repliesMatch

/-! ### A run that meets the condition, and a disciplined one that does not -/

/-- How the callers in this repository use a proxy: one request is sent in each `on_connect` that reports a
connection, and `media_uv_reconnect` is called by the `on_receive` of such a request. -/
def Disciplined (s : UvServed) : UvServedInput → Prop
  | .client .reconnect _ =>
    match s.proxy.stack.head? with
    | some (.user (.onReceive w _)) => w.inConnect = true
    | _ => False
  | .client .run _ =>
    match s.proxy.stack.head? with
    | some (.user (.onConnect ret)) => 0 ≤ ret → s.greetings = 1
    | _ => True
  | _ => True

instance (s : MediaProxyPriv) : Decidable (ReadsEvents s) :=
  inferInstanceAs (Decidable (∃ pipe ∈ s.epipe, _))

instance (s : UvServed) (i : UvServedInput) : Decidable (RepliesKept s i) := by
  unfold RepliesKept
  split
  · infer_instance
  · infer_instance
  · infer_instance
  · split <;> infer_instance
  · infer_instance

instance (s : UvServed) (i : UvServedInput) : Decidable (Disciplined s i) := by
  unfold Disciplined
  split
  · split <;> infer_instance
  · split <;> infer_instance
  · infer_instance

instance UvServed.decidableRepliesMatch (s : UvServed) : Decidable s.RepliesMatch :=
  decidable_of_iff (_ ∧ _) ⟨fun h => ⟨h.1, h.2⟩, fun h => ⟨h.1, h.2⟩⟩

/-- A client may connect to a server of each of two cpus. -/
def sampleServedRunFrom (g : UvServed → UvServedInput → Prop) [∀ s i, Decidable (g s i)]
    (inputs : List UvServedInput) : Option UvServed :=
  (uvServedMachine ⟨"ap", true⟩ "ap" ["cp"]).runFrom g (uvServedMachine ⟨"ap", true⟩ "ap" ["cp"]).start inputs

/-- The proxy takes the steps, with library calls that succeed. -/
def sampleClient (inputs : List UvInput) : List UvServedInput := inputs.map fun i => .client i {}

/-- The first server turns the client away, which then sends two requests to the second one. -/
def sampleServedRun : UvServed :=
  (sampleServedRunFrom RepliesKept
    (sampleClient ([UvInput.connectCb 0 0, .send true] ++ sampleUvSteps 2) ++
      [UvServedInput.transmit 0 true, .serve 0 1] ++
      sampleClient ([UvInput.parcel 0 1, .reconnect] ++ sampleUvSteps 5 ++ [UvInput.connectCb 1 0, .send true] ++
        sampleUvSteps 2) ++
      [UvServedInput.transmit 1 true, .serve 1 2] ++
      sampleClient ([UvInput.parcel 1 2] ++ sampleUvSteps 6 ++ [UvInput.send true, .send false]) ++
      [UvServedInput.transmit 1 true, .transmit 1 true, .serve 1 3] ++ sampleClient [.parcel 1 3])).get (by decide)

theorem uvRun_repliesMatch_sample : sampleServedRun.RepliesMatch := by
  have h : (uvServedMachine ⟨"ap", true⟩ "ap" ["cp"]).ReachableVia RepliesKept sampleServedRun :=
    Machine.reachableVia_get (by decide)
  exact uvRun_repliesMatch h

/-- The client listens in `on_connect`, and the connection for events reaches it before the first reply, so that a
request it sent meanwhile goes to the first server. The server gives up the event pipe and turns the client away. -/
def sampleServedStaleRun : UvServed :=
  (sampleServedRunFrom Disciplined
    (sampleClient ([UvInput.connectCb 0 0, .send true, .listen true] ++ sampleUvSteps 2 ++ [UvInput.send true]) ++
      [UvServedInput.transmit 0 true, .transmit 0 true, .serve 0 1, .serve 0 0] ++
      sampleClient ([UvInput.listenCb 1 0] ++ sampleUvSteps 5 ++ [UvInput.readErr 2, .closeCb 2]) ++
      sampleClient ([UvInput.parcel 0 1, .reconnect] ++ sampleUvSteps 5 ++ [UvInput.connectCb 3 0, .send true] ++
        sampleUvSteps 2) ++
      [UvServedInput.transmit 3 true, .serve 3 2] ++ sampleClient [.parcel 3 2])).get (by decide)

/-- A disciplined client can take the reply to one request for one to another. -/
theorem uvRun_not_repliesMatch : ¬ ∀ (c : UvConfig) (cpu : String) (cpus : List String) (n : UvServed),
    (uvServedMachine c cpu cpus).ReachableVia Disciplined n → n.RepliesMatch := by
  intro h
  have hmatch := h ⟨"ap", true⟩ "ap" ["cp"] sampleServedStaleRun (Machine.reachableVia_get (by decide))
  revert hmatch
  decide

end MediaFramework
