import MediaFramework.Client.MediaRequests
import MediaFramework.Client.MediaUv
import MediaFramework.Parcel.ParcelHeap

/-!
# The memory of requests

A function of the client library that makes a request builds it in a parcel of its own.  `media_uv_send` makes a copy of
it, and the function gives the memory of its parcel back.  Three of them return before that when the parcel cannot be
built: then a block is lost, if the parcel has grown into one for the arguments before the one that there was no memory
for.
-/

namespace MediaFramework

open ParcelHeap

/-! ### The functions

`i` is the parcel of a function, and `addrs` are what `malloc` or `realloc` returns for the arguments. -/

def mediaParcelAppendVprintfAt (w : SizeT) (i : Nat) :
    ParcelHeap → List Char → List ParcelArg → List (Option Nat) → Option (Int × ParcelHeap)
  | s, [], _, _ => some (0, s)
  | s, c :: fmt, ap, addrs =>
    match conversion c with
    | none => mediaParcelAppendVprintfAt w i s fmt ap addrs
    | some conv =>
      match ap with
      | [] => none
      | arg :: ap =>
        if arg.conversion = conv then
          (mediaParcelAppendAt w s i arg.encode (addrs.headD none)).bind fun r =>
            if r.1 < 0 then some r else mediaParcelAppendVprintfAt w i r.2 fmt ap addrs.tail
        else none

/-- The part of `media_uv_alloc_writing` that is about its parcel, when there is one to copy. -/
def mediaUvAllocWritingAt (w : SizeT) (s : ParcelHeap) (writing code i : Nat) (addr : Option Nat) :
    Option ParcelHeap :=
  (mediaParcelCloneAt w (mediaParcelInitAt s writing) writing i addr).bind fun r =>
    (r.2.parcel writing).map fun p => r.2.write (p.withCode code).mem (r.2.chunk writing)

/-- What `media_uv_send` returns; the parcel of the writing with what `malloc` returns for its block, if a writing is
made; and whether the writing is freed before `media_uv_send` returns, as one that is not written may be. -/
structure UvSent where
  ret : Int
  writing : Option (Nat × Option Nat)
  freed : Bool

/-- The part of `media_uv_send` that is about parcels. -/
def mediaUvSendAt (w : SizeT) (s : ParcelHeap) (i : Nat) (ack : Bool) (o : UvSent) : Option (Int × ParcelHeap) :=
  match o.writing with
  | none => some (o.ret, s)
  | some (writing, addr) =>
    (mediaUvAllocWritingAt w s writing (sendCode ack) i addr).bind fun s =>
      (if o.freed then mediaParcelDeinitAt s writing else some s).map fun s => (o.ret, s)

/-- What `media_uv_stream_send`, `media_uv_session_send` and `media_uv_focus_send` do with their arguments. -/
def uvRequestAt (w : SizeT) (s : ParcelHeap) (i : Nat) (fmt : List Char) (args : List ParcelArg)
    (addrs : List (Option Nat)) (ack : Bool) (o : UvSent) : Option (Int × ParcelHeap) :=
  (mediaParcelAppendVprintfAt w i (mediaParcelInitAt s i) fmt args addrs).bind fun r =>
    if r.1 < 0 then some r
    else (mediaUvSendAt w r.2 i ack o).bind fun r => (mediaParcelDeinitAt r.2 i).map fun s => (r.1, s)

def mediaUvStreamSendAt (w : SizeT) (s : ParcelHeap) (i : Nat) (id : BitVec 32) (target cmd arg : Option CBytes)
    (resLen : BitVec 32) (addrs : List (Option Nat)) (ack : Bool) (o : UvSent) : Option (Int × ParcelHeap) :=
  uvRequestAt w s i "%i%s%s%s%i".toList [.i id, .s target, .s cmd, .s arg, .i resLen] addrs ack o

def mediaUvSessionSendAt (w : SizeT) (s : ParcelHeap) (i : Nat) (target cmd arg : Option CBytes) (resLen : BitVec 32)
    (addrs : List (Option Nat)) (ack : Bool) (o : UvSent) : Option (Int × ParcelHeap) :=
  uvRequestAt w s i "%i%s%s%s%i".toList [.i MEDIA_ID_SESSION, .s target, .s cmd, .s arg, .i resLen] addrs ack o

def mediaUvFocusSendAt (w : SizeT) (s : ParcelHeap) (i : Nat) (target cmd : Option CBytes)
    (addrs : List (Option Nat)) (ack : Bool) (o : UvSent) : Option (Int × ParcelHeap) :=
  uvRequestAt w s i "%i%s%s%i".toList [.i MEDIA_ID_FOCUS, .s target, .s cmd, .i 0] addrs ack o

/-- A call of one of the three. -/
inductive UvRequest
  | stream (id : BitVec 32) (target cmd arg : Option CBytes) (resLen : BitVec 32)
  | session (target cmd arg : Option CBytes) (resLen : BitVec 32)
  | focus (target cmd : Option CBytes)

namespace UvRequest

def fmt : UvRequest → List Char
  | stream .. | session .. => "%i%s%s%s%i".toList
  | focus .. => "%i%s%s%i".toList

def args : UvRequest → List ParcelArg
  | stream id target cmd arg resLen => [.i id, .s target, .s cmd, .s arg, .i resLen]
  | session target cmd arg resLen => [.i MEDIA_ID_SESSION, .s target, .s cmd, .s arg, .i resLen]
  | focus target cmd => [.i MEDIA_ID_FOCUS, .s target, .s cmd, .i 0]

theorem matches_args (r : UvRequest) : Matches r.fmt r.args := by
  cases r <;> rfl

def sendAt (w : SizeT) (s : ParcelHeap) (i : Nat) (r : UvRequest) (addrs : List (Option Nat)) (ack : Bool)
    (o : UvSent) : Option (Int × ParcelHeap) :=
  match r with
  | stream id target cmd arg resLen => mediaUvStreamSendAt w s i id target cmd arg resLen addrs ack o
  | session target cmd arg resLen => mediaUvSessionSendAt w s i target cmd arg resLen addrs ack o
  | focus target cmd => mediaUvFocusSendAt w s i target cmd addrs ack o

theorem sendAt_eq (w : SizeT) (s : ParcelHeap) (i : Nat) (r : UvRequest) (addrs : List (Option Nat)) (ack : Bool)
    (o : UvSent) : r.sendAt w s i addrs ack o = uvRequestAt w s i r.fmt r.args addrs ack o := by
  cases r <;> rfl

end UvRequest

/-! ### What is to be -/

/-- The text after the arguments were appended, up to the first one that there is no memory for. -/
def appendTexts : ParcelText → List ParcelArg → List (Option Nat) → Int × ParcelText
  | t, [], _ => (0, t)
  | t, arg :: ap, addrs =>
    let len := t.payload.length + arg.encode.length
    if len ≤ t.cap ∨ (addrs.headD none).isSome then
      appendTexts { t with payload := t.payload ++ arg.encode, cap := grownCap t.cap len } ap addrs.tail
    else (-ENOMEM, t)

/-- The text of the copy; `media_uv_alloc_writing` does not look whether there was memory for it. -/
def writingText (code : Nat) (t : ParcelText) (addr : Option Nat) : ParcelText :=
  { (if t.cap = MEDIA_PARCEL_DATA_LEN ∨ addr.isSome then t else .empty) with code }

/-- The texts when `media_uv_send` returns for a parcel with text `t`. -/
def sentTexts (texts : Nat → Option ParcelText) (t : ParcelText) (ack : Bool) (o : UvSent) :
    Nat → Option ParcelText :=
  match o.writing with
  | none => texts
  | some (writing, addr) =>
    if o.freed then texts else Function.update texts writing (some (writingText (sendCode ack) t addr))

/-- The parcels with their texts, and those that nobody has any more but that have a block. -/
structure RequestRecord where
  texts : Nat → Option ParcelText := fun _ => none
  lost : Finset Nat := ∅

/-- A request leaves its writing.  It leaves its own parcel as well when there is no memory for an argument and the
parcel has grown before. -/
def RequestRecord.request (v : RequestRecord) (i : Nat) (r : UvRequest) (addrs : List (Option Nat)) (ack : Bool)
    (o : UvSent) : RequestRecord :=
  let built := appendTexts .empty r.args addrs
  if built.1 < 0 then
    if MEDIA_PARCEL_DATA_LEN < built.2.cap then
      { texts := Function.update v.texts i (some built.2), lost := insert i v.lost }
    else v
  else { v with texts := sentTexts v.texts built.2 ack o }

/-! ### Runs -/

/-- A call of a function for parcels, or a request. -/
inductive RequestOp
  | call (op : ParcelOp)
  | request (i : Nat) (r : UvRequest) (addrs : List (Option Nat)) (ack : Bool) (o : UvSent)

def ParcelHeap.take (w : SizeT) (s : ParcelHeap) : RequestOp → Option ParcelHeap
  | .call op => (s.call w op).map Prod.snd
  | .request i r addrs ack o => (r.sendAt w s i addrs ack o).map Prod.snd

def RequestRecord.take (v : RequestRecord) : RequestOp → RequestRecord
  | .call op => { v with texts := (({ texts := v.texts } : ParcelTexts).call op).texts }
  | .request i r addrs ack o => v.request i r addrs ack o

/-- The memory and the record of a run; the memory is lost once a call has no result. -/
def requestRuns (w : SizeT) (garbage : Nat → ParcelStruct) : Machine (Option ParcelHeap × RequestRecord) RequestOp :=
  Machine.recorded
    { start := some { parcels := garbage, blocks := fun _ => none }
      next := fun s op => some (s.bind fun s => s.take w op) }
    {} fun _ op _ v => v.take op

/-- The parcels that a call is about. -/
def ParcelOp.parcels : ParcelOp → List Nat
  | .init i | .append i _ _ | .send i _ _ | .reinit i | .deinit i => [i]
  | .clone dst src _ => [dst, src]

/-- The addresses for the arguments are free when a request begins, and that for the copy is when it is made. -/
def UvRequest.Allocates (w : SizeT) (s : ParcelHeap) (i : Nat) (r : UvRequest) (addrs : List (Option Nat))
    (o : UvSent) : Prop :=
  (∀ a, some a ∈ addrs → s.blocks a = none) ∧
    ∀ q, mediaParcelAppendVprintfAt w i (mediaParcelInitAt s i) r.fmt r.args addrs = some q →
      ∀ x, o.writing = some x → ∀ a, x.2 = some a → q.2.blocks a = none

/-- The calls are proper and about parcels that somebody has, a request has a new parcel for itself and one for its
writing and arguments that are not too long, and the heap does what it should. -/
def RequestsUsed (w : SizeT) (p : Option ParcelHeap × RequestRecord) : RequestOp → Prop
  | .call op => ({ texts := p.2.texts } : ParcelTexts).Proper w op ∧ (∀ j ∈ op.parcels, j ∉ p.2.lost) ∧
      ∀ s, p.1 = some s → s.Allocates op
  | .request i r addrs _ o => p.2.texts i = none ∧
      (∀ x, o.writing = some x → p.2.texts x.1 = none ∧ i ≠ x.1) ∧
      Appendable w MEDIA_PARCEL_DATA_LEN 0 (r.args.map fun arg => arg.encode.length) ∧
      ∀ s, p.1 = some s → r.Allocates w s i addrs o

/-- The blocks that are allocated for a parcel that nobody has any more. -/
def lostBlocks (s : ParcelHeap) (v : RequestRecord) : Set Nat :=
  {a | (s.blocks a).isSome ∧ ∀ j ∉ v.lost, blockOf s { texts := v.texts } j ≠ some a}

/-- Each parcel shows its text, the blocks belong to one of the parcels each, and the lost ones have one. -/
structure RequestMemoryKept (w : SizeT) (s : ParcelHeap) (v : RequestRecord) : Prop where
  kept : TextsKept w s { texts := v.texts }
  lost : ∀ j ∈ v.lost, ∃ t, v.texts j = some t ∧ MEDIA_PARCEL_DATA_LEN < t.cap

/-! ### The parcel of a request -/

section

variable {w : SizeT} {s s' s'' : ParcelHeap} {v v' : ParcelTexts} {i : Nat} {t : ParcelText} {fmt : List Char}
  {args : List ParcelArg} {addrs : List (Option Nat)} {old : Option Nat}

theorem TextsKept.congr (h : TextsKept w s v) (htexts : v'.texts = v.texts) : TextsKept w s v' := by
  have hblock : blockOf s v' = blockOf s v := by
    funext j
    rw [blockOf, blockOf, htexts]
  exact ⟨htexts ▸ h.shows_text, hblock ▸ h.owned⟩

theorem Replaced.trans (h : Replaced s s' i old) (h' : Replaced s' s'' i (s'.chunk i).addr) :
    Replaced s s'' i old := by
  refine ⟨fun j hj => (h'.others j hj).trans (h.others j hj), fun a ha => ?_, fun a ha => ?_⟩
  · by_cases hnew : (s'.chunk i).addr = some a
    · exact h.fresh a hnew
    · have hdead := (h'.fresh a ha).resolve_left hnew
      rw [h.blocks a hnew] at hdead
      by_cases hold : old = some a
      · exact .inl hold
      · rw [if_neg hold] at hdead
        exact .inr hdead
  · rw [h'.blocks a ha]
    by_cases hnew : (s'.chunk i).addr = some a
    · rw [if_pos hnew]
      rcases h.fresh a hnew with hold | hdead
      · rw [if_pos hold]
      · rw [hdead, ite_self]
    · rw [if_neg hnew, h.blocks a hnew]

/-- An address that is free, or the parcel's own, is so afterwards. -/
theorem Replaced.still_fresh {a : Nat} (h : Replaced s s' i (s.chunk i).addr)
    (hfresh : s.blocks a = none ∨ s.chunk i = .block a) : s'.blocks a = none ∨ s'.chunk i = .block a := by
  by_cases hnew : (s'.chunk i).addr = some a
  · exact .inr (addr_eq_some.1 hnew)
  · left
    rw [h.blocks a hnew]
    rcases hfresh with hdead | hown
    · rw [hdead, ite_self]
    · exact if_pos (addr_eq_some.2 hown)

/-- The arguments are appended up to the first one that there is no memory for. -/
theorem appendVprintfAt_spec (h : Shows w s i t) (hmatch : Matches fmt args)
    (hfits : Appendable w t.cap t.payload.length (args.map fun arg => arg.encode.length))
    (hfresh : ∀ a, some a ∈ addrs → s.blocks a = none ∨ s.chunk i = .block a) :
    ∃ s', mediaParcelAppendVprintfAt w i s fmt args addrs = some ((appendTexts t args addrs).1, s') ∧
      Replaced s s' i (s.chunk i).addr ∧ Shows w s' i (appendTexts t args addrs).2 := by
  induction fmt generalizing s t args addrs with
  | nil =>
    obtain rfl : args = [] := List.map_eq_nil_iff.1 hmatch
    exact ⟨s, rfl, .refl s i, h⟩
  | cons c fmt ih =>
    unfold Matches at hmatch
    unfold mediaParcelAppendVprintfAt
    cases hconv : conversion c with
    | none =>
      rw [List.filterMap_cons_none hconv] at hmatch
      exact ih h hmatch hfits hfresh
    | some conv =>
      rw [List.filterMap_cons_some hconv] at hmatch
      obtain ⟨arg, args, rfl, rfl, hmatch'⟩ := List.map_eq_cons_iff.1 hmatch
      obtain ⟨hlen, hcap, hrest⟩ := hfits
      have hhead : ∀ a, addrs.headD none = some a → s.blocks a = none ∨ s.chunk i = .block a := by
        intro a ha
        cases addrs with
        | nil => cases ha
        | cons addr addrs => exact hfresh a (List.mem_cons.2 (.inl ha.symm))
      have happend := h.append hhead hlen hcap
      unfold appendTexts
      dsimp only at happend ⊢
      rw [if_pos rfl]
      split at happend
      · rename_i hroom
        obtain ⟨s₁, hs₁, hr, hshows⟩ := happend
        have hrest' : Appendable w (grownCap t.cap (t.payload.length + arg.encode.length))
            (t.payload ++ arg.encode).length (args.map fun arg => arg.encode.length) := by
          rw [List.length_append]
          exact hrest
        obtain ⟨s₂, hs₂, hr', hshows'⟩ := ih hshows hmatch' hrest' fun a ha =>
          hr.still_fresh (hfresh a (List.mem_of_mem_tail ha))
        rw [if_pos hroom, hs₁, Option.bind_some, if_neg (Int.lt_irrefl 0)]
        exact ⟨s₂, hs₂, hr.trans hr', hshows'⟩
      · rename_i hfull
        obtain ⟨s₁, hs₁, hr, hshows⟩ := happend
        have hfailed : (-ENOMEM : Int) < 0 := by decide
        rw [if_neg hfull, hs₁, Option.bind_some, if_pos hfailed]
        exact ⟨s₁, rfl, hr, hshows⟩

/-- The parcel is built beside those that are there. -/
theorem TextsKept.built (h : TextsKept w s v) (hlocal : v.texts i = none) (hmatch : Matches fmt args)
    (hfits : Appendable w MEDIA_PARCEL_DATA_LEN 0 (args.map fun arg => arg.encode.length))
    (hfresh : ∀ a, some a ∈ addrs → s.blocks a = none) :
    ∃ s', mediaParcelAppendVprintfAt w i (mediaParcelInitAt s i) fmt args addrs =
        some ((appendTexts .empty args addrs).1, s') ∧
      TextsKept w s' (v.put i (some (appendTexts .empty args addrs).2) 0 []) := by
  have hinit : Replaced s (mediaParcelInitAt s i) i none := initAt_replaced (fun _ _ => rfl) fun _ => rfl
  obtain ⟨s', hs', hr, hshows⟩ := appendVprintfAt_spec (initAt_shows w s i) hmatch hfits fun a ha =>
    .inl (hfresh a ha)
  refine ⟨s', hs', h.replace ?_ hshows 0 []⟩
  rw [blockOf, hlocal, Option.bind_none]
  exact hinit.trans hr

theorem TextsKept.deinit (h : TextsKept w s v) (ht : v.texts i = some t) :
    ∃ s', mediaParcelDeinitAt s i = some s' ∧ TextsKept w s' (v.put i none 0 []) := by
  obtain ⟨p, hp, -⟩ := (h.shows_text i t ht).parcel
  obtain ⟨s', hs', hparcels, hblocks⟩ := deinitAt_spec (h.shows_text i t ht).own hp
  have hblock : blockOf s v i = (s.chunk i).addr := by rw [blockOf, ht, Option.bind_some]
  exact ⟨s', hs', h.release hparcels (hblock ▸ hblocks) 0 []⟩

/-- The copy of the parcel for the writing. -/
theorem TextsKept.copied {writing code : Nat} {addr : Option Nat} (h : TextsKept w s v) (ht : v.texts i = some t)
    (hne : i ≠ writing) (hnew : v.texts writing = none) (hcode : code < 2 ^ 32)
    (hfresh : ∀ a, addr = some a → s.blocks a = none) :
    ∃ s', mediaUvAllocWritingAt w s writing code i addr = some s' ∧
      TextsKept w s' (v.put writing (some (writingText code t addr)) 0 []) := by
  have hinit : Replaced s (mediaParcelInitAt s writing) writing none :=
    initAt_replaced (fun _ _ => rfl) fun _ => rfl
  have hsrc : Shows w (mediaParcelInitAt s writing) i t :=
    (h.shows_text i t ht).congr (hinit.others i hne) fun _ _ => rfl
  have hclone : ∃ ret s₁, mediaParcelCloneAt w (mediaParcelInitAt s writing) writing i addr = some (ret, s₁) ∧
      Replaced (mediaParcelInitAt s writing) s₁ writing none ∧
      Shows w s₁ writing (if t.cap = MEDIA_PARCEL_DATA_LEN ∨ addr.isSome then t else .empty) := by
    have hclone := hsrc.clone writing hfresh
    split at hclone
    · rename_i hroom
      rw [if_pos hroom]
      exact ⟨_, hclone⟩
    · rename_i hfull
      rw [if_neg hfull]
      exact ⟨_, hclone⟩
  obtain ⟨ret, s₁, hs₁, hr, hshows⟩ := hclone
  obtain ⟨p, hp, -⟩ := hshows.parcel
  obtain ⟨hr', hshows'⟩ := hshows.withCode hcode hp
  have hcopied : Replaced s s₁ writing none :=
    ⟨fun j hj => (hr.others j hj).trans (hinit.others j hj), hr.fresh, hr.blocks⟩
  refine ⟨_, by rw [mediaUvAllocWritingAt, hs₁, Option.bind_some, hp, Option.map_some], h.replace ?_ hshows' 0 []⟩
  rw [blockOf, hnew, Option.bind_none]
  exact hcopied.trans hr'

theorem sentTexts_ne {texts : Nat → Option ParcelText} {ack : Bool} {o : UvSent} {j : Nat}
    (hne : ∀ x, o.writing = some x → j ≠ x.1) : sentTexts texts t ack o j = texts j := by
  unfold sentTexts
  cases hx : o.writing with
  | none => rfl
  | some x =>
    dsimp only
    split
    · rfl
    · exact Function.update_of_ne (hne x hx) ..

/-- The texts of the others do not depend on the one of the parcel. -/
theorem sentTexts_congr {texts texts' : Nat → Option ParcelText} {ack : Bool} {o : UvSent} {j : Nat}
    (hsame : texts' j = texts j) : sentTexts texts' t ack o j = sentTexts texts t ack o j := by
  unfold sentTexts
  cases o.writing with
  | none => exact hsame
  | some x =>
    dsimp only
    split
    · exact hsame
    · rw [Function.update_apply, Function.update_apply, hsame]

theorem TextsKept.sent (ack : Bool) {o : UvSent} (h : TextsKept w s v) (ht : v.texts i = some t)
    (hwriting : ∀ x, o.writing = some x → v.texts x.1 = none ∧ i ≠ x.1)
    (hfresh : ∀ x, o.writing = some x → ∀ a, x.2 = some a → s.blocks a = none) :
    ∃ s', mediaUvSendAt w s i ack o = some (o.ret, s') ∧ TextsKept w s' { texts := sentTexts v.texts t ack o } := by
  have hcode : sendCode ack < 2 ^ 32 := by cases ack <;> decide
  unfold mediaUvSendAt sentTexts
  cases hx : o.writing with
  | none => exact ⟨s, rfl, h.congr rfl⟩
  | some x =>
    obtain ⟨hnew, hne⟩ := hwriting x hx
    obtain ⟨s₁, hs₁, hcopied⟩ := h.copied ht hne hnew hcode (hfresh x hx)
    dsimp only
    rw [hs₁, Option.bind_some]
    split
    · obtain ⟨s₂, hs₂, hfreed⟩ := hcopied.deinit (ParcelTexts.put_texts_self ..)
      rw [hs₂]
      refine ⟨s₂, rfl, hfreed.congr ?_⟩
      funext j
      by_cases hj : j = x.1
      · rw [hj, ParcelTexts.put_texts_self]
        exact hnew
      · rw [ParcelTexts.put_texts_ne _ hj, ParcelTexts.put_texts_ne _ hj]
    · exact ⟨s₁, rfl, hcopied.congr rfl⟩

theorem TextsKept.heap (h : TextsKept w s v) (ht : v.texts i = some t) :
    (s.chunk i).addr.isSome = decide (MEDIA_PARCEL_DATA_LEN < t.cap) := by
  obtain ⟨p, hp, hpt⟩ := (h.shows_text i t ht).parcel
  rw [← (parcel_fields hp).2.2]
  exact hpt.heap

/-- A parcel that has not grown may be forgotten. -/
theorem TextsKept.forget {ret : Int} {sent : List UInt8} (h : TextsKept w s (v.put i (some t) ret sent))
    (hlocal : v.texts i = none) (hcap : ¬ MEDIA_PARCEL_DATA_LEN < t.cap) : TextsKept w s v := by
  have hself : (v.put i (some t) ret sent).texts i = some t := ParcelTexts.put_texts_self ..
  have haddr : (s.chunk i).addr = none := by
    have hheap := h.heap hself
    rwa [decide_eq_false hcap, Option.isSome_eq_false_iff, Option.isNone_iff_eq_none] at hheap
  have hblock : blockOf s (v.put i (some t) ret sent) i = none := by rw [blockOf, hself, Option.bind_some, haddr]
  have hreleased : TextsKept w s ((v.put i (some t) ret sent).put i none 0 []) := by
    refine h.release rfl (fun a => ?_) 0 []
    rw [hblock]
    rfl
  refine hreleased.congr ?_
  funext j
  by_cases hj : j = i
  · rw [hj, ParcelTexts.put_texts_self, hlocal]
  · rw [ParcelTexts.put_texts_ne _ hj, ParcelTexts.put_texts_ne _ hj]

end

/-! ### Runs of calls and requests -/

section

variable {w : SizeT} {s s' : ParcelHeap} {v : RequestRecord} {i : Nat} {r : UvRequest} {addrs : List (Option Nat)}
  {o : UvSent}

/-- The step of a request. -/
theorem RequestMemoryKept.request (ack : Bool) (h : RequestMemoryKept w s v) (hlocal : v.texts i = none)
    (hwriting : ∀ x, o.writing = some x → v.texts x.1 = none ∧ i ≠ x.1)
    (hfits : Appendable w MEDIA_PARCEL_DATA_LEN 0 (r.args.map fun arg => arg.encode.length))
    (hallocates : r.Allocates w s i addrs o) :
    ∃ ret s', r.sendAt w s i addrs ack o = some (ret, s') ∧ RequestMemoryKept w s' (v.request i r addrs ack o) := by
  have hlost : ∀ j ∈ v.lost, j ≠ i := by
    rintro j hj rfl
    obtain ⟨t, ht, -⟩ := h.lost j hj
    rw [hlocal] at ht
    cases ht
  obtain ⟨s₁, hs₁, hbuilt⟩ := h.kept.built hlocal r.matches_args hfits hallocates.1
  rw [UvRequest.sendAt_eq]
  unfold uvRequestAt RequestRecord.request
  rw [hs₁, Option.bind_some]
  dsimp only
  generalize appendTexts .empty r.args addrs = built at hbuilt
  by_cases hret : built.1 < 0
  · -- the function returns without `media_parcel_deinit`
    rw [if_pos hret, if_pos hret]
    by_cases hcap : MEDIA_PARCEL_DATA_LEN < built.2.cap
    · rw [if_pos hcap]
      refine ⟨_, s₁, rfl, hbuilt.congr rfl, fun j hj => ?_⟩
      rcases Finset.mem_insert.1 hj with rfl | hj
      · exact ⟨built.2, Function.update_self .., hcap⟩
      · obtain ⟨t, ht, htcap⟩ := h.lost j hj
        exact ⟨t, (Function.update_of_ne (hlost j hj) ..).trans ht, htcap⟩
    · rw [if_neg hcap]
      exact ⟨_, s₁, rfl, hbuilt.forget hlocal hcap, h.lost⟩
  · rw [if_neg hret, if_neg hret]
    have hself : (ParcelTexts.put { texts := v.texts } i (some built.2) 0 []).texts i = some built.2 :=
      ParcelTexts.put_texts_self ..
    have hwriting' : ∀ x, o.writing = some x →
        (ParcelTexts.put { texts := v.texts } i (some built.2) 0 []).texts x.1 = none ∧ i ≠ x.1 := by
      intro x hx
      obtain ⟨hnew, hne⟩ := hwriting x hx
      exact ⟨(ParcelTexts.put_texts_ne _ (Ne.symm hne) ..).trans hnew, hne⟩
    obtain ⟨s₂, hs₂, hsent⟩ := hbuilt.sent ack hself hwriting' (hallocates.2 _ hs₁)
    obtain ⟨s₃, hs₃, hkept⟩ := hsent.deinit ((sentTexts_ne fun x hx => (hwriting x hx).2).trans hself)
    rw [hs₂, Option.bind_some, hs₃]
    refine ⟨_, s₃, rfl, hkept.congr ?_, fun j hj => ?_⟩
    · funext j
      by_cases hj : j = i
      · rw [hj, ParcelTexts.put_texts_self, ← hlocal]
        exact sentTexts_ne fun x hx => (hwriting x hx).2
      · rw [ParcelTexts.put_texts_ne _ hj]
        symm
        show _ = sentTexts v.texts built.2 ack o j
        exact sentTexts_congr (ParcelTexts.put_texts_ne _ hj ..)
    · obtain ⟨t, ht, htcap⟩ := h.lost j hj
      refine ⟨t, (sentTexts_ne fun x hx => ?_).trans ht, htcap⟩
      rintro rfl
      rw [(hwriting x hx).1] at ht
      cases ht

theorem ParcelTexts.call_texts_ne {v : ParcelTexts} {op : ParcelOp} {j : Nat} (hj : j ∉ op.parcels) :
    (v.call op).texts j = v.texts j := by
  cases op with
  | init i | reinit i | deinit i => exact ParcelTexts.put_texts_ne v (List.ne_of_not_mem_cons hj) ..
  | append i data addr =>
    have hne : j ≠ i := List.ne_of_not_mem_cons hj
    unfold ParcelTexts.call
    dsimp only
    split
    · rfl
    · split <;> exact ParcelTexts.put_texts_ne v hne ..
  | send i code io =>
    have hne : j ≠ i := List.ne_of_not_mem_cons hj
    unfold ParcelTexts.call
    dsimp only
    split
    · rfl
    · exact ParcelTexts.put_texts_ne v hne ..
  | clone dst src addr =>
    have hne : j ≠ dst := List.ne_of_not_mem_cons hj
    unfold ParcelTexts.call
    dsimp only
    split
    · rfl
    · split <;> exact ParcelTexts.put_texts_ne v hne ..

/-- The step: what is taken has a result. -/
theorem RequestMemoryKept.take {op : RequestOp} (h : RequestMemoryKept w s v) (hused : RequestsUsed w (some s, v) op) :
    ∃ s', s.take w op = some s' ∧ RequestMemoryKept w s' (v.take op) := by
  cases op with
  | call op =>
    obtain ⟨hproper, hothers, hallocates⟩ := hused
    obtain ⟨told, s', hcall, -, hkept⟩ := h.kept.call hproper (hallocates s rfl)
    refine ⟨s', by rw [ParcelHeap.take, hcall, Option.map_some], hkept.congr rfl, fun j hj => ?_⟩
    obtain ⟨t, ht, htcap⟩ := h.lost j hj
    exact ⟨t, (ParcelTexts.call_texts_ne fun hmem => hothers j hmem hj).trans ht, htcap⟩
  | request i r addrs ack o =>
    obtain ⟨hlocal, hwriting, hfits, hallocates⟩ := hused
    obtain ⟨ret, s', hs', hkept⟩ := h.request ack hlocal hwriting hfits (hallocates s rfl)
    exact ⟨s', by rw [ParcelHeap.take, hs', Option.map_some], hkept⟩

/-- Each parcel that is lost takes a block with it. -/
theorem RequestMemoryKept.ncard_lostBlocks (h : RequestMemoryKept w s v) : (lostBlocks s v).ncard = v.lost.card := by
  refine h.kept.owned.ncard_lost v.lost fun j hj => ?_
  obtain ⟨t, ht, hcap⟩ := h.lost j hj
  have hblock : blockOf s { texts := v.texts } j = (s.chunk j).addr := by
    simp only [blockOf, ht, Option.bind_some]
  rw [hblock, h.kept.heap ht]
  exact decide_eq_true hcap

/-- In every run of requests and of calls of the functions for parcels, the texts of the parcels that somebody has are
kept, and one block is lost for each request that had no memory for an argument when its parcel had grown before, none
otherwise. -/
theorem requestRuns_lost (garbage : Nat → ParcelStruct) {p : Option ParcelHeap × RequestRecord}
    (h : Machine.ReachableVia (requestRuns w garbage) (RequestsUsed w) p) :
    ∃ s, p.1 = some s ∧ (∀ j t, p.2.texts j = some t → Shows w s j t) ∧
      (lostBlocks s p.2).ncard = p.2.lost.card := by
  have hkept : ∃ s, p.1 = some s ∧ RequestMemoryKept w s p.2 := by
    refine Machine.ReachableVia.recorded (P := fun heap v => ∃ s, heap = some s ∧ RequestMemoryKept w s v)
      ⟨_, rfl, textsKept_start w garbage, fun j hj => absurd hj (Finset.notMem_empty j)⟩ ?_ h
    rintro heap v op heap' ⟨s, rfl, hkept⟩ hused hnext
    obtain ⟨s', hs', hkept'⟩ := hkept.take hused
    refine ⟨s', ?_, hkept'⟩
    rw [← Option.some_inj.1 hnext, Option.bind_some, hs']
  obtain ⟨s, hs, hkept⟩ := hkept
  exact ⟨s, hs, hkept.kept.shows_text, hkept.ncard_lostBlocks⟩

/-- There is memory for the second argument of a request, and none for the third. -/
def sampleRequest : RequestOp :=
  .request 0 (.stream MEDIA_ID_PLAYER (some ⟨List.replicate 300 1, by decide⟩)
    (some ⟨List.replicate 300 2, by decide⟩) none 0) [none, some 7] true ⟨0, none, false⟩

def sampleRequestRun : Option ParcelHeap × RequestRecord :=
  (ParcelHeap.take .w64 { parcels := sampleGarbage, blocks := fun _ => none } sampleRequest,
    RequestRecord.take {} sampleRequest)

set_option maxRecDepth 4000 in
theorem requestRuns_lost_sample : ∃ s, sampleRequestRun.1 = some s ∧
    (∀ j t, sampleRequestRun.2.texts j = some t → Shows .w64 s j t) ∧
      (lostBlocks s sampleRequestRun.2).ncard = 1 := by
  have hused : RequestsUsed .w64 (requestRuns .w64 sampleGarbage).start sampleRequest := by
    refine ⟨rfl, by rintro x ⟨⟩, ?_, ?_⟩
    · refine ⟨?_, ?_, ?_, ?_, ?_, ?_, ?_, ?_, ?_, ?_, trivial⟩ <;> decide
    · rintro s ⟨⟩
      exact ⟨fun a _ => rfl, by rintro q hq x ⟨⟩⟩
  exact requestRuns_lost sampleGarbage (.step .start hused rfl)

end

end MediaFramework
