import Mathlib.Data.List.Basic
import Mathlib.Logic.Relation

/-!
# The life of messages

A message is allocated, perhaps waits, and is written; somebody else completes the write and may answer the message.
Its memory is freed when both marks are set: that it has been written, and that there is no answer to come any more.
The book says where the messages are.  As long as only such moves are made, a message that is not freed has exactly one
place until it has its answer, and exactly one that keeps it until it has been written; so it is freed once, and not
before it is out of all hands.
-/

/-- Where messages are: in the hands of the code, waiting, sent and without an answer, given to be written, written in
vain while that is told, answered while that is told; and which of them have the two marks. -/
structure MessageLife (α : Type*) where
  allocated : List α := []
  held : List α := []
  pending : List α := []
  sent : List α := []
  flight : List α := []
  failing : List α := []
  answering : List α := []
  written : List α := []
  responsed : List α := []
  closed : Bool := false

namespace MessageLife

variable {α : Type*} {b b' b'' : MessageLife α} {x id : α} {l : List α}

def Freed (b : MessageLife α) (id : α) : Prop := id ∈ b.written ∧ id ∈ b.responsed

/-- Where messages are that are not answered. -/
def places (b : MessageLife α) : List α := b.held ++ b.pending ++ b.sent ++ b.failing ++ b.answering

/-- Where messages are that are not written. -/
def keeps (b : MessageLife α) : List α := b.held ++ b.pending ++ b.failing ++ b.flight

/-- What happens to one message, or to all that wait. -/
inductive Move : MessageLife α → MessageLife α → Prop
  | alloc (b : MessageLife α) {id : α} : b.closed = false → id ∉ b.allocated →
      Move b { b with allocated := b.allocated ++ [id], held := id :: b.held }
  | pend (b : MessageLife α) {id : α} {held : List α} : b.held = id :: held →
      Move b { b with held, pending := b.pending ++ [id] }
  | take (b : MessageLife α) {id : α} {pending : List α} : b.pending.Perm (id :: pending) →
      Move b { b with pending, held := id :: b.held }
  | start (b : MessageLife α) {id : α} {held flight : List α} : b.held = id :: held → flight.Perm (id :: b.flight) →
      Move b { b with held, flight, sent := b.sent ++ [id] }
  | startPlain (b : MessageLife α) {id : α} {held flight : List α} : b.held = id :: held →
      flight.Perm (id :: b.flight) → Move b { b with held, flight, responsed := id :: b.responsed }
  | fail (b : MessageLife α) {id : α} {held : List α} : b.held = id :: held →
      Move b { b with held, failing := id :: b.failing }
  | failPlain (b : MessageLife α) {id : α} {held : List α} : b.held = id :: held →
      Move b { b with held, written := id :: b.written, responsed := id :: b.responsed }
  | complete (b : MessageLife α) {id : α} {flight : List α} : b.flight.Perm (id :: flight) →
      Move b { b with flight, written := id :: b.written }
  | breaks (b : MessageLife α) {id : α} {flight sent : List α} : b.flight.Perm (id :: flight) →
      b.sent.Perm (id :: sent) → Move b { b with flight, sent, failing := id :: b.failing }
  | failed (b : MessageLife α) {id : α} {failing : List α} : b.failing = id :: failing →
      Move b { b with failing, written := id :: b.written, responsed := id :: b.responsed }
  | answer (b : MessageLife α) {id : α} {sent : List α} : b.sent = id :: sent →
      Move b { b with sent, answering := id :: b.answering }
  | answered (b : MessageLife α) {id : α} {answering : List α} : b.answering = id :: answering →
      Move b { b with answering, responsed := id :: b.responsed }
  | clear (b : MessageLife α) : (∀ id ∈ b.sent, id ∉ b.flight) →
      Move b { b with
        sent := []
        pending := []
        written := (b.sent ++ b.pending) ++ b.written
        responsed := (b.sent ++ b.pending) ++ b.responsed }
  | close (b : MessageLife α) : b.places = [] → b.flight = [] → Move b { b with closed := true }

/-- One move after the other. -/
abbrev Moves : MessageLife α → MessageLife α → Prop := Relation.ReflTransGen Move

variable [DecidableEq α]

/-- A mark as a number. -/
def flag (l : List α) (x : α) : Nat := if x ∈ l then 1 else 0

theorem flag_le_one (l : List α) (x : α) : flag l x ≤ 1 := by
  unfold flag
  split <;> omega

theorem flag_of_mem (h : x ∈ l) : flag l x = 1 := if_pos h

theorem flag_of_notMem (h : x ∉ l) : flag l x = 0 := if_neg h

theorem mem_of_flag (h : flag l x = 1) : x ∈ l := by
  by_contra hx
  rw [flag_of_notMem hx] at h
  cases h

/-- A mark is set that was not set before. -/
theorem flag_cons (h : id ∉ l) (x : α) : flag (id :: l) x = flag l x + if id == x then 1 else 0 := by
  by_cases hx : id = x
  · subst hx
    rw [flag_of_mem List.mem_cons_self, flag_of_notMem h, beq_self_eq_true, if_pos rfl]
  · have hiff : x ∈ id :: l ↔ x ∈ l := by simp [Ne.symm hx]
    rw [if_neg (by simp [hx])]
    simp only [flag, hiff, Nat.add_zero]

/-- Every message that was allocated has one place unless it is answered, and one that keeps it unless it is written.
When the book is closed, there is none left. -/
structure Sound (b : MessageLife α) : Prop where
  nodup : b.allocated.Nodup
  unanswered : ∀ x, b.places.count x + flag b.responsed x = flag b.allocated x
  unwritten : ∀ x, b.keeps.count x + flag b.written x = flag b.allocated x
  closed : b.closed = true → b.places = [] ∧ b.flight = []

/-- What is freed is marked no more. -/
def Frozen (b b' : MessageLife α) : Prop :=
  ∀ x, b.Freed x → b'.written.count x = b.written.count x ∧ b'.responsed.count x = b.responsed.count x

namespace Sound

theorem notMem_responsed (h : b.Sound) (hx : x ∈ b.places) : x ∉ b.responsed := by
  intro hr
  have hcount := List.count_pos_iff.2 hx
  have hopen := h.unanswered x
  have hle := flag_le_one b.allocated x
  rw [flag_of_mem hr] at hopen
  omega

theorem notMem_written (h : b.Sound) (hx : x ∈ b.keeps) : x ∉ b.written := by
  intro hw
  have hcount := List.count_pos_iff.2 hx
  have hopen := h.unwritten x
  have hle := flag_le_one b.allocated x
  rw [flag_of_mem hw] at hopen
  omega

theorem mem_allocated (h : b.Sound) (hx : x ∈ b.places ∨ x ∈ b.keeps ∨ x ∈ b.written ∨ x ∈ b.responsed) :
    x ∈ b.allocated := by
  have hplaces := h.unanswered x
  have hkeeps := h.unwritten x
  apply mem_of_flag
  have hle := flag_le_one b.allocated x
  rcases hx with hx | hx | hx | hx
  · have hcount := List.count_pos_iff.2 hx
    omega
  · have hcount := List.count_pos_iff.2 hx
    omega
  · rw [flag_of_mem hx] at hkeeps
    omega
  · rw [flag_of_mem hx] at hplaces
    omega

/-- When the book is closed, all messages have been freed. -/
theorem freed_of_closed (h : b.Sound) (hclosed : b.closed = true) (hx : x ∈ b.allocated) : b.Freed x := by
  obtain ⟨hplaces, hflight⟩ := h.closed hclosed
  have hkeeps : b.keeps = [] := by
    simp only [places, List.append_eq_nil_iff] at hplaces
    simp [keeps, hplaces, hflight]
  have hopen := h.unanswered x
  have hunwritten := h.unwritten x
  rw [hplaces, List.count_nil, flag_of_mem hx] at hopen
  rw [hkeeps, List.count_nil, flag_of_mem hx] at hunwritten
  exact ⟨mem_of_flag (by omega), mem_of_flag (by omega)⟩

/-- A message goes from one place to another, or is marked. -/
theorem of_counts (h : b.Sound) (id : α) (hid : id ∈ b.places ∨ id ∈ b.flight) (hallocated : b'.allocated = b.allocated)
    (hclosed : b'.closed = b.closed)
    (hplaces : ∀ x, b'.places.count x + flag b'.responsed x = b.places.count x + flag b.responsed x)
    (hkeeps : ∀ x, b'.keeps.count x + flag b'.written x = b.keeps.count x + flag b.written x) : b'.Sound where
  nodup := hallocated ▸ h.nodup
  unanswered x := by rw [hplaces, h.unanswered, hallocated]
  unwritten x := by rw [hkeeps, h.unwritten, hallocated]
  closed hc := by
    obtain ⟨hnone, hnone'⟩ := h.closed (hclosed ▸ hc)
    simp [hnone, hnone'] at hid

/-- A new message is held by the code. -/
private theorem alloc (h : b.Sound) (hclosed : b.closed = false) (hnew : id ∉ b.allocated) :
    Sound { b with allocated := b.allocated ++ [id], held := id :: b.held } := by
  have hflag : ∀ x, flag (b.allocated ++ [id]) x = flag b.allocated x + if id == x then 1 else 0 := by
    intro x
    rw [← flag_cons hnew]
    simp [flag, or_comm]
  refine ⟨?_, fun x => ?_, fun x => ?_, fun hc => ?_⟩
  · refine List.nodup_append.2 ⟨h.nodup, by simp, fun a ha a' ha' heq => ?_⟩
    rw [heq, List.mem_singleton.1 ha'] at ha
    exact hnew ha
  · have hplaces := h.unanswered x
    simp only [places, List.count_append, List.count_cons] at hplaces ⊢
    rw [hflag]
    omega
  · have hkeeps := h.unwritten x
    simp only [keeps, List.count_append, List.count_cons] at hkeeps ⊢
    rw [hflag]
    omega
  · exact absurd hc (by simp [hclosed])

private theorem take (h : b.Sound) (hpending : b.pending.Perm (id :: l)) :
    Sound { b with pending := l, held := id :: b.held } := by
  refine h.of_counts id (.inl (by simp [places, hpending.mem_iff])) rfl rfl (fun x => ?_) fun x => ?_
  · have hcount := hpending.count_eq x
    simp only [places, List.count_append, List.count_cons] at hcount ⊢
    omega
  · have hcount := hpending.count_eq x
    simp only [keeps, List.count_append, List.count_cons] at hcount ⊢
    omega

/-- The write of a message that has an answer is started. -/
private theorem start {flight : List α} (h : b.Sound) (hheld : b.held = id :: l)
    (hflight : flight.Perm (id :: b.flight)) : Sound { b with held := l, flight, sent := b.sent ++ [id] } := by
  refine h.of_counts id (.inl (by simp [places, hheld])) rfl rfl (fun x => ?_) fun x => ?_
  · simp only [places, hheld, List.count_append, List.count_cons, List.count_nil]
    omega
  · have hcount := hflight.count_eq x
    simp only [keeps, hheld, List.count_append, List.count_cons] at hcount ⊢
    omega

/-- The write of a message that has no answer is started. -/
private theorem startPlain {flight : List α} (h : b.Sound) (hheld : b.held = id :: l)
    (hflight : flight.Perm (id :: b.flight)) :
    Sound { b with held := l, flight, responsed := id :: b.responsed } := by
  have hplace : id ∈ b.places := by simp [places, hheld]
  refine h.of_counts id (.inl hplace) rfl rfl (fun x => ?_) fun x => ?_
  · rw [flag_cons (h.notMem_responsed hplace)]
    simp only [places, hheld, List.count_append, List.count_cons]
    omega
  · have hcount := hflight.count_eq x
    simp only [keeps, hheld, List.count_append, List.count_cons] at hcount ⊢
    omega

private theorem failPlain (h : b.Sound) (hheld : b.held = id :: l) :
    Sound { b with held := l, written := id :: b.written, responsed := id :: b.responsed } := by
  have hplace : id ∈ b.places := by simp [places, hheld]
  refine h.of_counts id (.inl hplace) rfl rfl (fun x => ?_) fun x => ?_
  · rw [flag_cons (h.notMem_responsed hplace)]
    simp only [places, hheld, List.count_append, List.count_cons]
    omega
  · rw [flag_cons (h.notMem_written (by simp [keeps, hheld]))]
    simp only [keeps, hheld, List.count_append, List.count_cons]
    omega

private theorem complete (h : b.Sound) (hflight : b.flight.Perm (id :: l)) :
    Sound { b with flight := l, written := id :: b.written } := by
  have hid : id ∈ b.flight := by simp [hflight.mem_iff]
  refine h.of_counts id (.inr hid) rfl rfl (fun x => rfl) fun x => ?_
  have hcount := hflight.count_eq x
  rw [flag_cons (h.notMem_written (by simp [keeps, hid]))]
  simp only [keeps, List.count_append, List.count_cons] at hcount ⊢
  omega

/-- A write that fails takes the message out of flight and from those without an answer. -/
private theorem breaks {sent : List α} (h : b.Sound) (hflight : b.flight.Perm (id :: l))
    (hsent : b.sent.Perm (id :: sent)) : Sound { b with flight := l, sent, failing := id :: b.failing } := by
  have hid : id ∈ b.flight := by simp [hflight.mem_iff]
  refine h.of_counts id (.inr hid) rfl rfl (fun x => ?_) fun x => ?_
  · have hcount := hsent.count_eq x
    simp only [places, List.count_append, List.count_cons] at hcount ⊢
    omega
  · have hcount := hflight.count_eq x
    simp only [keeps, List.count_append, List.count_cons] at hcount ⊢
    omega

private theorem failed (h : b.Sound) (hfailing : b.failing = id :: l) :
    Sound { b with failing := l, written := id :: b.written, responsed := id :: b.responsed } := by
  have hplace : id ∈ b.places := by simp [places, hfailing]
  refine h.of_counts id (.inl hplace) rfl rfl (fun x => ?_) fun x => ?_
  · rw [flag_cons (h.notMem_responsed hplace)]
    simp only [places, hfailing, List.count_append, List.count_cons]
    omega
  · rw [flag_cons (h.notMem_written (by simp [keeps, hfailing]))]
    simp only [keeps, hfailing, List.count_append, List.count_cons]
    omega

private theorem answered (h : b.Sound) (hanswering : b.answering = id :: l) :
    Sound { b with answering := l, responsed := id :: b.responsed } := by
  have hplace : id ∈ b.places := by simp [places, hanswering]
  refine h.of_counts id (.inl hplace) rfl rfl (fun x => ?_) fun x => rfl
  rw [flag_cons (h.notMem_responsed hplace)]
  simp only [places, hanswering, List.count_append, List.count_cons]
  omega

/-- Clearing marks what waits and what is sent, with nothing of that in flight. -/
private theorem clear (h : b.Sound) (happart : ∀ id ∈ b.sent, id ∉ b.flight) :
    Sound { b with
      sent := []
      pending := []
      written := (b.sent ++ b.pending) ++ b.written
      responsed := (b.sent ++ b.pending) ++ b.responsed } := by
  have hmark : ∀ (l : List α) (x : α), flag (b.sent ++ b.pending ++ l) x =
      if x ∈ b.sent ++ b.pending then 1 else flag l x := by
    intro l x
    by_cases hx : x ∈ b.sent ++ b.pending
    · rw [if_pos hx, flag_of_mem (List.mem_append_left _ hx)]
    · rw [if_neg hx]
      simp only [flag, List.mem_append] at hx ⊢
      simp [hx]
  have hcount : ∀ x, x ∈ b.sent ++ b.pending ↔ 0 < b.sent.count x + b.pending.count x := fun x => by
    rw [← List.count_append, List.count_pos_iff]
  have hflight : ∀ x, 0 < b.sent.count x → b.flight.count x = 0 := fun x hx =>
    List.count_eq_zero.2 (happart x (List.count_pos_iff.1 hx))
  refine ⟨h.nodup, fun x => ?_, fun x => ?_, fun hc => ?_⟩
  · have hplaces := h.unanswered x
    have hle := flag_le_one b.allocated x
    simp only [places, List.count_append, List.count_nil, hmark, hcount] at hplaces ⊢
    split <;> omega
  · have hplaces := h.unanswered x
    have hkeeps := h.unwritten x
    have hle := flag_le_one b.allocated x
    have hapart := hflight x
    simp only [places, keeps, List.count_append, List.count_nil, hmark, hcount] at hplaces hkeeps ⊢
    split <;> omega
  · obtain ⟨hplaces, hflight⟩ := h.closed hc
    simp only [places, List.append_eq_nil_iff] at hplaces ⊢
    exact ⟨by simp [hplaces], hflight⟩

/-- A move keeps the book sound. -/
theorem move (h : b.Sound) (hm : Move b b') : b'.Sound := by
  cases hm with
  | alloc hclosed hnew => exact h.alloc hclosed hnew
  | @pend id held hheld =>
    refine h.of_counts id (.inl (by simp [places, hheld])) rfl rfl (fun x => ?_) fun x => ?_
    · simp only [places, hheld, List.count_append, List.count_cons, List.count_nil]
      omega
    · simp only [keeps, hheld, List.count_append, List.count_cons, List.count_nil]
      omega
  | take hpending => exact h.take hpending
  | start hheld hflight => exact h.start hheld hflight
  | startPlain hheld hflight => exact h.startPlain hheld hflight
  | @fail id held hheld =>
    refine h.of_counts id (.inl (by simp [places, hheld])) rfl rfl (fun x => ?_) fun x => ?_
    · simp only [places, hheld, List.count_append, List.count_cons]
      omega
    · simp only [keeps, hheld, List.count_append, List.count_cons]
      omega
  | failPlain hheld => exact h.failPlain hheld
  | complete hflight => exact h.complete hflight
  | breaks hflight hsent => exact h.breaks hflight hsent
  | failed hfailing => exact h.failed hfailing
  | @answer id sent hsent =>
    refine h.of_counts id (.inl (by simp [places, hsent])) rfl rfl (fun x => ?_) fun x => rfl
    simp only [places, hsent, List.count_append, List.count_cons]
    omega
  | answered hanswering => exact h.answered hanswering
  | clear happart => exact h.clear happart
  | close hplaces hflight => exact ⟨h.nodup, h.unanswered, h.unwritten, fun _ => ⟨hplaces, hflight⟩⟩

theorem moves (h : b.Sound) (hm : Moves b b') : b'.Sound := by
  induction hm with
  | refl => exact h
  | tail _ hm ih => exact ih.move hm

end Sound

/-! ### Each message is freed once -/

namespace Frozen

theorem refl (b : MessageLife α) : Frozen b b := fun _ _ => ⟨rfl, rfl⟩

theorem freed (h : Frozen b b') (hx : b.Freed x) : b'.Freed x := by
  obtain ⟨hwritten, hresponsed⟩ := h x hx
  have hw := List.count_pos_iff.2 hx.1
  have hr := List.count_pos_iff.2 hx.2
  exact ⟨List.count_pos_iff.1 (by omega), List.count_pos_iff.1 (by omega)⟩

theorem trans (h : Frozen b b') (h' : Frozen b' b'') : Frozen b b'' := by
  intro x hx
  obtain ⟨hwritten, hresponsed⟩ := h x hx
  obtain ⟨hwritten', hresponsed'⟩ := h' x (h.freed hx)
  exact ⟨hwritten'.trans hwritten, hresponsed'.trans hresponsed⟩

end Frozen

namespace Sound

/-- What is freed is in no place any more. -/
theorem notMem_of_freed (h : b.Sound) (hx : b.Freed x) : x ∉ b.places ∧ x ∉ b.keeps :=
  ⟨fun hmem => h.notMem_responsed hmem hx.2, fun hmem => h.notMem_written hmem hx.1⟩

theorem frozen_move (h : b.Sound) (hm : Move b b') : Frozen b b' := by
  intro x hx
  obtain ⟨hplaces, hkeeps⟩ := h.notMem_of_freed hx
  have hne : ∀ {id : α}, id ∈ b.places ∨ id ∈ b.keeps → id ≠ x := by
    intro id hid heq
    subst heq
    exact hid.elim hplaces hkeeps
  cases hm with
  | alloc | pend | take | start | fail | breaks | answer | close => exact ⟨rfl, rfl⟩
  | startPlain hheld => exact ⟨rfl, List.count_cons_of_ne (hne (.inl (by simp [places, hheld])))⟩
  | @failPlain id _ hheld =>
    have hid : id ≠ x := hne (.inl (by simp [places, hheld]))
    exact ⟨List.count_cons_of_ne hid, List.count_cons_of_ne hid⟩
  | complete hflight => exact ⟨List.count_cons_of_ne (hne (.inr (by simp [keeps, hflight.mem_iff]))), rfl⟩
  | @failed id _ hfailing =>
    have hid : id ≠ x := hne (.inl (by simp [places, hfailing]))
    exact ⟨List.count_cons_of_ne hid, List.count_cons_of_ne hid⟩
  | answered hanswering => exact ⟨rfl, List.count_cons_of_ne (hne (.inl (by simp [places, hanswering])))⟩
  | clear =>
    have hzero : (b.sent ++ b.pending).count x = 0 := by
      apply List.count_eq_zero.2
      intro hmem
      apply hplaces
      simp only [places, List.mem_append] at hmem ⊢
      tauto
    simp only [List.count_append] at hzero ⊢
    constructor <;> omega

theorem frozen (h : b.Sound) (hm : Moves b b') : Frozen b b' := by
  induction hm with
  | refl => exact .refl b
  | tail hms hm ih => exact ih.trans ((h.moves hms).frozen_move hm)

end Sound

/-- The messages that are freed from one book to the next: a mark of theirs is set, and then both are. -/
def freedIn (b b' : MessageLife α) : List α :=
  b'.allocated.filter fun x => decide (x ∈ b'.written ∧ x ∈ b'.responsed) &&
    decide (b.written.count x < b'.written.count x ∨ b.responsed.count x < b'.responsed.count x)

/-- A record of what was freed: each message once, and exactly those that are. -/
def Recorded (b : MessageLife α) (freed : List α) : Prop := freed.Nodup ∧ ∀ x, x ∈ freed ↔ b.Freed x

theorem Recorded.moves {freed : List α} (h : b.Recorded freed) (hb : b.Sound) (hm : Moves b b') :
    b'.Recorded (freed ++ freedIn b b') := by
  have hfrozen := hb.frozen hm
  have hb' := hb.moves hm
  have hnew : ∀ x, x ∈ freedIn b b' ↔ b'.Freed x ∧ ¬ b.Freed x := by
    intro x
    simp only [freedIn, List.mem_filter, Bool.and_eq_true, decide_eq_true_eq]
    constructor
    · intro ⟨_, hfreed, hmarked⟩
      refine ⟨hfreed, fun hx => ?_⟩
      obtain ⟨hwritten, hresponsed⟩ := hfrozen x hx
      omega
    · intro ⟨hfreed, hnot⟩
      refine ⟨hb'.mem_allocated (.inr (.inr (.inl hfreed.1))), hfreed, ?_⟩
      have hw := List.count_pos_iff.2 hfreed.1
      have hr := List.count_pos_iff.2 hfreed.2
      by_contra hsame
      exact hnot ⟨List.count_pos_iff.1 (by omega), List.count_pos_iff.1 (by omega)⟩
  refine ⟨List.nodup_append.2 ⟨h.1, hb'.nodup.filter _, fun x hx y hy heq => ?_⟩, fun x => ?_⟩
  · subst heq
    exact ((hnew x).1 hy).2 ((h.2 x).1 hx)
  · rw [List.mem_append, hnew, h.2]
    constructor
    · rintro (hx | hx)
      · exact hfrozen.freed hx
      · exact hx.1
    · intro hx
      by_cases hold : b.Freed x
      · exact .inl hold
      · exact .inr ⟨hx, hold⟩

end MessageLife
