import MediaFramework.Client.CpuNames
import MediaFramework.Client.ProxyOnce

/-!
# A call over the list of CPUs (`media_proxy`)

Without a connection `media_proxy` goes through the list of CPUs.  A handle keeps the connection to the first CPU that
answers its call without an error.  A call without a handle goes on after such an answer, and returns what the last CPU
that it reached has answered.
-/

namespace MediaFramework

variable {resLen : BitVec 32} {res : List UInt8} {cpu : List UInt8} {a : Answer}

/-! ### The function -/

/-- What `media_proxy` works on: the members `proxy` and `cpu` of the handle, or of `priv_`, the result, the caller's
buffer, the CPUs that connections were opened to, and the connections that were closed again.  A connection is its
place in `opened`.  Nothing is done after `strlcpy` was given NULL. -/
structure ProxyCall where
  proxy : Option Nat
  cpu : Option (List UInt8)
  ret : Int
  res : List UInt8
  opened : List (List UInt8)
  closed : List Nat
  nullCopied : Bool
  deriving DecidableEq

/-- `media_proxy_once` on the connection that was opened last. -/
def ProxyCall.once (s : ProxyCall) (a : Answer) (resLen : BitVec 32) : ProxyCall :=
  let r := a.deliver resLen s.res
  { s with ret := r.ret, res := r.res, nullCopied := r.nullCopied }

/-- `media_proxy_connect` to a CPU that can be reached. -/
def ProxyCall.connect (s : ProxyCall) (cpu : List UInt8) : ProxyCall :=
  { s with proxy := some s.opened.length, cpu := some cpu, opened := s.opened ++ [cpu] }

/-- `media_proxy_disconnect(priv->proxy)`. -/
def ProxyCall.disconnect (s : ProxyCall) : ProxyCall := { s with closed := s.closed ++ s.proxy.toList }

/-- A CPU of the list, and what `media_proxy_once` gets from it if it can be reached. -/
abbrev Attempt := List UInt8 × Option Answer

/-- The loop of `media_proxy`, with a handle or without, and what is behind it. -/
def mediaProxyLoop (handle : Bool) (resLen : BitVec 32) (s : ProxyCall) : List Attempt → ProxyCall
  | [] => { s with proxy := none, cpu := none }
  | (_, none) :: attempts => mediaProxyLoop handle resLen { s with proxy := none } attempts
  | (cpu, some a) :: attempts =>
    let s := (s.connect cpu).once a resLen
    if s.nullCopied then s
    else if handle ∧ 0 ≤ s.ret then s
    else mediaProxyLoop handle resLen s.disconnect attempts

/-- A call on a handle that is not connected, or without one. -/
def mediaProxyStart (res : List UInt8) : ProxyCall := ⟨none, none, -ENOSYS, res, [], [], false⟩

/-- The CPUs of a list, where `answer` is what the one in a place of the list answers if it can be reached. -/
def attemptsOf (cpus : CBytes) (answer : Nat → Option Answer) : List Attempt :=
  (mediaProxyNames cpus).zipIdx.map fun cpu => (cpu.1, answer cpu.2)

/-- `media_proxy`, where nothing is connected. -/
def mediaProxy (handle : Bool) (cpus : CBytes) (answer : Nat → Option Answer) (resLen : BitVec 32) (res : List UInt8) :
    ProxyCall :=
  mediaProxyLoop handle resLen (mediaProxyStart res) (attemptsOf cpus answer)

/-! ### What a call is for -/

def Answer.succeeded (a : Answer) : Bool := decide (0 ≤ a.ret)

/-- What the CPUs that can be reached answer. -/
def answers (attempts : List Attempt) : List Answer := attempts.filterMap Prod.snd

/-- The buffer holds the response, cut to its size. -/
def Answer.HeldBy (a : Answer) (resLen : BitVec 32) (res : List UInt8) : Prop :=
  0 < resLen.toInt → (a.response.getD []).take (resLen.toNat - 1) ++ [0] <+: res

/-- The connection to a CPU is kept, and the handle has its name. -/
def ProxyCall.Keeps (s : ProxyCall) (cpu : List UInt8) : Prop :=
  ∃ k, s.proxy = some k ∧ s.opened[k]? = some cpu ∧ s.cpu = some cpu

/-- If one CPU has answered without an error, the call returns the answer of such a CPU, and a handle keeps the
connection to it.  All other connections have been closed. -/
structure ProxyCall.OneIsEnough (s : ProxyCall) (handle : Bool) (resLen : BitVec 32) (attempts : List Attempt) : Prop where
  returned : s.nullCopied = false
  success : (∃ a ∈ answers attempts, a.succeeded) → 0 ≤ s.ret ∧ ∃ cpu a, (cpu, some a) ∈ attempts ∧ a.succeeded ∧
    a.HeldBy resLen s.res ∧ (handle = true → s.Keeps cpu)
  failure : (¬ ∃ a ∈ answers attempts, a.succeeded) → s.proxy = none ∧ s.cpu = none
  closed : ∀ k < s.opened.length, s.proxy ≠ some k → k ∈ s.closed

/-- There is a response, or none is wanted. -/
def Answer.Copied (a : Answer) (resLen : BitVec 32) : Prop := resLen.toInt ≤ 0 ∨ a.response ≠ none

instance (a : Answer) (resLen : BitVec 32) : Decidable (a.Copied resLen) := inferInstanceAs (Decidable (_ ∨ _))

/-- With a handle, the first answer without an error has a response if one is wanted.  Without a handle all such
answers have one, and the last answer is one of them. -/
def Suffices (handle : Bool) (resLen : BitVec 32) (attempts : List Attempt) : Prop :=
  if handle then ∀ a, (answers attempts).find? Answer.succeeded = some a → a.Copied resLen
  else (∀ a ∈ answers attempts, a.succeeded → a.Copied resLen) ∧
    ((∃ a ∈ answers attempts, a.succeeded) → ∀ a, (answers attempts).getLast? = some a → a.succeeded)

/-! ### One attempt -/

theorem once_nullCopied (s : ProxyCall) (a : Answer) (resLen : BitVec 32) :
    (s.once a resLen).nullCopied = true ↔ a.succeeded ∧ ¬ a.Copied resLen := by
  unfold ProxyCall.once Answer.deliver Answer.succeeded Answer.Copied
  by_cases hret : a.ret < 0
  · simp [hret, Int.not_le.2 hret]
  · by_cases hlen : 0 < resLen.toInt
    · cases hresponse : a.response <;> simp [hret, hlen, Int.not_lt.1 hret]
    · simp [hret, hlen, Int.not_lt.1 hlen]

theorem once_ret (s : ProxyCall) (a : Answer) (resLen : BitVec 32) : (s.once a resLen).ret = a.ret := by
  unfold ProxyCall.once Answer.deliver
  dsimp only
  split
  · rfl
  · split
    · split <;> rfl
    · rfl

/-- After an answer without an error the buffer holds the response. -/
theorem once_heldBy {s : ProxyCall} (hs : a.succeeded) (hcopied : a.Copied resLen) :
    a.HeldBy resLen (s.once a resLen).res := by
  intro hlen
  have hret : ¬ a.ret < 0 := Int.not_lt.2 (of_decide_eq_true hs)
  obtain ⟨response, hresponse⟩ := Option.ne_none_iff_exists'.1 (hcopied.resolve_left (by omega))
  unfold ProxyCall.once Answer.deliver
  rw [if_neg hret, if_pos hlen, hresponse]
  exact strlcpy_prefix _ _ _

@[simp] theorem once_opened (s : ProxyCall) (a : Answer) (resLen : BitVec 32) :
    (s.once a resLen).opened = s.opened := rfl
@[simp] theorem once_closed (s : ProxyCall) (a : Answer) (resLen : BitVec 32) :
    (s.once a resLen).closed = s.closed := rfl
@[simp] theorem once_proxy (s : ProxyCall) (a : Answer) (resLen : BitVec 32) :
    (s.once a resLen).proxy = s.proxy := rfl
@[simp] theorem once_cpu (s : ProxyCall) (a : Answer) (resLen : BitVec 32) : (s.once a resLen).cpu = s.cpu := rfl

/-! ### The loop -/

/-- Between two attempts all connections have been closed. -/
def ProxyCall.AllClosed (s : ProxyCall) : Prop := ∀ k < s.opened.length, k ∈ s.closed

theorem ProxyCall.AllClosed.attempt {s : ProxyCall} (h : s.AllClosed) (cpu : List UInt8) (a : Answer)
    (resLen : BitVec 32) : ((s.connect cpu).once a resLen).disconnect.AllClosed := by
  intro k hk
  simp only [ProxyCall.disconnect, ProxyCall.connect, once_opened, once_proxy, once_closed, List.length_append,
    List.length_singleton, Option.toList_some, List.mem_append, List.mem_singleton] at hk ⊢
  by_cases hlt : k < s.opened.length
  · exact .inl (h k hlt)
  · exact .inr (by omega)

/-- The call after all attempts have failed, or been made without a handle. -/
structure ProxyCall.Exhausted (s : ProxyCall) : Prop where
  returned : s.nullCopied = false
  proxy : s.proxy = none
  cpu : s.cpu = none
  closed : s.AllClosed

/-- Nothing is answered where nobody can be reached. -/
theorem mediaProxyLoop_unreached (handle : Bool) {attempts : List Attempt} (s : ProxyCall)
    (h : answers attempts = []) :
    mediaProxyLoop handle resLen s attempts = { s with proxy := none, cpu := none } := by
  induction attempts generalizing s with
  | nil => rfl
  | cons attempt attempts ih =>
    obtain ⟨cpu, - | b⟩ := attempt
    · exact ih { s with proxy := none } h
    · cases h

/-- An answer that does not end the loop. -/
theorem mediaProxyLoop_goesOn {handle : Bool} {s : ProxyCall} {attempts : List Attempt}
    (hcopied : a.succeeded → a.Copied resLen) (hgo : handle = true → ¬ a.succeeded) :
    mediaProxyLoop handle resLen s ((cpu, some a) :: attempts) =
      mediaProxyLoop handle resLen ((s.connect cpu).once a resLen).disconnect attempts := by
  have hnull : ¬ ((s.connect cpu).once a resLen).nullCopied = true := by
    rw [once_nullCopied]
    rintro ⟨ha, hnot⟩
    exact hnot (hcopied ha)
  have hkeep : ¬ (handle = true ∧ 0 ≤ ((s.connect cpu).once a resLen).ret) := by
    rw [once_ret]
    rintro ⟨hhandle, hret⟩
    exact hgo hhandle (decide_eq_true hret)
  rw [mediaProxyLoop, if_neg hnull, if_neg hkeep]

theorem nullCopied_of_copied {s : ProxyCall} (hcopied : a.succeeded → a.Copied resLen) :
    (s.once a resLen).nullCopied = false := by
  rw [← Bool.not_eq_true, once_nullCopied]
  rintro ⟨ha, hnot⟩
  exact hnot (hcopied ha)

/-- Without a handle the last answer is returned. -/
theorem mediaProxyLoop_oneShot {attempts : List Attempt} {s : ProxyCall} (hclosed : s.AllClosed)
    (hs : s.nullCopied = false) (hcopied : ∀ a ∈ answers attempts, a.succeeded → a.Copied resLen) :
    (mediaProxyLoop false resLen s attempts).Exhausted ∧
      ∀ a, (answers attempts).getLast? = some a → (mediaProxyLoop false resLen s attempts).ret = a.ret ∧
        (a.succeeded → a.HeldBy resLen (mediaProxyLoop false resLen s attempts).res) := by
  induction attempts generalizing s with
  | nil => exact ⟨⟨hs, rfl, rfl, hclosed⟩, fun a ha => by cases ha⟩
  | cons attempt attempts ih =>
    obtain ⟨cpu, - | b⟩ := attempt
    · exact ih (s := { s with proxy := none }) hclosed hs hcopied
    · have hanswers : answers ((cpu, some b) :: attempts) = b :: answers attempts := rfl
      rw [hanswers] at hcopied ⊢
      have hb := hcopied b List.mem_cons_self
      obtain ⟨hend, hlast⟩ := ih (hclosed.attempt cpu b resLen) (nullCopied_of_copied hb)
        fun a ha => hcopied a (List.mem_cons_of_mem _ ha)
      rw [mediaProxyLoop_goesOn hb (by simp)]
      refine ⟨hend, fun a ha => ?_⟩
      cases hrest : answers attempts with
      | cons c rest =>
        rw [hrest, List.getLast?_cons_cons] at ha
        rw [hrest] at hlast
        exact hlast a ha
      | nil =>
        -- nobody was reached after this CPU
        rw [hrest] at ha
        cases ha
        rw [mediaProxyLoop_unreached false _ hrest]
        exact ⟨once_ret _ _ _, fun hs => once_heldBy hs (hb hs)⟩

/-- With a handle, and no answer without an error, all connections are closed. -/
theorem mediaProxyLoop_failed {attempts : List Attempt} {s : ProxyCall} (hclosed : s.AllClosed)
    (hs : s.nullCopied = false) (hfailed : ∀ a ∈ answers attempts, ¬ a.succeeded) :
    (mediaProxyLoop true resLen s attempts).Exhausted := by
  induction attempts generalizing s with
  | nil => exact ⟨hs, rfl, rfl, hclosed⟩
  | cons attempt attempts ih =>
    obtain ⟨cpu, - | b⟩ := attempt
    · exact ih (s := { s with proxy := none }) hclosed hs hfailed
    · have hb : ¬ b.succeeded := hfailed b List.mem_cons_self
      have hcopied : b.succeeded → b.Copied resLen := fun h => absurd h hb
      rw [mediaProxyLoop_goesOn hcopied fun _ => hb]
      exact ih (hclosed.attempt cpu b resLen) (nullCopied_of_copied hcopied)
        fun a ha => hfailed a (List.mem_cons_of_mem _ ha)

/-- With a handle, the first answer without an error is returned, and the connection is kept. -/
theorem mediaProxyLoop_kept {attempts : List Attempt} {s : ProxyCall} (hclosed : s.AllClosed)
    (hfirst : (answers attempts).find? Answer.succeeded = some a) (hcopied : a.Copied resLen) :
    let r := mediaProxyLoop true resLen s attempts
    r.nullCopied = false ∧ r.ret = a.ret ∧ a.HeldBy resLen r.res ∧
      (∃ cpu, (cpu, some a) ∈ attempts ∧ r.Keeps cpu) ∧ ∀ k < r.opened.length, r.proxy ≠ some k → k ∈ r.closed := by
  dsimp only
  induction attempts generalizing s with
  | nil => cases hfirst
  | cons attempt attempts ih =>
    obtain ⟨cpu, - | b⟩ := attempt
    · obtain ⟨hnull, hret, hheld, ⟨cpu', hmem, hkeeps⟩, hothers⟩ := ih (s := { s with proxy := none }) hclosed hfirst
      exact ⟨hnull, hret, hheld, ⟨cpu', List.mem_cons_of_mem _ hmem, hkeeps⟩, hothers⟩
    · have hanswers : answers ((cpu, some b) :: attempts) = b :: answers attempts := rfl
      rw [hanswers] at hfirst
      cases hb : b.succeeded with
      | true =>
        rw [List.find?_cons_of_pos hb] at hfirst
        cases hfirst
        have hnull : ((s.connect cpu).once a resLen).nullCopied = false := nullCopied_of_copied fun _ => hcopied
        have hkeep : 0 ≤ ((s.connect cpu).once a resLen).ret := by
          rw [once_ret]
          exact of_decide_eq_true hb
        have hloop : mediaProxyLoop true resLen s ((cpu, some a) :: attempts) = (s.connect cpu).once a resLen := by
          rw [mediaProxyLoop]
          simp [hnull, hkeep]
        rw [hloop]
        refine ⟨hnull, once_ret _ _ _, once_heldBy hb hcopied,
          ⟨cpu, List.mem_cons_self, s.opened.length, rfl, by simp [ProxyCall.connect], rfl⟩, fun k hk hother => ?_⟩
        simp only [once_opened, once_proxy, ProxyCall.connect, List.length_append, List.length_singleton, ne_eq,
          Option.some.injEq] at hk hother
        exact hclosed k (by omega)
      | false =>
        have hnot : ¬ b.succeeded := by simp [hb]
        rw [List.find?_cons_of_neg hnot] at hfirst
        rw [mediaProxyLoop_goesOn (fun h => absurd h hnot) fun _ => hnot]
        obtain ⟨hnull, hret, hheld, ⟨cpu', hmem, hkeeps⟩, hothers⟩ := ih (hclosed.attempt cpu b resLen) hfirst
        exact ⟨hnull, hret, hheld, ⟨cpu', List.mem_cons_of_mem _ hmem, hkeeps⟩, hothers⟩

/-- A call that meets an answer with nothing to copy does not return: the first answer without an error with a handle,
and any one without. -/
theorem mediaProxyLoop_nullCopied {handle : Bool} {attempts : List Attempt} {s : ProxyCall}
    (h : if handle then ∃ a, (answers attempts).find? Answer.succeeded = some a ∧ ¬ a.Copied resLen
      else ∃ a ∈ answers attempts, a.succeeded ∧ ¬ a.Copied resLen) :
    (mediaProxyLoop handle resLen s attempts).nullCopied = true := by
  induction attempts generalizing s with
  | nil =>
    split at h
    · obtain ⟨a, hfirst, -⟩ := h
      cases hfirst
    · obtain ⟨a, ha, -⟩ := h
      cases ha
  | cons attempt attempts ih =>
    obtain ⟨cpu, - | b⟩ := attempt
    · exact ih h
    · have hanswers : answers ((cpu, some b) :: attempts) = b :: answers attempts := rfl
      rw [hanswers] at h
      by_cases hnull : b.succeeded ∧ ¬ b.Copied resLen
      · rw [mediaProxyLoop]
        have := (once_nullCopied (s.connect cpu) b resLen).2 hnull
        simp [this]
      · have hcopied : b.succeeded → b.Copied resLen := fun hb => by_contra fun hnot => hnull ⟨hb, hnot⟩
        cases handle with
        | true =>
          rw [if_pos rfl] at h
          obtain ⟨a, hfirst, hnot⟩ := h
          have hb : ¬ b.succeeded := by
            intro hb
            rw [List.find?_cons_of_pos hb] at hfirst
            cases hfirst
            exact hnot (hcopied hb)
          rw [List.find?_cons_of_neg hb] at hfirst
          rw [mediaProxyLoop_goesOn hcopied fun _ => hb]
          exact ih (if_pos rfl ▸ ⟨a, hfirst, hnot⟩)
        | false =>
          simp only [Bool.false_eq_true, if_false] at h ih
          obtain ⟨a, ha, hs, hnot⟩ := h
          rcases List.mem_cons.1 ha with rfl | ha
          · exact absurd ⟨hs, hnot⟩ hnull
          · rw [mediaProxyLoop_goesOn hcopied (by simp)]
            exact ih ⟨a, ha, hs, hnot⟩

/-! ### One server is enough -/

theorem exists_attempt {attempts : List Attempt} (h : a ∈ answers attempts) : ∃ cpu, (cpu, some a) ∈ attempts := by
  obtain ⟨⟨cpu, b⟩, hmem, hb⟩ := List.mem_filterMap.1 h
  obtain rfl : b = some a := hb
  exact ⟨cpu, hmem⟩

theorem answers_failed {attempts : List Attempt} (h : ¬ ∃ a ∈ answers attempts, a.succeeded) :
    ∀ a ∈ answers attempts, ¬ a.succeeded := fun a ha hs => h ⟨a, ha, hs⟩

theorem ProxyCall.Exhausted.closed_unless {s : ProxyCall} (h : s.Exhausted) :
    ∀ k < s.opened.length, s.proxy ≠ some k → k ∈ s.closed := fun k hk _ => h.closed k hk

theorem mediaProxyLoop_oneIsEnough (handle : Bool) (attempts : List Attempt) :
    (mediaProxyLoop handle resLen (mediaProxyStart res) attempts).OneIsEnough handle resLen attempts ↔
      Suffices handle resLen attempts := by
  have hclosed : (mediaProxyStart res).AllClosed := fun k hk => absurd hk (Nat.not_lt_zero k)
  constructor
  · intro h
    have hreturned : ∀ {P : Prop}, (mediaProxyLoop handle resLen (mediaProxyStart res) attempts).nullCopied = true → P :=
      fun hnull => absurd (hnull.symm.trans h.returned) (by decide)
    unfold Suffices
    cases handle with
    | true =>
      intro a hfirst
      by_contra hnot
      exact hreturned (mediaProxyLoop_nullCopied (if_pos rfl ▸ ⟨a, hfirst, hnot⟩))
    | false =>
      have hcopied : ∀ a ∈ answers attempts, a.succeeded → a.Copied resLen := by
        intro a ha hs
        by_contra hnot
        exact hreturned (mediaProxyLoop_nullCopied (by simpa using ⟨a, ha, hs, hnot⟩))
      refine ⟨hcopied, fun hex a hlast => ?_⟩
      have hret := (mediaProxyLoop_oneShot hclosed rfl hcopied).2 a hlast
      have hpos := (h.success hex).1
      rw [hret.1] at hpos
      exact decide_eq_true hpos
  · intro h
    unfold Suffices at h
    by_cases hex : ∃ a ∈ answers attempts, a.succeeded
    · cases handle with
      | true =>
        obtain ⟨a, hfirst⟩ := Option.isSome_iff_exists.1 (List.find?_isSome.2 hex)
        obtain ⟨hnull, hret, hheld, ⟨cpu, hmem, hkeeps⟩, hothers⟩ :=
          mediaProxyLoop_kept hclosed hfirst (h a hfirst)
        have hs := List.find?_some hfirst
        refine ⟨hnull, fun _ => ⟨?_, cpu, a, hmem, hs, hheld, fun _ => hkeeps⟩, fun hno => absurd hex hno, hothers⟩
        rw [hret]
        exact of_decide_eq_true hs
      | false =>
        obtain ⟨hcopied, hlast⟩ := h
        obtain ⟨hend, hreturned⟩ := mediaProxyLoop_oneShot hclosed rfl hcopied
        obtain ⟨b, hb, -⟩ := id hex
        obtain ⟨a, ha⟩ := Option.ne_none_iff_exists'.1 (mt List.getLast?_eq_none_iff.1 (List.ne_nil_of_mem hb))
        have hs := hlast hex a ha
        obtain ⟨cpu, hmem⟩ := exists_attempt (List.mem_of_getLast? ha)
        obtain ⟨hret, hheld⟩ := hreturned a ha
        refine ⟨hend.returned, fun _ => ⟨?_, cpu, a, hmem, hs, hheld hs, by simp⟩, fun hno => absurd hex hno,
          hend.closed_unless⟩
        rw [hret]
        exact of_decide_eq_true hs
    · have hfailed := answers_failed hex
      have hend : (mediaProxyLoop handle resLen (mediaProxyStart res) attempts).Exhausted := by
        cases handle with
        | true => exact mediaProxyLoop_failed hclosed rfl hfailed
        | false => exact (mediaProxyLoop_oneShot hclosed rfl fun a ha hs => absurd hs (hfailed a ha)).1
      exact ⟨hend.returned, fun hyes => absurd hyes hex, fun _ => ⟨hend.proxy, hend.cpu⟩, hend.closed_unless⟩

/-- One CPU that answers without an error is enough exactly if the answers allow it. -/
theorem mediaProxy_oneIsEnough (handle : Bool) (cpus : CBytes) (answer : Nat → Option Answer) (resLen : BitVec 32)
    (res : List UInt8) : (mediaProxy handle cpus answer resLen res).OneIsEnough handle resLen (attemptsOf cpus answer) ↔
      Suffices handle resLen (attemptsOf cpus answer) :=
  mediaProxyLoop_oneIsEnough handle _

/-- The first of two CPUs has done what was asked for, the second one does not know the command. -/
def firstOfTwo : Nat → Option Answer
  | 0 => some ⟨0, none⟩
  | _ => some ⟨-ENOSYS, none⟩

theorem mediaProxy_not_oneIsEnough : ¬ ∀ (handle : Bool) (cpus : CBytes) (answer : Nat → Option Answer)
    (resLen : BitVec 32) (res : List UInt8),
    (mediaProxy handle cpus answer resLen res).OneIsEnough handle resLen (attemptsOf cpus answer) := by
  intro h
  have htwo : attemptsOf ⟨separators "ap,cp", by decide⟩ firstOfTwo =
      [(separators "ap", some ⟨0, none⟩), (separators "cp", some ⟨-ENOSYS, none⟩)] := by
    rw [attemptsOf, mediaProxyNames, Strtok.tokens_eq_pieces]
    rfl
  have hsuffices := (mediaProxyLoop_oneIsEnough false _).1 (h false ⟨separators "ap,cp", by decide⟩ firstOfTwo 0 [])
  rw [htwo] at hsuffices
  exact absurd (hsuffices.2 ⟨⟨0, none⟩, by decide, by decide⟩ ⟨-ENOSYS, none⟩ rfl) (by decide)

end MediaFramework
