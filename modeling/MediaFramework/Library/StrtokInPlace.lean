import MediaFramework.Library.Strtok

/-!
# Splitting a string where it is in memory

In C, `strtok_r` ends the token that it finds: it writes a terminator over the separator, and what it keeps is a pointer
behind it.  A memory is a list of characters and a pointer is a place in it.  As long as there is a string at the
pointer, a call finds the token and the rest of the functional `strtok`, and it leaves all the strings alone that are
before or behind this one: a token can be split again while the saved pointer is still in use.
-/

namespace Strtok

variable {α : Type*} {nul c : α} {p : α → Bool} {mem post s w token rest : List α} {i j : Nat}

/-- There is a string at a place in memory: its characters and the terminator behind them. -/
def StrAt (nul : α) (mem : List α) (i : Nat) (s : List α) : Prop :=
  nul ∉ s ∧ ∃ post, mem.drop i = s ++ nul :: post

namespace StrAt

theorem drop (h : StrAt nul mem i (s ++ w)) : StrAt nul mem (i + s.length) w := by
  obtain ⟨hnul, post, hmem⟩ := h
  refine ⟨fun hw => hnul (List.mem_append_right _ hw), post, ?_⟩
  rw [← List.drop_drop, hmem, List.append_assoc, List.drop_left]

/-- A character outside the string is written. -/
theorem set (h : StrAt nul mem i s) (hj : j < i ∨ i + s.length < j) : StrAt nul (mem.set j c) i s := by
  obtain ⟨hnul, post, hmem⟩ := h
  refine ⟨hnul, ?_⟩
  rw [List.drop_set]
  by_cases hlt : j < i
  · rw [if_pos hlt]
    exact ⟨post, hmem⟩
  · rw [if_neg hlt, hmem, List.set_append_right _ _ (by omega)]
    obtain ⟨k, hk⟩ : ∃ k, j - i - s.length = k + 1 := ⟨j - i - s.length - 1, by omega⟩
    rw [hk, List.set_cons_succ]
    exact ⟨_, rfl⟩

/-- The character behind the first part of a string is overwritten by the terminator. -/
theorem cut (h : StrAt nul mem i (token ++ c :: rest)) : StrAt nul (mem.set (i + token.length) nul) i token := by
  obtain ⟨hnul, post, hmem⟩ := h
  refine ⟨fun htoken => hnul (List.mem_append_left _ htoken), rest ++ nul :: post, ?_⟩
  rw [List.drop_set, if_neg (by omega), hmem, Nat.add_sub_cancel_left, List.append_assoc,
    List.set_append_right _ _ le_rfl,
    Nat.sub_self, List.cons_append, List.set_cons_zero]

end StrAt

variable [DecidableEq α]

/-- The characters of the string at a pointer. -/
def cstr (nul : α) (mem : List α) (i : Nat) : List α := (mem.drop i).takeWhile fun a => a != nul

/-- The place of the first character from `i` on for which `p` does not hold. -/
def skip (p : α → Bool) (mem : List α) (i : Nat) : Nat := i + ((mem.drop i).takeWhile p).length

/-- Pointers to the token and to what the next call begins with, and the memory. -/
structure Found (α : Type*) where
  token : Nat
  saved : Nat
  mem : List α

/-- `strtok_r(str, delim, &saved)`, or `strtok_r(NULL, delim, &saved)` with the pointer that was saved. -/
def strtokR (nul : α) (p : α → Bool) (mem : List α) (str : Nat) : Option (Found α) :=
  let start := skip (fun a => a != nul && p a) mem str
  let stop := skip (fun a => a != nul && !p a) mem start
  if mem.getD start nul = nul then none
  else if mem.getD stop nul = nul then some { token := start, saved := stop, mem }
  else some { token := start, saved := stop + 1, mem := mem.set stop nul }

theorem takeWhile_terminated (hnul : nul ∉ s) :
    (s ++ nul :: post).takeWhile (fun a => a != nul && p a) = s.takeWhile p := by
  induction s with
  | nil => simp
  | cons a s ih =>
    have hne : a ≠ nul := fun heq => hnul (by simp [heq])
    have ih := ih fun hmem => hnul (List.mem_cons_of_mem _ hmem)
    by_cases ha : p a = true
    · simp [ha, hne, ih]
    · simp [ha]

namespace StrAt

theorem cstr_eq (h : StrAt nul mem i s) : cstr nul mem i = s := by
  obtain ⟨hnul, post, hmem⟩ := h
  have htake : (s ++ nul :: post).takeWhile (fun a => a != nul && true) = s.takeWhile fun _ => true :=
    takeWhile_terminated hnul
  simp only [Bool.and_true] at htake
  rw [cstr, hmem, htake]
  exact List.takeWhile_eq_self_iff.2 fun _ _ => rfl

theorem skip_eq (h : StrAt nul mem i s) :
    skip (fun a => a != nul && p a) mem i = i + (s.takeWhile p).length := by
  obtain ⟨hnul, post, hmem⟩ := h
  rw [skip, hmem, takeWhile_terminated hnul]

omit [DecidableEq α] in
theorem getD_eq (h : StrAt nul mem i s) : mem.getD i nul = s.headD nul := by
  obtain ⟨hnul, post, hmem⟩ := h
  have hget : mem[i]? = (mem.drop i)[0]? := by rw [List.getElem?_drop, Nat.add_zero]
  rw [List.getD_eq_getElem?_getD, hget, hmem]
  cases s <;> rfl

end StrAt

/-- A call has found the token and the rest, and the other strings in memory are still there. -/
structure Finds (nul : α) (mem : List α) (i : Nat) (s : List α) (f : Found α) (token rest : List α) : Prop where
  atToken : StrAt nul f.mem f.token token
  atSaved : StrAt nul f.mem f.saved rest
  first : i ≤ f.token
  behind : f.token + token.length ≤ f.saved
  separated : rest ≠ [] → f.token + token.length < f.saved
  inside : f.saved + rest.length ≤ i + s.length
  frame : ∀ j w, StrAt nul mem j w → j + w.length < i ∨ i + s.length ≤ j → StrAt nul f.mem j w

theorem strtokR_none (h : StrAt nul mem i s) (hs : strtok p s = none) : strtokR nul p mem i = none := by
  have hdrop : s.dropWhile p = [] := by
    unfold strtok at hs
    split at hs
    · assumption
    · cases hs
  have hsplit := List.takeWhile_append_dropWhile (p := p) (l := s)
  rw [← hsplit] at h
  have hstart := h.drop
  rw [hdrop] at hstart
  rw [hsplit] at h
  have hget : mem.getD (i + (s.takeWhile p).length) nul = nul := hstart.getD_eq
  rw [strtokR, h.skip_eq, if_pos hget]

/-- A call in memory finds what `strtok` finds. -/
theorem strtokR_some (h : StrAt nul mem i s) (hs : strtok p s = some (token, rest)) :
    ∃ f, strtokR nul p mem i = some f ∧ Finds nul mem i s f token rest := by
  unfold strtok at hs
  split at hs
  · cases hs
  rename_i c u hdrop
  cases hs
  have hc : p c = false := by
    have hhead := List.head?_dropWhile_not p s
    rw [hdrop] at hhead
    simpa using hhead
  have hsplit := List.takeWhile_append_dropWhile (p := p) (l := s)
  rw [hdrop] at hsplit
  generalize hskipped : s.takeWhile p = skipped at hsplit
  subst hsplit
  have hne : c ≠ nul := fun heq => h.1 (by simp [heq])
  have hstart := h.drop
  have htoken : (c :: u).takeWhile (fun a => !p a) = c :: u.takeWhile fun a => !p a := by simp [hc]
  have hu := List.takeWhile_append_dropWhile (p := fun a => !p a) (l := u)
  have hstop := hstart.skip_eq (p := fun a => !p a)
  have hget := hstart.getD_eq
  rw [htoken] at hstop
  rw [strtokR, h.skip_eq, hskipped, hstop, if_neg (by rw [hget]; exact hne)]
  obtain ⟨v, hv⟩ : ∃ v, u.takeWhile (fun a => !p a) = v := ⟨_, rfl⟩
  rw [hv] at hu ⊢
  cases hrest : u.dropWhile (fun a => !p a) with
  | nil =>
    rw [hrest, List.append_nil] at hu
    subst hu
    -- the token ends where the string ends
    rw [← List.append_nil (c :: v)] at hstart
    have hend := hstart.drop
    rw [List.append_nil] at hstart
    refine ⟨_, if_pos hend.getD_eq, hstart, hend, by simp, le_rfl, by simp, ?_, fun j w hj _ => hj⟩
    simp only [List.length_append, List.length_cons, List.length_nil, List.tail_nil]
    omega
  | cons e rest =>
    rw [hrest] at hu
    subst hu
    have hstart : StrAt nul mem (i + skipped.length) ((c :: v) ++ e :: rest) := hstart
    have hend := hstart.drop
    have he : e ≠ nul := fun heq => h.1 (by simp [heq])
    have hsaved : StrAt nul mem (i + skipped.length + (c :: v).length + 1) rest := hend.drop (s := [e])
    have hlength : (skipped ++ c :: (v ++ e :: rest)).length = skipped.length + (c :: v).length + 1 + rest.length := by
      simp only [List.length_append, List.length_cons]
      omega
    refine ⟨_, if_neg (by rw [hend.getD_eq]; exact he), hstart.cut, hsaved.set (by omega), ?_, ?_, ?_, ?_, ?_⟩
    · exact Nat.le_add_right _ _
    · exact Nat.le_succ _
    · exact fun _ => Nat.lt_succ_self _
    · rw [hlength, List.tail_cons]
      dsimp only
      omega
    · intro j w hj hout
      apply hj.set
      omega

end Strtok
