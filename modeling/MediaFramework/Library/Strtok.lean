import Mathlib.Data.List.Basic
import Mathlib.Data.List.TakeWhile

/-!
# Splitting a string into its tokens (`strtok_r`)

`strtok_r` skips separators, takes the longest piece without one, and keeps what is behind it for the next call.  The
tokens that a loop of calls finds are the pieces between separators that are not empty.
-/

namespace Strtok

variable {α : Type*} {p q : α → Bool} {s r token rest : List α} {c : α}

/-- The next token, and what the next call begins with. -/
def strtok (p : α → Bool) (s : List α) : Option (List α × List α) :=
  match s.dropWhile p with
  | [] => none
  | c :: s => some (c :: s.takeWhile fun a => !p a, (s.dropWhile fun a => !p a).tail)

theorem length_strtok (h : strtok p s = some (token, rest)) : rest.length < s.length := by
  unfold strtok at h
  split at h
  · cases h
  · rename_i c u hu
    cases h
    have hdrop := (s.dropWhile_suffix p).length_le
    have hrest := (u.dropWhile_suffix fun a => !p a).length_le
    rw [hu, List.length_cons] at hdrop
    rw [List.length_tail]
    omega

/-- A token and its separator are in front. -/
theorem strtok_append (hne : token ≠ []) (htoken : ∀ a ∈ token, p a = false) (hc : p c = true) (r : List α) :
    strtok p (token ++ c :: r) = some (token, r) := by
  cases token with
  | nil => exact absurd rfl hne
  | cons a token =>
    have ha := htoken a List.mem_cons_self
    have hpos : ∀ b ∈ token, (fun b => !p b) b = true := fun b hb => by simp [htoken b (List.mem_cons_of_mem _ hb)]
    have htake : (token ++ c :: r).takeWhile (fun b => !p b) = token := by
      rw [List.takeWhile_append_of_pos hpos, List.takeWhile_cons_of_neg (by simp [hc]), List.append_nil]
    have hdrop : (token ++ c :: r).dropWhile (fun b => !p b) = c :: r := by
      rw [List.dropWhile_append_of_pos hpos, List.dropWhile_cons_of_neg (by simp [hc])]
    rw [strtok, List.cons_append, List.dropWhile_cons_of_neg (by simp [ha])]
    simp only [htake, hdrop, List.tail_cons]

/-- A token is all there is. -/
theorem strtok_self (hne : token ≠ []) (htoken : ∀ a ∈ token, p a = false) : strtok p token = some (token, []) := by
  cases token with
  | nil => exact absurd rfl hne
  | cons a token =>
    have ha := htoken a List.mem_cons_self
    have hpos : ∀ b ∈ token, (fun b => !p b) b = true := fun b hb => by simp [htoken b (List.mem_cons_of_mem _ hb)]
    rw [strtok, List.dropWhile_cons_of_neg (by simp [ha])]
    simp only [List.takeWhile_eq_self_iff.2 hpos, List.dropWhile_eq_nil_iff.2 hpos, List.tail_nil]

/-- The tokens that repeated calls find. -/
def tokens (p : α → Bool) (s : List α) : List (List α) :=
  match h : strtok p s with
  | none => []
  | some (token, rest) =>
    have := length_strtok h
    token :: tokens p rest
termination_by s.length

/-! ### The tokens are the pieces between separators -/

/-- The pieces between separators that are not empty. -/
def pieces (p : α → Bool) (s : List α) : List (List α) := (s.splitOnP p).filter fun piece => !piece.isEmpty

theorem pieces_append_cons (s r : List α) (hc : p c = true) : pieces p (s ++ c :: r) = pieces p s ++ pieces p r := by
  unfold pieces
  rw [List.splitOnP_append_cons s r hc, List.filter_append]

theorem pieces_cons_pos (hc : p c = true) : pieces p (c :: s) = pieces p s := pieces_append_cons [] s hc

/-- Separators in front are skipped. -/
theorem pieces_dropWhile (s : List α) : pieces p (s.dropWhile p) = pieces p s := by
  induction s with
  | nil => rfl
  | cons c s ih =>
    by_cases hc : p c = true
    · rw [List.dropWhile_cons_of_pos hc, ih, pieces_cons_pos hc]
    · rw [List.dropWhile_cons_of_neg hc]

/-- A piece without separators is a token. -/
theorem pieces_piece (hs : ∀ a ∈ c :: s, p a = false) : pieces p (c :: s) = [c :: s] := by
  unfold pieces
  rw [List.splitOnP_eq_singleton hs]
  rfl

/-- The first piece, and the pieces behind it. -/
theorem pieces_cons_neg (hc : p c = false) : pieces p (c :: s) =
    (c :: s.takeWhile fun a => !p a) :: pieces p (s.dropWhile fun a => !p a).tail := by
  have hpiece : ∀ a ∈ c :: s.takeWhile (fun a => !p a), p a = false := by
    intro a ha
    rcases List.mem_cons.1 ha with rfl | ha
    · exact hc
    · simpa using List.mem_takeWhile_imp ha
  have happend : c :: s = (c :: s.takeWhile fun a => !p a) ++ s.dropWhile fun a => !p a := by
    rw [List.cons_append, List.takeWhile_append_dropWhile]
  cases hdrop : s.dropWhile fun a => !p a with
  | nil =>
    rw [hdrop, List.append_nil] at happend
    rw [happend, pieces_piece hpiece, ← happend]
    rfl
  | cons d rest =>
    have hd : p d = true := by
      have hhead := List.head?_dropWhile_not (fun a => !p a) s
      rw [hdrop] at hhead
      simpa using hhead
    rw [hdrop] at happend
    calc pieces p (c :: s)
      _ = pieces p ((c :: s.takeWhile fun a => !p a) ++ d :: rest) := by rw [← happend]
      _ = _ := by rw [pieces_append_cons _ _ hd, pieces_piece hpiece]; rfl

theorem tokens_of_none (h : strtok p s = none) : tokens p s = [] := by
  rw [tokens]
  split
  · rfl
  · rename_i hsome
    cases h.symm.trans hsome

theorem tokens_of_some (h : strtok p s = some (token, rest)) : tokens p s = token :: tokens p rest := by
  rw [tokens]
  split
  · rename_i hnone
    cases h.symm.trans hnone
  · rename_i hsome
    cases h.symm.trans hsome
    rfl

theorem tokens_eq_pieces (p : α → Bool) (s : List α) : tokens p s = pieces p s := by
  induction s using tokens.induct p with
  | case1 s h =>
    have hdrop : s.dropWhile p = [] := by
      unfold strtok at h
      split at h
      · assumption
      · cases h
    rw [tokens_of_none h, ← pieces_dropWhile, hdrop]
    rfl
  | case2 s token rest h hlt ih =>
    rw [tokens_of_some h, ih, ← pieces_dropWhile s]
    unfold strtok at h
    split at h
    · cases h
    · rename_i c u hdrop
      cases h
      have hc : p c = false := by
        have hhead := List.head?_dropWhile_not p s
        rw [hdrop] at hhead
        simpa using hhead
      rw [hdrop, pieces_cons_neg hc]

/-! ### What the tokens are made of -/

theorem flatten_filter_isEmpty (ps : List (List α)) : (ps.filter fun piece => !piece.isEmpty).flatten = ps.flatten := by
  induction ps with
  | nil => rfl
  | cons piece ps ih =>
    cases piece with
    | nil => simpa using ih
    | cons a piece => simpa using ih

/-- The tokens are made of the characters that are not separators. -/
theorem flatten_tokens (p : α → Bool) (s : List α) : (tokens p s).flatten = s.filter fun a => !p a := by
  rw [tokens_eq_pieces, pieces, flatten_filter_isEmpty]
  induction s with
  | nil => rfl
  | cons c s ih =>
    have hne := List.splitOnP_ne_nil p s
    rw [List.splitOnP_cons_eq_if_modifyHead]
    cases hsplit : s.splitOnP p with
    | nil => exact absurd hsplit hne
    | cons head tail =>
      rw [hsplit] at ih
      cases hc : p c with
      | true => simpa [hc] using ih
      | false => simpa [hc] using ih

/-- Separators that no character of the string tells apart. -/
theorem tokens_congr (h : ∀ a ∈ s, p a = q a) : tokens p s = tokens q s := by
  have hsplit : s.splitOnP p = s.splitOnP q := by
    induction s with
    | nil => rfl
    | cons c s ih =>
      rw [List.splitOnP_cons_eq_if_modifyHead, List.splitOnP_cons_eq_if_modifyHead,
        ih fun a ha => h a (List.mem_cons_of_mem _ ha), h c List.mem_cons_self]
  rw [tokens_eq_pieces, tokens_eq_pieces, pieces, pieces, hsplit]

/-- Separators at the end change nothing. -/
theorem tokens_append (h : ∀ a ∈ r, p a = true) : tokens p (s ++ r) = tokens p s := by
  rw [tokens_eq_pieces, tokens_eq_pieces]
  cases r with
  | nil => rw [List.append_nil]
  | cons c r =>
    have hdrop : r.dropWhile p = [] := List.dropWhile_eq_nil_iff.2 fun a ha => h a (List.mem_cons_of_mem _ ha)
    rw [pieces_append_cons s r (h c List.mem_cons_self), ← pieces_dropWhile r, hdrop]
    exact List.append_nil _

end Strtok
