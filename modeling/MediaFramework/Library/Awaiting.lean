import Mathlib.Data.List.Nodup

/-!
# Waiting for answers in the order of the questions

Questions are put on a way that keeps their order and come back as answers that do not say what they answer.  Who
asks keeps the questions in `waiting` and takes each answer for one to the first of them.  Questions may get `lost` on
the way.  `Awaiting waiting lost way` says that the questions on the way are the ones waiting that are not lost, in
the same order; it is kept by everything that can happen to a question.
-/

variable {α : Type*} [DecidableEq α]

/-- What is on the way is what is waited for and not lost. -/
def Awaiting (waiting lost way : List α) : Prop :=
  waiting.filter (fun a => decide (a ∉ lost)) = way

namespace Awaiting

variable {waiting lost way way' : List α} {a : α}

theorem nil (lost : List α) : Awaiting [] lost [] := rfl

/-- A new question is asked. -/
theorem ask (h : Awaiting waiting lost way) (ha : a ∉ lost) : Awaiting (waiting ++ [a]) lost (way ++ [a]) := by
  simp only [Awaiting, List.filter_append, ← h.symm]
  simp [ha]

/-- A question gets lost on the way. -/
theorem lose (h : Awaiting waiting lost (way ++ a :: way')) (hwaiting : waiting.Nodup) :
    Awaiting waiting (lost ++ [a]) (way ++ way') := by
  have hnodup : (way ++ a :: way').Nodup := h ▸ hwaiting.filter _
  have hnew : a ∉ way ++ way' := (List.nodup_middle.1 hnodup).notMem
  have hfilter : waiting.filter (fun b => decide (b ∉ lost ++ [a])) =
      (waiting.filter fun b => decide (b ∉ lost)).filter fun b => decide (b ≠ a) := by
    rw [List.filter_filter]
    refine List.filter_congr fun b _ => ?_
    simp [and_comm]
  unfold Awaiting
  rw [hfilter, h]
  simp only [List.mem_append, not_or] at hnew
  rw [List.filter_append, List.filter_cons_of_neg (by simp)]
  rw [List.filter_eq_self.2 fun b hb => ?_, List.filter_eq_self.2 fun b hb => ?_]
  · simp only [decide_eq_true_eq]
    rintro rfl
    exact hnew.2 hb
  · simp only [decide_eq_true_eq]
    rintro rfl
    exact hnew.1 hb

/-- Something else gets lost. -/
theorem loseOther (h : Awaiting waiting lost way) (ha : a ∉ waiting) : Awaiting waiting (lost ++ [a]) way := by
  unfold Awaiting
  rw [← h]
  refine List.filter_congr fun b hb => ?_
  have hne : b ≠ a := by
    rintro rfl
    exact ha hb
  simp [hne]

/-- Who asks is told that a question is lost. -/
theorem withdraw (h : Awaiting waiting lost way) (ha : a ∈ lost) : Awaiting (waiting.erase a) lost way := by
  unfold Awaiting
  rw [← h]
  clear h
  induction waiting with
  | nil => rfl
  | cons b waiting ih =>
    by_cases hb : b = a
    · subst hb
      rw [List.erase_cons_head, List.filter_cons_of_neg (by simp [ha])]
    · rw [List.erase_cons_tail (by simpa using hb), List.filter_cons, List.filter_cons, ih]

/-- The answer to the first question on the way comes back.  It is taken for one to the right question if the first
one waited for is not lost. -/
theorem answer (h : Awaiting waiting lost (a :: way)) (hhead : ∀ b ∈ waiting.head?, b ∉ lost) :
    ∃ rest, waiting = a :: rest ∧ Awaiting rest lost way := by
  cases waiting with
  | nil => cases h
  | cons b rest =>
    have hb := hhead b rfl
    rw [Awaiting, List.filter_cons_of_pos (by simpa using hb)] at h
    exact ⟨rest, by rw [(List.cons.inj h).1], (List.cons.inj h).2⟩

end Awaiting
