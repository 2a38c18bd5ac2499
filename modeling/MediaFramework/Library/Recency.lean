import Mathlib.Data.List.Nodup

/-!
# The last one raised comes first

Things enter and leave, and are raised in between.  `order` puts those that are there into the order in which they
were raised, the last one first, and then the ones that never were, in the order in which they entered.  A list that
takes a new one at its end, brings one that is raised to its front and drops one that leaves is always in this order.
-/

namespace Recency

variable {α : Type*}

inductive Event (α : Type*)
  | enter (a : α)
  | raise (a : α)
  | leave (a : α)

def entered (history : List (Event α)) : List α :=
  history.filterMap fun
    | .enter a => some a
    | _ => none

def raised (history : List (Event α)) : List α :=
  history.filterMap fun
    | .raise a => some a
    | _ => none

def left (history : List (Event α)) : List α :=
  history.filterMap fun
    | .leave a => some a
    | _ => none

/-- Nothing enters twice, and only what has entered is raised and leaves. -/
structure Orderly (history : List (Event α)) : Prop where
  nodup : (entered history).Nodup
  raised : raised history ⊆ entered history
  left : left history ⊆ entered history

variable {history : List (Event α)} {a : α}

namespace Orderly

theorem nil : Orderly ([] : List (Event α)) := ⟨List.nodup_nil, by simp [Recency.raised], by simp [Recency.left]⟩

theorem enter (h : Orderly history) (ha : a ∉ entered history) : Orderly (history ++ [Event.enter a]) := by
  have hentered : entered (history ++ [Event.enter a]) = entered history ++ [a] := by simp [entered]
  refine ⟨?_, ?_, ?_⟩
  · rw [hentered]
    exact (List.perm_append_singleton ..).nodup_iff.2 (List.nodup_cons.2 ⟨ha, h.nodup⟩)
  · rw [hentered, show Recency.raised (history ++ [Event.enter a]) = Recency.raised history by simp [Recency.raised]]
    exact fun b hb => List.mem_append_left _ (h.raised hb)
  · rw [hentered, show Recency.left (history ++ [Event.enter a]) = Recency.left history by simp [Recency.left]]
    exact fun b hb => List.mem_append_left _ (h.left hb)

theorem raise (h : Orderly history) (ha : a ∈ entered history) : Orderly (history ++ [Event.raise a]) := by
  have hentered : entered (history ++ [Event.raise a]) = entered history := by simp [entered]
  refine ⟨hentered ▸ h.nodup, ?_, ?_⟩
  · rw [hentered, show Recency.raised (history ++ [Event.raise a]) = Recency.raised history ++ [a] by
      simp [Recency.raised]]
    exact List.append_subset.2 ⟨h.raised, by simpa using ha⟩
  · rw [hentered, show Recency.left (history ++ [Event.raise a]) = Recency.left history by simp [Recency.left]]
    exact h.left

theorem leave (h : Orderly history) (ha : a ∈ entered history) : Orderly (history ++ [Event.leave a]) := by
  have hentered : entered (history ++ [Event.leave a]) = entered history := by simp [entered]
  refine ⟨hentered ▸ h.nodup, ?_, ?_⟩
  · rw [hentered, show Recency.raised (history ++ [Event.leave a]) = Recency.raised history by simp [Recency.raised]]
    exact h.raised
  · rw [hentered, show Recency.left (history ++ [Event.leave a]) = Recency.left history ++ [a] by simp [Recency.left]]
    exact List.append_subset.2 ⟨h.left, by simpa using ha⟩

end Orderly

/-! ### The order -/

variable [DecidableEq α]

/-- Those that have entered and not left, in the order in which they entered. -/
def present (history : List (Event α)) : List α := (entered history).filter fun a => decide (a ∉ left history)

/-- Those that are there: the ones that were raised, the last one first, and then the others. -/
def order (history : List (Event α)) : List α :=
  ((raised history).reverse.eraseDups.filter fun a => decide (a ∈ present history)) ++
    (present history).filter fun a => decide (a ∉ raised history)

/-! ### What is there -/

theorem mem_present : a ∈ present history ↔ a ∈ entered history ∧ a ∉ left history := by simp [present]

theorem mem_order : a ∈ order history ↔ a ∈ present history := by
  simp only [order, List.mem_append, List.mem_filter, List.mem_eraseDups, List.mem_reverse, decide_eq_true_eq]
  by_cases hr : a ∈ raised history <;> simp [hr]

theorem eraseDups_filter (p : α → Bool) : ∀ l : List α, (l.filter p).eraseDups = l.eraseDups.filter p
  | [] => rfl
  | a :: l => by
    have ih := eraseDups_filter p (l.filter fun b => !b == a)
    rw [List.eraseDups_cons]
    by_cases hp : p a = true
    · rw [List.filter_cons_of_pos hp, List.filter_cons_of_pos hp, List.eraseDups_cons, ← ih, List.filter_filter,
        List.filter_filter]
      simp only [Bool.and_comm]
    · rw [List.filter_cons_of_neg hp, List.filter_cons_of_neg hp, ← ih, List.filter_filter]
      congr 1
      refine List.filter_congr fun b _ => ?_
      by_cases hb : b = a
      · subst hb
        simp [hp]
      · simp [hb]
termination_by l => l.length
decreasing_by exact Nat.lt_succ_of_le (List.length_filter_le _ _)

theorem nodup_eraseDups : ∀ l : List α, l.eraseDups.Nodup
  | [] => List.nodup_nil
  | a :: l => by
    rw [List.eraseDups_cons, List.nodup_cons]
    exact ⟨by simp, nodup_eraseDups (l.filter fun b => !b == a)⟩
termination_by l => l.length
decreasing_by exact Nat.lt_succ_of_le (List.length_filter_le _ _)

theorem nodup_order (h : Orderly history) : (order history).Nodup := by
  refine List.nodup_append.2 ⟨(nodup_eraseDups _).filter _, (h.nodup.filter _).filter _, fun a ha b hb => ?_⟩
  simp only [List.mem_filter, List.mem_eraseDups, List.mem_reverse, decide_eq_true_eq] at ha hb
  rintro rfl
  exact hb.2 ha.1

/-! ### What an event does to the order -/

theorem order_enter (h : Orderly history) (ha : a ∉ entered history) :
    order (history ++ [Event.enter a]) = order history ++ [a] := by
  have hraised : raised (history ++ [Event.enter a]) = raised history := by simp [raised]
  have hleft : left (history ++ [Event.enter a]) = left history := by simp [left]
  have hpresent : present (history ++ [Event.enter a]) = present history ++ [a] := by
    have hnew : a ∉ left history := fun hm => ha (h.left hm)
    unfold present
    rw [hleft, show entered (history ++ [Event.enter a]) = entered history ++ [a] by simp [entered], List.filter_append]
    simp [hnew]
  have hnew : a ∉ raised history := fun hm => ha (h.raised hm)
  unfold order
  rw [hraised, hpresent, List.filter_append, ← List.append_assoc]
  congr 1
  · congr 1
    refine List.filter_congr fun b hb => ?_
    have hne : b ≠ a := by
      rintro rfl
      exact hnew (by simpa using hb)
    simp [hne]
  · simp [hnew]

theorem order_raise (ha : a ∈ present history) :
    order (history ++ [Event.raise a]) = a :: (order history).filter (· != a) := by
  have hraised : raised (history ++ [Event.raise a]) = raised history ++ [a] := by simp [raised]
  have hpresent : present (history ++ [Event.raise a]) = present history := by simp [present, entered, left]
  unfold order
  rw [hraised, hpresent, List.reverse_append, List.reverse_singleton, List.singleton_append, List.eraseDups_cons,
    eraseDups_filter, List.filter_cons_of_pos (by simpa using ha), List.cons_append, List.filter_append,
    List.filter_filter, List.filter_filter, List.filter_filter]
  congr 2
  · refine List.filter_congr fun b _ => ?_
    rw [Bool.and_comm]
    rfl
  · refine List.filter_congr fun b _ => ?_
    by_cases hb : b = a <;> simp [hb]

theorem order_leave : order (history ++ [Event.leave a]) = (order history).filter (· != a) := by
  have hraised : raised (history ++ [Event.leave a]) = raised history := by simp [raised]
  have hpresent : present (history ++ [Event.leave a]) = (present history).filter (· != a) := by
    unfold present
    rw [show left (history ++ [Event.leave a]) = left history ++ [a] by simp [left],
      show entered (history ++ [Event.leave a]) = entered history by simp [entered], List.filter_filter]
    refine List.filter_congr fun b _ => ?_
    by_cases hb : b = a <;> simp [hb]
  unfold order
  rw [hraised, hpresent, List.filter_append, List.filter_filter, List.filter_filter, List.filter_filter]
  congr 1
  · refine List.filter_congr fun b _ => ?_
    by_cases hb : b = a <;> simp [hb]
  · simp only [Bool.and_comm]

end Recency
