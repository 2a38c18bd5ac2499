import Mathlib.Data.List.Basic
import Mathlib.Data.List.Infix
import Mathlib.Data.List.Flatten

/-!
# Frames in a byte stream

Frames written one after the other, each in a code of which no code word begins another.  The frames of a stream are
then determined by the stream, wherever a reader has come to: what it has read consists of whole frames and of the
beginning of the next one.
-/

namespace Framing

variable {α β : Type*} {encode : α → List β}

/-- No code word is empty, and no code word begins another one. -/
structure PrefixCode (encode : α → List β) : Prop where
  ne_nil : ∀ a, encode a ≠ []
  inj : ∀ {a b : α} {u v : List β}, encode a ++ u = encode b ++ v → a = b

/-- The beginning of a frame, without a whole frame in it. -/
def Incomplete (encode : α → List β) (pre : List β) : Prop := ∀ a, ¬ encode a <+: pre

/-- A reader that has read whole frames is at the start of a frame of the stream. -/
theorem PrefixCode.flatMap_append (h : PrefixCode encode) {as : List α} : ∀ {bs : List α} {u : List β},
    as.flatMap encode ++ u = bs.flatMap encode → ∃ cs, bs = as ++ cs ∧ u = cs.flatMap encode := by
  induction as with
  | nil =>
    intro bs u hu
    exact ⟨bs, rfl, hu⟩
  | cons a as ih =>
    intro bs u hu
    cases bs with
    | nil =>
      have hnil : encode a = [] := by
        have := congrArg List.length hu
        simp only [List.flatMap_cons, List.flatMap_nil, List.length_append, List.length_nil] at this
        exact List.eq_nil_of_length_eq_zero (by omega)
      exact absurd hnil (h.ne_nil a)
    | cons b bs =>
      rw [List.flatMap_cons, List.flatMap_cons, List.append_assoc] at hu
      obtain rfl := h.inj hu
      obtain ⟨cs, rfl, rfl⟩ := ih (List.append_cancel_left hu)
      exact ⟨cs, rfl, rfl⟩

/-- A reader that has read everything has read exactly the frames. -/
theorem PrefixCode.finished (h : PrefixCode encode) {as bs : List α} {pre : List β} (hpre : Incomplete encode pre)
    (hu : as.flatMap encode ++ pre = bs.flatMap encode) : as = bs ∧ pre = [] := by
  obtain ⟨cs, rfl, rfl⟩ := h.flatMap_append hu
  cases cs with
  | nil => simp
  | cons c cs => exact absurd (List.prefix_append (encode c) _) (hpre c)

end Framing
