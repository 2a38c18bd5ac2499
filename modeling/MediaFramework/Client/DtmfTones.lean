import Mathlib.Data.List.GetD
import MediaFramework.Client.MediaDtmf
import MediaFramework.Session.MediaMetadata

/-!
# The tones of a number (`client/media_dtmf.c`)

The buttons of a number are put one behind the other into a buffer of the caller, each as a frame of samples that begins
with the same states again.
-/

namespace MediaFramework

def FRAME_SIZE : Nat := 1200

def INITIAL_STATE : BitVec 32 := 31000

/-- `freq_coeff`: four rows, then four columns. -/
def freqCoeff : List (BitVec 16) := [27980, 26956, 25701, 24218, 19073, 16325, 13085, 9315]

/-- The row and the column of a button, as the cases of the `switch` have them. -/
def dtmfButton : Char → Option (Nat × Nat)
  | '0' => some (3, 5)
  | '1' => some (0, 4)
  | '2' => some (0, 5)
  | '3' => some (0, 6)
  | '4' => some (1, 4)
  | '5' => some (1, 5)
  | '6' => some (1, 6)
  | '7' => some (2, 4)
  | '8' => some (2, 5)
  | '9' => some (2, 6)
  | '*' => some (3, 4)
  | '#' => some (3, 6)
  | 'A' => some (0, 7)
  | 'B' => some (1, 7)
  | 'C' => some (2, 7)
  | 'D' => some (3, 7)
  | _ => none

/-- The coefficients of a button, zero if it is none. -/
def dtmfCoeffs (numbers : Char) : BitVec 16 × BitVec 16 :=
  match dtmfButton numbers with
  | some (row, column) => (freqCoeff.getD row 0, freqCoeff.getD column 0)
  | none => (0, 0)

/-- The states that a frame begins with. -/
def dtmfStates (numbers : Char) : DtmfStates :=
  match dtmfButton numbers with
  | some _ => ⟨(dtmfCoeffs numbers).1.signExtend 32, (dtmfCoeffs numbers).2.signExtend 32, INITIAL_STATE, INITIAL_STATE⟩
  | none => ⟨0, 0, 0, 0⟩

/-- The result is the memory. -/
def mediaDtmfGenerating (passes : Nat) (numbers : Char) (buffer : Nat) (mem : DtmfBuffer) :
    Option (Option DtmfBuffer) :=
  (mediaDtmfFrequencyOscillator passes (dtmfCoeffs numbers).1 (dtmfCoeffs numbers).2 buffer (BitVec.ofNat 32 FRAME_SIZE)
    (mem, dtmfStates numbers)).map fun r => r.map Prod.fst

/-- The `i`-th frame; the product with `FRAME_SIZE` is signed. -/
def mediaDtmfFrame (passes buffer i : Nat) (numbers : Char) (mem : DtmfBuffer) : Option (Option DtmfBuffer) :=
  match smul (BitVec.ofNat 32 i) (BitVec.ofNat 32 FRAME_SIZE) with
  | none => some none
  | some offset => mediaDtmfGenerating passes numbers (buffer + offset.toNat) mem

/-- The loop over the characters, from the `i`-th on. -/
def mediaDtmfGenerateLoop (passes buffer : Nat) : Nat → List Char → DtmfBuffer → Option (Option DtmfBuffer)
  | _, [], mem => some (some mem)
  | i, c :: numbers, mem =>
    (mediaDtmfFrame passes buffer i c mem).bind fun r =>
      match r with
      | none => some none
      | some mem => mediaDtmfGenerateLoop passes buffer (i + 1) numbers mem

/-- `media_dtmf_generate`: the result, and the memory. -/
def mediaDtmfGenerate (passes : Nat) (numbers : Option CString) (buffer : Option Nat) (mem : DtmfBuffer) :
    Option (Option (Int × DtmfBuffer)) :=
  match numbers, buffer with
  | some (c :: numbers), some buffer =>
    (mediaDtmfGenerateLoop passes buffer 0 (c :: numbers) mem).map fun r => r.map fun mem => (0, mem)
  | _, _ => some (some (-EINVAL, mem))

/-- The product is a `size_t`, and becomes an `int`. -/
def mediaDtmfGetBufferSize : Option CString → Int
  | some (c :: numbers) => (BitVec.ofNat 32 (FRAME_SIZE * 2 * (c :: numbers).length)).toInt
  | _ => -EINVAL

/-! ### The samples of a run -/

variable {low high : BitVec 16} {subject : BitVec 32} {mem mem' : DtmfBuffer} {st : DtmfStates} {xs : List (BitVec 16)}

/-- The samples that follow a state, one after the other. -/
def dtmfSamples (low high : BitVec 16) (subject : BitVec 32) : Nat → DtmfStates → Option (List (BitVec 16))
  | 0, _ => some []
  | n + 1, st => (mediaDtmfSample low high subject st).bind fun r => (dtmfSamples low high subject n r.2).map (r.1 :: ·)

/-- The memory with samples at an address. -/
def putSamples (mem : DtmfBuffer) (address : Nat) : List (BitVec 16) → DtmfBuffer
  | [] => mem
  | x :: xs => putSamples (Function.update mem address x) (address + 1) xs

theorem putSamples_apply (mem : DtmfBuffer) (address : Nat) (xs : List (BitVec 16)) (a : Nat) :
    putSamples mem address xs a =
      if address ≤ a ∧ a < address + xs.length then xs.getD (a - address) 0 else mem a := by
  induction xs generalizing mem address with
  | nil => rw [putSamples, if_neg (by simp)]
  | cons x xs ih =>
    rw [putSamples, ih]
    by_cases ha : a = address
    · subst ha
      rw [if_neg (by omega), if_pos (by simp), Function.update_self, Nat.sub_self]
      rfl
    · rw [Function.update_of_ne ha]
      by_cases hin : address + 1 ≤ a ∧ a < address + 1 + xs.length
      · have hnext : a - address = a - (address + 1) + 1 := by omega
        rw [if_pos hin, if_pos (by simp only [List.length_cons]; omega), hnext, List.getD_cons_succ]
      · rw [if_neg hin, if_neg (by simp only [List.length_cons]; omega)]

/-- Samples behind others. -/
theorem putSamples_append (mem : DtmfBuffer) (address : Nat) (xs ys : List (BitVec 16)) :
    putSamples mem address (xs ++ ys) = putSamples (putSamples mem address xs) (address + xs.length) ys := by
  induction xs generalizing mem address with
  | nil => rfl
  | cons x xs ih =>
    rw [List.cons_append, putSamples, ih, putSamples, List.length_cons, Nat.add_assoc, Nat.add_comm 1]

/-- A run puts the samples of its states into the memory. -/
theorem samplesFrom_put (address n : Nat) (mem : DtmfBuffer) (st : DtmfStates) :
    (samplesFrom low high subject address n (mem, st)).map Prod.fst =
      (dtmfSamples low high subject n st).map (putSamples mem address) := by
  induction n generalizing address mem st with
  | zero => rfl
  | succ n ih =>
    rw [samplesFrom, dtmfSamples]
    cases mediaDtmfSample low high subject st with
    | none => rfl
    | some r =>
      rw [Option.bind_some, Option.bind_some, ih, Option.map_map]
      rfl

theorem dtmfSamples_isSome (subject : BitVec 32) (hlow : 0 ≤ low.toInt) (hhigh : 0 ≤ high.toInt) (n : Nat)
    (st : DtmfStates) : ∃ xs, dtmfSamples low high subject n st = some xs ∧ xs.length = n := by
  induction n generalizing st with
  | zero => exact ⟨[], rfl, rfl⟩
  | succ n ih =>
    obtain ⟨r, hr⟩ := Option.isSome_iff_exists.1 (mediaDtmfSample_isSome subject hlow hhigh st)
    obtain ⟨xs, hxs, hlength⟩ := ih r.2
    refine ⟨r.1 :: xs, ?_, by rw [List.length_cons, hlength]⟩
    rw [dtmfSamples, hr, Option.bind_some, hxs, Option.map_some]

/-- Without a frequency there is silence. -/
theorem dtmfSamples_silent (n : Nat) : dtmfSamples 0 0 0 n ⟨0, 0, 0, 0⟩ = some (List.replicate n 0) := by
  have hsample : mediaDtmfSample 0 0 0 ⟨0, 0, 0, 0⟩ = some (0, ⟨0, 0, 0, 0⟩) := by decide
  induction n with
  | zero => rfl
  | succ n ih => rw [dtmfSamples, hsample, Option.bind_some, ih, Option.map_some, List.replicate_succ]

/-! ### The frames -/

/-- The frame of a button. -/
def dtmfTone (numbers : Char) : List (BitVec 16) :=
  (dtmfSamples (dtmfCoeffs numbers).1 (dtmfCoeffs numbers).2
    ((dtmfCoeffs numbers).1.signExtend 32 * (dtmfCoeffs numbers).2.signExtend 32) FRAME_SIZE
    (dtmfStates numbers)).getD []

theorem freqCoeff_nonneg (k : Nat) : 0 ≤ (freqCoeff.getD k 0).toInt := by
  by_cases hk : k < 8
  · have hall : ∀ k < 8, 0 ≤ (freqCoeff.getD k 0).toInt := by decide
    exact hall k hk
  · rw [List.getD_eq_default _ _ (by simp [freqCoeff]; omega)]
    decide

theorem dtmfCoeffs_nonneg (numbers : Char) :
    0 ≤ (dtmfCoeffs numbers).1.toInt ∧ 0 ≤ (dtmfCoeffs numbers).2.toInt := by
  unfold dtmfCoeffs
  split
  · exact ⟨freqCoeff_nonneg _, freqCoeff_nonneg _⟩
  · exact ⟨by decide, by decide⟩

theorem dtmfTone_spec (numbers : Char) :
    dtmfSamples (dtmfCoeffs numbers).1 (dtmfCoeffs numbers).2
        ((dtmfCoeffs numbers).1.signExtend 32 * (dtmfCoeffs numbers).2.signExtend 32) FRAME_SIZE (dtmfStates numbers) =
      some (dtmfTone numbers) ∧ (dtmfTone numbers).length = FRAME_SIZE := by
  obtain ⟨hlow, hhigh⟩ := dtmfCoeffs_nonneg numbers
  obtain ⟨xs, hxs, hlength⟩ := dtmfSamples_isSome
    ((dtmfCoeffs numbers).1.signExtend 32 * (dtmfCoeffs numbers).2.signExtend 32) hlow hhigh FRAME_SIZE
    (dtmfStates numbers)
  rw [dtmfTone, hxs]
  exact ⟨rfl, hlength⟩

theorem dtmfTone_silent {numbers : Char} (h : dtmfButton numbers = none) :
    dtmfTone numbers = List.replicate FRAME_SIZE 0 := by
  have hcoeffs : dtmfCoeffs numbers = (0, 0) := by rw [dtmfCoeffs, h]
  have hstates : dtmfStates numbers = ⟨0, 0, 0, 0⟩ := by rw [dtmfStates, h]
  have hproduct : (0 : BitVec 16).signExtend 32 * (0 : BitVec 16).signExtend 32 = 0 := by decide
  rw [dtmfTone, hcoeffs, hstates]
  dsimp only
  rw [hproduct, dtmfSamples_silent, Option.getD_some]

theorem mediaDtmfGenerating_eq {passes : Nat} (hpasses : FRAME_SIZE < passes) (numbers : Char) (buffer : Nat)
    (mem : DtmfBuffer) :
    mediaDtmfGenerating passes numbers buffer mem = some (some (putSamples mem buffer (dtmfTone numbers))) := by
  obtain ⟨hlow, hhigh⟩ := dtmfCoeffs_nonneg numbers
  obtain ⟨subject, hsubject⟩ := subject_eq hlow hhigh
  have hvalue : (dtmfCoeffs numbers).1.signExtend 32 * (dtmfCoeffs numbers).2.signExtend 32 = subject := by
    unfold smul at hsubject
    split at hsubject
    · cases hsubject
    · exact Option.some.inj hsubject
  have hcount : (BitVec.ofNat 32 FRAME_SIZE).toNat = FRAME_SIZE := by decide
  unfold mediaDtmfGenerating
  rw [mediaDtmfFrequencyOscillator_eq hlow hhigh hsubject (by rw [hcount]; decide) (by rw [hcount]; exact hpasses),
    Option.map_some, hcount, samplesFrom_put, ← hvalue, (dtmfTone_spec numbers).1, Option.map_some]

/-- The place of a frame. -/
theorem frameOffset {i : Nat} (hi : i * FRAME_SIZE < 2 ^ 31) :
    ∃ offset, smul (BitVec.ofNat 32 i) (BitVec.ofNat 32 FRAME_SIZE) = some offset ∧ offset.toNat = i * FRAME_SIZE := by
  rw [FRAME_SIZE] at hi ⊢
  have hiInt : (BitVec.ofNat 32 i).toInt = i := by
    rw [BitVec.toInt_ofNat', Int.bmod_eq_of_le (by omega) (by omega)]
  have hframeInt : (BitVec.ofNat 32 1200).toInt = 1200 := by decide
  obtain ⟨offset, hoffset, hvalue⟩ := smul_eq (x := BitVec.ofNat 32 i) (y := BitVec.ofNat 32 1200)
    (by rw [hiInt, hframeInt]; omega) (by rw [hiInt, hframeInt]; omega)
  refine ⟨offset, hoffset, ?_⟩
  have hbound := offset.isLt
  rw [hiInt, hframeInt, BitVec.toInt_eq_toNat_cond] at hvalue
  split at hvalue <;> omega

/-- One frame behind the other. -/
theorem mediaDtmfGenerateLoop_eq {passes : Nat} (hpasses : FRAME_SIZE < passes) (buffer : Nat) (numbers : List Char)
    (i : Nat) (mem : DtmfBuffer) (hsize : (i + numbers.length) * FRAME_SIZE < 2 ^ 31) :
    mediaDtmfGenerateLoop passes buffer i numbers mem =
      some (some (putSamples mem (buffer + i * FRAME_SIZE) (numbers.flatMap dtmfTone))) := by
  induction numbers generalizing i mem with
  | nil => rfl
  | cons c numbers ih =>
    have hsum : i + (c :: numbers).length = i + 1 + numbers.length := by
      rw [List.length_cons]
      omega
    rw [hsum] at hsize
    have hi : i * FRAME_SIZE < 2 ^ 31 :=
      Nat.lt_of_le_of_lt (Nat.mul_le_mul_right _ (Nat.le_trans (Nat.le_succ i) (Nat.le_add_right ..))) hsize
    obtain ⟨offset, hoffset, haddress⟩ := frameOffset hi
    have hframe : mediaDtmfFrame passes buffer i c mem =
        some (some (putSamples mem (buffer + i * FRAME_SIZE) (dtmfTone c))) := by
      rw [mediaDtmfFrame, hoffset]
      dsimp only
      rw [mediaDtmfGenerating_eq hpasses, haddress]
    rw [mediaDtmfGenerateLoop, hframe, Option.bind_some]
    dsimp only
    rw [ih (i + 1) _ hsize, List.flatMap_cons, putSamples_append, (dtmfTone_spec c).2, Nat.add_mul, Nat.one_mul,
      Nat.add_assoc]

/-- The `k`-th sample of the frame `j`. -/
theorem getD_flatMap_tone (numbers : List Char) (a : Nat) :
    (numbers.flatMap dtmfTone).getD a 0 =
      ((numbers[a / FRAME_SIZE]?.map dtmfTone).getD []).getD (a % FRAME_SIZE) 0 := by
  induction numbers generalizing a with
  | nil => simp
  | cons c numbers ih =>
    have hlength := (dtmfTone_spec c).2
    rw [List.flatMap_cons]
    by_cases ha : a < FRAME_SIZE
    · rw [List.getD_append _ _ _ _ (by omega), Nat.div_eq_of_lt ha, Nat.mod_eq_of_lt ha]
      rfl
    · have ha : FRAME_SIZE ≤ a := Nat.le_of_not_lt ha
      have hdiv : a / FRAME_SIZE = (a - FRAME_SIZE) / FRAME_SIZE + 1 := Nat.div_eq_sub_div (by decide) ha
      have hmod : a % FRAME_SIZE = (a - FRAME_SIZE) % FRAME_SIZE := Nat.mod_eq_sub_mod ha
      rw [List.getD_append_right _ _ _ _ (by omega), hlength, ih, hdiv, hmod, List.getElem?_cons_succ]

theorem length_flatMap_tone (numbers : List Char) :
    (numbers.flatMap dtmfTone).length = FRAME_SIZE * numbers.length := by
  induction numbers with
  | nil => rfl
  | cons c numbers ih =>
    rw [List.flatMap_cons, List.length_append, (dtmfTone_spec c).2, ih, List.length_cons, Nat.mul_succ, Nat.add_comm]

/-- A number whose size is an `int` fills a buffer of that size exactly: each button has its own frame, which does not
depend on the other buttons, what is no button is silent, and the memory beside the buffer stays. -/
theorem mediaDtmfGenerate_fills {numbers : CString} (hnumbers : numbers ≠ [])
    (hsize : FRAME_SIZE * 2 * numbers.length < 2 ^ 31) :
    mediaDtmfGetBufferSize (some numbers) = (FRAME_SIZE * 2 * numbers.length : Nat) ∧
      ∀ passes buffer mem, FRAME_SIZE < passes → ∃ mem',
        mediaDtmfGenerate passes (some numbers) (some buffer) mem = some (some (0, mem')) ∧
        (∀ a, a < buffer ∨ buffer + FRAME_SIZE * numbers.length ≤ a → mem' a = mem a) ∧
        ∀ j c k, numbers[j]? = some c → k < FRAME_SIZE →
          mem' (buffer + j * FRAME_SIZE + k) = (dtmfTone c).getD k 0 ∧
            (dtmfButton c = none → mem' (buffer + j * FRAME_SIZE + k) = 0) := by
  cases numbers with
  | nil => exact absurd rfl hnumbers
  | cons c₀ numbers =>
    refine ⟨?_, fun passes buffer mem hpasses => ?_⟩
    · rw [mediaDtmfGetBufferSize, BitVec.toInt_ofNat', Int.bmod_eq_of_le (by omega) (by omega)]
    · have hloop := mediaDtmfGenerateLoop_eq hpasses buffer (c₀ :: numbers) 0 mem (by
        rw [FRAME_SIZE] at hsize ⊢
        omega)
      refine ⟨putSamples mem buffer ((c₀ :: numbers).flatMap dtmfTone), ?_, fun a ha => ?_, fun j c k hj hk => ?_⟩
      · rw [mediaDtmfGenerate, hloop, Nat.zero_mul, Nat.add_zero]
        rfl
      · rw [putSamples_apply, length_flatMap_tone, if_neg (by omega)]
      · have hlt := (List.getElem?_eq_some_iff.1 hj).1
        have htone : putSamples mem buffer ((c₀ :: numbers).flatMap dtmfTone) (buffer + j * FRAME_SIZE + k) =
            (dtmfTone c).getD k 0 := by
          have hplace : buffer + j * FRAME_SIZE + k - buffer = k + FRAME_SIZE * j := by
            rw [Nat.mul_comm FRAME_SIZE]
            omega
          have hdiv : (k + FRAME_SIZE * j) / FRAME_SIZE = j := by
            rw [Nat.add_mul_div_left _ _ (by decide), Nat.div_eq_of_lt hk, Nat.zero_add]
          have hmod : (k + FRAME_SIZE * j) % FRAME_SIZE = k := by
            rw [Nat.add_mul_mod_self_left, Nat.mod_eq_of_lt hk]
          have hinside : buffer ≤ buffer + j * FRAME_SIZE + k ∧
              buffer + j * FRAME_SIZE + k < buffer + FRAME_SIZE * (c₀ :: numbers).length := by
            rw [FRAME_SIZE] at hk ⊢
            omega
          rw [putSamples_apply, length_flatMap_tone, if_pos hinside, hplace, getD_flatMap_tone, hdiv, hmod, hj]
          rfl
        refine ⟨htone, fun hnone => ?_⟩
        rw [htone, dtmfTone_silent hnone, List.getD_replicate _ hk]

/-- Two buttons. -/
theorem mediaDtmfGenerate_fills_sample : mediaDtmfGetBufferSize (some "1#".toList) = 4800 ∧
    ∀ passes buffer mem, FRAME_SIZE < passes → ∃ mem',
      mediaDtmfGenerate passes (some "1#".toList) (some buffer) mem = some (some (0, mem')) := by
  obtain ⟨hsize, hfills⟩ := @mediaDtmfGenerate_fills "1#".toList (by decide) (by decide)
  refine ⟨hsize, fun passes buffer mem hpasses => ?_⟩
  obtain ⟨mem', hgenerate, -⟩ := hfills passes buffer mem hpasses
  exact ⟨mem', hgenerate⟩

end MediaFramework
