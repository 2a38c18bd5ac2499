import Mathlib.Data.Int.Basic
import Mathlib.Logic.Function.Basic
import Mathlib.Tactic.Ring

/-!
# The tones of the dial buttons (`client/media_dtmf.c`)

A tone is the sum of two oscillators, each of which computes a sample from the two before it by one product with a
coefficient.  The product is computed in two halves, of which the lower one is rounded.  Signed arithmetic that
overflows has no result here.
-/

namespace MediaFramework

/-! ### The product -/

/-- The product of two `int`s. -/
def smul (x y : BitVec 32) : Option (BitVec 32) := if x.smulOverflow y then none else some (x * y)

/-- The sum of two `int`s. -/
def sadd (x y : BitVec 32) : Option (BitVec 32) := if x.saddOverflow y then none else some (x + y)

/-- `media_dtmf_calculate_product`: the lower half of `integerTwo` is an `unsigned short`, the upper half a `short`,
and both become an `int` when they are multiplied. -/
def mediaDtmfCalculateProduct (integerOne : BitVec 16) (integerTwo : BitVec 32) : Option (BitVec 32) := do
  let lower ← smul ((integerTwo.setWidth 16).zeroExtend 32) (integerOne.signExtend 32)
  let rounded ← sadd lower 0x4000#32
  let temp0 : BitVec 16 := (rounded.sshiftRight 15).setWidth 16
  let temp1 ← smul (((integerTwo.sshiftRight 16).setWidth 16).signExtend 32) (integerOne.signExtend 32)
  return (temp1 <<< 1) + temp0.zeroExtend 32

theorem smul_eq {x y : BitVec 32} (h : -2 ^ 31 ≤ x.toInt * y.toInt) (h' : x.toInt * y.toInt < 2 ^ 31) :
    ∃ z, smul x y = some z ∧ z.toInt = x.toInt * y.toInt := by
  have hfits : ¬ x.smulOverflow y = true := by
    simp only [BitVec.smulOverflow, Bool.or_eq_true, decide_eq_true_eq]
    omega
  exact ⟨x * y, if_neg hfits, BitVec.toInt_mul_of_not_smulOverflow hfits⟩

theorem sadd_eq {x y : BitVec 32} (h : -2 ^ 31 ≤ x.toInt + y.toInt) (h' : x.toInt + y.toInt < 2 ^ 31) :
    ∃ z, sadd x y = some z ∧ z.toInt = x.toInt + y.toInt := by
  have hfits : ¬ x.saddOverflow y = true := by
    simp only [BitVec.saddOverflow, Bool.or_eq_true, decide_eq_true_eq]
    omega
  exact ⟨x + y, if_neg hfits, BitVec.toInt_add_of_not_saddOverflow hfits⟩

/-- The lower half of an `int`. -/
theorem toInt_lower (b : BitVec 32) : ((b.setWidth 16).zeroExtend 32).toInt = b.toInt % 2 ^ 16 := by
  have hlow : b.toNat % 2 ^ 16 < 2 ^ 16 := Nat.mod_lt _ (by decide)
  rw [BitVec.toInt_eq_toNat_cond b, BitVec.toInt_eq_toNat_cond]
  simp only [BitVec.zeroExtend, BitVec.toNat_setWidth]
  omega

/-- The upper half of an `int`. -/
theorem toInt_upper (b : BitVec 32) :
    (((b.sshiftRight 16).setWidth 16).signExtend 32).toInt = b.toInt / 2 ^ 16 := by
  have hlo := BitVec.le_toInt b
  have hhi := BitVec.toInt_lt (x := b)
  have hshift : (b.sshiftRight 16).toInt = b.toInt / 2 ^ 16 := by
    rw [BitVec.toInt_sshiftRight, Int.shiftRight_eq_div_pow]
    rfl
  rw [BitVec.toInt_signExtend_of_le (by decide), ← hshift, BitVec.toInt_eq_toNat_cond, BitVec.toInt_eq_toNat_cond]
  rw [BitVec.toInt_eq_toNat_cond] at hshift
  simp only [BitVec.toNat_setWidth]
  omega

/-- The product is exact: it is rounded at its lowest bit, and fits into an `int`. -/
theorem mediaDtmfCalculateProduct_eq {a : BitVec 16} (ha : 0 ≤ a.toInt) (b : BitVec 32) :
    ∃ r, mediaDtmfCalculateProduct a b = some r ∧ r.toInt = (a.toInt * b.toInt + 2 ^ 14) / 2 ^ 15 := by
  have hb := BitVec.le_toInt b
  have hb' := BitVec.toInt_lt (x := b)
  have ha' := BitVec.toInt_lt (x := a)
  have hone : (a.signExtend 32).toInt = a.toInt := BitVec.toInt_signExtend_of_le (by decide)
  have hlow := toInt_lower b
  have hup := toInt_upper b
  generalize hlo : b.toInt % 2 ^ 16 = lo at hlow
  generalize hhi : b.toInt / 2 ^ 16 = hi at hup
  have hsplit : b.toInt = hi * 2 ^ 16 + lo := by omega
  -- neither half overflows
  have hlower : 0 ≤ lo * a.toInt ∧ lo * a.toInt ≤ 65535 * 32767 := by
    constructor
    · exact Int.mul_nonneg (by omega) ha
    · exact Int.mul_le_mul (by omega) (by omega) ha (by decide)
  have hupper : -32768 * a.toInt ≤ hi * a.toInt ∧ hi * a.toInt ≤ 32767 * a.toInt := by
    constructor
    · exact Int.mul_le_mul_of_nonneg_right (by omega) ha
    · exact Int.mul_le_mul_of_nonneg_right (by omega) ha
  have hhalf : (0x4000#32).toInt = 2 ^ 14 := rfl
  obtain ⟨lower, hl, hlower'⟩ := smul_eq (x := (b.setWidth 16).zeroExtend 32) (y := a.signExtend 32)
    (by rw [hlow, hone]; omega) (by rw [hlow, hone]; omega)
  rw [hlow, hone] at hlower'
  obtain ⟨rounded, hr, hrounded⟩ := sadd_eq (x := lower) (y := 0x4000#32)
    (by rw [hlower', hhalf]; omega) (by rw [hlower', hhalf]; omega)
  rw [hlower', hhalf] at hrounded
  obtain ⟨temp1, ht, htemp1⟩ := smul_eq (x := ((b.sshiftRight 16).setWidth 16).signExtend 32) (y := a.signExtend 32)
    (by rw [hup, hone]; omega) (by rw [hup, hone]; omega)
  rw [hup, hone] at htemp1
  -- the rounded half fits into an `unsigned short`
  have htemp0 : ((((rounded.sshiftRight 15).setWidth 16).zeroExtend 32).toNat : Int) =
      (lo * a.toInt + 2 ^ 14) / 2 ^ 15 := by
    have hshift : (rounded.sshiftRight 15).toInt = (lo * a.toInt + 2 ^ 14) / 2 ^ 15 := by
      rw [BitVec.toInt_sshiftRight, Int.shiftRight_eq_div_pow, hrounded]
      rfl
    rw [BitVec.toInt_eq_toNat_cond] at hshift
    simp only [BitVec.zeroExtend, BitVec.toNat_setWidth]
    omega
  refine ⟨(temp1 <<< 1) + ((rounded.sshiftRight 15).setWidth 16).zeroExtend 32, ?_, ?_⟩
  · rw [mediaDtmfCalculateProduct, hl, Option.bind_eq_bind, Option.bind_some, hr]
    simp [ht]
  · have hexact : (a.toInt * b.toInt + 2 ^ 14) / 2 ^ 15 = 2 * (hi * a.toInt) + (lo * a.toInt + 2 ^ 14) / 2 ^ 15 :=
      calc (a.toInt * b.toInt + 2 ^ 14) / 2 ^ 15
        _ = (lo * a.toInt + 2 ^ 14 + 2 * (hi * a.toInt) * 2 ^ 15) / 2 ^ 15 := by
          congr 1
          rw [hsplit]
          ring
        _ = (lo * a.toInt + 2 ^ 14) / 2 ^ 15 + 2 * (hi * a.toInt) := Int.add_mul_ediv_right _ _ (by decide)
        _ = _ := Int.add_comm _ _
    rw [hexact, BitVec.toInt_eq_toNat_cond, BitVec.toNat_add, BitVec.toNat_shiftLeft, Nat.shiftLeft_eq]
    rw [BitVec.toInt_eq_toNat_cond] at htemp1
    omega

/-! ### The oscillators -/

/-- The two samples before the next one, of the lower and of the higher frequency. -/
structure DtmfStates where
  lowOne : BitVec 32
  highOne : BitVec 32
  lowTwo : BitVec 32
  highTwo : BitVec 32
  deriving DecidableEq

/-- One pass of the loop: the sample, and the states after it.  The difference and the sum are unsigned, and so is the
shift by which the sum is halved. -/
def mediaDtmfSample (lowFreqCoeff highFreqCoeff : BitVec 16) (subject : BitVec 32) (s : DtmfStates) :
    Option (BitVec 16 × DtmfStates) := do
  let temp0 := (← mediaDtmfCalculateProduct lowFreqCoeff (s.lowOne <<< 1)) - s.lowTwo
  let temp1 := (← mediaDtmfCalculateProduct highFreqCoeff (s.highOne <<< 1)) - s.highTwo
  let sum := temp0 + temp1
  let sample := if subject ≠ 0 then sum >>> 1 else sum
  return (sample.setWidth 16, ⟨temp0, temp1, s.lowOne, s.highOne⟩)

/-- The memory, by the addresses of samples. -/
abbrev DtmfBuffer := Nat → BitVec 16

/-- The loop, which counts with 16 bits: nothing when the passes do not end it, and no result inside when a pass has
none. -/
def mediaDtmfLoop (lowFreqCoeff highFreqCoeff : BitVec 16) (subject count : BitVec 32) (buffer : Nat) :
    Nat → BitVec 16 → DtmfBuffer × DtmfStates → Option (Option (DtmfBuffer × DtmfStates))
  | 0, _, _ => none
  | passes + 1, ii, s =>
    if ii.zeroExtend 32 < count then
      match mediaDtmfSample lowFreqCoeff highFreqCoeff subject s.2 with
      | some r =>
        mediaDtmfLoop lowFreqCoeff highFreqCoeff subject count buffer passes (ii + 1)
          (Function.update s.1 (buffer + ii.toNat) r.1, r.2)
      | none => some none
    else some (some s)

/-- `media_dtmf_frequency_oscillator` with at most so many passes of the loop. -/
def mediaDtmfFrequencyOscillator (passes : Nat) (lowFreqCoeff highFreqCoeff : BitVec 16) (buffer : Nat)
    (count : BitVec 32) (s : DtmfBuffer × DtmfStates) : Option (Option (DtmfBuffer × DtmfStates)) :=
  match smul (lowFreqCoeff.signExtend 32) (highFreqCoeff.signExtend 32) with
  | some subject => mediaDtmfLoop lowFreqCoeff highFreqCoeff subject count buffer passes 0 s
  | none => some none

/-! ### Samples one after the other -/

variable {low high : BitVec 16} {subject count : BitVec 32} {buffer passes : Nat} {s : DtmfBuffer × DtmfStates}

/-- What the loop does to the memory and the states when nothing overflows. -/
def samplesFrom (low high : BitVec 16) (subject : BitVec 32) :
    Nat → Nat → DtmfBuffer × DtmfStates → Option (DtmfBuffer × DtmfStates)
  | _, 0, s => some s
  | address, samples + 1, s =>
    (mediaDtmfSample low high subject s.2).bind fun r =>
      samplesFrom low high subject (address + 1) samples (Function.update s.1 address r.1, r.2)

/-- The samples of two runs are those of one. -/
theorem samplesFrom_add (address m n : Nat) (s : DtmfBuffer × DtmfStates) :
    samplesFrom low high subject address (m + n) s =
      (samplesFrom low high subject address m s).bind (samplesFrom low high subject (address + m) n) := by
  induction m generalizing address s with
  | zero =>
    rw [Nat.zero_add]
    rfl
  | succ m ih =>
    rw [Nat.succ_add, samplesFrom, samplesFrom, Option.bind_assoc]
    congr 1
    funext r
    rw [ih, Nat.add_right_comm, Nat.add_assoc]

theorem mediaDtmfSample_isSome (subject : BitVec 32) (hlow : 0 ≤ low.toInt) (hhigh : 0 ≤ high.toInt) (states : DtmfStates) :
    (mediaDtmfSample low high subject states).isSome := by
  obtain ⟨temp0, htemp0, -⟩ := mediaDtmfCalculateProduct_eq hlow (states.lowOne <<< 1)
  obtain ⟨temp1, htemp1, -⟩ := mediaDtmfCalculateProduct_eq hhigh (states.highOne <<< 1)
  simp [mediaDtmfSample, htemp0, htemp1]

theorem samplesFrom_isSome (subject : BitVec 32) (hlow : 0 ≤ low.toInt) (hhigh : 0 ≤ high.toInt) (address samples : Nat)
    (s : DtmfBuffer × DtmfStates) : (samplesFrom low high subject address samples s).isSome := by
  induction samples generalizing address s with
  | zero => rfl
  | succ samples ih =>
    obtain ⟨r, hr⟩ := Option.isSome_iff_exists.1 (mediaDtmfSample_isSome subject hlow hhigh s.2)
    rw [samplesFrom, hr]
    exact ih _ _

/-- As long as the counter does not come to its end the loop writes the samples that are left, and stops. -/
theorem mediaDtmfLoop_eq (hlow : 0 ≤ low.toInt) (hhigh : 0 ≤ high.toInt) (hcount : count.toNat ≤ 65535) (ii : BitVec 16)
    (hii : ii.toNat ≤ count.toNat) (hpasses : count.toNat - ii.toNat < passes) :
    mediaDtmfLoop low high subject count buffer passes ii s =
      some (samplesFrom low high subject (buffer + ii.toNat) (count.toNat - ii.toNat) s) := by
  induction passes generalizing ii s with
  | zero => omega
  | succ passes ih =>
    have hless : ii.zeroExtend 32 < count ↔ ii.toNat < count.toNat := by
      rw [BitVec.lt_def]
      simp only [BitVec.zeroExtend, BitVec.toNat_setWidth]
      omega
    rw [mediaDtmfLoop]
    by_cases hleft : ii.toNat < count.toNat
    · rw [if_pos (hless.2 hleft)]
      obtain ⟨r, hr⟩ := Option.isSome_iff_exists.1 (mediaDtmfSample_isSome subject hlow hhigh s.2)
      have hnext : (ii + 1).toNat = ii.toNat + 1 := by
        rw [BitVec.toNat_add]
        exact Nat.mod_eq_of_lt (by simp; omega)
      have hrest : count.toNat - ii.toNat = (count.toNat - (ii + 1).toNat) + 1 := by omega
      rw [hr, hrest, samplesFrom, hr]
      dsimp only
      rw [ih (ii + 1) (by omega) (by omega), hnext, Option.bind_some, Nat.add_assoc]
    · rw [if_neg fun hlt => hleft (hless.1 hlt)]
      have hdone : count.toNat - ii.toNat = 0 := by omega
      rw [hdone]
      rfl

/-- Whether the sum is halved does not depend on the run. -/
theorem subject_eq (hlow : 0 ≤ low.toInt) (hhigh : 0 ≤ high.toInt) :
    ∃ subject, smul (low.signExtend 32) (high.signExtend 32) = some subject := by
  have hlow' := BitVec.toInt_lt (x := low)
  have hhigh' := BitVec.toInt_lt (x := high)
  have hproduct : 0 ≤ low.toInt * high.toInt ∧ low.toInt * high.toInt ≤ 32767 * 32767 := by
    constructor
    · exact Int.mul_nonneg hlow hhigh
    · exact Int.mul_le_mul (by omega) (by omega) hhigh (by decide)
  obtain ⟨subject, hsubject, -⟩ := smul_eq (x := low.signExtend 32) (y := high.signExtend 32)
    (by rw [BitVec.toInt_signExtend_of_le (by decide), BitVec.toInt_signExtend_of_le (by decide)]; omega)
    (by rw [BitVec.toInt_signExtend_of_le (by decide), BitVec.toInt_signExtend_of_le (by decide)]; omega)
  exact ⟨subject, hsubject⟩

/-- A run ends, and writes its samples. -/
theorem mediaDtmfFrequencyOscillator_eq (hlow : 0 ≤ low.toInt) (hhigh : 0 ≤ high.toInt)
    (hsubject : smul (low.signExtend 32) (high.signExtend 32) = some subject) (hcount : count.toNat ≤ 65535)
    (hpasses : count.toNat < passes) :
    mediaDtmfFrequencyOscillator passes low high buffer count s =
      some (samplesFrom low high subject buffer count.toNat s) := by
  rw [mediaDtmfFrequencyOscillator, hsubject]
  exact mediaDtmfLoop_eq hlow hhigh hcount 0 (Nat.zero_le _) hpasses

/-- The product is exact, and a run of `m + n` samples does what a run of `m` samples and then one of `n` samples do,
which all end. -/
theorem mediaDtmf_exact :
    (∀ (a : BitVec 16) (b : BitVec 32), 0 ≤ a.toInt →
      ∃ r, mediaDtmfCalculateProduct a b = some r ∧ r.toInt = (a.toInt * b.toInt + 2 ^ 14) / 2 ^ 15) ∧
    ∀ (low high : BitVec 16) (m n : BitVec 32) (buffer : Nat) (s : DtmfBuffer × DtmfStates), 0 ≤ low.toInt →
      0 ≤ high.toInt → m.toNat + n.toNat ≤ 65535 → ∃ t u, ∀ passes, m.toNat + n.toNat < passes →
        mediaDtmfFrequencyOscillator passes low high buffer m s = some (some t) ∧
        mediaDtmfFrequencyOscillator passes low high (buffer + m.toNat) n t = some (some u) ∧
        mediaDtmfFrequencyOscillator passes low high buffer (m + n) s = some (some u) := by
  refine ⟨fun a b ha => mediaDtmfCalculateProduct_eq ha b, fun low high m n buffer s hlow hhigh hcount => ?_⟩
  obtain ⟨subject, hsubject⟩ := subject_eq hlow hhigh
  obtain ⟨t, ht⟩ := Option.isSome_iff_exists.1
    (samplesFrom_isSome subject hlow hhigh buffer m.toNat s)
  obtain ⟨u, hu⟩ := Option.isSome_iff_exists.1
    (samplesFrom_isSome subject hlow hhigh (buffer + m.toNat) n.toNat t)
  have hsum : (m + n).toNat = m.toNat + n.toNat := by
    rw [BitVec.toNat_add]
    exact Nat.mod_eq_of_lt (by omega)
  refine ⟨t, u, fun passes hpasses => ⟨?_, ?_, ?_⟩⟩
  · rw [mediaDtmfFrequencyOscillator_eq hlow hhigh hsubject (by omega) (by omega), ht]
  · rw [mediaDtmfFrequencyOscillator_eq hlow hhigh hsubject (by omega) (by omega), hu]
  · rw [mediaDtmfFrequencyOscillator_eq hlow hhigh hsubject (by omega) (by omega), hsum, samplesFrom_add, ht,
      Option.bind_some, hu]

/-- The states of the button 1, and a sample of each kind. -/
def sampleDtmf : DtmfBuffer × DtmfStates := (fun _ => 0, ⟨27980, 19073, 31000, 31000⟩)

theorem mediaDtmf_exact_sample :
    (∃ r, mediaDtmfCalculateProduct 27980 (-5) = some r ∧ r.toInt = (27980 * -5 + 2 ^ 14) / 2 ^ 15) ∧
      ∃ t u, ∀ passes, 5 < passes →
        mediaDtmfFrequencyOscillator passes 27980 19073 0 2 sampleDtmf = some (some t) ∧
        mediaDtmfFrequencyOscillator passes 27980 19073 2 3 t = some (some u) ∧
        mediaDtmfFrequencyOscillator passes 27980 19073 0 5 sampleDtmf = some (some u) :=
  ⟨mediaDtmf_exact.1 27980 (-5) (by decide),
    mediaDtmf_exact.2 27980 19073 2 3 0 sampleDtmf (by decide) (by decide) (by decide)⟩

end MediaFramework
