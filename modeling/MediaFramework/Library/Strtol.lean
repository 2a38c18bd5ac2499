import MediaFramework.Library.Scanf

/-!
# Numbers by `strtol`

`strtol` takes white space, a sign, and the digits of a base, and stays in the range of `long`.  In the base 0 the text
says what its base is: `0x` and a digit begin a number of the base 16, another zero one of the base 8.  A number that
has been printed in the base 10 begins with a zero only if it is zero, so it is read again in the base 0 as in the base
10.
-/

namespace Strtol

open Scanf (isSpace printNum isDigit_toDigits isDigit_plain)

/-- The digit in a base of up to 36, and 36 if the character is none. -/
def digitValue (c : Char) : Nat :=
  if c.isDigit then c.toNat - 48
  else if 'a' ≤ c ∧ c ≤ 'z' then c.toNat - 87
  else if 'A' ≤ c ∧ c ≤ 'Z' then c.toNat - 55
  else 36

/-- The base of the number, and the text behind a prefix. -/
def radix (base : Nat) : List Char → Nat × List Char
  | '0' :: x :: c :: s =>
    if (base = 0 ∨ base = 16) ∧ (x = 'x' ∨ x = 'X') ∧ digitValue c < 16 then (16, c :: s)
    else (if base = 0 then 8 else base, '0' :: x :: c :: s)
  | '0' :: s => (if base = 0 then 8 else base, '0' :: s)
  | s => (if base = 0 then 10 else base, s)

def readDigits (base : Nat) (s : List Char) : Nat :=
  (s.takeWhile fun c => digitValue c < base).foldl (fun n c => base * n + digitValue c) 0

def magnitude (base : Nat) (s : List Char) : Nat := readDigits (radix base s).1 (radix base s).2

/-- `strtol(s, NULL, base)`, where `lo` and `hi` are the bounds of `long`. -/
def strtol (lo hi : Int) (base : Nat) (s : List Char) : Int :=
  match s.dropWhile isSpace with
  | '-' :: s => if -(magnitude base s : Int) < lo then lo else -(magnitude base s : Int)
  | '+' :: s => if hi < (magnitude base s : Int) then hi else (magnitude base s : Int)
  | s => if hi < (magnitude base s : Int) then hi else (magnitude base s : Int)

theorem digitValue_of_isDigit {c : Char} (hc : c.isDigit = true) : digitValue c = c.toNat - 48 ∧ digitValue c < 10 := by
  have hval : 48 ≤ c.toNat ∧ c.toNat ≤ 57 := by
    simp only [Char.isDigit, Bool.and_eq_true, decide_eq_true_eq] at hc
    exact hc
  unfold digitValue
  rw [if_pos hc]
  omega

theorem readDigits_toDigits (n : Nat) : readDigits 10 (Nat.toDigits 10 n) = n := by
  have htake : (Nat.toDigits 10 n).takeWhile (fun c => digitValue c < 10) = Nat.toDigits 10 n :=
    List.takeWhile_eq_self_iff.2 fun c hc =>
      decide_eq_true (digitValue_of_isDigit (isDigit_toDigits c hc)).2
  have hfold (cs : List Char) (hcs : ∀ c ∈ cs, c.isDigit = true) (k : Nat) :
      cs.foldl (fun n c => 10 * n + digitValue c) k = Nat.ofDigitChars 10 cs k := by
    induction cs generalizing k with
    | nil => rfl
    | cons c cs ih =>
      rw [List.foldl_cons, (digitValue_of_isDigit (hcs c List.mem_cons_self)).1,
        ih fun c hc => hcs c (List.mem_cons_of_mem _ hc)]
      rfl
  rw [readDigits, htake, hfold _ isDigit_toDigits, Nat.ofDigitChars_ten_toDigits]

/-- Only the number zero is printed with a zero in front. -/
theorem toDigits_head {n : Nat} (hn : 0 < n) : (Nat.toDigits 10 n).head? ≠ some '0' := by
  induction n using Nat.strongRecOn with
  | _ n ih =>
    rw [Nat.toDigits_eq_if (by decide)]
    split
    case isTrue hlt =>
      rw [List.head?_cons, Ne, Option.some.injEq, Nat.digitChar_eq_zero]
      omega
    case isFalse hge =>
      rw [List.head?_append_of_ne_nil _ Nat.toDigits_ne_nil]
      exact ih (n / 10) (Nat.div_lt_self hn (by decide)) (by omega)

theorem radix_plain {base : Nat} {s : List Char} (hs : s.head? ≠ some '0') :
    radix base s = (if base = 0 then 10 else base, s) := by
  unfold radix
  split
  · exact absurd rfl hs
  · exact absurd rfl hs
  · rfl

theorem magnitude_toDigits {base : Nat} (hbase : base = 0 ∨ base = 10) (n : Nat) :
    magnitude base (Nat.toDigits 10 n) = n := by
  rcases Nat.eq_zero_or_pos n with rfl | hn
  · rcases hbase with rfl | rfl <;> decide
  · unfold magnitude
    rw [radix_plain (toDigits_head hn)]
    rcases hbase with rfl | rfl
    · exact readDigits_toDigits n
    · exact readDigits_toDigits n

/-- A number in the range of `long` that was printed by `%d` is read again. -/
theorem strtol_printNum {lo hi : Int} {base : Nat} (hbase : base = 0 ∨ base = 10) {n : Int} (hlo : lo ≤ n)
    (hhi : n ≤ hi) : strtol lo hi base (printNum n) = n := by
  cases n with
  | ofNat n =>
    cases hdigits : Nat.toDigits 10 n with
    | nil => exact absurd hdigits Nat.toDigits_ne_nil
    | cons c digits =>
      obtain ⟨hspace, hminus, hplus⟩ := isDigit_plain (isDigit_toDigits (n := n) c (by simp [hdigits]))
      have hval : magnitude base (c :: digits) = n := by rw [← hdigits, magnitude_toDigits hbase]
      simp only [strtol, printNum, hdigits]
      rw [List.dropWhile_cons_of_neg (by simp [hspace])]
      split
      · rename_i heq
        exact absurd (List.cons.inj heq).1 hminus
      · rename_i heq
        exact absurd (List.cons.inj heq).1 hplus
      · rw [hval]
        exact if_neg (Int.not_lt.2 hhi)
  | negSucc n =>
    simp only [strtol, printNum]
    rw [List.dropWhile_cons_of_neg (by decide)]
    simp only [magnitude_toDigits hbase]
    exact if_neg (Int.not_lt.2 hlo)

end Strtol
