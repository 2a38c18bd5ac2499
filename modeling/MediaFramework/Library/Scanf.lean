import Mathlib.Algebra.Group.Int.Defs
import Mathlib.Algebra.Group.Nat.Defs
import Mathlib.Data.List.DropRight
import Mathlib.Data.List.TakeDrop
import Mathlib.Data.List.TakeWhile

/-!
# Reading formatted text

The conversions `%d`, `%u` and `%s` of `sscanf` with the literal characters and the white space between them.  A scan
stops at the first directive that fails, and has the values read so far.  A number that has been printed is read
again if no digit follows, and the words of a text are read one after the other.
-/

namespace Scanf

/-- A conversion of a number, a conversion of a word, any white space, or a character. -/
inductive Directive
  | num
  | word
  | space
  | char (c : Char)

inductive Value
  | num (n : Int)
  | word (w : List Char)
  deriving DecidableEq

/-- `isspace`. -/
def isSpace (c : Char) : Bool := c == ' ' || (decide ('\t' ≤ c) && decide (c ≤ '\r'))

def scanNat (s : List Char) : Option (Nat × List Char) :=
  if s.takeWhile Char.isDigit = [] then none
  else some (Nat.ofDigitChars 10 (s.takeWhile Char.isDigit) 0, s.dropWhile Char.isDigit)

def scanNum (s : List Char) : Option (Int × List Char) :=
  match s.dropWhile isSpace with
  | '-' :: s => (scanNat s).map fun r => (-(r.1 : Int), r.2)
  | '+' :: s => (scanNat s).map fun r => ((r.1 : Int), r.2)
  | s => (scanNat s).map fun r => ((r.1 : Int), r.2)

def scanWord (s : List Char) : Option (List Char × List Char) :=
  if s.dropWhile isSpace = [] then none
  else some ((s.dropWhile isSpace).takeWhile (!isSpace ·), (s.dropWhile isSpace).dropWhile (!isSpace ·))

/-- The values that are read before a directive fails. -/
def scan : List Directive → List Char → List Value
  | [], _ => []
  | .num :: fmt, s =>
    match scanNum s with
    | some (n, s) => .num n :: scan fmt s
    | none => []
  | .word :: fmt, s =>
    match scanWord s with
    | some (w, s) => .word w :: scan fmt s
    | none => []
  | .space :: fmt, s => scan fmt (s.dropWhile isSpace)
  | .char _ :: _, [] => []
  | .char c :: fmt, c' :: s => if c' = c then scan fmt s else []

/-- The result of a scan that begins with a conversion: the number of values, or `EOF`. -/
def result (fmt : List Directive) (s : List Char) : Int :=
  if scan fmt s = [] ∧ s.all isSpace then -1 else (scan fmt s).length

/-- The `long` that `%d` reads before it stores an `int`, where a `long` has 64 bits: it stays in its range. -/
def toLong (n : Int) : Int := if n < -2 ^ 63 then -2 ^ 63 else if 2 ^ 63 ≤ n then 2 ^ 63 - 1 else n

/-- The `unsigned long` that `%u` reads, which may be negated. -/
def toUnsignedLong (n : Int) : Int := if n.natAbs < 2 ^ 64 then n else 2 ^ 64 - 1

/-- What `%d` and `%u` print. -/
def printNum : Int → List Char
  | .ofNat n => Nat.toDigits 10 n
  | .negSucc n => '-' :: Nat.toDigits 10 (n + 1)

/-- The text does not go on with a digit. -/
def EndsNum (s : List Char) : Prop := ∀ c ∈ s.head?, c.isDigit = false

/-- The first word of a text, or nothing if there is white space only. -/
def firstWord (s : List Char) : List Char := (s.dropWhile isSpace).takeWhile (!isSpace ·)

/-- What follows the first word. -/
def afterWord (s : List Char) : List Char := (s.dropWhile isSpace).dropWhile (!isSpace ·)

def secondWord (s : List Char) : List Char := firstWord (afterWord s)

/-- Some characters, and no white space. -/
def IsWord (s : List Char) : Prop := s ≠ [] ∧ ∀ c ∈ s, isSpace c = false

instance (s : List Char) : Decidable (IsWord s) :=
  decidable_of_iff ((!s.isEmpty && s.all fun c => !isSpace c) = true) (by simp [IsWord])

/-! ### Numbers -/

theorem takeWhile_append_of_head {p : Char → Bool} {w s : List Char} (hw : ∀ c ∈ w, p c = true)
    (hs : ∀ c ∈ s.head?, p c = false) : (w ++ s).takeWhile p = w ∧ (w ++ s).dropWhile p = s := by
  induction w with
  | nil =>
    cases s with
    | nil => exact ⟨rfl, rfl⟩
    | cons c s =>
      have hc := hs c rfl
      simp [hc]
  | cons c w ih =>
    have hc := hw c (by simp)
    have ih := ih fun c hm => hw c (by simp [hm])
    simp [hc, ih]

theorem isDigit_toDigits {n : Nat} : ∀ c ∈ Nat.toDigits 10 n, c.isDigit = true :=
  fun _ hc => Nat.isDigit_of_mem_toDigits (by decide) (by decide) hc

theorem scanNat_toDigits (n : Nat) {s : List Char} (hs : EndsNum s) :
    scanNat (Nat.toDigits 10 n ++ s) = some (n, s) := by
  obtain ⟨htake, hdrop⟩ := takeWhile_append_of_head isDigit_toDigits hs
  unfold scanNat
  rw [htake, hdrop, if_neg Nat.toDigits_ne_nil, Nat.ofDigitChars_ten_toDigits]

/-- A digit is no white space and no sign. -/
theorem isDigit_plain {c : Char} (hc : c.isDigit = true) : isSpace c = false ∧ c ≠ '-' ∧ c ≠ '+' := by
  have hval : 48 ≤ c.toNat ∧ c.toNat ≤ 57 := by
    simp only [Char.isDigit, Bool.and_eq_true, decide_eq_true_eq] at hc
    exact hc
  refine ⟨?_, ?_, ?_⟩
  · by_contra hspace
    simp only [isSpace, Bool.not_eq_false, Bool.or_eq_true, beq_iff_eq, Bool.and_eq_true, decide_eq_true_eq] at hspace
    rcases hspace with rfl | ⟨-, hle⟩
    · exact absurd hval.1 (by decide)
    · have hle : c.toNat ≤ 13 := hle
      omega
  · rintro rfl
    exact absurd hval.1 (by decide)
  · rintro rfl
    exact absurd hval.1 (by decide)

theorem scanNum_printNum (n : Int) {s : List Char} (hs : EndsNum s) : scanNum (printNum n ++ s) = some (n, s) := by
  cases n with
  | ofNat n =>
    cases hdigits : Nat.toDigits 10 n with
    | nil => exact absurd hdigits Nat.toDigits_ne_nil
    | cons c digits =>
      have hscan := scanNat_toDigits n hs
      obtain ⟨hspace, hminus, hplus⟩ := isDigit_plain (c := c) (isDigit_toDigits (n := n) c (by simp [hdigits]))
      rw [hdigits, List.cons_append] at hscan
      simp only [scanNum, printNum]
      rw [hdigits, List.cons_append, List.dropWhile_cons_of_neg (by simp [hspace])]
      split
      · rename_i heq
        exact absurd (List.cons.inj heq).1 hminus
      · rename_i heq
        exact absurd (List.cons.inj heq).1 hplus
      · rw [hscan]
        rfl
  | negSucc n =>
    simp only [scanNum, printNum]
    rw [List.cons_append, List.dropWhile_cons_of_neg (by decide)]
    simp only [scanNat_toDigits _ hs, Option.map_some]
    rfl

theorem toLong_of_int {n : Int} (hlo : -2 ^ 31 ≤ n) (hhi : n < 2 ^ 31) : toLong n = n := by
  rw [toLong, if_neg (by omega), if_neg (by omega)]

theorem toUnsignedLong_of_nat {n : Nat} (hn : n < 2 ^ 32) : toUnsignedLong n = n := by
  rw [toUnsignedLong, if_pos (by omega)]

/-- A 32-bit number has at most 11 characters. -/
theorem length_printNum_le {n : Int} (hlo : -2 ^ 31 ≤ n) (hhi : n < 2 ^ 32) : (printNum n).length ≤ 11 := by
  cases n with
  | ofNat n =>
    have hn : n < 10 ^ 11 := by
      have hhi : (n : Int) < 2 ^ 32 := hhi
      omega
    exact (Nat.length_toDigits_le_iff (by decide) (by decide)).2 hn
  | negSucc n =>
    have hn : n + 1 < 10 ^ 10 := by
      have hlo : -2 ^ 31 ≤ -((n : Int) + 1) := by
        rw [Int.negSucc_eq] at hlo
        exact hlo
      omega
    rw [printNum, List.length_cons]
    exact Nat.succ_le_succ ((Nat.length_toDigits_le_iff (by decide) (by decide)).2 hn)

theorem scan_num {fmt : List Directive} {s : List Char} (n : Int) (hs : EndsNum s) :
    scan (.num :: fmt) (printNum n ++ s) = .num n :: scan fmt s := by
  simp only [scan, scanNum_printNum n hs]

theorem scan_char (fmt : List Directive) (c : Char) (s : List Char) :
    scan (.char c :: fmt) (c :: s) = scan fmt s := by
  simp only [scan, if_true]

/-! ### The kinds of the values -/

def Directive.converts : Directive → Bool
  | .num | .word => true
  | .space | .char _ => false

/-- A value that the directive can read. -/
inductive Directive.Reads : Directive → Value → Prop
  | num (n : Int) : Directive.Reads .num (.num n)
  | word {w : List Char} : w ≠ [] → Directive.Reads .word (.word w)

theorem scanWord_ne_nil {s w rest : List Char} (h : scanWord s = some (w, rest)) : w ≠ [] := by
  unfold scanWord at h
  split at h
  · cases h
  · rename_i hne
    cases h
    cases hdrop : s.dropWhile isSpace with
    | nil => exact absurd hdrop hne
    | cons c s' =>
      have hhead := List.head?_dropWhile_not isSpace s
      rw [hdrop] at hhead
      have hc : isSpace c = false := by simpa using hhead
      simp [hc]

/-- The values of a scan are those of the first conversions of the format. -/
theorem scan_reads {fmt : List Directive} {s : List Char} {place : Nat} {v : Value}
    (h : (scan fmt s)[place]? = some v) : ∃ d, (fmt.filter Directive.converts)[place]? = some d ∧ d.Reads v := by
  induction fmt generalizing s place with
  | nil => cases h
  | cons d fmt ih =>
    cases d with
    | num =>
      rw [List.filter_cons_of_pos rfl]
      unfold scan at h
      split at h
      · cases place with
        | zero =>
          cases h
          exact ⟨_, rfl, .num _⟩
        | succ place => exact ih h
      · cases h
    | word =>
      rw [List.filter_cons_of_pos rfl]
      unfold scan at h
      split at h
      · rename_i hword
        cases place with
        | zero =>
          cases h
          exact ⟨_, rfl, .word (scanWord_ne_nil hword)⟩
        | succ place => exact ih h
      · cases h
    | space =>
      rw [List.filter_cons_of_neg (by decide)]
      exact ih h
    | char c =>
      rw [List.filter_cons_of_neg (by simp [Directive.converts])]
      cases s with
      | nil => cases h
      | cons c' s =>
        unfold scan at h
        split at h
        · exact ih h
        · cases h

/-! ### Words -/

theorem IsWord.of_firstWord {s : List Char} (h : firstWord s ≠ []) : IsWord (firstWord s) :=
  ⟨h, fun _ hc => by simpa using List.mem_takeWhile_imp hc⟩

theorem firstWord_word {w : List Char} (hw : IsWord w) {s : List Char} (hs : ∀ c ∈ s.head?, isSpace c = true) :
    firstWord (w ++ s) = w ∧ afterWord (w ++ s) = s := by
  have hdrop : (w ++ s).dropWhile isSpace = w ++ s := by
    cases w with
    | nil => exact absurd rfl hw.1
    | cons c w => exact List.dropWhile_cons_of_neg (by simp [hw.2 c])
  rw [firstWord, afterWord, hdrop]
  exact takeWhile_append_of_head (fun c hc => by simp [hw.2 c hc]) (fun c hc => by simp [hs c hc])

theorem firstWord_cons_space {c : Char} (hc : isSpace c = true) (s : List Char) : firstWord (c :: s) = firstWord s := by
  rw [firstWord, List.dropWhile_cons_of_pos hc, firstWord]

/-- Two words with a character of white space between them. -/
theorem words_append {v w : List Char} (hv : IsWord v) (hw : IsWord w) {c : Char} (hc : isSpace c = true) :
    firstWord (v ++ c :: w) = v ∧ secondWord (v ++ c :: w) = w := by
  obtain ⟨hfirst, hafter⟩ := firstWord_word hv (s := c :: w) (by simpa using hc)
  obtain ⟨hsecond, -⟩ := firstWord_word hw (s := []) (by simp)
  rw [List.append_nil] at hsecond
  refine ⟨hfirst, ?_⟩
  rw [secondWord, hafter, firstWord_cons_space hc, hsecond]

theorem secondWord_of_firstWord {s : List Char} (h : firstWord s = []) : secondWord s = [] := by
  have hafter : afterWord s = [] := by
    unfold firstWord at h
    unfold afterWord
    have happend := List.takeWhile_append_dropWhile (p := (!isSpace ·)) (l := s.dropWhile isSpace)
    have hhead := List.head?_dropWhile_not isSpace s
    cases hdrop : s.dropWhile isSpace with
    | nil => rfl
    | cons c rest =>
      rw [hdrop] at h hhead
      have hc : isSpace c = false := by simpa using hhead
      simp [hc] at h
  rw [secondWord, hafter]
  rfl

theorem scanWord_eq (s : List Char) :
    scanWord s = if firstWord s = [] then none else some (firstWord s, afterWord s) := by
  have hiff : s.dropWhile isSpace = [] ↔ firstWord s = [] := by
    unfold firstWord
    cases hdrop : s.dropWhile isSpace with
    | nil => simp
    | cons c rest =>
      have hc : isSpace c = false := by
        have hhead := List.head?_dropWhile_not isSpace s
        rw [hdrop] at hhead
        simpa using hhead
      simp [hc]
  unfold scanWord
  by_cases hnone : s.dropWhile isSpace = []
  · rw [if_pos hnone, if_pos (hiff.1 hnone)]
  · rw [if_neg hnone, if_neg fun h => hnone (hiff.2 h)]
    rfl

theorem scanWord_dropWhile (s : List Char) : scanWord (s.dropWhile isSpace) = scanWord s := by
  rw [scanWord, scanWord, List.dropWhile_idempotent]

/-- Two words with white space between them. -/
theorem scan_words (s : List Char) :
    scan [.word, .space, .word] s =
      if firstWord s = [] then []
      else if secondWord s = [] then [.word (firstWord s)]
      else [.word (firstWord s), .word (secondWord s)] := by
  simp only [scan]
  rw [scanWord_eq]
  by_cases hfirst : firstWord s = []
  · rw [if_pos hfirst, if_pos hfirst]
  · rw [if_neg hfirst, if_neg hfirst]
    simp only [scanWord_dropWhile]
    rw [scanWord_eq]
    by_cases hsecond : firstWord (afterWord s) = []
    · rw [if_pos hsecond, secondWord, if_pos hsecond]
    · rw [if_neg hsecond, secondWord, if_neg hsecond]

end Scanf
