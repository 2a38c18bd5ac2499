import MediaFramework.Session.SessionClient

/-!
# Metadata as text

What is read of the text of metadata.  The numbers are read as they were printed; the title and the artist are the
first two words of the texts that were printed for them, or whatever is on the stack if there are none.
-/

namespace MediaFramework

open Scanf

variable {data : MediaMetadata} {stack : MetadataStack}

namespace MediaMetadata

/-- The part of the text with the numbers. -/
def numbers (data : MediaMetadata) : CString :=
  printNum data.flags.toInt ++ ':' :: (printNum data.state.toInt ++ ':' :: (printNum data.volume.toInt ++ ':' ::
    (printNum data.position.toNat ++ ':' :: (printNum data.duration.toNat ++ [':']))))

/-- The part of the text with the title and the artist. -/
def texts (data : MediaMetadata) : CString := printText data.title ++ '\t' :: printText data.artist

/-- What `snprintf` leaves for the artist in 256 characters. -/
def room (data : MediaMetadata) : Nat := 254 - data.numbers.length - (printText data.title).length

theorem print_eq (data : MediaMetadata) : data.print = data.numbers ++ data.texts := by
  simp [print, numbers, texts]

theorem length_numbers_le (data : MediaMetadata) : data.numbers.length ≤ 60 := by
  have hint : ∀ x : BitVec 32, (printNum x.toInt).length ≤ 11 := by
    intro x
    have hlo := BitVec.le_toInt x
    have hhi := BitVec.toInt_lt (x := x)
    exact length_printNum_le (by simpa using hlo) (by omega)
  have hnat : ∀ x : BitVec 32, (printNum x.toNat).length ≤ 11 := by
    intro x
    have hhi := x.isLt
    exact length_printNum_le (by omega) (by omega)
  have hflags := hint data.flags
  have hstate := hint data.state
  have hvolume := hint data.volume
  have hposition := hnat data.position
  have hduration := hnat data.duration
  simp only [numbers, List.length_append, List.length_cons, List.length_nil]
  omega

theorem room_pos (data : MediaMetadata) (h : (printText data.title).length < 128) : 0 < data.room := by
  have hnumbers := data.length_numbers_le
  unfold room
  omega

/-- The text in 256 characters: nothing but the artist is ever cut. -/
theorem take_print (h : (printText data.title).length < 128) :
    data.print.take 255 = data.numbers ++ (printText data.title ++ '\t' :: (printText data.artist).take data.room) := by
  have hnumbers := data.length_numbers_le
  have hroom : 255 = data.numbers.length + ((printText data.title).length + (data.room + 1)) := by
    unfold room
    omega
  rw [print_eq, texts, hroom, List.take_length_add_append, List.take_length_add_append, List.take_succ_cons]

/-- The text is shorter than 256 characters if there is room for the artist. -/
theorem room_of_fits (h : data.print.length ≤ 255) : (printText data.artist).take data.room = printText data.artist := by
  rw [print_eq, texts, List.length_append, List.length_append, List.length_cons] at h
  apply List.take_of_length_le
  unfold room
  omega

/-! ### Reading -/

theorem scan_numbers (data : MediaMetadata) (rest : CString) :
    scan metadataFormat (data.numbers ++ rest) =
      .num data.flags.toInt :: .num data.state.toInt :: .num data.volume.toInt :: .num data.position.toNat ::
        .num data.duration.toNat :: scan [.word, .space, .word] rest := by
  have hcolon : ∀ s : CString, EndsNum (':' :: s) := by
    intro s c hc
    obtain rfl : ':' = c := by simpa using hc
    decide
  simp only [metadataFormat, numbers, List.append_assoc, List.cons_append, List.nil_append]
  rw [scan_num _ (hcolon _), scan_char, scan_num _ (hcolon _), scan_char, scan_num _ (hcolon _), scan_char,
    scan_num _ (hcolon _), scan_char, scan_num _ (hcolon _), scan_char]

private theorem getElem?_words (rest : CString) :
    (scan [.word, .space, .word] rest)[0]? =
        (if firstWord rest = [] then none else some (Value.word (firstWord rest))) ∧
      (scan [.word, .space, .word] rest)[1]? =
        if secondWord rest = [] then none else some (Value.word (secondWord rest)) := by
  rw [scan_words]
  by_cases hfirst : firstWord rest = []
  · simp [hfirst, secondWord_of_firstWord hfirst]
  · by_cases hsecond : secondWord rest = [] <;> simp [hfirst, hsecond]

theorem scannedWord_title (data : MediaMetadata) (rest old : CString) :
    scannedWord (scan metadataFormat (data.numbers ++ rest)) 5 old =
      if firstWord rest = [] then old else firstWord rest := by
  unfold scannedWord
  rw [scan_numbers]
  simp only [List.getElem?_cons_succ, (getElem?_words rest).1]
  by_cases hfirst : firstWord rest = [] <;> simp [hfirst]

theorem scannedWord_artist (data : MediaMetadata) (rest old : CString) :
    scannedWord (scan metadataFormat (data.numbers ++ rest)) 6 old =
      if secondWord rest = [] then old else secondWord rest := by
  unfold scannedWord
  rw [scan_numbers]
  simp only [List.getElem?_cons_succ, (getElem?_words rest).2]
  by_cases hsecond : secondWord rest = [] <;> simp [hsecond]

end MediaMetadata

/-- What is stored for a text of which the word has been read: what is on the stack if there was none. -/
def readText (flagged : Bool) (word stack : CString) : Option CString :=
  if flagged && !(if word = [] then stack else word).isEmpty then some (if word = [] then stack else word) else none

/-- The metadata that are read when the texts `rest` follow the numbers of `data`. -/
def MediaMetadata.read (data : MediaMetadata) (rest : CString) (stack : MetadataStack) : MediaMetadata :=
  { data with
    title := readText (data.has MEDIA_METAFLAG_TITLE) (firstWord rest) stack.title
    artist := readText (data.has MEDIA_METAFLAG_ARTIST) (secondWord rest) stack.artist
    album := none }

/-- No word is too long for its array. -/
def ShortWords (rest : CString) : Prop := (firstWord rest).length < 128 ∧ (secondWord rest).length < 128

private theorem short_iff (data : MediaMetadata) (rest : CString) :
    (128 ≤ (scannedWord (scan metadataFormat (data.numbers ++ rest)) 5 []).length ∨
      128 ≤ (scannedWord (scan metadataFormat (data.numbers ++ rest)) 6 []).length) ↔ ¬ ShortWords rest := by
  rw [MediaMetadata.scannedWord_title, MediaMetadata.scannedWord_artist, ShortWords]
  have hnil : ∀ w : CString, (if w = [] then [] else w) = w := fun w => by split <;> simp_all
  rw [hnil, hnil]
  omega

instance (rest : CString) : Decidable (ShortWords rest) := inferInstanceAs (Decidable (_ ∧ _))

/-- The text of metadata is read as long as the words are short. -/
theorem unserialize_numbers (data : MediaMetadata) (stack : MetadataStack) {w : CString} (h : ShortWords w) :
    ∃ ret : Int, 0 ≤ ret ∧ mediaMetadataUnserialize stack mediaMetadataInit (some (data.numbers ++ w)) =
      some (ret, data.read w stack) := by
  refine ⟨result metadataFormat (data.numbers ++ w), ?_, ?_⟩
  · rw [result, MediaMetadata.scan_numbers, if_neg fun h => by cases h.1]
    exact Int.natCast_nonneg _
  · unfold mediaMetadataUnserialize
    dsimp only
    rw [if_neg fun hlong => (short_iff data w).1 hlong h, MediaMetadata.scannedWord_title,
      MediaMetadata.scannedWord_artist]
    have hnums : ∀ old, scannedNum (scan metadataFormat (data.numbers ++ w)) 0 old = data.flags ∧
        scannedNum (scan metadataFormat (data.numbers ++ w)) 1 old = data.state ∧
        scannedNum (scan metadataFormat (data.numbers ++ w)) 2 old = data.volume ∧
        scannedUnsigned (scan metadataFormat (data.numbers ++ w)) 3 old = data.position ∧
        scannedUnsigned (scan metadataFormat (data.numbers ++ w)) 4 old = data.duration := by
      intro old
      rw [MediaMetadata.scan_numbers]
      simp [scannedNum, scannedUnsigned]
    simp only [(hnums _).1, (hnums _).2.1, (hnums _).2.2.1, (hnums _).2.2.2.1, (hnums _).2.2.2.2]
    rfl

theorem unserialize_overflow (data : MediaMetadata) (stack : MetadataStack) {rest : CString} (h : ¬ ShortWords rest) :
    mediaMetadataUnserialize stack mediaMetadataInit (some (data.numbers ++ rest)) = none := by
  unfold mediaMetadataUnserialize
  dsimp only
  rw [if_pos ((short_iff data rest).2 h)]

/-- A title and an artist that are words are read of the 255 characters, except for what there is no room for. -/
theorem unserialize_print (data : MediaMetadata) (stack : MetadataStack) (htitle : IsWord (printText data.title))
    (hartist : IsWord (printText data.artist)) (hshort : (printText data.title).length < 128)
    (hshort' : (printText data.artist).length < 128) :
    ∃ ret : Int, 0 ≤ ret ∧ mediaMetadataUnserialize stack mediaMetadataInit (some (data.print.take 255)) =
      some (ret, { data with
        title := if data.has MEDIA_METAFLAG_TITLE then some (printText data.title) else none
        artist := if data.has MEDIA_METAFLAG_ARTIST then some ((printText data.artist).take data.room) else none
        album := none }) := by
  have hroom := data.room_pos hshort
  have hcut : IsWord ((printText data.artist).take data.room) :=
    ⟨List.take_eq_nil_iff.not.2 (not_or.2 ⟨hroom.ne', hartist.1⟩), fun c hc => hartist.2 c (List.mem_of_mem_take hc)⟩
  obtain ⟨hfirst, hsecond⟩ := words_append htitle hcut (c := '\t') (by decide)
  obtain ⟨ret, hret, hread⟩ := unserialize_numbers data stack
    (w := printText data.title ++ '\t' :: (printText data.artist).take data.room) (by
      rw [ShortWords, hfirst, hsecond]
      exact ⟨hshort, lt_of_le_of_lt (List.length_take_le' ..) hshort'⟩)
  refine ⟨ret, hret, ?_⟩
  have hnonempty : ∀ {w : CString}, IsWord w → ∀ flagged stack,
      readText flagged w stack = if flagged then some w else none := by
    intro w hw flagged stack
    have hw' : w.isEmpty = false := List.isEmpty_eq_false_iff.2 hw.1
    rw [readText, if_neg hw.1, hw', Bool.not_false, Bool.and_true]
  rw [data.take_print hshort, hread, MediaMetadata.read, hfirst, hsecond, hnonempty htitle, hnonempty hcut]

end MediaFramework
