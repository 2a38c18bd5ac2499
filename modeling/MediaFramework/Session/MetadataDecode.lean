import MediaFramework.Session.MetadataWire

/-!
# Reading any text as metadata

A client may send any text.  The values that the text supplies are the ones that `sscanf` has read before it stopped;
all the others should be what `media_metadata_init` has left.  But the arrays for the two words are looked at whenever
the flags say that there is a title or an artist.
-/

namespace MediaFramework

open Scanf

/-! ### What should be read -/

/-- The values that a text supplies: five numbers and two words, or the first ones of them. -/
abbrev supplied (str : CString) : List Value := scan metadataFormat str

/-- Fields of which there is no value are zero or `NULL`. -/
structure OnlySupplied (vals : List Value) (data : MediaMetadata) : Prop where
  flags : vals.length ≤ 0 → data.flags = 0
  state : vals.length ≤ 1 → data.state = 0
  volume : vals.length ≤ 2 → data.volume = 0
  position : vals.length ≤ 3 → data.position = 0
  duration : vals.length ≤ 4 → data.duration = 0
  title : vals.length ≤ 5 → data.title = none
  artist : vals.length ≤ 6 → data.artist = none
  album : data.album = none

/-- The arrays are large enough, and what is read is the same for all that was in them before. -/
def DecodesText (str : CString) : Prop :=
  (∀ stack, (mediaMetadataUnserialize stack mediaMetadataInit (some str)).isSome) ∧
    ∃ ret data, (∀ stack, mediaMetadataUnserialize stack mediaMetadataInit (some str) = some (ret, data)) ∧
      OnlySupplied (supplied str) data

/-- The flags that a text supplies. -/
def suppliedFlags (str : CString) : BitVec 32 := scannedNum (supplied str) 0 0

/-- The words of a text are short, and there is one for each of the flags that want one. -/
structure TextComplete (str : CString) : Prop where
  short : ∀ w, .word w ∈ supplied str → w.length < 128
  title : suppliedFlags str &&& MEDIA_METAFLAG_TITLE ≠ 0 → 6 ≤ (supplied str).length
  artist : suppliedFlags str &&& MEDIA_METAFLAG_ARTIST ≠ 0 → 7 ≤ (supplied str).length

variable {str : CString} {stack : MetadataStack}

/-! ### The values of a scan -/

/-- There is a word in one of the last two places, or no value. -/
theorem supplied_word (str : CString) {place : Nat} (hplace : place = 5 ∨ place = 6) :
    (place < (supplied str).length ∧ ∃ w, w ≠ [] ∧ (supplied str)[place]? = some (.word w)) ∨
      ((supplied str).length ≤ place ∧ (supplied str)[place]? = none) := by
  cases hv : (supplied str)[place]? with
  | none => exact .inr ⟨List.getElem?_eq_none_iff.1 hv, rfl⟩
  | some v =>
    left
    have hlt : place < (supplied str).length := by
      by_contra hge
      rw [List.getElem?_eq_none (by omega)] at hv
      cases hv
    obtain ⟨d, hd, hreads⟩ := scan_reads hv
    have hword : d = .word := by
      rcases hplace with rfl | rfl
      · exact (Option.some.inj hd).symm
      · exact (Option.some.inj hd).symm
    subst hword
    cases hreads with
    | word hne => exact ⟨hlt, _, hne, rfl⟩

theorem place_of_word {w : List Char} {place : Nat} (h : (supplied str)[place]? = some (.word w)) :
    place = 5 ∨ place = 6 := by
  obtain ⟨d, hd, hreads⟩ := scan_reads h
  cases hreads with
  | word _ =>
    match place, hd with
    | 5, _ => exact .inl rfl
    | 6, _ => exact .inr rfl

/-- The array has the word, or what was in it if there is none. -/
theorem scannedWord_supplied {place : Nat} (hplace : place = 5 ∨ place = 6) (old : CString) :
    scannedWord (supplied str) place old =
      if scannedWord (supplied str) place [] = [] then old else scannedWord (supplied str) place [] := by
  unfold scannedWord
  obtain ⟨-, w, hne, hv⟩ | ⟨-, hv⟩ := supplied_word str hplace
  · simp [hv, hne]
  · simp [hv]

theorem scannedWord_eq_nil (str : CString) {place : Nat} (hplace : place = 5 ∨ place = 6) :
    scannedWord (supplied str) place [] = [] ↔ (supplied str).length ≤ place := by
  unfold scannedWord
  obtain ⟨hlt, w, hne, hv⟩ | ⟨hle, hv⟩ := supplied_word str hplace
  · simp only [hv]
    exact ⟨fun h => absurd h hne, fun hle => absurd hle (by omega)⟩
  · simp [hle]

theorem scannedNum_of_le {place : Nat} (h : (supplied str).length ≤ place) :
    scannedNum (supplied str) place 0 = 0 := by
  unfold scannedNum
  rw [List.getElem?_eq_none h]

theorem scannedUnsigned_of_le {place : Nat} (h : (supplied str).length ≤ place) :
    scannedUnsigned (supplied str) place 0 = 0 := by
  unfold scannedUnsigned
  rw [List.getElem?_eq_none h]

theorem short_words : (∀ w, .word w ∈ supplied str → w.length < 128) ↔
    (scannedWord (supplied str) 5 []).length < 128 ∧ (scannedWord (supplied str) 6 []).length < 128 := by
  constructor
  · intro h
    have hplace : ∀ place, place = 5 ∨ place = 6 → (scannedWord (supplied str) place []).length < 128 := by
      intro place hplace
      unfold scannedWord
      obtain ⟨-, w, -, hv⟩ | ⟨-, hv⟩ := supplied_word str hplace
      · simp only [hv]
        exact h w (List.mem_of_getElem? hv)
      · simp [hv]
    exact ⟨hplace 5 (.inl rfl), hplace 6 (.inr rfl)⟩
  · intro ⟨htitle, hartist⟩ w hw
    obtain ⟨place, hv⟩ := List.mem_iff_getElem?.1 hw
    unfold scannedWord at htitle hartist
    rcases place_of_word hv with rfl | rfl
    · rwa [hv] at htitle
    · rwa [hv] at hartist

/-! ### The metadata that are read -/

/-- What is read of a text when the arrays are large enough. -/
def decoded (str : CString) (stack : MetadataStack) : MediaMetadata where
  flags := suppliedFlags str
  state := scannedNum (supplied str) 1 0
  volume := scannedNum (supplied str) 2 0
  position := scannedUnsigned (supplied str) 3 0
  duration := scannedUnsigned (supplied str) 4 0
  title := readText (decide (suppliedFlags str &&& MEDIA_METAFLAG_TITLE ≠ 0)) (scannedWord (supplied str) 5 [])
    stack.title
  artist := readText (decide (suppliedFlags str &&& MEDIA_METAFLAG_ARTIST ≠ 0)) (scannedWord (supplied str) 6 [])
    stack.artist

theorem unserialize_decoded (h : ∀ w, .word w ∈ supplied str → w.length < 128) (stack : MetadataStack) :
    mediaMetadataUnserialize stack mediaMetadataInit (some str) =
      some (result metadataFormat str, decoded str stack) := by
  obtain ⟨htitle, hartist⟩ := short_words.1 h
  unfold supplied at htitle hartist
  unfold mediaMetadataUnserialize
  dsimp only
  rw [if_neg (by omega), scannedWord_supplied (.inl rfl), scannedWord_supplied (.inr rfl)]
  rfl

theorem unserialize_long (h : ¬ ∀ w, .word w ∈ supplied str → w.length < 128) (stack : MetadataStack) :
    mediaMetadataUnserialize stack mediaMetadataInit (some str) = none := by
  have hlong := short_words.not.1 h
  unfold supplied at hlong
  unfold mediaMetadataUnserialize
  dsimp only
  rw [if_pos (by omega)]

/-- Without a flag, or with a word, it does not matter what was in the array. -/
theorem readText_stack {flagged : Bool} {word : CString} (h : flagged = true → word ≠ []) (old : CString) :
    readText flagged word old = readText flagged word [] := by
  cases flagged with
  | false => rfl
  | true =>
    unfold readText
    rw [if_neg (h rfl), if_neg (h rfl)]

theorem readText_of_nil (flagged : Bool) : readText flagged [] [] = none := by
  cases flagged <;> rfl

/-- A flag without a word: the array is read as it was. -/
theorem readText_old : readText true [] ['?'] = some ['?'] := rfl

theorem decoded_onlySupplied (str : CString) : OnlySupplied (supplied str) (decoded str {}) where
  flags h := scannedNum_of_le h
  state h := scannedNum_of_le h
  volume h := scannedNum_of_le h
  position h := scannedUnsigned_of_le h
  duration h := scannedUnsigned_of_le h
  title h := by
    show readText _ (scannedWord (supplied str) 5 []) [] = none
    rw [(scannedWord_eq_nil str (.inl rfl)).2 h, readText_of_nil]
  artist h := by
    show readText _ (scannedWord (supplied str) 6 []) [] = none
    rw [(scannedWord_eq_nil str (.inr rfl)).2 h, readText_of_nil]
  album := rfl

/-- What is read does not depend on the arrays exactly if there is a word for each flag. -/
theorem decoded_stack (h : TextComplete str) (stack : MetadataStack) : decoded str stack = decoded str {} := by
  have hword : ∀ {place : Nat} {flagged : Prop} [Decidable flagged], place = 5 ∨ place = 6 →
      (flagged → place < (supplied str).length) → decide flagged = true → scannedWord (supplied str) place [] ≠ [] := by
    intro place flagged _ hplace hlength hflagged hnil
    have hlt := hlength (of_decide_eq_true hflagged)
    have hle := (scannedWord_eq_nil str hplace).1 hnil
    omega
  unfold decoded
  rw [readText_stack (hword (.inl rfl) h.title) stack.title, readText_stack (hword (.inr rfl) h.artist) stack.artist]

theorem TextComplete.of_decodes (h : DecodesText str) : TextComplete str := by
  obtain ⟨hsome, ret, data, hread, honly⟩ := h
  have hshort : ∀ w, .word w ∈ supplied str → w.length < 128 := by
    by_contra hlong
    have hnone := hsome {}
    rw [unserialize_long hlong] at hnone
    cases hnone
  -- of a missing word, the array with a question mark in it would be read
  have hdata : decoded str { title := ['?'], artist := ['?'] } = data := by
    have hread := hread { title := ['?'], artist := ['?'] }
    rw [unserialize_decoded hshort] at hread
    exact (Prod.mk.inj (Option.some.inj hread)).2
  refine ⟨hshort, fun hflag => ?_, fun hflag => ?_⟩
  · by_contra hle
    have htitle := honly.title (by omega)
    have hnil := (scannedWord_eq_nil str (.inl rfl)).2 (by omega)
    rw [← hdata, decoded, hnil, decide_eq_true hflag, readText_old] at htitle
    cases htitle
  · by_contra hle
    have hartist := honly.artist (by omega)
    have hnil := (scannedWord_eq_nil str (.inr rfl)).2 (by omega)
    rw [← hdata, decoded, hnil, decide_eq_true hflag, readText_old] at hartist
    cases hartist

/-- A text is decoded as a function of the text, into arrays that are large enough, exactly if its words are short and
a title and an artist follow whenever its flags say so. -/
theorem mediaMetadataUnserialize_decodes (str : CString) : DecodesText str ↔ TextComplete str := by
  constructor
  · exact TextComplete.of_decodes
  · intro h
    have hread : ∀ stack, mediaMetadataUnserialize stack mediaMetadataInit (some str) =
        some (result metadataFormat str, decoded str {}) := by
      intro stack
      rw [unserialize_decoded h.short, decoded_stack h]
    refine ⟨fun stack => ?_, _, _, hread, decoded_onlySupplied str⟩
    rw [hread stack]
    rfl

/-- A number beyond every `long` is read as -1, which has both flags. -/
example : suppliedFlags "18446744073709551616:0:0:0:0:".toList = -1 := by decide

/-- The flags say that there is a title, and the text ends: the title is what is on the stack. -/
theorem mediaMetadataUnserialize_decodes_not : ¬ ∀ str, DecodesText str := by
  intro h
  have htitle := (TextComplete.of_decodes (h "16:0:0:0:0:".toList)).title (by decide)
  exact absurd htitle (by decide)

end MediaFramework
