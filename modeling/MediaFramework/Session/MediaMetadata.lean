import Mathlib.Data.List.Basic
import MediaFramework.Errno
import MediaFramework.Library.Scanf

/-!
# Metadata (`media_metadata.c`)

What a controllee tells about the song it plays.  It is sent as text, printed by `snprintf` and read by `sscanf`.
-/

namespace MediaFramework

/-- The characters of a C string before its end. -/
abbrev CString := List Char

def MEDIA_METAFLAG_STATE : BitVec 32 := 0x1
def MEDIA_METAFLAG_VOLUME : BitVec 32 := 0x2
def MEDIA_METAFLAG_POSITION : BitVec 32 := 0x4
def MEDIA_METAFLAG_DURATION : BitVec 32 := 0x8
def MEDIA_METAFLAG_TITLE : BitVec 32 := 0x10
def MEDIA_METAFLAG_ARTIST : BitVec 32 := 0x20
def MEDIA_METAFLAG_ALBUM : BitVec 32 := 0x40

/-- `media_metadata_t`; the numbers are those of C, the first three signed. -/
structure MediaMetadata where
  flags : BitVec 32 := 0
  state : BitVec 32 := 0
  volume : BitVec 32 := 0
  position : BitVec 32 := 0
  duration : BitVec 32 := 0
  title : Option CString := none
  artist : Option CString := none
  album : Option CString := none
  deriving DecidableEq

/-- `data->flags & flag`. -/
def MediaMetadata.has (data : MediaMetadata) (flag : BitVec 32) : Bool := decide (data.flags &&& flag ≠ 0)

def mediaMetadataInit : MediaMetadata := {}

def mediaMetadataDeinit (data : MediaMetadata) : MediaMetadata := { data with title := none, artist := none }

def mediaMetadataReinit (_ : MediaMetadata) : MediaMetadata := mediaMetadataInit

def mediaMetadataUpdate (data diff : MediaMetadata) : MediaMetadata where
  flags := data.flags ||| diff.flags
  state := if diff.has MEDIA_METAFLAG_STATE then diff.state else data.state
  volume := if diff.has MEDIA_METAFLAG_VOLUME then diff.volume else data.volume
  position := if diff.has MEDIA_METAFLAG_POSITION then diff.position else data.position
  duration := if diff.has MEDIA_METAFLAG_DURATION then diff.duration else data.duration
  title := if diff.has MEDIA_METAFLAG_TITLE then diff.title else data.title
  artist := if diff.has MEDIA_METAFLAG_ARTIST then diff.artist else data.artist
  album := data.album

theorem mediaMetadataUpdate_has (data diff : MediaMetadata) (flag : BitVec 32) :
    (mediaMetadataUpdate data diff).has flag = (data.has flag || diff.has flag) := by
  have hdist : (data.flags ||| diff.flags) &&& flag = (data.flags &&& flag) ||| (diff.flags &&& flag) :=
    BitVec.and_or_distrib_right
  have hzero : data.flags &&& flag ||| diff.flags &&& flag = 0 ↔ data.flags &&& flag = 0 ∧ diff.flags &&& flag = 0 :=
    BitVec.or_eq_zero_iff
  simp only [MediaMetadata.has, mediaMetadataUpdate, hdist, ← Bool.decide_or]
  exact decide_eq_decide.2 (by rw [ne_eq, hzero, not_and_or])

/-- What `%s` prints. -/
def printText : Option CString → CString
  | some text => text
  | none => "(null)".toList

theorem printText_some (text : CString) : printText (some text) = text := rfl

/-- The text of `"%d:%d:%d:%u:%u:%s\t%s"`. -/
def MediaMetadata.print (data : MediaMetadata) : CString :=
  Scanf.printNum data.flags.toInt ++ ':' :: (Scanf.printNum data.state.toInt ++ ':' ::
    (Scanf.printNum data.volume.toInt ++ ':' :: (Scanf.printNum data.position.toNat ++ ':' ::
      (Scanf.printNum data.duration.toNat ++ ':' :: (printText data.title ++ '\t' :: printText data.artist)))))

/-- The length of the text, and what of it there is room for. -/
def mediaMetadataSerialize (data : MediaMetadata) (len : Nat) : Int × CString :=
  (data.print.length, data.print.take (len - 1))

/-- The format `"%d:%d:%d:%u:%u:%s\t%s"`. -/
def metadataFormat : List Scanf.Directive :=
  [.num, .char ':', .num, .char ':', .num, .char ':', .num, .char ':', .num, .char ':', .word, .space, .word]

/-- The number that `%d` has stored, or the one that was there before. -/
def scannedNum (vals : List Scanf.Value) (place : Nat) (old : BitVec 32) : BitVec 32 :=
  match vals[place]? with
  | some (.num n) => BitVec.ofInt 32 (Scanf.toLong n)
  | _ => old

/-- The number that `%u` has stored, or the one that was there before. -/
def scannedUnsigned (vals : List Scanf.Value) (place : Nat) (old : BitVec 32) : BitVec 32 :=
  match vals[place]? with
  | some (.num n) => BitVec.ofInt 32 (Scanf.toUnsignedLong n)
  | _ => old

@[simp] theorem toLong_toInt (value : BitVec 32) : BitVec.ofInt 32 (Scanf.toLong value.toInt) = value := by
  rw [Scanf.toLong_of_int value.le_toInt value.toInt_lt, BitVec.ofInt_toInt]

@[simp] theorem toUnsignedLong_toNat (value : BitVec 32) :
    BitVec.ofInt 32 (Scanf.toUnsignedLong value.toNat) = value := by
  rw [Scanf.toUnsignedLong_of_nat value.isLt, BitVec.ofInt_natCast, BitVec.ofNat_toNat, BitVec.setWidth_eq]

def scannedWord (vals : List Scanf.Value) (place : Nat) (old : CString) : CString :=
  match vals[place]? with
  | some (.word w) => w
  | _ => old

/-- The arrays `char title[128], artist[128]` on the stack, before anything is stored in them. -/
structure MetadataStack where
  title : CString := []
  artist : CString := []

/-- The result and the metadata, or `none` where a word does not fit into its array. -/
def mediaMetadataUnserialize (stack : MetadataStack) (data : MediaMetadata) (str : Option CString) :
    Option (Int × MediaMetadata) :=
  match str with
  | none => some (-EINVAL, data)
  | some str =>
    let vals := Scanf.scan metadataFormat str
    let title := scannedWord vals 5 stack.title
    let artist := scannedWord vals 6 stack.artist
    if 128 ≤ (scannedWord vals 5 []).length ∨ 128 ≤ (scannedWord vals 6 []).length then none
    else
      let data := { data with
        flags := scannedNum vals 0 data.flags
        state := scannedNum vals 1 data.state
        volume := scannedNum vals 2 data.volume
        position := scannedUnsigned vals 3 data.position
        duration := scannedUnsigned vals 4 data.duration }
      some (Scanf.result metadataFormat str, { data with
        title := if data.has MEDIA_METAFLAG_TITLE && !title.isEmpty then some title else data.title
        artist := if data.has MEDIA_METAFLAG_ARTIST && !artist.isEmpty then some artist else data.artist })

end MediaFramework
