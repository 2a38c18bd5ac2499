import MediaFramework.Library.Ledger
import MediaFramework.Session.MetadataTrip

/-!
# Merging metadata

`media_metadata_update` moves the title and the artist of `diff` to `data`, so that each string has one owner.  Here
the strings are addresses on the heap, and `free` gives them back.  What is merged are the values of before: the last
one of each flag.  But the album is neither moved nor freed.
-/

namespace MediaFramework

/-- `media_metadata_t`, of which the strings are addresses or `NULL`. -/
structure MetadataPtrs where
  flags : BitVec 32 := 0
  state : BitVec 32 := 0
  volume : BitVec 32 := 0
  position : BitVec 32 := 0
  duration : BitVec 32 := 0
  title : Option Nat := none
  artist : Option Nat := none
  album : Option Nat := none

namespace MetadataPtrs

def has (data : MetadataPtrs) (flag : BitVec 32) : Bool := decide (data.flags &&& flag ≠ 0)

/-- The strings that a structure owns. -/
def strings (data : MetadataPtrs) : List Nat := data.title.toList ++ data.artist.toList ++ data.album.toList

/-- The values, when `text` is what the addresses point to. -/
def load (text : Nat → CString) (data : MetadataPtrs) : MediaMetadata where
  flags := data.flags
  state := data.state
  volume := data.volume
  position := data.position
  duration := data.duration
  title := data.title.map text
  artist := data.artist.map text
  album := data.album.map text

end MetadataPtrs

def freeString (heap : Ledger Nat) : Option Nat → Ledger Nat
  | none => heap
  | some addr => heap.giveBack addr

/-- `free(data->title); data->title = diff->title; diff->title = NULL;` under its flag: the heap, and the strings of
`data` and of `diff`. -/
def moveString (flagged : Bool) (heap : Ledger Nat) (data diff : Option Nat) :
    Ledger Nat × Option Nat × Option Nat :=
  if flagged then (freeString heap data, diff, none) else (heap, data, diff)

def mediaMetadataInitPtrs : MetadataPtrs := {}

def mediaMetadataDeinitPtrs (heap : Ledger Nat) (data : MetadataPtrs) : Ledger Nat × MetadataPtrs :=
  (freeString (freeString heap data.title) data.artist, { data with title := none, artist := none })

/-- The heap, `data` and `diff`. -/
def mediaMetadataUpdatePtrs (heap : Ledger Nat) (data diff : MetadataPtrs) :
    Ledger Nat × MetadataPtrs × MetadataPtrs :=
  let title := moveString (diff.has MEDIA_METAFLAG_TITLE) heap data.title diff.title
  let artist := moveString (diff.has MEDIA_METAFLAG_ARTIST) title.1 data.artist diff.artist
  (artist.1,
    { flags := data.flags ||| diff.flags
      state := if diff.has MEDIA_METAFLAG_STATE then diff.state else data.state
      volume := if diff.has MEDIA_METAFLAG_VOLUME then diff.volume else data.volume
      position := if diff.has MEDIA_METAFLAG_POSITION then diff.position else data.position
      duration := if diff.has MEDIA_METAFLAG_DURATION then diff.duration else data.duration
      title := title.2.1
      artist := artist.2.1
      album := data.album },
    { diff with title := title.2.2, artist := artist.2.2 })

/-! ### The values -/

/-- The values of the structures are merged as `mediaMetadataUpdate` says. -/
theorem update_load (text : Nat → CString) (heap : Ledger Nat) (data diff : MetadataPtrs) :
    (mediaMetadataUpdatePtrs heap data diff).2.1.load text = mediaMetadataUpdate (data.load text) (diff.load text) := by
  have hmove : ∀ (flagged : Bool) (heap : Ledger Nat) (old new : Option Nat),
      (moveString flagged heap old new).2.1.map text = if flagged then new.map text else old.map text := by
    intro flagged heap old new
    cases flagged <;> rfl
  simp only [mediaMetadataUpdatePtrs, MetadataPtrs.load, mediaMetadataUpdate, hmove]
  rfl

theorem mediaMetadataUpdate_assoc (data d₁ d₂ : MediaMetadata) :
    mediaMetadataUpdate data (mediaMetadataUpdate d₁ d₂) = mediaMetadataUpdate (mediaMetadataUpdate data d₁) d₂ := by
  have hfield : ∀ {β : Type} (flag : BitVec 32) (a b c : β),
      (if (mediaMetadataUpdate d₁ d₂).has flag then (if d₂.has flag then c else b) else a) =
        if d₂.has flag then c else if d₁.has flag then b else a := by
    intro β flag a b c
    rw [mediaMetadataUpdate_has]
    cases d₁.has flag <;> cases d₂.has flag <;> rfl
  have hflags : data.flags ||| (d₁.flags ||| d₂.flags) = data.flags ||| d₁.flags ||| d₂.flags :=
    (BitVec.or_assoc ..).symm
  unfold mediaMetadataUpdate at hfield ⊢
  simp only [hfield, hflags]

/-! ### Who owns the strings -/

/-- The strings that are allocated are these, each of them once. -/
structure Owned (heap : Ledger Nat) (strings : List Nat) : Prop where
  nodup : strings.Nodup
  live : heap.live.Perm strings
  stray : heap.stray = []

namespace Owned

variable {heap : Ledger Nat} {strings others : List Nat} {p q : Option Nat} {data diff : MetadataPtrs}

/-- The order does not matter. -/
theorem of_count (h : Owned heap strings) (others : List Nat)
    (hcount : ∀ addr, others.count addr = strings.count addr) :
    Owned heap others := by
  have hperm : strings.Perm others := List.perm_iff_count.2 fun addr => (hcount addr).symm
  exact ⟨hperm.nodup_iff.1 h.nodup, h.live.trans hperm, h.stray⟩

theorem free (h : Owned heap (p.toList ++ others)) : Owned (freeString heap p) others := by
  cases p with
  | none => exact h
  | some addr =>
    obtain ⟨hlive, hstray⟩ := Ledger.giveBack_perm (a := addr) h.live
    exact ⟨(List.nodup_cons.1 h.nodup).2, hlive, hstray.trans h.stray⟩

theorem move (flagged : Bool) (h : Owned heap (p.toList ++ (q.toList ++ others))) :
    Owned (moveString flagged heap p q).1
      ((moveString flagged heap p q).2.1.toList ++ ((moveString flagged heap p q).2.2.toList ++ others)) := by
  cases flagged with
  | true => exact h.free
  | false => exact h

theorem update (h : Owned heap (data.strings ++ (diff.strings ++ others))) :
    Owned (mediaMetadataUpdatePtrs heap data diff).1
      ((mediaMetadataUpdatePtrs heap data diff).2.1.strings ++
        ((mediaMetadataUpdatePtrs heap data diff).2.2.strings ++ others)) := by
  have htitle := (h.of_count (data.title.toList ++ (diff.title.toList ++ (data.artist.toList ++
    (diff.artist.toList ++ (data.album.toList ++ (diff.album.toList ++ others)))))) (by
      intro addr
      simp only [MetadataPtrs.strings, List.count_append]
      omega)).move (diff.has MEDIA_METAFLAG_TITLE)
  simp only [mediaMetadataUpdatePtrs]
  generalize moveString (diff.has MEDIA_METAFLAG_TITLE) heap data.title diff.title = title at htitle ⊢
  have hartist := (htitle.of_count (data.artist.toList ++ (diff.artist.toList ++ (title.2.1.toList ++
    (title.2.2.toList ++ (data.album.toList ++ (diff.album.toList ++ others)))))) (by
      intro addr
      simp only [List.count_append]
      omega)).move (diff.has MEDIA_METAFLAG_ARTIST)
  apply hartist.of_count
  intro addr
  simp only [MetadataPtrs.strings, List.count_append]
  omega

/-- `media_metadata_deinit` frees all but the album. -/
theorem deinit (h : Owned heap (data.strings ++ others)) :
    Owned (mediaMetadataDeinitPtrs heap data).1 (data.album.toList ++ others) := by
  have htitle := (h.of_count (data.title.toList ++ (data.artist.toList ++ (data.album.toList ++ others))) (by
    intro addr
    simp only [MetadataPtrs.strings, List.count_append]
    omega)).free
  exact htitle.free

theorem deinitAll {all : List MetadataPtrs} (h : Owned heap (all.flatMap MetadataPtrs.strings ++ others)) :
    Owned (all.foldl (fun heap data => (mediaMetadataDeinitPtrs heap data).1) heap)
      (all.flatMap (fun data => data.album.toList) ++ others) := by
  induction all generalizing heap others with
  | nil => exact h
  | cons data all ih =>
    have hfirst := (h.of_count (data.strings ++ (all.flatMap MetadataPtrs.strings ++ others)) (by
      intro addr
      simp only [List.flatMap_cons, List.count_append]
      omega)).deinit
    have hrest := ih (hfirst.of_count (all.flatMap MetadataPtrs.strings ++ (data.album.toList ++ others)) (by
      intro addr
      simp only [List.count_append]
      omega))
    apply hrest.of_count
    intro addr
    simp only [List.flatMap_cons, List.count_append]
    omega

end Owned

/-! ### Merging a list of diffs -/

/-- The heap, the metadata into which the diffs are merged, and the diffs as they are afterwards. -/
structure Merging where
  heap : Ledger Nat
  data : MetadataPtrs := mediaMetadataInitPtrs
  merged : List MetadataPtrs := []

namespace Merging

def all (s : Merging) : List MetadataPtrs := s.data :: s.merged

def update (s : Merging) (diff : MetadataPtrs) : Merging :=
  let r := mediaMetadataUpdatePtrs s.heap s.data diff
  { heap := r.1, data := r.2.1, merged := s.merged ++ [r.2.2] }

/-- The second diff is merged into the first one, and the result into the metadata. -/
def updatePair (s : Merging) (d₁ d₂ : MetadataPtrs) : Merging :=
  let r := mediaMetadataUpdatePtrs s.heap d₁ d₂
  let r' := mediaMetadataUpdatePtrs r.1 s.data r.2.1
  { heap := r'.1, data := r'.2.1, merged := s.merged ++ [r'.2.2, r.2.2] }

/-- The heap when all the structures have been deinitialised. -/
def deinitAll (s : Merging) : Ledger Nat := s.all.foldl (fun heap data => (mediaMetadataDeinitPtrs heap data).1) s.heap

/-- Each string that is allocated has one owner, and it has been freed once in the end. -/
structure FreesOnce (s : Merging) : Prop where
  owned : Owned s.heap (s.all.flatMap MetadataPtrs.strings)
  freed : s.deinitAll = {}

end Merging

/-- Diffs that have just been built: no two strings of them are the same one. -/
structure FreshDiffs where
  diffs : List MetadataPtrs
  fresh : (diffs.flatMap MetadataPtrs.strings).Nodup

namespace FreshDiffs

/-- The strings of the diffs are allocated, and the metadata are initialised. -/
def start (d : FreshDiffs) : Merging where
  heap := { live := d.diffs.flatMap MetadataPtrs.strings }

def mergeAll (d : FreshDiffs) : Merging := d.diffs.foldl Merging.update d.start

/-- One after the other, but for two of them. -/
def mergeGrouped (d : FreshDiffs) (pre : List MetadataPtrs) (d₁ d₂ : MetadataPtrs) (post : List MetadataPtrs) :
    Merging :=
  post.foldl Merging.update ((pre.foldl Merging.update d.start).updatePair d₁ d₂)

end FreshDiffs

/-- The last value of each flag is what is merged, in whatever order, and every string is freed once. -/
structure LastWriterWins (d : FreshDiffs) : Prop where
  last : ∀ text, Faithful (d.diffs.map (MetadataPtrs.load text)) (d.mergeAll.data.load text)
  frees : d.mergeAll.FreesOnce
  assoc : ∀ pre d₁ d₂ post, d.diffs = pre ++ d₁ :: d₂ :: post → ∀ text,
    (d.mergeGrouped pre d₁ d₂ post).data.load text = d.mergeAll.data.load text
  frees_grouped : ∀ pre d₁ d₂ post, d.diffs = pre ++ d₁ :: d₂ :: post → (d.mergeGrouped pre d₁ d₂ post).FreesOnce

/-- Some diffs have been merged and others not yet. -/
structure Merged (s : Merging) (done pending : List MetadataPtrs) : Prop where
  owned : Owned s.heap ((s.all ++ pending).flatMap MetadataPtrs.strings)
  albums : s.all.map MetadataPtrs.album = none :: done.map MetadataPtrs.album
  data : ∀ text, s.data.load text = merged (done.map (MetadataPtrs.load text))

namespace Merged

variable {s : Merging} {done pending : List MetadataPtrs} {d₁ d₂ diff : MetadataPtrs}

theorem update (h : Merged s done (diff :: pending)) : Merged (s.update diff) (done ++ [diff]) pending where
  owned := by
    have howned := (h.owned.of_count (s.data.strings ++ (diff.strings ++
      (s.merged.flatMap MetadataPtrs.strings ++ pending.flatMap MetadataPtrs.strings))) (by
        intro addr
        simp only [Merging.all, List.cons_append, List.flatMap_cons, List.flatMap_append, List.count_append]
        omega)).update
    apply howned.of_count
    intro addr
    simp only [Merging.all, Merging.update, List.cons_append, List.flatMap_cons, List.flatMap_append,
      List.flatMap_nil, List.count_append, List.count_nil]
    omega
  albums := by
    have halbums : s.data.album :: s.merged.map MetadataPtrs.album = none :: done.map MetadataPtrs.album := h.albums
    simp only [Merging.all, Merging.update, List.map_cons, List.map_append, List.map_nil, ← List.cons_append,
      ← halbums]
    rfl
  data text := by
    rw [List.map_append, List.map_singleton, merged_append, ← h.data text]
    exact update_load text s.heap s.data diff

theorem updatePair (h : Merged s done (d₁ :: d₂ :: pending)) :
    Merged (s.updatePair d₁ d₂) (done ++ [d₁, d₂]) pending where
  owned := by
    have hpair := (h.owned.of_count (d₁.strings ++ (d₂.strings ++ (s.data.strings ++
      (s.merged.flatMap MetadataPtrs.strings ++ pending.flatMap MetadataPtrs.strings)))) (by
        intro addr
        simp only [Merging.all, List.cons_append, List.flatMap_cons, List.flatMap_append, List.count_append]
        omega)).update
    simp only [Merging.all, Merging.updatePair]
    generalize mediaMetadataUpdatePtrs s.heap d₁ d₂ = r at hpair ⊢
    have howned := (hpair.of_count (s.data.strings ++ (r.2.1.strings ++ (r.2.2.strings ++
      (s.merged.flatMap MetadataPtrs.strings ++ pending.flatMap MetadataPtrs.strings)))) (by
        intro addr
        simp only [List.count_append]
        omega)).update
    apply howned.of_count
    intro addr
    simp only [List.cons_append, List.flatMap_cons, List.flatMap_append, List.flatMap_nil, List.count_append,
      List.count_nil]
    omega
  albums := by
    have halbums : s.data.album :: s.merged.map MetadataPtrs.album = none :: done.map MetadataPtrs.album := h.albums
    simp only [Merging.all, Merging.updatePair, List.map_cons, List.map_append, List.map_nil, ← List.cons_append,
      ← halbums]
    rfl
  data text := by
    rw [List.map_append, List.map_cons, List.map_singleton, List.append_cons, merged_append, merged_append,
      ← h.data text, ← mediaMetadataUpdate_assoc, ← update_load text s.heap d₁ d₂]
    exact update_load text _ s.data _

theorem foldl {pre : List MetadataPtrs} (h : Merged s done (pre ++ pending)) :
    Merged (pre.foldl Merging.update s) (done ++ pre) pending := by
  induction pre generalizing s done with
  | nil =>
    rw [List.append_nil]
    exact h
  | cons diff pre ih =>
    rw [List.append_cons]
    exact ih h.update

theorem start (d : FreshDiffs) : Merged d.start [] d.diffs where
  owned := ⟨d.fresh, .refl _, rfl⟩
  albums := rfl
  data _ := rfl

theorem mergeAll (d : FreshDiffs) : Merged d.mergeAll d.diffs [] := by
  have hstart := start d
  rw [← List.append_nil d.diffs] at hstart
  exact hstart.foldl

theorem mergeGrouped (d : FreshDiffs) {pre post : List MetadataPtrs} (h : d.diffs = pre ++ d₁ :: d₂ :: post) :
    Merged (d.mergeGrouped pre d₁ d₂ post) d.diffs [] := by
  have hstart := start d
  rw [h] at hstart
  have hpair := hstart.foldl.updatePair
  have hall := @foldl _ _ [] post (by rwa [List.append_nil])
  rw [List.nil_append, List.append_assoc, List.cons_append, List.singleton_append, ← h] at hall
  exact hall

/-- What the merging leaves is what the albums have taken. -/
theorem freesOnce_iff (h : Merged s done []) : s.FreesOnce ↔ ∀ diff ∈ done, diff.album = none := by
  have howned := h.owned
  rw [List.append_nil] at howned
  have hfinal := @Owned.deinitAll s.heap [] s.all (by rwa [List.append_nil])
  have halbums : s.all.flatMap (fun data => data.album.toList) = done.flatMap (fun diff => diff.album.toList) := by
    rw [← List.flatMap_map, h.albums, List.flatMap_cons, List.flatMap_map]
    rfl
  rw [List.append_nil, halbums] at hfinal
  have hnil : done.flatMap (fun diff => diff.album.toList) = [] ↔ ∀ diff ∈ done, diff.album = none := by
    simp
  constructor
  · intro hfrees
    apply hnil.1
    have hlive := hfinal.live
    change s.deinitAll.live.Perm _ at hlive
    rw [hfrees.freed] at hlive
    exact hlive.nil_eq.symm
  · intro hnone
    rw [hnil.2 hnone] at hfinal
    refine ⟨howned, ?_⟩
    have hlive : s.deinitAll.live = [] := hfinal.live.eq_nil
    have hstray : s.deinitAll.stray = [] := hfinal.stray
    exact congrArg₂ Ledger.mk hlive hstray

end Merged

/-! ### What is merged -/

theorem merged_album (sent : List MediaMetadata) : (merged sent).album = none := by
  induction sent using List.reverseRecOn with
  | nil => rfl
  | append_singleton sent m ih =>
    rw [merged_append]
    exact ih

/-- The values that have been merged are the last ones, and there is no album. -/
theorem faithful_merged {sent : List MediaMetadata} (h : ∀ m ∈ sent, m.album = none) : Faithful sent (merged sent) := by
  have hlast : ∀ {β : Type} {flag : BitVec 32} (field : MediaMetadata → β), (∀ data diff,
      field (mediaMetadataUpdate data diff) = if diff.has flag then field diff else field data) →
      ∀ m ∈ lastWith flag sent, field (merged sent) = field m := by
    intro β flag field hupdate m hm
    rw [merged_field field hupdate, hm]
    rfl
  refine ⟨merged_flags sent, ?_, ?_, ?_, ?_, ?_, ?_, ?_⟩
  · exact hlast MediaMetadata.state fun _ _ => rfl
  · exact hlast MediaMetadata.volume fun _ _ => rfl
  · exact hlast MediaMetadata.position fun _ _ => rfl
  · exact hlast MediaMetadata.duration fun _ _ => rfl
  · exact hlast MediaMetadata.title fun _ _ => rfl
  · exact hlast MediaMetadata.artist fun _ _ => rfl
  · intro m hm
    have hmem : m ∈ sent := by simpa using List.mem_of_find?_eq_some hm
    rw [merged_album, h m hmem]

/-- The last writer of each flag wins, in whatever order the diffs are merged, and every string is freed once, exactly
if no diff has an album. -/
theorem mediaMetadataUpdate_lastWriter (d : FreshDiffs) : LastWriterWins d ↔ ∀ diff ∈ d.diffs, diff.album = none := by
  constructor
  · intro h
    exact (Merged.mergeAll d).freesOnce_iff.1 h.frees
  · intro h
    refine ⟨fun text => ?_, (Merged.mergeAll d).freesOnce_iff.2 h, fun pre d₁ d₂ post heq text => ?_,
      fun pre d₁ d₂ post heq => (Merged.mergeGrouped d heq).freesOnce_iff.2 h⟩
    · rw [(Merged.mergeAll d).data text]
      apply faithful_merged
      intro m hm
      obtain ⟨diff, hdiff, rfl⟩ := List.mem_map.1 hm
      show diff.album.map text = none
      rw [h diff hdiff]
      rfl
    · rw [(Merged.mergeAll d).data text, (Merged.mergeGrouped d heq).data text]

/-- A diff with an album, which is neither merged nor freed. -/
def albumDiff : FreshDiffs where
  diffs := [{ flags := MEDIA_METAFLAG_ALBUM, album := some 1 }]
  fresh := by decide

theorem mediaMetadataUpdate_lastWriter_not : ¬ ∀ d, LastWriterWins d := by
  intro h
  have hlost := (Merged.mergeAll albumDiff).freesOnce_iff.1 (h albumDiff).frees
  exact absurd (hlost _ (List.mem_singleton_self _)) (by decide)

end MediaFramework
