import MediaFramework.Session.MetadataWire
import MediaFramework.Session.SessionRuns

/-!
# The trip of metadata

From the client of a controllee to the server, where they are merged with what was there, and from the server to the
client of a controller.  Numbers always arrive.  A title and an artist only arrive if they are words; and the album
is not sent.
-/

namespace MediaFramework

open Scanf

/-! ### What should arrive -/

/-- The last metadata with the flag. -/
def lastWith (flag : BitVec 32) (sent : List MediaMetadata) : Option MediaMetadata :=
  sent.reverse.find? fun m => m.has flag

/-- A controller has got what was sent: all the flags, and for each of them the last value. -/
structure Faithful (sent : List MediaMetadata) (data : MediaMetadata) : Prop where
  flags : data.flags = sent.foldl (fun flags m => flags ||| m.flags) 0
  state : ∀ m ∈ lastWith MEDIA_METAFLAG_STATE sent, data.state = m.state
  volume : ∀ m ∈ lastWith MEDIA_METAFLAG_VOLUME sent, data.volume = m.volume
  position : ∀ m ∈ lastWith MEDIA_METAFLAG_POSITION sent, data.position = m.position
  duration : ∀ m ∈ lastWith MEDIA_METAFLAG_DURATION sent, data.duration = m.duration
  title : ∀ m ∈ lastWith MEDIA_METAFLAG_TITLE sent, data.title = m.title
  artist : ∀ m ∈ lastWith MEDIA_METAFLAG_ARTIST sent, data.artist = m.artist
  album : ∀ m ∈ lastWith MEDIA_METAFLAG_ALBUM sent, data.album = m.album

/-- The metadata of all the updates together. -/
def merged (sent : List MediaMetadata) : MediaMetadata := sent.foldl mediaMetadataUpdate mediaMetadataInit

/-- The metadata that the text format can carry.  The words that are printed for the title and the artist are short,
the title that counts is a word, the artist that counts is the second word, as far as there is room for it, and
there is no album. -/
structure Carried (sent : List MediaMetadata) : Prop where
  short : ∀ m ∈ sent, ShortWords m.texts
  title : ∀ m ∈ lastWith MEDIA_METAFLAG_TITLE sent, ∃ text, m.title = some text ∧ IsWord text
  artist : ∀ m ∈ lastWith MEDIA_METAFLAG_ARTIST sent, ∃ text, m.artist = some text ∧ text ≠ [] ∧
    (secondWord m.texts).take (merged sent).room = text
  album : ∀ m ∈ lastWith MEDIA_METAFLAG_ALBUM sent, m.album = none

/-! ### The runs -/

/-- An update: what is on the stack of the server when it is read, and the metadata. -/
abbrev MetadataUpdate := MetadataStack × MediaMetadata

/-- A controllee gets the address `addr`, and the server handles its updates, in this order, and any calls of others.
There is no session any more when a word of an update did not fit into its array. -/
inductive UpdateRun (addr : Nat) : List MetadataUpdate → Option MediaSessionPriv → Prop
  | register {s : MediaSessionPriv} {call : SessionCall} {r : SessionResult} : SessionReachable s → call.Proper s →
      call.cmd = .register → call.alloc = some addr → mediaSessionHandler s call = some r →
      UpdateRun addr [] (some r.session)
  | other {updates : List MetadataUpdate} {s : MediaSessionPriv} {call : SessionCall} {r : SessionResult} :
      UpdateRun addr updates (some s) → call.Proper s →
      (call.data = some addr → call.cmd ≠ .update ∧ call.cmd ≠ .unregister) → mediaSessionHandler s call = some r →
      UpdateRun addr updates (some r.session)
  | update {updates : List MetadataUpdate} {s : MediaSessionPriv} {call : SessionCall} {m : MediaMetadata} :
      UpdateRun addr updates (some s) → call.Proper s → call.cmd = .update → call.data = some addr →
      call.arg = some (mediaSessionUpdateArg m) →
      UpdateRun addr (updates ++ [(call.stack, m)]) ((mediaSessionHandler s call).map SessionResult.session)
  | gone {updates : List MetadataUpdate} (u : MetadataUpdate) :
      UpdateRun addr updates none → UpdateRun addr (updates ++ [u]) none

/-- The server handles the updates in every run, and if the controllee is the most active one then, a controller that
queries the server gets what was sent. -/
def Arrives (sent : List MediaMetadata) : Prop :=
  ∀ addr updates result, updates.map Prod.snd = sent → UpdateRun addr updates result →
    ∃ s, result = some s ∧ (s.first = some addr → ∀ call : SessionCall, call.Proper s → call.cmd = .query →
      call.len = 256 → ∃ r, mediaSessionHandler s call = some r ∧
        ∀ (stack : MetadataStack) (client : SessionClient), client.needQuery = true →
          ∃ client', mediaSessionQuery stack client r.ret r.response = some (0, client') ∧ Faithful sent client'.data)

/-! ### What the server has -/

/-- The metadata that the server reads of an update. -/
def MetadataUpdate.diff (u : MetadataUpdate) : MediaMetadata := u.2.read u.2.texts u.1

/-- The metadata of the controllee on the server. -/
def serverData (updates : List MetadataUpdate) : MediaMetadata := merged (updates.map MetadataUpdate.diff)

def lastUpdate (flag : BitVec 32) (updates : List MetadataUpdate) : Option MetadataUpdate :=
  updates.reverse.find? fun u => u.2.has flag

variable {updates : List MetadataUpdate} {sent : List MediaMetadata} {m data diff : MediaMetadata} {flag : BitVec 32}
  {s s' : MediaSessionPriv} {call : SessionCall} {addr : Nat} {result : Option MediaSessionPriv}

theorem lastWith_snd (flag : BitVec 32) (updates : List MetadataUpdate) :
    lastWith flag (updates.map Prod.snd) = (lastUpdate flag updates).map Prod.snd := by
  rw [lastWith, ← List.map_reverse, List.find?_map]
  rfl

theorem lastWith_diff (flag : BitVec 32) (updates : List MetadataUpdate) :
    lastWith flag (updates.map MetadataUpdate.diff) = (lastUpdate flag updates).map MetadataUpdate.diff := by
  rw [lastWith, ← List.map_reverse, List.find?_map]
  rfl

theorem merged_append (sent : List MediaMetadata) (m : MediaMetadata) :
    merged (sent ++ [m]) = mediaMetadataUpdate (merged sent) m := by
  simp [merged]

theorem lastWith_append (flag : BitVec 32) (sent : List MediaMetadata) (m : MediaMetadata) :
    lastWith flag (sent ++ [m]) = if m.has flag then some m else lastWith flag sent := by
  rw [lastWith, List.reverse_append, List.reverse_singleton, List.singleton_append, List.find?_cons]
  by_cases hm : m.has flag = true <;> simp [hm, lastWith]

theorem merged_flags (sent : List MediaMetadata) :
    (merged sent).flags = sent.foldl (fun flags m => flags ||| m.flags) 0 := by
  induction sent using List.reverseRecOn with
  | nil => rfl
  | append_singleton sent m ih =>
    rw [merged_append, List.foldl_append, ← ih]
    rfl

/-- A field that is merged by its flag has the value of the last metadata with the flag. -/
theorem merged_field {β : Type} (field : MediaMetadata → β) (hupdate : ∀ data diff,
      field (mediaMetadataUpdate data diff) = if diff.has flag then field diff else field data)
    (sent : List MediaMetadata) :
    field (merged sent) = ((lastWith flag sent).map field).getD (field mediaMetadataInit) := by
  induction sent using List.reverseRecOn with
  | nil => rfl
  | append_singleton sent m ih =>
    rw [merged_append, hupdate, lastWith_append]
    by_cases hm : m.has flag = true
    · simp [hm]
    · simp [hm, ih]

theorem merged_has (flag : BitVec 32) (sent : List MediaMetadata) :
    (merged sent).has flag = (lastWith flag sent).isSome := by
  induction sent using List.reverseRecOn with
  | nil => simp [merged, MediaMetadata.has, mediaMetadataInit, lastWith]
  | append_singleton sent m ih =>
    rw [merged_append, lastWith_append, mediaMetadataUpdate_has, ih]
    by_cases hm : m.has flag = true <;> simp [hm]

/-- The server has the right flags and numbers. -/
theorem serverData_eq (updates : List MetadataUpdate) : ∃ title artist,
    serverData updates = { merged (updates.map Prod.snd) with title, artist } := by
  induction updates using List.reverseRecOn with
  | nil => exact ⟨none, none, rfl⟩
  | append_singleton updates u ih =>
    obtain ⟨title, artist, ih⟩ := ih
    unfold serverData at ih ⊢
    rw [List.map_append, List.map_append, List.map_singleton, List.map_singleton, merged_append, merged_append, ih]
    exact ⟨_, _, rfl⟩

theorem serverData_title (updates : List MetadataUpdate) :
    (serverData updates).title = (lastUpdate MEDIA_METAFLAG_TITLE updates).bind fun u => u.diff.title := by
  rw [serverData, merged_field MediaMetadata.title (fun _ _ => rfl), lastWith_diff]
  cases lastUpdate MEDIA_METAFLAG_TITLE updates <;> rfl

theorem serverData_artist (updates : List MetadataUpdate) :
    (serverData updates).artist = (lastUpdate MEDIA_METAFLAG_ARTIST updates).bind fun u => u.diff.artist := by
  rw [serverData, merged_field MediaMetadata.artist (fun _ _ => rfl), lastWith_diff]
  cases lastUpdate MEDIA_METAFLAG_ARTIST updates <;> rfl

theorem serverData_has (flag : BitVec 32) (updates : List MetadataUpdate) :
    (serverData updates).has flag = (lastUpdate flag updates).isSome := by
  rw [serverData, merged_has, lastWith_diff, Option.isSome_map]

theorem lastUpdate_mem {u : MetadataUpdate} (h : lastUpdate flag updates = some u) :
    u ∈ updates ∧ u.2.has flag = true := by
  unfold lastUpdate at h
  exact ⟨by simpa using List.mem_of_find?_eq_some h, by simpa using List.find?_some h⟩

/-- What a controller reads when the server has `data`. -/
def queried (data : MediaMetadata) : MediaMetadata :=
  { data with
    title := if data.has MEDIA_METAFLAG_TITLE then some (printText data.title) else none
    artist := if data.has MEDIA_METAFLAG_ARTIST then some ((printText data.artist).take data.room) else none
    album := none }

/-- A controller has got what was sent if the last title and artist and no album are what it has read. -/
theorem faithful_queried (updates : List MetadataUpdate) :
    Faithful (updates.map Prod.snd) (queried (serverData updates)) ↔
      (∀ u ∈ lastUpdate MEDIA_METAFLAG_TITLE updates, u.2.title = some (printText (serverData updates).title)) ∧
        (∀ u ∈ lastUpdate MEDIA_METAFLAG_ARTIST updates,
          u.2.artist = some ((printText (serverData updates).artist).take (serverData updates).room)) ∧
        ∀ u ∈ lastUpdate MEDIA_METAFLAG_ALBUM updates, u.2.album = none := by
  have hhas : ∀ {flag : BitVec 32} {u : MetadataUpdate}, u ∈ lastUpdate flag updates →
      (serverData updates).has flag = true := by
    intro flag u hu
    rw [serverData_has, hu, Option.isSome_some]
  have hlast : ∀ {flag : BitVec 32} {P : MediaMetadata → Prop},
      (∀ m ∈ lastWith flag (updates.map Prod.snd), P m) ↔ ∀ u ∈ lastUpdate flag updates, P u.2 := by
    intro flag P
    rw [lastWith_snd]
    cases lastUpdate flag updates <;> simp
  obtain ⟨title, artist, heq⟩ := serverData_eq updates
  have hfield : ∀ {β : Type} {flag : BitVec 32} (field : MediaMetadata → β), (∀ data diff,
      field (mediaMetadataUpdate data diff) = if diff.has flag then field diff else field data) →
      field (merged (updates.map Prod.snd)) = field (queried (serverData updates)) →
      ∀ m ∈ lastWith flag (updates.map Prod.snd), field (queried (serverData updates)) = field m := by
    intro β flag field hupdate hsame m hm
    rw [← hsame, merged_field _ hupdate, hm]
    rfl
  constructor
  · intro h
    refine ⟨fun u hu => ?_, fun u hu => ?_, fun u hu => ?_⟩
    · have htitle := (hlast (P := fun m => _ = m.title)).1 h.title u hu
      rw [← htitle, queried, if_pos (hhas hu)]
    · have hartist := (hlast (P := fun m => _ = m.artist)).1 h.artist u hu
      rw [← hartist, queried, if_pos (hhas hu)]
    · exact ((hlast (P := fun m => _ = m.album)).1 h.album u hu).symm
  · intro ⟨htitle, hartist, halbum⟩
    have hnums : ∀ {β : Type} (field : MediaMetadata → β), (∀ data title artist album,
        field { data with title, artist, album } = field data) →
        field (merged (updates.map Prod.snd)) = field (queried (serverData updates)) := by
      intro β field hfield
      have hserver : field (serverData updates) = field (merged (updates.map Prod.snd)) := by
        rw [heq]
        exact hfield (merged (updates.map Prod.snd)) title artist _
      exact (hserver.symm).trans (hfield (serverData updates) _ _ _).symm
    refine ⟨?_, ?_, ?_, ?_, ?_, ?_, ?_, ?_⟩
    · rw [← merged_flags, hnums MediaMetadata.flags fun _ _ _ _ => rfl]
    · exact hfield MediaMetadata.state (fun _ _ => rfl) (hnums _ fun _ _ _ _ => rfl)
    · exact hfield MediaMetadata.volume (fun _ _ => rfl) (hnums _ fun _ _ _ _ => rfl)
    · exact hfield MediaMetadata.position (fun _ _ => rfl) (hnums _ fun _ _ _ _ => rfl)
    · exact hfield MediaMetadata.duration (fun _ _ => rfl) (hnums _ fun _ _ _ _ => rfl)
    · refine (hlast (P := fun m => _ = m.title)).2 fun u hu => ?_
      rw [htitle u hu, queried, if_pos (hhas hu)]
    · refine (hlast (P := fun m => _ = m.artist)).2 fun u hu => ?_
      rw [hartist u hu, queried, if_pos (hhas hu)]
    · exact (hlast (P := fun m => _ = m.album)).2 fun u hu => (halbum u hu).symm

/-! ### The runs keep the metadata of the updates -/

/-- The controllee at the address has the metadata of the updates. -/
structure Tracks (addr : Nat) (updates : List MetadataUpdate) (s : MediaSessionPriv) : Prop where
  reachable : SessionReachable s
  data : ∃ c ∈ s.controllees, c.addr = addr ∧ c.data = serverData updates

theorem updateArg_eq (hfits : m.print.length ≤ 255) : mediaSessionUpdateArg m = m.numbers ++ m.texts := by
  rw [← m.print_eq]
  exact List.take_of_length_le hfits

/-- The handler merges an update into the metadata, unless a word is too long. -/
theorem update_handler (hnodup : s.addrs.Nodup) {c : MediaControlleePriv} (hc : c ∈ s.controllees)
    (hcmd : call.cmd = .update) (hdata : call.data = some c.addr) (harg : call.arg = some (mediaSessionUpdateArg m))
    (hfits : m.print.length ≤ 255) :
    (mediaSessionHandler s call).map SessionResult.session =
      if ShortWords m.texts then some (mediaSessionControlleeUpdate s c (m.read m.texts call.stack)).1 else none := by
  unfold mediaSessionHandler
  simp only [hcmd, hdata, MediaSessionPriv.controllee_of_mem hnodup hc, Option.bind_some]
  rw [harg, updateArg_eq hfits]
  split
  · obtain ⟨ret, -, hread⟩ := unserialize_numbers m call.stack ‹ShortWords m.texts›
    rw [hread]
    rfl
  · rw [unserialize_overflow m call.stack ‹¬ ShortWords m.texts›]
    rfl

theorem UpdateRun.tracks (h : UpdateRun addr updates result) (hfits : ∀ u ∈ updates, u.2.print.length ≤ 255)
    (hshort : ∀ u ∈ updates, ShortWords u.2.texts) : ∃ s, result = some s ∧ Tracks addr updates s := by
  induction h with
  | register hs hproper hcmd halloc hr =>
    rename_i s call r
    refine ⟨_, rfl, hs.next hproper hr, ?_⟩
    have hregister : r.session = (mediaSessionControlleeRegister s call.cookie addr).1 := by
      unfold mediaSessionHandler at hr
      simp only [hcmd, halloc] at hr
      cases hr
      rfl
    rw [hregister]
    exact ⟨_, List.mem_append_right _ (List.mem_singleton_self _), rfl, rfl⟩
  | other _ hproper hother hr ih =>
    obtain ⟨s, hs, htracks⟩ := ih hfits hshort
    cases hs
    obtain ⟨c, hc, rfl, hdata⟩ := htracks.data
    refine ⟨_, rfl, htracks.reachable.next hproper hr, c, ?_, rfl, hdata⟩
    exact (mediaSessionHandler_step htracks.reachable.nodup hproper hr).kept hc hother
  | update _ hproper hcmd haddr harg ih =>
    rename_i updates s call m _
    obtain ⟨t, ht, htracks⟩ := ih (fun u hu => hfits u (List.mem_append_left _ hu))
      (fun u hu => hshort u (List.mem_append_left _ hu))
    cases ht
    obtain ⟨c, hc, rfl, hdata⟩ := htracks.data
    have hlast : (call.stack, m) ∈ updates ++ [(call.stack, m)] := List.mem_append_right _ (List.mem_singleton_self _)
    have hhandler := update_handler htracks.reachable.nodup hc hcmd haddr harg (hfits _ hlast)
    rw [if_pos (hshort _ hlast)] at hhandler
    refine ⟨_, hhandler, .step htracks.reachable hproper hhandler, ?_⟩
    obtain ⟨hmem, -⟩ := MediaSessionPriv.mem_of_controllee (update_controllee hc (m.read m.texts call.stack))
    refine ⟨_, hmem, rfl, ?_⟩
    rw [hdata, serverData, serverData, List.map_append, List.map_singleton, merged_append]
    rfl
  | gone u _ ih =>
    obtain ⟨s, hs, -⟩ := ih (fun u hu => hfits u (List.mem_append_left _ hu))
      (fun u hu => hshort u (List.mem_append_left _ hu))
    cases hs

/-- A query of a controller when the first controllee has the metadata `data`, of which the texts are words. -/
theorem query_first {c : MediaControlleePriv} (hnodup : s.addrs.Nodup) (hc : c ∈ s.controllees)
    (hfirst : s.first = some c.addr) (hproper : call.Proper s) (hcmd : call.cmd = .query) (hlen : call.len = 256)
    (htitle : IsWord (printText c.data.title)) (hartist : IsWord (printText c.data.artist))
    (hshort : (printText c.data.title).length < 128) (hshort' : (printText c.data.artist).length < 128) :
    ∃ r, mediaSessionHandler s call = some r ∧ ∀ (stack : MetadataStack) (client : SessionClient),
      client.needQuery = true → ∃ client', mediaSessionQuery stack client r.ret r.response = some (0, client') ∧
        client'.data = queried c.data := by
  obtain ⟨controllees, hcontrollees⟩ : ∃ controllees, s.controllees = c :: controllees :=
    ⟨_, List.eq_cons_of_mem_head? (MediaSessionPriv.head_of_first hnodup hc hfirst)⟩
  have htransferred : call.cmd.isTransferred := by simp [hcmd, SessionCmd.isTransferred]
  refine ⟨_, transferred_handler hproper htransferred, fun stack client hneed => ?_⟩
  have hanswer : mediaSessionControllerTransfer s call.cmd call.arg call.len =
      ((c.data.print.length : Int), some (c.data.print.take 255), []) := by
    simp [mediaSessionControllerTransfer, hcontrollees, hcmd, mediaMetadataSerialize, hlen]
  obtain ⟨ret, hret, hread⟩ := unserialize_print c.data stack htitle hartist hshort hshort'
  simp only [hanswer]
  unfold mediaSessionQuery mediaSessionQueryReceive
  rw [if_pos hneed, if_neg (Int.not_lt.2 (Int.natCast_nonneg _))]
  simp only [List.take_take, Nat.min_self, mediaMetadataReinit, hread, Option.map_some, if_neg (Int.not_lt.2 hret)]
  exact ⟨_, rfl, mediaSessionQueryDone_data _⟩

/-! ### What can be carried arrives -/

theorem isWord_null : IsWord (printText none) ∧ (printText none).length < 128 := by decide

/-- The server has as much room for the artist as there would be with the right title. -/
theorem serverData_room
    (h : printText (serverData updates).title = printText (merged (updates.map Prod.snd)).title) :
    (serverData updates).room = (merged (updates.map Prod.snd)).room := by
  have hnumbers : (serverData updates).numbers = (merged (updates.map Prod.snd)).numbers := by
    obtain ⟨title, artist, heq⟩ := serverData_eq updates
    rw [heq]
    rfl
  rw [MediaMetadata.room, MediaMetadata.room, hnumbers, h]

theorem merged_title (updates : List MetadataUpdate) : (merged (updates.map Prod.snd)).title =
    (lastUpdate MEDIA_METAFLAG_TITLE updates).bind fun u => u.2.title := by
  rw [merged_field MediaMetadata.title (fun _ _ => rfl), lastWith_snd]
  cases lastUpdate MEDIA_METAFLAG_TITLE updates <;> rfl

namespace Carried

variable (h : Carried (updates.map Prod.snd))
include h

private theorem shortWords {u : MetadataUpdate} (hu : lastUpdate flag updates = some u) : ShortWords u.2.texts :=
  h.short _ (List.mem_map_of_mem (lastUpdate_mem hu).1)

/-- The server has got the title. -/
theorem server_title : (serverData updates).title = (merged (updates.map Prod.snd)).title ∧
    IsWord (printText (serverData updates).title) ∧ (printText (serverData updates).title).length < 128 := by
  rw [serverData_title, merged_title]
  cases hlast : lastUpdate MEDIA_METAFLAG_TITLE updates with
  | none => exact ⟨rfl, isWord_null⟩
  | some u =>
    obtain ⟨text, htext, hword⟩ := h.title u.2 (by rw [lastWith_snd, hlast]; rfl)
    have hfirst : firstWord u.2.texts = text := by
      rw [MediaMetadata.texts, htext]
      exact (firstWord_word hword (by simp; decide)).1
    have hread : u.diff.title = some text := by
      show readText (u.2.has MEDIA_METAFLAG_TITLE) (firstWord u.2.texts) u.1.title = some text
      rw [hfirst, (lastUpdate_mem hlast).2, readText, if_neg hword.1]
      simp [hword.1]
    have hshort := (h.shortWords hlast).1
    rw [hfirst] at hshort
    rw [Option.bind_some, Option.bind_some, hread, htext]
    exact ⟨rfl, hword, hshort⟩

/-- The server has read a word as the artist, and the artist is what there is room for. -/
theorem server_artist : IsWord (printText (serverData updates).artist) ∧
    (printText (serverData updates).artist).length < 128 ∧ ∀ u ∈ lastUpdate MEDIA_METAFLAG_ARTIST updates,
      u.2.artist = some ((printText (serverData updates).artist).take (serverData updates).room) := by
  rw [serverData_room (congrArg printText h.server_title.1), serverData_artist]
  cases hlast : lastUpdate MEDIA_METAFLAG_ARTIST updates with
  | none => exact ⟨isWord_null.1, isWord_null.2, by simp⟩
  | some u =>
    obtain ⟨text, htext, hne, hcut⟩ := h.artist u.2 (by rw [lastWith_snd, hlast]; rfl)
    have hword : secondWord u.2.texts ≠ [] := fun heq => hne (by rw [← hcut, heq, List.take_nil])
    have hread : u.diff.artist = some (secondWord u.2.texts) := by
      show readText (u.2.has MEDIA_METAFLAG_ARTIST) (secondWord u.2.texts) u.1.artist = some (secondWord u.2.texts)
      rw [(lastUpdate_mem hlast).2, readText, if_neg hword]
      simp [hword]
    rw [Option.bind_some, hread]
    refine ⟨.of_firstWord hword, (h.shortWords hlast).2, ?_⟩
    rintro u' ⟨⟩
    rw [htext, ← hcut]
    rfl

end Carried

/-- Everything that the format can carry arrives. -/
theorem arrives_of_carried (hfits : ∀ m ∈ sent, m.print.length ≤ 255) (h : Carried sent) : Arrives sent := by
  rintro addr updates result rfl hrun
  have hfits' : ∀ u ∈ updates, u.2.print.length ≤ 255 := fun u hu => hfits u.2 (List.mem_map_of_mem hu)
  have hshort : ∀ u ∈ updates, ShortWords u.2.texts := fun u hu => h.short u.2 (List.mem_map_of_mem hu)
  obtain ⟨s, rfl, htracks⟩ := hrun.tracks hfits' hshort
  refine ⟨s, rfl, fun hfirst call hproper hcmd hlen => ?_⟩
  obtain ⟨c, hc, rfl, hdata⟩ := htracks.data
  obtain ⟨hsame, htitle, htitleShort⟩ := h.server_title
  obtain ⟨hartist, hartistShort, hcut⟩ := h.server_artist
  obtain ⟨r, hr, hquery⟩ := query_first htracks.reachable.nodup hc hfirst hproper hcmd hlen (hdata ▸ htitle)
    (hdata ▸ hartist) (hdata ▸ htitleShort) (hdata ▸ hartistShort)
  refine ⟨r, hr, fun stack client hneed => ?_⟩
  obtain ⟨client', hclient, hqueried⟩ := hquery stack client hneed
  refine ⟨client', hclient, ?_⟩
  rw [hqueried, hdata]
  refine (faithful_queried updates).2 ⟨fun u hu => ?_, hcut, fun u hu => ?_⟩
  · obtain ⟨text, htext, -⟩ := h.title u.2 (by rw [lastWith_snd, hu]; rfl)
    rw [hsame, merged_title, hu, Option.bind_some, htext]
    rfl
  · exact h.album u.2 (by rw [lastWith_snd, hu]; rfl)

/-! ### What arrives in every run can be carried -/

/-- A stack on which there is no title, and a word that is not the artist. -/
def hostileStack (m : MediaMetadata) : MetadataStack where
  artist := if m.artist = some ['x'] then ['y'] else ['x']

def hostile (sent : List MediaMetadata) : List MetadataUpdate := sent.map fun m => (hostileStack m, m)

/-- One controller, and one controllee. -/
def tripSession (data : MediaMetadata) : MediaSessionPriv where
  controllers := [{ addr := 1, cookie := some 1 }]
  controllees := [{ addr := 2, cookie := some 2, data }]

def tripUpdate (m : MediaMetadata) : SessionCall where
  cookie := 2
  data := some 2
  stack := hostileStack m
  cmd := .update
  arg := some (mediaSessionUpdateArg m)

def tripQuery : SessionCall := { cookie := 1, data := some 1, cmd := .query, len := 256 }

theorem hostile_snd (sent : List MediaMetadata) : (hostile sent).map Prod.snd = sent := by
  simp [hostile, Function.comp_def]

theorem tripUpdate_session (hfits : m.print.length ≤ 255) :
    (mediaSessionHandler (tripSession data) (tripUpdate m)).map SessionResult.session =
      if ShortWords m.texts then some (tripSession (mediaMetadataUpdate data (m.read m.texts (hostileStack m))))
      else none := by
  have hnodup : (tripSession data).addrs.Nodup := by
    simp [tripSession, MediaSessionPriv.addrs, MediaSessionPriv.controlleeAddrs]
  have hcmd : (tripUpdate m).cmd = .update := rfl
  rw [update_handler (c := { addr := 2, cookie := some 2, data }) hnodup (by simp [tripSession]) hcmd rfl rfl hfits]
  rfl

/-- The controllee sends its updates; it is the only one. -/
theorem hostile_run (hfits : ∀ m ∈ sent, m.print.length ≤ 255) :
    UpdateRun 2 (hostile sent)
      (if ∀ m ∈ sent, ShortWords m.texts then some (tripSession (serverData (hostile sent))) else none) := by
  induction sent using List.reverseRecOn with
  | nil =>
    have hopen : SessionReachable { controllers := [{ addr := 1, cookie := some 1 }] } :=
      .step (i := { cookie := 1, data := none, alloc := some 1, cmd := .open }) .start (by decide) rfl
    have hproper : SessionCall.Proper { controllers := [{ addr := 1, cookie := some 1 }] }
        { cookie := 2, data := none, alloc := some 2, cmd := .register } := by
      decide
    exact .register hopen hproper rfl rfl rfl
  | append_singleton sent m ih =>
    have ih := ih fun m' hm' => hfits m' (List.mem_append_left _ hm')
    have hfits : m.print.length ≤ 255 := hfits m (by simp)
    have hhostile : hostile (sent ++ [m]) = hostile sent ++ [((tripUpdate m).stack, m)] := by
      simp [hostile, tripUpdate]
    rw [hhostile]
    by_cases hall : ∀ m ∈ sent, ShortWords m.texts
    · rw [if_pos hall] at ih
      have hproper : (tripUpdate m).Proper (tripSession (serverData (hostile sent))) :=
        ⟨_, List.mem_singleton_self _, rfl, rfl⟩
      have hstep := UpdateRun.update ih hproper rfl rfl rfl
      rw [tripUpdate_session hfits] at hstep
      by_cases hm : ShortWords m.texts
      · have hall' : ∀ m' ∈ sent ++ [m], ShortWords m'.texts := by
          simpa [or_imp, forall_and] using ⟨hall, hm⟩
        rw [if_pos hm] at hstep
        rw [if_pos hall', serverData, List.map_append, List.map_singleton, merged_append]
        exact hstep
      · rw [if_neg hm] at hstep
        rw [if_neg fun h => hm (h m (by simp))]
        exact hstep
    · rw [if_neg hall] at ih
      rw [if_neg fun h => hall fun m' hm' => h m' (List.mem_append_left _ hm')]
      exact .gone _ ih

theorem readText_hostile_title (flagged : Bool) {rest : CString} (hshort : (firstWord rest).length < 128) :
    IsWord (printText (readText flagged (firstWord rest) [])) ∧
      (printText (readText flagged (firstWord rest) [])).length < 128 := by
  by_cases hword : firstWord rest = []
  · simpa [readText, hword] using isWord_null
  · cases flagged
    · simpa [readText] using isWord_null
    · simpa [readText, hword, printText_some] using ⟨IsWord.of_firstWord hword, hshort⟩

theorem hostile_mem {u : MetadataUpdate} (hu : u ∈ hostile sent) : u.1 = hostileStack u.2 ∧ u.2 ∈ sent := by
  obtain ⟨m, hm, rfl⟩ := List.mem_map.1 hu
  exact ⟨rfl, hm⟩

theorem hostile_artist (m : MediaMetadata) : IsWord (hostileStack m).artist ∧ (hostileStack m).artist.length = 1 ∧
    m.artist ≠ some (hostileStack m).artist := by
  unfold hostileStack
  by_cases hx : m.artist = some ['x'] <;> simp [hx] <;> decide

/-- What the server reads of hostile updates are words. -/
theorem hostile_words (hshort : ∀ m ∈ sent, ShortWords m.texts) :
    (IsWord (printText (serverData (hostile sent)).title) ∧ (printText (serverData (hostile sent)).title).length < 128) ∧
      IsWord (printText (serverData (hostile sent)).artist) ∧
        (printText (serverData (hostile sent)).artist).length < 128 := by
  rw [serverData_title, serverData_artist]
  constructor
  · cases hlast : lastUpdate MEDIA_METAFLAG_TITLE (hostile sent) with
    | none => exact isWord_null
    | some u =>
      obtain ⟨hstack, hu⟩ := hostile_mem (lastUpdate_mem hlast).1
      have hread := readText_hostile_title (u.2.has MEDIA_METAFLAG_TITLE) (hshort u.2 hu).1
      rw [Option.bind_some, MetadataUpdate.diff, hstack]
      exact hread
  · cases hlast : lastUpdate MEDIA_METAFLAG_ARTIST (hostile sent) with
    | none => exact isWord_null
    | some u =>
      obtain ⟨hstack, hu⟩ := hostile_mem (lastUpdate_mem hlast).1
      obtain ⟨hword, hlength, -⟩ := hostile_artist u.2
      have hread : u.diff.artist = readText (u.2.has MEDIA_METAFLAG_ARTIST) (secondWord u.2.texts) u.1.artist := rfl
      rw [Option.bind_some, hread, (lastUpdate_mem hlast).2, hstack, readText]
      by_cases hsecond : secondWord u.2.texts = []
      · simpa [hsecond, hword.1, printText_some, hlength] using hword
      · simpa [hsecond, printText_some] using ⟨IsWord.of_firstWord hsecond, (hshort u.2 hu).2⟩

/-- What arrives whatever is on the stacks can be carried. -/
theorem carried_of_arrives (hfits : ∀ m ∈ sent, m.print.length ≤ 255) (h : Arrives sent) : Carried sent := by
  have hrun := hostile_run hfits
  have hshort : ∀ m ∈ sent, ShortWords m.texts := by
    by_contra hlong
    rw [if_neg hlong] at hrun
    obtain ⟨s, hs, -⟩ := h 2 _ _ (hostile_snd sent) hrun
    cases hs
  rw [if_pos hshort] at hrun
  obtain ⟨⟨htitle, htitleShort⟩, hartist, hartistShort⟩ := hostile_words hshort
  generalize hd : serverData (hostile sent) = d at hrun htitle htitleShort hartist hartistShort
  have hproper : tripQuery.Proper (tripSession d) := ⟨⟨_, List.mem_singleton_self _, rfl, rfl⟩, fun _ => rfl⟩
  obtain ⟨s, hs, harrived⟩ := h 2 _ _ (hostile_snd sent) hrun
  cases hs
  obtain ⟨r, hr, harrived⟩ := harrived rfl tripQuery hproper rfl rfl
  obtain ⟨client, hclient, hfaithful⟩ := harrived {} {} rfl
  have hqueried : client.data = queried d := by
    obtain ⟨r', hr', hquery⟩ := query_first (s := tripSession d) (c := { addr := 2, cookie := some 2, data := d })
      (by simp [tripSession, MediaSessionPriv.addrs, MediaSessionPriv.controlleeAddrs]) (List.mem_singleton_self _) rfl
      hproper rfl rfl htitle hartist htitleShort hartistShort
    obtain ⟨client', hclient', hdata⟩ := hquery {} {} rfl
    cases hr.symm.trans hr'
    cases hclient.symm.trans hclient'
    exact hdata
  have hfaithful : Faithful ((hostile sent).map Prod.snd) (queried (serverData (hostile sent))) := by
    rw [hostile_snd, hd, ← hqueried]
    exact hfaithful
  obtain ⟨hlastTitle, hlastArtist, hlastAlbum⟩ := (faithful_queried _).1 hfaithful
  have hlast : ∀ {flag : BitVec 32} {m : MediaMetadata}, m ∈ lastWith flag sent →
      ∃ u ∈ lastUpdate flag (hostile sent), u.2 = m := by
    intro flag m hm
    rw [← hostile_snd sent, lastWith_snd] at hm
    exact Option.map_eq_some_iff.1 hm
  have hroom : d.room = (merged sent).room := by
    have hsame : printText (serverData (hostile sent)).title = printText
      (merged ((hostile sent).map Prod.snd)).title := by
      rw [merged_title]
      cases hu : lastUpdate MEDIA_METAFLAG_TITLE (hostile sent) with
      | none => rw [serverData_title, hu]; rfl
      | some u =>
        rw [Option.bind_some, hlastTitle u hu]
        rfl
    rw [← hd, serverData_room hsame, hostile_snd]
  refine ⟨hshort, fun m hm => ?_, fun m hm => ?_, fun m hm => ?_⟩
  · obtain ⟨u, hu, rfl⟩ := hlast hm
    exact ⟨_, hlastTitle u hu, hd ▸ htitle⟩
  · obtain ⟨u, hu, rfl⟩ := hlast hm
    have hcut := hlastArtist u hu
    have hpos := d.room_pos htitleShort
    obtain ⟨hword, hlength, hne⟩ := hostile_artist u.2
    have hread : (serverData (hostile sent)).artist =
        some (if secondWord u.2.texts = [] then (hostileStack u.2).artist else secondWord u.2.texts) := by
      have hdiff : u.diff.artist = readText (u.2.has MEDIA_METAFLAG_ARTIST) (secondWord u.2.texts) u.1.artist := rfl
      rw [serverData_artist, hu, Option.bind_some, hdiff, (lastUpdate_mem hu).2, (hostile_mem (lastUpdate_mem hu).1).1,
        readText]
      by_cases hsecond : secondWord u.2.texts = [] <;> simp [hsecond, hword.1]
    rw [hd] at hcut hread
    by_cases hsecond : secondWord u.2.texts = []
    · -- the word on the stack has arrived, and is not the artist
      rw [hread, if_pos hsecond] at hcut
      refine absurd (hcut.trans ?_) hne
      rw [printText_some, List.take_of_length_le (by omega)]
    · rw [hread, if_neg hsecond, hroom] at hcut
      refine ⟨_, hcut, ?_, rfl⟩
      rw [hroom] at hpos
      exact List.take_eq_nil_iff.not.2 (not_or.2 ⟨hpos.ne', hsecond⟩)
  · obtain ⟨u, hu, rfl⟩ := hlast hm
    exact hlastAlbum u hu

/-- The metadata of updates that fit into their messages arrive if and only if the format can carry them. -/
theorem metadata_arrives (hfits : ∀ m ∈ sent, m.print.length ≤ 255) : Arrives sent ↔ Carried sent :=
  ⟨carried_of_arrives hfits, arrives_of_carried hfits⟩

/-! ### Samples -/

/-- A title, and then an artist and a position. -/
def sampleSent : List MediaMetadata := [
  { flags := MEDIA_METAFLAG_TITLE ||| MEDIA_METAFLAG_STATE, state := 1, title := some "Aria".toList },
  { flags := MEDIA_METAFLAG_ARTIST ||| MEDIA_METAFLAG_POSITION, position := 90, artist := some "Bach".toList }]

theorem metadata_arrives_sample : Arrives sampleSent := by
  refine (metadata_arrives (by decide)).2 ⟨by decide, ?_, ?_, ?_⟩
  · rintro m ⟨⟩
    exact ⟨"Aria".toList, rfl, by decide⟩
  · rintro m ⟨⟩
    exact ⟨"Bach".toList, rfl, by decide, by decide⟩
  · rintro m ⟨⟩

/-- A title of two words. -/
def sampleTwoWords : List MediaMetadata := [{ flags := MEDIA_METAFLAG_TITLE, title := some "Air on".toList }]

theorem metadata_not_arrives : ¬ ∀ sent : List MediaMetadata,
    (∀ m ∈ sent, m.print.length ≤ 255 ∧ m.flags.toNat < 0x80) → Arrives sent := by
  intro h
  have harrives : Arrives sampleTwoWords := h sampleTwoWords (by decide)
  have hcarried : Carried sampleTwoWords := carried_of_arrives (by decide) harrives
  obtain ⟨text, htext, hword⟩ := hcarried.title { flags := MEDIA_METAFLAG_TITLE, title := some "Air on".toList } rfl
  cases htext
  revert hword
  decide

end MediaFramework
