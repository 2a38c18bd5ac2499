import MediaFramework.Session.MediaSession

/-!
# The session client (`client/media_session.c`)

What a controllee sends as its metadata, and how a controller asks for the metadata of the most active controllee.  A
controller that gets events keeps the metadata, until an event says that they have changed.
-/

namespace MediaFramework

/-- A controller: whether it has an event callback, and what it knows. -/
structure SessionClient where
  event : Bool := false
  data : MediaMetadata := mediaMetadataInit
  needQuery : Bool := true
  deriving DecidableEq

/-- The text that `media_session_update` sends, printed into `char tmp[256]`. -/
def mediaSessionUpdateArg (data : MediaMetadata) : CString := (mediaMetadataSerialize data 256).2

/-- What `media_event_cb` does with an event before the callback of the user. -/
def mediaEventCb (client : SessionClient) (event : BitVec 32) : SessionClient :=
  if event = MEDIA_EVENT_CHANGED then { client with data := mediaMetadataReinit client.data, needQuery := true }
  else if event = MEDIA_EVENT_UPDATED then { client with needQuery := true }
  else client

/-- `media_session_query` with the answer of the server, up to the result of `media_metadata_unserialize`.  There is
no result when no text comes with the answer, or when a word does not fit into its array. -/
def mediaSessionQueryReceive (stack : MetadataStack) (client : SessionClient) (ret : Int) (response : Option CString) :
    Option (Int × SessionClient) :=
  if ret < 0 then some (ret, client)
  else
    match response with
    | none => none
    | some text =>
      let data := mediaMetadataReinit client.data
      (mediaMetadataUnserialize stack data (some (text.take 255))).map fun (r : Int × MediaMetadata) =>
        (r.1, { client with data := if r.1 < 0 then mediaMetadataDeinit r.2 else r.2 })

/-- The end of a query that has got its metadata. -/
def mediaSessionQueryDone (client : SessionClient) : SessionClient :=
  if client.event then { client with needQuery := false } else client

@[simp] theorem mediaSessionQueryDone_data (client : SessionClient) :
    (mediaSessionQueryDone client).data = client.data := by
  unfold mediaSessionQueryDone
  split <;> rfl

def mediaSessionQuery (stack : MetadataStack) (client : SessionClient) (ret : Int) (response : Option CString) :
    Option (Int × SessionClient) :=
  if client.needQuery then
    (mediaSessionQueryReceive stack client ret response).map fun r =>
      if r.1 < 0 then r else (0, mediaSessionQueryDone r.2)
  else some (0, client)

end MediaFramework
