import Jukebox.Document.Form
import Jukebox.Track

/-!
The written forms of identifiers, playing times, tracks and entries.

An identifier is its number. The nanoseconds of a playing time may be a second or more when it is
read; they are carried into the seconds.
-/

namespace Jukebox

instance : Writable GuildId := ⟨fun g => .of g.val⟩
instance : Writable MemberId := ⟨fun m => .of m.val⟩
instance : Writable EntryId := ⟨fun e => .of e.val⟩
instance : Writable StreamHandle := ⟨fun h => .of h.val⟩

instance : Readable GuildId := ⟨fun d => (d.as? UInt64).map GuildId.mk⟩
instance : Readable MemberId := ⟨fun d => (d.as? UInt64).map MemberId.mk⟩
instance : Readable EntryId := ⟨fun d => (d.as? UInt64).map EntryId.mk⟩

def Playtime.fieldNames : List String := ["secs", "nanos"]

instance : Writable Playtime where
  write p := .record [("secs", .of p.secs), ("nanos", .of p.nanos)]

instance : Readable Playtime where
  read? d :=
    match d.isClosed Playtime.fieldNames, d.fields? Playtime.fieldNames with
    | true, some [secs, nanos] => do
      let s ← Document.required? UInt64 secs
      let n ← Document.required? UInt32 nanos
      Playtime.carry? s.toNat n.toNat
    | _, _ => none

instance : Writable TrackRef := ⟨fun t => .record [("url", .of t.url)]⟩

instance : Readable TrackRef where
  read? d :=
    match d.fields? ["url"] with
    | some [url] => (Document.required? String url).map TrackRef.mk
    | _ => none

def TrackMetadata.fieldNames : List String := ["title", "duration", "source_url", "thumbnail_url"]

instance : Writable TrackMetadata where
  write m :=
    .record
      [ ("title", .of m.title), ("duration", .of m.duration), ("source_url", .of m.sourceUrl),
        ("thumbnail_url", .of m.thumbnailUrl) ]

instance : Readable TrackMetadata where
  read? d :=
    match d.fields? TrackMetadata.fieldNames with
    | some [title, duration, source, thumbnail] => do
      return {
        title := ← Document.required? String title
        duration := ← Document.optional? Playtime duration
        sourceUrl := ← Document.required? String source
        thumbnailUrl := ← Document.optional? String thumbnail }
    | _ => none

def Entry.fieldNames : List String := ["id", "requester", "track", "metadata"]

instance : Writable Entry where
  write e :=
    .record
      [ ("id", .of e.id), ("requester", .of e.requester), ("track", .of e.track),
        ("metadata", .of e.metadata) ]

instance : Readable Entry where
  read? d :=
    match d.fields? Entry.fieldNames with
    | some [id, requester, track, metadata] => do
      return {
        id := ← Document.required? EntryId id
        requester := ← Document.required? MemberId requester
        track := ← Document.required? TrackRef track
        metadata := ← Document.required? TrackMetadata metadata }
    | _ => none

end Jukebox
