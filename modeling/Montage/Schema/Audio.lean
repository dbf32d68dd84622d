import Montage.Audio
import Montage.Schema.Record

/-!
# Stored anchors and audio tracks
-/

namespace Montage

open Schema

namespace Anchor

def ofData : Data → Checked Anchor :=
  record "AnchorSpec" fun fields =>
    (Anchor.mk
      <$> field fields "start_frame" (integerFrom 0)
      <*> fieldOption fields "end_frame" integer).demand
        (fun anchor => anchor.stop.all (anchor.start ≤ ·)) (.broken .anchorOrder)

def toData (anchor : Anchor) : Data :=
  .object [("start_frame", .int anchor.start), ("end_frame", .ofOption .int anchor.stop)]

/-- Reads anchors by name, of which the first that is faulty is reported alone. -/
def entriesOfFields : Entries Data → Except Failure (Entries Anchor)
  | [] => .ok []
  | (name, value) :: rest =>
    match ofData value with
    | .ok anchor => (entriesOfFields rest).map ((name, anchor) :: ·)
    | .faulty faults => .error (.configuration (.invalidAnchors faults))

def tableOfFields (fields : Entries Data) : Except Failure (Table Anchor) :=
  (entriesOfFields fields).map Table.ofEntries

end Anchor

namespace SourceKind

def all : List SourceKind :=
  [asset, file, url]

def name : SourceKind → String
  | asset => "asset"
  | file => "file"
  | url => "url"

end SourceKind

namespace AudioSource

def ofData : Data → Checked AudioSource :=
  record "AudioSource" fun fields =>
    AudioSource.mk
      <$> fieldOr fields "type" .file (choice SourceKind.all SourceKind.name)
      <*> field fields "path" nonEmptyText

def toData (source : AudioSource) : Data :=
  .object [("type", .text source.kind.name), ("path", .text source.path)]

end AudioSource

namespace SyncBehavior

def all : List SyncBehavior :=
  [stopWhenEnds, loopToMatch]

def name : SyncBehavior → String
  | stopWhenEnds => "stop_when_ends"
  | loopToMatch => "loop_to_match"

end SyncBehavior

namespace Sync

def ofData : Data → Checked Sync :=
  record "AudioSyncSpec" fun fields =>
    Sync.mk
      <$> fieldOption fields "sync_start_anchor" text
      <*> fieldOption fields "sync_end_anchor" text
      <*> fieldOr fields "start_offset" 0 integer
      <*> fieldOr fields "end_offset" 0 integer
      <*> fieldOr fields "behavior" .stopWhenEnds (choice SyncBehavior.all SyncBehavior.name)

def toData (sync : Sync) : Data :=
  .object [
    ("sync_start_anchor", .ofOption .text sync.startAnchor),
    ("sync_end_anchor", .ofOption .text sync.endAnchor),
    ("start_offset", .int sync.startOffset),
    ("end_offset", .int sync.endOffset),
    ("behavior", .text sync.behavior.name)]

end Sync

namespace Track

def ofData : Data → Checked Track :=
  record "AudioTrackSpec" fun fields =>
    (Track.mk
      <$> fieldOption fields "id" text
      <*> field fields "source" AudioSource.ofData
      <*> fieldOr fields "start_frame" 0 (integerFrom 0)
      <*> fieldOption fields "duration_in_frames" (integerFrom 0)
      <*> fieldOr fields "trim_start_frame" 0 (integerFrom 0)
      <*> fieldOption fields "trim_end_frame" (integerFrom 0)
      <*> fieldOr fields "volume" 1.0 (numberWithin 0 1)
      <*> fieldOr fields "fade_in_frames" 0 (integerFrom 0)
      <*> fieldOr fields "fade_out_frames" 0 (integerFrom 0)
      <*> fieldOr fields "loop" false truth
      <*> fieldOption fields "sync" Sync.ofData).demand
        (fun track => track.trimEnd.all (track.trimStart < ·)) (.broken .trimOrder)

def toData (track : Track) : Data :=
  .object [
    ("id", .ofOption .text track.id),
    ("source", track.source.toData),
    ("start_frame", .int track.start),
    ("duration_in_frames", .ofOption .int track.duration),
    ("trim_start_frame", .int track.trimStart),
    ("trim_end_frame", .ofOption .int track.trimEnd),
    ("volume", .float track.volume),
    ("fade_in_frames", .int track.fadeIn),
    ("fade_out_frames", .int track.fadeOut),
    ("loop", .bool track.loop),
    ("sync", .ofOption Sync.toData track.sync)]

end Track

namespace Music

def ofData : Data → Checked Music :=
  record "BackgroundMusic" fun fields =>
    Music.mk
      <$> field fields "source" AudioSource.ofData
      <*> fieldOr fields "volume" 1.0 (numberWithin 0 1)
      <*> fieldOr fields "fade_in_frames" 30 (integerFrom 0)
      <*> fieldOr fields "fade_out_frames" 30 (integerFrom 0)
      <*> fieldOr fields "loop" true truth

def toData (music : Music) : Data :=
  .object [
    ("source", music.source.toData),
    ("volume", .float music.volume),
    ("fade_in_frames", .int music.fadeIn),
    ("fade_out_frames", .int music.fadeOut),
    ("loop", .bool music.loop)]

end Music

end Montage
