import Montage.Audio
import Montage.Data.Basic
import Montage.Report

/-!
# Anchor references of audio tracks

A track that is timed relative to anchors is resolved against a table of anchors. A reference is
usable when the table has the anchor and, for the end of a track, when the anchor has an end. With
one usable reference the track is placed (`Track.place`); with none it is left as it is, so that a
later pass with more anchors can resolve it. A strict pass fails on the first reference that is not
usable.
-/

namespace Montage

namespace Sync

variable (anchors : Table Anchor) (sync : Sync)

/-- The frame that the start reference stands for, when it is usable. -/
def startFrame? : Option Int := do
  let anchor ← Table.get? (← sync.startAnchor) anchors
  return anchor.start + sync.startOffset

/-- The frame that the end reference stands for, when it is usable. -/
def stopFrame? : Option Int := do
  let anchor ← Table.get? (← sync.endAnchor) anchors
  return (← anchor.stop) + sync.endOffset

/-- The references that are not usable, the start before the end. -/
def unusable : List String :=
  (sync.startAnchor.filter fun _ => (sync.startFrame? anchors).isNone).toList ++
    (sync.endAnchor.filter fun _ => (sync.stopFrame? anchors).isNone).toList

end Sync

namespace Track

variable (anchors : Table Anchor) (strict : Bool) (track : Track)

/-- The track from the frame of its start reference to that of its end reference. A reference that
is not usable keeps what is authored. -/
def place (sync : Sync) (start? stop? : Option Int) : Except Failure Track :=
  let start := start?.getD track.start
  if start < 0 then .error (.configuration (.negativeStart (.track track.label) start))
  else
    match stop? with
    | none => .ok { track with start := start, sync := none }
    | some stop =>
      if stop < start then .error (.configuration (.negativeSpan (.track track.label) start stop))
      else
        .ok { track with
          start := start
          duration := some (stop - start)
          loop := track.loop || sync.behavior = .loopToMatch
          sync := none }

/-! ## Notes -/

/-- A note that the end reference names an anchor without an end. -/
def openEndNotes (sync : Sync) : List Log.Entry :=
  match sync.endAnchor with
  | none => []
  | some name =>
    match Table.get? name anchors with
    | some ⟨_, none⟩ =>
      [⟨.warning, Log.sync, s!"Anchor '{name}' has no end frame; " ++
        s!"ignoring it as an end reference for track {track.label}"⟩]
    | _ => []

def unusableNotes (sync : Sync) : List Log.Entry :=
  let names := sync.unusable anchors
  let list := ", ".intercalate names
  if (sync.startFrame? anchors).isNone && (sync.stopFrame? anchors).isNone then
    [⟨.warning, Log.sync, s!"Sync anchors {list} not found for track {track.label}; " ++
      "keeping original timing"⟩]
  else if names.isEmpty then []
  else
    [⟨.warning, Log.sync, s!"Sync anchor(s) {list} not found for track {track.label}; " ++
      "resolving the remaining reference only"⟩]

def placedNotes (placed : Track) : List Log.Entry :=
  let duration := (Data.ofOption .int placed.duration).shown
  let loop := (Data.bool placed.loop).shown
  [⟨.debug, Log.sync, s!"Resolved sync for track {track.label}: start={placed.start} " ++
    s!"duration={duration} loop={loop}"⟩]

/-! ## Resolution -/

/-- The report of a track, with its references resolved as far as they are usable. -/
def reportSync : Report Track :=
  match track.sync with
  | none => return track
  | some sync =>
    if !sync.hasReference then return track
    else do
      Report.tell (openEndNotes anchors track sync)
      -- only a strict pass stops here; the others tell what they leave out
      match strict, sync.unusable anchors with
      | true, name :: _ => Report.ofResult (.error (.unresolved (.anchor name)))
      | _, _ => do
        Report.tell (unusableNotes anchors track sync)
        match sync.startFrame? anchors, sync.stopFrame? anchors with
        | none, none => return track
        | start?, stop? => do
          let placed ← track.place sync start? stop?
          Report.tell (track.placedNotes placed)
          return placed

/-- The report of tracks one after the other, up to the first that fails. -/
def reportAll (tracks : List Track) : Report (List Track) :=
  tracks.mapM (reportSync anchors strict)

/-- The track with its references resolved as far as they are usable. -/
def resolveSync : Except Failure Track :=
  (track.reportSync anchors strict).result

/-- The tracks with their references resolved, one after the other. -/
def resolveAll (tracks : List Track) : Except Failure (List Track) :=
  (reportAll anchors strict tracks).result

end Track

end Montage
