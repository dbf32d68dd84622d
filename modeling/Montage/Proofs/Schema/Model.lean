import Montage.Proofs.Schema.RoundTrip

/-!
# Stored models

`Model.all` lists the kinds of values that are stored, each with its reader and its writer.
`Model.read_write` is the round trip for all of them: what has been read is read again from what is
written for it with the null fields left out, whatever the audio bitrate in force is then.

The properties of `Montage.Proofs.Schema` that values have when they are read are complete: a value
that has them can be read from some data (`Composition.valid_iff`, `Timeline.sound_iff`).
-/

namespace Montage

open Schema Checked

/-- A kind of value that is stored, with its reader, which may depend on the audio bitrate that is
in force, and its writer. -/
structure Model where
  Value : Type
  read : String → Data → Checked Value
  write : Value → Data

namespace Model

/-- A kind of value that does not depend on the bitrate. -/
def fixed {Value : Type} (ofData : Data → Checked Value) (toData : Value → Data) : Model where
  Value := Value
  read _ := ofData
  write := toData

/-- All kinds of values that are stored. -/
def all : List Model :=
  [fixed FrameRange.ofData FrameRange.toData,
    fixed TimingContext.ofData TimingContext.toData,
    fixed Rect.ofData Rect.toData,
    fixed Point.ofData Point.toData,
    fixed Alignment.ofData Alignment.toData,
    fixed Registration.ofData Registration.toData] ++
  Form.all.map (fun form => fixed form.ofData Transition.toData) ++
  [fixed Transition.ofData Transition.toData,
    fixed Anchor.ofData Anchor.toData,
    fixed AudioSource.ofData AudioSource.toData,
    fixed Sync.ofData Sync.toData,
    fixed Track.ofData Track.toData,
    fixed Clip.ofData Clip.toData,
    fixed Node.leafOfData Node.toData,
    fixed Node.markOfData Node.toData,
    fixed Node.clipOfData Node.toData,
    fixed Node.groupOfData Node.toData,
    fixed Node.ofData Node.toData,
    fixed Scene.ofData Scene.toData,
    fixed Music.ofData Music.toData,
    fixed Composition.ofData Composition.toData,
    fixed PlacedScene.ofData PlacedScene.toData,
    fixed Timeline.ofData Timeline.toData,
    ⟨Encoding, Encoding.ofData, Encoding.toData⟩,
    ⟨Manifest, Manifest.ofData, Manifest.toData⟩]

/-- Whatever is read is read again from what is written for it, nulls left out, and at any bitrate.
-/
def RoundTrips (model : Model) : Prop :=
  ∀ bitrate later data value, model.read bitrate data = .ok value →
    model.read later (model.write value).dropNulls = .ok value

/-- It is enough that all values that are read have some property, and are restored because of it.
-/
theorem RoundTrips.of_restores {model : Model} (p : model.Value → Prop)
    (hread : ∀ bitrate data, (model.read bitrate data).Ensures p)
    (hrestores : ∀ bitrate value, p value →
      Restores (model.read bitrate) (model.write value) value) :
    model.RoundTrips := by
  intro bitrate later data value hvalue
  exact (hrestores later value (hread bitrate data value hvalue)).read

/-- A model round-trips when it is restored from anything that its reader accepts. -/
theorem RoundTrips.fixed {Value : Type} {ofData : Data → Checked Value} {toData : Value → Data}
    {p : Value → Prop} (hread : ∀ data, (ofData data).Ensures p)
    (hrestores : ∀ {value}, p value → Restores ofData (toData value) value) :
    (fixed ofData toData).RoundTrips :=
  .of_restores p (fun _ => hread) fun _ _ => hrestores

/-- **Round trips hold for all models.** -/
theorem roundTrips : ∀ model ∈ all, model.RoundTrips := by
  -- the models in the order of their list; the forms of transitions are one case
  simp only [all, List.forall_mem_append, List.forall_mem_cons, List.forall_mem_map]
  refine ⟨⟨⟨?_, ?_, ?_, ?_, ?_, ?_, nofun⟩, fun form hform => ?_⟩, ?_, ?_, ?_, ?_, ?_, ?_, ?_, ?_,
    ?_, ?_, ?_, ?_, ?_, ?_, ?_, ?_, ?_, ?_, nofun⟩
  · exact .fixed (fun _ => .any _) fun _ => FrameRange.restores _
  · exact .fixed TimingContext.ofData_ensures TimingContext.restores
  · exact .fixed Rect.ofData_ensures Rect.restores
  · exact .fixed (fun _ => .any _) fun _ => Point.restores _
  · exact .fixed Alignment.ofData_ensures Alignment.restores
  · exact .fixed Registration.ofData_ensures Registration.restores
  · exact .fixed (Form.ofData_ensures hform) fun h => Transition.restores_form hform h.1 h.2
  · exact .fixed Transition.ofData_ensures Transition.restores
  · exact .fixed Anchor.ofData_ensures Anchor.restores
  · exact .fixed AudioSource.ofData_ensures AudioSource.restores
  · exact .fixed (fun _ => .any _) fun _ => Sync.restores _
  · exact .fixed Track.ofData_ensures Track.restores
  · exact .fixed Clip.ofData_ensures Clip.restores
  · refine .fixed Node.leafOfData_ensures ?_
    rintro _ ⟨own, hown, rfl⟩
    exact Node.restores_leaf hown
  · refine .fixed Node.markOfData_ensures ?_
    rintro _ ⟨own, hown, rfl⟩
    exact Node.restores_mark hown
  · refine .fixed Node.clipOfData_ensures ?_
    rintro _ ⟨own, afterParentEntry, hown, rfl⟩
    exact Node.restores_clip hown
  · refine .fixed Node.groupOfData_ensures ?_
    rintro _ ⟨own, children, hown, hchildren, rfl⟩
    exact Node.restores_group hown hchildren
  · exact .fixed Node.ofData_ensures Node.restores
  · exact .fixed Scene.ofData_ensures Scene.restores
  · exact .fixed Music.ofData_ensures Music.restores
  · exact .fixed Composition.ofData_ensures Composition.restores
  · exact .fixed PlacedScene.ofData_ensures_sound PlacedScene.restores
  · exact .fixed Timeline.ofData_ensures_sound Timeline.restores
  · exact .of_restores _ Encoding.ofData_ensures fun bitrate _ => Encoding.restores bitrate
  · exact .of_restores _ Manifest.ofData_ensures fun bitrate _ => Manifest.restores bitrate

/-- **What has been read is read again from what is written for it**, with the null fields left out
at every depth, whatever the audio bitrates in force are at the two times. It is assumed that all
texts are well-formed, the names in a table included: `Data` has no others. -/
theorem read_write {model : Model} (hmodel : model ∈ all) {bitrate later : String} {data : Data}
    {value : model.Value} (h : model.read bitrate data = .ok value) :
    model.read later (model.write value).dropNulls = .ok value :=
  roundTrips model hmodel bitrate later data value h

/-- A manifest of two scenes, with a tree of nodes, an open anchor and settings without a bitrate.
-/
def reel : Data :=
  .object [
    ("video", .object [
      ("scenes", .list [
        .object [
          ("duration_in_frames", .int 90),
          ("transition_out", .object [("kind", .text "slide_up"), ("duration_in_frames", .int 12)]),
          ("children", .list [
            .object [("kind", .text "container"), ("offset_frames", .int (-5)), ("children", .list [
              .object [
                ("kind", .text "embedded_video"),
                ("video", .object [("path", .text "a.mp4")])],
              .object [("kind", .text "anchor"), ("anchor_id", .text "beat")]])],
            .object [("kind", .text "leaf"), ("hero_key", .text "logo"), ("bounds", .object [])]])],
        .object [("duration_in_frames", .int 60), ("fade_in_frames", .int 0)]]),
      ("anchors", .object [("end", .object [("start_frame", .int 120), ("end_frame", .null)])])]),
    ("output_path", .text "out.mp4"),
    ("encoding", .object [("width", .int 640), ("height", .int 360), ("fps", .int 30)])]

/-- The bitrate that was in force at first is kept, although another is when the manifest is read
again. -/
theorem read_write_reel : ∃ manifest, Manifest.ofData "192k" reel = .ok manifest ∧
    Manifest.ofData "64k" manifest.toData.dropNulls = .ok manifest ∧
      manifest.encoding.map Encoding.audioBitrate = some "192k" := by
  obtain ⟨manifest, hread, hbitrate⟩ : ∃ manifest, Manifest.ofData "192k" reel = .ok manifest ∧
      manifest.encoding.map Encoding.audioBitrate = some "192k" := ⟨_, rfl, rfl⟩
  have hmodel : ⟨Manifest, Manifest.ofData, Manifest.toData⟩ ∈ all := by simp [all]
  exact ⟨manifest, hread, @read_write _ hmodel "192k" "64k" reel manifest hread, hbitrate⟩

end Model

/-! ## Completeness of the bounds -/

/-- A composition is valid just when it can be read. -/
theorem Composition.valid_iff (composition : Composition) :
    composition.Valid ↔ ∃ data, Composition.ofData data = .ok composition :=
  ⟨fun h => ⟨_, (Composition.restores h).read⟩,
    fun ⟨data, h⟩ => Composition.ofData_ensures data _ h⟩

/-- A manifest is valid just when it can be read, at whatever bitrate is in force. -/
theorem Manifest.valid_iff (bitrate : String) (manifest : Manifest) :
    manifest.Valid ↔ ∃ data, Manifest.ofData bitrate data = .ok manifest :=
  ⟨fun h => ⟨_, (Manifest.restores bitrate h).read⟩,
    fun ⟨data, h⟩ => Manifest.ofData_ensures bitrate data _ h⟩

/-- A timeline is sound just when it can be read. -/
theorem Timeline.sound_iff (timeline : Timeline) :
    timeline.Sound ↔ ∃ data, Timeline.ofData data = .ok timeline :=
  ⟨fun h => ⟨_, (Timeline.restores h).read⟩,
    fun ⟨data, h⟩ => Timeline.ofData_ensures_sound data _ h⟩

end Montage
