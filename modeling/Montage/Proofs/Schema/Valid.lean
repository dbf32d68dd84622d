import Mathlib.Data.Int.Notation
import Mathlib.Data.Nat.Notation
import Montage.Proofs.Table
import Montage.Schema.Timeline

/-!
# What has been read is valid

The readers of `Montage.Schema` refuse values that violate the bounds of their field. Here the
bounds of each record are stated as a property of the record itself (`Clip.Valid`, `Track.Valid`,
`Timeline.Valid` and others), and every record that comes out of a reader is shown to have it, also
where fields were left out and took their defaults.

A property is carried through a reader by `Checked.Ensures`, field by field.
-/

namespace Montage

open Schema

variable {α β : Type}

namespace Checked

/-- If there is a value, it has a property. -/
def Ensures (x : Checked α) (p : α → Prop) : Prop :=
  ∀ value, x = .ok value → p value

namespace Ensures

variable {p : α → Prop} {q : β → Prop}

theorem any (x : Checked α) : x.Ensures fun _ => True :=
  fun _ _ => trivial

theorem pure {value : α} (h : p value) : Ensures (Pure.pure value) p := by
  rintro _ ⟨⟩
  exact h

theorem refuse (cause : Cause) : Ensures (Checked.refuse cause) p :=
  nofun

/-- A function on checked values ensures what it makes of the values that are ensured. -/
theorem map {x : Checked α} {f : α → β} (hx : x.Ensures p) (hf : ∀ value, p value → q (f value)) :
    Ensures (f <$> x) q := by
  rcases x with value | faults
  · rintro _ ⟨⟩
    exact hf value (hx value rfl)
  · nofun

/-- A function that keeps to its property on values that have theirs. -/
theorem seq {f : Checked (α → β)} {x : Checked α}
    (hf : f.Ensures fun g => ∀ value, p value → q (g value)) (hx : x.Ensures p) :
    Ensures (f <*> x) q := by
  rcases f with g | faults <;> rcases x with value | others
  · rintro _ ⟨⟩
    exact hf g rfl value (hx value rfl)
  all_goals nofun

theorem under {x : Checked α} (hx : x.Ensures p) (segment : Segment) :
    (x.under segment).Ensures p := by
  rcases x with value | faults
  · exact hx
  · nofun

/-- What is demanded may be used to show the property. -/
theorem demand {x : Checked α} {check : α → Bool} (cause : Cause)
    (hx : x.Ensures fun value => check value → p value) : (x.demand check cause).Ensures p := by
  rcases x with value | faults
  · intro other hother
    rw [Checked.demand, Checked.andThen] at hother
    by_cases hcheck : check value
    · rw [if_pos hcheck] at hother
      cases hother
      exact hx value rfl hcheck
    · rw [if_neg hcheck] at hother
      cases hother
  · nofun

end Ensures

end Checked

open Checked

/-! ## Values of fields -/

namespace Schema

/-- An integer is read only from its bound on. -/
theorem integerFrom_ensures (bound : ℤ) (d : Data) : (integerFrom bound d).Ensures (bound ≤ ·) :=
  .demand _ fun _ _ h => of_decide_eq_true h

theorem positive_ensures (d : Data) : (positive d).Ensures (0 < ·) :=
  .demand _ fun _ _ h => of_decide_eq_true h

theorem numberFrom_ensures (bound : ℤ) (d : Data) :
    (numberFrom bound d).Ensures (Binary64.ofRatio bound 1 ≤ ·) :=
  .demand _ fun _ _ h => of_decide_eq_true h

/-- A number between two bounds. An undefined number is between none. -/
def Between (low high : ℤ) (x : Float) : Prop :=
  Binary64.ofRatio low 1 ≤ x ∧ x ≤ Binary64.ofRatio high 1

instance (low high : ℤ) (x : Float) : Decidable (Between low high x) :=
  inferInstanceAs (Decidable (_ ∧ _))

/-- A number is read only within its bounds. -/
theorem numberWithin_ensures (low high : ℤ) (d : Data) :
    (numberWithin low high d).Ensures (Between low high) :=
  .demand _ <| .demand _ fun _ _ hhigh hlow => ⟨of_decide_eq_true hlow, of_decide_eq_true hhigh⟩

theorem nonEmptyText_ensures (d : Data) : (nonEmptyText d).Ensures fun s => s.isEmpty = false :=
  .demand _ fun _ _ h => by simpa using h

/-- The items of a list are what the reader of an item ensures. -/
theorem items_ensures {reader : Data → Checked α} {p : α → Prop} (hreader : ∀ d, (reader d).Ensures p)
    (index : ℕ) (entries : List Data) :
    (items reader index entries).Ensures fun values => ∀ value ∈ values, p value := by
  induction entries generalizing index with
  | nil => exact .pure (by simp)
  | cons item rest ih =>
    rw [items]
    refine Ensures.seq ((hreader item).under _ |>.map fun value hvalue => ?_) (ih (index + 1))
    intro values hvalues
    exact List.forall_mem_cons.mpr ⟨hvalue, hvalues⟩

theorem list_ensures {reader : Data → Checked α} {p : α → Prop}
    (hreader : ∀ d, (reader d).Ensures p) (d : Data) :
    (list reader d).Ensures fun values => ∀ value ∈ values, p value := by
  rw [list.eq_def]
  split
  · exact items_ensures hreader 0 _
  · exact .refuse _

/-- The entries of a table are what the reader of a value ensures. -/
theorem entries_ensures {reader : Data → Checked α} {p : α → Prop}
    (hreader : ∀ d, (reader d).Ensures p) (fields : Entries Data) :
    (entries reader fields).Ensures fun values => ∀ entry ∈ values, p entry.2 := by
  induction fields with
  | nil => exact .pure (by simp)
  | cons field rest ih =>
    rw [entries.eq_def]
    refine Ensures.seq ((hreader field.2).under _ |>.map fun value hvalue => ?_) ih
    intro values hvalues
    exact List.forall_mem_cons.mpr ⟨hvalue, hvalues⟩

theorem table_ensures {reader : Data → Checked α} {p : α → Prop}
    (hreader : ∀ d, (reader d).Ensures p) (d : Data) :
    (table reader d).Ensures fun values => ∀ entry ∈ values, p entry.2 := by
  rw [table.eq_def]
  split
  · exact (entries_ensures hreader _).map fun values hvalues entry hentry =>
      hvalues entry (Table.mem_ofEntries hentry)
  · exact .refuse _

/-! ## Fields -/

section Fields

variable (fields : Entries Data) (name : String) {reader : Data → Checked α} {p : α → Prop}

/-- A field is what its reader ensures. -/
theorem field_ensures (hreader : ∀ d, (reader d).Ensures p) :
    (field fields name reader).Ensures p := by
  rw [field]
  rcases Entries.get? name fields with _ | d
  · exact (Ensures.refuse _).under _
  · exact (hreader d).under _

/-- A default has to have the property of the values that are read. -/
theorem fieldOr_ensures {default : α} (hdefault : p default) (hreader : ∀ d, (reader d).Ensures p) :
    (fieldOr fields name default reader).Ensures p := by
  rw [fieldOr]
  rcases Entries.get? name fields with _ | d
  · exact (Ensures.pure hdefault).under _
  · exact (hreader d).under _

/-- A field that may be missing is what its reader ensures, where it is given. -/
theorem fieldOption_ensures (hreader : ∀ d, (reader d).Ensures p) :
    (fieldOption fields name reader).Ensures fun found => ∀ value ∈ found, p value := by
  refine fieldOr_ensures fields name (by simp) fun d => ?_
  rw [optional.eq_def]
  split
  · exact .pure (by simp)
  · exact (hreader _).map fun value hvalue => by simpa using hvalue

end Fields

/-- A record is what the reader of its fields ensures, as anything but an object is refused. -/
theorem record_ensures {name : String} {reader : Entries Data → Checked α} {p : α → Prop}
    (hreader : ∀ fields, (reader fields).Ensures p) (d : Data) : (record name reader d).Ensures p := by
  rw [record.eq_def]
  split
  · exact hreader _
  · exact .refuse _

end Schema

/-! ## Records -/

/-- The bounds of an anchor: it does not end before it starts. -/
structure Anchor.Valid (anchor : Anchor) : Prop where
  start : 0 ≤ anchor.start
  stop : ∀ stop ∈ anchor.stop, anchor.start ≤ stop

theorem Anchor.ofData_ensures : ∀ d, (Anchor.ofData d).Ensures Anchor.Valid := by
  apply record_ensures
  intro fields
  have hstart := field_ensures fields "start_frame" (integerFrom_ensures 0)
  have hstop := Ensures.any (fieldOption fields "end_frame" integer)
  refine .demand _ ((hstart.map ?_).seq hstop)
  intro start hstart stop _ hcheck
  exact ⟨hstart, fun value hvalue =>
    of_decide_eq_true (Option.all_eq_true _ _ |>.mp hcheck value hvalue)⟩

/-- The bounds of an audio track: what is cut from its source is not empty. -/
structure Track.Valid (track : Track) : Prop where
  path : track.source.path.isEmpty = false
  start : 0 ≤ track.start
  duration : ∀ duration ∈ track.duration, 0 ≤ duration
  trimStart : 0 ≤ track.trimStart
  trimEnd : ∀ stop ∈ track.trimEnd, track.trimStart < stop
  volume : Between 0 1 track.volume
  fadeIn : 0 ≤ track.fadeIn
  fadeOut : 0 ≤ track.fadeOut

theorem AudioSource.ofData_ensures :
    ∀ d, (AudioSource.ofData d).Ensures fun source => source.path.isEmpty = false := by
  apply record_ensures
  intro fields
  have hkind := Ensures.any
    (fieldOr fields "type" SourceKind.file (choice SourceKind.all SourceKind.name))
  exact (hkind.map fun _ _ _ hpath => hpath).seq
    (field_ensures fields "path" nonEmptyText_ensures)

theorem Track.ofData_ensures : ∀ d, (Track.ofData d).Ensures Track.Valid := by
  apply record_ensures
  intro fields
  have hid := Ensures.any (fieldOption fields "id" text)
  have hsource := field_ensures fields "source" AudioSource.ofData_ensures
  have hstart := fieldOr_ensures fields "start_frame" (Int.le_refl 0) (integerFrom_ensures 0)
  have hduration := fieldOption_ensures fields "duration_in_frames" (integerFrom_ensures 0)
  have htrimStart := fieldOr_ensures fields "trim_start_frame" (Int.le_refl 0) (integerFrom_ensures 0)
  have htrimEnd := Ensures.any (fieldOption fields "trim_end_frame" (integerFrom 0))
  have hvolume := @fieldOr_ensures _ fields "volume" _ _ 1.0 (by decide +kernel)
    (numberWithin_ensures 0 1)
  have hfadeIn := fieldOr_ensures fields "fade_in_frames" (Int.le_refl 0) (integerFrom_ensures 0)
  have hfadeOut := fieldOr_ensures fields "fade_out_frames" (Int.le_refl 0) (integerFrom_ensures 0)
  have hloop := Ensures.any (fieldOr fields "loop" false truth)
  have hsync := Ensures.any (fieldOption fields "sync" Sync.ofData)
  -- the trim is checked after all fields have been read, as it is about two of them
  refine .demand _ <| ((hid.map ?_).seq hsource |>.seq hstart |>.seq hduration |>.seq htrimStart
    |>.seq htrimEnd |>.seq hvolume |>.seq hfadeIn |>.seq hfadeOut |>.seq hloop |>.seq hsync)
  intro id _ source hpath start hstart duration hduration trimStart htrimStart trimEnd _ volume
    hvolume fadeIn hfadeIn fadeOut hfadeOut loop _ sync _ hcheck
  exact ⟨hpath, hstart, hduration, htrimStart,
    fun stop hstop => of_decide_eq_true (Option.all_eq_true _ _ |>.mp hcheck stop hstop),
    hvolume, hfadeIn, hfadeOut⟩

structure Clip.Valid (clip : Clip) : Prop where
  path : clip.path.isEmpty = false
  start : 0 ≤ clip.start
  duration : ∀ duration ∈ clip.duration, 0 ≤ duration
  trimStart : Binary64.ofRatio 0 1 ≤ clip.trimStart
  width : 0 < clip.width
  height : 0 < clip.height
  volume : Between 0 1 clip.volume
  fadeIn : 0 ≤ clip.fadeIn
  fadeOut : 0 ≤ clip.fadeOut

theorem Clip.ofData_ensures : ∀ d, (Clip.ofData d).Ensures Clip.Valid := by
  apply record_ensures
  intro fields
  have hid := Ensures.any (fieldOption fields "id" text)
  have hpath := field_ensures fields "path" nonEmptyText_ensures
  have hstart := fieldOr_ensures fields "start_frame" (Int.le_refl 0) (integerFrom_ensures 0)
  have hduration := fieldOption_ensures fields "duration_in_frames" (integerFrom_ensures 0)
  have htrimStart := @fieldOr_ensures _ fields "trim_start_seconds" _ _ 0.0 (by decide +kernel)
    (numberFrom_ensures 0)
  have hwidth := @fieldOr_ensures _ fields "width" _ _ 640 (by decide) positive_ensures
  have hheight := @fieldOr_ensures _ fields "height" _ _ 360 (by decide) positive_ensures
  have hposition := Ensures.any (fieldOr fields "position" (Point.mk 0.0 0.0) Point.ofData)
  have haudio := Ensures.any (fieldOr fields "include_audio" true truth)
  have hvolume := @fieldOr_ensures _ fields "audio_volume" _ _ 1.0 (by decide +kernel)
    (numberWithin_ensures 0 1)
  have hfadeIn :=
    fieldOr_ensures fields "audio_fade_in_frames" (Int.le_refl 0) (integerFrom_ensures 0)
  have hfadeOut :=
    fieldOr_ensures fields "audio_fade_out_frames" (Int.le_refl 0) (integerFrom_ensures 0)
  -- fields without a bound are passed over in the order of the record
  refine ((hid.map ?_).seq hpath |>.seq hstart |>.seq hduration |>.seq htrimStart |>.seq hwidth
    |>.seq hheight |>.seq hposition |>.seq haudio |>.seq hvolume |>.seq hfadeIn |>.seq hfadeOut)
  intro id _ path hpath start hstart duration hduration trimStart htrimStart width hwidth height
    hheight position _ includeAudio _ volume hvolume fadeIn hfadeIn fadeOut hfadeOut
  exact ⟨hpath, hstart, hduration, htrimStart, hwidth, hheight, hvolume, hfadeIn, hfadeOut⟩

structure PlacedScene.Valid (scene : PlacedScene Float) : Prop where
  index : 0 ≤ scene.index
  start : 0 ≤ scene.start
  stop : 0 ≤ scene.stop
  fadeIn : 0 ≤ scene.fadeIn
  fadeOut : 0 ≤ scene.fadeOut

theorem PlacedScene.ofData_ensures : ∀ d, (PlacedScene.ofData d).Ensures PlacedScene.Valid := by
  apply record_ensures
  intro fields
  have hindex := field_ensures fields "index" (integerFrom_ensures 0)
  have hname := Ensures.any (fieldOr fields "name" "" text)
  have hstart := field_ensures fields "absolute_start" (integerFrom_ensures 0)
  have hstop := field_ensures fields "absolute_end" (integerFrom_ensures 0)
  have hentry := Ensures.any (fieldOption fields "transition_in" Transition.ofData)
  have hexit := Ensures.any (fieldOption fields "transition_out" Transition.ofData)
  have hfadeIn := fieldOr_ensures fields "fade_in_frames" (Int.le_refl 0) (integerFrom_ensures 0)
  have hfadeOut := fieldOr_ensures fields "fade_out_frames" (Int.le_refl 0) (integerFrom_ensures 0)
  refine ((hindex.map ?_).seq hname |>.seq hstart |>.seq hstop |>.seq hentry |>.seq hexit
    |>.seq hfadeIn |>.seq hfadeOut)
  intro index hindex name _ start hstart stop hstop entry _ exit _ fadeIn hfadeIn fadeOut hfadeOut
  exact ⟨hindex, hstart, hstop, hfadeIn, hfadeOut⟩

structure Timeline.Valid (timeline : Timeline) : Prop where
  fps : 0 < timeline.fps
  width : 0 < timeline.width
  height : 0 < timeline.height
  totalFrames : 0 ≤ timeline.totalFrames
  scenes : ∀ scene ∈ timeline.scenes, scene.Valid
  tracks : ∀ track ∈ timeline.tracks, track.Valid
  clips : ∀ clip ∈ timeline.clips, clip.Valid
  anchors : ∀ entry ∈ timeline.anchors, entry.2.Valid

/-- **A timeline that has been read is valid.** -/
theorem Timeline.ofData_ensures : ∀ d, (Timeline.ofData d).Ensures Timeline.Valid := by
  apply record_ensures
  intro fields
  have hfps := field_ensures fields "fps" positive_ensures
  have hwidth := field_ensures fields "width" positive_ensures
  have hheight := field_ensures fields "height" positive_ensures
  have hframes := field_ensures fields "total_frames" (integerFrom_ensures 0)
  -- a list that is missing is empty, so there is nothing in it to check
  have hscenes := @fieldOr_ensures _ fields "scenes" _ _ [] (by simp)
    (list_ensures PlacedScene.ofData_ensures)
  have htracks := @fieldOr_ensures _ fields "audio_tracks" _ _ [] (by simp)
    (list_ensures Track.ofData_ensures)
  have hclips := @fieldOr_ensures _ fields "embedded_videos" _ _ [] (by simp)
    (list_ensures Clip.ofData_ensures)
  have hanchors := @fieldOr_ensures _ fields "anchors" _ _ Table.empty (by simp)
    (table_ensures Anchor.ofData_ensures)
  refine ((hfps.map ?_).seq hwidth |>.seq hheight |>.seq hframes |>.seq hscenes |>.seq htracks
    |>.seq hclips |>.seq hanchors)
  intro fps hfps width hwidth height hheight frames hframes scenes hscenes tracks htracks clips
    hclips anchors hanchors
  exact ⟨hfps, hwidth, hheight, hframes, hscenes, htracks, hclips, hanchors⟩

end Montage
