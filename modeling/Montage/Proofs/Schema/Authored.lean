import Mathlib.Data.Int.Notation
import Montage.Proofs.Schema.Valid
import Montage.Schema.Frames
import Montage.Schema.Hero
import Montage.Schema.Manifest

/-!
# What has been authored is valid

The bounds of compositions, of the transitions and node trees in them, and of manifests, and that
every one of these that has been read keeps to them (`Composition.ofData_ensures`,
`Manifest.ofData_ensures`). A scene of a timeline, and a timeline, are sound when their transitions
are valid as well (`Timeline.ofData_ensures_sound`).

A transition is valid in itself, whatever its kind. That one read in a given form has a kind of that
form is said beside it (`Form.ofFields_ensures`).
-/

namespace Montage

open Schema Checked

variable {α β : Type}

namespace Checked.Ensures

variable {p : α → Prop} {q : β → Prop}

theorem andThen {x : Checked α} {f : α → Checked β} (hx : x.Ensures p)
    (hf : ∀ value, p value → (f value).Ensures q) : (x.andThen f).Ensures q := by
  rcases x with value | faults
  · exact hf value (hx value rfl)
  · nofun

end Checked.Ensures

namespace Schema

theorem fieldKind_ensures (fields : Entries Data) {kinds : List String}
    (hdefault : kinds.headD "" ∈ kinds) : (fieldKind fields kinds).Ensures (· ∈ kinds) := by
  refine fieldOr_ensures fields "kind" hdefault fun d => ?_
  split
  · split
    · exact .pure ‹_›
    · exact .refuse _
  · exact .refuse _

theorem tag_ensures (known : List String) (fields : Entries Data) :
    (tag known fields).Ensures (· ∈ known) := by
  rw [tag.eq_def]
  split
  · exact .refuse _
  · split
    · split
      · exact .pure ‹_›
      · exact .refuse _
    · exact .refuse _

/-- An integer is read only within its bounds, both included. -/
theorem integerWithin_ensures (low high : ℤ) (d : Data) :
    (integerWithin low high d).Ensures fun n => low ≤ n ∧ n ≤ high :=
  .demand _ <| .demand _ fun _ _ hhigh hlow => ⟨of_decide_eq_true hlow, of_decide_eq_true hhigh⟩

end Schema

/-! ## Rectangles and alignments -/

/-- The bounds of a rectangle: its extents are not negative. -/
structure Rect.Valid (rect : Rect Float) : Prop where
  width : Binary64.ofRatio 0 1 ≤ rect.width
  height : Binary64.ofRatio 0 1 ≤ rect.height

theorem Rect.ofData_ensures : ∀ d, (Rect.ofData d).Ensures Rect.Valid := by
  apply record_ensures
  intro fields
  have hleft := Ensures.any (fieldOr fields "left" 0.0 number)
  have htop := Ensures.any (fieldOr fields "top" 0.0 number)
  have hwidth :=
    @fieldOr_ensures _ fields "width" _ _ 0.0 (by decide +kernel) (numberFrom_ensures 0)
  have hheight :=
    @fieldOr_ensures _ fields "height" _ _ 0.0 (by decide +kernel) (numberFrom_ensures 0)
  refine (hleft.map ?_).seq htop |>.seq hwidth |>.seq hheight
  intro left _ top _ width hwidth height hheight
  exact ⟨hwidth, hheight⟩

/-- The bounds of an alignment: it lies inside the frame. -/
structure Alignment.Valid (alignment : Alignment Float) : Prop where
  x : Between (-1) 1 alignment.x
  y : Between (-1) 1 alignment.y

theorem Alignment.ofData_ensures : ∀ d, (Alignment.ofData d).Ensures Alignment.Valid := by
  apply record_ensures
  intro fields
  have hx := @fieldOr_ensures _ fields "x" _ _ 0.0 (by decide +kernel) (numberWithin_ensures (-1) 1)
  have hy := @fieldOr_ensures _ fields "y" _ _ 0.0 (by decide +kernel) (numberWithin_ensures (-1) 1)
  exact (hx.map fun x hx y hy => ⟨hx, hy⟩).seq hy

/-! ## Transitions -/

/-- The bounds of what a transition does: a zoom does not shrink, and is about a point in the frame.
-/
def Effect.Valid : Effect Float → Prop
  | .zoomWarp maxZoom target =>
    Binary64.ofRatio 1 1 ≤ maxZoom ∧ ∀ alignment ∈ target, alignment.Valid
  | _ => True

structure Transition.Valid (transition : Transition Float) : Prop where
  duration : 0 ≤ transition.duration
  effect : transition.effect.Valid

namespace Form

theorem duration_nonneg {form : Form} (hform : form ∈ all) : 0 ≤ form.duration := by
  simp only [all, List.mem_cons, List.not_mem_nil, or_false] at hform
  rcases hform with rfl | rfl | rfl | rfl | rfl | rfl | rfl <;> decide

/-- The kind that stands in for a missing one is a kind of the form. -/
theorem kinds_default {form : Form} (hform : form ∈ all) : form.kinds.headD "" ∈ form.kinds := by
  simp only [all, List.mem_cons, List.not_mem_nil, or_false] at hform
  rcases hform with rfl | rfl | rfl | rfl | rfl | rfl | rfl <;> decide

/-- What is read for a form is a valid effect of each kind that has the form. -/
theorem effect_ensures {form : Form} (hform : form ∈ all) (fields : Entries Data) :
    (form.effect fields).Ensures fun effect =>
      ∀ kind ∈ form.kinds, (effect kind).kind = kind ∧ (effect kind).Valid := by
  -- each form reads the options of its own effect, and the kind goes with them
  simp only [all, List.mem_cons, List.not_mem_nil, or_false] at hform
  rcases hform with rfl | rfl | rfl | rfl | rfl | rfl | rfl
  · exact .pure fun kind hkind => ⟨(List.mem_singleton.mp hkind).symm, trivial⟩
  · exact .pure fun kind hkind => ⟨(List.mem_singleton.mp hkind).symm, trivial⟩
  · refine .pure fun kind hkind => ⟨?_, trivial⟩
    revert kind
    decide
  · exact .pure fun kind hkind => ⟨(List.mem_singleton.mp hkind).symm, trivial⟩
  · refine (Ensures.any _).map fun direction _ kind hkind => ?_
    exact ⟨(List.mem_singleton.mp hkind).symm, trivial⟩
  · have hzoom := @fieldOr_ensures _ fields "max_zoom" _ _ 3.0 (by decide +kernel)
      (numberFrom_ensures 1)
    have htarget := fieldOption_ensures fields "target" Alignment.ofData_ensures
    refine (hzoom.map fun maxZoom hzoom target htarget kind hkind => ?_).seq htarget
    exact ⟨(List.mem_singleton.mp hkind).symm, hzoom, htarget⟩
  · refine (Ensures.any _).map fun color _ kind hkind => ?_
    exact ⟨(List.mem_singleton.mp hkind).symm, trivial⟩

/-- **A transition that has been read in a form is valid**, and of a kind of that form. -/
theorem ofFields_ensures {form : Form} (hform : form ∈ all) (fields : Entries Data) :
    (form.ofFields fields).Ensures fun transition =>
      transition.effect.kind ∈ form.kinds ∧ transition.Valid := by
  have hduration := fieldOr_ensures fields "duration_in_frames" (duration_nonneg hform)
    (integerFrom_ensures 0)
  have hcurve := Ensures.any (fieldOr fields "curve" form.curve Curve.ofData)
  have hkind := fieldKind_ensures fields (kinds_default hform)
  have heffect := effect_ensures hform fields
  refine (hduration.map ?_).seq hcurve |>.seq hkind |>.seq heffect
  intro duration hduration curve _ kind hkind effect heffect
  obtain ⟨hsame, hvalid⟩ := heffect kind hkind
  exact ⟨hsame.symm ▸ hkind, hduration, hvalid⟩

theorem ofData_ensures {form : Form} (hform : form ∈ all) : ∀ d, (form.ofData d).Ensures
    fun transition => transition.effect.kind ∈ form.kinds ∧ transition.Valid := by
  apply record_ensures
  exact ofFields_ensures hform

/-- The form of a kind is one of the forms, also when no form has the kind. -/
theorem ofKind_mem (kind : String) : ofKind kind ∈ all := by
  rw [ofKind]
  cases hfound : all.find? fun form => kind ∈ form.kinds with
  | none => exact List.mem_cons_self
  | some form => exact List.mem_of_find?_eq_some hfound

end Form

/-- A transition is read with the form of its kind. -/
theorem Transition.ofData_ensures : ∀ d, (Transition.ofData d).Ensures Transition.Valid := by
  intro d
  rw [ofData, variant.eq_def]
  split
  · refine (tag_ensures _ _).andThen fun kind _ => Ensures.under ?_ _
    intro transition htransition
    exact (Form.ofFields_ensures (Form.ofKind_mem kind) _ transition htransition).2
  · exact .refuse _

/-! ## Nodes -/

/-- The bounds of a leaf: one with a key has bounds. -/
structure Leaf.Valid (leaf : Leaf) : Prop where
  bounds : ∀ rect ∈ leaf.bounds, rect.Valid
  bounded : leaf.heroKey.isSome → leaf.bounds.isSome

theorem Leaf.ofFields_ensures (fields : Entries Data) :
    (Leaf.ofFields fields).Ensures Leaf.Valid := by
  have hkind := Ensures.any (fieldKind fields ["leaf"])
  have hname := Ensures.any (fieldOr fields "name" "" text)
  have hkey := Ensures.any (fieldOption fields "hero_key" text)
  have hbounds := fieldOption_ensures fields "bounds" Rect.ofData_ensures
  have hrotation := Ensures.any (fieldOr fields "rotation" 0.0 number)
  have hscale := Ensures.any (fieldOr fields "scale" 1.0 number)
  -- the fields that are checked together come last, after each has passed its own check
  refine .demand _ <| (hkind.map ?_).seq hname |>.seq hkey |>.seq hbounds |>.seq hrotation
    |>.seq hscale
  intro kind _ name _ key _ bounds hbounds rotation _ scale _ hcheck
  refine ⟨hbounds, fun hkeyed => ?_⟩
  rcases key with _ | key
  · cases hkeyed
  · exact hcheck

structure Mark.Valid (mark : Mark) : Prop where
  anchorId : mark.anchorId.isEmpty = false
  duration : ∀ duration ∈ mark.duration, 0 ≤ duration

theorem Mark.ofFields_ensures (fields : Entries Data) :
    (Mark.ofFields fields).Ensures Mark.Valid := by
  have hkind := Ensures.any (fieldKind fields ["anchor"])
  have hid := field_ensures fields "anchor_id" nonEmptyText_ensures
  have hstart := Ensures.any (fieldOr fields "start_frame" 0 integer)
  have hduration := fieldOption_ensures fields "duration_in_frames" (integerFrom_ensures 0)
  have hafter := Ensures.any (fieldOr fields "after_parent_entry" false truth)
  refine (hkind.map ?_).seq hid |>.seq hstart |>.seq hduration |>.seq hafter
  intro kind _ id hid start _ duration hduration after _
  exact ⟨hid, hduration⟩

/-- The bounds of a group, apart from its children. -/
structure Group.Valid (group : Group) : Prop where
  duration : ∀ duration ∈ group.duration, 0 ≤ duration
  entryDuration : 0 ≤ group.entryDuration
  exitDuration : 0 ≤ group.exitDuration

theorem Group.ofFields_ensures (fields : Entries Data) :
    (Group.ofFields fields).Ensures Group.Valid := by
  have hkind := Ensures.any (fieldKind fields ["container"])
  have hname := Ensures.any (fieldOr fields "name" "" text)
  have hstart := Ensures.any (fieldOr fields "start_frame" 0 integer)
  have hduration := fieldOption_ensures fields "duration_in_frames" (integerFrom_ensures 0)
  have hentry := fieldOr_ensures fields "entry_duration" (Int.le_refl 0) (integerFrom_ensures 0)
  have hexit := fieldOr_ensures fields "exit_duration" (Int.le_refl 0) (integerFrom_ensures 0)
  have hoffset := Ensures.any (fieldOr fields "offset_frames" 0 integer)
  have hafter := Ensures.any (fieldOr fields "after_parent_entry" false truth)
  refine (hkind.map ?_).seq hname |>.seq hstart |>.seq hduration |>.seq hentry |>.seq hexit
    |>.seq hoffset |>.seq hafter
  intro kind _ name _ start _ duration hduration entry hentry exit hexit offset _ after _
  exact ⟨hduration, hentry, hexit⟩

namespace Node

/-- The bounds of a node and of all below it. -/
inductive Valid : Node → Prop where
  | group {own : Group} {children : List Node} (hown : own.Valid)
      (hchildren : ∀ child ∈ children, Valid child) : Valid (.group own children)
  | clip {own : Clip} {afterParentEntry : Bool} (hown : own.Valid) :
      Valid (.clip own afterParentEntry)
  | leaf {own : Leaf} (hown : own.Valid) : Valid (.leaf own)
  | mark {own : Mark} (hown : own.Valid) : Valid (.mark own)

theorem clipOfFields_ensures (fields : Entries Data) : (clipOfFields fields).Ensures Valid := by
  have hkind := Ensures.any (fieldKind fields ["embedded_video"])
  have hvideo := field_ensures fields "video" Clip.ofData_ensures
  have hafter := Ensures.any (fieldOr fields "after_parent_entry" false truth)
  refine (hkind.map ?_).seq hvideo |>.seq hafter
  intro kind _ clip hclip after _
  exact .clip hclip

theorem leafOfFields_ensures (fields : Entries Data) :
    Ensures (Node.leaf <$> Leaf.ofFields fields) Valid :=
  (Leaf.ofFields_ensures fields).map fun _ => .leaf

theorem markOfFields_ensures (fields : Entries Data) :
    Ensures (Node.mark <$> Mark.ofFields fields) Valid :=
  (Mark.ofFields_ensures fields).map fun _ => .mark

/-- A group is valid when its own fields and its children are. -/
theorem groupOfFields_ensures (fields : Entries Data) {children : Checked (List Node)}
    (hchildren : children.Ensures fun nodes => ∀ node ∈ nodes, Valid node) :
    (groupOfFields fields children).Ensures Valid := by
  refine ((Group.ofFields_ensures fields).map ?_).seq (hchildren.under _)
  exact fun own hown nodes hnodes => .group hown hnodes

/-- Whatever the kind, a node with valid children is valid. -/
theorem ofFields_ensures (kind : String) (fields : Entries Data) {children : Checked (List Node)}
    (hchildren : children.Ensures fun nodes => ∀ node ∈ nodes, Valid node) :
    (ofFields kind fields children).Ensures Valid := by
  rw [ofFields]
  split
  · exact groupOfFields_ensures fields hchildren
  · split
    · exact clipOfFields_ensures fields
    · split
      · exact leafOfFields_ensures fields
      · exact markOfFields_ensures fields

mutual

/-- **A node that has been read is valid**, and so are all below it. -/
theorem ofData_ensures : ∀ d, (Node.ofData d).Ensures Valid
  | .object fields => by
    rw [ofData]
    refine (tag_ensures _ _).andThen fun kind _ => Ensures.under ?_ _
    exact ofFields_ensures kind fields (childrenAmong_ensures fields)
  | .null | .bool _ | .int _ | .float _ | .text _ | .list _ => by
    simpa only [ofData] using .refuse _

theorem childrenAmong_ensures :
    ∀ fields, (childrenAmong fields).Ensures fun nodes => ∀ node ∈ nodes, Valid node
  | [] => .pure (by simp)
  | (name, value) :: rest => by
    rw [childrenAmong]
    split
    · exact listOfData_ensures value
    · exact childrenAmong_ensures rest

theorem listOfData_ensures :
    ∀ d, (listOfData d).Ensures fun nodes => ∀ node ∈ nodes, Valid node
  | .list entries => by
    rw [listOfData]
    exact listOfItems_ensures 0 entries
  | .null | .bool _ | .int _ | .float _ | .text _ | .object _ => by
    simpa only [listOfData] using .refuse _

theorem listOfItems_ensures :
    ∀ index entries, (listOfItems index entries).Ensures fun nodes => ∀ node ∈ nodes, Valid node
  | _, [] => .pure (by simp)
  | index, item :: rest => by
    rw [listOfItems]
    refine (((ofData_ensures item).under _).map ?_).seq (listOfItems_ensures (index + 1) rest)
    exact fun node hnode nodes hnodes => List.forall_mem_cons.mpr ⟨hnode, hnodes⟩

end

/-! ### Nodes of a known kind -/

theorem clipOfData_ensures : ∀ d, (clipOfData d).Ensures fun node =>
    ∃ own afterParentEntry, own.Valid ∧ node = .clip own afterParentEntry := by
  apply record_ensures
  intro fields
  have hkind := Ensures.any (fieldKind fields ["embedded_video"])
  have hvideo := field_ensures fields "video" Clip.ofData_ensures
  have hafter := Ensures.any (fieldOr fields "after_parent_entry" false truth)
  refine (hkind.map ?_).seq hvideo |>.seq hafter
  intro kind _ clip hclip after _
  exact ⟨clip, after, hclip, rfl⟩

theorem leafOfData_ensures : ∀ d, (leafOfData d).Ensures fun node =>
    ∃ own, own.Valid ∧ node = .leaf own := by
  apply record_ensures
  intro fields
  exact (Leaf.ofFields_ensures fields).map fun own hown => ⟨own, hown, rfl⟩

theorem markOfData_ensures : ∀ d, (markOfData d).Ensures fun node =>
    ∃ own, own.Valid ∧ node = .mark own := by
  apply record_ensures
  intro fields
  exact (Mark.ofFields_ensures fields).map fun own hown => ⟨own, hown, rfl⟩

theorem groupOfData_ensures : ∀ d, (groupOfData d).Ensures fun node =>
    ∃ own children, own.Valid ∧ (∀ child ∈ children, Valid child) ∧ node = .group own children := by
  apply record_ensures
  intro fields
  refine ((Group.ofFields_ensures fields).map ?_).seq ((childrenAmong_ensures fields).under _)
  exact fun own hown children hchildren => ⟨own, children, hown, hchildren, rfl⟩

end Node

/-! ## Compositions -/

structure Scene.Valid (scene : Scene) : Prop where
  duration : 0 < scene.duration
  transitionIn : ∀ transition ∈ scene.transitionIn, transition.Valid
  transitionOut : ∀ transition ∈ scene.transitionOut, transition.Valid
  fadeIn : ∀ frames ∈ scene.fadeIn, 0 ≤ frames
  fadeOut : ∀ frames ∈ scene.fadeOut, 0 ≤ frames
  children : ∀ node ∈ scene.children, node.Valid

theorem Scene.ofData_ensures : ∀ d, (Scene.ofData d).Ensures Scene.Valid := by
  apply record_ensures
  intro fields
  have hname := Ensures.any (fieldOr fields "name" "" text)
  -- what a field has been checked for is passed to the scene in the order of the fields
  have hduration := field_ensures fields "duration_in_frames" positive_ensures
  have hentry := fieldOption_ensures fields "transition_in" Transition.ofData_ensures
  have hexit := fieldOption_ensures fields "transition_out" Transition.ofData_ensures
  have hfadeIn := fieldOption_ensures fields "fade_in_frames" (integerFrom_ensures 0)
  have hfadeOut := fieldOption_ensures fields "fade_out_frames" (integerFrom_ensures 0)
  have hchildren := @fieldOr_ensures _ fields "children" _ _ [] (by simp) Node.listOfData_ensures
  refine (hname.map ?_).seq hduration |>.seq hentry |>.seq hexit |>.seq hfadeIn |>.seq hfadeOut
    |>.seq hchildren
  intro name _ duration hduration entry hentry exit hexit fadeIn hfadeIn fadeOut hfadeOut children
    hchildren
  exact ⟨hduration, hentry, hexit, hfadeIn, hfadeOut, hchildren⟩

structure Music.Valid (music : Music) : Prop where
  path : music.source.path.isEmpty = false
  volume : Between 0 1 music.volume
  fadeIn : 0 ≤ music.fadeIn
  fadeOut : 0 ≤ music.fadeOut

theorem Music.ofData_ensures : ∀ d, (Music.ofData d).Ensures Music.Valid := by
  apply record_ensures
  intro fields
  have hsource := field_ensures fields "source" AudioSource.ofData_ensures
  have hvolume := @fieldOr_ensures _ fields "volume" _ _ 1.0 (by decide +kernel)
    (numberWithin_ensures 0 1)
  have hfadeIn := @fieldOr_ensures _ fields "fade_in_frames" _ _ 30 (by decide)
    (integerFrom_ensures 0)
  have hfadeOut := @fieldOr_ensures _ fields "fade_out_frames" _ _ 30 (by decide)
    (integerFrom_ensures 0)
  have hloop := Ensures.any (fieldOr fields "loop" true truth)
  refine (hsource.map ?_).seq hvolume |>.seq hfadeIn |>.seq hfadeOut |>.seq hloop
  intro source hsource volume hvolume fadeIn hfadeIn fadeOut hfadeOut loop _
  exact ⟨hsource, hvolume, hfadeIn, hfadeOut⟩

structure Composition.Valid (composition : Composition) : Prop where
  fps : 0 < composition.fps
  width : 0 < composition.width
  height : 0 < composition.height
  scenes : ∀ scene ∈ composition.scenes, scene.Valid
  defaultTransition : ∀ transition ∈ composition.defaultTransition, transition.Valid
  tracks : ∀ track ∈ composition.tracks, track.Valid
  music : ∀ music ∈ composition.music, music.Valid
  anchors : ∀ entry ∈ composition.anchors, entry.2.Valid

/-- **A composition that has been read is valid.** -/
theorem Composition.ofData_ensures : ∀ d, (Composition.ofData d).Ensures Composition.Valid := by
  apply record_ensures
  intro fields
  have hfps := @fieldOr_ensures _ fields "fps" _ _ 30 (by decide) positive_ensures
  have hwidth := @fieldOr_ensures _ fields "width" _ _ 1920 (by decide) positive_ensures
  have hheight := @fieldOr_ensures _ fields "height" _ _ 1080 (by decide) positive_ensures
  have hscenes := @fieldOr_ensures _ fields "scenes" _ _ [] (by simp)
    (list_ensures Scene.ofData_ensures)
  have htransition := fieldOption_ensures fields "default_transition" Transition.ofData_ensures
  have htracks := @fieldOr_ensures _ fields "audio_tracks" _ _ [] (by simp)
    (list_ensures Track.ofData_ensures)
  have hmusic := fieldOption_ensures fields "background_music" Music.ofData_ensures
  have hanchors := @fieldOr_ensures _ fields "anchors" _ _ Table.empty (by simp)
    (table_ensures Anchor.ofData_ensures)
  refine (hfps.map ?_).seq hwidth |>.seq hheight |>.seq hscenes |>.seq htransition |>.seq htracks
    |>.seq hmusic |>.seq hanchors
  intro fps hfps width hwidth height hheight scenes hscenes transition htransition tracks htracks
    music hmusic anchors hanchors
  exact ⟨hfps, hwidth, hheight, hscenes, htransition, htracks, hmusic, hanchors⟩

/-! ## Manifests -/

structure Encoding.Valid (encoding : Encoding) : Prop where
  width : 0 < encoding.width
  height : 0 < encoding.height
  fps : 0 < encoding.fps
  crfOverride : ∀ crf ∈ encoding.crfOverride, 0 ≤ crf ∧ crf ≤ 51

theorem Encoding.ofData_ensures (bitrate : String) :
    ∀ d, (Encoding.ofData bitrate d).Ensures Encoding.Valid := by
  apply record_ensures
  intro fields
  have hquality := Ensures.any
    (fieldOr fields "quality" Quality.medium (choice Quality.all Quality.name))
  have hformat := Ensures.any
    (fieldOr fields "frame_format" FrameFormat.rawRgba (choice FrameFormat.all FrameFormat.name))
  have hwidth := field_ensures fields "width" positive_ensures
  have hheight := field_ensures fields "height" positive_ensures
  have hfps := field_ensures fields "fps" positive_ensures
  have hcrf := fieldOption_ensures fields "crf_override" (integerWithin_ensures 0 51)
  have hpreset := Ensures.any (fieldOption fields "preset_override" Preset.ofData)
  have hcodec := Ensures.any (fieldOr fields "video_codec" "libx264" text)
  have hpixels := Ensures.any (fieldOr fields "pixel_format" "yuv420p" text)
  have haudio := Ensures.any (fieldOr fields "audio_codec" "aac" text)
  have hbitrate := Ensures.any (fieldOr fields "audio_bitrate" bitrate text)
  have hoverlay := Ensures.any (fieldOr fields "overlay_embedded_videos" true truth)
  have hstart := Ensures.any (fieldOr fields "faststart" true truth)
  refine (hquality.map ?_).seq hformat |>.seq hwidth |>.seq hheight |>.seq hfps |>.seq hcrf
    |>.seq hpreset |>.seq hcodec |>.seq hpixels |>.seq haudio |>.seq hbitrate |>.seq hoverlay
    |>.seq hstart
  intro quality _ format _ width hwidth height hheight fps hfps crf hcrf preset _ codec _ pixels _
    audio _ bitrate _ overlay _ start _
  exact ⟨hwidth, hheight, hfps, hcrf⟩

/-- The bounds of a manifest and of all in it. -/
structure Manifest.Valid (manifest : Manifest) : Prop where
  composition : manifest.composition.Valid
  outputPath : manifest.outputPath.isEmpty = false
  encoding : ∀ encoding ∈ manifest.encoding, encoding.Valid
  anchors : ∀ entry ∈ manifest.anchors, entry.2.Valid

/-- **A manifest that has been read is valid.** -/
theorem Manifest.ofData_ensures (bitrate : String) :
    ∀ d, (Manifest.ofData bitrate d).Ensures Manifest.Valid := by
  apply record_ensures
  intro fields
  have hvideo := field_ensures fields "video" Composition.ofData_ensures
  have hpath := field_ensures fields "output_path" nonEmptyText_ensures
  have hencoding := fieldOption_ensures fields "encoding" (Encoding.ofData_ensures bitrate)
  have hanchors := @fieldOr_ensures _ fields "anchors" _ _ Table.empty (by simp)
    (table_ensures Anchor.ofData_ensures)
  refine (hvideo.map ?_).seq hpath |>.seq hencoding |>.seq hanchors
  intro composition hcomposition path hpath encoding hencoding anchors hanchors
  exact ⟨hcomposition, hpath, hencoding, hanchors⟩

/-! ## Timing contexts and registrations -/

structure TimingContext.Valid (context : TimingContext) : Prop where
  entryDuration : 0 ≤ context.entryDuration
  exitDuration : 0 ≤ context.exitDuration

theorem TimingContext.ofData_ensures :
    ∀ d, (TimingContext.ofData d).Ensures TimingContext.Valid := by
  apply record_ensures
  intro fields
  have hstart := Ensures.any (fieldOr fields "context_start" 0 integer)
  have hentry := fieldOr_ensures fields "entry_duration" (Int.le_refl 0) (integerFrom_ensures 0)
  have hexit := fieldOr_ensures fields "exit_duration" (Int.le_refl 0) (integerFrom_ensures 0)
  have hstop := Ensures.any (fieldOption fields "context_end" integer)
  have hoffset := Ensures.any (fieldOr fields "inherited_offset" 0 integer)
  refine (hstart.map ?_).seq hentry |>.seq hexit |>.seq hstop |>.seq hoffset
  intro start _ entry hentry exit hexit stop _ offset _
  exact ⟨hentry, hexit⟩

structure Registration.Valid (registration : Registration Float) : Prop where
  key : registration.key.isEmpty = false
  scene : 0 ≤ registration.scene
  bounds : registration.bounds.Valid

theorem Registration.ofData_ensures : ∀ d, (Registration.ofData d).Ensures Registration.Valid := by
  apply record_ensures
  intro fields
  have hkey := field_ensures fields "identity_key" nonEmptyText_ensures
  have hscene := field_ensures fields "scene_index" (integerFrom_ensures 0)
  have hbounds := field_ensures fields "bounds" Rect.ofData_ensures
  have hrotation := Ensures.any (fieldOr fields "rotation" 0.0 number)
  have hscale := Ensures.any (fieldOr fields "scale" 1.0 number)
  refine (hkey.map ?_).seq hscene |>.seq hbounds |>.seq hrotation |>.seq hscale
  intro key hkey scene hscene bounds hbounds rotation _ scale _
  exact ⟨hkey, hscene, hbounds⟩

/-! ## Timelines with their transitions -/

/-- A valid scene of a timeline whose transitions are valid too. -/
structure PlacedScene.Sound (scene : PlacedScene Float) : Prop extends scene.Valid where
  transitionIn : ∀ transition ∈ scene.transitionIn, transition.Valid
  transitionOut : ∀ transition ∈ scene.transitionOut, transition.Valid

theorem PlacedScene.ofData_ensures_transitions (d : Data) :
    (PlacedScene.ofData d).Ensures fun scene =>
      (∀ transition ∈ scene.transitionIn, transition.Valid) ∧
        ∀ transition ∈ scene.transitionOut, transition.Valid := by
  revert d
  apply record_ensures
  intro fields
  -- the other fields are bounded by the theorem on the model itself
  have hindex := Ensures.any (field fields "index" (integerFrom 0))
  have hname := Ensures.any (fieldOr fields "name" "" text)
  have hstart := Ensures.any (field fields "absolute_start" (integerFrom 0))
  have hstop := Ensures.any (field fields "absolute_end" (integerFrom 0))
  have hentry := fieldOption_ensures fields "transition_in" Transition.ofData_ensures
  have hexit := fieldOption_ensures fields "transition_out" Transition.ofData_ensures
  have hfadeIn := Ensures.any (fieldOr fields "fade_in_frames" 0 (integerFrom 0))
  have hfadeOut := Ensures.any (fieldOr fields "fade_out_frames" 0 (integerFrom 0))
  refine (hindex.map ?_).seq hname |>.seq hstart |>.seq hstop |>.seq hentry |>.seq hexit
    |>.seq hfadeIn |>.seq hfadeOut
  intro index _ name _ start _ stop _ entry hentry exit hexit fadeIn _ fadeOut _
  exact ⟨hentry, hexit⟩

theorem PlacedScene.ofData_ensures_sound (d : Data) :
    (PlacedScene.ofData d).Ensures PlacedScene.Sound := by
  intro scene hscene
  obtain ⟨hentry, hexit⟩ := PlacedScene.ofData_ensures_transitions d scene hscene
  exact ⟨PlacedScene.ofData_ensures d scene hscene, hentry, hexit⟩

/-- A valid timeline whose scenes are sound. -/
structure Timeline.Sound (timeline : Timeline) : Prop extends timeline.Valid where
  transitions : ∀ scene ∈ timeline.scenes, scene.Sound

theorem Timeline.ofData_ensures_transitions (d : Data) :
    (Timeline.ofData d).Ensures fun timeline => ∀ scene ∈ timeline.scenes, scene.Sound := by
  revert d
  apply record_ensures
  intro fields
  have hfps := Ensures.any (field fields "fps" positive)
  have hwidth := Ensures.any (field fields "width" positive)
  have hheight := Ensures.any (field fields "height" positive)
  have hframes := Ensures.any (field fields "total_frames" (integerFrom 0))
  have hscenes := @fieldOr_ensures _ fields "scenes" _ _ [] (by simp)
    (list_ensures PlacedScene.ofData_ensures_sound)
  have htracks := Ensures.any (fieldOr fields "audio_tracks" [] (list Track.ofData))
  have hclips := Ensures.any (fieldOr fields "embedded_videos" [] (list Clip.ofData))
  have hanchors := Ensures.any (fieldOr fields "anchors" Table.empty (table Anchor.ofData))
  refine (hfps.map ?_).seq hwidth |>.seq hheight |>.seq hframes |>.seq hscenes |>.seq htracks
    |>.seq hclips |>.seq hanchors
  intro fps _ width _ height _ frames _ scenes hscenes tracks _ clips _ anchors _
  exact hscenes

/-- **A timeline that has been read is sound.** -/
theorem Timeline.ofData_ensures_sound (d : Data) : (Timeline.ofData d).Ensures Timeline.Sound :=
  fun timeline htimeline =>
    ⟨Timeline.ofData_ensures d timeline htimeline,
      Timeline.ofData_ensures_transitions d timeline htimeline⟩

end Montage
