import Montage.Proofs.Schema.Authored
import Montage.Proofs.Schema.Stored

/-!
# Round trips

Every valid value is restored from what is written for it with the null fields left out: it is equal
to what is then read, field by field and at every depth. The audio bitrate in force when settings
are read back does not matter, because every bitrate is written (`Encoding.restores`).

Trees of nodes are restored by induction on their validity (`Node.restores`). Which of the readers
for nodes or transitions is taken follows from the kind that is written with each of them.
-/

namespace Montage

open Schema

/-! ## Geometry and timing -/

theorem FrameRange.restores (range : FrameRange) :
    Restores FrameRange.ofData range.toData range := by
  refine .record fun fields kept => ?_
  have hstart := kept.field "start" rfl (restores_integer range.start)
  have hstop := kept.field "end" rfl (restores_integer range.stop)
  rw [hstart, hstop]
  exact dif_pos range.start_le_stop

theorem TimingContext.restores {context : TimingContext} (h : context.Valid) :
    Restores TimingContext.ofData context.toData context := by
  refine .record fun fields kept => ?_
  have hstart := kept.fieldOr "context_start" 0 rfl (restores_integer context.start)
  have hentry := kept.fieldOr "entry_duration" 0 rfl (restores_integerFrom h.entryDuration)
  have hexit := kept.fieldOr "exit_duration" 0 rfl (restores_integerFrom h.exitDuration)
  have hstop := kept.option "context_end" rfl fun stop _ => restores_integer stop
  have hoffset := kept.fieldOr "inherited_offset" 0 rfl (restores_integer context.inheritedOffset)
  rw [hstart, hentry, hexit, hstop, hoffset]
  rfl

theorem Rect.restores {rect : Rect Float} (h : rect.Valid) :
    Restores Rect.ofData rect.toData rect := by
  refine .record fun fields kept => ?_
  have hleft := kept.fieldOr "left" 0.0 rfl (restores_number rect.left)
  have htop := kept.fieldOr "top" 0.0 rfl (restores_number rect.top)
  have hwidth := kept.fieldOr "width" 0.0 rfl (restores_numberFrom h.width)
  have hheight := kept.fieldOr "height" 0.0 rfl (restores_numberFrom h.height)
  rw [hleft, htop, hwidth, hheight]
  rfl

theorem Point.restores (point : Point Float) : Restores Point.ofData point.toData point := by
  refine .record fun fields kept => ?_
  have hx := kept.fieldOr "x" 0.0 rfl (restores_number point.x)
  have hy := kept.fieldOr "y" 0.0 rfl (restores_number point.y)
  rw [hx, hy]
  rfl

theorem Alignment.restores {alignment : Alignment Float} (h : alignment.Valid) :
    Restores Alignment.ofData alignment.toData alignment := by
  refine .record fun fields kept => ?_
  have hx := kept.fieldOr "x" 0.0 rfl (restores_numberWithin h.x)
  have hy := kept.fieldOr "y" 0.0 rfl (restores_numberWithin h.y)
  rw [hx, hy]
  rfl

theorem Registration.restores {registration : Registration Float} (h : registration.Valid) :
    Restores Registration.ofData registration.toData registration := by
  refine .record fun fields kept => ?_
  have hkey := kept.field "identity_key" rfl (restores_nonEmptyText h.key)
  have hscene := kept.field "scene_index" rfl (restores_integerFrom h.scene)
  have hbounds := kept.field "bounds" rfl (Rect.restores h.bounds)
  have hrotation := kept.fieldOr "rotation" 0.0 rfl (restores_number registration.rotation)
  have hscale := kept.fieldOr "scale" 1.0 rfl (restores_number registration.scale)
  rw [hkey, hscene, hbounds, hrotation, hscale]
  rfl

/-! ## Transitions -/

theorem Curve.restores (curve : Curve) : Restores Curve.ofData (.text curve.name) curve :=
  restores_choice (by cases curve <;> rfl)

theorem SourceKind.restores (kind : SourceKind) :
    Restores (choice SourceKind.all SourceKind.name) (.text kind.name) kind :=
  restores_choice (by cases kind <;> rfl)

theorem SyncBehavior.restores (behavior : SyncBehavior) :
    Restores (choice SyncBehavior.all SyncBehavior.name) (.text behavior.name) behavior :=
  restores_choice (by cases behavior <;> rfl)

theorem WipeDirection.restores (direction : WipeDirection) :
    Restores (choice WipeDirection.all WipeDirection.name) (.text direction.name) direction :=
  restores_choice (by cases direction <;> rfl)

namespace Form

/-- No two forms share a kind. -/
theorem eq_ofKind {form : Form} {kind : String} (hform : form ∈ all) (hkind : kind ∈ form.kinds) :
    form = ofKind kind := by
  simp only [all, List.mem_cons, List.not_mem_nil, or_false] at hform
  rcases hform with rfl | rfl | rfl | rfl | rfl | rfl | rfl
  case inr.inr.inl =>
    simp only [slide, List.mem_cons, List.not_mem_nil, or_false] at hkind
    rcases hkind with rfl | rfl | rfl | rfl <;> rfl
  all_goals
    obtain rfl := List.mem_singleton.mp hkind
    rfl

end Form

/-- An effect has one of the kinds of its form. -/
theorem Effect.kind_mem (effect : Effect Float) :
    effect.kind ∈ (Form.ofKind effect.kind).kinds := by
  cases effect with
  | slide direction => cases direction <;> decide
  | _ => exact List.mem_singleton.mpr rfl

theorem Effect.kind_mem_allKinds (effect : Effect Float) : effect.kind ∈ Form.allKinds :=
  List.mem_flatMap.mpr ⟨_, Form.ofKind_mem _, effect.kind_mem⟩

namespace Transition

def toFields (transition : Transition Float) : Entries Data :=
  [("duration_in_frames", .int transition.duration),
    ("curve", .text transition.curve.name),
    ("kind", .text transition.effect.kind)] ++ transition.effect.ownFields

/-- The effect that the form of its kind reads. -/
theorem effect_restored {transition : Transition Float} (h : transition.effect.Valid)
    {fields : Entries Data} (kept : Kept transition.toFields fields) :
    ∃ effect, (Form.ofKind transition.effect.kind).effect fields = .ok effect ∧
      effect transition.effect.kind = transition.effect := by
  obtain ⟨duration, curve, effect⟩ := transition
  -- by effect, as each form looks for the fields of its own effects only
  cases effect with
  | none => exact ⟨_, rfl, rfl⟩
  | crossFade => exact ⟨_, rfl, rfl⟩
  | slide direction => cases direction <;> exact ⟨_, rfl, rfl⟩
  | scale => exact ⟨_, rfl, rfl⟩
  | wipe direction =>
    have hdirection := kept.fieldOr "direction" .leftToRight rfl (WipeDirection.restores direction)
    exact ⟨_, Checked.map_eq_ok _ hdirection, rfl⟩
  | zoomWarp maxZoom target =>
    have hzoom := kept.fieldOr "max_zoom" 3.0 rfl (restores_numberFrom h.1)
    have htarget := kept.option "target" rfl fun found hfound =>
      Alignment.restores (h.2 found hfound)
    exact ⟨_, Checked.seq_eq_ok (Checked.map_eq_ok _ hzoom) htarget, rfl⟩
  | colorBleed color =>
    have hcolor := kept.fieldOr "color" "#000000" rfl (restores_text color)
    exact ⟨_, Checked.map_eq_ok _ hcolor, rfl⟩

/-- No effect has a field of its own by the name of one that all transitions have. -/
theorem filter_toFields (transition : Transition Float) :
    (transition.toFields.filter fun field => field.1 = "duration_in_frames") =
        [("duration_in_frames", .int transition.duration)] ∧
      (transition.toFields.filter fun field => field.1 = "curve") =
        [("curve", .text transition.curve.name)] ∧
      (transition.toFields.filter fun field => field.1 = "kind") =
        [("kind", .text transition.effect.kind)] := by
  obtain ⟨duration, curve, effect⟩ := transition
  cases effect <;> exact ⟨rfl, rfl, rfl⟩

/-- The fields of a transition are restored by the form that they were written with. -/
theorem fields_restored {transition : Transition Float} (h : transition.Valid)
    {fields : Entries Data} (kept : Kept transition.toFields fields) :
    (Form.ofKind transition.effect.kind).ofFields fields = .ok transition := by
  obtain ⟨hdurationField, hcurveField, hkindField⟩ := transition.filter_toFields
  have hduration := kept.fieldOr "duration_in_frames" (Form.ofKind transition.effect.kind).duration
    hdurationField (restores_integerFrom h.duration)
  have hcurve := kept.fieldOr "curve" (Form.ofKind transition.effect.kind).curve hcurveField
    transition.curve.restores
  have hkind := kept.kind _ hkindField transition.effect.kind_mem
  obtain ⟨effect, heffect, happlied⟩ := effect_restored h.effect kept
  rw [Form.ofFields, hduration, hcurve, hkind, heffect]
  show Checked.ok (Transition.mk _ _ (effect _)) = _
  rw [happlied]

/-- A transition is restored by the reader of its form alone, where the form is known beforehand. -/
theorem restores_form {form : Form} (hform : form ∈ Form.all) {transition : Transition Float}
    (hkind : transition.effect.kind ∈ form.kinds) (h : transition.Valid) :
    Restores form.ofData transition.toData transition := by
  obtain rfl := Form.eq_ofKind hform hkind
  exact .record fun fields kept => fields_restored h kept

/-- A transition is written with its kind, by which its form is found again. -/
theorem restores {transition : Transition Float} (h : transition.Valid) :
    Restores Transition.ofData transition.toData transition := by
  obtain ⟨-, -, hkindField⟩ := transition.filter_toFields
  exact .variant hkindField transition.effect.kind_mem_allKinds fun fields kept =>
    fields_restored h kept

end Transition

/-! ## Audio -/

theorem Anchor.restores {anchor : Anchor} (h : anchor.Valid) :
    Restores Anchor.ofData anchor.toData anchor := by
  refine .record fun fields kept => ?_
  have hstart := kept.field "start_frame" rfl (restores_integerFrom h.start)
  have hstop := kept.option "end_frame" rfl fun stop _ => restores_integer stop
  rw [hstart, hstop]
  exact Checked.demand_eq_ok rfl
    (Option.all_eq_true _ _ |>.mpr fun stop hstop => decide_eq_true (h.stop stop hstop))

theorem AudioSource.restores {source : AudioSource} (h : source.path.isEmpty = false) :
    Restores AudioSource.ofData source.toData source := by
  refine .record fun fields kept => ?_
  have hkind := kept.fieldOr "type" .file rfl source.kind.restores
  have hpath := kept.field "path" rfl (restores_nonEmptyText h)
  rw [hkind, hpath]
  rfl

theorem Sync.restores (sync : Sync) : Restores Sync.ofData sync.toData sync := by
  refine .record fun fields kept => ?_
  have hstart := kept.option "sync_start_anchor" rfl fun name _ => restores_text name
  have hend := kept.option "sync_end_anchor" rfl fun name _ => restores_text name
  have hstartOffset := kept.fieldOr "start_offset" 0 rfl (restores_integer sync.startOffset)
  have hendOffset := kept.fieldOr "end_offset" 0 rfl (restores_integer sync.endOffset)
  have hbehavior := kept.fieldOr "behavior" .stopWhenEnds rfl sync.behavior.restores
  rw [hstart, hend, hstartOffset, hendOffset, hbehavior]
  rfl

theorem Track.restores {track : Track} (h : track.Valid) :
    Restores Track.ofData track.toData track := by
  refine .record fun fields kept => ?_
  have hid := kept.option "id" rfl fun id _ => restores_text id
  have hsource := kept.field "source" rfl (AudioSource.restores h.path)
  have hstart := kept.fieldOr "start_frame" 0 rfl (restores_integerFrom h.start)
  have hduration := kept.option "duration_in_frames" rfl fun frames hframes =>
    restores_integerFrom (h.duration frames hframes)
  have htrimStart := kept.fieldOr "trim_start_frame" 0 rfl (restores_integerFrom h.trimStart)
  have htrimEnd := kept.option "trim_end_frame" rfl fun stop hstop =>
    -- that the end of the trim is not negative follows from its start, before which it never is
    restores_integerFrom (Int.le_trans h.trimStart (Int.le_of_lt (h.trimEnd stop hstop)))
  have hvolume := kept.fieldOr "volume" 1.0 rfl (restores_numberWithin h.volume)
  have hfadeIn := kept.fieldOr "fade_in_frames" 0 rfl (restores_integerFrom h.fadeIn)
  have hfadeOut := kept.fieldOr "fade_out_frames" 0 rfl (restores_integerFrom h.fadeOut)
  have hloop := kept.fieldOr "loop" false rfl (restores_truth track.loop)
  have hsync := kept.option "sync" rfl fun sync _ => sync.restores
  rw [hid, hsource, hstart, hduration, htrimStart, htrimEnd, hvolume, hfadeIn, hfadeOut, hloop,
    hsync]
  -- the two ends of the trim are compared after all fields have been read
  exact Checked.demand_eq_ok rfl
    (Option.all_eq_true _ _ |>.mpr fun stop hstop => decide_eq_true (h.trimEnd stop hstop))

theorem Music.restores {music : Music} (h : music.Valid) :
    Restores Music.ofData music.toData music := by
  refine .record fun fields kept => ?_
  have hsource := kept.field "source" rfl (AudioSource.restores h.path)
  have hvolume := kept.fieldOr "volume" 1.0 rfl (restores_numberWithin h.volume)
  have hfadeIn := kept.fieldOr "fade_in_frames" 30 rfl (restores_integerFrom h.fadeIn)
  have hfadeOut := kept.fieldOr "fade_out_frames" 30 rfl (restores_integerFrom h.fadeOut)
  have hloop := kept.fieldOr "loop" true rfl (restores_truth music.loop)
  rw [hsource, hvolume, hfadeIn, hfadeOut, hloop]
  rfl

/-! ## Nodes -/

theorem Clip.restores {clip : Clip} (h : clip.Valid) : Restores Clip.ofData clip.toData clip := by
  refine .record fun fields kept => ?_
  have hid := kept.option "id" rfl fun id _ => restores_text id
  have hpath := kept.field "path" rfl (restores_nonEmptyText h.path)
  have hstart := kept.fieldOr "start_frame" 0 rfl (restores_integerFrom h.start)
  have hduration := kept.option "duration_in_frames" rfl fun frames hframes =>
    restores_integerFrom (h.duration frames hframes)
  have htrim := kept.fieldOr "trim_start_seconds" 0.0 rfl (restores_numberFrom h.trimStart)
  have hwidth := kept.fieldOr "width" 640 rfl (restores_positive h.width)
  have hheight := kept.fieldOr "height" 360 rfl (restores_positive h.height)
  have hposition := kept.fieldOr "position" ⟨0.0, 0.0⟩ rfl clip.position.restores
  have haudio := kept.fieldOr "include_audio" true rfl (restores_truth clip.includeAudio)
  have hvolume := kept.fieldOr "audio_volume" 1.0 rfl (restores_numberWithin h.volume)
  have hfadeIn := kept.fieldOr "audio_fade_in_frames" 0 rfl (restores_integerFrom h.fadeIn)
  have hfadeOut := kept.fieldOr "audio_fade_out_frames" 0 rfl (restores_integerFrom h.fadeOut)
  rw [hid, hpath, hstart, hduration, htrim, hwidth, hheight, hposition, haudio, hvolume, hfadeIn,
    hfadeOut]
  rfl

/-- A leaf is restored from fields that keep what was written. -/
theorem Leaf.fields_restored {leaf : Leaf} (h : leaf.Valid) {written fields : Entries Data}
    (hwritten : leaf.toData = .object written) (kept : Kept written fields) :
    Leaf.ofFields fields = .ok leaf := by
  obtain rfl : _ = written := Data.object.inj hwritten
  have hkind := kept.kind ["leaf"] rfl List.mem_cons_self
  have hname := kept.fieldOr "name" "" rfl (restores_text leaf.name)
  have hkey := kept.option "hero_key" rfl fun key _ => restores_text key
  have hbounds := kept.option "bounds" rfl fun rect hrect => Rect.restores (h.bounds rect hrect)
  have hrotation := kept.fieldOr "rotation" 0.0 rfl (restores_number leaf.rotation)
  have hscale := kept.fieldOr "scale" 1.0 rfl (restores_number leaf.scale)
  rw [Leaf.ofFields, hkind, hname, hkey, hbounds, hrotation, hscale]
  -- the bounds that a hero needs were there when the leaf was written
  refine Checked.demand_eq_ok rfl ?_
  have hbounded := h.bounded
  cases hleaf : leaf.heroKey
  · rfl
  · simpa [hleaf] using hbounded

theorem Mark.fields_restored {mark : Mark} (h : mark.Valid) {written fields : Entries Data}
    (hwritten : mark.toData = .object written) (kept : Kept written fields) :
    Mark.ofFields fields = .ok mark := by
  obtain rfl : _ = written := Data.object.inj hwritten
  have hkind := kept.kind ["anchor"] rfl List.mem_cons_self
  have hid := kept.field "anchor_id" rfl (restores_nonEmptyText h.anchorId)
  have hstart := kept.fieldOr "start_frame" 0 rfl (restores_integer mark.start)
  have hduration := kept.option "duration_in_frames" rfl fun frames hframes =>
    restores_integerFrom (h.duration frames hframes)
  have hafter := kept.fieldOr "after_parent_entry" false rfl (restores_truth mark.afterParentEntry)
  rw [Mark.ofFields, hkind, hid, hstart, hduration, hafter]
  rfl

theorem Group.fields_restored {group : Group} (h : group.Valid) {children : Data}
    {fields : Entries Data} (kept : Kept (group.toFields ++ [("children", children)]) fields) :
    Group.ofFields fields = .ok group := by
  have hkind := kept.kind ["container"] rfl List.mem_cons_self
  have hname := kept.fieldOr "name" "" rfl (restores_text group.name)
  have hstart := kept.fieldOr "start_frame" 0 rfl (restores_integer group.start)
  have hduration := kept.option "duration_in_frames" rfl fun frames hframes =>
    restores_integerFrom (h.duration frames hframes)
  have hentry := kept.fieldOr "entry_duration" 0 rfl (restores_integerFrom h.entryDuration)
  have hexit := kept.fieldOr "exit_duration" 0 rfl (restores_integerFrom h.exitDuration)
  have hoffset := kept.fieldOr "offset_frames" 0 rfl (restores_integer group.offset)
  have hafter := kept.fieldOr "after_parent_entry" false rfl (restores_truth group.afterParentEntry)
  rw [Group.ofFields, hkind, hname, hstart, hduration, hentry, hexit, hoffset, hafter]
  rfl

namespace Node

/-- The items of a list of nodes are read like those of any other list. -/
theorem listOfItems_eq_items (index : ℕ) (entries : List Data) :
    listOfItems index entries = items ofData index entries := by
  induction entries generalizing index with
  | nil => rfl
  | cons item rest ih => rw [listOfItems, items, ih]

theorem listOfData_eq_list : listOfData = list ofData := by
  funext d
  cases d with
  | list entries => rw [listOfData, list, listOfItems_eq_items]
  | _ => simp only [listOfData, list]

theorem listToData_eq_map (nodes : List Node) : listToData nodes = nodes.map toData := by
  induction nodes with
  | nil => rfl
  | cons node rest ih => rw [listToData, List.map_cons, ih]

/-- A node is read like any record that is told apart by its kind. -/
theorem ofData_eq_variant :
    ofData = variant kinds fun kind fields => ofFields kind fields (childrenAmong fields) := by
  funext d
  cases d with
  | object fields => rw [ofData, variant]
  | _ => simp only [ofData, variant]

/-- The children are looked up under their name like any other field. -/
theorem childrenAmong_eq (fields : Entries Data) :
    childrenAmong fields = (Entries.get? "children" fields).elim (pure []) listOfData := by
  induction fields with
  | nil => rfl
  | cons field rest ih =>
    obtain ⟨name, value⟩ := field
    rw [childrenAmong, Entries.get?, ih]
    split <;> rfl

/-- The children of a group are read like any other of its fields. -/
theorem under_childrenAmong (fields : Entries Data) :
    (childrenAmong fields).under (.field "children") =
      fieldOr fields "children" [] (list ofData) := by
  rw [childrenAmong_eq, fieldOr, listOfData_eq_list]

/-- The children of a node are restored if each of them is. -/
theorem restores_children {nodes : List Node}
    (h : ∀ node ∈ nodes, Restores ofData node.toData node) :
    Restores (list ofData) (.list (listToData nodes)) nodes := by
  rw [listToData_eq_map]
  exact restores_list h

theorem clip_restored {clip : Clip} {afterParentEntry : Bool} (h : clip.Valid)
    {written fields : Entries Data}
    (hwritten : (Node.clip clip afterParentEntry).toData = .object written)
    (kept : Kept written fields) :
    clipOfFields fields = .ok (.clip clip afterParentEntry) := by
  obtain rfl : _ = written := Data.object.inj hwritten
  have hkind := kept.kind ["embedded_video"] rfl List.mem_cons_self
  have hvideo := kept.field "video" rfl (Clip.restores h)
  have hafter := kept.fieldOr "after_parent_entry" false rfl (restores_truth afterParentEntry)
  rw [clipOfFields, hkind, hvideo, hafter]
  rfl

/-- A group is restored when its children are. -/
theorem group_restored {own : Group} {children : List Node} (h : own.Valid)
    (hchildren : ∀ child ∈ children, Restores ofData child.toData child) {fields : Entries Data}
    (kept : Kept (own.toFields ++ [("children", .list (listToData children))]) fields) :
    groupOfFields fields (childrenAmong fields) = .ok (.group own children) := by
  have hown := Group.fields_restored h kept
  have hchildren := kept.fieldOr "children" [] rfl (restores_children hchildren)
  rw [groupOfFields, under_childrenAmong, hown, hchildren]
  rfl

/-- **A valid node is restored**, and with it the whole tree below it. -/
theorem restores {node : Node} (h : node.Valid) : Restores ofData node.toData node := by
  rw [ofData_eq_variant]
  induction h with
  | @group own children hown _ ih =>
    -- the children are read by `ofData` again, each by the kind that was written for it
    rw [← ofData_eq_variant] at ih
    rw [toData]
    refine .variant rfl List.mem_cons_self fun fields kept => ?_
    exact group_restored hown ih kept
  | @clip own afterParentEntry hown =>
    refine .variant rfl (by decide) fun fields kept => ?_
    exact clip_restored hown rfl kept
  | leaf hown =>
    refine .variant rfl (by decide) fun fields kept => ?_
    exact Checked.map_eq_ok _ (Leaf.fields_restored hown rfl kept)
  | mark hown =>
    refine .variant rfl (by decide) fun fields kept => ?_
    exact Checked.map_eq_ok _ (Mark.fields_restored hown rfl kept)

/-! ### Nodes of a known kind -/

theorem restores_clip {own : Clip} {afterParentEntry : Bool} (h : own.Valid) :
    Restores clipOfData (toData (.clip own afterParentEntry)) (.clip own afterParentEntry) :=
  .record fun _ kept => clip_restored h rfl kept

theorem restores_leaf {own : Leaf} (h : own.Valid) :
    Restores leafOfData (toData (.leaf own)) (.leaf own) :=
  .record fun _ kept => Checked.map_eq_ok _ (Leaf.fields_restored h rfl kept)

theorem restores_mark {own : Mark} (h : own.Valid) :
    Restores markOfData (toData (.mark own)) (.mark own) :=
  .record fun _ kept => Checked.map_eq_ok _ (Mark.fields_restored h rfl kept)

theorem restores_group {own : Group} {children : List Node} (h : own.Valid)
    (hchildren : ∀ child ∈ children, child.Valid) :
    Restores groupOfData (toData (.group own children)) (.group own children) := by
  rw [toData]
  exact .record fun _ kept =>
    group_restored h (fun child hchild => restores (hchildren child hchild)) kept

end Node

/-! ## Compositions and manifests -/

theorem Scene.restores {scene : Scene} (h : scene.Valid) :
    Restores Scene.ofData scene.toData scene := by
  refine .record fun fields kept => ?_
  have hname := kept.fieldOr "name" "" rfl (restores_text scene.name)
  have hduration := kept.field "duration_in_frames" rfl (restores_positive h.duration)
  have hentry := kept.option "transition_in" rfl fun transition htransition =>
    Transition.restores (h.transitionIn transition htransition)
  have hexit := kept.option "transition_out" rfl fun transition htransition =>
    Transition.restores (h.transitionOut transition htransition)
  have hfadeIn := kept.option "fade_in_frames" rfl fun frames hframes =>
    restores_integerFrom (h.fadeIn frames hframes)
  have hfadeOut := kept.option "fade_out_frames" rfl fun frames hframes =>
    restores_integerFrom (h.fadeOut frames hframes)
  -- the tree below the scene is restored node by node
  have hchildren := kept.fieldOr "children" [] rfl
    (Node.restores_children fun node hnode => Node.restores (h.children node hnode))
  rw [hname, hduration, hentry, hexit, hfadeIn, hfadeOut, Node.listOfData_eq_list, hchildren]
  rfl

theorem Composition.restores {composition : Composition} (h : composition.Valid) :
    Restores Composition.ofData composition.toData composition := by
  refine .record fun fields kept => ?_
  have hfps := kept.fieldOr "fps" 30 rfl (restores_positive h.fps)
  have hwidth := kept.fieldOr "width" 1920 rfl (restores_positive h.width)
  have hheight := kept.fieldOr "height" 1080 rfl (restores_positive h.height)
  have hscenes := kept.fieldOr "scenes" [] rfl
    (restores_list fun scene hscene => Scene.restores (h.scenes scene hscene))
  have htransition := kept.option "default_transition" rfl fun transition htransition =>
    Transition.restores (h.defaultTransition transition htransition)
  have htracks := kept.fieldOr "audio_tracks" [] rfl
    (restores_list fun track htrack => Track.restores (h.tracks track htrack))
  have hmusic := kept.option "background_music" rfl fun music hmusic =>
    Music.restores (h.music music hmusic)
  have hanchors := kept.fieldOr "anchors" Table.empty rfl
    (restores_table fun entry hentry => Anchor.restores (h.anchors entry hentry))
  rw [hfps, hwidth, hheight, hscenes, htransition, htracks, hmusic, hanchors]
  rfl

theorem Quality.restores (quality : Quality) :
    Restores (choice Quality.all Quality.name) (.text quality.name) quality :=
  restores_choice (by cases quality <;> rfl)

theorem FrameFormat.restores (format : FrameFormat) :
    Restores (choice FrameFormat.all FrameFormat.name) (.text format.name) format :=
  restores_choice (by cases format <;> rfl)

theorem Preset.restores (preset : Preset) :
    Restores Preset.ofData (.text preset.name) preset :=
  ⟨nofun, by cases preset <;> rfl⟩

/-- The bitrate is always written, so that in force when the settings are read back is not taken. -/
theorem Encoding.restores (bitrate : String) {encoding : Encoding} (h : encoding.Valid) :
    Restores (Encoding.ofData bitrate) encoding.toData encoding := by
  refine .record fun fields kept => ?_
  have hquality := kept.fieldOr "quality" .medium rfl encoding.quality.restores
  have hformat := kept.fieldOr "frame_format" .rawRgba rfl encoding.frameFormat.restores
  have hwidth := kept.field "width" rfl (restores_positive h.width)
  have hheight := kept.field "height" rfl (restores_positive h.height)
  have hfps := kept.field "fps" rfl (restores_positive h.fps)
  have hcrf := kept.option "crf_override" rfl fun crf hcrf =>
    restores_integerWithin (h.crfOverride crf hcrf)
  have hpreset := kept.option "preset_override" rfl fun preset _ => preset.restores
  have hcodec := kept.fieldOr "video_codec" "libx264" rfl (restores_text encoding.videoCodec)
  have hpixels := kept.fieldOr "pixel_format" "yuv420p" rfl (restores_text encoding.pixelFormat)
  have haudio := kept.fieldOr "audio_codec" "aac" rfl (restores_text encoding.audioCodec)
  have hbitrate := kept.fieldOr "audio_bitrate" bitrate rfl (restores_text encoding.audioBitrate)
  have hoverlay := kept.fieldOr "overlay_embedded_videos" true rfl
    (restores_truth encoding.overlayClips)
  have hstart := kept.fieldOr "faststart" true rfl (restores_truth encoding.faststart)
  rw [hquality, hformat, hwidth, hheight, hfps, hcrf, hpreset, hcodec, hpixels, haudio, hbitrate,
    hoverlay, hstart]
  rfl

theorem Manifest.restores (bitrate : String) {manifest : Manifest} (h : manifest.Valid) :
    Restores (Manifest.ofData bitrate) manifest.toData manifest := by
  refine .record fun fields kept => ?_
  have hvideo := kept.field "video" rfl (Composition.restores h.composition)
  have hpath := kept.field "output_path" rfl (restores_nonEmptyText h.outputPath)
  have hencoding := kept.option "encoding" rfl fun encoding hencoding =>
    Encoding.restores bitrate (h.encoding encoding hencoding)
  have hanchors := kept.fieldOr "anchors" Table.empty rfl
    (restores_table fun entry hentry => Anchor.restores (h.anchors entry hentry))
  rw [hvideo, hpath, hencoding, hanchors]
  rfl

/-! ## Timelines -/

theorem PlacedScene.restores {scene : PlacedScene Float} (h : scene.Sound) :
    Restores PlacedScene.ofData scene.toData scene := by
  refine .record fun fields kept => ?_
  have hindex := kept.field "index" rfl (restores_integerFrom h.index)
  have hname := kept.fieldOr "name" "" rfl (restores_text scene.name)
  have hstart := kept.field "absolute_start" rfl (restores_integerFrom h.start)
  have hstop := kept.field "absolute_end" rfl (restores_integerFrom h.stop)
  have hentry := kept.option "transition_in" rfl fun transition htransition =>
    Transition.restores (h.transitionIn transition htransition)
  have hexit := kept.option "transition_out" rfl fun transition htransition =>
    Transition.restores (h.transitionOut transition htransition)
  have hfadeIn := kept.fieldOr "fade_in_frames" 0 rfl (restores_integerFrom h.fadeIn)
  have hfadeOut := kept.fieldOr "fade_out_frames" 0 rfl (restores_integerFrom h.fadeOut)
  rw [hindex, hname, hstart, hstop, hentry, hexit, hfadeIn, hfadeOut]
  rfl

theorem Timeline.restores {timeline : Timeline} (h : timeline.Sound) :
    Restores Timeline.ofData timeline.toData timeline := by
  refine .record fun fields kept => ?_
  have hfps := kept.field "fps" rfl (restores_positive h.fps)
  have hwidth := kept.field "width" rfl (restores_positive h.width)
  have hheight := kept.field "height" rfl (restores_positive h.height)
  have hframes := kept.field "total_frames" rfl (restores_integerFrom h.totalFrames)
  have hscenes := kept.fieldOr "scenes" [] rfl
    (restores_list fun scene hscene => PlacedScene.restores (h.transitions scene hscene))
  have htracks := kept.fieldOr "audio_tracks" [] rfl
    (restores_list fun track htrack => Track.restores (h.tracks track htrack))
  have hclips := kept.fieldOr "embedded_videos" [] rfl
    (restores_list fun clip hclip => Clip.restores (h.clips clip hclip))
  have hanchors := kept.fieldOr "anchors" Table.empty rfl
    (restores_table fun entry hentry => Anchor.restores (h.anchors entry hentry))
  rw [hfps, hwidth, hheight, hframes, hscenes, htracks, hclips, hanchors]
  rfl

end Montage
