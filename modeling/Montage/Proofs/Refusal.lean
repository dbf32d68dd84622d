import Mathlib.Data.Int.Notation
import Mathlib.Data.Nat.Notation
import Montage.Proofs.Content.Start
import Montage.Proofs.Resolution

/-!
# How a composition fails to resolve

A valid composition whose leaves have no empty keys fails to resolve in two ways only: where a clip
or an anchor would start before frame 0, and where the references of a track fail it. What fails
first is reported, all nodes coming before all tracks, the nodes in the order of the walk and the
tracks after the background music in their own (`Composition.resolve_fails_first`).

Nothing else can go wrong, as all that is built on the way keeps to its bounds (`Bounded`): windows
of any depth are never inverted, and so neither are the anchors that last to their ends.
-/

namespace Montage

/-! ## Nodes -/

/-- Whatever would start before frame 0 is refused by name. -/
theorem Placed.startingAt_eq_error_iff {what : Placed} {start : ℤ} {failure : Failure} :
    what.startingAt start = .error failure ↔
      start < 0 ∧ failure = .configuration (.negativeStart what start) := by
  rw [startingAt]
  split <;> simp [*, eq_comm]

/-- The node of a site would start before frame 0. -/
def Site.Fails (site : Site) (failure : Failure) : Prop :=
  ∃ what start, site.placed? = some (what, start) ∧ start < 0 ∧
    failure = .configuration (.negativeStart what start)

/-- What is placed at a site fails as it would start too early. -/
theorem Site.fails_iff {site : Site} {what : Placed} {start : ℤ} {failure : Failure}
    (h : site.placed? = some (what, start)) :
    site.Fails failure ↔ what.startingAt start = .error failure := by
  simp [Fails, h, Placed.startingAt_eq_error_iff]

/-- The failure for a hero whose key is empty. -/
def Failure.emptyKey : Failure :=
  .invalid [⟨[.field "identity_key"], .emptyText⟩]

/-- The node of a site is refused: it would start before frame 0, or is a leaf with an empty key. -/
inductive Site.Refused (site : Site) : Failure → Prop
  | early {failure : Failure} (hfails : site.Fails failure) : Refused site failure
  | emptyKey {leaf : Leaf} (hnode : site.node = .leaf leaf) (hkey : leaf.heroKey = some "") :
      Refused site .emptyKey

/-- With hero keys that are not empty, only an early start is refused. -/
theorem Site.refused_iff_fails {site : Site}
    (h : ∀ leaf, site.node = .leaf leaf → leaf.heroKey ≠ some "") (failure : Failure) :
    site.Refused failure ↔ site.Fails failure := by
  refine ⟨?_, .early⟩
  rintro (hfails | ⟨hnode, hkey⟩)
  · exact hfails
  · exact absurd hkey (h _ hnode)

/-! ### Leaves -/

namespace Leaf

variable {leaf : Leaf} {key : String} {rect : Rect Float}

/-- A leaf with a key and bounds is registered under its key. -/
theorem register?_of_key (hkey : leaf.heroKey = some key) (hnamed : key.isEmpty = false)
    (hbounds : leaf.bounds = some rect) (scene : ℤ) :
    leaf.register? scene = .ok (some ⟨key, scene, rect, leaf.rotation, leaf.scale⟩) := by
  have hdemand : (Checked.ok key).demand (!·.isEmpty) .emptyText = .ok key :=
    if_pos (by simpa using hnamed)
  rw [register?.eq_def, hkey, hbounds]
  simp only [hdemand]
  rfl

theorem register?_of_no_key (hkey : leaf.heroKey = none) (scene : ℤ) :
    leaf.register? scene = .ok none := by
  rw [register?.eq_def, hkey]

/-- An empty key is refused when the hero is registered, and not when the leaf is read. -/
theorem register?_of_empty_key (hkey : leaf.heroKey = some "") (hbounds : leaf.bounds = some rect)
    (scene : ℤ) : leaf.register? scene = .error .emptyKey := by
  rw [register?.eq_def, hkey, hbounds]
  rfl

/-- A valid leaf without an empty key is registered, if it has a key, as a valid hero. -/
theorem exists_register? (h : leaf.Valid) (hkey : leaf.heroKey ≠ some "") (scene : ℤ) :
    ∃ found, leaf.register? scene = .ok found ∧
      ∀ registration ∈ found, 0 ≤ scene → registration.Valid := by
  rcases hown : leaf.heroKey with _ | key
  · exact ⟨none, register?_of_no_key hown scene, nofun⟩
  · obtain ⟨rect, hrect⟩ := Option.isSome_iff_exists.mp (h.bounded (by rw [hown]; rfl))
    have hnamed : key.isEmpty = false := by
      rw [String.isEmpty_eq_false_iff]
      rintro rfl
      exact hkey hown
    refine ⟨_, register?_of_key hown hnamed hrect scene, ?_⟩
    rintro _ ⟨⟩ hscene
    exact ⟨hnamed, hscene, h.bounds rect hrect⟩

/-- A valid leaf is not registered only when its key is empty. -/
theorem register?_eq_error_iff (h : leaf.Valid) {scene : ℤ} {failure : Failure} :
    leaf.register? scene = .error failure ↔ leaf.heroKey = some "" ∧ failure = .emptyKey := by
  by_cases hkey : leaf.heroKey = some ""
  · obtain ⟨rect, hrect⟩ := Option.isSome_iff_exists.mp (h.bounded (by rw [hkey]; rfl))
    rw [register?_of_empty_key hkey hrect]
    simp [hkey, eq_comm]
  · obtain ⟨found, hfound, -⟩ := exists_register? h hkey scene
    simp [hfound, hkey]

end Leaf

/-! ### Visits -/

/-- **A visit fails when its node is refused**, whatever has been found before it. -/
theorem Content.add_eq_error_iff {site : Site} (hnode : site.node.Valid) (content : Content)
    (failure : Failure) : content.add site.visit = .error failure ↔ site.Refused failure := by
  have hvisit : site.visit.node = site.node := rfl
  have hscene : site.visit.scene = site.place.index := rfl
  -- each kind of node is placed by one computation, and adding what it gives cannot fail
  rw [add_eq, hvisit]
  rcases hown : site.node with ⟨own, children⟩ | ⟨own, afterParentEntry⟩ | own | own
  · rw [site.refused_iff_fails (by simp [hown])]
    simp [Site.Fails, Site.placed?, hown]
  · rw [site.refused_iff_fails (by simp [hown]), site.fails_iff (by rw [Site.placed?, hown]),
      ← own.map_start_placeIn site, map_eq_error_iff]
    exact bind_eq_error_iff.trans (or_iff_left (by rintro ⟨clip, -, ⟨⟩⟩))
  · rw [hown] at hnode
    cases hnode with
    | leaf hvalid =>
      refine (bind_eq_error_iff.trans (or_iff_left (by rintro ⟨found, -, ⟨⟩⟩))).trans ?_
      rw [hscene, Leaf.register?_eq_error_iff hvalid]
      constructor
      · rintro ⟨hkey, rfl⟩
        exact .emptyKey hown hkey
      · rintro (⟨what, start, hplaced, -⟩ | ⟨hother, hkey⟩)
        · rw [Site.placed?, hown] at hplaced
          cases hplaced
        · rw [hown, Node.leaf.injEq] at hother
          exact ⟨hother ▸ hkey, rfl⟩
  · rw [site.refused_iff_fails (by simp [hown]), site.fails_iff (by rw [Site.placed?, hown]),
      ← own.map_start_placeIn site, map_eq_error_iff]
    exact bind_eq_error_iff.trans (or_iff_left (by rintro ⟨anchor, -, ⟨⟩⟩))

/-! ## What is built on the way -/

/-- A timing context that keeps to its bounds and does not stop before it starts. -/
structure TimingContext.Sound (context : TimingContext) : Prop extends context.Valid where
  ordered : ∀ stop ∈ context.stop, context.start ≤ stop

/-- A group opens a sound window in any window, also in one that it starts after. -/
theorem TimingContext.child_sound (context : TimingContext) {group : Group} (h : group.Valid) :
    (context.child group).Sound := by
  refine ⟨⟨h.entryDuration, h.exitDuration⟩, fun stop hstop => ?_⟩
  obtain ⟨limit, -, rfl⟩ := Option.map_eq_some_iff.mp hstop
  exact Int.le_max_right _ _

/-- Scenes of valid durations are placed with their bounds in order. -/
theorem Scene.assembleFrom_ordered {fallback : Option (Transition Float)} {scenes : List Scene}
    (h : ∀ scene ∈ scenes, scene.Valid) (index : ℕ) (start : ℤ) :
    ∀ place ∈ assembleFrom fallback index start scenes, place.start ≤ place.stop := by
  induction scenes generalizing index start with
  | nil => simp [assembleFrom]
  | cons scene rest ih =>
    obtain ⟨hscene, hrest⟩ := List.forall_mem_cons.mp h
    refine List.forall_mem_cons.mpr ⟨?_, ih hrest _ _⟩
    have := hscene.duration
    show start ≤ start + scene.duration
    omega

/-- The window of a scene is as long as its phases and its frames say. -/
theorem PlacedScene.context_sound {place : PlacedScene Float} (h : place.Sound)
    (hordered : place.start ≤ place.stop) : place.context.Sound := by
  have hnone : ∀ frames ∈ (none : Option ℤ), 0 ≤ frames := by simp
  refine ⟨⟨Scene.fadeLength_nonneg hnone h.transitionIn,
    Scene.fadeLength_nonneg hnone h.transitionOut⟩, ?_⟩
  rintro _ ⟨⟩
  exact hordered

/-- All windows inside a sound one are sound. -/
theorem Node.Valid.window_sound {node : Node} (h : node.Valid) {place : PlacedScene Float}
    {groups : List Group} (hwindow : (place.window groups).Sound) {site : Site}
    (hsite : site ∈ node.sites place groups) : site.window.Sound := by
  induction h generalizing groups with
  | @group own children hown hchildren ih =>
    rw [Node.sites, List.mem_cons] at hsite
    rcases hsite with rfl | hbelow
    · exact hwindow
    · obtain ⟨child, hchild, hsite⟩ := mem_sitesOfList hbelow
      refine ih child hchild ?_ hsite
      rw [place.window_concat]
      exact TimingContext.child_sound _ hown
  | clip | leaf | mark =>
    obtain rfl := List.mem_singleton.mp hsite
    exact hwindow

namespace Composition

variable {composition : Composition}

/-- What is built to resolve a composition keeps to its bounds: scenes and their windows, the
windows of groups, anchors, registrations, tracks and the length of all. Only a leaf with an empty
key cannot be registered. -/
structure Bounded (composition : Composition) : Prop where
  scenes : ∀ place ∈ composition.assembled, place.Sound ∧ place.context.Sound
  groups : ∀ site ∈ composition.sites, ∀ own children, site.node = .group own children →
    site.window.Sound ∧ (site.window.child own).Sound
  marks : ∀ site ∈ composition.sites, ∀ own anchor, site.node = .mark own →
    own.placeIn site.window = .ok anchor → anchor.Valid
  leaves : ∀ site ∈ composition.sites, ∀ own, site.node = .leaf own → own.heroKey ≠ some "" →
    ∃ found, own.register? site.place.index = .ok found ∧ ∀ registration ∈ found, registration.Valid
  tracks : ∀ track ∈ composition.allTracks, track.Valid
  totalFrames : 0 ≤ PlacedScene.lastStop composition.assembled

/-- No leaf of the composition has an empty key. -/
def Keyed (composition : Composition) : Prop :=
  ∀ site ∈ composition.sites, ∀ leaf, site.node = .leaf leaf → leaf.heroKey ≠ some ""

/-- How a composition fails to resolve. -/
inductive Fails (extra : Table Anchor) (strict : Bool) (composition : Composition) : Failure → Prop
  /-- The first node that would start before frame 0 is reported, before any track. -/
  | node {failure : Failure} (hfirst : FirstFailure Site.Fails composition.sites failure) :
      Fails extra strict composition failure
  /-- When all nodes can be placed, the first track is reported whose references fail it. -/
  | track {failure : Failure} {content : Content}
      (hnodes : ∀ site ∈ composition.sites, ∀ another, ¬site.Fails another)
      (hcontent : composition.content = .ok content)
      (hfirst : FirstFailure (Track.Fails (composition.anchorTable extra content) strict)
        composition.allTracks failure) :
      Fails extra strict composition failure

section Resolution

variable (h : composition.Valid) (hkeys : composition.Keyed)

include h

theorem Valid.scene_nonneg {site : Site} (hsite : site ∈ composition.sites) :
    0 ≤ site.place.index :=
  (h.assembled _ (composition.place_mem_assembled hsite)).index

/-- All scenes are sound where they are placed, and so are the windows that they open. -/
theorem Valid.scenes_sound :
    ∀ place ∈ composition.assembled, place.Sound ∧ place.context.Sound := by
  intro place hplace
  have hsound := h.assembled place hplace
  have hordered := Scene.assembleFrom_ordered h.scenes 0 0 place hplace
  exact ⟨hsound, PlacedScene.context_sound hsound hordered⟩

theorem Valid.windows_sound : ∀ site ∈ composition.sites, site.window.Sound := by
  intro site hsite
  obtain ⟨⟨scene, place⟩, hzip, hbelow⟩ := List.mem_flatMap.mp hsite
  obtain ⟨hscene, hplace⟩ := List.of_mem_zip hzip
  obtain ⟨node, hnode, hsite⟩ := Node.mem_sitesOfList hbelow
  have hroot : (place.window []).Sound := (h.scenes_sound place hplace).2
  exact ((h.scenes scene hscene).children node hnode).window_sound hroot hsite

/-- The walk fails as the first node that is refused. -/
theorem content_eq_error_iff_refused {failure : Failure} :
    composition.content = .error failure ↔
      FirstFailure Site.Refused composition.sites failure := by
  rw [content_eq, visits_eq_map_sites, Content.ofVisits_eq, List.foldlM_map]
  exact foldlM_eq_error_iff (fun site hsite state another =>
    Content.add_eq_error_iff (h.sites site hsite) state another) Content.empty

/-- Every value that is made on the way keeps to the bounds of its model. -/
theorem Valid.bounded : composition.Bounded where
  scenes := h.scenes_sound
  groups := by
    intro site hsite own children hnode
    refine ⟨h.windows_sound site hsite, ?_⟩
    have hvalid := h.sites site hsite
    rw [hnode] at hvalid
    cases hvalid with
    | group hown => exact TimingContext.child_sound _ hown
  marks := fun _ _ _ _ _ hplaced => Mark.placeIn_valid hplaced
  -- a leaf without a key is registered nowhere, and one with a key has its bounds
  leaves := by
    intro site hsite own hnode hkey
    have hvalid := h.sites site hsite
    rw [hnode] at hvalid
    cases hvalid with
    | leaf hown =>
      obtain ⟨found, hfound, hvalid⟩ := Leaf.exists_register? hown hkey site.place.index
      exact ⟨found, hfound, fun registration hregistration =>
        hvalid registration hregistration (h.scene_nonneg hsite)⟩
  tracks := h.allTracks
  totalFrames := h.lastStop_nonneg

include hkeys

/-- The walk fails as the first node that would start too early. -/
theorem content_eq_error_iff {failure : Failure} : composition.content = .error failure ↔
    FirstFailure Site.Fails composition.sites failure := by
  rw [content_eq_error_iff_refused h]
  exact firstFailure_congr fun site hsite another =>
    site.refused_iff_fails (hkeys site hsite) another

/-- The walk goes to its end when no node would start too early. -/
theorem exists_content_iff : (∃ content, composition.content = .ok content) ↔
    ∀ site ∈ composition.sites, ∀ failure, ¬site.Fails failure :=
  exists_ok_iff_forall fun _ => content_eq_error_iff h hkeys

variable {extra : Table Anchor} {strict : Bool}

/-- A resolution fails with the first failure of its sites, or else of its tracks. -/
theorem resolve_eq_error_iff {failure : Failure} :
    composition.resolve extra strict = .error failure ↔
      composition.Fails extra strict failure := by
  rw [resolve_eq, bind_eq_error_iff, content_eq_error_iff h hkeys]
  constructor
  · rintro (hfirst | ⟨content, hcontent, hrest⟩)
    · exact .node hfirst
    · rcases bind_eq_error_iff.mp hrest with htracks | ⟨tracks, -, ⟨⟩⟩
      have hnodes := (exists_content_iff h hkeys).mp ⟨content, hcontent⟩
      exact .track hnodes hcontent (Track.resolveAll_eq_error_iff.mp htracks)
  · rintro (hfirst | ⟨hnodes, hcontent, hfirst⟩)
    · exact .inl hfirst
    · refine .inr ⟨_, hcontent, ?_⟩
      exact bind_eq_error_iff.mpr (.inl (Track.resolveAll_eq_error_iff.mpr hfirst))

/-- A resolution succeeds just when neither sites nor tracks have a failure. -/
theorem exists_timeline_iff : (∃ timeline, composition.resolve extra strict = .ok timeline) ↔
    (∀ site ∈ composition.sites, ∀ failure, ¬site.Fails failure) ∧
      ∃ content, composition.content = .ok content ∧ ∀ track ∈ composition.allTracks,
        ∀ failure, ¬track.Fails (composition.anchorTable extra content) strict failure := by
  simp only [← exists_content_iff h hkeys,
    ← exists_ok_iff_forall fun _ => Track.resolveAll_eq_error_iff]
  constructor
  · rintro ⟨timeline, htimeline⟩
    obtain ⟨content, tracks, hcontent, htracks, -⟩ := resolve_eq_ok htimeline
    exact ⟨⟨content, hcontent⟩, content, hcontent, tracks, htracks⟩
  · rintro ⟨-, content, hcontent, tracks, htracks⟩
    exact ⟨_, (resolve_eq extra strict composition).trans <|
      bind_eq_ok_iff.mpr ⟨content, hcontent, bind_eq_ok_iff.mpr ⟨tracks, htracks, rfl⟩⟩⟩

end Resolution

/-- **A composition fails to resolve as the first thing in it that fails**: the first node that
would start before frame 0 or, when there is none, the first track whose references fail it. When
there is no such track either it has a timeline, as all that is built on the way keeps to its
bounds. It is assumed that texts are well-formed, as every `String` is: a hero whose key has half of
a surrogate pair in it is not looked at. -/
theorem resolve_fails_first (h : composition.Valid) (hkeys : composition.Keyed)
    (extra : Table Anchor) (strict : Bool) :
    (∀ failure, composition.resolve extra strict = .error failure ↔
      composition.Fails extra strict failure) ∧
    ((∃ timeline, composition.resolve extra strict = .ok timeline) ↔
      (∀ site ∈ composition.sites, ∀ failure, ¬site.Fails failure) ∧
        ∃ content, composition.content = .ok content ∧ ∀ track ∈ composition.allTracks,
          ∀ failure, ¬track.Fails (composition.anchorTable extra content) strict failure) ∧
    composition.Bounded :=
  ⟨fun _ => resolve_eq_error_iff h hkeys, exists_timeline_iff h hkeys, h.bounded⟩

/-- The track of `cued` that ends at an anchor of the caller fails where there is none, and is
reported although a reference of the next track is missing as well. -/
theorem resolve_fails_first_cued : ∃ composition, Composition.ofData cued = .ok composition ∧
    composition.resolve .empty true = .error (.unresolved (.anchor "drop")) ∧
      composition.Fails .empty true (.unresolved (.anchor "drop")) := by
  obtain ⟨composition, hread, hkeys, hresolve⟩ :
      ∃ composition, Composition.ofData cued = .ok composition ∧ composition.Keyed ∧
        composition.resolve .empty true = .error (.unresolved (.anchor "drop")) := by
    refine ⟨_, rfl, ?_, rfl⟩
    refine List.forall_mem_cons.mpr ⟨nofun, List.forall_mem_cons.mpr ⟨nofun, List.forall_mem_nil _⟩⟩
  have hvalid := Composition.ofData_ensures cued composition hread
  exact ⟨composition, hread, hresolve, ((resolve_fails_first hvalid hkeys .empty true).1 _).mp hresolve⟩

end Composition

end Montage
