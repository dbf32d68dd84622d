import Mathlib.Data.Int.Notation
import Mathlib.Data.Nat.Notation
import Montage.Program
import Montage.Proofs.Graph.Failure
import Montage.Proofs.Graph.Shape
import Montage.Proofs.Refusal

/-!
# How a manifest fails to compile

A valid manifest compiles, or fails for a reason that the program reports, with two exceptions
(`Manifest.compile_reported_or_escapes`). A leaf may have an empty key, which is found to be invalid
only when the leaf is registered as a hero; and the start of the part of a clip, or its position,
may be infinite or undefined, and then cannot be written into a filter. Nothing else goes wrong in
what is computed from valid data, and all that is built on the way keeps to its bounds
(`Manifest.Bounded`).
-/

namespace Montage

/-! ## Tracks -/

/-- What keeps a track from being resolved is one of the failures that are reported. -/
theorem Track.resolveSync_eq_error {anchors : Table Anchor} {strict : Bool} {track : Track}
    {failure : Failure} (h : resolveSync anchors strict track = .error failure) :
    Program.isReported failure := by
  rcases resolveSync_eq_error_iff.mp h with _ | _ | _ <;> rfl

/-! ## Timelines -/

theorem Timeline.checkEncoding_eq_error {timeline : Timeline} {encoding : Encoding}
    {failure : Failure} (h : timeline.checkEncoding encoding = .error failure) :
    Program.isReported failure := by
  rw [checkEncoding] at h
  split at h
  · cases h
    rfl
  · split at h
    · cases h
      rfl
    · cases h

/-- A valid composition is not resolved for a reason that is reported, or for an empty key. -/
theorem Composition.resolve_eq_error {composition : Composition} (hvalid : composition.Valid)
    {extra : Table Anchor} {strict : Bool} {failure : Failure}
    (h : composition.resolve extra strict = .error failure) :
    Program.isReported failure ∨ ∃ site ∈ composition.sites, ∃ leaf, site.node = .leaf leaf ∧
      leaf.heroKey = some "" ∧ failure = .emptyKey := by
  rw [resolve_eq] at h
  -- a site, or a track after all of the sites, is what stops a resolution
  rcases bind_eq_error_iff.mp h with hcontent | ⟨content, -, h⟩
  · obtain ⟨site, hsite, hrefused⟩ := ((content_eq_error_iff_refused hvalid).mp hcontent).exists_mem
    cases hrefused with
    | early hfails =>
      obtain ⟨what, start, -, -, rfl⟩ := hfails
      exact .inl rfl
    | emptyKey hnode hkey => exact .inr ⟨site, hsite, _, hnode, hkey, rfl⟩
  · rcases bind_eq_error_iff.mp h with htracks | ⟨tracks, -, h⟩
    · rw [Track.resolveAll_eq] at htracks
      obtain ⟨track, -, herror⟩ := exists_of_mapM_eq_error htracks
      exact .inl (Track.resolveSync_eq_error herror)
    · cases h

/-- The clips on a timeline have the numbers of clips in the scenes. -/
theorem Composition.exists_site_of_clip {composition : Composition} {extra : Table Anchor}
    {strict : Bool} {timeline : Timeline} (h : composition.resolve extra strict = .ok timeline)
    {clip : Clip} (hclip : clip ∈ timeline.clips) :
    ∃ site ∈ composition.sites, ∃ own afterParentEntry,
      site.node = .clip own afterParentEntry ∧ clip.unbounded = own.unbounded := by
  obtain ⟨content, tracks, hcontent, -, rfl⟩ := resolve_eq_ok h
  obtain ⟨site, hsite, own, afterParentEntry, ordinal, hnode, hplaced⟩ :=
    exists_mem_of_forall₂ (clips_of_sites hcontent) hclip
  refine ⟨site, (List.mem_filter.mp hsite).1, own, afterParentEntry, hnode, ?_⟩
  rw [Clip.placeIn] at hplaced
  split at hplaced
  · cases hplaced
  · cases hplaced
    rfl

/-! ## Manifests -/

namespace Manifest

/-- The failures of a manifest that are not reported: one of its leaves has an empty key, or one of
its clips a number that is infinite or undefined. -/
inductive Escapes (manifest : Manifest) : Failure → Prop
  | emptyKey {site : Site} {leaf : Leaf} (hsite : site ∈ manifest.composition.sites)
      (hnode : site.node = .leaf leaf) (hkey : leaf.heroKey = some "") :
      Escapes manifest (.invalid [⟨[.field "identity_key"], .emptyText⟩])
  | notFinite {site : Site} {clip : Clip} {afterParentEntry : Bool} {x : Float}
      (hsite : site ∈ manifest.composition.sites)
      (hnode : site.node = .clip clip afterParentEntry)
      (hx : x ∈ [clip.trimStart, clip.position.x, clip.position.y]) (hfinite : x.isFinite = false) :
      Escapes manifest (.arithmetic (.notRational (floatText x)))

/-- Without empty keys and with finite numbers, every failure is reported. -/
theorem not_escapes {manifest : Manifest} (hkeys : manifest.composition.Keyed)
    (hfinite : ∀ site ∈ manifest.composition.sites, ∀ clip afterParentEntry,
      site.node = .clip clip afterParentEntry → clip.Finite) (failure : Failure) :
    ¬manifest.Escapes failure := by
  rintro (⟨hsite, hnode, hkey⟩ | ⟨hsite, hnode, hx, hnot⟩)
  · exact hkeys _ hsite _ hnode hkey
  · obtain ⟨hstart, hposition, hother⟩ := hfinite _ hsite _ _ hnode
    simp only [List.mem_cons, List.not_mem_nil, or_false] at hx
    rcases hx with rfl | rfl | rfl <;> simp_all

/-- What is built to compile a manifest keeps to its bounds: what the composition is resolved with,
the timeline that comes of it, and the encoder settings. -/
structure Bounded (settings : Settings) (extra : Table Anchor) (strict : Bool)
    (manifest : Manifest) : Prop where
  composition : manifest.composition.Bounded
  timeline : ∀ timeline, manifest.timeline extra strict = .ok timeline → timeline.Sound
  encoding : (manifest.resolvedEncoding settings.audioBitrate).Valid

section Compilation

variable {manifest : Manifest} (hvalid : manifest.Valid) {extra : Table Anchor}
  (hextra : ∀ entry ∈ extra, entry.2.Valid) {settings : Settings} {program : String} {strict : Bool}

include hvalid

/-- Settings that are made up for a composition have its size and rate, which are positive. -/
theorem resolvedEncoding_valid (bitrate : String) : (manifest.resolvedEncoding bitrate).Valid := by
  rw [resolvedEncoding]
  cases hencoding : manifest.encoding with
  | none =>
    have hvideo := hvalid.composition
    exact ⟨hvideo.width, hvideo.height, hvideo.fps, nofun⟩
  | some encoding => exact hvalid.encoding encoding hencoding

include hextra

/-- The timeline of a valid manifest is sound, by the resolution of its composition. -/
theorem timeline_sound {timeline : Timeline} (h : manifest.timeline extra strict = .ok timeline) :
    timeline.Sound := by
  refine Composition.sound_of_resolve hvalid.composition (fun entry hentry => ?_) h
  exact (Table.mem_merge hentry).elim (hvalid.anchors entry) (hextra entry)

/-- Whatever stops a compilation is reported, or it is one of the two failures that escape. -/
theorem compile_eq_error {failure : Failure}
    (h : manifest.compile settings extra program strict = .error failure) :
    Program.isReported failure ∨ manifest.Escapes failure := by
  rw [compile_eq] at h
  rcases bind_eq_error_iff.mp h with htimeline | ⟨timeline, htimeline, h⟩
  · -- before the graph only an empty hero key escapes, and in the graph only a float that is not
    -- finite
    rcases Composition.resolve_eq_error hvalid.composition htimeline with hreported | hkey
    · exact .inl hreported
    · obtain ⟨site, hsite, leaf, hnode, hkey, rfl⟩ := hkey
      exact .inr (.emptyKey hsite hnode hkey)
  · have hsound := timeline_sound hvalid hextra htimeline
    rw [Command.ofTimeline_eq] at h
    rcases hgraph : Graph.compile timeline (manifest.resolvedEncoding settings.audioBitrate) with
      other | graph
    · rw [hgraph] at h
      cases h
      rcases Graph.compile_eq_error hsound.toValid hgraph with hcheck | hclip
      · exact .inl (Timeline.checkEncoding_eq_error hcheck)
      · obtain ⟨clip, hclip, x, hx, hnames⟩ := hclip
        obtain ⟨site, hsite, own, afterParentEntry, hnode, hown⟩ :=
          Composition.exists_site_of_clip htimeline hclip
        rw [hown] at hx
        cases hnames with
        | intro hfinite => exact .inr (.notFinite hsite hnode hx hfinite)
    · rw [hgraph] at h
      cases h

end Compilation

/-- **A valid manifest compiles, or fails for a reason that is reported**, unless a leaf of it has
an empty key or a clip a number that is not finite. All else that is built on the way keeps to its
bounds. It is assumed that texts are well-formed, as every `String` is: a hero whose key has half of
a surrogate pair in it is not looked at, nor is an anchor with such a name. -/
theorem compile_reported_or_escapes {manifest : Manifest} (hvalid : manifest.Valid)
    {extra : Table Anchor} (hextra : ∀ entry ∈ extra, entry.2.Valid) (settings : Settings)
    (program : String) (strict : Bool) :
    (∀ failure, manifest.compile settings extra program strict = .error failure →
      Program.isReported failure ∨ manifest.Escapes failure) ∧
    manifest.Bounded settings extra strict :=
  ⟨fun _ => compile_eq_error hvalid hextra,
    hvalid.composition.bounded, fun _ => timeline_sound hvalid hextra,
    resolvedEncoding_valid hvalid _⟩

/-- Settings of an empty environment. -/
def plain : Settings where
  encoder := "ffmpeg"
  audioBitrate := "192k"
  strictSync := false
  logFile := none

/-- A manifest of one scene with some nodes. -/
def single (nodes : List Data) : Data :=
  .object [
    ("video", .object [
      ("scenes", .list [.object [("duration_in_frames", .int 60), ("children", .list nodes)]])]),
    ("output_path", .text "out.mp4")]

/-- A clip whose position is undefined. -/
def adrift : Data :=
  single [.object [("kind", .text "embedded_video"), ("video", .object [
    ("path", .text "a.mp4"), ("position", .object [("x", .float (0.0 / 0.0))])])]]

/-- The first coordinate of the clip is the number that the failure speaks of. -/
theorem compile_reported_or_escapes_adrift : ∃ manifest,
    Manifest.ofData "192k" adrift = .ok manifest ∧
      manifest.compile plain .empty "" false = .error (.arithmetic (.notRational "nan")) ∧
      manifest.Escapes (.arithmetic (.notRational "nan")) ∧ manifest.Bounded plain .empty false := by
  obtain ⟨manifest, hread, hcompile⟩ : ∃ manifest, Manifest.ofData "192k" adrift = .ok manifest ∧
      manifest.compile plain .empty "" false = .error (.arithmetic (.notRational "nan")) :=
    ⟨_, rfl, rfl⟩
  have hvalid := Manifest.ofData_ensures "192k" adrift manifest hread
  have hnone : ∀ entry ∈ (Table.empty : Table Anchor), entry.2.Valid := by simp
  obtain ⟨herror, hbounded⟩ := compile_reported_or_escapes hvalid hnone plain "" false
  rcases herror _ hcompile with hreported | hescapes
  · cases hreported
  · exact ⟨manifest, hread, hcompile, hescapes, hbounded⟩

/-- A leaf with an empty key, and bounds as every leaf with a key. -/
def unnamed : Data :=
  single [.object [("kind", .text "leaf"), ("hero_key", .text ""), ("bounds", .object [])]]

/-- **A valid manifest may fail for a reason that is not reported**: its leaf is read, and is
invalid as a hero. -/
theorem compile_unnamed : ∃ manifest, Manifest.ofData "192k" unnamed = .ok manifest ∧
    manifest.compile plain .empty "" false = .error (.invalid [⟨[.field "identity_key"], .emptyText⟩]) ∧
      Program.isReported (.invalid [⟨[.field "identity_key"], .emptyText⟩]) = false :=
  ⟨_, rfl, rfl, rfl⟩

end Manifest

end Montage
