import Mathlib.Data.Int.Notation
import Montage.Proofs.Lists
import Montage.Proofs.Results
import Montage.Proofs.Schema.Valid

/-!
# Tracks whose references are resolved

A pass over the anchor references of tracks keeps every track valid, and leaves a reference only
where no anchor that it names can be used, which a strict pass does not allow
(`Track.resolveSync_valid`, `Track.resolveAll_valid`).

A pass over one track fails in three ways (`Track.Fails`): a strict pass at the first reference that
cannot be used, and any pass where the track would start before frame 0 or stop before it starts. It
fails in no other way (`Track.resolveSync_eq_error_iff`).

The frames that the references of a timing stand for are a matter of the table alone
(`Sync.StartsAt`, `Sync.StopsAt`).
-/

namespace Montage

/-- No anchor that the timing names can be used: one for the start is not there, and one for the end
is not there or has no end. -/
def Sync.Unusable (anchors : Table Anchor) (sync : Sync) : Prop :=
  (∀ name ∈ sync.startAnchor, Table.get? name anchors = none) ∧
    ∀ name ∈ sync.endAnchor, ∀ anchor, Table.get? name anchors = some anchor → anchor.stop = none

namespace Sync

variable {anchors : Table Anchor} {sync : Sync} {frame : ℤ}

/-- The start reference of a timing stands for a frame: the table has the anchor that it names. -/
def StartsAt (anchors : Table Anchor) (sync : Sync) (frame : ℤ) : Prop :=
  ∃ name ∈ sync.startAnchor, ∃ anchor, Table.get? name anchors = some anchor ∧
    anchor.start + sync.startOffset = frame

/-- The end reference of a timing stands for a frame: the table has the anchor that it names, and
that anchor has an end. -/
def StopsAt (anchors : Table Anchor) (sync : Sync) (frame : ℤ) : Prop :=
  ∃ name ∈ sync.endAnchor, ∃ anchor, Table.get? name anchors = some anchor ∧
    ∃ stop ∈ anchor.stop, stop + sync.endOffset = frame

theorem startFrame?_eq_some_iff :
    sync.startFrame? anchors = some frame ↔ sync.StartsAt anchors frame := by
  simp [startFrame?, StartsAt, Option.bind_eq_some_iff]

theorem stopFrame?_eq_some_iff :
    sync.stopFrame? anchors = some frame ↔ sync.StopsAt anchors frame := by
  simp [stopFrame?, StopsAt, Option.bind_eq_some_iff]

theorem startFrame?_eq_none_iff : sync.startFrame? anchors = none ↔
    ∀ name ∈ sync.startAnchor, Table.get? name anchors = none := by
  rw [startFrame?]
  rcases sync.startAnchor with _ | name
  · simp
  · cases hfound : Table.get? name anchors <;> simp [hfound]

/-- A stop is missing when it has no name, or its anchor is not there or without an end. -/
theorem stopFrame?_eq_none_iff : sync.stopFrame? anchors = none ↔
    ∀ name ∈ sync.endAnchor, ∀ anchor, Table.get? name anchors = some anchor →
      anchor.stop = none := by
  rw [stopFrame?]
  rcases sync.endAnchor with _ | name
  · simp
  · rcases hfound : Table.get? name anchors with _ | ⟨start, stop⟩
    · simp [hfound]
    · cases stop <;> simp [hfound]

theorem unusable_iff : sync.Unusable anchors ↔
    sync.startFrame? anchors = none ∧ sync.stopFrame? anchors = none := by
  rw [startFrame?_eq_none_iff, stopFrame?_eq_none_iff]
  rfl

/-- Every anchor that the timing names can be used: the one for the start is there, and the one for
the end is there and has an end. -/
def Usable (anchors : Table Anchor) (sync : Sync) : Prop :=
  (∀ name ∈ sync.startAnchor, Table.get? name anchors ≠ none) ∧
    ∀ name ∈ sync.endAnchor, ∃ anchor, Table.get? name anchors = some anchor ∧ anchor.stop ≠ none

/-- The first name in the timing whose anchor cannot be used, the one for the start coming before
the one for the end. -/
inductive FirstUnusable (anchors : Table Anchor) (sync : Sync) : String → Prop
  | start {name : String} (hname : sync.startAnchor = some name)
      (hmissing : Table.get? name anchors = none) : FirstUnusable anchors sync name
  | stop {name : String} (hstart : ∀ first ∈ sync.startAnchor, Table.get? first anchors ≠ none)
      (hname : sync.endAnchor = some name)
      (hmissing : ∀ anchor, Table.get? name anchors = some anchor → anchor.stop = none) :
      FirstUnusable anchors sync name

/-- Without a missing anchor for the start, only the end can be listed. -/
theorem unusable_of_started (h : ∀ name ∈ sync.startAnchor, Table.get? name anchors ≠ none) :
    sync.unusable anchors =
      (sync.endAnchor.filter fun _ => (sync.stopFrame? anchors).isNone).toList := by
  have hfilter : sync.startAnchor.filter (fun _ => (sync.startFrame? anchors).isNone) = none := by
    rw [Option.filter_eq_none_iff]
    intro name hname hnone
    rw [Option.isNone_iff_eq_none, startFrame?_eq_none_iff] at hnone
    exact h name hname (hnone name hname)
  rw [unusable, hfilter]
  rfl

/-- The anchor of the start is named first, whatever is wrong with the other. -/
theorem head?_unusable_of_start {name : String} (hname : sync.startAnchor = some name)
    (hmissing : Table.get? name anchors = none) : (sync.unusable anchors).head? = some name := by
  have hnone : sync.startFrame? anchors = none := by
    rw [startFrame?_eq_none_iff, hname]
    rintro _ ⟨⟩
    exact hmissing
  rw [unusable, hname, hnone]
  rfl

/-- The list of unusable references begins with the first of them. -/
theorem head?_unusable_iff {name : String} :
    (sync.unusable anchors).head? = some name ↔ sync.FirstUnusable anchors name := by
  by_cases hstarted : ∀ first ∈ sync.startAnchor, Table.get? first anchors ≠ none
  · rw [unusable_of_started hstarted, Option.head?_toList, Option.filter_eq_some_iff,
      Option.isNone_iff_eq_none, stopFrame?_eq_none_iff]
    constructor
    · rintro ⟨hname, hnone⟩
      exact .stop hstarted hname (hnone name hname)
    · rintro (⟨hname, hmissing⟩ | ⟨-, hname, hmissing⟩)
      · exact absurd hmissing (hstarted name hname)
      · refine ⟨hname, fun other hother => ?_⟩
        obtain rfl : name = other := Option.some.inj (hname.symm.trans hother)
        exact hmissing
  · -- the start is missing, so it comes first whatever the end is
    simp only [not_forall, not_not] at hstarted
    obtain ⟨first, hfirst, hmissing⟩ := hstarted
    rw [head?_unusable_of_start hfirst hmissing, Option.some.injEq]
    constructor
    · rintro rfl
      exact .start hfirst hmissing
    · rintro (⟨hname, -⟩ | ⟨hstart, -, -⟩)
      · exact Option.some.inj (hfirst.symm.trans hname)
      · exact absurd hmissing (hstart first hfirst)

theorem unusable_eq_nil_iff : sync.unusable anchors = [] ↔ sync.Usable anchors := by
  rw [← List.head?_eq_none_iff, Option.eq_none_iff_forall_ne_some]
  simp only [ne_eq, head?_unusable_iff]
  constructor
  · intro h
    -- the end is reported only after the start, so the start is settled first
    have hstart : ∀ name ∈ sync.startAnchor, Table.get? name anchors ≠ none :=
      fun name hname hmissing => h name (.start hname hmissing)
    refine ⟨hstart, fun name hname => ?_⟩
    by_contra hstop
    simp only [not_exists, not_and, not_not] at hstop
    exact h name (.stop hstart hname hstop)
  · rintro ⟨hstart, hstop⟩ name (⟨hname, hmissing⟩ | ⟨-, hname, hmissing⟩)
    · exact hstart name hname hmissing
    · obtain ⟨anchor, hanchor, hends⟩ := hstop name hname
      exact hends (hmissing anchor hanchor)

/-- Some anchor is the first that cannot be used unless all can be. -/
theorem exists_firstUnusable_iff :
    (∃ name, sync.FirstUnusable anchors name) ↔ ¬sync.Usable anchors := by
  simp only [← head?_unusable_iff, ← unusable_eq_nil_iff, ← List.head?_eq_none_iff,
    Option.ne_none_iff_exists']

/-- All anchors that are named can be used, and none can, just when there are none. -/
theorem hasReference_eq_false_iff :
    sync.hasReference = false ↔ sync.Usable anchors ∧ sync.Unusable anchors := by
  rw [hasReference, Bool.or_eq_false_iff, Option.isSome_eq_false_iff, Option.isSome_eq_false_iff,
    Option.isNone_iff_eq_none, Option.isNone_iff_eq_none]
  constructor
  · rintro ⟨hstart, hstop⟩
    constructor <;> constructor <;> simp [hstart, hstop]
  · rintro ⟨husable, hunusable⟩
    constructor <;> rw [Option.eq_none_iff_forall_ne_some] <;> intro name hname
    · exact husable.1 name hname (hunusable.1 name hname)
    · obtain ⟨anchor, hanchor, hends⟩ := husable.2 name hname
      exact hends (hunusable.2 name hname anchor hanchor)

end Sync

namespace Track

variable {anchors : Table Anchor} {strict : Bool} {track placed : Track}

/-- What the references of a track may be when they have been resolved. -/
def Released (anchors : Table Anchor) (strict : Bool) (track : Track) : Prop :=
  ∀ sync ∈ track.sync, sync.hasReference → strict = false ∧ sync.Unusable anchors

/-! ### Placement -/

/-- The track moved to a start, and to a stop if there is one. -/
def moved (sync : Sync) (start : ℤ) (stop? : Option ℤ) (track : Track) : Track :=
  { track with
    start := start
    duration := (stop?.map (· - start)).or track.duration
    loop := track.loop || stop?.isSome && sync.behavior = .loopToMatch
    sync := none }

section Place

variable {sync : Sync} {start? stop? : Option ℤ}

/-- A track that would start before frame 0 is refused with that frame. -/
theorem place_of_early (h : start?.getD track.start < 0) : track.place sync start? stop? =
    .error (.configuration (.negativeStart (.track track.label) (start?.getD track.start))) := by
  rw [place.eq_def]
  exact if_pos h

/-- A track that would stop before its start is refused with both frames. -/
theorem place_of_inverted {stop : ℤ} (hstart : 0 ≤ start?.getD track.start)
    (hstop : stop < start?.getD track.start) : track.place sync start? (some stop) =
      .error (.configuration
        (.negativeSpan (.track track.label) (start?.getD track.start) stop)) := by
  rw [place.eq_def]
  exact (if_neg (Int.not_lt.mpr hstart)).trans (if_pos hstop)

/-- A track is placed when it neither starts before frame 0 nor stops before it starts. -/
theorem place_of_ordered (hstart : 0 ≤ start?.getD track.start)
    (hstop : ∀ stop ∈ stop?, start?.getD track.start ≤ stop) :
    track.place sync start? stop? = .ok (track.moved sync (start?.getD track.start) stop?) := by
  rw [place.eq_def]
  refine (if_neg (Int.not_lt.mpr hstart)).trans ?_
  rcases stop? with _ | stop
  · simp [moved]
  · refine (if_neg (Int.not_lt.mpr (hstop stop rfl))).trans ?_
    simp [moved]

/-- A track is refused for an early start or for a stop before it, and for nothing else. -/
theorem place_eq_error_iff {failure : Failure} : track.place sync start? stop? = .error failure ↔
    (start?.getD track.start < 0 ∧ failure = .configuration
      (.negativeStart (.track track.label) (start?.getD track.start))) ∨
    (0 ≤ start?.getD track.start ∧ ∃ stop ∈ stop?, stop < start?.getD track.start ∧
      failure = .configuration
        (.negativeSpan (.track track.label) (start?.getD track.start) stop)) := by
  constructor
  · intro h
    -- the stop is looked at only when the start is not before frame 0
    by_cases hstart : start?.getD track.start < 0
    · rw [place_of_early hstart] at h
      cases h
      exact .inl ⟨hstart, rfl⟩
    · rw [Int.not_lt] at hstart
      by_cases hstop : ∀ stop ∈ stop?, start?.getD track.start ≤ stop
      · rw [place_of_ordered hstart hstop] at h
        cases h
      · simp only [not_forall, Int.not_le] at hstop
        obtain ⟨stop, rfl, hstop⟩ := hstop
        rw [place_of_inverted hstart hstop] at h
        cases h
        exact .inr ⟨hstart, stop, rfl, hstop, rfl⟩
  · rintro (⟨hstart, rfl⟩ | ⟨hstart, stop, rfl, hstop, rfl⟩)
    · exact place_of_early hstart
    · exact place_of_inverted hstart hstop

/-- A track that is not refused has been moved to the frames of its anchors. -/
theorem place_eq_ok_iff : track.place sync start? stop? = .ok placed ↔
    0 ≤ start?.getD track.start ∧ (∀ stop ∈ stop?, start?.getD track.start ≤ stop) ∧
      placed = track.moved sync (start?.getD track.start) stop? := by
  constructor
  · intro h
    have hstart : 0 ≤ start?.getD track.start := by
      by_contra hstart
      rw [place_of_early (Int.not_le.mp hstart)] at h
      cases h
    have hstop : ∀ stop ∈ stop?, start?.getD track.start ≤ stop := by
      rintro stop rfl
      by_contra hstop
      rw [place_of_inverted hstart (Int.not_le.mp hstop)] at h
      cases h
    rw [place_of_ordered hstart hstop] at h
    exact ⟨hstart, hstop, (Except.ok.inj h).symm⟩
  · rintro ⟨hstart, hstop, rfl⟩
    exact place_of_ordered hstart hstop

/-- A track that has been placed is valid and has no references left. -/
theorem place_valid (h : track.Valid) (hplaced : track.place sync start? stop? = .ok placed) :
    placed.Valid ∧ placed.sync = none := by
  obtain ⟨hstart, hstop, rfl⟩ := place_eq_ok_iff.mp hplaced
  refine ⟨{ h with start := hstart, duration := ?_ }, rfl⟩
  rcases stop? with _ | stop
  · exact h.duration
  · rintro _ ⟨⟩
    exact Int.sub_nonneg_of_le (hstop stop rfl)

end Place

/-! ### Passes -/

section Pass

variable {sync : Sync}

/-- A strict pass stops at the first reference that cannot be used. -/
theorem resolveSync_of_firstUnusable (hsync : track.sync = some sync) {name : String}
    (hname : sync.FirstUnusable anchors name) :
    resolveSync anchors true track = .error (.unresolved (.anchor name)) := by
  obtain ⟨rest, hlist⟩ := List.head?_eq_some_iff.mp (Sync.head?_unusable_iff.mpr hname)
  rw [resolveSync_eq, hsync]
  dsimp only
  rw [hlist]

variable (hsync : track.sync = some sync) (hlisted : strict = true → sync.Usable anchors)

include hsync hlisted

/-- A track is left as it is when nothing that it refers to can be used. -/
theorem resolveSync_of_unusable (h : sync.Unusable anchors) :
    resolveSync anchors strict track = .ok track := by
  obtain ⟨hstart, hstop⟩ := Sync.unusable_iff.mp h
  rw [← Sync.unusable_eq_nil_iff] at hlisted
  cases strict <;> simp_all [resolveSync_eq]

/-- A track is placed when something that it refers to can be used. -/
theorem resolveSync_of_usable (h : ¬sync.Unusable anchors) : resolveSync anchors strict track =
    track.place sync (sync.startFrame? anchors) (sync.stopFrame? anchors) := by
  rw [← Sync.unusable_eq_nil_iff] at hlisted
  rw [Sync.unusable_iff] at h
  rw [resolveSync_eq, hsync]
  cases strict <;> cases hstart : sync.startFrame? anchors <;>
    cases hstop : sync.stopFrame? anchors <;> simp_all

end Pass

/-- In a strict pass that does not fail, every reference can be used. -/
theorem usable_of_strict {sync : Sync} (hsync : track.sync = some sync)
    (h : resolveSync anchors true track = .ok placed) : sync.Usable anchors := by
  by_contra husable
  obtain ⟨name, hname⟩ := Sync.exists_firstUnusable_iff.mpr husable
  rw [resolveSync_of_firstUnusable hsync hname] at h
  cases h

/-- A track is left as it is when nothing it refers to can be used, and placed otherwise. In a
strict pass nothing is left that refers to an anchor. -/
theorem resolveSync_eq_ok (h : resolveSync anchors strict track = .ok placed) :
    (placed = track ∧ track.Released anchors strict) ∨
      ∃ sync,
        track.place sync (sync.startFrame? anchors) (sync.stopFrame? anchors) = .ok placed := by
  rcases hsync : track.sync with _ | sync
  · rw [resolveSync_eq, hsync] at h
    cases h
    exact .inl ⟨rfl, by simp [Released, hsync]⟩
  · have hlisted : strict = true → sync.Usable anchors := by
      rintro rfl
      exact usable_of_strict hsync h
    -- an anchor that is missing leaves the track as it is, unless the resolution is strict
    by_cases hunusable : sync.Unusable anchors
    · rw [resolveSync_of_unusable hsync hlisted hunusable] at h
      cases h
      refine .inl ⟨rfl, fun other hother hreference => ⟨?_, ?_⟩⟩
      all_goals obtain rfl : sync = other := Option.some.inj (hsync.symm.trans hother)
      · by_contra hstrict
        rw [Bool.not_eq_false] at hstrict
        rw [Sync.hasReference_eq_false_iff.mpr ⟨hlisted hstrict, hunusable⟩] at hreference
        cases hreference
      · exact hunusable
    · rw [resolveSync_of_usable hsync hlisted hunusable] at h
      exact .inr ⟨sync, h⟩

/-! ### Failures -/

/-- The frame at which a track starts: that of its start reference where it can be used, and the one
that is authored otherwise. -/
def startFrame (anchors : Table Anchor) (sync : Sync) (track : Track) : ℤ :=
  (sync.startFrame? anchors).getD track.start

/-- How the references of a track fail it. -/
inductive Fails (anchors : Table Anchor) (strict : Bool) (track : Track) : Failure → Prop
  /-- A strict pass cannot use all of them, and reports the first that it cannot use. -/
  | unusable {sync : Sync} {name : String} (hsync : track.sync = some sync)
      (hstrict : strict = true) (hname : sync.FirstUnusable anchors name) :
      Fails anchors strict track (.unresolved (.anchor name))
  /-- One of them can be used, and the track would start before frame 0, -/
  | start {sync : Sync} (hsync : track.sync = some sync)
      (hlisted : strict = true → sync.Usable anchors) (husable : ¬sync.Unusable anchors)
      (hstart : track.startFrame anchors sync < 0) :
      Fails anchors strict track (.configuration
        (.negativeStart (.track track.label) (track.startFrame anchors sync)))
  /-- or it would stop before it starts. -/
  | span {sync : Sync} {stop : ℤ} (hsync : track.sync = some sync)
      (hlisted : strict = true → sync.Usable anchors) (husable : ¬sync.Unusable anchors)
      (hstart : 0 ≤ track.startFrame anchors sync) (hstop : sync.stopFrame? anchors = some stop)
      (hspan : stop < track.startFrame anchors sync) :
      Fails anchors strict track (.configuration
        (.negativeSpan (.track track.label) (track.startFrame anchors sync) stop))

/-- **A pass over a track fails as its references do**, and otherwise not at all. -/
theorem resolveSync_eq_error_iff {failure : Failure} :
    resolveSync anchors strict track = .error failure ↔ track.Fails anchors strict failure := by
  constructor
  · intro h
    rcases hsync : track.sync with _ | sync
    · rw [resolveSync_eq, hsync] at h
      cases h
    · by_cases hlisted : strict = true → sync.Usable anchors
      · by_cases hunusable : sync.Unusable anchors
        · rw [resolveSync_of_unusable hsync hlisted hunusable] at h
          cases h
        · rw [resolveSync_of_usable hsync hlisted hunusable, place_eq_error_iff] at h
          rcases h with ⟨hstart, rfl⟩ | ⟨hstart, stop, hstop, hspan, rfl⟩
          · exact .start hsync hlisted hunusable hstart
          · exact .span hsync hlisted hunusable hstart hstop hspan
      · -- the pass is strict, so it stops at the head of the list of what cannot be used
        obtain ⟨rfl, husable⟩ := Classical.not_imp.mp hlisted
        obtain ⟨name, hname⟩ := Sync.exists_firstUnusable_iff.mpr husable
        rw [resolveSync_of_firstUnusable hsync hname] at h
        cases h
        exact .unusable hsync rfl hname
  · rintro (⟨hsync, rfl, hname⟩ | ⟨hsync, hlisted, husable, hstart⟩ |
      ⟨hsync, hlisted, husable, hstart, hstop, hspan⟩)
    · exact resolveSync_of_firstUnusable hsync hname
    · rw [resolveSync_of_usable hsync hlisted husable, place_eq_error_iff]
      exact .inl ⟨hstart, rfl⟩
    · rw [resolveSync_of_usable hsync hlisted husable, place_eq_error_iff]
      exact .inr ⟨hstart, _, hstop, hspan, rfl⟩

/-- All tracks are resolved or the first of them fails whose references fail it. -/
theorem resolveAll_eq_error_iff {tracks : List Track}
    {failure : Failure} : resolveAll anchors strict tracks = .error failure ↔
      FirstFailure (Fails anchors strict) tracks failure := by
  rw [resolveAll_eq]
  exact mapM_eq_error_iff fun _ _ _ => resolveSync_eq_error_iff

/-! ### Validity -/

/-- A resolution keeps tracks valid, and releases them as its mode says. -/
theorem resolveSync_valid (h : track.Valid)
    (hplaced : resolveSync anchors strict track = .ok placed) :
    placed.Valid ∧ placed.Released anchors strict := by
  rcases resolveSync_eq_ok hplaced with ⟨rfl, hreleased⟩ | ⟨sync, hplace⟩
  · exact ⟨h, hreleased⟩
  · obtain ⟨hvalid, hnone⟩ := place_valid h hplace
    exact ⟨hvalid, by simp [Released, hnone]⟩

/-- All tracks of a timeline are valid and released. -/
theorem resolveAll_valid {tracks others : List Track} (h : ∀ track ∈ tracks, track.Valid)
    (hothers : resolveAll anchors strict tracks = .ok others) :
    ∀ track ∈ others, track.Valid ∧ track.Released anchors strict := by
  rw [resolveAll_eq, mapM_eq_ok_iff] at hothers
  intro placed hplaced
  obtain ⟨track, htrack, hof⟩ := exists_mem_of_forall₂ hothers hplaced
  exact resolveSync_valid (h track htrack) hof

end Track

end Montage
